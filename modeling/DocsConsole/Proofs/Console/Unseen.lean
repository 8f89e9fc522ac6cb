import DocsConsole.Proofs.Console.Dispatched
import DocsConsole.Proofs.Console.Generated

/-!
# Lists that are not on screen

Once the session is connected the focus goes to the list of repositories, also while there is
nothing generated yet and the list is not shown.  There the focus cannot be moved and no field can
be given the keyboard, but the row under the cursor can still be chosen.  So a key can choose a
repository that is not on screen; nothing else reacts to what the user does before the form for a
pull request is shown.
-/

namespace DocsConsole

namespace GithubPanel

/-- The focus is where it can be before the form for a pull request is shown. -/
def AtEntrance (panel : GithubPanel) : Prop :=
  panel.focus = .token ∨ panel.focus = .repositories

namespace AtEntrance

variable {panel : GithubPanel} (entrance : panel.AtEntrance)

include entrance

theorem congr {other : GithubPanel} (focus : other.focus = panel.focus) : other.AtEntrance := by
  unfold AtEntrance
  rw [focus]
  exact entrance

theorem withFocusShown (visibility : Visibility) :
    (panel.withFocusShown visibility).AtEntrance := by
  unfold GithubPanel.withFocusShown
  split
  · exact Or.inl rfl
  · split
    · exact Or.inr rfl
    · exact entrance.congr rfl

theorem editField (change : TextField → TextField) : (panel.editField change).AtEntrance := by
  unfold GithubPanel.editField
  split <;> exact entrance.congr rfl

theorem edit (change : Edit) : (panel.edit change).1.AtEntrance := by
  unfold GithubPanel.edit
  split
  case h_1 => exact entrance.congr rfl
  case h_2 atTitle =>
    rcases entrance with atToken | atRepositories
    · rw [atToken] at atTitle
      contradiction
    · rw [atRepositories] at atTitle
      contradiction
  case h_3 => exact entrance.editField _

theorem scroll (github : Github) (down : Bool) : (panel.scroll github down).AtEntrance := by
  unfold GithubPanel.scroll
  split <;> exact entrance.congr rfl

/-! The form for a pull request is not shown. -/

variable {visibility : Visibility} (hidden : visibility.pullRequestForm = false)

include hidden

theorem moveFocus (focus : GithubFocus) : (panel.moveFocus visibility focus).AtEntrance := by
  rw [GithubPanel.moveFocus, hidden]
  exact entrance

theorem whileTyping (action : Action) :
    (panel.whileTyping visibility action).1.AtEntrance := by
  cases action with
  | focusNext => exact entrance.moveFocus hidden _
  | focusPrevious => exact entrance.moveFocus hidden _
  | up => exact entrance.editField TextField.up
  | down => exact entrance.editField TextField.down
  | edit change => exact entrance.edit change
  | _ => exact entrance.congr rfl

theorem startEditing (shown : panel.FocusShown visibility) (github : Github) :
    (panel.atRest github visibility .startEditing).1.AtEntrance := by
  simp only [GithubPanel.atRest, hidden, Bool.or_false]
  split
  case isTrue tokenForm =>
    have atToken : panel.focus = .token := shown.token.mpr tokenForm
    apply entrance.congr
    rw [atToken]
    rfl
  case isFalse => exact entrance

theorem atRest (shown : panel.FocusShown visibility) (github : Github) (action : Action) :
    (panel.atRest github visibility action).1.AtEntrance := by
  cases action with
  | focusNext => exact entrance.moveFocus hidden _
  | focusPrevious => exact entrance.moveFocus hidden _
  | startEditing => exact entrance.startEditing hidden shown github
  | up => exact entrance.scroll github false
  | down => exact entrance.scroll github true
  | confirm =>
      simp only [GithubPanel.atRest, GithubPanel.confirm]
      split <;> exact entrance.congr rfl
  | _ => exact entrance

end AtEntrance

theorem handle_atEntrance {panel : GithubPanel} (entrance : panel.AtEntrance) {session : Session}
    (hidden : session.visibility.pullRequestForm = false) (action : Action) :
    (panel.handle session action).1.AtEntrance := by
  have moved : (panel.withFocusShown session.visibility).AtEntrance := entrance.withFocusShown _
  have shown := focusShown_withFocusShown panel session.visibility
  simp only [handle]
  split
  · exact moved.whileTyping hidden action
  · have within : ((panel.withFocusShown session.visibility).withinLists
        session.github).AtEntrance := moved.congr rfl
    have stillShown : ((panel.withFocusShown session.visibility).withinLists
        session.github).FocusShown session.visibility := shown.congr rfl id
    exact within.atRest hidden stillShown session.github action

end GithubPanel

/-! ## Before anything is generated -/

theorem Session.not_pullRequestForm {session : Session} (nothing : session.generated = none) :
    session.visibility.pullRequestForm = false := by
  simp [visibility, nothing]

namespace Console

/-- As long as nothing is generated the focus was never in the form for a pull request. -/
def BeforeForm (console : Console) : Prop :=
  console.session.generated = none → console.github.AtEntrance

variable {console : Console} {moment : Moment} {action : Action}

theorem askPanel_beforeForm (before : console.BeforeForm) (action : Action) :
    (console.askPanel action).1.BeforeForm := by
  unfold askPanel
  split
  · exact before
  · intro nothing
    have hidden := Session.not_pullRequestForm nothing
    exact GithubPanel.handle_atEntrance (before nothing) hidden action
  · exact before

theorem effect_beforeForm (before : console.BeforeForm) :
    (console.effect moment action).BeforeForm := by
  intro nothing
  rw [effect_generated, Option.or_eq_none_iff] at nothing
  have same : (console.effect moment action).github = console.github :=
    congrArg (·.2.1) (console.effect_panels moment action)
  rw [same]
  exact before nothing.right

theorem step_beforeForm (before : console.BeforeForm) :
    (console.step moment action).1.BeforeForm := by
  rcases console.taken_or_swallowed action with taken | ⟨help, passes⟩
  · by_cases quits : action = .quit
    · subst quits
      have stays : (console.step moment .quit).1 = { console with quitting := true } := by
        simp [step, Action.passesHelp]
      rw [stays]
      exact before
    · rw [step_of_taken taken quits]
      have affected : (console.effect moment action).BeforeForm := effect_beforeForm before
      have answered := askPanel_beforeForm affected action
      unfold note
      split <;> exact answered
  · rw [step_of_swallowed help passes]
    exact before

end Console

theorem Dispatched.beforeForm {past : List Action} {console : Console}
    (dispatched : Dispatched past console) : console.BeforeForm := by
  apply dispatched.invariant
  · intro settings workspace _
    exact Or.inl rfl
  · intro console moment action before
    apply Console.handle_keeps _ before
    intro console action before
    exact Console.step_beforeForm before
  · intro console files before
    exact before

/-- Without a repository there are no branches and none is chosen. -/
theorem Run.nothing_of_no_repository {past : List Stage} {console : Console}
    (run : Run past console) (unchosen : console.session.github.repository = none) :
    console.session.github.branches = [] ∧ console.session.github.branch = none := by
  induction run with
  | launched settings workspace moment files qualityFile =>
      rw [(Console.load_sameDealings _ moment files qualityFile).github]
      exact ⟨rfl, rfl⟩
  | next stage run answers induction =>
      rw [stage.after_github] at unchosen ⊢
      cases changes : stage.change with
      | disconnected => exact ⟨rfl, rfl⟩
      | chosen name => exact ⟨rfl, rfl⟩
      | branched repository branches =>
          -- Branches are only taken in for the repository that is chosen.
          rw [changes] at unchosen
          have chosen := (Stage.completed_of_branched changes).left
          have contrary : stage.before.session.github.repository = none := unchosen
          rw [chosen] at contrary
          contradiction
      | branchChosen name =>
          rw [changes] at unchosen
          have unchosenBefore : stage.before.session.github.repository = none := unchosen
          refine ⟨(induction unchosenBefore).left, ?_⟩
          rw [Github.change, unchosenBefore]
          rfl
      | _ =>
          rw [changes] at unchosen
          exact induction unchosen

/-! ## What the user does without the form -/

namespace Console

variable {console : Console}

/-- What the row under the cursor stands for in the list of repositories. -/
def pointedRow? (console : Console) : Option String :=
  GithubPanel.choiceAt console.session.github.repositories
    (min console.github.repositoryCursor console.session.github.repositories.length)

/-- The repository in the row under the cursor, if the row stands for one. -/
def pointedRepository? (console : Console) : Option String :=
  Session.choice console.pointedRow?

section

variable (shown : console.FocusShown) (before : console.BeforeForm)
  (onScreen : console.session.tab = .github)
  (hidden : console.session.visibility.pullRequestForm = false)

include shown before onScreen hidden

/-- Without the form, the focus of a connected panel is on the list that is not shown. -/
theorem focus_of_hidden (connected : console.session.isConnected = true) :
    console.github.focus = .repositories := by
  have unshown : console.session.visibility.tokenForm = false := by
    simp [Session.visibility, connected]
  have nothing : console.session.generated = none := by
    simpa [Session.visibility, connected] using hidden
  have elsewhere : console.github.focus ≠ .token := by
    intro atToken
    have tokenForm := (shown onScreen).token.mp atToken
    rw [unshown] at tokenForm
    contradiction
  exact (before nothing).resolve_left elsewhere

/-- The panel asks for a connection, or for the repository under the cursor. -/
theorem askPanel_asks_of_hidden {action : Action} {request : Request}
    (asks : (console.askPanel action).2 = some request) :
    (console.session.visibility.tokenForm = true ∧
        request = .connect console.github.token.value) ∨
      (console.session.isConnected = true ∧ action = .confirm ∧
        request = .selectRepository console.pointedRow?) := by
  simp only [askPanel, onScreen, GithubPanel.handle, (shown onScreen).withFocusShown_eq] at asks
  split at asks
  case isTrue typing =>
    have editing : console.github.editing = true := (Bool.and_eq_true_iff.mp typing).left
    have tokenForm : console.session.visibility.tokenForm = true := by
      simpa [hidden] using (shown onScreen).editing editing
    have atToken := (shown onScreen).token.mpr tokenForm
    rcases GithubPanel.submit_asks (GithubPanel.whileTyping_asks asks).right with
      ⟨_, asked⟩ | ⟨elsewhere, _⟩
    · exact Or.inl ⟨tokenForm, asked⟩
    · exact (elsewhere atToken).elim
  case isFalse =>
    obtain ⟨confirms, chooses⟩ := GithubPanel.atRest_asks asks
    have elsewhere : console.github.focus ≠ .token := by
      intro atToken
      rcases chooses with ⟨listed, _⟩ | ⟨listed, _⟩ <;>
      · have focused := atToken.symm.trans listed
        contradiction
    have connected : console.session.isConnected = true := by
      simpa [Session.visibility] using mt (shown onScreen).token.mpr elsewhere
    have atRepositories := focus_of_hidden shown before onScreen hidden connected
    rcases chooses with ⟨_, asked⟩ | ⟨atBranches, _⟩
    · exact Or.inr ⟨connected, confirms, asked⟩
    · have focused := atRepositories.symm.trans atBranches
      contradiction

theorem askPanel_confirm_of_hidden (connected : console.session.isConnected = true) :
    (console.askPanel .confirm).2 = some (.selectRepository console.pointedRow?) := by
  have atRepositories := focus_of_hidden shown before onScreen hidden connected
  have atRest : console.github.wantsInput = false := by
    rw [GithubPanel.wantsInput, atRepositories]
    exact Bool.and_false _
  simp only [askPanel, onScreen, GithubPanel.handle, (shown onScreen).withFocusShown_eq, atRest,
    Bool.false_eq_true, if_false, GithubPanel.atRest, GithubPanel.confirm,
    GithubPanel.withinLists, atRepositories]
  rfl

end

end Console

namespace Stage

variable {stage : Stage}

/-- The user chooses the row under the cursor while the session is connected. -/
structure Confirms (stage : Stage) : Prop where
  connected : stage.before.session.isConnected = true
  closed : stage.before.helpOpen = false
  confirms : stage.happening.action? = some .confirm

/-- A stage leaves the choices and the branches as they are, unless the user disconnects, and
starts no call but one for the form that is shown. -/
structure SparesUnseen (stage : Stage) : Prop where
  choices :
    (stage.after.session.github.repository = stage.before.session.github.repository ∧
        stage.after.session.github.branch = stage.before.session.github.branch ∧
        stage.after.session.github.branches = stage.before.session.github.branches) ∨
      (stage.happening.action? = some .disconnect ∧ stage.after.session.github = .empty)
  calls : stage.after.started = stage.before.started ∨
    (stage.before.session.visibility.tokenForm = true ∧
      ∃ token, Session.connectRequest stage.before.github.token.value = .ok token ∧
        stage.Sends (stage.before.session.loading.next, .connect token))

/-- What the terminal reports has no effect on the calls while the tab for quality is not shown,
and none on the connection but to end it. -/
theorem change_of_unasked {mode : InputMode} {event : TerminalEvent}
    (reported : stage.happening = .reported mode event) (unasked : stage.request? = none)
    (onScreen : stage.before.session.tab = .github) :
    (stage.change = .nothing ∨
        (stage.change = .disconnected ∧ stage.happening.action? = some .disconnect)) ∧
      stage.call? = none := by
  cases acts : stage.happening.action? with
  | none => simp [change, call?, unasked, acts]
  | some action =>
      simp only [change, call?, unasked, acts]
      split
      · simp
      · cases action with
        | disconnect =>
            simp only [Action.change, Action.call?]
            split <;> simp
        | analyze => simp [Action.change, Action.call?, onScreen]
        | request asked => exact (Happening.action?_ne_request acts asked rfl).elim
        | completed ticket outcome =>
            have newsless : stage.happening.ticket? = none := by
              rw [reported]
              rfl
            exact (Happening.action?_ne_completed acts newsless ticket outcome rfl).elim
        | _ => simp [Action.change, Action.call?]

section

variable (shown : stage.before.FocusShown) (before : stage.before.BeforeForm)
  (onScreen : stage.before.session.tab = .github)
  (hidden : stage.before.session.visibility.pullRequestForm = false)

include shown before onScreen hidden

theorem request?_of_confirms (confirms : stage.Confirms) :
    stage.request? = some (.selectRepository stage.before.pointedRow?) := by
  have stays : Action.confirm ≠ .quit := by simp
  rw [request?, confirms.confirms, Option.bind_some,
    Console.step_of_taken (Or.inl confirms.closed) stays, Console.effect_of_mayAsk _ rfl]
  exact Console.askPanel_confirm_of_hidden shown before onScreen hidden confirms.connected

theorem call?_of_confirms (confirms : stage.Confirms) :
    stage.call? = stage.before.pointedRepository?.bind fun repository =>
      stage.before.session.token?.map (.listBranches · repository) := by
  rw [call?, request?_of_confirms shown before onScreen hidden confirms]
  rfl

/-- The repository under the cursor is chosen, and its branches are asked for. -/
theorem after_of_confirms (confirms : stage.Confirms) :
    stage.after.session.github =
        { stage.before.session.github with
          repository := stage.before.pointedRepository?, branches := [], branch := none } ∧
      ∀ repository ∈ stage.before.pointedRepository?,
        ∃ token, stage.before.session.token? = some token ∧
          stage.Sends (stage.before.session.loading.next, .listBranches token repository) := by
  constructor
  · rw [after_github, change, request?_of_confirms shown before onScreen hidden confirms]
    rfl
  · intro repository pointed
    obtain ⟨token, held⟩ := Option.isSome_iff_exists.mp confirms.connected
    have sends := stage.after_call?
    rw [call?_of_confirms shown before onScreen hidden confirms, pointed, held] at sends
    exact ⟨token, held, sends.left⟩

/-- Where the row stands for no repository and none is chosen, nothing changes. -/
theorem sparesUnseen_of_confirms (confirms : stage.Confirms)
    (unpointed : stage.before.pointedRepository? = none)
    (unchosen : stage.before.session.github.repository = none)
    (nothing : stage.before.session.github.branches = [] ∧
      stage.before.session.github.branch = none) : stage.SparesUnseen := by
  have github := (after_of_confirms shown before onScreen hidden confirms).left
  have sends := stage.after_call?
  rw [call?_of_confirms shown before onScreen hidden confirms, unpointed] at sends
  refine ⟨Or.inl ?_, Or.inl sends⟩
  rw [github, unpointed, unchosen, nothing.left, nothing.right]
  exact ⟨rfl, rfl, rfl⟩

/-- Otherwise something changes, or a call is started. -/
theorem not_sparesUnseen_of_confirms (confirms : stage.Confirms)
    (reacts : stage.before.pointedRepository? ≠ none ∨
      stage.before.session.github.repository ≠ none) : ¬stage.SparesUnseen := by
  intro spares
  obtain ⟨github, asked⟩ := after_of_confirms shown before onScreen hidden confirms
  cases pointed : stage.before.pointedRepository? with
  | some repository =>
      obtain ⟨token, _, sends⟩ := asked repository pointed
      unfold Sends at sends
      rcases spares.calls with same | ⟨tokenForm, _⟩
      · rw [same] at sends
        simp at sends
      · simp [Session.visibility, confirms.connected] at tokenForm
  | none =>
      have chosen := reacts.resolve_left (absurd pointed)
      rcases spares.choices with ⟨same, _⟩ | ⟨disconnects, _⟩
      · rw [github, pointed] at same
        exact chosen same.symm
      · rw [confirms.confirms] at disconnects
        cases disconnects

theorem sparesUnseen_of_not_confirms {mode : InputMode} {event : TerminalEvent}
    (reported : stage.happening = .reported mode event) (quiet : ¬stage.Confirms) :
    stage.SparesUnseen := by
  have sends := stage.after_call?
  cases asks : stage.request? with
  | none =>
      obtain ⟨changes, calls⟩ := change_of_unasked reported asks onScreen
      rw [calls] at sends
      refine ⟨?_, Or.inl sends⟩
      rw [after_github]
      rcases changes with nothing | ⟨disconnected, acts⟩
      · rw [nothing]
        exact Or.inl ⟨rfl, rfl, rfl⟩
      · rw [disconnected]
        exact Or.inr ⟨acts, rfl⟩
  | some request =>
      obtain ⟨action, acts, steps⟩ := Option.bind_eq_some_iff.mp asks
      obtain ⟨closed, answers, _⟩ := Console.step_of_asks steps
      rcases Console.askPanel_asks_of_hidden shown before onScreen hidden answers with
        ⟨tokenForm, rfl⟩ | ⟨connected, rfl, _⟩
      · have unchanged : stage.after.session.github = stage.before.session.github := by
          rw [after_github, change, asks]
          rfl
        refine ⟨Or.inl (by rw [unchanged]; exact ⟨rfl, rfl, rfl⟩), ?_⟩
        have calls : stage.call? =
            ((Session.connectRequest stage.before.github.token.value).map
              Backend.Call.connect).toOption := by
          rw [call?, asks]
          rfl
        rw [calls] at sends
        cases request : Session.connectRequest stage.before.github.token.value with
        | error refusal =>
            rw [request] at sends
            exact Or.inl sends
        | ok token =>
            rw [request] at sends
            exact Or.inr ⟨tokenForm, token, rfl, sends.left⟩
      · exact (quiet ⟨connected, closed, acts⟩).elim

end

end Stage

/-- While the form for a pull request is not shown, no key and no paste changes the choices or the
branches except by disconnecting, and none starts a call but a connect from the form for a token,
unless it confirms the row under the cursor of the list of repositories while that stands for one or
while one is chosen.  Then that row is chosen although it is not shown, and its branches are asked
for. -/
theorem Run.unseen_lists_react_iff {past : List Stage} {stage : Stage}
    (run : Run past stage.before) (onScreen : stage.before.session.tab = .github)
    (hidden : stage.before.session.visibility.pullRequestForm = false) {mode : InputMode}
    {event : TerminalEvent} (reported : stage.happening = .reported mode event) :
    (stage.SparesUnseen ↔
        ¬(stage.Confirms ∧ (stage.before.pointedRepository? ≠ none ∨
          stage.before.session.github.repository ≠ none))) ∧
      (stage.Confirms →
        stage.after.session.github =
            { stage.before.session.github with
              repository := stage.before.pointedRepository?, branches := [], branch := none } ∧
          ∀ repository ∈ stage.before.pointedRepository?,
            ∃ token, stage.before.session.token? = some token ∧
              stage.Sends
                (stage.before.session.loading.next, .listBranches token repository)) := by
  obtain ⟨actions, dispatched⟩ := run.dispatched
  have shown := dispatched.focusShown
  have before := dispatched.beforeForm
  have chooses := Stage.after_of_confirms shown before onScreen hidden
  refine ⟨⟨?_, ?_⟩, chooses⟩
  · rintro spares ⟨confirms, reacts⟩
    exact Stage.not_sparesUnseen_of_confirms shown before onScreen hidden confirms reacts spares
  · intro unreacting
    by_cases confirms : stage.Confirms
    · -- The row stands for no choice and none is made: the session is written to, but as it was.
      have neither := not_or.mp fun reacts => unreacting ⟨confirms, reacts⟩
      have unpointed := Classical.not_not.mp neither.left
      have unchosen := Classical.not_not.mp neither.right
      exact Stage.sparesUnseen_of_confirms shown before onScreen hidden confirms unpointed unchosen
        (run.nothing_of_no_repository unchosen)
    · exact Stage.sparesUnseen_of_not_confirms shown before onScreen hidden reported confirms

/-- A repository is listed while nothing is generated, and the cursor is moved to it. -/
def Happening.unseenRow : List Happening :=
  [.pressed .shortcuts (.character 'j'),
    .completed 2 (.listRepositories "a") (.ok (.names ["x"])),
    .completed 0 (.connect "a") (.ok (.connection true none))] ++ Happening.twoConnects

/-- Only the key that confirms makes the list react. -/
theorem unseen_lists_react_iff_of_unseenRow :
    let run := replay Happening.unseenRow
    let pressed (key : Key) : Stage := ⟨run.2, .midnight, .pressed .shortcuts key⟩
    Run run.1 run.2 ∧ run.2.session.tab = .github ∧
      run.2.session.visibility.pullRequestForm = false ∧
      ¬(pressed .enter).SparesUnseen ∧ (pressed .down).SparesUnseen ∧
      (pressed (.character 'D')).SparesUnseen := by
  intro run pressed
  have happened : Run run.1 run.2 := Run.of_replay _ (by decide)
  have onScreen : run.2.session.tab = .github := by decide
  have hidden : run.2.session.visibility.pullRequestForm = false := by decide
  have reacts (key : Key) :=
    (@Run.unseen_lists_react_iff _ (pressed key) happened onScreen hidden _ _ rfl).left
  refine ⟨happened, onScreen, hidden, ?_, ?_, ?_⟩
  · intro spares
    exact (reacts .enter).mp spares ⟨⟨by decide, by decide, rfl⟩, by decide⟩
  · apply (reacts .down).mpr
    rintro ⟨confirms, _⟩
    exact nomatch confirms.confirms
  · apply (reacts (.character 'D')).mpr
    rintro ⟨confirms, _⟩
    exact nomatch confirms.confirms

/-- The repository is chosen, and a call for its branches is started, although neither form is
shown. -/
theorem unseen_repository_chosen :
    let run := replay Happening.unseenRow
    let confirmed : Stage := ⟨run.2, .midnight, .pressed .shortcuts .enter⟩
    Run (confirmed :: run.1) confirmed.after ∧ run.2.session.tab = .github ∧
      run.2.session.visibility.tokenForm = false ∧
      run.2.session.visibility.pullRequestForm = false ∧
      run.2.session.github.repository = none ∧
      confirmed.after.session.github.repository = some "x" ∧
      confirmed.after.started = run.2.started ++ [(3, .listBranches "a" "x")] := by
  intro run confirmed
  have happened : Run run.1 run.2 := Run.of_replay _ (by decide)
  exact ⟨.next confirmed happened (by decide), by decide, by decide, by decide, by decide,
    by decide, by decide⟩

end DocsConsole
