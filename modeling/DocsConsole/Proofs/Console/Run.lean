import DocsConsole.Proofs.Console.Effects

/-!
# Runs of the console

A run starts with a console that has loaded the files it was started with.  Then
the terminal reports events, the clock ticks, calls are completed and other programs
change files, in any order and at any time.  A completion answers a call that was
started before and that was not answered yet.  Each step of a run is kept as a stage,
newest first, so a statement about the past is one about a list of stages.
-/

namespace DocsConsole

/-! ## Actions of the terminal -/

/-- Whether an action can come from the terminal. -/
def Action.fromTerminal : Action → Bool
  | .request _ => false
  | .completed _ _ => false
  | .notify _ => false
  | _ => true

namespace KeyPress

theorem letterShortcut_fromTerminal {letter : Char} {action : Action}
    (means : letterShortcut letter = some action) : action.fromTerminal = true := by
  unfold letterShortcut at means
  split at means <;> cases means <;> rfl

theorem shortcut_fromTerminal {key : Key} {action : Action}
    (means : shortcut key = some action) : action.fromTerminal = true := by
  cases key with
  | character letter => exact letterShortcut_fromTerminal means
  | _ => cases means <;> rfl

theorem typed_fromTerminal {key : Key} {action : Action}
    (means : typed key = some action) : action.fromTerminal = true := by
  cases key <;> cases means <;> rfl

theorem typedWithControl_fromTerminal {key : Key} {action : Action}
    (means : typedWithControl key = some action) : action.fromTerminal = true := by
  unfold typedWithControl at means
  split at means <;> cases means <;> rfl

theorem action?_fromTerminal {mode : InputMode} {press : KeyPress} {action : Action}
    (means : press.action? mode = some action) : action.fromTerminal = true := by
  unfold action? at means
  split at means
  · cases means
    rfl
  · cases mode with
    | shortcuts => exact shortcut_fromTerminal means
    | typing =>
        dsimp only at means
        split at means
        · exact typedWithControl_fromTerminal means
        · split at means
          · cases means
            rfl
          · exact typed_fromTerminal means

end KeyPress

theorem TerminalEvent.action?_fromTerminal {mode : InputMode} {event : TerminalEvent}
    {action : Action} (means : event.action? mode = some action) :
    action.fromTerminal = true := by
  cases event with
  | pressed press => exact KeyPress.action?_fromTerminal means
  | pasted text =>
      cases means
      rfl
  | resized =>
      cases means
      rfl
  | released => contradiction
  | focusChanged => contradiction

/-! ## Happenings and stages -/

/-- What happens to a console from outside. -/
inductive Happening where
  /-- The terminal reports an event.  It is read in the mode that was set when it was
  reported, which may have changed until the console handles it. -/
  | reported (mode : InputMode) (event : TerminalEvent)
  | ticked
  /-- A call is completed; the network may have made anything of it. -/
  | completed (ticket : Ticket) (call : Backend.Call)
      (result : Except Backend.CallFailure Backend.Answer)
  /-- Another program changes files. -/
  | filesChanged (files : FileSystem)

namespace Happening

/-- The action that the console handles. -/
def action? : Happening → Option Action
  | .reported mode event => event.action? mode
  | .ticked => some .tick
  | .completed ticket call result => some (.completed ticket (.ofResult call result))
  | .filesChanged _ => none

/-- The ticket that is given back. -/
def ticket? : Happening → Option Ticket
  | .completed ticket _ _ => some ticket
  | _ => none

/-- The token of a connection that the backend has accepted. -/
def acceptedToken? : Happening → Option String
  | .completed _ (.connect token) (.ok (.connection true _)) => some token
  | _ => none

/-- A completion answers a call that was started and is not answered yet. -/
def Answers (started : List (Ticket × Backend.Call)) (answered : List Ticket) :
    Happening → Prop
  | .completed ticket call _ => (ticket, call) ∈ started ∧ ticket ∉ answered
  | _ => True

instance (started : List (Ticket × Backend.Call)) (answered : List Ticket) :
    (happening : Happening) → Decidable (happening.Answers started answered)
  | .completed ticket call _ =>
      inferInstanceAs (Decidable ((ticket, call) ∈ started ∧ ticket ∉ answered))
  | .reported _ _ => instDecidableTrue
  | .ticked => instDecidableTrue
  | .filesChanged _ => instDecidableTrue

end Happening

/-- A step of a run: what happens, when, and to which console. -/
structure Stage where
  before : Console
  moment : Moment
  happening : Happening

namespace Stage

def after (stage : Stage) : Console :=
  match stage.happening.action? with
  | some action => stage.before.handle stage.moment action
  | none =>
      match stage.happening with
      | .filesChanged files => { stage.before with workspace.files := files }
      | _ => stage.before

/-- The tickets that were given back in some stages. -/
def answered (past : List Stage) : List Ticket :=
  past.filterMap (·.happening.ticket?)

end Stage

/-- The stages of a run, newest first, and the console they lead to. -/
inductive Run : List Stage → Console → Prop where
  | launched (settings : Settings) (workspace : Workspace) (moment : Moment)
      (files : List FilePath) (qualityFile : Option FilePath) :
      Run [] ((Console.initial settings workspace).load moment files qualityFile)
  | next {past : List Stage} (stage : Stage) (run : Run past stage.before)
      (answers : stage.happening.Answers stage.before.started (Stage.answered past)) :
      Run (stage :: past) stage.after

namespace Console

/-- Files that the console is started with start no call. -/
theorem handle_addPaths_sameDealings (console : Console) (moment : Moment)
    (paths : List FilePath) (target : IntakeTarget) :
    SameDealings (console.handle moment (.request (.addPaths paths target))) console := by
  rcases console.handled moment (.request (.addPaths paths target)) with
    ⟨_, _, _, same⟩ | ⟨_, _, same⟩ | ⟨request, asking, asks, _, _⟩
  · exact same.sameDealings
  · exact same.sameDealings.trans (console.addPaths_sameDealings moment paths target)
  · rw [step_request] at asks
    contradiction

theorem load_sameDealings (console : Console) (moment : Moment) (files : List FilePath)
    (qualityFile : Option FilePath) :
    SameDealings (console.load moment files qualityFile) console := by
  have loaded : SameDealings
      (if files.isEmpty then console
        else console.handle moment (.request (.addPaths files .documentation))) console := by
    split
    · exact ⟨rfl, rfl, rfl, rfl⟩
    · exact console.handle_addPaths_sameDealings moment files .documentation
  unfold load
  cases qualityFile with
  | none => exact loaded
  | some file => exact (handle_addPaths_sameDealings _ moment [file] .quality).trans loaded

end Console

/-- What leads to a stage of a run, and the stage itself, is a run. -/
theorem Run.of_append {since earlier : List Stage} {stage : Stage} {console : Console}
    (run : Run (since ++ stage :: earlier) console) :
    Run earlier stage.before ∧ Run (stage :: earlier) stage.after := by
  induction since generalizing console with
  | nil =>
      cases run with
      | next stage run answers => exact ⟨run, .next stage run answers⟩
  | cons later since induction =>
      cases run with
      | next later run answers => exact induction run

/-! ## What a stage does -/

def Github.Change.isChoice : Github.Change → Bool
  | .chosen _ => true
  | .branchChosen _ => true
  | _ => false

theorem Request.eq_of_change_chosen {request : Request} {name : Option String}
    (chooses : request.change = .chosen name) : request = .selectRepository name := by
  cases request with
  | selectRepository other =>
      cases chooses
      rfl
  | _ => contradiction

theorem Request.eq_of_change_branchChosen {request : Request} {name : Option String}
    (chooses : request.change = .branchChosen name) : request = .selectBranch name := by
  cases request with
  | selectBranch other =>
      cases chooses
      rfl
  | _ => contradiction

theorem Outcome.change_isChoice (session : Session) (outcome : Outcome) :
    (outcome.change session).isChoice = false := by
  cases outcome with
  | repositoriesLoaded token repositories =>
      simp only [Outcome.change]
      split <;> rfl
  | branchesLoaded repository branches =>
      simp only [Outcome.change]
      split <;> rfl
  | _ => rfl

theorem Action.eq_request_of_isChoice {session : Session} {action : Action}
    (chooses : (action.change session).isChoice = true) :
    ∃ request, action = .request request := by
  cases action with
  | request asked => exact ⟨asked, rfl⟩
  | completed ticket outcome =>
      rw [Action.change, outcome.change_isChoice session] at chooses
      contradiction
  | disconnect =>
      simp only [Action.change] at chooses
      split at chooses <;> contradiction
  | _ => contradiction

/-- The actions from outside come from the terminal or are completions. -/
theorem Happening.fromTerminal_or_completed {happening : Happening} {action : Action}
    (acts : happening.action? = some action) :
    action.fromTerminal = true ∨ ∃ ticket outcome, action = .completed ticket outcome := by
  cases happening with
  | reported mode event => exact .inl (TerminalEvent.action?_fromTerminal acts)
  | ticked =>
      cases acts
      exact .inl rfl
  | completed ticket call result =>
      cases acts
      exact .inr ⟨_, _, rfl⟩
  | filesChanged files => contradiction

theorem Happening.action?_ne_request {happening : Happening} {action : Action}
    (acts : happening.action? = some action) (request : Request) : action ≠ .request request := by
  rintro rfl
  rcases fromTerminal_or_completed acts with terminal | ⟨_, _, same⟩ <;> contradiction

theorem Happening.action?_ne_notify {happening : Happening} {action : Action}
    (acts : happening.action? = some action) (toast : Toast) : action ≠ .notify toast := by
  rintro rfl
  rcases fromTerminal_or_completed acts with terminal | ⟨_, _, same⟩ <;> contradiction

theorem Happening.action?_ne_completed {happening : Happening} {action : Action}
    (acts : happening.action? = some action) (newsless : happening.ticket? = none)
    (ticket : Ticket) (outcome : Outcome) : action ≠ .completed ticket outcome := by
  rintro rfl
  cases happening with
  | reported mode event => exact Bool.noConfusion (TerminalEvent.action?_fromTerminal acts)
  | ticked => simp [action?] at acts
  | completed ticket call result => contradiction
  | filesChanged files => simp [action?] at acts

namespace Stage

variable {stage : Stage}

/-- The request that the panel on screen makes in a stage. -/
def request? (stage : Stage) : Option Request :=
  stage.happening.action?.bind fun action => (stage.before.step stage.moment action).2

/-- The change of the connection in a stage: the one of the panel's request if there
is one, and else the one of the action unless help takes it. -/
def change (stage : Stage) : Github.Change :=
  match stage.request?, stage.happening.action? with
  | some request, _ => request.change
  | none, some action =>
      if stage.before.helpOpen && !action.passesHelp then .nothing
      else action.change stage.before.session
  | none, none => .nothing

/-- The call that a stage starts: the one of the panel's request if there is one, and else
the one of the action unless help takes it. -/
def call? (stage : Stage) : Option Backend.Call :=
  match stage.request?, stage.happening.action? with
  | some request, _ => request.call? stage.before.session
  | none, some action =>
      if stage.before.helpOpen && !action.passesHelp then none
      else action.call? stage.before.session
  | none, none => none

theorem after_eq_handle {action : Action} (acts : stage.happening.action? = some action) :
    stage.after = stage.before.handle stage.moment action := by
  rw [after, acts]

/-- Without an action the session and the calls stay as they are. -/
theorem after_sameDealings_of_no_action (idle : stage.happening.action? = none) :
    stage.after.SameDealings stage.before := by
  rw [after, idle]
  dsimp only
  split <;> exact ⟨rfl, rfl, rfl, rfl⟩

/-- The connection after a run is made by the changes of its stages. -/
theorem after_github (stage : Stage) :
    stage.after.session.github = stage.before.session.github.change stage.change := by
  cases acts : stage.happening.action? with
  | none =>
      have nothing : stage.change = .nothing := by
        simp [change, request?, acts]
      rw [nothing]
      exact (after_sameDealings_of_no_action acts).github
  | some action =>
      rw [after_eq_handle acts]
      rcases stage.before.handled stage.moment action with
        ⟨help, passes, asks, same⟩ | ⟨taken, asks, same⟩ | ⟨request, asking, asks, unchanged, same⟩
      · have nothing : stage.change = .nothing := by
          simp [change, request?, acts, asks, help, passes]
        rw [nothing]
        exact same.sameDealings.github
      · have own : stage.change = action.change stage.before.session := by
          rcases taken with closed | passes
          · simp [change, request?, acts, asks, closed]
          · simp [change, request?, acts, asks, passes]
        rw [own, ← Console.effect_github stage.before stage.moment action]
        exact same.sameDealings.github
      · have asked : stage.change = request.change := by
          simp [change, request?, acts, asks]
        rw [asked, ← unchanged.sameDealings.github, ← Console.fulfil_github asking stage.moment]
        exact same.sameDealings.github

/-- Only a request of the panel is a choice. -/
theorem request?_of_isChoice (chooses : stage.change.isChoice = true) :
    ∃ request, stage.request? = some request ∧ stage.change = request.change := by
  cases asks : stage.request? with
  | some request => exact ⟨request, rfl, by simp [change, asks]⟩
  | none =>
      cases acts : stage.happening.action? with
      | none =>
          simp only [change, asks, acts] at chooses
          contradiction
      | some action =>
          simp only [change, asks, acts] at chooses
          split at chooses
          · contradiction
          · obtain ⟨request, asked⟩ := Action.eq_request_of_isChoice chooses
            exact (Happening.action?_ne_request acts request asked).elim

theorem request?_of_chosen {name : Option String} (chooses : stage.change = .chosen name) :
    stage.request? = some (.selectRepository name) := by
  have isChoice : stage.change.isChoice = true := by
    rw [chooses]
    rfl
  obtain ⟨request, asks, same⟩ := request?_of_isChoice isChoice
  rw [asks, Request.eq_of_change_chosen (same.symm.trans chooses)]

theorem request?_of_branchChosen {name : Option String}
    (chooses : stage.change = .branchChosen name) :
    stage.request? = some (.selectBranch name) := by
  have isChoice : stage.change.isChoice = true := by
    rw [chooses]
    rfl
  obtain ⟨request, asks, same⟩ := request?_of_isChoice isChoice
  rw [asks, Request.eq_of_change_branchChosen (same.symm.trans chooses)]

/-- A repository is only chosen while the session is connected. -/
theorem connected_of_chosen {name : Option String} (chooses : stage.change = .chosen name) :
    stage.before.session.isConnected = true := by
  obtain ⟨action, _, asks⟩ := Option.bind_eq_some_iff.mp (request?_of_chosen chooses)
  exact Console.askPanel_asks_repository (Console.step_of_asks asks).2.1

/-- A stage that completes no call starts its own one, if it has one. -/
theorem after_starts (newsless : stage.happening.ticket? = none) :
    Console.Starts stage.before stage.after stage.call? := by
  cases acts : stage.happening.action? with
  | none =>
      have nothing : stage.call? = none := by simp [call?, request?, acts]
      rw [nothing]
      exact (after_sameDealings_of_no_action acts).starts
  | some action =>
      rw [after_eq_handle acts]
      rcases stage.before.handled stage.moment action with
        ⟨help, passes, asks, same⟩ | ⟨taken, asks, same⟩ | ⟨request, asking, asks, unchanged, same⟩
      · have nothing : stage.call? = none := by
          simp [call?, request?, acts, asks, help, passes]
        rw [nothing]
        exact same.sameDealings.starts
      · have own : stage.call? = action.call? stage.before.session := by
          rcases taken with closed | passes
          · simp [call?, request?, acts, asks, closed]
          · simp [call?, request?, acts, asks, passes]
        rw [own]
        have starts := Console.effect_starts stage.before stage.moment
          (Happening.action?_ne_completed acts newsless)
        exact starts.of_sameDealings_right same.sameDealings
      · have asked : stage.call? = request.call? stage.before.session := by
          simp [call?, request?, acts, asks]
        have agreed := unchanged.sameDealings
        rw [asked, ← unchanged.session]
        exact ((asking.fulfil_starts stage.moment request).of_sameDealings_right
          same.sameDealings).of_same_calls agreed.loading agreed.started

/-- A completion takes back its ticket, and then starts what follows from it. -/
theorem after_starts_of_completed {ticket : Ticket} {call : Backend.Call}
    {result : Except Backend.CallFailure Backend.Answer}
    (happens : stage.happening = .completed ticket call result) :
    Console.Starts (stage.before.released ticket) stage.after
      (Outcome.ofResult call result).followUp? := by
  have acts : stage.happening.action? =
      some (.completed ticket (Outcome.ofResult call result)) := by
    rw [happens]
    rfl
  rw [after_eq_handle acts]
  rcases stage.before.handled stage.moment (.completed ticket (Outcome.ofResult call result)) with
    ⟨_, swallowed, _, _⟩ | ⟨_, _, same⟩ | ⟨request, asking, asks, _, _⟩
  · contradiction
  · exact (Console.conclude_starts _ stage.moment _).of_sameDealings_right same.sameDealings
  · have mayAsk := (Console.askPanel_asks (Console.step_of_asks asks).2.1).1
    contradiction

end Stage

/-! ## Replaying a run -/

def Moment.midnight : Moment := ⟨0, ⟨0, 0, 0⟩⟩

/-- The stages and the console that happenings, newest first, make of a console that
was started with standard settings and without files. -/
def replay : List Happening → List Stage × Console
  | [] => ([], (Console.initial .standard ⟨⟨[], []⟩, ""⟩).load .midnight [] none)
  | happening :: past =>
      let stage : Stage := ⟨(replay past).2, .midnight, happening⟩
      (stage :: (replay past).1, stage.after)

/-- Whether every completion among some happenings answers an open call. -/
def lawful : List Happening → Bool
  | [] => true
  | happening :: past =>
      decide (happening.Answers (replay past).2.started (Stage.answered (replay past).1)) &&
        lawful past

theorem Run.of_replay (happenings : List Happening) (answers : lawful happenings = true) :
    Run (replay happenings).1 (replay happenings).2 := by
  induction happenings with
  | nil => exact .launched .standard ⟨⟨[], []⟩, ""⟩ .midnight [] none
  | cons happening past induction =>
      simp only [lawful, Bool.and_eq_true, decide_eq_true_eq] at answers
      exact .next ⟨_, .midnight, happening⟩ (induction answers.2) answers.1

/-- A key is pressed alone. -/
def Happening.pressed (mode : InputMode) (key : Key) : Happening :=
  .reported mode (.pressed ⟨key, false, false⟩)

/-- On the tab for pull requests a token is typed and submitted, then another letter is
added to it and it is submitted again. -/
def Happening.twoConnects : List Happening :=
  [.pressed .typing .enter, .pressed .typing (.character 'b'),
    .pressed .shortcuts (.character 'e'), .pressed .typing .enter,
    .pressed .typing (.character 'a'), .pressed .shortcuts (.character 'e'),
    .pressed .shortcuts (.character '2')]

end DocsConsole
