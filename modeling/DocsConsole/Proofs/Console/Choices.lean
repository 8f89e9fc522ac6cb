import DocsConsole.Proofs.Console.Ownership

/-!
# Choices and the lists they were made from

A repository and a branch are chosen from the lists that are shown.  A list that is kept later
replaces the one before, and the choice stays.  So a choice is among the entries that are shown
as long as each list that is kept since then has it, and no longer.
-/

namespace DocsConsole

/-! ## What the panel asks for -/

namespace GithubPanel

theorem mem_of_choiceAt {entries : List String} {place : Nat} {name : String}
    (chosen : Session.choice (choiceAt entries place) = some name) : name ∈ entries := by
  have found : choiceAt entries place = some name := (Option.filter_eq_some_iff.mp chosen).1
  cases place with
  | zero => contradiction
  | succ place => exact List.mem_of_getElem? found

/-- A repository or a branch is only asked for from the list that is shown. -/
theorem handle_asks_choice {panel : GithubPanel} {session : Session} {action : Action}
    {request : Request} (asks : (panel.handle session action).2 = some request) :
    (∀ name, request = .selectRepository name →
        ∃ place, name = choiceAt session.github.repositories place) ∧
      ∀ name, request = .selectBranch name →
        ∃ place, name = choiceAt session.github.branches place := by
  simp only [handle] at asks
  split at asks
  · obtain ⟨_, submits⟩ := whileTyping_asks asks
    rcases submit_asks submits with ⟨_, rfl⟩ | ⟨_, rfl⟩
    · simp
    · simp
  · obtain ⟨_, ⟨_, rfl⟩ | ⟨_, rfl⟩⟩ := atRest_asks asks
    · refine ⟨?_, by simp⟩
      intro name same
      cases same
      exact ⟨_, rfl⟩
    · refine ⟨by simp, ?_⟩
      intro name same
      cases same
      exact ⟨_, rfl⟩

end GithubPanel

namespace Stage

variable {stage : Stage}

theorem asks_of_request? {request : Request} (asks : stage.request? = some request)
    (belongs : request.tab = .github) :
    ∃ action, (stage.before.github.handle stage.before.session action).2 = some request := by
  obtain ⟨action, _, asked⟩ := Option.bind_eq_some_iff.mp asks
  have answered := (Console.step_of_asks asked).2.1
  have shown := (Console.askPanel_asks answered).2
  rw [belongs] at shown
  simp only [Console.askPanel, ← shown] at answered
  exact ⟨action, answered⟩

theorem mem_of_chosen {choice : Option String} {name : String}
    (chooses : stage.change = .chosen choice) (chosen : Session.choice choice = some name) :
    name ∈ stage.before.session.github.repositories := by
  obtain ⟨action, asks⟩ := asks_of_request? (request?_of_chosen chooses) rfl
  obtain ⟨place, rfl⟩ := (GithubPanel.handle_asks_choice asks).1 choice rfl
  exact GithubPanel.mem_of_choiceAt chosen

theorem mem_of_branchChosen {choice : Option String} {name : String}
    (chooses : stage.change = .branchChosen choice) (chosen : Session.choice choice = some name) :
    name ∈ stage.before.session.github.branches := by
  obtain ⟨action, asks⟩ := asks_of_request? (request?_of_branchChosen chooses) rfl
  obtain ⟨place, rfl⟩ := (GithubPanel.handle_asks_choice asks).2 choice rfl
  exact GithubPanel.mem_of_choiceAt chosen

end Stage

/-! ## Branches in a stage -/

namespace Github.Change

/-- The branches that are kept. -/
def branching? : Github.Change → Option (List String)
  | .branched _ branches => some branches
  | _ => none

/-- The choice of a branch, which is none without a repository. -/
def branchChoice? (github : Github) : Github.Change → Option (Option String)
  | .branchChosen name => some (if github.repository.isSome then Session.choice name else none)
  | _ => none

end Github.Change

namespace Stage

/-- The list of branches that is kept in a stage.  It is kept if it is about the chosen
repository. -/
def branching? (stage : Stage) : Option (List String) :=
  match stage.happening with
  | .completed _ (.listBranches _ repository) (.ok (.names branches)) =>
      if stage.before.session.wantsBranches repository then some branches else none
  | _ => none

/-- The choice of a branch in a stage.  Without a repository there is none to choose. -/
def branchChoice? (stage : Stage) : Option (Option String) :=
  match stage.request? with
  | some (.selectBranch name) =>
      some (if stage.before.session.github.repository.isSome then Session.choice name else none)
  | _ => none

theorem branching?_eq (stage : Stage) : stage.branching? = stage.change.branching? := by
  unfold branching?
  split
  case h_1 ticket token repository branches happens =>
    rw [change_of_completed happens]
    by_cases wanted : stage.before.session.wantsBranches repository = true <;>
      simp [Outcome.ofResult, Outcome.change, wanted, Github.Change.branching?]
  case h_2 other =>
    cases changes : stage.change with
    | branched repository branches =>
        obtain ⟨_, ticket, token, happens⟩ := completed_of_branched changes
        exact (other ticket token repository branches happens).elim
    | _ => rfl

theorem branchChoice?_eq (stage : Stage) :
    stage.branchChoice? = stage.change.branchChoice? stage.before.session.github := by
  unfold branchChoice?
  split
  case h_1 name asks =>
    have chooses : stage.change = .branchChosen name := by simp [change, asks, Request.change]
    rw [chooses]
    rfl
  case h_2 unasked =>
    cases changes : stage.change with
    | branchChosen name => exact (unasked name (request?_of_branchChosen changes)).elim
    | _ => rfl

end Stage

/-! ## Lists to choose from -/

/-- A list that the user chooses an entry from. -/
inductive Menu where
  | repositories
  | branches
deriving DecidableEq

namespace Menu

/-- The entries that are shown. -/
def entries : Menu → Github → List String
  | repositories, github => github.repositories
  | branches, github => github.branches

def chosen : Menu → Github → Option String
  | repositories, github => github.repository
  | branches, github => github.branch

/-- The list that is kept in a stage. -/
def listing? : Menu → Stage → Option (List String)
  | repositories, stage => stage.listing?.map (·.2)
  | branches, stage => stage.branching?

/-- The choice that is made in a stage. -/
def choice? : Menu → Stage → Option (Option String)
  | repositories, stage => stage.choice?.map (·.1)
  | branches, stage => stage.branchChoice?

/-- What a stage does with a list and with the choice from it. -/
inductive Step (menu : Menu) (stage : Stage) : Prop where
  | unchanged (unlisted : menu.listing? stage = none) (unmade : menu.choice? stage = none)
      (entries : menu.entries stage.after.session.github =
        menu.entries stage.before.session.github)
      (chosen : menu.chosen stage.after.session.github = menu.chosen stage.before.session.github)
  /-- Another list is kept, and the choice stays. -/
  | listed (lists : menu.listing? stage = some (menu.entries stage.after.session.github))
      (unmade : menu.choice? stage = none)
      (chosen : menu.chosen stage.after.session.github = menu.chosen stage.before.session.github)
  /-- An entry of the list is chosen, or none. -/
  | chose (unlisted : menu.listing? stage = none)
      (makes : menu.choice? stage = some (menu.chosen stage.after.session.github))
      (entries : menu.entries stage.after.session.github =
        menu.entries stage.before.session.github)
      (among : ∀ name ∈ menu.chosen stage.after.session.github,
        name ∈ menu.entries stage.before.session.github)
  /-- The choice is dropped together with what the list was about. -/
  | dropped (unlisted : menu.listing? stage = none)
      (chosen : menu.chosen stage.after.session.github = none)

/-- Every stage does one of these to a list. -/
theorem step (menu : Menu) (stage : Stage) : menu.Step stage := by
  cases menu with
  | repositories =>
      have lists : repositories.listing? stage = stage.change.listing?.map (·.2) := by
        rw [listing?, stage.listing?_eq]
      have makes : repositories.choice? stage = stage.change.choice? := by
        simp [choice?, stage.choice?_eq, Option.map_map, Function.comp_def]
      have after := stage.after_github
      cases changes : stage.change with
      | disconnected =>
          rw [changes] at lists after
          exact .dropped lists (by rw [after]; rfl)
      | listed token names =>
          rw [changes] at lists makes after
          exact .listed (by rw [lists, after]; rfl) makes (by rw [after]; rfl)
      | chosen name =>
          rw [changes] at lists makes after
          refine .chose lists (by rw [makes, after]; rfl) (by rw [after]; rfl) ?_
          rw [after]
          exact fun chosen among => stage.mem_of_chosen changes among
      | _ =>
          rw [changes] at lists makes after
          exact .unchanged lists makes (by rw [after]; rfl) (by rw [after]; rfl)
  | branches =>
      have lists : branches.listing? stage = stage.change.branching? := stage.branching?_eq
      have makes : branches.choice? stage =
          stage.change.branchChoice? stage.before.session.github := stage.branchChoice?_eq
      have after := stage.after_github
      cases changes : stage.change with
      | disconnected =>
          rw [changes] at lists after
          exact .dropped lists (by rw [after]; rfl)
      | chosen name =>
          -- The branches go with the repository that they were listed for.
          rw [changes] at lists after
          exact .dropped lists (by rw [after]; rfl)
      | branched repository names =>
          rw [changes] at lists makes after
          exact .listed (by rw [lists, after]; rfl) makes (by rw [after]; rfl)
      | branchChosen name =>
          rw [changes] at lists makes after
          refine .chose lists (by rw [makes, after]; rfl) (by rw [after]; rfl) ?_
          rw [after]
          intro chosen among
          simp only [Menu.chosen, Github.change] at among
          split at among
          · exact stage.mem_of_branchChosen changes among
          · contradiction
      | _ =>
          rw [changes] at lists makes after
          exact .unchanged lists makes (by rw [after]; rfl) (by rw [after]; rfl)

/-- Another list is kept that does not have the chosen entry. -/
def Unlists (menu : Menu) (stage : Stage) : Prop :=
  ∃ names ∈ menu.listing? stage, ∃ name ∈ menu.chosen stage.before.session.github, name ∉ names

instance (menu : Menu) (stage : Stage) : Decidable (menu.Unlists stage) :=
  inferInstanceAs (Decidable (∃ names ∈ menu.listing? stage, ∃ name ∈ _, name ∉ names))

instance (p : Menu → Prop) [DecidablePred p] : Decidable (∀ menu, p menu) :=
  decidable_of_iff (p repositories ∧ p branches)
    ⟨fun ⟨first, second⟩ menu => by cases menu <;> assumption,
      fun all => ⟨all repositories, all branches⟩⟩

/-- An entry was chosen from its list in some stage and nothing else since then, and it is
listed now if and only if the last list that was kept since then has it. -/
def Picked (menu : Menu) (past : List Stage) (github : Github) (name : String) : Prop :=
  ∃ since choosing earlier, past = since ++ choosing :: earlier ∧
    menu.choice? choosing = some (some name) ∧
    name ∈ menu.entries choosing.before.session.github ∧
    (∀ stage ∈ since, menu.choice? stage = none) ∧
    (name ∈ menu.entries github ↔ ∀ names ∈ since.findSome? menu.listing?, name ∈ names)

end Menu

/-- Whatever is chosen is in the list that is shown. -/
def Github.ShowsChoices (github : Github) : Prop :=
  ∀ (menu : Menu), ∀ name ∈ menu.chosen github, name ∈ menu.entries github

/-- A stage keeps choices in their lists if it keeps no list without the chosen entry. -/
theorem Stage.after_showsChoices {stage : Stage}
    (shown : stage.before.session.github.ShowsChoices) :
    stage.after.session.github.ShowsChoices ↔ ∀ menu : Menu, ¬menu.Unlists stage := by
  constructor
  · intro after menu ⟨names, lists, name, chosen, missing⟩
    cases menu.step stage with
    | unchanged unlisted => simp [unlisted] at lists
    | listed lists' _ same =>
        rw [lists'] at lists
        cases lists
        exact missing (after menu name (same ▸ chosen))
    | chose unlisted => simp [unlisted] at lists
    | dropped unlisted => simp [unlisted] at lists
  · intro listed menu name chosen
    cases menu.step stage with
    | unchanged _ _ entries same =>
        rw [entries]
        exact shown menu name (same ▸ chosen)
    | listed lists _ same =>
        by_contra missing
        exact listed menu ⟨_, lists, name, same ▸ chosen, missing⟩
    | chose _ _ entries among =>
        rw [entries]
        exact among name chosen
    | dropped _ nothing =>
        rw [nothing] at chosen
        contradiction

theorem Menu.chosen_launched (menu : Menu) (settings : Settings) (workspace : Workspace)
    (moment : Moment) (files : List FilePath) (qualityFile : Option FilePath) :
    menu.chosen ((Console.initial settings workspace).load moment files qualityFile).session.github =
      none := by
  rw [(Console.load_sameDealings _ moment files qualityFile).github]
  cases menu <;> rfl

namespace Run

variable {past : List Stage} {console : Console}

/-- What is chosen in a state of a run was picked from its list. -/
theorem picked (run : Run past console) (menu : Menu) {name : String}
    (chosen : menu.chosen console.session.github = some name) :
    menu.Picked past console.session.github name := by
  induction run with
  | launched settings workspace moment files qualityFile =>
      rw [menu.chosen_launched] at chosen
      contradiction
  | @next past stage run answers induction =>
      cases menu.step stage with
      | unchanged unlisted unmade entries same =>
          obtain ⟨since, choosing, earlier, division, made, among, unchosen, listed⟩ :=
            induction (same ▸ chosen)
          refine ⟨stage :: since, choosing, earlier, by rw [division]; rfl, made, among,
            List.forall_mem_cons.mpr ⟨unmade, unchosen⟩, ?_⟩
          rw [entries, listed, List.findSome?_cons, unlisted]
      | listed lists unmade same =>
          obtain ⟨since, choosing, earlier, division, made, among, unchosen, _⟩ :=
            induction (same ▸ chosen)
          refine ⟨stage :: since, choosing, earlier, by rw [division]; rfl, made, among,
            List.forall_mem_cons.mpr ⟨unmade, unchosen⟩, ?_⟩
          rw [List.findSome?_cons, lists]
          simp
      | chose unlisted makes entries among =>
          rw [chosen] at makes
          have listed := among name chosen
          refine ⟨[], stage, past, rfl, makes, listed, by simp, ?_⟩
          rw [entries]
          simp [listed]
      | dropped unlisted nothing =>
          rw [nothing] at chosen
          contradiction

/-- Choices are shown in every state of a run in which no stage keeps a list without the chosen
entry. -/
theorem showsChoices (run : Run past console)
    (listed : ∀ stage ∈ past, ∀ menu : Menu, ¬menu.Unlists stage) :
    console.session.github.ShowsChoices := by
  induction run with
  | launched settings workspace moment files qualityFile =>
      intro menu name chosen
      rw [menu.chosen_launched] at chosen
      contradiction
  | next stage run answers induction =>
      have earlier := induction fun stage member => listed stage (List.mem_cons_of_mem _ member)
      exact (Stage.after_showsChoices earlier).mpr (listed stage List.mem_cons_self)

/-- In every state of a run the chosen repository and the chosen branch are among the listed
ones, if and only if no list is kept in the run that does not have the chosen entry.  A pull
request is opened for a repository and a branch that were picked from their lists; they are
still listed then if the last list that was kept since has them, and if no list without the
chosen entry is kept, that is always so. -/
theorem choices_shown_iff (run : Run past console) :
    ((∀ earlier visited, earlier <:+ past → Run earlier visited →
        visited.session.github.ShowsChoices) ↔
      ∀ stage ∈ past, ∀ menu : Menu, ¬menu.Unlists stage) ∧
    ∀ ticket token draft, (ticket, .openPullRequest token draft) ∈ console.started →
      ∃ since sent before, past = since ++ sent :: before ∧
        sent.Sends (ticket, .openPullRequest token draft) ∧
        Menu.repositories.Picked (sent :: before) sent.after.session.github draft.repository ∧
        Menu.branches.Picked (sent :: before) sent.after.session.github draft.branch ∧
        ((∀ stage ∈ past, ∀ menu : Menu, ¬menu.Unlists stage) →
          draft.repository ∈ sent.after.session.github.repositories ∧
            draft.branch ∈ sent.after.session.github.branches) := by
  constructor
  · constructor
    · intro always stage member
      obtain ⟨since, earlier, division⟩ := List.append_of_mem member
      rw [division] at run
      obtain ⟨before, after⟩ := run.of_append
      have shown := always earlier stage.before ⟨since ++ [stage], by simp [division]⟩ before
      exact (Stage.after_showsChoices shown).mp
        (always (stage :: earlier) stage.after ⟨since, division.symm⟩ after)
    · intro listed earlier visited suffix visit
      exact visit.showsChoices fun stage member => listed stage (suffix.subset member)
  · intro ticket token draft started
    obtain ⟨since, sent, before, division, sends, _, repository, branch⟩ := run.sent started
    rw [division] at run
    have sending := run.of_append.2
    refine ⟨since, sent, before, division, sends, sending.picked .repositories repository,
      sending.picked .branches branch, ?_⟩
    intro listed
    rw [division] at listed
    have shown := sending.showsChoices fun stage member =>
      listed stage (List.mem_append_right since member)
    exact ⟨shown .repositories _ repository, shown .branches _ branch⟩

end Run

/-- A pull request for the repository and the branch that are listed. -/
theorem choices_shown_of_submissionAfterSecond :
    let run := replay Happening.submissionAfterSecond
    Run run.1 run.2 ∧ (6, .openPullRequest "ab" .forFirst) ∈ run.2.started ∧
      run.2.session.github.ShowsChoices ∧
      ∃ since sent before, run.1 = since ++ sent :: before ∧
        sent.Sends (6, .openPullRequest "ab" .forFirst) ∧
        "x" ∈ sent.after.session.github.repositories ∧
        "m" ∈ sent.after.session.github.branches := by
  intro run
  have happened : Run run.1 run.2 := Run.of_replay _ (by decide +kernel)
  have started : (6, .openPullRequest "ab" .forFirst) ∈ run.2.started := by decide +kernel
  have listed : ∀ stage ∈ run.1, ∀ menu : Menu, ¬menu.Unlists stage := by decide +kernel
  obtain ⟨always, opened⟩ := happened.choices_shown_iff
  obtain ⟨since, sent, before, division, sends, _, _, shown⟩ := opened _ _ _ started
  exact ⟨happened, started, always.mpr listed _ _ (List.suffix_refl _) happened,
    since, sent, before, division, sends, shown listed⟩

/-- Comments are generated for a file.  One token is submitted twice, and both calls are
accepted, so the repositories are asked for twice.  A repository of the first answer is chosen
twice, so its branches are asked for twice, and a branch of the first answer is chosen.  Then
the second answers come, and the form is submitted. -/
def Happening.secondAnswers : List Happening :=
  [.reported .typing (.pressed ⟨.character 's', true, false⟩),
    .completed 6 (.listBranches "a" "x") (.ok (.names ["n"])),
    .completed 4 (.listRepositories "a") (.ok (.names ["y"])),
    .pressed .typing (.character 'u'), .pressed .typing .tab, .pressed .typing .tab,
    .pressed .typing (.character 't'), .pressed .shortcuts (.character 'e'),
    .pressed .shortcuts .tab, .pressed .shortcuts .enter, .pressed .shortcuts (.character 'j'),
    .pressed .shortcuts .tab,
    .completed 5 (.listBranches "a" "x") (.ok (.names ["m"])),
    .pressed .shortcuts .enter, .pressed .shortcuts .enter, .pressed .shortcuts (.character 'j'),
    .completed 3 (.listRepositories "a") (.ok (.names ["x"])),
    .completed 2 (.connect "a") (.ok (.connection true none)),
    .completed 1 (.connect "a") (.ok (.connection true none)),
    .pressed .typing .enter, .pressed .shortcuts (.character 'e'), .pressed .typing .enter,
    .pressed .typing (.character 'a'), .pressed .shortcuts (.character 'e'),
    .pressed .shortcuts (.character '2'),
    .completed 0 (.generateDocs ⟨[⟨"f", "/f", ⟨#[]⟩⟩], .inlineComments, "", ""⟩)
      (.ok (.content "c")),
    .pressed .shortcuts (.character 'g'), .pressed .shortcuts (.character 'p'),
    .reported .shortcuts (.pasted "/f"), .filesChanged ⟨[(["f"], .file ⟨#[]⟩)], []⟩]

/-- The repository and the branch stay chosen when they are no longer listed, and a pull request
goes there. -/
theorem second_answers_keep_choices :
    let run := replay Happening.secondAnswers
    Run run.1 run.2 ∧ run.2.session.github.repositories = ["y"] ∧
      run.2.session.github.repository = some "x" ∧ run.2.session.github.branches = ["n"] ∧
      run.2.session.github.branch = some "m" ∧
      (7, .openPullRequest "a" .forFirst) ∈ run.2.started ∧
      ¬run.2.session.github.ShowsChoices := by
  intro run
  have chosen : run.2.session.github.repository = some "x" := by decide +kernel
  have listed : run.2.session.github.repositories = ["y"] := by decide +kernel
  refine ⟨Run.of_replay _ (by decide +kernel), listed, chosen, by decide +kernel,
    by decide +kernel, by decide +kernel, ?_⟩
  intro shown
  have among : "x" ∈ run.2.session.github.repositories := shown .repositories "x" chosen
  rw [listed] at among
  exact absurd among (by decide)

end DocsConsole
