import DocsConsole.Proofs.Console.Focus

/-!
# Calls that fail

A call that fails is told and changes nothing else: its ticket is taken back, and what
the user has typed stays as it is, with the cursor where it was.  The completion still
reaches the panel on screen, which looks up suggestions again, keeps its cursors within
their lists and moves its focus to what is shown.  None of that touches a field, because
the focus is on something that is shown already.
-/

namespace DocsConsole

/-- What the user is told when a call has failed: what the backend has said about a
refusal, and else what was not done. -/
def Outcome.failureText? : Outcome → Option String
  | .generationFailed => some "Failed to generate documentation"
  | .analysisFailed => some "Failed to analyze code quality"
  | .connectionRefused reason => some (reason.getD "Failed to connect to GitHub")
  | .connectionFailed => some "Failed to connect to GitHub"
  | .repositoriesFailed => some "Failed to load repositories"
  | .branchesFailed => some "Failed to load branches"
  | .pullRequestRefused reason => some (reason.getD "Failed to create pull request")
  | .pullRequestFailed => some "Failed to create pull request"
  | _ => none

theorem Console.conclude_of_failure {outcome : Outcome} {text : String}
    (fails : outcome.failureText? = some text) (console : Console) (moment : Moment) :
    console.conclude moment outcome = console.notify moment .error text := by
  cases outcome <;> cases fails <;> rfl

/-! ## What the user is working on -/

/-- What the user is working on in a panel. -/
structure Form (Focus : Type) where
  focus : Focus
  editing : Bool
  /-- The fields, each with its text and its cursor. -/
  fields : List TextField

def DocsPanel.form (panel : DocsPanel) : Form DocsFocus :=
  ⟨panel.focus, panel.editing, [panel.path.field, panel.projectName, panel.instructions]⟩

def GithubPanel.form (panel : GithubPanel) : Form GithubFocus :=
  ⟨panel.focus, panel.editing,
    [panel.token, panel.title, panel.description, panel.commitMessage]⟩

def QualityPanel.form (panel : QualityPanel) : Form QualityFocus :=
  ⟨panel.focus, panel.editing, [panel.path.field]⟩

section Completed

variable {ticket : Ticket} {outcome : Outcome}

theorem DocsPanel.handle_completed_form (workspace : Workspace) (session : Session)
    (panel : DocsPanel) :
    (panel.handle workspace session (.completed ticket outcome)).1.form = panel.form := by
  unfold handle
  split
  · change (panel.refresh workspace).form = panel.form
    unfold refresh
    split
    · simp [form, PathField.refresh_field]
    · rfl
  · rfl

theorem QualityPanel.handle_completed_form (workspace : Workspace) (session : Session)
    (panel : QualityPanel) :
    (panel.handle workspace session (.completed ticket outcome)).1.form = panel.form := by
  unfold handle
  split
  · change QualityPanel.form { panel with path := panel.path.refresh workspace } = panel.form
    simp [form, PathField.refresh_field]
  · rfl

theorem GithubPanel.handle_completed_form {session : Session} {panel : GithubPanel}
    (shown : panel.FocusShown session.visibility) :
    (panel.handle session (.completed ticket outcome)).1.form = panel.form := by
  simp only [handle, shown.withFocusShown_eq]
  split <;> rfl

end Completed

namespace Console

/-- In all panels the user is working on the same. -/
structure SameForms (left right : Console) : Prop where
  docs : left.docs.form = right.docs.form
  github : left.github.form = right.github.form
  quality : left.quality.form = right.quality.form

theorem askPanel_sameForms {console : Console} (shown : console.FocusShown) (ticket : Ticket)
    (outcome : Outcome) :
    SameForms (console.askPanel (.completed ticket outcome)).1 console := by
  unfold askPanel
  split
  case h_1 => exact ⟨console.docs.handle_completed_form _ _, rfl, rfl⟩
  case h_2 onScreen => exact ⟨rfl, GithubPanel.handle_completed_form (shown onScreen), rfl⟩
  case h_3 => exact ⟨rfl, rfl, console.quality.handle_completed_form _ _⟩

end Console

/-- Whenever a call fails, the session loses what is pending under its ticket and nothing else,
no call is started, in no panel the focus, the keyboard or a field is changed, and the user is
told. -/
theorem Run.handle_failure {past : List Stage} {console : Console} (run : Run past console)
    (moment : Moment) (ticket : Ticket) {outcome : Outcome} {text : String}
    (fails : outcome.failureText? = some text) :
    let next := console.handle moment (.completed ticket outcome)
    let pending := console.session.loading.pending.filter (·.1 ≠ ticket)
    next.session =
        { console.session with loading := ⟨pending, console.session.loading.next⟩ } ∧
      next.started = console.started ∧ next.SameForms console ∧
      next.statusBar.toast = some ⟨.error, text, moment.now⟩ := by
  intro next pending
  let told := (console.released ticket).notify moment .error text
  have effect : console.effect moment (.completed ticket outcome) = told :=
    Console.conclude_of_failure fails _ moment
  have work : Console.SameWork next _ := Console.handle_sameWork (Or.inr rfl) rfl
  have bar : next.statusBar = _ := Console.handle_statusBar (Or.inr rfl) rfl
  have answered : next = (told.askPanel (.completed ticket outcome)).1.withMode := by
    rw [← effect]
    exact Console.handle_of_quiet (Or.inr rfl) rfl
  -- A ticket that is taken back does not show or hide a form.
  have shown : told.FocusShown := by
    intro onScreen
    obtain ⟨token, editing⟩ := run.focusShown onScreen
    exact ⟨token, editing⟩
  have forms := Console.askPanel_sameForms shown ticket outcome
  rw [effect] at work bar
  refine ⟨work.session, work.started, ?_, ?_⟩
  · rw [answered]
    exact ⟨forms.docs, forms.github, forms.quality⟩
  · rw [bar]
    rfl

/-- While a token is submitted, the user goes on typing. -/
def Happening.typingWhileConnecting : List Happening :=
  [.pressed .typing (.character 'b'), .pressed .shortcuts (.character 'e'),
    .pressed .typing .enter, .pressed .typing (.character 'a'),
    .pressed .shortcuts (.character 'e'), .pressed .shortcuts (.character '2')]

theorem handle_failure_of_typingWhileConnecting :
    let run := replay Happening.typingWhileConnecting
    let next := run.2.handle .midnight (.completed 0 (.connectionRefused (some "no")))
    Run run.1 run.2 ∧
      run.2.session.loading = ⟨[(0, "Connecting to GitHub")], 1⟩ ∧
      next.session = { run.2.session with loading := ⟨[], 1⟩ } ∧
      next.session.loading.count = 0 ∧ next.started = run.2.started ∧
      next.github.form = ⟨.token, true, [⟨.masked, ['a', 'b'], 2⟩, .empty .single,
        .empty .multi, .empty .single]⟩ ∧
      next.statusBar.toast = some ⟨.error, "no", 0⟩ := by
  intro run next
  have happened : Run run.1 run.2 := Run.of_replay _ (by decide)
  have fails : (Outcome.connectionRefused (some "no")).failureText? = some "no" := rfl
  obtain ⟨session, started, forms, told⟩ := happened.handle_failure .midnight 0 fails
  have typing : run.2.github.form = ⟨.token, true, [⟨.masked, ['a', 'b'], 2⟩, .empty .single,
      .empty .multi, .empty .single]⟩ := by
    rfl
  have waiting : run.2.session.loading = ⟨[(0, "Connecting to GitHub")], 1⟩ := by decide
  have left : next.session = { run.2.session with loading := ⟨[], 1⟩ } := by
    rw [session, waiting]
    rfl
  exact ⟨happened, waiting, left, by rw [left]; rfl, started, forms.github.trans typing, told⟩

end DocsConsole
