import DocsConsole.Console.QualityPanel
import DocsConsole.Proofs.Editor.Suggesting

/-!
# The suggestions that a panel shows

Two panels have a path field.  Each answer makes one step of it, so whatever the panels answer,
their fields suggest what fits their text at that moment, or nothing.
-/

namespace DocsConsole

open PathField

/-! ## The panel for documentation -/

namespace DocsPanel

variable (workspace : Workspace) (panel : DocsPanel)

theorem path_editField_of_ne {panel : DocsPanel} (elsewhere : panel.focus ≠ .path)
    (change : TextField → TextField) : (panel.editField change).path = panel.path := by
  unfold DocsPanel.editField
  split
  case h_1 here => exact (elsewhere here).elim
  all_goals rfl

theorem acceptSuggestion_step :
    Step workspace panel.path (panel.acceptSuggestion workspace).1.path := by
  unfold DocsPanel.acceptSuggestion
  dsimp only
  split
  · exact .taken
  · exact .accepted

theorem refresh_step : Step workspace panel.path (panel.refresh workspace).path := by
  unfold DocsPanel.refresh
  split
  · exact .refreshed
  · exact .kept

/-- A change to the text of a path is followed by a look for suggestions. -/
theorem editField_step (change : Edit) :
    Step workspace panel.path ((panel.editField (·.edit change)).refresh workspace).path := by
  by_cases here : panel.focus = .path
  · have edited : ((panel.editField (·.edit change)).refresh workspace).path =
        panel.path.edit workspace change := by
      simp only [DocsPanel.editField, DocsPanel.refresh, here, if_true]
      rfl
    rw [edited]
    exact .edited change
  · have step := refresh_step workspace (panel.editField (·.edit change))
    rwa [path_editField_of_ne here] at step

theorem edit_step (change : Edit) :
    Step workspace panel.path (panel.edit workspace change).1.path := by
  unfold DocsPanel.edit
  split
  · split
    · exact panel.acceptSuggestion_step workspace
    · exact .cleared
  · exact .kept
  · exact panel.editField_step workspace _

theorem whileTyping_step (action : Action) :
    Step workspace panel.path (panel.whileTyping workspace action).1.path := by
  cases action with
  | cancel =>
      simp only [whileTyping]
      split
      · exact .dismissed
      · exact .kept
  | focusNext =>
      simp only [whileTyping]
      split
      · exact panel.acceptSuggestion_step workspace
      · exact .dismissed
  | focusPrevious => exact .dismissed
  | down =>
      simp only [whileTyping]
      split
      case isTrue => exact .highlightedNext
      case isFalse elsewhere =>
        rw [path_editField_of_ne elsewhere]
        exact .kept
  | up =>
      simp only [whileTyping]
      split
      case isTrue => exact .highlightedPrevious
      case isFalse elsewhere =>
        rw [path_editField_of_ne elsewhere]
        exact .kept
  | submit =>
      simp only [whileTyping]
      split
      · exact .cleared
      · exact .kept
  | edit change => exact panel.edit_step workspace change
  | _ => exact panel.refresh_step workspace

theorem atRest_step (files : Nat) (action : Action) :
    Step workspace panel.path (panel.atRest workspace files action).1.path := by
  have scrolled : ∀ down, Step workspace panel.path (panel.scroll files down).path := by
    intro down
    unfold DocsPanel.scroll
    split <;> exact .kept
  cases action with
  | focusNext => exact .dismissed
  | focusPrevious => exact .dismissed
  | up => exact scrolled false
  | down => exact scrolled true
  | edit change => cases change <;> exact .kept
  | _ => exact .kept

theorem handle_step (session : Session) (action : Action) :
    Step workspace panel.path (panel.handle workspace session action).1.path := by
  unfold DocsPanel.handle
  split
  · exact panel.whileTyping_step workspace action
  · exact (panel.withinFiles session.uploads.length).atRest_step workspace _ action

end DocsPanel

/-! ## The panel for code quality -/

namespace QualityPanel

variable (workspace : Workspace) (panel : QualityPanel)

theorem acceptSuggestion_step :
    Step workspace panel.path (panel.acceptSuggestion workspace).1.path := by
  unfold QualityPanel.acceptSuggestion
  dsimp only
  split
  · exact .taken
  · exact .accepted

theorem edit_step (change : Edit) :
    Step workspace panel.path (panel.edit workspace change).1.path := by
  unfold QualityPanel.edit
  split
  · split
    · exact panel.acceptSuggestion_step workspace
    · exact .cleared
  · exact .edited _

theorem whileTyping_step (action : Action) :
    Step workspace panel.path (panel.whileTyping workspace action).1.path := by
  cases action with
  | cancel =>
      simp only [whileTyping]
      split
      · exact .dismissed
      · exact .kept
  | focusNext =>
      simp only [whileTyping]
      split
      · exact panel.acceptSuggestion_step workspace
      · exact .dismissed
  | focusPrevious => exact .dismissed
  | down => exact .highlightedNext
  | up => exact .highlightedPrevious
  | submit => exact .cleared
  | edit change => exact panel.edit_step workspace change
  | _ => exact .refreshed

theorem handle_step (session : Session) (action : Action) :
    Step workspace panel.path (panel.handle workspace session action).1.path := by
  unfold QualityPanel.handle
  split
  · exact panel.whileTyping_step workspace action
  · cases action with
    | focusNext => exact .dismissed
    | focusPrevious => exact .dismissed
    | edit change => cases change <;> exact .kept
    | _ => exact .kept

end QualityPanel

/-! ## After any actions -/

/-- The panel for documentation after some actions, with the session that each of them found. -/
def DocsPanel.after (workspace : Workspace) (panel : DocsPanel) (steps : List (Session × Action)) :
    DocsPanel :=
  steps.foldl (fun panel step => (panel.handle workspace step.1 step.2).1) panel

def QualityPanel.after (workspace : Workspace) (panel : QualityPanel)
    (steps : List (Session × Action)) : QualityPanel :=
  steps.foldl (fun panel step => (panel.handle workspace step.1 step.2).1) panel

/-- If every answer makes a step of the path field, the field stays up to date. -/
theorem upToDate_foldl {Panel Asked : Type} {workspace : Workspace} {path : Panel → PathField}
    {answer : Panel → Asked → Panel}
    (each : ∀ panel asked, Step workspace (path panel) (path (answer panel asked)))
    {panel : Panel} (current : (path panel).UpToDate workspace) (questions : List Asked) :
    (path (questions.foldl answer panel)).UpToDate workspace := by
  refine List.foldlRecOn (motive := fun panel => (path panel).UpToDate workspace) questions answer
    current ?_
  intro panel upToDate asked _
  exact upToDate.step (each panel asked)

end DocsConsole
