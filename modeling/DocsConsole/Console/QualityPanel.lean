import DocsConsole.Console.DocsPanel

/-!
# The panel for code quality

One file is picked and analysed, and the report can be read.
-/

namespace DocsConsole

inductive QualityFocus where
  | path
  | report
deriving DecidableEq, Repr, Inhabited

def QualityFocus.other : QualityFocus → QualityFocus
  | path => report
  | report => path

structure QualityPanel where
  focus : QualityFocus
  /-- Whether the path field takes the keyboard when it has the focus. -/
  editing : Bool
  path : PathField
  reportScrolled : Nat
deriving DecidableEq, Repr, Inhabited

namespace QualityPanel

def initial : QualityPanel :=
  ⟨.path, false, .empty, 0⟩

/-- Whether the path field has the keyboard. -/
def wantsInput (panel : QualityPanel) : Bool :=
  panel.editing && panel.focus = .path

/-- The request to pick the first of some paths, if there are any. -/
def choice? (paths : List FilePath) : Option Request :=
  if paths.isEmpty then none else some (.addPaths paths .quality)

/-- Empties the path field, and asks for the path that was in it. -/
def takePath (workspace : Workspace) (panel : QualityPanel) : QualityPanel × Option Request :=
  ({ panel with path := panel.path.clear, editing := false },
    choice? (panel.path.paths workspace))

def moveFocus (panel : QualityPanel) : QualityPanel :=
  { panel with path := panel.path.dismiss, editing := false, focus := panel.focus.other }

/-- Takes the chosen suggestion.  A file is picked at once; a directory is left open. -/
def acceptSuggestion (workspace : Workspace) (panel : QualityPanel) :
    QualityPanel × Option Request :=
  let accepted := { panel with path := panel.path.accept workspace }
  if panel.path.completes then accepted.takePath workspace else (accepted, none)

/-- Makes a change to the path.  A line end submits it. -/
def edit (workspace : Workspace) (panel : QualityPanel) : Edit → QualityPanel × Option Request
  | .newline =>
      if panel.path.highlight.isSome then panel.acceptSuggestion workspace
      else panel.takePath workspace
  | edit => ({ panel with path := panel.path.edit workspace edit }, none)

/-- Answers an action while the path field has the keyboard. -/
def whileTyping (workspace : Workspace) (panel : QualityPanel) :
    Action → QualityPanel × Option Request
  | .cancel =>
      if panel.path.hasSuggestions then ({ panel with path := panel.path.dismiss }, none)
      else ({ panel with editing := false }, none)
  | .focusNext =>
      if panel.path.hasSuggestions then panel.acceptSuggestion workspace
      else (panel.moveFocus, none)
  | .focusPrevious => (panel.moveFocus, none)
  | .down => ({ panel with path := panel.path.highlightNext }, none)
  | .up => ({ panel with path := panel.path.highlightPrevious }, none)
  | .submit => panel.takePath workspace
  | .edit edit => panel.edit workspace edit
  | _ => ({ panel with path := panel.path.refresh workspace }, none)

/-- The panel with the report scrolled by some rows. -/
def scroll (panel : QualityPanel) (rows : Nat) (down : Bool) : QualityPanel :=
  { panel with reportScrolled := scrolledBy panel.reportScrolled rows down }

/-- Answers an action while the path field does not have the keyboard. -/
def atRest (workspace : Workspace) (session : Session) (panel : QualityPanel) :
    Action → QualityPanel × Option Request
  | .focusNext => (panel.moveFocus, none)
  | .focusPrevious => (panel.moveFocus, none)
  | .startEditing => ({ panel with focus := .path, editing := true }, none)
  | .confirm => ({ panel with editing := panel.editing || panel.focus = .path }, none)
  | .up => (panel.scroll 1 false, none)
  | .down => (panel.scroll 1 true, none)
  | .pageUp => (panel.scroll 10 false, none)
  | .pageDown => (panel.scroll 10 true, none)
  | .removeSelected =>
      (panel, if session.qualityFile.isSome then some .removeQualityFile else none)
  | .edit (.paste text) => (panel, choice? (Drop.paths workspace.home text))
  | _ => (panel, none)

def handle (workspace : Workspace) (session : Session) (panel : QualityPanel)
    (action : Action) : QualityPanel × Option Request :=
  if panel.wantsInput then panel.whileTyping workspace action
  else panel.atRest workspace session action

/-- The panel does not answer a request with another one. -/
theorem handle_request (workspace : Workspace) (session : Session) (panel : QualityPanel)
    (request : Request) : (panel.handle workspace session (.request request)).2 = none := by
  unfold handle
  split <;> rfl

end QualityPanel

end DocsConsole
