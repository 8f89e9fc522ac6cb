import DocsConsole.Console.Action
import DocsConsole.CoreInstances
import DocsConsole.Editor.PathField

/-!
# The panel for documentation

Files are picked in a path field and shown in a list; the name of the project
and instructions go into the request, and what is generated can be read.  The
panel looks at the session but does not change it: it answers an action with a
request.
-/

namespace DocsConsole

open scoped CoreInstances

inductive DocsFocus where
  | files
  | path
  | projectName
  | instructions
  | output
deriving DecidableEq, Repr, Inhabited

namespace DocsFocus

def next : DocsFocus → DocsFocus
  | files => path
  | path => projectName
  | projectName => instructions
  | instructions => output
  | output => files

def previous : DocsFocus → DocsFocus
  | files => output
  | path => files
  | projectName => path
  | instructions => projectName
  | output => instructions

/-- Whether text can be typed. -/
def isText : DocsFocus → Bool
  | files => false
  | output => false
  | _ => true

@[simp] theorem previous_next (focus : DocsFocus) : focus.next.previous = focus := by
  cases focus <;> rfl

@[simp] theorem next_previous (focus : DocsFocus) : focus.previous.next = focus := by
  cases focus <;> rfl

end DocsFocus

/-- The place of a cursor in a list after a step. -/
def stepCursor (cursor count : Nat) (down : Bool) : Nat :=
  if count = 0 then 0 else if down then min (cursor + 1) (count - 1) else cursor - 1

/-- The longest way that can be scrolled. -/
def scrollLimit : Nat := 2 ^ (16 : Nat) - 1

/-- The number of rows scrolled out of sight after some more. -/
def scrolledBy (scrolled rows : Nat) (down : Bool) : Nat :=
  if down then min (scrolled + rows) scrollLimit else scrolled - rows

structure DocsPanel where
  focus : DocsFocus
  /-- Whether a focused field takes the keyboard. -/
  editing : Bool
  path : PathField
  projectName : TextField
  instructions : TextField
  /-- The place of the cursor in the list of files. -/
  fileCursor : Nat
  outputScrolled : Nat
deriving DecidableEq, Repr, Inhabited

namespace DocsPanel

def initial : DocsPanel :=
  ⟨.path, false, .empty, .empty .single, .empty .multi, 0, 0⟩

/-- Whether a field has the keyboard. -/
def wantsInput (panel : DocsPanel) : Bool :=
  panel.editing && panel.focus.isText

/-- The request for documentation with what was typed. -/
def generation (panel : DocsPanel) : Request :=
  .generateDocs panel.projectName.value panel.instructions.value

/-- The request to add paths, if there are any. -/
def addition? (paths : List FilePath) : Option Request :=
  if paths.isEmpty then none else some (.addPaths paths .documentation)

/-- Empties the path field, and asks for the paths that were in it. -/
def takePaths (workspace : Workspace) (panel : DocsPanel) : DocsPanel × Option Request :=
  ({ panel with path := panel.path.clear }, addition? (panel.path.paths workspace))

/-- Moves the focus.  The keyboard stays with the panel only at a field. -/
def moveFocus (panel : DocsPanel) (focus : DocsFocus) : DocsPanel :=
  { panel with
    path := panel.path.dismiss, focus := focus, editing := panel.editing && focus.isText }

def editField (panel : DocsPanel) (change : TextField → TextField) : DocsPanel :=
  match panel.focus with
  | .path => { panel with path := { panel.path with field := change panel.path.field } }
  | .projectName => { panel with projectName := change panel.projectName }
  | .instructions => { panel with instructions := change panel.instructions }
  | _ => panel

/-- Takes the chosen suggestion.  A file is added at once; a directory is left open. -/
def acceptSuggestion (workspace : Workspace) (panel : DocsPanel) :
    DocsPanel × Option Request :=
  let accepted := { panel with path := panel.path.accept workspace }
  if panel.path.completes then accepted.takePaths workspace else (accepted, none)

/-- Looks up suggestions if the path field has the focus. -/
def refresh (workspace : Workspace) (panel : DocsPanel) : DocsPanel :=
  if panel.focus = .path then { panel with path := panel.path.refresh workspace } else panel

/-- Makes a change to the focused field.  A line end goes on to the next field where it has no
other use. -/
def edit (workspace : Workspace) (panel : DocsPanel) (edit : Edit) :
    DocsPanel × Option Request :=
  match edit, panel.focus with
  | .newline, .path =>
      if panel.path.highlight.isSome then panel.acceptSuggestion workspace
      else panel.takePaths workspace
  | .newline, .projectName => ({ panel with focus := .instructions }, none)
  | _, _ => ((panel.editField (·.edit edit)).refresh workspace, none)

/-- Answers an action while a field has the keyboard. -/
def whileTyping (workspace : Workspace) (panel : DocsPanel) :
    Action → DocsPanel × Option Request
  | .cancel =>
      if panel.path.hasSuggestions ∧ panel.focus = .path then
        ({ panel with path := panel.path.dismiss }, none)
      else ({ panel with editing := false }, none)
  | .focusNext =>
      if panel.focus = .path ∧ panel.path.hasSuggestions then panel.acceptSuggestion workspace
      else (panel.moveFocus panel.focus.next, none)
  | .focusPrevious => (panel.moveFocus panel.focus.previous, none)
  | .down =>
      if panel.focus = .path then ({ panel with path := panel.path.highlightNext }, none)
      else (panel.editField TextField.down, none)
  | .up =>
      if panel.focus = .path then ({ panel with path := panel.path.highlightPrevious }, none)
      else (panel.editField TextField.up, none)
  | .submit =>
      if panel.focus = .path then panel.takePaths workspace
      else ({ panel with editing := false }, some panel.generation)
  | .edit edit => panel.edit workspace edit
  | _ => (panel.refresh workspace, none)

/-- Moves the cursor of the list or scrolls the output. -/
def scroll (panel : DocsPanel) (files : Nat) (down : Bool) : DocsPanel :=
  match panel.focus with
  | .files => { panel with fileCursor := stepCursor panel.fileCursor files down }
  | .output => { panel with outputScrolled := scrolledBy panel.outputScrolled 1 down }
  | _ => panel

/-- Answers an action while no field has the keyboard and the list has a number of files. -/
def atRest (workspace : Workspace) (panel : DocsPanel) (files : Nat) :
    Action → DocsPanel × Option Request
  | .focusNext => (panel.moveFocus panel.focus.next, none)
  | .focusPrevious => (panel.moveFocus panel.focus.previous, none)
  | .startEditing =>
      ({ panel with focus := if panel.focus.isText then panel.focus else .path, editing := true },
        none)
  | .confirm => ({ panel with editing := panel.editing || panel.focus.isText }, none)
  | .up => (panel.scroll files false, none)
  | .down => (panel.scroll files true, none)
  | .pageUp => ({ panel with outputScrolled := scrolledBy panel.outputScrolled 10 false }, none)
  | .pageDown => ({ panel with outputScrolled := scrolledBy panel.outputScrolled 10 true }, none)
  | .removeSelected =>
      (panel, if panel.focus = .files ∧ files ≠ 0 then some (.removeFile panel.fileCursor) else none)
  | .generate => (panel, some panel.generation)
  | .edit (.paste text) => (panel, addition? (Drop.paths workspace.home text))
  | _ => (panel, none)

/-- The panel with the cursor of the list on one of its files. -/
def withinFiles (panel : DocsPanel) (files : Nat) : DocsPanel :=
  { panel with fileCursor := min panel.fileCursor (files - 1) }

def handle (workspace : Workspace) (session : Session) (panel : DocsPanel) (action : Action) :
    DocsPanel × Option Request :=
  if panel.wantsInput then panel.whileTyping workspace action
  else
    (panel.withinFiles session.uploads.length).atRest workspace session.uploads.length action

/-- The panel does not answer a request with another one. -/
theorem handle_request (workspace : Workspace) (session : Session) (panel : DocsPanel)
    (request : Request) : (panel.handle workspace session (.request request)).2 = none := by
  unfold handle
  split <;> rfl

end DocsPanel

end DocsConsole
