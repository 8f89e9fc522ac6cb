import DocsConsole.Editor.Field
import DocsConsole.Files.Drop
import DocsConsole.Files.System
import DocsConsole.Unicode.Casing

/-!
# Path fields

While a path is typed, entries that could complete it are suggested.  The
suggestions belong to the text that they were looked up for, and one of them may
be highlighted.
-/

namespace DocsConsole

/-- What the console can reach of the machine it runs on. -/
structure Workspace where
  files : FileSystem
  /-- The home directory of the user. -/
  home : String
deriving Inhabited

structure Suggestion where
  name : String
  path : FilePath
  isDirectory : Bool
deriving DecidableEq, Repr, Inhabited

structure PathField where
  field : TextField
  suggestions : List Suggestion
  /-- The place of the highlighted suggestion. -/
  highlight : Option Nat
  /-- The text that the suggestions belong to. -/
  lookedUp : String
deriving DecidableEq, Repr, Inhabited

namespace Suggestion

/-- At most so many entries are suggested. -/
def limit : Nat := 6

/-- The directory that a typed path lies in, and the part of a name that was typed. -/
def context (path : FilePath) : FilePath × String :=
  if FileSystem.endsInSlash path then (path, "")
  else
    let directory := (FilePath.parent? path).getD "/"
    (if directory.isEmpty then "." else directory, (FilePath.fileName? path).getD "")

/-- Whether an entry goes on with the part of a name that was typed.  Hidden entries do only
when a dot was typed. -/
def continues (typed name : String) : Bool :=
  (!".".isPrefixOf name || ".".isPrefixOf typed) &&
    (Unicode.lower typed).isPrefixOf (Unicode.lower name)

/-- Whether a suggestion may stand before another one: directories come first, and then names
are in order without regard to case. -/
def ranksBefore (first second : Suggestion) : Bool :=
  if first.isDirectory ≠ second.isDirectory then first.isDirectory
  else decide (Unicode.lower first.name ≤ Unicode.lower second.name)

/-- The entries that complete a path, the best ones first. -/
def completing (workspace : Workspace) (text : String) : List Suggestion :=
  if text.isEmpty then []
  else
    let (directory, typed) := context (FilePath.expandHome workspace.home text)
    match workspace.files.listing directory with
    | .error _ => []
    | .ok entries =>
        let found := (entries.filter fun entry => continues typed entry.1).map fun entry =>
          (⟨entry.1, FilePath.join directory entry.1, entry.2 = .directory⟩ : Suggestion)
        (found.mergeSort ranksBefore).take limit

/-- The text of a field that a suggestion is taken into.  A directory is left open for more. -/
def completion (suggestion : Suggestion) : String :=
  if suggestion.isDirectory && !FileSystem.endsInSlash suggestion.path then
    suggestion.path ++ "/"
  else suggestion.path

end Suggestion

namespace PathField

def empty : PathField :=
  ⟨.empty .single, [], none, ""⟩

def hasSuggestions (path : PathField) : Bool :=
  !path.suggestions.isEmpty

def dismiss (path : PathField) : PathField :=
  { path with suggestions := [], highlight := none }

/-- Looks up suggestions for the text, unless they belong to it already. -/
def refresh (workspace : Workspace) (path : PathField) : PathField :=
  let text := path.field.value
  if text = path.lookedUp then path
  else
    { path with
      suggestions := Suggestion.completing workspace text, highlight := none, lookedUp := text }

@[simp] theorem refresh_field (workspace : Workspace) (path : PathField) :
    (path.refresh workspace).field = path.field := by
  unfold refresh
  dsimp only
  split <;> rfl

/-- Makes a change to the text, and looks up suggestions for it. -/
def edit (workspace : Workspace) (path : PathField) (edit : Edit) : PathField :=
  refresh workspace { path with field := path.field.edit edit }

def clear (path : PathField) : PathField :=
  { path with field := path.field.clear, suggestions := [], highlight := none, lookedUp := "" }

def paths (workspace : Workspace) (path : PathField) : List FilePath :=
  Drop.paths workspace.home path.field.value

/-- Highlights the suggestion below. -/
def highlightNext (path : PathField) : PathField :=
  if path.suggestions.isEmpty then path
  else
    { path with
      highlight :=
        some (match path.highlight with
          | none => 0
          | some place => min (place + 1) (path.suggestions.length - 1)) }

/-- Highlights the suggestion above; above the first one there is none. -/
def highlightPrevious (path : PathField) : PathField :=
  { path with
    highlight :=
      match path.highlight with
      | some (place + 1) => some place
      | _ => none }

/-- The suggestion to take: the highlighted one or else the first one. -/
def chosen? (path : PathField) : Option Suggestion :=
  path.suggestions[path.highlight.getD 0]?

/-- Takes the chosen suggestion into the field. -/
def accept (workspace : Workspace) (path : PathField) : PathField :=
  match path.chosen? with
  | none => path
  | some suggestion =>
      let filled := path.field.setValue suggestion.completion
      refresh workspace ⟨filled, [], none, ""⟩

/-- Whether the chosen suggestion is a file, so that the path is complete with it. -/
def completes (path : PathField) : Bool :=
  match path.chosen? with
  | none => false
  | some suggestion => !suggestion.isDirectory

/-- The number of rows that the suggestions need, with a line below them. -/
def suggestionRows (path : PathField) : Nat :=
  if path.suggestions.isEmpty then 0
  else min path.suggestions.length Suggestion.limit + 1

end PathField

end DocsConsole
