import DocsConsole.Unicode.Ranges

/-!
# Paths

A path is a text whose parts are separated by slashes.  Repeated slashes and the
part `.` do not count, but for a leading one, and nothing else about a path is
changed by taking it apart: the parent of a path is a beginning of its text.
-/

namespace DocsConsole

/-- The text of a path. -/
abbrev FilePath := String

/-- How a path begins. -/
inductive PathStart where
  /-- With a name. -/
  | bare
  /-- With the part `.`. -/
  | here
  /-- With a slash. -/
  | root
deriving DecidableEq, Repr

/-- A path taken apart.  What follows the beginning is kept as its pieces between slashes, and
the last of them counts. -/
structure PathShape where
  start : PathStart
  segments : List (List Char)
deriving DecidableEq, Repr

namespace PathShape

/-- Whether a piece between slashes counts. -/
def counts (segment : List Char) : Bool :=
  !segment.isEmpty && segment ≠ ['.']

/-- The pieces up to the last one that counts. -/
def trimmed (segments : List (List Char)) : List (List Char) :=
  (segments.reverse.dropWhile (!counts ·)).reverse

/-- The pieces between the slashes of a text. -/
def between (text : List Char) : List (List Char) :=
  Unicode.pieces (· = '/') text

/-- Takes a path apart. -/
def ofChars : List Char → PathShape
  | '/' :: rest => ⟨.root, trimmed (between rest)⟩
  | ['.'] => ⟨.here, []⟩
  | '.' :: '/' :: rest => ⟨.here, trimmed ([] :: between rest)⟩
  | text => ⟨.bare, trimmed (between text)⟩

/-- The text of a path that was taken apart. -/
def write (shape : PathShape) : FilePath :=
  let body := ['/'].intercalate shape.segments
  match shape.start with
  | .bare => String.ofList body
  | .here => String.ofList ('.' :: body)
  | .root => String.ofList ('/' :: body)

/-- The path without its last part, unless it has none. -/
def parent? (shape : PathShape) : Option PathShape :=
  if shape.segments.isEmpty then
    match shape.start with
    | .here => some ⟨.bare, []⟩
    | _ => none
  else some { shape with segments := trimmed shape.segments.dropLast }

end PathShape

namespace FilePath

/-- The path taken apart. -/
def shape (path : FilePath) : PathShape :=
  PathShape.ofChars path.toList

/-- The path of the directory that a path lies in, unless the path is empty or the root. -/
def parent? (path : FilePath) : Option FilePath :=
  (shape path).parent?.map PathShape.write

/-- The last part of a path, if it is a name. -/
def fileName? (path : FilePath) : Option String :=
  match (shape path).segments.getLast? with
  | some ['.', '.'] => none
  | some name => some (String.ofList name)
  | none => none

/-- Whether a path begins at the root. -/
def isAbsolute (path : FilePath) : Bool :=
  path.toList.head? = some '/'

/-- A path taken from a directory on. -/
def join (directory path : FilePath) : FilePath :=
  if isAbsolute path || directory.isEmpty then path
  else if directory.toList.getLast? = some '/' then directory ++ path
  else directory ++ "/" ++ path

/-- A path and all paths that it lies in, from the inside out. -/
def ancestorsFrom : Nat → FilePath → List FilePath
  | 0, path => [path]
  | fuel + 1, path =>
      match parent? path with
      | some outer => path :: ancestorsFrom fuel outer
      | none => [path]

/-- A path and all paths that it lies in, from the inside out.  Each is shorter than the one
before it. -/
def ancestors (path : FilePath) : List FilePath :=
  ancestorsFrom path.length path

/-- A leading `~`, alone or before a slash, stands for the home directory. -/
def expandHome (home : String) (text : String) : FilePath :=
  match text.toList with
  | ['~'] => home
  | '~' :: '/' :: rest => home ++ String.ofList ('/' :: rest)
  | _ => text

end FilePath

end DocsConsole
