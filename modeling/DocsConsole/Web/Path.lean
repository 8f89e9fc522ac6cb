import DocsConsole.Unicode.Space
import DocsConsole.Web.Percent

/-!
# The path of an address

The parts of a path are read one after another: the part `.` stands for nothing
and `..` takes the part before it away.  In the path of a file a part that is a
drive letter with a colon stays.
-/

namespace DocsConsole.Web

/-- A part of a path as it is written, and whether a slash follows it. -/
structure PathPart where
  text : List Char
  closed : Bool

/-- The parts of a path.  A backslash counts as a slash. -/
def pathParts (part : List Char) : List Char → List PathPart
  | [] => [⟨part.reverse, false⟩]
  | c :: rest =>
      if c = '/' ∨ c = '\\' then ⟨part.reverse, true⟩ :: pathParts [] rest
      else pathParts (c :: part) rest

/-- Whether a text is a letter and a colon or bar. -/
def isDriveLetter : List Char → Bool
  | [letter, mark] => letter.isAlpha && (mark = ':' || mark = '|')
  | _ => false

/-- Whether a text is a letter and a colon. -/
def isDrive : List Char → Bool
  | [letter, ':'] => letter.isAlpha
  | _ => false

/-- Whether a text begins with a slash and a drive letter that is a part of its own. -/
def beginsWithDrive : List Char → Bool
  | '/' :: letter :: mark :: rest =>
      isDriveLetter [letter, mark] && (rest.isEmpty || rest.head? = some '/')
  | _ => false

/-- The part `.`, which may be percent-encoded. -/
def isHere (part : List Char) : Bool :=
  [".", "%2e", "%2E"].contains (String.ofList part)

/-- The part `..`, which may be percent-encoded. -/
def isOuter (part : List Char) : Bool :=
  ["..", "%2e%2e", "%2e%2E", "%2E%2e", "%2E%2E", "%2e.", "%2E.", ".%2e", ".%2E"].contains
    (String.ofList part)

/-- A path up to and with its last slash. -/
def upToSlash (written : List Char) : List Char :=
  Unicode.dropEndWhile (· ≠ '/') written

/-- What follows the last slash of a path. -/
def afterSlash (written : List Char) : List Char :=
  (written.reverse.takeWhile (· ≠ '/')).reverse

/-- Takes the last part off a path that ends in a slash. -/
def withoutLast (file : Bool) (written : List Char) : List Char :=
  let kept :=
    if written.getLast? = some '/' ∧ written.dropLast.contains '/' ∧
        !beginsWithDrive (written.drop (upToSlash written.dropLast).length.pred) then
      written.dropLast
    else written
  if kept.isEmpty || (file && isDrive kept) || (file && isDrive (afterSlash kept)) then kept
  else upToSlash kept

/-- The path so far, and whether the address still has a host. -/
structure PathState where
  written : List Char
  hasHost : Bool

/-- Writes a part of the path of a file character by character: a slash is put after a drive
letter with which the path begins.  Gives the path and the place where the part begins. -/
def writeChars (file : Bool) (written : List Char) (start : Nat) :
    List Char → List Char × Nat
  | [] => (written, start)
  | c :: rest =>
      let code := percentEncode encodedInPath [c]
      if file && isDrive (written.drop 1) then
        writeChars file (written ++ '/' :: code) (start + 1) rest
      else writeChars file (written ++ code) start rest

def PathState.add (file : Bool) (state : PathState) (part : PathPart) : PathState :=
  let (written, start) := writeChars file state.written state.written.length part.text
  let text := written.drop start
  let close (path : List Char) : List Char := if part.closed then path ++ ['/'] else path
  if isOuter text then
    let shorter := withoutLast file (written.take start)
    { state with
      written := if part.closed && shorter.getLast? ≠ some '/' then shorter ++ ['/'] else shorter }
  else if isHere text then
    let before := written.take start
    { state with written := if before.getLast? = some '/' then before else before ++ ['/'] }
  else if file && isDriveLetter text then
    ⟨close (written.take start ++ text.take 1 ++ [':']), false⟩
  else { state with written := close written }

/-- Reads a path after what is written of it. -/
def readPath (file : Bool) (state : PathState) (source : List Char) : PathState :=
  let result := (pathParts [] source).foldl (PathState.add file) state
  if file then { result with written := '/' :: result.written.dropWhile (· = '/') } else result

end DocsConsole.Web
