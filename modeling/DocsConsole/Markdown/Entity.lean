import DocsConsole.CoreInstances
import DocsConsole.Markdown.EntityTable
import DocsConsole.Markdown.Source
import DocsConsole.Unicode.Ranges
import Std.Data.HashMap

/-!
# Character references and escapes

A character reference is an ampersand, a name or a number, and a semicolon.  A
number that is no character is no reference; the number zero stands for the
replacement character.  A backslash before an ASCII punctuation character makes
it literal.
-/

namespace DocsConsole.Markdown

open scoped CoreInstances

open DocsConsole.Unicode

def namedCharacters : Std.HashMap String (List Char) :=
  (words entityTable).foldl (fun table word =>
    match pieces (· = ':') word with
    | [name, codes] =>
        table.insert (String.ofList name)
          ((pieces (· = '+') codes).map fun code => Char.ofNat (hexValue code))
    | _ => table) ∅

def numberedCharacter? (number : Nat) : Option Char :=
  if number = 0 then some (Char.ofNat 0xFFFD)
  else if number.isValidChar then some (Char.ofNat number)
  else none

/-- The digits of a run that fit into 64 bits. -/
def fittingDigits (value : List Char → Nat) (digits : List Char) : List Char :=
  let fits (count : Nat) : Bool := value (digits.take count) < 2 ^ (64 : Nat)
  digits.take (((List.range (digits.length + 1)).reverse.find? fits).getD 0)

namespace Source

/-- A numeric reference whose digits start at a position: the position after it and its
character. -/
def numericReference? (s : Source) (isDigit : Char → Bool) (value : List Char → Nat)
    (start : Nat) : Option (Nat × List Char) :=
  let digits := fittingDigits value (s.charsBetween start (min (s.skipWhile isDigit start) s.limit))
  let stop := start + digits.length
  if digits.isEmpty || !s.hasAt stop ';' then none
  else (numberedCharacter? (value digits)).map fun c => (stop + 1, [c])

/-- The character reference that starts at an ampersand: the position after it and the
characters it stands for. -/
def reference? (s : Source) (i : Nat) : Option (Nat × List Char) :=
  if s.hasAt (i + 1) '#' then
    if s.hasAt (i + 2) 'x' || s.hasAt (i + 2) 'X' then
      s.numericReference? isHexDigit hexValue (i + 3)
    else s.numericReference? Char.isDigit decimalValue (i + 2)
  else
    let stop := s.skipWhile Char.isAlphanum (i + 1)
    if s.hasAt stop ';' then
      (namedCharacters[s.slice (i + 1) stop]?).map fun characters => (stop + 1, characters)
    else none

/-- The characters from a position to the limit with escapes and references resolved and
without carriage returns. -/
def unescapeFrom (s : Source) (i : Nat) : List Char :=
  if i < s.limit then
    match s.get? i with
    | none => []
    | some c =>
        if c = '\\' ∧ s.hasPunctuationAt (i + 1) then
          (s.get? (i + 1)).toList ++ s.unescapeFrom (i + 2)
        else if c = '&' then
          match s.reference? i with
          | some (stop, characters) =>
              if i < stop then characters ++ s.unescapeFrom stop
              else c :: s.unescapeFrom (i + 1)
          | none => c :: s.unescapeFrom (i + 1)
        else if c = '\r' then s.unescapeFrom (i + 1)
        else c :: s.unescapeFrom (i + 1)
  else []
termination_by s.limit - i

/-- The text between two positions with escapes and references resolved. -/
def unescape (s : Source) (start stop : Nat) : String :=
  String.ofList ((s.upTo stop).unescapeFrom start)

end Source

end DocsConsole.Markdown
