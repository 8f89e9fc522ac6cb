import DocsConsole.Unicode.Space
import DocsConsole.Unicode.Punctuation

/-!
# Source text

Document structure is found by looking at a text from a position onwards.  A
`Source` is a text that is read up to a limit; every position at or beyond the
limit is the end.  A position is the number of characters before it.

The scanning functions return the position after what they found.  Line ends
are a line feed, a carriage return, or both in this order, and the end of the
text ends a line too.
-/

namespace DocsConsole.Markdown

open DocsConsole.Unicode (isAsciiPunctuation)

/-- A text that is read up to a limit. -/
structure Source where
  chars : Array Char
  limit : Nat

/-- A blank inside a line: a space, a tab, a vertical tab or a form feed. -/
def isBlank (c : Char) : Bool :=
  c = ' ' || c = '\t' || c = '\x0b' || c = '\x0c'

/-- A line feed or a carriage return. -/
def isLineEnd (c : Char) : Bool :=
  c = '\n' || c = '\r'

def isBlankOrLineEnd (c : Char) : Bool :=
  isBlank c || isLineEnd c

namespace Source

/-- The whole of a text. -/
def ofString (text : String) : Source :=
  let chars := text.toList.toArray
  ⟨chars, chars.size⟩

/-- The same text, read no further than a position. -/
def upTo (s : Source) (limit : Nat) : Source :=
  { s with limit := min limit s.limit }

/-- The character at a position. -/
def get? (s : Source) (i : Nat) : Option Char :=
  if i < s.limit then s.chars[i]? else none

/-- Whether a given character stands at a position. -/
def hasAt (s : Source) (i : Nat) (c : Char) : Bool :=
  s.get? i == some c

/-- The characters between two positions. -/
def charsBetween (s : Source) (start stop : Nat) : List Char :=
  (s.chars.extract start stop).toList

/-- The text between two positions. -/
def slice (s : Source) (start stop : Nat) : String :=
  String.ofList (s.charsBetween start stop)

/-- The end of the run of characters of a class that starts at a position. -/
def skipWhile (s : Source) (belongs : Char → Bool) (i : Nat) : Nat :=
  if i < s.limit then
    match s.get? i with
    | some c => if belongs c then s.skipWhile belongs (i + 1) else i
    | none => i
  else i
termination_by s.limit - i

/-- The start of the run of characters of a class that ends at a position. -/
def skipBack (s : Source) (belongs : Char → Bool) : Nat → Nat
  | 0 => 0
  | i + 1 =>
      match s.chars[i]? with
      | some c => if belongs c then s.skipBack belongs i else i + 1
      | none => i + 1

/-- The end of the run of one character. -/
def skipRun (s : Source) (c : Char) (i : Nat) : Nat :=
  s.skipWhile (· == c) i

/-- The position after one character, where it stands there. -/
def skipChar (s : Source) (c : Char) (i : Nat) : Nat :=
  if s.hasAt i c then i + 1 else i

/-- The position after the blanks. -/
def skipBlanks (s : Source) (i : Nat) : Nat :=
  s.skipWhile isBlank i

/-- The position after a line end that stands at a position. -/
def afterLineEnd? (s : Source) (i : Nat) : Option Nat :=
  match s.get? i with
  | none => some i
  | some c =>
      if c = '\n' then some (i + 1)
      else if c = '\r' then some (if s.hasAt (i + 1) '\n' then i + 2 else i + 1)
      else none

/-- The position after the rest of a line that holds nothing but blanks. -/
def afterBlankLine? (s : Source) (i : Nat) : Option Nat :=
  s.afterLineEnd? (s.skipBlanks i)

/-- The position after the next line feed. -/
def nextLine (s : Source) (i : Nat) : Nat :=
  let feed := s.skipWhile (· != '\n') i
  if feed < s.limit then feed + 1 else s.limit

/-- Whether a word of ASCII letters stands at a position, in any case. -/
def hasWordAt (s : Source) (word : List Char) (i : Nat) : Bool :=
  match word with
  | [] => true
  | c :: rest =>
      match s.get? i with
      | some d => d.toLower == c.toLower && s.hasWordAt rest (i + 1)
      | none => false

/-- Whether a text stands at a position. -/
def hasTextAt (s : Source) (text : List Char) (i : Nat) : Bool :=
  match text with
  | [] => true
  | c :: rest => s.hasAt i c && s.hasTextAt rest (i + 1)

/-- Whether a text stands somewhere between two positions. -/
def hasTextBetween (s : Source) (text : List Char) (i stop : Nat) : Bool :=
  if i < stop then
    ((s.upTo stop).hasTextAt text i) || s.hasTextBetween text (i + 1) stop
  else false
termination_by stop - i

/-- Whether the character at a position is an ASCII punctuation character. -/
def hasPunctuationAt (s : Source) (i : Nat) : Bool :=
  match s.get? i with
  | some c => isAsciiPunctuation c
  | none => false

theorem le_skipWhile (s : Source) (belongs : Char → Bool) (i : Nat) :
    i ≤ s.skipWhile belongs i := by
  fun_induction skipWhile s belongs i with
  | case1 => omega
  | case2 => omega
  | case3 => omega
  | case4 => omega

end Source

end DocsConsole.Markdown
