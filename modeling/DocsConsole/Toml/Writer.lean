/-!
# Writing TOML strings

A string is written in the plainest form that can hold it: on one line between
double quotes, then between single quotes, then on several lines, and each of
these without escapes if possible.
-/

namespace DocsConsole.Toml

/-- The longest run of a character in a text, given the run that the text continues. -/
def longestRun (c : Char) (run longest : Nat) : List Char → Nat
  | [] => longest
  | other :: rest =>
      if other = c then longestRun c (run + 1) (max longest (run + 1)) rest
      else longestRun c 0 longest rest

/-- A control that can only be written by an escape. -/
def needsCode (c : Char) : Bool :=
  (c.toNat < 0x20 && c ≠ '\t' && c ≠ '\n') || c.toNat = 0x7F

/-- The form in which a string is written. -/
inductive StringForm where
  | basic
  | literal
  | basicLines
  | literalLines
deriving DecidableEq, Repr

/-- The form in which a text is written. -/
def formOf (text : List Char) : StringForm :=
  let codes := text.any needsCode
  let backslash := text.contains '\\'
  let newline := text.contains '\n'
  let singles := longestRun '\x27' 0 0 text
  let doubles := longestRun '\x22' 0 0 text
  if !codes && !backslash && doubles = 0 && !newline then .basic
  else if !codes && singles = 0 && !newline then .literal
  else if !codes && !backslash && doubles ≤ 2 then .basicLines
  else if !codes && singles ≤ 2 then .literalLines
  else if newline then .basicLines
  else .basic

def upperHexDigit (value : Nat) : Char :=
  if value < 10 then Char.ofNat ('0'.toNat + value) else Char.ofNat ('A'.toNat + (value - 10))

def escapeOf (c : Char) : List Char :=
  match c with
  | '\x08' => ['\\', 'b']
  | '\t' => ['\\', 't']
  | '\n' => ['\\', 'n']
  | '\x0c' => ['\\', 'f']
  | '\r' => ['\\', 'r']
  | '\x22' => ['\\', '\x22']
  | '\\' => ['\\', '\\']
  | _ => ['\\', 'u', '0', '0', upperHexDigit (c.toNat / 16), upperHexDigit (c.toNat % 16)]

/-- Whether a character is escaped; quotes apart. -/
def isEscaped (severalLines : Bool) (c : Char) : Bool :=
  needsCode c || c = '\t' || c = '\\' || (c = '\n' && !severalLines)

/-- The text between double quotes, after a run of quotes.  On several lines two quotes in a
row stay, and the third is escaped. -/
def escapeFrom (severalLines : Bool) (run : Nat) : List Char → List Char
  | [] => []
  | '\x22' :: rest =>
      if severalLines && run < 2 then '\x22' :: escapeFrom severalLines (run + 1) rest
      else '\\' :: '\x22' :: escapeFrom severalLines 0 rest
  | c :: rest =>
      (if isEscaped severalLines c then escapeOf c else [c]) ++ escapeFrom severalLines 0 rest

/-- A line end after the opening quotes of a text that holds one. -/
def opening (text : List Char) : List Char :=
  if text.contains '\n' then ['\n'] else []

def writeChars (text : List Char) : List Char :=
  let doubles := ['\x22', '\x22', '\x22']
  let singles := ['\x27', '\x27', '\x27']
  match formOf text with
  | .basic => '\x22' :: escapeFrom false 0 text ++ ['\x22']
  | .literal => '\x27' :: text ++ ['\x27']
  | .basicLines => doubles ++ opening text ++ escapeFrom true 0 text ++ doubles
  | .literalLines => singles ++ opening text ++ text ++ singles

def writeString (text : String) : String :=
  String.ofList (writeChars text.toList)

end DocsConsole.Toml
