import DocsConsole.Json.Number
import DocsConsole.Unicode.Ranges

/-!
# JSON tokens

A JSON text is split into brackets, marks, words, numbers and strings.  The
source is a list of characters in which `none` stands for bytes that belong to
no character; such bytes may stand in a string, which then has no text.
-/

namespace DocsConsole

inductive JsonToken where
  | openObject
  | closeObject
  | openArray
  | closeArray
  | colon
  | comma
  | null
  | bool (value : Bool)
  /-- A number; it has no value when it is too large. -/
  | number (value : Option JsonNumber)
  /-- A string; it has no text when it holds half a surrogate pair or stray bytes. -/
  | string (text : Option String)
deriving DecidableEq, Repr

/-- What stands between the quotes of a string. -/
inductive StringUnit where
  | char (c : Char)
  /-- A code unit of sixteen bits, written in hexadecimal. -/
  | unit (code : Nat)
  | stray
deriving DecidableEq, Repr

namespace StringUnit

/-- Whether a code unit is the first of a surrogate pair. -/
def isLeading (code : Nat) : Bool :=
  0xD800 ≤ code && code < 0xDC00

/-- Whether a code unit is the second of a surrogate pair. -/
def isTrailing (code : Nat) : Bool :=
  0xDC00 ≤ code && code < 0xE000

/-- The characters that some units stand for, if they stand for characters. -/
def characters? : List StringUnit → Option (List Char)
  | [] => some []
  | .char c :: rest => (characters? rest).map (c :: ·)
  | .stray :: _ => none
  | .unit first :: .unit second :: rest =>
      if isLeading first && isTrailing second then
        (characters? rest).map
          (Char.ofNat (0x10000 + (first - 0xD800) * 1024 + (second - 0xDC00)) :: ·)
      else if isLeading first || isTrailing first then none
      else (characters? (.unit second :: rest)).map (Char.ofNat first :: ·)
  | .unit code :: rest =>
      if isLeading code || isTrailing code then none
      else (characters? rest).map (Char.ofNat code :: ·)

end StringUnit

namespace JsonToken

/-- A JSON text to be read. -/
abbrev Source := List (Option Char)

/-- The character that a letter after a backslash stands for. -/
def escaped? : Char → Option Char
  | '"' => some '"'
  | '\\' => some '\\'
  | '/' => some '/'
  | 'b' => some '\x08'
  | 'f' => some '\x0c'
  | 'n' => some '\n'
  | 'r' => some '\r'
  | 't' => some '\t'
  | _ => none

/-- The units of a string up to its closing quote, and the rest of the source. -/
def stringUnits : Source → Option (List StringUnit × Source)
  | [] => none
  | none :: rest => (stringUnits rest).map fun found => (.stray :: found.1, found.2)
  | some '"' :: rest => some ([], rest)
  | some '\\' :: some 'u' :: some a :: some b :: some c :: some d :: rest =>
      if [a, b, c, d].all Unicode.isHexDigit then
        (stringUnits rest).map fun found =>
          (.unit (Unicode.hexValue [a, b, c, d]) :: found.1, found.2)
      else none
  | some '\\' :: some letter :: rest =>
      match escaped? letter with
      | some c => (stringUnits rest).map fun found => (.char c :: found.1, found.2)
      | none => none
  | some c :: rest =>
      if c < ' ' || c = '\\' then none
      else (stringUnits rest).map fun found => (.char c :: found.1, found.2)

/-- The digits at the start of a source, and the rest. -/
def digits : Source → List Nat × Source
  | some c :: rest =>
      if c.isDigit then
        let found := digits rest
        ((c.toNat - '0'.toNat) :: found.1, found.2)
      else ([], some c :: rest)
  | source => ([], source)

/-- The digits after the point of a number. -/
def fraction? : Source → Option (List Nat × Source)
  | some '.' :: rest =>
      match digits rest with
      | ([], _) => none
      | found => some found
  | source => some ([], source)

/-- The sign and the digits of the exponent of a number. -/
def exponentDigits? (negative : Bool) (source : Source) :
    Option (Option (Bool × List Nat) × Source) :=
  match digits source with
  | ([], _) => none
  | (found, rest) => some (some (negative, found), rest)

def exponent? : Source → Option (Option (Bool × List Nat) × Source)
  | some 'e' :: some '-' :: rest | some 'E' :: some '-' :: rest => exponentDigits? true rest
  | some 'e' :: some '+' :: rest | some 'E' :: some '+' :: rest => exponentDigits? false rest
  | some 'e' :: rest | some 'E' :: rest => exponentDigits? false rest
  | source => some (none, source)

/-- A number without its sign.  It begins with zero only if that is its whole part. -/
def unsigned? (negative : Bool) (source : Source) : Option (NumberLiteral × Source) :=
  match digits source with
  | ([], _) | (0 :: _ :: _, _) => none
  | (whole, afterWhole) => do
      let (fraction, afterFraction) ← fraction? afterWhole
      let (exponent, rest) ← exponent? afterFraction
      some (⟨negative, whole, fraction, exponent⟩, rest)

/-- A number at the start of a source. -/
def number? : Source → Option (NumberLiteral × Source)
  | some '-' :: rest => unsigned? true rest
  | source => unsigned? false source

/-- The blanks of a JSON text. -/
def isBlank (c : Char) : Bool :=
  c = ' ' || c = '\n' || c = '\t' || c = '\r'

/-- The token at the start of a source that begins with the given character. -/
def next? (first : Char) (rest : Source) : Option (JsonToken × Source) :=
  match first with
  | '\x7b' => some (.openObject, rest)
  | '\x7d' => some (.closeObject, rest)
  | '[' => some (.openArray, rest)
  | ']' => some (.closeArray, rest)
  | ':' => some (.colon, rest)
  | ',' => some (.comma, rest)
  | '"' =>
      (stringUnits rest).map fun (units, after) =>
        (.string ((StringUnit.characters? units).map String.ofList), after)
  | 'n' =>
      match rest with
      | some 'u' :: some 'l' :: some 'l' :: after => some (.null, after)
      | _ => none
  | 't' =>
      match rest with
      | some 'r' :: some 'u' :: some 'e' :: after => some (.bool true, after)
      | _ => none
  | 'f' =>
      match rest with
      | some 'a' :: some 'l' :: some 's' :: some 'e' :: after => some (.bool false, after)
      | _ => none
  | _ => (number? (some first :: rest)).map fun (literal, after) => (.number literal.value?, after)

/-- The tokens of a source.  Each takes at least one character, so the length of the source
bounds their number. -/
def scan (fuel : Nat) (source : Source) : Option (List JsonToken) :=
  match fuel, source with
  | _, [] => some []
  | 0, _ => none
  | _, none :: _ => none
  | less + 1, some first :: rest =>
      if isBlank first then scan less rest
      else
        match next? first rest with
        | some (token, after) => (scan less after).map (token :: ·)
        | none => none

/-- The tokens of a JSON text. -/
def ofSource (source : Source) : Option (List JsonToken) :=
  scan source.length source

/-- A lowercase hexadecimal digit. -/
def hexDigit (value : Nat) : Char :=
  if value < 10 then Char.ofNat ('0'.toNat + value) else Char.ofNat ('a'.toNat + (value - 10))

/-- A character between the quotes of a string. -/
def escape (c : Char) : List Char :=
  match c with
  | '"' => ['\\', '"']
  | '\\' => ['\\', '\\']
  | '\x08' => ['\\', 'b']
  | '\x0c' => ['\\', 'f']
  | '\n' => ['\\', 'n']
  | '\r' => ['\\', 'r']
  | '\t' => ['\\', 't']
  | _ =>
      if c < ' ' then ['\\', 'u', '0', '0', hexDigit (c.toNat / 16), hexDigit (c.toNat % 16)]
      else [c]

def quote (text : String) : List Char :=
  '"' :: text.toList.flatMap escape ++ ['"']

def write : JsonToken → List Char
  | .openObject => ['\x7b']
  | .closeObject => ['\x7d']
  | .openArray => ['[']
  | .closeArray => [']']
  | .colon => [':']
  | .comma => [',']
  | .null => "null".toList
  | .bool true => "true".toList
  | .bool false => "false".toList
  | .number value => (value.map JsonNumber.write).getD "" |>.toList
  | .string text => quote (text.getD "")

end JsonToken

end DocsConsole
