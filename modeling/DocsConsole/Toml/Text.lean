import DocsConsole.Unicode.Ranges

/-!
# Text in TOML

Strings come in four forms: between double quotes with escapes or between single
quotes without them, and each on one line or, with tripled quotes, on several.
A reader takes the characters after the opening quotes and gives the text and
what follows the closing ones.
-/

namespace DocsConsole.Toml

/-- A space or a tab. -/
def isBlank (c : Char) : Bool :=
  c = ' ' || c = '\t'

/-- A character that may stand in a comment, and in a string if it is no quote or backslash. -/
def isPlain (c : Char) : Bool :=
  c = '\t' || (0x20 ≤ c.toNat && c.toNat ≤ 0x7E) || 0x80 ≤ c.toNat

/-- What a reader gives: what it has read, and the rest. -/
abbrev Reading (α : Type) := Option (α × List Char)

/-- Puts a character before a text that was read. -/
def Reading.cons (c : Char) (reading : Reading (List Char)) : Reading (List Char) :=
  reading.map fun (text, rest) => (c :: text, rest)

/-- The character that a letter after a backslash stands for. -/
def escaped? : Char → Option Char
  | 'b' => some '\x08'
  | 't' => some '\t'
  | 'n' => some '\n'
  | 'f' => some '\x0c'
  | 'r' => some '\r'
  | '\x22' => some '\x22'
  | '\\' => some '\\'
  | _ => none

/-- The character with a number in hexadecimal. -/
def numbered? (digits : List Char) : Option Char :=
  let code := Unicode.hexValue digits
  if digits.all Unicode.isHexDigit ∧ code.isValidChar then some (Char.ofNat code) else none

/-- Reads a string on one line with escapes. -/
def basic : List Char → Reading (List Char)
  | [] => none
  | '\x22' :: rest => some ([], rest)
  | '\\' :: 'u' :: a :: b :: c :: d :: rest =>
      match numbered? [a, b, c, d] with
      | some character => (basic rest).cons character
      | none => none
  | '\\' :: 'U' :: a :: b :: c :: d :: e :: f :: g :: h :: rest =>
      match numbered? [a, b, c, d, e, f, g, h] with
      | some character => (basic rest).cons character
      | none => none
  | '\\' :: letter :: rest =>
      match escaped? letter with
      | some character => (basic rest).cons character
      | none => none
  | c :: rest => if isPlain c && c ≠ '\\' then (basic rest).cons c else none

/-- Reads a string on one line without escapes. -/
def literal : List Char → Reading (List Char)
  | [] => none
  | '\x27' :: rest => some ([], rest)
  | c :: rest => if isPlain c then (literal rest).cons c else none

/-- Where the reader of a string on several lines stands. -/
inductive Joint where
  | text
  /-- After a backslash and blanks; a line end has to come. -/
  | beforeLineEnd
  /-- After such a line end; blanks and line ends do not count. -/
  | afterLineEnd
deriving DecidableEq

/-- Reads a string on several lines with escapes. -/
def basicLines (joint : Joint) : List Char → Reading (List Char)
  | [] => none
  | '\r' :: '\n' :: rest =>
      if joint = .text then (basicLines .text rest).cons '\n' else basicLines .afterLineEnd rest
  | '\n' :: rest =>
      if joint = .text then (basicLines .text rest).cons '\n' else basicLines .afterLineEnd rest
  | ' ' :: rest =>
      if joint = .text then (basicLines .text rest).cons ' ' else basicLines joint rest
  | '\t' :: rest =>
      if joint = .text then (basicLines .text rest).cons '\t' else basicLines joint rest
  | '\x22' :: '\x22' :: '\x22' :: '\x22' :: '\x22' :: rest =>
      if joint = .beforeLineEnd then none else some (['\x22', '\x22'], rest)
  | '\x22' :: '\x22' :: '\x22' :: '\x22' :: rest =>
      if joint = .beforeLineEnd then none else some (['\x22'], rest)
  | '\x22' :: '\x22' :: '\x22' :: rest =>
      if joint = .beforeLineEnd then none else some ([], rest)
  | '\\' :: 'u' :: a :: b :: c :: d :: rest =>
      match joint, numbered? [a, b, c, d] with
      | .beforeLineEnd, _ | _, none => none
      | _, some character => (basicLines .text rest).cons character
  | '\\' :: 'U' :: a :: b :: c :: d :: e :: f :: g :: h :: rest =>
      match joint, numbered? [a, b, c, d, e, f, g, h] with
      | .beforeLineEnd, _ | _, none => none
      | _, some character => (basicLines .text rest).cons character
  | '\\' :: '\r' :: '\n' :: rest =>
      if joint = .beforeLineEnd then none else basicLines .afterLineEnd rest
  | '\\' :: letter :: rest =>
      if joint = .beforeLineEnd then none
      else if letter = '\n' then basicLines .afterLineEnd rest
      else if isBlank letter then basicLines .beforeLineEnd rest
      else
        match escaped? letter with
        | some character => (basicLines .text rest).cons character
        | none => none
  | c :: rest =>
      if joint ≠ .beforeLineEnd && isPlain c && c ≠ '\\' then (basicLines .text rest).cons c
      else none

/-- Reads a string on several lines without escapes. -/
def literalLines : List Char → Reading (List Char)
  | [] => none
  | '\x27' :: '\x27' :: '\x27' :: '\x27' :: '\x27' :: rest => some (['\x27', '\x27'], rest)
  | '\x27' :: '\x27' :: '\x27' :: '\x27' :: rest => some (['\x27'], rest)
  | '\x27' :: '\x27' :: '\x27' :: rest => some ([], rest)
  | '\r' :: '\n' :: rest => (literalLines rest).cons '\n'
  | '\n' :: rest => (literalLines rest).cons '\n'
  | c :: rest => if isPlain c then (literalLines rest).cons c else none

/-- A text without a line end at its beginning. -/
def withoutLineEnd : List Char → List Char
  | '\n' :: rest => rest
  | '\r' :: '\n' :: rest => rest
  | text => text

/-- Reads a string of any form. -/
def string? : List Char → Reading (List Char)
  | '\x22' :: '\x22' :: '\x22' :: rest => basicLines .text (withoutLineEnd rest)
  | '\x27' :: '\x27' :: '\x27' :: rest => literalLines (withoutLineEnd rest)
  | '\x22' :: rest => basic rest
  | '\x27' :: rest => literal rest
  | _ => none

end DocsConsole.Toml
