/-!
# Characters from bytes

Reads UTF-8.  Bytes that belong to no character are kept apart as `none`, one for
each longest run that could still have begun a character, so that a reader can
decide for itself what to do about them.
-/

namespace DocsConsole.Utf8

/-- A character of which some bytes have been read. -/
structure Partial where
  /-- The bits read so far. -/
  code : Nat
  /-- How many bytes are still to come. -/
  missing : Nat
  /-- The next byte lies in this range. -/
  low : Nat
  high : Nat

/-- What one byte settles: the characters that end with it, and one that goes on. -/
abbrev Progress := List (Option Char) × Option Partial

/-- Reads a byte at which a character begins. -/
def begin (byte : Nat) : Progress :=
  if byte < 0x80 then ([some (Char.ofNat byte)], none)
  else if byte < 0xC2 then ([none], none)
  else if byte < 0xE0 then ([], some ⟨byte - 0xC0, 1, 0x80, 0xBF⟩)
  else if byte = 0xE0 then ([], some ⟨0, 2, 0xA0, 0xBF⟩)
  else if byte = 0xED then ([], some ⟨0xD, 2, 0x80, 0x9F⟩)
  else if byte < 0xF0 then ([], some ⟨byte - 0xE0, 2, 0x80, 0xBF⟩)
  else if byte = 0xF0 then ([], some ⟨0, 3, 0x90, 0xBF⟩)
  else if byte < 0xF4 then ([], some ⟨byte - 0xF0, 3, 0x80, 0xBF⟩)
  else if byte = 0xF4 then ([], some ⟨4, 3, 0x80, 0x8F⟩)
  else ([none], none)

/-- Reads a byte after those of a character that has begun. -/
def resume (started : Partial) (byte : Nat) : Progress :=
  if started.low ≤ byte ∧ byte ≤ started.high then
    let code := started.code * 64 + (byte - 0x80)
    if started.missing ≤ 1 then ([some (Char.ofNat code)], none)
    else ([], some ⟨code, started.missing - 1, 0x80, 0xBF⟩)
  else
    let progress := begin byte
    (none :: progress.1, progress.2)

/-- Reads the bytes that follow a character of which some bytes have been read. -/
def decodeFrom : Option Partial → List UInt8 → List (Option Char)
  | none, [] => []
  | some _, [] => [none]
  | none, byte :: rest =>
      let progress := begin byte.toNat
      progress.1 ++ decodeFrom progress.2 rest
  | some started, byte :: rest =>
      let progress := resume started byte.toNat
      progress.1 ++ decodeFrom progress.2 rest

/-- The characters of a sequence of bytes. -/
def decode (bytes : ByteArray) : List (Option Char) :=
  decodeFrom none bytes.data.toList

/-- The text of a sequence of bytes, if all of them belong to characters. -/
def text? (bytes : ByteArray) : Option String :=
  ((decode bytes).mapM id).map String.ofList

/-- The text of a sequence of bytes with a replacement for those outside characters. -/
def replacing (bytes : ByteArray) : String :=
  String.ofList ((decode bytes).map (·.getD '\ufffd'))

end DocsConsole.Utf8
