import DocsConsole.Html.Escape

/-!
# Percent encoding

Inside an address a byte can be written as a percent sign and two hexadecimal
digits.
-/

namespace DocsConsole.Web

/-- The value of a hexadecimal digit, given as a byte. -/
def hexDigit? (byte : UInt8) : Option Nat :=
  let code := byte.toNat
  if 0x30 ≤ code ∧ code ≤ 0x39 then some (code - 0x30)
  else if 0x41 ≤ code ∧ code ≤ 0x46 then some (code - 0x41 + 10)
  else if 0x61 ≤ code ∧ code ≤ 0x66 then some (code - 0x61 + 10)
  else none

/-- Reads encoded bytes back.  A percent sign without two digits stands for itself. -/
def percentDecodeBytes : List UInt8 → List UInt8
  | 0x25 :: high :: low :: rest =>
      match hexDigit? high, hexDigit? low with
      | some h, some l => UInt8.ofNat (h * 16 + l) :: percentDecodeBytes rest
      | _, _ => 0x25 :: percentDecodeBytes (high :: low :: rest)
  | byte :: rest => byte :: percentDecodeBytes rest
  | [] => []
termination_by bytes => bytes.length

/-- The bytes that an encoded text stands for. -/
def percentDecode (text : String) : ByteArray :=
  ⟨(percentDecodeBytes text.toUTF8.data.toList).toArray⟩

/-- Writes a text, encoding the ASCII characters of a set and all others outside ASCII. -/
def percentEncode (encoded : Char → Bool) (text : List Char) : List Char :=
  text.flatMap fun c =>
    if c.toNat < 0x20 || 0x7F ≤ c.toNat || encoded c then
      (String.utf8EncodeChar c).flatMap Html.percentEncode
    else [c]

def encodedInPath (c : Char) : Bool :=
  " \x22<>\x60#?\x7b\x7d".toList.contains c

def encodedInQuery (c : Char) : Bool :=
  " \x22#<>\x27".toList.contains c

end DocsConsole.Web
