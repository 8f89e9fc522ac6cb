import DocsConsole.Unicode.Printable

/-!
# Quoted text

A text between double quotes, on one line and with nothing invisible in it:
quotes, backslashes and common controls are written with a backslash, and other
characters that cannot be seen by their number.
-/

namespace DocsConsole.Text

/-- A number in lowercase hexadecimal. -/
def hexadecimal (value : Nat) : List Char :=
  Nat.toDigits 16 value

/-- The written form of a character between quotes. -/
def quoteChar (c : Char) : List Char :=
  match c with
  | '\x00' => ['\\', '0']
  | '\t' => ['\\', 't']
  | '\r' => ['\\', 'r']
  | '\n' => ['\\', 'n']
  | '\\' => ['\\', '\\']
  | '\x22' => ['\\', '\x22']
  | _ =>
      if Unicode.extendsGrapheme c || !Unicode.isPrintable c then
        ['\\', 'u', '\x7b'] ++ hexadecimal c.toNat ++ ['\x7d']
      else [c]

def quoted (text : String) : String :=
  String.ofList ('\x22' :: text.toList.flatMap quoteChar ++ ['\x22'])

end DocsConsole.Text
