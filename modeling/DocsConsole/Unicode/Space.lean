import DocsConsole.Unicode.Ranges

/-!
# White space

The property `White_Space`, and trimming by it.  It is wider than the blanks of
ASCII: the no-break space and the ideographic space belong to it, the zero
width space and the byte order mark do not.
-/

namespace DocsConsole.Unicode

/-- The property `White_Space`. -/
def isSpace (c : Char) : Bool :=
  c = ' ' || (0x09 ≤ c.toNat && c.toNat ≤ 0x0D) || c.toNat = 0x85 || c.toNat = 0xA0 ||
    c.toNat = 0x1680 || (0x2000 ≤ c.toNat && c.toNat ≤ 0x200A) || c.toNat = 0x2028 ||
    c.toNat = 0x2029 || c.toNat = 0x202F || c.toNat = 0x205F || c.toNat = 0x3000

/-- Drops the members of a class from the end of a list. -/
def dropEndWhile (belongs : Char → Bool) (cs : List Char) : List Char :=
  (cs.reverse.dropWhile belongs).reverse

/-- The characters without the white space at either end. -/
def trimChars (cs : List Char) : List Char :=
  dropEndWhile isSpace (cs.dropWhile isSpace)

/-- The text without the white space at either end. -/
def trim (text : String) : String :=
  String.ofList (trimChars text.toList)

end DocsConsole.Unicode
