/-!
# Escaping

Text is written into markup with four of its characters replaced by character
references, so that it can end neither an element nor an attribute value.
`unescapeChars` is the inverse.
-/

namespace DocsConsole.Html

/-- The written form of one character. -/
def escapeChar (c : Char) : List Char :=
  if c = '\x22' then "&quot;".toList
  else if c = '&' then "&amp;".toList
  else if c = '<' then "&lt;".toList
  else if c = '>' then "&gt;".toList
  else [c]

def escapeChars (text : List Char) : List Char :=
  text.flatMap escapeChar

def escape (text : String) : String :=
  String.ofList (escapeChars text.toList)

/-- Reads the four references back; everything else stands for itself. -/
def unescapeChars : List Char → List Char
  | '&' :: 'q' :: 'u' :: 'o' :: 't' :: ';' :: rest => '\x22' :: unescapeChars rest
  | '&' :: 'a' :: 'm' :: 'p' :: ';' :: rest => '&' :: unescapeChars rest
  | '&' :: 'l' :: 't' :: ';' :: rest => '<' :: unescapeChars rest
  | '&' :: 'g' :: 't' :: ';' :: rest => '>' :: unescapeChars rest
  | c :: rest => c :: unescapeChars rest
  | [] => []

def hexDigits : List Char := "0123456789ABCDEF".toList

/-- The two hexadecimal digits of a byte, after a percent sign. -/
def percentEncode (byte : UInt8) : List Char :=
  ['%', hexDigits.getD (byte.toNat / 16) '0', hexDigits.getD (byte.toNat % 16) '0']

/-- The ASCII characters that stand for themselves in a link destination. -/
def isSafeInAddress (c : Char) : Bool :=
  c.isAlphanum || "!#$%()*+,-./:;=?@_~".toList.contains c

/-- The written form of one character of a link destination. -/
def escapeAddressChar (c : Char) : List Char :=
  if isSafeInAddress c then [c]
  else if c = '&' then "&amp;".toList
  else if c = '\x27' then "&#x27;".toList
  else (String.utf8EncodeChar c).flatMap percentEncode

def escapeAddress (text : String) : String :=
  String.ofList (text.toList.flatMap escapeAddressChar)

end DocsConsole.Html
