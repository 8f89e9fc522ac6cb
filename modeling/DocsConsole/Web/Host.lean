import DocsConsole.CoreInstances
import DocsConsole.Text.Utf8
import DocsConsole.Unicode.Casing
import DocsConsole.Web.Percent

/-!
# Hosts

A host is a domain or a number: a domain whose last label is a number has to be
an address of four bytes, and brackets hold an address of eight groups.
-/

namespace DocsConsole.Web

open scoped CoreInstances

/-- A number of one part of a numeric address, with the base that its beginning gives. -/
def hostNumber? (part : List Char) : Option Nat :=
  let (base, digits) : Nat × List Char :=
    match part with
    | '0' :: 'x' :: rest => (16, rest)
    | '0' :: 'X' :: rest => (16, rest)
    | '0' :: next :: rest => (8, next :: rest)
    | _ => (10, part)
  let values := digits.map fun c => (hexDigit? (UInt8.ofNat c.toNat)).filter (· < base)
  if part.isEmpty then none
  else if values.all (·.isSome) then
    some (values.foldl (fun total value => total * base + value.getD 0) 0)
  else none

/-- The parts of a domain between its dots, without an empty one at the end. -/
def hostParts (domain : List Char) : List (List Char) :=
  let parts := Unicode.pieces (· = '.') domain
  if parts.length > 1 ∧ parts.getLast? = some [] then parts.dropLast else parts

def endsInNumber (domain : List Char) : Bool :=
  match (hostParts domain).getLast? with
  | some last =>
      (!last.isEmpty && last.all Char.isDigit) || (hostNumber? last).isSome
  | none => false

/-- Whether a domain that ends in a number is an address of four bytes.  The last number
stands for all bytes that the others leave open. -/
def isNumericAddress (domain : List Char) : Bool :=
  let parts := hostParts domain
  let numbers := parts.map hostNumber?
  parts.length ≤ 4 && numbers.all (·.isSome) &&
    numbers.dropLast.all (fun number => number.getD 0 ≤ 255) &&
    decide ((numbers.getLast?.join).getD 0 < 256 ^ (5 - parts.length))

/-- Whether a text is a group of an address in brackets. -/
def isGroup (text : List Char) : Bool :=
  !text.isEmpty && text.length ≤ 4 &&
    text.all fun c => (hexDigit? (UInt8.ofNat c.toNat)).isSome && c.toNat < 0x80

/-- Whether a text is a byte in decimal, without leading zeros. -/
def isDecimalByte (text : List Char) : Bool :=
  !text.isEmpty && text.length ≤ 3 && text.all Char.isDigit &&
    (text.length = 1 || text.head? ≠ some '0') && Unicode.decimalValue text ≤ 255

/-- The number of groups that some texts between colons stand for, if they are groups.  The
last may be four decimal bytes, which are two groups. -/
def groupCount? (final : Bool) : List (List Char) → Option Nat
  | [] => some 0
  | [last] =>
      let bytes := Unicode.pieces (· = '.') last
      if isGroup last then some 1
      else if final && bytes.length = 4 && bytes.all isDecimalByte then some 2
      else none
  | group :: rest =>
      if isGroup group then (groupCount? final rest).map (· + 1) else none

/-- The two sides of the first double colon. -/
def doubleColon? (before : List Char) : List Char → Option (List Char × List Char)
  | ':' :: ':' :: rest => some (before.reverse, rest)
  | c :: rest => doubleColon? (c :: before) rest
  | [] => none

/-- The texts between the colons of one side of an address. -/
def groupsOf (side : List Char) : List (List Char) :=
  if side.isEmpty then [] else Unicode.pieces (· = ':') side

/-- Whether a text in brackets is an address of eight groups.  A double colon stands for
groups that are zero. -/
def isGroupedAddress (text : List Char) : Bool :=
  match doubleColon? [] text with
  | none => groupCount? true (groupsOf text) = some 8
  | some (before, after) =>
      match groupCount? false (groupsOf before), groupCount? true (groupsOf after) with
      | some left, some right => left + right ≤ 7
      | _, _ => false

/-- The characters that no domain holds. -/
def isForbiddenInDomain (c : Char) : Bool :=
  c.toNat ≤ 0x20 || c.toNat = 0x7F || "%#/:<>?@[\\]^|".toList.contains c

def readHost? (source : List Char) : Option String :=
  match source with
  | '[' :: rest =>
      if rest.getLast? = some ']' ∧ isGroupedAddress rest.dropLast then
        some (Unicode.lower (String.ofList source))
      else none
  | _ =>
      match Utf8.text? (percentDecode (String.ofList source)) with
      | none => none
      | some decoded =>
          let domain := (Unicode.lower decoded).toList
          if domain.isEmpty || domain.any isForbiddenInDomain then none
          else if endsInNumber domain && !isNumericAddress domain then none
          else some (String.ofList domain)

end DocsConsole.Web
