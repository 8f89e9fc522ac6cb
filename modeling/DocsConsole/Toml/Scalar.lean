import DocsConsole.CoreInstances
import DocsConsole.Toml.Value
import DocsConsole.Unicode.Ranges

/-!
# Numbers, dates and truth values in TOML

These are written without quotes, so each of them is a word of letters, digits
and a few marks, and the whole word decides what it is.
-/

namespace DocsConsole.Toml

open scoped CoreInstances

def isWordChar (c : Char) : Bool :=
  c.isAlphanum || "_+-.:".toList.contains c

/-- Digits of a base, with single underscores between them. -/
def digits? (isDigit : Char → Bool) (word : List Char) : Option (List Char) :=
  let groups := Unicode.pieces (· = '_') word
  if groups.all (fun group => !group.isEmpty && group.all isDigit) then some groups.flatten
  else none

/-- Decimal digits without leading zeros. -/
def wholeDigits? (word : List Char) : Option (List Char) :=
  match digits? Char.isDigit word with
  | some ('0' :: _ :: _) => none
  | found => found

/-- A word without its sign, and whether the sign is a minus. -/
def splitSign : List Char → Bool × List Char
  | '-' :: rest => (true, rest)
  | '+' :: rest => (false, rest)
  | word => (false, word)

/-- The number written by digits of a base up to sixteen. -/
def baseValue (base : Nat) (digits : List Char) : Nat :=
  digits.foldl (fun total digit => total * base + Unicode.hexDigitValue digit) 0

/-- An integer of 64 bits. -/
def inRange (value : Int) : Option Int :=
  if -(2 ^ (63 : Nat)) ≤ value ∧ value < 2 ^ (63 : Nat) then some value else none

def integer? (word : List Char) : Option Int :=
  match word with
  | '0' :: 'x' :: rest =>
      (digits? Unicode.isHexDigit rest).bind fun digits => inRange (baseValue 16 digits)
  | '0' :: 'o' :: rest =>
      (digits? (fun c => '0' ≤ c && c ≤ '7') rest).bind fun digits => inRange (baseValue 8 digits)
  | '0' :: 'b' :: rest =>
      (digits? (fun c => c = '0' || c = '1') rest).bind fun digits => inRange (baseValue 2 digits)
  | _ =>
      let (negative, rest) := splitSign word
      (wholeDigits? rest).bind fun digits =>
        let value : Int := baseValue 10 digits
        inRange (if negative then -value else value)

/-- Whether digits times a power of ten are too large for a double. -/
def exceedsDouble (digits : List Char) (exponent : Int) : Bool :=
  let significant := digits.dropWhile (· = '0')
  let magnitude : Int := significant.length + exponent
  if significant.isEmpty || magnitude < 308 then false
  else if 310 < magnitude then true
  else
    let limit := 2 ^ (1024 : Nat) - 2 ^ (970 : Nat)
    if 0 ≤ exponent then decide (limit ≤ baseValue 10 significant * 10 ^ exponent.toNat)
    else decide (limit * 10 ^ (-exponent).toNat ≤ baseValue 10 significant)

/-- The parts of a word around the first of some characters. -/
def splitAtFirst (splits : Char → Bool) (word : List Char) : List Char × Option (List Char) :=
  match word.dropWhile (!splits ·) with
  | _ :: rest => (word.takeWhile (!splits ·), some rest)
  | [] => (word, none)

/-- Whether a word is a number with a fraction or an exponent.  A positive one must not be too
large. -/
def isFloat (word : List Char) : Bool :=
  let (negative, unsigned) := splitSign word
  if unsigned = "inf".toList || unsigned = "nan".toList then true
  else
    let (mantissa, exponent) := splitAtFirst (fun c => c = 'e' || c = 'E') unsigned
    let (whole, fraction) := splitAtFirst (· = '.') mantissa
    let exponentSign := splitSign (exponent.getD ['0'])
    match wholeDigits? whole, digits? Char.isDigit (fraction.getD ['0']),
        digits? Char.isDigit exponentSign.2 with
    | some wholeDigits, some fractionDigits, some exponentDigits =>
        let power : Int := baseValue 10 exponentDigits
        let signedPower := if exponentSign.1 then -power else power
        let places := if fraction.isSome then fractionDigits.length else 0
        let digits := if fraction.isSome then wholeDigits ++ fractionDigits else wholeDigits
        (fraction.isSome || exponent.isSome) &&
          (negative || !exceedsDouble digits (signedPower - places))
    | _, _, _ => false

/-- A number of exactly so many digits. -/
def fixedNumber? (count : Nat) (word : List Char) : Option Nat :=
  if word.length = count ∧ word.all Char.isDigit then some (Unicode.decimalValue word) else none

def daysIn (year month : Nat) : Nat :=
  if month = 2 then
    if year % 4 = 0 ∧ (year % 100 ≠ 0 ∨ year % 400 = 0) then 29 else 28
  else if [4, 6, 9, 11].contains month then 30
  else 31

def isDay (word : List Char) : Bool :=
  match (Unicode.pieces (· = '-') word) with
  | [yearText, monthText, dayText] =>
      match fixedNumber? 4 yearText, fixedNumber? 2 monthText, fixedNumber? 2 dayText with
      | some year, some month, some day =>
          1 ≤ month && month ≤ 12 && 1 ≤ day && day ≤ daysIn year month
      | _, _, _ => false
  | _ => false

/-- Whether a word is a number of two digits up to a limit. -/
def isPart (limit : Nat) (word : List Char) : Bool :=
  match fixedNumber? 2 word with
  | some value => value ≤ limit
  | none => false

def isTime (word : List Char) : Bool :=
  let (clock, fraction) := splitAtFirst (· = '.') word
  let fractionFits :=
    match fraction with
    | none => true
    | some digits => !digits.isEmpty && digits.all Char.isDigit
  match Unicode.pieces (· = ':') clock with
  | [hour, minute, second] =>
      isPart 23 hour && isPart 59 minute && isPart 60 second && fractionFits
  | _ => false

/-- Whether a word is a time of day, perhaps with its distance from universal time. -/
def isZonedTime (word : List Char) : Bool :=
  let (time, offset) := splitAtFirst (fun c => c = '+' || c = '-') word
  match offset with
  | some distance =>
      isTime time &&
        match Unicode.pieces (· = ':') distance with
        | [hour, minute] => isPart 23 hour && isPart 59 minute
        | _ => false
  | none =>
      isTime word ||
        ((word.getLast? = some 'Z' || word.getLast? = some 'z') && isTime word.dropLast)

/-- Whether a word is a day, a time, or both joined by a letter `T`. -/
def isDate (word : List Char) : Bool :=
  isTime word || isDay word ||
    (isDay (word.take 10) && (word.drop 10).head?.any (fun c => c = 'T' || c = 't') &&
      isZonedTime (word.drop 11))

/-- The value that a word stands for. -/
def scalar? (word : List Char) : Option Value :=
  if word = "true".toList then some (.boolean true)
  else if word = "false".toList then some (.boolean false)
  else
    match integer? word with
    | some value => some (.integer value)
    | none =>
        if isFloat word then some .float
        else if isDate word then some .date
        else none

/-- Reads a value without quotes.  A day and a time may be joined by a space. -/
def readScalar (source : List Char) : Option (Value × List Char) :=
  let word := source.takeWhile isWordChar
  let rest := source.drop word.length
  match rest with
  | ' ' :: more =>
      let time := more.takeWhile isWordChar
      if isDay word && isZonedTime time then some (.date, more.drop time.length)
      else (scalar? word).map fun value => (value, rest)
  | _ => (scalar? word).map fun value => (value, rest)

end DocsConsole.Toml
