import DocsConsole.CoreInstances

/-!
# Shortest decimals

A double is written with the fewest digits that read back as the same double,
and among these with the decimal nearest to it.  The reals that read back as a
double form an interval, so the search is exact arithmetic on natural numbers:
a grid of decimals is tried for one digit, two digits and so on, and on each
grid only the two neighbours of the value can be the answer.
-/

namespace DocsConsole

open scoped CoreInstances

/-- A positive decimal: digits times a power of ten. -/
structure Decimal where
  digits : Nat
  exponent : Int
deriving DecidableEq, Repr, Inhabited

namespace Decimal

/-- A positive rational. -/
structure Ratio where
  numerator : Nat
  denominator : Nat

/-- The value and the interval of a double, as multiples of one unit. -/
structure Interval where
  low : Nat
  value : Nat
  high : Nat
  /-- Whether the ends read back as the double too. -/
  closed : Bool
  /-- The size of the unit. -/
  unit : Ratio

/-- The interval of the double `mantissa · 2 ^ exponent`.  Below a power of two the doubles
lie twice as close. -/
def Interval.ofBinary (mantissa : Nat) (exponent : Int) (lowest : Bool) : Interval :=
  let below := if mantissa = 2 ^ (52 : Nat) ∧ !lowest then 1 else 2
  let unitExponent := exponent - 2
  ⟨4 * mantissa - below, 4 * mantissa, 4 * mantissa + 2, mantissa % 2 = 0,
    if 0 ≤ unitExponent then ⟨2 ^ unitExponent.toNat, 1⟩ else ⟨1, 2 ^ (-unitExponent).toNat⟩⟩

namespace Interval

/-- The unit divided by a power of ten. -/
def unitOn (interval : Interval) (exponent : Int) : Ratio :=
  if 0 ≤ exponent then
    ⟨interval.unit.numerator, interval.unit.denominator * 10 ^ exponent.toNat⟩
  else ⟨interval.unit.numerator * 10 ^ (-exponent).toNat, interval.unit.denominator⟩

/-- Whether a decimal on the grid of a power of ten reads back as the double. -/
def holds (interval : Interval) (unit : Ratio) (digits : Nat) : Bool :=
  let scaled := digits * unit.denominator
  let low := interval.low * unit.numerator
  let high := interval.high * unit.numerator
  if interval.closed then low ≤ scaled && scaled ≤ high else low < scaled && scaled < high

/-- The decimal on the grid of a power of ten that reads back as the double and is nearest
to it; of two equally near ones the even one. -/
def onGrid? (interval : Interval) (exponent : Int) : Option Decimal :=
  let unit := interval.unitOn exponent
  let scaled := interval.value * unit.numerator
  let floor := scaled / unit.denominator
  let rest := scaled % unit.denominator
  let lowerHolds := floor ≠ 0 && interval.holds unit floor
  let upperHolds := interval.holds unit (floor + 1)
  if lowerHolds && upperHolds then
    if 2 * rest < unit.denominator ∨ (2 * rest = unit.denominator ∧ floor % 2 = 0) then
      some ⟨floor, exponent⟩
    else some ⟨floor + 1, exponent⟩
  else if lowerHolds then some ⟨floor, exponent⟩
  else if upperHolds then some ⟨floor + 1, exponent⟩
  else none

/-- The number of leading zeros after the point of a value below one. -/
def leadingZeros (ratio : Ratio) : Nat → Nat → Nat
  | 0, zeros => zeros
  | fuel + 1, zeros =>
      if ratio.numerator * 10 ^ (zeros + 1) < ratio.denominator then
        leadingZeros ratio fuel (zeros + 1)
      else zeros

/-- The least power of ten above the value. -/
def magnitude (interval : Interval) : Int :=
  let ratio : Ratio :=
    ⟨interval.value * interval.unit.numerator, interval.unit.denominator⟩
  let whole := ratio.numerator / ratio.denominator
  if whole = 0 then -(leadingZeros ratio 400 0 : Int) else ((toString whole).length : Int)

/-- The shortest decimal that reads back as the double. -/
def shortest (interval : Interval) : Decimal :=
  let top := interval.magnitude
  ((List.range 17).findSome? fun (count : Nat) =>
    interval.onGrid? (top - ((count : Int) + 1))).getD
    ⟨0, 0⟩

end Interval

/-- The shortest decimal of the absolute value of a finite double that is not zero, from its
bits. -/
def shortestOfBits (bits : UInt64) : Decimal :=
  let fraction : Nat := bits.toNat % 2 ^ (52 : Nat)
  let field : Nat := bits.toNat / 2 ^ (52 : Nat) % 2 ^ (11 : Nat)
  if field = 0 then (Interval.ofBinary fraction (-1074) true).shortest
  else (Interval.ofBinary (2 ^ (52 : Nat) + fraction) ((field : Int) - 1075) (field = 1)).shortest

/-- How doubles are written: which powers of ten have no exponent. -/
structure NumberStyle where
  /-- The point may stand so far right. -/
  positionalUpTo : Int
  /-- The number of zeros after the point may grow to this. -/
  leadingZerosUpTo : Int
  /-- The sign of an exponent that is not negative. -/
  plusSign : String

/-- A decimal with a point or an exponent. -/
def write (style : NumberStyle) (decimal : Decimal) : String :=
  let digits := (toString decimal.digits).toList
  let count : Int := digits.length
  let point := count + decimal.exponent
  let zeros (n : Int) : List Char := List.replicate n.toNat '0'
  if 0 ≤ decimal.exponent ∧ point ≤ style.positionalUpTo then
    String.ofList (digits ++ zeros decimal.exponent ++ ['.', '0'])
  else if 0 < point ∧ point ≤ style.positionalUpTo then
    String.ofList (digits.take point.toNat ++ '.' :: digits.drop point.toNat)
  else if -style.leadingZerosUpTo ≤ point ∧ point ≤ 0 then
    String.ofList ('0' :: '.' :: zeros (-point) ++ digits)
  else
    let power := point - 1
    let sign := if power < 0 then "-" else style.plusSign
    let mantissa :=
      match digits with
      | [] => []
      | [digit] => [digit]
      | digit :: rest => digit :: '.' :: rest
    String.ofList mantissa ++ "e" ++ sign ++ toString power.natAbs

/-- Trailing zeros of the digits moved into the exponent. -/
def normalize : Nat → Decimal → Decimal
  | 0, decimal => decimal
  | fuel + 1, decimal =>
      if decimal.digits ≠ 0 ∧ decimal.digits % 10 = 0 then
        normalize fuel ⟨decimal.digits / 10, decimal.exponent + 1⟩
      else decimal

/-- Writes a finite double, from its bits. -/
def writeBits (style : NumberStyle) (bits : UInt64) : String :=
  let sign := if bits.toNat / 2 ^ (63 : Nat) = 1 then "-" else ""
  if bits.toNat % 2 ^ (63 : Nat) = 0 then sign ++ "0.0"
  else sign ++ ((shortestOfBits bits).normalize 20).write style

end Decimal

end DocsConsole
