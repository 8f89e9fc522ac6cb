import DocsConsole.CoreInstances
import DocsConsole.Decimal.Shortest
import DocsConsole.Json.Value

/-!
# JSON numbers

An integer that fits 64 bits is kept as it is written.  Every other number
becomes a double: as many leading digits as fit 64 bits, scaled by a power of
ten.  A number too large for a double has no value.
-/

namespace DocsConsole

open scoped CoreInstances

/-- A number as it is written. -/
structure NumberLiteral where
  negative : Bool
  /-- The digits before the point. -/
  whole : List Nat
  /-- The digits after the point; there are none without a point. -/
  fraction : List Nat
  /-- Whether the exponent is negative, and its digits. -/
  exponent : Option (Bool × List Nat)
deriving DecidableEq, Repr

namespace NumberLiteral

/-- Takes on digits while the number fits 64 bits, and counts them. -/
def accumulate (total : Nat) : List Nat → Nat × Nat
  | [] => (total, 0)
  | digit :: rest =>
      if total * 10 + digit < 2 ^ (64 : Nat) then
        let taken := accumulate (total * 10 + digit) rest
        (taken.1, taken.2 + 1)
      else (total, 0)

/-- The number written by some digits, or `none` from 2 ^ 31 on. -/
def exponentValue? (total : Nat) : List Nat → Option Nat
  | [] => some total
  | digit :: rest =>
      if total * 10 + digit < 2 ^ (31 : Nat) then exponentValue? (total * 10 + digit) rest else none

/-- A power of ten that a double can hold. -/
def powerOfTen (exponent : Nat) : Float :=
  Float.ofScientific 1 false exponent

/-- A double times a power of ten, or `none` if it is too large.  The largest power is taken
off as often as needed, and three times leave zero of any double that starts here. -/
def scaled? (fuel : Nat) (value : Float) (exponent : Int) : Option Float :=
  if exponent.natAbs ≤ 308 then
    if 0 ≤ exponent then
      let product := value * powerOfTen exponent.natAbs
      if product.isInf then none else some product
    else some (value / powerOfTen exponent.natAbs)
  else if value == 0 then some value
  else if 0 ≤ exponent then none
  else
    match fuel with
    | 0 => some 0
    | less + 1 => scaled? less (value / powerOfTen 308) (exponent + 308)

/-- A double with a sign. -/
def signed (negative : Bool) (value : Float) : JsonNumber :=
  .double (if negative then -value else value).toBits

/-- The integer of 64 bits that a number without point and exponent stands for.  Minus zero
and numbers below the range are doubles. -/
def integer (negative : Bool) (total : Nat) : JsonNumber :=
  if !negative then .integer total
  else if total = 0 ∨ 2 ^ (63 : Nat) < total then signed true total.toUInt64.toFloat
  else .integer (-(total : Int))

def value? (literal : NumberLiteral) : Option JsonNumber :=
  let whole := accumulate 0 literal.whole
  let dropped := literal.whole.length - whole.2
  let all := accumulate whole.1 literal.fraction
  let shift : Int := (dropped : Int) - (all.2 : Int)
  let scale (exponent : Int) : Option JsonNumber :=
    (scaled? 4 all.1.toUInt64.toFloat exponent).map (signed literal.negative)
  match literal.exponent with
  | none =>
      if literal.fraction.isEmpty && dropped = 0 then some (integer literal.negative whole.1)
      else scale shift
  | some (negative, digits) =>
      match exponentValue? 0 digits with
      | some exponent => scale (if negative then shift - exponent else shift + exponent)
      | none =>
          if all.1 ≠ 0 ∧ !negative then none else some (signed literal.negative 0)

end NumberLiteral

namespace JsonNumber

/-- Doubles have a point up to sixteen digits before it or five zeros after it. -/
def style : Decimal.NumberStyle := ⟨16, 4, "+"⟩

def write : JsonNumber → String
  | .integer value => toString value
  | .double bits => Decimal.writeBits style bits

/-- Whether a number is zero, of either sign. -/
def isZero : JsonNumber → Bool
  | .integer value => value = 0
  | .double bits => bits.toNat % 2 ^ (63 : Nat) = 0

end JsonNumber

end DocsConsole
