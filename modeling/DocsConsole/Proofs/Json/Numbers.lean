import DocsConsole.Json.Token
import DocsConsole.Proofs.Decimal.Digits

/-!
# Reading written numbers

An integer of 64 bits, signed or unsigned, is written by its digits and read back from them,
and so is minus zero, which is kept as a double.
-/

namespace DocsConsole

open Decimal
open scoped CoreInstances

/-- An integer of 64 bits, signed or unsigned.  Minus zero is one too. -/
def JsonNumber.IsWhole : JsonNumber → Prop
  | .integer value => -(2 ^ (63 : Nat)) ≤ value ∧ value < 2 ^ (64 : Nat)
  | .double bits => bits = 0x8000000000000000

instance : DecidablePred JsonNumber.IsWhole
  | .integer value =>
      inferInstanceAs (Decidable (-(2 ^ (63 : Nat)) ≤ value ∧ value < 2 ^ (64 : Nat)))
  | .double bits => inferInstanceAs (Decidable (bits = 0x8000000000000000))

namespace JsonToken

/-- What may follow a number without belonging to it. -/
def EndsNumber (rest : Source) : Prop :=
  ∀ c, rest.head? = some (some c) → c.isDigit = false ∧ c ≠ '.' ∧ c ≠ 'e' ∧ c ≠ 'E'

/-- The number that a digit stands for. -/
def digitValue (c : Char) : Nat := c.toNat - '0'.toNat

theorem digits_of_ends {rest : Source} (ends : EndsNumber rest) : digits rest = ([], rest) := by
  match rest with
  | [] => rfl
  | none :: rest => rfl
  | some c :: rest =>
      have noDigit := (ends c rfl).1
      simp [digits, noDigit]

theorem digits_append {cs : List Char} (all : ∀ c ∈ cs, c.isDigit = true) {rest : Source}
    (ends : EndsNumber rest) :
    digits (cs.map some ++ rest) = (cs.map digitValue, rest) := by
  induction cs with
  | nil => exact digits_of_ends ends
  | cons c cs induction =>
      have others := induction fun other member => all other (List.mem_cons_of_mem c member)
      rw [List.map_cons, List.cons_append, digits, if_pos (all c List.mem_cons_self), others]
      rfl

theorem fraction?_of_ends {rest : Source} (ends : EndsNumber rest) :
    fraction? rest = some ([], rest) := by
  unfold fraction?
  split
  case h_1 => exact ((ends '.' rfl).2.1 rfl).elim
  case h_2 => rfl

theorem exponent?_of_ends {rest : Source} (ends : EndsNumber rest) :
    exponent? rest = some (none, rest) := by
  have notE : ∀ more, rest ≠ some 'e' :: more := by
    rintro more rfl
    exact (ends 'e' rfl).2.2.1 rfl
  have notCapital : ∀ more, rest ≠ some 'E' :: more := by
    rintro more rfl
    exact (ends 'E' rfl).2.2.2 rfl
  unfold exponent?
  split
  case h_7 => rfl
  all_goals first | exact (notE _ rfl).elim | exact (notCapital _ rfl).elim

theorem eq_zero_of_digitValue {c : Char} (digit : c.isDigit = true) (zero : digitValue c = 0) :
    c = '0' := by
  have least : '0'.toNat ≤ c.toNat := (Char.isDigit_iff_toNat.mp digit).1
  have most : c.toNat ≤ '0'.toNat := Nat.sub_eq_zero_iff_le.mp zero
  exact Char.toNat_inj.mp (Nat.le_antisymm most least)

theorem unsigned?_toDigits (negative : Bool) (number : Nat) {rest : Source}
    (ends : EndsNumber rest) :
    unsigned? negative ((Nat.toDigits 10 number).map some ++ rest) =
      some (⟨negative, (Nat.toDigits 10 number).map digitValue, [], none⟩, rest) := by
  obtain ⟨first, others, written, digit⟩ := toDigits_eq_cons number
  have unpadded : ∀ second more, (Nat.toDigits 10 number).map digitValue ≠ 0 :: second :: more := by
    intro second more equal
    rw [written, List.map_cons] at equal
    obtain ⟨zero, tail⟩ := List.cons.inj equal
    rw [eq_zero_of_digitValue digit zero] at written
    rw [toDigits_eq_zero_cons written] at tail
    contradiction
  rw [unsigned?, digits_append toDigits_isDigit ends]
  split
  case h_1 equal => simp [written] at equal
  case h_2 equal => exact (unpadded _ _ (Prod.mk.inj equal).1).elim
  case h_3 equal =>
    obtain ⟨rfl, rfl⟩ := Prod.mk.inj equal
    simp [fraction?_of_ends ends, exponent?_of_ends ends]

end JsonToken

namespace NumberLiteral

theorem le_foldl (total : Nat) (digits : List Nat) :
    total ≤ digits.foldl (fun total digit => total * 10 + digit) total := by
  induction digits generalizing total with
  | nil => exact Nat.le_refl total
  | cons digit digits induction =>
      have more := induction (total * 10 + digit)
      rw [List.foldl_cons]
      omega

/-- All digits of a number that fits are taken on. -/
theorem accumulate_eq {total : Nat} {digits : List Nat}
    (fits : digits.foldl (fun total digit => total * 10 + digit) total < 2 ^ (64 : Nat)) :
    accumulate total digits =
      (digits.foldl (fun total digit => total * 10 + digit) total, digits.length) := by
  induction digits generalizing total with
  | nil => rfl
  | cons digit digits induction =>
      rw [List.foldl_cons] at fits
      have small := Nat.lt_of_le_of_lt (le_foldl (total * 10 + digit) digits) fits
      rw [accumulate, if_pos small, induction fits]
      rfl

/-- The number that some digits write. -/
def magnitude (digits : List Nat) : Nat :=
  digits.foldl (fun total digit => total * 10 + digit) 0

theorem value?_of_digits (negative : Bool) {digits : List Nat}
    (fits : magnitude digits < 2 ^ (64 : Nat)) :
    value? ⟨negative, digits, [], none⟩ = some (integer negative (magnitude digits)) := by
  have all : accumulate 0 digits = (magnitude digits, digits.length) := accumulate_eq fits
  simp [value?, all]

theorem magnitude_toDigits (number : Nat) :
    magnitude ((Nat.toDigits 10 number).map JsonToken.digitValue) = number := by
  rw [magnitude, List.foldl_map]
  exact foldl_toDigits number fun _ _ => rfl

theorem value?_toDigits (negative : Bool) {number : Nat} (fits : number < 2 ^ (64 : Nat)) :
    value? ⟨negative, (Nat.toDigits 10 number).map JsonToken.digitValue, [], none⟩ =
      some (integer negative number) := by
  rw [value?_of_digits negative ((magnitude_toDigits number).symm ▸ fits), magnitude_toDigits]

end NumberLiteral

namespace JsonToken

theorem write_integer (value : Int) :
    (JsonNumber.integer value).write.toList =
      if value < 0 then '-' :: Nat.toDigits 10 value.natAbs else Nat.toDigits 10 value.natAbs := by
  rw [JsonNumber.write, Int.toString_eq_repr, Int.repr_eq_if]
  by_cases negative : value < 0
  · have magnitude : (-value).toNat = value.natAbs := by omega
    rw [if_neg (by omega), if_pos negative, magnitude, String.toList_append, Nat.toList_repr]
    rfl
  · have magnitude : value.toNat = value.natAbs := by omega
    rw [if_pos (by omega), if_neg negative, magnitude, Nat.toList_repr]

theorem write_minusZero :
    (JsonNumber.double 0x8000000000000000).write.toList = ['-', '0', '.', '0'] := by
  decide +kernel

theorem number?_minusZero {rest : Source} (ends : EndsNumber rest) :
    number? (some '-' :: some '0' :: some '.' :: some '0' :: rest) =
      some (⟨true, [0], [0], none⟩, rest) := by
  have whole : digits (some '0' :: some '.' :: some '0' :: rest) =
      ([0], some '.' :: some '0' :: rest) := rfl
  have tenths : digits (some '0' :: rest) = ([0], rest) :=
    digits_append (List.forall_mem_singleton.mpr rfl) ends
  have fraction : fraction? (some '.' :: some '0' :: rest) = some ([0], rest) := by
    rw [fraction?, tenths]
  simp [number?, unsigned?, whole, fraction, exponent?_of_ends ends]

/-- A whole number is read as it was written. -/
theorem number?_write {number : JsonNumber} (whole : number.IsWhole) {rest : Source}
    (ends : EndsNumber rest) :
    ∃ literal, number? (number.write.toList.map some ++ rest) = some (literal, rest) ∧
      literal.value? = some number := by
  cases number with
  | integer value =>
      obtain ⟨least, most⟩ := whole
      have fits : value.natAbs < 2 ^ (64 : Nat) := by omega
      rw [write_integer]
      by_cases negative : value < 0
      · have read := unsigned?_toDigits true value.natAbs ends
        have integer : NumberLiteral.integer true value.natAbs = .integer value := by
          have inRange : ¬ (value.natAbs = 0 ∨ 2 ^ (63 : Nat) < value.natAbs) := by omega
          simp only [NumberLiteral.integer, Bool.not_true, Bool.false_eq_true, if_false,
            if_neg inRange]
          exact congrArg JsonNumber.integer (by omega)
        rw [if_pos negative]
        exact ⟨_, read, by rw [NumberLiteral.value?_toDigits true fits, integer]⟩
      · have read := unsigned?_toDigits false value.natAbs ends
        have integer : NumberLiteral.integer false value.natAbs = .integer value :=
          congrArg JsonNumber.integer (by omega)
        refine ⟨_, ?_, by rw [NumberLiteral.value?_toDigits false fits, integer]⟩
        rw [if_neg negative]
        obtain ⟨first, others, written, digit⟩ := toDigits_eq_cons value.natAbs
        rw [← read, written, List.map_cons, List.cons_append, number?]
        exact fun _ equal =>
          ne_of_isDigit digit (by decide) (Option.some.inj (List.cons.inj equal).1)
  | double bits =>
      cases whole
      rw [write_minusZero]
      exact ⟨_, number?_minusZero ends, by decide +kernel⟩

/-- A number begins with a digit or with its sign. -/
theorem write_eq_cons {number : JsonNumber} (whole : number.IsWhole) :
    ∃ first more, number.write.toList = first :: more ∧ (first.isDigit = true ∨ first = '-') := by
  cases number with
  | integer value =>
      obtain ⟨first, others, written, digit⟩ := toDigits_eq_cons value.natAbs
      rw [write_integer]
      split
      · exact ⟨_, _, rfl, Or.inr rfl⟩
      · exact ⟨first, others, written, Or.inl digit⟩
  | double bits =>
      cases whole
      exact ⟨_, _, write_minusZero, Or.inr rfl⟩

end JsonToken

end DocsConsole
