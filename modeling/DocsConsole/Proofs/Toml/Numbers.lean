import DocsConsole.Proofs.Decimal.Digits
import DocsConsole.Toml.Scalar

/-!
# Reading written numbers

The digits of a number that fits 64 bits with a sign are read back as the number.
-/

namespace DocsConsole.Toml

open Decimal
open scoped CoreInstances

theorem hexDigitValue_of_isDigit {c : Char} (digit : c.isDigit = true) :
    Unicode.hexDigitValue c = c.toNat - '0'.toNat := by
  rw [Unicode.hexDigitValue, if_pos digit]

theorem baseValue_toDigits (number : Nat) : baseValue 10 (Nat.toDigits 10 number) = number :=
  foldl_toDigits number fun _ => hexDigitValue_of_isDigit

theorem digits?_toDigits (number : Nat) :
    digits? Char.isDigit (Nat.toDigits 10 number) = some (Nat.toDigits 10 number) := by
  have whole : Unicode.pieces (· = '_') (Nat.toDigits 10 number) = [Nat.toDigits 10 number] := by
    apply Unicode.pieces_of_undivided
    intro c member
    exact decide_eq_false (ne_of_isDigit (toDigits_isDigit c member) (by decide))
  have all : (Nat.toDigits 10 number).all Char.isDigit = true :=
    List.all_eq_true.mpr toDigits_isDigit
  simp [digits?, whole, all]

theorem wholeDigits?_toDigits (number : Nat) :
    wholeDigits? (Nat.toDigits 10 number) = some (Nat.toDigits 10 number) := by
  unfold wholeDigits?
  rw [digits?_toDigits]
  split
  case h_1 second rest begins =>
    have nothing := toDigits_eq_zero_cons (Option.some.inj begins)
    contradiction
  case h_2 => rfl

theorem splitSign_toDigits (number : Nat) :
    splitSign (Nat.toDigits 10 number) = (false, Nat.toDigits 10 number) := by
  obtain ⟨first, rest, digits, digit⟩ := toDigits_eq_cons number
  rw [digits, splitSign]
  · exact fun _ equal => ne_of_isDigit digit (by decide) (List.cons.inj equal).1
  · exact fun _ equal => ne_of_isDigit digit (by decide) (List.cons.inj equal).1

theorem inRange_natCast {number : Nat} (fits : number < 2 ^ (63 : Nat)) :
    inRange (number : Int) = some (number : Int) := by
  have below : (number : Int) < 2 ^ (63 : Nat) := by exact_mod_cast fits
  have above : -(2 ^ (63 : Nat)) ≤ (number : Int) :=
    Int.le_trans (Int.neg_nonpos_of_nonneg (Int.pow_nonneg (by decide)))
      (Int.natCast_nonneg number)
  exact if_pos ⟨above, below⟩

/-- A word with no base before it is decimal. -/
theorem integer?_of_unbased {word : List Char} (unbased : ∀ mark more, word ≠ '0' :: mark :: more) :
    integer? word = (wholeDigits? (splitSign word).2).bind fun digits =>
      inRange (if (splitSign word).1 then -(baseValue 10 digits : Int)
        else (baseValue 10 digits : Int)) := by
  rw [integer?]
  · exact fun _ => unbased _ _
  · exact fun _ => unbased _ _
  · exact fun _ => unbased _ _

theorem integer?_toDigits {number : Nat} (fits : number < 2 ^ (63 : Nat)) :
    integer? (Nat.toDigits 10 number) = some (number : Int) := by
  have unbased : ∀ mark more, Nat.toDigits 10 number ≠ '0' :: mark :: more := by
    intro mark more begins
    have nothing := toDigits_eq_zero_cons begins
    contradiction
  rw [integer?_of_unbased unbased, splitSign_toDigits, wholeDigits?_toDigits, Option.bind_some,
    if_neg Bool.false_ne_true, baseValue_toDigits, inRange_natCast fits]

theorem scalar?_toDigits {number : Nat} (fits : number < 2 ^ (63 : Nat)) :
    scalar? (Nat.toDigits 10 number) = some (.integer number) := by
  have noWord : ∀ word : List Char, word.head?.any Char.isDigit = false →
      Nat.toDigits 10 number ≠ word := by
    rintro word wordless rfl
    obtain ⟨first, rest, digits, digit⟩ := toDigits_eq_cons number
    rw [digits, List.head?_cons, Option.any_some, digit] at wordless
    contradiction
  rw [scalar?, if_neg (noWord _ rfl), if_neg (noWord _ rfl), integer?_toDigits fits]

theorem isWordChar_of_isDigit {c : Char} (digit : c.isDigit = true) : isWordChar c = true := by
  simp [isWordChar, Char.isAlphanum, digit]

/-- A number at the end of its line is read as it was written. -/
theorem readScalar_toDigits {number : Nat} (fits : number < 2 ^ (63 : Nat)) (rest : List Char) :
    readScalar (Nat.toDigits 10 number ++ '\n' :: rest) =
      some (.integer number, '\n' :: rest) := by
  have word : (Nat.toDigits 10 number ++ '\n' :: rest).takeWhile isWordChar =
      Nat.toDigits 10 number := by
    rw [List.takeWhile_append_of_pos fun c member => isWordChar_of_isDigit
      (toDigits_isDigit c member), List.takeWhile_cons_of_neg (by decide), List.append_nil]
  simp only [readScalar, word, List.drop_left, scalar?_toDigits fits, Option.map_some]
  rfl

end DocsConsole.Toml
