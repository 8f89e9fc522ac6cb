import DocsConsole.Unicode.Ranges

/-!
# Digits of natural numbers

The digits of a natural number have no zero before them, unless the number is zero, and
their value is the number.
-/

namespace DocsConsole.Decimal

/-- Only the digits of zero begin with a zero. -/
theorem toDigits_eq_zero_cons {number : Nat} {rest : List Char}
    (begins : Nat.toDigits 10 number = '0' :: rest) : rest = [] := by
  induction number using Nat.strongRecOn generalizing rest with
  | ind number induction =>
      by_cases single : number < 10
      · rw [Nat.toDigits_of_lt_base single] at begins
        exact (List.cons.inj begins).2.symm
      · rw [Nat.toDigits_of_base_le (by decide) (Nat.le_of_not_lt single)] at begins
        cases outer : Nat.toDigits 10 (number / 10) with
        | nil => exact (Nat.toDigits_ne_nil outer).elim
        | cons first others =>
            rw [outer, List.cons_append] at begins
            obtain ⟨rfl, _⟩ := List.cons.inj begins
            have nothing := induction (number / 10) (by omega) outer
            have value := Nat.ofDigitChars_ten_toDigits (n := number / 10)
            rw [outer, nothing] at value
            have zero : Nat.ofDigitChars 10 ['0'] 0 = 0 := rfl
            omega

theorem toDigits_isDigit {number : Nat} : ∀ c ∈ Nat.toDigits 10 number, c.isDigit = true := by
  intro c member
  exact Nat.isDigit_of_mem_toDigits (by decide) (by decide) member

theorem toDigits_eq_cons (number : Nat) :
    ∃ first rest, Nat.toDigits 10 number = first :: rest ∧ first.isDigit = true := by
  cases digits : Nat.toDigits 10 number with
  | nil => exact (Nat.toDigits_ne_nil digits).elim
  | cons first rest =>
      exact ⟨first, rest, rfl, toDigits_isDigit first (digits ▸ List.mem_cons_self)⟩

/-- A digit is none of the other marks. -/
theorem ne_of_isDigit {c other : Char} (digit : c.isDigit = true) (none : other.isDigit = false) :
    c ≠ other := by
  rintro rfl
  rw [digit] at none
  contradiction

/-- Digits that are taken on one after another give the number back. -/
theorem foldl_toDigits (number : Nat) {value : Char → Nat}
    (values : ∀ c, c.isDigit = true → value c = c.toNat - '0'.toNat) :
    (Nat.toDigits 10 number).foldl (fun total c => total * 10 + value c) 0 = number := by
  have folded : ∀ (digits : List Char) (total : Nat), (∀ c ∈ digits, c.isDigit = true) →
      digits.foldl (fun total c => total * 10 + value c) total =
        Nat.ofDigitChars 10 digits total := by
    intro digits
    induction digits with
    | nil => exact fun _ _ => rfl
    | cons c digits induction =>
        intro total all
        have others := induction (total * 10 + value c)
          fun other member => all other (List.mem_cons_of_mem c member)
        rw [List.foldl_cons, others, values c (all c List.mem_cons_self), Nat.ofDigitChars_cons,
          Nat.mul_comm]
  rw [folded _ _ toDigits_isDigit, Nat.ofDigitChars_ten_toDigits]

end DocsConsole.Decimal
