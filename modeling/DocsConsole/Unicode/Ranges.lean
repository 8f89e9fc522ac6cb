/-!
# Sets of code points

A Unicode property is a set of code points, and the standard publishes each of
them as a list of inclusive ranges.  `CodeRanges` keeps such a list, and
`CodeRanges.ofText` reads the published notation: hexadecimal numbers, a range
written with a hyphen, the ranges separated by white space.
-/

namespace DocsConsole.Unicode

/-- A set of code points, as inclusive ranges. -/
abbrev CodeRanges := Array (Nat × Nat)

/-- The value of one hexadecimal digit; anything else counts as zero. -/
def hexDigitValue (digit : Char) : Nat :=
  if digit.isDigit then digit.toNat - '0'.toNat
  else if 'A' ≤ digit ∧ digit ≤ 'F' then digit.toNat - 'A'.toNat + 10
  else if 'a' ≤ digit ∧ digit ≤ 'f' then digit.toNat - 'a'.toNat + 10
  else 0

def isHexDigit (c : Char) : Bool :=
  c.isDigit || ('a' ≤ c && c ≤ 'f') || ('A' ≤ c && c ≤ 'F')

/-- The number written by a list of hexadecimal digits. -/
def hexValue (digits : List Char) : Nat :=
  digits.foldl (fun total digit => total * 16 + hexDigitValue digit) 0

/-- The number written by a list of decimal digits. -/
def decimalValue (digits : List Char) : Nat :=
  digits.foldl (fun total digit => total * 10 + (digit.toNat - '0'.toNat)) 0

/-- The pieces between separators, empty ones included. -/
def pieces (separates : Char → Bool) : List Char → List (List Char)
  | [] => [[]]
  | c :: rest =>
      if separates c then [] :: pieces separates rest
      else
        match pieces separates rest with
        | [] => [[c]]
        | piece :: more => (c :: piece) :: more

section

variable {separates : Char → Bool}

theorem pieces_ne_nil (cs : List Char) : pieces separates cs ≠ [] := by
  cases cs with
  | nil => simp [pieces]
  | cons c rest =>
      rw [pieces]
      split
      · simp
      · split <;> simp

theorem pieces_append_separator {separator : Char} (divides : separates separator = true)
    (left right : List Char) :
    pieces separates (left ++ separator :: right) =
      pieces separates left ++ pieces separates right := by
  induction left with
  | nil => simp [pieces, divides]
  | cons c rest induction =>
      rw [List.cons_append, pieces, induction, pieces]
      split
      · rfl
      · cases known : pieces separates rest with
        | nil => exact (pieces_ne_nil rest known).elim
        | cons piece more => rfl

theorem pieces_of_undivided {cs : List Char} (undivided : ∀ c ∈ cs, separates c = false) :
    pieces separates cs = [cs] := by
  induction cs with
  | nil => rfl
  | cons c rest induction =>
      have restUndivided : ∀ other ∈ rest, separates other = false := by
        intro other member
        exact undivided other (List.mem_cons_of_mem c member)
      rw [pieces, induction restUndivided, undivided c List.mem_cons_self]
      rfl

end

/-- The nonempty pieces between blanks and line ends. -/
def words (text : String) : List (List Char) :=
  (pieces (fun c => c = ' ' || c = '\n') text.toList).filter (!·.isEmpty)

namespace CodeRanges

/-- Reads ranges in the published notation. -/
def ofText (text : String) : CodeRanges :=
  ((words text).map fun word =>
    match pieces (· = '-') word with
    | [low, high] => (hexValue low, hexValue high)
    | _ => (hexValue word, hexValue word)).toArray

/-- Membership of a character in the set. -/
def contains (ranges : CodeRanges) (c : Char) : Bool :=
  ranges.any fun range => range.1 ≤ c.toNat && c.toNat ≤ range.2

end CodeRanges

end DocsConsole.Unicode
