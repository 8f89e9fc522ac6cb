import DocsConsole.Toml.Text
import DocsConsole.Toml.Writer

/-!
# Reading written strings

A string is read back from each of the four forms in which it can be written.  Every
character that is escaped is read back from its escape, and every other one may stand for
itself.  Where quotes are not escaped, at most two of them follow each other, so that
three quotes are the end; up to two more of them right before the end belong to the text.
-/

namespace DocsConsole.Toml

/-! ## Characters -/

theorem hexDigitValue_upperHexDigit {value : Nat} (small : value < 16) :
    Unicode.hexDigitValue (upperHexDigit value) = value := by
  have all : ∀ value : Fin 16, Unicode.hexDigitValue (upperHexDigit value) = value := by decide
  exact all ⟨value, small⟩

theorem isHexDigit_upperHexDigit {value : Nat} (small : value < 16) :
    Unicode.isHexDigit (upperHexDigit value) = true := by
  have all : ∀ value : Fin 16, Unicode.isHexDigit (upperHexDigit value) = true := by decide
  exact all ⟨value, small⟩

/-- The number in an escape is that of the character. -/
theorem numbered?_upperHexDigits {c : Char} (small : c.toNat < 256) :
    numbered? ['0', '0', upperHexDigit (c.toNat / 16), upperHexDigit (c.toNat % 16)] = some c := by
  have high : c.toNat / 16 < 16 := by omega
  have low : c.toNat % 16 < 16 := by omega
  have digits : ['0', '0', upperHexDigit (c.toNat / 16), upperHexDigit (c.toNat % 16)].all
      Unicode.isHexDigit = true := by
    have zero : Unicode.isHexDigit '0' = true := by decide
    simp [zero, isHexDigit_upperHexDigit high, isHexDigit_upperHexDigit low]
  have code : Unicode.hexValue
      ['0', '0', upperHexDigit (c.toNat / 16), upperHexDigit (c.toNat % 16)] = c.toNat := by
    have zero : Unicode.hexDigitValue '0' = 0 := by decide
    simp only [Unicode.hexValue, List.foldl_cons, List.foldl_nil, zero,
      hexDigitValue_upperHexDigit high, hexDigitValue_upperHexDigit low]
    omega
  have valid : c.toNat.isValidChar := c.valid
  simp only [numbered?, code]
  rw [if_pos ⟨digits, valid⟩, Char.ofNat_toNat]

/-- An escape that stands for a character. -/
inductive IsEscape (c : Char) : List Char → Prop where
  | letter {letter : Char} (known : escaped? letter = some c) : IsEscape c ['\\', letter]
  | number {first second : Char} (known : numbered? ['0', '0', first, second] = some c) :
      IsEscape c ['\\', 'u', '0', '0', first, second]

theorem escapeOf_isEscape {c : Char} (small : c.toNat < 256) : IsEscape c (escapeOf c) := by
  unfold escapeOf
  split
  case h_8 => exact .number (numbered?_upperHexDigits small)
  all_goals exact .letter rfl

/-- A character that may stand for itself between double quotes. -/
structure StandsPlain (c : Char) : Prop where
  isPlain : isPlain c = true
  notBackslash : c ≠ '\\'
  notQuote : c ≠ '\x22'

theorem isPlain_of_not_needsCode {c : Char} (codeless : needsCode c = false)
    (notFeed : c ≠ '\n') : isPlain c = true := by
  simp [needsCode] at codeless
  simp [isPlain]
  by_cases tab : c = '\t'
  · exact Or.inl (Or.inl tab)
  · have large : 0x20 ≤ c.toNat := by
      apply Nat.le_of_not_lt
      intro small
      exact notFeed (codeless.1 small tab)
    omega

theorem standsPlain_of_not_isEscaped {severalLines : Bool} {c : Char}
    (unescaped : isEscaped severalLines c = false) (notQuote : c ≠ '\x22')
    (notFeed : c ≠ '\n') : StandsPlain c := by
  simp only [isEscaped, Bool.or_eq_false_iff, decide_eq_false_iff_not] at unescaped
  obtain ⟨⟨⟨codeless, _⟩, notBackslash⟩, _⟩ := unescaped
  exact ⟨isPlain_of_not_needsCode codeless notFeed, notBackslash, notQuote⟩

theorem toNat_lt_of_isEscaped {severalLines : Bool} {c : Char}
    (escaped : isEscaped severalLines c = true) : c.toNat < 256 := by
  simp only [isEscaped, needsCode, Bool.or_eq_true, Bool.and_eq_true, decide_eq_true_eq] at escaped
  rcases escaped with (((⟨⟨small, _⟩, _⟩ | delete) | rfl) | rfl) | ⟨rfl, _⟩
  · omega
  · omega
  all_goals decide

/-- A character that is no quote as it is written between double quotes. -/
def writtenChar (severalLines : Bool) (c : Char) : List Char :=
  if isEscaped severalLines c then escapeOf c else [c]

theorem writtenChar_eq_cons (severalLines : Bool) {c : Char} (notQuote : c ≠ '\x22') :
    ∃ first more, writtenChar severalLines c = first :: more ∧ first ≠ '\x22' ∧ first ≠ '\r' ∧
      (first = '\n' → c = '\n') := by
  unfold writtenChar
  split
  case isTrue escaped =>
    have escape := escapeOf_isEscape (toNat_lt_of_isEscaped escaped)
    generalize escapeOf c = written at escape
    cases escape with
    | letter => exact ⟨_, _, rfl, by decide, by decide, fun feed => by contradiction⟩
    | number => exact ⟨_, _, rfl, by decide, by decide, fun feed => by contradiction⟩
  case isFalse unescaped =>
    have notReturn : c ≠ '\r' := by
      rintro rfl
      exact unescaped rfl
    exact ⟨c, [], rfl, notQuote, notReturn, id⟩

theorem escapeFrom_cons {severalLines : Bool} {run : Nat} {c : Char} (notQuote : c ≠ '\x22')
    (text : List Char) :
    escapeFrom severalLines run (c :: text) =
      writtenChar severalLines c ++ escapeFrom severalLines 0 text := by
  rw [escapeFrom]
  · rfl
  · exact notQuote

/-! ## On one line -/

theorem basic_escape {c : Char} {written : List Char} (escape : IsEscape c written)
    (rest : List Char) : basic (written ++ rest) = (basic rest).cons c := by
  cases escape with
  | letter known =>
      unfold escaped? at known
      split at known
      all_goals cases known <;> rfl
  | number known => simp [basic, known]

theorem basic_plain {c : Char} (plain : StandsPlain c) (rest : List Char) :
    basic (c :: rest) = (basic rest).cons c := by
  obtain ⟨isPlain, notBackslash, notQuote⟩ := plain
  rw [basic]
  · simp [isPlain, notBackslash]
  all_goals intros; contradiction

theorem basic_written {c : Char} (notQuote : c ≠ '\x22') (rest : List Char) :
    basic (writtenChar false c ++ rest) = (basic rest).cons c := by
  unfold writtenChar
  split
  case isTrue escaped =>
    exact basic_escape (escapeOf_isEscape (toNat_lt_of_isEscaped escaped)) rest
  case isFalse unescaped =>
    have notFeed : c ≠ '\n' := by
      rintro rfl
      exact unescaped rfl
    exact basic_plain
      (standsPlain_of_not_isEscaped (Bool.not_eq_true _ ▸ unescaped) notQuote notFeed) rest

theorem basic_escapeFrom (run : Nat) (text rest : List Char) :
    basic (escapeFrom false run text ++ '\x22' :: rest) = some (text, rest) := by
  induction text generalizing run with
  | nil => rfl
  | cons c text induction =>
      by_cases quote : c = '\x22'
      · subst quote
        have written : escapeFrom false run ('\x22' :: text) ++ '\x22' :: rest =
            ['\\', '\x22'] ++ (escapeFrom false 0 text ++ '\x22' :: rest) := by
          simp [escapeFrom]
        rw [written, basic_escape (.letter rfl), induction]
        rfl
      · rw [escapeFrom_cons quote, List.append_assoc, basic_written quote, induction]
        rfl

theorem literal_append {text : List Char} (plain : ∀ c ∈ text, isPlain c = true)
    (quoteless : '\x27' ∉ text) (rest : List Char) :
    literal (text ++ '\x27' :: rest) = some (text, rest) := by
  induction text with
  | nil => rfl
  | cons c text induction =>
      simp only [List.mem_cons, not_or] at quoteless
      have first := plain c List.mem_cons_self
      have others := induction (fun other member => plain other (List.mem_cons_of_mem c member))
        quoteless.2
      rw [List.cons_append, literal, if_pos first, others]
      · rfl
      · exact fun quote => quoteless.1 quote.symm

/-! ## Runs of quotes -/

/-- What follows a string does not lengthen the quotes at its end. -/
def Unquoted (rest : List Char) : Prop :=
  ∀ c, rest.head? = some c → c ≠ '\x22' ∧ c ≠ '\x27'

/-- Up to two quotes that another character follows are read like any other character. -/
theorem reads_run {read : List Char → Reading (List Char)} {quote : Char}
    (one : ∀ more, (∀ rest, more ≠ quote :: quote :: rest) →
      read (quote :: more) = (read more).cons quote)
    {run : Nat} (short : run ≤ 2) {c : Char} (notQuote : c ≠ quote)
    {text rest after : List Char} (reads : read (c :: rest) = some (text, after)) :
    read (List.replicate run quote ++ c :: rest) =
      some (List.replicate run quote ++ text, after) := by
  have first : read (quote :: c :: rest) = some (quote :: text, after) := by
    rw [one, reads]
    · rfl
    · exact fun other equal => notQuote (List.cons.inj equal).1
  obtain rfl | rfl | rfl : run = 0 ∨ run = 1 ∨ run = 2 := by omega
  · exact reads
  · exact first
  · have second : read (quote :: quote :: c :: rest) = some (quote :: quote :: text, after) := by
      rw [one, first]
      · rfl
      · exact fun other equal => notQuote (List.cons.inj (List.cons.inj equal).2).1
    exact second

/-! ## On several lines with escapes -/

/-- Up to two quotes before the three at the end belong to the text. -/
theorem basicLines_end {run : Nat} (short : run ≤ 2) {rest : List Char}
    (unquoted : Unquoted rest) :
    basicLines .text (List.replicate run '\x22' ++ '\x22' :: '\x22' :: '\x22' :: rest) =
      some (List.replicate run '\x22', rest) := by
  have other : ∀ more, rest ≠ '\x22' :: more := by
    rintro more rfl
    exact (unquoted '\x22' rfl).1 rfl
  obtain rfl | rfl | rfl : run = 0 ∨ run = 1 ∨ run = 2 := by omega
  · simp only [List.replicate_zero, List.nil_append]
    rw [basicLines]
    · rfl
    · exact fun more equal => other _ equal
    · exact fun more equal => other more equal
  · simp only [List.replicate_one, List.singleton_append]
    rw [basicLines]
    · rfl
    · exact fun more equal => other more equal
  · rfl

theorem basicLines_quote {more : List Char} (others : ∀ rest, more ≠ '\x22' :: '\x22' :: rest) :
    basicLines .text ('\x22' :: more) = (basicLines .text more).cons '\x22' := by
  rw [basicLines]
  case x_5 => exact fun _ _ equal => others _ equal
  case x_6 => exact fun _ _ equal => others _ equal
  case x_7 => exact fun _ _ equal => others _ equal
  case _ => rfl
  all_goals intros; contradiction

theorem basicLines_escape {c : Char} {written : List Char} (escape : IsEscape c written)
    (rest : List Char) :
    basicLines .text (written ++ rest) = (basicLines .text rest).cons c := by
  cases escape with
  | letter known =>
      unfold escaped? at known
      split at known
      all_goals cases known <;> rfl
  | number known => simp [basicLines, known]

theorem basicLines_plain {c : Char} (plain : StandsPlain c) (rest : List Char) :
    basicLines .text (c :: rest) = (basicLines .text rest).cons c := by
  obtain ⟨isPlain, notBackslash, notQuote⟩ := plain
  by_cases space : c = ' '
  · subst space
    rfl
  · by_cases tab : c = '\t'
    · subst tab
      rfl
    · have notFeed : c ≠ '\n' := by
        rintro rfl
        contradiction
      have notReturn : c ≠ '\r' := by
        rintro rfl
        contradiction
      rw [basicLines]
      · simp [isPlain, notBackslash]
      all_goals intros; contradiction

theorem basicLines_written {c : Char} (notQuote : c ≠ '\x22') (rest : List Char) :
    basicLines .text (writtenChar true c ++ rest) = (basicLines .text rest).cons c := by
  unfold writtenChar
  split
  case isTrue escaped =>
    exact basicLines_escape (escapeOf_isEscape (toNat_lt_of_isEscaped escaped)) rest
  case isFalse unescaped =>
    by_cases feed : c = '\n'
    · subst feed
      rfl
    · exact basicLines_plain
        (standsPlain_of_not_isEscaped (Bool.not_eq_true _ ▸ unescaped) notQuote feed) rest

/-- The quotes of a run have been written and not been read yet. -/
theorem basicLines_escapeFrom {run : Nat} (short : run ≤ 2) (text : List Char)
    {rest : List Char} (unquoted : Unquoted rest) :
    basicLines .text (List.replicate run '\x22' ++
        (escapeFrom true run text ++ '\x22' :: '\x22' :: '\x22' :: rest)) =
      some (List.replicate run '\x22' ++ text, rest) := by
  induction text generalizing run with
  | nil => rw [escapeFrom, List.nil_append, basicLines_end short unquoted, List.append_nil]
  | cons c text induction =>
      have afterRun := induction (by decide : 0 ≤ 2)
      rw [List.replicate_zero, List.nil_append, List.nil_append] at afterRun
      by_cases quote : c = '\x22'
      · subst quote
        obtain rfl | rfl | rfl : run = 0 ∨ run = 1 ∨ run = 2 := by omega
        · exact induction (by decide : 1 ≤ 2)
        · exact induction (by decide : 2 ≤ 2)
        · -- The third quote is escaped, and another run may begin after it.
          have third : basicLines .text (['\\', '\x22'] ++
              (escapeFrom true 0 text ++ '\x22' :: '\x22' :: '\x22' :: rest)) =
              some ('\x22' :: text, rest) := by
            rw [basicLines_escape (.letter rfl), afterRun]
            rfl
          exact reads_run (fun _ => basicLines_quote) (by decide : 2 ≤ 2) (by decide) third
      · have here : basicLines .text (writtenChar true c ++
            (escapeFrom true 0 text ++ '\x22' :: '\x22' :: '\x22' :: rest)) =
            some (c :: text, rest) := by
          rw [basicLines_written quote, afterRun]
          rfl
        obtain ⟨first, more, written, notQuote, _, _⟩ := writtenChar_eq_cons true quote
        rw [escapeFrom_cons quote, List.append_assoc]
        rw [written] at here ⊢
        exact reads_run (fun _ => basicLines_quote) short notQuote here

/-! ## On several lines without escapes -/

theorem le_longestRun (c : Char) (run longest : Nat) (text : List Char) :
    longest ≤ longestRun c run longest text := by
  induction text generalizing run longest with
  | nil => exact Nat.le_refl longest
  | cons other text induction =>
      rw [longestRun]
      split
      · exact Nat.le_trans (Nat.le_max_left _ _) (induction _ _)
      · exact induction _ _

theorem not_mem_of_longestRun_eq_zero {c : Char} {run : Nat} {text : List Char}
    (none : longestRun c run 0 text = 0) : c ∉ text := by
  induction text generalizing run with
  | nil => exact List.not_mem_nil
  | cons other text induction =>
      rw [longestRun] at none
      split at none
      · have long := le_longestRun c (run + 1) (max 0 (run + 1)) text
        omega
      case isFalse different =>
        intro member
        rcases List.mem_cons.mp member with rfl | later
        · exact different rfl
        · exact induction none later

theorem literalLines_end {run : Nat} (short : run ≤ 2) {rest : List Char}
    (unquoted : Unquoted rest) :
    literalLines (List.replicate run '\x27' ++ '\x27' :: '\x27' :: '\x27' :: rest) =
      some (List.replicate run '\x27', rest) := by
  have other : ∀ more, rest ≠ '\x27' :: more := by
    rintro more rfl
    exact (unquoted '\x27' rfl).2 rfl
  obtain rfl | rfl | rfl : run = 0 ∨ run = 1 ∨ run = 2 := by omega
  · simp only [List.replicate_zero, List.nil_append]
    rw [literalLines]
    · exact fun more equal => other _ equal
    · exact fun more equal => other more equal
  · simp only [List.replicate_one, List.singleton_append]
    rw [literalLines]
    exact fun more equal => other more equal
  · rfl

theorem literalLines_quote {more : List Char}
    (others : ∀ rest, more ≠ '\x27' :: '\x27' :: rest) :
    literalLines ('\x27' :: more) = (literalLines more).cons '\x27' := by
  rw [literalLines]
  case x_1 => exact fun _ _ equal => others _ equal
  case x_2 => exact fun _ _ equal => others _ equal
  case x_3 => exact fun _ _ equal => others _ equal
  case _ => rfl
  all_goals intros; contradiction

theorem literalLines_plain {c : Char} (notQuote : c ≠ '\x27') (codeless : needsCode c = false)
    (rest : List Char) : literalLines (c :: rest) = (literalLines rest).cons c := by
  by_cases feed : c = '\n'
  · subst feed
    rfl
  · have notReturn : c ≠ '\r' := by
      rintro rfl
      contradiction
    rw [literalLines]
    · simp [isPlain_of_not_needsCode codeless feed]
    all_goals intros; contradiction

/-- The quotes of a run have not been read yet. -/
theorem literalLines_append {run longest : Nat} (known : run ≤ longest) {text : List Char}
    (few : longestRun '\x27' run longest text ≤ 2) (codeless : text.any needsCode = false)
    {rest : List Char} (unquoted : Unquoted rest) :
    literalLines (List.replicate run '\x27' ++
        (text ++ '\x27' :: '\x27' :: '\x27' :: rest)) =
      some (List.replicate run '\x27' ++ text, rest) := by
  have short : run ≤ 2 := Nat.le_trans known (Nat.le_trans (le_longestRun _ _ _ _) few)
  induction text generalizing run longest with
  | nil => rw [List.nil_append, literalLines_end short unquoted, List.append_nil]
  | cons c text induction =>
      rw [longestRun] at few
      rw [List.any_cons, Bool.or_eq_false_iff] at codeless
      by_cases quote : c = '\x27'
      · subst quote
        have longer : ∀ more, List.replicate run '\x27' ++ '\x27' :: more =
            List.replicate (run + 1) '\x27' ++ more := by
          intro more
          simp [List.replicate_succ']
        rw [if_pos rfl] at few
        have short := Nat.le_trans (Nat.le_max_right longest (run + 1))
          (Nat.le_trans (le_longestRun _ _ _ _) few)
        rw [List.cons_append, longer, longer]
        exact induction (Nat.le_max_right longest (run + 1)) few codeless.2 short
      · rw [if_neg quote] at few
        have afterRun := induction (Nat.zero_le longest) few codeless.2 (Nat.zero_le 2)
        rw [List.replicate_zero, List.nil_append, List.nil_append] at afterRun
        have here : literalLines (c :: (text ++ '\x27' :: '\x27' :: '\x27' :: rest)) =
            some (c :: text, rest) := by
          rw [literalLines_plain quote codeless.1, afterRun]
          rfl
        exact reads_run (fun _ => literalLines_quote) short quote here

/-! ## In any form -/

theorem string?_of_doubles {more : List Char}
    (others : ∀ rest, more ≠ '\x22' :: '\x22' :: rest) :
    string? ('\x22' :: more) = basic more := by
  rw [string?]
  exact others

theorem string?_of_singles {more : List Char}
    (others : ∀ rest, more ≠ '\x27' :: '\x27' :: rest) :
    string? ('\x27' :: more) = literal more := by
  rw [string?]
  exact others

theorem formOf_eq_literal {text : List Char} (form : formOf text = .literal) :
    text.any needsCode = false ∧ longestRun '\x27' 0 0 text = 0 ∧ '\n' ∉ text := by
  unfold formOf at form
  grind

theorem formOf_eq_literalLines {text : List Char} (form : formOf text = .literalLines) :
    text.any needsCode = false ∧ longestRun '\x27' 0 0 text ≤ 2 := by
  unfold formOf at form
  grind

/-- The line end after the opening quotes is no part of the text. -/
theorem withoutLineEnd_opening {text written : List Char}
    (first : '\n' ∉ text → ∀ c, written.head? = some c → c ≠ '\n' ∧ c ≠ '\r') :
    withoutLineEnd (opening text ++ written) = written := by
  unfold opening
  split
  case isTrue => rfl
  case isFalse feedless =>
    have absent : '\n' ∉ text := by simpa using feedless
    cases written with
    | nil => rfl
    | cons c written =>
        obtain ⟨notFeed, notReturn⟩ := first absent c rfl
        rw [List.nil_append, withoutLineEnd]
        · exact fun _ equal => notFeed (List.cons.inj equal).1
        · exact fun _ equal => notReturn (List.cons.inj equal).1

/-- On one line a text between double quotes does not begin with one. -/
theorem escapeFrom_not_doubles (text : List Char) {rest : List Char} (unquoted : Unquoted rest)
    (more : List Char) : escapeFrom false 0 text ++ '\x22' :: rest ≠ '\x22' :: '\x22' :: more := by
  intro equal
  cases text with
  | nil =>
      have begins := (List.cons.inj equal).2
      rw [begins] at unquoted
      exact (unquoted '\x22' rfl).1 rfl
  | cons c text =>
      by_cases quote : c = '\x22'
      · subst quote
        have escaped : '\\' = '\x22' := (List.cons.inj equal).1
        contradiction
      · obtain ⟨first, others, written, notQuote, _, _⟩ := writtenChar_eq_cons false quote
        rw [escapeFrom_cons quote, written] at equal
        exact notQuote (List.cons.inj equal).1

theorem not_singles {text rest : List Char} (quoteless : '\x27' ∉ text) (unquoted : Unquoted rest)
    (more : List Char) : text ++ '\x27' :: rest ≠ '\x27' :: '\x27' :: more := by
  intro equal
  cases text with
  | nil =>
      have begins := (List.cons.inj equal).2
      rw [begins] at unquoted
      exact (unquoted '\x27' rfl).2 rfl
  | cons c text =>
      have first : c = '\x27' := (List.cons.inj equal).1
      exact quoteless (first ▸ List.mem_cons_self)

theorem head?_escapeFrom {text rest : List Char} (feedless : '\n' ∉ text) (c : Char)
    (first : (escapeFrom true 0 text ++ '\x22' :: rest).head? = some c) : c ≠ '\n' ∧ c ≠ '\r' := by
  cases text with
  | nil =>
      cases first
      decide
  | cons other text =>
      by_cases quote : other = '\x22'
      · subst quote
        cases first
        decide
      · obtain ⟨start, more, written, _, notReturn, feed⟩ := writtenChar_eq_cons true quote
        rw [escapeFrom_cons quote, written] at first
        cases first
        refine ⟨fun isFeed => feedless ?_, notReturn⟩
        rw [feed isFeed]
        exact List.mem_cons_self

theorem string?_writeChars (text : List Char) {rest : List Char} (unquoted : Unquoted rest) :
    string? (writeChars text ++ rest) = some (text, rest) := by
  unfold writeChars
  dsimp only
  cases form : formOf text with
  | basic =>
      have written : '\x22' :: escapeFrom false 0 text ++ ['\x22'] ++ rest =
          '\x22' :: (escapeFrom false 0 text ++ '\x22' :: rest) := by
        simp
      dsimp only
      rw [written, string?_of_doubles (escapeFrom_not_doubles text unquoted), basic_escapeFrom]
  | literal =>
      obtain ⟨codeless, quoteless, feedless⟩ := formOf_eq_literal form
      have absent := not_mem_of_longestRun_eq_zero quoteless
      have plain : ∀ c ∈ text, isPlain c = true := by
        intro c member
        have code : needsCode c = false := by
          simpa using List.any_eq_false.mp codeless c member
        exact isPlain_of_not_needsCode code (fun feed => feedless (feed ▸ member))
      have written : '\x27' :: text ++ ['\x27'] ++ rest = '\x27' :: (text ++ '\x27' :: rest) := by
        simp
      dsimp only
      rw [written, string?_of_singles (not_singles absent unquoted), literal_append plain absent]
  | basicLines =>
      have written : ['\x22', '\x22', '\x22'] ++ opening text ++ escapeFrom true 0 text ++
          ['\x22', '\x22', '\x22'] ++ rest = '\x22' :: '\x22' :: '\x22' :: (opening text ++
            (escapeFrom true 0 text ++ '\x22' :: '\x22' :: '\x22' :: rest)) := by
        simp
      dsimp only
      rw [written, string?, withoutLineEnd_opening head?_escapeFrom]
      exact basicLines_escapeFrom (Nat.zero_le 2) text unquoted
  | literalLines =>
      obtain ⟨codeless, few⟩ := formOf_eq_literalLines form
      have written : ['\x27', '\x27', '\x27'] ++ opening text ++ text ++
          ['\x27', '\x27', '\x27'] ++ rest = '\x27' :: '\x27' :: '\x27' :: (opening text ++
            (text ++ '\x27' :: '\x27' :: '\x27' :: rest)) := by
        simp
      -- A line end after the opening quotes is dropped, so the text itself may not begin with one.
      have first : '\n' ∉ text → ∀ c,
          (text ++ '\x27' :: '\x27' :: '\x27' :: rest).head? = some c → c ≠ '\n' ∧ c ≠ '\r' := by
        intro feedless c first
        cases text with
        | nil =>
            cases first
            decide
        | cons other text =>
            cases first
            refine ⟨fun feed => feedless (feed ▸ List.mem_cons_self), ?_⟩
            rintro rfl
            contradiction
      dsimp only
      rw [written, string?, withoutLineEnd_opening first]
      exact literalLines_append (Nat.le_refl 0) few codeless unquoted

end DocsConsole.Toml
