import DocsConsole.Proofs.Toml.Numbers
import DocsConsole.Proofs.Toml.Strings
import DocsConsole.Toml.Document

/-!
# Reading written lines

A document that is written has one statement on each line that is not empty: the header of
a table, or a key with a string or a number.  Reading such lines gives their statements, in
the order in which they were written.
-/

namespace DocsConsole.Toml

open scoped CoreInstances

/-- A key that needs no quotes. -/
structure PlainKey where
  text : String
  nonempty : text.toList ≠ [] := by decide
  isKey : text.toList.all isKeyChar = true := by decide

/-- A line of a written document. -/
inductive Line where
  | empty
  | header (key : PlainKey)
  | string (key : PlainKey) (value : String)
  | number (key : PlainKey) (value : Nat) (fits : value < 2 ^ (63 : Nat))

namespace Line

def chars : Line → List Char
  | .empty => ['\n']
  | .header key => '[' :: key.text.toList ++ [']', '\n']
  | .string key value => key.text.toList ++ ' ' :: '=' :: ' ' :: (writeChars value.toList ++ ['\n'])
  | .number key value _ => key.text.toList ++ ' ' :: '=' :: ' ' :: (Nat.toDigits 10 value ++ ['\n'])

def statement? : Line → Option Statement
  | .empty => none
  | .header key => some (.header [key.text])
  | .string key value => some (.entry [] key.text (.string value))
  | .number key value _ => some (.entry [] key.text (.integer value))

end Line

/-! ## Keys -/

theorem skipBlanks_of_head {c : Char} (notBlank : isBlank c = false) (rest : List Char) :
    skipBlanks (c :: rest) = c :: rest := by
  rw [skipBlanks, List.dropWhile_cons_of_neg (by simp [notBlank])]

theorem PlainKey.eq_cons (key : PlainKey) :
    ∃ first rest, key.text.toList = first :: rest ∧ isKeyChar first = true := by
  cases written : key.text.toList with
  | nil => exact (key.nonempty written).elim
  | cons first rest =>
      exact ⟨first, rest, rfl, List.all_eq_true.mp key.isKey first (written ▸ List.mem_cons_self)⟩

/-- A character of a key is none of the marks that begin something else. -/
theorem ne_of_isKeyChar {c mark : Char} (isKey : isKeyChar c = true)
    (other : isKeyChar mark = false) : c ≠ mark := by
  rintro rfl
  rw [isKey] at other
  contradiction

theorem isBlank_of_isKeyChar {c : Char} (isKey : isKeyChar c = true) : isBlank c = false := by
  have notSpace : c ≠ ' ' := ne_of_isKeyChar isKey (by decide)
  have notTab : c ≠ '\t' := ne_of_isKeyChar isKey (by decide)
  simp [isBlank, notSpace, notTab]

theorem PlainKey.skipBlanks_append (key : PlainKey) (rest : List Char) :
    skipBlanks (key.text.toList ++ rest) = key.text.toList ++ rest := by
  obtain ⟨first, others, written, isKey⟩ := key.eq_cons
  rw [written, List.cons_append, skipBlanks_of_head (isBlank_of_isKeyChar isKey)]

theorem PlainKey.keyPart?_append (key : PlainKey) {c : Char} (other : isKeyChar c = false)
    (rest : List Char) :
    keyPart? (key.text.toList ++ c :: rest) = some (key.text, c :: rest) := by
  have all : ∀ c ∈ key.text.toList, isKeyChar c = true := List.all_eq_true.mp key.isKey
  have name : (key.text.toList ++ c :: rest).takeWhile isKeyChar = key.text.toList := by
    rw [List.takeWhile_append_of_pos all, List.takeWhile_cons_of_neg (by simp [other]),
      List.append_nil]
  obtain ⟨first, others, written, isKey⟩ := key.eq_cons
  have unquoted : ∀ mark more, isKeyChar mark = false →
      key.text.toList ++ c :: rest ≠ mark :: more := by
    intro mark more noKey equal
    rw [written] at equal
    exact ne_of_isKeyChar isKey noKey (List.cons.inj equal).1
  unfold keyPart?
  split
  case h_1 more equal => exact (unquoted _ more (by decide) equal).elim
  case h_2 more equal => exact (unquoted _ more (by decide) equal).elim
  case h_3 =>
    rw [name, if_neg (by simpa using key.nonempty), List.drop_left, String.ofList_toList]

/-- A key of one part ends where neither a point nor more of it follows. -/
theorem PlainKey.key?_append (key : PlainKey) (parts : Nat) {c : Char}
    (other : isKeyChar c = false) {rest after : List Char}
    (follows : skipBlanks (c :: rest) = after) (last : after.head? ≠ some '.') :
    key? (parts + 1) (key.text.toList ++ c :: rest) = some ([key.text], after) := by
  rw [key?, key.skipBlanks_append, key.keyPart?_append other]
  dsimp only
  rw [follows]
  split
  case h_1 more => exact (last rfl).elim
  case h_2 => rfl

theorem PlainKey.keyAndEquals?_append (key : PlainKey) {value : List Char}
    (begins : skipBlanks value = value) :
    keyAndEquals? (key.text.toList ++ ' ' :: '=' :: ' ' :: value) = some ([], key.text, value) := by
  have read : key? depthLimit (key.text.toList ++ ' ' :: '=' :: ' ' :: value) =
      some ([key.text], '=' :: ' ' :: value) :=
    key.key?_append 78 (by decide) rfl (by rw [List.head?_cons]; decide)
  have blank : skipBlanks (' ' :: value) = value := by
    rw [skipBlanks, List.dropWhile_cons_of_pos (by decide)]
    exact begins
  rw [keyAndEquals?, read]
  change some ([], key.text, skipBlanks (' ' :: value)) = _
  rw [blank]

/-! ## Values -/

/-- A string begins with a quote. -/
theorem writeChars_eq_cons (text : List Char) :
    ∃ quote more, writeChars text = quote :: more ∧ (quote = '\x22' ∨ quote = '\x27') := by
  unfold writeChars
  cases formOf text with
  | basic => exact ⟨_, _, rfl, .inl rfl⟩
  | literal => exact ⟨_, _, rfl, .inr rfl⟩
  | basicLines => exact ⟨_, _, rfl, .inl rfl⟩
  | literalLines => exact ⟨_, _, rfl, .inr rfl⟩

theorem value?_of_quote (fuel depth : Nat) {quote : Char}
    (isQuote : quote = '\x22' ∨ quote = '\x27') (rest : List Char) :
    value? fuel depth (quote :: rest) =
      (string? (quote :: rest)).map fun (text, after) => (.string (String.ofList text), after) := by
  rcases isQuote with rfl | rfl
  · cases fuel <;> cases depth <;> simp [value?]
  · cases fuel <;> cases depth <;> simp [value?]

theorem value?_writeChars (fuel depth : Nat) (text : String) (rest : List Char) :
    value? fuel depth (writeChars text.toList ++ '\n' :: rest) =
      some (.string text, '\n' :: rest) := by
  have unquoted : Unquoted ('\n' :: rest) := by
    rintro c first
    cases first
    decide
  have read := string?_writeChars text.toList unquoted
  obtain ⟨quote, more, written, isQuote⟩ := writeChars_eq_cons text.toList
  rw [written, List.cons_append] at read ⊢
  rw [value?_of_quote fuel depth isQuote, read, Option.map_some]
  exact congrArg (fun text => some (Value.string text, '\n' :: rest)) String.ofList_toList

theorem value?_toDigits (fuel depth : Nat) {number : Nat} (fits : number < 2 ^ (63 : Nat))
    (rest : List Char) :
    value? fuel depth (Nat.toDigits 10 number ++ '\n' :: rest) =
      some (.integer number, '\n' :: rest) := by
  have read := readScalar_toDigits fits rest
  obtain ⟨first, more, written, digit⟩ := Decimal.toDigits_eq_cons number
  have other : ∀ (mark : Char) {here there : List Char}, mark.isDigit = false →
      first :: here ≠ mark :: there := by
    intro mark here there noDigit equal
    exact Decimal.ne_of_isDigit digit noDigit (List.cons.inj equal).1
  rw [written, List.cons_append] at read ⊢
  unfold value?
  split
  case h_1 equal => exact (other '[' (by decide) equal).elim
  case h_2 equal => exact (other '\x7b' (by decide) equal).elim
  case h_3 equal => exact (other '\x22' (by decide) equal).elim
  case h_4 equal => exact (other '\x27' (by decide) equal).elim
  case h_5 => exact read

/-! ## Statements -/

theorem PlainKey.statement?_header (key : PlainKey) (rest : List Char) :
    Toml.statement? ('[' :: key.text.toList ++ ']' :: rest) =
      some (.header [key.text], rest) := by
  have read : key? depthLimit (key.text.toList ++ ']' :: rest) = some ([key.text], ']' :: rest) :=
    key.key?_append 78 (by decide) (skipBlanks_of_head (by decide) rest)
      (by rw [List.head?_cons]; decide)
  obtain ⟨first, others, written, isKey⟩ := key.eq_cons
  rw [List.cons_append, Toml.statement?, read]
  · rfl
  · intro more equal
    rw [written] at equal
    exact ne_of_isKeyChar isKey (by decide) (List.cons.inj equal).1

/-- An entry ends where its value ends. -/
theorem PlainKey.statement?_entry (key : PlainKey) {written : List Char} {value : Value}
    {rest : List Char} (begins : skipBlanks written = written)
    (read : ∀ fuel depth, value? fuel depth written = some (value, rest)) :
    Toml.statement? (key.text.toList ++ ' ' :: '=' :: ' ' :: written) =
      some (.entry [] key.text value, rest) := by
  obtain ⟨first, others, name, isKey⟩ := key.eq_cons
  have noHeader : ∀ more, key.text.toList ++ ' ' :: '=' :: ' ' :: written ≠ '[' :: more := by
    intro more equal
    rw [name] at equal
    exact ne_of_isKeyChar isKey (by decide) (List.cons.inj equal).1
  rw [Toml.statement?, key.keyAndEquals?_append begins]
  · dsimp only
    rw [read, Option.map_some]
  · exact fun more => noHeader _
  · exact noHeader

/-- A statement that begins with neither a blank nor a comment takes its line. -/
theorem statements?_of_statement? (fuel : Nat) {first : Char} {more rest : List Char}
    {statement : Statement} (notBlank : isBlank first = false)
    (notSpace : first ≠ '\n' ∧ first ≠ '\r' ∧ first ≠ '#')
    (read : Toml.statement? (first :: more) = some (statement, '\n' :: rest)) :
    statements? (fuel + 1) (first :: more) = (statements? fuel rest).map (statement :: ·) := by
  rw [statements?.eq_def (fuel + 1), skipBlanks_of_head notBlank]
  split
  case h_1 equal => cases equal
  case h_2 => contradiction
  case h_3 equal => exact (notSpace.1 (List.cons.inj equal).1).elim
  case h_4 equal => exact (notSpace.2.1 (List.cons.inj equal).1).elim
  case h_5 equal => exact (notSpace.2.2 (List.cons.inj equal).1).elim
  case h_6 equal _ _ _ _ =>
    cases equal
    rw [read]
    rfl

theorem PlainKey.statements?_entry (key : PlainKey) (fuel : Nat) {written rest : List Char}
    {value : Value} (begins : skipBlanks written = written)
    (read : ∀ fuel depth, value? fuel depth written = some (value, '\n' :: rest)) :
    statements? (fuel + 1) (key.text.toList ++ ' ' :: '=' :: ' ' :: written) =
      (statements? fuel rest).map (.entry [] key.text value :: ·) := by
  have entry := key.statement?_entry begins read
  obtain ⟨first, others, name, isKey⟩ := key.eq_cons
  have other : ∀ mark : Char, isKeyChar mark = false → first ≠ mark := fun _ =>
    ne_of_isKeyChar isKey
  rw [name, List.cons_append] at entry ⊢
  exact statements?_of_statement? fuel (isBlank_of_isKeyChar isKey)
    ⟨other _ (by decide), other _ (by decide), other _ (by decide)⟩ entry

namespace Line

theorem statements?_append (line : Line) (fuel : Nat) (rest : List Char) :
    statements? (fuel + 1) (line.chars ++ rest) =
      (statements? fuel rest).map (line.statement?.toList ++ ·) := by
  cases line with
  | empty =>
      have read : statements? (fuel + 1) ('\n' :: rest) = statements? fuel rest := by
        rw [statements?.eq_def (fuel + 1), skipBlanks_of_head (by decide)]
        rfl
      simp [chars, statement?, read]
  | header key =>
      have read := key.statement?_header ('\n' :: rest)
      simpa [chars, statement?] using statements?_of_statement? fuel (by decide) (by decide) read
  | string key value =>
      have read : ∀ fuel depth, value? fuel depth (writeChars value.toList ++ '\n' :: rest) =
          some (.string value, '\n' :: rest) := fun fuel depth =>
        value?_writeChars fuel depth value rest
      have begins : skipBlanks (writeChars value.toList ++ '\n' :: rest) =
          writeChars value.toList ++ '\n' :: rest := by
        obtain ⟨quote, more, written, isQuote⟩ := writeChars_eq_cons value.toList
        rw [written, List.cons_append, skipBlanks_of_head]
        rcases isQuote with rfl | rfl <;> decide
      simpa [chars, statement?] using key.statements?_entry fuel begins read
  | number key value fits =>
      have read : ∀ fuel depth, value? fuel depth (Nat.toDigits 10 value ++ '\n' :: rest) =
          some (.integer value, '\n' :: rest) := fun fuel depth =>
        value?_toDigits fuel depth fits rest
      have begins : skipBlanks (Nat.toDigits 10 value ++ '\n' :: rest) =
          Nat.toDigits 10 value ++ '\n' :: rest := by
        obtain ⟨first, more, written, digit⟩ := Decimal.toDigits_eq_cons value
        rw [written, List.cons_append, skipBlanks_of_head]
        simp [isBlank, Decimal.ne_of_isDigit digit]
      simpa [chars, statement?] using key.statements?_entry fuel begins read

theorem chars_eq_cons (line : Line) :
    ∃ first rest, line.chars = first :: rest ∧ first ≠ '\ufeff' := by
  have ofKey : ∀ (key : PlainKey) (more : List Char),
      ∃ first rest, key.text.toList ++ more = first :: rest ∧ first ≠ '\ufeff' := by
    intro key more
    obtain ⟨first, others, written, isKey⟩ := key.eq_cons
    exact ⟨first, others ++ more, by rw [written, List.cons_append],
      ne_of_isKeyChar isKey (by decide)⟩
  cases line with
  | empty => exact ⟨_, _, rfl, by decide⟩
  | header key => exact ⟨_, _, rfl, by decide⟩
  | string key value => exact ofKey key _
  | number key value fits => exact ofKey key _

end Line

theorem statements?_lines (lines : List Line) {fuel : Nat} (enough : lines.length ≤ fuel) :
    statements? fuel (lines.flatMap Line.chars) = some (lines.filterMap Line.statement?) := by
  induction lines generalizing fuel with
  | nil => rw [List.flatMap_nil, statements?.eq_def]; rfl
  | cons line lines induction =>
      obtain ⟨less, rfl⟩ : ∃ less, fuel = less + 1 := ⟨fuel - 1, by
        rw [List.length_cons] at enough; omega⟩
      rw [List.flatMap_cons, line.statements?_append, induction (Nat.le_of_succ_le_succ enough),
        Option.map_some]
      cases line <;> rfl

theorem length_le_length_flatMap_chars (lines : List Line) :
    lines.length ≤ (lines.flatMap Line.chars).length := by
  induction lines with
  | nil => exact Nat.le_refl 0
  | cons line lines induction =>
      obtain ⟨first, rest, written, _⟩ := line.chars_eq_cons
      rw [List.flatMap_cons, written, List.length_append]
      simp only [List.length_cons]
      omega

/-- A document of lines is built from what they state. -/
theorem read?_lines (lines : List Line) {text : String}
    (written : text.toList = lines.flatMap Line.chars) :
    read? text =
      ((lines.filterMap Line.statement?).foldlM Building.add Building.empty).map (·.root.2) := by
  have unmarked : withoutMark (lines.flatMap Line.chars) = lines.flatMap Line.chars := by
    cases lines with
    | nil => rfl
    | cons line lines =>
        obtain ⟨first, rest, begins, notMark⟩ := line.chars_eq_cons
        rw [List.flatMap_cons, begins, List.cons_append, withoutMark]
        exact fun _ equal => notMark (List.cons.inj equal).1
  have enough := Nat.le_succ_of_le (length_le_length_flatMap_chars lines)
  rw [read?, written, unmarked, statements?_lines lines enough]

end DocsConsole.Toml
