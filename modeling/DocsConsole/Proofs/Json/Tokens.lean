import DocsConsole.Json.Writer
import DocsConsole.Json.Reader
import DocsConsole.Proofs.Json.Numbers
import Mathlib.Data.List.Chain

/-!
# Reading written tokens

Tokens that are written without blanks between them are read back, if all numbers are whole,
all strings have a text, and two neighbours are never both words: between a number and what
follows it there has to be a mark.
-/

namespace DocsConsole

open scoped CoreInstances

/-! ## Strings -/

namespace JsonToken

theorem hexDigitValue_hexDigit {value : Nat} (small : value < 16) :
    Unicode.hexDigitValue (hexDigit value) = value := by
  have all : ∀ value : Fin 16, Unicode.hexDigitValue (hexDigit value) = value := by decide
  exact all ⟨value, small⟩

theorem isHexDigit_hexDigit {value : Nat} (small : value < 16) :
    Unicode.isHexDigit (hexDigit value) = true := by
  have all : ∀ value : Fin 16, Unicode.isHexDigit (hexDigit value) = true := by decide
  exact all ⟨value, small⟩

/-- What is written for a character is read as a unit that stands for the character. -/
structure Spells (unit : StringUnit) (written : List Char) (c : Char) : Prop where
  read : ∀ rest, stringUnits (written.map some ++ rest) =
    (stringUnits rest).map fun found => (unit :: found.1, found.2)
  character : ∀ units, StringUnit.characters? (unit :: units) =
    (StringUnit.characters? units).map (c :: ·)

theorem spells_letter {letter c : Char} (known : escaped? letter = some c) :
    Spells (.char c) ['\\', letter] c where
  read rest := by
    have notU : letter ≠ 'u' := by
      rintro rfl
      contradiction
    simp [stringUnits, notU, known]
  character units := by rw [StringUnit.characters?]

theorem hexValue_hexDigits {code : Nat} (small : code < 256) :
    Unicode.hexValue ['0', '0', hexDigit (code / 16), hexDigit (code % 16)] = code := by
  have high : code / 16 < 16 := by omega
  have low : code % 16 < 16 := by omega
  have zero : Unicode.hexDigitValue '0' = 0 := by decide
  simp only [Unicode.hexValue, List.foldl_cons, List.foldl_nil, zero, hexDigitValue_hexDigit high,
    hexDigitValue_hexDigit low]
  omega

theorem spells_unit {c : Char} (control : c < ' ') :
    Spells (.unit c.toNat) ['\\', 'u', '0', '0', hexDigit (c.toNat / 16), hexDigit (c.toNat % 16)]
      c where
  read rest := by
    have small : c.toNat < 32 := control
    have zero : Unicode.isHexDigit '0' = true := by decide
    have high := isHexDigit_hexDigit (by omega : c.toNat / 16 < 16)
    have low := isHexDigit_hexDigit (by omega : c.toNat % 16 < 16)
    have code := hexValue_hexDigits (Nat.lt_trans small (by decide : 32 < 256))
    simp [stringUnits, zero, high, low, code]
  character units := by
    have small : c.toNat < 32 := control
    have notLeading : StringUnit.isLeading c.toNat = false := by
      simp [StringUnit.isLeading]
      omega
    have notTrailing : StringUnit.isTrailing c.toNat = false := by
      simp [StringUnit.isTrailing]
      omega
    cases units with
    | nil => simp [StringUnit.characters?, notLeading, notTrailing]
    | cons unit units =>
        cases unit <;> simp [StringUnit.characters?, notLeading, notTrailing]

theorem spells_plain {c : Char} (plain : ¬ c < ' ') (notQuote : c ≠ '"') (notBackslash : c ≠ '\\') :
    Spells (.char c) [c] c where
  read rest := by
    have kept : ¬ ((c < ' ' || c = '\\') = true) := by simp [plain, notBackslash]
    rw [List.map_singleton, List.singleton_append, stringUnits, if_neg kept]
    · exact notQuote
    · exact fun _ _ _ _ _ _ => notBackslash
    · exact fun _ _ _ => notBackslash
  character units := by rw [StringUnit.characters?]

theorem exists_spells_escape (c : Char) : ∃ unit, Spells unit (escape c) c := by
  unfold escape
  split
  case h_8 notQuote notBackslash _ _ _ _ _ =>
    split
    case isTrue control => exact ⟨_, spells_unit control⟩
    case isFalse plain => exact ⟨_, spells_plain plain notQuote notBackslash⟩
  all_goals exact ⟨_, spells_letter rfl⟩

/-- A string is read back from between its quotes. -/
theorem stringUnits_escape (text : List Char) (rest : Source) :
    ∃ units, stringUnits ((text.flatMap escape).map some ++ some '"' :: rest) =
      some (units, rest) ∧ StringUnit.characters? units = some text := by
  induction text with
  | nil => exact ⟨[], by rw [List.flatMap_nil, List.map_nil, List.nil_append, stringUnits], rfl⟩
  | cons c text induction =>
      obtain ⟨unit, spells⟩ := exists_spells_escape c
      obtain ⟨units, read, characters⟩ := induction
      refine ⟨unit :: units, ?_, ?_⟩
      · rw [List.flatMap_cons, List.map_append, List.append_assoc, spells.read, read]
        rfl
      · rw [spells.character, characters]
        rfl

/-! ## Tokens -/

/-- Whether a token is a bracket, a brace, a colon or a comma. -/
def isMark : JsonToken → Bool
  | .null | .bool _ | .number _ | .string _ => false
  | _ => true

/-- A token that is written in full: its number is whole, its string has a text. -/
def IsReadable : JsonToken → Prop
  | .number value => ∃ number, value = some number ∧ number.IsWhole
  | .string text => text.isSome = true
  | _ => True

/-- One of two neighbours is a mark. -/
def Apart (first second : JsonToken) : Prop :=
  first.isMark = true ∨ second.isMark = true

theorem next?_number {first : Char} (begins : first.isDigit = true ∨ first = '-') (rest : Source) :
    next? first rest = (number? (some first :: rest)).map fun (literal, after) =>
      (.number literal.value?, after) := by
  have other : ∀ mark : Char, mark.isDigit = false → mark ≠ '-' → first ≠ mark := by
    rintro mark noDigit noSign rfl
    rcases begins with digit | sign
    · rw [digit] at noDigit
      contradiction
    · exact noSign sign
  unfold next?
  split
  case h_11 => rfl
  all_goals exact (other _ (by decide) (by decide) rfl).elim

theorem next?_write {token : JsonToken} (readable : token.IsReadable) {rest : Source}
    (ends : token.isMark = false → EndsNumber rest) :
    ∃ first more, token.write = first :: more ∧ isBlank first = false ∧
      next? first (more.map some ++ rest) = some (token, rest) := by
  cases token with
  | number value =>
      obtain ⟨number, rfl, whole⟩ := readable
      obtain ⟨first, more, written, begins⟩ := write_eq_cons whole
      obtain ⟨literal, read, value⟩ := number?_write whole (ends rfl)
      refine ⟨first, more, written, ?_, ?_⟩
      · rcases begins with digit | rfl
        · simp [isBlank, Decimal.ne_of_isDigit digit]
        · decide
      · rw [written, List.map_cons, List.cons_append] at read
        rw [next?_number begins, read, ← value]
        rfl
  | string text =>
      obtain ⟨text, rfl⟩ := Option.isSome_iff_exists.mp readable
      obtain ⟨units, read, characters⟩ := stringUnits_escape text.toList rest
      refine ⟨'"', text.toList.flatMap escape ++ ['"'], rfl, by decide, ?_⟩
      rw [List.map_append, List.append_assoc]
      simp only [List.map_singleton, List.singleton_append]
      have spelled : (StringUnit.characters? units).map String.ofList = some text := by
        rw [characters, Option.map_some, String.ofList_toList]
      rw [next?, read, ← spelled]
      rfl
  | bool value => cases value <;> exact ⟨_, _, rfl, by decide, rfl⟩
  | _ => exact ⟨_, _, rfl, by decide, rfl⟩

/-- A mark ends a number. -/
theorem endsNumber_of_isMark {token : JsonToken} (mark : token.isMark = true) (rest : Source) :
    EndsNumber (token.write.map some ++ rest) := by
  rintro c first
  cases token with
  | null | bool | number | string => contradiction
  | _ =>
      cases first
      decide

theorem scan_write {tokens : List JsonToken} (readable : ∀ token ∈ tokens, token.IsReadable)
    (apart : tokens.IsChain Apart) {fuel : Nat}
    (enough : (tokens.flatMap write).length ≤ fuel) :
    scan fuel ((tokens.flatMap write).map some) = some tokens := by
  induction tokens generalizing fuel with
  | nil => rw [List.flatMap_nil, List.map_nil, scan]
  | cons token tokens induction =>
      have ends : token.isMark = false → EndsNumber ((tokens.flatMap write).map some) := by
        intro word
        cases tokens with
        | nil =>
            rintro c first
            contradiction
        | cons next tokens =>
            have mark : next.isMark = true := by
              rcases (List.isChain_cons_cons.mp apart).1 with first | second
              · rw [word] at first
                contradiction
              · exact second
            rw [List.flatMap_cons, List.map_append]
            exact endsNumber_of_isMark mark _
      obtain ⟨first, more, written, notBlank, read⟩ :=
        next?_write (readable token List.mem_cons_self) ends
      rw [List.flatMap_cons, written, List.length_append, List.length_cons] at enough
      obtain ⟨less, rfl⟩ : ∃ less, fuel = less + 1 := ⟨fuel - 1, by omega⟩
      have enoughLeft : (tokens.flatMap write).length ≤ less := by omega
      have others := induction (fun other member => readable other (List.mem_cons_of_mem _ member))
        apart.tail enoughLeft
      rw [List.flatMap_cons, written, List.cons_append, List.map_cons, List.map_append, scan,
        if_neg (by simp [notBlank]), read]
      exact congrArg (Option.map (token :: ·)) others

/-- Tokens are read as they were written. -/
theorem ofSource_write {tokens : List JsonToken} (readable : ∀ token ∈ tokens, token.IsReadable)
    (apart : tokens.IsChain Apart) :
    ofSource ((tokens.flatMap write).map some) = some tokens := by
  rw [ofSource, List.length_map]
  exact scan_write readable apart (Nat.le_refl _)

end JsonToken

end DocsConsole
