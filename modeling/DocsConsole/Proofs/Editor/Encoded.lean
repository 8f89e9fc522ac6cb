import DocsConsole.Proofs.Editor.Parts
import DocsConsole.Proofs.Text.Utf8
import Mathlib.Data.List.Induction

/-!
# Fields as encoded texts

A field can be held as the bytes of its text and an offset among them.  Characters, words and
lines are then found by looking at single bytes, and the text is divided by slicing, which
fails inside a character and beyond the end.  It never fails: what the operations make of the
bytes is the encoding of what they make of the two parts.
-/

namespace DocsConsole

open scoped CoreInstances

/-- The bytes of a text. -/
def Text.encode (text : List Char) : List UInt8 :=
  text.flatMap String.utf8EncodeChar

structure EncodedField where
  kind : FieldKind
  bytes : List UInt8
  cursor : Nat
deriving DecidableEq, Repr

namespace EncodedField

/-! ## Looking at bytes -/

/-- Whether a character begins with a byte. -/
def begins (byte : UInt8) : Bool :=
  byte < 0x80 || 0xC0 ≤ byte

/-- Whether an offset lies between two characters, or at either end. -/
def isBoundary (bytes : List UInt8) (offset : Nat) : Bool :=
  offset = 0 ||
    match bytes[offset]? with
    | some byte => begins byte
    | none => offset = bytes.length

/-- The bytes before and after an offset. -/
def slice? (bytes : List UInt8) (offset : Nat) : Option (List UInt8 × List UInt8) :=
  if isBoundary bytes offset then some (bytes.take offset, bytes.drop offset) else none

/-- The offset before some bytes that have a property, looking back from an offset. -/
def lookBack (p : UInt8 → Bool) (bytes : List UInt8) : Nat → Nat
  | 0 => 0
  | offset + 1 => if (bytes[offset]?).any p then lookBack p bytes offset else offset + 1

/-- The nearest boundary at an offset or before it. -/
def snap (bytes : List UInt8) : Nat → Nat
  | 0 => 0
  | offset + 1 => if isBoundary bytes (offset + 1) then offset + 1 else snap bytes offset

/-- The bytes after the first character. -/
def withoutFirst? : List UInt8 → Option (List UInt8)
  | [] => none
  | _ :: rest => some (rest.dropWhile (!begins ·))

/-! ## Operations -/

/-- The cursor, if it is not beyond the end. -/
def offset (field : EncodedField) : Nat :=
  min field.cursor field.bytes.length

def insert? (field : EncodedField) (text : List UInt8) : Option EncodedField := do
  let (front, back) ← slice? field.bytes field.offset
  return ⟨field.kind, front ++ text ++ back, field.offset + text.length⟩

def eraseCharacter? (field : EncodedField) : Option EncodedField :=
  if field.offset = 0 then some { field with cursor := 0 }
  else do
    let (front, _) ← slice? field.bytes field.offset
    let first := lookBack (!begins ·) front front.length - 1
    let (kept, taken) ← slice? field.bytes first
    let back ← withoutFirst? taken
    return ⟨field.kind, kept ++ back, first⟩

def eraseWord? (field : EncodedField) : Option EncodedField :=
  if field.offset = 0 then some { field with cursor := 0 }
  else do
    let stop := lookBack (· = 0x20) field.bytes field.offset
    let start := lookBack (fun byte => byte ≠ 0x20 && byte ≠ 0x0A) field.bytes stop
    let (kept, _) ← slice? field.bytes start
    let (_, back) ← slice? field.bytes field.offset
    return ⟨field.kind, kept ++ back, start⟩

def edit? (field : EncodedField) : Edit → Option EncodedField
  | .character c =>
      if c = '\n' ∧ field.kind ≠ .multi then some field
      else field.insert? (Text.encode [c])
  | .newline => if field.kind = .multi then field.insert? [0x0A] else some field
  | .eraseCharacter => field.eraseCharacter?
  | .eraseWord => field.eraseWord?
  | .paste text => field.insert? (Text.encode (TextField.pasted field.kind text))

/-- The number of lines before that of the cursor, and the bytes of its line before it. -/
def position? (field : EncodedField) : Option (Nat × Nat) := do
  let (front, _) ← slice? field.bytes field.offset
  return (front.count 0x0A, field.cursor - lookBack (· ≠ 0x0A) front front.length)

/-- The field with its cursor in a line, so many bytes from its beginning if it is long
enough. -/
def moveTo? (field : EncodedField) (line column : Nat) : Option EncodedField := do
  let lines := field.bytes.splitOn 0x0A
  let target ← lines[line]?
  let start := ((lines.take line).map (·.length + 1)).sum
  return { field with cursor := snap field.bytes (start + min column target.length) }

def up? (field : EncodedField) : Option EncodedField := do
  let (line, column) ← field.position?
  if field.kind ≠ .multi ∨ line = 0 then return field else field.moveTo? (line - 1) column

def down? (field : EncodedField) : Option EncodedField := do
  let (line, column) ← field.position?
  if field.kind ≠ .multi ∨ (field.bytes.splitOn 0x0A).length ≤ line + 1 then return field
  else field.moveTo? (line + 1) column

def perform? (field : EncodedField) : TextField.Operation → Option EncodedField
  | .setValue value =>
      some { field with
        bytes := Text.encode value.toList, cursor := (Text.encode value.toList).length }
  | .clear => some { field with bytes := [], cursor := 0 }
  | .act (.edit change) => field.edit? change
  | .act _ => some field
  | .up => field.up?
  | .down => field.down?

/-- What some operations make of a new field, the last one standing first. -/
def result? (kind : FieldKind) : List TextField.Operation → Option EncodedField
  | [] => some ⟨kind, [], 0⟩
  | operation :: earlier => do (← result? kind earlier).perform? operation

end EncodedField

/-! ## Encoded characters -/

namespace Text

@[simp] theorem encode_nil : encode [] = [] := rfl

@[simp] theorem encode_cons (c : Char) (text : List Char) :
    encode (c :: text) = String.utf8EncodeChar c ++ encode text :=
  List.flatMap_cons

@[simp] theorem encode_append (left right : List Char) :
    encode (left ++ right) = encode left ++ encode right :=
  List.flatMap_append

theorem encode_feed : String.utf8EncodeChar '\n' = [0x0A] := by decide

theorem encode_space : String.utf8EncodeChar ' ' = [0x20] := by decide

theorem length_encode (text : List Char) : (encode text).length = byteCount text := by
  induction text with
  | nil => rfl
  | cons c text induction =>
      rw [encode_cons, List.length_append, String.length_utf8EncodeChar, induction, byteCount_cons]

theorem encode_injective {left right : List Char} (same : encode left = encode right) :
    left = right := by
  have decoded := congrArg (Utf8.decodeFrom none) same
  rw [encode, encode, Utf8.decodeFrom_encode, Utf8.decodeFrom_encode] at decoded
  exact (List.map_inj_right fun _ _ => Option.some.inj).mp decoded

theorem eq_nil_of_byteCount {text : List Char} (nothing : byteCount text = 0) : text = [] := by
  cases text with
  | nil => rfl
  | cons c text =>
      have positive := c.utf8Size_pos
      rw [byteCount_cons] at nothing
      omega

/-- A character is one small byte, or a large one and others between the two. -/
theorem utf8EncodeChar_cases (c : Char) :
    (∃ byte : UInt8, String.utf8EncodeChar c = [byte] ∧ byte < 0x80 ∧ byte.toNat = c.toNat) ∨
      ∃ first rest, String.utf8EncodeChar c = first :: rest ∧ 0xC0 ≤ first ∧
        (∀ byte ∈ rest, 0x80 ≤ byte ∧ byte < 0xC0) ∧ 0x80 ≤ c.toNat := by
  have number : c.val.toNat = c.toNat := rfl
  have following : ∀ value, 0x80 ≤ UInt8.ofNat (value % 64 + 128) ∧
      UInt8.ofNat (value % 64 + 128) < 0xC0 := by
    intro value
    have byte : (UInt8.ofNat (value % 64 + 128)).toNat = value % 64 + 128 :=
      Utf8.toNat_ofNat_of_lt (by omega)
    rw [UInt8.le_iff_toNat_le, UInt8.lt_iff_toNat_lt, byte]
    constructor
    · change 128 ≤ _
      omega
    · change _ < 192
      omega
  have leading : ∀ value, 0xC0 ≤ value → value < 256 → 0xC0 ≤ UInt8.ofNat value := by
    intro value large small
    rw [UInt8.le_iff_toNat_le, Utf8.toNat_ofNat_of_lt small]
    exact large
  simp only [String.utf8EncodeChar, number]
  split
  case isTrue short =>
    left
    have byte : (UInt8.ofNat c.toNat).toNat = c.toNat := Utf8.toNat_ofNat_of_lt (by omega)
    refine ⟨_, rfl, ?_, byte⟩
    rw [UInt8.lt_iff_toNat_lt, byte]
    change _ < 128
    omega
  case isFalse long =>
    right
    split
    case isTrue =>
      refine ⟨_, _, rfl, leading _ (by omega) (by omega), ?_, by omega⟩
      simp only [List.mem_singleton, forall_eq]
      exact following _
    case isFalse =>
      split
      case isTrue =>
        refine ⟨_, _, rfl, leading _ (by omega) (by omega), ?_, by omega⟩
        simp only [List.mem_cons, List.not_mem_nil, or_false, forall_eq_or_imp, forall_eq]
        exact ⟨following _, following _⟩
      case isFalse =>
        refine ⟨_, _, rfl, leading _ (by omega) (by omega), ?_, by omega⟩
        simp only [List.mem_cons, List.not_mem_nil, or_false, forall_eq_or_imp, forall_eq]
        exact ⟨following _, following _, following _⟩

/-- A small byte stands for a character alone. -/
theorem toNat_of_mem_utf8EncodeChar {c : Char} {byte : UInt8}
    (member : byte ∈ String.utf8EncodeChar c) (small : byte < 0x80) :
    byte.toNat = c.toNat := by
  rcases utf8EncodeChar_cases c with
    ⟨only, encoded, _, same⟩ | ⟨first, rest, encoded, large, between, _⟩
  · rw [encoded] at member
    rw [List.mem_singleton.mp member]
    exact same
  · rw [encoded] at member
    exfalso
    rw [UInt8.lt_iff_toNat_lt] at small
    rcases List.mem_cons.mp member with rfl | later
    · rw [UInt8.le_iff_toNat_le] at large
      have smaller : (0x80 : UInt8).toNat ≤ (0xC0 : UInt8).toNat := by decide
      exact absurd (Nat.lt_of_lt_of_le small smaller) (Nat.not_lt_of_le large)
    · have above := (between byte later).1
      rw [UInt8.le_iff_toNat_le] at above
      exact absurd small (Nat.not_lt_of_le above)

/-- A mark of one byte is where that byte is. -/
theorem eq_of_mem_utf8EncodeChar {c : Char} (mark : Char) (small : mark.toNat < 0x80)
    (member : UInt8.ofNat mark.toNat ∈ String.utf8EncodeChar c) : c = mark := by
  have byte : (UInt8.ofNat mark.toNat).toNat = mark.toNat := Utf8.toNat_ofNat_of_lt (by omega)
  have same := toNat_of_mem_utf8EncodeChar member (by
    rw [UInt8.lt_iff_toNat_lt, byte]
    exact small)
  rw [byte] at same
  exact Char.toNat_inj.mp same.symm

theorem exists_of_getLast?_encode {text : List Char} {byte : UInt8}
    (last : (encode text).getLast? = some byte) :
    ∃ c, text.getLast? = some c ∧ byte ∈ String.utf8EncodeChar c := by
  rcases List.eq_nil_or_concat text with rfl | ⟨front, c, rfl⟩
  · contradiction
  · rw [List.concat_eq_append] at last ⊢
    refine ⟨c, List.getLast?_concat, ?_⟩
    rw [encode_append, encode_cons, encode_nil, List.append_nil, List.getLast?_append,
      List.getLast?_eq_some_getLast String.utf8EncodeChar_ne_nil, Option.some_or] at last
    exact Option.some.inj last ▸ List.getLast_mem _

theorem count_encode (text : List Char) : (encode text).count 0x0A = text.count '\n' := by
  induction text with
  | nil => rfl
  | cons c text induction =>
      rw [encode_cons, List.count_append, induction]
      by_cases feed : c = '\n'
      · subst feed
        rw [encode_feed, List.count_singleton_self, List.count_cons_self, Nat.add_comm]
      · rw [List.count_cons_of_ne feed, List.count_eq_zero.mpr, Nat.zero_add]
        intro member
        exact feed (eq_of_mem_utf8EncodeChar '\n' (by decide) member)

end Text

/-! ## Looking at encoded text -/

namespace EncodedField

open Text

theorem exists_begins (c : Char) :
    ∃ first rest, String.utf8EncodeChar c = first :: rest ∧ begins first = true ∧
      ∀ byte ∈ rest, begins byte = false := by
  rcases utf8EncodeChar_cases c with
    ⟨only, encoded, small, _⟩ | ⟨first, rest, encoded, large, between, _⟩
  · refine ⟨only, [], encoded, ?_, fun byte member => (List.not_mem_nil member).elim⟩
    rw [begins, Bool.or_eq_true, decide_eq_true_eq]
    exact Or.inl small
  · refine ⟨first, rest, encoded, ?_, ?_⟩
    · rw [begins, Bool.or_eq_true, decide_eq_true_eq, decide_eq_true_eq]
      exact Or.inr large
    · intro byte member
      obtain ⟨above, below⟩ := between byte member
      rw [begins, Bool.or_eq_false_iff, decide_eq_false_iff_not, decide_eq_false_iff_not]
      exact ⟨UInt8.not_lt.mpr above, UInt8.not_le.mpr below⟩

theorem isBoundary_encode (front back : List Char) :
    isBoundary (encode (front ++ back)) (byteCount front) = true := by
  rw [encode_append, ← length_encode, isBoundary, Bool.or_eq_true]
  right
  rw [List.getElem?_append_right (Nat.le_refl _), Nat.sub_self]
  cases back with
  | nil => simp
  | cons c back =>
      obtain ⟨first, rest, encoded, start, _⟩ := exists_begins c
      rw [encode_cons, encoded]
      exact start

theorem slice?_encode (front back : List Char) :
    slice? (encode (front ++ back)) (byteCount front) = some (encode front, encode back) := by
  rw [slice?, if_pos (isBoundary_encode front back), encode_append, ← length_encode,
    List.take_left, List.drop_left]

theorem byteCount_takeBytes_of_isBoundary {text : List Char} {offset : Nat}
    (boundary : isBoundary (encode text) offset = true) :
    byteCount (takeBytes offset text) = offset := by
  induction text generalizing offset with
  | nil =>
      rw [isBoundary, Bool.or_eq_true, decide_eq_true_eq] at boundary
      rcases boundary with rfl | ends
      · rfl
      · exact (of_decide_eq_true ends).symm
  | cons c text induction =>
      have size := String.length_utf8EncodeChar c
      rw [isBoundary, Bool.or_eq_true, decide_eq_true_eq, encode_cons] at boundary
      by_cases fits : c.utf8Size ≤ offset
      · have later : isBoundary (encode text) (offset - c.utf8Size) = true := by
          rw [isBoundary, Bool.or_eq_true, decide_eq_true_eq]
          have positive := c.utf8Size_pos
          rcases boundary with zero | looked
          · omega
          · right
            rw [List.getElem?_append_right (by omega), size] at looked
            cases found : (encode text)[offset - c.utf8Size]? with
            | some byte =>
                rw [found] at looked
                exact looked
            | none =>
                rw [found] at looked
                have ends := of_decide_eq_true looked
                rw [List.length_append, size] at ends
                exact decide_eq_true (by omega)
        rw [takeBytes, if_pos fits, byteCount_cons, induction later]
        omega
      · -- Inside the first character no byte begins one.
        rw [takeBytes, if_neg fits, byteCount_nil]
        rcases boundary with zero | looked
        · exact zero.symm
        · obtain ⟨first, rest, encoded, _, within⟩ := exists_begins c
          rw [encoded] at looked size
          rw [List.getElem?_append_left (by omega)] at looked
          cases offset with
          | zero => rfl
          | succ offset =>
              rw [List.length_cons] at size
              rw [List.getElem?_cons_succ, List.getElem?_eq_getElem (by omega)] at looked
              have inside := within _ (List.getElem_mem (by omega : offset < rest.length))
              change begins _ = true at looked
              rw [inside] at looked
              contradiction

theorem takeBytes_eq_of_le {small large : Nat} {text : List Char} (le : small ≤ large)
    (fits : byteCount (takeBytes large text) ≤ small) :
    takeBytes small text = takeBytes large text := by
  induction text generalizing small large with
  | nil => rfl
  | cons c text induction =>
      by_cases first : c.utf8Size ≤ large
      · simp only [takeBytes, if_pos first, byteCount_cons] at fits ⊢
        have firstToo : c.utf8Size ≤ small := by omega
        rw [if_pos firstToo, induction (Nat.sub_le_sub_right le c.utf8Size) (by omega)]
      · have notFirst : ¬c.utf8Size ≤ small := by omega
        simp only [takeBytes, if_neg first, if_neg notFirst]

/-- To snap to a boundary is to keep the characters before an offset. -/
theorem snap_encode (text : List Char) (offset : Nat) :
    snap (encode text) offset = byteCount (takeBytes offset text) := by
  induction offset with
  | zero => exact (Nat.le_zero.mp (byteCount_takeBytes_le 0 text)).symm
  | succ offset induction =>
      rw [snap]
      split
      case isTrue boundary => exact (byteCount_takeBytes_of_isBoundary boundary).symm
      case isFalse inside =>
        have whole := takeBytes_append_dropBytes (offset + 1) text
        have notThere : byteCount (takeBytes (offset + 1) text) ≠ offset + 1 := by
          intro there
          apply inside
          have boundary := isBoundary_encode (takeBytes (offset + 1) text)
            (dropBytes (offset + 1) text)
          rw [whole, there] at boundary
          exact boundary
        have le := byteCount_takeBytes_le (offset + 1) text
        rw [induction, takeBytes_eq_of_le (Nat.le_add_right offset 1) (by omega)]

/-- Looking back ends before the run of bytes that have the property. -/
theorem lookBack_eq {p : UInt8 → Bool} {bytes front run rest : List UInt8}
    (parted : bytes = front ++ run ++ rest)
    (stops : ∀ byte, front.getLast? = some byte → p byte = false)
    (all : ∀ byte ∈ run, p byte = true) :
    lookBack p bytes (front.length + run.length) = front.length := by
  subst parted
  induction run using List.reverseRecOn generalizing rest with
  | nil =>
      rcases List.eq_nil_or_concat front with rfl | ⟨before, byte, rfl⟩
      · rfl
      · rw [List.concat_eq_append] at stops ⊢
        have stop := stops byte List.getLast?_concat
        simp [lookBack, stop]
  | append_singleton run byte induction =>
      have last := all byte (List.mem_append_right _ List.mem_cons_self)
      have others := @induction (byte :: rest)
        (fun other member => all other (List.mem_append_left _ member))
      have moved : front ++ (run ++ [byte]) ++ rest = front ++ run ++ byte :: rest := by simp
      have found : (front ++ run ++ byte :: rest)[front.length + run.length]? = some byte := by
        simp
      rw [moved, List.length_append, List.length_singleton, ← Nat.add_assoc, lookBack, found,
        Option.any_some, if_pos last, others]

theorem lookBack_encode {p : UInt8 → Bool} {front run : List Char} (rest : List Char)
    (stops : ∀ c, front.getLast? = some c → ∀ byte ∈ String.utf8EncodeChar c, p byte = false)
    (all : ∀ c ∈ run, ∀ byte ∈ String.utf8EncodeChar c, p byte = true) :
    lookBack p (encode (front ++ run ++ rest)) (byteCount (front ++ run)) = byteCount front := by
  have whole : encode (front ++ run ++ rest) = encode front ++ encode run ++ encode rest := by
    simp only [encode_append]
  have looked := lookBack_eq (p := p) whole
    (fun byte last => by
      obtain ⟨c, lastChar, member⟩ := exists_of_getLast?_encode last
      exact stops c lastChar byte member)
    (fun byte member => by
      obtain ⟨c, inside, encoded⟩ := List.mem_flatMap.mp member
      exact all c inside byte encoded)
  rw [length_encode, length_encode, ← byteCount_append] at looked
  exact looked

/-! ## Edits of encoded text -/

/-- The encoding of the two parts, with the cursor between them. -/
def ofParts (kind : FieldKind) (parted : Parted) : EncodedField :=
  ⟨kind, encode (parted.before ++ parted.after), byteCount parted.before⟩

section

variable (kind : FieldKind) (before after : List Char)

theorem offset_ofParts : (ofParts kind ⟨before, after⟩).offset = byteCount before := by
  rw [offset, ofParts, length_encode, byteCount_append]
  exact Nat.min_eq_left (Nat.le_add_right _ _)

theorem insert?_ofParts (text : List Char) :
    (ofParts kind ⟨before, after⟩).insert? (encode text) =
      some (ofParts kind ⟨before ++ text, after⟩) := by
  rw [insert?, offset_ofParts]
  simp only [ofParts, slice?_encode, Option.bind_eq_bind, Option.bind_some]
  simp [length_encode]

theorem eraseCharacter?_ofParts (c : Char) :
    (ofParts kind ⟨before ++ [c], after⟩).eraseCharacter? =
      some (ofParts kind ⟨before, after⟩) := by
  obtain ⟨first, rest, encoded, start, within⟩ := exists_begins c
  have size := String.length_utf8EncodeChar c
  have positive := c.utf8Size_pos
  have nonzero : byteCount (before ++ [c]) ≠ 0 := by
    rw [byteCount_append, byteCount_cons]
    omega
  -- The first byte of the character is the one that looking back ends after.
  have found : lookBack (!begins ·) (encode (before ++ [c])) (encode (before ++ [c])).length - 1 =
      byteCount before := by
    have whole : encode (before ++ [c]) = encode before ++ [first] ++ rest ++ [] := by
      simp [encoded]
    have looked := lookBack_eq (p := (!begins ·)) whole
      (fun byte last => by
        rw [List.getLast?_concat] at last
        rw [← Option.some.inj last, start]
        rfl)
      (fun byte member => by
        rw [within byte member]
        rfl)
    have length : (encode (before ++ [c])).length = (encode before ++ [first]).length +
        rest.length := by
      rw [whole, List.append_nil, List.length_append]
    rw [length, looked, List.length_append, length_encode]
    rfl
  have remains : withoutFirst? (encode ([c] ++ after)) = some (encode after) := by
    rw [encode_append, encode_cons, encode_nil, List.append_nil, encoded, List.cons_append,
      withoutFirst?]
    have skipped : ∀ byte ∈ rest, (!begins byte) = true := by
      intro byte member
      rw [within byte member]
      rfl
    rw [List.dropWhile_append_of_pos skipped]
    cases after with
    | nil => rfl
    | cons next after =>
        obtain ⟨byte, others, encodedNext, startNext, _⟩ := exists_begins next
        rw [encode_cons, encodedNext, List.cons_append, List.dropWhile_cons, startNext]
        rfl
  rw [eraseCharacter?, offset_ofParts, if_neg nonzero]
  simp only [ofParts, slice?_encode, Option.bind_eq_bind, Option.bind_some, found]
  rw [List.append_assoc, slice?_encode]
  simp only [Option.bind_some, remains]
  simp

theorem eraseCharacter?_nothing :
    (ofParts kind ⟨[], after⟩).eraseCharacter? = some (ofParts kind ⟨[], after⟩) := by
  rw [eraseCharacter?, offset_ofParts, if_pos byteCount_nil]
  rfl

theorem eraseWord?_ofParts {kept word spaces : List Char}
    (ends : Parted.EndsInWord kept word spaces) :
    (ofParts kind ⟨kept ++ word ++ spaces, after⟩).eraseWord? =
      some (ofParts kind ⟨kept, after⟩) := by
  rw [eraseWord?, offset_ofParts]
  split
  case isTrue nothing =>
    have empty := eq_nil_of_byteCount nothing
    rw [List.append_eq_nil_iff, List.append_eq_nil_iff] at empty
    obtain ⟨⟨rfl, rfl⟩, rfl⟩ := empty
    rfl
  case isFalse =>
    have stop : lookBack (· = 0x20) (encode (kept ++ word ++ spaces ++ after))
        (byteCount (kept ++ word ++ spaces)) = byteCount (kept ++ word) := by
      apply lookBack_encode after
      · intro c last byte member
        apply decide_eq_false
        rintro rfl
        rw [eq_of_mem_utf8EncodeChar ' ' (by decide) member] at last
        exact ends.allSpaces last
      · intro c inside byte member
        rw [ends.blank c inside, encode_space] at member
        exact decide_eq_true (List.mem_singleton.mp member)
    have start : lookBack (fun byte => byte ≠ 0x20 && byte ≠ 0x0A)
        (encode (kept ++ word ++ spaces ++ after)) (byteCount (kept ++ word)) =
        byteCount kept := by
      rw [List.append_assoc (kept ++ word)]
      apply lookBack_encode (spaces ++ after)
      · intro c last byte member
        rcases ends.wholeWord c last with rfl | rfl
        · rw [encode_space] at member
          rw [List.mem_singleton.mp member]
          rfl
        · rw [encode_feed] at member
          rw [List.mem_singleton.mp member]
          rfl
      · intro c inside byte member
        obtain ⟨notSpace, notFeed⟩ := ends.solid c inside
        rw [Bool.and_eq_true, decide_eq_true_eq, decide_eq_true_eq]
        constructor
        · rintro rfl
          exact notSpace (eq_of_mem_utf8EncodeChar ' ' (by decide) member)
        · rintro rfl
          exact notFeed (eq_of_mem_utf8EncodeChar '\n' (by decide) member)
    simp only [ofParts, stop, start, slice?_encode, Option.bind_eq_bind, Option.bind_some]
    rw [List.append_assoc kept, List.append_assoc kept, slice?_encode]
    simp

end

theorem edit?_ofParts {kind : FieldKind} {change : Edit} {parted next : Parted}
    (edits : Parted.Edits kind change parted next) :
    (ofParts kind parted).edit? change = some (ofParts kind next) := by
  cases edits with
  | @typed c taken before after =>
      have accepted : ¬(c = '\n' ∧ kind ≠ .multi) := by
        rintro ⟨same, oneLine⟩
        exact taken.elim (· same) oneLine
      exact (if_neg accepted).trans (insert?_ofParts kind before after [c])
  | refused oneLine => exact if_pos ⟨rfl, oneLine⟩
  | lineEnded lines before after =>
      exact (if_pos lines).trans (insert?_ofParts kind before after ['\n'])
  | lineKept oneLine => exact if_neg oneLine
  | pasted accepts before after =>
      rw [accepts.eq_pasted]
      exact insert?_ofParts kind before after _
  | characterErased before c after => exact eraseCharacter?_ofParts kind before after c
  | nothingErased after => exact eraseCharacter?_nothing kind after
  | wordErased ends after => exact eraseWord?_ofParts kind after ends

/-! ## Lines of encoded text -/

theorem splitOn_append {bytes : List UInt8} (absent : 0x0A ∉ bytes) (rest : List UInt8) :
    (bytes ++ rest).splitOn 0x0A = (rest.splitOn 0x0A).modifyHead (bytes ++ ·) := by
  induction bytes with
  | nil => exact (congrFun List.modifyHead_id _).symm
  | cons byte bytes induction =>
      rw [List.mem_cons, not_or] at absent
      have notFeed : ¬(byte == 0x0A) = true := fun same => absent.1 (eq_of_beq same).symm
      rw [List.cons_append, List.splitOn_cons_eq_if_modifyHead, if_neg notFeed,
        induction absent.2, List.modifyHead_modifyHead]
      rfl

/-- The lines of encoded text are the encoded lines. -/
theorem splitOn_encode (text : List Char) :
    (encode text).splitOn 0x0A = (splitAtFeeds text).map encode := by
  fun_induction splitAtFeeds text with
  | case1 => rfl
  | case2 rest induction =>
      have same : ((0x0A : UInt8) == 0x0A) = true := by decide
      rw [encode_cons, encode_feed, List.singleton_append, List.splitOn_cons_eq_if_modifyHead,
        if_pos same, induction]
      rfl
  | case3 c rest _ nothing _ => exact (splitAtFeeds_ne_nil rest nothing).elim
  | case4 c rest notFeed piece pieces divided induction =>
      have absent : 0x0A ∉ String.utf8EncodeChar c :=
        fun member => notFeed (eq_of_mem_utf8EncodeChar '\n' (by decide) member)
      rw [encode_cons, splitOn_append absent, induction, divided]
      simp

theorem count_lines {lines : List (List Char)} (unended : ∀ line ∈ lines, '\n' ∉ line) :
    (lines.flatMap (· ++ ['\n'])).count '\n' = lines.length := by
  have divided := splitAtFeeds_lines unended []
  have length := length_splitAtFeeds (lines.flatMap (· ++ ['\n']))
  rw [List.append_nil] at divided
  rw [divided, splitAtFeeds, List.length_append, List.length_singleton] at length
  omega

/-- Among the encoded lines a line is found by the number of line feeds before it, and begins
after the bytes of the lines before it. -/
theorem splitOn_of_startsLine {start line finish : List Char} (starts : Parted.StartsLine start)
    (unended : '\n' ∉ line) (ends : Parted.EndsLine finish) :
    ∃ earlier later : List (List UInt8),
      (encode (start ++ line ++ finish)).splitOn 0x0A = earlier ++ encode line :: later ∧
        earlier.length = start.count '\n' ∧ (earlier.map (·.length + 1)).sum = byteCount start := by
  obtain ⟨lines, rfl, unendedLines⟩ := starts.exists_lines
  obtain ⟨others, divided⟩ := ends.splitAtFeeds_append unended
  refine ⟨lines.map encode, others.map encode, ?_, ?_, ?_⟩
  · rw [splitOn_encode, List.append_assoc, splitAtFeeds_lines unendedLines, divided,
      List.map_append, List.map_cons]
  · rw [List.length_map, count_lines unendedLines]
  · have bytes := TextField.bytesOfLines_eq lines.reverse
    rw [List.reverse_reverse, TextField.bytesOfLines, List.map_reverse, List.sum_reverse] at bytes
    rw [List.map_map, ← bytes]
    congr 1
    apply List.map_congr_left
    intro line _
    exact congrArg (· + 1) (length_encode line)

theorem moveTo?_line (kind : FieldKind) (column cursor : Nat)
    {start front back finish : List Char} (starts : Parted.StartsLine start)
    (unended : '\n' ∉ front ++ back) (ends : Parted.EndsLine finish)
    (divided : Parted.DividedAt column front back) :
    moveTo? ⟨kind, encode (start ++ front ++ back ++ finish), cursor⟩ (start.count '\n') column =
      some (ofParts kind ⟨start ++ front, back ++ finish⟩) := by
  obtain ⟨earlier, later, lines, length, sum⟩ := splitOn_of_startsLine starts unended ends
  have whole : start ++ (front ++ back) ++ finish = start ++ front ++ back ++ finish := by
    simp only [List.append_assoc]
  rw [whole] at lines
  simp only [moveTo?, lines, ← length, List.getElem?_append_right (Nat.le_refl _), Nat.sub_self,
    List.getElem?_cons_zero, Option.bind_eq_bind, Option.bind_some, List.take_left, sum]
  rw [length_encode, snap_encode, divided.takeBytes_eq]
  simp [ofParts]

theorem position?_eq (kind : FieldKind) (before after : List Char) :
    (ofParts kind ⟨before, after⟩).position? =
      some (before.count '\n',
        byteCount before - lookBack (· ≠ 0x0A) (encode before) (byteCount before)) := by
  rw [position?, offset_ofParts]
  simp only [ofParts, slice?_encode, Option.bind_eq_bind, Option.bind_some, count_encode,
    length_encode]
  rfl

theorem position?_ofParts (kind : FieldKind) {start current : List Char} (after : List Char)
    (starts : Parted.StartsLine start) (unended : '\n' ∉ current) :
    (ofParts kind ⟨start ++ current, after⟩).position? =
      some (start.count '\n', byteCount current) := by
  have looked : lookBack (· ≠ 0x0A) (encode (start ++ current ++ []))
      (byteCount (start ++ current)) = byteCount start := by
    apply lookBack_encode []
    · intro c last byte member
      rw [starts c last, encode_feed] at member
      rw [List.mem_singleton.mp member]
      rfl
    · intro c inside byte member
      apply decide_eq_true
      rintro rfl
      exact unended (eq_of_mem_utf8EncodeChar '\n' (by decide) member ▸ inside)
  rw [List.append_nil] at looked
  rw [position?_eq, looked, List.count_append, List.count_eq_zero.mpr unended, byteCount_append,
    Nat.add_sub_cancel_left, Nat.add_zero]

theorem up?_ofParts {kind : FieldKind} {parted next : Parted}
    (step : Parted.Step kind .up parted next) :
    (ofParts kind parted).up? = some (ofParts kind next) := by
  cases step with
  | @raised lines start front back current starts above line divided after =>
      have startsToo := Parted.startsLine_concat (start ++ front ++ back)
      have position := position?_ofParts kind after startsToo line
      have whole : start ++ front ++ back ++ ['\n'] ++ current =
          start ++ front ++ back ++ '\n' :: current := by
        rw [List.append_assoc _ ['\n'], List.singleton_append]
      have count : (start ++ front ++ back ++ ['\n']).count '\n' = start.count '\n' + 1 := by
        rw [List.append_assoc start, List.count_append, List.count_append,
          List.count_eq_zero.mpr above, List.count_singleton_self]
      rw [whole, count] at position
      have lower : ¬(kind ≠ .multi ∨ start.count '\n' + 1 = 0) := by
        simp [lines]
      have ends : Parted.EndsLine ('\n' :: current ++ after) := by
        intro c first
        exact (Option.some.inj first).symm
      have moved := moveTo?_line kind (byteCount current)
        (byteCount (start ++ front ++ back ++ '\n' :: current)) starts above ends divided
      rw [← List.append_assoc (start ++ front ++ back), ← List.append_assoc back] at moved
      rw [up?, position]
      exact (if_neg lower).trans moved
  | @highest before top after =>
      have highest : kind ≠ .multi ∨ before.count '\n' = 0 := top.imp_right List.count_eq_zero.mpr
      rw [up?, position?_eq]
      exact if_pos highest

theorem down?_ofParts {kind : FieldKind} {parted next : Parted}
    (step : Parted.Step kind .down parted next) :
    (ofParts kind parted).down? = some (ofParts kind next) := by
  have length : ((ofParts kind parted).bytes.splitOn 0x0A).length =
      parted.before.count '\n' + parted.after.count '\n' + 1 := by
    rw [ofParts, splitOn_encode, List.length_map, length_splitAtFeeds, List.count_append]
  cases step with
  | @lowered lines start current rest front back finish starts line lineToo below ends divided =>
      have position := position?_ofParts kind (rest ++ '\n' :: front ++ back ++ finish) starts line
      have startsToo := Parted.startsLine_concat (start ++ current ++ rest)
      have count : (start ++ current ++ rest ++ ['\n']).count '\n' = start.count '\n' + 1 := by
        simp only [List.count_append, List.count_eq_zero.mpr line, List.count_eq_zero.mpr lineToo,
          List.count_singleton_self, Nat.add_zero]
      have moved := moveTo?_line kind (byteCount current) (byteCount (start ++ current)) startsToo
        below ends divided
      have sameText : start ++ current ++ rest ++ ['\n'] ++ front ++ back ++ finish =
          start ++ current ++ (rest ++ '\n' :: front ++ back ++ finish) := by
        simp only [List.append_assoc, List.cons_append, List.nil_append]
      have sameBefore : start ++ current ++ rest ++ ['\n'] ++ front =
          start ++ current ++ rest ++ '\n' :: front := by
        simp only [List.append_assoc, List.singleton_append]
      rw [count, sameText, sameBefore] at moved
      have higher : ¬(kind ≠ .multi ∨
          ((ofParts kind ⟨start ++ current, rest ++ '\n' :: front ++ back ++ finish⟩).bytes.splitOn
            0x0A).length ≤ start.count '\n' + 1) := by
        rw [length]
        simp [lines]
        omega
      rw [down?, position]
      exact (if_neg higher).trans moved
  | @lowest after bottom before =>
      have lowest : kind ≠ .multi ∨ ((ofParts kind ⟨before, after⟩).bytes.splitOn 0x0A).length ≤
          before.count '\n' + 1 := by
        refine bottom.imp_right fun absent => ?_
        rw [length, List.count_eq_zero.mpr absent]
      rw [down?, position?_eq]
      exact if_pos lowest

/-! ## Operations on encoded text -/

theorem perform?_ofParts {kind : FieldKind} {operation : TextField.Operation}
    {parted next : Parted} (step : Parted.Step kind operation parted next) :
    (ofParts kind parted).perform? operation = some (ofParts kind next) := by
  cases operation with
  | setValue value =>
      cases step
      rw [perform?, ofParts, ofParts, List.append_nil, length_encode]
  | clear =>
      cases step
      rfl
  | act action =>
      cases step with
      | edited edits => exact edit?_ofParts edits
      | ignored noEdit =>
          cases action with
          | edit change => exact (noEdit change rfl).elim
          | _ => rfl
  | up => exact up?_ofParts step
  | down => exact down?_ofParts step

theorem result?_ofParts {kind : FieldKind} {operations : List TextField.Operation}
    {parted : Parted} (reaches : Parted.Reaches kind operations parted) :
    result? kind operations = some (ofParts kind parted) := by
  induction reaches with
  | start => rfl
  | next _ step induction =>
      rw [result?, induction]
      exact perform?_ofParts step

/-- The parts can be found again. -/
theorem ofParts_injective {kind : FieldKind} {first second : Parted}
    (same : ofParts kind first = ofParts kind second) : first = second := by
  obtain ⟨_, sameBytes, sameCursor⟩ := EncodedField.mk.inj same
  have whole := encode_injective sameBytes
  have sameBefore : first.before = second.before := by
    calc
      first.before = takeBytes (byteCount first.before) (first.before ++ first.after) :=
        (takeBytes_byteCount_append _ _).symm
      _ = takeBytes (byteCount second.before) (second.before ++ second.after) := by
        rw [whole, sameCursor]
      _ = second.before := takeBytes_byteCount_append _ _
  rw [sameBefore] at whole
  have sameAfter := List.append_cancel_left whole
  cases first
  cases second
  exact congrArg₂ Parted.mk sameBefore sameAfter

end EncodedField

/-- Some operations lead to two parts only. -/
theorem Parted.Reaches.unique {kind : FieldKind} {operations : List TextField.Operation}
    {first second : Parted} (reachesFirst : Reaches kind operations first)
    (reachesSecond : Reaches kind operations second) : first = second := by
  apply @EncodedField.ofParts_injective kind
  apply Option.some.inj
  rw [← EncodedField.result?_ofParts reachesFirst, EncodedField.result?_ofParts reachesSecond]

/-- Whatever is done to a new field, it holds the two parts that the operations lead to, and so
do the bytes of its text.  The cursor lies between two characters, an edit leaves the text after
it, and no edit brings a line feed into a field of one line. -/
theorem TextField.result_simulates (kind : FieldKind) (operations : List Operation) :
    (∃ parted, (∀ other, Parted.Reaches kind operations other ↔ other = parted) ∧
        result kind operations = parted.field kind ∧
        EncodedField.result? kind operations = some (EncodedField.ofParts kind parted)) ∧
      (result kind operations).cursor ≤ Text.byteCount (result kind operations).content ∧
      EncodedField.isBoundary (Text.encode (result kind operations).content)
        (result kind operations).cursor = true ∧
      (∀ change, ((result kind operations).edit change).after = (result kind operations).after) ∧
      (kind ≠ .multi → ∀ actions : List Action,
        '\n' ∉ (actions.foldl answer (.empty kind)).content) := by
  obtain ⟨parted, reaches, same⟩ := Parted.result_field kind operations
  refine ⟨⟨parted, ?_, same, EncodedField.result?_ofParts reaches⟩, ?_, ?_, ?_, ?_⟩
  · intro other
    constructor
    · intro reachesOther
      exact reachesOther.unique reaches
    · rintro rfl
      exact reaches
  · rw [same, Parted.field, Text.byteCount_append]
    exact Nat.le_add_right _ _
  · rw [same]
    exact EncodedField.isBoundary_encode parted.before parted.after
  · intro change
    obtain ⟨next, edits, edited⟩ := Parted.edit_field kind parted change
    rw [same, edited, Parted.after_field, Parted.after_field, edits.after_eq]
  · exact Parted.answers_oneLine

theorem TextField.result_simulates_of_pastedLines :
    FieldKind.masked ≠ .multi ∧
      '\n' ∉ ([.edit (.paste "dé\r\nx"), .edit .newline, .edit (.character '\n'), .edit .eraseWord,
        .edit (.paste "\nx"), .edit (.character 'é')].foldl answer (.empty .masked)).content :=
  ⟨by decide, (TextField.result_simulates .masked []).2.2.2.2 (by decide) _⟩

/-- No text is divided inside a character. -/
example : EncodedField.slice? (Text.encode ['é', 'x']) 1 = none := by decide

end DocsConsole
