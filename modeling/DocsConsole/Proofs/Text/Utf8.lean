import DocsConsole.Text.Utf8

/-!
# Reading encoded text

The encoding of a text is read back as the text.  A first byte tells how many bytes follow
it and in which range the next one lies, and for the first byte of a character that range
holds the second one: it leaves out only what a shorter encoding, a surrogate or a number
beyond the last character would need.
-/

namespace DocsConsole.Utf8

/-! ## Bytes that go on -/

theorem toNat_ofNat_of_lt {value : Nat} (small : value < 256) :
    (UInt8.ofNat value).toNat = value := by
  simp [Nat.mod_eq_of_lt small]

section

variable {started : Partial} {digit : Nat} (rest : List UInt8) (small : digit < 64)
  (low : started.low ≤ digit + 128) (high : digit + 128 ≤ started.high)

include small low high

theorem decodeFrom_of_last (last : started.missing = 1) :
    decodeFrom (some started) (UInt8.ofNat (digit + 128) :: rest) =
      some (Char.ofNat (started.code * 64 + digit)) :: decodeFrom none rest := by
  have byte : (UInt8.ofNat (digit + 128)).toNat = digit + 128 := toNat_ofNat_of_lt (by omega)
  simp only [decodeFrom, resume, byte]
  rw [if_pos ⟨low, high⟩, if_pos (Nat.le_of_eq last), Nat.add_sub_cancel]
  rfl

theorem decodeFrom_of_more {missing : Nat} (more : started.missing = missing + 2) :
    decodeFrom (some started) (UInt8.ofNat (digit + 128) :: rest) =
      decodeFrom (some ⟨started.code * 64 + digit, missing + 1, 0x80, 0xBF⟩) rest := by
  have byte : (UInt8.ofNat (digit + 128)).toNat = digit + 128 := toNat_ofNat_of_lt (by omega)
  simp only [decodeFrom, resume, byte]
  rw [if_pos ⟨low, high⟩, if_neg (by omega), Nat.add_sub_cancel, more]
  rfl

end

/-! ## First bytes -/

theorem begin_of_one {code : Nat} (short : code ≤ 0x7F) :
    begin code = ([some (Char.ofNat code)], none) := by
  have low : code < 0x80 := by omega
  simp [begin, low]

theorem begin_of_two {code : Nat} (long : 0x7F < code) (short : code ≤ 0x7FF) :
    begin (code / 64 % 32 + 192) = ([], some ⟨code / 64, 1, 0x80, 0xBF⟩) := by
  have first : code / 64 % 32 + 192 - 0xC0 = code / 64 := by omega
  unfold begin
  rw [if_neg (by omega), if_neg (by omega), if_pos (by omega), first]

/-- The second byte is in the range that the first one asks for: characters of three bytes
need that many, and surrogates are none. -/
theorem begin_of_three {code : Nat} (long : 0x7FF < code) (short : code ≤ 0xFFFF)
    (valid : code.isValidChar) :
    ∃ low high, begin (code / 4096 % 16 + 224) = ([], some ⟨code / 4096, 2, low, high⟩) ∧
      low ≤ code / 64 % 64 + 128 ∧ code / 64 % 64 + 128 ≤ high := by
  have notSurrogate : code < 0xD800 ∨ 0xDFFF < code := by
    rcases valid with small | ⟨large, _⟩
    · exact Or.inl small
    · exact Or.inr large
  have first : code / 4096 % 16 + 224 - 0xE0 = code / 4096 := by omega
  unfold begin
  rw [if_neg (by omega), if_neg (by omega), if_neg (by omega)]
  by_cases least : code / 4096 % 16 + 224 = 0xE0
  · have zero : code / 4096 = 0 := by omega
    rw [if_pos least, zero]
    exact ⟨0xA0, 0xBF, rfl, by omega, by omega⟩
  · by_cases beforeSurrogates : code / 4096 % 16 + 224 = 0xED
    · have thirteen : code / 4096 = 0xD := by omega
      rw [if_neg least, if_pos beforeSurrogates, thirteen]
      exact ⟨0x80, 0x9F, rfl, by omega, by omega⟩
    · rw [if_neg least, if_neg beforeSurrogates, if_pos (by omega), first]
      exact ⟨0x80, 0xBF, rfl, by omega, by omega⟩

/-- The second byte is in the range that the first one asks for: characters of four bytes
need that many, and there is a last one. -/
theorem begin_of_four {code : Nat} (long : 0xFFFF < code) (short : code < 0x110000) :
    ∃ low high, begin (code / 262144 % 8 + 240) = ([], some ⟨code / 262144, 3, low, high⟩) ∧
      low ≤ code / 4096 % 64 + 128 ∧ code / 4096 % 64 + 128 ≤ high := by
  have first : code / 262144 % 8 + 240 - 0xF0 = code / 262144 := by omega
  unfold begin
  rw [if_neg (by omega), if_neg (by omega), if_neg (by omega), if_neg (by omega),
    if_neg (by omega), if_neg (by omega)]
  by_cases least : code / 262144 % 8 + 240 = 0xF0
  · have zero : code / 262144 = 0 := by omega
    rw [if_pos least, zero]
    exact ⟨0x90, 0xBF, rfl, by omega, by omega⟩
  · by_cases greatest : code / 262144 % 8 + 240 = 0xF4
    · have four : code / 262144 = 4 := by omega
      rw [if_neg least, if_neg (by omega), if_pos greatest, four]
      exact ⟨0x80, 0x8F, rfl, by omega, by omega⟩
    · rw [if_neg least, if_pos (by omega), first]
      exact ⟨0x80, 0xBF, rfl, by omega, by omega⟩

/-! ## Characters and texts -/

section

variable {code : Nat} (rest : List UInt8)

theorem decodeFrom_one (short : code ≤ 0x7F) :
    decodeFrom none (UInt8.ofNat code :: rest) =
      some (Char.ofNat code) :: decodeFrom none rest := by
  have first : (UInt8.ofNat code).toNat = code := toNat_ofNat_of_lt (by omega)
  rw [decodeFrom, first, begin_of_one short]
  rfl

theorem decodeFrom_two (long : 0x7F < code) (short : code ≤ 0x7FF) :
    decodeFrom none (UInt8.ofNat (code / 64 % 32 + 192) :: UInt8.ofNat (code % 64 + 128) :: rest) =
      some (Char.ofNat code) :: decodeFrom none rest := by
  have first : (UInt8.ofNat (code / 64 % 32 + 192)).toNat = code / 64 % 32 + 192 :=
    toNat_ofNat_of_lt (by omega)
  have whole : code / 64 * 64 + code % 64 = code := by omega
  rw [decodeFrom, first, begin_of_two long short, List.nil_append,
    decodeFrom_of_last rest (by omega) (by dsimp; omega) (by dsimp; omega) rfl, whole]

theorem decodeFrom_three (long : 0x7FF < code) (short : code ≤ 0xFFFF) (valid : code.isValidChar) :
    decodeFrom none (UInt8.ofNat (code / 4096 % 16 + 224) :: UInt8.ofNat (code / 64 % 64 + 128) ::
        UInt8.ofNat (code % 64 + 128) :: rest) =
      some (Char.ofNat code) :: decodeFrom none rest := by
  have first : (UInt8.ofNat (code / 4096 % 16 + 224)).toNat = code / 4096 % 16 + 224 :=
    toNat_ofNat_of_lt (by omega)
  have whole : (code / 4096 * 64 + code / 64 % 64) * 64 + code % 64 = code := by omega
  obtain ⟨low, high, begins, above, below⟩ := begin_of_three long short valid
  rw [decodeFrom, first, begins, List.nil_append,
    decodeFrom_of_more _ (by omega) above below rfl,
    decodeFrom_of_last rest (by omega) (by dsimp; omega) (by dsimp; omega) rfl, whole]

theorem decodeFrom_four (long : 0xFFFF < code) (short : code < 0x110000) :
    decodeFrom none (UInt8.ofNat (code / 262144 % 8 + 240) ::
        UInt8.ofNat (code / 4096 % 64 + 128) :: UInt8.ofNat (code / 64 % 64 + 128) ::
        UInt8.ofNat (code % 64 + 128) :: rest) =
      some (Char.ofNat code) :: decodeFrom none rest := by
  have first : (UInt8.ofNat (code / 262144 % 8 + 240)).toNat = code / 262144 % 8 + 240 :=
    toNat_ofNat_of_lt (by omega)
  have whole : ((code / 262144 * 64 + code / 4096 % 64) * 64 + code / 64 % 64) * 64 + code % 64 =
      code := by
    omega
  obtain ⟨low, high, begins, above, below⟩ := begin_of_four long short
  rw [decodeFrom, first, begins, List.nil_append,
    decodeFrom_of_more _ (by omega) above below rfl,
    decodeFrom_of_more _ (by omega) (by dsimp; omega) (by dsimp; omega) rfl,
    decodeFrom_of_last rest (by omega) (by dsimp; omega) (by dsimp; omega) rfl, whole]

end

theorem decodeFrom_encodeChar (c : Char) (rest : List UInt8) :
    decodeFrom none (String.utf8EncodeChar c ++ rest) = some c :: decodeFrom none rest := by
  have valid : c.toNat.isValidChar := c.valid
  have bounded : c.toNat < 0x110000 := by
    rcases valid with small | ⟨_, bounded⟩
    · omega
    · exact bounded
  have number : c.val.toNat = c.toNat := rfl
  have same : some c = some (Char.ofNat c.toNat) := by rw [Char.ofNat_toNat]
  simp only [String.utf8EncodeChar, number]
  rw [same]
  split
  · exact decodeFrom_one rest (by assumption)
  · split
    · exact decodeFrom_two rest (by omega) (by assumption)
    · split
      · exact decodeFrom_three rest (by omega) (by assumption) valid
      · exact decodeFrom_four rest (by omega) bounded

theorem decodeFrom_encode (text : List Char) :
    decodeFrom none (text.flatMap String.utf8EncodeChar) = text.map some := by
  induction text with
  | nil => rfl
  | cons c text induction =>
      rw [List.flatMap_cons, decodeFrom_encodeChar, induction, List.map_cons]

theorem toUTF8_toList (text : String) :
    text.toUTF8.data.toList = text.toList.flatMap String.utf8EncodeChar := by
  rw [String.toUTF8, ← String.utf8Encode_toList, List.utf8Encode, List.data_toByteArray]

theorem decode_toUTF8 (text : String) : decode text.toUTF8 = text.toList.map some := by
  rw [decode, toUTF8_toList, decodeFrom_encode]

theorem text?_toUTF8 (text : String) : text? text.toUTF8 = some text := by
  have all : (text.toList.map some).mapM id = some text.toList := by
    rw [List.mapM_map]
    exact List.mapM_pure.trans (congrArg some (List.map_id text.toList))
  rw [text?, decode_toUTF8, all, Option.map_some, String.ofList_toList]

end DocsConsole.Utf8
