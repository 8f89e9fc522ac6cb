import DocsConsole.Unicode.Width

/-!
# Narrow characters

A character that never joins another one and takes one column is a cluster of its own.  The
printable characters of ASCII are such characters, and so are a bullet and a middle dot.  That a
character is in none of the published tables is found by reading each of them once, word by word.
An ideograph is only in the table of what takes two columns.
-/

namespace DocsConsole.Unicode

/-! ## Reading a table -/

/-- Whether a piece of a text has a property.  What is read of the current piece is in reverse. -/
def anyPiece (separates : Char → Bool) (property : List Char → Bool) (current : List Char) :
    List Char → Bool
  | [] => property current.reverse
  | c :: rest =>
      if separates c then property current.reverse || anyPiece separates property [] rest
      else anyPiece separates property (c :: current) rest

theorem any_pieces (separates : Char → Bool) (property : List Char → Bool)
    (current text : List Char) :
    ((pieces separates text).modifyHead (current.reverse ++ ·)).any property =
      anyPiece separates property current text := by
  fun_induction anyPiece separates property current text with
  | case1 current => simp [pieces]
  | case2 current c rest divides induction =>
      rw [← induction, pieces, if_pos divides, List.modifyHead_cons, List.append_nil, List.any_cons]
      cases pieces separates rest <;> rfl
  | case3 current c rest undivided induction =>
      rw [← induction, pieces, if_neg undivided]
      cases divided : pieces separates rest with
      | nil => exact (pieces_ne_nil rest divided).elim
      | cons piece more => simp

/-- A range in the published notation. -/
def rangeOf (word : List Char) : Nat × Nat :=
  match pieces (· = '-') word with
  | [low, high] => (hexValue low, hexValue high)
  | _ => (hexValue word, hexValue word)

/-- Whether a word of a table is a range that holds a code point. -/
def wordHolds (code : Nat) (word : List Char) : Bool :=
  !word.isEmpty && ((rangeOf word).1 ≤ code && code ≤ (rangeOf word).2)

/-- A table is read once, from the beginning to the end. -/
theorem contains_ofText {text : String} {spelled : List Char}
    (spells : text = String.ofList spelled) (c : Char) :
    (CodeRanges.ofText text).contains c =
      anyPiece (fun c => c = ' ' || c = '\n')
        (wordHolds c.toNat) [] spelled := by
  have whole : ∀ found : List (List Char),
      found.modifyHead (([] : List Char).reverse ++ ·) = found := by
    intro found
    cases found <;> rfl
  rw [spells, ← any_pieces, whole, CodeRanges.contains, CodeRanges.ofText, words,
    String.toList_ofList, List.any_toArray, List.any_map, List.any_filter]
  rfl

/-! ## Narrow characters -/

/-- A character that never joins another one and takes one column. -/
structure Narrow (c : Char) : Prop where
  class_eq : BreakClass.ofChar c = .other
  charWidth_eq : charWidth c = 1

theorem clusterWidth_singleton (c : Char) : clusterWidth [c] = charWidth c := by
  have noPicture : makesPicture [] = false := rfl
  simp [clusterWidth, noPicture]

theorem ne_feed_of_other {c : Char} (other : BreakClass.ofChar c = .other) : c ≠ '\n' := by
  rintro rfl
  have feed : BreakClass.ofChar '\n' = .lineFeed := rfl
  rw [other] at feed
  contradiction

theorem BreakContext.joins_other {context : BreakContext} (last : context.last = .other) :
    context.joins .other = false := by
  simp [joins, last]

theorem clustersFrom_of_other {context : BreakContext} (last : context.last = .other)
    (cluster : List Char) {text : List Char} (others : ∀ c ∈ text, BreakClass.ofChar c = .other) :
    clustersFrom context cluster text = cluster.reverse :: text.map ([·]) := by
  induction text generalizing context cluster with
  | nil => rfl
  | cons c rest induction =>
      have single := others c List.mem_cons_self
      rw [clustersFrom, single, BreakContext.joins_other last, if_neg Bool.false_ne_true,
        induction rfl [c] fun other member => others other (List.mem_cons_of_mem c member)]
      rfl

/-- Characters that never join others are clusters of their own. -/
theorem clusters_of_other {text : List Char} (others : ∀ c ∈ text, BreakClass.ofChar c = .other) :
    clusters text = text.map ([·]) := by
  cases text with
  | nil => rfl
  | cons c rest =>
      rw [clusters, others c List.mem_cons_self, clustersFrom_of_other rfl [c]
        fun other member => others other (List.mem_cons_of_mem c member)]
      rfl

/-- A printable character of ASCII. -/
def IsVisible (c : Char) : Prop :=
  0x20 ≤ c.toNat ∧ c.toNat < 0x7F
deriving Decidable

theorem narrow_of_isVisible {c : Char} (visible : IsVisible c) : Narrow c := by
  obtain ⟨low, high⟩ := visible
  have other : ∀ control : Char, control.toNat < 0x20 ∨ control.toNat = 0x7F → c ≠ control := by
    rintro control outside rfl
    omega
  constructor
  · rw [BreakClass.ofChar, if_neg (other '\r' (by decide)), if_neg (other '\n' (by decide)),
      if_neg (not_or.mpr ⟨by omega, other '\x7f' (by decide)⟩), if_pos (by omega)]
  · rw [charWidth, if_pos (by omega)]

/-! ## Characters in no table -/

/-- The tables of what joins other characters or is not drawn. -/
def joiningTables : List CodeRanges :=
  [controlRanges, linkerRanges, graphemeExtendRanges, spacingMarkRanges, prependedRanges,
    pictographRanges, consonantRanges, ignorableRanges]

/-- A character outside ASCII that is no letter of Hangul, no part of a pictograph and in no table
of what joins others. -/
structure Plain (c : Char) : Prop where
  foreign : 0xA0 < c.toNat
  notJoiner : c ≠ '\u200d'
  notHangul : BreakClass.ofHangul? c.toNat = none
  notFlag : ¬(0x1F1E6 ≤ c.toNat ∧ c.toNat ≤ 0x1F1FF)
  notModifier : isEmojiModifier c = false
  unlisted : ∀ table ∈ joiningTables, table.contains c = false

namespace Plain

variable {c : Char} (plain : Plain c)

include plain

theorem extendsGrapheme_eq : extendsGrapheme c = false := by
  have noExtension := plain.unlisted graphemeExtendRanges (.tail _ (.tail _ (.head _)))
  rw [extendsGrapheme, noExtension, Bool.and_false]

theorem class_eq : BreakClass.ofChar c = .other := by
  have unlisted := plain.unlisted
  simp only [joiningTables, List.forall_mem_cons] at unlisted
  obtain ⟨noControl, noLinker, -, noSpacing, noPrefix, noPictograph, noConsonant, -⟩ := unlisted
  have foreign := plain.foreign
  have other : ∀ ascii : Char, ascii.toNat < 0x80 → c ≠ ascii := by
    rintro ascii low rfl
    omega
  rw [BreakClass.ofChar, if_neg (other '\r' (by decide)), if_neg (other '\n' (by decide)),
    if_neg (not_or.mpr ⟨by omega, other '\x7f' (by decide)⟩), if_neg (by omega),
    BreakClass.ofForeign, plain.notHangul]
  dsimp only
  rw [if_neg plain.notJoiner, if_neg plain.notFlag, noControl, noLinker, plain.extendsGrapheme_eq,
    plain.notModifier, noSpacing, noPrefix, noPictograph, noConsonant]
  rfl

/-- Only the table of wide characters decides on the width. -/
theorem charWidth_eq : charWidth c = if wideRanges.contains c then 2 else 1 := by
  have foreign := plain.foreign
  have notFiller : ¬c.toNat = 0x115F := by
    intro filler
    have noLetter := plain.notHangul
    rw [filler] at noLetter
    contradiction
  have noJamo : isInnerJamo c = false := by
    rw [isInnerJamo, plain.notHangul]
  have notIgnored : ignorableRanges.contains c = false := by
    apply plain.unlisted
    exact List.getLast_mem (List.cons_ne_nil _ _)
  rw [charWidth, if_neg (by omega), if_neg notFiller, notIgnored, plain.extendsGrapheme_eq,
    noJamo, if_neg (by decide)]

end Plain

section

set_option maxRecDepth 20000

theorem contains_of_unread {text : String} {spelled : List Char} {characters : List Char}
    (spells : text = String.ofList spelled)
    (unread : anyPiece (fun c => c = ' ' || c = '\n')
      (fun word => characters.any fun c => wordHolds c.toNat word) [] spelled = false) :
    ∀ c ∈ characters, (CodeRanges.ofText text).contains c = false := by
  intro c member
  rw [← any_pieces, List.any_eq_false] at unread
  rw [contains_ofText spells, ← any_pieces, List.any_eq_false]
  intro word inside held
  apply unread word inside
  exact List.any_eq_true.mpr ⟨c, member, held⟩

theorem unlisted_of_mem :
    ∀ table ∈ joiningTables, ∀ c ∈ ['•', '·', '漢'], table.contains c = false := by
  intro table member
  simp only [joiningTables, List.mem_cons, List.not_mem_nil, or_false] at member
  rcases member with rfl | rfl | rfl | rfl | rfl | rfl | rfl | rfl <;>
    exact contains_of_unread rfl (by decide +kernel)

theorem notWide_of_mem : ∀ c ∈ ['•', '·'], wideRanges.contains c = false :=
  contains_of_unread rfl (by decide +kernel)

theorem wide_ideograph : wideRanges.contains '漢' = true :=
  (contains_ofText rfl '漢').trans (by decide +kernel)

end

theorem plain_of_mem : ∀ c ∈ ['•', '·', '漢'], Plain c := by
  intro c one
  have tables := fun table member => unlisted_of_mem table member c one
  simp only [List.mem_cons, List.not_mem_nil, or_false] at one
  rcases one with rfl | rfl | rfl <;>
    exact ⟨by decide, by decide, by decide, by decide, by decide, tables⟩

theorem narrow_of_mem : ∀ c ∈ ['•', '·'], Narrow c := by
  intro c one
  have other : c ∈ ['•', '·', '漢'] := List.mem_append_left ['漢'] one
  have width := (plain_of_mem c other).charWidth_eq
  rw [notWide_of_mem c one] at width
  exact ⟨(plain_of_mem c other).class_eq, width⟩

theorem narrow_bullet : Narrow '•' :=
  narrow_of_mem '•' (by decide)

theorem narrow_middleDot : Narrow '·' :=
  narrow_of_mem '·' (by decide)

theorem charWidth_ideograph : charWidth '漢' = 2 := by
  have width := (plain_of_mem '漢' (by decide)).charWidth_eq
  rw [wide_ideograph] at width
  exact width

end DocsConsole.Unicode
