import DocsConsole.Proofs.Editor.Wrapped

/-!
# Where rows end

A line that is too wide is divided from its beginning on.  A row ends where the longest beginning
that fits the width ends, or after the last space in it if that lies beyond a third of the width.
A character that does not fit has a row of its own.  So every row takes something, and there are
never more rows than characters.
-/

namespace DocsConsole.Wrap

/-- Where a row ends, of a text that goes on after it. -/
inductive Breaks (width : Nat) : List Char → List Char → Prop where
  | afterSpace {before after rest : List Char}
      (divided : Parted.DividedAt width (before ++ ' ' :: after) rest)
      (last : ' ' ∉ after) (far : width / 3 < Text.byteCount before) :
      Breaks width (before ++ [' ']) (after ++ rest)
  | full {row rest : List Char} (divided : Parted.DividedAt width row rest) (some : row ≠ [])
      (near : ∀ before after, row = before ++ ' ' :: after → ' ' ∉ after →
        Text.byteCount before ≤ width / 3) :
      Breaks width row rest
  | tooWide {c : Char} {rest : List Char} (divided : Parted.DividedAt width [] (c :: rest)) :
      Breaks width [c] rest

namespace Breaks

variable {width : Nat} {row rest : List Char} (breaks : Breaks width row rest)

include breaks

theorem ne_nil : row ≠ [] := by
  cases breaks with
  | afterSpace => exact List.concat_ne_nil _ _
  | full _ some => exact some
  | tooWide => exact List.cons_ne_nil _ _

theorem fits_or_single : Text.byteCount row ≤ width ∨ ∃ c, row = [c] := by
  cases breaks with
  | @afterSpace before after rest divided last far =>
      left
      have fits := divided.fits
      rw [List.append_cons, Text.byteCount_append] at fits
      omega
  | full divided => exact Or.inl divided.fits
  | tooWide => exact Or.inr ⟨_, rfl⟩

end Breaks

/-! ## The last space of a text -/

theorem upToLastSpace_append {after : List Char} (last : ' ' ∉ after) (before : List Char) :
    upToLastSpace (before ++ ' ' :: after) = before ++ [' '] := by
  have passed : ∀ c ∈ after.reverse, decide (c ≠ ' ') = true := by
    intro c inside
    apply decide_eq_true
    rintro rfl
    exact last (List.mem_reverse.mp inside)
  rw [upToLastSpace, Unicode.dropEndWhile, List.reverse_append, List.reverse_cons,
    List.append_assoc, List.dropWhile_append_of_pos passed]
  simp

/-- A text ends after its last space in what does not hold any. -/
theorem exists_upToLastSpace (text : List Char) :
    upToLastSpace text = [] ∨
      ∃ before after, text = before ++ ' ' :: after ∧ ' ' ∉ after ∧
        upToLastSpace text = before ++ [' '] := by
  obtain ⟨after, whole, spaceless, ends⟩ := Unicode.exists_dropEndWhile (· ≠ ' ') text
  change text = upToLastSpace text ++ after at whole
  change ∀ c, (upToLastSpace text).getLast? = some c → _ at ends
  rcases List.eq_nil_or_concat (upToLastSpace text) with nothing | ⟨before, c, found⟩
  · exact Or.inl nothing
  · right
    rw [List.concat_eq_append] at found
    have space : c = ' ' := by
      simpa using ends c (by rw [found, List.getLast?_concat])
    rw [space] at found
    refine ⟨before, after, ?_, ?_, found⟩
    · rw [← List.singleton_append, ← List.append_assoc, ← found]
      exact whole
    · intro inside
      simpa using spaceless ' ' inside

/-! ## Rows -/

theorem firstRow_breaks (width : Nat) {text : List Char} (some : text ≠ []) :
    ∃ rest, text = firstRow width text ++ rest ∧ Breaks width (firstRow width text) rest := by
  have divided := Parted.dividedAt_takeBytes width text
  have whole := Text.takeBytes_append_dropBytes width text
  generalize Text.dropBytes width text = left at divided whole
  simp only [firstRow]
  generalize Text.takeBytes width text = fitting at divided whole ⊢
  split
  case isTrue far =>
    rcases exists_upToLastSpace fitting with nothing | ⟨before, after, rfl, last, words⟩
    · rw [nothing, Text.byteCount_nil] at far
      omega
    · have space : Char.utf8Size ' ' = 1 := by decide
      rw [words, Text.byteCount_append, Text.byteCount_cons, Text.byteCount_nil, space] at far
      rw [words]
      refine ⟨after ++ left, ?_, .afterSpace divided last (by omega)⟩
      rw [← whole]
      simp
  case isFalse near =>
    split
    case isTrue nothing =>
      rw [List.isEmpty_iff] at nothing
      subst nothing
      rw [List.nil_append] at whole
      subst whole
      obtain ⟨c, rest, rfl⟩ := List.exists_cons_of_ne_nil some
      exact ⟨rest, rfl, .tooWide divided⟩
    case isFalse something =>
      refine ⟨left, whole.symm, .full divided ?_ ?_⟩
      · rintro rfl
        exact something rfl
      · rintro before after rfl last
        rw [upToLastSpace_append last, Text.byteCount_append] at near
        have space : Text.byteCount [' '] = 1 := by decide
        omega

/-! ## All rows -/

/-- A text is divided into rows.  The last one fits, or takes all that is left. -/
inductive Wraps (width : Nat) : List Char → List (List Char) → Prop where
  | fits {text : List Char} (fits : Text.byteCount text ≤ width) : Wraps width text [text]
  | ends {row : List Char} (breaks : Breaks width row []) : Wraps width row [row]
  | goesOn {row rest : List Char} {rows : List (List Char)}
      (wide : width < Text.byteCount (row ++ rest)) (breaks : Breaks width row rest)
      (more : rest ≠ []) (wraps : Wraps width rest rows) :
      Wraps width (row ++ rest) (row :: rows)

theorem wraps_rows (width : Nat) (text : List Char) : Wraps width text (rows width text) := by
  have broken : ∀ text, ¬Text.byteCount text ≤ width →
      Breaks width (firstRow width text) (text.drop (firstRow width text).length) := by
    intro text wide
    have some : text ≠ [] := by
      rintro rfl
      exact wide (Nat.zero_le width)
    obtain ⟨rest, whole, breaks⟩ := firstRow_breaks width some
    have same := List.prefix_iff_eq_append.mp (firstRow_isPrefix width text)
    rw [List.append_cancel_left (same.trans whole)]
    exact breaks
  have whole : ∀ text, firstRow width text ++ text.drop (firstRow width text).length = text :=
    fun text => List.prefix_iff_eq_append.mp (firstRow_isPrefix width text)
  fun_induction rows width text with
  | case1 text fits => exact .fits fits
  | case2 text wide row rest done =>
      have breaks : Breaks width row rest := broken text wide
      have parted : row ++ rest = text := whole text
      rw [List.isEmpty_iff.mp done] at breaks parted
      rw [← parted, List.append_nil]
      exact .ends breaks
  | case3 text wide row rest more induction =>
      have breaks : Breaks width row rest := broken text wide
      have parted : row ++ rest = text := whole text
      rw [← parted] at wide ⊢
      exact .goesOn (Nat.lt_of_not_le wide) breaks (mt List.isEmpty_iff.mpr more) induction

namespace Wraps

variable {width : Nat} {text : List Char} {rows : List (List Char)} (wraps : Wraps width text rows)

include wraps

theorem flatten_eq : rows.flatten = text := by
  induction wraps with
  | fits => exact List.append_nil _
  | ends => exact List.append_nil _
  | goesOn _ _ _ _ induction => rw [List.flatten_cons, induction]

theorem length_le : rows.length ≤ max 1 text.length := by
  induction wraps with
  | fits => exact Nat.le_max_left _ _
  | ends => exact Nat.le_max_left _ _
  | goesOn _ breaks more _ induction =>
      have taken := List.length_pos_iff.mpr breaks.ne_nil
      have left := List.length_pos_iff.mpr more
      rw [List.length_cons, List.length_append]
      omega

theorem of_mem {row : List Char} (member : row ∈ rows) :
    (Text.byteCount row ≤ width ∨ ∃ c, row = [c]) ∧ (row = [] → text = []) := by
  induction wraps with
  | fits fits =>
      rw [List.mem_singleton.mp member]
      exact ⟨Or.inl fits, id⟩
  | ends breaks =>
      rw [List.mem_singleton.mp member]
      exact ⟨breaks.fits_or_single, id⟩
  | goesOn _ breaks more _ induction =>
      rcases List.mem_cons.mp member with rfl | later
      · exact ⟨breaks.fits_or_single, fun nothing => (breaks.ne_nil nothing).elim⟩
      · obtain ⟨fits, some⟩ := induction later
        exact ⟨fits, fun nothing => (more (some nothing)).elim⟩

/-- A row that is not the last one ends where a row of what is left does. -/
theorem breaks_of_parted {earlier later : List (List Char)} {row : List Char}
    (parted : rows = earlier ++ row :: later) (more : later ≠ []) :
    width < Text.byteCount (row ++ later.flatten) ∧ Breaks width row later.flatten := by
  have single : ∀ {text : List Char} {earlier : List (List Char)},
      [text] ≠ earlier ++ row :: later := by
    intro text earlier same
    have length := congrArg List.length same
    have further := List.length_pos_iff.mpr more
    rw [List.length_singleton, List.length_append, List.length_cons] at length
    omega
  induction wraps generalizing earlier with
  | fits => exact (single parted).elim
  | ends => exact (single parted).elim
  | goesOn wide breaks _ wraps induction =>
      cases earlier with
      | nil =>
          obtain ⟨rfl, rfl⟩ := List.cons.inj parted
          rw [wraps.flatten_eq]
          exact ⟨wide, breaks⟩
      | cons first earlier => exact induction (List.cons.inj parted).right

end Wraps

/-- A line is divided into at least one row and at most as many as it has characters, and nothing
of it is lost.  Each row fits the width or is a single character, and none is empty unless the line
is.  A row that is not the last one ends where a line has to be broken. -/
theorem wrapLine_divides {width : Nat} (some : 1 ≤ width) (line : List Char) :
    wrapLine width line ≠ [] ∧ (wrapLine width line).length ≤ max 1 line.length ∧
      (wrapLine width line).flatten = line ∧
      (∀ row ∈ wrapLine width line,
        (Text.byteCount row ≤ width ∨ ∃ c, row = [c]) ∧ (row = [] → line = [])) ∧
      ∀ earlier row later, wrapLine width line = earlier ++ row :: later → later ≠ [] →
        width < Text.byteCount (row ++ later.flatten) ∧ Breaks width row later.flatten := by
  have wraps : Wraps width line (wrapLine width line) := by
    rw [wrapLine, if_neg (Nat.ne_of_gt some)]
    exact wraps_rows width line
  refine ⟨wrapLine_ne_nil width line, wraps.length_le, wraps.flatten_eq, ?_, ?_⟩
  · intro row member
    exact wraps.of_mem member
  · intro earlier row later parted more
    exact wraps.breaks_of_parted parted more

theorem wrapLine_divides_of_twoBytes :
    1 ≤ 2 ∧ Breaks 2 ['a'] "漢b c".toList ∧ Breaks 2 ['漢'] "b c".toList ∧
      Breaks 2 "b ".toList ['c'] := by
  have rows : wrapLine 2 "a漢b c".toList = [['a'], ['漢'], "b ".toList, ['c']] := by
    change Wrap.rows 2 ['a', '漢', 'b', ' ', 'c'] = _
    have first : Wrap.rows 2 ['a', '漢', 'b', ' ', 'c'] =
        ['a'] :: Wrap.rows 2 ['漢', 'b', ' ', 'c'] := by
      rw [Wrap.rows]
      rfl
    have second : Wrap.rows 2 ['漢', 'b', ' ', 'c'] = ['漢'] :: Wrap.rows 2 ['b', ' ', 'c'] := by
      rw [Wrap.rows]
      rfl
    have third : Wrap.rows 2 ['b', ' ', 'c'] = ['b', ' '] :: Wrap.rows 2 ['c'] := by
      rw [Wrap.rows]
      rfl
    have last : Wrap.rows 2 ['c'] = [['c']] := by
      rw [Wrap.rows]
      rfl
    rw [first, second, third, last]
    rfl
  have divided := wrapLine_divides (by decide : 1 ≤ 2) "a漢b c".toList
  have breaks := divided.right.right.right.right
  exact ⟨by decide, (breaks [] _ _ rows (List.cons_ne_nil _ _)).right,
    (breaks [['a']] _ _ rows (List.cons_ne_nil _ _)).right,
    (breaks [['a'], ['漢']] _ _ rows (List.cons_ne_nil _ _)).right⟩

end DocsConsole.Wrap
