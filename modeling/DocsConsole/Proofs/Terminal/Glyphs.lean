import DocsConsole.Proofs.Terminal.Cells

/-!
# The cells that glyphs stand in

The glyphs of a line stand next to each other, each in as many cells as it is wide, and the line
ends before the first one that does not fit any more.  So a part of a line is shown if it ends in
the area, however wide its characters are.
-/

namespace DocsConsole

namespace Terminal

/-- Some glyphs stand next to each other in the first row of an area, from a column of it on and
without reaching beyond it. -/
inductive Drawing.ShowsRow (drawing : Drawing) (area : Area) : Nat → List Glyph → Prop where
  | ends {column : Nat} (inside : column ≤ area.width) : ShowsRow drawing area column []
  | goesOn {column : Nat} {glyph : Glyph} {rest : List Glyph}
      (cell : 0 < glyph.width → drawing.cellAt (area.column + column) area.row =
        Cell.blank.showing (String.ofList glyph.text) glyph.style)
      (shows : ShowsRow drawing area (column + glyph.width) rest) :
      ShowsRow drawing area column (glyph :: rest)

namespace Glyph

/-! ## Widths -/

theorem totalWidth_cons (glyph : Glyph) (rest : List Glyph) :
    totalWidth (glyph :: rest) = glyph.width + totalWidth rest := by
  rw [totalWidth, List.map_cons, List.sum_cons]
  rfl

theorem totalWidth_append (before after : List Glyph) :
    totalWidth (before ++ after) = totalWidth before + totalWidth after := by
  rw [totalWidth, List.map_append, List.sum_append]
  rfl

theorem totalWidth_singleton (glyph : Glyph) : totalWidth [glyph] = glyph.width :=
  Nat.add_zero _

theorem width_le_totalWidth {glyphs : List Glyph} {glyph : Glyph} (member : glyph ∈ glyphs) :
    glyph.width ≤ totalWidth glyphs := by
  obtain ⟨before, after, rfl⟩ := List.append_of_mem member
  rw [totalWidth_append, totalWidth_cons]
  omega

theorem totalWidth_ofSpan_of_narrow {span : Span}
    (narrow : ∀ c ∈ span.text.toList, Unicode.Narrow c) :
    totalWidth (ofSpan span) = span.text.length := by
  have single : (width ∘ ofChar) ∘ (·, span.style) = Function.const Char 1 := rfl
  rw [ofSpan_of_narrow narrow, totalWidth, List.map_map, List.map_map, single, List.map_const,
    List.sum_replicate_nat, Nat.mul_one, String.length_toList]

/-- No narrow character is wider than a row. -/
theorem filter_ofSpan_of_narrow {span : Span} (narrow : ∀ c ∈ span.text.toList, Unicode.Narrow c)
    {width : Nat} (wide : 0 < width) :
    (ofSpan span).filter (·.width ≤ width) = ofSpan span := by
  rw [List.filter_eq_self, ofSpan_of_narrow narrow]
  intro glyph member
  obtain ⟨styled, _, rfl⟩ := List.mem_map.mp member
  exact decide_eq_true wide

/-- The glyphs of a span hold nothing but its text. -/
theorem mem_of_mem_ofSpan {span : Span} {glyph : Glyph} (member : glyph ∈ ofSpan span) {c : Char}
    (inside : c ∈ glyph.text) : c ∈ span.text.toList := by
  obtain ⟨cluster, among, rfl⟩ := List.mem_map.mp member
  rw [← Unicode.flatten_clusters span.text.toList]
  exact List.mem_flatten.mpr ⟨cluster, (List.mem_filter.mp among).left, inside⟩

/-! ## What fits -/

theorem fitting_append {width : Nat} {before : List Glyph} (fits : totalWidth before ≤ width)
    (after : List Glyph) :
    fitting width (before ++ after) = before ++ fitting (width - totalWidth before) after := by
  induction before generalizing width with
  | nil => rfl
  | cons glyph rest induction =>
      rw [totalWidth_cons] at fits ⊢
      rw [List.cons_append, fitting, if_pos (by omega), induction (by omega), Nat.sub_sub]
      rfl

theorem length_marks (covered : Mark) (glyphs : List Glyph) :
    (glyphs.flatMap (marks covered)).length = totalWidth glyphs := by
  induction glyphs with
  | nil => rfl
  | cons glyph rest induction =>
      rw [List.flatMap_cons, List.length_append, induction, totalWidth_cons, marks]
      split
      case isTrue empty => rw [List.length_nil, empty]
      case isFalse wide =>
        rw [List.length_cons, List.length_replicate]
        omega

/-- The first cell of a glyph comes after the cells of those before it. -/
theorem getElem?_marks (covered : Mark) (before : List Glyph) {glyph : Glyph}
    (wide : 0 < glyph.width) (after : List Glyph) :
    ((before ++ glyph :: after).flatMap (marks covered))[totalWidth before]? =
      some (.put (String.ofList glyph.text) glyph.style) := by
  rw [List.flatMap_append, List.flatMap_cons, ← length_marks covered before,
    List.getElem?_append_right (Nat.le_refl _), Nat.sub_self, marks, if_neg (by omega)]
  rfl

end Glyph

/-! ## Lines -/

namespace Stroke

variable (first : Nat) {row column : Nat} {marks : List Mark}

theorem apply_write_some {mark : Mark} (found : marks[column]? = some mark) (cell : Cell) :
    (write first row marks).apply (first + column) row cell = mark.apply cell := by
  simp only [apply, Nat.le_add_right, and_self, if_true, Nat.add_sub_cancel_left, found]

theorem apply_write_none (missing : marks[column]? = none) (cell : Cell) :
    (write first row marks).apply (first + column) row cell = cell := by
  simp only [apply, Nat.le_add_right, and_self, if_true, Nat.add_sub_cancel_left, missing]

end Stroke

theorem Drawing.ShowsRow.fits {drawing : Drawing} {area : Area} {column : Nat}
    {glyphs : List Glyph} (shows : drawing.ShowsRow area column glyphs) :
    column + Glyph.totalWidth glyphs ≤ area.width := by
  induction shows with
  | ends inside => exact inside
  | goesOn _ _ induction =>
      rw [Glyph.totalWidth_cons]
      omega

/-- The glyphs of a line that are not wider than a row. -/
def Line.glyphs (line : Line) (width : Nat) : List Glyph :=
  (Glyph.ofLine line).filter (·.width ≤ width)

namespace Paragraph

variable {line : Line} {area : Area}

theorem cellAt_draw_line (line : Line) (present : area.isEmpty = false) (column : Nat) :
    ((ofLines [line]).draw area).cellAt column area.row =
      (Stroke.write area.column area.row ((Glyph.fitting area.width
        (line.glyphs area.width)).flatMap (Glyph.marks .keep))).apply column area.row .blank := by
  have seen : ((ofLines [line]).seen area)[0]? =
      some (Glyph.fitting area.width (line.glyphs area.width)) := by
    simp only [Area.isEmpty, Bool.or_eq_false_iff, decide_eq_false_iff_not] at present
    rw [Paragraph.seen, List.getElem?_take_of_lt (by omega)]
    rfl
  have drawn := drawnOver_drawRows area.column area.row column 0
    ((ofLines [line]).seen area) .blank
  rw [seen, Nat.add_zero] at drawn
  rw [draw, present, if_neg Bool.false_ne_true]
  exact drawn

/-- A part of a line is shown where the glyphs before it end, if it ends in the area. -/
theorem draw_line_shows (present : area.isEmpty = false) {before part after : List Glyph}
    (parted : line.glyphs area.width = before ++ part ++ after)
    (fits : Glyph.totalWidth before + Glyph.totalWidth part ≤ area.width) :
    ((ofLines [line]).draw area).ShowsRow area (Glyph.totalWidth before) part := by
  induction part generalizing before with
  | nil => exact .ends fits
  | cons glyph rest induction =>
      have here : before ++ glyph :: rest ++ after = before ++ [glyph] ++ rest ++ after := by
        rw [List.append_cons]
      have reached : Glyph.totalWidth (before ++ [glyph]) =
          Glyph.totalWidth before + glyph.width := by
        rw [Glyph.totalWidth_append, Glyph.totalWidth_singleton]
      rw [here] at parted
      rw [Glyph.totalWidth_cons, ← Nat.add_assoc, ← reached] at fits
      constructor
      · intro wide
        have room := Nat.le_trans (Nat.le_add_right _ _) fits
        rw [cellAt_draw_line line present, parted, List.append_assoc, Glyph.fitting_append room,
          List.append_assoc, List.singleton_append]
        exact Stroke.apply_write_some _ (Glyph.getElem?_marks .keep before wide _) _
      · rw [← reached]
        exact induction parted fits

/-- A cell shows nothing but a glyph that fits. -/
theorem symbol_draw_line (line : Line) (present : area.isEmpty = false) (column : Nat) :
    (((ofLines [line]).draw area).cellAt (area.column + column) area.row).symbol = " " ∨
      ∃ glyph ∈ Glyph.fitting area.width (line.glyphs area.width),
        (((ofLines [line]).draw area).cellAt (area.column + column) area.row).symbol =
          String.ofList glyph.text := by
  rw [cellAt_draw_line line present]
  cases found : ((Glyph.fitting area.width (line.glyphs area.width)).flatMap
      (Glyph.marks .keep))[column]? with
  | none =>
      rw [Stroke.apply_write_none _ found]
      exact Or.inl rfl
  | some mark =>
      rw [Stroke.apply_write_some _ found]
      obtain ⟨glyph, member, marked⟩ := List.mem_flatMap.mp (List.mem_of_getElem? found)
      unfold Glyph.marks at marked
      split at marked
      case isTrue => contradiction
      case isFalse =>
        rcases List.mem_cons.mp marked with rfl | covered
        · exact Or.inr ⟨glyph, member, rfl⟩
        · rw [(List.mem_replicate.mp covered).right]
          exact Or.inl rfl

end Paragraph

end Terminal

end DocsConsole
