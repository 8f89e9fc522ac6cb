import DocsConsole.Proofs.Terminal.Parts

/-!
# The ground of rows in a list

A row of a list has its place for itself.  Text without a ground of its own leaves that of the row
as it is.  Only a cell that a wide character covers is emptied, and the first cell of a row is never
one of these.
-/

namespace DocsConsole.Terminal

/-- The text of a line has no ground of its own. -/
def Line.Groundless (line : Line) : Prop :=
  ∀ span ∈ line, span.style.background = none

/-! ## Marks -/

namespace Glyph

theorem mem_fitting {width : Nat} {glyphs : List Glyph} {glyph : Glyph}
    (member : glyph ∈ fitting width glyphs) : glyph ∈ glyphs := by
  induction glyphs generalizing width with
  | nil => contradiction
  | cons first rest induction =>
      unfold fitting at member
      split at member
      · rcases List.mem_cons.mp member with rfl | later
        · exact List.mem_cons_self
        · exact List.mem_cons_of_mem first (induction later)
      · contradiction

theorem style_of_mem_joinedFrom {style : Style} {pending : List Char} {glyphs rest : List Glyph}
    (joined : ∀ glyph ∈ glyphs, glyph.style = style)
    (remaining : ∀ glyph ∈ rest, glyph.style = style) :
    ∀ glyph ∈ joinedFrom pending glyphs rest, glyph.style = style := by
  induction rest generalizing pending glyphs with
  | nil =>
      intro glyph member
      exact joined glyph (List.mem_reverse.mp member)
  | cons next rest induction =>
      have nextStyle := remaining next List.mem_cons_self
      have later : ∀ glyph ∈ rest, glyph.style = style := fun glyph member =>
        remaining glyph (List.mem_cons_of_mem next member)
      unfold joinedFrom
      split
      · split
        · exact induction (by simp) later
        · rename_i last earlier
          have lastStyle := joined last List.mem_cons_self
          apply induction _ later
          intro glyph member
          rcases List.mem_cons.mp member with rfl | before
          · exact lastStyle
          · exact joined glyph (List.mem_cons_of_mem last before)
      · apply induction _ later
        intro glyph member
        rcases List.mem_cons.mp member with rfl | before
        · exact nextStyle
        · exact joined glyph before

theorem style_of_mem_ofSpan {span : Span} {glyph : Glyph} (member : glyph ∈ ofSpan span) :
    glyph.style = span.style := by
  obtain ⟨cluster, _, rfl⟩ := List.mem_map.mp member
  rfl

/-- What a line shows is in the style of one of its spans. -/
theorem style_of_mem_spanMarks {width : Nat} {span : Span} {symbol : String} {style : Style}
    (member : .put symbol style ∈ spanMarks width span) : style = span.style := by
  rcases List.mem_append.mp member with drawn | kept
  · obtain ⟨glyph, fits, marked⟩ := List.mem_flatMap.mp drawn
    have glyphStyle : glyph.style = span.style :=
      style_of_mem_joinedFrom (by simp) (fun _ => style_of_mem_ofSpan) glyph (mem_fitting fits)
    unfold marks at marked
    split at marked
    · contradiction
    · rcases List.mem_cons.mp marked with same | covered
      · cases same
        exact glyphStyle
      · exact nomatch (List.mem_replicate.mp covered).right
  · exact nomatch (List.mem_replicate.mp kept).right

theorem style_of_mem_lineMarks {line : Line} {width : Nat} {symbol : String} {style : Style}
    (member : .put symbol style ∈ lineMarks width line) : ∃ span ∈ line, style = span.style := by
  induction line generalizing width with
  | nil => contradiction
  | cons span rest induction =>
      rcases List.mem_append.mp member with drawn | later
      · exact ⟨span, List.mem_cons_self, style_of_mem_spanMarks (List.mem_of_mem_take drawn)⟩
      · obtain ⟨other, among, same⟩ := induction later
        exact ⟨other, List.mem_cons_of_mem span among, same⟩

/-- What a wide character covers does not come first. -/
theorem head?_marks_ne_erase (glyphs : List Glyph) :
    (glyphs.flatMap (marks .erase)).head? ≠ some .erase := by
  induction glyphs with
  | nil => simp
  | cons glyph rest induction =>
      rw [List.flatMap_cons, marks]
      split
      · exact induction
      · simp

theorem head?_spanMarks_ne_erase (width : Nat) (span : Span) :
    (spanMarks width span).head? ≠ some .erase := by
  have drawn := head?_marks_ne_erase (fitting width (joinedFrom [] [] (ofSpan span)))
  unfold spanMarks
  rw [List.head?_append]
  cases first : ((fitting width (joinedFrom [] [] (ofSpan span))).flatMap (marks .erase)).head? with
  | some mark => rwa [first] at drawn
  | none =>
      rw [Option.none_or, List.head?_replicate]
      split <;> simp

theorem head?_lineMarks_ne_erase (width : Nat) (line : Line) :
    (lineMarks width line).head? ≠ some .erase := by
  induction line generalizing width with
  | nil => simp [lineMarks]
  | cons span rest induction =>
      have drawn : ((spanMarks width span).take width).head? ≠ some .erase := by
        rw [List.head?_take]
        split
        · simp
        · exact head?_spanMarks_ne_erase width span
      simp only [lineMarks, List.head?_append]
      cases first : ((spanMarks width span).take width).head? with
      | some mark => rwa [first] at drawn
      | none => exact induction _

end Glyph

/-! ## Rows -/

namespace ListRow

section

variable (row : ListRow) (area : Area) {column : Nat}

/-- A row is drawn on its ground. -/
theorem cellAt_drawAt (across : area.column ≤ column ∧ column < area.column + area.width)
    (tall : 0 < area.height) :
    (row.drawAt area).cellAt column area.row =
      (Stroke.write area.column area.row (Glyph.lineMarks area.width row.line)).apply column
        area.row (Cell.blank.restyled row.style) := by
  have present : area.isEmpty = false := by
    simp only [Area.isEmpty, Bool.or_eq_false_iff, decide_eq_false_iff_not]
    omega
  have held : area.holds column area.row = true := Area.holds_iff.mpr (by omega)
  simp only [drawAt, present, Bool.false_eq_true, if_false, Line.draw, Drawing.cellAt,
    List.foldl_cons, List.foldl_nil, Stroke.apply, held, if_true]

/-- A cell has the ground of its row, unless a wide character covers it. -/
theorem background_drawAt (groundless : row.line.Groundless)
    (across : area.column ≤ column ∧ column < area.column + area.width)
    (tall : 0 < area.height) :
    ((row.drawAt area).cellAt column area.row).style.background =
      if (Glyph.lineMarks area.width row.line)[column - area.column]? = some .erase then none
      else row.style.background := by
  have ground : (Cell.blank.restyled row.style).style.background = row.style.background := by
    rw [Cell.restyled, Cell.blank, Style.atop_plain]
  rw [cellAt_drawAt row area across tall, Stroke.apply, if_pos ⟨rfl, across.left⟩]
  cases marked : (Glyph.lineMarks area.width row.line)[column - area.column]? with
  | none => exact ground
  | some mark =>
      cases mark with
      | erase => rfl
      | keep => exact ground
      | put symbol style =>
          obtain ⟨span, member, rfl⟩ := Glyph.style_of_mem_lineMarks (List.mem_of_getElem? marked)
          change (span.style.background.or _) = _
          rw [groundless span member, Option.none_or]
          exact ground

end

/-! ## Lists -/

/-- Draws rows from a place on. -/
def drawFrom (area : Area) (start : Nat) (rows : List ListRow) : Drawing :=
  (rows.zipIdx start).flatMap fun (row, place) => row.drawAt (position area place)

variable {rows : List ListRow} {area : Area}

theorem drawFrom_spares {start place : Nat} (above : place < start) :
    (drawFrom area start rows).Spares (position area place) := by
  intro stroke member
  obtain ⟨⟨row, other⟩, listed, drawn⟩ := List.mem_flatMap.mp member
  have after : start ≤ other := List.le_snd_of_mem_zipIdx listed
  refine (row.drawAt_keepsTo _).spares (Area.beside_of_below ?_) stroke drawn
  dsimp only [position]
  omega

theorem drawFrom_shows {start place : Nat} {row : ListRow} (listed : rows[place]? = some row) :
    (drawFrom area start rows).Shows (row.drawAt (position area (start + place)))
      (position area (start + place)) := by
  induction rows generalizing start place with
  | nil => contradiction
  | cons first rest induction =>
      -- The first row stands at `start`, the others as in a list that starts one row below.
      have parts : drawFrom area start (first :: rest) =
          first.drawAt (position area start) ++ drawFrom area (start + 1) rest := by
        rw [drawFrom, List.zipIdx_cons, List.flatMap_cons]
        rfl
      rw [parts]
      cases place with
      | zero =>
          cases listed
          exact ⟨[], _, rfl, Drawing.spares_nil, drawFrom_spares (Nat.lt_succ_self start)⟩
      | succ place =>
          have later : (drawFrom area (start + 1) rest).Shows _ _ := induction listed
          rw [Nat.add_right_comm, Nat.add_assoc] at later
          apply later.behind
          apply (first.drawAt_keepsTo _).spares (Area.beside_of_above _)
          dsimp only [position]
          omega

/-- Each row has its place in the list for itself. -/
theorem draw_shows {place : Nat} {row : ListRow} (listed : rows[place]? = some row)
    (inside : place < area.height) :
    (draw rows area).Shows (row.drawAt (position area place)) (position area place) := by
  have taken : (rows.take area.height)[place]? = some row := by
    rw [List.getElem?_take_of_lt inside, listed]
  have shows : (drawFrom area 0 (rows.take area.height)).Shows _ _ := drawFrom_shows taken
  rwa [Nat.zero_add] at shows

/-- Below the last row a list draws nothing. -/
theorem draw_spares {place : Nat} (unlisted : rows[place]? = none) :
    (draw rows area).Spares (position area place) := by
  intro stroke member
  obtain ⟨row, _, other, _, listed, drawn⟩ := mem_draw member
  have after := List.getElem?_eq_none_iff.mp unlisted
  refine (row.drawAt_keepsTo _).spares (Area.beside_of_above ?_) stroke drawn
  dsimp only [position]
  omega

end ListRow

end DocsConsole.Terminal
