import DocsConsole.Proofs.Terminal.Cells
import DocsConsole.Terminal.Stack
import DocsConsole.Terminal.Theme
import Mathlib.Data.List.Forall2

/-!
# Parts of a drawing

What is drawn to an area stays in its rows and does not come before its first column.  So parts that
stand below each other, or one to the right of the other, leave each other alone, and what one of
them shows can be told from that part alone.
-/

namespace DocsConsole.Terminal

/-- An area reaches only rows of another one, and no column before it. -/
structure Area.StaysIn (inner outer : Area) : Prop where
  column : outer.column ≤ inner.column
  rows : ∀ row, inner.reaches row = true → outer.reaches row = true

namespace Area

theorem reaches_iff {area : Area} {row : Nat} :
    area.reaches row = true ↔ area.row ≤ row ∧ row < area.row + area.height := by
  simp only [reaches, Bool.and_eq_true, decide_eq_true_eq]

namespace StaysIn

variable {inner outer : Area}

theorem of_rows (column : outer.column ≤ inner.column) (above : outer.row ≤ inner.row)
    (below : inner.row + inner.height ≤ outer.row + outer.height) : inner.StaysIn outer := by
  refine ⟨column, ?_⟩
  intro row
  rw [reaches_iff, reaches_iff]
  omega

theorem refl (area : Area) : area.StaysIn area :=
  ⟨Nat.le_refl _, fun _ reached => reached⟩

theorem trans {middle : Area} (first : inner.StaysIn middle) (second : middle.StaysIn outer) :
    inner.StaysIn outer :=
  ⟨Nat.le_trans second.column first.column, fun row reached =>
    second.rows row (first.rows row reached)⟩

end StaysIn

/-- Two areas stand below each other, or the first one stands to the right. -/
def Beside (area place : Area) : Prop :=
  ∀ column row, place.holds column row = true → column < area.column ∨ area.reaches row = false

theorem beside_of_below {area place : Area} (below : place.row + place.height ≤ area.row) :
    area.Beside place := by
  intro column row held
  obtain ⟨_, _, toRow⟩ := holds_iff.mp held
  right
  simp only [reaches, Bool.and_eq_false_iff, decide_eq_false_iff_not]
  omega

theorem beside_of_above {area place : Area} (above : area.row + area.height ≤ place.row) :
    area.Beside place := by
  intro column row held
  obtain ⟨_, fromRow, _⟩ := holds_iff.mp held
  right
  simp only [reaches, Bool.and_eq_false_iff, decide_eq_false_iff_not]
  omega

/-- An area lies within another one. -/
structure Covers (outer inner : Area) : Prop where
  left : outer.column ≤ inner.column
  right : inner.column + inner.width ≤ outer.column + outer.width
  top : outer.row ≤ inner.row
  bottom : inner.row + inner.height ≤ outer.row + outer.height

theorem Covers.trans {outer middle inner : Area} (first : outer.Covers middle)
    (second : middle.Covers inner) : outer.Covers inner :=
  ⟨Nat.le_trans first.left second.left, Nat.le_trans second.right first.right,
    Nat.le_trans first.top second.top, Nat.le_trans second.bottom first.bottom⟩

theorem Covers.holds {outer inner : Area} (covers : outer.Covers inner) {column row : Nat}
    (held : inner.holds column row = true) : outer.holds column row = true := by
  obtain ⟨left, right, top, bottom⟩ := covers
  rw [holds_iff] at held ⊢
  omega

theorem beside_of_right {area place : Area} (right : place.column + place.width ≤ area.column) :
    area.Beside place := by
  intro column row held
  obtain ⟨⟨_, toColumn⟩, _⟩ := holds_iff.mp held
  left
  omega

end Area

namespace Stroke

/-- The cells that a stroke can change. -/
def area : Stroke → Area
  | restyle area _ => area
  | erase area => area
  | fill area _ _ => area
  | write column row marks => ⟨column, row, marks.length, 1⟩

theorem apply_of_not_holds {stroke : Stroke} {column row : Nat}
    (beside : stroke.area.holds column row = false) (cell : Cell) :
    stroke.apply column row cell = cell := by
  cases stroke with
  | write first line marks =>
      rw [apply]
      split
      case isFalse => rfl
      case isTrue here =>
        obtain ⟨rfl, from_⟩ := here
        have after : marks.length ≤ column - first := by
          rw [← Bool.not_eq_true, Area.holds_iff] at beside
          dsimp only [area] at beside
          omega
        rw [List.getElem?_eq_none after]
  | _ => exact if_neg (by simpa [area] using beside)

/-- No stroke with the style of a frame that has the focus fills an area. -/
def Unfocused (stroke : Stroke) : Prop :=
  ∀ area symbol, stroke ≠ .fill area symbol Theme.focusedBorder

end Stroke

namespace Drawing

variable {drawing first second : Drawing} {inner outer area place : Area}

/-- A drawing stays in the rows of an area, and does not come before its first column. -/
def KeepsTo (drawing : Drawing) (area : Area) : Prop :=
  ∀ stroke ∈ drawing, stroke.area.StaysIn area

/-- A drawing leaves all cells of an area alone. -/
def Spares (drawing : Drawing) (place : Area) : Prop :=
  ∀ stroke ∈ drawing, ∀ column row cell, place.holds column row = true →
    stroke.apply column row cell = cell

theorem keepsTo_nil : KeepsTo [] area :=
  List.forall_mem_nil _

theorem KeepsTo.append (former : first.KeepsTo area) (latter : second.KeepsTo area) :
    (first ++ second).KeepsTo area :=
  List.forall_mem_append.mpr ⟨former, latter⟩

theorem KeepsTo.cons {stroke : Stroke} (former : stroke.area.StaysIn area)
    (latter : drawing.KeepsTo area) : KeepsTo (stroke :: drawing) area := by
  intro other member
  rcases List.mem_cons.mp member with rfl | member
  · exact former
  · exact latter other member

theorem KeepsTo.mono (keeps : drawing.KeepsTo inner) (stays : inner.StaysIn outer) :
    drawing.KeepsTo outer :=
  fun stroke member => (keeps stroke member).trans stays

/-- What is drawn beside a place leaves it alone. -/
theorem KeepsTo.spares (keeps : drawing.KeepsTo area) (beside : area.Beside place) :
    drawing.Spares place := by
  intro stroke member column row cell held
  have stays := keeps stroke member
  apply Stroke.apply_of_not_holds
  rw [← Bool.not_eq_true, Area.holds_iff]
  rintro ⟨⟨from_, _⟩, rows⟩
  have reached := stays.rows row (Area.reaches_iff.mpr rows)
  have column_le := stays.column
  rcases beside column row held with before | passes
  · omega
  · rw [reached] at passes
    contradiction

theorem Spares.of_covers (spares : drawing.Spares outer) (covers : outer.Covers place) :
    drawing.Spares place :=
  fun stroke member column row cell held =>
    spares stroke member column row cell (covers.holds held)

theorem Spares.append (former : first.Spares place) (latter : second.Spares place) :
    (first ++ second).Spares place :=
  List.forall_mem_append.mpr ⟨former, latter⟩

theorem spares_nil : Spares [] place :=
  List.forall_mem_nil _

theorem Spares.drawnOver_eq (spares : drawing.Spares place) {column row : Nat}
    (held : place.holds column row = true) (cell : Cell) :
    drawing.drawnOver column row cell = cell :=
  drawnOver_of_unchanged fun stroke member => spares stroke member column row cell held

/-- A drawing has a part, and nothing else is drawn to a place of that part. -/
def Shows (drawing part : Drawing) (place : Area) : Prop :=
  ∃ before after : Drawing, drawing = before ++ part ++ after ∧ before.Spares place ∧
    after.Spares place

namespace Shows

variable {middle part : Drawing}

theorem refl (part : Drawing) (place : Area) : part.Shows part place :=
  ⟨[], [], (List.append_nil part).symm, spares_nil, spares_nil⟩

theorem behind {front : Drawing} (shows : middle.Shows part place)
    (earlier : front.Spares place) : (front ++ middle).Shows part place := by
  obtain ⟨before, after, rfl, above, below⟩ := shows
  refine ⟨front ++ before, after, ?_, earlier.append above, below⟩
  simp only [List.append_assoc]

theorem before {back : Drawing} (shows : middle.Shows part place) (later : back.Spares place) :
    (middle ++ back).Shows part place := by
  obtain ⟨before, after, rfl, above, below⟩ := shows
  refine ⟨before, after ++ back, ?_, above, below.append later⟩
  simp only [List.append_assoc]

theorem trans (outerShows : drawing.Shows middle outer) (shows : middle.Shows part place)
    (covers : outer.Covers place) : drawing.Shows part place := by
  obtain ⟨before, after, rfl, earlier, later⟩ := outerShows
  exact (shows.behind (earlier.of_covers covers)).before (later.of_covers covers)

/-- A place that a part has for itself shows what the part alone would show there. -/
theorem cellAt_eq (shows : drawing.Shows part place) {column row : Nat}
    (held : place.holds column row = true) :
    drawing.cellAt column row = part.cellAt column row := by
  obtain ⟨before, after, rfl, earlier, later⟩ := shows
  have blank : before.cellAt column row = .blank := earlier.drawnOver_eq held .blank
  rw [cellAt_append, later.drawnOver_eq held, cellAt_append, blank]
  rfl

end Shows

/-- A drawing ends before a column. -/
def EndsBefore (drawing : Drawing) (column : Nat) : Prop :=
  ∀ stroke ∈ drawing, stroke.area.column + stroke.area.width ≤ column

theorem EndsBefore.append {column : Nat} (former : first.EndsBefore column)
    (latter : second.EndsBefore column) : (first ++ second).EndsBefore column :=
  List.forall_mem_append.mpr ⟨former, latter⟩

theorem EndsBefore.mono {column later : Nat} (ends : drawing.EndsBefore column)
    (before : column ≤ later) : drawing.EndsBefore later :=
  fun stroke member => Nat.le_trans (ends stroke member) before

theorem EndsBefore.spares {column : Nat} (ends : drawing.EndsBefore column)
    (right : column ≤ place.column) : drawing.Spares place := by
  intro stroke member column row cell held
  have end_ := ends stroke member
  apply Stroke.apply_of_not_holds
  rw [← Bool.not_eq_true, Area.holds_iff]
  obtain ⟨⟨from_, _⟩, _⟩ := Area.holds_iff.mp held
  omega

/-- No frame of a drawing has the focus. -/
def Unfocused (drawing : Drawing) : Prop :=
  ∀ stroke ∈ drawing, stroke.Unfocused

theorem unfocused_nil : Unfocused [] :=
  List.forall_mem_nil _

theorem Unfocused.append (former : first.Unfocused) (latter : second.Unfocused) :
    (first ++ second).Unfocused :=
  List.forall_mem_append.mpr ⟨former, latter⟩

end Drawing

/-! ## Parts that are stacked -/

theorem Area.mem_stack {area part : Area} {heights : List Nat}
    (member : part ∈ area.stack heights) : area.row ≤ part.row := by
  induction heights generalizing area with
  | nil => contradiction
  | cons height rest induction =>
      rcases List.mem_cons.mp member with rfl | lower
      · exact Nat.le_refl _
      · exact Nat.le_trans (Nat.le_add_right _ _) (induction lower)

/-- The area that is left below the first part of a stack. -/
def Area.below (area : Area) (height : Nat) : Area :=
  { area with row := area.row + height, height := area.height - height }

/-- Parts that fit into an area lie in it. -/
theorem Area.stack_covers {area part : Area} {heights : List Nat}
    (fits : Stack.total heights ≤ area.height) (member : part ∈ area.stack heights) :
    area.Covers part := by
  induction heights generalizing area with
  | nil => contradiction
  | cons height rest induction =>
      rw [Stack.total, List.sum_cons] at fits
      rcases List.mem_cons.mp member with rfl | lower
      · constructor <;> dsimp only <;> omega
      · have restFits : Stack.total rest ≤ (area.below height).height := by
          dsimp only [Stack.total, below]
          omega
        have covers : area.Covers (area.below height) := by
          constructor <;> dsimp only [below] <;> omega
        exact covers.trans (induction restFits lower)

namespace Drawing

/-- Parts that are stacked spare what stands above all of them. -/
theorem flatten_spares_above {drawings : List Drawing} {area : Area} {heights : List Nat}
    (keep : List.Forall₂ KeepsTo drawings (area.stack heights))
    (above : place.row + place.height ≤ area.row) : Spares drawings.flatten place := by
  induction heights generalizing area drawings with
  | nil =>
      rw [List.forall₂_nil_right_iff.mp keep]
      exact spares_nil
  | cons height rest induction =>
      obtain ⟨top, lower, topKeeps, lowerKeep, rfl⟩ := List.forall₂_cons_right_iff.mp keep
      change List.Forall₂ KeepsTo lower ((area.below height).stack rest) at lowerKeep
      apply Spares.append
      · exact topKeeps.spares (Area.beside_of_below above)
      · exact induction lowerKeep (Nat.le_trans above (Nat.le_add_right _ _))

/-- Of some parts that are stacked, each one has its place for itself. -/
theorem flatten_stacked {drawings : List Drawing} {area : Area} {heights : List Nat}
    (keep : List.Forall₂ KeepsTo drawings (area.stack heights)) {index : Nat}
    (drawn : drawings[index]? = some drawing) (stands : (area.stack heights)[index]? = some place) :
    Shows drawings.flatten drawing place := by
  induction heights generalizing area drawings index with
  | nil => contradiction
  | cons height rest induction =>
      obtain ⟨top, lower, topKeeps, lowerKeep, rfl⟩ := List.forall₂_cons_right_iff.mp keep
      change List.Forall₂ KeepsTo lower ((area.below height).stack rest) at lowerKeep
      cases index with
      | zero =>
          cases drawn
          cases stands
          exact ⟨[], lower.flatten, rfl, spares_nil,
            flatten_spares_above lowerKeep (Nat.le_refl _)⟩
      | succ index =>
          change ((area.below height).stack rest)[index]? = some place at stands
          have under := Area.mem_stack (List.mem_of_getElem? stands)
          exact (induction lowerKeep drawn stands).behind
            (topKeeps.spares (Area.beside_of_above under))

end Drawing

/-! ## Lines and lists -/

theorem Line.mem_draw {line : Line} {area : Area} {stroke : Stroke}
    (member : stroke ∈ line.draw area) :
    area.isEmpty = false ∧
      stroke = .write area.column area.row (Glyph.lineMarks area.width line) := by
  unfold Line.draw at member
  split at member
  case isTrue => contradiction
  case isFalse present => exact ⟨Bool.eq_false_iff.mpr present, List.mem_singleton.mp member⟩

theorem Glyph.length_lineMarks_singleton (width : Nat) (span : Span) :
    (lineMarks width [span]).length ≤ width := by
  simp only [lineMarks, List.append_nil]
  exact List.length_take_le _ _

theorem Area.room_of_present {area : Area} (present : area.isEmpty = false) :
    1 ≤ area.width ∧ 1 ≤ area.height := by
  simp only [isEmpty, Bool.or_eq_false_iff, decide_eq_false_iff_not] at present
  omega

theorem Line.draw_keepsTo (line : Line) (area : Area) : (line.draw area).KeepsTo area := by
  intro stroke member
  obtain ⟨present, rfl⟩ := Line.mem_draw member
  have tall := Area.room_of_present present
  exact .of_rows (Nat.le_refl _) (Nat.le_refl _) (Nat.add_le_add_left tall.right _)

theorem Line.draw_unfocused (line : Line) (area : Area) : (line.draw area).Unfocused := by
  intro stroke member
  obtain ⟨_, rfl⟩ := Line.mem_draw member
  intro place symbol
  simp

namespace ListRow

/-- The place of a row in the area of its list. -/
def position (area : Area) (place : Nat) : Area :=
  ⟨area.column, area.row + place, area.width, 1⟩

def drawAt (row : ListRow) (area : Area) : Drawing :=
  if area.isEmpty then [] else .restyle area row.style :: row.line.draw area

theorem draw_eq (rows : List ListRow) (area : Area) :
    draw rows area =
      (rows.take area.height).zipIdx.flatMap fun (row, place) =>
        row.drawAt (position area place) :=
  rfl

theorem drawAt_keepsTo (row : ListRow) (area : Area) : (row.drawAt area).KeepsTo area := by
  unfold drawAt
  split
  · exact Drawing.keepsTo_nil
  · exact .cons (.refl area) (row.line.draw_keepsTo area)

theorem drawAt_endsBefore (span : Span) (style : Style) (area : Area) :
    (drawAt ⟨[span], style⟩ area).EndsBefore (area.column + area.width) := by
  intro stroke member
  unfold drawAt at member
  split at member
  · contradiction
  · rcases List.mem_cons.mp member with rfl | written
    · exact Nat.le_refl _
    · obtain ⟨_, rfl⟩ := Line.mem_draw written
      exact Nat.add_le_add_left (Glyph.length_lineMarks_singleton _ _) _

theorem drawAt_unfocused (row : ListRow) (area : Area) : (row.drawAt area).Unfocused := by
  unfold drawAt
  split
  · exact Drawing.unfocused_nil
  · intro stroke member
    rcases List.mem_cons.mp member with rfl | written
    · intro place symbol
      simp
    · exact row.line.draw_unfocused area stroke written

theorem mem_draw {rows : List ListRow} {area : Area} {stroke : Stroke}
    (member : stroke ∈ draw rows area) :
    ∃ row ∈ rows, ∃ place, place < area.height ∧ place < rows.length ∧
      stroke ∈ drawAt row (position area place) := by
  rw [draw_eq] at member
  obtain ⟨⟨row, place⟩, listed, drawn⟩ := List.mem_flatMap.mp member
  have inside := List.snd_lt_of_mem_zipIdx listed
  have among := List.mem_of_mem_take (List.fst_mem_of_mem_zipIdx listed)
  rw [List.length_take] at inside
  exact ⟨row, among, place, by omega, by omega, drawn⟩

theorem draw_keepsTo (rows : List ListRow) (area : Area) : (draw rows area).KeepsTo area := by
  intro stroke member
  obtain ⟨row, _, place, inside, _, drawn⟩ := mem_draw member
  apply (row.drawAt_keepsTo _ stroke drawn).trans
  apply Area.StaysIn.of_rows <;> dsimp only [position] <;> omega

/-- Rows of one span each do not reach beyond the area of their list. -/
theorem draw_endsBefore {rows : List ListRow} (single : ∀ row ∈ rows, ∃ span, row.line = [span])
    (area : Area) : (draw rows area).EndsBefore (area.column + area.width) := by
  intro stroke member
  obtain ⟨⟨line, style⟩, among, place, _, _, drawn⟩ := mem_draw member
  obtain ⟨span, rfl⟩ := single _ among
  exact drawAt_endsBefore span style (position area place) stroke drawn

theorem draw_unfocused (rows : List ListRow) (area : Area) : (draw rows area).Unfocused := by
  intro stroke member
  obtain ⟨row, _, place, _, _, drawn⟩ := mem_draw member
  exact row.drawAt_unfocused _ stroke drawn

end ListRow

/-! ## Paragraphs -/

namespace Paragraph

theorem mem_drawRows {column first : Nat} {rows : List (List Glyph)} {stroke : Stroke}
    (member : stroke ∈ drawRows column first rows) :
    ∃ place < rows.length, ∃ marks, stroke = .write column (first + place) marks := by
  induction rows generalizing first with
  | nil => contradiction
  | cons glyphs rest induction =>
      rcases List.mem_cons.mp member with rfl | later
      · exact ⟨0, Nat.zero_lt_succ _, _, rfl⟩
      · obtain ⟨place, inside, marks, rfl⟩ := induction later
        refine ⟨place + 1, Nat.succ_lt_succ inside, marks, ?_⟩
        rw [Nat.add_right_comm, Nat.add_assoc]

variable (paragraph : Paragraph) (area : Area)

theorem mem_draw {paragraph : Paragraph} {area : Area} {stroke : Stroke}
    (member : stroke ∈ paragraph.draw area) :
    ∃ place < area.height, ∃ marks, stroke = .write area.column (area.row + place) marks := by
  unfold draw at member
  split at member
  · contradiction
  · obtain ⟨place, inside, marks, rfl⟩ := mem_drawRows member
    have seen : (paragraph.seen area).length ≤ area.height := List.length_take_le _ _
    exact ⟨place, by omega, marks, rfl⟩

theorem draw_keepsTo : (paragraph.draw area).KeepsTo area := by
  intro stroke member
  obtain ⟨place, inside, marks, rfl⟩ := mem_draw member
  apply Area.StaysIn.of_rows <;> dsimp only [Stroke.area] <;> omega

theorem draw_unfocused : (paragraph.draw area).Unfocused := by
  intro stroke member
  obtain ⟨place, _, marks, rfl⟩ := mem_draw member
  intro place symbol
  simp

end Paragraph

/-! ## Frames -/

namespace Frame

variable (frame : Frame) (area : Area)

/-- The sides and the corners of an area. -/
def edges : List Area :=
  [leftSide area, upperSide area, rightSide area, lowerSide area, rightSide (lowerSide area),
    rightSide (upperSide area), leftSide (lowerSide area), leftSide (upperSide area)]

theorem mem_draw {frame : Frame} {area : Area} {stroke : Stroke}
    (member : stroke ∈ frame.draw area) :
    area.isEmpty = false ∧
      ((∃ edge ∈ edges area, ∃ symbol, stroke = .fill edge symbol frame.lineStyle) ∨
        stroke ∈ frame.drawTitle area) := by
  unfold draw at member
  split at member
  case isTrue => contradiction
  case isFalse present =>
    refine ⟨Bool.eq_false_iff.mpr present, ?_⟩
    rcases List.mem_append.mp member with side | title
    · left
      simp only [List.mem_cons, List.not_mem_nil, or_false] at side
      rcases side with rfl | rfl | rfl | rfl | rfl | rfl | rfl | rfl <;>
        exact ⟨_, by simp [edges], _, rfl⟩
    · exact Or.inr title

theorem mem_drawTitle {frame : Frame} {area : Area} {stroke : Stroke}
    (member : stroke ∈ frame.drawTitle area) :
    ∃ width ≤ area.width - 2, stroke.area = ⟨area.column + 1, area.row, width, 1⟩ ∧
      stroke.Unfocused := by
  simp only [drawTitle] at member
  split at member
  · contradiction
  · rcases List.mem_cons.mp member with rfl | written
    · exact ⟨_, Nat.min_le_right _ _, rfl, fun _ _ => by simp⟩
    · have unfocused := Line.draw_unfocused _ _ stroke written
      obtain ⟨_, rfl⟩ := Line.mem_draw written
      have fits := Glyph.length_lineMarks_singleton
        (min (Line.styled .plain frame.title).columns (area.width - 2)) ⟨frame.title, .plain⟩
      exact ⟨_, Nat.le_trans fits (Nat.min_le_right _ _), rfl, unfocused⟩

theorem edges_staysIn {area : Area} (present : area.isEmpty = false) {edge : Area}
    (member : edge ∈ edges area) : edge.StaysIn area := by
  have room := Area.room_of_present present
  simp only [edges, List.mem_cons, List.not_mem_nil, or_false] at member
  rcases member with rfl | rfl | rfl | rfl | rfl | rfl | rfl | rfl <;>
    apply Area.StaysIn.of_rows <;> simp only [leftSide, rightSide, upperSide, lowerSide] <;> omega

theorem draw_keepsTo : (frame.draw area).KeepsTo area := by
  intro stroke member
  obtain ⟨present, ⟨edge, side, symbol, rfl⟩ | title⟩ := mem_draw member
  · exact edges_staysIn present side
  · obtain ⟨width, _, same, _⟩ := mem_drawTitle title
    have room := Area.room_of_present present
    rw [same]
    apply Area.StaysIn.of_rows <;> dsimp only <;> omega

theorem draw_endsBefore : (frame.draw area).EndsBefore (area.column + area.width) := by
  intro stroke member
  obtain ⟨present, ⟨edge, side, symbol, rfl⟩ | title⟩ := mem_draw member
  · have room := Area.room_of_present present
    simp only [edges, List.mem_cons, List.not_mem_nil, or_false] at side
    rcases side with rfl | rfl | rfl | rfl | rfl | rfl | rfl | rfl <;>
      simp only [Stroke.area, leftSide, rightSide, upperSide, lowerSide] <;> omega
  · obtain ⟨width, narrow, same, _⟩ := mem_drawTitle title
    have room := Area.room_of_present present
    rw [same]
    dsimp only
    omega

/-- A frame leaves the area inside alone. -/
theorem draw_spares_inside : (frame.draw area).Spares (inside area) := by
  intro stroke member column row cell held
  obtain ⟨⟨fromColumn, toColumn⟩, fromRow, toRow⟩ := Area.holds_iff.mp held
  simp only [inside] at fromColumn toColumn fromRow toRow
  apply Stroke.apply_of_not_holds
  rw [← Bool.not_eq_true, Area.holds_iff]
  obtain ⟨_, ⟨edge, side, symbol, rfl⟩ | title⟩ := mem_draw member
  · simp only [edges, List.mem_cons, List.not_mem_nil, or_false] at side
    rcases side with rfl | rfl | rfl | rfl | rfl | rfl | rfl | rfl <;>
      simp only [Stroke.area, leftSide, rightSide, upperSide, lowerSide] <;> omega
  · obtain ⟨width, _, same, _⟩ := mem_drawTitle title
    rw [same]
    dsimp only
    omega

theorem draw_unfocused (unfocused : frame.lineStyle ≠ Theme.focusedBorder) :
    (frame.draw area).Unfocused := by
  intro stroke member
  obtain ⟨_, ⟨edge, _, symbol, rfl⟩ | title⟩ := mem_draw member
  · intro place other
    simp [unfocused]
  · obtain ⟨_, _, _, plain⟩ := mem_drawTitle title
    exact plain

theorem mem_drawOpen {style : Style} {area : Area} {stroke : Stroke}
    (member : stroke ∈ drawOpen style area) :
    area.isEmpty = false ∧ ∃ edge ∈ edges area, ∃ symbol, stroke = .fill edge symbol style := by
  unfold drawOpen at member
  split at member
  case isTrue => contradiction
  case isFalse present =>
    refine ⟨Bool.eq_false_iff.mpr present, ?_⟩
    simp only [List.mem_cons, List.not_mem_nil, or_false] at member
    rcases member with rfl | rfl | rfl | rfl | rfl <;> exact ⟨_, by simp [edges], _, rfl⟩

theorem drawOpen_keepsTo (style : Style) : (drawOpen style area).KeepsTo area := by
  intro stroke member
  obtain ⟨present, edge, side, symbol, rfl⟩ := mem_drawOpen member
  exact edges_staysIn present side

theorem inside_staysIn : (inside area).StaysIn area := by
  constructor
  · dsimp only [inside]
    omega
  · intro row
    rw [Area.reaches_iff, Area.reaches_iff]
    dsimp only [inside]
    omega

theorem insideOpen_staysIn : (insideOpen area).StaysIn area := by
  apply Area.StaysIn.of_rows <;> dsimp only [insideOpen] <;> omega

end Frame

end DocsConsole.Terminal
