import DocsConsole.Proofs.Editor.Wrapped
import DocsConsole.Proofs.Terminal.Cells
import DocsConsole.Screen.Field

/-!
# Where typing goes

A field that has the keyboard shows the rows around its cursor, so the row that holds the cursor
is always among them.  The cursor itself is seen in one cell of that row, unless the row is as
wide as the field and the cursor stands at its end.
-/

namespace DocsConsole

open Terminal

namespace TextField

@[simp] theorem shown_append (kind : FieldKind) (front back : List Char) :
    shown kind (front ++ back) = shown kind front ++ shown kind back := by
  cases kind with
  | masked => exact List.map_append
  | _ => rfl

theorem shownText_eq (field : TextField) :
    field.shownText = shown field.kind field.before ++ shown field.kind field.after := by
  rw [← shown_append, before_append_after, shownText]

end TextField

namespace Wrap.CursorPlace

/-- The rows above the one with the cursor that are seen in so many rows. -/
def seenAbove (place : CursorPlace) (height : Nat) : List Row :=
  place.earlier.drop (place.earlier.length - (height - 1))

def seenBelow (place : CursorPlace) (height : Nat) : List Row :=
  place.later.take (height - 1 - (place.seenAbove height).length)

theorem length_seenAbove_lt (place : CursorPlace) {height : Nat} (tall : 0 < height) :
    (place.seenAbove height).length < height := by
  rw [seenAbove, List.length_drop]
  omega

end Wrap.CursorPlace

namespace Screen

/-! ## The row with the cursor is seen -/

theorem window_rows (place : Wrap.CursorPlace) {height : Nat} (tall : 0 < height) :
    window place.rows height =
      place.seenAbove height ++ place.row :: place.seenBelow height := by
  have room := place.length_seenAbove_lt tall
  have further : height - (place.seenAbove height).length =
      height - 1 - (place.seenAbove height).length + 1 := by omega
  rw [window, Wrap.cursorRow_rows, Wrap.CursorPlace.rows,
    List.drop_append_of_le_length (Nat.sub_le _ _), ← Wrap.CursorPlace.seenAbove,
    List.take_append, List.take_of_length_le (Nat.le_of_lt room), further, List.take_succ_cons,
    Wrap.CursorPlace.seenBelow]

/-- The width of the rows that a field shows in an area. -/
def rowWidth (inside : Area) : Nat :=
  if inside.width = 0 then spareWidth else inside.width

theorem length_typingRows_le (field : TextField) (inside : Area) :
    (typingRows field inside).length ≤ max 1 inside.height := by
  rw [typingRows, window]
  exact List.length_take_le _ _

/-- Where the cursor of a field is among the rows that an area shows. -/
structure ShowsAt (field : TextField) (inside : Area) (place : Wrap.CursorPlace) : Prop where
  around : Wrap.RowsAround (rowWidth inside) (TextField.shown field.kind field.before)
    (TextField.shown field.kind field.after) place
  seen : typingRows field inside =
    place.seenAbove (max 1 inside.height) ++ place.row :: place.seenBelow (max 1 inside.height)

theorem exists_showsAt (field : TextField) (inside : Area) :
    ∃ place, ShowsAt field inside place := by
  obtain ⟨place, around⟩ := Wrap.exists_rowsAround (rowWidth inside)
    (TextField.shown field.kind field.before) (TextField.shown field.kind field.after)
  refine ⟨place, around, ?_⟩
  rw [← window_rows place (Nat.le_max_left 1 inside.height), ← around.rows, ← field.shownText_eq]
  rfl

namespace ShowsAt

variable {field : TextField} {inside : Area} {place : Wrap.CursorPlace}
  (shows : ShowsAt field inside place)

include shows

theorem visualRows_eq :
    Wrap.visualRows (rowWidth inside) field.shownCursor field.shownText = place.rows := by
  rw [field.shownText_eq]
  exact shows.around.rows

/-- What is seen are some of the rows. -/
theorem mem_rows {row : Wrap.Row} (member : row ∈ typingRows field inside) : row ∈ place.rows := by
  rw [← shows.visualRows_eq]
  exact List.mem_of_mem_drop (List.mem_of_mem_take member)

theorem mem_shownText {row : Wrap.Row} (member : row ∈ place.rows) {c : Char}
    (written : c ∈ row.segment) : c ∈ field.shownText ∧ c ≠ '\n' := by
  rw [field.shownText_eq]
  exact shows.around.mem_of_mem_segment member written

end ShowsAt

open Wrap in
/-- The rows of a text are those of its lines, and together they are the text.  Exactly one of
them holds the cursor: it is parted there, and its first part with what stands before it is the text
before the cursor.  The rows that a field shows contain that row, and no more than there is room
for. -/
theorem cursor_among_rows :
    (∀ (width : Nat) (front back : List Char), ∃ place : CursorPlace,
      visualRows width (Text.byteCount front) (front ++ back) =
          place.earlier ++ place.row :: place.later ∧
        (visualRows width (Text.byteCount front) (front ++ back)).map (·.segment) =
          place.lines.flatten ∧
        (∀ segments ∈ place.lines, segments ≠ [] ∧ '\n' ∉ segments.flatten) ∧
        textOf place.lines = front ++ back ∧
        (∀ row ∈ place.earlier ++ place.later, row.cursor = none) ∧
        cursorRow (visualRows width (Text.byteCount front) (front ++ back)) =
          place.earlier.length ∧
        place.textBefore ++ place.before = front ∧
        Text.byteCount place.textBefore + Text.byteCount place.before = Text.byteCount front) ∧
    ∀ (field : TextField) (inside : Area), ∃ place : CursorPlace,
      visualRows (rowWidth inside) field.shownCursor field.shownText =
          place.earlier ++ place.row :: place.later ∧
        ∃ above below, typingRows field inside = above ++ place.row :: below ∧
          above <:+ place.earlier ∧ below <+: place.later ∧
          (above ++ place.row :: below).length ≤ max 1 inside.height := by
  refine ⟨?_, ?_⟩
  · intro width front back
    obtain ⟨place, around⟩ := exists_rowsAround width front back
    refine ⟨place, around.rows, ?_, around.lines_unended, around.textOf_lines, ?_, ?_,
      around.cursor, ?_⟩
    · rw [around.rows, place.map_segment_rows]
    · intro row member
      rcases List.mem_append.mp member with above | below
      · exact cursor_of_mem_plainRows above
      · exact cursor_of_mem_plainRows below
    · rw [around.rows, cursorRow_rows]
    · rw [← Text.byteCount_append, around.cursor]
  · intro field inside
    obtain ⟨place, shows⟩ := exists_showsAt field inside
    refine ⟨place, shows.visualRows_eq, _, _, shows.seen, List.drop_suffix _ _,
      List.take_prefix _ _, ?_⟩
    rw [← shows.seen]
    exact length_typingRows_le field inside

/-! ## The cell of the cursor -/

theorem normal_ne_cursor : Theme.normal ≠ Theme.cursor := by
  decide

theorem characters_rowLine (segment : List Char) :
    (rowLine ⟨segment, none⟩).characters = segment.map (·, Theme.normal) := by
  simp [rowLine, Line.styled, Line.characters]

theorem characters_cursorLine (before after : List Char) :
    (rowLine ⟨before ++ after, some (Text.byteCount before)⟩).characters =
      before.map (·, Theme.normal) ++
        (after.headD ' ', Theme.cursor) :: after.tail.map (·, Theme.normal) := by
  have parted : Text.dropBytes (Text.byteCount before) (before ++ after) = after := by
    have whole := Text.takeBytes_append_dropBytes (Text.byteCount before) (before ++ after)
    rw [Text.takeBytes_byteCount_append] at whole
    exact List.append_cancel_left whole
  simp [rowLine, cursorLine, Line.characters, Text.takeBytes_byteCount_append, parted]

theorem narrow_rowLine {row : Wrap.Row} (narrow : ∀ c ∈ row.segment, Unicode.Narrow c) :
    (rowLine row).Narrow := by
  obtain ⟨segment, cursor⟩ := row
  cases cursor with
  | none =>
      intro span member c inside
      rw [List.mem_singleton.mp member, String.toList_ofList] at inside
      exact narrow c inside
  | some cursor =>
      have parted := Text.takeBytes_append_dropBytes cursor segment
      have before : ∀ c ∈ Text.takeBytes cursor segment, Unicode.Narrow c := fun c inside =>
        narrow c (parted ▸ List.mem_append_left _ inside)
      have after : ∀ c ∈ Text.dropBytes cursor segment, Unicode.Narrow c := fun c inside =>
        narrow c (parted ▸ List.mem_append_right _ inside)
      intro span member c inside
      simp only [rowLine, cursorLine, List.mem_cons, List.not_mem_nil, or_false] at member
      rcases member with rfl | rfl | rfl
      · rw [String.toList_ofList] at inside
        exact before c inside
      · rw [String.toList_singleton, List.mem_singleton] at inside
        subst inside
        cases rest : Text.dropBytes cursor segment with
        | nil => exact Unicode.narrow_of_isVisible ⟨by decide, by decide⟩
        | cons c rest => exact after c (rest ▸ List.mem_cons_self)
      · rw [String.toList_ofList] at inside
        exact after c (List.mem_of_mem_tail inside)

/-- Of all elements of a list only a given one may have a property. -/
theorem exists_getElem?_iff {α : Type} {property : α → Prop} {front back : List α} {here : α}
    (others : ∀ other ∈ front ++ back, ¬property other) (place : Nat) :
    (∃ found, (front ++ here :: back)[place]? = some found ∧ property found) ↔
      place = front.length ∧ property here := by
  constructor
  · rintro ⟨found, same, holds⟩
    rcases Nat.lt_trichotomy place front.length with before | rfl | after
    · rw [List.getElem?_append_left before] at same
      exact (others found (List.mem_append_left _ (List.mem_of_getElem? same)) holds).elim
    · rw [List.getElem?_append_right (Nat.le_refl _), Nat.sub_self, List.getElem?_cons_zero] at same
      exact ⟨rfl, Option.some.inj same ▸ holds⟩
    · obtain ⟨further, rfl⟩ := Nat.exists_eq_add_of_lt after
      rw [List.getElem?_append_right (by omega), Nat.add_assoc, Nat.add_sub_cancel_left,
        List.getElem?_cons_succ] at same
      exact (others found (List.mem_append_right _ (List.mem_of_getElem? same)) holds).elim
  · rintro ⟨rfl, holds⟩
    refine ⟨here, ?_, holds⟩
    rw [List.getElem?_append_right (Nat.le_refl _), Nat.sub_self, List.getElem?_cons_zero]

/-- The columns of the row with the cursor in which it is drawn. -/
theorem cursor_in_characters (place : Wrap.CursorPlace) (column : Nat) :
    (∃ styled, (rowLine place.row).characters[column]? = some styled ∧ styled.2 = Theme.cursor) ↔
      column = place.before.length := by
  have plain : ∀ other ∈ place.before.map (·, Theme.normal) ++
      place.after.tail.map (·, Theme.normal), ¬other.2 = Theme.cursor := by
    intro other member
    rw [← List.map_append] at member
    obtain ⟨c, _, rfl⟩ := List.mem_map.mp member
    exact normal_ne_cursor
  rw [Wrap.CursorPlace.row, characters_cursorLine, exists_getElem?_iff plain, List.length_map]
  exact and_iff_left rfl

theorem not_cursor_of_plainRows {segments : List (List Char)} {row : Wrap.Row}
    (member : row ∈ Wrap.plainRows segments) (column : Nat) :
    ¬∃ styled, (rowLine row).characters[column]? = some styled ∧ styled.2 = Theme.cursor := by
  obtain ⟨segment, _, rfl⟩ := List.mem_map.mp member
  rintro ⟨styled, found, here⟩
  rw [characters_rowLine] at found
  obtain ⟨c, _, rfl⟩ := List.mem_map.mp (List.mem_of_getElem? found)
  exact normal_ne_cursor here

/-- The cursor is drawn to one cell of the rows that are seen. -/
theorem cursor_in_rows (place : Wrap.CursorPlace) (height column row : Nat) :
    (∃ styled, ((place.seenAbove height ++ place.row :: place.seenBelow height).map
        rowLine)[row]?.bind (·.characters[column]?) = some styled ∧ styled.2 = Theme.cursor) ↔
      row = (place.seenAbove height).length ∧ column = place.before.length := by
  have others : ∀ other ∈ place.seenAbove height ++ place.seenBelow height,
      ¬∃ styled, (rowLine other).characters[column]? = some styled ∧
        styled.2 = Theme.cursor := by
    intro other member
    rcases List.mem_append.mp member with above | below
    · exact not_cursor_of_plainRows (List.mem_of_mem_drop above) column
    · exact not_cursor_of_plainRows (List.mem_of_mem_take below) column
  rw [← cursor_in_characters, ← exists_getElem?_iff others]
  simp only [List.getElem?_map, Option.bind_map, Option.bind_eq_some_iff, Function.comp_apply]
  constructor
  · rintro ⟨styled, ⟨found, here, drawn⟩, style⟩
    exact ⟨found, here, styled, drawn, style⟩
  · rintro ⟨found, here, styled, drawn, style⟩
    exact ⟨styled, ⟨found, here, drawn⟩, style⟩

section

variable {field : TextField} {area : Area} {place : Wrap.CursorPlace} {height column row : Nat}

/-- The cell of the cursor, counted from the first cell inside the frame. -/
theorem style_drawField_iff
    (narrow : ∀ row ∈ typingRows field (Frame.inside area), (rowLine row).Narrow)
    (seen : typingRows field (Frame.inside area) =
      place.seenAbove height ++ place.row :: place.seenBelow height)
    (across : column < (Frame.inside area).width) (down : row < (Frame.inside area).height)
    (title hint : String) :
    ((drawField field true title hint area).cellAt ((Frame.inside area).column + column)
        ((Frame.inside area).row + row)).style = Theme.cursor ↔
      row = (place.seenAbove height).length ∧ column = place.before.length := by
  have lines : ∀ line ∈ (typingRows field (Frame.inside area)).map rowLine, line.Narrow := by
    intro line member
    obtain ⟨row, inside, rfl⟩ := List.mem_map.mp member
    exact narrow row inside
  have held : (Frame.inside area).holds ((Frame.inside area).column + column)
      ((Frame.inside area).row + row) = true := by
    rw [Area.holds_iff]
    omega
  have drawn : drawField field true title hint area =
      (frameOf title true).draw area ++ drawTyping field (Frame.inside area) := rfl
  rw [drawn, Drawing.cellAt_append, Frame.cellAt_draw_of_inside held, drawTyping,
    Paragraph.drawnOver_draw_of_narrow lines across down, ← cursor_in_rows, seen]
  split
  case h_1 styled found =>
    have style : (Cell.blank.showing (String.singleton styled.1) styled.2).style = styled.2 :=
      Style.atop_plain styled.2
    rw [style, found]
    constructor
    · intro here
      exact ⟨styled, rfl, here⟩
    · rintro ⟨_, same, here⟩
      exact Option.some.inj same ▸ here
  case h_2 nothing =>
    rw [nothing]
    constructor
    · intro here
      exact absurd here (by decide)
    · rintro ⟨_, same, _⟩
      contradiction

end

end Screen

/-! ## Printable text -/

namespace TextField

/-- A field with printable ASCII only, on several lines if it may have them. -/
def Visible (field : TextField) : Prop :=
  ∀ c ∈ field.content, Unicode.IsVisible c ∨ c = '\n' ∧ field.kind = .multi

/-- The cursor stands at the end of a row that is as wide as the field. -/
def AfterFullRow (field : TextField) (width : Nat) : Prop :=
  ∃ row ∈ Wrap.visualRows width field.shownCursor field.shownText,
    row.cursor = some (Text.byteCount row.segment) ∧ row.segment.length = width

theorem Visible.narrow {field : TextField} (visible : field.Visible) {c : Char}
    (shown : c ∈ field.shownText) (notFeed : c ≠ '\n') : Unicode.Narrow c := by
  rw [shownText] at shown
  cases kind : field.kind with
  | masked =>
      rw [kind] at shown
      obtain ⟨_, _, rfl⟩ := List.mem_map.mp shown
      exact Unicode.narrow_bullet
  | single =>
      rw [kind] at shown
      rcases visible c shown with printable | ⟨feed, _⟩
      · exact Unicode.narrow_of_isVisible printable
      · exact (notFeed feed).elim
  | multi =>
      rw [kind] at shown
      rcases visible c shown with printable | ⟨feed, _⟩
      · exact Unicode.narrow_of_isVisible printable
      · exact (notFeed feed).elim

end TextField

theorem Text.length_le_byteCount (text : List Char) : text.length ≤ byteCount text := by
  induction text with
  | nil => exact Nat.le_refl 0
  | cons c rest induction =>
      have positive := c.utf8Size_pos
      rw [List.length_cons, byteCount_cons]
      omega

theorem Text.byteCount_bullets {text : List Char} (masked : ∀ c ∈ text, c = TextField.bullet) :
    byteCount text = 3 * text.length := by
  have size : TextField.bullet.utf8Size = 3 := by decide
  rw [List.eq_replicate_of_mem masked, byteCount, List.map_replicate, List.sum_replicate_nat, size,
    List.length_replicate, Nat.mul_comm]

namespace Screen

/-- The cursor is seen in a cell of an area. -/
def CursorAt (drawing : Drawing) (inside : Area) (cell : Nat × Nat) : Prop :=
  inside.holds cell.1 cell.2 = true ∧ (drawing.cellAt cell.1 cell.2).style = Theme.cursor

namespace ShowsAt

section

variable {field : TextField} {inside : Area} {place : Wrap.CursorPlace}
  (shows : ShowsAt field inside place) (wide : 4 ≤ inside.width)

include shows

theorem narrow (visible : field.Visible) :
    ∀ row ∈ typingRows field inside, (rowLine row).Narrow := by
  intro row member
  apply narrow_rowLine
  intro c written
  obtain ⟨shown, notFeed⟩ := shows.mem_shownText (shows.mem_rows member) written
  exact visible.narrow shown notFeed

include wide

theorem byteCount_segment_le {row : Wrap.Row} (member : row ∈ place.rows) :
    Text.byteCount row.segment ≤ inside.width := by
  have width : rowWidth inside = inside.width := if_neg (by omega)
  rw [← width]
  exact shows.around.byteCount_segment_le (width ▸ wide) member

/-- A bullet takes three bytes but one column. -/
theorem length_segment_lt (masked : field.kind = .masked) {row : Wrap.Row}
    (member : row ∈ place.rows) : row.segment.length < inside.width := by
  have bullets : ∀ c ∈ row.segment, c = TextField.bullet := by
    intro c written
    have shown := (shows.mem_shownText member written).left
    rw [TextField.shownText, masked] at shown
    obtain ⟨_, _, rfl⟩ := List.mem_map.mp shown
    rfl
  have bytes := shows.byteCount_segment_le wide member
  rw [Text.byteCount_bullets bullets] at bytes
  omega

theorem length_before_add_after_le :
    place.before.length + place.after.length ≤ inside.width := by
  have bytes := shows.byteCount_segment_le wide place.row_mem_rows
  have columns := (Text.length_le_byteCount place.row.segment).trans bytes
  rwa [Wrap.CursorPlace.row, List.length_append] at columns

theorem afterFullRow_iff :
    field.AfterFullRow inside.width ↔ place.before.length = inside.width := by
  have columns := shows.length_before_add_after_le wide
  have width : rowWidth inside = inside.width := if_neg (by omega)
  rw [TextField.AfterFullRow, ← width, shows.visualRows_eq]
  constructor
  · rintro ⟨row, member, cursor, length⟩
    have here := Wrap.CursorPlace.eq_row_of_cursor member (cursor ▸ Option.some_ne_none _)
    subst here
    have same : Text.byteCount place.before = Text.byteCount (place.before ++ place.after) :=
      Option.some.inj cursor
    have nothing := Text.length_le_byteCount place.after
    rw [Wrap.CursorPlace.row, List.length_append] at length
    rw [Text.byteCount_append] at same
    omega
  · intro length
    have nothing : place.after = [] := List.eq_nil_of_length_eq_zero (by omega)
    refine ⟨place.row, place.row_mem_rows, ?_, ?_⟩ <;>
      rw [Wrap.CursorPlace.row, nothing, List.append_nil]
    exact length

end

/-- Where the cursor is seen, if it is. -/
theorem cursorAt_iff {field : TextField} (visible : field.Visible) {area : Area}
    (tall : 1 ≤ (Frame.inside area).height) {place : Wrap.CursorPlace}
    (shows : ShowsAt field (Frame.inside area) place) (title hint : String) (cell : Nat × Nat) :
    CursorAt (drawField field true title hint area) (Frame.inside area) cell ↔
      cell = ((Frame.inside area).column + place.before.length,
          (Frame.inside area).row + (place.seenAbove (Frame.inside area).height).length) ∧
        place.before.length < (Frame.inside area).width := by
  have seen := shows.seen
  rw [Nat.max_eq_right tall] at seen
  have style {column row : Nat} (across : column < (Frame.inside area).width)
      (down : row < (Frame.inside area).height) :=
    style_drawField_iff (shows.narrow visible) seen across down title hint
  have room := place.length_seenAbove_lt tall
  obtain ⟨column, row⟩ := cell
  rw [CursorAt, Area.holds_iff, Prod.mk.injEq]
  dsimp only
  constructor
  · rintro ⟨⟨⟨fromColumn, toColumn⟩, fromRow, toRow⟩, here⟩
    obtain ⟨across, rfl⟩ := Nat.exists_eq_add_of_le fromColumn
    obtain ⟨down, rfl⟩ := Nat.exists_eq_add_of_le fromRow
    have inColumn := Nat.lt_of_add_lt_add_left toColumn
    have inRow := Nat.lt_of_add_lt_add_left toRow
    obtain ⟨rfl, rfl⟩ := (style inColumn inRow).mp here
    exact ⟨⟨rfl, rfl⟩, inColumn⟩
  · rintro ⟨⟨rfl, rfl⟩, fits⟩
    exact ⟨by omega, (style fits room).mpr ⟨rfl, rfl⟩⟩

end ShowsAt

/-- A field with the keyboard shows its cursor in exactly one cell, unless the cursor stands at
the end of a row that is as wide as the field; then no cell shows it.  Bullets never fill a
row. -/
theorem cursor_seen_iff {field : TextField} (visible : field.Visible) {area : Area}
    (wide : 4 ≤ (Frame.inside area).width) (tall : 1 ≤ (Frame.inside area).height)
    (title hint : String) :
    ((∃! cell, CursorAt (drawField field true title hint area) (Frame.inside area) cell) ↔
        ¬field.AfterFullRow (Frame.inside area).width) ∧
      (field.AfterFullRow (Frame.inside area).width →
        ∀ cell, ¬CursorAt (drawField field true title hint area) (Frame.inside area) cell) ∧
      (field.kind = .masked → ¬field.AfterFullRow (Frame.inside area).width) := by
  obtain ⟨place, shows⟩ := exists_showsAt field (Frame.inside area)
  have cursor := shows.cursorAt_iff visible tall title hint
  have columns := shows.length_before_add_after_le wide
  have full := shows.afterFullRow_iff wide
  refine ⟨?_, ?_, ?_⟩
  · rw [full]
    constructor
    · rintro ⟨cell, here, _⟩ length
      have fits := ((cursor cell).mp here).right
      omega
    · intro notFull
      refine ⟨_, (cursor _).mpr ⟨rfl, by omega⟩, ?_⟩
      intro cell here
      exact ((cursor cell).mp here).left
  · intro after cell here
    have fits := ((cursor cell).mp here).right
    have length := full.mp after
    omega
  · intro masked after
    have length := full.mp after
    have narrower := shows.length_segment_lt wide masked place.row_mem_rows
    rw [Wrap.CursorPlace.row, List.length_append] at narrower
    omega

/-- Text that fills a row. -/
def fourLetters (kind : FieldKind) : TextField :=
  (TextField.empty kind).setValue "abcd"

/-- Four columns and two rows with a frame around them. -/
def fourColumns : Area :=
  ⟨0, 0, 6, 4⟩

theorem visible_fourLetters (kind : FieldKind) : (fourLetters kind).Visible := by
  have letters : ∀ c ∈ ['a', 'b', 'c', 'd'], Unicode.IsVisible c := by
    simp [Unicode.IsVisible]
  intro c inside
  exact Or.inl (letters c inside)

theorem cursor_seen_iff_of_fourLetters :
    (fourLetters .masked).Visible ∧ 4 ≤ (Frame.inside fourColumns).width ∧
      1 ≤ (Frame.inside fourColumns).height ∧
      ∃! cell, CursorAt (drawField (fourLetters .masked) true "" "" fourColumns)
        (Frame.inside fourColumns) cell := by
  have visible := visible_fourLetters .masked
  have wide : 4 ≤ (Frame.inside fourColumns).width := by decide
  have tall : 1 ≤ (Frame.inside fourColumns).height := by decide
  have seen := cursor_seen_iff visible wide tall "" ""
  exact ⟨visible, wide, tall, seen.left.mpr (seen.right.right rfl)⟩

theorem fourLetters_without_cursor :
    (fourLetters .single).Visible ∧ 4 ≤ (Frame.inside fourColumns).width ∧
      1 ≤ (Frame.inside fourColumns).height ∧
      ¬∃ cell, CursorAt (drawField (fourLetters .single) true "" "" fourColumns)
        (Frame.inside fourColumns) cell := by
  have unseen : ∀ column < 6, ∀ row < 4, ((drawField (fourLetters .single) true "" ""
      fourColumns).cellAt column row).style ≠ Theme.cursor := by
    decide +kernel
  refine ⟨visible_fourLetters .single, by decide, by decide, ?_⟩
  rintro ⟨⟨column, row⟩, held, style⟩
  obtain ⟨⟨_, toColumn⟩, _, toRow⟩ := Area.holds_iff.mp held
  exact unseen column (Nat.lt_of_lt_of_le toColumn (by decide)) row
    (Nat.lt_of_lt_of_le toRow (by decide)) style

end Screen

end DocsConsole
