import DocsConsole.Editor.Wrap
import DocsConsole.Proofs.Editor.Parts

/-!
# Where the cursor is among the rows

Nothing is lost when a line is wrapped.  Where a text is parted at its cursor, one of its rows is
parted: what stands before the cursor are the rows before that one and the first part of it.
-/

namespace DocsConsole

namespace Text

/-- Lines are put together with a line feed between two of them. -/
def joinLines (lines : List (List Char)) : List Char :=
  ['\n'].intercalate lines

theorem joinLines_cons_cons (line next : List Char) (lines : List (List Char)) :
    joinLines (line :: next :: lines) = line ++ '\n' :: joinLines (next :: lines) := by
  rw [joinLines, List.intercalate_cons_cons, List.append_assoc, List.singleton_append, ← joinLines]

/-- Where joined lines are parted, that is in the first line or after its line feed. -/
theorem joinLines_parted {line front back : List Char} {rest : List (List Char)}
    (parted : joinLines (line :: rest) = front ++ back) :
    front <+: line ∨
      ∃ later, rest ≠ [] ∧ front = line ++ '\n' :: later ∧ joinLines rest = later ++ back := by
  cases rest with
  | nil => exact Or.inl ⟨back, by rw [← parted, joinLines, List.intercalate_singleton]⟩
  | cons next lines =>
      rw [joinLines_cons_cons, List.append_cons] at parted
      rcases List.prefix_or_prefix_of_prefix ⟨_, parted⟩ ⟨_, rfl⟩ with ⟨later, passed⟩ | inside
      · rw [← passed, List.append_assoc _ later] at parted
        refine Or.inr ⟨later, List.cons_ne_nil _ _, ?_, List.append_cancel_left parted⟩
        rw [← passed, ← List.append_cons]
      · rcases List.prefix_concat_iff.mp inside with rfl | within
        · refine Or.inr ⟨[], List.cons_ne_nil _ _, rfl, List.append_cancel_left parted⟩
        · exact Or.inl within

theorem joinLines_concat (lines : List (List Char)) (last : List Char) :
    joinLines (lines ++ [last]) = lines.flatMap (· ++ ['\n']) ++ last := by
  induction lines with
  | nil => exact List.append_nil last
  | cons line lines induction =>
      cases lines with
      | nil => simp [joinLines]
      | cons next lines =>
          rw [List.cons_append, List.cons_append, joinLines_cons_cons, ← List.cons_append,
            induction]
          simp

theorem joinLines_splitAtFeeds (text : List Char) : joinLines (splitAtFeeds text) = text := by
  have fed := flatMap_splitAtFeeds text
  rcases List.eq_nil_or_concat (splitAtFeeds text) with nothing | ⟨lines, last, pieces⟩
  · exact (splitAtFeeds_ne_nil text nothing).elim
  · rw [List.concat_eq_append] at pieces
    rw [pieces, List.flatMap_append, List.flatMap_singleton, ← List.append_assoc] at fed
    rw [pieces, joinLines_concat]
    exact List.append_cancel_right fed

end Text

namespace Wrap

/-! ## Wrapped lines -/

theorem upToLastSpace_isPrefix (text : List Char) : upToLastSpace text <+: text := by
  have ending := List.reverse_prefix.mpr (List.dropWhile_suffix (l := text.reverse) (· ≠ ' '))
  rw [List.reverse_reverse] at ending
  exact ending

theorem firstRow_isPrefix (width : Nat) (text : List Char) : firstRow width text <+: text := by
  have fitting : Text.takeBytes width text <+: text :=
    ⟨Text.dropBytes width text, Text.takeBytes_append_dropBytes width text⟩
  simp only [firstRow]
  split
  case isTrue => exact (upToLastSpace_isPrefix _).trans fitting
  case isFalse =>
    split
    case isTrue => exact List.take_prefix 1 text
    case isFalse => exact fitting

theorem flatten_rows (width : Nat) (text : List Char) : (rows width text).flatten = text := by
  have whole := fun text => List.prefix_iff_eq_append.mp (firstRow_isPrefix width text)
  fun_induction rows width text with
  | case1 text fits => exact List.append_nil text
  | case2 text _ row rest done =>
      have nothing : rest = [] := List.isEmpty_iff.mp done
      have parted : row ++ rest = text := whole text
      rw [nothing] at parted
      exact parted
  | case3 text _ row rest more induction =>
      rw [List.flatten_cons, induction]
      exact whole text

theorem rows_ne_nil (width : Nat) (text : List Char) : rows width text ≠ [] := by
  fun_cases rows width text with
  | case1 => exact List.cons_ne_nil _ _
  | case2 => exact List.cons_ne_nil _ _
  | case3 => exact List.cons_ne_nil _ _

theorem flatten_wrapLine (width : Nat) (line : List Char) :
    (wrapLine width line).flatten = line := by
  unfold wrapLine
  split
  case isTrue => exact List.append_nil line
  case isFalse => exact flatten_rows width line

theorem wrapLine_ne_nil (width : Nat) (line : List Char) : wrapLine width line ≠ [] := by
  unfold wrapLine
  split
  case isTrue => exact List.cons_ne_nil _ _
  case isFalse => exact rows_ne_nil width line

theorem byteCount_firstRow_le {width : Nat} (wide : 4 ≤ width) (text : List Char) :
    Text.byteCount (firstRow width text) ≤ width := by
  have fitting := Text.byteCount_takeBytes_le width text
  simp only [firstRow]
  split
  case isTrue =>
    obtain ⟨further, whole⟩ := upToLastSpace_isPrefix (Text.takeBytes width text)
    rw [← whole, Text.byteCount_append] at fitting
    omega
  case isFalse =>
    split
    case isTrue =>
      cases text with
      | nil => exact Nat.zero_le width
      | cons c rest =>
          have size := c.utf8Size_le_four
          rw [List.take_succ_cons, List.take_zero, Text.byteCount_cons, Text.byteCount_nil]
          omega
    case isFalse => exact fitting

/-- Every character fits a row of four bytes, so no row is wider than asked for. -/
theorem byteCount_le_of_mem_wrapLine {width : Nat} (wide : 4 ≤ width) {line row : List Char}
    (member : row ∈ wrapLine width line) : Text.byteCount row ≤ width := by
  rw [wrapLine, if_neg (by omega)] at member
  fun_induction rows width line with
  | case1 text fits => rwa [List.mem_singleton.mp member]
  | case2 text => rw [List.mem_singleton.mp member]; exact byteCount_firstRow_le wide text
  | case3 text _ first rest _ induction =>
      rcases List.mem_cons.mp member with rfl | later
      · exact byteCount_firstRow_le wide text
      · exact induction later

/-! ## The rows around the cursor -/

/-- The rows around a cursor: those of the lines above and below, and those to both sides of the
parted row in its own line. -/
structure CursorPlace where
  above : List (List (List Char))
  left : List (List Char)
  before : List Char
  after : List Char
  right : List (List Char)
  below : List (List (List Char))

/-- Rows without the cursor. -/
def plainRows (segments : List (List Char)) : List Row :=
  segments.map (⟨·, none⟩)

theorem cursor_of_mem_plainRows {segments : List (List Char)} {row : Row}
    (member : row ∈ plainRows segments) : row.cursor = none := by
  obtain ⟨segment, _, rfl⟩ := List.mem_map.mp member
  rfl

theorem map_segment_plainRows (segments : List (List Char)) :
    (plainRows segments).map (·.segment) = segments := by
  rw [plainRows, List.map_map]
  exact List.map_id segments

/-- The text of lines that are divided into rows. -/
def textOf (lines : List (List (List Char))) : List Char :=
  Text.joinLines (lines.map List.flatten)

namespace CursorPlace

def row (place : CursorPlace) : Row :=
  ⟨place.before ++ place.after, some (Text.byteCount place.before)⟩

/-- The rows before the one with the cursor. -/
def earlier (place : CursorPlace) : List Row :=
  plainRows (place.above.flatten ++ place.left)

/-- The rows after the one with the cursor. -/
def later (place : CursorPlace) : List Row :=
  plainRows (place.right ++ place.below.flatten)

def rows (place : CursorPlace) : List Row :=
  place.earlier ++ place.row :: place.later

/-- The lines, each divided into its rows. -/
def lines (place : CursorPlace) : List (List (List Char)) :=
  place.above ++ (place.left ++ (place.before ++ place.after) :: place.right) :: place.below

/-- The text before the row with the cursor. -/
def textBefore (place : CursorPlace) : List Char :=
  textOf (place.above ++ [place.left])

/-- Only one of the rows holds the cursor. -/
theorem eq_row_of_cursor {place : CursorPlace} {row : Row} (member : row ∈ place.rows)
    (cursor : row.cursor ≠ none) : row = place.row := by
  rcases List.mem_append.mp member with above | rest
  · exact (cursor (cursor_of_mem_plainRows above)).elim
  · rcases List.mem_cons.mp rest with here | below
    · exact here
    · exact (cursor (cursor_of_mem_plainRows below)).elim

theorem row_mem_rows (place : CursorPlace) : place.row ∈ place.rows :=
  List.mem_append_right _ List.mem_cons_self

theorem map_segment_rows (place : CursorPlace) :
    place.rows.map (·.segment) = place.lines.flatten := by
  rw [rows, List.map_append, List.map_cons, earlier, later, map_segment_plainRows,
    map_segment_plainRows]
  simp [row, lines]

theorem rows_of_above (place : CursorPlace) (segments : List (List Char)) :
    { place with above := segments :: place.above }.rows = plainRows segments ++ place.rows := by
  simp [rows, earlier, row, later, plainRows]

theorem rows_of_first (left right : List (List Char)) (before after : List Char)
    (below : List (List (List Char))) :
    (⟨[], left, before, after, right, below⟩ : CursorPlace).rows =
      plainRows left ++ ⟨before ++ after, some (Text.byteCount before)⟩ :: plainRows right ++
        plainRows below.flatten := by
  simp [rows, earlier, row, later, plainRows]

end CursorPlace

theorem rowsOfLine_of_lt {cursor offset : Nat} (ahead : cursor < offset)
    (segments : List (List Char)) : rowsOfLine cursor offset segments = plainRows segments := by
  fun_induction rowsOfLine cursor offset segments with
  | case1 => rfl
  | case2 offset segment => rw [if_neg (by omega)]; rfl
  | case3 offset segment rest more induction =>
      rw [if_neg (by omega), induction (by omega)]
      rfl

theorem rowsOfLine_of_gt {cursor offset : Nat} {segments : List (List Char)}
    (passed : offset + Text.byteCount segments.flatten < cursor) :
    rowsOfLine cursor offset segments = plainRows segments := by
  fun_induction rowsOfLine cursor offset segments with
  | case1 => rfl
  | case2 offset segment =>
      rw [List.flatten_singleton] at passed
      rw [if_neg (by omega)]
      rfl
  | case3 offset segment rest more induction =>
      rw [List.flatten_cons, Text.byteCount_append] at passed
      rw [if_neg (by omega), induction (by omega)]
      rfl

theorem rowsOfLine_cons_cons (cursor offset : Nat) (segment next : List Char)
    (more : List (List Char)) :
    rowsOfLine cursor offset (segment :: next :: more) =
      ⟨segment, if offset ≤ cursor ∧ cursor < offset + Text.byteCount segment then
        some (cursor - offset) else none⟩ ::
      rowsOfLine cursor (offset + Text.byteCount segment) (next :: more) :=
  rfl

/-- The cursor is in a line: one of its rows is parted. -/
theorem rowsOfLine_parted (offset : Nat) {segments : List (List Char)} (some : segments ≠ [])
    {front back : List Char} (parted : segments.flatten = front ++ back) :
    ∃ left before after right,
      segments = left ++ (before ++ after) :: right ∧ left.flatten ++ before = front ∧
        rowsOfLine (offset + Text.byteCount front) offset segments =
          plainRows left ++
            ⟨before ++ after, .some (Text.byteCount before)⟩ :: plainRows right := by
  induction segments generalizing offset front with
  | nil => contradiction
  | cons segment rest induction =>
      rw [List.flatten_cons] at parted
      cases rest with
      | nil =>
          rw [List.flatten_nil, List.append_nil] at parted
          subst parted
          refine ⟨[], front, back, [], rfl, rfl, ?_⟩
          rw [rowsOfLine, if_pos (by rw [Text.byteCount_append]; omega), Nat.add_sub_cancel_left]
          rfl
      | cons next more =>
          by_cases passed : segment <+: front
          · obtain ⟨later, rfl⟩ := passed
            rw [List.append_assoc] at parted
            obtain ⟨left, before, after, right, divided, joined, rows⟩ :=
              induction (offset + Text.byteCount segment) (List.cons_ne_nil _ _)
                (List.append_cancel_left parted)
            refine ⟨segment :: left, before, after, right, ?_, ?_, ?_⟩
            · rw [divided, List.cons_append]
            · rw [List.flatten_cons, List.append_assoc, joined]
            · rw [rowsOfLine_cons_cons, if_neg (by rw [Text.byteCount_append]; omega),
                Text.byteCount_append, ← Nat.add_assoc, rows]
              rfl
          · -- The row ends after the cursor, so it is not the next one that holds it.
            obtain ⟨inner, whole⟩ : front <+: segment :=
              (List.prefix_or_prefix_of_prefix ⟨_, parted⟩ ⟨_, rfl⟩).resolve_left passed
            subst whole
            have positive : 0 < Text.byteCount inner := by
              cases inner with
              | nil => exact (passed ⟨[], by rw [List.append_nil, List.append_nil]⟩).elim
              | cons c inner =>
                  rw [Text.byteCount_cons]
                  exact Nat.add_pos_left c.utf8Size_pos _
            refine ⟨[], front, inner, next :: more, rfl, rfl, ?_⟩
            rw [rowsOfLine_cons_cons, if_pos (by rw [Text.byteCount_append]; omega),
              rowsOfLine_of_lt (by rw [Text.byteCount_append]; omega), Nat.add_sub_cancel_left]
            rfl

theorem rowsFrom_of_lt {cursor offset : Nat} (ahead : cursor < offset) (width : Nat)
    (lines : List (List Char)) :
    rowsFrom cursor width offset lines = plainRows (lines.map (wrapLine width)).flatten := by
  induction lines generalizing offset with
  | nil => rfl
  | cons line lines induction =>
      rw [rowsFrom, rowsOfLine_of_lt ahead, induction (by omega), List.map_cons,
        List.flatten_cons, plainRows, plainRows, plainRows, List.map_append]

theorem textOf_cons {segments : List (List Char)} {lines : List (List (List Char))}
    (some : lines ≠ []) :
    textOf (segments :: lines) = segments.flatten ++ '\n' :: textOf lines := by
  cases lines with
  | nil => contradiction
  | cons next lines => exact Text.joinLines_cons_cons _ _ _

theorem mem_textOf {lines : List (List (List Char))} {segments : List (List Char)}
    (line : segments ∈ lines) {c : Char} (inside : c ∈ segments.flatten) : c ∈ textOf lines := by
  induction lines with
  | nil => contradiction
  | cons first rest induction =>
      cases rest with
      | nil =>
          rw [List.mem_singleton.mp line] at inside
          rwa [textOf, List.map_singleton, Text.joinLines, List.intercalate_singleton]
      | cons next rest =>
          rw [textOf_cons (List.cons_ne_nil _ _), List.mem_append]
          rcases List.mem_cons.mp line with rfl | later
          · exact Or.inl inside
          · exact Or.inr (List.mem_cons_of_mem _ (induction later))

theorem textOf_wrapLine (width : Nat) (lines : List (List Char)) :
    textOf (lines.map (wrapLine width)) = Text.joinLines lines := by
  have whole : List.flatten ∘ wrapLine width = id := funext (flatten_wrapLine width)
  rw [textOf, List.map_map, whole, List.map_id]

/-- The cursor is in one of several lines. -/
theorem rowsFrom_parted (width offset : Nat) {lines : List (List Char)} (some : lines ≠ [])
    {front back : List Char} (parted : Text.joinLines lines = front ++ back) :
    ∃ place : CursorPlace, place.lines = lines.map (wrapLine width) ∧
      place.textBefore ++ place.before = front ∧
      rowsFrom (offset + Text.byteCount front) width offset lines = place.rows := by
  induction lines generalizing offset front with
  | nil => contradiction
  | cons line rest induction =>
      rcases Text.joinLines_parted parted with ⟨inner, rfl⟩ | ⟨later, more, rfl, follows⟩
      · obtain ⟨left, before, after, right, divided, joined, rows⟩ :=
          rowsOfLine_parted offset (wrapLine_ne_nil width (front ++ inner))
            (flatten_wrapLine width (front ++ inner))
        refine ⟨⟨[], left, before, after, right, rest.map (wrapLine width)⟩, ?_, ?_, ?_⟩
        · rw [List.map_cons, divided]
          rfl
        · rw [← joined]
          simp [CursorPlace.textBefore, textOf, Text.joinLines]
        · rw [rowsFrom, rows, rowsFrom_of_lt (by rw [Text.byteCount_append]; omega),
            CursorPlace.rows_of_first]
      · obtain ⟨place, divided, joined, rows⟩ :=
          induction (offset + Text.byteCount line + 1) more follows
        have feed : Char.utf8Size '\n' = 1 := by decide
        have cursor : offset + Text.byteCount (line ++ '\n' :: later) =
            offset + Text.byteCount line + 1 + Text.byteCount later := by
          rw [Text.byteCount_append, Text.byteCount_cons, feed]
          omega
        refine ⟨{ place with above := wrapLine width line :: place.above }, ?_, ?_, ?_⟩
        · rw [List.map_cons, ← divided]
          rfl
        · rw [← joined, CursorPlace.textBefore, List.cons_append,
            textOf_cons (List.concat_ne_nil _ _), flatten_wrapLine, List.append_assoc]
          rfl
        · rw [rowsFrom, cursor, rows, rowsOfLine_of_gt (by rw [flatten_wrapLine]; omega),
            CursorPlace.rows_of_above]

/-! ## The rows of a text -/

/-- The rows of a text that is parted at its cursor: its lines are divided into them, and the
cursor is in one of them. -/
structure RowsAround (width : Nat) (front back : List Char) (place : CursorPlace) : Prop where
  divided : place.lines = (Text.splitAtFeeds (front ++ back)).map (wrapLine width)
  cursor : place.textBefore ++ place.before = front
  rows : visualRows width (Text.byteCount front) (front ++ back) = place.rows

theorem exists_rowsAround (width : Nat) (front back : List Char) :
    ∃ place, RowsAround width front back place := by
  obtain ⟨place, divided, cursor, rows⟩ :=
    rowsFrom_parted width 0 (Text.splitAtFeeds_ne_nil (front ++ back))
      (Text.joinLines_splitAtFeeds (front ++ back))
  refine ⟨place, divided, cursor, ?_⟩
  rw [visualRows, ← rows, Nat.zero_add]

namespace RowsAround

variable {width : Nat} {front back : List Char} {place : CursorPlace}
  (around : RowsAround width front back place)

include around

theorem textOf_lines : textOf place.lines = front ++ back := by
  rw [around.divided, textOf_wrapLine, Text.joinLines_splitAtFeeds]

/-- The rows of a line are those of a piece between line feeds. -/
theorem exists_line {segments : List (List Char)} (member : segments ∈ place.lines) :
    ∃ line, '\n' ∉ line ∧ segments = wrapLine width line := by
  rw [around.divided] at member
  obtain ⟨line, piece, rfl⟩ := List.mem_map.mp member
  exact ⟨line, Text.not_mem_of_mem_splitAtFeeds piece, rfl⟩

theorem lines_unended :
    ∀ segments ∈ place.lines, segments ≠ [] ∧ '\n' ∉ segments.flatten := by
  intro segments member
  obtain ⟨line, unended, rfl⟩ := around.exists_line member
  rw [flatten_wrapLine]
  exact ⟨wrapLine_ne_nil width line, unended⟩

theorem byteCount_segment_le (wide : 4 ≤ width) {row : Row} (member : row ∈ place.rows) :
    Text.byteCount row.segment ≤ width := by
  have segment := List.mem_map_of_mem (f := Row.segment) member
  rw [place.map_segment_rows] at segment
  obtain ⟨segments, line, inside⟩ := List.mem_flatten.mp segment
  obtain ⟨_, _, rfl⟩ := around.exists_line line
  exact byteCount_le_of_mem_wrapLine wide inside

/-- The rows hold the characters of the text, without its line feeds. -/
theorem mem_of_mem_segment {row : Row} (member : row ∈ place.rows) {c : Char}
    (inside : c ∈ row.segment) : c ∈ front ++ back ∧ c ≠ '\n' := by
  have segment := List.mem_map_of_mem (f := Row.segment) member
  rw [place.map_segment_rows] at segment
  obtain ⟨segments, line, segmentInside⟩ := List.mem_flatten.mp segment
  have written := List.mem_flatten_of_mem segmentInside inside
  rw [← around.textOf_lines]
  exact ⟨mem_textOf line written, fun same =>
    (around.lines_unended segments line).right (same ▸ written)⟩

end RowsAround

theorem cursorRow_rows (place : CursorPlace) : cursorRow place.rows = place.earlier.length := by
  have noCursor : place.earlier.findIdx? (·.cursor.isSome) = none := by
    rw [List.findIdx?_eq_none_iff]
    intro row member
    rw [cursor_of_mem_plainRows member]
    rfl
  have here : (place.row :: place.later).findIdx? (·.cursor.isSome) = some 0 := by
    rw [List.findIdx?_cons, if_pos (by rfl)]
  rw [cursorRow, CursorPlace.rows, List.findIdx?_append, noCursor, here, Option.none_or,
    Option.map_some, Option.getD_some, Nat.zero_add]

end Wrap

end DocsConsole
