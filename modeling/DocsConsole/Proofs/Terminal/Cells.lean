import DocsConsole.Proofs.Unicode.Narrow
import DocsConsole.Terminal.Frame
import DocsConsole.Terminal.Paragraph

/-!
# The cells that text is drawn to

A narrow character has a cell of its own.  A line of such characters is drawn to the cells from the
first column on, as far as the area goes.  A frame leaves the cells inside alone.
-/

namespace DocsConsole

namespace Terminal

/-! ## Glyphs of narrow characters -/

def Glyph.ofChar (styled : Char × Style) : Glyph :=
  ⟨[styled.1], 1, styled.2⟩

namespace Line

/-- The characters of a line, each with its style. -/
def characters (line : Line) : List (Char × Style) :=
  line.flatMap fun span => span.text.toList.map (·, span.style)

/-- All characters of a line are narrow. -/
def Narrow (line : Line) : Prop :=
  ∀ span ∈ line, ∀ c ∈ span.text.toList, Unicode.Narrow c

end Line

/-- Characters that never join others are drawn one by one. -/
theorem Glyph.ofSpan_of_other {span : Span}
    (others : ∀ c ∈ span.text.toList, Unicode.BreakClass.ofChar c = .other) :
    ofSpan span = span.text.toList.map fun c => ⟨[c], Unicode.charWidth c, span.style⟩ := by
  have kept : ∀ cluster ∈ span.text.toList.map ([·]), cluster ≠ ['\n'] := by
    intro cluster member same
    obtain ⟨c, inside, rfl⟩ := List.mem_map.mp member
    exact Unicode.ne_feed_of_other (others c inside) (List.singleton_inj.mp same)
  rw [ofSpan, Unicode.clusters_of_other others,
    List.filter_eq_self.mpr fun cluster member => decide_eq_true (kept cluster member),
    List.map_map]
  apply List.map_congr_left
  intro c inside
  rw [Function.comp_apply, ofCluster, Unicode.clusterWidth_singleton]

theorem Glyph.ofSpan_of_narrow {span : Span} (narrow : ∀ c ∈ span.text.toList, Unicode.Narrow c) :
    ofSpan span = (span.text.toList.map (·, span.style)).map ofChar := by
  rw [ofSpan_of_other fun c inside => (narrow c inside).class_eq, List.map_map]
  apply List.map_congr_left
  intro c inside
  rw [(narrow c inside).charWidth_eq]
  rfl

theorem Glyph.ofLine_of_narrow {line : Line} (narrow : line.Narrow) :
    ofLine line = line.characters.map ofChar := by
  rw [ofLine, Line.characters, List.map_flatMap, List.flatMap_def, List.flatMap_def,
    List.map_congr_left fun span member => ofSpan_of_narrow (narrow span member)]

theorem Glyph.fitting_of_narrow (width : Nat) (characters : List (Char × Style)) :
    fitting width (characters.map ofChar) = (characters.take width).map ofChar := by
  induction characters generalizing width with
  | nil => rw [List.take_nil]; rfl
  | cons styled rest induction =>
      cases width with
      | zero => rfl
      | succ width =>
          have fits : (ofChar styled).width ≤ width + 1 := Nat.le_add_left 1 width
          rw [List.map_cons, fitting, if_pos fits, List.take_succ_cons, List.map_cons, ← induction]
          rfl

theorem Wrapping.cut_of_narrow {line : Line} (narrow : line.Narrow) {width : Nat}
    (wide : 0 < width) :
    Wrapping.cut.rows width line = [(line.characters.take width).map Glyph.ofChar] := by
  have fits : ∀ glyph ∈ line.characters.map Glyph.ofChar, decide (glyph.width ≤ width) = true := by
    intro glyph member
    obtain ⟨styled, _, rfl⟩ := List.mem_map.mp member
    exact decide_eq_true wide
  rw [rows, Glyph.ofLine_of_narrow narrow, List.filter_eq_self.mpr fits]
  exact congrArg ([·]) (Glyph.fitting_of_narrow width line.characters)

theorem Glyph.marks_of_narrow (covered : Mark) (characters : List (Char × Style)) :
    (characters.map ofChar).flatMap (marks covered) =
      characters.map fun styled => .put (String.singleton styled.1) styled.2 := by
  induction characters with
  | nil => rfl
  | cons styled rest induction =>
      rw [List.map_cons, List.flatMap_cons, induction]
      rfl

/-! ## Cells -/

theorem Area.holds_iff {area : Area} {column row : Nat} :
    area.holds column row = true ↔
      (area.column ≤ column ∧ column < area.column + area.width) ∧
        area.row ≤ row ∧ row < area.row + area.height := by
  simp only [holds, reaches, Bool.and_eq_true, decide_eq_true_eq]

namespace Drawing

/-- What a drawing makes of a cell that shows something. -/
def drawnOver (drawing : Drawing) (column row : Nat) (cell : Cell) : Cell :=
  drawing.foldl (fun cell stroke => stroke.apply column row cell) cell

theorem cellAt_append (first second : Drawing) (column row : Nat) :
    (first ++ second).cellAt column row = second.drawnOver column row (first.cellAt column row) :=
  List.foldl_append

theorem drawnOver_of_unchanged {drawing : Drawing} {column row : Nat} {cell : Cell}
    (unchanged : ∀ stroke ∈ drawing, stroke.apply column row cell = cell) :
    drawing.drawnOver column row cell = cell := by
  induction drawing with
  | nil => rfl
  | cons stroke rest induction =>
      rw [drawnOver, List.foldl_cons, unchanged stroke List.mem_cons_self]
      exact induction fun other member => unchanged other (List.mem_cons_of_mem stroke member)

end Drawing

theorem Stroke.apply_write_of_ne {line row : Nat} (other : line ≠ row) (first column : Nat)
    (marks : List Mark) (cell : Cell) : (write first line marks).apply column row cell = cell := by
  rw [apply, if_neg fun here => other here.left]

namespace Paragraph

theorem drawnOver_drawRows_of_lt {line row : Nat} (above : row < line) (first column : Nat)
    (rows : List (List Glyph)) (cell : Cell) :
    (drawRows first line rows).drawnOver column row cell = cell := by
  induction rows generalizing line cell with
  | nil => rfl
  | cons glyphs rest induction =>
      rw [drawRows, Drawing.drawnOver, List.foldl_cons, Stroke.apply_write_of_ne (by omega)]
      exact induction (by omega) cell

/-- Of the rows that are drawn one below the other only one reaches a cell. -/
theorem drawnOver_drawRows (first line column place : Nat) (rows : List (List Glyph))
    (cell : Cell) :
    (drawRows first line rows).drawnOver column (line + place) cell =
      match rows[place]? with
      | some glyphs =>
          (Stroke.write first (line + place) (glyphs.flatMap (Glyph.marks .keep))).apply column
            (line + place) cell
      | none => cell := by
  induction rows generalizing line place with
  | nil => rfl
  | cons glyphs rest induction =>
      rw [drawRows, Drawing.drawnOver, List.foldl_cons]
      cases place with
      | zero => exact drawnOver_drawRows_of_lt (Nat.lt_succ_self line) first column rest _
      | succ place =>
          rw [Stroke.apply_write_of_ne (by omega), List.getElem?_cons_succ]
          have later := induction (line + 1) place
          rw [Nat.add_right_comm] at later
          exact later

/-- What lines of narrow characters make of a cell in their area. -/
theorem drawnOver_draw_of_narrow {lines : List Line} (narrow : ∀ line ∈ lines, line.Narrow)
    {area : Area} {column row : Nat} (across : column < area.width) (down : row < area.height) (cell : Cell) :
    ((ofLines lines).draw area).drawnOver (area.column + column) (area.row + row) cell =
      match lines[row]?.bind (·.characters[column]?) with
      | some styled => cell.showing (String.singleton styled.1) styled.2
      | none => cell := by
  have room : area.isEmpty = false := by
    rw [Area.isEmpty, Bool.or_eq_false_iff]
    exact ⟨decide_eq_false (by omega), decide_eq_false (by omega)⟩
  have rows : (ofLines lines).rows area.width =
      lines.map fun line => (line.characters.take area.width).map Glyph.ofChar := by
    rw [Paragraph.rows, ofLines, List.flatMap_def, List.map_congr_left fun line member =>
      Wrapping.cut_of_narrow (narrow line member) (Nat.zero_lt_of_lt across), ← List.flatMap_def]
    exact List.map_eq_flatMap.symm
  have seen : ((ofLines lines).seen area)[row]? =
      lines[row]?.map fun line => (line.characters.take area.width).map Glyph.ofChar := by
    rw [Paragraph.seen, rows, List.getElem?_take_of_lt down, ← List.getElem?_map]
    rfl
  rw [draw, room, if_neg Bool.false_ne_true, drawnOver_drawRows, seen]
  cases lines[row]? with
  | none => rfl
  | some line =>
      have mark : ((line.characters.take area.width).map fun styled =>
          Mark.put (String.singleton styled.1) styled.2)[column]? =
            line.characters[column]?.map fun styled =>
              Mark.put (String.singleton styled.1) styled.2 := by
        rw [List.getElem?_map, List.getElem?_take_of_lt across]
      simp only [Option.map_some, Option.bind_some, Stroke.apply, Glyph.marks_of_narrow,
        Nat.add_sub_cancel_left, mark, Nat.le_add_right, and_self, if_true]
      cases line.characters[column]? with
      | none => rfl
      | some styled => rfl

end Paragraph

/-! ## Frames -/

namespace Frame

/-- The title is drawn to the topmost row. -/
theorem apply_drawTitle_of_ne {frame : Frame} {area : Area} {row : Nat} (below : row ≠ area.row)
    {stroke : Stroke} (member : stroke ∈ frame.drawTitle area) (column : Nat) (cell : Cell) :
    stroke.apply column row cell = cell := by
  have passes : stroke.reaches row = false := by
    simp only [drawTitle] at member
    split at member
    case isTrue => contradiction
    case isFalse =>
      rcases List.mem_cons.mp member with rfl | written
      · rw [Stroke.reaches, Area.reaches, Bool.and_eq_false_iff, decide_eq_false_iff_not,
          decide_eq_false_iff_not]
        dsimp only
        omega
      · unfold Line.draw at written
        split at written
        case isTrue => contradiction
        case isFalse =>
          rw [List.mem_singleton.mp written, Stroke.reaches]
          exact decide_eq_false (Ne.symm below)
  exact Stroke.apply_of_not_reaches column row cell stroke passes

/-- A frame draws nothing to the cells inside. -/
theorem cellAt_draw_of_inside {area : Area} {column row : Nat}
    (held : (inside area).holds column row = true) (frame : Frame) :
    (frame.draw area).cellAt column row = .blank := by
  obtain ⟨⟨fromColumn, toColumn⟩, fromRow, toRow⟩ := Area.holds_iff.mp held
  simp only [inside] at fromColumn toColumn fromRow toRow
  have unfilled : ∀ side ∈ [leftSide area, upperSide area, rightSide area, lowerSide area,
      rightSide (lowerSide area), rightSide (upperSide area), leftSide (lowerSide area),
      leftSide (upperSide area)], ∀ symbol style,
        (Stroke.fill side symbol style).apply column row .blank = .blank := by
    intro side member symbol style
    have beside : ¬side.holds column row = true := by
      rw [Area.holds_iff]
      simp only [List.mem_cons, List.not_mem_nil, or_false] at member
      rcases member with rfl | rfl | rfl | rfl | rfl | rfl | rfl | rfl <;>
        simp only [leftSide, rightSide, upperSide, lowerSide] <;> omega
    rw [Stroke.apply, if_neg beside]
  apply Drawing.drawnOver_of_unchanged
  intro stroke member
  unfold draw at member
  split at member
  case isTrue => contradiction
  case isFalse =>
    rcases List.mem_append.mp member with side | title
    · simp only [List.mem_cons, List.not_mem_nil, or_false] at side
      rcases side with rfl | rfl | rfl | rfl | rfl | rfl | rfl | rfl <;>
        exact unfilled _ (by simp) _ _
    · exact apply_drawTitle_of_ne (by omega) title column .blank

end Frame

end Terminal

end DocsConsole
