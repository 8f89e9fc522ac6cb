import DocsConsole.Terminal.Area
import DocsConsole.Terminal.Style
import DocsConsole.Unicode.Space
import DocsConsole.Unicode.Width

/-!
# Drawings

A drawing is a list of strokes.  What a cell shows is what the strokes make of an
empty cell, one after the other, so a later stroke covers an earlier one.
-/

namespace DocsConsole.Terminal

structure Cell where
  /-- What is shown.  A wide text also covers the next cell. -/
  symbol : String
  style : Style
deriving DecidableEq, Repr, Inhabited

namespace Cell

def blank : Cell := ⟨" ", .plain⟩

/-- A cell with a style over its own. -/
def restyled (cell : Cell) (style : Style) : Cell :=
  { cell with style := style.atop cell.style }

/-- A cell that shows something else, with a style over its own. -/
def showing (cell : Cell) (symbol : String) (style : Style) : Cell :=
  ⟨symbol, style.atop cell.style⟩

end Cell

/-- What is written to a cell. -/
inductive Mark where
  /-- Shows a text. -/
  | put (symbol : String) (style : Style)
  /-- Empties the cell. -/
  | erase
  /-- Leaves the cell as it is. -/
  | keep
deriving DecidableEq, Repr, Inhabited

/-- What a mark makes of a cell. -/
def Mark.apply : Mark → Cell → Cell
  | put symbol style, cell => cell.showing symbol style
  | erase, _ => .blank
  | keep, cell => cell

/-- A step of a drawing. -/
inductive Stroke where
  /-- Draws an area in a style. -/
  | restyle (area : Area) (style : Style)
  /-- Empties an area. -/
  | erase (area : Area)
  /-- Shows a text in every cell of an area. -/
  | fill (area : Area) (symbol : String) (style : Style)
  /-- Writes marks from a cell on to the right. -/
  | write (column row : Nat) (marks : List Mark)
deriving DecidableEq, Repr, Inhabited

namespace Stroke

/-- What a stroke makes of a cell at a place. -/
def apply (column row : Nat) (cell : Cell) : Stroke → Cell
  | restyle area style => if area.holds column row then cell.restyled style else cell
  | erase area => if area.holds column row then .blank else cell
  | fill area symbol style => if area.holds column row then cell.showing symbol style else cell
  | write first line marks =>
      if line = row ∧ first ≤ column then
        match marks[column - first]? with
        | some mark => mark.apply cell
        | none => cell
      else cell

def reaches (row : Nat) : Stroke → Bool
  | restyle area _ => area.reaches row
  | erase area => area.reaches row
  | fill area _ _ => area.reaches row
  | write _ line _ => line = row

theorem apply_of_not_reaches (column row : Nat) (cell : Cell) (stroke : Stroke)
    (passes : stroke.reaches row = false) : stroke.apply column row cell = cell := by
  cases stroke with
  | restyle area style => simp [apply, Area.holds_of_not_reaches passes]
  | erase area => simp [apply, Area.holds_of_not_reaches passes]
  | fill area symbol style => simp [apply, Area.holds_of_not_reaches passes]
  | write first line marks =>
      have other : ¬line = row := by simpa [reaches] using passes
      simp [apply, other]

end Stroke

abbrev Drawing := List Stroke

namespace Drawing

/-- What a drawing shows in a cell. -/
def cellAt (drawing : Drawing) (column row : Nat) : Cell :=
  drawing.foldl (fun cell stroke => stroke.apply column row cell) .blank

/-- The strokes of a drawing that can reach a row. -/
def through (drawing : Drawing) (row : Nat) : Drawing :=
  drawing.filter (·.reaches row)

/-- Strokes that pass a row by do not change what it shows. -/
theorem cellAt_through (drawing : Drawing) (column row : Nat) :
    (drawing.through row).cellAt column row = drawing.cellAt column row := by
  suffices ∀ cell : Cell,
      (drawing.through row).foldl (fun cell stroke => stroke.apply column row cell) cell =
        drawing.foldl (fun cell stroke => stroke.apply column row cell) cell from this .blank
  induction drawing with
  | nil => intro cell; rfl
  | cons stroke rest ih =>
      intro cell
      cases reached : stroke.reaches row with
      | true =>
          simp only [through, List.filter_cons, reached, if_true, List.foldl_cons]
          exact ih _
      | false =>
          simp only [through, List.filter_cons, reached, List.foldl_cons,
            Stroke.apply_of_not_reaches column row cell stroke reached]
          exact ih _

def rowAt (drawing : Drawing) (width row : Nat) : List Cell :=
  let reaching := drawing.through row
  (List.range width).map fun column => reaching.cellAt column row

/-- The cells of all rows of a size. -/
def grid (drawing : Drawing) (width height : Nat) : List (List Cell) :=
  (List.range height).map (drawing.rowAt width)

end Drawing

/-- The texts of a row of cells of which some are covered by what stands before them. -/
def shownFrom : Nat → List Cell → List String
  | _, [] => []
  | covered + 1, _ :: rest => shownFrom covered rest
  | 0, cell :: rest =>
      cell.symbol :: shownFrom (Unicode.textWidth cell.symbol.toList - 1) rest

/-- The text of a row, without the spaces at its end. -/
def rowText (cells : List Cell) : String :=
  String.ofList (Unicode.dropEndWhile (· = ' ') (String.join (shownFrom 0 cells)).toList)

end DocsConsole.Terminal
