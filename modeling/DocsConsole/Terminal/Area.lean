/-!
# Areas

An area is a rectangle of cells of the terminal.  Columns are counted from the
left and rows from the top.
-/

namespace DocsConsole.Terminal

/-- A rectangle of cells. -/
structure Area where
  column : Nat
  row : Nat
  width : Nat
  height : Nat
deriving DecidableEq, Repr, Inhabited

namespace Area

/-- Whether a row passes through an area. -/
def reaches (area : Area) (row : Nat) : Bool :=
  area.row ≤ row && row < area.row + area.height

/-- Whether a cell lies in an area. -/
def holds (area : Area) (column row : Nat) : Bool :=
  area.column ≤ column && column < area.column + area.width && area.reaches row

theorem holds_of_not_reaches {area : Area} {row : Nat} (passes : area.reaches row = false)
    (column : Nat) : area.holds column row = false := by
  simp [holds, passes]

def isEmpty (area : Area) : Bool :=
  area.width = 0 || area.height = 0

/-- The areas of some heights that follow each other from the top. -/
def stack (area : Area) : List Nat → List Area
  | [] => []
  | height :: rest =>
      { area with height := height } ::
        stack { area with row := area.row + height, height := area.height - height } rest

/-- The part of an area to the left of a number of columns, and the rest. -/
def splitAt (area : Area) (width : Nat) : Area × Area :=
  ({ area with width := width },
    { area with column := area.column + width, width := area.width - width })

/-- The nearest whole number of columns to a share of an area in percent.  A half goes up. -/
def share (area : Area) (percent : Nat) : Nat :=
  (area.width * percent + 50) / 100

/-- The beginning of a length in the middle of another one.  A half goes up. -/
def middle (inner outer : Nat) : Nat :=
  (outer - inner + 1) / 2

/-- The area of a size in the middle of another area, as far as there is room. -/
def centered (area : Area) (width height : Nat) : Area :=
  let width := min width area.width
  let height := min height area.height
  ⟨area.column + middle width area.width, area.row + middle height area.height, width, height⟩

end Area

end DocsConsole.Terminal
