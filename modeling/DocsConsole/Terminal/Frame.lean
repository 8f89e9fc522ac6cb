import DocsConsole.Terminal.Glyph

/-!
# Frames

A frame is drawn along the edge of an area, and the title stands in its upper
side.  What the frame leaves free is the inside of the area.
-/

namespace DocsConsole.Terminal

/-- A frame around an area. -/
structure Frame where
  title : String
  titleStyle : Style
  lineStyle : Style
deriving DecidableEq, Repr, Inhabited

namespace Frame

def untitled (lineStyle : Style) : Frame :=
  ⟨"", .plain, lineStyle⟩

/-- The area that a frame leaves free. -/
def inside (area : Area) : Area :=
  ⟨min (area.column + 1) (area.column + area.width), min (area.row + 1) (area.row + area.height),
    area.width - 2, area.height - 2⟩

/-- The area that a frame without upper side leaves free. -/
def insideOpen (area : Area) : Area :=
  ⟨min (area.column + 1) (area.column + area.width), area.row, area.width - 2, area.height - 1⟩

/-- The leftmost column of an area. -/
def leftSide (area : Area) : Area := { area with width := 1 }

/-- The rightmost column of an area. -/
def rightSide (area : Area) : Area :=
  { area with column := area.column + area.width - 1, width := 1 }

/-- The topmost row of an area. -/
def upperSide (area : Area) : Area := { area with height := 1 }

/-- The lowest row of an area. -/
def lowerSide (area : Area) : Area :=
  { area with row := area.row + area.height - 1, height := 1 }

/-- The title, as far as there is room for it. -/
def drawTitle (frame : Frame) (area : Area) : Drawing :=
  let line := Line.styled .plain frame.title
  let room := min line.columns (area.width - 2)
  let place : Area := ⟨area.column + 1, area.row, room, 1⟩
  if room = 0 then [] else .restyle place frame.titleStyle :: line.draw place

def draw (frame : Frame) (area : Area) : Drawing :=
  if area.isEmpty then []
  else
    [.fill (leftSide area) "│" frame.lineStyle, .fill (upperSide area) "─" frame.lineStyle,
      .fill (rightSide area) "│" frame.lineStyle, .fill (lowerSide area) "─" frame.lineStyle,
      .fill (rightSide (lowerSide area)) "┘" frame.lineStyle,
      .fill (rightSide (upperSide area)) "┐" frame.lineStyle,
      .fill (leftSide (lowerSide area)) "└" frame.lineStyle,
      .fill (leftSide (upperSide area)) "┌" frame.lineStyle] ++ frame.drawTitle area

/-- Draws a frame without upper side and without title. -/
def drawOpen (lineStyle : Style) (area : Area) : Drawing :=
  if area.isEmpty then []
  else
    [.fill (leftSide area) "│" lineStyle, .fill (rightSide area) "│" lineStyle,
      .fill (lowerSide area) "─" lineStyle, .fill (rightSide (lowerSide area)) "┘" lineStyle,
      .fill (leftSide (lowerSide area)) "└" lineStyle]

end Frame

/-- A row of a list, with a style for the whole row. -/
structure ListRow where
  line : Line
  style : Style
deriving DecidableEq, Repr, Inhabited

namespace ListRow

/-- Draws the rows of a list one below the other, as far as there is room. -/
def draw (rows : List ListRow) (area : Area) : Drawing :=
  ((rows.take area.height).zipIdx).flatMap fun (row, place) =>
    let position : Area := ⟨area.column, area.row + place, area.width, 1⟩
    if position.isEmpty then [] else .restyle position row.style :: row.line.draw position

end ListRow

end DocsConsole.Terminal
