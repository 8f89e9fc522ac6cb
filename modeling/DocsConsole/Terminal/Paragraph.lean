import DocsConsole.Terminal.Glyph

/-!
# Paragraphs

The lines of a paragraph are drawn one below the other.  A line that is too wide
is cut off, or wrapped: it goes on in the next row with the word that does not
fit.
-/

namespace DocsConsole.Terminal

/-- What becomes of lines that are too wide. -/
inductive Wrapping where
  /-- They are cut off. -/
  | cut
  /-- They are wrapped, and rows keep the blanks that they begin with. -/
  | keepBlanks
  /-- They are wrapped, and rows lose the blanks that they begin with. -/
  | trimBlanks
deriving DecidableEq, Repr, Inhabited

/-- The state of wrapping a line. -/
structure Wrapper where
  /-- The finished rows, last one first. -/
  rows : List (List Glyph)
  /-- The row that is filled. -/
  row : List Glyph
  /-- Blanks after that row. -/
  blanks : List Glyph
  /-- The word after those blanks. -/
  word : List Glyph
  /-- Whether the last glyph belongs to a word. -/
  inWord : Bool
deriving Repr

namespace Wrapper

/-- Nothing is read. -/
def start : Wrapper := ⟨[], [], [], [], false⟩

/-- The row with the blanks and the word after it.  A row that is to lose its first blanks does
not take blanks before anything else. -/
def filled (trims : Bool) (state : Wrapper) : List Glyph :=
  (if state.row.isEmpty && trims then [] else state.row ++ state.blanks) ++ state.word

/-- Takes the blanks and the word into the row. -/
def commit (trims : Bool) (state : Wrapper) : Wrapper :=
  { state with row := state.filled trims, blanks := [], word := [] }

/-- Whether what is read of a row that is still empty overflows it with a further glyph. -/
def overflows (trims : Bool) (width : Nat) (state : Wrapper) (glyph : Glyph) : Bool :=
  let blanks := Glyph.totalWidth state.blanks
  let word := Glyph.totalWidth state.word
  state.row.isEmpty &&
    if trims then width < word + glyph.width || width < blanks + glyph.width
    else width < word + blanks + glyph.width

/-- Whether the row has to end before a further glyph. -/
def isFull (width : Nat) (state : Wrapper) (glyph : Glyph) : Bool :=
  let row := Glyph.totalWidth state.row
  width ≤ row ||
    (glyph.width ≠ 0 &&
      width ≤ row + Glyph.totalWidth state.blanks + Glyph.totalWidth state.word)

/-- Some glyphs without those at the beginning that fit a width. -/
def withoutFitting : Nat → List Glyph → List Glyph
  | _, [] => []
  | width, glyph :: rest =>
      if glyph.width ≤ width then withoutFitting (width - glyph.width) rest else glyph :: rest

/-- Ends the row.  Blanks that fit into it are not seen. -/
def breakRow (width : Nat) (state : Wrapper) : Wrapper :=
  { state with
    rows := state.row :: state.rows, row := [],
    blanks := withoutFitting (width - Glyph.totalWidth state.row) state.blanks }

def push (state : Wrapper) (glyph : Glyph) : Wrapper :=
  if glyph.isBlank then
    { state with blanks := state.blanks ++ [glyph], inWord := false }
  else { state with word := state.word ++ [glyph], inWord := true }

/-- Reads a glyph that is not wider than a row. -/
def read (trims : Bool) (width : Nat) (state : Wrapper) (glyph : Glyph) : Wrapper :=
  let ready :=
    if (state.inWord && glyph.isBlank) || state.overflows trims width glyph then
      state.commit trims
    else state
  if ready.isFull width glyph then
    let broken := ready.breakRow width
    if glyph.isBlank && broken.blanks.isEmpty then broken else broken.push glyph
  else ready.push glyph

/-- The rows of a line that has been read. -/
def finish (trims : Bool) (state : Wrapper) : List (List Glyph) :=
  let blankRow :=
    if state.row.isEmpty && state.word.isEmpty && !state.blanks.isEmpty then [[]] else []
  let lastRow := if (state.filled trims).isEmpty then [] else [state.filled trims]
  let rows := state.rows.reverse ++ blankRow ++ lastRow
  if rows.isEmpty then [[]] else rows

end Wrapper

namespace Wrapping

/-- The rows of a line.  Glyphs that are wider than a row are left out. -/
def rows (wrapping : Wrapping) (width : Nat) (line : Line) : List (List Glyph) :=
  let glyphs := (Glyph.ofLine line).filter (·.width ≤ width)
  match wrapping with
  | cut => [Glyph.fitting width glyphs]
  | keepBlanks => (glyphs.foldl (Wrapper.read false width) .start).finish false
  | trimBlanks => (glyphs.foldl (Wrapper.read true width) .start).finish true

end Wrapping

/-- Lines that are drawn one below the other. -/
structure Paragraph where
  lines : List Line
  wrapping : Wrapping
  /-- The number of rows that are scrolled out of sight. -/
  scrolled : Nat
deriving Repr, Inhabited

namespace Paragraph

/-- A paragraph whose lines are cut off. -/
def ofLines (lines : List Line) : Paragraph :=
  ⟨lines, .cut, 0⟩

def rows (paragraph : Paragraph) (width : Nat) : List (List Glyph) :=
  paragraph.lines.flatMap (paragraph.wrapping.rows width)

/-- The rows that are seen in an area. -/
def seen (paragraph : Paragraph) (area : Area) : List (List Glyph) :=
  ((paragraph.rows area.width).drop paragraph.scrolled).take area.height

/-- Draws rows of glyphs from a row on. -/
def drawRows (column : Nat) : Nat → List (List Glyph) → Drawing
  | _, [] => []
  | row, glyphs :: rest =>
      .write column row (glyphs.flatMap (Glyph.marks .keep)) :: drawRows column (row + 1) rest

def draw (paragraph : Paragraph) (area : Area) : Drawing :=
  if area.isEmpty then [] else drawRows area.column area.row (paragraph.seen area)

end Paragraph

end DocsConsole.Terminal
