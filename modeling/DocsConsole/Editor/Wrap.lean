import DocsConsole.Text.Bytes
import DocsConsole.Text.Lines
import DocsConsole.Unicode.Space

/-!
# Wrapped text

The text of a field that has the keyboard is shown in rows of limited width,
counted in bytes.  A row ends after a space where that does not waste too much of
it.  One of the rows holds the cursor.
-/

namespace DocsConsole.Wrap

/-- The beginning of a text up to its last space. -/
def upToLastSpace (text : List Char) : List Char :=
  Unicode.dropEndWhile (· ≠ ' ') text

/-- The first row of a text that does not fit a width: it ends after its last space if that lies
beyond a third of the width.  A character that is too wide for a row has one of its own. -/
def firstRow (width : Nat) (text : List Char) : List Char :=
  let fitting := Text.takeBytes width text
  let words := upToLastSpace fitting
  if width / 3 + 1 < Text.byteCount words then words
  else if fitting.isEmpty then text.take 1
  else fitting

theorem firstRow_ne_nil (width : Nat) (text : List Char) (nonempty : text ≠ []) :
    firstRow width text ≠ [] := by
  simp only [firstRow]
  split
  · intro empty
    simp_all
  · split <;> simp_all

/-- The rows of a text.  An empty text has one row. -/
def rows (width : Nat) (text : List Char) : List (List Char) :=
  if _fits : Text.byteCount text ≤ width then [text]
  else
    let row := firstRow width text
    let rest := text.drop row.length
    if rest.isEmpty then [row] else row :: rows width rest
termination_by text.length
decreasing_by
  have nonempty : text ≠ [] := by
    intro empty
    simp_all
  have row := List.length_pos_iff.2 (firstRow_ne_nil width text nonempty)
  have whole := List.length_pos_iff.2 nonempty
  simp only [List.length_drop]
  omega

/-- The rows of a line.  Without any width the line is left whole. -/
def wrapLine (width : Nat) (line : List Char) : List (List Char) :=
  if width = 0 then [line] else rows width line

/-- A row of a text, with the number of bytes before the cursor if it holds the cursor. -/
structure Row where
  segment : List Char
  cursor : Option Nat
deriving DecidableEq, Repr

/-- The rows of a line that begins at an offset, from its segments.  The last row holds the
cursor also at its end. -/
def rowsOfLine (cursor offset : Nat) : List (List Char) → List Row
  | [] => []
  | [segment] =>
      [⟨segment, if offset ≤ cursor ∧ cursor ≤ offset + Text.byteCount segment then
        some (cursor - offset) else none⟩]
  | segment :: rest =>
      ⟨segment, if offset ≤ cursor ∧ cursor < offset + Text.byteCount segment then
        some (cursor - offset) else none⟩ ::
      rowsOfLine cursor (offset + Text.byteCount segment) rest

/-- The rows of several lines of which the first begins at an offset. -/
def rowsFrom (cursor width offset : Nat) : List (List Char) → List Row
  | [] => []
  | line :: rest =>
      rowsOfLine cursor offset (wrapLine width line) ++
        rowsFrom cursor width (offset + Text.byteCount line + 1) rest

/-- The rows of a text with a cursor at an offset. -/
def visualRows (width cursor : Nat) (text : List Char) : List Row :=
  rowsFrom cursor width 0 (Text.splitAtFeeds text)

/-- The place of the row that holds the cursor. -/
def cursorRow (rows : List Row) : Nat :=
  (rows.findIdx? (·.cursor.isSome)).getD 0

end DocsConsole.Wrap
