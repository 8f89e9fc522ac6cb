import DocsConsole.CoreInstances

/-!
# Text in bytes

Offsets and widths of typed text are counted in bytes of its encoding.  A cut at
an offset never divides a character: it keeps the characters that lie before the
offset as a whole.
-/

namespace DocsConsole.Text

open scoped CoreInstances

/-- The number of bytes of a text. -/
def byteCount (text : List Char) : Nat :=
  (text.map Char.utf8Size).sum

/-- The longest beginning of a text with at most so many bytes. -/
def takeBytes : Nat → List Char → List Char
  | _, [] => []
  | count, c :: rest =>
      if c.utf8Size ≤ count then c :: takeBytes (count - c.utf8Size) rest else []

/-- What follows the longest beginning of a text with at most so many bytes. -/
def dropBytes : Nat → List Char → List Char
  | _, [] => []
  | count, c :: rest =>
      if c.utf8Size ≤ count then dropBytes (count - c.utf8Size) rest else c :: rest

@[simp] theorem byteCount_nil : byteCount [] = 0 := rfl

@[simp] theorem byteCount_cons (c : Char) (text : List Char) :
    byteCount (c :: text) = c.utf8Size + byteCount text := by
  simp [byteCount]

@[simp] theorem byteCount_append (left right : List Char) :
    byteCount (left ++ right) = byteCount left + byteCount right := by
  simp [byteCount]

@[simp] theorem takeBytes_append_dropBytes (count : Nat) (text : List Char) :
    takeBytes count text ++ dropBytes count text = text := by
  induction text generalizing count with
  | nil => rfl
  | cons c rest ih =>
      by_cases fits : c.utf8Size ≤ count <;> simp [takeBytes, dropBytes, fits, ih]

theorem byteCount_takeBytes_le (count : Nat) (text : List Char) :
    byteCount (takeBytes count text) ≤ count := by
  induction text generalizing count with
  | nil => simp [takeBytes]
  | cons c rest ih =>
      by_cases fits : c.utf8Size ≤ count
      · have := ih (count - c.utf8Size)
        simp [takeBytes, fits]
        omega
      · simp [takeBytes, fits]

/-- The beginning of a text is taken off again at its number of bytes. -/
theorem takeBytes_byteCount_append (left right : List Char) :
    takeBytes (byteCount left) (left ++ right) = left := by
  induction left with
  | nil =>
      cases right with
      | nil => rfl
      | cons c rest =>
          have := c.utf8Size_pos
          simp [takeBytes]
          omega
  | cons c rest ih => simp [takeBytes, ih]

end DocsConsole.Text
