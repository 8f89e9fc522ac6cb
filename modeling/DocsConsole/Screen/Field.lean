import DocsConsole.Editor.PathField
import DocsConsole.Editor.Wrap
import DocsConsole.Terminal.Frame
import DocsConsole.Terminal.Paragraph
import DocsConsole.Terminal.Theme

/-!
# Fields on screen

A field that has the keyboard shows the rows around its cursor, and the character
at the cursor stands out.  A field that has not shows its text, or if it is empty
what it is for.
-/

namespace DocsConsole.Screen

open Terminal

/-- The frame around something that may have the focus. -/
def frameOf (title : String) (focused : Bool) : Frame :=
  ⟨title, if focused then Theme.keyHint else Theme.muted,
    if focused then Theme.focusedBorder else Theme.border⟩

/-- A row with the cursor so many bytes from its beginning. -/
def cursorLine (segment : List Char) (cursor : Nat) : Line :=
  let before := Text.takeBytes cursor segment
  let after := Text.dropBytes cursor segment
  [⟨String.ofList before, Theme.normal⟩, ⟨String.singleton (after.headD ' '), Theme.cursor⟩,
    ⟨String.ofList after.tail, Theme.normal⟩]

/-- A row of a field that has the keyboard. -/
def rowLine (row : Wrap.Row) : Line :=
  match row.cursor with
  | some cursor => cursorLine row.segment cursor
  | none => Line.styled Theme.normal (String.ofList row.segment)

/-- The rows that are seen of some rows: those up to the one with the cursor, if not all of them
fit. -/
def window (rows : List Wrap.Row) (height : Nat) : List Wrap.Row :=
  (rows.drop (Wrap.cursorRow rows - (height - 1))).take height

/-- The width of rows in an area that has no room for any. -/
def spareWidth : Nat := 80

/-- The rows that a field with the keyboard shows in an area. -/
def typingRows (field : TextField) (inside : Area) : List Wrap.Row :=
  let width := if inside.width = 0 then spareWidth else inside.width
  window (Wrap.visualRows width field.shownCursor field.shownText) (max 1 inside.height)

/-- Draws a field that has the keyboard. -/
def drawTyping (field : TextField) (inside : Area) : Drawing :=
  (Paragraph.ofLines ((typingRows field inside).map rowLine)).draw inside

/-- Draws a field that has not the keyboard. -/
def drawResting (field : TextField) (inside : Area) : Drawing :=
  let lines := Text.linesFrom [] field.shownText
  Paragraph.draw ⟨lines.map fun line => Line.styled .plain (String.ofList line), .keepBlanks, 0⟩
    inside

/-- Draws a text that says what something is for. -/
def drawHint (hint : String) (style : Style) (inside : Area) : Drawing :=
  Paragraph.draw ⟨[Line.styled style hint], .trimBlanks, 0⟩ inside

def drawField (field : TextField) (focused : Bool) (title hint : String) (area : Area) :
    Drawing :=
  let frame := (frameOf title focused).draw area
  let inside := Frame.inside area
  if focused then frame ++ drawTyping field inside
  else if field.isEmpty then frame ++ drawHint hint Theme.dim inside
  else .restyle area Theme.normal :: frame ++ drawResting field inside

def drawPath (path : PathField) (focused : Bool) (title : String) (area : Area) : Drawing :=
  drawField path.field focused title "type a path, or drop files here" area

def suggestionRow (highlighted : Bool) (suggestion : Suggestion) : ListRow :=
  let style :=
    if highlighted then Theme.highlight
    else if suggestion.isDirectory then Theme.directory
    else Theme.normal
  ⟨Line.styled style
    (" " ++ suggestion.name ++ (if suggestion.isDirectory then "/" else " ") ++ " "), .plain⟩

def drawSuggestions (path : PathField) (area : Area) : Drawing :=
  if path.suggestions.isEmpty then []
  else
    Frame.drawOpen Theme.border area ++
      ListRow.draw
        (path.suggestions.mapIdx fun place suggestion =>
          suggestionRow (path.highlight = some place) suggestion)
        (Frame.insideOpen area)

/-- A key and what it does. -/
structure KeyHint where
  key : String
  description : String
deriving DecidableEq, Repr

/-- A hint on keys as a part of a line. -/
def KeyHint.spans (hint : KeyHint) : Line :=
  [⟨hint.key, Theme.keyHint⟩, ⟨" " ++ hint.description ++ "  ", Theme.dim⟩]

def drawLine (line : Line) (area : Area) : Drawing :=
  (Paragraph.ofLines [line]).draw area

end DocsConsole.Screen
