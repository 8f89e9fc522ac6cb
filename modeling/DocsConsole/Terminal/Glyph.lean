import DocsConsole.CoreInstances
import DocsConsole.Terminal.Drawing
import DocsConsole.Unicode.Space

/-!
# Glyphs

A glyph is a grapheme cluster as it is drawn: with its width in columns and its
style.
-/

namespace DocsConsole.Terminal

open scoped CoreInstances

/-- A cluster with its width and style. -/
structure Glyph where
  text : List Char
  width : Nat
  style : Style
deriving DecidableEq, Repr, Inhabited

namespace Glyph

def ofCluster (style : Style) (text : List Char) : Glyph :=
  ⟨text, Unicode.clusterWidth text, style⟩

/-- The glyphs of a span.  A line feed has none. -/
def ofSpan (span : Span) : List Glyph :=
  ((Unicode.clusters span.text.toList).filter (· ≠ ['\n'])).map (ofCluster span.style)

def ofLine (line : Line) : List Glyph :=
  line.flatMap ofSpan

/-- The width of some glyphs. -/
def totalWidth (glyphs : List Glyph) : Nat :=
  (glyphs.map Glyph.width).sum

/-- The space of zero width parts words. -/
def zeroWidthSpace : Char := '\u200b'

/-- The space that does not part words. -/
def unbreakableSpace : Char := '\u00a0'

/-- Whether a glyph parts words. -/
def isBlank (glyph : Glyph) : Bool :=
  glyph.text = [zeroWidthSpace] ||
    (glyph.text.all Unicode.isSpace && glyph.text ≠ [unbreakableSpace])

/-- The beginning of a row of glyphs that fits a width. -/
def fitting : Nat → List Glyph → List Glyph
  | _, [] => []
  | width, glyph :: rest =>
      if glyph.width ≤ width then glyph :: fitting (width - glyph.width) rest else []

/-- The marks of a glyph, with a mark for each cell that it covers besides its own. -/
def marks (covered : Mark) (glyph : Glyph) : List Mark :=
  if glyph.width = 0 then []
  else .put (String.ofList glyph.text) glyph.style :: List.replicate (glyph.width - 1) covered

/-- Glyphs without width join the glyph before them, or the first one if none stands before
them.  The glyphs so far are in reverse. -/
def joinedFrom (pending : List Char) (glyphs : List Glyph) : List Glyph → List Glyph
  | [] => glyphs.reverse
  | glyph :: rest =>
      if glyph.width = 0 then
        match glyphs with
        | [] => joinedFrom (pending ++ glyph.text) [] rest
        | last :: earlier =>
            joinedFrom pending ({ last with text := last.text ++ glyph.text } :: earlier) rest
      else joinedFrom [] ({ glyph with text := pending ++ glyph.text } :: glyphs) rest

/-- The marks of a span that is drawn by itself: what a wide glyph covers is emptied.  A line
feed takes a column but shows nothing. -/
def spanMarks (width : Nat) (span : Span) : List Mark :=
  (fitting width (joinedFrom [] [] (ofSpan span))).flatMap (marks .erase) ++
    List.replicate ((Unicode.clusters span.text.toList).count ['\n']) .keep

/-- The marks of a line that is drawn by itself. -/
def lineMarks : Nat → Line → List Mark
  | _, [] => []
  | width, span :: rest =>
      let drawn := (spanMarks width span).take width
      drawn ++ lineMarks (width - Unicode.textWidth span.text.toList) rest

end Glyph

/-- Draws a line by itself into the first row of an area. -/
def Line.draw (line : Line) (area : Area) : Drawing :=
  if area.isEmpty then [] else [.write area.column area.row (Glyph.lineMarks area.width line)]

def Line.columns (line : Line) : Nat :=
  (line.map fun span => Unicode.textWidth span.text.toList).sum

end DocsConsole.Terminal
