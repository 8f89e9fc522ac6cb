import DocsConsole.Html.Escape
import DocsConsole.Markdown.Event

/-!
# Documents as HTML

The events of a document are written one after the other.  Block elements start
on a line of their own, so the writer remembers whether it is at the start of a
line.  Raw markup is written as text.
-/

namespace DocsConsole.Html

open DocsConsole.Markdown

/-- What has been written, and what the next event depends on. -/
structure Writer where
  /-- The pieces written, last one first. -/
  written : List String
  atLineStart : Bool
  columns : List Markdown.Alignment
  inHead : Bool
  cell : Nat
  /-- While the description of an image is written: how deep inside it, and the attribute
  for its title. -/
  description : Option (Nat × String)

namespace Writer

def empty : Writer :=
  ⟨[], true, [], false, 0, none⟩

/-- Writes a piece of markup. -/
def write (w : Writer) (text : String) : Writer :=
  if text.isEmpty then w
  else { w with written := text :: w.written, atLineStart := text.toList.getLast? = some '\n' }

/-- Writes a text with its special characters escaped. -/
def writeText (w : Writer) (text : String) : Writer :=
  { w with
    written := escape text :: w.written
    atLineStart := text.toList.getLast? = some '\n' }

/-- Writes an escaped text without looking at how it ends. -/
def writeInline (w : Writer) (text : String) : Writer :=
  { w with written := escape text :: w.written }

/-- Writes a piece of markup at the start of a line. -/
def writeBlock (w : Writer) (text : String) : Writer :=
  w.write (if w.atLineStart then text else "\n" ++ text)

/-- Everything written. -/
def result (w : Writer) : String :=
  String.join w.written.reverse

end Writer

/-- The name of a heading's element. -/
def headingName (level : Fin 6) : String :=
  "h" ++ toString (level.val + 1)

/-- The attribute that sets the cells of a column. -/
def alignmentAttribute : Markdown.Alignment → String
  | .unset => ""
  | .left => " style=\"text-align: left\""
  | .center => " style=\"text-align: center\""
  | .right => " style=\"text-align: right\""

/-- The attribute for a title, unless it is empty. -/
def titleAttribute (title : String) : String :=
  if title.isEmpty then "" else "\" title=\"" ++ escape title

/-- The first word of the information string of a code block. -/
def languageOf (info : String) : String :=
  String.ofList (info.toList.takeWhile (· != ' '))

/-- Writes the start of an element. -/
def Writer.enter (w : Writer) : Tag → Writer
  | .paragraph => w.writeBlock "<p>"
  | .heading level => w.writeBlock ("<" ++ headingName level ++ ">")
  | .blockQuote => w.writeBlock "<blockquote>\n"
  | .codeBlock info =>
      let w := if w.atLineStart then w else w.write "\n"
      let language := (info.map languageOf).getD ""
      if language.isEmpty then w.write "<pre><code>"
      else w.write ("<pre><code class=\"language-" ++ escape language ++ "\">")
  | .list none => w.writeBlock "<ul>\n"
  | .list (some 1) => w.writeBlock "<ol>\n"
  | .list (some first) => w.writeBlock ("<ol start=\"" ++ toString first ++ "\">\n")
  | .item => w.writeBlock "<li>"
  | .table columns => { w with columns := columns }.write "<table>"
  | .tableHead => { w with inHead := true, cell := 0 }.write "<thead><tr>"
  | .tableRow => { w with cell := 0 }.write "<tr>"
  | .tableCell =>
      let name := if w.inHead then "<th" else "<td"
      w.write (name ++ alignmentAttribute ((w.columns[w.cell]?).getD .unset) ++ ">")
  | .emphasis => w.write "<em>"
  | .strong => w.write "<strong>"
  | .strikethrough => w.write "<del>"
  | .link kind destination title =>
      let scheme := match kind with
        | .address => ""
        | .mailbox => "mailto:"
      w.write ("<a href=\"" ++ scheme ++ escapeAddress destination ++ titleAttribute title ++
        "\">")
  | .image destination title =>
      { w.write ("<img src=\"" ++ escapeAddress destination ++ "\" alt=\"") with
        description := some (0, titleAttribute title) }

/-- Writes the end of an element. -/
def Writer.leave (w : Writer) : Tag → Writer
  | .paragraph => w.write "</p>\n"
  | .heading level => w.write ("</" ++ headingName level ++ ">\n")
  | .blockQuote => w.write "</blockquote>\n"
  | .codeBlock _ => w.write "</code></pre>\n"
  | .list none => w.write "</ul>\n"
  | .list (some _) => w.write "</ol>\n"
  | .item => w.write "</li>\n"
  | .table _ => w.write "</tbody></table>\n"
  | .tableHead => { w.write "</tr></thead><tbody>\n" with inHead := false }
  | .tableRow => w.write "</tr>\n"
  | .tableCell =>
      let w := w.write (if w.inHead then "</th>" else "</td>")
      { w with cell := w.cell + 1 }
  | .emphasis => w.write "</em>"
  | .strong => w.write "</strong>"
  | .strikethrough => w.write "</del>"
  | .link _ _ _ => w.write "</a>"
  | .image _ _ => w

/-- Writes what stands between tags. -/
def Writer.leaf (w : Writer) : Leaf → Writer
  | .text content => w.writeText content
  | .html content => w.writeText content
  | .code content => ((w.write "<code>").writeInline content).write "</code>"
  | .softBreak => w.write "\n"
  | .hardBreak => w.write "<br />\n"
  | .rule => w.writeBlock "<hr />\n"

/-- Writes an event inside the description of an image, where only text counts. -/
def Writer.describe (w : Writer) (depth : Nat) (title : String) : Event → Writer
  | .enter _ => { w with description := some (depth + 1, title) }
  | .leave _ =>
      match depth with
      | 0 => { w.write (title ++ "\" />") with description := none }
      | outer + 1 => { w with description := some (outer, title) }
  | .leaf (.text content) => w.writeText content
  | .leaf (.html content) => w.writeText content
  | .leaf (.code content) => w.writeText content
  | .leaf .softBreak => w.write " "
  | .leaf .hardBreak => w.write " "
  | .leaf .rule => w.write " "

def Writer.event (w : Writer) (event : Event) : Writer :=
  match w.description with
  | some (depth, title) => w.describe depth title event
  | none =>
      match event with
      | .enter tag => w.enter tag
      | .leave tag => w.leave tag
      | .leaf content => w.leaf content

/-- A document as a fragment of HTML. -/
def ofEvents (events : List Event) : String :=
  (events.foldl Writer.event Writer.empty).result

end DocsConsole.Html
