import DocsConsole.Unicode.Casing
import DocsConsole.Text.Lines
import DocsConsole.Purpose
import DocsConsole.Markdown.Inline
import DocsConsole.Terminal.Theme

/-!
# Generated content on the terminal

A document becomes a list of lines, each drawn in the style of its block.  The
lines are read off the events of the document: inline text gathers until the
block it belongs to ends.  Commented code is shown line for line.
-/

namespace DocsConsole.Preview

open DocsConsole.Markdown
open DocsConsole.Terminal (Line Style Theme.title Theme.header Theme.normal Theme.muted
  Theme.code Theme.keyHint)

/-- The look of a line. -/
inductive BlockStyle where
  | heading1
  | heading2
  | heading3
  | paragraph
  | listItem
  | quote
  | code
  | codeHeader
deriving DecidableEq, Repr, Inhabited

/-- How the lines of a block are drawn. -/
def BlockStyle.style : BlockStyle → Style
  | .heading1 => { Theme.title with underlined := true }
  | .heading2 => Theme.title
  | .heading3 => Theme.header
  | .paragraph => Theme.normal
  | .listItem => Theme.normal
  | .quote => { Theme.muted with italic := true }
  | .code => Theme.code
  | .codeHeader => Theme.keyHint

/-- A line and its look. -/
abbrev BlockLine := String × BlockStyle

/-- What precedes the text of a heading, and its look. -/
def headingMark (level : Fin 6) : String × BlockStyle :=
  match level.val with
  | 0 => ("══ ", .heading1)
  | 1 => ("── ", .heading2)
  | _ => ("─ ", .heading3)

/-- The line above a code block. -/
def codeHeader (info : Option String) : String :=
  match info with
  | some language =>
      if language.isEmpty then "┌────" else "┌─ [" ++ Unicode.upper language ++ "]"
  | none => "┌────"

/-- The lines so far, last one first, and the text of the line that is being gathered. -/
structure Gathering where
  lines : List BlockLine
  current : String
  inCode : Bool
  inQuote : Bool
  listDepth : Nat
deriving Inhabited

namespace Gathering

def empty : Gathering :=
  ⟨[], "", false, false, 0⟩

def addLine (g : Gathering) (text : String) (look : BlockStyle) : Gathering :=
  { g with lines := (text, look) :: g.lines }

/-- Ends the current line, unless it is empty. -/
def flush (g : Gathering) (look : BlockStyle) : Gathering :=
  if g.current.isEmpty then g else { g.addLine g.current look with current := "" }

/-- Adds text to the current line. -/
def append (g : Gathering) (text : String) : Gathering :=
  { g with current := g.current ++ text }

def enter (g : Gathering) (tag : Tag) : Gathering :=
  let g := if g.inCode then g else g.flush .paragraph
  match tag with
  | .heading _ => if g.lines.isEmpty then g else g.addLine "" .paragraph
  | .codeBlock info => { g.addLine (codeHeader info) .codeHeader with inCode := true }
  | .list _ => { g with listDepth := g.listDepth + 1 }
  | .blockQuote => { g with inQuote := true }
  | _ => g

def leave (g : Gathering) (tag : Tag) : Gathering :=
  match tag with
  | .heading level =>
      let (mark, look) := headingMark level
      { g.addLine (mark ++ g.current) look with current := "" }
  | .paragraph =>
      let look : BlockStyle :=
        if g.inQuote then .quote else if g.listDepth > 0 then .listItem else .paragraph
      let g := if g.inQuote && !g.current.isEmpty then { g with current := "│ " ++ g.current } else g
      let g := g.flush look
      if g.listDepth = 0 then g.addLine "" .paragraph else g
  | .codeBlock _ => { g.addLine "└────" .codeHeader with inCode := false }
  | .list _ =>
      let g := { g with listDepth := g.listDepth - 1 }
      if g.listDepth = 0 then g.addLine "" .paragraph else g
  | .item =>
      if g.current.isEmpty then g
      else
        let indent := Text.repeated (g.listDepth - 1) "  "
        { g.addLine (indent ++ "• " ++ g.current) .listItem with current := "" }
  | .blockQuote => { g with inQuote := false }
  | .tableRow => g.flush .paragraph
  | .tableHead => g.flush .paragraph
  | .tableCell => g.append " │ "
  | _ => g

/-- Shows raw markup: a new line starts at every line end inside it. -/
def markup (g : Gathering) (content : String) : Gathering :=
  match Text.lines content with
  | [] => g
  | first :: others =>
      others.foldl (fun g line => (g.flush .paragraph).append line) (g.append first)

def leaf (g : Gathering) : Leaf → Gathering
  | .text content =>
      if g.inCode then
        (Text.lines content).foldl (fun g line => g.addLine ("│ " ++ line) .code) g
      else g.append content
  | .code content => g.append ("`" ++ content ++ "`")
  | .html content => g.markup content
  | .softBreak => if g.inCode then g else g.append " "
  | .hardBreak => if g.inCode then g else g.append " "
  | .rule => g.addLine (Text.repeated 24 "─") .paragraph

def event (g : Gathering) : Event → Gathering
  | .enter tag => g.enter tag
  | .leave tag => g.leave tag
  | .leaf content => g.leaf content

/-- All lines, the current one included. -/
def result (g : Gathering) : List BlockLine :=
  (g.flush .paragraph).lines.reverse

end Gathering

/-- The lines of a document, by its events. -/
def blockLines (events : List Event) : List BlockLine :=
  (events.foldl Gathering.event Gathering.empty).result

/-- The lines of a Markdown text as they are drawn. -/
def markdownLines (text : String) : List Line :=
  (blockLines (Markdown.events text)).map fun (content, look) => Line.styled look.style content

/-- The lines of code as they are drawn. -/
def codeLines (text : String) : List Line :=
  (Text.lines text).map (Line.styled Theme.code)

/-- The lines of generated content as they are drawn. -/
def generatedLines (content : String) : Purpose → List Line
  | .readme => markdownLines content
  | .inlineComments => codeLines content

end DocsConsole.Preview
