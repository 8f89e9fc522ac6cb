import DocsConsole.Unicode.Casing
import DocsConsole.Markdown.Draft
import DocsConsole.Markdown.RawMarkup
import DocsConsole.Markdown.Reference

/-!
# Block structure

An outline is read block by block.  Each step looks at one line: it closes the
containers whose margin the line lacks, opens new ones, and reads one block to
its end.  Link reference definitions are collected on the way; the first of two
definitions of a label counts.

Every loop takes a bound on its steps, and the length of the source is always
enough.
-/

namespace DocsConsole.Markdown

/-- A container that further lines may belong to; its children are kept in reverse. -/
structure OpenBlock where
  start : Nat
  container : Container
  children : List Draft
deriving Inhabited

/-- Block structure read so far, the newest block first everywhere. -/
structure Outline where
  opened : List OpenBlock
  finished : List Draft
  /-- The last line held nothing but a list marker. -/
  itemBegins : Bool
  /-- A blank line came before the current one. -/
  afterBlank : Bool
  definitions : List (String × Target)
deriving Inhabited

/-- The children of a list item of a tight list: the paragraphs lose their tags. -/
def spliceParagraphs (children : List Draft) : List Draft :=
  children.flatMap fun child =>
    match child with
    | .block _ _ .paragraph _ inner => inner
    | other => [other]

def tightItem : Draft → Draft
  | .block start stop tag container children =>
      .block start stop tag container (spliceParagraphs children)
  | other => other

/-- A container with everything read in it. -/
def OpenBlock.close (block : OpenBlock) (stop : Nat) : Draft :=
  let children := block.children.reverse
  match block.container with
  | .quote => .block block.start stop .blockQuote (some .quote) children
  | .item indent => .block block.start stop .item (some (.item indent)) children
  | .list tight mark first =>
      let number := if mark = '.' ∨ mark = ')' then some first else none
      .block block.start stop (.list number) none
        (if tight then children.map tightItem else children)

namespace Outline

def empty : Outline :=
  ⟨[], [], false, false, []⟩

/-- The open containers, outermost first. -/
def containers (o : Outline) : List Container :=
  (o.opened.map OpenBlock.container).reverse

/-- Adds a block to the innermost container. -/
def add (o : Outline) (draft : Draft) : Outline :=
  match o.opened with
  | [] => { o with finished := draft :: o.finished }
  | block :: outer =>
      { o with opened := { block with children := draft :: block.children } :: outer }

def addAll (o : Outline) (drafts : List Draft) : Outline :=
  drafts.foldl add o

def openContainer (o : Outline) (start : Nat) (container : Container) : Outline :=
  { o with opened := ⟨start, container, []⟩ :: o.opened }

def closeInnermost (o : Outline) (stop : Nat) : Outline :=
  match o.opened with
  | [] => o
  | block :: outer => add { o with opened := outer } (block.close stop)

/-- Closes so many containers, innermost first. -/
def closeMany (o : Outline) (stop : Nat) : Nat → Outline
  | 0 => o
  | count + 1 => (o.closeInnermost stop).closeMany stop count

/-- Makes the list loose whose item is innermost. -/
def loosenOuter (o : Outline) : Outline :=
  match o.opened with
  | inner :: ⟨start, .list _ mark first, children⟩ :: outer =>
      { o with opened := inner :: ⟨start, .list false mark first, children⟩ :: outer }
  | _ => o

/-- Closes a list that the current line does not go on with.  A blank line before the block
makes the list loose that the block belongs to. -/
def finishList (o : Outline) (stop : Nat) : Outline :=
  let closed :=
    match o.opened with
    | ⟨_, .list _ _ _, _⟩ :: _ => o.closeInnermost stop
    | _ => o
  if closed.afterBlank then { closed.loosenOuter with afterBlank := false } else closed

/-- Goes on with the innermost list if it has the same mark, and starts a list otherwise. -/
def enterList (o : Outline) (start : Nat) (mark : Char) (number : Nat) : Outline :=
  let fresh (outer : Outline) : Outline :=
    { outer.openContainer start (.list true mark number) with afterBlank := false }
  match o.opened with
  | [] => fresh o
  | ⟨listStart, .list tight listMark first, children⟩ :: outer =>
      if listMark = mark then
        let stillTight := tight && !o.afterBlank
        { o with
          opened := ⟨listStart, .list stillTight listMark first, children⟩ :: outer
          afterBlank := false }
      else fresh (o.finishList start)
  | _ => fresh (o.finishList start)

/-- Records a definition unless its label is defined already. -/
def define (o : Outline) (label : String) (target : Target) : Outline :=
  let key := Unicode.fold label
  if o.definitions.any (·.1 == key) then o
  else { o with definitions := (key, target) :: o.definitions }

/-- What opening the containers of a line leads to. -/
inductive Opening where
  /-- The rest of the line starts at this margin. -/
  | content (margin : Margin)
  /-- The line is a bare list marker, and the next line starts here. -/
  | bareItem (next : Nat)

/-- Opens the containers whose marks stand at a margin of the line. -/
def openContainers (s : Source) (lineStart : Nat) : Nat → Outline → Margin →
    Outline × Opening
  | 0, o, margin => (o, .content margin)
  | fuel + 1, o, margin =>
      match margin.itemStart? s with
      | some item =>
          let listed := o.enterList margin.pos item.mark item.number
          let inside := listed.openContainer margin.pos (.item item.indent)
          match s.afterBlankLine? item.margin.pos with
          | some next => ({ inside with itemBegins := true }, .bareItem next)
          | none => openContainers s lineStart fuel inside item.margin
      | none =>
          match margin.quoteMark? s with
          | some next =>
              openContainers s lineStart fuel
                ((o.finishList lineStart).openContainer margin.pos .quote) next
          | none => (o, .content margin)

end Outline

namespace Source

/-- The pieces of a line of code or raw markup.  The columns left over from a tab become
spaces, and a line feed after a carriage return stands alone. -/
def literalPieces (s : Source) (body : Piece) (pending start stop : Nat) : List Draft :=
  let returned :=
    match s.chars[stop - 2]?, s.chars[stop - 1]? with
    | some '\r', some last => decide (last.toNat < 0x80)
    | _, _ => false
  let range (low high : Nat) : List Draft :=
    match body with
    | .plain => (Draft.addText [] low high)
    | other => [.piece low high other]
  let spaces : List Draft :=
    if pending = 0 then []
    else [.piece start start (.settled (.text (String.ofList (List.replicate pending ' '))))]
  spaces ++
    (if returned then range start (stop - 2) ++ range (stop - 1) stop else range start stop)

/-- The rest of an indented code block: its lines up to the last that is not blank, and the
position after all of them. -/
def indentedFrom (s : Source) (containers : List Container) :
    Nat → (written kept : List Draft) → (keptEnd pending : Nat) → (blank : Bool) → Nat →
    List Draft × Nat × Nat
  | 0, _, kept, keptEnd, _, _, i => (kept, keptEnd, i)
  | fuel + 1, written, kept, keptEnd, pending, blank, i =>
      let next := s.nextLine i
      let lines := (s.literalPieces .plain pending i next).reverse ++ written
      let (lastKept, lastEnd) := if blank then (kept, keptEnd) else (lines, next)
      let (inside, margin) := Margin.passAll s containers next
      let (missing, edge) := margin.takeColumns s 4
      if !inside || !(missing = 0 || edge.atLineEnd s) || s.limit ≤ next then
        (lastKept, lastEnd, next)
      else
        indentedFrom s containers fuel lines lastKept lastEnd edge.pending
          (s.afterBlankLine? edge.pos).isSome edge.pos

/-- An indented code block and the position after it. -/
def indentedCode (s : Source) (containers : List Container) (pending i : Nat) : Draft × Nat :=
  let (lines, stop, next) := s.indentedFrom containers (s.limit + 1) [] [] i pending false i
  (.block i stop (.codeBlock none) none lines.reverse, next)

/-- The rest of a fenced code block: its lines in reverse and the position after its fence. -/
def fencedFrom (s : Source) (containers : List Container) (indent : Nat) (fence : Char)
    (length : Nat) : Nat → List Draft → Nat → List Draft × Nat
  | 0, lines, i => (lines, i)
  | fuel + 1, lines, i =>
      let (inside, margin) := Margin.passAll s containers i
      if !inside then (lines, i)
      else
        let (_, edge) := margin.takeColumns s indent
        let (missing, closer) := edge.takeColumns s 4
        let closing := if missing = 0 then none else s.closingFence? fence length closer.pos
        match closing with
        | some stop => (lines, stop)
        | none =>
            let next := s.nextLine edge.pos
            fencedFrom s containers indent fence length fuel
              ((s.literalPieces .plain edge.pending edge.pos next).reverse ++ lines) next

/-- A fenced code block and the position after its last line. -/
def fencedCode (s : Source) (containers : List Container) (indent : Nat) (fence : Char)
    (length i : Nat) : Draft × Nat :=
  let infoStart := s.skipBlanks (i + length)
  let next := s.nextLine infoStart
  let infoEnd := max infoStart (s.skipBack isBlankOrLineEnd next)
  let (lines, stop) := s.fencedFrom containers indent fence length (s.limit + 1) [] next
  (.block i stop (.codeBlock (some (s.unescape infoStart infoEnd))) none lines.reverse,
    (s.afterBlankLine? stop).getD stop)

/-- The rest of a block of raw markup and the position after it.  A block with an end text
goes on to the line with that text, any other to a blank line. -/
def markupFrom (s : Source) (containers : List Container) (ending : Option (List Char)) :
    Nat → List Draft → Nat → Nat → List Draft × Nat
  | 0, lines, _, i => (lines, i)
  | fuel + 1, lines, pending, i =>
      let next := s.nextLine i
      let all := (s.literalPieces .markup pending i next).reverse ++ lines
      let (inside, margin) := Margin.passAll s containers next
      let ended :=
        match ending with
        | some text => s.hasTextBetween text i next || margin.pos = s.limit
        | none => (s.afterBlankLine? margin.pos).isSome || s.limit ≤ margin.pos
      if !inside || ended then (all, next)
      else markupFrom s containers ending fuel all margin.pending margin.pos

/-- A block of raw markup and the position after it. -/
def markupBlock (s : Source) (containers : List Container) (ending : Option (List Char))
    (pending i : Nat) : List Draft × Nat :=
  let (lines, next) := s.markupFrom containers ending (s.limit + 1) [] pending i
  (lines.reverse, next)

/-- The text of a heading line from `start` to `stop` without its closing number signs. -/
def headingTextEnd (s : Source) (start stop : Nat) : Nat :=
  let text := s.charsBetween start stop
  let trimmed := Unicode.dropEndWhile (fun c => c = '\n' || c = '\r' || c = ' ') text
  let bare := Unicode.dropEndWhile (· = '#') trimmed
  let length :=
    if bare.isEmpty then 0
    else if bare.getLast? = some ' ' then (Unicode.dropEndWhile (· = ' ') bare).length
    else trimmed.length
  start + length

/-- The pieces of a line kept in reverse, the last one ending at a given position. -/
def endingAt (stop : Nat) : List Draft → List Draft
  | [] => []
  | last :: earlier => last.withStop stop :: earlier

/-- A heading opened by number signs and the position after it. -/
def heading (s : Source) (level : Fin 6) (i : Nat) : Draft × Nat :=
  let afterSigns := i + level.val + 1
  match s.afterLineEnd? afterSigns with
  | some next => (.block i next (.heading level) none [], next)
  | none =>
      let start := s.skipBlanks afterSigns
      let line := s.line [] .text start
      let pieces := endingAt (s.headingTextEnd start line.next) line.pieces
      (.block i line.next (.heading level) none pieces.reverse, line.next)

/-- The rest of the cells of a table row, in reverse, and the position after the row. -/
def cellsFrom (s : Source) : Nat → List Draft → Nat → List Draft × Nat
  | 0, cells, i => (cells, i)
  | fuel + 1, cells, i =>
      let start := s.skipChar '|' i
      let content := s.skipBlanks start
      match s.afterLineEnd? content with
      | some next => (cells, next)
      | none =>
          let line := s.line [] .cell content
          let blanks := line.next - s.skipBack isBlankOrLineEnd line.next
          let pieces :=
            match line.pieces with
            | [] => []
            | last :: earlier => last.withStop (last.stop - blanks) :: earlier
          cellsFrom s fuel
            (.block start line.next .tableCell none pieces.reverse :: cells) line.next

/-- A table row with a given number of cells and the position after it.  Missing cells are
empty and further ones are dropped. -/
def tableRow (s : Source) (tag : Tag) (columns i : Nat) : Draft × Nat :=
  let (cells, next) := s.cellsFrom (s.limit + 1) [] i
  let filler : Draft := .block next next .tableCell none []
  let row := cells.reverse.take columns ++ List.replicate (columns - cells.length) filler
  (.block i next tag none row, next)

/-- The rest of the rows of a table, in reverse, and the position after it. -/
def rowsFrom (s : Source) (containers : List Container) (columns : Nat) :
    Nat → List Draft → Nat → List Draft × Nat
  | 0, rows, i => (rows, i)
  | fuel + 1, rows, i =>
      let (inside, margin) := Margin.passAll s containers i
      let start := (margin.takeAll s).pos
      if !inside || s.interruptsParagraph true start then (rows, i)
      else
        let (row, next) := s.tableRow .tableRow columns start
        rowsFrom s containers columns fuel (row :: rows) next

/-- A table whose head starts at a position and whose body starts at another. -/
def table (s : Source) (containers : List Container) (columns : List Alignment)
    (head body : Nat) : Draft × Nat :=
  let (headRow, _) := s.tableRow .tableHead columns.length head
  let (rows, next) := s.rowsFrom containers columns.length (s.limit + 1) [] body
  (.block head next (.table columns) none (headRow :: rows.reverse), next)

/-- The pieces of a paragraph whose last line ended with an escaped line end: the backslash
is text after all. -/
def withLiteralSlash (s : Source) (ending : Option LineBreak) (pieces : List Draft) :
    List Draft :=
  match ending with
  | some (.piece (.piece start _ (.settled .hardBreak))) =>
      if s.chars[start]? = some '\\' then .piece start (start + 1) .plain :: pieces else pieces
  | _ => pieces

/-- The rest of a paragraph that starts at `start`, which may turn out to be a heading or a
table.  `i` is where its next line of text starts. -/
def paragraphFrom (s : Source) (containers : List Container) (start : Nat) :
    Nat → List Draft → Nat → Draft × Nat
  | 0, pieces, i => (.block start i .paragraph none pieces.reverse, i)
  | fuel + 1, pieces, i =>
      let line := s.line containers (if i = start then .search else .text) i
      match line.ending with
      | some (.table columns body) => s.table containers columns start body
      | ending =>
          let all := line.pieces ++ pieces
          let closed (tag : Tag) (stop : Nat) : Draft × Nat :=
            (.block start stop tag none (s.withLiteralSlash ending all).reverse, stop)
          let (inside, margin) := Margin.passAll s containers line.next
          let (missing, edge) := margin.takeColumns s 4
          let underline := if missing ≠ 0 && inside then s.underline? edge.pos else none
          match underline with
          | some (stop, level) => closed (.heading level) stop
          | none =>
              if missing ≠ 0 && s.interruptsParagraph inside edge.pos then
                closed .paragraph line.next
              else
                let text := edge.takeAll s
                if text.atLineEnd s then closed .paragraph line.next
                else
                  let broken :=
                    match ending with
                    | some (.piece draft) => draft :: all
                    | _ => all
                  paragraphFrom s containers start fuel broken text.pos

/-- A paragraph, or what it turns out to be, and the position after it. -/
def paragraph (s : Source) (containers : List Container) (i : Nat) : Draft × Nat :=
  s.paragraphFrom containers i (s.limit + 1) [] i

/-- A link reference definition: the position after it, its label and its target. -/
def definition? (s : Source) (containers : List Container) (i : Nat) :
    Option (Nat × String × Target) :=
  if !s.hasAt i '[' then none
  else
    let resumeLabel (next : Nat) : Option Nat :=
      let (inside, margin) := Margin.passAll s containers next
      if s.interruptsParagraph inside margin.pos then none else some margin.pos
    let resumeTarget (next : Nat) : Option Nat :=
      let (inside, margin) := Margin.passAll s containers next
      if inside then some margin.pos else none
    match s.label? resumeLabel (i + 1) with
    | none => none
    | some (afterLabel, label) =>
        if !s.hasAt afterLabel ':' then none
        else
          (s.definitionTarget? resumeTarget (afterLabel + 1)).map fun (next, target) =>
            (next, label, target)

end Source

namespace Outline

/-- Reads the block whose line, less its margins, starts at a given place. -/
def readContent (s : Source) (o : Outline) (lineStart : Nat) (margin : Margin) :
    Outline × Nat :=
  let o := finishList { o with itemBegins := false } lineStart
  let containers := o.containers
  let (indent, edge) := margin.takeUpTo s 4
  let i := edge.pos
  let added (result : Draft × Nat) : Outline × Nat := (o.add result.1, result.2)
  if indent = 4 then added (s.indentedCode containers edge.pending i)
  else
    let markup : Option (Option (List Char)) :=
      if s.hasAt i '<' then
        match s.markupEnd? (i + 1) with
        | some ending => some (some ending)
        | none => if s.startsMarkupBlock (i + 1) || s.loneTag i then some none else none
      else none
    match markup with
    | some ending =>
        let (lines, next) := s.markupBlock containers ending margin.pending i
        (o.addAll lines, next)
    | none =>
        match s.afterRule? i with
        | some next => (o.add (.piece i next (.settled .rule)), next)
        | none =>
            match s.headingLevel? i with
            | some level => added (s.heading level i)
            | none =>
                match s.definition? containers i with
                | some (next, label, target) =>
                    (o.define label target, (s.afterBlankLine? next).getD next)
                | none =>
                    match s.openingFence? i with
                    | some (length, fence) =>
                        added (s.fencedCode containers indent fence length i)
                    | none => added (s.paragraph containers i)

/-- Notes a blank line.  An item holds no block that comes after a blank first line. -/
def readBlank (o : Outline) (lineStart : Nat) : Outline :=
  match o.opened with
  | [] => o
  | ⟨_, .quote, _⟩ :: _ => o
  | _ =>
      let closed := if o.itemBegins then o.closeInnermost lineStart else o
      { closed with afterBlank := true }

/-- Reads the block that starts on the line at a position, and returns the position after
it. -/
def readBlock (s : Source) (o : Outline) (lineStart : Nat) : Outline × Nat :=
  let (count, margin) := (Margin.ofLine lineStart).pass s o.containers
  let kept := o.closeMany lineStart (o.opened.length - count)
  match openContainers s lineStart (s.limit + 1) kept margin with
  | (inside, .bareItem next) => (inside, next)
  | (inside, .content edge) =>
      match s.afterBlankLine? edge.pos with
      | some next => (inside.readBlank lineStart, next)
      | none => inside.readContent s lineStart edge

/-- Reads blocks to the end of the source. -/
def readFrom (s : Source) : Nat → Outline → Nat → Outline
  | 0, o, _ => o
  | fuel + 1, o, i =>
      if s.limit ≤ i then o
      else
        let (next, position) := o.readBlock s i
        readFrom s fuel next position

/-- The outline of a source, with every container closed. -/
def ofSource (s : Source) : Outline :=
  let o := readFrom s (s.limit + 1) empty 0
  o.closeMany s.limit o.opened.length

end Outline

end DocsConsole.Markdown
