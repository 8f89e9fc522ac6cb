import DocsConsole.CoreInstances
import DocsConsole.Markdown.Event
import DocsConsole.Markdown.Source

/-!
# How blocks start

The lines that start or close a block, recognised at the position where their
indentation ends: thematic breaks, headings, code fences, raw markup, list
items, and the delimiter row of a table.  `interruptsParagraph` says which of
them end a paragraph without a blank line in between.
-/

namespace DocsConsole.Markdown

open scoped CoreInstances

namespace Source

/-- The end of a thematic break whose remaining characters start at a position. -/
def ruleFrom? (s : Source) (mark : Char) (count i : Nat) : Option Nat :=
  if i < s.limit then
    match s.get? i with
    | none => none
    | some c =>
        if isLineEnd c then
          if 3 ≤ count then s.afterLineEnd? i else none
        else if c = mark then s.ruleFrom? mark (count + 1) (i + 1)
        else if c = ' ' ∨ c = '\t' then s.ruleFrom? mark count (i + 1)
        else none
  else if 3 ≤ count then some i
  else none
termination_by s.limit - i

/-- The position after a thematic break: three or more equal marks on a line. -/
def afterRule? (s : Source) (i : Nat) : Option Nat :=
  match s.get? i with
  | some c => if c = '*' ∨ c = '-' ∨ c = '_' then s.ruleFrom? c 0 i else none
  | none => none

/-- The level of a heading that is opened by number signs, counted from zero. -/
def headingLevel? (s : Source) (i : Nat) : Option (Fin 6) :=
  let stop := s.skipRun '#' i
  let closed :=
    match s.get? stop with
    | none => true
    | some c => isBlankOrLineEnd c
  if h : i < stop ∧ stop - i - 1 < 6 then
    if closed then some ⟨stop - i - 1, h.2⟩ else none
  else none

/-- The line that turns the paragraph before it into a heading: the position after it
and the level. -/
def underline? (s : Source) (i : Nat) : Option (Nat × Fin 6) :=
  match s.get? i with
  | some '=' => (s.afterBlankLine? (s.skipRun '=' i)).map (·, 0)
  | some '-' => (s.afterBlankLine? (s.skipRun '-' i)).map (·, 1)
  | _ => none

/-- An opening code fence: its length and its character.  The information after a fence of
backquotes holds no backquote. -/
def openingFence? (s : Source) (i : Nat) : Option (Nat × Char) :=
  match s.get? i with
  | some c =>
      if c = '\x60' ∨ c = '~' then
        let stop := s.skipRun c i
        if stop - i < 3 then none
        else if c = '\x60' ∧ (s.charsBetween stop (s.nextLine stop)).contains '\x60' then none
        else some (stop - i, c)
      else none
  | none => none

/-- The position of the line end after a closing code fence; the end of the text closes
every fence. -/
def closingFence? (s : Source) (fence : Char) (length i : Nat) : Option Nat :=
  if s.limit ≤ i then some i
  else
    let stop := s.skipRun fence i
    if stop - i < length then none
    else
      let blank := s.skipRun ' ' stop
      (s.afterLineEnd? blank).map fun _ => blank

/-- The tag words whose raw markup runs to their closing tag. -/
def verbatimWords : List String := ["pre", "style", "script", "textarea"]

/-- The openings of raw markup that runs to a fixed text, and that text. -/
def enclosedMarkup : List (String × String) :=
  [("!--", "-->"), ("?", "?>"), ("![CDATA[", "]]>")]

/-- The text that ends raw markup whose opening angle bracket stands before a position. -/
def markupEnd? (s : Source) (i : Nat) : Option (List Char) :=
  let verbatim := verbatimWords.find? fun word =>
    s.hasWordAt word.toList i &&
      match s.get? (i + word.length) with
      | none => true
      | some c => isBlankOrLineEnd c || c = '>'
  match verbatim with
  | some word => some ("</".toList ++ word.toList ++ ['>'])
  | none =>
      match enclosedMarkup.find? fun pair => s.hasTextAt pair.1.toList i with
      | some pair => some pair.2.toList
      | none =>
          match s.get? i, s.get? (i + 1) with
          | some '!', some c => if 'A' ≤ c ∧ c ≤ 'Z' then some ['>'] else none
          | _, _ => none

/-- The tag words that start a block of markup. -/
def blockWords : List String :=
  ["address", "article", "aside", "base", "basefont", "blockquote", "body", "caption",
   "center", "col", "colgroup", "dd", "details", "dialog", "dir", "div", "dl", "dt",
   "fieldset", "figcaption", "figure", "footer", "form", "frame", "frameset", "h1", "h2",
   "h3", "h4", "h5", "h6", "head", "header", "hr", "html", "iframe", "legend", "li", "link",
   "main", "menu", "menuitem", "nav", "noframes", "ol", "optgroup", "option", "p", "param",
   "section", "source", "summary", "table", "tbody", "td", "tfoot", "th", "thead", "title",
   "tr", "track", "ul"]

/-- Whether a block of markup starts with the tag word after an angle bracket. -/
def startsMarkupBlock (s : Source) (i : Nat) : Bool :=
  let start := s.skipChar '/' i
  let stop := s.skipWhile Char.isAlphanum start
  let word := String.ofList ((s.charsBetween start stop).map Char.toLower)
  blockWords.contains word &&
    match s.get? stop with
    | none => true
    | some c => isBlankOrLineEnd c || c = '>' || (c = '/' && s.hasAt (stop + 1) '>')

/-- The value of a run of digits, unless it needs more than 64 bits. -/
def number64? (digits : List Char) : Option Nat :=
  let value := Unicode.decimalValue digits
  if value < 2 ^ (64 : Nat) then some value else none

/-- A list marker: the position after it, its last character, and its number. -/
def itemMarker? (s : Source) (i : Nat) : Option (Nat × Char × Nat) :=
  let followed (stop : Nat) (mark : Char) (number : Nat) : Option (Nat × Char × Nat) :=
    match s.get? stop with
    | none => some (stop, mark, number)
    | some c =>
        if c = ' ' ∨ c = '\t' ∨ isLineEnd c then some (stop, mark, number) else none
  match s.get? i with
  | none => none
  | some c =>
      if c = '-' ∨ c = '+' ∨ c = '*' then followed (i + 1) c 0
      else if c.isDigit then
        let stop := s.skipWhile Char.isDigit i
        match number64? (s.charsBetween i stop), s.get? stop with
        | some number, some mark =>
            if mark = '.' ∨ mark = ')' then followed (stop + 1) mark number else none
        | _, _ => none
      else none

/-- Whether nothing but two blank lines follows a list marker. -/
def isEmptyItem (s : Source) (i : Nat) : Bool :=
  match s.afterBlankLine? i with
  | some next => (s.afterBlankLine? next).isSome
  | none => false

/-- Whether a list item ends a paragraph of the same container: it is not empty, and it has
a bullet or the number one. -/
def interruptingItem (s : Source) (sameContainer : Bool) (i : Nat) : Bool :=
  match s.itemMarker? i with
  | none => false
  | some (stop, mark, number) =>
      !sameContainer ||
        (!s.isEmptyItem stop && (mark = '*' || mark = '-' || mark = '+' || number = 1))

/-- Whether the line whose content starts at a position ends the paragraph before it. -/
def interruptsParagraph (s : Source) (sameContainer : Bool) (i : Nat) : Bool :=
  (s.afterLineEnd? i).isSome || (s.afterRule? i).isSome || (s.headingLevel? i).isSome ||
    (s.openingFence? i).isSome || s.hasAt i '>' || s.interruptingItem sameContainer i ||
    (s.hasAt i '<' && ((s.markupEnd? (i + 1)).isSome || s.startsMarkupBlock (i + 1)))

/-- What has been read of a delimiter row. -/
structure DelimiterRow where
  columns : List Alignment
  current : Alignment
  columnStarts : Bool
  hyphenInColumn : Bool
  pipe : Bool
  hyphen : Bool

/-- Reads a delimiter row to the end of its line: the position after it and its columns. -/
def delimiterRowFrom? (s : Source) (row : DelimiterRow) (i : Nat) :
    Option (Nat × List Alignment) :=
  let finish (stop : Nat) : Option (Nat × List Alignment) :=
    let columns := if row.columnStarts then row.columns else row.current :: row.columns
    if row.pipe && row.hyphen then some (stop, columns.reverse) else none
  if i < s.limit then
    match s.get? i with
    | none => none
    | some c =>
        if isLineEnd c then
          match s.afterLineEnd? i with
          | some stop => finish stop
          | none => none
        else if c = ' ' then s.delimiterRowFrom? row (i + 1)
        else if c = ':' then
          let current :=
            match row.columnStarts, row.current with
            | true, .unset => .left
            | false, .left => .center
            | false, .unset => .right
            | _, current => current
          s.delimiterRowFrom? { row with current := current, columnStarts := false } (i + 1)
        else if c = '-' then
          s.delimiterRowFrom?
            { row with columnStarts := false, hyphenInColumn := true, hyphen := true } (i + 1)
        else if c = '|' then
          if row.hyphenInColumn then
            s.delimiterRowFrom?
              { row with
                columns := row.current :: row.columns
                current := .unset
                columnStarts := true
                hyphenInColumn := false
                pipe := true } (i + 1)
          else none
        else none
  else finish i
termination_by s.limit - i

/-- The delimiter row of a table, indented by at most three columns. -/
def delimiterRow? (s : Source) (i : Nat) : Option (Nat × List Alignment) :=
  let start := s.skipRun ' ' i
  if start - i > 3 ∨ s.limit ≤ start then none
  else
    let piped := s.hasAt start '|'
    s.delimiterRowFrom? ⟨[], .unset, true, false, piped, false⟩ (s.skipChar '|' start)

end Source

end DocsConsole.Markdown
