import DocsConsole.Markdown.BlockStart

/-!
# Margins and containers

A line belongs to the open containers whose margins it has: a quote wants its
mark, a list item wants its indentation.  Indentation is counted in columns,
with tab stops every four columns, so that a tab may be used up in part.
-/

namespace DocsConsole.Markdown

/-- A block that holds other blocks and asks for a margin on every line. -/
inductive Container where
  | quote
  | list (tight : Bool) (mark : Char) (first : Nat)
  | item (indent : Nat)
deriving DecidableEq, Repr, Inhabited

/-- A place in the margin of a line. -/
structure Margin where
  pos : Nat
  /-- Tab stops are counted from here. -/
  tabOrigin : Nat
  /-- The columns of the last tab that are not used up. -/
  pending : Nat
deriving DecidableEq, Repr, Inhabited

namespace Margin

/-- The left edge of the line that starts at a position. -/
def ofLine (start : Nat) : Margin :=
  ⟨start, start, 0⟩

/-- Uses up columns of blank space; the result has the number of columns not found. -/
def spend (s : Source) (m : Margin) (columns : Nat) : Nat × Margin :=
  if columns = 0 then (0, m)
  else if m.pos < s.limit then
    match s.get? m.pos with
    | some ' ' => spend s { m with pos := m.pos + 1 } (columns - 1)
    | some '\t' =>
        let width := 4 - (m.pos - m.tabOrigin) % 4
        let used := min columns width
        spend s ⟨m.pos + 1, m.pos + 1, width - used⟩ (columns - used)
    | _ => (columns, m)
  else (columns, m)
termination_by s.limit - m.pos

/-- Uses up columns, those left over from a tab first. -/
def takeColumns (s : Source) (m : Margin) (columns : Nat) : Nat × Margin :=
  let ready := min m.pending columns
  spend s { m with pending := m.pending - ready } (columns - ready)

/-- Uses up as many as possible of some columns; the result has their number. -/
def takeUpTo (s : Source) (m : Margin) (columns : Nat) : Nat × Margin :=
  let (missing, next) := m.takeColumns s columns
  (columns - missing, next)

/-- Passes over all spaces and tabs. -/
def takeAll (s : Source) (m : Margin) : Margin :=
  { m with pos := s.skipWhile (fun c => c = ' ' || c = '\t') m.pos, pending := 0 }

/-- Whether nothing is left of the line. -/
def atLineEnd (s : Source) (m : Margin) : Bool :=
  match s.get? m.pos with
  | none => true
  | some c => isLineEnd c

/-- The margin of a quote: at most three columns, the mark, and one column. -/
def quoteMark? (s : Source) (m : Margin) : Option Margin :=
  let (_, edge) := m.takeColumns s 3
  if s.hasAt edge.pos '>' then
    some (takeColumns s { edge with pos := edge.pos + 1 } 1).2
  else none

/-- A list marker and the indentation of its item. -/
structure ItemStart where
  mark : Char
  number : Nat
  indent : Nat
  margin : Margin

/-- The margin after a list marker.  Up to three further columns belong to the item; with
more, the item starts with indented code. -/
def afterMark (s : Source) (m : Margin) (mark : Char) (number indent : Nat) : ItemStart :=
  if (s.afterBlankLine? m.pos).isSome then ⟨mark, number, indent, m⟩
  else
    let (columns, next) := m.takeUpTo s 4
    if columns < 4 then ⟨mark, number, indent + columns, next⟩
    else ⟨mark, number, indent, m⟩

/-- A list marker is followed by a blank column or the end of the line. -/
def itemStart? (s : Source) (m : Margin) : Option ItemStart :=
  let (indent, edge) := m.takeUpTo s 4
  let followed (stop : Nat) (mark : Char) (number width : Nat) : Option ItemStart :=
    let (missing, next) := takeColumns s { edge with pos := stop } 1
    if missing = 0 || next.atLineEnd s then
      some (next.afterMark s mark number (indent + width + 1))
    else none
  if indent < 4 then
    match s.get? edge.pos with
    | none => none
    | some c =>
        if c = '-' ∨ c = '+' ∨ c = '*' then
          if (s.afterRule? edge.pos).isSome then none
          else followed (edge.pos + 1) c 0 1
        else if c.isDigit then
          let stop := s.skipWhile Char.isDigit edge.pos
          let width := stop - edge.pos
          match s.get? stop with
          | some mark =>
              if width ≤ 9 ∧ (mark = '.' ∨ mark = ')') then
                followed (stop + 1) mark (Unicode.decimalValue (s.charsBetween edge.pos stop))
                  (width + 1)
              else none
          | none => none
        else none
  else none

/-- Passes the margins of containers, outermost first: how many of them the line has, and
the place after the last of these. -/
def pass (s : Source) (m : Margin) : List Container → Nat × Margin
  | [] => (0, m)
  | .quote :: rest =>
      match m.quoteMark? s with
      | some next =>
          let (count, last) := next.pass s rest
          (count + 1, last)
      | none => (0, m)
  | .item indent :: rest =>
      let (missing, next) := m.takeColumns s indent
      if missing = 0 || next.atLineEnd s then
        let (count, last) := next.pass s rest
        (count + 1, last)
      else (0, m)
  | .list _ _ _ :: rest =>
      let (count, last) := m.pass s rest
      (count + 1, last)

/-- Passes the margins of all containers on the line that starts at a position. -/
def passAll (s : Source) (containers : List Container) (start : Nat) : Bool × Margin :=
  let (count, last) := (ofLine start).pass s containers
  (count = containers.length, last)

/-- The place after the margins that a line has. -/
def afterMargins (s : Source) (containers : List Container) (start : Nat) : Nat :=
  ((ofLine start).pass s containers).2.pos

end Margin

end DocsConsole.Markdown
