import DocsConsole.Markdown.Event
import DocsConsole.Markdown.Margin
import DocsConsole.Markdown.Entity

/-!
# Drafts

Blocks are found before the markup inside their lines is resolved.  A draft is
a document in between: its blocks are final, and its lines are cut into pieces,
each with the range of source it came from.  A piece is settled, or it is a
character that may turn out to be markup.
-/

namespace DocsConsole.Markdown

open DocsConsole.Unicode

/-- A piece of a line. -/
inductive Piece where
  /-- The text of the range. -/
  | plain
  /-- Raw markup: the text of the range. -/
  | markup
  /-- A leaf whose content differs from the text of the range. -/
  | settled (content : Leaf)
  /-- One mark of a run that may open or close an emphasis; `left` marks of the run start
  here. -/
  | delimiter (mark : Char) (left : Nat) (opens closes : Bool)
  | angle
  /-- A run of backquotes, whose first one may be escaped. -/
  | ticks (length : Nat) (escaped : Bool)
  /-- An opening bracket, with an exclamation mark for an image. -/
  | opening (image : Bool)
  /-- A closing bracket, which may end a reference without a label of its own. -/
  | closing (refers : Bool)
deriving DecidableEq, Repr, Inhabited

/-- A document with unresolved lines. -/
inductive Draft where
  | piece (start stop : Nat) (body : Piece)
  | block (start stop : Nat) (tag : Tag) (container : Option Container)
      (children : List Draft)
deriving Repr, Inhabited

namespace Draft

def start : Draft → Nat
  | .piece start _ _ => start
  | .block start _ _ _ _ => start

def stop : Draft → Nat
  | .piece _ stop _ => stop
  | .block _ stop _ _ _ => stop

def withStart (start : Nat) : Draft → Draft
  | .piece _ stop body => .piece start stop body
  | .block _ stop tag container children => .block start stop tag container children

def withStop (stop : Nat) : Draft → Draft
  | .piece start _ body => .piece start stop body
  | .block start _ tag container children => .block start stop tag container children

/-- Adds a range of plain text, unless it is empty, to pieces kept in reverse. -/
def addText (pieces : List Draft) (start stop : Nat) : List Draft :=
  if start < stop then .piece start stop .plain :: pieces else pieces

mutual

/-- The number of pieces and blocks of a draft. -/
def size : Draft → Nat
  | .piece _ _ _ => 1
  | .block _ _ _ _ children => 1 + listSize children

/-- The number of pieces and blocks of a list of drafts. -/
def listSize : List Draft → Nat
  | [] => 0
  | draft :: drafts => draft.size + listSize drafts

end

end Draft

/-- What ends a line of text. -/
inductive LineBreak where
  /-- A line end that stays in the paragraph if another line follows. -/
  | piece (break_ : Draft)
  /-- The line was the head of a table: its columns, and where the body starts. -/
  | table (columns : List Alignment) (body : Nat)

/-- How the bars of a line are read. -/
inductive BarMode where
  /-- As text. -/
  | text
  /-- As text, unless a delimiter row follows. -/
  | search
  /-- As the ends of table cells. -/
  | cell
deriving DecidableEq

/-- A line cut into pieces, last one first. -/
structure LinePieces where
  pieces : List Draft
  next : Nat
  ending : Option LineBreak

namespace Source

/-- Whether a run of marks can open an emphasis: text follows it, and it stands at a word
boundary or is made of asterisks. -/
def opensEmphasis (s : Source) (mark : Char) (start stop : Nat) : Bool :=
  match s.chars[stop]? with
  | none => false
  | some next =>
      if isSpace next then false
      else if start = 0 then true
      else if mark = '*' && !isPunctuation next then true
      else
        match s.chars[start - 1]? with
        | some previous => isSpace previous || isPunctuation previous
        | none => true

/-- Whether a run of marks can close an emphasis. -/
def closesEmphasis (s : Source) (mark : Char) (start stop : Nat) : Bool :=
  if start = 0 then false
  else
    match s.chars[start - 1]? with
    | none => false
    | some previous =>
        if isSpace previous then false
        else
          match s.chars[stop]? with
          | none => true
          | some next =>
              if mark = '*' && !isPunctuation previous then true
              else isSpace next || isPunctuation next

/-- The pieces for a run of emphasis marks, first one first. -/
def delimiterPieces (mark : Char) (opens closes : Bool) (start : Nat) : Nat → List Draft
  | 0 => []
  | left + 1 =>
      .piece start (start + 1) (.delimiter mark (left + 1) opens closes) ::
        delimiterPieces mark opens closes (start + 1) left

/-- The number of columns of a table head with so many bars. -/
def headColumns (s : Source) (bars start lastBar : Nat) : Nat :=
  let inner := if s.hasAt (s.skipBlanks start) '|' then bars - 1 else bars
  if (s.afterBlankLine? (lastBar + 1)).isSome then inner else inner + 1

/-- The table whose head ends at a line end: its columns and where its body starts. -/
def tableAfter? (s : Source) (containers : List Container) (bars start lastBar next : Nat) :
    Option (List Alignment × Nat) :=
  if bars = 0 then none
  else
    let (inside, margin) := Margin.passAll s containers next
    if !inside then none
    else
      match s.delimiterRow? margin.pos with
      | some (body, columns) =>
          if columns.length = s.headColumns bars start lastBar then some (columns, body)
          else none
      | none => none

/-- The rest of a line.  `start` is where the line starts, `text` where the text not yet cut
off starts, `bars` and `lastBar` tell of the bars seen. -/
def lineFrom (s : Source) (containers : List Container) (mode : BarMode)
    (start text bars lastBar : Nat) (pieces : List Draft) (i : Nat) : LinePieces :=
  if i < s.limit then
    let cut : List Draft := Draft.addText pieces text i
    match s.get? i with
    | none => ⟨cut, i, none⟩
    | some c =>
        if isLineEnd c then
          if mode = .cell then ⟨cut, i, none⟩
          else
            let next := (s.afterLineEnd? i).getD (i + 1)
            let table :=
              if mode = .search then s.tableAfter? containers bars start lastBar next else none
            match table with
            | some (columns, body) => ⟨pieces, body, some (.table columns body)⟩
            | none =>
                let slashes := i - s.skipBack (· == '\\') i
                let textEnd := s.skipBack isBlank i
                if slashes % 2 = 1 ∧ next < s.limit then
                  ⟨Draft.addText pieces text (i - 1), next,
                    some (.piece (.piece (i - 1) next (.settled .hardBreak)))⟩
                else if i - textEnd ≥ 2 then
                  ⟨Draft.addText pieces text textEnd, next,
                    some (.piece (.piece textEnd next (.settled .hardBreak)))⟩
                else ⟨cut, next, some (.piece (.piece i next (.settled .softBreak)))⟩
        else if c = '\\' then
          if s.hasPunctuationAt (i + 1) then
            if s.hasAt (i + 1) '\x60' then
              let stop := s.skipRun '\x60' (i + 2)
              if i < stop then
                s.lineFrom containers mode start stop bars lastBar
                  (.piece (i + 1) stop (.ticks (stop - (i + 1)) true) :: cut) stop
              else s.lineFrom containers mode start text bars lastBar pieces (i + 1)
            else s.lineFrom containers mode start (i + 1) bars lastBar cut (i + 2)
          else s.lineFrom containers mode start text bars lastBar pieces (i + 1)
        else if c = '*' ∨ c = '_' ∨ c = '~' then
          let stop := s.skipRun c (i + 1)
          if i < stop then
            let opens := s.opensEmphasis c i stop
            let closes := s.closesEmphasis c i stop
            if (opens || closes) && (c != '~' || stop - i ≤ 2) then
              s.lineFrom containers mode start stop bars lastBar
                ((delimiterPieces c opens closes i (stop - i)).reverse ++ cut) stop
            else s.lineFrom containers mode start text bars lastBar pieces stop
          else s.lineFrom containers mode start text bars lastBar pieces (i + 1)
        else if c = '\x60' then
          let stop := s.skipRun '\x60' (i + 1)
          if i < stop then
            s.lineFrom containers mode start stop bars lastBar
              (.piece i stop (.ticks (stop - i) false) :: cut) stop
          else s.lineFrom containers mode start text bars lastBar pieces (i + 1)
        else if c = '<' ∧ !s.hasAt (i + 1) '\\' then
          s.lineFrom containers mode start (i + 1) bars lastBar
            (.piece i (i + 1) .angle :: cut) (i + 1)
        else if c = '!' ∧ s.hasAt (i + 1) '[' then
          s.lineFrom containers mode start (i + 2) bars lastBar
            (.piece i (i + 2) (.opening true) :: cut) (i + 2)
        else if c = '[' then
          s.lineFrom containers mode start (i + 1) bars lastBar
            (.piece i (i + 1) (.opening false) :: cut) (i + 1)
        else if c = ']' then
          s.lineFrom containers mode start (i + 1) bars lastBar
            (.piece i (i + 1) (.closing true) :: cut) (i + 1)
        else if c = '&' then
          match s.reference? i with
          | some (stop, characters) =>
              if i < stop then
                s.lineFrom containers mode start stop bars lastBar
                  (.piece i stop (.settled (.text (String.ofList characters))) :: cut) stop
              else s.lineFrom containers mode start text bars lastBar pieces (i + 1)
          | none => s.lineFrom containers mode start text bars lastBar pieces (i + 1)
        else if c = '|' then
          if mode = .cell then ⟨cut, i, none⟩
          else s.lineFrom containers mode start text (bars + 1) i pieces (i + 1)
        else s.lineFrom containers mode start text bars lastBar pieces (i + 1)
  else ⟨Draft.addText pieces text i, i, none⟩
termination_by s.limit - i

/-- The line of text that starts at a position. -/
def line (s : Source) (containers : List Container) (mode : BarMode) (i : Nat) : LinePieces :=
  s.lineFrom containers mode i i 0 i [] i

end Source

end DocsConsole.Markdown
