import DocsConsole.Markdown.Entity
import DocsConsole.Markdown.Event

/-!
# Link labels, destinations and titles

The parts of links and of link reference definitions.  A label, a destination
in angle brackets and a title end at a closing character; a bare destination
ends at a blank or at an unmatched parenthesis.  A label or title may run over
several lines, and the caller says where the text of the next line starts.
-/

namespace DocsConsole.Markdown

open DocsConsole.Unicode

/-- Where a link leads. -/
structure Target where
  destination : String
  title : String
deriving DecidableEq, Repr, Inhabited

namespace Source

/-- The end of a run of blanks with at most one line end, inside a label. -/
def afterLabelBlanks? (s : Source) (resume : Nat → Option Nat) (broken : Bool) (i : Nat) :
    Option Nat :=
  if i < s.limit then
    match s.get? i with
    | none => some i
    | some c =>
        if isLineEnd c then
          if broken then none
          else
            match (s.afterLineEnd? i).bind resume with
            | some next => s.afterLabelBlanks? resume true (max next (i + 1))
            | none => none
        else if isBlank c then s.afterLabelBlanks? resume broken (i + 1)
        else some i
  else some i
termination_by s.limit - i

/-- A label has fewer characters than this. -/
def labelBound : Nat := 1000

/-- The rest of a link label: the position after its closing bracket and its characters in
reverse, every run of blanks replaced by one space. -/
def labelFrom? (s : Source) (resume : Nat → Option Nat) (read : List Char) (i : Nat) :
    Option (Nat × List Char) :=
  if read.length ≥ labelBound then none
  else if i < s.limit then
    match s.get? i with
    | none => none
    | some c =>
        if c = '[' then none
        else if c = ']' then some (i + 1, read)
        else if c = '\\' then
          s.labelFrom? resume ((s.get? (i + 1)).toList ++ '\\' :: read) (i + 2)
        else if isBlankOrLineEnd c then
          match s.afterLabelBlanks? resume false i with
          | some next => s.labelFrom? resume (' ' :: read) (max next (i + 1))
          | none => none
        else s.labelFrom? resume (c :: read) (i + 1)
  else none
termination_by s.limit - i

/-- The link label whose text starts at a position, after the opening bracket; one of blanks
alone is none. -/
def label? (s : Source) (resume : Nat → Option Nat) (i : Nat) : Option (Nat × String) :=
  match s.labelFrom? resume [] i with
  | some (stop, read) =>
      if read.all isBlank then none else some (stop, String.ofList read.reverse)
  | none => none

/-- The position of the bracket that closes a destination in angle brackets. -/
def pointedEnd? (s : Source) (i : Nat) : Option Nat :=
  if i < s.limit then
    match s.get? i with
    | none => none
    | some c =>
        if isLineEnd c ∨ c = '<' then none
        else if c = '>' then some i
        else if c = '\\' ∧ s.hasPunctuationAt (i + 1) then s.pointedEnd? (i + 2)
        else s.pointedEnd? (i + 1)
  else none
termination_by s.limit - i

/-- The end of a bare destination, whose parentheses nest no deeper than a bound. -/
def bareEnd? (s : Source) (bound nested i : Nat) : Option Nat :=
  if i < s.limit then
    match s.get? i with
    | none => some i
    | some c =>
        if c.toNat ≤ 0x20 then some i
        else if c = '(' then
          if nested > bound then none else s.bareEnd? bound (nested + 1) (i + 1)
        else if c = ')' then
          if nested = 0 then some i else s.bareEnd? bound (nested - 1) (i + 1)
        else if c = '\\' ∧ s.hasPunctuationAt (i + 1) then s.bareEnd? bound nested (i + 2)
        else s.bareEnd? bound nested (i + 1)
  else some i
termination_by s.limit - i

/-- A link destination: the position after it and the range of its text. -/
def destination? (s : Source) (bound i : Nat) : Option (Nat × Nat × Nat) :=
  if s.hasAt i '<' then
    (s.pointedEnd? (i + 1)).map fun stop => (stop + 1, i + 1, stop)
  else (s.bareEnd? bound 0 i).map fun stop => (stop, i, stop)

/-- The character that closes a title, by the one that opens it. -/
def titleCloser? (opener : Char) : Option Char :=
  if opener = '\x22' ∨ opener = '\x27' then some opener
  else if opener = '(' then some ')'
  else none

/-- The rest of the title of an inline link.  `resume` gives the start of the text on the
line after a line end. -/
def titleFrom? (s : Source) (resume : Nat → Option Nat) (opener closer : Char)
    (read : List Char) (i : Nat) : Option (Nat × List Char) :=
  if i < s.limit then
    match s.get? i with
    | none => none
    | some c =>
        if c = closer then some (i + 1, read)
        else if c = opener then none
        else if isLineEnd c then
          match resume i with
          | some next => s.titleFrom? resume opener closer ('\n' :: read) (max next (i + 1))
          | none => s.titleFrom? resume opener closer (c :: read) (i + 1)
        else if c = '&' then
          match s.reference? i with
          | some (stop, characters) =>
              s.titleFrom? resume opener closer (characters.reverse ++ read) (max stop (i + 1))
          | none => s.titleFrom? resume opener closer (c :: read) (i + 1)
        else if c = '\\' ∧ s.hasPunctuationAt (i + 1) then
          s.titleFrom? resume opener closer ((s.get? (i + 1)).toList ++ read) (i + 2)
        else s.titleFrom? resume opener closer (c :: read) (i + 1)
  else none
termination_by s.limit - i

/-- The title of an inline link that starts at a position. -/
def title? (s : Source) (resume : Nat → Option Nat) (i : Nat) : Option (Nat × String) :=
  match s.get? i with
  | some opener =>
      match titleCloser? opener with
      | some closer =>
          (s.titleFrom? resume opener closer [] (i + 1)).map fun (stop, read) =>
            (stop, String.ofList read.reverse)
      | none => none
  | none => none

/-- How deep the parentheses of an inline destination nest. -/
def inlineDepth : Nat := 5

/-- The part of an inline link from its opening parenthesis on. -/
def inlineTarget? (s : Source) (resume : Nat → Option Nat) (i : Nat) :
    Option (Nat × Target) :=
  if s.hasAt i '(' then
    match s.destination? inlineDepth (s.skipWhile isBlankOrLineEnd (i + 1)) with
    | none => none
    | some (next, start, stop) =>
        let start' := s.skipWhile isBlankOrLineEnd next
        let (closing, title) :=
          match s.title? resume start' with
          | some (after, title) => (s.skipWhile isBlankOrLineEnd after, title)
          | none => (start', "")
        if s.hasAt closing ')' then some (closing + 1, ⟨s.unescape start stop, title⟩)
        else none
  else none

/-- The position after the scheme of an address and its colon. -/
def afterScheme? (s : Source) (i : Nat) : Option Nat :=
  let inScheme (c : Char) : Bool := c.isAlphanum || c = '.' || c = '-' || c = '+'
  match s.get? i with
  | some c =>
      let stop := s.skipWhile inScheme i
      if c.isAlpha && s.hasAt stop ':' && 2 ≤ stop - i && stop - i ≤ 32 then some (stop + 1)
      else none
  | none => none

/-- The closing bracket of an address in angle brackets. -/
def addressEnd? (s : Source) (i : Nat) : Option Nat :=
  match s.afterScheme? i with
  | none => none
  | some start =>
      let stop := s.skipWhile (fun c => 0x20 < c.toNat && c != '<' && c != '>') start
      if s.hasAt stop '>' then some stop else none

/-- The characters of the local part of a mailbox. -/
def isMailboxChar (c : Char) : Bool :=
  c.isAlphanum || ".!#$%&'*+/=?^_\x60\x7b|\x7d~-".toList.contains c

/-- The end of the dotted labels of a mailbox's domain. -/
def domainEnd? (s : Source) (i : Nat) : Option Nat :=
  let stop := s.skipWhile (fun c => c.isAlphanum || c = '-') i
  if stop = i ∨ stop - i > 63 ∨ s.hasAt i '-' ∨ s.hasAt (stop - 1) '-' then none
  else if i < stop ∧ stop < s.limit then
    if s.hasAt stop '.' then s.domainEnd? (stop + 1) else some stop
  else some stop
termination_by s.limit - i

/-- The closing bracket of a mailbox in angle brackets. -/
def mailboxEnd? (s : Source) (i : Nat) : Option Nat :=
  let sign := s.skipWhile isMailboxChar i
  if i < sign ∧ s.hasAt sign '@' then
    match s.domainEnd? (sign + 1) with
    | some stop => if s.hasAt stop '>' then some stop else none
    | none => none
  else none

/-- An address or mailbox in angle brackets: its kind and the position of its end. -/
def autolink? (s : Source) (i : Nat) : Option (LinkKind × Nat) :=
  match s.addressEnd? i with
  | some stop => some (.address, stop)
  | none => (s.mailboxEnd? i).map (.mailbox, ·)

/-- The end of blanks with at most one line end between the parts of a definition, and
whether there was a line end. -/
def afterDefinitionBlanks? (s : Source) (resume : Nat → Option Nat) (i : Nat) :
    Option (Nat × Bool) :=
  let first := s.skipBlanks i
  match s.afterLineEnd? first with
  | none => some (first, false)
  | some next =>
      match resume next with
      | none => none
      | some start =>
          let second := s.skipBlanks start
          match s.afterLineEnd? second with
          | none => some (second, true)
          | some _ => none

/-- The rest of the title of a definition: the position of its closing character. -/
def definitionTitleEnd? (s : Source) (closer : Char) (i : Nat) : Option Nat :=
  if i < s.limit then
    match s.get? i with
    | none => none
    | some c =>
        if c = '\n' then
          let next := s.skipBlanks (i + 1)
          if s.limit ≤ next ∨ s.hasAt next '\n' then none
          else s.definitionTitleEnd? closer (max next (i + 1))
        else if c = '\\' then
          if i + 1 < s.limit then s.definitionTitleEnd? closer (i + 2) else none
        else if c = closer then some i
        else s.definitionTitleEnd? closer (i + 1)
  else none
termination_by s.limit - i

/-- The part of a definition after its colon: the position after it and the target.  The
title is dropped when other text follows it on its own line. -/
def definitionTarget? (s : Source) (resume : Nat → Option Nat) (i : Nat) :
    Option (Nat × Target) :=
  match s.afterDefinitionBlanks? resume i with
  | none => none
  | some (start, _) =>
      match s.destination? 1 start with
      | none => none
      | some (next, first, last) =>
          if next = start then none
          else
            let bare : Nat × Target := (next, ⟨s.unescape first last, ""⟩)
            match s.afterDefinitionBlanks? resume next with
            | none => some bare
            | some (titleStart, broken) =>
                let fallback : Option (Nat × Target) := if broken then some bare else none
                if titleStart = next ∧ !broken then
                  if s.limit ≤ next then some bare else none
                else
                  match (s.get? titleStart).bind titleCloser? with
                  | none => fallback
                  | some closer =>
                      match s.definitionTitleEnd? closer (titleStart + 1) with
                      | none => fallback
                      | some stop =>
                          if (s.afterBlankLine? (stop + 1)).isSome then
                            some (stop + 1,
                              ⟨s.unescape first last, s.unescape (titleStart + 1) stop⟩)
                          else fallback

end Source

end DocsConsole.Markdown
