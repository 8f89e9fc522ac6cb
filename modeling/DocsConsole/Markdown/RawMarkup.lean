import DocsConsole.Markdown.Source

/-!
# Raw markup inside a line

Tags, comments, declarations, processing instructions and character data
sections, recognised from the angle bracket that opens them.  A tag may run
over several lines; the margins of its later lines are no part of it, so a
scan also returns the ranges to leave out.
-/

namespace DocsConsole.Markdown

/-- A scan that has reached a position, and the ranges to leave out, last one first. -/
structure MarkupScan where
  pos : Nat
  cuts : List (Nat × Nat)

namespace Source

/-- Moves to the text of the line that starts at the scan's position. -/
def enterLine (resume : Nat → Nat) (scan : MarkupScan) : MarkupScan :=
  let next := resume scan.pos
  if scan.pos < next then ⟨next, (scan.pos, next) :: scan.cuts⟩ else scan

/-- Passes over blanks and line ends.  Without `resume` a line end is not allowed. -/
def skipMarkupBlanks? (s : Source) (resume : Option (Nat → Nat)) (scan : MarkupScan) :
    Option MarkupScan :=
  if scan.pos < s.limit then
    match s.get? scan.pos with
    | none => none
    | some c =>
        if isLineEnd c then
          match resume, s.afterLineEnd? scan.pos with
          | some go, some next =>
              match enterLine go ⟨next, scan.cuts⟩ with
              | ⟨pos, cuts⟩ =>
                  if scan.pos < pos then s.skipMarkupBlanks? resume ⟨pos, cuts⟩ else none
          | _, _ => none
        else if isBlank c then s.skipMarkupBlanks? resume { scan with pos := scan.pos + 1 }
        else some scan
  else none
termination_by s.limit - scan.pos

/-- The rest of a quoted attribute value. -/
def quotedValue? (s : Source) (resume : Option (Nat → Nat)) (quote : Char)
    (scan : MarkupScan) : Option MarkupScan :=
  if scan.pos < s.limit then
    match s.get? scan.pos with
    | none => none
    | some c =>
        if c = quote then some { scan with pos := scan.pos + 1 }
        else if isLineEnd c then
          match resume, s.afterLineEnd? scan.pos with
          | some go, some next =>
              match enterLine go ⟨next, scan.cuts⟩ with
              | ⟨pos, cuts⟩ =>
                  if scan.pos < pos then s.quotedValue? resume quote ⟨pos, cuts⟩ else none
          | _, _ => none
        else s.quotedValue? resume quote { scan with pos := scan.pos + 1 }
  else none
termination_by s.limit - scan.pos

/-- The characters that no bare attribute value has. -/
def endsBareValue (c : Char) : Bool :=
  c = '\x27' || c = '\x22' || c = ' ' || c = '=' || c = '>' || c = '<' || c = '\x60' ||
    isLineEnd c

/-- An attribute value, quoted or bare. -/
def attributeValue? (s : Source) (resume : Option (Nat → Nat)) (scan : MarkupScan) :
    Option MarkupScan :=
  match s.get? scan.pos with
  | none => none
  | some c =>
      if c = '\x22' ∨ c = '\x27' then
        s.quotedValue? resume c { scan with pos := scan.pos + 1 }
      else if endsBareValue c then none
      else some { scan with pos := s.skipWhile (fun d => !endsBareValue d) scan.pos }

/-- An attribute: a name, and a value after an equals sign. -/
def attribute? (s : Source) (resume : Option (Nat → Nat)) (scan : MarkupScan) :
    Option MarkupScan :=
  match s.get? scan.pos with
  | none => none
  | some c =>
      if c.isAlpha || c = '_' || c = ':' then
        let inName (d : Char) : Bool :=
          d.isAlphanum || d = '_' || d = '.' || d = ':' || d = '-'
        let named : MarkupScan := { scan with pos := s.skipWhile inName (scan.pos + 1) }
        match s.skipMarkupBlanks? resume named with
        | none => none
        | some sign =>
            if s.hasAt sign.pos '=' then
              match s.skipMarkupBlanks? resume { sign with pos := sign.pos + 1 } with
              | none => none
              | some value => s.attributeValue? resume value
            else some named
      else none

/-- The attributes of a tag, each after at least one blank; `fuel` bounds their number. -/
def attributes? (s : Source) (resume : Option (Nat → Nat)) : Nat → MarkupScan →
    Option MarkupScan
  | 0, _ => none
  | fuel + 1, scan =>
      match s.skipMarkupBlanks? resume scan with
      | none => none
      | some next =>
          if s.hasAt next.pos '/' ∨ s.hasAt next.pos '>' then some next
          else if next.pos = scan.pos then none
          else
            match s.attribute? resume next with
            | none => none
            | some after => s.attributes? resume fuel after

/-- An opening or closing tag whose angle bracket stands at a position. -/
def tag? (s : Source) (resume : Option (Nat → Nat)) (i : Nat) : Option MarkupScan :=
  let closing := s.hasAt (i + 1) '/'
  let name := if closing then i + 2 else i + 1
  let lettersEnd := s.skipWhile Char.isAlpha name
  if lettersEnd = name then none
  else
    let nameEnd := s.skipWhile (fun c => c.isAlphanum || c = '-') lettersEnd
    let body : Option MarkupScan :=
      if closing then some ⟨nameEnd, []⟩
      else s.attributes? resume (s.limit + 1 - nameEnd) ⟨nameEnd, []⟩
    match body with
    | none => none
    | some scan =>
        let blank := s.skipBlanks scan.pos
        let slash := if closing then blank else s.skipChar '/' blank
        if s.hasAt slash '>' then some { scan with pos := slash + 1 } else none

/-- Whether a tag stands alone on its line. -/
def loneTag (s : Source) (i : Nat) : Bool :=
  match s.tag? none i with
  | some scan => (s.afterBlankLine? scan.pos).isSome
  | none => false

/-- The position after the first occurrence of a text. -/
def afterText? (s : Source) (text : List Char) (i : Nat) : Option Nat :=
  if i < s.limit then
    if s.hasTextAt text i then some (i + text.length) else s.afterText? text (i + 1)
  else none
termination_by s.limit - i

/-- The end of a comment whose text starts at a position.  Two hyphens inside it are an
error. -/
def commentEnd? (s : Source) (i : Nat) : Option Nat :=
  if s.hasAt i '>' ∨ s.hasTextAt ['-', '>'] i then none
  else
    match s.afterText? ['-', '-'] i with
    | some next => if s.hasAt next '>' then some (next + 1) else none
    | none => none

/-- The end of a character data section whose text starts at a position. -/
def dataEnd? (s : Source) (i : Nat) : Option Nat :=
  let bracket := s.skipWhile (· != ']') i
  let stop := s.skipRun ']' bracket
  if bracket < stop ∧ s.hasAt stop '>' then some (stop + 1) else none

/-- The end of a declaration whose name starts at a position. -/
def declarationEnd? (s : Source) (i : Nat) : Option Nat :=
  let nameEnd := s.skipWhile (fun c => 'A' ≤ c && c ≤ 'Z') i
  let bodyStart := s.skipWhile isBlankOrLineEnd nameEnd
  let stop := s.skipWhile (· != '>') bodyStart
  if nameEnd < bodyStart ∧ s.hasAt stop '>' then some (stop + 1) else none

/-- The markup after an exclamation mark. -/
def declared? (s : Source) (i : Nat) : Option Nat :=
  if s.hasTextAt ['-', '-'] i then s.commentEnd? (i + 2)
  else if s.hasTextAt "[CDATA[".toList i then s.dataEnd? (i + 7)
  else
    match s.get? i with
    | some c => if 'A' ≤ c ∧ c ≤ 'Z' then s.declarationEnd? i else none
    | none => none

/-- The text between two positions without the ranges to leave out, last one first. -/
def sliceWithout (s : Source) (start stop : Nat) : List (Nat × Nat) → List Char
  | [] => s.charsBetween start stop
  | (low, high) :: cuts => s.sliceWithout start low cuts ++ s.charsBetween high stop

/-- Markup whose angle bracket stands before a position: where it ends, and its text. -/
def inlineMarkup? (s : Source) (resume : Nat → Nat) (i : Nat) : Option (Nat × String) :=
  let whole (stop : Nat) : Nat × String := (stop, s.slice (i - 1) stop)
  match s.get? i with
  | none => none
  | some c =>
      if c = '!' then (s.declared? (i + 1)).map whole
      else if c = '?' then (s.afterText? ['?', '>'] (i + 1)).map whole
      else
        (s.tag? (some resume) (i - 1)).map fun scan =>
          (scan.pos, String.ofList (s.sliceWithout (i - 1) scan.pos scan.cuts))

end Source

end DocsConsole.Markdown
