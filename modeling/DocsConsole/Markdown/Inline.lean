import DocsConsole.Markdown.Outline

/-!
# Markup inside lines

The pieces of a line are resolved in two passes.  The first goes from left to
right and finds code spans, links, images, addresses and raw markup.  The
second pairs the marks of emphasis.  What neither pass uses is text.

The pieces are those of one block.  In an item of a tight list they stand beside
the blocks of the item, which both passes treat as units.
-/

namespace DocsConsole.Markdown

/-- An opening bracket that has not been closed. -/
structure Bracket where
  /-- How many drafts came before it. -/
  index : Nat
  image : Bool
  /-- A link has been found inside, so this bracket cannot open another one. -/
  disabled : Bool

/-- What the pieces of a block are resolved against. -/
structure InlineContext where
  source : Source
  containers : List Container
  definitions : List (String × Target)

namespace InlineContext

def target? (context : InlineContext) (label : String) : Option Target :=
  let key := Unicode.fold label
  (context.definitions.find? (·.1 == key)).map (·.2)

/-- Where the text starts on the line that starts at a position. -/
def resume (context : InlineContext) (next : Nat) : Nat :=
  Margin.afterMargins context.source context.containers next

end InlineContext

namespace Draft

/-- The drafts that end after a position. -/
def dropTo (i : Nat) (drafts : List Draft) : List Draft :=
  drafts.dropWhile (·.stop ≤ i)

/-- The drafts that end after a position, without what comes before it. -/
def cutAt (i : Nat) (drafts : List Draft) : List Draft :=
  match dropTo i drafts with
  | [] => []
  | draft :: rest => draft.withStart (max draft.start i) :: rest

def isBreak : Draft → Bool
  | .piece _ _ (.settled .softBreak) => true
  | .piece _ _ (.settled .hardBreak) => true
  | _ => false

def asPlain : Draft → Draft
  | .piece start stop _ => .piece start stop .plain
  | other => other

end Draft

namespace Source

/-- The rest of a code span that holds a line break.  `first` says that nothing has been
passed yet, `written` is the text so far, if a line break has been written. -/
def spanFrom (s : Source) (stripped : Bool) (closeStart stop : Nat) :
    (first : Bool) → (start : Nat) → (written : Option (List Char)) → List Draft → List Char
  | _, start, written, [] => written.getD (s.charsBetween start stop)
  | first, start, written, draft :: rest =>
      let nextStart := match rest with
        | [] => closeStart
        | next :: _ => next.start
      if draft.isBreak then
        if stripped && first then
          s.spanFrom stripped closeStart stop false (min stop nextStart) written rest
        else if stripped && rest.isEmpty then written.getD (s.charsBetween start stop)
        else
          let lineEnd := s.skipWhile (fun c => !isLineEnd c) draft.start
          let line :=
            match written with
            | some text => text ++ s.charsBetween draft.start lineEnd
            | none => s.charsBetween start lineEnd
          s.spanFrom stripped closeStart stop false start (some (line ++ [' '])) rest
      else
        let pieceEnd := if rest.isEmpty then stop else draft.stop
        let written := written.map (· ++ s.charsBetween draft.start pieceEnd)
        s.spanFrom stripped closeStart stop false start written rest

/-- The text of a code span between two runs of backquotes.  One blank at both ends is left
out, unless there are only blanks, and a line break becomes a space. -/
def codeSpan (s : Source) (start stop : Nat) (between : List Draft) : String :=
  let inner := s.charsBetween start stop
  if inner.all (· = ' ') then String.ofList inner
  else
    let atEdge (c : Option Char) : Bool := c = some ' ' || c = some '\r' || c = some '\n'
    let stripped := atEdge inner.head? && atEdge inner.getLast?
    let low := if stripped then start + 1 else start
    let high := if stripped && low < stop then stop - 1 else stop
    String.ofList (s.spanFrom stripped stop high true low none between)

end Source

/-- The first pass: drafts done, last one first, and the brackets still open. -/
structure LinkScan where
  done : List Draft
  brackets : List Bracket

namespace LinkScan

/-- Passes a draft on. -/
def push (scan : LinkScan) (draft : Draft) : LinkScan :=
  { scan with done := draft :: scan.done }

/-- Replaces the drafts from an open bracket on by a link or an image. -/
def enclose (scan : LinkScan) (bracket : Bracket) (outer : List Bracket) (target : Target)
    (stop : Nat) : LinkScan :=
  let count := scan.done.length - bracket.index
  let enclosed := (scan.done.take count).reverse
  let before := scan.done.drop count
  let start := (enclosed.head?.map Draft.start).getD stop
  let tag : Tag :=
    if bracket.image then .image target.destination target.title
    else .link .address target.destination target.title
  let brackets :=
    if bracket.image then outer
    else outer.map fun b => if b.image then b else { b with disabled := true }
  ⟨.block start stop tag none (enclosed.drop 1) :: before, brackets⟩

end LinkScan

namespace InlineContext

/-- What a closing bracket is followed by: a label and where it ends, the drafts after it,
and the drafts that follow if there is no such link. -/
structure ReferenceEnd where
  label : Option (Nat × String)
  after : List Draft
  otherwise : List Draft

/-- The label between an opening bracket and the closing bracket that ends at a position. -/
def ownLabel? (context : InlineContext) (openStop closeStop : Nat) : Option (Nat × String) :=
  match (context.source.upTo closeStop).label? (some ∘ context.resume) openStop with
  | some (stop, label) => if stop = closeStop then some (stop, label) else none
  | none => none

/-- The drafts with the closing bracket that ends at a position marked as part of a
reference, and the drafts after it. -/
def markClosing (i : Nat) : List Draft → List Draft × Option (List Draft)
  | [] => ([], none)
  | draft :: rest =>
      if draft.stop ≤ i then
        let (marked, after) := markClosing i rest
        (draft :: marked, after)
      else
        let marked : Draft :=
          match draft with
          | .piece start stop _ => .piece start stop (.closing false)
          | other => other
        (marked :: rest, some rest)

/-- How a closing bracket refers to a definition. -/
def referenceEnd? (context : InlineContext) (limited : Source) (refers : Bool)
    (openStop closeStop : Nat) (rest : List Draft) : ReferenceEnd :=
  let own (after : List Draft) : ReferenceEnd :=
    if refers then ⟨context.ownLabel? openStop closeStop, after, rest⟩
    else ⟨none, rest, rest⟩
  match rest with
  | [] => own []
  | next :: _ =>
      if limited.hasTextAt ['[', ']'] next.start then own (rest.drop 2)
      else if limited.hasAt next.start '[' then
        match limited.label? (some ∘ context.resume) (next.start + 1) with
        | some (stop, label) =>
            match markClosing (stop - 1) rest with
            | (marked, some after) => ⟨some (stop, label), after, marked⟩
            | (_, none) => ⟨none, rest, rest⟩
        | none => own rest
      else own rest

/-- Where the text goes on after a line end inside the title of a link. -/
def resumeTitle (rest : List Draft) (i : Nat) : Option Nat :=
  match Draft.dropTo (i + 1) rest with
  | next :: _ => if i < next.start then some next.start else none
  | [] => none

/-- The drafts of the first pass.  `limited` is the source up to the end of the block, and
`fuel` bounds the number of drafts left. -/
def scanLinks (context : InlineContext) (limited : Source) :
    Nat → LinkScan → List Draft → List Draft
  | 0, scan, rest => scan.done.reverse ++ rest
  | _, scan, [] => scan.done.reverse
  | fuel + 1, scan, draft :: rest =>
      let asText : LinkScan := scan.push draft.asPlain
      match draft with
      | .piece start _ .angle =>
          match rest with
          | [] => context.scanLinks limited fuel asText rest
          | next :: _ =>
              match limited.autolink? next.start with
              | some (kind, stop) =>
                  let link : Draft :=
                    .block start (stop + 1) (.link kind (limited.slice next.start stop) "") none
                      [.piece (start + 1) stop .plain]
                  context.scanLinks limited fuel (scan.push link) (Draft.cutAt (stop + 1) rest)
              | none =>
                  match limited.inlineMarkup? context.resume next.start with
                  | some (stop, content) =>
                      context.scanLinks limited fuel
                        (scan.push (.piece start stop (.settled (.html content))))
                        (Draft.cutAt stop rest)
                  | none => context.scanLinks limited fuel asText rest
      | .piece start stop (.ticks length escaped) =>
          let wanted := if escaped then length - 1 else length
          let matching (other : Draft) : Bool :=
            match other with
            | .piece _ _ (.ticks count _) => count == wanted
            | _ => false
          let between := rest.takeWhile (!matching ·)
          match rest.drop between.length with
          | close :: after =>
              if wanted = 0 then context.scanLinks limited fuel asText rest
              else
                let content := limited.codeSpan stop close.start between
                let code (low : Nat) : Draft :=
                  .piece low close.stop (.settled (.code content))
                let next :=
                  if escaped then
                    (scan.push (.piece start (start + 1) .plain)).push (code (start + 1))
                  else scan.push (code start)
                context.scanLinks limited fuel next after
          | [] => context.scanLinks limited fuel asText rest
      | .piece _ _ (.opening image) =>
          let bracket : Bracket := ⟨scan.done.length, image, false⟩
          context.scanLinks limited fuel
            { asText with brackets := bracket :: scan.brackets } rest
      | .piece _ stop (.closing refers) =>
          match scan.brackets with
          | [] => context.scanLinks limited fuel asText rest
          | bracket :: outer =>
              let unpaired : LinkScan := { asText with brackets := outer }
              if bracket.disabled then context.scanLinks limited fuel unpaired rest
              else
                match limited.inlineTarget? (resumeTitle rest) stop with
                | some (next, target) =>
                    context.scanLinks limited fuel (scan.enclose bracket outer target next)
                      (Draft.cutAt next rest)
                | none =>
                    let opener := scan.done[scan.done.length - bracket.index - 1]?
                    let openStop := (opener.map Draft.stop).getD stop
                    let found := context.referenceEnd? limited refers openStop stop rest
                    match found.label with
                    | some (labelStop, label) =>
                        match context.target? label with
                        | some target =>
                            context.scanLinks limited fuel
                              (scan.enclose bracket outer target labelStop) found.after
                        | none => context.scanLinks limited fuel unpaired found.otherwise
                    | none => context.scanLinks limited fuel unpaired found.otherwise
      | _ => context.scanLinks limited fuel (scan.push draft) rest

end InlineContext

/-- A run of marks that may open an emphasis. -/
structure OpenRun where
  /-- How many drafts come before it. -/
  index : Nat
  count : Nat
  mark : Char
  /-- The run could have closed an emphasis too. -/
  both : Bool

/-- Below which of the open runs no partner is found, for each kind of closing run. -/
structure SearchBounds where
  underscoreOnly : Nat := 0
  underscoreBoth : Nat := 0
  asteriskOnly : Nat := 0
  asteriskByLength : List Nat := [0, 0, 0]
  tilde : Nat := 0

namespace SearchBounds

/-- The bound for a closing run. -/
def get (bounds : SearchBounds) (mark : Char) (count : Nat) (both : Bool) : Nat :=
  if mark = '_' then if both then bounds.underscoreBoth else bounds.underscoreOnly
  else if mark = '*' then
    let byLength := (bounds.asteriskByLength[count % 3]?).getD 0
    if both then byLength else min byLength bounds.asteriskOnly
  else bounds.tilde

/-- Records that a closing run has no partner below a bound. -/
def record (bounds : SearchBounds) (mark : Char) (count : Nat) (both : Bool) (bound : Nat) :
    SearchBounds :=
  if mark = '_' then
    if both then { bounds with underscoreBoth := bound }
    else { bounds with underscoreOnly := bound }
  else if mark = '*' then
    let byLength := bounds.asteriskByLength.set (count % 3) bound
    if both then { bounds with asteriskByLength := byLength }
    else { bounds with asteriskByLength := byLength, asteriskOnly := bound }
  else { bounds with tilde := bound }

/-- No bound lies above the number of open runs. -/
def cap (bounds : SearchBounds) (bound : Nat) : SearchBounds :=
  ⟨min bounds.underscoreOnly bound, min bounds.underscoreBoth bound,
    min bounds.asteriskOnly bound, bounds.asteriskByLength.map (min · bound),
    min bounds.tilde bound⟩

end SearchBounds

/-- The second pass: drafts done in order, open runs in order, and search bounds. -/
structure EmphasisScan where
  done : Array Draft
  runs : Array OpenRun
  bounds : SearchBounds

namespace EmphasisScan

/-- Whether an open run and a closing run can be partners.  If one of them can both open and
close, their lengths must not add up to a multiple of three, unless both are one. -/
def pairs (run : OpenRun) (mark : Char) (count : Nat) (both : Bool) : Bool :=
  run.mark = mark &&
    ((!both && !run.both) || (count + run.count) % 3 != 0 || count % 3 == 0)

/-- The last open run from a bound on that pairs with a closing run. -/
def partner? (scan : EmphasisScan) (mark : Char) (count : Nat) (both : Bool) :
    Option (Nat × OpenRun) :=
  let bound := min scan.runs.size (scan.bounds.get mark count both)
  ((List.range scan.runs.size).drop bound).reverse.findSome? fun i =>
    match scan.runs[i]? with
    | some run => if pairs run mark count both then some (i, run) else none
    | none => none

/-- Puts drafts into emphasis by so many marks at each end: pairs of marks inside, a single
one outside. -/
def wrap (mark : Char) (start stop : Nat) : Nat → List Draft → List Draft
  | 0, inner => inner
  | 1, inner =>
      let tag : Tag := if mark = '~' then .strikethrough else .emphasis
      [.block (start - 1) (stop + 1) tag none inner]
  | marks + 2, inner =>
      let tag : Tag := if mark = '~' then .strikethrough else .strong
      wrap mark (start - 2) (stop + 2) marks [.block (start - 2) (stop + 2) tag none inner]

/-- Closes open runs with a closing run as long as it has marks and a partner; the result
has the number of marks left. -/
def close (mark : Char) (both : Bool) : Nat → EmphasisScan → Nat → Nat → EmphasisScan × Nat
  | 0, scan, _, count => (scan, count)
  | fuel + 1, scan, i, count =>
      if count = 0 then (scan, 0)
      else
        match scan.partner? mark count both with
        | none =>
            ({ scan with bounds := scan.bounds.record mark count both scan.runs.size }, count)
        | some (position, run) =>
            let marks := min count run.count
            let innerStart := run.index + run.count
            let inner := (scan.done.extract innerStart scan.done.size).toList
            let opened := ((scan.done[innerStart - 1]?).map Draft.stop).getD i
            let kept := scan.done.extract 0 (innerStart - marks)
            let left := run.count - marks
            let outer := scan.runs.extract 0 position
            let runs := if left = 0 then outer else outer.push { run with count := left }
            let next : EmphasisScan :=
              ⟨kept ++ (wrap mark opened i marks inner).toArray, runs,
                scan.bounds.cap position⟩
            close mark both fuel next (i + marks) (count - marks)

/-- The rest of the second pass. -/
def scanRuns : Nat → EmphasisScan → List Draft → List Draft
  | 0, scan, rest => scan.done.toList ++ rest
  | _, scan, [] => scan.done.toList
  | fuel + 1, scan, draft :: rest =>
      match draft with
      | .piece start _ (.delimiter mark count opens closes) =>
          let both := opens && closes
          let (closed, left) :=
            if closes then close mark both (count + 1) scan start count else (scan, count)
          let marks := ((draft :: rest).take count).drop (count - left)
          let runs :=
            if left ≠ 0 && opens then closed.runs.push ⟨closed.done.size, left, mark, both⟩
            else closed.runs
          scanRuns fuel
            { closed with
              done := closed.done ++ (marks.map Draft.asPlain).toArray
              runs := runs }
            (rest.drop (count - 1))
      | other => scanRuns fuel { scan with done := scan.done.push other } rest

end EmphasisScan

namespace InlineContext

def leaf (context : InlineContext) (start stop : Nat) : Piece → Leaf
  | .settled content => content
  | .markup => .html (context.source.slice start stop)
  | _ => .text (context.source.slice start stop)

/-- The nodes of a list of drafts that end at a position.  `fuel` bounds the depth of the
drafts. -/
def resolve : Nat → InlineContext → Nat → List Draft → List Node
  | 0, _, _, _ => []
  | fuel + 1, context, stop, drafts =>
      let linked :=
        context.scanLinks (context.source.upTo stop) (drafts.length + 1) ⟨[], []⟩ drafts
      let resolved := EmphasisScan.scanRuns (linked.length + 1) ⟨#[], #[], {}⟩ linked
      resolved.map fun draft =>
        match draft with
        | .piece low high body => .leaf (context.leaf low high body)
        | .block _ high tag container children =>
            let inside :=
              { context with containers := context.containers ++ container.toList }
            .element tag (resolve fuel inside high children)

end InlineContext

/-- The document that a text writes. -/
def parse (text : String) : List Node :=
  let source := Source.ofString text
  let outline := Outline.ofSource source
  let drafts := outline.finished.reverse
  InlineContext.resolve (Draft.listSize drafts + 1) ⟨source, [], outline.definitions⟩
    source.limit drafts

def events (text : String) : List Event :=
  Node.listEvents (parse text)

end DocsConsole.Markdown
