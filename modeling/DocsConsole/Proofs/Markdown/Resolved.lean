import DocsConsole.Markdown.Inline
import DocsConsole.Proofs.Markdown.Document

/-!
# Resolved lines

The two passes over the drafts of a block turn pieces into text, put drafts into inline markup, and
drop drafts that belong to a link.  So a line stays a line, and where no piece is open, nothing
changes.  What holds of the drafts of a document therefore holds of its nodes.
-/

namespace DocsConsole.Markdown

namespace Draft

/-- Whether both passes leave a draft as it is. -/
def isUnit : Draft → Bool
  | .piece _ _ .plain => true
  | .piece _ _ .markup => true
  | .piece _ _ (.settled _) => true
  | .piece _ _ _ => false
  | .block _ _ _ _ _ => true

/-- A class of drafts that the passes do not lead out of. -/
structure Stable (P : Draft → Prop) : Prop where
  piece : ∀ {start stop : Nat} {body : Piece}, body ≠ .settled .rule → P (.piece start stop body)
  shifted : ∀ (start : Nat) {draft : Draft}, P draft → P (draft.withStart start)
  wrapped : ∀ {start stop : Nat} {tag : Tag} {children : List Draft}, tag.isInline = true →
    (∀ child ∈ children, P child) → P (.block start stop tag none children)

variable {P : Draft → Prop}

theorem Stable.asPlain (stable : Stable P) {draft : Draft} (holds : P draft) : P draft.asPlain := by
  cases draft with
  | piece => exact stable.piece nofun
  | block => exact holds

theorem dropTo_all {i : Nat} {drafts : List Draft} (all : ∀ draft ∈ drafts, P draft) :
    ∀ draft ∈ dropTo i drafts, P draft :=
  fun draft member => all draft ((List.dropWhile_sublist _).mem member)

theorem Stable.cutAt (stable : Stable P) {i : Nat} {drafts : List Draft}
    (all : ∀ draft ∈ drafts, P draft) : ∀ draft ∈ cutAt i drafts, P draft := by
  have kept := dropTo_all (i := i) all
  unfold Draft.cutAt
  split
  case h_1 => exact nofun
  case h_2 draft rest cut =>
    rw [cut] at kept
    exact List.forall_mem_cons.mpr
      ⟨stable.shifted _ (kept draft List.mem_cons_self),
        fun other member => kept other (List.mem_cons_of_mem draft member)⟩

end Draft

open Draft (Stable)

namespace LinkScan

variable {P : Draft → Prop} {scan : LinkScan}

theorem push_all {draft : Draft} (done : ∀ draft ∈ scan.done, P draft) (holds : P draft) :
    ∀ other ∈ (scan.push draft).done, P other :=
  List.forall_mem_cons.mpr ⟨holds, done⟩

theorem enclose_all (stable : Stable P) (bracket : Bracket) (outer : List Bracket)
    (target : Target) (stop : Nat) (done : ∀ draft ∈ scan.done, P draft) :
    ∀ draft ∈ (scan.enclose bracket outer target stop).done, P draft := by
  refine List.forall_mem_cons.mpr ⟨?_, fun draft member => done draft (List.mem_of_mem_drop member)⟩
  refine stable.wrapped ?_ ?_
  · cases bracket.image <;> rfl
  · intro child member
    exact done child (List.mem_of_mem_take (List.mem_reverse.mp (List.mem_of_mem_drop member)))

end LinkScan

namespace InlineContext

variable {P : Draft → Prop}

theorem markClosing_all (stable : Stable P) {i : Nat} {drafts : List Draft}
    (all : ∀ draft ∈ drafts, P draft) :
    (∀ draft ∈ (markClosing i drafts).1, P draft) ∧
      ∀ after ∈ (markClosing i drafts).2, ∀ draft ∈ after, P draft := by
  induction drafts with
  | nil => exact ⟨nofun, nofun⟩
  | cons draft rest induction =>
      obtain ⟨first, others⟩ := List.forall_mem_cons.mp all
      obtain ⟨marked, follow⟩ := induction others
      unfold markClosing
      split
      case isTrue => exact ⟨List.forall_mem_cons.mpr ⟨first, marked⟩, follow⟩
      case isFalse =>
        refine ⟨List.forall_mem_cons.mpr ⟨?_, others⟩, ?_⟩
        · cases draft with
          | piece => exact stable.piece nofun
          | block => exact first
        · intro after same
          cases Option.mem_some_iff.mp same
          exact others

theorem referenceEnd?_all (stable : Stable P) (context : InlineContext) (limited : Source)
    (refers : Bool) (openStop closeStop : Nat) {rest : List Draft}
    (all : ∀ draft ∈ rest, P draft) :
    (∀ draft ∈ (context.referenceEnd? limited refers openStop closeStop rest).after, P draft) ∧
      ∀ draft ∈ (context.referenceEnd? limited refers openStop closeStop rest).otherwise,
        P draft := by
  unfold referenceEnd?
  have own : ∀ after : List Draft, (∀ draft ∈ after, P draft) →
      let found : ReferenceEnd :=
        if refers then ⟨context.ownLabel? openStop closeStop, after, rest⟩ else ⟨none, rest, rest⟩
      (∀ draft ∈ found.after, P draft) ∧ ∀ draft ∈ found.otherwise, P draft := by
    intro after holds
    cases refers
    · exact ⟨all, all⟩
    · exact ⟨holds, all⟩
  cases rest with
  | nil => exact own [] nofun
  | cons next tail =>
    simp only
    split
    case isTrue => exact own _ fun draft member => all draft (List.mem_of_mem_drop member)
    case isFalse =>
      split
      case isTrue =>
        split
        case h_1 stop label found =>
          have closed := markClosing_all stable (i := stop - 1) all
          split
          case h_1 marked after divided =>
            rw [divided] at closed
            exact ⟨closed.2 after rfl, closed.1⟩
          case h_2 => exact ⟨all, all⟩
        case h_2 => exact own _ all
      case isFalse => exact own _ all

/-- The first pass over a line stays in a stable class. -/
theorem scanLinks_all (stable : Stable P) (context : InlineContext) (limited : Source)
    (fuel : Nat) (scan : LinkScan) (rest : List Draft) (done : ∀ draft ∈ scan.done, P draft)
    (ahead : ∀ draft ∈ rest, P draft) :
    ∀ draft ∈ context.scanLinks limited fuel scan rest, P draft := by
  fun_induction scanLinks context limited fuel scan rest
  case case1 =>
    intro draft member
    rcases List.mem_append.mp member with earlier | later
    · exact done draft (List.mem_reverse.mp earlier)
    · exact ahead draft later
  case case2 => exact fun draft member => done draft (List.mem_reverse.mp member)
  case case4 induction =>
    refine induction (LinkScan.push_all done (stable.wrapped rfl ?_))
      (stable.cutAt (List.forall_mem_cons.mp ahead).2)
    intro child member
    cases List.mem_singleton.mp member
    exact stable.piece nofun
  case case5 induction =>
    exact induction (LinkScan.push_all done (stable.piece nofun))
      (stable.cutAt (List.forall_mem_cons.mp ahead).2)
  case case8 escaped wanted matching between close after found useful content code next induction =>
    have follow : ∀ draft ∈ close :: after, P draft := by
      rw [← found]
      exact fun draft member =>
        (List.forall_mem_cons.mp ahead).2 draft (List.mem_of_mem_drop member)
    refine induction ?_ (List.forall_mem_cons.mp follow).2
    cases escaped
    · exact LinkScan.push_all done (stable.piece nofun)
    · exact LinkScan.push_all (LinkScan.push_all done (stable.piece nofun)) (stable.piece nofun)
  case case13 induction =>
    exact induction (LinkScan.enclose_all stable _ _ _ _ done)
      (stable.cutAt (List.forall_mem_cons.mp ahead).2)
  case case14 induction =>
    exact induction (LinkScan.enclose_all stable _ _ _ _ done)
      (referenceEnd?_all stable _ _ _ _ _ (List.forall_mem_cons.mp ahead).2).1
  case case15 induction | case16 induction =>
    exact induction (LinkScan.push_all done (stable.piece nofun))
      (referenceEnd?_all stable _ _ _ _ _ (List.forall_mem_cons.mp ahead).2).2
  case case17 induction =>
    obtain ⟨first, others⟩ := List.forall_mem_cons.mp ahead
    exact induction (LinkScan.push_all done first) others
  -- Everywhere else the draft becomes text.
  case case3 induction | case6 induction | case7 induction | case9 induction | case10 induction |
      case11 induction | case12 induction =>
    exact induction (LinkScan.push_all done (stable.piece nofun)) (List.forall_mem_cons.mp ahead).2

/-- The first pass leaves drafts without open pieces as they are. -/
theorem scanLinks_of_units (context : InlineContext) (limited : Source) (fuel : Nat)
    (scan : LinkScan) (rest : List Draft) (units : ∀ draft ∈ rest, draft.isUnit = true) :
    context.scanLinks limited fuel scan rest = scan.done.reverse ++ rest := by
  induction rest generalizing fuel scan with
  | nil =>
      cases fuel <;> simp [scanLinks]
  | cons draft rest induction =>
      obtain ⟨unit, others⟩ := List.forall_mem_cons.mp units
      cases fuel with
      | zero => rfl
      | succ fuel =>
          have passed : context.scanLinks limited (fuel + 1) scan (draft :: rest) =
              context.scanLinks limited fuel (scan.push draft) rest := by
            cases draft with
            | block => rfl
            | piece start stop body =>
                cases body with
                | angle => cases unit
                | ticks => cases unit
                | opening => cases unit
                | closing => cases unit
                | _ => rfl
          rw [passed, induction fuel (scan.push draft) others]
          simp [LinkScan.push]

end InlineContext

namespace EmphasisScan

variable {P : Draft → Prop}

theorem wrap_all (stable : Stable P) (mark : Char) (start stop count : Nat) {inner : List Draft}
    (all : ∀ draft ∈ inner, P draft) : ∀ draft ∈ wrap mark start stop count inner, P draft := by
  fun_induction wrap mark start stop count inner with
  | case1 => exact all
  | case2 start stop inner tag =>
      intro draft member
      cases List.mem_singleton.mp member
      refine stable.wrapped ?_ all
      unfold tag
      split <;> rfl
  | case3 start stop inner marks tag induction =>
      refine induction ?_
      intro draft member
      cases List.mem_singleton.mp member
      refine stable.wrapped ?_ all
      unfold tag
      split <;> rfl

theorem close_all (stable : Stable P) (mark : Char) (both : Bool) (fuel : Nat)
    (scan : EmphasisScan) (i count : Nat) (done : ∀ draft ∈ scan.done, P draft) :
    ∀ draft ∈ (close mark both fuel scan i count).1.done, P draft := by
  fun_induction close mark both fuel scan i count with
  | case1 => exact done
  | case2 => exact done
  | case3 => exact done
  | case4 fuel scan i count marked position run found marks innerStart inner opened kept left outer
      runs next induction =>
      have part : ∀ low high, ∀ draft ∈ scan.done.extract low high, P draft := by
        intro low high draft member
        obtain ⟨k, _, rfl⟩ := Array.mem_extract_iff_getElem.mp member
        exact done _ (Array.getElem_mem _)
      refine induction ?_
      intro draft member
      rcases Array.mem_append.mp member with earlier | wrapped
      · exact part _ _ draft earlier
      · refine wrap_all stable mark opened i marks ?_ draft (List.mem_toArray.mp wrapped)
        exact fun other inside => part _ _ other (Array.mem_toList_iff.mp inside)

/-- The second pass over a line stays in a stable class. -/
theorem scanRuns_all (stable : Stable P) (fuel : Nat) (scan : EmphasisScan) (rest : List Draft)
    (done : ∀ draft ∈ scan.done, P draft) (ahead : ∀ draft ∈ rest, P draft) :
    ∀ draft ∈ scanRuns fuel scan rest, P draft := by
  fun_induction scanRuns fuel scan rest with
  | case1 scan rest =>
      intro draft member
      rcases List.mem_append.mp member with earlier | later
      · exact done draft (Array.mem_toList_iff.mp earlier)
      · exact ahead draft later
  | case2 => exact fun draft member => done draft (Array.mem_toList_iff.mp member)
  | case3 fuel scan rest start stop mark count opens closes both closed left result runs marks
      induction =>
      have kept : ∀ draft ∈ closed.done, P draft := by
        split at result
        case isTrue =>
          have same := close_all stable mark both (count + 1) scan start count done
          rw [result] at same
          exact same
        case isFalse =>
          cases result
          exact done
      refine induction ?_ ?_
      · -- Marks that closed nothing are done as plain text.
        intro draft member
        rcases Array.mem_append.mp member with earlier | marked
        · exact kept draft earlier
        · obtain ⟨other, inside, rfl⟩ := List.mem_map.mp (List.mem_toArray.mp marked)
          exact stable.asPlain (ahead other (List.mem_of_mem_take (List.mem_of_mem_drop inside)))
      · intro draft member
        exact ahead draft (List.mem_cons_of_mem _ (List.mem_of_mem_drop member))
  | case4 fuel scan rest draft noMarks induction =>
      obtain ⟨first, others⟩ := List.forall_mem_cons.mp ahead
      refine induction ?_ others
      intro other member
      rcases Array.mem_push.mp member with earlier | rfl
      · exact done other earlier
      · exact first

/-- The second pass leaves drafts without open pieces as they are. -/
theorem scanRuns_of_units (fuel : Nat) (scan : EmphasisScan) (rest : List Draft)
    (units : ∀ draft ∈ rest, draft.isUnit = true) :
    scanRuns fuel scan rest = scan.done.toList ++ rest := by
  induction rest generalizing fuel scan with
  | nil =>
      cases fuel <;> simp [scanRuns]
  | cons draft rest induction =>
      obtain ⟨unit, others⟩ := List.forall_mem_cons.mp units
      cases fuel with
      | zero => rfl
      | succ fuel =>
          have passed : scanRuns (fuel + 1) scan (draft :: rest) =
              scanRuns fuel { scan with done := scan.done.push draft } rest := by
            cases draft with
            | block => rfl
            | piece start stop body =>
                cases body with
                | delimiter => cases unit
                | _ => rfl
          rw [passed, induction fuel _ others]
          simp

end EmphasisScan

/-! ## Nodes -/

/-- The leaf of a piece. -/
def Source.leaf (s : Source) (start stop : Nat) (body : Piece) : Leaf :=
  InlineContext.leaf ⟨s, [], []⟩ start stop body

theorem InlineContext.leaf_eq (context : InlineContext) (start stop : Nat) (body : Piece) :
    context.leaf start stop body = context.source.leaf start stop body := by
  cases body <;> rfl

theorem Source.leaf_ne_rule (s : Source) (start stop : Nat) {body : Piece}
    (noRule : body ≠ .settled .rule) : s.leaf start stop body ≠ .rule := by
  cases body with
  | settled content =>
      intro same
      exact noRule (congrArg Piece.settled same)
  | _ => exact nofun

namespace Draft

/-- The text of a piece of code. -/
def literal? (s : Source) : Draft → Option String
  | .piece start stop .plain => some (s.slice start stop)
  | .piece _ _ (.settled (.text content)) => some content
  | _ => none

end Draft

/-- Whether the pieces of a place may turn out to be markup. -/
def Slot.holdsMarkup : Slot → Bool
  | .line => true
  | .item => true
  | _ => false

namespace Draft

/-- A draft may stand in a place, and so may everything inside it. -/
inductive Fits (s : Source) (known : List String → Prop) : Slot → Draft → Prop where
  | piece {slot : Slot} {start stop : Nat} {body : Piece} :
      (slot.holdsMarkup || (Draft.piece start stop body).isUnit) = true →
      slot.AdmitsLeaf (s.leaf start stop body) → Fits s known slot (.piece start stop body)
  | code {slot : Slot} {start stop : Nat} {info : Option String} {container : Option Container}
      {children : List Draft} {texts : List String} :
      slot.holdsBlocks = true → known texts → children.map (literal? s) = texts.map some →
      Fits s known slot (.block start stop (.codeBlock info) container children)
  | block {slot : Slot} {start stop : Nat} {tag : Tag} {container : Option Container}
      {children : List Draft} :
      slot.admits tag = true → (∀ child ∈ children, Fits s known (slot.inside tag) child) →
      Fits s known slot (.block start stop tag container children)

variable {s : Source} {known : List String → Prop} {slot : Slot}

/-- What holds in a place where markup may stand is kept by the passes. -/
theorem stable_fits (holds : slot.holdsMarkup = true) : Stable (Fits s known slot) where
  piece := by
    intro start stop body noRule
    refine .piece (by rw [holds, Bool.true_or]) ?_
    cases slot with
    | line => exact s.leaf_ne_rule start stop noRule
    | item => exact trivial
    | _ => cases holds
  shifted := by
    intro start draft fits
    cases fits with
    | @piece _ former stop body _ admitted =>
        refine .piece (by rw [holds, Bool.true_or]) ?_
        cases slot with
        | line =>
            refine s.leaf_ne_rule start stop ?_
            rintro rfl
            exact admitted rfl
        | item => exact trivial
        | _ => cases holds
    | code blocks texts same => exact .code blocks texts same
    | block admitted fit => exact .block admitted fit
  wrapped := by
    intro start stop tag children inline fit
    refine .block ?_ ?_
    · cases slot with
      | line => exact inline
      | item => exact Bool.or_eq_true_iff.mpr (.inr inline)
      | _ => cases holds
    · rw [Slot.inside_of_isInline slot inline]
      exact fit

/-- In a place without markup, the passes have nothing to do. -/
theorem Fits.isUnit {draft : Draft} (fits : draft.Fits s known slot)
    (holds : slot.holdsMarkup = false) : draft.isUnit = true := by
  cases fits with
  | piece unit =>
      rw [holds, Bool.false_or] at unit
      exact unit
  | code => rfl
  | block => rfl

theorem isUnit_of_literal? {draft : Draft} {text : String} (read : draft.literal? s = some text) :
    draft.isUnit = true := by
  unfold literal? at read
  split at read
  case h_1 => rfl
  case h_2 => rfl
  case h_3 => cases read

end Draft

namespace InlineContext

/-- The drafts of a block after both passes. -/
def resolved (context : InlineContext) (stop : Nat) (drafts : List Draft) : List Draft :=
  let linked := context.scanLinks (context.source.upTo stop) (drafts.length + 1) ⟨[], []⟩ drafts
  EmphasisScan.scanRuns (linked.length + 1) ⟨#[], #[], {}⟩ linked

def node (fuel : Nat) (context : InlineContext) : Draft → Node
  | .piece low high body => .leaf (context.leaf low high body)
  | .block _ high tag container children =>
      .element tag (resolve fuel
        { context with containers := context.containers ++ container.toList } high children)

theorem resolve_succ (fuel : Nat) (context : InlineContext) (stop : Nat) (drafts : List Draft) :
    resolve (fuel + 1) context stop drafts =
      (context.resolved stop drafts).map (context.node fuel) := by
  rw [resolve]
  refine List.map_congr_left ?_
  intro draft _
  cases draft <;> rfl

theorem resolved_all {P : Draft → Prop} (stable : Stable P) (context : InlineContext) (stop : Nat)
    {drafts : List Draft} (all : ∀ draft ∈ drafts, P draft) :
    ∀ draft ∈ context.resolved stop drafts, P draft :=
  EmphasisScan.scanRuns_all stable _ _ _ nofun (scanLinks_all stable context _ _ _ _ nofun all)

theorem resolved_of_units (context : InlineContext) (stop : Nat) {drafts : List Draft}
    (units : ∀ draft ∈ drafts, draft.isUnit = true) : context.resolved stop drafts = drafts := by
  have linked := scanLinks_of_units context (context.source.upTo stop) (drafts.length + 1) ⟨[], []⟩
    drafts units
  rw [List.reverse_nil, List.nil_append] at linked
  rw [resolved, linked, EmphasisScan.scanRuns_of_units _ _ _ units]
  rfl

/-- Code is resolved to its texts. -/
theorem resolve_literals (fuel : Nat) (context : InlineContext) (stop : Nat) {drafts : List Draft}
    {texts : List String}
    (read : drafts.map (Draft.literal? context.source) = texts.map some) :
    resolve (fuel + 1) context stop drafts = texts.map fun text => .leaf (.text text) := by
  have literal : ∀ draft ∈ drafts, ∃ text, draft.literal? context.source = some text := by
    intro draft member
    have image := List.mem_map_of_mem (f := Draft.literal? context.source) member
    rw [read] at image
    obtain ⟨text, _, same⟩ := List.mem_map.mp image
    exact ⟨text, same.symm⟩
  have units : ∀ draft ∈ drafts, draft.isUnit = true := by
    intro draft member
    obtain ⟨text, same⟩ := literal draft member
    exact Draft.isUnit_of_literal? same
  have leaves : drafts.map (context.node fuel) =
      (drafts.map (Draft.literal? context.source)).map fun text =>
        .leaf (.text (text.getD "")) := by
    rw [List.map_map]
    refine List.map_congr_left ?_
    intro draft member
    obtain ⟨text, same⟩ := literal draft member
    rw [Function.comp_apply, same]
    unfold Draft.literal? at same
    split at same
    case h_1 =>
      cases same
      rw [node, leaf_eq]
      rfl
    case h_2 =>
      cases same
      rfl
    case h_3 => cases same
  rw [resolve_succ, resolved_of_units context stop units, leaves, read, List.map_map]
  rfl

/-- The nodes of drafts may stand where the drafts may. -/
theorem resolve_fits {known : List String → Prop} (nothing : known []) (fuel : Nat)
    (context : InlineContext) (stop : Nat) (slot : Slot) (drafts : List Draft)
    (fit : ∀ draft ∈ drafts, draft.Fits context.source known slot) :
    ∀ node ∈ resolve fuel context stop drafts, node.Fits known slot := by
  induction fuel generalizing context stop slot drafts with
  | zero => exact nofun
  | succ fuel induction =>
      have resolved : ∀ draft ∈ context.resolved stop drafts,
          draft.Fits context.source known slot := by
        cases holds : slot.holdsMarkup with
        | true => exact context.resolved_all (Draft.stable_fits holds) stop fit
        | false =>
            rw [context.resolved_of_units stop fun draft member =>
              (fit draft member).isUnit holds]
            exact fit
      rw [resolve_succ]
      intro node member
      obtain ⟨draft, inside, rfl⟩ := List.mem_map.mp member
      cases resolved draft inside with
      | piece _ admitted =>
          refine .leaf ?_
          rw [leaf_eq]
          exact admitted
      | @code _ low high info container children texts blocks holds read =>
          cases fuel with
          | zero => exact @Node.Fits.code known slot info [] blocks nothing
          | succ fuel =>
              have literals := resolve_literals fuel
                { context with containers := context.containers ++ container.toList } high read
              rw [InlineContext.node, literals]
              exact .code blocks holds
      | block admitted fits => exact .element admitted (induction _ _ _ _ fits)

end InlineContext

end DocsConsole.Markdown
