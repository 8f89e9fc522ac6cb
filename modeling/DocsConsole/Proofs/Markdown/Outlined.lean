import DocsConsole.Proofs.Markdown.Literal

/-!
# What a document can hold

The open containers of an outline stand inside one another, and each holds what may stand in it.
Opening, closing and adding a block keep this, so every node of a document stands in a place that
admits it.
-/

namespace DocsConsole.Markdown

section

variable {s : Source} {known : List String → Prop}

/-! ## From one place to another -/

/-- A line may stand in an item of a list. -/
theorem Draft.Fits.ofLine {draft : Draft} (fits : draft.Fits s known .line) :
    draft.Fits s known .item := by
  generalize there : Slot.line = slot at fits
  induction fits with
  | piece => exact .piece rfl trivial
  | code blocks =>
      subst there
      exact absurd blocks (by decide)
  | @block _ _ _ tag _ _ admitted _ induction =>
      subst there
      have inline : tag.isInline = true := admitted
      refine .block (Bool.or_eq_true_iff.mpr (.inr inline)) ?_
      rw [Slot.inside_of_isInline .item inline]
      exact fun child member => induction child member (Slot.inside_of_isInline .line inline).symm

theorem Slot.inside_of_isBlock {tag : Tag} (block : tag.isBlock = true) (slot other : Slot) :
    slot.inside tag = other.inside tag := by
  cases tag <;> simp_all [inside, Tag.isBlock]

theorem Slot.admits_of_isBlock {tag : Tag} (block : tag.isBlock = true) (slot : Slot) :
    slot.admits tag = slot.holdsBlocks := by
  cases slot <;> cases tag <;> simp_all [admits, holdsBlocks, Tag.isBlock, Tag.isInline]

/-- What may stand in a document may stand wherever blocks may. -/
theorem Draft.Fits.ofDocument {draft : Draft} {slot : Slot} (fits : draft.Fits s known .document)
    (blocks : slot.holdsBlocks = true) : draft.Fits s known slot := by
  cases slot with
  | document => exact fits
  | item =>
      cases fits with
      | piece => exact .piece rfl trivial
      | code _ holds read => exact .code blocks holds read
      | @block _ _ _ tag _ _ admitted fit =>
          have block : tag.isBlock = true := admitted
          refine .block (Bool.or_eq_true_iff.mpr (.inl block)) ?_
          rw [Slot.inside_of_isBlock block .item .document]
          exact fit
  | _ => cases blocks

/-- The items of a tight list. -/
theorem tightItem_fits {draft : Draft} (fits : draft.Fits s known .list) :
    (tightItem draft).Fits s known .list := by
  cases fits with
  | piece _ admitted => exact admitted.elim
  | code blocks => cases blocks
  | @block _ _ _ tag _ children admitted fit =>
      cases tag with
      | item =>
          refine .block rfl ?_
          intro inner member
          obtain ⟨child, inside, part⟩ := List.mem_flatMap.mp member
          have holds := fit child inside
          split at part
          case h_1 lines =>
            cases holds with
            | block _ lineFits => exact (lineFits inner part).ofLine
          case h_2 =>
            cases List.mem_singleton.mp part
            exact holds
      | _ => cases admitted

/-! ## Containers -/

/-- The tag of a container, with no number for a list. -/
def Container.tag : Container → Tag
  | .quote => .blockQuote
  | .list _ _ _ => .list none
  | .item _ => .item

/-- The place inside a container. -/
def Container.slot : Container → Slot
  | .quote => .document
  | .list _ _ _ => .list
  | .item _ => .item

/-- The place inside the innermost of some containers. -/
def innermostSlot : List OpenBlock → Slot
  | [] => .document
  | block :: _ => block.container.slot

theorem OpenBlock.close_fits {block : OpenBlock} {slot : Slot}
    (admitted : slot.admits block.container.tag = true)
    (fit : ∀ child ∈ block.children, child.Fits s known block.container.slot) (stop : Nat) :
    (block.close stop).Fits s known slot := by
  obtain ⟨start, container, children⟩ := block
  have inOrder : ∀ child ∈ children.reverse, child.Fits s known container.slot :=
    fun child member => fit child (List.mem_reverse.mp member)
  cases container with
  | quote => exact .block admitted inOrder
  | item indent => exact .block admitted inOrder
  | list tight mark first =>
      refine .block ?_ ?_
      · rw [Slot.admits_of_isBlock rfl]
        exact (Slot.admits_of_isBlock rfl slot).symm.trans admitted
      · cases tight with
        | false => exact inOrder
        | true =>
            intro child member
            obtain ⟨item, inside, rfl⟩ := List.mem_map.mp member
            exact tightItem_fits (inOrder item inside)

/-- Every open container holds what may stand in it, and stands where it may. -/
inductive Nested (s : Source) (known : List String → Prop) : List OpenBlock → Prop where
  | nil : Nested s known []
  | cons {block : OpenBlock} {outer : List OpenBlock} :
      (innermostSlot outer).admits block.container.tag = true →
      (∀ child ∈ block.children, child.Fits s known block.container.slot) →
      Nested s known outer → Nested s known (block :: outer)

/-- What is read of a document may stand in it. -/
structure Outline.Fits (s : Source) (known : List String → Prop) (o : Outline) : Prop where
  opened : Nested s known o.opened
  finished : ∀ draft ∈ o.finished, draft.Fits s known .document

namespace Outline

variable {o : Outline}

theorem empty_fits : empty.Fits s known :=
  ⟨.nil, nofun⟩

theorem Fits.add (fits : o.Fits s known) {draft : Draft}
    (inside : draft.Fits s known (innermostSlot o.opened)) :
    (o.add draft).Fits s known ∧ innermostSlot (o.add draft).opened = innermostSlot o.opened := by
  obtain ⟨nested, finished⟩ := fits
  obtain ⟨opened, done, _, _, _⟩ := o
  cases nested with
  | nil => exact ⟨⟨.nil, List.forall_mem_cons.mpr ⟨inside, finished⟩⟩, rfl⟩
  | cons admitted fit outer =>
      exact ⟨⟨.cons admitted (List.forall_mem_cons.mpr ⟨inside, fit⟩) outer, finished⟩, rfl⟩

theorem Fits.addAll (fits : o.Fits s known) {drafts : List Draft}
    (inside : ∀ draft ∈ drafts, draft.Fits s known (innermostSlot o.opened)) :
    (o.addAll drafts).Fits s known := by
  unfold Outline.addAll
  induction drafts generalizing o with
  | nil => exact fits
  | cons draft drafts induction =>
      obtain ⟨first, others⟩ := List.forall_mem_cons.mp inside
      obtain ⟨added, same⟩ := fits.add first
      rw [List.foldl_cons]
      refine induction added ?_
      rw [same]
      exact others

theorem Fits.openContainer (fits : o.Fits s known) (start : Nat) (container : Container)
    (admitted : (innermostSlot o.opened).admits container.tag = true) :
    (o.openContainer start container).Fits s known :=
  ⟨.cons admitted nofun fits.opened, fits.finished⟩

theorem Fits.closeInnermost (fits : o.Fits s known) (stop : Nat) :
    (o.closeInnermost stop).Fits s known ∧
      innermostSlot (o.closeInnermost stop).opened = innermostSlot o.opened.tail := by
  obtain ⟨nested, finished⟩ := fits
  obtain ⟨opened, done, itemBegins, afterBlank, definitions⟩ := o
  cases nested with
  | nil => exact ⟨⟨.nil, finished⟩, rfl⟩
  | @cons block outer admitted fit nested =>
      have left : Fits s known ⟨outer, done, itemBegins, afterBlank, definitions⟩ :=
        ⟨nested, finished⟩
      exact left.add (OpenBlock.close_fits admitted fit stop)

theorem Fits.closeMany (fits : o.Fits s known) (stop count : Nat) :
    (o.closeMany stop count).Fits s known := by
  induction count generalizing o with
  | zero => exact fits
  | succ count induction => exact induction (fits.closeInnermost stop).1

theorem Fits.loosenOuter (fits : o.Fits s known) :
    o.loosenOuter.Fits s known ∧
      innermostSlot o.loosenOuter.opened = innermostSlot o.opened := by
  obtain ⟨nested, finished⟩ := fits
  unfold Outline.loosenOuter
  split
  case h_2 => exact ⟨⟨nested, finished⟩, rfl⟩
  case h_1 inner start tight mark first children outer same =>
    rw [same] at nested
    cases nested with
    | cons admitted fit nested =>
        cases nested with
        | cons listed held outer =>
            refine ⟨⟨.cons admitted fit (.cons listed held outer), finished⟩, ?_⟩
            rw [same]
            rfl

/-- After a list is finished, the innermost container holds blocks. -/
theorem Fits.finishList (fits : o.Fits s known) (stop : Nat) :
    (o.finishList stop).Fits s known ∧
      (innermostSlot (o.finishList stop).opened).holdsBlocks = true := by
  have loosened : ∀ {closed : Outline}, closed.Fits s known →
      (innermostSlot closed.opened).holdsBlocks = true →
      let finished :=
        if closed.afterBlank then { closed.loosenOuter with afterBlank := false } else closed
      finished.Fits s known ∧ (innermostSlot finished.opened).holdsBlocks = true := by
    intro closed fits blocks
    cases closed.afterBlank with
    | false => exact ⟨fits, blocks⟩
    | true =>
        obtain ⟨⟨nested, finished⟩, same⟩ := fits.loosenOuter
        exact ⟨⟨nested, finished⟩, (congrArg Slot.holdsBlocks same).trans blocks⟩
  unfold Outline.finishList
  simp only
  split
  case h_1 start tight mark first children outer same =>
    obtain ⟨closed, inner⟩ := fits.closeInnermost stop
    refine loosened closed ?_
    have nested := fits.opened
    rw [same] at nested inner
    rw [inner]
    cases nested with
    | cons admitted => exact (Slot.admits_of_isBlock rfl _).symm.trans admitted
  case h_2 other =>
    refine loosened fits ?_
    cases opened : o.opened with
    | nil => rfl
    | cons block outer =>
        obtain ⟨start, container, children⟩ := block
        cases container with
        | list tight mark first => exact (other _ _ _ _ _ _ opened).elim
        | _ => rfl

/-- After a list is entered, it is innermost. -/
theorem Fits.enterList (fits : o.Fits s known) (start : Nat) (mark : Char) (number : Nat) :
    (o.enterList start mark number).Fits s known ∧
      innermostSlot (o.enterList start mark number).opened = .list := by
  have fresh : ∀ {outer : Outline}, outer.Fits s known →
      (innermostSlot outer.opened).holdsBlocks = true →
      Fits s known { outer.openContainer start (.list true mark number) with afterBlank := false } := by
    intro outer fits blocks
    obtain ⟨nested, finished⟩ := fits.openContainer start (.list true mark number)
      ((Slot.admits_of_isBlock rfl _).trans blocks)
    exact ⟨nested, finished⟩
  obtain ⟨finished, blocks⟩ := fits.finishList start
  unfold Outline.enterList
  simp only
  split
  case h_1 bottom => exact ⟨fresh fits (by rw [bottom]; rfl), rfl⟩
  case h_2 listStart tight listMark first children outer same =>
    split
    case isTrue =>
      obtain ⟨nested, done⟩ := fits
      rw [same] at nested
      cases nested with
      | cons admitted fit outer => exact ⟨⟨.cons admitted fit outer, done⟩, rfl⟩
    case isFalse => exact ⟨fresh finished blocks, rfl⟩
  case h_3 => exact ⟨fresh finished blocks, rfl⟩

theorem Fits.define (fits : o.Fits s known) (label : String) (target : Target) :
    (o.define label target).Fits s known := by
  unfold Outline.define
  simp only
  split
  case isTrue => exact fits
  case isFalse => exact ⟨fits.opened, fits.finished⟩

/-- Opening the containers of a line leads on in its margin. -/
theorem Fits.openContainers (fits : o.Fits s known) (lineStart fuel : Nat) (margin : Margin) :
    (openContainers s lineStart fuel o margin).1.Fits s known ∧
      ∀ edge, (openContainers s lineStart fuel o margin).2 = .content edge →
        margin.LeadsTo s edge := by
  fun_induction Outline.openContainers s lineStart fuel o margin with
  | case1 o margin =>
      refine ⟨fits, ?_⟩
      rintro edge ⟨⟩
      exact .refl s margin
  | case2 fuel o margin item started listed inside next blank =>
      obtain ⟨entered, innermost⟩ := fits.enterList margin.pos item.mark item.number
      obtain ⟨nested, finished⟩ := entered.openContainer margin.pos (.item item.indent)
        (by rw [innermost]; rfl)
      exact ⟨⟨nested, finished⟩, nofun⟩
  | case3 fuel o margin item started listed inside notBlank induction =>
      obtain ⟨entered, innermost⟩ := fits.enterList margin.pos item.mark item.number
      obtain ⟨opened, leads⟩ := induction
        (entered.openContainer margin.pos (.item item.indent) (by rw [innermost]; rfl))
      exact ⟨opened, fun edge reached =>
        (Margin.itemStart?_leadsTo started).trans (leads edge reached)⟩
  | case4 fuel o margin noItem next marked induction =>
      obtain ⟨finished, blocks⟩ := fits.finishList lineStart
      obtain ⟨opened, leads⟩ := induction (finished.openContainer margin.pos .quote
        ((Slot.admits_of_isBlock rfl _).trans blocks))
      exact ⟨opened, fun edge reached => (Margin.quoteMark?_leadsTo marked).trans (leads edge reached)⟩
  | case5 fuel o margin noItem noQuote =>
      refine ⟨fits, ?_⟩
      rintro edge ⟨⟩
      exact .refl s margin

/-! ## Reading -/

/-- The block on a line stands in the innermost container. -/
theorem Fits.readContent (whole : s.limit ≤ s.chars.size) (fits : o.Fits s s.CutsByLine)
    (lineStart : Nat) (margin : Margin) (spent : s.IsSimple → margin.pending = 0) :
    (o.readContent s lineStart margin).1.Fits s s.CutsByLine := by
  have begun : Fits s s.CutsByLine { o with itemBegins := false } := ⟨fits.opened, fits.finished⟩
  obtain ⟨finished, blocks⟩ := begun.finishList lineStart
  have edge := Margin.takeUpTo_leadsTo s margin 4
  unfold Outline.readContent
  simp only
  generalize Outline.finishList _ lineStart = inside at finished blocks ⊢
  generalize margin.takeUpTo s 4 = taken at edge
  obtain ⟨indent, place⟩ := taken
  have added : ∀ {draft : Draft}, draft.Fits s s.CutsByLine .document →
      (inside.add draft).Fits s s.CutsByLine :=
    fun fit => (finished.add (fit.ofDocument blocks)).1
  simp only
  split
  case isTrue =>
    exact (finished.add (Source.indentedCode_fits whole blocks _ _ fun simple =>
      edge.pending simple (spent simple))).1
  case isFalse =>
    split
    case h_1 ending markup =>
      exact finished.addAll fun draft member =>
        (Source.markupBlock_fits s _ _ _ _ draft member).ofDocument blocks
    case h_2 =>
      split
      case h_1 => exact added (.piece rfl rfl)
      case h_2 =>
        split
        case h_1 => exact added (Source.heading_fits s _ _)
        case h_2 =>
          split
          case h_1 => exact finished.define _ _
          case h_2 =>
            split
            case h_1 => exact (finished.add (Source.fencedCode_fits whole blocks _ _ _ _ _)).1
            case h_2 => exact added (Source.paragraph_fits s _ _)

theorem Fits.readBlank (fits : o.Fits s known) (lineStart : Nat) :
    (o.readBlank lineStart).Fits s known := by
  unfold Outline.readBlank
  split
  case h_1 => exact fits
  case h_2 => exact fits
  case h_3 =>
    cases o.itemBegins with
    | false => exact ⟨fits.opened, fits.finished⟩
    | true =>
        obtain ⟨⟨nested, finished⟩, _⟩ := fits.closeInnermost lineStart
        exact ⟨nested, finished⟩

/-- One step of reading. -/
theorem Fits.readBlock (whole : s.limit ≤ s.chars.size) (fits : o.Fits s s.CutsByLine)
    (lineStart : Nat) : (o.readBlock s lineStart).1.Fits s s.CutsByLine := by
  have margins := Margin.pass_leadsTo s (Margin.ofLine lineStart) o.containers
  unfold Outline.readBlock
  generalize (Margin.ofLine lineStart).pass s o.containers = passed at margins
  obtain ⟨count, margin⟩ := passed
  simp only
  obtain ⟨opened, leads⟩ := (fits.closeMany lineStart (o.opened.length - count)).openContainers
    lineStart (s.limit + 1) margin
  generalize Outline.openContainers s lineStart _ _ margin = found at opened leads
  obtain ⟨inside, opening⟩ := found
  cases opening with
  | bareItem next => exact opened
  | content edge =>
      simp only
      split
      case h_1 => exact opened.readBlank lineStart
      case h_2 =>
        exact opened.readContent whole lineStart edge fun simple =>
          (margins.trans (leads edge rfl)).pending simple rfl

theorem Fits.readFrom (whole : s.limit ≤ s.chars.size) (fits : o.Fits s s.CutsByLine)
    (fuel i : Nat) : (readFrom s fuel o i).Fits s s.CutsByLine := by
  fun_induction Outline.readFrom s fuel o i with
  | case1 => exact fits
  | case2 => exact fits
  | case3 fuel o i inside next position read induction =>
      have more := fits.readBlock whole i
      rw [read] at more
      exact induction more

theorem ofSource_fits (whole : s.limit ≤ s.chars.size) : (ofSource s).Fits s s.CutsByLine :=
  ((empty_fits).readFrom whole (s.limit + 1) 0).closeMany s.limit _

end Outline

end

/-- Everything in a document stands in a place that admits it. -/
theorem parse_fits (text : String) :
    ∀ node ∈ parse text, node.Fits (Source.ofString text).CutsByLine .document := by
  have outline := Outline.ofSource_fits (s := Source.ofString text) (Nat.le_refl _)
  exact InlineContext.resolve_fits (fun _ => nofun) _ ⟨Source.ofString text, [], _⟩ _ .document _
    fun draft member => outline.finished draft (List.mem_reverse.mp member)

end DocsConsole.Markdown
