import DocsConsole.Proofs.Preview.Stretches
import Mathlib.Data.List.Basic

/-!
# How code and raw markup are cut

Code is shown piece by piece as it is read, so a piece that ends inside a line makes two lines of
it.  No line ends between the pieces of raw markup, which are lines already: all of them are shown
on one line.
-/

namespace DocsConsole.Preview

open Markdown

/-! ## Code -/

theorem pairwise_of_byLine {texts : List String} (byLine : Source.ByLine texts) :
    texts.Pairwise fun text later => Text.endsLine text.toList = true ∨ later = "" := by
  induction texts with
  | nil => exact .nil
  | cons text texts induction =>
      cases texts with
      | nil => exact List.pairwise_singleton _ _
      | cons next others =>
          obtain ⟨first, rest⟩ := List.forall_mem_cons.mp byLine
          refine List.pairwise_cons.mpr ⟨fun later _ => .inl ?_, induction rest⟩
          rw [Text.endsLine, first]
          rfl

/-- The lines of code are shown as they are unless a piece of it ends inside a line. -/
theorem codeRows_eq_iff (texts : List String) :
    codeRows texts = codeRows [String.join texts] ↔
      texts.Pairwise fun text later => Text.endsLine text.toList = true ∨ later = "" := by
  have injective : Function.Injective fun line => (("│ " ++ line, .code) : BlockLine) :=
    fun line other same => (String.append_right_inj _).mp (Prod.mk.inj same).1
  rw [← Text.flatMap_lines_eq_iff, codeRows, codeRows, List.flatMap_singleton]
  constructor
  · exact fun same => injective.list_map same
  · exact fun same => congrArg _ same

theorem walk_codeBlock_settled {g : Gathering} (closed : g.inCode = false) (info : Option String)
    (texts : List String) :
    g.walk (Node.element (.codeBlock info) (texts.map fun text => .leaf (.text text))).events =
      g.settled ((codeHeader info, .codeHeader) :: codeRows texts ++ [("└────", .codeHeader)]) := by
  rw [Gathering.walk_codeBlock closed]
  simp [Gathering.settled]

/-! ## Raw markup -/

/-- Where no line ends, all text is added to the line that is pending. -/
theorem walk_oneLine {g : Gathering} (closed : g.inCode = false) {run : List Node}
    (leaves : ∀ node ∈ run, ∃ content, node = .leaf content ∧ OneLine content) :
    g.walk (Node.listEvents run) =
      { g with current := g.current ++ Node.listShown false run } := by
  rw [Gathering.walk_nodeParts
    (fun node member _ => Gathering.walk_flat (flat_of_leaves leaves node member)) closed,
    Part.foldl_part, gathered_of_oneLine _ leaves]
  rfl

/-- In the document itself and in quotes, no line ends in raw markup. -/
theorem oneLine_of_place {text : String} {outer : List Tag} {before after : List Event}
    {run : List Node} (place : Place (parse text) outer before run after)
    (around : outer = [] ∨ outer.getLast? = some .blockQuote) {content : Leaf}
    (member : .leaf content ∈ run) (noRule : content ≠ .rule) : OneLine content := by
  have fits := place.fits (parse_fits text) _ member
  have slot : outer.foldl Slot.inside .document = .document := by
    rcases around with rfl | quoted
    · rfl
    · obtain ⟨front, rfl⟩ := List.getLast?_eq_some_iff.mp quoted
      rw [List.foldl_append]
      rfl
  rw [slot] at fits
  cases fits with
  | leaf admitted =>
      cases content with
      | html content => exact admitted
      | text content => trivial
      | rule => exact noRule rfl
      | code | softBreak | hardBreak => trivial

/-- The pieces of code are shown line by line, as the lines of the whole code if and only if no
piece that ends inside a line is followed by more, and that is so where the text has neither tabs
nor carriage returns.  Raw markup in which no line ends, as all of it is in a document and its
quotes, is shown on the line that is pending. -/
theorem literal_blocks (text : String) {outer : List Tag} {before after : List Event}
    {run : List Node} :
    (∀ info children,
      Place (parse text) outer before [.element (.codeBlock info) children] after →
      ∃ texts : List String, children = texts.map (fun content => .leaf (.text content)) ∧
        ShownAs text before (Node.element (.codeBlock info) children).events
          ((codeHeader info, .codeHeader) :: codeRows texts ++ [("└────", .codeHeader)]) ∧
        (codeRows texts = codeRows [String.join texts] ↔
          texts.Pairwise fun piece later => Text.endsLine piece.toList = true ∨ later = "") ∧
        ((∀ c ∈ text.toList, c ≠ '\t' ∧ c ≠ '\r') →
          codeRows texts = codeRows [String.join texts])) ∧
    (Place (parse text) outer before run after → (∃ content, .leaf (.html content) ∈ run) →
      (∀ node ∈ run, ∃ content, node = .leaf content ∧ OneLine content) →
      ∃ earlier pending, blockLines before = earlier ++ shownLine .paragraph pending ∧
        blockLines (before ++ Node.listEvents run) =
          earlier ++ shownLine .paragraph (pending ++ Node.listShown false run) ∧
        (blockLines (before ++ Node.listEvents run)).length ≤ (blockLines before).length + 1) ∧
    (Place (parse text) outer before run after →
      outer = [] ∨ outer.getLast? = some .blockQuote →
      ∀ content, .leaf content ∈ run → content ≠ .rule → OneLine content) := by
  refine ⟨?_, ?_, fun place around content member noRule =>
    oneLine_of_place place around member noRule⟩
  · intro info children place
    have fits := place.fits (parse_fits text) _ (List.mem_singleton_self _)
    obtain ⟨texts, known, rfl⟩ := fits.exists_texts
    refine ⟨texts, rfl, ?_, codeRows_eq_iff texts, ?_⟩
    · refine shownAs_of_settled (events_of_place place) ?_
      exact walk_codeBlock_settled (within_element place).code info texts
    · intro simple
      refine (codeRows_eq_iff texts).mpr (pairwise_of_byLine (known ?_))
      exact fun c member => simple c (List.mem_toArray.mp member)
  · intro place markup leaves
    obtain ⟨content, member⟩ := markup
    have within := within_place place ⟨_, member, nofun⟩
    have shown : blockLines (before ++ Node.listEvents run) =
        (Gathering.empty.walk before).lines.reverse ++
          shownLine .paragraph
            ((Gathering.empty.walk before).current ++ Node.listShown false run) := by
      rw [blockLines_eq, Gathering.walk_append, walk_oneLine within.code leaves]
    refine ⟨_, _, blockLines_eq before, shown, ?_⟩
    rw [shown, blockLines_eq, List.length_append, List.length_append]
    have single := length_shownLine_le .paragraph
      ((Gathering.empty.walk before).current ++ Node.listShown false run)
    omega

/-- Code after a tab in a quote, code whose lines end with a carriage return and a line feed, and raw
markup. -/
def cutBlocks : String :=
  ">\t\tc\n\n```\na\r\nb\r\n```\n<div>\nfoo\n</div>\n"

theorem parse_cutBlocks :
    parse cutBlocks =
      [.element .blockQuote [.element (.codeBlock none) [.leaf (.text "  "), .leaf (.text "c\n")]],
        .element (.codeBlock (some ""))
          [.leaf (.text "a"), .leaf (.text "\n"), .leaf (.text "b"), .leaf (.text "\n")],
        .leaf (.html "<div>\n"), .leaf (.html "foo\n"), .leaf (.html "</div>\n")] := by
  decide +kernel

theorem literal_blocks_of_cutBlocks :
    let code := [Node.leaf (.text "a"), .leaf (.text "\n"), .leaf (.text "b"), .leaf (.text "\n")]
    let markup := [Node.leaf (.html "<div>\n"), .leaf (.html "foo\n"), .leaf (.html "</div>\n")]
    (∃ before after, ∃ texts : List String,
      Place (parse cutBlocks) [] before [.element (.codeBlock (some "")) code] after ∧
        code = texts.map (fun content => .leaf (.text content)) ∧
        ShownAs cutBlocks before (Node.element (.codeBlock (some "")) code).events
          (("┌────", .codeHeader) :: codeRows texts ++ [("└────", .codeHeader)])) ∧
    ∃ before after earlier pending,
      Place (parse cutBlocks) [] before markup after ∧
        (∀ content, .leaf content ∈ markup → OneLine content) ∧
        blockLines before = earlier ++ shownLine .paragraph pending ∧
        blockLines (before ++ Node.listEvents markup) =
          earlier ++ shownLine .paragraph (pending ++ "<div>foo</div>") := by
  intro code markup
  let quote := Node.element .blockQuote
    [.element (.codeBlock none) [.leaf (.text "  "), .leaf (.text "c\n")]]
  let fenced := Node.element (.codeBlock (some "")) code
  have document : parse cutBlocks = [quote, fenced] ++ markup := parse_cutBlocks
  have codePlace := Place.of_eq [quote] [fenced] markup document
  have markupPlace := Place.of_eq [quote, fenced] markup [] (document.trans (List.append_nil _).symm)
  obtain ⟨texts, same, codeShown, _⟩ :=
    (@literal_blocks cutBlocks _ _ _ [fenced]).1 (some "") code codePlace
  have oneLine : ∀ content, .leaf content ∈ markup → OneLine content := by
    intro content member
    refine (literal_blocks cutBlocks).2.2 markupPlace (.inl rfl) content member ?_
    rintro rfl
    simp [markup] at member
  have leaves : ∀ node ∈ markup, ∃ content, node = .leaf content ∧ OneLine content := by
    simp only [markup, List.forall_mem_cons]
    exact ⟨⟨_, rfl, oneLine _ (by simp [markup])⟩, ⟨_, rfl, oneLine _ (by simp [markup])⟩,
      ⟨_, rfl, oneLine _ (by simp [markup])⟩, nofun⟩
  obtain ⟨earlier, pending, lines, shown, _⟩ :=
    (literal_blocks cutBlocks).2.1 markupPlace ⟨_, List.mem_cons_self⟩ leaves
  have whole : Node.listShown false markup = "<div>foo</div>" := by decide +kernel
  rw [whole] at shown
  exact ⟨⟨_, _, texts, codePlace, same, codeShown⟩,
    ⟨_, _, earlier, pending, markupPlace, oneLine, lines, shown⟩⟩

theorem cutBlocks_cut :
    blockLines (events cutBlocks) =
      [("┌────", .codeHeader), ("│   ", .code), ("│ c", .code), ("└────", .codeHeader),
        ("┌────", .codeHeader), ("│ a", .code), ("│ ", .code), ("│ b", .code), ("│ ", .code),
        ("└────", .codeHeader), ("<div>foo</div>", .paragraph)] ∧
      codeRows ["  ", "c\n"] ≠ codeRows ["  c\n"] ∧
      codeRows ["a", "\n", "b", "\n"] ≠ codeRows ["a\nb\n"] := by
  decide +kernel

end DocsConsole.Preview
