import DocsConsole.Proofs.Preview.Stretches
import Mathlib.Data.List.Induction

/-!
# Which paragraphs get the bar of a quote

That a quote is open is noted when it begins, and the note is taken back when any quote ends, also
one inside it.  So a paragraph gets the bar of a quote if and only if no quote has ended since the
last one began.
-/

namespace DocsConsole.Preview

open Markdown

/-- A quote has begun, and none has ended since. -/
def QuoteBegun (events : List Event) : Prop :=
  ∃ left right, events = left ++ .enter .blockQuote :: right ∧ .leave .blockQuote ∉ right

theorem not_quoteBegun_nil : ¬ QuoteBegun [] := by
  rintro ⟨left, right, divided, _⟩
  cases left <;> cases divided

theorem quoteBegun_concat (events : List Event) (event : Event) :
    QuoteBegun (events ++ [event]) ↔
      event = .enter .blockQuote ∨ QuoteBegun events ∧ event ≠ .leave .blockQuote := by
  constructor
  · rintro ⟨left, right, divided, unended⟩
    rcases List.eq_nil_or_concat right with rfl | ⟨right, last, rfl⟩
    · exact .inl (List.singleton_inj.mp (List.append_inj_right' divided rfl))
    · have parted : events ++ [event] = left ++ .enter .blockQuote :: right ++ [last] := by
        rw [divided]
        simp
      obtain ⟨rfl, same⟩ := List.append_inj' parted rfl
      cases List.singleton_inj.mp same
      simp only [List.concat_eq_append, List.mem_append, List.mem_singleton, not_or] at unended
      exact .inr ⟨⟨left, right, rfl, unended.1⟩, Ne.symm unended.2⟩
  · rintro (rfl | ⟨⟨left, right, rfl, unended⟩, other⟩)
    · exact ⟨events, [], rfl, nofun⟩
    · refine ⟨left, right ++ [event], by simp, ?_⟩
      rw [List.mem_append, List.mem_singleton]
      rintro (earlier | rfl)
      · exact unended earlier
      · exact other rfl

namespace Gathering

/-! ## What is noted -/

theorem inQuote_flush (g : Gathering) (look : BlockStyle) : (g.flush look).inQuote = g.inQuote := by
  rw [flush_eq]

theorem inQuote_addLine_if (g : Gathering) (condition : Prop) [Decidable condition] :
    (if condition then g.addLine "" .paragraph else g).inQuote = g.inQuote := by
  split <;> rfl

theorem inQuote_enter (g : Gathering) (tag : Tag) :
    (g.enter tag).inQuote = (tag.isQuote || g.inQuote) := by
  have begun : (if g.inCode then g else g.flush .paragraph).inQuote = g.inQuote := by
    split
    case isTrue => rfl
    case isFalse => exact g.inQuote_flush .paragraph
  unfold enter
  generalize (if g.inCode then g else g.flush .paragraph) = ended at begun
  cases tag with
  | heading level =>
      simp only
      split <;> exact begun
  | blockQuote => rfl
  | _ => exact begun

theorem inQuote_leave (g : Gathering) (tag : Tag) :
    (g.leave tag).inQuote = (!tag.isQuote && g.inQuote) := by
  cases tag with
  | paragraph => rw [leave_paragraph]; rfl
  | list first => exact inQuote_addLine_if { g with listDepth := g.listDepth - 1 } _
  | item =>
      simp only [leave]
      split <;> rfl
  | tableHead => exact g.inQuote_flush .paragraph
  | tableRow => exact g.inQuote_flush .paragraph
  | _ => rfl

theorem inQuote_leaf (g : Gathering) (content : Leaf) : (g.leaf content).inQuote = g.inQuote := by
  cases opened : g.inCode with
  | false => rw [leaf_eq opened, Part.foldl_part]
  | true =>
      cases content with
      | text content =>
          have read := walk_texts opened [content]
          change g.leaf (.text content) = _ at read
          rw [read]
      | html content =>
          change (g.markup content).inQuote = g.inQuote
          rw [markup_eq, Part.foldl_part]
      | softBreak => rw [leaf, opened]; rfl
      | hardBreak => rw [leaf, opened]; rfl
      | _ => rfl

/-- Only the beginnings and the ends of quotes count, and an end counts whichever quote it ends. -/
theorem inQuote_event (g : Gathering) (event : Event) :
    (g.event event).inQuote = true ↔
      event = .enter .blockQuote ∨ g.inQuote = true ∧ event ≠ .leave .blockQuote := by
  cases event with
  | enter tag =>
      change (g.enter tag).inQuote = true ↔ _
      rw [inQuote_enter]
      cases tag <;> simp [Tag.isQuote]
  | leave tag =>
      change (g.leave tag).inQuote = true ↔ _
      rw [inQuote_leave]
      cases tag <;> simp [Tag.isQuote]
  | leaf content =>
      change (g.leaf content).inQuote = true ↔ _
      rw [inQuote_leaf]
      simp

theorem inQuote_walk (events : List Event) :
    (empty.walk events).inQuote = true ↔ QuoteBegun events := by
  induction events using List.reverseRecOn with
  | nil => exact iff_of_false nofun not_quoteBegun_nil
  | append_singleton events event induction =>
      rw [walk_append, quoteBegun_concat, ← induction]
      exact inQuote_event _ event

end Gathering

/-! ## Paragraphs -/

/-- The line of a paragraph in a quote. -/
def barLine (text : String) : BlockLine :=
  ("│ " ++ text, .quote)

theorem look_of_mem_paragraphLine {quoted : Bool} {depth : Nat} {text : String} {line : BlockLine}
    (member : line ∈ paragraphLine quoted depth text) : line.2 = .quote ↔ quoted = true := by
  unfold paragraphLine at member
  cases quoted with
  | true =>
      split at member
      case isTrue => cases member
      case isFalse =>
        cases List.mem_singleton.mp member
        exact iff_of_true rfl rfl
  | false =>
      split at member
      case isTrue => cases member
      case isFalse =>
        cases List.mem_singleton.mp member
        refine iff_of_false ?_ nofun
        simp only
        split <;> exact nofun

theorem barLine_mem_paragraphLine {quoted : Bool} {depth : Nat} {text : String} :
    barLine text ∈ paragraphLine quoted depth text ↔ text ≠ "" ∧ quoted = true := by
  constructor
  · intro member
    refine ⟨?_, (look_of_mem_paragraphLine member).mp rfl⟩
    rintro rfl
    cases member
  · rintro ⟨more, rfl⟩
    rw [paragraphLine, if_neg more]
    exact List.mem_singleton_self _

theorem look_of_mem_paragraphGap {depth : Nat} {line : BlockLine}
    (member : line ∈ paragraphGap depth) : line.2 ≠ .quote := by
  unfold paragraphGap at member
  split at member
  case isTrue =>
    cases List.mem_singleton.mp member
    exact nofun
  case isFalse => cases member

/-- A paragraph of plain text is one line with the bar and the look of a quote if and only if a
quote has begun and none has ended since, not even one inside the quote that the paragraph is in.
Outside quotes no paragraph has a line that looks like a quote. -/
theorem bars_of_paragraphs (text : String) {outer : List Tag} {before after : List Event}
    {children : List Node}
    (place : Place (parse text) outer before [.element .paragraph children] after) :
    let whole := Node.listShown false children
    let depth := outer.countP Tag.isList
    ∃ lines, ShownAs text before (Node.element .paragraph children).events lines ∧
      ((∀ child ∈ children, ∃ content, child = .leaf content ∧ OneLine content) →
        (QuoteBegun before → lines = paragraphLine true depth whole ++ paragraphGap depth) ∧
        (¬ QuoteBegun before → lines = paragraphLine false depth whole ++ paragraphGap depth) ∧
        (barLine whole ∈ lines ↔ whole ≠ "" ∧ QuoteBegun before)) ∧
      (outer.any Tag.isQuote = false → ¬ QuoteBegun before ∧ ∀ line ∈ lines, line.2 ≠ .quote) := by
  intro whole depth
  have within := within_element place
  have noted := Gathering.inQuote_walk before
  have flat : ∀ child ∈ children, Flat child :=
    fun child member => (flat_of_fits (children_fit place child member) (.inl rfl)).1
  have read := Gathering.walk_paragraph within.code flat
  rw [within.depth] at read
  refine ⟨_, shownAs_of_settled (events_of_place place) read, ?_, ?_⟩
  · intro plain
    rw [gathered_of_oneLine "" plain, List.nil_append, String.empty_append]
    refine ⟨fun begun => ?_, fun ended => ?_, ?_⟩
    · rw [noted.mpr begun]
    · rw [Bool.eq_false_iff.mpr fun quoted => ended (noted.mp quoted)]
    · rw [← noted, ← barLine_mem_paragraphLine, List.mem_append]
      exact or_iff_left fun gap => look_of_mem_paragraphGap gap rfl
  · intro outside
    have ended : ¬ QuoteBegun before := fun begun =>
      Bool.eq_false_iff.mp outside (within.quote (noted.mpr begun))
    refine ⟨ended, ?_⟩
    rw [Bool.eq_false_iff.mpr fun quoted => ended (noted.mp quoted)]
    intro line member
    rcases List.mem_append.mp member with either | gap
    · rcases List.mem_append.mp either with earlier | last
      · exact fun looks => nomatch (Part.look_of_mem_gathered line earlier).symm.trans looks
      · exact fun looks => nomatch (look_of_mem_paragraphLine last).mp looks
    · exact look_of_mem_paragraphGap gap

/-- A paragraph after a quote that is in the same quote. -/
def quoteInQuote : String :=
  "> > a\n>\n> b\n"

theorem parse_quoteInQuote :
    parse quoteInQuote =
      [.element .blockQuote
        [.element .blockQuote [.element .paragraph [.leaf (.text "a")]],
          .element .paragraph [.leaf (.text "b")]]] := by
  decide +kernel

theorem bars_of_paragraphs_of_quoteInQuote :
    (∃ before after,
      Place (parse quoteInQuote) [.blockQuote, .blockQuote] before
          [.element .paragraph [.leaf (.text "a")]] after ∧
        ShownAs quoteInQuote before (Node.element .paragraph [.leaf (.text "a")]).events
          [barLine "a", ("", .paragraph)]) ∧
    ∃ before after,
      Place (parse quoteInQuote) [.blockQuote] before
          [.element .paragraph [.leaf (.text "b")]] after ∧
        ShownAs quoteInQuote before (Node.element .paragraph [.leaf (.text "b")]).events
          [("b", .paragraph), ("", .paragraph)] := by
  let inner := Node.element .paragraph [.leaf (.text "a")]
  let last := Node.element .paragraph [.leaf (.text "b")]
  have document : parse quoteInQuote =
      [.element .blockQuote [.element .blockQuote [inner], last]] := parse_quoteInQuote
  have innerPlace := Place.inside_of_eq [] [] document
    (Place.inside [] [last] (Place.here [] [inner] []))
  have lastPlace := Place.inside_of_eq [] [] document
    (Place.here [.element .blockQuote [inner]] [last] [])
  have leaf : ∀ content, ∀ child ∈ [Node.leaf (.text content)],
      ∃ content, child = .leaf content ∧ OneLine content :=
    fun content => List.forall_mem_singleton.mpr ⟨.text content, rfl, trivial⟩
  obtain ⟨innerLines, innerShown, innerBar, _⟩ := bars_of_paragraphs quoteInQuote innerPlace
  obtain ⟨lastLines, lastShown, lastBar, _⟩ := bars_of_paragraphs quoteInQuote lastPlace
  have begun : QuoteBegun [.enter .blockQuote, .enter .blockQuote] :=
    ⟨[.enter .blockQuote], [], rfl, nofun⟩
  have ended : ¬ QuoteBegun
      [.enter .blockQuote, .enter .blockQuote, .enter .paragraph, .leaf (.text "a"),
        .leave .paragraph, .leave .blockQuote] := by
    rw [← Gathering.inQuote_walk]
    decide
  rw [(innerBar (leaf "a")).1 begun] at innerShown
  rw [(lastBar (leaf "b")).2.1 ended] at lastShown
  exact ⟨⟨_, _, innerPlace, innerShown⟩, ⟨_, _, lastPlace, lastShown⟩⟩

theorem quoteInQuote_without_bar :
    let lines := blockLines (events quoteInQuote)
    lines = [barLine "a", ("", .paragraph), ("b", .paragraph), ("", .paragraph)] ∧
      barLine "b" ∉ lines := by
  decide +kernel

end DocsConsole.Preview
