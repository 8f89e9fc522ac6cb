import DocsConsole.Proofs.Preview.Stretches

/-!
# Which items get a bullet

An item of a list gets its bullet when it is left, for the text that is pending then.  Text that a
nested block or markup has ended is shown before as a paragraph, and the paragraphs of a loose list
are shown when they end, without a bullet.
-/

namespace DocsConsole.Preview

open Markdown

/-- The line of an item in so many lists. -/
def itemLine (depth : Nat) (text : String) : BlockLine :=
  (Text.repeated (depth - 1) "  " ++ "• " ++ text, .listItem)

/-- The line of an item with some text. -/
def bulletLine (depth : Nat) (text : String) : List BlockLine :=
  if text = "" then [] else [itemLine depth text]

namespace Part

theorem length_last_le (pending : String) (parts : List Part) :
    (gathered pending parts).2.length ≤ pending.length + (listShown parts).length := by
  fun_induction gathered pending parts with
  | case1 pending => exact Nat.le_add_right _ _
  | case2 pending content rest induction =>
      rw [listShown_cons, String.length_append, ← Nat.add_assoc, ← String.length_append]
      exact induction
  | case3 pending rest induction =>
      rw [listShown_cons, shown, String.empty_append]
      exact Nat.le_trans induction (Nat.add_le_add_right (Nat.zero_le _) _)
  | case4 pending rest induction =>
      rw [listShown_cons, shown, String.empty_append]
      exact induction

/-- The text that is left pending is the whole text only without a break. -/
theorem last_eq_iff {pending : String} {parts : List Part} :
    (gathered pending parts).2 = pending ++ listShown parts ↔ Unbroken pending parts := by
  fun_induction gathered pending parts with
  | case1 pending => simp [Unbroken]
  | case2 pending content rest induction =>
      rw [unbroken_text, listShown_cons, shown, ← String.append_assoc]
      exact induction
  | case3 pending rest induction =>
      rw [unbroken_stop, ← induction, listShown_cons, shown, String.empty_append]
      constructor
      · intro same
        have short := length_last_le "" rest
        have empty : pending = "" := by
          rw [same, String.length_append, String.length_empty] at short
          exact String.length_eq_zero_iff.mp (by omega)
        rw [empty, String.empty_append] at same
        exact ⟨empty, same⟩
      · rintro ⟨rfl, same⟩
        rw [same, String.empty_append]
  | case4 pending rest induction =>
      rw [unbroken_rule, listShown_cons, shown, String.empty_append]
      exact induction

end Part

namespace Gathering

variable {g : Gathering} {own : List Node}

theorem enter_item (closed : g.inCode = false) : g.enter .item = g.settled [] :=
  (enter_of_opensNothing closed rfl).trans g.settled_nil.symm

theorem walk_own (closed : g.inCode = false) (flat : ∀ node ∈ own, Flat node) :
    g.walk (.enter .item :: Node.listEvents own) =
      { g.settled (Part.gathered "" (nodeParts own)).1 with
        current := (Part.gathered "" (nodeParts own)).2 } := by
  rw [walk, List.foldl_cons, event, enter_item closed]
  exact walk_children closed flat []

theorem walk_item (closed : g.inCode = false) (flat : ∀ node ∈ own, Flat node) :
    g.walk (Node.element .item own).events =
      g.settled ((Part.gathered "" (nodeParts own)).1 ++
        bulletLine g.listDepth (Part.gathered "" (nodeParts own)).2) := by
  have divided : g.walk (Node.element .item own).events =
      (g.walk (.enter .item :: Node.listEvents own)).leave .item := walk_element g .item own
  rw [divided, walk_own closed flat]
  generalize Part.gathered "" (nodeParts own) = shown
  obtain ⟨lines, last⟩ := shown
  by_cases empty : last = ""
  · subst empty
    simp [leave, bulletLine, settled]
  · simp [leave, bulletLine, settled, empty, addLine, itemLine]

theorem walk_loose (closed : g.inCode = false) (flat : ∀ node ∈ own, Flat node) :
    g.walk (.enter .item :: (Node.element .paragraph own).events) =
      g.settled ((Part.gathered "" (nodeParts own)).1 ++
        paragraphLine g.inQuote g.listDepth (Part.gathered "" (nodeParts own)).2 ++
        paragraphGap g.listDepth) := by
  have inside : (g.settled []).inCode = false := closed
  rw [walk, List.foldl_cons, event, enter_item closed]
  exact (walk_paragraph inside flat).trans (settled_settled g [] _)

end Gathering

/-- There is a list around an item. -/
theorem list_of_item {text : String} {outer : List Tag} {before after : List Event}
    {children : List Node} (place : Place (parse text) outer before [.element .item children] after) :
    0 < outer.countP Tag.isList := by
  have around : ∀ {outer : List Tag} {slot : Slot}, outer.foldl Slot.inside slot = .list →
      slot = .list ∨ 0 < outer.countP Tag.isList := by
    intro outer slot listed
    induction outer generalizing slot with
    | nil => exact .inl listed
    | cons tag outer induction =>
        rw [List.countP_cons]
        rcases induction listed with inside | further
        · cases tag with
          | list => exact .inr (Nat.succ_pos _)
          | emphasis | strong | strikethrough | link | image => exact .inl inside
          | _ => cases inside
        · exact .inr (Nat.add_pos_left further _)
  have fits := place.fits (parse_fits text) _ (List.mem_singleton_self _)
  refine (around ?_).resolve_left (nofun : Slot.document ≠ .list)
  generalize outer.foldl Slot.inside .document = slot at fits
  cases fits with
  | element admitted =>
      cases slot with
      | list => rfl
      | _ => cases admitted

section

variable {own : List Node} (flat : ∀ node ∈ own, Flat node) (depth : Nat)

include flat

theorem listShown_flat : "" ++ Part.listShown (nodeParts own) = Node.listShown false own := by
  rw [String.empty_append]
  exact listShown_nodeParts fun node member => (flat node member).listShown

/-- The text of an item is on a line with a bullet if and only if it is not broken. -/
theorem itemLine_mem_iff :
    itemLine depth (Node.listShown false own) ∈
        (Part.gathered "" (nodeParts own)).1 ++
          bulletLine depth (Part.gathered "" (nodeParts own)).2 ↔
      Node.listShown false own ≠ "" ∧ Part.Unbroken "" (nodeParts own) := by
  rw [← Part.last_eq_iff, listShown_flat flat]
  generalize (Part.gathered "" (nodeParts own)).2 = last
  rw [List.mem_append]
  constructor
  · rintro (earlier | final)
    · cases Part.look_of_mem_gathered _ earlier
    · unfold bulletLine at final
      split at final
      case isTrue => cases final
      case isFalse more =>
        have same := (Prod.mk.inj (List.mem_singleton.mp final)).1
        have whole := (String.append_right_inj _).mp same
        exact ⟨whole ▸ more, whole.symm⟩
  · rintro ⟨more, rfl⟩
    rw [bulletLine, if_neg more]
    exact .inr (List.mem_singleton_self _)

/-- The paragraph of a loose list has no bullet. -/
theorem itemLine_not_mem (quoted : Bool) :
    itemLine depth (Node.listShown false own) ∉
      (Part.gathered "" (nodeParts own)).1 ++
        paragraphLine quoted depth (Part.gathered "" (nodeParts own)).2 := by
  have short := Part.length_last_le "" (nodeParts own)
  rw [← String.length_append, listShown_flat flat] at short
  generalize (Part.gathered "" (nodeParts own)).2 = last at short ⊢
  rw [List.mem_append]
  rintro (earlier | final)
  · cases Part.look_of_mem_gathered _ earlier
  · unfold paragraphLine at final
    split at final
    case isTrue => cases final
    case isFalse =>
      split at final
      case isTrue => cases (Prod.mk.inj (List.mem_singleton.mp final)).2
      case isFalse =>
        have same := congrArg String.length (Prod.mk.inj (List.mem_singleton.mp final)).1
        have mark : String.length "• " = 2 := by decide
        rw [String.length_append, String.length_append, mark] at same
        omega

end

/-- The text of an item gets its bullet, indented by two spaces for each list around the list of the
item, if and only if no block is nested in the item, the list is tight, and no markup begins after
some of the text.  What stands before an element is shown as a paragraph, and the paragraph of an
item without a bullet. -/
theorem bullets_of_items (text : String) {outer : List Tag} {before after : List Event}
    {own rest : List Node} :
    let depth := outer.countP Tag.isList
    let whole := Node.listShown false own
    let shown := Part.gathered "" (nodeParts own)
    (Place (parse text) outer before [.element .item own] after → (∀ node ∈ own, Flat node) →
      ShownAs text before (Node.element .item own).events (shown.1 ++ bulletLine depth shown.2) ∧
        (itemLine depth whole ∈ shown.1 ++ bulletLine depth shown.2 ↔
          whole ≠ "" ∧ Part.Unbroken "" (nodeParts own)) ∧
        (Part.Unbroken "" (nodeParts own) →
          shown = (List.replicate ((nodeParts own).count .rule) ruleLine, whole))) ∧
    (∀ tag inner,
      Place (parse text) outer before [.element .item (own ++ .element tag inner :: rest)] after →
      (∀ node ∈ own, Flat node) →
      ShownAs text before (.enter .item :: Node.listEvents own) (Part.lines "" (nodeParts own)) ∧
        ∀ line ∈ Part.lines "" (nodeParts own), line.2 = .paragraph) ∧
    (Place (parse text) outer before [.element .item (.element .paragraph own :: rest)] after →
      ∃ quoted, (quoted = true → outer.any Tag.isQuote = true) ∧
        ShownAs text before (.enter .item :: (Node.element .paragraph own).events)
          (shown.1 ++ paragraphLine quoted depth shown.2) ∧
        itemLine depth whole ∉ shown.1 ++ paragraphLine quoted depth shown.2) := by
  intro depth whole shown
  refine ⟨?_, ?_, ?_⟩
  · intro place flat
    have within := within_element place
    refine ⟨shownAs_of_settled (events_of_place place) ?_, itemLine_mem_iff flat depth, ?_⟩
    · rw [Gathering.walk_item within.code flat, within.depth]
    · intro unbroken
      exact (Part.gathered_of_unbroken unbroken).trans (congrArg _ (listShown_flat flat))
  · intro tag inner place flat
    have within := within_element place
    refine ⟨?_, Part.look_of_mem_lines⟩
    have divided : events text = before ++ .enter .item :: Node.listEvents own ++
        .enter tag :: (Node.listEvents inner ++ .leave tag ::
          (Node.listEvents rest ++ .leave .item :: after)) := by
      rw [events_of_place place, Node.events, Node.listEvents_append, Node.listEvents, Node.events]
      simp
    exact shownAs_of_pending divided within.code (Gathering.walk_own within.code flat)
  · intro place
    have within := within_element place
    have fit := children_fit place
    have flat : ∀ child ∈ own, Flat child := fun child member =>
      (flat_of_fits ((List.forall_mem_cons.mp fit).1.children child member) (.inl rfl)).1
    have listed : 0 < depth := list_of_item place
    refine ⟨(Gathering.empty.walk before).inQuote, within.quote, ?_,
      itemLine_not_mem flat depth _⟩
    have divided : events text =
        before ++ .enter .item :: (Node.element .paragraph own).events ++
          (Node.listEvents rest ++ .leave .item :: after) := by
      rw [events_of_place place, Node.events, Node.listEvents]
      simp
    refine shownAs_of_settled divided ?_
    rw [Gathering.walk_loose within.code flat, within.depth, paragraphGap,
      if_neg (Nat.pos_iff_ne_zero.mp listed), List.append_nil]

/-- A tight list in a tight list, and a loose list. -/
def tightAndLoose : String :=
  "- a\n  - b\n\n1. c\n\n2. d\n"

theorem parse_tightAndLoose :
    parse tightAndLoose =
      [.element (.list none)
          [.element .item
            [.leaf (.text "a"),
              .element (.list none) [.element .item [.leaf (.text "b")]]]],
        .element (.list (some 1))
          [.element .item [.element .paragraph [.leaf (.text "c")]],
            .element .item [.element .paragraph [.leaf (.text "d")]]]] := by
  decide +kernel

theorem bullets_of_items_of_tightAndLoose :
    (∃ before after,
      Place (parse tightAndLoose) [.list none, .item, .list none] before
          [.element .item [.leaf (.text "b")]] after ∧
        ShownAs tightAndLoose before (Node.element .item [.leaf (.text "b")]).events
          [itemLine 2 "b"]) ∧
    (∃ before inner after,
      Place (parse tightAndLoose) [.list none] before
          [.element .item ([.leaf (.text "a")] ++ .element (.list none) inner :: [])] after ∧
        ShownAs tightAndLoose before [.enter .item, .leaf (.text "a")] [("a", .paragraph)]) ∧
    ∃ before after,
      Place (parse tightAndLoose) [.list (some 1)] before
          [.element .item [.element .paragraph [.leaf (.text "c")]]] after ∧
        ShownAs tightAndLoose before
          (.enter .item :: (Node.element .paragraph [.leaf (.text "c")]).events)
          [("c", .listItem)] := by
  let inner := Node.element .item [.leaf (.text "b")]
  let outer := Node.element .item [.leaf (.text "a"), .element (.list none) [inner]]
  let first := Node.element .item [.element .paragraph [.leaf (.text "c")]]
  let second := Node.element .item [.element .paragraph [.leaf (.text "d")]]
  have document : parse tightAndLoose =
      [.element (.list none) [outer], .element (.list (some 1)) [first, second]] :=
    parse_tightAndLoose
  have outerPlace := Place.inside_of_eq [] _ document (Place.here [] [outer] [])
  have innerPlace := Place.inside_of_eq [] _ document
    (Place.inside [] [] (Place.inside [.leaf (.text "a")] [] (Place.here [] [inner] [])))
  have loosePlace := Place.inside_of_eq [.element (.list none) [outer]] [] document
    (Place.here [] [first] [second])
  have innerShown := ((@bullets_of_items tightAndLoose _ _ _ _ []).1 innerPlace
    (List.forall_mem_singleton.mpr (.leaf _))).1
  have outerShown := ((@bullets_of_items tightAndLoose _ _ _ [.leaf (.text "a")] []).2.1
    (.list none) [inner] outerPlace (List.forall_mem_singleton.mpr (.leaf _))).1
  obtain ⟨quoted, noted, looseShown, _⟩ := (bullets_of_items tightAndLoose).2.2 loosePlace
  have unquoted : quoted = false := Bool.eq_false_iff.mpr fun quote => nomatch noted quote
  subst unquoted
  have single : ∀ {content : String}, content ∈ ["b", "c"] →
      Part.gathered "" (nodeParts [.leaf (.text content)]) = ([], content) := by
    decide +kernel
  rw [single (by decide)] at innerShown looseShown
  exact ⟨⟨_, _, innerPlace, innerShown⟩, ⟨_, _, _, outerPlace, outerShown⟩,
    ⟨_, _, loosePlace, looseShown⟩⟩

theorem tightAndLoose_without_bullets :
    let lines := blockLines (events tightAndLoose)
    lines = [("a", .paragraph), itemLine 2 "b", ("", .paragraph), ("c", .listItem),
        ("d", .listItem), ("", .paragraph)] ∧
      itemLine 1 "a" ∉ lines ∧ itemLine 1 "c" ∉ lines ∧ itemLine 1 "d" ∉ lines := by
  decide +kernel

end DocsConsole.Preview
