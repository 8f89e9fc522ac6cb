import DocsConsole.Proofs.Preview.Shown

/-!
# Where a line is broken

Every element ends the line that is being gathered, inline markup and cells as well as blocks.  So
the text of a heading, a paragraph or a table row is divided wherever markup or a cell begins after
some text: only the last stretch gets the mark and the look of the block.
-/

namespace DocsConsole.Preview

open Markdown

namespace Part

/-- No text stands before a point where the line may end. -/
def Unbroken (pending : String) (parts : List Part) : Prop :=
  ∀ before after, parts = before ++ .stop :: after → pending ++ listShown before = ""

/-- No point where the line may end has text on both sides. -/
def Undivided (pending : String) (parts : List Part) : Prop :=
  ∀ before after, parts = before ++ .stop :: after →
    pending ++ listShown before = "" ∨ listShown after = ""

theorem forall_stop_cons {P : List Part → List Part → Prop} {part : Part} {parts : List Part} :
    (∀ before after, part :: parts = before ++ .stop :: after → P before after) ↔
      (part = .stop → P [] parts) ∧
        ∀ before after, parts = before ++ .stop :: after → P (part :: before) after := by
  refine ⟨fun holds => ⟨?_, ?_⟩, fun ⟨first, others⟩ before after same => ?_⟩
  · rintro rfl
    exact holds [] parts rfl
  · intro before after same
    exact holds (part :: before) after (congrArg (part :: ·) same)
  · cases before with
    | nil =>
        obtain ⟨rfl, rfl⟩ := List.cons.inj same
        exact first rfl
    | cons other before =>
        obtain ⟨rfl, rest⟩ := List.cons.inj same
        exact others before after rest

theorem unbroken_text {pending content : String} {parts : List Part} :
    Unbroken pending (.text content :: parts) ↔ Unbroken (pending ++ content) parts := by
  rw [Unbroken, forall_stop_cons]
  simp [Unbroken, shown, String.append_assoc]

theorem unbroken_stop {pending : String} {parts : List Part} :
    Unbroken pending (.stop :: parts) ↔ pending = "" ∧ Unbroken "" parts := by
  rw [Unbroken, forall_stop_cons]
  simp +contextual [Unbroken, shown]

theorem unbroken_rule {pending : String} {parts : List Part} :
    Unbroken pending (.rule :: parts) ↔ Unbroken pending parts := by
  rw [Unbroken, forall_stop_cons]
  simp [Unbroken, shown]

theorem undivided_text {pending content : String} {parts : List Part} :
    Undivided pending (.text content :: parts) ↔ Undivided (pending ++ content) parts := by
  rw [Undivided, forall_stop_cons]
  simp [Undivided, shown, String.append_assoc]

theorem undivided_stop {pending : String} {parts : List Part} :
    Undivided pending (.stop :: parts) ↔
      (pending = "" ∨ listShown parts = "") ∧ Undivided pending parts := by
  rw [Undivided, forall_stop_cons]
  simp [Undivided, shown]

/-! ## Lines and pending text -/

/-- The lines that some parts end, and the text they leave pending, when some text is pending. -/
def gathered (pending : String) : List Part → List BlockLine × String
  | [] => ([], pending)
  | .text content :: rest => gathered (pending ++ content) rest
  | .stop :: rest =>
      (shownLine .paragraph pending ++ (gathered "" rest).1, (gathered "" rest).2)
  | .rule :: rest => (ruleLine :: (gathered pending rest).1, (gathered pending rest).2)

/-- The lines of some parts, the last one included. -/
def lines (pending : String) (parts : List Part) : List BlockLine :=
  (gathered pending parts).1 ++ shownLine .paragraph (gathered pending parts).2

theorem foldl_part (g : Gathering) (parts : List Part) :
    parts.foldl Gathering.part g =
      { g with
        lines := (gathered g.current parts).1.reverse ++ g.lines
        current := (gathered g.current parts).2 } := by
  induction parts generalizing g with
  | nil => rfl
  | cons part parts induction =>
      rw [List.foldl_cons, induction]
      cases part with
      | text content => rfl
      | stop =>
          rw [Gathering.part, Gathering.flush_eq, gathered, List.reverse_append, shownLine_reverse,
            List.append_assoc]
      | rule =>
          rw [gathered, List.reverse_cons, List.append_assoc]
          rfl

theorem look_of_mem_shownLine {look : BlockStyle} {text : String} :
    ∀ line ∈ shownLine look text, line.2 = look := by
  unfold shownLine
  split
  case isTrue => exact List.forall_mem_nil _
  case isFalse => exact List.forall_mem_singleton.mpr rfl

theorem look_of_mem_gathered {pending : String} {parts : List Part} :
    ∀ line ∈ (gathered pending parts).1, line.2 = .paragraph := by
  fun_induction gathered pending parts with
  | case1 => exact List.forall_mem_nil _
  | case2 _ _ _ induction => exact induction
  | case3 pending rest induction =>
      exact List.forall_mem_append.mpr ⟨look_of_mem_shownLine, induction⟩
  | case4 pending rest induction => exact List.forall_mem_cons.mpr ⟨rfl, induction⟩

theorem look_of_mem_lines {pending : String} {parts : List Part} :
    ∀ line ∈ lines pending parts, line.2 = .paragraph :=
  List.forall_mem_append.mpr ⟨look_of_mem_gathered, look_of_mem_shownLine⟩

/-- Without a break, the text stays together. -/
theorem gathered_of_unbroken {pending : String} {parts : List Part}
    (unbroken : Unbroken pending parts) :
    gathered pending parts =
      (List.replicate (parts.count .rule) ruleLine, pending ++ listShown parts) := by
  fun_induction gathered pending parts with
  | case1 pending =>
      rw [listShown_nil, String.append_empty]
      rfl
  | case2 pending content rest induction =>
      have other : Part.text content ≠ .rule := nofun
      rw [induction (unbroken_text.mp unbroken), listShown_cons, String.append_assoc,
        List.count_cons_of_ne other]
      rfl
  | case3 pending rest induction =>
      obtain ⟨rfl, others⟩ := unbroken_stop.mp unbroken
      have other : Part.stop ≠ .rule := nofun
      rw [induction others, listShown_cons, List.count_cons_of_ne other, shown, shownLine,
        if_pos rfl, String.empty_append]
      rfl
  | case4 pending rest induction =>
      rw [induction (unbroken_rule.mp unbroken), listShown_cons, List.count_cons_self, shown,
        String.empty_append]
      rfl

section

variable (pending : String) {parts : List Part} (noRule : ∀ part ∈ parts, part ≠ .rule)

include noRule

/-- Every stretch of text but the last is a line of its own. -/
theorem exists_stretches :
    ∃ earlier : List String, (∀ stretch ∈ earlier, stretch ≠ "") ∧
      (gathered pending parts).1 = earlier.map (·, .paragraph) ∧
      String.join earlier ++ (gathered pending parts).2 = pending ++ listShown parts := by
  fun_induction gathered pending parts with
  | case1 pending =>
      refine ⟨[], nofun, rfl, ?_⟩
      rw [String.join_nil, String.empty_append, listShown_nil, String.append_empty]
  | case2 pending content rest induction =>
      rw [listShown_cons, shown, ← String.append_assoc]
      exact induction (List.forall_mem_cons.mp noRule).2
  | case3 pending rest induction =>
      obtain ⟨earlier, nonempty, same, joined⟩ := induction (List.forall_mem_cons.mp noRule).2
      rw [String.empty_append] at joined
      rw [same, listShown_cons, shown, String.empty_append, ← joined, ← String.append_assoc]
      by_cases empty : pending = ""
      · subst empty
        exact ⟨earlier, nonempty, rfl, by rw [String.empty_append]⟩
      · refine ⟨pending :: earlier, List.forall_mem_cons.mpr ⟨empty, nonempty⟩, ?_, ?_⟩
        · rw [shownLine, if_neg empty]
          rfl
        · rw [String.join_cons]
  | case4 pending rest induction => exact absurd rfl (noRule .rule List.mem_cons_self)

theorem gathered_eq_nil_iff : (gathered pending parts).1 = [] ↔ Unbroken pending parts := by
  fun_induction gathered pending parts with
  | case1 pending => simp [Unbroken]
  | case2 pending content rest induction =>
      rw [unbroken_text]
      exact induction (List.forall_mem_cons.mp noRule).2
  | case3 pending rest induction =>
      rw [unbroken_stop, List.append_eq_nil_iff, shownLine_eq_nil_iff,
        induction (List.forall_mem_cons.mp noRule).2]
  | case4 pending rest induction => exact absurd rfl (noRule .rule List.mem_cons_self)

theorem exists_lines :
    ∃ stretches : List String, (∀ stretch ∈ stretches, stretch ≠ "") ∧
      lines pending parts = stretches.map (·, .paragraph) ∧
      String.join stretches = pending ++ listShown parts := by
  obtain ⟨earlier, nonempty, same, joined⟩ := exists_stretches pending noRule
  rw [lines, same, ← joined]
  by_cases empty : (gathered pending parts).2 = ""
  · rw [empty, shownLine, if_pos rfl, List.append_nil, String.append_empty]
    exact ⟨earlier, nonempty, rfl, rfl⟩
  · refine ⟨earlier ++ [(gathered pending parts).2], ?_, ?_, ?_⟩
    · exact List.forall_mem_append.mpr ⟨nonempty, List.forall_mem_singleton.mpr empty⟩
    · rw [shownLine, if_neg empty, List.map_append]
      rfl
    · rw [String.join_append, String.join_cons, String.join_nil, String.append_empty]

theorem lines_eq_nil_iff : lines pending parts = [] ↔ pending ++ listShown parts = "" := by
  obtain ⟨stretches, nonempty, same, joined⟩ := exists_lines pending noRule
  rw [same, ← joined, List.map_eq_nil_iff, Text.join_eq_empty_iff]
  constructor
  · rintro rfl
    exact nofun
  · intro empty
    exact List.eq_nil_iff_forall_not_mem.mpr fun stretch member =>
      nonempty stretch member (empty stretch member)

theorem length_lines_le_one_iff : (lines pending parts).length ≤ 1 ↔ Undivided pending parts := by
  induction parts generalizing pending with
  | nil =>
      refine ⟨fun _ before after same => ?_, fun _ => ?_⟩
      · cases before <;> cases same
      · exact length_shownLine_le .paragraph pending
  | cons part parts induction =>
      obtain ⟨first, others⟩ := List.forall_mem_cons.mp noRule
      cases part with
      | rule => exact absurd rfl first
      | text content =>
          rw [undivided_text]
          exact induction (pending ++ content) others
      | stop =>
          have divided : lines pending (.stop :: parts) =
              shownLine .paragraph pending ++ lines "" parts := by
            rw [lines, gathered, List.append_assoc]
            rfl
          rw [undivided_stop, divided]
          by_cases empty : pending = ""
          · subst empty
            rw [shownLine, if_pos rfl, List.nil_append, induction "" others]
            simp
          · -- The pending text is a line by now, so nothing may follow.
            have nothing := lines_eq_nil_iff "" others
            rw [String.empty_append] at nothing
            rw [shownLine, if_neg empty, List.singleton_append, List.length_cons]
            constructor
            · intro short
              have silent : listShown parts = "" :=
                nothing.mp (List.length_eq_zero_iff.mp (by omega))
              refine ⟨.inr silent, fun before after same => .inr ?_⟩
              rw [same, listShown_append, listShown_cons] at silent
              exact (String.append_eq_empty_iff.mp (String.append_eq_empty_iff.mp silent).2).2
            · rintro ⟨other | silent, _⟩
              · exact absurd other empty
              · rw [nothing.mpr silent]
                exact Nat.le_refl 1

/-- The text is on exactly one line if there is text, and none is on both sides of a point where
the line may end. -/
theorem lines_eq_singleton_iff {whole : String} (all : pending ++ listShown parts = whole) :
    lines pending parts = [(whole, .paragraph)] ↔ whole ≠ "" ∧ Undivided pending parts := by
  obtain ⟨stretches, nonempty, same, joined⟩ := exists_lines pending noRule
  rw [← length_lines_le_one_iff pending noRule, same, List.length_map, ← all, ← joined]
  cases stretches with
  | nil => simp [String.join_nil]
  | cons first others =>
      have some := (List.forall_mem_cons.mp nonempty).1
      cases others with
      | nil => simp [String.join_cons, String.join_nil, some]
      | cons second others => simp

end

end Part

/-! ## Nodes without blocks -/

def eventParts : Event → List Part
  | .enter _ => [.stop]
  | .leave tag => [.text tag.separator]
  | .leaf content => leafParts content

/-- The parts of a node outside code. -/
def partsOf (node : Node) : List Part :=
  node.events.flatMap eventParts

def nodeParts (nodes : List Node) : List Part :=
  nodes.flatMap partsOf

/-- A node in which nothing but inline markup and cells begins. -/
inductive Flat : Node → Prop where
  | leaf (content : Leaf) : Flat (.leaf content)
  | element {tag : Tag} {children : List Node} :
      (tag.isInline || tag = .tableCell) = true → (∀ child ∈ children, Flat child) →
      Flat (.element tag children)

theorem partsOf_leaf (content : Leaf) : partsOf (.leaf content) = leafParts content :=
  List.flatMap_singleton _ _

theorem partsOf_element (tag : Tag) (children : List Node) :
    partsOf (.element tag children) = .stop :: (nodeParts children ++ [.text tag.separator]) := by
  have inside : (Node.listEvents children).flatMap eventParts = nodeParts children := by
    induction children with
    | nil => rfl
    | cons child children induction =>
        rw [Node.listEvents, List.flatMap_append, induction]
        rfl
  rw [partsOf, Node.events, List.flatMap_cons, List.flatMap_append, inside]
  rfl

theorem opensNothing_of_flat {tag : Tag} (flat : (tag.isInline || tag = .tableCell) = true) :
    tag.opensNothing = true := by
  cases tag with
  | heading | codeBlock | list | blockQuote => cases flat
  | _ => rfl

theorem isCode_of_flat {tag : Tag} (flat : (tag.isInline || tag = .tableCell) = true) :
    tag.isCode = false := by
  cases tag with
  | codeBlock => cases flat
  | _ => rfl

theorem listShown_nodeParts {nodes : List Node}
    (each : ∀ node ∈ nodes, Part.listShown (partsOf node) = node.shown false) :
    Part.listShown (nodeParts nodes) = Node.listShown false nodes := by
  induction nodes with
  | nil => rfl
  | cons node nodes induction =>
      obtain ⟨first, others⟩ := List.forall_mem_cons.mp each
      rw [nodeParts, List.flatMap_cons, Part.listShown_append, first, Node.listShown]
      exact congrArg (node.shown false ++ ·) (induction others)

/-- What a node shows is what its parts show. -/
theorem Flat.listShown {node : Node} (flat : Flat node) :
    Part.listShown (partsOf node) = node.shown false := by
  induction flat with
  | leaf content =>
      rw [partsOf_leaf]
      exact Part.listShown_leafParts content
  | element inline _ induction =>
      rw [partsOf_element, Part.listShown_cons, Part.listShown_append,
        listShown_nodeParts induction, Part.listShown_cons, Part.listShown_nil, Node.shown,
        isCode_of_flat inline]
      simp [Part.shown]

namespace Gathering

theorem inCode_parts (g : Gathering) (parts : List Part) :
    (parts.foldl part g).inCode = g.inCode := by
  rw [Part.foldl_part]

theorem walk_nodeParts {nodes : List Node}
    (each : ∀ node ∈ nodes, ∀ {g : Gathering}, g.inCode = false →
      g.walk node.events = (partsOf node).foldl part g)
    {g : Gathering} (closed : g.inCode = false) :
    g.walk (Node.listEvents nodes) = (nodeParts nodes).foldl part g := by
  induction nodes generalizing g with
  | nil => rfl
  | cons node nodes induction =>
      obtain ⟨first, others⟩ := List.forall_mem_cons.mp each
      have stays := (g.inCode_parts (partsOf node)).trans closed
      rw [walk_listEvents_cons, first closed, induction others stays]
      exact List.foldl_append.symm

theorem append_empty (g : Gathering) : g.append "" = g := by
  rw [append, String.append_empty]

/-- Reading a node is adding its parts. -/
theorem walk_flat {node : Node} (flat : Flat node) {g : Gathering} (closed : g.inCode = false) :
    g.walk node.events = (partsOf node).foldl part g := by
  induction flat generalizing g with
  | leaf content =>
      rw [partsOf_leaf]
      exact g.leaf_eq closed content
  | @element tag children inline _ induction =>
      have entered : g.enter tag = g.part .stop :=
        enter_of_opensNothing closed (opensNothing_of_flat inline)
      have left : ∀ g : Gathering, g.leave tag = g.append tag.separator := by
        intro g
        cases tag with
        | tableCell => rfl
        | emphasis | strong | strikethrough | link | image => exact g.append_empty.symm
        | _ => cases inline
      have opened : (g.part .stop).inCode = false := (g.inCode_parts [.stop]).trans closed
      rw [walk_element, entered, walk_nodeParts induction opened, left, partsOf_element,
        List.foldl_cons, List.foldl_append]
      rfl

end Gathering

/-! ## Leaves in a line -/

/-- Whether no line ends in a leaf. -/
def OneLine : Leaf → Prop
  | .html content => (Text.lines content).length ≤ 1
  | .rule => False
  | _ => True

theorem text_of_oneLine {content : Leaf} (oneLine : OneLine content) :
    ∀ part ∈ leafParts content, ∃ text, part = .text text := by
  cases content with
  | html content =>
      change (Text.lines content).length ≤ 1 at oneLine
      change ∀ part ∈ Part.ofLines (Text.lines content), _
      generalize Text.lines content = lines at oneLine
      cases lines with
      | nil => exact nofun
      | cons first others =>
          cases others with
          | nil => exact List.forall_mem_singleton.mpr ⟨first, rfl⟩
          | cons => exact absurd oneLine (by simp)
  | rule => exact oneLine.elim
  | text content => exact List.forall_mem_singleton.mpr ⟨_, rfl⟩
  | code content => exact List.forall_mem_singleton.mpr ⟨_, rfl⟩
  | softBreak => exact List.forall_mem_singleton.mpr ⟨_, rfl⟩
  | hardBreak => exact List.forall_mem_singleton.mpr ⟨_, rfl⟩

theorem partsOf_oneLine {nodes : List Node}
    (leaves : ∀ node ∈ nodes, ∃ content, node = .leaf content ∧ OneLine content) :
    ∀ part ∈ nodeParts nodes, ∃ text, part = .text text := by
  intro part member
  obtain ⟨node, isNode, isPart⟩ := List.mem_flatMap.mp member
  obtain ⟨content, rfl, oneLine⟩ := leaves node isNode
  rw [partsOf_leaf] at isPart
  exact text_of_oneLine oneLine part isPart

theorem flat_of_leaves {nodes : List Node}
    (leaves : ∀ node ∈ nodes, ∃ content, node = .leaf content ∧ OneLine content) :
    ∀ node ∈ nodes, Flat node := by
  intro node member
  obtain ⟨content, rfl, _⟩ := leaves node member
  exact .leaf content

theorem gathered_of_texts {pending : String} {parts : List Part}
    (texts : ∀ part ∈ parts, ∃ text, part = .text text) :
    Part.gathered pending parts = ([], pending ++ Part.listShown parts) := by
  induction parts generalizing pending with
  | nil => rw [Part.listShown_nil, String.append_empty]; rfl
  | cons part parts induction =>
      obtain ⟨⟨text, rfl⟩, others⟩ := List.forall_mem_cons.mp texts
      rw [Part.gathered, induction others, Part.listShown_cons, String.append_assoc]
      rfl

/-- Where no line ends, the text stays together. -/
theorem gathered_of_oneLine {nodes : List Node} (pending : String)
    (leaves : ∀ node ∈ nodes, ∃ content, node = .leaf content ∧ OneLine content) :
    Part.gathered pending (nodeParts nodes) = ([], pending ++ Node.listShown false nodes) := by
  rw [gathered_of_texts (partsOf_oneLine leaves),
    listShown_nodeParts fun node member => (flat_of_leaves leaves node member).listShown]

/-! ## Lines of text -/

theorem rule_not_mem_ofLines (lines : List String) :
    ∀ part ∈ Part.ofLines lines, part ≠ .rule := by
  cases lines with
  | nil => exact nofun
  | cons first others =>
      refine List.forall_mem_cons.mpr ⟨nofun, ?_⟩
      intro part member
      obtain ⟨line, _, either⟩ := List.mem_flatMap.mp member
      simp only [List.mem_cons, List.not_mem_nil, or_false] at either
      rcases either with rfl | rfl <;> exact nofun

/-- Nodes in a line of text, and the cells of a row, are flat, and hold no rules. -/
theorem flat_of_fits {known : List String → Prop} {slot : Slot} {node : Node}
    (fits : node.Fits known slot) (inLine : slot = .line ∨ slot = .row) :
    Flat node ∧ ∀ part ∈ partsOf node, part ≠ .rule := by
  induction fits with
  | @leaf slot content admitted =>
      refine ⟨.leaf content, ?_⟩
      rw [partsOf_leaf]
      cases content with
      | rule =>
          rcases inLine with rfl | rfl
          · exact (admitted rfl).elim
          · exact admitted.elim
      | html content => exact rule_not_mem_ofLines _
      | _ => exact List.forall_mem_singleton.mpr nofun
  | code blocks =>
      rcases inLine with rfl | rfl
      · cases blocks
      · cases blocks
  | @element slot tag children admitted _ induction =>
      have inside : (tag.isInline || tag = .tableCell) = true ∧
          (slot.inside tag = .line ∨ slot.inside tag = .row) := by
        rcases inLine with rfl | rfl
        · have inline : tag.isInline = true := admitted
          exact ⟨Bool.or_eq_true_iff.mpr (.inl inline), .inl (Slot.inside_of_isInline .line inline)⟩
        · cases tag with
          | tableCell => exact ⟨rfl, .inl rfl⟩
          | _ => cases admitted
      refine ⟨.element inside.1 fun child member => (induction child member inside.2).1, ?_⟩
      rw [partsOf_element]
      refine List.forall_mem_cons.mpr ⟨nofun, List.forall_mem_append.mpr ⟨?_, ?_⟩⟩
      · intro part member
        obtain ⟨child, isChild, isPart⟩ := List.mem_flatMap.mp member
        exact (induction child isChild inside.2).2 part isPart
      · exact List.forall_mem_singleton.mpr nofun

/-! ## Blocks -/

/-- The line before a heading. -/
def headingGap (earlier : List BlockLine) : List BlockLine :=
  if earlier.isEmpty then [] else [("", .paragraph)]

namespace Gathering

variable {g : Gathering} {children : List Node}

/-- Inside an element the parts are gathered from the start of a line. -/
theorem walk_children (closed : g.inCode = false) (flat : ∀ child ∈ children, Flat child)
    (gap : List BlockLine) :
    (g.settled gap).walk (Node.listEvents children) =
      { g.settled (gap ++ (Part.gathered "" (nodeParts children)).1) with
        current := (Part.gathered "" (nodeParts children)).2 } := by
  have entered : (g.settled gap).inCode = false := closed
  rw [walk_nodeParts (fun child member _ => walk_flat (flat child member)) entered, Part.foldl_part]
  simp [settled]

theorem enter_heading (closed : g.inCode = false) (level : Fin 6) :
    g.enter (.heading level) = g.settled (headingGap g.result) := by
  have ended := g.flush_eq .paragraph
  have same : (g.flush .paragraph).lines.isEmpty = g.result.isEmpty := by
    rw [result, List.isEmpty_reverse]
  simp only [enter, closed, Bool.false_eq_true, if_false, same, headingGap]
  rw [ended]
  split <;> rfl

theorem walk_heading (closed : g.inCode = false) (flat : ∀ child ∈ children, Flat child)
    (level : Fin 6) :
    g.walk (Node.element (.heading level) children).events =
      g.settled (headingGap g.result ++ (Part.gathered "" (nodeParts children)).1 ++
        [((headingMark level).1 ++ (Part.gathered "" (nodeParts children)).2,
          (headingMark level).2)]) := by
  rw [walk_element, enter_heading closed, walk_children closed flat]
  simp [leave, settled, addLine]

theorem walk_paragraph (closed : g.inCode = false) (flat : ∀ child ∈ children, Flat child) :
    g.walk (Node.element .paragraph children).events =
      g.settled ((Part.gathered "" (nodeParts children)).1 ++
        paragraphLine g.inQuote g.listDepth (Part.gathered "" (nodeParts children)).2 ++
        paragraphGap g.listDepth) := by
  rw [walk_element, enter_of_opensNothing closed rfl, ← settled_nil, walk_children closed flat,
    leave_paragraph]
  simp [settled, paragraphLine_reverse, paragraphGap_reverse]

theorem walk_row (closed : g.inCode = false) (flat : ∀ child ∈ children, Flat child) {tag : Tag}
    (isRow : Slot.table.admits tag = true) :
    g.walk (Node.element tag children).events = g.settled (Part.lines "" (nodeParts children)) := by
  have nothing : tag.opensNothing = true := by
    cases tag with
    | tableHead | tableRow => rfl
    | _ => cases isRow
  have left : ∀ g : Gathering, g.leave tag = g.flush .paragraph := by
    intro g
    cases tag with
    | tableHead | tableRow => rfl
    | _ => cases isRow
  rw [walk_element, enter_of_opensNothing closed nothing, ← settled_nil, walk_children closed flat,
    left, flush_eq]
  simp [settled, Part.lines, shownLine_reverse]

end Gathering

/-! ## Blocks of a document -/

section

variable {text : String} {outer : List Tag} {before after : List Event} {tag : Tag}
  {children : List Node}

theorem within_element (place : Place (parse text) outer before [.element tag children] after) :
    (Gathering.empty.walk before).Within (outer.countP Tag.isList) (outer.any Tag.isQuote) :=
  within_place place ⟨_, List.mem_singleton_self _, nofun⟩

theorem children_fit (place : Place (parse text) outer before [.element tag children] after) :
    ∀ child ∈ children, child.Fits (Source.ofString text).CutsByLine
      ((outer.foldl Slot.inside .document).inside tag) :=
  (place.fits (parse_fits text) _ (List.mem_singleton_self _)).children

theorem noRule_of_fits {known : List String → Prop} {slot : Slot}
    (inLine : slot = .line ∨ slot = .row) (fit : ∀ child ∈ children, child.Fits known slot) :
    ∀ part ∈ nodeParts children, part ≠ .rule := by
  intro part member
  obtain ⟨child, isChild, isPart⟩ := List.mem_flatMap.mp member
  exact (flat_of_fits (fit child isChild) inLine).2 part isPart

/-- The last stretch of the text of a heading gets the mark, and the whole text only if it is not
broken. -/
theorem heading_shownAs {level : Fin 6}
    (place : Place (parse text) outer before [.element (.heading level) children] after) :
    ∃ earlier last,
      ShownAs text before (Node.element (.heading level) children).events
          (headingGap (blockLines before) ++ earlier.map (·, .paragraph) ++
            [((headingMark level).1 ++ last, (headingMark level).2)]) ∧
        (∀ stretch ∈ earlier, stretch ≠ "") ∧
        String.join earlier ++ last = Node.listShown false children ∧
        (earlier = [] ↔ Part.Unbroken "" (nodeParts children)) := by
  have fit := children_fit place
  have flat : ∀ child ∈ children, Flat child :=
    fun child member => (flat_of_fits (fit child member) (.inl rfl)).1
  have noRule := noRule_of_fits (.inl rfl) fit
  obtain ⟨earlier, nonempty, same, joined⟩ := Part.exists_stretches "" noRule
  refine ⟨earlier, (Part.gathered "" (nodeParts children)).2, ?_, nonempty, ?_, ?_⟩
  · refine shownAs_of_settled (events_of_place place) ?_
    rw [Gathering.walk_heading (within_element place).code flat, same]
    rfl
  · rw [joined, String.empty_append, listShown_nodeParts fun child member => (flat child member).listShown]
  · rw [← Part.gathered_eq_nil_iff "" noRule, same, List.map_eq_nil_iff]

/-- The lines of a paragraph or a row are its stretches of text. -/
theorem exists_nodeLines {known : List String → Prop} {slot : Slot}
    (inLine : slot = .line ∨ slot = .row) (fit : ∀ child ∈ children, child.Fits known slot) :
    ∃ stretches : List String,
      Part.lines "" (nodeParts children) = stretches.map (·, .paragraph) ∧
        (∀ stretch ∈ stretches, stretch ≠ "") ∧
        String.join stretches = Node.listShown false children ∧
        (stretches = [Node.listShown false children] ↔
          Node.listShown false children ≠ "" ∧ Part.Undivided "" (nodeParts children)) := by
  have noRule := noRule_of_fits inLine fit
  have shown : "" ++ Part.listShown (nodeParts children) = Node.listShown false children := by
    rw [String.empty_append]
    exact listShown_nodeParts fun child member => (flat_of_fits (fit child member) inLine).1.listShown
  obtain ⟨stretches, nonempty, same, joined⟩ := Part.exists_lines "" noRule
  refine ⟨stretches, same, nonempty, joined.trans shown, ?_⟩
  rw [← Part.lines_eq_singleton_iff "" noRule shown, same]
  constructor
  · intro single
    rw [single]
    rfl
  · intro single
    obtain ⟨first, is, same⟩ := List.map_eq_singleton_iff.mp single
    rw [is, (Prod.mk.inj same).1]

theorem paragraph_shownAs
    (place : Place (parse text) outer before [.element .paragraph children] after)
    (noList : outer.countP Tag.isList = 0) (noQuote : outer.any Tag.isQuote = false) :
    ShownAs text before (Node.element .paragraph children).events
      (Part.lines "" (nodeParts children) ++ [("", .paragraph)]) := by
  have within := within_element place
  have unquoted : (Gathering.empty.walk before).inQuote = false :=
    Bool.eq_false_iff.mpr fun noted => Bool.eq_false_iff.mp noQuote (within.quote noted)
  have flat : ∀ child ∈ children, Flat child :=
    fun child member => (flat_of_fits (children_fit place child member) (.inl rfl)).1
  refine shownAs_of_settled (events_of_place place) ?_
  rw [Gathering.walk_paragraph within.code flat, unquoted, within.depth,
    noList]
  rfl

theorem row_shownAs (place : Place (parse text) outer before [.element tag children] after)
    (isRow : Slot.table.admits tag = true) :
    ShownAs text before (Node.element tag children).events (Part.lines "" (nodeParts children)) := by
  have fit := children_fit place
  rw [Slot.inside_of_table _ isRow] at fit
  refine shownAs_of_settled (events_of_place place) ?_
  exact Gathering.walk_row (within_element place).code
    (fun child member => (flat_of_fits (fit child member) (.inr rfl)).1) isRow

theorem exists_cell {known : List String → Prop} {node : Node} (fits : node.Fits known .row) :
    ∃ inner, node = .element .tableCell inner := by
  cases fits with
  | leaf admitted => exact admitted.elim
  | code blocks => cases blocks
  | @element _ tag inner admitted _ =>
      cases tag with
      | tableCell => exact ⟨inner, rfl⟩
      | _ => cases admitted

/-- Two cells are never on one line. -/
theorem not_undivided_of_cells {known : List String → Prop}
    (fit : ∀ child ∈ children, child.Fits known .row) (several : 2 ≤ children.length) :
    ¬ Part.Undivided "" (nodeParts children) := by
  intro undivided
  obtain ⟨first, second, others, rfl⟩ : ∃ first second others, children = first :: second :: others := by
    match children, several with
    | first :: second :: others, _ => exact ⟨first, second, others, rfl⟩
  obtain ⟨firstFits, rest⟩ := List.forall_mem_cons.mp fit
  obtain ⟨inner, rfl⟩ := exists_cell firstFits
  obtain ⟨innerToo, rfl⟩ := exists_cell (List.forall_mem_cons.mp rest).1
  have divided := undivided (partsOf (.element .tableCell inner))
    (nodeParts innerToo ++ [.text " │ "] ++ nodeParts others)
    (by simp [nodeParts, partsOf_element, Tag.separator])
  rw [partsOf_element] at divided
  simp [Part.listShown_append, Part.shown, Tag.separator] at divided

/-- A heading, a paragraph outside lists and quotes, and a row of a table are shown as their
stretches of text, each on a line of its own.  So a heading is on one line if and only if no markup
begins after some of its text, a paragraph or a row if and only if none begins between two parts of
its text, and a row with several cells never is. -/
theorem blocks_on_lines (text : String) :
    (∀ level, Place (parse text) outer before [.element (.heading level) children] after →
      ∃ earlier last,
        ShownAs text before (Node.element (.heading level) children).events
            (headingGap (blockLines before) ++ earlier.map (·, .paragraph) ++
              [((headingMark level).1 ++ last, (headingMark level).2)]) ∧
          (∀ stretch ∈ earlier, stretch ≠ "") ∧
          String.join earlier ++ last = Node.listShown false children ∧
          (earlier = [] ↔ Part.Unbroken "" (nodeParts children))) ∧
    (Place (parse text) outer before [.element .paragraph children] after →
      outer.countP Tag.isList = 0 → outer.any Tag.isQuote = false →
      ∃ stretches : List String,
        ShownAs text before (Node.element .paragraph children).events
            (stretches.map (·, .paragraph) ++ [("", .paragraph)]) ∧
          (∀ stretch ∈ stretches, stretch ≠ "") ∧
          String.join stretches = Node.listShown false children ∧
          (stretches = [Node.listShown false children] ↔
            Node.listShown false children ≠ "" ∧ Part.Undivided "" (nodeParts children))) ∧
    (∀ tag, Slot.table.admits tag = true →
      Place (parse text) outer before [.element tag children] after →
      ∃ stretches : List String,
        ShownAs text before (Node.element tag children).events (stretches.map (·, .paragraph)) ∧
          (∀ stretch ∈ stretches, stretch ≠ "") ∧
          String.join stretches = Node.listShown false children ∧
          (stretches = [Node.listShown false children] ↔
            Node.listShown false children ≠ "" ∧ Part.Undivided "" (nodeParts children)) ∧
          (2 ≤ children.length → stretches ≠ [Node.listShown false children])) := by
  refine ⟨fun level place => heading_shownAs place, ?_, ?_⟩
  · intro place noList noQuote
    obtain ⟨stretches, same, divided⟩ := exists_nodeLines (.inl rfl) (children_fit place)
    have shown := paragraph_shownAs place noList noQuote
    rw [same] at shown
    exact ⟨stretches, shown, divided⟩
  · intro tag isRow place
    have fit := children_fit place
    rw [Slot.inside_of_table _ isRow] at fit
    obtain ⟨stretches, same, nonempty, joined, whole⟩ := exists_nodeLines (.inr rfl) fit
    have shown := row_shownAs place isRow
    rw [same] at shown
    exact ⟨stretches, shown, nonempty, joined, whole, fun several single =>
      not_undivided_of_cells fit several (whole.mp single).2⟩

end

/-- A heading and a paragraph with emphasis, and a table with two columns. -/
def emphasisAndCells : String :=
  "# a *b*\n\nc *d*\n\n|e|f|\n|-|-|\n"

theorem parse_emphasisAndCells :
    parse emphasisAndCells =
      [.element (.heading 0) [.leaf (.text "a "), .element .emphasis [.leaf (.text "b")]],
        .element .paragraph [.leaf (.text "c "), .element .emphasis [.leaf (.text "d")]],
        .element (.table [.unset, .unset])
          [.element .tableHead
            [.element .tableCell [.leaf (.text "e")], .element .tableCell [.leaf (.text "f")]]]] := by
  decide +kernel

theorem blocks_on_lines_of_emphasisAndCells :
    let heading := [Node.leaf (.text "a "), .element .emphasis [.leaf (.text "b")]]
    let paragraph := [Node.leaf (.text "c "), .element .emphasis [.leaf (.text "d")]]
    let row := [Node.element .tableCell [.leaf (.text "e")], .element .tableCell [.leaf (.text "f")]]
    (∃ after, ∃ earlier : List String, ∃ last,
      Place (parse emphasisAndCells) [] [] [.element (.heading 0) heading] after ∧
        ShownAs emphasisAndCells [] (Node.element (.heading 0) heading).events
          (headingGap (blockLines []) ++ earlier.map (·, .paragraph) ++ [("══ " ++ last, .heading1)])) ∧
    (∃ before after, ∃ stretches : List String,
      Place (parse emphasisAndCells) [] before [.element .paragraph paragraph] after ∧
        ShownAs emphasisAndCells before (Node.element .paragraph paragraph).events
          (stretches.map (·, .paragraph) ++ [("", .paragraph)])) ∧
    ∃ before after, ∃ stretches : List String,
      Place (parse emphasisAndCells) [.table [.unset, .unset]] before [.element .tableHead row] after ∧
        ShownAs emphasisAndCells before (Node.element .tableHead row).events (stretches.map (·, .paragraph)) ∧
        stretches ≠ ["e │ f │ "] := by
  intro heading paragraph row
  let first := Node.element (.heading 0) heading
  let second := Node.element .paragraph paragraph
  let head := Node.element .tableHead row
  let third := Node.element (.table [.unset, .unset]) [head]
  have document : parse emphasisAndCells = [first, second, third] := parse_emphasisAndCells
  have headingPlace := Place.of_eq [] [first] [second, third] document
  have paragraphPlace := Place.of_eq [first] [second] [third] document
  have rowPlace := Place.inside_of_eq [first, second] [] document (Place.here [] [head] [])
  obtain ⟨earlier, last, headingShown, _⟩ := (blocks_on_lines emphasisAndCells).1 0 headingPlace
  obtain ⟨stretches, paragraphShown, _⟩ :=
    (blocks_on_lines emphasisAndCells).2.1 paragraphPlace rfl rfl
  obtain ⟨cells, rowShown, _, _, _, several⟩ :=
    (blocks_on_lines emphasisAndCells).2.2 .tableHead rfl rowPlace
  exact ⟨⟨_, earlier, last, headingPlace, headingShown⟩,
    ⟨_, _, stretches, paragraphPlace, paragraphShown⟩,
    ⟨_, _, cells, rowPlace, rowShown, several (Nat.le_refl 2)⟩⟩

theorem emphasisAndCells_broken :
    let lines := blockLines (events emphasisAndCells)
    lines = [("a ", .paragraph), ("══ b", .heading1), ("c ", .paragraph), ("d", .paragraph),
        ("", .paragraph), ("e │ ", .paragraph), ("f │ ", .paragraph)] ∧
      ("══ a b", .heading1) ∉ lines ∧ ("c d", .paragraph) ∉ lines ∧
      ("e │ f │ ", .paragraph) ∉ lines := by
  decide +kernel

end DocsConsole.Preview
