import DocsConsole.Preview.Blocks
import DocsConsole.Proofs.Markdown.Outlined

/-!
# How lines are gathered

Outside code, a leaf is a sequence of parts: text, points where the line ends if there is text on
it, and rules.  Lines are only ever added.  Once a node is read, it has left nothing behind but its
lines and some text: the depth of lists is what it was, no code is open, and no quote is noted that
was not noted before.
-/

namespace DocsConsole

namespace Markdown

def Tag.isList : Tag → Bool
  | .list _ => true
  | _ => false

def Tag.isQuote : Tag → Bool
  | .blockQuote => true
  | _ => false

def Tag.isCode : Tag → Bool
  | .codeBlock _ => true
  | _ => false

/-- Whether entering an element only ends the line before it. -/
def Tag.opensNothing : Tag → Bool
  | .heading _ => false
  | .codeBlock _ => false
  | .list _ => false
  | .blockQuote => false
  | _ => true

/-- Code holds neither blocks nor markup. -/
theorem Slot.isCode_of_admits {slot : Slot} {tag : Tag} (admitted : slot.admits tag = true) :
    tag.isCode = false := by
  cases tag with
  | codeBlock => cases slot <;> cases admitted
  | _ => rfl

end Markdown

namespace Preview

open Markdown

/-- A text as a line, unless it is empty. -/
def shownLine (look : BlockStyle) (text : String) : List BlockLine :=
  if text = "" then [] else [(text, look)]

@[simp] theorem shownLine_empty (look : BlockStyle) : shownLine look "" = [] :=
  rfl

theorem shownLine_reverse (look : BlockStyle) (text : String) :
    (shownLine look text).reverse = shownLine look text := by
  unfold shownLine
  split <;> rfl

theorem shownLine_eq_nil_iff {look : BlockStyle} {text : String} :
    shownLine look text = [] ↔ text = "" := by
  rw [shownLine]
  split <;> simp_all

theorem length_shownLine_le (look : BlockStyle) (text : String) :
    (shownLine look text).length ≤ 1 := by
  unfold shownLine
  split <;> simp

def ruleLine : BlockLine :=
  (Text.repeated 24 "─", .paragraph)

def codeRows (texts : List String) : List BlockLine :=
  (texts.flatMap Text.lines).map fun line => ("│ " ++ line, .code)

/-- The line of a paragraph with some text. -/
def paragraphLine (quoted : Bool) (depth : Nat) (text : String) : List BlockLine :=
  if text = "" then []
  else if quoted then [("│ " ++ text, .quote)]
  else [(text, if 0 < depth then .listItem else .paragraph)]

/-- The line after a paragraph. -/
def paragraphGap (depth : Nat) : List BlockLine :=
  if depth = 0 then [("", .paragraph)] else []

theorem paragraphLine_reverse (quoted : Bool) (depth : Nat) (text : String) :
    (paragraphLine quoted depth text).reverse = paragraphLine quoted depth text := by
  unfold paragraphLine
  split
  case isTrue => rfl
  case isFalse => split <;> rfl

theorem paragraphGap_reverse (depth : Nat) : (paragraphGap depth).reverse = paragraphGap depth := by
  unfold paragraphGap
  split <;> rfl

/-! ## Parts -/

/-- A part of what is shown outside code. -/
inductive Part where
  | text (content : String)
  /-- A line ends here if there is text on it. -/
  | stop
  | rule
deriving DecidableEq, Repr

/-- The parts of raw markup with some lines. -/
def Part.ofLines : List String → List Part
  | [] => []
  | first :: others => .text first :: others.flatMap fun line => [.stop, .text line]

def leafParts : Leaf → List Part
  | .text content => [.text content]
  | .code content => [.text ("`" ++ content ++ "`")]
  | .html content => Part.ofLines (Text.lines content)
  | .softBreak => [.text " "]
  | .hardBreak => [.text " "]
  | .rule => [.rule]

namespace Gathering

theorem flush_eq (g : Gathering) (look : BlockStyle) :
    g.flush look = { g with lines := shownLine look g.current ++ g.lines, current := "" } := by
  rw [flush, shownLine]
  by_cases empty : g.current = ""
  · rw [if_pos (String.isEmpty_iff.mpr empty), if_pos empty, ← empty]
    rfl
  · rw [if_neg fun none => empty (String.isEmpty_iff.mp none), if_neg empty]
    rfl

def part (g : Gathering) : Part → Gathering
  | .text content => g.append content
  | .stop => g.flush .paragraph
  | .rule => g.addLine ruleLine.1 ruleLine.2

theorem markup_eq (g : Gathering) (content : String) :
    g.markup content = (Part.ofLines (Text.lines content)).foldl part g := by
  unfold markup
  cases Text.lines content with
  | nil => rfl
  | cons first others =>
      rw [Part.ofLines, List.foldl_cons, List.foldl_flatMap]
      rfl

theorem leaf_eq {g : Gathering} (closed : g.inCode = false) (content : Leaf) :
    g.leaf content = (leafParts content).foldl part g := by
  cases content with
  | html content => exact g.markup_eq content
  | text => rw [leaf, closed]; rfl
  | softBreak => rw [leaf, closed]; rfl
  | hardBreak => rw [leaf, closed]; rfl
  | code => rfl
  | rule => rfl

/-! ## Walks -/

/-- What a walk makes of what is gathered. -/
def walk (g : Gathering) (events : List Event) : Gathering :=
  events.foldl event g

theorem walk_append (g : Gathering) (before after : List Event) :
    g.walk (before ++ after) = (g.walk before).walk after :=
  List.foldl_append

theorem walk_element (g : Gathering) (tag : Tag) (children : List Node) :
    g.walk (Node.element tag children).events =
      ((g.enter tag).walk (Node.listEvents children)).leave tag := by
  rw [Node.events, walk, List.foldl_cons, List.foldl_append]
  rfl

theorem walk_listEvents_cons (g : Gathering) (node : Node) (nodes : List Node) :
    g.walk (Node.listEvents (node :: nodes)) =
      (g.walk node.events).walk (Node.listEvents nodes) :=
  g.walk_append _ _

theorem walk_texts {g : Gathering} (opened : g.inCode = true) (texts : List String) :
    g.walk (Node.listEvents (texts.map fun text => .leaf (.text text))) =
      { g with lines := (codeRows texts).reverse ++ g.lines } := by
  have added : ∀ (lines : List String) (g : Gathering),
      lines.foldl (fun g line => g.addLine ("│ " ++ line) .code) g =
        { g with lines := (lines.map fun line => ("│ " ++ line, .code)).reverse ++ g.lines } := by
    intro lines
    induction lines with
    | nil => exact fun _ => rfl
    | cons line lines induction =>
        intro g
        rw [List.foldl_cons, induction, List.map_cons, List.reverse_cons, List.append_assoc]
        rfl
  induction texts generalizing g with
  | nil => rfl
  | cons text texts induction =>
      have read : g.walk (Node.leaf (.text text)).events =
          { g with lines := (codeRows [text]).reverse ++ g.lines } := by
        change g.leaf (.text text) = _
        simp only [leaf, opened, if_true, added, codeRows, List.flatMap_singleton]
      have others := induction (g := { g with lines := (codeRows [text]).reverse ++ g.lines }) opened
      rw [List.map_cons, walk_listEvents_cons, read, others]
      simp [codeRows]

theorem enter_of_opensNothing {g : Gathering} (closed : g.inCode = false) {tag : Tag}
    (nothing : tag.opensNothing = true) : g.enter tag = g.flush .paragraph := by
  unfold enter
  rw [closed]
  cases tag with
  | heading | codeBlock | list | blockQuote => cases nothing
  | _ => rfl

/-- Code, its frame included. -/
theorem walk_codeBlock {g : Gathering} (closed : g.inCode = false) (info : Option String)
    (texts : List String) :
    g.walk (Node.element (.codeBlock info) (texts.map fun text => .leaf (.text text))).events =
      { g with
        lines := ("└────", .codeHeader) :: ((codeRows texts).reverse ++
          (codeHeader info, .codeHeader) :: (shownLine .paragraph g.current ++ g.lines))
        current := "" } := by
  have entered : g.enter (.codeBlock info) =
      { g with
        lines := (codeHeader info, .codeHeader) :: shownLine .paragraph g.current ++ g.lines
        current := ""
        inCode := true } := by
    simp [enter, closed, flush_eq, addLine]
  rw [walk_element, entered, walk_texts rfl]
  simp [leave, addLine, closed]

theorem leave_paragraph (g : Gathering) :
    g.leave .paragraph =
      { g with
        lines := paragraphGap g.listDepth ++ paragraphLine g.inQuote g.listDepth g.current ++ g.lines
        current := "" } := by
  obtain ⟨lines, current, inCode, inQuote, depth⟩ := g
  by_cases empty : current = ""
  · subst empty
    cases inQuote <;> cases depth <;>
      simp [leave, flush_eq, shownLine, paragraphGap, paragraphLine, addLine]
  · cases inQuote <;> cases depth <;>
      simp [leave, flush_eq, shownLine, paragraphGap, paragraphLine, addLine, empty]

/-! ## Lines are only added -/

theorem lines_part (g : Gathering) (part : Part) : g.lines <:+ (g.part part).lines := by
  cases part with
  | text content => exact List.suffix_refl _
  | stop =>
      rw [Gathering.part, flush_eq]
      exact List.suffix_append _ _
  | rule => exact List.suffix_cons _ _

theorem lines_parts (g : Gathering) (parts : List Part) :
    g.lines <:+ (parts.foldl part g).lines := by
  induction parts generalizing g with
  | nil => exact List.suffix_refl _
  | cons first parts induction => exact (g.lines_part first).trans (induction _)

theorem lines_flush (g : Gathering) (look : BlockStyle) : g.lines <:+ (g.flush look).lines := by
  rw [flush_eq]
  exact List.suffix_append _ _

theorem lines_addLine_if (g : Gathering) (condition : Prop) [Decidable condition] :
    g.lines <:+ (if condition then g.addLine "" .paragraph else g).lines := by
  split
  case isTrue => exact List.suffix_cons _ _
  case isFalse => exact List.suffix_refl _

/-- An element is entered after the pending text, outside code. -/
theorem lines_enter_of_begun (g : Gathering) (tag : Tag) :
    (if g.inCode then g else g.flush .paragraph).lines <:+ (g.enter tag).lines := by
  unfold enter
  generalize (if g.inCode then g else g.flush .paragraph) = begun
  cases tag with
  | heading level =>
      simp only
      split
      case isTrue => exact List.suffix_refl _
      case isFalse => exact List.suffix_cons _ _
  | codeBlock info => exact List.suffix_cons _ _
  | _ => exact List.suffix_refl _

theorem lines_enter (g : Gathering) (tag : Tag) : g.lines <:+ (g.enter tag).lines := by
  refine List.IsSuffix.trans ?_ (g.lines_enter_of_begun tag)
  split
  case isTrue => exact List.suffix_refl _
  case isFalse => exact g.lines_flush .paragraph

theorem lines_leave (g : Gathering) (tag : Tag) : g.lines <:+ (g.leave tag).lines := by
  cases tag with
  | heading level => exact List.suffix_cons _ _
  | paragraph =>
      rw [leave_paragraph]
      exact List.suffix_append _ _
  | codeBlock info => exact List.suffix_cons _ _
  | list first => exact lines_addLine_if { g with listDepth := g.listDepth - 1 } _
  | item =>
      simp only [leave]
      split
      case isTrue => exact List.suffix_refl _
      case isFalse => exact List.suffix_cons _ _
  | tableHead => exact g.lines_flush .paragraph
  | tableRow => exact g.lines_flush .paragraph
  | _ => exact List.suffix_refl _

theorem lines_leaf (g : Gathering) (content : Leaf) : g.lines <:+ (g.leaf content).lines := by
  cases opened : g.inCode with
  | false =>
      rw [leaf_eq opened]
      exact g.lines_parts _
  | true =>
      cases content with
      | text content =>
          have read := walk_texts opened [content]
          change g.leaf (.text content) = _ at read
          rw [read]
          exact List.suffix_append _ _
      | html content =>
          change g.lines <:+ (g.markup content).lines
          rw [markup_eq]
          exact g.lines_parts _
      | softBreak => rw [leaf, opened]; exact List.suffix_refl _
      | hardBreak => rw [leaf, opened]; exact List.suffix_refl _
      | code => exact List.suffix_refl _
      | rule => exact List.suffix_cons _ _

theorem lines_walk (g : Gathering) (events : List Event) : g.lines <:+ (g.walk events).lines := by
  induction events generalizing g with
  | nil => exact List.suffix_refl _
  | cons first events induction =>
      refine List.IsSuffix.trans ?_ (induction (g.event first))
      cases first with
      | enter tag => exact g.lines_enter tag
      | leave tag => exact g.lines_leave tag
      | leaf content => exact g.lines_leaf content

theorem result_eq (g : Gathering) :
    g.result = g.lines.reverse ++ shownLine .paragraph g.current := by
  rw [result, flush_eq, List.reverse_append, shownLine_reverse]

/-! ## What stays -/

/-- What is around the place that is read: no code, so many lists, and a quote at most where there
is one. -/
structure Within (depth : Nat) (quoted : Bool) (g : Gathering) : Prop where
  code : g.inCode = false
  depth : g.listDepth = depth
  quote : g.inQuote = true → quoted = true

variable {g : Gathering} {depth : Nat} {quoted : Bool}

theorem Within.flush (within : g.Within depth quoted) (look : BlockStyle) :
    (g.flush look).Within depth quoted := by
  rw [flush_eq]
  exact ⟨within.code, within.depth, within.quote⟩

theorem Within.parts (within : g.Within depth quoted) (parts : List Part) :
    (parts.foldl part g).Within depth quoted := by
  induction parts generalizing g with
  | nil => exact within
  | cons first parts induction =>
      refine induction ?_
      cases first with
      | text content => exact ⟨within.code, within.depth, within.quote⟩
      | stop => exact within.flush .paragraph
      | rule => exact ⟨within.code, within.depth, within.quote⟩

theorem Within.enter (within : g.Within depth quoted) {tag : Tag} (noCode : tag.isCode = false) :
    (g.enter tag).Within (depth + tag.isList.toNat) (quoted || tag.isQuote) := by
  obtain ⟨code, counted, quote⟩ := within.flush .paragraph
  have quoteToo : (g.flush .paragraph).inQuote = true → (quoted || false) = true :=
    fun noted => Bool.or_eq_true_iff.mpr (.inl (quote noted))
  unfold Gathering.enter
  rw [within.code]
  cases tag with
  | codeBlock => cases noCode
  | list first => exact ⟨code, congrArg (· + 1) counted, quoteToo⟩
  | blockQuote => exact ⟨code, counted, fun _ => Bool.or_true _⟩
  | heading level =>
      simp only [Bool.false_eq_true, if_false]
      split
      case isTrue => exact ⟨code, counted, quoteToo⟩
      case isFalse => exact ⟨code, counted, quoteToo⟩
  | _ => exact ⟨code, counted, quoteToo⟩

theorem Within.addLine_if (within : g.Within depth quoted) (condition : Prop)
    [Decidable condition] :
    (if condition then g.addLine "" .paragraph else g).Within depth quoted := by
  split
  case isTrue => exact ⟨within.code, within.depth, within.quote⟩
  case isFalse => exact within

theorem Within.leave {tag : Tag}
    (within : g.Within (depth + tag.isList.toNat) (quoted || tag.isQuote))
    (noCode : tag.isCode = false) : (g.leave tag).Within depth quoted := by
  have unquoted : g.Within (depth + tag.isList.toNat) (quoted || false) →
      g.Within (depth + tag.isList.toNat) quoted :=
    fun ⟨code, counted, quote⟩ =>
      ⟨code, counted, fun noted => (Bool.or_false quoted).symm.trans (quote noted)⟩
  cases tag with
  | codeBlock => cases noCode
  | list first =>
      obtain ⟨code, counted, quote⟩ := unquoted within
      have ended : Within depth quoted { g with listDepth := g.listDepth - 1 } :=
        ⟨code, congrArg (· - 1) counted, quote⟩
      exact ended.addLine_if _
  | blockQuote => exact ⟨within.code, within.depth, nofun⟩
  | heading level =>
      obtain ⟨code, counted, quote⟩ := unquoted within
      exact ⟨code, counted, quote⟩
  | paragraph =>
      obtain ⟨code, counted, quote⟩ := unquoted within
      rw [leave_paragraph]
      exact ⟨code, counted, quote⟩
  | item =>
      obtain ⟨code, counted, quote⟩ := unquoted within
      simp only [Gathering.leave]
      split
      case isTrue => exact ⟨code, counted, quote⟩
      case isFalse => exact ⟨code, counted, quote⟩
  | tableHead => exact (unquoted within).flush .paragraph
  | tableRow => exact (unquoted within).flush .paragraph
  | tableCell =>
      obtain ⟨code, counted, quote⟩ := unquoted within
      exact ⟨code, counted, quote⟩
  | _ => exact unquoted within

theorem walk_nodes {P : Gathering → Prop} {nodes : List Node}
    (each : ∀ node ∈ nodes, ∀ {g : Gathering}, P g → P (g.walk node.events)) (holds : P g) :
    P (g.walk (Node.listEvents nodes)) := by
  induction nodes generalizing g with
  | nil => exact holds
  | cons node nodes induction =>
      obtain ⟨first, others⟩ := List.forall_mem_cons.mp each
      rw [walk_listEvents_cons]
      exact induction others (first holds)

variable {known : List String → Prop} {slot : Slot}

/-- A node leaves what is around it as it is. -/
theorem Within.node {node : Node} (fits : node.Fits known slot) (within : g.Within depth quoted) :
    (g.walk node.events).Within depth quoted := by
  induction fits generalizing g depth quoted with
  | leaf _ =>
      change (g.leaf _).Within depth quoted
      rw [leaf_eq within.code]
      exact within.parts _
  | code _ _ =>
      rw [walk_codeBlock within.code]
      exact ⟨within.code, within.depth, within.quote⟩
  | element admitted _ induction =>
      have noCode := Slot.isCode_of_admits admitted
      rw [walk_element]
      exact (walk_nodes (fun child member _ inside => induction child member inside)
        (within.enter noCode)).leave noCode

theorem Within.nodes {nodes : List Node} (fit : ∀ node ∈ nodes, node.Fits known slot)
    (within : g.Within depth quoted) : (g.walk (Node.listEvents nodes)).Within depth quoted :=
  walk_nodes (fun node member _ inside => inside.node (fit node member)) within

end Gathering

/-! ## At a place -/

/-- Only texts stand inside code. -/
theorem place_in_code {texts : List String} {outer : List Tag} {before after : List Event}
    {run : List Node}
    (place : Place (texts.map fun text => .leaf (.text text)) outer before run after) :
    ∀ node ∈ run, ∃ content, node = .leaf (.text content) := by
  generalize same : (texts.map fun text => Node.leaf (.text text)) = nodes at place
  have leaves : ∀ node ∈ nodes, ∃ content, node = .leaf (.text content) := by
    intro node member
    rw [← same] at member
    obtain ⟨text, _, rfl⟩ := List.mem_map.mp member
    exact ⟨text, rfl⟩
  cases place with
  | here left run right =>
      exact fun node member => leaves node (List.mem_append_left _ (List.mem_append_right _ member))
  | inside left right _ =>
      obtain ⟨content, element⟩ := leaves _ (List.mem_append_right _ List.mem_cons_self)
      cases element

namespace Gathering

/-- What is gathered before a place that shows more than text. -/
theorem Within.place {g : Gathering} {depth : Nat} {quoted : Bool} {known : List String → Prop}
    {slot : Slot} {nodes run : List Node} {outer : List Tag} {before after : List Event}
    (within : g.Within depth quoted) (place : Place nodes outer before run after)
    (fit : ∀ node ∈ nodes, node.Fits known slot)
    (more : ∃ node ∈ run, ∀ content, node ≠ .leaf (.text content)) :
    (g.walk before).Within (depth + outer.countP Tag.isList) (quoted || outer.any Tag.isQuote) := by
  induction place generalizing g depth quoted slot with
  | here left run right =>
      rw [List.any_nil, Bool.or_false]
      exact within.nodes fun node member =>
        fit node (List.mem_append_left _ (List.mem_append_left _ member))
  | @inside children run tag outer before after left right place induction =>
      have here := fit (.element tag children) (List.mem_append_right _ List.mem_cons_self)
      have noCode : tag.isCode = false := by
        cases tag with
        | codeBlock info =>
            obtain ⟨texts, _, rfl⟩ := here.exists_texts
            obtain ⟨node, member, shows⟩ := more
            obtain ⟨content, text⟩ := place_in_code place node member
            exact (shows content text).elim
        | _ => rfl
      have entered := (within.nodes fun node member =>
        fit node (List.mem_append_left _ member)).enter noCode
      have reached := induction entered here.children more
      rw [walk_append, List.countP_cons, List.any_cons, ← Bool.or_assoc,
        Nat.add_comm (outer.countP _), ← Nat.add_assoc]
      cases tag with
      | list => exact reached
      | _ => exact reached

end Gathering

/-- What is gathered before a place of a document. -/
theorem within_place {text : String} {outer : List Tag} {before after : List Event}
    {run : List Node} (place : Place (parse text) outer before run after)
    (more : ∃ node ∈ run, ∀ content, node ≠ .leaf (.text content)) :
    (Gathering.empty.walk before).Within (outer.countP Tag.isList) (outer.any Tag.isQuote) := by
  have nothing : Gathering.empty.Within 0 false := ⟨rfl, rfl, nofun⟩
  have within := nothing.place place (parse_fits text) more
  rw [Nat.zero_add, Bool.false_or] at within
  exact within

/-! ## Lines of a document -/

theorem blockLines_eq (events : List Event) :
    blockLines events = (Gathering.empty.walk events).lines.reverse ++
      shownLine .paragraph (Gathering.empty.walk events).current :=
  (Gathering.empty.walk events).result_eq

/-- Where no text is pending, the lines so far are the first lines of the document. -/
theorem blockLines_isPrefix {before : List Event} (after : List Event)
    (settled : (Gathering.empty.walk before).current = "") :
    blockLines before <+: blockLines (before ++ after) := by
  have grown := (Gathering.empty.walk before).lines_walk after
  rw [blockLines_eq, blockLines_eq, Gathering.walk_append, settled, shownLine_empty,
    List.append_nil]
  exact (List.reverse_prefix.mpr grown).trans (List.prefix_append _ _)

/-- Part of the walk through a document is shown as some lines, and these stay. -/
structure ShownAs (text : String) (before walked : List Event) (added : List BlockLine) : Prop where
  added : blockLines (before ++ walked) = blockLines before ++ added
  stay : blockLines (before ++ walked) <+: blockLines (events text)

namespace Gathering

/-- The pending text and some more lines. -/
def settled (g : Gathering) (added : List BlockLine) : Gathering :=
  { g with
    lines := added.reverse ++ (shownLine .paragraph g.current ++ g.lines)
    current := "" }

theorem settled_nil (g : Gathering) : g.settled [] = g.flush .paragraph :=
  (g.flush_eq .paragraph).symm

theorem settled_settled (g : Gathering) (first second : List BlockLine) :
    (g.settled first).settled second = g.settled (first ++ second) := by
  simp [settled]

end Gathering

theorem shownAs_of_settled {text : String} {before walked rest : List Event}
    {added : List BlockLine} (divided : events text = before ++ walked ++ rest)
    (read : (Gathering.empty.walk before).walk walked =
      (Gathering.empty.walk before).settled added) : ShownAs text before walked added := by
  have reached := (Gathering.empty.walk_append before walked).trans read
  refine ⟨?_, ?_⟩
  · rw [blockLines_eq, blockLines_eq, reached]
    simp [Gathering.settled, shownLine_reverse]
  · rw [divided]
    exact blockLines_isPrefix rest (by rw [reached]; rfl)

/-- The text that is pending becomes a line when an element is entered. -/
theorem shownAs_of_pending {text : String} {before walked rest : List Event} {tag : Tag}
    {added : List BlockLine} {last : String}
    (divided : events text = before ++ walked ++ .enter tag :: rest)
    (closed : (Gathering.empty.walk before).inCode = false)
    (read : (Gathering.empty.walk before).walk walked =
      { (Gathering.empty.walk before).settled added with current := last }) :
    ShownAs text before walked (added ++ shownLine .paragraph last) := by
  have reached := (Gathering.empty.walk_append before walked).trans read
  refine ⟨?_, ?_⟩
  · rw [blockLines_eq, blockLines_eq, reached]
    simp [Gathering.settled, shownLine_reverse]
  · have ended := ((Gathering.empty.walk (before ++ walked)).lines_enter_of_begun tag).trans
      (Gathering.lines_walk _ rest)
    have still : (Gathering.empty.walk (before ++ walked)).inCode = false := by
      rw [reached]
      exact closed
    rw [still] at ended
    rw [divided, blockLines_eq (_ ++ _ :: _), Gathering.walk_append]
    exact (List.reverse_prefix.mpr ended).trans (List.prefix_append _ _)

theorem listEvents_singleton (node : Node) : Node.listEvents [node] = node.events :=
  List.append_nil _

theorem events_of_place {text : String} {outer : List Tag} {before after : List Event} {node : Node}
    (place : Place (parse text) outer before [node] after) :
    events text = before ++ node.events ++ after := by
  rw [events, place.events, listEvents_singleton]

end Preview

end DocsConsole
