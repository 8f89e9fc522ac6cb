import DocsConsole.Markdown.Event
import DocsConsole.Text.Lines

/-!
# What stands where in a document

A place of a document admits some leaves and some tags.  Markup inside lines nests, and it holds
a block only in an item of a list, where the lines of a paragraph may stand beside blocks.  A code
block holds texts, and raw markup that stands as a block is cut at its line ends.
-/

namespace DocsConsole.Markdown

/-- Whether a tag is markup inside lines. -/
def Tag.isInline : Tag → Bool
  | .emphasis => true
  | .strong => true
  | .strikethrough => true
  | .link _ _ _ => true
  | .image _ _ => true
  | _ => false

/-- Whether a tag is a block of nodes; code is a block of texts. -/
def Tag.isBlock : Tag → Bool
  | .paragraph => true
  | .heading _ => true
  | .blockQuote => true
  | .list _ => true
  | .table _ => true
  | _ => false

/-- What a place is directly inside of. -/
inductive Slot where
  /-- The document itself, or a quote. -/
  | document
  | item
  /-- A line of text. -/
  | line
  | list
  | table
  | row
deriving DecidableEq, Repr

namespace Slot

/-- The place inside an element. -/
def inside (slot : Slot) : Tag → Slot
  | .paragraph => .line
  | .heading _ => .line
  | .tableCell => .line
  | .blockQuote => .document
  | .codeBlock _ => .item
  | .list _ => .list
  | .item => .item
  | .table _ => .table
  | .tableHead => .row
  | .tableRow => .row
  | _ => slot

/-- Inline markup leaves a place what it is. -/
theorem inside_of_isInline (slot : Slot) {tag : Tag} (inline : tag.isInline = true) :
    slot.inside tag = slot := by
  cases tag <;> simp_all [inside, Tag.isInline]

/-- Whether blocks may stand in a place. -/
def holdsBlocks : Slot → Bool
  | .document => true
  | .item => true
  | _ => false

/-- Whether an element that holds nodes may stand in a place. -/
def admits : Slot → Tag → Bool
  | .document, tag => tag.isBlock
  | .item, tag => tag.isBlock || tag.isInline
  | .line, tag => tag.isInline
  | .list, .item => true
  | .table, .tableHead => true
  | .table, .tableRow => true
  | .row, .tableCell => true
  | _, _ => false

/-- A row is a row everywhere. -/
theorem inside_of_table (slot : Slot) {tag : Tag} (isRow : Slot.table.admits tag = true) :
    slot.inside tag = .row := by
  cases tag <;> simp_all [inside, admits]

/-- Whether a leaf may stand in a place. -/
def AdmitsLeaf : Slot → Leaf → Prop
  | .document, .html content => (Text.lines content).length ≤ 1
  | .document, .text content => ∀ c ∈ content.toList, c = ' '
  | .document, content => content = .rule
  | .item, _ => True
  | .line, content => content ≠ .rule
  | _, _ => False

end Slot

section

variable (known : List String → Prop)

/-- A node may stand in a place, and so may everything inside it; `known` is what is known of the
texts of a code block. -/
inductive Node.Fits : Slot → Node → Prop where
  | leaf {slot : Slot} {content : Leaf} :
      slot.AdmitsLeaf content → Fits slot (.leaf content)
  | code {slot : Slot} {info : Option String} {texts : List String} :
      slot.holdsBlocks = true → known texts →
      Fits slot (.element (.codeBlock info) (texts.map fun text => .leaf (.text text)))
  | element {slot : Slot} {tag : Tag} {children : List Node} :
      slot.admits tag = true → (∀ child ∈ children, Fits (slot.inside tag) child) →
      Fits slot (.element tag children)

end

namespace Node

variable {known : List String → Prop}

/-- The texts of a code block. -/
theorem Fits.exists_texts {slot : Slot} {info : Option String} {children : List Node}
    (fits : (Node.element (.codeBlock info) children).Fits known slot) :
    ∃ texts : List String, known texts ∧ children = texts.map fun text => .leaf (.text text) := by
  cases fits with
  | code _ holds => exact ⟨_, holds, rfl⟩
  | element admitted =>
      cases slot <;> simp [Slot.admits, Tag.isBlock, Tag.isInline] at admitted

/-- What an element holds may stand inside it. -/
theorem Fits.children {slot : Slot} {tag : Tag} {children : List Node}
    (fits : (Node.element tag children).Fits known slot) :
    ∀ child ∈ children, child.Fits known (slot.inside tag) := by
  cases fits with
  | code =>
      intro child member
      obtain ⟨text, _, rfl⟩ := List.mem_map.mp member
      exact .leaf trivial
  | element _ fit => exact fit

end Node

mutual

def Node.decEq : (node other : Node) → Decidable (node = other)
  | .leaf content, .leaf other =>
      decidable_of_iff (content = other) ⟨congrArg Node.leaf, Node.leaf.inj⟩
  | .element tag children, .element other others =>
      have := Node.listDecEq children others
      decidable_of_iff (tag = other ∧ children = others)
        ⟨fun ⟨same, sameToo⟩ => same ▸ sameToo ▸ rfl, Node.element.inj⟩
  | .leaf _, .element _ _ => isFalse nofun
  | .element _ _, .leaf _ => isFalse nofun

def Node.listDecEq : (nodes others : List Node) → Decidable (nodes = others)
  | [], [] => isTrue rfl
  | node :: nodes, other :: others =>
      have := Node.decEq node other
      have := Node.listDecEq nodes others
      decidable_of_iff (node = other ∧ nodes = others)
        ⟨fun ⟨same, sameToo⟩ => same ▸ sameToo ▸ rfl, List.cons.inj⟩
  | [], _ :: _ => isFalse nofun
  | _ :: _, [] => isFalse nofun

end

instance : DecidableEq Node :=
  Node.decEq

/-! ## Places -/

theorem Node.listEvents_append (left right : List Node) :
    Node.listEvents (left ++ right) = Node.listEvents left ++ Node.listEvents right := by
  induction left with
  | nil => rfl
  | cons node left induction =>
      rw [List.cons_append, Node.listEvents, Node.listEvents, induction, List.append_assoc]

/-- Some nodes that stand side by side in a document: the tags around them, outermost first, and
the events before and after them. -/
inductive Place : List Node → List Tag → List Event → List Node → List Event → Prop where
  | here (left run right : List Node) :
      Place (left ++ run ++ right) [] (Node.listEvents left) run (Node.listEvents right)
  | inside {children run : List Node} {tag : Tag} {outer : List Tag} {before after : List Event}
      (left right : List Node) :
      Place children outer before run after →
      Place (left ++ .element tag children :: right) (tag :: outer)
        (Node.listEvents left ++ .enter tag :: before) run
        (after ++ .leave tag :: Node.listEvents right)

namespace Place

variable {known : List String → Prop} {nodes run : List Node} {outer : List Tag}
  {before after : List Event}

theorem events (place : Place nodes outer before run after) :
    Node.listEvents nodes = before ++ Node.listEvents run ++ after := by
  induction place with
  | here left run right => rw [Node.listEvents_append, Node.listEvents_append]
  | inside left right _ induction =>
      rw [Node.listEvents_append, Node.listEvents, Node.events, induction]
      simp

theorem of_eq (left run right : List Node) (same : nodes = left ++ run ++ right) :
    Place nodes [] (Node.listEvents left) run (Node.listEvents right) :=
  same ▸ .here left run right

theorem inside_of_eq {children : List Node} {tag : Tag} (left right : List Node)
    (same : nodes = left ++ .element tag children :: right)
    (place : Place children outer before run after) :
    Place nodes (tag :: outer) (Node.listEvents left ++ .enter tag :: before) run
      (after ++ .leave tag :: Node.listEvents right) :=
  same ▸ .inside left right place

/-- The nodes of a place may stand there. -/
theorem fits {slot : Slot} (place : Place nodes outer before run after)
    (fit : ∀ node ∈ nodes, node.Fits known slot) :
    ∀ node ∈ run, node.Fits known (outer.foldl Slot.inside slot) := by
  induction place generalizing slot with
  | here left run right =>
      intro node member
      exact fit node (List.mem_append_left _ (List.mem_append_right _ member))
  | inside left right _ induction =>
      exact induction (fit _ (List.mem_append_right _ List.mem_cons_self)).children

end Place

end DocsConsole.Markdown
