import DocsConsole.Proofs.Preview.Gathered
import DocsConsole.Proofs.Text.Lines

/-!
# Nothing is lost

The lines of a document, without what the preview adds to them, are the text of the document: none
of it is lost, shown twice or moved.
-/

namespace DocsConsole

namespace Markdown

/-- The text that a leaf shows.  A break is a space outside code, and code and raw markup are shown
without their line ends. -/
def Leaf.shown (inCode : Bool) : Leaf → String
  | .text content => if inCode then Text.withoutLineEnds content else content
  | .code content => "`" ++ content ++ "`"
  | .html content => Text.withoutLineEnds content
  | .softBreak => if inCode then "" else " "
  | .hardBreak => if inCode then "" else " "
  | .rule => ""

/-- The text after an element. -/
def Tag.separator : Tag → String
  | .tableCell => " │ "
  | _ => ""

mutual

def Node.shown (inCode : Bool) : Node → String
  | .leaf content => content.shown inCode
  | .element tag children =>
      Node.listShown (inCode || tag.isCode) children ++ tag.separator

/-- The text that nodes show, one after the other. -/
def Node.listShown (inCode : Bool) : List Node → String
  | [] => ""
  | node :: nodes => node.shown inCode ++ Node.listShown inCode nodes

end

end Markdown

namespace Preview

open Markdown

def Part.shown : Part → String
  | .text content => content
  | .stop => ""
  | .rule => ""

def Part.listShown (parts : List Part) : String :=
  String.join (parts.map Part.shown)

namespace Part

@[simp] theorem listShown_nil : listShown [] = "" :=
  rfl

@[simp] theorem listShown_cons (part : Part) (parts : List Part) :
    listShown (part :: parts) = part.shown ++ listShown parts :=
  String.join_cons

theorem listShown_append (before after : List Part) :
    listShown (before ++ after) = listShown before ++ listShown after := by
  rw [listShown, List.map_append, String.join_append]
  rfl

theorem listShown_ofLines (lines : List String) : listShown (ofLines lines) = String.join lines := by
  cases lines with
  | nil => rfl
  | cons first others =>
      rw [ofLines, listShown_cons, String.join_cons]
      congr 1
      induction others with
      | nil => rfl
      | cons line others induction =>
          rw [List.flatMap_cons, listShown_append, induction, String.join_cons]
          simp [shown]

theorem listShown_leafParts (content : Leaf) : listShown (leafParts content) = content.shown false := by
  cases content with
  | html content => exact (listShown_ofLines _).trans (Text.join_lines content)
  | _ => simp [leafParts, shown, Leaf.shown]

end Part

/-- What a line shows. -/
inductive Row where
  | plain (text : String)
  | listed (text : String)
  | quoted (text : String)
  | bullet (depth : Nat) (text : String)
  | heading (level : Fin 6) (text : String)
  | code (text : String)
  | codeHeader (info : Option String)
  | codeFooter
  | rule
  | blank

def Row.line : Row → BlockLine
  | .plain text => (text, .paragraph)
  | .listed text => (text, .listItem)
  | .quoted text => ("│ " ++ text, .quote)
  | .bullet depth text => (Text.repeated depth "  " ++ "• " ++ text, .listItem)
  | .heading level text => ((headingMark level).1 ++ text, (headingMark level).2)
  | .code text => ("│ " ++ text, .code)
  | .codeHeader info => (Preview.codeHeader info, .codeHeader)
  | .codeFooter => ("└────", .codeHeader)
  | .rule => ruleLine
  | .blank => ("", .paragraph)

/-- The line without what the preview adds. -/
def Row.text : Row → String
  | .plain text => text
  | .listed text => text
  | .quoted text => text
  | .bullet _ text => text
  | .heading _ text => text
  | .code text => text
  | .codeHeader _ => ""
  | .codeFooter => ""
  | .rule => ""
  | .blank => ""

namespace Gathering

/-- The lines and the pending text are a given text. -/
def Accounts (g : Gathering) (whole : String) : Prop :=
  ∃ rows : List Row, g.lines.reverse = rows.map Row.line ∧
    String.join (rows.map Row.text) ++ g.current = whole

variable {g : Gathering} {whole : String}

/-- One more line, and more text: the line takes from what was pending and what is added, and
leaves the rest pending. -/
theorem Accounts.add (accounts : g.Accounts whole) (row : Row) (extra rest : String)
    (text : g.current ++ extra = row.text ++ rest) :
    Accounts { g with lines := row.line :: g.lines, current := rest } (whole ++ extra) := by
  obtain ⟨rows, lines, same⟩ := accounts
  refine ⟨rows ++ [row], ?_, ?_⟩
  · rw [List.reverse_cons, lines, List.map_append]
    rfl
  · rw [List.map_append, String.join_append, List.map_singleton, String.join_cons, String.join_nil,
      String.append_empty, ← same, String.append_assoc, String.append_assoc, text]

theorem Accounts.push (accounts : g.Accounts whole) (row : Row) (text : row.text = g.current) :
    Accounts { g with lines := row.line :: g.lines, current := "" } whole := by
  have added := accounts.add row "" "" (congrArg (· ++ "") text.symm)
  rw [String.append_empty] at added
  exact added

/-- A line without text of the document. -/
theorem Accounts.insert (accounts : g.Accounts whole) (row : Row) (empty : row.text = "") :
    Accounts { g with lines := row.line :: g.lines } whole := by
  have added := accounts.add row "" g.current
    (by rw [empty, String.append_empty, String.empty_append])
  rw [String.append_empty] at added
  exact added

theorem Accounts.append (accounts : g.Accounts whole) (text : String) :
    (g.append text).Accounts (whole ++ text) := by
  obtain ⟨rows, lines, same⟩ := accounts
  refine ⟨rows, lines, ?_⟩
  rw [← same, String.append_assoc]
  rfl

theorem Accounts.flush (accounts : g.Accounts whole) {look : BlockStyle} (row : Row)
    (line : row.line = (g.current, look)) (text : row.text = g.current) :
    (g.flush look).Accounts whole := by
  unfold Gathering.flush
  split
  case isTrue => exact accounts
  case isFalse =>
    have pushed := accounts.push row text
    rw [line] at pushed
    exact pushed

theorem Accounts.plain (accounts : g.Accounts whole) : (g.flush .paragraph).Accounts whole :=
  accounts.flush (.plain g.current) rfl rfl

theorem Accounts.blank_if (accounts : g.Accounts whole) (condition : Prop) [Decidable condition] :
    Accounts (if condition then g.addLine "" .paragraph else g) whole := by
  split
  case isTrue => exact accounts.insert .blank rfl
  case isFalse => exact accounts

theorem Accounts.parts (accounts : g.Accounts whole) (parts : List Part) :
    (parts.foldl part g).Accounts (whole ++ Part.listShown parts) := by
  induction parts generalizing g whole with
  | nil => exact String.append_empty.symm ▸ accounts
  | cons first parts induction =>
      have added : (g.part first).Accounts (whole ++ first.shown) := by
        cases first with
        | text content => exact accounts.append content
        | stop => exact String.append_empty.symm ▸ accounts.plain
        | rule => exact String.append_empty.symm ▸ accounts.insert .rule rfl
      rw [Part.listShown_cons, ← String.append_assoc]
      exact induction added

theorem Accounts.leaf (accounts : g.Accounts whole) (closed : g.inCode = false) (content : Leaf) :
    (g.leaf content).Accounts (whole ++ content.shown false) := by
  rw [leaf_eq closed, ← Part.listShown_leafParts]
  exact accounts.parts _

/-! ## Elements -/

theorem Accounts.enter (accounts : g.Accounts whole) (closed : g.inCode = false) {tag : Tag}
    (noCode : tag.isCode = false) : (g.enter tag).Accounts whole := by
  have ended := accounts.plain
  unfold Gathering.enter
  rw [closed]
  cases tag with
  | codeBlock => cases noCode
  | heading level =>
      simp only [Bool.false_eq_true, if_false]
      split
      case isTrue => exact ended
      case isFalse => exact ended.insert .blank rfl
  | _ => exact ended

theorem Accounts.leave_paragraph (accounts : g.Accounts whole) :
    (g.leave .paragraph).Accounts whole := by
  have ended : Accounts
      { g with
        lines := paragraphLine g.inQuote g.listDepth g.current ++ g.lines
        current := "" } whole := by
    unfold paragraphLine
    split
    case isTrue empty =>
      obtain ⟨rows, lines, same⟩ := accounts
      exact ⟨rows, lines, by rw [← same, empty]⟩
    case isFalse =>
      split
      case isTrue => exact accounts.push (.quoted g.current) rfl
      case isFalse =>
        split
        case isTrue => exact accounts.push (.listed g.current) rfl
        case isFalse => exact accounts.push (.plain g.current) rfl
  rw [Gathering.leave_paragraph, paragraphGap]
  split
  case isTrue => exact ended.insert .blank rfl
  case isFalse => exact ended

theorem Accounts.leave_other (accounts : g.Accounts whole) {tag : Tag} (noCode : tag.isCode = false)
    (noCell : tag ≠ .tableCell) : (g.leave tag).Accounts whole := by
  cases tag with
  | codeBlock => cases noCode
  | tableCell => exact absurd rfl noCell
  | paragraph => exact accounts.leave_paragraph
  | heading level => exact accounts.push (.heading level g.current) rfl
  | list first => exact Accounts.blank_if (g := { g with listDepth := g.listDepth - 1 }) accounts _
  | item =>
      simp only [Gathering.leave]
      split
      case isTrue => exact accounts
      case isFalse => exact accounts.push (.bullet (g.listDepth - 1) g.current) rfl
  | tableHead => exact accounts.plain
  | tableRow => exact accounts.plain
  | _ => exact accounts

theorem Accounts.leave (accounts : g.Accounts whole) {tag : Tag} (noCode : tag.isCode = false) :
    (g.leave tag).Accounts (whole ++ tag.separator) := by
  by_cases cell : tag = .tableCell
  · subst cell
    exact accounts.append " │ "
  · have nothing : tag.separator = "" := by
      cases tag with
      | tableCell => exact absurd rfl cell
      | _ => rfl
    rw [nothing, String.append_empty]
    exact accounts.leave_other noCode cell

theorem Accounts.codeRows (accounts : g.Accounts whole) (settled : g.current = "")
    (texts : List String) :
    Accounts { g with lines := (codeRows texts).reverse ++ g.lines }
      (whole ++ String.join (texts.flatMap Text.lines)) := by
  rw [Preview.codeRows]
  generalize texts.flatMap Text.lines = lines
  induction lines generalizing g whole with
  | nil => exact String.append_empty.symm ▸ accounts
  | cons line lines induction =>
      have added := accounts.add (.code line) line ""
        (by rw [settled, String.empty_append, Row.text, String.append_empty])
      have others := induction added rfl
      rw [String.append_assoc, ← String.join_cons, ← settled] at others
      rw [List.map_cons, List.reverse_cons, List.append_assoc]
      exact others

end Gathering

/-- The text of code is shown without its line ends. -/
theorem listShown_texts (texts : List String) :
    Node.listShown true (texts.map fun text => .leaf (.text text)) =
      String.join (texts.flatMap Text.lines) := by
  induction texts with
  | nil => rfl
  | cons text texts induction =>
      rw [List.map_cons, Node.listShown, induction, List.flatMap_cons, String.join_append,
        Text.join_lines]
      rfl

namespace Gathering

variable {g : Gathering} {whole : String}

variable {known : List String → Prop} {slot : Slot}

theorem Accounts.nodes {nodes : List Node} (fit : ∀ node ∈ nodes, node.Fits known slot)
    (each : ∀ node ∈ nodes, ∀ {g : Gathering} {whole : String}, g.Accounts whole →
      g.inCode = false → (g.walk node.events).Accounts (whole ++ node.shown false))
    (accounts : g.Accounts whole) (closed : g.inCode = false) :
    (g.walk (Node.listEvents nodes)).Accounts (whole ++ Node.listShown false nodes) := by
  induction nodes generalizing g whole with
  | nil => exact String.append_empty.symm ▸ accounts
  | cons node nodes induction =>
      obtain ⟨firstFits, othersFit⟩ := List.forall_mem_cons.mp fit
      obtain ⟨first, others⟩ := List.forall_mem_cons.mp each
      have within : g.Within g.listDepth g.inQuote := ⟨closed, rfl, fun noted => noted⟩
      rw [walk_listEvents_cons, Node.listShown, ← String.append_assoc]
      exact induction othersFit others (first accounts closed) (within.node firstFits).code

/-- What is gathered from a node is its text. -/
theorem Accounts.node {node : Node} (fits : node.Fits known slot) (accounts : g.Accounts whole)
    (closed : g.inCode = false) : (g.walk node.events).Accounts (whole ++ node.shown false) := by
  induction fits generalizing g whole with
  | leaf _ => exact accounts.leaf closed _
  | @code slot info texts _ _ =>
      have ended := accounts.plain
      rw [flush_eq] at ended
      have shown := ((ended.insert (.codeHeader info) rfl).codeRows rfl texts).insert .codeFooter rfl
      rw [walk_codeBlock closed, Node.shown, Bool.false_or, Tag.isCode, listShown_texts,
        Tag.separator, String.append_empty]
      · exact shown
      · exact nofun
  | @element slot tag children admitted fit induction =>
      have noCode := Slot.isCode_of_admits admitted
      have within : g.Within g.listDepth g.inQuote := ⟨closed, rfl, fun noted => noted⟩
      rw [walk_element, Node.shown, noCode, ← String.append_assoc]
      exact ((accounts.enter closed noCode).nodes fit
        (fun child member _ _ inner opened => induction child member inner opened)
        (within.enter noCode).code).leave noCode

end Gathering

/-- The lines of a document without what the preview adds are the text of the document. -/
theorem text_is_kept (text : String) :
    ∃ rows : List Row, blockLines (events text) = rows.map Row.line ∧
      String.join (rows.map Row.text) = Node.listShown false (parse text) := by
  have nothing : Gathering.empty.Accounts "" := ⟨[], rfl, rfl⟩
  have fit := parse_fits text
  obtain ⟨rows, lines, same⟩ := (nothing.nodes fit
    (fun node member _ _ inner closed => inner.node (fit node member) closed) rfl).plain
  refine ⟨rows, lines, ?_⟩
  rw [Gathering.flush_eq, String.append_empty, String.empty_append] at same
  exact same

end Preview

end DocsConsole
