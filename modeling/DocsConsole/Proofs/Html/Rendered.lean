import DocsConsole.Html.Generated
import DocsConsole.Proofs.Decimal.Digits
import DocsConsole.Proofs.Html.Marks

/-!
# Documents are written with their own tags

The writer takes the events of a document one after another, and raw markup is one more text to
it.  What it writes for a node is a sequence of its tags, line ends and escaped texts, and the
texts are those of the node.  Only the description of an image is written inside a tag.
-/

namespace DocsConsole

namespace Markdown

mutual

/-- What stands for a node in the description of an image. -/
def Node.description : Node → List Char
  | .leaf (.text content) => content.toList
  | .leaf (.html content) => content.toList
  | .leaf (.code content) => content.toList
  | .leaf _ => [' ']
  | .element _ children => Node.listDescription children

def Node.listDescription : List Node → List Char
  | [] => []
  | node :: nodes => node.description ++ Node.listDescription nodes

end

/-- The texts of a leaf: raw markup is one. -/
def Leaf.texts : Leaf → List (List Char)
  | .text content => [content.toList]
  | .html content => [content.toList]
  | .code content => [content.toList]
  | _ => []

mutual

def Node.texts : Node → List (List Char)
  | .leaf content => content.texts
  | .element (.image _ _) children => [Node.listDescription children]
  | .element _ children => Node.listTexts children

def Node.listTexts : List Node → List (List Char)
  | [] => []
  | node :: nodes => node.texts ++ Node.listTexts nodes

end

end Markdown

namespace Html

open DocsConsole.Markdown

/-! ## Values -/

theorem quotable_percentEncode (byte : UInt8) : Quotable (percentEncode byte) := by
  have digit : ∀ place, hexDigits.getD place '0' ∈ hexDigits := by
    intro place
    rw [List.getD_eq_getElem?_getD]
    cases found : hexDigits[place]? with
    | none => exact List.mem_cons_self
    | some c => exact List.mem_of_getElem? found
  have plain : Quotable hexDigits := by decide
  intro c member
  simp only [percentEncode, List.mem_cons, List.not_mem_nil, or_false] at member
  rcases member with rfl | rfl | rfl
  · decide
  · exact plain _ (digit _)
  · exact plain _ (digit _)

theorem quotable_escapeAddressChar (c : Char) : Quotable (escapeAddressChar c) := by
  unfold escapeAddressChar
  split
  case isTrue safe =>
    intro other member
    rw [List.mem_singleton.mp member]
    refine ⟨?_, ?_, ?_⟩
    all_goals
      rintro rfl
      exact absurd safe (by decide)
  case isFalse =>
    split
    case isTrue => decide
    case isFalse =>
      split
      case isTrue => decide
      case isFalse => exact quotable_flatMap quotable_percentEncode _

theorem quotable_escapeAddress (text : String) : Quotable (escapeAddress text).toList := by
  rw [escapeAddress, String.toList_ofList]
  exact quotable_flatMap quotable_escapeAddressChar _

namespace Value

/-- An escaped text. -/
def ofText (text : List Char) : Value :=
  ⟨escapeChars text, quotable_escapeChars text⟩

/-- What stands before the destination of a link. -/
def scheme : LinkKind → String
  | .address => ""
  | .mailbox => "mailto:"

/-- The destination of a link. -/
def ofAddress (kind : LinkKind) (destination : String) : Value where
  written := (scheme kind).toList ++ (escapeAddress destination).toList
  quotable := by
    refine Quotable.append ?_ (quotable_escapeAddress destination)
    cases kind <;> decide

/-- The class of code in a language. -/
def ofLanguage (language : String) : Value where
  written := "language-".toList ++ escapeChars language.toList
  quotable := Quotable.append (by decide) (quotable_escapeChars language.toList)

def ofNumber (number : Nat) : Value where
  written := Nat.toDigits 10 number
  quotable := by
    intro c member
    have digit := Decimal.toDigits_isDigit c member
    exact ⟨Decimal.ne_of_isDigit digit (by decide), Decimal.ne_of_isDigit digit (by decide),
      Decimal.ne_of_isDigit digit (by decide)⟩

/-- The style of a cell. -/
def ofAlignment (alignment : Markdown.Alignment) : Value where
  written :=
    (match alignment with
      | .unset => ""
      | .left => "text-align: left"
      | .center => "text-align: center"
      | .right => "text-align: right").toList
  quotable := by
    cases alignment <;> decide

/-- A title, unless it is empty. -/
def ofTitle (title : String) : Option Value :=
  if title.isEmpty then none else some (ofText title.toList)

@[simp] theorem written_ofText (text : List Char) : (ofText text).written = escapeChars text := rfl

@[simp] theorem written_ofAddress (kind : LinkKind) (destination : String) :
    (ofAddress kind destination).written =
      (scheme kind).toList ++ (escapeAddress destination).toList := rfl

@[simp] theorem written_ofLanguage (language : String) :
    (ofLanguage language).written = "language-".toList ++ escapeChars language.toList := rfl

@[simp] theorem written_ofNumber (number : Nat) :
    (ofNumber number).written = Nat.toDigits 10 number := rfl

end Value

/-! ## Writing -/

namespace Writer

def chars (w : Writer) : List Char :=
  w.result.toList

theorem chars_cons (w : Writer) (text : String) :
    chars { w with written := text :: w.written } = w.chars ++ text.toList := by
  simp [chars, result, String.toList_join]

theorem chars_write (w : Writer) (text : String) :
    (w.write text).chars = w.chars ++ text.toList := by
  unfold write
  split
  case isTrue nothing =>
    rw [String.isEmpty_iff.mp nothing]
    exact (List.append_nil _).symm
  case isFalse => exact chars_cons w text

theorem description_write (w : Writer) (text : String) :
    (w.write text).description = w.description := by
  unfold write
  split <;> rfl

theorem chars_writeInline (w : Writer) (content : String) :
    (w.writeInline content).chars = w.chars ++ escapeChars content.toList := by
  have written := chars_cons w (escape content)
  rw [escape, String.toList_ofList] at written
  exact written

theorem chars_writeText (w : Writer) (content : String) :
    (w.writeText content).chars = w.chars ++ escapeChars content.toList :=
  chars_writeInline w content

/-- Some tokens with these texts are written. -/
def Writes (texts : List (List Char)) (w next : Writer) : Prop :=
  ∃ tokens : List Token, next.chars = w.chars ++ tokens.flatMap Token.chars ∧
    tokens.flatMap Token.texts = texts ∧ next.description = w.description

theorem Writes.trans {first second : List (List Char)} {w middle next : Writer}
    (former : Writes first w middle) (latter : Writes second middle next) :
    Writes (first ++ second) w next := by
  obtain ⟨tokens, sameChars, sameTexts, same⟩ := former
  obtain ⟨others, otherChars, otherTexts, sameToo⟩ := latter
  refine ⟨tokens ++ others, ?_, ?_, sameToo.trans same⟩
  · rw [otherChars, sameChars, List.append_assoc, List.flatMap_append]
  · rw [List.flatMap_append, sameTexts, otherTexts]

theorem Writes.description {texts : List (List Char)} {w next : Writer}
    (writes : Writes texts w next) : next.description = w.description := by
  obtain ⟨_, _, _, same⟩ := writes
  exact same

theorem writes_nothing (w : Writer) : Writes [] w w :=
  ⟨[], (List.append_nil _).symm, rfl, rfl⟩

theorem writes_write (tokens : List Token) {text : String}
    (same : text.toList = tokens.flatMap Token.chars) (w : Writer) :
    Writes (tokens.flatMap Token.texts) w (w.write text) :=
  ⟨tokens, by rw [chars_write, same], rfl, description_write w text⟩

theorem writes_writeInline (w : Writer) (content : String) :
    Writes [content.toList] w (w.writeInline content) := by
  refine ⟨[.text content.toList], ?_, rfl, rfl⟩
  rw [chars_writeInline, List.flatMap_singleton, Token.chars]

theorem writes_writeText (w : Writer) (content : String) :
    Writes [content.toList] w (w.writeText content) :=
  writes_writeInline w content

theorem writes_writeBlock (tokens : List Token) {text : String}
    (same : text.toList = tokens.flatMap Token.chars) (w : Writer) :
    Writes (tokens.flatMap Token.texts) w (w.writeBlock text) := by
  unfold writeBlock
  split
  case isTrue => exact writes_write tokens same w
  case isFalse =>
    have sameToo : ("\n" ++ text).toList = (.lineEnd :: tokens).flatMap Token.chars := by
      rw [String.toList_append, List.flatMap_cons, same]
      rfl
    exact writes_write (.lineEnd :: tokens) sameToo w

/-! ## Tags and leaves -/

theorem toList_opening (element : Element) :
    ("<" ++ element.name ++ ">").toList = (Mark.opening element).chars := by
  simp [Mark.chars, Mark.name, Mark.attributes, Mark.ending]

theorem toList_closing (element : Element) :
    ("</" ++ element.name ++ ">").toList = (Mark.closing element).chars := by
  simp [Mark.chars, Mark.name, Mark.attributes, Mark.ending]

theorem toList_codeIn (language : String) :
    ("<code class=\"language-" ++ escape language ++ "\">").toList =
      (Mark.codeIn (.ofLanguage language)).chars := by
  simp [Mark.chars, Mark.name, Mark.attributes, Mark.ending, Attribute.chars, Element.name, escape]

theorem toList_listFrom (first : Nat) :
    ("<ol start=\"" ++ toString first ++ "\">").toList =
      (Mark.listFrom (.ofNumber first)).chars := by
  simp [Mark.chars, Mark.name, Mark.attributes, Mark.ending, Attribute.chars, Element.name]

theorem exists_cell (inHead : Bool) (alignment : Markdown.Alignment) :
    ∃ mark : Mark, mark.texts = [] ∧
      ((if inHead then "<th" else "<td") ++ alignmentAttribute alignment ++ ">").toList =
        mark.chars := by
  cases alignment with
  | unset =>
      refine ⟨.opening (if inHead then .headCell else .cell), rfl, ?_⟩
      cases inHead <;> decide
  | left =>
      refine ⟨.setCell inHead (.ofAlignment .left), rfl, ?_⟩
      cases inHead <;> decide
  | center =>
      refine ⟨.setCell inHead (.ofAlignment .center), rfl, ?_⟩
      cases inHead <;> decide
  | right =>
      refine ⟨.setCell inHead (.ofAlignment .right), rfl, ?_⟩
      cases inHead <;> decide

theorem toList_titleAttribute (title : String) (rest : List Char) :
    (titleAttribute title).toList ++ '\x22' :: rest =
      '\x22' :: ((Mark.titles (Value.ofTitle title)).flatMap Attribute.chars ++ rest) := by
  unfold titleAttribute Value.ofTitle
  split
  case isTrue => rfl
  case isFalse => simp [Mark.titles, Attribute.chars, escape]

theorem toList_link (kind : LinkKind) (destination title : String) :
    ("<a href=\"" ++ Value.scheme kind ++ escapeAddress destination ++ titleAttribute title ++
      "\">").toList = (Mark.link (.ofAddress kind destination) (Value.ofTitle title)).chars := by
  simp [Mark.chars, Mark.name, Mark.attributes, Mark.ending, Attribute.chars, Element.name,
    toList_titleAttribute]

theorem toList_image (destination title : String) (description : List Char) :
    ("<img src=\"" ++ escapeAddress destination ++ "\" alt=\"").toList ++
        escapeChars description ++ (titleAttribute title ++ "\" />").toList =
      (Mark.image (.ofAddress .address destination) (.ofText description)
        (Value.ofTitle title)).chars := by
  simp [Mark.chars, Mark.name, Mark.attributes, Mark.ending, Attribute.chars, Value.scheme,
    toList_titleAttribute]

theorem writes_mark {mark : Mark} (textless : mark.texts = []) {text : String}
    (same : text.toList = mark.chars) (w : Writer) : Writes [] w (w.write text) := by
  refine ⟨[.mark mark], ?_, ?_, description_write w text⟩
  · rw [chars_write, same, List.flatMap_singleton, Token.chars]
  · rw [List.flatMap_singleton, Token.texts, textless]

theorem writes_enter {tag : Markdown.Tag}
    (noImage : ∀ destination title, tag ≠ .image destination title) (w : Writer) :
    Writes [] w (w.enter tag) := by
  cases tag with
  | paragraph => exact writes_writeBlock [.mark (.opening .paragraph)] (by decide) w
  | heading level =>
      refine writes_writeBlock [.mark (.opening (.heading level))] ?_ w
      rw [List.flatMap_singleton]
      exact toList_opening (.heading level)
  | blockQuote => exact writes_writeBlock [.mark (.opening .blockQuote), .lineEnd] (by decide) w
  | codeBlock info =>
      -- Code begins on a line of its own, so a line end may come first.
      simp only [enter]
      generalize started : (if w.atLineStart then w else w.write "\n") = line
      have starts : Writes [] w line := by
        subst started
        split
        case isTrue => exact writes_nothing w
        case isFalse => exact writes_write [.lineEnd] (by decide) w
      generalize (info.map languageOf).getD "" = language
      split
      case isTrue =>
        exact starts.trans
          (writes_write [.mark (.opening .preformatted), .mark (.opening .code)] (by decide) line)
      case isFalse =>
        have same : ("<pre><code class=\"language-" ++ escape language ++ "\">").toList =
            [Token.mark (.opening .preformatted), .mark (.codeIn (.ofLanguage language))].flatMap
              Token.chars := by
          rw [List.flatMap_cons, List.flatMap_singleton, Token.chars_mark, Token.chars_mark,
            ← toList_codeIn, ← toList_opening]
          simp [Element.name]
        exact starts.trans (writes_write _ same line)
  | list first =>
      rcases first with _ | first
      · exact writes_writeBlock [.mark (.opening .bulletList), .lineEnd] (by decide) w
      · by_cases fromOne : first = 1
        · subst fromOne
          exact writes_writeBlock [.mark (.opening .orderedList), .lineEnd] (by decide) w
        · have entered : w.enter (.list (some first)) =
              w.writeBlock ("<ol start=\"" ++ toString first ++ "\">\n") := by
            rw [enter]
            exact fromOne
          have same : ("<ol start=\"" ++ toString first ++ "\">\n").toList =
              [Token.mark (.listFrom (.ofNumber first)), .lineEnd].flatMap Token.chars := by
            rw [List.flatMap_cons, List.flatMap_singleton, Token.chars_mark, ← toList_listFrom]
            simp
          rw [entered]
          exact writes_writeBlock _ same w
  | item => exact writes_writeBlock [.mark (.opening .item)] (by decide) w
  | table columns => exact writes_write [.mark (.opening .table)] (by decide) _
  | tableHead =>
      exact writes_write [.mark (.opening .tableHead), .mark (.opening .tableRow)] (by decide) _
  | tableRow => exact writes_write [.mark (.opening .tableRow)] (by decide) _
  | tableCell =>
      obtain ⟨mark, textless, same⟩ := exists_cell w.inHead ((w.columns[w.cell]?).getD .unset)
      exact writes_mark textless same w
  | emphasis => exact writes_write [.mark (.opening .emphasis)] (by decide) w
  | strong => exact writes_write [.mark (.opening .strong)] (by decide) w
  | strikethrough => exact writes_write [.mark (.opening .strikethrough)] (by decide) w
  | link kind destination title =>
      have same := toList_link kind destination title
      cases kind
      · exact writes_mark rfl same w
      · exact writes_mark rfl same w
  | image destination title => exact (noImage destination title rfl).elim

theorem writes_leave {tag : Markdown.Tag}
    (noImage : ∀ destination title, tag ≠ .image destination title) (w : Writer) :
    Writes [] w (w.leave tag) := by
  cases tag with
  | paragraph => exact writes_write [.mark (.closing .paragraph), .lineEnd] (by decide) w
  | heading level =>
      have same : ("</" ++ headingName level ++ ">\n").toList =
          [Token.mark (.closing (.heading level)), .lineEnd].flatMap Token.chars := by
        rw [List.flatMap_cons, List.flatMap_singleton, Token.chars_mark, ← toList_closing]
        simp [Element.name]
      exact writes_write _ same w
  | blockQuote => exact writes_write [.mark (.closing .blockQuote), .lineEnd] (by decide) w
  | codeBlock info =>
      exact writes_write [.mark (.closing .code), .mark (.closing .preformatted), .lineEnd]
        (by decide) w
  | list first =>
      cases first with
      | none => exact writes_write [.mark (.closing .bulletList), .lineEnd] (by decide) w
      | some first => exact writes_write [.mark (.closing .orderedList), .lineEnd] (by decide) w
  | item => exact writes_write [.mark (.closing .item), .lineEnd] (by decide) w
  | table columns =>
      exact writes_write [.mark (.closing .tableBody), .mark (.closing .table), .lineEnd]
        (by decide) w
  | tableHead =>
      exact writes_write [.mark (.closing .tableRow), .mark (.closing .tableHead),
        .mark (.opening .tableBody), .lineEnd] (by decide) w
  | tableRow => exact writes_write [.mark (.closing .tableRow), .lineEnd] (by decide) w
  | tableCell =>
      have same : (if w.inHead then "</th>" else "</td>").toList =
          (Mark.closing (if w.inHead then .headCell else .cell)).chars := by
        cases w.inHead <;> decide
      exact writes_mark rfl same w
  | emphasis => exact writes_write [.mark (.closing .emphasis)] (by decide) w
  | strong => exact writes_write [.mark (.closing .strong)] (by decide) w
  | strikethrough => exact writes_write [.mark (.closing .strikethrough)] (by decide) w
  | link kind destination title => exact writes_write [.mark (.closing .anchor)] (by decide) w
  | image destination title => exact (noImage destination title rfl).elim

theorem writes_leaf (content : Leaf) (w : Writer) : Writes content.texts w (w.leaf content) := by
  cases content with
  | text content => exact writes_writeText w content
  | html content => exact writes_writeText w content
  | code content =>
      have opened : Writes [] w (w.write "<code>") :=
        writes_write [.mark (.opening .code)] (by decide) w
      have filled := opened.trans (writes_writeInline _ content)
      exact filled.trans (writes_write [.mark (.closing .code)] (by decide) _)
  | softBreak => exact writes_write [.lineEnd] (by decide) w
  | hardBreak => exact writes_write [.mark .lineBreak, .lineEnd] (by decide) w
  | rule => exact writes_writeBlock [.mark .rule, .lineEnd] (by decide) w

/-! ## Nodes -/

/-- A text is written into the description of an image. -/
structure Describes (text : List Char) (w next : Writer) : Prop where
  chars : next.chars = w.chars ++ escapeChars text
  description : next.description = w.description

theorem Describes.trans {first second : List Char} {w middle next : Writer}
    (former : Describes first w middle) (latter : Describes second middle next) :
    Describes (first ++ second) w next where
  chars := by
    rw [latter.chars, former.chars, escapeChars, escapeChars, escapeChars, List.flatMap_append,
      List.append_assoc]
  description := latter.description.trans former.description

theorem describes_leaf (content : Leaf) {w : Writer} {depth : Nat} {title : String}
    (inside : w.description = some (depth, title)) :
    Describes (Node.leaf content).description w (w.event (.leaf content)) := by
  have space : Describes [' '] w (w.write " ") :=
    ⟨chars_write w " ", description_write w " "⟩
  rw [event, inside]
  cases content with
  | text content => exact ⟨chars_writeText w content, rfl⟩
  | html content => exact ⟨chars_writeText w content, rfl⟩
  | code content => exact ⟨chars_writeText w content, rfl⟩
  | softBreak => exact space
  | hardBreak => exact space
  | rule => exact space

mutual

theorem describes_node (node : Node) {w : Writer} {depth : Nat} {title : String}
    (inside : w.description = some (depth, title)) :
    Describes node.description w (node.events.foldl event w) := by
  cases node with
  | leaf content => exact describes_leaf content inside
  | element tag children =>
      rw [Node.events, List.foldl_cons, List.foldl_append, List.foldl_cons, List.foldl_nil]
      have entered : w.event (.enter tag) = { w with description := some (depth + 1, title) } := by
        rw [event, inside]
        rfl
      rw [entered]
      have described := describes_list children
        (w := { w with description := some (depth + 1, title) }) rfl
      generalize (Node.listEvents children).foldl event _ = inner at described ⊢
      have left : inner.event (.leave tag) = { inner with description := some (depth, title) } := by
        rw [event, described.description]
        rfl
      rw [left]
      exact ⟨described.chars, inside.symm⟩

theorem describes_list (nodes : List Node) {w : Writer} {depth : Nat} {title : String}
    (inside : w.description = some (depth, title)) :
    Describes (Node.listDescription nodes) w ((Node.listEvents nodes).foldl event w) := by
  cases nodes with
  | nil => exact ⟨(List.append_nil _).symm, rfl⟩
  | cons node nodes =>
      have first := describes_node node inside
      have others := describes_list nodes (first.description.trans inside)
      rw [Node.listEvents, List.foldl_append]
      exact first.trans others

end

theorem writes_image (destination title : String) (children : List Node) {w : Writer}
    (plain : w.description = none) :
    Writes [Node.listDescription children] w
      ((Node.element (.image destination title) children).events.foldl event w) := by
  rw [Node.events, List.foldl_cons, List.foldl_append, List.foldl_cons, List.foldl_nil]
  have entered : w.event (.enter (.image destination title)) =
      { w.write ("<img src=\"" ++ escapeAddress destination ++ "\" alt=\"") with
        description := some (0, titleAttribute title) } := by
    rw [event, plain]
    rfl
  rw [entered]
  have opened := chars_write w ("<img src=\"" ++ escapeAddress destination ++ "\" alt=\"")
  generalize w.write _ = started at opened ⊢
  have described := describes_list children
    (w := { started with description := some (0, titleAttribute title) }) rfl
  generalize (Node.listEvents children).foldl event _ = inner at described ⊢
  have left : inner.event (.leave (.image destination title)) =
      { inner.write (titleAttribute title ++ "\" />") with description := none } := by
    rw [event, described.description]
    rfl
  rw [left]
  refine ⟨[.mark (.image (.ofAddress .address destination)
    (.ofText (Node.listDescription children)) (Value.ofTitle title))], ?_, ?_, plain.symm⟩
  · have same := toList_image destination title (Node.listDescription children)
    rw [List.flatMap_singleton, Token.chars_mark, ← same, ← List.append_assoc, ← List.append_assoc,
      ← opened]
    have closed := chars_write inner (titleAttribute title ++ "\" />")
    rw [described.chars] at closed
    exact closed
  · rw [List.flatMap_singleton, Token.texts, Mark.texts, Value.written_ofText,
      unescapeChars_escapeChars]

mutual

/-- A node is written as its tags and texts. -/
theorem writes_node (node : Node) {w : Writer} (plain : w.description = none) :
    Writes node.texts w (node.events.foldl event w) := by
  cases node with
  | leaf content =>
      have leaf : w.event (.leaf content) = w.leaf content := by
        rw [event, plain]
      rw [Node.events, List.foldl_cons, List.foldl_nil, leaf]
      exact writes_leaf content w
  | element tag children =>
      by_cases isImage : ∃ destination title, tag = .image destination title
      · obtain ⟨destination, title, rfl⟩ := isImage
        exact writes_image destination title children plain
      · have noImage : ∀ destination title, tag ≠ .image destination title :=
          fun destination title same => isImage ⟨destination, title, same⟩
        have texts : (Node.element tag children).texts = Node.listTexts children := by
          cases tag with
          | image destination title => exact (noImage destination title rfl).elim
          | _ => rfl
        rw [texts, Node.events, List.foldl_cons, List.foldl_append, List.foldl_cons,
          List.foldl_nil]
        have entered : w.event (.enter tag) = w.enter tag := by
          rw [event, plain]
        have opened := writes_enter noImage w
        have inside := writes_list children (opened.description.trans plain)
        have written := opened.trans inside
        rw [entered]
        generalize (Node.listEvents children).foldl event _ = inner at written ⊢
        have left : inner.event (.leave tag) = inner.leave tag := by
          rw [event, written.description, plain]
        have closed := written.trans (writes_leave noImage inner)
        rw [List.nil_append, List.append_nil] at closed
        rw [left]
        exact closed

theorem writes_list (nodes : List Node) {w : Writer} (plain : w.description = none) :
    Writes (Node.listTexts nodes) w ((Node.listEvents nodes).foldl event w) := by
  cases nodes with
  | nil => exact writes_nothing w
  | cons node nodes =>
      have first := writes_node node plain
      have others := writes_list nodes (first.description.trans plain)
      rw [Node.listEvents, List.foldl_append]
      exact first.trans others

end

end Writer

/-! ## Generated content -/

/-- The markup of a document is its texts between tags. -/
theorem exists_tokens (nodes : List Node) :
    ∃ tokens : List Token,
      (ofEvents (Node.listEvents nodes)).toList = tokens.flatMap Token.chars ∧
        tokens.flatMap Token.texts = Node.listTexts nodes := by
  obtain ⟨tokens, written, texts, _⟩ := Writer.writes_list nodes (w := Writer.empty) rfl
  exact ⟨tokens, written, texts⟩

/-- No markup of generated content comes from its source: raw markup is among the texts. -/
theorem ofGenerated_inert (content : String) :
    (∃ tokens : List Token,
        (ofGenerated content .readme).toList = tokens.flatMap Token.chars ∧
          tokens.flatMap Token.texts = Node.listTexts (Markdown.parse content) ∧
          ∀ before after, (ofGenerated content .readme).toList = before ++ '<' :: after →
            ∃ tag rest, Token.mark tag ∈ tokens ∧ '<' :: after = tag.chars ++ rest) ∧
      (ofGenerated content .inlineComments).toList =
        "<pre><code>".toList ++ escapeChars content.toList ++ "</code></pre>\n".toList ∧
      Quotable (escapeChars content.toList) ∧
      unescapeChars (escapeChars content.toList) = content.toList := by
  refine ⟨?_, ?_, quotable_escapeChars _, unescapeChars_escapeChars _⟩
  · obtain ⟨tokens, written, texts⟩ := exists_tokens (Markdown.parse content)
    refine ⟨tokens, written, texts, ?_⟩
    intro before after divided
    exact exists_mark (written.symm.trans divided)
  · change (ofCode content).write.toList = _
    rw [Fragment.toList_write, ofCode, Fragment.chars_markup, Fragment.chars_text,
      Fragment.chars_markup, Fragment.chars_nil, List.append_nil, List.append_assoc]

/-- Raw markup in the description of an image. -/
theorem ofGenerated_inert_of_description :
    (ofGenerated "<b>![<i x>](y)" .readme).toList =
        "<p>&lt;b&gt;".toList ++ '<' :: "img src=\"y\" alt=\"&lt;i x&gt;\" /></p>\n".toList ∧
      ∃ (tag : Mark) (rest : List Char),
        '<' :: "img src=\"y\" alt=\"&lt;i x&gt;\" /></p>\n".toList = tag.chars ++ rest := by
  have written : (ofGenerated "<b>![<i x>](y)" .readme).toList =
      "<p>&lt;b&gt;".toList ++ '<' :: "img src=\"y\" alt=\"&lt;i x&gt;\" /></p>\n".toList := by
    decide +kernel
  obtain ⟨⟨_, _, _, opens⟩, _⟩ := ofGenerated_inert "<b>![<i x>](y)"
  obtain ⟨tag, rest, _, same⟩ := opens _ _ written
  exact ⟨written, tag, rest, same⟩

end Html

end DocsConsole
