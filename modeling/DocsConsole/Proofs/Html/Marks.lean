import DocsConsole.Html.Document
import DocsConsole.Proofs.Html.Tags

/-!
# The tags of a document

A document is written with a fixed number of tags, some of which have attributes.  The value of
an attribute can hold neither a quote nor a bracket, so a tag ends where it should, and an
opening bracket stands only at the beginning of one of these tags.
-/

namespace DocsConsole.Html

/-- The value of an attribute. -/
structure Value where
  written : List Char
  quotable : Quotable written

structure Attribute where
  name : String
  value : Value

def Attribute.chars (given : Attribute) : List Char :=
  ' ' :: (given.name.toList ++ "=\"".toList ++ given.value.written ++ ['\x22'])

/-- The elements of a document that have an end. -/
inductive Element where
  | heading (level : Fin 6)
  | paragraph
  | emphasis
  | strong
  | strikethrough
  | code
  | preformatted
  | bulletList
  | orderedList
  | item
  | blockQuote
  | anchor
  | table
  | tableHead
  | tableBody
  | tableRow
  | headCell
  | cell
deriving DecidableEq, Repr

def Element.name : Element → String
  | .heading level => headingName level
  | .paragraph => "p"
  | .emphasis => "em"
  | .strong => "strong"
  | .strikethrough => "del"
  | .code => "code"
  | .preformatted => "pre"
  | .bulletList => "ul"
  | .orderedList => "ol"
  | .item => "li"
  | .blockQuote => "blockquote"
  | .anchor => "a"
  | .table => "table"
  | .tableHead => "thead"
  | .tableBody => "tbody"
  | .tableRow => "tr"
  | .headCell => "th"
  | .cell => "td"

/-- The tags of a document. -/
inductive Mark where
  | opening (element : Element)
  | closing (element : Element)
  /-- Code in a language. -/
  | codeIn (language : Value)
  /-- An ordered list that does not begin at one. -/
  | listFrom (first : Value)
  /-- A cell of a column with an alignment. -/
  | setCell (inHead : Bool) (alignment : Value)
  | link (destination : Value) (title : Option Value)
  | image (source description : Value) (title : Option Value)
  | rule
  | lineBreak

namespace Mark

/-- What stands after the opening bracket. -/
def name : Mark → String
  | .opening element => element.name
  | .closing element => "/" ++ element.name
  | .codeIn _ => Element.code.name
  | .listFrom _ => Element.orderedList.name
  | .setCell inHead _ => (if inHead then Element.headCell else Element.cell).name
  | .link _ _ => Element.anchor.name
  | .image _ _ _ => "img"
  | .rule => "hr"
  | .lineBreak => "br"

def titles : Option Value → List Attribute
  | none => []
  | some title => [⟨"title", title⟩]

def attributes : Mark → List Attribute
  | .codeIn language => [⟨"class", language⟩]
  | .listFrom first => [⟨"start", first⟩]
  | .setCell _ alignment => [⟨"style", alignment⟩]
  | .link destination title => ⟨"href", destination⟩ :: titles title
  | .image source description title =>
      ⟨"src", source⟩ :: ⟨"alt", description⟩ :: titles title
  | _ => []

/-- What ends the tag. -/
def ending : Mark → String
  | .image _ _ _ => " />"
  | .rule => " />"
  | .lineBreak => " />"
  | _ => ">"

/-- The written form of a tag. -/
def chars (mark : Mark) : List Char :=
  '<' :: (mark.name.toList ++ mark.attributes.flatMap Attribute.chars ++ mark.ending.toList)

/-- The text that a tag shows. -/
def texts : Mark → List (List Char)
  | .image _ description _ => [unescapeChars description.written]
  | _ => []

theorem not_mem_name (mark : Mark) : '<' ∉ mark.name.toList := by
  have heading : ∀ level : Fin 6, '<' ∉ (headingName level).toList := by decide
  have element : ∀ element : Element, '<' ∉ element.name.toList := by
    intro element
    cases element with
    | heading level => exact heading level
    | _ => decide
  cases mark with
  | opening kind => exact element kind
  | closing kind =>
      rw [name, String.toList_append, List.mem_append, not_or]
      exact ⟨by decide, element kind⟩
  | codeIn => exact element .code
  | listFrom => exact element .orderedList
  | setCell => exact element _
  | link => exact element .anchor
  | image =>
      change '<' ∉ "img".toList
      decide
  | rule => decide
  | lineBreak => decide

theorem not_mem_attributes (mark : Mark) : '<' ∉ mark.attributes.flatMap Attribute.chars := by
  have named : ∀ given ∈ mark.attributes, '<' ∉ given.name.toList := by
    cases mark with
    | link _ title => cases title <;> simp [attributes, titles]
    | image _ _ title => cases title <;> simp [attributes, titles]
    | _ => simp [attributes]
  intro opening
  obtain ⟨given, member, inside⟩ := List.mem_flatMap.mp opening
  have valued : '<' ∉ given.value.written :=
    fun inside => (given.value.quotable '<' inside).2.1 rfl
  simp [Attribute.chars, named given member, valued] at inside

theorem not_mem_ending (mark : Mark) : '<' ∉ mark.ending.toList := by
  cases mark <;> simp [ending]

end Mark

/-! ## Marked texts -/

/-- What a document is written with. -/
inductive Token where
  | text (content : List Char)
  | lineEnd
  | mark (tag : Mark)

namespace Token

def chars : Token → List Char
  | .text content => escapeChars content
  | .lineEnd => ['\n']
  | .mark tag => tag.chars

@[simp] theorem chars_lineEnd : lineEnd.chars = ['\n'] := rfl

@[simp] theorem chars_mark (tag : Mark) : (mark tag).chars = tag.chars := rfl

/-- The texts that are shown, one after another. -/
def texts : Token → List (List Char)
  | .text content => [content]
  | .lineEnd => []
  | .mark tag => tag.texts

/-- The only opening bracket is the first character of a tag. -/
theorem exists_mark_of_mem {token : Token} {before after : List Char}
    (divided : token.chars = before ++ '<' :: after) :
    before = [] ∧ ∃ tag, token = .mark tag := by
  have opening : '<' ∈ token.chars := divided ▸ List.mem_append_right before List.mem_cons_self
  cases token with
  | text content => exact (not_mem_escapeChars content opening).elim
  | lineEnd => exact absurd opening (by decide : '<' ∉ ['\n'])
  | mark tag =>
      refine ⟨?_, tag, rfl⟩
      cases before with
      | nil => rfl
      | cons first before =>
          rw [chars, Mark.chars, List.cons_append] at divided
          have inside : '<' ∈ before ++ '<' :: after :=
            List.mem_append_right before List.mem_cons_self
          rw [← (List.cons.inj divided).2, List.mem_append, List.mem_append] at inside
          rcases inside with (inName | inAttributes) | inEnding
          · exact (tag.not_mem_name inName).elim
          · exact (tag.not_mem_attributes inAttributes).elim
          · exact (tag.not_mem_ending inEnding).elim

end Token

/-- Each opening bracket begins a tag. -/
theorem exists_mark {tokens : List Token} {before after : List Char}
    (divided : tokens.flatMap Token.chars = before ++ '<' :: after) :
    ∃ tag rest, Token.mark tag ∈ tokens ∧ '<' :: after = tag.chars ++ rest := by
  induction tokens generalizing before with
  | nil => simp at divided
  | cons token tokens induction =>
      have later : ∀ before, tokens.flatMap Token.chars = before ++ '<' :: after →
          ∃ tag rest, Token.mark tag ∈ token :: tokens ∧ '<' :: after = tag.chars ++ rest := by
        intro before divided
        obtain ⟨tag, rest, member, same⟩ := induction divided
        exact ⟨tag, rest, List.mem_cons_of_mem token member, same⟩
      rw [List.flatMap_cons, List.append_eq_append_iff] at divided
      rcases divided with ⟨between, _, others⟩ | ⟨inside, whole, others⟩
      · exact later between others
      · cases inside with
        | nil => exact later [] others.symm
        | cons first inside =>
            obtain ⟨rfl, rest⟩ := List.cons.inj others
            obtain ⟨rfl, tag, rfl⟩ := Token.exists_mark_of_mem whole
            refine ⟨tag, tokens.flatMap Token.chars, List.mem_cons_self, ?_⟩
            rw [others, ← List.nil_append ('<' :: inside), ← whole, Token.chars]

end DocsConsole.Html
