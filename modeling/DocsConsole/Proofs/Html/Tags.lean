import DocsConsole.Html.Fragment

/-!
# Markup split at its tags

Markup can be taken apart again: into the text before the first tag, and each tag with the text
after it, read back from its references.  Text that was escaped holds no tag, so it only adds to
the text after the tag before it.
-/

namespace DocsConsole.Html

/-- A tag, without its brackets, and the text after it. -/
structure Part where
  tag : String
  text : String
deriving DecidableEq, Repr

/-- Where the reader of markup stands. -/
inductive Place where
  | text
  /-- In a tag, and perhaps between the quotes of a value; with what was read of the tag. -/
  | tag (quoted : Bool) (source : List Char)

/-- The text before the first tag, and the tags with their texts. -/
def splitChars : Place → List Char → List Char × List Part
  | _, [] => ([], [])
  | .text, c :: rest =>
      if c = '<' then splitChars (.tag false []) rest
      else
        let found := splitChars .text rest
        (c :: found.1, found.2)
  | .tag quoted source, c :: rest =>
      if c = '>' ∧ quoted = false then
        let found := splitChars .text rest
        ([], ⟨String.ofList source, String.ofList (unescapeChars found.1)⟩ :: found.2)
      else splitChars (.tag (quoted != (c == '\x22')) (source ++ [c])) rest

/-- The tags of some markup, in order. -/
def tags (html : String) : List String :=
  (splitChars .text html.toList).2.map (·.tag)

/-! ## Escaped text -/

theorem unescapeChars_of_plain {c : Char} (plain : c ≠ '&') (rest : List Char) :
    unescapeChars (c :: rest) = c :: unescapeChars rest := by
  rw [unescapeChars]
  all_goals exact fun _ same _ => plain same

theorem unescapeChars_escapeChar (c : Char) (rest : List Char) :
    unescapeChars (escapeChar c ++ rest) = c :: unescapeChars rest := by
  unfold escapeChar
  split
  case isTrue same => exact same ▸ rfl
  case isFalse =>
    split
    case isTrue same => exact same ▸ rfl
    case isFalse plain =>
      split
      case isTrue same => exact same ▸ rfl
      case isFalse =>
        split
        case isTrue same => exact same ▸ rfl
        case isFalse => exact unescapeChars_of_plain plain rest

theorem unescapeChars_escapeChars (text : List Char) :
    unescapeChars (escapeChars text) = text := by
  induction text with
  | nil => rfl
  | cons c text induction =>
      have others : unescapeChars (text.flatMap escapeChar) = text := induction
      rw [escapeChars, List.flatMap_cons, unescapeChars_escapeChar, others]

/-- A text that can stand between the quotes of a value. -/
def Quotable (text : List Char) : Prop :=
  ∀ c ∈ text, c ≠ '\x22' ∧ c ≠ '<' ∧ c ≠ '>'

instance (text : List Char) : Decidable (Quotable text) :=
  List.decidableBAll _ text

theorem Quotable.append {first second : List Char} (quotable : Quotable first)
    (quotableToo : Quotable second) : Quotable (first ++ second) :=
  List.forall_mem_append.mpr ⟨quotable, quotableToo⟩

theorem quotable_flatMap {α : Type} {write : α → List Char} (each : ∀ item, Quotable (write item))
    (items : List α) : Quotable (items.flatMap write) :=
  List.forall_mem_flatMap.mpr fun item _ => each item

theorem quotable_escapeChar (c : Char) : Quotable (escapeChar c) := by
  unfold escapeChar
  split
  case isTrue => decide
  case isFalse notQuote =>
    split
    case isTrue => decide
    case isFalse =>
      split
      case isTrue => decide
      case isFalse notOpening =>
        split
        case isTrue => decide
        case isFalse notClosing =>
          rintro _ member
          rw [List.mem_singleton.mp member]
          exact ⟨notQuote, notOpening, notClosing⟩

theorem quotable_escapeChars (text : List Char) : Quotable (escapeChars text) :=
  quotable_flatMap quotable_escapeChar text

/-- An escaped text holds no tag. -/
theorem not_mem_escapeChars (text : List Char) : '<' ∉ escapeChars text :=
  fun opening => (quotable_escapeChars text '<' opening).2.1 rfl

theorem splitChars_append {text : List Char} (tagless : '<' ∉ text) (rest : List Char) :
    splitChars .text (text ++ rest) =
      (text ++ (splitChars .text rest).1, (splitChars .text rest).2) := by
  induction text with
  | nil => rfl
  | cons c text induction =>
      rw [List.mem_cons, not_or] at tagless
      rw [List.cons_append, splitChars, if_neg (Ne.symm tagless.1), induction tagless.2,
        List.cons_append]

/-! ## Parts -/

/-- Whether a tag ends where its brackets say: the quotes of its values are closed, and a closing
bracket stands only between them. -/
def closes : Bool → List Char → Bool
  | quoted, [] => !quoted
  | quoted, c :: rest =>
      if c = '>' ∧ quoted = false then false else closes (quoted != (c == '\x22')) rest

def Part.chars (part : Part) : List Char :=
  '<' :: (part.tag.toList ++ '>' :: escapeChars part.text.toList)

theorem splitChars_tag {quoted : Bool} {tag : List Char} (closed : closes quoted tag = true)
    (source rest : List Char) :
    splitChars (.tag quoted source) (tag ++ '>' :: rest) =
      ([], ⟨String.ofList (source ++ tag),
          String.ofList (unescapeChars (splitChars .text rest).1)⟩ ::
        (splitChars .text rest).2) := by
  induction tag generalizing quoted source with
  | nil =>
      have unquoted : quoted = false := by simpa [closes] using closed
      rw [List.nil_append, splitChars, if_pos ⟨rfl, unquoted⟩, List.append_nil]
  | cons c tag induction =>
      rw [closes] at closed
      split at closed
      case isTrue => contradiction
      case isFalse goesOn =>
        rw [List.cons_append, splitChars, if_neg goesOn, induction closed, List.append_assoc,
          List.singleton_append]

/-- Parts that are written one after another are read back. -/
theorem splitChars_parts {parts : List Part}
    (closed : ∀ part ∈ parts, closes false part.tag.toList = true) :
    splitChars .text (parts.flatMap Part.chars) = ([], parts) := by
  induction parts with
  | nil => rfl
  | cons part parts induction =>
      have others := induction fun other member => closed other (List.mem_cons_of_mem part member)
      have text := splitChars_append (not_mem_escapeChars part.text.toList)
        (parts.flatMap Part.chars)
      rw [others, List.append_nil] at text
      rw [List.flatMap_cons, Part.chars, List.cons_append, List.append_assoc, List.cons_append,
        splitChars, if_pos rfl, splitChars_tag (closed part List.mem_cons_self), text,
        List.nil_append, String.ofList_toList, unescapeChars_escapeChars, String.ofList_toList]

def Fragment.chars (fragment : Fragment) : List Char :=
  fragment.flatMap fun piece => piece.write.toList

namespace Fragment

theorem chars_nil : chars [] = [] := rfl

theorem chars_markup (source : String) (rest : Fragment) :
    chars (.markup source :: rest) = source.toList ++ chars rest :=
  List.flatMap_cons

theorem chars_text (content : String) (rest : Fragment) :
    chars (.text content :: rest) = escapeChars content.toList ++ chars rest := by
  rw [chars, List.flatMap_cons, Piece.write, escape, String.toList_ofList, chars]

theorem chars_append (first second : Fragment) :
    chars (first ++ second) = chars first ++ chars second :=
  List.flatMap_append

theorem toList_write (fragment : Fragment) : fragment.write.toList = fragment.chars := by
  rw [write, String.toList_join, List.flatMap_map]
  rfl

end Fragment

end DocsConsole.Html
