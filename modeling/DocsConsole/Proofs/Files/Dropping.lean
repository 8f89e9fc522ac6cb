import DocsConsole.Files.Drop

/-!
# How paths are written in a dropped text

A word is written piece by piece: bare, after a backslash, or between quotes.  Words stand
between white space, and the end of the text may come while a quote is open or right after a
backslash.  Every text is written in this way, and the reader finds the contents of its words.
-/

namespace DocsConsole.Drop

/-! ## Written words -/

/-- The two kinds of quotes. -/
inductive Quote where
  | single
  | double
deriving DecidableEq, Repr

/-- The character that begins and ends a quotation. -/
def Quote.mark : Quote → Char
  | .single => '\x27'
  | .double => '\x22'

/-- A character that stands for itself outside quotes. -/
structure IsBare (c : Char) : Prop where
  notQuote : ∀ quote : Quote, c ≠ quote.mark
  notBackslash : c ≠ '\\'
  notSpace : Unicode.isSpace c = false

/-- A part of a word. -/
inductive Piece where
  /-- Characters that stand for themselves. -/
  | bare (run : List Char) (plain : ∀ c ∈ run, IsBare c)
  /-- Any character after a backslash. -/
  | escaped (c : Char)
  /-- Characters between quotes of one kind. -/
  | quoted (quote : Quote) (run : List Char) (inside : quote.mark ∉ run)

namespace Piece

def chars : Piece → List Char
  | bare run _ => run
  | escaped c => ['\\', c]
  | quoted quote run _ => quote.mark :: run ++ [quote.mark]

def content : Piece → List Char
  | bare run _ => run
  | escaped c => [c]
  | quoted _ run _ => run

end Piece

structure Word where
  pieces : List Piece
  nonempty : pieces ≠ []

def Word.chars (word : Word) : List Char :=
  word.pieces.flatMap Piece.chars

def Word.content (word : Word) : List Char :=
  word.pieces.flatMap Piece.content

/-- White space after a word. -/
structure Gap where
  chars : List Char
  blank : ∀ c ∈ chars, Unicode.isSpace c = true
  nonempty : chars ≠ []

/-- How a text ends after its last piece. -/
inductive Ending where
  | complete
  /-- A quotation that is not closed. -/
  | openQuote (quote : Quote) (run : List Char) (inside : quote.mark ∉ run)
  | loneBackslash

namespace Ending

def chars : Ending → List Char
  | complete => []
  | openQuote quote run _ => quote.mark :: run
  | loneBackslash => ['\\']

def content : Ending → List Char
  | openQuote _ run _ => run
  | _ => []

end Ending

/-- A text as words.  The pieces of the last word are apart from the words that white space
follows, and there are none if the text ends in white space. -/
structure Writing where
  lead : List Char
  blank : ∀ c ∈ lead, Unicode.isSpace c = true
  words : List (Word × Gap)
  last : List Piece
  ending : Ending

namespace Writing

def chars (writing : Writing) : List Char :=
  writing.lead ++ writing.words.flatMap (fun (word, gap) => word.chars ++ gap.chars) ++
    writing.last.flatMap Piece.chars ++ writing.ending.chars

def contents (writing : Writing) : List (List Char) :=
  writing.words.map (fun (word, _) => word.content) ++
    [writing.last.flatMap Piece.content ++ writing.ending.content]

/-- The text that is written. -/
def text (writing : Writing) : String :=
  String.ofList writing.chars

/-- The words of a writing, without those that have no content. -/
def names (writing : Writing) : List String :=
  (writing.contents.filter (· ≠ [])).map String.ofList

end Writing

/-! ## Reading -/

theorem Quote.notSpace (quote : Quote) : Unicode.isSpace quote.mark = false := by
  cases quote <;> decide

theorem not_quote_or_of_ne {c : Char} (different : ∀ quote : Quote, c ≠ quote.mark) :
    ¬(c = '\x27' ∨ c = '\x22') := by
  rintro (single | double)
  · exact different .single single
  · exact different .double double

theorem ne_mark_of_isSpace {c : Char} (blank : Unicode.isSpace c = true) (quote : Quote) :
    c ≠ quote.mark := by
  rintro rfl
  rw [quote.notSpace] at blank
  contradiction

theorem ne_backslash_of_isSpace {c : Char} (blank : Unicode.isSpace c = true) : c ≠ '\\' := by
  rintro rfl
  exact absurd blank (by decide)

/-- The words with content that are read in a word of which something has been read. -/
def found (current text : List Char) : List (List Char) :=
  (wordsFrom .word current text).filter (· ≠ [])

/-- Between words the reader finds the same as at the beginning of a word: the two differ in a
word without content. -/
theorem filter_wordsFrom_between (text : List Char) :
    (wordsFrom .between [] text).filter (· ≠ []) = found [] text := by
  unfold found
  cases text with
  | nil => rfl
  | cons c rest =>
      rw [wordsFrom.eq_def .between, wordsFrom.eq_def .word]
      simp only
      split
      case isTrue => rfl
      case isFalse =>
        split
        case isTrue => rfl
        case isFalse =>
          split
          case isTrue => rfl
          case isFalse => rfl

theorem found_nil (current : List Char) :
    found current [] = [current.reverse].filter (· ≠ []) := rfl

/-- A backslash at the end adds nothing. -/
theorem found_backslash (current : List Char) : found current ['\\'] = found current [] := by
  have notQuote : ¬('\\' = '\x27' ∨ '\\' = '\x22') := by decide
  rw [found_nil, found, wordsFrom.eq_def]
  simp only [if_neg notQuote, if_true]

theorem found_escaped (current : List Char) (c : Char) (rest : List Char) :
    found current ('\\' :: c :: rest) = found (c :: current) rest := by
  have notQuote : ¬('\\' = '\x27' ∨ '\\' = '\x22') := by decide
  rw [found, wordsFrom.eq_def]
  simp only [if_neg notQuote, if_true]
  rfl

theorem found_bare {c : Char} (plain : IsBare c) (current rest : List Char) :
    found current (c :: rest) = found (c :: current) rest := by
  rw [found, wordsFrom.eq_def]
  simp only [if_neg (not_quote_or_of_ne plain.notQuote), if_neg plain.notBackslash,
    plain.notSpace]
  rfl

/-- White space ends the word. -/
theorem found_blank {c : Char} (blank : Unicode.isSpace c = true) (current rest : List Char) :
    found current (c :: rest) = found current [] ++ found [] rest := by
  rw [found, wordsFrom.eq_def]
  simp only [if_neg (not_quote_or_of_ne (ne_mark_of_isSpace blank)),
    if_neg (ne_backslash_of_isSpace blank), blank, if_true]
  rw [← List.singleton_append, List.filter_append, filter_wordsFrom_between, found_nil]

theorem found_quote (quote : Quote) (current rest : List Char) :
    found current (quote.mark :: rest) =
      (wordsFrom (.quotes quote.mark) current rest).filter (· ≠ []) := by
  have isQuote : quote.mark = '\x27' ∨ quote.mark = '\x22' := by
    cases quote with
    | single => exact Or.inl rfl
    | double => exact Or.inr rfl
  rw [found, wordsFrom.eq_def]
  simp only [if_pos isQuote]

/-- What stands in quotes is read as it is. -/
theorem wordsFrom_quotes {mark : Char} {run : List Char} (inside : mark ∉ run)
    (current rest : List Char) :
    wordsFrom (.quotes mark) current (run ++ rest) =
      wordsFrom (.quotes mark) (run.reverse ++ current) rest := by
  induction run generalizing current with
  | nil => rfl
  | cons c run induction =>
      rw [List.mem_cons, not_or] at inside
      rw [List.cons_append, wordsFrom.eq_def]
      simp only [if_neg (Ne.symm inside.1)]
      rw [induction inside.2, List.reverse_cons, List.append_assoc, List.singleton_append]

theorem wordsFrom_closed (mark : Char) (current rest : List Char) :
    wordsFrom (.quotes mark) current (mark :: rest) = wordsFrom .word current rest := by
  rw [wordsFrom.eq_def]
  simp only [if_true]

/-- A piece adds its content to the word. -/
theorem found_piece (piece : Piece) (current rest : List Char) :
    found current (piece.chars ++ rest) = found (piece.content.reverse ++ current) rest := by
  cases piece with
  | bare run plain =>
      simp only [Piece.chars, Piece.content]
      induction run generalizing current with
      | nil => rfl
      | cons c run induction =>
          have others := induction (c :: current)
            fun other member => plain other (List.mem_cons_of_mem c member)
          rw [List.cons_append, found_bare (plain c List.mem_cons_self), others,
            List.reverse_cons, List.append_assoc, List.singleton_append]
  | escaped c => exact found_escaped current c rest
  | quoted quote run inside =>
      simp only [Piece.chars, Piece.content, List.cons_append, List.append_assoc]
      rw [found_quote, wordsFrom_quotes inside, wordsFrom_closed, found, List.nil_append]

theorem found_pieces (pieces : List Piece) (current rest : List Char) :
    found current (pieces.flatMap Piece.chars ++ rest) =
      found ((pieces.flatMap Piece.content).reverse ++ current) rest := by
  induction pieces generalizing current with
  | nil => rfl
  | cons piece pieces induction =>
      rw [List.flatMap_cons, List.append_assoc, found_piece, induction, List.flatMap_cons,
        List.reverse_append, List.append_assoc]

theorem found_ending (ending : Ending) (current : List Char) :
    found current ending.chars = found (ending.content.reverse ++ current) [] := by
  cases ending with
  | complete => rfl
  | openQuote quote run inside =>
      have read := wordsFrom_quotes inside current []
      rw [List.append_nil] at read
      rw [Ending.chars, found_quote, read]
      rfl
  | loneBackslash => exact found_backslash current

theorem found_lead {lead : List Char} (blank : ∀ c ∈ lead, Unicode.isSpace c = true)
    (rest : List Char) : found [] (lead ++ rest) = found [] rest := by
  induction lead with
  | nil => rfl
  | cons c lead induction =>
      have others := induction fun other member => blank other (List.mem_cons_of_mem c member)
      rw [List.cons_append, found_blank (blank c List.mem_cons_self), others]
      rfl

theorem found_gap (gap : Gap) (current rest : List Char) :
    found current (gap.chars ++ rest) = found current [] ++ found [] rest := by
  obtain ⟨chars, blank, nonempty⟩ := gap
  cases chars with
  | nil => exact (nonempty rfl).elim
  | cons c chars =>
      have others := found_lead
        (fun other member => blank other (List.mem_cons_of_mem c member)) rest
      rw [List.cons_append, found_blank (blank c List.mem_cons_self), others]

theorem found_word (word : Word) (gap : Gap) (rest : List Char) :
    found [] (word.chars ++ gap.chars ++ rest) =
      [word.content].filter (· ≠ []) ++ found [] rest := by
  rw [List.append_assoc, Word.chars, found_pieces, found_gap, found_nil, List.append_nil,
    List.reverse_reverse, Word.content]

theorem found_words (words : List (Word × Gap)) (rest : List Char) :
    found [] (words.flatMap (fun (word, gap) => word.chars ++ gap.chars) ++ rest) =
      (words.map fun (word, _) => word.content).filter (· ≠ []) ++ found [] rest := by
  induction words with
  | nil => rfl
  | cons entry words induction =>
      rw [List.flatMap_cons, List.append_assoc, found_word, induction, List.map_cons,
        ← List.append_assoc, ← List.filter_append, List.singleton_append]

/-- The reader finds the contents of the words. -/
theorem found_writing (writing : Writing) :
    found [] writing.chars = writing.contents.filter (· ≠ []) := by
  rw [Writing.chars, List.append_assoc, List.append_assoc, found_lead writing.blank, found_words,
    found_pieces, found_ending, found_nil, Writing.contents, List.filter_append, List.append_nil,
    ← List.reverse_append, List.reverse_reverse]

theorem paths_eq_map_found (home text : String) :
    paths home text = ((found [] text.toList).map String.ofList).map (pathOf home) := by
  have same : ∀ word : List Char, decide (String.ofList word ≠ "") = decide (word ≠ []) := by
    intro word
    apply decide_eq_decide.mpr
    apply not_congr
    constructor
    · intro empty
      exact String.ofList_injective empty
    · rintro rfl
      rfl
  rw [paths, words, List.filter_map, ← filter_wordsFrom_between]
  congr 2
  apply List.filter_congr
  intro word _
  exact same word

theorem paths_writing (home : String) (writing : Writing) :
    paths home writing.text = writing.names.map (pathOf home) := by
  rw [paths_eq_map_found, Writing.text, String.toList_ofList, found_writing, Writing.names]

/-- White space parts a text, unless it is quoted or escaped: the paths before it and those after
it are the paths of the whole. -/
theorem paths_gap (home : String) {front : Writing} (complete : front.ending = .complete)
    (gap : Gap) (rest : String) :
    paths home (front.text ++ String.ofList gap.chars ++ rest) =
      paths home front.text ++ paths home rest := by
  have apart : found [] (front.chars ++ (gap.chars ++ rest.toList)) =
      found [] front.chars ++ found [] rest.toList := by
    have ended : front.ending.chars = [] := by rw [complete]; rfl
    simp only [Writing.chars, ended, List.append_nil, List.append_assoc]
    rw [found_lead front.blank, found_words, found_pieces, found_gap, found_lead front.blank,
      found_words]
    have last := found_pieces front.last [] []
    rw [List.append_nil] at last
    rw [last, List.append_assoc]
  simp only [paths_eq_map_found, Writing.text, String.toList_append, String.toList_ofList,
    List.append_assoc, apart, List.map_append]

/-! ## Every text is written -/

namespace Writing

/-- The writing with a piece before it. -/
def consPiece (piece : Piece) (writing : Writing) : Writing :=
  match writing with
  | ⟨c :: lead, blank, words, last, ending⟩ =>
      ⟨[], fun _ member => (List.not_mem_nil member).elim,
        (⟨[piece], List.cons_ne_nil _ _⟩, ⟨c :: lead, blank, List.cons_ne_nil _ _⟩) :: words,
        last, ending⟩
  | ⟨[], blank, (word, gap) :: words, last, ending⟩ =>
      ⟨[], blank, (⟨piece :: word.pieces, List.cons_ne_nil _ _⟩, gap) :: words, last, ending⟩
  | ⟨[], blank, [], last, ending⟩ => ⟨[], blank, [], piece :: last, ending⟩

theorem chars_consPiece (piece : Piece) (writing : Writing) :
    (consPiece piece writing).chars = piece.chars ++ writing.chars := by
  obtain ⟨lead, blank, words, last, ending⟩ := writing
  cases lead with
  | cons c lead => simp [consPiece, chars, Word.chars]
  | nil =>
      cases words with
      | nil => simp [consPiece, chars]
      | cons entry words => simp [consPiece, chars, Word.chars]

/-- The writing with white space before it. -/
def consBlank {c : Char} (blank : Unicode.isSpace c = true) (writing : Writing) : Writing :=
  { writing with
    lead := c :: writing.lead
    blank := List.forall_mem_cons.mpr ⟨blank, writing.blank⟩ }

/-- A text that only ends. -/
def ofEnding (ending : Ending) : Writing :=
  ⟨[], fun _ member => (List.not_mem_nil member).elim, [], [], ending⟩

end Writing

/-- A text ends, or it goes on after white space or after a piece of a word. -/
@[elab_as_elim]
theorem text_induction {motive : List Char → Prop}
    (ending : ∀ ending : Ending, motive ending.chars)
    (blank : ∀ (c : Char) (rest : List Char), Unicode.isSpace c = true → motive rest →
      motive (c :: rest))
    (piece : ∀ (piece : Piece) (rest : List Char), motive rest → motive (piece.chars ++ rest)) :
    ∀ text, motive text
  | [] => ending .complete
  | c :: rest => by
      by_cases space : Unicode.isSpace c = true
      · exact blank c rest space (text_induction ending blank piece rest)
      · by_cases backslash : c = '\\'
        · subst backslash
          cases rest with
          | nil => exact ending .loneBackslash
          | cons next more =>
              exact piece (.escaped next) more (text_induction ending blank piece more)
        · by_cases quotes : ∃ quote : Quote, c = quote.mark
          · obtain ⟨quote, rfl⟩ := quotes
            by_cases closed : quote.mark ∈ rest
            · obtain ⟨run, more, rfl, inside⟩ := List.eq_append_cons_of_mem closed
              have goesOn := piece (.quoted quote run inside) more
                (text_induction ending blank piece more)
              simpa [Piece.chars] using goesOn
            · exact ending (.openQuote quote rest closed)
          · have plain : IsBare c := by
              constructor
              · intro quote same
                exact quotes ⟨quote, same⟩
              · exact backslash
              · exact Bool.eq_false_iff.mpr space
            have alone : ∀ other ∈ [c], IsBare other := List.forall_mem_singleton.mpr plain
            exact piece (.bare [c] alone) rest (text_induction ending blank piece rest)
termination_by text => text.length

theorem exists_writing (text : List Char) : ∃ writing : Writing, writing.chars = text := by
  induction text using text_induction with
  | ending ending => exact ⟨.ofEnding ending, by simp [Writing.ofEnding, Writing.chars]⟩
  | blank c rest space induction =>
      obtain ⟨writing, rfl⟩ := induction
      exact ⟨writing.consBlank space, rfl⟩
  | piece piece rest induction =>
      obtain ⟨writing, rfl⟩ := induction
      exact ⟨writing.consPiece piece, writing.chars_consPiece piece⟩

/-! ## Names with a backslash before each character -/

/-- A name with a backslash before each of its characters. -/
def escaped (name : String) : String :=
  String.ofList (name.toList.flatMap fun c => ['\\', c])

theorem found_escaped_name (name : String) (rest : List Char) :
    found [] ((escaped name).toList ++ rest) = found name.toList.reverse rest := by
  have read := found_pieces (name.toList.map Piece.escaped) [] rest
  rw [List.flatMap_map, List.flatMap_map, List.append_nil] at read
  rw [escaped, String.toList_ofList]
  exact read.trans (by simp [Piece.content])

theorem found_names {names : List String} (given : ∀ name ∈ names, name ≠ "") :
    found [] (" ".intercalate (names.map escaped)).toList = names.map String.toList := by
  have separator : " ".toList = [' '] := by decide
  rw [String.toList_intercalate, separator]
  induction names with
  | nil => rfl
  | cons name names induction =>
      have content : name.toList ≠ [] := by
        rw [Ne, String.toList_eq_nil_iff]
        exact given name List.mem_cons_self
      have ends : found name.toList.reverse [] = [name.toList] := by
        rw [found_nil, List.reverse_reverse]
        simp [content]
      cases names with
      | nil =>
          have read := found_escaped_name name []
          rw [List.append_nil] at read
          simp only [List.map_cons, List.map_nil, List.intercalate_singleton]
          rw [read, ends]
      | cons next names =>
          have others := induction fun other member =>
            given other (List.mem_cons_of_mem name member)
          simp only [List.map_cons] at others ⊢
          have blank : Unicode.isSpace ' ' = true := by decide
          rw [List.intercalate_cons_cons, List.append_assoc, found_escaped_name,
            List.singleton_append, found_blank blank, ends, others, List.singleton_append]

/-- The paths of a dropped text are those of the words in it that have content, however the words
are written, and every text is some writing.  With a backslash before each of their characters,
any names are read back. -/
theorem paths_writings (home : String) :
    (∀ writing : Writing, paths home writing.text = writing.names.map (pathOf home)) ∧
      (∀ text : String, ∃ writing : Writing, writing.text = text) ∧
      ∀ names : List String, (∀ name ∈ names, name ≠ "") →
        paths home (" ".intercalate (names.map escaped)) = names.map (pathOf home) := by
  refine ⟨paths_writing home, ?_, ?_⟩
  · intro text
    obtain ⟨writing, written⟩ := exists_writing text.toList
    exact ⟨writing, by rw [Writing.text, written, String.ofList_toList]⟩
  · intro names given
    rw [paths_eq_map_found, found_names given]
    simp

theorem paths_writings_of_trickyNames :
    (∀ name ∈ ["it's", "a \\ b", "\x22\n\x22"], name ≠ "") ∧
      paths "/home" (" ".intercalate (["it's", "a \\ b", "\x22\n\x22"].map escaped)) =
        ["it's", "a \\ b", "\x22\n\x22"].map (pathOf "/home") :=
  have given : ∀ name ∈ ["it's", "a \\ b", "\x22\n\x22"], name ≠ "" := by decide
  ⟨given, (paths_writings "/home").2.2 _ given⟩

end DocsConsole.Drop
