import DocsConsole.Proofs.Files.Dropping
import DocsConsole.Proofs.Text.Utf8

/-!
# Paths that are read back as they are

A path need not be a text that reads as this path: white space in it divides it, quotes and
backslashes are taken away, and a leading `~` and the address of a file stand for other paths.
Without all these a path is read back.  There are no other paths like that: what the reader
takes away makes a word shorter, and home and the addresses of files only give paths that begin
at the root.
-/

namespace DocsConsole

/-! ## Addresses name paths from the root on -/

namespace FilePath

theorem isAbsolute_iff {path : FilePath} :
    path.isAbsolute = true ↔ path.toList.head? = some '/' := by
  rw [isAbsolute, decide_eq_true_iff]

theorem isAbsolute_append {path : FilePath} (absolute : path.isAbsolute = true) (rest : String) :
    FilePath.isAbsolute (path ++ rest) = true := by
  rw [isAbsolute_iff] at absolute ⊢
  rw [String.toList_append, List.head?_append, absolute]
  rfl

/-- A text begins at the home directory. -/
def AtHome (text : String) : Prop :=
  text = "~" ∨ "~/".toList <+: text.toList

instance (text : String) : Decidable (AtHome text) :=
  inferInstanceAs (Decidable (_ ∨ _))

theorem expandHome_of_not_atHome {text : String} (elsewhere : ¬ AtHome text) (home : String) :
    expandHome home text = text := by
  unfold expandHome
  split
  case h_1 whole => exact absurd (Or.inl (String.toList_injective whole)) elsewhere
  case h_2 rest whole =>
    have inside : "~/".toList <+: text.toList := ⟨rest, whole.symm⟩
    exact absurd (Or.inr inside) elsewhere
  case h_3 => rfl

theorem expandHome_of_atHome {home text : String} (absolute : FilePath.isAbsolute home = true)
    (atHome : AtHome text) :
    text.toList.head? = some '~' ∧ (expandHome home text).isAbsolute = true := by
  rcases atHome with rfl | ⟨rest, whole⟩
  · exact ⟨rfl, absolute⟩
  · unfold expandHome
    rw [← whole]
    exact ⟨rfl, isAbsolute_append absolute _⟩

end FilePath

namespace Web

theorem head_of_readPath {state : PathState} {source path : List Char}
    (read : some (readPath true state source).written = some path) : path.head? = some '/' := by
  rw [← Option.some.inj read]
  rfl

theorem fileAddressPath?_head {address path : List Char}
    (named : fileAddressPath? address = some path) : path.head? = some '/' := by
  unfold fileAddressPath? at named
  split at named
  case h_1 => contradiction
  case h_2 rest _ =>
    dsimp only at named
    split at named
    case isTrue => exact head_of_readPath named
    case isFalse =>
      split at named
      case isTrue => exact head_of_readPath named
      case isFalse =>
        split at named
        case h_1 => contradiction
        case h_2 => exact head_of_readPath named
        case h_3 =>
          obtain ⟨_, read⟩ := Option.ite_none_left_eq_some.mp named
          exact head_of_readPath read

theorem percentDecodeBytes_slash (bytes : List UInt8) :
    percentDecodeBytes (0x2F :: bytes) = 0x2F :: percentDecodeBytes bytes := by
  rw [percentDecodeBytes]
  intro _ _ _ percent
  exact absurd percent (by decide)

theorem replacing_percentDecode_head (rest : List Char) :
    (Utf8.replacing (percentDecode (String.ofList ('/' :: rest)))).toList.head? = some '/' := by
  have bytes : (String.ofList ('/' :: rest)).toUTF8.data.toList =
      0x2F :: rest.flatMap String.utf8EncodeChar := by
    rw [Utf8.toUTF8_toList, String.toList_ofList, List.flatMap_cons]
    rfl
  have slash : Utf8.decodeFrom none (0x2F :: percentDecodeBytes (rest.flatMap String.utf8EncodeChar))
      = some '/' :: _ := @Utf8.decodeFrom_one 0x2F _ (by decide)
  rw [Utf8.replacing, String.toList_ofList, Utf8.decode, percentDecode, bytes,
    percentDecodeBytes_slash, slash]
  rfl

/-- The address of a file names a path that begins at the root. -/
theorem filePath?_isAbsolute {address : String} {path : FilePath}
    (named : filePath? address = some path) : path.isAbsolute = true := by
  obtain ⟨written, read, rfl⟩ := Option.map_eq_some_iff.mp named
  have slash := fileAddressPath?_head read
  cases written with
  | nil => contradiction
  | cons c rest =>
      obtain rfl : c = '/' := Option.some.inj slash
      have absolute := FilePath.isAbsolute_iff.mpr (replacing_percentDecode_head rest)
      dsimp only
      split
      · exact FilePath.isAbsolute_append absolute "/"
      · exact absolute

end Web

namespace Drop

/-! ## Words and the text they are read from -/

theorem Piece.length_content_le (piece : Piece) : piece.content.length ≤ piece.chars.length := by
  cases piece with
  | bare run plain => exact Nat.le_refl _
  | escaped c => simp [content, chars]
  | quoted quote run inside =>
      simp only [content, chars, List.length_append, List.length_cons]
      omega

theorem Piece.bare_of_length_content {piece : Piece}
    (same : piece.content.length = piece.chars.length) : ∀ c ∈ piece.chars, IsBare c := by
  cases piece with
  | bare run plain => exact plain
  | escaped c => simp [content, chars] at same
  | quoted quote run inside =>
      simp only [content, chars, List.length_append, List.length_cons] at same
      omega

theorem Ending.length_content_le (ending : Ending) :
    ending.content.length ≤ ending.chars.length := by
  cases ending with
  | complete => exact Nat.le_refl _
  | openQuote quote run inside => exact Nat.le_succ _
  | loneBackslash => exact Nat.zero_le _

theorem Ending.bare_of_length_content {ending : Ending}
    (same : ending.content.length = ending.chars.length) : ∀ c ∈ ending.chars, IsBare c := by
  cases ending with
  | complete => exact List.forall_mem_nil _
  | openQuote quote run inside =>
      simp only [content, chars, List.length_cons] at same
      omega
  | loneBackslash => simp [content, chars] at same

theorem eq_of_mem_found_nil {current word : List Char} (member : word ∈ found current []) :
    word = current.reverse := by
  rw [found_nil] at member
  exact List.mem_singleton.mp (List.mem_filter.mp member).1

/-- No word is longer than the text that it is read from. -/
theorem length_le_of_mem_found {current text word : List Char}
    (member : word ∈ found current text) : word.length ≤ current.length + text.length := by
  induction text using text_induction generalizing current with
  | ending ending =>
      have content := ending.length_content_le
      rw [found_ending] at member
      rw [eq_of_mem_found_nil member, List.length_reverse, List.length_append,
        List.length_reverse]
      omega
  | blank c rest space induction =>
      rw [found_blank space, List.mem_append] at member
      rcases member with ended | later
      · rw [eq_of_mem_found_nil ended, List.length_reverse]
        omega
      · have short := induction later
        simp only [List.length_nil, List.length_cons] at short ⊢
        omega
  | piece piece rest induction =>
      have content := piece.length_content_le
      rw [found_piece] at member
      have short := induction member
      rw [List.length_append, List.length_reverse] at short
      rw [List.length_append]
      omega

/-- A word is as long as the text that it is read from only if all characters stand for
themselves. -/
theorem bare_of_mem_found {current text word : List Char} (member : word ∈ found current text)
    (same : word.length = current.length + text.length) : ∀ c ∈ text, IsBare c := by
  induction text using text_induction generalizing current with
  | ending ending =>
      rw [found_ending] at member
      rw [eq_of_mem_found_nil member, List.length_reverse, List.length_append,
        List.length_reverse] at same
      exact Ending.bare_of_length_content (by omega)
  | blank c rest space induction =>
      rw [found_blank space, List.mem_append] at member
      rw [List.length_cons] at same
      rcases member with ended | later
      · rw [eq_of_mem_found_nil ended, List.length_reverse] at same
        omega
      · have short := length_le_of_mem_found later
        rw [List.length_nil] at short
        omega
  | piece piece rest induction =>
      have content := piece.length_content_le
      rw [found_piece] at member
      have short := length_le_of_mem_found member
      rw [List.length_append, List.length_reverse] at short
      rw [List.length_append] at same
      rw [List.forall_mem_append]
      constructor
      · exact Piece.bare_of_length_content (by omega)
      · apply induction member
        rw [List.length_append, List.length_reverse]
        omega

theorem found_nil_of_begun {current : List Char} (begun : current ≠ []) :
    found current [] = [current.reverse] := by
  rw [found_nil]
  simp [begun]

/-- The first word begins with what has been read of it. -/
theorem prefix_of_head_found {current text word : List Char} (begun : current ≠ [])
    (first : (found current text).head? = some word) : current.reverse <+: word := by
  induction text using text_induction generalizing current with
  | ending ending =>
      rw [found_ending] at first
      rw [eq_of_mem_found_nil (List.mem_of_head? first), List.reverse_append]
      simp
  | blank c rest space induction =>
      rw [found_blank space, found_nil_of_begun begun] at first
      obtain rfl : current.reverse = word := Option.some.inj first
      exact List.prefix_rfl
  | piece piece rest induction =>
      rw [found_piece] at first
      have longer := induction (List.append_ne_nil_of_right_ne_nil _ begun) first
      rw [List.reverse_append] at longer
      exact (List.prefix_append _ _).trans longer

/-! ## Plain paths -/

theorem isBare_iff {c : Char} :
    IsBare c ↔ (c ≠ '\x27' ∧ c ≠ '\x22') ∧ c ≠ '\\' ∧ Unicode.isSpace c = false := by
  constructor
  · intro plain
    exact ⟨⟨plain.notQuote .single, plain.notQuote .double⟩, plain.notBackslash, plain.notSpace⟩
  · rintro ⟨⟨single, double⟩, backslash, space⟩
    refine ⟨?_, backslash, space⟩
    intro quote
    cases quote with
    | single => exact single
    | double => exact double

instance : DecidablePred IsBare := fun _ => decidable_of_iff _ isBare_iff.symm

/-- A word that stands for itself as a path. -/
structure NamesItself (word : String) : Prop where
  notAtHome : ¬ FilePath.AtHome word
  notAddress : "file://".toList <+: word.toList → Web.filePath? word = none

/-- A path that a dropped text can hold as it is. -/
structure PlainPath (path : FilePath) : Prop extends NamesItself path where
  nonempty : path ≠ ""
  bare : ∀ c ∈ path.toList, IsBare c

theorem plainPath_iff {path : FilePath} :
    PlainPath path ↔
      (¬ FilePath.AtHome path ∧ ("file://".toList <+: path.toList → Web.filePath? path = none)) ∧
        path ≠ "" ∧ path.toList.all (IsBare ·) = true := by
  rw [List.all_eq_true]
  constructor
  · intro plain
    exact ⟨⟨plain.notAtHome, plain.notAddress⟩, plain.nonempty,
      fun c member => decide_eq_true (plain.bare c member)⟩
  · rintro ⟨⟨notAtHome, notAddress⟩, nonempty, bare⟩
    exact ⟨⟨notAtHome, notAddress⟩, nonempty, fun c member => of_decide_eq_true (bare c member)⟩

instance : DecidablePred PlainPath := fun _ => decidable_of_iff _ plainPath_iff.symm

variable {home : String}

theorem pathOf_of_not_address {word : String}
    (notAddress : "file://".toList <+: word.toList → Web.filePath? word = none) :
    pathOf home word = FilePath.expandHome home word := by
  unfold pathOf
  split
  case isTrue address =>
    rw [notAddress (String.startsWith_string_iff.mp address), Option.getD_none]
  case isFalse => rfl

theorem NamesItself.pathOf {word : String} (itself : NamesItself word) :
    Drop.pathOf home word = word := by
  rw [pathOf_of_not_address itself.notAddress,
    FilePath.expandHome_of_not_atHome itself.notAtHome]

/-- A word that stands for another path does not begin at the root, and that path does. -/
theorem pathOf_of_not_namesItself (absolute : FilePath.isAbsolute home = true) {word : String}
    (other : ¬ NamesItself word) :
    word.toList.head? ≠ some '/' ∧ (pathOf home word).isAbsolute = true := by
  by_cases notAddress : "file://".toList <+: word.toList → Web.filePath? word = none
  · have atHome : FilePath.AtHome word := by
      apply Decidable.byContradiction
      intro elsewhere
      exact other ⟨elsewhere, notAddress⟩
    obtain ⟨tilde, rooted⟩ := FilePath.expandHome_of_atHome absolute atHome
    rw [pathOf_of_not_address notAddress, tilde]
    exact ⟨by decide, rooted⟩
  · obtain ⟨address, names⟩ := Classical.not_imp.mp notAddress
    obtain ⟨path, named⟩ := Option.ne_none_iff_exists'.mp names
    have opens : "file://".isPrefixOf word = true := String.startsWith_string_iff.mpr address
    obtain ⟨rest, whole⟩ := address
    rw [pathOf, if_pos opens, named, Option.getD_some, ← whole]
    exact ⟨by simp, Web.filePath?_isAbsolute named⟩

variable {path : FilePath}

theorem PlainPath.paths (plain : PlainPath path) : Drop.paths home path = [path] := by
  have word : found [] path.toList = [path.toList] := by
    have read := found_piece (.bare path.toList plain.bare) [] []
    simp only [Piece.chars, Piece.content, List.append_nil] at read
    have begun : path.toList.reverse ≠ [] := by
      simpa using plain.nonempty
    rw [read, found_nil_of_begun begun, List.reverse_reverse]
  rw [paths_eq_map_found, word]
  simp only [List.map_cons, List.map_nil, String.ofList_toList, plain.toNamesItself.pathOf]

/-- The first word stands for itself: another path would begin at the root, and then so would
the word. -/
theorem namesItself_of_head_found (absolute : FilePath.isAbsolute home = true) {word : List Char}
    (first : (found [] path.toList).head? = some word)
    (read : pathOf home (String.ofList word) = path) : NamesItself (String.ofList word) := by
  apply Classical.byContradiction
  intro other
  obtain ⟨elsewhere, rooted⟩ := pathOf_of_not_namesItself absolute other
  rw [String.toList_ofList] at elsewhere
  rw [read, FilePath.isAbsolute_iff] at rooted
  obtain ⟨rest, whole⟩ := List.head?_eq_some_iff.mp rooted
  have slash : IsBare '/' := by decide
  rw [whole, found_bare slash] at first
  obtain ⟨more, rfl⟩ := prefix_of_head_found (List.cons_ne_nil _ _) first
  exact elsewhere rfl

/-- If a text is read as the path that it is itself, then nothing in it is special. -/
theorem plainPath_of_head_paths (absolute : FilePath.isAbsolute home = true)
    (first : (Drop.paths home path).head? = some path) : PlainPath path := by
  rw [paths_eq_map_found, List.map_map, List.head?_map, Option.map_eq_some_iff] at first
  obtain ⟨word, first, read⟩ := first
  have itself := namesItself_of_head_found absolute first read
  obtain rfl : String.ofList word = path := itself.pathOf.symm.trans read
  have member := List.mem_of_head? first
  have content : word ≠ [] := of_decide_eq_true (List.mem_filter.mp member).2
  refine ⟨itself, ?_, bare_of_mem_found member (by simp)⟩
  intro empty
  exact content (String.ofList_injective empty)

end Drop

end DocsConsole
