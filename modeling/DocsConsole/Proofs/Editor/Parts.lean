import DocsConsole.Console.Action
import DocsConsole.Proofs.Editor.Cursor
import DocsConsole.Proofs.Unicode.Trimming

/-!
# Fields as two texts

The plainest editor holds the text before the cursor and the text after it.  What each
operation makes of the two is said here without offsets, and the field, which holds one text
and an offset, does the same: its offset is always that of the division.
-/

namespace DocsConsole

/-- What is done to a field.  An action changes it by an edit or not at all. -/
inductive TextField.Operation where
  | setValue (value : String)
  | clear
  | act (action : Action)
  | up
  | down

namespace TextField

/-- Answers an action. -/
def answer (field : TextField) : Action → TextField
  | .edit change => field.edit change
  | _ => field

def perform (field : TextField) : Operation → TextField
  | .setValue value => field.setValue value
  | .clear => field.clear
  | .act action => field.answer action
  | .up => field.up
  | .down => field.down

/-- What some operations make of a new field, the last one standing first. -/
def result (kind : FieldKind) : List Operation → TextField
  | [] => .empty kind
  | operation :: earlier => (result kind earlier).perform operation

end TextField

/-- A text in two parts, with the cursor between them. -/
structure Parted where
  before : List Char
  after : List Char
deriving DecidableEq, Repr

namespace Parted

/-! ## What the operations do -/

/-- What a field takes of a pasted text: a field of one line takes the first one. -/
inductive Accepts : FieldKind → List Char → List Char → Prop
  | whole (text : List Char) : Accepts .multi text text
  | onlyLine {kind : FieldKind} (oneLine : kind ≠ .multi) {line : List Char}
      (unended : '\n' ∉ line) : Accepts kind line line
  | beforeFeed {kind : FieldKind} (oneLine : kind ≠ .multi) {line : List Char}
      (unended : '\n' ∉ line) (noReturn : line.getLast? ≠ some '\r') (rest : List Char) :
      Accepts kind (line ++ '\n' :: rest) line
  | beforeReturn {kind : FieldKind} (oneLine : kind ≠ .multi) {line : List Char}
      (unended : '\n' ∉ line) (rest : List Char) :
      Accepts kind (line ++ '\r' :: '\n' :: rest) line

/-- A text ends in a word with spaces after it, both as long as can be. -/
structure EndsInWord (kept word spaces : List Char) : Prop where
  blank : ∀ c ∈ spaces, c = ' '
  solid : ∀ c ∈ word, c ≠ ' ' ∧ c ≠ '\n'
  allSpaces : (kept ++ word).getLast? ≠ some ' '
  wholeWord : ∀ c, kept.getLast? = some c → c = ' ' ∨ c = '\n'

/-- What an edit makes of the two parts. -/
inductive Edits (kind : FieldKind) : Edit → Parted → Parted → Prop
  | typed {c : Char} (taken : c ≠ '\n' ∨ kind = .multi) (before after : List Char) :
      Edits kind (.character c) ⟨before, after⟩ ⟨before ++ [c], after⟩
  | refused (oneLine : kind ≠ .multi) (parted : Parted) :
      Edits kind (.character '\n') parted parted
  | lineEnded (lines : kind = .multi) (before after : List Char) :
      Edits kind .newline ⟨before, after⟩ ⟨before ++ ['\n'], after⟩
  | lineKept (oneLine : kind ≠ .multi) (parted : Parted) : Edits kind .newline parted parted
  | pasted {text : String} {accepted : List Char} (accepts : Accepts kind text.toList accepted)
      (before after : List Char) :
      Edits kind (.paste text) ⟨before, after⟩ ⟨before ++ accepted, after⟩
  | characterErased (before : List Char) (c : Char) (after : List Char) :
      Edits kind .eraseCharacter ⟨before ++ [c], after⟩ ⟨before, after⟩
  | nothingErased (after : List Char) : Edits kind .eraseCharacter ⟨[], after⟩ ⟨[], after⟩
  | wordErased {kept word spaces : List Char} (ends : EndsInWord kept word spaces)
      (after : List Char) :
      Edits kind .eraseWord ⟨kept ++ word ++ spaces, after⟩ ⟨kept, after⟩

/-- A line could begin after a text. -/
def StartsLine (text : List Char) : Prop :=
  ∀ c, text.getLast? = some c → c = '\n'

/-- A line could end before a text. -/
def EndsLine (text : List Char) : Prop :=
  ∀ c, text.head? = some c → c = '\n'

/-- A line is divided after its longest beginning with at most so many bytes. -/
structure DividedAt (column : Nat) (front back : List Char) : Prop where
  fits : Text.byteCount front ≤ column
  longest : ∀ c, back.head? = some c → column < Text.byteCount (front ++ [c])

/-- What an operation makes of the two parts. -/
inductive Step (kind : FieldKind) : TextField.Operation → Parted → Parted → Prop
  | valueSet (value : String) (parted : Parted) :
      Step kind (.setValue value) parted ⟨value.toList, []⟩
  | cleared (parted : Parted) : Step kind .clear parted ⟨[], []⟩
  | edited {change : Edit} {parted next : Parted} (edits : Edits kind change parted next) :
      Step kind (.act (.edit change)) parted next
  | ignored {action : Action} (noEdit : ∀ change, action ≠ .edit change) (parted : Parted) :
      Step kind (.act action) parted parted
  | raised (lines : kind = .multi) {start front back current : List Char}
      (starts : StartsLine start) (above : '\n' ∉ front ++ back) (line : '\n' ∉ current)
      (divided : DividedAt (Text.byteCount current) front back) (after : List Char) :
      Step kind .up ⟨start ++ front ++ back ++ '\n' :: current, after⟩
        ⟨start ++ front, back ++ '\n' :: current ++ after⟩
  | highest {before : List Char} (top : kind ≠ .multi ∨ '\n' ∉ before) (after : List Char) :
      Step kind .up ⟨before, after⟩ ⟨before, after⟩
  | lowered (lines : kind = .multi) {start current rest front back finish : List Char}
      (starts : StartsLine start) (line : '\n' ∉ current) (lineToo : '\n' ∉ rest)
      (below : '\n' ∉ front ++ back) (ends : EndsLine finish)
      (divided : DividedAt (Text.byteCount current) front back) :
      Step kind .down ⟨start ++ current, rest ++ '\n' :: front ++ back ++ finish⟩
        ⟨start ++ current ++ rest ++ '\n' :: front, back ++ finish⟩
  | lowest {after : List Char} (bottom : kind ≠ .multi ∨ '\n' ∉ after) (before : List Char) :
      Step kind .down ⟨before, after⟩ ⟨before, after⟩

/-- What some operations make of no text, the last one standing first. -/
inductive Reaches (kind : FieldKind) : List TextField.Operation → Parted → Prop
  | start : Reaches kind [] ⟨[], []⟩
  | next {earlier : List TextField.Operation} {parted next : Parted}
      {operation : TextField.Operation} (reaches : Reaches kind earlier parted)
      (step : Step kind operation parted next) : Reaches kind (operation :: earlier) next

/-! ## The field with an offset -/

/-- The field that holds the two parts as one text. -/
def field (kind : FieldKind) (parted : Parted) : TextField :=
  ⟨kind, parted.before ++ parted.after, Text.byteCount parted.before⟩

section

variable (kind : FieldKind) (parted : Parted)

theorem before_field : (parted.field kind).before = parted.before :=
  Text.takeBytes_byteCount_append _ _

theorem after_field : (parted.field kind).after = parted.after := by
  have whole := (parted.field kind).before_append_after
  rw [before_field] at whole
  exact List.append_cancel_left whole

theorem withBefore_field (before : List Char) :
    (parted.field kind).withBefore before = (⟨before, parted.after⟩ : Parted).field kind := by
  rw [TextField.withBefore, after_field]
  rfl

theorem insert_field (text : List Char) :
    (parted.field kind).insert text =
      (⟨parted.before ++ text, parted.after⟩ : Parted).field kind := by
  rw [TextField.insert, before_field, withBefore_field]

end

end Parted

/-! ## Pasted text -/

theorem Text.withoutReturn_cases (line : List Char) :
    (line.getLast? ≠ some '\r' ∧ withoutReturn line = line) ∨
      line = withoutReturn line ++ ['\r'] := by
  unfold withoutReturn
  split
  case isTrue ends =>
    right
    obtain ⟨front, rfl⟩ := List.getLast?_eq_some_iff.mp ends
    rw [List.dropLast_concat]
  case isFalse plain => exact Or.inl ⟨plain, rfl⟩

/-- The first line of a text of which some characters have been read. -/
theorem Parted.accepts_firstLine {kind : FieldKind} (oneLine : kind ≠ .multi)
    {line : List Char} (unended : '\n' ∉ line) (text : List Char) :
    Accepts kind (line.reverse ++ text) ((Text.linesFrom line text).head?.getD []) := by
  fun_induction Text.linesFrom line text with
  | case1 line nothing =>
      rw [List.isEmpty_iff.mp nothing]
      exact .onlyLine oneLine List.not_mem_nil
  | case2 line something =>
      rw [List.append_nil]
      exact .onlyLine oneLine (fun inside => unended (List.mem_reverse.mp inside))
  | case3 line rest =>
      have unendedToo : '\n' ∉ line.reverse := fun inside => unended (List.mem_reverse.mp inside)
      rcases Text.withoutReturn_cases line.reverse with ⟨noReturn, same⟩ | ended
      · rw [List.head?_cons, Option.getD_some, same]
        exact .beforeFeed oneLine unendedToo noReturn rest
      · have whole : line.reverse ++ '\n' :: rest =
            Text.withoutReturn line.reverse ++ '\r' :: '\n' :: rest := by
          calc
            line.reverse ++ '\n' :: rest =
                Text.withoutReturn line.reverse ++ ['\r'] ++ '\n' :: rest :=
              congrArg (· ++ '\n' :: rest) ended
            _ = Text.withoutReturn line.reverse ++ '\r' :: '\n' :: rest := by
              rw [List.append_assoc, List.singleton_append]
        rw [List.head?_cons, Option.getD_some, whole]
        apply Accepts.beforeReturn oneLine
        intro inside
        apply unendedToo
        rw [ended]
        exact List.mem_append_left _ inside
  | case4 line c rest notFeed induction =>
      have unendedToo : '\n' ∉ c :: line := by
        rw [List.mem_cons, not_or]
        exact ⟨fun same => notFeed same.symm, unended⟩
      have accepted := induction unendedToo
      rw [List.reverse_cons, List.append_assoc, List.singleton_append] at accepted
      exact accepted

theorem Parted.accepts_pasted (kind : FieldKind) (text : String) :
    Accepts kind text.toList (TextField.pasted kind text) := by
  cases kind with
  | multi => exact .whole _
  | single => exact accepts_firstLine (by decide) List.not_mem_nil text.toList
  | masked => exact accepts_firstLine (by decide) List.not_mem_nil text.toList

theorem Text.linesFrom_append {run : List Char} (unended : '\n' ∉ run) (line rest : List Char) :
    linesFrom line (run ++ rest) = linesFrom (run.reverse ++ line) rest := by
  induction run generalizing line with
  | nil => rfl
  | cons c run induction =>
      rw [List.mem_cons, not_or] at unended
      rw [List.cons_append, linesFrom.eq_3 line c (run ++ rest) (fun same => unended.1 same.symm),
        induction unended.2, List.reverse_cons, List.append_assoc, List.singleton_append]

/-- What a field takes of a pasted text is determined. -/
theorem Parted.Accepts.eq_pasted {kind : FieldKind} {text : String} {accepted : List Char}
    (accepts : Accepts kind text.toList accepted) : accepted = TextField.pasted kind text := by
  generalize same : text.toList = source at accepts
  have firstLine : ∀ kind : FieldKind, kind ≠ .multi →
      TextField.pasted kind text = (Text.linesFrom [] source).head?.getD [] := by
    intro kind oneLine
    rw [← same]
    cases kind with
    | multi => contradiction
    | single => rfl
    | masked => rfl
  cases accepts with
  | whole => exact same.symm
  | onlyLine oneLine unended =>
      have read := Text.linesFrom_append unended [] []
      rw [List.append_nil, List.append_nil] at read
      rw [firstLine kind oneLine, read]
      cases accepted with
      | nil => rfl
      | cons c line => simp [Text.linesFrom]
  | beforeFeed oneLine unended noReturn rest =>
      rw [firstLine kind oneLine, Text.linesFrom_append unended, List.append_nil, Text.linesFrom,
        List.head?_cons, Option.getD_some, List.reverse_reverse, Text.withoutReturn,
        if_neg noReturn]
  | beforeReturn oneLine unended rest =>
      have unendedToo : '\n' ∉ accepted ++ ['\r'] := by
        simp [unended]
      have read := Text.linesFrom_append unendedToo [] ('\n' :: rest)
      rw [List.append_assoc, List.singleton_append, List.append_nil] at read
      rw [firstLine kind oneLine, read, Text.linesFrom, List.head?_cons, Option.getD_some,
        List.reverse_reverse, Text.withoutReturn, if_pos List.getLast?_concat,
        List.dropLast_concat]

/-! ## Words -/

theorem Parted.exists_endsInWord (text : List Char) :
    ∃ word spaces, text = TextField.withoutWord text ++ word ++ spaces ∧
      EndsInWord (TextField.withoutWord text) word spaces := by
  obtain ⟨spaces, before, blank, allSpaces⟩ :=
    Unicode.exists_dropEndWhile (· = ' ') text
  obtain ⟨word, kept, solid, wholeWord⟩ := Unicode.exists_dropEndWhile
    (fun c => c ≠ ' ' && c ≠ '\n') (Unicode.dropEndWhile (· = ' ') text)
  refine ⟨word, spaces, ?_, ?_⟩
  · rw [TextField.withoutWord, ← kept, ← before]
  · constructor
    · intro c inside
      simpa using blank c inside
    · intro c inside
      simpa using solid c inside
    · intro ends
      rw [TextField.withoutWord, ← kept] at ends
      simpa using allSpaces ' ' ends
    · intro c ends
      have stops := wholeWord c ends
      by_cases space : c = ' '
      · exact Or.inl space
      · right
        simpa [space] using stops

/-! ## Edits -/

/-- A field does with an edit what is done to the two parts. -/
theorem Parted.edit_field (kind : FieldKind) (parted : Parted) (change : Edit) :
    ∃ next, Edits kind change parted next ∧
      (parted.field kind).edit change = next.field kind := by
  obtain ⟨before, after⟩ := parted
  cases change with
  | character c =>
      change ∃ next, _ ∧ (field kind ⟨before, after⟩).typeCharacter c = _
      unfold TextField.typeCharacter
      split
      case isTrue refused =>
        obtain ⟨rfl, oneLine⟩ := refused
        exact ⟨_, .refused oneLine _, rfl⟩
      case isFalse taken =>
        have accepted : c ≠ '\n' ∨ kind = .multi := by
          by_cases feed : c = '\n'
          · right
            exact Decidable.byContradiction fun oneLine => taken ⟨feed, oneLine⟩
          · exact Or.inl feed
        exact ⟨_, .typed accepted before after, insert_field kind _ [c]⟩
  | newline =>
      simp only [TextField.edit, TextField.edit?]
      split
      case isTrue lines => exact ⟨_, .lineEnded lines before after, insert_field kind _ ['\n']⟩
      case isFalse oneLine => exact ⟨_, .lineKept oneLine _, rfl⟩
  | eraseCharacter =>
      have erased := withBefore_field kind ⟨before, after⟩ before.dropLast
      change ∃ next, _ ∧ (field kind ⟨before, after⟩).eraseCharacter = _
      rw [TextField.eraseCharacter, before_field, erased]
      rcases List.eq_nil_or_concat before with rfl | ⟨front, c, rfl⟩
      · exact ⟨_, .nothingErased after, rfl⟩
      · rw [List.concat_eq_append, List.dropLast_concat]
        exact ⟨_, .characterErased front c after, rfl⟩
  | eraseWord =>
      obtain ⟨word, spaces, whole, ends⟩ := exists_endsInWord before
      have erased := withBefore_field kind ⟨before, after⟩ (TextField.withoutWord before)
      change ∃ next, _ ∧ (field kind ⟨before, after⟩).eraseWord = _
      rw [TextField.eraseWord, before_field, erased]
      refine ⟨_, ?_, rfl⟩
      have edits : Edits kind .eraseWord _ _ := .wordErased ends after
      rw [← whole] at edits
      exact edits
  | paste text =>
      exact ⟨_, .pasted (accepts_pasted kind text) before after, insert_field kind _ _⟩

/-! ## Moving between lines -/

namespace Text

theorem splitAtFeeds_append {line : List Char} (unended : '\n' ∉ line) (rest : List Char) :
    splitAtFeeds (line ++ rest) = (splitAtFeeds rest).modifyHead (line ++ ·) := by
  induction line with
  | nil => exact (congrFun List.modifyHead_id _).symm
  | cons c line induction =>
      rw [List.mem_cons, not_or] at unended
      rw [List.cons_append, splitAtFeeds.eq_3 c _ (fun same => unended.1 same.symm),
        induction unended.2]
      cases divided : splitAtFeeds rest with
      | nil => exact (splitAtFeeds_ne_nil rest divided).elim
      | cons piece pieces => rfl

theorem splitAtFeeds_line {line : List Char} (unended : '\n' ∉ line) (rest : List Char) :
    splitAtFeeds (line ++ '\n' :: rest) = line :: splitAtFeeds rest := by
  rw [splitAtFeeds_append unended, splitAtFeeds, List.modifyHead_cons, List.append_nil]

theorem splitAtFeeds_lines {lines : List (List Char)} (unended : ∀ line ∈ lines, '\n' ∉ line)
    (rest : List Char) :
    splitAtFeeds (lines.flatMap (· ++ ['\n']) ++ rest) = lines ++ splitAtFeeds rest := by
  induction lines with
  | nil => rfl
  | cons line lines induction =>
      have others := induction fun other member => unended other (List.mem_cons_of_mem line member)
      rw [List.flatMap_cons, List.append_assoc, List.append_assoc, List.singleton_append,
        splitAtFeeds_line (unended line List.mem_cons_self), others, List.cons_append]

/-- A beginning that fits is taken if the next character does not fit any more. -/
theorem takeBytes_append {count : Nat} {front back : List Char} (fits : byteCount front ≤ count)
    (next : ∀ c, back.head? = some c → count < byteCount front + c.utf8Size) :
    takeBytes count (front ++ back) = front := by
  induction front generalizing count with
  | nil =>
      cases back with
      | nil => rfl
      | cons c back =>
          have tooLong := next c rfl
          rw [byteCount_nil] at tooLong
          rw [List.nil_append, takeBytes, if_neg (by omega)]
  | cons c front induction =>
      rw [byteCount_cons] at fits
      rw [List.cons_append, takeBytes, if_pos (by omega), induction (by omega)]
      intro other first
      have tooLong := next other first
      rw [byteCount_cons] at tooLong
      omega

theorem length_splitAtFeeds (text : List Char) :
    (splitAtFeeds text).length = text.count '\n' + 1 := by
  fun_induction splitAtFeeds text with
  | case1 => rfl
  | case2 rest induction => rw [List.length_cons, induction, List.count_cons_self]
  | case3 c rest _ nothing _ => exact (splitAtFeeds_ne_nil rest nothing).elim
  | case4 c rest notFeed piece pieces divided induction =>
      rw [divided] at induction
      rw [List.count_cons_of_ne notFeed]
      exact induction

theorem not_mem_of_mem_splitAtFeeds {text piece : List Char}
    (member : piece ∈ splitAtFeeds text) : '\n' ∉ piece := by
  fun_induction splitAtFeeds text generalizing piece with
  | case1 =>
      rw [List.mem_singleton.mp member]
      exact List.not_mem_nil
  | case2 rest induction =>
      rcases List.mem_cons.mp member with rfl | later
      · exact List.not_mem_nil
      · exact induction later
  | case3 c rest _ nothing _ => exact (splitAtFeeds_ne_nil rest nothing).elim
  | case4 c rest notFeed first pieces divided induction =>
      rcases List.mem_cons.mp member with rfl | later
      · rw [List.mem_cons, not_or]
        exact ⟨fun same => notFeed same.symm,
          induction (divided ▸ List.mem_cons_self)⟩
      · exact induction (divided ▸ List.mem_cons_of_mem first later)

theorem not_mem_of_splitAtFeeds_singleton {text line : List Char}
    (single : splitAtFeeds text = [line]) : '\n' ∉ text := by
  have fed := flatMap_splitAtFeeds text
  rw [single, List.flatMap_singleton] at fed
  rw [← List.append_cancel_right fed]
  exact not_mem_of_mem_splitAtFeeds (single ▸ List.mem_cons_self)

end Text

namespace Parted

theorem startsLine_concat (text : List Char) : StartsLine (text ++ ['\n']) := by
  intro c ends
  rw [List.getLast?_concat] at ends
  exact (Option.some.inj ends).symm

theorem startsLine_flatMap (lines : List (List Char)) :
    StartsLine (lines.flatMap (· ++ ['\n'])) := by
  rcases List.eq_nil_or_concat lines with rfl | ⟨earlier, line, rfl⟩
  · intro c ends
    contradiction
  · rw [List.concat_eq_append, List.flatMap_append, List.flatMap_singleton, ← List.append_assoc]
    exact startsLine_concat _

/-- What stands before a line is made of whole lines. -/
theorem StartsLine.exists_lines {start : List Char} (starts : StartsLine start) :
    ∃ lines : List (List Char), start = lines.flatMap (· ++ ['\n']) ∧
      ∀ line ∈ lines, '\n' ∉ line := by
  have fed := Text.flatMap_splitAtFeeds start
  rcases List.eq_nil_or_concat (Text.splitAtFeeds start) with nothing | ⟨lines, last, pieces⟩
  · exact (Text.splitAtFeeds_ne_nil start nothing).elim
  · rw [List.concat_eq_append] at pieces
    have unended : ∀ line ∈ lines ++ [last], '\n' ∉ line := by
      intro line member
      rw [← pieces] at member
      exact Text.not_mem_of_mem_splitAtFeeds member
    rw [pieces, List.flatMap_append, List.flatMap_singleton, ← List.append_assoc] at fed
    have whole := List.append_cancel_right fed
    have nothing : last = [] := by
      rcases List.eq_nil_or_concat last with nothing | ⟨front, c, rfl⟩
      · exact nothing
      · exfalso
        rw [List.concat_eq_append] at whole unended
        rw [← List.append_assoc] at whole
        have feed := starts c (by rw [← whole, List.getLast?_concat])
        apply unended (front ++ [c]) (List.mem_append_right _ List.mem_cons_self)
        rw [feed]
        exact List.mem_append_right _ List.mem_cons_self
    rw [nothing, List.append_nil] at whole
    exact ⟨lines, whole.symm, fun line member => unended line (List.mem_append_left _ member)⟩

theorem EndsLine.splitAtFeeds_append {line finish : List Char} (ends : EndsLine finish)
    (unended : '\n' ∉ line) :
    ∃ others, Text.splitAtFeeds (line ++ finish) = line :: others := by
  cases finish with
  | nil =>
      refine ⟨[], ?_⟩
      rw [Text.splitAtFeeds_append unended, Text.splitAtFeeds, List.modifyHead_cons,
        List.append_nil]
  | cons c finish =>
      have feed : c = '\n' := ends c rfl
      subst feed
      exact ⟨_, Text.splitAtFeeds_line unended finish⟩

theorem endsLine_dropLast (lines : List (List Char)) :
    EndsLine ('\n' :: lines.flatMap (· ++ ['\n'])).dropLast := by
  intro c ends
  cases lines with
  | nil => contradiction
  | cons line lines =>
      have more : (line :: lines).flatMap (· ++ ['\n']) ≠ [] := by simp
      rw [List.dropLast_cons_of_ne_nil more, List.head?_cons] at ends
      exact (Option.some.inj ends).symm

theorem dividedAt_takeBytes (column : Nat) (line : List Char) :
    DividedAt column (Text.takeBytes column line) (Text.dropBytes column line) := by
  refine ⟨Text.byteCount_takeBytes_le column line, ?_⟩
  intro c next
  induction line generalizing column with
  | nil => contradiction
  | cons first line induction =>
      by_cases fits : first.utf8Size ≤ column
      · simp only [Text.dropBytes, if_pos fits] at next
        have later := induction (column - first.utf8Size) next
        simp only [Text.takeBytes, if_pos fits, List.cons_append, Text.byteCount_cons]
        omega
      · simp only [Text.dropBytes, if_neg fits, List.head?_cons, Option.some.injEq] at next
        subst next
        simp only [Text.takeBytes, if_neg fits, List.nil_append, Text.byteCount_cons,
          Text.byteCount_nil]
        omega

theorem DividedAt.takeBytes_eq {column : Nat} {front back : List Char}
    (divided : DividedAt column front back) (start finish : List Char) :
    Text.takeBytes
        (Text.byteCount start + min column (Text.byteCount (front ++ back)))
        (start ++ front ++ back ++ finish) = start ++ front := by
  rw [List.append_assoc (start ++ front)]
  apply Text.takeBytes_append
  · have fits := divided.fits
    rw [Text.byteCount_append, Text.byteCount_append]
    omega
  · intro c next
    have positive := c.utf8Size_pos
    rw [Text.byteCount_append, Text.byteCount_append]
    cases back with
    | nil =>
        rw [Text.byteCount_nil]
        omega
    | cons first back =>
        have longest := divided.longest c next
        rw [Text.byteCount_append, Text.byteCount_cons, Text.byteCount_nil] at longest
        omega

theorem up_field (kind : FieldKind) (parted : Parted) :
    ∃ next, Step kind .up parted next ∧ (parted.field kind).up = next.field kind := by
  obtain ⟨before, after⟩ := parted
  unfold TextField.up TextField.up?
  rw [before_field]
  dsimp only
  split
  case h_1 current above earlier lines divided =>
    -- What stands before the cursor ends in the line above and the beginning of the current one.
    have whole := Text.eq_of_lastLines divided
    have unended : ∀ piece ∈ [current, above], '\n' ∉ piece := by
      intro piece inside
      have member : piece ∈ (Text.splitAtFeeds before).reverse :=
        divided ▸ List.mem_append_left earlier inside
      exact Text.not_mem_of_mem_splitAtFeeds (List.mem_reverse.mp member)
    have aboveUnended := unended above (List.mem_cons_of_mem _ List.mem_cons_self)
    have parts := Text.takeBytes_append_dropBytes (Text.byteCount current) above
    rw [← parts] at aboveUnended
    have step : Step kind .up _ _ := .raised lines (startsLine_flatMap earlier.reverse) aboveUnended
      (unended current List.mem_cons_self)
      (dividedAt_takeBytes (Text.byteCount current) above) after
    rw [List.append_assoc _ (Text.takeBytes _ _), parts, ← whole] at step
    refine ⟨_, step, ?_⟩
    rw [Option.getD_some, field, field, TextField.bytesOfLines_eq, ← Text.byteCount_append]
    congr 1
    change before ++ after = _
    rw [whole]
    conv =>
      lhs
      rw [← parts]
    simp only [List.append_assoc, List.cons_append]
  case h_2 still =>
    refine ⟨_, .highest ?_ after, rfl⟩
    by_cases lines : kind = .multi
    · right
      cases divided : (Text.splitAtFeeds before).reverse with
      | nil => exact (Text.splitAtFeeds_ne_nil before (List.reverse_eq_nil_iff.mp divided)).elim
      | cons current others =>
          cases others with
          | nil =>
              have single : Text.splitAtFeeds before = [current] := by
                rw [← List.reverse_reverse (Text.splitAtFeeds before), divided]
                rfl
              exact Text.not_mem_of_splitAtFeeds_singleton single
          | cons above earlier => exact (still current above earlier lines divided).elim
    · exact Or.inl lines

theorem down_field (kind : FieldKind) (parted : Parted) :
    ∃ next, Step kind .down parted next ∧ (parted.field kind).down = next.field kind := by
  obtain ⟨before, after⟩ := parted
  unfold TextField.down TextField.down?
  rw [before_field, after_field]
  dsimp only
  split
  case h_1 current rest below more lines ends divided =>
    -- The line that the cursor stands in begins before it.
    obtain ⟨earlier, pieces⟩ := List.getLast?_eq_some_iff.mp ends
    have fedBefore := Text.flatMap_splitAtFeeds before
    rw [pieces, List.flatMap_append, List.flatMap_singleton, ← List.append_assoc] at fedBefore
    have wholeBefore := List.append_cancel_right fedBefore
    have currentUnended : '\n' ∉ current := by
      have member : current ∈ Text.splitAtFeeds before :=
        pieces ▸ List.mem_append_right _ List.mem_cons_self
      exact Text.not_mem_of_mem_splitAtFeeds member
    have wholeAfter := Text.eq_of_firstLines divided
    have unended : ∀ piece ∈ [rest, below], '\n' ∉ piece := by
      intro piece inside
      have member : piece ∈ Text.splitAtFeeds after :=
        divided ▸ List.mem_append_left more inside
      exact Text.not_mem_of_mem_splitAtFeeds member
    have belowUnended := unended below (List.mem_cons_of_mem _ List.mem_cons_self)
    have parts := Text.takeBytes_append_dropBytes (Text.byteCount current) below
    rw [← parts] at belowUnended
    have step : Step kind .down _ _ := .lowered lines (startsLine_flatMap earlier) currentUnended
      (unended rest List.mem_cons_self) belowUnended (endsLine_dropLast more)
      (dividedAt_takeBytes (Text.byteCount current) below)
    have same : rest ++ '\n' :: Text.takeBytes (Text.byteCount current) below ++
        Text.dropBytes (Text.byteCount current) below = rest ++ '\n' :: below := by
      rw [List.append_assoc, List.cons_append, parts]
    rw [wholeBefore, same, ← wholeAfter] at step
    refine ⟨_, step, ?_⟩
    have feed : Char.utf8Size '\n' = 1 := by decide
    rw [Option.getD_some, field, field]
    congr 1
    · change before ++ after = _
      rw [wholeAfter, ← same]
      simp only [List.append_assoc, List.cons_append]
    · simp only [Text.byteCount_append, Text.byteCount_cons, feed]
      omega
  case h_2 still =>
    refine ⟨_, .lowest ?_ before, rfl⟩
    by_cases lines : kind = .multi
    · right
      cases divided : Text.splitAtFeeds after with
      | nil => exact (Text.splitAtFeeds_ne_nil after divided).elim
      | cons rest others =>
          cases others with
          | nil => exact Text.not_mem_of_splitAtFeeds_singleton divided
          | cons below more =>
              have some := List.getLast?_eq_some_getLast (Text.splitAtFeeds_ne_nil before)
              exact (still _ rest below more lines some divided).elim
    · exact Or.inl lines

/-- A field does what is done to the two parts, and stays the field that holds them. -/
theorem perform_field (kind : FieldKind) (parted : Parted) (operation : TextField.Operation) :
    ∃ next, Step kind operation parted next ∧
      (parted.field kind).perform operation = next.field kind := by
  cases operation with
  | setValue value =>
      refine ⟨_, .valueSet value parted, ?_⟩
      rw [TextField.perform, TextField.setValue, field, field, List.append_nil]
  | clear => exact ⟨_, .cleared parted, rfl⟩
  | act action =>
      by_cases isEdit : ∃ change, action = .edit change
      · obtain ⟨change, rfl⟩ := isEdit
        obtain ⟨next, edits, same⟩ := edit_field kind parted change
        exact ⟨next, .edited edits, same⟩
      · have noEdit : ∀ change, action ≠ .edit change := fun change same => isEdit ⟨change, same⟩
        refine ⟨parted, .ignored noEdit parted, ?_⟩
        cases action with
        | edit change => exact (noEdit change rfl).elim
        | _ => rfl
  | up => exact up_field kind parted
  | down => exact down_field kind parted

theorem result_field (kind : FieldKind) (operations : List TextField.Operation) :
    ∃ parted, Reaches kind operations parted ∧
      TextField.result kind operations = parted.field kind := by
  induction operations with
  | nil => exact ⟨_, .start, rfl⟩
  | cons operation earlier induction =>
      obtain ⟨parted, reaches, same⟩ := induction
      obtain ⟨next, step, performed⟩ := perform_field kind parted operation
      exact ⟨next, reaches.next step, by rw [TextField.result, same, performed]⟩

end Parted

/-! ## Fields of one line -/

namespace Parted

theorem Accepts.oneLine {kind : FieldKind} {text accepted : List Char} (oneLine : kind ≠ .multi)
    (accepts : Accepts kind text accepted) : '\n' ∉ accepted := by
  cases accepts with
  | whole => contradiction
  | onlyLine _ unended => exact unended
  | beforeFeed _ unended => exact unended
  | beforeReturn _ unended => exact unended

/-- An edit leaves what stands after the cursor. -/
theorem Edits.after_eq {kind : FieldKind} {change : Edit} {parted next : Parted}
    (edits : Edits kind change parted next) : next.after = parted.after := by
  cases edits <;> rfl

/-- An edit brings no line feed into a field of one line. -/
theorem Edits.oneLine {kind : FieldKind} {change : Edit} {parted next : Parted}
    (oneLine : kind ≠ .multi) (edits : Edits kind change parted next)
    (unended : '\n' ∉ parted.before) : '\n' ∉ next.before := by
  cases edits with
  | typed taken before after =>
      have notFeed := taken.resolve_right oneLine
      simp only [List.mem_append, List.mem_singleton, not_or]
      exact ⟨unended, Ne.symm notFeed⟩
  | refused => exact unended
  | lineEnded lines => contradiction
  | lineKept => exact unended
  | pasted accepts =>
      simp only [List.mem_append, not_or]
      exact ⟨unended, accepts.oneLine oneLine⟩
  | characterErased => exact fun inside => unended (List.mem_append_left _ inside)
  | nothingErased => exact unended
  | wordErased =>
      intro inside
      apply unended
      rw [List.append_assoc]
      exact List.mem_append_left _ inside

/-- A field of one line that only answers actions holds no line feed. -/
theorem answers_oneLine {kind : FieldKind} (oneLine : kind ≠ .multi) (actions : List Action) :
    '\n' ∉ (actions.foldl TextField.answer (.empty kind)).content := by
  suffices kept : ∃ parted : Parted, '\n' ∉ parted.before ∧ parted.after = [] ∧
      actions.foldl TextField.answer (.empty kind) = parted.field kind by
    obtain ⟨parted, unended, nothing, same⟩ := kept
    rw [same, field, nothing, List.append_nil]
    exact unended
  have start : ∃ parted : Parted, '\n' ∉ parted.before ∧ parted.after = [] ∧
      TextField.empty kind = parted.field kind := ⟨⟨[], []⟩, List.not_mem_nil, rfl, rfl⟩
  generalize TextField.empty kind = current at start ⊢
  induction actions generalizing current with
  | nil => exact start
  | cons action actions induction =>
      apply induction
      obtain ⟨parted, unended, nothing, rfl⟩ := start
      obtain ⟨next, step, same⟩ := perform_field kind parted (.act action)
      refine ⟨next, ?_, ?_, same⟩
      · cases step with
        | edited edits => exact edits.oneLine oneLine unended
        | ignored => exact unended
      · cases step with
        | edited edits => exact edits.after_eq.trans nothing
        | ignored => exact nothing

end Parted

end DocsConsole
