import DocsConsole.Markdown.Outline
import DocsConsole.Proofs.Markdown.Lines
import DocsConsole.Proofs.Text.Lines

/-!
# Code and raw markup

Literal blocks are cut at their line ends.  Two things cut a line of code once more: a tab that
reaches beyond the margin, and a carriage return.  Without these, every text of a code block but the
last ends a line.  A piece of raw markup never has more than one line.
-/

namespace DocsConsole.Markdown

namespace Source

/-! ## Ranges of a source -/

theorem get?_of_lt (s : Source) {i : Nat} (inside : i < s.limit) : s.get? i = s.chars[i]? :=
  if_pos inside

theorem belongs_of_lt_skipWhile (s : Source) (belongs : Char → Bool) {i j : Nat} (from_ : i ≤ j)
    (before : j < s.skipWhile belongs i) : ∃ c, s.chars[j]? = some c ∧ belongs c = true := by
  fun_induction skipWhile s belongs i with
  | case1 i inside c there holds induction =>
      rcases Nat.eq_or_lt_of_le from_ with rfl | later
      · exact ⟨c, (s.get?_of_lt inside).symm.trans there, holds⟩
      · exact induction later before
  | case2 => omega
  | case3 => omega
  | case4 => omega

theorem eq_of_skipWhile (s : Source) (belongs : Char → Bool) {i : Nat} {c : Char}
    (inside : s.skipWhile belongs i < s.limit)
    (there : s.chars[s.skipWhile belongs i]? = some c) : belongs c = false := by
  fun_induction skipWhile s belongs i with
  | case1 i _ d _ holds induction => exact induction inside there
  | case2 i _ d read fails =>
      rw [s.get?_of_lt inside, there] at read
      cases read
      exact Bool.eq_false_iff.mpr fails
  | case3 i _ read =>
      rw [s.get?_of_lt inside, there] at read
      cases read
  | case4 i outside => exact absurd inside outside

theorem nextLine_of_le (s : Source) {i : Nat} (beyond : s.limit ≤ i) : s.nextLine i = s.limit := by
  have stays : s.skipWhile (· != '\n') i = i := by
    rw [skipWhile, if_neg (Nat.not_lt.mpr beyond)]
  rw [nextLine, stays, if_neg (Nat.not_lt.mpr beyond)]

/-- No line feed stands before the last place of a line. -/
theorem not_feed_of_lt_nextLine (s : Source) {i j : Nat} (from_ : i ≤ j)
    (before : j + 1 < s.nextLine i) : s.chars[j]? ≠ some '\n' := by
  have inside : j < s.skipWhile (· != '\n') i := by
    simp only [nextLine] at before
    split at before <;> omega
  obtain ⟨c, there, holds⟩ := s.belongs_of_lt_skipWhile _ from_ inside
  rw [there]
  rintro ⟨⟩
  exact absurd holds (by decide)

theorem getElem?_charsBetween (s : Source) (low high j : Nat) :
    (s.charsBetween low high)[j]? = if low + j < high then s.chars[low + j]? else none := by
  rw [charsBetween, Array.toList_extract, List.extract_eq_take_drop, List.getElem?_take,
    List.getElem?_drop, Array.getElem?_toList]
  by_cases inside : low + j < high
  · rw [if_pos inside, if_pos (by omega)]
  · rw [if_neg inside, if_neg (by omega)]

theorem length_charsBetween_le (s : Source) (low high : Nat) :
    (s.charsBetween low high).length ≤ high - low := by
  rw [charsBetween, Array.length_toList, Array.size_extract]
  omega

theorem mem_dropLast_charsBetween (s : Source) {low high : Nat} {c : Char}
    (member : c ∈ (s.charsBetween low high).dropLast) :
    ∃ j, low ≤ j ∧ j + 1 < high ∧ s.chars[j]? = some c := by
  obtain ⟨j, there⟩ := List.mem_iff_getElem?.mp member
  have short := s.length_charsBetween_le low high
  rw [List.getElem?_dropLast] at there
  split at there
  case isTrue inside =>
    rw [getElem?_charsBetween] at there
    split at there
    case isTrue => exact ⟨low + j, by omega, by omega, there⟩
    case isFalse => cases there
  case isFalse => cases there

theorem getLast?_charsBetween (s : Source) {low high : Nat} (proper : low < high)
    (inside : high ≤ s.chars.size) :
    (s.charsBetween low high).getLast? = s.chars[high - 1]? := by
  have size : (s.charsBetween low high).length = high - low := by
    rw [charsBetween, Array.length_toList, Array.size_extract]
    omega
  rw [List.getLast?_eq_getElem?, getElem?_charsBetween, size, if_pos (by omega)]
  congr 1
  omega

/-! ## Margins -/

/-- A source without the characters that cut a line of code. -/
def IsSimple (s : Source) : Prop :=
  ∀ c ∈ s.chars, c ≠ '\t' ∧ c ≠ '\r'

theorem IsSimple.get?_ne {s : Source} (simple : s.IsSimple) (i : Nat) :
    s.get? i ≠ some '\t' := by
  unfold get?
  split
  case isTrue =>
    intro there
    exact (simple _ (Array.mem_of_getElem? there)).1 rfl
  case isFalse => exact nofun

end Source

namespace Margin

/-- A place further on in the margin.  Only a tab leaves columns over. -/
structure LeadsTo (s : Source) (m next : Margin) : Prop where
  pos : m.pos ≤ next.pos
  pending : s.IsSimple → m.pending = 0 → next.pending = 0

variable {s : Source} {m middle next : Margin}

theorem LeadsTo.refl (s : Source) (m : Margin) : m.LeadsTo s m :=
  ⟨Nat.le_refl _, fun _ spent => spent⟩

theorem LeadsTo.trans (former : m.LeadsTo s middle) (latter : middle.LeadsTo s next) :
    m.LeadsTo s next :=
  ⟨Nat.le_trans former.pos latter.pos,
    fun simple spent => latter.pending simple (former.pending simple spent)⟩

/-- The place after some characters that are no tabs. -/
theorem leadsTo_withPos (s : Source) (m : Margin) {pos : Nat} (further : m.pos ≤ pos) :
    m.LeadsTo s { m with pos := pos } :=
  ⟨further, fun _ spent => spent⟩

theorem spend_leadsTo (s : Source) (m : Margin) (columns : Nat) :
    m.LeadsTo s (spend s m columns).2 := by
  fun_induction spend s m columns with
  | case1 => exact .refl s _
  | case2 m columns some inside space induction =>
      exact (leadsTo_withPos s m (Nat.le_succ _)).trans induction
  | case3 m columns some inside tab width used induction =>
      have passed : m.LeadsTo s ⟨m.pos + 1, m.pos + 1, width - used⟩ :=
        ⟨Nat.le_succ _, fun simple => (simple.get?_ne _ tab).elim⟩
      exact passed.trans induction
  | case4 => exact .refl s _
  | case5 => exact .refl s _

theorem takeColumns_leadsTo (s : Source) (m : Margin) (columns : Nat) :
    m.LeadsTo s (m.takeColumns s columns).2 := by
  have used : m.LeadsTo s { m with pending := m.pending - min m.pending columns } := by
    refine ⟨Nat.le_refl _, ?_⟩
    intro _ spent
    change m.pending - min m.pending columns = 0
    rw [spent, Nat.zero_sub]
  exact used.trans (spend_leadsTo s _ _)

theorem takeUpTo_leadsTo (s : Source) (m : Margin) (columns : Nat) :
    m.LeadsTo s (m.takeUpTo s columns).2 :=
  takeColumns_leadsTo s m columns

theorem quoteMark?_leadsTo (marked : m.quoteMark? s = some next) : m.LeadsTo s next := by
  have edge := takeColumns_leadsTo s m 3
  simp only [quoteMark?] at marked
  generalize (m.takeColumns s 3).2 = place at edge marked
  split at marked
  case isTrue =>
    cases marked
    have after := leadsTo_withPos s place (Nat.le_succ _)
    exact edge.trans (after.trans (takeColumns_leadsTo s _ 1))
  case isFalse => cases marked

theorem pass_leadsTo (s : Source) (m : Margin) (containers : List Container) :
    m.LeadsTo s (m.pass s containers).2 := by
  fun_induction pass s m containers with
  | case1 => exact .refl s _
  | case2 m rest next marked count last passed induction =>
      rw [passed] at induction
      exact (quoteMark?_leadsTo marked).trans induction
  | case3 => exact .refl s _
  | case4 m indent rest missing next taken holds count last passed induction =>
      have inside := takeColumns_leadsTo s m indent
      rw [taken] at inside
      rw [passed] at induction
      exact inside.trans induction
  | case5 => exact .refl s _
  | case6 m tight mark first rest count last passed induction =>
      rw [passed] at induction
      exact induction

theorem passAll_leadsTo (s : Source) (containers : List Container) (start : Nat) :
    (ofLine start).LeadsTo s (passAll s containers start).2 :=
  pass_leadsTo s _ containers

/-- The place after the margins of a line and some columns. -/
theorem leadsTo_of_passAll {containers : List Container} {start columns missing : Nat}
    {inside : Bool} {margin edge : Margin} (passed : passAll s containers start = (inside, margin))
    (taken : margin.takeColumns s columns = (missing, edge)) : (ofLine start).LeadsTo s edge := by
  have margins := passAll_leadsTo s containers start
  have after := takeColumns_leadsTo s margin columns
  rw [passed] at margins
  rw [taken] at after
  exact margins.trans after

theorem afterMark_leadsTo (s : Source) (m : Margin) (mark : Char) (number indent : Nat) :
    m.LeadsTo s (m.afterMark s mark number indent).margin := by
  have taken := takeUpTo_leadsTo s m 4
  simp only [afterMark]
  split
  case isTrue => exact .refl s m
  case isFalse =>
    split
    case isTrue => exact taken
    case isFalse => exact .refl s m

theorem itemStart?_leadsTo {item : ItemStart} (started : m.itemStart? s = some item) :
    m.LeadsTo s item.margin := by
  have edge := takeUpTo_leadsTo s m 4
  simp only [itemStart?] at started
  generalize m.takeUpTo s 4 = taken at edge started
  obtain ⟨indent, place⟩ := taken
  have followed : ∀ {stop : Nat} {mark : Char} {number indent : Nat}, place.pos ≤ stop →
      (if (decide ((takeColumns s { place with pos := stop } 1).1 = 0) ||
          (takeColumns s { place with pos := stop } 1).2.atLineEnd s) = true then
        some ((takeColumns s { place with pos := stop } 1).2.afterMark s mark number indent)
      else none) = some item → m.LeadsTo s item.margin := by
    intro stop mark number indent further read
    split at read
    case isTrue =>
      cases read
      have after := leadsTo_withPos s place further
      exact edge.trans (after.trans ((takeColumns_leadsTo s _ 1).trans (afterMark_leadsTo s _ _ _ _)))
    case isFalse => cases read
  split at started
  case isFalse => cases started
  case isTrue =>
    split at started
    case h_1 => cases started
    case h_2 =>
      split at started
      case isTrue =>
        split at started
        case isTrue => cases started
        case isFalse => exact followed (Nat.le_succ _) started
      case isFalse =>
        split at started
        case isFalse => cases started
        case isTrue =>
          split at started
          case h_2 => cases started
          case h_1 =>
            split at started
            case isFalse => cases started
            case isTrue => exact followed (Nat.le_succ_of_le (s.le_skipWhile _ _)) started

end Margin

/-! ## Lines of a literal block -/

namespace Source

/-- The pieces of a line are spaces and ranges of it. -/
theorem mem_literalPieces {s : Source} {body : Piece} {pending start stop : Nat} {draft : Draft}
    (member : draft ∈ s.literalPieces body pending start stop) :
    draft = .piece start start (.settled (.text (String.ofList (List.replicate pending ' ')))) ∨
      ∃ low high, draft = .piece low high body ∧
        (start ≤ low ∧ high ≤ stop ∨ high ≤ low + 1) := by
  unfold literalPieces at member
  extract_lets returned range spaces at member
  have ranged : ∀ low high, draft ∈ range low high → draft = .piece low high body := by
    intro low high inside
    unfold range at inside
    split at inside
    case h_1 =>
      unfold Draft.addText at inside
      split at inside
      case isTrue => exact List.mem_singleton.mp inside
      case isFalse => cases inside
    case h_2 => exact List.mem_singleton.mp inside
  have either : ∀ {condition : Prop} [Decidable condition] {former latter : List Draft},
      draft ∈ (if condition then former else latter) → draft ∈ former ∨ draft ∈ latter := by
    intro condition _ former latter inside
    split at inside
    case isTrue => exact .inl inside
    case isFalse => exact .inr inside
  rcases List.mem_append.mp member with space | inside
  · unfold spaces at space
    split at space
    case isTrue => cases space
    case isFalse => exact .inl (List.mem_singleton.mp space)
  · refine .inr ?_
    rcases either inside with cut | uncut
    · rcases List.mem_append.mp cut with before | last
      · exact ⟨_, _, ranged _ _ before, .inl ⟨Nat.le_refl _, Nat.sub_le _ _⟩⟩
      · exact ⟨_, _, ranged _ _ last, .inr (by omega)⟩
    · exact ⟨_, _, ranged _ _ uncut, .inl ⟨Nat.le_refl _, Nat.le_refl _⟩⟩

/-- Without a tab and a carriage return, a line is not cut. -/
theorem literalPieces_of_simple {s : Source} (simple : s.IsSimple) (start stop : Nat) :
    s.literalPieces .plain 0 start stop = Draft.addText [] start stop := by
  simp only [literalPieces]
  rw [if_pos trivial, List.nil_append, if_neg]
  split
  case h_1 returned _ =>
    exact ((simple _ (Array.mem_of_getElem? returned)).2 rfl).elim
  case h_2 => decide

/-! ## Code -/

/-- Every text but the last ends a line. -/
def ByLine (texts : List String) : Prop :=
  ∀ text ∈ texts.dropLast, text.toList.getLast? = some '\n'

/-- What is known of the texts of a code block. -/
def CutsByLine (s : Source) (texts : List String) : Prop :=
  s.IsSimple → ByLine texts

/-- Whether a draft is a piece of code that ends a line. -/
def EndsLine (s : Source) (draft : Draft) : Prop :=
  ∃ text, draft.literal? s = some text ∧ text.toList.getLast? = some '\n'

/-- The lines of a code block that are read before a position, last one first. -/
structure CodeLines (s : Source) (lines : List Draft) (i : Nat) : Prop where
  literal : ∀ draft ∈ lines, (draft.literal? s).isSome = true
  tail : s.IsSimple → ∀ draft ∈ lines.tail, s.EndsLine draft
  head : s.IsSimple → ∀ draft ∈ lines.head?, s.EndsLine draft ∨ s.limit ≤ i

theorem codeLines_nil (s : Source) (i : Nat) : s.CodeLines [] i :=
  ⟨nofun, fun _ => nofun, fun _ => nofun⟩

theorem CodeLines.mono {s : Source} {lines : List Draft} {i j : Nat} (read : s.CodeLines lines i)
    (further : i ≤ j) : s.CodeLines lines j :=
  ⟨read.literal, read.tail, fun simple draft last =>
    (read.head simple draft last).imp_right fun done => Nat.le_trans done further⟩

theorem literalPieces_literal (s : Source) (pending start stop : Nat) :
    ∀ draft ∈ s.literalPieces .plain pending start stop, (draft.literal? s).isSome = true := by
  intro draft member
  rcases mem_literalPieces member with rfl | ⟨low, high, rfl, _⟩
  · rfl
  · rfl

/-- A line of code ends with a line feed or with the source. -/
theorem endsLine_or_limit_le {s : Source} (whole : s.limit ≤ s.chars.size) {start : Nat}
    (inside : start < s.limit) :
    start < s.nextLine start ∧ (s.EndsLine (.piece start (s.nextLine start) .plain) ∨
      s.limit ≤ s.nextLine start) := by
  have from_ := s.le_skipWhile (· != '\n') start
  simp only [nextLine]
  split
  case isFalse => exact ⟨inside, .inr (Nat.le_refl _)⟩
  case isTrue found =>
    refine ⟨by omega, .inl ⟨_, rfl, ?_⟩⟩
    obtain ⟨c, there⟩ : ∃ c, s.chars[s.skipWhile (· != '\n') start]? = some c :=
      ⟨_, Array.getElem?_eq_getElem (by omega)⟩
    have feed : c = '\n' := by
      have same := s.eq_of_skipWhile (· != '\n') found there
      exact bne_eq_false_iff_eq.mp same
    rw [slice, String.toList_ofList, getLast?_charsBetween s (by omega) (by omega),
      Nat.add_sub_cancel, there, feed]

/-- One more line of code. -/
theorem CodeLines.line {s : Source} (whole : s.limit ≤ s.chars.size) {lines : List Draft}
    {i pending start : Nat} (read : s.CodeLines lines i) (further : i ≤ start)
    (spent : s.IsSimple → pending = 0) :
    s.CodeLines ((s.literalPieces .plain pending start (s.nextLine start)).reverse ++ lines)
      (s.nextLine start) := by
  have literal : ∀ draft ∈ (s.literalPieces .plain pending start (s.nextLine start)).reverse ++ lines,
      (draft.literal? s).isSome = true := by
    intro draft member
    rcases List.mem_append.mp member with new | old
    · exact s.literalPieces_literal _ _ _ draft (List.mem_reverse.mp new)
    · exact read.literal draft old
  by_cases simple : s.IsSimple
  · rw [spent simple, literalPieces_of_simple simple] at literal ⊢
    by_cases inside : start < s.limit
    · obtain ⟨proper, ends⟩ := endsLine_or_limit_le whole inside
      rw [Draft.addText, if_pos proper] at literal ⊢
      refine ⟨literal, ?_, ?_⟩
      · intro _ draft member
        change draft ∈ lines at member
        cases lines with
        | nil => cases member
        | cons last earlier =>
            rcases List.mem_cons.mp member with rfl | old
            · rcases read.head simple _ rfl with ends | done
              · exact ends
              · omega
            · exact read.tail simple draft old
      · intro _ draft same
        cases Option.mem_some_iff.mp same
        exact ends
    · have done := s.nextLine_of_le (Nat.not_lt.mp inside)
      have nothing : Draft.addText [] start (s.nextLine start) = [] := by
        rw [Draft.addText, if_neg (by omega)]
      rw [nothing] at literal ⊢
      exact ⟨literal, read.tail, fun _ _ _ => .inr (Nat.le_of_eq done.symm)⟩
  · exact ⟨literal, fun holds => (simple holds).elim, fun holds => (simple holds).elim⟩

/-- The lines of a code block, in order. -/
theorem CodeLines.fits {s : Source} {lines : List Draft} {i : Nat} (read : s.CodeLines lines i)
    {slot : Slot} (blocks : slot.holdsBlocks = true) (start stop : Nat) (info : Option String) :
    (Draft.block start stop (.codeBlock info) none lines.reverse).Fits s s.CutsByLine slot := by
  have texts : ∀ {drafts : List Draft}, (∀ draft ∈ drafts, (draft.literal? s).isSome = true) →
      drafts.map (Draft.literal? s) = (drafts.filterMap (Draft.literal? s)).map some := by
    intro drafts literal
    induction drafts with
    | nil => rfl
    | cons draft drafts induction =>
        obtain ⟨first, others⟩ := List.forall_mem_cons.mp literal
        obtain ⟨text, same⟩ := Option.isSome_iff_exists.mp first
        rw [List.filterMap_cons_some same, List.map_cons, List.map_cons, induction others, same]
  refine .code blocks ?_ (texts fun draft member => read.literal draft (List.mem_reverse.mp member))
  intro simple text member
  cases lines with
  | nil => cases member
  | cons last earlier =>
      obtain ⟨lastText, same⟩ :=
        Option.isSome_iff_exists.mp (read.literal last List.mem_cons_self)
      rw [List.reverse_cons, List.filterMap_append, List.filterMap_cons_some same,
        List.filterMap_nil, List.dropLast_concat] at member
      obtain ⟨draft, inside, is⟩ := List.mem_filterMap.mp member
      obtain ⟨ended, isToo, ends⟩ := read.tail simple draft (List.mem_reverse.mp inside)
      rw [is] at isToo
      cases isToo
      exact ends

theorem indentedFrom_codeLines {s : Source} (whole : s.limit ≤ s.chars.size)
    (containers : List Container) (fuel : Nat) (written kept : List Draft)
    (keptEnd pending : Nat) (blank : Bool) (i : Nat) (read : s.CodeLines written i)
    (keeps : ∃ j, s.CodeLines kept j) (spent : s.IsSimple → pending = 0) :
    ∃ j, s.CodeLines (s.indentedFrom containers fuel written kept keptEnd pending blank i).1 j := by
  have either : ∀ {blank : Bool} {kept lines last : List Draft} {keptEnd next lastEnd : Nat},
      (if blank = true then (kept, keptEnd) else (lines, next)) = (last, lastEnd) →
      (∃ j, s.CodeLines kept j) → (∃ j, s.CodeLines lines j) → ∃ j, s.CodeLines last j := by
    intro blank kept lines last keptEnd next lastEnd chosen former latter
    cases blank <;> cases chosen
    · exact latter
    · exact former
  fun_induction indentedFrom s containers fuel written kept keptEnd pending blank i with
  | case1 => exact keeps
  | case2 fuel written kept keptEnd pending blank i next lines lastKept lastEnd chosen =>
      exact either chosen keeps ⟨next, read.line whole (Nat.le_refl i) spent⟩
  | case3 fuel written kept keptEnd pending blank i next lines lastKept lastEnd chosen inside margin
      passed missing edge taken goesOn induction =>
      have more : s.CodeLines lines next := read.line whole (Nat.le_refl i) spent
      have place := Margin.leadsTo_of_passAll passed taken
      exact induction (more.mono place.pos) (either chosen keeps ⟨next, more⟩)
        fun simple => place.pending simple rfl

theorem fencedFrom_codeLines {s : Source} (whole : s.limit ≤ s.chars.size)
    (containers : List Container) (indent : Nat) (fence : Char) (length fuel : Nat)
    (lines : List Draft) (i : Nat) (read : s.CodeLines lines i) :
    ∃ j, s.CodeLines (s.fencedFrom containers indent fence length fuel lines i).1 j := by
  fun_induction fencedFrom s containers indent fence length fuel lines i with
  | case1 => exact ⟨_, read⟩
  | case2 => exact ⟨_, read⟩
  | case3 => exact ⟨_, read⟩
  | case4 fuel lines i inside margin passed holds missing edge taken missing' closer taken' closing
      open_ next induction =>
      have place := Margin.leadsTo_of_passAll passed taken
      exact induction (read.line whole place.pos fun simple => place.pending simple rfl)

theorem indentedCode_fits {s : Source} (whole : s.limit ≤ s.chars.size) {slot : Slot}
    (blocks : slot.holdsBlocks = true) (containers : List Container) {pending : Nat} (i : Nat)
    (spent : s.IsSimple → pending = 0) :
    (s.indentedCode containers pending i).1.Fits s s.CutsByLine slot := by
  obtain ⟨j, read⟩ := indentedFrom_codeLines whole containers (s.limit + 1) [] [] i pending false i
    (s.codeLines_nil i) ⟨i, s.codeLines_nil i⟩ spent
  exact read.fits blocks _ _ _

theorem fencedCode_fits {s : Source} (whole : s.limit ≤ s.chars.size) {slot : Slot}
    (blocks : slot.holdsBlocks = true) (containers : List Container) (indent : Nat) (fence : Char)
    (length i : Nat) :
    (s.fencedCode containers indent fence length i).1.Fits s s.CutsByLine slot := by
  obtain ⟨j, read⟩ := fencedFrom_codeLines whole containers indent fence length (s.limit + 1) []
    (s.nextLine (s.skipBlanks (i + length))) (s.codeLines_nil _)
  exact read.fits blocks _ _ _

/-! ## Raw markup -/

/-- A range of a line has one line at most. -/
theorem length_lines_slice {s : Source} {start low high : Nat}
    (short : start ≤ low ∧ high ≤ s.nextLine start ∨ high ≤ low + 1) :
    (Text.lines (s.slice low high)).length ≤ 1 := by
  refine Text.length_lines_le_one ?_
  intro member
  obtain ⟨j, from_, before, feed⟩ := s.mem_dropLast_charsBetween member
  rcases short with ⟨starts, ends⟩ | single
  · exact s.not_feed_of_lt_nextLine (i := start) (by omega) (by omega) feed
  · omega

variable {known : List String → Prop}

theorem literalPieces_fit (s : Source) (pending start : Nat) :
    ∀ draft ∈ s.literalPieces .markup pending start (s.nextLine start),
      draft.Fits s known .document := by
  intro draft member
  rcases mem_literalPieces member with rfl | ⟨low, high, rfl, short⟩
  · refine .piece rfl ?_
    intro c inside
    rw [String.toList_ofList] at inside
    exact List.eq_of_mem_replicate inside
  · exact .piece rfl (length_lines_slice short)

theorem markupFrom_fits (s : Source) (containers : List Container) (ending : Option (List Char))
    (fuel : Nat) (lines : List Draft) (pending i : Nat)
    (fit : ∀ draft ∈ lines, draft.Fits s known .document) :
    ∀ draft ∈ (s.markupFrom containers ending fuel lines pending i).1,
      draft.Fits s known .document := by
  have added : ∀ {lines : List Draft} {pending i : Nat},
      (∀ draft ∈ lines, draft.Fits s known .document) →
      ∀ draft ∈ (s.literalPieces .markup pending i (s.nextLine i)).reverse ++ lines,
        draft.Fits s known .document := by
    intro lines pending i fit draft member
    rcases List.mem_append.mp member with new | old
    · exact literalPieces_fit s pending i draft (List.mem_reverse.mp new)
    · exact fit draft old
  fun_induction markupFrom s containers ending fuel lines pending i with
  | case1 => exact fit
  | case2 => exact added fit
  | case3 fuel lines pending i next all inside margin passed ended goesOn induction =>
      exact induction (added fit)

theorem markupBlock_fits (s : Source) (containers : List Container) (ending : Option (List Char))
    (pending i : Nat) :
    ∀ draft ∈ (s.markupBlock containers ending pending i).1, draft.Fits s known .document := by
  have lines := markupFrom_fits s containers ending (s.limit + 1) [] pending i
    (List.forall_mem_nil (Draft.Fits s known .document))
  unfold markupBlock
  exact fun draft member => lines draft (List.mem_reverse.mp member)

end Source

end DocsConsole.Markdown
