import DocsConsole.Editor.PathField

/-!
# What a path field suggests

The suggestions of a path field are the best completions of its text, or there are none.  They
belong to the text that was looked up last, so what changes the text has to look it up, to find
the suggestions dropped, or to drop them.
-/

namespace DocsConsole

namespace Suggestion

/-! ## Which entries are suggested, and in which order -/

/-- The directory that a path is completed in, and the part of a name that was typed. -/
inductive Asks (path : FilePath) : FilePath → String → Prop
  | inside (slash : path.toList.getLast? = some '/') : Asks path path ""
  | beside (noSlash : path.toList.getLast? ≠ some '/') {directory : FilePath}
      (parent : FilePath.parent? path = some directory) (named : directory ≠ "") :
      Asks path directory ((FilePath.fileName? path).getD "")
  | here (noSlash : path.toList.getLast? ≠ some '/') (parent : FilePath.parent? path = some "") :
      Asks path "." ((FilePath.fileName? path).getD "")
  | root (noSlash : path.toList.getLast? ≠ some '/') (noParent : FilePath.parent? path = none) :
      Asks path "/" ((FilePath.fileName? path).getD "")

/-- A name begins as typed, without regard to case, and is hidden only if a dot was typed. -/
def Continues (typed name : String) : Prop :=
  (name.toList.head? = some '.' → typed.toList.head? = some '.') ∧
    (Unicode.lower typed).toList <+: (Unicode.lower name).toList
deriving Decidable

/-- A name stands before another one, without regard to case. -/
def NamedBefore (first second : String) : Prop :=
  ¬Unicode.lower second ≤ Unicode.lower first

/-- An entry stands before another one: a directory before a file, and else by its name. -/
def Outranks (first second : String × Entry) : Prop :=
  (first.2 = .directory ∧ second.2 ≠ .directory) ∨
    ((first.2 = .directory ↔ second.2 = .directory) ∧ NamedBefore first.1 second.1)

/-- Neither of two entries stands before the other one. -/
def Ties (first second : String × Entry) : Prop :=
  (first.2 = .directory ↔ second.2 = .directory) ∧ Unicode.lower first.1 = Unicode.lower second.1
deriving Decidable

/-- Some entries in order, where those that tie are left as they were. -/
structure Ranked (entries ranked : List (String × Entry)) : Prop where
  same : ranked.Perm entries
  ordered : ranked.Pairwise fun first second => ¬Outranks second first
  stable : ∀ entry, ranked.filter (Ties entry ·) = entries.filter (Ties entry ·)

/-- An entry of a directory as a suggestion. -/
def ofEntry (directory : FilePath) (entry : String × Entry) : Suggestion :=
  ⟨entry.1, FilePath.join directory entry.1, entry.2 = .directory⟩

/-- The first six entries, in order, of those that go on with a text in the directory that it
means. -/
def BestOf (workspace : Workspace) (text : String) (suggestions : List Suggestion) : Prop :=
  ∃ directory typed entries ranked,
    Asks (FilePath.expandHome workspace.home text) directory typed ∧
      workspace.files.listing directory = .ok entries ∧
      Ranked (entries.filter (Continues typed ·.1)) ranked ∧
      suggestions = (ranked.take 6).map (ofEntry directory)

/-! ## What is looked up -/

theorem asks_context (path : FilePath) : Asks path (context path).1 (context path).2 := by
  unfold context
  split
  case isTrue slash =>
    exact .inside (of_decide_eq_true slash)
  case isFalse noSlash =>
    have plain : path.toList.getLast? ≠ some '/' := fun slash => noSlash (decide_eq_true slash)
    cases parent : FilePath.parent? path with
    | none => exact .root plain parent
    | some directory =>
        dsimp only [Option.getD_some]
        by_cases empty : directory = ""
        · subst empty
          exact .here plain parent
        · rw [if_neg (fun isEmpty => empty (String.isEmpty_iff.mp isEmpty))]
          exact .beside plain parent empty

theorem startsWith_dot_iff (name : String) :
    ".".isPrefixOf name = true ↔ name.toList.head? = some '.' := by
  have dot : ".".toList = ['.'] := rfl
  rw [String.isPrefixOf, String.startsWith_string_iff, dot]
  cases name.toList with
  | nil => simp
  | cons c rest => simp [List.cons_prefix_cons, eq_comm]

theorem continues_iff {typed name : String} :
    continues typed name = true ↔ Continues typed name := by
  rw [continues, Bool.and_eq_true, Bool.or_eq_true, Bool.not_eq_true', ← Bool.not_eq_true,
    startsWith_dot_iff, startsWith_dot_iff, Continues, Decidable.imp_iff_not_or,
    String.isPrefixOf, String.startsWith_string_iff]

/-- The order of suggestions on the entries they are made from. -/
def entryRanksBefore (first second : String × Entry) : Bool :=
  if decide (first.2 = .directory) ≠ decide (second.2 = .directory) then first.2 = .directory
  else decide (Unicode.lower first.1 ≤ Unicode.lower second.1)

theorem not_namedBefore_iff {first second : String} :
    ¬NamedBefore second first ↔ Unicode.lower first ≤ Unicode.lower second :=
  Decidable.not_not

theorem entryRanksBefore_iff {first second : String × Entry} :
    entryRanksBefore first second = true ↔ ¬Outranks second first := by
  by_cases one : first.2 = .directory <;> by_cases other : second.2 = .directory <;>
    simp [entryRanksBefore, Outranks, one, other, not_namedBefore_iff]

theorem entryRanksBefore_total (first second : String × Entry) :
    (entryRanksBefore first second || entryRanksBefore second first) = true := by
  have total := String.le_total (Unicode.lower first.1) (Unicode.lower second.1)
  by_cases one : first.2 = .directory <;> by_cases other : second.2 = .directory <;>
    simp [entryRanksBefore, one, other, total]

theorem entryRanksBefore_trans (first second third : String × Entry)
    (before : entryRanksBefore first second = true)
    (after : entryRanksBefore second third = true) : entryRanksBefore first third = true := by
  have trans := @String.le_trans (Unicode.lower first.1) (Unicode.lower second.1)
    (Unicode.lower third.1)
  by_cases one : first.2 = .directory <;> by_cases two : second.2 = .directory <;>
    by_cases three : third.2 = .directory <;>
      simp_all [entryRanksBefore]

theorem Ties.entryRanksBefore {entry first second : String × Entry} (one : Ties entry first)
    (other : Ties entry second) : entryRanksBefore first second = true := by
  obtain ⟨kind, name⟩ := one
  obtain ⟨otherKind, otherName⟩ := other
  have sameKind : first.2 = .directory ↔ second.2 = .directory := kind.symm.trans otherKind
  simp [Suggestion.entryRanksBefore, sameKind, ← name, otherName]

theorem ranked_mergeSort (entries : List (String × Entry)) :
    Ranked entries (entries.mergeSort entryRanksBefore) := by
  have perm := List.mergeSort_perm entries entryRanksBefore
  refine ⟨perm, ?_, ?_⟩
  · exact (List.pairwise_mergeSort entryRanksBefore_trans entryRanksBefore_total entries).imp
      entryRanksBefore_iff.mp
  · intro entry
    -- What ties is in order as it stands, so sorting leaves it as it is.
    have tied : (entries.filter (Ties entry ·)).Pairwise fun first second =>
        entryRanksBefore first second = true := by
      apply List.pairwise_of_forall_mem_list
      intro first one second other
      exact (of_decide_eq_true (List.mem_filter.mp one).right).entryRanksBefore
        (of_decide_eq_true (List.mem_filter.mp other).right)
    have kept := (List.sublist_mergeSort entryRanksBefore_trans entryRanksBefore_total tied
      List.filter_sublist).filter (Ties entry ·)
    rw [List.filter_filter] at kept
    simp only [Bool.and_self] at kept
    exact (kept.eq_of_length (perm.filter _).length_eq.symm).symm

theorem ranksBefore_ofEntry (directory : FilePath) (first second : String × Entry) :
    ranksBefore (ofEntry directory first) (ofEntry directory second) =
      entryRanksBefore first second :=
  rfl

theorem completing_bestOf (workspace : Workspace) (text : String) :
    completing workspace text = [] ∨ BestOf workspace text (completing workspace text) := by
  have asks := asks_context (FilePath.expandHome workspace.home text)
  unfold completing BestOf
  split
  case isTrue => exact Or.inl rfl
  case isFalse =>
    generalize context (FilePath.expandHome workspace.home text) = asked at asks ⊢
    obtain ⟨directory, typed⟩ := asked
    dsimp only at asks ⊢
    split
    case h_1 => exact Or.inl rfl
    case h_2 entries listed =>
      have continuing : (entries.filter fun entry => continues typed entry.1) =
          entries.filter (Continues typed ·.1) :=
        List.filter_congr fun _ _ =>
          Bool.eq_iff_iff.mpr (continues_iff.trans decide_eq_true_iff.symm)
      refine Or.inr ⟨directory, typed, entries, _, asks, listed, ranked_mergeSort _, ?_⟩
      rw [continuing, List.map_take, List.map_mergeSort fun first _ second _ =>
        (ranksBefore_ofEntry directory first second).symm]
      rfl

theorem completing_nothing (workspace : Workspace) : completing workspace "" = [] :=
  rfl

end Suggestion

/-! ## Suggestions of a field -/

namespace PathField

/-- What a path field suggests and highlights. -/
structure Suggesting (workspace : Workspace) (path : PathField) : Prop where
  best : path.suggestions = [] ∨
    Suggestion.BestOf workspace path.field.value path.suggestions
  highlight : ∀ place, path.highlight = some place → place < path.suggestions.length
  nothing : path.field.isEmpty = true → path.suggestions = []

/-- The suggestions are those that were looked up last, or they were dropped. -/
structure LookedUp (workspace : Workspace) (path : PathField) : Prop where
  completing : path.suggestions = [] ∨
    path.suggestions = Suggestion.completing workspace path.lookedUp
  highlight : ∀ place, path.highlight = some place → place < path.suggestions.length

/-- And what was looked up is the text of the field. -/
structure UpToDate (workspace : Workspace) (path : PathField) : Prop
    extends LookedUp workspace path where
  same : path.suggestions = [] ∨ path.lookedUp = path.field.value

variable {workspace : Workspace} {path : PathField}

theorem UpToDate.suggesting (current : UpToDate workspace path) : Suggesting workspace path := by
  have completing : path.suggestions = [] ∨
      path.suggestions = Suggestion.completing workspace path.field.value := by
    rcases current.same with none | same
    · exact Or.inl none
    · rw [← same]
      exact current.completing
  refine ⟨?_, current.highlight, ?_⟩
  · rcases completing with none | some
    · exact Or.inl none
    · rw [some]
      exact Suggestion.completing_bestOf workspace path.field.value
  · intro empty
    rcases completing with none | some
    · exact none
    · rw [some, TextField.value, List.isEmpty_iff.mp empty]
      exact Suggestion.completing_nothing workspace

/-- Without suggestions there is nothing that could be wrong. -/
theorem UpToDate.of_none (none : path.suggestions = []) (plain : path.highlight = .none) :
    UpToDate workspace path := by
  refine ⟨⟨Or.inl none, ?_⟩, Or.inl none⟩
  intro place highlighted
  rw [plain] at highlighted
  contradiction

theorem upToDate_empty (workspace : Workspace) : UpToDate workspace empty :=
  .of_none rfl rfl

/-- To look the text up again is right whatever became of it. -/
theorem LookedUp.refresh (looked : LookedUp workspace path) :
    UpToDate workspace (path.refresh workspace) := by
  unfold PathField.refresh
  dsimp only
  split
  case isTrue same => exact ⟨looked, Or.inr same.symm⟩
  case isFalse =>
    refine ⟨⟨Or.inr ?_, ?_⟩, Or.inr ?_⟩
    · dsimp only
    · intro place highlighted
      contradiction
    · dsimp only

theorem LookedUp.withField (looked : LookedUp workspace path) (field : TextField) :
    LookedUp workspace { path with field := field } :=
  ⟨looked.completing, looked.highlight⟩

namespace UpToDate

theorem dismiss (path : PathField) : UpToDate workspace path.dismiss :=
  .of_none rfl rfl

theorem clear (path : PathField) : UpToDate workspace path.clear :=
  .of_none rfl rfl

variable (current : UpToDate workspace path)

include current

theorem edit (change : Edit) : UpToDate workspace (path.edit workspace change) :=
  (current.toLookedUp.withField _).refresh

theorem highlightNext : UpToDate workspace path.highlightNext := by
  unfold PathField.highlightNext
  split
  case isTrue => exact current
  case isFalse some =>
    have positive : 0 < path.suggestions.length :=
      List.length_pos_iff.mpr fun none => some (List.isEmpty_iff.mpr none)
    refine ⟨⟨current.completing, ?_⟩, current.same⟩
    intro place highlighted
    rw [← Option.some.inj highlighted]
    split <;> dsimp only <;> omega

theorem highlightPrevious : UpToDate workspace path.highlightPrevious := by
  refine ⟨⟨current.completing, ?_⟩, current.same⟩
  intro place highlighted
  unfold PathField.highlightPrevious at highlighted
  dsimp only at highlighted
  split at highlighted
  case h_1 next was =>
    have within := current.highlight (next + 1) was
    rw [← Option.some.inj highlighted]
    exact Nat.lt_of_succ_lt within
  case h_2 => contradiction

theorem accept : UpToDate workspace (path.accept workspace) := by
  unfold PathField.accept
  split
  case h_1 => exact current
  case h_2 => exact (UpToDate.of_none rfl rfl).toLookedUp.refresh

end UpToDate

/-! ## Steps -/

/-- What an answer of a panel makes of its path field. -/
inductive Step (workspace : Workspace) (path : PathField) : PathField → Prop
  | kept : Step workspace path path
  | dismissed : Step workspace path path.dismiss
  | cleared : Step workspace path path.clear
  | edited (change : Edit) : Step workspace path (path.edit workspace change)
  | refreshed : Step workspace path (path.refresh workspace)
  | highlightedNext : Step workspace path path.highlightNext
  | highlightedPrevious : Step workspace path path.highlightPrevious
  | accepted : Step workspace path (path.accept workspace)
  | taken : Step workspace path (path.accept workspace).clear

theorem UpToDate.step {next : PathField} (current : UpToDate workspace path)
    (step : Step workspace path next) : UpToDate workspace next := by
  cases step with
  | kept => exact current
  | dismissed => exact .dismiss path
  | cleared => exact .clear path
  | edited change => exact current.edit change
  | refreshed => exact current.toLookedUp.refresh
  | highlightedNext => exact current.highlightNext
  | highlightedPrevious => exact current.highlightPrevious
  | accepted => exact current.accept
  | taken => exact .clear _

end PathField

end DocsConsole
