import DocsConsole.Text.Lines

/-!
# Lines put together

The lines of a text are the text without its line ends.  Where a text is cut into pieces, the lines
of the pieces are those of the text unless a line is cut.
-/

namespace DocsConsole.Text

/-! ## Without line ends -/

/-- The characters of a text but its line ends. -/
def withoutEnds : List Char → List Char
  | [] => []
  | '\r' :: '\n' :: rest => withoutEnds rest
  | '\n' :: rest => withoutEnds rest
  | c :: rest => c :: withoutEnds rest

def withoutLineEnds (text : String) : String :=
  String.ofList (withoutEnds text.toList)

theorem withoutEnds_cons {c : Char} (noFeed : c ≠ '\n') {rest : List Char}
    (goesOn : rest.head? ≠ some '\n') : withoutEnds (c :: rest) = c :: withoutEnds rest := by
  rw [withoutEnds]
  · rintro others rfl rfl
    exact goesOn rfl
  · exact noFeed

theorem withoutReturn_cons (c : Char) {line : List Char} (more : line ≠ []) :
    withoutReturn (c :: line) = c :: withoutReturn line := by
  rw [withoutReturn, withoutReturn, List.getLast?_cons_of_ne_nil more, List.dropLast_cons_of_ne_nil more]
  split <;> rfl

theorem withoutEnds_line {line : List Char} (unended : ∀ c ∈ line, c ≠ '\n') (rest : List Char) :
    withoutEnds (line ++ '\n' :: rest) = withoutReturn line ++ withoutEnds rest := by
  induction line with
  | nil => rfl
  | cons c line induction =>
      obtain ⟨other, unendedToo⟩ := List.forall_mem_cons.mp unended
      cases line with
      | nil =>
          by_cases returned : c = '\r'
          · subst returned
            rfl
          · have single : withoutReturn [c] = [c] := by
              rw [withoutReturn, if_neg]
              simpa using returned
            rw [single, List.cons_append, List.nil_append, withoutEnds, withoutEnds]
            · rfl
            · rintro others rfl
              exact fun _ => returned rfl
            · exact other
      | cons d line =>
          have next : d ≠ '\n' := unendedToo d List.mem_cons_self
          rw [withoutReturn_cons c (List.cons_ne_nil d line), List.cons_append,
            withoutEnds_cons other (by simpa using next),
            induction unendedToo]
          rfl

theorem withoutEnds_of_unended {line : List Char} (unended : ∀ c ∈ line, c ≠ '\n') :
    withoutEnds line = line := by
  induction line with
  | nil => rfl
  | cons c line induction =>
      obtain ⟨other, unendedToo⟩ := List.forall_mem_cons.mp unended
      rw [withoutEnds_cons other, induction unendedToo]
      exact fun first => unendedToo _ (List.mem_of_mem_head? first) rfl

theorem flatten_linesFrom {line : List Char} (unended : ∀ c ∈ line, c ≠ '\n') (text : List Char) :
    (linesFrom line text).flatten = withoutEnds (line.reverse ++ text) := by
  fun_induction linesFrom line text with
  | case1 line empty =>
      rw [List.isEmpty_iff.mp empty]
      rfl
  | case2 line more =>
      have kept := withoutEnds_of_unended fun c member => unended c (List.mem_reverse.mp member)
      rw [List.append_nil, kept]
      exact List.append_nil _
  | case3 line rest induction =>
      have ended := withoutEnds_line (fun c member => unended c (List.mem_reverse.mp member)) rest
      rw [List.flatten_cons, induction nofun, ended]
      rfl
  | case4 line c rest other induction =>
      rw [induction (List.forall_mem_cons.mpr ⟨other, unended⟩), List.reverse_cons,
        List.append_assoc]
      rfl

/-- The lines of a text are the text without its line ends. -/
theorem join_lines (text : String) : String.join (lines text) = withoutLineEnds text := by
  apply String.toList_injective
  rw [String.toList_join, lines, List.flatMap_map, withoutLineEnds, String.toList_ofList]
  simp only [String.toList_ofList]
  rw [List.flatMap_id', flatten_linesFrom (List.forall_mem_nil (· ≠ '\n'))]
  rfl

/-! ## A text in pieces -/

/-- Whether no line is left open at the end of a text. -/
def endsLine (text : List Char) : Bool :=
  text.getLast?.all (· == '\n')

theorem endsLine_append (before : List Char) {after : List Char} (more : after ≠ []) :
    endsLine (before ++ after) = endsLine after := by
  rw [endsLine, endsLine, List.getLast?_append, List.getLast?_eq_some_getLast more, Option.some_or]

theorem endsLine_feed (rest : List Char) : endsLine ('\n' :: rest) = endsLine rest := by
  cases rest with
  | nil => rfl
  | cons c rest => rw [endsLine, endsLine, List.getLast?_cons_cons]

theorem endsLine_reverse {c : Char} (other : c ≠ '\n') (line : List Char) :
    endsLine (c :: line).reverse = false := by
  rw [List.reverse_cons, endsLine_append _ (List.cons_ne_nil c [])]
  exact beq_eq_false_iff_ne.mpr other

section

variable {line : List Char} (unended : ∀ c ∈ line, c ≠ '\n')

include unended

/-- The number of lines of a text. -/
theorem length_linesFrom (text : List Char) :
    (linesFrom line text).length =
      text.count '\n' + if endsLine (line.reverse ++ text) then 0 else 1 := by
  fun_induction linesFrom line text with
  | case1 line empty =>
      rw [List.isEmpty_iff.mp empty]
      rfl
  | case2 line more =>
      cases line with
      | nil => exact absurd rfl more
      | cons c line =>
          rw [List.append_nil, endsLine_reverse (unended c List.mem_cons_self)]
          rfl
  | case3 line rest induction =>
      rw [List.length_cons, induction nofun, List.count_cons_self,
        endsLine_append _ (List.cons_ne_nil _ rest), endsLine_feed]
      exact Nat.add_right_comm _ _ 1
  | case4 line c rest other induction =>
      rw [induction (List.forall_mem_cons.mpr ⟨other, unended⟩), List.reverse_cons,
        List.append_assoc, List.count_cons_of_ne other]
      rfl

theorem linesFrom_append_of_endsLine {before : List Char} (ended : endsLine (line.reverse ++ before) = true)
    (after : List Char) :
    linesFrom line (before ++ after) = linesFrom line before ++ linesFrom [] after := by
  fun_induction linesFrom line before with
  | case1 line empty =>
      rw [List.isEmpty_iff.mp empty]
      rfl
  | case2 line more =>
      cases line with
      | nil => exact absurd rfl more
      | cons c line =>
          rw [List.append_nil, endsLine_reverse (unended c List.mem_cons_self)] at ended
          cases ended
  | case3 line rest induction =>
      rw [endsLine_append _ (List.cons_ne_nil _ rest), endsLine_feed] at ended
      rw [List.cons_append, linesFrom, induction nofun ended]
      rfl
  | case4 line c rest other induction =>
      rw [List.cons_append, linesFrom.eq_3 line c (rest ++ after) other]
      refine induction (List.forall_mem_cons.mpr ⟨other, unended⟩) ?_
      rw [List.reverse_cons, List.append_assoc]
      exact ended

end

/-! ## Lines of texts -/

theorem length_lines (text : String) :
    (lines text).length = text.toList.count '\n' + if endsLine text.toList then 0 else 1 := by
  rw [lines, List.length_map, length_linesFrom (List.forall_mem_nil (· ≠ '\n'))]
  rfl

/-- A text whose line feed, if any, stands at its end has one line at most. -/
theorem length_lines_le_one {text : List Char} (noFeed : '\n' ∉ text.dropLast) :
    (lines (String.ofList text)).length ≤ 1 := by
  rw [length_lines, String.toList_ofList]
  rcases List.eq_nil_or_concat text with rfl | ⟨front, last, rfl⟩
  · exact Nat.zero_le 1
  · rw [List.concat_eq_append, List.dropLast_concat] at noFeed
    rw [List.concat_eq_append, List.count_append, List.count_eq_zero.mpr noFeed, Nat.zero_add,
      endsLine_append front (List.cons_ne_nil last [])]
    by_cases feed : last = '\n'
    · subst feed
      exact Nat.le_refl 1
    · have opened : endsLine [last] = false := beq_eq_false_iff_ne.mpr feed
      have others : List.count '\n' [last] = 0 := List.count_cons_of_ne feed
      simp [others, opened]

theorem lines_append {before : String} (ended : endsLine before.toList = true) (after : String) :
    lines (before ++ after) = lines before ++ lines after := by
  have divided : linesFrom [] (before.toList ++ after.toList) =
      linesFrom [] before.toList ++ linesFrom [] after.toList :=
    linesFrom_append_of_endsLine (List.forall_mem_nil _) ended after.toList
  rw [lines, String.toList_append, divided, List.map_append]
  rfl

/-- A line that is cut makes two. -/
theorem length_lines_append {before after : String} (opened : endsLine before.toList = false)
    (more : after ≠ "") :
    (lines (before ++ after)).length + 1 = (lines before).length + (lines after).length := by
  have rest : after.toList ≠ [] := fun nothing => more (String.toList_eq_nil_iff.mp nothing)
  rw [length_lines, length_lines, length_lines, String.toList_append, endsLine_append _ rest,
    opened, List.count_append]
  simp only [Bool.false_eq_true, if_false]
  omega

theorem length_lines_append_le (before after : String) :
    (lines (before ++ after)).length ≤ (lines before).length + (lines after).length := by
  cases ended : endsLine before.toList with
  | true =>
      have together := congrArg List.length (lines_append ended after)
      exact Nat.le_of_eq (together.trans List.length_append)
  | false =>
      by_cases more : after = ""
      · rw [more, String.append_empty]
        exact Nat.le_add_right _ _
      · have cut := length_lines_append ended more
        omega

theorem length_lines_join_le (texts : List String) :
    (lines (String.join texts)).length ≤ (texts.flatMap lines).length := by
  induction texts with
  | nil => exact Nat.le_refl 0
  | cons text texts induction =>
      rw [String.join_cons, List.flatMap_cons, List.length_append]
      exact Nat.le_trans (length_lines_append_le text _) (Nat.add_le_add_left induction _)

theorem join_eq_empty_iff {texts : List String} :
    String.join texts = "" ↔ ∀ text ∈ texts, text = "" := by
  induction texts with
  | nil => exact ⟨fun _ => nofun, fun _ => rfl⟩
  | cons text texts induction =>
      rw [String.join_cons, String.append_eq_empty_iff, induction, List.forall_mem_cons]

/-- Texts have the lines of the text that they are together, unless a text that leaves a line open
is followed by more. -/
theorem flatMap_lines_eq_iff (texts : List String) :
    texts.flatMap lines = lines (String.join texts) ↔
      texts.Pairwise fun text later => endsLine text.toList = true ∨ later = "" := by
  induction texts with
  | nil => exact ⟨fun _ => .nil, fun _ => rfl⟩
  | cons text texts induction =>
      rw [String.join_cons, List.flatMap_cons, List.pairwise_cons, ← induction]
      cases ended : endsLine text.toList with
      | true =>
          rw [lines_append ended, List.append_cancel_left_eq]
          exact ⟨fun same => ⟨fun _ _ => .inl rfl, same⟩, And.right⟩
      | false =>
          by_cases more : String.join texts = ""
          · have empty := join_eq_empty_iff.mp more
            have nothing : texts.flatMap lines = [] := by
              rw [List.flatMap_eq_nil_iff]
              intro later member
              rw [empty later member]
              rfl
            rw [more, nothing, String.append_empty, List.append_nil]
            exact ⟨fun _ => ⟨fun later member => .inr (empty later member), rfl⟩, fun _ => rfl⟩
          · refine ⟨fun same => ?_, fun ⟨closed, _⟩ => ?_⟩
            · have cut := length_lines_append ended more
              have rest := length_lines_join_le texts
              rw [← same, List.length_append] at cut
              omega
            · refine absurd (join_eq_empty_iff.mpr fun later member => ?_) more
              exact (closed later member).resolve_left nofun

end DocsConsole.Text
