import DocsConsole.Editor.Field
import DocsConsole.Text.Lines

/-!
# Where the cursor of a field stands

The cursor is a number of bytes, so it could stand inside a character or beyond the end.
No change to a field leaves it there: an edit puts it at the end of what it makes of the
text before it, and a move to another line goes to the end of a beginning of that line.
Text that is put at the cursor then stands between what was before and after it.
-/

namespace DocsConsole

/-! ## The lines of a text -/

namespace Text

theorem eq_of_lastLines {text current above : List Char} {earlier : List (List Char)}
    (divided : (splitAtFeeds text).reverse = current :: above :: earlier) :
    text = earlier.reverse.flatMap (· ++ ['\n']) ++ above ++ '\n' :: current := by
  have pieces : splitAtFeeds text = earlier.reverse ++ [above, current] := by
    rw [← List.reverse_reverse (splitAtFeeds text), divided]
    simp
  have fed := flatMap_splitAtFeeds text
  rw [pieces] at fed
  have joined : text ++ ['\n'] =
      earlier.reverse.flatMap (· ++ ['\n']) ++ above ++ '\n' :: current ++ ['\n'] := by
    rw [← fed]
    simp
  exact List.append_cancel_right joined

/-- The last line feed that the lines are written with is not one of the text. -/
theorem eq_of_firstLines {text rest below : List Char} {more : List (List Char)}
    (divided : splitAtFeeds text = rest :: below :: more) :
    text = rest ++ '\n' :: below ++ ('\n' :: more.flatMap (· ++ ['\n'])).dropLast := by
  have fed := flatMap_splitAtFeeds text
  rw [divided] at fed
  calc
    text = (text ++ ['\n']).dropLast := List.dropLast_concat.symm
    _ = (rest ++ '\n' :: below ++ '\n' :: more.flatMap (· ++ ['\n'])).dropLast := by
      rw [← fed]
      simp
    _ = _ := List.dropLast_append_of_ne_nil (List.cons_ne_nil _ _)

end Text

namespace TextField

/-- The cursor stands between two parts of the text. -/
def Placed (field : TextField) : Prop :=
  ∃ front back, field.content = front ++ back ∧ field.cursor = Text.byteCount front

theorem placed_withBefore (field : TextField) (text : List Char) :
    (field.withBefore text).Placed :=
  ⟨text, field.after, rfl, rfl⟩

theorem placed_setValue (field : TextField) (value : String) : (field.setValue value).Placed :=
  ⟨value.toList, [], (List.append_nil _).symm, rfl⟩

theorem placed_clear (field : TextField) : field.clear.Placed :=
  ⟨[], [], rfl, rfl⟩

theorem placed_empty (kind : FieldKind) : (empty kind).Placed :=
  ⟨[], [], rfl, rfl⟩

/-! ## Moving between lines -/

theorem bytesOfLines_eq (lines : List (List Char)) :
    bytesOfLines lines = Text.byteCount (lines.reverse.flatMap (· ++ ['\n'])) := by
  induction lines with
  | nil => rfl
  | cons line lines induction =>
      have feed : Char.utf8Size '\n' = 1 := by decide
      simp [bytesOfLines, feed] at induction ⊢
      omega

/-- The cursor stands at the end of a beginning of a line. -/
theorem placed_in_line {field : TextField} (before line after : List Char) (column : Nat)
    (content : field.content = before ++ line ++ after)
    (cursor : field.cursor = Text.byteCount before + Text.byteCount (Text.takeBytes column line)) :
    field.Placed := by
  have divided : line = Text.takeBytes column line ++ Text.dropBytes column line :=
    (Text.takeBytes_append_dropBytes column line).symm
  refine ⟨before ++ Text.takeBytes column line, Text.dropBytes column line ++ after, ?_, ?_⟩
  · calc
      field.content = before ++ line ++ after := content
      _ = before ++ (Text.takeBytes column line ++ Text.dropBytes column line) ++ after :=
        congrArg (before ++ · ++ after) divided
      _ = before ++ Text.takeBytes column line ++ (Text.dropBytes column line ++ after) := by
        simp only [List.append_assoc]
  · rw [cursor, Text.byteCount_append]

theorem placed_of_up? {field moved : TextField} (moves : field.up? = some moved) :
    moved.Placed := by
  unfold up? at moves
  split at moves
  case h_1 current above earlier _ lines =>
    cases moves
    have before := Text.eq_of_lastLines lines
    refine placed_in_line (earlier.reverse.flatMap (· ++ ['\n'])) above
      ('\n' :: current ++ field.after) (Text.byteCount current) ?_ ?_
    · have content : field.content = field.before ++ field.after := field.before_append_after.symm
      rw [content, before]
      simp only [List.append_assoc]
    · rw [← bytesOfLines_eq]
  case h_2 => contradiction

theorem placed_of_down? {field moved : TextField} (moves : field.down? = some moved) :
    moved.Placed := by
  unfold down? at moves
  split at moves
  case h_1 current rest below more _ _ lines =>
    cases moves
    have after := Text.eq_of_firstLines lines
    have feed : Char.utf8Size '\n' = 1 := by decide
    refine placed_in_line (field.before ++ rest ++ ['\n']) below
      ('\n' :: more.flatMap (· ++ ['\n'])).dropLast (Text.byteCount current) ?_ ?_
    · have content : field.content = field.before ++ field.after := field.before_append_after.symm
      rw [content, after]
      simp
    · simp [feed]
      omega
  case h_2 => contradiction

namespace Placed

variable {field : TextField} (placed : field.Placed)

include placed

theorem byteCount_before : Text.byteCount field.before = field.cursor := by
  obtain ⟨front, back, content, cursor⟩ := placed
  have same : field.before = front := by
    unfold before
    rw [cursor, content]
    exact Text.takeBytes_byteCount_append front back
  rw [same, cursor]

theorem eq_parted :
    field = ⟨field.kind, field.before ++ field.after, Text.byteCount field.before⟩ := by
  rw [placed.byteCount_before, field.before_append_after]

theorem up : field.up.Placed := by
  unfold TextField.up
  cases moves : field.up? with
  | none => exact placed
  | some moved => exact placed_of_up? moves

theorem down : field.down.Placed := by
  unfold TextField.down
  cases moves : field.down? with
  | none => exact placed
  | some moved => exact placed_of_down? moves

theorem edit (change : Edit) : (field.edit change).Placed := by
  cases change with
  | character c =>
      change (field.typeCharacter c).Placed
      unfold typeCharacter
      split
      · exact placed
      · exact placed_withBefore _ _
  | newline =>
      simp only [TextField.edit, edit?]
      split
      · exact placed_withBefore _ _
      · exact placed
  | eraseCharacter => exact placed_withBefore _ _
  | eraseWord => exact placed_withBefore _ _
  | paste text => exact placed_withBefore _ _

end Placed

/-! ## Text that is put at the cursor -/

/-- A text is put at the cursor, and the cursor stands after it. -/
inductive Inserted (text : List Char) : TextField → TextField → Prop where
  | between (kind : FieldKind) (front back : List Char) :
      Inserted text ⟨kind, front ++ back, Text.byteCount front⟩
        ⟨kind, front ++ text ++ back, Text.byteCount (front ++ text)⟩

theorem Placed.inserted {field : TextField} (placed : field.Placed) (text : List Char) :
    Inserted text field (field.insert text) := by
  have inserted := @Inserted.between text field.kind field.before field.after
  rw [← placed.eq_parted] at inserted
  exact inserted

theorem Placed.inserted_nothing {field : TextField} (placed : field.Placed) :
    Inserted [] field field := by
  have inserted := @Inserted.between [] field.kind field.before field.after
  rw [List.append_nil, ← placed.eq_parted] at inserted
  exact inserted

/-- To put one text at the cursor and then another one is to put both there. -/
theorem Inserted.trans {first second : List Char} {before middle after : TextField}
    (former : Inserted first before middle) (latter : Inserted second middle after) :
    Inserted (first ++ second) before after := by
  obtain ⟨kind, front, back⟩ := former
  generalize parted : (⟨kind, front ++ first ++ back, Text.byteCount (front ++ first)⟩ :
    TextField) = middle at latter
  obtain ⟨_, farFront, farBack⟩ := latter
  obtain ⟨rfl, content, cursor⟩ := TextField.mk.inj parted
  -- Both divisions are made after the same number of bytes.
  have sameFront : front ++ first = farFront := by
    rw [← Text.takeBytes_byteCount_append (front ++ first) back, content, cursor]
    exact Text.takeBytes_byteCount_append farFront farBack
  subst sameFront
  have sameBack : back = farBack := List.append_cancel_left content
  subst sameBack
  have whole := @Inserted.between (first ++ second) kind front back
  rw [← List.append_assoc front first second] at whole
  exact whole

end TextField

end DocsConsole
