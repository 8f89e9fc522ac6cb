import DocsConsole.Proofs.Editor.Encoded
import Mathlib.Order.Bounds.Basic

/-!
# Going from line to line

The cursor of a field of several lines can go up and down.  It then stands in the next line, at the
greatest distance from its beginning that divides no character and is none greater than before.
So to go up and then down is to come back, or to a place before it in the same line.

The field is held here as the lines above the cursor, the line that it parts, and the lines below;
a move then takes one line from one side and puts another one on the other.
-/

namespace DocsConsole

/-! ## Where a cursor stands -/

namespace TextField

variable (field : TextField)

def lines : List (List Char) :=
  Text.splitAtFeeds field.content

/-- The number of lines above the cursor. -/
def line : Nat :=
  field.before.count '\n'

/-- The number of bytes before the cursor in its line. -/
def column : Nat :=
  field.cursor - bytesOfLines (field.lines.take field.line)

/-- The cursor is moved to the last place between characters of a line that is not beyond its
column, and nothing else is changed. -/
structure MovesTo (target : Nat) (field moved : TextField) : Prop where
  kind : moved.kind = field.kind
  content : moved.content = field.content
  placed : moved.Placed
  line : moved.line = target
  column : ∃ text, field.lines[target]? = some text ∧
    IsGreatest {offset | EncodedField.isBoundary (Text.encode text) offset = true ∧
      offset ≤ field.column} moved.column

end TextField

/-! ## Lines and offsets -/

namespace Text

theorem splitAtFeeds_eq {text : List Char} {lines : List (List Char)}
    (unended : ∀ line ∈ lines, '\n' ∉ line)
    (whole : text ++ ['\n'] = lines.flatMap (· ++ ['\n'])) : splitAtFeeds text = lines := by
  have pieces : ∀ piece ∈ splitAtFeeds text, '\n' ∉ piece := fun _ => not_mem_of_mem_splitAtFeeds
  have divided := splitAtFeeds_lines pieces []
  rw [flatMap_splitAtFeeds, whole, splitAtFeeds_lines unended] at divided
  exact (List.append_cancel_right divided).symm

theorem splitAtFeeds_injective {left right : List Char}
    (same : splitAtFeeds left = splitAtFeeds right) : left = right := by
  have fed := flatMap_splitAtFeeds left
  rw [same, flatMap_splitAtFeeds] at fed
  exact (List.append_cancel_right fed).symm

theorem isGreatest_takeBytes (column : Nat) (line : List Char) :
    IsGreatest {offset | EncodedField.isBoundary (encode line) offset = true ∧ offset ≤ column}
      (byteCount (takeBytes column line)) := by
  constructor
  · have boundary := EncodedField.isBoundary_encode (takeBytes column line) (dropBytes column line)
    rw [takeBytes_append_dropBytes] at boundary
    exact ⟨boundary, byteCount_takeBytes_le column line⟩
  · rintro offset ⟨boundary, le⟩
    have reached := EncodedField.byteCount_takeBytes_of_isBoundary boundary
    by_contra beyond
    have fits : byteCount (takeBytes column line) ≤ offset := by omega
    rw [EncodedField.takeBytes_eq_of_le le fits] at reached
    omega

end Text

/-! ## The lines around the cursor -/

/-- A text in lines, with a cursor in one of them. -/
structure LinePlace where
  /-- The lines above the cursor, the nearest one first. -/
  above : List (List Char)
  front : List Char
  back : List Char
  below : List (List Char)
  unended : ∀ line ∈ above.reverse ++ (front ++ back) :: below, '\n' ∉ line

namespace LinePlace

/-- The line above is divided by the number of bytes before the cursor. -/
def raised? : LinePlace → Option LinePlace
  | ⟨[], _, _, _, _⟩ => none
  | ⟨line :: above, front, back, below, unended⟩ =>
      some {
        above := above
        front := Text.takeBytes (Text.byteCount front) line
        back := Text.dropBytes (Text.byteCount front) line
        below := (front ++ back) :: below
        unended := by simpa [Text.takeBytes_append_dropBytes] using unended }

/-- The line below is divided by the number of bytes before the cursor. -/
def lowered? : LinePlace → Option LinePlace
  | ⟨_, _, _, [], _⟩ => none
  | ⟨above, front, back, line :: below, unended⟩ =>
      some {
        above := (front ++ back) :: above
        front := Text.takeBytes (Text.byteCount front) line
        back := Text.dropBytes (Text.byteCount front) line
        below := below
        unended := by simpa [Text.takeBytes_append_dropBytes] using unended }

variable (kind : FieldKind) (place : LinePlace)

def lines : List (List Char) :=
  place.above.reverse ++ (place.front ++ place.back) :: place.below

theorem getElem?_lines : place.lines[place.above.length]? = some (place.front ++ place.back) := by
  rw [lines, ← List.length_reverse, List.getElem?_append_right (Nat.le_refl _), Nat.sub_self]
  rfl

def parted : Parted :=
  ⟨place.above.reverse.flatMap (· ++ ['\n']) ++ place.front,
    place.back ++ place.below.flatMap ('\n' :: ·)⟩

def field : TextField :=
  place.parted.field kind

/-! ### What the field makes of a place -/

theorem unended_iff {above below : List (List Char)} {front back : List Char} :
    (∀ line ∈ above ++ (front ++ back) :: below, '\n' ∉ line) ↔
      (∀ line ∈ above ++ [front], '\n' ∉ line) ∧ ∀ line ∈ back :: below, '\n' ∉ line := by
  rw [List.forall_mem_append, List.forall_mem_append, List.forall_mem_singleton,
    List.forall_mem_cons, List.forall_mem_cons, List.mem_append, not_or, and_assoc, and_assoc]

theorem feeds_first (lines : List (List Char)) :
    '\n' :: lines.flatMap (· ++ ['\n']) = lines.flatMap ('\n' :: ·) ++ ['\n'] := by
  induction lines with
  | nil => rfl
  | cons line lines induction =>
      rw [List.flatMap_cons, List.flatMap_cons, List.append_assoc, List.singleton_append, induction]
      simp only [List.cons_append, List.append_assoc]

theorem splitAtFeeds_before :
    Text.splitAtFeeds (place.field kind).before = place.above.reverse ++ [place.front] := by
  rw [field, Parted.before_field]
  apply Text.splitAtFeeds_eq (unended_iff.mp place.unended).left
  rw [List.flatMap_append, List.flatMap_singleton, ← List.append_assoc]
  rfl

theorem splitAtFeeds_after :
    Text.splitAtFeeds (place.field kind).after = place.back :: place.below := by
  rw [field, Parted.after_field]
  apply Text.splitAtFeeds_eq (unended_iff.mp place.unended).right
  rw [List.flatMap_cons, parted, List.append_assoc, List.append_assoc, List.singleton_append,
    feeds_first]

/-- The lines, each with a line feed, are the text with one more line feed. -/
theorem content_field :
    (place.field kind).content ++ ['\n'] = place.lines.flatMap (· ++ ['\n']) := by
  change place.parted.before ++ place.parted.after ++ ['\n'] = _
  rw [parted, lines, List.flatMap_append, List.flatMap_cons]
  simp only [List.append_assoc, List.singleton_append, feeds_first]

theorem lines_field : (place.field kind).lines = place.lines :=
  Text.splitAtFeeds_eq place.unended (place.content_field kind)

theorem line_field : (place.field kind).line = place.above.length := by
  have length := Text.length_splitAtFeeds (place.field kind).before
  rw [splitAtFeeds_before, List.length_append, List.length_reverse] at length
  exact (Nat.succ.inj length).symm

theorem bytesOfLines_above :
    TextField.bytesOfLines ((place.field kind).lines.take (place.field kind).line) =
      TextField.bytesOfLines place.above := by
  have above : place.lines.take place.above.reverse.length = place.above.reverse := List.take_left
  rw [lines_field, line_field, ← List.length_reverse, above, TextField.bytesOfLines,
    List.map_reverse, List.sum_reverse]
  rfl

theorem cursor_field : (place.field kind).cursor =
    TextField.bytesOfLines place.above + Text.byteCount place.front := by
  rw [TextField.bytesOfLines_eq, ← Text.byteCount_append]
  rfl

theorem column_field : (place.field kind).column = Text.byteCount place.front := by
  rw [TextField.column, bytesOfLines_above, cursor_field, Nat.add_sub_cancel_left]

theorem placed_field : (place.field kind).Placed :=
  ⟨place.parted.before, place.parted.after, rfl, rfl⟩

/-! ### What a move makes of a place -/

/-- The same text, with the cursor in a line that is divided by the number of bytes before the
cursor in its old one. -/
structure Follows (place next : LinePlace) : Prop where
  lines : next.lines = place.lines
  front : next.front = Text.takeBytes (Text.byteCount place.front) (next.front ++ next.back)

variable {place} {next : LinePlace}

theorem follows_of_raised? (moves : place.raised? = some next) :
    place.Follows next ∧ next.above.length + 1 = place.above.length := by
  obtain ⟨above, front, back, below, unended⟩ := place
  cases above with
  | nil => contradiction
  | cons line above =>
      cases moves
      have whole := Text.takeBytes_append_dropBytes (Text.byteCount front) line
      refine ⟨⟨?_, ?_⟩, rfl⟩
      · simp [lines, whole]
      · rw [whole]

theorem follows_of_lowered? (moves : place.lowered? = some next) :
    place.Follows next ∧ next.above.length = place.above.length + 1 := by
  obtain ⟨above, front, back, below, unended⟩ := place
  cases below with
  | nil => contradiction
  | cons line below =>
      cases moves
      have whole := Text.takeBytes_append_dropBytes (Text.byteCount front) line
      refine ⟨⟨?_, ?_⟩, rfl⟩
      · simp [lines, whole]
      · rw [whole]

namespace Follows

variable (follows : place.Follows next)

include follows

theorem content : (next.field kind).content = (place.field kind).content := by
  apply Text.splitAtFeeds_injective
  exact (next.lines_field kind).trans (follows.lines.trans (place.lines_field kind).symm)

theorem eq_field {cursor : Nat}
    (same : cursor = TextField.bytesOfLines next.above + Text.byteCount next.front) :
    { place.field kind with cursor := cursor } = next.field kind := by
  rw [← next.cursor_field kind] at same
  have content := follows.content kind
  subst same
  exact congrArg (fun text => (⟨kind, text, (next.field kind).cursor⟩ : TextField)) content.symm

theorem movesTo : TextField.MovesTo next.above.length (place.field kind) (next.field kind) where
  kind := rfl
  content := follows.content kind
  placed := next.placed_field kind
  line := next.line_field kind
  column := by
    refine ⟨next.front ++ next.back, ?_, ?_⟩
    · rw [place.lines_field, ← follows.lines]
      exact next.getElem?_lines
    · have greatest := Text.isGreatest_takeBytes (Text.byteCount place.front)
        (next.front ++ next.back)
      rw [← follows.front] at greatest
      rw [column_field, column_field]
      exact greatest

end Follows

theorem up?_field (place : LinePlace) :
    (place.field .multi).up? = place.raised?.map (field .multi) := by
  have before : (Text.splitAtFeeds (place.field .multi).before).reverse =
      place.front :: place.above := by
    rw [splitAtFeeds_before, List.reverse_append, List.reverse_reverse]
    rfl
  have several : (place.field .multi).kind = .multi := rfl
  rw [TextField.up?, before, several]
  obtain ⟨above, front, back, below, unended⟩ := place
  cases above with
  | nil => rfl
  | cons line above =>
      have moves : raised? ⟨line :: above, front, back, below, unended⟩ = some _ := rfl
      obtain ⟨follows, -⟩ := follows_of_raised? moves
      exact congrArg some (follows.eq_field .multi rfl)

theorem down?_field (place : LinePlace) :
    (place.field .multi).down? = place.lowered?.map (field .multi) := by
  have before : (Text.splitAtFeeds (place.field .multi).before).getLast? = some place.front := by
    rw [splitAtFeeds_before, List.getLast?_concat]
  have after := place.splitAtFeeds_after .multi
  have several : (place.field .multi).kind = .multi := rfl
  rw [TextField.down?, before, after, several]
  obtain ⟨above, front, back, below, unended⟩ := place
  cases below with
  | nil => rfl
  | cons line below =>
      have moves : lowered? ⟨above, front, back, line :: below, unended⟩ = some _ := rfl
      obtain ⟨follows, -⟩ := follows_of_lowered? moves
      apply congrArg some
      apply follows.eq_field .multi
      have placed := placed_field .multi ⟨above, front, back, line :: below, unended⟩
      have cursor := placed.byteCount_before
      rw [cursor_field] at cursor
      rw [cursor, TextField.bytesOfLines, TextField.bytesOfLines, List.map_cons, List.sum_cons,
        Text.byteCount_append]
      dsimp only
      omega

/-- Every field with its cursor between two characters is that of a place. -/
theorem exists_place {field : TextField} (placed : field.Placed) :
    ∃ place : LinePlace, field = place.field field.kind := by
  rcases List.eq_nil_or_concat (Text.splitAtFeeds field.before) with nothing | ⟨above, front, ends⟩
  · exact (Text.splitAtFeeds_ne_nil field.before nothing).elim
  cases begins : Text.splitAtFeeds field.after with
  | nil => exact (Text.splitAtFeeds_ne_nil field.after begins).elim
  | cons back below =>
      rw [List.concat_eq_append] at ends
      have unended : ∀ line ∈ above.reverse.reverse ++ (front ++ back) :: below, '\n' ∉ line := by
        rw [List.reverse_reverse, unended_iff, ← ends, ← begins]
        exact ⟨fun _ => Text.not_mem_of_mem_splitAtFeeds, fun _ => Text.not_mem_of_mem_splitAtFeeds⟩
      let place : LinePlace := ⟨above.reverse, front, back, below, unended⟩
      have before : (place.field field.kind).before = field.before := by
        apply Text.splitAtFeeds_injective
        rw [place.splitAtFeeds_before, ends, List.reverse_reverse]
      have after : (place.field field.kind).after = field.after := by
        apply Text.splitAtFeeds_injective
        rw [place.splitAtFeeds_after, begins]
      refine ⟨place, ?_⟩
      calc
        field = ⟨field.kind, field.before ++ field.after, Text.byteCount field.before⟩ :=
          placed.eq_parted
        _ = place.field field.kind := by
          rw [← before, ← after]
          exact (place.placed_field field.kind).eq_parted.symm

theorem exists_place_of_multi {field : TextField} (placed : field.Placed)
    (several : field.kind = .multi) : ∃ place : LinePlace, field = place.field .multi := by
  rw [← several]
  exact exists_place placed

theorem isSome_raised? (place : LinePlace) :
    place.raised?.isSome ↔ place.above.length ≠ 0 := by
  obtain ⟨above, front, back, below, unended⟩ := place
  cases above <;> simp [raised?]

theorem isSome_lowered? (place : LinePlace) :
    place.lowered?.isSome ↔ place.above.length + 1 ≠ place.lines.length := by
  obtain ⟨above, front, back, below, unended⟩ := place
  cases below <;> simp [lowered?, lines]

end LinePlace

/-! ## Moves of a field -/

namespace TextField

variable {field moved : TextField} {target : Nat}

theorem up?_of_oneLine (oneLine : field.kind ≠ .multi) : field.up? = none := by
  unfold up?
  split
  case h_1 several _ => contradiction
  case h_2 => rfl

theorem down?_of_oneLine (oneLine : field.kind ≠ .multi) : field.down? = none := by
  unfold down?
  split
  case h_1 several _ _ => contradiction
  case h_2 => rfl

namespace MovesTo

variable (moves : MovesTo target field moved)

include moves

theorem lines : moved.lines = field.lines :=
  congrArg Text.splitAtFeeds moves.content

theorem column_le : moved.column ≤ field.column := by
  obtain ⟨text, -, greatest⟩ := moves.column
  exact greatest.1.2

theorem column_eq {text : List Char} (found : field.lines[target]? = some text)
    (boundary : EncodedField.isBoundary (Text.encode text) field.column = true) :
    moved.column = field.column := by
  obtain ⟨other, foundToo, greatest⟩ := moves.column
  rw [found] at foundToo
  cases foundToo
  apply Nat.le_antisymm greatest.1.2
  exact greatest.2 ⟨boundary, Nat.le_refl _⟩

end MovesTo

namespace Placed

section

variable (placed : field.Placed)

include placed

theorem isSome_up? : field.up?.isSome ↔ field.kind = .multi ∧ field.line ≠ 0 := by
  by_cases several : field.kind = .multi
  · obtain ⟨place, rfl⟩ := LinePlace.exists_place_of_multi placed several
    rw [LinePlace.up?_field, Option.isSome_map, LinePlace.isSome_raised?, LinePlace.line_field]
    exact (and_iff_right rfl).symm
  · simp [up?_of_oneLine several, several]

theorem isSome_down? :
    field.down?.isSome ↔ field.kind = .multi ∧ field.line + 1 ≠ field.lines.length := by
  by_cases several : field.kind = .multi
  · obtain ⟨place, rfl⟩ := LinePlace.exists_place_of_multi placed several
    rw [LinePlace.down?_field, Option.isSome_map, LinePlace.isSome_lowered?, LinePlace.line_field,
      LinePlace.lines_field]
    exact (and_iff_right rfl).symm
  · simp [down?_of_oneLine several, several]

theorem movesTo_of_up? (moves : field.up? = some moved) :
    MovesTo (field.line - 1) field moved := by
  have several : field.kind = .multi := by
    by_contra oneLine
    rw [up?_of_oneLine oneLine] at moves
    contradiction
  obtain ⟨place, rfl⟩ := LinePlace.exists_place_of_multi placed several
  rw [LinePlace.up?_field, Option.map_eq_some_iff] at moves
  obtain ⟨next, raises, rfl⟩ := moves
  obtain ⟨follows, line⟩ := LinePlace.follows_of_raised? raises
  rw [LinePlace.line_field, ← line, Nat.add_sub_cancel]
  exact follows.movesTo .multi

theorem movesTo_of_down? (moves : field.down? = some moved) :
    MovesTo (field.line + 1) field moved := by
  have several : field.kind = .multi := by
    by_contra oneLine
    rw [down?_of_oneLine oneLine] at moves
    contradiction
  obtain ⟨place, rfl⟩ := LinePlace.exists_place_of_multi placed several
  rw [LinePlace.down?_field, Option.map_eq_some_iff] at moves
  obtain ⟨next, lowers, rfl⟩ := moves
  obtain ⟨follows, line⟩ := LinePlace.follows_of_lowered? lowers
  rw [LinePlace.line_field, ← line]
  exact follows.movesTo .multi

theorem cursor_eq :
    field.cursor = bytesOfLines (field.lines.take field.line) + field.column := by
  obtain ⟨place, same⟩ := LinePlace.exists_place placed
  rw [same, LinePlace.bytesOfLines_above, LinePlace.column_field, LinePlace.cursor_field]

theorem line_lt : field.line < field.lines.length := by
  obtain ⟨place, same⟩ := LinePlace.exists_place placed
  rw [same, LinePlace.line_field, LinePlace.lines_field, LinePlace.lines]
  simp

/-- The cursor divides no character of its line. -/
theorem isBoundary_column {text : List Char} (found : field.lines[field.line]? = some text) :
    EncodedField.isBoundary (Text.encode text) field.column = true := by
  obtain ⟨place, same⟩ := LinePlace.exists_place placed
  rw [same, LinePlace.lines_field, LinePlace.line_field, LinePlace.getElem?_lines] at found
  cases found
  rw [same, LinePlace.column_field]
  exact EncodedField.isBoundary_encode place.front place.back

end

/-- A cursor is where its line and its column say. -/
theorem eq_of_position {left right : TextField} (placed : left.Placed) (placedToo : right.Placed)
    (kind : left.kind = right.kind) (content : left.content = right.content)
    (line : left.line = right.line) (column : left.column = right.column) : left = right := by
  have lines : left.lines = right.lines := congrArg Text.splitAtFeeds content
  have cursor : left.cursor = right.cursor := by
    rw [placed.cursor_eq, placedToo.cursor_eq, lines, line, column]
  cases left
  cases right
  cases kind
  cases content
  cases cursor
  rfl

/-- To go up and down again is to come back to the line, if not to the same place in it. -/
theorem exists_returned (placed : field.Placed) {raised : TextField}
    (moves : field.up? = some raised) :
    ∃ returned, raised.down? = some returned ∧ MovesTo field.line raised returned ∧
      returned.column ≤ field.column ∧
      ∀ text, field.lines[field.line - 1]? = some text →
        EncodedField.isBoundary (Text.encode text) field.column = true → returned = field := by
  have rises := placed.movesTo_of_up? moves
  obtain ⟨several, lower⟩ : field.kind = .multi ∧ field.line ≠ 0 := by
    apply placed.isSome_up?.mp
    rw [moves]
    rfl
  have back : raised.line + 1 = field.line := by
    rw [rises.line]
    omega
  have goesDown : raised.down?.isSome := by
    apply rises.placed.isSome_down?.mpr
    rw [back, rises.lines]
    exact ⟨rises.kind.trans several, Nat.ne_of_lt placed.line_lt⟩
  obtain ⟨returned, lowers⟩ := Option.isSome_iff_exists.mp goesDown
  have falls := rises.placed.movesTo_of_down? lowers
  rw [back] at falls
  refine ⟨returned, lowers, falls, Nat.le_trans falls.column_le rises.column_le, ?_⟩
  intro text found boundary
  have kept := rises.column_eq found boundary
  have keptAgain : returned.column = raised.column := by
    have here := List.getElem?_eq_getElem placed.line_lt
    apply falls.column_eq
    · rw [rises.lines]
      exact here
    · rw [kept]
      exact placed.isBoundary_column here
  apply falls.placed.eq_of_position placed
  · exact falls.kind.trans rises.kind
  · exact falls.content.trans rises.content
  · exact falls.line
  · exact keptAgain.trans kept

/-- The cursor goes up unless it is in the first line, and down unless it is in the last one.  It
then stands in the next line, no further from its beginning than before and as far as the
characters of that line let it.  Nothing else changes, and nothing at all if the cursor cannot go or
the field has one line only. -/
theorem moves_between_lines (placed : field.Placed) :
    (field.up?.isSome ↔ field.kind = .multi ∧ field.line ≠ 0) ∧
      (field.down?.isSome ↔ field.kind = .multi ∧ field.line + 1 ≠ field.lines.length) ∧
      (∀ raised, field.up? = some raised → MovesTo (field.line - 1) field raised) ∧
      (∀ lowered, field.down? = some lowered → MovesTo (field.line + 1) field lowered) ∧
      (field.up? = none → field.up = field) ∧
      (field.down? = none → field.down = field) ∧
      (field.kind ≠ .multi → field.up = field ∧ field.down = field) ∧
      ∀ raised, field.up? = some raised →
        ∃ returned, raised.down? = some returned ∧ MovesTo field.line raised returned ∧
          returned.column ≤ field.column ∧
          ∀ text, field.lines[field.line - 1]? = some text →
            EncodedField.isBoundary (Text.encode text) field.column = true → returned = field := by
  have upStays : field.up? = none → field.up = field := congrArg (Option.getD · field)
  have downStays : field.down? = none → field.down = field := congrArg (Option.getD · field)
  refine ⟨placed.isSome_up?, placed.isSome_down?, fun _ => placed.movesTo_of_up?,
    fun _ => placed.movesTo_of_down?, upStays, downStays, ?_, fun _ => placed.exists_returned⟩
  intro oneLine
  exact ⟨upStays (up?_of_oneLine oneLine), downStays (down?_of_oneLine oneLine)⟩

/-- The column lies inside a character of the line above, so the cursor does not come back. -/
theorem moves_between_lines_of_accent :
    let field : TextField := ⟨.multi, ['a', 'é', '\n', 'x', 'y', 'z'], 6⟩
    let raised : TextField := ⟨.multi, field.content, 1⟩
    field.Placed ∧ field.up? = some raised ∧ MovesTo 0 field raised ∧
      ∃ returned, raised.down? = some returned ∧ MovesTo 1 raised returned ∧
        returned.column ≤ 2 := by
  intro field raised
  have placed : field.Placed := ⟨['a', 'é', '\n', 'x', 'y'], ['z'], rfl, by decide⟩
  have moves : field.up? = some raised := by decide
  have line : field.line = 1 := by decide
  have column : field.column = 2 := by decide
  obtain ⟨-, -, rises, -, -, -, -, returns⟩ := moves_between_lines placed
  obtain ⟨returned, lowers, falls, le, -⟩ := returns raised moves
  rw [line] at falls
  rw [column] at le
  have up := rises raised moves
  rw [line] at up
  exact ⟨placed, moves, up, returned, lowers, falls, le⟩

end Placed

end TextField

end DocsConsole
