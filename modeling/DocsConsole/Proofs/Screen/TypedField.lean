import DocsConsole.Proofs.Console.Typing
import DocsConsole.Proofs.Screen.Layout

/-!
# The field that is typed into

A letter goes into the field that has the focus.  On the tabs for pull requests and for code quality
that field is always on screen.  On the tab for documentation the focus also goes to the name of the
project while only comments are wanted, and then that field is not drawn.
-/

namespace DocsConsole

open Terminal

namespace Screen

/-- The panel draws a field as the one with the keyboard, to a place with room for text, and nothing
else to that place. -/
def DrawsField (console : Console) (area : Area) (name : FieldName) : Prop :=
  ∃ place title hint,
    (drawPanel console area).Shows (drawField (console.field name) true title hint place) place ∧
      area.Covers place ∧ 3 ≤ place.width ∧ 3 ≤ place.height

variable {console : Console} {area place : Area} {name : FieldName}

/-! ## Frames without the focus -/

theorem frameOf_unfocused (title : String) (area : Area) :
    ((frameOf title false).draw area).Unfocused := by
  have plain : Theme.border ≠ Theme.focusedBorder := by decide
  exact Frame.draw_unfocused _ area plain

/-- The frame of a field with the keyboard has the focus. -/
theorem drawField_focused (field : TextField) (title hint : String) (wide : 3 ≤ place.width)
    (tall : 3 ≤ place.height) : ¬(drawField field true title hint place).Unfocused := by
  intro unfocused
  have present : place.isEmpty = false := by
    simp only [Area.isEmpty, Bool.or_eq_false_iff, decide_eq_false_iff_not]
    omega
  apply unfocused (.fill (Frame.leftSide place) "│" Theme.focusedBorder) ?_ _ _ rfl
  simp [drawField, frameOf, Frame.draw, present]

/-- A panel without the focus in a frame draws no field that has the keyboard. -/
theorem not_drawsField_of_unfocused (unfocused : (drawPanel console area).Unfocused)
    (name : FieldName) : ¬DrawsField console area name := by
  rintro ⟨place, title, hint, ⟨before, after, parts, _⟩, _, wide, tall⟩
  apply drawField_focused (console.field name) title hint wide tall
  intro stroke member
  apply unfocused stroke
  rw [parts]
  exact List.mem_append_left _ (List.mem_append_right _ member)

theorem drawField_unfocused (field : TextField) (title hint : String) (area : Area) :
    (drawField field false title hint area).Unfocused := by
  have frame := frameOf_unfocused title area
  unfold drawField
  dsimp only
  rw [if_neg Bool.false_ne_true]
  split
  · exact frame.append (Paragraph.draw_unfocused _ _)
  · apply Drawing.Unfocused.append
    · intro stroke member
      rcases List.mem_cons.mp member with rfl | side
      · intro other symbol
        simp
      · exact frame stroke side
    · exact Paragraph.draw_unfocused _ _

namespace Docs

variable {panel : DocsPanel} (session : Session)

theorem drawFiles_unfocused (elsewhere : panel.focus ≠ .files) (area : Area) :
    (drawFiles panel session area).Unfocused := by
  have frame := frameOf_unfocused (" Files (" ++ toString session.uploads.length ++ ") ") area
  simp only [drawFiles, elsewhere, decide_false]
  split
  · exact frame.append (Paragraph.draw_unfocused _ _)
  · exact frame.append (ListRow.draw_unfocused _ _)

theorem drawOutput_unfocused (elsewhere : panel.focus ≠ .output) (area : Area) :
    (drawOutput panel session area).Unfocused := by
  have frame := frameOf_unfocused (outputTitle session.generated) area
  simp only [drawOutput, elsewhere, decide_false]
  split <;> exact frame.append (Paragraph.draw_unfocused _ _)

/-- With the focus on the name of the project and no such field, no frame has the focus. -/
theorem draw_unfocused (atName : panel.focus = .projectName)
    (comments : session.purpose = .inlineComments) {width height : Nat} (tall : 24 ≤ height) :
    (draw panel session (panelArea width height)).Unfocused := by
  have unnamed (area : Area) : drawProjectName panel session area = [] := by
    simp [drawProjectName, comments]
  simp only [draw_eq panel session tall, columnAreas, column, Area.stack, columnParts, unnamed,
    drawPath, atName, reduceCtorEq, decide_false, Bool.and_false, if_false, List.flatten_cons,
    List.flatten_nil, List.nil_append, List.append_nil]
  refine .append (.append ?_ (.append ?_ (.append ?_ ?_))) ?_
  · exact drawFiles_unfocused session (by simp [atName]) _
  · exact drawField_unfocused _ _ _ _
  · exact drawField_unfocused _ _ _ _
  · exact Paragraph.draw_unfocused _ _
  · exact drawOutput_unfocused session (by simp [atName]) _

end Docs

/-! ## Fields with the keyboard -/

section

variable {width height : Nat} (wide : 80 ≤ width) (tall : 24 ≤ height)

include wide tall

/-- The field with the keyboard is drawn in the panel for documentation, unless it is the name of
the project and there is no such field. -/
theorem drawsField_of_documentation (onScreen : console.session.tab = .documentation)
    (editing : console.docs.editing = true) (focused : console.docs.focus.field? = some name)
    (present : name = .projectName → console.session.purpose = .readme) :
    DrawsField console (panelArea width height) name := by
  have editable (focus : DocsFocus) (atFocus : console.docs.focus = focus) :
      (console.docs.editing && decide (console.docs.focus = focus)) = true := by
    simp [editing, atFocus]
  cases atFocus : console.docs.focus with
  | path =>
      rw [atFocus] at focused
      cases focused
      have drawn : (Docs.columnParts console.docs console.session
          (Docs.columnAreas console.docs console.session width height))[1]? =
            some (drawField (console.field .path) true _ _ _) :=
        congrArg (fun focused => some (drawField console.docs.path.field focused _ _ _))
          (editable .path atFocus)
      have part := panelShows_of_documentation wide tall onScreen drawn rfl
      refine ⟨_, _, _, part.shows, part.covers, ?_, ?_⟩ <;> dsimp only [Docs.column] <;> omega
  | projectName =>
      rw [atFocus] at focused
      cases focused
      have readme := present rfl
      have rows : Docs.nameRows console.session = 3 := if_pos readme
      have drawn : (Docs.columnParts console.docs console.session
          (Docs.columnAreas console.docs console.session width height))[3]? =
            some (drawField (console.field .projectName) true _ _ _) :=
        congrArg some ((if_pos readme).trans
          (congrArg (drawField console.docs.projectName · _ _ _) (editable .projectName atFocus)))
      have part := panelShows_of_documentation wide tall onScreen drawn rfl
      refine ⟨_, _, _, part.shows, part.covers, ?_, ?_⟩ <;> dsimp only [Docs.column] <;> omega
  | instructions =>
      rw [atFocus] at focused
      cases focused
      have drawn : (Docs.columnParts console.docs console.session
          (Docs.columnAreas console.docs console.session width height))[4]? =
            some (drawField (console.field .instructions) true _ _ _) :=
        congrArg (fun focused => some (drawField console.docs.instructions focused _ _ _))
          (editable .instructions atFocus)
      have part := panelShows_of_documentation wide tall onScreen drawn rfl
      refine ⟨_, _, _, part.shows, part.covers, ?_, ?_⟩ <;> dsimp only [Docs.column] <;> omega
  | files =>
      rw [atFocus] at focused
      contradiction
  | output =>
      rw [atFocus] at focused
      contradiction

/-- The field for a token is drawn in its form. -/
theorem drawsField_of_tokenForm (onScreen : console.session.tab = .github)
    (tokenForm : console.session.visibility.tokenForm = true)
    (editing : console.github.editing = true) :
    DrawsField console (panelArea width height) .token := by
  have drawn : (Github.tokenParts console.github
      ((Github.insideArea width height).stack [2, 3, 1]))[1]? =
        some (drawField (console.field .token) true _ _ _) :=
    congrArg (fun focused => some (drawField console.github.token focused _ _ _)) editing
  have part := panelShows_of_tokenForm wide tall onScreen tokenForm drawn rfl
  refine ⟨_, _, _, part.shows, part.covers, ?_, ?_⟩ <;>
    dsimp only [Github.insideArea] <;> omega

/-- The field with the keyboard is drawn in the form for a pull request. -/
theorem drawsField_of_pullRequestForm (onScreen : console.session.tab = .github)
    (pullRequestForm : console.session.visibility.pullRequestForm = true)
    (editing : console.github.editing = true)
    (focused : console.github.focus.field? = some name) (elsewhere : name ≠ .token) :
    DrawsField console (panelArea width height) name := by
  have editable (focus : GithubFocus) (atFocus : console.github.focus = focus) :
      (console.github.editing && decide (console.github.focus = focus)) = true := by
    simp [editing, atFocus]
  cases atFocus : console.github.focus with
  | title =>
      rw [atFocus] at focused
      cases focused
      have drawn : (Github.formParts console.github console.session
          (Github.formAreas width height))[2]? =
            some (drawField (console.field .title) true _ _ _) :=
        congrArg (fun focused => some (drawField console.github.title focused _ _ _))
          (editable .title atFocus)
      have part := panelShows_of_pullRequestForm wide tall onScreen pullRequestForm drawn rfl
      refine ⟨_, _, _, part.shows, part.covers, ?_, ?_⟩ <;>
        dsimp only [Github.insideArea] <;> omega
  | description =>
      rw [atFocus] at focused
      cases focused
      have drawn : (Github.formParts console.github console.session
          (Github.formAreas width height))[3]? =
            some (drawField (console.field .description) true _ _ _) :=
        congrArg (fun focused => some (drawField console.github.description focused _ _ _))
          (editable .description atFocus)
      have part := panelShows_of_pullRequestForm wide tall onScreen pullRequestForm drawn rfl
      refine ⟨_, _, _, part.shows, part.covers, ?_, ?_⟩ <;>
        dsimp only [Github.insideArea] <;> omega
  | commitMessage =>
      rw [atFocus] at focused
      cases focused
      have drawn : (Github.formParts console.github console.session
          (Github.formAreas width height))[4]? =
            some (drawField (console.field .commitMessage) true _ _ _) :=
        congrArg (fun focused => some (drawField console.github.commitMessage focused _ _ _))
          (editable .commitMessage atFocus)
      have part := panelShows_of_pullRequestForm wide tall onScreen pullRequestForm drawn rfl
      refine ⟨_, _, _, part.shows, part.covers, ?_, ?_⟩ <;>
        dsimp only [Github.insideArea] <;> omega
  | token =>
      rw [atFocus] at focused
      cases focused
      contradiction
  | repositories =>
      rw [atFocus] at focused
      contradiction
  | branches =>
      rw [atFocus] at focused
      contradiction

/-- The field with the keyboard is drawn in the panel for pull requests. -/
theorem drawsField_of_github (onScreen : console.session.tab = .github)
    (shown : console.github.FocusShown console.session.visibility)
    (editing : console.github.editing = true)
    (focused : console.github.focus.field? = some name) :
    DrawsField console (panelArea width height) name := by
  cases tokenForm : console.session.visibility.tokenForm with
  | true =>
      rw [shown.token.mpr tokenForm] at focused
      cases focused
      exact drawsField_of_tokenForm wide tall onScreen tokenForm editing
  | false =>
      have unshown : ¬console.session.visibility.tokenForm = true := by simp [tokenForm]
      have pullRequestForm := (shown.editing editing).resolve_left unshown
      have elsewhere : name ≠ .token := by
        rintro rfl
        apply unshown
        apply shown.token.mp
        revert focused
        cases console.github.focus <;> simp [GithubFocus.field?]
      exact drawsField_of_pullRequestForm wide tall onScreen pullRequestForm editing focused
        elsewhere

/-- The path field is drawn in the panel for code quality. -/
theorem drawsField_of_quality (onScreen : console.session.tab = .quality)
    (wants : console.quality.wantsInput = true) :
    DrawsField console (panelArea width height) .qualityPath := by
  have drawn : (Quality.parts console.quality console.session
      (Quality.areas console.quality width height))[0]? =
        some (drawField (console.field .qualityPath) true _ _ _) :=
    congrArg (fun focused => some (drawField console.quality.path.field focused _ _ _)) wants
  have part := panelShows_of_quality tall onScreen drawn rfl
  refine ⟨_, _, _, part.shows, part.covers, ?_, ?_⟩ <;> dsimp only [panelArea] <;> omega

end

end Screen

/-! ## In a run -/

theorem Purpose.eq_readme_of_ne {purpose : Purpose} (other : purpose ≠ .inlineComments) :
    purpose = .readme := by
  cases purpose with
  | readme => rfl
  | inlineComments => contradiction

namespace Screen

/-- The name of the project is not seen while comments are to be generated. -/
theorem drawPanel_withField (onScreen : console.session.tab = .documentation)
    (comments : console.session.purpose = .inlineComments) (field : TextField) (area : Area) :
    drawPanel (console.withField field .projectName) area = drawPanel console area := by
  have unnamed (panel : DocsPanel) (place : Area) :
      Docs.drawProjectName panel console.session place = [] := by
    simp [Docs.drawProjectName, comments]
  have column (areas : List Area) :
      Docs.drawColumn { console.docs with projectName := field } console.session areas =
        Docs.drawColumn console.docs console.session areas := by
    unfold Docs.drawColumn
    split
    · rw [unnamed, unnamed]
      rfl
    · rfl
  simp only [drawPanel, Console.withField, onScreen, Docs.draw, column]
  rfl

/-- Whether the field that has the focus is drawn while it has the keyboard. -/
theorem drawsField_iff (shown : console.FocusShown) (wants : console.wantsInput = true)
    (focused : console.focused? = some name) {width height : Nat} (wide : 80 ≤ width)
    (tall : 24 ≤ height) :
    DrawsField console (panelArea width height) name ↔
      ¬(name = .projectName ∧ console.session.purpose = .inlineComments) := by
  unfold Console.wantsInput at wants
  unfold Console.focused? at focused
  cases onScreen : console.session.tab with
  | documentation =>
      rw [onScreen] at wants focused
      have editing : console.docs.editing = true := (Bool.and_eq_true_iff.mp wants).left
      constructor
      · rintro drawn ⟨rfl, comments⟩
        have atName : console.docs.focus = .projectName := by
          revert focused
          cases console.docs.focus <;> simp [DocsFocus.field?]
        -- A field with the keyboard has a frame with the focus, and there is no such frame.
        apply not_drawsField_of_unfocused _ _ drawn
        simp only [drawPanel, onScreen]
        exact Docs.draw_unfocused console.session atName comments tall
      · intro visible
        apply drawsField_of_documentation wide tall onScreen editing focused
        intro named
        exact Purpose.eq_readme_of_ne fun comments => visible ⟨named, comments⟩
  | github =>
      rw [onScreen] at wants focused
      have editing : console.github.editing = true := (Bool.and_eq_true_iff.mp wants).left
      constructor
      · rintro _ ⟨rfl, _⟩
        revert focused
        cases console.github.focus <;> simp [GithubFocus.field?]
      · intro _
        exact drawsField_of_github wide tall onScreen (shown onScreen) editing focused
  | quality =>
      rw [onScreen] at wants focused
      have named : name = .qualityPath := by
        revert focused
        cases console.quality.focus <;> simp [QualityFocus.field?, eq_comm]
      constructor
      · rintro _ ⟨rfl, _⟩
        contradiction
      · intro _
        rw [named]
        exact drawsField_of_quality wide tall onScreen wants

end Screen

/-- While text is typed, a letter goes into a field that has the focus.  On every grid of at least
80 by 24 cells the panel on screen draws that field, unless it is the name of the project while
comments are to be generated.  Then the panel draws the same whatever is in the field. -/
theorem Run.typed_field_drawn_iff {past : List Stage} {console : Console}
    (run : Run past console) (typing : console.mode = .typing) {width height : Nat}
    (wide : 80 ≤ width) (tall : 24 ≤ height) :
    ∃ name, console.focused? = some name ∧
      (∀ stroke : Stroke, stroke.letter ≠ '\n' →
        Typed [stroke.letter] console (console.handleEvent stroke.moment stroke.event)) ∧
      (Screen.DrawsField console (Screen.panelArea width height) name ↔
        ¬(name = .projectName ∧ console.session.purpose = .inlineComments)) ∧
      (name = .projectName → console.session.purpose = .inlineComments →
        ∀ field, Screen.drawPanel (console.withField field .projectName)
            (Screen.panelArea width height) =
          Screen.drawPanel console (Screen.panelArea width height)) := by
  obtain ⟨actions, dispatched⟩ := run.dispatched
  have shown := dispatched.focusShown
  have now : console.modeNow = .typing := dispatched.settled.symm.trans typing
  obtain ⟨_, wants⟩ := Console.modeNow_eq_typing_iff.mp now
  obtain ⟨name, focused⟩ := Console.focused?_of_wantsInput wants
  refine ⟨name, focused, ?_, Screen.drawsField_iff shown wants focused wide tall, ?_⟩
  · intro stroke plain
    exact dispatched.types typing [stroke] (by simpa using plain)
  · rintro rfl comments field
    apply Screen.drawPanel_withField _ comments
    revert focused
    unfold Console.focused?
    cases console.session.tab with
    | documentation => simp
    | github => cases console.github.focus <;> simp [GithubFocus.field?]
    | quality => cases console.quality.focus <;> simp [QualityFocus.field?]

/-- The focus goes to the name of the project, comments are to be generated, and text is typed. -/
def Happening.unseenName : List Happening :=
  [.pressed .shortcuts (.character 'e'), .pressed .shortcuts (.character 'p'),
    .pressed .shortcuts .tab]

/-- On the tab for pull requests the field for the token is drawn. -/
theorem typed_field_drawn_iff_of_tokenField :
    let run := replay Happening.tokenField
    Run run.1 run.2 ∧ run.2.mode = .typing ∧ 80 ≤ 80 ∧ 24 ≤ 24 ∧
      run.2.focused? = some .token ∧
      Screen.DrawsField run.2 (Screen.panelArea 80 24) .token := by
  intro run
  have happened : Run run.1 run.2 := Run.of_replay _ (by decide)
  have typing : run.2.mode = .typing := by decide
  have atToken : run.2.focused? = some .token := by decide
  obtain ⟨name, focused, _, drawn, _⟩ :=
    Run.typed_field_drawn_iff happened typing (Nat.le_refl 80) (Nat.le_refl 24)
  cases atToken.symm.trans focused
  refine ⟨happened, typing, Nat.le_refl 80, Nat.le_refl 24, atToken, drawn.mpr ?_⟩
  rintro ⟨_, _⟩
  contradiction

/-- A letter goes into the name of the project, which is not drawn. -/
theorem unseen_name_typed :
    let run := replay Happening.unseenName
    let typed : Stage := ⟨run.2, .midnight, .pressed .typing (.character 'x')⟩
    Run run.1 run.2 ∧ run.2.mode = .typing ∧ run.2.focused? = some .projectName ∧
      typed.after.docs.projectName.value = "x" ∧
      ¬Screen.DrawsField run.2 (Screen.panelArea 80 24) .projectName := by
  intro run typed
  have happened : Run run.1 run.2 := Run.of_replay _ (by decide)
  have focused : run.2.focused? = some .projectName := by decide
  refine ⟨happened, by decide, focused, by decide, ?_⟩
  intro drawn
  have visible := (Screen.drawsField_iff happened.focusShown (by decide) focused
    (Nat.le_refl 80) (Nat.le_refl 24)).mp drawn
  exact visible ⟨rfl, by decide⟩

end DocsConsole
