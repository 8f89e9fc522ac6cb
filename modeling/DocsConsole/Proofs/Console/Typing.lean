import DocsConsole.Proofs.Console.Fields

/-!
# Typing

What the next key means is set after each action, apart from the panels and the help that
it depends on.  It is always set to what they say.  While it is set to typing, a panel on
screen has the keyboard, so each letter goes into the field that has the focus, and after
it the next one does too.
-/

namespace DocsConsole

theorem TextField.edit_character {c : Char} (plain : c ≠ '\n') (field : TextField) :
    field.edit (.character c) = field.insert [c] := by
  change field.typeCharacter c = field.insert [c]
  unfold typeCharacter
  rw [if_neg]
  intro feeds
  exact plain feeds.1

/-- The focus of each panel, and whether the panel has the keyboard. -/
def Console.focuses (console : Console) :
    (DocsFocus × Bool) × (GithubFocus × Bool) × (QualityFocus × Bool) :=
  ((console.docs.focus, console.docs.editing), (console.github.focus, console.github.editing),
    (console.quality.focus, console.quality.editing))

namespace Console

variable {left right : Console}

theorem wantsInput_of_focuses (tab : left.session.tab = right.session.tab)
    (focuses : left.focuses = right.focuses) : left.wantsInput = right.wantsInput := by
  simp only [Console.focuses, Prod.mk.injEq] at focuses
  obtain ⟨⟨docs, docsEditing⟩, ⟨github, githubEditing⟩, quality, qualityEditing⟩ := focuses
  simp only [wantsInput, DocsPanel.wantsInput, GithubPanel.wantsInput, QualityPanel.wantsInput,
    tab, docs, docsEditing, github, githubEditing, quality, qualityEditing]

theorem focused?_of_focuses (tab : left.session.tab = right.session.tab)
    (focuses : left.focuses = right.focuses) : left.focused? = right.focused? := by
  simp only [Console.focuses, Prod.mk.injEq] at focuses
  obtain ⟨⟨docs, _⟩, ⟨github, _⟩, quality, _⟩ := focuses
  simp only [focused?, tab, docs, github, quality]

/-- While a panel has the keyboard, a field has the focus. -/
theorem focused?_of_wantsInput {console : Console} (wants : console.wantsInput = true) :
    ∃ name, console.focused? = some name := by
  unfold wantsInput at wants
  unfold focused?
  cases shown : console.session.tab with
  | documentation =>
      rw [shown] at wants
      cases focused : console.docs.focus <;>
        simp [DocsPanel.wantsInput, focused, DocsFocus.isText, DocsFocus.field?] at wants ⊢
  | github =>
      rw [shown] at wants
      cases focused : console.github.focus <;>
        simp [GithubPanel.wantsInput, focused, GithubFocus.isText, GithubFocus.field?] at wants ⊢
  | quality =>
      rw [shown] at wants
      cases focused : console.quality.focus <;>
        simp [QualityPanel.wantsInput, focused, QualityFocus.field?] at wants ⊢

end Console

/-- A text is typed into the field that has the focus, and nothing else happens. -/
structure Typed (text : List Char) (before after : Console) : Prop where
  work : after.SameWork before
  toast : after.statusBar = before.statusBar
  mode : after.mode = before.mode
  helpOpen : after.helpOpen = before.helpOpen
  quitting : after.quitting = before.quitting
  focuses : after.focuses = before.focuses
  field : ∃ name, before.focused? = some name ∧
    TextField.Inserted text (before.field name) (after.field name) ∧
    ∀ other, other ≠ name → after.field other = before.field other

namespace Typed

theorem nothing {console : Console} (placed : ∀ name, (console.field name).Placed)
    (wants : console.wantsInput = true) : Typed [] console console := by
  obtain ⟨name, focused⟩ := Console.focused?_of_wantsInput wants
  refine ⟨⟨rfl, rfl, rfl, rfl⟩, rfl, rfl, rfl, rfl, rfl, name, focused, ?_, ?_⟩
  · exact (placed name).inserted_nothing
  · intro other _
    rfl

theorem trans {first second : List Char} {before middle after : Console}
    (former : Typed first before middle) (latter : Typed second middle after) :
    Typed (first ++ second) before after := by
  constructor
  · exact latter.work.trans former.work
  · exact latter.toast.trans former.toast
  · exact latter.mode.trans former.mode
  · exact latter.helpOpen.trans former.helpOpen
  · exact latter.quitting.trans former.quitting
  · exact latter.focuses.trans former.focuses
  · obtain ⟨name, focused, inserted, others⟩ := former.field
    obtain ⟨later, laterFocused, laterInserted, laterOthers⟩ := latter.field
    have sameTab := congrArg Session.tab former.work.session
    rw [Console.focused?_of_focuses sameTab former.focuses, focused] at laterFocused
    cases laterFocused
    refine ⟨name, focused, inserted.trans laterInserted, ?_⟩
    intro other different
    exact (laterOthers other different).trans (others other different)

theorem withMode {text : List Char} {before after : Console} (typed : Typed text before after)
    (still : after.modeNow = before.mode) : Typed text before after.withMode := by
  constructor
  case mode => exact still
  case work => exact (Console.SameWork.withMode after).trans typed.work
  case toast => exact typed.toast
  case helpOpen => exact typed.helpOpen
  case quitting => exact typed.quitting
  case focuses => exact typed.focuses
  case field =>
    have same : after.withMode.field = after.field := by
      funext name
      cases name <;> rfl
    rw [same]
    exact typed.field

end Typed

/-! ## Putting a field in place -/

namespace Console

/-- The console with another field in the place of one.  Suggestions for a path are looked up
again. -/
def withField (console : Console) (field : TextField) : FieldName → Console
  | .path =>
      { console with
        docs.path := PathField.refresh console.workspace { console.docs.path with field := field } }
  | .projectName => { console with docs.projectName := field }
  | .instructions => { console with docs.instructions := field }
  | .token => { console with github.token := field }
  | .title => { console with github.title := field }
  | .description => { console with github.description := field }
  | .commitMessage => { console with github.commitMessage := field }
  | .qualityPath =>
      { console with
        quality.path :=
          PathField.refresh console.workspace { console.quality.path with field := field } }

variable (console : Console) (field : TextField)

theorem field_withField (name : FieldName) : (console.withField field name).field name = field := by
  cases name with
  | path => exact PathField.refresh_field _ _
  | qualityPath => exact PathField.refresh_field _ _
  | _ => rfl

theorem field_withField_of_ne {name other : FieldName} (different : other ≠ name) :
    (console.withField field name).field other = console.field other := by
  cases name <;> cases other <;> first | contradiction | rfl

end Console

theorem Typed.of_withField {console : Console} {name : FieldName}
    (focused : console.focused? = some name) (placed : (console.field name).Placed)
    (text : List Char) :
    Typed text console (console.withField ((console.field name).insert text) name) := by
  have inserted : TextField.Inserted text (console.field name)
      ((console.withField ((console.field name).insert text) name).field name) := by
    rw [Console.field_withField]
    exact placed.inserted text
  have others : ∀ other, other ≠ name →
      (console.withField ((console.field name).insert text) name).field other =
        console.field other := by
    intro other different
    exact Console.field_withField_of_ne console _ different
  constructor
  case field => exact ⟨name, focused, inserted, others⟩
  case work => cases name <;> exact ⟨rfl, rfl, rfl, rfl⟩
  all_goals cases name <;> rfl

/-! ## One letter -/

section Letter

variable {c : Char} (plain : c ≠ '\n')

include plain

theorem DocsPanel.handle_letter {panel : DocsPanel} (wants : panel.wantsInput = true)
    (workspace : Workspace) (session : Session) :
    panel.handle workspace session (.edit (.character c)) =
      ((panel.editField (·.insert [c])).refresh workspace, none) := by
  have inserts : (fun field : TextField => field.edit (.character c)) = (·.insert [c]) :=
    funext (TextField.edit_character plain)
  rw [handle, if_pos wants, ← inserts]
  rfl

theorem QualityPanel.handle_letter {panel : QualityPanel} (wants : panel.wantsInput = true)
    (workspace : Workspace) (session : Session) :
    panel.handle workspace session (.edit (.character c)) =
      ({ panel with
        path := PathField.refresh workspace
          { panel.path with field := panel.path.field.insert [c] } }, none) := by
  rw [handle, if_pos wants, ← TextField.edit_character plain]
  rfl

theorem GithubPanel.handle_letter {panel : GithubPanel} {session : Session}
    (wants : panel.wantsInput = true) (shown : panel.FocusShown session.visibility) :
    panel.handle session (.edit (.character c)) = (panel.editField (·.insert [c]), none) := by
  have inserts : (fun field : TextField => field.edit (.character c)) = (·.insert [c]) :=
    funext (TextField.edit_character plain)
  simp only [handle, shown.withFocusShown_eq]
  rw [if_pos wants, ← inserts]
  rfl

namespace Console

variable {console : Console}

/-- A letter goes into the field that has the focus. -/
theorem askPanel_letter (wants : console.wantsInput = true) (shown : console.FocusShown) :
    ∃ name, console.focused? = some name ∧
      console.askPanel (.edit (.character c)) =
        (console.withField ((console.field name).insert [c]) name, none) := by
  obtain ⟨name, focused⟩ := focused?_of_wantsInput wants
  refine ⟨name, focused, ?_⟩
  unfold wantsInput at wants
  unfold focused? at focused
  unfold askPanel
  cases onScreen : console.session.tab with
  | documentation =>
      rw [onScreen] at wants focused
      dsimp only at wants focused ⊢
      rw [DocsPanel.handle_letter plain wants]
      unfold DocsFocus.field? at focused
      split at focused
      all_goals cases focused
      case h_1 atPath => simp [DocsPanel.editField, DocsPanel.refresh, atPath, withField, field]
      case h_2 atName => simp [DocsPanel.editField, DocsPanel.refresh, atName, withField, field]
      case h_3 atText => simp [DocsPanel.editField, DocsPanel.refresh, atText, withField, field]
  | github =>
      rw [onScreen] at wants focused
      dsimp only at wants focused ⊢
      rw [GithubPanel.handle_letter plain wants (shown onScreen)]
      unfold GithubFocus.field? at focused
      split at focused
      all_goals cases focused
      case h_1 atToken => simp [GithubPanel.editField, atToken, withField, field]
      case h_2 atTitle => simp [GithubPanel.editField, atTitle, withField, field]
      case h_3 atText => simp [GithubPanel.editField, atText, withField, field]
      case h_4 atMessage => simp [GithubPanel.editField, atMessage, withField, field]
  | quality =>
      rw [onScreen] at wants focused
      dsimp only at wants focused ⊢
      rw [QualityPanel.handle_letter plain wants]
      unfold QualityFocus.field? at focused
      split at focused
      all_goals cases focused
      rfl

theorem handle_letter (settled : console.Settled) (typing : console.mode = .typing)
    (shown : console.FocusShown) (placed : ∀ name, (console.field name).Placed)
    (moment : Moment) :
    Typed [c] console (console.handle moment (.edit (.character c))) := by
  have now : console.modeNow = .typing := settled.symm.trans typing
  obtain ⟨closed, wants⟩ := modeNow_eq_typing_iff.mp now
  obtain ⟨name, focused, answered⟩ := askPanel_letter plain wants shown
  have typed := Typed.of_withField focused (placed name) [c]
  have handled : console.handle moment (.edit (.character c)) =
      (console.withField ((console.field name).insert [c]) name).withMode := by
    have stays : Action.edit (.character c) ≠ .quit := by simp
    have stepped : console.step moment (.edit (.character c)) = _ :=
      step_of_taken (Or.inl closed) stays
    rw [effect_of_mayAsk moment rfl, note_of_mayAsk moment rfl, answered] at stepped
    have quiet : (console.step moment (.edit (.character c))).2 = none := by rw [stepped]
    rw [handle_of_step quiet, stepped]
  -- The field keeps the keyboard, so the next key is typed as well.
  have wantsStill := wantsInput_of_focuses (congrArg Session.tab typed.work.session) typed.focuses
  have stillTyping : (console.withField ((console.field name).insert [c]) name).modeNow =
      .typing := by
    rw [modeNow_eq_typing_iff, typed.helpOpen, wantsStill]
    exact ⟨closed, wants⟩
  rw [handled]
  exact typed.withMode (stillTyping.trans typing.symm)

end Console

end Letter

/-! ## One letter after the other -/

/-- A letter key that is pressed without Control. -/
structure Stroke where
  moment : Moment
  letter : Char
  alt : Bool

def Stroke.event (stroke : Stroke) : TerminalEvent :=
  .pressed ⟨.character stroke.letter, false, stroke.alt⟩

/-- While text is typed, a letter is no shortcut. -/
theorem Stroke.action?_typing (stroke : Stroke) :
    stroke.event.action? .typing = some (.edit (.character stroke.letter)) := by
  simp [event, TerminalEvent.action?, KeyPress.action?, KeyPress.typed]

/-- Presses letter keys one after the other. -/
def Console.type (console : Console) (strokes : List Stroke) : Console :=
  strokes.foldl (fun console stroke => console.handleEvent stroke.moment stroke.event) console

theorem Dispatched.types {past : List Action} {console : Console}
    (dispatched : Dispatched past console) (typing : console.mode = .typing)
    (strokes : List Stroke) (plain : ∀ stroke ∈ strokes, stroke.letter ≠ '\n') :
    Typed (strokes.map (·.letter)) console (console.type strokes) := by
  induction strokes generalizing past console with
  | nil =>
      have now : console.modeNow = .typing := dispatched.settled.symm.trans typing
      exact Typed.nothing dispatched.fields_placed (Console.modeNow_eq_typing_iff.mp now).2
  | cons stroke strokes induction =>
      have handled : console.handleEvent stroke.moment stroke.event =
          console.handle stroke.moment (.edit (.character stroke.letter)) := by
        unfold Console.handleEvent
        rw [typing, stroke.action?_typing]
      have typed := Console.handle_letter (plain stroke List.mem_cons_self) dispatched.settled
        typing dispatched.focusShown dispatched.fields_placed stroke.moment
      have next := dispatched.next stroke.moment (.edit (.character stroke.letter))
      rw [← handled] at typed next
      have remaining := induction next (typed.mode.trans typing) fun later among =>
        plain later (List.mem_cons_of_mem _ among)
      exact typed.trans remaining

/-- After any dispatches, the next key is typed exactly if help is closed and the panel on
screen has the keyboard.  In any run letters are then typed into the field that has the focus,
and nothing else happens. -/
theorem Console.letters_are_typed :
    (∀ past console, Dispatched past console →
      (console.mode = .typing ↔ console.helpOpen = false ∧ console.wantsInput = true)) ∧
    ∀ past console, Run past console → console.mode = .typing →
      ∀ strokes : List Stroke, (∀ stroke ∈ strokes, stroke.letter ≠ '\n') →
        Typed (strokes.map (·.letter)) console (console.type strokes) := by
  constructor
  · intro past console dispatched
    rw [dispatched.settled]
    exact modeNow_eq_typing_iff
  · intro past console run typing strokes plain
    obtain ⟨actions, dispatched⟩ := run.dispatched
    exact dispatched.types typing strokes plain

/-- On the tab for pull requests the field for the token gets the keyboard. -/
def Happening.tokenField : List Happening :=
  [.pressed .shortcuts (.character 'e'), .pressed .shortcuts (.character '2')]

/-- Letters that would quit, open help, disconnect and show another tab are a token. -/
theorem shortcuts_are_typed_in_tokenField :
    let run := replay Happening.tokenField
    let strokes : List Stroke := ['q', '?', 'D', '1', 'é'].map (⟨.midnight, ·, false⟩)
    Run run.1 run.2 ∧ run.2.mode = .typing ∧ run.2.wantsInput = true ∧
      Typed ['q', '?', 'D', '1', 'é'] run.2 (run.2.type strokes) ∧
      (run.2.type strokes).github.token.value = "q?D1é" := by
  intro run strokes
  have happened : Run run.1 run.2 := Run.of_replay _ (by decide)
  have typing : run.2.mode = .typing := by decide
  obtain ⟨actions, dispatched⟩ := happened.dispatched
  obtain ⟨settled, typed⟩ := Console.letters_are_typed
  refine ⟨happened, typing, ?_, ?_, ?_⟩
  · exact ((settled actions run.2 dispatched).mp typing).2
  · exact typed run.1 run.2 happened typing strokes (by decide)
  · decide

end DocsConsole
