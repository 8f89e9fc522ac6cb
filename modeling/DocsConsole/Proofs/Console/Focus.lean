import DocsConsole.Proofs.Console.Run

/-!
# The focus is on something that is shown

What the panel for pull requests shows depends on the session: the form for a token
until it is connected, and the form for a pull request once something is generated too.
While the panel is on screen it answers every action, and before it does so it moves its
focus to what is shown.  No answer of its own moves the focus away from that again.
-/

namespace DocsConsole

theorem GithubFocus.next_ne_token (focus : GithubFocus) : focus.next ≠ .token := by
  cases focus <;> decide

theorem GithubFocus.previous_ne_token (focus : GithubFocus) : focus.previous ≠ .token := by
  cases focus <;> decide

namespace GithubPanel

/-- The focus is on something that is shown, and a field only has the keyboard if there is
one. -/
structure FocusShown (panel : GithubPanel) (visibility : Visibility) : Prop where
  token : panel.focus = .token ↔ visibility.tokenForm = true
  editing : panel.editing = true →
    visibility.tokenForm = true ∨ visibility.pullRequestForm = true

variable {panel : GithubPanel} {visibility : Visibility}

/-- The focus is moved to what is shown. -/
theorem focusShown_withFocusShown (panel : GithubPanel) (visibility : Visibility) :
    (panel.withFocusShown visibility).FocusShown visibility := by
  unfold withFocusShown
  split
  case isTrue tokenForm =>
    constructor
    · simp [tokenForm]
    · intro _
      exact Or.inl tokenForm
  case isFalse unshown =>
    split
    case isTrue atToken =>
      constructor
      · simp [unshown]
      · intro typing
        simp [atToken] at typing
    case isFalse elsewhere =>
      constructor
      · simp [elsewhere, unshown]
      · intro typing
        have inForm : visibility.pullRequestForm = true := (Bool.and_eq_true_iff.mp typing).2
        exact Or.inr inForm

namespace FocusShown

variable (shown : panel.FocusShown visibility)

include shown

/-- A focus that is shown already stays. -/
theorem withFocusShown_eq : panel.withFocusShown visibility = panel := by
  obtain ⟨token, editing⟩ := shown
  unfold withFocusShown
  split
  case isTrue tokenForm =>
    have atToken : panel.focus = .token := token.mpr tokenForm
    rw [← atToken]
  case isFalse unshown =>
    have elsewhere : panel.focus ≠ .token := fun atToken => unshown (token.mp atToken)
    rw [if_neg elsewhere]
    have same : (panel.editing && panel.focus ≠ .token && visibility.pullRequestForm) =
        panel.editing := by
      cases typing : panel.editing with
      | false => rfl
      | true =>
          rcases editing typing with tokenForm | pullRequestForm
          · exact (unshown tokenForm).elim
          · simp [elsewhere, pullRequestForm]
    rw [same]

/-- With the same focus, and the keyboard with a field only if it was before, the focus
is still shown. -/
theorem congr {other : GithubPanel} (focus : other.focus = panel.focus)
    (editing : other.editing = true → panel.editing = true) :
    other.FocusShown visibility := by
  constructor
  · rw [focus]
    exact shown.token
  · intro typing
    exact shown.editing (editing typing)

theorem editField (change : TextField → TextField) :
    (panel.editField change).FocusShown visibility := by
  unfold GithubPanel.editField
  split <;> exact shown.congr rfl id

theorem scroll (github : Github) (down : Bool) :
    (panel.scroll github down).FocusShown visibility := by
  unfold GithubPanel.scroll
  split <;> exact shown.congr rfl id

theorem withoutKeyboard : { panel with editing := false }.FocusShown visibility := by
  constructor
  · exact shown.token
  · intro typing
    contradiction

theorem edit (change : Edit) : (panel.edit change).1.FocusShown visibility := by
  unfold GithubPanel.edit
  split
  case h_1 => exact shown.withoutKeyboard
  case h_2 atTitle =>
    constructor
    · have other := shown.token
      rw [atTitle] at other
      simpa using other
    · exact shown.editing
  case h_3 =>
    dsimp only
    exact shown.editField _

theorem startEditing (available : (visibility.tokenForm || visibility.pullRequestForm) = true) :
    { panel with
      focus := if panel.focus.isText then panel.focus else .title
      editing := true }.FocusShown visibility := by
  constructor
  · dsimp only
    split
    case isTrue => exact shown.token
    case isFalse listed =>
      have elsewhere : panel.focus ≠ .token := by
        intro atToken
        rw [atToken] at listed
        exact listed rfl
      have unconnected : ¬visibility.tokenForm = true := by
        intro tokenForm
        exact elsewhere (shown.token.mpr tokenForm)
      simp [unconnected]
  · intro _
    simpa using available

theorem confirm (github : Github) :
    (panel.confirm github visibility).1.FocusShown visibility := by
  unfold GithubPanel.confirm
  split
  case h_1 => exact shown.congr rfl id
  case h_2 => exact shown
  case h_3 =>
    constructor
    · exact shown.token
    · intro typing
      simpa using typing

/-! The two forms are never shown together. -/

variable (exclusive : visibility.pullRequestForm = true → visibility.tokenForm = false)

include exclusive

theorem moveFocus {focus : GithubFocus} (elsewhere : focus ≠ .token) :
    (panel.moveFocus visibility focus).FocusShown visibility := by
  unfold GithubPanel.moveFocus
  split
  case isTrue pullRequestForm =>
    constructor
    · simp [elsewhere, exclusive pullRequestForm]
    · intro _
      exact Or.inr pullRequestForm
  case isFalse => exact shown

theorem whileTyping (action : Action) :
    (panel.whileTyping visibility action).1.FocusShown visibility := by
  cases action with
  | cancel => exact shown.withoutKeyboard
  | focusNext => exact shown.moveFocus exclusive panel.focus.next_ne_token
  | focusPrevious => exact shown.moveFocus exclusive panel.focus.previous_ne_token
  | submit => exact shown.withoutKeyboard
  | up => exact shown.editField TextField.up
  | down => exact shown.editField TextField.down
  | edit edit => exact shown.edit edit
  | _ => exact shown

theorem atRest (github : Github) (action : Action) :
    (panel.atRest github visibility action).1.FocusShown visibility := by
  cases action with
  | focusNext => exact shown.moveFocus exclusive panel.focus.next_ne_token
  | focusPrevious => exact shown.moveFocus exclusive panel.focus.previous_ne_token
  | startEditing =>
      simp only [GithubPanel.atRest]
      split
      case isTrue available => exact shown.startEditing available
      case isFalse => exact shown
  | up => exact shown.scroll github false
  | down => exact shown.scroll github true
  | confirm => exact shown.confirm github
  | _ => exact shown

end FocusShown

theorem pullRequestForm_exclusive (session : Session)
    (pullRequestForm : session.visibility.pullRequestForm = true) :
    session.visibility.tokenForm = false := by
  simp only [Session.visibility, Bool.and_eq_true] at pullRequestForm
  simp [Session.visibility, pullRequestForm.1]

/-- Whatever the panel answers, its focus is on something that is shown. -/
theorem handle_focusShown (session : Session) (panel : GithubPanel) (action : Action) :
    (panel.handle session action).1.FocusShown session.visibility := by
  have shown := focusShown_withFocusShown panel session.visibility
  have exclusive := pullRequestForm_exclusive session
  simp only [handle]
  split
  · exact shown.whileTyping exclusive action
  · have within : ((panel.withFocusShown session.visibility).withinLists
        session.github).FocusShown session.visibility := shown.congr rfl id
    exact within.atRest exclusive session.github action

end GithubPanel

/-! ## In a run -/

namespace Console

/-- If the panel for pull requests is on screen, its focus is on something that is shown. -/
def FocusShown (console : Console) : Prop :=
  console.session.tab = .github → console.github.FocusShown console.session.visibility

theorem askPanel_focusShown (console : Console) (action : Action) :
    (console.askPanel action).1.FocusShown := by
  unfold askPanel
  split
  case h_1 shown =>
    intro other
    have contrary : Tab.documentation = .github := shown.symm.trans other
    contradiction
  case h_2 =>
    intro _
    exact GithubPanel.handle_focusShown console.session console.github action
  case h_3 shown =>
    intro other
    have contrary : Tab.quality = .github := shown.symm.trans other
    contradiction

variable {console : Console} {moment : Moment} {action : Action}

theorem note_focusShown (shown : console.FocusShown) :
    (console.note moment action).FocusShown := by
  unfold note
  split <;> exact shown

theorem step_focusShown (shown : console.FocusShown) :
    (console.step moment action).1.FocusShown := by
  rcases console.taken_or_swallowed action with taken | ⟨help, passes⟩
  · by_cases quits : action = .quit
    · have stays : (console.step moment .quit).1 = { console with quitting := true } := by
        simp [step, Action.passesHelp]
      rw [quits, stays]
      exact shown
    · rw [step_of_taken taken quits]
      exact note_focusShown ((console.effect moment action).askPanel_focusShown action)
  · rw [step_of_swallowed help passes]
    exact shown

theorem handle_focusShown (shown : console.FocusShown) :
    (console.handle moment action).FocusShown := by
  apply handle_keeps _ shown
  intro console action shown
  exact step_focusShown shown

theorem load_focusShown (shown : console.FocusShown) (files : List FilePath)
    (qualityFile : Option FilePath) : (console.load moment files qualityFile).FocusShown := by
  have loaded : FocusShown (if files.isEmpty then console
      else console.handle moment (.request (.addPaths files .documentation))) := by
    split
    · exact shown
    · exact handle_focusShown shown
  unfold load
  cases qualityFile with
  | none => exact loaded
  | some file => exact handle_focusShown loaded

end Console

/-- In a run the focus is always on something that is shown. -/
theorem Run.focusShown {past : List Stage} {console : Console} (run : Run past console) :
    console.FocusShown := by
  induction run with
  | launched settings workspace moment files qualityFile =>
      apply Console.load_focusShown
      intro onScreen
      contradiction
  | next stage run answers induction =>
      cases acts : stage.happening.action? with
      | some action =>
          rw [Stage.after_eq_handle acts]
          exact Console.handle_focusShown induction
      | none =>
          rw [Stage.after, acts]
          dsimp only
          split <;> exact induction

end DocsConsole
