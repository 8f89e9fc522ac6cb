import DocsConsole.Proofs.Console.Dispatched

/-!
# The panel for pull requests agrees with the session

A connection may begin or end while another tab is on screen, and then the panel for pull
requests does not hear of it.  It moves its focus to what is shown when it is on screen
again.  A token is only kept while the focus is on it, wherever the panel is, and the
keyboard is only given to a field.  So on screen no connected panel keeps a token, and no
list takes the keyboard.
-/

namespace DocsConsole

namespace GithubPanel

/-- What holds of the panel alone, whatever the session is. -/
structure Tidy (panel : GithubPanel) : Prop where
  token_forgotten : panel.focus ≠ .token → panel.token.content = []
  field_typed : panel.editing = true → panel.focus.isText = true

namespace Tidy

variable {panel : GithubPanel} (tidy : panel.Tidy)

include tidy

/-- With the same focus and the same token, and the keyboard with the panel only if it was
before, the panel is still tidy. -/
theorem congr {other : GithubPanel} (focus : other.focus = panel.focus)
    (token : other.token = panel.token) (editing : other.editing = true → panel.editing = true) :
    other.Tidy := by
  constructor
  · intro elsewhere
    rw [focus] at elsewhere
    rw [token]
    exact tidy.token_forgotten elsewhere
  · intro typing
    rw [focus]
    exact tidy.field_typed (editing typing)

theorem withFocusShown (visibility : Visibility) : (panel.withFocusShown visibility).Tidy := by
  unfold GithubPanel.withFocusShown
  split
  case isTrue =>
    constructor
    · intro elsewhere
      exact (elsewhere rfl).elim
    · intro _
      rfl
  case isFalse =>
    split
    case isTrue atToken =>
      constructor
      · intro _
        rfl
      · intro typing
        simp [atToken] at typing
    case isFalse elsewhere =>
      refine tidy.congr rfl rfl ?_
      intro typing
      have both := Bool.and_eq_true_iff.mp (Bool.and_eq_true_iff.mp typing).1
      exact both.1

theorem withoutKeyboard : { panel with editing := false }.Tidy := by
  refine tidy.congr rfl rfl ?_
  intro typing
  contradiction

theorem editField (change : TextField → TextField) : (panel.editField change).Tidy := by
  unfold GithubPanel.editField
  split
  case h_1 atToken =>
    constructor
    · intro elsewhere
      exact (elsewhere atToken).elim
    · exact tidy.field_typed
  all_goals exact tidy.congr rfl rfl id

theorem scroll (github : Github) (down : Bool) : (panel.scroll github down).Tidy := by
  unfold GithubPanel.scroll
  split <;> exact tidy.congr rfl rfl id

/-- The focus goes on from one thing to another, and none of them is the token. -/
theorem movedTo {focus : GithubFocus} (elsewhere : panel.focus ≠ .token) (editing : Bool)
    (typed : editing = true → focus.isText = true) :
    { panel with focus := focus, editing := editing }.Tidy := by
  constructor
  · intro _
    exact tidy.token_forgotten elsewhere
  · exact typed

theorem edit (change : Edit) : (panel.edit change).1.Tidy := by
  unfold GithubPanel.edit
  split
  case h_1 => exact tidy.withoutKeyboard
  case h_2 atTitle =>
    have elsewhere : panel.focus ≠ .token := by
      rw [atTitle]
      decide
    apply tidy.movedTo elsewhere
    intro _
    rfl
  case h_3 =>
    dsimp only
    exact tidy.editField _

theorem startEditing :
    { panel with
      focus := if panel.focus.isText then panel.focus else .title
      editing := true }.Tidy := by
  split
  case isTrue isText =>
    constructor
    · exact tidy.token_forgotten
    · intro _
      exact isText
  case isFalse listed =>
    have elsewhere : panel.focus ≠ .token := by
      intro atToken
      rw [atToken] at listed
      exact listed rfl
    apply tidy.movedTo elsewhere
    intro _
    rfl

theorem confirm (github : Github) (visibility : Visibility) :
    (panel.confirm github visibility).1.Tidy := by
  unfold GithubPanel.confirm
  split
  case h_1 => exact tidy.congr rfl rfl id
  case h_2 => exact tidy
  case h_3 offRepositories offBranches =>
    constructor
    · exact tidy.token_forgotten
    · intro _
      cases focused : panel.focus with
      | repositories => exact (offRepositories focused).elim
      | branches => exact (offBranches focused).elim
      | _ => rfl

/-! Only what is shown has the focus, and the two forms are never shown together, so the focus
is not moved away from a token. -/

variable {visibility : Visibility} (shown : panel.FocusShown visibility)
  (exclusive : visibility.pullRequestForm = true → visibility.tokenForm = false)

include shown exclusive

theorem moveFocus (focus : GithubFocus) : (panel.moveFocus visibility focus).Tidy := by
  unfold GithubPanel.moveFocus
  split
  case isTrue pullRequestForm =>
    have elsewhere : panel.focus ≠ .token := by
      intro atToken
      have tokenForm := shown.token.mp atToken
      rw [exclusive pullRequestForm] at tokenForm
      contradiction
    apply tidy.movedTo elsewhere
    intro typing
    exact (Bool.and_eq_true_iff.mp typing).2
  case isFalse => exact tidy

theorem whileTyping (action : Action) : (panel.whileTyping visibility action).1.Tidy := by
  cases action with
  | cancel => exact tidy.withoutKeyboard
  | focusNext => exact tidy.moveFocus shown exclusive _
  | focusPrevious => exact tidy.moveFocus shown exclusive _
  | submit => exact tidy.withoutKeyboard
  | up => exact tidy.editField TextField.up
  | down => exact tidy.editField TextField.down
  | edit edit => exact tidy.edit edit
  | _ => exact tidy

theorem atRest (github : Github) (action : Action) :
    (panel.atRest github visibility action).1.Tidy := by
  cases action with
  | focusNext => exact tidy.moveFocus shown exclusive _
  | focusPrevious => exact tidy.moveFocus shown exclusive _
  | startEditing =>
      simp only [GithubPanel.atRest]
      split
      · exact tidy.startEditing
      · exact tidy
  | up => exact tidy.scroll github false
  | down => exact tidy.scroll github true
  | confirm => exact tidy.confirm github visibility
  | _ => exact tidy

end Tidy

theorem handle_tidy {panel : GithubPanel} (tidy : panel.Tidy) (session : Session)
    (action : Action) : (panel.handle session action).1.Tidy := by
  have shown := focusShown_withFocusShown panel session.visibility
  have exclusive := pullRequestForm_exclusive session
  have moved : (panel.withFocusShown session.visibility).Tidy := tidy.withFocusShown _
  simp only [handle]
  split
  · exact moved.whileTyping shown exclusive action
  · have within : ((panel.withFocusShown session.visibility).withinLists
        session.github).Tidy := moved.congr rfl rfl id
    have stillShown : ((panel.withFocusShown session.visibility).withinLists
        session.github).FocusShown session.visibility := shown.congr rfl id
    exact within.atRest stillShown exclusive session.github action

end GithubPanel

namespace Dispatched

variable {past : List Action} {console : Console}

theorem github_tidy (dispatched : Dispatched past console) : console.github.Tidy := by
  apply dispatched.invariant
  · intro settings workspace
    constructor
    · intro elsewhere
      exact (elsewhere rfl).elim
    · intro typing
      contradiction
  · intro console moment action tidy
    apply Console.handle_of_panels (fun console => console.github.Tidy) _ _ tidy
    · intro left right same tidy
      have sameGithub : left.github = right.github := congrArg (·.2.1) same
      rw [sameGithub]
      exact tidy
    · intro console action tidy
      unfold Console.askPanel
      split
      · exact tidy
      · exact GithubPanel.handle_tidy tidy console.session action
      · exact tidy
  · intro console files tidy
    exact tidy

/-- Whatever was dispatched, if the panel for pull requests is on screen then its focus is on
the token exactly while the session is disconnected, a field has the keyboard only in a form
that is shown, and no token is kept while the session is connected. -/
theorem github_agrees (dispatched : Dispatched past console)
    (onScreen : console.session.tab = .github) :
    (console.github.focus = .token ↔ console.session.isConnected = false) ∧
      (console.github.editing = true → console.github.focus.isText = true ∧
        (console.session.visibility.tokenForm = true ∨
          console.session.visibility.pullRequestForm = true)) ∧
      (console.session.isConnected = true → console.github.token.content = []) := by
  have shown := dispatched.focusShown onScreen
  have tidy := dispatched.github_tidy
  have agrees : console.github.focus = .token ↔ console.session.isConnected = false := by
    rw [shown.token]
    simp [Session.visibility]
  refine ⟨agrees, ?_, ?_⟩
  · intro typing
    exact ⟨tidy.field_typed typing, shown.editing typing⟩
  · intro connected
    apply tidy.token_forgotten
    intro atToken
    rw [agrees.mp atToken] at connected
    contradiction

end Dispatched

/-- A token is submitted, and its connection is accepted while another tab is on screen. -/
def Action.connectedElsewhere : List Action :=
  [.completed 0 (.connected "a"), .showTab .documentation, .submit, .edit (.character 'a'),
    .startEditing, .showTab .github]

theorem github_agrees_after_connectedElsewhere :
    let away := Console.ofActions Action.connectedElsewhere
    let back := Console.ofActions (.showTab .github :: Action.connectedElsewhere)
    away.session.isConnected = true ∧ away.github.focus = .token ∧
      away.github.token.content = ['a'] ∧
      Dispatched (.showTab .github :: Action.connectedElsewhere) back ∧
      back.session.tab = .github ∧ back.github.focus ≠ .token ∧
      back.github.token.content = [] := by
  intro away back
  have dispatched : Dispatched (.showTab .github :: Action.connectedElsewhere) back :=
    Dispatched.ofActions _
  have onScreen : back.session.tab = .github := by decide
  have connected : back.session.isConnected = true := by decide
  obtain ⟨focused, _, forgotten⟩ := dispatched.github_agrees onScreen
  refine ⟨by decide, by decide, by decide, dispatched, onScreen, ?_, forgotten connected⟩
  intro atToken
  have unconnected := focused.mp atToken
  rw [connected] at unconnected
  contradiction

end DocsConsole
