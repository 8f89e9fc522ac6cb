import DocsConsole.Proofs.Console.Dispatched
import DocsConsole.Proofs.Console.Failure
import DocsConsole.Proofs.Editor.Cursor

/-!
# The fields of the panels

The console has eight fields, and at most one of them has the keyboard.  Panels change
them by edits, by moves between lines, by emptying them and by filling in a suggestion.
What all of these keep, such as the place of the cursor, is kept by every answer.
-/

namespace DocsConsole

/-- The fields of the console. -/
inductive FieldName where
  | path
  | projectName
  | instructions
  | token
  | title
  | description
  | commitMessage
  | qualityPath
deriving DecidableEq

def DocsFocus.field? : DocsFocus → Option FieldName
  | .path => some .path
  | .projectName => some .projectName
  | .instructions => some .instructions
  | _ => none

def GithubFocus.field? : GithubFocus → Option FieldName
  | .token => some .token
  | .title => some .title
  | .description => some .description
  | .commitMessage => some .commitMessage
  | _ => none

def QualityFocus.field? : QualityFocus → Option FieldName
  | .path => some .qualityPath
  | .report => none

namespace Console

def field (console : Console) : FieldName → TextField
  | .path => console.docs.path.field
  | .projectName => console.docs.projectName
  | .instructions => console.docs.instructions
  | .token => console.github.token
  | .title => console.github.title
  | .description => console.github.description
  | .commitMessage => console.github.commitMessage
  | .qualityPath => console.quality.path.field

/-- The field that has the focus of the panel on screen. -/
def focused? (console : Console) : Option FieldName :=
  match console.session.tab with
  | .documentation => console.docs.focus.field?
  | .github => console.github.focus.field?
  | .quality => console.quality.focus.field?

end Console

/-- A property that no change to a field takes away. -/
structure TextField.Lasting (Holds : TextField → Prop) : Prop where
  edit : ∀ field change, Holds field → Holds (field.edit change)
  up : ∀ field, Holds field → Holds field.up
  down : ∀ field, Holds field → Holds field.down
  clear : ∀ field, Holds field → Holds field.clear
  setValue : ∀ field value, Holds field → Holds (field.setValue value)

theorem TextField.placed_lasting : Lasting Placed := by
  constructor
  · intro field change placed
    exact placed.edit change
  · intro field placed
    exact placed.up
  · intro field placed
    exact placed.down
  · intro field _
    exact placed_clear field
  · intro field value _
    exact placed_setValue field value

theorem TextField.kind_lasting (kind : FieldKind) : Lasting (fun field => field.kind = kind) := by
  constructor
  · intro field change same
    rw [← same]
    cases change with
    | character c =>
        change (field.typeCharacter c).kind = field.kind
        unfold typeCharacter
        split <;> rfl
    | newline =>
        simp only [edit, edit?]
        split <;> rfl
    | eraseCharacter => rfl
    | eraseWord => rfl
    | paste text => rfl
  · intro field same
    rw [← same]
    unfold up up?
    split <;> rfl
  · intro field same
    rw [← same]
    unfold down down?
    split <;> rfl
  · intro field same
    exact same
  · intro field value same
    exact same

section Lasting

variable {Holds : TextField → Prop} (lasting : TextField.Lasting Holds)

include lasting

theorem PathField.accept_lasting {path : PathField} (holds : Holds path.field)
    (workspace : Workspace) : Holds (path.accept workspace).field := by
  unfold accept
  split
  · exact holds
  · rw [PathField.refresh_field]
    exact lasting.setValue _ _ holds

/-! ## The panel for documentation -/

/-- All fields of the panel have a property. -/
structure DocsPanel.Fields (Holds : TextField → Prop) (panel : DocsPanel) : Prop where
  path : Holds panel.path.field
  projectName : Holds panel.projectName
  instructions : Holds panel.instructions

namespace DocsPanel.Fields

omit lasting in
theorem refresh {panel : DocsPanel} (fields : panel.Fields Holds) (workspace : Workspace) :
    (panel.refresh workspace).Fields Holds := by
  unfold DocsPanel.refresh
  split
  · constructor
    · rw [PathField.refresh_field]
      exact fields.path
    · exact fields.projectName
    · exact fields.instructions
  · exact fields

omit lasting in
theorem editField {panel : DocsPanel} (fields : panel.Fields Holds)
    {change : TextField → TextField} (keeps : ∀ field, Holds field → Holds (change field)) :
    (panel.editField change).Fields Holds := by
  unfold DocsPanel.editField
  split
  · exact ⟨keeps _ fields.path, fields.projectName, fields.instructions⟩
  · exact ⟨fields.path, keeps _ fields.projectName, fields.instructions⟩
  · exact ⟨fields.path, fields.projectName, keeps _ fields.instructions⟩
  · exact fields

variable {panel : DocsPanel} (fields : panel.Fields Holds) (workspace : Workspace)

include fields

theorem takePaths : (panel.takePaths workspace).1.Fields Holds :=
  ⟨lasting.clear _ fields.path, fields.projectName, fields.instructions⟩

theorem acceptSuggestion : (panel.acceptSuggestion workspace).1.Fields Holds := by
  have accepted : { panel with path := panel.path.accept workspace }.Fields Holds :=
    ⟨PathField.accept_lasting lasting fields.path workspace, fields.projectName,
      fields.instructions⟩
  unfold DocsPanel.acceptSuggestion
  dsimp only
  split
  · exact accepted.takePaths lasting workspace
  · exact accepted

theorem edit (change : Edit) : (panel.edit workspace change).1.Fields Holds := by
  unfold DocsPanel.edit
  split
  · split
    · exact fields.acceptSuggestion lasting workspace
    · exact fields.takePaths lasting workspace
  · exact ⟨fields.path, fields.projectName, fields.instructions⟩
  · dsimp only
    apply refresh
    apply fields.editField
    intro field holds
    exact lasting.edit field _ holds

theorem whileTyping (action : Action) : (panel.whileTyping workspace action).1.Fields Holds := by
  cases action with
  | cancel =>
      simp only [DocsPanel.whileTyping]
      split <;> exact ⟨fields.path, fields.projectName, fields.instructions⟩
  | focusNext =>
      simp only [DocsPanel.whileTyping]
      split
      · exact fields.acceptSuggestion lasting workspace
      · exact ⟨fields.path, fields.projectName, fields.instructions⟩
  | focusPrevious => exact ⟨fields.path, fields.projectName, fields.instructions⟩
  | down =>
      simp only [DocsPanel.whileTyping]
      split
      · unfold PathField.highlightNext
        split <;> exact ⟨fields.path, fields.projectName, fields.instructions⟩
      · exact fields.editField lasting.down
  | up =>
      simp only [DocsPanel.whileTyping]
      split
      · exact ⟨fields.path, fields.projectName, fields.instructions⟩
      · exact fields.editField lasting.up
  | submit =>
      simp only [DocsPanel.whileTyping]
      split
      · exact fields.takePaths lasting workspace
      · exact ⟨fields.path, fields.projectName, fields.instructions⟩
  | edit edit => exact fields.edit lasting workspace edit
  | _ => exact fields.refresh workspace

omit lasting in
theorem atRest (files : Nat) (action : Action) :
    (panel.atRest workspace files action).1.Fields Holds := by
  have scrolled : ∀ down, (panel.scroll files down).Fields Holds := by
    intro down
    unfold DocsPanel.scroll
    split <;> exact ⟨fields.path, fields.projectName, fields.instructions⟩
  cases action with
  | up => exact scrolled false
  | down => exact scrolled true
  | edit edit => cases edit <;> exact fields
  | _ => exact ⟨fields.path, fields.projectName, fields.instructions⟩

theorem handle (session : Session) (action : Action) :
    (panel.handle workspace session action).1.Fields Holds := by
  unfold DocsPanel.handle
  split
  · exact fields.whileTyping lasting workspace action
  · have within : (panel.withinFiles session.uploads.length).Fields Holds :=
      ⟨fields.path, fields.projectName, fields.instructions⟩
    exact within.atRest workspace _ action

end DocsPanel.Fields

/-! ## The panel for pull requests -/

/-- All fields of the panel have a property. -/
structure GithubPanel.Fields (Holds : TextField → Prop) (panel : GithubPanel) : Prop where
  token : Holds panel.token
  title : Holds panel.title
  description : Holds panel.description
  commitMessage : Holds panel.commitMessage

namespace GithubPanel.Fields

omit lasting in
theorem editField {panel : GithubPanel} (fields : panel.Fields Holds)
    {change : TextField → TextField} (keeps : ∀ field, Holds field → Holds (change field)) :
    (panel.editField change).Fields Holds := by
  obtain ⟨token, title, description, commitMessage⟩ := fields
  unfold GithubPanel.editField
  split
  · exact ⟨keeps _ token, title, description, commitMessage⟩
  · exact ⟨token, keeps _ title, description, commitMessage⟩
  · exact ⟨token, title, keeps _ description, commitMessage⟩
  · exact ⟨token, title, description, keeps _ commitMessage⟩
  · exact ⟨token, title, description, commitMessage⟩

variable {panel : GithubPanel} (fields : panel.Fields Holds)

include fields

omit lasting in
/-- Where a panel differs in something else, its fields are the same. -/
theorem of_same {other : GithubPanel} (token : other.token = panel.token)
    (title : other.title = panel.title) (description : other.description = panel.description)
    (commitMessage : other.commitMessage = panel.commitMessage) : other.Fields Holds := by
  constructor
  · rw [token]
    exact fields.token
  · rw [title]
    exact fields.title
  · rw [description]
    exact fields.description
  · rw [commitMessage]
    exact fields.commitMessage

theorem withFocusShown (visibility : Visibility) :
    (panel.withFocusShown visibility).Fields Holds := by
  unfold GithubPanel.withFocusShown
  split
  · exact fields.of_same rfl rfl rfl rfl
  · split
    · exact ⟨lasting.clear _ fields.token, fields.title, fields.description,
        fields.commitMessage⟩
    · exact fields.of_same rfl rfl rfl rfl

omit lasting in
theorem moveFocus (visibility : Visibility) (focus : GithubFocus) :
    (panel.moveFocus visibility focus).Fields Holds := by
  unfold GithubPanel.moveFocus
  split <;> exact fields.of_same rfl rfl rfl rfl

theorem edit (change : Edit) : (panel.edit change).1.Fields Holds := by
  unfold GithubPanel.edit
  split
  · exact fields.of_same rfl rfl rfl rfl
  · exact fields.of_same rfl rfl rfl rfl
  · dsimp only
    apply fields.editField
    intro field holds
    exact lasting.edit field _ holds

theorem whileTyping (visibility : Visibility) (action : Action) :
    (panel.whileTyping visibility action).1.Fields Holds := by
  cases action with
  | focusNext => exact fields.moveFocus visibility _
  | focusPrevious => exact fields.moveFocus visibility _
  | up => exact fields.editField lasting.up
  | down => exact fields.editField lasting.down
  | edit edit => exact fields.edit lasting edit
  | _ => exact fields.of_same rfl rfl rfl rfl

omit lasting in
theorem atRest (github : Github) (visibility : Visibility) (action : Action) :
    (panel.atRest github visibility action).1.Fields Holds := by
  have scrolled : ∀ down, (panel.scroll github down).Fields Holds := by
    intro down
    unfold GithubPanel.scroll
    split <;> exact fields.of_same rfl rfl rfl rfl
  cases action with
  | focusNext => exact fields.moveFocus visibility _
  | focusPrevious => exact fields.moveFocus visibility _
  | startEditing =>
      simp only [GithubPanel.atRest]
      split <;> exact fields.of_same rfl rfl rfl rfl
  | up => exact scrolled false
  | down => exact scrolled true
  | confirm =>
      simp only [GithubPanel.atRest, GithubPanel.confirm]
      split <;> exact fields.of_same rfl rfl rfl rfl
  | _ => exact fields

theorem handle (session : Session) (action : Action) :
    (panel.handle session action).1.Fields Holds := by
  have moved := fields.withFocusShown lasting session.visibility
  simp only [GithubPanel.handle]
  split
  · exact moved.whileTyping lasting session.visibility action
  · have within : ((panel.withFocusShown session.visibility).withinLists
        session.github).Fields Holds := moved.of_same rfl rfl rfl rfl
    exact within.atRest session.github session.visibility action

end GithubPanel.Fields

/-! ## The panel for code quality -/

namespace QualityPanel

variable {panel : QualityPanel} (holds : Holds panel.path.field) (workspace : Workspace)

include holds

theorem acceptSuggestion_lasting : Holds (panel.acceptSuggestion workspace).1.path.field := by
  have accepted := PathField.accept_lasting lasting holds workspace
  unfold acceptSuggestion
  dsimp only
  split
  · exact lasting.clear _ accepted
  · exact accepted

theorem edit_lasting (change : Edit) : Holds (panel.edit workspace change).1.path.field := by
  unfold QualityPanel.edit
  split
  · split
    · exact acceptSuggestion_lasting lasting holds workspace
    · exact lasting.clear _ holds
  · simp only [PathField.edit, PathField.refresh_field]
    exact lasting.edit _ _ holds

theorem whileTyping_lasting (action : Action) :
    Holds (panel.whileTyping workspace action).1.path.field := by
  cases action with
  | cancel =>
      simp only [whileTyping]
      split <;> exact holds
  | focusNext =>
      simp only [whileTyping]
      split
      · exact acceptSuggestion_lasting lasting holds workspace
      · exact holds
  | focusPrevious => exact holds
  | down =>
      simp only [whileTyping, PathField.highlightNext]
      split <;> exact holds
  | up => exact holds
  | submit => exact lasting.clear _ holds
  | edit edit => exact edit_lasting lasting holds workspace edit
  | _ =>
      simp only [whileTyping, PathField.refresh_field]
      exact holds

theorem handle_lasting (session : Session) (action : Action) :
    Holds (panel.handle workspace session action).1.path.field := by
  unfold handle
  split
  · exact whileTyping_lasting lasting holds workspace action
  · cases action with
    | edit edit => cases edit <;> exact holds
    | _ => exact holds

end QualityPanel

end Lasting

/-! ## In the console -/

namespace Dispatched

variable {past : List Action} {console : Console}

/-- What no change takes away from a field holds of all fields, whatever was dispatched. -/
theorem fields {Holds : TextField → Prop} (lasting : TextField.Lasting Holds)
    (empty : ∀ kind, Holds (.empty kind)) (dispatched : Dispatched past console)
    (name : FieldName) : Holds (console.field name) := by
  have all : console.docs.Fields Holds ∧ console.github.Fields Holds ∧
      Holds console.quality.path.field := by
    apply dispatched.invariant
    · intro settings workspace
      exact ⟨⟨empty _, empty _, empty _⟩, ⟨empty _, empty _, empty _, empty _⟩, empty _⟩
    · intro console moment action holds
      apply Console.handle_of_panels (fun console => console.docs.Fields Holds ∧
        console.github.Fields Holds ∧ Holds console.quality.path.field) _ _ holds
      · intro left right same holds
        simp only [Console.panels, Prod.mk.injEq] at same
        obtain ⟨docs, github, quality⟩ := same
        rw [docs, github, quality]
        exact holds
      · intro console action holds
        obtain ⟨docs, github, quality⟩ := holds
        unfold Console.askPanel
        split
        · exact ⟨docs.handle lasting _ _ _, github, quality⟩
        · exact ⟨docs, github.handle lasting _ _, quality⟩
        · exact ⟨docs, github, QualityPanel.handle_lasting lasting quality _ _ _⟩
    · intro console files holds
      exact holds
  obtain ⟨docs, github, quality⟩ := all
  cases name with
  | path => exact docs.path
  | projectName => exact docs.projectName
  | instructions => exact docs.instructions
  | token => exact github.token
  | title => exact github.title
  | description => exact github.description
  | commitMessage => exact github.commitMessage
  | qualityPath => exact quality

theorem fields_placed (dispatched : Dispatched past console) (name : FieldName) :
    (console.field name).Placed :=
  dispatched.fields TextField.placed_lasting TextField.placed_empty name

end Dispatched

end DocsConsole
