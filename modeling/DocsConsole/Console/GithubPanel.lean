import DocsConsole.Console.DocsPanel

/-!
# The panel for pull requests

Without a connection the panel asks for a token.  With one, and with something
generated, it lets the user choose a repository and a branch and fill in a pull
request.
-/

namespace DocsConsole

inductive GithubFocus where
  | token
  | repositories
  | branches
  | title
  | description
  | commitMessage
deriving DecidableEq, Repr, Inhabited

namespace GithubFocus

/-- What comes next in the form of a pull request. -/
def next : GithubFocus → GithubFocus
  | repositories => branches
  | branches => title
  | title => description
  | description => commitMessage
  | commitMessage => repositories
  | token => branches

/-- What comes before in the form of a pull request. -/
def previous : GithubFocus → GithubFocus
  | repositories => commitMessage
  | branches => repositories
  | title => branches
  | description => title
  | commitMessage => description
  | token => commitMessage

/-- Whether text can be typed. -/
def isText : GithubFocus → Bool
  | repositories => false
  | branches => false
  | _ => true

end GithubFocus

structure GithubPanel where
  focus : GithubFocus
  /-- Whether a focused field takes the keyboard. -/
  editing : Bool
  token : TextField
  title : TextField
  description : TextField
  commitMessage : TextField
  /-- The place of the cursor among the repositories; the first row chooses none. -/
  repositoryCursor : Nat
  /-- The place of the cursor among the branches; the first row chooses none. -/
  branchCursor : Nat
deriving DecidableEq, Repr, Inhabited

namespace GithubPanel

def initial : GithubPanel :=
  ⟨.token, false, .empty .masked, .empty .single, .empty .multi, .empty .single, 0, 0⟩

/-- Whether a field has the keyboard. -/
def wantsInput (panel : GithubPanel) : Bool :=
  panel.editing && panel.focus.isText

/-- The panel with its focus on something that is shown.  A token that was accepted is not
kept. -/
def withFocusShown (panel : GithubPanel) (visibility : Visibility) : GithubPanel :=
  if visibility.tokenForm then { panel with focus := .token }
  else
    let editing := panel.editing && panel.focus ≠ .token && visibility.pullRequestForm
    if panel.focus = .token then
      { panel with token := panel.token.clear, focus := .repositories, editing := editing }
    else { panel with editing := editing }

/-- Moves the focus in the form of a pull request. -/
def moveFocus (panel : GithubPanel) (visibility : Visibility) (focus : GithubFocus) :
    GithubPanel :=
  if visibility.pullRequestForm then
    { panel with focus := focus, editing := panel.editing && focus.isText }
  else panel

def editField (panel : GithubPanel) (change : TextField → TextField) : GithubPanel :=
  match panel.focus with
  | .token => { panel with token := change panel.token }
  | .title => { panel with title := change panel.title }
  | .description => { panel with description := change panel.description }
  | .commitMessage => { panel with commitMessage := change panel.commitMessage }
  | _ => panel

/-- Submits the form that has the focus. -/
def submit (panel : GithubPanel) : GithubPanel × Option Request :=
  ({ panel with editing := false },
    some (if panel.focus = .token then .connect panel.token.value
      else
        .openPullRequest panel.title.value panel.description.value panel.commitMessage.value))

/-- What a row of a list chooses. -/
def choiceAt (entries : List String) : Nat → Option String
  | 0 => none
  | place + 1 => entries[place]?

/-- Makes a change to the focused field.  A line end submits a token, and goes on from the title
to the description. -/
def edit (panel : GithubPanel) (edit : Edit) : GithubPanel × Option Request :=
  match edit, panel.focus with
  | .newline, .token => panel.submit
  | .newline, .title => ({ panel with focus := .description }, none)
  | _, _ => (panel.editField (·.edit edit), none)

/-- Answers an action while a field has the keyboard. -/
def whileTyping (panel : GithubPanel) (visibility : Visibility) :
    Action → GithubPanel × Option Request
  | .cancel => ({ panel with editing := false }, none)
  | .focusNext => (panel.moveFocus visibility panel.focus.next, none)
  | .focusPrevious => (panel.moveFocus visibility panel.focus.previous, none)
  | .submit => panel.submit
  | .up => (panel.editField TextField.up, none)
  | .down => (panel.editField TextField.down, none)
  | .edit edit => panel.edit edit
  | _ => (panel, none)

/-- Moves the cursor of the focused list. -/
def scroll (panel : GithubPanel) (github : Github) (down : Bool) : GithubPanel :=
  match panel.focus with
  | .repositories =>
      { panel with
        repositoryCursor :=
          stepCursor panel.repositoryCursor (github.repositories.length + 1) down }
  | .branches =>
      { panel with
        branchCursor := stepCursor panel.branchCursor (github.branches.length + 1) down }
  | _ => panel

/-- Chooses the row under the cursor of the focused list, or goes on with a field. -/
def confirm (panel : GithubPanel) (github : Github) (visibility : Visibility) :
    GithubPanel × Option Request :=
  match panel.focus with
  | .repositories =>
      ({ panel with branchCursor := 0 },
        some (.selectRepository (choiceAt github.repositories panel.repositoryCursor)))
  | .branches => (panel, some (.selectBranch (choiceAt github.branches panel.branchCursor)))
  | _ =>
      ({ panel with editing := visibility.tokenForm || visibility.pullRequestForm }, none)

/-- Answers an action while no field has the keyboard. -/
def atRest (panel : GithubPanel) (github : Github) (visibility : Visibility) :
    Action → GithubPanel × Option Request
  | .focusNext => (panel.moveFocus visibility panel.focus.next, none)
  | .focusPrevious => (panel.moveFocus visibility panel.focus.previous, none)
  | .startEditing =>
      if visibility.tokenForm || visibility.pullRequestForm then
        ({ panel with
          focus := if panel.focus.isText then panel.focus else .title, editing := true }, none)
      else (panel, none)
  | .up => (panel.scroll github false, none)
  | .down => (panel.scroll github true, none)
  | .confirm => panel.confirm github visibility
  | _ => (panel, none)

/-- The panel with its cursors on rows of their lists. -/
def withinLists (panel : GithubPanel) (github : Github) : GithubPanel :=
  { panel with
    repositoryCursor := min panel.repositoryCursor github.repositories.length
    branchCursor := min panel.branchCursor github.branches.length }

def handle (session : Session) (panel : GithubPanel) (action : Action) :
    GithubPanel × Option Request :=
  let visibility := session.visibility
  let shown := panel.withFocusShown visibility
  if shown.wantsInput then shown.whileTyping visibility action
  else (shown.withinLists session.github).atRest session.github visibility action

/-- The panel does not answer a request with another one. -/
theorem handle_request (session : Session) (panel : GithubPanel) (request : Request) :
    (panel.handle session (.request request)).2 = none := by
  unfold handle
  dsimp only
  split <;> rfl

end GithubPanel

end DocsConsole
