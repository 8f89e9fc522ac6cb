import DocsConsole.Console.GithubPanel
import DocsConsole.Screen.Field
import DocsConsole.Terminal.Stack

/-!
# The panel for pull requests on screen
-/

namespace DocsConsole.Screen.Github

open Terminal

/-- The first row of the list of repositories. -/
def noRepository : String := "— choose a repository —"

/-- The first row of the list of branches. -/
def noBranch : String := "— choose a branch —"

/-- An entry as a row of a list.  The first row stands for no choice. -/
def choiceRow (selected : Option String) (cursor : Option Nat) (place : Nat) (name : String) :
    ListRow :=
  let chosen := place ≠ 0 && selected = some name
  let style := if chosen then Theme.selected else if place = 0 then Theme.dim else Theme.normal
  ⟨Line.styled style ((if chosen then "● " else "  ") ++ name),
    if cursor = some place then Theme.selection else .plain⟩

/-- Draws a list of choices, with a cursor if it has the focus. -/
def drawChoices (title placeholder : String) (entries : List String) (selected : Option String)
    (cursor : Option Nat) (area : Area) : Drawing :=
  (frameOf title cursor.isSome).draw area ++
    ListRow.draw ((placeholder :: entries).mapIdx (choiceRow selected cursor)) (Frame.inside area)

def connectedLine (session : Session) : Line :=
  [⟨"● ", Theme.success⟩,
    ⟨"Connected (" ++ toString session.github.repositories.length ++ " repositories)",
      Theme.normal⟩,
    ⟨"   D", Theme.keyHint⟩, ⟨" disconnect", Theme.dim⟩]

def tokenHints (editing : Bool) : List KeyHint :=
  if editing then [⟨"Enter", "connect"⟩, ⟨"Esc", "done"⟩] else [⟨"e", "edit token"⟩]

def drawTokenForm (panel : GithubPanel) (area : Area) : Drawing :=
  match area.stack (Stack.heights area.height [.fixed 2, .fixed 3, .fixed 1, .elastic 0]) with
  | introduction :: token :: hints :: _ =>
      drawHint "Connect a GitHub personal access token to open pull requests." Theme.muted
          introduction ++
        drawField panel.token panel.editing " GitHub token " "press e to enter a token" token ++
        drawLine ((tokenHints panel.editing).flatMap KeyHint.spans) hints
  | _ => []

def pullRequestHints (editing : Bool) : List KeyHint :=
  if editing then [⟨"Esc", "done"⟩, ⟨"Tab", "next"⟩, ⟨"Ctrl+S", "create PR"⟩]
  else
    [⟨"Tab", "focus"⟩, ⟨"Enter", "choose / edit"⟩, ⟨"e", "edit"⟩, ⟨"D", "disconnect"⟩]

/-- The place of a cursor if its list has the focus. -/
def cursorAt (panel : GithubPanel) (focus : GithubFocus) (cursor : Nat) : Option Nat :=
  if panel.focus = focus then some cursor else none

/-- Draws the lists of repositories and branches. -/
def drawLists (panel : GithubPanel) (session : Session) (area : Area) : Drawing :=
  let (left, right) := area.splitAt (area.share 50)
  let github := session.github
  drawChoices " Repository " noRepository github.repositories github.repository
      (cursorAt panel .repositories panel.repositoryCursor) left ++
    drawChoices " Branch " noBranch github.branches github.branch
      (cursorAt panel .branches panel.branchCursor) right

def drawPullRequestForm (panel : GithubPanel) (session : Session) (area : Area) : Drawing :=
  let editing (focus : GithubFocus) : Bool := panel.editing && panel.focus = focus
  match area.stack (Stack.heights area.height
      [.fixed 1, .elastic 6, .fixed 3, .fixed 5, .fixed 3, .fixed 1]) with
  | [connection, lists, title, description, commitMessage, hints] =>
      drawLine (connectedLine session) connection ++ drawLists panel session lists ++
        drawField panel.title (editing .title) " PR title " "required" title ++
        drawField panel.description (editing .description) " PR description " "optional"
          description ++
        drawField panel.commitMessage (editing .commitMessage) " Commit message " "required"
          commitMessage ++
        drawLine ((pullRequestHints panel.editing).flatMap KeyHint.spans) hints
  | _ => []

/-- Draws what is shown while there is nothing to open a pull request for. -/
def drawWaiting (session : Session) (area : Area) : Drawing :=
  Paragraph.draw
    ⟨[connectedLine session, [],
        Line.styled Theme.muted "Generate documentation on the Docs tab to open a pull request."],
      .trimBlanks, 0⟩
    area

def draw (panel : GithubPanel) (session : Session) (area : Area) : Drawing :=
  let frame : Frame := ⟨" GitHub ", Theme.title, Theme.border⟩
  let inside := Frame.inside area
  let visibility := session.visibility
  frame.draw area ++
    (if visibility.tokenForm then drawTokenForm panel inside
      else if visibility.pullRequestForm then drawPullRequestForm panel session inside
      else drawWaiting session inside)

end DocsConsole.Screen.Github
