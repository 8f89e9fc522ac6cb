import DocsConsole.Backend.Client
import DocsConsole.Editor.Field
import DocsConsole.Session.Toast

/-!
# Actions

Everything that happens to the console is an action: a key that was pressed, a
tick of the clock, a call that is completed, or a request that a panel makes of
the session.
-/

namespace DocsConsole

/-- What came of a call. -/
inductive Outcome where
  /-- Generated content, with the purpose that was asked for. -/
  | generated (content : String) (purpose : Purpose)
  | generationFailed
  | analyzed (report : QualityReport)
  | analysisFailed
  /-- The token was accepted. -/
  | connected (token : String)
  /-- The token was refused, perhaps with a reason. -/
  | connectionRefused (reason : Option String)
  | connectionFailed
  /-- The repositories that were listed with a token. -/
  | repositoriesLoaded (token : String) (repositories : List String)
  | repositoriesFailed
  /-- The branches of a repository. -/
  | branchesLoaded (repository : String) (branches : List String)
  | branchesFailed
  /-- A pull request was opened, perhaps at a known address. -/
  | pullRequestOpened (url : Option String)
  | pullRequestRefused (reason : Option String)
  | pullRequestFailed
deriving Inhabited

namespace Outcome

/-- What came of a call without a usable answer. -/
def failed : Backend.Call → Outcome
  | .generateDocs _ => generationFailed
  | .analyzeQuality _ => analysisFailed
  | .connect _ => connectionFailed
  | .listRepositories _ => repositoriesFailed
  | .listBranches _ _ => branchesFailed
  | .openPullRequest _ _ => pullRequestFailed

def ofResult : Backend.Call → Except Backend.CallFailure Backend.Answer → Outcome
  | .generateDocs request, .ok (.content text) => generated text request.purpose
  | .analyzeQuality _, .ok (.report report) => analyzed report
  | .connect token, .ok (.connection true _) => connected token
  | .connect _, .ok (.connection false reason) => connectionRefused reason
  | .listRepositories token, .ok (.names names) => repositoriesLoaded token names
  | .listBranches _ repository, .ok (.names names) => branchesLoaded repository names
  | .openPullRequest _ _, .ok (.pullRequest true url _) => pullRequestOpened url
  | .openPullRequest _ _, .ok (.pullRequest false _ reason) => pullRequestRefused reason
  | call, _ => failed call

end Outcome

/-- What a panel asks the console to do. -/
inductive Request where
  /-- Reads files and adds them to a list. -/
  | addPaths (paths : List FilePath) (target : IntakeTarget)
  | removeFile (index : Nat)
  | removeQualityFile
  | generateDocs (projectName instructions : String)
  | connect (token : String)
  /-- Chooses a repository, or none. -/
  | selectRepository (name : Option String)
  /-- Chooses a branch, or none. -/
  | selectBranch (name : Option String)
  | openPullRequest (title description commitMessage : String)
deriving DecidableEq, Repr, Inhabited

/-- What happens to the console. -/
inductive Action where
  | showTab (tab : Tab)
  | nextTab
  | previousTab
  /-- Goes to the next field of the panel. -/
  | focusNext
  | focusPrevious
  | quit
  | toggleHelp
  /-- Shows a notification. -/
  | notify (toast : Toast)
  /-- Some time has passed. -/
  | tick
  /-- Gives the keyboard to a field of the panel. -/
  | startEditing
  /-- Takes the keyboard from a field, or closes what is open. -/
  | cancel
  /-- Submits the form for documentation. -/
  | generate
  | togglePurpose
  /-- Saves the generated content. -/
  | download
  /-- Saves a preview of what the tab shows. -/
  | exportPreview
  | analyze
  | removeSelected
  | disconnect
  /-- A panel asks for something. -/
  | request (request : Request)
  /-- A call is completed; its ticket is taken back. -/
  | completed (ticket : Ticket) (outcome : Outcome)
  /-- Text is typed, taken away or pasted. -/
  | edit (edit : Edit)
  /-- Submits the form of the focused field. -/
  | submit
  | up
  | down
  | pageUp
  | pageDown
  | confirm
deriving Inhabited

end DocsConsole
