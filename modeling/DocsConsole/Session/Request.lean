import DocsConsole.Session.Basic
import DocsConsole.Unicode.Space

/-!
# Requests

A request is built from the session and from what the user typed, as they are at
that moment.  Whatever is missing is found before anything is sent.
-/

namespace DocsConsole

/-- Why a request is not sent. -/
inductive Refusal where
  | noFiles
  | missingProjectName
  | noQualityFile
  | missingToken
  | notConnected
  | nothingGenerated
  | noTarget
  | missingPullRequestFields
deriving DecidableEq, Repr

def Refusal.message : Refusal → String
  | .noFiles => "Please upload at least one file"
  | .missingProjectName => "Please enter a project name"
  | .noQualityFile => "Please select a file to analyze"
  | .missingToken => "Please enter your GitHub token"
  | .notConnected => "Please connect to GitHub first"
  | .nothingGenerated => "Please generate documentation first"
  | .noTarget => "Please select a repository and branch"
  | .missingPullRequestFields => "Please enter a PR title and commit message"

/-- What documentation is generated from. -/
structure DocsRequest where
  files : List UploadedFile
  purpose : Purpose
  projectName : String
  instructions : String
deriving DecidableEq, Inhabited

/-- A pull request that is to be opened. -/
structure PullRequestDraft where
  repository : String
  branch : String
  content : String
  purpose : Purpose
  title : String
  description : String
  commitMessage : String
deriving DecidableEq, Repr, Inhabited

/-- Whether nothing but white space was typed. -/
def isBlank (text : String) : Bool :=
  (Unicode.trim text).isEmpty

namespace Session

/-- The request for documentation.  A description needs the name of the project. -/
def docsRequest (session : Session) (projectName instructions : String) :
    Except Refusal DocsRequest :=
  if session.uploads.isEmpty then .error .noFiles
  else if session.purpose = .readme ∧ isBlank projectName then .error .missingProjectName
  else .ok ⟨session.uploads, session.purpose, Unicode.trim projectName, instructions⟩

/-- The file to analyse. -/
def qualityRequest (session : Session) : Except Refusal UploadedFile :=
  match session.qualityFile with
  | some file => .ok file
  | none => .error .noQualityFile

/-- The token to connect with. -/
def connectRequest (token : String) : Except Refusal String :=
  if isBlank token then .error .missingToken else .ok (Unicode.trim token)

/-- The pull request for the generated content. -/
def pullRequest (session : Session) (title description commitMessage : String) :
    Except Refusal PullRequestDraft :=
  if !session.isConnected then .error .notConnected
  else
    match session.generated, session.github.repository, session.github.branch with
    | none, _, _ => .error .nothingGenerated
    | some document, some repository, some branch =>
        if isBlank title || isBlank commitMessage then .error .missingPullRequestFields
        else
          .ok ⟨repository, branch, document.content, document.purpose, Unicode.trim title,
            description, Unicode.trim commitMessage⟩
    | some _, _, _ => .error .noTarget

/-- A pull request goes to the chosen branch of the chosen repository. -/
theorem pullRequest_target {session : Session} {title description commitMessage : String}
    {draft : PullRequestDraft}
    (drafted : session.pullRequest title description commitMessage = .ok draft) :
    session.github.repository = some draft.repository ∧
      session.github.branch = some draft.branch := by
  unfold pullRequest at drafted
  split at drafted
  · cases drafted
  · split at drafted
    case h_1 => cases drafted
    case h_2 repository branch document chosen branchChosen =>
      split at drafted
      · cases drafted
      · cases drafted
        exact ⟨chosen, branchChosen⟩
    case h_3 => cases drafted

end Session

end DocsConsole
