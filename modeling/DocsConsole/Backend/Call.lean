import DocsConsole.Backend.Multipart
import DocsConsole.Json.Value

/-!
# Calls to the backend

What is sent for each call: to which endpoint, with which token and which body.
-/

namespace DocsConsole.Backend

inductive Call where
  | generateDocs (request : DocsRequest)
  | analyzeQuality (file : UploadedFile)
  | connect (token : String)
  | listRepositories (token : String)
  | listBranches (token repository : String)
  | openPullRequest (token : String) (draft : PullRequestDraft)
deriving DecidableEq, Inhabited

inductive Body where
  | none
  | json (value : Json)
  | parts (parts : List Part)
deriving Inhabited

namespace Call

/-- The end of the address that a call goes to. -/
def endpoint : Call → String
  | .generateDocs _ => "generate-docs"
  | .analyzeQuality _ => "analyze-quality"
  | .connect _ => "github/connect"
  | .listRepositories _ => "github/repos"
  | .listBranches _ _ => "github/branches"
  | .openPullRequest _ _ => "github/create-pr"

def method : Call → String
  | .listRepositories _ => "GET"
  | _ => "POST"

/-- The token that authorizes a call.  A call to connect has its token in the body. -/
def bearer? : Call → Option String
  | .listRepositories token => some token
  | .listBranches token _ => some token
  | .openPullRequest token _ => some token
  | _ => none

def body : Call → Body
  | .generateDocs request => .parts ((docsFields request).map Field.toPart)
  | .analyzeQuality file => .parts ((qualityFields file).map Field.toPart)
  | .connect token => .json (.object [("token", .string token)])
  | .listRepositories _ => .none
  | .listBranches _ repository => .json (.object [("repo", .string repository)])
  | .openPullRequest _ draft =>
      .json (.object [("repo", .string draft.repository), ("branch", .string draft.branch),
        ("content", .string draft.content), ("purpose", .string draft.purpose.name),
        ("pr_title", .string draft.title), ("pr_description", .string draft.description),
        ("commit_message", .string draft.commitMessage)])

end Call

end DocsConsole.Backend
