import DocsConsole.Backend.Call
import DocsConsole.Quality.Format

/-!
# Answers of the backend

Each call has its own form of answer.  An answer that does not have it is no
answer.
-/

namespace DocsConsole

/-- Reads a purpose: its name, or an object that has nothing but its name, as null. -/
def Purpose.ofJson? : JsonText → Option Purpose
  | .string (some name) => ofName? name
  | .object [(some name, .null)] => ofName? name
  | _ => none

namespace Backend

/-- What a call gives. -/
inductive Answer where
  /-- Generated content. -/
  | content (text : String)
  | report (report : QualityReport)
  /-- Whether the backend could connect, and what went wrong. -/
  | connection (success : Bool) (error : Option String)
  | names (names : List String)
  /-- Whether a pull request was opened, where it is, and what went wrong. -/
  | pullRequest (success : Bool) (url error : Option String)
deriving Inhabited

namespace Answer

def readContent? (text : JsonText) : Option Answer :=
  match text.fields? ["content"] with
  | some [some member] => member.text?.map .content
  | _ => none

/-- Reads whether the backend could connect. -/
def readConnection? (text : JsonText) : Option Answer :=
  match text.fields? ["success", "error"] with
  | some [some success, error] => do
      let success ← success.bool?
      let error ← JsonText.field? JsonText.text? error
      some (.connection success error)
  | _ => none

/-- Reads whether a pull request was opened. -/
def readPullRequest? (text : JsonText) : Option Answer :=
  match text.fields? ["success", "pr_url", "error"] with
  | some [some success, url, error] => do
      let success ← success.bool?
      let url ← JsonText.field? JsonText.text? url
      let error ← JsonText.field? JsonText.text? error
      some (.pullRequest success url error)
  | _ => none

/-- Reads the answer to a call. -/
def ofJson? (call : Call) (text : JsonText) : Option Answer :=
  match call with
  | .generateDocs _ => readContent? text
  | .analyzeQuality _ => (QualityReport.ofJson? text).map .report
  | .connect _ => readConnection? text
  | .listRepositories _ => (JsonText.list JsonText.text? text).map .names
  | .listBranches _ _ => (JsonText.list JsonText.text? text).map .names
  | .openPullRequest _ _ => readPullRequest? text

/-- Reads the answer to a call from the body of a response. -/
def read? (call : Call) (body : ByteArray) : Option Answer :=
  (JsonText.ofSource? (Utf8.decode body)).bind (ofJson? call)

end Answer

end Backend

end DocsConsole
