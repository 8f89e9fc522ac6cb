import DocsConsole.Files.Upload
import DocsConsole.Purpose
import DocsConsole.Quality.Report
import DocsConsole.Session.Loading
import DocsConsole.Session.Tab

/-!
# The session

All that the user has picked, fetched and generated.  A token is only there
while the session is connected, and what was fetched with it goes with it.
-/

namespace DocsConsole

/-- Whether the session is connected, and with which token. -/
inductive Connection where
  | disconnected
  | connected (token : String)
deriving DecidableEq, Repr, Inhabited

/-- What was fetched and chosen with a token. -/
structure Github where
  connection : Connection
  repositories : List String
  branches : List String
  repository : Option String
  branch : Option String
deriving DecidableEq, Repr, Inhabited

def Github.empty : Github :=
  ⟨.disconnected, [], [], none, none⟩

structure TimeOfDay where
  hour : Nat
  minute : Nat
  second : Nat
deriving DecidableEq, Repr, Inhabited

/-- The time of day a number of milliseconds after midnight. -/
def TimeOfDay.ofMillis (millis : Nat) : TimeOfDay :=
  ⟨millis / 3600000 % 24, millis / 60000 % 60, millis / 1000 % 60⟩

/-- Generated content, with the purpose and the time it was generated for and at. -/
structure GeneratedDocument where
  content : String
  purpose : Purpose
  generatedAt : TimeOfDay
deriving DecidableEq, Repr, Inhabited

/-- The state of the user's work. -/
structure Session where
  tab : Tab
  github : Github
  uploads : List UploadedFile
  qualityFile : Option UploadedFile
  generated : Option GeneratedDocument
  purpose : Purpose
  report : Option QualityReport
  loading : Loading
deriving Inhabited

namespace Session

def initial : Session :=
  ⟨.documentation, .empty, [], none, none, .readme, none, .idle⟩

def selectTab (session : Session) (tab : Tab) : Session :=
  { session with tab := tab }

def setPurpose (session : Session) (purpose : Purpose) : Session :=
  { session with purpose := purpose }

def togglePurpose (session : Session) : Session :=
  session.setPurpose session.purpose.toggled

/-! ## Files -/

/-- The uploads with further files: the first of each name is kept. -/
def mergeUploads (uploads : List UploadedFile) : List UploadedFile → List UploadedFile
  | [] => uploads
  | file :: files =>
      if uploads.any (·.name = file.name) then mergeUploads uploads files
      else mergeUploads (uploads ++ [file]) files

/-- Adds files to a list.  For the quality analysis the first one replaces what was there. -/
def addFiles (session : Session) (files : List UploadedFile) : IntakeTarget → Session
  | .documentation => { session with uploads := mergeUploads session.uploads files }
  | .quality =>
      match files with
      | [] => session
      | file :: _ => { session with qualityFile := some file }

@[simp] theorem addFiles_nil (session : Session) (target : IntakeTarget) :
    session.addFiles [] target = session := by
  cases target <;> rfl

@[simp] theorem addFiles_github (session : Session) (files : List UploadedFile)
    (target : IntakeTarget) : (session.addFiles files target).github = session.github := by
  cases target with
  | documentation => rfl
  | quality => cases files <;> rfl

@[simp] theorem addFiles_generated (session : Session) (files : List UploadedFile)
    (target : IntakeTarget) :
    (session.addFiles files target).generated = session.generated := by
  cases target with
  | documentation => rfl
  | quality => cases files <;> rfl

@[simp] theorem addFiles_loading (session : Session) (files : List UploadedFile)
    (target : IntakeTarget) : (session.addFiles files target).loading = session.loading := by
  cases target with
  | documentation => rfl
  | quality => cases files <;> rfl

/-- How many of the files are taken. -/
def takenCount (session : Session) (files : List UploadedFile) : IntakeTarget → Nat
  | .documentation => (mergeUploads session.uploads files).length - session.uploads.length
  | .quality => if files.isEmpty then 0 else 1

/-- Removes the upload at a place, if there is one. -/
def removeFile (session : Session) (index : Nat) : Session :=
  { session with uploads := session.uploads.eraseIdx index }

def removeQualityFile (session : Session) : Session :=
  { session with qualityFile := none }

/-! ## Results -/

/-- Keeps generated content. -/
def applyGenerated (session : Session) (content : String) (purpose : Purpose)
    (time : TimeOfDay) : Session :=
  { session with generated := some ⟨content, purpose, time⟩ }

def applyReport (session : Session) (report : QualityReport) : Session :=
  { session with report := some report }

/-! ## The connection -/

/-- The token, while the session is connected. -/
def token? (session : Session) : Option String :=
  match session.github.connection with
  | .connected token => some token
  | .disconnected => none

def isConnected (session : Session) : Bool :=
  session.token?.isSome

/-- Connects with a token. -/
def applyConnected (session : Session) (token : String) : Session :=
  { session with github := { session.github with connection := .connected token } }

/-- Drops the token and all that was fetched with it. -/
def disconnect (session : Session) : Session :=
  { session with github := .empty }

def applyRepositories (session : Session) (repositories : List String) : Session :=
  { session with github := { session.github with repositories := repositories } }

/-- A choice; an empty name means none. -/
def choice (name : Option String) : Option String :=
  name.filter (· ≠ "")

/-- Chooses a repository.  The branches of the one before are dropped. -/
def selectRepository (session : Session) (name : Option String) : Session :=
  { session with
    github :=
      { session.github with repository := choice name, branches := [], branch := none } }

/-- Whether a list of branches is wanted: its repository is the chosen one. -/
def wantsBranches (session : Session) (repository : String) : Bool :=
  session.github.repository = some repository

/-- Keeps a list of branches if it is wanted. -/
def applyBranches (session : Session) (repository : String) (branches : List String) :
    Session :=
  if session.wantsBranches repository then
    { session with github := { session.github with branches := branches } }
  else session

/-- Chooses a branch of the chosen repository. -/
def selectBranch (session : Session) (name : Option String) : Session :=
  { session with
    github :=
      { session.github with
        branch := if session.github.repository.isSome then choice name else none } }

/-! ## Calls -/

def startCall (session : Session) (label : String) : Session :=
  { session with loading := session.loading.start label }

/-- Takes back the ticket of a call. -/
def finishCall (session : Session) (ticket : Ticket) : Session :=
  { session with loading := session.loading.release ticket }

end Session

/-! ## What is shown -/

/-- What the console shows of a session. -/
structure Visibility where
  tokenForm : Bool
  pullRequestForm : Bool
  canDownload : Bool
  canAnalyze : Bool
  loading : Bool
deriving DecidableEq, Repr

def Session.visibility (session : Session) : Visibility :=
  ⟨!session.isConnected, session.isConnected && session.generated.isSome,
    session.generated.isSome, session.qualityFile.isSome, session.loading.isActive⟩

end DocsConsole
