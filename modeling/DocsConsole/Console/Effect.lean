import DocsConsole.Console.Basic
import DocsConsole.Files.Download
import DocsConsole.Html.Generated
import DocsConsole.Html.Report

/-!
# What actions do to the session

Shortcuts that are not about a panel, requests of the panels, and completed calls
change the session, start calls and write files.
-/

namespace DocsConsole

namespace Console

/-! ## Files -/

/-- The files that can be read of some paths. -/
def readable (files : FileSystem) (paths : List FilePath) : List UploadedFile :=
  paths.filterMap fun path => (UploadedFile.read files path).toOption

def reportUnreadable (moment : Moment) (console : Console) (path : FilePath) : Console :=
  match UploadedFile.read console.workspace.files path with
  | .ok _ => console
  | .error failure =>
      console.notify moment .error ("Could not read " ++ path ++ ": IO error: " ++ failure.message)

/-- The paths that count: only one file is analysed. -/
def counting : IntakeTarget → List FilePath → List FilePath
  | .documentation, paths => paths
  | .quality, paths => paths.take 1

/-- Tells the user what has become of the files that were read. -/
def reportAdded (console : Console) (moment : Moment) (added : Nat) : IntakeTarget → Console
  | .documentation =>
      if added = 0 then console.notify moment .info "Already in the list"
      else console.notify moment .success ("Added " ++ toString added ++ " file(s)")
  | .quality =>
      match console.session.qualityFile with
      | some file => console.notify moment .success ("Selected " ++ file.name ++ " for analysis")
      | none => console

/-- Reads files and adds them to a list. -/
def addPaths (console : Console) (moment : Moment) (paths : List FilePath)
    (target : IntakeTarget) : Console :=
  let paths := counting target paths
  let files := readable console.workspace.files paths
  let told := paths.foldl (reportUnreadable moment) console
  if files.isEmpty then told
  else
    { told with session := told.session.addFiles files target }.reportAdded moment
      (told.session.takenCount files target) target

/-- Tells the user that a file is removed, if there was one. -/
def reportRemoved (console : Console) (moment : Moment) : Option UploadedFile → Console
  | some file => console.notify moment .info ("Removed " ++ file.name)
  | none => console

def removeFile (console : Console) (moment : Moment) (index : Nat) : Console :=
  { console with session := console.session.removeFile index }.reportRemoved moment
    console.session.uploads[index]?

def removeQualityFile (console : Console) (moment : Moment) : Console :=
  { console with session := console.session.removeQualityFile }.reportRemoved moment
    console.session.qualityFile

/-! ## Downloads -/

/-- Keeps the file system after a file was written, and tells the user about it. -/
def written (console : Console) (moment : Moment) (done failed : String) :
    FileSystem.Change FilePath → Console
  | (.ok path, files) =>
      { console with workspace.files := files }.notify moment .success (done ++ path)
  | (.error failure, files) =>
      { console with workspace.files := files }.notify moment .error
        (failed ++ "IO error: " ++ failure.message)

/-- Saves the generated content. -/
def download (console : Console) (moment : Moment) : Console :=
  match console.session.generated with
  | none => console.refuse moment .nothingGenerated
  | some document =>
      console.written moment "Saved " "Failed to save file: "
        (console.workspace.files.saveGenerated console.settings.effectiveDirectory
          document.purpose document.content)

def savePreview (console : Console) (moment : Moment) (stem markup : String) : Console :=
  console.written moment "Exported " "Failed to export preview: "
    (console.workspace.files.savePreview console.settings.effectiveDirectory stem markup)

/-- Saves a preview of what a tab shows. -/
def exportPreview (console : Console) (moment : Moment) : Tab → Console
  | .documentation =>
      match console.session.generated with
      | none => console.refuse moment .nothingGenerated
      | some document =>
          console.savePreview moment document.purpose.previewStem
            (Html.ofGenerated document.content document.purpose)
  | .quality =>
      match console.session.report with
      | none => console.notify moment .error "Please analyze a file first"
      | some report => console.savePreview moment "quality_report" (Html.ofReport report).write
  | .github => console

/-! ## Requests -/

/-- Chooses a repository, and asks for its branches. -/
def selectRepository (console : Console) (moment : Moment) (name : Option String) : Console :=
  let chosen := { console with session := console.session.selectRepository name }
  match chosen.session.github.repository with
  | some repository => chosen.startWithToken moment (.listBranches · repository)
  | none => chosen

def openPullRequest (console : Console) (moment : Moment)
    (title description commitMessage : String) : Console :=
  match console.session.pullRequest title description commitMessage with
  | .ok draft => console.startWithToken moment (.openPullRequest · draft)
  | .error refusal => console.refuse moment refusal

/-- Does what a panel asks for. -/
def fulfil (console : Console) (moment : Moment) : Request → Console
  | .addPaths paths target => console.addPaths moment paths target
  | .removeFile index => console.removeFile moment index
  | .removeQualityFile => console.removeQualityFile moment
  | .generateDocs projectName instructions =>
      console.startOrRefuse moment
        ((console.session.docsRequest projectName instructions).map .generateDocs)
  | .connect token => console.startOrRefuse moment ((Session.connectRequest token).map .connect)
  | .selectRepository name => console.selectRepository moment name
  | .selectBranch name => { console with session := console.session.selectBranch name }
  | .openPullRequest title description commitMessage =>
      console.openPullRequest moment title description commitMessage

/-! ## Completed calls -/

/-- Keeps what came of a call, and tells the user about it. -/
def conclude (console : Console) (moment : Moment) : Outcome → Console
  | .generated content purpose =>
      { console with
        session := console.session.applyGenerated content purpose moment.clock }.notify moment
        .success "Documentation generated"
  | .generationFailed => console.notify moment .error "Failed to generate documentation"
  | .analyzed report =>
      { console with session := console.session.applyReport report }.notify moment .success
        "Code quality analysis complete"
  | .analysisFailed => console.notify moment .error "Failed to analyze code quality"
  | .connected token =>
      ({ console with session := console.session.applyConnected token }.notify moment .success
        "Connected to GitHub").startWithToken moment .listRepositories
  | .connectionRefused reason =>
      console.notify moment .error (reason.getD "Failed to connect to GitHub")
  | .connectionFailed => console.notify moment .error "Failed to connect to GitHub"
  | .repositoriesLoaded token repositories =>
      if console.session.token? = some token then
        { console with session := console.session.applyRepositories repositories }
      else console
  | .repositoriesFailed => console.notify moment .error "Failed to load repositories"
  | .branchesLoaded repository branches =>
      { console with session := console.session.applyBranches repository branches }
  | .branchesFailed => console.notify moment .error "Failed to load branches"
  | .pullRequestOpened url =>
      console.notify moment .success
        (match url with
          | some url => "Pull request created: " ++ url
          | none => "Pull request created")
  | .pullRequestRefused reason =>
      console.notify moment .error (reason.getD "Failed to create pull request")
  | .pullRequestFailed => console.notify moment .error "Failed to create pull request"

/-! ## Actions -/

def showTab (console : Console) : Option Tab → Console
  | some tab => { console with session := console.session.selectTab tab }
  | none => console

def togglePurpose (console : Console) (moment : Moment) : Console :=
  let session := console.session.togglePurpose
  { console with session := session }.notify moment .info ("Purpose: " ++ session.purpose.label)

def analyze (console : Console) (moment : Moment) : Console :=
  console.startOrRefuse moment (console.session.qualityRequest.map .analyzeQuality)

def disconnect (console : Console) (moment : Moment) : Console :=
  { console with session := console.session.disconnect }.notify moment .info
    "Disconnected from GitHub"

/-- What an action does to the session.  Some shortcuts count on one tab only. -/
def effect (console : Console) (moment : Moment) (action : Action) : Console :=
  match action, console.session.tab with
  | .showTab tab, _ => console.showTab (some tab)
  | .nextTab, tab => console.showTab tab.next?
  | .previousTab, tab => console.showTab tab.previous?
  | .togglePurpose, .documentation => console.togglePurpose moment
  | .download, .documentation => console.download moment
  | .exportPreview, tab => console.exportPreview moment tab
  | .analyze, .quality => console.analyze moment
  | .disconnect, .github =>
      if console.session.isConnected then console.disconnect moment else console
  | .request request, _ => console.fulfil moment request
  | .completed ticket outcome, _ =>
      { console with session := console.session.finishCall ticket }.conclude moment outcome
  | _, _ => console

end Console

end DocsConsole
