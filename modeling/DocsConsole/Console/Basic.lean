import DocsConsole.Console.GithubPanel
import DocsConsole.Console.Keys
import DocsConsole.Console.QualityPanel
import DocsConsole.Console.StatusBar
import DocsConsole.Session.Request
import DocsConsole.Settings.Basic

/-!
# The console

The console holds the session, the panels that show it and what is drawn around
them.  Calls to the backend are not made here: the console notes that a call is
started, with the ticket that its completion gives back.
-/

namespace DocsConsole

/-- When something happens. -/
structure Moment where
  now : Instant
  clock : TimeOfDay
deriving DecidableEq, Repr, Inhabited

structure Console where
  session : Session
  settings : Settings
  workspace : Workspace
  /-- What the next key means. -/
  mode : InputMode
  docs : DocsPanel
  github : GithubPanel
  quality : QualityPanel
  statusBar : StatusBar
  /-- The picture of the loading sign. -/
  spinner : Nat
  helpOpen : Bool
  quitting : Bool
  /-- All calls that were started, oldest first, with their tickets. -/
  started : List (Ticket × Backend.Call)
deriving Inhabited

namespace Console

def initial (settings : Settings) (workspace : Workspace) : Console :=
  { session := .initial
    settings := settings
    workspace := workspace
    mode := .shortcuts
    docs := .initial
    github := .initial
    quality := .initial
    statusBar := .quiet settings.toastSeconds
    spinner := 0
    helpOpen := false
    quitting := false
    started := [] }

def notify (console : Console) (moment : Moment) (kind : ToastKind) (message : String) :
    Console :=
  { console with statusBar := console.statusBar.notify ⟨kind, message, moment.now⟩ }

/-- Tells the user why a request is not sent. -/
def refuse (console : Console) (moment : Moment) (refusal : Refusal) : Console :=
  console.notify moment .error refusal.message

/-- What is shown while a call is in flight. -/
def label : Backend.Call → String
  | .generateDocs _ => "Generating documentation"
  | .analyzeQuality _ => "Analyzing code quality"
  | .connect _ => "Connecting to GitHub"
  | .listRepositories _ => "Loading repositories"
  | .listBranches _ _ => "Loading branches"
  | .openPullRequest _ _ => "Creating pull request"

def start (console : Console) (call : Backend.Call) : Console :=
  { console with
    session := console.session.startCall (label call)
    started := console.started ++ [(console.session.loading.next, call)] }

/-- Starts a call, or tells the user why it is not. -/
def startOrRefuse (console : Console) (moment : Moment) : Except Refusal Backend.Call → Console
  | .ok call => console.start call
  | .error refusal => console.refuse moment refusal

/-- Starts a call with the token of the session. -/
def startWithToken (console : Console) (moment : Moment) (call : String → Backend.Call) :
    Console :=
  match console.session.token? with
  | some token => console.start (call token)
  | none => console.refuse moment .notConnected

/-- Whether a field of the panel on screen has the keyboard. -/
def wantsInput (console : Console) : Bool :=
  match console.session.tab with
  | .documentation => console.docs.wantsInput
  | .github => console.github.wantsInput
  | .quality => console.quality.wantsInput

/-- What keys mean in a state.  While help is open they are shortcuts. -/
def modeNow (console : Console) : InputMode :=
  if !console.helpOpen && console.wantsInput then .typing else .shortcuts

/-- The console after it has settled what the next key means. -/
def withMode (console : Console) : Console :=
  { console with mode := console.modeNow }

end Console

end DocsConsole
