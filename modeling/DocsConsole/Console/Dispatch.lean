import DocsConsole.Console.Effect

/-!
# Dispatching actions

An action first takes effect on the session, then the panel on screen answers it,
and then the rest of the screen takes note of it.  What the panel asks for is
dispatched in turn.  While help is open, whatever the user does only closes it.
-/

namespace DocsConsole

/-- The pictures of the loading sign. -/
def spinnerFrames : List String :=
  ["⠋", "⠙", "⠹", "⠸", "⠼", "⠴", "⠦", "⠧", "⠇", "⠏"]

namespace Action

/-- Whether an action comes from the background or ends the console, so that help does not
take it. -/
def passesHelp : Action → Bool
  | tick => true
  | notify _ => true
  | completed _ _ => true
  | quit => true
  | _ => false

end Action

namespace Console

/-- Lets the panel on screen answer an action. -/
def askPanel (console : Console) (action : Action) : Console × Option Request :=
  match console.session.tab with
  | .documentation =>
      let (panel, request) := console.docs.handle console.workspace console.session action
      ({ console with docs := panel }, request)
  | .github =>
      let (panel, request) := console.github.handle console.session action
      ({ console with github := panel }, request)
  | .quality =>
      let (panel, request) := console.quality.handle console.workspace console.session action
      ({ console with quality := panel }, request)

/-- Lets the rest of the screen take note of an action. -/
def note (console : Console) (moment : Moment) : Action → Console
  | .toggleHelp => { console with helpOpen := !console.helpOpen }
  | .notify toast => { console with statusBar := console.statusBar.notify toast }
  | .tick =>
      { console with
        spinner :=
          if console.session.loading.isActive then (console.spinner + 1) % spinnerFrames.length
          else console.spinner
        statusBar := console.statusBar.expire moment.now }
  | _ => console

/-- Dispatches an action, and gives what the panel asks for. -/
def step (console : Console) (moment : Moment) (action : Action) : Console × Option Request :=
  if console.helpOpen && !action.passesHelp then
    ({ console with helpOpen := false }.withMode, none)
  else
    match action with
    | .quit => ({ console with quitting := true }, none)
    | _ =>
        let (answered, request) := (console.effect moment action).askPanel action
        ((answered.note moment action).withMode, request)

theorem askPanel_request (console : Console) (request : Request) :
    (console.askPanel (.request request)).2 = none := by
  unfold askPanel
  split
  · exact console.docs.handle_request console.workspace console.session request
  · exact console.github.handle_request console.session request
  · exact console.quality.handle_request console.workspace console.session request

/-- No panel asks for anything when a request is dispatched. -/
theorem step_request (console : Console) (moment : Moment) (request : Request) :
    (console.step moment (.request request)).2 = none := by
  unfold step
  split
  · rfl
  · exact askPanel_request _ request

/-- Dispatches an action and then what the panel asks for, up to a number of dispatches. -/
def dispatch (moment : Moment) : Nat → Console → Action → Console
  | 0, console, _ => console
  | limit + 1, console, action =>
      match console.step moment action with
      | (next, none) => next
      | (next, some request) => dispatch moment limit next (.request request)

/-- Handles an action.  A request is not answered with another one, so two dispatches are
enough. -/
def handle (console : Console) (moment : Moment) (action : Action) : Console :=
  dispatch moment 2 console action

/-- Handles what the terminal reports. -/
def handleEvent (console : Console) (moment : Moment) (event : TerminalEvent) : Console :=
  match event.action? console.mode with
  | some action => console.handle moment action
  | none => console

/-- Loads the files that the console was started with. -/
def load (console : Console) (moment : Moment) (files : List FilePath)
    (qualityFile : Option FilePath) : Console :=
  let loaded :=
    if files.isEmpty then console
    else console.handle moment (.request (.addPaths files .documentation))
  match qualityFile with
  | some file => loaded.handle moment (.request (.addPaths [file] .quality))
  | none => loaded

/-- Makes a call, and handles what comes of it. -/
def answer (console : Console) (client : Backend.Client) (network : Backend.Network)
    (moment : Moment) (ticket : Ticket) (call : Backend.Call) : Console :=
  console.handle moment
    (.completed ticket (.ofResult call (client.perform network call)))

/-- The calls that were started with a ticket that is still out, oldest first. -/
def inFlight (console : Console) : List (Ticket × Backend.Call) :=
  console.started.filter fun (ticket, _) => console.session.loading.holds ticket

end Console

end DocsConsole
