import DocsConsole.CommandLine
import DocsConsole.Screen.Console
import DocsConsole.Settings.Store

/-!
# The program

Reads the settings and the files named on the command line, and shows the
console.  Each line of input is typed key by key and ended with the key for a
line end, and the screen is shown again after it.  Nothing is decided here: the
files are handed to the console, and what it has written is put back.
-/

namespace DocsConsole.Program

/-- The value of a variable of the environment, or nothing. -/
def environment (name : String) : IO String := do
  return (← IO.getEnv name).getD ""

def content? (path : FilePath) : IO (Option ByteArray) := do
  try
    return some (← IO.FS.readBinFile path)
  catch _ =>
    return none

/-- The location that a path means when it is followed from a location. -/
def place (working : Location) (path : FilePath) : Location :=
  (if FilePath.isAbsolute path then [] else working) ++ FileSystem.parts path

/-- The files at some paths, as far as they can be read. -/
def gather (working : Location) (paths : List FilePath) : IO FileSystem := do
  let mut files : FileSystem := FileSystem.plant ⟨[], working⟩ working .directory
  for path in paths do
    match ← content? path with
    | some content => files := files.plant (place working path) (.file content)
    | none => pure ()
  return files

def pathOf (location : Location) : FilePath :=
  "/" ++ String.intercalate "/" location

/-- Puts back the files that are new or have changed. -/
def store (before after : FileSystem) : IO Unit := do
  for (location, entry) in after.entries do
    if before.entry? location ≠ some entry then
      match entry with
      | .directory => IO.FS.createDirAll (pathOf location)
      | .file content => IO.FS.writeBinFile (pathOf location) content

/-- The time, counted from when the machine was started. -/
def now : IO Moment := do
  let millis ← IO.monoMsNow
  return ⟨.ofMilliseconds millis, .ofMillis millis⟩

def screen : Terminal.Area := ⟨0, 0, 80, 24⟩

def present (console : Console) (output : IO.FS.Stream) : IO Unit := do
  for row in (Screen.draw console screen).grid screen.width screen.height do
    output.putStrLn (Terminal.rowText row)
  output.flush

/-- Types a line, and lets the calls that it started fail for want of a network. -/
def typeLine (moment : Moment) (console : Console) (line : String) : Console :=
  let keys := (line.toList.filter (· ≠ '\n')).map Key.character ++ [.enter]
  let typed := keys.foldl
    (fun console key => console.handleEvent moment (.pressed ⟨key, false, false⟩)) console
  let client := Backend.Client.ofAddress console.settings.baseUrl
  typed.inFlight.foldl
    (fun console (ticket, call) => console.answer client .unreachable moment ticket call) typed

/-- Shows the console after each line of input, until it is left or the input ends. -/
partial def converse (input output : IO.FS.Stream) (console : Console) : IO Unit := do
  present console output
  if console.quitting then return
  let line ← input.getLine
  if line.isEmpty then return
  let next := typeLine (← now) console line
  store console.workspace.files next.workspace.files
  converse input output next

/-- The settings with what the command line says. -/
def withOptions (settings : Settings) (options : Options) : Settings :=
  { settings with
    baseUrl := options.backendUrl.getD settings.baseUrl
    downloadDirectory := options.downloadDirectory.or settings.downloadDirectory }

def run (options : Options) : IO Unit := do
  let home ← environment "HOME"
  let path := Settings.userPath home (← environment "XDG_CONFIG_HOME")
  let working := FileSystem.parts (toString (← IO.currentDir))
  let files ← gather working (path :: options.files ++ options.quality.toList)
  let (result, prepared) := Settings.load files path
  store files prepared
  let settings ← match result with
    | .ok settings => pure settings
    | .error failure =>
        IO.eprintln ("Warning: Failed to load config: " ++ failure.message ++ ". Using defaults.")
        pure Settings.standard
  let console := (Console.initial (withOptions settings options) ⟨prepared, home⟩).load (← now)
    options.files options.quality
  converse (← IO.getStdin) (← IO.getStdout) console

end DocsConsole.Program

def main (arguments : List String) : IO UInt32 := do
  match DocsConsole.Options.read arguments with
  | .ok options =>
      DocsConsole.Program.run options
      return 0
  | .error failure => return UInt32.ofNat failure.exitCode
