import DocsConsole.Files.System
import DocsConsole.Settings.Format

/-!
# Settings in a file

Loading settings from a path where there is no file writes the standard settings
there.  A file that is there is only read.
-/

namespace DocsConsole

/-- Why settings cannot be loaded or saved. -/
inductive SettingsError where
  /-- The file is there and cannot be read. -/
  | unreadable (failure : FileError)
  /-- The file does not hold settings. -/
  | malformed
  /-- The settings hold a number that cannot be written. -/
  | unwritable
  /-- A directory or the file cannot be written. -/
  | storage (failure : FileError)
deriving DecidableEq, Repr

def SettingsError.message : SettingsError → String
  | .unreadable failure => "Configuration error: Failed to read config: " ++ failure.message
  | .malformed => "Configuration error: Failed to parse config"
  | .unwritable => "Configuration error: Failed to serialize config"
  | .storage failure => "IO error: " ++ failure.message

namespace Settings

/-- The result of loading or saving, with the file system after it. -/
abbrev Outcome (α : Type) := Except SettingsError α × FileSystem

/-- Makes the directory that a path lies in. -/
def makeParent (files : FileSystem) (path : FilePath) : FileSystem.Change Unit :=
  match FilePath.parent? path with
  | some directory => files.makeDirectories directory
  | none => (.ok (), files)

/-- Saves settings.  Nothing is written to the file unless all of it can be written. -/
def save (settings : Settings) (files : FileSystem) (path : FilePath) : Outcome Unit :=
  match makeParent files path with
  | (.error failure, changed) => (.error (.storage failure), changed)
  | (.ok (), changed) =>
      match settings.write? with
      | none => (.error .unwritable, changed)
      | some text =>
          match changed.write path text.toUTF8 with
          | (.error failure, final) => (.error (.storage failure), final)
          | (.ok (), final) => (.ok (), final)

def load (files : FileSystem) (path : FilePath) : Outcome Settings :=
  if files.pathExists path then
    match files.readText path with
    | .error failure => (.error (.unreadable failure), files)
    | .ok text =>
        match read? text with
        | some settings => (.ok settings, files)
        | none => (.error .malformed, files)
  else
    match standard.save files path with
    | (.ok (), changed) => (.ok standard, changed)
    | (.error failure, changed) => (.error failure, changed)

/-- The path of the settings of a user.  Only an absolute directory for settings counts;
otherwise they lie in the home directory. -/
def userPath (home configured : FilePath) : FilePath :=
  let directory :=
    if FilePath.isAbsolute configured then configured else FilePath.join home ".config"
  FilePath.join (FilePath.join directory "docsmith") "config.toml"

end Settings

end DocsConsole
