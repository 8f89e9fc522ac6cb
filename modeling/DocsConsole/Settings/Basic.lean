import DocsConsole.Files.Path

/-!
# Settings

What the user can set in a file.  Numbers are those of 64 bits without a sign.
-/

namespace DocsConsole

structure Settings where
  /-- The address of the backend. -/
  baseUrl : String
  /-- How long a request may take; without it there is no limit. -/
  timeoutSeconds : Option Nat
  /-- The time between two ticks. -/
  tickMillis : Nat
  /-- How long a notification is shown. -/
  toastSeconds : Nat
  /-- Where downloads go; without it, to the working directory. -/
  downloadDirectory : Option FilePath
deriving DecidableEq, Repr, Inhabited

namespace Settings

/-- The settings of a user who has set nothing. -/
def standard : Settings :=
  ⟨"http://localhost:8000/api", none, 100, 3, none⟩

/-- Where downloads go. -/
def effectiveDirectory (settings : Settings) : FilePath :=
  settings.downloadDirectory.getD "."

end Settings

end DocsConsole
