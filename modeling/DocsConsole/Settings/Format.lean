import DocsConsole.CoreInstances
import DocsConsole.Settings.Basic
import DocsConsole.Toml.Document
import DocsConsole.Toml.Writer

/-!
# Settings as a text

The settings are a TOML document of three tables.  Reading leaves out keys that
it does not know and takes the standard value of each one that is missing.
-/

namespace DocsConsole

open scoped CoreInstances

namespace Toml

/-- The fields of a record, given by name as a table or in their order as an array.  A date
counts as a table without any of them. -/
def fields? (names : List String) : Value → Option (List (Option Value))
  | .table _ entries => some (names.map (lookup entries))
  | .date => some (names.map fun _ => none)
  | .array items => some ((names.zipIdx).map fun (_, place) => items[place]?)
  | .tables items => some ((names.zipIdx).map fun (_, place) => items[place]?)
  | _ => none

/-- A field that has a standard value. -/
def fieldOr {α : Type} (standard : α) (read : Value → Option α) : Option Value → Option α
  | none => some standard
  | some value => read value

def text? : Value → Option String
  | .string text => some text
  | _ => none

/-- An integer that is not negative. -/
def natural? : Value → Option Nat
  | .integer value => if 0 ≤ value then some value.toNat else none
  | _ => none

end Toml

namespace Settings

open Toml

def readBackend (table : Option Value) : Option (String × Option Nat) :=
  match fields? ["base_url", "timeout_seconds"] (table.getD (.table .header [])) with
  | some [baseUrl, timeout] => do
      let baseUrl ← fieldOr standard.baseUrl text? baseUrl
      let timeout ← fieldOr none (fun value => (natural? value).map some) timeout
      some (baseUrl, timeout)
  | _ => none

def readInterface (table : Option Value) : Option (Nat × Nat) :=
  match fields? ["tick_ms", "toast_seconds"] (table.getD (.table .header [])) with
  | some [tick, toast] => do
      let tick ← fieldOr standard.tickMillis natural? tick
      let toast ← fieldOr standard.toastSeconds natural? toast
      some (tick, toast)
  | _ => none

def readOutput (table : Option Value) : Option (Option FilePath) :=
  match fields? ["download_dir"] (table.getD (.table .header [])) with
  | some [directory] => fieldOr none (fun value => (text? value).map some) directory
  | _ => none

def read? (text : String) : Option Settings := do
  let entries ← Toml.read? text
  let (baseUrl, timeout) ← readBackend (lookup entries "backend")
  let (tick, toast) ← readInterface (lookup entries "ui")
  let directory ← readOutput (lookup entries "output")
  some ⟨baseUrl, timeout, tick, toast, directory⟩

def writeLine (key value : String) : String :=
  key ++ " = " ++ value ++ "\n"

/-- The line of a key that may be missing. -/
def writeOptional (key : String) (value : Option String) : String :=
  match value with
  | some value => writeLine key value
  | none => ""

/-- Whether a number can be written: integers have 64 bits with a sign. -/
def isWritable (value : Nat) : Bool :=
  value < 2 ^ (63 : Nat)

/-- Writes settings, unless one of their numbers cannot be written. -/
def write? (settings : Settings) : Option String :=
  if settings.timeoutSeconds.all isWritable && isWritable settings.tickMillis &&
      isWritable settings.toastSeconds then
    some ("[backend]\n" ++ writeLine "base_url" (Toml.writeString settings.baseUrl) ++
      writeOptional "timeout_seconds" (settings.timeoutSeconds.map toString) ++
      "\n[ui]\n" ++ writeLine "tick_ms" (toString settings.tickMillis) ++
      writeLine "toast_seconds" (toString settings.toastSeconds) ++
      "\n[output]\n" ++
      writeOptional "download_dir" (settings.downloadDirectory.map Toml.writeString))
  else none

end Settings

end DocsConsole
