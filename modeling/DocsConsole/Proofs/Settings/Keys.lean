import DocsConsole.Proofs.Settings.Format

/-!
# Settings key by key

A document gives some of the keys of the settings.  Settings are read from it if every key has
a value that it can have, and then they have the values of the document, and the standard ones
for all keys that are missing there.
-/

namespace DocsConsole

namespace Toml

/-- Whether a value can be read as a record. -/
def Value.isRecord : Value → Bool
  | .table _ _ => true
  | .date => true
  | .array _ => true
  | .tables _ => true
  | _ => false

/-- The field of a record, which is known by its name in a table and by its place in an array. -/
def Value.field? (name : String) (place : Nat) : Value → Option Value
  | .table _ entries => lookup entries name
  | .array items => items[place]?
  | .tables items => items[place]?
  | _ => none

/-- A value that can be read as a record has fields, which may be missing. -/
theorem fields?_eq (names : List String) (value : Value) :
    fields? names value =
      if value.isRecord then some (names.zipIdx.map fun (name, place) => value.field? name place)
      else none := by
  have named (read : String → Option Value) :
      (names.zipIdx.map fun (name, _) => read name) = names.map read := by
    calc
      _ = (names.zipIdx.map Prod.fst).map read := by rw [List.map_map]; rfl
      _ = names.map read := by rw [List.zipIdx_map_fst]
  cases value with
  | table kind entries => exact congrArg some (named _).symm
  | date => exact congrArg some (named fun _ => none).symm
  | _ => rfl

/-- A table that is missing has no fields. -/
theorem fields?_getD (names : List String) (table : Option Value) :
    fields? names (table.getD (.table .header [])) =
      if table.all (·.isRecord) then
        some (names.zipIdx.map fun (name, place) => table.bind (·.field? name place))
      else none := by
  rw [fields?_eq]
  cases table <;> rfl

variable {α : Type} {read : Value → Option α} {write : α → Value}

/-- A field with a standard value has the value that is given, or else the standard one. -/
theorem fieldOr_eq_some_iff
    (reads : ∀ value result, read value = some result ↔ value = write result)
    {standard result : α} {field : Option Value} :
    fieldOr standard read field = some result ↔
      some (write result) = field.or (some (write standard)) := by
  cases field with
  | none =>
      have same : write result = write standard ↔ standard = result := by
        rw [← reads, (reads _ result).mpr rfl, Option.some_inj, eq_comm]
      simp [fieldOr, same]
  | some value => simp [fieldOr, reads, eq_comm]

/-- A field that may be missing has the value that is given. -/
theorem fieldOr_none_eq_some_iff
    (reads : ∀ value result, read value = some result ↔ value = write result)
    {result : Option α} {field : Option Value} :
    fieldOr none (fun value => (read value).map some) field = some result ↔
      result.map write = field := by
  cases field with
  | none => simp [fieldOr, eq_comm]
  | some value => cases result <;> simp [fieldOr, reads, eq_comm]

theorem exists_eq_or {given : Option Value} (standard : α)
    (allowed : ∀ value ∈ given, ∃ result, value = write result) :
    ∃ result, some (write result) = given.or (some (write standard)) := by
  cases given with
  | none => exact ⟨standard, rfl⟩
  | some value =>
      obtain ⟨result, rfl⟩ := allowed value rfl
      exact ⟨result, rfl⟩

theorem exists_map_eq {given : Option Value}
    (allowed : ∀ value ∈ given, ∃ result, value = write result) :
    ∃ result : Option α, result.map write = given := by
  cases given with
  | none => exact ⟨none, rfl⟩
  | some value =>
      obtain ⟨result, rfl⟩ := allowed value rfl
      exact ⟨some result, rfl⟩

theorem text?_eq_some_iff (value : Value) (text : String) :
    text? value = some text ↔ value = .string text := by
  cases value <;> simp [text?]

theorem natural?_eq_some_iff (value : Value) (number : Nat) :
    natural? value = some number ↔ value = .integer number := by
  cases value with
  | integer value =>
      simp only [natural?, Value.integer.injEq]
      split
      · rw [Option.some_inj]
        omega
      · simp only [reduceCtorEq, false_iff]
        omega
  | _ => simp [natural?]

end Toml

namespace Settings

open Toml

/-- What can be set. -/
inductive Key where
  | baseUrl
  | timeoutSeconds
  | tickMillis
  | toastSeconds
  | downloadDirectory
deriving DecidableEq

namespace Key

def table : Key → String
  | baseUrl => "backend"
  | timeoutSeconds => "backend"
  | tickMillis => "ui"
  | toastSeconds => "ui"
  | downloadDirectory => "output"

def name : Key → String
  | baseUrl => "base_url"
  | timeoutSeconds => "timeout_seconds"
  | tickMillis => "tick_ms"
  | toastSeconds => "toast_seconds"
  | downloadDirectory => "download_dir"

/-- The place of a key among those of its table. -/
def place : Key → Nat
  | baseUrl => 0
  | timeoutSeconds => 1
  | tickMillis => 0
  | toastSeconds => 1
  | downloadDirectory => 0

/-- The values that a key can have. -/
def Allows : Key → Value → Prop
  | baseUrl, value => ∃ text, value = .string text
  | timeoutSeconds, value => ∃ number : Nat, value = .integer number
  | tickMillis, value => ∃ number : Nat, value = .integer number
  | toastSeconds, value => ∃ number : Nat, value = .integer number
  | downloadDirectory, value => ∃ text, value = .string text

/-- The value that a document gives to a key. -/
def given? (key : Key) (entries : List (String × Value)) : Option Value :=
  (lookup entries key.table).bind (·.field? key.name key.place)

end Key

def value? (settings : Settings) : Key → Option Value
  | .baseUrl => some (.string settings.baseUrl)
  | .timeoutSeconds => settings.timeoutSeconds.map fun (seconds : Nat) => .integer seconds
  | .tickMillis => some (.integer settings.tickMillis)
  | .toastSeconds => some (.integer settings.toastSeconds)
  | .downloadDirectory => settings.downloadDirectory.map .string

/-- A document that settings can be read from. -/
structure WellFormed (entries : List (String × Value)) : Prop where
  records : ∀ key : Key, (lookup entries key.table).all (·.isRecord) = true
  allowed : ∀ key : Key, ∀ value ∈ key.given? entries, key.Allows value

theorem readBackend_eq_some_iff {table : Option Value} {baseUrl : String} {timeout : Option Nat} :
    readBackend table = some (baseUrl, timeout) ↔
      table.all (·.isRecord) = true ∧
        some (.string baseUrl) =
          (table.bind (·.field? "base_url" 0)).or (some (.string standard.baseUrl)) ∧
        timeout.map (fun (seconds : Nat) => Value.integer seconds) =
          table.bind (·.field? "timeout_seconds" 1) := by
  rw [← fieldOr_eq_some_iff text?_eq_some_iff, ← fieldOr_none_eq_some_iff natural?_eq_some_iff,
    readBackend, fields?_getD]
  cases table.all (·.isRecord) with
  | false => simp
  | true => simp [Option.bind_eq_some_iff, List.zipIdx]

theorem readInterface_eq_some_iff {table : Option Value} {tick toast : Nat} :
    readInterface table = some (tick, toast) ↔
      table.all (·.isRecord) = true ∧
        some (.integer tick) =
          (table.bind (·.field? "tick_ms" 0)).or (some (.integer standard.tickMillis)) ∧
        some (.integer toast) =
          (table.bind (·.field? "toast_seconds" 1)).or (some (.integer standard.toastSeconds)) := by
  rw [← fieldOr_eq_some_iff natural?_eq_some_iff, ← fieldOr_eq_some_iff natural?_eq_some_iff,
    readInterface, fields?_getD]
  cases table.all (·.isRecord) with
  | false => simp
  | true => simp [Option.bind_eq_some_iff, List.zipIdx]

theorem readOutput_eq_some_iff {table : Option Value} {directory : Option FilePath} :
    readOutput table = some directory ↔
      table.all (·.isRecord) = true ∧
        directory.map Value.string = table.bind (·.field? "download_dir" 0) := by
  rw [← fieldOr_none_eq_some_iff text?_eq_some_iff, readOutput, fields?_getD]
  cases table.all (·.isRecord) with
  | false => simp
  | true => simp [List.zipIdx]

/-- Settings are read from a document with records for tables, each key by itself: it has the
value that the document gives, and the standard one if there is none. -/
theorem read?_eq_some_iff {text : String} {settings : Settings} :
    read? text = some settings ↔
      ∃ entries, Toml.read? text = some entries ∧
        (∀ key : Key, (lookup entries key.table).all (·.isRecord) = true) ∧
        ∀ key, settings.value? key = (key.given? entries).or (standard.value? key) := by
  have byTable : read? text = some settings ↔
      ∃ entries, Toml.read? text = some entries ∧
        readBackend (lookup entries "backend") = some (settings.baseUrl, settings.timeoutSeconds) ∧
        readInterface (lookup entries "ui") = some (settings.tickMillis, settings.toastSeconds) ∧
        readOutput (lookup entries "output") = some settings.downloadDirectory := by
    obtain ⟨baseUrl, timeout, tick, toast, directory⟩ := settings
    simp only [read?, Option.bind_eq_bind, Option.bind_eq_some_iff, Option.some_inj, mk.injEq,
      Prod.exists]
    constructor
    · rintro ⟨entries, document, _, _, backend, _, _, interface, _, output, rfl, rfl, rfl, rfl, rfl⟩
      exact ⟨entries, document, backend, interface, output⟩
    · rintro ⟨entries, document, backend, interface, output⟩
      exact ⟨entries, document, _, _, backend, _, _, interface, _, output, rfl, rfl, rfl, rfl, rfl⟩
  rw [byTable]
  refine exists_congr fun entries => and_congr_right fun _ => ?_
  rw [readBackend_eq_some_iff, readInterface_eq_some_iff, readOutput_eq_some_iff]
  constructor
  · rintro ⟨⟨backend, baseUrl, timeout⟩, ⟨interface, tick, toast⟩, output, directory⟩
    constructor
    · intro key
      cases key <;> assumption
    · intro key
      cases key with
      | baseUrl => exact baseUrl
      | timeoutSeconds => exact timeout.trans Option.or_none.symm
      | tickMillis => exact tick
      | toastSeconds => exact toast
      | downloadDirectory => exact directory.trans Option.or_none.symm
  · rintro ⟨records, values⟩
    refine ⟨⟨records .baseUrl, values .baseUrl, ?_⟩, ⟨records .tickMillis, values .tickMillis,
      values .toastSeconds⟩, records .downloadDirectory, ?_⟩
    · exact (values .timeoutSeconds).trans Option.or_none
    · exact (values .downloadDirectory).trans Option.or_none

theorem Key.allows_of_value? {settings : Settings} {key : Key} {value : Value}
    (valued : settings.value? key = some value) : key.Allows value := by
  cases key with
  | baseUrl => exact ⟨_, (Option.some_inj.mp valued).symm⟩
  | timeoutSeconds =>
      obtain ⟨seconds, _, rfl⟩ := Option.map_eq_some_iff.mp valued
      exact ⟨seconds, rfl⟩
  | tickMillis => exact ⟨_, (Option.some_inj.mp valued).symm⟩
  | toastSeconds => exact ⟨_, (Option.some_inj.mp valued).symm⟩
  | downloadDirectory =>
      obtain ⟨directory, _, rfl⟩ := Option.map_eq_some_iff.mp valued
      exact ⟨directory, rfl⟩

/-- Settings can be read from a document if and only if it is well formed. -/
theorem wellFormed_iff {entries : List (String × Value)} :
    WellFormed entries ↔
      (∀ key : Key, (lookup entries key.table).all (·.isRecord) = true) ∧
        ∃ settings : Settings, ∀ key,
          settings.value? key = (key.given? entries).or (standard.value? key) := by
  constructor
  · rintro ⟨records, allowed⟩
    obtain ⟨baseUrl, baseUrlGiven⟩ := exists_eq_or standard.baseUrl (allowed .baseUrl)
    obtain ⟨timeout, timeoutGiven⟩ := exists_map_eq (allowed .timeoutSeconds)
    obtain ⟨tick, tickGiven⟩ := exists_eq_or standard.tickMillis (allowed .tickMillis)
    obtain ⟨toast, toastGiven⟩ := exists_eq_or standard.toastSeconds (allowed .toastSeconds)
    obtain ⟨directory, directoryGiven⟩ := exists_map_eq (allowed .downloadDirectory)
    refine ⟨records, ⟨baseUrl, timeout, tick, toast, directory⟩, fun key => ?_⟩
    cases key with
    | baseUrl => exact baseUrlGiven
    | timeoutSeconds => exact timeoutGiven.trans Option.or_none.symm
    | tickMillis => exact tickGiven
    | toastSeconds => exact toastGiven
    | downloadDirectory => exact directoryGiven.trans Option.or_none.symm
  · rintro ⟨records, settings, values⟩
    refine ⟨records, fun key value given => ?_⟩
    refine Key.allows_of_value? (?_ : settings.value? key = some value)
    rw [values key, given, Option.some_or]

/-- Settings can be read from a text if and only if it is that of a well-formed document. -/
theorem exists_read?_iff {text : String} :
    (∃ settings, read? text = some settings) ↔
      ∃ entries, Toml.read? text = some entries ∧ WellFormed entries := by
  simp only [read?_eq_some_iff, wellFormed_iff]
  constructor
  · rintro ⟨settings, entries, document, records, values⟩
    exact ⟨entries, document, records, settings, values⟩
  · rintro ⟨entries, document, records, settings, values⟩
    exact ⟨settings, entries, document, records, values⟩

end Settings

end DocsConsole
