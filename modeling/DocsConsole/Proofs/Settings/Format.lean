import DocsConsole.Proofs.Toml.Lines
import DocsConsole.Settings.Format

/-!
# Reading written settings

Settings can be written if each of their numbers fits 64 bits with a sign, and what is
written is read back as the same settings.
-/

namespace DocsConsole.Settings

open Toml
open scoped CoreInstances

/-- Settings whose numbers fit 64 bits with a sign. -/
structure Fit (settings : Settings) : Prop where
  timeoutSeconds : ∀ seconds ∈ settings.timeoutSeconds, seconds < 2 ^ (63 : Nat)
  tickMillis : settings.tickMillis < 2 ^ (63 : Nat)
  toastSeconds : settings.toastSeconds < 2 ^ (63 : Nat)

theorem isWritable_iff {value : Nat} : isWritable value = true ↔ value < 2 ^ (63 : Nat) :=
  decide_eq_true_iff

theorem all_isWritable_iff {settings : Settings} :
    (settings.timeoutSeconds.all isWritable && isWritable settings.tickMillis &&
      isWritable settings.toastSeconds) = true ↔ settings.Fit := by
  simp only [Bool.and_eq_true, Option.all_eq_true, isWritable_iff]
  exact ⟨fun ⟨⟨timeout, tick⟩, toast⟩ => ⟨timeout, tick, toast⟩,
    fun fit => ⟨⟨fit.timeoutSeconds, fit.tickMillis⟩, fit.toastSeconds⟩⟩

theorem write?_eq_none {settings : Settings} (large : ¬ settings.Fit) :
    settings.write? = none := by
  rw [write?, if_neg (mt all_isWritable_iff.mp large)]

/-- What the written settings state. -/
def statements (settings : Settings) : List Statement :=
  [.header ["backend"], .entry [] "base_url" (.string settings.baseUrl)] ++
    (settings.timeoutSeconds.map fun (seconds : Nat) =>
      .entry [] "timeout_seconds" (.integer seconds)).toList ++
  [.header ["ui"], .entry [] "tick_ms" (.integer settings.tickMillis),
    .entry [] "toast_seconds" (.integer settings.toastSeconds), .header ["output"]] ++
    (settings.downloadDirectory.map fun directory =>
      .entry [] "download_dir" (.string directory)).toList

/-- The document with these statements. -/
def entries (settings : Settings) : List (String × Value) :=
  [("backend", .table .header ([("base_url", .string settings.baseUrl)] ++
      (settings.timeoutSeconds.map fun (seconds : Nat) =>
        ("timeout_seconds", Value.integer seconds)).toList)),
    ("ui", .table .header [("tick_ms", .integer settings.tickMillis),
      ("toast_seconds", .integer settings.toastSeconds)]),
    ("output", .table .header (settings.downloadDirectory.map fun directory =>
      ("download_dir", Value.string directory)).toList)]

theorem foldlM_statements (settings : Settings) :
    (settings.statements.foldlM Building.add Building.empty).map (·.root.2) =
      some settings.entries := by
  obtain ⟨baseUrl, timeout, tick, toast, directory⟩ := settings
  cases timeout with
  | none => cases directory <;> rfl
  | some seconds => cases directory <;> rfl

/-- Lines that a text is made of, and what they state. -/
def Written (text : String) (statements : List Statement) : Prop :=
  ∃ lines : List Line, text.toList = lines.flatMap Line.chars ∧
    lines.filterMap Line.statement? = statements

namespace Written

theorem append {first second : String} {before after : List Statement}
    (head : Written first before) (tail : Written second after) :
    Written (first ++ second) (before ++ after) := by
  obtain ⟨lines, chars, stated⟩ := head
  obtain ⟨others, otherChars, otherStated⟩ := tail
  refine ⟨lines ++ others, ?_, ?_⟩
  · rw [String.toList_append, chars, otherChars, List.flatMap_append]
  · rw [List.filterMap_append, stated, otherStated]

theorem ofLine (line : Line) {text : String} (chars : text.toList = line.chars) :
    Written text line.statement?.toList :=
  ⟨[line], by rw [chars, List.flatMap_singleton], by cases line <;> rfl⟩

theorem empty : Written "" [] :=
  ⟨[], rfl, rfl⟩

theorem string (key : PlainKey) (value : String) :
    Written (writeLine key.text (writeString value)) [.entry [] key.text (.string value)] := by
  refine ofLine (.string key value) ?_
  simp [writeLine, writeString, Line.chars]

theorem number (key : PlainKey) {value : Nat} (fits : value < 2 ^ (63 : Nat)) :
    Written (writeLine key.text (toString value)) [.entry [] key.text (.integer value)] := by
  refine ofLine (.number key value fits) ?_
  simp [writeLine, Line.chars, Nat.toString_eq_repr, Nat.toList_repr]

theorem optional {α : Type} (key : String) (write : α → String) (state : α → Statement)
    (value : Option α)
    (written : ∀ present ∈ value, Written (writeLine key (write present)) [state present]) :
    Written (writeOptional key (value.map write)) (value.map state).toList := by
  cases value with
  | none => exact empty
  | some present => exact written present rfl

end Written

theorem write?_of_fit {settings : Settings} (fit : settings.Fit) :
    ∃ text, settings.write? = some text ∧ Written text settings.statements := by
  have backend : Written "[backend]\n" [.header ["backend"]] :=
    ⟨[.header { text := "backend" }], rfl, rfl⟩
  have interface : Written "\n[ui]\n" [.header ["ui"]] :=
    ⟨[.empty, .header { text := "ui" }], rfl, rfl⟩
  have output : Written "\n[output]\n" [.header ["output"]] :=
    ⟨[.empty, .header { text := "output" }], rfl, rfl⟩
  have baseUrl := Written.string { text := "base_url" } settings.baseUrl
  have timeout := Written.optional "timeout_seconds" toString
    (fun (seconds : Nat) => .entry [] "timeout_seconds" (.integer seconds)) settings.timeoutSeconds
    fun seconds member => Written.number { text := "timeout_seconds" }
      (fit.timeoutSeconds seconds member)
  have tick := Written.number { text := "tick_ms" } fit.tickMillis
  have toast := Written.number { text := "toast_seconds" } fit.toastSeconds
  have directory := Written.optional "download_dir" writeString
    (fun path => .entry [] "download_dir" (.string path)) settings.downloadDirectory
    fun path _ => Written.string { text := "download_dir" } path
  have whole := ((((((backend.append baseUrl).append timeout).append interface).append
    tick).append toast).append output).append directory
  refine ⟨_, by rw [write?, if_pos (all_isWritable_iff.mpr fit)], ?_⟩
  simpa only [statements, List.append_assoc, List.cons_append, List.nil_append] using whole

/-! ## Tables -/

theorem natural?_natCast (number : Nat) : natural? (.integer number) = some number := by
  rw [natural?, if_pos (Int.natCast_nonneg number), Int.toNat_natCast]

theorem readBackend_entries (settings : Settings) :
    readBackend (lookup settings.entries "backend") =
      some (settings.baseUrl, settings.timeoutSeconds) := by
  obtain ⟨baseUrl, timeout, tick, toast, directory⟩ := settings
  cases timeout with
  | none => rfl
  | some seconds =>
      simp [entries, lookup, readBackend, fields?, fieldOr, text?, natural?_natCast]

theorem readInterface_entries (settings : Settings) :
    readInterface (lookup settings.entries "ui") =
      some (settings.tickMillis, settings.toastSeconds) := by
  simp [entries, lookup, readInterface, fields?, fieldOr, natural?_natCast]

theorem readOutput_entries (settings : Settings) :
    readOutput (lookup settings.entries "output") = some settings.downloadDirectory := by
  obtain ⟨baseUrl, timeout, tick, toast, directory⟩ := settings
  cases directory <;> rfl

/-- The document that settings are written as. -/
theorem document_of_written {settings : Settings} {text : String}
    (written : Written text settings.statements) : Toml.read? text = some settings.entries := by
  obtain ⟨lines, chars, stated⟩ := written
  rw [read?_lines lines chars, stated, foldlM_statements]

theorem read?_of_written {settings : Settings} {text : String}
    (written : Written text settings.statements) : read? text = some settings := by
  simp [read?, document_of_written written, readBackend_entries, readInterface_entries,
    readOutput_entries]

/-- Settings that fit are written, and what is written is read back. -/
theorem read?_write? {settings : Settings} (fit : settings.Fit) :
    ∃ text, settings.write? = some text ∧ read? text = some settings := by
  obtain ⟨text, write, written⟩ := write?_of_fit fit
  exact ⟨text, write, read?_of_written written⟩

end DocsConsole.Settings
