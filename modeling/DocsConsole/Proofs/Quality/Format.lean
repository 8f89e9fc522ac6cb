import DocsConsole.Proofs.Json.Values
import DocsConsole.Quality.Format

/-!
# Reading written reports

A report that was read from a text with whole numbers is read again from what is written of
it.  The text may have been an object or an array, with other members and with members that
are missing or null; what is written is always an object with all members in order.
-/

namespace DocsConsole

open Json

namespace JsonText

/-! ## Parts of a tree -/

theorem exists_of_mem_mapM {α β : Type} {read : α → Option β} {items : List α} {values : List β}
    (reads : items.mapM read = some values) {value : β} (listed : value ∈ values) :
    ∃ item ∈ items, read item = some value := by
  induction items generalizing values with
  | nil =>
      cases reads
      contradiction
  | cons item items induction =>
      simp only [List.mapM_cons, Option.bind_eq_bind, Option.bind_eq_some_iff, Option.pure_def,
        Option.some.injEq] at reads
      obtain ⟨first, readFirst, others, readOthers, rfl⟩ := reads
      rcases List.mem_cons.mp listed with rfl | listed
      · exact ⟨item, List.mem_cons_self, readFirst⟩
      · obtain ⟨other, inside, readOther⟩ := induction readOthers listed
        exact ⟨other, List.mem_cons_of_mem item inside, readOther⟩

theorem mapM_map {α β : Type} {read : β → Option α} {write : α → β} {values : List α}
    (each : ∀ value ∈ values, read (write value) = some value) :
    (values.map write).mapM read = some values := by
  induction values with
  | nil => rfl
  | cons value values induction =>
      have others := induction fun other member => each other (List.mem_cons_of_mem value member)
      simp [each value List.mem_cons_self, others]

theorem ofValues_eq_map (items : List Json) : ofValues items = items.map ofValue := by
  induction items with
  | nil => rw [ofValues]; rfl
  | cons item items induction => rw [ofValues, induction, List.map_cons]

/-- What is read of a field is read of a part that is there and is not null. -/
theorem exists_of_field? {α : Type} {read : JsonText → Option α} {field : Option JsonText}
    {value : α} (reads : field? read field = some (some value)) :
    ∃ tree, field = some tree ∧ tree ≠ .null ∧ read tree = some value := by
  cases field with
  | none => cases reads
  | some tree =>
      cases tree with
      | null => cases reads
      | _ =>
          obtain ⟨found, readFound, same⟩ := Option.map_eq_some_iff.mp reads
          cases same
          exact ⟨_, rfl, by simp, readFound⟩

/-- A single member is one of the members. -/
theorem exists_of_single? {name : String} {members : List (Option String × JsonText)}
    {tree : JsonText} (found : single? name members = some (some tree)) :
    ∃ key, (key, tree) ∈ members := by
  unfold single? at found
  split at found
  case h_1 => cases found
  case h_2 key member only =>
    cases found
    have inside : (key, tree) ∈ members.filter (·.1 == some name) := only ▸ List.mem_cons_self
    exact ⟨key, (List.mem_filter.mp inside).1⟩
  case h_3 => cases found

/-- The fields of a record are parts of its tree. -/
theorem Whole.fields? {tree : JsonText} (whole : tree.Whole) {names : List String}
    {fields : List (Option JsonText)} (found : tree.fields? names = some fields)
    {part : JsonText} (listed : some part ∈ fields) : part.Whole := by
  cases tree with
  | null | bool | number | string => cases found
  | array items =>
      rw [JsonText.fields?] at found
      split at found
      case isFalse => cases found
      case isTrue =>
        cases found
        rcases List.mem_append.mp listed with inside | inside
        · obtain ⟨item, member, same⟩ := List.mem_map.mp inside
          cases same
          exact whole.item member
        · cases (List.mem_replicate.mp inside).2
  | object members =>
      rw [JsonText.fields?] at found
      split at found
      case isFalse => cases found
      case isTrue =>
        obtain ⟨name, _, single⟩ := exists_of_mem_mapM found listed
        obtain ⟨key, member⟩ := exists_of_single? single
        exact whole.member member

theorem eq_null_of_value? {depth : Nat} {tree : JsonText} (read : value? depth tree = some .null) :
    tree = .null := by
  cases tree with
  | null => rfl
  | array => cases depth <;> simp [value?] at read
  | object => cases depth <;> simp [value?] at read
  | _ => simp [value?] at read

theorem Whole.of_list {α : Type} {tree : JsonText} (whole : tree.Whole) {read : JsonText → Option α}
    {values : List α} (reads : list read tree = some values) {value : α} (listed : value ∈ values) :
    ∃ item, item.Whole ∧ read item = some value := by
  cases tree with
  | array items =>
      obtain ⟨item, inside, readItem⟩ := exists_of_mem_mapM reads listed
      exact ⟨item, whole.item inside, readItem⟩
  | _ => cases reads

end JsonText

theorem Json.fits_ofOption {depth : Nat} {text : Option String} : Fits depth (.ofOption text) := by
  cases text with
  | none => exact .null
  | some text => exact .string

/-! ## What was read -/

/-- A finding whose place, if there is one, can be written and read again. -/
def QualityIssue.Kept (issue : QualityIssue) : Prop :=
  ∀ line ∈ issue.line, line ≠ .null ∧ Fits (JsonText.depthLimit - 3) line

theorem QualityIssue.kept_of_ofJson? {tree : JsonText} (whole : tree.Whole) {issue : QualityIssue}
    (read : ofJson? (JsonText.depthLimit - 3) tree = some issue) : issue.Kept := by
  rw [ofJson?] at read
  split at read
  case h_2 => cases read
  case h_1 fields =>
    simp only [Option.bind_eq_bind, Option.bind_eq_some_iff] at read
    obtain ⟨_, _, _, _, place, readPlace, _, _, _, _, same⟩ := read
    cases same
    rintro line rfl
    obtain ⟨part, rfl, notNull, value⟩ := JsonText.exists_of_field? readPlace
    have wholePart : part.Whole := whole.fields? fields (by simp)
    refine ⟨?_, wholePart.readsFit value⟩
    rintro rfl
    exact notNull (JsonText.eq_null_of_value? value)

namespace QualityReport

/-- A report whose measures and places can be written and read again. -/
structure Kept (report : QualityReport) : Prop where
  metrics : ∀ members ∈ report.metrics, FitMembers (JsonText.depthLimit - 2) members
  issues : ∀ issues ∈ report.issues, ∀ issue ∈ issues, issue.Kept

theorem kept_of_ofJson? {tree : JsonText} (whole : tree.Whole) {report : QualityReport}
    (read : ofJson? tree = some report) : report.Kept := by
  rw [ofJson?] at read
  split at read
  case h_2 => cases read
  case h_1 fields =>
    simp only [Option.bind_eq_bind, Option.bind_eq_some_iff] at read
    obtain ⟨_, _, measures, readMeasures, findings, readFindings, _, _, same⟩ := read
    cases same
    constructor
    · rintro members rfl
      obtain ⟨part, rfl, _, value⟩ := JsonText.exists_of_field? readMeasures
      have wholePart : part.Whole := whole.fields? fields (by simp)
      cases part with
      | object members =>
          exact JsonText.fitMembers_of_memberValues?
            (fun _ _ inside => (wholePart.member inside).readsFit) (.nil _) value
      | _ => cases value
    · rintro issues rfl issue listed
      obtain ⟨part, rfl, _, value⟩ := JsonText.exists_of_field? readFindings
      have wholePart : part.Whole := whole.fields? fields (by simp)
      obtain ⟨item, wholeItem, readItem⟩ := wholePart.of_list value listed
      exact QualityIssue.kept_of_ofJson? wholeItem readItem

end QualityReport

/-! ## What is written -/

theorem JsonText.field?_ofOption (text : Option String) :
    field? text? (some (ofValue (.ofOption text))) = some text := by
  cases text <;> rfl

/-- A value that is not null is read again where null would count as missing. -/
theorem JsonText.optional_ofValue {α : Type} {read : JsonText → Option α} {json : Json}
    (notNull : json ≠ .null) :
    optional read (ofValue json) = (read (ofValue json)).map some := by
  cases json with
  | null => exact (notNull rfl).elim
  | _ => rw [ofValue]; rfl

theorem JsonText.list_ofValues {α : Type} {read : JsonText → Option α} {write : α → Json}
    {values : List α} (each : ∀ value ∈ values, read (ofValue (write value)) = some value) :
    list read (ofValue (.array (values.map write))) = some values := by
  rw [ofValue, ofValues_eq_map, List.map_map]
  exact mapM_map each

namespace QualityIssue

variable {issue : QualityIssue}

theorem Kept.fits (kept : issue.Kept) : Fits (JsonText.depthLimit - 2) issue.toJson := by
  refine .object (by simp) ?_
  intro name member inside
  simp only [List.mem_cons, List.not_mem_nil, or_false, Prod.mk.injEq] at inside
  rcases inside with ⟨-, rfl⟩ | ⟨-, rfl⟩ | ⟨-, rfl⟩ | ⟨-, rfl⟩ | ⟨-, rfl⟩
  · exact fits_ofOption
  · exact fits_ofOption
  · cases place : issue.line with
    | none => exact .null
    | some line => exact (kept line place).2
  · exact fits_ofOption
  · exact fits_ofOption

theorem Kept.field?_line (kept : issue.Kept) :
    JsonText.field? (JsonText.value? (JsonText.depthLimit - 3))
      (some (JsonText.ofValue (issue.line.getD .null))) = some issue.line := by
  cases place : issue.line with
  | none => rfl
  | some line =>
      obtain ⟨notNull, fits⟩ := kept line place
      rw [JsonText.field?, Option.getD_some, JsonText.optional_ofValue notNull,
        fits.value?_ofValue, Option.map_some]

theorem Kept.ofJson?_ofValue (kept : issue.Kept) :
    ofJson? (JsonText.depthLimit - 3) (JsonText.ofValue issue.toJson) = some issue := by
  have fields : (JsonText.ofValue issue.toJson).fields? fieldNames = some
      [some (JsonText.ofValue (.ofOption issue.severity)),
        some (JsonText.ofValue (.ofOption issue.message)),
        some (JsonText.ofValue (issue.line.getD .null)),
        some (JsonText.ofValue (.ofOption issue.kind)),
        some (JsonText.ofValue (.ofOption issue.rule))] := rfl
  simp [ofJson?, fields, JsonText.field?_ofOption, kept.field?_line]

end QualityIssue

namespace QualityReport

variable {report : QualityReport}

theorem Kept.fits (kept : report.Kept) : Fits JsonText.depthLimit report.toJson := by
  refine .object (by simp) ?_
  intro name member inside
  simp only [List.mem_cons, List.not_mem_nil, or_false, Prod.mk.injEq] at inside
  rcases inside with ⟨-, rfl⟩ | ⟨-, rfl⟩ | ⟨-, rfl⟩ | ⟨-, rfl⟩
  · exact fits_ofOption
  · cases measures : report.metrics with
    | none => exact .null
    | some members =>
        have fit := kept.metrics members measures
        exact .object fit.distinct fit.each
  · cases findings : report.issues with
    | none => exact .null
    | some issues =>
        refine .array fun item listed => ?_
        obtain ⟨issue, inside, rfl⟩ := List.mem_map.mp listed
        exact (kept.issues issues findings issue inside).fits
  · cases texts : report.suggestions with
    | none => exact .null
    | some texts =>
        refine .array fun item listed => ?_
        obtain ⟨text, _, rfl⟩ := List.mem_map.mp listed
        exact .string

theorem Kept.field?_metrics (kept : report.Kept) :
    JsonText.field? (metricsOfJson? (JsonText.depthLimit - 2))
      (some (JsonText.ofValue ((report.metrics.map Json.object).getD .null))) =
      some report.metrics := by
  cases measures : report.metrics with
  | none => rfl
  | some members =>
      have fit := kept.metrics members measures
      have read : JsonText.memberValues? (JsonText.depthLimit - 2) []
          (JsonText.ofMembers members) = some members :=
        memberValues?_ofMembers fit.distinct fun name member inside =>
          (fit.each name member inside).value?_ofValue
      rw [JsonText.field?, Option.map_some, Option.getD_some,
        JsonText.optional_ofValue (by simp), JsonText.ofValue, metricsOfJson?, read,
        Option.map_some]

theorem Kept.field?_issues (kept : report.Kept) :
    JsonText.field? (JsonText.list (QualityIssue.ofJson? (JsonText.depthLimit - 3)))
      (some (JsonText.ofValue
        ((report.issues.map fun issues => .array (issues.map (·.toJson))).getD .null))) =
      some report.issues := by
  cases findings : report.issues with
  | none => rfl
  | some issues =>
      have read := JsonText.list_ofValues fun issue inside =>
        (kept.issues issues findings issue inside).ofJson?_ofValue
      rw [JsonText.field?, Option.map_some, Option.getD_some,
        JsonText.optional_ofValue (by simp), read, Option.map_some]

theorem field?_suggestions (report : QualityReport) :
    JsonText.field? (JsonText.list JsonText.text?)
      (some (JsonText.ofValue
        ((report.suggestions.map fun texts => .array (texts.map Json.string)).getD .null))) =
      some report.suggestions := by
  cases report.suggestions with
  | none => rfl
  | some texts =>
      have read : JsonText.list JsonText.text?
          (JsonText.ofValue (.array (texts.map Json.string))) = some texts :=
        JsonText.list_ofValues fun _ _ => rfl
      rw [JsonText.field?, Option.map_some, Option.getD_some,
        JsonText.optional_ofValue (by simp), read, Option.map_some]

theorem Kept.ofJson?_ofValue (kept : report.Kept) :
    ofJson? (JsonText.ofValue report.toJson) = some report := by
  have fields : (JsonText.ofValue report.toJson).fields? fieldNames = some
      [some (JsonText.ofValue (.ofOption report.summary)),
        some (JsonText.ofValue ((report.metrics.map Json.object).getD .null)),
        some (JsonText.ofValue
          ((report.issues.map fun issues => .array (issues.map (·.toJson))).getD .null)),
        some (JsonText.ofValue
          ((report.suggestions.map fun texts => .array (texts.map Json.string)).getD .null))] :=
    rfl
  simp [ofJson?, fields, JsonText.field?_ofOption, kept.field?_metrics, kept.field?_issues,
    field?_suggestions]

theorem Kept.read?_write {report : QualityReport} (kept : report.Kept) :
    read? report.write = some report := by
  rw [read?, write, kept.fits.ofString?_write, Option.bind_some, kept.ofJson?_ofValue]

/-- A report from a text with whole numbers is read again from what is written of it. -/
theorem write_reads_back {text : String} {report : QualityReport}
    (read : read? text = some report)
    (whole : ∀ tree, JsonText.ofString? text = some tree → tree.Whole) :
    read? report.write = some report := by
  obtain ⟨tree, parsed, reads⟩ := Option.bind_eq_some_iff.mp read
  exact (kept_of_ofJson? (whole tree parsed) reads).read?_write

/-- A report as an array, with a name that comes twice, minus zero and the ends of the ranges. -/
def mixed : String :=
  "[null, \x7b\"a\": [], \"b\": -0, \"a\": [18446744073709551615]\x7d,
    [\x7b\"type\": \"\\u00e9\\n\", \"line\": -9223372036854775808, \"more\": 1\x7d]]"

def mixedWritten : String :=
  "\x7b\"summary\":null,\"metrics\":\x7b\"a\":[18446744073709551615],\"b\":-0.0\x7d," ++
    "\"issues\":[\x7b\"severity\":null,\"message\":null,\"line\":-9223372036854775808," ++
    "\"type\":\"é\\n\",\"rule\":null\x7d],\"suggestions\":null\x7d"

theorem write_reads_back_mixed : ∃ report, read? mixed = some report ∧
    (∀ tree, JsonText.ofString? mixed = some tree → tree.Whole) ∧
    report.write = mixedWritten ∧ read? report.write = some report := by
  have written : (read? mixed).map write = some mixedWritten := by decide +kernel
  have whole : ∀ tree ∈ JsonText.ofString? mixed, tree.Whole := by decide +kernel
  obtain ⟨report, read, writes⟩ := Option.map_eq_some_iff.mp written
  exact ⟨report, read, whole, writes, write_reads_back read whole⟩

end QualityReport

end DocsConsole
