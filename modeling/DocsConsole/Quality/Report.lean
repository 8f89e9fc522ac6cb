import DocsConsole.Json.Reader
import DocsConsole.Json.Writer
import DocsConsole.Unicode.Casing

/-!
# Quality reports

A report on one source file.  Every part of it may be missing, and each part has
one form in which it is shown, with a fixed text where the report says nothing.
-/

namespace DocsConsole

/-- One finding of a report. -/
structure QualityIssue where
  severity : Option String
  message : Option String
  /-- The place of the finding, most often a line number. -/
  line : Option Json
  kind : Option String
  /-- The rule that was broken. -/
  rule : Option String
deriving Repr, Inhabited

/-- A report on one source file. -/
structure QualityReport where
  summary : Option String
  /-- Measures by name, in the order of the report. -/
  metrics : Option (List (String × Json))
  issues : Option (List QualityIssue)
  suggestions : Option (List String)
deriving Repr, Inhabited

/-- How serious a finding is. -/
inductive Severity where
  | error
  | warning
  | info
deriving DecidableEq, Repr, Inhabited

/-- A measure as it is shown. -/
structure MetricCard where
  label : String
  value : String
deriving DecidableEq, Repr, Inhabited

/-- A text that is there and is not empty. -/
def nonempty? (text : Option String) : Option String :=
  text.filter (· ≠ "")

/-- The name of a measure as a heading. -/
def metricLabel (name : String) : String :=
  Unicode.upper (String.ofList (name.toList.map fun c => if c = '_' then ' ' else c))

/-- A value as it is shown: a text without its quotes, anything else as JSON. -/
def Json.display : Json → String
  | .string text => text
  | value => value.write

namespace QualityIssue

def severityLabel (issue : QualityIssue) : String :=
  Unicode.upper ((nonempty? issue.severity).getD "info")

/-- The class of a severity, by its label. -/
def severityOfLabel (label : String) : Severity :=
  if ["ERROR", "CRITICAL", "BLOCKER", "MAJOR"].contains label then .error
  else if ["WARNING", "WARN", "MINOR"].contains label then .warning
  else .info

/-- How serious the finding is. -/
def severityClass (issue : QualityIssue) : Severity :=
  severityOfLabel issue.severityLabel

def messageText (issue : QualityIssue) : String :=
  (nonempty? issue.message).getD "No description available"

/-- Whether a place means that there is none: a zero does. -/
def isNoLine : Json → Bool
  | .null => true
  | .number value => value.isZero
  | .string text => text = "" || text = "0"
  | _ => false

def lineLabel (issue : QualityIssue) : String :=
  match issue.line with
  | none => "N/A"
  | some line => if isNoLine line then "N/A" else line.display

def kindLabel (issue : QualityIssue) : String :=
  (nonempty? issue.kind).getD "General"

def shownRule (issue : QualityIssue) : Option String :=
  nonempty? issue.rule

end QualityIssue

namespace QualityReport

/-- The report that says nothing. -/
def empty : QualityReport :=
  ⟨none, none, none, none⟩

def shownSummary (report : QualityReport) : Option String :=
  nonempty? report.summary

/-- The measures as they are shown; one without a value is left out. -/
def metricCards (report : QualityReport) : List MetricCard :=
  ((report.metrics.getD []).filter (!·.2.isNull)).map fun (name, value) =>
    ⟨metricLabel name, value.display⟩

def allIssues (report : QualityReport) : List QualityIssue :=
  report.issues.getD []

def allSuggestions (report : QualityReport) : List String :=
  report.suggestions.getD []

end QualityReport

end DocsConsole
