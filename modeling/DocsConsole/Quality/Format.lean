import DocsConsole.Quality.Report

/-!
# Quality reports as JSON

A report and its findings are records whose fields may be missing.  What is
nested inside them counts towards the depth to which JSON may be nested.
-/

namespace DocsConsole

/-- The fields of a finding, in order. -/
def QualityIssue.fieldNames : List String := ["severity", "message", "line", "type", "rule"]

/-- Reads a finding whose line is nested up to a depth. -/
def QualityIssue.ofJson? (depth : Nat) (text : JsonText) : Option QualityIssue :=
  match text.fields? fieldNames with
  | some [severity, message, line, kind, rule] => do
      let severity ← JsonText.field? JsonText.text? severity
      let message ← JsonText.field? JsonText.text? message
      let line ← JsonText.field? (JsonText.value? depth) line
      let kind ← JsonText.field? JsonText.text? kind
      let rule ← JsonText.field? JsonText.text? rule
      some ⟨severity, message, line, kind, rule⟩
  | _ => none

def QualityIssue.toJson (issue : QualityIssue) : Json :=
  .object [("severity", .ofOption issue.severity), ("message", .ofOption issue.message),
    ("line", issue.line.getD .null), ("type", .ofOption issue.kind),
    ("rule", .ofOption issue.rule)]

namespace QualityReport

/-- The fields of a report, in order. -/
def fieldNames : List String := ["summary", "metrics", "issues", "suggestions"]

/-- The measures of a report, whose values are nested up to a depth. -/
def metricsOfJson? (depth : Nat) : JsonText → Option (List (String × Json))
  | .object members => JsonText.memberValues? depth [] members
  | _ => none

/-- Reads a report.  The report itself is the outermost level of nesting, the measures and
the list of findings are the next one, and each finding is one more. -/
def ofJson? (text : JsonText) : Option QualityReport :=
  match text.fields? fieldNames with
  | some [summary, metrics, issues, suggestions] => do
      let summary ← JsonText.field? JsonText.text? summary
      let metrics ← JsonText.field? (metricsOfJson? (JsonText.depthLimit - 2)) metrics
      let issues ← JsonText.field?
        (JsonText.list (QualityIssue.ofJson? (JsonText.depthLimit - 3))) issues
      let suggestions ← JsonText.field? (JsonText.list JsonText.text?) suggestions
      some ⟨summary, metrics, issues, suggestions⟩
  | _ => none

def read? (text : String) : Option QualityReport :=
  (JsonText.ofString? text).bind ofJson?

def toJson (report : QualityReport) : Json :=
  .object [("summary", .ofOption report.summary),
    ("metrics", (report.metrics.map Json.object).getD .null),
    ("issues", (report.issues.map fun issues => .array (issues.map (·.toJson))).getD .null),
    ("suggestions",
      (report.suggestions.map fun texts => .array (texts.map Json.string)).getD .null)]

def write (report : QualityReport) : String :=
  report.toJson.write

end QualityReport

end DocsConsole
