import DocsConsole.Html.Fragment
import DocsConsole.Quality.Report

/-!
# Quality reports as markup

The summary, the measures, the findings and the suggestions of a report, in this
order.  A part that has nothing to show is left out, but for the findings.
-/

namespace DocsConsole.Html

/-- The name of a class of findings in a style sheet. -/
def severityName : Severity → String
  | .error => "severity-error"
  | .warning => "severity-warning"
  | .info => "severity-info"

def ofCard (card : MetricCard) : Fragment :=
  [.markup "<div class=\"metric-card\"><div class=\"metric-value\">", .text card.value,
    .markup "</div><div class=\"metric-label\">", .text card.label, .markup "</div></div>\n"]

/-- The rule that a finding names. -/
def ofRule : Option String → Fragment
  | some rule => [.markup "<code class=\"issue-rule\">", .text rule, .markup "</code>"]
  | none => []

def ofIssue (issue : QualityIssue) : Fragment :=
  [.markup ("<li class=\"issue " ++ severityName issue.severityClass ++
      "\"><span class=\"issue-severity\">"),
    .text issue.severityLabel,
    .markup "</span> <span class=\"issue-line\">Line ", .text issue.lineLabel,
    .markup "</span> <span class=\"issue-type\">", .text issue.kindLabel,
    .markup "</span><p class=\"issue-message\">", .text issue.messageText, .markup "</p>"] ++
  ofRule issue.shownRule ++ [.markup "</li>\n"]

def ofSuggestion (suggestion : String) : Fragment :=
  [.markup "<li>", .text suggestion, .markup "</li>\n"]

def ofSummary : Option String → Fragment
  | some summary => [.markup "<p class=\"quality-summary\">", .text summary, .markup "</p>\n"]
  | none => []

def ofCards (cards : List MetricCard) : Fragment :=
  if cards.isEmpty then []
  else .markup "<div class=\"metrics-grid\">\n" :: cards.flatMap ofCard ++ [.markup "</div>\n"]

def ofIssues (issues : List QualityIssue) : Fragment :=
  if issues.isEmpty then
    [.markup "<div class=\"no-issues\">No issues found. Great job!</div>\n"]
  else .markup "<ul class=\"issues\">\n" :: issues.flatMap ofIssue ++ [.markup "</ul>\n"]

def ofSuggestions (suggestions : List String) : Fragment :=
  if suggestions.isEmpty then []
  else
    .markup "<ul class=\"suggestions\">\n" :: suggestions.flatMap ofSuggestion ++
      [.markup "</ul>\n"]

def ofReport (report : QualityReport) : Fragment :=
  ofSummary report.shownSummary ++ ofCards report.metricCards ++ ofIssues report.allIssues ++
    ofSuggestions report.allSuggestions

end DocsConsole.Html
