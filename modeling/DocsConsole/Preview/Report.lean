import DocsConsole.Quality.Report
import DocsConsole.Terminal.Theme
import DocsConsole.Text.Lines

/-!
# Quality reports as lines of the terminal
-/

namespace DocsConsole.Preview

open Terminal

/-- The style of a finding's severity. -/
def severityStyle : Severity → Style
  | .error => (Style.colored Theme.errorColor).asBold
  | .warning => (Style.colored Theme.warningColor).asBold
  | .info => (Style.colored Theme.accent).asBold

def cardLine (card : MetricCard) : Line :=
  [⟨"  " ++ Text.padEnd 28 card.label, Theme.muted⟩, ⟨card.value, Theme.selected⟩]

/-- The two lines of a finding. -/
def issueLines (issue : QualityIssue) : List Line :=
  let rule : Line :=
    match issue.shownRule with
    | some rule => [⟨" " ++ rule, Theme.code⟩]
    | none => []
  [[⟨"  " ++ Text.padEnd 8 issue.severityLabel, severityStyle issue.severityClass⟩,
      ⟨" Line " ++ issue.lineLabel ++ " ", Theme.muted⟩,
      ⟨"[" ++ issue.kindLabel ++ "]", Theme.dim⟩] ++ rule,
    Line.styled Theme.normal ("    " ++ issue.messageText)]

def summaryLines : Option String → List Line
  | some summary => [Line.styled Theme.normal summary, []]
  | none => []

def cardLines (cards : List MetricCard) : List Line :=
  if cards.isEmpty then [] else Line.styled Theme.header "Metrics" :: cards.map cardLine ++ [[]]

def issuesLines (issues : List QualityIssue) : List Line :=
  Line.styled Theme.header ("Issues (" ++ toString issues.length ++ ")") ::
    if issues.isEmpty then [Line.styled Theme.success "  No issues found. Great job!"]
    else issues.flatMap issueLines

def suggestionLines (suggestions : List String) : List Line :=
  if suggestions.isEmpty then []
  else
    [] :: Line.styled Theme.header "Suggestions" ::
      suggestions.map fun suggestion => Line.styled Theme.normal ("  • " ++ suggestion)

def reportLines (report : QualityReport) : List Line :=
  summaryLines report.shownSummary ++ cardLines report.metricCards ++
    issuesLines report.allIssues ++ suggestionLines report.allSuggestions

end DocsConsole.Preview
