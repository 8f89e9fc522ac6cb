import DocsConsole.Html.Report
import DocsConsole.Proofs.Html.Tags

/-!
# The view that markup shows of a report

The markup of a report shows a view of it: the texts that a reader sees.  Split at its tags, it is
the parts of that view, one after another.  The texts of the parts are those of the view, and
their tags depend on the shape of the report only.
-/

namespace DocsConsole.Html

/-! ## Views and shapes -/

/-- What is shown of a finding. -/
structure FindingView where
  severity : String
  line : String
  kind : String
  message : String
  rule : Option String
deriving DecidableEq, Repr

/-- What is shown of a report. -/
structure ReportView where
  summary : Option String
  cards : List MetricCard
  findings : List FindingView
  suggestions : List String
deriving DecidableEq, Repr

def FindingView.ofIssue (issue : QualityIssue) : FindingView :=
  ⟨issue.severityLabel, issue.lineLabel, issue.kindLabel, issue.messageText, issue.shownRule⟩

def ReportView.ofReport (report : QualityReport) : ReportView :=
  ⟨report.shownSummary, report.metricCards, report.allIssues.map FindingView.ofIssue,
    report.allSuggestions⟩

/-- How much there is in a report, and of which kinds. -/
structure ReportShape where
  /-- Whether there is a summary to show. -/
  summary : Bool
  /-- How many measures have a value. -/
  cards : Nat
  /-- The class of each finding, and whether it names a rule. -/
  findings : List (Severity × Bool)
  suggestions : Nat
deriving DecidableEq, Repr

def ReportShape.ofReport (report : QualityReport) : ReportShape where
  summary := report.shownSummary.isSome
  cards := ((report.metrics.getD []).filter (!·.2.isNull)).length
  findings := report.allIssues.map fun issue => (issue.severityClass, issue.shownRule.isSome)
  suggestions := report.allSuggestions.length

/-- The tag of a finding of a class. -/
def findingTag (severity : Severity) : String :=
  "li class=\"issue " ++ severityName severity ++ "\""

def cardTags : List String :=
  ["div class=\"metric-card\"", "div class=\"metric-value\"", "/div",
    "div class=\"metric-label\"", "/div", "/div"]

def findingTags : Severity × Bool → List String
  | (severity, named) =>
      [findingTag severity, "span class=\"issue-severity\"", "/span", "span class=\"issue-line\"",
        "/span", "span class=\"issue-type\"", "/span", "p class=\"issue-message\"", "/p"] ++
      (if named then ["code class=\"issue-rule\"", "/code"] else []) ++ ["/li"]

/-- Items between two tags, or nothing if there are none. -/
def between {α β : Type} (opening closing : β) (write : α → List β) (items : List α) : List β :=
  if items.isEmpty then [] else opening :: items.flatMap write ++ [closing]

def ReportShape.tags (shape : ReportShape) : List String :=
  (if shape.summary then ["p class=\"quality-summary\"", "/p"] else []) ++
    between "div class=\"metrics-grid\"" "/div" (fun _ => cardTags)
      (List.replicate shape.cards ()) ++
    (if shape.findings.isEmpty then ["div class=\"no-issues\"", "/div"]
      else between "ul class=\"issues\"" "/ul" findingTags shape.findings) ++
    between "ul class=\"suggestions\"" "/ul" (fun _ => ["li", "/li"])
      (List.replicate shape.suggestions ())

/-! ## Parts of the markup -/

def cardParts (card : MetricCard) : List Part :=
  [⟨"div class=\"metric-card\"", ""⟩, ⟨"div class=\"metric-value\"", card.value⟩, ⟨"/div", ""⟩,
    ⟨"div class=\"metric-label\"", card.label⟩, ⟨"/div", ""⟩, ⟨"/div", "\n"⟩]

/-- The parts of a text that may be left out. -/
def textParts (tag : String) (closing : Part) : Option String → List Part
  | some text => [⟨tag, text⟩, closing]
  | none => []

def ruleParts : Option String → List Part :=
  textParts "code class=\"issue-rule\"" ⟨"/code", ""⟩

def findingParts (finding : FindingView) : List Part :=
  [⟨findingTag (QualityIssue.severityOfLabel finding.severity), ""⟩,
    ⟨"span class=\"issue-severity\"", finding.severity⟩, ⟨"/span", " "⟩,
    ⟨"span class=\"issue-line\"", "Line " ++ finding.line⟩, ⟨"/span", " "⟩,
    ⟨"span class=\"issue-type\"", finding.kind⟩, ⟨"/span", ""⟩,
    ⟨"p class=\"issue-message\"", finding.message⟩, ⟨"/p", ""⟩] ++
  ruleParts finding.rule ++ [⟨"/li", "\n"⟩]

def suggestionParts (suggestion : String) : List Part :=
  [⟨"li", suggestion⟩, ⟨"/li", "\n"⟩]

def summaryParts : Option String → List Part :=
  textParts "p class=\"quality-summary\"" ⟨"/p", "\n"⟩

def cardsParts (cards : List MetricCard) : List Part :=
  between ⟨"div class=\"metrics-grid\"", "\n"⟩ ⟨"/div", "\n"⟩ cardParts cards

def findingsParts (findings : List FindingView) : List Part :=
  if findings.isEmpty then
    [⟨"div class=\"no-issues\"", "No issues found. Great job!"⟩, ⟨"/div", "\n"⟩]
  else between ⟨"ul class=\"issues\"", "\n"⟩ ⟨"/ul", "\n"⟩ findingParts findings

def suggestionsParts (suggestions : List String) : List Part :=
  between ⟨"ul class=\"suggestions\"", "\n"⟩ ⟨"/ul", "\n"⟩ suggestionParts suggestions

/-- The parts of the markup of a report, in order. -/
def ReportView.parts (view : ReportView) : List Part :=
  summaryParts view.summary ++ cardsParts view.cards ++ findingsParts view.findings ++
    suggestionsParts view.suggestions

/-! ## The markup is its parts -/

theorem escapeChars_append (first second : List Char) :
    escapeChars (first ++ second) = escapeChars first ++ escapeChars second :=
  List.flatMap_append

theorem toList_findingTag (severity : Severity) :
    (findingTag severity).toList =
      "li class=\"issue ".toList ++ ((severityName severity).toList ++ "\"".toList) := by
  change ("li class=\"issue " ++ severityName severity ++ "\"").toList = _
  rw [String.toList_append, String.toList_append, List.append_assoc]

/-- The markup of a finding starts with its tag. -/
theorem toList_issueMarkup (severity : Severity) :
    ("<li class=\"issue " ++ severityName severity ++ "\"><span class=\"issue-severity\">").toList =
      Part.chars ⟨findingTag severity, ""⟩ ++ "<span class=\"issue-severity\">".toList := by
  rw [Part.chars, toList_findingTag, String.toList_append, String.toList_append]
  generalize (severityName severity).toList = name
  simp only [List.append_assoc, List.cons_append]
  rfl

open Fragment

theorem chars_ofCard (card : MetricCard) :
    (ofCard card).chars = (cardParts card).flatMap Part.chars := by
  simp only [ofCard, cardParts, chars_markup, chars_text, chars_nil, List.flatMap_cons,
    List.flatMap_nil, Part.chars]
  generalize escapeChars card.value.toList = value, escapeChars card.label.toList = label
  rfl

theorem chars_ofSuggestion (suggestion : String) :
    (ofSuggestion suggestion).chars = (suggestionParts suggestion).flatMap Part.chars := by
  simp only [ofSuggestion, suggestionParts, chars_markup, chars_text, chars_nil,
    List.flatMap_cons, List.flatMap_nil, Part.chars]
  generalize escapeChars suggestion.toList = written
  rfl

theorem chars_ofSummary (summary : Option String) :
    (ofSummary summary).chars = (summaryParts summary).flatMap Part.chars := by
  cases summary with
  | none => rfl
  | some summary =>
      simp only [ofSummary, summaryParts, textParts, chars_markup, chars_text, chars_nil,
        List.flatMap_cons, List.flatMap_nil, Part.chars]
      generalize escapeChars summary.toList = written
      rfl

theorem chars_ofRule (rule : Option String) :
    (ofRule rule).chars = (ruleParts rule).flatMap Part.chars := by
  cases rule with
  | none => rfl
  | some rule =>
      simp only [ofRule, ruleParts, textParts, chars_markup, chars_text, chars_nil,
        List.flatMap_cons, List.flatMap_nil, Part.chars]
      generalize escapeChars rule.toList = written
      rfl

theorem chars_ofIssue (issue : QualityIssue) :
    (ofIssue issue).chars = (findingParts (.ofIssue issue)).flatMap Part.chars := by
  have severity : issue.severityClass = QualityIssue.severityOfLabel issue.severityLabel := rfl
  rw [ofIssue, chars_append, chars_append, chars_ofRule, severity, chars_markup,
    toList_issueMarkup]
  simp only [findingParts, FindingView.ofIssue, chars_markup, chars_text, chars_nil,
    List.flatMap_append, List.flatMap_cons, List.flatMap_nil]
  generalize Part.chars ⟨findingTag (QualityIssue.severityOfLabel issue.severityLabel), ""⟩ = tag,
    (ruleParts issue.shownRule).flatMap Part.chars = rule
  -- The word before a place is markup on one side and text on the other, but escapes to itself.
  simp only [Part.chars, String.toList_append, escapeChars_append]
  generalize escapeChars issue.severityLabel.toList = label,
    escapeChars issue.lineLabel.toList = place, escapeChars issue.kindLabel.toList = kind,
    escapeChars issue.messageText.toList = message
  simp only [List.append_assoc]
  rfl

/-- Items between two tags are written part by part if each of them is. -/
theorem chars_between {α : Type} {write : α → Fragment} {parts : α → List Part}
    {opening closing : String} {first last : Part} (atStart : opening.toList = first.chars)
    (atEnd : closing.toList = last.chars)
    (each : ∀ item, (write item).chars = (parts item).flatMap Part.chars) (items : List α) :
    chars (between (.markup opening) (.markup closing) write items) =
      (between first last parts items).flatMap Part.chars := by
  have inner : chars (items.flatMap write) = (items.flatMap parts).flatMap Part.chars := by
    rw [chars, List.flatMap_assoc, List.flatMap_assoc]
    exact congrArg (items.flatMap ·) (funext each)
  unfold between
  split
  case isTrue => rfl
  case isFalse =>
    rw [List.cons_append, chars_markup, chars_append, chars_markup, chars_nil, inner, atStart,
      atEnd, List.cons_append, List.flatMap_cons, List.flatMap_append, List.flatMap_singleton,
      List.append_nil]

theorem between_map {α β γ : Type} (opening closing : γ) (write : β → List γ) (view : α → β)
    (items : List α) :
    between opening closing write (items.map view) =
      between opening closing (fun item => write (view item)) items := by
  rw [between, List.isEmpty_map, List.flatMap_map, between]

theorem chars_ofCards (cards : List MetricCard) :
    (ofCards cards).chars = (cardsParts cards).flatMap Part.chars :=
  chars_between rfl rfl chars_ofCard cards

theorem chars_ofSuggestions (suggestions : List String) :
    (ofSuggestions suggestions).chars = (suggestionsParts suggestions).flatMap Part.chars :=
  chars_between rfl rfl chars_ofSuggestion suggestions

theorem chars_ofIssues (issues : List QualityIssue) :
    (ofIssues issues).chars =
      (findingsParts (issues.map FindingView.ofIssue)).flatMap Part.chars := by
  unfold findingsParts
  cases issues with
  | nil => rfl
  | cons issue issues =>
      rw [if_neg (by simp), between_map]
      exact chars_between rfl rfl chars_ofIssue (issue :: issues)

theorem chars_ofReport (report : QualityReport) :
    (ofReport report).chars = (ReportView.ofReport report).parts.flatMap Part.chars := by
  rw [ofReport, chars_append, chars_append, chars_append, chars_ofSummary, chars_ofCards,
    chars_ofIssues, chars_ofSuggestions, ReportView.parts, List.flatMap_append,
    List.flatMap_append, List.flatMap_append, ReportView.ofReport]

/-! ## Tags -/

theorem map_between {α β γ : Type} (opening closing : β) (write : α → List β) (items : List α)
    (f : β → γ) :
    (between opening closing write items).map f =
      between (f opening) (f closing) (fun item => (write item).map f) items := by
  unfold between
  split
  case isTrue => rfl
  case isFalse => rw [List.map_append, List.map_cons, List.map_flatMap, List.map_singleton]

/-- Items that are all written alike are told by their number. -/
theorem between_const {α β : Type} (opening closing : β) (written : List β) (items : List α) :
    between opening closing (fun _ => written) items =
      between opening closing (fun _ => written) (List.replicate items.length ()) := by
  rw [← List.map_const', between_map]

theorem tags_summaryParts (summary : Option String) :
    (summaryParts summary).map (·.tag) =
      if summary.isSome then ["p class=\"quality-summary\"", "/p"] else [] := by
  cases summary <;> rfl

theorem tags_findingParts (issue : QualityIssue) :
    (findingParts (.ofIssue issue)).map (·.tag) =
      findingTags (issue.severityClass, issue.shownRule.isSome) := by
  rw [findingParts, FindingView.ofIssue]
  cases issue.shownRule <;> rfl

theorem tags_cardsParts (report : QualityReport) :
    (cardsParts report.metricCards).map (·.tag) =
      between "div class=\"metrics-grid\"" "/div" (fun _ => cardTags)
        (List.replicate (ReportShape.ofReport report).cards ()) := by
  rw [cardsParts, map_between, QualityReport.metricCards, between_map]
  exact between_const _ _ cardTags _

theorem tags_findingsParts (issues : List QualityIssue) :
    (findingsParts (issues.map FindingView.ofIssue)).map (·.tag) =
      let shapes := issues.map fun issue => (issue.severityClass, issue.shownRule.isSome)
      if shapes.isEmpty then ["div class=\"no-issues\"", "/div"]
      else between "ul class=\"issues\"" "/ul" findingTags shapes := by
  unfold findingsParts
  cases issues with
  | nil => rfl
  | cons issue issues =>
      simp only [List.isEmpty_map]
      rw [if_neg (by simp), if_neg (by simp), between_map, between_map, map_between]
      exact congrArg (between _ _ · _) (funext tags_findingParts)

theorem tags_suggestionsParts (suggestions : List String) :
    (suggestionsParts suggestions).map (·.tag) =
      between "ul class=\"suggestions\"" "/ul" (fun _ => ["li", "/li"])
        (List.replicate suggestions.length ()) := by
  rw [suggestionsParts, map_between]
  exact between_const _ _ ["li", "/li"] _

/-- The tags of the parts that are shown of a report are those of its shape. -/
theorem tags_parts (report : QualityReport) :
    (ReportView.ofReport report).parts.map (·.tag) = (ReportShape.ofReport report).tags := by
  rw [ReportView.parts, List.map_append, List.map_append, List.map_append, ReportView.ofReport,
    tags_summaryParts, tags_cardsParts, tags_findingsParts, tags_suggestionsParts]
  rfl

/-! ## The markup split at its tags -/

/-- Items between two tags end every tag at its bracket if each item does. -/
theorem closes_of_mem_between {α : Type} {opening closing : String} {write : α → List String}
    {items : List α} (atStart : closes false opening.toList = true)
    (atEnd : closes false closing.toList = true)
    (each : ∀ item, ∀ tag ∈ write item, closes false tag.toList = true) :
    ∀ tag ∈ between opening closing write items, closes false tag.toList = true := by
  intro tag member
  unfold between at member
  split at member
  case isTrue => contradiction
  case isFalse =>
    simp only [List.mem_append, List.mem_cons, List.mem_flatMap, List.not_mem_nil,
      or_false] at member
    obtain (rfl | ⟨item, _, inside⟩) | rfl := member
    · exact atStart
    · exact each item tag inside
    · exact atEnd

theorem closes_findingTags (finding : Severity × Bool) :
    ∀ tag ∈ findingTags finding, closes false tag.toList = true := by
  obtain ⟨severity, named⟩ := finding
  cases severity <;> cases named <;> decide +kernel

theorem closes_tags (shape : ReportShape) :
    ∀ tag ∈ shape.tags, closes false tag.toList = true := by
  intro tag member
  simp only [ReportShape.tags, List.mem_append] at member
  obtain ((summary | card) | finding) | suggestion := member
  · split at summary
    case isTrue =>
      have each : ∀ tag ∈ ["p class=\"quality-summary\"", "/p"],
          closes false tag.toList = true := by
        decide +kernel
      exact each tag summary
    case isFalse => contradiction
  · exact closes_of_mem_between rfl rfl (fun _ => by decide +kernel) tag card
  · split at finding
    case isTrue =>
      have each : ∀ tag ∈ ["div class=\"no-issues\"", "/div"],
          closes false tag.toList = true := by
        decide +kernel
      exact each tag finding
    case isFalse => exact closes_of_mem_between rfl rfl closes_findingTags tag finding
  · exact closes_of_mem_between rfl rfl (fun _ => by decide +kernel) tag suggestion

/-- The markup of a report is split into the parts of what it shows. -/
theorem splitChars_ofReport (report : QualityReport) :
    splitChars .text (ofReport report).write.toList =
      ([], (ReportView.ofReport report).parts) := by
  rw [toList_write, chars_ofReport]
  refine splitChars_parts fun part member => closes_tags (.ofReport report) part.tag ?_
  rw [← tags_parts]
  exact List.mem_map_of_mem member

theorem tags_ofReport (report : QualityReport) :
    tags (ofReport report).write = (ReportShape.ofReport report).tags := by
  rw [tags, splitChars_ofReport, tags_parts]

end DocsConsole.Html
