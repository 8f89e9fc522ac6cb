import DocsConsole.Preview.Report
import DocsConsole.Proofs.Html.View
import Mathlib.Data.List.Monad

/-!
# Reports read from their markup

What the markup of a report shows can be read from it: split at its tags, it is a sequence of
parts, and a reader of parts gives the view back.  So two reports with the same markup have the
same view, and the same lines in the terminal.
-/

namespace DocsConsole.Html

/-! ## Readers of parts -/

/-- A reader of parts, which may fail. -/
abbrev Reader (α : Type) := StateT (List Part) Option α

namespace Reader

def next : Reader Part
  | part :: rest => some (part, rest)
  | [] => none

/-- The text after a tag. -/
def textOf (tag : String) : Reader String
  | part :: rest => if part.tag = tag then some (part.text, rest) else none
  | [] => none

/-- Passes a part. -/
def skip (part : Part) : Reader Unit
  | found :: rest => if found = part then some ((), rest) else none
  | [] => none

/-- Items up to a part, no more of them than the fuel. -/
def itemsUntil {α : Type} (closing : Part) (read : Reader α) : Nat → Reader (List α)
  | 0 => failure
  | fuel + 1 =>
      (do skip closing; return []) <|>
        (do return (← read) :: (← itemsUntil closing read fuel))

/-- Items between two parts. -/
def itemsBetween {α : Type} (opening closing : Part) (read : Reader α) : Reader (List α) := do
  skip opening
  itemsUntil closing read (← get).length

/-- The text after a tag and before a part, if there is one. -/
def optionalText (tag : String) (closing : Part) : Reader (Option String) :=
  (do
    let text ← textOf tag
    skip closing
    return some text) <|>
  return none

def card : Reader MetricCard := do
  skip ⟨"div class=\"metric-card\"", ""⟩
  let value ← textOf "div class=\"metric-value\""
  skip ⟨"/div", ""⟩
  let label ← textOf "div class=\"metric-label\""
  skip ⟨"/div", ""⟩
  skip ⟨"/div", "\n"⟩
  return ⟨label, value⟩

def rule : Reader (Option String) :=
  optionalText "code class=\"issue-rule\"" ⟨"/code", ""⟩

/-- The place after the word for it. -/
def place? (text : String) : Option String :=
  if "Line ".toList <+: text.toList then some (String.ofList (text.toList.drop 5)) else none

/-- A finding, whose tag has the class of its severity. -/
def finding : Reader FindingView := do
  let tag ← next
  let severity ← textOf "span class=\"issue-severity\""
  skip ⟨"/span", " "⟩
  let line ← place? (← textOf "span class=\"issue-line\"")
  skip ⟨"/span", " "⟩
  let kind ← textOf "span class=\"issue-type\""
  skip ⟨"/span", ""⟩
  let message ← textOf "p class=\"issue-message\""
  skip ⟨"/p", ""⟩
  let rule ← rule
  skip ⟨"/li", "\n"⟩
  if tag = ⟨findingTag (QualityIssue.severityOfLabel severity), ""⟩ then
    return ⟨severity, line, kind, message, rule⟩
  else failure

def suggestion : Reader String := do
  let suggestion ← textOf "li"
  skip ⟨"/li", "\n"⟩
  return suggestion

def summary : Reader (Option String) :=
  optionalText "p class=\"quality-summary\"" ⟨"/p", "\n"⟩

def cards : Reader (List MetricCard) :=
  itemsBetween ⟨"div class=\"metrics-grid\"", "\n"⟩ ⟨"/div", "\n"⟩ card <|> return []

/-- The findings, or the text that says that there are none. -/
def findings : Reader (List FindingView) :=
  (do
    skip ⟨"div class=\"no-issues\"", "No issues found. Great job!"⟩
    skip ⟨"/div", "\n"⟩
    return []) <|>
  itemsBetween ⟨"ul class=\"issues\"", "\n"⟩ ⟨"/ul", "\n"⟩ finding

def suggestions : Reader (List String) :=
  itemsBetween ⟨"ul class=\"suggestions\"", "\n"⟩ ⟨"/ul", "\n"⟩ suggestion <|> return []

def view : Reader ReportView := do
  return ⟨← summary, ← cards, ← findings, ← suggestions⟩

end Reader

/-- What some markup shows of a report; nothing may be left of the markup. -/
def ReportView.read? (html : String) : Option ReportView :=
  match splitChars .text html.toList with
  | ([], parts) =>
      match Reader.view parts with
      | some (view, []) => some view
      | _ => none
  | _ => none

/-! ## Reading what was written -/

namespace Reader

theorem run_next (part : Part) (rest : List Part) : next.run (part :: rest) = some (part, rest) :=
  rfl

theorem run_textOf (tag text : String) (rest : List Part) :
    (textOf tag).run (⟨tag, text⟩ :: rest) = some (text, rest) :=
  if_pos rfl

theorem run_skip (part : Part) (rest : List Part) :
    (skip part).run (part :: rest) = some ((), rest) :=
  if_pos rfl

theorem run_textOf_of_ne {tag : String} {parts : List Part}
    (other : ∀ part ∈ parts.head?, part.tag ≠ tag) : (textOf tag).run parts = none := by
  cases parts with
  | nil => rfl
  | cons part rest => exact if_neg (other part rfl)

theorem run_skip_of_ne {part : Part} {parts : List Part}
    (other : ∀ found ∈ parts.head?, found.tag ≠ part.tag) : (skip part).run parts = none := by
  cases parts with
  | nil => rfl
  | cons found rest => exact if_neg fun same => other found rfl (congrArg Part.tag same)

theorem run_optionalText {tag : String} (closing : Part) (text : Option String)
    {rest : List Part} (other : ∀ part ∈ rest.head?, part.tag ≠ tag) :
    (optionalText tag closing).run (textParts tag closing text ++ rest) = some (text, rest) := by
  cases text with
  | none =>
      have absent := run_textOf_of_ne other
      simp [optionalText, textParts, absent]
  | some text => simp [optionalText, textParts, run_textOf, run_skip]

/-! ### Items -/

section Items

variable {α : Type} {opening closing : Part} {read : Reader α} {write : α → List Part}
  (each : ∀ item rest, read.run (write item ++ rest) = some (item, rest))
  (starts : ∀ item, ∃ part ∈ (write item).head?, part.tag ≠ closing.tag)

include starts

theorem length_le_flatMap (items : List α) : items.length ≤ (items.flatMap write).length := by
  induction items with
  | nil => exact Nat.le_refl 0
  | cons item items induction =>
      obtain ⟨part, first, _⟩ := starts item
      have written : 0 < (write item).length :=
        List.length_pos_of_mem (List.mem_of_mem_head? first)
      rw [List.flatMap_cons, List.length_append, List.length_cons]
      omega

include each

/-- Items are read one after another, if each of them is read back and none starts with the tag
that closes them. -/
theorem run_itemsUntil (items : List α) (rest : List Part) {fuel : Nat}
    (enough : items.length < fuel) :
    (itemsUntil closing read fuel).run (items.flatMap write ++ closing :: rest) =
      some (items, rest) := by
  obtain ⟨less, rfl⟩ : ∃ less, fuel = less + 1 := ⟨fuel - 1, by omega⟩
  induction items generalizing less with
  | nil => simp [itemsUntil, run_skip]
  | cons item items induction =>
      rw [List.length_cons] at enough
      obtain ⟨less, rfl⟩ : ∃ fewer, less = fewer + 1 := ⟨less - 1, by omega⟩
      have others := induction less (by omega)
      have goesOn : (skip closing).run
          (write item ++ (items.flatMap write ++ closing :: rest)) = none := by
        obtain ⟨part, first, notClosing⟩ := starts item
        refine run_skip_of_ne fun found member => ?_
        rw [List.head?_append, Option.mem_def.mp first, Option.some_or,
          Option.mem_some_iff] at member
        exact member ▸ notClosing
      rw [List.flatMap_cons, List.append_assoc, itemsUntil]
      simp [goesOn, each, others]

theorem run_itemsBetween {items : List α} (written : items.isEmpty = false) (rest : List Part) :
    (itemsBetween opening closing read).run (between opening closing write items ++ rest) =
      some (items, rest) := by
  have enough : items.length < (items.flatMap write ++ closing :: rest).length := by
    have := length_le_flatMap starts items
    rw [List.length_append, List.length_cons]
    omega
  have all := run_itemsUntil each starts items rest enough
  rw [between, written, if_neg Bool.false_ne_true, List.cons_append, List.cons_append,
    List.append_assoc, List.singleton_append]
  generalize items.flatMap write ++ closing :: rest = parts at all
  simp [itemsBetween, run_skip, all]

/-- Items that are left out when there are none are read back, if another tag follows. -/
theorem run_itemsBetween_orElse (items : List α) {rest : List Part}
    (other : ∀ part ∈ rest.head?, part.tag ≠ opening.tag) :
    (itemsBetween opening closing read <|> return []).run
      (between opening closing write items ++ rest) = some (items, rest) := by
  rw [StateT.run_orElse]
  cases written : items.isEmpty with
  | false => rw [run_itemsBetween each starts written rest]; rfl
  | true =>
      have absent := run_skip_of_ne other
      rw [List.isEmpty_iff.mp written]
      simp [between, itemsBetween, absent]

end Items

/-! ### The parts of a report -/

theorem run_card (item : MetricCard) (rest : List Part) :
    card.run (cardParts item ++ rest) = some (item, rest) := by
  simp [card, cardParts, run_textOf, run_skip]

theorem run_suggestion (item : String) (rest : List Part) :
    suggestion.run (suggestionParts item ++ rest) = some (item, rest) := by
  simp [suggestion, suggestionParts, run_textOf, run_skip]

theorem place?_append (line : String) : place? ("Line " ++ line) = some line := by
  have rest : ("Line ".toList ++ line.toList).drop 5 = line.toList := rfl
  rw [place?, String.toList_append, if_pos (List.prefix_append _ _), rest, String.ofList_toList]

theorem run_finding (item : FindingView) (rest : List Part) :
    finding.run (findingParts item ++ rest) = some (item, rest) := by
  have named : rule.run (ruleParts item.rule ++ ⟨"/li", "\n"⟩ :: rest) =
      some (item.rule, ⟨"/li", "\n"⟩ :: rest) :=
    run_optionalText ⟨"/code", ""⟩ item.rule (by simp)
  simp [finding, findingParts, run_textOf, run_skip, run_next, place?_append, named]

theorem run_summary (text : Option String) {rest : List Part}
    (other : ∀ part ∈ rest.head?, part.tag ≠ "p class=\"quality-summary\"") :
    summary.run (summaryParts text ++ rest) = some (text, rest) :=
  run_optionalText ⟨"/p", "\n"⟩ text other

theorem run_cards (items : List MetricCard) {rest : List Part}
    (other : ∀ part ∈ rest.head?, part.tag ≠ "div class=\"metrics-grid\"") :
    cards.run (cardsParts items ++ rest) = some (items, rest) :=
  run_itemsBetween_orElse run_card (fun _ => ⟨_, rfl, by simp⟩) items other

theorem run_suggestions (items : List String) :
    suggestions.run (suggestionsParts items) = some (items, []) := by
  have ended : ∀ part ∈ ([] : List Part).head?, part.tag ≠ "ul class=\"suggestions\"" := by simp
  have all : suggestions.run (suggestionsParts items ++ []) = some (items, []) :=
    run_itemsBetween_orElse run_suggestion (fun _ => ⟨_, rfl, by simp⟩) items ended
  rwa [List.append_nil] at all

/-- The measures start with their tag, if there are any. -/
theorem head?_cardsParts (items : List MetricCard) (rest : List Part) :
    ∀ part ∈ (cardsParts items ++ rest).head?,
      part.tag = "div class=\"metrics-grid\"" ∨ part ∈ rest.head? := by
  intro part member
  unfold cardsParts between at member
  split at member
  case isTrue => exact .inr member
  case isFalse => exact .inl (congrArg Part.tag (Option.some.inj member).symm)

/-- The findings start with the tag of a list or with that of the text that there are none. -/
theorem head?_findingsParts (items : List FindingView) (rest : List Part) :
    ∀ part ∈ (findingsParts items ++ rest).head?,
      part.tag = "div class=\"no-issues\"" ∨ part.tag = "ul class=\"issues\"" := by
  unfold findingsParts between
  cases items.isEmpty <;> simp

theorem run_findings (items : List FindingView) (rest : List Part) :
    findings.run (findingsParts items ++ rest) = some (items, rest) := by
  rw [findings, StateT.run_orElse]
  cases written : items.isEmpty with
  | true =>
      rw [findingsParts, List.isEmpty_iff.mp written]
      simp [run_skip]
  | false =>
      have starts (item : FindingView) :
          ∃ part ∈ (findingParts item).head?, part.tag ≠ (⟨"/ul", "\n"⟩ : Part).tag := by
        refine ⟨_, rfl, ?_⟩
        cases QualityIssue.severityOfLabel item.severity <;> decide
      have someFound :
          (skip ⟨"div class=\"no-issues\"", "No issues found. Great job!"⟩).run
            (between ⟨"ul class=\"issues\"", "\n"⟩ ⟨"/ul", "\n"⟩ findingParts items ++ rest) =
              none := by
        refine run_skip_of_ne ?_
        simp [between, written]
      rw [findingsParts, written, if_neg Bool.false_ne_true,
        run_itemsBetween run_finding starts written rest, StateT.run_bind, someFound]
      rfl

/-- The reader of what is shown reads all parts of it. -/
theorem run_view (shown : ReportView) : view.run shown.parts = some (shown, []) := by
  have atFindings :=
    head?_findingsParts shown.findings (suggestionsParts shown.suggestions)
  have cardsRead := run_cards shown.cards fun part member => by
    obtain none | list := atFindings part member
    · simp [none]
    · simp [list]
  have summaryRead := run_summary shown.summary fun part member => by
    obtain grid | findings := head?_cardsParts shown.cards _ part member
    · simp [grid]
    · obtain none | list := atFindings part findings
      · simp [none]
      · simp [list]
  rw [ReportView.parts, List.append_assoc, List.append_assoc]
  simp [view, summaryRead, cardsRead, run_findings, run_suggestions]

end Reader

theorem read?_ofReport (report : QualityReport) :
    ReportView.read? (ofReport report).write = some (.ofReport report) := by
  have parts : Reader.view (ReportView.ofReport report).parts = some (.ofReport report, []) :=
    Reader.run_view (.ofReport report)
  rw [ReportView.read?, splitChars_ofReport]
  simp only [parts]

/-! ## Lines of the terminal -/

open Preview

theorem issueLines_congr {first second : QualityIssue}
    (same : FindingView.ofIssue first = .ofIssue second) :
    issueLines first = issueLines second := by
  obtain ⟨severity, line, kind, message, rule⟩ := FindingView.mk.inj same
  have severityClass : first.severityClass = second.severityClass :=
    congrArg QualityIssue.severityOfLabel severity
  unfold issueLines
  rw [severityClass, severity, line, kind, message, rule]

theorem issuesLines_congr {first second : List QualityIssue}
    (same : first.map FindingView.ofIssue = second.map .ofIssue) :
    issuesLines first = issuesLines second := by
  have number : first.length = second.length := by
    simpa only [List.length_map] using congrArg List.length same
  have isEmpty : first.isEmpty = second.isEmpty := by
    simpa only [List.isEmpty_map] using congrArg List.isEmpty same
  have findings : first.flatMap issueLines = second.flatMap issueLines := by
    clear number isEmpty
    induction first generalizing second with
    | nil => rw [List.map_eq_nil_iff.mp same.symm]
    | cons issue others induction =>
        obtain ⟨found, rest, rfl, head, tail⟩ := List.map_eq_cons_iff.mp same.symm
        rw [List.flatMap_cons, List.flatMap_cons, issueLines_congr head, induction tail.symm]
  unfold issuesLines
  rw [number, isEmpty, findings]

/-- Reports that show the same have the same lines in the terminal. -/
theorem reportLines_congr {first second : QualityReport}
    (same : ReportView.ofReport first = .ofReport second) :
    reportLines first = reportLines second := by
  obtain ⟨summary, cards, findings, suggestions⟩ := ReportView.mk.inj same
  unfold reportLines
  rw [summary, cards, issuesLines_congr findings, suggestions]

/-! ## Markup and view -/

/-- A report whose texts look like markup. -/
def forgedReport : QualityReport where
  summary := some "</p><li class=\"issue severity-info\">"
  metrics := some [("line_count", .string "<b>&amp;"), ("empty", .null)]
  issues := some [⟨some "blocker", none, some (.string "0"), some "", some "</li><li>"⟩]
  suggestions := some ["&lt;"]

/-- A report that says the same in other words. -/
def respelledReport : QualityReport where
  summary := some "</p><li class=\"issue severity-info\">"
  metrics := some [("LINE COUNT", .string "<b>&amp;")]
  issues := some [⟨some "Blocker", some "No description available", none, some "General",
    some "</li><li>"⟩]
  suggestions := some ["&lt;"]

end DocsConsole.Html
