import DocsConsole.Proofs.Console.Run
import DocsConsole.Proofs.Unicode.Trimming

/-!
# Submissions

The user submits one of four things: a request for documentation, a token, a pull
request or a file to analyse.  Each has its conditions, in order.  The first one that
fails is what the user is told, and nothing else happens.  If all hold, one call is
started, and what it sends is what the session holds at that moment.
-/

namespace DocsConsole

/-! ## Conditions -/

/-- What the user submits to the backend. -/
inductive Submission where
  | documentation (projectName instructions : String)
  | connection (token : String)
  | pullRequest (title description commitMessage : String)
  | analysis

/-- A condition of a submission, with what the user is told when it fails. -/
structure Condition where
  refusal : Refusal
  holds : Bool

/-- What the user is told of some conditions: the first one that fails counts. -/
def Condition.firstFailure? (conditions : List Condition) : Option Refusal :=
  (conditions.find? (!·.holds)).map (·.refusal)

open Condition

@[simp] theorem Condition.firstFailure?_nil : firstFailure? [] = none := rfl

@[simp] theorem Condition.firstFailure?_cons (condition : Condition)
    (conditions : List Condition) :
    firstFailure? (condition :: conditions) =
      if condition.holds then firstFailure? conditions else some condition.refusal := by
  unfold firstFailure?
  cases holds : condition.holds <;> simp [holds]

/-- Whether something but white space was typed. -/
def typed (text : String) : Bool :=
  text.toList.any (!Unicode.isSpace ·)

namespace Submission

def action : Submission → Action
  | .documentation projectName instructions => .request (.generateDocs projectName instructions)
  | .connection token => .request (.connect token)
  | .pullRequest title description commitMessage =>
      .request (.openPullRequest title description commitMessage)
  | .analysis => .analyze

/-- The conditions of a submission, in order. -/
def conditions (session : Session) : Submission → List Condition
  | .documentation projectName _ =>
      [⟨.noFiles, session.uploads ≠ []⟩,
        ⟨.missingProjectName, session.purpose = .readme → typed projectName⟩]
  | .connection token => [⟨.missingToken, typed token⟩]
  | .pullRequest title _ commitMessage =>
      [⟨.notConnected, session.token?.isSome⟩,
        ⟨.nothingGenerated, session.generated.isSome⟩,
        ⟨.noTarget, session.github.repository.isSome && session.github.branch.isSome⟩,
        ⟨.missingPullRequestFields, typed title && typed commitMessage⟩]
  | .analysis => [⟨.noQualityFile, session.qualityFile.isSome⟩]

/-- A call sends what was submitted together with what the session holds. -/
inductive SentBy (session : Session) : Submission → Backend.Call → Prop where
  | documentation {typedName instructions projectName : String}
      (trimmed : Unicode.Trims typedName projectName) :
      SentBy session (.documentation typedName instructions)
        (.generateDocs ⟨session.uploads, session.purpose, projectName, instructions⟩)
  | connection {typedToken token : String} (trimmed : Unicode.Trims typedToken token) :
      SentBy session (.connection typedToken) (.connect token)
  | pullRequest {typedTitle description typedMessage title commitMessage token : String}
      {repository branch : String} {document : GeneratedDocument}
      (held : session.token? = some token)
      (generated : session.generated = some document)
      (repositoryChosen : session.github.repository = some repository)
      (branchChosen : session.github.branch = some branch)
      (titleTrimmed : Unicode.Trims typedTitle title)
      (messageTrimmed : Unicode.Trims typedMessage commitMessage) :
      SentBy session (.pullRequest typedTitle description typedMessage)
        (.openPullRequest token
          ⟨repository, branch, document.content, document.purpose, title, description,
            commitMessage⟩)
  | analysis {file : UploadedFile} (chosen : session.qualityFile = some file) :
      SentBy session .analysis (.analyzeQuality file)

end Submission

/-- The call that a submission leads to, or why it is refused. -/
def Session.callFor (session : Session) : Submission → Except Refusal Backend.Call
  | .documentation projectName instructions =>
      (session.docsRequest projectName instructions).map .generateDocs
  | .connection token => (Session.connectRequest token).map .connect
  | .pullRequest title description commitMessage =>
      match session.pullRequest title description commitMessage, session.token? with
      | .ok draft, some token => .ok (.openPullRequest token draft)
      | .ok _, none => .error .notConnected
      | .error refusal, _ => .error refusal
  | .analysis => session.qualityRequest.map .analyzeQuality

theorem typed_eq_not_isBlank (text : String) : typed text = !isBlank text := by
  rw [isBlank_eq_all, typed, List.not_all_eq_any_not]

namespace Session

variable (session : Session)

/-- What some conditions decide: a refusal if one of them fails, and else a call. -/
inductive Decided (conditions : List Condition) (sends : Backend.Call → Prop) :
    Except Refusal Backend.Call → Prop where
  | refused {refusal : Refusal} (fails : firstFailure? conditions = some refusal) :
      Decided conditions sends (.error refusal)
  | sent {call : Backend.Call} (holds : firstFailure? conditions = none) (sent : sends call) :
      Decided conditions sends (.ok call)

theorem docsRequest_decided (projectName instructions : String) :
    Decided ((Submission.documentation projectName instructions).conditions session)
      ((Submission.documentation projectName instructions).SentBy session)
      ((session.docsRequest projectName instructions).map .generateDocs) := by
  unfold docsRequest
  split
  case isTrue empty =>
    have nothing : session.uploads = [] := List.isEmpty_iff.mp empty
    exact .refused (by simp [Submission.conditions, nothing])
  case isFalse present =>
    have something : session.uploads ≠ [] := fun nothing => present (by simp [nothing])
    split
    case isTrue unnamed =>
      apply Decided.refused
      simp [Submission.conditions, something, typed_eq_not_isBlank, unnamed]
    case isFalse named =>
      refine .sent ?_ (.documentation (Unicode.trims_trim projectName))
      simpa [Submission.conditions, something, typed_eq_not_isBlank] using named

theorem connectRequest_decided (token : String) :
    Decided ((Submission.connection token).conditions session)
      ((Submission.connection token).SentBy session)
      ((Session.connectRequest token).map .connect) := by
  unfold connectRequest
  split
  case isTrue blank =>
    exact .refused (by simp [Submission.conditions, typed_eq_not_isBlank, blank])
  case isFalse filled =>
    refine .sent ?_ (.connection (Unicode.trims_trim token))
    simpa [Submission.conditions, typed_eq_not_isBlank] using filled

theorem qualityRequest_decided :
    Decided (Submission.analysis.conditions session) (Submission.analysis.SentBy session)
      (session.qualityRequest.map .analyzeQuality) := by
  unfold qualityRequest
  split
  case h_1 file chosen =>
    exact .sent (by simp [Submission.conditions, chosen]) (.analysis chosen)
  case h_2 unchosen =>
    exact .refused (by simp [Submission.conditions, unchosen])

theorem pullRequest_decided (title description commitMessage : String) :
    Decided ((Submission.pullRequest title description commitMessage).conditions session)
      ((Submission.pullRequest title description commitMessage).SentBy session)
      (session.callFor (.pullRequest title description commitMessage)) := by
  simp only [Submission.conditions, callFor, pullRequest, isConnected]
  obtain held | ⟨token, held⟩ := session.token?.eq_none_or_eq_some
  · simp only [held]
    exact .refused (by simp)
  obtain generated | ⟨document, generated⟩ := session.generated.eq_none_or_eq_some
  · simp only [held, generated]
    exact .refused (by simp)
  obtain unchosen | ⟨repository, repositoryChosen⟩ :=
    session.github.repository.eq_none_or_eq_some
  · simp only [held, generated, unchosen]
    exact .refused (by simp)
  obtain unchosen | ⟨branch, branchChosen⟩ := session.github.branch.eq_none_or_eq_some
  · simp only [held, generated, repositoryChosen, unchosen]
    exact .refused (by simp)
  have filled : (typed title && typed commitMessage) =
      !(isBlank title || isBlank commitMessage) := by
    simp [typed_eq_not_isBlank]
  simp only [held, generated, repositoryChosen, branchChosen, filled]
  cases blank : isBlank title || isBlank commitMessage with
  | true => exact .refused (by simp)
  | false =>
      refine .sent (by simp) ?_
      exact .pullRequest held generated repositoryChosen branchChosen
        (Unicode.trims_trim title) (Unicode.trims_trim commitMessage)

theorem callFor_decided (submission : Submission) :
    Decided (submission.conditions session) (submission.SentBy session)
      (session.callFor submission) := by
  cases submission with
  | documentation projectName instructions =>
      rw [callFor]
      exact session.docsRequest_decided projectName instructions
  | connection token =>
      rw [callFor]
      exact session.connectRequest_decided token
  | pullRequest title description commitMessage =>
      exact session.pullRequest_decided title description commitMessage
  | analysis =>
      rw [callFor]
      exact session.qualityRequest_decided

end Session

/-! ## Handling a submission -/

namespace Console

variable (console : Console) (moment : Moment)

/-- The effect of a submission is to start its call, or to tell why it is refused. -/
theorem effect_submission (submission : Submission)
    (counts : submission = .analysis → console.session.tab = .quality) :
    console.effect moment submission.action =
      console.startOrRefuse moment (console.session.callFor submission) := by
  cases submission with
  | documentation projectName instructions => rfl
  | connection token => rfl
  | pullRequest title description commitMessage =>
      change console.openPullRequest moment title description commitMessage = _
      cases drafted : console.session.pullRequest title description commitMessage with
      | error refusal =>
          simp [openPullRequest, Session.callFor, drafted, startOrRefuse]
      | ok draft =>
          cases held : console.session.token? <;>
            simp [openPullRequest, startWithToken, Session.callFor, drafted, held, startOrRefuse]
  | analysis =>
      rw [Submission.action, effect_analyze, if_pos (counts rfl)]
      rfl

/-- A submission is handled in one of two ways, and its conditions decide which.  The
first one that fails is what the user is told, and no more than that happens.  If all
hold, one call is started, which sends what the session holds. -/
theorem handle_submission (submission : Submission) (closed : console.helpOpen = false)
    (counts : submission = .analysis → console.session.tab = .quality) :
    match Condition.firstFailure? (submission.conditions console.session) with
    | some refusal =>
        SameWork (console.handle moment submission.action) console ∧
          (console.handle moment submission.action).statusBar.toast =
            some ⟨.error, refusal.message, moment.now⟩
    | none =>
        ∃ call, submission.SentBy console.session call ∧
          (console.handle moment submission.action).started =
            console.started ++ [(console.session.loading.next, call)] ∧
          (console.handle moment submission.action).session =
            { console.session with
              loading :=
                ⟨console.session.loading.pending ++ [(console.session.loading.next, label call)],
                  console.session.loading.next + 1⟩ } ∧
          (console.handle moment submission.action).statusBar = console.statusBar := by
  have quiet : submission.action.quiet = true := by cases submission <;> rfl
  have work : SameWork (console.handle moment submission.action) _ :=
    handle_sameWork (Or.inl closed) quiet
  have bar : (console.handle moment submission.action).statusBar = _ :=
    handle_statusBar (Or.inl closed) quiet
  rw [console.effect_submission moment submission counts] at work bar
  have decided := console.session.callFor_decided submission
  cases result : console.session.callFor submission with
  | error refusal =>
      rw [result] at decided work bar
      cases decided with
      | refused fails =>
          rw [fails]
          exact ⟨work.trans ⟨rfl, rfl, rfl, rfl⟩, by rw [bar]; rfl⟩
  | ok call =>
      rw [result] at decided work bar
      cases decided with
      | sent holds sent =>
          rw [holds]
          exact ⟨call, sent, work.started, work.session, bar⟩

/-- A console with a branch chosen and something generated for another purpose than the
one that is set. -/
def readyForPullRequest : Console :=
  let console := Console.initial .standard ⟨⟨[], []⟩, ""⟩
  { console with
    session :=
      { console.session with
        github := ⟨.connected "k", ["x"], ["main"], some "x", some "main"⟩
        generated := some ⟨"c", .inlineComments, ⟨0, 0, 0⟩⟩ } }

theorem handle_submission_of_pullRequest :
    let submission : Submission := .pullRequest " t" "" "u\n"
    let next := readyForPullRequest.handle .midnight submission.action
    readyForPullRequest.helpOpen = false ∧
      ∃ call, submission.SentBy readyForPullRequest.session call ∧ next.started = [(0, call)] ∧
        next.session =
          { readyForPullRequest.session with loading := ⟨[(0, "Creating pull request")], 1⟩ } ∧
        next.statusBar = readyForPullRequest.statusBar := by
  intro submission next
  have holding :
      firstFailure? (submission.conditions readyForPullRequest.session) = none := by
    decide
  have handled := readyForPullRequest.handle_submission .midnight submission rfl
    (by simp [submission])
  rw [holding] at handled
  obtain ⟨call, sent, started, session, told⟩ := handled
  refine ⟨rfl, call, sent, started, ?_, told⟩
  change Submission.SentBy _ (.pullRequest " t" "" "u\n") call at sent
  cases sent
  exact session

end Console

end DocsConsole
