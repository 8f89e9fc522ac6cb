import DocsConsole.Proofs.Console.Submission
import DocsConsole.Proofs.Console.Provenance
import DocsConsole.Proofs.Files.Saving

/-!
# What was generated

A completed generation brings the content together with the purpose that was set when
it was asked for.  The session keeps both as they are until the next generation is
completed, whichever was asked for first.  So the content is saved under the name that
its own purpose gives it, even if the user has taken the other purpose since.
-/

namespace DocsConsole

open FileSystem

/-- The document that a completion brings at a moment. -/
def Happening.generated? (moment : Moment) : Happening → Option GeneratedDocument
  | .completed _ (.generateDocs request) (.ok (.content text)) =>
      some ⟨text, request.purpose, moment.clock⟩
  | _ => none

/-- The document that an outcome brings at a moment. -/
def Outcome.generated? (moment : Moment) : Outcome → Option GeneratedDocument
  | .generated content purpose => some ⟨content, purpose, moment.clock⟩
  | _ => none

/-- The document that an action brings at a moment. -/
def Action.generated? (moment : Moment) : Action → Option GeneratedDocument
  | .completed _ outcome => outcome.generated? moment
  | _ => none

theorem Outcome.generated?_ofResult (moment : Moment) (ticket : Ticket) (call : Backend.Call)
    (result : Except Backend.CallFailure Backend.Answer) :
    (ofResult call result).generated? moment =
      (Happening.completed ticket call result).generated? moment := by
  rcases result with failure | answer
  · cases call <;> rfl
  · cases call with
    | connect token =>
        rcases answer with content | report | ⟨success, reason⟩ | names | pullRequest
        case connection => cases success <;> rfl
        all_goals rfl
    | openPullRequest token draft =>
        rcases answer with content | report | connection | names | ⟨success, url, reason⟩
        case pullRequest => cases success <;> rfl
        all_goals rfl
    | _ => cases answer <;> rfl

/-- Only a completion brings a document. -/
theorem Action.generated?_of_newsless {moment : Moment} {action : Action}
    (newsless : ∀ ticket outcome, action ≠ .completed ticket outcome) :
    action.generated? moment = none := by
  cases action with
  | completed ticket outcome => exact (newsless ticket outcome rfl).elim
  | _ => rfl

theorem Happening.generated?_of_action {moment : Moment} {happening : Happening}
    {action : Action} (acts : happening.action? = some action) :
    happening.generated? moment = action.generated? moment := by
  cases happening with
  | completed ticket call result =>
      cases acts
      exact (Outcome.generated?_ofResult moment ticket call result).symm
  | _ =>
      have newsless := Happening.action?_ne_completed acts rfl
      rw [Action.generated?_of_newsless newsless]
      rfl

/-! ## What changes the generated document -/

namespace Console

variable (console : Console) (moment : Moment)

theorem startOrRefuse_generated (result : Except Refusal Backend.Call) :
    (console.startOrRefuse moment result).session.generated = console.session.generated := by
  cases result <;> rfl

theorem startWithToken_generated (call : String → Backend.Call) :
    (console.startWithToken moment call).session.generated = console.session.generated := by
  unfold startWithToken
  split <;> rfl

theorem fulfil_generated (request : Request) :
    (console.fulfil moment request).session.generated = console.session.generated := by
  cases request with
  | addPaths paths target => exact (console.addPaths_sameDealings moment paths target).generated
  | removeFile index => exact (console.removeFile_sameDealings moment index).generated
  | removeQualityFile => exact (console.removeQualityFile_sameDealings moment).generated
  | generateDocs projectName instructions => rw [fulfil, startOrRefuse_generated]
  | connect token => rw [fulfil, startOrRefuse_generated]
  | selectRepository name =>
      simp only [fulfil, selectRepository]
      split
      · exact startWithToken_generated _ moment _
      · rfl
  | selectBranch name => rfl
  | openPullRequest title description commitMessage =>
      simp only [fulfil, openPullRequest]
      split
      · exact console.startWithToken_generated moment _
      · rfl

theorem conclude_generated (outcome : Outcome) :
    (console.conclude moment outcome).session.generated =
      (outcome.generated? moment).or console.session.generated := by
  cases outcome with
  | connected token => exact startWithToken_generated _ moment _
  | repositoriesLoaded token repositories =>
      simp only [conclude]
      split <;> rfl
  | branchesLoaded repository branches =>
      simp only [conclude, Session.applyBranches]
      split <;> rfl
  | _ => rfl

theorem effect_generated (action : Action) :
    (console.effect moment action).session.generated =
      (action.generated? moment).or console.session.generated := by
  cases action with
  | analyze =>
      rw [effect_analyze]
      split
      · exact console.startOrRefuse_generated moment _
      · rfl
  | disconnect =>
      rw [effect_disconnect]
      split <;> rfl
  | request asked => exact console.fulfil_generated moment asked
  | completed ticket outcome =>
      exact (console.released ticket).conclude_generated moment outcome
  | _ => exact (console.effect_sameDealings moment rfl).generated

end Console

/-! ## How documentation is asked for -/

theorem Request.documentation_of_call? {session : Session} {request : Request}
    {docs : DocsRequest} (calls : request.call? session = some (.generateDocs docs)) :
    ∃ projectName instructions, request = .generateDocs projectName instructions ∧
      session.docsRequest projectName instructions = .ok docs := by
  cases request with
  | generateDocs projectName instructions =>
      refine ⟨projectName, instructions, rfl, ?_⟩
      cases built : session.docsRequest projectName instructions with
      | error refusal => simp [call?, built, Except.map, Except.toOption] at calls
      | ok made => simpa [call?, built, Except.map, Except.toOption] using calls
  | connect token =>
      cases built : Session.connectRequest token <;>
        simp [call?, built, Except.map, Except.toOption] at calls
  | selectRepository name =>
      obtain ⟨_, _, lists⟩ := Option.bind_eq_some_iff.mp calls
      obtain ⟨_, _, other⟩ := Option.map_eq_some_iff.mp lists
      contradiction
  | openPullRequest title description commitMessage =>
      obtain ⟨_, _, opens⟩ := Option.bind_eq_some_iff.mp calls
      obtain ⟨_, _, other⟩ := Option.map_eq_some_iff.mp opens
      contradiction
  | _ => contradiction

theorem Action.eq_request_of_documentation {session : Session} {action : Action}
    {docs : DocsRequest} (calls : action.call? session = some (.generateDocs docs)) :
    ∃ request, action = .request request := by
  cases action with
  | request asked => exact ⟨asked, rfl⟩
  | analyze =>
      cases built : session.qualityRequest <;>
        simp [call?, built, Except.map, Except.toOption] at calls
  | completed ticket outcome => cases outcome <;> simp [call?, Outcome.followUp?] at calls
  | _ => contradiction

namespace Stage

variable {stage : Stage}

/-- The document that a stage brings. -/
def generated? (stage : Stage) : Option GeneratedDocument :=
  stage.happening.generated? stage.moment

/-- The document that was brought last in some stages. -/
def lastGenerated? (past : List Stage) : Option GeneratedDocument :=
  past.findSome? generated?

/-- A stage brings a document, or leaves the one that is there. -/
theorem after_generated (stage : Stage) :
    stage.after.session.generated = stage.generated?.or stage.before.session.generated := by
  cases acts : stage.happening.action? with
  | none =>
      have nothing : stage.generated? = none := by
        unfold generated?
        cases happens : stage.happening with
        | completed ticket call result =>
            rw [happens] at acts
            contradiction
        | _ => rfl
      rw [nothing]
      exact (after_sameDealings_of_no_action acts).generated
  | some action =>
      rw [generated?, Happening.generated?_of_action acts, after_eq_handle acts]
      rcases stage.before.handled stage.moment action with
        ⟨_, passes, _, same⟩ | ⟨_, _, same⟩ | ⟨request, asking, asks, unchanged, same⟩
      · have newsless : ∀ ticket outcome, action ≠ .completed ticket outcome := by
          rintro ticket outcome rfl
          contradiction
        rw [Action.generated?_of_newsless newsless]
        exact same.sameDealings.generated
      · rw [← Console.effect_generated]
        exact same.sameDealings.generated
      · have newsless : ∀ ticket outcome, action ≠ .completed ticket outcome := by
          rintro ticket outcome rfl
          have mayAsk := (Console.askPanel_asks (Console.step_of_asks asks).2.1).1
          contradiction
        rw [Action.generated?_of_newsless newsless, same.sameDealings.generated,
          asking.fulfil_generated stage.moment request]
        exact unchanged.sameDealings.generated

/-- Documentation is asked for by the panel only, from what the session holds then. -/
theorem documentation_of_sends {ticket : Ticket} {docs : DocsRequest}
    (sends : stage.Sends (ticket, .generateDocs docs)) :
    ∃ projectName instructions,
      stage.request? = some (.generateDocs projectName instructions) ∧
        stage.before.session.docsRequest projectName instructions = .ok docs := by
  have calls := call?_of_sends sends
  unfold call? at calls
  split at calls
  case h_1 request asks =>
    obtain ⟨projectName, instructions, rfl, built⟩ := Request.documentation_of_call? calls
    exact ⟨projectName, instructions, asks, built⟩
  case h_2 action _ acts =>
    split at calls
    · contradiction
    · obtain ⟨request, rfl⟩ := Action.eq_request_of_documentation calls
      exact (Happening.action?_ne_request acts request rfl).elim
  case h_3 => contradiction

/-- The purpose that is sent is the one that is set. -/
theorem purpose_of_sends {ticket : Ticket} {docs : DocsRequest}
    (sends : stage.Sends (ticket, .generateDocs docs)) :
    docs.purpose = stage.before.session.purpose := by
  obtain ⟨projectName, instructions, _, built⟩ := documentation_of_sends sends
  have decided := stage.before.session.docsRequest_decided projectName instructions
  rw [built] at decided
  cases decided with
  | sent _ sent =>
      cases sent
      rfl

end Stage

/-! ## In a run -/

namespace Run

variable {past : List Stage} {console : Console}

/-- The session holds the document that was brought last. -/
theorem generated_eq (run : Run past console) :
    console.session.generated = Stage.lastGenerated? past := by
  induction run with
  | launched settings workspace moment files qualityFile =>
      exact (Console.load_sameDealings _ moment files qualityFile).generated
  | next stage run answers induction =>
      rw [stage.after_generated, induction]
      unfold Stage.lastGenerated?
      rw [List.findSome?_cons]
      cases stage.generated? <;> rfl

/-- Until a generation is completed nothing is there. -/
theorem generated_eq_none (run : Run past console)
    (ungenerated : ∀ stage ∈ past, stage.generated? = none) :
    console.session.generated = none := by
  rw [run.generated_eq]
  exact List.findSome?_eq_none_iff.mpr ungenerated

/-- A document stays until another one is brought, and its purpose is the one that was
set when it was asked for. -/
theorem generated_of_completed {since earlier : List Stage} {completing : Stage}
    {ticket : Ticket} {docs : DocsRequest} {text : String}
    (run : Run (since ++ completing :: earlier) console)
    (completes : completing.happening =
      .completed ticket (.generateDocs docs) (.ok (.content text)))
    (ungenerated : ∀ stage ∈ since, stage.generated? = none) :
    ∃ between sent before, earlier = between ++ sent :: before ∧
      sent.Sends (ticket, .generateDocs docs) ∧
      console.session.generated =
        some ⟨text, sent.before.session.purpose, completing.moment.clock⟩ := by
  have started : (ticket, .generateDocs docs) ∈ completing.before.started := by
    cases run.of_append.2 with
    | next completing run answers =>
        rw [completes] at answers
        exact answers.1
  obtain ⟨between, sent, before, division, sends, _⟩ := run.of_append.1.sent started
  have brought : completing.generated? =
      some ⟨text, sent.before.session.purpose, completing.moment.clock⟩ := by
    rw [Stage.generated?, completes, ← Stage.purpose_of_sends sends]
    rfl
  refine ⟨between, sent, before, division, sends, ?_⟩
  rw [run.generated_eq, Stage.lastGenerated?, List.findSome?_append,
    List.findSome?_eq_none_iff.mpr ungenerated, List.findSome?_cons, brought]
  rfl

end Run

/-! ## Saving -/

namespace Stage

/-- On the tab for documentation the user presses the key to save. -/
structure Saves (stage : Stage) : Prop where
  pressed : ∃ control alt,
    stage.happening = .reported .shortcuts (.pressed ⟨.character 's', control, alt⟩)
  shown : stage.before.session.tab = .documentation
  closed : stage.before.helpOpen = false

/-- A document was saved in the directory for downloads.  No other file was changed, and
the user is told where it is. -/
structure Saved (stage : Stage) (document : GeneratedDocument) (path : FilePath) : Prop where
  named : path = FilePath.join stage.before.settings.effectiveDirectory document.purpose.fileName
  wrote : ∃ place,
    stage.after.workspace.files.Opens stage.before.settings.effectiveDirectory place ∧
      Wrote stage.after.workspace.files stage.before.workspace.files path
        (place ++ [document.purpose.fileName]) document.content.toUTF8
  session : stage.after.session = stage.before.session
  told : stage.after.statusBar.toast = some ⟨.success, "Saved " ++ path, stage.moment.now⟩

namespace Saves

variable {stage : Stage} (saves : stage.Saves)

include saves

theorem acts : stage.happening.action? = some .download := by
  obtain ⟨control, alt, happens⟩ := saves.pressed
  rw [happens]
  cases control <;> rfl

theorem saved {document : GeneratedDocument}
    (generated : stage.before.session.generated = some document)
    (writable : Writable stage.before.workspace.files stage.before.settings.effectiveDirectory
      document.purpose.fileName) :
    ∃ path, stage.Saved document path := by
  have effect : stage.before.effect stage.moment .download =
      stage.before.download stage.moment := by
    rw [Console.effect_download]
    exact if_pos saves.shown
  obtain ⟨place, after, written, opens, wrote⟩ :=
    writeInside_of_writable (fileName_isEntryName document.purpose) writable
      document.content.toUTF8
  have downloads : stage.before.download stage.moment =
      { stage.before with workspace.files := after }.notify stage.moment .success
        ("Saved " ++ FilePath.join stage.before.settings.effectiveDirectory
          document.purpose.fileName) := by
    simp only [Console.download, generated, saveGenerated, written, Console.written]
  have work : Console.SameWork (stage.before.handle stage.moment .download) _ :=
    Console.handle_sameWork (Or.inl saves.closed) rfl
  have bar : (stage.before.handle stage.moment .download).statusBar = _ :=
    Console.handle_statusBar (Or.inl saves.closed) rfl
  rw [effect, downloads, ← after_eq_handle saves.acts] at work bar
  refine ⟨_, rfl, ⟨place, ?_, ?_⟩, work.session, ?_⟩
  · rw [work.workspace]
    exact opens
  · rw [work.workspace]
    exact wrote
  · rw [bar]
    rfl

end Saves

end Stage

namespace Run

variable {past : List Stage} {console : Console}

end Run

/-- Comments are asked for, and the other purpose is taken before they come. -/
def Happening.commentsWhileToggled : List Happening :=
  [.completed 0 (.generateDocs ⟨[⟨"f", "/f", .empty⟩], .inlineComments, "", ""⟩)
      (.ok (.content "c")),
    .pressed .shortcuts (.character 'p'), .pressed .shortcuts (.character 'g'),
    .pressed .shortcuts (.character 'p'), .reported .shortcuts (.pasted "/f"),
    .filesChanged ⟨[(["f"], .file .empty)], []⟩]

end DocsConsole
