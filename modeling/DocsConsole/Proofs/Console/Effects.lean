import DocsConsole.Proofs.Console.Dispatch

/-!
# What an action does to the connection and to the calls

Most of what an action does is beside the point here: it shows another tab, adds
files, or tells the user something.  What is left is one change to what was fetched
and chosen with a token, and at most one call that is started.  A call that is
started asks with the token that is held, for what is chosen.
-/

namespace DocsConsole

/-! ## Changes of the connection -/

/-- A change to what was fetched and chosen with a token. -/
inductive Github.Change where
  | nothing
  | connected (token : String)
  | disconnected
  /-- The repositories that were listed with a token are kept. -/
  | listed (token : String) (repositories : List String)
  /-- A repository, or none, is chosen. -/
  | chosen (name : Option String)
  /-- The branches of a repository are kept. -/
  | branched (repository : String) (branches : List String)
  /-- A branch, or none, is chosen. -/
  | branchChosen (name : Option String)
deriving DecidableEq

def Github.change (github : Github) : Github.Change → Github
  | .nothing => github
  | .connected token => { github with connection := .connected token }
  | .disconnected => .empty
  | .listed _ repositories => { github with repositories := repositories }
  | .chosen name =>
      { github with repository := Session.choice name, branches := [], branch := none }
  | .branched _ branches => { github with branches := branches }
  | .branchChosen name =>
      { github with branch := if github.repository.isSome then Session.choice name else none }

/-- The change that an outcome makes in a session. -/
def Outcome.change (session : Session) : Outcome → Github.Change
  | .connected token => .connected token
  | .repositoriesLoaded token repositories =>
      if session.token? = some token then .listed token repositories else .nothing
  | .branchesLoaded repository branches =>
      if session.wantsBranches repository then .branched repository branches else .nothing
  | _ => .nothing

def Request.change : Request → Github.Change
  | .selectRepository name => .chosen name
  | .selectBranch name => .branchChosen name
  | _ => .nothing

/-- The change that the effect of an action makes in a session. -/
def Action.change (session : Session) : Action → Github.Change
  | .disconnect =>
      if session.tab = .github ∧ session.isConnected then .disconnected else .nothing
  | .request asked => asked.change
  | .completed _ outcome => outcome.change session
  | _ => .nothing

/-- Whether an action is about the connection or about calls. -/
def Action.deals : Action → Bool
  | .analyze => true
  | .disconnect => true
  | .request _ => true
  | .completed _ _ => true
  | _ => false

/-! ## Calls that are started -/

/-- Whether a call asks with the token that is held, for what is chosen. -/
def Session.Fits (session : Session) : Backend.Call → Prop
  | .listRepositories token => session.token? = some token
  | .listBranches token repository =>
      session.token? = some token ∧ session.github.repository = some repository
  | .openPullRequest token draft =>
      session.token? = some token ∧ session.github.repository = some draft.repository ∧
        session.github.branch = some draft.branch
  | _ => True

/-- Whether a call fits depends on the connection only. -/
theorem Session.Fits.congr {left right : Session} {call : Backend.Call}
    (fits : right.Fits call) (same : left.github = right.github) : left.Fits call := by
  unfold Session.Fits Session.token? at *
  rw [same]
  exact fits

/-- The call that an outcome leads to. -/
def Outcome.followUp? : Outcome → Option Backend.Call
  | .connected token => some (.listRepositories token)
  | _ => none

/-- The call that a request leads to in a session. -/
def Request.call? (session : Session) : Request → Option Backend.Call
  | .generateDocs projectName instructions =>
      ((session.docsRequest projectName instructions).map .generateDocs).toOption
  | .connect token => ((Session.connectRequest token).map .connect).toOption
  | .selectRepository name =>
      (Session.choice name).bind fun repository =>
        session.token?.map (.listBranches · repository)
  | .openPullRequest title description commitMessage =>
      (session.pullRequest title description commitMessage).toOption.bind fun draft =>
        session.token?.map (.openPullRequest · draft)
  | _ => none

/-- The call that the effect of an action leads to in a session. -/
def Action.call? (session : Session) : Action → Option Backend.Call
  | .analyze =>
      if session.tab = .quality then (session.qualityRequest.map .analyzeQuality).toOption
      else none
  | .request asked => asked.call? session
  | .completed _ outcome => outcome.followUp?
  | _ => none

namespace Console

/-- From one console to another, one call was started or none. -/
inductive Starts (before after : Console) : Option Backend.Call → Prop where
  | none (loading : after.session.loading = before.session.loading)
      (started : after.started = before.started) : Starts before after none
  | one (call : Backend.Call)
      (loading : after.session.loading = before.session.loading.start (label call))
      (started : after.started = before.started ++ [(before.session.loading.next, call)])
      (fits : after.session.Fits call) : Starts before after (some call)

/-- Neither the connection nor the calls nor what they have brought is changed. -/
structure SameDealings (left right : Console) : Prop where
  github : left.session.github = right.session.github
  loading : left.session.loading = right.session.loading
  started : left.started = right.started
  generated : left.session.generated = right.session.generated

theorem SameWork.sameDealings {left right : Console} (same : SameWork left right) :
    SameDealings left right :=
  ⟨congrArg Session.github same.session, congrArg Session.loading same.session, same.started,
    congrArg Session.generated same.session⟩

namespace SameDealings

theorem starts {before after : Console} (same : SameDealings after before) :
    Starts before after none :=
  .none same.loading same.started

theorem trans {left middle right : Console} (first : SameDealings left middle)
    (second : SameDealings middle right) : SameDealings left right :=
  ⟨first.github.trans second.github, first.loading.trans second.loading,
    first.started.trans second.started, first.generated.trans second.generated⟩

end SameDealings

namespace Starts

variable {before middle after : Console} {call? : Option Backend.Call}

theorem of_sameDealings_right (starts : Starts before middle call?)
    (same : SameDealings after middle) : Starts before after call? := by
  cases starts with
  | none loading started =>
      exact .none (same.loading.trans loading) (same.started.trans started)
  | one call loading started fits =>
      exact .one call (same.loading.trans loading) (same.started.trans started)
        (fits.congr same.github)

theorem of_same_calls (starts : Starts middle after call?)
    (sameLoading : middle.session.loading = before.session.loading)
    (sameStarted : middle.started = before.started) : Starts before after call? := by
  cases starts with
  | none loading started =>
      exact .none (loading.trans sameLoading) (started.trans sameStarted)
  | one call loading started fits =>
      rw [sameLoading] at loading
      rw [sameStarted, sameLoading] at started
      exact .one call loading started fits

end Starts

variable (console : Console) (moment : Moment)

theorem start_starts {call : Backend.Call} (fits : console.session.Fits call) :
    Starts console (console.start call) (some call) :=
  .one call rfl rfl (fits.congr rfl)

theorem startOrRefuse_starts (result : Except Refusal Backend.Call)
    (fits : ∀ call, result = .ok call → console.session.Fits call) :
    Starts console (console.startOrRefuse moment result) result.toOption := by
  cases result with
  | error refusal => exact .none rfl rfl
  | ok call => exact console.start_starts (fits call rfl)

theorem startOrRefuse_github (result : Except Refusal Backend.Call) :
    (console.startOrRefuse moment result).session.github = console.session.github := by
  cases result <;> rfl

theorem startWithToken_starts (call : String → Backend.Call)
    (fits : ∀ token, console.session.token? = some token → console.session.Fits (call token)) :
    Starts console (console.startWithToken moment call) (console.session.token?.map call) := by
  unfold startWithToken
  cases held : console.session.token? with
  | none => exact .none rfl rfl
  | some token => exact console.start_starts (fits token held)

theorem startWithToken_github (call : String → Backend.Call) :
    (console.startWithToken moment call).session.github = console.session.github := by
  unfold startWithToken
  split <;> rfl

/-! ## Effects beside the connection and the calls -/

/-- Two consoles differ at most in the notification that is shown. -/
def SameButToast (left right : Console) : Prop :=
  left = { right with statusBar := left.statusBar }

namespace SameButToast

variable {left middle right : Console}

theorem trans (first : SameButToast left middle) (second : SameButToast middle right) :
    SameButToast left right := by
  unfold SameButToast at *
  rw [second] at first
  exact first

theorem sameWork (same : SameButToast left right) : SameWork left right := by
  rw [same]
  exact ⟨rfl, rfl, rfl, rfl⟩

theorem sameDealings (same : SameButToast left right) : SameDealings left right :=
  same.sameWork.sameDealings

end SameButToast

theorem reportUnreadable_sameButToast (path : FilePath) :
    SameButToast (reportUnreadable moment console path) console := by
  unfold reportUnreadable
  split <;> rfl

theorem foldl_reportUnreadable_sameButToast (paths : List FilePath) (console : Console) :
    SameButToast (paths.foldl (reportUnreadable moment) console) console := by
  induction paths generalizing console with
  | nil => rfl
  | cons path paths induction =>
      exact (induction _).trans (reportUnreadable_sameButToast console moment path)

theorem reportAdded_sameButToast (added : Nat) (target : IntakeTarget) :
    SameButToast (console.reportAdded moment added target) console := by
  cases target with
  | documentation =>
      simp only [reportAdded]
      split <;> rfl
  | quality =>
      simp only [reportAdded]
      split <;> rfl

/-- The files that can be read are added, and the user is told about it. -/
theorem addPaths_sameButToast (paths : List FilePath) (target : IntakeTarget) :
    SameButToast (console.addPaths moment paths target)
      { console with
        session :=
          console.session.addFiles (readable console.workspace.files (counting target paths))
            target } := by
  have told := foldl_reportUnreadable_sameButToast moment (counting target paths) console
  unfold addPaths
  dsimp only
  split
  case isTrue nothing =>
    rw [List.isEmpty_iff.mp nothing, Session.addFiles_nil]
    exact told
  case isFalse =>
    apply (reportAdded_sameButToast _ moment _ target).trans
    rw [told]
    rfl

theorem addPaths_sameDealings (paths : List FilePath) (target : IntakeTarget) :
    SameDealings (console.addPaths moment paths target) console := by
  apply (console.addPaths_sameButToast moment paths target).sameDealings.trans
  exact ⟨Session.addFiles_github _ _ _, Session.addFiles_loading _ _ _, rfl,
    Session.addFiles_generated _ _ _⟩

theorem reportRemoved_sameDealings (file : Option UploadedFile) :
    SameDealings (console.reportRemoved moment file) console := by
  cases file <;> exact ⟨rfl, rfl, rfl, rfl⟩

theorem removeFile_sameDealings (index : Nat) :
    SameDealings (console.removeFile moment index) console :=
  (reportRemoved_sameDealings _ moment _).trans ⟨rfl, rfl, rfl, rfl⟩

theorem removeQualityFile_sameDealings :
    SameDealings (console.removeQualityFile moment) console :=
  (reportRemoved_sameDealings _ moment _).trans ⟨rfl, rfl, rfl, rfl⟩

theorem written_sameDealings (done failed : String) (change : FileSystem.Change FilePath) :
    SameDealings (console.written moment done failed change) console := by
  unfold written
  split <;> exact ⟨rfl, rfl, rfl, rfl⟩

theorem download_sameDealings : SameDealings (console.download moment) console := by
  unfold download
  split
  · exact ⟨rfl, rfl, rfl, rfl⟩
  · exact console.written_sameDealings moment _ _ _

theorem exportPreview_sameDealings (tab : Tab) :
    SameDealings (console.exportPreview moment tab) console := by
  cases tab with
  | documentation =>
      simp only [exportPreview]
      split
      · exact ⟨rfl, rfl, rfl, rfl⟩
      · exact console.written_sameDealings moment _ _ _
  | quality =>
      simp only [exportPreview]
      split
      · exact ⟨rfl, rfl, rfl, rfl⟩
      · exact console.written_sameDealings moment _ _ _
  | github => exact ⟨rfl, rfl, rfl, rfl⟩

theorem showTab_sameDealings (tab : Option Tab) :
    SameDealings (console.showTab tab) console := by
  cases tab <;> exact ⟨rfl, rfl, rfl, rfl⟩

/-! ## Requests -/

theorem openPullRequest_starts (title description commitMessage : String) :
    Starts console (console.openPullRequest moment title description commitMessage)
      ((Request.openPullRequest title description commitMessage).call? console.session) := by
  rw [openPullRequest, Request.call?]
  cases drafted : console.session.pullRequest title description commitMessage with
  | error refusal => exact .none rfl rfl
  | ok draft =>
      apply console.startWithToken_starts moment (.openPullRequest · draft)
      intro token held
      exact ⟨held, Session.pullRequest_target drafted⟩

theorem selectRepository_starts (name : Option String) :
    Starts console (console.selectRepository moment name)
      ((Request.selectRepository name).call? console.session) := by
  rw [selectRepository, Request.call?]
  dsimp only
  cases chosen : Session.choice name with
  | none =>
      rw [show (console.session.selectRepository name).github.repository = none from chosen]
      exact .none rfl rfl
  | some repository =>
      have selected : (console.session.selectRepository name).github.repository =
          some repository := chosen
      rw [selected]
      have starts := startWithToken_starts
        { console with session := console.session.selectRepository name } moment
        (.listBranches · repository) fun token held => ⟨held, selected⟩
      exact starts.of_same_calls rfl rfl

theorem fulfil_starts (request : Request) :
    Starts console (console.fulfil moment request) (request.call? console.session) := by
  cases request with
  | addPaths paths target => exact (console.addPaths_sameDealings moment paths target).starts
  | removeFile index => exact (console.removeFile_sameDealings moment index).starts
  | removeQualityFile => exact (console.removeQualityFile_sameDealings moment).starts
  | generateDocs projectName instructions =>
      apply console.startOrRefuse_starts moment
      intro call made
      cases built : console.session.docsRequest projectName instructions with
      | error refusal =>
          rw [built] at made
          contradiction
      | ok request =>
          rw [built] at made
          cases made
          trivial
  | connect token =>
      apply console.startOrRefuse_starts moment
      intro call made
      cases built : Session.connectRequest token with
      | error refusal =>
          rw [built] at made
          contradiction
      | ok token =>
          rw [built] at made
          cases made
          trivial
  | selectRepository name => exact console.selectRepository_starts moment name
  | selectBranch name => exact .none rfl rfl
  | openPullRequest title description commitMessage =>
      exact console.openPullRequest_starts moment title description commitMessage

theorem fulfil_github (request : Request) :
    (console.fulfil moment request).session.github =
      console.session.github.change request.change := by
  cases request with
  | addPaths paths target => exact (console.addPaths_sameDealings moment paths target).github
  | removeFile index => exact (console.removeFile_sameDealings moment index).github
  | removeQualityFile => exact (console.removeQualityFile_sameDealings moment).github
  | generateDocs projectName instructions =>
      rw [fulfil, startOrRefuse_github]
      rfl
  | connect token =>
      rw [fulfil, startOrRefuse_github]
      rfl
  | selectRepository name =>
      simp only [fulfil, selectRepository]
      split
      · exact startWithToken_github _ moment _
      · rfl
  | selectBranch name => rfl
  | openPullRequest title description commitMessage =>
      simp only [fulfil, openPullRequest]
      split
      · exact console.startWithToken_github moment _
      · rfl

/-! ## Completed calls -/

theorem conclude_starts (outcome : Outcome) :
    Starts console (console.conclude moment outcome) outcome.followUp? := by
  cases outcome with
  | connected token => exact .one (.listRepositories token) rfl rfl rfl
  | repositoriesLoaded token repositories =>
      simp only [conclude]
      split <;> exact .none rfl rfl
  | branchesLoaded repository branches =>
      simp only [conclude, Session.applyBranches]
      split <;> exact .none rfl rfl
  | _ => exact .none rfl rfl

theorem conclude_github (outcome : Outcome) :
    (console.conclude moment outcome).session.github =
      console.session.github.change (outcome.change console.session) := by
  cases outcome with
  | repositoriesLoaded token repositories =>
      simp only [conclude, Outcome.change]
      split <;> rfl
  | branchesLoaded repository branches =>
      simp only [conclude, Session.applyBranches, Outcome.change]
      split <;> rfl
  | _ => rfl

/-! ## Actions -/

theorem analyze_starts :
    Starts console (console.analyze moment)
      (console.session.qualityRequest.map .analyzeQuality).toOption := by
  apply console.startOrRefuse_starts moment
  intro call made
  cases built : console.session.qualityRequest with
  | error refusal =>
      rw [built] at made
      contradiction
  | ok file =>
      rw [built] at made
      cases made
      trivial

theorem analyze_github :
    (console.analyze moment).session.github = console.session.github :=
  console.startOrRefuse_github moment _

/-- The console after the ticket of a completed call was taken back. -/
def released (ticket : Ticket) : Console :=
  { console with session := console.session.finishCall ticket }

/-! Some shortcuts count on one tab only. -/

theorem effect_togglePurpose :
    console.effect moment .togglePurpose =
      if console.session.tab = .documentation then console.togglePurpose moment
      else console := by
  cases shown : console.session.tab <;> simp [effect, shown]

theorem effect_download :
    console.effect moment .download =
      if console.session.tab = .documentation then console.download moment
      else console := by
  cases shown : console.session.tab <;> simp [effect, shown]

theorem effect_analyze :
    console.effect moment .analyze =
      if console.session.tab = .quality then console.analyze moment else console := by
  cases shown : console.session.tab <;> simp [effect, shown]

theorem effect_disconnect :
    console.effect moment .disconnect =
      if console.session.tab = .github ∧ console.session.isConnected then
        console.disconnect moment
      else console := by
  cases shown : console.session.tab <;> simp [effect, shown]

/-- All other actions are beside the connection and the calls. -/
theorem effect_sameDealings {action : Action} (aside : action.deals = false) :
    SameDealings (console.effect moment action) console := by
  cases action with
  | showTab tab =>
      simp only [effect]
      exact console.showTab_sameDealings _
  | nextTab =>
      simp only [effect]
      exact console.showTab_sameDealings _
  | previousTab =>
      simp only [effect]
      exact console.showTab_sameDealings _
  | togglePurpose =>
      rw [effect_togglePurpose]
      split <;> exact ⟨rfl, rfl, rfl, rfl⟩
  | download =>
      rw [effect_download]
      split
      · exact console.download_sameDealings moment
      · exact ⟨rfl, rfl, rfl, rfl⟩
  | exportPreview =>
      simp only [effect]
      exact console.exportPreview_sameDealings moment _
  | analyze => contradiction
  | disconnect => contradiction
  | request asked => contradiction
  | completed ticket outcome => contradiction
  | _ => exact ⟨rfl, rfl, rfl, rfl⟩

/-- An action makes one change to the connection. -/
theorem effect_github (action : Action) :
    (console.effect moment action).session.github =
      console.session.github.change (action.change console.session) := by
  cases action with
  | analyze =>
      rw [effect_analyze]
      split
      · exact console.analyze_github moment
      · rfl
  | disconnect =>
      rw [effect_disconnect, Action.change]
      split <;> rfl
  | request asked => exact console.fulfil_github moment asked
  | completed ticket outcome => exact (console.released ticket).conclude_github moment outcome
  | _ => exact (console.effect_sameDealings moment rfl).github

/-- An action that completes no call starts at most one. -/
theorem effect_starts {action : Action}
    (newsless : ∀ ticket outcome, action ≠ .completed ticket outcome) :
    Starts console (console.effect moment action) (action.call? console.session) := by
  cases action with
  | analyze =>
      rw [effect_analyze, Action.call?]
      split
      · exact console.analyze_starts moment
      · exact .none rfl rfl
  | disconnect =>
      rw [effect_disconnect]
      split <;> exact .none rfl rfl
  | request asked => exact console.fulfil_starts moment asked
  | completed ticket outcome => exact (newsless ticket outcome rfl).elim
  | _ => exact (console.effect_sameDealings moment rfl).starts

end Console

end DocsConsole
