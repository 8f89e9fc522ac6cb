import DocsConsole.Proofs.Console.Run

/-!
# Where things come from

A connection that is accepted, a list that is kept and a choice of the user each come
with one kind of stage, and the change that a stage makes tells which.  A call comes
with the stage that started it.  A token is held until another one is accepted or the
user disconnects, and without a token nothing is fetched or chosen.
-/

namespace DocsConsole

/-! ## What is told -/

/-- The list of repositories that a completion brings, with the token it was asked for
with. -/
def Happening.answeredListing? : Happening → Option (String × List String)
  | .completed _ (.listRepositories token) (.ok (.names repositories)) =>
      some (token, repositories)
  | _ => none

/-- What a completion tells about the connection. -/
inductive Happening.Tells : Happening → Outcome → Prop where
  | connected (ticket : Ticket) (token : String) (reason : Option String) :
      Tells (.completed ticket (.connect token) (.ok (.connection true reason)))
        (.connected token)
  | listed (ticket : Ticket) (token : String) (repositories : List String) :
      Tells (.completed ticket (.listRepositories token) (.ok (.names repositories)))
        (.repositoriesLoaded token repositories)
  | branched (ticket : Ticket) (token repository : String) (branches : List String) :
      Tells (.completed ticket (.listBranches token repository) (.ok (.names branches)))
        (.branchesLoaded repository branches)
  | nothing {happening : Happening} {outcome : Outcome}
      (unaccepted : happening.acceptedToken? = none)
      (unlisted : happening.answeredListing? = none)
      (unfollowed : outcome.followUp? = none)
      (unchanging : ∀ session, outcome.change session = .nothing) : Tells happening outcome

theorem Outcome.ofResult_told (ticket : Ticket) (call : Backend.Call)
    (result : Except Backend.CallFailure Backend.Answer) :
    (Happening.completed ticket call result).Tells (ofResult call result) := by
  rcases result with failure | answer
  · cases call <;> exact .nothing rfl rfl rfl fun _ => rfl
  · cases call with
    | connect token =>
        rcases answer with content | report | ⟨success, reason⟩ | names | pullRequest
        case connection =>
          cases success
          · exact .nothing rfl rfl rfl fun _ => rfl
          · exact .connected ticket token reason
        all_goals exact .nothing rfl rfl rfl fun _ => rfl
    | listRepositories token =>
        cases answer with
        | names repositories => exact .listed ticket token repositories
        | _ => exact .nothing rfl rfl rfl fun _ => rfl
    | listBranches token repository =>
        cases answer with
        | names branches => exact .branched ticket token repository branches
        | _ => exact .nothing rfl rfl rfl fun _ => rfl
    | openPullRequest token draft =>
        rcases answer with content | report | connection | names | ⟨success, url, reason⟩
        case pullRequest => cases success <;> exact .nothing rfl rfl rfl fun _ => rfl
        all_goals exact .nothing rfl rfl rfl fun _ => rfl
    | _ => cases answer <;> exact .nothing rfl rfl rfl fun _ => rfl

/-! ## Changes and where they come from -/

namespace Github.Change

/-- The token of an accepted connection. -/
def accepted? : Github.Change → Option String
  | .connected token => some token
  | _ => none

/-- The repositories that are kept, with the token they were listed with. -/
def listing? : Github.Change → Option (String × List String)
  | .listed token repositories => some (token, repositories)
  | _ => none

def choice? : Github.Change → Option (Option String)
  | .chosen name => some (Session.choice name)
  | _ => none

/-- Whether the user can make a change. -/
def fromUser : Github.Change → Bool
  | .nothing => true
  | .disconnected => true
  | .chosen _ => true
  | .branchChosen _ => true
  | _ => false

end Github.Change

theorem Request.change_fromUser (request : Request) : request.change.fromUser = true := by
  cases request <;> rfl

theorem Action.change_fromUser (session : Session) {action : Action}
    (newsless : ∀ ticket outcome, action ≠ .completed ticket outcome) :
    (action.change session).fromUser = true := by
  cases action with
  | disconnect =>
      simp only [Action.change]
      split <;> rfl
  | request asked => exact asked.change_fromUser
  | completed ticket outcome => exact (newsless ticket outcome rfl).elim
  | _ => rfl

namespace Stage

variable {stage : Stage}

/-- The list of repositories that is kept in a stage, with the token it was asked for
with.  It is kept if that token is held. -/
def listing? (stage : Stage) : Option (String × List String) :=
  stage.happening.answeredListing?.filter fun listing =>
    stage.before.session.token? = some listing.1

/-- The choice of a repository in a stage, with the token that is held. -/
def choice? (stage : Stage) : Option (Option String × Option String) :=
  match stage.request? with
  | some (.selectRepository name) => some (Session.choice name, stage.before.session.token?)
  | _ => none

/-- The token of the connection that was accepted last in some stages. -/
def lastAccepted? (past : List Stage) : Option String :=
  past.findSome? (·.happening.acceptedToken?)

/-- The list of repositories that was kept last in some stages. -/
def lastListing? (past : List Stage) : Option (String × List String) :=
  past.findSome? listing?

/-- The choice of a repository that was made last in some stages. -/
def lastChoice? (past : List Stage) : Option (Option String × Option String) :=
  past.findSome? choice?

theorem request?_of_mute {action : Action} (acts : stage.happening.action? = some action)
    (mute : action.mayAsk = false) : stage.request? = none := by
  cases asks : stage.request? with
  | none => rfl
  | some request =>
      simp only [request?, acts, Option.bind_some] at asks
      have mayAsk := (Console.askPanel_asks (Console.step_of_asks asks).2.1).1
      rw [mute] at mayAsk
      contradiction

section Completed

variable {ticket : Ticket} {call : Backend.Call}
  {result : Except Backend.CallFailure Backend.Answer}

theorem request?_of_completed (happens : stage.happening = .completed ticket call result) :
    stage.request? = none := by
  have acts : stage.happening.action? = some (.completed ticket (.ofResult call result)) := by
    rw [happens]
    rfl
  exact request?_of_mute acts rfl

theorem change_of_completed (happens : stage.happening = .completed ticket call result) :
    stage.change = (Outcome.ofResult call result).change stage.before.session := by
  simp [change, request?_of_completed happens, happens, Happening.action?,
    Action.passesHelp, Action.change]

theorem call?_of_completed (happens : stage.happening = .completed ticket call result) :
    stage.call? = (Outcome.ofResult call result).followUp? := by
  simp [call?, request?_of_completed happens, happens, Happening.action?,
    Action.passesHelp, Action.call?]

end Completed

/-- A stage without a completion changes nothing that only the backend can change. -/
theorem change_fromUser (newsless : stage.happening.ticket? = none) :
    stage.change.fromUser = true := by
  unfold change
  split
  · exact Request.change_fromUser _
  case h_2 action _ acts =>
    split
    · rfl
    · exact Action.change_fromUser _ (Happening.action?_ne_completed acts newsless)
  · rfl

/-- The change that a stage makes tells what was accepted and what was kept in it. -/
theorem brought_eq (stage : Stage) :
    stage.happening.acceptedToken? = stage.change.accepted? ∧
      stage.listing? = stage.change.listing? := by
  cases happens : stage.happening with
  | completed ticket call result =>
      rw [change_of_completed happens, listing?, happens]
      rcases Outcome.ofResult_told ticket call result with _ | ⟨_, token⟩ | ⟨_, _, repository⟩ |
        ⟨unaccepted, unlisted, _, unchanging⟩
      · exact ⟨rfl, rfl⟩
      · by_cases held : stage.before.session.token? = some token <;>
          simp [Outcome.ofResult, Outcome.change, held, Happening.acceptedToken?,
            Happening.answeredListing?, Github.Change.accepted?, Github.Change.listing?]
      · by_cases wanted : stage.before.session.wantsBranches repository = true <;>
          simp [Outcome.ofResult, Outcome.change, wanted, Happening.acceptedToken?,
            Happening.answeredListing?, Github.Change.accepted?, Github.Change.listing?]
      · rw [unaccepted, unlisted, unchanging]
        exact ⟨rfl, rfl⟩
  | _ =>
      have user : stage.change.fromUser = true := change_fromUser (by rw [happens]; rfl)
      rw [listing?, happens]
      cases changes : stage.change with
      | connected token =>
          rw [changes] at user
          contradiction
      | listed token repositories =>
          rw [changes] at user
          contradiction
      | _ => exact ⟨rfl, rfl⟩

theorem acceptedToken?_eq (stage : Stage) :
    stage.happening.acceptedToken? = stage.change.accepted? :=
  stage.brought_eq.1

theorem change_of_accepted {token : String}
    (accepted : stage.happening.acceptedToken? = some token) :
    stage.change = .connected token := by
  rw [acceptedToken?_eq] at accepted
  cases changes : stage.change with
  | connected other =>
      rw [changes] at accepted
      cases accepted
      rfl
  | _ =>
      rw [changes] at accepted
      contradiction

theorem listing?_eq (stage : Stage) : stage.listing? = stage.change.listing? :=
  stage.brought_eq.2

theorem choice?_eq (stage : Stage) :
    stage.choice? = stage.change.choice?.map fun name =>
      (name, stage.before.session.token?) := by
  unfold choice?
  split
  case h_1 name asks =>
    have chooses : stage.change = .chosen name := by simp [change, asks, Request.change]
    rw [chooses]
    rfl
  case h_2 unasked =>
    cases changes : stage.change with
    | chosen name => exact (unasked name (request?_of_chosen changes)).elim
    | _ => rfl

/-- The repositories are only kept if the token they were asked for with is held. -/
theorem token?_of_listed {token : String} {repositories : List String}
    (lists : stage.change = .listed token repositories) :
    stage.before.session.token? = some token := by
  have kept : stage.listing? = some (token, repositories) := by
    rw [listing?_eq, lists]
    rfl
  unfold listing? at kept
  simpa using (Option.filter_eq_some_iff.mp kept).2

/-- The branches are only kept if they are an answer about the chosen repository. -/
theorem completed_of_branched {repository : String} {branches : List String}
    (brings : stage.change = .branched repository branches) :
    stage.before.session.github.repository = some repository ∧
      ∃ ticket token, stage.happening =
        .completed ticket (.listBranches token repository) (.ok (.names branches)) := by
  cases happens : stage.happening with
  | completed ticket call result =>
      rw [change_of_completed happens] at brings
      rcases Outcome.ofResult_told ticket call result with _ | ⟨_, token⟩ |
        ⟨_, token, asked, names⟩ | ⟨_, _, _, unchanging⟩
      · contradiction
      · simp only [Outcome.ofResult, Outcome.change] at brings
        split at brings <;> contradiction
      · simp only [Outcome.ofResult, Outcome.change] at brings
        split at brings
        case isTrue wanted =>
          cases brings
          exact ⟨by simpa [Session.wantsBranches] using wanted, ticket, token, rfl⟩
        case isFalse => contradiction
      · rw [unchanging] at brings
        contradiction
  | _ =>
      have user : stage.change.fromUser = true := change_fromUser (by rw [happens]; rfl)
      rw [brings] at user
      contradiction

/-- The token after a stage is the one that was accepted in it, if any, and else the
one before, unless the user disconnects. -/
theorem after_token? (stage : Stage) :
    stage.after.session.token? =
      match stage.change with
      | .connected token => some token
      | .disconnected => none
      | _ => stage.before.session.token? := by
  unfold Session.token?
  rw [after_github]
  cases stage.change <;> rfl

/-- A choice leaves the token as it is. -/
theorem token?_of_choice {name held : Option String} (chooses : stage.choice? = some (name, held)) :
    stage.after.session.token? = held := by
  rw [choice?_eq] at chooses
  rw [after_token?]
  cases changes : stage.change with
  | chosen other =>
      rw [changes] at chooses
      cases chooses
      rfl
  | _ =>
      rw [changes] at chooses
      contradiction

/-- A stage starts a call. -/
def Sends (stage : Stage) (entry : Ticket × Backend.Call) : Prop :=
  stage.after.started = stage.before.started ++ [entry]

/-- What a stage starts is its call, which takes the next ticket and fits. -/
theorem after_call? (stage : Stage) :
    match stage.call? with
    | none => stage.after.started = stage.before.started
    | some call =>
        stage.Sends (stage.before.session.loading.next, call) ∧
          stage.after.session.Fits call := by
  have starts : ∃ before : Console, before.started = stage.before.started ∧
      before.session.loading.next = stage.before.session.loading.next ∧
      before.Starts stage.after stage.call? := by
    cases happens : stage.happening with
    | completed ticket call result =>
        rw [call?_of_completed happens]
        exact ⟨stage.before.released ticket, rfl, rfl, stage.after_starts_of_completed happens⟩
    | _ => exact ⟨stage.before, rfl, rfl, stage.after_starts (by rw [happens]; rfl)⟩
  obtain ⟨before, same, next, starts⟩ := starts
  generalize stage.call? = call? at starts ⊢
  cases starts with
  | none loading started => exact started.trans same
  | one call loading started fits =>
      rw [same, next] at started
      exact ⟨started, fits⟩

/-- A stage starts no call, or one that fits. -/
theorem after_sends (stage : Stage) :
    stage.after.started = stage.before.started ∨
      ∃ entry, stage.Sends entry ∧ stage.after.session.Fits entry.2 := by
  have starts := stage.after_call?
  cases calls : stage.call? with
  | none =>
      rw [calls] at starts
      exact Or.inl starts
  | some call =>
      rw [calls] at starts
      exact Or.inr ⟨_, starts⟩

/-- What a stage starts is its call. -/
theorem call?_of_sends {entry : Ticket × Backend.Call} (sends : stage.Sends entry) :
    stage.call? = some entry.2 := by
  have starts := stage.after_call?
  unfold Sends at sends
  cases calls : stage.call? with
  | none =>
      rw [calls] at starts
      rw [starts] at sends
      simp at sends
  | some call =>
      rw [calls] at starts
      rw [starts.1] at sends
      have same : (stage.before.session.loading.next, call) = entry := by simpa using sends
      rw [← same]

end Stage

/-! ## Provenance in a run -/

/-- Without a token nothing is fetched or chosen. -/
theorem Run.github_empty {past : List Stage} {console : Console} (run : Run past console)
    (unconnected : console.session.token? = none) : console.session.github = .empty := by
  induction run with
  | launched settings workspace moment files qualityFile =>
      exact (Console.load_sameDealings _ moment files qualityFile).github
  | next stage run answers induction =>
      rw [stage.after_token?] at unconnected
      rw [stage.after_github]
      cases changes : stage.change with
      | nothing =>
          simp only [changes] at unconnected
          exact induction unconnected
      | connected token => simp [changes] at unconnected
      | disconnected => rfl
      | listed token repositories =>
          simp [changes, Stage.token?_of_listed changes] at unconnected
      | chosen name =>
          simp only [changes] at unconnected
          have connected := Stage.connected_of_chosen changes
          simp [Session.isConnected, unconnected] at connected
      | branched repository branches =>
          simp only [changes] at unconnected
          have chosen := (Stage.completed_of_branched changes).1
          rw [induction unconnected] at chosen
          contradiction
      | branchChosen name =>
          simp only [changes] at unconnected
          rw [induction unconnected]
          rfl

/-- A call that was started was started in one stage, with the token that was held and
for what was chosen. -/
theorem Run.sent {past : List Stage} {console : Console} (run : Run past console)
    {entry : Ticket × Backend.Call} (started : entry ∈ console.started) :
    ∃ since sent earlier, past = since ++ sent :: earlier ∧ sent.Sends entry ∧
      sent.after.session.Fits entry.2 := by
  induction run with
  | launched settings workspace moment files qualityFile =>
      rw [(Console.load_sameDealings _ moment files qualityFile).started] at started
      contradiction
  | @next past stage run answers induction =>
      rcases stage.after_sends with same | ⟨new, sends, fits⟩
      · rw [same] at started
        obtain ⟨since, sent, earlier, division, sends, fits⟩ := induction started
        exact ⟨stage :: since, sent, earlier, by rw [division]; rfl, sends, fits⟩
      · rw [sends] at started
        rcases List.mem_append.mp started with before | member
        · obtain ⟨since, sent, earlier, division, sends, fits⟩ := induction before
          exact ⟨stage :: since, sent, earlier, by rw [division]; rfl, sends, fits⟩
        · rw [List.mem_singleton.mp member]
          exact ⟨[], stage, past, rfl, sends, fits⟩

/-- The token that is held is the one that was accepted last, or the one that was held
before. -/
theorem Run.token?_since {since earlier : List Stage} {sent : Stage} {console : Console}
    {token : String} (run : Run (since ++ sent :: earlier) console)
    (held : sent.after.session.token? = some token)
    (connected : console.session.isConnected = true) :
    console.session.token? = some ((Stage.lastAccepted? since).getD token) := by
  induction since generalizing console with
  | nil =>
      cases run with
      | next stage run answers => exact held
  | cons stage since induction =>
      cases run with
      | next stage run answers =>
          have kept : stage.change.accepted? = none →
              stage.after.session.token? = stage.before.session.token? := by
            intro unaccepted
            have after := stage.after_token?
            rw [Session.isConnected, after] at connected
            rw [after]
            cases changes : stage.change with
            | connected token => rw [changes] at unaccepted; contradiction
            | disconnected => simp [changes] at connected
            | _ => rfl
          rw [Stage.lastAccepted?, List.findSome?_cons, stage.acceptedToken?_eq]
          cases accepted : stage.change.accepted? with
          | some token =>
              cases changes : stage.change with
              | connected other =>
                  rw [changes] at accepted
                  cases accepted
                  simp [stage.after_token?, changes]
              | _ => rw [changes] at accepted; contradiction
          | none =>
              rw [Session.isConnected, kept accepted] at connected
              rw [kept accepted]
              exact induction run connected

end DocsConsole
