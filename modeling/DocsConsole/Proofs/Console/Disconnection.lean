import DocsConsole.Proofs.Console.InFlight

/-!
# What ends a disconnection

When the user disconnects, the token goes, and nothing but an accepted connection
brings one back.  The console does not look at when that connection was asked for.
It was asked for after the user had disconnected, or its call was in flight then.
-/

namespace DocsConsole

open Console

namespace Stage

variable {stage : Stage}

/-- The user disconnects.  That counts on one tab only, while help is closed and the
session is connected. -/
structure Disconnects (stage : Stage) : Prop where
  acts : stage.happening.action? = some .disconnect
  closed : stage.before.helpOpen = false
  shown : stage.before.session.tab = .github
  connected : stage.before.session.isConnected = true

namespace Disconnects

theorem change (disconnects : stage.Disconnects) : stage.change = .disconnected := by
  have unasked : stage.request? = none := request?_of_mute disconnects.acts rfl
  simp [Stage.change, unasked, disconnects.acts, disconnects.closed, Action.change,
    disconnects.shown, disconnects.connected]

theorem after_token? (disconnects : stage.Disconnects) :
    stage.after.session.token? = none := by
  rw [stage.after_token?, disconnects.change]

theorem after_started (disconnects : stage.Disconnects) :
    stage.after.started = stage.before.started := by
  have effect : stage.before.effect stage.moment .disconnect =
      stage.before.disconnect stage.moment := by
    rw [effect_disconnect]
    exact if_pos ⟨disconnects.shown, disconnects.connected⟩
  have work : SameWork stage.after (stage.before.effect stage.moment .disconnect) := by
    rw [after_eq_handle disconnects.acts]
    exact handle_sameWork (Or.inl disconnects.closed) rfl
  rw [work.started, effect]
  rfl

end Disconnects

/-- A stage without an accepted connection does not bring a token back. -/
theorem after_token?_of_unaccepted (unaccepted : stage.happening.acceptedToken? = none)
    (unconnected : stage.before.session.token? = none) :
    stage.after.session.token? = none := by
  rw [acceptedToken?_eq] at unaccepted
  rw [after_token?]
  cases changes : stage.change with
  | connected token =>
      rw [changes] at unaccepted
      contradiction
  | disconnected => rfl
  | _ => exact unconnected

theorem after_token?_of_accepted {token : String}
    (accepted : stage.happening.acceptedToken? = some token) :
    stage.after.session.token? = some token := by
  rw [after_token?, change_of_accepted accepted]

theorem acceptedToken?_of_restored {token : String}
    (unconnected : stage.before.session.token? = none)
    (restored : stage.after.session.token? = some token) :
    stage.happening.acceptedToken? = some token := by
  cases accepted : stage.happening.acceptedToken? with
  | none =>
      rw [after_token?_of_unaccepted accepted unconnected] at restored
      contradiction
  | some other =>
      rw [after_token?_of_accepted accepted] at restored
      exact restored

end Stage

theorem Happening.completed_of_acceptedToken? {happening : Happening} {token : String}
    (accepted : happening.acceptedToken? = some token) :
    ∃ ticket reason, happening =
      .completed ticket (.connect token) (.ok (.connection true reason)) := by
  unfold acceptedToken? at accepted
  split at accepted
  case h_1 ticket other reason =>
    cases accepted
    exact ⟨ticket, reason, rfl⟩
  case h_2 => contradiction

namespace Run

variable {between earlier since : List Stage} {stage ending : Stage} {console : Console}

/-- A call that was started was started by the end of some stage or in a later one. -/
theorem started_since (run : Run (between ++ stage :: earlier) console)
    {entry : Ticket × Backend.Call} (started : entry ∈ console.started) :
    entry ∈ stage.after.started ∨
      ∃ recent sent before, between = recent ++ sent :: before ∧ sent.Sends entry := by
  induction between generalizing console with
  | nil =>
      cases run with
      | next stage run answers => exact Or.inl started
  | cons last between induction =>
      cases run with
      | next last run answers =>
          -- Either the last stage sends the call, or it was started before.
          have divided : entry ∈ last.before.started ∨ last.Sends entry := by
            rcases last.after_sends with same | ⟨new, sends, _⟩
            · rw [same] at started
              exact Or.inl started
            · rw [sends] at started
              rcases List.mem_append.mp started with before | member
              · exact Or.inl before
              · rw [List.mem_singleton.mp member]
                exact Or.inr sends
          rcases divided with before | sends
          · rcases induction run before with already | ⟨recent, sent, rest, division, sends⟩
            · exact Or.inl already
            · refine Or.inr ⟨last :: recent, sent, rest, ?_, sends⟩
              rw [division]
              rfl
          · exact Or.inr ⟨[], last, between, rfl, sends⟩

/-- Until a connection is accepted the session stays disconnected. -/
theorem token?_eq_none_since (run : Run (since ++ ending :: earlier) console)
    (disconnects : ending.Disconnects)
    (unaccepted : ∀ stage ∈ since, stage.happening.acceptedToken? = none) :
    console.session.token? = none := by
  induction since generalizing console with
  | nil =>
      cases run with
      | next ending run answers => exact disconnects.after_token?
  | cons last since induction =>
      cases run with
      | next last run answers =>
          have before : last.before.session.token? = none := by
            apply induction run
            intro stage member
            exact unaccepted stage (List.mem_cons_of_mem _ member)
          exact Stage.after_token?_of_unaccepted (unaccepted last List.mem_cons_self) before

/-- A completion since the user has disconnected answers a call that was sent since then
or that was in flight then. -/
theorem sent_since_or_in_flight
    (run : Run (stage :: (between ++ ending :: earlier)) console)
    (disconnects : ending.Disconnects) {ticket : Ticket} {call : Backend.Call}
    {result : Except Backend.CallFailure Backend.Answer}
    (happens : stage.happening = .completed ticket call result) :
    (∃ recent sent before, between = recent ++ sent :: before ∧ sent.Sends (ticket, call)) ∨
      (ticket, call) ∈ openCalls (Stage.answered earlier) ending.before.started := by
  cases run with
  | next stage run answers =>
      rw [happens] at answers
      obtain ⟨started, unanswered⟩ := answers
      rcases run.started_since started with before | since
      · right
        have stillOpen : ticket ∉ Stage.answered earlier := by
          intro answered
          apply unanswered
          simp [Stage.answered] at answered ⊢
          tauto
        rw [disconnects.after_started] at before
        simp [openCalls, before, stillOpen]
      · exact Or.inl since

/-- After the user has disconnected, the session stays disconnected until a connection is
accepted, and each one that is accepted brings its token back.  Where a token is brought
back, the connection was asked for after the user had disconnected, or its call was in
flight at that moment. -/
theorem token?_since_disconnect (run : Run (since ++ ending :: earlier) console)
    (disconnects : ending.Disconnects) :
    ((∀ stage ∈ since, stage.happening.acceptedToken? = none) →
      console.session.token? = none) ∧
    (∀ stage ∈ since, ∀ token, stage.happening.acceptedToken? = some token →
      stage.after.session.token? = some token) ∧
    ∀ later restoring between token, since = later ++ restoring :: between →
      restoring.before.session.token? = none →
      restoring.after.session.token? = some token →
      ∃ ticket reason,
        restoring.happening =
            .completed ticket (.connect token) (.ok (.connection true reason)) ∧
          ((∃ recent sent before, between = recent ++ sent :: before ∧
              sent.Sends (ticket, .connect token)) ∨
            (ticket, .connect token) ∈
              openCalls (Stage.answered earlier) ending.before.started) := by
  refine ⟨run.token?_eq_none_since disconnects, ?_, ?_⟩
  · intro stage _ token accepted
    exact Stage.after_token?_of_accepted accepted
  · intro later restoring between token division unconnected restored
    have accepted := Stage.acceptedToken?_of_restored unconnected restored
    obtain ⟨ticket, reason, happens⟩ := Happening.completed_of_acceptedToken? accepted
    have restoringRun : Run (restoring :: (between ++ ending :: earlier)) restoring.after := by
      rw [division, List.append_assoc] at run
      exact run.of_append.2
    exact ⟨ticket, reason, happens, restoringRun.sent_since_or_in_flight disconnects happens⟩

end Run

/-- While two calls to connect are in flight, the first one is accepted and the user
disconnects. -/
def Happening.disconnectAfterFirst : List Happening :=
  [.pressed .shortcuts (.character 'D'),
    .completed 0 (.connect "a") (.ok (.connection true none))] ++ Happening.twoConnects

/-- Then another token is submitted, and its connection is accepted. -/
def Happening.thirdConnect : List Happening :=
  [.completed 3 (.connect "c") (.ok (.connection true none)), .pressed .typing .enter,
    .pressed .typing (.character 'c'), .pressed .shortcuts (.character 'e')] ++
  Happening.disconnectAfterFirst

theorem token?_since_disconnect_of_third :
    let run := replay Happening.thirdConnect
    Run run.1 run.2 ∧ run.2.session.token? = some "c" ∧
      ∃ restoring between ending earlier, run.1 = restoring :: between ++ ending :: earlier ∧
        ending.Disconnects ∧ restoring.before.session.token? = none ∧
        ∃ recent sent before, between = recent ++ sent :: before ∧
          sent.Sends (3, .connect "c") := by
  intro run
  have happened : Run run.1 run.2 := Run.of_replay _ (by decide)
  obtain ⟨restoring, between, ending, earlier, division, atEnd, atRestoring⟩ :
      ∃ restoring between ending earlier, run.1 = (restoring :: between) ++ ending :: earlier ∧
        ending = ⟨(replay (Happening.disconnectAfterFirst.drop 1)).2, .midnight,
          .pressed .shortcuts (.character 'D')⟩ ∧
        restoring = ⟨(replay (Happening.thirdConnect.drop 1)).2, .midnight,
          .completed 3 (.connect "c") (.ok (.connection true none))⟩ :=
    ⟨_, (replay (Happening.thirdConnect.drop 1)).1.take 3, _,
      (replay (Happening.disconnectAfterFirst.drop 1)).1, rfl, rfl, rfl⟩
  have disconnects : ending.Disconnects := by
    rw [atEnd]
    exact ⟨rfl, by decide, by decide, by decide⟩
  have unconnected : restoring.before.session.token? = none := by
    rw [atRestoring]
    decide
  have restored : restoring.after.session.token? = some "c" := by
    rw [atRestoring]
    decide
  have late : (3, Backend.Call.connect "c") ∉
      openCalls (Stage.answered earlier) ending.before.started := by
    rw [atEnd]
    intro member
    exact absurd (List.mem_filter.mp member).1 (by decide)
  refine ⟨happened, by decide, restoring, between, ending, earlier, division, disconnects,
    unconnected, ?_⟩
  rw [division] at happened
  obtain ⟨ticket, reason, happens, origin⟩ :=
    (happened.token?_since_disconnect disconnects).2.2 [] restoring between "c" rfl unconnected
      restored
  rw [atRestoring] at happens
  cases happens
  rcases origin with sentSince | inFlight
  · exact sentSince
  · exact (late inFlight).elim

/-- The call that was in flight when the user disconnected is accepted, and its token is
held. -/
theorem token?_of_connect_in_flight :
    let run := replay Happening.disconnectAfterFirst
    let accepted : Stage :=
      ⟨run.2, .midnight, .completed 1 (.connect "ab") (.ok (.connection true none))⟩
    Run (accepted :: run.1) accepted.after ∧
      (∃ ending earlier, run.1 = ending :: earlier ∧ ending.Disconnects ∧
        (1, .connect "ab") ∈ ending.before.started) ∧
      run.2.session.token? = none ∧ accepted.after.session.token? = some "ab" := by
  intro run accepted
  have before : Run run.1 run.2 := Run.of_replay _ (by decide)
  refine ⟨.next accepted before (by decide), ?_, by decide, by decide⟩
  exact ⟨_, _, rfl, ⟨rfl, by decide, by decide, by decide⟩, by decide⟩

end DocsConsole
