import DocsConsole.Proofs.Console.Provenance
import Mathlib.Data.List.Nodup

/-!
# Calls in flight

The calls of a run that are not answered yet are exactly those that hold a ticket,
in the order in which they were started.  So the loading sign is on as long as one
of them is open, names the one that was started last, and is not touched by anything
but a call that is started or a completion, which takes back its own ticket only.
-/

namespace DocsConsole

namespace Console

/-- The calls among those started that are not answered. -/
def openCalls (answered : List Ticket) (started : List (Ticket × Backend.Call)) :
    List (Ticket × Backend.Call) :=
  started.filter fun entry => entry.1 ∉ answered

/-- What the loading sign keeps of a call. -/
def shown (entry : Ticket × Backend.Call) : Ticket × String :=
  (entry.1, label entry.2)

/-- The books of a console agree with the tickets that were given back. -/
structure Balanced (answered : List Ticket) (console : Console) : Prop where
  numbered : ∀ entry ∈ console.started, entry.1 < console.session.loading.next
  answered_numbered : ∀ ticket ∈ answered, ticket < console.session.loading.next
  tickets_distinct : (console.started.map (·.1)).Nodup
  pending : console.session.loading.pending =
    (openCalls answered console.started).map shown

theorem openCalls_append (answered : List Ticket)
    (started more : List (Ticket × Backend.Call)) :
    openCalls answered (started ++ more) =
      openCalls answered started ++ openCalls answered more := by
  simp [openCalls]

/-- To answer one more ticket is to leave out its call. -/
theorem openCalls_cons (ticket : Ticket) (answered : List Ticket)
    (started : List (Ticket × Backend.Call)) :
    openCalls (ticket :: answered) started =
      (openCalls answered started).filter fun entry => entry.1 ≠ ticket := by
  unfold openCalls
  rw [List.filter_filter]
  apply List.filter_congr
  intro entry _
  simp [not_or]

namespace Balanced

variable {answered : List Ticket} {before after : Console}

theorem starts {call? : Option Backend.Call} (balanced : Balanced answered before)
    (starts : Starts before after call?) : Balanced answered after := by
  cases starts with
  | none loading started =>
      constructor
      · rw [loading, started]
        exact balanced.numbered
      · rw [loading]
        exact balanced.answered_numbered
      · rw [started]
        exact balanced.tickets_distinct
      · rw [loading, started]
        exact balanced.pending
  | one call loading started _ =>
      -- The new ticket is above all others, so it is neither used nor answered.
      have fresh : before.session.loading.next ∉ answered := by
        intro member
        exact Nat.lt_irrefl _ (balanced.answered_numbered _ member)
      have unused : before.session.loading.next ∉ before.started.map (·.1) := by
        intro member
        obtain ⟨entry, entryMember, same⟩ := List.mem_map.mp member
        have below := balanced.numbered entry entryMember
        rw [same] at below
        exact Nat.lt_irrefl _ below
      constructor
      · rw [loading, started]
        intro entry member
        rcases List.mem_append.mp member with earlier | new
        · exact Nat.lt_succ_of_lt (balanced.numbered entry earlier)
        · rw [List.mem_singleton.mp new]
          exact Nat.lt_succ_self _
      · rw [loading]
        intro ticket member
        exact Nat.lt_succ_of_lt (balanced.answered_numbered ticket member)
      · rw [started, List.map_append, List.map_singleton]
        exact List.Nodup.append balanced.tickets_distinct (List.nodup_singleton _)
          (by simpa using unused)
      · rw [loading, started, openCalls_append, List.map_append, ← balanced.pending]
        simp [Loading.start, openCalls, fresh, shown]

theorem released (balanced : Balanced answered before) {ticket : Ticket}
    (numbered : ticket < before.session.loading.next) :
    Balanced (ticket :: answered) (before.released ticket) := by
  constructor
  · exact balanced.numbered
  · intro other member
    rcases List.mem_cons.mp member with rfl | earlier
    · exact numbered
    · exact balanced.answered_numbered other earlier
  · exact balanced.tickets_distinct
  · have filtered : (before.released ticket).session.loading.pending =
        before.session.loading.pending.filter (·.1 ≠ ticket) := rfl
    rw [filtered, balanced.pending, List.filter_map, openCalls_cons]
    rfl

end Balanced

end Console

open Console

/-- A stage keeps the books balanced. -/
theorem Stage.after_balanced {stage : Stage} {past : List Stage}
    (balanced : Balanced (answered past) stage.before)
    (answers : stage.happening.Answers stage.before.started (answered past)) :
    Balanced (answered (stage :: past)) stage.after := by
  cases happens : stage.happening with
  | completed ticket call result =>
      have more : answered (stage :: past) = ticket :: answered past := by
        simp [answered, happens, Happening.ticket?]
      rw [happens] at answers
      have numbered := balanced.numbered _ answers.1
      rw [more]
      exact (balanced.released numbered).starts (stage.after_starts_of_completed happens)
  | _ =>
      have newsless : stage.happening.ticket? = none := by rw [happens]; rfl
      have same : answered (stage :: past) = answered past := by
        simp [answered, newsless]
      rw [same]
      exact balanced.starts (stage.after_starts newsless)

theorem Run.balanced {past : List Stage} {console : Console} (run : Run past console) :
    Balanced (Stage.answered past) console := by
  induction run with
  | launched settings workspace moment files qualityFile =>
      have same := (Console.initial settings workspace).load_sameDealings moment files qualityFile
      have empty : Balanced [] (Console.initial settings workspace) := by
        constructor <;> simp [Console.initial, Session.initial, Loading.idle, openCalls]
      exact empty.starts same.starts
  | next stage run answers induction => exact Stage.after_balanced induction answers

/-- Leaving out an entry by its ticket leaves all others where they are. -/
theorem filter_ticket_eq {entry : Ticket × Backend.Call}
    {earlier later : List (Ticket × Backend.Call)}
    (distinct : ((earlier ++ entry :: later).map (·.1)).Nodup) :
    (earlier ++ entry :: later).filter (fun other => other.1 ≠ entry.1) = earlier ++ later := by
  rw [List.map_append, List.map_cons, List.nodup_middle, List.nodup_cons,
    ← List.map_append] at distinct
  have others : ∀ other ∈ earlier ++ later, other.1 ≠ entry.1 := by
    intro other member same
    exact distinct.1 (List.mem_map.mpr ⟨other, member, same⟩)
  rw [List.filter_append, List.filter_cons_of_neg (by simp), ← List.filter_append]
  apply List.filter_eq_self.mpr
  intro other member
  simpa using others other member

/-- Nothing but an accepted connection leads to a further call. -/
theorem Happening.followUp?_eq (ticket : Ticket) (call : Backend.Call)
    (result : Except Backend.CallFailure Backend.Answer) :
    (Outcome.ofResult call result).followUp? =
      (Happening.completed ticket call result).acceptedToken?.map .listRepositories := by
  rcases Outcome.ofResult_told ticket call result with _ | _ | _ | ⟨unaccepted, _, unfollowed, _⟩
  · rfl
  · rfl
  · rfl
  · rw [unaccepted, unfollowed]
    rfl

/-- A completion takes back its own ticket and no other, and what follows from it is
started after all the rest. -/
theorem Console.Balanced.after_completed {stage : Stage} {answered : List Ticket}
    (balanced : Balanced answered stage.before) {ticket : Ticket} {call : Backend.Call}
    {result : Except Backend.CallFailure Backend.Answer}
    (happens : stage.happening = .completed ticket call result)
    (answers : stage.happening.Answers stage.before.started answered) :
    ∃ earlier later,
      openCalls answered stage.before.started = earlier ++ (ticket, call) :: later ∧
        stage.after.session.loading.pending = (earlier ++ later ++
          (Outcome.ofResult call result).followUp?.toList.map
            (stage.before.session.loading.next, ·)).map shown ∧
        stage.after.started = stage.before.started ++
          (Outcome.ofResult call result).followUp?.toList.map
            (stage.before.session.loading.next, ·) := by
  rw [happens] at answers
  obtain ⟨started, unanswered⟩ := answers
  have isOpen : (ticket, call) ∈ openCalls answered stage.before.started := by
    simp [openCalls, started, unanswered]
  obtain ⟨earlier, later, division⟩ := List.append_of_mem isOpen
  have distinct : ((earlier ++ (ticket, call) :: later).map (·.1)).Nodup := by
    rw [← division]
    exact balanced.tickets_distinct.sublist (List.filter_sublist.map _)
  have kept : (stage.before.released ticket).session.loading.pending =
      (earlier ++ later).map shown := by
    have numbered := balanced.numbered _ started
    rw [(balanced.released numbered).pending, openCalls_cons]
    change ((openCalls answered stage.before.started).filter _).map shown = _
    rw [division, filter_ticket_eq distinct]
  refine ⟨earlier, later, division, ?_⟩
  have starts := stage.after_starts_of_completed happens
  cases followed : (Outcome.ofResult call result).followUp? with
  | none =>
      rw [followed] at starts
      cases starts with
      | none loading same =>
          rw [loading, kept, same]
          exact ⟨by simp, by simp [Console.released]⟩
  | some next =>
      rw [followed] at starts
      cases starts with
      | one _ loading same _ =>
          rw [loading, same, Loading.start, kept]
          exact ⟨by simp [shown, Console.released, Session.finishCall, Loading.release], rfl⟩

/-- After any run, as many calls are loading as are not answered, the label is that of
the one started last of them, and the sign is on if there is one.  The next completion
takes back its own ticket and no other; it starts the listing of repositories if it
accepts a connection, and nothing else. -/
theorem Run.loading_eq_openCalls {past : List Stage} {console : Console}
    (run : Run past console) :
    (console.session.loading.count =
        (openCalls (Stage.answered past) console.started).length ∧
      console.session.loading.currentLabel? =
        (openCalls (Stage.answered past) console.started).getLast?.map (label ·.2) ∧
      (console.session.visibility.loading = true ↔
        openCalls (Stage.answered past) console.started ≠ [])) ∧
    ∀ (stage : Stage) (ticket : Ticket) (call : Backend.Call)
      (result : Except Backend.CallFailure Backend.Answer),
      stage.before = console → stage.happening = .completed ticket call result →
      stage.happening.Answers console.started (Stage.answered past) →
      ∃ earlier later,
        console.session.loading.pending = earlier ++ (ticket, label call) :: later ∧
          match stage.happening.acceptedToken? with
          | some token =>
              stage.after.session.loading.pending = earlier ++ later ++
                  [(console.session.loading.next, "Loading repositories")] ∧
                stage.after.started = console.started ++
                  [(console.session.loading.next, .listRepositories token)]
          | none =>
              stage.after.session.loading.pending = earlier ++ later ∧
                stage.after.started = console.started := by
  have balanced := run.balanced
  refine ⟨⟨?_, ?_, ?_⟩, ?_⟩
  · rw [Loading.count, balanced.pending, List.length_map]
  · rw [Loading.currentLabel?, balanced.pending, List.getLast?_map, Option.map_map]
    rfl
  · simp [Session.visibility, Loading.isActive, balanced.pending]
  · intro stage ticket call result here happens answers
    subst here
    obtain ⟨earlier, later, division, pending, started⟩ :=
      balanced.after_completed happens answers
    refine ⟨earlier.map shown, later.map shown, ?_, ?_⟩
    · rw [balanced.pending, division, List.map_append, List.map_cons]
      rfl
    · rw [happens]
      rw [Happening.followUp?_eq ticket] at pending started
      cases accepted : (Happening.completed ticket call result).acceptedToken? with
      | none =>
          rw [accepted] at pending started
          exact ⟨by simpa using pending, by simpa using started⟩
      | some token =>
          rw [accepted] at pending started
          refine ⟨?_, started⟩
          rw [pending, List.map_append, List.map_append]
          rfl

/-- While two calls to connect are in flight, the first one is accepted. -/
theorem loading_eq_openCalls_of_two_connects :
    let run := replay Happening.twoConnects
    let accepted : Stage :=
      ⟨run.2, .midnight, .completed 0 (.connect "a") (.ok (.connection true none))⟩
    Run run.1 run.2 ∧ accepted.happening.Answers run.2.started (Stage.answered run.1) ∧
      run.2.session.loading.count = 2 ∧
      run.2.session.loading.currentLabel? = some "Connecting to GitHub" ∧
      ∃ earlier later,
        run.2.session.loading.pending = earlier ++ (0, "Connecting to GitHub") :: later ∧
          accepted.after.session.loading.pending =
            earlier ++ later ++ [(2, "Loading repositories")] ∧
          accepted.after.started = run.2.started ++ [(2, .listRepositories "a")] := by
  intro run accepted
  have happened : Run run.1 run.2 := Run.of_replay _ (by decide)
  have answers : accepted.happening.Answers run.2.started (Stage.answered run.1) := by decide
  obtain ⟨⟨count, current, _⟩, completed⟩ := happened.loading_eq_openCalls
  refine ⟨happened, answers, ?_, ?_, ?_⟩
  · rw [count]
    decide
  · rw [current]
    decide
  · exact completed accepted 0 (.connect "a") _ rfl rfl answers

end DocsConsole
