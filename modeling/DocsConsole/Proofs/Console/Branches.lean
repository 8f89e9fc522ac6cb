import DocsConsole.Proofs.Console.Ownership

/-!
# Branches and the token they were asked for with

A list of branches is kept if its repository is the chosen one.  That it was asked for
with the token that is held is not looked at.  So a list that was asked for with the
token of an earlier connection is kept if the same repository was chosen again.
-/

namespace DocsConsole

open Console

section Completed

variable {stage : Stage} {ticket : Ticket} {call : Backend.Call}
  {result : Except Backend.CallFailure Backend.Answer}

/-- A completion only changes the branches if it answers a call for those of the chosen
repository. -/
theorem Stage.listBranches_of_completed (happens : stage.happening = .completed ticket call result)
    (changes : stage.after.session.github.branches ≠ stage.before.session.github.branches) :
    ∃ token repository, call = .listBranches token repository ∧
      result = .ok (.names stage.after.session.github.branches) ∧
      stage.before.session.github.repository = some repository := by
  rw [after_github, change_of_completed happens] at changes ⊢
  rcases Outcome.ofResult_told ticket call result with _ | ⟨_, token, repositories⟩ |
    ⟨_, token, repository, branches⟩ | ⟨_, _, _, unchanging⟩
  · exact (changes rfl).elim
  · by_cases held : stage.before.session.token? = some token
    · simp [Outcome.ofResult, Outcome.change, held, Github.change] at changes
    · simp [Outcome.ofResult, Outcome.change, held, Github.change] at changes
  · by_cases wanted : stage.before.session.wantsBranches repository = true
    · refine ⟨token, repository, rfl, ?_, by simpa [Session.wantsBranches] using wanted⟩
      simp [Outcome.ofResult, Outcome.change, wanted, Github.change]
    · simp [Outcome.ofResult, Outcome.change, wanted, Github.change] at changes
  · rw [unchanging] at changes
    exact (changes rfl).elim

/-- Branches that a completion brings were asked for in one stage for the repository that
is chosen now, with the token that was held then.  That token is held now if and only if
no connection with another one was the last to be accepted since. -/
theorem Run.branches_of_completed {past : List Stage} {console : Console}
    (run : Run (stage :: past) console)
    (happens : stage.happening = .completed ticket call result)
    (changes : stage.after.session.github.branches ≠ stage.before.session.github.branches) :
    ∃ token repository, call = .listBranches token repository ∧
      result = .ok (.names stage.after.session.github.branches) ∧
      stage.before.session.github.repository = some repository ∧
      ∃ since sent earlier, past = since ++ sent :: earlier ∧ sent.Sends (ticket, call) ∧
        sent.after.session.token? = some token ∧
        sent.after.session.github.repository = some repository ∧
        (stage.before.session.token? = some token ↔
          ∀ accepted ∈ Stage.lastAccepted? since, accepted = token) := by
  obtain ⟨token, repository, asked, brought, chosen⟩ :=
    Stage.listBranches_of_completed happens changes
  subst asked
  cases run with
  | next stage before answers =>
      rw [happens] at answers
      obtain ⟨since, sent, earlier, division, sends, held, target⟩ := before.sent answers.1
      have connected : stage.before.session.isConnected = true := by
        cases token_ : stage.before.session.token? with
        | some other => simp [Session.isConnected, token_]
        | none =>
            rw [before.github_empty token_] at chosen
            contradiction
      have now : stage.before.session.token? =
          some ((Stage.lastAccepted? since).getD token) := by
        rw [division] at before
        exact before.token?_since held connected
      refine ⟨token, repository, rfl, brought, chosen, since, sent, earlier, division, sends,
        held, target, ?_⟩
      rw [now]
      cases Stage.lastAccepted? since <;> simp

end Completed

/-- The branches of the repository that was chosen with the first connection arrive. -/
theorem branches_of_choiceOfFirst :
    let run := replay Happening.choiceOfFirst
    let answered : Stage :=
      ⟨run.2, .midnight, .completed 3 (.listBranches "a" "x") (.ok (.names ["main"]))⟩
    Run (answered :: run.1) answered.after ∧
      answered.after.session.github.branches = ["main"] ∧
      ∃ since sent earlier, run.1 = since ++ sent :: earlier ∧
        sent.Sends (3, .listBranches "a" "x") ∧
        (answered.before.session.token? = some "a" ↔
          ∀ accepted ∈ Stage.lastAccepted? since, accepted = "a") := by
  intro run answered
  have before : Run run.1 run.2 := Run.of_replay _ (by decide)
  have happened : Run (answered :: run.1) answered.after := .next answered before (by decide)
  obtain ⟨token, repository, asked, _, _, since, sent, earlier, division, sends, _, _, exact_⟩ :=
    happened.branches_of_completed rfl (by decide)
  cases asked
  exact ⟨happened, by decide, since, sent, earlier, division, sends, exact_⟩

/-- After the user has disconnected from the first connection the second one is accepted,
and the repository of the same name is chosen again. -/
def Happening.choiceOfSecond : List Happening :=
  [.pressed .shortcuts .enter, .pressed .shortcuts (.character 'j'),
    .completed 4 (.listRepositories "ab") (.ok (.names ["x"])),
    .completed 1 (.connect "ab") (.ok (.connection true none)),
    .pressed .shortcuts (.character 'D')] ++ choiceOfFirst

/-- The branches that were asked for with the first token are kept all the same. -/
theorem branches_of_ended_connection :
    let run := replay Happening.choiceOfSecond
    let answered : Stage :=
      ⟨run.2, .midnight, .completed 3 (.listBranches "a" "x") (.ok (.names ["old"]))⟩
    Run (answered :: run.1) answered.after ∧ run.2.session.token? = some "ab" ∧
      run.2.session.github.branches = [] ∧
      answered.after.session.github.branches = ["old"] := by
  intro run answered
  have before : Run run.1 run.2 := Run.of_replay _ (by decide)
  exact ⟨.next answered before (by decide), by decide, by decide, by decide⟩

end DocsConsole
