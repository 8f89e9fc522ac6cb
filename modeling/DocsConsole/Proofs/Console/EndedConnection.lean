import DocsConsole.Proofs.Console.Disconnection

/-!
# What is left of a connection that has ended

While the session is disconnected nothing is there that was fetched or chosen with a
token.  Lists may still be asked for with the token of the connection that has ended, and
they may arrive at any time.  They find no token and no chosen repository, so they are
dropped.
-/

namespace DocsConsole

/-- Nothing is left of a connection that has ended, and what arrives later leaves it so until
a connection is accepted. -/
theorem Run.nothing_of_ended_connection {past : List Stage} {console : Console}
    (run : Run past console)
    (ended : console.session.github.connection = .disconnected) :
    (console.session.github.repositories = [] ∧ console.session.github.branches = [] ∧
      console.session.github.repository = none ∧ console.session.github.branch = none) ∧
    ∀ stage : Stage, stage.before = console →
      stage.happening.Answers console.started (Stage.answered past) →
      stage.happening.acceptedToken? = none → stage.after.session.github = .empty := by
  have unconnected : console.session.token? = none := by
    simp [Session.token?, ended]
  constructor
  · rw [run.github_empty unconnected]
    exact ⟨rfl, rfl, rfl, rfl⟩
  · intro stage here answers unaccepted
    subst here
    have later : Run (stage :: past) stage.after := .next stage run answers
    have stillUnconnected : stage.after.session.token? = none :=
      Stage.after_token?_of_unaccepted unaccepted unconnected
    exact later.github_empty stillUnconnected

/-- Two connections are accepted, and with the second one a repository is chosen.  When the
user has disconnected, the repositories of the first one arrive. -/
def Happening.lateRepositories : List Happening :=
  [.completed 2 (.listRepositories "a") (.ok (.names ["y"])),
    .pressed .shortcuts (.character 'D'), .pressed .shortcuts .enter,
    .pressed .shortcuts (.character 'j'),
    .completed 3 (.listRepositories "ab") (.ok (.names ["x"])),
    .completed 1 (.connect "ab") (.ok (.connection true none)),
    .completed 0 (.connect "a") (.ok (.connection true none))] ++ Happening.twoConnects

theorem nothing_left_of_lateRepositories :
    let run := replay Happening.lateRepositories
    let branches : Stage :=
      ⟨run.2, .midnight, .completed 4 (.listBranches "ab" "x") (.ok (.names ["main"]))⟩
    Run run.1 run.2 ∧ run.2.session.github.connection = .disconnected ∧
      run.2.session.github.repositories = [] ∧ run.2.session.github.repository = none ∧
      Run (branches :: run.1) branches.after ∧ branches.after.session.github = .empty := by
  intro run branches
  have happened : Run run.1 run.2 := Run.of_replay _ (by decide)
  have ended : run.2.session.github.connection = .disconnected := by decide
  have answers : branches.happening.Answers run.2.started (Stage.answered run.1) := by decide
  obtain ⟨⟨repositories, _, repository, _⟩, later⟩ := happened.nothing_of_ended_connection ended
  exact ⟨happened, ended, repositories, repository, .next branches happened answers,
    later branches rfl answers rfl⟩

end DocsConsole
