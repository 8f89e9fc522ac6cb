import DocsConsole.Proofs.Console.InFlight

/-!
# What belongs to the token that is held

The repositories on screen should be those that were listed with the token that is
held, and the repository should have been chosen while it was held.  Both stay true
as long as no connection takes over from another one: several calls to connect may be
in flight at once, and the one that is accepted later replaces the token but nothing
that was fetched and chosen with the token before.
-/

namespace DocsConsole

namespace Console

/-- What is fetched and chosen belongs to the token that is held. -/
structure Owned (past : List Stage) (console : Console) : Prop where
  /-- The repositories are the last list that was kept, and it was asked for with the
  token. -/
  repositories : ∀ token, console.session.token? = some token →
    console.session.github.repositories ≠ [] →
      Stage.lastListing? past = some (token, console.session.github.repositories)
  /-- The repository is the last one that was chosen, while the token was held. -/
  repository : ∀ token repository, console.session.token? = some token →
    console.session.github.repository = some repository →
      Stage.lastChoice? past = some (some repository, some token)

end Console

open Console

namespace Stage

/-- A connection is accepted with another token than the one that is held, while
something is fetched or chosen. -/
def TakesOver (stage : Stage) : Prop :=
  ∃ token ∈ stage.happening.acceptedToken?, stage.before.session.token? ≠ some token ∧
    (stage.before.session.github.repositories ≠ [] ∨
      stage.before.session.github.repository ≠ none)

instance (stage : Stage) : Decidable stage.TakesOver :=
  inferInstanceAs (Decidable (∃ token ∈ stage.happening.acceptedToken?, _))

variable {stage : Stage} {past : List Stage}

/-- A connection that does not take over is one with the token that is held, if anything
is fetched or chosen. -/
theorem token?_of_peaceful {token : String} (peaceful : ¬stage.TakesOver)
    (connects : stage.change = .connected token)
    (present : stage.before.session.github.repositories ≠ [] ∨
      stage.before.session.github.repository ≠ none) :
    stage.before.session.token? = some token := by
  by_cases held : stage.before.session.token? = some token
  · exact held
  · have accepted : stage.happening.acceptedToken? = some token := by
      rw [acceptedToken?_eq, connects]
      rfl
    exact (peaceful ⟨token, accepted, held, present⟩).elim

/-- A stage in which no connection takes over keeps everything with its token. -/
theorem after_owned (owned : Owned past stage.before) (peaceful : ¬stage.TakesOver) :
    Owned (stage :: past) stage.after := by
  constructor
  · intro token held present
    rw [after_token?] at held
    rw [after_github] at present ⊢
    rw [lastListing?, List.findSome?_cons, listing?_eq]
    cases changes : stage.change with
    | connected accepted =>
        -- Something is kept, so the accepted token is the one that was held before.
        simp only [changes] at held
        cases held
        rw [changes] at present
        have same := token?_of_peaceful peaceful changes (Or.inl present)
        exact owned.repositories token same present
    | disconnected => simp [changes] at held
    | listed other repositories =>
        simp only [changes] at held
        rw [token?_of_listed changes] at held
        cases held
        rfl
    | _ =>
        simp only [changes] at held
        rw [changes] at present
        exact owned.repositories token held present
  · intro token repository held present
    rw [after_token?] at held
    rw [after_github] at present
    rw [lastChoice?, List.findSome?_cons, choice?_eq]
    cases changes : stage.change with
    | connected accepted =>
        simp only [changes] at held
        cases held
        rw [changes] at present
        have chosen : stage.before.session.github.repository = some repository := present
        have same := token?_of_peaceful peaceful changes (Or.inr (by simp [chosen]))
        exact owned.repository token repository same present
    | disconnected => simp [changes] at held
    | chosen name =>
        simp only [changes] at held
        rw [changes] at present
        change Session.choice name = some repository at present
        simp [Github.Change.choice?, present, held]
    | _ =>
        simp only [changes] at held
        rw [changes] at present
        exact owned.repository token repository held present

/-- After a connection has taken over, what was fetched and chosen is still there. -/
theorem after_not_owned (owned : Owned past stage.before)
    (fetched : stage.before.session.token? = none → stage.before.session.github = .empty)
    (takesOver : stage.TakesOver) : ¬Owned (stage :: past) stage.after := by
  obtain ⟨token, accepted, different, present⟩ := takesOver
  have changes := change_of_accepted accepted
  have now : stage.after.session.token? = some token := by
    simp [after_token?, changes]
  cases held : stage.before.session.token? with
  | none =>
      rw [fetched held] at present
      simp [Github.empty] at present
  | some other =>
      have distinct : other ≠ token := by
        rintro rfl
        exact different held
      intro stillOwned
      rcases present with repositories | repository
      · have before := owned.repositories other held repositories
        have after := stillOwned.repositories token now (by
          rw [after_github, changes]
          exact repositories)
        rw [lastListing?, after_github, List.findSome?_cons, listing?_eq, changes] at after
        change lastListing? past = some (token, _) at after
        rw [before] at after
        simp only [Option.some.injEq, Prod.mk.injEq] at after
        exact distinct after.1
      · obtain ⟨repository, chosen⟩ := Option.ne_none_iff_exists'.mp repository
        have before := owned.repository other repository held chosen
        have after := stillOwned.repository token repository now (by
          rw [after_github, changes]
          exact chosen)
        rw [lastChoice?, List.findSome?_cons, choice?_eq, changes] at after
        change lastChoice? past = some (some repository, some token) at after
        rw [before] at after
        simp only [Option.some.injEq, Prod.mk.injEq, true_and] at after
        exact distinct after

end Stage

namespace Run

variable {past : List Stage} {console : Console}

/-- A run in which no connection takes over keeps everything with its token. -/
theorem owned (run : Run past console) (peaceful : ∀ stage ∈ past, ¬stage.TakesOver) :
    Owned past console := by
  induction run with
  | launched settings workspace moment files qualityFile =>
      have unconnected : ((Console.initial settings workspace).load moment files
          qualityFile).session.token? = none := by
        rw [Session.token?, (load_sameDealings _ moment files qualityFile).github]
        rfl
      constructor <;> simp [unconnected]
  | next stage run answers induction =>
      have earlier := induction fun stage member => peaceful stage (List.mem_cons_of_mem _ member)
      exact Stage.after_owned earlier (peaceful stage List.mem_cons_self)

/-- A chosen repository was chosen in some stage, while a token was held. -/
theorem exists_choice (run : Run past console) {repository : String}
    (chosen : console.session.github.repository = some repository) :
    ∃ held, Stage.lastChoice? past = some (some repository, some held) := by
  induction run with
  | launched settings workspace moment files qualityFile =>
      rw [(load_sameDealings _ moment files qualityFile).github] at chosen
      contradiction
  | next stage run answers induction =>
      rw [stage.after_github] at chosen
      rw [Stage.lastChoice?, List.findSome?_cons, stage.choice?_eq]
      cases changes : stage.change with
      | disconnected =>
          rw [changes] at chosen
          contradiction
      | chosen name =>
          rw [changes] at chosen
          change Session.choice name = some repository at chosen
          obtain ⟨held, token⟩ := Option.isSome_iff_exists.mp (Stage.connected_of_chosen changes)
          exact ⟨held, by simp [Github.Change.choice?, chosen, token]⟩
      | _ =>
          rw [changes] at chosen
          exact induction chosen

/-- A pull request is opened for a repository with the token of the connection that was
accepted last since the repository was chosen, or else with the one that was held then. -/
theorem pullRequest_choice (run : Run past console) {ticket : Ticket} {token : String}
    {draft : PullRequestDraft}
    (started : (ticket, .openPullRequest token draft) ∈ console.started) :
    ∃ since sent before, past = since ++ sent :: before ∧
      sent.Sends (ticket, .openPullRequest token draft) ∧
      sent.after.session.Fits (.openPullRequest token draft) ∧
      ∃ between choosing earlier held, sent :: before = between ++ choosing :: earlier ∧
        choosing.choice? = some (some draft.repository, some held) ∧
        (∀ stage ∈ between, stage.choice? = none) ∧
        token = (Stage.lastAccepted? between).getD held := by
  obtain ⟨since, sent, before, division, sends, fits⟩ := run.sent started
  rw [division] at run
  have sending := run.of_append.2
  have sentWith := fits.1
  obtain ⟨held, last⟩ := sending.exists_choice fits.2.1
  obtain ⟨between, choosing, earlier, parts, choice, unchosen⟩ :=
    List.findSome?_eq_some_iff.mp last
  have accepted : token = (Stage.lastAccepted? between).getD held := by
    rw [parts] at sending
    have connected : sent.after.session.isConnected = true := by
      rw [Session.isConnected, sentWith]
      rfl
    have now := sending.token?_since (Stage.token?_of_choice choice) connected
    rw [sentWith] at now
    exact Option.some.inj now
  exact ⟨since, sent, before, division, sends, fits,
    between, choosing, earlier, held, parts, choice, unchosen, accepted⟩

/-- In every state of a run the repositories and the chosen one belong to the token that
is held, if and only if no connection takes over in the run.  A pull request is opened with
the token that was held when its repository was chosen if and only if no connection with
another token was the last to be accepted in between; if none takes over, that is always so. -/
theorem owned_iff_peaceful (run : Run past console) :
    ((∀ earlier visited, earlier <:+ past → Run earlier visited → Owned earlier visited) ↔
      ∀ stage ∈ past, ¬stage.TakesOver) ∧
    ∀ ticket token draft, (ticket, .openPullRequest token draft) ∈ console.started →
      ∃ since sent before, past = since ++ sent :: before ∧
        sent.Sends (ticket, .openPullRequest token draft) ∧
        ∃ between choosing earlier held, sent :: before = between ++ choosing :: earlier ∧
          choosing.choice? = some (some draft.repository, some held) ∧
          (∀ stage ∈ between, stage.choice? = none) ∧
          (held = token ↔ ∀ accepted ∈ Stage.lastAccepted? between, accepted = held) ∧
          ((∀ stage ∈ past, ¬stage.TakesOver) → held = token) := by
  constructor
  · constructor
    · intro always stage member
      obtain ⟨since, earlier, division⟩ := List.append_of_mem member
      rw [division] at run
      obtain ⟨before, after⟩ := run.of_append
      intro takesOver
      refine Stage.after_not_owned (always earlier stage.before ?_ before) before.github_empty
        takesOver (always (stage :: earlier) stage.after ?_ after)
      · exact ⟨since ++ [stage], by simp [division]⟩
      · exact ⟨since, division.symm⟩
    · intro peaceful earlier visited suffix visit
      exact visit.owned fun stage member => peaceful stage (suffix.subset member)
  · intro ticket token draft started
    obtain ⟨since, sent, before, division, sends, fits, between, choosing, earlier, held, parts,
      choice, unchosen, last⟩ := run.pullRequest_choice started
    refine ⟨since, sent, before, division, sends, between, choosing, earlier, held, parts,
      choice, unchosen, ?_, ?_⟩
    · rw [last]
      cases Stage.lastAccepted? between with
      | none => simp
      | some accepted => simp [eq_comm]
    · intro peaceful
      rw [division] at run peaceful
      have owned := run.of_append.2.owned fun stage member =>
        peaceful stage (List.mem_append_right since member)
      have chosen := owned.repository token draft.repository fits.1 fits.2.1
      have made : Stage.lastChoice? (sent :: before) = some (some draft.repository, some held) :=
        List.findSome?_eq_some_iff.mpr ⟨between, choosing, earlier, parts, choice, unchosen⟩
      rw [made] at chosen
      simp only [Option.some.injEq, Prod.mk.injEq, true_and] at chosen
      exact chosen

end Run

/-- While two calls to connect are in flight, the first one is accepted, and a repository
is chosen from the list that it brings. -/
def Happening.choiceOfFirst : List Happening :=
  [.pressed .shortcuts .enter, .pressed .shortcuts (.character 'j'),
    .completed 2 (.listRepositories "a") (.ok (.names ["x"])),
    .completed 0 (.connect "a") (.ok (.connection true none))] ++ Happening.twoConnects

theorem owned_of_choiceOfFirst :
    let run := replay Happening.choiceOfFirst
    Run run.1 run.2 ∧ run.2.session.token? = some "a" ∧
      run.2.session.github.repositories = ["x"] ∧
      run.2.session.github.repository = some "x" ∧ Owned run.1 run.2 := by
  intro run
  have happened : Run run.1 run.2 := Run.of_replay _ (by decide)
  have peaceful : ∀ stage ∈ run.1, ¬stage.TakesOver := by decide
  refine ⟨happened, by decide, by decide, by decide, ?_⟩
  exact happened.owned_iff_peaceful.1.mpr peaceful _ _ (List.suffix_refl _) happened

/-- The pull request that is filled in for the repository chosen with the first token. -/
def PullRequestDraft.forFirst : PullRequestDraft :=
  ⟨"x", "m", "c", .inlineComments, "t", "", "u"⟩

/-- Comments are generated for a file.  While two calls to connect are in flight, the first
one is accepted, a repository and a branch are chosen and the form is filled in; then the
second one is accepted, and the form is submitted. -/
def Happening.submissionAfterSecond : List Happening :=
  [.reported .typing (.pressed ⟨.character 's', true, false⟩),
    .completed 2 (.connect "ab") (.ok (.connection true none)),
    .pressed .typing (.character 'u'), .pressed .typing .tab, .pressed .typing .tab,
    .pressed .typing (.character 't'), .pressed .shortcuts (.character 'e'),
    .pressed .shortcuts .tab, .pressed .shortcuts .enter, .pressed .shortcuts (.character 'j'),
    .pressed .shortcuts .tab,
    .completed 4 (.listBranches "a" "x") (.ok (.names ["m"])),
    .pressed .shortcuts .enter, .pressed .shortcuts (.character 'j'),
    .completed 3 (.listRepositories "a") (.ok (.names ["x"])),
    .completed 1 (.connect "a") (.ok (.connection true none))] ++ twoConnects ++
  [.completed 0 (.generateDocs ⟨[⟨"f", "/f", ⟨#[]⟩⟩], .inlineComments, "", ""⟩)
      (.ok (.content "c")),
    .pressed .shortcuts (.character 'g'), .pressed .shortcuts (.character 'p'),
    .reported .shortcuts (.pasted "/f"), .filesChanged ⟨[(["f"], .file ⟨#[]⟩)], []⟩]

/-- The repositories that were listed and the one that was chosen with the first token stay
when the second one is held, and a pull request goes there with the second one. -/
theorem second_connection_keeps_choice :
    let run := replay Happening.submissionAfterSecond
    Run run.1 run.2 ∧ run.2.session.token? = some "ab" ∧
      run.2.session.github.repositories = ["x"] ∧
      Stage.lastListing? run.1 = some ("a", ["x"]) ∧
      run.2.session.github.repository = some "x" ∧
      Stage.lastChoice? run.1 = some (some "x", some "a") ∧
      (6, .openPullRequest "ab" .forFirst) ∈ run.2.started ∧ ¬Owned run.1 run.2 := by
  intro run
  have listed : Stage.lastListing? run.1 = some ("a", ["x"]) := by decide +kernel
  refine ⟨Run.of_replay _ (by decide +kernel), by decide +kernel, by decide +kernel, listed,
    by decide +kernel, by decide +kernel, by decide +kernel, ?_⟩
  intro owned
  have expected := owned.repositories "ab" (by decide +kernel) (by decide +kernel)
  rw [listed] at expected
  exact absurd expected (by decide +kernel)

end DocsConsole
