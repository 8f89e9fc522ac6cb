import DocsConsole.Proofs.Console.Effects

/-!
# Dispatches in turn

What a panel asks for is dispatched in turn, and what is asked for then again.  No bound on this is
written down anywhere, but it ends after one request: a request is never answered with another one.
Help cannot take that request, since an action that help does not take leaves it closed when a panel
asks for something.
-/

namespace DocsConsole.Console

/-- An action is dispatched, and then what panels ask for, one request after the other, until
nothing is asked for. -/
inductive Chain (moment : Moment) : Console → Action → List Request → Console → Prop where
  | ends {console next : Console} {action : Action}
      (step : console.step moment action = (next, none)) : Chain moment console action [] next
  | goesOn {console asking next : Console} {action : Action} {request : Request}
      {requests : List Request} (step : console.step moment action = (asking, some request))
      (chain : Chain moment asking (.request request) requests next) :
      Chain moment console action (request :: requests) next

namespace Chain

variable {moment : Moment} {console next : Console} {action : Action} {requests : List Request}
  (chain : Chain moment console action requests next)

include chain

theorem length_le_one : requests.length ≤ 1 := by
  cases chain with
  | ends => exact Nat.zero_le 1
  | @goesOn _ asking _ _ request _ step chain =>
      cases chain with
      | ends => exact Nat.le_refl 1
      | goesOn asksAgain =>
          have silent := step_request asking moment request
          rw [asksAgain] at silent
          contradiction

/-- A bound on the dispatches does not count if the chain is shorter. -/
theorem dispatch_eq {limit : Nat} (enough : requests.length < limit) :
    dispatch moment limit console action = next := by
  induction chain generalizing limit with
  | ends step =>
      obtain ⟨limit, rfl⟩ := Nat.exists_eq_add_of_lt enough
      rw [dispatch, step]
  | goesOn step _ induction =>
      obtain ⟨limit, rfl⟩ : ∃ fewer, limit = fewer + 1 := ⟨limit - 1, by omega⟩
      rw [dispatch, step]
      apply induction
      rw [List.length_cons] at enough
      omega

end Chain

variable (console : Console) (moment : Moment) (action : Action)

theorem exists_chain : ∃ requests next, Chain moment console action requests next := by
  cases step : console.step moment action with
  | mk asking asks =>
      cases asks with
      | none => exact ⟨[], asking, .ends step⟩
      | some request =>
          have silent := step_request asking moment request
          exact ⟨[request], _, .goesOn step (.ends (Prod.ext rfl silent))⟩

/-! ## The panel that sees a request -/

theorem startWithToken_tab (call : String → Backend.Call) :
    (console.startWithToken moment call).session.tab = console.session.tab := by
  unfold startWithToken
  split <;> rfl

/-- What a panel asks for does not show another tab. -/
theorem fulfil_tab (request : Request) :
    (console.fulfil moment request).session.tab = console.session.tab := by
  cases request with
  | addPaths paths target =>
      have same := (console.addPaths_sameButToast moment paths target).sameWork.session
      rw [fulfil, same]
      cases target with
      | documentation => rfl
      | quality =>
          dsimp only [Session.addFiles]
          split <;> rfl
  | removeFile index =>
      rw [fulfil, removeFile]
      cases console.session.uploads[index]? <;> rfl
  | removeQualityFile =>
      rw [fulfil, removeQualityFile]
      cases console.session.qualityFile <;> rfl
  | generateDocs projectName instructions =>
      rw [fulfil]
      cases console.session.docsRequest projectName instructions <;> rfl
  | connect token =>
      rw [fulfil]
      cases Session.connectRequest token <;> rfl
  | selectRepository name =>
      dsimp only [fulfil, selectRepository]
      split
      · apply startWithToken_tab
      · rfl
  | selectBranch name => rfl
  | openPullRequest title description commitMessage =>
      dsimp only [fulfil, openPullRequest]
      split
      · apply startWithToken_tab
      · rfl

/-- Without help over it, the panel on screen sees a request once the request is done. -/
theorem step_request_of_closed {console : Console} (closed : console.helpOpen = false)
    (request : Request) :
    console.step moment (.request request) =
      (((console.fulfil moment request).askPanel (.request request)).1.withMode, none) := by
  have silent := askPanel_request (console.fulfil moment request) request
  rw [step_of_taken (Or.inl closed) (by simp)]
  exact Prod.ext rfl silent

/-- Every action is handled by a chain of dispatches, which has at most one request in it and
which `handle` computes whole.  The request is done, and then the panel on screen sees it, under
no help, and asks for nothing. -/
theorem handle_chains :
    (∃ requests, Chain moment console action requests (console.handle moment action)) ∧
      (∀ requests next, Chain moment console action requests next →
        requests.length ≤ 1 ∧ next = console.handle moment action) ∧
      ∀ asking request, console.step moment action = (asking, some request) →
        asking.helpOpen = false ∧
          (asking.fulfil moment request).session.tab = asking.session.tab ∧
          ((asking.fulfil moment request).askPanel (.request request)).2 = none ∧
          console.handle moment action =
            ((asking.fulfil moment request).askPanel (.request request)).1.withMode := by
  have short : ∀ requests next, Chain moment console action requests next →
      requests.length ≤ 1 ∧ next = console.handle moment action := by
    intro requests next chain
    have bounded := chain.length_le_one
    exact ⟨bounded, (chain.dispatch_eq (Nat.lt_succ_of_le bounded)).symm⟩
  refine ⟨?_, short, ?_⟩
  · obtain ⟨requests, next, chain⟩ := exists_chain console moment action
    obtain ⟨-, same⟩ := short requests next chain
    exact ⟨requests, same ▸ chain⟩
  · intro asking request step
    have asks : (console.step moment action).2 = some request := by rw [step]
    have closed := (step_sameWork_of_asks asks).1
    have handled := handle_of_asks asks
    rw [step] at closed handled
    rw [step_request_of_closed moment closed] at handled
    exact ⟨closed, asking.fulfil_tab moment request, askPanel_request _ request, handled⟩

/-- The shortcut for generating documents is one that a panel answers with a request. -/
theorem handle_chains_of_generate :
    let console := Console.initial .standard ⟨⟨[], []⟩, ""⟩
    let moment : Moment := ⟨0, ⟨0, 0, 0⟩⟩
    let request : Request := .generateDocs "" ""
    ∃ asking, console.step moment .generate = (asking, some request) ∧
      asking.helpOpen = false ∧
      ((asking.fulfil moment request).askPanel (.request request)).2 = none ∧
      console.handle moment .generate =
        ((asking.fulfil moment request).askPanel (.request request)).1.withMode := by
  intro console moment request
  have step : console.step moment .generate =
      ((console.step moment .generate).1, some request) := by
    apply Prod.ext
    · rfl
    · decide
  obtain ⟨-, -, answered⟩ := handle_chains console moment .generate
  obtain ⟨closed, -, silent, handled⟩ := answered _ request step
  exact ⟨_, step, closed, silent, handled⟩

end DocsConsole.Console
