import DocsConsole.Proofs.Console.Panels

/-!
# What a dispatch changes

The session, the calls that were started, the files and the settings are the work
of a console; panels and notifications are what is around it.  Handling an action
either leaves the work alone because help takes the action, or does to it what the
action does, or does to it what the panel asks for.
-/

namespace DocsConsole

/-- Whether no panel answers an action with a request, and the rest of the screen takes no
note of it. -/
def Action.quiet : Action → Bool
  | .toggleHelp => false
  | .notify _ => false
  | .tick => false
  | .quit => false
  | action => !action.mayAsk

namespace Console

/-- Two consoles have the same work. -/
structure SameWork (left right : Console) : Prop where
  session : left.session = right.session
  started : left.started = right.started
  workspace : left.workspace = right.workspace
  settings : left.settings = right.settings

theorem askPanel_helpOpen (console : Console) (action : Action) :
    (console.askPanel action).1.helpOpen = console.helpOpen := by
  unfold askPanel
  split <;> rfl

theorem askPanel_statusBar (console : Console) (action : Action) :
    (console.askPanel action).1.statusBar = console.statusBar := by
  unfold askPanel
  split <;> rfl

namespace SameWork

theorem trans {left middle right : Console} (first : SameWork left middle)
    (second : SameWork middle right) : SameWork left right :=
  ⟨first.session.trans second.session, first.started.trans second.started,
    first.workspace.trans second.workspace, first.settings.trans second.settings⟩

theorem askPanel (console : Console) (action : Action) :
    SameWork (console.askPanel action).1 console := by
  unfold Console.askPanel
  split <;> exact ⟨rfl, rfl, rfl, rfl⟩

theorem note (console : Console) (moment : Moment) (action : Action) :
    SameWork (console.note moment action) console := by
  unfold Console.note
  split <;> exact ⟨rfl, rfl, rfl, rfl⟩

theorem withMode (console : Console) : SameWork console.withMode console :=
  ⟨rfl, rfl, rfl, rfl⟩

end SameWork

variable {console : Console} {moment : Moment} {action : Action}

theorem taken_or_swallowed (console : Console) (action : Action) :
    (console.helpOpen = false ∨ action.passesHelp = true) ∨
      (console.helpOpen = true ∧ action.passesHelp = false) := by
  cases console.helpOpen <;> cases action.passesHelp <;> simp

theorem step_of_swallowed (help : console.helpOpen = true)
    (swallowed : action.passesHelp = false) :
    console.step moment action = ({ console with helpOpen := false }.withMode, none) := by
  simp [step, help, swallowed]

/-- An action that help does not take has its effect, and then the panel answers it. -/
theorem step_of_taken (taken : console.helpOpen = false ∨ action.passesHelp = true)
    (stays : action ≠ .quit) :
    console.step moment action =
      ((((console.effect moment action).askPanel action).1.note moment action).withMode,
        ((console.effect moment action).askPanel action).2) := by
  have notSwallowed : ¬(console.helpOpen && !action.passesHelp) = true := by
    rcases taken with closed | passes
    · simp [closed]
    · simp [passes]
  unfold step
  rw [if_neg notSwallowed]
  split
  · contradiction
  · rfl

/-- The work after a step is what the effect of its action makes of it. -/
theorem step_sameWork (taken : console.helpOpen = false ∨ action.passesHelp = true) :
    SameWork (console.step moment action).1 (console.effect moment action) := by
  by_cases quits : action = .quit
  · subst quits
    simp only [step, Action.passesHelp, Bool.not_true, Bool.and_false]
    exact ⟨rfl, rfl, rfl, rfl⟩
  · rw [step_of_taken taken quits]
    have answered := SameWork.askPanel (console.effect moment action) action
    have noted := SameWork.note ((console.effect moment action).askPanel action).1 moment action
    exact (SameWork.withMode _).trans (noted.trans answered)

/-- When the panel asks for something, nothing but the panel has changed. -/
theorem step_of_asks {request : Request}
    (asks : (console.step moment action).2 = some request) :
    console.helpOpen = false ∧ (console.askPanel action).2 = some request ∧
      (console.step moment action).1 = (console.askPanel action).1.withMode := by
  have taken : console.helpOpen = false ∨ action.passesHelp = true := by
    rcases console.taken_or_swallowed action with taken | ⟨help, passes⟩
    · exact taken
    · rw [step_of_swallowed help passes] at asks
      contradiction
  have stays : action ≠ .quit := by
    rintro rfl
    simp [step, Action.passesHelp] at asks
  rw [step_of_taken taken stays] at asks ⊢
  have mayAsk := (askPanel_asks asks).1
  rw [effect_of_mayAsk moment mayAsk] at asks ⊢
  refine ⟨?_, asks, ?_⟩
  · simpa [passesHelp_of_mayAsk mayAsk] using taken
  · rw [note_of_mayAsk moment mayAsk]

/-- A console whose panel asks for something is still without help, and its work is not done
yet. -/
theorem step_sameWork_of_asks {request : Request}
    (asks : (console.step moment action).2 = some request) :
    (console.step moment action).1.helpOpen = false ∧
      SameWork (console.step moment action).1 console := by
  obtain ⟨closed, _, asking⟩ := step_of_asks asks
  rw [asking]
  constructor
  · exact (askPanel_helpOpen console action).trans closed
  · exact (SameWork.withMode _).trans (SameWork.askPanel console action)

theorem handle_of_step (asks : (console.step moment action).2 = none) :
    console.handle moment action = (console.step moment action).1 := by
  have split_ : console.step moment action = ((console.step moment action).1, none) :=
    Prod.ext rfl asks
  unfold handle dispatch
  rw [split_]

theorem handle_of_asks {request : Request}
    (asks : (console.step moment action).2 = some request) :
    console.handle moment action =
      ((console.step moment action).1.step moment (.request request)).1 := by
  have split_ : console.step moment action =
      ((console.step moment action).1, some request) :=
    Prod.ext rfl asks
  have answered := step_request (console.step moment action).1 moment request
  have split_again : (console.step moment action).1.step moment (.request request) =
      (((console.step moment action).1.step moment (.request request)).1, none) :=
    Prod.ext rfl answered
  unfold handle dispatch
  rw [split_]
  dsimp only
  unfold dispatch
  rw [split_again]

/-- What every step keeps is kept when an action is handled. -/
theorem handle_keeps {Holds : Console → Prop}
    (steps : ∀ console action, Holds console → Holds (console.step moment action).1)
    (holds : Holds console) : Holds (console.handle moment action) := by
  have stepped : Holds (console.step moment action).1 := steps console action holds
  cases asks : (console.step moment action).2 with
  | none =>
      rw [handle_of_step asks]
      exact stepped
  | some request =>
      rw [handle_of_asks asks]
      exact steps _ _ stepped

/-- An action that no panel answers with a request has its effect, and then the panel and the
rest of the screen see it. -/
theorem handle_of_unasking (taken : console.helpOpen = false ∨ action.passesHelp = true)
    (stays : action ≠ .quit) (unasking : action.mayAsk = false) :
    console.handle moment action =
      (((console.effect moment action).askPanel action).1.note moment action).withMode := by
  have silent : ((console.effect moment action).askPanel action).2 = none := by
    cases asks : ((console.effect moment action).askPanel action).2 with
    | none => rfl
    | some request =>
        have mayAsk := (askPanel_asks asks).1
        rw [unasking] at mayAsk
        contradiction
  have stepped : console.step moment action = _ := step_of_taken taken stays
  have asks : (console.step moment action).2 = none := by
    rw [stepped]
    exact silent
  rw [handle_of_step asks, stepped]

/-- A quiet action has its effect, and then the panel on screen answers it. -/
theorem handle_of_quiet (taken : console.helpOpen = false ∨ action.passesHelp = true)
    (quiet : action.quiet = true) :
    console.handle moment action =
      ((console.effect moment action).askPanel action).1.withMode := by
  have stays : action ≠ .quit := by
    rintro rfl
    contradiction
  have unasking : action.mayAsk = false := by
    revert quiet
    cases action <;> simp [Action.quiet, Action.mayAsk]
  have unnoted : ∀ answered : Console, answered.note moment action = answered := by
    intro answered
    cases action with
    | toggleHelp => contradiction
    | notify toast => contradiction
    | tick => contradiction
    | _ => rfl
  rw [handle_of_unasking taken stays unasking, unnoted]

theorem handle_sameWork (taken : console.helpOpen = false ∨ action.passesHelp = true)
    (quiet : action.quiet = true) :
    SameWork (console.handle moment action) (console.effect moment action) := by
  rw [handle_of_quiet taken quiet]
  exact (SameWork.withMode _).trans (SameWork.askPanel _ _)

theorem handle_statusBar (taken : console.helpOpen = false ∨ action.passesHelp = true)
    (quiet : action.quiet = true) :
    (console.handle moment action).statusBar = (console.effect moment action).statusBar := by
  rw [handle_of_quiet taken quiet]
  exact askPanel_statusBar _ _

/-- The ways in which an action is handled. -/
inductive Handled (console : Console) (moment : Moment) (action : Action)
    (next : Console) : Prop where
  /-- Help takes the action. -/
  | swallowed (help : console.helpOpen = true) (passes : action.passesHelp = false)
      (asks : (console.step moment action).2 = none) (same : SameWork next console)
  /-- The action has its effect, and the panel asks for nothing. -/
  | taken (open_ : console.helpOpen = false ∨ action.passesHelp = true)
      (asks : (console.step moment action).2 = none)
      (same : SameWork next (console.effect moment action))
  /-- The action has no effect of its own, and what the panel asks for is done. -/
  | asked (request : Request) (asking : Console)
      (asks : (console.step moment action).2 = some request)
      (unchanged : SameWork asking console)
      (same : SameWork next (asking.fulfil moment request))

theorem handled (console : Console) (moment : Moment) (action : Action) :
    Handled console moment action (console.handle moment action) := by
  cases asks : (console.step moment action).2 with
  | none =>
      rw [handle_of_step asks]
      rcases console.taken_or_swallowed action with taken | ⟨help, passes⟩
      · exact .taken taken asks (step_sameWork taken)
      · refine .swallowed help passes asks ?_
        rw [step_of_swallowed help passes]
        exact ⟨rfl, rfl, rfl, rfl⟩
  | some request =>
      obtain ⟨stillClosed, unchanged⟩ := step_sameWork_of_asks asks
      rw [handle_of_asks asks]
      exact .asked request _ asks unchanged (step_sameWork (Or.inl stillClosed))

end Console

end DocsConsole
