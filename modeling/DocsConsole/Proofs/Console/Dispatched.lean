import DocsConsole.Proofs.Console.Focus

/-!
# Any actions at all

In a run only those actions happen that the terminal, the clock and the backend can
bring.  Here any actions are dispatched to a new console, one after the other.  The
panels are changed by nothing but their own answers, so what every answer keeps holds
after any dispatches.  What the next key means is settled by each of them.
-/

namespace DocsConsole

/-- The actions that were dispatched to a new console, newest first, and the console they lead
to.  Other programs may change files at any time. -/
inductive Dispatched : List Action → Console → Prop where
  | fresh (settings : Settings) (workspace : Workspace) :
      Dispatched [] (Console.initial settings workspace)
  | next {past : List Action} {console : Console} (dispatched : Dispatched past console)
      (moment : Moment) (action : Action) :
      Dispatched (action :: past) (console.handle moment action)
  | filesChanged {past : List Action} {console : Console} (dispatched : Dispatched past console)
      (files : FileSystem) : Dispatched past { console with workspace.files := files }

theorem Dispatched.load {past : List Action} {console : Console}
    (dispatched : Dispatched past console) (moment : Moment) (files : List FilePath)
    (qualityFile : Option FilePath) :
    ∃ actions, Dispatched actions (console.load moment files qualityFile) := by
  have loaded : ∃ actions, Dispatched actions
      (if files.isEmpty then console
        else console.handle moment (.request (.addPaths files .documentation))) := by
    split
    · exact ⟨past, dispatched⟩
    · exact ⟨_, dispatched.next moment _⟩
  obtain ⟨actions, loaded⟩ := loaded
  unfold Console.load
  cases qualityFile with
  | none => exact ⟨actions, loaded⟩
  | some file => exact ⟨_, loaded.next moment _⟩

/-- A run dispatches actions to a new console. -/
theorem Run.dispatched {past : List Stage} {console : Console} (run : Run past console) :
    ∃ actions, Dispatched actions console := by
  induction run with
  | launched settings workspace moment files qualityFile =>
      exact (Dispatched.fresh settings workspace).load moment files qualityFile
  | next stage run answers induction =>
      obtain ⟨actions, dispatched⟩ := induction
      cases acts : stage.happening.action? with
      | some action =>
          rw [Stage.after_eq_handle acts]
          exact ⟨_, dispatched.next stage.moment action⟩
      | none =>
          rw [Stage.after, acts]
          dsimp only
          split
          · exact ⟨actions, dispatched.filesChanged _⟩
          · exact ⟨actions, dispatched⟩

namespace Console

/-! ## The panels -/

def panels (console : Console) : DocsPanel × GithubPanel × QualityPanel :=
  (console.docs, console.github, console.quality)

variable (console : Console) (moment : Moment)

theorem startOrRefuse_panels (result : Except Refusal Backend.Call) :
    (console.startOrRefuse moment result).panels = console.panels := by
  cases result <;> rfl

theorem startWithToken_panels (call : String → Backend.Call) :
    (console.startWithToken moment call).panels = console.panels := by
  unfold startWithToken
  split <;> rfl

theorem SameButToast.panels {left right : Console} (same : SameButToast left right) :
    left.panels = right.panels := by
  rw [same]
  rfl

theorem addPaths_panels (paths : List FilePath) (target : IntakeTarget) :
    (console.addPaths moment paths target).panels = console.panels :=
  (console.addPaths_sameButToast moment paths target).panels

theorem written_panels (done failed : String) (change : FileSystem.Change FilePath) :
    (console.written moment done failed change).panels = console.panels := by
  unfold written
  split <;> rfl

theorem reportRemoved_panels (file : Option UploadedFile) :
    (console.reportRemoved moment file).panels = console.panels := by
  cases file <;> rfl

theorem exportPreview_panels (tab : Tab) :
    (console.exportPreview moment tab).panels = console.panels := by
  unfold exportPreview
  split
  · split
    · rfl
    · exact console.written_panels moment _ _ _
  · split
    · rfl
    · exact console.written_panels moment _ _ _
  · rfl

theorem fulfil_panels (request : Request) :
    (console.fulfil moment request).panels = console.panels := by
  cases request with
  | addPaths paths target => exact console.addPaths_panels moment paths target
  | removeFile index => exact reportRemoved_panels _ moment _
  | removeQualityFile => exact reportRemoved_panels _ moment _
  | generateDocs projectName instructions => exact console.startOrRefuse_panels moment _
  | connect token => exact console.startOrRefuse_panels moment _
  | selectRepository name =>
      simp only [fulfil, selectRepository]
      split
      · exact startWithToken_panels _ moment _
      · rfl
  | selectBranch name => rfl
  | openPullRequest title description commitMessage =>
      simp only [fulfil, openPullRequest]
      split
      · exact console.startWithToken_panels moment _
      · rfl

theorem conclude_panels (outcome : Outcome) :
    (console.conclude moment outcome).panels = console.panels := by
  cases outcome with
  | connected token => exact startWithToken_panels _ moment _
  | repositoriesLoaded token repositories =>
      simp only [conclude]
      split <;> rfl
  | _ => rfl

/-- No action has an effect on a panel. -/
theorem effect_panels (action : Action) :
    (console.effect moment action).panels = console.panels := by
  have shown : ∀ tab, (console.showTab tab).panels = console.panels := by
    intro tab
    cases tab <;> rfl
  cases action with
  | showTab tab => exact shown (some tab)
  | nextTab => exact shown _
  | previousTab => exact shown _
  | togglePurpose =>
      rw [effect_togglePurpose]
      split <;> rfl
  | download =>
      rw [effect_download]
      split
      · unfold download
        split
        · rfl
        · exact console.written_panels moment _ _ _
      · rfl
  | exportPreview => exact console.exportPreview_panels moment _
  | analyze =>
      rw [effect_analyze]
      split
      · exact console.startOrRefuse_panels moment _
      · rfl
  | disconnect =>
      rw [effect_disconnect]
      split <;> rfl
  | request request => exact console.fulfil_panels moment request
  | completed ticket outcome => exact conclude_panels _ moment outcome
  | _ => rfl

end Console

namespace Console

variable {console : Console} {moment : Moment} {action : Action}

section Panels

/-! A property that is about the panels only, and that every answer keeps. -/

variable (Holds : Console → Prop)
  (depends : ∀ left right : Console, left.panels = right.panels → Holds right → Holds left)
  (answered : ∀ console action, Holds console → Holds (console.askPanel action).1)

include depends answered

theorem step_of_panels (holds : Holds console) : Holds (console.step moment action).1 := by
  rcases console.taken_or_swallowed action with taken | ⟨help, passes⟩
  · by_cases quits : action = .quit
    · subst quits
      have stays : (console.step moment .quit).1.panels = console.panels := by
        simp [step, Action.passesHelp, panels]
      exact depends _ _ stays holds
    · rw [step_of_taken taken quits]
      have affected : Holds (console.effect moment action) :=
        depends _ _ (console.effect_panels moment action) holds
      have noted : ((((console.effect moment action).askPanel action).1.note moment
          action).withMode).panels = ((console.effect moment action).askPanel action).1.panels := by
        unfold note
        split <;> rfl
      exact depends _ _ noted (answered _ action affected)
  · rw [step_of_swallowed help passes]
    exact depends _ console rfl holds

theorem handle_of_panels (holds : Holds console) : Holds (console.handle moment action) := by
  apply handle_keeps _ holds
  intro console action holds
  exact step_of_panels Holds depends answered holds

end Panels

/-! ## What the next key means -/

/-- What the next key means has been settled. -/
def Settled (console : Console) : Prop :=
  console.mode = console.modeNow

theorem modeNow_eq_typing_iff :
    console.modeNow = .typing ↔ console.helpOpen = false ∧ console.wantsInput = true := by
  unfold modeNow
  cases console.helpOpen <;> cases console.wantsInput <;> simp

theorem step_settled (settled : console.Settled) : (console.step moment action).1.Settled := by
  rcases console.taken_or_swallowed action with taken | ⟨help, passes⟩
  · by_cases quits : action = .quit
    · subst quits
      have stays : (console.step moment .quit).1 = { console with quitting := true } := by
        simp [step, Action.passesHelp]
      rw [stays]
      exact settled
    · rw [step_of_taken taken quits]
      rfl
  · rw [step_of_swallowed help passes]
    rfl

theorem handle_settled (settled : console.Settled) : (console.handle moment action).Settled := by
  apply handle_keeps _ settled
  intro console action settled
  exact step_settled settled

end Console

namespace Dispatched

variable {past : List Action} {console : Console}

/-- What holds of a new console and is kept by every action holds after any dispatches. -/
theorem invariant {Holds : Console → Prop}
    (fresh : ∀ settings workspace, Holds (Console.initial settings workspace))
    (handled : ∀ console moment action, Holds console → Holds (console.handle moment action))
    (unaffected : ∀ (console : Console) files, Holds console →
      Holds { console with workspace.files := files })
    (dispatched : Dispatched past console) : Holds console := by
  induction dispatched with
  | fresh settings workspace => exact fresh settings workspace
  | next _ moment action induction => exact handled _ moment action induction
  | filesChanged _ files induction => exact unaffected _ files induction

theorem settled (dispatched : Dispatched past console) : console.Settled := by
  apply dispatched.invariant
  · intro settings workspace
    rfl
  · intro console moment action holds
    exact Console.handle_settled holds
  · intro console files holds
    exact holds

theorem focusShown (dispatched : Dispatched past console) : console.FocusShown := by
  apply dispatched.invariant
  · intro settings workspace onScreen
    contradiction
  · intro console moment action holds
    exact Console.handle_focusShown holds
  · intro console files holds
    exact holds

end Dispatched

/-- The console that some actions, newest first, make of a new one with standard settings. -/
def Console.ofActions : List Action → Console
  | [] => Console.initial .standard ⟨⟨[], []⟩, ""⟩
  | action :: past => (ofActions past).handle .midnight action

theorem Dispatched.ofActions (actions : List Action) :
    Dispatched actions (Console.ofActions actions) := by
  induction actions with
  | nil => exact .fresh _ _
  | cons action past induction => exact induction.next .midnight action

end DocsConsole
