import DocsConsole.Proofs.Console.Failure

/-!
# Help

While help is open it takes what the user does, and that closes it and does no more.  The
clock, notifications and calls that are completed are not taken.  They read nothing of help
and of the mode, so help can be opened before them and closed after them, and what they have
brought is there as if it had not been open.
-/

namespace DocsConsole

/-- What comes from the background. -/
inductive Action.Background : Action → Prop where
  | tick : Background .tick
  | notify (toast : Toast) : Background (.notify toast)
  | completed (ticket : Ticket) (outcome : Outcome) : Background (.completed ticket outcome)

namespace Action.Background

variable {action : Action} (background : action.Background)

include background

theorem passesHelp : action.passesHelp = true := by
  cases background <;> rfl

theorem mayAsk : action.mayAsk = false := by
  cases background <;> rfl

theorem ne_quit : action ≠ .quit := by
  cases background <;> simp

end Action.Background

theorem Action.not_background {action : Action} (taken : action.passesHelp = false) :
    ¬action.Background := by
  intro background
  rw [background.passesHelp] at taken
  contradiction

/-- Help takes all that is neither from the background nor the end of the console. -/
theorem Action.passesHelp_eq_false {action : Action} (userMade : ¬action.Background)
    (stays : action ≠ .quit) : action.passesHelp = false := by
  cases action with
  | tick => exact (userMade .tick).elim
  | notify toast => exact (userMade (.notify toast)).elim
  | completed ticket outcome => exact (userMade (.completed ticket outcome)).elim
  | quit => exact (stays rfl).elim
  | _ => rfl

/-- Something that comes from the background at a moment. -/
structure News where
  moment : Moment
  action : Action
  background : action.Background

namespace Console

/-- The console after some news, the first one first. -/
def receive (console : Console) (news : List News) : Console :=
  news.foldl (fun console item => console.handle item.moment item.action) console

/-- The console with help over it.  No field has the keyboard then. -/
def underHelp (console : Console) : Console :=
  { console with helpOpen := true, mode := .shortcuts }

/-- Two consoles differ at most in their panels, in help and in the mode. -/
structure SameResults (left right : Console) : Prop where
  work : SameWork left right
  statusBar : left.statusBar = right.statusBar
  spinner : left.spinner = right.spinner
  quitting : left.quitting = right.quitting

namespace SameResults

theorem symm {left right : Console} (same : SameResults left right) :
    SameResults right left := by
  obtain ⟨⟨session, started, workspace, settings⟩, statusBar, spinner, quitting⟩ := same
  exact ⟨⟨session.symm, started.symm, workspace.symm, settings.symm⟩, statusBar.symm,
    spinner.symm, quitting.symm⟩

theorem trans {left middle right : Console} (first : SameResults left middle)
    (second : SameResults middle right) : SameResults left right :=
  ⟨first.work.trans second.work, first.statusBar.trans second.statusBar,
    first.spinner.trans second.spinner, first.quitting.trans second.quitting⟩

theorem withMode (console : Console) : SameResults console.withMode console :=
  ⟨.withMode console, rfl, rfl, rfl⟩

/-- The panel on screen changes nothing but itself. -/
theorem askPanel (console : Console) (action : Action) :
    SameResults (console.askPanel action).1 console := by
  unfold Console.askPanel
  split <;> exact ⟨⟨rfl, rfl, rfl, rfl⟩, rfl, rfl, rfl⟩

end SameResults

/-! ## What news does not read -/

/-- What is around the results of a console. -/
structure Surroundings where
  mode : InputMode
  docs : DocsPanel
  github : GithubPanel
  quality : QualityPanel
  helpOpen : Bool

def surroundings (console : Console) : Surroundings :=
  ⟨console.mode, console.docs, console.github, console.quality, console.helpOpen⟩

def surroundedBy (console : Console) (around : Surroundings) : Console :=
  { console with
    mode := around.mode
    docs := around.docs
    github := around.github
    quality := around.quality
    helpOpen := around.helpOpen }

theorem SameResults.eq_surroundedBy {left right : Console} (same : SameResults left right) :
    left = right.surroundedBy left.surroundings := by
  obtain ⟨⟨session, started, workspace, settings⟩, statusBar, spinner, quitting⟩ := same
  rw [surroundedBy, ← session, ← started, ← workspace, ← settings, ← statusBar, ← spinner,
    ← quitting]
  rfl

theorem sameResults_surroundedBy (console : Console) (around : Surroundings) :
    SameResults (console.surroundedBy around) console :=
  ⟨⟨rfl, rfl, rfl, rfl⟩, rfl, rfl, rfl⟩

variable {action : Action} (console : Console) (moment : Moment) (around : Surroundings)

theorem conclude_surroundedBy (outcome : Outcome) :
    (console.surroundedBy around).conclude moment outcome =
      (console.conclude moment outcome).surroundedBy around := by
  cases outcome with
  | repositoriesLoaded token repositories =>
      by_cases held : console.session.token? = some token <;>
        simp [conclude, surroundedBy, held]
  | _ => rfl

theorem effect_surroundedBy (background : action.Background) :
    (console.surroundedBy around).effect moment action =
      (console.effect moment action).surroundedBy around := by
  cases background with
  | tick => rfl
  | notify toast => rfl
  | completed ticket outcome =>
      exact (console.released ticket).conclude_surroundedBy moment around outcome

theorem note_surroundedBy (background : action.Background) :
    (console.surroundedBy around).note moment action =
      (console.note moment action).surroundedBy around := by
  cases background <;> rfl

/-- The effect of news leaves the surroundings as they are. -/
theorem effect_surroundings (background : action.Background) :
    (console.effect moment action).surroundings = console.surroundings := by
  have same : console.effect moment action =
      (console.effect moment action).surroundedBy console.surroundings :=
    console.effect_surroundedBy moment console.surroundings background
  rw [same]
  rfl

/-! ## News with and without help -/

theorem handle_of_news (background : action.Background) :
    console.handle moment action =
      (((console.effect moment action).askPanel action).1.note moment action).withMode :=
  handle_of_unasking (Or.inr background.passesHelp) background.ne_quit background.mayAsk

/-- The console with help open or not, and in any mode. -/
def covered (console : Console) (help : Bool) (mode : InputMode) : Console :=
  { console with helpOpen := help, mode := mode }

theorem effect_covered (background : action.Background) (help : Bool) (mode : InputMode) :
    (console.covered help mode).effect moment action =
      (console.effect moment action).covered help mode := by
  have same := console.effect_surroundings moment background
  have effect := console.effect_surroundedBy moment
    (console.covered help mode).surroundings background
  calc
    (console.covered help mode).effect moment action =
        (console.effect moment action).surroundedBy (console.covered help mode).surroundings :=
      effect
    _ = (console.effect moment action).covered help mode := by
      simp only [surroundings, Surroundings.mk.injEq] at same
      obtain ⟨_, docs, github, quality, _⟩ := same
      simp [surroundedBy, surroundings, covered, docs, github, quality]

theorem askPanel_covered (action : Action) (help : Bool) (mode : InputMode) :
    ((console.covered help mode).askPanel action).1 =
      (console.askPanel action).1.covered help mode := by
  simp only [askPanel, covered]
  split <;> rfl

theorem note_covered (background : action.Background) (help : Bool) (mode : InputMode) :
    (console.covered help mode).note moment action =
      (console.note moment action).covered help mode := by
  cases background <;> rfl

/-- Whether help is open makes no difference to news, and the mode is settled anew. -/
theorem handle_covered (background : action.Background) (help : Bool) (mode : InputMode) :
    (console.covered help mode).handle moment action =
      ((console.handle moment action).covered help mode).withMode := by
  rw [handle_of_news _ _ background, handle_of_news _ _ background,
    effect_covered _ _ background, askPanel_covered, note_covered _ _ background]
  rfl

/-- News neither opens nor closes help. -/
theorem handle_helpOpen (background : action.Background) :
    (console.handle moment action).helpOpen = console.helpOpen := by
  have same : console.handle moment action =
      ((console.handle moment action).covered console.helpOpen console.mode).withMode :=
    console.handle_covered moment background console.helpOpen console.mode
  rw [same]
  rfl

theorem receive_helpOpen (news : List News) :
    (console.receive news).helpOpen = console.helpOpen := by
  induction news generalizing console with
  | nil => rfl
  | cons item news induction =>
      exact (induction _).trans (console.handle_helpOpen item.moment item.background)

theorem receive_underHelp (news : List News) :
    console.underHelp.receive news = (console.receive news).underHelp := by
  induction news generalizing console with
  | nil => rfl
  | cons item news induction =>
      have covers := console.handle_covered item.moment item.background true .shortcuts
      change (console.underHelp.handle item.moment item.action).receive news =
        ((console.handle item.moment item.action).receive news).underHelp
      rw [← induction]
      exact congrArg (receive · news) covers

/-! ## News on consoles that agree -/

namespace SameResults

variable {left right : Console} (same : SameResults left right)

include same

theorem effect (background : action.Background) :
    SameResults (left.effect moment action) (right.effect moment action) := by
  rw [same.eq_surroundedBy, effect_surroundedBy _ _ _ background]
  exact sameResults_surroundedBy _ _

theorem note (background : action.Background) :
    SameResults (left.note moment action) (right.note moment action) := by
  rw [same.eq_surroundedBy, note_surroundedBy _ _ _ background]
  exact sameResults_surroundedBy _ _

theorem handle (background : action.Background) :
    SameResults (left.handle moment action) (right.handle moment action) := by
  rw [handle_of_news _ _ background, handle_of_news _ _ background]
  have answered : SameResults ((left.effect moment action).askPanel action).1
      ((right.effect moment action).askPanel action).1 := by
    apply (askPanel _ action).trans
    apply (same.effect moment background).trans
    exact (askPanel _ action).symm
  apply (withMode _).trans
  apply (answered.note moment background).trans
  exact (withMode _).symm

theorem receive (news : List News) : SameResults (left.receive news) (right.receive news) := by
  induction news generalizing left right with
  | nil => exact same
  | cons item news induction => exact induction (same.handle item.moment item.background)

end SameResults

/-! ## Opening and closing help -/

/-- The key that opens help reaches the panel on screen before help covers it. -/
theorem handle_toggleHelp (closed : console.helpOpen = false) :
    console.handle moment .toggleHelp = (console.askPanel .toggleHelp).1.underHelp := by
  have stillClosed := console.askPanel_helpOpen .toggleHelp
  rw [closed] at stillClosed
  rw [handle_of_unasking (Or.inl closed) (by simp) rfl]
  change ((console.askPanel .toggleHelp).1.note moment .toggleHelp).withMode = _
  simp [note, withMode, modeNow, underHelp, stillClosed]

theorem modeNow_of_closed (closed : console.helpOpen = false) :
    console.modeNow = if console.wantsInput then .typing else .shortcuts := by
  simp [modeNow, closed]

theorem handle_of_userMade (help : console.helpOpen = true) (userMade : ¬action.Background)
    (stays : action ≠ .quit) :
    console.handle moment action = { console with helpOpen := false }.withMode := by
  have stepped : console.step moment action = _ :=
    step_of_swallowed help (Action.passesHelp_eq_false userMade stays)
  rw [handle_of_step (by rw [stepped]), stepped]

/-- News has the same effect as without help, which stays open. -/
theorem handle_of_helpOpen (help : console.helpOpen = true) (background : action.Background) :
    console.handle moment action =
      ({ console with helpOpen := false }.handle moment action).underHelp := by
  have opened : console.covered true console.mode = console := by
    rw [covered, ← help]
  have covers := console.handle_covered moment background true console.mode
  have uncovers := console.handle_covered moment background false console.mode
  rw [opened] at covers
  calc
    console.handle moment action =
        ((console.handle moment action).covered true console.mode).withMode := covers
    _ = (((console.handle moment action).covered false console.mode).withMode).underHelp := rfl
    _ = ((console.covered false console.mode).handle moment action).underHelp := by
      rw [uncovers]

/-- When help is closed again, the news that came meanwhile has been handled. -/
theorem handle_after_help (closed : console.helpOpen = false) (userMade : ¬action.Background)
    (stays : action ≠ .quit) (news : List News) (closing : Moment) :
    ((console.handle moment .toggleHelp).receive news).handle closing action =
      ((console.askPanel .toggleHelp).1.receive news).withMode := by
  have stillClosed : ((console.askPanel .toggleHelp).1.receive news).helpOpen = false := by
    rw [receive_helpOpen, askPanel_helpOpen, closed]
  rw [console.handle_toggleHelp moment closed, receive_underHelp,
    handle_of_userMade _ _ rfl userMade stays]
  simp [withMode, modeNow, wantsInput, underHelp, stillClosed]

/-- While help is open, what the user does closes it and gives the keyboard back, and
nothing else; news is handled as it would be without help, and help stays open.  So when
help was opened, some news came and help was closed again, all that the news has brought is
there. -/
theorem help_only_covers :
    (console.helpOpen = true → ¬action.Background → action ≠ .quit →
      console.handle moment action =
        { console with
          helpOpen := false
          mode := if console.wantsInput then .typing else .shortcuts }) ∧
    (console.helpOpen = true → action.Background →
      console.handle moment action =
        ({ console with helpOpen := false }.handle moment action).underHelp) ∧
    (console.helpOpen = false → ¬action.Background → action ≠ .quit → ∀ news closing,
      let next := ((console.handle moment .toggleHelp).receive news).handle closing action
      SameResults next (console.receive news) ∧
        next = ((console.askPanel .toggleHelp).1.receive news).withMode ∧
        next.helpOpen = false ∧
        next.mode = if next.wantsInput then .typing else .shortcuts) := by
  refine ⟨?_, ?_, ?_⟩
  · intro help userMade stays
    rw [console.handle_of_userMade moment help userMade stays, withMode, modeNow_of_closed _ rfl]
    rfl
  · intro help background
    exact console.handle_of_helpOpen moment help background
  · intro closed userMade stays news closing next
    have shown : next = _ := console.handle_after_help moment closed userMade stays news closing
    have stillClosed : ((console.askPanel .toggleHelp).1.receive news).helpOpen = false := by
      rw [receive_helpOpen, askPanel_helpOpen, closed]
    have results : SameResults ((console.askPanel .toggleHelp).1.receive news)
        (console.receive news) :=
      (SameResults.askPanel console .toggleHelp).receive news
    rw [shown]
    refine ⟨(SameResults.withMode _).trans results, rfl, stillClosed, ?_⟩
    exact modeNow_of_closed _ stillClosed

/-- The user types, help is over the field for a while, and meanwhile a token is refused. -/
theorem help_only_covers_of_refusal :
    let typing := (replay Happening.typingWhileConnecting).2
    let helping := typing.handle .midnight .toggleHelp
    let refusal : Outcome := .connectionRefused (some "no")
    let news : News := ⟨.midnight, .completed 0 refusal, .completed 0 refusal⟩
    let next := (helping.receive [news]).handle .midnight .cancel
    typing.helpOpen = false ∧ helping.helpOpen = true ∧
      helping.handle .midnight .up = { helping with helpOpen := false, mode := .typing } ∧
      helping.handle .midnight news.action =
        ({ helping with helpOpen := false }.handle .midnight news.action).underHelp ∧
      next.session.loading.count = 0 ∧
      next.statusBar.toast = some ⟨.error, "no", 0⟩ ∧ next.mode = .typing := by
  intro typing helping refusal news next
  have closed : typing.helpOpen = false := by decide
  have opened : helping.helpOpen = true := by decide
  have scrolls : ¬Action.up.Background := Action.not_background rfl
  have cancels : ¬Action.cancel.Background := Action.not_background rfl
  have closes := (help_only_covers helping .midnight).1 opened scrolls (by simp)
  have passes := (help_only_covers helping .midnight).2.1 opened news.background
  obtain ⟨results, shown, _, mode⟩ := (help_only_covers typing .midnight).2.2 closed cancels
    (by simp) [news] .midnight
  have keyboard : helping.wantsInput = true := by decide
  rw [keyboard] at closes
  refine ⟨closed, opened, closes, passes, ?_, ?_, ?_⟩
  · rw [results.work.session]
    decide
  · rw [results.statusBar]
    rfl
  · rw [mode, shown]
    decide

end Console

end DocsConsole
