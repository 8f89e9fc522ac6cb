import DocsConsole.Proofs.Console.Run
import Mathlib.Data.List.Forall2

/-!
# How long a notification is on screen

Whether a notification has been shown long enough is decided with spans that can be measured.
Any two times are closer than the longest of them, so the decision is the one of exact
arithmetic for any number of seconds.  Hence the notification on screen is the last one, unless
a tick since then came late enough, and once it is gone only another one can be shown.
-/

namespace DocsConsole

open scoped CoreInstances

/-! ## Exact arithmetic -/

namespace Toast

theorem lifetime?_of_fits {seconds : Nat} (fits : seconds * 1000000000 ≤ TimeSpan.longest) :
    ∃ span, lifetime? seconds = some span ∧ span.nanoseconds = (seconds : Int) * 1000000000 := by
  have bound : TimeSpan.longest = 9223372036854775807000000 := rfl
  have word : seconds < 2 ^ 63 := by omega
  have measured : ((seconds : Int) * 1000000000).natAbs ≤ TimeSpan.longest := by omega
  exact ⟨⟨_, measured⟩, by rw [lifetime?, if_pos word, TimeSpan.ofSeconds?, dif_pos measured], rfl⟩

theorem lifetime?_of_long {seconds : Nat} (long : TimeSpan.longest < seconds * 1000000000) :
    lifetime? seconds = none := by
  have unmeasured : ¬((seconds : Int) * 1000000000).natAbs ≤ TimeSpan.longest := by omega
  rw [lifetime?, TimeSpan.ofSeconds?, dif_neg unmeasured, ite_self]

/-- At a time, a toast has been shown for so many seconds or longer. -/
def Outlived (toast : Toast) (now : Instant) (seconds : Nat) : Prop :=
  (seconds : Int) * 1000000000 ≤ now.nanosecondsSince toast.createdAt

/-- That a span is too long to be measured decides nothing: no two times are that far apart. -/
theorem isExpired_iff_outlived (toast : Toast) (now : Instant) (seconds : Nat) :
    toast.isExpired now seconds = true ↔ toast.Outlived now seconds := by
  have near := now.nanosecondsSince_fits toast.createdAt
  by_cases fits : seconds * 1000000000 ≤ TimeSpan.longest
  · obtain ⟨span, lives, length⟩ := lifetime?_of_fits fits
    simp only [isExpired, lives, decide_eq_true_eq]
    show span.nanoseconds ≤ _ ↔ _
    rw [length]
    rfl
  · have never := lifetime?_of_long (Nat.lt_of_not_le fits)
    have young : ¬toast.Outlived now seconds := by
      unfold Outlived
      omega
    simp [isExpired, never, young]

end Toast

/-! ## What the status bar is told -/

namespace StatusBar

/-- What the status bar is told. -/
inductive News where
  | notified (toast : Toast)
  | ticked (now : Instant)

/-- The status bar after a piece of news. -/
def handle (bar : StatusBar) : News → StatusBar
  | .notified toast => bar.notify toast
  | .ticked now => bar.expire now

/-- The status bar after some news, newest first. -/
def after (bar : StatusBar) : List News → StatusBar
  | [] => bar
  | news :: past => (bar.after past).handle news

@[simp] theorem handle_seconds (bar : StatusBar) (news : News) :
    (bar.handle news).seconds = bar.seconds := by
  cases news <;> rfl

@[simp] theorem after_seconds (bar : StatusBar) (past : List News) :
    (bar.after past).seconds = bar.seconds := by
  induction past with
  | nil => rfl
  | cons news past induction => rw [after, handle_seconds, induction]

theorem after_append (bar : StatusBar) (since earlier : List News) :
    bar.after (since ++ earlier) = (bar.after earlier).after since := by
  induction since with
  | nil => rfl
  | cons news since induction => rw [List.cons_append, after, after, induction]

theorem expire_toast_eq_some_iff (bar : StatusBar) (now : Instant) (toast : Toast) :
    (bar.expire now).toast = some toast ↔
      bar.toast = some toast ∧ ¬toast.Outlived now bar.seconds := by
  simp only [expire, Option.filter_eq_some_iff, Bool.not_eq_true', ← Bool.not_eq_true,
    Toast.isExpired_iff_outlived]

/-- A toast was the last notification, and no tick since then came late enough to end it. -/
def Lasts (seconds : Nat) (past : List News) (toast : Toast) : Prop :=
  ∃ (ticks : List Instant) (earlier : List News),
    past = ticks.map .ticked ++ .notified toast :: earlier ∧
      ∀ now ∈ ticks, ¬toast.Outlived now seconds

namespace Lasts

variable {seconds : Nat} {past : List News} {toast : Toast}

theorem not_nil : ¬Lasts seconds [] toast := by
  rintro ⟨ticks, earlier, division, _⟩
  simp at division

theorem notified_iff (latest : Toast) :
    Lasts seconds (.notified latest :: past) toast ↔ latest = toast := by
  constructor
  · rintro ⟨ticks, earlier, division, _⟩
    cases ticks with
    | nil =>
        cases division
        rfl
    | cons now ticks => simp at division
  · rintro rfl
    exact ⟨[], past, rfl, by simp⟩

theorem ticked_iff (now : Instant) :
    Lasts seconds (.ticked now :: past) toast ↔
      Lasts seconds past toast ∧ ¬toast.Outlived now seconds := by
  constructor
  · rintro ⟨ticks, earlier, division, young⟩
    cases ticks with
    | nil => simp at division
    | cons latest ticks =>
        cases division
        obtain ⟨young, youngBefore⟩ := List.forall_mem_cons.mp young
        exact ⟨⟨ticks, earlier, rfl, youngBefore⟩, young⟩
  · rintro ⟨⟨ticks, earlier, rfl, youngBefore⟩, young⟩
    exact ⟨now :: ticks, earlier, rfl, List.forall_mem_cons.mpr ⟨young, youngBefore⟩⟩

/-- A toast that a tick has ended does not last, unless it is notified again. -/
theorem not_of_ended {since earlier : List News} {now : Instant}
    (ended : toast.Outlived now seconds) (unrepeated : .notified toast ∉ since) :
    ¬Lasts seconds (since ++ .ticked now :: earlier) toast := by
  intro lasts
  induction since with
  | nil => exact ((ticked_iff now).mp lasts).2 ended
  | cons news since induction =>
      obtain ⟨other, absent⟩ := not_or.mp (mt List.mem_cons.mpr unrepeated)
      cases news with
      | notified latest =>
          exact other (congrArg News.notified ((notified_iff latest).mp lasts).symm)
      | ticked later => exact induction absent ((ticked_iff later).mp lasts).1

end Lasts

theorem after_toast_eq_some_iff (seconds : Nat) (past : List News) (toast : Toast) :
    ((quiet seconds).after past).toast = some toast ↔ Lasts seconds past toast := by
  induction past with
  | nil => exact iff_of_false nofun Lasts.not_nil
  | cons news past induction =>
      cases news with
      | notified latest =>
          rw [Lasts.notified_iff]
          exact Option.some_inj
      | ticked now =>
          rw [Lasts.ticked_iff, ← induction]
          show (((quiet seconds).after past).expire now).toast = some toast ↔ _
          rw [expire_toast_eq_some_iff, after_seconds]
          rfl

/-- The toast on screen is the last one, if no tick since then came at a time that is as many
seconds or more after it was made; otherwise there is none.  Times are compared as exact numbers
of nanoseconds, whether or not the seconds make a span that can be measured.  A toast that a tick
has ended is not shown later, unless it is notified again. -/
theorem toast_on_screen (seconds : Nat) (past : List News) :
    (∀ toast, ((quiet seconds).after past).toast = some toast ↔
      ∃ (ticks : List Instant) (earlier : List News),
        past = ticks.map .ticked ++ .notified toast :: earlier ∧
          ∀ now ∈ ticks, ¬(seconds : Int) * 1000000000 ≤ now.nanosecondsSince toast.createdAt) ∧
    (∀ (toast : Toast) (now : Instant), toast.isExpired now seconds = true ↔
      (seconds : Int) * 1000000000 ≤ now.nanosecondsSince toast.createdAt) ∧
    ∀ (toast : Toast) (since earlier : List News) (now : Instant),
      past = since ++ .ticked now :: earlier → toast.isExpired now seconds = true →
        .notified toast ∉ since → ((quiet seconds).after past).toast ≠ some toast := by
  refine ⟨after_toast_eq_some_iff seconds past,
    fun toast now => toast.isExpired_iff_outlived now seconds, ?_⟩
  rintro toast since earlier now rfl expired unrepeated shown
  have ended := (toast.isExpired_iff_outlived now seconds).mp expired
  exact Lasts.not_of_ended ended unrepeated ((after_toast_eq_some_iff seconds _ toast).mp shown)

/-- A toast is made half way through a leap second.  If it is shown for three seconds, a tick
two and a half seconds after the leap second ends it, one a nanosecond earlier does not; and
neither does if the seconds are too many to be measured. -/
theorem toast_of_leapSecond :
    let made : Instant := ⟨0, 59, 1500000000, by decide⟩
    let early : Instant := ⟨0, 62, 499999999, by decide⟩
    let late : Instant := ⟨0, 62, 500000000, by decide⟩
    let toast : Toast := ⟨.info, "t", made⟩
    ((quiet 3).after [.ticked early, .notified toast]).toast = some toast ∧
      ((quiet 3).after [.ticked early, .ticked late, .notified toast]).toast ≠ some toast ∧
      ((quiet (2 ^ (64 : Nat) - 1)).after [.ticked late, .notified toast]).toast = some toast := by
  intro made early late toast
  refine ⟨?_, ?_, ?_⟩
  · exact ((toast_on_screen 3 _).1 toast).mpr
      ⟨[early], [], rfl, by simp only [List.mem_singleton, forall_eq]; decide⟩
  · exact (toast_on_screen 3 _).2.2 toast [.ticked early] [.notified toast] late rfl
      (by decide) (by simp)
  · exact ((toast_on_screen (2 ^ (64 : Nat) - 1) _).1 toast).mpr
      ⟨[late], [], rfl, by simp only [List.mem_singleton, forall_eq]; decide⟩

end StatusBar

/-! ## Notifications of a run -/

namespace StatusBar

/-- The status bar is as before, or a notification was made at a time. -/
def Told (now : Instant) (before after : StatusBar) : Prop :=
  after = before ∨ ∃ toast : Toast, toast.createdAt = now ∧ after = before.notify toast

namespace Told

variable {now : Instant} {before middle after : StatusBar}

theorem trans (first : Told now before middle) (second : Told now middle after) :
    Told now before after := by
  rcases second with rfl | ⟨toast, made, rfl⟩
  · exact first
  · rcases first with rfl | ⟨replaced, _, rfl⟩
    · exact .inr ⟨toast, made, rfl⟩
    · exact .inr ⟨toast, made, rfl⟩

end Told

end StatusBar

namespace Console

open StatusBar

variable (console : Console) (moment : Moment)

/-- The status bar is told that something happened, if anything. -/
def Tells (moment : Moment) (before after : Console) : Prop :=
  Told moment.now before.statusBar after.statusBar

theorem notify_tells (kind : ToastKind) (message : String) :
    Tells moment console (console.notify moment kind message) :=
  .inr ⟨_, rfl, rfl⟩

theorem foldl_reportUnreadable_tells (paths : List FilePath) (console : Console) :
    Tells moment console (paths.foldl (reportUnreadable moment) console) := by
  induction paths generalizing console with
  | nil => exact .inl rfl
  | cons path paths induction =>
      have first : Tells moment console (reportUnreadable moment console path) := by
        unfold reportUnreadable
        split
        · exact .inl rfl
        · exact notify_tells ..
      exact Told.trans first (induction _)

theorem reportAdded_tells (added : Nat) (target : IntakeTarget) :
    Tells moment console (console.reportAdded moment added target) := by
  unfold reportAdded
  split
  · split <;> exact notify_tells ..
  · split
    · exact notify_tells ..
    · exact .inl rfl

theorem addPaths_tells (paths : List FilePath) (target : IntakeTarget) :
    Tells moment console (console.addPaths moment paths target) := by
  have told := foldl_reportUnreadable_tells moment (counting target paths) console
  unfold addPaths
  dsimp only
  split
  · exact told
  · exact Told.trans told (reportAdded_tells ..)

theorem reportRemoved_tells (file : Option UploadedFile) :
    Tells moment console (console.reportRemoved moment file) := by
  cases file with
  | none => exact .inl rfl
  | some file => exact notify_tells ..

theorem written_tells (done failed : String) (change : FileSystem.Change FilePath) :
    Tells moment console (console.written moment done failed change) := by
  unfold written
  split <;> exact .inr ⟨_, rfl, rfl⟩

theorem download_tells : Tells moment console (console.download moment) := by
  unfold download
  split
  · exact notify_tells ..
  · exact written_tells ..

theorem exportPreview_tells (tab : Tab) :
    Tells moment console (console.exportPreview moment tab) := by
  unfold exportPreview
  split
  · split
    · exact notify_tells ..
    · exact written_tells ..
  · split
    · exact notify_tells ..
    · exact written_tells ..
  · exact .inl rfl

theorem startOrRefuse_tells (result : Except Refusal Backend.Call) :
    Tells moment console (console.startOrRefuse moment result) := by
  cases result with
  | error refusal => exact notify_tells ..
  | ok call => exact .inl rfl

theorem startWithToken_tells (call : String → Backend.Call) :
    Tells moment console (console.startWithToken moment call) := by
  unfold startWithToken
  split
  · exact .inl rfl
  · exact notify_tells ..

theorem fulfil_tells (request : Request) :
    Tells moment console (console.fulfil moment request) := by
  cases request with
  | addPaths paths target => exact addPaths_tells ..
  | removeFile index => exact reportRemoved_tells ..
  | removeQualityFile => exact reportRemoved_tells ..
  | generateDocs projectName instructions => exact startOrRefuse_tells ..
  | connect token => exact startOrRefuse_tells ..
  | selectRepository name =>
      simp only [fulfil, selectRepository]
      split
      · exact startWithToken_tells ..
      · exact .inl rfl
  | selectBranch name => exact .inl rfl
  | openPullRequest title description commitMessage =>
      simp only [fulfil, openPullRequest]
      split
      · exact startWithToken_tells ..
      · exact notify_tells ..

theorem conclude_tells (outcome : Outcome) :
    Tells moment console (console.conclude moment outcome) := by
  cases outcome with
  | connected token => exact Told.trans (notify_tells ..) (startWithToken_tells ..)
  | repositoriesLoaded token repositories =>
      simp only [conclude]
      split <;> exact .inl rfl
  | branchesLoaded repository branches => exact .inl rfl
  | _ => exact .inr ⟨_, rfl, rfl⟩

theorem showTab_tells (tab : Option Tab) : Tells moment console (console.showTab tab) := by
  cases tab <;> exact .inl rfl

theorem effect_tells (action : Action) :
    Tells moment console (console.effect moment action) := by
  unfold effect
  split
  · exact showTab_tells ..
  · exact showTab_tells ..
  · exact showTab_tells ..
  · exact notify_tells ..
  · exact download_tells ..
  · exact exportPreview_tells ..
  · exact startOrRefuse_tells ..
  · split
    · exact notify_tells ..
    · exact .inl rfl
  · exact fulfil_tells ..
  · exact conclude_tells { console with session := console.session.finishCall _ } moment _
  · exact .inl rfl

variable {moment} {action : Action}

theorem step_tells (untimed : action ≠ .tick) (unnotified : ∀ toast, action ≠ .notify toast) :
    Tells moment console (console.step moment action).1 := by
  rcases console.taken_or_swallowed action with taken | ⟨help, swallowed⟩
  · by_cases quits : action = .quit
    · subst quits
      simp only [step, Action.passesHelp, Bool.not_true, Bool.and_false]
      exact .inl rfl
    · have unnoted (answered : Console) :
          (answered.note moment action).statusBar = answered.statusBar := by
        cases action with
        | tick => contradiction
        | notify toast => exact (unnotified toast rfl).elim
        | _ => rfl
      rw [step_of_taken taken quits, Tells]
      show StatusBar.Told _ _ (Console.note _ moment action).statusBar
      rw [unnoted, askPanel_statusBar]
      exact console.effect_tells moment action
  · rw [step_of_swallowed help swallowed]
    exact .inl rfl

theorem handle_tells (untimed : action ≠ .tick) (unnotified : ∀ toast, action ≠ .notify toast) :
    Tells moment console (console.handle moment action) := by
  have first : Tells moment console (console.step moment action).1 :=
    step_tells console untimed unnotified
  cases asks : (console.step moment action).2 with
  | none =>
      rw [handle_of_step asks]
      exact first
  | some request =>
      rw [handle_of_asks asks]
      exact Told.trans first (step_tells _ (by simp) (by simp))

theorem handle_tick_statusBar (moment : Moment) :
    (console.handle moment .tick).statusBar = console.statusBar.expire moment.now := by
  rw [handle_of_unasking (.inr rfl) (by simp) rfl]
  show (Console.askPanel _ _).1.statusBar.expire moment.now = _
  rw [askPanel_statusBar]
  rfl

end Console

namespace Stage

/-- What the status bar is told in a stage. -/
inductive Reports (stage : Stage) : List StatusBar.News → Prop where
  | ticked (ticks : stage.happening.action? = some .tick)
      (shown : stage.after.statusBar = stage.before.statusBar.expire stage.moment.now) :
      Reports stage [.ticked stage.moment.now]
  | notified (toast : Toast) (other : stage.happening.action? ≠ some .tick)
      (made : toast.createdAt = stage.moment.now)
      (shown : stage.after.statusBar = stage.before.statusBar.notify toast) :
      Reports stage [.notified toast]
  | nothing (other : stage.happening.action? ≠ some .tick)
      (shown : stage.after.statusBar = stage.before.statusBar) : Reports stage []

theorem Reports.statusBar {stage : Stage} {news : List StatusBar.News}
    (reports : stage.Reports news) :
    stage.after.statusBar = stage.before.statusBar.after news := by
  cases reports with
  | ticked _ shown => exact shown
  | notified toast _ _ shown => exact shown
  | nothing _ shown => exact shown

theorem exists_reports (stage : Stage) : ∃ news, stage.Reports news := by
  cases acts : stage.happening.action? with
  | none =>
      refine ⟨[], .nothing (by simp [acts]) ?_⟩
      rw [after, acts]
      dsimp only
      split <;> rfl
  | some action =>
      have handled := after_eq_handle acts
      by_cases ticks : action = .tick
      · subst ticks
        refine ⟨_, .ticked acts ?_⟩
        rw [handled]
        exact stage.before.handle_tick_statusBar stage.moment
      · have other : stage.happening.action? ≠ some .tick := by simpa [acts] using ticks
        have tells : Console.Tells stage.moment stage.before stage.after := by
          rw [handled]
          exact stage.before.handle_tells ticks (Happening.action?_ne_notify acts)
        rcases tells with same | ⟨toast, made, told⟩
        · exact ⟨[], .nothing other same⟩
        · exact ⟨_, .notified toast other made told⟩

end Stage

namespace Console

theorem load_statusBar (console : Console) (moment : Moment) (files : List FilePath)
    (qualityFile : Option FilePath) :
    Tells moment console (console.load moment files qualityFile) := by
  have loaded : Tells moment console
      (if files.isEmpty then console
        else console.handle moment (.request (.addPaths files .documentation))) := by
    split
    · exact .inl rfl
    · exact console.handle_tells (by simp) (by simp)
  unfold load
  cases qualityFile with
  | none => exact loaded
  | some file => exact StatusBar.Told.trans loaded (handle_tells _ (by simp) (by simp))

end Console

/-- The status bar in a state of a run is made by what it was told at the launch and in the
stages of the run.  So the toast on screen is the last one that was made, if no tick since then
came late enough to end it. -/
theorem Run.toast_lasts {past : List Stage} {console : Console} (run : Run past console) :
    ∃ (launch : List Toast) (told : List (List StatusBar.News)),
      List.Forall₂ Stage.Reports past told ∧
      ∀ toast, console.statusBar.toast = some toast ↔
        StatusBar.Lasts console.statusBar.seconds (told.flatten ++ launch.map .notified)
          toast := by
  suffices made : ∃ (seconds : Nat) (launch : List Toast) (told : List (List StatusBar.News)),
      List.Forall₂ Stage.Reports past told ∧
        console.statusBar =
          (StatusBar.quiet seconds).after (told.flatten ++ launch.map .notified) by
    obtain ⟨seconds, launch, told, reported, made⟩ := made
    refine ⟨launch, told, reported, fun toast => ?_⟩
    have kept : console.statusBar.seconds = seconds := by
      rw [made, StatusBar.after_seconds]
      rfl
    rw [kept, made, StatusBar.after_toast_eq_some_iff]
  induction run with
  | launched settings workspace moment files qualityFile =>
      rcases (Console.initial settings workspace).load_statusBar moment files qualityFile with
        same | ⟨toast, _, told⟩
      · exact ⟨settings.toastSeconds, [], [], .nil, same⟩
      · exact ⟨settings.toastSeconds, [toast], [], .nil, told⟩
  | next stage run answers induction =>
      obtain ⟨seconds, launch, told, reported, before⟩ := induction
      obtain ⟨news, reports⟩ := stage.exists_reports
      refine ⟨seconds, launch, news :: told, .cons reports reported, ?_⟩
      rw [reports.statusBar, before, List.flatten_cons, List.append_assoc,
        StatusBar.after_append _ news]

end DocsConsole
