import DocsConsole.Proofs.Console.Accepting
import DocsConsole.Proofs.Console.Fields
import DocsConsole.Proofs.Console.Suggested
import DocsConsole.Proofs.Editor.Parts
import DocsConsole.Proofs.Files.Dropping

/-!
# A drop and its two ways to the files

A text that is dropped on the documentation tab is read for paths at once if no field has the
keyboard.  If the path field has it, the text goes into the field and is read from there when
the field is submitted.  The field has one line only, so what is read there is the first line
of the drop, and the paths after it are lost.
-/

namespace DocsConsole

/-! ## An empty path field -/

namespace PathField

variable {workspace former : Workspace} {path : PathField}

/-- To look the text up again is right also after files have changed. -/
theorem LookedUp.refresh_later (looked : LookedUp former path) (workspace : Workspace) :
    ∃ known, UpToDate known (path.refresh workspace) := by
  by_cases same : path.field.value = path.lookedUp
  · have kept (known : Workspace) : path.refresh known = path := by
      simp [PathField.refresh, same]
    have current := looked.refresh
    rw [kept] at current ⊢
    exact ⟨former, current⟩
  · have anew : path.refresh workspace = path.dismiss.refresh workspace := by
      simp [PathField.refresh, PathField.dismiss, same]
    rw [anew]
    exact ⟨workspace, (UpToDate.dismiss path).toLookedUp.refresh⟩

/-- What a field suggests was right for the files at some time. -/
theorem UpToDate.step_later {next : PathField} (current : UpToDate former path)
    (step : Step workspace path next) : ∃ known, UpToDate known next := by
  cases step with
  | kept => exact ⟨former, current⟩
  | dismissed => exact ⟨former, .dismiss path⟩
  | cleared => exact ⟨former, .clear path⟩
  | edited change => exact (current.toLookedUp.withField _).refresh_later workspace
  | refreshed => exact current.toLookedUp.refresh_later workspace
  | highlightedNext => exact ⟨former, current.highlightNext⟩
  | highlightedPrevious => exact ⟨former, current.highlightPrevious⟩
  | accepted =>
      unfold PathField.accept
      split
      · exact ⟨former, current⟩
      · exact LookedUp.refresh_later (UpToDate.of_none rfl rfl : UpToDate former _).toLookedUp _
  | taken => exact ⟨former, .clear _⟩

theorem Step.field_lasting {Holds : TextField → Prop} (lasting : TextField.Lasting Holds)
    {next : PathField} (step : Step workspace path next) (holds : Holds path.field) :
    Holds next.field := by
  cases step with
  | kept => exact holds
  | dismissed => exact holds
  | cleared => exact lasting.clear _ holds
  | edited change =>
      rw [edit, refresh_field]
      exact lasting.edit _ change holds
  | refreshed =>
      rw [refresh_field]
      exact holds
  | highlightedNext =>
      unfold highlightNext
      split <;> exact holds
  | highlightedPrevious => exact holds
  | accepted => exact accept_lasting lasting holds workspace
  | taken => exact lasting.clear _ (accept_lasting lasting holds workspace)

/-- An empty field suggests nothing that could be highlighted. -/
theorem UpToDate.plain (current : UpToDate workspace path) (empty : path.field.isEmpty = true) :
    path.highlight = none := by
  cases highlighted : path.highlight with
  | none => rfl
  | some place =>
      have within := current.highlight place highlighted
      rw [current.suggesting.nothing empty] at within
      exact absurd within (Nat.not_lt_zero place)

theorem highlight_edit (workspace : Workspace) (plain : path.highlight = none) (change : Edit) :
    (path.edit workspace change).highlight = none := by
  unfold edit refresh
  dsimp only
  split
  · exact plain
  · rfl

end PathField

/-- A text that is pasted into an empty field is all there is in it. -/
theorem TextField.value_edit_paste {field : TextField} (empty : field.isEmpty = true)
    (text : String) :
    (field.edit (.paste text)).value = String.ofList (pasted field.kind text) := by
  have nothing : field.content = [] := List.isEmpty_iff.mp empty
  have parted := field.before_append_after
  rw [nothing, List.append_eq_nil_iff] at parted
  simp [edit, edit?, insert, withBefore, value, parted.1, parted.2]

namespace Dispatched

variable {past : List Action} {console : Console}

/-- The path field has one line, and what it suggests was right for the files at some time. -/
theorem path_field (dispatched : Dispatched past console) :
    console.docs.path.field.kind = .single ∧ ∃ known, console.docs.path.UpToDate known := by
  apply dispatched.invariant
  · intro settings workspace
    exact ⟨rfl, workspace, PathField.upToDate_empty workspace⟩
  · intro console moment action holds
    apply Console.handle_of_panels (fun console => console.docs.path.field.kind = .single ∧
      ∃ known, console.docs.path.UpToDate known) _ _ holds
    · intro left right same holds
      have docs : left.docs = right.docs := congrArg (·.1) same
      rw [docs]
      exact holds
    · rintro console action ⟨single, former, current⟩
      unfold Console.askPanel
      split
      · have step := console.docs.handle_step console.workspace console.session action
        exact ⟨step.field_lasting (TextField.kind_lasting .single) single,
          current.step_later step⟩
      · exact ⟨single, former, current⟩
      · exact ⟨single, former, current⟩
  · intro console files holds
    exact holds

end Dispatched

/-! ## The two ways -/

theorem Request.adding?_inj {target : IntakeTarget} {left right : List FilePath} :
    Request.adding? target left = Request.adding? target right ↔ left = right := by
  constructor
  · intro same
    cases left <;> cases right <;> simp_all [Request.adding?]
  · rintro rfl
    rfl

namespace Console

variable {console : Console} {moment : Moment} {text : String}

/-- On the documentation tab the path field has the keyboard. -/
structure AtPath (console : Console) : Prop where
  tab : console.session.tab = .documentation
  closed : console.helpOpen = false
  editing : console.docs.editing = true
  focused : console.docs.focus = .path

/-- On the documentation tab no field has the keyboard. -/
structure AtRest (console : Console) : Prop where
  tab : console.session.tab = .documentation
  closed : console.helpOpen = false
  resting : console.docs.wantsInput = false

/-- An action that submits the path field. -/
inductive SubmitsPath : Action → Prop
  | submit : SubmitsPath .submit
  | lineEnd : SubmitsPath (.edit .newline)

theorem step_of_docs {action : Action} (tab : console.session.tab = .documentation)
    (closed : console.helpOpen = false) (mayAsk : action.mayAsk = true) :
    console.step moment action =
      (let (panel, request) := console.docs.handle console.workspace console.session action
       ({ console with docs := panel }.withMode, request)) := by
  have stays : action ≠ .quit := by
    rintro rfl
    exact absurd mayAsk (by decide)
  rw [step_of_taken (.inl closed) stays, effect_of_mayAsk moment mayAsk]
  simp only [askPanel, tab]
  rw [note_of_mayAsk moment mayAsk]

/-- A drop is read at once. -/
theorem AtRest.step_paste (resting : console.AtRest) :
    (console.step moment (.edit (.paste text))).2 =
      Request.adding? .documentation (Drop.paths console.workspace.home text) := by
  rw [step_of_docs resting.tab resting.closed rfl]
  simp only [DocsPanel.handle, resting.resting]
  rfl

namespace AtPath

variable (there : console.AtPath)

include there

theorem wantsInput : console.docs.wantsInput = true := by
  simp [DocsPanel.wantsInput, there.editing, there.focused, DocsFocus.isText]

/-- A drop goes into the field. -/
theorem step_paste :
    console.step moment (.edit (.paste text)) =
      ({ console with
        docs.path := console.docs.path.edit console.workspace (.paste text) }.withMode, none) := by
  rw [step_of_docs there.tab there.closed rfl]
  simp only [DocsPanel.handle, there.wantsInput, if_true, DocsPanel.whileTyping, DocsPanel.edit,
    there.focused, DocsPanel.editField, DocsPanel.refresh, PathField.edit]

/-- What is in the field is read when it is submitted. -/
theorem step_submits {action : Action} (submits : SubmitsPath action)
    (plain : console.docs.path.highlight = none) :
    (console.step moment action).2 =
      Request.adding? .documentation
        (Drop.paths console.workspace.home console.docs.path.field.value) := by
  have mayAsk : action.mayAsk = true := by cases submits <;> rfl
  rw [step_of_docs there.tab there.closed mayAsk]
  simp only [DocsPanel.handle, there.wantsInput, if_true]
  cases submits with
  | submit =>
      simp only [DocsPanel.whileTyping, there.focused, if_true]
      rfl
  | lineEnd =>
      simp only [DocsPanel.whileTyping, DocsPanel.edit, there.focused, plain]
      rfl

end AtPath

end Console

/-- Of a drop into the empty path field, the first line is read when the field is submitted. -/
theorem Dispatched.step_submits_of_paste {past : List Action} {console : Console}
    (dispatched : Dispatched past console) (there : console.AtPath)
    (empty : console.docs.path.field.isEmpty = true) {action : Action}
    (submits : Console.SubmitsPath action) (text : String) (first second : Moment) :
    ((console.handle first (.edit (.paste text))).step second action).2 =
      Request.adding? .documentation
        (Drop.paths console.workspace.home (String.ofList (TextField.pasted .single text))) := by
  obtain ⟨single, known, current⟩ := dispatched.path_field
  have unasked : (console.step first (.edit (.paste text))).2 = none := by rw [there.step_paste]
  rw [Console.handle_of_step unasked, there.step_paste]
  have stays : Console.AtPath { console with
      docs.path := console.docs.path.edit console.workspace (.paste text) }.withMode :=
    ⟨there.tab, there.closed, there.editing, there.focused⟩
  have plain := PathField.highlight_edit console.workspace (current.plain empty)
    (.paste text)
  have content : (console.docs.path.edit console.workspace (.paste text)).field.value =
      String.ofList (TextField.pasted .single text) := by
    rw [PathField.edit, PathField.refresh_field, TextField.value_edit_paste empty, single]
  rw [stays.step_submits submits plain]
  exact congrArg (fun line => Request.adding? .documentation (Drop.paths _ line)) content

/-! ## When the two ways agree -/

namespace Drop

/-- A gap that ends a line: a line feed, with the carriage return before it if there is one. -/
def Gap.EndsLine (gap : Gap) (line : List Char) : Prop :=
  gap.chars = ['\n'] ∧ line.getLast? ≠ some '\r' ∨ gap.chars = ['\r', '\n']

theorem Gap.EndsLine.pasted {gap : Gap} {line : List Char} (ends : gap.EndsLine line)
    (unended : '\n' ∉ line) (rest : String) :
    TextField.pasted .single (String.ofList line ++ String.ofList gap.chars ++ rest) = line := by
  refine (Parted.Accepts.eq_pasted ?_).symm
  simp only [String.toList_append, String.toList_ofList, List.append_assoc]
  rcases ends with ⟨feed, noReturn⟩ | both
  · rw [feed]
    exact .beforeFeed (by decide) unended noReturn rest.toList
  · rw [both]
    exact .beforeReturn (by decide) unended rest.toList

end Drop

/-- A drop into the empty path field asks for nothing until the field is submitted.  Then the
paths of its first line are asked for, and of a drop at rest all paths are.  So the two agree
if and only if the whole drop has the paths of its first line: always if the drop is one line,
and if the first line leaves no quotation open, just if there are no paths after it. -/
theorem Dispatched.dropped_alike_iff {past : List Action} {console : Console}
    (dispatched : Dispatched past console) (there : console.AtPath)
    (empty : console.docs.path.field.isEmpty = true) {action : Action}
    (submits : Console.SubmitsPath action) {resting : Console} (rests : resting.AtRest)
    (sameHome : resting.workspace.home = console.workspace.home) (text : String)
    (first second other : Moment) :
    let home := console.workspace.home
    let line := String.ofList (TextField.pasted .single text)
    let typed := ((console.handle first (.edit (.paste text))).step second action).2
    let dropped := (resting.step other (.edit (.paste text))).2
    (console.step first (.edit (.paste text))).2 = none ∧
      typed = Request.adding? .documentation (Drop.paths home line) ∧
      dropped = Request.adding? .documentation (Drop.paths home text) ∧
      (typed = dropped ↔ Drop.paths home line = Drop.paths home text) ∧
      ('\n' ∉ text.toList → typed = dropped) ∧
      ∀ (front : Drop.Writing) (gap : Drop.Gap) (rest : String), front.ending = .complete →
        '\n' ∉ front.chars → gap.EndsLine front.chars →
        text = front.text ++ String.ofList gap.chars ++ rest →
        (typed = dropped ↔ Drop.paths home rest = []) := by
  intro home line typed dropped
  have read : typed = Request.adding? .documentation (Drop.paths home line) :=
    dispatched.step_submits_of_paste there empty submits text first second
  have readAtOnce : dropped = Request.adding? .documentation (Drop.paths home text) := by
    rw [← show resting.workspace.home = home from sameHome]
    exact rests.step_paste
  have alike : typed = dropped ↔ Drop.paths home line = Drop.paths home text := by
    rw [read, readAtOnce, Request.adding?_inj]
  refine ⟨by rw [there.step_paste], read, readAtOnce, alike, ?_, ?_⟩
  · intro unended
    have whole : TextField.pasted .single text = text.toList :=
      (Parted.Accepts.eq_pasted (.onlyLine (by decide) unended)).symm
    rw [alike]
    simp only [line, whole, String.ofList_toList]
  · rintro front gap rest complete unended ends rfl
    have firstLine : line = front.text :=
      congrArg String.ofList (ends.pasted unended rest)
    rw [alike, firstLine, Drop.paths_gap home complete gap rest, List.self_eq_append_right]

/-- A console on a machine with two files, with the keyboard at the path field or not. -/
def Console.withTwoFiles (actions : List Action) : Console :=
  actions.foldl (fun console action => console.handle .midnight action)
    (.initial .standard ⟨⟨[(["a"], .file ⟨#[1]⟩), (["b"], .file ⟨#[2]⟩)], []⟩, "/home"⟩)

theorem Console.atPath_withTwoFiles : (withTwoFiles [.startEditing]).AtPath :=
  ⟨by decide, by decide, by decide, by decide⟩

theorem Console.atRest_withTwoFiles : (withTwoFiles []).AtRest :=
  ⟨by decide, by decide, by decide⟩

/-- On one line both ways ask for all paths. -/
theorem dropped_alike_of_oneLine :
    let console := Console.withTwoFiles [.startEditing]
    let resting := Console.withTwoFiles []
    ((console.handle .midnight (.edit (.paste "a b"))).step .midnight .submit).2 =
        some (.addPaths ["a", "b"] .documentation) ∧
      ((console.handle .midnight (.edit (.paste "a b"))).step .midnight .submit).2 =
        (resting.step .midnight (.edit (.paste "a b"))).2 := by
  intro console resting
  have dispatched : Dispatched [.startEditing] console :=
    (Dispatched.fresh _ _).next .midnight .startEditing
  obtain ⟨_, read, _, _, oneLine, _⟩ := dispatched.dropped_alike_iff
    Console.atPath_withTwoFiles (by decide) .submit Console.atRest_withTwoFiles rfl "a b"
    .midnight .midnight .midnight
  refine ⟨?_, oneLine (by decide)⟩
  rw [read]
  decide

/-- Two files are dropped, one path a line.  At rest both are added, from the path field only
the first one. -/
theorem dropped_lines_lost :
    let typed := Console.withTwoFiles [.startEditing, .edit (.paste "a\nb"), .edit .newline]
    let dropped := Console.withTwoFiles [.edit (.paste "a\nb")]
    (typed.session.uploads.map (·.path), dropped.session.uploads.map (·.path)) =
      (["a"], ["a", "b"]) ∧
    typed.docs.path.field.isEmpty = true ∧
    Dispatched [.startEditing] (Console.withTwoFiles [.startEditing]) ∧
    ((Console.withTwoFiles [.startEditing, .edit (.paste "a\nb")]).step .midnight
        (.edit .newline)).2 ≠
      ((Console.withTwoFiles []).step .midnight (.edit (.paste "a\nb"))).2 := by
  intro typed dropped
  refine ⟨by decide, by decide, (Dispatched.fresh _ _).next .midnight .startEditing, by decide⟩

end DocsConsole
