import DocsConsole.Proofs.Console.Intake
import DocsConsole.Proofs.Files.PlainPath

/-!
# Taking a suggested file

A file that is suggested for a path is taken into the field as text, and the paths to take in
are then read from the field as from any other text.  So the file that was suggested is the one
that is taken in if its path is plain, and not otherwise.
-/

namespace DocsConsole

/-- An action takes the suggestion that is chosen, and it is a file. -/
structure PathField.Taking (path : PathField) (action : Action) (suggestion : Suggestion) :
    Prop where
  chosen : path.chosen? = some suggestion
  isFile : suggestion.isDirectory = false
  takes : action = .focusNext ∨ action = .edit .newline ∧ path.highlight.isSome = true

namespace PathField.Taking

variable {path : PathField} {action : Action} {suggestion : Suggestion}
  (taking : path.Taking action suggestion)

include taking

theorem hasSuggestions : path.hasSuggestions = true := by
  have chosen := taking.chosen
  unfold chosen? at chosen
  have member := List.mem_of_getElem? chosen
  simp [PathField.hasSuggestions, List.ne_nil_of_mem member]

theorem completes : path.completes = true := by
  simp [PathField.completes, taking.chosen, taking.isFile]

theorem paths_accept (workspace : Workspace) :
    (path.accept workspace).paths workspace = Drop.paths workspace.home suggestion.path := by
  have filled : (path.accept workspace).field.value = suggestion.path := by
    simp [accept, taking.chosen, Suggestion.completion, taking.isFile, TextField.setValue,
      TextField.value]
  rw [paths, filled]

theorem mayAsk : action.mayAsk = true := by
  rcases taking.takes with rfl | ⟨rfl, _⟩
  · rfl
  · rfl

end PathField.Taking

theorem UploadedFile.path_of_read {files : FileSystem} {path : FilePath} {file : UploadedFile}
    (reads : UploadedFile.read files path = .ok file) : file.path = path := by
  unfold UploadedFile.read at reads
  split at reads
  · rw [← Except.ok.inj reads]
  · contradiction

/-- The request to take in paths, if there are any. -/
def Request.adding? (target : IntakeTarget) (paths : List FilePath) : Option Request :=
  if paths.isEmpty then none else some (.addPaths paths target)

section

variable {workspace : Workspace} {session : Session} {action : Action} {suggestion : Suggestion}

theorem DocsPanel.handle_taking {panel : DocsPanel} (editing : panel.editing = true)
    (focused : panel.focus = .path) (taking : panel.path.Taking action suggestion) :
    (panel.handle workspace session action).2 =
      Request.adding? .documentation (Drop.paths workspace.home suggestion.path) := by
  have wants : panel.wantsInput = true := by
    simp [wantsInput, editing, focused, DocsFocus.isText]
  have accepts : panel.whileTyping workspace action = panel.acceptSuggestion workspace := by
    rcases taking.takes with rfl | ⟨rfl, highlighted⟩
    · simp [whileTyping, focused, taking.hasSuggestions]
    · simp [whileTyping, edit, focused, highlighted]
  rw [handle, if_pos wants, accepts, acceptSuggestion]
  simp only [taking.completes, if_true, takePaths, taking.paths_accept]
  rfl

theorem QualityPanel.handle_taking {panel : QualityPanel} (wants : panel.wantsInput = true)
    (taking : panel.path.Taking action suggestion) :
    (panel.handle workspace session action).2 =
      Request.adding? .quality (Drop.paths workspace.home suggestion.path) := by
  have accepts : panel.whileTyping workspace action = panel.acceptSuggestion workspace := by
    rcases taking.takes with rfl | ⟨rfl, highlighted⟩
    · simp [whileTyping, taking.hasSuggestions]
    · simp [whileTyping, edit, highlighted]
  rw [handle, if_pos wants, accepts, acceptSuggestion]
  simp only [taking.completes, if_true, takePath, taking.paths_accept]
  rfl

end

namespace Console

/-- On the tab that files are taken in for, the path field has the keyboard, and an action takes
a file that it suggests. -/
inductive Taking (console : Console) (action : Action) (suggestion : Suggestion) :
    IntakeTarget → Prop where
  | documentation (tab : console.session.tab = .documentation)
      (editing : console.docs.editing = true) (focused : console.docs.focus = .path)
      (taking : console.docs.path.Taking action suggestion) :
      Taking console action suggestion .documentation
  | quality (tab : console.session.tab = .quality) (wants : console.quality.wantsInput = true)
      (taking : console.quality.path.Taking action suggestion) :
      Taking console action suggestion .quality

variable {console : Console} {moment : Moment} {action : Action} {suggestion : Suggestion}
  {target : IntakeTarget} {paths : List FilePath}

theorem Taking.askPanel (taking : console.Taking action suggestion target) :
    (console.askPanel action).2 =
      Request.adding? target (Drop.paths console.workspace.home suggestion.path) := by
  cases taking with
  | documentation tab editing focused taking =>
      simp only [Console.askPanel, tab]
      exact DocsPanel.handle_taking editing focused taking
  | quality tab wants taking =>
      simp only [Console.askPanel, tab]
      exact QualityPanel.handle_taking wants taking

theorem Taking.mayAsk (taking : console.Taking action suggestion target) :
    action.mayAsk = true := by
  cases taking with
  | documentation tab editing focused taking => exact taking.mayAsk
  | quality tab wants taking => exact taking.mayAsk

/-- What is asked for is what the reader finds in the path of the suggestion. -/
theorem Taking.step (taking : console.Taking action suggestion target)
    (closed : console.helpOpen = false) :
    (console.step moment action).2 =
      Request.adding? target (Drop.paths console.workspace.home suggestion.path) := by
  have stays : action ≠ .quit := by
    rintro rfl
    exact absurd taking.mayAsk (by decide)
  rw [step_of_taken (Or.inl closed) stays, effect_of_mayAsk moment taking.mayAsk]
  exact taking.askPanel

/-! ## What comes of a request -/

theorem session_of_unasked (mayAsk : action.mayAsk = true) (closed : console.helpOpen = false)
    (unasked : (console.step moment action).2 = none) :
    (console.handle moment action).session = console.session := by
  have work : SameWork (console.step moment action).1 _ := step_sameWork (Or.inl closed)
  rw [handle_of_step unasked, work.session, effect_of_mayAsk moment mayAsk]

/-- The paths that a panel asks for are added as if they were asked for at once. -/
theorem session_of_asked (asks : (console.step moment action).2 = some (.addPaths paths target)) :
    (console.handle moment action).session =
      (console.adding moment target paths).session := by
  obtain ⟨closed, _, _⟩ := step_of_asks asks
  obtain ⟨stillClosed, same⟩ := step_sameWork_of_asks asks
  have answered : console.handle moment action =
      (console.step moment action).1.adding moment target paths := by
    rw [handle_of_asks asks, adding, handle_of_step (step_request _ moment _)]
  rw [answered, adding_session moment stillClosed, adding_session moment closed, same.session,
    same.workspace]

/-! ## Plain paths -/

section

variable (taking : console.Taking action suggestion target) (closed : console.helpOpen = false)

include taking closed

theorem Taking.asked_of_plain (plain : Drop.PlainPath suggestion.path) :
    (console.step moment action).2 = some (.addPaths [suggestion.path] target) := by
  rw [taking.step closed, plain.paths]
  rfl

theorem Taking.plain_of_asked (absolute : FilePath.isAbsolute console.workspace.home = true)
    (asked : (console.step moment action).2 = some (.addPaths [suggestion.path] target)) :
    Drop.PlainPath suggestion.path := by
  apply Drop.plainPath_of_head_paths absolute
  rw [taking.step closed, Request.adding?] at asked
  split at asked
  case isTrue => contradiction
  case isFalse =>
    injection asked with same
    injection same with same
    rw [same]
    rfl

variable {file : UploadedFile}

theorem Taking.session_of_plain (plain : Drop.PlainPath suggestion.path)
    (reads : UploadedFile.read console.workspace.files suggestion.path = .ok file) :
    (console.handle moment action).session = console.session.addFiles [file] target := by
  have counted : counting target [suggestion.path] = [suggestion.path] := by
    cases target with
    | documentation => rfl
    | quality => rfl
  rw [session_of_asked (taking.asked_of_plain closed plain), adding_session moment closed,
    counted, readable_of_read reads]

/-- A file that was not picked before is picked only if its path is the first one in the
field. -/
theorem Taking.head_paths_of_picked (picks : target = .quality)
    (reads : UploadedFile.read console.workspace.files suggestion.path = .ok file)
    (fresh : console.session.qualityFile ≠ some file)
    (picked : (console.handle moment action).session.qualityFile = some file) :
    (Drop.paths console.workspace.home suggestion.path).head? = some suggestion.path := by
  subst picks
  have step : (console.step moment action).2 = _ := taking.step closed
  cases found : Drop.paths console.workspace.home suggestion.path with
  | nil =>
      rw [found] at step
      rw [session_of_unasked taking.mayAsk closed step] at picked
      exact absurd picked fresh
  | cons path rest =>
      rw [found] at step
      rw [session_of_asked step] at picked
      cases other : UploadedFile.read console.workspace.files path with
      | error failure =>
          rw [adding_quality_of_unreadable console moment closed other] at picked
          exact absurd picked fresh
      | ok read =>
          rw [adding_quality_of_readable console moment closed other] at picked
          obtain rfl : read = file := Option.some.inj picked
          have same : path = suggestion.path :=
            (UploadedFile.path_of_read other).symm.trans (UploadedFile.path_of_read reads)
          rw [same]
          rfl

end

/-- A suggested file is taken in if its path is plain, and only then. -/
theorem suggested_file_taken_iff (console : Console) (moment : Moment)
    (closed : console.helpOpen = false)
    (taking : console.Taking action suggestion target) {file : UploadedFile}
    (reads : UploadedFile.read console.workspace.files suggestion.path = .ok file) :
    let asked := (console.step moment action).2
    let next := (console.handle moment action).session
    (Drop.PlainPath suggestion.path →
        asked = some (.addPaths [suggestion.path] target) ∧
          next = console.session.addFiles [file] target ∧
          (target = .quality → next.qualityFile = some file)) ∧
      (FilePath.isAbsolute console.workspace.home = true →
        (asked = some (.addPaths [suggestion.path] target) → Drop.PlainPath suggestion.path) ∧
          (target = .quality → console.session.qualityFile ≠ some file →
            next.qualityFile = some file → Drop.PlainPath suggestion.path)) := by
  intro asked next
  constructor
  · intro plain
    have added : next = console.session.addFiles [file] target :=
      taking.session_of_plain closed plain reads
    refine ⟨taking.asked_of_plain closed plain, added, ?_⟩
    rintro rfl
    rw [added]
    rfl
  · intro absolute
    refine ⟨taking.plain_of_asked closed absolute, ?_⟩
    intro picks fresh picked
    exact Drop.plainPath_of_head_paths absolute
      (taking.head_paths_of_picked closed picks reads fresh picked)

/-- A console on a machine with one file, whose name was begun in the path field of a tab. -/
def completing (name : String) (tab : Tab) : Console :=
  let console : Console := .initial .standard ⟨⟨[([name], .file ⟨#[1]⟩)], []⟩, "/home"⟩
  let path : PathField := ⟨⟨.single, ['a'], 1⟩, [⟨name, "./" ++ name, false⟩], none, "a"⟩
  { console with
    session := console.session.selectTab tab
    docs := { console.docs with editing := true, path := path }
    quality := { console.quality with editing := true, path := path } }

theorem taking_completing (name : String) :
    (completing name .documentation).Taking .focusNext ⟨name, "./" ++ name, false⟩
        .documentation ∧
      (completing name .quality).Taking .focusNext ⟨name, "./" ++ name, false⟩ .quality := by
  have taking : PathField.Taking ⟨⟨.single, ['a'], 1⟩, [⟨name, "./" ++ name, false⟩], none, "a"⟩
      .focusNext ⟨name, "./" ++ name, false⟩ := ⟨rfl, rfl, Or.inl rfl⟩
  exact ⟨.documentation rfl rfl rfl taking, .quality rfl rfl taking⟩

theorem suggested_file_taken_iff_of_plain :
    let console := completing "ab" .quality
    console.helpOpen = false ∧
      console.Taking .focusNext ⟨"ab", "./ab", false⟩ .quality ∧
      UploadedFile.read console.workspace.files "./ab" = .ok ⟨"ab", "./ab", ⟨#[1]⟩⟩ ∧
      (console.handle .midnight .focusNext).session.qualityFile =
        some ⟨"ab", "./ab", ⟨#[1]⟩⟩ := by
  intro console
  have closed : console.helpOpen = false := rfl
  have taking : console.Taking .focusNext ⟨"ab", "./ab", false⟩ .quality :=
    (taking_completing "ab").2
  have reads : UploadedFile.read console.workspace.files "./ab" =
      .ok ⟨"ab", "./ab", ⟨#[1]⟩⟩ := by rfl
  obtain ⟨plain, _⟩ := console.suggested_file_taken_iff .midnight closed taking reads
  have itself : Drop.PlainPath "./ab" := by decide
  obtain ⟨_, _, picked⟩ := plain itself
  exact ⟨closed, taking, reads, picked rfl⟩

/-- A file whose name holds a space is not taken in. -/
theorem suggested_file_divided :
    let docs := completing "a b" .documentation
    let quality := completing "a b" .quality
    docs.Taking .focusNext ⟨"a b", "./a b", false⟩ .documentation ∧
      (docs.step .midnight .focusNext).2 = some (.addPaths ["./a", "b"] .documentation) ∧
      quality.Taking .focusNext ⟨"a b", "./a b", false⟩ .quality ∧
      UploadedFile.read quality.workspace.files "./a b" = .ok ⟨"a b", "./a b", ⟨#[1]⟩⟩ ∧
      (quality.handle .midnight .focusNext).session.qualityFile = none := by
  intro docs quality
  obtain ⟨inDocs, inQuality⟩ := taking_completing "a b"
  have divided : Drop.paths "/home" "./a b" = ["./a", "b"] := by decide
  have asked : (docs.step .midnight .focusNext).2 =
      some (.addPaths ["./a", "b"] .documentation) := by
    rw [inDocs.step rfl]
    exact congrArg (Request.adding? .documentation) divided
  have picking : (quality.step .midnight .focusNext).2 =
      some (.addPaths ["./a", "b"] .quality) := by
    rw [inQuality.step rfl]
    exact congrArg (Request.adding? .quality) divided
  have gone : UploadedFile.read quality.workspace.files "./a" = .error .notFound := by rfl
  refine ⟨inDocs, asked, inQuality, by rfl, ?_⟩
  rw [session_of_asked picking, adding_quality_of_unreadable quality .midnight rfl gone]
  rfl

end Console

end DocsConsole
