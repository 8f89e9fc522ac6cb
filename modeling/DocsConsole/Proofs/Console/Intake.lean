import DocsConsole.Proofs.Console.Run
import DocsConsole.Proofs.Session.Merging

/-!
# Taking in files

A batch of paths is read in order, and what can be read is merged into the uploads; for an
analysis only the first path counts.  So a batch may as well come in two parts, and a batch
that was added adds nothing when it comes again.  Each path that cannot be read is told to
the user, but there is one notification on screen: the last of these stays there only if the
batch has no file to tell about.
-/

namespace DocsConsole

namespace Console

variable (console : Console) (moment : Moment)

/-- The console after a batch of paths was added. -/
def adding (target : IntakeTarget) (paths : List FilePath) : Console :=
  console.handle moment (.request (.addPaths paths target))

/-- The number of files that a batch of paths adds to the uploads. -/
def addedCount (paths : List FilePath) : Nat :=
  console.session.takenCount (readable console.workspace.files paths) .documentation

section

variable {console} (closed : console.helpOpen = false) (target : IntakeTarget)
  (paths : List FilePath)

include closed

theorem adding_sameWork :
    SameWork (console.adding moment target paths)
      { console with
        session :=
          console.session.addFiles (readable console.workspace.files (counting target paths))
            target } := by
  have work : SameWork (console.adding moment target paths) _ :=
    handle_sameWork (Or.inl closed) rfl
  exact work.trans (console.addPaths_sameButToast moment paths target).sameWork

theorem adding_session :
    (console.adding moment target paths).session =
      console.session.addFiles (readable console.workspace.files (counting target paths))
        target :=
  (adding_sameWork moment closed target paths).session

theorem adding_workspace :
    (console.adding moment target paths).workspace = console.workspace :=
  (adding_sameWork moment closed target paths).workspace

theorem adding_helpOpen : (console.adding moment target paths).helpOpen = false := by
  have answered : console.adding moment target paths = _ :=
    handle_of_quiet (Or.inl closed) rfl
  have told : console.effect moment (.request (.addPaths paths target)) = _ :=
    console.addPaths_sameButToast moment paths target
  rw [answered, told]
  exact (askPanel_helpOpen _ _).trans closed

theorem adding_statusBar :
    (console.adding moment target paths).statusBar =
      (console.addPaths moment paths target).statusBar :=
  handle_statusBar (Or.inl closed) rfl

theorem adding_uploads :
    (console.adding moment .documentation paths).session.uploads =
      Session.mergeUploads console.session.uploads
        (readable console.workspace.files paths) := by
  rw [adding_session moment closed]
  rfl

end

/-! ## Batches -/

theorem readable_append (files : FileSystem) (first second : List FilePath) :
    readable files (first ++ second) = readable files first ++ readable files second :=
  List.filterMap_append

theorem readable_of_read {files : FileSystem} {path : FilePath} {file : UploadedFile}
    (reads : UploadedFile.read files path = .ok file) : readable files [path] = [file] := by
  simp [readable, reads, Except.toOption]

theorem readable_of_unreadable {files : FileSystem} {path : FilePath} {failure : FileError}
    (unreadable : UploadedFile.read files path = .error failure) : readable files [path] = [] := by
  simp [readable, unreadable, Except.toOption]

theorem addedCount_eq (paths : List FilePath) :
    console.addedCount paths =
      (Session.newcomers console.session.uploads
        (readable console.workspace.files paths)).length := by
  rw [addedCount, Session.takenCount, Session.mergeUploads_eq_append, List.length_append,
    Nat.add_sub_cancel_left]

theorem length_uploads_adding (closed : console.helpOpen = false) (paths : List FilePath) :
    (console.adding moment .documentation paths).session.uploads.length =
      console.session.uploads.length + console.addedCount paths := by
  rw [adding_uploads moment closed, Session.mergeUploads_eq_append, List.length_append,
    addedCount_eq]

/-- A batch may be divided. -/
theorem adding_append (closed : console.helpOpen = false) (later : Moment)
    (first second : List FilePath) :
    (console.adding moment .documentation (first ++ second)).session =
      ((console.adding moment .documentation first).adding later .documentation
        second).session := by
  rw [adding_session later (adding_helpOpen moment closed _ _), adding_session moment closed,
    adding_session moment closed, adding_workspace moment closed]
  simp only [counting, readable_append, Session.addFiles, Session.mergeUploads_append]

/-- A batch that was added adds nothing when it comes again. -/
theorem adding_again (closed : console.helpOpen = false) (later : Moment)
    (paths : List FilePath) :
    ((console.adding moment .documentation paths).adding later .documentation paths).session =
      (console.adding moment .documentation paths).session := by
  rw [adding_session later (adding_helpOpen moment closed _ _), adding_session moment closed,
    adding_workspace moment closed]
  simp only [counting, Session.addFiles, Session.mergeUploads_again]

theorem adding_quality_take (closed : console.helpOpen = false) (paths : List FilePath) :
    (console.adding moment .quality paths).session =
      (console.adding moment .quality (paths.take 1)).session := by
  rw [adding_session moment closed, adding_session moment closed]
  simp only [counting, List.take_take, Nat.min_self]

theorem adding_quality_of_unreadable (closed : console.helpOpen = false) {path : FilePath}
    {failure : FileError}
    (unreadable : UploadedFile.read console.workspace.files path = .error failure)
    (rest : List FilePath) :
    (console.adding moment .quality (path :: rest)).session = console.session := by
  rw [adding_session moment closed, counting, List.take_succ_cons, List.take_zero,
    readable_of_unreadable unreadable, Session.addFiles_nil]

theorem adding_quality_of_readable (closed : console.helpOpen = false) {path : FilePath}
    {file : UploadedFile}
    (reads : UploadedFile.read console.workspace.files path = .ok file)
    (rest : List FilePath) :
    (console.adding moment .quality (path :: rest)).session =
      { console.session with qualityFile := some file } := by
  rw [adding_session moment closed, counting, List.take_succ_cons, List.take_zero,
    readable_of_read reads]
  rfl

/-- For documentation a batch appends its newcomers, it may be divided, and it adds nothing
when it comes again.  For an analysis it is as good as its first path. -/
theorem adding_batches (closed : console.helpOpen = false) (later : Moment)
    (first second : List FilePath) :
    let files := console.workspace.files
    let added := console.adding moment .documentation first
    added.session =
        { console.session with
          uploads := console.session.uploads ++
            Session.newcomers console.session.uploads (readable files first) } ∧
      (console.adding moment .documentation (first ++ second)).session =
        (added.adding later .documentation second).session ∧
      console.addedCount (first ++ second) =
        console.addedCount first + added.addedCount second ∧
      added.session.uploads.length =
        console.session.uploads.length + console.addedCount first ∧
      (added.adding later .documentation first).session = added.session ∧
      added.addedCount first = 0 ∧
      (console.adding moment .quality first).session =
        (console.adding moment .quality (first.take 1)).session ∧
      ∀ path rest, first = path :: rest →
        (console.adding moment .quality first).session =
          match UploadedFile.read files path with
          | .ok file => { console.session with qualityFile := some file }
          | .error _ => console.session := by
  intro files added
  have whole := console.length_uploads_adding moment closed (first ++ second)
  have half : added.session.uploads.length = _ := console.length_uploads_adding moment closed first
  have remaining := added.length_uploads_adding later (adding_helpOpen moment closed _ _) second
  have again := added.length_uploads_adding later (adding_helpOpen moment closed _ _) first
  have divided : _ = (added.adding later .documentation second).session :=
    console.adding_append moment closed later first second
  have repeated : (added.adding later .documentation first).session = added.session :=
    console.adding_again moment closed later first
  refine ⟨?_, divided, ?_, half, repeated, ?_, ?_, ?_⟩
  · rw [adding_session moment closed, Session.addFiles, Session.mergeUploads_eq_append]
    rfl
  · rw [divided, remaining] at whole
    omega
  · rw [repeated] at again
    omega
  · exact console.adding_quality_take moment closed first
  · rintro path rest rfl
    cases reads : UploadedFile.read files path with
    | ok file => exact console.adding_quality_of_readable moment closed reads rest
    | error failure => exact console.adding_quality_of_unreadable moment closed reads rest

/-- A console on a machine with two files of one name. -/
def amongNamesakes : Console :=
  .initial .standard
    ⟨⟨[(["a"], .directory), (["a", "x"], .file ⟨#[1]⟩), (["b"], .directory),
        (["b", "x"], .file ⟨#[2]⟩), (["y"], .file ⟨#[3]⟩)], []⟩, ""⟩

theorem adding_batches_of_namesakes :
    let added := amongNamesakes.adding .midnight .documentation ["gone", "/a/x", "/b/x"]
    let both := amongNamesakes.adding .midnight .documentation
      (["gone", "/a/x", "/b/x"] ++ ["/y", "/a/x"])
    amongNamesakes.helpOpen = false ∧
      added.session.uploads = [⟨"x", "/a/x", ⟨#[1]⟩⟩] ∧
      both.session = (added.adding .midnight .documentation ["/y", "/a/x"]).session ∧
      amongNamesakes.addedCount (["gone", "/a/x", "/b/x"] ++ ["/y", "/a/x"]) = 2 ∧
      (amongNamesakes.adding .midnight .quality ["gone", "/a/x", "/b/x"]).session =
        amongNamesakes.session := by
  intro added both
  have closed : amongNamesakes.helpOpen = false := rfl
  obtain ⟨appends, divided, sums, _, _, _, _, first⟩ :=
    amongNamesakes.adding_batches .midnight closed .midnight ["gone", "/a/x", "/b/x"]
      ["/y", "/a/x"]
  refine ⟨closed, ?_, divided, ?_, first _ _ rfl⟩
  · rw [appends]
    decide
  · rw [sums]
    decide

/-! ## What the user is told -/

/-- The paths of a batch that cannot be read, each with the reason. -/
def failures (files : FileSystem) (paths : List FilePath) : List (FilePath × FileError) :=
  paths.filterMap fun path =>
    match UploadedFile.read files path with
    | .ok _ => none
    | .error failure => some (path, failure)

/-- The notification about a path that cannot be read. -/
def unreadableToast (moment : Moment) (path : FilePath) (failure : FileError) : Toast :=
  ⟨.error, "Could not read " ++ path ++ ": IO error: " ++ failure.message, moment.now⟩

/-- The notification about a batch with a number of new files. -/
def summaryToast (moment : Moment) (added : Nat) : Toast :=
  if added = 0 then ⟨.info, "Already in the list", moment.now⟩
  else ⟨.success, "Added " ++ toString added ++ " file(s)", moment.now⟩

theorem mem_failures_iff {files : FileSystem} {paths : List FilePath} {path : FilePath}
    {failure : FileError} :
    (path, failure) ∈ failures files paths ↔
      path ∈ paths ∧ UploadedFile.read files path = .error failure := by
  unfold failures
  rw [List.mem_filterMap]
  constructor
  · rintro ⟨other, member, fails⟩
    cases reads : UploadedFile.read files other with
    | ok file => simp [reads] at fails
    | error reason =>
        simp only [reads, Option.some.injEq, Prod.mk.injEq] at fails
        obtain ⟨rfl, rfl⟩ := fails
        exact ⟨member, reads⟩
  · rintro ⟨member, reads⟩
    exact ⟨path, member, by simp [reads]⟩

/-- Of the paths that cannot be read the last one is told. -/
theorem toast_foldl_reportUnreadable (paths : List FilePath) :
    (paths.foldl (reportUnreadable moment) console).statusBar.toast =
      match (failures console.workspace.files paths).getLast? with
      | some (path, failure) => some (unreadableToast moment path failure)
      | none => console.statusBar.toast := by
  induction paths generalizing console with
  | nil => rfl
  | cons path paths induction =>
      rw [List.foldl_cons, induction]
      cases reads : UploadedFile.read console.workspace.files path with
      | ok file =>
          have silent : reportUnreadable moment console path = console := by
            simp [reportUnreadable, reads]
          have others : failures console.workspace.files (path :: paths) =
              failures console.workspace.files paths := by
            simp [failures, reads]
          rw [silent, others]
      | error failure =>
          have told : reportUnreadable moment console path =
              { console with
                statusBar := console.statusBar.notify (unreadableToast moment path failure) } := by
            simp [reportUnreadable, reads, notify, unreadableToast]
          have others : failures console.workspace.files (path :: paths) =
              (path, failure) :: failures console.workspace.files paths := by
            simp [failures, reads]
          rw [told, others, List.getLast?_cons]
          cases (failures console.workspace.files paths).getLast? <;> rfl

theorem toast_reportAdded (added : Nat) :
    (console.reportAdded moment added .documentation).statusBar.toast =
      some (summaryToast moment added) := by
  rw [reportAdded, summaryToast]
  by_cases nothing : added = 0
  · rw [if_pos nothing, if_pos nothing]
    rfl
  · rw [if_neg nothing, if_neg nothing]
    rfl

/-- A batch is summed up if a file of it can be read; otherwise its last path that cannot be
read stays on screen. -/
theorem toast_adding (closed : console.helpOpen = false) (paths : List FilePath) :
    (console.adding moment .documentation paths).statusBar.toast =
      if readable console.workspace.files paths = [] then
        match (failures console.workspace.files paths).getLast? with
        | some (path, failure) => some (unreadableToast moment path failure)
        | none => console.statusBar.toast
      else some (summaryToast moment (console.addedCount paths)) := by
  have told := foldl_reportUnreadable_sameButToast moment paths console
  have session : (paths.foldl (reportUnreadable moment) console).session = console.session :=
    told.sameWork.session
  rw [adding_statusBar moment closed, ← toast_foldl_reportUnreadable]
  by_cases nothing : readable console.workspace.files paths = []
  · simp only [addPaths, counting, nothing, List.isEmpty_nil, if_true]
  · simp only [addPaths, counting, List.isEmpty_iff, nothing, if_false]
    rw [toast_reportAdded, session, addedCount]

theorem summaryToast_kind (added : Nat) : (summaryToast moment added).kind ≠ .error := by
  rw [summaryToast]
  split
  · exact ToastKind.noConfusion
  · exact ToastKind.noConfusion

/-- A notification is an error that names a path of a batch that cannot be read. -/
def TellsUnreadable (files : FileSystem) (paths : List FilePath) (toast : Toast) : Prop :=
  toast.kind = .error ∧
    ∃ path ∈ paths, ∃ failure, UploadedFile.read files path = .error failure ∧
      toast.message = "Could not read " ++ path ++ ": IO error: " ++ failure.message

theorem unreadableToast_tells {files : FileSystem} {paths : List FilePath} {path : FilePath}
    {failure : FileError} (fails : (path, failure) ∈ failures files paths) :
    TellsUnreadable files paths (unreadableToast moment path failure) := by
  obtain ⟨member, reads⟩ := mem_failures_iff.mp fails
  exact ⟨rfl, path, member, failure, reads, rfl⟩

theorem not_tells_summaryToast (files : FileSystem) (paths : List FilePath) (added : Nat) :
    ¬ TellsUnreadable files paths (summaryToast moment added) :=
  fun tells => summaryToast_kind moment added tells.1

section

variable {console} (closed : console.helpOpen = false) {paths : List FilePath}

include closed

theorem last_failure_told (nothing : readable console.workspace.files paths = [])
    (unreadable : ∃ path ∈ paths, ∃ failure,
      UploadedFile.read console.workspace.files path = .error failure) :
    ∃ path failure,
      (failures console.workspace.files paths).getLast? = some (path, failure) ∧
        (console.adding moment .documentation paths).statusBar.toast =
          some (unreadableToast moment path failure) := by
  obtain ⟨path, member, failure, reads⟩ := unreadable
  have fails := mem_failures_iff.mpr ⟨member, reads⟩
  have last := List.getLast?_eq_some_getLast (List.ne_nil_of_mem fails)
  refine ⟨_, _, last, ?_⟩
  rw [toast_adding console moment closed, if_pos nothing, last]

theorem summary_told (someReadable : readable console.workspace.files paths ≠ []) :
    (console.adding moment .documentation paths).statusBar.toast =
      some (summaryToast moment (console.addedCount paths)) := by
  rw [toast_adding console moment closed, if_neg someReadable]

end

/-- That a path of a batch cannot be read is on screen if no other path of the batch can be
read.  Otherwise the notification about the files of the batch replaces it. -/
theorem unreadable_told_iff (closed : console.helpOpen = false) (paths : List FilePath)
    (unreadable : ∃ path ∈ paths, ∃ failure,
      UploadedFile.read console.workspace.files path = .error failure) :
    let files := console.workspace.files
    let toast := (console.adding moment .documentation paths).statusBar.toast
    ((∃ shown, toast = some shown ∧ TellsUnreadable files paths shown) ↔
        readable files paths = []) ∧
      (readable files paths = [] →
        ∃ path failure, (failures files paths).getLast? = some (path, failure) ∧
          toast = some (unreadableToast moment path failure)) ∧
      (readable files paths ≠ [] →
        toast = some (summaryToast moment (console.addedCount paths))) := by
  intro files toast
  refine ⟨⟨?_, ?_⟩, ?_, summary_told moment closed⟩
  · rintro ⟨shown, visible, tells⟩
    apply Decidable.byContradiction
    intro someReadable
    have summed : toast = _ := summary_told moment closed someReadable
    rw [summed, Option.some.injEq] at visible
    subst visible
    exact not_tells_summaryToast moment files paths _ tells
  · intro nothing
    obtain ⟨path, failure, last, visible⟩ := last_failure_told moment closed nothing unreadable
    exact ⟨_, visible, unreadableToast_tells moment (List.mem_of_getLast? last)⟩
  · intro nothing
    exact last_failure_told moment closed nothing unreadable

theorem unreadable_told_iff_of_gone :
    let next := amongNamesakes.adding .midnight .documentation ["/y", "gone"]
    amongNamesakes.helpOpen = false ∧
      UploadedFile.read amongNamesakes.workspace.files "gone" = .error .notFound ∧
      next.statusBar.toast = some (summaryToast .midnight 1) := by
  intro next
  have closed : amongNamesakes.helpOpen = false := rfl
  have gone : UploadedFile.read amongNamesakes.workspace.files "gone" = .error .notFound := rfl
  obtain ⟨_, _, summed⟩ := amongNamesakes.unreadable_told_iff .midnight closed ["/y", "gone"]
    ⟨"gone", by decide, _, gone⟩
  exact ⟨closed, gone, summed (by decide)⟩

theorem unreadable_hidden_by_readable :
    let next := amongNamesakes.adding .midnight .documentation ["gone", "/y"]
    amongNamesakes.helpOpen = false ∧
      UploadedFile.read amongNamesakes.workspace.files "gone" = .error .notFound ∧
      next.statusBar.toast = some ⟨.success, "Added 1 file(s)", 0⟩ ∧
      ¬ ∃ shown, next.statusBar.toast = some shown ∧
        TellsUnreadable amongNamesakes.workspace.files ["gone", "/y"] shown := by
  intro next
  have shown : next.statusBar.toast = some ⟨.success, "Added 1 file(s)", 0⟩ := by decide
  refine ⟨rfl, rfl, shown, ?_⟩
  rintro ⟨told, visible, kind, _⟩
  rw [shown, Option.some.injEq] at visible
  subst visible
  exact ToastKind.noConfusion kind

end Console

end DocsConsole
