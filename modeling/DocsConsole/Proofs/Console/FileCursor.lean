import DocsConsole.Proofs.Console.Dispatched
import DocsConsole.Proofs.Session.Merging
import DocsConsole.Screen.Docs

/-!
# The cursor in the list of files

The cursor is kept by the panel and the files by the session.  Files are added in many ways, but
that only makes the list longer.  One is only removed when the panel asks for it, and then the panel
sees the shorter list before anything else happens.  So the cursor stays on a file as long as there
is one, and the file that is removed is the one in the highlighted row.
-/

namespace DocsConsole

open Terminal

/-! ## The panel -/

theorem stepCursor_le {cursor count : Nat} (among : cursor ≤ count - 1) (down : Bool) :
    stepCursor cursor count down ≤ count - 1 := by
  unfold stepCursor
  split
  · exact Nat.zero_le _
  · split
    · exact Nat.min_le_right _ _
    · exact Nat.le_trans (Nat.sub_le cursor 1) among

namespace DocsPanel

variable {panel : DocsPanel} {files : Nat}

/-- The cursor is on one of a number of files, or on the first row if there is none. -/
def CursorAmong (panel : DocsPanel) (files : Nat) : Prop :=
  panel.fileCursor ≤ files - 1

theorem withinFiles_cursorAmong (panel : DocsPanel) (files : Nat) :
    (panel.withinFiles files).CursorAmong files :=
  Nat.min_le_right _ _

theorem CursorAmong.lt (among : panel.CursorAmong files) (some_ : 0 < files) :
    panel.fileCursor < files := by
  unfold CursorAmong at among
  omega

theorem withinFiles_eq (among : panel.CursorAmong files) : panel.withinFiles files = panel := by
  unfold withinFiles
  rw [Nat.min_eq_left among]

theorem editField_fileCursor (panel : DocsPanel) (change : TextField → TextField) :
    (panel.editField change).fileCursor = panel.fileCursor := by
  unfold editField
  split <;> rfl

theorem refresh_fileCursor (workspace : Workspace) (panel : DocsPanel) :
    (panel.refresh workspace).fileCursor = panel.fileCursor := by
  unfold refresh
  split <;> rfl

theorem acceptSuggestion_fileCursor (workspace : Workspace) (panel : DocsPanel) :
    (panel.acceptSuggestion workspace).1.fileCursor = panel.fileCursor := by
  unfold acceptSuggestion
  dsimp only
  split <;> rfl

theorem edit_fileCursor (workspace : Workspace) (panel : DocsPanel) (change : Edit) :
    (panel.edit workspace change).1.fileCursor = panel.fileCursor := by
  unfold DocsPanel.edit
  split
  · split
    · exact acceptSuggestion_fileCursor workspace panel
    · rfl
  · rfl
  · exact (refresh_fileCursor workspace _).trans (editField_fileCursor panel _)

/-- Text is typed beside the list. -/
theorem whileTyping_fileCursor (workspace : Workspace) (panel : DocsPanel) (action : Action) :
    (panel.whileTyping workspace action).1.fileCursor = panel.fileCursor := by
  cases action with
  | cancel =>
      simp only [whileTyping]
      split <;> rfl
  | focusNext =>
      simp only [whileTyping]
      split
      · exact acceptSuggestion_fileCursor workspace panel
      · rfl
  | focusPrevious => rfl
  | down =>
      simp only [whileTyping]
      split
      · rfl
      · exact editField_fileCursor panel _
  | up =>
      simp only [whileTyping]
      split
      · rfl
      · exact editField_fileCursor panel _
  | submit =>
      simp only [whileTyping]
      split <;> rfl
  | edit change => exact edit_fileCursor workspace panel change
  | _ => exact refresh_fileCursor workspace panel

theorem scroll_cursorAmong (among : panel.CursorAmong files) (down : Bool) :
    (panel.scroll files down).CursorAmong files := by
  unfold scroll
  split
  · exact stepCursor_le among down
  · exact among
  · exact among

theorem atRest_cursorAmong (among : panel.CursorAmong files) (workspace : Workspace)
    (action : Action) : (panel.atRest workspace files action).1.CursorAmong files := by
  cases action with
  | up => exact scroll_cursorAmong among false
  | down => exact scroll_cursorAmong among true
  | edit change => cases change <;> exact among
  | _ => exact among

theorem handle_cursorAmong {session : Session} (among : panel.CursorAmong session.uploads.length)
    (workspace : Workspace) (action : Action) :
    (panel.handle workspace session action).1.CursorAmong session.uploads.length := by
  unfold handle
  split
  · unfold CursorAmong
    rw [whileTyping_fileCursor]
    exact among
  · exact atRest_cursorAmong (withinFiles_cursorAmong panel _) workspace action

/-! Only the list asks to remove a file. -/

theorem addition?_ne_removeFile (paths : List FilePath) (index : Nat) :
    addition? paths ≠ some (.removeFile index) := by
  unfold addition?
  split <;> simp

theorem takePaths_ne_removeFile (workspace : Workspace) (panel : DocsPanel) (index : Nat) :
    (panel.takePaths workspace).2 ≠ some (.removeFile index) :=
  addition?_ne_removeFile (panel.path.paths workspace) index

theorem acceptSuggestion_ne_removeFile (workspace : Workspace) (panel : DocsPanel)
    (index : Nat) : (panel.acceptSuggestion workspace).2 ≠ some (.removeFile index) := by
  unfold acceptSuggestion
  dsimp only
  split
  · exact takePaths_ne_removeFile workspace _ index
  · simp

theorem edit_ne_removeFile (workspace : Workspace) (panel : DocsPanel) (change : Edit)
    (index : Nat) : (panel.edit workspace change).2 ≠ some (.removeFile index) := by
  unfold DocsPanel.edit
  split
  · split
    · exact acceptSuggestion_ne_removeFile workspace panel index
    · exact takePaths_ne_removeFile workspace panel index
  · simp
  · simp

theorem whileTyping_ne_removeFile (workspace : Workspace) (panel : DocsPanel) (action : Action)
    (index : Nat) : (panel.whileTyping workspace action).2 ≠ some (.removeFile index) := by
  cases action with
  | focusNext =>
      simp only [whileTyping]
      split
      · exact acceptSuggestion_ne_removeFile workspace panel index
      · simp
  | submit =>
      simp only [whileTyping]
      split
      · exact takePaths_ne_removeFile workspace panel index
      · simp [generation]
  | edit change => exact edit_ne_removeFile workspace panel change index
  | cancel =>
      simp only [whileTyping]
      split <;> simp
  | up =>
      simp only [whileTyping]
      split <;> simp
  | down =>
      simp only [whileTyping]
      split <;> simp
  | _ => simp [whileTyping]

/-- A file is only asked to be removed while the list has the focus and is not empty. -/
theorem handle_asks_removeFile {workspace : Workspace} {session : Session} {action : Action}
    {index : Nat} (asks : (panel.handle workspace session action).2 = some (.removeFile index)) :
    action = .removeSelected ∧ panel.focus = .files ∧ session.uploads ≠ [] := by
  unfold handle at asks
  split at asks
  · exact (whileTyping_ne_removeFile workspace panel action index asks).elim
  · cases action with
    | removeSelected =>
        simp only [atRest] at asks
        split at asks
        case isTrue condition =>
          have listed : session.uploads ≠ [] := by simpa using condition.right
          exact ⟨rfl, condition.left, listed⟩
        case isFalse => contradiction
    | edit change =>
        cases change with
        | paste text => exact (addition?_ne_removeFile _ index asks).elim
        | _ => contradiction
    | generate => cases asks
    | _ => contradiction

end DocsPanel

/-! ## The session -/

theorem Session.addFiles_prefix (session : Session) (files : List UploadedFile)
    (target : IntakeTarget) : session.uploads <+: (session.addFiles files target).uploads := by
  cases target with
  | documentation =>
      rw [Session.addFiles, mergeUploads_eq_append]
      exact List.prefix_append _ _
  | quality => cases files <;> exact List.prefix_rfl

/-- Only the file at the index is removed. -/
theorem Session.removeFile_parted {session : Session} {before after : List UploadedFile}
    {file : UploadedFile} (parted : session.uploads = before ++ file :: after) :
    session.removeFile before.length = { session with uploads := before ++ after } := by
  rw [Session.removeFile, parted, List.eraseIdx_append_of_length_le (Nat.le_refl _), Nat.sub_self,
    List.eraseIdx_cons_zero]

namespace Console

variable (console : Console) (moment : Moment)

theorem startOrRefuse_uploads (result : Except Refusal Backend.Call) :
    (console.startOrRefuse moment result).session.uploads = console.session.uploads := by
  cases result <;> rfl

theorem startWithToken_uploads (call : String → Backend.Call) :
    (console.startWithToken moment call).session.uploads = console.session.uploads := by
  unfold startWithToken
  split <;> rfl

theorem written_uploads (done failed : String) (change : FileSystem.Change FilePath) :
    (console.written moment done failed change).session.uploads = console.session.uploads := by
  unfold written
  split <;> rfl

theorem exportPreview_uploads (tab : Tab) :
    (console.exportPreview moment tab).session.uploads = console.session.uploads := by
  cases tab with
  | documentation =>
      simp only [exportPreview]
      split
      · rfl
      · exact console.written_uploads moment _ _ _
  | quality =>
      simp only [exportPreview]
      split
      · rfl
      · exact console.written_uploads moment _ _ _
  | github => rfl

theorem conclude_uploads (outcome : Outcome) :
    (console.conclude moment outcome).session.uploads = console.session.uploads := by
  cases outcome with
  | connected token => exact startWithToken_uploads _ moment _
  | repositoriesLoaded token repositories =>
      simp only [conclude]
      split <;> rfl
  | branchesLoaded repository branches =>
      simp only [conclude, Session.applyBranches]
      split <;> rfl
  | _ => rfl

theorem reportRemoved_sameButToast (file : Option UploadedFile) :
    SameButToast (console.reportRemoved moment file) console := by
  cases file <;> rfl

/-- A request adds files at the end of the list if it does not remove one. -/
theorem fulfil_uploads {request : Request} (keeps : ∀ index, request ≠ .removeFile index) :
    console.session.uploads <+: (console.fulfil moment request).session.uploads := by
  cases request with
  | addPaths paths target =>
      have added := (console.addPaths_sameButToast moment paths target).sameWork.session
      simp only [fulfil, added]
      exact Session.addFiles_prefix _ _ target
  | removeFile index => exact (keeps index rfl).elim
  | removeQualityFile =>
      have removed := (reportRemoved_sameButToast
        { console with session := console.session.removeQualityFile } moment
        console.session.qualityFile).sameWork.session
      simp only [fulfil, removeQualityFile, removed]
      exact List.prefix_rfl
  | generateDocs projectName instructions =>
      simp only [fulfil, startOrRefuse_uploads]
      exact List.prefix_rfl
  | connect token =>
      simp only [fulfil, startOrRefuse_uploads]
      exact List.prefix_rfl
  | selectRepository name =>
      simp only [fulfil, selectRepository]
      split
      · simp only [startWithToken_uploads]
        exact List.prefix_rfl
      · exact List.prefix_rfl
  | selectBranch name => exact List.prefix_rfl
  | openPullRequest title description commitMessage =>
      simp only [fulfil, openPullRequest]
      split
      · simp only [startWithToken_uploads]
        exact List.prefix_rfl
      · exact List.prefix_rfl

/-- The effect of an action adds files at the end of the list if it does not remove one. -/
theorem effect_uploads {action : Action}
    (keeps : ∀ index, action ≠ .request (.removeFile index)) :
    console.session.uploads <+: (console.effect moment action).session.uploads := by
  have shown : ∀ tab, console.session.uploads <+: (console.showTab tab).session.uploads := by
    intro tab
    cases tab <;> exact List.prefix_rfl
  cases action with
  | showTab tab => exact shown (some tab)
  | nextTab => exact shown _
  | previousTab => exact shown _
  | togglePurpose =>
      rw [effect_togglePurpose]
      split <;> exact List.prefix_rfl
  | download =>
      rw [effect_download]
      split
      · unfold download
        split
        · exact List.prefix_rfl
        · simp only [written_uploads]
          exact List.prefix_rfl
      · exact List.prefix_rfl
  | exportPreview =>
      have same := console.exportPreview_uploads moment console.session.tab
      exact same.symm ▸ List.prefix_rfl
  | analyze =>
      rw [effect_analyze]
      split
      · simp only [analyze, startOrRefuse_uploads]
        exact List.prefix_rfl
      · exact List.prefix_rfl
  | disconnect =>
      rw [effect_disconnect]
      split <;> exact List.prefix_rfl
  | request request =>
      apply console.fulfil_uploads moment
      rintro index rfl
      exact keeps index rfl
  | completed ticket outcome =>
      have same := conclude_uploads
        { console with session := console.session.finishCall ticket } moment outcome
      exact same.symm ▸ List.prefix_rfl
  | _ => exact List.prefix_rfl

/-! ## The console -/

variable {console moment}

/-- The cursor is on one of the files, or on the first row if there is none. -/
def CursorAmong (console : Console) : Prop :=
  console.docs.CursorAmong console.session.uploads.length

/-- The cursor parts the files, if there are any. -/
theorem CursorAmong.exists_parted (among : console.CursorAmong)
    (listed : console.session.uploads ≠ []) :
    ∃ before file after, console.session.uploads = before ++ file :: after ∧
      console.docs.fileCursor = before.length := by
  have inside := among.lt (List.length_pos_iff.mpr listed)
  have parted : console.session.uploads = console.session.uploads.take console.docs.fileCursor ++
      console.session.uploads[console.docs.fileCursor] ::
        console.session.uploads.drop (console.docs.fileCursor + 1) := by
    rw [← List.drop_eq_getElem_cons inside, List.take_append_drop]
  exact ⟨_, _, _, parted, (List.length_take_of_le (Nat.le_of_lt inside)).symm⟩

/-- The list of files is on screen with the focus, it is not empty, and help is closed. -/
structure FilesTakeKeys (console : Console) : Prop where
  closed : console.helpOpen = false
  onScreen : console.session.tab = .documentation
  focused : console.docs.focus = .files
  listed : console.session.uploads ≠ []

theorem askPanel_cursorAmong (among : console.CursorAmong) (action : Action) :
    (console.askPanel action).1.CursorAmong := by
  unfold askPanel
  split
  · exact DocsPanel.handle_cursorAmong among console.workspace action
  · exact among
  · exact among

/-- A step that does not remove a file leaves the cursor on one. -/
theorem step_cursorAmong {action : Action} (among : console.CursorAmong)
    (keeps : ∀ index, action ≠ .request (.removeFile index)) :
    (console.step moment action).1.CursorAmong := by
  rcases console.taken_or_swallowed action with taken | ⟨help, passes⟩
  · by_cases quits : action = .quit
    · subst quits
      have stays : (console.step moment .quit).1 = { console with quitting := true } := by
        simp [step, Action.passesHelp]
      rw [stays]
      exact among
    · rw [step_of_taken taken quits]
      have longer := (console.effect_uploads moment keeps).length_le
      have samePanel : (console.effect moment action).docs = console.docs :=
        congrArg (·.1) (console.effect_panels moment action)
      have affected : (console.effect moment action).CursorAmong := by
        unfold CursorAmong DocsPanel.CursorAmong
        rw [samePanel]
        exact Nat.le_trans among (Nat.sub_le_sub_right longer 1)
      have answered := askPanel_cursorAmong affected action
      unfold note
      split <;> exact answered
  · rw [step_of_swallowed help passes]
    exact among

theorem step_removeFile (console : Console) (closed : console.helpOpen = false)
    (onScreen : console.session.tab = .documentation) (atRest : console.docs.wantsInput = false)
    (index : Nat) :
    let next := (console.step moment (.request (.removeFile index))).1
    next.session = console.session.removeFile index ∧
      next.docs = console.docs.withinFiles (console.session.removeFile index).uploads.length := by
  have removed : console.effect moment (.request (.removeFile index)) = _ :=
    reportRemoved_sameButToast { console with session := console.session.removeFile index } moment
      console.session.uploads[index]?
  have shown : (console.session.removeFile index).tab = .documentation := onScreen
  have stays : Action.request (.removeFile index) ≠ .quit := by simp
  simp only [step_of_taken (Or.inl closed) stays, removed, askPanel, shown, DocsPanel.handle,
    atRest, Bool.false_eq_true, if_false]
  exact ⟨rfl, rfl⟩

/-- The list removes the file under its cursor. -/
theorem handle_removeSelected (moment : Moment) (takes : console.FilesTakeKeys)
    (among : console.CursorAmong) :
    let next := console.handle moment .removeSelected
    next.session = console.session.removeFile console.docs.fileCursor ∧
      next.docs = console.docs.withinFiles
        (console.session.removeFile console.docs.fileCursor).uploads.length := by
  have atRest : console.docs.wantsInput = false := by
    rw [DocsPanel.wantsInput, takes.focused]
    exact Bool.and_false _
  have present : console.session.uploads.length ≠ 0 := by simpa using takes.listed
  have answers : console.askPanel .removeSelected =
      (console, some (.removeFile console.docs.fileCursor)) := by
    simp only [askPanel, takes.onScreen, DocsPanel.handle, atRest, Bool.false_eq_true, if_false,
      DocsPanel.withinFiles_eq among, DocsPanel.atRest, takes.focused, true_and, present, ne_eq,
      not_false_eq_true, if_true]
  have stays : Action.removeSelected ≠ .quit := by simp
  have stepped : console.step moment .removeSelected =
      (console.withMode, some (.removeFile console.docs.fileCursor)) := by
    rw [step_of_taken (Or.inl takes.closed) stays, effect_of_mayAsk moment rfl, answers]
    rfl
  have asks : (console.step moment .removeSelected).2 =
      some (.removeFile console.docs.fileCursor) := by rw [stepped]
  rw [handle_of_asks asks, stepped]
  have unmoved : console.withMode.docs.wantsInput = false := atRest
  exact step_removeFile console.withMode takes.closed takes.onScreen unmoved _

/-- What is handled leaves the cursor on a file, also when one is removed. -/
theorem handle_cursorAmong {action : Action} (among : console.CursorAmong)
    (keeps : ∀ index, action ≠ .request (.removeFile index)) :
    (console.handle moment action).CursorAmong := by
  have stepped : (console.step moment action).1.CursorAmong := step_cursorAmong among keeps
  cases asks : (console.step moment action).2 with
  | none =>
      rw [handle_of_step asks]
      exact stepped
  | some request =>
      by_cases removes : ∃ index, request = .removeFile index
      · -- After the removal, and before the panel sees it, the cursor may be beyond the list, so
        -- the two steps are taken together.
        obtain ⟨index, rfl⟩ := removes
        obtain ⟨closed, answers, _⟩ := step_of_asks asks
        have onScreen : console.session.tab = .documentation := (askPanel_asks answers).2.symm
        simp only [askPanel, onScreen] at answers
        obtain ⟨rfl, focused, listed⟩ := DocsPanel.handle_asks_removeFile answers
        obtain ⟨session, docs⟩ := handle_removeSelected moment
          ⟨closed, onScreen, focused, listed⟩ among
        rw [CursorAmong, session, docs]
        exact DocsPanel.withinFiles_cursorAmong _ _
      · rw [handle_of_asks asks]
        apply step_cursorAmong stepped
        rintro index same
        exact removes ⟨index, Action.request.inj same⟩

theorem load_cursorAmong (among : console.CursorAmong) (files : List FilePath)
    (qualityFile : Option FilePath) : (console.load moment files qualityFile).CursorAmong := by
  have adds : ∀ paths target index,
      Action.request (.addPaths paths target) ≠ .request (.removeFile index) := by
    intro paths target index
    simp
  have loaded : Console.CursorAmong
      (if files.isEmpty then console
        else console.handle moment (.request (.addPaths files .documentation))) := by
    split
    · exact among
    · exact handle_cursorAmong among (adds files .documentation)
  unfold load
  cases qualityFile with
  | none => exact loaded
  | some file => exact handle_cursorAmong loaded (adds [file] .quality)

end Console

theorem Run.cursorAmong {past : List Stage} {console : Console} (run : Run past console) :
    console.CursorAmong := by
  induction run with
  | launched settings workspace moment files qualityFile =>
      have fresh : (Console.initial settings workspace).CursorAmong := Nat.le_refl 0
      exact Console.load_cursorAmong fresh files qualityFile
  | next stage run answers induction =>
      unfold Stage.after
      split
      case h_1 action acts =>
        apply Console.handle_cursorAmong induction
        intro index
        exact Happening.action?_ne_request acts (.removeFile index)
      case h_2 => split <;> exact induction

/-! ## The highlighted row -/

namespace Screen.Docs

/-- The rows of the list of files.  The one under the cursor is highlighted while the list has the
focus. -/
def fileRows (panel : DocsPanel) (session : Session) : List ListRow :=
  session.uploads.mapIdx fun place file =>
    fileRow (panel.focus = .files && place = panel.fileCursor) file

variable {panel : DocsPanel} {session : Session}

theorem drawFiles_of_listed (listed : session.uploads ≠ []) (area : Area) :
    drawFiles panel session area =
      (frameOf (" Files (" ++ toString session.uploads.length ++ ") ")
          (panel.focus = .files)).draw area ++
        ListRow.draw (fileRows panel session) (Frame.inside area) := by
  have present : session.uploads.isEmpty = false := by simpa using listed
  simp only [drawFiles, present, Bool.false_eq_true, if_false, fileRows]

theorem mapIdx_fileRow_of_ne (files : List UploadedFile) {cursor start : Nat}
    (elsewhere : ∀ place < files.length, start + place ≠ cursor) :
    files.mapIdx (fun place file => fileRow (start + place = cursor) file) =
      files.map (fileRow false) := by
  rw [List.mapIdx_eq_iff]
  intro place
  by_cases inside : place < files.length
  · simp [inside, elsewhere place inside]
  · simp [inside]

/-- The row of the file under the cursor is highlighted and no other one. -/
theorem fileRows_eq {before after : List UploadedFile} {file : UploadedFile}
    (focused : panel.focus = .files) (uploads : session.uploads = before ++ file :: after)
    (cursor : panel.fileCursor = before.length) :
    fileRows panel session =
      before.map (fileRow false) ++ fileRow true file :: after.map (fileRow false) := by
  have notBefore : ∀ place < before.length, 0 + place ≠ before.length := by omega
  have notAfter : ∀ place < after.length, before.length + 1 + place ≠ before.length := by omega
  have earlier := mapIdx_fileRow_of_ne before notBefore
  have later := mapIdx_fileRow_of_ne after notAfter
  simp only [fileRows, uploads, cursor, focused, List.mapIdx_append, List.mapIdx_cons]
  congr 1
  · simpa using earlier
  · congr 1
    · simp
    · rw [← later]
      simp [Nat.add_comm, Nat.add_left_comm]

end Screen.Docs

/-- A key removes the selected row of a list. -/
def KeyPress.Removes (press : KeyPress) : Prop :=
  press.key = .character 'd' ∨ press.key = .delete

theorem KeyPress.action?_of_removes {press : KeyPress} (removes : press.Removes) :
    press.action? .shortcuts = some .removeSelected := by
  have other : press.key ≠ .character 'c' := by
    rcases removes with key | key <;> simp [key]
  rw [action?, if_neg fun quits => other quits.right]
  rcases removes with key | key <;> exact congrArg shortcut key

/-- In every state of a run the cursor is on a file, or on the first row if there is none.  Where
the list takes keys, the one to remove a file removes the one whose row is highlighted and no other,
and leaves the cursor on a file if one remains. -/
theorem Run.removes_highlighted {past : List Stage} {stage : Stage}
    (run : Run past stage.before) :
    (stage.before.docs.fileCursor < stage.before.session.uploads.length ∨
        stage.before.session.uploads = [] ∧ stage.before.docs.fileCursor = 0) ∧
      ∀ press, stage.happening = .reported .shortcuts (.pressed press) → press.Removes →
        stage.before.FilesTakeKeys →
          ∃ before file after, stage.before.session.uploads = before ++ file :: after ∧
            (∀ area, Screen.Docs.drawFiles stage.before.docs stage.before.session area =
              (Screen.frameOf
                  (" Files (" ++ toString stage.before.session.uploads.length ++ ") ")
                  true).draw area ++
                ListRow.draw
                  (before.map (Screen.Docs.fileRow false) ++
                    Screen.Docs.fileRow true file :: after.map (Screen.Docs.fileRow false))
                  (Frame.inside area)) ∧
            stage.after.session = { stage.before.session with uploads := before ++ after } ∧
            (before ++ after ≠ [] →
              stage.after.docs.fileCursor < (before ++ after).length) := by
  have among := run.cursorAmong
  constructor
  · by_cases listed : stage.before.session.uploads = []
    · refine Or.inr ⟨listed, ?_⟩
      unfold Console.CursorAmong DocsPanel.CursorAmong at among
      rw [listed] at among
      exact Nat.le_zero.mp among
    · exact Or.inl (among.lt (List.length_pos_iff.mpr listed))
  · intro press pressed removes takes
    have acts : stage.happening.action? = some .removeSelected := by
      rw [pressed]
      exact KeyPress.action?_of_removes removes
    obtain ⟨session, docs⟩ := Console.handle_removeSelected stage.moment takes among
    rw [← Stage.after_eq_handle acts] at session docs
    obtain ⟨before, file, after, parted, cursor⟩ := among.exists_parted takes.listed
    rw [cursor, Session.removeFile_parted parted] at session docs
    refine ⟨before, file, after, parted, ?_, session, ?_⟩
    · intro area
      rw [Screen.Docs.drawFiles_of_listed takes.listed,
        Screen.Docs.fileRows_eq takes.focused parted cursor, takes.focused]
      rfl
    · intro remains
      rw [docs]
      exact (DocsPanel.withinFiles_cursorAmong _ _).lt (List.length_pos_iff.mpr remains)

/-- Two files are dropped, and the cursor is moved to the second one. -/
def Happening.secondOfTwo : List Happening :=
  [.pressed .shortcuts (.character 'j'), .pressed .shortcuts .backTab,
    .reported .shortcuts (.pasted "/a\n/b"),
    .filesChanged ⟨[(["a"], .file ⟨#[]⟩), (["b"], .file ⟨#[1]⟩)], []⟩]

/-- The second file is removed, and the cursor goes to the first one. -/
theorem removes_highlighted_of_secondOfTwo :
    let run := replay Happening.secondOfTwo
    let removed : Stage := ⟨run.2, .midnight, .pressed .shortcuts (.character 'd')⟩
    Run run.1 removed.before ∧ removed.before.FilesTakeKeys ∧
      removed.before.docs.fileCursor = 1 ∧
      ∃ before file after, removed.before.session.uploads = before ++ file :: after ∧
        removed.after.session = { removed.before.session with uploads := before ++ after } ∧
        removed.after.session.uploads = [⟨"a", "/a", ⟨#[]⟩⟩] ∧
        removed.after.docs.fileCursor < (before ++ after).length := by
  intro run removed
  have happened : Run run.1 removed.before := Run.of_replay _ (by decide +kernel)
  have takes : removed.before.FilesTakeKeys :=
    ⟨by decide +kernel, by decide +kernel, by decide +kernel, by decide +kernel⟩
  have left : removed.after.session.uploads = [⟨"a", "/a", ⟨#[]⟩⟩] := by decide +kernel
  obtain ⟨before, file, after, uploads, _, session, cursor⟩ :=
    (Run.removes_highlighted happened).right _ rfl (Or.inl rfl) takes
  have remains : before ++ after ≠ [] := by
    have rest : before ++ after = removed.after.session.uploads := by rw [session]
    rw [rest, left]
    simp
  exact ⟨happened, takes, by decide +kernel, before, file, after, uploads, session, left,
    cursor remains⟩

end DocsConsole
