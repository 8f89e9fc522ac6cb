import DocsConsole.Proofs.Console.FileCursor
import DocsConsole.Proofs.Screen.Layout
import DocsConsole.Proofs.Terminal.Rows

/-!
# The row under the cursor of a list

A list is drawn from its first row on and does not follow its cursor.  So the row under the cursor
is drawn, on the ground of the selection, exactly if the cursor is on a row that the area of the
list reaches.  The cursor in the list of files is always on a file.
-/

namespace DocsConsole

open Terminal

/-! ## Lists with a cursor -/

/-- A list with a cursor, and the area of its rows on the screen. -/
structure CursorList where
  inside : Area
  lines : List Line
  cursor : Nat

namespace CursorList

/-- The rows, the one under the cursor in the style of the selection. -/
def rows (list : CursorList) : List ListRow :=
  list.lines.mapIdx fun place line =>
    ⟨line, if place = list.cursor then Theme.selection else .plain⟩

/-- A cell of the row at a place is on the ground of the selection. -/
def Selects (list : CursorList) (screen : Drawing) (place : Nat) : Prop :=
  ∃ column, list.inside.holds column (list.inside.row + place) = true ∧
    (screen.cellAt column (list.inside.row + place)).style.background =
      some Theme.selectionGround

/-- The screen shows the row under the cursor in the style of the selection. -/
structure DrawsCursor (list : CursorList) (screen : Drawing) : Prop where
  row : ∃ line, list.lines[list.cursor]? = some line ∧
    ∀ column, list.inside.holds column (list.inside.row + list.cursor) = true →
      screen.cellAt column (list.inside.row + list.cursor) =
        (ListRow.drawAt ⟨line, Theme.selection⟩
          (ListRow.position list.inside list.cursor)).cellAt column
            (list.inside.row + list.cursor)
  selected : list.Selects screen list.cursor

variable {list : CursorList} {screen : Drawing} {place : Nat}

theorem getElem?_rows (list : CursorList) (place : Nat) :
    list.rows[place]? = list.lines[place]?.map fun line =>
      ⟨line, if place = list.cursor then Theme.selection else .plain⟩ := by
  simp [rows]

theorem position_covers (inside : place < list.inside.height) :
    list.inside.Covers (ListRow.position list.inside place) := by
  constructor <;> dsimp only [ListRow.position] <;> omega

section

variable (shows : screen.Shows (ListRow.draw list.rows list.inside) list.inside)
  (groundless : ∀ line ∈ list.lines, line.Groundless)

include shows

/-- The cells of a row. -/
theorem cellAt_of_line {line : Line} (listed : list.lines[place]? = some line) {column : Nat}
    (held : list.inside.holds column (list.inside.row + place) = true) :
    screen.cellAt column (list.inside.row + place) =
      (ListRow.drawAt ⟨line, if place = list.cursor then Theme.selection else .plain⟩
        (ListRow.position list.inside place)).cellAt column (list.inside.row + place) := by
  obtain ⟨across, _, down⟩ := Area.holds_iff.mp held
  have inside : place < list.inside.height := by omega
  have row : list.rows[place]? = some _ := (list.getElem?_rows place).trans (congrArg _ listed)
  apply (shows.trans (ListRow.draw_shows row inside) (position_covers inside)).cellAt_eq
  rw [Area.holds_iff]
  dsimp only [ListRow.position]
  omega

/-- Below the last row the cells are blank. -/
theorem cellAt_of_no_line (unlisted : list.lines[place]? = none) {column : Nat}
    (held : list.inside.holds column (list.inside.row + place) = true) :
    screen.cellAt column (list.inside.row + place) = .blank := by
  have row : list.rows[place]? = none := (list.getElem?_rows place).trans (congrArg _ unlisted)
  rw [shows.cellAt_eq held]
  apply (ListRow.draw_spares row).drawnOver_eq
  obtain ⟨across, _, down⟩ := Area.holds_iff.mp held
  rw [Area.holds_iff]
  dsimp only [ListRow.position]
  omega

include groundless

/-- The ground of a cell that no wide character covers is that of its row. -/
theorem background_of_line {line : Line} (listed : list.lines[place]? = some line) {column : Nat}
    (held : list.inside.holds column (list.inside.row + place) = true) :
    (screen.cellAt column (list.inside.row + place)).style.background =
      if (Glyph.lineMarks list.inside.width line)[column - list.inside.column]? = some .erase
      then none
      else if place = list.cursor then some Theme.selectionGround else none := by
  have plain := groundless line (List.mem_of_getElem? listed)
  have across := (Area.holds_iff.mp held).left
  have ground := ListRow.background_drawAt
    ⟨line, if place = list.cursor then Theme.selection else .plain⟩
    (ListRow.position list.inside place) plain across Nat.one_pos
  rw [cellAt_of_line shows listed held]
  apply ground.trans
  congr 1
  split <;> rfl

/-- Only the row under the cursor is on the ground of the selection. -/
theorem eq_cursor_of_selects (selects : list.Selects screen place) :
    place = list.cursor ∧ place < list.lines.length ∧ place < list.inside.height := by
  obtain ⟨column, held, ground⟩ := selects
  obtain ⟨_, _, down⟩ := Area.holds_iff.mp held
  cases listed : list.lines[place]? with
  | none =>
      rw [cellAt_of_no_line shows listed held] at ground
      contradiction
  | some line =>
      have within : place < list.lines.length := (List.getElem?_eq_some_iff.mp listed).choose
      rw [background_of_line shows groundless listed held] at ground
      split at ground
      · contradiction
      · split at ground
        case isTrue here => exact ⟨here, within, by omega⟩
        case isFalse => contradiction

/-- The row under the cursor is drawn exactly if there is one and the area reaches it. -/
theorem drawsCursor_iff (wide : 0 < list.inside.width) :
    list.DrawsCursor screen ↔
      list.cursor < list.lines.length ∧ list.cursor < list.inside.height := by
  constructor
  · intro draws
    exact (eq_cursor_of_selects shows groundless draws.selected).right
  · rintro ⟨within, inside⟩
    have listed := List.getElem?_eq_getElem within
    have first : list.inside.holds list.inside.column (list.inside.row + list.cursor) = true :=
      Area.holds_iff.mpr (by omega)
    refine ⟨⟨_, listed, ?_⟩, list.inside.column, first, ?_⟩
    · intro column held
      rw [cellAt_of_line shows listed held, if_pos rfl]
    · have uncovered := Glyph.head?_lineMarks_ne_erase list.inside.width list.lines[list.cursor]
      rw [List.head?_eq_getElem?] at uncovered
      rw [background_of_line shows groundless listed first, Nat.sub_self, if_neg uncovered,
        if_pos rfl]

end

end CursorList

/-! ## Lists on the screen -/

namespace Screen

/-- Without help and calls in flight nothing is drawn over the panel. -/
theorem draw_shows_panel {console : Console} (width : Nat) {height : Nat} (tall : 24 ≤ height)
    (closed : console.helpOpen = false) (idle : console.session.loading.isActive = false) :
    (draw console ⟨0, 0, width, height⟩).Shows (drawPanel console (panelArea width height))
      (panelArea width height) := by
  have unloaded : drawLoading console.session.loading console.spinner ⟨0, 0, width, height⟩ = [] :=
    if_neg (by simp [idle])
  rw [draw_eq console tall, unloaded, closed, if_neg Bool.false_ne_true, List.append_nil,
    List.append_nil]
  apply ((Drawing.Shows.refl _ _).behind _).before
  · apply (drawLine_keepsTo _ _).spares (Area.beside_of_below _)
    dsimp only [panelArea]
    omega
  · exact (Line.draw_keepsTo _ _).spares (Area.beside_of_above (Nat.le_refl 2))

/-! ### The list of files -/

namespace Docs

/-- A file as a line of the list. -/
def fileLine (file : UploadedFile) : Line :=
  (fileRow false file).line

/-- The area of the rows in the list of files. -/
def filesInside (session : Session) (width height : Nat) : Area :=
  ⟨1, 3, (width * 45 + 50) / 100 - 2, height - 15 - nameRows session⟩

def fileList (panel : DocsPanel) (session : Session) (width height : Nat) : CursorList :=
  ⟨filesInside session width height, session.uploads.map fileLine, panel.fileCursor⟩

variable {panel : DocsPanel} {session : Session} {width height : Nat}

theorem fileList_rows (focused : panel.focus = .files) :
    (fileList panel session width height).rows = fileRows panel session := by
  apply List.ext_getElem?
  intro place
  simp only [CursorList.rows, fileList, fileRows, List.getElem?_mapIdx, List.getElem?_map,
    Option.map_map]
  congr 1
  funext file
  by_cases here : place = panel.fileCursor <;> simp [fileLine, fileRow, focused, here]

theorem fileLine_groundless (file : UploadedFile) : (fileLine file).Groundless := by
  intro span member
  simp only [fileLine, fileRow, List.mem_cons, List.not_mem_nil, or_false] at member
  rcases member with rfl | rfl <;> rfl

/-- Without suggestions the list of files has what the other parts leave. -/
theorem inside_files (session : Session) (unsuggested : panel.path.suggestions = [])
    (wide : 80 ≤ width) (tall : 24 ≤ height) :
    Frame.inside ⟨0, 2, (width * 45 + 50) / 100, fileRoom panel session (height - 3)⟩ =
      filesInside session width height := by
  have none_ : panel.path.suggestionRows = 0 := by
    simp [PathField.suggestionRows, unsuggested]
  have name := nameRows_eq session
  have left : min (0 + 1) (0 + (width * 45 + 50) / 100) = 1 := by omega
  have room : fileRoom panel session (height - 3) = height - 13 - nameRows session := by
    simp only [fileRoom, suggestionRoom, none_]
    omega
  have top : min (2 + 1) (2 + (height - 13 - nameRows session)) = 3 := by omega
  have rows : height - 13 - nameRows session - 2 = height - 15 - nameRows session := by omega
  simp only [Frame.inside, filesInside, left, room, top, rows]

theorem drawFiles_shows (listed : session.uploads ≠ []) (focused : panel.focus = .files)
    {area : Area} (inside : Frame.inside area = filesInside session width height) :
    (drawFiles panel session area).Shows
      (ListRow.draw (fileList panel session width height).rows (filesInside session width height))
      (filesInside session width height) := by
  rw [drawFiles_of_listed listed, fileList_rows focused, inside]
  apply (Drawing.Shows.refl _ _).behind
  rw [← inside]
  exact Frame.draw_spares_inside _ area

end Docs

theorem inside_covers (area : Area) (wide : 2 ≤ area.width) (tall : 2 ≤ area.height) :
    area.Covers (Frame.inside area) := by
  constructor <;> dsimp only [Frame.inside] <;> omega

/-- The list of files is drawn if it is not empty, with its cursor while it has the focus. -/
theorem panel_shows_fileList {console : Console} {width height : Nat} (wide : 80 ≤ width)
    (tall : 24 ≤ height) (onScreen : console.session.tab = .documentation)
    (focused : console.docs.focus = .files) (listed : console.session.uploads ≠ [])
    (unsuggested : console.docs.path.suggestions = []) :
    let list := Docs.fileList console.docs console.session width height
    PanelShows console width height (ListRow.draw list.rows list.inside) list.inside := by
  intro list
  have drawn : (Docs.columnParts console.docs console.session
      (Docs.columnAreas console.docs console.session width height))[0]? =
        some (Docs.drawFiles console.docs console.session _) := rfl
  have part := panelShows_of_documentation wide tall onScreen drawn rfl
  have rooms := (Docs.rooms_total console.docs console.session tall).left
  have inside := Docs.inside_files console.session unsuggested wide tall
  have covers := inside_covers
    ⟨0, 2, (width * 45 + 50) / 100, Docs.fileRoom console.docs console.session (height - 3)⟩
    (by dsimp only; omega) (by dsimp only; omega)
  rw [inside] at covers
  exact ⟨part.shows.trans (Docs.drawFiles_shows listed focused inside) covers,
    part.covers.trans covers⟩

/-! ### The lists of repositories and branches -/

namespace Github

/-- An entry as a line of a list. -/
def choiceLine (selected : Option String) (place : Nat) (name : String) : Line :=
  (choiceRow selected none place name).line

def choiceList (inside : Area) (placeholder : String) (entries : List String)
    (selected : Option String) (cursor : Nat) : CursorList :=
  ⟨inside, (placeholder :: entries).mapIdx (choiceLine selected), cursor⟩

variable {inside : Area} {placeholder : String} {entries : List String}
  {selected : Option String} {cursor width height : Nat}

theorem choiceList_rows :
    (choiceList inside placeholder entries selected cursor).rows =
      (placeholder :: entries).mapIdx (choiceRow selected (some cursor)) := by
  apply List.ext_getElem?
  intro place
  simp only [CursorList.rows, choiceList, List.getElem?_mapIdx, Option.map_map]
  congr 1
  funext name
  by_cases here : place = cursor
  · simp [choiceLine, choiceRow, here]
  · have other : cursor ≠ place := Ne.symm here
    simp [choiceLine, choiceRow, here, other]

theorem choiceLine_groundless (place : Nat) (name : String) :
    (choiceLine selected place name).Groundless := by
  intro span member
  cases List.mem_singleton.mp member
  dsimp only
  split
  · rfl
  · split <;> rfl

theorem drawChoices_shows (title : String) {area : Area} (here : Frame.inside area = inside) :
    (drawChoices title placeholder entries selected (some cursor) area).Shows
      (ListRow.draw (choiceList inside placeholder entries selected cursor).rows inside)
      inside := by
  rw [choiceList_rows, drawChoices, here]
  apply (Drawing.Shows.refl _ _).behind
  rw [← here]
  exact Frame.draw_spares_inside _ area

/-- A list of choices does not reach beyond its area. -/
theorem drawChoices_endsBefore (title : String) (cursor : Option Nat) {area : Area}
    (wide : 2 ≤ area.width) :
    (drawChoices title placeholder entries selected cursor area).EndsBefore
      (area.column + area.width) := by
  have single : ∀ row ∈ (placeholder :: entries).mapIdx (choiceRow selected cursor),
      ∃ span, row.line = [span] := by
    intro row member
    obtain ⟨place, inside, rfl⟩ := List.mem_mapIdx.mp member
    exact ⟨_, rfl⟩
  have rows := ListRow.draw_endsBefore single (Frame.inside area)
  apply (Frame.draw_endsBefore _ area).append (rows.mono _)
  dsimp only [Frame.inside]
  omega

/-- The width of the list of repositories with its frame. -/
def repositoriesWidth (width : Nat) : Nat :=
  ((width - 2) * 50 + 50) / 100

/-- The area of the rows in the list of repositories. -/
def repositoriesInside (width height : Nat) : Area :=
  ⟨2, 5, repositoriesWidth width - 2, height - 20⟩

/-- The area of the rows in the list of branches. -/
def branchesInside (width height : Nat) : Area :=
  ⟨2 + repositoriesWidth width, 5, width - 4 - repositoriesWidth width, height - 20⟩

def repositoryList (panel : GithubPanel) (github : DocsConsole.Github) (width height : Nat) :
    CursorList :=
  choiceList (repositoriesInside width height) noRepository github.repositories
    github.repository panel.repositoryCursor

def branchList (panel : GithubPanel) (github : DocsConsole.Github) (width height : Nat) :
    CursorList :=
  choiceList (branchesInside width height) noBranch github.branches github.branch
    panel.branchCursor

section

variable {panel : GithubPanel} (session : Session) (wide : 80 ≤ width) (tall : 24 ≤ height)

include wide tall

/-- The list of repositories is drawn on the left, with its cursor while it has the focus. -/
theorem drawLists_shows_repositories (focused : panel.focus = .repositories) :
    let list := repositoryList panel session.github width height
    (drawLists panel session ⟨1, 4, width - 2, height - 18⟩).Shows
      (ListRow.draw list.rows list.inside) list.inside := by
  have room : 39 ≤ repositoriesWidth width := by
    unfold repositoriesWidth
    omega
  have inside : Frame.inside ⟨1, 4, repositoriesWidth width, height - 18⟩ =
      repositoriesInside width height := by
    have left : min (1 + 1) (1 + repositoriesWidth width) = 2 := by omega
    have top : min (4 + 1) (4 + (height - 18)) = 5 := by omega
    have rows : height - 18 - 2 = height - 20 := by omega
    simp only [Frame.inside, repositoriesInside, left, top, rows]
  have cursor : cursorAt panel .repositories panel.repositoryCursor =
      some panel.repositoryCursor := if_pos focused
  simp only [drawLists, cursor, Area.splitAt, Area.share]
  apply (drawChoices_shows " Repository " inside).before
  apply (drawChoices_keepsTo _ _ _ _ _ _).spares (Area.beside_of_right _)
  dsimp only [repositoryList, choiceList, repositoriesInside]
  unfold repositoriesWidth at room ⊢
  omega

/-- The list of branches is drawn on the right, with its cursor while it has the focus. -/
theorem drawLists_shows_branches (focused : panel.focus = .branches) :
    let list := branchList panel session.github width height
    (drawLists panel session ⟨1, 4, width - 2, height - 18⟩).Shows
      (ListRow.draw list.rows list.inside) list.inside := by
  have room : 39 ≤ repositoriesWidth width ∧ repositoriesWidth width + 38 ≤ width - 2 := by
    unfold repositoriesWidth
    omega
  have inside : Frame.inside ⟨1 + repositoriesWidth width, 4,
      width - 2 - repositoriesWidth width, height - 18⟩ = branchesInside width height := by
    have left : min (1 + repositoriesWidth width + 1)
        (1 + repositoriesWidth width + (width - 2 - repositoriesWidth width)) =
          2 + repositoriesWidth width := by omega
    have top : min (4 + 1) (4 + (height - 18)) = 5 := by omega
    have columns : width - 2 - repositoriesWidth width - 2 =
        width - 4 - repositoriesWidth width := by omega
    have rows : height - 18 - 2 = height - 20 := by omega
    simp only [Frame.inside, branchesInside, left, top, columns, rows]
  have cursor : cursorAt panel .branches panel.branchCursor = some panel.branchCursor :=
    if_pos focused
  simp only [drawLists, cursor, Area.splitAt, Area.share]
  apply (drawChoices_shows " Branch " inside).behind
  apply (drawChoices_endsBefore _ _ _).spares
  · dsimp only [branchList, choiceList, branchesInside]
    unfold repositoriesWidth
    omega
  · dsimp only
    unfold repositoriesWidth at room
    omega

end

end Github

/-- The lists are drawn in the form for a pull request. -/
theorem panel_shows_of_lists {console : Console} {width height : Nat} (wide : 80 ≤ width)
    (tall : 24 ≤ height) (onScreen : console.session.tab = .github)
    (pullRequestForm : console.session.visibility.pullRequestForm = true) {list : CursorList}
    (shows : (Github.drawLists console.github console.session
        ⟨1, 4, width - 2, height - 18⟩).Shows (ListRow.draw list.rows list.inside) list.inside)
    (covers : Area.Covers ⟨1, 4, width - 2, height - 18⟩ list.inside) :
    PanelShows console width height (ListRow.draw list.rows list.inside) list.inside := by
  have drawn : (Github.formParts console.github console.session
      (Github.formAreas width height))[1]? =
        some (Github.drawLists console.github console.session _) := rfl
  have part := panelShows_of_pullRequestForm wide tall onScreen pullRequestForm drawn rfl
  exact ⟨part.shows.trans shows covers, part.covers.trans covers⟩

/-! ### The list with the focus -/

/-- The list that has the focus on a grid: the one of files if it is not empty, or one of those in
the form for a pull request. -/
def focusedList? (console : Console) (width height : Nat) : Option CursorList :=
  match console.session.tab with
  | .documentation =>
      if console.docs.focus = .files ∧ console.session.uploads ≠ [] then
        some (Docs.fileList console.docs console.session width height)
      else none
  | .github =>
      if console.session.visibility.pullRequestForm then
        match console.github.focus with
        | .repositories =>
            some (Github.repositoryList console.github console.session.github width height)
        | .branches =>
            some (Github.branchList console.github console.session.github width height)
        | _ => none
      else none
  | .quality => none

end Screen

/-! ## Suggestions -/

namespace DocsPanel

/-- Nothing is suggested while the path has not the focus. -/
def SuggestsAtPath (panel : DocsPanel) : Prop :=
  panel.focus = .path ∨ panel.path.suggestions = []

variable {panel : DocsPanel} (workspace : Workspace)

theorem acceptSuggestion_focus (panel : DocsPanel) :
    (panel.acceptSuggestion workspace).1.focus = panel.focus := by
  unfold acceptSuggestion
  dsimp only
  split <;> rfl

theorem editField_suggestsAtPath (suggests : panel.SuggestsAtPath)
    (change : TextField → TextField) : (panel.editField change).SuggestsAtPath := by
  unfold editField
  split
  · exact Or.inl ‹_›
  all_goals exact suggests

theorem refresh_suggestsAtPath (suggests : panel.SuggestsAtPath) :
    (panel.refresh workspace).SuggestsAtPath := by
  unfold refresh
  split
  · exact Or.inl ‹_›
  · exact suggests

theorem edit_suggestsAtPath (suggests : panel.SuggestsAtPath) (change : Edit) :
    (panel.edit workspace change).1.SuggestsAtPath := by
  unfold DocsPanel.edit
  split
  case h_1 atPath =>
    split
    · exact Or.inl ((acceptSuggestion_focus workspace panel).trans atPath)
    · exact Or.inr rfl
  case h_2 atName => exact Or.inr (suggests.resolve_left (by simp [atName]))
  case h_3 => exact refresh_suggestsAtPath workspace (editField_suggestsAtPath suggests _)

theorem whileTyping_suggestsAtPath (suggests : panel.SuggestsAtPath) (action : Action) :
    (panel.whileTyping workspace action).1.SuggestsAtPath := by
  cases action with
  | cancel =>
      simp only [whileTyping]
      split
      · exact Or.inr rfl
      · exact suggests
  | focusNext =>
      simp only [whileTyping]
      split
      case isTrue taking =>
        exact Or.inl ((acceptSuggestion_focus workspace panel).trans taking.left)
      case isFalse => exact Or.inr rfl
  | focusPrevious => exact Or.inr rfl
  | down =>
      simp only [whileTyping]
      split
      · exact Or.inl ‹_›
      · exact editField_suggestsAtPath suggests _
  | up =>
      simp only [whileTyping]
      split
      · exact Or.inl ‹_›
      · exact editField_suggestsAtPath suggests _
  | submit =>
      simp only [whileTyping]
      split
      · exact Or.inr rfl
      · exact suggests
  | edit change => exact edit_suggestsAtPath workspace suggests change
  | _ => exact refresh_suggestsAtPath workspace suggests

theorem atRest_suggestsAtPath (suggests : panel.SuggestsAtPath) (files : Nat)
    (action : Action) : (panel.atRest workspace files action).1.SuggestsAtPath := by
  have scrolled (down : Bool) : (panel.scroll files down).SuggestsAtPath := by
    unfold scroll
    split <;> exact suggests
  cases action with
  | focusNext => exact Or.inr rfl
  | focusPrevious => exact Or.inr rfl
  | startEditing =>
      simp only [atRest]
      split
      · exact suggests
      · exact Or.inl rfl
  | up => exact scrolled false
  | down => exact scrolled true
  | edit change => cases change <;> exact suggests
  | _ => exact suggests

theorem handle_suggestsAtPath (suggests : panel.SuggestsAtPath) (session : Session)
    (action : Action) : (panel.handle workspace session action).1.SuggestsAtPath := by
  unfold handle
  split
  · exact whileTyping_suggestsAtPath workspace suggests action
  · have within : (panel.withinFiles session.uploads.length).SuggestsAtPath := suggests
    exact atRest_suggestsAtPath workspace within _ action

end DocsPanel

theorem Dispatched.suggestsAtPath {past : List Action} {console : Console}
    (dispatched : Dispatched past console) : console.docs.SuggestsAtPath := by
  apply dispatched.invariant
  · intro settings workspace
    exact Or.inl rfl
  · intro console moment action suggests
    apply Console.handle_of_panels (fun console => console.docs.SuggestsAtPath) _ _ suggests
    · intro left right same suggests
      have docs : left.docs = right.docs := congrArg (·.1) same
      rw [docs]
      exact suggests
    · intro console action suggests
      unfold Console.askPanel
      split
      · exact DocsPanel.handle_suggestsAtPath _ suggests _ _
      · exact suggests
      · exact suggests
  · intro console files suggests
    exact suggests

/-! ## In a run -/

namespace Screen

/-- The rows of a list are drawn on the screen, and their text has no ground of its own. -/
structure ShowsRows (screen : Drawing) (list : CursorList) : Prop where
  shows : screen.Shows (ListRow.draw list.rows list.inside) list.inside
  groundless : ∀ line ∈ list.lines, line.Groundless
  wide : 0 < list.inside.width

theorem Github.choiceList_groundless (inside : Area) (placeholder : String)
    (entries : List String) (selected : Option String) (cursor : Nat) :
    ∀ line ∈ (choiceList inside placeholder entries selected cursor).lines,
      line.Groundless := by
  intro line member
  obtain ⟨place, _, rfl⟩ := List.mem_mapIdx.mp member
  exact choiceLine_groundless place _

section

variable {console : Console} {width height : Nat} (wide : 80 ≤ width) (tall : 24 ≤ height)
  (closed : console.helpOpen = false) (idle : console.session.loading.isActive = false)
  {list : CursorList}

include wide tall closed idle

theorem showsRows_of_documentation (onScreen : console.session.tab = .documentation)
    (suggests : console.docs.SuggestsAtPath) (atFiles : console.docs.focus = .files)
    (listed : console.session.uploads ≠ []) :
    ShowsRows (draw console ⟨0, 0, width, height⟩)
      (Docs.fileList console.docs console.session width height) := by
  have unsuggested := suggests.resolve_left (by simp [atFiles])
  have panel := panel_shows_fileList wide tall onScreen atFiles listed unsuggested
  constructor
  · exact (draw_shows_panel width tall closed idle).trans panel.shows panel.covers
  · intro line member
    obtain ⟨file, _, rfl⟩ := List.mem_map.mp member
    exact Docs.fileLine_groundless file
  · dsimp only [Docs.fileList, Docs.filesInside]
    omega

theorem showsRows_of_github (onScreen : console.session.tab = .github)
    (pullRequestForm : console.session.visibility.pullRequestForm = true) :
    (console.github.focus = .repositories →
        ShowsRows (draw console ⟨0, 0, width, height⟩)
          (Github.repositoryList console.github console.session.github width height)) ∧
      (console.github.focus = .branches →
        ShowsRows (draw console ⟨0, 0, width, height⟩)
          (Github.branchList console.github console.session.github width height)) := by
  have panel := draw_shows_panel width tall closed idle
  constructor
  · intro atRepositories
    have shows := Github.drawLists_shows_repositories console.session wide tall atRepositories
    have lists := panel_shows_of_lists wide tall onScreen pullRequestForm shows (by
      constructor <;> dsimp only [Github.repositoryList, Github.choiceList,
        Github.repositoriesInside, Github.repositoriesWidth] <;> omega)
    refine ⟨panel.trans lists.shows lists.covers, Github.choiceList_groundless _ _ _ _ _, ?_⟩
    dsimp only [Github.repositoryList, Github.choiceList, Github.repositoriesInside,
      Github.repositoriesWidth]
    omega
  · intro atBranches
    have shows := Github.drawLists_shows_branches console.session wide tall atBranches
    have lists := panel_shows_of_lists wide tall onScreen pullRequestForm shows (by
      constructor <;> dsimp only [Github.branchList, Github.choiceList,
        Github.branchesInside, Github.repositoriesWidth] <;> omega)
    refine ⟨panel.trans lists.shows lists.covers, Github.choiceList_groundless _ _ _ _ _, ?_⟩
    dsimp only [Github.branchList, Github.choiceList, Github.branchesInside,
      Github.repositoriesWidth]
    omega

/-- The rows of the list that has the focus are drawn from the first one on. -/
theorem showsRows_of_focused (suggests : console.docs.SuggestsAtPath)
    (focused : focusedList? console width height = some list) :
    ShowsRows (draw console ⟨0, 0, width, height⟩) list := by
  unfold focusedList? at focused
  split at focused
  case h_1 onScreen =>
    split at focused
    case isTrue condition =>
      cases focused
      exact showsRows_of_documentation wide tall closed idle onScreen suggests condition.left
        condition.right
    case isFalse => contradiction
  case h_2 onScreen =>
    split at focused
    case isTrue pullRequestForm =>
      have lists := showsRows_of_github wide tall closed idle onScreen pullRequestForm
      split at focused
      case h_1 atRepositories =>
        cases focused
        exact lists.left atRepositories
      case h_2 atBranches =>
        cases focused
        exact lists.right atBranches
      case h_3 => contradiction
    case isFalse => contradiction
  case h_3 => contradiction

end

end Screen

/-- On every grid of at least 80 by 24 cells, with help closed and nothing loading, the row under
the cursor of the list that has the focus is drawn in the style of the selection exactly if there is
such a row and the area of the list reaches it.  Otherwise no row of the list is on the ground of
the selection.  The cursor in the list of files is always on a row. -/
theorem Run.cursor_drawn_iff {past : List Stage} {console : Console} (run : Run past console)
    {width height : Nat} (wide : 80 ≤ width) (tall : 24 ≤ height)
    (closed : console.helpOpen = false) (idle : console.session.loading.isActive = false)
    {list : CursorList} (focused : Screen.focusedList? console width height = some list) :
    let screen := Screen.draw console ⟨0, 0, width, height⟩
    (list.DrawsCursor screen ↔
        list.cursor < list.lines.length ∧ list.cursor < list.inside.height) ∧
      (∀ place, list.Selects screen place → place = list.cursor ∧ list.DrawsCursor screen) ∧
      (console.session.tab = .documentation → list.cursor < list.lines.length) := by
  obtain ⟨actions, dispatched⟩ := run.dispatched
  have rows := Screen.showsRows_of_focused wide tall closed idle dispatched.suggestsAtPath focused
  have drawn := CursorList.drawsCursor_iff rows.shows rows.groundless rows.wide
  refine ⟨drawn, ?_, ?_⟩
  · intro place selects
    obtain ⟨rfl, room⟩ := CursorList.eq_cursor_of_selects rows.shows rows.groundless selects
    exact ⟨rfl, drawn.mpr room⟩
  · intro onScreen
    simp only [Screen.focusedList?, onScreen] at focused
    split at focused
    case isTrue condition =>
      cases focused
      simp only [Screen.Docs.fileList, List.length_map]
      exact run.cursorAmong.lt (List.length_pos_iff.mpr condition.right)
    case isFalse => contradiction

/-- With the cursor beyond the last row that is seen, no file is drawn as selected. -/
theorem Run.not_selects_beyond {past : List Stage} {console : Console} (run : Run past console)
    {width height : Nat} (wide : 80 ≤ width) (tall : 24 ≤ height)
    (closed : console.helpOpen = false) (idle : console.session.loading.isActive = false)
    (onScreen : console.session.tab = .documentation) (atFiles : console.docs.focus = .files)
    (listed : console.session.uploads ≠ [])
    (beyond : (Screen.Docs.filesInside console.session width height).height ≤
      console.docs.fileCursor) (place : Nat) :
    ¬(Screen.Docs.fileList console.docs console.session width height).Selects
      (Screen.draw console ⟨0, 0, width, height⟩) place := by
  obtain ⟨actions, dispatched⟩ := run.dispatched
  have rows := Screen.showsRows_of_documentation wide tall closed idle onScreen
    dispatched.suggestsAtPath atFiles listed
  intro selects
  obtain ⟨rfl, _, room⟩ := CursorList.eq_cursor_of_selects rows.shows rows.groundless selects
  exact Nat.not_lt.mpr beyond room

/-- The second of two files is on screen. -/
theorem cursor_drawn_iff_of_secondOfTwo :
    let console := (replay Happening.secondOfTwo).2
    let list := Screen.Docs.fileList console.docs console.session 80 24
    Run (replay Happening.secondOfTwo).1 console ∧ console.helpOpen = false ∧
      console.session.loading.isActive = false ∧
      Screen.focusedList? console 80 24 = some list ∧
      list.DrawsCursor (Screen.draw console ⟨0, 0, 80, 24⟩) := by
  intro console list
  have happened : Run (replay Happening.secondOfTwo).1 console :=
    Run.of_replay _ (by decide +kernel)
  have closed : console.helpOpen = false := by decide +kernel
  have idle : console.session.loading.isActive = false := by decide +kernel
  have onScreen : console.session.tab = .documentation := by decide +kernel
  have takes : console.docs.focus = .files ∧ console.session.uploads ≠ [] := by decide +kernel
  have focused : Screen.focusedList? console 80 24 = some list := by
    simp only [Screen.focusedList?, onScreen, if_pos takes, list]
  have drawn := Run.cursor_drawn_iff happened (Nat.le_refl 80) (Nat.le_refl 24) closed idle focused
  have room : list.cursor < list.inside.height := by decide +kernel
  exact ⟨happened, closed, idle, focused, drawn.left.mpr ⟨drawn.right.right onScreen, room⟩⟩

/-- Seven files are dropped, and the cursor is moved to the last one. -/
def Happening.lastOfSeven : List Happening :=
  List.replicate 6 (.pressed .shortcuts (.character 'j')) ++
    [.pressed .shortcuts .backTab, .reported .shortcuts (.pasted "/a\n/b\n/c\n/d\n/e\n/f\n/g"),
      .filesChanged
        ⟨["a", "b", "c", "d", "e", "f", "g"].map fun name => ([name], .file ⟨#[]⟩), []⟩]

/-- The cursor is on the last of seven files, and no row is drawn as selected. -/
theorem seventh_file_not_drawn :
    let console := (replay Happening.lastOfSeven).2
    Run (replay Happening.lastOfSeven).1 console ∧ console.helpOpen = false ∧
      console.session.loading.isActive = false ∧ console.docs.focus = .files ∧
      console.session.uploads.length = 7 ∧ console.docs.fileCursor = 6 ∧
      ∀ place, ¬(Screen.Docs.fileList console.docs console.session 80 24).Selects
        (Screen.draw console ⟨0, 0, 80, 24⟩) place := by
  intro console
  have happened : Run (replay Happening.lastOfSeven).1 console :=
    Run.of_replay _ (by decide +kernel)
  have closed : console.helpOpen = false := by decide +kernel
  have idle : console.session.loading.isActive = false := by decide +kernel
  have onScreen : console.session.tab = .documentation := by decide +kernel
  have atFiles : console.docs.focus = .files := by decide +kernel
  have listed : console.session.uploads ≠ [] := by decide +kernel
  have beyond : (Screen.Docs.filesInside console.session 80 24).height ≤
      console.docs.fileCursor := by decide +kernel
  exact ⟨happened, closed, idle, atFiles, by decide +kernel, by decide +kernel,
    happened.not_selects_beyond (Nat.le_refl 80) (Nat.le_refl 24) closed idle onScreen atFiles
      listed beyond⟩

end DocsConsole
