import DocsConsole.Proofs.Console.Focus
import DocsConsole.Proofs.Terminal.Parts
import DocsConsole.Screen.Console

/-!
# Where the parts of the screen stand

On a grid of at least 80 by 24 cells every part of a panel has the height it wants, but for the
suggestions, which take what is left when the other parts have theirs.
-/

namespace DocsConsole

open Terminal

/-! ## Heights -/

theorem Terminal.Stack.heights_of_room {room : Nat} {extents : List Extent}
    (fits : total (extents.map Extent.least) ≤ room) :
    heights room extents = stretched room extents :=
  if_pos fits

theorem PathField.suggestionRows_le (path : PathField) : path.suggestionRows ≤ 7 := by
  unfold suggestionRows Suggestion.limit
  split <;> omega

namespace Screen

variable {width height : Nat}

def panelArea (width height : Nat) : Area :=
  ⟨0, 2, width, height - 3⟩

theorem draw_eq (console : Console) (tall : 24 ≤ height) :
    draw console ⟨0, 0, width, height⟩ =
      (tabLine console.session.tab).draw ⟨0, 0, width, 2⟩ ++
        drawPanel console (panelArea width height) ++
        StatusBar.draw console.statusBar console.session.tab ⟨0, height - 1, width, 1⟩ ++
        drawLoading console.session.loading console.spinner ⟨0, 0, width, height⟩ ++
        (if console.helpOpen then drawHelp ⟨0, 0, width, height⟩ else []) := by
  have fits : Stack.total ([.fixed 2, .elastic 10, .fixed 1].map Extent.least) ≤ height := by
    simp only [Stack.total, List.map, Extent.least, List.sum_cons, List.sum_nil]
    omega
  have middle : 10 + (height - 13) = height - 3 := by omega
  have last : 2 + (height - 3) = height - 1 := by omega
  simp only [draw, Stack.heights_of_room fits, Stack.stretched, Stack.total, List.map,
    Extent.least, List.sum_cons, List.sum_nil, Area.stack, Nat.zero_add, Nat.reduceAdd, middle,
    last, panelArea]

/-! ### The panel for documentation -/

namespace Docs

/-- The height of the field for the name of the project. -/
def nameRows (session : Session) : Nat :=
  if session.purpose = .readme then 3 else 0

/-- The height of the suggestions, if there is room for that. -/
def suggestionRoom (panel : DocsPanel) (session : Session) (room : Nat) : Nat :=
  min panel.path.suggestionRows (room - 15 - nameRows session)

/-- The height of the list of files. -/
def fileRoom (panel : DocsPanel) (session : Session) (room : Nat) : Nat :=
  room - 10 - nameRows session - suggestionRoom panel session room

/-- The list of files needs five rows, and the suggestions get what is left. -/
theorem squeezed_eq : ∀ room < 25, ∀ suggestions < 8, ∀ name ∈ [0, 3], 21 ≤ room →
    room < 15 + suggestions + name →
      Stack.squeezed room [.elastic 5, .fixed 3, .fixed suggestions, .fixed name, .fixed 6,
          .fixed 1] = [5, 3, room - 15 - name, name, 6, 1] := by
  decide +kernel

variable (panel : DocsPanel) (session : Session)

theorem nameRows_eq : nameRows session = 0 ∨ nameRows session = 3 := by
  unfold nameRows
  split <;> simp

theorem heights_eq {room : Nat} (tall : 21 ≤ room) :
    Stack.heights room (extents panel session) =
      [fileRoom panel session room, 3, suggestionRoom panel session room, nameRows session, 6,
        1] := by
  have few := panel.path.suggestionRows_le
  have name := nameRows_eq session
  have parts : extents panel session = [.elastic 5, .fixed 3, .fixed panel.path.suggestionRows,
      .fixed (nameRows session), .fixed 6, .fixed 1] := rfl
  have total : Stack.total ((extents panel session).map Extent.least) =
      15 + panel.path.suggestionRows + nameRows session := by
    rw [parts]
    simp only [Stack.total, List.map, Extent.least, List.sum_cons, List.sum_nil]
    omega
  -- On a low grid the suggestions may not fit.
  unfold Stack.heights
  split
  case isTrue fits =>
    rw [total] at fits
    have wanted : suggestionRoom panel session room = panel.path.suggestionRows :=
      Nat.min_eq_left (by omega)
    have elastic : 5 + (room - (15 + panel.path.suggestionRows + nameRows session)) =
        fileRoom panel session room := by
      unfold fileRoom
      omega
    simp only [Stack.stretched, total]
    rw [parts]
    simp only [List.map, elastic, wanted]
  case isFalse overfull =>
    rw [total] at overfull
    have left : suggestionRoom panel session room = room - 15 - nameRows session :=
      Nat.min_eq_right (by omega)
    have needed : fileRoom panel session room = 5 := by
      unfold fileRoom
      omega
    rw [parts, squeezed_eq room (by omega) _ (by omega) _ (by simpa using name) tall (by omega),
      needed, left]

def column (width height : Nat) : Area :=
  ⟨0, 2, (width * 45 + 50) / 100, height - 3⟩

/-- The areas of the left column, from the list of files to the hints. -/
def columnAreas (width height : Nat) : List Area :=
  (column width height).stack [fileRoom panel session (height - 3), 3,
    suggestionRoom panel session (height - 3), nameRows session, 6, 1]

def columnParts : List Area → List Drawing
  | [files, path, suggestions, projectName, instructions, hints] =>
      [drawFiles panel session files,
        drawPath panel.path (panel.editing && panel.focus = .path) " Add files " path,
        if panel.focus = .path then drawSuggestions panel.path suggestions else [],
        drawProjectName panel session projectName,
        drawField panel.instructions (panel.editing && panel.focus = .instructions)
          " Custom instructions " "optional" instructions,
        drawLine (hintLine panel session) hints]
  | _ => []

def outputArea (width height : Nat) : Area :=
  ⟨(width * 45 + 50) / 100, 2, width - (width * 45 + 50) / 100, height - 3⟩

theorem draw_eq (tall : 24 ≤ height) :
    draw panel session (panelArea width height) =
      (columnParts panel session (columnAreas panel session width height)).flatten ++
        drawOutput panel session (outputArea width height) := by
  have room : 21 ≤ height - 3 := by omega
  simp only [draw, panelArea, heights_eq panel session room, Area.splitAt, Area.share,
    Nat.zero_add, columnAreas, column, Area.stack, drawColumn, columnParts, outputArea,
    List.flatten_cons, List.flatten_nil, List.append_assoc, List.append_nil]

/-- The parts of the left column fill it. -/
theorem rooms_total (tall : 24 ≤ height) :
    5 ≤ fileRoom panel session (height - 3) ∧
      fileRoom panel session (height - 3) + suggestionRoom panel session (height - 3) +
        nameRows session + 13 = height := by
  have name := nameRows_eq session
  unfold fileRoom suggestionRoom
  omega

end Docs

/-! ### The panel for pull requests -/

namespace Github

def panelFrame : Frame :=
  ⟨" GitHub ", Theme.title, Theme.border⟩

def insideArea (width height : Nat) : Area :=
  ⟨1, 3, width - 2, height - 5⟩

theorem inside_panelArea (wide : 80 ≤ width) (tall : 24 ≤ height) :
    Frame.inside (panelArea width height) = insideArea width height := by
  have left : min (0 + 1) (0 + width) = 1 := by omega
  have top : min (2 + 1) (2 + (height - 3)) = 3 := by omega
  have rows : height - 3 - 2 = height - 5 := by omega
  simp only [Frame.inside, panelArea, insideArea, left, top, rows]

def tokenParts (panel : GithubPanel) : List Area → List Drawing
  | introduction :: token :: hints :: _ =>
      [drawHint "Connect a GitHub personal access token to open pull requests." Theme.muted
          introduction,
        drawField panel.token panel.editing " GitHub token " "press e to enter a token" token,
        drawLine ((tokenHints panel.editing).flatMap KeyHint.spans) hints]
  | _ => []

theorem drawTokenForm_eq (panel : GithubPanel) (tall : 24 ≤ height) :
    drawTokenForm panel (insideArea width height) =
      (tokenParts panel ((insideArea width height).stack [2, 3, 1])).flatten := by
  have fits : Stack.total
      ([.fixed 2, .fixed 3, .fixed 1, .elastic 0].map Extent.least) ≤ height - 5 := by
    simp only [Stack.total, List.map, Extent.least, List.sum_cons, List.sum_nil]
    omega
  simp only [drawTokenForm, insideArea, Stack.heights_of_room fits, Stack.stretched, List.map,
    Area.stack, tokenParts, List.flatten_cons, List.flatten_nil, List.append_assoc,
    List.append_nil]

/-- The areas of the form for a pull request, from the line on the connection to the hints. -/
def formAreas (width height : Nat) : List Area :=
  (insideArea width height).stack [1, height - 18, 3, 5, 3, 1]

def formParts (panel : GithubPanel) (session : Session) : List Area → List Drawing
  | [connection, lists, title, description, commitMessage, hints] =>
      [drawLine (connectedLine session) connection, drawLists panel session lists,
        drawField panel.title (panel.editing && panel.focus = .title) " PR title " "required" title,
        drawField panel.description (panel.editing && panel.focus = .description)
          " PR description " "optional" description,
        drawField panel.commitMessage (panel.editing && panel.focus = .commitMessage)
          " Commit message " "required" commitMessage,
        drawLine ((pullRequestHints panel.editing).flatMap KeyHint.spans) hints]
  | _ => []

theorem drawPullRequestForm_eq (panel : GithubPanel) (session : Session) (tall : 24 ≤ height) :
    drawPullRequestForm panel session (insideArea width height) =
      (formParts panel session (formAreas width height)).flatten := by
  have fits : Stack.total ([.fixed 1, .elastic 6, .fixed 3, .fixed 5, .fixed 3, .fixed 1].map
      Extent.least) ≤ height - 5 := by
    simp only [Stack.total, List.map, Extent.least, List.sum_cons, List.sum_nil]
    omega
  have lists : 6 + (height - 5 - 19) = height - 18 := by omega
  simp only [drawPullRequestForm, formAreas, insideArea, Stack.heights_of_room fits,
    Stack.stretched, Stack.total, List.map, Extent.least, List.sum_cons, List.sum_nil,
    Nat.reduceAdd, lists, Area.stack, formParts, List.flatten_cons, List.flatten_nil,
    List.append_assoc, List.append_nil]

end Github

/-! ### The panel for code quality -/

namespace Quality

/-- The areas of the panel, from the path to the report. -/
def areas (panel : QualityPanel) (width height : Nat) : List Area :=
  (panelArea width height).stack [3, panel.path.suggestionRows, 1,
    height - 7 - panel.path.suggestionRows]

def parts (panel : QualityPanel) (session : Session) : List Area → List Drawing
  | [path, suggestions, selection, report] =>
      [drawPath panel.path panel.wantsInput " File to analyze " path,
        drawSuggestions panel.path suggestions,
        drawLine (selectionLine session.qualityFile) selection, drawReport panel session report]
  | _ => []

theorem draw_eq (panel : QualityPanel) (session : Session) (tall : 24 ≤ height) :
    draw panel session (panelArea width height) =
      (parts panel session (areas panel width height)).flatten := by
  have few := panel.path.suggestionRows_le
  have fits : Stack.total ((extents panel).map Extent.least) ≤ height - 3 := by
    simp only [extents, Stack.total, List.map, Extent.least, List.sum_cons, List.sum_nil]
    omega
  have elastic : 5 + (height - 3 - (3 + (panel.path.suggestionRows + (1 + 5)))) =
      height - 7 - panel.path.suggestionRows := by
    omega
  have heights : Stack.heights (height - 3) (extents panel) =
      [3, panel.path.suggestionRows, 1, height - 7 - panel.path.suggestionRows] := by
    rw [Stack.heights_of_room fits]
    simp only [extents, Stack.stretched, Stack.total, List.map, Extent.least, List.sum_cons,
      List.sum_nil, Nat.add_zero, ← elastic]
  simp only [draw, areas, panelArea, heights, Area.stack, parts, List.flatten_cons,
    List.flatten_nil, List.append_assoc, List.append_nil]

end Quality

/-! ## Parts keep to their areas -/

section

variable (area : Area)

theorem drawHint_keepsTo (hint : String) (style : Style) :
    (drawHint hint style area).KeepsTo area :=
  Paragraph.draw_keepsTo _ area

theorem drawLine_keepsTo (line : Line) : (drawLine line area).KeepsTo area :=
  Paragraph.draw_keepsTo _ area

theorem drawField_keepsTo (field : TextField) (focused : Bool) (title hint : String) :
    (drawField field focused title hint area).KeepsTo area := by
  have frame := (frameOf title focused).draw_keepsTo area
  have inside {drawing : Drawing} (keeps : drawing.KeepsTo (Frame.inside area)) :
      drawing.KeepsTo area := keeps.mono (Frame.inside_staysIn area)
  unfold drawField
  dsimp only
  split
  · exact frame.append (inside (Paragraph.draw_keepsTo _ _))
  · split
    · exact frame.append (inside (drawHint_keepsTo _ _ _))
    · have whole : (Stroke.restyle area Theme.normal).area.StaysIn area := .refl area
      exact (frame.cons whole).append (inside (Paragraph.draw_keepsTo _ _))

theorem drawSuggestions_keepsTo (path : PathField) :
    (drawSuggestions path area).KeepsTo area := by
  unfold drawSuggestions
  split
  · exact Drawing.keepsTo_nil
  · have rows := ListRow.draw_keepsTo (path.suggestions.mapIdx fun place suggestion =>
      suggestionRow (path.highlight = some place) suggestion) (Frame.insideOpen area)
    exact (Frame.drawOpen_keepsTo area Theme.border).append
      (rows.mono (Frame.insideOpen_staysIn area))

theorem Docs.drawFiles_keepsTo (panel : DocsPanel) (session : Session) :
    (Docs.drawFiles panel session area).KeepsTo area := by
  have inside := Frame.inside_staysIn area
  unfold Docs.drawFiles
  dsimp only
  split
  · exact (Frame.draw_keepsTo _ area).append ((drawHint_keepsTo _ _ _).mono inside)
  · exact (Frame.draw_keepsTo _ area).append ((ListRow.draw_keepsTo _ _).mono inside)

theorem Docs.drawProjectName_keepsTo (panel : DocsPanel) (session : Session) :
    (Docs.drawProjectName panel session area).KeepsTo area := by
  unfold Docs.drawProjectName
  split
  · exact drawField_keepsTo area _ _ _ _
  · exact Drawing.keepsTo_nil

theorem Docs.drawOutput_keepsTo (panel : DocsPanel) (session : Session) :
    (Docs.drawOutput panel session area).KeepsTo area := by
  have inside := Frame.inside_staysIn area
  unfold Docs.drawOutput
  dsimp only
  split
  · exact (Frame.draw_keepsTo _ area).append ((Paragraph.draw_keepsTo _ _).mono inside)
  · exact (Frame.draw_keepsTo _ area).append ((drawHint_keepsTo _ _ _).mono inside)

theorem Github.drawChoices_keepsTo (title placeholder : String) (entries : List String)
    (selected : Option String) (cursor : Option Nat) :
    (Github.drawChoices title placeholder entries selected cursor area).KeepsTo area :=
  (Frame.draw_keepsTo _ area).append
    ((ListRow.draw_keepsTo _ _).mono (Frame.inside_staysIn area))

theorem Github.drawLists_keepsTo (panel : GithubPanel) (session : Session) :
    (Github.drawLists panel session area).KeepsTo area := by
  have left : (area.splitAt (area.share 50)).1.StaysIn area := ⟨Nat.le_refl _, fun _ => id⟩
  have right : (area.splitAt (area.share 50)).2.StaysIn area := ⟨Nat.le_add_right _ _, fun _ => id⟩
  exact ((drawChoices_keepsTo _ _ _ _ _ _).mono left).append
    ((drawChoices_keepsTo _ _ _ _ _ _).mono right)

theorem Quality.drawReport_keepsTo (panel : QualityPanel) (session : Session) :
    (Quality.drawReport panel session area).KeepsTo area :=
  (Frame.draw_keepsTo _ area).append
    ((Paragraph.draw_keepsTo _ _).mono (Frame.inside_staysIn area))

end

/-! ### The parts of the panels -/

theorem Docs.columnParts_keepTo (panel : DocsPanel) (session : Session) (width height : Nat) :
    List.Forall₂ Drawing.KeepsTo
      (columnParts panel session (columnAreas panel session width height))
      (columnAreas panel session width height) := by
  refine .cons ?_ (.cons ?_ (.cons ?_ (.cons ?_ (.cons ?_ (.cons ?_ .nil)))))
  · exact drawFiles_keepsTo _ panel session
  · exact drawField_keepsTo _ _ _ _ _
  · split
    · exact drawSuggestions_keepsTo _ panel.path
    · exact Drawing.keepsTo_nil
  · exact drawProjectName_keepsTo _ panel session
  · exact drawField_keepsTo _ _ _ _ _
  · exact drawLine_keepsTo _ _

theorem Github.tokenParts_keepTo (panel : GithubPanel) (area : Area) :
    List.Forall₂ Drawing.KeepsTo (tokenParts panel (area.stack [2, 3, 1]))
      (area.stack [2, 3, 1]) := by
  refine .cons ?_ (.cons ?_ (.cons ?_ .nil))
  · exact drawHint_keepsTo _ _ _
  · exact drawField_keepsTo _ _ _ _ _
  · exact drawLine_keepsTo _ _

theorem Github.formParts_keepTo (panel : GithubPanel) (session : Session) (width height : Nat) :
    List.Forall₂ Drawing.KeepsTo (formParts panel session (formAreas width height))
      (formAreas width height) := by
  refine .cons ?_ (.cons ?_ (.cons ?_ (.cons ?_ (.cons ?_ (.cons ?_ .nil)))))
  · exact drawLine_keepsTo _ _
  · exact drawLists_keepsTo _ panel session
  · exact drawField_keepsTo _ _ _ _ _
  · exact drawField_keepsTo _ _ _ _ _
  · exact drawField_keepsTo _ _ _ _ _
  · exact drawLine_keepsTo _ _

theorem Quality.parts_keepTo (panel : QualityPanel) (session : Session) (width height : Nat) :
    List.Forall₂ Drawing.KeepsTo (parts panel session (areas panel width height))
      (areas panel width height) := by
  refine .cons ?_ (.cons ?_ (.cons ?_ (.cons ?_ .nil)))
  · exact drawField_keepsTo _ _ _ _ _
  · exact drawSuggestions_keepsTo _ panel.path
  · exact drawLine_keepsTo _ _
  · exact drawReport_keepsTo _ panel session

/-! ### The places of the parts -/

/-- A part of the panel on screen has a place in the area of the panel for itself. -/
structure PanelShows (console : Console) (width height : Nat) (part : Drawing) (place : Area) :
    Prop where
  shows : (drawPanel console (panelArea width height)).Shows part place
  covers : (panelArea width height).Covers place

section

variable {console : Console} {part : Drawing} {place : Area} {index : Nat}
  (wide : 80 ≤ width) (tall : 24 ≤ height)

include tall

theorem panelShows_of_quality (onScreen : console.session.tab = .quality)
    (drawn : (Quality.parts console.quality console.session
      (Quality.areas console.quality width height))[index]? = some part)
    (stands : (Quality.areas console.quality width height)[index]? = some place) :
    PanelShows console width height part place := by
  have few := console.quality.path.suggestionRows_le
  constructor
  · rw [drawPanel, onScreen]
    dsimp only
    rw [Quality.draw_eq console.quality console.session tall]
    exact Drawing.flatten_stacked (Quality.parts_keepTo _ _ _ _) drawn stands
  · apply Area.stack_covers _ (List.mem_of_getElem? stands)
    simp only [Stack.total, List.sum_cons, List.sum_nil, panelArea]
    omega

include wide

theorem panelShows_of_documentation (onScreen : console.session.tab = .documentation)
    (drawn : (Docs.columnParts console.docs console.session
      (Docs.columnAreas console.docs console.session width height))[index]? = some part)
    (stands : (Docs.columnAreas console.docs console.session width height)[index]? =
      some place) : PanelShows console width height part place := by
  have total := (Docs.rooms_total console.docs console.session tall).right
  have covers : (Docs.column width height).Covers place := by
    apply Area.stack_covers _ (List.mem_of_getElem? stands)
    simp only [Stack.total, List.sum_cons, List.sum_nil, Docs.column]
    omega
  have right : place.column + place.width ≤ 0 + (width * 45 + 50) / 100 := covers.right
  have output := (Docs.drawOutput_keepsTo (Docs.outputArea width height) console.docs
    console.session).spares (Area.beside_of_right (Nat.zero_add _ ▸ right))
  have column :=
    (Drawing.flatten_stacked (Docs.columnParts_keepTo _ _ _ _) drawn stands).before output
  constructor
  · rw [drawPanel, onScreen]
    dsimp only
    rw [Docs.draw_eq console.docs console.session tall]
    exact column
  · apply Area.Covers.trans _ covers
    constructor <;> dsimp only [panelArea, Docs.column] <;> omega

theorem Github.panelArea_covers : (panelArea width height).Covers (insideArea width height) := by
  constructor <;> dsimp only [panelArea, insideArea] <;> omega

theorem Github.panelFrame_spares (covers : (insideArea width height).Covers place) :
    (panelFrame.draw (panelArea width height)).Spares place := by
  have spares := panelFrame.draw_spares_inside (panelArea width height)
  rw [inside_panelArea wide tall] at spares
  exact spares.of_covers covers

theorem panelShows_of_tokenForm (onScreen : console.session.tab = .github)
    (tokenForm : console.session.visibility.tokenForm = true)
    (drawn : (Github.tokenParts console.github
      ((Github.insideArea width height).stack [2, 3, 1]))[index]? = some part)
    (stands : ((Github.insideArea width height).stack [2, 3, 1])[index]? = some place) :
    PanelShows console width height part place := by
  have covers : (Github.insideArea width height).Covers place := by
    apply Area.stack_covers _ (List.mem_of_getElem? stands)
    simp only [Stack.total, List.sum_cons, List.sum_nil, Github.insideArea]
    omega
  have form := (Drawing.flatten_stacked (Github.tokenParts_keepTo _ _) drawn stands).behind
    (Github.panelFrame_spares wide tall covers)
  constructor
  · rw [← Github.drawTokenForm_eq console.github tall] at form
    simp only [drawPanel, onScreen, Github.draw, Github.inside_panelArea wide tall, tokenForm,
      if_true]
    exact form
  · exact (Github.panelArea_covers wide tall).trans covers

theorem panelShows_of_pullRequestForm (onScreen : console.session.tab = .github)
    (pullRequestForm : console.session.visibility.pullRequestForm = true)
    (drawn : (Github.formParts console.github console.session
      (Github.formAreas width height))[index]? = some part)
    (stands : (Github.formAreas width height)[index]? = some place) :
    PanelShows console width height part place := by
  have unshown := GithubPanel.pullRequestForm_exclusive console.session pullRequestForm
  have covers : (Github.insideArea width height).Covers place := by
    apply Area.stack_covers _ (List.mem_of_getElem? stands)
    simp only [Stack.total, List.sum_cons, List.sum_nil, Github.insideArea]
    omega
  have form := (Drawing.flatten_stacked (Github.formParts_keepTo _ _ _ _) drawn stands).behind
    (Github.panelFrame_spares wide tall covers)
  constructor
  · rw [← Github.drawPullRequestForm_eq console.github console.session tall] at form
    simp only [drawPanel, onScreen, Github.draw, Github.inside_panelArea wide tall, unshown,
      pullRequestForm, Bool.false_eq_true, if_false, if_true]
    exact form
  · exact (Github.panelArea_covers wide tall).trans covers

end

end Screen

end DocsConsole
