import DocsConsole.Proofs.Console.Fields
import DocsConsole.Screen.Console

/-!
# What the screen shows of a token

A field is drawn from what it shows, and a masked field shows one bullet for each character.
So two states that differ in the token only, but not in its length, are drawn alike.
-/

namespace DocsConsole

open Terminal

/-- Two fields show the same. -/
structure TextField.ShowsLike (left right : TextField) : Prop where
  text : left.shownText = right.shownText
  cursor : left.shownCursor = right.shownCursor
  empty : left.isEmpty = right.isEmpty

/-- Two masked fields hold equally many characters, and equally many before the cursor. -/
structure TextField.MaskedAlike (left right : TextField) : Prop where
  masked : left.kind = .masked
  maskedToo : right.kind = .masked
  characters : left.content.length = right.content.length
  before : left.before.length = right.before.length

theorem TextField.MaskedAlike.showsLike {left right : TextField}
    (alike : left.MaskedAlike right) : left.ShowsLike right := by
  obtain ⟨masked, maskedToo, characters, before⟩ := alike
  constructor
  · rw [shownText, shownText, masked, maskedToo, shown, shown, List.map_const', List.map_const',
      characters]
  · rw [shownCursor, shownCursor, masked, maskedToo, shown, shown, List.map_const',
      List.map_const', before]
  · rw [isEmpty, isEmpty, Bool.eq_iff_iff, List.isEmpty_iff_length_eq_zero,
      List.isEmpty_iff_length_eq_zero, characters]

namespace Screen

/-- A field is drawn from what it shows. -/
theorem drawField_congr {left right : TextField} (alike : left.ShowsLike right) (focused : Bool)
    (title hint : String) (area : Area) :
    drawField left focused title hint area = drawField right focused title hint area := by
  have rows : typingRows left = typingRows right := by
    funext inside
    rw [typingRows, typingRows, alike.text, alike.cursor]
  have typing : drawTyping left = drawTyping right := by
    funext inside
    rw [drawTyping, drawTyping, rows]
  have resting : drawResting left = drawResting right := by
    funext inside
    rw [drawResting, drawResting, alike.text]
  rw [drawField, drawField, typing, resting, alike.empty]

end Screen

namespace Console

/-- The console with another token typed and another one accepted.  What was started for them
may differ too. -/
def withToken (console : Console) (field : TextField) (connection : Connection)
    (started : List (Ticket × Backend.Call)) : Console :=
  { console with
    github := { console.github with token := field }
    session :=
      { console.session with
        github := { console.session.github with connection := connection } }
    started := started }

/-- Two states differ in the token only: in the characters of its field, and in the one that the
session is connected with.  The calls that were started are not a part of what is compared. -/
structure SameButToken (left right : Console) : Prop where
  elsewhere : right =
    left.withToken right.github.token right.session.github.connection right.started
  field : left.github.token.MaskedAlike right.github.token
  connected : left.session.isConnected = right.session.isConnected

end Console

namespace Screen

variable {console : Console} {field : TextField} {connection : Connection}
  {started : List (Ticket × Backend.Call)}

theorem visibility_withToken
    (connected : console.session.isConnected =
      (console.withToken field connection started).session.isConnected) :
    (console.withToken field connection started).session.visibility =
      console.session.visibility := by
  rw [Session.visibility, Session.visibility, connected]
  rfl

theorem drawTokenForm_congr {left right : GithubPanel} (alike : left.token.ShowsLike right.token)
    (editing : left.editing = right.editing) (area : Area) :
    Github.drawTokenForm left area = Github.drawTokenForm right area := by
  unfold Github.drawTokenForm
  rw [editing]
  split
  · rw [drawField_congr alike]
  · rfl

theorem draw_withToken (alike : console.github.token.ShowsLike field)
    (connected : console.session.isConnected =
      (console.withToken field connection started).session.isConnected) (area : Area) :
    draw (console.withToken field connection started) area = draw console area := by
  have tokenForm : Github.drawTokenForm (console.withToken field connection started).github =
      Github.drawTokenForm console.github := by
    funext inside
    symm
    apply drawTokenForm_congr
    · exact alike
    · rfl
  have panel : drawPanel (console.withToken field connection started) = drawPanel console := by
    funext inside
    have tab : (console.withToken field connection started).session.tab =
        console.session.tab := rfl
    rw [drawPanel, drawPanel, tab]
    cases console.session.tab with
    | documentation => rfl
    | github =>
        simp only [Github.draw, visibility_withToken connected, tokenForm]
        rfl
    | quality => rfl
  unfold draw
  rw [panel]
  rfl

end Screen

/-! ## The field for a token is masked -/

namespace GithubPanel

variable {Holds : TextField → Prop} (lasting : TextField.Lasting Holds) {panel : GithubPanel}
  (holds : Holds panel.token)

include holds

theorem editField_token {change : TextField → TextField}
    (keeps : ∀ field, Holds field → Holds (change field)) :
    Holds (panel.editField change).token := by
  unfold editField
  split
  case h_1 => exact keeps _ holds
  all_goals exact holds

theorem moveFocus_token (visibility : Visibility) (focus : GithubFocus) :
    Holds (panel.moveFocus visibility focus).token := by
  unfold moveFocus
  split <;> exact holds

theorem atRest_token (github : Github) (visibility : Visibility) (action : Action) :
    Holds (panel.atRest github visibility action).1.token := by
  have scrolled : ∀ down, Holds (panel.scroll github down).token := by
    intro down
    unfold scroll
    split <;> exact holds
  cases action with
  | focusNext => exact moveFocus_token holds visibility _
  | focusPrevious => exact moveFocus_token holds visibility _
  | startEditing =>
      simp only [atRest]
      split <;> exact holds
  | up => exact scrolled false
  | down => exact scrolled true
  | confirm =>
      simp only [atRest, confirm]
      split <;> exact holds
  | _ => exact holds

include lasting

theorem withFocusShown_token (visibility : Visibility) :
    Holds (panel.withFocusShown visibility).token := by
  unfold withFocusShown
  split
  · exact holds
  · split
    · exact lasting.clear _ holds
    · exact holds

theorem edit_token (change : Edit) : Holds (panel.edit change).1.token := by
  unfold edit
  split
  · exact holds
  · exact holds
  · apply editField_token holds
    intro field held
    exact lasting.edit field _ held

theorem whileTyping_token (visibility : Visibility) (action : Action) :
    Holds (panel.whileTyping visibility action).1.token := by
  cases action with
  | focusNext => exact moveFocus_token holds visibility _
  | focusPrevious => exact moveFocus_token holds visibility _
  | up => exact editField_token holds lasting.up
  | down => exact editField_token holds lasting.down
  | edit edit => exact edit_token lasting holds edit
  | _ => exact holds

theorem handle_token (session : Session) (action : Action) :
    Holds (panel.handle session action).1.token := by
  have shown := withFocusShown_token lasting holds session.visibility
  simp only [handle]
  split
  · exact whileTyping_token lasting shown session.visibility action
  · have within : Holds ((panel.withFocusShown session.visibility).withinLists
        session.github).token := shown
    exact atRest_token within session.github session.visibility action

end GithubPanel

theorem Dispatched.token_masked {past : List Action} {console : Console}
    (dispatched : Dispatched past console) : console.github.token.kind = .masked := by
  apply dispatched.invariant
  · intro settings workspace
    rfl
  · intro console moment action masked
    apply Console.handle_of_panels (fun console => console.github.token.kind = .masked) _ _ masked
    · intro left right same masked
      simp only [Console.panels, Prod.mk.injEq] at same
      rw [same.2.1]
      exact masked
    · intro console action masked
      unfold Console.askPanel
      split
      · exact masked
      · exact GithubPanel.handle_token (TextField.kind_lasting .masked) masked _ _
      · exact masked
  · intro console files masked
    exact masked

namespace Screen

/-- Two states that differ in the token only are drawn alike in every size.  The field for the
token is masked in every state that the console comes to. -/
theorem grid_of_sameButToken :
    (∀ left right : Console, left.SameButToken right → ∀ width height : Nat,
      (draw left ⟨0, 0, width, height⟩).grid width height =
        (draw right ⟨0, 0, width, height⟩).grid width height) ∧
      ∀ (past : List Action) (console : Console), Dispatched past console →
        console.github.token.kind = .masked := by
  constructor
  · intro left right same width height
    have connected := same.connected
    rw [same.elsewhere] at connected ⊢
    rw [draw_withToken same.field.showsLike connected]
  · intro past console dispatched
    exact dispatched.token_masked

end Screen

/-- The field for a token has the keyboard, and the cursor stands in the token. -/
def Console.enteringToken (before after : List Char) : Console :=
  (Console.ofActions [.startEditing, .showTab .github]).withToken
    ⟨.masked, before ++ after, Text.byteCount before⟩ .disconnected []

/-- Characters of one, two and four bytes are drawn alike. -/
theorem grid_of_sameButToken_of_enteringToken :
    let left := Console.enteringToken ['g', 'h'] ['1']
    let right := Console.enteringToken ['ż', '😀'] ['w']
    left.SameButToken right ∧ left.wantsInput = true ∧
      left.github.token.cursor = 2 ∧ right.github.token.cursor = 6 ∧
      (Screen.draw left ⟨0, 0, 80, 24⟩).grid 80 24 =
        (Screen.draw right ⟨0, 0, 80, 24⟩).grid 80 24 := by
  intro left right
  have field : left.github.token.MaskedAlike right.github.token :=
    ⟨rfl, rfl, by decide, by decide⟩
  have same : left.SameButToken right := ⟨rfl, field, by decide⟩
  exact ⟨same, by decide, by decide, by decide,
    Screen.grid_of_sameButToken.1 left right same 80 24⟩

end DocsConsole
