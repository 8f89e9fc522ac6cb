import DocsConsole.Proofs.Terminal.Glyphs
import DocsConsole.Screen.StatusBar

/-!
# The status bar when a notification is wide

The room for a notification is counted in characters, and so is the space that is left between it
and the keys.  Characters of two columns therefore push the keys to the right.  There are five
columns to spare, so the keys are all on screen as long as the notification takes at most five
columns more than it has characters.
-/

namespace DocsConsole.Screen.StatusBar

open Terminal

/-! ## The message -/

/-- A message is kept, or cut after some characters and ended with dots. -/
inductive Shortens (room : Nat) : String → String → Prop where
  | whole {message : String} (fits : message.length ≤ room) : Shortens room message message
  | cut {kept rest : List Char} (long : room < (kept ++ rest).length)
      (dots : kept.length + 3 = room) :
      Shortens room (String.ofList (kept ++ rest)) (String.ofList kept ++ "...")

theorem shortened_shortens {room : Nat} (roomy : 3 < room) (message : String) :
    Shortens room message (shortened message room) := by
  unfold shortened
  split
  case isTrue fits => exact .whole fits
  case isFalse long =>
    have parted := List.take_append_drop (room - 3) message.toList
    have whole : message = String.ofList
        (message.toList.take (room - 3) ++ message.toList.drop (room - 3)) := by
      rw [parted, String.ofList_toList]
    have length := String.length_toList (s := message)
    have cut : Shortens room (String.ofList
        (message.toList.take (room - 3) ++ message.toList.drop (room - 3))) _ := .cut
      (by rw [parted]; omega) (by rw [List.length_take]; omega)
    rwa [← whole] at cut

theorem Shortens.length_le {room : Nat} {message shown : String}
    (shortens : Shortens room message shown) : shown.length ≤ room := by
  cases shortens with
  | whole fits => exact fits
  | cut long dots =>
      rw [String.length_append, String.length_ofList]
      exact Nat.le_of_eq dots

theorem Shortens.mem {room : Nat} {message shown : String}
    (shortens : Shortens room message shown) {c : Char} (member : c ∈ shown.toList) :
    c ∈ message.toList ∨ c = '.' := by
  cases shortens with
  | whole => exact Or.inl member
  | @cut kept rest =>
      rw [String.toList_append, String.toList_ofList] at member
      rw [String.toList_ofList]
      rcases List.mem_append.mp member with inside | dots
      · exact Or.inl (List.mem_append_left rest inside)
      · right
        simpa using dots

/-! ## The parts of the bar -/

def messageRoom (tab : Tab) (width : Nat) : Nat :=
  width - badgeRoom tab - hintRoom - 4

def badgeSpan (tab : Tab) : Span :=
  ⟨" " ++ tab.label ++ " ", Theme.muted⟩

def gapSpan : Span :=
  ⟨"  ", Theme.dim⟩

def hintSpan : Span :=
  ⟨hints, Theme.keyHint⟩

def edgeSpan : Span :=
  ⟨" ", .plain⟩

/-- The number of spaces between the message and the keys. -/
def filler (tab : Tab) (toast : Option Toast) (width : Nat) : Nat :=
  width - (badgeRoom tab + 2 + (messageSpan tab toast width).text.length + hintRoom)

def fillerSpan (tab : Tab) (toast : Option Toast) (width : Nat) : Span :=
  ⟨Text.repeated (filler tab toast width) " ", .plain⟩

/-- The glyphs of the message that are not wider than the bar. -/
def messageGlyphs (tab : Tab) (toast : Option Toast) (width : Nat) : List Glyph :=
  (Glyph.ofSpan (messageSpan tab toast width)).filter (·.width ≤ width)

/-- The column that the keys begin in. -/
def hintColumn (tab : Tab) (toast : Option Toast) (width : Nat) : Nat :=
  badgeRoom tab + 2 + Glyph.totalWidth (messageGlyphs tab toast width) + filler tab toast width

theorem toList_repeated_space (count : Nat) :
    (Text.repeated count " ").toList = List.replicate count ' ' := by
  rw [Text.repeated, String.toList_join]
  induction count with
  | zero => rfl
  | succ count induction =>
      rw [List.replicate_succ, List.flatMap_cons, induction]
      rfl

theorem narrow_of_visible {text : List Char}
    (visible : text.all (fun c => decide (Unicode.IsVisible c)) = true) :
    ∀ c ∈ text, Unicode.Narrow c := by
  intro c member
  apply Unicode.narrow_of_isVisible
  exact of_decide_eq_true (List.all_eq_true.mp visible c member)

theorem narrow_badge (tab : Tab) : ∀ c ∈ (badgeSpan tab).text.toList, Unicode.Narrow c := by
  apply narrow_of_visible
  cases tab <;> decide

theorem narrow_gap : ∀ c ∈ gapSpan.text.toList, Unicode.Narrow c :=
  narrow_of_visible (by decide)

theorem narrow_edge : ∀ c ∈ edgeSpan.text.toList, Unicode.Narrow c :=
  narrow_of_visible (by decide)

theorem narrow_filler (tab : Tab) (toast : Option Toast) (width : Nat) :
    ∀ c ∈ (fillerSpan tab toast width).text.toList, Unicode.Narrow c := by
  intro c member
  rw [fillerSpan, toList_repeated_space] at member
  rw [(List.mem_replicate.mp member).right]
  exact Unicode.narrow_of_isVisible (by decide)

theorem narrow_hints : ∀ c ∈ hintSpan.text.toList, Unicode.Narrow c := by
  have known : hintSpan.text.toList.all
      (fun c => decide (c = '·' ∨ Unicode.IsVisible c)) = true := by
    decide
  intro c member
  rcases of_decide_eq_true (List.all_eq_true.mp known c member) with rfl | visible
  · exact Unicode.narrow_middleDot
  · exact Unicode.narrow_of_isVisible visible

theorem width_badge (tab : Tab) :
    Glyph.totalWidth (Glyph.ofSpan (badgeSpan tab)) = badgeRoom tab := by
  rw [Glyph.totalWidth_ofSpan_of_narrow (narrow_badge tab)]
  cases tab <;> decide

theorem width_gap : Glyph.totalWidth (Glyph.ofSpan gapSpan) = 2 :=
  Glyph.totalWidth_ofSpan_of_narrow narrow_gap

theorem width_filler (tab : Tab) (toast : Option Toast) (width : Nat) :
    Glyph.totalWidth (Glyph.ofSpan (fillerSpan tab toast width)) = filler tab toast width := by
  rw [Glyph.totalWidth_ofSpan_of_narrow (narrow_filler tab toast width), ← String.length_toList,
    fillerSpan, toList_repeated_space, List.length_replicate]

theorem width_hints : Glyph.totalWidth (Glyph.ofSpan hintSpan) = 13 :=
  Glyph.totalWidth_ofSpan_of_narrow narrow_hints

/-- The parts of the bar stand next to each other. -/
theorem glyphs_line (tab : Tab) (toast : Option Toast) {width : Nat} (wide : 0 < width) :
    (line tab toast width).glyphs width =
      Glyph.ofSpan (badgeSpan tab) ++ Glyph.ofSpan gapSpan ++ messageGlyphs tab toast width ++
        Glyph.ofSpan (fillerSpan tab toast width) ++ Glyph.ofSpan hintSpan ++
          Glyph.ofSpan edgeSpan := by
  have parts : line tab toast width = [badgeSpan tab, gapSpan, messageSpan tab toast width,
    fillerSpan tab toast width, hintSpan, edgeSpan] := rfl
  rw [parts, Line.glyphs, Glyph.ofLine]
  simp only [List.flatMap_cons, List.flatMap_nil, List.filter_append, List.append_nil]
  rw [Glyph.filter_ofSpan_of_narrow (narrow_badge tab) wide,
    Glyph.filter_ofSpan_of_narrow narrow_gap wide,
    Glyph.filter_ofSpan_of_narrow (narrow_filler tab toast width) wide,
    Glyph.filter_ofSpan_of_narrow narrow_hints wide,
    Glyph.filter_ofSpan_of_narrow narrow_edge wide]
  simp only [messageGlyphs, List.append_assoc]

/-! ## What is on screen -/

section

variable (bar : DocsConsole.StatusBar) (tab : Tab) {area : Area} (wide : 40 ≤ area.width)
  (tall : 0 < area.height)

theorem badgeRoom_le : badgeRoom tab ≤ 11 := by
  cases tab <;> decide

include wide

theorem messageRoom_large : 3 < messageRoom tab area.width := by
  have badge := badgeRoom_le tab
  have hints : hintRoom = 18 := by decide
  rw [messageRoom, hints]
  omega

theorem length_message_le :
    (messageSpan tab bar.toast area.width).text.length ≤ messageRoom tab area.width := by
  cases shown : bar.toast with
  | none => exact Nat.zero_le _
  | some toast =>
      have shortens := shortened_shortens (messageRoom_large tab wide) toast.message
      exact shortens.length_le

/-- The keys begin where the message has pushed them. -/
theorem hintColumn_eq :
    hintColumn tab bar.toast area.width + 18 +
        (messageSpan tab bar.toast area.width).text.length =
      area.width + Glyph.totalWidth (messageGlyphs tab bar.toast area.width) := by
  have length := length_message_le bar tab wide
  have badge := badgeRoom_le tab
  have hints : hintRoom = 18 := by decide
  rw [messageRoom, hints] at length
  rw [hintColumn, filler, hints]
  omega

include tall

theorem present : area.isEmpty = false := by
  simp only [Area.isEmpty, Bool.or_eq_false_iff, decide_eq_false_iff_not]
  omega

theorem shows_badge : (draw bar tab area).ShowsRow area 0 (Glyph.ofSpan (badgeSpan tab)) := by
  have badge := badgeRoom_le tab
  have parted := glyphs_line tab bar.toast (by omega : 0 < area.width)
  simp only [List.append_assoc] at parted
  have fits : 0 + Glyph.totalWidth (Glyph.ofSpan (badgeSpan tab)) ≤ area.width := by
    rw [width_badge]
    omega
  rw [← List.nil_append (Glyph.ofSpan (badgeSpan tab) ++ _), ← List.append_assoc] at parted
  exact Paragraph.draw_line_shows (present wide tall) parted fits

theorem shows_message_iff :
    (draw bar tab area).ShowsRow area (badgeRoom tab + 2)
        (Glyph.ofSpan (messageSpan tab bar.toast area.width)) ↔
      badgeRoom tab + 2 + Glyph.totalWidth (Glyph.ofSpan (messageSpan tab bar.toast area.width)) ≤
        area.width := by
  refine ⟨Drawing.ShowsRow.fits, fun fits => ?_⟩
  have whole : messageGlyphs tab bar.toast area.width =
      Glyph.ofSpan (messageSpan tab bar.toast area.width) := by
    apply List.filter_eq_self.mpr
    intro glyph member
    have within := Glyph.width_le_totalWidth member
    exact decide_eq_true (by omega)
  have start : Glyph.totalWidth (Glyph.ofSpan (badgeSpan tab) ++ Glyph.ofSpan gapSpan) =
      badgeRoom tab + 2 := by
    rw [Glyph.totalWidth_append, width_badge, width_gap]
  have parted := glyphs_line tab bar.toast (by omega : 0 < area.width)
  rw [whole, List.append_assoc _ (Glyph.ofSpan hintSpan),
    List.append_assoc _ (Glyph.ofSpan (fillerSpan tab bar.toast area.width))] at parted
  rw [← start] at fits ⊢
  exact Paragraph.draw_line_shows (present wide tall) parted fits

/-- The first keys are seen as far as the message leaves them in the bar. -/
theorem shows_keys_iff {keys : List Glyph} (first : keys <+: Glyph.ofSpan hintSpan) :
    (draw bar tab area).ShowsRow area (hintColumn tab bar.toast area.width) keys ↔
      Glyph.totalWidth (messageGlyphs tab bar.toast area.width) + Glyph.totalWidth keys ≤
        (messageSpan tab bar.toast area.width).text.length + 18 := by
  have column := hintColumn_eq bar tab wide
  constructor
  · intro shows
    have fits := shows.fits
    omega
  · intro short
    obtain ⟨others, whole⟩ := first
    have start : Glyph.totalWidth (Glyph.ofSpan (badgeSpan tab) ++ Glyph.ofSpan gapSpan ++
        messageGlyphs tab bar.toast area.width ++
        Glyph.ofSpan (fillerSpan tab bar.toast area.width)) =
          hintColumn tab bar.toast area.width := by
      simp only [Glyph.totalWidth_append, width_badge, width_gap, width_filler, hintColumn]
    have fits : hintColumn tab bar.toast area.width + Glyph.totalWidth keys ≤ area.width := by
      omega
    have parted := glyphs_line tab bar.toast (by omega : 0 < area.width)
    rw [← whole, List.append_assoc _ (keys ++ others), List.append_assoc keys,
      ← List.append_assoc _ keys] at parted
    rw [← start] at fits ⊢
    exact Paragraph.draw_line_shows (present wide tall) parted fits

theorem shows_hints_iff :
    (draw bar tab area).ShowsRow area (hintColumn tab bar.toast area.width)
        (Glyph.ofSpan hintSpan) ↔
      Glyph.totalWidth (messageGlyphs tab bar.toast area.width) ≤
        (messageSpan tab bar.toast area.width).text.length + 5 := by
  rw [shows_keys_iff bar tab wide tall List.prefix_rfl, width_hints]
  omega

/-- A notification of narrow characters hides nothing. -/
theorem shows_all_of_narrow
    (narrow : ∀ toast, bar.toast = some toast → ∀ c ∈ toast.message.toList, Unicode.Narrow c) :
    (draw bar tab area).ShowsRow area 0 (Glyph.ofSpan (badgeSpan tab)) ∧
      (draw bar tab area).ShowsRow area (badgeRoom tab + 2)
        (Glyph.ofSpan (messageSpan tab bar.toast area.width)) ∧
      (draw bar tab area).ShowsRow area (hintColumn tab bar.toast area.width)
        (Glyph.ofSpan hintSpan) := by
  have narrowMessage : ∀ c ∈ (messageSpan tab bar.toast area.width).text.toList,
      Unicode.Narrow c := by
    intro c member
    cases shown : bar.toast with
    | none =>
        rw [shown] at member
        contradiction
    | some toast =>
        have shortens := shortened_shortens (messageRoom_large tab wide) toast.message
        rw [shown] at member
        rcases shortens.mem member with kept | rfl
        · exact narrow toast shown c kept
        · exact Unicode.narrow_of_isVisible (by decide)
  have width := Glyph.totalWidth_ofSpan_of_narrow narrowMessage
  have kept := Glyph.filter_ofSpan_of_narrow narrowMessage (by omega : 0 < area.width)
  have length := length_message_le bar tab wide
  have badge := badgeRoom_le tab
  have large := messageRoom_large tab wide
  refine ⟨shows_badge bar tab wide tall, (shows_message_iff bar tab wide tall).mpr ?_,
    (shows_hints_iff bar tab wide tall).mpr ?_⟩
  · rw [width]
    rw [messageRoom] at length large
    omega
  · rw [messageGlyphs, kept, width]
    omega

end

/-- In a bar of forty columns the tab is always seen, and a notification is kept or cut to the
characters that there is room for.  It is seen if it ends in the bar, and all of the keys are seen
if it takes at most five columns more than it has characters.  Each further column hides one more
of their characters. -/
theorem hints_shown_iff (bar : DocsConsole.StatusBar) (tab : Tab) {area : Area}
    (wide : 40 ≤ area.width) (tall : 0 < area.height) :
    let message := messageSpan tab bar.toast area.width
    let taken := Glyph.totalWidth (messageGlyphs tab bar.toast area.width)
    (draw bar tab area).ShowsRow area 0 (Glyph.ofSpan (badgeSpan tab)) ∧
      (∀ toast, bar.toast = some toast →
        Shortens (messageRoom tab area.width) toast.message message.text) ∧
      ((draw bar tab area).ShowsRow area (badgeRoom tab + 2) (Glyph.ofSpan message) ↔
        badgeRoom tab + 2 + Glyph.totalWidth (Glyph.ofSpan message) ≤ area.width) ∧
      ((draw bar tab area).ShowsRow area (hintColumn tab bar.toast area.width)
          (Glyph.ofSpan hintSpan) ↔ taken ≤ message.text.length + 5) ∧
      ∀ keys, keys <+: Glyph.ofSpan hintSpan →
        ((draw bar tab area).ShowsRow area (hintColumn tab bar.toast area.width) keys ↔
          taken + Glyph.totalWidth keys ≤ message.text.length + 18) := by
  refine ⟨shows_badge bar tab wide tall, ?_, shows_message_iff bar tab wide tall,
    shows_hints_iff bar tab wide tall, fun _ => shows_keys_iff bar tab wide tall⟩
  intro toast shown
  rw [shown]
  exact shortened_shortens (messageRoom_large tab wide) toast.message

/-! ## Characters of two columns -/

theorem ofSpan_ideographs (count : Nat) (style : Style) :
    Glyph.ofSpan ⟨String.ofList (List.replicate count '漢'), style⟩ =
      List.replicate count ⟨['漢'], 2, style⟩ := by
  rw [Glyph.ofSpan_of_other]
  · rw [String.toList_ofList, List.map_replicate, Unicode.charWidth_ideograph]
  · intro c member
    rw [String.toList_ofList] at member
    rw [(List.mem_replicate.mp member).right]
    exact (Unicode.plain_of_mem '漢' (by decide)).class_eq

/-- A bar with a notification of ideographs. -/
def ideographs (count : Nat) : DocsConsole.StatusBar :=
  ⟨some ⟨.info, String.ofList (List.replicate count '漢'), ⟨0, 0, 0, by decide⟩⟩, 3⟩

/-- Five characters of two columns take just what there is to spare. -/
theorem hints_shown_iff_of_fiveIdeographs :
    let area : Area := ⟨0, 0, 40, 1⟩
    40 ≤ area.width ∧ 0 < area.height ∧
      (draw (ideographs 5) .documentation area).ShowsRow area
        (hintColumn .documentation (ideographs 5).toast 40) (Glyph.ofSpan hintSpan) := by
  intro area
  have message : messageSpan .documentation (ideographs 5).toast 40 =
      ⟨String.ofList (List.replicate 5 '漢'), toastStyle .info⟩ := by decide
  have shown := hints_shown_iff (ideographs 5) .documentation (by decide : 40 ≤ area.width)
    (by decide : 0 < area.height)
  refine ⟨by decide, by decide, shown.right.right.right.left.mpr ?_⟩
  change Glyph.totalWidth (messageGlyphs .documentation (ideographs 5).toast 40) ≤ _
  rw [messageGlyphs, message, ofSpan_ideographs]
  decide

/-- The keys but the last one. -/
def firstHintSpan : Span :=
  ⟨"q·?·1-3·Tab·", Theme.keyHint⟩

theorem narrow_firstHints : ∀ c ∈ firstHintSpan.text.toList, Unicode.Narrow c := by
  have parted : hintSpan.text.toList = firstHintSpan.text.toList ++ ['e'] := by decide
  intro c member
  apply narrow_hints c
  rw [parted]
  exact List.mem_append_left ['e'] member

theorem ofSpan_hints :
    Glyph.ofSpan hintSpan = Glyph.ofSpan firstHintSpan ++ [⟨['e'], 1, Theme.keyHint⟩] := by
  rw [Glyph.ofSpan_of_narrow narrow_hints, Glyph.ofSpan_of_narrow narrow_firstHints]
  rfl

def sixIdeographsDrawn : List Glyph :=
  Glyph.ofSpan (badgeSpan .documentation) ++ Glyph.ofSpan gapSpan ++
    messageGlyphs .documentation (ideographs 6).toast 80 ++
      Glyph.ofSpan (fillerSpan .documentation (ideographs 6).toast 80) ++
        Glyph.ofSpan firstHintSpan

theorem messageSpan_sixIdeographs : messageSpan .documentation (ideographs 6).toast 80 =
    ⟨String.ofList (List.replicate 6 '漢'), toastStyle .info⟩ := by
  decide

theorem fitting_sixIdeographs :
    Glyph.fitting 80 ((line .documentation (ideographs 6).toast 80).glyphs 80) =
      sixIdeographsDrawn := by
  have full : Glyph.totalWidth sixIdeographsDrawn = 80 := by
    have filled : filler .documentation (ideographs 6).toast 80 = 46 := by decide
    simp only [sixIdeographsDrawn, Glyph.totalWidth_append, width_badge, width_gap, width_filler,
      Glyph.totalWidth_ofSpan_of_narrow narrow_firstHints, filled]
    rw [messageGlyphs, messageSpan_sixIdeographs, ofSpan_ideographs]
    decide
  rw [glyphs_line _ _ (by decide), ofSpan_hints, ← List.append_assoc, List.append_assoc _ [_]]
  change Glyph.fitting 80 (sixIdeographsDrawn ++ _) = _
  rw [Glyph.fitting_append (Nat.le_of_eq full), full]
  exact List.append_nil _

theorem not_mem_sixIdeographsDrawn {glyph : Glyph} (member : glyph ∈ sixIdeographsDrawn) :
    'e' ∉ glyph.text := by
  intro inside
  simp only [sixIdeographsDrawn, List.mem_append] at member
  rcases member with (((badge | gap) | message) | filled) | keys
  · exact absurd (Glyph.mem_of_mem_ofSpan badge inside) (by decide)
  · exact absurd (Glyph.mem_of_mem_ofSpan gap inside) (by decide)
  · have among := Glyph.mem_of_mem_ofSpan (List.mem_filter.mp message).left inside
    rw [messageSpan_sixIdeographs] at among
    exact absurd among (by decide)
  · have among := Glyph.mem_of_mem_ofSpan filled inside
    rw [fillerSpan, toList_repeated_space] at among
    exact absurd (List.mem_replicate.mp among).right (by decide)
  · exact absurd (Glyph.mem_of_mem_ofSpan keys inside) (by decide)

/-- Six characters of two columns push the last key out of the bar. -/
theorem sixIdeographs_hide_key :
    let area : Area := ⟨0, 0, 80, 1⟩
    40 ≤ area.width ∧ 'e' ∈ hintSpan.text.toList ∧
      ∀ column < 80,
        ((draw (ideographs 6) .documentation area).cellAt column 0).symbol ≠ "e" := by
  intro area
  refine ⟨by decide, by decide, ?_⟩
  intro column _ shown
  have drawn := Paragraph.symbol_draw_line (line .documentation (ideographs 6).toast 80)
    (by decide : area.isEmpty = false) column
  change ((draw (ideographs 6) .documentation area).cellAt (0 + column) 0).symbol = " " ∨
    ∃ glyph ∈ Glyph.fitting 80 ((line .documentation (ideographs 6).toast 80).glyphs 80),
      ((draw (ideographs 6) .documentation area).cellAt (0 + column) 0).symbol = _ at drawn
  rw [Nat.zero_add, shown, fitting_sixIdeographs] at drawn
  rcases drawn with blank | ⟨glyph, member, key⟩
  · exact absurd blank (by decide)
  · apply not_mem_sixIdeographsDrawn member
    rw [← String.ofList_inj.mp key]
    exact List.mem_singleton_self 'e'

end DocsConsole.Screen.StatusBar
