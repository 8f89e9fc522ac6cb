import DocsConsole.Proofs.Markdown.Resolved

/-!
# The blocks that are made of lines

Lines of text are cut into pieces, none of which is a rule.  Paragraphs, headings and tables are
made of such lines, and may stand wherever blocks may.
-/

namespace DocsConsole.Markdown

def Draft.isLinePiece : Draft → Bool
  | .piece _ _ body => body != .settled .rule
  | .block _ _ _ _ _ => false

theorem Draft.isLinePiece_withStop {draft : Draft} (stop : Nat)
    (piece : draft.isLinePiece = true) : (draft.withStop stop).isLinePiece = true := by
  cases draft with
  | piece => exact piece
  | block => cases piece

theorem Draft.addText_isLinePiece {pieces : List Draft} (start stop : Nat)
    (all : ∀ draft ∈ pieces, draft.isLinePiece = true) :
    ∀ draft ∈ addText pieces start stop, draft.isLinePiece = true := by
  unfold addText
  split
  case isTrue => exact List.forall_mem_cons.mpr ⟨rfl, all⟩
  case isFalse => exact all

theorem Draft.fits_of_isLinePiece {draft : Draft} (s : Source) (known : List String → Prop)
    (piece : draft.isLinePiece = true) : draft.Fits s known .line := by
  cases draft with
  | piece start stop body => exact (stable_fits rfl).piece (bne_iff_ne.mp piece)
  | block => cases piece

/-- A line is cut into pieces, and so is the line break after it. -/
structure LinePieces.OfPieces (line : LinePieces) : Prop where
  pieces : ∀ draft ∈ line.pieces, draft.isLinePiece = true
  ending : ∀ {draft : Draft}, line.ending = some (.piece draft) → draft.isLinePiece = true

namespace Source

theorem delimiterPieces_isLinePiece (mark : Char) (opens closes : Bool) (start left : Nat) :
    ∀ draft ∈ delimiterPieces mark opens closes start left, draft.isLinePiece = true := by
  fun_induction delimiterPieces mark opens closes start left with
  | case1 => exact nofun
  | case2 start left induction => exact List.forall_mem_cons.mpr ⟨rfl, induction⟩

theorem lineFrom_ofPieces (s : Source) (containers : List Container) (mode : BarMode)
    (start text bars lastBar : Nat) (pieces : List Draft) (i : Nat)
    (all : ∀ draft ∈ pieces, draft.isLinePiece = true) :
    (s.lineFrom containers mode start text bars lastBar pieces i).OfPieces := by
  fun_induction lineFrom s containers mode start text bars lastBar pieces i
  case case3 => exact ⟨all, nofun⟩
  -- The line ends here.
  case case1 | case2 | case23 | case26 => exact ⟨Draft.addText_isLinePiece _ _ all, nofun⟩
  case case4 | case5 | case6 =>
    refine ⟨Draft.addText_isLinePiece _ _ all, ?_⟩
    rintro _ ⟨⟩
    rfl
  case case9 induction => exact induction (Draft.addText_isLinePiece _ _ all)
  case case11 induction =>
    refine induction ?_
    intro draft member
    rcases List.mem_append.mp member with mark | earlier
    · exact delimiterPieces_isLinePiece _ _ _ _ _ draft (List.mem_reverse.mp mark)
    · exact Draft.addText_isLinePiece _ _ all draft earlier
  -- One more piece is cut off.
  case case7 induction | case14 induction | case16 induction | case17 induction |
      case18 induction | case19 induction | case20 induction =>
    exact induction (List.forall_mem_cons.mpr ⟨rfl, Draft.addText_isLinePiece _ _ all⟩)
  -- The text that is being read goes on.
  case case8 induction | case10 induction | case12 induction | case13 induction |
      case15 induction | case21 induction | case22 induction | case24 induction |
      case25 induction =>
    exact induction all

theorem line_ofPieces (s : Source) (containers : List Container) (mode : BarMode) (i : Nat) :
    (s.line containers mode i).OfPieces :=
  s.lineFrom_ofPieces containers mode i i 0 i [] i nofun

variable {known : List String → Prop}

theorem lines_fit (s : Source) {slot : Slot} {tag : Tag} (admitted : slot.admits tag = true)
    (ofLines : slot.inside tag = .line) (start stop : Nat) (pieces : List Draft)
    (all : ∀ draft ∈ pieces, draft.isLinePiece = true) :
    (Draft.block start stop tag none pieces.reverse).Fits s known slot := by
  refine .block admitted ?_
  rw [ofLines]
  exact fun draft member => Draft.fits_of_isLinePiece s known (all draft (List.mem_reverse.mp member))

theorem heading_fits (s : Source) (level : Fin 6) (i : Nat) :
    (s.heading level i).1.Fits s known .document := by
  unfold heading
  have pieces := (s.line_ofPieces [] .text (s.skipBlanks (i + level.val + 1))).pieces
  simp only
  split
  case h_1 => exact lines_fit s rfl rfl _ _ [] (List.forall_mem_nil _)
  case h_2 =>
    refine lines_fit s rfl rfl _ _ _ ?_
    unfold endingAt
    split
    case h_1 => exact List.forall_mem_nil _
    case h_2 last earlier same =>
      rw [same] at pieces
      obtain ⟨first, others⟩ := List.forall_mem_cons.mp pieces
      exact List.forall_mem_cons.mpr ⟨Draft.isLinePiece_withStop _ first, others⟩

theorem cellsFrom_fits (s : Source) (fuel : Nat) (cells : List Draft) (i : Nat)
    (fit : ∀ cell ∈ cells, cell.Fits s known .row) :
    ∀ cell ∈ (s.cellsFrom fuel cells i).1, cell.Fits s known .row := by
  fun_induction cellsFrom s fuel cells i with
  | case1 => exact fit
  | case2 => exact fit
  | case3 cells i fuel start content inside line blanks pieces induction =>
      have cut := (s.line_ofPieces [] .cell content).pieces
      refine induction (List.forall_mem_cons.mpr ⟨?_, fit⟩)
      refine lines_fit s rfl rfl _ _ _ ?_
      unfold pieces
      split
      case h_1 => exact List.forall_mem_nil _
      case h_2 last earlier same =>
        change (s.line [] .cell content).pieces = _ at same
        rw [same] at cut
        obtain ⟨first, others⟩ := List.forall_mem_cons.mp cut
        exact List.forall_mem_cons.mpr ⟨Draft.isLinePiece_withStop _ first, others⟩

theorem tableRow_fits (s : Source) {tag : Tag} (isRow : Slot.table.admits tag = true)
    (columns i : Nat) : (s.tableRow tag columns i).1.Fits s known .table := by
  have cells :=
    cellsFrom_fits s (s.limit + 1) [] i (List.forall_mem_nil (Draft.Fits s known .row))
  unfold tableRow
  refine .block isRow ?_
  rw [Slot.inside_of_table .table isRow]
  intro cell member
  rcases List.mem_append.mp member with written | filled
  · exact cells cell (List.mem_reverse.mp (List.mem_of_mem_take written))
  · rw [List.eq_of_mem_replicate filled]
    exact lines_fit s rfl rfl _ _ [] (List.forall_mem_nil _)

theorem rowsFrom_fits (s : Source) (containers : List Container) (columns fuel : Nat)
    (rows : List Draft) (i : Nat) (fit : ∀ row ∈ rows, row.Fits s known .table) :
    ∀ row ∈ (s.rowsFrom containers columns fuel rows i).1, row.Fits s known .table := by
  fun_induction rowsFrom s containers columns fuel rows i with
  | case1 => exact fit
  | case2 => exact fit
  | case3 fuel rows i inside margin passed start goesOn row next read induction =>
      have isRow : (s.tableRow .tableRow columns start).1.Fits s known .table :=
        s.tableRow_fits rfl columns start
      rw [read] at isRow
      exact induction (List.forall_mem_cons.mpr ⟨isRow, fit⟩)

theorem table_fits (s : Source) (containers : List Container) (columns : List Alignment)
    (head body : Nat) : (s.table containers columns head body).1.Fits s known .document := by
  have rows := rowsFrom_fits s containers columns.length (s.limit + 1) [] body
    (List.forall_mem_nil (Draft.Fits s known .table))
  unfold table
  refine .block rfl (List.forall_mem_cons.mpr ⟨tableRow_fits s rfl _ _, ?_⟩)
  exact fun row member => rows row (List.mem_reverse.mp member)

theorem withLiteralSlash_isLinePiece (s : Source) (ending : Option LineBreak) {pieces : List Draft}
    (all : ∀ draft ∈ pieces, draft.isLinePiece = true) :
    ∀ draft ∈ s.withLiteralSlash ending pieces, draft.isLinePiece = true := by
  unfold withLiteralSlash
  split
  case h_1 =>
    split
    case isTrue => exact List.forall_mem_cons.mpr ⟨rfl, all⟩
    case isFalse => exact all
  case h_2 => exact all

theorem paragraphFrom_fits (s : Source) (containers : List Container) (start fuel : Nat)
    (pieces : List Draft) (i : Nat) (earlier : ∀ draft ∈ pieces, draft.isLinePiece = true) :
    (s.paragraphFrom containers start fuel pieces i).1.Fits s known .document := by
  have added : ∀ (mode : BarMode) (i : Nat) (pieces : List Draft),
      (∀ draft ∈ pieces, draft.isLinePiece = true) →
      ∀ draft ∈ (s.line containers mode i).pieces ++ pieces, draft.isLinePiece = true := by
    intro mode i pieces earlier draft member
    rcases List.mem_append.mp member with new | old
    · exact (s.line_ofPieces containers mode i).pieces draft new
    · exact earlier draft old
  fun_induction paragraphFrom s containers start fuel pieces i
  case case1 => exact lines_fit s rfl rfl _ _ _ earlier
  case case2 => exact table_fits s containers _ _ _
  -- The last line is read.
  case case3 | case4 | case5 =>
    exact lines_fit s rfl rfl _ _ _ (withLiteralSlash_isLinePiece s _ (added _ _ _ earlier))
  case case6 broken induction =>
    refine induction ?_
    unfold broken
    split
    case h_1 draft same =>
      exact List.forall_mem_cons.mpr
        ⟨(s.line_ofPieces containers _ _).ending same, added _ _ _ earlier⟩
    case h_2 => exact added _ _ _ earlier

theorem paragraph_fits (s : Source) (containers : List Container) (i : Nat) :
    (s.paragraph containers i).1.Fits s known .document :=
  s.paragraphFrom_fits containers i (s.limit + 1) [] i nofun

end Source

end DocsConsole.Markdown
