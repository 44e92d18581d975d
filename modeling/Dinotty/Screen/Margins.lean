/-
This file decides when the scroll margins confine scrolling. Reverse index and the two scrolls take
both positions from the margins, so they are confined whatever the cursor is. A line feed or a wrap
below the bottom margin goes back to it and scrolls, and inserting or deleting lines outside the
margins moves the rows between the cursor and the bottom margin.
-/

import Dinotty.Foundation.Shift
import Dinotty.Screen.Shape

namespace Dinotty.Screen

open Vec List Option Vec Fallible

/-! ### Statement -/

/-- A grid with margins inside it. The cursor may be anywhere. -/
structure ScreenBuffer.Grid (buffer : ScreenBuffer) : Prop where
  sized : Sized buffer.cells buffer.cols buffer.rows
  margins : buffer.scrollTop ≤ buffer.scrollBottom
  bottom : buffer.scrollBottom < buffer.rows

def ScreenBuffer.Outside (buffer : ScreenBuffer) (row : Nat) : Prop :=
  row < buffer.scrollTop ∨ buffer.scrollBottom < row

instance (buffer : ScreenBuffer) (row : Nat) : Decidable (buffer.Outside row) :=
  inferInstanceAs (Decidable (_ ∨ _))

inductive ScrollAction where
  | lineFeed
  | verticalTab
  | formFeed
  | print (c : Char)
  | reverseIndex
  | insertLines (params : List (List UInt16))
  | deleteLines (params : List (List UInt16))
  | scrollUp (params : List (List UInt16))
  | scrollDown (params : List (List UInt16))

/-- The callback of the parser that asks for an action. -/
def ScrollAction.callback : ScrollAction → Callback
  | .lineFeed => .execute 0x0A
  | .verticalTab => .execute 0x0B
  | .formFeed => .execute 0x0C
  | .print c => .print c
  | .reverseIndex => .escDispatch [] false 0x4D
  | .insertLines params => .csiDispatch params [] false 'L'
  | .deleteLines params => .csiDispatch params [] false 'M'
  | .scrollUp params => .csiDispatch params [] false 'S'
  | .scrollDown params => .csiDispatch params [] false 'T'

def cellAt (cells : List Row) (row col : Nat) : Option Cell :=
  cells[row]?.bind fun cellLine => cellLine[col]?

/-- The cells that a print of width `w` at a column writes. -/
def PrintWrites (width : Char → Option Nat) (old : Option Cell) (w position col : Nat) : Prop :=
  w ≠ 0 ∧ col = position ∨
    w ≠ 0 ∧ col = position + 1 ∧ (w = 2 ∨ ∃ cell, old = some cell ∧ width cell.ch = some 2) ∨
    col + 1 = position ∧ (w = 0 ∨ ∃ cell, old = some cell ∧ cell.ch = nul)

/-- The rows outside the margins are the same. -/
def SameOutside (before after : ScreenBuffer) : Prop :=
  after.cells.length = before.cells.length ∧
    ∀ row, before.Outside row → after.cells[row]? = before.cells[row]?

/-- A cursor below the bottom margin has moved at most one row down, and nothing has scrolled. -/
def StaysBelow (before after : Performer) (printed : Nat → Prop) : Prop :=
  before.screen.scrollBottom < before.screen.cursor.row →
    before.screen.cursor.row ≤ after.screen.cursor.row ∧
    after.screen.cursor.row ≤ before.screen.cursor.row + 1 ∧
    (∀ row, ¬ printed row → after.screen.cells[row]? = before.screen.cells[row]?) ∧
    after.scrollback = before.scrollback

def ScrollAction.Confined (width : Char → Option Nat) (before after : Performer) :
    ScrollAction → Prop
  | .lineFeed | .verticalTab | .formFeed =>
      SameOutside before.screen after.screen ∧ StaysBelow before after fun _ => False
  | .print c =>
      let w := (width c).getD 0
      let row := after.screen.cursor.row
      let position := after.screen.cursor.col - w
      after.screen.cells.length = before.screen.cells.length ∧
        (∀ other, before.screen.Outside other → ∀ col, ¬ (other = row ∧
            PrintWrites width (cellAt before.screen.cells row position) w position col) →
          cellAt after.screen.cells other col = cellAt before.screen.cells other col) ∧
        StaysBelow before after fun other => other = row
  | .reverseIndex | .scrollUp _ | .scrollDown _ => SameOutside before.screen after.screen
  | .insertLines _ | .deleteLines _ =>
      SameOutside before.screen after.screen ∧ (before.screen.Outside before.screen.cursor.row →
          after.screen.cells = before.screen.cells)

/-- A print wraps: the row is full, or a wide glyph has only the last column left. -/
def Performer.Wraps (p : Performer) (w : Nat) : Prop :=
  p.screen.cursor.col ≥ p.screen.cols ∨ w = 2 ∧ p.screen.cursor.col + 1 ≥ p.screen.cols

/-- A line feed or a wrap does not start below the bottom margin, a combining mark has a cell on its
left, and where lines are inserted or deleted outside the margins there is nothing but blank rows
between the cursor and the bottom margin. -/
def ScrollAction.Within (width : Char → Option Nat) (p : Performer) : ScrollAction → Prop
  | .lineFeed | .verticalTab | .formFeed => p.screen.cursor.row ≤ p.screen.scrollBottom
  | .print c =>
      if (width c).getD 0 = 0 then
        p.screen.cursor.row < p.screen.rows → p.screen.cursor.col ≤ p.screen.cols
      else p.Wraps ((width c).getD 0) → p.screen.cursor.row ≤ p.screen.scrollBottom
  | .reverseIndex | .scrollUp _ | .scrollDown _ => True
  | .insertLines _ | .deleteLines _ =>
      p.screen.Outside p.screen.cursor.row → p.screen.cursor.row < p.screen.rows ∧
        ∀ row, Between p.screen.cursor.row p.screen.scrollBottom row →
          p.screen.cells[row]? = some (blankRow p.screen.cols)

/-! ### Scrolling between the margins -/

theorem between_comm {source target index : Nat} :
    Between source target index ↔ Between target source index := by
  unfold Between
  rw [Nat.min_comm, Nat.max_comm]

/-- What an action that scrolls leaves: a grid of the same size with the same margins, and the
same rows outside them. -/
structure Scrolled (before after : ScreenBuffer) : Prop where
  grid : after.Grid
  cols : after.cols = before.cols
  rows : after.rows = before.rows
  top : after.scrollTop = before.scrollTop
  bottom : after.scrollBottom = before.scrollBottom
  same : SameOutside before after

namespace Scrolled

variable {first second third : ScreenBuffer}

theorem refl (grid : first.Grid) : Scrolled first first :=
  ⟨grid, rfl, rfl, rfl, rfl, rfl, fun _ _ => rfl⟩

theorem trans (one : Scrolled first second) (two : Scrolled second third) :
    Scrolled first third := by
  refine ⟨two.grid, two.cols.trans one.cols, two.rows.trans one.rows, two.top.trans one.top,
    two.bottom.trans one.bottom, two.same.1.trans one.same.1, fun row outside => ?_⟩
  have still : second.Outside row := by
    rw [ScreenBuffer.Outside, one.top, one.bottom]
    exact outside
  exact (two.same.2 row still).trans (one.same.2 row outside)

theorem ofCursor (grid : first.Grid) (cursor : CursorState) :
    Scrolled first { first with cursor } :=
  ⟨⟨grid.sized, grid.margins, grid.bottom⟩, rfl, rfl, rfl, rfl, rfl, fun _ _ => rfl⟩

theorem ofShift (grid : first.Grid) {source target : Nat}
    (ends : source = first.scrollTop ∧ target = first.scrollBottom ∨
      source = first.scrollBottom ∧ target = first.scrollTop) :
    Scrolled first { first with cells := moveBlank first.cells source target first.cols } := by
  have margins := grid.margins
  have bottom := grid.bottom
  have count := grid.sized.1
  have sourceBound : source < first.cells.length := by omega
  have targetBound : target < first.cells.length := by omega
  refine ⟨⟨ScreenBuffer.moveBlank_sized grid.sized (by omega) target, margins, bottom⟩, rfl, rfl,
    rfl, rfl, moveBlank_length _ _ _ _ sourceBound, fun row outside => ?_⟩
  refine shift_outside sourceBound targetBound fun between => ?_
  unfold Between at between
  unfold ScreenBuffer.Outside at outside
  omega

end Scrolled

namespace Performer

variable {p : Performer}

theorem scrollUp_scrolled (grid : p.screen.Grid) :
    ∃ next, p.scrollUp = some next ∧ Scrolled p.screen next.screen ∧
      next.screen.cursor = p.screen.cursor := by
  have margins := grid.margins
  have bottom := grid.bottom
  have count := grid.sized.1
  rw [scrollUp, scrollUp_eq p.screen p.scrollback (by omega) (by omega)]
  exact ⟨_, rfl, .ofShift grid (.inl ⟨rfl, rfl⟩), rfl⟩

theorem scrollDown_scrolled (grid : p.screen.Grid) :
    ∃ next, p.scrollDown = some next ∧ Scrolled p.screen next.screen := by
  have margins := grid.margins
  have bottom := grid.bottom
  have count := grid.sized.1
  rw [scrollDown, scrollDown_eq p.screen (by omega) (by omega)]
  exact ⟨_, rfl, .ofShift grid (.inr ⟨rfl, rfl⟩)⟩

theorem lineFeed_scrolled (grid : p.screen.Grid) :
    ∃ next, p.lineFeed = some next ∧ Scrolled p.screen next.screen ∧
      next.screen.cursor.row = min (p.screen.cursor.row + 1) p.screen.scrollBottom ∧
      next.screen.cursor.col = p.screen.cursor.col := by
  unfold lineFeed
  dsimp only
  split
  next beyond =>
    have atMargin := Scrolled.ofCursor grid
      { p.screen.cursor with row := p.screen.scrollBottom }
    obtain ⟨next, done, scrolled, cursor⟩ := scrollUp_scrolled
      (p := { p with screen := { p.screen with
        cursor := { p.screen.cursor with row := p.screen.scrollBottom } } }) atMargin.grid
    refine ⟨next, done, atMargin.trans scrolled, ?_, by rw [cursor]⟩
    rw [cursor, Nat.min_eq_right (Nat.le_of_lt beyond)]
  next within =>
    refine ⟨_, rfl, .ofCursor grid _, ?_, rfl⟩
    exact (Nat.min_eq_left (Nat.le_of_not_lt within)).symm

theorem wrapIf_scrolled (grid : p.screen.Grid) (cond : Prop) [Decidable cond] :
    ∃ next, p.wrapIf cond = some next ∧ Scrolled p.screen next.screen ∧ (¬ cond → next = p) ∧
      (cond → next.screen.cursor.row = min (p.screen.cursor.row + 1) p.screen.scrollBottom) := by
  unfold wrapIf
  split
  next holds =>
    have started := Scrolled.ofCursor grid { p.screen.cursor with col := 0 }
    obtain ⟨next, done, scrolled, row, -⟩ := lineFeed_scrolled
      (p := p.mapCursor fun cursor => { cursor with col := 0 }) started.grid
    exact ⟨next, done, started.trans scrolled, fun fails => absurd holds fails, fun _ => row⟩
  next fails =>
    exact ⟨p, rfl, .refl grid, fun _ => rfl, fun holds => absurd holds fails⟩

end Performer

/-! ### Drawing -/

section Draw

variable {width : Char → Option Nat} {cols col : Nat} {cellLine next : Row}

variable {other : Nat}

theorem set_frame {i : Nat} {cell : Cell} (done : Vec.set cellLine i cell = some next)
    (away : other ≠ i) : next[other]? = cellLine[other]? := by
  obtain ⟨-, rfl⟩ := set_eq_some.mp done
  exact getElem?_set_ne (Ne.symm away)

theorem setIf_frame {cond : Prop} [Decidable cond] {i : Nat} {cell : Cell}
    (done : setIf cond cellLine i cell = some next)
    (away : cond → other ≠ i) : next[other]? = cellLine[other]? := by
  unfold setIf at done
  split at done
  next holds =>
    exact set_frame done (away holds)
  · rw [some.inj done]

theorem updateCell_total (lineWidth : cellLine.length = cols) (bound : col < cols)
    (change : Cell → Cell) :
    ∃ next, (update cellLine col fun prev => some (change prev)) = some next ∧
      next.length = cols := by
  have inRange : col < cellLine.length := by rw [lineWidth]; exact bound
  have updated : (update cellLine col fun prev => some (change prev)) = some _ :=
    update_eq_some.mpr ⟨_, _, getElem?_eq_getElem inRange, rfl, rfl⟩
  exact ⟨_, updated, by rw [update_length updated, lineWidth]⟩

theorem putGlyph_frame {c : Char} {w : Nat} {attrs : CellAttrs} (positive : w ≠ 0)
    (done : putGlyph width cols c w attrs col cellLine = some next)
    (away : ¬ PrintWrites width cellLine[col]? w col other) :
    next[other]? = cellLine[other]? := by
  unfold putGlyph at done
  obtain ⟨old, held, done⟩ := bind_eq_some_iff.mp done
  obtain ⟨cell, found, rfl⟩ := map_eq_some_iff.mp held
  obtain ⟨one, oneDone, done⟩ := bind_eq_some_iff.mp done
  obtain ⟨two, twoDone, done⟩ := bind_eq_some_iff.mp done
  obtain ⟨three, threeDone, done⟩ := bind_eq_some_iff.mp done
  unfold PrintWrites at away
  push Not at away
  obtain ⟨notHere, notRight, notLeft⟩ := away
  calc next[other]?
    _ = three[other]? := setIf_frame done fun wide right =>
        (notRight positive right).1 wide.1
    _ = two[other]? := set_frame threeDone (notHere positive)
    _ = one[other]? := setIf_frame twoDone fun wide right =>
        (notRight positive right).2 cell found wide.2.2.1
    _ = cellLine[other]? := setIf_frame oneDone fun orphan left =>
        (notLeft (by omega)).2 cell found orphan.1

end Draw

variable {row : Nat}

theorem cellAt_of_row {before after : List Row} (same : after[row]? = before[row]?) (col : Nat) :
    cellAt after row col = cellAt before row col := by
  rw [cellAt, same, cellAt]

variable {cells next : List Row}

theorem update_frame {change : Row → Option Row} (done : update cells row change = some next)
    {other : Nat} (away : other ≠ row) :
    next[other]? = cells[other]? := by
  obtain ⟨cellLine, changed, -, -, rfl⟩ := update_eq_some.mp done
  exact getElem?_set_ne (Ne.symm away)

theorem update_cells {change : Row → Option Row} (done : update cells row change = some next)
    {written : Nat → Prop}
    (changes : ∀ cellLine changed, cells[row]? = some cellLine → change cellLine = some changed →
      ∀ col, ¬ written col → changed[col]? = cellLine[col]?) {other col : Nat}
    (away : ¬ (other = row ∧ written col)) :
    cellAt next other col = cellAt cells other col := by
  by_cases here : other = row
  · obtain ⟨cellLine, changed, held, lineDone, rfl⟩ := update_eq_some.mp done
    have bound : row < cells.length := (List.getElem?_eq_some_iff.mp held).1
    subst here
    rw [cellAt, cellAt, held, getElem?_set_self bound, bind_some, bind_some]
    exact changes cellLine changed held lineDone col fun hit => away ⟨rfl, hit⟩
  · exact cellAt_of_row (update_frame done here) col

namespace Performer

variable {width : Char → Option Nat} {p : Performer}

/-- What a print leaves once it has wrapped: it changes the row of the cursor only, and there
only the cells it writes. -/
structure Drawn (width : Char → Option Nat) (w : Nat) (before after : Performer) : Prop where
  count : after.screen.cells.length = before.screen.cells.length
  row : after.screen.cursor.row = before.screen.cursor.row
  history : after.scrollback = before.scrollback
  others : ∀ other, other ≠ before.screen.cursor.row →
    after.screen.cells[other]? = before.screen.cells[other]?
  cells : ∀ other col, ¬ (other = before.screen.cursor.row ∧ PrintWrites width
        (cellAt before.screen.cells before.screen.cursor.row before.screen.cursor.col) w
        before.screen.cursor.col col) →
    cellAt after.screen.cells other col = cellAt before.screen.cells other col

variable (width : Char → Option Nat)

theorem Drawn.refl (w : Nat) (p : Performer) : Drawn width w p p :=
  ⟨rfl, rfl, rfl, fun _ _ => rfl, fun _ _ _ => rfl⟩

theorem drawGlyph_drawn (grid : p.screen.Grid) (c : Char) {w : Nat} (positive : w ≠ 0) :
    ∃ next, p.drawGlyph width c w = some next ∧ Drawn width w p next ∧
      next.screen.cursor.col = p.screen.cursor.col := by
  unfold drawGlyph
  dsimp only
  split
  next inside =>
    obtain ⟨cells, done, -⟩ := grid.sized.update inside.1 fun cellLine lineWidth =>
      putGlyph_total width c w p.screen.cursor.attrs lineWidth inside.2
    rw [mapCells, done, map_some]
    refine ⟨_, rfl, ⟨update_length done, rfl, rfl, fun other => update_frame done,
      fun other col => update_cells done fun cellLine changed held lineDone col away => ?_⟩,
      rfl⟩
    rw [cellAt, held, bind_some] at away
    exact putGlyph_frame positive lineDone away
  · exact ⟨p, rfl, .refl width w p, rfl⟩

theorem printCombining_drawn (grid : p.screen.Grid) (c : Char)
    (left : p.screen.cursor.row < p.screen.rows → p.screen.cursor.col ≤ p.screen.cols) :
    ∃ next, p.printCombining c = some next ∧ Drawn width 0 p next ∧
      next.screen.cursor.col = p.screen.cursor.col := by
  unfold printCombining
  dsimp only
  split
  next inside =>
    have bound : p.screen.cursor.col - 1 < p.screen.cols := by
      have := left inside.1
      omega
    obtain ⟨cells, done, -⟩ := grid.sized.update inside.1 fun cellLine lineWidth =>
      updateCell_total lineWidth bound fun prev =>
        if prev.ch ≠ ' ' ∧ prev.ch ≠ nul then prev.pushCombining c else prev
    rw [mapCells, done, map_some]
    refine ⟨_, rfl, ⟨update_length done, rfl, rfl, fun other => update_frame done,
      fun other col => update_cells done fun cellLine changed held lineDone col away => ?_⟩,
      rfl⟩
    obtain ⟨cell, mark, -, -, rfl⟩ := update_eq_some.mp lineDone
    refine getElem?_set_ne fun same => away (.inr (.inr ⟨?_, .inl rfl⟩))
    omega
  · exact ⟨p, rfl, .refl width 0 p, rfl⟩

end Performer

/-! ### Printing -/

namespace Performer

variable {width : Char → Option Nat} {p : Performer}

instance (p : Performer) (w : Nat) : Decidable (p.Wraps w) :=
  inferInstanceAs (Decidable (_ ∨ _))

/-- A print of a glyph wraps to the bottom margin at most, or back to it, and then draws. -/
theorem printGlyph_drawn (width : Char → Option Nat) (grid : p.screen.Grid) (c : Char) {w : Nat}
    (positive : w ≠ 0) :
    ∃ wrapped next, p.printGlyph width c w = some next ∧ Scrolled p.screen wrapped.screen ∧
      Drawn width w wrapped next ∧
      next.screen.cursor.col = wrapped.screen.cursor.col + w ∧
      (¬ p.Wraps w → wrapped = p) ∧
      (p.Wraps w → wrapped.screen.cursor.row ≤ p.screen.scrollBottom) := by
  obtain ⟨first, firstDone, firstScrolled, firstSame, firstRow⟩ :=
    wrapIf_scrolled grid (p.screen.cursor.col ≥ p.screen.cols)
  obtain ⟨second, secondDone, secondScrolled, secondSame, secondRow⟩ :=
    wrapIf_scrolled firstScrolled.grid (w = 2 ∧ first.screen.cursor.col + 1 ≥ first.screen.cols)
  obtain ⟨drawn, drawnDone, drawnFrame, drawnCol⟩ :=
    drawGlyph_drawn width secondScrolled.grid c positive
  have done : p.printGlyph width c w =
      some (drawn.mapCursor fun cursor => { cursor with col := cursor.col + w }) := by
    rw [printGlyph, firstDone, bind_eq_bind, bind_some, secondDone, bind_some, drawnDone]
    rfl
  refine ⟨second, _, done, firstScrolled.trans secondScrolled,
    ⟨drawnFrame.count, drawnFrame.row, drawnFrame.history, drawnFrame.others, drawnFrame.cells⟩,
    congrArg (· + w) drawnCol, fun fits => ?_, fun wraps => ?_⟩
  · have firstEq := firstSame fun full => fits (.inl full)
    subst firstEq
    exact secondSame fun last => fits (.inr last)
  · by_cases again : w = 2 ∧ first.screen.cursor.col + 1 ≥ first.screen.cols
    · rw [secondRow again, firstScrolled.bottom]
      exact Nat.min_le_right _ _
    · rw [secondSame again]
      by_cases full : p.screen.cursor.col ≥ p.screen.cols
      · rw [firstRow full]
        exact Nat.min_le_right _ _
      · have firstEq := firstSame full
        subst firstEq
        exact absurd (wraps.resolve_left full) again

theorem print_confined_iff (grid : p.screen.Grid) (c : Char) :
    (∃ after, p.perform width (ScrollAction.print c).callback = some after ∧
        (ScrollAction.print c).Confined width p after) ↔
      (ScrollAction.print c).Within width p := by
  show (∃ after, p.print width c = some after ∧ _) ↔ _
  unfold print ScrollAction.Confined ScrollAction.Within
  dsimp only
  by_cases combining : (width c).getD 0 = 0
  · rw [if_pos combining, if_pos combining, combining]
    constructor
    · rintro ⟨after, done, -⟩ inside
      unfold printCombining at done
      dsimp only at done
      split at done
      · obtain ⟨cells, cellsDone, -⟩ := map_eq_some_iff.mp done
        obtain ⟨cellLine, changed, held, lineDone, -⟩ := update_eq_some.mp cellsDone
        obtain ⟨cell, mark, found, -, -⟩ := update_eq_some.mp lineDone
        have bound := (List.getElem?_eq_some_iff.mp found).1
        rw [grid.sized.2 cellLine (mem_of_getElem? held)] at bound
        omega
      next outside =>
        omega
    · intro left
      obtain ⟨after, done, drawn, col⟩ := printCombining_drawn width grid c left
      refine ⟨after, done, drawn.count, fun other _ col' away => drawn.cells other col' ?_,
        fun _ => ⟨Nat.le_of_eq drawn.row.symm, by rw [drawn.row]; exact Nat.le_succ _,
          fun other away => drawn.others other ?_, drawn.history⟩⟩
      · rw [drawn.row, col] at away
        exact away
      · rw [← drawn.row]
        exact away
  · rw [if_neg combining, if_neg combining]
    obtain ⟨wrapped, next, done, scrolled, drawn, col, same, back⟩ :=
      printGlyph_drawn width grid c combining
    constructor
    · rintro ⟨after, afterDone, -, -, below⟩ wraps
      cases done.symm.trans afterDone
      refine Nat.le_of_not_lt fun beyond => ?_
      have above := (below beyond).1
      rw [drawn.row] at above
      exact absurd (Nat.lt_of_lt_of_le beyond above) (Nat.not_lt.mpr (back wraps))
    · intro within
      refine ⟨next, done, drawn.count.trans scrolled.same.1, fun other outside col' away => ?_,
        fun beyond => ?_⟩
      · have rowSame := scrolled.same.2 other outside
        rw [← cellAt_of_row rowSame]
        refine drawn.cells other col' ?_
        rintro ⟨rfl, writes⟩
        rw [drawn.row, col, Nat.add_sub_cancel] at away
        rw [cellAt_of_row rowSame] at writes
        exact away ⟨rfl, writes⟩
      · obtain rfl := same fun wraps => absurd (within wraps) (Nat.not_le.mpr beyond)
        rw [drawn.row]
        exact ⟨Nat.le_refl _, Nat.le_succ _, drawn.others, drawn.history⟩

end Performer

/-! ### Inserting and deleting lines -/

variable {bottom : Nat}

theorem insertLine_eq_shift (rowBound : row < cells.length) (bottomBound : bottom < cells.length)
    (cols : Nat) :
    insertLine row bottom cols cells = some (shift cells bottom row (blankRow cols)) := by
  have shorter : row ≤ (cells.eraseIdx bottom).length := by
    rw [length_eraseIdx, if_pos bottomBound]
    omega
  rw [insertLine, if_pos bottomBound, remove_of_lt bottomBound]
  simp only [map_some, bind_eq_bind, bind_some, insert_of_le shorter]
  rfl

theorem deleteLine_eq_shift (rowBound : row < cells.length) (bottomBound : bottom < cells.length)
    (cols : Nat) :
    deleteLine row bottom cols cells = some (shift cells row bottom (blankRow cols)) := by
  have shorter : bottom ≤ (cells.eraseIdx row).length := by
    rw [length_eraseIdx, if_pos rowBound]
    omega
  rw [deleteLine, if_pos rowBound, remove_of_lt rowBound]
  simp only [map_some, bind_eq_bind, bind_some, insert_of_le shorter]
  rfl

theorem insertLine_below (below : cells.length ≤ row) (bottomBound : bottom < cells.length)
    (cols : Nat) :
    insertLine row bottom cols cells = none := by
  have longer : ¬ row ≤ (cells.eraseIdx bottom).length := by
    rw [length_eraseIdx, if_pos bottomBound]
    omega
  rw [insertLine, if_pos bottomBound, remove_of_lt bottomBound]
  exact if_neg longer

theorem deleteLine_length {cols : Nat} (done : deleteLine row bottom cols cells = some next) :
    cells.length ≤ next.length ∧ (cells.length ≤ row → cells.length < next.length) := by
  unfold deleteLine at done
  dsimp only at done
  split at done
  next inside =>
    obtain ⟨rest, restDone, ins⟩ := bind_eq_some_iff.mp done
    obtain ⟨⟨cellLine, rest⟩, removed, rfl⟩ := map_eq_some_iff.mp restDone
    have shrunk := (remove_length removed).2
    have grown := insert_length ins
    dsimp only at grown
    omega
  · have grown := insert_length done
    omega

/-- The number of lines that a control function moves. -/
def lineCount (params : List (List UInt16)) : Nat :=
  orOne ((params.flatten.map UInt16.toNat)[0]?.getD 0)

theorem lineCount_pos (params : List (List UInt16)) : 0 < lineCount params := by
  unfold lineCount orOne
  split
  · exact Nat.one_pos
  next nonzero =>
    exact Nat.pos_of_ne_zero nonzero

section Lines

variable {p : Performer} {once : List Row → Option (List Row)} {source target count : Nat}

/-- Lines that move are confined exactly when the cursor is inside the margins or only blank rows
stand between it and the bottom margin. -/
def LinesConfined (p : Performer) (once : List Row → Option (List Row)) (count : Nat) : Prop :=
  (∃ after, p.mapCells (repeatTimes once count) = some after ∧ SameOutside p.screen after.screen ∧
      (p.screen.Outside p.screen.cursor.row → after.screen.cells = p.screen.cells)) ↔
    (p.screen.Outside p.screen.cursor.row → p.screen.cursor.row < p.screen.rows ∧
      ∀ row, Between p.screen.cursor.row p.screen.scrollBottom row →
        p.screen.cells[row]? = some (blankRow p.screen.cols))

theorem lines_confined_iff (grid : p.screen.Grid) (bound : p.screen.cursor.row < p.screen.rows)
    (ends : source = p.screen.cursor.row ∧ target = p.screen.scrollBottom ∨
      source = p.screen.scrollBottom ∧ target = p.screen.cursor.row)
    (steps : ∀ cells : List Row, cells.length = p.screen.rows →
      once cells = some (shift cells source target (blankRow p.screen.cols)))
    (positive : 0 < count) : LinesConfined p once count := by
  have bottom := grid.bottom
  have size := grid.sized.1
  have sourceBound : source < p.screen.cells.length := by omega
  have targetBound : target < p.screen.cells.length := by omega
  have between (row : Nat) : Between source target row ↔
      Between p.screen.cursor.row p.screen.scrollBottom row := by
    rcases ends with ⟨rfl, rfl⟩ | ⟨rfl, rfl⟩
    · exact Iff.rfl
    · exact between_comm
  have repeated := repeatTimes_eq_iterate (fun cells : List Row => cells.length = p.screen.rows)
    (fun cells cellCount => ⟨steps cells cellCount,
      (shift_length (by rw [cellCount, ← size]; exact sourceBound)).trans cellCount⟩) count size
  have unchanged : (shift · source target (blankRow p.screen.cols))^[count] p.screen.cells =
      p.screen.cells ↔ ∀ i, Between source target i →
        p.screen.cells[i]? = some (blankRow p.screen.cols) :=
    iterate_shift_eq_self_iff sourceBound targetBound positive
  rw [LinesConfined, Performer.mapCells, repeated, map_some]
  constructor
  · rintro ⟨after, done, -, still⟩ outside
    cases done
    exact ⟨bound, fun row inside => unchanged.mp (still outside) row ((between row).mpr inside)⟩
  · intro blank
    by_cases outside : p.screen.Outside p.screen.cursor.row
    · have same := unchanged.mpr fun row inside =>
        (blank outside).2 row ((between row).mp inside)
      exact ⟨_, rfl, ⟨congrArg List.length same, fun row _ => congrArg (·[row]?) same⟩,
        fun _ => same⟩
    · refine ⟨_, rfl, ⟨iterate_shift_length sourceBound count, fun row rowOutside => ?_⟩,
        fun inside => absurd inside outside⟩
      refine iterate_shift_outside sourceBound targetBound count fun inside => ?_
      have inside := (between row).mp inside
      unfold Between at inside
      unfold ScreenBuffer.Outside at outside rowOutside
      omega

theorem insertLines_confined_iff (grid : p.screen.Grid) (positive : 0 < count) :
    LinesConfined p (insertLine p.screen.cursor.row p.screen.scrollBottom p.screen.cols) count := by
  have bottom := grid.bottom
  have size := grid.sized.1
  by_cases bound : p.screen.cursor.row < p.screen.rows
  · exact lines_confined_iff grid bound (.inr ⟨rfl, rfl⟩)
      (fun cells cellCount => insertLine_eq_shift (by omega) (by omega) _) positive
  · refine iff_of_false ?_ fun within => bound (within (.inr (by omega))).1
    rintro ⟨after, done, -⟩
    obtain ⟨more, rfl⟩ : ∃ more, count = more + 1 := ⟨count - 1, by omega⟩
    rw [Performer.mapCells, repeatTimes_succ, insertLine_below (by omega) (by omega)] at done
    exact absurd done (by simp)

theorem deleteLines_confined_iff (grid : p.screen.Grid) (positive : 0 < count) :
    LinesConfined p (deleteLine p.screen.cursor.row p.screen.scrollBottom p.screen.cols) count := by
  have bottom := grid.bottom
  have size := grid.sized.1
  by_cases bound : p.screen.cursor.row < p.screen.rows
  · exact lines_confined_iff grid bound (.inl ⟨rfl, rfl⟩)
      (fun cells cellCount => deleteLine_eq_shift (by omega) (by omega) _) positive
  · refine iff_of_false ?_ fun within => bound (within (.inr (by omega))).1
    rintro ⟨after, done, same, -⟩
    obtain ⟨cells, cellsDone, rfl⟩ := map_eq_some_iff.mp done
    obtain ⟨more, rfl⟩ : ∃ more, count = more + 1 := ⟨count - 1, by omega⟩
    obtain ⟨first, firstDone, later⟩ := bind_eq_some_iff.mp cellsDone
    have grown := (deleteLine_length firstDone).2 (by omega)
    -- the first round grows the grid, and no later round takes it back
    have longer : p.screen.cells.length < cells.length :=
      repeatTimes_invariant
        (fun (rest : List Row) next (held : p.screen.cells.length < rest.length) done =>
          Nat.lt_of_lt_of_le held (deleteLine_length done).1) grown later
    exact absurd same.1 (Nat.ne_of_gt longer)

end Lines

/-! ### Every action -/

variable {width : Char → Option Nat}

variable {p : Performer}

theorem Scrolled.repeat {once : Performer → Option Performer} (grid : p.screen.Grid)
    (steps : ∀ q : Performer, q.screen.Grid →
      ∃ next, once q = some next ∧ Scrolled q.screen next.screen) (count : Nat) :
    ∃ after, repeatTimes once count p = some after ∧ Scrolled p.screen after.screen :=
  repeatTimes_total (fun q : Performer => Scrolled p.screen q.screen)
    (fun q scrolled => by
      obtain ⟨next, done, once⟩ := steps q scrolled.grid
      exact ⟨next, done, scrolled.trans once⟩) count (.refl grid)

theorem reverseIndex_scrolled (grid : p.screen.Grid) :
    ∃ after, p.reverseIndex = some after ∧ Scrolled p.screen after.screen := by
  unfold Performer.reverseIndex
  split
  · exact Performer.scrollDown_scrolled grid
  · split
    · exact ⟨_, rfl, .ofCursor grid _⟩
    · exact ⟨p, rfl, .refl grid⟩

theorem lineFeed_confined_iff (grid : p.screen.Grid) :
    (∃ after, p.lineFeed = some after ∧ SameOutside p.screen after.screen ∧
        StaysBelow p after fun _ => False) ↔
      p.screen.cursor.row ≤ p.screen.scrollBottom := by
  obtain ⟨next, done, scrolled, row, -⟩ := Performer.lineFeed_scrolled grid
  constructor
  · rintro ⟨after, afterDone, -, below⟩
    cases done.symm.trans afterDone
    refine Nat.le_of_not_lt fun beyond => ?_
    have above := (below beyond).1
    omega
  · intro within
    exact ⟨next, done, scrolled.same, fun beyond => absurd within (Nat.not_le.mpr beyond)⟩

/-- An action that scrolls is confined by the margins exactly when it meets the condition. -/
theorem scrollAction_confined_iff {p : Performer} (grid : p.screen.Grid) (action : ScrollAction) :
    (∃ after, p.perform width action.callback = some after ∧ action.Confined width p after) ↔
      action.Within width p := by
  cases action with
  | lineFeed | verticalTab | formFeed => exact lineFeed_confined_iff grid
  | print c => exact Performer.print_confined_iff grid c
  | reverseIndex =>
    obtain ⟨after, done, scrolled⟩ := reverseIndex_scrolled grid
    exact iff_of_true ⟨after, done, scrolled.same⟩ trivial
  | insertLines params => exact insertLines_confined_iff grid (lineCount_pos params)
  | deleteLines params => exact deleteLines_confined_iff grid (lineCount_pos params)
  | scrollUp params =>
    obtain ⟨after, done, scrolled⟩ := Scrolled.repeat grid
      (fun q qGrid => by
        obtain ⟨next, done, scrolled, -⟩ := Performer.scrollUp_scrolled qGrid
        exact ⟨next, done, scrolled⟩) (lineCount params)
    exact iff_of_true ⟨after, done, scrolled.same⟩ trivial
  | scrollDown params =>
    obtain ⟨after, done, scrolled⟩ := Scrolled.repeat grid
      (fun q qGrid => Performer.scrollDown_scrolled qGrid) (lineCount params)
    exact iff_of_true ⟨after, done, scrolled.same⟩ trivial

/-- A screen of four rows whose margins leave out the last two, with the cursor in the last row and
text in the second and the third. -/
def statusLine : Performer where
  screen :=
    { cells := [blankRow 1, [{ ch := 'a' }], [{ ch := 'b' }], blankRow 1]
      cursor := { row := 3 }
      scrollTop := 0
      scrollBottom := 1
      cols := 1
      rows := 4 }
  scrollback := []
  savedCursor := none
  pendingSwitch := none
  usingAlternate := true
  commandState := .idle
  pendingCommand := none
  commandResults := []
  syncEvents := []
  oscActions := []
  privateModes := {}

theorem statusLine_grid : statusLine.screen.Grid :=
  ⟨⟨rfl, by decide⟩, by decide, by decide⟩

theorem scrollAction_confined_iff_statusLine :
    (∃ after, statusLine.perform smallWidth (ScrollAction.scrollUp [[3]]).callback = some after ∧
        (ScrollAction.scrollUp [[3]]).Confined smallWidth statusLine after) ↔
      (ScrollAction.scrollUp [[3]]).Within smallWidth statusLine :=
  scrollAction_confined_iff statusLine_grid (.scrollUp [[3]])

/-- A line feed on the status line goes back to the bottom margin and scrolls, and inserting a line
there removes the row at the bottom margin. -/
theorem statusLine_not_confined :
    (∀ after, statusLine.perform smallWidth ScrollAction.lineFeed.callback = some after →
      ¬ ScrollAction.lineFeed.Confined smallWidth statusLine after) ∧
    (∀ after, statusLine.perform smallWidth (ScrollAction.insertLines []).callback = some after →
      ¬ (ScrollAction.insertLines []).Confined smallWidth statusLine after) := by
  refine ⟨fun after done confined => ?_, fun after done confined => ?_⟩
  · have row : (statusLine.perform smallWidth ScrollAction.lineFeed.callback).map
        (·.screen.cursor.row) = some 1 := by decide +kernel
    rw [done, map_some, Option.some.injEq] at row
    have above := (confined.2 (by decide)).1
    rw [row] at above
    exact absurd above (by decide)
  · have cells : (statusLine.perform smallWidth (ScrollAction.insertLines []).callback).map
        (·.screen.cells[2]?) = some (some (blankRow 1)) := by decide +kernel
    rw [done, map_some, confined.2 (by decide), Option.some.injEq] at cells
    exact absurd cells (by decide)

end Dinotty.Screen
