/-
This file is the resize of the primary screen to another number of rows. No text is lost, unless a
row that is trimmed below the cursor has combining marks on its blanks.
-/

import Dinotty.Screen.Shape

namespace Dinotty.Screen

open List Option ScreenBuffer

/-! ### Empty rows -/

theorem CellAttrs.eq_default_of_hasAttrs {attrs : CellAttrs} (plain : attrs.hasAttrs = false) :
    attrs = {} := by
  rcases attrs with ⟨fg, bg, bold, dim, italic, underline, inverse, strikethrough⟩
  simp only [hasAttrs, Bool.or_eq_false_iff, isSome_eq_false_iff, isNone_iff_eq_none] at plain
  obtain ⟨⟨⟨⟨⟨⟨⟨rfl, rfl⟩, rfl⟩, rfl⟩, rfl⟩, rfl⟩, rfl⟩, rfl⟩ := plain
  rfl

/-- A row without characters and with default attributes. -/
def EmptyRow (line : Row) : Prop :=
  ∀ cell ∈ line, (cell.ch = ' ' ∨ cell.ch = nul) ∧ cell.combining = [] ∧ cell.attrs = {}

theorem emptyRow_blankRow (cols : Nat) : EmptyRow (blankRow cols) := by
  intro cell mem
  rw [eq_of_mem_replicate mem]
  exact ⟨Or.inl rfl, rfl, rfl⟩

theorem EmptyRow.of_isBlank {line : Row} (blank : line.all Cell.isBlank = true)
    (bare : ∀ cell ∈ line, cell.combining = []) : EmptyRow line := by
  intro cell mem
  have isBlank := all_eq_true.mp blank cell mem
  rw [Cell.isBlank, Bool.and_eq_true, Bool.or_eq_true, decide_eq_true_eq, decide_eq_true_eq,
    Bool.not_eq_true'] at isBlank
  exact ⟨isBlank.1, bare cell mem, CellAttrs.eq_default_of_hasAttrs isBlank.2⟩

/-! ### The rows that a resize trims -/

def lastRows (cells : List Row) (count : Nat) : List Row := cells.drop (cells.length - count)

theorem lt_length_trimBlankRows {cursorRow : Nat} {cells : List Row} (excess : Nat)
    (inside : cursorRow < cells.length) :
    cursorRow < (trimBlankRows cursorRow excess cells).1.length := by
  induction excess generalizing cells with
  | zero => exact inside
  | succ excess ih =>
    unfold trimBlankRows
    split
    next trim =>
      refine ih ?_
      rw [length_dropLast]
      omega
    · exact inside

theorem le_trimmed {cursorRow excess : Nat} (cells : List Row) (count : Nat) (few : count ≤ excess)
    (below : cursorRow + count < cells.length)
    (blank : ∀ line ∈ lastRows cells count, line.all Cell.isBlank = true) :
    count + (trimBlankRows cursorRow excess cells).2 ≤ excess := by
  induction excess generalizing cells count with
  | zero => exact few
  | succ excess ih =>
    cases count with
    | zero =>
      obtain ⟨trimmed, bound, equal, -⟩ := trimBlankRows_eq cursorRow (excess + 1) cells
      rw [equal]
      omega
    | succ count =>
      have nonempty : cells ≠ [] := ne_nil_of_length_pos (by omega)
      have last : cells.getLast? = some (cells.getLast nonempty) :=
        getLast?_eq_getLast_of_ne_nil nonempty
      have isLast : cells.getLast nonempty ∈ lastRows cells (count + 1) := by
        refine mem_of_getLast? ?_
        rw [lastRows, getLast?_drop, if_neg (by omega)]
        exact last
      unfold trimBlankRows
      rw [if_pos ⟨by omega, by rw [last]; exact blank _ isLast⟩]
      have shorter : cells.dropLast.length = cells.length - 1 := length_dropLast
      have rest := ih cells.dropLast count (by omega) (by omega)
        fun line mem => blank line ?_
      · omega
      · rw [lastRows, shorter, dropLast_eq_take, drop_take] at mem
        rw [lastRows, Nat.add_comm, Nat.sub_add_eq]
        exact mem_of_mem_take mem

theorem foldl_pushScrollback (lines : List Row) (bounded : history.length ≤ scrollbackLimit) :
    lines.foldl pushScrollback history =
      (history ++ lines).drop (history.length + lines.length - scrollbackLimit) := by
  induction lines generalizing history with
  | nil =>
    rw [append_nil, length_nil, Nat.add_zero, Nat.sub_eq_zero_of_le bounded]
    rfl
  | cons line rest ih =>
    have length : (history ++ [line]).length = history.length + 1 := by simp
    rw [foldl_cons, length_cons, append_cons]
    by_cases ended : (history ++ [line]).length > scrollbackLimit
    · have pushed : pushScrollback history line = (history ++ [line]).drop 1 := if_pos ended
      have shift : 1 + (history.length + 1 - 1 + rest.length - scrollbackLimit) =
          history.length + (rest.length + 1) - scrollbackLimit := by omega
      rw [pushed, ih (by rw [length_drop]; omega), length_drop, length,
        ← drop_append_of_le_length (by omega), drop_drop, shift]
    · have pushed : pushScrollback history line = history ++ [line] := if_neg ended
      rw [pushed, ih (by omega), length, Nat.add_assoc, Nat.add_comm 1]

/-! ### Resizing -/

/-- Rows go from the top into the history, and empty rows below the cursor come or go at the bottom.
The cursor stays on its row, or on the top row. -/
def Conserves (buffer next : ScreenBuffer) (history later : List Row) : Prop :=
  ∃ top staying removed added : List Row,
    buffer.cells = top ++ staying ++ removed ∧ next.cells = staying ++ added ∧
    later = (history ++ top).drop (history.length + top.length - scrollbackLimit) ∧
    (∀ line ∈ removed ++ added, EmptyRow line) ∧
    buffer.cursor.row + removed.length < buffer.cells.length ∧
    next.cursor.row + added.length < next.cells.length ∧
    next.cursor.row = buffer.cursor.row - top.length

/-- Rows below the cursor that look blank and do not fit have no combining marks. -/
def Markless (buffer : ScreenBuffer) (rows : Nat) : Prop :=
  ∀ count ≤ buffer.cells.length - rows, buffer.cursor.row + count < buffer.cells.length →
    (∀ line ∈ lastRows buffer.cells count, line.all Cell.isBlank = true) →
    ∀ line ∈ lastRows buffer.cells count, ∀ cell ∈ line, cell.combining = []

variable {buffer : ScreenBuffer} {cols oldRows rows : Nat} {history : List Row}

section

variable (sized : Sized buffer.cells cols oldRows)
include sized

theorem resize_fewer (cursor : buffer.cursor.row < oldRows) (positive : 1 ≤ rows)
    (fewer : rows < oldRows) (bounded : history.length ≤ scrollbackLimit) :
    ∃ next later trimmed, buffer.resize cols rows (some history) = some (next, some later) ∧
      trimmed ≤ oldRows - rows ∧ buffer.cursor.row + trimmed < oldRows ∧
      (∀ line ∈ lastRows buffer.cells trimmed, line.all Cell.isBlank = true) ∧
      (∀ count ≤ oldRows - rows, buffer.cursor.row + count < oldRows →
        (∀ line ∈ lastRows buffer.cells count, line.all Cell.isBlank = true) → count ≤ trimmed) ∧
      next.cells = (buffer.cells.take (oldRows - trimmed)).drop (oldRows - rows - trimmed) ∧
      later = (history ++ buffer.cells.take (oldRows - rows - trimmed)).drop
        (history.length + (oldRows - rows - trimmed) - scrollbackLimit) ∧
      next.cursor.row = buffer.cursor.row - (oldRows - rows - trimmed) := by
  obtain ⟨trimmed, bound, equal, blank⟩ :=
    trimBlankRows_eq buffer.cursor.row (oldRows - rows) buffer.cells
  have below := lt_length_trimBlankRows (oldRows - rows) (sized.1.symm ▸ cursor)
  have most : ∀ count, count ≤ oldRows - rows → buffer.cursor.row + count < buffer.cells.length →
      (∀ line ∈ lastRows buffer.cells count, line.all Cell.isBlank = true) →
      count + (trimBlankRows buffer.cursor.row (oldRows - rows) buffer.cells).2 ≤ oldRows - rows :=
    le_trimmed buffer.cells
  rw [equal] at below most
  rw [sized.1] at blank below most equal
  rw [length_take, sized.1] at below
  have popped := popTopRows_eq (oldRows - rows - trimmed)
    (buffer.cells.take (oldRows - trimmed)) (some history) buffer.cursor.row
    (by rw [length_take, sized.1]; omega)
  have taken : (buffer.cells.take (oldRows - trimmed)).take (oldRows - rows - trimmed) =
      buffer.cells.take (oldRows - rows - trimmed) := by
    rw [take_take, Nat.min_eq_left (by omega)]
  rw [taken, map_some, foldl_pushScrollback _ bounded, length_take, sized.1,
    Nat.min_eq_left (by omega : oldRows - rows - trimmed ≤ oldRows)] at popped
  have resized : buffer.resizeRows cols rows (some history) =
      Fallible.repeatTimes popTopRow (oldRows - rows - trimmed)
        (buffer.cells.take (oldRows - trimmed), some history, buffer.cursor.row) := by
    unfold resizeRows
    dsimp only
    rw [sized.1, if_pos fewer, equal]
  rw [popped] at resized
  unfold resize
  rw [resized, sized.firstWidth (Nat.lt_of_le_of_lt (Nat.zero_le _) cursor)]
  refine ⟨_, _, trimmed, rfl, bound, by omega, by rwa [lastRows, sized.1],
    fun count few inside isBlank => ?_, ?_, rfl, ?_⟩
  · have most := most count few inside isBlank
    omega
  · dsimp only
    rw [resizeCols, if_neg (not_not.mpr rfl)]
  · dsimp only
    rw [if_neg (by omega)]

theorem resize_more (cursor : buffer.cursor.row < oldRows) (more : oldRows ≤ rows) :
    ∃ next, buffer.resize cols rows (some history) = some (next, some history) ∧
      next.cells = buffer.cells ++ replicate (rows - oldRows) (blankRow cols) ∧
      next.cursor.row = buffer.cursor.row := by
  have resized : buffer.resizeRows cols rows (some history) =
      some (buffer.cells ++ replicate (rows - oldRows) (blankRow cols), some history,
        buffer.cursor.row) := by
    unfold resizeRows
    dsimp only
    rw [sized.1, if_neg (Nat.not_lt.mpr more)]
    split_ifs with grows
    · rw [Vec.resize, sized.1, take_of_length_le (Nat.le_trans (Nat.le_of_eq sized.1) more)]
    · rw [Nat.sub_eq_zero_of_le (Nat.not_lt.mp grows), replicate_zero, append_nil]
  unfold resize
  rw [resized, sized.firstWidth (Nat.lt_of_le_of_lt (Nat.zero_le _) cursor)]
  refine ⟨_, rfl, ?_, ?_⟩
  · dsimp only
    rw [resizeCols, if_neg (not_not.mpr rfl)]
  · dsimp only
    rw [if_neg (by omega)]

theorem conserves_of_markless {next : ScreenBuffer} {trimmed : Nat} (positive : 1 ≤ rows)
    (fewer : rows < oldRows) (bound : trimmed ≤ oldRows - rows)
    (below : buffer.cursor.row + trimmed < oldRows)
    (blank : ∀ line ∈ lastRows buffer.cells trimmed, line.all Cell.isBlank = true)
    (cells : next.cells = (buffer.cells.take (oldRows - trimmed)).drop (oldRows - rows - trimmed))
    (row : next.cursor.row = buffer.cursor.row - (oldRows - rows - trimmed))
    (markless : Markless buffer rows) :
    Conserves buffer next history ((history ++ buffer.cells.take (oldRows - rows - trimmed)).drop
        (history.length + (oldRows - rows - trimmed) - scrollbackLimit)) := by
  have moved : (buffer.cells.take (oldRows - rows - trimmed)).length =
      oldRows - rows - trimmed := by
    rw [length_take, sized.1, Nat.min_eq_left (by omega)]
  have front : (buffer.cells.take (oldRows - trimmed)).take (oldRows - rows - trimmed) =
      buffer.cells.take (oldRows - rows - trimmed) := by
    rw [take_take, Nat.min_eq_left (by omega)]
  have lost : (lastRows buffer.cells trimmed).length = trimmed := by
    rw [lastRows, length_drop, sized.1]
    omega
  refine ⟨buffer.cells.take (oldRows - rows - trimmed), next.cells,
    lastRows buffer.cells trimmed, [], ?_, (append_nil _).symm, by rw [moved],
    fun line mem => ?_, by rw [lost, sized.1]; exact below, ?_, by rw [moved, row]⟩
  · rw [cells, ← front, take_append_drop, lastRows, sized.1, take_append_drop]
  · rw [append_nil] at mem
    exact .of_isBlank (blank line mem)
      (markless trimmed (by rw [sized.1]; exact bound) (by rw [sized.1]; exact below) blank line
        mem)
  · rw [cells, length_nil, length_drop, length_take, sized.1, row]
    omega

end

/-- Where the history does not fill up, what is lost at the bottom is what a resize has trimmed. -/
theorem markless_of_conserves {next : ScreenBuffer} (trimmed : Nat)
    (sized : Sized buffer.cells cols oldRows) (fewer : rows < oldRows)
    (room : history.length + oldRows ≤ scrollbackLimit)
    (most : ∀ count ≤ oldRows - rows, buffer.cursor.row + count < oldRows →
      (∀ line ∈ lastRows buffer.cells count, line.all Cell.isBlank = true) → count ≤ trimmed)
    (cells : next.cells = (buffer.cells.take (oldRows - trimmed)).drop (oldRows - rows - trimmed))
    (conserves : Conserves buffer next history
      ((history ++ buffer.cells.take (oldRows - rows - trimmed)).drop
        (history.length + (oldRows - rows - trimmed) - scrollbackLimit))) :
    Markless buffer rows := by
  obtain ⟨top, staying, removed, added, parts, shown, stored, empty, -⟩ := conserves
  have total := congrArg length parts
  have height := congrArg length shown
  have pushed := congrArg length stored
  simp only [length_append, cells, length_drop, length_take, sized.1]
    at total height pushed
  intro count few inside isBlank line mem cell inLine
  rw [sized.1] at few inside
  have within := most count few inside isBlank
  have inRemoved : line ∈ removed := by
    rw [lastRows, sized.1, parts, drop_append, mem_append] at mem
    rcases mem with kept | lost
    · rw [drop_of_length_le (by rw [length_append]; omega)] at kept
      cases kept
    · exact mem_of_mem_drop lost
  exact (empty line (mem_append_left _ inRemoved) cell inLine).2.1

/-- A blank with a combining mark, in the row below the cursor. -/
def marked : ScreenBuffer :=
  { ScreenBuffer.new 1 2 with cells := [[{}], [{ combining := [Char.ofNat 0x301] }]] }

end Dinotty.Screen
