/-
This file is the data of the virtual terminal screen, with the three operations that move rows:
scrolling up, scrolling down and resizing. Operations that index, remove or insert answer `none`
where the program panics. Clock readings are left out, and so are the fields that only they fill.
-/

import Dinotty.Foundation.Vec
import Dinotty.Foundation.Fallible

namespace Dinotty.Screen

open List Option Fallible

/-- The shell-integration state of a pane. -/
inductive CommandState where
  | idle
  | commandStart
  | executing
  deriving DecidableEq, Repr

/-- The result of a detected command. -/
structure CommandResult where
  exitCode : Int
  method : String
  deriving DecidableEq, Repr

/-- The printable output collected for the command that is running. -/
structure PendingCommand where
  outputBuf : List UInt8
  deriving DecidableEq, Repr

/-- A synchronized-output boundary seen in the stream. -/
inductive SyncEvent where
  | start
  | stop
  deriving DecidableEq, Repr

/-- A notification seen in the stream. -/
inductive OscAction where
  | bell
  | notify (title : Option (List Char)) (body : List Char)
  deriving DecidableEq, Repr

inductive MouseProtocol where
  | none
  | x10
  | normal
  | button
  | any
  deriving DecidableEq, Repr

inductive MouseEncoding where
  | default
  | sgr
  | sgrPixels
  deriving DecidableEq, Repr

/-- The private modes that a reconnecting client must be told about. -/
structure PrivateModes where
  mouse : MouseProtocol := .none
  encoding : MouseEncoding := .default
  cursorKeys : Bool := false
  keypad : Bool := false
  bracketedPaste : Bool := false
  focusEvent : Bool := false
  deriving DecidableEq, Repr

/-- `DECSTR` clears the four flags and leaves the mouse families alone. -/
def PrivateModes.softReset (modes : PrivateModes) : PrivateModes :=
  { modes with
    cursorKeys := false
    keypad := false
    bracketedPaste := false
    focusEvent := false }

inductive Color where
  | indexed (index : UInt8)
  | rgb (red green blue : UInt8)
  deriving DecidableEq, Repr

structure CellAttrs where
  fg : Option Color := none
  bg : Option Color := none
  bold : Bool := false
  dim : Bool := false
  italic : Bool := false
  underline : Bool := false
  inverse : Bool := false
  strikethrough : Bool := false
  deriving DecidableEq, Repr

/-- The character `'\0'`, which marks the right half of a wide glyph. -/
def nul : Char := Char.ofNat 0

def maxCombining : Nat := 3

/-- One screen cell. The combining marks are the first `combining_len` entries of the
source's array. -/
structure Cell where
  ch : Char := ' '
  combining : List Char := []
  attrs : CellAttrs := {}
  deriving DecidableEq, Repr

def Cell.blank : Cell := {}

def Cell.pushCombining (cell : Cell) (mark : Char) : Cell :=
  if cell.combining.length < maxCombining then
    { cell with combining := cell.combining ++ [mark] }
  else cell

abbrev Row := List Cell

def blankRow (cols : Nat) : Row := List.replicate cols Cell.blank

structure CursorState where
  row : Nat := 0
  col : Nat := 0
  attrs : CellAttrs := {}
  deriving DecidableEq, Repr

structure ScreenBuffer where
  cells : List Row
  cursor : CursorState
  scrollTop : Nat
  scrollBottom : Nat
  cols : Nat
  rows : Nat
  deriving DecidableEq, Repr

def ScreenBuffer.new (cols rows : Nat) : ScreenBuffer where
  cells := List.replicate rows (blankRow cols)
  cursor := {}
  scrollTop := 0
  scrollBottom := rows - 1
  cols := cols
  rows := rows

/-- The number of history rows a pane keeps. -/
def scrollbackLimit : Nat := 10000

/-- Append a row to the history and drop the oldest one past the limit. -/
def pushScrollback (scrollback : List Row) (row : Row) : List Row :=
  let pushed := scrollback ++ [row]
  if pushed.length > scrollbackLimit then pushed.drop 1 else pushed

/-! ### Scrolling -/

variable (buffer : ScreenBuffer)

/-- Remove the row at the top margin, into the history when it is the top of the screen, and insert
a blank row at the bottom margin. -/
def ScreenBuffer.scrollUp (scrollback : List Row) : Option (ScreenBuffer × List Row) := do
  let (row, rest) ← Vec.remove buffer.cells buffer.scrollTop
  let scrollback := if buffer.scrollTop = 0 then pushScrollback scrollback row else scrollback
  let cells ← Vec.insert rest buffer.scrollBottom (blankRow buffer.cols)
  return ({ buffer with cells }, scrollback)

def ScreenBuffer.scrollDown : Option ScreenBuffer := do
  let (_, rest) ← Vec.remove buffer.cells buffer.scrollBottom
  let cells ← Vec.insert rest buffer.scrollTop (blankRow buffer.cols)
  return { buffer with cells }

/-- The rows after the one at `source` has been removed and a blank one inserted at
`target`. -/
def moveBlank (cells : List Row) (source target cols : Nat) : List Row :=
  (cells.eraseIdx source).take target ++ blankRow cols :: (cells.eraseIdx source).drop target

theorem scrollUp_eq (scrollback : List Row) (top : buffer.scrollTop < buffer.cells.length)
    (bottom : buffer.scrollBottom < buffer.cells.length) :
    buffer.scrollUp scrollback = some ({ buffer with
          cells := moveBlank buffer.cells buffer.scrollTop buffer.scrollBottom buffer.cols },
        if buffer.scrollTop = 0 then pushScrollback scrollback buffer.cells[buffer.scrollTop]
        else scrollback) := by
  have shorter : buffer.scrollBottom ≤ (buffer.cells.eraseIdx buffer.scrollTop).length := by
    rw [length_eraseIdx, if_pos top]
    omega
  rw [ScreenBuffer.scrollUp, Vec.remove_of_lt top]
  simp only [bind_eq_bind, bind_some, Vec.insert_of_le shorter]
  rfl

theorem scrollDown_eq (top : buffer.scrollTop < buffer.cells.length)
    (bottom : buffer.scrollBottom < buffer.cells.length) :
    buffer.scrollDown = some { buffer with
        cells := moveBlank buffer.cells buffer.scrollBottom buffer.scrollTop buffer.cols } := by
  have shorter : buffer.scrollTop ≤ (buffer.cells.eraseIdx buffer.scrollBottom).length := by
    rw [length_eraseIdx, if_pos bottom]
    omega
  rw [ScreenBuffer.scrollDown, Vec.remove_of_lt bottom]
  simp only [bind_eq_bind, bind_some, Vec.insert_of_le shorter]
  rfl

theorem moveBlank_length (cells : List Row) (source target cols : Nat)
    (bound : source < cells.length) :
    (moveBlank cells source target cols).length = cells.length := by
  simp only [moveBlank, length_append, length_take, length_cons,
    length_drop, length_eraseIdx, if_pos bound]
  omega

theorem moveBlank_forall {cells : List Row} {property : Row → Prop}
    (all : ∀ line ∈ cells, property line) {cols : Nat} (blank : property (blankRow cols))
    (source target : Nat) : ∀ line ∈ moveBlank cells source target cols, property line := by
  intro line mem
  rcases mem_append.mp mem with front | back
  · exact all line (mem_of_mem_eraseIdx (mem_of_mem_take front))
  · rcases mem_cons.mp back with rfl | later
    · exact blank
    · exact all line (mem_of_mem_eraseIdx (mem_of_mem_drop later))

/-! ### Resizing -/

def CellAttrs.hasAttrs (attrs : CellAttrs) : Bool :=
  attrs.fg.isSome || attrs.bg.isSome || attrs.bold || attrs.dim || attrs.italic ||
    attrs.underline || attrs.inverse || attrs.strikethrough

/-- A cell that leaves no trace when it is not drawn. -/
def Cell.isBlank (cell : Cell) : Bool :=
  (cell.ch = ' ' || cell.ch = nul) && !cell.attrs.hasAttrs

/-- Trim blank rows below the cursor, at most `excess` of them, and answer the rows that stay
with the excess that is left. -/
def trimBlankRows (cursorRow : Nat) : Nat → List Row → List Row × Nat
  | 0, cells => (cells, 0)
  | excess + 1, cells =>
      if cells.length > cursorRow + 1 ∧ cells.getLast?.any (fun last => last.all Cell.isBlank) then
        trimBlankRows cursorRow excess cells.dropLast
      else (cells, excess + 1)

/-- Move the top row out of the buffer, into the history when there is one. -/
def popTopRow : List Row × Option (List Row) × Nat → Option (List Row × Option (List Row) × Nat)
  | (cells, scrollback, cursorRow) => do
      let (row, rest) ← Vec.remove cells 0
      return (rest, scrollback.map (pushScrollback · row), cursorRow - 1)

/-- The row phase of a resize: bring the buffer to `rows` rows, and answer the rows, the history
and the cursor row. -/
def ScreenBuffer.resizeRows (cols rows : Nat)
    (scrollback : Option (List Row)) : Option (List Row × Option (List Row) × Nat) :=
  let oldRows := buffer.cells.length
  if rows < oldRows then
    let (kept, excess) := trimBlankRows buffer.cursor.row (oldRows - rows) buffer.cells
    Fallible.repeatTimes popTopRow excess (kept, scrollback, buffer.cursor.row)
  else if rows > oldRows then
    some (Vec.resize buffer.cells rows (blankRow cols), scrollback, buffer.cursor.row)
  else some (buffer.cells, scrollback, buffer.cursor.row)

/-- The column phase of a resize: cut or extend every row when the width changes. -/
def resizeCols (cells : List Row) (oldCols cols : Nat) : List Row :=
  if cols ≠ oldCols then cells.map fun row => Vec.resize row cols Cell.blank else cells

/-- Resize a buffer. The primary screen passes its history, which receives the top rows that no
longer fit. -/
def ScreenBuffer.resize (cols rows : Nat)
    (scrollback : Option (List Row)) : Option (ScreenBuffer × Option (List Row)) := do
  let oldCols := (buffer.cells.head?.map List.length).getD 0
  let (cells, scrollback, cursorRow) ← buffer.resizeRows cols rows scrollback
  return ({ buffer with
    cells := resizeCols cells oldCols cols
    cols
    rows
    scrollTop := 0
    scrollBottom := rows - 1
    cursor := { buffer.cursor with
      row := if cursorRow ≥ rows then rows - 1 else cursorRow
      col := if buffer.cursor.col ≥ cols then cols - 1 else buffer.cursor.col } }, scrollback)

/-- Trimming drops the last `trimmed` rows, all of them blank, and takes them off the excess. -/
theorem trimBlankRows_eq (cursorRow excess : Nat) (cells : List Row) : ∃ trimmed ≤ excess,
      trimBlankRows cursorRow excess cells =
        (cells.take (cells.length - trimmed), excess - trimmed) ∧
      ∀ line ∈ cells.drop (cells.length - trimmed), line.all Cell.isBlank := by
  induction excess generalizing cells with
  | zero => exact ⟨0, Nat.le_refl 0, by simp [trimBlankRows], by simp⟩
  | succ excess ih =>
    unfold trimBlankRows
    split
    next trim =>
      obtain ⟨trimmed, bound, equal, blank⟩ := ih cells.dropLast
      have length : cells.dropLast.length = cells.length - 1 := length_dropLast
      have cut : cells.dropLast.length - trimmed = cells.length - (trimmed + 1) := by omega
      refine ⟨trimmed + 1, by omega, ?_, ?_⟩
      · rw [equal, cut, dropLast_eq_take, take_take, Nat.min_eq_left (by omega)]
        simp
      · intro line mem
        have nonempty : cells ≠ [] := by
          rintro rfl
          simp at trim
        rw [← cut] at mem
        have split : line ∈ cells.dropLast.drop (cells.dropLast.length - trimmed) ++
            [cells.getLast nonempty].drop
              (cells.dropLast.length - trimmed - cells.dropLast.length) := by
          rw [← drop_append, dropLast_append_getLast nonempty]
          exact mem
        rcases mem_append.mp split with front | back
        · exact blank line front
        · have last := trim.2
          rw [getLast?_eq_getLast_of_ne_nil nonempty] at last
          have lineEq := mem_of_mem_drop back
          rw [mem_singleton] at lineEq
          rw [lineEq]
          exact last
    · exact ⟨0, Nat.zero_le _, by simp, by simp⟩

theorem popTopRows_eq (count : Nat) (cells : List Row) (scrollback : Option (List Row))
    (cursorRow : Nat) (bound : count ≤ cells.length) :
    repeatTimes popTopRow count (cells, scrollback, cursorRow) = some (cells.drop count,
        scrollback.map fun hist => (cells.take count).foldl pushScrollback hist,
        cursorRow - count) := by
  induction count generalizing cells scrollback cursorRow with
  | zero =>
    rw [repeatTimes_zero]
    simp
  | succ count ih =>
    cases cells with
    | nil => simp at bound
    | cons line rest =>
      rw [repeatTimes_succ]
      simp only [popTopRow, Vec.remove, getElem?_cons_zero, map_some,
        bind_eq_bind, bind_some, eraseIdx_cons_zero]
      show repeatTimes popTopRow count _ = _
      rw [ih _ _ _ (by simpa using bound)]
      simp only [Option.map_map, drop_succ_cons, take_succ_cons, foldl_cons,
        Option.some.injEq, Prod.mk.injEq, true_and]
      exact ⟨rfl, by omega⟩

end Dinotty.Screen
