/-
This file decides when the virtual screen keeps its shape: the cells are a grid, the cursor and the
scroll margins lie inside it, and no action indexes out of range. Every action keeps the shape but
four: a glyph wider than the space a wrap can give it, an inverted scroll region, a restored cursor
that was saved in another geometry, and an operating-system command without a segment.
-/

import Dinotty.Screen.Parser

namespace Dinotty.Screen

open List Option Fallible Vec Cell

/-! ### The shape of a buffer -/

/-- A grid of `rows` rows with `cols` cells each. -/
def Sized (cells : List Row) (cols rows : Nat) : Prop :=
  cells.length = rows ∧ ∀ line ∈ cells, line.length = cols

/-- A cursor inside the grid. The column may be one past the last cell: a wrap is pending. -/
def CursorState.Fits (cursor : CursorState) (cols rows : Nat) : Prop :=
  cursor.row < rows ∧ cursor.col ≤ cols

structure ScreenBuffer.Shaped (buffer : ScreenBuffer) (cols rows : Nat) : Prop where
  sized : Sized buffer.cells cols rows
  colsEq : buffer.cols = cols
  rowsEq : buffer.rows = rows
  cursor : buffer.cursor.Fits cols rows
  margins : buffer.scrollTop ≤ buffer.scrollBottom
  bottom : buffer.scrollBottom < rows

namespace ScreenBuffer

variable {buffer : ScreenBuffer} {cols rows : Nat}

theorem Shaped.top (shaped : buffer.Shaped cols rows) : buffer.scrollTop < rows :=
  Nat.lt_of_le_of_lt shaped.margins shaped.bottom

theorem Shaped.withCursor (shaped : buffer.Shaped cols rows) {cursor : CursorState}
    (fits : cursor.Fits cols rows) : { buffer with cursor }.Shaped cols rows :=
  ⟨shaped.sized, shaped.colsEq, shaped.rowsEq, fits, shaped.margins, shaped.bottom⟩

theorem Shaped.withCells (shaped : buffer.Shaped cols rows) {cells : List Row}
    (sized : Sized cells cols rows) : { buffer with cells }.Shaped cols rows :=
  ⟨sized, shaped.colsEq, shaped.rowsEq, shaped.cursor, shaped.margins, shaped.bottom⟩

theorem sized_blank (cols rows : Nat) : Sized (replicate rows (blankRow cols)) cols rows := by
  refine ⟨length_replicate, fun line mem => ?_⟩
  rw [eq_of_mem_replicate mem, blankRow, length_replicate]

theorem new_shaped (cols : Nat) (rowsPos : 1 ≤ rows) : (new cols rows).Shaped cols rows :=
  ⟨sized_blank cols rows, rfl, rfl, ⟨rowsPos, Nat.zero_le _⟩, Nat.zero_le _, by
    show rows - 1 < rows
    omega⟩

theorem moveBlank_sized {cells : List Row} (sized : Sized cells cols rows) {source : Nat}
    (bound : source < rows) (target : Nat) :
    Sized (moveBlank cells source target cols) cols rows :=
  ⟨by rw [moveBlank_length cells source target cols (by rw [sized.1]; exact bound), sized.1],
    moveBlank_forall sized.2 (length_replicate) source target⟩

theorem scrollUp_shaped (shaped : buffer.Shaped cols rows) (scrollback : List Row) :
    ∃ next hist, buffer.scrollUp scrollback = some (next, hist) ∧ next.Shaped cols rows ∧
      next.cursor = buffer.cursor := by
  have count := shaped.sized.1
  refine ⟨_, _, scrollUp_eq buffer scrollback (by rw [count]; exact shaped.top)
    (by rw [count]; exact shaped.bottom), ?_, rfl⟩
  exact shaped.withCells (shaped.colsEq.symm ▸ moveBlank_sized shaped.sized shaped.top _)

theorem scrollDown_shaped (shaped : buffer.Shaped cols rows) :
    ∃ next, buffer.scrollDown = some next ∧ next.Shaped cols rows := by
  have count := shaped.sized.1
  refine ⟨_, scrollDown_eq buffer (by rw [count]; exact shaped.top)
    (by rw [count]; exact shaped.bottom), ?_⟩
  exact shaped.withCells (shaped.colsEq.symm ▸ moveBlank_sized shaped.sized shaped.bottom _)

end ScreenBuffer

/-! ### Operations on the cells -/

section Cells

variable {cols rows : Nat} {cells : List Row}

theorem Sized.row (sized : Sized cells cols rows) {row : Nat} (bound : row < rows) :
    ∃ line, cells[row]? = some line ∧ line.length = cols := by
  have inRange : row < cells.length := by rw [sized.1]; exact bound
  exact ⟨cells[row], getElem?_eq_getElem inRange, sized.2 _ (getElem_mem inRange)⟩

theorem Sized.update (sized : Sized cells cols rows) {row : Nat} (bound : row < rows)
    {change : Row → Option Row}
    (changes : ∀ line, line.length = cols → ∃ next, change line = some next ∧ next.length = cols) :
    ∃ next, Vec.update cells row change = some next ∧ Sized next cols rows := by
  obtain ⟨line, held, lineWidth⟩ := sized.row bound
  obtain ⟨changed, done, changedWidth⟩ := changes line lineWidth
  have updated : Vec.update cells row change = some (cells.set row changed) :=
    update_eq_some.mpr ⟨line, changed, held, done, rfl⟩
  refine ⟨_, updated, by rw [update_length updated, sized.1], ?_⟩
  refine update_forall sized.2 (fun item itemChanged itemPresent itemDone => ?_) updated
  rw [held] at itemPresent
  cases itemPresent
  rw [done] at itemDone
  cases itemDone
  exact changedWidth

theorem eraseRow_length (line : Row) : (eraseRow line).length = line.length :=
  length_replicate

section

variable (sized : Sized cells cols rows)
include sized

theorem Sized.eraseRows (start : Nat) {stop : Nat} (bound : stop ≤ rows) :
    ∃ next, eraseRows cells start stop = some next ∧ Sized next cols rows := by
  unfold Screen.eraseRows
  split
  · exact ⟨cells, rfl, sized⟩
  next nonempty =>
    have inRange : stop ≤ cells.length := by rw [sized.1]; exact bound
    rw [if_pos inRange]
    refine ⟨_, rfl, ?_, ?_⟩
    · rw [← sized.1]
      simp only [length_append, length_take, length_map, length_drop]
      omega
    · intro line mem
      rcases mem_append.mp mem with front | back
      · rcases mem_append.mp front with kept | erased
        · exact sized.2 line (mem_of_mem_take kept)
        · obtain ⟨old, oldMember, rfl⟩ := mem_map.mp erased
          rw [eraseRow_length]
          exact sized.2 old (mem_of_mem_take (mem_of_mem_drop oldMember))
      · exact sized.2 line (mem_of_mem_drop back)

theorem Sized.eraseAll : Sized (cells.map eraseRow) cols rows := by
  refine ⟨by rw [length_map, sized.1], fun line mem => ?_⟩
  obtain ⟨old, oldMember, rfl⟩ := mem_map.mp mem
  rw [eraseRow_length, sized.2 old oldMember]

theorem Sized.removeInsert {source target : Nat} (sourceBound : source < rows)
    (targetBound : target < rows) :
    ∃ next, (do
        let rest ← (remove cells source).map Prod.snd
        insert rest target (blankRow cols)) = some next ∧ Sized next cols rows := by
  have inRange : source < cells.length := by rw [sized.1]; exact sourceBound
  have shorter : target ≤ (cells.eraseIdx source).length := by
    rw [length_eraseIdx, if_pos inRange, sized.1]
    omega
  rw [remove_of_lt inRange]
  simp only [map_some, bind_eq_bind, bind_some, insert_of_le shorter]
  exact ⟨_, rfl, ScreenBuffer.moveBlank_sized sized sourceBound target⟩

theorem Sized.insertLine {row bottom : Nat} (rowBound : row < rows) (bottomBound : bottom < rows) :
    ∃ next, insertLine row bottom cols cells = some next ∧ Sized next cols rows := by
  have inRange : bottom < cells.length := by rw [sized.1]; exact bottomBound
  rw [Screen.insertLine, if_pos inRange]
  exact sized.removeInsert bottomBound rowBound

theorem Sized.deleteLine {row bottom : Nat} (rowBound : row < rows) (bottomBound : bottom < rows) :
    ∃ next, deleteLine row bottom cols cells = some next ∧ Sized next cols rows := by
  have inRange : row < cells.length := by rw [sized.1]; exact rowBound
  rw [Screen.deleteLine, if_pos inRange]
  exact sized.removeInsert rowBound bottomBound

end

end Cells

/-! ### Operations inside one row -/

section Rows

variable {cols col : Nat} {line : Row}

section

variable (lineWidth : line.length = cols)
include lineWidth

theorem fillFrom_total (bound : col ≤ cols) :
    ∃ next, fillFrom line col blank = some next ∧ next.length = cols := by
  have filled : fillFrom line col blank = some _ := if_pos (by rw [lineWidth]; exact bound)
  exact ⟨_, filled, by rw [fillFrom_length filled, lineWidth]⟩

theorem fillThrough_total (bound : col < cols) :
    ∃ next, fillThrough line col blank = some next ∧ next.length = cols := by
  have filled : fillThrough line col blank = some _ :=
    if_pos (by rw [lineWidth]; exact bound)
  exact ⟨_, filled, by rw [fillThrough_length filled, lineWidth]⟩

theorem set_total (bound : col < cols) (cell : Cell) :
    ∃ next, Vec.set line col cell = some next ∧ next.length = cols :=
  ⟨_, set_of_lt (by rw [lineWidth]; exact bound) cell, by rw [length_set, lineWidth]⟩

theorem deleteCharacter_total :
    ∃ next, deleteCharacter col line = some next ∧ next.length = cols := by
  unfold deleteCharacter
  split
  next inRange =>
    rw [remove_of_lt inRange]
    refine ⟨_, rfl, ?_⟩
    rw [length_append, length_eraseIdx, if_pos inRange, length_singleton]
    omega
  · exact ⟨line, rfl, lineWidth⟩

theorem insertCharacter_total (bound : col ≤ cols) :
    ∃ next, insertCharacter col cols line = some next ∧ next.length = cols := by
  have inRange : col ≤ line.length := by rw [lineWidth]; exact bound
  rw [insertCharacter, insert_of_le inRange, map_some]
  refine ⟨_, rfl, ?_⟩
  rw [length_take, insert_length (insert_of_le inRange blank)]
  omega

end

theorem eraseCells_total (count : Nat) (lineWidth : line.length = cols) :
    ∃ next, eraseCells col cols count line = some next ∧ next.length = cols := by
  induction count with
  | zero => exact ⟨line, rfl, lineWidth⟩
  | succ count ih =>
    obtain ⟨middle, reached, middleWidth⟩ := ih
    rw [eraseCells, reached]
    simp only [bind_eq_bind, bind_some]
    split
    next inRange =>
      exact set_total middleWidth inRange blank
    · exact ⟨middle, rfl, middleWidth⟩

theorem setIf_total (cond : Prop) [Decidable cond] (lineWidth : line.length = cols)
    (bound : cond → col < cols) (cell : Cell) :
    ∃ next, setIf cond line col cell = some next ∧ next.length = cols := by
  unfold setIf
  split
  next holds =>
    exact set_total lineWidth (bound holds) cell
  · exact ⟨line, rfl, lineWidth⟩

theorem putGlyph_total (width : Char → Option Nat) (c : Char) (w : Nat) (attrs : CellAttrs)
    (lineWidth : line.length = cols) (bound : col < cols) :
    ∃ next, putGlyph width cols c w attrs col line = some next ∧ next.length = cols := by
  have inRange : col < line.length := by rw [lineWidth]; exact bound
  unfold putGlyph
  rw [getElem?_eq_getElem inRange]
  simp only [map_some, bind_eq_bind, bind_some]
  obtain ⟨one, oneDone, oneWidth⟩ := setIf_total ((line)[col].ch = nul ∧ col > 0) lineWidth
    (fun _ => show col - 1 < cols by omega) blank
  rw [oneDone, bind_some]
  obtain ⟨two, twoDone, twoWidth⟩ := setIf_total
    ((line)[col].ch ≠ nul ∧ (line)[col].ch ≠ ' ' ∧ width (line)[col].ch = some 2 ∧ col + 1 < cols)
    oneWidth (fun wide => wide.2.2.2) blank
  rw [twoDone, bind_some]
  obtain ⟨three, threeDone, threeWidth⟩ :=
    set_total twoWidth bound ({ ch := c, combining := [], attrs } : Cell)
  rw [threeDone, bind_some]
  exact setIf_total _ threeWidth (fun wide => wide.2) _

end Rows

/-! ### The actions that always keep the shape -/

namespace Performer

variable {p : Performer} {cols rows : Nat}

/-- An action succeeds and keeps the shape of the active buffer. -/
def Keeps (result : Option Performer) (cols rows : Nat) : Prop :=
  ∃ next, result = some next ∧ next.screen.Shaped cols rows

theorem keeps_some {next : Performer} (shaped : next.screen.Shaped cols rows) :
    Keeps (some next) cols rows := ⟨next, rfl, shaped⟩

theorem keeps_some_iff {next : Performer} :
    Keeps (some next) cols rows ↔ next.screen.Shaped cols rows := by
  constructor
  · rintro ⟨other, equal, shaped⟩
    cases equal
    exact shaped
  · exact keeps_some

theorem mapCursor_keeps (shaped : p.screen.Shaped cols rows)
    {change : CursorState → CursorState} (fits : (change p.screen.cursor).Fits cols rows) :
    Keeps (some (p.mapCursor change)) cols rows := keeps_some (shaped.withCursor fits)

theorem mapCells_keeps (shaped : p.screen.Shaped cols rows) {change : List Row → Option (List Row)}
    (changes : ∃ next, change p.screen.cells = some next ∧ Sized next cols rows) :
    ∃ next, p.mapCells change = some next ∧ next.screen.Shaped cols rows ∧
      next.screen.cursor = p.screen.cursor := by
  obtain ⟨cells, done, sized⟩ := changes
  rw [mapCells, done, map_some]
  exact ⟨_, rfl, shaped.withCells sized, rfl⟩

theorem keeps_of_cursor {res : Option Performer} {cursor : CursorState}
    (kept : ∃ next, res = some next ∧ next.screen.Shaped cols rows ∧
      next.screen.cursor = cursor) : Keeps res cols rows := by
  obtain ⟨next, done, shaped, -⟩ := kept
  exact ⟨next, done, shaped⟩

section

variable (shaped : p.screen.Shaped cols rows)
include shaped

theorem scrollUp_keeps : Keeps p.scrollUp cols rows := by
  obtain ⟨screen, hist, done, nextShaped, -⟩ := ScreenBuffer.scrollUp_shaped shaped p.scrollback
  rw [scrollUp, done]
  exact keeps_some nextShaped

theorem scrollDown_keeps : Keeps p.scrollDown cols rows := by
  obtain ⟨screen, done, nextShaped⟩ := ScreenBuffer.scrollDown_shaped shaped
  rw [scrollDown, done]
  exact keeps_some nextShaped

theorem lineFeed_total : ∃ next, p.lineFeed = some next ∧ next.screen.Shaped cols rows ∧
      next.screen.cursor.col = p.screen.cursor.col := by
  have bottom := shaped.bottom
  unfold lineFeed
  dsimp only
  split
  · have fits : CursorState.Fits { p.screen.cursor with row := p.screen.scrollBottom } cols rows :=
      ⟨shaped.bottom, shaped.cursor.2⟩
    have atMargin := shaped.withCursor fits
    obtain ⟨screen, hist, done, nextShaped, cursorEq⟩ :=
      ScreenBuffer.scrollUp_shaped atMargin p.scrollback
    rw [done]
    exact ⟨_, rfl, nextShaped, by
      show screen.cursor.col = p.screen.cursor.col
      rw [cursorEq]⟩
  next above =>
    exact ⟨_, rfl, shaped.withCursor ⟨by
      show p.screen.cursor.row + 1 < rows
      omega, shaped.cursor.2⟩, rfl⟩

theorem lineFeed_keeps : Keeps p.lineFeed cols rows := by
  obtain ⟨next, done, nextShaped, -⟩ := lineFeed_total shaped
  exact ⟨next, done, nextShaped⟩

end

/-! ### Printing -/

theorem wrapIf_keeps (shaped : p.screen.Shaped cols rows) (cond : Prop) [Decidable cond] :
    ∃ next, p.wrapIf cond = some next ∧ next.screen.Shaped cols rows ∧
      next.screen.cursor.col = if cond then 0 else p.screen.cursor.col := by
  unfold wrapIf
  split
  · exact lineFeed_total (shaped.withCursor ⟨shaped.cursor.1, Nat.zero_le _⟩)
  · exact ⟨p, rfl, shaped, rfl⟩

theorem drawGlyph_keeps (shaped : p.screen.Shaped cols rows) (width : Char → Option Nat)
    (c : Char) (w : Nat) :
    ∃ next, p.drawGlyph width c w = some next ∧ next.screen.Shaped cols rows ∧
      next.screen.cursor = p.screen.cursor := by
  unfold drawGlyph
  dsimp only
  split
  next inside =>
    rw [shaped.rowsEq] at inside
    refine mapCells_keeps shaped (shaped.sized.update inside.1 fun line lineWidth => ?_)
    rw [shaped.colsEq] at inside ⊢
    exact putGlyph_total width c w _ lineWidth inside.2
  · exact ⟨p, rfl, shaped, rfl⟩

/-- The column at which a glyph of width `w` is stored. -/
def glyphCol (col cols w : Nat) : Nat :=
  let wrapped := if col ≥ cols then 0 else col
  if w = 2 ∧ wrapped + 1 ≥ cols then 0 else wrapped

section

variable (shaped : p.screen.Shaped cols rows)
include shaped

theorem printGlyph_keeps (width : Char → Option Nat) (c : Char) (w : Nat) :
    Keeps (p.printGlyph width c w) cols rows ↔ glyphCol p.screen.cursor.col cols w + w ≤ cols := by
  obtain ⟨one, oneDone, oneShaped, oneCol⟩ :=
    wrapIf_keeps shaped (p.screen.cursor.col ≥ p.screen.cols)
  obtain ⟨two, twoDone, twoShaped, twoCol⟩ :=
    wrapIf_keeps oneShaped (w = 2 ∧ one.screen.cursor.col + 1 ≥ one.screen.cols)
  obtain ⟨three, threeDone, threeShaped, threeCursor⟩ := drawGlyph_keeps twoShaped width c w
  have stored : three.screen.cursor.col = glyphCol p.screen.cursor.col cols w := by
    rw [threeCursor, twoCol, oneCol, oneShaped.colsEq, shaped.colsEq]
    rfl
  unfold printGlyph
  rw [oneDone]
  simp only [bind_eq_bind, bind_some, twoDone, threeDone]
  show Keeps (some (three.mapCursor _)) cols rows ↔ _
  rw [keeps_some_iff, ← stored]
  constructor
  · exact fun after => after.cursor.2
  · exact fun fits => threeShaped.withCursor ⟨threeShaped.cursor.1, fits⟩

theorem pushCombining_keeps (c : Char) : Keeps (p.printCombining c) cols rows := by
  unfold printCombining
  dsimp only
  split
  next inside =>
    refine keeps_of_cursor (mapCells_keeps shaped
      (shaped.sized.update shaped.cursor.1 fun line lineWidth => ?_))
    have inRange : p.screen.cursor.col - 1 < line.length := by
      have := shaped.cursor.2
      omega
    refine ⟨_, update_eq_some.mpr
      ⟨(line)[p.screen.cursor.col - 1], _, getElem?_eq_getElem inRange, rfl, rfl⟩, ?_⟩
    rw [length_set, lineWidth]
  · exact keeps_some shaped

theorem print_keeps (width : Char → Option Nat) (c : Char) : Keeps (p.print width c) cols rows ↔
      ((width c).getD 0 ≠ 0 →
        glyphCol p.screen.cursor.col cols ((width c).getD 0) + (width c).getD 0 ≤ cols) := by
  unfold print
  dsimp only
  split
  next combining =>
    exact iff_of_true (pushCombining_keeps shaped c) fun nonzero => absurd combining nonzero
  next glyph =>
    rw [printGlyph_keeps shaped]
    exact ⟨fun fits _ => fits, fun fits => fits glyph⟩

theorem execute_keeps (colsPos : 1 ≤ cols) (byte : UInt8) : Keeps (p.execute byte) cols rows := by
  have inside := shaped.cursor
  unfold execute
  split
  · exact mapCursor_keeps shaped ⟨inside.1, Nat.le_trans (Nat.sub_le _ _) inside.2⟩
  · refine mapCursor_keeps shaped ⟨inside.1, ?_⟩
    rw [shaped.colsEq]
    dsimp only
    split <;> omega
  · exact lineFeed_keeps shaped
  · exact lineFeed_keeps shaped
  · exact lineFeed_keeps shaped
  · exact mapCursor_keeps shaped ⟨inside.1, Nat.zero_le _⟩
  · exact keeps_some shaped
  · exact keeps_some shaped

end

/-! ### Control functions -/

theorem eraseDisplay_keeps (shaped : p.screen.Shaped cols rows) (colsPos : 1 ≤ cols)
    (selector : Nat) : Keeps (p.eraseDisplay selector) cols rows := by
  have inside := shaped.cursor
  have rowsEq := shaped.rowsEq
  have colsEq := shaped.colsEq
  unfold eraseDisplay
  dsimp only
  split
  · refine keeps_of_cursor (mapCells_keeps shaped ?_)
    obtain ⟨cells, done, sized⟩ := shaped.sized.update inside.1 fun line lineWidth =>
      fillFrom_total lineWidth inside.2
    rw [done]
    exact sized.eraseRows _ (Nat.le_of_eq rowsEq)
  · refine keeps_of_cursor (mapCells_keeps shaped ?_)
    obtain ⟨cells, done, sized⟩ := shaped.sized.eraseRows 0
      (Nat.le_of_lt inside.1)
    rw [done]
    exact sized.update inside.1 fun line lineWidth => fillThrough_total lineWidth (by omega)
  · exact keeps_of_cursor (mapCells_keeps shaped ⟨_, rfl, shaped.sized.eraseAll⟩)
  · exact keeps_of_cursor (mapCells_keeps shaped ⟨_, rfl, shaped.sized.eraseAll⟩)
  · exact keeps_some shaped

theorem eraseLine_keeps (shaped : p.screen.Shaped cols rows) (colsPos : 1 ≤ cols)
    (selector : Nat) : Keeps (p.eraseLine selector) cols rows := by
  have inside := shaped.cursor
  have colsEq := shaped.colsEq
  have update (change : Row → Option Row)
      (changes : ∀ line, line.length = cols →
        ∃ next, change line = some next ∧ next.length = cols) :
      Keeps (p.mapCells fun cells => update cells p.screen.cursor.row change) cols rows :=
    keeps_of_cursor (mapCells_keeps shaped (shaped.sized.update inside.1 changes))
  unfold eraseLine
  dsimp only
  split
  · exact update _ fun line lineWidth => fillFrom_total lineWidth inside.2
  · exact update _ fun line lineWidth => fillThrough_total lineWidth (by omega)
  · exact update _ fun line lineWidth => ⟨_, rfl, by rw [eraseRow_length, lineWidth]⟩
  · exact keeps_some shaped

/-- The margins that `DECSTBM` sets, in the order that the shape needs. -/
def MarginsOrdered (rows p0 p1 : Nat) : Prop :=
  min (orOne p0 - 1) (rows - 1) ≤ min ((if p1 = 0 then rows else p1) - 1) (rows - 1)

theorem control_keeps (shaped : p.screen.Shaped cols rows) (colsPos : 1 ≤ cols)
    (function : ControlFunction) (params : List (List UInt16)) (p0 p1 : Nat) :
    Keeps (p.control function params p0 p1) cols rows ↔
      (function = .setScrollRegion → MarginsOrdered rows p0 p1) := by
  have inside := shaped.cursor
  have rowsEq := shaped.rowsEq
  have colsEq := shaped.colsEq
  obtain ⟨rowInside, colInside⟩ := inside
  have update (change : Row → Option Row)
      (changes : ∀ line, line.length = cols →
        ∃ next, change line = some next ∧ next.length = cols) :
      Keeps (p.mapCells fun cells => update cells p.screen.cursor.row change) cols rows :=
    keeps_of_cursor (mapCells_keeps shaped (shaped.sized.update rowInside changes))
  cases function with
  | setScrollRegion =>
    have rowsPos : 1 ≤ rows := Nat.lt_of_le_of_lt (Nat.zero_le _) rowInside
    simp only [control, keeps_some_iff, rowsEq, forall_const]
    constructor
    · exact fun after => after.margins
    · exact fun ordered =>
        ⟨shaped.sized, colsEq, rfl, ⟨rowsPos, Nat.zero_le _⟩, ordered, by dsimp only; omega⟩
  | cursorUp =>
    refine iff_of_true (mapCursor_keeps shaped ⟨?_, colInside⟩) (by simp)
    exact Nat.lt_of_le_of_lt (Nat.sub_le _ _) rowInside
  | cursorDown =>
    refine iff_of_true (mapCursor_keeps shaped ⟨?_, colInside⟩) (by simp)
    dsimp only
    omega
  | cursorForward =>
    refine iff_of_true (mapCursor_keeps shaped ⟨rowInside, ?_⟩) (by simp)
    dsimp only
    omega
  | cursorBack =>
    refine iff_of_true (mapCursor_keeps shaped ⟨rowInside, ?_⟩) (by simp)
    exact Nat.le_trans (Nat.sub_le _ _) colInside
  | cursorPosition =>
    refine iff_of_true (mapCursor_keeps shaped ⟨?_, ?_⟩) (by simp)
    · dsimp only
      omega
    · dsimp only
      omega
  | eraseDisplay => exact iff_of_true (eraseDisplay_keeps shaped colsPos p0) (by simp)
  | eraseLine => exact iff_of_true (eraseLine_keeps shaped colsPos p0) (by simp)
  | insertLines =>
    refine iff_of_true (keeps_of_cursor (mapCells_keeps shaped ?_)) (by simp)
    exact repeatTimes_total (Sized · cols rows) (fun cells sized =>
      colsEq.symm ▸ Sized.insertLine sized rowInside shaped.bottom) _ shaped.sized
  | deleteLines =>
    refine iff_of_true (keeps_of_cursor (mapCells_keeps shaped ?_)) (by simp)
    exact repeatTimes_total (Sized · cols rows) (fun cells sized =>
      colsEq.symm ▸ Sized.deleteLine sized rowInside shaped.bottom) _ shaped.sized
  | deleteCharacters =>
    refine iff_of_true (update _ fun line lineWidth => ?_) (by simp)
    exact repeatTimes_total (length · = cols) (fun _ => deleteCharacter_total) _
      lineWidth
  | insertCharacters =>
    refine iff_of_true (update _ fun line lineWidth => ?_) (by simp)
    exact repeatTimes_total (length · = cols)
      (fun _ innerWidth => colsEq.symm ▸ insertCharacter_total innerWidth colInside) _ lineWidth
  | scrollUp =>
    refine iff_of_true ?_ (by simp)
    exact repeatTimes_total (fun q : Performer => q.screen.Shaped cols rows)
      (fun _ => scrollUp_keeps) _ shaped
  | scrollDown =>
    refine iff_of_true ?_ (by simp)
    exact repeatTimes_total (fun q : Performer => q.screen.Shaped cols rows)
      (fun _ => scrollDown_keeps) _ shaped
  | linePosition =>
    refine iff_of_true (mapCursor_keeps shaped ⟨?_, colInside⟩) (by simp)
    dsimp only
    omega
  | cursorColumn =>
    refine iff_of_true (mapCursor_keeps shaped ⟨rowInside, ?_⟩) (by simp)
    dsimp only
    omega
  | eraseCharacters =>
    refine iff_of_true ?_ (by simp)
    simp only [control]
    split
    · exact update _ fun line lineWidth => colsEq.symm ▸ eraseCells_total _ lineWidth
    · exact keeps_some shaped
  | graphicRendition =>
    exact iff_of_true (mapCursor_keeps shaped ⟨rowInside, colInside⟩) (by simp)

/-- The buffer, the history and the saved cursor are the same, and so is the buffer shown. -/
structure Untouched (p q : Performer) : Prop where
  screen : q.screen = p.screen
  scrollback : q.scrollback = p.scrollback
  savedCursor : q.savedCursor = p.savedCursor
  usingAlternate : q.usingAlternate = p.usingAlternate

/-- No switch is asked for either. -/
structure Silent (p q : Performer) : Prop extends Untouched p q where
  pendingSwitch : q.pendingSwitch = p.pendingSwitch

theorem Untouched.refl (p : Performer) : p.Untouched p := ⟨rfl, rfl, rfl, rfl⟩

theorem Silent.refl (p : Performer) : p.Silent p := ⟨.refl p, rfl⟩

theorem setMode_untouched (p : Performer) (mode : Nat) : p.Untouched (p.setMode mode) := by
  unfold setMode
  split <;> exact ⟨rfl, rfl, rfl, rfl⟩

theorem resetMode_untouched (p : Performer) (mode : Nat) : p.Untouched (p.resetMode mode) := by
  unfold resetMode
  split <;> exact ⟨rfl, rfl, rfl, rfl⟩

theorem foldl_untouched {change : Performer → Nat → Performer}
    (keeps : ∀ (q : Performer) mode, q.Untouched (change q mode)) (modes : List Nat)
    (p : Performer) : p.Untouched (modes.foldl change p) := by
  induction modes generalizing p with
  | nil => exact .refl p
  | cons mode rest ih =>
    have first := keeps p mode
    have later := ih (change p mode)
    exact ⟨later.screen.trans first.screen, later.scrollback.trans first.scrollback,
      later.savedCursor.trans first.savedCursor,
      later.usingAlternate.trans first.usingAlternate⟩

/-- A control sequence sets the scroll region to margins in order. -/
def MarginsCondition (p : Performer) (params : List (List UInt16)) (intermediates : List UInt8)
    (action : Char) : Prop :=
  intermediates = [] → ControlFunction.ofFinal action = some .setScrollRegion →
    MarginsOrdered p.screen.rows ((params.flatten.map UInt16.toNat)[0]?.getD 0)
      ((params.flatten.map UInt16.toNat)[1]?.getD 0)

theorem csiDispatch_keeps (shaped : p.screen.Shaped cols rows) (colsPos : 1 ≤ cols)
    (params : List (List UInt16)) (inter : List UInt8) (action : Char) :
    Keeps (p.csiDispatch params inter action) cols rows ↔
      p.MarginsCondition params inter action := by
  have untouched {next : Performer} (same : next.screen = p.screen) :
      Keeps (some next) cols rows := keeps_some (same ▸ shaped)
  unfold csiDispatch MarginsCondition
  dsimp only
  split
  next question =>
    refine iff_of_true ?_ fun empty => absurd (question.symm.trans empty) (by simp)
    split
    · exact untouched (foldl_untouched setMode_untouched _ p).screen
    · exact untouched (foldl_untouched resetMode_untouched _ p).screen
    · exact keeps_some shaped
  · split
    next bang =>
      exact iff_of_true (untouched rfl) fun empty => absurd (bang.1.symm.trans empty) (by simp)
    · split
      next nonempty =>
        exact iff_of_true (keeps_some shaped) fun empty => absurd empty nonempty
      next empty =>
        rw [not_not] at empty
        split
        next function final =>
          rw [control_keeps shaped colsPos, shaped.rowsEq, final]
          simp [empty]
        next final =>
          exact iff_of_true (keeps_some shaped) fun _ region => by simp [final] at region

/-! ### Escape sequences and operating-system commands -/

/-- Whether an escape sequence restores the cursor. -/
def RestoresCursor (intermediates : List UInt8) (byte : UInt8) : Prop :=
  intermediates = [0x38] ∨ intermediates = [] ∧ byte = 0x38

/-- The saved cursor, if there is one, lies inside the grid. -/
def SavedFits (saved : Option CursorState) (cols rows : Nat) : Prop :=
  ∀ cursor, saved = some cursor → cursor.Fits cols rows

theorem restoreCursor_keeps (shaped : p.screen.Shaped cols rows) :
    Keeps (some p.restoreCursor) cols rows ↔ SavedFits p.savedCursor cols rows := by
  rw [keeps_some_iff]
  unfold restoreCursor
  split
  next saved held =>
    rw [held]
    constructor
    · rintro after cursor equal
      cases equal
      exact after.cursor
    · exact fun fits => shaped.withCursor (fits saved rfl)
  next absent =>
    rw [absent]
    exact iff_of_true shaped fun cursor equal => by simp at equal

theorem reverseIndex_keeps (shaped : p.screen.Shaped cols rows) :
    Keeps p.reverseIndex cols rows := by
  unfold reverseIndex
  split
  · exact scrollDown_keeps shaped
  · split
    · exact mapCursor_keeps shaped
        ⟨Nat.lt_of_le_of_lt (Nat.sub_le _ _) shaped.cursor.1, shaped.cursor.2⟩
    · exact keeps_some shaped

theorem escDispatch_keeps (shaped : p.screen.Shaped cols rows) (inter : List UInt8) (byte : UInt8) :
    Keeps (p.escDispatch inter byte) cols rows ↔
      (RestoresCursor inter byte → SavedFits p.savedCursor cols rows) := by
  unfold escDispatch
  split
  next saves =>
    refine iff_of_true (keeps_some shaped) fun restores => ?_
    rcases saves with rfl | ⟨rfl, rfl⟩ <;> simp [RestoresCursor] at restores
  · split
    next restores =>
      rw [restoreCursor_keeps shaped]
      exact ⟨fun fits _ => fits, fun fits => fits restores⟩
    next other =>
      refine iff_of_true ?_ fun restores => absurd restores other
      split
      · exact reverseIndex_keeps shaped
      · split
        · exact keeps_some shaped
        · exact keeps_some shaped

theorem dispatchOsc133_silent (p : Performer) (params : List (List UInt8)) :
    p.Silent (p.dispatchOsc133 params) := by
  unfold dispatchOsc133
  split <;> exact ⟨⟨rfl, rfl, rfl, rfl⟩, rfl⟩

theorem dispatchOsc9_silent (p : Performer) (params : List (List UInt8)) :
    p.Silent (p.dispatchOsc9 params) := by
  unfold dispatchOsc9
  split
  · exact ⟨⟨rfl, rfl, rfl, rfl⟩, rfl⟩
  · dsimp only
    split <;> exact ⟨⟨rfl, rfl, rfl, rfl⟩, rfl⟩

theorem dispatchOsc777_silent (p : Performer) (params : List (List UInt8)) :
    p.Silent (p.dispatchOsc777 params) := by
  unfold dispatchOsc777
  split <;> exact ⟨⟨rfl, rfl, rfl, rfl⟩, rfl⟩

theorem oscDispatch_silent (p : Performer) {params : List (List UInt8)} (segment : params ≠ []) :
    ∃ next, p.oscDispatch params = some next ∧ p.Silent next := by
  cases params with
  | nil => exact absurd rfl segment
  | cons command rest =>
    refine ⟨_, rfl, ?_⟩
    split
    · exact dispatchOsc133_silent p _
    · split
      · exact dispatchOsc9_silent p _
      · split
        · exact dispatchOsc777_silent p _
        · exact .refl p

theorem oscDispatch_keeps (shaped : p.screen.Shaped cols rows) (params : List (List UInt8)) :
    Keeps (p.oscDispatch params) cols rows ↔ params ≠ [] := by
  constructor
  · rintro ⟨next, done, -⟩ rfl
    simp [oscDispatch] at done
  · intro segment
    obtain ⟨next, done, silent⟩ := oscDispatch_silent p segment
    exact ⟨next, done, silent.screen ▸ shaped⟩

end Performer

/-! ### One callback -/

/-- The condition under which a callback keeps the shape of a screen of `cols` columns and
`rows` rows. -/
def Callback.KeepsShape (width : Char → Option Nat) (cols rows : Nat) (p : Performer) :
    Callback → Prop
  | .print c =>
      (width c).getD 0 ≠ 0 →
        Performer.glyphCol p.screen.cursor.col cols ((width c).getD 0) + (width c).getD 0 ≤ cols
  | .oscDispatch params _ => params ≠ []
  | .csiDispatch params intermediates _ action => p.MarginsCondition params intermediates action
  | .escDispatch intermediates _ byte =>
      Performer.RestoresCursor intermediates byte → Performer.SavedFits p.savedCursor cols rows
  | .execute _ => True
  | .hook _ _ _ _ => True
  | .put _ => True
  | .unhook => True

variable {cols rows : Nat}

theorem perform_keeps (width : Char → Option Nat) {p : Performer}
    (shaped : p.screen.Shaped cols rows) (colsPos : 1 ≤ cols) (cb : Callback) :
    Performer.Keeps (p.perform width cb) cols rows ↔ cb.KeepsShape width cols rows p := by
  cases cb with
  | print c => exact Performer.print_keeps shaped width c
  | execute byte => exact iff_of_true (Performer.execute_keeps shaped colsPos byte) trivial
  | hook params inter ignore action =>
    exact iff_of_true (Performer.keeps_some shaped) trivial
  | put | unhook => exact iff_of_true (Performer.keeps_some shaped) trivial
  | oscDispatch params bellTerminated => exact Performer.oscDispatch_keeps shaped params
  | csiDispatch params inter ignore action =>
    exact Performer.csiDispatch_keeps shaped colsPos params inter action
  | escDispatch inter ignore byte =>
    exact Performer.escDispatch_keeps shaped inter byte

/-! ### Resizing -/

/-- After the row phase a row has the old width or, when it is new, the new one. -/
theorem ScreenBuffer.resizeRows_sized {buffer : ScreenBuffer} {oldCols oldRows : Nat}
    (sized : Sized buffer.cells oldCols oldRows) (cols rows : Nat)
    (scrollback : Option (List Row)) :
    ∃ cells hist cursorRow, buffer.resizeRows cols rows scrollback = some (cells, hist, cursorRow) ∧
      cells.length = rows ∧ ∀ line ∈ cells, line.length = oldCols ∨ line.length = cols := by
  have old (line : Row) (mem : line ∈ buffer.cells) :
      line.length = oldCols ∨ line.length = cols := Or.inl (sized.2 line mem)
  unfold resizeRows
  dsimp only
  split
  · obtain ⟨trimmed, bound, equal, -⟩ :=
      trimBlankRows_eq buffer.cursor.row (buffer.cells.length - rows) buffer.cells
    rw [equal]
    dsimp only
    rw [popTopRows_eq _ _ _ _ (by rw [length_take]; omega)]
    refine ⟨_, _, _, rfl, ?_, fun line mem => ?_⟩
    · rw [length_drop, length_take]
      omega
    · exact old line (mem_of_mem_take (mem_of_mem_drop mem))
  · split
    · exact ⟨_, _, _, rfl, resize_length _ _ _, resize_forall old (Or.inr length_replicate)⟩
    · exact ⟨_, _, _, rfl, by omega, old⟩

theorem Sized.firstWidth {cells : List Row} (sized : Sized cells cols rows) (rowsPos : 0 < rows) :
    (cells.head?.map length).getD 0 = cols := by
  have nonempty : 0 < cells.length := by rw [sized.1]; exact rowsPos
  rw [head?_eq_getElem?, getElem?_eq_getElem nonempty, map_some, getD_some]
  exact sized.2 _ (getElem_mem nonempty)

theorem ScreenBuffer.Shaped.resize {buffer : ScreenBuffer} {oldCols oldRows : Nat}
    (shaped : buffer.Shaped oldCols oldRows) (colsPos : 1 ≤ cols) (rowsPos : 1 ≤ rows)
    (scrollback : Option (List Row)) :
    ∃ next hist, buffer.resize cols rows scrollback = some (next, hist) ∧
      next.Shaped cols rows := by
  obtain ⟨cells, hist, cursorRow, done, cellCount, cellWidth⟩ :=
    resizeRows_sized shaped.sized cols rows scrollback
  unfold ScreenBuffer.resize
  rw [done, shaped.sized.firstWidth (Nat.lt_of_le_of_lt (Nat.zero_le _) shaped.cursor.1)]
  refine ⟨_, _, rfl, ⟨?_, ?_⟩, rfl, rfl, ⟨?_, ?_⟩, Nat.zero_le _, ?_⟩
  · unfold resizeCols
    split
    · rw [length_map, cellCount]
    · exact cellCount
  · unfold resizeCols
    split
    · intro line mem
      obtain ⟨old, -, rfl⟩ := mem_map.mp mem
      exact resize_length _ _ _
    next same =>
      rw [not_not] at same
      intro line mem
      rcases cellWidth line mem with old | new
      · rw [old, same]
      · exact new
  · dsimp only
    split <;> omega
  · dsimp only
    split <;> omega
  · dsimp only
    omega

/-! ### The whole screen -/

namespace VirtualScreen

variable {Parser : Type}

/-- Both buffers have the shape that the screen states. -/
structure Shaped (vs : VirtualScreen Parser) : Prop where
  colsPos : 1 ≤ vs.cols
  rowsPos : 1 ≤ vs.rows
  primary : vs.primary.Shaped vs.cols vs.rows
  alternate : vs.alternate.Shaped vs.cols vs.rows

theorem new_shaped (parser : Parser) {cols rows : Nat} (colsPos : 1 ≤ cols)
    (rowsPos : 1 ≤ rows) : (new parser cols rows).Shaped :=
  ⟨colsPos, rowsPos, ScreenBuffer.new_shaped cols rowsPos, ScreenBuffer.new_shaped cols rowsPos⟩

variable {vs : VirtualScreen Parser}

theorem Shaped.active (shaped : vs.Shaped) : vs.active.Shaped vs.cols vs.rows := by
  unfold VirtualScreen.active
  split
  · exact shaped.alternate
  · exact shaped.primary

theorem Shaped.giveBack (shaped : vs.Shaped) {p : Performer}
    (kept : p.screen.Shaped vs.cols vs.rows) : (vs.giveBack p).Shaped := by
  refine ⟨shaped.colsPos, shaped.rowsPos, ?_, ?_⟩
  · show (if vs.usingAlternate then vs.primary else p.screen).Shaped vs.cols vs.rows
    split
    · exact shaped.primary
    · exact kept
  · show (if vs.usingAlternate then p.screen else vs.alternate).Shaped vs.cols vs.rows
    split
    · exact kept
    · exact shaped.alternate

/-- A switch keeps the shape unless it leaves the alternate screen with a saved cursor outside
the grid. -/
theorem switch_shaped_iff (shaped : vs.Shaped) (req : Option Bool) :
    (vs.switch req).Shaped ↔ (req = some false → vs.usingAlternate = true →
        Performer.SavedFits vs.savedCursor vs.cols vs.rows) := by
  rcases req with _ | enter
  · exact iff_of_true shaped (by simp)
  · cases enter with
    | true =>
      refine iff_of_true ?_ (by simp)
      unfold switch
      dsimp only
      split
      · exact shaped
      · exact ⟨shaped.colsPos, shaped.rowsPos, shaped.primary,
          ScreenBuffer.new_shaped vs.cols shaped.rowsPos⟩
    | false =>
      unfold switch
      dsimp only
      split
      next alternate =>
        simp only [alternate, forall_const]
        constructor
        · rintro after cursor held
          have primary := after.primary
          rw [leaveAlternate] at primary
          simp only [held] at primary
          exact primary.cursor
        · intro fits
          refine ⟨shaped.colsPos, shaped.rowsPos, ?_, shaped.alternate⟩
          unfold leaveAlternate
          dsimp only
          split
          next saved held =>
            exact shaped.primary.withCursor (fits saved held)
          · exact shaped.primary
      next primary =>
        exact iff_of_true shaped fun _ alternate => absurd alternate primary

theorem resize_shaped (shaped : vs.Shaped) {cols rows : Nat} (colsPos : 1 ≤ cols)
    (rowsPos : 1 ≤ rows) :
    ∃ next, vs.resize cols rows = some next ∧ next.Shaped := by
  obtain ⟨primary, hist, primaryDone, primaryShaped⟩ :=
    shaped.primary.resize colsPos rowsPos (some vs.scrollback)
  obtain ⟨alternate, none', alternateDone, alternateShaped⟩ :=
    shaped.alternate.resize colsPos rowsPos none
  unfold resize
  rw [primaryDone, bind_eq_bind, bind_some]
  dsimp only
  rw [alternateDone, bind_some]
  exact ⟨_, rfl, colsPos, rowsPos, primaryShaped, alternateShaped⟩

/-! ### Runs -/

variable (width : Char → Option Nat)

/-- No action of one byte panics, and after each of them and after the switch the screen has its
shape. -/
def ByteStays (vs : VirtualScreen Parser) (callbacks : List Callback) : Prop :=
  Fallible.Stays (Performer.perform width) (fun p => p.screen.Shaped vs.cols vs.rows)
      vs.performer callbacks ∧
    ∀ p, Fallible.run (Performer.perform width) vs.performer callbacks = some p →
      ((vs.giveBack p).switch p.pendingSwitch).Shaped

/-- Each callback of one byte keeps the shape, and a cursor restored by leaving the alternate screen
lies inside the grid. -/
def ByteKeeps (vs : VirtualScreen Parser) (callbacks : List Callback) : Prop :=
  Fallible.Meets (Performer.perform width)
      (fun p callback => callback.KeepsShape width vs.cols vs.rows p) vs.performer callbacks ∧
    ∀ p, Fallible.run (Performer.perform width) vs.performer callbacks = some p →
      p.pendingSwitch = some false → vs.usingAlternate = true →
      Performer.SavedFits p.savedCursor vs.cols vs.rows

theorem byteStays_iff (shaped : vs.Shaped) (callbacks : List Callback) :
    vs.ByteStays width callbacks ↔ vs.ByteKeeps width callbacks := by
  have start : vs.performer.screen.Shaped vs.cols vs.rows := shaped.active
  have callbackwise := stays_iff_meets
    (fun p : Performer => p.screen.Shaped vs.cols vs.rows)
    (fun p cb (kept : p.screen.Shaped vs.cols vs.rows) =>
      perform_keeps width kept shaped.colsPos cb) start callbacks
  unfold ByteStays ByteKeeps
  rw [callbackwise]
  refine and_congr_right fun met => forall_congr' fun p => imp_congr_right fun reached => ?_
  obtain ⟨final, finalReached, finalShaped⟩ := Stays.run
    (fun p : Performer => p.screen.Shaped vs.cols vs.rows) start
    (callbackwise.mpr met)
  rw [reached] at finalReached
  cases finalReached
  exact switch_shaped_iff (shaped.giveBack finalShaped) p.pendingSwitch

theorem perform_total (shaped : vs.Shaped) {cbs : List Callback} (stays : vs.ByteStays width cbs) :
    ∃ next, vs.perform width cbs = some next ∧ next.Shaped := by
  obtain ⟨p, reached, -⟩ := Stays.run
    (fun p : Performer => p.screen.Shaped vs.cols vs.rows) shaped.active stays.1
  exact ⟨_, by rw [perform, reached]; rfl, stays.2 p reached⟩

end VirtualScreen

section

variable (vte : Vte) (width : Char → Option Nat)

/-- The byte at hand is applied at every step with the shape kept. -/
def FeedByteStays (vs : VirtualScreen vte.Parser) (byte : UInt8) : Prop :=
  let (parser, callbacks) := vte.advance vs.parser byte
  { vs with parser }.ByteStays width callbacks

def FeedByteKeeps (vs : VirtualScreen vte.Parser) (byte : UInt8) : Prop :=
  let (parser, callbacks) := vte.advance vs.parser byte
  { vs with parser }.ByteKeeps width callbacks

/-- A call keeps the shape at every one of its steps, and no step of it panics. -/
def CallStays (vs : VirtualScreen vte.Parser) : ScreenCall → Prop
  | .feed data =>
      Fallible.Meets (VirtualScreen.feedByte vte width) (FeedByteStays vte width)
        (vs.collectOutput data) data
  | .resize cols rows => ∃ next, vs.resize cols rows = some next ∧ next.Shaped

/-- The condition on a call: its bytes keep the shape, its sizes are positive. -/
def CallKeeps (vs : VirtualScreen vte.Parser) : ScreenCall → Prop
  | .feed data =>
      Fallible.Meets (VirtualScreen.feedByte vte width) (FeedByteKeeps vte width)
        (vs.collectOutput data) data
  | .resize cols rows => 1 ≤ cols ∧ 1 ≤ rows

variable {vte} {width}

variable {vs : VirtualScreen vte.Parser}

theorem feedByte_total (shaped : vs.Shaped) {byte : UInt8}
    (stays : FeedByteStays vte width vs byte) :
    ∃ next, vs.feedByte vte width byte = some next ∧ next.Shaped :=
  have advanced : { vs with parser := (vte.advance vs.parser byte).1 }.Shaped :=
    ⟨shaped.colsPos, shaped.rowsPos, shaped.primary, shaped.alternate⟩
  VirtualScreen.perform_total width advanced stays

theorem collectOutput_shaped (shaped : vs.Shaped)
    (data : List UInt8) : (vs.collectOutput data).Shaped := by
  unfold VirtualScreen.collectOutput
  split
  · exact shaped
  · exact ⟨shaped.colsPos, shaped.rowsPos, shaped.primary, shaped.alternate⟩

theorem callStays_iff (shaped : vs.Shaped) (call : ScreenCall) :
    CallStays vte width vs call ↔ CallKeeps vte width vs call := by
  cases call with
  | feed data =>
    refine meets_congr VirtualScreen.Shaped
      (fun state byte (kept : state.Shaped) => ?_)
      (fun state byte next kept stays done =>
        of_total (feedByte_total kept stays) done)
      (collectOutput_shaped shaped data) data
    have advanced : { state with parser := (vte.advance state.parser byte).1 }.Shaped :=
      ⟨kept.colsPos, kept.rowsPos, kept.primary, kept.alternate⟩
    exact VirtualScreen.byteStays_iff width advanced (vte.advance state.parser byte).2
  | resize cols rows =>
    constructor
    · rintro ⟨next, done, kept⟩
      unfold VirtualScreen.resize at done
      obtain ⟨⟨primary, hist⟩, -, done⟩ := bind_eq_some_iff.mp done
      obtain ⟨⟨alternate, none'⟩, -, done⟩ := bind_eq_some_iff.mp done
      cases done
      exact ⟨kept.colsPos, kept.rowsPos⟩
    · exact fun positive => VirtualScreen.resize_shaped shaped positive.1 positive.2

theorem call_total (shaped : vs.Shaped) {call : ScreenCall} (stays : CallStays vte width vs call) :
    ∃ next, vs.call vte width call = some next ∧ next.Shaped := by
  cases call with
  | feed data =>
    exact run_total (fun _ _ kept byteStays => feedByte_total kept byteStays)
      (collectOutput_shaped shaped data) stays
  | resize cols rows => exact stays

end

theorem run_shaped (vte : Vte) (width : Char → Option Nat) {vs : VirtualScreen vte.Parser}
    (shaped : vs.Shaped) {calls : List ScreenCall}
    (stays : Meets (VirtualScreen.call vte width) (CallStays vte width) vs calls) :
    ∃ final, run (VirtualScreen.call vte width) vs calls = some final ∧ final.Shaped :=
  run_total (fun _ _ kept callStays => call_total kept callStays) shaped stays

/-- A run of feeds and resizes keeps the shape of both buffers at every step, without a panic,
exactly when each of its steps meets the condition. -/
theorem run_keeps_shape (vte : Vte) (width : Char → Option Nat) {cols rows : Nat}
    (colsPos : 1 ≤ cols) (rowsPos : 1 ≤ rows) (calls : List ScreenCall) :
    Fallible.Meets (VirtualScreen.call vte width) (CallStays vte width)
        (.new vte.new cols rows) calls ↔
      Fallible.Meets (VirtualScreen.call vte width) (CallKeeps vte width)
        (.new vte.new cols rows) calls :=
  meets_congr VirtualScreen.Shaped (fun _ call shaped => callStays_iff shaped call)
    (fun _ _ _ shaped stays done => of_total (call_total shaped stays) done)
    (VirtualScreen.new_shaped vte.new colsPos rowsPos) calls

/-- A standard screen that is fed a scroll region in order keeps its shape exactly when the
bytes meet the condition. -/
theorem run_keeps_shape_standard :
    Fallible.Meets (VirtualScreen.call smallVte smallWidth) (CallStays smallVte smallWidth)
        (.new smallVte.new 80 24) [.feed (textBytes "\x1b[2;5r".toList), .resize 40 10] ↔
      Fallible.Meets (VirtualScreen.call smallVte smallWidth) (CallKeeps smallVte smallWidth)
        (.new smallVte.new 80 24) [.feed (textBytes "\x1b[2;5r".toList), .resize 40 10] :=
  run_keeps_shape smallVte smallWidth (by decide) (by decide) _

/-- A scroll region set with its top below its bottom is stored as it is; and a cursor saved on the
last row is restored after the screen has shrunk. -/
theorem inverted_region_and_stale_cursor :
    ¬ Fallible.Meets (VirtualScreen.call smallVte smallWidth) (CallStays smallVte smallWidth)
        (.new smallVte.new 80 24) [.feed (textBytes "\x1b[5;2r".toList)] ∧
      Fallible.run (VirtualScreen.call smallVte smallWidth) (.new smallVte.new 10 2)
        [.feed (textBytes "\x1b[2;1H\x1b7".toList), .resize 10 1,
          .feed (textBytes "\x1b8\x1b[K".toList)] = none := by
  constructor
  · intro stays
    obtain ⟨final, reached, shaped⟩ := run_shaped smallVte smallWidth
      (VirtualScreen.new_shaped _ (by decide) (by decide)) stays
    have margins : (Fallible.run (VirtualScreen.call smallVte smallWidth)
        (.new smallVte.new 80 24) [.feed (textBytes "\x1b[5;2r".toList)]).map
          (fun vs => (vs.primary.scrollTop, vs.primary.scrollBottom)) = some (4, 1) := by
      decide +kernel
    rw [reached] at margins
    have ordered := shaped.primary.margins
    simp only [map_some, Option.some.injEq, Prod.mk.injEq] at margins
    omega
  · rfl

end Dinotty.Screen
