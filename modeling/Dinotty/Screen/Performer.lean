/-
This file is the performer of the virtual screen: the actions that the escape-sequence parser calls
back. An action answers `none` where the program panics. The display width of a character comes from
a table outside the repository and is a parameter.
-/

import Dinotty.Screen.Data
import Dinotty.Screen.Text

namespace Dinotty.Screen

/-- What the performer borrows for one byte: the active buffer and the state shared by both buffers.
-/
structure Performer where
  screen : ScreenBuffer
  scrollback : List Row
  savedCursor : Option CursorState
  pendingSwitch : Option Bool
  usingAlternate : Bool
  commandState : CommandState
  pendingCommand : Option PendingCommand
  commandResults : List CommandResult
  syncEvents : List SyncEvent
  oscActions : List OscAction
  privateModes : PrivateModes
  deriving DecidableEq, Repr

/-- A callback of the escape-sequence parser. Each inner list of `params` is one parameter
with its colon-separated sub-parameters. -/
inductive Callback where
  | print (c : Char)
  | execute (byte : UInt8)
  | hook (params : List (List UInt16)) (intermediates : List UInt8) (ignore : Bool)
      (action : Char)
  | put (byte : UInt8)
  | unhook
  | oscDispatch (params : List (List UInt8)) (bellTerminated : Bool)
  | csiDispatch (params : List (List UInt16)) (intermediates : List UInt8) (ignore : Bool)
      (action : Char)
  | escDispatch (intermediates : List UInt8) (ignore : Bool) (byte : UInt8)
  deriving DecidableEq, Repr

/-! ### Cursor and rows -/

variable (p : Performer)

def Performer.mapCursor (change : CursorState → CursorState) : Performer :=
  { p with screen := { p.screen with cursor := change p.screen.cursor } }

def Performer.mapAttrs (change : CellAttrs → CellAttrs) : Performer :=
  p.mapCursor fun cursor => { cursor with attrs := change cursor.attrs }

/-- Replace the cells of the active buffer by what a fallible change makes of them. -/
def Performer.mapCells (change : List Row → Option (List Row)) : Option Performer :=
  (change p.screen.cells).map fun cells => { p with screen := { p.screen with cells } }

/-- Move to the next row, scrolling when the cursor leaves the bottom margin. -/
def Performer.lineFeed : Option Performer :=
  let row := p.screen.cursor.row + 1
  if row > p.screen.scrollBottom then do
    let screen := { p.screen with cursor := { p.screen.cursor with row := p.screen.scrollBottom } }
    let (screen, scrollback) ← screen.scrollUp p.scrollback
    return { p with screen, scrollback }
  else
    some (p.mapCursor fun cursor => { cursor with row })

def Performer.scrollUp (p : Performer) : Option Performer := do
  let (screen, scrollback) ← p.screen.scrollUp p.scrollback
  return { p with screen, scrollback }

def Performer.scrollDown (p : Performer) : Option Performer := do
  let screen ← p.screen.scrollDown
  return { p with screen }

/-! ### Printing -/

/-- Wrap to the start of the next row. -/
def Performer.wrap : Option Performer :=
  (p.mapCursor fun cursor => { cursor with col := 0 }).lineFeed

def Performer.wrapIf (condition : Prop) [Decidable condition] : Option Performer :=
  if condition then p.wrap else some p

/-- Append a combining mark to the cell on the left of the cursor. -/
def Performer.printCombining (c : Char) : Option Performer :=
  let row := p.screen.cursor.row
  let col := p.screen.cursor.col
  if row < p.screen.rows ∧ col > 0 then
    p.mapCells fun cells => Vec.update cells row fun line =>
      Vec.update line (col - 1) fun prev =>
        some (if prev.ch ≠ ' ' ∧ prev.ch ≠ nul then prev.pushCombining c else prev)
  else some p

/-- Write a glyph into a row: clear the orphaned half of a wide glyph it overwrites, and store its
continuation. -/
def putGlyph (width : Char → Option Nat) (cols : Nat) (c : Char) (w : Nat) (attrs : CellAttrs)
    (col : Nat) (line : Row) : Option Row := do
  let old ← ((line)[col]?).map Cell.ch
  let line ← Vec.setIf (old = nul ∧ col > 0) line (col - 1) Cell.blank
  let line ← Vec.setIf (old ≠ nul ∧ old ≠ ' ' ∧ width old = some 2 ∧ col + 1 < cols)
    line (col + 1) Cell.blank
  let line ← Vec.set line col { ch := c, combining := [], attrs }
  Vec.setIf (w = 2 ∧ col + 1 < cols) line (col + 1) { ch := nul, combining := [], attrs }

def Performer.drawGlyph (width : Char → Option Nat) (p : Performer) (c : Char) (w : Nat) :
    Option Performer :=
  let row := p.screen.cursor.row
  let col := p.screen.cursor.col
  if row < p.screen.rows ∧ col < p.screen.cols then
    p.mapCells fun cells => Vec.update cells row
      (putGlyph width p.screen.cols c w p.screen.cursor.attrs col)
  else some p

/-- Print a glyph: wrap when the row is full, wrap again when a wide glyph has only the last
column left, store the glyph and advance. -/
def Performer.printGlyph (width : Char → Option Nat) (p : Performer) (c : Char) (w : Nat) :
    Option Performer := do
  let p ← p.wrapIf (p.screen.cursor.col ≥ p.screen.cols)
  let p ← p.wrapIf (w = 2 ∧ p.screen.cursor.col + 1 ≥ p.screen.cols)
  let p ← p.drawGlyph width c w
  return p.mapCursor fun cursor => { cursor with col := cursor.col + w }

def Performer.print (width : Char → Option Nat) (p : Performer) (c : Char) : Option Performer :=
  let w := (width c).getD 0
  if w = 0 then p.printCombining c else p.printGlyph width c w

/-! ### Control characters -/

def Performer.execute (byte : UInt8) : Option Performer :=
  match byte with
  | 0x08 => some (p.mapCursor fun cursor => { cursor with col := cursor.col - 1 })
  | 0x09 =>
      let col := (p.screen.cursor.col / 8 + 1) * 8
      some (p.mapCursor fun cursor =>
        { cursor with col := if col ≥ p.screen.cols then p.screen.cols - 1 else col })
  | 0x0A | 0x0B | 0x0C => p.lineFeed
  | 0x0D => some (p.mapCursor fun cursor => { cursor with col := 0 })
  | 0x07 => some { p with oscActions := p.oscActions ++ [.bell] }
  | _ => some p

/-! ### Operating-system commands -/

/-- OSC 133: shell integration. -/
def Performer.dispatchOsc133 (params : List (List UInt8)) : Performer :=
  match params with
  | _ :: [0x41] :: _ => { p with commandState := .idle, pendingCommand := none }
  | _ :: [0x42] :: _ =>
      let interrupted := p.commandState ≠ .idle ∧ p.pendingCommand.isSome
      { p with
        commandResults :=
          if interrupted then p.commandResults ++ [{ exitCode := -1, method := "interrupted" }]
          else p.commandResults
        commandState := .commandStart
        pendingCommand := some { outputBuf := [] } }
  | _ :: [0x44] :: rest =>
      let exitCode := ((rest.head?).bind parseI32).getD (-1)
      { p with
        commandResults := p.commandResults ++ [{ exitCode, method := "shell_integration" }]
        commandState := .idle
        pendingCommand := none }
  | _ => p

/-- Rejoin the segments that the parser split at semicolons. -/
def joinSegments (segments : List (List UInt8)) : List UInt8 :=
  [(0x3B : UInt8)].intercalate segments

/-- OSC 9: terminal notification. -/
def Performer.dispatchOsc9 (params : List (List UInt8)) : Performer :=
  if params[1]? = some [0x34] ∨ params[1]? = some [0x39] then p
  else
    let msg := joinSegments (params.drop 1)
    if msg = [] then { p with oscActions := p.oscActions ++ [.bell] }
    else
      { p with
        oscActions := p.oscActions ++ [.notify none (truncateUtf8 (fromUtf8Lossy msg))] }

def notifySend : List UInt8 := "notifysend".toList.map fun c => UInt8.ofNat c.toNat

def notifyCommand : List UInt8 := "notify".toList.map fun c => UInt8.ofNat c.toNat

/-- OSC 777: notification with an optional title. -/
def Performer.dispatchOsc777 (params : List (List UInt8)) : Performer :=
  if params[1]? = some notifySend ∨ params[1]? = some notifyCommand then
    let payload := fromUtf8Lossy (joinSegments (params.drop 2))
    let action :=
      if ';' ∈ payload then
        OscAction.notify (some (truncateUtf8 (payload.takeWhile (· ≠ ';'))))
          (truncateUtf8 ((payload.dropWhile (· ≠ ';')).drop 1))
      else OscAction.notify none (truncateUtf8 payload)
    { p with oscActions := p.oscActions ++ [action] }
  else p

/-- The first segment is indexed without a check, so an empty list of segments panics. -/
def Performer.oscDispatch (params : List (List UInt8)) : Option Performer :=
  match params with
  | [] => none
  | command :: _ =>
      some (if command = [0x31, 0x33, 0x33] then p.dispatchOsc133 params
        else if command = [0x39] then p.dispatchOsc9 params
        else if command = [0x37, 0x37, 0x37] then p.dispatchOsc777 params
        else p)

/-! ### Graphic rendition -/

def CellAttrs.applyCode (attrs : CellAttrs) (code : Nat) (sub : Option Nat) : CellAttrs :=
  match code with
  | 0 => {}
  | 1 => { attrs with bold := true }
  | 2 => { attrs with dim := true }
  | 3 => { attrs with italic := true }
  | 4 => { attrs with underline := sub ≠ some 0 }
  | 7 => { attrs with inverse := true }
  | 9 => { attrs with strikethrough := true }
  | 21 | 22 => { attrs with bold := false, dim := false }
  | 23 => { attrs with italic := false }
  | 24 => { attrs with underline := false }
  | 27 => { attrs with inverse := false }
  | 29 => { attrs with strikethrough := false }
  | 39 => { attrs with fg := none }
  | 49 => { attrs with bg := none }
  | code =>
      if 30 ≤ code ∧ code ≤ 37 then
        { attrs with fg := some (.indexed (UInt8.ofNat (code - 30))) }
      else if 40 ≤ code ∧ code ≤ 47 then
        { attrs with bg := some (.indexed (UInt8.ofNat (code - 40))) }
      else if 90 ≤ code ∧ code ≤ 97 then
        { attrs with fg := some (.indexed (UInt8.ofNat (code - 90 + 8))) }
      else if 100 ≤ code ∧ code ≤ 107 then
        { attrs with bg := some (.indexed (UInt8.ofNat (code - 100 + 8))) }
      else attrs

/-- The items after an extended-colour code: the colour they select, if they select one, and
the number of items taken. -/
def extendedColor : List (Nat × Option Nat) → Option Color × Nat
  | [] => (none, 0)
  | (5, _) :: [] => (none, 1)
  | (5, _) :: (index, _) :: _ => (some (.indexed (UInt8.ofNat index)), 2)
  | (2, _) :: (red, _) :: (green, _) :: (blue, _) :: _ =>
      (some (.rgb (UInt8.ofNat red) (UInt8.ofNat green) (UInt8.ofNat blue)), 4)
  | _ :: _ => (none, 1)

/-- The rendition after a list of items. The first argument counts the items still to skip. -/
def CellAttrs.applyItems : Nat → CellAttrs → List (Nat × Option Nat) → CellAttrs
  | _, attrs, [] => attrs
  | skip + 1, attrs, _ :: rest => CellAttrs.applyItems skip attrs rest
  | 0, attrs, (code, sub) :: rest =>
      if code = 38 then
        let (color, taken) := extendedColor rest
        CellAttrs.applyItems taken (color.elim attrs fun c => { attrs with fg := some c }) rest
      else if code = 48 then
        let (color, taken) := extendedColor rest
        CellAttrs.applyItems taken (color.elim attrs fun c => { attrs with bg := some c }) rest
      else CellAttrs.applyItems 0 (attrs.applyCode code sub) rest

/-- Each parameter with its first sub-parameter. -/
def sgrItems (params : List (List UInt16)) : List (Nat × Option Nat) :=
  params.filterMap fun sub =>
    sub.head?.map fun code => (code.toNat, (sub[1]?).map UInt16.toNat)

def applySgr (params : List (List UInt16)) (attrs : CellAttrs) : CellAttrs :=
  if params = [] then {} else CellAttrs.applyItems 0 attrs (sgrItems params)

/-! ### Control sequences -/

def Performer.setMode (mode : Nat) : Performer :=
  match mode with
  | 1 => { p with privateModes := { p.privateModes with cursorKeys := true } }
  | 9 => { p with privateModes := { p.privateModes with mouse := .x10 } }
  | 47 | 1047 | 1049 => { p with pendingSwitch := some true }
  | 66 => { p with privateModes := { p.privateModes with keypad := true } }
  | 1000 => { p with privateModes := { p.privateModes with mouse := .normal } }
  | 1002 => { p with privateModes := { p.privateModes with mouse := .button } }
  | 1003 => { p with privateModes := { p.privateModes with mouse := .any } }
  | 1004 => { p with privateModes := { p.privateModes with focusEvent := true } }
  | 1006 => { p with privateModes := { p.privateModes with encoding := .sgr } }
  | 1016 => { p with privateModes := { p.privateModes with encoding := .sgrPixels } }
  | 2004 => { p with privateModes := { p.privateModes with bracketedPaste := true } }
  | 2026 => { p with syncEvents := p.syncEvents ++ [.start] }
  | _ => p

def Performer.resetMode (mode : Nat) : Performer :=
  match mode with
  | 1 => { p with privateModes := { p.privateModes with cursorKeys := false } }
  | 9 | 1000 | 1002 | 1003 => { p with privateModes := { p.privateModes with mouse := .none } }
  | 47 | 1047 | 1049 => { p with pendingSwitch := some false }
  | 66 => { p with privateModes := { p.privateModes with keypad := false } }
  | 1004 => { p with privateModes := { p.privateModes with focusEvent := false } }
  | 1006 | 1016 => { p with privateModes := { p.privateModes with encoding := .default } }
  | 2004 => { p with privateModes := { p.privateModes with bracketedPaste := false } }
  | 2026 => { p with syncEvents := p.syncEvents ++ [.stop] }
  | _ => p

/-- The control functions that the screen implements. -/
inductive ControlFunction where
  | cursorUp
  | cursorDown
  | cursorForward
  | cursorBack
  | cursorPosition
  | eraseDisplay
  | eraseLine
  | insertLines
  | deleteLines
  | deleteCharacters
  | insertCharacters
  | scrollUp
  | scrollDown
  | setScrollRegion
  | linePosition
  | cursorColumn
  | eraseCharacters
  | graphicRendition
  deriving DecidableEq, Repr

def ControlFunction.ofFinal (action : Char) : Option ControlFunction :=
  match action with
  | 'A' => some .cursorUp
  | 'B' => some .cursorDown
  | 'C' => some .cursorForward
  | 'D' => some .cursorBack
  | 'H' | 'f' => some .cursorPosition
  | 'J' => some .eraseDisplay
  | 'K' => some .eraseLine
  | 'L' => some .insertLines
  | 'M' => some .deleteLines
  | 'P' => some .deleteCharacters
  | '@' => some .insertCharacters
  | 'S' => some .scrollUp
  | 'T' => some .scrollDown
  | 'r' => some .setScrollRegion
  | 'd' => some .linePosition
  | 'G' | '`' => some .cursorColumn
  | 'X' => some .eraseCharacters
  | 'm' => some .graphicRendition
  | _ => none

/-- A parameter that counts from one, with zero standing for one. -/
def orOne (n : Nat) : Nat := if n = 0 then 1 else n

def eraseRow (line : Row) : Row := blankRow line.length

/-- Blank the rows from `start` up to `stop`, indexing each of them. -/
def eraseRows (cells : List Row) (start stop : Nat) : Option (List Row) :=
  if stop ≤ start then some cells
  else if stop ≤ cells.length then
    some (cells.take start ++ ((cells.take stop).drop start).map eraseRow ++ cells.drop stop)
  else none

/-- One round of inserting a line: drop the row at the bottom margin and insert a blank row at
the cursor. -/
def insertLine (row scrollBottom cols : Nat) (cells : List Row) : Option (List Row) := do
  let cells ←
    if scrollBottom < cells.length then (Vec.remove cells scrollBottom).map Prod.snd
    else some cells
  Vec.insert cells row (blankRow cols)

def deleteLine (row scrollBottom cols : Nat) (cells : List Row) : Option (List Row) := do
  let cells ← if row < cells.length then (Vec.remove cells row).map Prod.snd else some cells
  Vec.insert cells scrollBottom (blankRow cols)

def deleteCharacter (col : Nat) (line : Row) : Option Row :=
  if col < line.length then (Vec.remove line col).map fun removed => removed.2 ++ [Cell.blank]
  else some line

def insertCharacter (col cols : Nat) (line : Row) : Option Row :=
  (Vec.insert line col Cell.blank).map fun inserted => inserted.take cols

/-- Blank `count` cells from `col` on, the ones past the last column excepted. -/
def eraseCells (col cols : Nat) : Nat → Row → Option Row
  | 0, line => some line
  | count + 1, line => do
      let line ← eraseCells col cols count line
      if col + count < cols then Vec.set line (col + count) Cell.blank else some line

def Performer.eraseDisplay (selector : Nat) : Option Performer :=
  let row := p.screen.cursor.row
  let col := p.screen.cursor.col
  match selector with
  | 0 => p.mapCells fun cells => do
      let cells ← Vec.update cells row fun line => Vec.fillFrom line col Cell.blank
      eraseRows cells (row + 1) p.screen.rows
  | 1 => p.mapCells fun cells => do
      let cells ← eraseRows cells 0 row
      Vec.update cells row fun line =>
        Vec.fillThrough line (min col (p.screen.cols - 1)) Cell.blank
  | 2 | 3 => p.mapCells fun cells => some (cells.map eraseRow)
  | _ => some p

def Performer.eraseLine (selector : Nat) : Option Performer :=
  let row := p.screen.cursor.row
  let col := p.screen.cursor.col
  match selector with
  | 0 => p.mapCells fun cells => Vec.update cells row fun line => Vec.fillFrom line col Cell.blank
  | 1 => p.mapCells fun cells => Vec.update cells row fun line =>
      Vec.fillThrough line (min col (p.screen.cols - 1)) Cell.blank
  | 2 => p.mapCells fun cells => Vec.update cells row fun line => some (eraseRow line)
  | _ => some p

/-- The effect of a control function with its first two parameters. The rendition reads the
whole parameter list. -/
def Performer.control (function : ControlFunction) (params : List (List UInt16))
    (p0 p1 : Nat) : Option Performer :=
  let row := p.screen.cursor.row
  let col := p.screen.cursor.col
  let rows := p.screen.rows
  let cols := p.screen.cols
  match function with
  | .cursorUp => some (p.mapCursor fun cursor => { cursor with row := row - orOne p0 })
  | .cursorDown =>
      some (p.mapCursor fun cursor => { cursor with row := min (row + orOne p0) (rows - 1) })
  | .cursorForward =>
      some (p.mapCursor fun cursor => { cursor with col := min (col + orOne p0) (cols - 1) })
  | .cursorBack => some (p.mapCursor fun cursor => { cursor with col := col - orOne p0 })
  | .cursorPosition =>
      some (p.mapCursor fun cursor =>
        { cursor with
          row := min (orOne p0 - 1) (rows - 1)
          col := min (orOne p1 - 1) (cols - 1) })
  | .eraseDisplay => p.eraseDisplay p0
  | .eraseLine => p.eraseLine p0
  | .insertLines =>
      p.mapCells (Fallible.repeatTimes (insertLine row p.screen.scrollBottom cols) (orOne p0))
  | .deleteLines =>
      p.mapCells (Fallible.repeatTimes (deleteLine row p.screen.scrollBottom cols) (orOne p0))
  | .deleteCharacters => p.mapCells fun cells =>
      Vec.update cells row (Fallible.repeatTimes (deleteCharacter col) (orOne p0))
  | .insertCharacters => p.mapCells fun cells =>
      Vec.update cells row (Fallible.repeatTimes (insertCharacter col cols) (orOne p0))
  | .scrollUp => Fallible.repeatTimes Performer.scrollUp (orOne p0) p
  | .scrollDown => Fallible.repeatTimes Performer.scrollDown (orOne p0) p
  | .setScrollRegion =>
      let bottom := if p1 = 0 then rows else p1
      some { p with
        screen := { p.screen with
          scrollTop := min (orOne p0 - 1) (rows - 1)
          scrollBottom := min (bottom - 1) (rows - 1)
          cursor := { p.screen.cursor with row := 0, col := 0 } } }
  | .linePosition =>
      some (p.mapCursor fun cursor => { cursor with row := min (orOne p0 - 1) (rows - 1) })
  | .cursorColumn =>
      some (p.mapCursor fun cursor => { cursor with col := min (orOne p0 - 1) (cols - 1) })
  | .eraseCharacters =>
      if col < cols then
        p.mapCells fun cells => Vec.update cells row (eraseCells col cols (orOne p0))
      else some p
  | .graphicRendition => some (p.mapAttrs (applySgr params))

def Performer.csiDispatch (params : List (List UInt16))
    (intermediates : List UInt8) (action : Char) : Option Performer :=
  let ps := params.flatten.map UInt16.toNat
  if intermediates = [0x3F] then
    match action with
    | 'h' => some (ps.foldl Performer.setMode p)
    | 'l' => some (ps.foldl Performer.resetMode p)
    | _ => some p
  else if intermediates = [0x21] ∧ action = 'p' then
    some { p with privateModes := p.privateModes.softReset }
  else if intermediates ≠ [] then some p
  else
    match ControlFunction.ofFinal action with
    | some function => p.control function params (ps[0]?.getD 0) (ps[1]?.getD 0)
    | none => some p

/-! ### Escape sequences -/

def Performer.saveCursor : Performer :=
  { p with savedCursor := some p.screen.cursor }

def Performer.restoreCursor : Performer :=
  match p.savedCursor with
  | some saved => p.mapCursor fun _ => saved
  | none => p

/-- Reverse index. -/
def Performer.reverseIndex : Option Performer :=
  if p.screen.cursor.row = p.screen.scrollTop then p.scrollDown
  else if p.screen.cursor.row > 0 then
    some (p.mapCursor fun cursor => { cursor with row := cursor.row - 1 })
  else some p

def Performer.escDispatch (intermediates : List UInt8) (byte : UInt8) : Option Performer :=
  if intermediates = [0x37] ∨ intermediates = [] ∧ byte = 0x37 then some p.saveCursor
  else if intermediates = [0x38] ∨ intermediates = [] ∧ byte = 0x38 then some p.restoreCursor
  else if intermediates = [] ∧ byte = 0x4D then p.reverseIndex
  else if intermediates = [] ∧ byte = 0x63 then some { p with privateModes := {} }
  else some p

def Performer.perform (width : Char → Option Nat) (p : Performer) : Callback → Option Performer
  | .print c => p.print width c
  | .execute byte => p.execute byte
  | .hook _ _ _ _ => some p
  | .put _ => some p
  | .unhook => some p
  | .oscDispatch params _ => p.oscDispatch params
  | .csiDispatch params intermediates _ action => p.csiDispatch params intermediates action
  | .escDispatch intermediates _ byte => p.escDispatch intermediates byte

end Dinotty.Screen
