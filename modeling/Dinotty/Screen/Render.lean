/-
This file is the renderer of the virtual screen, and the three texts made of it: the snapshot, the
history in chunks and the snapshot for a reconnecting client. It writes a list of tokens.
-/

import Dinotty.Screen.Parser

namespace Dinotty.Screen

def tokenText (tokens : List Token) : List Char := tokens.flatMap Token.text

/-! ### Attributes -/

/-- The parameters that select a colour, given the codes of the first eight colours, of the
eight bright ones and of the extended form. -/
def colorParams (base bright extended : Nat) : Option Color → List Nat
  | some (.indexed index) =>
      if index < 8 then [base + index.toNat]
      else if index < 16 then [bright + index.toNat - 8]
      else [extended, 5, index.toNat]
  | some (.rgb red green blue) => [extended, 2, red.toNat, green.toNat, blue.toNat]
  | none => []

def flagParams (flag : Bool) (code : Nat) : List Nat := if flag then [code] else []

/-- Reset, then the attributes that are set. -/
def sgrParams (attrs : CellAttrs) : List Nat :=
  0 :: (flagParams attrs.bold 1 ++ flagParams attrs.dim 2 ++ flagParams attrs.italic 3 ++
    flagParams attrs.underline 4 ++ flagParams attrs.inverse 7 ++
    flagParams attrs.strikethrough 9 ++ colorParams 30 90 38 attrs.fg ++
    colorParams 40 100 48 attrs.bg)

def encodeSgr (attrs : CellAttrs) : Token := .csi (sgrParams attrs) 'm'

def resetSgr : Token := .csi [0] 'm'

/-! ### Rows -/

/-- The character of a cell and its combining marks. -/
def Cell.writeTo (cell : Cell) : List Token := .glyph cell.ch :: cell.combining.map Token.glyph

/-- The cells up to the last one that is not blank. -/
def trimmed (row : Row) : Row := row.rdropWhile Cell.isBlank

/-- Write cells, with a rendition wherever the attributes change, and answer the last attributes.
The continuations of wide glyphs are skipped. -/
def renderCells (prevAttrs : CellAttrs) : Row → List Token × CellAttrs
  | [] => ([], prevAttrs)
  | cell :: rest =>
      if cell.ch = nul then renderCells prevAttrs rest
      else
        let (tokens, final) := renderCells cell.attrs rest
        ((if cell.attrs = prevAttrs then [] else [encodeSgr cell.attrs]) ++ cell.writeTo ++ tokens,
          final)

/-- Write the rows from row `index` on at absolute positions, each erased first. -/
def renderRows (prevAttrs : CellAttrs) (index : Nat) : List Row → List Token
  | [] => []
  | row :: rest =>
      let (tokens, final) := renderCells prevAttrs (trimmed row)
      [.csi [index + 1, 1] 'H', .csi [2] 'K'] ++ tokens ++
        if final.hasAttrs then resetSgr :: renderRows {} (index + 1) rest
        else renderRows final (index + 1) rest

def renderBuffer (buffer : ScreenBuffer) : List Token :=
  renderRows {} 0 buffer.cells ++ [resetSgr]

/-- Restore the scroll region, unless it is the whole screen, and the cursor. -/
def restoreCursorState (buffer : ScreenBuffer) : List Token :=
  (if buffer.scrollTop ≠ 0 ∨ buffer.scrollBottom ≠ buffer.rows - 1 then
      [.csi [buffer.scrollTop + 1, buffer.scrollBottom + 1] 'r']
    else []) ++
    [.csi [buffer.cursor.row + 1, buffer.cursor.col + 1] 'H']

/-! ### Modes -/

def MouseEncoding.replay : MouseEncoding → List Token
  | .default => []
  | .sgr => [.privateMode 1006 'h']
  | .sgrPixels => [.privateMode 1016 'h']

def MouseProtocol.replay : MouseProtocol → List Token
  | .none => []
  | .x10 => [.privateMode 9 'h']
  | .normal => [.privateMode 1000 'h']
  | .button => [.privateMode 1002 'h']
  | .any => [.privateMode 1003 'h']

def flagMode (flag : Bool) (mode : Nat) : List Token :=
  if flag then [.privateMode mode 'h'] else []

/-- The encoding comes first; focus reporting is not replayed. -/
def PrivateModes.writeReplay (modes : PrivateModes) : List Token :=
  modes.encoding.replay ++ modes.mouse.replay ++ flagMode modes.cursorKeys 1 ++
    flagMode modes.keypad 66 ++ flagMode modes.bracketedPaste 2004

/-! ### The texts -/

namespace VirtualScreen

variable {Parser : Type}

def hideCursor : Token := .privateMode 25 'l'

def showCursor : Token := .privateMode 25 'h'

def enterAlternateToken : Token := .privateMode 1049 'h'

def snapshot (vs : VirtualScreen Parser) : List Token :=
  [hideCursor, resetSgr] ++ (if vs.usingAlternate then [enterAlternateToken] else []) ++
    renderBuffer vs.active ++ vs.privateModes.writeReplay ++ restoreCursorState vs.active ++
    [showCursor]

/-- The history rows that a client still shows are scrolled out before the screen is redrawn over
them. -/
def scrollOut (vs : VirtualScreen Parser) : List Token :=
  let pending := min vs.scrollback.length (vs.rows - 1)
  if pending > 0 then .csi [vs.rows, 1] 'H' :: List.replicate pending (.control 0x0A) else []

/-- The snapshot for a client that has just printed the history on a fresh terminal. -/
def snapshotForReplay (vs : VirtualScreen Parser) : List Token :=
  [hideCursor] ++ vs.scrollOut ++ [resetSgr] ++ renderBuffer vs.primary ++
    (if vs.usingAlternate then
      restoreCursorState vs.primary ++ [enterAlternateToken, resetSgr] ++
        renderBuffer vs.alternate ++ vs.privateModes.writeReplay ++
        restoreCursorState vs.alternate
    else vs.privateModes.writeReplay ++ restoreCursorState vs.primary) ++
    [showCursor]

def historyLine (row : Row) : List Token :=
  let (tokens, final) := renderCells {} (trimmed row)
  tokens ++ (if final.hasAttrs then [resetSgr] else []) ++ [.control 0x0D, .control 0x0A]

/-- Cut the history lines into chunks of `chunkLines` lines, given the chunk at hand and the number
of its lines. -/
def chunkLoop (chunkLines : Nat) : List Token → Nat → List Row → List (List Token)
  | current, _, [] => if current = [] then [] else [current]
  | current, lines, row :: rest =>
      if lines + 1 ≥ chunkLines then
        (current ++ historyLine row) :: chunkLoop chunkLines [] 0 rest
      else chunkLoop chunkLines (current ++ historyLine row) (lines + 1) rest

/-- The history in chunks, also while the alternate screen is shown. -/
def snapshotScrollbackChunks (vs : VirtualScreen Parser) (chunkLines : Nat) : List (List Token) :=
  chunkLoop chunkLines [] 0 vs.scrollback

end VirtualScreen

end Dinotty.Screen
