/-
This file is the virtual screen and the two operations a session runs on it, feeding bytes and
resizing. The escape-sequence parser is a package outside the repository and is a parameter: a
state, and the callbacks that each byte produces. A switch between the buffers takes effect once the
byte is done.
-/

import Dinotty.Screen.Performer

namespace Dinotty.Screen

/-- The escape-sequence parser: its initial state and, for each byte, the next state with the
callbacks it makes. -/
structure Vte where
  Parser : Type
  new : Parser
  advance : Parser → UInt8 → Parser × List Callback

structure VirtualScreen (Parser : Type) where
  primary : ScreenBuffer
  alternate : ScreenBuffer
  usingAlternate : Bool
  scrollback : List Row
  parser : Parser
  cols : Nat
  rows : Nat
  savedCursor : Option CursorState
  commandState : CommandState
  pendingCommand : Option PendingCommand
  commandResults : List CommandResult
  syncEvents : List SyncEvent
  oscActions : List OscAction
  privateModes : PrivateModes

namespace VirtualScreen

variable {Parser : Type}

def new (parser : Parser) (cols rows : Nat) : VirtualScreen Parser where
  primary := .new cols rows
  alternate := .new cols rows
  usingAlternate := false
  scrollback := []
  parser
  cols
  rows
  savedCursor := none
  commandState := .idle
  pendingCommand := none
  commandResults := []
  syncEvents := []
  oscActions := []
  privateModes := {}

def active (vs : VirtualScreen Parser) : ScreenBuffer :=
  if vs.usingAlternate then vs.alternate else vs.primary

/-! ### Feeding bytes -/

/-- The performer borrows the active buffer and the shared state. -/
def performer (vs : VirtualScreen Parser) : Performer where
  screen := vs.active
  scrollback := vs.scrollback
  savedCursor := vs.savedCursor
  pendingSwitch := none
  usingAlternate := vs.usingAlternate
  commandState := vs.commandState
  pendingCommand := vs.pendingCommand
  commandResults := vs.commandResults
  syncEvents := vs.syncEvents
  oscActions := vs.oscActions
  privateModes := vs.privateModes

/-- The screen after the performer has given back what it borrowed. -/
def giveBack (vs : VirtualScreen Parser) (p : Performer) : VirtualScreen Parser :=
  { vs with
    primary := if vs.usingAlternate then vs.primary else p.screen
    alternate := if vs.usingAlternate then p.screen else vs.alternate
    scrollback := p.scrollback
    savedCursor := p.savedCursor
    commandState := p.commandState
    pendingCommand := p.pendingCommand
    commandResults := p.commandResults
    syncEvents := p.syncEvents
    oscActions := p.oscActions
    privateModes := p.privateModes }

/-- Enter the alternate screen: save the primary cursor and start from a blank buffer. -/
def enterAlternate (vs : VirtualScreen Parser) : VirtualScreen Parser :=
  { vs with
    savedCursor := some vs.primary.cursor
    alternate := .new vs.cols vs.rows
    usingAlternate := true }

/-- Leave the alternate screen: restore the saved cursor on the primary buffer. -/
def leaveAlternate (vs : VirtualScreen Parser) : VirtualScreen Parser :=
  { vs with
    primary :=
      match vs.savedCursor with
      | some saved => { vs.primary with cursor := saved }
      | none => vs.primary
    usingAlternate := false }

/-- Carry out the switch that the callbacks of one byte asked for. -/
def switch (vs : VirtualScreen Parser) : Option Bool → VirtualScreen Parser
  | some true => if vs.usingAlternate then vs else vs.enterAlternate
  | some false => if vs.usingAlternate then vs.leaveAlternate else vs
  | none => vs

/-- Apply the callbacks of one byte, then the switch they asked for. -/
def perform (width : Char → Option Nat) (vs : VirtualScreen Parser) (callbacks : List Callback) :
    Option (VirtualScreen Parser) :=
  (Fallible.run (Performer.perform width) vs.performer callbacks).map fun p =>
    (vs.giveBack p).switch p.pendingSwitch

end VirtualScreen

variable (vte : Vte) (width : Char → Option Nat)

def VirtualScreen.feedByte (vs : VirtualScreen vte.Parser) (byte : UInt8) :
    Option (VirtualScreen vte.Parser) :=
  let (parser, callbacks) := vte.advance vs.parser byte
  { vs with parser }.perform width callbacks

/-- The number of output bytes a running command keeps. -/
def outputLimit : Nat := 1024 * 1024

/-- Collect the printable bytes of a running command, dropping the oldest half past the
limit. -/
def VirtualScreen.collectOutput {Parser : Type} (vs : VirtualScreen Parser)
    (data : List UInt8) : VirtualScreen Parser :=
  if vs.commandState = .idle then vs
  else
    { vs with
      pendingCommand := vs.pendingCommand.map fun pending =>
        let collected := pending.outputBuf ++ data.filter fun byte => 0x20 ≤ byte && byte ≠ 0x7F
        { outputBuf :=
            if collected.length > outputLimit then collected.drop (512 * 1024) else collected } }

def VirtualScreen.feed (vs : VirtualScreen vte.Parser) (data : List UInt8) :
    Option (VirtualScreen vte.Parser) :=
  Fallible.run (VirtualScreen.feedByte vte width) (vs.collectOutput data) data

/-! ### Resizing -/

/-- Resize both buffers. Only the primary one moves rows into the history. -/
def VirtualScreen.resize {Parser : Type} (vs : VirtualScreen Parser) (cols rows : Nat) :
    Option (VirtualScreen Parser) := do
  let (primary, scrollback) ← vs.primary.resize cols rows (some vs.scrollback)
  let (alternate, _) ← vs.alternate.resize cols rows none
  return { vs with cols, rows, primary, alternate, scrollback := scrollback.getD vs.scrollback }

inductive ScreenCall where
  | feed (data : List UInt8)
  | resize (cols rows : Nat)

def VirtualScreen.call (vs : VirtualScreen vte.Parser) :
    ScreenCall → Option (VirtualScreen vte.Parser)
  | .feed data => vs.feed vte width data
  | .resize cols rows => vs.resize cols rows

end Dinotty.Screen
