/-
This file is what requests do with the lock of the settings: a message to the MCP server holds it
while it is handled and may take it again inside.
-/

import Dinotty.Foundation.RwLock

namespace Dinotty.Settings

open RwLock

/-- The lock of the settings, and that of the clients of the MCP server. -/
inductive LockName where
  | settings
  | clients
  deriving DecidableEq

/-- The clients are locked while the settings may be. -/
def LockName.rank : LockName → Nat
  | .settings => 0
  | .clients => 1

abbrev LockOp := Op LockName

/-! ### What requests do -/

/-- Take a lock, do what is to be done under it and release it. -/
def underLock (name : LockName) (mode : Mode) (inside : List LockOp) : List LockOp :=
  .lock name mode :: inside ++ [.unlock name mode]

def readSettings : List LockOp := underLock .settings .read [.work]

def writeSettings : List LockOp := underLock .settings .write [.work]

/-- A message to the MCP server: whether the server is on, whether the message comes to the settings
of a new tab or pane, and whether it is answered. -/
structure McpMessage where
  enabled : Bool := true
  creates : Bool
  answered : Bool := true

/-- The settings stay locked from the check to the end of the handler. -/
def mcpMessageHandler (message : McpMessage) : List LockOp :=
  underLock .settings .read
    (if message.enabled then
      (if message.creates then readSettings else []) ++ [.work] ++
        (if message.answered then underLock .clients .write [.work] else [])
    else [])

def mcpSseHandler (enabled : Bool) : List LockOp :=
  readSettings ++ if enabled then underLock .clients .write [.work] else []

/-- Replace the settings, unless they cannot be saved. -/
def putSettings (saved : Bool) : List LockOp :=
  readSettings ++ [.work] ++ if saved then writeSettings else []

def putRemoteServers (valid saved : Bool) : List LockOp :=
  if valid then readSettings ++ [.work] ++ (if saved then writeSettings else []) else []

def activateWorkspace : List LockOp := writeSettings

def deactivateWorkspace : List LockOp := writeSettings

def deleteWorkspace (found : Bool) : List LockOp := if found then writeSettings else []

def rememberVersion : List LockOp := writeSettings

def uploadBackground (stored : Bool) : List LockOp := if stored then writeSettings else []

inductive Handler where
  | mcpMessage (message : McpMessage)
  | mcpSse (enabled : Bool)
  | putSettings (saved : Bool)
  | putRemoteServers (valid saved : Bool)
  | activateWorkspace
  | deactivateWorkspace
  | deleteWorkspace (found : Bool)
  | rememberVersion
  | uploadBackground (stored : Bool)
  /-- Any other one that reads the settings, as often as given. -/
  | reader (times : Nat)

/-- A request reads the settings on its way through the middleware, and then comes to its handler. -/
structure Request where
  middleware : Nat := 0
  handler : Handler

def readTimes (times : Nat) (rest : List LockOp) : List LockOp :=
  (readSettings ++ ·)^[times] rest

def Handler.program : Handler → List LockOp
  | .mcpMessage message => mcpMessageHandler message
  | .mcpSse enabled => mcpSseHandler enabled
  | .putSettings saved => Settings.putSettings saved
  | .putRemoteServers valid saved => Settings.putRemoteServers valid saved
  | .activateWorkspace => Settings.activateWorkspace
  | .deactivateWorkspace => Settings.deactivateWorkspace
  | .deleteWorkspace found => Settings.deleteWorkspace found
  | .rememberVersion => Settings.rememberVersion
  | .uploadBackground stored => Settings.uploadBackground stored
  | .reader times => readTimes times []

def Request.program (request : Request) : List LockOp :=
  readTimes request.middleware request.handler.program

/-! ### No deadlock -/

abbrev Requests := Interleaving.Pool (LockName → Lock) LockOp

abbrev LockEvent := Interleaving.Event Request Unit

def after : Requests → LockEvent → Requests := Interleaving.Pool.after Request.program exec

def start : Requests := ⟨fun _ => {}, []⟩

theorem safe_readTimes (times : Nat) {rest : List LockOp} (safe : Safe LockName.rank [] rest) :
    Safe LockName.rank [] (readTimes times rest) := by
  induction times with
  | zero => exact safe
  | succ times ih =>
    rw [readTimes, Function.iterate_succ_apply']
    exact ⟨nofun, List.mem_cons_self, by rwa [List.erase_cons_head]⟩

theorem safe_handler (handler : Handler) : Safe LockName.rank [] handler.program := by
  cases handler with
  | mcpMessage msg =>
    obtain ⟨enabled, creates, answered⟩ := msg
    cases enabled <;> cases creates <;> cases answered <;>
      simp [Handler.program, mcpMessageHandler, underLock, readSettings, Safe, LockName.rank]
  | mcpSse enabled =>
    cases enabled <;> simp [Handler.program, mcpSseHandler, underLock, readSettings, Safe]
  | putSettings saved =>
    cases saved <;>
      simp [Handler.program, putSettings, underLock, readSettings, writeSettings, Safe]
  | putRemoteServers valid saved =>
    cases valid <;> cases saved <;>
      simp [Handler.program, putRemoteServers, underLock, readSettings, writeSettings, Safe]
  | deleteWorkspace found =>
    cases found <;> simp [Handler.program, deleteWorkspace, underLock, writeSettings, Safe]
  | uploadBackground stored =>
    cases stored <;> simp [Handler.program, uploadBackground, underLock, writeSettings, Safe]
  | activateWorkspace | deactivateWorkspace | rememberVersion =>
    simp [Handler.program, activateWorkspace, deactivateWorkspace, rememberVersion, underLock,
      writeSettings, Safe]
  | reader times => exact safe_readTimes times rfl

theorem safe_request (req : Request) : Safe LockName.rank [] req.program :=
  safe_readTimes req.middleware (safe_handler req.handler)

/-- No requests wait for each other if none that has locked the settings asks for them again while a
writer is in the queue. -/
theorem requests_not_deadlocked (events : List LockEvent)
    (careful : Runs.Careful after Considerate start events) (threads : Finset Nat) :
    ¬ Deadlocked (Runs.run after start events).shared threads :=
  run_not_deadlocked safe_request careful threads

/-- A message creates a tab, and the settings are replaced. -/
def createAndPut (threads : List Nat) : List LockEvent :=
  [.request { handler := .mcpMessage { creates := true } },
    .request { handler := .putSettings true }] ++ threads.map fun thread => .step thread ()

theorem requests_not_deadlocked_in_turn :
    Runs.Careful after Considerate start (createAndPut [0, 0, 0, 0, 1, 1, 1]) ∧
    ¬ Deadlocked (Runs.run after start (createAndPut [0, 0, 0, 0, 1, 1, 1])).shared {0, 1} := by
  have careful : Runs.Careful after Considerate start (createAndPut [0, 0, 0, 0, 1, 1, 1]) := by
    decide +kernel
  exact ⟨careful, requests_not_deadlocked _ careful {0, 1}⟩

/-- The writer comes between the two times that the message locks the settings. -/
theorem create_and_put_deadlock :
    Deadlocked (Runs.run after start (createAndPut [0, 0, 1, 1, 1, 1, 1, 1, 0])).shared {0, 1} := by
  have queue : ((Runs.run after start
      (createAndPut [0, 0, 1, 1, 1, 1, 1, 1, 0])).shared .settings) =
        { holders := [(0, .read)], queue := [(1, .write), (0, .read)] } := by decide +kernel
  refine ⟨⟨0, by simp⟩, fun thread member => ?_⟩
  rcases Finset.mem_insert.mp member with rfl | other
  · refine ⟨.settings, .read, by rw [queue]; simp, 1, by simp, .inr ?_⟩
    exact ⟨[(1, .write)], .read, [], by rw [queue]; rfl, .write, List.mem_singleton_self _⟩
  · obtain rfl := Finset.mem_singleton.mp other
    exact ⟨.settings, .write, by rw [queue]; simp, 0, by simp, .inl ⟨.read, by rw [queue]; simp⟩⟩

end Dinotty.Settings
