/-
This file models a session as its threads share it: the PTY reader, the broadcast task and any
number of calls. Each function is cut where it takes or releases a lock, so that an action is one
critical section, one message sent under the clients lock, or one access to a value of its own lock.
The history is a record that no action reads.
-/

import Dinotty.Foundation.Interleaving
import Dinotty.Foundation.Mailbox
import Dinotty.Screen.Commands
import Dinotty.Screen.Render
import Dinotty.Session.Reassembly
import Dinotty.Session.SyncOutput

namespace Dinotty.Concurrent

open Screen Utf8 List Option
open Interleaving (Pushes)

/-! ### The session -/

inductive SessionClientEvent where
  | output (text : List Char)
  | resize (cols rows : Nat)
  | sessionExit (paneId : String) (exitCode : Option Int)
  | syncBegin
  | syncEnd
  | replayBegin (cols rows : Nat)
  | replayEnd
  deriving DecidableEq, Repr

structure ClientEndpoint where
  id : Nat
  tx : Mailbox SessionClientEvent
  snapshotPending : Bool
  deriving DecidableEq, Repr

@[grind =] def outputs (messages : List SessionClientEvent) : List Char :=
  (messages.filterMap fun
    | .output text => some text
    | _ => none).flatten

theorem outputs_append (front back : List SessionClientEvent) :
    outputs (front ++ back) = outputs front ++ outputs back := by
  simp [outputs, filterMap_append]

/-- A replay that a client was sent: the size that it announced, the screen that its snapshot shows
and the bytes that had been fed to it. -/
structure Replay (Parser : Type) where
  client : Nat
  cols : Nat
  rows : Nat
  screen : VirtualScreen Parser
  fed : List UInt8

/-- What has happened so far: the bytes fed to the screen, the texts sent to the clients that were
ready for them, and the replays. -/
structure History (Parser : Type) where
  fed : List UInt8
  aired : List (List Char)
  replays : List (Replay Parser)

/-- A session. The holders are the threads that hold the lock of the synchronized output and the
lock of the clients. -/
structure Session (Parser : Type) where
  screen : VirtualScreen Parser
  size : Nat × Nat
  exited : Bool
  sync : SyncOutput.SyncState
  syncHolder : Option Nat
  clients : List ClientEndpoint
  clientsHolder : Option Nat
  nextClientId : Nat
  outputQueue : List (List UInt8)
  history : History Parser

def screenDims {Parser : Type} (screen : VirtualScreen Parser) : Nat × Nat :=
  (screen.cols, screen.rows)

/-! ### The clients -/

/-- Drop the clients that have hung up. -/
def retainOpen (clients : List ClientEndpoint) : List ClientEndpoint :=
  clients.filter fun client => !client.tx.closed

def sendTo (chosen : ClientEndpoint → Bool) (event : SessionClientEvent)
    (clients : List ClientEndpoint) : List ClientEndpoint :=
  clients.map fun client =>
    if chosen client then { client with tx := client.tx.trySend event } else client

/-- Output skips a client that still waits for its snapshot. -/
def sendChunkToClients (clients : List ClientEndpoint) (chunk : List Char) : List ClientEndpoint :=
  sendTo (fun client => !client.snapshotPending) (.output chunk) (retainOpen clients)

def enqueueControl (clients : List ClientEndpoint) (event : SessionClientEvent) :
    List ClientEndpoint := sendTo (fun _ => true) event (retainOpen clients)

/-- Everybody but the client that asked for a resize is told of it. -/
def broadcastResize (clients : List ClientEndpoint) (origin cols rows : Nat) :
    List ClientEndpoint :=
  sendTo (fun client => client.id != origin) (.resize cols rows) (retainOpen clients)

def sendToClient (clients : List ClientEndpoint) (id : Nat) (event : SessionClientEvent) :
    List ClientEndpoint := sendTo (fun client => client.id == id) event clients

def clearPending (clients : List ClientEndpoint) (id : Nat) : List ClientEndpoint :=
  clients.map fun client =>
    if client.id == id then { client with snapshotPending := false } else client

/-- A new client waits for its snapshot. -/
def newClient (id : Nat) : ClientEndpoint := ⟨id, .new 10240, true⟩

/-! ### Actions -/

inductive Action where
  /-- `if self.is_sync_active() { self.set_sync_mode(false) }` -/
  | breakSync
  | setSyncMode (active : Bool)
  | flushSyncBuffer
  /-- `flush_sync_buffer_locked` -/
  | flushLocked
  /-- One round of its loop, from a byte position on. -/
  | flushFrom (combined : List Char) (start : Nat)
  | enqueueControl (event : SessionClientEvent)
  | unlockSync
  | broadcast (msg : List Char)
  /-- The part of `broadcast` after the exit check. -/
  | broadcastLive (msg : List Char)
  | lockClients
  | sendChunk (chunk : List Char)
  | unlockClients
  | resize (cols rows : Nat)
  /-- Resize the PTY, which may fail. -/
  | drivePty (cols rows : Nat)
  | recordSize (cols rows : Nat)
  | resizeScreen (cols rows : Nat)
  | findOrigin (origin : Nat)
  | broadcastResize (origin cols rows : Nat)
  | findClient (client cols rows : Nat)
  | takeSnapshot (client cols rows : Nat)
  | send (client : Nat) (event : SessionClientEvent)
  | clearPending (client : Nat)
  | markExited
  /-- The read loop of the PTY reader. -/
  | readPty
  | feed (data : List UInt8)
  | publish (data : List UInt8)
  /-- The loop of the broadcast task, with the bytes that it holds back. -/
  | receiveBatch (held : List UInt8)
  /-- The check of the synchronized-output timeout. -/
  | watchdog
  deriving DecidableEq, Repr

/-- What an action leaves open: the outcome of a system call, what is read, and whether the timeout
has expired. -/
inductive Choice where
  | proceed
  | fail
  | data (bytes : List UInt8)
  | batch (count : Nat)
  | tick (expired : Bool)
  deriving DecidableEq, Repr

/-- The messages of a replay and the end of the critical section that sends them. -/
def replayActions {Parser : Type} (screen : VirtualScreen Parser) (client cols rows : Nat) :
    List Action :=
  [.send client (.replayBegin cols rows)] ++ (screen.snapshotScrollbackChunks 200).map
      (fun chunk => .send client (.output (tokenText chunk))) ++
    [.send client (.output (tokenText screen.snapshotForReplay)), .send client .replayEnd,
      .clearPending client, .unlockClients]

section

variable (vte : Vte) (width : Char → Option Nat)

/-- Do an action, in the thread `me`, with the actions `rest` after it. -/
@[grind =] def exec (me : Nat) (choice : Choice) (action : Action) (rest : List Action)
    (session : Session vte.Parser) : Option (Session vte.Parser × List Action) :=
  match action with
  | .breakSync =>
      if session.syncHolder.isSome then none
      else if session.sync.active then some (session, .setSyncMode false :: rest)
      else some (session, rest)
  | .setSyncMode active =>
      if session.syncHolder.isSome then none
      else if session.sync.active = active then some (session, rest)
      else
        some ({ session with
            sync := { session.sync with active }
            syncHolder := some me },
          if active then [.enqueueControl .syncBegin, .unlockSync] ++ rest
          else [.flushLocked, .enqueueControl .syncEnd, .unlockSync] ++ rest)
  | .flushSyncBuffer =>
      if session.syncHolder.isSome then none
      else some ({ session with syncHolder := some me }, [.flushLocked, .unlockSync] ++ rest)
  | .flushLocked =>
      let combined := session.sync.buffer.flatten
      let cleared := { session with sync := { session.sync with buffer := [], bytes := 0 } }
      if session.sync.buffer = [] then some (cleared, rest)
      else some (cleared, [.lockClients, .flushFrom combined 0, .unlockClients] ++ rest)
  | .flushFrom combined start =>
      if start < size combined then do
        let stop := nextCut SyncOutput.flushChunkSize combined start
        let chunk ← slice? combined start stop
        return (session, [.sendChunk chunk, .flushFrom combined stop] ++ rest)
      else some (session, rest)
  | .enqueueControl event =>
      if session.clientsHolder.isSome then none
      else some ({ session with clients := enqueueControl session.clients event }, rest)
  | .unlockSync => some ({ session with syncHolder := none }, rest)
  | .broadcast msg =>
      some (session, if session.exited then rest else .broadcastLive msg :: rest)
  | .broadcastLive msg =>
      if session.syncHolder.isSome then none
      else if session.sync.active then
        let buffered := { session with
          sync := { session.sync with
            buffer := session.sync.buffer ++ [msg]
            bytes := session.sync.bytes + size msg } }
        if buffered.sync.bytes < SyncOutput.syncBufferLimit then some (buffered, rest)
        else
          some ({ buffered with syncHolder := some me }, [.flushLocked, .unlockSync] ++ rest)
      else
        some ({ session with syncHolder := some me },
          [.lockClients, .sendChunk msg, .unlockClients, .unlockSync] ++ rest)
  | .lockClients =>
      if session.clientsHolder.isSome then none
      else some ({ session with clientsHolder := some me }, rest)
  | .sendChunk chunk =>
      some ({ session with
          clients := sendChunkToClients session.clients chunk
          history := { session.history with aired := session.history.aired ++ [chunk] } }, rest)
  | .unlockClients => some ({ session with clientsHolder := none }, rest)
  | .resize cols rows =>
      some (session, if session.exited then rest else .drivePty cols rows :: rest)
  | .drivePty cols rows =>
      some (session, if choice = .fail then [] else .recordSize cols rows :: rest)
  | .recordSize cols rows =>
      some ({ session with size := (cols, rows) }, .resizeScreen cols rows :: rest)
  | .resizeScreen cols rows =>
      (session.screen.resize cols rows).map fun screen => ({ session with screen }, rest)
  | .findOrigin origin =>
      if session.clientsHolder.isSome then none
      else
        let clients := retainOpen session.clients
        some ({ session with clients },
          if clients.any (fun client => client.id == origin) then rest else [])
  | .broadcastResize origin cols rows =>
      if session.clientsHolder.isSome then none
      else
        some ({ session with clients := broadcastResize session.clients origin cols rows }, rest)
  | .findClient client cols rows =>
      if session.clientsHolder.isSome then none
      else
        let clients := retainOpen session.clients
        if clients.any (fun other => other.id == client) then
          some ({ session with clients, clientsHolder := some me },
            .takeSnapshot client cols rows :: rest)
        else some ({ session with clients }, [])
  | .takeSnapshot client cols rows =>
      let replay := ⟨client, cols, rows, session.screen, session.history.fed⟩
      some ({ session with
          history := { session.history with replays := session.history.replays ++ [replay] } },
        replayActions session.screen client cols rows ++ rest)
  | .send client event =>
      some ({ session with clients := sendToClient session.clients client event }, rest)
  | .clearPending client =>
      some ({ session with clients := clearPending session.clients client }, rest)
  | .markExited => some ({ session with exited := true }, rest)
  | .readPty =>
      match choice with
      | .data bytes => some (session, .feed bytes :: .readPty :: rest)
      | .fail => some (session, [])
      | _ => none
  | .feed data =>
      (session.screen.read vte width data).map fun (screen, result) =>
        ({ session with
            screen
            history := { session.history with fed := session.history.fed ++ data } },
          result.syncEvents.map (fun event => .setSyncMode (event = .start)) ++
            .publish data :: rest)
  | .publish data =>
      some ({ session with outputQueue := session.outputQueue ++ [data] }, rest)
  | .receiveBatch held =>
      match choice with
      | .batch count =>
          if 0 < count ∧ count ≤ session.outputQueue.length then
            let batch := (session.outputQueue.take count).flatten
            let tail := Session.Utf8Tail.receive ⟨held, []⟩ batch
            some ({ session with outputQueue := session.outputQueue.drop count },
              if session.exited then []
              else
                .watchdog :: (tail.sent.map Action.broadcast ++ .receiveBatch tail.held :: rest))
          else none
      | .tick _ =>
          some (session, if session.exited then [] else .watchdog :: .receiveBatch held :: rest)
      | _ => none
  | .watchdog =>
      if session.syncHolder.isSome then none
      else if session.sync.active ∧ choice = .tick true then
        some (session, .setSyncMode false :: rest)
      else some (session, rest)

/-! ### Runs -/

/-- The calls that other parts of the program make on a session. -/
inductive Call where
  | atomicResizeAndSnapshotForClient (client cols rows : Nat)
  | applyAndBroadcastResize (origin cols rows : Nat)
  | resize (cols rows : Nat)
  | setSyncMode (active : Bool)
  | flushSyncBuffer
  | broadcast (msg : List Char)
  | notifyExitAndMarkExited (paneId : String) (exitCode : Option Int)
  deriving DecidableEq, Repr

@[grind =] def Call.program : Call → List Action
  | .atomicResizeAndSnapshotForClient client cols rows =>
      [.breakSync, .resize cols rows, .findClient client cols rows]
  | .applyAndBroadcastResize origin cols rows =>
      [.breakSync, .findOrigin origin, .resize cols rows, .broadcastResize origin cols rows]
  | .resize cols rows => [.resize cols rows]
  | .setSyncMode active => [.setSyncMode active]
  | .flushSyncBuffer => [.flushSyncBuffer]
  | .broadcast msg => [.broadcast msg]
  | .notifyExitAndMarkExited paneId exitCode =>
      [.markExited, .enqueueControl (.sessionExit paneId exitCode)]

/-- What can happen next: a thread does an action, a call starts, a client joins, leaves, takes a
message or hangs up. -/
inductive Input where
  | run (thread : Nat) (choice : Choice)
  | call (call : Call)
  | addClient
  | removeClient (id : Nat)
  | receive (id : Nat)
  | hangUp (id : Nat)
  deriving DecidableEq, Repr

abbrev World (Parser : Type) := Interleaving.Pool (Session Parser) Action

/-- Change the clients, unless a thread holds their lock. -/
def changeClients {Parser : Type} (session : Session Parser)
    (change : List ClientEndpoint → List ClientEndpoint) : Option (Session Parser) :=
  if session.clientsHolder.isSome then none
  else some { session with clients := change session.clients }

theorem changeClients_eq_some {Parser : Type} {sess next : Session Parser}
    {change : List ClientEndpoint → List ClientEndpoint}
    (changed : changeClients sess change = some next) :
    next = { sess with clients := change sess.clients } := by
  unfold changeClients at changed
  split at changed
  · cases changed
  · exact (some.inj changed).symm

/-- The receiving end of a channel works without the lock. -/
def changeChannel {Parser : Type} (session : Session Parser) (id : Nat)
    (change : Mailbox SessionClientEvent → Mailbox SessionClientEvent) : Session Parser :=
  { session with
    clients := session.clients.map fun client =>
      if client.id == id then { client with tx := change client.tx } else client }

def step (world : World vte.Parser) : Input → Option (World vte.Parser)
  | .run thread choice => world.step (exec vte width) thread choice
  | .call call => some (world.spawn call.program)
  | .addClient =>
      (changeClients world.shared fun clients =>
          clients ++ [newClient world.shared.nextClientId]).map fun session =>
        { world with shared := { session with nextClientId := session.nextClientId + 1 } }
  | .removeClient id =>
      (changeClients world.shared fun clients =>
          clients.filter fun client => client.id != id).map fun session =>
        { world with shared := session }
  | .receive id =>
      some { world with shared := changeChannel world.shared id Mailbox.receive }
  | .hangUp id =>
      some { world with
        shared := changeChannel world.shared id fun channel => { channel with closed := true } }

/-- A new session with its reader and its broadcast task. -/
@[grind =] def World.new (cols rows : Nat) : World vte.Parser where
  shared :=
    { screen := .new vte.new cols rows
      size := (cols, rows)
      exited := false
      sync := ⟨false, [], 0⟩
      syncHolder := none
      clients := []
      clientsHolder := none
      nextClientId := 0
      outputQueue := []
      history := ⟨[], [], []⟩ }
  threads := [[.readPty], [.receiveBatch []]]

end

/-! ### What an action does -/

def Action.onClient : Action → ClientEndpoint → ClientEndpoint
  | .enqueueControl event, client => { client with tx := client.tx.trySend event }
  | .sendChunk chunk, client =>
      if !client.snapshotPending then { client with tx := client.tx.trySend (.output chunk) }
      else client
  | .broadcastResize origin cols rows, client =>
      if client.id != origin then { client with tx := client.tx.trySend (.resize cols rows) }
      else client
  | .send id event, client =>
      if client.id == id then { client with tx := client.tx.trySend event } else client
  | .clearPending id, client =>
      if client.id == id then { client with snapshotPending := false } else client
  | _, client => client

@[simp] theorem onClient_id (action : Action) (client : ClientEndpoint) :
    (action.onClient client).id = client.id := by
  unfold Action.onClient
  split
  all_goals first
    | rfl
    | split <;> rfl

def Action.Sends : Action → ClientEndpoint → SessionClientEvent → Prop
  | .enqueueControl event, _, sent => sent = event
  | .sendChunk chunk, client, sent => client.snapshotPending = false ∧ sent = .output chunk
  | .broadcastResize origin cols rows, client, sent =>
      client.id ≠ origin ∧ sent = .resize cols rows
  | .send id event, client, sent => client.id = id ∧ sent = event
  | _, _, _ => False

/-- An action offers its event to the channel of a client, or leaves the channel alone. -/
theorem onClient_tx (action : Action) (client : ClientEndpoint) :
    (action.onClient client).tx = client.tx ∧ (∀ event, ¬ action.Sends client event) ∨
      ∃ event, action.Sends client event ∧
        (action.onClient client).tx = client.tx.trySend event := by
  unfold Action.onClient
  split
  · exact .inr ⟨_, rfl, rfl⟩
  · split
    next ready =>
      exact .inr ⟨_, ⟨by simpa using ready, rfl⟩, rfl⟩
    next pending =>
      exact .inl ⟨rfl, fun event sends => pending (by simp [sends.1])⟩
  · split
    next other =>
      exact .inr ⟨_, ⟨by simpa using other, rfl⟩, rfl⟩
    next origin =>
      exact .inl ⟨rfl, fun event sends => origin (by simpa using sends.1)⟩
  · split
    next target =>
      exact .inr ⟨_, ⟨by simpa using target, rfl⟩, rfl⟩
    next other =>
      exact .inl ⟨rfl, fun event sends => other (by simpa using sends.1)⟩
  · split
    · exact .inl ⟨rfl, fun event sends => sends⟩
    · exact .inl ⟨rfl, fun event sends => sends⟩
  next notControl notChunk notResize notSend notClear =>
    refine .inl ⟨rfl, fun event sends => ?_⟩
    unfold Action.Sends at sends
    split at sends
    · exact notControl _ rfl
    · exact notChunk _ rfl
    · exact notResize _ _ _ rfl
    · exact notSend _ _ rfl
    · exact sends

/-- The clients after an action are some of those before it, each changed by the action; only those
that have hung up may go. -/
def Carried (action : Action) (before after : List ClientEndpoint) : Prop :=
  ∃ kept : List ClientEndpoint, kept.Sublist before ∧ after = kept.map action.onClient ∧
    ∀ client ∈ before, client.tx.closed = false → client ∈ kept

variable {action : Action}

theorem carried_of_eq {before after : List ClientEndpoint}
    (still : ∀ client, action.onClient client = client) (same : after = before) :
    Carried action before after := by
  refine ⟨before, .refl _, ?_, fun _ mem _ => mem⟩
  rw [same]
  exact (map_id'' still before).symm

theorem carried_all {clients : List ClientEndpoint}
    {change : List ClientEndpoint → List ClientEndpoint}
    (changes : change clients = clients.map action.onClient) :
    Carried action clients (change clients) :=
  ⟨clients, .refl _, changes, fun _ mem _ => mem⟩

theorem carried_retain {clients after : List ClientEndpoint}
    (changes : after = (retainOpen clients).map action.onClient) :
    Carried action clients after :=
  ⟨retainOpen clients, filter_sublist, changes, fun _ mem isOpen =>
    mem_filter.mpr ⟨mem, by rw [isOpen]; rfl⟩⟩

section

variable {vte : Vte} {width : Char → Option Nat}

theorem exec_carried {me : Nat} {choice : Choice} {action : Action} {rest ops : List Action}
    {sess next : Session vte.Parser}
    (done : exec vte width me choice action rest sess = some (next, ops)) :
    Carried action sess.clients next.clients := by
  cases action
  case enqueueControl event =>
    simp only [exec] at done
    split at done
    · exact nomatch done
    · cases done
      exact carried_retain rfl
  case findOrigin origin =>
    simp only [exec] at done
    split at done
    · exact nomatch done
    · cases done
      exact carried_retain (map_id' _).symm
  case broadcastResize origin cols rows =>
    simp only [exec] at done
    split at done
    · exact nomatch done
    · cases done
      exact carried_retain rfl
  case findClient client cols rows =>
    simp only [exec] at done
    split at done
    · exact nomatch done
    · split at done
      all_goals
        cases done
        exact carried_retain (map_id' _).symm
  case sendChunk chunk =>
    cases done
    exact carried_retain rfl
  case send id event =>
    cases done
    exact carried_all rfl
  case clearPending id =>
    cases done
    exact carried_all rfl
  case flushFrom combined start =>
    simp only [exec] at done
    split at done
    · obtain ⟨chunk, -, done⟩ := bind_eq_some_iff.mp done
      cases done
      exact carried_of_eq (fun _ => rfl) rfl
    · cases done
      exact carried_of_eq (fun _ => rfl) rfl
  case resizeScreen cols rows =>
    obtain ⟨screen, -, done⟩ := map_eq_some_iff.mp done
    cases done
    exact carried_of_eq (fun _ => rfl) rfl
  case feed data =>
    obtain ⟨⟨screen, res⟩, -, done⟩ := map_eq_some_iff.mp done
    cases done
    exact carried_of_eq (fun _ => rfl) rfl
  all_goals
    simp only [exec] at done
    repeat' split at done
  all_goals cases done
  all_goals exact carried_of_eq (fun _ => rfl) rfl

/-! ### What an action pushes and what it leaves alone -/

/-- The actions that an action may put in front of the rest are of a kind. -/
def Action.PushesOnly (kind : Action → Prop) : Action → Prop
  | .breakSync | .watchdog => kind (.setSyncMode false)
  | .setSyncMode _ => kind (.enqueueControl .syncBegin) ∧ kind (.enqueueControl .syncEnd) ∧
      kind .flushLocked ∧ kind .unlockSync
  | .flushSyncBuffer => kind .flushLocked ∧ kind .unlockSync
  | .flushLocked => kind .lockClients ∧ (∀ text, kind (.flushFrom text 0)) ∧ kind .unlockClients
  | .flushFrom text _ => (∀ chunk, kind (.sendChunk chunk)) ∧ ∀ stop, kind (.flushFrom text stop)
  | .broadcast msg => kind (.broadcastLive msg)
  | .broadcastLive msg => kind .flushLocked ∧ kind .lockClients ∧ kind (.sendChunk msg) ∧
      kind .unlockClients ∧ kind .unlockSync
  | .resize cols rows => kind (.drivePty cols rows)
  | .drivePty cols rows => kind (.recordSize cols rows)
  | .recordSize cols rows => kind (.resizeScreen cols rows)
  | .findClient client cols rows => kind (.takeSnapshot client cols rows)
  | .takeSnapshot client _ _ => (∀ event, kind (.send client event)) ∧
      kind (.clearPending client) ∧ kind .unlockClients
  | .readPty => (∀ bytes, kind (.feed bytes)) ∧ kind .readPty
  | .feed data => (∀ active, kind (.setSyncMode active)) ∧ kind (.publish data)
  | .receiveBatch _ => kind .watchdog ∧ (∀ msg, kind (.broadcast msg)) ∧
      ∀ held, kind (.receiveBatch held)
  | _ => True

/-- Actions that neither take nor need a lock that they do not give back. -/
def Action.Lockless : Action → Prop
  | .setSyncMode _ | .flushSyncBuffer | .flushLocked | .flushFrom _ _ | .enqueueControl _
  | .unlockSync | .broadcastLive _ | .lockClients | .sendChunk _ | .unlockClients
  | .findClient _ _ _ | .takeSnapshot _ _ _ | .send _ _ | .clearPending _ => False
  | _ => True

/-- A step leaves alone whatever the action is not made to change. -/
structure Action.Frame (action : Action) (before after : Session vte.Parser) : Prop where
  fed : (∀ data, action ≠ .feed data) → after.history.fed = before.history.fed
  aired : (∀ chunk, action ≠ .sendChunk chunk) → after.history.aired = before.history.aired
  replays : (∀ client cols rows, action ≠ .takeSnapshot client cols rows) →
    after.history.replays = before.history.replays
  queue : (∀ data, action ≠ .publish data) → (∀ held, action ≠ .receiveBatch held) →
    after.outputQueue = before.outputQueue
  size : (∀ cols rows, action ≠ .recordSize cols rows) → after.size = before.size
  screen : (∀ data, action ≠ .feed data) → (∀ cols rows, action ≠ .resizeScreen cols rows) →
    after.screen = before.screen
  exited : action ≠ .markExited → after.exited = before.exited
  nextClientId : after.nextClientId = before.nextClientId
  syncHolder : action.Lockless → after.syncHolder = before.syncHolder
  clientsHolder : action.Lockless → after.clientsHolder = before.clientsHolder
  active : (∀ active, action ≠ .setSyncMode active) → after.sync.active = before.sync.active
  buffer : before.sync.active = false → before.sync.buffer = [] → after.sync.buffer = []

variable {me : Nat} {choice : Choice} {rest ops : List Action} {sess next : Session vte.Parser}

theorem exec_pushes {kind : Action → Prop}
    (done : exec vte width me choice action rest sess = some (next, ops))
    (only : action.PushesOnly kind) : Pushes kind rest ops := by
  cases action
  case flushFrom combined start =>
    simp only [exec] at done
    split at done
    · obtain ⟨chunk, -, done⟩ := bind_eq_some_iff.mp done
      cases done
      exact .cons (only.1 _) (.cons (only.2 _) .rest)
    · cases done
      exact .rest
  case feed data =>
    obtain ⟨⟨screen, res⟩, -, done⟩ := map_eq_some_iff.mp done
    cases done
    refine .append (fun action mem => ?_) (.cons only.2 .rest)
    obtain ⟨event, -, rfl⟩ := mem_map.mp mem
    exact only.1 _
  case receiveBatch held =>
    simp only [exec] at done
    split at done
    · split at done
      · cases done
        split
        · exact .stop
        · refine .cons only.1 (.append (fun action mem => ?_) (.cons (only.2.2 _) .rest))
          obtain ⟨piece, -, rfl⟩ := mem_map.mp mem
          exact only.2.1 _
      · cases done
    · cases done
      split
      · exact .stop
      · exact .cons only.1 (.cons (only.2.2 _) .rest)
    · cases done
  case takeSnapshot client cols rows =>
    cases done
    refine .append (fun action mem => ?_) .rest
    simp only [replayActions, mem_append, List.mem_map, mem_cons, not_mem_nil, or_false] at mem
    rcases mem with (rfl | ⟨chunk, -, rfl⟩) | rfl | rfl | rfl | rfl
    all_goals first
      | exact only.1 _
      | exact only.2.1
      | exact only.2.2
  case resizeScreen cols rows =>
    obtain ⟨screen, -, done⟩ := map_eq_some_iff.mp done
    cases done
    exact .rest
  all_goals
    simp only [exec] at done
    simp only [Action.PushesOnly] at only
    repeat' split at done
  all_goals cases done
  all_goals repeat (first | exact .rest | exact .stop | refine .cons (by simp [only]) ?_)

theorem exec_frame (done : exec vte width me choice action rest sess = some (next, ops)) :
    action.Frame sess next := by
  cases action
  case flushFrom combined start =>
    simp only [exec] at done
    split at done
    · obtain ⟨chunk, -, done⟩ := bind_eq_some_iff.mp done
      cases done
      constructor <;> simp
    · cases done
      constructor <;> simp
  case feed data =>
    obtain ⟨⟨screen, res⟩, -, done⟩ := map_eq_some_iff.mp done
    cases done
    constructor <;> simp
  case resizeScreen cols rows =>
    obtain ⟨screen, -, done⟩ := map_eq_some_iff.mp done
    cases done
    constructor <;> simp
  all_goals
    simp only [exec] at done
    repeat' split at done
  all_goals cases done
  all_goals constructor <;> simp_all [Action.Lockless]

end

end Dinotty.Concurrent
