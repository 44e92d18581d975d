/-
This file models the synchronized-output mode of a session: the buffer that collects output while
DEC mode 2026 is set, the flush that cuts it into chunks, and the bounded channels of the clients.
-/

import Dinotty.Foundation.Fallible
import Dinotty.Foundation.Utf8

namespace Dinotty.SyncOutput

open Utf8 List Option Fallible

/-- The most bytes that are buffered before a flush is forced. -/
def syncBufferLimit : Nat := 256 * 1024

/-- The most bytes of a chunk that a flush sends. -/
def flushChunkSize : Nat := 64 * 1024

structure SyncState where
  active : Bool
  buffer : List (List Char)
  bytes : Nat
deriving DecidableEq

/-- The events of this file; resizes and replays are sent by other functions. -/
inductive SessionClientEvent where
  | output (text : List Char)
  | sessionExit (paneId : String) (exitCode : Option Int)
  | syncBegin
  | syncEnd
deriving DecidableEq

/-! ### Channels -/

/-- A bounded channel: the messages it has accepted, how many have been taken, and how many it has
refused. -/
structure Channel where
  capacity : Nat
  closed : Bool
  sent : List SessionClientEvent
  taken : Nat
  refused : Nat
deriving DecidableEq

namespace Channel

/-- Send without waiting. A message that finds the channel full or closed is dropped, with a
line in the debug log. -/
def trySend (channel : Channel) (event : SessionClientEvent) : Channel :=
  if channel.closed ∨ channel.capacity ≤ channel.sent.length - channel.taken then
    { channel with refused := channel.refused + 1 }
  else { channel with sent := channel.sent ++ [event] }

def receive (channel : Channel) : Channel :=
  { channel with taken := min (channel.taken + 1) channel.sent.length }

/-- A batch of messages was offered to a channel: unless one of them was refused, all of them were
accepted, in order. -/
structure Accepts (before after : Channel) (batch : List SessionClientEvent) : Prop where
  closed : after.closed = before.closed
  refused : before.refused ≤ after.refused
  sent : after.refused = before.refused → after.sent = before.sent ++ batch

variable (channel : Channel)

theorem accepts_nil : channel.Accepts channel [] :=
  ⟨rfl, Nat.le_refl _, fun _ => (append_nil _).symm⟩

theorem accepts_receive : channel.Accepts channel.receive [] :=
  ⟨rfl, Nat.le_refl _, fun _ => (append_nil _).symm⟩

theorem accepts_trySend (event : SessionClientEvent) :
    channel.Accepts (channel.trySend event) [event] := by
  unfold trySend
  split
  · refine ⟨rfl, Nat.le_succ _, fun equal => ?_⟩
    exact absurd equal (Nat.succ_ne_self _)
  · exact ⟨rfl, Nat.le_refl _, fun _ => rfl⟩

theorem Accepts.append {before middle after : Channel} {first second : List SessionClientEvent}
    (one : before.Accepts middle first) (two : middle.Accepts after second) :
    before.Accepts after (first ++ second) := by
  have oneRefused := one.refused
  have twoRefused := two.refused
  refine ⟨two.closed.trans one.closed, by omega, fun equal => ?_⟩
  rw [two.sent (by omega), one.sent (by omega), append_assoc]

end Channel

/-! ### Clients -/

structure ClientEndpoint where
  id : Nat
  tx : Channel
  snapshotPending : Bool
deriving DecidableEq

/-- Prune the clients whose channel is closed and offer an event to those of the others that
are not to be skipped. -/
def offer (skip : ClientEndpoint → Bool) (event : SessionClientEvent)
    (clients : List ClientEndpoint) : List ClientEndpoint :=
  (clients.filter fun client => !client.tx.closed).map fun client =>
    if skip client then client else { client with tx := client.tx.trySend event }

/-- Output skips a client that still waits for its snapshot, which will show its effect. -/
def sendChunkToClients (clients : List ClientEndpoint) (chunk : List Char) : List ClientEndpoint :=
  offer (fun client => client.snapshotPending) (.output chunk) clients

def enqueueControl (clients : List ClientEndpoint) (event : SessionClientEvent) :
    List ClientEndpoint :=
  offer (fun _ => false) event clients

/-- The client at an id, with its channel open and its snapshot replay completed. -/
def Ready (clients : List ClientEndpoint) (id : Nat) (client : ClientEndpoint) : Prop :=
  clients.find? (fun other => other.id == id) = some client ∧
    client.tx.closed = false ∧ client.snapshotPending = false

/-- From one list of clients to the next a ready client was offered a batch. -/
def Offered (id : Nat) (client : ClientEndpoint) (next : List ClientEndpoint)
    (batch : List SessionClientEvent) : Prop :=
  ∃ after, Ready next id after ∧ client.tx.Accepts after.tx batch

variable {clients : List ClientEndpoint} {id : Nat} {client : ClientEndpoint}

theorem find?_change (found : clients.find? (fun other => other.id == id) = some client)
    (keep : ClientEndpoint → Bool) (kept : keep client = true)
    (change : ClientEndpoint → ClientEndpoint) (sameId : ∀ other, (change other).id = other.id) :
    ((clients.filter keep).map change).find? (fun other => other.id == id) =
      some (change client) := by
  have matching : ((fun other : ClientEndpoint => other.id == id) ∘ change) =
      fun other => other.id == id := by
    funext other
    exact congrArg (· == id) (sameId other)
  obtain ⟨here, before, after, rfl, earlier⟩ := find?_eq_some_iff_append.mp found
  rw [find?_map, matching, find?_filter]
  refine congrArg (Option.map change) (find?_eq_some_iff_append.mpr ?_)
  refine ⟨by rw [kept, here]; rfl, before, after, rfl, fun other mem => ?_⟩
  have ne := earlier other mem
  simp only [Bool.not_eq_true', decide_eq_false_iff_not, not_and] at ne ⊢
  exact fun _ => Bool.not_eq_true _ ▸ ne

theorem offer_ready {skip : ClientEndpoint → Bool} (ready : Ready clients id client)
    (taken : skip client = false) (event : SessionClientEvent) :
    Offered id client (offer skip event clients) [event] := by
  obtain ⟨found, opened, cur⟩ := ready
  have accepts := client.tx.accepts_trySend event
  refine ⟨{ client with tx := client.tx.trySend event }, ⟨?_, ?_, cur⟩, accepts⟩
  · have kept : (!client.tx.closed) = true := by rw [opened]; rfl
    have changed := find?_change found (fun other => !other.tx.closed) kept
      (fun other => if skip other then other else { other with tx := other.tx.trySend event })
      fun other => by split <;> rfl
    rwa [taken] at changed
  · exact accepts.closed.trans opened

theorem sendChunkToClients_ready (ready : Ready clients id client) (chunk : List Char) :
    Offered id client (sendChunkToClients clients chunk) [.output chunk] :=
  offer_ready ready ready.2.2 _

theorem enqueueControl_ready (ready : Ready clients id client) (event : SessionClientEvent) :
    Offered id client (enqueueControl clients event) [event] :=
  offer_ready ready rfl _

theorem Offered.append {next final : List ClientEndpoint} {first second : List SessionClientEvent}
    (one : Offered id client next first)
    (later : ∀ after, Ready next id after → Offered id after final second) :
    Offered id client final (first ++ second) := by
  obtain ⟨middle, ready, accepts⟩ := one
  obtain ⟨last, lastReady, lastAccepts⟩ := later middle ready
  exact ⟨last, lastReady, accepts.append lastAccepts⟩

theorem sendChunks_ready (ready : Ready clients id client) (chunks : List (List Char)) :
    Offered id client (chunks.foldl sendChunkToClients clients) (chunks.map .output) := by
  induction chunks generalizing clients client with
  | nil => exact ⟨client, ready, client.tx.accepts_nil⟩
  | cons chunk rest ih =>
    exact (sendChunkToClients_ready ready chunk).append fun _ middle => ih middle

/-! ### Sessions -/

structure Session where
  exited : Bool
  sync : SyncState
  clients : List ClientEndpoint
  nextClientId : Nat
deriving DecidableEq

namespace Session

def new : Session := ⟨false, ⟨false, [], 0⟩, [], 0⟩

variable (session : Session)

def buffered : List Char := session.sync.buffer.flatten

/-- Send a text from byte `start` on, one chunk after the other. -/
def flushLoop (combined : List Char) :
    Nat → Nat → List ClientEndpoint → Option (List ClientEndpoint)
  | 0, start, clients => if start < size combined then none else some clients
  | fuel + 1, start, clients =>
      if start < size combined then do
        let stop := nextCut flushChunkSize combined start
        let chunk ← slice? combined start stop
        flushLoop combined fuel stop (sendChunkToClients clients chunk)
      else some clients

def flushSyncBuffer : Option Session :=
  let data := session.sync.buffer
  let sync := { session.sync with buffer := [], bytes := 0 }
  if data.isEmpty then some { session with sync }
  else
    let combined := data.flatten
    (flushLoop combined (size combined) 0 session.clients).map fun clients =>
      { session with sync, clients }

def broadcast (msg : List Char) : Option Session :=
  if session.exited then some session
  else if session.sync.active then
    let sync := { session.sync with
      buffer := session.sync.buffer ++ [msg], bytes := session.sync.bytes + size msg }
    if sync.bytes < syncBufferLimit then some { session with sync }
    else flushSyncBuffer { session with sync }
  else some { session with clients := sendChunkToClients session.clients msg }

/-- Set or reset DEC mode 2026. Both transitions do nothing when the mode already is as asked. -/
def setSyncMode (active : Bool) : Option Session :=
  if active then
    if session.sync.active then some session
    else some { session with
      sync := { session.sync with active := true }
      clients := enqueueControl session.clients .syncBegin }
  else if session.sync.active then
    let inactive := { session with sync := { session.sync with active := false } }
    inactive.flushSyncBuffer.map fun flushed =>
      { flushed with clients := enqueueControl flushed.clients .syncEnd }
  else some session

def addClient : Session :=
  { session with
    clients := session.clients ++ [⟨session.nextClientId, ⟨10240, false, [], 0, 0⟩, true⟩]
    nextClientId := session.nextClientId + 1 }

def removeClient (id : Nat) : Session :=
  { session with clients := session.clients.filter fun client => client.id != id }

def notifyExitAndMarkExited (paneId : String) (exitCode : Option Int) : Session :=
  { session with
    exited := true
    clients := enqueueControl session.clients (.sessionExit paneId exitCode) }

def changeClient (id : Nat) (change : ClientEndpoint → ClientEndpoint) : Session :=
  { session with
    clients := session.clients.map fun client => if client.id = id then change client else client }

end Session

/-- What can happen to a session: its own calls, and what its clients do with their end of the
channel. -/
inductive SessionCall where
  | broadcast (msg : List Char)
  | setSyncMode (active : Bool)
  | flushSyncBuffer
  | addClient
  | finishReplay (id : Nat)
  | removeClient (id : Nat)
  | notifyExit (paneId : String) (exitCode : Option Int)
  | receive (id : Nat)
  | hangUp (id : Nat)

namespace Session

def call (session : Session) : SessionCall → Option Session
  | .broadcast msg => session.broadcast msg
  | .setSyncMode active => session.setSyncMode active
  | .flushSyncBuffer => session.flushSyncBuffer
  | .addClient => some session.addClient
  | .finishReplay id =>
      some (session.changeClient id fun client => { client with snapshotPending := false })
  | .removeClient id => some (session.removeClient id)
  | .notifyExit paneId exitCode => some (session.notifyExitAndMarkExited paneId exitCode)
  | .receive id =>
      some (session.changeClient id fun client => { client with tx := client.tx.receive })
  | .hangUp id =>
      some (session.changeClient id fun client =>
        { client with tx := { client.tx with closed := true } })

end Session

/-- The call leaves the session alive and the client at the id registered. -/
def SessionCall.Keeps (id : Nat) : SessionCall → Prop
  | .removeClient other => other ≠ id
  | .hangUp other => other ≠ id
  | .notifyExit _ _ => False
  | _ => True

def SessionCall.text : SessionCall → List Char
  | .broadcast msg => msg
  | _ => []

/-! ### What a client reads off its messages -/

/-- The client's view of the mode after an event. A bracket that does not alternate has no
successor. -/
def transaction (active : Bool) : SessionClientEvent → Option Bool
  | .syncBegin => if active then none else some true
  | .syncEnd => if active then some false else none
  | _ => some active

def outputs (events : List SessionClientEvent) : List Char :=
  events.flatMap fun
    | .output text => text
    | _ => []

/-- Every output of the batch is a chunk that a flush may send. -/
def Flushed (batch : List SessionClientEvent) : Prop :=
  ∀ text, .output text ∈ batch → text ≠ [] ∧ size text ≤ flushChunkSize

/-- What one call sends: the text itself, or chunks. -/
def Shipped : SessionCall → List SessionClientEvent → Prop
  | .broadcast msg, batch => batch = [.output msg] ∨ Flushed batch
  | _, batch => Flushed batch

theorem outputs_append (front back : List SessionClientEvent) :
    outputs (front ++ back) = outputs front ++ outputs back := flatMap_append

theorem outputs_chunks (chunks : List (List Char)) :
    outputs (chunks.map .output) = chunks.flatten := by
  induction chunks with
  | nil => rfl
  | cons chunk rest ih =>
    rw [map_cons, flatten_cons, ← ih]
    rfl

theorem transaction_chunks (active : Bool) (chunks : List (List Char)) :
    run transaction active (chunks.map .output) = some active := by
  induction chunks with
  | nil => rfl
  | cons chunk rest ih => exact ih

theorem flushed_nil : Flushed [] := nofun

/-! ### Flushing -/

namespace Session

theorem flushLoop_chunks (front : List Char) {back : List Char} {fuel : Nat}
    (enough : size back ≤ fuel) :
    ∃ chunks : List (List Char), chunks.flatten = back ∧
      (∀ chunk ∈ chunks, chunk ≠ [] ∧ size chunk ≤ flushChunkSize) ∧
      ∀ clients, flushLoop (front ++ back) fuel (size front) clients =
        some (chunks.foldl sendChunkToClients clients) := by
  induction fuel generalizing front back with
  | zero =>
    obtain rfl : back = [] := size_eq_zero (by omega)
    refine ⟨[], rfl, nofun, fun clients => ?_⟩
    rw [flushLoop, append_nil, if_neg (Nat.lt_irrefl _)]
    rfl
  | succ fuel ih =>
    by_cases more : size front < size (front ++ back)
    · have startBoundary : isCharBoundary (front ++ back) (size front) = true :=
        (isCharBoundary_iff _ _).mpr ⟨front, back, rfl, rfl⟩
      obtain ⟨progress, short, -, boundary⟩ :=
        nextCut_spec (show 4 ≤ flushChunkSize by decide) startBoundary more
      obtain ⟨chunk, rest, rfl, stopEqual, sliced⟩ :=
        slice?_of_boundaries rfl (Nat.le_of_lt progress) boundary
      rw [size_append] at enough
      have stopFront : nextCut flushChunkSize (front ++ (chunk ++ rest)) (size front) =
          size (front ++ chunk) := by
        rw [size_append, stopEqual]
      obtain ⟨chunks, flat, sizes, loops⟩ :=
        ih (front ++ chunk) (show size rest ≤ fuel by omega)
      have nonempty : chunk ≠ [] := by
        rintro rfl
        rw [size_nil] at stopEqual
        omega
      refine ⟨chunk :: chunks, by rw [flatten_cons, flat], ?_, fun clients => ?_⟩
      · intro piece mem
        rcases mem_cons.mp mem with rfl | later
        · exact ⟨nonempty, by omega⟩
        · exact sizes piece later
      · rw [flushLoop, if_pos more]
        dsimp only
        rw [sliced, bind_eq_bind, bind_some, stopFront, foldl_cons,
          ← loops (sendChunkToClients clients chunk), append_assoc]
    · rw [size_append] at more
      obtain rfl : back = [] := size_eq_zero (by omega)
      refine ⟨[], rfl, nofun, fun clients => ?_⟩
      rw [flushLoop, append_nil, if_neg (Nat.lt_irrefl _)]
      rfl

theorem flushSyncBuffer_chunks (session : Session) :
    ∃ chunks : List (List Char), chunks.flatten = session.buffered ∧
      (∀ chunk ∈ chunks, chunk ≠ [] ∧ size chunk ≤ flushChunkSize) ∧
      session.flushSyncBuffer = some { session with
        sync := { session.sync with buffer := [], bytes := 0 }
        clients := chunks.foldl sendChunkToClients session.clients } := by
  unfold flushSyncBuffer buffered
  dsimp only
  by_cases empty : session.sync.buffer.isEmpty = true
  · rw [if_pos empty, isEmpty_iff.mp empty]
    exact ⟨[], rfl, nofun, rfl⟩
  · obtain ⟨chunks, flat, sizes, loops⟩ :=
      flushLoop_chunks [] (Nat.le_refl (size session.sync.buffer.flatten))
    have loop := loops session.clients
    rw [nil_append, size_nil] at loop
    refine ⟨chunks, flat, sizes, ?_⟩
    rw [if_neg empty, loop]
    rfl

theorem flushed_chunks {chunks : List (List Char)}
    (sizes : ∀ chunk ∈ chunks, chunk ≠ [] ∧ size chunk ≤ flushChunkSize) :
    Flushed (chunks.map .output) := by
  intro text mem
  obtain ⟨chunk, chunkMember, equal⟩ := mem_map.mp mem
  obtain rfl := SessionClientEvent.output.inj equal
  exact sizes chunk chunkMember

/-! ### One call -/

/-- While the mode is reset nothing waits in the buffer. -/
def Settled (session : Session) : Prop := session.sync.active = false → session.sync.buffer = []

/-- A call took a session to the next one, in which nothing of the output is lost and a ready
client has been offered the batch. -/
structure Delivers (id : Nat) (client : ClientEndpoint) (contributed : List Char)
    (session next : Session) (batch : List SessionClientEvent) : Prop where
  live : next.exited = session.exited
  settled : next.Settled
  offered : Offered id client next.clients batch
  content : outputs batch ++ next.buffered = session.buffered ++ contributed
  transactions : Fallible.run transaction session.sync.active batch = some next.sync.active

variable {session : Session} {id : Nat} {client : ClientEndpoint}

theorem flushSyncBuffer_delivers (session : Session) (ready : Ready session.clients id client) :
    ∃ next batch, session.flushSyncBuffer = some next ∧ Flushed batch ∧
      Delivers id client [] session next batch ∧ next.sync.buffer = [] ∧
      next.sync.active = session.sync.active ∧
      ∀ active, run transaction active batch = some active := by
  obtain ⟨chunks, flat, sizes, flushed⟩ := flushSyncBuffer_chunks session
  refine ⟨_, chunks.map .output, flushed, flushed_chunks sizes,
    ⟨rfl, fun _ => rfl, sendChunks_ready ready chunks, ?_, transaction_chunks _ chunks⟩, rfl, rfl,
    fun active => transaction_chunks active chunks⟩
  rw [outputs_chunks, flat]
  rfl

theorem broadcast_delivers (live : session.exited = false) (settled : session.Settled)
    (ready : Ready session.clients id client) (msg : List Char) :
    ∃ next batch, session.broadcast msg = some next ∧
      (batch = [.output msg] ∨ Flushed batch) ∧ Delivers id client msg session next batch := by
  unfold broadcast
  rw [if_neg (by rw [live]; exact Bool.false_ne_true)]
  by_cases active : session.sync.active = true
  · rw [if_pos active]
    let collected : Session := { session with sync := { session.sync with
      buffer := session.sync.buffer ++ [msg], bytes := session.sync.bytes + size msg } }
    have collectedText : collected.buffered = session.buffered ++ msg := by
      show (session.sync.buffer ++ [msg]).flatten = _
      rw [flatten_append, flatten_singleton]
      rfl
    dsimp only
    by_cases small : session.sync.bytes + size msg < syncBufferLimit
    · rw [if_pos small]
      refine ⟨collected, [], rfl, Or.inr flushed_nil, rfl, ?_,
        ⟨client, ready, client.tx.accepts_nil⟩,
        collectedText, rfl⟩
      exact fun inactive => nomatch active.symm.trans inactive
    · rw [if_neg small]
      obtain ⟨next, batch, done, flushed, delivers, -⟩ := flushSyncBuffer_delivers collected ready
      refine ⟨next, batch, done, Or.inr flushed, delivers.live, delivers.settled, delivers.offered,
        ?_, delivers.transactions⟩
      rw [delivers.content, collectedText, append_nil]
  · rw [if_neg active]
    have empty := settled (Bool.of_not_eq_true active)
    refine ⟨_, [.output msg], rfl, Or.inl rfl, rfl, settled, sendChunkToClients_ready ready msg,
      ?_, rfl⟩
    show msg ++ [] ++ session.buffered = session.buffered ++ msg
    rw [buffered, empty, flatten_nil, append_nil, append_nil, nil_append]

theorem setSyncMode_delivers (settled : session.Settled)
    (ready : Ready session.clients id client) (active : Bool) :
    ∃ next batch, session.setSyncMode active = some next ∧ Flushed batch ∧
      Delivers id client [] session next batch ∧ next.sync.active = active := by
  have same (equal : session.sync.active = active) :
      ∃ next batch, some session = some next ∧ Flushed batch ∧
        Delivers id client [] session next batch ∧ next.sync.active = active :=
    ⟨session, [], rfl, flushed_nil,
      ⟨rfl, settled, ⟨client, ready, client.tx.accepts_nil⟩, (append_nil _).symm, rfl⟩, equal⟩
  unfold setSyncMode
  cases active with
  | true =>
    rw [if_pos rfl]
    by_cases already : session.sync.active = true
    · rw [if_pos already]
      exact same already
    · rw [if_neg already]
      have inactive := Bool.of_not_eq_true already
      have empty := settled inactive
      refine ⟨_, [.syncBegin], rfl, fun text mem => ?_,
        ⟨rfl, fun _ => empty, enqueueControl_ready ready _, ?_, ?_⟩, rfl⟩
      · exact nomatch mem_singleton.mp mem
      · exact (append_nil _).symm
      · rw [inactive]
        rfl
  | false =>
    rw [if_neg Bool.false_ne_true]
    by_cases already : session.sync.active = true
    · rw [if_pos already]
      dsimp only
      let inactive : Session := { session with sync := { session.sync with active := false } }
      obtain ⟨flushed, batch, done, chunked, delivers, empty, sameActive, silent⟩ :=
        flushSyncBuffer_delivers inactive ready
      refine ⟨{ flushed with clients := enqueueControl flushed.clients .syncEnd },
        batch ++ [.syncEnd], ?_, ?_, ⟨delivers.live, fun _ => empty, ?_, ?_, ?_⟩, sameActive⟩
      · show (inactive.flushSyncBuffer).map _ = _
        rw [done]
        rfl
      · intro text mem
        rcases mem_append.mp mem with chunk | last
        · exact chunked text chunk
        · exact nomatch mem_singleton.mp last
      · exact delivers.offered.append fun _ middle => enqueueControl_ready middle _
      · rw [outputs_append]
        exact (congrArg (· ++ flushed.buffered) (append_nil _)).trans delivers.content
      · rw [already, run_append_of_some _ (silent true)]
        exact congrArg some sameActive.symm
    · rw [if_neg already]
      exact same (Bool.of_not_eq_true already)

theorem changeClient_offered (ready : Ready session.clients id client) (other : Nat)
    {change : ClientEndpoint → ClientEndpoint}
    (sameId : ∀ endpoint, (change endpoint).id = endpoint.id)
    (touched : other = id → (change client).tx.closed = false ∧
      (change client).snapshotPending = false ∧ client.tx.Accepts (change client).tx []) :
    Offered id client (session.changeClient other change).clients [] := by
  obtain ⟨found, clientOpen, clientCurrent⟩ := ready
  have idEqual : client.id = id := by simpa using find?_some found
  have changed := find?_change found (fun _ => true) rfl
    (fun endpoint => if endpoint.id = other then change endpoint else endpoint)
    fun endpoint => by
      split
      · exact sameId endpoint
      · rfl
  rw [filter_true] at changed
  by_cases here : other = id
  · rw [if_pos (idEqual.trans here.symm)] at changed
    obtain ⟨opened, cur, accepts⟩ := touched here
    exact ⟨change client, ⟨changed, opened, cur⟩, accepts⟩
  · rw [if_neg fun equal => here (equal.symm.trans idEqual)] at changed
    exact ⟨client, ⟨changed, clientOpen, clientCurrent⟩, client.tx.accepts_nil⟩

theorem delivers_silent {next : Session} (settled : session.Settled)
    (live : next.exited = session.exited) (sync : next.sync = session.sync)
    (offered : Offered id client next.clients []) :
    Delivers id client [] session next [] := by
  refine ⟨live, ?_, offered, ?_, ?_⟩
  · rw [Settled, sync]
    exact settled
  · rw [buffered, sync, append_nil]
    rfl
  · rw [sync]
    rfl

theorem call_delivers (live : session.exited = false) (settled : session.Settled)
    (ready : Ready session.clients id client) {call : SessionCall} (keeps : call.Keeps id) :
    ∃ next batch, session.call call = some next ∧ Shipped call batch ∧
      Delivers id client call.text session next batch := by
  have silent {next : Session} (sameLife : next.exited = session.exited)
      (sync : next.sync = session.sync) (offered : Offered id client next.clients []) :
      ∃ after batch, some next = some after ∧ Flushed batch ∧
        Delivers id client [] session after batch :=
    ⟨next, [], rfl, flushed_nil, delivers_silent settled sameLife sync offered⟩
  have clientId : client.id = id := by simpa using find?_some ready.1
  cases call with
  | broadcast msg => exact broadcast_delivers live settled ready msg
  | setSyncMode active =>
    obtain ⟨next, batch, done, flushed, delivers, -⟩ := setSyncMode_delivers settled ready active
    exact ⟨next, batch, done, flushed, delivers⟩
  | flushSyncBuffer =>
    obtain ⟨next, batch, done, flushed, delivers, -⟩ := flushSyncBuffer_delivers session ready
    exact ⟨next, batch, done, flushed, delivers⟩
  | addClient =>
    refine silent rfl rfl ⟨client, ⟨?_, ready.2⟩, client.tx.accepts_nil⟩
    show (session.clients ++ _).find? _ = _
    rw [find?_append, ready.1]
    rfl
  | finishReplay other =>
    exact silent rfl rfl (changeClient_offered ready other (fun _ => rfl)
      fun _ => ⟨ready.2.1, rfl, client.tx.accepts_nil⟩)
  | removeClient other =>
    have stays : (client.id != other) = true := by
      rw [clientId]
      exact bne_iff_ne.mpr (Ne.symm keeps)
    have found := find?_change ready.1 (fun endpoint => endpoint.id != other) stays
      (fun endpoint => endpoint) fun _ => rfl
    rw [List.map_id'] at found
    exact silent rfl rfl ⟨client, ⟨found, ready.2⟩, client.tx.accepts_nil⟩
  | notifyExit paneId exitCode => exact keeps.elim
  | receive other =>
    exact silent rfl rfl (changeClient_offered ready other (fun _ => rfl)
      fun _ => ⟨ready.2.1, ready.2.2, client.tx.accepts_receive⟩)
  | hangUp other =>
    exact silent rfl rfl (changeClient_offered ready other (fun _ => rfl)
      fun here => absurd here keeps)

theorem call_settled (settled : session.Settled) {call : SessionCall} {next : Session}
    (done : session.call call = some next) : next.Settled := by
  have flush {start : Session} (flushed : start.flushSyncBuffer = some next) : next.Settled := by
    obtain ⟨chunks, -, -, equal⟩ := flushSyncBuffer_chunks start
    cases equal.symm.trans flushed
    exact fun _ => rfl
  have same {start : Session} (equal : some start = some next)
      (sync : start.sync = session.sync) : next.Settled := by
    cases equal
    rw [Settled, sync]
    exact settled
  cases call with
  | broadcast msg =>
    simp only [call, broadcast] at done
    split at done
    · exact same done rfl
    · split at done
      next active =>
        split at done
        · cases done
          exact fun inactive => nomatch active.symm.trans inactive
        · exact flush done
      · exact same done rfl
  | setSyncMode active =>
    simp only [call, setSyncMode] at done
    split at done
    · split at done
      · exact same done rfl
      · cases done
        exact nofun
    · split at done
      · obtain ⟨flushed, flushDone, rfl⟩ := map_eq_some_iff.mp done
        obtain ⟨chunks, -, -, equal⟩ := flushSyncBuffer_chunks _
        cases equal.symm.trans flushDone
        exact fun _ => rfl
      · exact same done rfl
  | flushSyncBuffer => exact flush done
  | addClient | finishReplay | removeClient | notifyExit | receive | hangUp => exact same done rfl

theorem settled_of_reached {calls : List SessionCall}
    (reached : run call .new calls = some session) : session.Settled := by
  have met : Meets call (fun _ _ => True) .new calls :=
    meets_of_forall (fun _ _ => trivial) _ _
  exact run_invariant (fun _ _ _ settled _ done => call_settled settled done)
    (fun _ => rfl) met reached

end Session

/-! ### Runs -/

/-- The output that a run contributes. -/
def texts (calls : List SessionCall) : List Char := calls.flatMap SessionCall.text

/-- What the batches of a run of calls come to. -/
structure Delivery (start : Session) (calls : List SessionCall)
    (batches : List (List SessionClientEvent)) (final : Session) : Prop where
  /-- The brackets alternate, from the mode at the start to the mode at the end. -/
  transactions : Fallible.run transaction start.sync.active batches.flatten = some final.sync.active
  /-- The output received and the text still buffered are what was broadcast. -/
  content : outputs batches.flatten ++ final.buffered = start.buffered ++ texts calls
  /-- Each call sends its text as it is or in chunks. -/
  shipped : List.Forall₂ Shipped calls batches

theorem run_delivers {calls : List SessionCall} (keeps : ∀ call ∈ calls, call.Keeps id)
    {start : Session} (live : start.exited = false) (settled : start.Settled)
    (ready : Ready start.clients id client) :
    ∃ final batches, run Session.call start calls = some final ∧
      final.exited = false ∧ final.Settled ∧ Offered id client final.clients batches.flatten ∧
      Delivery start calls batches final := by
  induction calls generalizing start client with
  | nil =>
    exact ⟨start, [], rfl, live, settled, ⟨client, ready, client.tx.accepts_nil⟩,
      ⟨rfl, (append_nil _).symm, .nil⟩⟩
  | cons call rest ih =>
    obtain ⟨next, batch, done, shipped, delivers⟩ :=
      Session.call_delivers live settled ready (keeps call mem_cons_self)
    obtain ⟨after, afterReady, accepts⟩ := delivers.offered
    obtain ⟨final, batches, run, finalLive, finalSettled, offered, delivery⟩ :=
      ih (fun other mem => keeps other (mem_cons_of_mem _ mem))
        (delivers.live.trans live) delivers.settled afterReady
    obtain ⟨last, lastReady, lastAccepts⟩ := offered
    refine ⟨final, batch :: batches, ?_, finalLive, finalSettled,
      ⟨last, lastReady, accepts.append lastAccepts⟩, ?_, ?_, .cons shipped delivery.shipped⟩
    · rw [run_cons_of_some done, run]
    · rw [flatten_cons, run_append_of_some _ delivers.transactions]
      exact delivery.transactions
    · calc outputs (batch :: batches).flatten ++ final.buffered
          = outputs batch ++ (outputs batches.flatten ++ final.buffered) := by
            rw [flatten_cons, outputs_append, append_assoc]
        _ = outputs batch ++ next.buffered ++ texts rest := by
            rw [delivery.content, append_assoc]
        _ = start.buffered ++ (call.text ++ texts rest) := by
            rw [delivers.content, append_assoc]
        _ = start.buffered ++ texts (call :: rest) := rfl

/-- A run through a reset of the mode delivers all earlier output before it, closes the bracket,
and delivers all later output after it. -/
theorem run_delivers_reset {front back : List SessionCall}
    (keepsFront : ∀ call ∈ front, call.Keeps id) (keepsBack : ∀ call ∈ back, call.Keeps id)
    {start : Session} (live : start.exited = false) (settled : start.Settled)
    (ready : Ready start.clients id client) :
    ∃ final early late, run Session.call start (front ++ .setSyncMode false :: back) = some final ∧
      Offered id client final.clients (early ++ late) ∧
      run transaction start.sync.active early = some false ∧
      outputs early = start.buffered ++ texts front ∧
      outputs late ++ final.buffered = texts back := by
  obtain ⟨open', batches, run, openLive, openSettled, offered, delivery⟩ :=
    run_delivers keepsFront live settled ready
  obtain ⟨middle, middleReady, accepts⟩ := offered
  obtain ⟨closed, batch, done, -, delivers, inactive⟩ :=
    Session.setSyncMode_delivers openSettled middleReady false
  obtain ⟨last, lastReady, lastAccepts⟩ := delivers.offered
  obtain ⟨final, later, laterRun, -, -, laterOffered, laterDelivery⟩ :=
    run_delivers keepsBack (delivers.live.trans openLive) delivers.settled lastReady
  obtain ⟨after, afterReady, afterAccepts⟩ := laterOffered
  have nothing : closed.buffered = [] := by
    rw [Session.buffered, delivers.settled inactive]
    rfl
  refine ⟨final, batches.flatten ++ batch, later.flatten, ?_,
    ⟨after, afterReady, (accepts.append lastAccepts).append afterAccepts⟩, ?_, ?_, ?_⟩
  · rw [run_append_of_some _ run]
    have reset : open'.call (.setSyncMode false) = some closed := done
    exact (run_cons_of_some reset).trans laterRun
  · rw [run_append_of_some _ delivery.transactions, delivers.transactions, inactive]
  · calc outputs (batches.flatten ++ batch)
        = outputs batches.flatten ++ (outputs batch ++ closed.buffered) := by
          rw [nothing, append_nil, outputs_append]
      _ = outputs batches.flatten ++ open'.buffered := by
          rw [delivers.content, append_nil]
      _ = start.buffered ++ texts front := delivery.content
  · rw [laterDelivery.content, nothing, nil_append]

/-- Any calls on a live session deliver synchronized output to a ready client whose channel refuses
nothing: brackets that alternate, starting with `SyncBegin` when the mode is reset at the start, the
text in order, and everything broadcast after a reset behind the closing bracket. The loop that cuts
a buffer into chunks always ends. -/
theorem synchronized_delivery {before : List SessionCall} {start : Session}
    (reached : Fallible.run Session.call .new before = some start) (live : start.exited = false)
    {id : Nat} {client : ClientEndpoint} (ready : Ready start.clients id client)
    {calls : List SessionCall} (keeps : ∀ call ∈ calls, call.Keeps id) :
    (∃ final after, Fallible.run Session.call start calls = some final ∧
      Ready final.clients id after ∧
      (after.tx.refused = client.tx.refused →
        ∃ batches, after.tx.sent = client.tx.sent ++ batches.flatten ∧
          Delivery start calls batches final ∧
          ∀ front back, calls = front ++ .setSyncMode false :: back →
            ∃ early late, batches.flatten = early ++ late ∧
              Fallible.run transaction start.sync.active early = some false ∧
              outputs early = start.buffered ++ texts front ∧
              outputs late ++ final.buffered = texts back)) ∧
    ∀ combined fuel clients, size combined ≤ fuel →
      ∃ chunks : List (List Char), chunks.flatten = combined ∧
        (∀ chunk ∈ chunks, chunk ≠ [] ∧ size chunk ≤ flushChunkSize) ∧
        Session.flushLoop combined fuel 0 clients =
          some (chunks.foldl sendChunkToClients clients) := by
  have settled := Session.settled_of_reached reached
  constructor
  · obtain ⟨final, batches, run, -, -, ⟨after, afterReady, accepts⟩, delivery⟩ :=
      run_delivers keeps live settled ready
    refine ⟨final, after, run, afterReady, fun unrefused => ?_⟩
    refine ⟨batches, accepts.sent unrefused, delivery, ?_⟩
    rintro front back rfl
    obtain ⟨other, early, late, otherRun, ⟨otherAfter, otherReady, otherAccepts⟩, closed, earlier,
        later⟩ :=
      run_delivers_reset (fun call member => keeps call (mem_append_left _ member))
        (fun call member => keeps call (mem_append_right _ (mem_cons_of_mem _ member)))
        live settled ready
    cases otherRun.symm.trans run
    cases otherReady.1.symm.trans afterReady.1
    refine ⟨early, late, ?_, closed, earlier, later⟩
    exact append_cancel_left ((accepts.sent unrefused).symm.trans (otherAccepts.sent unrefused))
  · intro combined fuel clients enough
    obtain ⟨chunks, flat, sizes, loops⟩ := Session.flushLoop_chunks [] enough
    exact ⟨chunks, flat, sizes, loops clients⟩

/-- A session with one ready client that has been sent these messages. -/
def joined (sent : List SessionClientEvent) : Session :=
  ⟨false, ⟨false, [], 0⟩, [⟨0, ⟨10240, false, sent, 0, 0⟩, false⟩], 1⟩

/-- A short transaction with output in it and after it. -/
def transactionCalls : List SessionCall :=
  [.setSyncMode true, .broadcast ['a'], .setSyncMode false, .broadcast ['b']]

/-- A client that joins an idle session receives a transaction in brackets. -/
theorem synchronized_delivery_joined :
    ∃ batches, [.syncBegin, .output ['a'], .syncEnd, .output ['b']] = batches.flatten ∧
      Delivery (joined []) transactionCalls batches
        (joined [.syncBegin, .output ['a'], .syncEnd, .output ['b']]) := by
  have reached : Fallible.run Session.call .new [.addClient, .finishReplay 0] =
      some (joined []) := rfl
  have ready : Ready (joined []).clients 0 ⟨0, ⟨10240, false, [], 0, 0⟩, false⟩ := ⟨rfl, rfl, rfl⟩
  have keeps : ∀ call ∈ transactionCalls, call.Keeps 0 := by
    simp [transactionCalls, SessionCall.Keeps]
  obtain ⟨⟨final, after, run, afterReady, delivered⟩, -⟩ :=
    synchronized_delivery reached rfl ready keeps
  obtain rfl := some.inj (Eq.trans rfl run :
    some (joined [.syncBegin, .output ['a'], .syncEnd, .output ['b']]) = some final)
  obtain rfl := some.inj afterReady.1
  obtain ⟨batches, sent, delivery, -⟩ := delivered rfl
  exact ⟨batches, sent, delivery⟩

end Dinotty.SyncOutput
