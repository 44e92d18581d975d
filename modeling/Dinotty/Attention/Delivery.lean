/-
This file models the delivery of attention state to clients. It proves when all clients converge:
deltas have to be broadcast in the order of their revisions, and none between the taking and the
sending of a snapshot. Neither is enforced, and two short runs diverge; but reconnecting repairs a
client after any run.
-/

import Dinotty.Attention.Refine

namespace Dinotty.Attention

open List Option AttentionStore

/-! ### Producers and requests -/

/-- The calls that broadcast after they have released the ledger. -/
inductive Producer where
  | sendBell (paneId : String) (occurredAt : Nat)
  | sendNotify (notifId : String) (severity : Severity) (occurredAt : Nat)
  | sweep (nowMs : Nat)
  | paneClosed (paneId : String) (nowMs : Nat)

def Producer.call : Producer → LedgerCall
  | .sendBell paneId occurredAt => .recordPaneEvent paneId occurredAt .info occurredAt
  | .sendNotify notifId severity occurredAt =>
      .recordNotifEvent notifId occurredAt severity occurredAt
  | .sweep nowMs => .sweep nowMs
  | .paneClosed paneId nowMs => .paneClosed paneId nowMs

/-- A read receipt, with the watermarks that parse as numbers. -/
structure MarkReadRequest where
  clientId : String
  requestId : String
  payloadHash : Nat
  epoch : String
  panes : List (String × Option Nat)
  notifs : List String

/-- A notification of a plugin that has passed validation. `suppressed` is the verdict of the gate.
-/
structure NotifyRequest where
  clientId : String
  requestId : String
  payloadHash : Nat
  suppressed : Option String
  target : (String × Bool) ⊕ String
  severity : Severity

/-- Record the event of an accepted notification, with its outcome. -/
def NotifyRequest.record (request : NotifyRequest) (ledger : AttentionLedger) (nowMs : Nat) :
    Option (AttentionLedger × Option StateDelta × ProducerOutcome) :=
  match request.suppressed, request.target with
  | some reason, _ => some (ledger, none, .suppressed reason)
  | none, .inl (_, false) => some (ledger, none, .notFound)
  | none, .inl (paneId, true) =>
      (ledger.recordPaneEvent paneId nowMs request.severity nowMs).map fun (ledger, seq, delta) =>
        (ledger, some delta, .acceptedPane paneId seq delta.revision)
  | none, .inr notifId =>
      (ledger.recordNotifEvent notifId nowMs request.severity nowMs).map fun (ledger, seq, delta) =>
        (ledger, some delta, .acceptedNotif notifId seq delta.revision)

/-- The requests that broadcast while they hold the ledger. -/
inductive LockedRequest where
  | applyMarkRead (request : MarkReadRequest) (nowMs : Nat)
  | processNotify (request : NotifyRequest) (nowMs : Nat)

/-- The ledger after a request and the delta that it broadcasts. -/
def LockedRequest.apply (ledger : AttentionLedger) :
    LockedRequest → Option (AttentionLedger × Option StateDelta)
  | .applyMarkRead request nowMs => do
      let (ledger, reserved) ←
        ledger.reserve request.clientId request.requestId request.payloadHash nowMs
      match reserved with
      | .reserved generation =>
          let panes := request.panes.filterMap fun pane => pane.2.map fun seq => (pane.1, seq)
          let (ledger, delta, results, appliedAtRevision) ←
            ledger.markRead request.epoch panes request.notifs nowMs
          let result := ⟨request.requestId, ledger.epoch, appliedAtRevision, results⟩
          let (ledger, _) := ledger.complete (request.clientId, request.requestId) generation
            (.markRead result) nowMs
          return (ledger, delta)
      | _ => return (ledger, none)
  | .processNotify request nowMs => do
      let (ledger, reserved) ←
        ledger.reserve request.clientId request.requestId request.payloadHash nowMs
      match reserved with
      | .reserved generation =>
          let (ledger, delta, outcome) ← request.record ledger nowMs
          let (ledger, _) := ledger.complete (request.clientId, request.requestId) generation
            (.producer outcome) nowMs
          return (ledger, delta)
      | _ => return (ledger, none)

/-! ### The system -/

inductive Message where
  | stateDelta (delta : StateDelta)
  | snapshot (snapshot : Snapshot)

def Message.epoch : Message → String
  | .stateDelta delta => delta.epoch
  | .snapshot taken => taken.epoch

def Message.revision : Message → Nat
  | .stateDelta delta => delta.revision
  | .snapshot taken => taken.revision

/-- How far the registration of a client has come: it is in the client table, the snapshot for
it has been taken, or the snapshot has been sent. -/
inductive Stage where
  | joined
  | holding (snapshot : Snapshot)
  | registered

/-- An entry of the client table, with the messages that have not been delivered. -/
structure Connection where
  queue : List Message
  stage : Stage

/-- The ledger, the deltas still to be broadcast, the client table, and the store of each client,
which it keeps when it reconnects. -/
structure System where
  ledger : AttentionLedger
  pending : List StateDelta
  connections : Nat → Option Connection
  stores : Nat → AttentionStore

inductive SystemStep where
  | produce (producer : Producer)
  | broadcast (index : Nat)
  | locked (request : LockedRequest)
  | connect (client : Nat)
  | takeSnapshot (client : Nat)
  | sendSnapshot (client : Nat)
  | deliver (client : Nat)
  | disconnect (client : Nat)

def AttentionStore.receive (store : AttentionStore) : Message → AttentionStore
  | .stateDelta delta => store.applyDelta delta
  | .snapshot snapshot => store.applySnapshot snapshot

def AttentionStore.receiveAll (store : AttentionStore) (messages : List Message) : AttentionStore :=
  messages.foldl AttentionStore.receive store

namespace System

def start (epoch : String) (stores : Nat → AttentionStore) : System :=
  ⟨.withEpoch epoch, [], fun _ => none, stores⟩

def setConnection (system : System) (client : Nat) (connection : Option Connection) : System :=
  { system with
    connections := fun other => if other = client then connection else system.connections other }

/-- Enqueue a delta to every client in the table. -/
def broadcast (system : System) (delta : StateDelta) : System :=
  { system with
    connections := fun client => (system.connections client).map fun connection =>
      { connection with queue := connection.queue ++ [.stateDelta delta] } }

/-- One step of the system. A step that is not enabled changes nothing; a step fails when a
counter of the ledger is exhausted. -/
def step (system : System) : SystemStep → Option System
  | .produce producer =>
      (system.ledger.call producer.call).map fun (ledger, delta) =>
        { system with ledger, pending := system.pending ++ delta.toList }
  | .broadcast index =>
      match system.pending[index]? with
      | none => some system
      | some delta =>
          some ({ system with pending := system.pending.eraseIdx index }.broadcast delta)
  | .locked request =>
      (request.apply system.ledger).map fun (ledger, delta) =>
        match delta with
        | none => { system with ledger }
        | some delta => { system with ledger }.broadcast delta
  | .connect client =>
      match system.connections client with
      | none => some (system.setConnection client (some ⟨[], .joined⟩))
      | some _ => some system
  | .takeSnapshot client =>
      match system.connections client with
      | some ⟨queue, .joined⟩ =>
          some (system.setConnection client (some ⟨queue, .holding system.ledger.snapshot⟩))
      | _ => some system
  | .sendSnapshot client =>
      match system.connections client with
      | some ⟨queue, .holding snapshot⟩ =>
          some (system.setConnection client (some ⟨queue ++ [.snapshot snapshot], .registered⟩))
      | _ => some system
  | .deliver client =>
      match system.connections client with
      | some ⟨message :: queue, stage⟩ =>
          let system := system.setConnection client (some ⟨queue, stage⟩)
          some { system with
            stores := fun other =>
              if other = client then (system.stores client).receive message
              else system.stores other }
      | _ => some system
  | .disconnect client => some (system.setConnection client none)

/-- Every delta has been broadcast, every client has been sent its snapshot, and every message has
been delivered. -/
def Quiescent (system : System) : Prop :=
  system.pending = [] ∧
    ∀ client connection, system.connections client = some connection → connection = ⟨[], .registered⟩

/-- Every client in the table holds the panes and notifications of the snapshot. -/
def Converged (system : System) : Prop :=
  ∀ client connection, system.connections client = some connection →
    (system.stores client).panes = installPanes system.ledger.snapshot.panes ∧
      (system.stores client).notifs = installNotifs system.ledger.snapshot.notifs

/-- No snapshot that has been taken and not sent is older than the revision. -/
def NoneHoldsOlder (system : System) (revision : Nat) : Prop :=
  ∀ client queue snapshot, system.connections client = some ⟨queue, .holding snapshot⟩ →
    revision ≤ snapshot.revision

/-- A delta is only broadcast when none before it is still pending, and while no client is about to
be sent an older snapshot. -/
def Orderly (system : System) : SystemStep → Prop
  | .broadcast index => ∀ delta, system.pending[index]? = some delta →
      index = 0 ∧ system.NoneHoldsOlder delta.revision
  | .locked request => ∀ ledger delta, request.apply system.ledger = some (ledger, some delta) →
      system.pending = [] ∧ system.NoneHoldsOlder delta.revision
  | _ => True

end System

/-! ### Requests advance the ledger -/

variable {ledger next : AttentionLedger}

variable {returned : Option StateDelta}

theorem Advances.after_silent {middle : AttentionLedger} (first : Advances ledger middle none)
    (later : Advances middle next returned) :
    Advances ledger next returned := by
  have same := first.silent rfl
  refine ⟨later.ordered, later.epoch.trans first.epoch, fun delta equal => ?_, fun equal => ?_⟩
  · obtain ⟨epoch, revision, view⟩ := later.delta delta equal
    have revisions : middle.revision = ledger.revision := congrArg View.revision same
    rw [same] at view
    rw [revisions] at revision
    exact ⟨epoch.trans first.epoch, revision, view⟩
  · exact (later.silent equal).trans same

theorem Advances.then_silent {middle : AttentionLedger} (first : Advances ledger middle returned)
    (later : Advances middle next none) :
    Advances ledger next returned := by
  have same := later.silent rfl
  refine ⟨later.ordered, later.epoch.trans first.epoch, fun delta equal => ?_, fun equal => ?_⟩
  · obtain ⟨epoch, revision, view⟩ := first.delta delta equal
    exact ⟨epoch, revision, same.trans view⟩
  · exact same.trans (first.silent equal)

section

variable (ordered : ledger.Ordered)
include ordered

theorem reserve_advances {clientId requestId : String} {payloadHash nowMs : Nat}
    {res : ReserveResult}
    (done : ledger.reserve clientId requestId payloadHash nowMs = some (next, res)) :
    Advances ledger next none := by
  obtain ⟨nextDedupGeneration, dedup, rfl⟩ := reserve_eq done
  exact advances_dedup ordered rfl rfl rfl rfl rfl

theorem complete_advances (key : String × String) (generation : Nat) (outcome : DedupOutcome)
    (nowMs : Nat) :
    Advances ledger (ledger.complete key generation outcome nowMs).1 none := by
  obtain ⟨dedup, equal⟩ := complete_eq ledger key generation outcome nowMs
  rw [equal]
  exact advances_dedup ordered rfl rfl rfl rfl rfl

theorem NotifyRequest.record_advances {req : NotifyRequest} {nowMs : Nat}
    {outcome : ProducerOutcome}
    (done : req.record ledger nowMs = some (next, returned, outcome)) :
    Advances ledger next returned := by
  unfold NotifyRequest.record at done
  split at done
  · obtain ⟨rfl, rest⟩ := Prod.mk.inj (some.inj done)
    cases rest
    exact advances_dedup ordered rfl rfl rfl rfl rfl
  · obtain ⟨rfl, rest⟩ := Prod.mk.inj (some.inj done)
    cases rest
    exact advances_dedup ordered rfl rfl rfl rfl rfl
  · obtain ⟨⟨recorded, seq, delta⟩, recording, equal⟩ := map_eq_some_iff.mp done
    obtain ⟨rfl, rest⟩ := Prod.mk.inj equal
    cases rest
    exact recordPaneEvent_advances ordered recording
  · obtain ⟨⟨recorded, seq, delta⟩, recording, equal⟩ := map_eq_some_iff.mp done
    obtain ⟨rfl, rest⟩ := Prod.mk.inj equal
    cases rest
    exact recordNotifEvent_advances ordered recording

/-- A request advances the ledger by the delta that it broadcasts. -/
theorem LockedRequest.apply_advances {req : LockedRequest}
    (done : req.apply ledger = some (next, returned)) :
    Advances ledger next returned := by
  cases req with
  | applyMarkRead req nowMs =>
    obtain ⟨⟨reserved, res⟩, reserving, done⟩ := bind_eq_some_iff.mp done
    have first := reserve_advances ordered reserving
    cases res with
    | reserved generation =>
      obtain ⟨⟨marked, delta, results, appliedAt⟩, marking, done⟩ := bind_eq_some_iff.mp done
      cases done
      have second := first.after_silent (markRead_advances first.ordered marking)
      exact second.then_silent (complete_advances second.ordered _ _ _ _)
    | replay | conflict | inFlight =>
      cases done
      exact first
  | processNotify req nowMs =>
    obtain ⟨⟨reserved, res⟩, reserving, done⟩ := bind_eq_some_iff.mp done
    have first := reserve_advances ordered reserving
    cases res with
    | reserved generation =>
      obtain ⟨⟨recorded, delta, outcome⟩, recording, done⟩ := bind_eq_some_iff.mp done
      cases done
      have second := first.after_silent (NotifyRequest.record_advances first.ordered recording)
      exact second.then_silent (complete_advances second.ordered _ _ _ _)
    | replay | conflict | inFlight =>
      cases done
      exact first

end

/-! ### Stores -/

/-- The store holds what clients see of the ledger, at its revision. -/
structure AttentionStore.Shows (store : AttentionStore) (ledger : AttentionLedger) : Prop where
  epoch : store.epoch = some ledger.epoch
  revision : store.cacheRevision = ledger.revision
  listening : store.awaitingSnapshot = false
  panes : store.panes = ledger.view.panes
  notifs : store.notifs = ledger.view.notifs

/-- The store has nothing of the epoch that is newer than the revision. -/
def AttentionStore.Behind (store : AttentionStore) (epoch : String) (revision : Nat) : Prop :=
  store.epoch = some epoch → store.cacheRevision ≤ revision

/-- The store that a snapshot leads to. -/
def Snapshot.installed (snapshot : Snapshot) : AttentionStore :=
  ⟨some snapshot.epoch, snapshot.revision, false, installPanes snapshot.panes,
    installNotifs snapshot.notifs⟩

variable {store : AttentionStore} {epoch : String} {revision : Nat}

theorem applySnapshot_installed {snapshot : Snapshot}
    (behind : store.Behind snapshot.epoch snapshot.revision) :
    store.applySnapshot snapshot = snapshot.installed := by
  unfold applySnapshot
  rw [if_neg fun older => Nat.not_lt_of_le (behind older.1) older.2]
  rfl

theorem installed_shows (ledger : AttentionLedger) : ledger.snapshot.installed.Shows ledger := by
  obtain ⟨-, panes, notifs⟩ := View.mk.inj ledger.snapshot_view
  exact ⟨rfl, rfl, rfl, panes, notifs⟩

variable {delta : StateDelta}

theorem applyDelta_dropped (listening : store.awaitingSnapshot = false)
    (sameEpoch : store.epoch = some delta.epoch) (older : delta.revision ≤ store.cacheRevision) :
    store.applyDelta delta = store := by
  unfold applyDelta
  rw [if_neg (by rw [listening]; exact Bool.false_ne_true),
    if_neg fun other => other.2 sameEpoch, if_pos older]

theorem AttentionStore.Shows.dropped (shows : store.Shows ledger)
    (sameEpoch : delta.epoch = ledger.epoch) (older : delta.revision ≤ ledger.revision) :
    store.applyDelta delta = store :=
  applyDelta_dropped shows.listening (sameEpoch.symm ▸ shows.epoch) (shows.revision.symm ▸ older)

theorem AttentionStore.Shows.advance (shows : store.Shows ledger)
    (advances : Advances ledger next (some delta)) : (store.applyDelta delta).Shows next := by
  obtain ⟨deltaEpoch, deltaRevision, view⟩ := advances.delta delta rfl
  have storeEpoch : store.epoch = some delta.epoch := deltaEpoch.symm ▸ shows.epoch
  have newer : ¬ delta.revision ≤ store.cacheRevision := by
    rw [shows.revision, deltaRevision]
    exact Nat.not_succ_le_self _
  have nextRevision : next.revision = delta.revision := congrArg View.revision view
  unfold applyDelta
  rw [if_neg (by rw [shows.listening]; exact Bool.false_ne_true),
    if_neg fun other => other.2 storeEpoch, if_neg newer]
  refine ⟨?_, nextRevision.symm, shows.listening, ?_, ?_⟩
  · show some (store.epoch.getD delta.epoch) = some next.epoch
    rw [storeEpoch, getD_some, deltaEpoch, advances.epoch]
  · rw [view, shows.panes]
    rfl
  · rw [view, shows.notifs]
    rfl

theorem AttentionStore.Shows.unchanged (shows : store.Shows ledger)
    (advances : Advances ledger next none) : store.Shows next := by
  have view := advances.silent rfl
  refine ⟨advances.epoch.symm ▸ shows.epoch, ?_, shows.listening, ?_, ?_⟩
  · exact shows.revision.trans (congrArg View.revision view).symm
  · rw [view]
    exact shows.panes
  · rw [view]
    exact shows.notifs

/-- Messages of the epoch up to the revision. -/
def Within (epoch : String) (revision : Nat) (messages : List Message) : Prop :=
  ∀ message ∈ messages, message.epoch = epoch ∧ message.revision ≤ revision

variable {message : Message}

theorem receive_behind (behind : store.Behind epoch revision) (sameEpoch : message.epoch = epoch)
    (older : message.revision ≤ revision) :
    (store.receive message).Behind epoch revision := by
  cases message with
  | stateDelta delta =>
    show (store.applyDelta delta).Behind epoch revision
    unfold applyDelta
    split
    · exact behind
    · split
      · exact behind
      · split
        · exact behind
        · exact fun _ => older
  | snapshot taken =>
    show (store.applySnapshot taken).Behind epoch revision
    unfold applySnapshot
    split
    · exact behind
    · exact fun _ => older

variable {messages : List Message}

theorem receiveAll_behind (behind : store.Behind epoch revision)
    (within : Within epoch revision messages) :
    (store.receiveAll messages).Behind epoch revision := by
  induction messages generalizing store with
  | nil => exact behind
  | cons message rest ih =>
    obtain ⟨sameEpoch, older⟩ := within message mem_cons_self
    exact ih (receive_behind behind sameEpoch older)
      fun other mem => within other (mem_cons_of_mem _ mem)

theorem receiveAll_append (store : AttentionStore) (front back : List Message) :
    store.receiveAll (front ++ back) = (store.receiveAll front).receiveAll back :=
  foldl_append

theorem receiveAll_dropped (shows : store.Shows ledger) {deltas : List StateDelta}
    (within : Within ledger.epoch ledger.revision (deltas.map .stateDelta)) :
    store.receiveAll (deltas.map .stateDelta) = store := by
  induction deltas with
  | nil => rfl
  | cons delta rest ih =>
    obtain ⟨sameEpoch, older⟩ := within (.stateDelta delta) mem_cons_self
    have dropped : store.receive (.stateDelta delta) = store := shows.dropped sameEpoch older
    show (store.receive (.stateDelta delta)).receiveAll (rest.map .stateDelta) = store
    rw [dropped]
    exact ih fun other mem => within other (mem_cons_of_mem _ mem)

theorem Within.mono (within : Within epoch revision messages) {later : Nat}
    (ordered : revision ≤ later) : Within epoch later messages :=
  fun message mem => ⟨(within message mem).1, (within message mem).2.trans ordered⟩

theorem Within.snoc (within : Within epoch revision messages) (sameEpoch : message.epoch = epoch)
    (older : message.revision ≤ revision) :
    Within epoch revision (messages ++ [message]) := by
  intro other mem
  rcases mem_append.mp mem with old | new
  · exact within other old
  · obtain rfl := mem_singleton.mp new
    exact ⟨sameEpoch, older⟩

/-! ### The invariant -/

/-- Once the queue of a client and the pending deltas have been delivered, after its snapshot if
that is still to come, its store shows the ledger. -/
def Fits (ledger : AttentionLedger) (pending : List StateDelta) (store : AttentionStore)
    (queue : List Message) : Stage → Prop
  | .joined => True
  | .holding snapshot =>
      snapshot.epoch = ledger.epoch ∧ snapshot.revision ≤ ledger.revision ∧
        store.Behind ledger.epoch snapshot.revision ∧
        Within ledger.epoch snapshot.revision queue ∧
        (snapshot.installed.receiveAll (pending.map .stateDelta)).Shows ledger
  | .registered => (store.receiveAll (queue ++ pending.map .stateDelta)).Shows ledger

structure System.Consistent (system : System) : Prop where
  ordered : system.ledger.Ordered
  pending : Within system.ledger.epoch system.ledger.revision (system.pending.map .stateDelta)
  stores : ∀ client, (system.stores client).Behind system.ledger.epoch system.ledger.revision
  queues : ∀ client queue stage, system.connections client = some ⟨queue, stage⟩ →
    Within system.ledger.epoch system.ledger.revision queue
  fits : ∀ client queue stage, system.connections client = some ⟨queue, stage⟩ →
    Fits system.ledger system.pending (system.stores client) queue stage

theorem advances_revision (advances : Advances ledger next returned) :
    ledger.revision ≤ next.revision := by
  cases returned with
  | none => exact Nat.le_of_eq (congrArg View.revision (advances.silent rfl)).symm
  | some delta =>
    obtain ⟨-, revision, view⟩ := advances.delta delta rfl
    have nextRevision : next.revision = delta.revision := congrArg View.revision view
    omega

theorem shows_advance (shows : (store.receiveAll messages).Shows ledger)
    (advances : Advances ledger next returned) :
    (store.receiveAll (messages ++ returned.toList.map .stateDelta)).Shows next := by
  rw [receiveAll_append]
  cases returned with
  | none => exact shows.unchanged advances
  | some delta => exact shows.advance advances

variable {queue : List Message}

theorem Fits.advance {pending : List StateDelta} {stage : Stage}
    (fits : Fits ledger pending store queue stage) (advances : Advances ledger next returned) :
    Fits next (pending ++ returned.toList) store queue stage := by
  cases stage with
  | joined => trivial
  | holding snapshot =>
    obtain ⟨sameEpoch, older, behind, within, shows⟩ := fits
    refine ⟨sameEpoch.trans advances.epoch.symm, older.trans (advances_revision advances),
      advances.epoch ▸ behind, advances.epoch ▸ within, ?_⟩
    rw [map_append]
    exact shows_advance shows advances
  | registered =>
    have shows := shows_advance fits advances
    rw [append_assoc, ← map_append] at shows
    exact shows

variable {system : System}

section

variable (consistent : system.Consistent)
include consistent

theorem consistent_produce (advances : Advances system.ledger next returned) :
    { system with ledger := next, pending := system.pending ++ returned.toList }.Consistent := by
  have later := advances_revision advances
  refine ⟨advances.ordered, ?_, fun client same => ?_, fun client queue stage held => ?_,
    fun client queue stage held => (consistent.fits client queue stage held).advance advances⟩
  · have old := advances.epoch.symm ▸ consistent.pending.mono later
    cases returned with
    | none =>
      show Within next.epoch next.revision ((system.pending ++ []).map .stateDelta)
      rwa [append_nil]
    | some delta =>
      obtain ⟨epoch, -, view⟩ := advances.delta delta rfl
      show Within next.epoch next.revision ((system.pending ++ [delta]).map .stateDelta)
      rw [map_append]
      exact old.snoc (epoch.trans advances.epoch.symm)
        (Nat.le_of_eq (congrArg View.revision view).symm)
  · exact (consistent.stores client (same.trans (congrArg some advances.epoch))).trans later
  · exact advances.epoch.symm ▸ (consistent.queues client queue stage held).mono later

/-- The first pending delta is broadcast, while nobody holds an older snapshot. -/
theorem consistent_broadcast {rest : List StateDelta} (first : system.pending = delta :: rest)
    (noneOlder : system.NoneHoldsOlder delta.revision) :
    ({ system with pending := rest }.broadcast delta).Consistent := by
  have pending := consistent.pending
  rw [first, map_cons] at pending
  obtain ⟨sameEpoch, older⟩ := pending (.stateDelta delta) mem_cons_self
  have connected {client : Nat} {queue : List Message} {stage : Stage}
      (held : ({ system with pending := rest }.broadcast delta).connections client =
        some ⟨queue, stage⟩) :
      ∃ front, system.connections client = some ⟨front, stage⟩ ∧
        queue = front ++ [.stateDelta delta] := by
    obtain ⟨⟨front, oldStage⟩, old, equal⟩ := map_eq_some_iff.mp held
    obtain ⟨rfl, rfl⟩ := Connection.mk.inj equal
    exact ⟨front, old, rfl⟩
  refine ⟨consistent.ordered, fun message mem => pending message (mem_cons_of_mem _ mem),
    consistent.stores, fun client queue stage held => ?_, fun client queue stage held => ?_⟩
  · obtain ⟨front, old, rfl⟩ := connected held
    exact (consistent.queues client front stage old).snoc sameEpoch older
  · obtain ⟨front, old, rfl⟩ := connected held
    have fits := consistent.fits client front stage old
    rw [first] at fits
    cases stage with
    | joined => trivial
    | holding snapshot =>
      obtain ⟨snapshotEpoch, snapshotOlder, behind, within, shows⟩ := fits
      have heldNewer := noneOlder client front snapshot old
      refine ⟨snapshotEpoch, snapshotOlder, behind, within.snoc sameEpoch heldNewer, ?_⟩
      have dropped : snapshot.installed.receive (.stateDelta delta) = snapshot.installed :=
        applyDelta_dropped rfl (congrArg some (snapshotEpoch.trans sameEpoch.symm)) heldNewer
      have step : snapshot.installed.receiveAll ((delta :: rest).map .stateDelta) =
          (snapshot.installed.receive (.stateDelta delta)).receiveAll (rest.map .stateDelta) := rfl
      rw [step, dropped] at shows
      exact shows
    | registered =>
      show (_ : AttentionStore).Shows _
      rw [append_assoc]
      exact fits

theorem consistent_locked (advances : Advances system.ledger next returned)
    (orderly : ∀ delta, returned = some delta →
      system.pending = [] ∧ system.NoneHoldsOlder delta.revision) :
    (match returned with
      | none => { system with ledger := next }
      | some delta => { system with ledger := next }.broadcast delta).Consistent := by
  have produced := consistent_produce consistent advances
  cases returned with
  | none =>
    rw [toList_none, append_nil] at produced
    exact produced
  | some delta =>
    obtain ⟨empty, noneOlder⟩ := orderly delta rfl
    rw [empty] at produced
    have sent := consistent_broadcast produced rfl noneOlder
    rw [← empty] at sent
    exact sent

theorem consistent_setConnection (client : Nat) {connection : Option Connection}
    (good : ∀ queue stage, connection = some ⟨queue, stage⟩ →
      Within system.ledger.epoch system.ledger.revision queue ∧
        Fits system.ledger system.pending (system.stores client) queue stage) :
    (system.setConnection client connection).Consistent := by
  have either (other : Nat) (queue : List Message) (stage : Stage)
      (held : (system.setConnection client connection).connections other = some ⟨queue, stage⟩) :
      Within system.ledger.epoch system.ledger.revision queue ∧
        Fits system.ledger system.pending (system.stores other) queue stage := by
    have cases : (if other = client then connection else system.connections other) =
        some ⟨queue, stage⟩ := held
    split at cases
    next here =>
      exact here ▸ good queue stage cases
    · exact ⟨consistent.queues other queue stage cases, consistent.fits other queue stage cases⟩
  exact ⟨consistent.ordered, consistent.pending, consistent.stores,
    fun other queue stage held => (either other queue stage held).1,
    fun other queue stage held => (either other queue stage held).2⟩

end

variable {client : Nat}

section

variable (consistent : system.Consistent)
include consistent

theorem consistent_takeSnapshot (joined : system.connections client = some ⟨queue, .joined⟩) :
    (system.setConnection client (some ⟨queue, .holding system.ledger.snapshot⟩)).Consistent := by
  have within := consistent.queues client queue .joined joined
  refine consistent_setConnection consistent client fun other stage equal => ?_
  obtain ⟨rfl, rfl⟩ := Connection.mk.inj (some.inj equal)
  have shows := installed_shows system.ledger
  refine ⟨within, rfl, Nat.le_refl _, consistent.stores client, within, ?_⟩
  rw [receiveAll_dropped shows consistent.pending]
  exact shows

theorem consistent_sendSnapshot {snapshot : Snapshot}
    (holding : system.connections client = some ⟨queue, .holding snapshot⟩) :
    (system.setConnection client
      (some ⟨queue ++ [.snapshot snapshot], .registered⟩)).Consistent := by
  have within := consistent.queues client queue _ holding
  obtain ⟨sameEpoch, older, behind, queueOlder, shows⟩ := consistent.fits client queue _ holding
  refine consistent_setConnection consistent client fun other stage equal => ?_
  obtain ⟨rfl, rfl⟩ := Connection.mk.inj (some.inj equal)
  refine ⟨within.snoc sameEpoch older, ?_⟩
  have delivered := receiveAll_behind behind queueOlder
  rw [← sameEpoch] at delivered
  have taken : (system.stores client).receiveAll (queue ++ [.snapshot snapshot]) =
      snapshot.installed := by
    rw [receiveAll_append]
    exact applySnapshot_installed delivered
  rw [Fits, receiveAll_append, taken]
  exact shows

theorem consistent_deliver {stage : Stage}
    (held : system.connections client = some ⟨message :: queue, stage⟩) :
    { system.setConnection client (some ⟨queue, stage⟩) with
      stores := fun other =>
        if other = client then (system.stores client).receive message
        else system.stores other }.Consistent := by
  have within := consistent.queues client _ stage held
  have fits := consistent.fits client _ stage held
  obtain ⟨sameEpoch, older⟩ := within message mem_cons_self
  have stores (other : Nat) : ((if other = client then (system.stores client).receive message
      else system.stores other) : AttentionStore).Behind system.ledger.epoch
        system.ledger.revision := by
    split
    · exact receive_behind (consistent.stores client) sameEpoch older
    · exact consistent.stores other
  have connected {other : Nat} {rest : List Message} {now : Stage}
      (found : (if other = client then some ⟨queue, stage⟩ else system.connections other) =
        some (⟨rest, now⟩ : Connection)) :
      (other = client ∧ rest = queue ∧ now = stage) ∨
        (other ≠ client ∧ system.connections other = some ⟨rest, now⟩) := by
    split at found
    next here =>
      obtain ⟨rfl, rfl⟩ := Connection.mk.inj (some.inj found)
      exact Or.inl ⟨here, rfl, rfl⟩
    next away =>
      exact Or.inr ⟨away, found⟩
  refine ⟨consistent.ordered, consistent.pending, stores, fun other rest now found => ?_,
    fun other rest now found => ?_⟩
  · rcases connected found with ⟨rfl, rfl, rfl⟩ | ⟨-, old⟩
    · exact fun item mem => within item (mem_cons_of_mem _ mem)
    · exact consistent.queues other rest now old
  · rcases connected found with ⟨rfl, rfl, rfl⟩ | ⟨away, old⟩
    · dsimp only
      rw [if_pos rfl]
      cases now with
      | joined => trivial
      | holding snapshot =>
        obtain ⟨snapshotEpoch, snapshotOlder, behind, queueOlder, shows⟩ := fits
        obtain ⟨-, messageOlder⟩ := queueOlder message mem_cons_self
        exact ⟨snapshotEpoch, snapshotOlder, receive_behind behind sameEpoch messageOlder,
          fun item mem => queueOlder item (mem_cons_of_mem _ mem), shows⟩
      | registered => exact fits
    · dsimp only
      rw [if_neg away]
      exact consistent.fits other rest now old

theorem step_consistent {action : SystemStep} (orderly : system.Orderly action) {after : System}
    (done : system.step action = some after) :
    after.Consistent := by
  have same (equal : some system = some after) : after.Consistent := some.inj equal ▸ consistent
  cases action with
  | produce producer =>
    obtain ⟨⟨ledger, delta⟩, called, rfl⟩ := map_eq_some_iff.mp done
    exact consistent_produce consistent (call_advances consistent.ordered called)
  | broadcast i =>
    simp only [System.step] at done
    split at done
    · exact same done
    next delta found =>
      obtain ⟨rfl, noneOlder⟩ := orderly delta found
      cases done
      cases pending : system.pending with
      | nil =>
        rw [pending] at found
        exact nomatch found
      | cons first rest =>
        rw [pending] at found
        cases found
        exact consistent_broadcast consistent pending noneOlder
  | locked req =>
    obtain ⟨⟨ledger, delta⟩, applied, rfl⟩ := map_eq_some_iff.mp done
    refine consistent_locked consistent
      (LockedRequest.apply_advances consistent.ordered applied) fun returned equal => ?_
    exact orderly ledger returned (equal ▸ applied)
  | connect client =>
    simp only [System.step] at done
    split at done
    · cases done
      refine consistent_setConnection consistent client fun queue stage equal => ?_
      obtain ⟨rfl, rfl⟩ := Connection.mk.inj (some.inj equal)
      exact ⟨nofun, trivial⟩
    · exact same done
  | takeSnapshot client =>
    simp only [System.step] at done
    split at done
    next queue joined =>
      cases done
      exact consistent_takeSnapshot consistent joined
    · exact same done
  | sendSnapshot client =>
    simp only [System.step] at done
    split at done
    next queue snapshot holding =>
      cases done
      exact consistent_sendSnapshot consistent holding
    · exact same done
  | deliver client =>
    simp only [System.step] at done
    split at done
    next message queue stage held =>
      cases done
      exact consistent_deliver consistent held
    · exact same done
  | disconnect client =>
    cases done
    exact consistent_setConnection consistent client nofun

theorem consistent_converged (quiescent : system.Quiescent) : system.Converged := by
  intro client conn held
  obtain ⟨empty, idle⟩ := quiescent
  obtain rfl := idle client conn held
  have shows := consistent.fits client [] .registered held
  rw [empty] at shows
  obtain ⟨-, panes, notifs⟩ := View.mk.inj system.ledger.snapshot_view
  exact ⟨shows.panes.trans panes.symm, shows.notifs.trans notifs.symm⟩

end

/-- If the steps keep the order of revisions, every quiescent state has converged, whatever the
clients held of other epochs at the start. -/
theorem orderly_run_converges {epoch : String} {stores : Nat → AttentionStore}
    (foreign : ∀ client, (stores client).epoch ≠ some epoch) {steps : List SystemStep}
    (orderly : Fallible.Meets System.step System.Orderly (.start epoch stores) steps)
    {final : System} (run : Fallible.run System.step (.start epoch stores) steps = some final)
    (quiescent : final.Quiescent) : final.Converged := by
  have start : (System.start epoch stores).Consistent :=
    ⟨withEpoch_ordered epoch, nofun, fun client same => absurd same (foreign client), nofun, nofun⟩
  refine consistent_converged (Fallible.run_invariant ?_ start orderly run) quiescent
  exact fun system action next consistent met done => step_consistent consistent met done

/-- A system in which every client is fresh. -/
def freshStart : System := .start "e" fun _ => .createAttentionStore

/-- A bell before a client joins: its snapshot brings the bell. -/
def joinSteps : List SystemStep :=
  [.produce (.sendBell "a" 1), .broadcast 0, .connect 0, .takeSnapshot 0, .sendSnapshot 0,
    .deliver 0]

/-- A client that joins after a bell converges. -/
theorem orderly_run_converges_join :
    ∃ final, Fallible.run System.step freshStart joinSteps = some final ∧ final.Converged := by
  have orderly : Fallible.Meets System.step System.Orderly freshStart joinSteps := by
    refine ⟨trivial, fun produced taken => ?_⟩
    cases taken
    have nobody (client : Nat) (queue : List Message) (snapshot : Snapshot)
        (held : (none : Option Connection) = some ⟨queue, .holding snapshot⟩) :
        1 ≤ snapshot.revision := nomatch held
    refine ⟨fun delta found => ⟨rfl, ?_⟩, fun sent taken => ?_⟩
    · cases found
      exact nobody
    cases taken
    exact ⟨trivial, fun _ _ => ⟨trivial, fun _ _ => ⟨trivial, fun _ _ => ⟨trivial, fun _ _ =>
      trivial⟩⟩⟩⟩
  have run : Fallible.run System.step freshStart joinSteps = some _ := rfl
  refine ⟨_, run, orderly_run_converges (fun _ => by decide) orderly run ⟨rfl, ?_⟩⟩
  intro client connection present
  by_cases here : client = 0
  · subst here
    exact (some.inj present).symm
  · simp [here, System.setConnection, System.broadcast, freshStart, System.start] at present

/-- Two producers broadcast in the other order: the client drops the older delta. -/
def reorderedSteps : List SystemStep :=
  [.connect 0, .takeSnapshot 0, .sendSnapshot 0, .deliver 0, .produce (.sendBell "a" 1),
    .produce (.sendBell "b" 2), .broadcast 1, .broadcast 0, .deliver 0, .deliver 0]

/-- A delta is broadcast between the taking and the sending of a snapshot: the client drops the
snapshot. -/
def overtakenSteps : List SystemStep :=
  [.produce (.sendBell "a" 1), .broadcast 0, .connect 0, .takeSnapshot 0,
    .produce (.sendBell "b" 2), .broadcast 0, .sendSnapshot 0, .deliver 0, .deliver 0]

/-- Both runs end with every message delivered and a client that misses the bell of one pane. -/
theorem reordered_and_overtaken_diverge :
    (∃ final, Fallible.run System.step freshStart reorderedSteps = some final ∧
      final.Quiescent ∧ ¬ final.Converged) ∧
    (∃ final, Fallible.run System.step freshStart overtakenSteps = some final ∧
      final.Quiescent ∧ ¬ final.Converged) := by
  have misses {final : System} (connected : final.connections 0 = some ⟨[], .registered⟩)
      (stored : (final.stores 0).panes "a" = none)
      (listed : (final.ledger.panes.lookup "a").isSome = true) : ¬ final.Converged := by
    intro converged
    obtain ⟨-, panes, -⟩ := View.mk.inj final.ledger.snapshot_view
    have equal := congrFun ((converged 0 _ connected).1.trans panes) "a"
    rw [stored] at equal
    rw [map_eq_none_iff.mp equal.symm] at listed
    exact nomatch listed
  constructor
  · refine ⟨_, rfl, ⟨rfl, ?_⟩, misses rfl (by decide +kernel) rfl⟩
    intro client connection present
    by_cases here : client = 0
    · subst here
      exact (some.inj present).symm
    · simp [here, System.setConnection, System.broadcast, freshStart, System.start] at present
  · refine ⟨_, rfl, ⟨rfl, ?_⟩, misses rfl (by decide +kernel) rfl⟩
    intro client connection present
    by_cases here : client = 0
    · subst here
      exact (some.inj present).symm
    · simp [here, System.setConnection, System.broadcast, freshStart, System.start] at present

/-! ### Reconnecting -/

/-- The snapshot that a client is about to be sent. -/
def Stage.held : Stage → List Message
  | .holding snapshot => [.snapshot snapshot]
  | .joined | .registered => []

/-- No message that is still to come and no store is newer than the ledger. -/
structure System.Bounded (system : System) : Prop where
  ordered : system.ledger.Ordered
  pending : Within system.ledger.epoch system.ledger.revision (system.pending.map .stateDelta)
  stores : ∀ client, (system.stores client).Behind system.ledger.epoch system.ledger.revision
  queues : ∀ client queue stage, system.connections client = some ⟨queue, stage⟩ →
    Within system.ledger.epoch system.ledger.revision (queue ++ stage.held)

/-- The delta that comes of an advance is as new as the ledger then. -/
theorem returned_within (advances : Advances ledger next (some delta)) :
    delta.epoch = next.epoch ∧ delta.revision ≤ next.revision := by
  obtain ⟨epoch, -, view⟩ := advances.delta delta rfl
  exact ⟨epoch.trans advances.epoch.symm, Nat.le_of_eq (congrArg View.revision view).symm⟩

section

variable (bounded : system.Bounded)
include bounded

theorem bounded_advance (advances : Advances system.ledger next returned) :
    { system with ledger := next }.Bounded := by
  have later := advances_revision advances
  exact ⟨advances.ordered, advances.epoch.symm ▸ bounded.pending.mono later,
    fun client same => (bounded.stores client (same.trans (congrArg some advances.epoch))).trans
      later,
    fun client queue stage held =>
      advances.epoch.symm ▸ (bounded.queues client queue stage held).mono later⟩

theorem bounded_broadcast (sameEpoch : delta.epoch = system.ledger.epoch)
    (older : delta.revision ≤ system.ledger.revision) : (system.broadcast delta).Bounded := by
  refine ⟨bounded.ordered, bounded.pending, bounded.stores, fun client queue stage held => ?_⟩
  obtain ⟨⟨front, _⟩, old, equal⟩ := map_eq_some_iff.mp held
  obtain ⟨rfl, rfl⟩ := Connection.mk.inj equal
  intro message mem
  have within := bounded.queues client front _ old
  rw [append_assoc, mem_append, mem_append, mem_singleton] at mem
  rcases mem with mem | rfl | mem
  · exact within message (mem_append_left _ mem)
  · exact ⟨sameEpoch, older⟩
  · exact within message (mem_append_right _ mem)

theorem bounded_setConnection {connection : Option Connection}
    (within : ∀ queue stage, connection = some ⟨queue, stage⟩ →
      Within system.ledger.epoch system.ledger.revision (queue ++ stage.held)) :
    (system.setConnection client connection).Bounded := by
  refine ⟨bounded.ordered, bounded.pending, bounded.stores, fun other queue stage held => ?_⟩
  dsimp only [System.setConnection] at held
  split at held
  · exact within queue stage held
  · exact bounded.queues other queue stage held

theorem bounded_step {action : SystemStep} {after : System}
    (done : system.step action = some after) : after.Bounded := by
  have same (equal : some system = some after) : after.Bounded := some.inj equal ▸ bounded
  cases action with
  | produce producer =>
    obtain ⟨⟨ledger, returned⟩, called, rfl⟩ := map_eq_some_iff.mp done
    have advances := call_advances bounded.ordered called
    have moved := bounded_advance bounded advances
    refine ⟨moved.ordered, ?_, moved.stores, moved.queues⟩
    cases returned with
    | none => simpa using moved.pending
    | some delta =>
      obtain ⟨epoch, older⟩ := returned_within advances
      dsimp only
      rw [toList_some, map_append]
      exact moved.pending.snoc epoch older
  | broadcast i =>
    simp only [System.step] at done
    split at done
    · exact same done
    next delta found =>
      cases done
      obtain ⟨epoch, older⟩ := bounded.pending _ (mem_map_of_mem (mem_of_getElem? found))
      exact bounded_broadcast ⟨bounded.ordered,
        fun message mem => bounded.pending message (map_subset _ eraseIdx_subset mem),
        bounded.stores, bounded.queues⟩ epoch older
  | locked req =>
    obtain ⟨⟨ledger, returned⟩, applied, rfl⟩ := map_eq_some_iff.mp done
    have advances := LockedRequest.apply_advances bounded.ordered applied
    have moved := bounded_advance bounded advances
    cases returned with
    | none => exact moved
    | some delta =>
      obtain ⟨epoch, older⟩ := returned_within advances
      exact bounded_broadcast moved epoch older
  | connect client =>
    simp only [System.step] at done
    split at done
    · cases done
      refine bounded_setConnection bounded fun queue stage equal => ?_
      cases equal
      exact nofun
    · exact same done
  | takeSnapshot client =>
    simp only [System.step] at done
    split at done
    next queue joined =>
      cases done
      refine bounded_setConnection bounded fun other stage equal => ?_
      cases equal
      have within := bounded.queues client queue _ joined
      rw [Stage.held, append_nil] at within
      exact within.snoc rfl (Nat.le_refl _)
    · exact same done
  | sendSnapshot client =>
    simp only [System.step] at done
    split at done
    next queue snapshot holding =>
      cases done
      refine bounded_setConnection bounded fun other stage equal => ?_
      cases equal
      rw [Stage.held, append_nil]
      exact bounded.queues client queue _ holding
    · exact same done
  | deliver client =>
    simp only [System.step] at done
    split at done
    next message queue stage held =>
      cases done
      have within := bounded.queues client _ stage held
      have kept : (system.setConnection client (some ⟨queue, stage⟩)).Bounded := by
        refine bounded_setConnection bounded fun other now equal => ?_
        cases equal
        exact fun item mem => within item (mem_cons_of_mem _ mem)
      refine ⟨kept.ordered, kept.pending, fun other => ?_, kept.queues⟩
      dsimp only
      split
      · obtain ⟨epoch, older⟩ := within message mem_cons_self
        exact receive_behind (bounded.stores client) epoch older
      · exact bounded.stores other
    · exact same done
  | disconnect client =>
    cases done
    exact bounded_setConnection bounded nofun

end

end Dinotty.Attention
