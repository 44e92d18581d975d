/-
This file models the attention ledger: unread events by pane, notifications without a pane, and the
deduplication of requests. Counters fail when they would pass the largest 64-bit value, and maps are
iterated in the order of their entries.
-/

import Dinotty.Foundation.ChangeLog
import Dinotty.Foundation.KeyMap

namespace Dinotty.Attention

/-- Most unread events that are kept for one pane. -/
def unreadCap : Nat := 100

/-- Maximum age of an unread event and retention period for fully-read identities. -/
def unreadTtl : Nat := 72 * 60 * 60 * 1000

/-- Maximum number of pane identities and pane-less notification identities, independently. -/
def identityCap : Nat := 512

/-- Completed request replay horizon, measured from completion time. -/
def dedupTtl : Nat := 10 * 60 * 1000

/-- Maximum age of an unfinished reservation before it may be reclaimed. -/
def reservationTimeout : Nat := 30 * 1000

def counterMax : Nat := 2 ^ 64 - 1

/-! ### Data -/

inductive Severity where
  | info
  | success
  | warning
  | error
  | urgent
deriving DecidableEq

def Severity.rank : Severity → Nat
  | .info => 0
  | .success => 1
  | .warning => 2
  | .error => 3
  | .urgent => 4

def Severity.max (left right : Severity) : Severity :=
  if left.rank ≤ right.rank then right else left

structure UnreadEvent where
  seq : Nat
  occurredAt : Nat
  severity : Severity
deriving DecidableEq

structure PaneAttention where
  readThroughSeq : Nat
  latestEventSeq : Nat
  unread : List UnreadEvent
  readAt : Option Nat
deriving DecidableEq

structure NotifAttention where
  eventSeq : Nat
  occurredAt : Nat
  severity : Severity
  read : Bool
  readAt : Option Nat
deriving DecidableEq

structure PaneDelta where
  paneId : String
  latestEventSeq : Option Nat
  readThroughSeq : Option Nat
  firstUnreadAt : Option Nat
  severity : Option Severity
  removed : Option Bool
deriving DecidableEq

def PaneDelta.removal (paneId : String) : PaneDelta := ⟨paneId, none, none, none, none, some true⟩

structure NotifDelta where
  notifId : String
  read : Option Bool
  removed : Option Bool
deriving DecidableEq

def NotifDelta.removal (notifId : String) : NotifDelta := ⟨notifId, none, some true⟩

structure StateDelta where
  epoch : String
  revision : Nat
  panes : List PaneDelta
  notifs : List NotifDelta
deriving DecidableEq

structure Snapshot where
  epoch : String
  revision : Nat
  panes : List PaneDelta
  notifs : List NotifDelta
deriving DecidableEq

inductive AttentionTarget where
  | pane (paneId : String)
  | notif (notifId : String)
deriving DecidableEq

inductive TargetStatus where
  | applied
  | staleEpoch
  | invalid
  | notFound
  | conflict
deriving DecidableEq

structure TargetResult where
  target : AttentionTarget
  status : TargetStatus
deriving DecidableEq

structure MarkReadResult where
  requestId : String
  epoch : String
  appliedAtRevision : Option Nat
  results : List TargetResult
deriving DecidableEq

inductive ProducerOutcome where
  | acceptedPane (paneId : String) (eventSeq revision : Nat)
  | acceptedNotif (notifId : String) (eventSeq revision : Nat)
  | suppressed (reason : String)
  | notFound
deriving DecidableEq

inductive DedupOutcome where
  | markRead (result : MarkReadResult)
  | producer (outcome : ProducerOutcome)
deriving DecidableEq

inductive DedupState where
  | inFlight (reservedAt generation : Nat)
  | done (doneAt : Nat) (outcome : DedupOutcome)
deriving DecidableEq

structure DedupEntry where
  payloadHash : Nat
  state : DedupState
deriving DecidableEq

inductive ReserveResult where
  | reserved (generation : Nat)
  | replay (outcome : DedupOutcome)
  | conflict
  | inFlight
deriving DecidableEq

structure AttentionLedger where
  epoch : String
  nextEventSeq : Nat
  nextDedupGeneration : Nat
  revision : Nat
  panes : KeyMap String PaneAttention
  notifs : KeyMap String NotifAttention
  dedup : KeyMap (String × String) DedupEntry

def isExpired (start duration nowMs : Nat) : Bool := nowMs - start ≥ duration

def pushUnique (values : List String) (value : String) : List String :=
  if value ∈ values then values else values ++ [value]

/-! ### Deltas of one entry -/

def maxSeverity : List UnreadEvent → Option Severity
  | [] => none
  | first :: rest =>
      some (rest.foldl (fun severity event => severity.max event.severity) first.severity)

def PaneAttention.delta (paneId : String) (pane : PaneAttention) : PaneDelta where
  paneId := paneId
  latestEventSeq := some pane.latestEventSeq
  readThroughSeq := some pane.readThroughSeq
  firstUnreadAt := pane.unread.head?.map UnreadEvent.occurredAt
  severity := maxSeverity pane.unread
  removed := none

def NotifAttention.delta (notifId : String) (notif : NotifAttention) : NotifDelta :=
  ⟨notifId, some notif.read, none⟩

/-- How the entries of one of the two maps are reported. -/
structure Reports (Entry Delta : Type) where
  id : Delta → String
  delta : String → Entry → Delta
  removed : String → Delta

def paneReports : Reports PaneAttention PaneDelta :=
  ⟨PaneDelta.paneId, PaneAttention.delta, PaneDelta.removal⟩

def notifReports : Reports NotifAttention NotifDelta :=
  ⟨NotifDelta.notifId, NotifAttention.delta, NotifDelta.removal⟩

section

variable {Entry Delta : Type} (reports : Reports Entry Delta)

/-- Report the current entries of the identities listed, which have to be there. -/
def reportCurrent (entries : KeyMap String Entry) (ids : List String) (deltas : List Delta) :
    Option (List Delta) :=
  ids.foldlM (fun deltas id =>
    (entries.lookup id).map fun entry => ChangeLog.upsert reports.id (reports.delta id entry) deltas)
    deltas

def reportRemoved (ids : List String) (deltas : List Delta) : List Delta :=
  ids.foldl (fun deltas id => ChangeLog.upsert reports.id (reports.removed id) deltas) deltas

/-! ### Expiry -/

/-- Expire the entries of one map and report those that changed and those that ended. `expire` says
what becomes of an entry, and whether that is a change. -/
def expireEntries (expire : Entry → Entry × Bool) (collect : Entry → Bool)
    (entries : KeyMap String Entry) : Option (KeyMap String Entry × List Delta) := do
  let changed := KeyMap.keysWhere (fun _ entry => (expire entry).2) entries
  let entries := KeyMap.mapValues (fun _ entry => (expire entry).1) entries
  let removed := KeyMap.keysWhere (fun _ entry => collect entry) entries
  let entries := KeyMap.retain (fun _ entry => !collect entry) entries
  let deltas ← reportCurrent reports entries (changed.filter (· ∈ entries.keys)) []
  return (entries, reportRemoved reports removed deltas)

end

/-- Drop the expired events at the front. A pane that has become read is read through its latest
event. -/
def PaneAttention.expire (nowMs : Nat) (pane : PaneAttention) : PaneAttention × Bool :=
  let unread := pane.unread.dropWhile fun event => isExpired event.occurredAt unreadTtl nowMs
  if pane.unread ≠ [] ∧ unread = [] then
    ({ pane with unread, readThroughSeq := pane.latestEventSeq, readAt := some nowMs }, true)
  else if unread.length < pane.unread.length then ({ pane with unread }, true)
  else ({ pane with unread }, false)

def PaneAttention.collect (nowMs : Nat) (pane : PaneAttention) : Bool :=
  pane.unread.isEmpty && pane.readAt.any fun readAt => isExpired readAt unreadTtl nowMs

def NotifAttention.expire (nowMs : Nat) (notif : NotifAttention) : NotifAttention × Bool :=
  if !notif.read && isExpired notif.occurredAt unreadTtl nowMs then
    ({ notif with read := true, readAt := some nowMs }, true)
  else (notif, false)

def NotifAttention.collect (nowMs : Nat) (notif : NotifAttention) : Bool :=
  notif.read && notif.readAt.any fun readAt => isExpired readAt unreadTtl nowMs

def DedupEntry.live (nowMs : Nat) (entry : DedupEntry) : Bool :=
  match entry.state with
  | .inFlight reservedAt _ => !isExpired reservedAt reservationTimeout nowMs
  | .done doneAt _ => !isExpired doneAt dedupTtl nowMs

/-- A ledger on its way through an operation, with the deltas reported so far. -/
structure Pending where
  ledger : AttentionLedger
  paneDeltas : List PaneDelta
  notifDeltas : List NotifDelta

namespace AttentionLedger

def sweepDedup (ledger : AttentionLedger) (nowMs : Nat) : AttentionLedger :=
  { ledger with dedup := KeyMap.retain (fun _ entry => entry.live nowMs) ledger.dedup }

def expireInto (ledger : AttentionLedger) (nowMs : Nat) : Option Pending := do
  let ledger := ledger.sweepDedup nowMs
  let (panes, paneDeltas) ←
    expireEntries paneReports (PaneAttention.expire nowMs) (PaneAttention.collect nowMs)
      ledger.panes
  let (notifs, notifDeltas) ←
    expireEntries notifReports (NotifAttention.expire nowMs) (NotifAttention.collect nowMs)
      ledger.notifs
  return ⟨{ ledger with panes, notifs }, paneDeltas, notifDeltas⟩

end AttentionLedger

/-! ### Eviction -/

/-- The order in which victims are chosen: by age, then by sequence number, then by identity. -/
def victimLess (left right : Nat × Nat × String) : Bool :=
  left.1 < right.1 ∨ left.1 = right.1 ∧
    (left.2.1 < right.2.1 ∨ left.2.1 = right.2.1 ∧ left.2.2 < right.2.2)

def minBy {Item : Type} (less : Item → Item → Bool) : List Item → Option Item
  | [] => none
  | first :: rest => some (rest.foldl (fun best item => if less item best then item else best) first)

/-- The identity of the least candidate. It fails when a candidate has no rank. -/
def leastId {Entry : Type} (rank : Entry → Option (Nat × Nat))
    (candidates : List ((_ : String) × Entry)) : Option String := do
  let ranked ← candidates.mapM fun entry =>
    (rank entry.2).map fun ranks => (ranks.1, ranks.2, entry.1)
  (minBy victimLess ranked).map fun least => least.2.2

/-- The next identity to evict: the fully-read one that was read first, or else the one with the
oldest unread event. -/
def victim {Entry : Type} (retired : Entry → Bool) (retiredRank liveRank : Entry → Option (Nat × Nat))
    (entries : KeyMap String Entry) : Option String :=
  if entries.entries.any fun entry => retired entry.2 then
    leastId retiredRank (entries.entries.filter fun entry => retired entry.2)
  else leastId liveRank entries.entries

def paneVictim : KeyMap String PaneAttention → Option String :=
  victim (fun pane => pane.unread.isEmpty)
    (fun pane => some (pane.readAt.getD 0, pane.latestEventSeq))
    (fun pane => pane.unread.head?.map fun head => (head.occurredAt, head.seq))

def notifVictim : KeyMap String NotifAttention → Option String :=
  victim NotifAttention.read (fun notif => some (notif.readAt.getD 0, notif.eventSeq))
    (fun notif => some (notif.occurredAt, notif.eventSeq))

/-- Evict victims until the map is within the cap, reporting each. -/
def enforceCap {Entry Delta : Type} (reports : Reports Entry Delta)
    (victim : KeyMap String Entry → Option String) :
    Nat → KeyMap String Entry → List Delta → Option (KeyMap String Entry × List Delta)
  | 0, entries, deltas => if KeyMap.size entries > identityCap then none else some (entries, deltas)
  | fuel + 1, entries, deltas =>
      if KeyMap.size entries > identityCap then do
        let id ← victim entries
        enforceCap reports victim fuel (entries.erase id)
          (ChangeLog.upsert reports.id (reports.removed id) deltas)
      else some (entries, deltas)

def Pending.enforceIdentityCaps (pending : Pending) : Option Pending := do
  let ledger := pending.ledger
  let (panes, paneDeltas) ←
    enforceCap paneReports paneVictim (KeyMap.size ledger.panes) ledger.panes pending.paneDeltas
  let (notifs, notifDeltas) ←
    enforceCap notifReports notifVictim (KeyMap.size ledger.notifs) ledger.notifs
      pending.notifDeltas
  return ⟨{ ledger with panes, notifs }, paneDeltas, notifDeltas⟩

/-! ### Counters and deltas -/

/-- The next value of a counter, which fails at the largest. -/
def checkedSucc (counter : Nat) : Option Nat :=
  if counter < counterMax then some (counter + 1) else none

/-- Give the pending changes the next revision. -/
def Pending.bump (pending : Pending) : Option (AttentionLedger × StateDelta) := do
  let revision ← checkedSucc pending.ledger.revision
  return ({ pending.ledger with revision },
    ⟨pending.ledger.epoch, revision, pending.paneDeltas, pending.notifDeltas⟩)

/-- Give the pending changes the next revision if there are any. -/
def Pending.finishDelta (pending : Pending) : Option (AttentionLedger × Option StateDelta) :=
  if pending.paneDeltas = [] ∧ pending.notifDeltas = [] then some (pending.ledger, none)
  else pending.bump.map fun (ledger, delta) => (ledger, some delta)

/-! ### Reading -/

/-- Read a pane through a sequence number that is not above its latest. -/
def PaneAttention.markRead (throughSeq nowMs : Nat) (pane : PaneAttention) : PaneAttention × Bool :=
  let readThroughSeq := max pane.readThroughSeq throughSeq
  let unread := pane.unread.dropWhile fun event => event.seq ≤ readThroughSeq
  if pane.unread ≠ [] ∧ unread = [] then
    ({ pane with unread, readThroughSeq := pane.latestEventSeq, readAt := some nowMs }, true)
  else ({ pane with unread, readThroughSeq }, readThroughSeq ≠ pane.readThroughSeq)

def NotifAttention.markRead (nowMs : Nat) (notif : NotifAttention) : NotifAttention × Bool :=
  if !notif.read then ({ notif with read := true, readAt := some nowMs }, true) else (notif, false)

/-- Progress through the targets of a request. -/
structure Marking (Entry : Type) where
  entries : KeyMap String Entry
  acceptedAny : Bool
  changed : List String
  results : List TargetResult

/-- Mark one target. `mark` fails when the request is invalid for the entry. -/
def Marking.mark {Entry : Type} (target : String → AttentionTarget)
    (mark : Entry → Option (Entry × Bool)) (marking : Marking Entry) (id : String) :
    Marking Entry :=
  let result (status : TargetStatus) := marking.results ++ [⟨target id, status⟩]
  match marking.entries.lookup id with
  | none => { marking with results := result .notFound }
  | some entry =>
      match mark entry with
      | none => { marking with results := result .invalid }
      | some (entry, changed) =>
          { entries := marking.entries.insert id entry
            acceptedAny := true
            changed := if changed then pushUnique marking.changed id else marking.changed
            results := result .applied }

def markPane (nowMs : Nat) (marking : Marking PaneAttention) (request : String × Nat) :
    Marking PaneAttention :=
  marking.mark .pane
    (fun pane => if request.2 > pane.latestEventSeq then none
      else some (pane.markRead request.2 nowMs)) request.1

def markNotif (nowMs : Nat) (marking : Marking NotifAttention) (notifId : String) :
    Marking NotifAttention :=
  marking.mark .notif (fun notif => some (notif.markRead nowMs)) notifId

/-- Add an unread event, and drop the oldest ones over the cap. -/
def PaneAttention.push (pane : PaneAttention) (event : UnreadEvent) : PaneAttention :=
  let unread := pane.unread ++ [event]
  { pane with
    latestEventSeq := event.seq
    unread := unread.drop (unread.length - unreadCap)
    readAt := none }

/-! ### Operations -/

namespace AttentionLedger

def withEpoch (epoch : String) : AttentionLedger := ⟨epoch, 1, 1, 0, ∅, ∅, ∅⟩

variable (ledger : AttentionLedger)

def recordPaneEvent (paneId : String) (occurredAt : Nat)
    (severity : Severity) (nowMs : Nat) : Option (AttentionLedger × Nat × StateDelta) := do
  let ⟨ledger, paneDeltas, notifDeltas⟩ ← ledger.expireInto nowMs
  let eventSeq := ledger.nextEventSeq
  let nextEventSeq ← checkedSucc eventSeq
  let pane := ((ledger.panes.lookup paneId).getD ⟨0, 0, [], none⟩).push
    ⟨eventSeq, occurredAt, severity⟩
  let ledger := { ledger with nextEventSeq, panes := ledger.panes.insert paneId pane }
  let paneDeltas := ChangeLog.upsert PaneDelta.paneId (pane.delta paneId) paneDeltas
  let pending ← Pending.enforceIdentityCaps ⟨ledger, paneDeltas, notifDeltas⟩
  let (ledger, delta) ← pending.bump
  return (ledger, eventSeq, delta)

def recordNotifEvent (notifId : String) (occurredAt : Nat)
    (severity : Severity) (nowMs : Nat) : Option (AttentionLedger × Nat × StateDelta) := do
  let ⟨ledger, paneDeltas, notifDeltas⟩ ← ledger.expireInto nowMs
  let eventSeq := ledger.nextEventSeq
  let nextEventSeq ← checkedSucc eventSeq
  let notif : NotifAttention := ⟨eventSeq, occurredAt, severity, false, none⟩
  let ledger := { ledger with nextEventSeq, notifs := ledger.notifs.insert notifId notif }
  let notifDeltas := ChangeLog.upsert NotifDelta.notifId (notif.delta notifId) notifDeltas
  let pending ← Pending.enforceIdentityCaps ⟨ledger, paneDeltas, notifDeltas⟩
  let (ledger, delta) ← pending.bump
  return (ledger, eventSeq, delta)

def markRead (epoch : String) (panes : List (String × Nat)) (notifs : List String) (nowMs : Nat) :
    Option (AttentionLedger × Option StateDelta × List TargetResult × Option Nat) := do
  let ⟨ledger, paneDeltas, notifDeltas⟩ ← ledger.expireInto nowMs
  if epoch ≠ ledger.epoch then
    let results := panes.map (fun request => ⟨.pane request.1, .staleEpoch⟩) ++
      notifs.map (fun notifId => ⟨.notif notifId, .staleEpoch⟩)
    let pending ← Pending.enforceIdentityCaps ⟨ledger, paneDeltas, notifDeltas⟩
    let (ledger, delta) ← pending.finishDelta
    return (ledger, delta, results, none)
  else
    let markedPanes := panes.foldl (markPane nowMs) ⟨ledger.panes, false, [], []⟩
    let markedNotifs := notifs.foldl (markNotif nowMs) ⟨ledger.notifs, false, [], []⟩
    let ledger := { ledger with panes := markedPanes.entries, notifs := markedNotifs.entries }
    let paneDeltas ← reportCurrent paneReports ledger.panes markedPanes.changed paneDeltas
    let notifDeltas ← reportCurrent notifReports ledger.notifs markedNotifs.changed notifDeltas
    let pending ← Pending.enforceIdentityCaps ⟨ledger, paneDeltas, notifDeltas⟩
    let (ledger, delta) ← pending.finishDelta
    let acceptedAny := markedPanes.acceptedAny || markedNotifs.acceptedAny
    return (ledger, delta, markedPanes.results ++ markedNotifs.results,
      if acceptedAny then some ledger.revision else none)

def paneClosed (paneId : String) (nowMs : Nat) : Option (AttentionLedger × Option StateDelta) := do
  let ⟨ledger, paneDeltas, notifDeltas⟩ ← ledger.expireInto nowMs
  let paneDeltas :=
    if (ledger.panes.lookup paneId).isSome then
      ChangeLog.upsert PaneDelta.paneId (PaneDelta.removal paneId) paneDeltas
    else paneDeltas
  let ledger := { ledger with panes := ledger.panes.erase paneId }
  let pending ← Pending.enforceIdentityCaps ⟨ledger, paneDeltas, notifDeltas⟩
  pending.finishDelta

def sweep (nowMs : Nat) : Option (AttentionLedger × Option StateDelta) := do
  let pending ← ledger.expireInto nowMs
  let pending ← pending.enforceIdentityCaps
  pending.finishDelta

/-- Grant a reservation of a key, under a new generation. -/
def grant (key : String × String) (payloadHash nowMs : Nat) :
    Option (AttentionLedger × ReserveResult) := do
  let generation := ledger.nextDedupGeneration
  let nextDedupGeneration ← checkedSucc generation
  return ({ ledger with
      nextDedupGeneration
      dedup := ledger.dedup.insert key ⟨payloadHash, .inFlight nowMs generation⟩ },
    .reserved generation)

/-- Reserve a deduplication key, unless a live entry holds it. -/
def reserve (clientId requestId : String) (payloadHash nowMs : Nat) :
    Option (AttentionLedger × ReserveResult) :=
  let key := (clientId, requestId)
  match ledger.dedup.lookup key with
  | none => ledger.grant key payloadHash nowMs
  | some entry =>
      match entry.state with
      | .inFlight reservedAt _ =>
          if isExpired reservedAt reservationTimeout nowMs then ledger.grant key payloadHash nowMs
          else if entry.payloadHash ≠ payloadHash then some (ledger, .conflict)
          else some (ledger, .inFlight)
      | .done doneAt outcome =>
          if isExpired doneAt dedupTtl nowMs then ledger.grant key payloadHash nowMs
          else if entry.payloadHash ≠ payloadHash then some (ledger, .conflict)
          else some (ledger, .replay outcome)

/-- Complete a reservation, if it is still the one that was granted. -/
def complete (key : String × String) (generation : Nat)
    (outcome : DedupOutcome) (nowMs : Nat) : AttentionLedger × Bool :=
  match ledger.dedup.lookup key with
  | none => (ledger, false)
  | some entry =>
      match entry.state with
      | .inFlight _ activeGeneration =>
          if activeGeneration = generation then
            ({ ledger with
              dedup := ledger.dedup.insert key { entry with state := .done nowMs outcome } }, true)
          else (ledger, false)
      | .done _ _ => (ledger, false)

def snapshot : Snapshot where
  epoch := ledger.epoch
  revision := ledger.revision
  panes := (ledger.panes.entries.map fun entry => entry.2.delta entry.1).mergeSort
    fun left right => left.paneId ≤ right.paneId
  notifs := (ledger.notifs.entries.map fun entry => entry.2.delta entry.1).mergeSort
    fun left right => left.notifId ≤ right.notifId

end AttentionLedger

inductive LedgerCall where
  | recordPaneEvent (paneId : String) (occurredAt : Nat) (severity : Severity) (nowMs : Nat)
  | recordNotifEvent (notifId : String) (occurredAt : Nat) (severity : Severity) (nowMs : Nat)
  | markRead (epoch : String) (panes : List (String × Nat)) (notifs : List String) (nowMs : Nat)
  | paneClosed (paneId : String) (nowMs : Nat)
  | sweep (nowMs : Nat)
  | reserve (clientId requestId : String) (payloadHash nowMs : Nat)
  | complete (key : String × String) (generation : Nat) (outcome : DedupOutcome) (nowMs : Nat)

/-- The ledger after a call and the delta that the call returns. -/
def AttentionLedger.call (ledger : AttentionLedger) :
    LedgerCall → Option (AttentionLedger × Option StateDelta)
  | .recordPaneEvent paneId occurredAt severity nowMs =>
      (ledger.recordPaneEvent paneId occurredAt severity nowMs).map fun (next, _, delta) =>
        (next, some delta)
  | .recordNotifEvent notifId occurredAt severity nowMs =>
      (ledger.recordNotifEvent notifId occurredAt severity nowMs).map fun (next, _, delta) =>
        (next, some delta)
  | .markRead epoch panes notifs nowMs =>
      (ledger.markRead epoch panes notifs nowMs).map fun (next, delta, _) => (next, delta)
  | .paneClosed paneId nowMs => ledger.paneClosed paneId nowMs
  | .sweep nowMs => ledger.sweep nowMs
  | .reserve clientId requestId payloadHash nowMs =>
      (ledger.reserve clientId requestId payloadHash nowMs).map fun (next, _) => (next, none)
  | .complete key generation outcome nowMs =>
      some ((ledger.complete key generation outcome nowMs).1, none)

end Dinotty.Attention
