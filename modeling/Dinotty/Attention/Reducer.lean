/-
This file models the attention store of a client: the cache of pane and notification states, the
gates on epoch and revision, and what a delta or a snapshot does to the cache.
-/

import Dinotty.Attention.Ledger

namespace Dinotty.Attention

structure PaneAttentionState where
  latestEventSeq : Nat
  readThroughSeq : Nat
  firstUnreadAt : Option Nat
  severity : Option Severity
deriving DecidableEq

structure NotifAttentionState where
  read : Bool
deriving DecidableEq

/-- What a pane delta makes of the cached state of its pane. -/
def PaneDelta.apply (delta : PaneDelta) (cached : Option PaneAttentionState) :
    Option PaneAttentionState :=
  if delta.removed = some true then none
  else
    let previous := cached.getD ⟨0, 0, none, none⟩
    some
      { latestEventSeq := delta.latestEventSeq.getD previous.latestEventSeq
        readThroughSeq := delta.readThroughSeq.getD previous.readThroughSeq
        firstUnreadAt := delta.firstUnreadAt
        severity := delta.severity }

def NotifDelta.apply (delta : NotifDelta) (cached : Option NotifAttentionState) :
    Option NotifAttentionState :=
  if delta.removed = some true then none
  else some ⟨delta.read.getD (cached.getD ⟨false⟩).read⟩

/-- What a pane of a snapshot puts into the cleared cache. -/
def PaneDelta.install (delta : PaneDelta) (cached : Option PaneAttentionState) :
    Option PaneAttentionState :=
  if delta.removed = some true then cached
  else
    some ⟨delta.latestEventSeq.getD 0, delta.readThroughSeq.getD 0, delta.firstUnreadAt,
      delta.severity⟩

def NotifDelta.install (delta : NotifDelta) (cached : Option NotifAttentionState) :
    Option NotifAttentionState :=
  if delta.removed = some true then cached else some ⟨delta.read.getD false⟩

abbrev PaneCache := String → Option PaneAttentionState

abbrev NotifCache := String → Option NotifAttentionState

def applyPanes (cache : PaneCache) (deltas : List PaneDelta) : PaneCache :=
  ChangeLog.replay PaneDelta.paneId PaneDelta.apply cache deltas

def applyNotifs (cache : NotifCache) (deltas : List NotifDelta) : NotifCache :=
  ChangeLog.replay NotifDelta.notifId NotifDelta.apply cache deltas

def installPanes (deltas : List PaneDelta) : PaneCache :=
  ChangeLog.replay PaneDelta.paneId PaneDelta.install (fun _ => none) deltas

def installNotifs (deltas : List NotifDelta) : NotifCache :=
  ChangeLog.replay NotifDelta.notifId NotifDelta.install (fun _ => none) deltas

structure AttentionStore where
  epoch : Option String
  cacheRevision : Nat
  awaitingSnapshot : Bool
  panes : PaneCache
  notifs : NotifCache

namespace AttentionStore

def createAttentionStore : AttentionStore := ⟨none, 0, false, fun _ => none, fun _ => none⟩

/-- Apply a delta of the current epoch that is newer than the cache; one of another epoch makes the
store wait for a snapshot. -/
def applyDelta (store : AttentionStore) (delta : StateDelta) : AttentionStore :=
  if store.awaitingSnapshot then store
  else if store.epoch ≠ none ∧ store.epoch ≠ some delta.epoch then
    { store with awaitingSnapshot := true }
  else if delta.revision ≤ store.cacheRevision then store
  else
    { store with
      epoch := some (store.epoch.getD delta.epoch)
      cacheRevision := delta.revision
      panes := applyPanes store.panes delta.panes
      notifs := applyNotifs store.notifs delta.notifs }

/-- Replace the cache by a snapshot, unless it is older than the cache in the same epoch. -/
def applySnapshot (store : AttentionStore) (snapshot : Snapshot) : AttentionStore :=
  if store.epoch = some snapshot.epoch ∧ snapshot.revision < store.cacheRevision then store
  else
    { epoch := some snapshot.epoch
      cacheRevision := snapshot.revision
      awaitingSnapshot := false
      panes := installPanes snapshot.panes
      notifs := installNotifs snapshot.notifs }

end AttentionStore

end Dinotty.Attention
