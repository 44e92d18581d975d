/-
This file proves that the deltas a ledger returns refine its snapshots: a client that applies them
holds the projection of the ledger after every call.
-/

import Dinotty.Attention.Log
import Dinotty.Foundation.Fallible

namespace Dinotty.Attention

open ChangeLog List Option KeyMap Fallible PaneAttention

/-! ### Snapshots -/

/-- What a client holds: the revision and the two caches. -/
structure View where
  revision : Nat
  panes : PaneCache
  notifs : NotifCache

def Snapshot.view (snapshot : Snapshot) : View :=
  ⟨snapshot.revision, installPanes snapshot.panes, installNotifs snapshot.notifs⟩

/-- Apply a delta: upserts replace, removals delete, the revision is that of the delta. -/
def View.apply (view : View) (delta : StateDelta) : View :=
  ⟨delta.revision, applyPanes view.panes delta.panes, applyNotifs view.notifs delta.notifs⟩

section Sorted

variable {Entry Delta State : Type} (reports : Reports Entry Delta) (state : Entry → State)
  (render : String → State → Delta)
  (renders : ∀ id entry, reports.delta id entry = render id (state entry))
  (id_render : ∀ id entry, reports.id (render id entry) = id)

def byId (left right : Delta) : Bool := reports.id left ≤ reports.id right

theorem byId_trans (first second third : Delta) (one : byId reports first second = true)
    (two : byId reports second third = true) : byId reports first third = true :=
  decide_eq_true (String.le_trans (of_decide_eq_true one) (of_decide_eq_true two))

theorem byId_total (first second : Delta) :
    (byId reports first second || byId reports second first) = true := by
  rw [Bool.or_eq_true, byId, byId, decide_eq_true_eq, decide_eq_true_eq]
  exact String.le_total _ _

def sortedReports (entries : KeyMap String Entry) : List Delta :=
  (entries.entries.map fun entry => reports.delta entry.1 entry.2).mergeSort (byId reports)

include renders in
theorem mem_sortedReports {entries : KeyMap String Entry} {delta : Delta} :
    delta ∈ sortedReports reports entries ↔
      ∃ id entry, projection state entries id = some entry ∧ delta = render id entry := by
  rw [sortedReports, mem_mergeSort, List.mem_map]
  constructor
  · rintro ⟨⟨id, entry⟩, mem, rfl⟩
    exact ⟨id, state entry, projection_of_some (lookup_eq_some_iff.mpr mem), renders id entry⟩
  · rintro ⟨id, entry, held, rfl⟩
    obtain ⟨value, found, rfl⟩ := map_eq_some_iff.mp held
    exact ⟨⟨id, value⟩, lookup_eq_some_iff.mp found, renders id value⟩

include renders id_render in
theorem sortedReports_ids_nodup (entries : KeyMap String Entry) :
    ((sortedReports reports entries).map reports.id).Nodup := by
  have perm := (mergeSort_perm (entries.entries.map fun entry => reports.delta entry.1 entry.2)
    (byId reports)).map reports.id
  refine perm.nodup_iff.mpr ?_
  rw [List.map_map]
  refine (congrArg List.Nodup (map_congr_left fun entry _ => ?_)).mpr entries.nodupKeys
  show reports.id (reports.delta entry.1 entry.2) = entry.1
  rw [renders, id_render]

include renders id_render in
theorem replay_sortedReports {install : Delta → Option State → Option State}
    (installs : ∀ id entry prev, install (render id entry) prev = some entry)
    (entries : KeyMap String Entry) :
    replay reports.id install (fun _ => none) (sortedReports reports entries) =
      projection state entries := by
  have nodup := sortedReports_ids_nodup reports state render renders id_render entries
  funext id
  cases held : projection state entries id with
  | some entry =>
    have mem := (mem_sortedReports reports state render renders).mpr ⟨id, entry, held, rfl⟩
    have replayed : replay reports.id install (fun _ => none) (sortedReports reports entries)
        (reports.id (render id entry)) = install (render id entry) none :=
      replay_of_mem nodup mem
    rw [id_render] at replayed
    rw [replayed, installs]
  | none =>
    refine replay_of_not_mem fun listed => ?_
    obtain ⟨delta, mem, rfl⟩ := mem_map.mp listed
    obtain ⟨other, entry, found, rfl⟩ := (mem_sortedReports reports state render renders).mp mem
    rw [id_render, found] at held
    exact nomatch held

include renders id_render in
/-- Maps that look the same have the same sorted reports. -/
theorem sortedReports_congr {left right : KeyMap String Entry}
    (same : projection state left = projection state right) :
    sortedReports reports left = sortedReports reports right := by
  have nodup (entries : KeyMap String Entry) : (sortedReports reports entries).Nodup :=
    Nodup.of_map reports.id
      (sortedReports_ids_nodup reports state render renders id_render entries)
  have sorted (entries : KeyMap String Entry) :
      (sortedReports reports entries).Pairwise fun first second =>
        byId reports first second = true :=
    pairwise_mergeSort (byId_trans reports) (byId_total reports) _
  have perm : (sortedReports reports left).Perm (sortedReports reports right) := by
    refine (perm_ext_iff_of_nodup (nodup left) (nodup right)).mpr fun delta => ?_
    rw [mem_sortedReports reports state render renders,
      mem_sortedReports reports state render renders, same]
  refine perm.eq_of_pairwise (fun first second firstMember secondMember one two => ?_)
    (sorted left) (sorted right)
  obtain ⟨id, entry, held, rfl⟩ := (mem_sortedReports reports state render renders).mp firstMember
  obtain ⟨other, value, found, rfl⟩ :=
    (mem_sortedReports reports state render renders).mp secondMember
  rw [byId, id_render, id_render] at one two
  obtain rfl := String.le_antisymm (of_decide_eq_true one) (of_decide_eq_true two)
  rw [same, found] at held
  cases held
  rfl

end Sorted

def PaneAttentionState.delta (paneId : String) (state : PaneAttentionState) : PaneDelta :=
  ⟨paneId, some state.latestEventSeq, some state.readThroughSeq, state.firstUnreadAt,
    state.severity, none⟩

def NotifAttentionState.delta (notifId : String) (state : NotifAttentionState) : NotifDelta :=
  ⟨notifId, some state.read, none⟩

def AttentionLedger.view (ledger : AttentionLedger) : View :=
  ⟨ledger.revision, projection PaneAttention.state ledger.panes,
    projection NotifAttention.state ledger.notifs⟩

theorem AttentionLedger.snapshot_view (ledger : AttentionLedger) :
    ledger.snapshot.view = ledger.view := by
  have panes : installPanes ledger.snapshot.panes = projection state ledger.panes :=
    replay_sortedReports paneReports state PaneAttentionState.delta (fun _ _ => rfl)
      (fun _ _ => rfl) (fun _ _ _ => rfl) ledger.panes
  have notifs : installNotifs ledger.snapshot.notifs =
      projection NotifAttention.state ledger.notifs :=
    replay_sortedReports notifReports NotifAttention.state NotifAttentionState.delta
      (fun _ _ => rfl) (fun _ _ => rfl) (fun _ _ _ => rfl) ledger.notifs
  exact congrArg₂ (View.mk ledger.revision) panes notifs

theorem AttentionLedger.snapshot_congr {left right : AttentionLedger}
    (epoch : left.epoch = right.epoch) (view : left.view = right.view) :
    left.snapshot = right.snapshot := by
  obtain ⟨rev, panes, notifs⟩ := View.mk.inj view
  have panesEqual := sortedReports_congr paneReports state PaneAttentionState.delta
    (fun _ _ => rfl) (fun _ _ => rfl) panes
  have notifsEqual := sortedReports_congr notifReports NotifAttention.state
    NotifAttentionState.delta (fun _ _ => rfl) (fun _ _ => rfl) notifs
  exact Snapshot.mk.injEq .. ▸ ⟨epoch, rev, panesEqual, notifsEqual⟩

/-! ### One call -/

/-- Every pane is ordered, up to the next sequence number. -/
structure AttentionLedger.Ordered (ledger : AttentionLedger) : Prop where
  started : 0 < ledger.nextEventSeq
  panes : ∀ id pane, ledger.panes.lookup id = some pane →
    pane.Ordered ∧ pane.latestEventSeq < ledger.nextEventSeq

/-- A pending operation started from a ledger: its deltas track what it has done so far. -/
structure Pending.Follows (before : AttentionLedger) (pending : Pending) : Prop where
  epoch : pending.ledger.epoch = before.epoch
  revision : pending.ledger.revision = before.revision
  panes : Tracks PaneDelta.paneId PaneDelta.apply before.view.panes pending.ledger.view.panes
    pending.paneDeltas
  notifs : Tracks NotifDelta.notifId NotifDelta.apply before.view.notifs pending.ledger.view.notifs
    pending.notifDeltas
  ordered : pending.ledger.Ordered

/-- A call took a ledger to the next one and returned a delta, or none. -/
structure Advances (before next : AttentionLedger) (returned : Option StateDelta) : Prop where
  ordered : next.Ordered
  epoch : next.epoch = before.epoch
  delta : ∀ delta, returned = some delta → delta.epoch = before.epoch ∧
    delta.revision = before.revision + 1 ∧ next.view = before.view.apply delta
  silent : returned = none → next.view = before.view

variable {ledger next before : AttentionLedger} {pending after : Pending}

variable {nowMs : Nat}

theorem expireInto_follows (ordered : ledger.Ordered)
    (done : ledger.expireInto nowMs = some pending) : pending.Follows ledger := by
  obtain ⟨⟨panes, paneDeltas⟩, panesDone, later⟩ := bind_eq_some_iff.mp done
  obtain ⟨⟨notifs, notifDeltas⟩, notifsDone, equal⟩ := bind_eq_some_iff.mp later
  cases equal
  refine ⟨rfl, rfl, ?_, ?_, ordered.started, fun id pane held => ?_⟩
  · exact expireEntries_tracks paneReports_shows (expire_silent nowMs) panesDone
  · refine expireEntries_tracks notifReports_shows (fun notif quiet => ?_) notifsDone
    unfold NotifAttention.expire at quiet ⊢
    split at quiet
    · exact nomatch quiet
    next fresh =>
      rw [if_neg fresh]
  · obtain ⟨old, found, rfl⟩ := expireEntries_lookup panesDone held
    obtain ⟨oldOrdered, bound⟩ := ordered.panes id old found
    obtain ⟨newOrdered, latest⟩ := expire_ordered nowMs oldOrdered
    exact ⟨newOrdered, by rw [latest]; exact bound⟩

theorem enforceIdentityCaps_follows (follows : pending.Follows before)
    (done : pending.enforceIdentityCaps = some after) : after.Follows before := by
  obtain ⟨⟨panes, paneDeltas⟩, panesDone, later⟩ := bind_eq_some_iff.mp done
  obtain ⟨⟨notifs, notifDeltas⟩, notifsDone, equal⟩ := bind_eq_some_iff.mp later
  cases equal
  exact ⟨follows.epoch, follows.revision, enforceCap_tracks paneReports_shows follows.panes panesDone,
    enforceCap_tracks notifReports_shows follows.notifs notifsDone, follows.ordered.started,
    fun id pane held => follows.ordered.panes id pane (enforceCap_lookup panesDone held)⟩

theorem checkedSucc_eq_some {counter successor : Nat}
    (done : checkedSucc counter = some successor) : successor = counter + 1 := by
  unfold checkedSucc at done
  split at done
  · exact (some.inj done).symm
  · exact nomatch done

variable {delta : StateDelta}

theorem bump_advances (follows : pending.Follows before) (done : pending.bump = some (next, delta))
    : Advances before next (some delta) := by
  obtain ⟨revision, succ, equal⟩ := bind_eq_some_iff.mp done
  cases equal
  obtain rfl := checkedSucc_eq_some succ
  refine ⟨⟨follows.ordered.started, follows.ordered.panes⟩, follows.epoch, ?_, nofun⟩
  intro delta equal
  cases equal
  refine ⟨follows.epoch, by rw [follows.revision], ?_⟩
  exact congrArg₂ (View.mk _) follows.panes.replayed.symm follows.notifs.replayed.symm

variable {returned : Option StateDelta}

theorem finishDelta_advances (follows : pending.Follows before)
    (done : pending.finishDelta = some (next, returned)) : Advances before next returned := by
  unfold Pending.finishDelta at done
  split at done
  next empty =>
    cases done
    refine ⟨follows.ordered, follows.epoch, nofun, fun _ => ?_⟩
    have panes := follows.panes
    have notifs := follows.notifs
    rw [empty.1] at panes
    rw [empty.2] at notifs
    exact View.mk.injEq .. ▸ ⟨follows.revision, panes.unchanged, notifs.unchanged⟩
  · obtain ⟨⟨bumped, delta⟩, bumpDone, equal⟩ := map_eq_some_iff.mp done
    cases equal
    exact bump_advances follows bumpDone

theorem recordPaneEvent_advances (ordered : ledger.Ordered) {paneId : String}
    {occurredAt eventSeq : Nat} {severity : Severity}
    (done : ledger.recordPaneEvent paneId occurredAt severity nowMs =
      some (next, eventSeq, delta)) :
    Advances ledger next (some delta) := by
  obtain ⟨⟨expired, paneDeltas, notifDeltas⟩, expiry, done⟩ := bind_eq_some_iff.mp done
  obtain ⟨nextEventSeq, succ, done⟩ := bind_eq_some_iff.mp done
  obtain ⟨capped, caps, done⟩ := bind_eq_some_iff.mp done
  obtain ⟨⟨bumped, bumpDelta⟩, bump, equal⟩ := bind_eq_some_iff.mp done
  obtain ⟨rfl, rest⟩ := Prod.mk.inj (some.inj equal)
  cases rest
  have follows := expireInto_follows ordered expiry
  obtain rfl := checkedSucc_eq_some succ
  refine bump_advances (enforceIdentityCaps_follows ?_ caps) bump
  refine ⟨follows.epoch, follows.revision, ?_, follows.notifs, Nat.succ_pos _,
    fun id pane held => ?_⟩
  · refine follows.panes.write (fun prev => ?_) fun other ne => ?_
    · exact (paneReports_shows.apply_delta _ _ prev).trans
        (projection_of_some ((lookup_insert ..).trans (if_pos rfl))).symm
    · exact congrArg (Option.map _) ((lookup_insert ..).trans (if_neg ne))
  · dsimp only at held
    rw [lookup_insert] at held
    have started := follows.ordered.started
    split at held
    · cases held
      have old : ((expired.panes.lookup paneId).getD ⟨0, 0, [], none⟩).Ordered ∧
          ((expired.panes.lookup paneId).getD ⟨0, 0, [], none⟩).latestEventSeq <
            expired.nextEventSeq := by
        cases found : expired.panes.lookup paneId with
        | none =>
          exact ⟨⟨Pairwise.nil, nofun, nofun, Nat.le_refl _⟩, started⟩
        | some pane => exact follows.ordered.panes paneId pane found
      exact ⟨push_ordered old.1 old.2, Nat.lt_succ_self _⟩
    · obtain ⟨paneOrdered, bound⟩ := follows.ordered.panes id pane held
      exact ⟨paneOrdered, Nat.lt_succ_of_lt bound⟩

theorem recordNotifEvent_advances (ordered : ledger.Ordered) {notifId : String}
    {occurredAt eventSeq : Nat} {severity : Severity}
    (done : ledger.recordNotifEvent notifId occurredAt severity nowMs =
      some (next, eventSeq, delta)) : Advances ledger next (some delta) := by
  obtain ⟨⟨expired, paneDeltas, notifDeltas⟩, expiry, done⟩ := bind_eq_some_iff.mp done
  obtain ⟨nextEventSeq, succ, done⟩ := bind_eq_some_iff.mp done
  obtain ⟨capped, caps, done⟩ := bind_eq_some_iff.mp done
  obtain ⟨⟨bumped, bumpDelta⟩, bump, equal⟩ := bind_eq_some_iff.mp done
  obtain ⟨rfl, rest⟩ := Prod.mk.inj (some.inj equal)
  cases rest
  have follows := expireInto_follows ordered expiry
  obtain rfl := checkedSucc_eq_some succ
  refine bump_advances (enforceIdentityCaps_follows ?_ caps) bump
  refine ⟨follows.epoch, follows.revision, follows.panes, ?_, Nat.succ_pos _,
    fun id pane held => ?_⟩
  · refine follows.notifs.write (fun prev => ?_) fun other ne => ?_
    · exact (notifReports_shows.apply_delta _ _ prev).trans
        (projection_of_some ((lookup_insert ..).trans (if_pos rfl))).symm
    · exact congrArg (Option.map _) ((lookup_insert ..).trans (if_neg ne))
  · obtain ⟨paneOrdered, bound⟩ := follows.ordered.panes id pane held
    exact ⟨paneOrdered, Nat.lt_succ_of_lt bound⟩

/-- The panes of a ledger while the targets of a request are marked. -/
structure MarkedPanes (start : AttentionLedger) (marking : Marking PaneAttention) : Prop where
  quiet : marking.Quiet PaneAttention.state start.panes
  ordered : ∀ id pane, marking.entries.lookup id = some pane →
    pane.Ordered ∧ pane.latestEventSeq < start.nextEventSeq

theorem MarkedPanes.mark {start : AttentionLedger} {marking : Marking PaneAttention}
    (marked : MarkedPanes start marking) (nowMs : Nat) (req : String × Nat) :
    MarkedPanes start (markPane nowMs marking req) := by
  constructor
  · refine marked.quiet.mark fun pane next held equal => ?_
    split at equal
    · exact nomatch equal
    · have same := some.inj equal
      have silent := markRead_silent req.2 nowMs (marked.ordered _ pane held).1
      rw [same] at silent
      exact silent rfl
  · intro id pane held
    unfold markPane Marking.mark at held
    dsimp only at held
    split at held
    · exact marked.ordered id pane held
    next old found =>
      split at held
      · exact marked.ordered id pane held
      next new changed equal =>
        dsimp only at held
        rw [lookup_insert] at held
        split at held
        · split at equal
          · exact nomatch equal
          next valid =>
            cases held
            obtain ⟨oldOrdered, bound⟩ := marked.ordered _ old found
            obtain ⟨newOrdered, latest⟩ := markRead_ordered nowMs oldOrdered
              (Nat.le_of_not_lt valid)
            rw [some.inj equal] at newOrdered latest
            exact ⟨newOrdered, by rw [latest]; exact bound⟩
        · exact marked.ordered id pane held

theorem markPanes_marked {start : AttentionLedger} (nowMs : Nat) (requests : List (String × Nat))
    {marking : Marking PaneAttention} (marked : MarkedPanes start marking) :
    MarkedPanes start (requests.foldl (markPane nowMs) marking) := by
  induction requests generalizing marking with
  | nil => exact marked
  | cons req rest ih => exact ih (marked.mark nowMs req)

theorem markNotifs_quiet {start : KeyMap String NotifAttention} (nowMs : Nat)
    (notifIds : List String) {marking : Marking NotifAttention}
    (quiet : marking.Quiet NotifAttention.state start) :
    (notifIds.foldl (markNotif nowMs) marking).Quiet NotifAttention.state start := by
  induction notifIds generalizing marking with
  | nil => exact quiet
  | cons id rest ih =>
    refine ih (quiet.mark fun notif next _ equal => ?_)
    unfold NotifAttention.markRead at equal
    split at equal
    · exact nomatch (Prod.mk.inj (some.inj equal)).2
    · obtain rfl := (Prod.mk.inj (some.inj equal)).1
      rfl

theorem quiet_start {Entry State : Type} (state : Entry → State) (start : KeyMap String Entry) :
    (⟨start, false, [], []⟩ : Marking Entry).Quiet state start :=
  ⟨fun _ _ => rfl, nofun⟩

section

variable (ordered : ledger.Ordered)
include ordered

theorem markRead_advances {epoch : String} {panes : List (String × Nat)} {notifs : List String}
    {results : List TargetResult} {appliedAt : Option Nat}
    (done : ledger.markRead epoch panes notifs nowMs = some (next, returned, results, appliedAt)) :
    Advances ledger next returned := by
  obtain ⟨⟨expired, paneDeltas, notifDeltas⟩, expiry, done⟩ := bind_eq_some_iff.mp done
  have follows := expireInto_follows ordered expiry
  dsimp only at done
  split at done
  · obtain ⟨capped, caps, done⟩ := bind_eq_some_iff.mp done
    obtain ⟨⟨finished, delta⟩, finish, equal⟩ := bind_eq_some_iff.mp done
    obtain ⟨rfl, rest⟩ := Prod.mk.inj (some.inj equal)
    cases rest
    exact finishDelta_advances (enforceIdentityCaps_follows follows caps) finish
  · obtain ⟨markedPaneDeltas, panesDone, done⟩ := bind_eq_some_iff.mp done
    obtain ⟨markedNotifDeltas, notifsDone, done⟩ := bind_eq_some_iff.mp done
    obtain ⟨capped, caps, done⟩ := bind_eq_some_iff.mp done
    obtain ⟨⟨finished, delta⟩, finish, equal⟩ := bind_eq_some_iff.mp done
    obtain ⟨rfl, rest⟩ := Prod.mk.inj (some.inj equal)
    cases rest
    refine finishDelta_advances (enforceIdentityCaps_follows ?_ caps) finish
    have start : MarkedPanes expired ⟨expired.panes, false, [], []⟩ :=
      ⟨quiet_start _ _, follows.ordered.panes⟩
    have markedPanes := markPanes_marked nowMs panes start
    have markedNotifs := markNotifs_quiet nowMs notifs (quiet_start _ expired.notifs)
    exact ⟨follows.epoch, follows.revision,
      markedPanes.quiet.tracks paneReports_shows follows.panes panesDone,
      markedNotifs.tracks notifReports_shows follows.notifs notifsDone,
      follows.ordered.started, markedPanes.ordered⟩

theorem paneClosed_advances {paneId : String}
    (done : ledger.paneClosed paneId nowMs = some (next, returned)) :
    Advances ledger next returned := by
  obtain ⟨⟨expired, paneDeltas, notifDeltas⟩, expiry, done⟩ := bind_eq_some_iff.mp done
  obtain ⟨capped, caps, finish⟩ := bind_eq_some_iff.mp done
  have follows := expireInto_follows ordered expiry
  refine finishDelta_advances (enforceIdentityCaps_follows ?_ caps) finish
  have erased (id : String) : (expired.panes.erase paneId).lookup id =
      if id = paneId then none else expired.panes.lookup id := lookup_erase ..
  refine ⟨follows.epoch, follows.revision, ?_, follows.notifs, follows.ordered.started,
    fun id pane held => ?_⟩
  · dsimp only
    split
    · refine follows.panes.write (fun _ => ?_) fun other ne => ?_
      · exact (congrArg (Option.map _) ((erased paneId).trans (if_pos rfl))).symm
      · exact congrArg (Option.map _) ((erased other).trans (if_neg ne))
    next absent =>
      have same : AttentionLedger.view { expired with panes := expired.panes.erase paneId } =
          expired.view := by
        refine congrArg (View.mk expired.revision · _) (funext fun id => ?_)
        rw [projection, projection, erased]
        split
        next here =>
          rw [here, not_isSome_iff_eq_none.mp absent]
        · rfl
      rw [same]
      exact follows.panes
  · dsimp only at held
    rw [erased] at held
    split at held
    · cases held
    · exact follows.ordered.panes id pane held

theorem sweep_advances (done : ledger.sweep nowMs = some (next, returned)) :
    Advances ledger next returned := by
  obtain ⟨expired, expiry, done⟩ := bind_eq_some_iff.mp done
  obtain ⟨capped, caps, finish⟩ := bind_eq_some_iff.mp done
  exact finishDelta_advances (enforceIdentityCaps_follows (expireInto_follows ordered expiry) caps)
    finish

theorem advances_dedup (epoch : next.epoch = ledger.epoch)
    (nextEventSeq : next.nextEventSeq = ledger.nextEventSeq)
    (revision : next.revision = ledger.revision) (panes : next.panes = ledger.panes)
    (notifs : next.notifs = ledger.notifs) : Advances ledger next none := by
  refine ⟨⟨?_, ?_⟩, epoch, nofun, fun _ => ?_⟩
  · rw [nextEventSeq]
    exact ordered.started
  · rw [nextEventSeq, panes]
    exact ordered.panes
  · rw [AttentionLedger.view, revision, panes, notifs]
    rfl

end

/-- A reservation changes the deduplication alone. -/
theorem reserve_eq {clientId requestId : String} {payloadHash : Nat} {res : ReserveResult}
    (done : ledger.reserve clientId requestId payloadHash nowMs = some (next, res)) :
    ∃ nextDedupGeneration dedup, next = { ledger with nextDedupGeneration, dedup } := by
  have granted {key : String × String}
      (grant : ledger.grant key payloadHash nowMs = some (next, res)) :
      ∃ nextDedupGeneration dedup, next = { ledger with nextDedupGeneration, dedup } := by
    obtain ⟨nextDedupGeneration, -, equal⟩ := bind_eq_some_iff.mp grant
    exact ⟨nextDedupGeneration, _, (Prod.mk.inj (some.inj equal)).1.symm⟩
  have keep (equal : ledger = next) :
      ∃ nextDedupGeneration dedup, next = { ledger with nextDedupGeneration, dedup } :=
    ⟨ledger.nextDedupGeneration, ledger.dedup, equal.symm⟩
  unfold AttentionLedger.reserve at done
  dsimp only at done
  split at done
  · exact granted done
  · split at done
    · split at done
      · exact granted done
      · split at done
        · exact keep (Prod.mk.inj (some.inj done)).1
        · exact keep (Prod.mk.inj (some.inj done)).1
    · split at done
      · exact granted done
      · split at done
        · exact keep (Prod.mk.inj (some.inj done)).1
        · exact keep (Prod.mk.inj (some.inj done)).1

theorem complete_eq (ledger : AttentionLedger) (key : String × String) (generation : Nat)
    (outcome : DedupOutcome)
    (nowMs : Nat) :
    ∃ dedup, (ledger.complete key generation outcome nowMs).1 = { ledger with dedup } := by
  unfold AttentionLedger.complete
  split
  · exact ⟨ledger.dedup, rfl⟩
  · split
    · split
      · exact ⟨_, rfl⟩
      · exact ⟨ledger.dedup, rfl⟩
    · exact ⟨ledger.dedup, rfl⟩

/-- Every call of an ordered ledger advances it by the delta that it returns. -/
theorem call_advances (ordered : ledger.Ordered) {call : LedgerCall}
    (done : ledger.call call = some (next, returned)) :
    Advances ledger next returned := by
  cases call with
  | recordPaneEvent paneId occurredAt severity nowMs =>
    obtain ⟨⟨recorded, eventSeq, delta⟩, recording, equal⟩ := map_eq_some_iff.mp done
    cases equal
    exact recordPaneEvent_advances ordered recording
  | recordNotifEvent notifId occurredAt severity nowMs =>
    obtain ⟨⟨recorded, eventSeq, delta⟩, recording, equal⟩ := map_eq_some_iff.mp done
    cases equal
    exact recordNotifEvent_advances ordered recording
  | markRead epoch panes notifs nowMs =>
    obtain ⟨⟨marked, delta, results, appliedAt⟩, marking, equal⟩ := map_eq_some_iff.mp done
    cases equal
    exact markRead_advances ordered marking
  | paneClosed paneId nowMs => exact paneClosed_advances ordered done
  | sweep nowMs => exact sweep_advances ordered done
  | reserve clientId requestId payloadHash nowMs =>
    obtain ⟨⟨reserved, res⟩, reserving, equal⟩ := map_eq_some_iff.mp done
    cases equal
    obtain ⟨nextDedupGeneration, dedup, rfl⟩ := reserve_eq reserving
    exact advances_dedup ordered rfl rfl rfl rfl rfl
  | complete key generation outcome nowMs =>
    cases done
    obtain ⟨dedup, equal⟩ := complete_eq ledger key generation outcome nowMs
    rw [equal]
    exact advances_dedup ordered rfl rfl rfl rfl rfl

/-! ### Totality -/

section Totality

variable {Entry Delta : Type} {reports : Reports Entry Delta}

variable {entries : KeyMap String Entry}

theorem reportCurrent_total (reports : Reports Entry Delta) {ids : List String}
    (held : ∀ id ∈ ids, (entries.lookup id).isSome) (deltas : List Delta) :
    ∃ next, reportCurrent reports entries ids deltas = some next := by
  induction ids generalizing deltas with
  | nil => exact ⟨deltas, rfl⟩
  | cons id rest ih =>
    obtain ⟨entry, found⟩ := isSome_iff_exists.mp (held id mem_cons_self)
    obtain ⟨next, done⟩ := ih
      (fun other mem => held other (mem_cons_of_mem _ mem))
      (upsert reports.id (reports.delta id entry) deltas)
    refine ⟨next, ?_⟩
    rw [reportCurrent, foldlM_cons, found]
    exact done

theorem expireEntries_total (reports : Reports Entry Delta) (expire : Entry → Entry × Bool)
    (collect : Entry → Bool)
    (entries : KeyMap String Entry) :
    ∃ result, expireEntries reports expire collect entries = some result := by
  let next := retain (fun _ entry => !collect entry)
    (mapValues (fun _ entry => (expire entry).1) entries)
  let changed := (keysWhere (fun _ entry => (expire entry).2) entries).filter (· ∈ next.keys)
  have held : ∀ id ∈ changed, (next.lookup id).isSome := fun id mem => by
    have listed : id ∈ next.keys := of_decide_eq_true (mem_filter.mp mem).2
    exact AList.lookup_isSome.mpr listed
  obtain ⟨deltas, done⟩ : ∃ deltas, reportCurrent reports next changed [] = some deltas :=
    reportCurrent_total reports held []
  unfold expireEntries
  dsimp only
  rw [done]
  exact ⟨_, rfl⟩

end Totality

theorem expireInto_total (ledger : AttentionLedger) (nowMs : Nat) :
    ∃ pending, ledger.expireInto nowMs = some pending ∧
      pending.ledger.nextEventSeq = ledger.nextEventSeq ∧
      pending.ledger.revision = ledger.revision := by
  obtain ⟨panes, panesDone⟩ := expireEntries_total paneReports (expire nowMs)
    (collect nowMs) (ledger.sweepDedup nowMs).panes
  obtain ⟨notifs, notifsDone⟩ := expireEntries_total notifReports (NotifAttention.expire nowMs)
    (NotifAttention.collect nowMs) (ledger.sweepDedup nowMs).notifs
  simp only [AttentionLedger.expireInto, panesDone, notifsDone, bind_eq_bind, bind_some]
  exact ⟨_, rfl, rfl, rfl⟩

theorem enforceIdentityCaps_total (pending : Pending) :
    ∃ after, pending.enforceIdentityCaps = some after ∧
      after.ledger.revision = pending.ledger.revision := by
  obtain ⟨panes, panesDone⟩ := enforceCap_total paneReports paneVictim_spec
    (Nat.le_refl (size pending.ledger.panes)) pending.paneDeltas
  obtain ⟨notifs, notifsDone⟩ := enforceCap_total notifReports notifVictim_spec
    (Nat.le_refl (size pending.ledger.notifs)) pending.notifDeltas
  simp only [Pending.enforceIdentityCaps, panesDone, notifsDone, bind_eq_bind, bind_some]
  exact ⟨_, rfl, rfl⟩

theorem checkedSucc_total {counter : Nat} (below : counter < counterMax) :
    checkedSucc counter = some (counter + 1) := if_pos below

theorem bump_total (below : pending.ledger.revision < counterMax) :
    ∃ result, pending.bump = some result := by
  unfold Pending.bump
  rw [checkedSucc_total below]
  exact ⟨_, rfl⟩

theorem finishDelta_total (below : pending.ledger.revision < counterMax) :
    ∃ result, pending.finishDelta = some result := by
  unfold Pending.finishDelta
  split
  · exact ⟨_, rfl⟩
  · obtain ⟨result, done⟩ := bump_total below
    rw [done]
    exact ⟨_, rfl⟩

theorem capsBump_total {Result : Type} (finish : AttentionLedger × StateDelta → Result)
    (below : pending.ledger.revision < counterMax) :
    ∃ result, (pending.enforceIdentityCaps.bind fun capped =>
      capped.bump.bind fun bumped => some (finish bumped)) = some result := by
  refine bind_total (enforceIdentityCaps_total pending) fun capped same => ?_
  rw [← same] at below
  obtain ⟨bumped, done⟩ := bump_total below
  rw [done]
  exact ⟨_, rfl⟩

theorem capsFinish_total {Result : Type} (finish : AttentionLedger × Option StateDelta → Result)
    (below : pending.ledger.revision < counterMax) :
    ∃ result, (pending.enforceIdentityCaps.bind fun capped =>
      capped.finishDelta.bind fun finished => some (finish finished)) = some result := by
  refine bind_total (enforceIdentityCaps_total pending) fun capped same => ?_
  rw [← same] at below
  obtain ⟨finished, done⟩ := finishDelta_total below
  rw [done]
  exact ⟨_, rfl⟩

theorem markRead_total (ordered : ledger.Ordered) (below : ledger.revision < counterMax)
    (epoch : String) (panes : List (String × Nat)) (notifs : List String) (nowMs : Nat) :
    ∃ result, ledger.markRead epoch panes notifs nowMs = some result := by
  obtain ⟨expired, expiry, -, revision⟩ := expireInto_total ledger nowMs
  have follows := expireInto_follows ordered expiry
  unfold AttentionLedger.markRead
  rw [expiry, bind_eq_bind, bind_some]
  dsimp only
  split
  · exact capsFinish_total _ (by rw [revision]; exact below)
  · have start : MarkedPanes expired.ledger ⟨expired.ledger.panes, false, [], []⟩ :=
      ⟨quiet_start _ _, follows.ordered.panes⟩
    have markedPanes := markPanes_marked nowMs panes start
    have markedNotifs := markNotifs_quiet nowMs notifs (quiet_start _ expired.ledger.notifs)
    obtain ⟨paneDeltas, panesDone⟩ :=
      reportCurrent_total paneReports markedPanes.quiet.listed expired.paneDeltas
    obtain ⟨notifDeltas, notifsDone⟩ :=
      reportCurrent_total notifReports markedNotifs.listed expired.notifDeltas
    rw [panesDone, bind_eq_bind, bind_some, notifsDone, bind_eq_bind, bind_some]
    exact capsFinish_total _ (by rw [← revision] at below; exact below)

theorem grant_total (below : ledger.nextDedupGeneration < counterMax) (key : String × String)
    (payloadHash nowMs : Nat) : ∃ result, ledger.grant key payloadHash nowMs = some result := by
  unfold AttentionLedger.grant
  dsimp only
  rw [checkedSucc_total below]
  exact ⟨_, rfl⟩

theorem reserve_total (below : ledger.nextDedupGeneration < counterMax)
    (clientId requestId : String) (payloadHash nowMs : Nat) :
    ∃ result, ledger.reserve clientId requestId payloadHash nowMs = some result := by
  unfold AttentionLedger.reserve
  dsimp only
  split
  · exact grant_total below _ _ _
  · split
    · split
      · exact grant_total below _ _ _
      · split
        · exact ⟨_, rfl⟩
        · exact ⟨_, rfl⟩
    · split
      · exact grant_total below _ _ _
      · split
        · exact ⟨_, rfl⟩
        · exact ⟨_, rfl⟩

/-- While no counter is exhausted every call succeeds. -/
theorem call_total (ordered : ledger.Ordered) (events : ledger.nextEventSeq < counterMax)
    (revisions : ledger.revision < counterMax) (generations : ledger.nextDedupGeneration < counterMax)
    (call : LedgerCall) : ∃ result, ledger.call call = some result := by
  have mapped {Result : Type} {answer : Option Result}
      {finish : Result → AttentionLedger × Option StateDelta}
      (total : ∃ result, answer = some result) : ∃ result, answer.map finish = some result := by
    obtain ⟨result, rfl⟩ := total
    exact ⟨_, rfl⟩
  cases call with
  | recordPaneEvent paneId occurredAt severity nowMs
    | recordNotifEvent notifId occurredAt severity nowMs =>
    refine mapped (bind_total (expireInto_total ledger nowMs) ?_)
    rintro expired ⟨nextEventSeq, revision⟩
    dsimp only
    rw [nextEventSeq, checkedSucc_total events]
    exact capsBump_total _ (by rw [← revision] at revisions; exact revisions)
  | markRead epoch panes notifs nowMs =>
    exact mapped (markRead_total ordered revisions epoch panes notifs nowMs)
  | paneClosed paneId nowMs =>
    refine bind_total (expireInto_total ledger nowMs) ?_
    rintro expired ⟨-, revision⟩
    refine bind_total (enforceIdentityCaps_total _) fun capped same => ?_
    exact finishDelta_total (by rw [same]; exact revision.symm ▸ revisions)
  | sweep nowMs =>
    refine bind_total (expireInto_total ledger nowMs) ?_
    rintro expired ⟨-, revision⟩
    refine bind_total (enforceIdentityCaps_total _) fun capped same => ?_
    exact finishDelta_total (by rw [same, revision]; exact revisions)
  | reserve clientId requestId payloadHash nowMs =>
    exact mapped (reserve_total generations clientId requestId payloadHash nowMs)
  | complete key generation outcome nowMs => exact ⟨_, rfl⟩

/-! ### Runs -/

def streamCall : AttentionLedger × List StateDelta → LedgerCall →
    Option (AttentionLedger × List StateDelta)
  | (ledger, stream), call =>
      (ledger.call call).map fun (next, returned) => (next, stream ++ returned.toList)

theorem streamCall_eq_some {stream : List StateDelta} {call : LedgerCall}
    {res : AttentionLedger × List StateDelta}
    (done : streamCall (ledger, stream) call = some res) :
    ∃ returned, ledger.call call = some (res.1, returned) ∧ res.2 = stream ++ returned.toList := by
  obtain ⟨⟨next, returned⟩, called, rfl⟩ := map_eq_some_iff.mp done
  exact ⟨returned, called, rfl⟩

theorem withEpoch_ordered (epoch : String) : (AttentionLedger.withEpoch epoch).Ordered :=
  ⟨Nat.one_pos, nofun⟩

/-- The deltas of a run lead from the view at its start to the view at its end, with consecutive
revisions. -/
theorem run_advances {calls : List LedgerCall} {final : AttentionLedger}
    {earlier stream : List StateDelta} (ordered : ledger.Ordered)
    (run : run streamCall (ledger, earlier) calls = some (final, stream)) :
    final.Ordered ∧ ∃ later, stream = earlier ++ later ∧
      final.view = later.foldl View.apply ledger.view ∧
      final.revision = ledger.revision + later.length ∧
      later.map StateDelta.revision = range' (ledger.revision + 1) later.length := by
  induction calls generalizing ledger earlier with
  | nil =>
    cases run
    exact ⟨ordered, [], (append_nil _).symm, rfl, rfl, rfl⟩
  | cons call rest ih =>
    obtain ⟨⟨next, stream⟩, done, later⟩ := bind_eq_some_iff.mp run
    obtain ⟨returned, called, rfl⟩ := streamCall_eq_some done
    have advances := call_advances ordered called
    obtain ⟨finalOrdered, tail, rfl, view, revision, revisions⟩ := ih advances.ordered later
    refine ⟨finalOrdered, returned.toList ++ tail, append_assoc .., ?_⟩
    cases returned with
    | none =>
      have same := advances.silent rfl
      have sameRevision : next.revision = ledger.revision := congrArg View.revision same
      rw [same] at view
      rw [sameRevision] at revision revisions
      exact ⟨view, revision, revisions⟩
    | some delta =>
      obtain ⟨-, deltaRevision, applied⟩ := advances.delta delta rfl
      have nextRevision : next.revision = ledger.revision + 1 :=
        (congrArg View.revision applied).trans deltaRevision
      rw [applied] at view
      rw [nextRevision] at revision revisions
      refine ⟨view, ?_, ?_⟩
      · show final.revision = ledger.revision + (tail.length + 1)
        omega
      · show delta.revision :: tail.map StateDelta.revision = _
        rw [revisions, deltaRevision]
        rfl

/-- At every ledger that calls lead to, a returned delta takes the view of the snapshot to that of
the next one and advances the revision by one, and without one the snapshot stays; the deltas of
every run lead from its first view to its last; and a call fails only when a counter is exhausted.
-/
theorem deltas_refine_snapshots {epoch : String} {before : List LedgerCall}
    {start : AttentionLedger} {earlier : List StateDelta}
    (reached : Fallible.run streamCall (.withEpoch epoch, []) before = some (start, earlier)) :
    (∀ call next delta, start.call call = some (next, some delta) →
      next.snapshot.view = start.snapshot.view.apply delta ∧
        next.snapshot.revision = start.snapshot.revision + 1 ∧
        delta.revision = next.snapshot.revision) ∧
    (∀ call next, start.call call = some (next, none) → next.snapshot = start.snapshot) ∧
    (∀ calls final stream, Fallible.run streamCall (start, []) calls = some (final, stream) →
      final.snapshot.view = stream.foldl View.apply start.snapshot.view ∧
        final.snapshot.revision = start.snapshot.revision + stream.length) ∧
    (start.nextEventSeq < counterMax → start.revision < counterMax →
      start.nextDedupGeneration < counterMax → ∀ call, (start.call call).isSome) := by
  obtain ⟨ordered, -⟩ := run_advances (withEpoch_ordered epoch) reached
  refine ⟨fun call next delta done => ?_, fun call next done => ?_, ?_, ?_⟩
  · obtain ⟨-, revision, applied⟩ := (call_advances ordered done).delta delta rfl
    have nextRevision : next.revision = delta.revision := congrArg View.revision applied
    rw [next.snapshot_view, start.snapshot_view]
    exact ⟨applied, nextRevision.trans revision, nextRevision.symm⟩
  · have advances := call_advances ordered done
    exact AttentionLedger.snapshot_congr advances.epoch (advances.silent rfl)
  · intro calls final stream run
    obtain ⟨-, later, rfl, view, revision, -⟩ := run_advances ordered run
    rw [final.snapshot_view, start.snapshot_view]
    exact ⟨view, revision⟩
  · intro events revisions generations call
    obtain ⟨result, done⟩ := call_total ordered events revisions generations call
    rw [done]
    rfl

/-- A ledger with one unread event on one pane. -/
def oneUnread : AttentionLedger where
  epoch := "e"
  nextEventSeq := 2
  nextDedupGeneration := 1
  revision := 1
  panes := AList.singleton "p" ⟨0, 1, [⟨1, 5, .warning⟩], none⟩
  notifs := ∅
  dedup := ∅

/-- Reading the one unread event returns the delta that leads to the next snapshot. -/
theorem deltas_refine_snapshots_oneUnread :
    ∃ next delta, oneUnread.call (.markRead "e" [("p", 1)] [] 9) = some (next, some delta) ∧
      next.snapshot.view = oneUnread.snapshot.view.apply delta := by
  have reached : Fallible.run streamCall (.withEpoch "e", [])
      [.recordPaneEvent "p" 5 .warning 5] = some (oneUnread, [_]) := rfl
  obtain ⟨steps, -⟩ := deltas_refine_snapshots reached
  have called : oneUnread.call (.markRead "e" [("p", 1)] [] 9) = some (_, some _) := rfl
  exact ⟨_, _, called, (steps _ _ _ called).1⟩

end Dinotty.Attention
