/-
This file proves the invariant of the attention ledger. Every call expires the ledger, changes it in
its own way, and evicts identities over the cap; each of the three keeps every watermark sound, and
none lowers one.
-/

import Dinotty.Attention.Refine

namespace Dinotty.Attention

open List Option KeyMap PaneAttention

/-! ### Watermarks -/

structure Watermark where
  readThroughSeq : Nat
  latestEventSeq : Nat
  unread : List Nat
  readAt : Option Nat
deriving DecidableEq

/-- The unread events ascend from the watermark to the latest event, which is below the next
sequence number, and the identity is read exactly when none is left. -/
structure Watermark.Sound (nextEventSeq : Nat) (watermark : Watermark) : Prop where
  ascending : watermark.unread.Pairwise fun left right => left < right
  above : ∀ seq ∈ watermark.unread, watermark.readThroughSeq < seq
  below : ∀ seq ∈ watermark.unread, seq ≤ watermark.latestEventSeq
  issued : watermark.latestEventSeq < nextEventSeq
  read : watermark.unread = [] ↔ watermark.readAt.isSome
  caughtUp : watermark.unread = [] → watermark.readThroughSeq = watermark.latestEventSeq
  capped : watermark.unread.length ≤ unreadCap

def PaneAttention.watermark (pane : PaneAttention) : Watermark :=
  ⟨pane.readThroughSeq, pane.latestEventSeq, pane.unread.map UnreadEvent.seq, pane.readAt⟩

/-- A notification is one event, which is read or is the only one unread. -/
def NotifAttention.watermark (notif : NotifAttention) : Watermark :=
  if notif.read then ⟨notif.eventSeq, notif.eventSeq, [], notif.readAt⟩
  else ⟨notif.eventSeq - 1, notif.eventSeq, [notif.eventSeq], notif.readAt⟩

structure AttentionLedger.Sound (ledger : AttentionLedger) : Prop where
  panes : ∀ id pane, ledger.panes.lookup id = some pane → pane.watermark.Sound ledger.nextEventSeq
  notifs : ∀ id notif, ledger.notifs.lookup id = some notif →
    notif.watermark.Sound ledger.nextEventSeq
  paneCount : KeyMap.size ledger.panes ≤ identityCap
  notifCount : KeyMap.size ledger.notifs ≤ identityCap

/-! ### Entries -/

/-- A pane is ordered, and is read exactly when it has no unread event. -/
structure PaneAttention.Settled (pane : PaneAttention) : Prop where
  ordered : pane.Ordered
  read : pane.unread = [] ↔ pane.readAt.isSome
  caughtUp : pane.unread = [] → pane.readThroughSeq = pane.latestEventSeq
  capped : pane.unread.length ≤ unreadCap

variable {pane : PaneAttention}

theorem PaneAttention.Settled.sound (settled : pane.Settled) {nextEventSeq : Nat}
    (issued : pane.latestEventSeq < nextEventSeq) :
    pane.watermark.Sound nextEventSeq := by
  have empty : pane.watermark.unread = [] ↔ pane.unread = [] := map_eq_nil_iff
  refine ⟨pairwise_map.mpr settled.ordered.ascending, fun seq mem => ?_,
    fun seq mem => ?_, issued, empty.trans settled.read,
    fun none => settled.caughtUp (empty.mp none), ?_⟩
  · obtain ⟨event, unread, rfl⟩ := mem_map.mp mem
    exact settled.ordered.above event unread
  · obtain ⟨event, unread, rfl⟩ := mem_map.mp mem
    exact settled.ordered.below event unread
  · show (pane.unread.map UnreadEvent.seq).length ≤ unreadCap
    rw [length_map]
    exact settled.capped

namespace PaneAttention

variable {pane : PaneAttention}

theorem expire_settled (nowMs : Nat) (settled : pane.Settled) : (pane.expire nowMs).1.Settled ∧
      pane.readThroughSeq ≤ (pane.expire nowMs).1.readThroughSeq := by
  have ordered := (expire_ordered nowMs settled.ordered).1
  have suffix := dropWhile_suffix
    (fun event : UnreadEvent => isExpired event.occurredAt unreadTtl nowMs) (l := pane.unread)
  have shorter := Nat.le_trans suffix.length_le settled.capped
  unfold expire at ordered ⊢
  dsimp only at ordered ⊢
  split at ordered
  next emptied =>
    rw [if_pos emptied]
    exact ⟨⟨ordered, iff_of_true emptied.2 rfl, fun _ => rfl, shorter⟩, settled.ordered.watermark⟩
  next notEmptied =>
    have stays (empty : (pane.unread.dropWhile fun event =>
        isExpired event.occurredAt unreadTtl nowMs) = []) : pane.unread = [] :=
      Decidable.byContradiction fun nonempty => notEmptied ⟨nonempty, empty⟩
    have kept : Settled { pane with
        unread := pane.unread.dropWhile
          (fun event => isExpired event.occurredAt unreadTtl nowMs) } := by
      refine ⟨?_, ⟨fun empty => settled.read.mp (stays empty), fun read => ?_⟩,
        fun empty => settled.caughtUp (stays empty), shorter⟩
      · split at ordered
        · exact ordered
        · exact ordered
      · have none := settled.read.mpr read
        exact suffix_nil.mp (none ▸ suffix)
    rw [if_neg notEmptied]
    split
    · exact ⟨kept, Nat.le_refl _⟩
    · exact ⟨kept, Nat.le_refl _⟩

theorem markRead_settled {throughSeq : Nat} (nowMs : Nat) (settled : pane.Settled)
    (valid : throughSeq ≤ pane.latestEventSeq) :
    (pane.markRead throughSeq nowMs).1.Settled ∧
      pane.readThroughSeq ≤ (pane.markRead throughSeq nowMs).1.readThroughSeq := by
  have ordered := (markRead_ordered nowMs settled.ordered valid).1
  have suffix := dropWhile_suffix
    (fun event : UnreadEvent => decide (event.seq ≤ max pane.readThroughSeq throughSeq))
    (l := pane.unread)
  have shorter := Nat.le_trans suffix.length_le settled.capped
  unfold markRead at ordered ⊢
  dsimp only at ordered ⊢
  split at ordered
  next emptied =>
    rw [if_pos emptied]
    exact ⟨⟨ordered, iff_of_true emptied.2 rfl, fun _ => rfl, shorter⟩, settled.ordered.watermark⟩
  next notEmptied =>
    rw [if_neg notEmptied]
    have stays (empty : (pane.unread.dropWhile fun event =>
        decide (event.seq ≤ max pane.readThroughSeq throughSeq)) = []) : pane.unread = [] :=
      Decidable.byContradiction fun nonempty => notEmptied ⟨nonempty, empty⟩
    refine ⟨⟨ordered, ⟨fun empty => settled.read.mp (stays empty), fun read => ?_⟩,
      fun empty => ?_, shorter⟩, Nat.le_max_left _ _⟩
    · have none := settled.read.mpr read
      exact suffix_nil.mp (none ▸ suffix)
    · have caughtUp := settled.caughtUp (stays empty)
      show max pane.readThroughSeq throughSeq = pane.latestEventSeq
      rw [caughtUp]
      exact Nat.max_eq_left valid

theorem push_settled (ordered : pane.Ordered) {event : UnreadEvent}
    (newer : pane.latestEventSeq < event.seq) : (pane.push event).Settled := by
  have length : (pane.push event).unread.length ≤ unreadCap := by
    show ((pane.unread ++ [event]).drop _).length ≤ unreadCap
    rw [length_drop]
    omega
  have nonempty : (pane.push event).unread ≠ [] := by
    intro empty
    have none : ((pane.unread ++ [event]).drop _).length = 0 := congrArg List.length empty
    rw [length_drop, length_append, length_singleton] at none
    have positive : 0 < unreadCap := Nat.zero_lt_succ _
    omega
  exact ⟨push_ordered ordered newer, iff_of_false nonempty Bool.false_ne_true,
    fun empty => absurd empty nonempty, length⟩

end PaneAttention

/-- A notification has an event, and is read exactly when it has been read at some time. -/
structure NotifAttention.Settled (notif : NotifAttention) : Prop where
  numbered : 0 < notif.eventSeq
  read : notif.read = true ↔ notif.readAt.isSome

variable {notif : NotifAttention}

theorem NotifAttention.Settled.sound (settled : notif.Settled) {nextEventSeq : Nat}
    (issued : notif.eventSeq < nextEventSeq) :
    notif.watermark.Sound nextEventSeq := by
  unfold watermark
  split
  next read =>
    exact ⟨Pairwise.nil, nofun, nofun,
      issued, iff_of_true rfl (settled.read.mp read), fun _ => rfl, Nat.zero_le _⟩
  next unread =>
    refine ⟨pairwise_singleton _ _, fun seq mem => ?_, fun seq mem => ?_, issued,
      iff_of_false (cons_ne_nil _ _) fun read => unread (settled.read.mpr read),
      fun empty => absurd empty (cons_ne_nil _ _), Nat.succ_le_succ (Nat.zero_le _)⟩
    · obtain rfl := mem_singleton.mp mem
      exact Nat.sub_lt settled.numbered Nat.one_pos
    · exact Nat.le_of_eq (mem_singleton.mp mem)

theorem NotifAttention.Settled.readAt (settled : notif.Settled) (nowMs : Nat) :
    Settled { notif with read := true, readAt := some nowMs } ∧
      notif.watermark.readThroughSeq ≤ notif.eventSeq := by
  refine ⟨⟨settled.numbered, iff_of_true rfl rfl⟩, ?_⟩
  unfold watermark
  split
  · exact Nat.le_refl _
  · exact Nat.sub_le _ _

/-! ### What a call does -/

def LedgerCall.expiresAt : LedgerCall → Option Nat
  | .recordPaneEvent _ _ _ nowMs => some nowMs
  | .recordNotifEvent _ _ _ nowMs => some nowMs
  | .markRead _ _ _ nowMs => some nowMs
  | .paneClosed _ nowMs => some nowMs
  | .sweep nowMs => some nowMs
  | .reserve .. => none
  | .complete .. => none

def AttentionLedger.marked (ledger : AttentionLedger) (panes : List (String × Nat))
    (notifs : List String) (nowMs : Nat) : AttentionLedger :=
  { ledger with
    panes := (panes.foldl (markPane nowMs) ⟨ledger.panes, false, [], []⟩).entries
    notifs := (notifs.foldl (markNotif nowMs) ⟨ledger.notifs, false, [], []⟩).entries }

/-- What a call makes of a ledger that it has expired, before it evicts identities. -/
def AttentionLedger.changed (expired : AttentionLedger) : LedgerCall → AttentionLedger
  | .recordPaneEvent paneId occurredAt severity _ =>
      { expired with
        nextEventSeq := expired.nextEventSeq + 1
        panes := expired.panes.insert paneId
          (((expired.panes.lookup paneId).getD ⟨0, 0, [], none⟩).push
            ⟨expired.nextEventSeq, occurredAt, severity⟩) }
  | .recordNotifEvent notifId occurredAt severity _ =>
      { expired with
        nextEventSeq := expired.nextEventSeq + 1
        notifs := expired.notifs.insert notifId
          ⟨expired.nextEventSeq, occurredAt, severity, false, none⟩ }
  | .markRead epoch panes notifs nowMs =>
      if epoch ≠ expired.epoch then expired else expired.marked panes notifs nowMs
  | .paneClosed paneId _ => { expired with panes := expired.panes.erase paneId }
  | _ => expired

/-- A call expired a ledger, changed it, evicted identities, and left a revision. -/
def Completes (ledger : AttentionLedger) (nowMs : Nat) (call : LedgerCall)
    (next : AttentionLedger) : Prop :=
  ∃ (expired pending capped : Pending) (revision : Nat), ledger.expireInto nowMs = some expired ∧
    pending.ledger = expired.ledger.changed call ∧ pending.enforceIdentityCaps = some capped ∧
    next = { capped.ledger with revision }

variable {ledger next : AttentionLedger} {pending : Pending}

variable {delta : StateDelta}

theorem bump_eq (done : pending.bump = some (next, delta)) :
    ∃ revision, next = { pending.ledger with revision } := by
  obtain ⟨revision, -, equal⟩ := bind_eq_some_iff.mp done
  exact ⟨revision, (Prod.mk.inj (some.inj equal)).1.symm⟩

variable {returned : Option StateDelta}

theorem finishDelta_eq (done : pending.finishDelta = some (next, returned)) :
    ∃ revision, next = { pending.ledger with revision } := by
  unfold Pending.finishDelta at done
  split at done
  · exact ⟨pending.ledger.revision, (Prod.mk.inj (some.inj done)).1.symm⟩
  · obtain ⟨⟨bumped, delta⟩, bumpDone, equal⟩ := map_eq_some_iff.mp done
    cases equal
    exact bump_eq bumpDone

variable {nowMs : Nat}

theorem recordPaneEvent_completes {paneId : String} {occurredAt eventSeq : Nat}
    {severity : Severity} (done : ledger.recordPaneEvent paneId occurredAt severity nowMs =
      some (next, eventSeq, delta)) :
    Completes ledger nowMs (.recordPaneEvent paneId occurredAt severity nowMs) next := by
  obtain ⟨expired, expiry, done⟩ := bind_eq_some_iff.mp done
  obtain ⟨nextEventSeq, succ, done⟩ := bind_eq_some_iff.mp done
  obtain ⟨capped, caps, done⟩ := bind_eq_some_iff.mp done
  obtain ⟨⟨bumped, bumpDelta⟩, bump, equal⟩ := bind_eq_some_iff.mp done
  obtain rfl := (Prod.mk.inj (some.inj equal)).1
  obtain rfl := checkedSucc_eq_some succ
  obtain ⟨revision, rfl⟩ := bump_eq bump
  exact ⟨expired, _, capped, revision, expiry, rfl, caps, rfl⟩

theorem recordNotifEvent_completes {notifId : String} {occurredAt eventSeq : Nat}
    {severity : Severity} (done : ledger.recordNotifEvent notifId occurredAt severity nowMs =
      some (next, eventSeq, delta)) :
    Completes ledger nowMs (.recordNotifEvent notifId occurredAt severity nowMs) next := by
  obtain ⟨expired, expiry, done⟩ := bind_eq_some_iff.mp done
  obtain ⟨nextEventSeq, succ, done⟩ := bind_eq_some_iff.mp done
  obtain ⟨capped, caps, done⟩ := bind_eq_some_iff.mp done
  obtain ⟨⟨bumped, bumpDelta⟩, bump, equal⟩ := bind_eq_some_iff.mp done
  obtain rfl := (Prod.mk.inj (some.inj equal)).1
  obtain rfl := checkedSucc_eq_some succ
  obtain ⟨revision, rfl⟩ := bump_eq bump
  exact ⟨expired, _, capped, revision, expiry, rfl, caps, rfl⟩

theorem markRead_completes {epoch : String} {panes : List (String × Nat)} {notifs : List String}
    {results : List TargetResult} {appliedAt : Option Nat}
    (done : ledger.markRead epoch panes notifs nowMs = some (next, returned, results, appliedAt)) :
    Completes ledger nowMs (.markRead epoch panes notifs nowMs) next := by
  obtain ⟨expired, expiry, done⟩ := bind_eq_some_iff.mp done
  dsimp only at done
  split at done
  next stale =>
    obtain ⟨capped, caps, done⟩ := bind_eq_some_iff.mp done
    obtain ⟨⟨finished, delta⟩, finish, equal⟩ := bind_eq_some_iff.mp done
    obtain rfl := (Prod.mk.inj (some.inj equal)).1
    obtain ⟨revision, rfl⟩ := finishDelta_eq finish
    exact ⟨expired, _, capped, revision, expiry, (if_pos stale).symm, caps, rfl⟩
  next current =>
    obtain ⟨paneDeltas, -, done⟩ := bind_eq_some_iff.mp done
    obtain ⟨notifDeltas, -, done⟩ := bind_eq_some_iff.mp done
    obtain ⟨capped, caps, done⟩ := bind_eq_some_iff.mp done
    obtain ⟨⟨finished, delta⟩, finish, equal⟩ := bind_eq_some_iff.mp done
    obtain rfl := (Prod.mk.inj (some.inj equal)).1
    obtain ⟨revision, rfl⟩ := finishDelta_eq finish
    exact ⟨expired, _, capped, revision, expiry, (if_neg current).symm, caps, rfl⟩

variable {call : LedgerCall}

/-- Every call that expires the ledger does so first, and evicts identities last. -/
theorem call_completes (done : ledger.call call = some (next, returned))
    (expires : call.expiresAt = some nowMs) :
    Completes ledger nowMs call next := by
  cases call with
  | recordPaneEvent paneId occurredAt severity time =>
    cases expires
    obtain ⟨⟨recorded, eventSeq, delta⟩, recording, equal⟩ := map_eq_some_iff.mp done
    cases equal
    exact recordPaneEvent_completes recording
  | recordNotifEvent notifId occurredAt severity time =>
    cases expires
    obtain ⟨⟨recorded, eventSeq, delta⟩, recording, equal⟩ := map_eq_some_iff.mp done
    cases equal
    exact recordNotifEvent_completes recording
  | markRead epoch panes notifs time =>
    cases expires
    obtain ⟨⟨marked, delta, results, appliedAt⟩, marking, equal⟩ := map_eq_some_iff.mp done
    cases equal
    exact markRead_completes marking
  | paneClosed paneId time =>
    cases expires
    obtain ⟨expired, expiry, done⟩ := bind_eq_some_iff.mp done
    obtain ⟨capped, caps, finish⟩ := bind_eq_some_iff.mp done
    obtain ⟨revision, rfl⟩ := finishDelta_eq finish
    exact ⟨expired, _, capped, revision, expiry, rfl, caps, rfl⟩
  | sweep time =>
    cases expires
    obtain ⟨expired, expiry, done⟩ := bind_eq_some_iff.mp done
    obtain ⟨capped, caps, finish⟩ := bind_eq_some_iff.mp done
    obtain ⟨revision, rfl⟩ := finishDelta_eq finish
    exact ⟨expired, expired, capped, revision, expiry, rfl, caps, rfl⟩
  | reserve | complete => exact nomatch expires

theorem call_dedup (done : ledger.call call = some (next, returned)) (never : call.expiresAt = none)
    :
    ∃ nextDedupGeneration dedup, next = { ledger with nextDedupGeneration, dedup } := by
  cases call with
  | reserve clientId requestId payloadHash nowMs =>
    obtain ⟨⟨reserved, result⟩, reserving, equal⟩ := map_eq_some_iff.mp done
    cases equal
    exact reserve_eq reserving
  | complete key generation outcome nowMs =>
    cases done
    obtain ⟨dedup, equal⟩ := complete_eq ledger key generation outcome nowMs
    exact ⟨ledger.nextDedupGeneration, dedup, equal⟩
  | recordPaneEvent | recordNotifEvent | markRead | paneClosed | sweep => exact nomatch never

/-! ### What the parts of a call do -/

variable {Entry Delta : Type}

variable {reports : Reports Entry Delta}

variable {expire : Entry → Entry × Bool}

theorem expireEntries_eq {collect : Entry → Bool} {entries after : KeyMap String Entry}
    {deltas : List Delta}
    (done : expireEntries reports expire collect entries = some (after, deltas)) (id : String) :
    after.lookup id =
      ((entries.lookup id).map fun entry => (expire entry).1).filter fun entry => !collect entry := by
  obtain ⟨current, -, equal⟩ := bind_eq_some_iff.mp done
  cases equal
  rw [lookup_retain, lookup_mapValues]

theorem expireInto_eq {expired : Pending} (done : ledger.expireInto nowMs = some expired) :
    (∃ panes notifs, expired.ledger = { ledger.sweepDedup nowMs with panes, notifs }) ∧
      (∀ id, expired.ledger.panes.lookup id =
        ((ledger.panes.lookup id).map fun pane => (pane.expire nowMs).1).filter
          fun pane => !pane.collect nowMs) ∧
      ∀ id, expired.ledger.notifs.lookup id =
        ((ledger.notifs.lookup id).map fun notif => (notif.expire nowMs).1).filter
          fun notif => !notif.collect nowMs := by
  obtain ⟨⟨panes, paneDeltas⟩, panesDone, later⟩ := bind_eq_some_iff.mp done
  obtain ⟨⟨notifs, notifDeltas⟩, notifsDone, equal⟩ := bind_eq_some_iff.mp later
  cases equal
  exact ⟨⟨panes, notifs, rfl⟩, expireEntries_eq panesDone, expireEntries_eq notifsDone⟩

theorem enforceCap_size {victim : KeyMap String Entry → Option String} {fuel : Nat}
    {entries after : KeyMap String Entry} {deltas final : List Delta}
    (done : enforceCap reports victim fuel entries deltas = some (after, final)) :
    size after ≤ identityCap :=
  (enforceCap_kept (fun _ _ => True) (fun _ _ _ _ _ _ => trivial) trivial done).2

theorem enforceIdentityCaps_eq {capped : Pending}
    (done : pending.enforceIdentityCaps = some capped) :
    (∃ panes notifs, capped.ledger = { pending.ledger with panes, notifs }) ∧
      (∀ id pane, capped.ledger.panes.lookup id = some pane →
        pending.ledger.panes.lookup id = some pane) ∧
      (∀ id notif, capped.ledger.notifs.lookup id = some notif →
        pending.ledger.notifs.lookup id = some notif) ∧
      size capped.ledger.panes ≤ identityCap ∧
      size capped.ledger.notifs ≤ identityCap := by
  obtain ⟨⟨panes, paneDeltas⟩, panesDone, later⟩ := bind_eq_some_iff.mp done
  obtain ⟨⟨notifs, notifDeltas⟩, notifsDone, equal⟩ := bind_eq_some_iff.mp later
  cases equal
  exact ⟨⟨panes, notifs, rfl⟩, fun _ _ held => enforceCap_lookup panesDone held,
    fun _ _ held => enforceCap_lookup notifsDone held, enforceCap_size panesDone,
    enforceCap_size notifsDone⟩

/-! ### What a request reads -/

theorem PaneAttention.markRead_latest (pane : PaneAttention) (throughSeq nowMs : Nat) :
    (pane.markRead throughSeq nowMs).1.latestEventSeq = pane.latestEventSeq := by
  unfold markRead
  dsimp only
  split
  · rfl
  · rfl

/-- The watermarks that the targets of a request have for a pane, and that it accepts. -/
def accepted (targets : List (String × Nat)) (paneId : String) (pane : PaneAttention) : List Nat :=
  (targets.filter fun target => target.1 = paneId ∧ target.2 ≤ pane.latestEventSeq).map Prod.snd

def PaneAttention.readAll (pane : PaneAttention) (nowMs : Nat) (watermarks : List Nat) :
    PaneAttention :=
  watermarks.foldl (fun pane watermark => (pane.markRead watermark nowMs).1) pane

section

variable (nowMs : Nat)

theorem markPane_lookup (marking : Marking PaneAttention) (target : String × Nat) (id : String) :
    (markPane nowMs marking target).entries.lookup id = (marking.entries.lookup id).map fun pane =>
        if target.1 = id ∧ target.2 ≤ pane.latestEventSeq then (pane.markRead target.2 nowMs).1
        else pane := by
  unfold markPane Marking.mark
  dsimp only
  have untouched (refused : ∀ pane, marking.entries.lookup id = some pane →
      ¬ (target.1 = id ∧ target.2 ≤ pane.latestEventSeq)) :
      marking.entries.lookup id = (marking.entries.lookup id).map fun pane =>
        if target.1 = id ∧ target.2 ≤ pane.latestEventSeq then (pane.markRead target.2 nowMs).1
        else pane := by
    cases found : marking.entries.lookup id with
    | none => rfl
    | some pane => rw [map_some, if_neg (refused pane found)]
  split
  next absent =>
    refine untouched fun pane found => ?_
    rintro ⟨rfl, -⟩
    rw [absent] at found
    exact nomatch found
  next pane held =>
    by_cases beyond : target.2 > pane.latestEventSeq
    · rw [if_pos beyond]
      refine untouched fun other found => ?_
      rintro ⟨rfl, within⟩
      rw [held] at found
      cases found
      exact Nat.not_lt_of_le within beyond
    · rw [if_neg beyond]
      dsimp only
      rw [lookup_insert]
      by_cases here : id = target.1
      · rw [if_pos here, here, held, map_some, if_pos ⟨rfl, Nat.le_of_not_lt beyond⟩]
      · rw [if_neg here]
        exact untouched fun _ _ both => here both.1.symm

theorem markPanes_lookup (targets : List (String × Nat))
    (marking : Marking PaneAttention) (id : String) :
    (targets.foldl (markPane nowMs) marking).entries.lookup id =
      (marking.entries.lookup id).map fun pane => pane.readAll nowMs (accepted targets id pane) := by
  induction targets generalizing marking with
  | nil =>
    show marking.entries.lookup id = _
    cases marking.entries.lookup id with
    | none | some => rfl
  | cons target rest ih =>
    rw [foldl_cons, ih, markPane_lookup, Option.map_map]
    refine congrArg (fun read => Option.map read _) (funext fun pane => ?_)
    rw [Function.comp_apply, accepted, accepted, filter_cons]
    by_cases taken : target.1 = id ∧ target.2 ≤ pane.latestEventSeq
    · rw [if_pos taken, if_pos (decide_eq_true taken), markRead_latest]
      rfl
    · rw [if_neg taken, if_neg (by rw [decide_eq_true_eq]; exact taken)]

theorem markNotif_lookup (marking : Marking NotifAttention) (target id : String) :
    (markNotif nowMs marking target).entries.lookup id =
      (marking.entries.lookup id).map fun notif =>
        if id = target then (notif.markRead nowMs).1 else notif := by
  unfold markNotif Marking.mark
  dsimp only
  split
  next absent =>
    by_cases here : id = target
    · rw [here, absent]
      rfl
    · simp [if_neg here]
  next notif held =>
    dsimp only
    rw [lookup_insert]
    by_cases here : id = target
    · rw [if_pos here, here, held, map_some, if_pos rfl]
    · simp [if_neg here]

theorem NotifAttention.markRead_markRead (notif : NotifAttention) (first second : Nat) :
    ((notif.markRead first).1.markRead second).1 = (notif.markRead first).1 := by
  cases read : notif.read with
  | true | false => simp [markRead, read]

theorem markNotifs_lookup (targets : List String) (marking : Marking NotifAttention) (id : String) :
    (targets.foldl (markNotif nowMs) marking).entries.lookup id =
      (marking.entries.lookup id).map fun notif =>
        if id ∈ targets then (notif.markRead nowMs).1 else notif := by
  induction targets generalizing marking with
  | nil =>
    show marking.entries.lookup id = _
    cases marking.entries.lookup id with
    | none | some => rfl
  | cons target rest ih =>
    rw [foldl_cons, ih, markNotif_lookup, Option.map_map]
    refine congrArg (fun read => Option.map read _) (funext fun notif => ?_)
    rw [Function.comp_apply]
    by_cases here : id = target
    · rw [if_pos here, if_pos (show id ∈ target :: rest from here ▸ mem_cons_self)]
      split
      · exact notif.markRead_markRead nowMs nowMs
      · rfl
    · rw [if_neg here]
      simp [here]

theorem accepted_le {targets : List (String × Nat)} {paneId : String} {watermark : Nat}
    (mem : watermark ∈ accepted targets paneId pane) :
    watermark ≤ pane.latestEventSeq := by
  obtain ⟨target, listed, rfl⟩ := mem_map.mp mem
  exact (of_decide_eq_true (mem_filter.mp listed).2).2

theorem PaneAttention.readAll_latest (pane : PaneAttention) (nowMs : Nat) (watermarks : List Nat) :
    (pane.readAll nowMs watermarks).latestEventSeq = pane.latestEventSeq := by
  induction watermarks generalizing pane with
  | nil => rfl
  | cons watermark rest ih =>
    exact (ih _).trans (pane.markRead_latest watermark nowMs)

theorem PaneAttention.readAll_settled (settled : pane.Settled) {watermarks : List Nat}
    (valid : ∀ watermark ∈ watermarks, watermark ≤ pane.latestEventSeq) :
    (pane.readAll nowMs watermarks).Settled ∧
      pane.readThroughSeq ≤ (pane.readAll nowMs watermarks).readThroughSeq := by
  induction watermarks generalizing pane with
  | nil => exact ⟨settled, Nat.le_refl _⟩
  | cons watermark rest ih =>
    obtain ⟨read, higher⟩ := markRead_settled nowMs settled (valid watermark mem_cons_self)
    obtain ⟨rest, highest⟩ := ih read fun other mem => by
      rw [pane.markRead_latest]
      exact valid other (mem_cons_of_mem _ mem)
    exact ⟨rest, Nat.le_trans higher highest⟩

theorem NotifAttention.markRead_settled (settled : notif.Settled) :
    (notif.markRead nowMs).1.Settled ∧ (notif.markRead nowMs).1.eventSeq = notif.eventSeq ∧
      notif.watermark.readThroughSeq ≤ (notif.markRead nowMs).1.watermark.readThroughSeq := by
  obtain ⟨read, higher⟩ := settled.readAt nowMs
  unfold markRead
  split
  · exact ⟨read, rfl, higher⟩
  · exact ⟨settled, rfl, Nat.le_refl _⟩

theorem NotifAttention.expire_settled (settled : notif.Settled) :
    (notif.expire nowMs).1.Settled ∧ (notif.expire nowMs).1.eventSeq = notif.eventSeq ∧
      notif.watermark.readThroughSeq ≤ (notif.expire nowMs).1.watermark.readThroughSeq := by
  obtain ⟨read, higher⟩ := settled.readAt nowMs
  unfold expire
  split
  · exact ⟨read, rfl, higher⟩
  · exact ⟨settled, rfl, Nat.le_refl _⟩

end

/-! ### The invariant -/

/-- Every entry is settled, up to the next sequence number. -/
structure AttentionLedger.Settled (ledger : AttentionLedger) : Prop where
  started : 0 < ledger.nextEventSeq
  panes : ∀ id pane, ledger.panes.lookup id = some pane →
    pane.Settled ∧ pane.latestEventSeq < ledger.nextEventSeq
  notifs : ∀ id notif, ledger.notifs.lookup id = some notif →
    notif.Settled ∧ notif.eventSeq < ledger.nextEventSeq

/-- No identity that is in both ledgers has a lower watermark in the second. -/
structure NeverLowers (before after : AttentionLedger) : Prop where
  panes : ∀ id old new, before.panes.lookup id = some old → after.panes.lookup id = some new →
    old.watermark.readThroughSeq ≤ new.watermark.readThroughSeq
  notifs : ∀ id old new, before.notifs.lookup id = some old → after.notifs.lookup id = some new →
    old.watermark.readThroughSeq ≤ new.watermark.readThroughSeq

theorem expireInto_settled (settled : ledger.Settled) {expired : Pending}
    (done : ledger.expireInto nowMs = some expired) :
    expired.ledger.Settled ∧ NeverLowers ledger expired.ledger := by
  obtain ⟨⟨panes, notifs, equal⟩, panesEqual, notifsEqual⟩ := expireInto_eq done
  have pane {id : String} {new : PaneAttention}
      (held : expired.ledger.panes.lookup id = some new) :
      ∃ old, ledger.panes.lookup id = some old ∧ (old.expire nowMs).1 = new := by
    rw [panesEqual] at held
    exact map_eq_some_iff.mp (filter_eq_some_iff.mp held).1
  have notif {id : String} {new : NotifAttention}
      (held : expired.ledger.notifs.lookup id = some new) :
      ∃ old, ledger.notifs.lookup id = some old ∧ (old.expire nowMs).1 = new := by
    rw [notifsEqual] at held
    exact map_eq_some_iff.mp (filter_eq_some_iff.mp held).1
  have sameNext : expired.ledger.nextEventSeq = ledger.nextEventSeq := by
    rw [equal]
    rfl
  refine ⟨⟨sameNext ▸ settled.started, fun id new held => ?_, fun id new held => ?_⟩,
    fun id old new before held => ?_, fun id old new before held => ?_⟩
  · obtain ⟨old, before, rfl⟩ := pane held
    obtain ⟨oldSettled, issued⟩ := settled.panes id old before
    rw [sameNext, (expire_ordered nowMs oldSettled.ordered).2]
    exact ⟨(expire_settled nowMs oldSettled).1, issued⟩
  · obtain ⟨old, before, rfl⟩ := notif held
    obtain ⟨oldSettled, issued⟩ := settled.notifs id old before
    obtain ⟨newSettled, sameSeq, -⟩ := NotifAttention.expire_settled nowMs oldSettled
    rw [sameNext, sameSeq]
    exact ⟨newSettled, issued⟩
  · obtain ⟨found, foundBefore, rfl⟩ := pane held
    cases before.symm.trans foundBefore
    exact (expire_settled nowMs (settled.panes id old before).1).2
  · obtain ⟨found, foundBefore, rfl⟩ := notif held
    cases before.symm.trans foundBefore
    exact (NotifAttention.expire_settled nowMs (settled.notifs id old before).1).2.2

theorem NeverLowers.of_same {before after : AttentionLedger}
    (panes : ∀ id pane, after.panes.lookup id = some pane → before.panes.lookup id = some pane)
    (notifs : ∀ id notif, after.notifs.lookup id = some notif →
      before.notifs.lookup id = some notif) : NeverLowers before after := by
  refine ⟨fun id old new held later => ?_, fun id old new held later => ?_⟩
  · cases held.symm.trans (panes id new later)
    exact Nat.le_refl _
  · cases held.symm.trans (notifs id new later)
    exact Nat.le_refl _

section

variable (settled : ledger.Settled)
include settled

theorem recordPaneEvent_settled (paneId : String) (occurredAt : Nat) (severity : Severity)
    (nowMs : Nat) :
    (ledger.changed (.recordPaneEvent paneId occurredAt severity nowMs)).Settled ∧
      NeverLowers ledger (ledger.changed (.recordPaneEvent paneId occurredAt severity nowMs)) := by
  have old : ((ledger.panes.lookup paneId).getD ⟨0, 0, [], none⟩).Ordered ∧
      ((ledger.panes.lookup paneId).getD ⟨0, 0, [], none⟩).latestEventSeq <
        ledger.nextEventSeq := by
    cases found : ledger.panes.lookup paneId with
    | none =>
      exact ⟨⟨Pairwise.nil, nofun, nofun, Nat.le_refl _⟩, settled.started⟩
    | some pane =>
      obtain ⟨paneSettled, issued⟩ := settled.panes paneId pane found
      exact ⟨paneSettled.ordered, issued⟩
  refine ⟨⟨Nat.succ_pos _, fun id pane held => ?_, fun id notif held => ?_⟩,
    fun id before pane earlier held => ?_, fun id before notif earlier held => ?_⟩
  · have inserted := (lookup_insert ..).symm.trans held
    split at inserted
    · cases inserted
      exact ⟨push_settled old.1 old.2, Nat.lt_succ_self _⟩
    · obtain ⟨paneSettled, issued⟩ := settled.panes id pane inserted
      exact ⟨paneSettled, Nat.lt_succ_of_lt issued⟩
  · obtain ⟨notifSettled, issued⟩ := settled.notifs id notif held
    exact ⟨notifSettled, Nat.lt_succ_of_lt issued⟩
  · have inserted := (lookup_insert ..).symm.trans held
    split at inserted
    next here =>
      cases inserted
      rw [← here, earlier]
      exact Nat.le_refl _
    · cases earlier.symm.trans inserted
      exact Nat.le_refl _
  · cases earlier.symm.trans held
    exact Nat.le_refl _

theorem recordNotifEvent_settled (notifId : String) (occurredAt : Nat) (severity : Severity)
    (nowMs : Nat) :
    (ledger.changed (.recordNotifEvent notifId occurredAt severity nowMs)).Settled ∧
      NeverLowers ledger
        (ledger.changed (.recordNotifEvent notifId occurredAt severity nowMs)) := by
  refine ⟨⟨Nat.succ_pos _, fun id pane held => ?_, fun id notif held => ?_⟩,
    fun id before pane earlier held => ?_, fun id before notif earlier held => ?_⟩
  · obtain ⟨paneSettled, issued⟩ := settled.panes id pane held
    exact ⟨paneSettled, Nat.lt_succ_of_lt issued⟩
  · have inserted := (lookup_insert ..).symm.trans held
    split at inserted
    · cases inserted
      exact ⟨⟨settled.started, iff_of_false Bool.false_ne_true Bool.false_ne_true⟩,
        Nat.lt_succ_self _⟩
    · obtain ⟨notifSettled, issued⟩ := settled.notifs id notif inserted
      exact ⟨notifSettled, Nat.lt_succ_of_lt issued⟩
  · cases earlier.symm.trans held
    exact Nat.le_refl _
  · have inserted := (lookup_insert ..).symm.trans held
    split at inserted
    · cases inserted
      -- The event that the notification was about has an older number than the new one.
      obtain ⟨beforeSettled, issued⟩ := settled.notifs id before earlier
      exact Nat.le_trans (beforeSettled.readAt 0).2 (Nat.le_sub_one_of_lt issued)
    · cases earlier.symm.trans inserted
      exact Nat.le_refl _

theorem marked_settled (panes : List (String × Nat)) (notifs : List String) (nowMs : Nat) :
    (ledger.marked panes notifs nowMs).Settled ∧
      NeverLowers ledger (ledger.marked panes notifs nowMs) := by
  refine ⟨⟨settled.started, fun id pane held => ?_, fun id notif held => ?_⟩,
    fun id before pane earlier held => ?_, fun id before notif earlier held => ?_⟩
  · obtain ⟨old, found, rfl⟩ := map_eq_some_iff.mp
      ((markPanes_lookup nowMs panes _ id).symm.trans held)
    obtain ⟨oldSettled, issued⟩ := settled.panes id old found
    refine ⟨(readAll_settled nowMs oldSettled fun _ => accepted_le).1, ?_⟩
    rw [readAll_latest]
    exact issued
  · obtain ⟨old, found, rfl⟩ := map_eq_some_iff.mp
      ((markNotifs_lookup nowMs notifs _ id).symm.trans held)
    obtain ⟨oldSettled, issued⟩ := settled.notifs id old found
    split
    · obtain ⟨newSettled, sameSeq, -⟩ := NotifAttention.markRead_settled nowMs oldSettled
      exact ⟨newSettled, sameSeq ▸ issued⟩
    · exact ⟨oldSettled, issued⟩
  · obtain ⟨old, found, rfl⟩ := map_eq_some_iff.mp
      ((markPanes_lookup nowMs panes _ id).symm.trans held)
    cases earlier.symm.trans found
    exact (readAll_settled nowMs (settled.panes id before earlier).1
      fun _ => accepted_le).2
  · obtain ⟨old, found, rfl⟩ := map_eq_some_iff.mp
      ((markNotifs_lookup nowMs notifs _ id).symm.trans held)
    cases earlier.symm.trans found
    split
    · exact (NotifAttention.markRead_settled nowMs (settled.notifs id before earlier).1).2.2
    · exact Nat.le_refl _

/-- What a call makes of a settled ledger is settled, and lowers no watermark. -/
theorem changed_settled (call : LedgerCall) :
    (ledger.changed call).Settled ∧ NeverLowers ledger (ledger.changed call) := by
  have unchanged : ledger.Settled ∧ NeverLowers ledger ledger :=
    ⟨settled, .of_same (fun _ _ held => held) fun _ _ held => held⟩
  cases call with
  | recordPaneEvent paneId occurredAt severity nowMs =>
    exact recordPaneEvent_settled settled paneId occurredAt severity nowMs
  | recordNotifEvent notifId occurredAt severity nowMs =>
    exact recordNotifEvent_settled settled notifId occurredAt severity nowMs
  | markRead epoch panes notifs nowMs =>
    by_cases stale : epoch ≠ ledger.epoch
    · rw [AttentionLedger.changed, if_pos stale]
      exact unchanged
    · rw [AttentionLedger.changed, if_neg stale]
      exact marked_settled settled panes notifs nowMs
  | paneClosed paneId nowMs =>
    have stays (id : String) (pane : PaneAttention)
        (held : (ledger.panes.erase paneId).lookup id = some pane) :
        ledger.panes.lookup id = some pane := by
      exact (of_lookup_erase held).2
    exact ⟨⟨settled.started, fun id pane held => settled.panes id pane (stays id pane held),
      settled.notifs⟩, .of_same stays fun _ _ held => held⟩
  | sweep | reserve | complete => exact unchanged

end

/-- The identities of a ledger are within the cap. -/
def AttentionLedger.Capped (ledger : AttentionLedger) : Prop :=
  KeyMap.size ledger.panes ≤ identityCap ∧ KeyMap.size ledger.notifs ≤ identityCap

theorem AttentionLedger.Settled.sound (settled : ledger.Settled) (capped : ledger.Capped) :
    ledger.Sound := by
  refine ⟨fun id pane held => ?_, fun id notif held => ?_, capped.1, capped.2⟩
  · obtain ⟨paneSettled, issued⟩ := settled.panes id pane held
    exact paneSettled.sound issued
  · obtain ⟨notifSettled, issued⟩ := settled.notifs id notif held
    exact notifSettled.sound issued

/-- The identity of a pane outlives the expiry with which a call begins. -/
def PaneAttention.Outlives (pane : PaneAttention) (call : LedgerCall) : Prop :=
  ∀ nowMs, call.expiresAt = some nowMs → (pane.expire nowMs).1.collect nowMs = false

def NotifAttention.Outlives (notif : NotifAttention) (call : LedgerCall) : Prop :=
  ∀ nowMs, call.expiresAt = some nowMs → (notif.expire nowMs).1.collect nowMs = false

/-- A call lowers the watermark of no identity that outlives its expiry. -/
structure Raises (before : AttentionLedger) (call : LedgerCall) (after : AttentionLedger) :
    Prop where
  panes : ∀ id old new, before.panes.lookup id = some old → old.Outlives call →
    after.panes.lookup id = some new → old.watermark.readThroughSeq ≤ new.watermark.readThroughSeq
  notifs : ∀ id old new, before.notifs.lookup id = some old → old.Outlives call →
    after.notifs.lookup id = some new →
    old.watermark.readThroughSeq ≤ new.watermark.readThroughSeq

theorem completes_settled (settled : ledger.Settled) (expires : call.expiresAt = some nowMs)
    (completes : Completes ledger nowMs call next) :
    next.Settled ∧ next.Capped ∧ Raises ledger call next := by
  obtain ⟨expired, pending, capped, revision, expiry, changed, caps, rfl⟩ := completes
  obtain ⟨expiredSettled, expiryRaises⟩ := expireInto_settled settled expiry
  obtain ⟨-, panesEqual, notifsEqual⟩ := expireInto_eq expiry
  obtain ⟨changedSettled, changeRaises⟩ := changed_settled expiredSettled call
  rw [← changed] at changedSettled changeRaises
  obtain ⟨⟨panes, notifs, equal⟩, panesKept, notifsKept, paneCount, notifCount⟩ :=
    enforceIdentityCaps_eq caps
  have sameNext : capped.ledger.nextEventSeq = pending.ledger.nextEventSeq := by rw [equal]
  refine ⟨⟨sameNext ▸ changedSettled.started, fun id pane held => ?_,
    fun id notif held => ?_⟩, ⟨paneCount, notifCount⟩,
    fun id old new before outlives held => ?_, fun id old new before outlives held => ?_⟩
  · exact sameNext ▸ changedSettled.panes id pane (panesKept id pane held)
  · exact sameNext ▸ changedSettled.notifs id notif (notifsKept id notif held)
  · have middle : expired.ledger.panes.lookup id = some (old.expire nowMs).1 := by
      rw [panesEqual, before, map_some, filter_some, if_pos]
      rw [outlives nowMs expires]
      rfl
    exact Nat.le_trans (expiryRaises.panes id old _ before middle)
      (changeRaises.panes id _ new middle (panesKept id new held))
  · have middle : expired.ledger.notifs.lookup id = some (old.expire nowMs).1 := by
      rw [notifsEqual, before, map_some, filter_some, if_pos]
      rw [outlives nowMs expires]
      rfl
    exact Nat.le_trans (expiryRaises.notifs id old _ before middle)
      (changeRaises.notifs id _ new middle (notifsKept id new held))

theorem call_settled (settled : ledger.Settled) (withinCap : ledger.Capped)
    (done : ledger.call call = some (next, returned)) :
    next.Settled ∧ next.Capped ∧ Raises ledger call next := by
  cases expires : call.expiresAt with
  | some nowMs => exact completes_settled settled expires (call_completes done expires)
  | none =>
    obtain ⟨nextDedupGeneration, dedup, rfl⟩ := call_dedup done expires
    have same : NeverLowers ledger { ledger with nextDedupGeneration, dedup } :=
      .of_same (fun _ _ held => held) fun _ _ held => held
    exact ⟨⟨settled.started, settled.panes, settled.notifs⟩, withinCap,
      fun id old new before _ held => same.panes id old new before held,
      fun id old new before _ held => same.notifs id old new before held⟩

theorem withEpoch_settled (epoch : String) : (AttentionLedger.withEpoch epoch).Settled :=
  ⟨Nat.one_pos, nofun, nofun⟩

theorem run_settled {epoch : String} {calls : List LedgerCall} {stream : List StateDelta}
    (reached : Fallible.run streamCall (.withEpoch epoch, []) calls = some (ledger, stream)) :
    ledger.Settled ∧ ledger.Capped := by
  refine Fallible.run_kept (fun state => state.1.Settled ∧ state.1.Capped)
    (fun state call next holds taken => ?_)
    ⟨withEpoch_settled epoch, Nat.zero_le _, Nat.zero_le _⟩ reached
  obtain ⟨returned, called, -⟩ := streamCall_eq_some taken
  obtain ⟨nextSettled, nextCapped, -⟩ := call_settled holds.1 holds.2 called
  exact ⟨nextSettled, nextCapped⟩

/-- At every ledger that calls lead to: the watermark of each identity is sound and the identities
are within the cap, a call lowers the watermark of no identity that outlives its expiry, and
eviction finds a victim whenever it needs one. -/
theorem ledger_invariant {epoch : String} {calls : List LedgerCall} {stream : List StateDelta}
    (reached : Fallible.run streamCall (.withEpoch epoch, []) calls = some (ledger, stream)) :
    ledger.Sound ∧
    (∀ call next returned, ledger.call call = some (next, returned) → Raises ledger call next) ∧
    ∀ pending : Pending, pending.enforceIdentityCaps.isSome := by
  obtain ⟨settled, capped⟩ := run_settled reached
  refine ⟨settled.sound capped, fun call next returned done => ?_, fun pending => ?_⟩
  · exact (call_settled settled capped done).2.2
  · obtain ⟨after, done, -⟩ := enforceIdentityCaps_total pending
    rw [done]
    rfl

/-- A late reading of the first of two events on a pane leaves the second unread. -/
theorem ledger_invariant_lateReading : ∃ ledger stream next returned,
      Fallible.run streamCall (.withEpoch "e", [])
        [.recordPaneEvent "p" 5 .warning 5, .recordPaneEvent "p" 4 .info 4] =
        some (ledger, stream) ∧
      ledger.call (.markRead "e" [("p", 1)] [] 3) = some (next, returned) ∧ ledger.Sound ∧
      Raises ledger (.markRead "e" [("p", 1)] [] 3) next := by
  have reached : Fallible.run streamCall (.withEpoch "e", [])
      [.recordPaneEvent "p" 5 .warning 5, .recordPaneEvent "p" 4 .info 4] = some (_, _) := rfl
  have holds := ledger_invariant reached
  exact ⟨_, _, _, _, reached, rfl, holds.1, holds.2.1 _ _ _ rfl⟩

/-! ### Victims -/

/-- The identity that is recorded stays, in a map within the cap: either it was there, or the others
are older. -/
theorem enforceCap_recorded {retired : Entry → Bool} {activity : Entry → Nat × Nat}
    {victim : KeyMap String Entry → Option String} {fuel : Nat}
    {entries after : KeyMap String Entry} {deltas final : List Delta}
    (chooses : ∀ entries : KeyMap String Entry, entries.entries ≠ [] →
      ∃ id, victim entries = some id ∧ IsVictim retired activity entries id)
    (within : size entries ≤ identityCap) {id : String} {entry : Entry}
    (newest : entries.lookup id = none → retired entry = false ∧
      ∀ other otherEntry, entries.lookup other = some otherEntry → retired otherEntry = false →
        victimLess (ranked activity ⟨other, otherEntry⟩) (ranked activity ⟨id, entry⟩) = true)
    (done : enforceCap reports victim fuel (entries.insert id entry) deltas = some (after, final)) :
    after.lookup id = some entry := by
  obtain ⟨ids, evicts, count⟩ := enforceCap_evicts chooses done
  have held : (entries.insert id entry).lookup id = some entry := AList.lookup_insert _
  cases before : entries.lookup id with
  | none =>
    obtain ⟨live, older⟩ := newest before
    refine (evicts.spares held live fun other otherEntry ne there => ?_).1
    rw [lookup_insert, if_neg ne] at there
    exact older other otherEntry there
  | some old =>
    have within : size (entries.insert id entry) ≤ identityCap :=
      Nat.le_trans (Nat.le_of_eq (size_erase before)) within
    rw [enforceCap_within within] at done
    exact (Prod.mk.inj (some.inj done)).1 ▸ held

theorem expireEntries_size
    {collect : Entry → Bool} {entries after : KeyMap String Entry} {deltas : List Delta}
    (done : expireEntries reports expire collect entries = some (after, deltas)) :
    size after ≤ size entries := by
  obtain ⟨current, -, equal⟩ := bind_eq_some_iff.mp done
  cases equal
  refine Nat.le_trans (length_filter_le _ _) (Nat.le_of_eq ?_)
  exact length_map _

theorem expireInto_capped (capped : ledger.Capped) {expired : Pending}
    (done : ledger.expireInto nowMs = some expired) : expired.ledger.Capped := by
  obtain ⟨⟨panes, paneDeltas⟩, panesDone, later⟩ := bind_eq_some_iff.mp done
  obtain ⟨⟨notifs, notifDeltas⟩, notifsDone, equal⟩ := bind_eq_some_iff.mp later
  cases equal
  exact ⟨Nat.le_trans (expireEntries_size panesDone) capped.1,
    Nat.le_trans (expireEntries_size notifsDone) capped.2⟩

/-- Evictions take fully-read identities first, the oldest activity of a kind first, and as many as
exceed the cap. An identity that is recorded stays, when none of the others that are not fully read
is newer. -/
theorem eviction_picks_victims :
    (∀ pending : Pending, ∃ capped paneIds notifIds, pending.enforceIdentityCaps = some capped ∧
      Evicts PaneAttention.retired PaneAttention.activity pending.ledger.panes paneIds
        capped.ledger.panes ∧
      paneIds.length = KeyMap.size pending.ledger.panes - identityCap ∧
      Evicts NotifAttention.read NotifAttention.activity pending.ledger.notifs notifIds
        capped.ledger.notifs ∧
      notifIds.length = KeyMap.size pending.ledger.notifs - identityCap) ∧
    ∀ epoch calls ledger stream,
      Fallible.run streamCall (.withEpoch epoch, []) calls = some (ledger, stream) →
      ∀ nowMs expired, ledger.expireInto nowMs = some expired →
        (∀ paneId occurredAt severity next eventSeq delta,
          ledger.recordPaneEvent paneId occurredAt severity nowMs = some (next, eventSeq, delta) →
          (∀ other pane, other ≠ paneId → expired.ledger.panes.lookup other = some pane →
            pane.retired = false → pane.activity.1 ≤ occurredAt) →
          (next.panes.lookup paneId).isSome) ∧
        ∀ notifId occurredAt severity next eventSeq delta,
          ledger.recordNotifEvent notifId occurredAt severity nowMs = some (next, eventSeq, delta) →
          (∀ other notif, other ≠ notifId → expired.ledger.notifs.lookup other = some notif →
            notif.read = false → notif.activity.1 ≤ occurredAt) →
          (next.notifs.lookup notifId).isSome := by
  refine ⟨fun pending => ?_, fun epoch calls ledger stream reached nowMs expired expiry =>
    ⟨fun paneId occurredAt severity next eventSeq delta recorded newest => ?_,
      fun notifId occurredAt severity next eventSeq delta recorded newest => ?_⟩⟩
  · obtain ⟨capped, done, -⟩ := enforceIdentityCaps_total pending
    obtain ⟨⟨panes, paneDeltas⟩, panesDone, later⟩ := bind_eq_some_iff.mp done
    obtain ⟨⟨notifs, notifDeltas⟩, notifsDone, equal⟩ := bind_eq_some_iff.mp later
    cases equal
    obtain ⟨paneIds, panesEvicted, paneCount⟩ := enforceCap_evicts paneVictim_spec panesDone
    obtain ⟨notifIds, notifsEvicted, notifCount⟩ := enforceCap_evicts notifVictim_spec notifsDone
    exact ⟨_, paneIds, notifIds, done, panesEvicted, paneCount, notifsEvicted, notifCount⟩
  · obtain ⟨settled, capped⟩ := run_settled reached
    obtain ⟨same, pending, capping, revision, expiryAgain, changed, caps, rfl⟩ :=
      recordPaneEvent_completes recorded
    cases expiry.symm.trans expiryAgain
    obtain ⟨⟨panes, paneDeltas⟩, panesDone, later⟩ := bind_eq_some_iff.mp caps
    obtain ⟨⟨notifs, notifDeltas⟩, -, equal⟩ := bind_eq_some_iff.mp later
    cases equal
    rw [changed] at panesDone
    refine isSome_of_eq_some (enforceCap_recorded paneVictim_spec ?_ (fun new => ?_) panesDone)
    · exact (expireInto_capped capped expiry).1
    · rw [new]
      refine ⟨rfl, fun other pane there live => victimLess_of_newer
        (newest other pane (fun same => nomatch (same ▸ there).symm.trans new) there live) ?_⟩
      obtain ⟨paneSettled, issued⟩ := (expireInto_settled settled expiry).1.panes other pane there
      cases unread : pane.unread with
      | nil =>
        rw [PaneAttention.retired, unread] at live
        exact nomatch live
      | cons head rest =>
        simp only [ranked, PaneAttention.activity, unread]
        exact Nat.lt_of_le_of_lt
          (paneSettled.ordered.below head (unread ▸ mem_cons_self)) issued
  · obtain ⟨settled, capped⟩ := run_settled reached
    obtain ⟨same, pending, capping, revision, expiryAgain, changed, caps, rfl⟩ :=
      recordNotifEvent_completes recorded
    cases expiry.symm.trans expiryAgain
    obtain ⟨⟨panes, paneDeltas⟩, -, later⟩ := bind_eq_some_iff.mp caps
    obtain ⟨⟨notifs, notifDeltas⟩, notifsDone, equal⟩ := bind_eq_some_iff.mp later
    cases equal
    rw [changed] at notifsDone
    refine isSome_of_eq_some (enforceCap_recorded notifVictim_spec
      (expireInto_capped capped expiry).2 (fun new => ⟨rfl, fun other notif there live => ?_⟩)
      notifsDone)
    exact victimLess_of_newer
      (newest other notif (fun same => nomatch (same ▸ there).symm.trans new) there live)
      ((expireInto_settled settled expiry).1.notifs other notif there).2

end Dinotty.Attention
