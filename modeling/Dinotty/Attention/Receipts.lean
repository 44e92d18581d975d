/-
This file proves when read receipts form a join. Expiry pops expired events from the front only: one
that stands behind a live event is exposed by a receipt and expires at the next call.
-/

import Dinotty.Attention.Invariant

namespace Dinotty.Attention

open List AttentionLedger KeyMap

/-- The targets of a `mark_read` call. -/
structure Receipt where
  panes : List (String × Nat)
  notifs : List String

def AttentionLedger.receive (ledger : AttentionLedger) (epoch : String) (receipt : Receipt)
    (nowMs : Nat) : Option AttentionLedger :=
  (ledger.markRead epoch receipt.panes receipt.notifs nowMs).map fun result => result.1

/-- The ledgers hold the same panes and the same notifications. -/
def SameEntries (left right : AttentionLedger) : Prop :=
  (∀ id, left.panes.lookup id = right.panes.lookup id) ∧
    ∀ id, left.notifs.lookup id = right.notifs.lookup id

/-- One receipt for two: for each pane the highest of the watermarks that it accepts. -/
def Receipt.join (ledger : AttentionLedger) (first second : Receipt) : Receipt where
  panes := ((first.panes ++ second.panes).map Prod.fst).dedup.filterMap fun id => do
    let pane ← ledger.panes.lookup id
    let highest ← (accepted (first.panes ++ second.panes) id pane).max?
    return (id, highest)
  notifs := (first.notifs ++ second.notifs).dedup

/-- Receipts at one time form a join, read nothing newer than they say, and do nothing of their
own when every target is rejected. -/
structure ReceiptLaws (ledger : AttentionLedger) (nowMs : Nat) : Prop where
  commute : ∀ epoch first second afterFirst firstSecond afterSecond secondFirst,
    ledger.receive epoch first nowMs = some afterFirst →
    afterFirst.receive epoch second nowMs = some firstSecond →
    ledger.receive epoch second nowMs = some afterSecond →
    afterSecond.receive epoch first nowMs = some secondFirst →
    SameEntries firstSecond secondFirst
  idempotent : ∀ epoch receipt once twice, ledger.receive epoch receipt nowMs = some once →
    once.receive epoch receipt nowMs = some twice → SameEntries once twice
  join : ∀ epoch first second afterFirst firstSecond joined,
    ledger.receive epoch first nowMs = some afterFirst →
    afterFirst.receive epoch second nowMs = some firstSecond →
    ledger.receive epoch (first.join ledger second) nowMs = some joined →
    SameEntries firstSecond joined
  keepsNewer : ∀ epoch receipt next swept delta,
    ledger.receive epoch receipt nowMs = some next → ledger.sweep nowMs = some (swept, delta) →
    ∀ id pane, swept.panes.lookup id = some pane →
      ∃ read, next.panes.lookup id = some read ∧ ∀ event ∈ pane.unread,
        (∀ watermark ∈ accepted receipt.panes id pane, watermark < event.seq) →
        event ∈ read.unread
  rejected : ∀ epoch panes notifs next delta results appliedAt swept sweepDelta,
    ledger.markRead epoch panes notifs nowMs = some (next, delta, results, appliedAt) →
    (∀ result ∈ results, result.status ≠ .applied) →
    ledger.sweep nowMs = some (swept, sweepDelta) →
    next.panes = swept.panes ∧ next.notifs = swept.notifs

/-- On every pane the events that have expired stand before those that have not. -/
def AttentionLedger.Unshielded (ledger : AttentionLedger) (nowMs : Nat) : Prop :=
  ∀ id pane, ledger.panes.lookup id = some pane →
    pane.unread.Pairwise fun earlier later =>
      isExpired later.occurredAt unreadTtl nowMs → isExpired earlier.occurredAt unreadTtl nowMs

/-! ### Reading through the highest watermark -/

theorem dropWhile_dropWhile {Item : Type} {first second : Item → Bool}
    (implies : ∀ item, first item = true → second item = true) (items : List Item) :
    (items.dropWhile first).dropWhile second = items.dropWhile second := by
  induction items with
  | nil => rfl
  | cons item rest ih =>
    rw [dropWhile_cons]
    split
    next dropped =>
      rw [ih, dropWhile_cons, if_pos (implies item dropped)]
    · rfl

variable {unread : List UnreadEvent}

theorem mem_dropWhile_of_ascending {watermark : Nat}
    (ascending : unread.Pairwise fun left right => left.seq < right.seq) {event : UnreadEvent}
    (mem : event ∈ unread) (beyond : ¬ event.seq ≤ watermark) :
    event ∈ unread.dropWhile fun event => event.seq ≤ watermark := by
  induction unread with
  | nil => exact mem
  | cons head rest ih =>
    obtain ⟨-, later⟩ := pairwise_cons.mp ascending
    rw [dropWhile_cons]
    split
    next read =>
      rcases mem_cons.mp mem with rfl | tail
      · exact absurd (of_decide_eq_true read) beyond
      · exact ih later tail
    · exact mem

namespace PaneAttention

variable {pane : PaneAttention}

/-- Reading twice reads through the higher watermark. -/
theorem markRead_markRead (settled : pane.Settled) {first second : Nat}
    (firstValid : first ≤ pane.latestEventSeq) (secondValid : second ≤ pane.latestEventSeq)
    (nowMs : Nat) :
    ((pane.markRead first nowMs).1.markRead second nowMs).1 =
      (pane.markRead (max first second) nowMs).1 := by
  have firstMax : max pane.readThroughSeq first ≤ pane.latestEventSeq :=
    Nat.max_le.mpr ⟨settled.ordered.watermark, firstValid⟩
  have twice : ∀ event : UnreadEvent, decide (event.seq ≤ max pane.readThroughSeq first) = true →
      decide (event.seq ≤ max (max pane.readThroughSeq first) second) = true := fun event read =>
    decide_eq_true (Nat.le_trans (of_decide_eq_true read) (Nat.le_max_left _ _))
  have composed := dropWhile_dropWhile twice pane.unread
  rw [Nat.max_assoc] at composed
  unfold markRead
  dsimp only
  by_cases emptied : pane.unread ≠ [] ∧
      (pane.unread.dropWhile fun event => event.seq ≤ max pane.readThroughSeq first) = []
  · rw [emptied.2] at composed
    simp only [dropWhile_nil, ne_eq, emptied.2, not_true_eq_false, false_and,
      if_false, Nat.max_eq_left secondValid, emptied.1, not_false_eq_true, ← composed,
      true_and, if_true]
  · simp only [if_neg emptied, Nat.max_assoc, composed]
    by_cases empty : pane.unread = []
    · simp [empty]
    · have left : (pane.unread.dropWhile fun event =>
          decide (event.seq ≤ max pane.readThroughSeq first)) ≠ [] := fun none =>
        emptied ⟨empty, none⟩
      simp only [ne_eq, left, not_false_eq_true, true_and, empty]
      split
      · rfl
      · rfl

theorem readAll_eq (settled : pane.Settled) (nowMs : Nat) {watermarks : List Nat}
    (valid : ∀ watermark ∈ watermarks, watermark ≤ pane.latestEventSeq) :
    pane.readAll nowMs watermarks =
      (watermarks.max?.map fun highest => (pane.markRead highest nowMs).1).getD pane := by
  cases watermarks with
  | nil => rfl
  | cons first rest =>
    rw [max?_cons', Option.map_some, Option.getD_some, readAll, foldl_cons]
    have firstValid := valid first mem_cons_self
    have restValid : ∀ watermark ∈ rest, watermark ≤ pane.latestEventSeq := fun watermark mem =>
      valid watermark (mem_cons_of_mem _ mem)
    clear valid
    induction rest generalizing first with
    | nil => rfl
    | cons second rest ih =>
      have secondValid := restValid second mem_cons_self
      rw [foldl_cons, foldl_cons, markRead_markRead settled firstValid secondValid]
      exact ih _ (Nat.max_le.mpr ⟨firstValid, secondValid⟩)
        fun watermark mem => restValid watermark (mem_cons_of_mem _ mem)

theorem readAll_append (nowMs : Nat) (first second : List Nat) :
    (pane.readAll nowMs first).readAll nowMs second = pane.readAll nowMs (first ++ second) :=
  foldl_append.symm

theorem markRead_keepsNewer (ordered : pane.Ordered) {throughSeq : Nat} (nowMs : Nat)
    {event : UnreadEvent} (mem : event ∈ pane.unread) (newer : throughSeq < event.seq) :
    event ∈ (pane.markRead throughSeq nowMs).1.unread := by
  have beyond : ¬ event.seq ≤ max pane.readThroughSeq throughSeq :=
    Nat.not_le_of_lt (Nat.max_lt.mpr ⟨ordered.above event mem, newer⟩)
  have left : event ∈ pane.unread.dropWhile fun event =>
      event.seq ≤ max pane.readThroughSeq throughSeq :=
    mem_dropWhile_of_ascending ordered.ascending mem beyond
  unfold markRead
  dsimp only
  split
  · exact left
  · exact left

theorem markRead_above (ordered : pane.Ordered) {throughSeq : Nat} {event : UnreadEvent}
    (mem : event ∈ (pane.markRead throughSeq nowMs).1.unread) : throughSeq < event.seq := by
  have left : event ∈ pane.unread.dropWhile fun event =>
      event.seq ≤ max pane.readThroughSeq throughSeq := by
    unfold markRead at mem
    dsimp only at mem
    split at mem
    · exact mem
    · exact mem
  exact Nat.lt_of_le_of_lt (Nat.le_max_right _ _) (above_of_dropWhile ordered.ascending event left)

/-- Only the highest watermark matters. -/
theorem readAll_congr (settled : pane.Settled) (nowMs : Nat) {first second : List Nat}
    (valid : ∀ watermark ∈ first, watermark ≤ pane.latestEventSeq)
    (same : ∀ bound, (∀ watermark ∈ first, watermark ≤ bound) ↔
      ∀ watermark ∈ second, watermark ≤ bound)
    (empty : first = [] ↔ second = []) :
    pane.readAll nowMs first = pane.readAll nowMs second := by
  have secondValid := (same pane.latestEventSeq).mp valid
  rw [readAll_eq settled nowMs valid, readAll_eq settled nowMs secondValid]
  have highest : first.max? = second.max? := by
    cases firstMax : first.max? with
    | none =>
      rw [max?_eq_none_iff, empty] at firstMax
      rw [firstMax]
      rfl
    | some high =>
      cases secondMax : second.max? with
      | none =>
        rw [max?_eq_none_iff, ← empty] at secondMax
        rw [secondMax] at firstMax
        exact nomatch firstMax
      | some other =>
        have bounds := fun bound => (max?_le_iff firstMax).trans
          ((same bound).trans (max?_le_iff secondMax).symm)
        exact congrArg some (Nat.le_antisymm ((bounds other).mpr (Nat.le_refl _))
          ((bounds high).mp (Nat.le_refl _)))
  rw [highest]

end PaneAttention

/-! ### Calls that evict nothing -/

section Sizes

variable {Entry Delta : Type}

theorem enforceIdentityCaps_within (pending : Pending) (within : pending.ledger.Capped) :
    pending.enforceIdentityCaps = some pending := by
  unfold Pending.enforceIdentityCaps
  dsimp only
  rw [enforceCap_within within.1, Option.bind_eq_bind, Option.bind_some, enforceCap_within within.2]
  rfl

theorem Marking.mark_size (marking : Marking Entry) (target : String → AttentionTarget)
    (mark : Entry → Option (Entry × Bool)) (id : String) :
    size (marking.mark target mark id).entries = size marking.entries := by
  unfold Marking.mark
  dsimp only
  split
  · rfl
  next entry held =>
    split
    · rfl
    · have erased := size_erase held
      exact erased

theorem foldl_size {Target : Type} (mark : Marking Entry → Target → Marking Entry)
    (same : ∀ marking target, size (mark marking target).entries =
      size marking.entries) (targets : List Target) (marking : Marking Entry) :
    size (targets.foldl mark marking).entries = size marking.entries := by
  induction targets generalizing marking with
  | nil => rfl
  | cons target rest ih =>
    exact (ih _).trans (same marking target)

end Sizes

variable {ledger next : AttentionLedger} {nowMs : Nat}

theorem marked_capped (capped : ledger.Capped) (panes : List (String × Nat))
    (notifs : List String) (nowMs : Nat) : (ledger.marked panes notifs nowMs).Capped := by
  have paneSize := foldl_size (markPane nowMs) (fun marking target => marking.mark_size ..) panes
    ⟨ledger.panes, false, [], []⟩
  have notifSize := foldl_size (markNotif nowMs) (fun marking target => marking.mark_size ..) notifs
    ⟨ledger.notifs, false, [], []⟩
  exact ⟨Nat.le_trans (Nat.le_of_eq paneSize) capped.1,
    Nat.le_trans (Nat.le_of_eq notifSize) capped.2⟩

/-- What the expiry of a call leaves of the pane of an identity. -/
def AttentionLedger.paneAt (ledger : AttentionLedger) (nowMs : Nat) (id : String) :
    Option PaneAttention :=
  ((ledger.panes.lookup id).map fun pane => (pane.expire nowMs).1).filter
    fun pane => !pane.collect nowMs

def AttentionLedger.notifAt (ledger : AttentionLedger) (nowMs : Nat) (id : String) :
    Option NotifAttention :=
  ((ledger.notifs.lookup id).map fun notif => (notif.expire nowMs).1).filter
    fun notif => !notif.collect nowMs

def Receipt.current (receipt : Receipt) (ledger : AttentionLedger) (epoch : String) : Receipt :=
  if epoch ≠ ledger.epoch then ⟨[], []⟩ else receipt

variable {epoch : String} {receipt : Receipt}

/-- A receipt reads what the expiry has left, and nothing else happens. -/
theorem receive_eq (capped : ledger.Capped) (done : ledger.receive epoch receipt nowMs = some next)
    :
    next.epoch = ledger.epoch ∧ next.Capped ∧
      (∀ id, next.panes.lookup id = (ledger.paneAt nowMs id).map fun pane =>
        pane.readAll nowMs (accepted (receipt.current ledger epoch).panes id pane)) ∧
      ∀ id, next.notifs.lookup id = (ledger.notifAt nowMs id).map fun notif =>
        if id ∈ (receipt.current ledger epoch).notifs then (notif.markRead nowMs).1 else notif := by
  obtain ⟨⟨marked, delta, results, appliedAt⟩, marking, rfl⟩ := Option.map_eq_some_iff.mp done
  obtain ⟨expired, pending, after, revision, expiry, changed, caps, rfl⟩ :=
    markRead_completes marking
  obtain ⟨⟨panes, notifs, equal⟩, panesEqual, notifsEqual⟩ := expireInto_eq expiry
  have expiredCapped := expireInto_capped capped expiry
  have sameEpoch : expired.ledger.epoch = ledger.epoch := by
    rw [equal]
    rfl
  -- A stale receipt changes what a receipt without targets would change.
  have reads : pending.ledger = expired.ledger.marked (receipt.current ledger epoch).panes
      (receipt.current ledger epoch).notifs nowMs := by
    rw [changed, AttentionLedger.changed, Receipt.current, sameEpoch]
    split
    · rfl
    · rfl
  have within : pending.ledger.Capped := reads ▸ marked_capped expiredCapped _ _ nowMs
  rw [enforceIdentityCaps_within _ within] at caps
  cases caps
  refine ⟨?_, within, fun id => ?_, fun id => ?_⟩
  · show pending.ledger.epoch = ledger.epoch
    rw [reads]
    exact sameEpoch
  · show pending.ledger.panes.lookup id = _
    rw [reads, paneAt, ← panesEqual]
    exact markPanes_lookup nowMs _ _ id
  · show pending.ledger.notifs.lookup id = _
    rw [reads, notifAt, ← notifsEqual]
    exact markNotifs_lookup nowMs _ _ id

/-! ### Expiry that has nothing left to do -/

theorem isExpired_now {duration : Nat} (positive : 0 < duration) (nowMs : Nat) :
    isExpired nowMs duration nowMs = false := by
  rw [isExpired, Nat.sub_self]
  exact decide_eq_false (Nat.not_le_of_lt positive)

structure PaneAttention.Fresh (nowMs : Nat) (pane : PaneAttention) : Prop where
  live : ∀ event ∈ pane.unread, isExpired event.occurredAt unreadTtl nowMs = false
  kept : pane.collect nowMs = false

namespace PaneAttention

variable {pane : PaneAttention}

theorem Fresh.expire (fresh : pane.Fresh nowMs) : (pane.expire nowMs).1 = pane := by
  have nothing : (pane.unread.dropWhile fun event =>
      isExpired event.occurredAt unreadTtl nowMs) = pane.unread := by
    cases equal : pane.unread with
    | nil => rfl
    | cons head rest =>
      have live := fresh.live head (equal ▸ mem_cons_self)
      rw [dropWhile_cons, if_neg (by rw [live]; exact Bool.false_ne_true)]
  unfold PaneAttention.expire
  simp [nothing]

/-- A reading empties a pane now, or keeps it from expiring by an event or as before. -/
theorem Fresh.markRead (fresh : pane.Fresh nowMs) (throughSeq : Nat) :
    (pane.markRead throughSeq nowMs).1.Fresh nowMs := by
  have suffix := dropWhile_suffix
    (fun event : UnreadEvent => decide (event.seq ≤ max pane.readThroughSeq throughSeq))
    (l := pane.unread)
  unfold PaneAttention.markRead
  dsimp only
  split
  next emptied =>
    refine ⟨fun event mem => ?_, ?_⟩
    · dsimp only at mem
      rw [emptied.2] at mem
      exact nomatch mem
    · unfold collect
      rw [emptied.2, Option.any_some, isExpired_now (by decide) nowMs]
      rfl
  next notEmptied =>
    refine ⟨fun event mem => fresh.live event (suffix.subset mem), ?_⟩
    unfold collect
    cases left : pane.unread.dropWhile fun event =>
        decide (event.seq ≤ max pane.readThroughSeq throughSeq) with
    | cons head rest => rfl
    | nil =>
      have empty : pane.unread = [] :=
        Decidable.byContradiction fun nonempty => notEmptied ⟨nonempty, left⟩
      have kept := fresh.kept
      rw [collect, empty] at kept
      exact kept

theorem Fresh.readAll (fresh : pane.Fresh nowMs) (watermarks : List Nat) :
    (pane.readAll nowMs watermarks).Fresh nowMs := by
  induction watermarks generalizing pane with
  | nil => exact fresh
  | cons watermark rest ih => exact ih (fresh.markRead watermark)

end PaneAttention

/-- Expiry and reading have nothing left to do on a notification. -/
structure NotifAttention.Fresh (nowMs : Nat) (notif : NotifAttention) : Prop where
  live : (notif.expire nowMs).1 = notif
  kept : notif.collect nowMs = false

theorem NotifAttention.Fresh.markRead {notif : NotifAttention} (fresh : notif.Fresh nowMs) :
    (notif.markRead nowMs).1.Fresh nowMs := by
  unfold NotifAttention.markRead
  split
  · refine ⟨rfl, ?_⟩
    unfold collect
    rw [Option.any_some, isExpired_now (by decide) nowMs]
    rfl
  · exact fresh

theorem NotifAttention.expire_expire (nowMs : Nat) (notif : NotifAttention) :
    ((notif.expire nowMs).1.expire nowMs).1 = (notif.expire nowMs).1 := by
  by_cases expires : (!notif.read && isExpired notif.occurredAt unreadTtl nowMs) = true
  · have once : (notif.expire nowMs).1 = { notif with read := true, readAt := some nowMs } := by
      rw [expire, if_pos expires]
    rw [once]
    rfl
  · have once : notif.expire nowMs = (notif, false) := if_neg expires
    rw [once, once]

theorem live_of_dropWhile (unshielded : unread.Pairwise fun earlier later =>
      isExpired later.occurredAt unreadTtl nowMs → isExpired earlier.occurredAt unreadTtl nowMs) :
    ∀ event ∈ unread.dropWhile (fun event => isExpired event.occurredAt unreadTtl nowMs),
      isExpired event.occurredAt unreadTtl nowMs = false := by
  induction unread with
  | nil => exact nofun
  | cons head rest ih =>
    obtain ⟨first, later⟩ := pairwise_cons.mp unshielded
    intro event mem
    rw [dropWhile_cons] at mem
    split at mem
    · exact ih later event mem
    next live =>
      rcases mem_cons.mp mem with rfl | tail
      · exact Bool.eq_false_of_not_eq_true live
      · exact Bool.eq_false_of_not_eq_true fun expired => live (first event tail expired)

theorem PaneAttention.expire_unread (nowMs : Nat) (pane : PaneAttention) :
    (pane.expire nowMs).1.unread =
      pane.unread.dropWhile fun event => isExpired event.occurredAt unreadTtl nowMs := by
  unfold expire
  dsimp only
  split
  · rfl
  · split
    · rfl
    · rfl

variable {id : String} {pane : PaneAttention}

theorem paneAt_eq_some (held : ledger.paneAt nowMs id = some pane) :
    ∃ old, ledger.panes.lookup id = some old ∧ (old.expire nowMs).1 = pane ∧
      pane.collect nowMs = false := by
  obtain ⟨mapped, kept⟩ := Option.filter_eq_some_iff.mp held
  obtain ⟨old, found, equal⟩ := Option.map_eq_some_iff.mp mapped
  exact ⟨old, found, equal, (Bool.not_eq_true' _).mp kept⟩

theorem paneAt_settled (settled : ledger.Settled) (held : ledger.paneAt nowMs id = some pane) :
    pane.Settled := by
  obtain ⟨old, found, rfl, -⟩ := paneAt_eq_some held
  exact (PaneAttention.expire_settled nowMs (settled.panes id old found).1).1

theorem paneAt_fresh (unshielded : ledger.Unshielded nowMs)
    (held : ledger.paneAt nowMs id = some pane) : pane.Fresh nowMs := by
  obtain ⟨old, found, rfl, kept⟩ := paneAt_eq_some held
  refine ⟨fun event mem => ?_, kept⟩
  rw [PaneAttention.expire_unread] at mem
  exact live_of_dropWhile (unshielded id old found) event mem

theorem notifAt_fresh {notif : NotifAttention} (held : ledger.notifAt nowMs id = some notif) :
    notif.Fresh nowMs := by
  obtain ⟨mapped, kept⟩ := Option.filter_eq_some_iff.mp held
  obtain ⟨old, -, rfl⟩ := Option.map_eq_some_iff.mp mapped
  exact ⟨old.expire_expire nowMs, (Bool.not_eq_true' _).mp kept⟩

theorem receive_paneAt (capped : ledger.Capped) (unshielded : ledger.Unshielded nowMs)
    (done : ledger.receive epoch receipt nowMs = some next) (id : String) :
    next.paneAt nowMs id = next.panes.lookup id := by
  obtain ⟨-, -, panes, -⟩ := receive_eq capped done
  rw [paneAt, panes]
  cases held : ledger.paneAt nowMs id with
  | none => rfl
  | some pane =>
    have fresh := (paneAt_fresh unshielded held).readAll
      (accepted (receipt.current ledger epoch).panes id pane)
    rw [Option.map_some, Option.map_some, fresh.expire, Option.filter_some, fresh.kept]
    rfl

theorem receive_notifAt (capped : ledger.Capped)
    (done : ledger.receive epoch receipt nowMs = some next) (id : String) :
    next.notifAt nowMs id = next.notifs.lookup id := by
  obtain ⟨-, -, -, notifs⟩ := receive_eq capped done
  rw [notifAt, notifs]
  cases held : ledger.notifAt nowMs id with
  | none => rfl
  | some notif =>
    have fresh : NotifAttention.Fresh nowMs
        (if id ∈ (receipt.current ledger epoch).notifs then (notif.markRead nowMs).1
          else notif) := by
      split
      · exact (notifAt_fresh held).markRead
      · exact notifAt_fresh held
    rw [Option.map_some, Option.map_some, fresh.live, Option.filter_some, fresh.kept]
    rfl

/-! ### The laws -/

theorem accepted_readAll (targets : List (String × Nat)) (id : String) (pane : PaneAttention)
    (nowMs : Nat) (watermarks : List Nat) :
    accepted targets id (pane.readAll nowMs watermarks) = accepted targets id pane := by
  rw [accepted, pane.readAll_latest]
  rfl

theorem accepted_append (first second : List (String × Nat)) (id : String) (pane : PaneAttention) :
    accepted (first ++ second) id pane = accepted first id pane ++ accepted second id pane := by
  rw [accepted, filter_append, map_append]
  rfl

variable {first second : Receipt} {afterFirst : AttentionLedger}

/-- Two receipts read what the expiry has left through the watermarks of both. -/
theorem receive_twice (capped : ledger.Capped) (unshielded : ledger.Unshielded nowMs)
    {afterBoth : AttentionLedger} (firstDone : ledger.receive epoch first nowMs = some afterFirst)
    (secondDone : afterFirst.receive epoch second nowMs = some afterBoth) :
    (∀ id, afterBoth.panes.lookup id = (ledger.paneAt nowMs id).map fun pane =>
      pane.readAll nowMs (accepted ((first.current ledger epoch).panes ++
        (second.current ledger epoch).panes) id pane)) ∧
    ∀ id, afterBoth.notifs.lookup id = (ledger.notifAt nowMs id).map fun notif =>
      if id ∈ (first.current ledger epoch).notifs ++ (second.current ledger epoch).notifs then
        (notif.markRead nowMs).1 else notif := by
  obtain ⟨sameEpoch, afterCapped, firstPanes, firstNotifs⟩ := receive_eq capped firstDone
  obtain ⟨-, -, secondPanes, secondNotifs⟩ := receive_eq afterCapped secondDone
  have current : second.current afterFirst epoch = second.current ledger epoch := by
    rw [Receipt.current, sameEpoch]
    rfl
  rw [current] at secondPanes secondNotifs
  refine ⟨fun id => ?_, fun id => ?_⟩
  · rw [secondPanes, receive_paneAt capped unshielded firstDone, firstPanes, Option.map_map]
    refine congrArg (fun read => Option.map read _) (funext fun pane => ?_)
    rw [Function.comp_apply, accepted_readAll, PaneAttention.readAll_append, accepted_append]
  · rw [secondNotifs, receive_notifAt capped firstDone, firstNotifs, Option.map_map]
    refine congrArg (fun read => Option.map read _) (funext fun notif => ?_)
    rw [Function.comp_apply]
    by_cases inFirst : id ∈ (first.current ledger epoch).notifs
    · rw [if_pos inFirst, if_pos (mem_append_left _ inFirst)]
      split
      · exact notif.markRead_markRead nowMs nowMs
      · rfl
    · simp [inFirst]

/-- Readings that agree on every pane and on the notifications lead to the same entries. -/
theorem sameEntries_of_reads (settled : ledger.Settled) {left right : AttentionLedger}
    {leftTargets rightTargets : List (String × Nat)} {leftNotifs rightNotifs : List String}
    (left_panes : ∀ id, left.panes.lookup id = (ledger.paneAt nowMs id).map fun pane =>
      pane.readAll nowMs (accepted leftTargets id pane))
    (right_panes : ∀ id, right.panes.lookup id = (ledger.paneAt nowMs id).map fun pane =>
      pane.readAll nowMs (accepted rightTargets id pane))
    (left_notifs : ∀ id, left.notifs.lookup id = (ledger.notifAt nowMs id).map fun notif =>
      if id ∈ leftNotifs then (notif.markRead nowMs).1 else notif)
    (right_notifs : ∀ id, right.notifs.lookup id = (ledger.notifAt nowMs id).map fun notif =>
      if id ∈ rightNotifs then (notif.markRead nowMs).1 else notif)
    (sameBounds : ∀ id pane, ledger.paneAt nowMs id = some pane →
      (∀ bound, (∀ watermark ∈ accepted leftTargets id pane, watermark ≤ bound) ↔
        ∀ watermark ∈ accepted rightTargets id pane, watermark ≤ bound) ∧
      (accepted leftTargets id pane = [] ↔ accepted rightTargets id pane = []))
    (sameNotifs : ∀ id, id ∈ leftNotifs ↔ id ∈ rightNotifs) : SameEntries left right := by
  refine ⟨fun id => ?_, fun id => ?_⟩
  · rw [left_panes, right_panes]
    cases held : ledger.paneAt nowMs id with
    | none => rfl
    | some pane =>
      obtain ⟨bounds, empty⟩ := sameBounds id pane held
      exact congrArg some (PaneAttention.readAll_congr (paneAt_settled settled held) nowMs
        (fun _ => accepted_le) bounds empty)
  · rw [left_notifs, right_notifs]
    simp only [sameNotifs id]

theorem sameBounds_of_mem {left right : List Nat}
    (same : ∀ watermark, watermark ∈ left ↔ watermark ∈ right) :
    (∀ bound, (∀ watermark ∈ left, watermark ≤ bound) ↔
      ∀ watermark ∈ right, watermark ≤ bound) ∧ (left = [] ↔ right = []) := by
  refine ⟨fun bound => ?_, ?_⟩
  · exact forall_congr' fun watermark => by rw [same]
  · rw [eq_nil_iff_forall_not_mem, eq_nil_iff_forall_not_mem]
    exact forall_congr' fun watermark => by rw [same]

/-- The joined receipt has one watermark for a pane, the highest that is accepted. -/
theorem accepted_join (first second : Receipt) {old : PaneAttention}
    (held : ledger.panes.lookup id = some old)
    (sameLatest : pane.latestEventSeq = old.latestEventSeq) (watermark : Nat) :
    watermark ∈ accepted (first.join ledger second).panes id pane ↔
      (accepted (first.panes ++ second.panes) id pane).max? = some watermark := by
  have samePane : accepted (first.panes ++ second.panes) id old =
      accepted (first.panes ++ second.panes) id pane := by
    rw [accepted, ← sameLatest]
    rfl
  constructor
  · intro mem
    obtain ⟨⟨target, value⟩, listed, rfl⟩ := mem_map.mp mem
    obtain ⟨joined, valid⟩ := mem_filter.mp listed
    obtain ⟨rfl, -⟩ := of_decide_eq_true valid
    obtain ⟨other, -, equal⟩ := mem_filterMap.mp joined
    obtain ⟨found, foundPresent, equal⟩ := Option.bind_eq_some_iff.mp equal
    obtain ⟨highest, max, equal⟩ := Option.bind_eq_some_iff.mp equal
    cases equal
    cases held.symm.trans foundPresent
    exact samePane ▸ max
  · intro max
    have mem := max?_mem max
    have valid : watermark ≤ pane.latestEventSeq := accepted_le mem
    obtain ⟨⟨target, value⟩, listed, rfl⟩ := mem_map.mp mem
    obtain ⟨both, accepts⟩ := mem_filter.mp listed
    obtain ⟨rfl, -⟩ := of_decide_eq_true accepts
    refine mem_map.mpr ⟨(target, value), mem_filter.mpr ⟨?_, decide_eq_true ⟨rfl, valid⟩⟩, rfl⟩
    refine mem_filterMap.mpr ⟨target, mem_dedup.mpr (mem_map_of_mem both), ?_⟩
    rw [held, Option.bind_eq_bind, Option.bind_some, samePane, max]
    rfl

variable {delta : Option StateDelta}

theorem sweep_eq (capped : ledger.Capped) (done : ledger.sweep nowMs = some (next, delta)) :
    ∃ expired, ledger.expireInto nowMs = some expired ∧ next.panes = expired.ledger.panes ∧
      next.notifs = expired.ledger.notifs := by
  obtain ⟨expired, expiry, done⟩ := Option.bind_eq_some_iff.mp done
  obtain ⟨after, caps, finish⟩ := Option.bind_eq_some_iff.mp done
  rw [enforceIdentityCaps_within _ (expireInto_capped capped expiry)] at caps
  cases caps
  obtain ⟨revision, rfl⟩ := finishDelta_eq finish
  exact ⟨expired, expiry, rfl, rfl⟩

/-- A receipt leaves every event that is newer than the watermarks it has for the pane. -/
theorem receive_keepsNewer (settled : ledger.Settled) (capped : ledger.Capped)
    {swept : AttentionLedger} (done : ledger.receive epoch receipt nowMs = some next)
    (sweeps : ledger.sweep nowMs = some (swept, delta))
    (held : swept.panes.lookup id = some pane) :
    ∃ read, next.panes.lookup id = some read ∧ ∀ event ∈ pane.unread,
      (∀ watermark ∈ accepted receipt.panes id pane, watermark < event.seq) →
      event ∈ read.unread := by
  obtain ⟨expired, expiry, sweptPanes, -⟩ := sweep_eq capped sweeps
  obtain ⟨-, -, panes, -⟩ := receive_eq capped done
  have left : ledger.paneAt nowMs id = some pane := by
    rw [paneAt, ← (expireInto_eq expiry).2.1, ← sweptPanes, held]
  refine ⟨_, (panes id).trans (congrArg (Option.map _) left), fun event mem newer => ?_⟩
  have paneSettled := paneAt_settled settled left
  dsimp only
  rw [PaneAttention.readAll_eq paneSettled nowMs fun _ => accepted_le]
  cases max : (accepted (receipt.current ledger epoch).panes id pane).max? with
  | none => exact mem
  | some highest =>
    have below : highest < event.seq := by
      have listed := max?_mem max
      rw [Receipt.current] at listed
      split at listed
      · exact nomatch listed
      · exact newer highest listed
    exact PaneAttention.markRead_keepsNewer paneSettled.ordered nowMs mem below

theorem Marking.mark_rejected {Entry : Type} (marking : Marking Entry)
    (target : String → AttentionTarget) (mark : Entry → Option (Entry × Bool)) (id : String) :
    ∃ status, (marking.mark target mark id).results = marking.results ++ [⟨target id, status⟩] ∧
      (status ≠ .applied → (marking.mark target mark id).entries = marking.entries) := by
  unfold Marking.mark
  dsimp only
  split
  · exact ⟨_, rfl, fun _ => rfl⟩
  · split
    · exact ⟨_, rfl, fun _ => rfl⟩
    · exact ⟨_, rfl, fun rejected => absurd rfl rejected⟩

theorem foldl_rejected {Entry Target : Type} (mark : Marking Entry → Target → Marking Entry)
    (rejects : ∀ marking target, ∃ result, (mark marking target).results =
      marking.results ++ [result] ∧
      (result.status ≠ .applied → (mark marking target).entries = marking.entries))
    (targets : List Target) (marking : Marking Entry) :
    ∃ added, (targets.foldl mark marking).results = marking.results ++ added ∧
      ((∀ result ∈ added, result.status ≠ .applied) →
        (targets.foldl mark marking).entries = marking.entries) := by
  induction targets generalizing marking with
  | nil => exact ⟨[], (append_nil _).symm, fun _ => rfl⟩
  | cons target rest ih =>
    obtain ⟨result, results, same⟩ := rejects marking target
    obtain ⟨added, later, restSame⟩ := ih (mark marking target)
    refine ⟨result :: added, ?_, fun rejected => ?_⟩
    · rw [foldl_cons, later, results, append_assoc]
      rfl
    · rw [foldl_cons, restSame fun other mem => rejected other
        (mem_cons_of_mem _ mem), same (rejected result mem_cons_self)]

theorem marked_rejected (ledger : AttentionLedger) (panes : List (String × Nat))
    (notifs : List String) (nowMs : Nat)
    (rejected : ∀ result ∈ (panes.foldl (markPane nowMs) ⟨ledger.panes, false, [], []⟩).results ++
      (notifs.foldl (markNotif nowMs) ⟨ledger.notifs, false, [], []⟩).results,
      result.status ≠ .applied) :
    (ledger.marked panes notifs nowMs).panes = ledger.panes ∧
      (ledger.marked panes notifs nowMs).notifs = ledger.notifs := by
  obtain ⟨addedPanes, paneResults, panesSame⟩ := foldl_rejected (markPane nowMs)
    (fun marking target => by
      obtain ⟨status, results, same⟩ := marking.mark_rejected .pane _ target.1
      exact ⟨_, results, same⟩) panes ⟨ledger.panes, false, [], []⟩
  obtain ⟨addedNotifs, notifResults, notifsSame⟩ := foldl_rejected (markNotif nowMs)
    (fun marking target => by
      obtain ⟨status, results, same⟩ := marking.mark_rejected .notif _ target
      exact ⟨_, results, same⟩) notifs ⟨ledger.notifs, false, [], []⟩
  rw [paneResults, notifResults] at rejected
  exact ⟨panesSame fun result mem => rejected result (mem_append_left _ mem),
    notifsSame fun result mem => rejected result (mem_append_right _ mem)⟩

/-- A request whose targets are all rejected is a sweep. -/
theorem markRead_rejected (capped : ledger.Capped) {panes : List (String × Nat)}
    {notifs : List String} {sweepDelta : Option StateDelta} {results : List TargetResult}
    {appliedAt : Option Nat} {swept : AttentionLedger}
    (done : ledger.markRead epoch panes notifs nowMs = some (next, delta, results, appliedAt))
    (rejected : ∀ result ∈ results, result.status ≠ .applied)
    (sweeps : ledger.sweep nowMs = some (swept, sweepDelta)) :
    next.panes = swept.panes ∧ next.notifs = swept.notifs := by
  obtain ⟨expired, expiry, sweptPanes, sweptNotifs⟩ := sweep_eq capped sweeps
  have expiredCapped := expireInto_capped capped expiry
  rw [sweptPanes, sweptNotifs]
  obtain ⟨again, againExpiry, done⟩ := Option.bind_eq_some_iff.mp done
  cases expiry.symm.trans againExpiry
  dsimp only at done
  split at done
  · obtain ⟨after, caps, done⟩ := Option.bind_eq_some_iff.mp done
    obtain ⟨⟨finished, finishedDelta⟩, finish, equal⟩ := Option.bind_eq_some_iff.mp done
    cases equal
    rw [enforceIdentityCaps_within ⟨expired.ledger, _, _⟩ expiredCapped] at caps
    cases caps
    obtain ⟨revision, rfl⟩ := finishDelta_eq finish
    exact ⟨rfl, rfl⟩
  · obtain ⟨paneDeltas, -, done⟩ := Option.bind_eq_some_iff.mp done
    obtain ⟨notifDeltas, -, done⟩ := Option.bind_eq_some_iff.mp done
    obtain ⟨after, caps, done⟩ := Option.bind_eq_some_iff.mp done
    obtain ⟨⟨finished, finishedDelta⟩, finish, equal⟩ := Option.bind_eq_some_iff.mp done
    obtain ⟨rfl, rest⟩ := Prod.mk.inj (Option.some.inj equal)
    obtain ⟨-, rest⟩ := Prod.mk.inj rest
    cases rest
    have within := marked_capped expiredCapped panes notifs nowMs
    rw [enforceIdentityCaps_within _ within] at caps
    cases caps
    obtain ⟨revision, rfl⟩ := finishDelta_eq finish
    exact marked_rejected expired.ledger panes notifs nowMs rejected

theorem current_eq (ledger : AttentionLedger) (epoch : String) :
    (∀ receipt : Receipt, receipt.current ledger epoch = ⟨[], []⟩) ∨
      ∀ receipt : Receipt, receipt.current ledger epoch = receipt := by
  by_cases stale : epoch ≠ ledger.epoch
  · exact Or.inl fun receipt => if_pos stale
  · exact Or.inr fun receipt => if_neg stale

section

variable (settled : ledger.Settled) (capped : ledger.Capped) (unshielded : ledger.Unshielded nowMs)
include settled capped unshielded

theorem receive_commute {firstSecond afterSecond secondFirst : AttentionLedger}
    (firstDone : ledger.receive epoch first nowMs = some afterFirst)
    (secondAfter : afterFirst.receive epoch second nowMs = some firstSecond)
    (secondDone : ledger.receive epoch second nowMs = some afterSecond)
    (firstAfter : afterSecond.receive epoch first nowMs = some secondFirst) :
    SameEntries firstSecond secondFirst := by
  obtain ⟨leftPanes, leftNotifs⟩ := receive_twice capped unshielded firstDone secondAfter
  obtain ⟨rightPanes, rightNotifs⟩ := receive_twice capped unshielded secondDone firstAfter
  refine sameEntries_of_reads settled leftPanes rightPanes leftNotifs rightNotifs
    (fun id pane _ => sameBounds_of_mem fun watermark => ?_) fun id => ?_
  · rw [accepted_append, accepted_append, mem_append, mem_append, or_comm]
  · rw [mem_append, mem_append, or_comm]

theorem receive_idempotent {once twice : AttentionLedger}
    (onceDone : ledger.receive epoch receipt nowMs = some once)
    (twiceDone : once.receive epoch receipt nowMs = some twice) : SameEntries once twice := by
  obtain ⟨-, -, leftPanes, leftNotifs⟩ := receive_eq capped onceDone
  obtain ⟨rightPanes, rightNotifs⟩ := receive_twice capped unshielded onceDone twiceDone
  refine sameEntries_of_reads settled leftPanes rightPanes leftNotifs rightNotifs
    (fun id pane _ => sameBounds_of_mem fun watermark => ?_) fun id => ?_
  · rw [accepted_append, mem_append, or_self]
  · rw [mem_append, or_self]

/-- Two receipts on an unshielded ledger are one with the highest watermarks that they have. -/
theorem receive_join {firstSecond joined : AttentionLedger}
    (firstDone : ledger.receive epoch first nowMs = some afterFirst)
    (secondAfter : afterFirst.receive epoch second nowMs = some firstSecond)
    (joinDone : ledger.receive epoch (first.join ledger second) nowMs = some joined) :
    SameEntries firstSecond joined := by
  obtain ⟨leftPanes, leftNotifs⟩ := receive_twice capped unshielded firstDone secondAfter
  obtain ⟨-, -, rightPanes, rightNotifs⟩ := receive_eq capped joinDone
  rcases current_eq ledger epoch with stale | current
  · rw [stale, stale] at leftPanes leftNotifs
    rw [stale] at rightPanes rightNotifs
    exact sameEntries_of_reads settled leftPanes rightPanes leftNotifs rightNotifs
      (fun _ _ _ => sameBounds_of_mem fun _ => Iff.rfl) fun _ => Iff.rfl
  · rw [current, current] at leftPanes leftNotifs
    rw [current] at rightPanes rightNotifs
    refine sameEntries_of_reads settled leftPanes rightPanes leftNotifs rightNotifs
      (fun id pane left => ?_) fun id => mem_dedup.symm
    obtain ⟨old, held, rfl, -⟩ := paneAt_eq_some left
    have members := accepted_join first second held
      (PaneAttention.expire_ordered nowMs (settled.panes id old held).1.ordered).2
    refine ⟨fun bound => ⟨fun bounded watermark mem => ?_, fun bounded watermark mem => ?_⟩, ?_⟩
    · exact bounded watermark (max?_mem ((members watermark).mp mem))
    · cases max : (accepted (first.panes ++ second.panes) id (old.expire nowMs).1).max? with
      | none => exact nomatch max?_eq_none_iff.mp max ▸ mem
      | some highest =>
        exact Nat.le_trans ((max?_le_iff max).mp (Nat.le_refl _) watermark mem)
          (bounded highest ((members highest).mpr max))
    · rw [← max?_eq_none_iff, Option.eq_none_iff_forall_ne_some, eq_nil_iff_forall_not_mem]
      exact forall_congr' fun watermark => not_congr (members watermark).symm

theorem receiptLaws_of_unshielded : ReceiptLaws ledger nowMs where
  commute _ _ _ _ _ _ _ := receive_commute settled capped unshielded
  idempotent _ _ _ _ := receive_idempotent settled capped unshielded
  join _ _ _ _ _ _ := receive_join settled capped unshielded
  keepsNewer _ _ _ _ _ done sweeps _ _ := receive_keepsNewer settled capped done sweeps
  rejected _ _ _ _ _ _ _ _ _ := markRead_rejected capped

end

/-! ### A shielded event -/

theorem AttentionLedger.Settled.ordered (settled : ledger.Settled) : ledger.Ordered :=
  ⟨settled.started, fun id pane held => by
    obtain ⟨paneSettled, issued⟩ := settled.panes id pane held
    exact ⟨paneSettled.ordered, issued⟩⟩

theorem receive_total (settled : ledger.Settled) (below : ledger.revision < counterMax)
    (epoch : String) (receipt : Receipt) (nowMs : Nat) :
    ∃ next, ledger.receive epoch receipt nowMs = some next ∧ next.Settled ∧
      next.revision ≤ ledger.revision + 1 := by
  obtain ⟨⟨next, delta, results, appliedAt⟩, done⟩ :=
    markRead_total settled.ordered below epoch receipt.panes receipt.notifs nowMs
  refine ⟨next, congrArg (Option.map _) done,
    (completes_settled settled rfl (markRead_completes done)).1, ?_⟩
  have advances := markRead_advances settled.ordered done
  cases delta with
  | none => exact Nat.le_succ_of_le (Nat.le_of_eq (congrArg View.revision (advances.silent rfl)))
  | some delta =>
    obtain ⟨-, revision, applied⟩ := advances.delta delta rfl
    exact Nat.le_of_eq ((congrArg View.revision applied).trans revision)

theorem pairwise_of_live
    (live : ∀ event ∈ unread.dropWhile (fun event => isExpired event.occurredAt unreadTtl nowMs),
      isExpired event.occurredAt unreadTtl nowMs = false) :
    unread.Pairwise fun earlier later =>
      isExpired later.occurredAt unreadTtl nowMs → isExpired earlier.occurredAt unreadTtl nowMs := by
  induction unread with
  | nil => exact Pairwise.nil
  | cons head rest ih =>
    rw [dropWhile_cons] at live
    split at live
    next expired =>
      exact pairwise_cons.mpr ⟨fun _ _ _ => expired, ih live⟩
    · have restLive (event : UnreadEvent) (mem : event ∈ rest) :=
        live event (mem_cons_of_mem head mem)
      refine pairwise_cons.mpr ⟨fun event mem expired => ?_, ih
        fun event mem => restLive event ((dropWhile_suffix _).subset mem)⟩
      rw [restLive event mem] at expired
      exact nomatch expired

theorem PaneAttention.markRead_unread_sublist (pane : PaneAttention) (throughSeq nowMs : Nat) :
    (pane.markRead throughSeq nowMs).1.unread.Sublist pane.unread := by
  have suffix := dropWhile_suffix
    (fun event : UnreadEvent => decide (event.seq ≤ max pane.readThroughSeq throughSeq))
    (l := pane.unread)
  unfold markRead
  dsimp only
  split
  · exact suffix.sublist
  · exact suffix.sublist

theorem PaneAttention.readAll_unread_sublist (pane : PaneAttention) (nowMs : Nat)
    (watermarks : List Nat) : (pane.readAll nowMs watermarks).unread.Sublist pane.unread := by
  induction watermarks generalizing pane with
  | nil => exact Sublist.refl _
  | cons watermark rest ih =>
    exact (ih _).trans (pane.markRead_unread_sublist watermark nowMs)

theorem exposed_expires (ascending : unread.Pairwise fun left right => left.seq < right.seq)
    {event : UnreadEvent} (least : ∀ other ∈ unread, event.seq ≤ other.seq)
    (expired : isExpired event.occurredAt unreadTtl nowMs = true) :
    event ∉ unread.dropWhile fun event => isExpired event.occurredAt unreadTtl nowMs := by
  cases unread with
  | nil => exact not_mem_nil
  | cons head rest =>
    obtain ⟨first, later⟩ := pairwise_cons.mp ascending
    have absent : event ∉ rest := fun tail =>
      Nat.not_lt_of_le (least head mem_cons_self) (first event tail)
    intro mem
    rcases mem_cons.mp ((dropWhile_suffix _).subset mem) with rfl | tail
    · rw [dropWhile_cons, if_pos expired] at mem
      exact absent ((dropWhile_suffix _).subset mem)
    · exact absent tail

/-- When receipts are idempotent, no expired event stands behind a live one: a receipt would expose
it to the next. -/
theorem unshielded_of_idempotent (settled : ledger.Settled) (capped : ledger.Capped)
    (room : ledger.revision + 2 ≤ counterMax)
    (idempotent : ∀ epoch receipt once twice, ledger.receive epoch receipt nowMs = some once →
      once.receive epoch receipt nowMs = some twice → SameEntries once twice) :
    ledger.Unshielded nowMs := by
  intro id old held
  refine pairwise_of_live fun event mem => Bool.eq_false_of_not_eq_true fun expired => ?_
  rw [← PaneAttention.expire_unread] at mem
  have oldSettled := (settled.panes id old held).1
  obtain ⟨paneSettled, -⟩ := PaneAttention.expire_settled nowMs oldSettled
  generalize expiry : (old.expire nowMs).1 = pane at mem paneSettled
  have left : ledger.paneAt nowMs id = some pane := by
    rw [paneAt, held, Option.map_some, expiry, Option.filter_some, if_pos]
    rw [PaneAttention.collect, isEmpty_eq_false_iff.mpr (ne_nil_of_mem mem)]
    rfl
  have positive : event.seq - 1 < event.seq :=
    Nat.sub_lt (Nat.zero_lt_of_lt (paneSettled.ordered.above event mem)) Nat.one_pos
  have valid : event.seq - 1 ≤ pane.latestEventSeq :=
    Nat.le_trans (Nat.le_of_lt positive) (paneSettled.ordered.below event mem)
  let receipt : Receipt := ⟨[(id, event.seq - 1)], []⟩
  obtain ⟨once, onceDone, onceSettled, onceRevision⟩ :=
    receive_total settled (by omega) ledger.epoch receipt nowMs
  obtain ⟨twice, twiceDone, -⟩ :=
    receive_total onceSettled (by omega) ledger.epoch receipt nowMs
  obtain ⟨-, onceCapped, oncePanes, -⟩ := receive_eq capped onceDone
  obtain ⟨-, -, twicePanes, -⟩ := receive_eq onceCapped twiceDone
  have reads : accepted (receipt.current ledger ledger.epoch).panes id pane = [event.seq - 1] := by
    rw [Receipt.current, if_neg (fun stale => stale rfl)]
    show ([(id, event.seq - 1)].filter _).map Prod.snd = _
    rw [filter_cons, if_pos (decide_eq_true ⟨rfl, valid⟩)]
    rfl
  have readPane : once.panes.lookup id = some (pane.markRead (event.seq - 1) nowMs).1 := by
    rw [oncePanes, left, Option.map_some, reads]
    rfl
  have same := (idempotent _ _ _ _ onceDone twiceDone).1 id
  rw [readPane] at same
  obtain ⟨again, againLeft, equal⟩ := Option.map_eq_some_iff.mp ((twicePanes id).symm.trans same.symm)
  obtain ⟨found, foundPresent, rfl, -⟩ := paneAt_eq_some againLeft
  cases readPane.symm.trans foundPresent
  have exposed : event ∈ (pane.markRead (event.seq - 1) nowMs).1.unread :=
    PaneAttention.markRead_keepsNewer paneSettled.ordered nowMs mem positive
  have readOrdered := (PaneAttention.markRead_ordered nowMs paneSettled.ordered valid).1
  refine exposed_expires readOrdered.ascending (fun other listed => ?_) expired ?_
  · exact Nat.le_of_pred_lt (PaneAttention.markRead_above paneSettled.ordered listed)
  · rw [← PaneAttention.expire_unread]
    rw [← equal] at exposed
    exact (PaneAttention.readAll_unread_sublist _ nowMs _).subset exposed

/-- At every ledger that calls lead to: receipts form a join if no expired event stands behind a
live one, and (if the revisions are not about to run out) only then. -/
theorem receipts_join_iff {epoch : String} {calls : List LedgerCall} {stream : List StateDelta}
    (reached : Fallible.run streamCall (.withEpoch epoch, []) calls = some (ledger, stream))
    (nowMs : Nat) :
    (ledger.Unshielded nowMs → ReceiptLaws ledger nowMs) ∧
      (ledger.revision + 2 ≤ counterMax → ReceiptLaws ledger nowMs → ledger.Unshielded nowMs) := by
  obtain ⟨settled, capped⟩ := run_settled reached
  exact ⟨receiptLaws_of_unshielded settled capped, fun room laws =>
    unshielded_of_idempotent settled capped room laws.idempotent⟩

/-- The calls of a session whose clock is set back by a tenth of a second between two events. -/
def clockSetBack : List LedgerCall :=
  [.recordPaneEvent "p" 100 .warning 100, .recordPaneEvent "p" 0 .info 0]

def shieldedPane : PaneAttention := ⟨0, 2, [⟨1, 100, .warning⟩, ⟨2, 0, .info⟩], none⟩

def shieldedLedger : AttentionLedger where
  epoch := "e"
  nextEventSeq := 3
  nextDedupGeneration := 1
  revision := 2
  panes := AList.singleton "p" shieldedPane
  notifs := ∅
  dedup := ∅

/-- Receipts join while both events are live. -/
theorem receipts_join_iff_live : ReceiptLaws shieldedLedger 200 := by
  have reached : Fallible.run streamCall (.withEpoch "e", []) clockSetBack =
      some (shieldedLedger, [_, _]) := rfl
  refine (receipts_join_iff reached 200).1 fun id pane present => ?_
  have inserted := (KeyMap.lookup_insert ∅ "p" shieldedPane id).symm.trans present
  split at inserted
  · cases inserted
    decide +kernel
  · exact nomatch inserted

/-- When the second event has expired behind the first, reading the first exposes it, and receipts
form no join. -/
theorem shielded_receipt_repeats :
    ¬ ∀ (epoch : String) (calls : List LedgerCall) (ledger : AttentionLedger)
      (stream : List StateDelta) (nowMs : Nat),
      Fallible.run streamCall (.withEpoch epoch, []) calls = some (ledger, stream) →
      ReceiptLaws ledger nowMs := by
  intro always
  have reached : Fallible.run streamCall (.withEpoch "e", []) clockSetBack =
      some (shieldedLedger, [_, _]) := rfl
  have laws := always _ _ _ _ (unreadTtl + 50) reached
  have differ : ((shieldedLedger.receive "e" ⟨[("p", 1)], []⟩ (unreadTtl + 50)).bind fun once =>
      (once.receive "e" ⟨[("p", 1)], []⟩ (unreadTtl + 50)).map fun twice =>
        decide (once.panes.lookup "p" = twice.panes.lookup "p")) = some false := by
    decide +kernel
  obtain ⟨once, onceDone, later⟩ := Option.bind_eq_some_iff.mp differ
  obtain ⟨twice, twiceDone, different⟩ := Option.map_eq_some_iff.mp later
  exact of_decide_eq_false different ((laws.idempotent _ _ _ _ onceDone twiceDone).1 "p")

end Dinotty.Attention
