/-
This file proves that the change logs of a ledger operation track what it does to one map. A pane is
only reported when its unread events, its watermark or its head have moved, so a silent request is
silent because unread sequence numbers lie above the watermark.
-/

import Dinotty.Attention.Eviction
import Dinotty.Attention.Reducer

namespace Dinotty.Attention

open ChangeLog List Option KeyMap

/-! ### Logs of one map -/

section Entries

variable {Entry Delta State : Type}

def projection (state : Entry → State) (entries : KeyMap String Entry) : String → Option State :=
  fun id => (entries.lookup id).map state

/-- The reports of a map say what a client sees of its entries. -/
structure Reports.Shows (reports : Reports Entry Delta)
    (apply : Delta → Option State → Option State) (state : Entry → State) : Prop where
  id_delta : ∀ id entry, reports.id (reports.delta id entry) = id
  id_removed : ∀ id, reports.id (reports.removed id) = id
  apply_delta : ∀ id entry previous, apply (reports.delta id entry) previous = some (state entry)
  apply_removed : ∀ id previous, apply (reports.removed id) previous = none

variable {reports : Reports Entry Delta} {apply : Delta → Option State → Option State}
  {state : Entry → State} (shows : reports.Shows apply state)

theorem projection_of_some {entries : KeyMap String Entry} {id : String} {entry : Entry}
    (held : entries.lookup id = some entry) :
    projection state entries id = some (state entry) := by
  rw [projection, held]
  rfl

include shows in
theorem reportCurrent_written {entries : KeyMap String Entry} {ids : List String}
    {deltas next : List Delta} (done : reportCurrent reports entries ids deltas = some next) :
    ∃ written, next = upsertAll reports.id deltas written ∧ written.map reports.id = ids ∧
      ∀ delta ∈ written, ∀ prev,
        apply delta prev = projection state entries (reports.id delta) := by
  induction ids generalizing deltas with
  | nil =>
    cases done
    exact ⟨[], rfl, rfl, nofun⟩
  | cons id rest ih =>
    rw [reportCurrent, foldlM_cons] at done
    obtain ⟨middle, reported, later⟩ := bind_eq_some_iff.mp done
    obtain ⟨entry, held, rfl⟩ := map_eq_some_iff.mp reported
    obtain ⟨written, rfl, rfl, holds⟩ := ih later
    refine ⟨reports.delta id entry :: written, rfl, ?_, fun delta mem prev => ?_⟩
    · rw [map_cons, shows.id_delta]
    · rcases mem_cons.mp mem with rfl | tail
      · rw [shows.apply_delta, shows.id_delta, projection_of_some held]
      · exact holds delta tail prev

theorem reportRemoved_written (ids : List String) (deltas : List Delta) :
    reportRemoved reports ids deltas = upsertAll reports.id deltas (ids.map reports.removed) := by
  rw [reportRemoved, upsertAll, foldl_map]

theorem upsertAll_append (deltas first second : List Delta) :
    upsertAll reports.id deltas (first ++ second) =
      upsertAll reports.id (upsertAll reports.id deltas first) second := foldl_append

include shows in
/-- The log of an expiry tracks what the expiry does, if an entry it does not count as changed
looks the same. -/
theorem expireEntries_tracks {expire : Entry → Entry × Bool} {collect : Entry → Bool}
    (silent : ∀ entry, (expire entry).2 = false → state (expire entry).1 = state entry)
    {entries next : KeyMap String Entry} {deltas : List Delta}
    (done : expireEntries reports expire collect entries = some (next, deltas)) :
    Tracks reports.id apply (projection state entries) (projection state next) deltas := by
  obtain ⟨cur, reported, equal⟩ := bind_eq_some_iff.mp done
  cases equal
  obtain ⟨written, rfl, ids, holds⟩ := reportCurrent_written shows reported
  rw [reportRemoved_written, ← upsertAll_append]
  refine (tracks_nil _).extend (fun delta mem prev => ?_) fun id absent => ?_
  · rcases mem_append.mp mem with live | gone
    · exact holds delta live prev
    · obtain ⟨id, removed, rfl⟩ := mem_map.mp gone
      obtain ⟨entry, held, collected⟩ := mem_keysWhere.mp removed
      rw [shows.apply_removed, shows.id_removed, projection, lookup_retain, held,
        filter_some, if_neg (by rw [collected]; exact Bool.false_ne_true)]
      rfl
  · rw [map_append, mem_append, not_or, ids, List.map_map] at absent
    obtain ⟨same, unremoved⟩ := absent
    rw [projection, projection, lookup_retain, lookup_mapValues]
    cases held : entries.lookup id with
    | none => rfl
    | some entry =>
      have mapped : (mapValues (fun _ entry => (expire entry).1) entries).lookup id =
          some (expire entry).1 := by
        rw [lookup_mapValues, held]
        rfl
      have kept : collect (expire entry).1 = false := by
        refine Bool.of_not_eq_true fun collected => unremoved (mem_map.mpr ⟨id, ?_, ?_⟩)
        · exact mem_keysWhere.mpr ⟨_, mapped, collected⟩
        · exact shows.id_removed id
      have quiet : (expire entry).2 = false := by
        refine Bool.of_not_eq_true fun changed => same (mem_filter.mpr ⟨?_, ?_⟩)
        · exact mem_keysWhere.mpr ⟨entry, held, changed⟩
        · refine decide_eq_true (AList.lookup_isSome.mp ?_)
          rw [lookup_retain, mapped, filter_some, kept]
          rfl
      rw [map_some, filter_some, if_pos (by rw [kept]; rfl), map_some, map_some, silent entry quiet]

include shows in
theorem enforceCap_tracks {victim : KeyMap String Entry → Option String}
    {before : String → Option State} {fuel : Nat} {entries next : KeyMap String Entry}
    {deltas final : List Delta}
    (tracks : Tracks reports.id apply before (projection state entries) deltas)
    (done : enforceCap reports victim fuel entries deltas = some (next, final)) :
    Tracks reports.id apply before (projection state next) final := by
  refine (enforceCap_kept
    (fun map log => Tracks reports.id apply before (projection state map) log)
    (fun map log id _ _ tracks => ?_) tracks done).1
  have gone : projection state (map.erase id) id = none := by
    rw [projection, lookup_erase, if_pos rfl]
    rfl
  refine tracks.write (fun prev => ?_) fun other ne => ?_
  · rw [shows.apply_removed, shows.id_removed, gone]
  · rw [shows.id_removed] at ne
    rw [projection, projection, lookup_erase, if_neg ne]

/-! ### What the loops leave in a map -/

theorem expireEntries_lookup {expire : Entry → Entry × Bool} {collect : Entry → Bool}
    {entries next : KeyMap String Entry} {deltas : List Delta}
    (done : expireEntries reports expire collect entries = some (next, deltas)) {id : String}
    {entry : Entry} (held : next.lookup id = some entry) :
    ∃ old, entries.lookup id = some old ∧ entry = (expire old).1 := by
  obtain ⟨cur, -, equal⟩ := bind_eq_some_iff.mp done
  cases equal
  rw [lookup_retain, lookup_mapValues, filter_eq_some_iff] at held
  obtain ⟨old, found, rfl⟩ := map_eq_some_iff.mp held.1
  exact ⟨old, found, rfl⟩

/-! ### Marking targets -/

/-- While targets are marked, an identity that is not listed as changed looks as it did, and one
that is listed is there. -/
structure Marking.Quiet (state : Entry → State) (start : KeyMap String Entry)
    (marking : Marking Entry) : Prop where
  unchanged : ∀ id, id ∉ marking.changed →
    projection state marking.entries id = projection state start id
  listed : ∀ id ∈ marking.changed, (marking.entries.lookup id).isSome

theorem Marking.Quiet.mark {start : KeyMap String Entry} {marking : Marking Entry}
    (quiet : marking.Quiet state start) {target : String → AttentionTarget}
    {mark : Entry → Option (Entry × Bool)} {id : String}
    (silent : ∀ entry next, marking.entries.lookup id = some entry →
      mark entry = some (next, false) → state next = state entry) :
    (marking.mark target mark id).Quiet state start := by
  unfold Marking.mark
  dsimp only
  split
  · exact ⟨quiet.unchanged, quiet.listed⟩
  next entry held =>
    split
    · exact ⟨quiet.unchanged, quiet.listed⟩
    next next changed marked =>
      have ins (other : String) : projection state (marking.entries.insert id next) other =
          if other = id then some (state next) else projection state marking.entries other := by
        rw [projection, lookup_insert]
        split
        · rfl
        · rfl
      have stays (other : String) (there : (marking.entries.lookup other).isSome) :
          ((marking.entries.insert id next).lookup other).isSome := by
        rw [lookup_insert]
        split
        · rfl
        · exact there
      cases changed with
      | false =>
        refine ⟨fun other absent => ?_, fun other listed => stays other (quiet.listed other listed)⟩
        rw [ins, ← quiet.unchanged other absent]
        by_cases here : other = id
        · rw [if_pos here, here, projection_of_some held, silent entry next held marked]
        · rw [if_neg here]
      | true =>
        have listed (other : String) :
            other ∈ pushUnique marking.changed id ↔ other = id ∨ other ∈ marking.changed := by
          unfold pushUnique
          split
          next old =>
            exact ⟨Or.inr, fun either => either.elim (fun equal => equal ▸ old) fun mem => mem⟩
          · rw [mem_append, mem_singleton, or_comm]
        refine ⟨fun other absent => ?_, fun other mem => ?_⟩
        · rw [if_pos rfl, listed, not_or] at absent
          rw [ins, if_neg absent.1]
          exact quiet.unchanged other absent.2
        · rw [if_pos rfl, listed] at mem
          rcases mem with rfl | old
          · rw [lookup_insert, if_pos rfl]
            rfl
          · exact stays other (quiet.listed other old)

include shows in
theorem Marking.Quiet.tracks {start : KeyMap String Entry} {marking : Marking Entry}
    (quiet : marking.Quiet state start) {before : String → Option State} {deltas next : List Delta}
    (tracks : Tracks reports.id apply before (projection state start) deltas)
    (done : reportCurrent reports marking.entries marking.changed deltas = some next) :
    Tracks reports.id apply before (projection state marking.entries) next := by
  obtain ⟨written, rfl, ids, holds⟩ := reportCurrent_written shows done
  exact tracks.extend holds fun id absent => quiet.unchanged id (ids ▸ absent)

end Entries

/-! ### Panes -/

def PaneAttention.state (pane : PaneAttention) : PaneAttentionState :=
  ⟨pane.latestEventSeq, pane.readThroughSeq, pane.unread.head?.map UnreadEvent.occurredAt,
    maxSeverity pane.unread⟩

def NotifAttention.state (notif : NotifAttention) : NotifAttentionState := ⟨notif.read⟩

theorem paneReports_shows : paneReports.Shows PaneDelta.apply PaneAttention.state :=
  ⟨fun _ _ => rfl, fun _ => rfl, fun _ _ _ => rfl, fun _ _ => rfl⟩

theorem notifReports_shows : notifReports.Shows NotifDelta.apply NotifAttention.state :=
  ⟨fun _ _ => rfl, fun _ => rfl, fun _ _ _ => rfl, fun _ _ => rfl⟩

/-- The unread events of a pane ascend from its watermark to its latest event. -/
structure PaneAttention.Ordered (pane : PaneAttention) : Prop where
  ascending : pane.unread.Pairwise fun left right => left.seq < right.seq
  above : ∀ event ∈ pane.unread, pane.readThroughSeq < event.seq
  below : ∀ event ∈ pane.unread, event.seq ≤ pane.latestEventSeq
  watermark : pane.readThroughSeq ≤ pane.latestEventSeq

namespace PaneAttention

theorem expire_silent (nowMs : Nat) (pane : PaneAttention) (quiet : (pane.expire nowMs).2 = false) :
    (pane.expire nowMs).1.state = pane.state := by
  unfold expire at quiet ⊢
  dsimp only at quiet ⊢
  split at quiet
  · exact nomatch quiet
  · split at quiet
    · exact nomatch quiet
    next notEmptied notShorter =>
      have suffix := dropWhile_suffix
        (fun event : UnreadEvent => isExpired event.occurredAt unreadTtl nowMs) (l := pane.unread)
      have same := suffix.eq_of_length_le (Nat.le_of_not_lt notShorter)
      rw [if_neg notEmptied, if_neg notShorter, same]

theorem expire_ordered (nowMs : Nat) {pane : PaneAttention} (ordered : pane.Ordered) :
    (pane.expire nowMs).1.Ordered ∧ (pane.expire nowMs).1.latestEventSeq = pane.latestEventSeq := by
  have suffix := dropWhile_suffix
    (fun event : UnreadEvent => isExpired event.occurredAt unreadTtl nowMs) (l := pane.unread)
  have kept (unread : List UnreadEvent) (suffix : unread <:+ pane.unread) :
      { pane with unread }.Ordered :=
    ⟨ordered.ascending.sublist suffix.sublist, fun event mem =>
      ordered.above event (suffix.subset mem), fun event mem =>
      ordered.below event (suffix.subset mem), ordered.watermark⟩
  unfold expire
  dsimp only
  split
  next emptied =>
    rw [emptied.2]
    exact ⟨⟨Pairwise.nil, nofun, nofun, Nat.le_refl _⟩, rfl⟩
  · split
    · exact ⟨kept _ suffix, rfl⟩
    · exact ⟨kept _ suffix, rfl⟩

theorem above_of_dropWhile {unread : List UnreadEvent} {watermark : Nat}
    (ascending : unread.Pairwise fun left right => left.seq < right.seq) :
    ∀ event ∈ unread.dropWhile fun event => event.seq ≤ watermark, watermark < event.seq := by
  induction unread with
  | nil => exact nofun
  | cons head rest ih =>
    obtain ⟨first, later⟩ := pairwise_cons.mp ascending
    intro event mem
    rw [dropWhile_cons] at mem
    by_cases read : head.seq ≤ watermark
    · rw [if_pos (decide_eq_true read)] at mem
      exact ih later event mem
    · rw [if_neg (by rw [decide_eq_true_eq]; exact read)] at mem
      rcases mem_cons.mp mem with rfl | tail
      · exact Nat.lt_of_not_le read
      · exact Nat.lt_trans (Nat.lt_of_not_le read) (first event tail)

theorem markRead_silent (throughSeq nowMs : Nat) {pane : PaneAttention} (ordered : pane.Ordered)
    (quiet : (pane.markRead throughSeq nowMs).2 = false) :
    (pane.markRead throughSeq nowMs).1.state = pane.state := by
  unfold markRead at quiet ⊢
  dsimp only at quiet ⊢
  split at quiet
  · exact nomatch quiet
  next notEmptied =>
    have same : max pane.readThroughSeq throughSeq = pane.readThroughSeq :=
      Decidable.of_not_not (of_decide_eq_false quiet)
    rw [if_neg notEmptied, same]
    have nothing : (pane.unread.dropWhile fun event => event.seq ≤ pane.readThroughSeq) =
        pane.unread := by
      cases equal : pane.unread with
      | nil => rfl
      | cons head rest =>
        have unread := ordered.above head (equal ▸ mem_cons_self)
        rw [dropWhile_cons, if_neg (by rw [decide_eq_true_eq]; exact Nat.not_le_of_lt unread)]
    rw [nothing]

theorem markRead_ordered {throughSeq : Nat} (nowMs : Nat) {pane : PaneAttention}
    (ordered : pane.Ordered) (valid : throughSeq ≤ pane.latestEventSeq) :
    (pane.markRead throughSeq nowMs).1.Ordered ∧
      (pane.markRead throughSeq nowMs).1.latestEventSeq = pane.latestEventSeq := by
  have suffix := dropWhile_suffix
    (fun event : UnreadEvent => decide (event.seq ≤ max pane.readThroughSeq throughSeq))
    (l := pane.unread)
  unfold markRead
  dsimp only
  split
  next emptied =>
    rw [emptied.2]
    exact ⟨⟨Pairwise.nil, nofun, nofun, Nat.le_refl _⟩, rfl⟩
  · exact ⟨⟨ordered.ascending.sublist suffix.sublist, above_of_dropWhile ordered.ascending,
      fun event mem => ordered.below event (suffix.subset mem),
      Nat.max_le.mpr ⟨ordered.watermark, valid⟩⟩, rfl⟩

theorem push_ordered {pane : PaneAttention} (ordered : pane.Ordered) {event : UnreadEvent}
    (newer : pane.latestEventSeq < event.seq) : (pane.push event).Ordered := by
  have all : ∀ other ∈ pane.unread ++ [event],
      pane.readThroughSeq < other.seq ∧ other.seq ≤ event.seq := by
    intro other mem
    rcases mem_append.mp mem with old | new
    · exact ⟨ordered.above other old,
        Nat.le_of_lt (Nat.lt_of_le_of_lt (ordered.below other old) newer)⟩
    · obtain rfl := mem_singleton.mp new
      exact ⟨Nat.lt_of_le_of_lt ordered.watermark newer, Nat.le_refl _⟩
  have ascending : (pane.unread ++ [event]).Pairwise fun left right => left.seq < right.seq := by
    refine pairwise_append.mpr ⟨ordered.ascending, pairwise_singleton _ _, ?_⟩
    intro other old last new
    obtain rfl := mem_singleton.mp new
    exact Nat.lt_of_le_of_lt (ordered.below other old) newer
  have dropped := drop_sublist ((pane.unread ++ [event]).length - unreadCap)
    (pane.unread ++ [event])
  exact ⟨ascending.sublist dropped, fun other mem => (all other (dropped.subset mem)).1,
    fun other mem => (all other (dropped.subset mem)).2,
    Nat.le_of_lt (Nat.lt_of_le_of_lt ordered.watermark newer)⟩

end PaneAttention

end Dinotty.Attention
