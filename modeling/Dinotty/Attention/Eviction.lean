/-
This file proves what an eviction takes: a fully-read identity while there is one, and among those
of its kind the one with the oldest activity.
-/

import Dinotty.Attention.Ledger

namespace Dinotty.Attention

open List Option KeyMap

variable {Entry Delta : Type}

/-! ### The least candidate -/

/-- The age, the sequence number and the identity of a candidate, which are compared in turn. -/
def victimKey (candidate : Nat × Nat × String) : Nat ×ₗ Nat ×ₗ String :=
  toLex (candidate.1, toLex candidate.2)

theorem victimLess_eq (left right : Nat × Nat × String) :
    victimLess left right = decide (victimKey left < victimKey right) := by
  unfold victimLess victimKey
  simp only [Prod.Lex.toLex_lt_toLex]

theorem minBy_least {items : List (Nat × Nat × String)} (nonempty : items ≠ []) :
    ∃ least ∈ items, minBy victimLess items = some least ∧
      ∀ item ∈ items, victimKey least ≤ victimKey item := by
  cases items with
  | nil => exact absurd rfl nonempty
  | cons first rest =>
    refine ⟨_, ?_, rfl, ?_⟩
    · clear nonempty
      induction rest generalizing first with
      | nil => exact mem_singleton.mpr rfl
      | cons second later ih =>
        rw [foldl_cons]
        split
        · exact mem_cons_of_mem _ (ih second)
        · exact cons_subset_cons first (subset_cons_self second later)
            (ih first)
    · clear nonempty
      induction rest generalizing first with
      | nil => exact fun item mem => le_of_eq (mem_singleton.mp mem ▸ rfl)
      | cons second later ih =>
        rw [foldl_cons, victimLess_eq]
        split
        next less =>
          have below := ih second
          refine forall_mem_cons.mpr ⟨?_, below⟩
          exact le_of_lt (lt_of_le_of_lt (below _ mem_cons_self) (of_decide_eq_true less))
        next notLess =>
          obtain ⟨least, below⟩ := forall_mem_cons.mp (ih first)
          have first_le : victimKey first ≤ victimKey second :=
            not_lt.mp fun less => notLess (decide_eq_true less)
          exact forall_mem_cons.mpr ⟨least, forall_mem_cons.mpr
            ⟨le_trans least first_le, below⟩⟩

theorem victimLess_of_newer {left right : Nat × Nat × String} (time : left.1 ≤ right.1)
    (newer : left.2.1 < right.2.1) : victimLess left right = true := by
  unfold victimLess
  rcases Nat.lt_or_eq_of_le time with older | same
  · exact decide_eq_true (.inl older)
  · exact decide_eq_true (.inr ⟨same, .inl newer⟩)

def ranked (activity : Entry → Nat × Nat) (entry : (_ : String) × Entry) : Nat × Nat × String :=
  ((activity entry.2).1, (activity entry.2).2, entry.1)

theorem leastId_spec {rank : Entry → Option (Nat × Nat)} {activity : Entry → Nat × Nat}
    {candidates : List ((_ : String) × Entry)} (nonempty : candidates ≠ [])
    (agrees : ∀ entry ∈ candidates, rank entry.2 = some (activity entry.2)) :
    ∃ entry ∈ candidates, leastId rank candidates = some entry.1 ∧
      ∀ other ∈ candidates, victimLess (ranked activity other) (ranked activity entry) = false := by
  have all : (candidates.mapM fun entry =>
      (rank entry.2).map fun ranks => (ranks.1, ranks.2, entry.1)) =
        some (candidates.map (ranked activity)) := by
    clear nonempty
    induction candidates with
    | nil => rfl
    | cons entry rest ih =>
      rw [mapM_cons, agrees entry mem_cons_self,
        ih fun other mem => agrees other (mem_cons_of_mem _ mem)]
      rfl
  obtain ⟨least, mem, chosen, below⟩ := minBy_least (mt map_eq_nil_iff.mp nonempty)
  obtain ⟨entry, isEntry, rfl⟩ := mem_map.mp mem
  refine ⟨entry, isEntry, ?_, fun other isOther => ?_⟩
  · unfold leastId
    rw [all, bind_eq_bind, bind_some, chosen]
    rfl
  · rw [victimLess_eq]
    exact decide_eq_false (not_lt_of_ge (below _ (mem_map_of_mem isOther)))

/-! ### What is evicted -/

/-- When a pane was last active, as evictions see it: when it was read, or when the oldest of its
unread events occurred. -/
@[grind =] def PaneAttention.activity (pane : PaneAttention) : Nat × Nat :=
  match pane.unread with
  | [] => (pane.readAt.getD 0, pane.latestEventSeq)
  | head :: _ => (head.occurredAt, head.seq)

def NotifAttention.activity (notif : NotifAttention) : Nat × Nat :=
  (if notif.read then notif.readAt.getD 0 else notif.occurredAt, notif.eventSeq)

def PaneAttention.retired (pane : PaneAttention) : Bool := pane.unread.isEmpty

/-- No identity goes before this one. -/
def IsVictim (retired : Entry → Bool) (activity : Entry → Nat × Nat)
    (entries : KeyMap String Entry) (id : String) : Prop :=
  ∃ entry, entries.lookup id = some entry ∧
    ∀ other otherEntry, entries.lookup other = some otherEntry →
      (retired otherEntry = true → retired entry = true) ∧
      (retired otherEntry = retired entry → (activity entry).1 ≤ (activity otherEntry).1 ∧
        victimLess (ranked activity ⟨other, otherEntry⟩) (ranked activity ⟨id, entry⟩) = false)

/-- The identities that are evicted one after another, each while there are more than the cap. -/
inductive Evicts (retired : Entry → Bool) (activity : Entry → Nat × Nat)
    (entries : KeyMap String Entry) : List String → KeyMap String Entry → Prop
  | done : Evicts retired activity entries [] entries
  | next {ids : List String} {left : KeyMap String Entry} {id : String}
      (earlier : Evicts retired activity entries ids left)
      (exceeds : identityCap < KeyMap.size left) (isVictim : IsVictim retired activity left id) :
      Evicts retired activity entries (ids ++ [id]) (left.erase id)

variable {retired : Entry → Bool} {activity : Entry → Nat × Nat} {entries : KeyMap String Entry}

theorem isVictim_of_least {id : String} {entry : Entry} (held : entries.lookup id = some entry)
    (first : ∀ other otherEntry, entries.lookup other = some otherEntry →
      retired otherEntry = true → retired entry = true)
    (least : ∀ other otherEntry, entries.lookup other = some otherEntry →
      retired otherEntry = retired entry →
      victimLess (ranked activity ⟨other, otherEntry⟩) (ranked activity ⟨id, entry⟩) = false) :
    IsVictim retired activity entries id := by
  refine ⟨entry, held, fun other otherEntry there => ⟨first other otherEntry there,
    fun same => ⟨?_, least other otherEntry there same⟩⟩⟩
  have order := least other otherEntry there same
  unfold victimLess ranked at order
  simp only [decide_eq_false_iff_not, not_or] at order
  exact Nat.le_of_not_lt order.1

/-- A nonempty map has a victim, if every retired entry and every other entry have their rank. -/
theorem victim_spec {retiredRank liveRank : Entry → Option (Nat × Nat)}
    (retiredRanked : ∀ entry, retired entry = true → retiredRank entry = some (activity entry))
    (liveRanked : ∀ entry, retired entry = false → liveRank entry = some (activity entry))
    (nonempty : entries.entries ≠ []) :
    ∃ id, victim retired retiredRank liveRank entries = some id ∧
      IsVictim retired activity entries id := by
  unfold victim
  split
  next someRetired =>
    obtain ⟨entry, mem, isRetired⟩ := any_eq_true.mp someRetired
    obtain ⟨chosen, chosenMember, done, least⟩ := leastId_spec
      (ne_nil_of_mem (mem_filter.mpr ⟨mem, isRetired⟩))
      fun other otherMember => retiredRanked other.2 (mem_filter.mp otherMember).2
    obtain ⟨inMap, chosenRetired⟩ := mem_filter.mp chosenMember
    refine ⟨chosen.1, done, isVictim_of_least (lookup_eq_some_iff.mpr inMap)
      (fun _ _ _ _ => chosenRetired) fun other otherEntry there same => ?_⟩
    exact least ⟨other, otherEntry⟩ (mem_filter.mpr
      ⟨lookup_eq_some_iff.mp there, same.trans chosenRetired⟩)
  next noneRetired =>
    have live (entry : (_ : String) × Entry) (mem : entry ∈ entries.entries) :
        retired entry.2 = false :=
      Bool.of_not_eq_true fun isRetired =>
        noneRetired (any_eq_true.mpr ⟨entry, mem, isRetired⟩)
    obtain ⟨chosen, chosenMember, done, least⟩ := leastId_spec nonempty
      fun entry mem => liveRanked entry.2 (live entry mem)
    refine ⟨chosen.1, done, isVictim_of_least (lookup_eq_some_iff.mpr chosenMember)
      (fun other otherEntry there isRetired => ?_) fun other otherEntry there _ =>
        least ⟨other, otherEntry⟩ (lookup_eq_some_iff.mp there)⟩
    exact absurd isRetired
      (Bool.eq_false_iff.mp (live ⟨other, otherEntry⟩ (lookup_eq_some_iff.mp there)))

theorem paneVictim_spec (entries : KeyMap String PaneAttention) (nonempty : entries.entries ≠ []) :
    ∃ id, paneVictim entries = some id ∧
      IsVictim PaneAttention.retired PaneAttention.activity entries id := by
  refine victim_spec (fun pane isRetired => ?_) (fun pane live => ?_) nonempty
  · rw [PaneAttention.activity, isEmpty_iff.mp isRetired]
  · cases equal : pane.unread with
    | nil =>
      rw [equal] at live
      exact nomatch live
    | cons head rest => simp only [PaneAttention.activity, equal, head?_cons, map_some]

theorem notifVictim_spec (entries : KeyMap String NotifAttention)
    (nonempty : entries.entries ≠ []) :
    ∃ id, notifVictim entries = some id ∧
      IsVictim NotifAttention.read NotifAttention.activity entries id := by
  refine victim_spec (fun notif isRead => ?_) (fun notif unread => ?_) nonempty
  · rw [NotifAttention.activity, if_pos isRead]
  · rw [NotifAttention.activity, unread]
    rfl

/-! ### Evictions -/

variable {reports : Reports Entry Delta} {victim : KeyMap String Entry → Option String}
  {fuel : Nat} {after : KeyMap String Entry} {deltas final : List Delta}

/-- What holds of a map and its log, and still does when a victim is evicted, holds at the end. -/
theorem enforceCap_kept (kept : KeyMap String Entry → List Delta → Prop)
    (evicts : ∀ entries deltas id, identityCap < size entries → victim entries = some id →
      kept entries deltas →
        kept (entries.erase id) (ChangeLog.upsert reports.id (reports.removed id) deltas))
    (start : kept entries deltas)
    (done : enforceCap reports victim fuel entries deltas = some (after, final)) :
    kept after final ∧ size after ≤ identityCap := by
  induction fuel generalizing entries deltas with
  | zero =>
    rw [enforceCap] at done
    split at done
    · exact nomatch done
    next within =>
      cases done
      exact ⟨start, Nat.le_of_not_lt within⟩
  | succ fuel ih =>
    rw [enforceCap] at done
    split at done
    next exceeds =>
      obtain ⟨id, chosen, later⟩ := bind_eq_some_iff.mp done
      exact ih (evicts entries deltas id exceeds chosen start) later
    next within =>
      cases done
      exact ⟨start, Nat.le_of_not_lt within⟩

theorem enforceCap_lookup
    (done : enforceCap reports victim fuel entries deltas = some (after, final)) {id : String}
    {entry : Entry} (held : after.lookup id = some entry) : entries.lookup id = some entry := by
  refine (enforceCap_kept (fun map _ => map.lookup id = some entry → entries.lookup id = some entry)
    (fun map _ evicted _ _ kept remains => kept ?_) (fun remains => remains) done).1 held
  exact (of_lookup_erase remains).2

theorem enforceCap_within (within : size entries ≤ identityCap) (fuel : Nat) (deltas : List Delta) :
    enforceCap reports victim fuel entries deltas = some (entries, deltas) := by
  cases fuel with
  | zero | succ => rw [enforceCap, if_neg (Nat.not_lt_of_le within)]

theorem nonempty_of_exceeds (exceeds : identityCap < size entries) : entries.entries ≠ [] := by
  intro empty
  rw [size, empty] at exceeds
  exact nomatch exceeds

theorem enforceCap_total (reports : Reports Entry Delta)
    (chooses : ∀ entries : KeyMap String Entry, entries.entries ≠ [] →
      ∃ id, victim entries = some id ∧ IsVictim retired activity entries id)
    (enough : size entries ≤ fuel) (deltas : List Delta) :
    ∃ result, enforceCap reports victim fuel entries deltas = some result := by
  induction fuel generalizing entries deltas with
  | zero =>
    rw [enforceCap, if_neg (by omega)]
    exact ⟨_, rfl⟩
  | succ fuel ih =>
    rw [enforceCap]
    by_cases exceeds : size entries > identityCap
    · rw [if_pos exceeds]
      obtain ⟨id, chosen, entry, held, -⟩ := chooses entries (nonempty_of_exceeds exceeds)
      have smaller := size_erase held
      rw [chosen, bind_eq_bind, bind_some]
      exact ih (by omega) _
    · rw [if_neg exceeds]
      exact ⟨_, rfl⟩

theorem enforceCap_evicts (chooses : ∀ entries : KeyMap String Entry, entries.entries ≠ [] →
      ∃ id, victim entries = some id ∧ IsVictim retired activity entries id)
    (done : enforceCap reports victim fuel entries deltas = some (after, final)) :
    ∃ ids, Evicts retired activity entries ids after ∧ ids.length = size entries - identityCap := by
  obtain ⟨⟨ids, evicts, count⟩, within⟩ := enforceCap_kept
    (fun map _ => ∃ ids, Evicts retired activity entries ids map ∧
      ids.length + size map = size entries ∧ (ids = [] ∨ identityCap ≤ size map))
    (fun map _ id exceeds chosen ⟨ids, evicts, count, _⟩ => by
      obtain ⟨same, isSame, isVictim⟩ := chooses map (nonempty_of_exceeds exceeds)
      cases chosen.symm.trans isSame
      have smaller := size_erase isVictim.choose_spec.1
      refine ⟨ids ++ [id], .next evicts exceeds isVictim, ?_, .inr ?_⟩
      · rw [length_append, length_singleton]
        omega
      · omega)
    ⟨[], .done, Nat.zero_add _, .inl rfl⟩ done
  refine ⟨ids, evicts, ?_⟩
  rcases count with ⟨total, rfl | full⟩
  · rw [length_nil] at total ⊢
    omega
  · omega

/-- An identity that is not fully read stays when the others that are not have an older activity. -/
theorem Evicts.spares {ids : List String} {id : String} {entry : Entry}
    (evicts : Evicts retired activity entries ids after) (held : entries.lookup id = some entry)
    (live : retired entry = false)
    (newest : ∀ other otherEntry, other ≠ id → entries.lookup other = some otherEntry →
      retired otherEntry = false →
        victimLess (ranked activity ⟨other, otherEntry⟩) (ranked activity ⟨id, entry⟩) = true) :
    after.lookup id = some entry ∧ ∀ other otherEntry, after.lookup other = some otherEntry →
        entries.lookup other = some otherEntry := by
  induction evicts with
  | done => exact ⟨held, fun _ _ there => there⟩
  | @next _ left victim _ exceeds isVictim ih =>
    obtain ⟨here, stayed⟩ := ih
    have apart : id ≠ victim := by
      rintro rfl
      obtain ⟨chosen, isChosen, first⟩ := isVictim
      cases here.symm.trans isChosen
      -- another identity is left, and goes before this one
      have others : (left.erase id).entries ≠ [] := by
        intro none
        have smaller := size_erase here
        rw [size, none, length_nil] at smaller
        rw [← smaller] at exceeds
        exact absurd exceeds (by decide)
      obtain ⟨⟨other, otherEntry⟩, mem⟩ := exists_mem_of_ne_nil _ others
      have there := lookup_eq_some_iff.mpr mem
      obtain ⟨ne, there⟩ := of_lookup_erase there
      obtain ⟨retiredFirst, older⟩ := first other otherEntry there
      have otherLive : retired otherEntry = false :=
        Bool.of_not_eq_true fun isRetired => Bool.eq_false_iff.mp live (retiredFirst isRetired)
      have least := (older (otherLive.trans live.symm)).2
      rw [newest other otherEntry ne (stayed other otherEntry there) otherLive] at least
      exact nomatch least
    refine ⟨by rw [lookup_erase, if_neg apart, here], fun other otherEntry there => ?_⟩
    obtain ⟨-, there⟩ := of_lookup_erase there
    exact stayed other otherEntry there

end Dinotty.Attention
