/-
This file is about change logs: lists of entries with distinct keys. A log tracks a change of a
keyed state when replaying it on the old state gives the new one.
-/

import Mathlib

namespace ChangeLog

open List

variable {Key Entry State : Type} [DecidableEq Key]

/-- Write an entry over the one with the same key, or append it. -/
def upsert (key : Entry → Key) (entry : Entry) : List Entry → List Entry
  | [] => [entry]
  | existing :: rest =>
      if key existing = key entry then entry :: rest else existing :: upsert key entry rest

/-- Write several entries, one after the other. -/
def upsertAll (key : Entry → Key) (entries written : List Entry) : List Entry :=
  written.foldl (fun log entry => upsert key entry log) entries

/-- What an entry does to a keyed state. -/
def replayEntry (key : Entry → Key) (effect : Entry → Option State → Option State)
    (state : Key → Option State) (entry : Entry) : Key → Option State :=
  fun at' => if at' = key entry then effect entry (state at') else state at'

def replay (key : Entry → Key) (effect : Entry → Option State → Option State)
    (state : Key → Option State) (entries : List Entry) : Key → Option State :=
  entries.foldl (replayEntry key effect) state

variable {key : Entry → Key} {effect : Entry → Option State → Option State}

variable {entry : Entry} {entries : List Entry}

theorem mem_upsert {other : Entry} (mem : other ∈ upsert key entry entries) :
    other = entry ∨ other ∈ entries := by
  induction entries with
  | nil => exact Or.inl (mem_singleton.mp mem)
  | cons existing rest ih =>
    rw [upsert] at mem
    split at mem
    · rcases mem_cons.mp mem with head | tail
      · exact Or.inl head
      · exact Or.inr (mem_cons_of_mem _ tail)
    · rcases mem_cons.mp mem with head | tail
      · exact Or.inr (head ▸ mem_cons_self)
      · exact (ih tail).imp_right (mem_cons_of_mem _)

theorem map_upsert_nodup (nodup : (entries.map key).Nodup) :
    ((upsert key entry entries).map key).Nodup := by
  induction entries with
  | nil => exact nodup_singleton _
  | cons existing rest ih =>
    obtain ⟨fresh, later⟩ := nodup_cons.mp nodup
    rw [upsert]
    by_cases same : key existing = key entry
    · rw [if_pos same, map_cons, ← same]
      exact nodup
    · rw [if_neg same, map_cons]
      refine nodup_cons.mpr ⟨fun mem => ?_, ih later⟩
      obtain ⟨other, otherMember, equal⟩ := List.mem_map.mp mem
      rcases mem_upsert otherMember with rfl | old
      · exact same equal.symm
      · exact fresh (equal ▸ List.mem_map_of_mem old)

variable {state : Key → Option State}

theorem replay_of_not_mem {at' : Key} (absent : at' ∉ entries.map key) :
    replay key effect state entries at' = state at' := by
  induction entries generalizing state with
  | nil => rfl
  | cons entry rest ih =>
    rw [map_cons, mem_cons, not_or] at absent
    rw [replay, foldl_cons]
    exact (ih absent.2).trans (if_neg absent.1)

theorem replay_of_mem (nodup : (entries.map key).Nodup) (mem : entry ∈ entries) :
    replay key effect state entries (key entry) = effect entry (state (key entry)) := by
  induction entries generalizing state with
  | nil => exact nomatch mem
  | cons head rest ih =>
    obtain ⟨fresh, later⟩ := nodup_cons.mp nodup
    rw [replay, foldl_cons]
    rcases mem_cons.mp mem with rfl | tail
    · exact (replay_of_not_mem fresh).trans (if_pos rfl)
    · have ne : key entry ≠ key head := fun equal =>
        fresh (equal ▸ List.mem_map_of_mem tail)
      refine (ih later tail).trans ?_
      rw [replayEntry, if_neg ne]

/-- Replaying a log after an entry has been written over it. -/
theorem replay_upsert (nodup : (entries.map key).Nodup) (at' : Key) :
    replay key effect state (upsert key entry entries) at' =
      if at' = key entry then effect entry (state at') else replay key effect state entries at' := by
  induction entries generalizing state with
  | nil => rfl
  | cons existing rest ih =>
    obtain ⟨fresh, later⟩ := nodup_cons.mp nodup
    rw [upsert]
    by_cases same : key existing = key entry
    · rw [if_pos same]
      by_cases here : at' = key entry
      · rw [if_pos here, replay, foldl_cons, here]
        exact (replay_of_not_mem (same ▸ fresh)).trans (if_pos rfl)
      · rw [if_neg here, replay, replay, foldl_cons, foldl_cons]
        have equal : replayEntry key effect state entry at' =
            replayEntry key effect state existing at' := by
          rw [replayEntry, replayEntry, if_neg here, if_neg (same ▸ here)]
        by_cases listed : at' ∈ rest.map key
        · obtain ⟨other, mem, rfl⟩ := List.mem_map.mp listed
          rw [← replay, ← replay, replay_of_mem later mem, replay_of_mem later mem, equal]
        · rw [← replay, ← replay, replay_of_not_mem listed, replay_of_not_mem listed, equal]
    · rw [if_neg same, replay, foldl_cons, ← replay, ih later]
      by_cases here : at' = key entry
      · have ne : at' ≠ key existing := fun equal => same (equal.symm.trans here)
        rw [if_pos here, if_pos here, replayEntry, if_neg ne]
      · rw [if_neg here, if_neg here]
        rfl

/-! ### Tracking a change -/

/-- The log has distinct keys and leads from one keyed state to the other. -/
structure Tracks (key : Entry → Key) (effect : Entry → Option State → Option State)
    (before after : Key → Option State) (entries : List Entry) : Prop where
  distinct : (entries.map key).Nodup
  replayed : replay key effect before entries = after

theorem tracks_nil (state : Key → Option State) : Tracks key effect state state [] :=
  ⟨nodup_nil, rfl⟩

variable {before after : Key → Option State}

theorem Tracks.unchanged (tracks : Tracks key effect before after []) :
    after = before := tracks.replayed.symm

theorem Tracks.write {middle : Key → Option State}
    (tracks : Tracks key effect before middle entries)
    (final : ∀ prev, effect entry prev = after (key entry))
    (kept : ∀ at', at' ≠ key entry → after at' = middle at') :
    Tracks key effect before after (upsert key entry entries) := by
  refine ⟨map_upsert_nodup tracks.distinct, funext fun at' => ?_⟩
  rw [replay_upsert tracks.distinct, tracks.replayed]
  by_cases here : at' = key entry
  · rw [if_pos here, final, here]
  · rw [if_neg here, kept at' here]

/-- Write entries that give what the state at their keys has become; elsewhere it has to be as it
was. -/
theorem Tracks.extend {middle : Key → Option State} {written : List Entry}
    (tracks : Tracks key effect before middle entries)
    (final : ∀ entry ∈ written, ∀ prev, effect entry prev = after (key entry))
    (kept : ∀ at', at' ∉ written.map key → after at' = middle at') :
    Tracks key effect before after (upsertAll key entries written) := by
  induction written generalizing middle entries with
  | nil =>
    obtain rfl : after = middle := funext fun at' => kept at' not_mem_nil
    exact tracks
  | cons entry rest ih =>
    -- At the keys written so far the state is the new one, away still the old one.
    let partly : Key → Option State := fun at' => if at' = key entry then after at' else middle at'
    have here : partly (key entry) = after (key entry) := if_pos rfl
    have written : Tracks key effect before partly (upsert key entry entries) :=
      tracks.write (fun prev => (final entry mem_cons_self prev).trans here.symm)
        fun _ ne => if_neg ne
    refine ih written
      (fun other mem => final other (mem_cons_of_mem _ mem)) fun at' absent => ?_
    by_cases same : at' = key entry
    · exact (if_pos same).symm
    · refine Eq.trans (kept at' fun mem => ?_) (if_neg same).symm
      rcases mem_cons.mp mem with head | tail
      · exact same head
      · exact absent tail

end ChangeLog
