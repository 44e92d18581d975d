/-
This file completes the association lists with distinct keys into the maps that a program iterates
over.
-/

import Mathlib

/-- A map from keys to values of one type, iterated in the order of its entries. -/
abbrev KeyMap (Key Value : Type) := AList fun _ : Key => Value

namespace KeyMap

open List Option

variable {Key Value : Type}

def mapValues (change : Key → Value → Value) (map : KeyMap Key Value) : KeyMap Key Value :=
  ⟨map.entries.map fun entry => ⟨entry.1, change entry.1 entry.2⟩,
    List.NodupKeys.map₂ change map.entries map.nodupKeys⟩

/-- Drop the entries that fail a test. -/
def retain (keep : Key → Value → Bool) (map : KeyMap Key Value) : KeyMap Key Value :=
  ⟨map.entries.filter fun entry => keep entry.1 entry.2, map.nodupKeys.sublist filter_sublist⟩

/-- The keys whose entries pass a test, in the order of iteration. -/
def keysWhere (test : Key → Value → Bool) (map : KeyMap Key Value) : List Key :=
  (map.entries.filter fun entry => test entry.1 entry.2).map Sigma.fst

def size (map : KeyMap Key Value) : Nat := map.entries.length

variable [DecidableEq Key]

variable {map : KeyMap Key Value} {key : Key} {value : Value}

@[simp] theorem lookup_mapValues (change : Key → Value → Value) (map : KeyMap Key Value)
    (key : Key) : (mapValues change map).lookup key = (map.lookup key).map (change key) :=
  dlookup_map₂ key

theorem lookup_eq_some_iff : map.lookup key = some value ↔ ⟨key, value⟩ ∈ map.entries :=
  AList.mem_lookup_iff

@[simp] theorem lookup_retain (keep : Key → Value → Bool) (map : KeyMap Key Value) (key : Key) :
    (retain keep map).lookup key = (map.lookup key).filter (keep key) := by
  refine ext fun value => ?_
  rw [lookup_eq_some_iff, filter_eq_some_iff, lookup_eq_some_iff]
  exact mem_filter

theorem mem_keysWhere {test : Key → Value → Bool} :
    key ∈ keysWhere test map ↔ ∃ value, map.lookup key = some value ∧ test key value = true := by
  rw [keysWhere, List.mem_map]
  constructor
  · rintro ⟨⟨found, value⟩, mem, rfl⟩
    obtain ⟨held, passes⟩ := mem_filter.mp mem
    exact ⟨value, lookup_eq_some_iff.mpr held, passes⟩
  · rintro ⟨value, held, passes⟩
    exact ⟨⟨key, value⟩, mem_filter.mpr ⟨lookup_eq_some_iff.mp held, passes⟩, rfl⟩

theorem lookup_insert (map : KeyMap Key Value) (key : Key) (value : Value) (other : Key) :
    (map.insert key value).lookup other = if other = key then some value else map.lookup other := by
  by_cases same : other = key
  · rw [if_pos same, same]
    exact AList.lookup_insert map
  · rw [if_neg same]
    exact AList.lookup_insert_ne same

theorem lookup_erase (map : KeyMap Key Value) (key : Key) (other : Key) :
    (map.erase key).lookup other = if other = key then none else map.lookup other := by
  by_cases same : other = key
  · rw [if_pos same, same]
    exact AList.lookup_erase key map
  · rw [if_neg same]
    exact AList.lookup_erase_ne same

theorem of_lookup_erase {other : Key} (found : (map.erase key).lookup other = some value) :
    other ≠ key ∧ map.lookup other = some value := by
  rw [lookup_erase] at found
  split at found
  · cases found
  next ne =>
    exact ⟨ne, found⟩

/-- Give every entry a new key, or drop it. -/
def rekey (change : Key → Option Key) (map : KeyMap Key Value) : KeyMap Key Value :=
  (map.entries.filterMap fun entry =>
    (change entry.1).map fun key => (⟨key, entry.2⟩ : Sigma fun _ : Key => Value)).toAList

variable {change : Key → Option Key}

theorem dlookup_filterMap {origin : Key} (only : ∀ other, change other = some key ↔ other = origin)
    (entries : List (Sigma fun _ : Key => Value)) :
    (entries.filterMap fun entry => (change entry.1).map fun key =>
      (⟨key, entry.2⟩ : Sigma fun _ : Key => Value)).dlookup key = entries.dlookup origin := by
  induction entries with
  | nil => rfl
  | cons entry rest ih =>
    by_cases same : entry.1 = origin
    · obtain ⟨found, value⟩ := entry
      obtain rfl : found = origin := same
      rw [filterMap_cons, (only _).mpr rfl]
      have first := dlookup_cons_eq (β := fun _ => Value) rest found value
      rw [first]
      exact dlookup_cons_eq (β := fun _ => Value) _ key value
    · rw [dlookup_cons_ne _ _ (Ne.symm same), ← ih, filterMap_cons]
      cases changed : change entry.1 with
      | none => rfl
      | some other =>
        refine dlookup_cons_ne _ _ fun clash => same ((only _).mp ?_)
        rw [changed, clash]

theorem lookup_rekey {origin : Key} (only : ∀ other, change other = some key ↔ other = origin)
    (map : KeyMap Key Value) :
    (rekey change map).lookup key = map.lookup origin := by
  rw [rekey, AList.lookup, toAList, dlookup_dedupKeys, dlookup_filterMap only]
  rfl

theorem lookup_rekey_of_none (unused : ∀ other, change other ≠ some key) (map : KeyMap Key Value) :
    (rekey change map).lookup key = none := by
  rw [rekey, AList.lookup, toAList, dlookup_dedupKeys, dlookup_eq_none]
  intro listed
  obtain ⟨⟨found, value⟩, mem, rfl⟩ := List.mem_map.mp (show _ ∈ List.map Sigma.fst _ from listed)
  obtain ⟨entry, -, changed⟩ := mem_filterMap.mp mem
  obtain ⟨other, changed, same⟩ := map_eq_some_iff.mp changed
  exact unused entry.1 (changed.trans (congrArg some (congrArg Sigma.fst same)))

theorem size_erase (held : map.lookup key = some value) : size (map.erase key) + 1 = size map := by
  have mem : key ∈ map.keys := AList.lookup_isSome.mp (isSome_of_eq_some held)
  have lengths := length_erase_of_mem mem
  have positive := length_pos_of_mem mem
  have keysErase : (map.erase key).keys = map.keys.erase key := AList.keys_erase key map
  rw [← keysErase] at lengths
  simp only [AList.keys, keys, length_map] at lengths positive
  unfold size
  omega

/-! ### The entries taken together -/

theorem entries_perm {first second : KeyMap Key Value}
    (same : ∀ key, first.lookup key = second.lookup key) : first.entries.Perm second.entries :=
  lookup_ext first.nodupKeys second.nodupKeys fun key value =>
    Iff.of_eq (congrArg (value ∈ ·) (same key))

variable {Item : Type}

/-- What is read off all entries is what is read off one of them and off the others. -/
theorem flatMap_entries_perm (read : Value → List Item) (map : KeyMap Key Value) (key : Key) :
    (map.entries.flatMap fun entry => read entry.2).Perm ((map.lookup key).elim [] read ++
        (map.erase key).entries.flatMap fun entry => read entry.2) := by
  cases found : map.lookup key with
  | none =>
    refine (entries_perm fun other => ?_).flatMap_right _
    rw [lookup_erase]
    split
    next same =>
      rw [same, found]
    · rfl
  | some value =>
    have whole : map.entries.Perm (⟨key, value⟩ :: (map.erase key).entries) := by
      have absent : key ∉ map.erase key := by
        rw [← AList.lookup_eq_none, lookup_erase, if_pos rfl]
      rw [← AList.entries_insert_of_notMem absent]
      refine entries_perm fun other => ?_
      rw [lookup_insert, lookup_erase]
      split
      next same =>
        rw [same, found]
      · rfl
    exact whole.flatMap_right _

/-- When only two entries differ, and read alike together, all entries do. -/
theorem flatMap_entries_perm_of_exchange {read : Value → List Item}
    {before after : KeyMap Key Value} {first second : Key} (ne : first ≠ second)
    (others : ∀ key, key ≠ first → key ≠ second → after.lookup key = before.lookup key)
    (exchanged : ((after.lookup first).elim [] read ++ (after.lookup second).elim [] read).Perm
      ((before.lookup first).elim [] read ++ (before.lookup second).elim [] read)) :
    (after.entries.flatMap fun entry => read entry.2).Perm
      (before.entries.flatMap fun entry => read entry.2) := by
  have split : ∀ map : KeyMap Key Value, (map.entries.flatMap fun entry => read entry.2).Perm
      (((map.lookup first).elim [] read ++ (map.lookup second).elim [] read) ++
        ((map.erase first).erase second).entries.flatMap fun entry => read entry.2) := by
    intro map
    have withoutFirst := flatMap_entries_perm read (map.erase first) second
    rw [lookup_erase, if_neg ne.symm] at withoutFirst
    rw [append_assoc]
    exact (flatMap_entries_perm read map first).trans (withoutFirst.append_left _)
  have rest : ((after.erase first).erase second).entries.Perm
      ((before.erase first).erase second).entries := by
    refine entries_perm fun key => ?_
    simp only [lookup_erase]
    split_ifs with isSecond isFirst
    · rfl
    · rfl
    · exact others key isFirst isSecond
  exact (split after).trans ((exchanged.append (rest.flatMap_right _)).trans (split before).symm)

theorem eq_of_nodup_flatMap_entries {read : Value → List Item}
    (nodup : (map.entries.flatMap fun entry => read entry.2).Nodup) {item : Item}
    {first second : Key} (inFirst : item ∈ (map.lookup first).elim [] read)
    (inSecond : item ∈ (map.lookup second).elim [] read) : first = second := by
  by_contra ne
  have apart := disjoint_of_nodup_append
    ((flatMap_entries_perm read map first).nodup_iff.mp nodup)
  have later := (flatMap_entries_perm read (map.erase first) second).mem_iff (a := item)
  rw [lookup_erase, if_neg (Ne.symm ne), mem_append] at later
  exact apart inFirst (later.mpr (.inl inSecond))

/-! ### Revising every entry -/

/-- What becomes of an entry: it stays as it is, it goes, or it gets a new value. -/
inductive Revision (Value : Type) where
  | keep
  | drop
  | write (value : Value)

def Revision.apply : Revision Value → Value → Option Value
  | .keep, value => some value
  | .drop, _ => none
  | .write value, _ => some value

def dropped (revise : Key → Value → Revision Value) (map : KeyMap Key Value) : List Key :=
  map.entries.filterMap fun entry =>
    match revise entry.1 entry.2 with
    | .drop => some entry.1
    | _ => none

/-- The keys that a revision writes, with their new values. -/
def written (revise : Key → Value → Revision Value) (map : KeyMap Key Value) : List (Key × Value) :=
  map.entries.filterMap fun entry =>
    match revise entry.1 entry.2 with
    | .write value => some (entry.1, value)
    | _ => none

variable {revise : Key → Value → Revision Value}

theorem mem_dropped : key ∈ dropped revise map ↔
      ∃ value, map.lookup key = some value ∧ revise key value = .drop := by
  rw [dropped, mem_filterMap]
  constructor
  · rintro ⟨⟨found, value⟩, mem, effect⟩
    split at effect
    next drops =>
      cases effect
      exact ⟨value, lookup_eq_some_iff.mpr mem, drops⟩
    · cases effect
  · rintro ⟨value, found, drops⟩
    exact ⟨⟨key, value⟩, lookup_eq_some_iff.mp found, by simp [drops]⟩

theorem mem_written {pair : Key × Value} :
    pair ∈ written revise map ↔
      ∃ value, map.lookup pair.1 = some value ∧ revise pair.1 value = .write pair.2 := by
  rw [written, mem_filterMap]
  constructor
  · rintro ⟨⟨found, value⟩, mem, effect⟩
    split at effect
    next new writes =>
      cases effect
      exact ⟨value, lookup_eq_some_iff.mpr mem, writes⟩
    · cases effect
  · rintro ⟨value, found, writes⟩
    exact ⟨⟨pair.1, value⟩, lookup_eq_some_iff.mp found, by simp [writes]⟩

theorem lookup_foldl_insert_of_notMem {pairs : List (Key × Value)}
    (unwritten : ∀ pair ∈ pairs, pair.1 ≠ key) (map : KeyMap Key Value) :
    (pairs.foldl (fun map pair => map.insert pair.1 pair.2) map).lookup key = map.lookup key := by
  induction pairs generalizing map with
  | nil => rfl
  | cons pair rest ih =>
    rw [foldl_cons, ih fun other mem => unwritten other (mem_cons_of_mem _ mem),
      lookup_insert, if_neg (unwritten pair mem_cons_self).symm]

theorem lookup_foldl_insert_of_mem {pairs : List (Key × Value)}
    (agree : ∀ pair ∈ pairs, pair.1 = key → pair.2 = value) (mem : (key, value) ∈ pairs)
    (map : KeyMap Key Value) :
    (pairs.foldl (fun map pair => map.insert pair.1 pair.2) map).lookup key = some value := by
  induction pairs generalizing map with
  | nil => cases mem
  | cons pair rest ih =>
    have agreeRest := fun other inRest => agree other (mem_cons_of_mem pair inRest)
    rw [foldl_cons]
    by_cases inRest : (key, value) ∈ rest
    · exact ih agreeRest inRest _
    · obtain rfl := (mem_cons.mp mem).resolve_right inRest
      rw [lookup_foldl_insert_of_notMem, lookup_insert, if_pos rfl]
      rintro ⟨other, otherValue⟩ otherMember rfl
      obtain rfl := agreeRest _ otherMember rfl
      exact inRest otherMember

theorem lookup_foldl_erase (keys : List Key) (map : KeyMap Key Value) :
    (keys.foldl (fun map key => map.erase key) map).lookup key =
      if key ∈ keys then none else map.lookup key := by
  induction keys generalizing map with
  | nil => rfl
  | cons first rest ih =>
    rw [foldl_cons, ih, lookup_erase]
    by_cases inRest : key ∈ rest
    · rw [if_pos inRest, if_pos (mem_cons_of_mem _ inRest)]
    · rw [if_neg inRest]
      by_cases here : key = first
      · rw [if_pos here, if_pos (by simp [here])]
      · rw [if_neg here, if_neg (by simp [here, inRest])]

/-- To collect the revisions of all entries and then to make them revises each entry by itself. -/
theorem lookup_revised (revise : Key → Value → Revision Value) (map : KeyMap Key Value)
    (key : Key) :
    ((dropped revise map).foldl (fun map key => map.erase key)
        ((written revise map).foldl (fun map pair => map.insert pair.1 pair.2) map)).lookup key =
      (map.lookup key).bind fun value => (revise key value).apply value := by
  rw [lookup_foldl_erase]
  have inWritten : ∀ pair ∈ written revise map, pair.1 = key →
      ∃ value, map.lookup key = some value ∧ revise key value = .write pair.2 := by
    rintro pair mem rfl
    exact mem_written.mp mem
  cases found : map.lookup key with
  | none =>
    rw [lookup_foldl_insert_of_notMem, found]
    · split <;> rfl
    · intro pair mem same
      obtain ⟨value, held, -⟩ := inWritten pair mem same
      cases found.symm.trans held
  | some value =>
    have revised : ∀ pair ∈ written revise map, pair.1 = key →
        revise key value = .write pair.2 := by
      intro pair mem same
      obtain ⟨other, held, writes⟩ := inWritten pair mem same
      cases found.symm.trans held
      exact writes
    have drops : key ∈ dropped revise map ↔ revise key value = .drop := by
      rw [mem_dropped]
      refine ⟨?_, fun drops => ⟨value, found, drops⟩⟩
      rintro ⟨other, held, drops⟩
      cases found.symm.trans held
      exact drops
    rw [bind_some]
    cases effect : revise key value with
    | keep =>
      rw [if_neg (by rw [drops, effect]; exact nofun), lookup_foldl_insert_of_notMem, found]
      · rfl
      · exact fun pair mem same => nomatch effect.symm.trans (revised pair mem same)
    | drop => exact if_pos (drops.mpr effect)
    | write new =>
      rw [if_neg (by rw [drops, effect]; exact nofun), lookup_foldl_insert_of_mem]
      · rfl
      · intro pair mem same
        exact (Revision.write.inj (effect.symm.trans (revised pair mem same))).symm
      · exact mem_written.mpr ⟨value, found, effect⟩

end KeyMap
