/-
This file is the packing of the keys of the system keyboard into pages. A page is filled until the
next key does not fit, and no other split of the keys has fewer pages.
-/

import Mathlib

namespace Dinotty.SystemKeyboard

open List

def systemRowUnits : Rat := 10
def upperUserUnits : Rat := 9
def maxSystemPages : Nat := 5
def maxSystemPinned : Nat := 5

structure ActionKey where
  label : List Char
  grow : Option Rat := none
  kind : Option String := none
  display : Option String := none
  action : Option String := none
  deriving DecidableEq

/-- The classes of characters that the regular expressions name, and the actions of the app. -/
structure Catalog where
  isSpace : Char → Bool
  isWide : Char → Bool
  isAppAction : String → Bool

variable (catalog : Catalog)

def trim (label : List Char) : List Char :=
  ((label.dropWhile catalog.isSpace).reverse.dropWhile catalog.isSpace).reverse

def labelWeight (label : List Char) : Rat :=
  ((trim catalog label).map fun c =>
    if catalog.isSpace c then 1 / 2 else if catalog.isWide c then 2 else 1).sum

def autoSystemKeyUnits (label : List Char) (capacity : Rat) : Rat :=
  min capacity (max 1 ⌈(14 + labelWeight catalog label * 8) / 44⌉)

def agentIconForLabel (label : List Char) : Bool :=
  (trim catalog label).map Char.toLower ∈ ["claude".toList, "codex".toList, "opencode".toList]

def systemKeyUnits (capacity : Rat) (key : ActionKey) : Rat :=
  match key.grow with
  | some width => min capacity (max 1 ⌊width + 1 / 2⌋)
  | none =>
      if key.display ≠ some "text" ∧ agentIconForLabel catalog key.label then 1
      else if key.kind = some "action" ∧ key.display ≠ some "text" ∧
          key.action.any catalog.isAppAction then 1
      else autoSystemKeyUnits catalog key.label capacity

structure PackedSystemKey where
  key : ActionKey
  units : Rat
  deriving DecidableEq

/-- The loop over the keys, with the page that is being filled. -/
def packFrom (capacity : Rat) (page : List PackedSystemKey) (used : Rat) :
    List ActionKey → List (List PackedSystemKey)
  | [] => [page]
  | key :: rest =>
      let units := systemKeyUnits catalog capacity key
      if page ≠ [] ∧ used + units > capacity then
        page :: packFrom capacity [⟨key, units⟩] units rest
      else packFrom capacity (page ++ [⟨key, units⟩]) (used + units) rest

def packSystemKeys (keys : List ActionKey) (capacity : Rat) : List (List PackedSystemKey) :=
  if keys = [] then [[]]
  else if capacity ≤ 0 then keys.map fun key => [⟨key, 1⟩]
  else packFrom catalog capacity [] 0 keys

structure SystemKeyboardConfig where
  upper : List ActionKey
  pages : List (List ActionKey)
  lowerEnabled : Option Bool := none
  upperPinned : Option Rat := none
  lowerPinned : Option Rat := none

structure RowStatus where
  pinned : Nat
  pinnedUnits : Rat
  capacity : Rat
  pages : Nat
  invalid : Bool

/-- What is found out about a row, in either unit. Below zero the floor and the truncation of a
count are alike no pins. -/
def rowStatus (units : Rat) (pins : Option Rat) (keys : List ActionKey) : RowStatus :=
  let pinned := min maxSystemPinned (min ⌊pins.getD 0⌋.toNat keys.length)
  let pinnedUnits := ((keys.take pinned).map (systemKeyUnits catalog units)).sum
  let pageable := keys.drop pinned
  let capacity := max 0 (units - pinnedUnits)
  { pinned, pinnedUnits, capacity
    pages := if pageable = [] then 1 else (packSystemKeys catalog pageable capacity).length
    invalid := units < pinnedUnits ∨ pageable ≠ [] ∧ capacity < 1 }

structure SystemKeyboardLayoutStatus where
  upper : RowStatus
  lower : RowStatus
  lowerPages : Nat
  reason : Option String

def systemKeyboardLayoutStatus (config : SystemKeyboardConfig) : SystemKeyboardLayoutStatus :=
  let upper := rowStatus catalog upperUserUnits config.upperPinned config.upper
  let lower := rowStatus catalog systemRowUnits config.lowerPinned config.pages.flatten
  { upper, lower
    lowerPages := if config.lowerEnabled = some false then 0 else lower.pages
    reason :=
      if upper.invalid ∨ lower.invalid then some "pinned_capacity"
      else if upper.pages > maxSystemPages then some "upper_pages"
      else if lower.pages > maxSystemPages then some "lower_pages"
      else none }

def SystemKeyboardLayoutStatus.valid (status : SystemKeyboardLayoutStatus) : Prop :=
  status.reason = none

def pageUnits (page : List PackedSystemKey) : Rat := (page.map (·.units)).sum

/-- The units of keys that are not packed yet. -/
def keyUnits (capacity : Rat) (keys : List ActionKey) : Rat :=
  (keys.map (systemKeyUnits catalog capacity)).sum

theorem keyUnits_cons {catalog} {capacity : Rat} (key : ActionKey) (rest : List ActionKey) :
    keyUnits catalog capacity (key :: rest) =
      systemKeyUnits catalog capacity key + keyUnits catalog capacity rest := List.sum_cons

/-! ### Packing -/

section

variable {capacity : Rat} (positive : 1 ≤ capacity)
include positive

theorem systemKeyUnits_bounds (key : ActionKey) :
    1 ≤ systemKeyUnits catalog capacity key ∧ systemKeyUnits catalog capacity key ≤ capacity := by
  have clamped (units : Int) : 1 ≤ min capacity (max 1 (units : Rat)) ∧
      min capacity (max 1 (units : Rat)) ≤ capacity :=
    ⟨le_min positive (le_max_left _ _), min_le_left _ _⟩
  unfold systemKeyUnits
  split
  · exact clamped _
  · split
    · exact ⟨le_refl _, positive⟩
    · split
      · exact ⟨le_refl _, positive⟩
      · exact clamped _

variable (keys : List ActionKey)

theorem keyUnits_nonneg : 0 ≤ keyUnits catalog capacity keys :=
  List.sum_nonneg fun units mem => by
    obtain ⟨key, -, rfl⟩ := List.mem_map.mp mem
    linarith [(systemKeyUnits_bounds catalog positive key).1]

/-- The pages hold the keys in order, none is empty and none is overfull. -/
theorem packFrom_keeps {page : List PackedSystemKey} {used : Rat} (sum : pageUnits page = used)
    (fits : used ≤ capacity) (keys : List ActionKey) (some : page ≠ [] ∨ keys ≠ []) :
    (packFrom catalog capacity page used keys).flatten.map (·.key) = page.map (·.key) ++ keys ∧
      ∀ filled ∈ packFrom catalog capacity page used keys,
        filled ≠ [] ∧ pageUnits filled ≤ capacity := by
  induction keys generalizing page used with
  | nil =>
    refine ⟨by simp [packFrom], fun filled mem => ?_⟩
    obtain rfl := mem_singleton.mp mem
    exact ⟨some.resolve_right fun none => none rfl, sum ▸ fits⟩
  | cons key rest ih =>
    obtain ⟨-, most⟩ := systemKeyUnits_bounds catalog positive key
    rw [packFrom]
    split
    next full =>
      obtain ⟨keys, filled⟩ := ih
        (show pageUnits [⟨key, systemKeyUnits catalog capacity key⟩] = _ by simp [pageUnits])
        most (.inl (cons_ne_nil _ _))
      refine ⟨?_, forall_mem_cons.mpr ⟨⟨full.1, sum ▸ fits⟩, filled⟩⟩
      rw [flatten_cons, map_append, keys, map_singleton, singleton_append]
    next room =>
      have fits : used + systemKeyUnits catalog capacity key ≤ capacity := by
        by_cases empty : page = []
        · rw [← sum, empty]
          simpa [pageUnits] using most
        · exact not_lt.mp fun more => room ⟨empty, more⟩
      obtain ⟨keys, filled⟩ := ih
        (show pageUnits (page ++ [⟨key, systemKeyUnits catalog capacity key⟩]) = _ by
          simp [pageUnits, ← sum]) fits (.inl (by simp))
      exact ⟨keys.trans (by simp), filled⟩

/-- Greedy packing loses one page at most to a split that starts a new page here, and none to one
that goes on with a page as full. -/
theorem packFrom_length :
    (∀ (pages : List (List ActionKey)) page used, pages.flatten = keys →
      (∀ part ∈ pages, keyUnits catalog capacity part ≤ capacity) →
      (packFrom catalog capacity page used keys).length ≤ 1 + pages.length) ∧
    ∀ (part : List ActionKey) (pages : List (List ActionKey)) page used other,
      part ++ pages.flatten = keys → (∀ part ∈ pages, keyUnits catalog capacity part ≤ capacity) →
      used ≤ other → other + keyUnits catalog capacity part ≤ capacity →
      (packFrom catalog capacity page used keys).length ≤ 1 + pages.length := by
  induction keys with
  | nil =>
    exact ⟨fun _ _ _ _ _ => Nat.le_add_right _ _, fun _ _ _ _ _ _ _ _ _ => Nat.le_add_right _ _⟩
  | cons key rest ih =>
    have anew : ∀ (pages : List (List ActionKey)) page used, pages.flatten = key :: rest →
        (∀ part ∈ pages, keyUnits catalog capacity part ≤ capacity) →
        (packFrom catalog capacity page used (key :: rest)).length ≤ 1 + pages.length := by
      intro pages page used all fit
      induction pages with
      | nil => cases all
      | cons part pages inner =>
        obtain ⟨partFits, laterFit⟩ := forall_mem_cons.mp fit
        cases part with
        | nil => exact Nat.le_succ_of_le (inner all laterFit)
        | cons first part =>
          obtain ⟨rfl, same⟩ := cons.inj all
          rw [packFrom]
          split
          · exact (Nat.add_le_add_right (ih.2 part pages _ _ _ same laterFit (le_refl _)
              (keyUnits_cons first part ▸ partFits)) 1).trans (by simp [Nat.add_comm])
          · refine (ih.1 (part :: pages) _ _ same (forall_mem_cons.mpr ⟨?_, laterFit⟩)).trans ?_
            · have := (systemKeyUnits_bounds catalog positive first).1
              rw [keyUnits_cons] at partFits
              linarith
            · simp
    refine ⟨anew, fun part pages page used other all fit least fits => ?_⟩
    cases part with
    | nil => exact anew pages page used all fit
    | cons first part =>
      obtain ⟨rfl, same⟩ := cons.inj all
      rw [keyUnits_cons] at fits
      rw [packFrom, if_neg fun full => ?_]
      · exact ih.2 part pages _ _ _ same fit (add_le_add_left least _) (by linarith)
      · have := keyUnits_nonneg catalog positive part
        linarith [full.2]

theorem packSystemKeys_keeps :
    (packSystemKeys catalog keys capacity).flatten.map (·.key) = keys ∧
      (∀ page ∈ packSystemKeys catalog keys capacity,
        (page = [] → keys = []) ∧ pageUnits page ≤ capacity) ∧
      ∀ pages : List (List ActionKey), pages ≠ [] → pages.flatten = keys →
        (∀ part ∈ pages, keyUnits catalog capacity part ≤ capacity) →
        (packSystemKeys catalog keys capacity).length ≤ pages.length := by
  unfold packSystemKeys
  split
  next empty =>
    refine ⟨empty ▸ rfl, fun page mem => ?_, fun pages some _ _ => length_pos_iff.mpr some⟩
    obtain rfl := mem_singleton.mp mem
    exact ⟨fun _ => empty, by rw [pageUnits, map_nil, sum_nil]; linarith⟩
  next some =>
    rw [if_neg (by linarith)]
    obtain ⟨kept, filled⟩ := packFrom_keeps catalog positive (show pageUnits [] = 0 from rfl)
      (by linarith) keys (.inr some)
    refine ⟨kept, fun page mem => ⟨fun empty => absurd empty (filled page mem).1,
      (filled page mem).2⟩, fun pages _ all fit => ?_⟩
    cases pages with
    | nil => exact absurd all.symm some
    | cons part pages =>
      obtain ⟨partFits, laterFit⟩ := forall_mem_cons.mp fit
      rw [length_cons, Nat.add_comm]
      exact (packFrom_length catalog positive keys).2 part pages [] 0 0 all laterFit (le_refl _)
        (by linarith)

end

/-! ### The two rows -/

/-- The keys of a row that are not pinned, packed. -/
def rowPages (status : RowStatus) (keys : List ActionKey) : List (List PackedSystemKey) :=
  packSystemKeys catalog (keys.drop status.pinned) status.capacity

/-- The pages of a row are few, and each fits beside the pinned keys. -/
def RowFits (units : Rat) (status : RowStatus) (keys : List ActionKey) : Prop :=
  (rowPages catalog status keys).length ≤ maxSystemPages ∧
    ∀ page ∈ rowPages catalog status keys, status.pinnedUnits + pageUnits page ≤ units

variable {catalog}

theorem rowStatus_fits {units : Rat} {pins : Option Rat} {keys : List ActionKey}
    (valid : ¬ (rowStatus catalog units pins keys).invalid)
    (few : ¬ (rowStatus catalog units pins keys).pages > maxSystemPages) :
    RowFits catalog units (rowStatus catalog units pins keys) keys := by
  unfold RowFits rowPages
  unfold rowStatus at *
  dsimp only at *
  generalize min maxSystemPinned (min ⌊pins.getD 0⌋.toNat keys.length) = pinned at *
  rw [decide_eq_true_eq, not_or, not_lt] at valid
  by_cases none : keys.drop pinned = []
  · rw [none, packSystemKeys, if_pos rfl]
    refine ⟨by decide, fun page mem => ?_⟩
    rw [mem_singleton.mp mem, pageUnits, map_nil, List.sum_nil, add_zero]
    exact valid.1
  · have room := not_lt.mp fun small => valid.2 ⟨none, small⟩
    rw [if_neg none] at few
    refine ⟨not_lt.mp few, fun page mem => ?_⟩
    have := ((packSystemKeys_keeps catalog room _).2.1 page mem).2
    rcases max_choice 0 (units - ((keys.take pinned).map (systemKeyUnits catalog units)).sum) with
      zero | rest
    · linarith
    · linarith

/-- The pages hold the keys in order, none is empty or overfull, and no split of the keys has fewer
pages; and a keyboard that is found valid has rows that fit. -/
theorem systemKeyboard_packs :
    (∀ (keys : List ActionKey) (capacity : Rat), 1 ≤ capacity →
      (packSystemKeys catalog keys capacity).flatten.map (·.key) = keys ∧
        (∀ page ∈ packSystemKeys catalog keys capacity,
          (page = [] → keys = []) ∧ pageUnits page ≤ capacity) ∧
        ∀ pages : List (List ActionKey), pages ≠ [] → pages.flatten = keys →
          (∀ part ∈ pages, keyUnits catalog capacity part ≤ capacity) →
          (packSystemKeys catalog keys capacity).length ≤ pages.length) ∧
    ∀ config : SystemKeyboardConfig, (systemKeyboardLayoutStatus catalog config).valid →
      RowFits catalog upperUserUnits (systemKeyboardLayoutStatus catalog config).upper
          config.upper ∧
        RowFits catalog systemRowUnits (systemKeyboardLayoutStatus catalog config).lower
          config.pages.flatten := by
  refine ⟨fun keys capacity positive => packSystemKeys_keeps catalog positive keys,
    fun config valid => ?_⟩
  unfold SystemKeyboardLayoutStatus.valid systemKeyboardLayoutStatus at valid
  dsimp only at valid
  split at valid
  · cases valid
  next rows =>
    rw [not_or] at rows
    split at valid
    · cases valid
    next fewUpper =>
      split at valid
      · cases valid
      next fewLower =>
        exact ⟨rowStatus_fits rows.1 fewUpper, rowStatus_fits rows.2 fewLower⟩

theorem systemKeyboard_packs_two :
    (packSystemKeys ⟨(· = ' '), fun _ => false, fun _ => false⟩
      [{ label := ['a'], grow := some 4 }, { label := ['b'], grow := some 5 }] 9).length ≤ 1 :=
  (systemKeyboard_packs.1 _ 9 (by decide +kernel)).2.2
    [[{ label := ['a'], grow := some 4 }, { label := ['b'], grow := some 5 }]] (cons_ne_nil _ _) rfl
    (forall_mem_singleton.mpr (by decide +kernel))

end Dinotty.SystemKeyboard
