/-
This file is about stable sorting of lists that agree on what they show and on how their items
compare.
-/

import Mathlib

namespace StableSort

open List

variable {Item Other Shown : Type} {le : Item → Item → Bool}

/-! ### Sorting a part of a list -/

theorem takeWhile_append {item : Item} {first second : List Item}
    (before : ∀ other ∈ first, (!le item other) = true)
    (behind : ∀ other ∈ second, le item other = true) :
    (first ++ second).takeWhile (fun other => !le item other) = first ∧
      (first ++ second).dropWhile (fun other => !le item other) = second := by
  have stop : second.takeWhile (fun other => !le item other) = [] ∧
      second.dropWhile (fun other => !le item other) = second := by
    cases second with
    | nil => exact ⟨rfl, rfl⟩
    | cons head rest =>
      have kept := behind head mem_cons_self
      exact ⟨takeWhile_cons_of_neg (by simp [kept]), dropWhile_cons_of_neg (by simp [kept])⟩
  rw [takeWhile_append_of_pos before, dropWhile_append_of_pos before, stop.1, stop.2, append_nil]
  exact ⟨rfl, rfl⟩

theorem mergeSort_cons_eq (trans : ∀ first second third, le first second = true →
      le second third = true → le first third = true)
    (total : ∀ first second, (le first second || le second first) = true) (item : Item)
    (rest : List Item) :
    (item :: rest).mergeSort le = (rest.mergeSort le).takeWhile (fun other => !le item other) ++
        item :: (rest.mergeSort le).dropWhile (fun other => !le item other) := by
  obtain ⟨front, back, sorted, restSorted, before⟩ := mergeSort_cons trans total item rest
  have ordered := pairwise_mergeSort trans total (item :: rest)
  rw [sorted, pairwise_append, pairwise_cons] at ordered
  obtain ⟨first, second⟩ := takeWhile_append before fun other mem => ordered.2.1.1 other mem
  rw [restSorted, first, second]
  exact sorted

/-- Taking items away from a sorted list leaves what sorting the remaining items gives. -/
theorem filter_mergeSort (trans : ∀ first second third, le first second = true →
      le second third = true → le first third = true)
    (total : ∀ first second, (le first second || le second first) = true) (keep : Item → Bool)
    (items : List Item) :
    (items.mergeSort le).filter keep = (items.filter keep).mergeSort le := by
  induction items with
  | nil => simp
  | cons item rest ih =>
    obtain ⟨front, back, sorted, restSorted, before⟩ := mergeSort_cons trans total item rest
    have ordered := pairwise_mergeSort trans total (item :: rest)
    rw [sorted, pairwise_append, pairwise_cons] at ordered
    rw [restSorted, filter_append] at ih
    rw [sorted, filter_append]
    cases kept : keep item with
    | false =>
      rw [filter_cons_of_neg (by simp [kept]), filter_cons_of_neg (by simp [kept])]
      exact ih
    | true =>
      have beforeKept : ∀ other ∈ front.filter keep, (!le item other) = true :=
        fun other mem => before other (mem_of_mem_filter mem)
      have behindKept : ∀ other ∈ back.filter keep, le item other = true :=
        fun other mem => ordered.2.1.1 other (mem_of_mem_filter mem)
      obtain ⟨first, second⟩ := takeWhile_append beforeKept behindKept
      rw [filter_cons_of_pos kept, filter_cons_of_pos kept,
        mergeSort_cons_eq trans total, ← ih, first, second]

/-! ### Sorting two lists that show the same -/

/-- If two lists show the same, and items that show the same compare alike, then the sorted lists
show the same. -/
theorem map_mergeSort_eq {leOther : Other → Other → Bool} {view₁ : Item → Shown}
    {view₂ : Other → Shown} {items : List Item} {others : List Other}
    (same : items.map view₁ = others.map view₂)
    (alike : ∀ first ∈ items, ∀ second ∈ items, ∀ mine ∈ others, ∀ yours ∈ others,
      view₁ first = view₂ mine → view₁ second = view₂ yours →
      le first second = leOther mine yours) :
    (items.mergeSort le).map view₁ = (others.mergeSort leOther).map view₂ := by
  let pairs := items.zip others
  have lengths : items.length = others.length := by
    simpa only [length_map] using congrArg length same
  have firsts : pairs.map Prod.fst = items := map_fst_zip (Nat.le_of_eq lengths)
  have seconds : pairs.map Prod.snd = others := map_snd_zip (Nat.le_of_eq lengths.symm)
  have matching : ∀ pair ∈ pairs, view₁ pair.1 = view₂ pair.2 := by
    have maps : pairs.map (fun pair => view₁ pair.1) = pairs.map (fun pair => view₂ pair.2) := by
      calc pairs.map (fun pair => view₁ pair.1)
          _ = (pairs.map Prod.fst).map view₁ := map_map.symm
          _ = (pairs.map Prod.snd).map view₂ := by rw [firsts, seconds, same]
          _ = pairs.map (fun pair => view₂ pair.2) := map_map
    exact map_inj_left.mp maps
  have compared : ∀ first ∈ pairs, ∀ second ∈ pairs,
      le first.1 second.1 = leOther first.2 second.2 := fun first inFirst second inSecond =>
    alike _ (firsts ▸ mem_map_of_mem inFirst) _ (firsts ▸ mem_map_of_mem inSecond)
      _ (seconds ▸ mem_map_of_mem inFirst) _ (seconds ▸ mem_map_of_mem inSecond)
      (matching first inFirst) (matching second inSecond)
  have byFirst : (pairs.mergeSort fun first second => le first.1 second.1).map Prod.fst =
      items.mergeSort le := by
    rw [map_mergeSort (s := le) (f := Prod.fst) fun _ _ _ _ => rfl, firsts]
  have bySecond : (pairs.mergeSort fun first second => le first.1 second.1).map Prod.snd =
      others.mergeSort leOther := by
    rw [map_mergeSort compared, seconds]
  rw [← byFirst, ← bySecond, map_map, map_map]
  exact map_congr_left fun pair mem => matching pair (mem_mergeSort.mp mem)

end StableSort
