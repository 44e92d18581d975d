/-
This file is the accounting of things that are held at places. A holding says how many of them each
place has, or owes when it is negative; all but finitely many places hold nothing.
-/

import Mathlib

namespace Holdings

open Function

variable {Place : Type}

/-- The holdings sum up to the total, at finitely many places. -/
def Sums (holding : Place → ℤ) (total : ℤ) : Prop :=
  ∃ places : Finset Place,
    (∀ place, place ∉ places → holding place = 0) ∧ ∑ place ∈ places, holding place = total

variable {holding changed : Place → ℤ} {total : ℤ}

theorem Sums.congr (sums : Sums holding total) (same : ∀ place, changed place = holding place) :
    Sums changed total := by
  rwa [show changed = holding from funext same]

theorem Sums.none (nothing : ∀ place, holding place = 0) : Sums holding 0 :=
  ⟨∅, fun place _ => nothing place, Finset.sum_empty⟩

theorem Sums.single (place : Place) (others : ∀ other, other ≠ place → holding other = 0) :
    Sums holding (holding place) := by
  refine ⟨{place}, fun other absent => ?_, Finset.sum_singleton _ _⟩
  exact others other fun same => absent (Finset.mem_singleton.mpr same)

theorem Sums.change (sums : Sums holding total) (place : Place)
    (others : ∀ other, other ≠ place → changed other = holding other) :
    Sums changed (total + changed place - holding place) := by
  classical
  obtain ⟨places, outside, sum⟩ := sums
  have widened : ∑ other ∈ insert place places, holding other = total := by
    rw [← sum]
    refine (Finset.sum_subset (Finset.subset_insert place places) ?_).symm
    intro other _ absent
    exact outside other absent
  have rest : ∑ other ∈ (insert place places).erase place, changed other =
      ∑ other ∈ (insert place places).erase place, holding other :=
    Finset.sum_congr rfl fun other mem => others other (Finset.ne_of_mem_erase mem)
  have mem : place ∈ insert place places := Finset.mem_insert_self place places
  refine ⟨insert place places, ?_, ?_⟩
  · intro other absent
    rw [Finset.mem_insert, not_or] at absent
    rw [others other absent.1, outside other absent.2]
  · rw [← Finset.add_sum_erase _ holding mem] at widened
    rw [← Finset.add_sum_erase _ changed mem, rest]
    omega

theorem Sums.transfer [DecidableEq Place] (sums : Sums holding total) {first second : Place}
    (apart : first ≠ second)
    (others : ∀ other, other ≠ first → other ≠ second → changed other = holding other)
    (even : changed first + changed second = holding first + holding second) :
    Sums changed total := by
  let halfway : Place → ℤ := update holding first (changed first)
  have half : Sums halfway (total + halfway first - holding first) :=
    sums.change first fun other ne => update_of_ne ne _ _
  have whole : Sums changed (total + halfway first - holding first + changed second -
      halfway second) := by
    refine half.change second fun other ne => ?_
    by_cases same : other = first
    · rw [same, show halfway first = changed first from update_self _ _ _]
    · rw [show halfway other = holding other from update_of_ne same _ _]
      exact others other same ne
  rw [show halfway first = changed first from update_self _ _ _,
    show halfway second = holding second from update_of_ne apart.symm _ _] at whole
  rwa [show total + changed first - holding first + changed second - holding second = total by
    omega] at whole

theorem Sums.le_total (sums : Sums holding total) (nonneg : ∀ place, 0 ≤ holding place)
    (place : Place) : holding place ≤ total := by
  obtain ⟨places, outside, sum⟩ := sums
  by_cases mem : place ∈ places
  · rw [← sum]
    exact Finset.single_le_sum (fun other _ => nonneg other) mem
  · rw [outside place mem, ← sum]
    exact Finset.sum_nonneg fun other _ => nonneg other

theorem Sums.eq_zero (sums : Sums holding 0) (nonneg : ∀ place, 0 ≤ holding place)
    (place : Place) : holding place = 0 :=
  le_antisymm (sums.le_total nonneg place) (nonneg place)

/-- What there is one of is at exactly one place. -/
theorem Sums.unique (sums : Sums holding 1) (nonneg : ∀ place, 0 ≤ holding place) :
    ∃ place, holding place = 1 ∧ ∀ other, other ≠ place → holding other = 0 := by
  classical
  have somewhere : ∃ place, holding place ≠ 0 := by
    by_contra nowhere
    obtain ⟨places, _, sum⟩ := sums
    refine absurd sum ?_
    rw [Finset.sum_eq_zero fun place _ => not_not.mp fun held => nowhere ⟨place, held⟩]
    exact zero_ne_one
  obtain ⟨place, held⟩ := somewhere
  have one : holding place = 1 := by
    have bound := sums.le_total nonneg place
    have := nonneg place
    omega
  refine ⟨place, one, fun other ne => ?_⟩
  let without : Place → ℤ := update holding place 0
  have rest : Sums without (1 + without place - holding place) :=
    sums.change place fun other ne => update_of_ne ne _ _
  rw [show without place = 0 from update_self _ _ _, one] at rest
  have nonneg' : ∀ other, 0 ≤ without other := by
    intro other
    by_cases same : other = place
    · rw [same, show without place = 0 from update_self _ _ _]
    · rw [show without other = holding other from update_of_ne same _ _]
      exact nonneg other
  rw [← show without other = holding other from update_of_ne ne _ _]
  exact Sums.eq_zero rest nonneg' other

end Holdings
