/-
This file is a chain of jobs, in which each job begins when the one before it is over. It is
kept as the list of the phases that the jobs are in, oldest first.
-/

import Mathlib

namespace JobChain

open List Option

variable {Phase : Type} {jobs : List Phase}

/-! ### Positions -/

variable {index other : Nat} {new phase : Phase}

theorem getElem?_set_cases (found : (jobs.set index new)[other]? = some phase) :
    other = index ∧ phase = new ∨ other ≠ index ∧ jobs[other]? = some phase := by
  rw [getElem?_set] at found
  split_ifs at found with same bound
  · exact Or.inl ⟨same.symm, (some.inj found).symm⟩
  · exact Or.inr ⟨fun equal => same equal.symm, found⟩

theorem getElem?_snoc_cases (found : (jobs ++ [new])[other]? = some phase) :
    other = jobs.length ∧ phase = new ∨ other < jobs.length ∧ jobs[other]? = some phase := by
  rcases Nat.lt_or_ge other jobs.length with earlier | later
  · rw [getElem?_append_left earlier] at found
    exact Or.inr ⟨earlier, found⟩
  · rw [getElem?_append_right later] at found
    have bound := (List.getElem?_eq_some_iff.mp found).1
    rw [length_singleton] at bound
    have last : other = jobs.length := by omega
    rw [last, Nat.sub_self] at found
    exact Or.inl ⟨last, (some.inj found).symm⟩

theorem getElem?_set_other (new : Phase) (ne : other ≠ index) (found : jobs[other]? = some phase) :
    (jobs.set index new)[other]? = some phase := by
  rw [getElem?_set_ne ne.symm]
  exact found

variable {old : Phase}

theorem getElem?_set_same (new : Phase) (found : jobs[index]? = some old) :
    (jobs.set index new)[index]? = some new :=
  getElem?_set_self (List.getElem?_eq_some_iff.mp found).1

/-! ### Chains -/

/-- Which phases a job has not begun in, and which it has ended in. -/
structure Stages (Phase : Type) where
  queued : Phase → Bool
  ended : Phase → Bool

/-- A job after one that is not over has not begun. -/
def Ordered (stages : Stages Phase) (jobs : List Phase) : Prop :=
  ∀ (earlier later : Nat) (first second : Phase), earlier < later →
    jobs[earlier]? = some first → jobs[later]? = some second →
    stages.ended first = true ∨ stages.queued second = true

variable {stages : Stages Phase}

theorem ordered_nil : Ordered stages [] := by
  intro earlier later first second _ found
  cases found

section

variable (ordered : Ordered stages jobs)
include ordered

theorem Ordered.over_before {earlier later : Nat} {first second : Phase} (before : earlier < later)
    (atEarlier : jobs[earlier]? = some first) (atLater : jobs[later]? = some second)
    (begun : stages.queued second = false) :
    stages.ended first = true := by
  rcases ordered earlier later first second before atEarlier atLater with ended | queued
  · exact ended
  · rw [begun] at queued
    cases queued

theorem Ordered.unique {first second : Phase} (atIndex : jobs[index]? = some first)
    (atOther : jobs[other]? = some second) (firstBegun : stages.queued first = false)
    (secondBegun : stages.queued second = false) (firstRuns : stages.ended first = false)
    (secondRuns : stages.ended second = false) :
    index = other := by
  rcases Nat.lt_trichotomy index other with before | same | after
  · have ended := ordered.over_before before atIndex atOther secondBegun
    rw [firstRuns] at ended
    cases ended
  · exact same
  · have ended := ordered.over_before after atOther atIndex firstBegun
    rw [secondRuns] at ended
    cases ended

theorem Ordered.snoc
    (allowed : stages.queued new = true ∨ ∀ phase ∈ jobs, stages.ended phase = true) :
    Ordered stages (jobs ++ [new]) := by
  intro earlier later first second before atEarlier atLater
  rcases getElem?_snoc_cases atEarlier with ⟨rfl, rfl⟩ | ⟨bound, found⟩
  · rcases getElem?_snoc_cases atLater with ⟨rfl, -⟩ | ⟨laterBound, -⟩
    · exact absurd before (Nat.lt_irrefl _)
    · exact absurd before (by omega)
  · rcases getElem?_snoc_cases atLater with ⟨rfl, rfl⟩ | ⟨-, laterFound⟩
    · exact allowed.symm.imp (fun all => all first (mem_of_getElem? found)) id
    · exact ordered earlier later first second before found laterFound

theorem Ordered.advance (found : jobs[index]? = some old) (begun : stages.queued old = false)
    (runs : stages.ended old = false) :
    Ordered stages (jobs.set index new) := by
  intro earlier later first second before atEarlier atLater
  rcases getElem?_set_cases atEarlier with ⟨rfl, rfl⟩ | ⟨-, earlierFound⟩
  · rcases getElem?_set_cases atLater with ⟨rfl, -⟩ | ⟨-, laterFound⟩
    · exact absurd before (Nat.lt_irrefl _)
    · rcases ordered earlier later old second before found laterFound with ended | queued
      · rw [runs] at ended
        cases ended
      · exact Or.inr queued
  · rcases getElem?_set_cases atLater with ⟨rfl, rfl⟩ | ⟨-, laterFound⟩
    · exact Or.inl (ordered.over_before before earlierFound found begun)
    · exact ordered earlier later first second before earlierFound laterFound

theorem Ordered.begin {before : Phase} (found : jobs[index + 1]? = some old)
    (runs : stages.ended old = false) (predecessor : jobs[index]? = some before)
    (ended : stages.ended before = true) (begun : stages.queued before = false) :
    Ordered stages (jobs.set (index + 1) new) := by
  intro earlier later first second order atEarlier atLater
  rcases getElem?_set_cases atEarlier with ⟨rfl, rfl⟩ | ⟨-, earlierFound⟩
  · rcases getElem?_set_cases atLater with ⟨rfl, -⟩ | ⟨-, laterFound⟩
    · exact absurd order (Nat.lt_irrefl _)
    · rcases ordered (index + 1) later old second order found laterFound with wrong | queued
      · rw [runs] at wrong
        cases wrong
      · exact Or.inr queued
  · rcases getElem?_set_cases atLater with ⟨rfl, rfl⟩ | ⟨-, laterFound⟩
    · rcases Nat.lt_or_eq_of_le (Nat.lt_succ_iff.mp order) with much | rfl
      · exact Or.inl (ordered.over_before much earlierFound predecessor begun)
      · rw [predecessor] at earlierFound
        exact Or.inl (some.inj earlierFound ▸ ended)
    · exact ordered earlier later first second order earlierFound laterFound

theorem Ordered.all_over {last : Phase} (found : jobs[index]? = some last)
    (isLast : index + 1 = jobs.length) (ended : stages.ended last = true)
    (begun : stages.queued last = false) :
    ∀ phase ∈ jobs, stages.ended phase = true := by
  intro phase mem
  obtain ⟨other, atOther⟩ := mem_iff_getElem?.mp mem
  have bound := (List.getElem?_eq_some_iff.mp atOther).1
  rcases Nat.lt_or_eq_of_le (Nat.lt_succ_iff.mp (isLast ▸ bound : other < index + 1)) with
    earlier | rfl
  · exact ordered.over_before earlier atOther found begun
  · rw [found] at atOther
    exact some.inj atOther ▸ ended

end

end JobChain
