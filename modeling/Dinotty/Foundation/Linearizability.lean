/-
This file is about calls that run as threads on a shared state and take effect one after another,
each of them at its first operation, in an order that keeps to real time.
-/

import Dinotty.Foundation.Runs

namespace Linearizability

open Interleaving List

variable {Shared Op Choice Request : Type}

/-- A pool of threads with the call that each of them runs and the order in which the calls have
taken effect. -/
structure History (Shared Op Request : Type) where
  pool : Pool Shared Op
  calls : List Request := []
  order : List Nat := []

/-- A call takes effect at its first operation and at no other. -/
structure Commits (program : Request → List Op) (exec : Exec Shared Op Choice)
    (commits : Op → Bool) : Prop where
  start : ∀ request, ∃ op rest, program request = op :: rest ∧ commits op = true ∧
    ∀ other ∈ rest, commits other = false
  later : ∀ index choice op rest shared result, exec index choice op rest shared = some result →
    (∀ other ∈ rest, commits other = false) → ∀ other ∈ result.2, commits other = false

variable (program : Request → List Op) (exec : Exec Shared Op Choice) (commits : Op → Bool)

namespace History

def after (history : History Shared Op Request) : Event Request Choice → History Shared Op Request
  | .request request =>
      { history with
        pool := history.pool.spawn (program request)
        calls := history.calls ++ [request] }
  | .step index choice =>
      match history.pool.step exec index choice with
      | none => history
      | some next =>
          { history with
            pool := next
            order := if (history.pool.at index).any commits then history.order ++ [index]
              else history.order }

/-- One call has returned before the other begins. -/
def Precedes (start : History Shared Op Request) (events : List (Event Request Choice))
    (first second : Nat) : Prop :=
  ∃ front request back, events = front ++ .request request :: back ∧
    (Runs.run (after program exec commits) start front).pool.threads[first]? = some [] ∧
    (Runs.run (after program exec commits) start front).pool.threads.length = second

/-- Every thread has still to take effect, with all its operations, or has taken effect, with none
left that would. -/
structure Regular (history : History Shared Op Request) : Prop where
  lengths : history.pool.threads.length = history.calls.length
  once : history.order.Nodup
  bound : ∀ index ∈ history.order, index < history.pool.threads.length
  place : ∀ index ops, history.pool.threads[index]? = some ops →
    (index ∉ history.order ∧ ∃ request, history.calls[index]? = some request ∧
      ops = program request) ∨
    (index ∈ history.order ∧ ∀ op ∈ ops, commits op = false)

/-- What the calls that have taken effect lead to, one after the other. -/
def outcome (apply : Shared → Request → Shared) (start : Shared)
    (history : History Shared Op Request) : Shared :=
  (history.order.filterMap fun index => history.calls[index]?).foldl apply start

variable {program exec commits} {history : History Shared Op Request}
  {apply : Shared → Request → Shared} {start : Shared}

theorem Regular.outcome_request (regular : history.Regular program commits) (request : Request) :
    (history.after program exec commits (.request request)).outcome apply start =
      history.outcome apply start := by
  unfold outcome after
  refine congrArg (foldl apply start) (filterMap_congr fun index mem => ?_)
  exact getElem?_append_left (regular.lengths ▸ regular.bound index mem)

variable {index : Nat}

theorem outcome_commit {request : Request} (next : Pool Shared Op)
    (called : history.calls[index]? = some request) :
    outcome apply start { history with pool := next, order := history.order ++ [index] } =
      apply (history.outcome apply start) request := by
  unfold outcome
  dsimp only
  rw [filterMap_append, foldl_append]
  simp [called]

theorem Regular.request (regular : history.Regular program commits) (request : Request) :
    (history.after program exec commits (.request request)).Regular program commits where
  lengths := by
    unfold after Pool.spawn
    dsimp only
    rw [length_append, length_append, regular.lengths]
    rfl
  once := regular.once
  bound := fun index mem => by
    unfold after Pool.spawn
    dsimp only
    rw [length_append]
    exact Nat.lt_add_right _ (regular.bound index mem)
  place := fun index ops held => by
    have bounds (inOrder : index ∈ history.order) := regular.bound index inOrder
    rcases Pool.spawn_cases held with old | ⟨rfl, rfl⟩
    · have small := (List.getElem?_eq_some_iff.mp old).1
      rcases regular.place index ops old with ⟨pending, call, called, fresh⟩ | done
      · refine .inl ⟨pending, call, ?_, fresh⟩
        exact (getElem?_append_left (regular.lengths ▸ small)).trans called
      · exact .inr done
    · refine .inl ⟨fun inOrder => Nat.lt_irrefl _ (bounds inOrder), request, ?_, rfl⟩
      unfold after
      dsimp only
      rw [regular.lengths]
      exact getElem?_concat_length

section

variable (regular : history.Regular program commits) (rules : Commits program exec commits)
include regular rules

theorem Regular.step_cases {choice : Choice} {next : Pool Shared Op}
    (done : history.pool.step exec index choice = some next) :
    ∃ op rest ops, history.pool.threads[index]? = some (op :: rest) ∧
      exec index choice op rest history.pool.shared = some (next.shared, ops) ∧
      next.threads[index]? = some ops ∧
      (∀ other, other ≠ index → next.threads[other]? = history.pool.threads[other]?) ∧
      (∀ other ∈ ops, commits other = false) ∧
      ((commits op = true ∧ index ∉ history.order ∧
          ∃ request, history.calls[index]? = some request ∧ program request = op :: rest) ∨
        (commits op = false ∧ index ∈ history.order)) := by
  obtain ⟨op, rest, ops, held, ran, own, same⟩ := Pool.step_cases done
  rcases regular.place index _ held with ⟨pending, request, called, fresh⟩ | ⟨taken, left⟩
  · obtain ⟨first, others, isProgram, committing, restLeft⟩ := rules.start request
    obtain ⟨rfl, rfl⟩ := cons.inj (fresh.trans isProgram)
    exact ⟨op, rest, ops, held, ran, own, same, rules.later _ _ _ _ _ _ ran restLeft,
      .inl ⟨committing, pending, request, called, fresh.symm⟩⟩
  · exact ⟨op, rest, ops, held, ran, own, same,
      rules.later _ _ _ _ _ _ ran fun other mem =>
        left other (mem_cons_of_mem _ mem),
      .inr ⟨left op mem_cons_self, taken⟩⟩

theorem Regular.step {choice : Choice} {next : Pool Shared Op}
    (done : history.pool.step exec index choice = some next) :
    Regular program commits
      { history with
        pool := next
        order := if (history.pool.at index).any commits then history.order ++ [index]
          else history.order } := by
  obtain ⟨op, rest, ops, present, -, own, same, left, effect⟩ := regular.step_cases rules done
  have length := Pool.step_length done
  have small := (List.getElem?_eq_some_iff.mp present).1
  rw [Pool.at_eq present, Option.any_some]
  rcases effect with ⟨committing, pending, -⟩ | ⟨silent, taken⟩
  · rw [if_pos committing]
    refine ⟨length.trans regular.lengths, ?_, fun other mem => ?_, fun other opsOther there => ?_⟩
    · exact regular.once.append (nodup_singleton _) (disjoint_singleton.mpr pending)
    · rw [length]
      rcases mem_append.mp mem with old | new
      · exact regular.bound other old
      · exact mem_singleton.mp new ▸ small
    · rcases Pool.after_cases own same there with ⟨rfl, rfl⟩ | ⟨away, before⟩
      · exact .inr ⟨mem_append_right _ (mem_singleton.mpr rfl), left⟩
      · refine (regular.place other opsOther before).imp (fun fresh => ⟨fun mem => ?_, fresh.2⟩)
          fun held => ⟨mem_append_left _ held.1, held.2⟩
        rcases mem_append.mp mem with old | new
        · exact fresh.1 old
        · exact away (mem_singleton.mp new)
  · rw [if_neg (by simp [silent])]
    refine ⟨length.trans regular.lengths, regular.once, fun other mem => ?_,
      fun other opsOther there => ?_⟩
    · rw [length]
      exact regular.bound other mem
    · rcases Pool.after_cases own same there with ⟨rfl, rfl⟩ | ⟨-, before⟩
      · exact .inr ⟨taken, left⟩
      · exact regular.place other opsOther before

theorem Regular.after (event : Event Request Choice) :
    (history.after program exec commits event).Regular program commits := by
  cases event with
  | request request => exact regular.request request
  | step index choice =>
    rw [History.after]
    split
    · exact regular
    next next done =>
      exact regular.step rules done

theorem Regular.run (events : List (Event Request Choice)) :
    (Runs.run (History.after program exec commits) history events).Regular program commits :=
  Runs.kept (Regular program commits) (fun _ event regular => regular.after rules event) regular
    events

end

theorem order_prefix (history : History Shared Op Request) (events : List (Event Request Choice)) :
    history.order <+: (Runs.run (after program exec commits) history events).order := by
  induction events generalizing history with
  | nil => exact prefix_refl _
  | cons event rest ih =>
    refine IsPrefix.trans ?_ (ih _)
    cases event with
    | request request => exact prefix_refl _
    | step index choice =>
      rw [after]
      split
      · exact prefix_refl _
      · dsimp only
        split
        · exact prefix_append _ _
        · exact prefix_refl _

section

variable (regular : history.Regular program commits) (rules : Commits program exec commits)
include regular rules

theorem Regular.returned (returned : history.pool.threads[index]? = some []) :
    index ∈ history.order := by
  rcases regular.place index [] returned with ⟨-, call, -, empty⟩ | done
  · obtain ⟨op, rest, isProgram, -⟩ := rules.start call
    exact absurd (empty.trans isProgram) (by simp)
  · exact done.1

theorem Regular.real_time {events : List (Event Request Choice)} {first second : Nat}
    (precedes : Precedes program exec commits history events first second) :
    ∃ before behind,
      (Runs.run (History.after program exec commits) history events).order = before ++ behind ∧
      first ∈ before ∧ second ∉ before := by
  obtain ⟨front, request, back, rfl, returned, begins⟩ := precedes
  have there := regular.run rules front
  obtain ⟨behind, grown⟩ : (Runs.run (History.after program exec commits) history front).order <+:
      (Runs.run (History.after program exec commits)
        (Runs.run (History.after program exec commits) history front)
        (.request request :: back)).order := order_prefix _ _
  refine ⟨(Runs.run (History.after program exec commits) history front).order, behind, ?_, ?_,
    fun mem => ?_⟩
  · rw [Runs.run_append]
    exact grown.symm
  · exact there.returned rules returned
  · exact Nat.lt_irrefl _ (begins ▸ there.bound second mem)

theorem Regular.pairwise (events : List (Event Request Choice)) :
    (Runs.run (History.after program exec commits) history events).order.Pairwise
      fun earlier later => ¬ Precedes program exec commits history events later earlier := by
  refine pairwise_iff_getElem.mpr fun earlier later earlierBound laterBound less precedes => ?_
  obtain ⟨before, behind, split, among, notAmong⟩ := regular.real_time rules precedes
  have once := (regular.run rules events).once
  simp only [split] at once earlierBound laterBound among notAmong
  obtain ⟨place, small, same⟩ := mem_iff_getElem.mp among
  have inBoth : place < (before ++ behind).length := by
    rw [length_append]
    omega
  have front : (before ++ behind)[place] = before[place] := getElem_append_left small
  have atPlace : place = later := once.getElem_inj_iff.mp (front.trans same)
  refine notAmong ?_
  rw [getElem_append_left (by omega)]
  exact getElem_mem _

theorem Regular.perm (finished : ∀ ops ∈ history.pool.threads, ops = []) :
    history.order.Perm (range history.calls.length) := by
  refine (perm_ext_iff_of_nodup regular.once nodup_range).mpr fun index => ?_
  rw [mem_range, ← regular.lengths]
  refine ⟨regular.bound index, fun small => ?_⟩
  refine regular.returned rules ?_
  rw [getElem?_eq_getElem small, finished _ (getElem_mem small)]

end

end History

end Linearizability
