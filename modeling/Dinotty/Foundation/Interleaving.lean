/-
This file is a pool of threads on a shared state. A thread is the list of operations that it still
has to do; a step lets one thread do its first operation, which may put others in front of the rest,
or drop it. A lock has phases that are read off from the operations left to a thread, and a
discipline that keeps two threads from holding it at once.
-/

import Dinotty.Foundation.Fallible

namespace Interleaving

open List Option

variable {Shared Op Choice : Type}

structure Pool (Shared Op : Type) where
  shared : Shared
  threads : List (List Op)

/-- What an operation does when a thread does it: from the choice of the environment, the operations
after it and the shared state, the next shared state and the operations that are left. An operation
that cannot be done yet has no result. -/
abbrev Exec (Shared Op Choice : Type) :=
  Nat → Choice → Op → List Op → Shared → Option (Shared × List Op)

namespace Pool

/-- The thread at `index` does its first operation. -/
def step (exec : Exec Shared Op Choice) (pool : Pool Shared Op) (index : Nat)
    (choice : Choice) : Option (Pool Shared Op) :=
  match pool.threads[index]? with
  | some (op :: rest) =>
      (exec index choice op rest pool.shared).map fun result =>
        { shared := result.1, threads := pool.threads.set index result.2 }
  | _ => none

def spawn (pool : Pool Shared Op) (program : List Op) : Pool Shared Op :=
  { pool with threads := pool.threads ++ [program] }

variable {exec : Exec Shared Op Choice} {pool next : Pool Shared Op}

variable {index : Nat} {choice : Choice}

/-- A thread does its first operation and leaves the other threads alone. -/
structure Turn (exec : Exec Shared Op Choice) (index : Nat) (choice : Choice) (op : Op)
    (rest ops : List Op) (pool next : Pool Shared Op) : Prop where
  present : pool.threads[index]? = some (op :: rest)
  executed : exec index choice op rest pool.shared = some (next.shared, ops)
  ownNext : next.threads[index]? = some ops
  same : ∀ other, other ≠ index → next.threads[other]? = pool.threads[other]?

theorem step_cases (done : pool.step exec index choice = some next) :
    ∃ op rest ops, Turn exec index choice op rest ops pool next := by
  unfold step at done
  split at done
  next op rest held =>
    obtain ⟨⟨shared, ops⟩, ran, rfl⟩ := map_eq_some_iff.mp done
    have bound : index < pool.threads.length := (List.getElem?_eq_some_iff.mp held).1
    exact ⟨op, rest, ops, held, ran, getElem?_set_self bound,
      fun other away => getElem?_set_ne (Ne.symm away)⟩
  · exact absurd done (by simp)

theorem step_length (done : pool.step exec index choice = some next) :
    next.threads.length = pool.threads.length := by
  unfold step at done
  split at done
  · obtain ⟨res, -, rfl⟩ := map_eq_some_iff.mp done
    exact length_set
  · exact absurd done (by simp)

theorem after_cases (own : next.threads[index]? = some ops)
    (same : ∀ other, other ≠ index → next.threads[other]? = pool.threads[other]?) {other : Nat}
    {others : List Op} (held : next.threads[other]? = some others) :
    other = index ∧ others = ops ∨ other ≠ index ∧ pool.threads[other]? = some others := by
  by_cases here : other = index
  · subst here
    rw [own] at held
    exact .inl ⟨rfl, (some.inj held).symm⟩
  · rw [same other here] at held
    exact .inr ⟨here, held⟩

theorem exists_step {holds : List Op → Prop} {before after : List Op}
    (present : pool.threads[index]? = some before) (own : next.threads[index]? = some after)
    (same : ∀ other, other ≠ index → next.threads[other]? = pool.threads[other]?) :
    (∃ ops ∈ next.threads, holds ops) ∨ holds before ↔
      (∃ ops ∈ pool.threads, holds ops) ∨ holds after := by
  constructor
  · rintro (⟨ops, mem, held⟩ | held)
    · obtain ⟨other, atOther⟩ := mem_iff_getElem?.mp mem
      rcases after_cases own same atOther with ⟨rfl, rfl⟩ | ⟨-, old⟩
      · exact .inr held
      · exact .inl ⟨ops, mem_of_getElem? old, held⟩
    · exact .inl ⟨before, mem_of_getElem? present, held⟩
  · rintro (⟨ops, mem, held⟩ | held)
    · obtain ⟨other, atOther⟩ := mem_iff_getElem?.mp mem
      by_cases here : other = index
      · subst here
        exact .inr (some.inj (present.symm.trans atOther) ▸ held)
      · exact .inl ⟨ops, mem_of_getElem? ((same other here).trans atOther), held⟩
    · exact .inl ⟨after, mem_of_getElem? own, held⟩

theorem spawn_cases {program : List Op} (held : (pool.spawn program).threads[index]? = some ops) :
    pool.threads[index]? = some ops ∨ index = pool.threads.length ∧ ops = program := by
  unfold spawn at held
  by_cases old : index < pool.threads.length
  · rw [getElem?_append_left old] at held
    exact .inl held
  · rw [getElem?_append_right (Nat.le_of_not_lt old)] at held
    obtain ⟨bound, rfl⟩ := List.getElem?_eq_some_iff.mp held
    rw [length_singleton] at bound
    exact .inr ⟨by omega, by simp⟩

theorem spawn_kept (program : List Op) (held : pool.threads[index]? = some ops) :
    (pool.spawn program).threads[index]? = some ops := by
  rw [spawn, getElem?_append_left (List.getElem?_eq_some_iff.mp held).1]
  exact held

/-- Every thread stands where it should, given the shared state. -/
def Stands (stands : Nat → Shared → List Op → Prop) (pool : Pool Shared Op) : Prop :=
  ∀ index ops, pool.threads[index]? = some ops → stands index pool.shared ops

variable {stands : Nat → Shared → List Op → Prop}

theorem Turn.forall {op : Op} {rest ops : List Op}
    (turn : Turn exec index choice op rest ops pool next) (own : stands index next.shared ops)
    (others : ∀ other ops, other ≠ index → pool.threads[other]? = some ops →
      stands other next.shared ops) : next.Stands stands := by
  intro other opsOther held
  rcases after_cases turn.ownNext turn.same held with ⟨rfl, rfl⟩ | ⟨away, before⟩
  · exact own
  · exact others other opsOther away before

theorem step_stands (all : pool.Stands stands) (done : pool.step exec index choice = some next)
    (own : ∀ op rest ops, pool.threads[index]? = some (op :: rest) →
      stands index pool.shared (op :: rest) →
      exec index choice op rest pool.shared = some (next.shared, ops) →
      stands index next.shared ops)
    (others : ∀ other ops, other ≠ index → pool.threads[other]? = some ops →
      stands other pool.shared ops → stands other next.shared ops) : next.Stands stands := by
  obtain ⟨op, rest, ops, turn⟩ := step_cases done
  exact turn.forall (own op rest ops turn.present (all index _ turn.present) turn.executed)
    fun other ops away before => others other ops away before (all other ops before)

theorem spawn_stands (all : pool.Stands stands) {program : List Op}
    (start : stands pool.threads.length pool.shared program) :
    (pool.spawn program).Stands stands := by
  intro index ops held
  rcases spawn_cases held with old | ⟨rfl, rfl⟩
  · exact all index ops old
  · exact start

end Pool

/-! ### The newest thread -/

namespace Pool

variable {exec : Exec Shared Op Choice} {shared : Shared} {threads : List (List Op)}

theorem step_newest (choice : Choice) (op : Op) (rest : List Op) :
    (mk shared (threads ++ [op :: rest])).step exec threads.length choice =
      (exec threads.length choice op rest shared).map fun res =>
        ⟨res.1, threads ++ [res.2]⟩ := by
  simp [step]

end Pool

/-! ### What an operation puts in front of the rest -/

/-- The operations left to a thread are the rest, or none, behind operations of a kind. -/
inductive Pushes (kind : Op → Prop) (rest : List Op) : List Op → Prop where
  | rest : Pushes kind rest rest
  | stop : Pushes kind rest []
  | cons {op : Op} {ops : List Op} (ofKind : kind op) (later : Pushes kind rest ops) :
      Pushes kind rest (op :: ops)

variable {kind : Op → Prop} {rest ops : List Op}

theorem Pushes.append {front : List Op} (ofKind : ∀ op ∈ front, kind op)
    (later : Pushes kind rest ops) :
    Pushes kind rest (front ++ ops) := by
  induction front with
  | nil => exact later
  | cons op front ih =>
    exact .cons (ofKind op mem_cons_self)
      (ih fun other mem => ofKind other (mem_cons_of_mem op mem))

theorem Pushes.mono {other : Op → Prop} (pushes : Pushes kind rest ops)
    (weaker : ∀ op, kind op → other op) : Pushes other rest ops := by
  induction pushes with
  | rest => exact .rest
  | stop => exact .stop
  | cons ofKind later ih => exact .cons (weaker _ ofKind) ih

theorem Pushes.forall {property : Op → Prop} (pushes : Pushes kind rest ops)
    (ofKind : ∀ op, kind op → property op) (all : ∀ op ∈ rest, property op) :
    ∀ op ∈ ops, property op := by
  induction pushes with
  | rest => exact all
  | stop => exact nofun
  | cons head later ih =>
    intro op mem
    rcases mem_cons.mp mem with rfl | mem
    · exact ofKind op head
    · exact ih op mem

/-! ### Locks -/

/-- A lock: the thread that holds it, the phase of a thread that does not, and the phases before an
operation. -/
structure Lock (Shared Op Phase : Type) where
  holder : Shared → Option Nat
  free : Phase
  before : Op → Phase → Option Phase

namespace Lock

variable {Phase : Type} (lock : Lock Shared Op Phase)

/-- The phase of a thread, read off from the end of its operations. -/
def phase : List Op → Option Phase
  | [] => some lock.free
  | op :: rest => (phase rest).bind (lock.before op)

/-- The operations of a thread have a phase, and it is the free one unless the thread holds the
lock. -/
def Guards (index : Nat) (shared : Shared) (ops : List Op) : Prop :=
  ∃ phase, lock.phase ops = some phase ∧ (phase ≠ lock.free ↔ lock.holder shared = some index)

/-- A thread keeps the lock or does without it, takes it when nobody holds it, or gives it back. -/
inductive Passes (me : Nat) (before after : Shared) (earlier later : Phase) : Prop where
  | keep (same : lock.holder after = lock.holder before)
      (phases : later = lock.free ↔ earlier = lock.free)
  | take (unheld : lock.holder before = none) (held : lock.holder after = some me)
      (busy : later ≠ lock.free)
  | release (busy : earlier ≠ lock.free) (unheld : lock.holder after = none)
      (done : later = lock.free)

variable {lock}

variable {ops : List Op}

@[simp] theorem phase_nil : lock.phase [] = some lock.free := rfl

@[simp] theorem phase_cons (op : Op) (rest : List Op) :
    lock.phase (op :: rest) = (lock.phase rest).bind (lock.before op) := rfl

theorem phase_pushes
    (pushes : Pushes (fun op => lock.before op lock.free = some lock.free) rest ops)
    (free : lock.phase rest = some lock.free) : lock.phase ops = some lock.free := by
  induction pushes with
  | rest => exact free
  | stop => rfl
  | cons ofKind later ih =>
    rw [phase_cons, ih, bind_some, ofKind]

variable {index : Nat}

theorem Guards.holds {shared : Shared} {phase : Phase} (guards : lock.Guards index shared ops)
    (held : lock.phase ops = some phase) (busy : phase ≠ lock.free) :
    lock.holder shared = some index := by
  obtain ⟨other, same, holds⟩ := guards
  rw [held] at same
  cases same
  exact holds.mp busy

variable {pool : Pool Shared Op}

theorem exclusive (all : pool.Stands lock.Guards) {first second : Nat}
    {firstOps secondOps : List Op} {firstPhase secondPhase : Phase}
    (firstPresent : pool.threads[first]? = some firstOps)
    (secondPresent : pool.threads[second]? = some secondOps)
    (firstIn : lock.phase firstOps = some firstPhase) (firstBusy : firstPhase ≠ lock.free)
    (secondIn : lock.phase secondOps = some secondPhase) (secondBusy : secondPhase ≠ lock.free) :
    first = second := by
  have firstHolds := (all first firstOps firstPresent).holds firstIn firstBusy
  have secondHolds := (all second secondOps secondPresent).holds secondIn secondBusy
  rw [firstHolds] at secondHolds
  exact some.inj secondHolds

theorem Guards.free_of_unheld {shared : Shared} (guards : lock.Guards index shared ops)
    (unheld : lock.holder shared = none) :
    lock.phase ops = some lock.free := by
  obtain ⟨phase, present, holds⟩ := guards
  rw [present]
  refine congrArg some (Classical.not_not.mp fun busy => ?_)
  have held := holds.mp busy
  rw [unheld] at held
  exact nomatch held

theorem Guards.passes {me : Nat} {before after : Shared} {earlier later : Phase}
    (holds : earlier ≠ lock.free ↔ lock.holder before = some me)
    (present : lock.phase ops = some later) (passes : lock.Passes me before after earlier later) :
    lock.Guards me after ops := by
  refine ⟨later, present, ?_⟩
  cases passes with
  | keep same phases => rw [same, ← holds, Ne, phases]
  | take unheld held busy => exact iff_of_true busy held
  | release busy unheld done =>
    refine iff_of_false (fun stillBusy => stillBusy done) fun held => ?_
    rw [unheld] at held
    exact nomatch held

theorem Guards.other {me other : Nat} {before after : Shared} {earlier later : Phase}
    (guards : lock.Guards other before ops) (away : other ≠ me)
    (holds : earlier ≠ lock.free ↔ lock.holder before = some me)
    (passes : lock.Passes me before after earlier later) : lock.Guards other after ops := by
  obtain ⟨phase, present, otherHolds⟩ := guards
  refine ⟨phase, present, otherHolds.trans ?_⟩
  cases passes with
  | keep same phases => rw [same]
  | take unheld held busy =>
    rw [unheld, held]
    exact iff_of_false nofun fun same => away (some.inj same).symm
  | release busy unheld done =>
    rw [holds.mp busy, unheld]
    exact iff_of_false (fun same => away (some.inj same).symm) nofun

variable (lock) in
/-- Every thread is in the phase that goes with the holder of the lock, and the holder is one of
the threads. -/
structure Keeps (pool : Pool Shared Op) : Prop where
  guards : pool.Stands lock.Guards
  holder : ∀ index, lock.holder pool.shared = some index → index < pool.threads.length

/-- An operation that passes the lock on properly keeps the discipline of all threads. -/
theorem Keeps.step {exec : Exec Shared Op Choice} {next : Pool Shared Op} {choice : Choice}
    (keeps : lock.Keeps pool)
    (proper : ∀ op rest ops earlier, lock.phase (op :: rest) = some earlier →
      (earlier ≠ lock.free ↔ lock.holder pool.shared = some index) →
      exec index choice op rest pool.shared = some (next.shared, ops) →
      ∃ later, lock.phase ops = some later ∧
        lock.Passes index pool.shared next.shared earlier later)
    (done : pool.step exec index choice = some next) : lock.Keeps next := by
  obtain ⟨op, rest, ops, present, ran, -, -⟩ := Pool.step_cases done
  obtain ⟨earlier, phased, holds⟩ := keeps.guards index _ present
  obtain ⟨later, laterPhased, passes⟩ := proper op rest ops earlier phased holds ran
  constructor
  · refine Pool.step_stands keeps.guards done ?_ fun other others away _ guards =>
      guards.other away holds passes
    intro op' rest' ops' present' _ executed'
    rw [present] at present'
    obtain ⟨rfl, rfl⟩ := cons.inj (some.inj present')
    rw [ran] at executed'
    cases executed'
    exact .passes holds laterPhased passes
  · intro holder held
    rw [Pool.step_length done]
    cases passes with
    | keep same phases => exact keeps.holder holder (same.symm.trans held)
    | take unheld taken busy =>
      rw [taken] at held
      cases held
      exact (List.getElem?_eq_some_iff.mp present).1
    | release busy unheld done =>
      rw [unheld] at held
      exact nomatch held

/-- The holder is a thread with an operation left to do under the lock. -/
theorem Keeps.inside (keeps : lock.Keeps pool) (held : lock.holder pool.shared = some index) :
    ∃ op rest, pool.threads[index]? = some (op :: rest) ∧
      ∃ after phase, lock.before op after = some phase ∧ phase ≠ lock.free := by
  obtain ⟨ops, present⟩ : ∃ ops, pool.threads[index]? = some ops :=
    ⟨_, List.getElem?_eq_getElem (keeps.holder index held)⟩
  obtain ⟨phase, phased, holds⟩ := keeps.guards index ops present
  cases ops with
  | nil => exact absurd (some.inj phased).symm (holds.mpr held)
  | cons op rest =>
    obtain ⟨after, -, head⟩ := bind_eq_some_iff.mp phased
    exact ⟨op, rest, present, after, phase, head, holds.mpr held⟩

theorem Keeps.spawn (keeps : lock.Keeps pool) {program : List Op}
    (free : lock.phase program = some lock.free) : lock.Keeps (pool.spawn program) := by
  constructor
  · refine Pool.spawn_stands keeps.guards
      ⟨_, free, iff_of_false (fun busy => busy rfl) fun held => ?_⟩
    exact absurd (keeps.holder _ held) (Nat.lt_irrefl _)
  · intro index held
    refine Nat.lt_of_lt_of_le (keeps.holder index held) ?_
    rw [Pool.spawn, length_append]
    exact Nat.le_add_right _ _

theorem Keeps.congr {next : Pool Shared Op} (keeps : lock.Keeps pool)
    (threads : next.threads = pool.threads)
    (holder : lock.holder next.shared = lock.holder pool.shared) : lock.Keeps next := by
  constructor
  · intro index ops held
    rw [threads] at held
    obtain ⟨phase, phased, holds⟩ := keeps.guards index ops held
    exact ⟨phase, phased, by rw [holder]; exact holds⟩
  · rw [threads, holder]
    exact keeps.holder

end Lock

end Interleaving
