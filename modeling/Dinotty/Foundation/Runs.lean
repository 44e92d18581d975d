/-
This file is the runs of a machine that takes one event after another, and of a pool of threads.
What an allowed event keeps, a run of allowed events keeps.
-/

import Dinotty.Foundation.Interleaving

/-! ### Runs of a machine -/

namespace Runs

open List

variable {State Event : Type} (after : State → Event → State)

def run (state : State) (events : List Event) : State := events.foldl after state

/-- Every event of a run is allowed in the state that it meets. -/
def Careful (allowed : State → Event → Prop) : State → List Event → Prop
  | _, [] => True
  | state, event :: rest => allowed state event ∧ Careful allowed (after state event) rest

variable {after}

theorem run_append (state : State) (earlier later : List Event) :
    run after state (earlier ++ later) = run after (run after state earlier) later :=
  foldl_append

instance decidableCareful {allowed : State → Event → Prop}
    [decide : ∀ state event, Decidable (allowed state event)] :
    ∀ (state : State) (events : List Event), Decidable (Careful after allowed state events)
  | _, [] => isTrue trivial
  | state, event :: rest =>
      have : Decidable (Careful after allowed (after state event) rest) :=
        decidableCareful (after state event) rest
      inferInstanceAs (Decidable (_ ∧ _))

variable {allowed : State → Event → Prop} {state : State}

theorem Careful.kept (inv : State → Prop)
    (kept : ∀ state event, inv state → allowed state event → inv (after state event))
    {events : List Event} (start : inv state) (careful : Careful after allowed state events) :
    inv (run after state events) := by
  induction events generalizing state with
  | nil => exact start
  | cons event rest ih =>
    exact ih (kept state event start careful.1) careful.2

theorem Careful.and {other : State → Event → Prop} {events : List Event}
    (first : Careful after allowed state events) (second : Careful after other state events) :
    Careful after (fun state event => allowed state event ∧ other state event) state events := by
  induction events generalizing state with
  | nil => trivial
  | cons event rest ih =>
    exact ⟨⟨first.1, second.1⟩, ih first.2 second.2⟩

theorem kept (inv : State → Prop) (kept : ∀ state event, inv state → inv (after state event))
    (start : inv state) (events : List Event) : inv (run after state events) := by
  induction events generalizing state with
  | nil => exact start
  | cons event rest ih => exact ih (kept state event start)

theorem careful_append {earlier later : List Event} :
    Careful after allowed state (earlier ++ later) ↔ Careful after allowed state earlier ∧
        Careful after allowed (run after state earlier) later := by
  induction earlier generalizing state with
  | nil => exact (and_iff_right trivial).symm
  | cons event rest ih =>
    exact (and_congr_right fun _ => ih).trans and_assoc.symm

theorem good_run_iff (inv good : State → Prop)
    (kept : ∀ state event, inv state → inv (after state event))
    (step : ∀ state event, inv state →
      (good (after state event) ↔ good state ∧ allowed state event)) (start : inv state)
    (events : List Event) :
    good (run after state events) ↔ good state ∧ Careful after allowed state events := by
  induction events generalizing state with
  | nil => exact (and_iff_left trivial).symm
  | cons event rest ih =>
    calc good (run after (after state event) rest)
      _ ↔ good (after state event) ∧ Careful after allowed (after state event) rest :=
          ih (kept state event start)
      _ ↔ (good state ∧ allowed state event) ∧ Careful after allowed (after state event) rest :=
          and_congr_left fun _ => step state event start
      _ ↔ good state ∧ Careful after allowed state (event :: rest) := and_assoc

/-- If an event leaves a good state good exactly if it is allowed, all states of a run are good
exactly if the run is careful. -/
theorem always_good_iff (inv good : State → Prop)
    (kept : ∀ state event, inv state → inv (after state event))
    (step : ∀ state event, inv state → good state →
      (good (after state event) ↔ allowed state event)) (start : inv state)
    (goodStart : good state) (events : List Event) :
    (∀ front, front <+: events → good (run after state front)) ↔
      Careful after allowed state events := by
  induction events generalizing state with
  | nil =>
    refine iff_of_true (fun front isFront => ?_) trivial
    rw [prefix_nil.mp isFront]
    exact goodStart
  | cons event rest ih =>
    have stepHere := step state event start goodStart
    constructor
    · intro all
      have next : good (after state event) := all [event] ⟨rest, rfl⟩
      refine ⟨stepHere.mp next, (ih (kept state event start) next).mp ?_⟩
      exact fun front isFront => all (event :: front) (prefix_cons_inj event |>.mpr isFront)
    · rintro ⟨allowedHere, careful⟩ front isFront
      have next := stepHere.mpr allowedHere
      cases front with
      | nil => exact goodStart
      | cons first others =>
        obtain ⟨rfl, isFrontRest⟩ := cons_prefix_cons.mp isFront
        exact (ih (kept state first start) next).mpr careful others isFrontRest

/-! ### What goes before an event -/

/-- Every event holds, given the events before it: those of the past and those in front of it. -/
def Preceded (holds : List Event → Event → Prop) : List Event → List Event → Prop
  | _, [] => True
  | past, event :: rest => holds past event ∧ Preceded holds (past ++ [event]) rest

theorem preceded_append {holds : List Event → Event → Prop} {past first second : List Event} :
    Preceded holds past (first ++ second) ↔
      Preceded holds past first ∧ Preceded holds (past ++ first) second := by
  induction first generalizing past with
  | nil => simp [Preceded]
  | cons event rest ih =>
    rw [cons_append, Preceded, Preceded, ih, and_assoc, append_assoc]
    rfl

end Runs

/-! ### Runs of a pool -/

namespace Interleaving

open List

variable {Shared Op Choice Request : Type}

/-- What happens to a pool: a request comes, or a thread goes on. -/
inductive Event (Request Choice : Type) where
  | request (request : Request)
  | step (index : Nat) (choice : Choice)

/-- What a pool is after an event. A step that cannot be taken leaves it as it is. -/
def Pool.after (program : Request → List Op) (exec : Exec Shared Op Choice)
    (pool : Pool Shared Op) : Event Request Choice → Pool Shared Op
  | .request request => pool.spawn (program request)
  | .step index choice => (pool.step exec index choice).getD pool

def Pool.at (pool : Pool Shared Op) (index : Nat) : Option Op :=
  (pool.threads[index]?).bind List.head?

variable {pool : Pool Shared Op} {index : Nat}

theorem Pool.at_eq {op : Op} {rest : List Op} (held : pool.threads[index]? = some (op :: rest)) :
    pool.at index = some op := by
  rw [Pool.at, held]
  rfl

/-- The operation that a thread goes on with is allowed, given the shared state. -/
def Pool.Allows (allowed : Shared → Op → Prop) (pool : Pool Shared Op) : Event Request Choice → Prop
  | .request _ => True
  | .step index _ => ∀ op ∈ pool.at index, allowed pool.shared op

instance decidableAllows {allowed : Shared → Op → Prop}
    [∀ shared op, Decidable (allowed shared op)] (pool : Pool Shared Op) :
    ∀ event : Event Request Choice, Decidable (pool.Allows allowed event)
  | .request _ => isTrue trivial
  | .step index _ => inferInstanceAs (Decidable (∀ op ∈ pool.at index, allowed pool.shared op))

theorem Pool.Allows.apply {allowed : Shared → Op → Prop} {choice : Choice} {op : Op}
    {rest : List Op} (allows : pool.Allows allowed (.step index choice : Event Request Choice))
    (held : pool.threads[index]? = some (op :: rest)) : allowed pool.shared op :=
  allows op (Pool.at_eq held)

/-- What holds of every operation that is left to a thread, given the shared state. -/
def Pool.Holds (holds : Shared → Op → Prop) (pool : Pool Shared Op) : Prop :=
  ∀ ops ∈ pool.threads, ∀ op ∈ ops, holds pool.shared op

theorem Pool.Holds.step {holds : Shared → Op → Prop} {exec : Exec Shared Op Choice}
    {next : Pool Shared Op} {choice : Choice} (all : pool.Holds holds)
    (done : pool.step exec index choice = some next)
    (frame : ∀ op, holds pool.shared op → holds next.shared op)
    (new : ∀ op rest ops, pool.threads[index]? = some (op :: rest) → holds pool.shared op →
      exec index choice op rest pool.shared = some (next.shared, ops) →
      ∀ other ∈ ops, other ∈ rest ∨ holds next.shared other) : next.Holds holds := by
  obtain ⟨op, rest, ops, held, ran, own, same⟩ := Pool.step_cases done
  have mine := all _ (mem_of_getElem? held)
  intro others mem other inOthers
  obtain ⟨pos, atPosition⟩ := mem_iff_getElem?.mp mem
  rcases Pool.after_cases own same atPosition with ⟨rfl, rfl⟩ | ⟨-, before⟩
  · rcases new op rest others held (mine op mem_cons_self) ran other inOthers with
      later | fresh
    · exact frame other (mine other (mem_cons_of_mem op later))
    · exact fresh
  · exact frame other (all others (mem_of_getElem? before) other inOthers)

theorem Pool.Holds.spawn {holds : Shared → Op → Prop} (all : pool.Holds holds) {program : List Op}
    (start : ∀ op ∈ program, holds pool.shared op) :
    (pool.spawn program).Holds holds := by
  intro ops mem
  rcases mem_append.mp mem with old | new
  · exact all ops old
  · exact mem_singleton.mp new ▸ start

theorem Pool.after_kept {program : Request → List Op} {exec : Exec Shared Op Choice}
    {inv : Pool Shared Op → Prop} {event : Event Request Choice} (now : inv pool)
    (request : ∀ request, event = .request request → inv (pool.spawn (program request)))
    (step : ∀ index choice next, event = .step index choice →
      pool.step exec index choice = some next → inv next) :
    inv (pool.after program exec event) := by
  cases event with
  | request new => exact request new rfl
  | step index choice =>
    rw [Pool.after]
    cases done : pool.step exec index choice with
    | none => exact now
    | some next => exact step index choice next rfl done

end Interleaving
