/-
This file is the calculus of fallible step functions. `Meets` says that every step of a run is taken
at a state where a given condition holds.
-/

import Mathlib

namespace Fallible

open Option

variable {State Input : Type}

/-- The run of a fallible step over a list of inputs. -/
def run (step : State → Input → Option State) : State → List Input → Option State
  | state, [] => some state
  | state, input :: rest => (step state input).bind fun next => run step next rest

/-- Every step of the run is taken at a state and an input that meet the condition, up to a failing
one. -/
def Meets (step : State → Input → Option State) (condition : State → Input → Prop) :
    State → List Input → Prop
  | _, [] => True
  | state, input :: rest =>
      condition state input ∧ ∀ next, step state input = some next → Meets step condition next rest

theorem of_total {answer : Option State} {property : State → Prop}
    (total : ∃ next, answer = some next ∧ property next) {next : State}
    (done : answer = some next) : property next := by
  obtain ⟨other, otherDone, holds⟩ := total
  rw [done] at otherDone
  exact some.inj otherDone ▸ holds

variable {Middle Result : Type}

theorem bind_eq_ok {Error : Type} {first : Except Error Middle}
    {rest : Middle → Except Error Result} {result : Result} (done : first >>= rest = .ok result) :
    ∃ middle, first = .ok middle ∧ rest middle = .ok result := by
  cases first with
  | error error => cases done
  | ok middle => exact ⟨middle, rfl, done⟩

theorem rest_eq_ok {Error : Type} {first : Except Error Middle} {middle : Middle}
    {rest : Middle → Except Error Result} {result : Result} (known : first = .ok middle)
    (done : first >>= rest = .ok result) : rest middle = .ok result := by
  rw [known] at done
  exact done

theorem bind_total {first : Option Middle} {property : Middle → Prop}
    {rest : Middle → Option Result} (start : ∃ middle, first = some middle ∧ property middle)
    (later : ∀ middle, property middle → ∃ result, rest middle = some result) :
    ∃ result, first.bind rest = some result := by
  obtain ⟨middle, rfl, holds⟩ := start
  exact later middle holds

section

variable {step : State → Input → Option State} {condition : State → Input → Prop}

@[simp] theorem run_nil (state : State) : run step state [] = some state := rfl

@[simp] theorem run_cons (state : State) (input : Input) (rest : List Input) :
    run step state (input :: rest) = (step state input).bind fun next => run step next rest := rfl

@[simp] theorem meets_nil (state : State) : Meets step condition state [] := trivial

theorem meets_cons (state : State) (input : Input) (rest : List Input) :
    Meets step condition state (input :: rest) ↔ condition state input ∧
        ∀ next, step state input = some next → Meets step condition next rest := Iff.rfl

variable {state next : State} {input : Input} {rest : List Input}

theorem run_cons_of_some (taken : step state input = some next) :
    run step state (input :: rest) = run step next rest := by
  rw [run_cons, taken]
  rfl

theorem meets_cons_iff (taken : step state input = some next) :
    Meets step condition state (input :: rest) ↔
      condition state input ∧ Meets step condition next rest := by
  rw [meets_cons]
  refine and_congr_right fun _ => ⟨fun later => later next taken, fun later other otherTaken => ?_⟩
  rw [taken] at otherTaken
  exact some.inj otherTaken ▸ later

theorem meets_cons_of_some (holds : condition state input) (taken : step state input = some next)
    (later : Meets step condition next rest) : Meets step condition state (input :: rest) :=
  (meets_cons_iff taken).mpr ⟨holds, later⟩

/-- Whether a run meets a condition is decided by taking its steps. -/
instance decidableMeets [∀ state input, Decidable (condition state input)] :
    ∀ state inputs, Decidable (Meets step condition state inputs)
  | _, [] => isTrue trivial
  | state, input :: rest =>
      match taken : step state input with
      | none =>
          decidable_of_iff (condition state input)
            ⟨fun holds => ⟨holds, fun next reached => by rw [taken] at reached; cases reached⟩,
              And.left⟩
      | some next =>
          have := decidableMeets next rest
          decidable_of_iff _ (meets_cons_iff taken).symm

theorem run_append (state : State) (first second : List Input) : run step state (first ++ second) =
      (run step state first).bind fun middle => run step middle second := by
  induction first generalizing state with
  | nil => rfl
  | cons input rest ih =>
    rw [List.cons_append, run_cons, run_cons, bind_assoc]
    exact congrArg _ (funext fun next => ih next)

theorem run_append_of_some {middle : State} {first : List Input} (second : List Input)
    (reached : run step state first = some middle) :
    run step state (first ++ second) = run step middle second := by
  rw [run_append, reached]
  rfl

theorem meets_append (state : State) (first second : List Input) :
    Meets step condition state (first ++ second) ↔ Meets step condition state first ∧
        ∀ middle, run step state first = some middle → Meets step condition middle second := by
  induction first generalizing state with
  | nil => simp [meets_nil]
  | cons input rest ih =>
    rw [List.cons_append, meets_cons, meets_cons, and_assoc]
    refine and_congr_right fun _ => ?_
    constructor
    · intro later
      refine ⟨fun next taken => ((ih next).mp (later next taken)).1, ?_⟩
      intro middle reached
      rw [run_cons] at reached
      obtain ⟨next, taken, rest'⟩ := bind_eq_some_iff.mp reached
      exact ((ih next).mp (later next taken)).2 middle rest'
    · rintro ⟨front, back⟩ next taken
      refine (ih next).mpr ⟨front next taken, fun middle reached => ?_⟩
      exact back middle (by rw [run_cons_of_some taken]; exact reached)

theorem meets_of_forall (holds : ∀ state input, condition state input) (state : State)
    (inputs : List Input) : Meets step condition state inputs := by
  induction inputs generalizing state with
  | nil => trivial
  | cons input rest ih =>
    exact ⟨holds _ _, fun next _ => ih next⟩

theorem meets_congr {first second : State → Input → Prop} (inv : State → Prop)
    (agree : ∀ state input, inv state → (first state input ↔ second state input))
    (preserved : ∀ state input next, inv state → first state input →
      step state input = some next → inv next) (start : inv state) (inputs : List Input)
    :
    Meets step first state inputs ↔ Meets step second state inputs := by
  induction inputs generalizing state with
  | nil => exact Iff.rfl
  | cons input rest ih =>
    rw [meets_cons, meets_cons, ← agree state input start]
    refine and_congr_right fun holds => forall_congr' fun next => ?_
    exact ⟨fun later taken => (ih (preserved _ _ _ start holds taken)).mp
        (later taken),
      fun later taken => (ih (preserved _ _ _ start holds taken)).mpr
        (later taken)⟩

variable {inputs : List Input}

theorem run_invariant {inv : State → Prop}
    (preserved : ∀ state input next, inv state → condition state input →
      step state input = some next → inv next) {final : State} (start : inv state)
    (met : Meets step condition state inputs) (reached : run step state inputs = some final) :
    inv final := by
  induction inputs generalizing state with
  | nil =>
    obtain rfl : state = final := some.inj reached
    exact start
  | cons input rest ih =>
    obtain ⟨next, taken, later⟩ := bind_eq_some_iff.mp reached
    exact ih (preserved state input next start met.1 taken) (met.2 next taken)
      later

variable (inv : State → Prop)

theorem run_kept
    (preserved : ∀ state input next, inv state → step state input = some next →
      inv next) {final : State} (start : inv state)
    (reached : run step state inputs = some final) : inv final :=
  run_invariant (fun state input next holds _ taken => preserved state input next holds taken)
    start (meets_of_forall (fun _ _ => trivial) state inputs) reached

theorem run_total {inv : State → Prop}
    (progress : ∀ state input, inv state → condition state input →
      ∃ next, step state input = some next ∧ inv next) (start : inv state)
    (met : Meets step condition state inputs) :
    ∃ final, run step state inputs = some final ∧ inv final := by
  induction inputs generalizing state with
  | nil => exact ⟨state, rfl, start⟩
  | cons input rest ih =>
    obtain ⟨next, taken, holds⟩ := progress state input start met.1
    obtain ⟨final, reached, good⟩ := ih holds (met.2 next taken)
    exact ⟨final, by rw [run_cons_of_some taken]; exact reached, good⟩

/-- Every step succeeds and ends in the invariant. -/
def Stays (step : State → Input → Option State) (invariant : State → Prop) :
    State → List Input → Prop :=
  Meets step fun state input => ∃ next, step state input = some next ∧ invariant next

theorem Stays.run (start : inv state) (stays : Stays step inv state inputs) :
    ∃ final, run step state inputs = some final ∧ inv final :=
  run_total (fun _ _ _ taken => taken) start stays

theorem stays_iff_meets (decides : ∀ state input, inv state →
      ((∃ next, step state input = some next ∧ inv next) ↔ condition state input))
    (start : inv state) (inputs : List Input) :
    Stays step inv state inputs ↔ Meets step condition state inputs :=
  meets_congr inv decides
    (fun _ _ _ _ holds taken => of_total holds taken) start inputs

end

/-! ### Repeating one fallible function -/

/-- `count` applications of a fallible function, failing as soon as one application does. -/
def repeatTimes {State : Type} (once : State → Option State) : Nat → State → Option State
  | 0, state => some state
  | count + 1, state => (once state).bind (repeatTimes once count)

@[simp] theorem repeatTimes_zero (once : State → Option State) (state : State) :
    repeatTimes once 0 state = some state := rfl

@[simp] theorem repeatTimes_succ (once : State → Option State) (count : Nat) (state : State) :
    repeatTimes once (count + 1) state = (once state).bind (repeatTimes once count) := rfl

theorem repeatTimes_invariant {once : State → Option State} {inv : State → Prop}
    (preserved : ∀ state next, inv state → once state = some next → inv next)
    {count : Nat} {state final : State} (start : inv state)
    (reached : repeatTimes once count state = some final) : inv final := by
  induction count generalizing state with
  | zero =>
    obtain rfl : state = final := some.inj reached
    exact start
  | succ count ih =>
    obtain ⟨next, taken, later⟩ := bind_eq_some_iff.mp reached
    exact ih (preserved state next start taken) later

theorem repeatTimes_total {once : State → Option State} (inv : State → Prop)
    (progress : ∀ state, inv state → ∃ next, once state = some next ∧ inv next)
    (count : Nat) {state : State} (start : inv state) :
    ∃ final, repeatTimes once count state = some final ∧ inv final := by
  induction count generalizing state with
  | zero => exact ⟨state, rfl, start⟩
  | succ count ih =>
    obtain ⟨next, taken, holds⟩ := progress state start
    obtain ⟨final, reached, good⟩ := ih holds
    exact ⟨final, by rw [repeatTimes_succ, taken]; exact reached, good⟩

/-! ### Two computations side by side -/

section

variable {First Second Left Right : Type} {relation : First → Second → Prop}

variable {first : Option First} {second : Option Second}

variable {related : Left → Right → Prop}

theorem rel_bind {left : First → Option Left}
    {right : Second → Option Right} (start : Rel relation first second)
    (later : ∀ one two, relation one two → Rel related (left one) (right two)) :
    Rel related (first.bind left) (second.bind right) := by
  cases start with
  | none => exact .none
  | some holds => exact later _ _ holds

theorem rel_mono {weaker : First → Second → Prop} (related : Rel relation first second)
    (implies : ∀ one two, relation one two → weaker one two) :
    Rel weaker first second := by
  cases related with
  | none => exact .none
  | some holds => exact .some (implies _ _ holds)

theorem rel_refl (answer : Option First) : Rel Eq answer answer := by
  cases answer with
  | none => exact .none
  | some value => exact .some rfl

theorem rel_map {left : First → Left} {right : Second → Right} (start : Rel relation first second)
    (later : ∀ one two, relation one two → related (left one) (right two)) :
    Rel related (first.map left) (second.map right) := by
  cases start with
  | none => exact .none
  | some holds => exact .some (later _ _ holds)

theorem rel_run {left : First → Input → Option First} {right : Second → Input → Option Second}
    (steps : ∀ one two input, relation one two → Rel relation (left one input) (right two input))
    (inputs : List Input) {one : First} {two : Second} (start : relation one two) :
    Rel relation (run left one inputs) (run right two inputs) := by
  induction inputs generalizing one two with
  | nil => exact .some start
  | cons input rest ih =>
    exact rel_bind (steps one two input start) fun _ _ holds => ih holds

theorem rel_repeatTimes {left : First → Option First} {right : Second → Option Second}
    (steps : ∀ one two, relation one two → Rel relation (left one) (right two))
    (count : Nat) {one : First} {two : Second} (start : relation one two) :
    Rel relation (repeatTimes left count one) (repeatTimes right count two) := by
  induction count generalizing one two with
  | zero => exact .some start
  | succ count ih =>
    exact rel_bind (steps one two start) fun _ _ holds => ih holds

end

end Fallible
