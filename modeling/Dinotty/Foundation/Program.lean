/-
This file is programs that change a state step by step and may fail on the way. What a program did
before it failed stays done.
-/

import Mathlib

/-- What a program makes of a state, and its result unless it fails. -/
def Program (State Value : Type) : Type := State → State × Option Value

namespace Program

variable {State Value Result : Type}

/-! ### Steps -/

def bind (program : Program State Value) (next : Value → Program State Result) :
    Program State Result :=
  fun state =>
    match program state with
    | (later, some value) => next value later
    | (later, none) => (later, none)

instance : Monad (Program State) where
  pure value := fun state => (state, some value)
  bind := bind

theorem bind_apply (program : Program State Value) (next : Value → Program State Result)
    (state : State) :
    (program >>= next) state = match program state with
      | (later, some value) => next value later
      | (later, none) => (later, none) := rfl

theorem bind_assoc {Last : Type} (program : Program State Value)
    (next : Value → Program State Result) (last : Result → Program State Last) :
    program >>= next >>= last = program >>= fun value => next value >>= last := by
  funext state
  rw [bind_apply, bind_apply, bind_apply]
  cases program state with
  | mk later value =>
    cases value with
    | none | some => rfl

def look (view : State → Value) : Program State Value := fun state => (state, some (view state))

def change (next : State → State) : Program State Unit := fun state => (next state, some ())

def fail : Program State Value := fun state => (state, none)

def require (condition : Prop) [Decidable condition] : Program State Unit :=
  if condition then pure () else fail

/-- Do something only if a condition holds, and go on. -/
def when (condition : Prop) [Decidable condition] (program : Program State Unit) :
    Program State Unit :=
  if condition then program else pure ()

def ofOption : Option Value → Program State Value
  | some value => pure value
  | none => fail

/-- Do something at the end, whether or not the program fails. -/
def thenAlways (program : Program State Value) (cleanup : State → State) : Program State Value :=
  fun state =>
    match program state with
    | (later, result) => (cleanup later, result)

def succeeds (program : Program State Value) : Program State Bool := fun state =>
  match program state with
  | (later, result) => (later, some result.isSome)

/-! ### Where programs lead -/

/-- From every state of one kind, a program that succeeds leads to one of another kind, which may
depend on the result, and one that fails to a third. -/
def Leads (before : State → Prop) (program : Program State Value) (after : Value → State → Prop)
    (failed : State → Prop) : Prop :=
  ∀ state, before state → match program state with
    | (later, some value) => after value later
    | (later, none) => failed later

variable {before middle : State → Prop} {after : Value → State → Prop} {failed : State → Prop}
  {program : Program State Value}

theorem Leads.pure {value : Value} (there : ∀ state, before state → after value state) :
    Leads before (Pure.pure value) after failed := there

variable {next : Value → Program State Result}

theorem Leads.bind {final : Result → State → Prop} (first : Leads before program after failed)
    (second : ∀ value, Leads (after value) (next value) final failed) :
    Leads before (program >>= next) final failed := by
  intro state there
  have led := first state there
  rw [bind_apply]
  cases res : program state with
  | mk later value =>
    rw [res] at led
    cases value with
    | none => exact led
    | some value => exact second value later led

theorem Leads.glance {view : State → Value} : Leads before (look view) (fun _ => before) failed :=
  fun _ there => there

theorem Leads.change {next : State → State} {after : Unit → State → Prop}
    (there : ∀ state, before state → after () (next state)) :
    Leads before (change next) after failed := there

theorem Leads.fail (there : ∀ state, before state → failed state) :
    Leads before (fail : Program State Value) after failed := there

variable {condition : Prop}

theorem Leads.require [Decidable condition] {after : Unit → State → Prop}
    (holds : ∀ state, before state → condition → after () state)
    (fails : ∀ state, before state → failed state) :
    Leads before (Program.require condition) after failed := by
  intro state there
  unfold Program.require
  by_cases given : condition
  · rw [if_pos given]
    exact holds state there given
  · rw [if_neg given]
    exact fails state there

theorem Leads.ofOption {value : Option Value}
    (held : ∀ found state, value = some found → before state → after found state)
    (fails : ∀ state, before state → failed state) :
    Leads before (ofOption value) after failed := by
  intro state there
  cases value with
  | none => exact fails state there
  | some found => exact held found state rfl there

section

variable (led : Leads before program after failed)
include led

theorem Leads.thenAlways {cleanup : State → State} {final : Value → State → Prop}
    {finalFailed : State → Prop}
    (clean : ∀ value state, after value state → final value (cleanup state))
    (cleanFailed : ∀ state, failed state → finalFailed (cleanup state)) :
    Leads before (program.thenAlways cleanup) final finalFailed := by
  intro state there
  have led := led state there
  unfold Program.thenAlways
  cases res : program state with
  | mk later value =>
    rw [res] at led
    cases value with
    | none => exact cleanFailed later led
    | some value => exact clean value later led

theorem Leads.succeeds {res : Bool → State → Prop}
    (yes : ∀ value state, after value state → res true state)
    (no : ∀ state, failed state → res false state) {never : State → Prop} :
    Leads before program.succeeds res never := by
  intro state there
  have led := led state there
  unfold Program.succeeds
  cases outcome : program state with
  | mk later value =>
    rw [outcome] at led
    cases value with
    | none => exact no later led
    | some value => exact yes value later led

theorem Leads.mono {stronger : State → Prop} {weaker : Value → State → Prop}
    {weakerFailed : State → Prop} (start : ∀ state, stronger state → before state)
    (finish : ∀ value state, after value state → weaker value state)
    (failure : ∀ state, failed state → weakerFailed state) :
    Leads stronger program weaker weakerFailed := by
  intro state there
  have led := led state (start state there)
  cases res : program state with
  | mk later value =>
    rw [res] at led
    cases value with
    | none => exact failure later led
    | some value => exact finish value later led

end

theorem Leads.and {alsoAfter : Value → State → Prop} {alsoFailed : State → Prop}
    (first : Leads before program after failed)
    (second : Leads before program alsoAfter alsoFailed) :
    Leads before program (fun value state => after value state ∧ alsoAfter value state)
      fun state => failed state ∧ alsoFailed state := by
  intro state there
  have first := first state there
  have second := second state there
  cases res : program state with
  | mk later value =>
    rw [res] at first second
    cases value with
    | none | some => exact ⟨first, second⟩

theorem Leads.state {finish : State → Prop} (led : Leads before program (fun _ => finish) finish)
    {state : State} (there : before state) : finish (program state).1 := by
  have led := led state there
  cases res : program state with
  | mk later value =>
    rw [res] at led
    cases value with
    | none | some => exact led

theorem Leads.given {fact : Prop} (led : fact → Leads before program after failed) :
    Leads (fun state => fact ∧ before state) program after failed :=
  fun state there => led there.1 state there.2

theorem Leads.ite [Decidable condition] {other : Program State Value}
    (yes : condition → Leads before program after failed)
    (no : ¬ condition → Leads before other after failed) :
    Leads before (if condition then program else other) after failed := by
  split
  · exact yes ‹_›
  · exact no ‹_›

theorem Leads.when [Decidable condition] {program : Program State Unit}
    {after : Unit → State → Prop} (yes : condition → Leads before program after failed)
    (no : ¬ condition → ∀ state, before state → after () state) :
    Leads before (when condition program) after failed :=
  ite yes fun other => pure (no other)

/-! ### What programs keep -/

/-- A program keeps what holds of the state, failed or not, and its result is as told. -/
def Keeps (invariant : State → Prop) (program : Program State Value) (gives : Value → Prop) :
    Prop :=
  Leads invariant program (fun value state => gives value ∧ invariant state) invariant

variable {invariant : State → Prop} {gives : Value → Prop}

theorem Keeps.state (keeps : Keeps invariant program gives) {state : State}
    (there : invariant state) : invariant (program state).1 :=
  Leads.state (Leads.mono keeps (fun _ there => there) (fun _ _ led => led.2) fun _ led => led)
    there

theorem Keeps.pure {value : Value} (given : gives value) :
    Keeps invariant (Pure.pure value) gives :=
  Leads.pure fun _ there => ⟨given, there⟩

theorem Keeps.bind {givesNext : Result → Prop} (first : Keeps invariant program gives)
    (second : ∀ value, gives value → Keeps invariant (next value) givesNext) :
    Keeps invariant (program >>= next) givesNext :=
  Leads.bind first fun value state there => second value there.1 state there.2

theorem Keeps.look {view : State → Value} : Keeps invariant (look view) fun _ => True :=
  fun _ there => ⟨trivial, there⟩

theorem Keeps.change {next : State → State}
    (kept : ∀ state, invariant state → invariant (next state)) :
    Keeps invariant (change next) fun _ => True :=
  Leads.change fun state there => ⟨trivial, kept state there⟩

theorem Keeps.fail : Keeps invariant (fail : Program State Value) gives :=
  Leads.fail fun _ there => there

theorem Keeps.require [Decidable condition] :
    Keeps invariant (require condition) fun _ => condition :=
  Leads.require (fun _ there holds => ⟨holds, there⟩) fun _ there => there

theorem Keeps.ofOption {value : Option Value} :
    Keeps invariant (ofOption value) fun found => value = some found :=
  Leads.ofOption (fun _ _ same there => ⟨same, there⟩) fun _ there => there

section

variable (keeps : Keeps invariant program gives)
include keeps

theorem Keeps.weaken {less : Value → Prop} (weaker : ∀ value, gives value → less value) :
    Keeps invariant program less :=
  Leads.mono keeps (fun _ there => there) (fun value _ there => ⟨weaker value there.1, there.2⟩)
    fun _ there => there

theorem Keeps.thenAlways {cleanup : State → State}
    (clean : ∀ state, invariant state → invariant (cleanup state)) :
    Keeps invariant (program.thenAlways cleanup) gives :=
  Leads.thenAlways keeps (fun _ state there => ⟨there.1, clean state there.2⟩) clean

theorem Keeps.succeeds : Keeps invariant program.succeeds fun _ => True :=
  Leads.succeeds keeps (fun _ _ there => ⟨trivial, there.2⟩) fun _ there => ⟨trivial, there⟩

end

theorem Keeps.ite [Decidable condition] {other : Program State Value}
    (yes : condition → Keeps invariant program gives)
    (no : ¬ condition → Keeps invariant other gives) :
    Keeps invariant (if condition then program else other) gives :=
  Leads.ite yes no

theorem Keeps.when [Decidable condition] {program : Program State Unit}
    (keeps : condition → Keeps invariant program fun _ => True) :
    Keeps invariant (when condition program) fun _ => True :=
  Leads.when keeps fun _ _ there => ⟨trivial, there⟩

end Program
