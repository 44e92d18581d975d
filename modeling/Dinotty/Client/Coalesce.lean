/-
This file is the throttling of a feed of which only the newest value matters. A timer that fires
early arms itself again, but by then the value has been dropped.
-/

import Dinotty.Foundation.Fallible

namespace Dinotty.Coalesce

open List Fallible Option

/-- An emission, with the number of values that had been pushed. -/
structure Emission (Value : Type) where
  value : Value
  time : Rat
  pushed : Nat
  deriving DecidableEq

/-- The variables of a throttle, the armed timers, and what has been pushed and emitted. Times
before the first emission are at minus infinity. -/
structure CoalesceLatest (Value : Type) where
  lastEmitAt : Option Rat := none
  pending : Option Value := none
  timer : Bool := false
  armed : List Rat := []
  pushes : List Value := []
  emissions : List (Emission Value) := []
  deriving DecidableEq

/-- What happens to a throttle. A tick is the timer for `due`, and its callback reads the clock
twice. -/
inductive Event (Value : Type) where
  | push (value : Value) (now : Rat)
  | tick (due now later : Rat)

variable {Value : Type} (intervalMs : Rat) (state : CoalesceLatest Value)

def wait (now : Rat) : Option Rat := state.lastEmitAt.map fun last => last + intervalMs - now

/-- `timer = schedule(flush, wait)` -/
def schedule (due : Rat) : CoalesceLatest Value :=
  { state with timer := true, armed := due :: state.armed }

def push (value : Value) (now : Rat) : CoalesceLatest Value :=
  let kept := { state with pending := some value, pushes := state.pushes ++ [value] }
  if state.timer then kept
  else schedule kept (now + max 0 ((wait intervalMs state now).getD 0))

def flush (now later : Rat) : CoalesceLatest Value :=
  let fired := { state with timer := false }
  match state.pending with
  | none => fired
  | some value =>
      let taken := { fired with pending := none }
      match wait intervalMs state now with
      | none => emit taken value
      | some wait => if wait ≤ 0 then emit taken value else schedule taken (now + wait)
where
  emit (taken : CoalesceLatest Value) (value : Value) : CoalesceLatest Value :=
    { taken with
      lastEmitAt := some later
      emissions := taken.emissions ++ [⟨value, later, taken.pushes.length⟩] }

/-- A timer that is armed may fire at any time. -/
def step : Event Value → Option (CoalesceLatest Value)
  | .push value now => some (push intervalMs state value now)
  | .tick due now later =>
      if due ∈ state.armed ∧ now ≤ later then
        some (flush intervalMs { state with armed := state.armed.erase due } now later)
      else none

/-- A timer does not fire before its time. -/
def Event.Punctual : Event Value → Prop
  | .push .. => True
  | .tick due now _ => due ≤ now

instance : (event : Event Value) → Decidable event.Punctual
  | .push .. => isTrue trivial
  | .tick due now _ => inferInstanceAs (Decidable (due ≤ now))

structure Kept : Prop where
  one : state.armed.length = if state.timer then 1 else 0
  due : ∀ due ∈ state.armed, ∀ last ∈ state.lastEmitAt, last + intervalMs ≤ due
  last : state.lastEmitAt = state.emissions.getLast?.map (·.time)
  spaced : state.emissions.IsChain fun first second => first.time + intervalMs ≤ second.time
  newest : ∀ emission ∈ state.emissions,
    (state.pushes.take emission.pushed).getLast? = some emission.value
  newer : state.emissions.IsChain fun first second => first.pushed < second.pushed
  bound : ∀ emission ∈ state.emissions, emission.pushed ≤ state.pushes.length
  fresh : ∀ value ∈ state.pending, state.pushes.getLast? = some value ∧
    ∀ emission ∈ state.emissions.getLast?, emission.pushed < state.pushes.length

/-- The last value has been emitted. -/
def CaughtUp : Prop :=
  state.pushes.length = (state.emissions.getLast?.map (·.pushed)).getD 0

instance : Decidable (CaughtUp state) := inferInstanceAs (Decidable (_ = _))

/-- Nothing is lost: a value that has not been emitted is pending, and a timer is armed for it. -/
structure Trailing : Prop where
  waits : state.pending.isSome → state.timer
  caughtUp : state.pending = none → CaughtUp state

variable {intervalMs state} {next : CoalesceLatest Value}

theorem Kept.schedule (kept : Kept intervalMs state) (free : state.timer = false) {time : Rat}
    (far : ∀ last ∈ state.lastEmitAt, last + intervalMs ≤ time) :
    Kept intervalMs (schedule state time) := by
  have one := kept.one
  rw [free] at one
  exact { kept with
    one := congrArg (· + 1) one
    due := forall_mem_cons.mpr ⟨far, kept.due⟩ }

theorem kept_push (kept : Kept intervalMs state) (value : Value) (now : Rat) :
    Kept intervalMs (push intervalMs state value now) := by
  have pushed : Kept intervalMs
      { state with pending := some value, pushes := state.pushes ++ [value] } := { kept with
    newest := fun emission mem => by
      rw [take_append_of_le_length (kept.bound emission mem)]
      exact kept.newest emission mem
    bound := fun emission mem => by
      rw [length_append]
      exact Nat.le_add_right_of_le (kept.bound emission mem)
    fresh := by
      rintro _ ⟨⟩
      refine ⟨getLast?_concat, fun emission last => ?_⟩
      rw [length_append]
      exact Nat.lt_succ_of_le (kept.bound emission (mem_of_getLast? last)) }
  unfold push
  split
  · exact pushed
  next free =>
    refine pushed.schedule (eq_false_of_ne_true free) fun last known => ?_
    rw [wait, mem_def.mp known, map_some, getD_some]
    have := le_max_right 0 (last + intervalMs - now)
    linarith

/-- What a timer that fires leaves, with the value still pending. -/
theorem Kept.fire (kept : Kept intervalMs state) {due : Rat} (armed : due ∈ state.armed) :
    Kept intervalMs { state with timer := false, armed := state.armed.erase due } := { kept with
  one := by
    have one := kept.one
    have := length_pos_of_mem armed
    split at one
    · rw [length_erase_of_mem armed, one]
      rfl
    · omega
  due := fun other mem => kept.due other (mem_of_mem_erase mem) }

theorem Kept.emit (kept : Kept intervalMs state) {value : Value} (held : state.pending = some value)
    {later : Rat} (spaced : ∀ last ∈ state.lastEmitAt, last + intervalMs ≤ later)
    (free : state.timer = false) :
    Kept intervalMs (flush.emit later { state with pending := none } value) := by
  obtain ⟨newest, newer⟩ := kept.fresh value held
  have one := kept.one
  rw [free] at one
  refine { kept with
    due := ?_, last := ?_, spaced := ?_, newest := ?_, newer := ?_, bound := ?_, fresh := nofun }
  · rw [show (flush.emit later { state with pending := none } value).armed = [] from
      eq_nil_of_length_eq_zero one]
    exact nofun
  · rw [flush.emit, getLast?_concat, map_some]
  · refine isChain_append.mpr ⟨kept.spaced, .singleton _, fun last isLast _ isNew => ?_⟩
    cases isNew
    refine spaced last.time ?_
    rw [kept.last, mem_def.mp isLast]
    rfl
  · refine forall_mem_append.mpr ⟨kept.newest, forall_mem_singleton.mpr ?_⟩
    exact take_length ▸ newest
  · refine isChain_append.mpr ⟨kept.newer, .singleton _, fun last isLast _ isNew => ?_⟩
    cases isNew
    exact newer last isLast
  · exact forall_mem_append.mpr ⟨kept.bound, forall_mem_singleton.mpr (Nat.le_refl _)⟩

theorem kept_step (kept : Kept intervalMs state) {event : Event Value}
    (taken : step intervalMs state event = some next) : Kept intervalMs next := by
  cases event with
  | push value now =>
    cases taken
    exact kept_push kept value now
  | tick due now later =>
    simp only [step] at taken
    split at taken
    next fires =>
      cases taken
      have fired := kept.fire fires.1
      unfold flush
      dsimp only
      split
      · exact fired
      next value held =>
        split
        next first =>
          refine fired.emit held (fun last known => ?_) rfl
          rw [wait, mem_def.mp known] at first
          cases first
        next wait waits =>
          obtain ⟨last, known, rfl⟩ := map_eq_some_iff.mp waits
          split
          next ended =>
            refine fired.emit held (fun other isLast => ?_) rfl
            obtain rfl := Option.some.inj (known.symm.trans isLast)
            linarith [fires.2]
          · have dropped : Kept intervalMs { state with
                timer := false, armed := state.armed.erase due, pending := none } :=
              { fired with fresh := nofun }
            refine dropped.schedule rfl fun other isLast => ?_
            obtain rfl := Option.some.inj (known.symm.trans isLast)
            linarith
    · cases taken

/-! ### The last value -/

/-- A throttle keeps pace through a step at the right time: a timer is armed until the last value
has been emitted. -/
theorem trailing_step (kept : Kept intervalMs state) (trailing : Trailing state)
    {event : Event Value} (punctual : event.Punctual)
    (taken : step intervalMs state event = some next) : Trailing next := by
  cases event with
  | push value now =>
    cases taken
    unfold push
    split
    next armed =>
      exact ⟨fun _ => armed, nofun⟩
    · exact ⟨fun _ => rfl, nofun⟩
  | tick due now later =>
    simp only [step] at taken
    split at taken
    next fires =>
      cases taken
      have emitted {value : Value} : Trailing (flush.emit later { state with
          timer := false, armed := state.armed.erase due, pending := none } value) := by
        refine ⟨nofun, fun _ => ?_⟩
        rw [CaughtUp, flush.emit, getLast?_concat]
        rfl
      unfold flush
      dsimp only
      split
      next free =>
        exact ⟨fun held => (by simp [free] at held), fun _ => trailing.caughtUp free⟩
      · split
        · exact emitted
        next wait waits =>
          obtain ⟨last, known, rfl⟩ := map_eq_some_iff.mp waits
          have reached := kept.due due fires.1 last known
          rw [if_pos (by linarith [show due ≤ now from punctual])]
          exact emitted
    · cases taken

/-- Whatever the timers do, at most one is armed, emissions are an interval apart, and each is the
newest value. If no timer fires before its time, the last value has been emitted whenever none is
armed. -/
theorem coalesceLatest_keeps {events : List (Event Value)}
    (ran : run (step intervalMs) {} events = some state) :
    state.armed.length ≤ 1 ∧
      (state.emissions.IsChain fun first second => first.time + intervalMs ≤ second.time) ∧
      (∀ emission ∈ state.emissions,
        (state.pushes.take emission.pushed).getLast? = some emission.value) ∧
      (state.emissions.IsChain fun first second => first.pushed < second.pushed) ∧
      (Meets (step intervalMs) (fun _ event => event.Punctual) {} events →
        state.armed = [] → CaughtUp state) := by
  have start : Kept intervalMs ({} : CoalesceLatest Value) :=
    ⟨rfl, nofun, rfl, .nil, nofun, .nil, nofun, nofun⟩
  have kept := run_kept _ (fun _ _ _ kept taken => kept_step kept taken) start ran
  refine ⟨?_, kept.spaced, kept.newest, kept.newer, fun punctual free => ?_⟩
  · rw [kept.one]
    split <;> decide
  · have kept := run_invariant
      (fun _ _ _ (both : Kept intervalMs _ ∧ Trailing _) punctual taken =>
        ⟨kept_step both.1 taken, trailing_step both.1 both.2 punctual taken⟩)
      ⟨start, nofun, fun _ => rfl⟩ punctual ran
    refine kept.2.caughtUp (Option.not_isSome_iff_eq_none.mp fun held => ?_)
    have one := kept.1.one
    rw [free, kept.2.waits held] at one
    cases one

theorem coalesceLatest_keeps_punctual :
    CaughtUp ⟨some 100, none, false, [], [1, 2], [⟨1, 0, 1⟩, ⟨2, 100, 2⟩]⟩ :=
  have ran : run (step 100) {} [.push 1 0, .tick 0 0 0, .push 2 50, .tick 100 100 100] =
      some ⟨some 100, none, false, [], [1, 2], [⟨1, 0, 1⟩, ⟨2, 100, 2⟩]⟩ := by decide +kernel
  (coalesceLatest_keeps ran).2.2.2.2 (by decide +kernel) rfl

/-- A timer that fires early drops the value that it was armed for. -/
theorem early_tick_drops : ∃ state : CoalesceLatest Nat, run (step 100) {}
    [.push 1 0, .tick 0 0 0, .push 2 50, .tick 100 90 90, .tick 100 100 100] = some state ∧
      state.armed = [] ∧ ¬ CaughtUp state :=
  ⟨⟨some 0, none, false, [], [1, 2], [⟨1, 0, 1⟩]⟩, by decide +kernel⟩

end Dinotty.Coalesce
