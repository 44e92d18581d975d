/-
This file is the registry of the events that plugins subscribe to. Taking the last event of a plugin
away leaves an empty set, which is removed by a second access; a call that subscribes between the
two loses its event. Other runs have the outcome of the calls one after the other.
-/

import Dinotty.Foundation.KeyMap
import Dinotty.Foundation.Linearizability

namespace Dinotty.Plugin.Subscriptions

open Interleaving Linearizability List KeyMap Option

/-! ### The registry -/

abbrev SubscriptionRegistry := KeyMap String (Finset String)

inductive Access where
  | insert (pluginId eventName : String)
  | takeAway (pluginId eventName : String)
  | removeEntry (pluginId : String)
  | removeAll (pluginId : String)
  deriving DecidableEq

inductive Call where
  | subscribe (pluginId eventName : String)
  | unsubscribe (pluginId eventName : String)
  | unsubscribeAll (pluginId : String)
  deriving DecidableEq

def program : Call → List Access
  | .subscribe pluginId eventName => [.insert pluginId eventName]
  | .unsubscribe pluginId eventName => [.takeAway pluginId eventName]
  | .unsubscribeAll pluginId => [.removeAll pluginId]

/-- One access. Taking an event away goes on to remove the entry if it leaves none. -/
def exec : Exec SubscriptionRegistry Access Unit
  | _, _, .insert pluginId eventName, rest, registry =>
      some (AList.insert pluginId
        (insert eventName ((registry.lookup pluginId).getD ∅)) registry, rest)
  | _, _, .takeAway pluginId eventName, rest, registry =>
      match registry.lookup pluginId with
      | some entry =>
          some (AList.insert pluginId (entry.erase eventName) registry,
            if entry.erase eventName = ∅ then .removeEntry pluginId :: rest else rest)
      | none => some (registry, rest)
  | _, _, .removeEntry pluginId, rest, registry => some (registry.erase pluginId, rest)
  | _, _, .removeAll pluginId, rest, registry => some (registry.erase pluginId, rest)

def SubscriptionRegistry.apply (registry : SubscriptionRegistry) : Call → SubscriptionRegistry
  | .subscribe pluginId eventName =>
      AList.insert pluginId (insert eventName ((registry.lookup pluginId).getD ∅)) registry
  | .unsubscribe pluginId eventName =>
      match registry.lookup pluginId with
      | some entry =>
          if entry.erase eventName = ∅ then
            (AList.insert pluginId (entry.erase eventName) registry).erase pluginId
          else AList.insert pluginId (entry.erase eventName) registry
      | none => registry
  | .unsubscribeAll pluginId => registry.erase pluginId

def hasSubscriberIn (registry : SubscriptionRegistry) (pluginId eventName : String) : Prop :=
  ∃ entry ∈ registry.lookup pluginId, eventName ∈ entry

/-! ### Histories -/

/-- The first access of a call is the one at which it takes effect. -/
def Access.commits : Access → Bool
  | .removeEntry _ => false
  | _ => true

theorem commits : Commits program exec Access.commits where
  start := fun call => by
    cases call <;> exact ⟨_, [], rfl, rfl, fun _ mem => absurd mem not_mem_nil⟩
  later := fun index choice op rest registry res done silent => by
    cases op with
    | insert pluginId eventName =>
      cases done
      exact silent
    | takeAway pluginId eventName =>
      dsimp only [exec] at done
      split at done
      · cases done
        intro other mem
        dsimp only at mem
        split at mem
        · rcases mem_cons.mp mem with rfl | before
          · rfl
          · exact silent other before
        · exact silent other mem
      · cases done
        exact silent
    | removeEntry | removeAll =>
      cases done
      exact silent

abbrev Calls := History SubscriptionRegistry Access Call

def Calls.start : Calls := { pool := { shared := ∅, threads := [] } }

def Calls.after (history : Calls) (event : Event Call Unit) : Calls :=
  History.after program exec Access.commits history event

def Calls.run (events : List (Event Call Unit)) : Calls := Runs.run Calls.after Calls.start events

def Calls.Finished (history : Calls) : Prop := ∀ ops ∈ history.pool.threads, ops.isEmpty

/-- The second access of a call that took the last event away finds no event. -/
def Heeds (registry : SubscriptionRegistry) : Access → Prop
  | .removeEntry pluginId => ∀ entry ∈ registry.lookup pluginId, entry = ∅
  | _ => True

abbrev HeedfulRun (events : List (Event Call Unit)) : Prop :=
  Runs.Careful Calls.after (fun history => history.pool.Allows Heeds) Calls.start events

/-! ### What the calls have made -/

/-- Calls of a history, one after the other, on an empty registry. -/
def Calls.inOrder (history : Calls) (order : List Nat) : SubscriptionRegistry :=
  (order.filterMap fun index => history.calls[index]?).foldl SubscriptionRegistry.apply ∅

def Calls.outcome (history : Calls) : SubscriptionRegistry := history.inOrder history.order

def eventsOf (registry : SubscriptionRegistry) (pluginId : String) : Finset String :=
  (registry.lookup pluginId).getD ∅

def Call.effect (call : Call) (pluginId : String) (events : Finset String) : Finset String :=
  match call with
  | .subscribe other eventName => if pluginId = other then insert eventName events else events
  | .unsubscribe other eventName => if pluginId = other then events.erase eventName else events
  | .unsubscribeAll other => if pluginId = other then ∅ else events

theorem eventsOf_insert (registry : SubscriptionRegistry) (other pluginId : String)
    (events : Finset String) :
    eventsOf (AList.insert other events registry) pluginId =
      if pluginId = other then events else eventsOf registry pluginId := by
  rw [eventsOf, lookup_insert]
  split <;> rfl

theorem eventsOf_erase (registry : SubscriptionRegistry) (other pluginId : String) :
    eventsOf (registry.erase other) pluginId =
      if pluginId = other then ∅ else eventsOf registry pluginId := by
  rw [eventsOf, lookup_erase]
  split <;> rfl

theorem eventsOf_apply (registry : SubscriptionRegistry) (call : Call) (pluginId : String) :
    eventsOf (registry.apply call) pluginId =
      call.effect pluginId (eventsOf registry pluginId) := by
  cases call with
  | subscribe other eventName =>
    rw [SubscriptionRegistry.apply, eventsOf_insert, Call.effect]
    split
    next here =>
      rw [here, eventsOf]
    · rfl
  | unsubscribe other eventName =>
    rw [SubscriptionRegistry.apply, Call.effect]
    split
    next entry held =>
      have events : eventsOf registry other = entry := by rw [eventsOf, held]; rfl
      split
      next empty =>
        rw [eventsOf_erase, eventsOf_insert]
        split
        next here =>
          rw [here, events, empty]
        · rfl
      · rw [eventsOf_insert]
        split
        next here =>
          rw [here, events]
        · rfl
    next absent =>
      split
      next here =>
        rw [here, eventsOf, absent]
        rfl
      · rfl
  | unsubscribeAll other =>
    rw [SubscriptionRegistry.apply, eventsOf_erase]
    rfl

/-- Calls that nobody disturbs leave no plugin without events. -/
def Full (registry : SubscriptionRegistry) : Prop :=
  ∀ pluginId, registry.lookup pluginId ≠ some ∅

variable {registry : SubscriptionRegistry}

theorem Full.apply (full : Full registry) (call : Call) : Full (registry.apply call) := by
  intro pluginId
  cases call with
  | subscribe other eventName =>
    rw [SubscriptionRegistry.apply, lookup_insert]
    split
    · exact fun empty => Finset.insert_ne_empty _ _ (some.inj empty)
    · exact full pluginId
  | unsubscribe other eventName =>
    rw [SubscriptionRegistry.apply]
    split
    · split
      · rw [lookup_erase, lookup_insert]
        split
        · exact fun impossible => absurd impossible (by simp)
        · exact full pluginId
      next nonempty =>
        rw [lookup_insert]
        split
        · exact fun empty => nonempty (some.inj empty)
        · exact full pluginId
    · exact full pluginId
  | unsubscribeAll other =>
    rw [SubscriptionRegistry.apply, lookup_erase]
    split
    · exact fun impossible => absurd impossible (by simp)
    · exact full pluginId

/-- The registry has the events that the calls in their order lead to; a plugin without events is
about to be removed. -/
structure Agrees (history : Calls) : Prop where
  same : ∀ pluginId, eventsOf history.pool.shared pluginId = eventsOf history.outcome pluginId
  full : Full history.outcome
  leaving : ∀ pluginId, history.pool.shared.lookup pluginId = some ∅ →
    ∃ ops ∈ history.pool.threads, Access.removeEntry pluginId ∈ ops

variable {index : Nat}

/-- The first access of a call has the effect of the call, and what it leaves without events it
goes on to remove. -/
theorem exec_first {call : Call} {access : Access} {rest left : List Access} {choice : Unit}
    {before after : SubscriptionRegistry} (isProgram : program call = access :: rest)
    (ran : exec index choice access rest before = some (after, left)) :
    (∀ pluginId, eventsOf after pluginId = call.effect pluginId (eventsOf before pluginId)) ∧
      ∀ pluginId, after.lookup pluginId = some ∅ →
        before.lookup pluginId = some ∅ ∨ .removeEntry pluginId ∈ left := by
  cases call with
  | subscribe other eventName =>
    cases isProgram
    cases ran
    refine ⟨fun pluginId => eventsOf_apply before (.subscribe other eventName) pluginId,
      fun pluginId => ?_⟩
    rw [lookup_insert]
    split
    · exact fun empty => absurd (some.inj empty) (Finset.insert_ne_empty _ _)
    · exact .inl
  | unsubscribe other eventName =>
    cases isProgram
    dsimp only [exec] at ran
    split at ran
    next entry held =>
      cases ran
      have events : eventsOf before other = entry := by rw [eventsOf, held]; rfl
      refine ⟨fun pluginId => ?_, fun pluginId => ?_⟩
      · rw [eventsOf_insert, Call.effect]
        split
        next here =>
          rw [here, events]
        · rfl
      · rw [lookup_insert]
        split
        next here =>
          intro empty
          rw [if_pos (some.inj empty), here]
          exact .inr mem_cons_self
        · exact .inl
    next absent =>
      cases ran
      refine ⟨fun pluginId => ?_, fun _ => .inl⟩
      rw [Call.effect]
      split
      next here =>
        rw [here, eventsOf, absent]
        rfl
      · rfl
  | unsubscribeAll other =>
    cases isProgram
    cases ran
    refine ⟨fun pluginId => eventsOf_apply before (.unsubscribeAll other) pluginId,
      fun pluginId => ?_⟩
    rw [lookup_erase]
    split
    · exact fun impossible => absurd impossible (by simp)
    · exact .inl

theorem program_keeps (call : Call) (pluginId : String) :
    Access.removeEntry pluginId ∉ program call := by
  cases call <;> simp [program]

variable {pluginId : String}

theorem Heeds.eventsOf (heeds : Heeds registry (.removeEntry pluginId)) :
    Subscriptions.eventsOf registry pluginId = ∅ := by
  rw [Subscriptions.eventsOf]
  cases held : registry.lookup pluginId with
  | none => rfl
  | some entry => exact heeds entry held

variable {history : Calls}

theorem Agrees.step (agrees : Agrees history) (regular : history.Regular program Access.commits)
    {choice : Unit} {next : Pool SubscriptionRegistry Access}
    (heeds : history.pool.Allows Heeds (.step index choice : Event Call Unit))
    (done : history.pool.step exec index choice = some next) :
    Agrees
      { history with
        pool := next
        order := if (history.pool.at index).any Access.commits then history.order ++ [index]
          else history.order } := by
  obtain ⟨op, rest, ops, held, ran, own, same, -, effect⟩ := regular.step_cases commits done
  have away (pluginId : String) :
      (∃ ops ∈ next.threads, .removeEntry pluginId ∈ ops) ∨ .removeEntry pluginId ∈ op :: rest ↔
        (∃ ops ∈ history.pool.threads, .removeEntry pluginId ∈ ops) ∨ .removeEntry pluginId ∈ ops :=
    Pool.exists_step held own same
  rw [Pool.at_eq held, any_some]
  rcases effect with ⟨committing, -, call, called, isProgram⟩ | ⟨silent, -⟩
  · obtain ⟨first, leaves⟩ := exec_first isProgram ran
    have outcome : Calls.outcome
        { history with pool := next, order := history.order ++ [index] } =
        history.outcome.apply call := History.outcome_commit next called
    rw [if_pos committing]
    refine ⟨fun pluginId => ?_, ?_, fun pluginId empty => ?_⟩
    · rw [outcome, eventsOf_apply, ← agrees.same]
      exact first pluginId
    · rw [outcome]
      exact agrees.full.apply call
    · rcases leaves pluginId empty with before | leaving
      · refine ((away pluginId).mpr (.inl (agrees.leaving pluginId before))).resolve_right ?_
        rw [← isProgram]
        exact program_keeps call pluginId
      · exact ⟨ops, mem_of_getElem? own, leaving⟩
  · rw [if_neg (by simp [silent])]
    obtain ⟨gone, rfl⟩ : ∃ gone, op = .removeEntry gone := by
      cases op with
      | removeEntry gone => exact ⟨gone, rfl⟩
      | insert | takeAway | removeAll => exact absurd silent (by simp [Access.commits])
    obtain ⟨erased, rfl⟩ := Prod.mk.inj (some.inj ran)
    refine ⟨fun pluginId => ?_, agrees.full, fun pluginId empty => ?_⟩
    · refine Eq.trans ?_ (agrees.same pluginId)
      dsimp only
      rw [← erased, eventsOf_erase]
      split
      next here =>
        rw [here]
        exact (heeds.apply held).eventsOf.symm
      · rfl
    · dsimp only at empty
      rw [← erased] at empty
      obtain ⟨other, empty⟩ := of_lookup_erase empty
      rcases (away pluginId).mpr (.inl (agrees.leaving pluginId empty)) with there | leaving
      · exact there
      · rcases mem_cons.mp leaving with same | later
        · exact absurd (Access.removeEntry.inj same) other
        · exact ⟨rest, mem_of_getElem? own, later⟩

theorem Agrees.after (agrees : Agrees history) (regular : history.Regular program Access.commits)
    {event : Event Call Unit} (heeds : history.pool.Allows Heeds event) :
    Agrees (history.after event) := by
  cases event with
  | request call =>
    have outcome : (history.after (.request call)).outcome = history.outcome :=
      regular.outcome_request call
    refine ⟨fun pluginId => ?_, ?_, fun pluginId empty => ?_⟩
    · rw [outcome]
      exact agrees.same pluginId
    · rw [outcome]
      exact agrees.full
    · obtain ⟨ops, mem, leaving⟩ := agrees.leaving pluginId empty
      exact ⟨ops, mem_append_left _ mem, leaving⟩
  | step index choice =>
    rw [Calls.after, History.after]
    split
    · exact agrees
    next next done =>
      exact agrees.step regular heeds done

/-! ### Sequential orders -/

def ReturnsBefore (events : List (Event Call Unit)) (first second : Nat) : Prop :=
  History.Precedes program exec Access.commits Calls.start events first second

/-- An order of the calls that a run could have come from: it has every call that has returned,
keeps to real time, and leads to the same subscriptions. -/
structure Sequential (events : List (Event Call Unit)) (order : List Nat) : Prop where
  once : order.Nodup
  bound : ∀ index ∈ order, index < (Calls.run events).calls.length
  returned : ∀ index, (Calls.run events).pool.threads[index]? = some [] → index ∈ order
  realTime : order.Pairwise fun earlier later => ¬ ReturnsBefore events later earlier
  subscribed : ∀ pluginId eventName,
    hasSubscriberIn (Calls.run events).pool.shared pluginId eventName ↔
      hasSubscriberIn ((Calls.run events).inOrder order) pluginId eventName

/-- A call that takes an event of a plugin away. -/
def Call.Removes (call : Call) (pluginId eventName : String) : Prop :=
  call = .unsubscribe pluginId eventName ∨ call = .unsubscribeAll pluginId

theorem hasSubscriberIn_iff (registry : SubscriptionRegistry) (pluginId eventName : String) :
    hasSubscriberIn registry pluginId eventName ↔ eventName ∈ eventsOf registry pluginId := by
  rw [hasSubscriberIn, eventsOf]
  cases registry.lookup pluginId with
  | none | some => simp

variable {eventName : String}

theorem Call.effect_keeps {call : Call} {events : Finset String}
    (keeps : ¬ call.Removes pluginId eventName) (mem : eventName ∈ events) :
    eventName ∈ call.effect pluginId events := by
  cases call with
  | subscribe other another =>
    rw [effect]
    split
    · exact Finset.mem_insert_of_mem mem
    · exact mem
  | unsubscribe other another =>
    rw [effect]
    split
    next here =>
      refine Finset.mem_erase.mpr ⟨fun same => keeps (.inl ?_), mem⟩
      rw [here, same]
    · exact mem
  | unsubscribeAll other =>
    rw [effect]
    split
    next here =>
      exact absurd (.inr (here ▸ rfl)) keeps
    · exact mem

theorem hasSubscriberIn_foldl {calls : List Call}
    (keep : ∀ call ∈ calls, ¬ call.Removes pluginId eventName)
    (subscribed : hasSubscriberIn registry pluginId eventName) :
    hasSubscriberIn (calls.foldl SubscriptionRegistry.apply registry) pluginId eventName := by
  induction calls generalizing registry with
  | nil => exact subscribed
  | cons call rest ih =>
    refine ih (fun other mem => keep other (mem_cons_of_mem _ mem)) ?_
    rw [hasSubscriberIn_iff, eventsOf_apply]
    exact Call.effect_keeps (keep call mem_cons_self)
      ((hasSubscriberIn_iff _ _ _).mp subscribed)

variable {events : List (Event Call Unit)}

theorem Sequential.keeps {order : List Nat} (sequential : Sequential events order)
    (called : (Calls.run events).calls[index]? = some (.subscribe pluginId eventName))
    (returned : (Calls.run events).pool.threads[index]? = some [])
    (removals : ∀ other call, (Calls.run events).calls[other]? = some call →
      call.Removes pluginId eventName → ReturnsBefore events other index) :
    hasSubscriberIn (Calls.run events).pool.shared pluginId eventName := by
  rw [sequential.subscribed, Calls.inOrder]
  obtain ⟨before, behind, rfl⟩ := append_of_mem (sequential.returned index returned)
  rw [filterMap_append, filterMap_cons_some called, foldl_append, foldl_cons]
  refine hasSubscriberIn_foldl (fun call mem removes => ?_) ?_
  · obtain ⟨other, there, held⟩ := mem_filterMap.mp mem
    have later := (pairwise_append.mp sequential.realTime).2.1
    exact (pairwise_cons.mp later).1 other there (removals other call held removes)
  · rw [hasSubscriberIn_iff, eventsOf_apply, Call.effect, if_pos rfl]
    exact Finset.mem_insert_self _ _

theorem Calls.start_regular : start.Regular program Access.commits where
  lengths := rfl
  once := nodup_nil
  bound := fun _ mem => absurd mem not_mem_nil
  place := fun _ _ held => by simp [start] at held

theorem Calls.start_agrees : Agrees start where
  same := fun _ => rfl
  full := fun pluginId => by simp [outcome, inOrder, start]
  leaving := fun pluginId empty => by simp [start] at empty

theorem HeedfulRun.agrees (heedful : HeedfulRun events) :
    (Calls.run events).Regular program Access.commits ∧ Agrees (Calls.run events) :=
  Runs.Careful.kept
    (fun history => History.Regular program Access.commits history ∧ Agrees history)
    (fun _ event held heeds => ⟨held.1.after commits event, held.2.after held.1 heeds⟩)
    ⟨Calls.start_regular, Calls.start_agrees⟩ heedful

theorem Agrees.lookup (agrees : Agrees history) (finished : history.Finished) (pluginId : String) :
    history.pool.shared.lookup pluginId = history.outcome.lookup pluginId := by
  have nonempty : history.pool.shared.lookup pluginId ≠ some ∅ := fun empty => by
    obtain ⟨ops, mem, leaving⟩ := agrees.leaving pluginId empty
    rw [isEmpty_iff.mp (finished ops mem)] at leaving
    exact not_mem_nil leaving
  have same := agrees.same pluginId
  have full := agrees.full pluginId
  unfold eventsOf at same
  cases left : history.pool.shared.lookup pluginId with
  | none =>
    cases right : history.outcome.lookup pluginId with
    | none => rfl
    | some events =>
      rw [left, right] at same
      exact absurd (right.trans (congrArg some same.symm)) full
  | some entry =>
    cases right : history.outcome.lookup pluginId with
    | none =>
      rw [left, right] at same
      exact absurd (left.trans (congrArg some same)) nonempty
    | some events =>
      rw [left, right] at same
      exact congrArg some same

theorem HeedfulRun.sequential (heedful : HeedfulRun events) :
    Sequential events (Calls.run events).order where
  once := heedful.agrees.1.once
  bound := fun index mem => heedful.agrees.1.lengths ▸ heedful.agrees.1.bound index mem
  returned := fun _ returned => heedful.agrees.1.returned commits returned
  realTime := Calls.start_regular.pairwise commits events
  subscribed := fun pluginId eventName => by
    rw [hasSubscriberIn_iff, hasSubscriberIn_iff, heedful.agrees.2.same]
    rfl

/-- A run in which the second access of a call finds no event has the outcome of a sequential order,
at any time. An event stays subscribed if the calls that take it away return before the one that
subscribes it begins, whatever calls for other events are under way. -/
theorem outcome_sequential (events : List (Event Call Unit)) (heedful : HeedfulRun events) :
    (∃ order, Sequential events order ∧ ((Calls.run events).Finished →
        order.Perm (List.range (Calls.run events).calls.length) ∧
        ∀ pluginId, (Calls.run events).pool.shared.lookup pluginId =
          ((Calls.run events).inOrder order).lookup pluginId)) ∧
    ∀ index pluginId eventName,
      (Calls.run events).calls[index]? = some (.subscribe pluginId eventName) →
      (Calls.run events).pool.threads[index]? = some [] →
      (∀ other call, (Calls.run events).calls[other]? = some call →
        call.Removes pluginId eventName → ReturnsBefore events other index) →
      hasSubscriberIn (Calls.run events).pool.shared pluginId eventName := by
  refine ⟨⟨_, heedful.sequential, fun finished => ⟨?_, fun pluginId => ?_⟩⟩,
    fun index pluginId eventName => heedful.sequential.keeps⟩
  · exact heedful.agrees.1.perm commits fun ops member => List.isEmpty_iff.mp (finished ops member)
  · exact heedful.agrees.2.lookup finished pluginId

instance decidableHeeds (registry : SubscriptionRegistry) :
    ∀ access, Decidable (Heeds registry access)
  | .removeEntry pluginId =>
      inferInstanceAs (Decidable (∀ entry ∈ registry.lookup pluginId, entry = ∅))
  | .insert _ _ | .takeAway _ _ | .removeAll _ => isTrue trivial

/-- A plugin takes its only event away, and asks for another one when that is done. -/
def switching : List (Event Call Unit) :=
  [.request (.subscribe "notify" "tab"), .step 0 (), .request (.unsubscribe "notify" "tab"),
    .step 1 (), .step 1 (), .request (.subscribe "notify" "code"), .step 2 ()]

theorem outcome_switching : (∃ order, Sequential switching order ∧ order.Perm [0, 1, 2]) ∧
      hasSubscriberIn (Calls.run switching).pool.shared "notify" "code" := by
  obtain ⟨⟨order, sequential, whole⟩, kept⟩ := outcome_sequential switching (by decide)
  have calls : (Calls.run switching).calls =
      [.subscribe "notify" "tab", .unsubscribe "notify" "tab", .subscribe "notify" "code"] := by
    decide
  refine ⟨⟨order, sequential, (whole (by unfold Calls.Finished; decide)).1⟩,
    kept 2 "notify" "code" (by rw [calls]; rfl) (by decide) fun other call present removes => ?_⟩
  have member := mem_of_getElem? present
  rw [calls] at member
  rcases removes with rfl | rfl <;> simp at member

/-- The same calls, but the event is asked for while the other one is being taken away. -/
def overlapping : List (Event Call Unit) :=
  [.request (.subscribe "notify" "tab"), .step 0 (), .request (.unsubscribe "notify" "tab"),
    .step 1 (), .request (.subscribe "notify" "code"), .step 2 (), .step 1 ()]

/-- The event that was asked for is gone, which no order of the calls leads to. -/
theorem subscription_lost : (Calls.run overlapping).Finished ∧
      ¬ hasSubscriberIn (Calls.run overlapping).pool.shared "notify" "code" ∧
      ∀ order, ¬ Sequential overlapping order := by
  have lost : ¬ hasSubscriberIn (Calls.run overlapping).pool.shared "notify" "code" := by
    unfold hasSubscriberIn
    decide
  refine ⟨by unfold Calls.Finished; decide, lost, fun order sequential => ?_⟩
  have calls : (Calls.run overlapping).calls =
      [.subscribe "notify" "tab", .unsubscribe "notify" "tab", .subscribe "notify" "code"] := by
    decide
  have called : (Calls.run overlapping).calls[2]? = some (.subscribe "notify" "code") := by
    rw [calls]
    rfl
  refine lost (sequential.keeps called (by decide) fun other call present removes => ?_)
  have member := mem_of_getElem? present
  rw [calls] at member
  rcases removes with rfl | rfl <;> simp at member

end Dinotty.Plugin.Subscriptions
