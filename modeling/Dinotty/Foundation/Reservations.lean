/-
This file is the register of requests that run at most once. A key is granted to a request under a
generation, which is completed with an outcome; it may be granted again only when its grant is older
than one horizon, or its completion older than another. The register never forgets; a cache that
does is compared with it.
-/

import Mathlib

namespace Reservations

open List

variable {Key Request Outcome : Type}

inductive Event (Key Request Outcome : Type) where
  | granted (key : Key) (generation : Nat) (request : Request) (time : Nat)
  | completed (key : Key) (generation : Nat) (outcome : Outcome) (time : Nat)
deriving DecidableEq

def Event.key : Event Key Request Outcome → Key
  | .granted key .. => key
  | .completed key .. => key

def Event.generation : Event Key Request Outcome → Nat
  | .granted _ generation .. => generation
  | .completed _ generation .. => generation

def Event.time : Event Key Request Outcome → Nat
  | .granted _ _ _ time => time
  | .completed _ _ _ time => time

inductive Slot (Request Outcome : Type) where
  | free
  | pending (generation : Nat) (request : Request) (since : Nat)
  | done (generation : Nat) (request : Request) (outcome : Outcome) (since : Nat)
deriving DecidableEq

/-- What an event about a key makes of its slot. -/
def Slot.next : Slot Request Outcome → Event Key Request Outcome → Slot Request Outcome
  | _, .granted _ generation request time => .pending generation request time
  | .pending generation request _, .completed _ _ outcome time =>
      .done generation request outcome time
  | slot, .completed .. => slot

/-- The generation and the request that a slot was last granted to. -/
def Slot.grant : Slot Request Outcome → Option (Nat × Request)
  | .free => none
  | .pending generation request _ => some (generation, request)
  | .done generation request _ _ => some (generation, request)

/-- How long a grant and a completion hold a key. -/
structure Horizons where
  pending : Nat
  done : Nat

def Slot.Grantable (horizons : Horizons) (time : Nat) : Slot Request Outcome → Prop
  | .free => True
  | .pending _ _ since => since + horizons.pending ≤ time
  | .done _ _ _ since => since + horizons.done ≤ time

variable [DecidableEq Key]

def slot (history : List (Event Key Request Outcome)) (key : Key) : Slot Request Outcome :=
  (history.filter fun event => event.key = key).foldl Slot.next .free

def Event.grantOf (key : Key) : Event Key Request Outcome → Option (Nat × Request)
  | .granted found generation request _ => if found = key then some (generation, request) else none
  | .completed .. => none

def latestGrant (history : List (Event Key Request Outcome)) (key : Key) : Option (Nat × Request) :=
  (history.filterMap (Event.grantOf key)).getLast?

def Event.completes (key : Key) (generation : Nat) : Event Key Request Outcome → Bool
  | .granted .. => false
  | .completed found done _ _ => found = key ∧ done = generation

/-- The histories of a register: time does not run back, a grant is of a free key and a new
generation, and a completion is of the pending generation. -/
inductive Legal (horizons : Horizons) : List (Event Key Request Outcome) → Prop where
  | nil : Legal horizons []
  | granted {history : List (Event Key Request Outcome)} {key : Key} {generation : Nat}
      {request : Request} {time : Nat} (legal : Legal horizons history)
      (grantable : (slot history key).Grantable horizons time)
      (fresh : ∀ event ∈ history, event.generation < generation)
      (later : ∀ event ∈ history, event.time ≤ time) :
      Legal horizons (history ++ [.granted key generation request time])
  | completed {history : List (Event Key Request Outcome)} {key : Key} {generation : Nat}
      {request : Request} {since : Nat} {outcome : Outcome} {time : Nat}
      (legal : Legal horizons history) (held : slot history key = .pending generation request since)
      (later : ∀ event ∈ history, event.time ≤ time) :
      Legal horizons (history ++ [.completed key generation outcome time])

/-! ### Slots -/

variable {history : List (Event Key Request Outcome)} {key : Key}

theorem slot_snoc (history : List (Event Key Request Outcome))
    (event : Event Key Request Outcome) (key : Key) :
    slot (history ++ [event]) key =
      if event.key = key then (slot history key).next event else slot history key := by
  rw [slot, filter_append, foldl_append, filter_cons]
  by_cases same : event.key = key
  · rw [if_pos (decide_eq_true same), if_pos same]
    rfl
  · rw [if_neg (by rw [decide_eq_true_eq]; exact same), if_neg same]
    rfl

theorem slot_granted (history : List (Event Key Request Outcome)) (key : Key) (generation : Nat)
    (request : Request) (time : Nat) :
    slot (history ++ [.granted key generation request time]) key =
      .pending generation request time := by
  rw [slot_snoc]
  exact if_pos rfl

variable {generation : Nat} {request : Request}

theorem slot_completed {since : Nat} (held : slot history key = .pending generation request since)
    (done : Nat) (outcome : Outcome) (time : Nat) :
    slot (history ++ [.completed key done outcome time]) key =
      .done generation request outcome time := by
  rw [slot_snoc, held]
  exact if_pos rfl

theorem slot_snoc_other (history : List (Event Key Request Outcome))
    (event : Event Key Request Outcome) (other : event.key ≠ key) :
    slot (history ++ [event]) key = slot history key := by
  rw [slot_snoc, if_neg other]

theorem latestGrant_snoc (history : List (Event Key Request Outcome))
    (event : Event Key Request Outcome) (key : Key) :
    latestGrant (history ++ [event]) key = (event.grantOf key).or (latestGrant history key) := by
  rw [latestGrant, filterMap_append]
  cases grant : event.grantOf key with
  | none =>
    rw [filterMap_cons, grant, filterMap_nil, append_nil]
    rfl
  | some found =>
    rw [filterMap_cons, grant, filterMap_nil, getLast?_concat]
    rfl

theorem slot_grant (history : List (Event Key Request Outcome)) (key : Key) :
    (slot history key).grant = latestGrant history key := by
  induction history using reverseRecOn with
  | nil => rfl
  | append_singleton history event ih =>
    rw [slot_snoc, latestGrant_snoc]
    cases event with
    | granted found generation request time =>
      show (if found = key then _ else _ : Slot Request Outcome).grant =
        (if found = key then _ else _ : Option (Nat × Request)).or _
      split
      · rfl
      · exact ih
    | completed found generation outcome time =>
      show (if found = key then _ else _ : Slot Request Outcome).grant = latestGrant history key
      split
      · rw [← ih]
        cases slot history key with
        | free | pending | done => rfl
      · exact ih

/-! ### Legal histories -/

variable {horizons : Horizons}

theorem Legal.init {event : Event Key Request Outcome}
    (legal : Legal horizons (history ++ [event])) : Legal horizons history := by
  generalize whole : history ++ [event] = events at legal
  cases legal with
  | nil => exact absurd (congrArg length whole) (by simp)
  | granted legal | completed legal =>
    obtain ⟨rfl, -⟩ := append_inj' whole rfl
    exact legal

variable {later : List (Event Key Request Outcome)}

theorem Legal.front (legal : Legal horizons (history ++ later)) : Legal horizons history := by
  induction later using reverseRecOn with
  | nil =>
    rw [append_nil] at legal
    exact legal
  | append_singleton later event ih =>
    rw [← append_assoc] at legal
    exact ih legal.init

variable {time : Nat} {outcome : Outcome}

theorem Legal.completed_pending
    (legal : Legal horizons (history ++ [.completed key generation outcome time])) :
    ∃ request since, slot history key = .pending generation request since := by
  generalize whole : history ++ [.completed key generation outcome time] = events at legal
  cases legal with
  | nil => exact absurd (congrArg length whole) (by simp)
  | granted legal =>
    obtain ⟨-, equal⟩ := append_inj' whole rfl
    exact nomatch cons.inj equal
  | completed legal held =>
    obtain ⟨rfl, equal⟩ := append_inj' whole rfl
    cases (cons.inj equal).1
    exact ⟨_, _, held⟩

theorem Legal.granted_grantable
    (legal : Legal horizons (history ++ [.granted key generation request time])) :
    (slot history key).Grantable horizons time := by
  generalize whole : history ++ [.granted key generation request time] = events at legal
  cases legal with
  | nil => exact absurd (congrArg length whole) (by simp)
  | granted legal grantable =>
    obtain ⟨rfl, equal⟩ := append_inj' whole rfl
    cases (cons.inj equal).1
    exact grantable
  | completed legal held =>
    obtain ⟨-, equal⟩ := append_inj' whole rfl
    exact nomatch cons.inj equal

theorem Legal.pending_mem (legal : Legal horizons history) {since : Nat}
    (held : slot history key = .pending generation request since) :
    .granted key generation request since ∈ history := by
  induction legal with
  | nil => exact nomatch held
  | @granted history granted newest other time legal grantable fresh later ih =>
    by_cases same : granted = key
    · obtain rfl := same
      rw [slot_granted] at held
      cases held
      exact mem_append_right _ (mem_singleton_self _)
    · rw [slot_snoc_other history (.granted granted newest other time) same] at held
      exact mem_append_left _ (ih held)
  | @completed history completed done other start outcome time legal pending later
      ih =>
    by_cases same : completed = key
    · obtain rfl := same
      rw [slot_completed pending] at held
      exact nomatch held
    · rw [slot_snoc_other history (.completed completed done outcome time) same] at held
      exact mem_append_left _ (ih held)

theorem countP_completes_of_fresh (fresh : ∀ event ∈ history, event.generation < generation) :
    history.countP (Event.completes key generation) = 0 := by
  refine countP_eq_zero.mpr fun event mem completes => ?_
  cases event with
  | granted => exact nomatch completes
  | completed found done outcome time =>
    obtain ⟨-, rfl⟩ := of_decide_eq_true completes
    exact Nat.lt_irrefl _ (fresh _ mem)

theorem countP_snoc (history : List (Event Key Request Outcome))
    (event : Event Key Request Outcome) (key : Key) (generation : Nat) :
    (history ++ [event]).countP (Event.completes key generation) =
      history.countP (Event.completes key generation) +
        if event.completes key generation then 1 else 0 := by
  rw [countP_append, countP_singleton]

/-- No generation is completed twice: it is no longer pending after its completion. -/
theorem Legal.completes_once (legal : Legal horizons history) (key : Key) (generation : Nat) :
    history.countP (Event.completes key generation) ≤ 1 ∧
      ∀ request since, slot history key = .pending generation request since →
        history.countP (Event.completes key generation) = 0 := by
  induction legal with
  | nil => exact ⟨Nat.zero_le _, nofun⟩
  | @granted history granted newest request time legal grantable fresh later ih =>
    rw [countP_snoc, Event.completes, if_neg Bool.false_ne_true, Nat.add_zero]
    refine ⟨ih.1, fun other since pending => ?_⟩
    by_cases same : granted = key
    · obtain rfl := same
      rw [slot_granted] at pending
      cases pending
      exact countP_completes_of_fresh fresh
    · rw [slot_snoc_other history (.granted granted newest request time) same] at pending
      exact ih.2 other since pending
  | @completed history completed done request since outcome time legal held later
      ih =>
    by_cases same : completed = key
    · obtain rfl := same
      rw [slot_completed held]
      refine ⟨?_, nofun⟩
      rw [countP_snoc]
      by_cases this : done = generation
      · rw [ih.2 request since (this ▸ held)]
        split
        · exact Nat.le_refl _
        · exact Nat.zero_le _
      · rw [if_neg (fun completes => this (of_decide_eq_true completes).2)]
        exact ih.1
    · rw [slot_snoc_other history (.completed completed done outcome time) same, countP_snoc,
        if_neg (fun completes => same (of_decide_eq_true completes).1)]
      exact ih

theorem Legal.completed_latest
    (legal : Legal horizons (history ++ .completed key generation outcome time :: later)) :
    ∃ request, latestGrant history key = some (generation, request) := by
  rw [append_cons] at legal
  obtain ⟨request, since, pending⟩ := legal.front.completed_pending
  refine ⟨request, ?_⟩
  rw [← slot_grant, pending]
  rfl

theorem Legal.slot_done
    (legal : Legal horizons (history ++ .completed key generation outcome time :: later))
    (granted : latestGrant history key = some (generation, request))
    (recent : ∀ event ∈ later, event.time < time + horizons.done) :
    slot (history ++ .completed key generation outcome time :: later) key =
      .done generation request outcome time := by
  rw [append_cons] at legal ⊢
  induction later using reverseRecOn with
  | nil =>
    rw [append_nil] at legal ⊢
    obtain ⟨found, since, pending⟩ := legal.completed_pending
    rw [← slot_grant, pending] at granted
    cases granted
    exact slot_completed pending generation outcome time
  | append_singleton later event ih =>
    rw [← append_assoc] at legal ⊢
    have known := ih legal.init fun other mem =>
      recent other (mem_append_left _ mem)
    by_cases same : event.key = key
    · obtain rfl := same
      have eventRecent := recent event (mem_append_right _ (mem_singleton_self event))
      cases event with
      | granted found newest other at' =>
        have grantable := legal.granted_grantable
        change slot _ found = _ at known
        rw [known] at grantable
        exact absurd eventRecent (Nat.not_lt_of_le grantable)
      | completed found done other at' =>
        obtain ⟨_, _, pending⟩ := legal.completed_pending
        change slot _ found = _ at known
        rw [known] at pending
        exact nomatch pending
    · rw [slot_snoc_other _ _ same]
      exact known

/-- Within its horizon a grant that has not been completed is what is known of its key. -/
theorem Legal.slot_pending
    (legal : Legal horizons (history ++ .granted key generation request time :: later))
    (recent : ∀ event ∈ later, event.time < time + horizons.pending)
    (uncompleted : ∀ event ∈ later, event.completes key generation = false) :
    slot (history ++ .granted key generation request time :: later) key =
      .pending generation request time := by
  rw [append_cons] at legal ⊢
  induction later using reverseRecOn with
  | nil =>
    rw [append_nil, slot_granted]
  | append_singleton later event ih =>
    rw [← append_assoc] at legal ⊢
    have known := ih legal.init
      (fun other mem => recent other (mem_append_left _ mem))
      fun other mem => uncompleted other (mem_append_left _ mem)
    have last : event ∈ later ++ [event] := mem_append_right _ (mem_singleton_self event)
    by_cases same : event.key = key
    · obtain rfl := same
      cases event with
      | granted found newest other at' =>
        have grantable := legal.granted_grantable
        change slot _ found = _ at known
        rw [known] at grantable
        exact absurd (recent _ last) (Nat.not_lt_of_le grantable)
      | completed found done other at' =>
        obtain ⟨_, _, pending⟩ := legal.completed_pending
        change slot _ found = _ at known
        rw [known] at pending
        cases pending
        exact absurd (uncompleted _ last) (by simp [Event.completes, Event.key])
    · rw [slot_snoc_other _ _ same]
      exact known

end Reservations
