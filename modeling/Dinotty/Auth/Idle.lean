/-
This file is the time out of idle sessions. The last use of a session is written only so often, so
that the stored one lags behind.
-/

import Dinotty.Auth.Sessions
import Dinotty.Foundation.Runs

namespace Dinotty.Auth

open KeyMap Function SessionStore

/-- A call of `validate`, with its two readings of the clock. -/
structure Validation where
  id : List Char
  now : Nat
  again : Nat

/-- A store, with the time at which each session was last accepted, and the clock. -/
structure Watched where
  store : SessionStore
  acceptedAt : List Char → Nat
  clock : Nat

namespace Watched

/-- The last reading of the clock that an accepted call makes. -/
def readAt (watched : Watched) (call : Validation) : Nat :=
  match watched.store.sessions.lookup call.id with
  | none => call.now
  | some entry =>
      if call.now - entry.lastUsed < watched.store.lastUsedThrottle then call.now else call.again

def valid (watched : Watched) (call : Validation) : Bool :=
  (watched.store.validate call.id call.now call.again).2

def after (watched : Watched) (call : Validation) : Watched where
  store := (watched.store.validate call.id call.now call.again).1
  acceptedAt :=
    if watched.valid call then
      Function.update watched.acceptedAt call.id (watched.readAt call)
    else watched.acceptedAt
  clock := call.again

/-- The clock does not go back. -/
def Timely (watched : Watched) (call : Validation) : Prop :=
  watched.clock ≤ call.now ∧ call.now ≤ call.again

/-- A store whose sessions were accepted when their last use was written. -/
def starting (store : SessionStore) (clock : Nat) : Watched where
  store := store
  acceptedAt := fun id => ((store.sessions.lookup id).map (·.lastUsed)).getD 0
  clock := clock

/-- The stored last use lags by the throttle at most, and a session that has been removed was not
accepted for its time to live, but for the throttle. -/
structure Lags (origin : SessionStore) (watched : Watched) : Prop where
  ttl : watched.store.currentTtl = origin.currentTtl
  throttle : watched.store.lastUsedThrottle = origin.lastUsedThrottle
  behind : ∀ id entry, watched.store.sessions.lookup id = some entry →
    entry.lastUsed ≤ watched.clock ∧ entry.lastUsed ≤ watched.acceptedAt id ∧
      watched.acceptedAt id ≤ entry.lastUsed + origin.lastUsedThrottle
  gone : ∀ id, (origin.sessions.lookup id).isSome → watched.store.sessions.lookup id = none →
    watched.acceptedAt id + origin.currentTtl < watched.clock + origin.lastUsedThrottle

variable {origin : SessionStore} {watched : Watched} {call : Validation}

theorem lags_starting {store : SessionStore} {clock : Nat}
    (past : ∀ id entry, store.sessions.lookup id = some entry → entry.lastUsed ≤ clock) :
    (starting store clock).Lags store where
  ttl := rfl
  throttle := rfl
  behind := fun id entry held => by
    have written : (starting store clock).acceptedAt id = entry.lastUsed := by
      dsimp only [starting] at held ⊢
      rw [held]
      rfl
    exact ⟨past id entry held, by omega, by omega⟩
  gone := fun id known missing => by
    dsimp only [starting] at missing
    rw [missing] at known
    cases known

section

variable (lags : watched.Lags origin)
include lags

theorem Lags.refuses (idle : watched.acceptedAt call.id + origin.currentTtl < call.now) :
    watched.valid call = false := by
  unfold valid validate
  cases held : watched.store.sessions.lookup call.id with
  | none => rfl
  | some entry =>
    have behind := (lags.behind call.id entry held).2.1
    dsimp only
    rw [lags.ttl, if_pos (by omega)]

theorem Lags.accepts (timely : watched.Timely call)
    (known : (origin.sessions.lookup call.id).isSome)
    (recent : call.again + origin.lastUsedThrottle ≤
      watched.acceptedAt call.id + origin.currentTtl) : watched.valid call = true := by
  unfold valid validate
  obtain ⟨since, order⟩ := timely
  cases held : watched.store.sessions.lookup call.id with
  | none =>
    have gone := lags.gone call.id known held
    omega
  | some entry =>
    have behind := (lags.behind call.id entry held).2.2
    dsimp only
    rw [lags.ttl, if_neg (by omega)]
    split
    · rfl
    · rw [if_neg (by omega)]

theorem Lags.next (later : watched.clock ≤ call.again) {store : SessionStore}
    {acceptedAt : List Char → Nat} (ttl : store.currentTtl = origin.currentTtl)
    (throttle : store.lastUsedThrottle = origin.lastUsedThrottle)
    (others : ∀ id ≠ call.id, store.sessions.lookup id = watched.store.sessions.lookup id ∧
      acceptedAt id = watched.acceptedAt id)
    (behind : ∀ entry ∈ store.sessions.lookup call.id, entry.lastUsed ≤ call.again ∧
      entry.lastUsed ≤ acceptedAt call.id ∧
        acceptedAt call.id ≤ entry.lastUsed + origin.lastUsedThrottle)
    (gone : (origin.sessions.lookup call.id).isSome → store.sessions.lookup call.id = none →
      acceptedAt call.id + origin.currentTtl < call.again + origin.lastUsedThrottle) :
    Lags origin { store, acceptedAt, clock := call.again } where
  ttl := ttl
  throttle := throttle
  behind := fun id entry held => by
    by_cases own : id = call.id
    · subst own
      exact behind entry held
    · dsimp only at held ⊢
      rw [(others id own).1] at held
      rw [(others id own).2]
      obtain ⟨before, lag⟩ := lags.behind id entry held
      exact ⟨Nat.le_trans before later, lag⟩
  gone := fun id known missing => by
    by_cases own : id = call.id
    · subst own
      exact gone known missing
    · dsimp only at missing ⊢
      rw [(others id own).1] at missing
      rw [(others id own).2]
      have gone := lags.gone id known missing
      omega

theorem Lags.after (timely : watched.Timely call) : (watched.after call).Lags origin := by
  obtain ⟨since, order⟩ := timely
  have later := Nat.le_trans since order
  have ttl := lags.ttl
  have throttle := lags.throttle
  have same : ∀ id ≠ call.id, watched.store.sessions.lookup id =
      watched.store.sessions.lookup id ∧ watched.acceptedAt id = watched.acceptedAt id :=
    fun _ _ => ⟨rfl, rfl⟩
  unfold Watched.after valid readAt validate
  cases found : watched.store.sessions.lookup call.id with
  | none =>
    simp only [Bool.false_eq_true, if_false]
    refine lags.next later ttl throttle same (fun entry held => ?_) fun known missing => ?_
    · rw [found] at held
      cases held
    have gone := lags.gone call.id known missing
    omega
  | some entry =>
    obtain ⟨before, lower, upper⟩ := lags.behind call.id entry found
    have erased : ∀ id ≠ call.id, (watched.store.revoke call.id).sessions.lookup id =
        watched.store.sessions.lookup id ∧ watched.acceptedAt id = watched.acceptedAt id :=
      fun id other => ⟨(lookup_erase _ _ _).trans (if_neg other), rfl⟩
    have removed : (watched.store.revoke call.id).sessions.lookup call.id = none :=
      (lookup_erase _ _ _).trans (if_pos rfl)
    dsimp only
    rw [ttl]
    by_cases ended : origin.currentTtl < call.now - entry.lastUsed
    · simp only [if_pos ended, Bool.false_eq_true, if_false]
      refine lags.next later ttl throttle erased (fun entry held => ?_) fun _ _ => by omega
      rw [removed] at held
      cases held
    by_cases fresh : call.now - entry.lastUsed < watched.store.lastUsedThrottle
    · simp only [if_neg ended, if_pos fresh, if_true]
      refine lags.next later ttl throttle (fun id other => ⟨rfl, update_of_ne other _ _⟩)
        (fun other held => ?_) fun _ missing => ?_
      · cases found.symm.trans held
        rw [update_self]
        omega
      · rw [found] at missing
        cases missing
    by_cases late : origin.currentTtl < call.again - entry.lastUsed
    · simp only [if_neg ended, if_neg fresh, if_pos late, Bool.false_eq_true, if_false]
      refine lags.next later ttl throttle erased (fun entry held => ?_) fun _ _ => by omega
      rw [removed] at held
      cases held
    · simp only [if_neg ended, if_neg fresh, if_neg late, if_true]
      have written := lookup_insert watched.store.sessions call.id
        { entry with lastUsed := call.again }
      refine lags.next later ttl throttle
        (fun id other => ⟨(written id).trans (if_neg other), update_of_ne other _ _⟩)
        (fun other held => ?_) fun _ missing => ?_
      · cases ((written call.id).trans (if_pos rfl)).symm.trans held
        rw [update_self]
        exact ⟨Nat.le_refl _, Nat.le_refl _, Nat.le_add_right _ _⟩
      · exact nomatch ((written call.id).trans (if_pos rfl)).symm.trans missing

end

theorem acceptedAt_after (other : Validation)
    (refused : other.id = call.id → watched.valid other = false) :
    (watched.after other).acceptedAt call.id = watched.acceptedAt call.id := by
  unfold after
  split_ifs with valid
  · refine update_of_ne (fun same => ?_) _ _
    rw [refused same.symm] at valid
    cases valid
  · rfl

/-- If times do not go back, a session that was not accepted for longer than its time to live is
refused from then on, and a session of the store that was accepted within its time to live, less the
throttle, is accepted. -/
theorem validate_idle {store : SessionStore} {clock : Nat} {calls : List Validation}
    (past : ∀ id entry, store.sessions.lookup id = some entry → entry.lastUsed ≤ clock)
    (timely : Runs.Careful after Timely (starting store clock) calls) (call : Validation)
    (now : (Runs.run after (starting store clock) calls).Timely call) :
    let watched := Runs.run after (starting store clock) calls
    (watched.acceptedAt call.id + store.currentTtl < call.now → watched.valid call = false) ∧
    (watched.acceptedAt call.id + store.currentTtl < watched.clock →
      ∀ later, Runs.Careful after Timely watched later →
        (Runs.run after watched later).acceptedAt call.id = watched.acceptedAt call.id) ∧
    ((store.sessions.lookup call.id).isSome →
      call.again + store.lastUsedThrottle ≤ watched.acceptedAt call.id + store.currentTtl →
      watched.valid call = true) := by
  intro watched
  have lags : watched.Lags store :=
    timely.kept (Lags store) (fun _ _ lags timely => lags.after timely) (lags_starting past)
  refine ⟨lags.refuses, fun idle later ordered => ?_, lags.accepts now⟩
  refine (ordered.kept
    (fun state => state.Lags store ∧ watched.clock ≤ state.clock ∧
      state.acceptedAt call.id = watched.acceptedAt call.id)
    (fun state other ⟨lags, clock, same⟩ timely => ?_) ⟨lags, Nat.le_refl _, rfl⟩).2.2
  obtain ⟨since, order⟩ := timely
  refine ⟨lags.after ⟨since, order⟩, Nat.le_trans clock (Nat.le_trans since order), ?_⟩
  rw [acceptedAt_after other fun own => lags.refuses ?_, same]
  rw [own, same]
  omega

/-- A session of two minutes, used after forty seconds and once more. -/
theorem validate_idle_twice :
    let store : SessionStore :=
      { sessions := (∅ : KeyMap (List Char) SessionEntry).insert ['s'] ⟨0, 0, none, none, .code⟩
        ttlSecs := 120 }
    (Runs.run after (starting store 0) [⟨['s'], 40000, 40000⟩]).valid ⟨['s'], 90000, 90000⟩ =
      true := by
  intro store
  have past : ∀ id entry, store.sessions.lookup id = some entry → entry.lastUsed ≤ 0 := by
    intro id entry present
    rw [lookup_insert] at present
    split at present
    · exact Option.some.inj present ▸ Nat.le_refl 0
    · cases present
  have timely : Runs.Careful after Timely (starting store 0) [⟨['s'], 40000, 40000⟩] :=
    ⟨⟨by decide, by decide⟩, trivial⟩
  exact (validate_idle past timely ⟨['s'], 90000, 90000⟩ ⟨by decide +kernel, by decide⟩).2.2
    (by decide +kernel) (by decide +kernel)

end Watched

end Dinotty.Auth
