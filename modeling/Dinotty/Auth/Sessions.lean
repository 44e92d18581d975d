/-
This file is the store of browser sessions. The clock counts milliseconds.
-/

import Dinotty.Foundation.IpAddr
import Dinotty.Foundation.KeyMap

namespace Dinotty.Auth

/-- What a session was created on the strength of: a version of the token, or a code. -/
inductive Grant where
  | token (version : Nat)
  | code
  deriving DecidableEq

/-- A session. Its grant is not stored: it is what the statements about sessions speak of. -/
structure SessionEntry where
  createdAt : Nat
  lastUsed : Nat
  sourceIp : Option IpAddr
  userAgent : Option (List Char)
  grant : Grant

def secsPerDay : Nat := 86400

def defaultSessionTtlDays : Nat := 7

/-- The seconds of so many days, where none stands for the default. -/
def ttlFromDays (days : Nat) : Nat :=
  min ((if days = 0 then defaultSessionTtlDays else days) * secsPerDay) (2 ^ 64 - 1)

structure SessionStore where
  sessions : KeyMap (List Char) SessionEntry := ∅
  ttlSecs : Nat := ttlFromDays 0
  lastUsedThrottle : Nat := 60000

namespace SessionStore

variable (store : SessionStore)

def updateTtlDays (days : Nat) : SessionStore := { store with ttlSecs := ttlFromDays days }

/-- The time to live in milliseconds. -/
def currentTtl : Nat :=
  1000 * if store.ttlSecs = 0 then defaultSessionTtlDays * secsPerDay else store.ttlSecs

/-- Create a session under a new identifier. -/
def create (id : List Char) (now : Nat) (sourceIp : Option IpAddr)
    (userAgent : Option (List Char)) (grant : Grant) : SessionStore :=
  { store with
    sessions := store.sessions.insert id
      { createdAt := now, lastUsed := now, sourceIp, userAgent, grant } }

def revoke (id : List Char) : SessionStore := { store with sessions := store.sessions.erase id }

/-- Whether a session is valid. The first reading of the clock decides whether its last use has to
be written, the second is written. -/
def validate (id : List Char) (now again : Nat) : SessionStore × Bool :=
  match store.sessions.lookup id with
  | none => (store, false)
  | some entry =>
      if store.currentTtl < now - entry.lastUsed then (store.revoke id, false)
      else if now - entry.lastUsed < store.lastUsedThrottle then (store, true)
      else if store.currentTtl < again - entry.lastUsed then (store.revoke id, false)
      else
        ({ store with sessions := store.sessions.insert id { entry with lastUsed := again } }, true)

def revokeAll : SessionStore := { store with sessions := ∅ }

def revokeAllExcept (keep : List Char) : SessionStore :=
  { store with sessions := KeyMap.retain (fun id _ => decide (id = keep)) store.sessions }

def cleanup (now : Nat) : SessionStore :=
  { store with
    sessions := KeyMap.retain (fun _ entry => decide (now - entry.lastUsed ≤ store.currentTtl))
      store.sessions }

/-! ### Sessions only come from their creation -/

/-- The sessions of one store are sessions of another, with the same grants. -/
def Within (after before : SessionStore) : Prop :=
  ∀ id entry, after.sessions.lookup id = some entry →
    ∃ earlier, before.sessions.lookup id = some earlier ∧ earlier.grant = entry.grant

variable {store}

theorem Within.refl : store.Within store := fun _ entry held => ⟨entry, held, rfl⟩

theorem revokeAll_within : store.revokeAll.Within store := nofun

theorem revoke_within (id : List Char) : (store.revoke id).Within store := by
  intro other entry held
  rw [revoke] at held
  obtain ⟨-, held⟩ := KeyMap.of_lookup_erase held
  exact ⟨entry, held, rfl⟩

theorem retain_within (keep : List Char → SessionEntry → Bool) :
    ({ store with sessions := KeyMap.retain keep store.sessions } : SessionStore).Within store := by
  intro other entry held
  rw [KeyMap.lookup_retain, Option.filter_eq_some_iff] at held
  exact ⟨entry, held.1, rfl⟩

theorem validate_within (id : List Char) (now again : Nat) :
    (store.validate id now again).1.Within store := by
  unfold validate
  split
  · exact .refl
  rename_i entry found
  split
  · exact revoke_within id
  split
  · exact .refl
  split
  · exact revoke_within id
  intro other later held
  rw [KeyMap.lookup_insert] at held
  split at held
  next same =>
    cases held
    exact ⟨entry, same ▸ found, rfl⟩
  · exact ⟨later, held, rfl⟩

end SessionStore

end Dinotty.Auth
