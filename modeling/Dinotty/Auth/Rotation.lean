/-
This file is the rotation of the token while logins are under way. It proves in which interleavings
no session outlives the token that it was created on, and the token of the memory is that of the
disk.
-/

import Dinotty.Auth.BruteForce
import Dinotty.Auth.Sessions

namespace Dinotty.Auth

open Option KeyMap SessionStore

/-! ### The parties -/

/-- The token that a login has read. Versions number the tokens that the memory has held. -/
structure LoginRead where
  stored : List Char
  version : Nat

/-- The rest of a login. -/
structure LoginRequest where
  settings : AuthSettings
  verify : List Char → List Char → Except (Nat × String) Unit
  clientIp : IpAddr
  headers : HeaderMap
  body : LoginBody
  sessionId : List Char
  now : Nat

/-- An update that has written to memory, over which token, and whether it has written to disk. -/
structure TokenUpdate where
  token : List Char
  replaced : List Char
  version : Nat
  persisted : Bool := false

structure Held where
  memory : List Char
  disk : Option (List Char)
  sessions : SessionStore

/-- An update that has returned an error: what there was when it wrote, and what it left. -/
structure FailedUpdate where
  before : Held
  after : Held

/-- The state. The versions and what has been returned are for the statements only. -/
structure Rotation where
  memory : List Char
  disk : Option (List Char)
  sessions : SessionStore := {}
  lockouts : Lockouts := {}
  logins : KeyMap Nat LoginRead := ∅
  updates : KeyMap Nat TokenUpdate := ∅
  version : Nat := 0
  saved : Option Nat := none
  returned : Option Nat := none
  failed : List FailedUpdate := []

/-- Whether the file has been written, or else what a failed write has left. -/
inductive Saving where
  | ok
  | failed (disk : Option (List Char))

inductive RotationAction where
  | loginRead (party : Nat)
  | loginFinish (party : Nat) (request : LoginRequest)
  | updateWrite (party : Nat) (posted : List Char)
  | updateSave (party : Nat) (saving : Saving)
  | updateRevoke (party : Nat)
  | validate (id : List Char) (now again : Nat)
  | revokeSession (id : List Char)
  | revokeOtherSessions (current : Option (List Char))
  | cleanup (now : Nat)
  | updateTtlDays (days : Nat)

namespace LoginRequest

variable (request : LoginRequest)

def realIp : IpAddr :=
  realClientIp request.headers request.clientIp request.settings.trustedProxies

/-- What a session that the login creates is created on the strength of. -/
def grant (version : Nat) : Grant :=
  match request.body with
  | .token _ => .token version
  | .code _ _ => .code

/-- Whether the token of a request is the stored one and creates a session. -/
def Grants (lockouts : Lockouts) (stored : List Char) : Prop :=
  request.grant 0 ≠ .code ∧ stored ≠ [] ∧
    (lockouts.checkLockout request.now request.realIp request.settings).2 = none ∧
    request.body.Right request.settings stored

end LoginRequest

namespace Rotation

variable (state : Rotation)

def held : Held where
  memory := state.memory
  disk := state.disk
  sessions := state.sessions

/-- Compare with the token that has been read, and create a session. -/
def finishLogin (read : LoginRead) (request : LoginRequest) : Rotation :=
  match login request.settings request.verify read.stored state.lockouts request.now
    request.clientIp request.headers request.body with
  | (lockouts, .session, _) =>
      { state with
        lockouts
        sessions := state.sessions.create request.sessionId request.now (some request.realIp)
          ((request.headers.get "user-agent").bind toStr) (request.grant read.version) }
  | (lockouts, .refused _ _ _, _) => { state with lockouts }

/-- Update the token in memory. Writing what is there already is no new version. -/
def writeToken (party : Nat) (token : List Char) : Rotation :=
  let version := if token = state.memory then state.version else state.version + 1
  { state with
    memory := token
    version
    updates := state.updates.insert party { token, replaced := state.memory, version } }

def saveToken (party : Nat) (update : TokenUpdate) : Saving → Rotation
  | .ok =>
      { state with
        disk := some update.token
        saved := some update.version
        updates := state.updates.insert party { update with persisted := true } }
  | .failed disk =>
      { state with
        disk
        updates := state.updates.erase party
        failed := {
          before := { state.held with memory := update.replaced }
          after := { state.held with memory := update.token, disk } } :: state.failed }

/-- Revoke all sessions and return success. -/
def finishUpdate (party : Nat) (update : TokenUpdate) : Rotation :=
  { state with
    sessions := state.sessions.revokeAll
    updates := state.updates.erase party
    returned := some (max (state.returned.getD 0) update.version) }

def step : RotationAction → Option Rotation
  | .loginRead party =>
      if (state.logins.lookup party).isSome then none
      else
        some { state with
          logins := state.logins.insert party
            { stored := state.memory, version := state.version } }
  | .loginFinish party request => do
      let read ← state.logins.lookup party
      return { state.finishLogin read request with logins := state.logins.erase party }
  | .updateWrite party posted =>
      if (state.updates.lookup party).isSome then none
      else if Chars.trim posted = [] then
        some { state with
          failed := { before := state.held, after := state.held } :: state.failed }
      else some (state.writeToken party (Chars.trim posted))
  | .updateSave party saving => do
      let update ← state.updates.lookup party
      if update.persisted then none else return state.saveToken party update saving
  | .updateRevoke party => do
      let update ← state.updates.lookup party
      if update.persisted then return state.finishUpdate party update else none
  | .validate id now again =>
      some { state with sessions := (state.sessions.validate id now again).1 }
  | .revokeSession id => some { state with sessions := state.sessions.revoke id }
  | .revokeOtherSessions current =>
      some { state with
        sessions := (current.map state.sessions.revokeAllExcept).getD state.sessions.revokeAll }
  | .cleanup now => some { state with sessions := state.sessions.cleanup now }
  | .updateTtlDays days => some { state with sessions := state.sessions.updateTtlDays days }

end Rotation

/-! ### The promise and its condition -/

/-- No session was created on a token older than the last that an update has returned success for;
the token of the memory is then that of the disk, updates under way aside; and failed updates have
left everything as it was. -/
structure Rotated (state : Rotation) : Prop where
  sessions : ∀ id entry, state.sessions.sessions.lookup id = some entry →
    ∀ version, entry.grant = .token version → ∀ latest ∈ state.returned, latest ≤ version
  persisted : state.returned.isSome = true → (∀ party, state.updates.lookup party = none) →
    state.disk = some state.memory
  failed : ∀ failure ∈ state.failed, failure.after = failure.before

namespace Rotation

variable (state : Rotation)

/-- A login that creates a session has read no token older than the last that an update has returned
success for; a file is written only over an older token; and a write fails only for a token that was
in memory anyway. -/
def Timely : RotationAction → Prop
  | .loginFinish party request =>
      ∀ read ∈ state.logins.lookup party, request.Grants state.lockouts read.stored →
        ∀ latest ∈ state.returned, latest ≤ read.version
  | .updateSave party .ok =>
      ∀ update ∈ state.updates.lookup party, ∀ saved ∈ state.saved, saved ≤ update.version
  | .updateSave party (.failed disk) =>
      ∀ update ∈ state.updates.lookup party, update.token = update.replaced ∧ disk = state.disk
  | _ => True

instance (stored : List Char) (settings : AuthSettings) (body : LoginBody) :
    Decidable (body.Right settings stored) :=
  match body with
  | .token _ => inferInstanceAs (Decidable (_ ∧ _))
  | .code _ _ => inferInstanceAs (Decidable (_ = _))

instance (request : LoginRequest) (lockouts : Lockouts) (stored : List Char) :
    Decidable (request.Grants lockouts stored) :=
  inferInstanceAs (Decidable (_ ∧ _))

instance (action : RotationAction) : Decidable (state.Timely action) :=
  match action with
  | .loginFinish _ _ => inferInstanceAs (Decidable (∀ read ∈ _, _ → ∀ latest ∈ _, _))
  | .updateSave _ .ok => inferInstanceAs (Decidable (∀ update ∈ _, ∀ saved ∈ _, _))
  | .updateSave _ (.failed _) => inferInstanceAs (Decidable (∀ update ∈ _, _ ∧ _))
  | .loginRead _ | .updateWrite _ _ | .updateRevoke _ | .validate _ _ _ | .revokeSession _
  | .revokeOtherSessions _ | .cleanup _ | .updateTtlDays _ => isTrue trivial

end Rotation

/-! ### What every timely step keeps -/

/-- No update under way has a version past that of the memory; the file has the token of the memory
if it has its version; and if not, the update that wrote that version has yet to write the file. -/
structure InStep (state : Rotation) : Prop where
  sessions : ∀ id entry, state.sessions.sessions.lookup id = some entry →
    ∀ version, entry.grant = .token version → ∀ latest ∈ state.returned, latest ≤ version
  pending : ∀ party update, state.updates.lookup party = some update →
    update.version ≤ state.version ∧
      (update.version = state.version → update.token = state.memory) ∧
      (update.persisted = true → state.saved.isSome = true)
  saved : ∀ saved ∈ state.saved,
    saved ≤ state.version ∧ (saved = state.version → state.disk = some state.memory)
  covered : state.saved = some state.version ∨ (state.saved = none ∧ state.version = 0) ∨
    ∃ party update, state.updates.lookup party = some update ∧ update.persisted = false ∧
      update.version = state.version ∧ update.token ≠ update.replaced
  returned : state.returned.isSome = true → state.saved.isSome = true
  failed : ∀ failure ∈ state.failed, failure.after = failure.before

namespace InStep

variable {state : Rotation}

theorem rotated (inStep : InStep state) : Rotated state where
  sessions := inStep.sessions
  persisted isReturned quiet := by
    obtain ⟨saved, isSaved⟩ := isSome_iff_exists.mp (inStep.returned isReturned)
    rcases inStep.covered with cur | ⟨unsaved, -⟩ | ⟨party, update, present, -⟩
    · exact (inStep.saved _ cur).2 rfl
    · rw [unsaved] at isSaved
      cases isSaved
    · rw [quiet party] at present
      cases present
  failed := inStep.failed

theorem withSessions (inStep : InStep state) {sessions : SessionStore}
    (within : sessions.Within state.sessions) : InStep { state with sessions } where
  sessions id entry present version granted := by
    obtain ⟨earlier, presentBefore, sameGrant⟩ := within id entry present
    exact inStep.sessions id earlier presentBefore version (sameGrant.trans granted)
  pending := inStep.pending
  saved := inStep.saved
  covered := inStep.covered
  returned := inStep.returned
  failed := inStep.failed

theorem finishLogin (inStep : InStep state) {read : LoginRead} {request : LoginRequest}
    (timely : request.Grants state.lockouts read.stored →
      ∀ latest ∈ state.returned, latest ≤ read.version) :
    InStep (state.finishLogin read request) := by
  unfold Rotation.finishLogin
  split
  next lockouts inspection answered =>
    have grants := login_session answered
    refine ⟨fun id entry present version granted => ?_, inStep.pending, inStep.saved,
      inStep.covered, inStep.returned, inStep.failed⟩
    rw [create, lookup_insert] at present
    split at present
    · cases present
      unfold LoginRequest.grant at granted
      split at granted
      next posted isToken =>
        cases granted
        refine timely ⟨?_, grants⟩
        unfold LoginRequest.grant
        rw [isToken]
        nofun
      · cases granted
    · exact inStep.sessions id entry present version granted
  · exact ⟨inStep.sessions, inStep.pending, inStep.saved, inStep.covered, inStep.returned,
      inStep.failed⟩

variable {party : Nat}

theorem writeToken (inStep : InStep state) (token : List Char)
    (fresh : state.updates.lookup party = none) : InStep (state.writeToken party token) := by
  by_cases same : token = state.memory
  · subst same
    simp only [Rotation.writeToken, if_pos]
    refine ⟨inStep.sessions, fun other update present => ?_, inStep.saved, ?_, inStep.returned,
      inStep.failed⟩
    · simp only [lookup_insert] at present
      split at present
      · cases present
        exact ⟨le_refl _, fun _ => rfl, nofun⟩
      · exact inStep.pending other update present
    · refine inStep.covered.imp_right (Or.imp_right ?_)
      rintro ⟨other, update, present, unwritten⟩
      refine ⟨other, update, ?_, unwritten⟩
      rw [lookup_insert, if_neg, present]
      rintro rfl
      rw [fresh] at present
      cases present
  · simp only [Rotation.writeToken, if_neg same]
    refine ⟨inStep.sessions, fun other update present => ?_, fun saved isSaved => ?_, ?_,
      inStep.returned, inStep.failed⟩
    · simp only [lookup_insert] at present
      split at present
      · cases present
        exact ⟨le_refl _, fun _ => rfl, nofun⟩
      · obtain ⟨notPast, -, isSaved⟩ := inStep.pending other update present
        have past : update.version ≠ state.version + 1 := Nat.ne_of_lt (Nat.lt_succ_of_le notPast)
        exact ⟨Nat.le_succ_of_le notPast, fun cur => absurd cur past, isSaved⟩
    · have notPast := (inStep.saved saved isSaved).1
      have past : saved ≠ state.version + 1 := Nat.ne_of_lt (Nat.lt_succ_of_le notPast)
      exact ⟨Nat.le_succ_of_le notPast, fun cur => absurd cur past⟩
    · exact .inr (.inr ⟨party, { token, replaced := state.memory, version := state.version + 1 },
        AList.lookup_insert _, rfl, rfl, same⟩)

variable {update : TokenUpdate}

section

variable (inStep : InStep state) (present : state.updates.lookup party = some update)
include inStep present

theorem saveToken (timely : ∀ saved ∈ state.saved, saved ≤ update.version) :
    InStep (state.saveToken party update .ok) := by
  obtain ⟨notPast, isCurrent, -⟩ := inStep.pending party update present
  refine ⟨inStep.sessions, fun other found isFound => ?_, fun saved isSaved => ?_, ?_,
    fun _ => rfl, inStep.failed⟩
  · simp only [Rotation.saveToken, lookup_insert] at isFound
    split at isFound
    · cases isFound
      exact ⟨notPast, isCurrent, fun _ => rfl⟩
    · obtain ⟨foundNotPast, foundCurrent, -⟩ := inStep.pending other found isFound
      exact ⟨foundNotPast, foundCurrent, fun _ => rfl⟩
  · obtain rfl : update.version = saved := some.inj isSaved
    exact ⟨notPast, fun cur => congrArg some (isCurrent cur)⟩
  · by_cases cur : update.version = state.version
    · exact .inl (congrArg some cur)
    rcases inStep.covered with savedCurrent | ⟨-, first⟩ | ⟨other, found, isFound, rest⟩
    · have late := timely _ savedCurrent
      exact absurd (le_antisymm notPast late) cur
    · rw [first] at notPast cur
      exact absurd (Nat.le_zero.mp notPast) cur
    · refine .inr (.inr ⟨other, found, ?_, rest⟩)
      simp only [Rotation.saveToken, lookup_insert]
      rw [if_neg, isFound]
      rintro rfl
      cases present.symm.trans isFound
      exact cur rest.2.1

theorem failToken (same : update.token = update.replaced) :
    InStep (state.saveToken party update (.failed state.disk)) := by
  refine ⟨inStep.sessions, fun other found isFound => ?_, inStep.saved, ?_, inStep.returned,
    fun failure isFailure => ?_⟩
  · simp only [Rotation.saveToken] at isFound
    obtain ⟨-, isFound⟩ := of_lookup_erase isFound
    exact inStep.pending other found isFound
  · refine inStep.covered.imp_right (Or.imp_right ?_)
    rintro ⟨other, found, isFound, rest⟩
    refine ⟨other, found, ?_, rest⟩
    simp only [Rotation.saveToken, lookup_erase]
    rw [if_neg, isFound]
    rintro rfl
    cases present.symm.trans isFound
    exact rest.2.2 same
  · rcases List.mem_cons.mp isFailure with rfl | earlier
    · simp only [same]
      rfl
    · exact inStep.failed failure earlier

theorem finishUpdate (persisted : update.persisted = true) :
    InStep (state.finishUpdate party update) := by
  refine ⟨fun id entry found => ?_, fun other found isFound => ?_, inStep.saved, ?_,
    fun _ => (inStep.pending party update present).2.2 persisted, inStep.failed⟩
  · cases found
  · simp only [Rotation.finishUpdate] at isFound
    obtain ⟨-, isFound⟩ := of_lookup_erase isFound
    exact inStep.pending other found isFound
  · refine inStep.covered.imp_right (Or.imp_right ?_)
    rintro ⟨other, found, isFound, unwritten, rest⟩
    refine ⟨other, found, ?_, unwritten, rest⟩
    simp only [Rotation.finishUpdate, lookup_erase]
    rw [if_neg, isFound]
    rintro rfl
    cases present.symm.trans isFound
    rw [unwritten] at persisted
    cases persisted

end

end InStep

theorem step_inStep (state : Rotation) (action : RotationAction) (next : Rotation)
    (inStep : InStep state) (timely : state.Timely action)
    (taken : state.step action = some next) : InStep next := by
  cases action with
  | loginRead party =>
    simp only [Rotation.step] at taken
    split at taken
    · cases taken
    · cases taken
      exact ⟨inStep.sessions, inStep.pending, inStep.saved, inStep.covered, inStep.returned,
        inStep.failed⟩
  | loginFinish party request =>
    obtain ⟨read, isRead, taken⟩ := bind_eq_some_iff.mp taken
    cases taken
    have finished := inStep.finishLogin (timely read isRead)
    exact ⟨finished.sessions, finished.pending, finished.saved, finished.covered,
      finished.returned, finished.failed⟩
  | updateWrite party posted =>
    simp only [Rotation.step] at taken
    split at taken
    · cases taken
    rename_i fresh
    split at taken
    · cases taken
      refine ⟨inStep.sessions, inStep.pending, inStep.saved, inStep.covered, inStep.returned, ?_⟩
      rintro failure isFailure
      rcases List.mem_cons.mp isFailure with rfl | earlier
      · rfl
      · exact inStep.failed failure earlier
    · cases taken
      exact inStep.writeToken _ (not_isSome_iff_eq_none.mp fresh)
  | updateSave party saving =>
    obtain ⟨update, present, taken⟩ := bind_eq_some_iff.mp taken
    split at taken
    · cases taken
    cases taken
    cases saving with
    | ok => exact inStep.saveToken present (timely update present)
    | failed disk =>
      obtain ⟨same, rfl⟩ := timely update present
      exact inStep.failToken present same
  | updateRevoke party =>
    obtain ⟨update, present, taken⟩ := bind_eq_some_iff.mp taken
    split at taken
    next persisted =>
      cases taken
      exact inStep.finishUpdate present persisted
    · cases taken
  | validate id now again =>
    cases taken
    exact inStep.withSessions (validate_within id now again)
  | revokeSession id =>
    cases taken
    exact inStep.withSessions (revoke_within id)
  | revokeOtherSessions cur =>
    cases taken
    refine inStep.withSessions ?_
    cases cur with
    | none => exact revokeAll_within
    | some keep => exact retain_within _
  | cleanup now =>
    cases taken
    exact inStep.withSessions (retain_within _)
  | updateTtlDays days =>
    cases taken
    exact inStep.withSessions SessionStore.Within.refl

/-- In timely runs, no session outlives the token that it was created on, the token of the memory is
that of the disk, and a failed update has no effect. -/
theorem rotation_complete (memory : List Char) (disk : Option (List Char))
    (actions : List RotationAction) (final : Rotation)
    (timely : Fallible.Meets Rotation.step Rotation.Timely { memory, disk } actions)
    (reached : Fallible.run Rotation.step { memory, disk } actions = some final) :
    Rotated final := by
  have start : InStep { memory, disk } :=
    ⟨nofun, nofun, nofun, .inr (.inl ⟨rfl, rfl⟩), nofun, nofun⟩
  exact (Fallible.run_invariant step_inStep start timely reached).rotated

/-- A login from outside with a token, as the session of a given identifier. -/
def tokenLogin (posted id : String) : LoginRequest where
  settings := {}
  verify _ _ := .error (401, "code not found")
  clientIp := .v4 0xCB007107#32
  headers := []
  body := .token posted.toList
  sessionId := id.toList
  now := 90000000

theorem rotation_complete_login : ∃ final,
    Fallible.run Rotation.step { memory := "old".toList, disk := some "old".toList }
        [.loginRead 0, .loginFinish 0 (tokenLogin "old" "first"), .updateWrite 1 "new".toList,
          .updateSave 1 .ok, .updateRevoke 1, .loginRead 0,
          .loginFinish 0 (tokenLogin "new" "second")] = some final ∧
      Rotated final := by
  refine ⟨_, rfl, ?_⟩
  exact rotation_complete "old".toList (some "old".toList)
    [.loginRead 0, .loginFinish 0 (tokenLogin "old" "first"), .updateWrite 1 "new".toList,
      .updateSave 1 .ok, .updateRevoke 1, .loginRead 0,
      .loginFinish 0 (tokenLogin "new" "second")] _ (by decide +kernel) rfl

/-- A login that has read the old token creates its session after the update, and an update whose
file cannot be written leaves its token in memory. -/
theorem rotation_incomplete :
    (∃ final, Fallible.run Rotation.step { memory := "old".toList, disk := some "old".toList }
        [.loginRead 0, .updateWrite 1 "new".toList, .updateSave 1 .ok, .updateRevoke 1,
          .loginFinish 0 (tokenLogin "old" "first")] = some final ∧ ¬Rotated final) ∧
    ∃ final, Fallible.run Rotation.step { memory := "old".toList, disk := some "old".toList }
        [.updateWrite 1 "new".toList, .updateSave 1 (.failed (some "old".toList))] = some final ∧
      ¬Rotated final := by
  refine ⟨⟨_, rfl, fun rotated => ?_⟩, ⟨_, rfl, fun rotated => ?_⟩⟩
  · exact absurd (rotated.sessions "first".toList _ rfl 0 rfl 1 rfl) (by decide)
  · have same := congrArg Held.memory (rotated.failed _ (List.mem_cons_self))
    exact absurd same (by decide)

end Dinotty.Auth
