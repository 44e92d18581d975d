/-
This file follows the lifecycle of sessions through every interleaving of the sections that run
under the lifecycle lock, with the part of closing a session that runs after its section as a step
of its own. Replayed for one pane, the record of the publications and removals goes from a session
to none and back.
-/

import Dinotty.Foundation.Fallible
import Dinotty.Session.Manager

namespace Dinotty.Session

open List Option Fallible KeyMap

inductive LifecycleEvent where
  | published (pane : PaneId) (session : SessionHandle)
  | removed (pane : PaneId) (session : SessionHandle)
  deriving DecidableEq, Repr

/-- The manager with what its callers hold: the active reservations, the claimed closes still to be
executed, and the sessions marked as exited. The log records what the sections did. -/
structure Lifecycle where
  manager : SessionManager := {}
  tokens : KeyMap Nat PaneId := ∅
  nextToken : Nat := 0
  plans : List (PaneId × SessionHandle) := []
  exited : List SessionHandle := []
  log : List LifecycleEvent := []

/-- One step of some caller. Sections that neither read nor change the sessions and reservations are
one action. -/
inductive LifecycleAction where
  | reserveSession (pane : PaneId)
  | publish (token : Nat) (session : SessionHandle)
  | dropReservation (token : Nat)
  | insertSession (pane : PaneId) (session : SessionHandle)
  | closeSession (pane : PaneId)
  | closeSessionForSession (pane : PaneId) (session : SessionHandle)
  | tryReapSession (pane : PaneId) (session : SessionHandle) (now : Instant) (connected : Bool)
  | executeClosePlan (pane : PaneId) (session : SessionHandle)
  | edit (tabLayouts : KeyMap TabId TabValue) (tabOrder : List TabId)
      (activePaneId : Option PaneId) (unownedSince : KeyMap PaneId Instant)

namespace Lifecycle

/-- Record a session that has been removed, with its close still to be executed. -/
def afterClaim (state : Lifecycle) (pane : PaneId) (claimed : SessionManager × ClosePlan) :
    Lifecycle :=
  { state with
    manager := claimed.1
    plans := (pane, claimed.2.session) :: state.plans
    log := state.log ++ [.removed pane claimed.2.session] }

/-- A claim of a close, with whether it succeeds. -/
def claim (state : Lifecycle) (pane : PaneId) (expected : Option SessionHandle) :
    Lifecycle × Bool :=
  match state.manager.claimSessionClose pane expected with
  | some claimed => (state.afterClaim pane claimed, true)
  | none => (state, false)

/-- Take one step, and answer what the call reports. -/
def step (state : Lifecycle) : LifecycleAction → Lifecycle × Bool
  | .reserveSession pane =>
      let (manager, reserved) := state.manager.reserveSession pane
      if reserved then
        ({ state with
            manager
            tokens := state.tokens.insert state.nextToken pane
            nextToken := state.nextToken + 1 }, true)
      else (state, false)
  | .publish token session =>
      match state.tokens.lookup token with
      | none => (state, false)
      | some pane =>
          let (manager, published) := state.manager.publish pane session
          if published then
            ({ state with
                manager
                tokens := state.tokens.erase token
                log := state.log ++ [.published pane session] }, true)
          else (state, false)
  | .dropReservation token =>
      match state.tokens.lookup token with
      | none => (state, false)
      | some pane =>
          ({ state with
              manager := state.manager.dropReservation pane
              tokens := state.tokens.erase token }, true)
  | .insertSession pane session =>
      let (manager, inserted) := state.manager.insertSession pane session
      if inserted then
        ({ state with manager, log := state.log ++ [.published pane session] }, true)
      else (state, false)
  | .closeSession pane => state.claim pane none
  | .closeSessionForSession pane session => state.claim pane (some session)
  | .tryReapSession pane session now connected =>
      match state.manager.claimReap pane session now connected with
      | (manager, some plan) => (state.afterClaim pane (manager, plan), true)
      | (manager, none) => ({ state with manager }, false)
  | .executeClosePlan pane session =>
      if (pane, session) ∈ state.plans then
        ({ state with
            plans := state.plans.erase (pane, session)
            exited := session :: state.exited }, true)
      else (state, false)
  | .edit tabLayouts tabOrder activePaneId unownedSince =>
      ({ state with
          manager := { state.manager with tabLayouts, tabOrder, activePaneId, unownedSince } },
        true)

/-- The state after any interleaving. -/
def run (actions : List LifecycleAction) : Lifecycle :=
  actions.foldl (fun state action => (state.step action).1) {}

/-! ### What the log says -/

/-- The session of one pane after an event. A publication needs a vacant pane, a removal the
session that the pane has. -/
def track (pane : PaneId) (current : Option SessionHandle) :
    LifecycleEvent → Option (Option SessionHandle)
  | .published place session =>
      if place ≠ pane then some current
      else if current = none then some (some session) else none
  | .removed place session =>
      if place ≠ pane then some current
      else if current = some session then some none else none

/-- The sessions that were published, in order. -/
def published (log : List LifecycleEvent) : List SessionHandle :=
  log.filterMap fun
    | .published _ session => some session
    | .removed _ _ => none

def removed (log : List LifecycleEvent) : List SessionHandle :=
  log.filterMap fun
    | .published _ _ => none
    | .removed _ session => some session

variable (log later : List LifecycleEvent)

@[simp] theorem published_append :
    published (log ++ later) = published log ++ published later := filterMap_append

@[simp] theorem removed_append :
    removed (log ++ later) = removed log ++ removed later := filterMap_append

end Lifecycle

/-! ### The sections leave the membership alone, but for their own -/

namespace SessionManager

structure SameMembers (before after : SessionManager) : Prop where
  sessions : after.sessions = before.sessions
  sessionReservations : after.sessionReservations = before.sessionReservations

theorem SameMembers.refl (manager : SessionManager) : SameMembers manager manager := ⟨rfl, rfl⟩

theorem SameMembers.trans {first second third : SessionManager}
    (before : SameMembers first second) (after : SameMembers second third) :
    SameMembers first third :=
  ⟨after.sessions.trans before.sessions, after.sessionReservations.trans before.sessionReservations⟩

theorem foldl_sameMembers {Item : Type} {change : SessionManager → Item → SessionManager}
    (keeps : ∀ mgr item, SameMembers mgr (change mgr item)) (items : List Item)
    (mgr : SessionManager) : SameMembers mgr (items.foldl change mgr) := by
  induction items generalizing mgr with
  | nil => exact .refl mgr
  | cons item rest ih =>
    exact (keeps mgr item).trans (ih (change mgr item))

theorem purgePaneFromLayoutsLocked_sameMembers (mgr : SessionManager) (pane : PaneId)
    (skipMatchingTab : Bool) :
    SameMembers mgr (mgr.purgePaneFromLayoutsLocked pane skipMatchingTab).1 := by
  unfold purgePaneFromLayoutsLocked
  refine SameMembers.trans (foldl_sameMembers ?_ _ mgr) (foldl_sameMembers ?_ _ _)
  · exact fun _ _ => ⟨rfl, rfl⟩
  · exact fun _ _ => ⟨rfl, rfl⟩

theorem collectLayoutCloseLocked_sameMembers (mgr : SessionManager) (pane : PaneId)
    (fallbackTab : Bool) :
    SameMembers mgr (mgr.collectLayoutCloseLocked pane fallbackTab).1 := by
  have purged := purgePaneFromLayoutsLocked_sameMembers mgr pane false
  exact ⟨purged.sessions, purged.sessionReservations⟩

/-- A session is removed when the pane has one and no other one is expected. -/
theorem removeSessionLocked_eq_some {mgr closed : SessionManager} {pane : PaneId}
    {expected : Option SessionHandle} {plan : ClosePlan}
    (claimed : mgr.removeSessionLocked pane expected = some (closed, plan)) :
    mgr.sessions.lookup pane = some plan.session ∧
      (∀ session, expected = some session → session = plan.session) ∧
      closed.sessions = mgr.sessions.erase pane ∧
      closed.sessionReservations = mgr.sessionReservations := by
  unfold removeSessionLocked at claimed
  cases held : mgr.sessions.lookup pane with
  | none => simp [held] at claimed
  | some cur =>
    simp only [held] at claimed
    split at claimed
    · simp at claimed
    next matching =>
      cases claimed
      have same := collectLayoutCloseLocked_sameMembers
        { mgr with
          sessions := mgr.sessions.erase pane
          unownedSince := mgr.unownedSince.erase pane } pane true
      refine ⟨rfl, ?_, same.sessions, same.sessionReservations⟩
      rintro session rfl
      simpa using matching

theorem removeSessionLocked_isSome {mgr : SessionManager} {pane : PaneId}
    {expected : Option SessionHandle} :
    (mgr.removeSessionLocked pane expected).isSome ↔
      ∃ cur, mgr.sessions.lookup pane = some cur ∧ (expected = none ∨ expected = some cur) := by
  unfold removeSessionLocked
  cases held : mgr.sessions.lookup pane with
  | none => simp
  | some cur =>
    cases expected with
    | none => simp
    | some session =>
      by_cases same : session = cur <;> simp [same]

/-- Reaping claims a session as closing it does, and otherwise leaves the membership alone. -/
theorem claimReap_members {mgr after : SessionManager} {pane : PaneId}
    {session : SessionHandle} {now : Instant} {connected : Bool} {plan : Option ClosePlan}
    (claimed : mgr.claimReap pane session now connected = (after, plan)) :
    (plan = none ∧ SameMembers mgr after) ∨
      ∃ closing, plan = some closing ∧ closing.session = session ∧
        mgr.sessions.lookup pane = some session ∧
        after.sessions = mgr.sessions.erase pane ∧
        after.sessionReservations = mgr.sessionReservations := by
  unfold claimReap at claimed
  split at claimed
  · cases claimed
    exact Or.inl ⟨rfl, rfl, rfl⟩
  · dsimp only at claimed
    split at claimed
    · cases claimed
      exact Or.inl ⟨rfl, rfl, rfl⟩
    · split at claimed
      next closed closing removed =>
        cases claimed
        obtain ⟨held, expected, sessionsEq, reservationsEq⟩ :=
          removeSessionLocked_eq_some removed
        have isSession := expected session rfl
        exact Or.inr ⟨closing, rfl, isSession.symm, isSession ▸ held, sessionsEq, reservationsEq⟩
      · cases claimed
        exact Or.inl ⟨rfl, rfl, rfl⟩

end SessionManager

/-! ### The invariant -/

namespace Lifecycle

/-- The reservations are exactly the panes of the active tokens, one token for each, and none of
them has a session. -/
structure Reserved (state : Lifecycle) : Prop where
  held : ∀ token pane, state.tokens.lookup token = some pane →
    pane ∈ state.manager.sessionReservations
  owned : ∀ pane ∈ state.manager.sessionReservations, ∃ token, state.tokens.lookup token = some pane
  single : ∀ token other pane, state.tokens.lookup token = some pane →
    state.tokens.lookup other = some pane → token = other
  vacant : ∀ pane ∈ state.manager.sessionReservations, state.manager.sessions.lookup pane = none
  fresh : ∀ token pane, state.tokens.lookup token = some pane → token < state.nextToken

/-- The log replayed for a pane ends with the session that the pane has. -/
def Tracked (state : Lifecycle) : Prop :=
  ∀ pane, Fallible.run (track pane) none state.log = some (state.manager.sessions.lookup pane)

/-- Current, removed and claimed sessions come from the log. -/
structure Logged (state : Lifecycle) : Prop where
  current : ∀ pane session, state.manager.sessions.lookup pane = some session →
    session ∈ published state.log
  removed : ∀ session ∈ removed state.log, session ∈ published state.log
  plans : ∀ plan ∈ state.plans, plan.2 ∈ Lifecycle.removed state.log
  exited : ∀ session ∈ state.exited, session ∈ Lifecycle.removed state.log

/-- When no session is published twice, none is removed twice, none is current after its removal,
and none is current in two panes. -/
structure Once (state : Lifecycle) : Prop where
  removed : (removed state.log).Nodup
  gone : ∀ session ∈ Lifecycle.removed state.log, ∀ pane,
    state.manager.sessions.lookup pane ≠ some session
  place : ∀ pane other session, state.manager.sessions.lookup pane = some session →
    state.manager.sessions.lookup other = some session → pane = other

structure Consistent (state : Lifecycle) : Prop where
  reserved : state.Reserved
  tracked : state.Tracked
  logged : state.Logged
  once : (published state.log).Nodup → state.Once

theorem initial_consistent : Consistent {} where
  reserved :=
    ⟨fun _ _ held => by simp at held, fun _ mem => by simp at mem,
      fun _ _ _ held => by simp at held, fun _ mem => by simp at mem,
      fun _ _ held => by simp at held⟩
  tracked := fun _ => rfl
  logged :=
    ⟨fun _ _ held => by simp at held, fun _ mem => by simp [removed] at mem,
      fun _ mem => by simp at mem, fun _ mem => by simp at mem⟩
  once := fun _ =>
    ⟨nodup_nil, fun _ mem => by simp [removed] at mem, fun _ _ _ held => by simp at held⟩

/-! ### Publishing, removing, and neither -/

structure Publishes (state next : Lifecycle) (pane : PaneId) (session : SessionHandle) : Prop where
  vacant : state.manager.sessions.lookup pane = none
  sessions : next.manager.sessions = state.manager.sessions.insert pane session
  log : next.log = state.log ++ [.published pane session]
  plans : next.plans = state.plans
  exited : next.exited = state.exited

/-- The session of a pane is removed, and its close is left to be executed. -/
structure Removes (state next : Lifecycle) (pane : PaneId) (session : SessionHandle) : Prop where
  present : state.manager.sessions.lookup pane = some session
  sessions : next.manager.sessions = state.manager.sessions.erase pane
  log : next.log = state.log ++ [.removed pane session]
  plans : next.plans = (pane, session) :: state.plans
  exited : next.exited = state.exited

/-- No session is published or removed. Claimed closes may be executed. -/
structure Keeps (state next : Lifecycle) : Prop where
  sessions : next.manager.sessions = state.manager.sessions
  log : next.log = state.log
  plans : ∀ plan ∈ next.plans, plan ∈ state.plans
  exited : ∀ session ∈ next.exited, session ∈ state.exited ∨ ∃ pane, (pane, session) ∈ state.plans

section

variable {state next : Lifecycle} {pane : PaneId} {session : SessionHandle}

theorem Publishes.tracked (publishes : state.Publishes next pane session)
    (tracked : state.Tracked) : next.Tracked := by
  intro place
  rw [publishes.log, run_append_of_some _ (tracked place), publishes.sessions,
    lookup_insert, run_cons, track]
  by_cases here : pane = place
  · subst here
    simp [publishes.vacant]
  · simp [here, Ne.symm here]

theorem Removes.tracked (removes : state.Removes next pane session)
    (tracked : state.Tracked) : next.Tracked := by
  intro place
  rw [removes.log, run_append_of_some _ (tracked place), removes.sessions,
    lookup_erase, run_cons, track]
  by_cases here : pane = place
  · subst here
    simp [removes.present]
  · simp [here, Ne.symm here]

theorem Keeps.tracked (keeps : state.Keeps next) (tracked : state.Tracked) : next.Tracked := by
  intro place
  rw [keeps.log, keeps.sessions]
  exact tracked place

theorem Publishes.logged (publishes : state.Publishes next pane session) (logged : state.Logged) :
    next.Logged := by
  have publishedEq : published next.log = published state.log ++ [session] := by
    rw [publishes.log, published_append]
    rfl
  have removedEq : removed next.log = removed state.log := by
    rw [publishes.log, removed_append]
    exact append_nil _
  refine ⟨fun place other held => ?_, fun other mem => ?_, fun plan mem => ?_, fun other mem => ?_⟩
  · rw [publishes.sessions, lookup_insert] at held
    rw [publishedEq]
    split at held
    · cases held
      exact mem_append_right _ (mem_singleton_self _)
    · exact mem_append_left _ (logged.current place other held)
  · rw [removedEq] at mem
    rw [publishedEq]
    exact mem_append_left _ (logged.removed other mem)
  · rw [publishes.plans] at mem
    rw [removedEq]
    exact logged.plans plan mem
  · rw [publishes.exited] at mem
    rw [removedEq]
    exact logged.exited other mem

theorem Removes.logged (removes : state.Removes next pane session) (logged : state.Logged) :
    next.Logged := by
  have publishedEq : published next.log = published state.log := by
    rw [removes.log, published_append]
    exact append_nil _
  have removedEq : removed next.log = removed state.log ++ [session] := by
    rw [removes.log, removed_append]
    rfl
  refine ⟨fun place other present => ?_, fun other mem => ?_, fun plan mem => ?_,
    fun other mem => ?_⟩
  · rw [removes.sessions, lookup_erase] at present
    rw [publishedEq]
    split at present
    · simp at present
    · exact logged.current place other present
  · rw [removedEq] at mem
    rw [publishedEq]
    rcases mem_append.mp mem with before | here
    · exact logged.removed other before
    · rw [mem_singleton.mp here]
      exact logged.current pane session removes.present
  · rw [removes.plans] at mem
    rw [removedEq]
    rcases mem_cons.mp mem with rfl | before
    · exact mem_append_right _ (mem_singleton_self _)
    · exact mem_append_left _ (logged.plans plan before)
  · rw [removes.exited] at mem
    rw [removedEq]
    exact mem_append_left _ (logged.exited other mem)

theorem Keeps.logged (keeps : state.Keeps next) (logged : state.Logged) : next.Logged := by
  refine ⟨fun place other held => ?_, fun other mem => ?_, fun plan mem => ?_, fun other mem => ?_⟩
  · rw [keeps.sessions] at held
    rw [keeps.log]
    exact logged.current place other held
  · rw [keeps.log] at mem ⊢
    exact logged.removed other mem
  · rw [keeps.log]
    exact logged.plans plan (keeps.plans plan mem)
  · rw [keeps.log]
    rcases keeps.exited other mem with before | ⟨place, plan⟩
    · exact logged.exited other before
    · exact logged.plans _ plan

theorem Publishes.once (publishes : state.Publishes next pane session) (logged : state.Logged)
    (once : (published state.log).Nodup → state.Once) (nodup : (published next.log).Nodup) :
    next.Once := by
  have publishedEq : published next.log = published state.log ++ [session] := by
    rw [publishes.log, published_append]
    rfl
  have removedEq : removed next.log = removed state.log := by
    rw [publishes.log, removed_append]
    exact append_nil _
  rw [publishedEq, nodup_append] at nodup
  obtain ⟨before, -, apart⟩ := nodup
  have new : session ∉ published state.log := fun mem =>
    apart session mem session (mem_singleton_self _) rfl
  have held := once before
  refine ⟨removedEq ▸ held.removed, fun other mem place present => ?_,
    fun place away other here there => ?_⟩
  · rw [removedEq] at mem
    rw [publishes.sessions, lookup_insert] at present
    split at present
    · cases present
      exact new (logged.removed _ mem)
    · exact held.gone other mem place present
  · rw [publishes.sessions, lookup_insert] at here there
    split at here
    next atPane =>
      cases here
      split at there
      next alsoAtPane =>
        rw [atPane, alsoAtPane]
      · exact absurd (logged.current away _ there) new
    · split at there
      · cases there
        exact absurd (logged.current place _ here) new
      · exact held.place place away other here there

theorem Removes.once (removes : state.Removes next pane session)
    (once : (published state.log).Nodup → state.Once) (nodup : (published next.log).Nodup) :
    next.Once := by
  have publishedEq : published next.log = published state.log := by
    rw [removes.log, published_append]
    exact append_nil _
  have removedEq : removed next.log = removed state.log ++ [session] := by
    rw [removes.log, removed_append]
    rfl
  have held := once (publishedEq ▸ nodup)
  have stays {place : PaneId} {other : SessionHandle}
      (present : next.manager.sessions.lookup place = some other) :
      place ≠ pane ∧ state.manager.sessions.lookup place = some other := by
    rw [removes.sessions] at present
    exact of_lookup_erase present
  refine ⟨?_, fun other mem place present => ?_, fun place away other here there =>
    held.place place away other (stays here).2 (stays there).2⟩
  · rw [removedEq, nodup_append]
    refine ⟨held.removed, nodup_singleton _, fun other mem last lastMember equal => ?_⟩
    rw [mem_singleton.mp lastMember] at equal
    exact held.gone other mem pane (equal ▸ removes.present)
  · obtain ⟨away, was⟩ := stays present
    rw [removedEq] at mem
    rcases mem_append.mp mem with before | here
    · exact held.gone other before place was
    · rw [mem_singleton.mp here] at was
      exact away (held.place place pane session was removes.present)

theorem Keeps.once (keeps : state.Keeps next)
    (once : (published state.log).Nodup → state.Once) (nodup : (published next.log).Nodup) :
    next.Once := by
  rw [keeps.log] at nodup
  have held := once nodup
  refine ⟨keeps.log ▸ held.removed, fun other mem place present => ?_,
    fun place away other here there => ?_⟩
  · rw [keeps.log] at mem
    rw [keeps.sessions] at present
    exact held.gone other mem place present
  · rw [keeps.sessions] at here there
    exact held.place place away other here there

theorem Publishes.consistent (publishes : state.Publishes next pane session)
    (consistent : state.Consistent) (reserved : next.Reserved) : next.Consistent :=
  ⟨reserved, publishes.tracked consistent.tracked, publishes.logged consistent.logged,
    publishes.once consistent.logged consistent.once⟩

theorem Keeps.consistent (keeps : state.Keeps next) (consistent : state.Consistent)
    (reserved : next.Reserved) : next.Consistent :=
  ⟨reserved, keeps.tracked consistent.tracked, keeps.logged consistent.logged,
    keeps.once consistent.once⟩

theorem Removes.consistent (removes : state.Removes next pane session)
    (consistent : state.Consistent) (tokens : next.tokens = state.tokens)
    (nextToken : next.nextToken = state.nextToken)
    (reservations : next.manager.sessionReservations = state.manager.sessionReservations) :
    next.Consistent := by
  have reserved := consistent.reserved
  refine ⟨⟨?_, ?_, ?_, fun place mem => ?_, ?_⟩, removes.tracked consistent.tracked,
    removes.logged consistent.logged, removes.once consistent.once⟩
  · rw [tokens, reservations]
    exact reserved.held
  · rw [tokens, reservations]
    exact reserved.owned
  · rw [tokens]
    exact reserved.single
  · rw [reservations] at mem
    rw [removes.sessions, lookup_erase, reserved.vacant place mem, ite_self]
  · rw [tokens, nextToken]
    exact reserved.fresh

end

/-! ### One step -/

section

variable {state : Lifecycle}

/-- A claim either removes the session of the pane, the expected one if one is expected, and
reports it, or changes nothing. -/
theorem claim_cases (state : Lifecycle) (pane : PaneId) (expected : Option SessionHandle) :
    (∃ session next, state.claim pane expected = (next, true) ∧
        state.Removes next pane session ∧ (expected = none ∨ expected = some session) ∧
        next.tokens = state.tokens ∧ next.nextToken = state.nextToken ∧
        next.manager.sessionReservations = state.manager.sessionReservations) ∨
      state.claim pane expected = (state, false) ∧
        ∀ current, state.manager.sessions.lookup pane = some current →
          expected ≠ none ∧ expected ≠ some current := by
  unfold claim
  cases claimed : state.manager.claimSessionClose pane expected with
  | none =>
    refine Or.inr ⟨rfl, fun current held => ?_⟩
    rw [← not_or]
    intro matching
    have some' := SessionManager.removeSessionLocked_isSome.mpr ⟨current, held, matching⟩
    rw [SessionManager.claimSessionClose] at claimed
    simp [claimed] at some'
  | some claim =>
    obtain ⟨closed, plan⟩ := claim
    obtain ⟨held, matching, sessionsEq, reservationsEq⟩ :=
      SessionManager.removeSessionLocked_eq_some claimed
    refine Or.inl ⟨plan.session, _, rfl, ⟨held, sessionsEq, rfl, rfl, rfl⟩, ?_, rfl, rfl,
      reservationsEq⟩
    cases expected with
    | none => exact Or.inl rfl
    | some session => exact Or.inr (congrArg some (matching session rfl))

theorem claim_consistent (consistent : state.Consistent) (pane : PaneId)
    (expected : Option SessionHandle) : (state.claim pane expected).1.Consistent := by
  rcases claim_cases state pane expected with
    ⟨session, next, done, removes, -, tokens, nextToken, reservations⟩ | ⟨done, -⟩
  · rw [done]
    exact removes.consistent consistent tokens nextToken reservations
  · rw [done]
    exact consistent

theorem tryReapSession_cases (state : Lifecycle) (pane : PaneId) (session : SessionHandle)
    (now : Instant) (connected : Bool) :
    (∃ next, state.step (.tryReapSession pane session now connected) = (next, true) ∧
        state.Removes next pane session ∧ next.tokens = state.tokens ∧
        next.nextToken = state.nextToken ∧
        next.manager.sessionReservations = state.manager.sessionReservations) ∨
      ∃ manager, SessionManager.SameMembers state.manager manager ∧
        state.step (.tryReapSession pane session now connected) =
          ({ state with manager }, false) := by
  simp only [step]
  cases claimed : state.manager.claimReap pane session now connected with
  | mk manager plan =>
    rcases SessionManager.claimReap_members claimed with
      ⟨rfl, same⟩ | ⟨closing, rfl, isSession, held, sessionsEq, reservationsEq⟩
    · exact Or.inr ⟨manager, same, rfl⟩
    · refine Or.inl ⟨_, rfl, ⟨held, sessionsEq, ?_, ?_, rfl⟩, rfl, rfl, reservationsEq⟩
      · rw [← isSession]
        rfl
      · rw [← isSession]
        rfl

theorem reserveSession_consistent (consistent : state.Consistent) (pane : PaneId) :
    (state.step (.reserveSession pane)).1.Consistent := by
  have reserved := consistent.reserved
  simp only [step, SessionManager.reserveSession]
  by_cases taken : (state.manager.sessions.lookup pane).isSome ∨
      pane ∈ state.manager.sessionReservations
  · simp only [if_pos taken, Bool.false_eq_true, if_false]
    exact consistent
  · simp only [if_neg taken, if_true]
    rw [not_or, not_isSome_iff_eq_none] at taken
    have keeps : state.Keeps { state with
        manager := { state.manager with
          sessionReservations := pane :: state.manager.sessionReservations }
        tokens := state.tokens.insert state.nextToken pane
        nextToken := state.nextToken + 1 } :=
      ⟨rfl, rfl, fun _ mem => mem, fun _ mem => Or.inl mem⟩
    refine keeps.consistent consistent ⟨?_, ?_, ?_, ?_, ?_⟩
    · intro token place present
      rw [lookup_insert] at present
      split at present
      · cases present
        exact mem_cons_self
      · exact mem_cons_of_mem _ (reserved.held token place present)
    · intro place mem
      rcases mem_cons.mp mem with rfl | before
      · exact ⟨state.nextToken, by rw [lookup_insert, if_pos rfl]⟩
      · obtain ⟨token, present⟩ := reserved.owned place before
        have older := reserved.fresh token place present
        refine ⟨token, ?_⟩
        rw [lookup_insert, if_neg (Nat.ne_of_lt older)]
        exact present
    · intro token other place here there
      rw [lookup_insert] at here there
      split at here
      next isNew =>
        cases here
        split at there
        next alsoNew =>
          rw [isNew, alsoNew]
        · exact absurd (reserved.held other _ there) taken.2
      · split at there
        · cases there
          exact absurd (reserved.held token _ here) taken.2
        · exact reserved.single token other place here there
    · intro place mem
      rcases mem_cons.mp mem with rfl | before
      · exact taken.1
      · exact reserved.vacant place before
    · intro token place present
      rw [lookup_insert] at present
      split at present
      next isNew =>
        rw [isNew]
        exact Nat.lt_succ_self _
      · exact Nat.lt_succ_of_lt (reserved.fresh token place present)

/-- Giving up a token, after a publication or without one, frees its pane. -/
theorem Reserved.release {next : Lifecycle} (reserved : state.Reserved) {token : Nat}
    {pane : PaneId} (present : state.tokens.lookup token = some pane)
    (tokens : next.tokens = state.tokens.erase token)
    (nextToken : next.nextToken = state.nextToken)
    (reservations : next.manager.sessionReservations =
      state.manager.sessionReservations.filter (· ≠ pane))
    (sessions : ∀ place, place ≠ pane →
      next.manager.sessions.lookup place = state.manager.sessions.lookup place) :
    next.Reserved := by
  have kept {other : Nat} {place : PaneId} (there : next.tokens.lookup other = some place) :
      other ≠ token ∧ state.tokens.lookup other = some place := by
    rw [tokens] at there
    exact of_lookup_erase there
  have memberIff (place : PaneId) : place ∈ next.manager.sessionReservations ↔
      place ∈ state.manager.sessionReservations ∧ place ≠ pane := by
    rw [reservations]
    simp
  refine ⟨fun other place there => ?_, fun place mem => ?_,
    fun first second place here there => reserved.single first second place (kept here).2
      (kept there).2, fun place mem => ?_, fun other place there => ?_⟩
  · obtain ⟨away, was⟩ := kept there
    refine (memberIff place).mpr ⟨reserved.held other place was, ?_⟩
    rintro rfl
    exact away (reserved.single other token place was present)
  · obtain ⟨before, away⟩ := (memberIff place).mp mem
    obtain ⟨other, there⟩ := reserved.owned place before
    refine ⟨other, ?_⟩
    rw [tokens, lookup_erase, if_neg, there]
    rintro rfl
    rw [present] at there
    exact away (some.inj there).symm
  · obtain ⟨before, away⟩ := (memberIff place).mp mem
    rw [sessions place away]
    exact reserved.vacant place before
  · rw [nextToken]
    exact reserved.fresh other place (kept there).2

section

variable (consistent : state.Consistent)
include consistent

theorem publish_step {token : Nat} {pane : PaneId} (present : state.tokens.lookup token = some pane)
    (session : SessionHandle) :
    ∃ next, state.step (.publish token session) = (next, true) ∧
      state.Publishes next pane session ∧ next.Reserved := by
  have reserved := consistent.reserved
  have vacant := reserved.vacant pane (reserved.held token pane present)
  simp only [step, present, SessionManager.publish, vacant, isSome_none,
    Bool.false_eq_true, if_false, if_true]
  refine ⟨_, rfl, ⟨vacant, rfl, rfl, rfl, rfl⟩, ?_⟩
  refine reserved.release present rfl rfl rfl fun place away => ?_
  exact AList.lookup_insert_ne away

theorem publish_consistent (token : Nat) (session : SessionHandle) :
    (state.step (.publish token session)).1.Consistent := by
  cases held : state.tokens.lookup token with
  | none =>
    simp only [step, held]
    exact consistent
  | some pane =>
    obtain ⟨next, done, publishes, reserved⟩ := publish_step consistent held session
    rw [done]
    exact publishes.consistent consistent reserved

theorem dropReservation_consistent (token : Nat) :
    (state.step (.dropReservation token)).1.Consistent := by
  cases held : state.tokens.lookup token with
  | none =>
    simp only [step, held]
    exact consistent
  | some pane =>
    simp only [step, held]
    have keeps : state.Keeps { state with
        manager := state.manager.dropReservation pane
        tokens := state.tokens.erase token } :=
      ⟨rfl, rfl, fun _ mem => mem, fun _ mem => Or.inl mem⟩
    exact keeps.consistent consistent
      (consistent.reserved.release held rfl rfl rfl fun _ _ => rfl)

theorem insertSession_consistent (pane : PaneId) (session : SessionHandle) :
    (state.step (.insertSession pane session)).1.Consistent := by
  have reserved := consistent.reserved
  simp only [step, SessionManager.insertSession]
  by_cases held : pane ∈ state.manager.sessionReservations
  · simp only [if_pos held, Bool.false_eq_true, if_false]
    exact consistent
  · by_cases occupied : (state.manager.sessions.lookup pane).isSome
    · simp only [if_neg held, if_pos occupied, Bool.false_eq_true, if_false]
      exact consistent
    · simp only [if_neg held, if_neg occupied, if_true]
      rw [not_isSome_iff_eq_none] at occupied
      have publishes : state.Publishes { state with
          manager := { state.manager with
            unownedSince := state.manager.unownedSince.erase pane
            sessions := state.manager.sessions.insert pane session }
          log := state.log ++ [.published pane session] } pane session :=
        ⟨occupied, rfl, rfl, rfl, rfl⟩
      refine publishes.consistent consistent
        ⟨reserved.held, reserved.owned, reserved.single, fun place mem => ?_, reserved.fresh⟩
      have away : place ≠ pane := by
        rintro rfl
        exact held mem
      rw [publishes.sessions, lookup_insert, if_neg away]
      exact reserved.vacant place mem

theorem step_consistent (action : LifecycleAction) : (state.step action).1.Consistent := by
  have same {next : Lifecycle} (keeps : state.Keeps next) (tokens : next.tokens = state.tokens)
      (nextToken : next.nextToken = state.nextToken)
      (reservations : next.manager.sessionReservations = state.manager.sessionReservations) :
      next.Consistent := by
    have reserved := consistent.reserved
    refine keeps.consistent consistent ⟨?_, ?_, ?_, ?_, ?_⟩
    · rw [tokens, reservations]
      exact reserved.held
    · rw [tokens, reservations]
      exact reserved.owned
    · rw [tokens]
      exact reserved.single
    · rw [reservations, keeps.sessions]
      exact reserved.vacant
    · rw [tokens, nextToken]
      exact reserved.fresh
  cases action with
  | reserveSession pane => exact reserveSession_consistent consistent pane
  | publish token session => exact publish_consistent consistent token session
  | dropReservation token => exact dropReservation_consistent consistent token
  | insertSession pane session => exact insertSession_consistent consistent pane session
  | closeSession pane => exact claim_consistent consistent pane none
  | closeSessionForSession pane session => exact claim_consistent consistent pane (some session)
  | tryReapSession pane session now connected =>
    rcases tryReapSession_cases state pane session now connected with
      ⟨next, done, removes, tokens, nextToken, reservations⟩ | ⟨manager, members, done⟩
    · rw [done]
      exact removes.consistent consistent tokens nextToken reservations
    · rw [done]
      exact same ⟨members.sessions, rfl, fun _ mem => mem, fun _ mem => Or.inl mem⟩
        rfl rfl members.sessionReservations
  | executeClosePlan pane session =>
    simp only [step]
    split
    next claimed =>
      refine same ⟨rfl, rfl, fun _ mem => mem_of_mem_erase mem, ?_⟩ rfl rfl rfl
      intro other mem
      rcases mem_cons.mp mem with rfl | before
      · exact Or.inr ⟨pane, claimed⟩
      · exact Or.inl before
    · exact consistent
  | edit tabLayouts tabOrder active unownedSince =>
    exact same ⟨rfl, rfl, fun _ mem => mem, fun _ mem => Or.inl mem⟩ rfl rfl rfl

end

end

theorem run_consistent (actions : List LifecycleAction) : (run actions).Consistent := by
  unfold run
  refine List.foldlRecOn actions _ initial_consistent fun state consistent action _ => ?_
  exact step_consistent consistent action

/-! ### Exactly once -/

end Lifecycle

def LifecycleAction.closes : LifecycleAction → Option PaneId
  | .closeSession pane => some pane
  | .closeSessionForSession pane _ => some pane
  | .tryReapSession pane _ _ _ => some pane
  | _ => none

namespace Lifecycle

/-- A closing step removed the session that the pane had. -/
def RemovedBy (state next : Lifecycle) (pane : PaneId) : Prop :=
  ∃ session, state.manager.sessions.lookup pane = some session ∧
    next.log = state.log ++ [.removed pane session] ∧
    next.manager.sessions = state.manager.sessions.erase pane

/-- The membership, the log and the marks are as before. -/
structure Unaffected (state next : Lifecycle) : Prop where
  sessions : next.manager.sessions = state.manager.sessions
  sessionReservations : next.manager.sessionReservations = state.manager.sessionReservations
  log : next.log = state.log
  plans : next.plans = state.plans
  exited : next.exited = state.exited

theorem Unaffected.refl (state : Lifecycle) : state.Unaffected state := ⟨rfl, rfl, rfl, rfl, rfl⟩

/-- The exactly-once lifecycle, as it holds in one state and of every step from it. -/
structure ExactlyOnce (state : Lifecycle) : Prop where
  /-- A pane has a session or a reservation, not both. -/
  exclusive : ∀ pane ∈ state.manager.sessionReservations, state.manager.sessions.lookup pane = none
  /-- A pane has one reservation at most. -/
  single : ∀ token other pane, state.tokens.lookup token = some pane →
    state.tokens.lookup other = some pane → token = other
  /-- While a reservation is active, nobody else reserves, inserts or publishes in its pane. -/
  excludes : ∀ token pane session, state.tokens.lookup token = some pane →
    state.step (.reserveSession pane) = (state, false) ∧
      state.step (.insertSession pane session) = (state, false) ∧
      ∀ other, other ≠ token →
        (state.step (.publish other session)).1.manager.sessions.lookup pane = none
  /-- In every pane publications and removals alternate, and each removal is of the session
  published last. -/
  alternate : ∀ pane,
    Fallible.run (track pane) none state.log = some (state.manager.sessions.lookup pane)
  /-- A session published once is removed once at most. -/
  once : (published state.log).Nodup → (removed state.log).Nodup
  /-- A closing call that reports success has removed the session of the pane. -/
  reported : ∀ action pane, action.closes = some pane → (state.step action).2 = true →
    state.RemovedBy (state.step action).1 pane
  /-- A closing call that reports failure has changed no session and no mark. -/
  unreported : ∀ action pane, action.closes = some pane → (state.step action).2 = false →
    state.Unaffected (state.step action).1
  /-- Only closing calls remove sessions. -/
  others : ∀ action, action.closes = none → removed (state.step action).1.log = removed state.log
  /-- A call that holds another session than the current one fails, and removes, replaces and
  marks nothing. -/
  stale : ∀ pane current session, state.manager.sessions.lookup pane = some current →
    session ≠ current →
    state.step (.closeSessionForSession pane session) = (state, false) ∧ (∀ now connected,
        (state.step (.tryReapSession pane session now connected)).2 = false ∧
          state.Unaffected (state.step (.tryReapSession pane session now connected)).1) ∧
      state.step (.insertSession pane session) = (state, false) ∧
      ∀ token, (state.step (.publish token session)).1.manager.sessions.lookup pane = some current
  /-- When no session is published twice, a current session is not marked as exited, and no close
  that is still to be executed will mark it. -/
  unmarked : (published state.log).Nodup → ∀ pane current,
    state.manager.sessions.lookup pane = some current →
    current ∉ state.exited ∧ ∀ place, (place, current) ∉ state.plans

section

variable {state : Lifecycle}

theorem insertSession_refused {pane : PaneId} (session : SessionHandle)
    (taken : pane ∈ state.manager.sessionReservations ∨
      (state.manager.sessions.lookup pane).isSome) :
    state.step (.insertSession pane session) = (state, false) := by
  have refused : state.manager.insertSession pane session = (state.manager, false) := by
    unfold SessionManager.insertSession
    by_cases held : pane ∈ state.manager.sessionReservations
    · rw [if_pos held]
    · rw [if_neg held, if_pos (taken.resolve_left held)]
  simp [step, refused]

theorem publish_elsewhere (consistent : state.Consistent) {pane : PaneId} (token : Nat)
    (session : SessionHandle) (away : state.tokens.lookup token ≠ some pane) :
    (state.step (.publish token session)).1.manager.sessions.lookup pane =
      state.manager.sessions.lookup pane := by
  cases held : state.tokens.lookup token with
  | none => simp only [step, held]
  | some place =>
    obtain ⟨next, done, publishes, -⟩ := publish_step consistent held session
    rw [done, publishes.sessions, lookup_insert, if_neg]
    rintro rfl
    exact away held

theorem closes_cases {action : LifecycleAction} {pane : PaneId}
    (closing : action.closes = some pane) :
    ((state.step action).2 = true ∧ state.RemovedBy (state.step action).1 pane) ∨
      (state.step action).2 = false ∧ state.Unaffected (state.step action).1 := by
  have claimed (expected : Option SessionHandle) :
      ((state.claim pane expected).2 = true ∧ state.RemovedBy (state.claim pane expected).1 pane) ∨
        (state.claim pane expected).2 = false ∧ state.Unaffected (state.claim pane expected).1 := by
    rcases claim_cases state pane expected with ⟨session, next, done, removes, -⟩ | ⟨done, -⟩
    · rw [done]
      exact Or.inl ⟨rfl, session, removes.present, removes.log, removes.sessions⟩
    · rw [done]
      exact Or.inr ⟨rfl, .refl state⟩
  cases action with
  | closeSession place =>
    cases closing
    exact claimed none
  | closeSessionForSession place session =>
    cases closing
    exact claimed (some session)
  | tryReapSession place session now connected =>
    obtain rfl := some.inj closing
    rcases tryReapSession_cases state place session now connected with
      ⟨next, done, removes, -⟩ | ⟨mgr, members, done⟩
    · rw [done]
      exact Or.inl ⟨rfl, session, removes.present, removes.log, removes.sessions⟩
    · rw [done]
      exact Or.inr ⟨rfl, members.sessions, members.sessionReservations, rfl, rfl, rfl⟩
  | reserveSession | publish | dropReservation | insertSession | executeClosePlan | edit =>
    simp [LifecycleAction.closes] at closing

theorem others_remove_nothing (consistent : state.Consistent) {action : LifecycleAction}
    (other : action.closes = none) : removed (state.step action).1.log = removed state.log := by
  cases action with
  | closeSession | closeSessionForSession | tryReapSession =>
    simp [LifecycleAction.closes] at other
  | reserveSession pane =>
    simp only [step]
    split <;> rfl
  | publish token session =>
    cases held : state.tokens.lookup token with
    | none => simp only [step, held]
    | some pane =>
      obtain ⟨next, done, publishes, -⟩ := publish_step consistent held session
      rw [done, publishes.log, removed_append]
      exact append_nil _
  | dropReservation token =>
    simp only [step]
    split <;> rfl
  | insertSession pane session =>
    simp only [step]
    split
    · rw [removed_append]
      exact append_nil _
    · rfl
  | executeClosePlan pane session =>
    simp only [step]
    split <;> rfl
  | edit tabLayouts tabOrder active unownedSince => rfl

theorem Consistent.exactlyOnce (consistent : state.Consistent) : state.ExactlyOnce where
  exclusive := consistent.reserved.vacant
  single := consistent.reserved.single
  excludes token pane session present := by
    have held := consistent.reserved.held token pane present
    refine ⟨?_, insertSession_refused session (Or.inl held), fun other different => ?_⟩
    · simp [step, SessionManager.reserveSession, if_pos (Or.inr held)]
    · rw [publish_elsewhere consistent other session fun there =>
        different (consistent.reserved.single other token pane there present)]
      exact consistent.reserved.vacant pane held
  alternate := consistent.tracked
  once distinct := (consistent.once distinct).removed
  reported action pane closing success := by
    rcases @closes_cases state action pane closing with ⟨-, gone⟩ | ⟨failure, -⟩
    · exact gone
    · rw [success] at failure
      exact absurd failure (by decide)
  unreported action pane closing failure := by
    rcases @closes_cases state action pane closing with ⟨success, -⟩ | ⟨-, unaffected⟩
    · rw [success] at failure
      exact absurd failure (by decide)
    · exact unaffected
  others action other := others_remove_nothing consistent other
  stale pane cur session present different := by
    have occupied : (state.manager.sessions.lookup pane).isSome := by rw [present]; rfl
    refine ⟨?_, fun now connected => ?_, insertSession_refused session (Or.inr occupied),
      fun token => ?_⟩
    · rcases claim_cases state pane (some session) with
        ⟨other, next, done, removes, matching, -⟩ | ⟨done, -⟩
      · rw [removes.present] at present
        cases present
        rcases matching with impossible | matching
        · simp at impossible
        · exact absurd (some.inj matching) different
      · exact done
    · rcases tryReapSession_cases state pane session now connected with
        ⟨next, done, removes, -⟩ | ⟨manager, members, done⟩
      · rw [removes.present] at present
        exact absurd (some.inj present) different
      · rw [done]
        exact ⟨rfl, members.sessions, members.sessionReservations, rfl, rfl, rfl⟩
    · rw [publish_elsewhere consistent token session fun there => ?_]
      · exact present
      · have vacant := consistent.reserved.vacant pane (consistent.reserved.held token pane there)
        rw [vacant] at present
        simp at present
  unmarked distinct pane cur present := by
    have gone := (consistent.once distinct).gone cur
    exact ⟨fun marked => gone (consistent.logged.exited cur marked) pane present,
      fun place planned => gone (consistent.logged.plans _ planned) pane present⟩

end

end Lifecycle

/-- In every state that some interleaving of the callers reaches, the lifecycle of the sessions is
exactly once. -/
theorem lifecycle_exactly_once (actions : List LifecycleAction) :
    (Lifecycle.run actions).ExactlyOnce :=
  (Lifecycle.run_consistent actions).exactlyOnce

end Dinotty.Session
