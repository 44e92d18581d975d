/-
This file is the reaper of the sessions that no tab holds. A session whose clock has run for the
grace period is removed unless a client is connected to it.
-/

import Dinotty.Session.StoredTabs

namespace Dinotty.Session.Stored

open List Option KeyMap SessionManager

namespace SessionManager

/-! ### The clocks of the sessions that no tab holds -/

variable (manager : SessionManager)

/-- The panes of the terminal leaves over all tabs. -/
def referencedPaneIdsLocked : List PaneId :=
  manager.tabLayouts.entries.flatMap fun entry =>
    (entry.2.get "layout").elim [] collectTerminalLeafPaneIds

def paneIsReferencedLocked (pane : PaneId) : Bool :=
  manager.tabLayouts.entries.any fun entry =>
    (entry.2.get "layout").any fun layout => pane ∈ collectTerminalLeafPaneIds layout

/-- Start the clock of a pane that is not referenced, unless it runs, and stop any other. -/
def reconcilePane (referencedPaneIds : List PaneId) (now : Instant)
    (result : KeyMap PaneId Instant × List (PaneId × Instant)) (pane : PaneId) :
    KeyMap PaneId Instant × List (PaneId × Instant) :=
  if pane ∈ referencedPaneIds then (result.1.erase pane, result.2)
  else
    let since := (result.1.lookup pane).getD now
    (result.1.insert pane since, result.2 ++ [(pane, since)])

/-- The clocks after a scan, and the panes without a reference with their clocks. -/
def reconcileUnownedSince (sessionIds referencedPaneIds : List PaneId)
    (unownedSince : KeyMap PaneId Instant) (now : Instant) :
    KeyMap PaneId Instant × List (PaneId × Instant) :=
  sessionIds.foldl (reconcilePane referencedPaneIds now)
    (KeyMap.retain (fun pane _ => pane ∈ sessionIds) unownedSince, [])

def scanUnownedSessions (now : Instant) : SessionManager × List (PaneId × SessionHandle × Instant) :=
  let (unownedSince, unowned) :=
    reconcileUnownedSince manager.sessions.keys manager.referencedPaneIdsLocked
      manager.unownedSince now
  ({ manager with unownedSince },
    unowned.filterMap fun (pane, since) =>
      (manager.sessions.lookup pane).map fun session => (pane, session.handle, since))

/-- Reap a session: no terminal leaf refers to its pane, the grace period is over, and it is
neither connected nor superseded. -/
def tryReapSession (pane : PaneId) (session : SessionHandle)
    (now : Instant) (connected : Bool) : SessionManager × Bool :=
  if manager.paneIsReferencedLocked pane then
    ({ manager with unownedSince := manager.unownedSince.erase pane }, false)
  else
    let since := (manager.unownedSince.lookup pane).getD now
    let aged := { manager with unownedSince := manager.unownedSince.insert pane since }
    if now - since < sessionUnownedGrace ∨ connected then (aged, false)
    else aged.closeSession pane (some session)

variable {pane : PaneId}

theorem mem_referencedPaneIdsLocked {manager : SessionManager} :
    pane ∈ manager.referencedPaneIdsLocked ↔ manager.paneIsReferencedLocked pane = true := by
  simp only [referencedPaneIdsLocked, paneIsReferencedLocked, mem_flatMap, List.any_eq_true]
  refine exists_congr fun entry => and_congr_right fun _ => ?_
  cases entry.2.get "layout" <;> simp

theorem lookup_reconcilePane (referencedPaneIds : List PaneId) (now : Instant)
    (res : KeyMap PaneId Instant × List (PaneId × Instant)) (pane other : PaneId) :
    (reconcilePane referencedPaneIds now res pane).1.lookup other =
      if other = pane then
        if pane ∈ referencedPaneIds then none else some ((res.1.lookup pane).getD now)
      else res.1.lookup other := by
  unfold reconcilePane
  split
  · exact lookup_erase _ _ _
  · exact lookup_insert _ _ _ _

theorem lookup_foldl_reconcilePane (referencedPaneIds : List PaneId) (now : Instant)
    (sessionIds : List PaneId) (res : KeyMap PaneId Instant × List (PaneId × Instant))
    (pane : PaneId) :
    (sessionIds.foldl (reconcilePane referencedPaneIds now) res).1.lookup pane =
      if pane ∈ sessionIds then
        if pane ∈ referencedPaneIds then none else some ((res.1.lookup pane).getD now)
      else res.1.lookup pane := by
  induction sessionIds generalizing res with
  | nil => rfl
  | cons first rest ih =>
    rw [foldl_cons, ih, lookup_reconcilePane]
    by_cases here : pane = first
    · subst here
      rw [if_pos rfl, if_pos mem_cons_self]
      by_cases referenced : pane ∈ referencedPaneIds <;> simp [referenced]
    · rw [if_neg here]
      simp [here]

theorem lookup_scanUnownedSessions (now : Instant) (pane : PaneId) :
    (manager.scanUnownedSessions now).1.unownedSince.lookup pane =
      if (manager.sessions.lookup pane).isSome ∧ manager.paneIsReferencedLocked pane = false then
        some ((manager.unownedSince.lookup pane).getD now)
      else none := by
  have isSession : pane ∈ manager.sessions.keys ↔ (manager.sessions.lookup pane).isSome := by
    rw [AList.lookup_isSome, AList.mem_keys]
  have retained := lookup_retain (fun pane _ => decide (pane ∈ manager.sessions.keys))
    manager.unownedSince pane
  refine (lookup_foldl_reconcilePane _ now _ _ pane).trans ?_
  rw [retained]
  by_cases cur : pane ∈ manager.sessions.keys
  · by_cases referenced : manager.paneIsReferencedLocked pane = true
    · rw [if_pos cur, if_pos (mem_referencedPaneIdsLocked.mpr referenced),
        if_neg (by simp [referenced])]
    · rw [if_pos cur, if_neg fun mem => referenced (mem_referencedPaneIdsLocked.mp mem),
        if_pos ⟨isSession.mp cur, Bool.eq_false_iff.mpr referenced⟩]
      cases manager.unownedSince.lookup pane <;> simp [filter_some, cur]
  · rw [if_neg cur, if_neg fun both => cur (isSession.mpr both.1)]
    cases manager.unownedSince.lookup pane <;> simp [filter_some, cur]

/-- An attempt to reap stops the clock of a pane that is referenced, lets that of another run, or
removes the session. -/
theorem tryReapSession_cases (pane : PaneId) (session : SessionHandle)
    (now : Instant) (connected : Bool) :
    (manager.paneIsReferencedLocked pane = true ∧
        manager.tryReapSession pane session now connected =
          ({ manager with unownedSince := manager.unownedSince.erase pane }, false)) ∨
      manager.paneIsReferencedLocked pane = false ∧
        ∃ since, since = (manager.unownedSince.lookup pane).getD now ∧
          let aged := { manager with unownedSince := manager.unownedSince.insert pane since }
          manager.tryReapSession pane session now connected = (aged, false) ∨
            sessionUnownedGrace ≤ now - since ∧ connected = false ∧ ∃ closed plan,
              aged.removeSessionLocked pane (some session) = some (closed, plan) ∧
              manager.tryReapSession pane session now connected = (closed, true) := by
  unfold tryReapSession
  split
  next referenced =>
    exact .inl ⟨referenced, rfl⟩
  next unreferenced =>
    refine .inr ⟨Bool.eq_false_iff.mpr unreferenced, _, rfl, ?_⟩
    dsimp only
    split
    · exact .inl rfl
    next ready =>
      obtain ⟨old, apart⟩ := not_or.mp ready
      unfold closeSession
      split
      next closed plan removed =>
        exact .inr ⟨Nat.not_lt.mp old, Bool.eq_false_iff.mpr apart, closed, plan, removed, rfl⟩
      · exact .inl rfl

/-! ### What the sections do with sessions and clocks -/

def Operation.Publishes (pane : PaneId) (session : SessionRecord) : Operation → Prop
  | .insertSession other record | .publish other record => other = pane ∧ record = session
  | _ => False

/-- A session that was there is there with the clock it had or none, and a session that is new
starts without a clock. -/
def Renews (before after : SessionManager) (published : PaneId → SessionRecord → Prop) : Prop :=
  ∀ pane session, after.sessions.lookup pane = some session →
    (before.sessions.lookup pane = some session ∧
        (after.unownedSince.lookup pane = before.unownedSince.lookup pane ∨
          after.unownedSince.lookup pane = none)) ∨
      (published pane session ∧ after.unownedSince.lookup pane = none)

variable {before after : SessionManager} {published : PaneId → SessionRecord → Prop}

theorem renews_of_same (sessions : after.sessions = before.sessions)
    (clocks : after.unownedSince = before.unownedSince) : Renews before after published := by
  intro pane session held
  rw [sessions] at held
  exact .inl ⟨held, .inl (by rw [clocks])⟩

theorem renews_of_beside (same : after.beside = before.beside) : Renews before after published :=
  renews_of_same (congrArg Prod.fst same) (congrArg (·.2.2.2) same)

theorem renews_of_insert {record : SessionRecord}
    (sessions : after.sessions = before.sessions.insert pane record)
    (clocks : after.unownedSince = before.unownedSince.erase pane)
    (publishes : published pane record) : Renews before after published := by
  intro other session held
  rw [sessions, lookup_insert] at held
  rw [clocks, lookup_erase]
  split at held
  next here =>
    cases held
    exact .inr ⟨here ▸ publishes, if_pos here⟩
  next away =>
    exact .inl ⟨held, .inl (if_neg away)⟩

theorem renews_of_erase (sessions : after.sessions = before.sessions.erase pane)
    (clocks : after.unownedSince = before.unownedSince.erase pane) :
    Renews before after published := by
  intro other session held
  rw [sessions, lookup_erase] at held
  rw [clocks, lookup_erase]
  split at held
  · cases held
  next away =>
    exact .inl ⟨held, .inl (if_neg away)⟩

theorem collectLayoutCloseLocked_same (pane : PaneId) (fallbackTab : Bool) :
    (manager.collectLayoutCloseLocked pane fallbackTab).1.sessions = manager.sessions ∧
      (manager.collectLayoutCloseLocked pane fallbackTab).1.unownedSince =
        manager.unownedSince := by
  have same := beside_purgePaneFromLayoutsLocked manager pane false
  exact ⟨congrArg Prod.fst same, congrArg (·.2.2.2) same⟩

/-- A session that is removed is the current one, and is erased with its clock. -/
theorem removeSessionLocked_erases {manager closed : SessionManager}
    {expected : Option SessionHandle} {plan : ClosePlan}
    (removed : manager.removeSessionLocked pane expected = some (closed, plan)) :
    manager.sessions.lookup pane = some plan.session ∧
      (∀ session, expected = some session → plan.session.handle = session) ∧
      closed.sessions = manager.sessions.erase pane ∧
      closed.unownedSince = manager.unownedSince.erase pane := by
  unfold removeSessionLocked at removed
  split at removed
  · cases removed
  next cur held =>
    split at removed
    · cases removed
    next expects =>
      let without : SessionManager := { manager with
        sessions := manager.sessions.erase pane
        unownedSince := manager.unownedSince.erase pane }
      obtain ⟨sessions, clocks⟩ := collectLayoutCloseLocked_same without pane true
      have same := some.inj removed
      have atClosed := congrArg Prod.fst same
      have atPlan := congrArg (·.2.session) same
      dsimp only at atClosed atPlan
      refine ⟨held.trans (congrArg some atPlan), fun session isExpected => ?_, ?_, ?_⟩
      · rw [isExpected] at expects
        simp only [any_some, decide_eq_true_eq, not_not] at expects
        exact (congrArg SessionRecord.handle atPlan).symm.trans expects.symm
      · rw [← atClosed]
        exact sessions
      · rw [← atClosed]
        exact clocks

theorem closeSession_renews (pane : PaneId)
    (expected : Option SessionHandle) (published : PaneId → SessionRecord → Prop) :
    Renews manager (manager.closeSession pane expected).1 published := by
  unfold closeSession
  cases removed : manager.removeSessionLocked pane expected with
  | none => exact renews_of_same rfl rfl
  | some closed =>
    obtain ⟨-, -, sessions, clocks⟩ := removeSessionLocked_erases removed
    exact renews_of_erase sessions clocks

/-- Every operation keeps or drops the clock of a session that stays, and a session that it
publishes has none. -/
theorem step_renews (op : Operation) : Renews manager (manager.step op)
      fun pane session => op.Publishes pane session := by
  cases op with
  | insertTab | removeTab | updateLayout | setActivePaneId | dropReservation =>
    exact renews_of_same rfl rfl
  | renameTab tab title =>
    simp only [step, renameTab]
    split
    · split <;> exact renews_of_same rfl rfl
    · exact renews_of_same rfl rfl
  | reorderTabs tabs =>
    simp only [step, reorderTabs]
    split
    · exact renews_of_same rfl rfl
    · split <;> exact renews_of_same rfl rfl
  | insertTabForSession pane session tab value active =>
    simp only [step, insertTabForSession]
    split <;> exact renews_of_same rfl rfl
  | insertSession pane session =>
    simp only [step, insertSession]
    split
    · exact renews_of_same rfl rfl
    · split
      · exact renews_of_same rfl rfl
      · exact renews_of_insert rfl rfl ⟨rfl, rfl⟩
  | reserveSession pane =>
    simp only [step, reserveSession]
    split <;> exact renews_of_same rfl rfl
  | publish pane session =>
    simp only [step, publish]
    split
    · exact renews_of_same rfl rfl
    · exact renews_of_insert rfl rfl ⟨rfl, rfl⟩
  | closeSession pane expected => exact closeSession_renews manager pane expected _
  | closePane pane =>
    simp only [step, closePane]
    cases removed : manager.removeSessionLocked pane none with
    | none =>
      obtain ⟨sessions, clocks⟩ := collectLayoutCloseLocked_same manager pane false
      exact renews_of_same sessions clocks
    | some closed =>
      obtain ⟨-, -, sessions, clocks⟩ := removeSessionLocked_erases removed
      exact renews_of_erase sessions clocks
  | purgePane pane skipMatchingTab =>
    exact renews_of_beside (beside_purgePaneFromLayoutsLocked manager pane skipMatchingTab)
  | tabList => exact renews_of_beside (beside_pruneTabs manager)

end SessionManager

/-! ### The reaper among the clients and the sections -/

/-- The clients of a session, and the mark that it is connected. A task that attaches sets the mark,
then finds the session still current, and then adds its client; `attaching` and `validated` count
the tasks on their way. `detaching` counts those that have seen no client left and are about to take
the mark away. -/
structure Connection where
  isConnected : Bool := true
  clients : Nat := 0
  attaching : Nat := 0
  validated : Nat := 0
  detaching : Nat := 0
  deriving DecidableEq

/-- A session without the mark has no client, nor one on its way. -/
def Connection.Settled (connection : Connection) : Prop :=
  connection.isConnected = false →
    connection.clients = 0 ∧ connection.attaching = 0 ∧ connection.validated = 0

/-- The sessions that a look has found current and without a reference. -/
structure Observation where
  time : Instant
  scan : Bool
  unowned : List (PaneId × SessionHandle)

/-- The manager, the clients of each session, and the reaper: what its last scan has found, the
candidates that it has chosen of it, and a record of what has been observed. -/
structure System where
  manager : SessionManager := {}
  connections : PaneId × SessionHandle → Connection := fun _ => {}
  now : Instant := 0
  scannedAt : Instant := 0
  unowned : List (PaneId × SessionHandle × Instant) := []
  candidates : List (PaneId × SessionHandle) := []
  observations : List Observation := []

inductive Event where
  | manage (operation : SessionManager.Operation)
  | advance (duration : Nat)
  | connect (session : PaneId × SessionHandle)
  | validate (session : PaneId × SessionHandle)
  | adopt (session : PaneId × SessionHandle)
  | join (session : PaneId × SessionHandle)
  | leave (session : PaneId × SessionHandle)
  | seeIdle (session : PaneId × SessionHandle)
  | detach (session : PaneId × SessionHandle)
  | scan
  | select
  | reap

namespace System

def connection (system : System) (session : PaneId × SessionHandle) : Connection :=
  system.connections session

def setConnection (system : System) (session : PaneId × SessionHandle) (connection : Connection) :
    System :=
  { system with connections := Function.update system.connections session connection }

/-- The current sessions without a reference. -/
def unownedSessions (manager : SessionManager) : List (PaneId × SessionHandle) :=
  (manager.sessions.entries.filter fun entry => !manager.paneIsReferencedLocked entry.1).map
    fun entry => (entry.1, entry.2.handle)

/-- A client attaches: it marks the session as connected before it looks whether the session is
still current. -/
def connect (system : System) (session : PaneId × SessionHandle) : System :=
  let connection := system.connection session
  system.setConnection session
    { connection with isConnected := true, attaching := connection.attaching + 1 }

/-- A session that is no longer current has failed the client, which takes the mark back. -/
def validate (system : System) (session : PaneId × SessionHandle) : System :=
  let connection := system.connection session
  if connection.attaching = 0 then system
  else if system.manager.isCurrentSession session.1 session.2 then
    system.setConnection session
      { connection with
        attaching := connection.attaching - 1
        validated := connection.validated + 1 }
  else
    system.setConnection session
      { connection with isConnected := false, attaching := connection.attaching - 1 }

/-- The task that has created a session is about to join it without marking it. -/
def adopt (system : System) (session : PaneId × SessionHandle) : System :=
  let connection := system.connection session
  system.setConnection session { connection with validated := connection.validated + 1 }

def join (system : System) (session : PaneId × SessionHandle) : System :=
  let connection := system.connection session
  if connection.validated = 0 then system
  else
    system.setConnection session
      { connection with
        validated := connection.validated - 1
        clients := connection.clients + 1 }

def leave (system : System) (session : PaneId × SessionHandle) : System :=
  let connection := system.connection session
  system.setConnection session { connection with clients := connection.clients - 1 }

/-- A task that finds no client left will take the mark away. -/
def seeIdle (system : System) (session : PaneId × SessionHandle) : System :=
  let connection := system.connection session
  if connection.clients = 0 then
    system.setConnection session { connection with detaching := connection.detaching + 1 }
  else system

def detach (system : System) (session : PaneId × SessionHandle) : System :=
  let connection := system.connection session
  if connection.detaching = 0 then system
  else
    system.setConnection session
      { connection with isConnected := false, detaching := connection.detaching - 1 }

/-- A tick of the reaper begins with a scan, once the candidates of the last one are dealt with. -/
def scan (system : System) : System :=
  if system.unowned.isEmpty && system.candidates.isEmpty then
    let (manager, unowned) := system.manager.scanUnownedSessions system.now
    { system with
      manager
      unowned
      scannedAt := system.now
      observations := system.observations ++
        [{ time := system.now, scan := true, unowned := unownedSessions system.manager }] }
  else system

/-- The next of the sessions found is a candidate when its clock has run long enough and it is not
connected. -/
def select (system : System) : System :=
  match system.unowned with
  | [] => system
  | (pane, session, since) :: rest =>
      let chosen := sessionUnownedGrace ≤ system.scannedAt - since ∧
        (system.connection (pane, session)).isConnected = false
      { system with
        unowned := rest
        candidates := if chosen then system.candidates ++ [(pane, session)]
          else system.candidates }

/-- Try to reap the next candidate. -/
def reap (system : System) : System :=
  match system.unowned, system.candidates with
  | [], (pane, session) :: rest =>
      { system with
        manager := (system.manager.tryReapSession pane session system.now
          (system.connection (pane, session)).isConnected).1
        candidates := rest
        observations := system.observations ++
          [{ time := system.now, scan := false,
             unowned := (unownedSessions system.manager).filter (·.1 = pane) }] }
  | _, _ => system

def step (system : System) : Event → System
  | .manage operation => { system with manager := system.manager.step operation }
  | .advance duration => { system with now := system.now + duration }
  | .connect session => system.connect session
  | .validate session => system.validate session
  | .adopt session => system.adopt session
  | .join session => system.join session
  | .leave session => system.leave session
  | .seeIdle session => system.seeIdle session
  | .detach session => system.detach session
  | .scan => system.scan
  | .select => system.select
  | .reap => system.reap

/-- A run from a server without sessions. -/
def run (events : List Event) : System := events.foldl step {}

def Reaps (system : System) (event : Event) (pane : PaneId) (session : SessionHandle) : Prop :=
  event = .reap ∧ system.unowned = [] ∧ system.candidates.head? = some (pane, session) ∧
    (system.manager.tryReapSession pane session system.now
      (system.connection (pane, session)).isConnected).2 = true

/-! ### What the clocks stand for -/

/-- The session has been observed unowned first at the time `since` and at every scan from then
on. -/
def Observed (observations : List Observation) (session : PaneId × SessionHandle)
    (since : Instant) : Prop :=
  ∃ earlier first later, observations = earlier ++ first :: later ∧ first.time = since ∧
    session ∈ first.unowned ∧
    ∀ observation ∈ later, observation.scan = true → session ∈ observation.unowned

/-- Every clock that a session has stands for observations. -/
def Clocked (system : System) : Prop :=
  ∀ pane session since, system.manager.sessions.lookup pane = some session →
    system.manager.unownedSince.lookup pane = some since →
    Observed system.observations (pane, session.handle) since

variable {session : PaneId × SessionHandle}

theorem Observed.append {observations : List Observation} {since : Instant}
    (observed : Observed observations session since) {next : Observation}
    (again : next.scan = true → session ∈ next.unowned) :
    Observed (observations ++ [next]) session since := by
  obtain ⟨earlier, first, later, rfl, time, mem, always⟩ := observed
  refine ⟨earlier, first, later ++ [next], by simp, time, mem, fun observation inLater => ?_⟩
  rcases mem_append.mp inLater with before | last
  · exact always observation before
  · obtain rfl := mem_singleton.mp last
    exact again

theorem observed_first (observations : List Observation) {next : Observation}
    (mem : session ∈ next.unowned) :
    Observed (observations ++ [next]) session next.time :=
  ⟨observations, next, [], rfl, rfl, mem, nofun⟩

variable {pane : PaneId}

theorem mem_unownedSessions {manager : SessionManager} {session : SessionRecord}
    (held : manager.sessions.lookup pane = some session)
    (unreferenced : manager.paneIsReferencedLocked pane = false) :
    (pane, session.handle) ∈ unownedSessions manager :=
  mem_map.mpr ⟨⟨pane, session⟩, mem_filter.mpr
    ⟨lookup_eq_some_iff.mp held, by simp [unreferenced]⟩, rfl⟩

theorem observed_getD {observations : List Observation} {clock : Option Instant}
    (next : Observation) (mem : session ∈ next.unowned)
    (observed : ∀ since, clock = some since → Observed observations session since) :
    Observed (observations ++ [next]) session (clock.getD next.time) := by
  cases clock with
  | none => exact observed_first observations mem
  | some since => exact (observed since rfl).append fun _ => mem

variable {system : System}

theorem clocked_manage (clocked : system.Clocked) (op : Operation) :
    (system.step (.manage op)).Clocked := by
  intro pane session since held clock
  rcases system.manager.step_renews op pane session held with
    ⟨before, same | none⟩ | ⟨-, none⟩
  · exact clocked pane session since before (same.symm.trans clock)
  · cases none.symm.trans clock
  · cases none.symm.trans clock

theorem clocked_scan (clocked : system.Clocked) : system.scan.Clocked := by
  unfold scan
  split
  · intro pane session since held clock
    replace clock := (system.manager.lookup_scanUnownedSessions system.now pane).symm.trans clock
    split at clock
    next unowned =>
      cases clock
      have mem := mem_unownedSessions held unowned.2
      exact observed_getD ⟨system.now, true, _⟩ mem (clocked pane session · held)
    · cases clock
  · exact clocked

theorem clocked_reap (clocked : system.Clocked) : system.reap.Clocked := by
  unfold reap
  split
  next pane handle rest idle chosen =>
    intro other session since held clock
    dsimp only at held clock ⊢
    have kept : ∀ kept, system.manager.sessions.lookup other = some session →
        system.manager.unownedSince.lookup other = some kept →
        Observed (system.observations ++ [⟨system.now, false,
          (unownedSessions system.manager).filter (·.1 = pane)⟩]) (other, session.handle) kept :=
      fun kept before clocked' => (clocked other session kept before clocked').append nofun
    rcases system.manager.tryReapSession_cases pane handle system.now
        (system.connection (pane, handle)).isConnected with
      ⟨-, same⟩ | ⟨unreferenced, since', isSince, same | ⟨-, -, closed, plan, removed, same⟩⟩
    · rw [same] at held clock
      obtain ⟨-, clock⟩ := of_lookup_erase clock
      exact kept since held clock
    · rw [same] at held clock
      rw [lookup_insert] at clock
      split at clock
      next here =>
        subst here
        cases clock
        rw [isSince]
        refine observed_getD ⟨system.now, false, _⟩
          (mem_filter.mpr ⟨mem_unownedSessions held unreferenced, by simp⟩)
          (clocked other session · held)
      · exact kept since held clock
    · obtain ⟨-, -, sessions, clocks⟩ := removeSessionLocked_erases removed
      rw [same] at held clock
      dsimp only at held clock
      rw [sessions] at held
      obtain ⟨away, held⟩ := of_lookup_erase held
      rw [clocks, lookup_erase, if_neg away] at clock
      dsimp only at clock
      rw [lookup_insert, if_neg away] at clock
      exact kept since held clock
  · exact clocked

/-- Only the sections of the manager and the reaper have to do with sessions and clocks. -/
theorem connection_events (system : System) (event : Event) :
    (∃ op, event = .manage op) ∨ event = .scan ∨ event = .reap ∨
      (system.step event).manager = system.manager ∧
        (system.step event).observations = system.observations := by
  cases event with
  | manage op => exact .inl ⟨op, rfl⟩
  | scan => exact .inr (.inl rfl)
  | reap => exact .inr (.inr (.inl rfl))
  | advance | connect | adopt | leave => exact .inr (.inr (.inr ⟨rfl, rfl⟩))
  | validate session =>
    refine .inr (.inr (.inr ?_))
    simp only [step, validate]
    split
    · exact ⟨rfl, rfl⟩
    · split <;> exact ⟨rfl, rfl⟩
  | join session =>
    refine .inr (.inr (.inr ?_))
    simp only [step, join]
    split <;> exact ⟨rfl, rfl⟩
  | seeIdle session =>
    refine .inr (.inr (.inr ?_))
    simp only [step, seeIdle]
    split <;> exact ⟨rfl, rfl⟩
  | detach session =>
    refine .inr (.inr (.inr ?_))
    simp only [step, detach]
    split <;> exact ⟨rfl, rfl⟩
  | select =>
    refine .inr (.inr (.inr ?_))
    simp only [step, select]
    split <;> exact ⟨rfl, rfl⟩

theorem clocked_step (clocked : system.Clocked) (event : Event) : (system.step event).Clocked := by
  rcases system.connection_events event with ⟨op, rfl⟩ | rfl | rfl | ⟨manager, observations⟩
  · exact clocked_manage clocked op
  · exact clocked_scan clocked
  · exact clocked_reap clocked
  · unfold Clocked
    rw [manager, observations]
    exact clocked

theorem clocked_run (events : List Event) : (run events).Clocked := by
  induction events using reverseRecOn with
  | nil => exact nofun
  | append_singleton before event ih =>
    rw [run, foldl_append]
    exact clocked_step ih event

/-! ### The mark of a session that has a client -/

/-- A session is published once, its creator joins it before the mark is gone, and the mark is taken
away when no client has joined in the meantime. -/
def Orderly (system : System) : Event → Prop
  | .manage operation => ∀ pane session, operation.Publishes pane session →
      system.connection (pane, session.handle) = {}
  | .adopt session => (system.connection session).isConnected = true
  | .detach session => (system.connection session).clients = 0 ∧
      (system.connection session).attaching = 0 ∧ (system.connection session).validated = 0
  | _ => True

def Settled (system : System) : Prop :=
  ∀ pane session, system.manager.sessions.lookup pane = some session →
    (system.connection (pane, session.handle)).Settled

theorem settled_setConnection (settled : system.Settled) {connection : Connection}
    (changed : system.manager.isCurrentSession session.1 session.2 = true →
      (system.connection session).Settled → connection.Settled) :
    (system.setConnection session connection).Settled := by
  intro pane record held
  show (Function.update system.connections session connection (pane, record.handle)).Settled
  by_cases here : (pane, record.handle) = session
  · rw [here, Function.update_self]
    refine changed ?_ (here ▸ settled pane record held)
    obtain rfl := here
    replace held : system.manager.sessions.lookup pane = some record := held
    rw [isCurrentSession, held, map_some, decide_eq_true_eq]
  · rw [Function.update_of_ne here]
    exact settled pane record held

theorem settled_of_sessions {after : System} (settled : system.Settled)
    (sessions : ∀ pane session, after.manager.sessions.lookup pane = some session →
      system.manager.sessions.lookup pane = some session)
    (connections : after.connections = system.connections) : after.Settled := by
  intro pane session held
  unfold connection
  rw [connections]
  exact settled pane session (sessions pane session held)

theorem sessions_tryReapSession {manager : SessionManager} {handle : SessionHandle} {now : Instant}
    {connected : Bool} {other : PaneId} {session : SessionRecord}
    (held : (manager.tryReapSession pane handle now connected).1.sessions.lookup other =
      some session) : manager.sessions.lookup other = some session := by
  rcases manager.tryReapSession_cases pane handle now connected with
    ⟨-, same⟩ | ⟨-, since, -, same | ⟨-, -, closed, plan, removed, same⟩⟩
  · rw [same] at held
    exact held
  · rw [same] at held
    exact held
  · obtain ⟨-, -, sessions, -⟩ := removeSessionLocked_erases removed
    rw [same] at held
    dsimp only at held
    rw [sessions] at held
    exact (of_lookup_erase held).2

variable {event : Event}

theorem settled_step (settled : system.Settled) (orderly : system.Orderly event) :
    (system.step event).Settled := by
  cases event with
  | manage op =>
    intro pane session held
    rcases system.manager.step_renews op pane session held with
      ⟨before, -⟩ | ⟨published, -⟩
    · exact settled pane session before
    · have fresh := orderly pane session published
      intro unmarked
      rw [show (system.step (.manage op)).connection (pane, session.handle) = {} from fresh]
        at unmarked
      cases unmarked
  | advance duration => exact settled
  | connect session => exact settled_setConnection settled fun _ _ => nofun
  | validate session =>
    simp only [step, validate]
    split
    · exact settled
    next someone =>
      split
      · refine settled_setConnection settled fun _ before unmarked => ?_
        obtain ⟨noClient, noTask, -⟩ := before unmarked
        exact absurd noTask someone
      next gone =>
        exact settled_setConnection settled fun cur => absurd cur gone
  | adopt session =>
    refine settled_setConnection settled fun _ _ unmarked => ?_
    cases orderly.symm.trans unmarked
  | join session =>
    simp only [step, join]
    split
    · exact settled
    next someone =>
      refine settled_setConnection settled fun _ before unmarked => ?_
      exact absurd (before unmarked).2.2 someone
  | leave session =>
    refine settled_setConnection settled fun _ before unmarked => ?_
    obtain ⟨noClient, noTask, noneValidated⟩ := before unmarked
    exact ⟨by simp [noClient], noTask, noneValidated⟩
  | seeIdle session =>
    simp only [step, seeIdle]
    split
    · exact settled_setConnection settled fun _ before => before
    · exact settled
  | detach session =>
    simp only [step, detach]
    split
    · exact settled
    · exact settled_setConnection settled fun _ _ _ => orderly
  | scan =>
    simp only [step, scan]
    split
    · exact settled_of_sessions settled (fun _ _ held => held) rfl
    · exact settled
  | select =>
    simp only [step, select]
    split
    · exact settled
    · exact settled_of_sessions settled (fun _ _ held => held) rfl
  | reap =>
    simp only [step, reap]
    split
    · exact settled_of_sessions settled (fun _ _ => sessions_tryReapSession) rfl
    · exact settled

def OrderlyRun (events : List Event) : Prop :=
  ∀ before event after, events = before ++ event :: after → (run before).Orderly event

theorem settled_run {events : List Event} (orderly : OrderlyRun events) : (run events).Settled := by
  induction events using reverseRecOn with
  | nil => exact nofun
  | append_singleton before event ih =>
    have settled := ih fun first step rest same =>
      orderly first step (rest ++ [event]) (by rw [same]; simp)
    rw [run, foldl_append]
    exact settled_step settled (orderly before event [] rfl)

/-! ### When a session is reaped -/

/-- The session is the current one, no terminal leaf refers to the pane, it is not marked as
connected, and it has been observed unowned at every scan of the grace period. -/
structure ReapedSafely (system : System) (pane : PaneId) (session : SessionHandle) : Prop where
  current : system.manager.isCurrentSession pane session = true
  unreferenced : system.manager.paneIsReferencedLocked pane = false
  unmarked : (system.connection (pane, session)).isConnected = false
  observed : ∃ since, Observed system.observations (pane, session) since ∧
    since + sessionUnownedGrace ≤ system.now

theorem reapedSafely_of_reaps (clocked : system.Clocked) {session : SessionHandle}
    (reaps : system.Reaps event pane session) :
    system.ReapedSafely pane session := by
  obtain ⟨-, -, -, done⟩ := reaps
  rcases system.manager.tryReapSession_cases pane session system.now
      (system.connection (pane, session)).isConnected with
    ⟨-, same⟩ | ⟨unreferenced, since, isSince, same | ⟨old, apart, closed, plan, removed, same⟩⟩
  · rw [same] at done
    cases done
  · rw [same] at done
    cases done
  · obtain ⟨held, expected, -, -⟩ := removeSessionLocked_erases removed
    have isHandle := expected session rfl
    replace held : system.manager.sessions.lookup pane = some plan.session := held
    have cur : system.manager.isCurrentSession pane session = true := by
      rw [isCurrentSession, held, map_some, isHandle, decide_eq_true_eq]
    refine ⟨cur, unreferenced, apart, since, ?_, ?_⟩
    · cases clock : system.manager.unownedSince.lookup pane with
      | none =>
        -- A clock that has just been started has not run for the grace period.
        rw [clock, getD_none] at isSince
        rw [isSince, Nat.sub_self] at old
        cases old
      | some kept =>
        rw [clock, getD_some] at isSince
        rw [isSince, ← isHandle]
        exact clocked pane plan.session kept held clock
    · have positive : 0 < sessionUnownedGrace := by decide
      have ordered := Nat.lt_of_sub_pos (Nat.lt_of_lt_of_le positive old)
      exact Nat.add_le_of_le_sub' ordered.le old

theorem clients_of_reaps {events : List Event} (orderly : OrderlyRun events)
    {session : SessionHandle} (reaps : (run events).Reaps event pane session) :
    ((run events).connection (pane, session)).clients = 0 := by
  have safely := reapedSafely_of_reaps (clocked_run events) reaps
  have current := safely.current
  rw [isCurrentSession, decide_eq_true_eq] at current
  obtain ⟨record, held, rfl⟩ := map_eq_some_iff.mp current
  exact (settled_run orderly pane record held safely.unmarked).1

theorem clock_of_referenced (referenced : system.manager.paneIsReferencedLocked pane = true) :
    (system.manager.scanUnownedSessions system.now).1.unownedSince.lookup pane = none ∧
      ∀ session connected, (system.manager.tryReapSession pane session system.now
        connected).1.unownedSince.lookup pane = none := by
  constructor
  · rw [lookup_scanUnownedSessions, if_neg (by simp [referenced])]
  · intro session connected
    rw [tryReapSession, if_pos referenced, lookup_erase, if_pos rfl]

/-- A session that has just become the current one of its pane has no clock. -/
theorem clock_of_new_session (system : System) (event : Event) {session : SessionHandle}
    (after : (system.step event).manager.isCurrentSession pane session = true)
    (before : system.manager.isCurrentSession pane session = false) :
    (system.step event).manager.unownedSince.lookup pane = none := by
  have isCurrent : ∀ {manager : SessionManager} {record : SessionRecord},
      manager.sessions.lookup pane = some record → record.handle = session →
        manager.isCurrentSession pane session = true := by
    intro manager record held same
    rw [isCurrentSession, held, map_some, same, decide_eq_true_eq]
  rw [isCurrentSession, decide_eq_true_eq] at after
  obtain ⟨record, held, same⟩ := map_eq_some_iff.mp after
  have kept : system.manager.sessions.lookup pane = some record →
      (system.step event).manager.unownedSince.lookup pane = none := fun there =>
    Bool.noConfusion ((isCurrent there same).symm.trans before)
  rcases system.connection_events event with ⟨op, rfl⟩ | rfl | rfl | ⟨manager, -⟩
  · rcases system.manager.step_renews op pane record held with ⟨there, -⟩ | ⟨-, none⟩
    · exact kept there
    · exact none
  · refine kept ?_
    simp only [step, scan] at held
    split at held <;> exact held
  · refine kept ?_
    simp only [step, reap] at held
    split at held
    · exact sessions_tryReapSession held
    · exact held
  · exact kept (manager ▸ held)

/-- A session without a leaf, with a client from its beginning, that a scan has found a minute
ago. -/
def connectedForAMinute : List Event :=
  [.manage (.insertSession "p1" { handle := 1 }), .adopt ("p1", 1), .join ("p1", 1), .scan,
    .select, .advance 60000]

end System

end Dinotty.Session.Stored
