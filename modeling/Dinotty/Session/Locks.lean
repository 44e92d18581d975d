/-
This file says who holds the locks of a session. The phases of a thread are read off from the
actions left to it, and every step keeps them in accord with the holders. No threads wait for each
other in a circle, and the text that waits for the end of an update is bounded.
-/

import Dinotty.Session.Threads

namespace Dinotty.Concurrent

open Screen Interleaving List Option Lock SyncOutput Utf8

/-! ### The lock of the synchronized output -/

/-- A thread does not hold the lock, holds it, or still has to send the mark. -/
inductive SyncPhase where
  | free
  | held
  | opening
  | closing
  deriving DecidableEq, Repr

@[grind =] def syncBefore : Action → SyncPhase → Option SyncPhase
  | .unlockSync, .free => some .held
  | .unlockSync, _ => none
  | .enqueueControl .syncBegin, .held => some .opening
  | .enqueueControl .syncEnd, .held => some .closing
  | .enqueueControl (.sessionExit _ _), .free => some .free
  | .enqueueControl _, _ => none
  | .flushLocked, phase | .flushFrom _ _, phase | .lockClients, phase | .sendChunk _, phase =>
      if phase = .free then none else some phase
  | .unlockClients, phase => some phase
  | _, .free => some .free
  | _, _ => none

def syncLock (Parser : Type) : Lock (Session Parser) Action SyncPhase where
  holder := Session.syncHolder
  free := .free
  before := syncBefore

/-! ### The lock of the clients -/

/-- A thread does not hold the lock, holds it, or is inside the replay of a client. -/
inductive ClientsPhase where
  | free
  | held
  | replaying (client : Nat)
  deriving DecidableEq, Repr

@[grind =] def clientsBefore : Action → ClientsPhase → Option ClientsPhase
  | .lockClients, .held => some .free
  | .lockClients, _ => none
  | .unlockClients, .free => some .held
  | .unlockClients, _ => none
  | .takeSnapshot _ _ _, .free => some .held
  | .takeSnapshot _ _ _, _ => none
  | .flushFrom _ _, .held | .sendChunk _, .held | .clearPending _, .held => some .held
  | .flushFrom _ _, _ | .sendChunk _, _ | .clearPending _, _ => none
  | .send client (.replayBegin _ _), .replaying other => if client = other then some .held else none
  | .send client (.output _), .replaying other =>
      if client = other then some (.replaying client) else none
  | .send client .replayEnd, .held => some (.replaying client)
  | .send _ _, _ => none
  | _, .free => some .free
  | _, _ => none

def clientsLock (Parser : Type) : Lock (Session Parser) Action ClientsPhase where
  holder := Session.clientsHolder
  free := .free
  before := clientsBefore

section

variable {vte : Vte} {width : Char → Option Nat}

@[simp] theorem syncLock_free : (syncLock vte.Parser).free = .free := rfl

@[simp] theorem syncLock_before (action : Action) (phase : SyncPhase) :
    (syncLock vte.Parser).before action phase = syncBefore action phase := rfl

@[simp] theorem syncLock_holder (sess : Session vte.Parser) :
    (syncLock vte.Parser).holder sess = sess.syncHolder := rfl

@[simp] theorem clientsLock_free : (clientsLock vte.Parser).free = .free := rfl

@[simp] theorem clientsLock_before (action : Action) (phase : ClientsPhase) :
    (clientsLock vte.Parser).before action phase = clientsBefore action phase := rfl

@[simp] theorem clientsLock_holder (sess : Session vte.Parser) :
    (clientsLock vte.Parser).holder sess = sess.clientsHolder := rfl

/-! ### A replay -/

variable {rest : List Action}

variable (screen : VirtualScreen vte.Parser)

theorem replayActions_clients (client cols rows : Nat)
    (free : (clientsLock vte.Parser).phase rest = some .free) :
    (clientsLock vte.Parser).phase (replayActions screen client cols rows ++ rest) =
      some .held := by
  have inside (chunks : List (List Token)) (back : List Action)
      (later : (clientsLock vte.Parser).phase back = some (.replaying client)) :
      (clientsLock vte.Parser).phase
        (chunks.map (fun chunk => .send client (.output (tokenText chunk))) ++ back) =
          some (.replaying client) := by
    induction chunks with
    | nil => exact later
    | cons chunk chunks ih =>
      rw [map_cons, cons_append, phase_cons, ih, bind_some]
      exact if_pos rfl
  have back : (clientsLock vte.Parser).phase
      ([.send client (.output (tokenText screen.snapshotForReplay)), .send client .replayEnd,
        .clearPending client, .unlockClients] ++ rest) = some (.replaying client) := by
    simp [free, clientsBefore]
  rw [replayActions, append_assoc, append_assoc, singleton_append,
    phase_cons, inside _ _ back, bind_some]
  exact if_pos rfl

theorem replayActions_sync (client cols rows : Nat)
    (free : (syncLock vte.Parser).phase rest = some .free) :
    (syncLock vte.Parser).phase (replayActions screen client cols rows ++ rest) = some .free := by
  refine phase_pushes (.append (fun action mem => ?_) .rest) free
  simp only [replayActions, mem_append, List.mem_map, mem_cons, not_mem_nil, or_false] at mem
  rcases mem with (rfl | ⟨chunk, -, rfl⟩) | rfl | rfl | rfl | rfl <;> rfl

/-! ### Actions that leave the locks alone -/

/-- Actions that a thread does outside both locks. -/
@[grind =] def Action.Outside (action : Action) : Prop :=
  syncBefore action .free = some .free ∧ clientsBefore action .free = some .free

variable {action : Action}

theorem Action.Outside.free (outside : action.Outside) {after phase : SyncPhase}
    (head : syncBefore action after = some phase) : phase = .free := by
  obtain ⟨sync, clients⟩ := outside
  cases action
  case enqueueControl event =>
    cases event <;> cases sync
    cases after <;> cases head
    rfl
  case send client event => cases event <;> cases clients
  all_goals
    cases sync <;> cases clients
  all_goals
    cases after <;> cases head
    rfl

variable {me : Nat} {choice : Choice} {ops : List Action}

variable {sess next : Session vte.Parser}

theorem exec_lockless (done : exec vte width me choice action rest sess = some (next, ops))
    (lockless : action.Lockless) :
    next.syncHolder = sess.syncHolder ∧ next.clientsHolder = sess.clientsHolder ∧
      Pushes Action.Outside rest ops := by
  have frame := exec_frame done
  refine ⟨frame.syncHolder lockless, frame.clientsHolder lockless, exec_pushes done ?_⟩
  cases action
  case setSyncMode | flushSyncBuffer | flushLocked | flushFrom | enqueueControl | unlockSync
      | broadcastLive | lockClients | sendChunk | unlockClients | findClient | takeSnapshot
      | send | clearPending => exact lockless.elim
  all_goals simp [Action.PushesOnly, Action.Outside, syncBefore, clientsBefore]

/-! ### The actions keep the discipline -/

theorem exec_clients {earlier : ClientsPhase}
    (phased : (clientsLock vte.Parser).phase (action :: rest) = some earlier)
    (holds : earlier ≠ .free ↔ sess.clientsHolder = some me)
    (done : exec vte width me choice action rest sess = some (next, ops)) :
    ∃ later, (clientsLock vte.Parser).phase ops = some later ∧
      (clientsLock vte.Parser).Passes me sess next earlier later := by
  obtain ⟨after, restPhase, head⟩ := bind_eq_some_iff.mp phased
  change clientsBefore action after = some earlier at head
  cases action
  case lockClients =>
    simp only [exec] at done
    split at done
    · cases done
    next unheld =>
      cases done
      cases after <;> cases head
      exact ⟨_, restPhase, .take (not_isSome_iff_eq_none.mp unheld) rfl nofun⟩
  case unlockClients =>
    cases done
    cases after <;> cases head
    exact ⟨_, restPhase, .release nofun rfl rfl⟩
  case findClient client cols rows =>
    cases after <;> cases head
    simp only [exec] at done
    split at done
    · cases done
    next unheld =>
      split at done
      · cases done
        exact ⟨.held, by rw [phase_cons, restPhase]; rfl,
          .take (not_isSome_iff_eq_none.mp unheld) rfl nofun⟩
      · cases done
        exact ⟨.free, rfl, .keep rfl Iff.rfl⟩
  case takeSnapshot client cols rows =>
    cases done
    cases after <;> cases head
    exact ⟨.held, replayActions_clients _ _ _ _ restPhase, .keep rfl Iff.rfl⟩
  case flushFrom combined start =>
    cases after <;> cases head
    simp only [exec] at done
    split at done
    · obtain ⟨chunk, -, done⟩ := bind_eq_some_iff.mp done
      cases done
      exact ⟨.held, by simp [restPhase, clientsBefore], .keep rfl Iff.rfl⟩
    · cases done
      exact ⟨.held, restPhase, .keep rfl Iff.rfl⟩
  case sendChunk chunk =>
    cases done
    cases after <;> cases head
    exact ⟨_, restPhase, .keep rfl Iff.rfl⟩
  case clearPending client =>
    cases done
    cases after <;> cases head
    exact ⟨_, restPhase, .keep rfl Iff.rfl⟩
  case send client event =>
    cases done
    refine ⟨after, restPhase, .keep rfl ?_⟩
    cases event <;> cases after
    all_goals
      simp only [clientsBefore] at head
      first
        | (split at head <;> cases head <;> exact iff_of_false nofun nofun)
        | (cases head <;> exact iff_of_false nofun nofun)
  case enqueueControl event =>
    cases after <;> cases head
    simp only [exec] at done
    split at done
    · cases done
    · cases done
      exact ⟨.free, restPhase, .keep rfl Iff.rfl⟩
  case setSyncMode | flushSyncBuffer | broadcastLive | flushLocked | unlockSync =>
    cases after <;> cases head
    simp only [exec] at done
    repeat' split at done
    all_goals cases done
    all_goals exact ⟨.free, by simp [restPhase, clientsBefore], .keep rfl Iff.rfl⟩
  all_goals
    cases after <;> cases head
    obtain ⟨-, clients, pushes⟩ := exec_lockless done trivial
    exact ⟨.free, phase_pushes (pushes.mono fun _ => And.right) restPhase, .keep clients Iff.rfl⟩

theorem exec_sync {earlier : SyncPhase}
    (phased : (syncLock vte.Parser).phase (action :: rest) = some earlier)
    (holds : earlier ≠ .free ↔ sess.syncHolder = some me)
    (done : exec vte width me choice action rest sess = some (next, ops)) :
    ∃ later, (syncLock vte.Parser).phase ops = some later ∧
      (syncLock vte.Parser).Passes me sess next earlier later := by
  obtain ⟨after, restPhase, head⟩ := bind_eq_some_iff.mp phased
  change syncBefore action after = some earlier at head
  cases action
  case setSyncMode active =>
    cases after <;> cases head
    simp only [exec] at done
    split at done
    · cases done
    next unheld =>
      split at done
      · cases done
        exact ⟨.free, restPhase, .keep rfl Iff.rfl⟩
      · cases done
        cases active
        · exact ⟨.closing, by simp [restPhase, syncBefore],
            .take (not_isSome_iff_eq_none.mp unheld) rfl nofun⟩
        · exact ⟨.opening, by simp [restPhase, syncBefore],
            .take (not_isSome_iff_eq_none.mp unheld) rfl nofun⟩
  case flushSyncBuffer =>
    cases after <;> cases head
    simp only [exec] at done
    split at done
    · cases done
    next unheld =>
      cases done
      exact ⟨.held, by simp [restPhase, syncBefore],
        .take (not_isSome_iff_eq_none.mp unheld) rfl nofun⟩
  case broadcastLive msg =>
    cases after <;> cases head
    simp only [exec] at done
    split at done
    · cases done
    next unheld =>
      have none := not_isSome_iff_eq_none.mp unheld
      repeat' split at done
      all_goals cases done
      · exact ⟨.free, restPhase, .keep rfl Iff.rfl⟩
      · exact ⟨.held, by simp [restPhase, syncBefore], .take none rfl nofun⟩
      · exact ⟨.held, by simp [restPhase, syncBefore], .take none rfl nofun⟩
  case unlockSync =>
    cases done
    cases after <;> cases head
    exact ⟨.free, restPhase, .release nofun rfl rfl⟩
  case flushLocked =>
    obtain ⟨busy, rfl⟩ : after ≠ .free ∧ after = earlier := by
      cases after <;> cases head <;> exact ⟨nofun, rfl⟩
    simp only [exec] at done
    split at done
    · cases done
      exact ⟨after, restPhase, .keep rfl Iff.rfl⟩
    · cases done
      exact ⟨after, by simp [restPhase, syncBefore, busy], .keep rfl Iff.rfl⟩
  case flushFrom combined start =>
    obtain ⟨busy, rfl⟩ : after ≠ .free ∧ after = earlier := by
      cases after <;> cases head <;> exact ⟨nofun, rfl⟩
    simp only [exec] at done
    split at done
    · obtain ⟨chunk, -, done⟩ := bind_eq_some_iff.mp done
      cases done
      exact ⟨after, by simp [restPhase, syncBefore, busy], .keep rfl Iff.rfl⟩
    · cases done
      exact ⟨after, restPhase, .keep rfl Iff.rfl⟩
  case lockClients =>
    simp only [exec] at done
    split at done
    · cases done
    · cases done
      refine ⟨after, restPhase, .keep rfl ?_⟩
      cases after <;> cases head <;> exact iff_of_false nofun nofun
  case sendChunk chunk =>
    cases done
    refine ⟨after, restPhase, .keep rfl ?_⟩
    cases after <;> cases head <;> exact iff_of_false nofun nofun
  case unlockClients =>
    cases done
    cases head
    exact ⟨_, restPhase, .keep rfl Iff.rfl⟩
  case enqueueControl event =>
    simp only [exec] at done
    split at done
    · cases done
    · cases done
      refine ⟨after, restPhase, .keep rfl ?_⟩
      cases event <;> cases after <;> cases head
      all_goals first
        | exact Iff.rfl
        | exact iff_of_false nofun nofun
  case takeSnapshot client cols rows =>
    cases done
    cases after <;> cases head
    exact ⟨.free, replayActions_sync _ _ _ _ restPhase, .keep rfl Iff.rfl⟩
  case findClient client cols rows =>
    cases after <;> cases head
    simp only [exec] at done
    repeat' split at done
    all_goals cases done
    all_goals exact ⟨.free, by simp [restPhase, syncBefore], .keep rfl Iff.rfl⟩
  case send | clearPending =>
    cases done
    cases after <;> cases head
    exact ⟨.free, restPhase, .keep rfl Iff.rfl⟩
  all_goals
    cases after <;> cases head
    obtain ⟨sync, -, pushes⟩ := exec_lockless done trivial
    exact ⟨.free, phase_pushes (pushes.mono fun _ => And.left) restPhase, .keep sync Iff.rfl⟩

/-! ### Runs -/

/-- Every thread is in the phases that go with the holders of the two locks. -/
structure Locked (world : World vte.Parser) : Prop where
  sync : (syncLock vte.Parser).Keeps world
  clients : (clientsLock vte.Parser).Keeps world

theorem program_outside (call : Call) : ∀ action ∈ call.program, action.Outside := by
  intro action mem
  cases call
  all_goals
    simp only [Call.program, mem_cons, not_mem_nil, or_false] at mem
    rcases mem with rfl | rfl | rfl | rfl <;> exact ⟨rfl, rfl⟩

theorem outside_phases (outside : ∀ action ∈ ops, action.Outside) :
    (syncLock vte.Parser).phase ops = some .free ∧
      (clientsLock vte.Parser).phase ops = some .free := by
  rw [← append_nil ops]
  exact ⟨phase_pushes (.append (fun action mem => (outside action mem).1) .rest) rfl,
    phase_pushes (.append (fun action mem => (outside action mem).2) .rest) rfl⟩

theorem locked_new (cols rows : Nat) : Locked (World.new vte cols rows) := by
  constructor
  all_goals
    refine ⟨fun i ops held => ?_, nofun⟩
    have mem := mem_of_getElem? held
    rw [World.new, mem_cons, mem_singleton] at mem
    rcases mem with rfl | rfl
    all_goals exact ⟨.free, rfl, iff_of_false (fun busy => busy rfl) nofun⟩

theorem Locked.congr {world next : World vte.Parser} (locked : Locked world)
    (threads : next.threads = world.threads)
    (sync : next.shared.syncHolder = world.shared.syncHolder)
    (clients : next.shared.clientsHolder = world.shared.clientsHolder) : Locked next :=
  ⟨locked.sync.congr threads sync, locked.clients.congr threads clients⟩

theorem locked_step {world next : World vte.Parser} {input : Input} (locked : Locked world)
    (done : step vte width world input = some next) : Locked next := by
  cases input with
  | run thread choice =>
    exact ⟨locked.sync.step
        (fun _ _ _ _ phased holds ran => exec_sync phased holds ran) done,
      locked.clients.step
        (fun _ _ _ _ phased holds ran => exec_clients phased holds ran) done⟩
  | call call =>
    cases done
    obtain ⟨sync, clients⟩ := @outside_phases vte _ (program_outside call)
    exact ⟨locked.sync.spawn sync, locked.clients.spawn clients⟩
  | addClient | removeClient id =>
    obtain ⟨sess, changed, rfl⟩ := map_eq_some_iff.mp done
    obtain rfl := changeClients_eq_some changed
    exact locked.congr rfl rfl rfl
  | receive | hangUp =>
    cases done
    exact locked.congr rfl rfl rfl

/-! ### No deadlock -/

/-- The actions that compute on the screen or cut a text. They may panic, but wait for nothing. -/
def Action.Computes : Action → Prop
  | .feed _ | .resizeScreen _ _ | .flushFrom _ _ => True
  | _ => False

variable (vte width) in
/-- The thread has something left to do, and can do it unless it panics. -/
def GoesOn (world : World vte.Parser) (thread : Nat) : Prop :=
  ∃ action rest, world.threads[thread]? = some (action :: rest) ∧ (action.Computes ∨
    ∃ choice, (exec vte width thread choice action rest world.shared).isSome)

theorem exec_inside_clients {after earlier : ClientsPhase}
    (head : clientsBefore action after = some earlier) (busy : earlier ≠ .free) :
    action.Computes ∨ ∃ choice, (exec vte width me choice action rest sess).isSome := by
  cases action
  case flushFrom => exact .inl trivial
  case takeSnapshot | sendChunk | send | clearPending | unlockClients => exact .inr ⟨.proceed, rfl⟩
  all_goals
    cases after <;> cases head
    exact absurd rfl busy

theorem exec_inside_sync {after earlier : SyncPhase}
    (head : syncBefore action after = some earlier) (busy : earlier ≠ .free)
    (unheld : sess.clientsHolder = none) :
    action.Computes ∨ ∃ choice, (exec vte width me choice action rest sess).isSome := by
  cases action
  case flushFrom => exact .inl trivial
  case unlockSync | sendChunk | unlockClients => exact .inr ⟨.proceed, rfl⟩
  case flushLocked =>
    refine .inr ⟨.proceed, ?_⟩
    simp only [exec]
    split <;> rfl
  case lockClients | enqueueControl => exact .inr ⟨.proceed, by simp [exec, unheld]⟩
  all_goals
    cases after <;> cases head
    exact absurd rfl busy

theorem exec_unlocked (sync : sess.syncHolder = none) (clients : sess.clientsHolder = none) :
    action.Computes ∨ ∃ choice, (exec vte width me choice action rest sess).isSome := by
  cases action
  case feed | resizeScreen | flushFrom => exact .inl trivial
  case readPty => exact .inr ⟨.fail, rfl⟩
  case receiveBatch => exact .inr ⟨.tick false, rfl⟩
  all_goals
    refine .inr ⟨.proceed, ?_⟩
    simp only [exec, sync, clients, isSome_none, Bool.false_eq_true, if_false]
    repeat' split
    all_goals rfl

/-- In no interleaving do threads wait for each other in a circle: whoever holds the clients can go
on, whoever holds the synchronized output can when nobody holds the clients, and when nobody holds
either, every thread with something left to do can. -/
theorem threads_never_stuck {cols rows : Nat} {inputs : List Input} {world : World vte.Parser}
    (reached : Fallible.run (step vte width) (World.new vte cols rows) inputs = some world) :
    (∀ thread, world.shared.clientsHolder = some thread → GoesOn vte width world thread) ∧
      (world.shared.clientsHolder = none →
        (∀ thread, world.shared.syncHolder = some thread → GoesOn vte width world thread) ∧
        (world.shared.syncHolder = none → ∀ thread action rest,
          world.threads[thread]? = some (action :: rest) → GoesOn vte width world thread)) := by
  have locked : Locked world := Fallible.run_invariant (fun _ _ _ locked _ => locked_step locked)
    (locked_new cols rows) (Fallible.meets_of_forall (fun _ _ => trivial) _ _) reached
  refine ⟨fun thread held => ?_, fun unheld => ⟨fun thread held => ?_,
    fun free thread action rest present => ⟨action, rest, present, exec_unlocked free unheld⟩⟩⟩
  · obtain ⟨action, rest, present, after, phase, head, busy⟩ := locked.clients.inside held
    exact ⟨action, rest, present, exec_inside_clients head busy⟩
  · obtain ⟨action, rest, present, after, phase, head, busy⟩ := locked.sync.inside held
    exact ⟨action, rest, present, exec_inside_sync head busy unheld⟩

/-- A call that has just begun an update holds the synchronized output, and can go on. -/
theorem threads_never_stuck_update : ∃ world, Fallible.run (step smallVte smallWidth)
      (World.new smallVte 2 1) [.call (.setSyncMode true), .run 2 .proceed] = some world ∧
    GoesOn smallVte smallWidth world 2 := by
  have reached : Fallible.run (step smallVte smallWidth) (World.new smallVte 2 1)
    [.call (.setSyncMode true), .run 2 .proceed] = some _ := rfl
  exact ⟨_, reached, ((threads_never_stuck reached).2 rfl).1 2 rfl⟩

/-! ### The buffer of the synchronized output -/

/-- The buffer is counted. -/
def Counts (sync : SyncState) : Prop := sync.bytes = size sync.buffer.flatten

/-- The buffer is counted, and below its limit unless the thread that holds it is about to flush it.
-/
def Drains (world : World vte.Parser) : Prop :=
  Counts world.shared.sync ∧ (world.shared.sync.bytes < syncBufferLimit ∨
    ∃ holder rest, world.shared.syncHolder = some holder ∧
      world.threads[holder]? = some (.flushLocked :: rest))

theorem exec_buffer (done : exec vte width me choice action rest sess = some (next, ops)) :
    (∃ active, next.sync = { sess.sync with active }) ∧ action ≠ .flushLocked ∨
      next.sync.buffer = [] ∧ next.sync.bytes = 0 ∨
      ∃ msg, next.sync.buffer = sess.sync.buffer ++ [msg] ∧
        next.sync.bytes = sess.sync.bytes + size msg ∧ (next.sync.bytes < syncBufferLimit ∨
          next.syncHolder = some me ∧ ∃ rest, ops = .flushLocked :: rest) := by
  cases action
  case flushFrom combined start =>
    simp only [exec] at done
    split at done
    · obtain ⟨chunk, -, done⟩ := bind_eq_some_iff.mp done
      cases done
      exact .inl ⟨⟨_, rfl⟩, by rintro ⟨⟩⟩
    · cases done
      exact .inl ⟨⟨_, rfl⟩, by rintro ⟨⟩⟩
  case feed | resizeScreen =>
    obtain ⟨result, -, done⟩ := map_eq_some_iff.mp done
    cases done
    exact .inl ⟨⟨_, rfl⟩, by rintro ⟨⟩⟩
  case flushLocked =>
    simp only [exec] at done
    split at done
    all_goals
      cases done
      exact .inr (.inl ⟨rfl, rfl⟩)
  all_goals
    simp only [exec] at done
    repeat' split at done
  all_goals cases done
  all_goals first
    | exact .inl ⟨⟨_, rfl⟩, by rintro ⟨⟩⟩
    | exact .inr (.inr ⟨_, rfl, rfl, .inl ‹_›⟩)
    | exact .inr (.inr ⟨_, rfl, rfl, .inr ⟨rfl, _, rfl⟩⟩)

theorem drains_step {world next : World vte.Parser} {input : Input} (locked : Locked world)
    (drains : Drains world) (done : step vte width world input = some next) : Drains next := by
  obtain ⟨counts, drains⟩ := drains
  cases input with
  | run thread choice =>
    obtain ⟨action, rest, ops, present, ran, own, same⟩ := Pool.step_cases done
    rcases exec_buffer ran with
      ⟨⟨active, equal⟩, other⟩ | ⟨buffer, bytes⟩ | ⟨msg, buffer, bytes, full⟩
    · rw [Drains, equal]
      refine ⟨counts, drains.imp_right fun ⟨holder, later, held, flushing⟩ => ?_⟩
      have away : holder ≠ thread := by
        rintro rfl
        cases present.symm.trans flushing
        exact other rfl
      obtain ⟨earlier, phased, holds⟩ := locked.sync.guards thread _ present
      obtain ⟨after, -, passes⟩ := exec_sync phased holds ran
      refine ⟨holder, later, ?_, (same holder away).trans flushing⟩
      cases passes with
      | keep same phases => exact same.trans held
      | take unheld => cases unheld.symm.trans held
      | release busy => exact absurd (some.inj (held.symm.trans (holds.mp busy))) away
    · exact ⟨by rw [Counts, buffer, bytes]; rfl, .inl (by rw [bytes]; decide)⟩
    · refine ⟨by rw [Counts, buffer, bytes, counts]; simp,
        full.imp_right fun ⟨held, more, pushed⟩ => ?_⟩
      exact ⟨thread, more, held, by rw [own, pushed]⟩
  | call call =>
    cases done
    refine ⟨counts, drains.imp_right fun ⟨holder, later, held, flushing⟩ => ?_⟩
    have inside := (List.getElem?_eq_some_iff.mp flushing).1
    exact ⟨holder, later, held, (getElem?_append_left inside).trans flushing⟩
  | addClient | removeClient id =>
    obtain ⟨sess, changed, rfl⟩ := map_eq_some_iff.mp done
    obtain rfl := changeClients_eq_some changed
    exact ⟨counts, drains⟩
  | receive | hangUp =>
    cases done
    exact ⟨counts, drains⟩

/-- In every interleaving the text that waits for the end of an update stays below the limit
whenever nobody holds the buffer. -/
theorem buffer_stays_bounded {cols rows : Nat} {inputs : List Input} {world : World vte.Parser}
    (reached : Fallible.run (step vte width) (World.new vte cols rows) inputs = some world)
    (unheld : world.shared.syncHolder = none) :
    size world.shared.sync.buffer.flatten < syncBufferLimit := by
  have start : Locked (World.new vte cols rows) ∧ Drains (World.new vte cols rows) :=
    ⟨locked_new cols rows, rfl, .inl (by decide : 0 < syncBufferLimit)⟩
  obtain ⟨-, counts, drains⟩ := Fallible.run_invariant
    (fun _ _ _ both _ done => And.intro (locked_step both.1 done) (drains_step both.1 both.2 done))
    start (Fallible.meets_of_forall (fun _ _ => trivial) _ _) reached
  rcases drains with small | ⟨holder, rest, held, -⟩
  · rwa [← counts]
  · cases unheld.symm.trans held

/-- A text waits in the buffer during an update. -/
theorem buffer_stays_bounded_update : ∃ world, Fallible.run (step smallVte smallWidth)
      (World.new smallVte 2 1) (.call (.setSyncMode true) :: replicate 3 (.run 2 .proceed) ++
        .call (.broadcast ['h', 'i']) :: replicate 2 (.run 3 .proceed)) = some world ∧
    world.shared.sync.buffer = [['h', 'i']] ∧
    size world.shared.sync.buffer.flatten < syncBufferLimit := by
  have reached : Fallible.run (step smallVte smallWidth) (World.new smallVte 2 1)
    (.call (.setSyncMode true) :: replicate 3 (.run 2 .proceed) ++
      .call (.broadcast ['h', 'i']) :: replicate 2 (.run 3 .proceed)) = some _ := rfl
  exact ⟨_, reached, rfl, buffer_stays_bounded reached rfl⟩

end

end Dinotty.Concurrent
