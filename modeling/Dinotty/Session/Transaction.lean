/-
This file follows the output transaction of a client. The marks that open and close it travel on the
bounded channel that drops what finds it full. In every interleaving in which no closing mark is
dropped, a client that has taken all its messages is outside every transaction once the synchronized
output is over and no replay is being sent to it.
-/

import Dinotty.Session.Locks

namespace Dinotty.Concurrent

open Screen Interleaving List Option Fallible Pool Mailbox

/-! ### The client -/

/-- How many marks are open, the output that is held back with its length, and the output written to
the terminal. -/
structure Transaction where
  depth : Nat
  buffer : List (List Char)
  bytes : Nat
  written : List (List Char)
  deriving DecidableEq, Repr

namespace Transaction

def maxTransactionBytes : Nat := 8 * 1024 * 1024

/-- The length of a string of the client, in UTF-16 code units. -/
def stringLength (data : List Char) : Nat :=
  (data.map fun c => if c.toNat < 0x10000 then 1 else 2).sum

variable (t : Transaction)

def enqueueWrite (data : List Char) : Transaction :=
  { t with written := t.written ++ [data] }

def flushTransaction : Transaction :=
  if t.buffer.length = 0 then t
  else { t with buffer := [], bytes := 0 }.enqueueWrite t.buffer.flatten

def appendToTransaction (data : List Char) : Transaction :=
  let held := { t with buffer := t.buffer ++ [data], bytes := t.bytes + stringLength data }
  if held.bytes ≥ maxTransactionBytes then held.flushTransaction else held

def beginTransaction : Transaction := { t with depth := t.depth + 1 }

/-- A stray end without a matching begin is ignored. -/
def endTransaction : Transaction :=
  if t.depth = 0 then t
  else
    let inner := { t with depth := t.depth - 1 }
    if inner.depth = 0 then inner.flushTransaction else inner

def onMessage (t : Transaction) : SessionClientEvent → Transaction
  | .output data => if t.depth > 0 then t.appendToTransaction data else t.enqueueWrite data
  | .resize _ _ => if t.depth > 0 then { t.flushTransaction with depth := 0 } else t
  | .sessionExit _ _ => t
  | .syncBegin | .replayBegin _ _ => t.beginTransaction
  | .syncEnd | .replayEnd => t.endTransaction

/-- A client that has just connected. -/
def new : Transaction := ⟨0, [], 0, []⟩

def afterMessages (messages : List SessionClientEvent) : Transaction :=
  messages.foldl onMessage new

/-! ### What a message does to the depth and to the output -/

@[simp] theorem flushTransaction_depth : t.flushTransaction.depth = t.depth := by
  unfold flushTransaction
  split <;> rfl

@[simp] theorem appendToTransaction_depth (data : List Char) :
    (t.appendToTransaction data).depth = t.depth := by
  unfold appendToTransaction
  dsimp only
  split
  · exact flushTransaction_depth _
  · rfl

theorem endTransaction_depth : t.endTransaction.depth = t.depth - 1 := by
  unfold endTransaction
  split
  next outside =>
    rw [outside]
  · dsimp only
    split
    · exact flushTransaction_depth _
    · rfl

/-- The marks that open a transaction. -/
def IsBegin : SessionClientEvent → Prop
  | .syncBegin | .replayBegin _ _ => True
  | _ => False

/-- The marks that close a transaction. -/
def IsEnd : SessionClientEvent → Prop
  | .syncEnd | .replayEnd => True
  | _ => False

theorem onMessage_depth_of_not_begin {event : SessionClientEvent}
    (other : ¬ IsBegin event) : (t.onMessage event).depth ≤ t.depth := by
  cases event
  case output data =>
    simp only [onMessage]
    split
    · exact Nat.le_of_eq (appendToTransaction_depth t data)
    · exact Nat.le_refl _
  case resize cols rows =>
    simp only [onMessage]
    split
    · exact Nat.zero_le _
    · exact Nat.le_refl _
  case sessionExit => exact Nat.le_refl _
  case syncBegin | replayBegin => exact absurd trivial other
  case syncEnd | replayEnd =>
    change t.endTransaction.depth ≤ _
    rw [endTransaction_depth]
    exact Nat.sub_le _ _

theorem onMessage_depth_le (event : SessionClientEvent) :
    (t.onMessage event).depth ≤ t.depth + 1 := by
  by_cases begins : IsBegin event
  · cases event
    case syncBegin | replayBegin => exact Nat.le_refl _
    all_goals exact begins.elim
  · exact Nat.le_succ_of_le (onMessage_depth_of_not_begin t begins)

theorem onMessage_depth_of_end {event : SessionClientEvent}
    (isEnd : IsEnd event) : (t.onMessage event).depth = t.depth - 1 := by
  cases event
  case syncEnd | replayEnd => exact endTransaction_depth t
  all_goals exact isEnd.elim

/-- What a transaction has written and still holds back, in order. -/
def text : List Char := t.written.flatten ++ t.buffer.flatten

/-- Nothing is held back outside a transaction. -/
def Settled : Prop := t.depth = 0 → t.buffer = []

theorem flushTransaction_buffer : t.flushTransaction.buffer = [] := by
  unfold flushTransaction
  split
  next empty =>
    exact length_eq_zero_iff.mp empty
  · rfl

theorem flushTransaction_text : t.flushTransaction.text = t.text := by
  unfold flushTransaction
  split
  · rfl
  · simp [text, enqueueWrite]

theorem appendToTransaction_text (data : List Char) :
    (t.appendToTransaction data).text = t.text ++ data := by
  have held : text { t with
      buffer := t.buffer ++ [data]
      bytes := t.bytes + stringLength data } = t.text ++ data := by
    simp [text]
  unfold appendToTransaction
  dsimp only
  split
  · rw [flushTransaction_text, held]
  · exact held

/-- A message adds its text behind what was written and held back before, and nothing is held back
outside a transaction. -/
theorem onMessage_settled {t : Transaction} (settled : t.Settled) (event : SessionClientEvent) :
    (t.onMessage event).Settled ∧ (t.onMessage event).text = t.text ++ outputs [event] := by
  cases event
  case output data =>
    have single : outputs [.output data] = data := by simp [outputs]
    rw [single]
    simp only [onMessage]
    split
    next inside =>
      refine ⟨fun outside => ?_, appendToTransaction_text t data⟩
      rw [appendToTransaction_depth] at outside
      exact absurd outside (Nat.ne_of_gt inside)
    next outside =>
      have empty : t.buffer = [] := settled (Nat.eq_zero_of_not_pos outside)
      exact ⟨settled, by simp [text, enqueueWrite, empty]⟩
  case resize cols rows =>
    simp only [onMessage]
    split
    · refine ⟨fun _ => flushTransaction_buffer t, ?_⟩
      exact (flushTransaction_text t).trans (append_nil t.text).symm
    · exact ⟨settled, (append_nil t.text).symm⟩
  case sessionExit => exact ⟨settled, (append_nil t.text).symm⟩
  case syncBegin | replayBegin => exact ⟨nofun, (append_nil t.text).symm⟩
  case syncEnd | replayEnd =>
    change t.endTransaction.Settled ∧ t.endTransaction.text = t.text ++ []
    rw [append_nil]
    unfold endTransaction
    split
    · exact ⟨settled, rfl⟩
    · dsimp only
      split
      · exact ⟨fun _ => flushTransaction_buffer _, flushTransaction_text _⟩
      next deeper =>
        exact ⟨fun outside => absurd outside deeper, rfl⟩

variable (messages : List SessionClientEvent)

theorem afterMessages_concat (event : SessionClientEvent) :
    afterMessages (messages ++ [event]) = (afterMessages messages).onMessage event :=
  foldl_concat _ _ _ _

theorem afterMessages_settled :
    (afterMessages messages).Settled ∧ (afterMessages messages).text = outputs messages := by
  induction messages using reverseRecOn with
  | nil => exact ⟨fun _ => rfl, rfl⟩
  | append_singleton messages event ih =>
    obtain ⟨settled, text⟩ := ih
    obtain ⟨settledNext, textNext⟩ := onMessage_settled settled event
    rw [afterMessages_concat, outputs_append, ← text]
    exact ⟨settledNext, textNext⟩

theorem shown_of_outside {messages : List SessionClientEvent}
    (outside : (afterMessages messages).depth = 0) :
    (afterMessages messages).buffer = [] ∧
      (afterMessages messages).written.flatten = outputs messages ∧
      ∀ data, ((afterMessages messages).onMessage (.output data)).written =
        (afterMessages messages).written ++ [data] := by
  obtain ⟨settled, shown⟩ := afterMessages_settled messages
  have empty := settled outside
  refine ⟨empty, ?_, fun data => ?_⟩
  · rw [← shown, text, empty, flatten_nil, append_nil]
  · rw [onMessage, if_neg (by rw [outside]; exact Nat.lt_irrefl 0)]
    rfl

end Transaction

/-! ### Statement -/

/-- The depth of the transaction of a client once it has taken all that was sent to it. -/
def ClientEndpoint.depth (client : ClientEndpoint) : Nat :=
  (Transaction.afterMessages client.tx.sent).depth

section

variable {vte : Vte} {width : Char → Option Nat}

/-- The session is not in synchronized mode, and no mark is still to be sent to the client. -/
def Idle (world : World vte.Parser) (client : Nat) : Prop :=
  world.shared.sync.active = false ∧ ∀ (index : Nat) ops, world.threads[index]? = some ops →
    .enqueueControl .syncEnd ∉ ops ∧ .send client .replayEnd ∉ ops

/-- No client that has taken all its messages while the session is idle for it is inside a
transaction. -/
def Unwedged (world : World vte.Parser) : Prop :=
  ∀ client ∈ world.shared.clients, client.tx.closed = false → client.tx.Drained →
    Idle world client.id → let t := Transaction.afterMessages client.tx.received
      t.depth = 0 ∧ t.buffer = [] ∧ t.written.flatten = outputs client.tx.received ∧
        ∀ data, (t.onMessage (.output data)).written = t.written ++ [data]

/-- A mark that closes the synchronized output is still to be sent, for a mark that was offered to
the clients. -/
def SyncOwed (world : World vte.Parser) : Prop :=
  (∃ (index : Nat) (ops : _), world.threads[index]? = some ops ∧ .enqueueControl .syncEnd ∈ ops) ∨
    world.shared.sync.active = true ∧ ∀ (index : Nat) ops, world.threads[index]? = some ops →
      .enqueueControl .syncBegin ∉ ops

/-- A mark that closes the synchronized output finds room in the channel of every client that is
inside a transaction; one that closes a replay finds room too, unless the client has no transaction
open but that of a synchronized output that is still to be closed. -/
def Delivered (world : World vte.Parser) : Input → Prop
  | .run thread _ =>
      match world.threads[thread]? with
      | some (.enqueueControl .syncEnd :: _) => ∀ client ∈ world.shared.clients,
          client.tx.closed = false → client.depth = 0 ∨ client.tx.HasRoom
      | some (.send id .replayEnd :: _) => ∀ client ∈ world.shared.clients, client.id = id →
          client.tx.closed = false →
            client.depth = 0 ∨ client.depth = 1 ∧ SyncOwed world ∨ client.tx.HasRoom
      | _ => True
  | _ => True

/-! ### The marks that a thread still has to send -/

variable {ops : List Action}

theorem sync_marks {phase : SyncPhase} (phased : (syncLock vte.Parser).phase ops = some phase) :
    (.enqueueControl .syncEnd ∈ ops ↔ phase = .closing) ∧
      (.enqueueControl .syncBegin ∈ ops ↔ phase = .opening) := by
  induction ops generalizing phase with
  | nil =>
    cases phased
    exact ⟨iff_of_false (nofun) nofun, iff_of_false (nofun) nofun⟩
  | cons action rest ih =>
    obtain ⟨after, restPhase, head⟩ := bind_eq_some_iff.mp phased
    change syncBefore action after = some phase at head
    obtain ⟨ends, begins⟩ := ih restPhase
    rw [mem_cons, mem_cons, ends, begins]
    cases action
    case enqueueControl event => cases event <;> cases after <;> cases head <;> simp
    all_goals cases after <;> cases head <;> simp

variable {client : Nat}

/-- A thread inside a replay still has to send the mark that closes it. -/
theorem replaying_mem (phased : (clientsLock vte.Parser).phase ops = some (.replaying client)) :
    .send client .replayEnd ∈ ops := by
  induction ops with
  | nil => cases phased
  | cons action rest ih =>
    obtain ⟨after, restPhase, head⟩ := bind_eq_some_iff.mp phased
    change clientsBefore action after = some (.replaying client) at head
    cases action
    case send id event =>
      cases event <;> cases after <;> simp only [clientsBefore] at head
      case output.replaying =>
        split at head
        next same =>
          cases head
          rw [← same] at restPhase
          exact mem_cons_of_mem _ (ih restPhase)
        · cases head
      case replayBegin.replaying => split at head <;> cases head
      case replayEnd.held =>
        cases head
        exact mem_cons_self
      all_goals cases head
    all_goals cases after <;> cases head

/-- A thread goes on with what is left to it, unless it stops outside both locks. -/
theorem exec_suffix {me : Nat} {choice : Choice} {action : Action} {rest : List Action}
    {session next : Session vte.Parser}
    (done : exec vte width me choice action rest session = some (next, ops)) :
    rest <:+ ops ∨ ops = [] ∧ action.Outside := by
  cases action
  case flushFrom combined start =>
    simp only [exec] at done
    split at done
    · obtain ⟨chunk, -, done⟩ := bind_eq_some_iff.mp done
      cases done
      exact .inl (suffix_append _ _)
    · cases done
      exact .inl (suffix_refl _)
  case feed data =>
    obtain ⟨⟨screen, res⟩, -, done⟩ := map_eq_some_iff.mp done
    cases done
    exact .inl ((suffix_cons _ _).trans (suffix_append _ _))
  case receiveBatch held =>
    simp only [exec] at done
    split at done
    · split at done
      · cases done
        split
        · exact .inr ⟨rfl, rfl, rfl⟩
        · exact .inl (((suffix_cons _ _).trans (suffix_append _ _)).trans
            (suffix_cons _ _))
      · cases done
    · cases done
      split
      · exact .inr ⟨rfl, rfl, rfl⟩
      · exact .inl ((suffix_cons _ _).trans (suffix_cons _ _))
    · cases done
  case resizeScreen cols rows =>
    obtain ⟨screen, -, done⟩ := map_eq_some_iff.mp done
    cases done
    exact .inl (suffix_refl _)
  all_goals
    simp only [exec] at done
    repeat' split at done
  all_goals cases done
  all_goals first
    | exact .inl (suffix_refl _)
    | exact .inl (suffix_cons _ _)
    | exact .inl (suffix_append _ _)
    | exact .inl ((suffix_cons _ _).trans (suffix_cons _ _))
    | exact .inr ⟨rfl, rfl, rfl⟩

/-- Only a change of the mode turns it on or off or has a mark to send that opens it. -/
theorem exec_mode {me : Nat} {choice : Choice} {action : Action} {rest : List Action}
    {session next : Session vte.Parser}
    (done : exec vte width me choice action rest session = some (next, ops))
    (other : ∀ active, action ≠ .setSyncMode active) :
    next.sync.active = session.sync.active ∧
      (.enqueueControl .syncBegin ∈ ops → .enqueueControl .syncBegin ∈ rest) := by
  refine ⟨(exec_frame done).active other, fun mem => ?_⟩
  have pushes : Pushes (· ≠ .enqueueControl .syncBegin) rest ops := by
    refine exec_pushes done ?_
    cases action
    case setSyncMode active => exact absurd rfl (other active)
    all_goals simp [Action.PushesOnly]
  by_contra none
  exact pushes.forall (fun _ other => other) (fun _ old equal => none (equal ▸ old)) _ mem rfl

/-! ### The invariant -/

/-- A thread is inside a replay to the client. -/
def ReplayOwed (world : World vte.Parser) (client : Nat) : Prop :=
  ∃ (index : Nat) (ops : _), world.threads[index]? = some ops ∧
    (clientsLock vte.Parser).phase ops = some (.replaying client)

/-- Every level of a transaction is accounted for by a mark that is still to be sent. -/
def Covered (world : World vte.Parser) (client : Nat) : Nat → Prop
  | 0 => True
  | 1 => SyncOwed world ∨ ReplayOwed world client
  | 2 => SyncOwed world ∧ ReplayOwed world client
  | _ => False

/-- Where the transactions of the clients stand. -/
structure Balanced (world : World vte.Parser) : Prop where
  locked : Locked world
  opening : world.Stands fun _ session ops =>
    .enqueueControl .syncBegin ∈ ops → session.sync.active = true
  covered : ∀ client ∈ world.shared.clients, client.tx.closed = false →
    Covered world client.id client.depth

/-- The transactions of all clients are accounted for. -/
def AllCovered (world : World vte.Parser) : Prop :=
  ∀ client ∈ world.shared.clients, client.tx.closed = false → Covered world client.id client.depth

variable {depth : Nat}

section

variable {world : World vte.Parser} (covered : Covered world client depth)
include covered

variable {next : World vte.Parser}

theorem Covered.mono (sync : SyncOwed world → SyncOwed next)
    (replay : ReplayOwed world client → ReplayOwed next client) : Covered next client depth := by
  match depth, covered with
  | 0, _ => trivial
  | 1, covered => exact covered.imp sync replay
  | 2, covered => exact covered.imp sync replay

theorem Covered.le {other : Nat} (less : other ≤ depth) : Covered world client other := by
  match depth, other, covered with
  | _, 0, _ => trivial
  | 1, 1, covered => exact covered
  | 2, 1, covered => exact .inl covered.1
  | 2, 2, covered => exact covered
  | 0, _ + 1, _ => exact absurd less (Nat.not_succ_le_zero _)
  | 1, _ + 2, _ => exact absurd less (by omega)
  | 2, _ + 3, _ => exact absurd less (by omega)

theorem Covered.eq_zero (sync : ¬ SyncOwed world) (replay : ¬ ReplayOwed world client) :
    depth = 0 := by
  match depth, covered with
  | 0, _ => rfl
  | 1, covered => exact absurd covered (not_or.mpr ⟨sync, replay⟩)
  | 2, covered => exact absurd covered.1 sync

theorem Covered.begin_sync (before : ¬ SyncOwed world)
    (after : SyncOwed next) (replay : ReplayOwed world client → ReplayOwed next client) :
    Covered next client (depth + 1) := by
  match depth, covered with
  | 0, _ => exact .inl after
  | 1, covered => exact ⟨after, replay (covered.resolve_left before)⟩
  | 2, covered => exact absurd covered.1 before

theorem Covered.begin_replay (before : ¬ ReplayOwed world client)
    (after : ReplayOwed next client) (sync : SyncOwed world → SyncOwed next) :
    Covered next client (depth + 1) := by
  match depth, covered with
  | 0, _ => exact .inr after
  | 1, covered => exact ⟨sync (covered.resolve_right before), after⟩
  | 2, covered => exact absurd covered.2 before

theorem Covered.end_replay (sync : SyncOwed world → SyncOwed next) :
    Covered next client (depth - 1) := by
  match depth, covered with
  | 0, _ | 1, _ => trivial
  | 2, covered => exact .inl (sync covered.1)

end

theorem unwedged_of {world : World vte.Parser} (balanced : Balanced world) : Unwedged world := by
  intro client mem isOpen drained ⟨inactive, unpending⟩
  have noSync : ¬ SyncOwed world := by
    rintro (⟨index, ops, held, pending⟩ | ⟨active, -⟩)
    · exact (unpending index ops held).1 pending
    · rw [inactive] at active
      exact nomatch active
  have noReplay : ¬ ReplayOwed world client.id := by
    rintro ⟨index, ops, held, phased⟩
    exact (unpending index ops held).2 (replaying_mem phased)
  have outside := (balanced.covered client mem isOpen).eq_zero noSync noReplay
  dsimp only
  rw [received_of_drained drained]
  exact ⟨outside, Transaction.shown_of_outside outside⟩

/-! ### A step of a thread -/

section

variable {world next : World vte.Parser} {index : Nat} {choice : Choice} {action : Action}
  {rest ops : List Action}

/-- A thread stays inside a replay until it sends the mark that closes it. -/
theorem replayOwed_mono (turn : Turn (exec vte width) index choice action rest ops world next)
    (other : action ≠ .send client .replayEnd) (owed : ReplayOwed world client) :
    ReplayOwed next client := by
  have ⟨present, ran, ownNext, same⟩ := turn
  obtain ⟨thread, threadOps, threadPresent, phased⟩ := owed
  by_cases own : thread = index
  · subst own
    rw [present] at threadPresent
    cases threadPresent
    obtain ⟨after, restPhase, head⟩ := bind_eq_some_iff.mp phased
    change clientsBefore action after = some (.replaying client) at head
    cases action
    case send id event =>
      obtain ⟨-, rfl⟩ := Prod.mk.inj (some.inj ran)
      cases event <;> cases after <;> simp only [clientsBefore] at head
      case output.replaying =>
        split at head
        next matching =>
          cases head
          rw [← matching] at restPhase
          exact ⟨thread, _, ownNext, restPhase⟩
        · cases head
      case replayBegin.replaying => split at head <;> cases head
      case replayEnd.held =>
        cases head
        exact absurd rfl other
      all_goals cases head
    all_goals cases after <;> cases head
  · exact ⟨thread, threadOps, by rw [same thread own]; exact threadPresent, phased⟩

/-- The mark that closes the synchronized output is owed until it is sent. -/
theorem syncOwed_mono (locked : Locked world)
    (turn : Turn (exec vte width) index choice action rest ops world next)
    (other : action ≠ .enqueueControl .syncEnd) (owed : SyncOwed world) : SyncOwed next := by
  have ⟨held, ran, ownNext, same⟩ := turn
  rcases owed with ⟨thread, threadOps, threadPresent, pending⟩ | ⟨active, unpending⟩
  · by_cases own : thread = index
    · subst own
      rw [held] at threadPresent
      cases threadPresent
      obtain ⟨phase, phased, -⟩ := locked.sync.guards thread _ held
      have closing := (sync_marks phased).1.mp pending
      have later := (mem_cons.mp pending).resolve_left (Ne.symm other)
      rcases exec_suffix ran with suffix | ⟨-, outside⟩
      · exact .inl ⟨thread, ops, ownNext, suffix.subset later⟩
      · obtain ⟨after, -, head⟩ := bind_eq_some_iff.mp phased
        have free : phase = .free := outside.free head
        exact nomatch free.symm.trans closing
    · exact .inl ⟨thread, threadOps, by rw [same thread own]; exact threadPresent, pending⟩
  · by_cases changes : ∃ mode, action = .setSyncMode mode
    · obtain ⟨mode, rfl⟩ := changes
      simp only [exec] at ran
      split at ran
      · cases ran
      · split at ran
        · obtain ⟨sharedNext, rfl⟩ := Prod.mk.inj (some.inj ran)
          refine .inr ⟨sharedNext ▸ active, fun thread threadOps presentNext => ?_⟩
          rcases after_cases ownNext same presentNext with ⟨-, rfl⟩ | ⟨-, before⟩
          · exact fun pending =>
              unpending index _ held (mem_cons_of_mem _ pending)
          · exact unpending thread threadOps before
        next differs =>
          obtain ⟨-, rfl⟩ := Prod.mk.inj (some.inj ran)
          cases mode
          · exact .inl ⟨index, _, ownNext, by simp⟩
          · exact absurd active differs
    · obtain ⟨kept, begins⟩ := exec_mode ran fun mode equal => changes ⟨mode, equal⟩
      refine .inr ⟨kept.trans active, fun thread threadOps presentNext => ?_⟩
      rcases after_cases ownNext same presentNext with ⟨-, rfl⟩ | ⟨-, before⟩
      · exact fun pending =>
          unpending index _ held (mem_cons_of_mem _ (begins pending))
      · exact unpending thread threadOps before

theorem opening_step (balanced : Balanced world)
    (turn : Turn (exec vte width) index choice action rest ops world next) :
    next.Stands fun _ session ops =>
      .enqueueControl .syncBegin ∈ ops → session.sync.active = true := by
  have ⟨held, ran, ownNext, same⟩ := turn
  intro thread threadOps presentNext pending
  by_cases changes : ∃ mode, action = .setSyncMode mode
  · obtain ⟨mode, rfl⟩ := changes
    simp only [exec] at ran
    split at ran
    · cases ran
    next unheld =>
      have unpending (other : Nat) (others : List Action)
          (before : world.threads[other]? = some others) :
          .enqueueControl .syncBegin ∉ others := by
        have free := (balanced.locked.sync.guards other others before).free_of_unheld
          (not_isSome_iff_eq_none.mp unheld)
        rw [(sync_marks free).2]
        exact nofun
      rcases after_cases ownNext same presentNext with ⟨-, rfl⟩ | ⟨-, before⟩
      · split at ran
        · obtain ⟨-, rfl⟩ := Prod.mk.inj (some.inj ran)
          exact absurd (mem_cons_of_mem _ pending) (unpending index _ held)
        · obtain ⟨sharedNext, rfl⟩ := Prod.mk.inj (some.inj ran)
          rw [← sharedNext]
          cases mode
          · have later : .enqueueControl .syncBegin ∈ rest := by simpa using pending
            exact absurd (mem_cons_of_mem _ later) (unpending index _ held)
          · rfl
      · exact absurd pending (unpending thread threadOps before)
  · obtain ⟨kept, begins⟩ := exec_mode ran fun mode equal => changes ⟨mode, equal⟩
    rw [kept]
    rcases after_cases ownNext same presentNext with ⟨-, rfl⟩ | ⟨-, before⟩
    · exact balanced.opening index _ held (mem_cons_of_mem _ (begins pending))
    · exact balanced.opening thread threadOps before pending

theorem onClient_depth (action : Action) (client : ClientEndpoint) :
    (action.onClient client).depth = client.depth ∧
        (∀ event, action.Sends client event → ¬ client.tx.HasRoom) ∨
      ∃ event, action.Sends client event ∧ (action.onClient client).depth =
        ((Transaction.afterMessages client.tx.sent).onMessage event).depth := by
  unfold ClientEndpoint.depth
  rcases onClient_tx action client with ⟨still, sends⟩ | ⟨event, sends, sent⟩
  · rw [still]
    exact .inl ⟨rfl, fun event sent => absurd sent (sends event)⟩
  · rw [sent]
    rcases client.tx.trySend_cases event with ⟨-, taken, -⟩ | ⟨full, refused, -⟩
    · rw [taken, Transaction.afterMessages_concat]
      exact .inr ⟨event, sends, rfl⟩
    · rw [refused]
      exact .inl ⟨rfl, fun _ _ => full⟩

theorem covered_of_carried (balanced : Balanced world)
    (ran : exec vte width index choice action rest world.shared = some (next.shared, ops))
    (each : ∀ client ∈ world.shared.clients, client.tx.closed = false →
      Covered world client.id client.depth →
        Covered next client.id (action.onClient client).depth) : AllCovered next := by
  obtain ⟨kept, sublist, clients, -⟩ := exec_carried ran
  intro client mem isOpen
  rw [clients] at mem
  obtain ⟨old, oldMember, rfl⟩ := mem_map.mp mem
  have before := sublist.subset oldMember
  have oldOpen : old.tx.closed = false := by
    rcases onClient_tx action old with ⟨still, -⟩ | ⟨event, -, sent⟩
    · rw [still] at isOpen
      exact isOpen
    · rw [sent, trySend_closed] at isOpen
      exact isOpen
  rw [onClient_id]
  exact each old before oldOpen (balanced.covered old before oldOpen)

theorem covered_quiet (balanced : Balanced world)
    (turn : Turn (exec vte width) index choice action rest ops world next)
    (quiet : ∀ client event, action.Sends client event → ¬ Transaction.IsBegin event)
    (noSync : action ≠ .enqueueControl .syncEnd)
    (noReplay : ∀ id, action ≠ .send id .replayEnd) : AllCovered next := by
  have ⟨held, ran, ownNext, same⟩ := turn
  refine covered_of_carried balanced ran fun client _ _ covered => ?_
  refine (covered.mono (syncOwed_mono balanced.locked turn noSync)
    (replayOwed_mono turn (noReplay _))).le ?_
  rcases onClient_depth action client with ⟨still, -⟩ | ⟨event, sends, deeper⟩
  · exact Nat.le_of_eq still
  · rw [deeper]
    exact Transaction.onMessage_depth_of_not_begin _ (quiet client event sends)

theorem not_replayOwed (locked : Locked world) (unheld : world.shared.clientsHolder = none)
    (client : Nat) : ¬ ReplayOwed world client := by
  rintro ⟨thread, threadOps, threadPresent, phased⟩
  have free := (locked.clients.guards thread threadOps threadPresent).free_of_unheld unheld
  rw [free] at phased
  exact nomatch some.inj phased

section

variable (balanced : Balanced world)
include balanced

theorem covered_syncBegin
    (turn : Turn (exec vte width) index choice (.enqueueControl .syncBegin) rest ops world next) :
    AllCovered next := by
  have ⟨present, ran, ownNext, same⟩ := turn
  have pending : .enqueueControl .syncBegin ∈
      Action.enqueueControl .syncBegin :: rest := mem_cons_self
  obtain ⟨phase, phased, -⟩ := balanced.locked.sync.guards index _ present
  obtain rfl := (sync_marks phased).2.mp pending
  obtain ⟨after, restPhase, head⟩ := bind_eq_some_iff.mp phased
  obtain rfl : after = .held := by
    cases after <;> cases head
    rfl
  have alone (thread : Nat) (threadOps : List Action) (other : SyncPhase)
      (threadPresent : world.threads[thread]? = some threadOps)
      (threadPhased : (syncLock vte.Parser).phase threadOps = some other)
      (busy : other ≠ .free) : thread = index :=
    Lock.exclusive balanced.locked.sync.guards threadPresent present threadPhased busy phased nofun
  have notOwed : ¬ SyncOwed world := by
    rintro (⟨thread, threadOps, threadPresent, closing⟩ | ⟨-, unpending⟩)
    · obtain ⟨other, threadPhased, -⟩ := balanced.locked.sync.guards thread threadOps threadPresent
      obtain rfl := (sync_marks threadPhased).1.mp closing
      obtain rfl := alone thread threadOps .closing threadPresent threadPhased nofun
      rw [present] at threadPresent
      cases threadPresent
      exact nomatch some.inj (phased.symm.trans threadPhased)
    · exact unpending index _ present pending
  have opsRest : ops = rest ∧ next.shared.sync = world.shared.sync := by
    simp only [exec] at ran
    split at ran
    · cases ran
    · obtain ⟨sharedNext, rfl⟩ := Prod.mk.inj (some.inj ran)
      exact ⟨rfl, by rw [← sharedNext]⟩
  obtain ⟨rfl, syncSame⟩ := opsRest
  have owed : SyncOwed next := by
    refine .inr ⟨?_, fun thread threadOps presentNext => ?_⟩
    · rw [syncSame]
      exact balanced.opening index _ present pending
    · rcases after_cases ownNext same presentNext with ⟨-, rfl⟩ | ⟨away, before⟩
      · rw [(sync_marks restPhase).2]
        exact nofun
      · intro opening
        obtain ⟨other, threadPhased, -⟩ := balanced.locked.sync.guards thread threadOps before
        obtain rfl := (sync_marks threadPhased).2.mp opening
        exact away (alone thread threadOps .opening before threadPhased nofun)
  refine covered_of_carried balanced ran fun client _ _ covered => ?_
  have deeper := covered.begin_sync notOwed owed
    (replayOwed_mono turn nofun)
  rcases onClient_depth (.enqueueControl .syncBegin) client with ⟨still, -⟩ | ⟨event, -, deep⟩
  · rw [still]
    exact deeper.le (Nat.le_succ _)
  · rw [deep]
    exact deeper.le (Transaction.onMessage_depth_le _ event)

theorem covered_syncEnd
    (ran : exec vte width index choice (.enqueueControl .syncEnd) rest world.shared =
      some (next.shared, ops))
    (delivered : ∀ client ∈ world.shared.clients, client.tx.closed = false →
      client.depth = 0 ∨ client.tx.HasRoom) :
    AllCovered next := by
  have unheld : world.shared.clientsHolder = none := by
    simp only [exec] at ran
    split at ran
    · cases ran
    next unheld =>
      exact not_isSome_iff_eq_none.mp unheld
  refine covered_of_carried balanced ran fun client mem isOpen covered => ?_
  have shallow : client.depth ≤ 1 := by
    have outside := not_replayOwed balanced.locked unheld client.id
    match client.depth, covered with
    | 0, _ => exact Nat.zero_le 1
    | 1, _ => exact Nat.le_refl 1
    | 2, covered => exact absurd covered.2 outside
  suffices closed : ((Action.enqueueControl .syncEnd).onClient client).depth = 0 by
    rw [closed]
    trivial
  rcases onClient_depth (.enqueueControl .syncEnd) client with
    ⟨still, full⟩ | ⟨event, rfl, deep⟩
  · rw [still]
    exact (delivered client mem isOpen).resolve_right (full .syncEnd rfl)
  · rw [deep, Transaction.onMessage_depth_of_end _ (show Transaction.IsEnd .syncEnd from trivial)]
    exact Nat.sub_eq_zero_of_le shallow

theorem covered_replayBegin {id cols rows : Nat}
    (turn : Turn (exec vte width) index choice (.send id (.replayBegin cols rows)) rest ops world
      next) : AllCovered next := by
  have ⟨present, ran, ownNext, same⟩ := turn
  obtain ⟨phase, phased, -⟩ := balanced.locked.clients.guards index _ present
  obtain ⟨after, restPhase, head⟩ := bind_eq_some_iff.mp phased
  obtain ⟨rfl, rfl⟩ : after = .replaying id ∧ phase = .held := by
    cases after <;> simp only [clientsLock_before, clientsBefore] at head
    case replaying other =>
      split at head
      next matching =>
        cases head
        exact ⟨by rw [matching], rfl⟩
      · cases head
    all_goals cases head
  have notOwed (client : Nat) : ¬ ReplayOwed world client := by
    rintro ⟨thread, threadOps, threadPresent, threadPhased⟩
    obtain rfl := Lock.exclusive balanced.locked.clients.guards threadPresent present threadPhased
      nofun phased nofun
    rw [present] at threadPresent
    cases threadPresent
    exact nomatch some.inj (phased.symm.trans threadPhased)
  have syncMono := syncOwed_mono balanced.locked turn nofun
  obtain rfl : ops = rest := (Prod.mk.inj (some.inj ran)).2.symm
  have owed : ReplayOwed next id := ⟨index, _, ownNext, restPhase⟩
  refine covered_of_carried balanced ran fun client _ _ covered => ?_
  rcases onClient_depth (.send id (.replayBegin cols rows)) client with
    ⟨still, -⟩ | ⟨event, ⟨target, -⟩, deep⟩
  · rw [still]
    exact covered.mono syncMono fun impossible => absurd impossible (notOwed _)
  · rw [deep]
    rw [← target] at owed
    exact (covered.begin_replay (notOwed _) owed syncMono).le
      (Transaction.onMessage_depth_le _ event)

theorem covered_replayEnd {id : Nat}
    (turn : Turn (exec vte width) index choice (.send id .replayEnd) rest ops world next)
    (delivered : ∀ client ∈ world.shared.clients, client.id = id → client.tx.closed = false →
      client.depth = 0 ∨ client.depth = 1 ∧ SyncOwed world ∨ client.tx.HasRoom) :
    AllCovered next := by
  have ⟨held, ran, ownNext, same⟩ := turn
  have syncMono := syncOwed_mono balanced.locked turn nofun
  refine covered_of_carried balanced ran fun client mem isOpen covered => ?_
  rcases onClient_depth (.send id .replayEnd) client with
    ⟨still, full⟩ | ⟨event, ⟨-, rfl⟩, deep⟩
  · rw [still]
    by_cases target : client.id = id
    · rcases delivered client mem target isOpen with outside | ⟨single, owed⟩ | room
      · rw [outside]
        trivial
      · rw [single]
        exact .inl (syncMono owed)
      · exact absurd room (full .replayEnd ⟨target, rfl⟩)
    · refine covered.mono syncMono (replayOwed_mono turn ?_)
      rintro ⟨⟩
      exact target rfl
  · rw [deep, Transaction.onMessage_depth_of_end _ (show Transaction.IsEnd .replayEnd from trivial)]
    exact covered.end_replay syncMono

theorem covered_exec (delivered : Delivered world (.run index choice))
    (turn : Turn (exec vte width) index choice action rest ops world next) : AllCovered next := by
  have ⟨held, ran, ownNext, same⟩ := turn
  have sync := balanced.locked.sync.guards index _ held
  have clients := balanced.locked.clients.guards index _ held
  simp only [Delivered, held] at delivered
  cases action
  case enqueueControl event =>
    obtain ⟨phase, phased, -⟩ := sync
    obtain ⟨after, -, head⟩ := bind_eq_some_iff.mp phased
    cases event
    case syncBegin => exact covered_syncBegin balanced turn
    case syncEnd => exact covered_syncEnd balanced ran delivered
    case sessionExit =>
      refine covered_quiet balanced turn ?_ nofun nofun
      rintro client event rfl
      exact id
    all_goals cases after <;> cases head
  case send id event =>
    obtain ⟨phase, phased, -⟩ := clients
    obtain ⟨after, -, head⟩ := bind_eq_some_iff.mp phased
    cases event
    case replayBegin => exact covered_replayBegin balanced turn
    case replayEnd => exact covered_replayEnd balanced turn delivered
    case output =>
      refine covered_quiet balanced turn ?_ nofun nofun
      rintro client event ⟨-, rfl⟩
      exact nofun
    all_goals cases after <;> cases head
  case sendChunk | broadcastResize =>
    refine covered_quiet balanced turn ?_ nofun nofun
    rintro client event ⟨-, rfl⟩
    exact id
  all_goals
    refine covered_quiet balanced turn ?_ nofun nofun
    exact fun _ _ sends => sends.elim

end

end

/-! ### Runs -/

/-- The threads and the mode are all that the marks to come depend on, and a client that sends
nothing new keeps its depth. -/
theorem Balanced.congr {world next : World vte.Parser} (balanced : Balanced world)
    (threads : next.threads = world.threads) (sync : next.shared.sync = world.shared.sync)
    (syncHolder : next.shared.syncHolder = world.shared.syncHolder)
    (clientsHolder : next.shared.clientsHolder = world.shared.clientsHolder)
    (clients : ∀ client ∈ next.shared.clients, client.tx.closed = false →
      client.depth = 0 ∨ ∃ old ∈ world.shared.clients, old.tx.closed = false ∧
        old.id = client.id ∧ old.tx.sent = client.tx.sent) : Balanced next := by
  refine ⟨balanced.locked.congr threads syncHolder clientsHolder, ?_, ?_⟩
  · intro index ops held
    rw [threads] at held
    rw [sync]
    exact balanced.opening index ops held
  · intro client mem isOpen
    rcases clients client mem isOpen with outside | ⟨old, oldMember, oldOpen, sameId, sent⟩
    · rw [outside]
      trivial
    · have covered := balanced.covered old oldMember oldOpen
      rw [ClientEndpoint.depth, ← sent, ← sameId]
      refine covered.mono ?_ ?_
      · unfold SyncOwed
        rw [threads, sync]
        exact id
      · unfold ReplayOwed
        rw [threads]
        exact id

theorem balanced_call {world : World vte.Parser} (balanced : Balanced world) (call : Call)
    (locked : Locked (world.spawn call.program)) : Balanced (world.spawn call.program) := by
  have unpending (thread : Nat) (ops : List Action)
      (held : (world.spawn call.program).threads[thread]? = some ops) :
      world.threads[thread]? = some ops ∨ .enqueueControl .syncBegin ∉ ops := by
    rcases spawn_cases held with before | ⟨-, rfl⟩
    · exact .inl before
    · exact .inr fun pending => nomatch (program_outside call _ pending).1
  refine ⟨locked, fun thread ops held pending => ?_, fun client mem isOpen => ?_⟩
  · exact balanced.opening thread ops ((unpending thread ops held).resolve_right
      (not_not.mpr pending)) pending
  · refine (balanced.covered client mem isOpen).mono ?_ ?_
    · rintro (⟨thread, ops, held, pending⟩ | ⟨active, before⟩)
      · exact .inl ⟨thread, ops, spawn_kept _ held, pending⟩
      · refine .inr ⟨active, fun thread ops held => ?_⟩
        exact (unpending thread ops held).elim (before thread ops) id
    · rintro ⟨thread, ops, held, phased⟩
      exact ⟨thread, ops, spawn_kept _ held, phased⟩

theorem balanced_step {world next : World vte.Parser} {input : Input}
    (balanced : Balanced world) (delivered : Delivered world input)
    (done : step vte width world input = some next) : Balanced next := by
  cases input with
  | run thread choice =>
    obtain ⟨action, rest, ops, turn⟩ := step_cases done
    exact ⟨locked_step balanced.locked done, opening_step balanced turn,
      covered_exec balanced delivered turn⟩
  | call call =>
    obtain rfl := some.inj done
    exact balanced_call balanced call (locked_step balanced.locked done)
  | addClient =>
    obtain ⟨session, changed, rfl⟩ := map_eq_some_iff.mp done
    obtain rfl := changeClients_eq_some changed
    refine balanced.congr rfl rfl rfl rfl fun client mem isOpen => ?_
    rcases mem_append.mp mem with old | new
    · exact .inr ⟨client, old, isOpen, rfl, rfl⟩
    · obtain rfl := mem_singleton.mp new
      exact .inl rfl
  | removeClient id =>
    obtain ⟨session, changed, rfl⟩ := map_eq_some_iff.mp done
    obtain rfl := changeClients_eq_some changed
    exact balanced.congr rfl rfl rfl rfl fun client mem isOpen =>
      .inr ⟨client, mem_of_mem_filter mem, isOpen, rfl, rfl⟩
  | receive id =>
    cases done
    refine balanced.congr rfl rfl rfl rfl fun client mem isOpen => ?_
    obtain ⟨old, oldMember, rfl⟩ := mem_map.mp mem
    split at isOpen
    · exact .inr ⟨old, oldMember, isOpen, by split <;> rfl, by split <;> rfl⟩
    · exact .inr ⟨old, oldMember, isOpen, by split <;> rfl, by split <;> rfl⟩
  | hangUp id =>
    cases done
    refine balanced.congr rfl rfl rfl rfl fun client mem isOpen => ?_
    obtain ⟨old, oldMember, rfl⟩ := mem_map.mp mem
    split at isOpen
    · exact nomatch isOpen
    · exact .inr ⟨old, oldMember, isOpen, by split <;> rfl, by split <;> rfl⟩

theorem balanced_new (cols rows : Nat) : Balanced (World.new vte cols rows) := by
  refine ⟨locked_new cols rows, ?_, nofun⟩
  intro index ops held pending
  have mem := mem_of_getElem? held
  rw [World.new, mem_cons, mem_singleton] at mem
  rcases mem with rfl | rfl
  all_goals exact nomatch mem_singleton.mp pending

/-- In every interleaving whose steps all meet the condition, no client is wedged. -/
theorem transaction_never_wedges (vte : Vte) (width : Char → Option Nat) (cols rows : Nat)
    (inputs : List Input)
    (delivered : Fallible.Meets (step vte width) Delivered (World.new vte cols rows) inputs)
    {final : World vte.Parser}
    (reached : Fallible.run (step vte width) (World.new vte cols rows) inputs = some final) :
    Unwedged final :=
  unwedged_of (run_invariant
    (fun _ _ _ balanced delivered done => balanced_step balanced delivered done)
    (balanced_new cols rows) delivered reached)

end

/-! ### A client that drains in time -/

theorem delivered_of_room {world : World smallVte.Parser} (input : Input)
    (room : ∀ client ∈ world.shared.clients, client.tx.HasRoom) : Delivered world input := by
  unfold Delivered
  split
  · split
    · exact fun client mem _ => .inr (room client mem)
    · exact fun client mem _ _ => .inr (.inr (room client mem))
    · trivial
  · trivial

/-- One synchronized update, by two calls whose threads are the next ones. -/
def updateInputs (thread : Nat) : List Input :=
  .call (.setSyncMode true) :: List.replicate 3 (.run thread .proceed) ++
    .call (.setSyncMode false) :: List.replicate 4 (.run (thread + 1) .proceed)

theorem transaction_never_wedges_update :
    ∃ final, Fallible.run (step smallVte smallWidth) (World.new smallVte 2 1)
      (.addClient :: updateInputs 2 ++ [.receive 0, .receive 0]) = some final ∧ Unwedged final := by
  have reached : (Fallible.run (step smallVte smallWidth) (World.new smallVte 2 1)
      (.addClient :: updateInputs 2 ++ [.receive 0, .receive 0])).isSome = true := by
    decide +kernel
  obtain ⟨final, done⟩ := isSome_iff_exists.mp reached
  refine ⟨final, done, transaction_never_wedges smallVte smallWidth 2 1 _ ?_ done⟩
  iterate 12
    refine ⟨delivered_of_room _ (by decide +kernel), fun next taken => ?_⟩
    cases taken
  trivial

/-! ### A client that is wedged -/

section

variable {session : Session smallVte.Parser} {threads : List (List Action)}

theorem openSync_run (inactive : session.sync = ⟨false, [], 0⟩)
    (unlocked : session.syncHolder = none) (unheld : session.clientsHolder = none) :
    run (step smallVte smallWidth) ⟨session, threads⟩
        (.call (.setSyncMode true) :: replicate 3 (.run threads.length .proceed)) =
      some ⟨{ session with
          sync := ⟨true, [], 0⟩
          clients := enqueueControl session.clients .syncBegin }, threads ++ [[]]⟩ := by
  have free : session.clientsHolder.isSome = false := by rw [unheld]; rfl
  simp [step, Call.program, spawn, step_newest, exec, replicate, inactive, free, unlocked]

theorem closeSync_run (active : session.sync = ⟨true, [], 0⟩)
    (unlocked : session.syncHolder = none) (unheld : session.clientsHolder = none) :
    run (step smallVte smallWidth) ⟨session, threads⟩
        (.call (.setSyncMode false) :: replicate 4 (.run threads.length .proceed)) =
      some ⟨{ session with
          sync := ⟨false, [], 0⟩
          clients := enqueueControl session.clients .syncEnd }, threads ++ [[]]⟩ := by
  have free : session.clientsHolder.isSome = false := by rw [unheld]; rfl
  simp [step, Call.program, spawn, step_newest, exec, replicate, active, free, unlocked]

theorem update_run (inactive : session.sync = ⟨false, [], 0⟩)
    (unlocked : session.syncHolder = none) (unheld : session.clientsHolder = none) :
    run (step smallVte smallWidth) ⟨session, threads⟩ (updateInputs threads.length) =
      some ⟨{ session with
          clients := enqueueControl (enqueueControl session.clients .syncBegin) .syncEnd },
        threads ++ [[], []]⟩ := by
  rw [updateInputs, run_append_of_some _ (openSync_run inactive unlocked unheld)]
  have next := @closeSync_run
    { session with
      sync := ⟨true, [], 0⟩
      clients := enqueueControl session.clients .syncBegin }
    (threads ++ [[]]) rfl unlocked unheld
  rw [length_append, length_singleton] at next
  rw [next, append_assoc, inactive]
  rfl

end

def updateMarks (count : Nat) : List SessionClientEvent :=
  (List.replicate count [.syncBegin, .syncEnd]).flatten

/-- A client that joined in the middle of an update, with the marks since waiting in its channel. -/
def crowded (count refused : Nat) (last : List SessionClientEvent) : World smallVte.Parser where
  shared := { (World.new smallVte 2 1).shared with
    clients := [⟨0, ⟨10240, false, .syncEnd :: updateMarks count ++ last, 0, refused⟩, true⟩]
    nextClientId := 1 }
  threads := [[.readPty], [.receiveBatch []]] ++ List.replicate (2 * count + 2 + 2 * refused) []

theorem updateMarks_succ (count : Nat) :
    updateMarks (count + 1) = updateMarks count ++ [.syncBegin, .syncEnd] := by
  rw [updateMarks, replicate_succ', flatten_concat, updateMarks]

@[simp] theorem updateMarks_length (count : Nat) : (updateMarks count).length = 2 * count := by
  induction count with
  | zero => rfl
  | succ count ih =>
    rw [updateMarks_succ, length_append, ih]
    rfl

/-- The client joins between the two marks of an update. -/
def joiningInputs : List Input :=
  .call (.setSyncMode true) :: List.replicate 3 (.run 2 .proceed) ++
    .addClient :: .call (.setSyncMode false) :: List.replicate 4 (.run 3 .proceed)

theorem joining_run :
    run (step smallVte smallWidth) (World.new smallVte 2 1) joiningInputs =
      some (crowded 0 0 []) := rfl

theorem enqueueControl_single {client : ClientEndpoint} (isOpen : client.tx.closed = false)
    (event : SessionClientEvent) :
    enqueueControl [client] event = [{ client with tx := client.tx.trySend event }] := by
  simp [enqueueControl, retainOpen, sendTo, isOpen]

variable {count : Nat}

/-- An update that ends in the state given, if the channel ends up as it does there. -/
theorem crowded_run {later refused : Nat} {last : List SessionClientEvent}
    (threads : 2 * count + 2 + 2 = 2 * later + 2 + 2 * refused) (channel : (trySend
        (trySend ⟨10240, false, .syncEnd :: updateMarks count, 0, 0⟩ .syncBegin)
        .syncEnd : Mailbox SessionClientEvent) =
      ⟨10240, false, .syncEnd :: updateMarks later ++ last, 0, refused⟩) :
    run (step smallVte smallWidth) (crowded count 0 []) (updateInputs (2 * count + 4)) =
      some (crowded later refused last) := by
  have length : (crowded count 0 []).threads.length = 2 * count + 4 := by
    rw [crowded, length_append, length_replicate]
    exact Nat.add_comm 2 _
  have updated := @update_run (crowded count 0 []).shared (crowded count 0 []).threads rfl rfl rfl
  rw [length] at updated
  refine updated.trans (congrArg some ?_)
  have clients : enqueueControl (enqueueControl (crowded count 0 []).shared.clients .syncBegin)
      .syncEnd = (crowded later refused last).shared.clients := by
    simp only [crowded, append_nil]
    rw [enqueueControl_single rfl, enqueueControl_single (trySend_closed _ _), channel]
  have finished : (crowded count 0 []).threads ++ [[], []] =
      (crowded later refused last).threads := by
    rw [crowded, crowded, append_assoc, ← threads, Nat.mul_zero, Nat.add_zero]
    refine congrArg _ ?_
    change replicate (2 * count + 2) [] ++ replicate 2 [] = _
    exact replicate_append_replicate
  rw [clients, finished]
  rfl

section

variable {marks : List SessionClientEvent}

theorem trySend_both (room : marks.length + 1 < 10240) :
    (trySend (trySend ⟨10240, false, marks, 0, 0⟩ .syncBegin) .syncEnd) =
      ⟨10240, false, marks ++ [.syncBegin, .syncEnd], 0, 0⟩ := by
  have first : (mk 10240 false marks 0 0).HasRoom := ⟨rfl, by dsimp only; omega⟩
  have second : (mk 10240 false (marks ++ [SessionClientEvent.syncBegin]) 0 0).HasRoom := by
    refine ⟨rfl, ?_⟩
    dsimp only
    rw [length_append, length_singleton]
    exact room
  rw [trySend_of_room first, trySend_of_room second, append_assoc]
  rfl

theorem trySend_last (almost : marks.length + 1 = 10240) :
    (trySend (trySend ⟨10240, false, marks, 0, 0⟩ .syncBegin) .syncEnd) =
      ⟨10240, false, marks ++ [.syncBegin], 0, 1⟩ := by
  have first : (mk 10240 false marks 0 0).HasRoom := ⟨rfl, by dsimp only; omega⟩
  have full : ¬ (mk 10240 false (marks ++ [SessionClientEvent.syncBegin]) 0 0).HasRoom := by
    rintro ⟨-, room⟩
    dsimp only at room
    rw [length_append, length_singleton, almost] at room
    exact Nat.lt_irrefl _ room
  rw [trySend_of_room first, trySend_of_full full]

end

theorem crowded_update (room : count < 5119) :
    run (step smallVte smallWidth) (crowded count 0 []) (updateInputs (2 * count + 4)) =
      some (crowded (count + 1) 0 []) := by
  refine crowded_run (by omega) ?_
  rw [trySend_both (by rw [length_cons, updateMarks_length]; omega), updateMarks_succ, append_nil]
  rfl

theorem crowded_last :
    run (step smallVte smallWidth) (crowded 5119 0 []) (updateInputs 10242) =
      some (crowded 5119 1 [.syncBegin]) :=
  crowded_run rfl (trySend_last (by rw [length_cons, updateMarks_length]))

/-- The inputs of a number of updates, one after another. -/
def updatesInputs (count : Nat) : List Input :=
  (List.range count).flatMap fun before => updateInputs (2 * before + 4)

theorem updates_run (room : count ≤ 5119) :
    run (step smallVte smallWidth) (crowded 0 0 []) (updatesInputs count) =
      some (crowded count 0 []) := by
  induction count with
  | zero => rfl
  | succ count ih =>
    have split : updatesInputs (count + 1) =
        updatesInputs count ++ updateInputs (2 * count + 4) := by
      rw [updatesInputs, range_succ, flatMap_append, flatMap_singleton, updatesInputs]
    rw [split, run_append_of_some _ (ih (Nat.le_of_succ_le room))]
    exact crowded_update room

/-- The messages that the client has been sent in the end. -/
def wedgingMarks : List SessionClientEvent := .syncEnd :: updateMarks 5119 ++ [.syncBegin]

theorem wedgingMarks_length : wedgingMarks.length = 10240 := by
  rw [wedgingMarks, length_append, length_cons, updateMarks_length]
  rfl

/-- The same client after it has taken a number of messages. -/
def draining (taken : Nat) : World smallVte.Parser :=
  { crowded 5119 1 [.syncBegin] with
    shared := { (crowded 5119 1 [.syncBegin]).shared with
      clients := [⟨0, ⟨10240, false, wedgingMarks, taken, 1⟩, true⟩] } }

theorem draining_run {taken : Nat} (rest : taken ≤ 10240) :
    run (step smallVte smallWidth) (draining 0) (replicate taken (.receive 0)) =
      some (draining taken) := by
  induction taken with
  | zero => rfl
  | succ taken ih =>
    have one : min (taken + 1) wedgingMarks.length = taken + 1 := by
      rw [wedgingMarks_length]
      exact Nat.min_eq_left rest
    have took : step smallVte smallWidth (draining taken) (.receive 0) =
        some (draining (taken + 1)) := by
      simp [step, changeChannel, draining, receive, one]
    rw [replicate_succ', run_append_of_some _
      (ih (Nat.le_of_succ_le rest)), run_cons_of_some took]
    rfl

theorem updateMarks_shown (count : Nat) :
    (updateMarks count).foldl Transaction.onMessage .new = .new := by
  induction count with
  | zero => rfl
  | succ count ih =>
    rw [updateMarks_succ, foldl_append, ih]
    rfl

/-- A client whose channel is full when the mark that closes an update is sent still holds back its
output when it has taken all its messages. -/
theorem dropped_end_wedges :
    ∃ final, Fallible.run (step smallVte smallWidth) (World.new smallVte 2 1)
      (joiningInputs ++ (updatesInputs 5119 ++
        (updateInputs 10242 ++ List.replicate 10240 (.receive 0)))) = some final ∧
      ¬ Unwedged final := by
  refine ⟨draining 10240, ?_, fun unwedged => ?_⟩
  · rw [run_append_of_some _ joining_run, run_append_of_some _ (updates_run (Nat.le_refl 5119)),
      run_append_of_some _ crowded_last]
    exact draining_run (Nat.le_refl 10240)
  · have drained : Mailbox.Drained ⟨10240, false, wedgingMarks, 10240, 1⟩ :=
      Nat.le_of_eq wedgingMarks_length
    have idle : Idle (draining 10240) 0 := by
      refine ⟨rfl, fun index ops present => ?_⟩
      have member := mem_of_getElem? present
      simp only [draining, crowded, mem_append, mem_cons, not_mem_nil, or_false,
        mem_replicate] at member
      rcases member with (rfl | rfl) | ⟨-, rfl⟩
      all_goals exact ⟨by decide, by decide⟩
    have outside := (unwedged _ (mem_singleton_self _) rfl drained idle).1
    rw [Mailbox.received_of_drained drained, wedgingMarks, Transaction.afterMessages_concat,
      Transaction.afterMessages, foldl_cons] at outside
    change ((updateMarks 5119).foldl Transaction.onMessage .new).beginTransaction.depth = 0
      at outside
    rw [updateMarks_shown] at outside
    exact nomatch outside

end Dinotty.Concurrent
