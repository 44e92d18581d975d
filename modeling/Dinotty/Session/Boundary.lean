/-
This file proves that no output is lost between the snapshot of a client and the live output that
follows it. In every interleaving the text fed to the screen is what the client was skipped for,
what it was sent behind its replay, and what is still on its way, and the first part had been fed
before the snapshot was taken.
-/

import Dinotty.Session.Locks

namespace Dinotty.Concurrent

open Screen Interleaving Utf8 List Option Pool

/-! ### Statement -/

def decoded (bytes : List UInt8) : List Char := (validPrefix bytes).1

/-- A screen that shows the bytes given: it was fed with them, and resized in between. -/
inductive Shows (vte : Vte) (width : Char → Option Nat) (cols rows : Nat) :
    VirtualScreen vte.Parser → List UInt8 → Prop where
  | new : Shows vte width cols rows (.new vte.new cols rows) []
  | read {screen next : VirtualScreen vte.Parser} {fed data : List UInt8} {result : FeedResult}
      (shows : Shows vte width cols rows screen fed)
      (done : screen.read vte width data = some (next, result)) :
      Shows vte width cols rows next (fed ++ data)
  | resize {screen next : VirtualScreen vte.Parser} {fed : List UInt8} {newCols newRows : Nat}
      (shows : Shows vte width cols rows screen fed)
      (done : screen.resize newCols newRows = some next) : Shows vte width cols rows next fed

def Replay.events {Parser : Type} (replay : Replay Parser) : List SessionClientEvent :=
  .replayBegin replay.cols replay.rows ::
    (replay.screen.snapshotScrollbackChunks 200).map (fun chunk => .output (tokenText chunk)) ++
      [.output (tokenText replay.screen.snapshotForReplay), .replayEnd]

/-- The bytes that a thread has fed to the screen and not yet passed on. -/
def unpublished (ops : List Action) : List UInt8 :=
  ops.flatMap fun
    | .publish data => data
    | _ => []

/-- The text that a thread still has to send. -/
def unaired (ops : List Action) : List Char :=
  ops.flatMap fun
    | .broadcast text | .broadcastLive text | .sendChunk text => text
    | _ => []

/-- The bytes that a thread holds back for the next batch. -/
def heldBack (ops : List Action) : List UInt8 :=
  ops.flatMap fun
    | .receiveBatch held => held
    | _ => []

section

variable {vte : Vte} {width : Char → Option Nat}

/-- The text that was fed to the screen and has not been sent yet. -/
def onItsWay (world : World vte.Parser) : List Char :=
  let reader := world.threads[0]?.getD []
  let task := world.threads[1]?.getD []
  unaired task ++ decoded (heldBack task ++ world.shared.outputQueue.flatten ++ unpublished reader)

/-- An event that carries no output and is no mark of a replay. -/
def SessionClientEvent.Quiet : SessionClientEvent → Prop
  | .output _ | .replayBegin _ _ | .replayEnd => False
  | _ => True

/-- The condition on a step: the synchronized output is off, nobody but the broadcast task sends
output, and the session goes on. -/
def Peaceful (world : World vte.Parser) (input : Input) : Prop :=
  world.shared.sync.active = false ∧ (∀ msg, input ≠ .call (.broadcast msg)) ∧
    ∀ paneId exitCode, input ≠ .call (.notifyExitAndMarkExited paneId exitCode)

def replaysOf (world : World vte.Parser) (client : Nat) : List (Replay vte.Parser) :=
  world.shared.history.replays.filter fun replay => replay.client == client

/-- What a client was sent: until it is ready, at most a part of its replay; and then the replay in
one piece, with no output before it and all the text behind it that had not been fed to the screen
when the snapshot was taken. -/
structure Lossless (width : Char → Option Nat) (cols rows : Nat) (world : World vte.Parser)
    (client : ClientEndpoint) : Prop where
  pending : client.snapshotPending = true → ∃ before part, client.tx.sent = before ++ part ∧
    (∀ event ∈ before, event.Quiet) ∧
      (part = [] ∨ ∃ replay ∈ replaysOf world client.id, part <+: replay.events)
  ready : client.snapshotPending = false → ∃ replay ∈ replaysOf world client.id,
    Shows vte width cols rows replay.screen replay.fed ∧ replay.fed <+: world.shared.history.fed ∧
      ∃ before after skipped, client.tx.sent = before ++ replay.events ++ after ∧
        (∀ event ∈ before, event.Quiet) ∧ skipped <+: decoded replay.fed ∧
        decoded world.shared.history.fed = skipped ++ outputs after ++ onItsWay world

/-! ### The actions of the reader, of the broadcast task and of the calls -/

variable (front back : List Action)

@[simp] theorem unpublished_append :
    unpublished (front ++ back) = unpublished front ++ unpublished back := flatMap_append

@[simp] theorem unaired_append :
    unaired (front ++ back) = unaired front ++ unaired back := flatMap_append

@[simp] theorem heldBack_append :
    heldBack (front ++ back) = heldBack front ++ heldBack back := flatMap_append

/-- What the reader still has to do before it reads on, once it has fed the screen. -/
def Action.OfReader : Action → Prop
  | .publish _ | .setSyncMode _ | .flushLocked | .enqueueControl _ | .unlockSync => True
  | _ => False

/-- What the broadcast task still has to do before it waits for the next batch. -/
def Action.OfTask : Action → Prop
  | .watchdog | .broadcast _ | .broadcastLive _ | .lockClients | .sendChunk _ | .unlockClients
  | .unlockSync => True
  | _ => False

/-- What a call does, when nobody broadcasts and the session goes on. -/
def Action.OfCall : Action → Prop
  | .readPty | .feed _ | .publish _ | .receiveBatch _ | .watchdog | .broadcast _
  | .broadcastLive _ | .sendChunk _ | .flushFrom _ _ | .markExited => False
  | _ => True

variable {ops : List Action}

theorem unpublished_of_task (ofTask : ∀ action ∈ ops, action.OfTask) :
    unpublished ops = [] ∧ heldBack ops = [] := by
  constructor
  all_goals
    refine flatMap_eq_nil_iff.mpr fun action mem => ?_
    have := ofTask action mem
    cases action
    all_goals first
      | rfl
      | exact this.elim

variable {me : Nat} {choice : Choice} {action : Action} {rest : List Action}

section

variable {session next : Session vte.Parser}
  (done : exec vte width me choice action rest session = some (next, ops))
include done

/-- While the synchronized output is off, neither the broadcast task nor a call feeds the screen or
moves bytes along. -/
theorem exec_stream (inactive : session.sync.active = false) (empty : session.sync.buffer = [])
    (passive : action.OfTask ∨ action.OfCall) :
    next.history.fed = session.history.fed ∧ next.outputQueue = session.outputQueue ∧
      next.exited = session.exited ∧ next.sync.buffer = [] := by
  have frame := exec_frame done
  refine ⟨frame.fed ?_, frame.queue ?_ ?_, frame.exited ?_, frame.buffer inactive empty⟩
  all_goals
    intros
    rintro rfl
    exact passive.elim id id

theorem exec_task (ofTask : action.OfTask) (inactive : session.sync.active = false)
    (live : session.exited = false) :
    ∃ front, ops = front ++ rest ∧ (∀ action ∈ front, action.OfTask) ∧
      next.history.aired.flatten ++ unaired front =
        session.history.aired.flatten ++ unaired [action] := by
  cases action
  case watchdog =>
    simp only [exec, inactive] at done
    split at done
    · cases done
    · cases done
      exact ⟨[], rfl, nofun, rfl⟩
  case broadcast msg =>
    simp only [exec, live] at done
    cases done
    exact ⟨[.broadcastLive msg], rfl, by simp [Action.OfTask], rfl⟩
  case broadcastLive msg =>
    simp only [exec, inactive] at done
    split at done
    · cases done
    · cases done
      exact ⟨[.lockClients, .sendChunk msg, .unlockClients, .unlockSync], rfl,
        by simp [Action.OfTask], by simp [unaired]⟩
  case lockClients =>
    simp only [exec] at done
    split at done
    · cases done
    · cases done
      exact ⟨[], rfl, nofun, rfl⟩
  case sendChunk chunk =>
    cases done
    exact ⟨[], rfl, nofun, by simp [unaired]⟩
  case unlockClients | unlockSync =>
    cases done
    exact ⟨[], rfl, nofun, rfl⟩
  all_goals exact ofTask.elim

end

theorem exec_feed {data : List UInt8} {session next : Session vte.Parser}
    (done : exec vte width me choice (.feed data) rest session = some (next, ops)) :
    ∃ front, ops = front ++ rest ∧ (∀ action ∈ front, action.OfReader) ∧
      unpublished front = data ∧ next.history.fed = session.history.fed ++ data ∧
      next.outputQueue = session.outputQueue ∧ next.exited = session.exited ∧
      next.sync = session.sync := by
  obtain ⟨⟨screen, res⟩, -, done⟩ := map_eq_some_iff.mp done
  cases done
  refine ⟨res.syncEvents.map (fun event => .setSyncMode (event = .start)) ++ [.publish data],
    by simp, fun action mem => ?_, ?_, rfl, rfl, rfl, rfl⟩
  · rcases mem_append.mp mem with mode | last
    · obtain ⟨event, -, rfl⟩ := mem_map.mp mode
      trivial
    · obtain rfl := mem_singleton.mp last
      trivial
  · have quiet : unpublished (res.syncEvents.map fun event =>
        Action.setSyncMode (event = .start)) = [] := by
      refine flatMap_eq_nil_iff.mpr fun action mem => ?_
      obtain ⟨event, -, rfl⟩ := mem_map.mp mem
      rfl
    rw [unpublished_append, quiet]
    simp [unpublished]

variable {session next : Session vte.Parser}

theorem exec_reader (done : exec vte width me choice action rest session = some (next, ops))
    (ofReader : action.OfReader) (empty : session.sync.buffer = []) :
    ∃ front, ops = front ++ rest ∧ (∀ action ∈ front, action.OfReader) ∧
      next.outputQueue.flatten ++ unpublished front =
        session.outputQueue.flatten ++ unpublished [action] ∧
      next.history.fed = session.history.fed ∧ next.exited = session.exited ∧
      next.sync.buffer = [] := by
  cases action
  case publish data =>
    cases done
    exact ⟨[], rfl, nofun, by simp [unpublished], rfl, rfl, empty⟩
  case setSyncMode mode =>
    simp only [exec] at done
    repeat' split at done
    all_goals cases done
    · exact ⟨[], rfl, nofun, rfl, rfl, rfl, empty⟩
    · exact ⟨[.enqueueControl .syncBegin, .unlockSync], rfl, by simp [Action.OfReader], rfl, rfl,
        rfl, empty⟩
    · exact ⟨[.flushLocked, .enqueueControl .syncEnd, .unlockSync], rfl,
        by simp [Action.OfReader], rfl, rfl, rfl, empty⟩
  case flushLocked =>
    simp only [exec, empty] at done
    cases done
    exact ⟨[], rfl, nofun, rfl, rfl, rfl, rfl⟩
  case enqueueControl event =>
    simp only [exec] at done
    split at done
    · cases done
    · cases done
      exact ⟨[], rfl, nofun, rfl, rfl, rfl, empty⟩
  case unlockSync =>
    cases done
    exact ⟨[], rfl, nofun, rfl, rfl, rfl, empty⟩
  all_goals exact ofReader.elim

theorem exec_call (done : exec vte width me choice action rest session = some (next, ops))
    (ofCall : action.OfCall) (empty : session.sync.buffer = []) :
    Pushes Action.OfCall rest ops := by
  cases action
  case flushLocked =>
    simp only [exec, empty] at done
    cases done
    exact .rest
  case readPty | feed | publish | receiveBatch | watchdog | broadcast | broadcastLive | sendChunk
      | flushFrom | markExited => exact ofCall.elim
  all_goals exact exec_pushes done (by simp [Action.PushesOnly, Action.OfCall])

/-! ### The stream -/

/-- Where the stream stands: the bytes fed to the screen are those that the broadcast task has
received, those in the queue and those that the reader still has to pass on. -/
structure Streaming (world : World vte.Parser) (reader front : List Action)
    (held : List UInt8) : Prop where
  live : world.shared.exited = false
  unbuffered : world.shared.sync.buffer = []
  reading : world.threads[0]? = some reader
  reads : reader = [] ∨ ∃ ahead, reader = ahead ++ [.readPty] ∧
    ((∃ data, ahead = [.feed data]) ∨ ∀ action ∈ ahead, action.OfReader)
  sending : world.threads[1]? = some (front ++ [.receiveBatch held])
  sends : ∀ action ∈ front, action.OfTask
  calls : ∀ (index : Nat) ops, 2 ≤ index → world.threads[index]? = some ops →
    ∀ action ∈ ops, action.OfCall
  stream : ∃ received, world.shared.history.fed =
      received ++ (world.shared.outputQueue.flatten ++ unpublished reader) ∧
    validPrefix received = (world.shared.history.aired.flatten ++ unaired front, held)

theorem Streaming.decoded_fed {world : World vte.Parser} {reader front : List Action}
    {held : List UInt8} (streaming : Streaming world reader front held) :
    decoded world.shared.history.fed = world.shared.history.aired.flatten ++ onItsWay world := by
  obtain ⟨received, fed, text⟩ := streaming.stream
  obtain ⟨-, noBatch⟩ := unpublished_of_task streaming.sends
  rw [decoded, fed, validPrefix_append, text, onItsWay, streaming.reading, streaming.sending,
    getD_some, getD_some, unaired_append, heldBack_append, noBatch]
  simp [unaired, heldBack, decoded]

theorem Streaming.congr {world next : World vte.Parser} {reader front : List Action}
    {held : List UInt8} (streaming : Streaming world reader front held)
    (threads : next.threads = world.threads)
    (exited : next.shared.exited = world.shared.exited)
    (sync : next.shared.sync = world.shared.sync)
    (queue : next.shared.outputQueue = world.shared.outputQueue)
    (history : next.shared.history = world.shared.history) :
    Streaming next reader front held :=
  ⟨exited.trans streaming.live, by rw [sync]; exact streaming.unbuffered,
    by rw [threads]; exact streaming.reading, streaming.reads,
    by rw [threads]; exact streaming.sending, streaming.sends,
    by rw [threads]; exact streaming.calls, by rw [history, queue]; exact streaming.stream⟩

section

variable {world next : World vte.Parser} {reader front : List Action} {held : List UInt8}
  {choice : Choice} {action : Action} {rest ops : List Action}

theorem Streaming.calls_of_same (streaming : Streaming world reader front held) {thread : Nat}
    (early : thread < 2)
    (same : ∀ other, other ≠ thread → next.threads[other]? = world.threads[other]?)
    (index : Nat) (ops : List Action) (far : 2 ≤ index) (present : next.threads[index]? = some ops) :
    ∀ action ∈ ops, action.OfCall := by
  rw [same index (by omega)] at present
  exact streaming.calls index ops far present

theorem streaming_reader (streaming : Streaming world reader front held)
    (turn : Turn (exec vte width) 0 choice action rest ops world next) :
    ∃ reader, Streaming next reader front held := by
  have ⟨present, ran, ownNext, same⟩ := turn
  obtain rfl : reader = action :: rest := some.inj (streaming.reading.symm.trans present)
  obtain ⟨received, fed, text⟩ := streaming.stream
  have others : next.threads[1]? = some (front ++ [.receiveBatch held]) :=
    (same 1 (by decide)).trans streaming.sending
  have calls := streaming.calls_of_same (by decide) same
  rcases streaming.reads with impossible | ⟨ahead, equal, kinds⟩
  · cases impossible
  cases ahead with
  | nil =>
    cases equal
    simp only [exec] at ran
    split at ran
    next bytes =>
      obtain ⟨shared, rfl⟩ := Prod.mk.inj (some.inj ran)
      exact ⟨[.feed bytes, .readPty], shared ▸ streaming.live, shared ▸ streaming.unbuffered,
        ownNext, .inr ⟨[.feed bytes], rfl, .inl ⟨bytes, rfl⟩⟩, others, streaming.sends, calls,
        received, shared ▸ fed, shared ▸ text⟩
    · obtain ⟨shared, rfl⟩ := Prod.mk.inj (some.inj ran)
      exact ⟨[], shared ▸ streaming.live, shared ▸ streaming.unbuffered, ownNext, .inl rfl, others,
        streaming.sends, calls, received, shared ▸ fed, shared ▸ text⟩
    · cases ran
  | cons head ahead =>
    cases equal
    rcases kinds with ⟨data, single⟩ | kinds
    · cases single
      obtain ⟨pushed, rfl, ofReader, published, grown, queue, exited, sync⟩ := exec_feed ran
      have aired := (exec_frame ran).aired fun _ same => by cases same
      refine ⟨_, exited.trans streaming.live, by rw [sync]; exact streaming.unbuffered, ownNext,
        .inr ⟨pushed, rfl, .inr ofReader⟩, others, streaming.sends, calls, received, ?_,
        by rw [aired]; exact text⟩
      rw [grown, fed, queue, unpublished_append, published]
      simp [unpublished]
    · obtain ⟨pushed, rfl, ofReader, moved, still, exited, unbuffered⟩ :=
        exec_reader ran (kinds _ mem_cons_self) streaming.unbuffered
      have aired : next.shared.history.aired = world.shared.history.aired :=
        (exec_frame ran).aired fun chunk equal => by
          have ofReader := kinds _ mem_cons_self
          rw [equal] at ofReader
          exact ofReader
      refine ⟨_, exited.trans streaming.live, unbuffered, ownNext,
        .inr ⟨pushed ++ ahead, (append_assoc _ _ _).symm, .inr fun action mem => ?_⟩,
        others, streaming.sends, calls, received, ?_, by rw [aired]; exact text⟩
      · rcases mem_append.mp mem with new | old
        · exact ofReader action new
        · exact kinds action (mem_cons_of_mem _ old)
      · have split : unpublished (action :: (ahead ++ [.readPty])) =
            unpublished [action] ++ unpublished (ahead ++ [.readPty]) :=
          unpublished_append [action] _
        rw [still, fed]
        refine congrArg (received ++ ·) ?_
        calc world.shared.outputQueue.flatten ++ unpublished (action :: (ahead ++ [.readPty]))
            = (world.shared.outputQueue.flatten ++ unpublished [action]) ++
                unpublished (ahead ++ [.readPty]) := by rw [split, append_assoc]
          _ = (next.shared.outputQueue.flatten ++ unpublished pushed) ++
                unpublished (ahead ++ [.readPty]) := by rw [moved]
          _ = next.shared.outputQueue.flatten ++ unpublished (pushed ++ (ahead ++ [.readPty])) := by
                rw [unpublished_append pushed, append_assoc]

/-- A batch goes to the broadcast task in whole characters. -/
theorem streaming_batch (streaming : Streaming world reader [] held)
    (isText : IsText world.shared.history.fed)
    (ran : exec vte width 1 choice (.receiveBatch held) [] world.shared = some (next.shared, ops)) :
    ∃ pushed later, ops = pushed ++ [.receiveBatch later] ∧
      (∀ action ∈ pushed, action.OfTask) ∧ next.shared.exited = world.shared.exited ∧
      next.shared.sync = world.shared.sync ∧
      ∃ received, next.shared.history.fed =
          received ++ (next.shared.outputQueue.flatten ++ unpublished reader) ∧
        validPrefix received = (next.shared.history.aired.flatten ++ unaired pushed, later) := by
  obtain ⟨received, fed, text⟩ := streaming.stream
  simp only [exec, streaming.live] at ran
  split at ran
  next count =>
    split at ran
    · obtain ⟨shared, rfl⟩ := Prod.mk.inj (some.inj ran)
      rw [← shared]
      have batch : world.shared.outputQueue.flatten =
          (world.shared.outputQueue.take count).flatten ++
            (world.shared.outputQueue.drop count).flatten := by
        rw [← flatten_append, take_append_drop]
      have grown : validPrefix (received ++ (world.shared.outputQueue.take count).flatten) =
          (world.shared.history.aired.flatten ++
              (validPrefix (held ++ (world.shared.outputQueue.take count).flatten)).1,
            (validPrefix (held ++ (world.shared.outputQueue.take count).flatten)).2) := by
        rw [validPrefix_append, text]
        simp [unaired]
      have whole : Session.Utf8Tail.Whole ⟨held, []⟩
          (world.shared.outputQueue.take count).flatten := by
        rw [fed, batch, append_assoc, ← append_assoc] at isText
        have short := isText.of_append
        rw [IsText, grown] at short
        exact short
      obtain ⟨sent, kept⟩ := Session.Utf8Tail.receive_whole whole
      refine ⟨.watchdog :: (Session.Utf8Tail.receive ⟨held, []⟩
        (world.shared.outputQueue.take count).flatten).sent.map .broadcast, _, rfl,
        fun action mem => ?_, streaming.live.symm, rfl,
        received ++ (world.shared.outputQueue.take count).flatten, ?_, ?_⟩
      · rcases mem_cons.mp mem with rfl | piece
        · trivial
        · obtain ⟨piece, -, rfl⟩ := mem_map.mp piece
          trivial
      · rw [fed, batch]
        simp
      · have pieces (texts : List (List Char)) :
            unaired (.watchdog :: texts.map Action.broadcast) = texts.flatten :=
          (flatMap_map _ _ _).trans flatMap_id
        rw [grown, pieces, sent, kept]
        rfl
    · cases ran
  · obtain ⟨shared, rfl⟩ := Prod.mk.inj (some.inj ran)
    rw [← shared]
    exact ⟨[.watchdog], held, rfl, by simp [Action.OfTask], rfl, rfl, received, fed, text⟩
  · cases ran

theorem streaming_task (streaming : Streaming world reader front held)
    (inactive : world.shared.sync.active = false) (isText : IsText world.shared.history.fed)
    (turn : Turn (exec vte width) 1 choice action rest ops world next) :
    ∃ front held, Streaming next reader front held := by
  have ⟨present, ran, ownNext, same⟩ := turn
  have equal : front ++ [.receiveBatch held] = action :: rest :=
    some.inj (streaming.sending.symm.trans present)
  have reading : next.threads[0]? = some reader :=
    (same 0 (by decide)).trans streaming.reading
  have calls := streaming.calls_of_same (by decide) same
  cases front with
  | nil =>
    cases equal
    obtain ⟨pushed, later, rfl, ofTask, exited, sync, stream⟩ :=
      streaming_batch streaming isText ran
    exact ⟨pushed, later, exited.trans streaming.live, by rw [sync]; exact streaming.unbuffered,
      reading, streaming.reads, ownNext, ofTask, calls, stream⟩
  | cons head front =>
    obtain ⟨rfl, rfl⟩ := cons.inj equal
    have ofTask := streaming.sends head mem_cons_self
    obtain ⟨pushed, rfl, pushedOfTask, moved⟩ := exec_task ran ofTask inactive streaming.live
    obtain ⟨fed, queue, exited, unbuffered⟩ :=
      exec_stream ran inactive streaming.unbuffered (.inl ofTask)
    obtain ⟨received, fedBefore, text⟩ := streaming.stream
    refine ⟨pushed ++ front, held, exited.trans streaming.live, unbuffered, reading,
      streaming.reads, by rw [ownNext, append_assoc]; rfl, fun action mem => ?_, calls,
      received, by rw [fed, queue]; exact fedBefore, ?_⟩
    · rcases mem_append.mp mem with new | old
      · exact pushedOfTask action new
      · exact streaming.sends action (mem_cons_of_mem _ old)
    · have split : unaired (head :: front) = unaired [head] ++ unaired front :=
        unaired_append [head] front
      rw [text, split, ← append_assoc, ← moved, unaired_append, append_assoc]

theorem streaming_call (streaming : Streaming world reader front held) {index : Nat}
    (far : 2 ≤ index) (inactive : world.shared.sync.active = false)
    (turn : Turn (exec vte width) index choice action rest ops world next) :
    Streaming next reader front held := by
  have ⟨present, ran, ownNext, same⟩ := turn
  have all := streaming.calls index _ far present
  have ofCall := all action mem_cons_self
  obtain ⟨fed, queue, exited, unbuffered⟩ :=
    exec_stream ran inactive streaming.unbuffered (.inr ofCall)
  have aired : next.shared.history.aired = world.shared.history.aired := by
    refine (exec_frame ran).aired fun chunk equal => ?_
    rw [equal] at ofCall
    exact ofCall
  have pushes := exec_call ran ofCall streaming.unbuffered
  refine ⟨exited.trans streaming.live, unbuffered, (same 0 (by omega)).trans streaming.reading,
    streaming.reads, (same 1 (by omega)).trans streaming.sending, streaming.sends, ?_,
    by rw [fed, queue, aired]; exact streaming.stream⟩
  intro other others otherFar presentNext
  rcases after_cases ownNext same presentNext with ⟨rfl, rfl⟩ | ⟨-, before⟩
  · exact pushes.forall (fun _ ofCall => ofCall) fun action mem =>
      all action (mem_cons_of_mem _ mem)
  · exact streaming.calls other others otherFar before

end

/-! ### The replays -/

/-- The actions that a thread does for one client while it sends its replay. -/
def Action.Addresses (client : Nat) : Action → Prop
  | .send id _ | .clearPending id => id = client
  | _ => False

def Silent (client : Nat) (ops : List Action) : Prop :=
  ∀ action ∈ ops, ¬ action.Addresses client

/-- The clients that an action is about are known. -/
def Action.Names (bound : Nat) : Action → Prop
  | .takeSnapshot id _ _ | .send id _ | .clearPending id => id < bound
  | _ => True

theorem exec_aside (done : exec vte width me choice action rest session = some (next, ops))
    (other : ∀ client cols rows, action ≠ .takeSnapshot client cols rows) :
    Pushes (fun action => ∀ client, ¬ action.Addresses client) rest ops := by
  refine exec_pushes done ?_
  cases action
  case takeSnapshot client cols rows => exact absurd rfl (other client cols rows)
  all_goals simp [Action.PushesOnly, Action.Addresses]

theorem exec_names (done : exec vte width me choice action rest session = some (next, ops))
    (known : ∀ client ∈ session.clients, client.id < session.nextClientId)
    (named : action.Names session.nextClientId) :
    Pushes (Action.Names session.nextClientId) rest ops := by
  cases action
  case findClient id cols rows =>
    simp only [exec] at done
    split at done
    · cases done
    · split at done
      next present =>
        cases done
        obtain ⟨client, mem, same⟩ := any_eq_true.mp present
        refine .cons ?_ .rest
        have bound := known client (mem_of_mem_filter mem)
        rw [beq_iff_eq.mp same] at bound
        exact bound
      · cases done
        exact .stop
  case takeSnapshot => exact exec_pushes done ⟨fun _ => named, named, trivial⟩
  all_goals exact exec_pushes done (by simp [Action.PushesOnly, Action.Names])

variable {cols rows : Nat}

/-- The screen goes on showing what it was fed with. -/
theorem exec_shows (done : exec vte width me choice action rest session = some (next, ops))
    (shows : Shows vte width cols rows session.screen session.history.fed) :
    Shows vte width cols rows next.screen next.history.fed ∧
      session.history.fed <+: next.history.fed := by
  cases action
  case feed data =>
    obtain ⟨⟨screen, res⟩, read, done⟩ := map_eq_some_iff.mp done
    cases done
    exact ⟨shows.read read, prefix_append _ _⟩
  case resizeScreen newCols newRows =>
    obtain ⟨screen, resized, done⟩ := map_eq_some_iff.mp done
    cases done
    exact ⟨shows.resize resized, prefix_refl _⟩
  all_goals
    have frame := exec_frame done
    rw [frame.fed nofun, frame.screen nofun nofun]
    exact ⟨shows, prefix_refl _⟩

theorem replayActions_eq (replay : Replay vte.Parser) :
    replayActions replay.screen replay.client replay.cols replay.rows =
      replay.events.map (.send replay.client) ++ [.clearPending replay.client, .unlockClients] := by
  simp [replayActions, Replay.events]

/-! ### The clients -/

/-- Where a client stands between joining and the end of its replay. -/
inductive Joining (world : World vte.Parser) (client : ClientEndpoint) : Prop where
  | waiting (pending : client.snapshotPending = true)
      (quiet : ∀ event ∈ client.tx.sent, event.Quiet) (unsent : replaysOf world client.id = [])
      (silent : ∀ (index : Nat) ops, world.threads[index]? = some ops → Silent client.id ops)
  | replaying (replay : Replay vte.Parser) (before done todo : List SessionClientEvent)
      (index : Nat) (rest : List Action) (pending : client.snapshotPending = true)
      (member : replay ∈ replaysOf world client.id) (sent : client.tx.sent = before ++ done)
      (quiet : ∀ event ∈ before, event.Quiet) (events : replay.events = done ++ todo)
      (present : world.threads[index]? = some (todo.map (.send client.id) ++
        (.clearPending client.id :: .unlockClients :: rest)))
      (silent : Silent client.id rest)
      (others : ∀ (other : Nat) ops, other ≠ index → world.threads[other]? = some ops →
        Silent client.id ops)
      (aired : world.shared.history.aired.flatten <+: decoded replay.fed)
  | joined (replay : Replay vte.Parser) (before after : List SessionClientEvent)
      (skipped : List Char) (ready : client.snapshotPending = false)
      (member : replay ∈ replaysOf world client.id)
      (sent : client.tx.sent = before ++ replay.events ++ after)
      (quiet : ∀ event ∈ before, event.Quiet)
      (aired : world.shared.history.aired.flatten = skipped ++ outputs after)
      (within : skipped <+: decoded replay.fed)
      (silent : ∀ (index : Nat) ops, world.threads[index]? = some ops → Silent client.id ops)

/-- Facts about the clients that hold however they stand. -/
structure Known (cols rows : Nat) (width : Char → Option Nat) (world : World vte.Parser) :
    Prop where
  locked : Locked world
  clients : ∀ client ∈ world.shared.clients, client.id < world.shared.nextClientId
  replays : ∀ replay ∈ world.shared.history.replays, replay.client < world.shared.nextClientId
  named : world.Stands fun _ session ops => ∀ action ∈ ops, action.Names session.nextClientId
  shows : Shows vte width cols rows world.shared.screen world.shared.history.fed
  shown : ∀ replay ∈ world.shared.history.replays,
    Shows vte width cols rows replay.screen replay.fed ∧ replay.fed <+: world.shared.history.fed

theorem known_exec {world next : World vte.Parser} {index : Nat}
    (known : Known cols rows width world)
    (done : world.step (exec vte width) index choice = some next) :
    Known cols rows width next := by
  obtain ⟨action, rest, ops, turn⟩ := step_cases done
  have ⟨held, ran, ownNext, same⟩ := turn
  have named := known.named index _ held
  have bound := (exec_frame ran).nextClientId
  have pushes := exec_names ran known.clients (named action mem_cons_self)
  obtain ⟨shows, grows⟩ := exec_shows ran known.shows
  have replays (replay : Replay vte.Parser) (mem : replay ∈ next.shared.history.replays) :
      replay ∈ world.shared.history.replays ∨
        replay.client < world.shared.nextClientId ∧ replay.screen = world.shared.screen ∧
          replay.fed = world.shared.history.fed := by
    by_cases snapshot : ∃ client cols rows, action = .takeSnapshot client cols rows
    · obtain ⟨client, cols, rows, rfl⟩ := snapshot
      obtain ⟨shared, -⟩ := Prod.mk.inj (some.inj ran)
      rw [← shared] at mem
      rcases mem_append.mp mem with old | new
      · exact .inl old
      · obtain rfl := mem_singleton.mp new
        exact .inr ⟨named _ mem_cons_self, rfl, rfl⟩
    · have still := (exec_frame ran).replays fun client cols rows equal =>
        snapshot ⟨client, cols, rows, equal⟩
      rw [still] at mem
      exact .inl mem
  refine ⟨⟨known.locked.sync.step
      (fun _ _ _ _ phased holds ran => exec_sync phased holds ran) done,
    known.locked.clients.step
      (fun _ _ _ _ phased holds ran => exec_clients phased holds ran) done⟩,
    ?_, ?_, ?_, shows, ?_⟩
  · obtain ⟨kept, sublist, clients, -⟩ := exec_carried ran
    intro client mem
    rw [clients] at mem
    obtain ⟨old, oldMember, rfl⟩ := mem_map.mp mem
    rw [onClient_id, bound]
    exact known.clients old (sublist.subset oldMember)
  · intro replay mem
    rw [bound]
    rcases replays replay mem with old | ⟨named, -, -⟩
    · exact known.replays replay old
    · exact named
  · intro other others presentNext
    rw [bound]
    rcases after_cases ownNext same presentNext with ⟨-, rfl⟩ | ⟨-, before⟩
    · exact pushes.forall (fun _ names => names) fun action mem =>
        named action (mem_cons_of_mem _ mem)
    · exact known.named other others before
  · intro replay mem
    rcases replays replay mem with old | ⟨-, screen, fed⟩
    · obtain ⟨shown, within⟩ := known.shown replay old
      exact ⟨shown, within.trans grows⟩
    · rw [screen, fed]
      exact ⟨known.shows, grows⟩

/-! ### What an action does to a client -/

variable {client : ClientEndpoint}

theorem onClient_pending (silent : ¬ action.Addresses client.id) :
    (action.onClient client).snapshotPending = client.snapshotPending := by
  cases action
  case clearPending id =>
    have other : ¬ (client.id == id) = true := by
      rw [beq_iff_eq]
      exact fun same => silent same.symm
    rw [Action.onClient, if_neg other]
  all_goals first
    | rfl
    | (simp only [Action.onClient]
       split <;> rfl)

theorem onClient_sent (taken : (action.onClient client).tx.refused = 0) :
    ((action.onClient client).tx.sent = client.tx.sent ∧ ∀ event, ¬ action.Sends client event) ∨
      ∃ event, action.Sends client event ∧
        (action.onClient client).tx.sent = client.tx.sent ++ [event] := by
  rcases onClient_tx action client with ⟨still, silent⟩ | ⟨event, sends, sent⟩
  · exact .inl ⟨by rw [still], silent⟩
  · rw [sent] at taken ⊢
    rcases client.tx.trySend_cases event with ⟨-, added, -⟩ | ⟨-, -, refused⟩
    · exact .inr ⟨event, sends, added⟩
    · rw [refused] at taken
      exact nomatch taken

theorem outputs_quiet {event : SessionClientEvent} (quiet : event.Quiet) :
    outputs [event] = [] := by
  cases event
  case output => exact quiet.elim
  all_goals rfl

section

variable {world next : World vte.Parser} {index : Nat} {choice : Choice} {action : Action}
  {rest ops : List Action}

variable {client : ClientEndpoint}

theorem sends_quiet (locked : Locked world)
    (held : world.threads[index]? = some (action :: rest)) {event : SessionClientEvent}
    (sends : action.Sends client event) (noChunk : ∀ chunk, action ≠ .sendChunk chunk)
    (silent : ¬ action.Addresses client.id) :
    event.Quiet := by
  cases action
  case enqueueControl control =>
    obtain ⟨phase, phased, -⟩ := locked.sync.guards index _ held
    obtain ⟨after, -, head⟩ := bind_eq_some_iff.mp phased
    cases sends
    cases event <;> cases after <;> cases head <;> trivial
  case sendChunk chunk => exact absurd rfl (noChunk chunk)
  case broadcastResize origin cols rows =>
    obtain ⟨-, rfl⟩ := sends
    trivial
  case send id other => exact absurd sends.1.symm silent
  all_goals exact sends.elim

/-- A thread starts to have something to do for a client when it takes the snapshot for it. -/
theorem silent_step {client : Nat}
    (turn : Turn (exec vte width) index choice action rest ops world next)
    (other : ∀ cols rows, action ≠ .takeSnapshot client cols rows)
    (silent : ∀ (thread : Nat) ops, world.threads[thread]? = some ops → Silent client ops) :
    ∀ (thread : Nat) ops, next.threads[thread]? = some ops → Silent client ops := by
  have ⟨held, ran, ownNext, same⟩ := turn
  intro thread threadOps presentNext
  rcases after_cases ownNext same presentNext with ⟨-, rfl⟩ | ⟨-, before⟩
  · have restSilent : Silent client rest := fun action mem =>
      silent index _ held action (mem_cons_of_mem _ mem)
    by_cases snapshot : ∃ id cols rows, action = .takeSnapshot id cols rows
    · obtain ⟨id, cols, rows, rfl⟩ := snapshot
      obtain ⟨-, rfl⟩ := Prod.mk.inj (some.inj ran)
      have away : id ≠ client := fun same => other cols rows (by rw [same])
      intro action mem
      rcases mem_append.mp mem with new | old
      · simp only [replayActions, mem_append, List.mem_map, mem_cons, not_mem_nil, or_false] at new
        rcases new with (rfl | ⟨chunk, -, rfl⟩) | rfl | rfl | rfl | rfl
        all_goals first
          | exact away
          | exact id
          | exact fun impossible => impossible
      · exact restSilent action old
    · have pushes := exec_aside ran fun id cols rows equal => snapshot ⟨id, cols, rows, equal⟩
      exact pushes.forall (fun _ none => none client) restSilent
  · exact silent thread threadOps before

theorem replaysOf_snapshot {id : Nat} (client : Nat)
    (ran : exec vte width index choice (.takeSnapshot id cols rows) rest world.shared =
      some (next.shared, ops)) :
    replaysOf next client = replaysOf world client ++
      if id = client then [⟨id, cols, rows, world.shared.screen, world.shared.history.fed⟩]
      else [] := by
  obtain ⟨shared, -⟩ := Prod.mk.inj (some.inj ran)
  rw [replaysOf, replaysOf, ← shared]
  simp [filter_append, filter_cons]

theorem replaysOf_step (client : Nat)
    (ran : exec vte width index choice action rest world.shared = some (next.shared, ops))
    (other : ∀ cols rows, action ≠ .takeSnapshot client cols rows) :
    replaysOf next client = replaysOf world client := by
  by_cases snapshot : ∃ id cols rows, action = .takeSnapshot id cols rows
  · obtain ⟨id, cols, rows, rfl⟩ := snapshot
    have away : id ≠ client := fun same => other cols rows (by rw [same])
    rw [replaysOf_snapshot client ran, if_neg away, append_nil]
  · have still := (exec_frame ran).replays fun id cols rows equal =>
      snapshot ⟨id, cols, rows, equal⟩
    rw [replaysOf, still]
    rfl

section

variable (locked : Locked world)
include locked

theorem joining_waiting {reader front : List Action} {held : List UInt8}
    (stream : Streaming world reader front held)
    (turn : Turn (exec vte width) index choice action rest ops world next)
    (pending : client.snapshotPending = true) (quiet : ∀ event ∈ client.tx.sent, event.Quiet)
    (unsent : replaysOf world client.id = [])
    (silent : ∀ (index : Nat) ops, world.threads[index]? = some ops → Silent client.id ops)
    (taken : (action.onClient client).tx.refused = 0) :
    Joining next (action.onClient client) := by
  have ⟨present, ran, ownNext, same⟩ := turn
  by_cases snapshot : ∃ cols rows, action = .takeSnapshot client.id cols rows
  · obtain ⟨cols, rows, rfl⟩ := snapshot
    obtain ⟨shared, rfl⟩ := Prod.mk.inj (some.inj ran)
    let replay : Replay vte.Parser :=
      ⟨client.id, cols, rows, world.shared.screen, world.shared.history.fed⟩
    refine .replaying replay client.tx.sent [] replay.events index rest pending ?_
      (append_nil _).symm quiet rfl ?_ ?_ ?_ ?_
    · change replay ∈ replaysOf next client.id
      rw [replaysOf_snapshot client.id ran, if_pos rfl]
      exact mem_append_right _ (mem_singleton_self replay)
    · rw [ownNext, replayActions_eq replay, append_assoc]
      rfl
    · exact fun action mem => silent index _ present action (mem_cons_of_mem _ mem)
    · intro other others away presentNext
      rw [same other away] at presentNext
      exact silent other others presentNext
    · rw [← shared]
      exact ⟨_, stream.decoded_fed.symm⟩
  · have other (cols rows : Nat) : action ≠ .takeSnapshot client.id cols rows := fun equal =>
      snapshot ⟨cols, rows, equal⟩
    have aside := silent index _ present action mem_cons_self
    refine .waiting ((onClient_pending aside).trans pending) ?_ ?_ ?_
    · rcases onClient_sent taken with ⟨still, -⟩ | ⟨event, sends, sent⟩
      · rw [still]
        exact quiet
      · have noChunk (chunk : List Char) : action ≠ .sendChunk chunk := by
          rintro rfl
          exact nomatch pending.symm.trans sends.1
        rw [sent]
        intro other mem
        rcases mem_append.mp mem with old | new
        · exact quiet other old
        · obtain rfl := mem_singleton.mp new
          exact sends_quiet locked present sends noChunk aside
    · rw [onClient_id, replaysOf_step client.id ran other]
      exact unsent
    · rw [onClient_id]
      exact silent_step turn other silent

theorem joining_joined (turn : Turn (exec vte width) index choice action rest ops world next)
    {replay : Replay vte.Parser} {before after : List SessionClientEvent} {skipped : List Char}
    (ready : client.snapshotPending = false) (mem : replay ∈ replaysOf world client.id)
    (sent : client.tx.sent = before ++ replay.events ++ after)
    (quiet : ∀ event ∈ before, event.Quiet)
    (aired : world.shared.history.aired.flatten = skipped ++ outputs after)
    (within : skipped <+: decoded replay.fed)
    (silent : ∀ (index : Nat) ops, world.threads[index]? = some ops → Silent client.id ops)
    (taken : (action.onClient client).tx.refused = 0)
    (once : (replaysOf next client.id).length ≤ 1) :
    Joining next (action.onClient client) := by
  have ⟨held, ran, ownNext, same⟩ := turn
  have other (cols rows : Nat) : action ≠ .takeSnapshot client.id cols rows := by
    rintro rfl
    rw [replaysOf_snapshot client.id ran, if_pos rfl, length_append, length_singleton] at once
    have before := length_pos_of_mem mem
    omega
  have aside := silent index _ held action mem_cons_self
  have later : ∃ more, (action.onClient client).tx.sent = client.tx.sent ++ more ∧
      next.shared.history.aired.flatten = world.shared.history.aired.flatten ++ outputs more := by
    by_cases chunk : ∃ text, action = .sendChunk text
    · obtain ⟨text, rfl⟩ := chunk
      obtain ⟨shared, -⟩ := Prod.mk.inj (some.inj ran)
      refine ⟨[.output text], ?_, ?_⟩
      · rcases onClient_sent taken with ⟨-, none⟩ | ⟨event, ⟨-, rfl⟩, added⟩
        · exact absurd ⟨ready, rfl⟩ (none (.output text))
        · exact added
      · rw [← shared, flatten_append]
        rfl
    · have noChunk (text : List Char) : action ≠ .sendChunk text := fun equal =>
        chunk ⟨text, equal⟩
      rw [(exec_frame ran).aired noChunk]
      rcases onClient_sent taken with ⟨still, -⟩ | ⟨event, sends, added⟩
      · exact ⟨[], by rw [still, append_nil], (append_nil _).symm⟩
      · refine ⟨[event], added, ?_⟩
        rw [outputs_quiet (sends_quiet locked held sends noChunk aside), append_nil]
  obtain ⟨more, added, grown⟩ := later
  refine .joined replay before (after ++ more) skipped ((onClient_pending aside).trans ready) ?_ ?_
    quiet ?_ within ?_
  · rw [onClient_id, replaysOf_step client.id ran other]
    exact mem
  · rw [added, sent, append_assoc]
  · rw [grown, aired, outputs_append, append_assoc]
  · rw [onClient_id]
    exact silent_step turn other silent

theorem holds_of_addresses (client : Nat) (held : world.threads[index]? = some (action :: rest))
    (addresses : action.Addresses client) :
    world.shared.clientsHolder = some index := by
  obtain ⟨phase, phased, holds⟩ := locked.clients.guards index _ held
  refine holds.mp ?_
  obtain ⟨after, -, head⟩ := bind_eq_some_iff.mp phased
  change clientsBefore action after = some phase at head
  cases action
  case send id event =>
    cases event <;> cases after <;> simp only [clientsBefore] at head
    all_goals first
      | (split at head <;> cases head <;> exact nofun)
      | (cases head <;> exact nofun)
  case clearPending id =>
    cases after <;> cases head
    exact nofun
  all_goals exact addresses.elim

/-- While another thread holds the lock of the clients, a thread leaves the clients alone, sends
nothing and takes no snapshot. -/
theorem exec_locked_out {holder : Nat} (held : world.shared.clientsHolder = some holder)
    (away : index ≠ holder) (present : world.threads[index]? = some (action :: rest))
    (ran : exec vte width index choice action rest world.shared = some (next.shared, ops)) :
    (∀ client, action.onClient client = client) ∧ (∀ chunk, action ≠ .sendChunk chunk) ∧
      ∀ client cols rows, action ≠ .takeSnapshot client cols rows := by
  obtain ⟨phase, phased, holds⟩ := locked.clients.guards index _ present
  have free : phase = .free := by
    by_contra busy
    have own := holds.mp busy
    rw [clientsLock_holder, held] at own
    exact away (some.inj own).symm
  obtain ⟨after, -, head⟩ := bind_eq_some_iff.mp phased
  change clientsBefore action after = some phase at head
  rw [free] at head
  have blocked : world.shared.clientsHolder.isSome = true := by rw [held]; rfl
  cases action
  case enqueueControl | broadcastResize =>
    simp only [exec, if_pos blocked] at ran
    cases ran
  case sendChunk | clearPending | takeSnapshot => cases after <;> cases head
  case send id event =>
    cases event <;> cases after <;> simp only [clientsBefore] at head
    all_goals first
      | (split at head <;> cases head)
      | cases head
  all_goals exact ⟨fun _ => rfl, nofun, nofun⟩

theorem joining_replaying (turn : Turn (exec vte width) index choice action rest ops world next)
    {replay : Replay vte.Parser} {before done todo : List SessionClientEvent} {thread : Nat}
    {back : List Action} (pending : client.snapshotPending = true)
    (mem : replay ∈ replaysOf world client.id) (sent : client.tx.sent = before ++ done)
    (quiet : ∀ event ∈ before, event.Quiet) (events : replay.events = done ++ todo)
    (replays : world.threads[thread]? = some (todo.map (.send client.id) ++
      (.clearPending client.id :: .unlockClients :: back))) (silent : Silent client.id back)
    (others : ∀ (other : Nat) ops, other ≠ thread → world.threads[other]? = some ops →
      Silent client.id ops) (aired : world.shared.history.aired.flatten <+: decoded replay.fed)
    (taken : (action.onClient client).tx.refused = 0) :
    Joining next (action.onClient client) := by
  have ⟨present, ran, ownNext, same⟩ := turn
  by_cases own : index = thread
  · subst own
    have equal := some.inj (present.symm.trans replays)
    have othersNext (other : Nat) (ops : List Action) (away : other ≠ index)
        (presentNext : next.threads[other]? = some ops) : Silent client.id ops := by
      rw [same other away] at presentNext
      exact others other ops away presentNext
    cases todo with
    | nil =>
      cases equal
      have airedSame := (exec_frame ran).aired nofun
      have replaysSame := replaysOf_step client.id ran nofun
      obtain ⟨-, rfl⟩ := Prod.mk.inj (some.inj ran)
      have cleared : (Action.clearPending client.id).onClient client =
          { client with snapshotPending := false } := if_pos (beq_self_eq_true client.id)
      rw [cleared]
      refine .joined replay before [] world.shared.history.aired.flatten rfl ?_ ?_ quiet ?_ aired ?_
      · change replay ∈ replaysOf next client.id
        rw [replaysSame]
        exact mem
      · rw [events, append_nil, append_nil]
        exact sent
      · rw [airedSame]
        exact (append_nil _).symm
      · intro other ops presentNext
        by_cases here : other = index
        · subst here
          cases ownNext.symm.trans presentNext
          intro action mem
          rcases mem_cons.mp mem with rfl | later
          · exact id
          · exact silent action later
        · exact othersNext other ops here presentNext
    | cons event todo =>
      cases equal
      have airedSame := (exec_frame ran).aired nofun
      have replaysSame := replaysOf_step client.id ran nofun
      obtain ⟨-, rfl⟩ := Prod.mk.inj (some.inj ran)
      have sentNext : ((Action.send client.id event).onClient client).tx.sent =
          client.tx.sent ++ [event] := by
        rcases onClient_sent taken with ⟨-, none⟩ | ⟨other, ⟨-, rfl⟩, added⟩
        · exact absurd ⟨rfl, rfl⟩ (none event)
        · exact added
      have kept : ((Action.send client.id event).onClient client).snapshotPending =
          client.snapshotPending := by
        rw [Action.onClient, if_pos (beq_self_eq_true client.id)]
      refine .replaying replay before (done ++ [event]) todo index back (kept.trans pending) ?_ ?_
        quiet ?_ ?_ ?_ ?_ ?_
      · rw [onClient_id, replaysSame]
        exact mem
      · rw [sentNext, sent, append_assoc]
      · rw [events, append_assoc]
        rfl
      · rw [onClient_id]
        exact ownNext
      · rw [onClient_id]
        exact silent
      · rw [onClient_id]
        exact othersNext
      · rw [airedSame]
        exact aired
  · have held : world.shared.clientsHolder = some thread := by
      cases todo with
      | nil | cons => exact holds_of_addresses locked client.id replays rfl
    obtain ⟨still, noChunk, noSnapshot⟩ := exec_locked_out locked held own present ran
    rw [still]
    refine .replaying replay before done todo thread back pending ?_ sent quiet events ?_ silent ?_
      ?_
    · rw [replaysOf_step client.id ran (noSnapshot client.id)]
      exact mem
    · rw [same thread (Ne.symm own)]
      exact replays
    · intro other threadOps away presentNext
      rcases after_cases ownNext same presentNext with ⟨-, rfl⟩ | ⟨-, earlier⟩
      · have pushes := exec_aside ran noSnapshot
        exact pushes.forall (fun _ none => none client.id) fun action mem =>
          others index _ own present action (mem_cons_of_mem _ mem)
      · exact others other threadOps away earlier
    · rw [(exec_frame ran).aired noChunk]
      exact aired

end

end

/-! ### The invariant -/

/-- Where the stream and the clients stand, as far as the output is text, the channel of a client
has refused nothing and the client was sent at most one replay. -/
structure Boundary (cols rows : Nat) (width : Char → Option Nat) (world : World vte.Parser) :
    Prop where
  known : Known cols rows width world
  standing : IsText world.shared.history.fed →
    (∃ reader front held, Streaming world reader front held) ∧
      ∀ client ∈ world.shared.clients, client.tx.refused = 0 →
        (replaysOf world client.id).length ≤ 1 → Joining world client

theorem lossless_of {world : World vte.Parser} (boundary : Boundary cols rows width world)
    (isText : IsText world.shared.history.fed) (mem : client ∈ world.shared.clients)
    (taken : client.tx.refused = 0) (once : (replaysOf world client.id).length ≤ 1) :
    Lossless width cols rows world client := by
  obtain ⟨⟨reader, front, held, stream⟩, joinings⟩ := boundary.standing isText
  cases joinings client mem taken once with
  | waiting pending quiet unsent silent =>
    exact ⟨fun _ => ⟨client.tx.sent, [], (append_nil _).symm, quiet, .inl rfl⟩,
      fun ready => nomatch pending.symm.trans ready⟩
  | replaying replay before done todo index rest pending replayMember sent quiet events =>
    refine ⟨fun _ => ⟨before, done, sent, quiet, .inr ⟨replay, replayMember, ?_⟩⟩,
      fun ready => nomatch pending.symm.trans ready⟩
    rw [events]
    exact prefix_append _ _
  | joined replay before after skipped ready replayMember sent quiet aired within =>
    refine ⟨fun pending => (nomatch ready.symm.trans pending), fun _ => ?_⟩
    obtain ⟨shows, fed⟩ := boundary.known.shown replay (mem_of_mem_filter replayMember)
    refine ⟨replay, replayMember, shows, fed, before, after, skipped, sent, quiet, within, ?_⟩
    rw [stream.decoded_fed, aired]

theorem boundary_run {world next : World vte.Parser} {index : Nat}
    (boundary : Boundary cols rows width world) (inactive : world.shared.sync.active = false)
    (done : world.step (exec vte width) index choice = some next) :
    Boundary cols rows width next := by
  refine ⟨known_exec boundary.known done, fun isText => ?_⟩
  obtain ⟨action, rest, ops, turn⟩ := step_cases done
  have ⟨present, ran, ownNext, same⟩ := turn
  have locked := boundary.known.locked
  have isTextBefore : IsText world.shared.history.fed := by
    obtain ⟨more, grown⟩ := (exec_shows ran boundary.known.shows).2
    rw [← grown] at isText
    exact isText.of_append
  obtain ⟨⟨reader, front, held, stream⟩, joinings⟩ := boundary.standing isTextBefore
  constructor
  · match index with
    | 0 =>
      obtain ⟨reader, streamingNext⟩ := streaming_reader stream turn
      exact ⟨reader, front, held, streamingNext⟩
    | 1 =>
      obtain ⟨front, held, streamingNext⟩ := streaming_task stream inactive isTextBefore turn
      exact ⟨reader, front, held, streamingNext⟩
    | index + 2 =>
      exact ⟨reader, front, held, streaming_call stream (Nat.le_add_left 2 index) inactive
        turn⟩
  · obtain ⟨kept, sublist, clients, -⟩ := exec_carried ran
    intro client mem taken once
    rw [clients] at mem
    obtain ⟨old, oldMember, rfl⟩ := mem_map.mp mem
    rw [onClient_id] at once
    have acceptedBefore : old.tx.refused = 0 := by
      rcases onClient_tx action old with ⟨still, -⟩ | ⟨event, -, sent⟩
      · rw [still] at taken
        exact taken
      · rw [sent] at taken
        rcases old.tx.trySend_cases event with ⟨-, -, refused⟩ | ⟨-, -, refused⟩
        · rw [refused] at taken
          exact taken
        · rw [refused] at taken
          exact nomatch taken
    have onceBefore : (replaysOf world old.id).length ≤ 1 := by
      by_cases snapshot : ∃ cols rows, action = .takeSnapshot old.id cols rows
      · obtain ⟨cols, rows, rfl⟩ := snapshot
        rw [replaysOf_snapshot old.id ran, length_append] at once
        exact Nat.le_of_add_right_le once
      · rw [replaysOf_step old.id ran fun cols rows equal =>
          snapshot ⟨cols, rows, equal⟩] at once
        exact once
    cases joinings old (sublist.subset oldMember) acceptedBefore onceBefore with
    | waiting pending quiet unsent silent =>
      exact joining_waiting locked stream turn pending quiet unsent
        silent taken
    | replaying replay before done todo thread back pending replayMember sent quiet events replays
        silent others aired =>
      exact joining_replaying locked turn pending replayMember sent quiet
        events replays silent others aired taken
    | joined replay before after skipped ready replayMember sent quiet aired within silent =>
      exact joining_joined locked turn ready replayMember sent quiet aired
        within silent taken once

/-- A client stands where it did as long as new threads have nothing to do for it. -/
theorem Joining.congr {world next : World vte.Parser} {old : ClientEndpoint}
    (joining : Joining world old) (kept : ∀ (index : Nat) ops, world.threads[index]? = some ops →
      next.threads[index]? = some ops)
    (fresh : ∀ (index : Nat) ops, next.threads[index]? = some ops →
      world.threads[index]? = some ops ∨ ∀ client, Silent client ops)
    (history : next.shared.history = world.shared.history) (id : client.id = old.id)
    (pending : client.snapshotPending = old.snapshotPending) (sent : client.tx.sent = old.tx.sent) :
    Joining next client := by
  have replays : replaysOf next client.id = replaysOf world old.id := by
    rw [replaysOf, history, id]
    rfl
  have silentNext (silent : ∀ (index : Nat) ops, world.threads[index]? = some ops →
      Silent old.id ops) (index : Nat) (ops : List Action)
      (held : next.threads[index]? = some ops) : Silent client.id ops := by
    rw [id]
    exact (fresh index ops held).elim (silent index ops) fun silent => silent old.id
  cases joining with
  | waiting oldPending quiet unsent silent =>
    exact .waiting (pending.trans oldPending) (by rw [sent]; exact quiet) (replays.trans unsent)
      (silentNext silent)
  | replaying replay before done todo index rest oldPending mem oldSent quiet events held
      silent others aired =>
    refine .replaying replay before done todo index rest (pending.trans oldPending)
      (by rw [replays]; exact mem) (sent.trans oldSent) quiet events ?_
      (by rw [id]; exact silent) ?_ (by rw [history]; exact aired)
    · rw [id]
      exact kept index _ held
    · intro other ops away presentNext
      rw [id]
      exact (fresh other ops presentNext).elim (others other ops away) fun silent =>
        silent old.id
  | joined replay before after skipped ready mem oldSent quiet aired within silent =>
    exact .joined replay before after skipped (pending.trans ready) (by rw [replays]; exact mem)
      (sent.trans oldSent) quiet (by rw [history]; exact aired) within (silentNext silent)

theorem Action.Names.mono {bound larger : Nat} (names : action.Names bound) (le : bound ≤ larger) :
    action.Names larger := by
  cases action
  case takeSnapshot | send | clearPending => exact Nat.lt_of_lt_of_le names le
  all_goals trivial

section

variable {world : World vte.Parser} (boundary : Boundary cols rows width world)
include boundary

theorem boundary_clients {clients : List ClientEndpoint} {nextId : Nat}
    (later : world.shared.nextClientId ≤ nextId) (each : ∀ client ∈ clients,
      (∃ old ∈ world.shared.clients, client.id = old.id ∧
        client.snapshotPending = old.snapshotPending ∧ client.tx.sent = old.tx.sent ∧
          client.tx.refused = old.tx.refused) ∨
        client = newClient world.shared.nextClientId ∧ world.shared.nextClientId < nextId) :
    Boundary cols rows width { world with
      shared := { world.shared with clients, nextClientId := nextId } } := by
  have known := boundary.known
  refine ⟨⟨known.locked.congr rfl rfl rfl, ?_, ?_, ?_, known.shows, known.shown⟩, fun isText => ?_⟩
  · intro client mem
    rcases each client mem with ⟨old, oldMember, id, -⟩ | ⟨rfl, less⟩
    · rw [id]
      exact Nat.lt_of_lt_of_le (known.clients old oldMember) later
    · exact less
  · exact fun replay mem => Nat.lt_of_lt_of_le (known.replays replay mem) later
  · exact fun index ops present action mem => (known.named index ops present action mem).mono
      later
  · obtain ⟨⟨reader, front, held, stream⟩, joinings⟩ := boundary.standing isText
    refine ⟨⟨reader, front, held, stream.congr rfl rfl rfl rfl rfl⟩, ?_⟩
    intro client mem taken once
    rcases each client mem with ⟨old, oldMember, id, pending, sent, refused⟩ | ⟨rfl, -⟩
    · have replays : replaysOf world old.id = replaysOf world client.id := by rw [id]
      refine (joinings old oldMember (refused.symm.trans taken) ?_).congr
        (fun _ _ present => present) (fun _ _ present => .inl present) rfl id pending sent
      rw [replays]
      exact once
    · refine .waiting rfl (fun _ mem => nomatch mem) ?_ ?_
      · refine filter_eq_nil_iff.mpr fun replay mem same => ?_
        have bound := known.replays replay mem
        rw [beq_iff_eq.mp same] at bound
        exact Nat.lt_irrefl _ bound
      · intro index ops present action mem addresses
        have names := known.named index ops present action mem
        cases action
        case send id event =>
          cases addresses
          exact Nat.lt_irrefl _ names
        case clearPending id =>
          cases addresses
          exact Nat.lt_irrefl _ names
        all_goals exact addresses

theorem boundary_call {call : Call} (ofCall : ∀ action ∈ call.program, action.OfCall)
    (locked : Locked (world.spawn call.program)) :
    Boundary cols rows width (world.spawn call.program) := by
  have known := boundary.known
  have plain : ∀ action ∈ call.program, (∀ client, ¬ action.Addresses client) ∧
      ∀ bound, action.Names bound := by
    intro action mem
    cases call
    all_goals
      simp only [Call.program, mem_cons, not_mem_nil, or_false] at mem
      rcases mem with rfl | rfl | rfl | rfl <;> exact ⟨fun _ => id, fun _ => trivial⟩
  refine ⟨⟨locked, known.clients, known.replays, ?_, known.shows, known.shown⟩, fun isText => ?_⟩
  · exact spawn_stands known.named fun action mem => (plain action mem).2 _
  · obtain ⟨⟨reader, front, held, streaming⟩, joinings⟩ := boundary.standing isText
    refine ⟨⟨reader, front, held, streaming.live, streaming.unbuffered,
      spawn_kept _ streaming.reading, streaming.reads, spawn_kept _ streaming.sending,
      streaming.sends, ?_, streaming.stream⟩, ?_⟩
    · intro index ops far present
      rcases spawn_cases present with before | ⟨-, rfl⟩
      · exact streaming.calls index ops far before
      · exact ofCall
    · intro client mem taken once
      refine (joinings client mem taken once).congr (fun _ _ => spawn_kept _)
        (fun index ops present => ?_) rfl rfl rfl rfl
      exact (spawn_cases present).imp id fun ⟨_, same⟩ client action mem => by
        rw [same] at mem
        exact (plain action mem).1 client

theorem boundary_step {next : World vte.Parser} {input : Input} (peaceful : Peaceful world input)
    (done : step vte width world input = some next) : Boundary cols rows width next := by
  obtain ⟨inactive, noBroadcast, noExit⟩ := peaceful
  cases input with
  | run thread choice => exact boundary_run boundary inactive done
  | call call =>
    have locked := locked_step boundary.known.locked done
    cases done
    refine boundary_call boundary (fun action mem => ?_) locked
    cases call
    case broadcast msg => exact absurd rfl (noBroadcast msg)
    case notifyExitAndMarkExited paneId exitCode => exact absurd rfl (noExit paneId exitCode)
    all_goals
      simp only [Call.program, mem_cons, not_mem_nil, or_false] at mem
      rcases mem with rfl | rfl | rfl | rfl <;> trivial
  | addClient =>
    obtain ⟨session, changed, rfl⟩ := map_eq_some_iff.mp done
    obtain rfl := changeClients_eq_some changed
    refine boundary_clients boundary (Nat.le_succ _) fun client mem => ?_
    rcases mem_append.mp mem with old | new
    · exact .inl ⟨client, old, rfl, rfl, rfl, rfl⟩
    · exact .inr ⟨mem_singleton.mp new, Nat.lt_succ_self _⟩
  | removeClient id =>
    obtain ⟨session, changed, rfl⟩ := map_eq_some_iff.mp done
    obtain rfl := changeClients_eq_some changed
    exact boundary_clients boundary (Nat.le_refl _) fun client mem =>
      .inl ⟨client, mem_of_mem_filter mem, rfl, rfl, rfl, rfl⟩
  | receive id | hangUp id =>
    cases done
    refine boundary_clients boundary (Nat.le_refl _) fun client mem => ?_
    obtain ⟨old, oldMember, rfl⟩ := mem_map.mp mem
    refine .inl ⟨old, oldMember, ?_⟩
    split <;> exact ⟨rfl, rfl, rfl, rfl⟩

end

theorem boundary_new (cols rows : Nat) : Boundary cols rows width (World.new vte cols rows) := by
  have shows : Shows vte width cols rows (World.new vte cols rows).shared.screen [] := .new
  refine ⟨⟨locked_new cols rows, fun _ mem => (nomatch mem), fun _ mem => (nomatch mem),
    ?_, shows, fun _ mem => nomatch mem⟩, fun _ => ⟨?_, fun _ mem => nomatch mem⟩⟩
  · intro index ops held action mem
    have listed := mem_of_getElem? held
    rw [World.new, mem_cons, mem_singleton] at listed
    rcases listed with rfl | rfl
    all_goals
      obtain rfl := mem_singleton.mp mem
      trivial
  · refine ⟨[.readPty], [], [], rfl, rfl, rfl, .inr ⟨[], rfl, .inr nofun⟩, rfl, nofun, ?_, [], rfl,
      rfl⟩
    intro index ops far held
    match index, far, held with
    | _ + 2, _, held => exact nomatch held

/-- In every such interleaving a client whose channel refuses nothing and that is sent at most one
replay loses no output. -/
theorem handshake_loses_nothing (vte : Vte) (width : Char → Option Nat) (cols rows : Nat)
    (inputs : List Input)
    (peaceful : Fallible.Meets (step vte width) Peaceful (World.new vte cols rows) inputs)
    {final : World vte.Parser}
    (reached : Fallible.run (step vte width) (World.new vte cols rows) inputs = some final)
    (isText : IsText final.shared.history.fed) {client : ClientEndpoint}
    (member : client ∈ final.shared.clients) (accepted : client.tx.refused = 0)
    (once : (replaysOf final client.id).length ≤ 1) : Lossless width cols rows final client :=
  lossless_of (Fallible.run_invariant
    (fun _ _ _ boundary peaceful done => boundary_step boundary peaceful done)
    (boundary_new cols rows) peaceful reached) isText member accepted once

end

/-- A client asks for its snapshot between two reads, and the broadcast task sends both after it. -/
def boundaryInputs : List Input :=
  [.addClient, .run 0 (.data [0x61]), .run 0 .proceed, .run 0 .proceed,
    .call (.atomicResizeAndSnapshotForClient 0 2 1)] ++
  List.replicate 12 (.run 2 .proceed) ++
  [.run 0 (.data [0x62]), .run 0 .proceed, .run 0 .proceed, .run 1 (.batch 2)] ++
  List.replicate 7 (.run 1 .proceed)

theorem handshake_loses_nothing_join :
    ∃ final client, Fallible.run (step smallVte smallWidth) (World.new smallVte 2 1)
        boundaryInputs = some final ∧ client ∈ final.shared.clients ∧
      client.snapshotPending = false ∧ Lossless smallWidth 2 1 final client := by
  have reached : (Fallible.run (step smallVte smallWidth) (World.new smallVte 2 1)
      boundaryInputs).map (fun world => (world.shared.history.fed,
        world.shared.clients.map (fun client => (client.id, client.snapshotPending,
          client.tx.refused)), (replaysOf world 0).length)) =
      some ([0x61, 0x62], [(0, false, 0)], 1) := by decide +kernel
  obtain ⟨final, done, facts⟩ := map_eq_some_iff.mp reached
  obtain ⟨fed, facts⟩ := Prod.mk.inj facts
  obtain ⟨clients, once⟩ := Prod.mk.inj facts
  obtain ⟨client, rest, single, client0, -⟩ := map_eq_cons_iff.mp clients
  obtain ⟨id, facts⟩ := Prod.mk.inj client0
  obtain ⟨ready, accepted⟩ := Prod.mk.inj facts
  have member : client ∈ final.shared.clients := by
    rw [single]
    exact mem_cons_self
  refine ⟨final, client, done, member, ready, handshake_loses_nothing smallVte smallWidth 2 1
    boundaryInputs ?_ done (by rw [fed]; decide +kernel) member accepted
    (by rw [id, once])⟩
  iterate 28
    refine ⟨⟨rfl, nofun, nofun⟩, fun next taken => ?_⟩
    cases taken
  trivial

end Dinotty.Concurrent
