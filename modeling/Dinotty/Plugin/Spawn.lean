/-
This file is a plugin process that is spawned over a socket. The loop ends as soon as it finds the
child gone, so the client has the whole output before it is told that the child is done exactly if
the loop turns to the exit only when everything is read and sent, and every line is text.
-/

import Dinotty.Foundation.Lines
import Dinotty.Foundation.Lossy
import Dinotty.Foundation.Runs

namespace Dinotty.Plugin

open Lines List Bool

/-! ### The parties -/

inductive Stream where
  | stdout
  | stderr
  deriving DecidableEq

/-- The text of a line. A line that is no text is an error to the reader. -/
def decode (line : List UInt8) : Option String :=
  if (Utf8.validPrefix line).2 = [] then some (String.ofList (Utf8.validPrefix line).1) else none

/-- What the client is told of a line: the line with a newline. -/
def lineData (line : List UInt8) : Option String := (decode line).map (· ++ "\n")

inductive SpawnMessage where
  | line (stream : Stream) (data : String)
  | done (code : Int)
  deriving DecidableEq

/-- The task that reads a stream goes on, has come to the end, or has failed. -/
inductive Reader where
  | reading
  | ended
  | failed
  deriving DecidableEq

/-- One output of the child: all that it has written, what is not read yet, and the reader. -/
structure Pipe where
  written : List UInt8 := []
  unread : List UInt8 := []
  reader : Reader := .reading

/-- A spawned child, which may have exited with a code or without one, and its connection. -/
structure Spawned where
  exited : Option (Option Int) := none
  pipe : Stream → Pipe := fun _ => {}
  queue : List (Stream × String) := []
  sent : List SpawnMessage := []
  finished : Bool := false

namespace Spawned

def setPipe (spawned : Spawned) (stream : Stream) (pipe : Pipe) : Spawned :=
  { spawned with pipe := fun other => if other = stream then pipe else spawned.pipe other }

/-! ### The steps -/

/-- The child writes, while it runs. -/
def write (spawned : Spawned) (stream : Stream) (bytes : List UInt8) : Spawned :=
  if spawned.exited = none then
    let pipe := spawned.pipe stream
    spawned.setPipe stream
      { pipe with written := pipe.written ++ bytes, unread := pipe.unread ++ bytes }
  else spawned

def exit (spawned : Spawned) (code : Option Int) : Spawned :=
  if spawned.exited = none then { spawned with exited := some code } else spawned

/-- One round of a reader: it queues the next line, and ends with the stream, at a line that is no
text, or when nobody takes the line. -/
def read (spawned : Spawned) (stream : Stream) : Spawned :=
  let pipe := spawned.pipe stream
  if pipe.reader = .reading then
    match nextLine spawned.exited.isSome pipe.unread with
    | .wait => spawned
    | .ended => spawned.setPipe stream { pipe with reader := .ended }
    | .line line rest =>
        match lineData line with
        | some data =>
            if spawned.finished then
              spawned.setPipe stream { pipe with unread := rest, reader := .failed }
            else
              { spawned.setPipe stream { pipe with unread := rest } with
                queue := spawned.queue ++ [(stream, data)] }
        | none => spawned.setPipe stream { pipe with unread := rest, reader := .failed }
  else spawned

/-- The loop serves the queue. -/
def forward (spawned : Spawned) : Spawned :=
  match spawned.queue with
  | (stream, data) :: rest =>
      if spawned.finished then spawned
      else { spawned with queue := rest, sent := spawned.sent ++ [.line stream data] }
  | [] => spawned

/-- The loop finds that the child has exited, and ends. -/
def finish (spawned : Spawned) : Spawned :=
  match spawned.exited with
  | some code =>
      if spawned.finished then spawned
      else { spawned with finished := true, sent := spawned.sent ++ [.done (code.getD (-1))] }
  | none => spawned

inductive Event where
  | write (stream : Stream) (bytes : List UInt8)
  | exit (code : Option Int)
  | read (stream : Stream)
  | forward
  | finish
  deriving DecidableEq

def after (spawned : Spawned) : Event → Spawned
  | .write stream bytes => spawned.write stream bytes
  | .exit code => spawned.exit code
  | .read stream => spawned.read stream
  | .forward => spawned.forward
  | .finish => spawned.finish

def run (events : List Event) : Spawned := Runs.run after {} events

/-! ### What the client is owed -/

/-- The data of the lines of one stream among some messages. -/
def dataOf (stream : Stream) (messages : List SpawnMessage) : List String :=
  messages.filterMap fun
    | .line other data => if other = stream then some data else none
    | .done _ => none

/-- What the client should be told of the lines that the child has written to a stream. -/
def owed (spawned : Spawned) (stream : Stream) : List (Option String) :=
  (lines (spawned.pipe stream).written).map lineData

/-- The client was told of every line of each stream, once and in order, and after that, once, of
the exit code. -/
structure Complete (spawned : Spawned) : Prop where
  lines : ∀ stream, (dataOf stream spawned.sent).map some = spawned.owed stream
  done : ∃ front code, spawned.exited = some code ∧
    spawned.sent = front ++ [.done (code.getD (-1))] ∧ ∀ code, .done code ∉ front

/-- Nothing is left in the pipes and in the queue, and every line that was written is text. -/
structure Drained (spawned : Spawned) : Prop where
  queue : spawned.queue = []
  unread : ∀ stream, (spawned.pipe stream).unread = []
  text : ∀ stream, none ∉ spawned.owed stream

/-- The loop turns to the exit of the child when nothing is left. -/
def Heeds (spawned : Spawned) (event : Event) : Prop :=
  event = .finish → spawned.exited.isSome → spawned.finished = false → spawned.Drained

/-! ### What is read and sent -/

variable {spawned : Spawned}

theorem pipe_setPipe (spawned : Spawned) (stream other : Stream) (pipe : Pipe) :
    (spawned.setPipe stream pipe).pipe other =
      if other = stream then pipe else spawned.pipe other := rfl

/-- The data of the lines of one stream that are queued. -/
def queuedOf (stream : Stream) (queue : List (Stream × String)) : List String :=
  queue.filterMap fun (other, data) => if other = stream then some data else none

/-- What the client was told of a stream and what is queued for it. -/
def prior (spawned : Spawned) (stream : Stream) : List String :=
  dataOf stream spawned.sent ++ queuedOf stream spawned.queue

/-- What was read of a pipe goes before what is unread, however the child goes on to write. -/
def Pipe.Follows (prior : List String) (closed : Bool) (pipe : Pipe) : Prop :=
  match pipe.reader with
  | .reading => ∀ more, (closed = true → more = []) → (lines (pipe.written ++ more)).map lineData =
        prior.map some ++ (lines (pipe.unread ++ more)).map lineData
  | .ended => closed = true ∧ pipe.unread = [] ∧ (lines pipe.written).map lineData = prior.map some
  | .failed => ∀ more, (closed = true → more = []) →
      ∃ rest, (lines (pipe.written ++ more)).map lineData = prior.map some ++ none :: rest

structure Sound (spawned : Spawned) : Prop where
  follows : spawned.finished = false → ∀ stream,
    Pipe.Follows (spawned.prior stream) spawned.exited.isSome (spawned.pipe stream)
  undone : spawned.finished = false → ∀ code, .done code ∉ spawned.sent
  exited : spawned.finished = true → spawned.exited.isSome = true

variable {prior : List String} {pipe : Pipe}

theorem follows_write (follows : Pipe.Follows prior false pipe) (bytes : List UInt8) :
    Pipe.Follows prior false
      { pipe with written := pipe.written ++ bytes, unread := pipe.unread ++ bytes } := by
  unfold Pipe.Follows at follows ⊢
  dsimp only
  split at follows
  · intro more _
    rw [append_assoc, append_assoc]
    exact follows (bytes ++ more) fun impossible => absurd impossible false_ne_true
  · exact absurd follows.1 false_ne_true
  · intro more _
    rw [append_assoc]
    exact follows (bytes ++ more) fun impossible => absurd impossible false_ne_true

theorem follows_exit (follows : Pipe.Follows prior false pipe) : Pipe.Follows prior true pipe := by
  unfold Pipe.Follows at follows ⊢
  split at follows
  · exact fun more _ => follows more fun impossible => absurd impossible false_ne_true
  · exact absurd follows.1 false_ne_true
  · exact fun more _ => follows more fun impossible => absurd impossible false_ne_true

variable {closed : Bool}

section

variable (follows : Pipe.Follows prior closed pipe) (reading : pipe.reader = .reading)
include follows reading

theorem follows_ended (found : nextLine closed pipe.unread = .ended) :
    Pipe.Follows prior closed { pipe with reader := .ended } := by
  obtain ⟨isClosed, empty⟩ := nextLine_eq_ended found
  unfold Pipe.Follows at follows ⊢
  rw [reading] at follows
  have whole := follows [] fun _ => rfl
  rw [append_nil, append_nil, empty] at whole
  exact ⟨isClosed, empty, whole.trans (append_nil _)⟩

theorem follows_line {line rest : List UInt8}
    (found : nextLine closed pipe.unread = .line line rest) {data : String}
    (text : lineData line = some data) :
    Pipe.Follows (prior ++ [data]) closed { pipe with unread := rest } := by
  unfold Pipe.Follows at follows ⊢
  rw [reading] at follows ⊢
  intro more last
  rw [follows more last, lines_of_nextLine found last, map_cons, text, map_append, append_assoc]
  rfl

theorem follows_failed {line rest : List UInt8}
    (found : nextLine closed pipe.unread = .line line rest) (noText : lineData line = none) :
    Pipe.Follows prior closed { pipe with unread := rest, reader := .failed } := by
  unfold Pipe.Follows at follows ⊢
  rw [reading] at follows
  intro more last
  refine ⟨(lines (rest ++ more)).map lineData, ?_⟩
  rw [follows more last, lines_of_nextLine found last, map_cons, noText]

end

theorem prior_queue (spawned : Spawned) (stream other : Stream) (data : String) :
    dataOf other spawned.sent ++ queuedOf other (spawned.queue ++ [(stream, data)]) =
      if other = stream then spawned.prior other ++ [data] else spawned.prior other := by
  unfold prior queuedOf
  rw [filterMap_append, ← append_assoc]
  by_cases here : stream = other
  · rw [if_pos here.symm]
    simp [here]
  · rw [if_neg (Ne.symm here)]
    simp [here]

theorem prior_forward (sent : List SpawnMessage) (stream other : Stream) (data : String)
    (rest : List (Stream × String)) :
    dataOf other (sent ++ [.line stream data]) ++ queuedOf other rest =
      dataOf other sent ++ queuedOf other ((stream, data) :: rest) := by
  unfold dataOf queuedOf
  rw [filterMap_append, append_assoc, filterMap_cons]
  by_cases here : stream = other
  · simp [here]
  · simp [here]

/-! ### One step -/

section

variable (sound : spawned.Sound)
include sound

variable (stream : Stream)

theorem Sound.write (bytes : List UInt8) : (spawned.write stream bytes).Sound := by
  unfold Spawned.write
  split
  next running =>
    refine ⟨fun unfinished other => ?_, sound.undone, sound.exited⟩
    have follows := sound.follows unfinished other
    change Pipe.Follows (spawned.prior other) spawned.exited.isSome
      (if other = stream then _ else spawned.pipe other)
    rw [running] at follows ⊢
    split
    next here =>
      rw [here] at follows ⊢
      exact follows_write follows bytes
    · exact follows
  · exact sound

theorem Sound.exit (code : Option Int) : (spawned.exit code).Sound := by
  unfold Spawned.exit
  split
  next running =>
    refine ⟨fun unfinished other => ?_, sound.undone, fun _ => rfl⟩
    have follows := sound.follows unfinished other
    rw [running] at follows
    exact follows_exit follows
  · exact sound

theorem Sound.setPipe (pipe : Pipe) (follows : spawned.finished = false →
      Pipe.Follows (spawned.prior stream) spawned.exited.isSome pipe) :
    (spawned.setPipe stream pipe).Sound := by
  refine ⟨fun unfinished other => ?_, sound.undone, sound.exited⟩
  change Pipe.Follows (spawned.prior other) spawned.exited.isSome
    (if other = stream then pipe else spawned.pipe other)
  split
  next here =>
    exact here ▸ follows unfinished
  · exact sound.follows unfinished other

theorem Sound.read : (spawned.read stream).Sound := by
  unfold Spawned.read
  dsimp only
  split
  next reading =>
    split
    · exact sound
    next found =>
      exact sound.setPipe stream _ fun unfinished =>
        follows_ended (sound.follows unfinished stream) reading found
    next line rest found =>
      split
      next data text =>
        split
        next finished =>
          exact sound.setPipe stream _ fun unfinished =>
            absurd (finished.symm.trans unfinished) (by simp)
        · refine ⟨fun unfinished other => ?_, sound.undone, sound.exited⟩
          change Pipe.Follows (dataOf other spawned.sent ++
            queuedOf other (spawned.queue ++ [(stream, data)])) spawned.exited.isSome
            (if other = stream then _ else spawned.pipe other)
          rw [prior_queue]
          split
          next here =>
            rw [here]
            exact follows_line (sound.follows unfinished stream) reading found text
          · exact sound.follows unfinished other
      next noText =>
        exact sound.setPipe stream _ fun unfinished =>
          follows_failed (sound.follows unfinished stream) reading found noText
  · exact sound

theorem Sound.forward : spawned.forward.Sound := by
  unfold Spawned.forward
  split
  next stream data rest queued =>
    split
    · exact sound
    · refine ⟨fun unfinished other => ?_, fun unfinished code mem => ?_, sound.exited⟩
      · have follows := sound.follows unfinished other
        rw [prior, queued, ← prior_forward] at follows
        exact follows
      · rcases mem_append.mp mem with old | new
        · exact sound.undone unfinished code old
        · exact absurd (mem_singleton.mp new) (by simp)
  · exact sound

theorem Sound.finish : spawned.finish.Sound := by
  unfold Spawned.finish
  split
  next code exited =>
    split
    · exact sound
    · exact ⟨fun impossible => absurd impossible (by simp),
        fun impossible => absurd impossible (by simp), fun _ => by
          dsimp only
          rw [exited]
          rfl⟩
  · exact sound

theorem Sound.after (event : Event) : (spawned.after event).Sound := by
  cases event with
  | write stream bytes => exact sound.write stream bytes
  | exit code => exact sound.exit code
  | read stream => exact sound.read stream
  | forward => exact sound.forward
  | finish => exact sound.finish

end

theorem Sound.init : ({} : Spawned).Sound :=
  ⟨fun _ _ _ _ => rfl, fun _ _ mem => absurd mem not_mem_nil,
    fun impossible => absurd impossible (by simp)⟩

/-! ### The end of the loop -/

/-- What the client was told of a stream is all that it is owed exactly if nothing of it is queued
or unread and all of it is text. -/
theorem told_iff {queued : List (Stream × String)} {told : List String} {stream : Stream}
    (follows : Pipe.Follows (told ++ queuedOf stream queued) true pipe) :
    told.map some = (lines pipe.written).map lineData ↔
      queuedOf stream queued = [] ∧ pipe.unread = [] ∧
        none ∉ (lines pipe.written).map lineData := by
  unfold Pipe.Follows at follows
  split at follows
  · have whole := follows [] fun _ => rfl
    rw [append_nil, append_nil, map_append, append_assoc] at whole
    constructor
    · intro all
      rw [← all] at whole ⊢
      have nothing := self_eq_append_right.mp whole
      obtain ⟨noneQueued, noneUnread⟩ := append_eq_nil_iff.mp nothing
      exact ⟨map_eq_nil_iff.mp noneQueued, eq_nil_of_lines (map_eq_nil_iff.mp noneUnread), by simp⟩
    · rintro ⟨noneQueued, noneUnread, -⟩
      rw [whole, noneQueued, noneUnread]
      exact (append_nil _).symm
  · obtain ⟨-, noneUnread, whole⟩ := follows
    rw [map_append] at whole
    constructor
    · intro all
      rw [← all] at whole ⊢
      exact ⟨map_eq_nil_iff.mp (self_eq_append_right.mp whole), noneUnread, by simp⟩
    · rintro ⟨noneQueued, -, -⟩
      rw [whole, noneQueued]
      exact (append_nil _).symm
  · obtain ⟨rest, whole⟩ := follows [] fun _ => rfl
    rw [append_nil] at whole
    refine iff_of_false (fun all => ?_) (fun drained => drained.2.2 ?_)
    · have inTold : none ∈ told.map some := by
        rw [all, whole]
        exact mem_append_right _ mem_cons_self
      simp at inTold
    · rw [whole]
      exact mem_append_right _ mem_cons_self

theorem dataOf_done (stream : Stream) (messages : List SpawnMessage) (code : Int) :
    dataOf stream (messages ++ [.done code]) = dataOf stream messages := by
  rw [dataOf, filterMap_append]
  exact append_nil _

theorem queue_eq_nil {queue : List (Stream × String)}
    (none : ∀ stream, queuedOf stream queue = []) : queue = [] := by
  refine eq_nil_iff_forall_not_mem.mpr fun (stream, data) mem => ?_
  have queued : data ∈ queuedOf stream queue :=
    mem_filterMap.mpr ⟨(stream, data), mem, if_pos rfl⟩
  rw [none stream] at queued
  exact not_mem_nil queued

theorem Sound.complete_finish_iff (sound : spawned.Sound) (unfinished : spawned.finished = false)
    {code : Option Int} (exited : spawned.exited = some code) :
    Complete { spawned with
        finished := true, sent := spawned.sent ++ [.done (code.getD (-1))] } ↔
      spawned.Drained := by
  have told (stream : Stream) :
      (dataOf stream (spawned.sent ++ [.done (code.getD (-1))])).map some = spawned.owed stream ↔
        queuedOf stream spawned.queue = [] ∧ (spawned.pipe stream).unread = [] ∧
          none ∉ spawned.owed stream := by
    have follows := sound.follows unfinished stream
    rw [exited] at follows
    rw [dataOf_done]
    exact told_iff follows
  constructor
  · intro complete
    have all := fun stream => (told stream).mp (complete.lines stream)
    exact ⟨queue_eq_nil fun stream => (all stream).1, fun stream => (all stream).2.1,
      fun stream => (all stream).2.2⟩
  · intro drained
    refine ⟨fun stream => (told stream).mpr ⟨?_, drained.unread stream, drained.text stream⟩,
      spawned.sent, code, exited, rfl, sound.undone unfinished⟩
    rw [drained.queue]
    rfl

theorem complete_congr {other : Spawned} (exited : other.exited = spawned.exited)
    (sent : other.sent = spawned.sent)
    (written : ∀ stream, (other.pipe stream).written = (spawned.pipe stream).written) :
    other.Complete ↔ spawned.Complete := by
  have owed (stream : Stream) : other.owed stream = spawned.owed stream := by
    rw [owed, owed, written]
  constructor
  · rintro ⟨all, done⟩
    rw [exited, sent] at done
    exact ⟨fun stream => by rw [← sent, ← owed]; exact all stream, done⟩
  · rintro ⟨all, done⟩
    rw [← exited, ← sent] at done
    exact ⟨fun stream => by rw [sent, owed]; exact all stream, done⟩

theorem written_setPipe {stream : Stream} (same : pipe.written = (spawned.pipe stream).written)
    (other : Stream) :
    ((spawned.setPipe stream pipe).pipe other).written = (spawned.pipe other).written := by
  rw [pipe_setPipe]
  split
  next here =>
    rw [here, same]
  · rfl

theorem finished_read (spawned : Spawned) (stream : Stream) :
    (spawned.read stream).finished = spawned.finished ∧
      (spawned.read stream).exited = spawned.exited ∧
      (spawned.read stream).sent = spawned.sent ∧
      ∀ other, ((spawned.read stream).pipe other).written = (spawned.pipe other).written := by
  unfold read
  dsimp only
  split
  · split
    · exact ⟨rfl, rfl, rfl, fun _ => rfl⟩
    · exact ⟨rfl, rfl, rfl, written_setPipe rfl⟩
    · split
      · split
        · exact ⟨rfl, rfl, rfl, written_setPipe rfl⟩
        · refine ⟨rfl, rfl, rfl, fun other => ?_⟩
          change (if other = stream then _ else spawned.pipe other).written = _
          split
          next here =>
            rw [here]
          · rfl
      · exact ⟨rfl, rfl, rfl, written_setPipe rfl⟩
  · exact ⟨rfl, rfl, rfl, fun _ => rfl⟩

/-- The outcome is complete, if the loop has ended. -/
def Told (spawned : Spawned) : Prop := spawned.finished = true → spawned.Complete

theorem Sound.told_finish_iff (sound : spawned.Sound) :
    spawned.finish.Told ↔ spawned.Told ∧ spawned.Heeds .finish := by
  unfold Told Spawned.Heeds Spawned.finish
  cases exited : spawned.exited with
  | none => simp
  | some code =>
    cases finished : spawned.finished with
    | true => simp [finished]
    | false =>
      have complete := sound.complete_finish_iff finished exited
      simpa [exited] using complete

/-- A step leaves the outcome complete exactly if it was and the loop does not turn to the exit with
something left. -/
theorem Sound.told_after_iff (sound : spawned.Sound) (event : Event) :
    (spawned.after event).Told ↔ spawned.Told ∧ spawned.Heeds event := by
  -- The steps other than the end of the loop do not change an outcome that is there.
  have frame {next : Spawned} (notFinish : event ≠ .finish)
      (finished : next.finished = spawned.finished)
      (same : spawned.finished = true → (next.Complete ↔ spawned.Complete)) :
      next.Told ↔ spawned.Told ∧ spawned.Heeds event := by
    refine Iff.trans ?_ (and_iff_left fun isFinish => absurd isFinish notFinish).symm
    unfold Told
    rw [finished]
    exact forall_congr' same
  cases event with
  | finish => exact sound.told_finish_iff
  | write stream bytes =>
    by_cases running : spawned.exited = none
    · refine frame (by simp) ?_ fun finished => ?_
      · unfold Spawned.after Spawned.write
        dsimp only
        rw [if_pos running]
        rfl
      · have exited := sound.exited finished
        rw [running] at exited
        exact absurd exited false_ne_true
    · rw [Spawned.after, Spawned.write, if_neg running]
      exact frame (by simp) rfl fun _ => Iff.rfl
  | exit code =>
    by_cases running : spawned.exited = none
    · refine frame (by simp) ?_ fun finished => ?_
      · unfold Spawned.after Spawned.exit
        dsimp only
        rw [if_pos running]
      · have exited := sound.exited finished
        rw [running] at exited
        exact absurd exited false_ne_true
    · rw [Spawned.after, Spawned.exit, if_neg running]
      exact frame (by simp) rfl fun _ => Iff.rfl
  | read stream =>
    obtain ⟨finished, exited, sent, written⟩ := finished_read spawned stream
    exact frame (by simp) finished fun _ => complete_congr exited sent written
  | forward =>
    refine frame (by simp) ?_ fun finished => ?_
    · unfold Spawned.after Spawned.forward
      dsimp only
      split
      · split <;> rfl
      · rfl
    · unfold Spawned.after Spawned.forward
      dsimp only
      split
      · rw [if_pos finished]
      · rfl

end Spawned

open Spawned

/-- In every run in which the loop ends, the client is told everything in order exactly if the loop
turns to the exit when nothing is left in the pipes and in the queue and every line is text. -/
theorem complete_iff (events : List Spawned.Event) (ended : (Spawned.run events).finished = true) :
    (Spawned.run events).Complete ↔
      Runs.Careful Spawned.after Spawned.Heeds ({} : Spawned) events := by
  have told := Runs.good_run_iff Spawned.Sound Spawned.Told
    (fun _ event sound => sound.after event) (fun _ event sound => sound.told_after_iff event)
    Sound.init events
  calc (Spawned.run events).Complete
    _ ↔ (Spawned.run events).Told := ⟨fun complete _ => complete, fun told => told ended⟩
    _ ↔ Runs.Careful Spawned.after Spawned.Heeds {} events :=
        told.trans (and_iff_right fun impossible => absurd impossible (by simp))

/-- The child writes a line to each stream and exits, and the loop serves the queue first. -/
def queueFirst : List Spawned.Event :=
  [.write .stdout [104, 105, 10], .read .stdout, .write .stderr [33], .exit (some 3),
    .read .stderr, .forward, .forward, .finish]

theorem complete_queueFirst : (Spawned.run queueFirst).Complete ↔
      Runs.Careful Spawned.after Spawned.Heeds ({} : Spawned) queueFirst :=
  complete_iff queueFirst (by decide)

/-- The child writes a line and exits, and the loop serves the exit first. -/
def exitFirst : List Spawned.Event :=
  [.write .stdout [104, 105, 10], .exit (some 0), .read .stdout, .finish, .forward]

/-- The client is told that the child is done, and never of its line. -/
theorem exitFirst_loses : (Spawned.run exitFirst).sent = [.done 0] ∧
      (Spawned.run exitFirst).owed .stdout = [some "hi\n"] := by
  decide

end Dinotty.Plugin
