/-
This file decides when a replay announces the size of the screen that it shows. A call that resizes
the session records the size and resizes the screen under different locks, and a handshake takes its
snapshot under a third.
-/

import Dinotty.Session.Threads

namespace Dinotty.Concurrent

open Screen Interleaving List Option Pool VirtualScreen

variable {vte : Vte} {width : Char → Option Nat}

/-! ### Statement -/

/-- The reader and the broadcast task are the first two threads. All the others are calls, and they
have nothing left to do. -/
def Finished (world : World vte.Parser) : Prop :=
  ∀ index ops, world.threads[index]? = some ops → index < 2 ∨ ops = []

/-- Every replay announces the size of the screen that its snapshot shows, every announcement that a
client was sent belongs to such a replay, and once all calls have finished the recorded size is
that of the screen. -/
structure Agrees (world : World vte.Parser) : Prop where
  replays : ∀ replay ∈ world.shared.history.replays,
    screenDims replay.screen = (replay.cols, replay.rows)
  announced : ∀ client ∈ world.shared.clients, ∀ cols rows,
    .replayBegin cols rows ∈ client.tx.sent → ∃ replay ∈ world.shared.history.replays,
        replay.client = client.id ∧ screenDims replay.screen = (cols, rows)
  size : Finished world → world.shared.size = screenDims world.shared.screen

/-- A thread has recorded a size and not yet resized the screen. -/
def Recording : List Action → Prop
  | .resizeScreen _ _ :: _ => True
  | _ => False

/-- The next thing that a thread does with the size of the screen is to take a snapshot. -/
def Awaits : List Action → Prop
  | [] => False
  | .resize _ _ :: _ | .drivePty _ _ :: _ | .recordSize _ _ :: _ | .resizeScreen _ _ :: _ => False
  | .findClient _ _ _ :: _ | .takeSnapshot _ _ _ :: _ => True
  | _ :: rest => Awaits rest

/-- No size is recorded while another thread is between recording a size and resizing the screen;
the screen is not resized while another thread waits to take its snapshot; and a call that finds the
session exited does not take a snapshot. -/
def Orderly (world : World vte.Parser) : Input → Prop
  | .run thread _ =>
      match world.threads[thread]? with
      | some (.recordSize _ _ :: _) =>
          ∀ other ops, other ≠ thread → world.threads[other]? = some ops → ¬ Recording ops
      | some (.resizeScreen _ _ :: _) =>
          ∀ other ops, other ≠ thread → world.threads[other]? = some ops → ¬ Awaits ops
      | some (.resize _ _ :: rest) => world.shared.exited = true → ¬ Awaits rest
      | _ => True
  | _ => True

/-! ### What the actions do with the size -/

/-- Actions that neither resize nor wait to take a snapshot. -/
def Action.Plain : Action → Prop
  | .resize _ _ | .drivePty _ _ | .recordSize _ _ | .resizeScreen _ _ | .findClient _ _ _
  | .takeSnapshot _ _ _ => False
  | _ => True

/-- Plain actions that send nothing to a single client and announce no replay. -/
def Action.Quiet : Action → Prop
  | .resize _ _ | .drivePty _ _ | .recordSize _ _ | .resizeScreen _ _ | .findClient _ _ _
  | .takeSnapshot _ _ _ | .send _ _ | .enqueueControl (.replayBegin _ _) => False
  | _ => True

variable {action : Action}

theorem Action.Quiet.plain (quiet : action.Quiet) : action.Plain := by
  cases action
  case resize | drivePty | recordSize | resizeScreen | findClient | takeSnapshot =>
    exact quiet.elim
  all_goals trivial

/-- Left to itself on a screen of the given size, a thread finds the size that it announces whenever
it takes a snapshot. -/
def Sound (dims : Nat × Nat) : List Action → Prop
  | [] => True
  | .resize cols rows :: rest | .drivePty cols rows :: rest | .recordSize cols rows :: rest
  | .resizeScreen cols rows :: rest => Sound (cols, rows) rest
  | .findClient _ cols rows :: rest | .takeSnapshot _ cols rows :: rest =>
      dims = (cols, rows) ∧ Sound dims rest
  | _ :: rest => Sound dims rest

theorem sound_plain (plain : action.Plain) (dims : Nat × Nat) (rest : List Action) :
    Sound dims (action :: rest) ↔ Sound dims rest := by
  cases action
  all_goals first
    | exact Iff.rfl
    | exact absurd plain (fun impossible => impossible)

variable {rest ops : List Action}

theorem sound_pushes {dims : Nat × Nat} (pushes : Pushes Action.Quiet rest ops)
    (sound : Sound dims rest) : Sound dims ops := by
  induction pushes with
  | rest => exact sound
  | stop => trivial
  | cons quiet later ih =>
    exact (sound_plain quiet.plain dims _).mpr ih

theorem sound_of_not_awaits (waits : ¬ Awaits ops) {dims other : Nat × Nat} (sound : Sound dims ops)
    : Sound other ops := by
  induction ops with
  | nil => trivial
  | cons action rest ih =>
    cases action
    case findClient | takeSnapshot => exact absurd trivial waits
    case resize | drivePty | recordSize | resizeScreen => exact sound
    all_goals exact ih waits sound

variable (screen : VirtualScreen vte.Parser)

theorem switch_dims (req : Option Bool) : screenDims (screen.switch req) = screenDims screen := by
  unfold switch
  split
  · split <;> rfl
  · split <;> rfl
  · rfl

theorem feedByte_dims {screen next : VirtualScreen vte.Parser} {byte : UInt8}
    (done : screen.feedByte vte width byte = some next) : screenDims next = screenDims screen := by
  obtain ⟨p, -, rfl⟩ := map_eq_some_iff.mp done
  rw [switch_dims]
  rfl

theorem collectOutput_dims (data : List UInt8) :
    screenDims (screen.collectOutput data) = screenDims screen := by
  unfold collectOutput
  split <;> rfl

theorem takeOutputs_dims (count : Nat) (screen : VirtualScreen vte.Parser) :
    screenDims (takeOutputs count screen).2 = screenDims screen := by
  induction count generalizing screen with
  | zero => rfl
  | succ count ih =>
    have first : screenDims screen.takeCommandOutput.2 = screenDims screen := by
      unfold takeCommandOutput
      split <;> rfl
    exact (ih screen.takeCommandOutput.2).trans first

theorem read_dims {screen next : VirtualScreen vte.Parser} {data : List UInt8}
    {res : FeedResult} (done : screen.read vte width data = some (next, res)) :
    screenDims next = screenDims screen := by
  obtain ⟨fed, feedDone, drained⟩ := map_eq_some_iff.mp done
  have fedDims : screenDims fed = screenDims screen :=
    Fallible.run_kept (fun other => screenDims other = screenDims screen)
      (fun _ _ _ kept taken => (feedByte_dims taken).trans kept) (collectOutput_dims screen data)
      feedDone
  cases drained
  exact (takeOutputs_dims _ _).trans fedDims

variable {choice : Choice}

/-- What a plain action leaves alone: the sizes and the replays. It puts quiet actions in front of
the rest. -/
theorem exec_plain {me : Nat} {sess next : Session vte.Parser} (plain : action.Plain)
    (done : exec vte width me choice action rest sess = some (next, ops)) :
    next.size = sess.size ∧ screenDims next.screen = screenDims sess.screen ∧
      next.history.replays = sess.history.replays ∧ Pushes Action.Quiet rest ops := by
  have frame := exec_frame done
  refine ⟨frame.size ?_, ?_, frame.replays ?_, exec_pushes done ?_⟩
  · rintro cols rows rfl
    exact plain
  · cases action
    case feed data =>
      obtain ⟨⟨screen, res⟩, read, done⟩ := map_eq_some_iff.mp done
      cases done
      exact read_dims read
    case resizeScreen => exact plain.elim
    all_goals rw [frame.screen nofun nofun]
  · rintro client cols rows rfl
    exact plain
  · cases action
    case resize | drivePty | recordSize | resizeScreen | findClient | takeSnapshot =>
      exact plain.elim
    all_goals simp [Action.PushesOnly, Action.Quiet]

/-! ### The invariant -/

/-- An announcement that is still to be sent belongs to a replay of the right size. -/
def Backed (replays : List (Replay vte.Parser)) : Action → Prop
  | .send client (.replayBegin cols rows) =>
      ∃ replay ∈ replays, replay.client = client ∧ screenDims replay.screen = (cols, rows)
  | .enqueueControl (.replayBegin _ _) => False
  | _ => True

theorem backed_quiet (replays : List (Replay vte.Parser)) (quiet : action.Quiet) :
    Backed replays action := by
  unfold Backed
  split
  · exact quiet.elim
  · exact quiet
  · trivial

theorem Backed.mono {replays later : List (Replay vte.Parser)} (backed : Backed replays action)
    (grows : replays ⊆ later) : Backed later action := by
  unfold Backed at backed ⊢
  split
  · obtain ⟨replay, mem, matching⟩ := backed
    exact ⟨replay, grows mem, matching⟩
  · exact backed
  · trivial

/-- A screen that is resized stands at the head of a thread, right after its size was recorded. -/
def Action.IsResizeScreen : Action → Prop
  | .resizeScreen _ _ => True
  | _ => False

/-- Where the threads stand with respect to the sizes. -/
structure Geometry (world : World vte.Parser) : Prop where
  sound : world.Stands fun _ session ops => Sound (screenDims session.screen) ops
  heads : world.Stands fun _ _ ops => ∀ action ∈ ops.tail, ¬ action.IsResizeScreen
  recorded : world.Stands fun _ session ops =>
    ∀ cols rows rest, ops = .resizeScreen cols rows :: rest → session.size = (cols, rows)
  alone : ∀ (index other : Nat) ops others, world.threads[index]? = some ops →
    world.threads[other]? = some others → Recording ops → Recording others → index = other
  settled : (∀ (index : Nat) ops, world.threads[index]? = some ops → ¬ Recording ops) →
    world.shared.size = screenDims world.shared.screen
  workers : world.Stands fun index _ ops => index < 2 → ∀ action ∈ ops, action.Plain
  count : 2 ≤ world.threads.length

/-- Every replay, sent or still to be sent, announces the size of its screen. -/
structure Announced (world : World vte.Parser) : Prop where
  backed : world.Stands fun _ session ops =>
    ∀ action ∈ ops, Backed session.history.replays action
  replays : ∀ replay ∈ world.shared.history.replays,
    screenDims replay.screen = (replay.cols, replay.rows)
  sent : ∀ client ∈ world.shared.clients, ∀ cols rows, .replayBegin cols rows ∈ client.tx.sent →
      ∃ replay ∈ world.shared.history.replays,
        replay.client = client.id ∧ screenDims replay.screen = (cols, rows)

theorem recording_iff :
    Recording ops ↔ ∃ cols rows rest, ops = .resizeScreen cols rows :: rest := by
  unfold Recording
  split
  · exact iff_of_true trivial ⟨_, _, _, rfl⟩
  next other =>
    exact iff_of_false (fun impossible => impossible) fun ⟨_, _, _, equal⟩ => other _ _ _ equal

theorem not_recording (none : ∀ action ∈ ops, ¬ action.IsResizeScreen) : ¬ Recording ops := by
  rw [recording_iff]
  rintro ⟨cols, rows, rest, rfl⟩
  exact none _ mem_cons_self trivial

theorem Action.Plain.not_resizeScreen (plain : action.Plain) : ¬ action.IsResizeScreen := by
  cases action
  case resizeScreen => exact plain.elim
  all_goals exact fun impossible => impossible

variable {world : World vte.Parser}

theorem agrees_of (geometry : Geometry world) (announced : Announced world) : Agrees world := by
  refine ⟨announced.replays, announced.sent, fun finished => geometry.settled ?_⟩
  intro index ops held
  rcases finished index ops held with worker | rfl
  · exact not_recording fun action mem =>
      (geometry.workers index ops held worker action mem).not_resizeScreen
  · exact fun recording => recording

/-! ### The start and the inputs that run no action -/

theorem new_threads {cols rows index : Nat}
    (held : (World.new vte cols rows).threads[index]? = some ops) :
    ops = [.readPty] ∨ ops = [.receiveBatch []] := by
  have mem := mem_of_getElem? held
  rw [World.new, mem_cons, mem_singleton] at mem
  exact mem

theorem geometry_new (cols rows : Nat) : Geometry (World.new vte cols rows) := by
  refine ⟨?_, ?_, ?_, ?_, fun _ => rfl, ?_, Nat.le_refl 2⟩
  · intro index ops held
    rcases new_threads held with rfl | rfl <;> trivial
  · intro index ops held
    rcases new_threads held with rfl | rfl <;> exact fun _ mem => nomatch mem
  · intro index ops held cols rows rest equal
    rcases new_threads held with rfl | rfl <;> cases equal
  · intro index other ops others held _ recording
    rcases new_threads held with rfl | rfl <;> exact recording.elim
  · intro index ops held _ action mem
    rcases new_threads held with rfl | rfl
    all_goals
      obtain rfl := mem_singleton.mp mem
      trivial

theorem announced_new (cols rows : Nat) : Announced (World.new vte cols rows) := by
  refine ⟨?_, fun _ mem => (nomatch mem), fun _ mem => (nomatch mem)⟩
  intro index ops held action mem
  rcases new_threads held with rfl | rfl
  all_goals
    obtain rfl := mem_singleton.mp mem
    trivial

theorem Geometry.congr {world next : World vte.Parser} (geometry : Geometry world)
    (threads : next.threads = world.threads) (size : next.shared.size = world.shared.size)
    (dims : screenDims next.shared.screen = screenDims world.shared.screen) :
    Geometry next := by
  obtain ⟨shared, ops⟩ := next
  obtain rfl : ops = world.threads := threads
  refine ⟨?_, geometry.heads, ?_, geometry.alone, ?_, geometry.workers, geometry.count⟩
  · intro index ops held
    rw [dims]
    exact geometry.sound index ops held
  · intro index ops held
    rw [size]
    exact geometry.recorded index ops held
  · intro none
    rw [size, dims]
    exact geometry.settled none

theorem program_shape (call : Call) :
    (∀ dims, Sound dims call.program) ∧ ∀ action ∈ call.program, ¬ action.IsResizeScreen := by
  cases call
  all_goals
    refine ⟨fun dims => ?_, fun action mem => ?_⟩
    · simp [Call.program, Sound]
    · simp only [Call.program, mem_cons, not_mem_nil, or_false] at mem
      rcases mem with rfl | rfl | rfl | rfl <;> exact fun impossible => impossible

/-! ### A step of a thread -/

section

variable {world next : World vte.Parser} {index : Nat} {choice : Choice} {action : Action}
  {rest ops : List Action}

theorem Geometry.still (geometry : Geometry world)
    (turn : Turn (exec vte width) index choice action rest ops world next)
    (length : next.threads.length = world.threads.length)
    (away : ¬ action.IsResizeScreen) (size : next.shared.size = world.shared.size)
    (dims : screenDims next.shared.screen = screenDims world.shared.screen)
    (sound : Sound (screenDims world.shared.screen) ops)
    (none : ∀ action ∈ ops, ¬ action.IsResizeScreen)
    (worker : index < 2 → ∀ action ∈ ops, action.Plain) : Geometry next := by
  have ⟨held, _, ownNext, same⟩ := turn
  refine ⟨turn.forall (by rw [dims]; exact sound) fun other others _ before => ?_,
    turn.forall (fun action mem => none action (mem_of_mem_tail mem)) fun other others _ before =>
      geometry.heads other others before,
    turn.forall ?_ fun other others _ before => ?_, ?_, ?_,
    turn.forall worker fun other others _ before => geometry.workers other others before,
    by rw [length]; exact geometry.count⟩
  · rw [dims]
    exact geometry.sound other others before
  · rintro cols rows later rfl
    exact absurd trivial (none _ mem_cons_self)
  · rw [size]
    exact geometry.recorded other others before
  · intro first second firstOps secondOps firstPresent secondPresent firstRecords secondRecords
    rcases after_cases ownNext same firstPresent with ⟨rfl, rfl⟩ | ⟨-, firstBefore⟩
    · exact absurd firstRecords (not_recording none)
    · rcases after_cases ownNext same secondPresent with ⟨rfl, rfl⟩ | ⟨-, secondBefore⟩
      · exact absurd secondRecords (not_recording none)
      · exact geometry.alone _ _ _ _ firstBefore secondBefore firstRecords secondRecords
  · intro quiet
    rw [size, dims]
    refine geometry.settled fun other others before => ?_
    by_cases here : other = index
    · subst here
      rw [held] at before
      cases before
      rw [recording_iff]
      rintro ⟨cols, rows, later, equal⟩
      cases equal
      exact away trivial
    · exact quiet other others (by rw [same other here]; exact before)

variable {cols rows : Nat}

/-- A resize runs on no worker. -/
theorem Geometry.workers_step (geometry : Geometry world)
    (turn : Turn (exec vte width) index choice action rest ops world next)
    (resizes : ¬ action.Plain) :
    next.Stands fun index _ ops => index < 2 → ∀ action ∈ ops, action.Plain :=
  turn.forall (fun worker => absurd (geometry.workers _ _ turn.present worker _ mem_cons_self) resizes)
    fun other others _ before => geometry.workers other others before

theorem Geometry.record (geometry : Geometry world)
    (turn : Turn (exec vte width) index choice (.recordSize cols rows) rest
      (.resizeScreen cols rows :: rest) world next)
    (length : next.threads.length = world.threads.length) (size : next.shared.size = (cols, rows))
    (screen : next.shared.screen = world.shared.screen)
    (alone : ∀ other ops, other ≠ index → world.threads[other]? = some ops → ¬ Recording ops) :
    Geometry next := by
  have ⟨held, _, ownNext, same⟩ := turn
  have sound := geometry.sound _ _ held
  have heads := geometry.heads _ _ held
  refine ⟨turn.forall ?_ fun other others _ before => ?_,
    turn.forall heads fun other others _ before =>
      geometry.heads other others before,
    turn.forall ?_ fun other others away before => ?_, ?_,
    fun quiet => absurd trivial (quiet index _ ownNext),
    geometry.workers_step turn id, by rw [length]; exact geometry.count⟩
  · rw [screen]
    exact sound
  · rw [screen]
    exact geometry.sound other others before
  · intro ownCols ownRows later equal
    cases equal
    exact size
  · rintro otherCols otherRows later rfl
    exact absurd trivial (alone other _ away before)
  · intro first second firstOps secondOps firstPresent secondPresent firstRecords secondRecords
    rcases after_cases ownNext same firstPresent with ⟨rfl, -⟩ | ⟨away, before⟩
    · rcases after_cases ownNext same secondPresent with ⟨rfl, -⟩ | ⟨away, before⟩
      · rfl
      · exact absurd secondRecords (alone second _ away before)
    · exact absurd firstRecords (alone first _ away before)

theorem Geometry.fit (geometry : Geometry world)
    (turn : Turn (exec vte width) index choice (.resizeScreen cols rows) rest rest world next)
    (length : next.threads.length = world.threads.length)
    (size : next.shared.size = world.shared.size)
    (dims : screenDims next.shared.screen = (cols, rows))
    (nobody : ∀ other ops, other ≠ index → world.threads[other]? = some ops → ¬ Awaits ops) :
    Geometry next := by
  have ⟨held, _, ownNext, same⟩ := turn
  have heads := geometry.heads _ _ held
  have alone (other : Nat) (others : List Action) (away : other ≠ index)
      (before : world.threads[other]? = some others) : ¬ Recording others := fun recording =>
    away (geometry.alone _ _ _ _ before held recording trivial)
  refine ⟨turn.forall ?_ fun other others away before => ?_,
    turn.forall (fun action mem => heads action (mem_of_mem_tail mem)) fun other others _ before =>
      geometry.heads other others before,
    turn.forall ?_ fun other others away before => ?_, ?_,
    fun _ => by rw [size, dims, geometry.recorded _ _ held cols rows rest rfl],
    geometry.workers_step turn id, by rw [length]; exact geometry.count⟩
  · rw [dims]
    exact geometry.sound _ _ held
  · exact sound_of_not_awaits (nobody other others away before)
      (geometry.sound other others before)
  · rintro ownCols ownRows later rfl
    exact absurd trivial (heads _ mem_cons_self)
  · rintro otherCols otherRows later rfl
    exact absurd trivial (alone other _ away before)
  · intro first second firstOps secondOps firstPresent secondPresent firstRecords secondRecords
    rcases after_cases ownNext same firstPresent with ⟨rfl, rfl⟩ | ⟨away, before⟩
    · exact absurd firstRecords (not_recording heads)
    · exact absurd firstRecords (alone first _ away before)

theorem resize_dims {Parser : Type} {screen next : VirtualScreen Parser}
    (done : screen.resize cols rows = some next) : screenDims next = (cols, rows) := by
  obtain ⟨⟨primary, hist⟩, -, done⟩ := bind_eq_some_iff.mp done
  obtain ⟨⟨alternate, none'⟩, -, done⟩ := bind_eq_some_iff.mp done
  cases done
  rfl

theorem replayActions_shape (client cols rows : Nat) :
    ∀ action ∈ replayActions screen client cols rows, action.Plain := by
  intro action mem
  simp only [replayActions, mem_append, List.mem_map, mem_cons, not_mem_nil, or_false] at mem
  rcases mem with (rfl | ⟨chunk, -, rfl⟩) | rfl | rfl | rfl | rfl <;> trivial

theorem sound_append {front : List Action} (plain : ∀ action ∈ front, action.Plain)
    {dims : Nat × Nat} (sound : Sound dims rest) : Sound dims (front ++ rest) := by
  induction front with
  | nil => exact sound
  | cons head later ih =>
    rw [cons_append, sound_plain (plain head mem_cons_self)]
    exact ih fun other mem => plain other (mem_cons_of_mem _ mem)

theorem geometry_exec (geometry : Geometry world) (orderly : Orderly world (.run index choice))
    (done : Pool.step (exec vte width) world index choice = some next) : Geometry next := by
  obtain ⟨action, rest, ops, turn⟩ := step_cases done
  have ⟨held, ran, _, _⟩ := turn
  have length := step_length done
  have sound := geometry.sound _ _ held
  have heads := geometry.heads _ _ held
  have worker := geometry.workers _ _ held
  simp only [Orderly, held] at orderly
  by_cases plain : action.Plain
  · obtain ⟨size, dims, -, pushes⟩ := exec_plain plain ran
    refine geometry.still turn length plain.not_resizeScreen size dims
      (sound_pushes pushes ((sound_plain plain _ _).mp sound))
      (pushes.forall (fun _ quiet => quiet.plain.not_resizeScreen) heads) fun early => ?_
    exact pushes.forall (fun _ quiet => quiet.plain) fun other mem =>
      worker early other (mem_cons_of_mem _ mem)
  have late (early : index < 2) : False := plain (worker early _ mem_cons_self)
  cases action
  case resize cols rows =>
    obtain ⟨shared, rfl⟩ := Prod.mk.inj (some.inj ran)
    refine geometry.still turn length (fun impossible => impossible)
      (by rw [← shared]) (by rw [← shared]) ?_ ?_ fun early => (late early).elim
    · split
      next exited =>
        exact sound_of_not_awaits (orderly exited) sound
      · exact sound
    · split
      · exact heads
      · exact forall_mem_cons.mpr ⟨fun impossible => impossible, heads⟩
  case drivePty cols rows =>
    obtain ⟨shared, rfl⟩ := Prod.mk.inj (some.inj ran)
    refine geometry.still turn length (fun impossible => impossible)
      (by rw [← shared]) (by rw [← shared]) ?_ ?_ fun early => (late early).elim
    · split
      · trivial
      · exact sound
    · split
      · exact fun _ mem => nomatch mem
      · exact forall_mem_cons.mpr ⟨fun impossible => impossible, heads⟩
  case recordSize cols rows =>
    obtain ⟨shared, rfl⟩ := Prod.mk.inj (some.inj ran)
    exact geometry.record turn length (by rw [← shared]) (by rw [← shared]) orderly
  case resizeScreen cols rows =>
    obtain ⟨screen, resized, equal⟩ := map_eq_some_iff.mp ran
    obtain ⟨shared, rfl⟩ := Prod.mk.inj equal
    refine geometry.fit turn length ?_ ?_ orderly
    · rw [← shared]
    · rw [← shared]
      exact resize_dims resized
  case findClient client cols rows =>
    simp only [exec] at ran
    split at ran
    · cases ran
    · split at ran
      all_goals
        obtain ⟨shared, rfl⟩ := Prod.mk.inj (some.inj ran)
        refine geometry.still turn length (fun impossible => impossible)
          (by rw [← shared]) (by rw [← shared]) ?_ ?_ fun early => (late early).elim
      · exact sound
      · exact forall_mem_cons.mpr ⟨fun impossible => impossible, heads⟩
      · trivial
      · exact fun _ mem => nomatch mem
  case takeSnapshot client cols rows =>
    obtain ⟨shared, rfl⟩ := Prod.mk.inj (some.inj ran)
    have shape := replayActions_shape world.shared.screen client cols rows
    refine geometry.still turn length (fun impossible => impossible)
      (by rw [← shared]) (by rw [← shared]) (sound_append shape sound.2) ?_
      fun early => (late early).elim
    intro other mem
    rcases mem_append.mp mem with front | back
    · exact (shape other front).not_resizeScreen
    · exact heads other back
  all_goals exact absurd trivial plain

end

/-! ### Runs -/

theorem Geometry.spawn (geometry : Geometry world) (call : Call) :
    Geometry (world.spawn call.program) := by
  obtain ⟨sound, none⟩ := program_shape call
  have program : ¬ Recording call.program := not_recording none
  refine ⟨spawn_stands geometry.sound (sound _),
    spawn_stands geometry.heads fun action mem => none action (mem_of_mem_tail mem),
    spawn_stands geometry.recorded ?_, ?_, fun quiet => geometry.settled ?_,
    spawn_stands geometry.workers ?_, ?_⟩
  · intro cols rows rest equal
    exact absurd (recording_iff.mpr ⟨cols, rows, rest, equal⟩) program
  · intro first second firstOps secondOps firstPresent secondPresent firstRecords secondRecords
    rcases spawn_cases firstPresent with firstBefore | ⟨-, rfl⟩
    · rcases spawn_cases secondPresent with secondBefore | ⟨-, rfl⟩
      · exact geometry.alone _ _ _ _ firstBefore secondBefore firstRecords secondRecords
      · exact absurd secondRecords program
    · exact absurd firstRecords program
  · exact fun other others before => quiet other others (spawn_kept _ before)
  · intro early
    exact absurd early (Nat.not_lt.mpr geometry.count)
  · rw [Pool.spawn, length_append]
    exact Nat.le_add_right_of_le geometry.count

theorem geometry_step {world next : World vte.Parser} {input : Input}
    (geometry : Geometry world) (orderly : Orderly world input)
    (done : step vte width world input = some next) : Geometry next := by
  cases input with
  | run thread choice => exact geometry_exec geometry orderly done
  | call call =>
    cases done
    exact geometry.spawn call
  | addClient | removeClient id =>
    obtain ⟨sess, changed, rfl⟩ := map_eq_some_iff.mp done
    obtain rfl := changeClients_eq_some changed
    exact geometry.congr rfl rfl rfl
  | receive id | hangUp id =>
    cases done
    exact geometry.congr rfl rfl rfl

theorem backed_append {front : List Action} {replays : List (Replay vte.Parser)}
    (one : ∀ action ∈ front, Backed replays action) (two : ∀ action ∈ rest, Backed replays action) :
    ∀ action ∈ front ++ rest, Backed replays action := by
  intro action mem
  rcases mem_append.mp mem with early | late
  · exact one action early
  · exact two action late

/-- An action adds only replays of the right size, and what it leaves to its thread announces no
others. -/
theorem exec_announced {me : Nat} {sess next : Session vte.Parser}
    (sound : Sound (screenDims sess.screen) (action :: rest))
    (backed : ∀ other ∈ rest, Backed sess.history.replays other)
    (done : exec vte width me choice action rest sess = some (next, ops)) :
    (∃ more, next.history.replays = sess.history.replays ++ more ∧
        ∀ replay ∈ more, screenDims replay.screen = (replay.cols, replay.rows)) ∧
      ∀ other ∈ ops, Backed next.history.replays other := by
  have same (equal : next.history.replays = sess.history.replays) :
      ∃ more, next.history.replays = sess.history.replays ++ more ∧
        ∀ replay ∈ more, screenDims replay.screen = (replay.cols, replay.rows) :=
    ⟨[], by rw [equal, append_nil], fun _ mem => nomatch mem⟩
  by_cases plain : action.Plain
  · obtain ⟨-, -, replays, pushes⟩ := exec_plain plain done
    refine ⟨same replays, ?_⟩
    rw [replays]
    exact pushes.forall (fun _ quiet => backed_quiet _ quiet) backed
  cases action
  case resize cols rows =>
    cases done
    refine ⟨same rfl, ?_⟩
    split
    · exact backed
    · exact forall_mem_cons.mpr ⟨trivial, backed⟩
  case drivePty cols rows =>
    cases done
    refine ⟨same rfl, ?_⟩
    split
    · exact fun _ mem => nomatch mem
    · exact forall_mem_cons.mpr ⟨trivial, backed⟩
  case recordSize cols rows =>
    cases done
    exact ⟨same rfl, forall_mem_cons.mpr ⟨trivial, backed⟩⟩
  case resizeScreen cols rows =>
    obtain ⟨screen, -, equal⟩ := map_eq_some_iff.mp done
    cases equal
    exact ⟨same rfl, backed⟩
  case findClient client cols rows =>
    simp only [exec] at done
    split at done
    · cases done
    · split at done
      all_goals cases done
      · exact ⟨same rfl, forall_mem_cons.mpr ⟨trivial, backed⟩⟩
      · exact ⟨same rfl, fun _ mem => nomatch mem⟩
  case takeSnapshot client cols rows =>
    cases done
    have dims : screenDims sess.screen = (cols, rows) := sound.1
    refine ⟨⟨_, rfl, fun replay mem => ?_⟩, backed_append ?_ fun other mem =>
      (backed other mem).mono (subset_append_left _ _)⟩
    · obtain rfl := mem_singleton.mp mem
      exact dims
    · intro other mem
      simp only [replayActions, mem_append, List.mem_map, mem_cons, not_mem_nil, or_false] at mem
      rcases mem with (rfl | ⟨chunk, -, rfl⟩) | rfl | rfl | rfl | rfl
      · exact ⟨_, mem_append_right _ mem_cons_self, rfl, dims⟩
      all_goals trivial
  all_goals exact absurd trivial plain

theorem carried_sent {before after : List ClientEndpoint} (carried : Carried action before after)
    {client : ClientEndpoint} (mem : client ∈ after) {event : SessionClientEvent}
    (sent : event ∈ client.tx.sent) :
    ∃ old ∈ before, old.id = client.id ∧ (event ∈ old.tx.sent ∨ action.Sends old event) := by
  obtain ⟨kept, sublist, rfl, -⟩ := carried
  obtain ⟨old, keptMember, rfl⟩ := mem_map.mp mem
  refine ⟨old, sublist.subset keptMember, (onClient_id action old).symm, ?_⟩
  rcases onClient_tx action old with ⟨same, -⟩ | ⟨offered, sends, changed⟩
  · rw [same] at sent
    exact .inl sent
  · rw [changed] at sent
    rcases old.tx.trySend_cases offered with ⟨-, grown, -⟩ | ⟨-, same, -⟩
    · rw [grown, mem_append, mem_singleton] at sent
      rcases sent with early | rfl
      · exact .inl early
      · exact .inr sends
    · rw [same] at sent
      exact .inl sent

theorem backed_sends {replays : List (Replay vte.Parser)} {client : ClientEndpoint}
    {cols rows : Nat} (backed : Backed replays action)
    (sends : action.Sends client (.replayBegin cols rows)) :
    ∃ replay ∈ replays, replay.client = client.id ∧ screenDims replay.screen = (cols, rows) := by
  cases action
  case enqueueControl event =>
    obtain rfl : .replayBegin cols rows = event := sends
    exact backed.elim
  case sendChunk => exact nomatch sends.2
  case broadcastResize => exact nomatch sends.2
  case send id event =>
    obtain ⟨rfl, rfl⟩ : client.id = id ∧ .replayBegin cols rows = event := sends
    exact backed
  all_goals exact sends.elim

theorem announced_exec {world next : World vte.Parser} {index : Nat} (geometry : Geometry world)
    (announced : Announced world) (done : Pool.step (exec vte width) world index choice = some next)
    : Announced next := by
  obtain ⟨action, rest, ops, held, ran, ownNext, same⟩ := step_cases done
  have backed := announced.backed _ _ held
  obtain ⟨⟨more, replays, agree⟩, own⟩ := exec_announced (geometry.sound _ _ held)
    (fun other mem => backed other (mem_cons_of_mem _ mem)) ran
  have grows : world.shared.history.replays ⊆ next.shared.history.replays := by
    rw [replays]
    exact subset_append_left _ _
  refine ⟨?_, ?_, ?_⟩
  · intro other others presentOther
    rcases after_cases ownNext same presentOther with ⟨rfl, rfl⟩ | ⟨-, before⟩
    · exact own
    · exact fun action mem => (announced.backed other others before action mem).mono grows
  · intro replay mem
    rw [replays] at mem
    rcases mem_append.mp mem with early | late
    · exact announced.replays replay early
    · exact agree replay late
  · intro client mem cols rows sent
    obtain ⟨old, oldMember, sameId, before | now⟩ :=
      carried_sent (exec_carried ran) mem sent
    · obtain ⟨replay, replayMember, matching⟩ := announced.sent old oldMember cols rows before
      rw [sameId] at matching
      exact ⟨replay, grows replayMember, matching⟩
    · obtain ⟨replay, replayMember, matching⟩ := backed_sends (backed _ mem_cons_self) now
      rw [sameId] at matching
      exact ⟨replay, grows replayMember, matching⟩

theorem Announced.congr {world next : World vte.Parser} (announced : Announced world)
    (threads : next.threads = world.threads)
    (history : next.shared.history = world.shared.history)
    (clients : ∀ client ∈ next.shared.clients, client.tx.sent = [] ∨
      ∃ old ∈ world.shared.clients, old.id = client.id ∧ old.tx.sent = client.tx.sent) :
    Announced next := by
  obtain ⟨shared, ops⟩ := next
  obtain rfl : ops = world.threads := threads
  refine ⟨?_, ?_, ?_⟩
  · intro index ops held
    rw [history]
    exact announced.backed index ops held
  · rw [history]
    exact announced.replays
  · intro client mem cols rows sent
    rw [history]
    rcases clients client mem with empty | ⟨old, oldMember, sameId, sameSent⟩
    · rw [empty] at sent
      exact nomatch sent
    · rw [← sameSent] at sent
      rw [← sameId]
      exact announced.sent old oldMember cols rows sent

theorem changeChannel_sent {sess : Session vte.Parser} {id : Nat}
    {change : Mailbox SessionClientEvent → Mailbox SessionClientEvent}
    (keeps : ∀ channel, (change channel).sent = channel.sent) :
    ∀ client ∈ (changeChannel sess id change).clients, client.tx.sent = [] ∨
      ∃ old ∈ sess.clients, old.id = client.id ∧ old.tx.sent = client.tx.sent := by
  intro client mem
  obtain ⟨old, oldMember, rfl⟩ := mem_map.mp mem
  refine .inr ⟨old, oldMember, ?_⟩
  split
  · exact ⟨rfl, (keeps old.tx).symm⟩
  · exact ⟨rfl, rfl⟩

theorem announced_step {world next : World vte.Parser} {input : Input}
    (geometry : Geometry world) (announced : Announced world)
    (done : step vte width world input = some next) : Announced next := by
  cases input with
  | run thread choice => exact announced_exec geometry announced done
  | call call =>
    cases done
    refine ⟨spawn_stands announced.backed ?_, announced.replays, announced.sent⟩
    intro action mem
    cases call
    all_goals
      simp only [Call.program, mem_cons, not_mem_nil, or_false] at mem
      rcases mem with rfl | rfl | rfl | rfl <;> trivial
  | addClient =>
    obtain ⟨sess, changed, rfl⟩ := map_eq_some_iff.mp done
    obtain rfl := changeClients_eq_some changed
    refine announced.congr rfl rfl fun client mem => ?_
    rcases mem_append.mp mem with old | new
    · exact .inr ⟨client, old, rfl, rfl⟩
    · obtain rfl := mem_singleton.mp new
      exact .inl rfl
  | removeClient id =>
    obtain ⟨sess, changed, rfl⟩ := map_eq_some_iff.mp done
    obtain rfl := changeClients_eq_some changed
    exact announced.congr rfl rfl fun client mem =>
      .inr ⟨client, mem_of_mem_filter mem, rfl, rfl⟩
  | receive id =>
    cases done
    exact announced.congr rfl rfl (changeChannel_sent Mailbox.receive_sent)
  | hangUp id =>
    cases done
    exact announced.congr rfl rfl (changeChannel_sent fun _ => rfl)

/-- In every interleaving whose steps all meet the condition, replays announce the right size, and
once all calls have finished the recorded size is that of the screen. -/
theorem replay_geometry_agrees (vte : Vte) (width : Char → Option Nat) (cols rows : Nat)
    (inputs : List Input)
    (orderly : Fallible.Meets (step vte width) Orderly (World.new vte cols rows) inputs)
    {final : World vte.Parser}
    (reached : Fallible.run (step vte width) (World.new vte cols rows) inputs = some final) :
    Agrees final := by
  have kept : Geometry final ∧ Announced final :=
    Fallible.run_invariant (fun _ (_ : Input) _ (holds : Geometry _ ∧ Announced _) orderly done =>
        ⟨geometry_step holds.1 orderly done, announced_step holds.1 holds.2 done⟩)
      ⟨geometry_new cols rows, announced_new cols rows⟩ orderly reached
  exact agrees_of kept.1 kept.2

theorem orderly_solo {own : List Action}
    (threads : world.threads = [[.readPty], [.receiveBatch []], own])
    (live : world.shared.exited = false) : Orderly world (.run 2 choice) := by
  have others (other : Nat) (ops : List Action) (away : other ≠ 2)
      (held : world.threads[other]? = some ops) :
      ops = [.readPty] ∨ ops = [.receiveBatch []] := by
    rw [threads] at held
    match other, away, held with
    | 0, _, held => exact .inl (some.inj held).symm
    | 1, _, held => exact .inr (some.inj held).symm
    | 2, away, _ => exact absurd rfl away
    | _ + 3, _, held => exact nomatch held
  simp only [Orderly, threads, getElem?_cons_succ, getElem?_cons_zero]
  split
  · intro other ops away held
    rcases others other ops away (threads ▸ held) with rfl | rfl <;> exact id
  · intro other ops away held
    rcases others other ops away (threads ▸ held) with rfl | rfl <;> exact id
  · intro exited
    rw [live] at exited
    exact nomatch exited
  · trivial

/-- A client that joins and asks for a snapshot of another size. -/
def joinInputs : List Input :=
  [.addClient, .call (.atomicResizeAndSnapshotForClient 0 3 2)] ++
    List.replicate 7 (.run 2 .proceed)

theorem replay_geometry_agrees_join :
    ∃ final, Fallible.run (step smallVte smallWidth) (World.new smallVte 2 1) joinInputs =
        some final ∧ Agrees final := by
  have reached : (Fallible.run (step smallVte smallWidth) (World.new smallVte 2 1)
      joinInputs).isSome = true := by decide +kernel
  obtain ⟨final, done⟩ := isSome_iff_exists.mp reached
  refine ⟨final, done, replay_geometry_agrees smallVte smallWidth 2 1 joinInputs ?_ done⟩
  refine ⟨trivial, fun next taken => ?_⟩
  cases taken
  refine ⟨trivial, fun next taken => ?_⟩
  cases taken
  iterate 7
    refine ⟨orderly_solo rfl rfl, fun next taken => ?_⟩
    cases taken
  trivial

/-- Two resizes whose writes interleave leave a wrong recorded size, and a resize between the resize
of a handshake and its snapshot makes the replay announce a wrong one. -/
theorem interleaved_resizes_disagree :
    (∃ final, Fallible.run (step smallVte smallWidth) (World.new smallVte 2 1)
        ([.call (.resize 3 2), .call (.resize 4 3)] ++
          ([2, 2, 2, 3, 3, 3, 3, 2].map fun thread => .run thread .proceed)) = some final ∧
        Finished final ∧ final.shared.size = (4, 3) ∧ screenDims final.shared.screen = (3, 2)) ∧
      ∃ final, Fallible.run (step smallVte smallWidth) (World.new smallVte 2 1)
        ([.addClient, .call (.atomicResizeAndSnapshotForClient 0 3 2), .call (.resize 4 3)] ++
          ([2, 2, 2, 2, 2, 3, 3, 3, 3, 2, 2, 2].map fun thread => .run thread .proceed)) =
            some final ∧
        ¬ Agrees final := by
  constructor
  · have reached : (Fallible.run (step smallVte smallWidth) (World.new smallVte 2 1)
        ([.call (.resize 3 2), .call (.resize 4 3)] ++
          ([2, 2, 2, 3, 3, 3, 3, 2].map fun thread => .run thread .proceed))).map
        (fun world => (world.threads, world.shared.size, screenDims world.shared.screen)) =
        some ([[.readPty], [.receiveBatch []], [], []], (4, 3), (3, 2)) := by decide +kernel
    obtain ⟨final, done, facts⟩ := map_eq_some_iff.mp reached
    obtain ⟨threads, sizes⟩ := Prod.mk.inj facts
    obtain ⟨size, dims⟩ := Prod.mk.inj sizes
    refine ⟨final, done, fun index ops present => ?_, size, dims⟩
    rw [threads] at present
    match index, present with
    | 0, _ | 1, _ => exact .inl (by decide)
    | 2, present | 3, present => exact .inr (some.inj present).symm
    | _ + 4, present => exact nomatch present
  · have reached : (Fallible.run (step smallVte smallWidth) (World.new smallVte 2 1)
        ([.addClient, .call (.atomicResizeAndSnapshotForClient 0 3 2), .call (.resize 4 3)] ++
          ([2, 2, 2, 2, 2, 3, 3, 3, 3, 2, 2, 2].map fun thread => .run thread .proceed))).map
        (fun world => world.shared.clients.map fun client => client.tx.sent) =
        some [[.replayBegin 3 2]] ∧
      (Fallible.run (step smallVte smallWidth) (World.new smallVte 2 1)
        ([.addClient, .call (.atomicResizeAndSnapshotForClient 0 3 2), .call (.resize 4 3)] ++
          ([2, 2, 2, 2, 2, 3, 3, 3, 3, 2, 2, 2].map fun thread => .run thread .proceed))).map
        (fun world => world.shared.history.replays.map fun replay =>
          ((replay.cols, replay.rows), screenDims replay.screen)) =
        some [((3, 2), (4, 3))] := by decide +kernel
    obtain ⟨final, done, -⟩ := map_eq_some_iff.mp reached.1
    refine ⟨final, done, fun agrees => ?_⟩
    have replays := reached.2
    rw [done, map_some, Option.some.injEq] at replays
    obtain ⟨replay, rest, single, facts, -⟩ := map_eq_cons_iff.mp replays
    have agree := agrees.replays replay (by rw [single]; exact mem_cons_self)
    obtain ⟨announced, shown⟩ := Prod.mk.inj facts
    rw [announced, shown] at agree
    exact absurd agree (by decide)

end Dinotty.Concurrent
