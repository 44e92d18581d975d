/-
This file is the watching of one path. A client that leaves removes the entry, whoever else still
uses it. The subscribers are all served exactly if no task that is waited for finds the map without
an entry or is refused by the system, and nobody joins a sender whose task has ended.
-/

import Dinotty.Foundation.Broadcast
import Dinotty.Foundation.Runs

namespace Dinotty.FileWatcher

open Broadcast List Option Bool Channel

/-! ### Messages -/

inductive FileEventKind where
  | changed
  | created
  | deleted
  deriving DecidableEq

def FileEventKind.asStr : FileEventKind → String
  | .changed => "changed"
  | .created => "created"
  | .deleted => "deleted"

structure FileEvent where
  path : String
  kind : FileEventKind
  deriving DecidableEq

inductive WatchMessage where
  | fileEvent (event : FileEvent)
  | error (message : String)
  deriving DecidableEq

/-- What the system says has happened. -/
inductive EventKind where
  | create
  | modify
  | remove
  | other
  deriving DecidableEq

/-- What the system tells a watcher: what has happened to some paths, or that watching failed. -/
inductive Notification where
  | ok (kind : EventKind) (paths : List String)
  | err (message : String)
  deriving DecidableEq

def kindOf : EventKind → Option FileEventKind
  | .create => some .created
  | .modify => some .changed
  | .remove => some .deleted
  | .other => none

def messages : Notification → List WatchMessage
  | .ok kind paths =>
      match kindOf kind with
      | some kind => paths.map fun path => .fileEvent { path, kind }
      | none => []
  | .err message => [.error message]

/-! ### The parties -/

inductive Task where
  | starting
  | waiting
  | sending (rest : List WatchMessage)
  | leaving
  | stopped
  deriving DecidableEq

/-- The sender and the task that one subscription made. The channel of a hundred messages is rounded
up to a power of two. -/
structure Watcher where
  sender : Channel WatchMessage := { capacity := 128 }
  task : Task := .starting
  queue : List Notification := []
  heard : List Notification := []

inductive Party where
  | client
  | plugin
  deriving DecidableEq

inductive Phase where
  | connected
  | leaving
  | gone
  deriving DecidableEq

/-- A subscriber with its watcher, the place and the number of notifications from which it follows
it, its place now, what it has received and how much it has missed. -/
structure Subscriber where
  party : Party
  watcher : Nat
  start : Nat
  heardBefore : Nat
  next : Nat
  received : List WatchMessage := []
  missed : Nat := 0
  phase : Phase := .connected

structure FileWatcherState where
  entry : Option Nat := none
  watchers : List Watcher := []
  subscribers : List Subscriber := []
  published : List (String × String) := []

/-! ### The steps -/

/-- Join the sender of the entry, or make an entry with a sender and a task. -/
def FileWatcherState.subscribe (state : FileWatcherState) (party : Party) : FileWatcherState :=
  match state.entry with
  | some index =>
      let watcher := state.watchers.getD index {}
      { state with
        subscribers := state.subscribers ++
          [{ party, watcher := index, start := watcher.sender.sent.length
             heardBefore := watcher.heard.length, next := watcher.sender.sent.length }] }
  | none =>
      { state with
        entry := some state.watchers.length
        watchers := state.watchers ++ [{}]
        subscribers := state.subscribers ++
          [{ party, watcher := state.watchers.length, start := 0, heardBefore := 0, next := 0 }] }

/-- A socket closes. A client has still to unsubscribe. -/
def Subscriber.disconnect (subscriber : Subscriber) : Subscriber :=
  if subscriber.phase = .connected then
    { subscriber with
      phase := match subscriber.party with
        | .client => .leaving
        | .plugin => .gone }
  else subscriber

/-- One round of the loop of a subscriber. It goes on when it has fallen behind, and leaves when the
channel is closed. -/
def Subscriber.receive (sender : Channel WatchMessage) (closed : Bool) (subscriber : Subscriber) :
    Subscriber :=
  if subscriber.phase = .connected then
    match sender.recv subscriber.next with
    | (.value message, next) =>
        { subscriber with next, received := subscriber.received ++ [message] }
    | (.lagged missed, next) => { subscriber with next, missed := subscriber.missed + missed }
    | (.empty, _) => if closed then subscriber.disconnect else subscriber
  else subscriber

/-- The system grants the watch, or refuses it and the task ends. -/
def Watcher.start (granted : Bool) (watcher : Watcher) : Watcher :=
  if watcher.task = .starting then
    { watcher with task := if granted then .waiting else .stopped }
  else watcher

/-- The watch lasts from where it is granted to the end of the task. -/
def Task.watches : Task → Bool
  | .starting => false
  | .waiting => true
  | .sending _ => true
  | .leaving => true
  | .stopped => false

def Watcher.notify (notification : Notification) (watcher : Watcher) : Watcher :=
  if watcher.task.watches then
    { watcher with
      queue := watcher.queue ++ [notification]
      heard := watcher.heard ++ [notification] }
  else watcher

/-- Take what the system told, if the map has an entry for the key; else leave. -/
def Watcher.take (present : Bool) (watcher : Watcher) : Watcher :=
  match watcher.task, watcher.queue with
  | .waiting, notification :: rest =>
      { watcher with
        queue := rest
        task := if present then .sending (messages notification) else .leaving }
  | _, _ => watcher

/-- Pass the next message on. A file event that nobody can receive ends the task at once. -/
def Watcher.send (received : Bool) (watcher : Watcher) : Watcher :=
  match watcher.task with
  | .sending (.fileEvent event :: rest) =>
      if received then
        { watcher with sender := watcher.sender.send (.fileEvent event), task := .sending rest }
      else { watcher with task := .stopped }
  | .sending (.error message :: rest) =>
      { watcher with sender := watcher.sender.send (.error message), task := .sending rest }
  | .sending [] => { watcher with task := .waiting }
  | _ => watcher

def Watcher.finish (watcher : Watcher) : Watcher :=
  if watcher.task = .leaving then { watcher with task := .stopped } else watcher

/-- What a watcher that passes a file event on tells the event bus. -/
def Task.publishes : Task → List (String × String)
  | .sending (.fileEvent event :: _) => [(event.path, event.kind.asStr)]
  | _ => []

inductive Event where
  | subscribe (party : Party)
  | disconnect (index : Nat)
  | unsubscribe (index : Nat)
  | receive (index : Nat)
  | start (index : Nat) (granted : Bool)
  | notify (index : Nat) (notification : Notification)
  | take (index : Nat)
  | send (index : Nat)
  | remove (index : Nat)

namespace FileWatcherState

def task (state : FileWatcherState) (index : Nat) : Task :=
  (state.watchers.getD index { task := .stopped }).task

variable (state : FileWatcherState)

/-- Somebody holds a receiver of the sender; a client does until it has unsubscribed. -/
def hasReceiver (index : Nat) : Bool :=
  state.subscribers.any fun subscriber =>
    subscriber.watcher = index && subscriber.phase ≠ .gone

/-- Nothing can be sent any more: neither the map nor a task has the sender. -/
def closed (index : Nat) : Bool :=
  state.entry ≠ some index && state.task index = .stopped

def onWatcher (index : Nat) (change : Watcher → Watcher) : FileWatcherState :=
  { state with watchers := state.watchers.modify index change }

def onSubscriber (index : Nat) (change : Subscriber → Subscriber) : FileWatcherState :=
  { state with subscribers := state.subscribers.modify index change }

/-- A client that leaves removes the entry of the key. -/
def unsubscribe (index : Nat) : FileWatcherState :=
  match state.subscribers[index]? with
  | some subscriber =>
      if subscriber.phase = .leaving then
        { state.onSubscriber index ({ · with phase := .gone }) with entry := none }
      else state
  | none => state

/-- A task that leaves removes the entry of the key, whatever it leads to by now. -/
def remove (index : Nat) : FileWatcherState :=
  if state.task index = .leaving then
    { state.onWatcher index Watcher.finish with entry := none }
  else state

def receive (state : FileWatcherState) (index : Nat) : FileWatcherState :=
  state.onSubscriber index fun subscriber =>
    subscriber.receive (state.watchers.getD subscriber.watcher {}).sender
      (state.closed subscriber.watcher)

def after (state : FileWatcherState) : Event → FileWatcherState
  | .subscribe party => state.subscribe party
  | .disconnect index => state.onSubscriber index Subscriber.disconnect
  | .unsubscribe index => state.unsubscribe index
  | .receive index => state.receive index
  | .start index granted => state.onWatcher index (Watcher.start granted)
  | .notify index notification => state.onWatcher index (Watcher.notify notification)
  | .take index => state.onWatcher index (Watcher.take state.entry.isSome)
  | .send index =>
      { state.onWatcher index (Watcher.send (state.hasReceiver index)) with
        published := state.published ++ (state.task index).publishes }
  | .remove index => state.remove index

def run (events : List Event) : FileWatcherState := Runs.run after {} events

end FileWatcherState

/-! ### What is asked of a subscription -/

def Task.runs : Task → Bool
  | .starting => true
  | .waiting => true
  | .sending _ => true
  | .leaving => false
  | .stopped => false

def Task.inHand : Task → List WatchMessage
  | .sending rest => rest
  | _ => []

/-- The messages that a watcher has still to send. -/
def Watcher.coming (watcher : Watcher) : List WatchMessage :=
  watcher.task.inHand ++ watcher.queue.flatMap messages

/-- The task of the watcher goes on, and a subscriber that has not fallen behind has received what
the watcher heard, up to what is still to come to it. -/
structure Subscriber.Served (watcher : Watcher) (subscriber : Subscriber) : Prop where
  runs : watcher.task.runs = true
  delivered : subscriber.missed = 0 →
    (watcher.heard.drop subscriber.heardBefore).flatMap messages <:+
      subscriber.received ++ (watcher.sender.sent.drop subscriber.next ++ watcher.coming)

namespace FileWatcherState

def AllServed (state : FileWatcherState) : Prop :=
  ∀ subscriber ∈ state.subscribers, subscriber.phase = .connected →
    ∃ watcher, state.watchers[subscriber.watcher]? = some watcher ∧ subscriber.Served watcher

/-- Somebody who is connected follows the watcher. -/
def Awaited (state : FileWatcherState) (index : Nat) : Prop :=
  ∃ subscriber ∈ state.subscribers, subscriber.phase = .connected ∧ subscriber.watcher = index

instance decidableAwaited (state : FileWatcherState) (index : Nat) :
    Decidable (state.Awaited index) :=
  inferInstanceAs (Decidable (∃ subscriber ∈ state.subscribers, _ ∧ _))

/-- A subscription that finds an entry finds its task going on; a watcher that is awaited finds an
entry; and the system does not refuse to watch for one that is. -/
def Heeds (state : FileWatcherState) : Event → Prop
  | .subscribe _ => ∀ index ∈ state.entry, (state.task index).runs = true
  | .take index =>
      ∀ watcher ∈ state.watchers[index]?, watcher.task = .waiting → watcher.queue ≠ [] →
        state.entry = none → ¬state.Awaited index
  | .start index granted =>
      granted = false → state.task index = .starting → ¬state.Awaited index
  | _ => True

end FileWatcherState

/-! ### What a watcher and a subscriber keep -/

/-- What is sent is what was heard, in order; and while the task goes on the rest is to come. -/
structure Watcher.Sound (watcher : Watcher) : Prop where
  sent : watcher.sender.sent <+: watcher.heard.flatMap messages
  coming : watcher.task.runs = true →
    watcher.heard.flatMap messages = watcher.sender.sent ++ watcher.coming

/-- A subscriber has read in order from its start, and the watcher had heard at least what it had
sent before. -/
structure Subscriber.Sound (watcher : Watcher) (subscriber : Subscriber) : Prop where
  order : subscriber.start ≤ subscriber.next
  bound : subscriber.next ≤ watcher.sender.sent.length
  received : subscriber.missed = 0 →
    subscriber.received = watcher.sender.between subscriber.start subscriber.next
  heardBound : subscriber.heardBefore ≤ watcher.heard.length
  before : subscriber.start ≤ ((watcher.heard.take subscriber.heardBefore).flatMap messages).length

/-- What a watcher has sent and heard only grows. -/
structure Watcher.Grows (before after : Watcher) : Prop where
  sent : ∃ later, after.sender.sent = before.sender.sent ++ later
  heard : ∃ later, after.heard = before.heard ++ later

variable {watcher : Watcher} {subscriber : Subscriber}

theorem Watcher.Grows.same {before after : Watcher}
    (sent : after.sender.sent = before.sender.sent) (heard : after.heard = before.heard) :
    before.Grows after :=
  ⟨⟨[], sent.trans (append_nil _).symm⟩, ⟨[], heard.trans (append_nil _).symm⟩⟩

theorem Subscriber.Sound.grows {before after : Watcher} (sound : subscriber.Sound before)
    (grows : before.Grows after) : subscriber.Sound after := by
  obtain ⟨sentLater, sentGrown⟩ := grows.sent
  obtain ⟨heardLater, heardGrown⟩ := grows.heard
  constructor
  · exact sound.order
  · rw [sentGrown, length_append]
    exact Nat.le_add_right_of_le sound.bound
  · intro noneMissed
    rw [between_append sound.bound sentGrown]
    exact sound.received noneMissed
  · rw [heardGrown, length_append]
    exact Nat.le_add_right_of_le sound.heardBound
  · rw [heardGrown, take_append_of_le_length sound.heardBound]
    exact sound.before

theorem Subscriber.Sound.disconnect (sound : subscriber.Sound watcher) :
    subscriber.disconnect.Sound watcher := by
  unfold Subscriber.disconnect
  split
  · exact ⟨sound.order, sound.bound, sound.received, sound.heardBound, sound.before⟩
  · exact sound

theorem Subscriber.Sound.receive (sound : subscriber.Sound watcher) (closed : Bool) :
    (subscriber.receive watcher.sender closed).Sound watcher := by
  unfold Subscriber.receive
  split
  · rcases watcher.sender.recv_cases subscriber.next with
      ⟨late, found⟩ | ⟨-, msg, held, found⟩ | ⟨-, -, found⟩
    · rw [found]
      refine ⟨Nat.le_trans sound.order (Nat.le_of_lt late), watcher.sender.oldest_le_length,
        fun noneMissed => ?_, sound.heardBound, sound.before⟩
      have noneMissed : subscriber.missed + (watcher.sender.oldest - subscriber.next) = 0 :=
        noneMissed
      omega
    · rw [found]
      refine ⟨Nat.le_succ_of_le sound.order, (List.getElem?_eq_some_iff.mp held).1,
        fun noneMissed => ?_, sound.heardBound, sound.before⟩
      rw [between_succ sound.order held, sound.received noneMissed]
    · rw [found]
      dsimp only
      split
      · exact sound.disconnect
      · exact sound
  · exact sound

theorem Subscriber.Sound.served (sound : subscriber.Sound watcher) (whole : watcher.Sound)
    (runs : watcher.task.runs = true) : subscriber.Served watcher where
  runs := runs
  delivered := fun noneMissed => by
    have heard := whole.coming runs
    have read : subscriber.received ++ watcher.sender.sent.drop subscriber.next =
        watcher.sender.sent.drop subscriber.start := by
      have places : watcher.sender.sent.drop subscriber.next =
          (watcher.sender.sent.drop subscriber.start).drop
            (subscriber.next - subscriber.start) := by
        rw [drop_drop, Nat.add_sub_cancel' sound.order]
      rw [sound.received noneMissed, places]
      exact take_append_drop _ _
    have split : watcher.heard.flatMap messages =
        (watcher.heard.take subscriber.heardBefore).flatMap messages ++
          (watcher.heard.drop subscriber.heardBefore).flatMap messages := by
      rw [← flatMap_append, take_append_drop]
    rw [← append_assoc, read,
      ← drop_append_of_le_length (Nat.le_trans sound.order sound.bound), ← heard, split,
      drop_append_of_le_length sound.before]
    exact suffix_append _ _

/-! ### The steps of a watcher -/

theorem Watcher.Sound.new : ({} : Watcher).Sound := ⟨prefix_refl _, fun _ => rfl⟩

section

variable (sound : watcher.Sound)
include sound

theorem Watcher.Sound.withTask {task : Task}
    (same : task.runs = true → watcher.task.runs = true ∧ task.inHand = watcher.task.inHand) :
    ({ watcher with task } : Watcher).Sound where
  sent := sound.sent
  coming := fun runs => by
    obtain ⟨before, inHand⟩ := same runs
    rw [Watcher.coming, inHand]
    exact sound.coming before

theorem Watcher.Sound.start (granted : Bool) : (watcher.start granted).Sound := by
  unfold Watcher.start
  split
  next starting =>
    refine sound.withTask fun runs => ?_
    rw [starting]
    cases granted with
    | true => exact ⟨rfl, rfl⟩
    | false => exact absurd runs false_ne_true
  · exact sound

theorem Watcher.Sound.notify (notification : Notification) :
    (watcher.notify notification).Sound := by
  unfold Watcher.notify
  split
  · constructor
    · rw [flatMap_append]
      exact sound.sent.trans (prefix_append _ _)
    · intro runs
      rw [flatMap_append, sound.coming runs, Watcher.coming, Watcher.coming, flatMap_append]
      simp
  · exact sound

theorem Watcher.Sound.take (held : Bool) : (watcher.take held).Sound := by
  unfold Watcher.take
  split
  next notification rest waiting queued =>
    refine ⟨sound.sent, fun runs => ?_⟩
    have before := sound.coming (by rw [waiting]; rfl)
    rw [before, Watcher.coming, Watcher.coming, waiting, queued, flatMap_cons]
    cases held with
    | true => rfl
    | false => exact absurd runs false_ne_true
  · exact sound

theorem Watcher.Sound.sendNext {msg : WatchMessage} {rest : List WatchMessage}
    (sending : watcher.task = .sending (msg :: rest)) :
    ({ watcher with sender := watcher.sender.send msg, task := .sending rest } :
      Watcher).Sound := by
  have before := sound.coming (by rw [sending]; rfl)
  rw [Watcher.coming, sending] at before
  have after : watcher.heard.flatMap messages =
      (watcher.sender.sent ++ [msg]) ++ (rest ++ watcher.queue.flatMap messages) := by
    rw [before]
    simp [Task.inHand]
  refine ⟨?_, fun _ => after⟩
  rw [after]
  exact prefix_append _ _

theorem Watcher.Sound.send (received : Bool) : (watcher.send received).Sound := by
  unfold Watcher.send
  split
  next event rest sending =>
    split
    · exact sound.sendNext sending
    · exact sound.withTask fun runs => absurd runs false_ne_true
  next msg rest sending =>
    exact sound.sendNext sending
  next sending =>
    refine sound.withTask fun _ => ?_
    rw [sending]
    exact ⟨rfl, rfl⟩
  · exact sound

theorem Watcher.Sound.finish : watcher.finish.Sound := by
  unfold Watcher.finish
  split
  · exact sound.withTask fun runs => absurd runs false_ne_true
  · exact sound

end

section

variable (watcher : Watcher)

theorem Watcher.grows_start (granted : Bool) : watcher.Grows (watcher.start granted) := by
  unfold start
  split <;> exact .same rfl rfl

theorem Watcher.grows_notify (notification : Notification) :
    watcher.Grows (watcher.notify notification) := by
  unfold notify
  split
  · exact ⟨⟨[], (append_nil _).symm⟩, ⟨[notification], rfl⟩⟩
  · exact .same rfl rfl

theorem Watcher.grows_take (held : Bool) : watcher.Grows (watcher.take held) := by
  unfold take
  split <;> exact .same rfl rfl

theorem Watcher.grows_send (received : Bool) : watcher.Grows (watcher.send received) := by
  unfold send
  split
  · split
    · exact ⟨⟨_, rfl⟩, ⟨[], (append_nil _).symm⟩⟩
    · exact .same rfl rfl
  · exact ⟨⟨_, rfl⟩, ⟨[], (append_nil _).symm⟩⟩
  · exact .same rfl rfl
  · exact .same rfl rfl

theorem Watcher.grows_finish : watcher.Grows watcher.finish := by
  unfold finish
  split <;> exact .same rfl rfl

end

/-! ### What every state keeps -/

namespace FileWatcherState

variable {state : FileWatcherState}

structure Sound (state : FileWatcherState) : Prop where
  watchers : ∀ watcher ∈ state.watchers, watcher.Sound
  subscribers : ∀ subscriber ∈ state.subscribers,
    ∃ watcher, state.watchers[subscriber.watcher]? = some watcher ∧ subscriber.Sound watcher
  entry : ∀ index ∈ state.entry, index < state.watchers.length

/-- A change of a watcher that is sound and only adds to what it has sent and heard. -/
theorem Sound.onWatcher (sound : state.Sound) (i : Nat) {change : Watcher → Watcher}
    (whole : ∀ watcher, watcher.Sound → (change watcher).Sound)
    (grows : ∀ watcher : Watcher, watcher.Grows (change watcher)) :
    (state.onWatcher i change).Sound where
  watchers := fun watcher mem => by
    obtain ⟨place, atPlace⟩ := mem_iff_getElem?.mp mem
    rw [FileWatcherState.onWatcher, getElem?_modify] at atPlace
    obtain ⟨before, held, rfl⟩ := map_eq_some_iff.mp atPlace
    have old := sound.watchers before (mem_of_getElem? held)
    split
    · exact whole before old
    · exact old
  subscribers := fun subscriber mem => by
    obtain ⟨watcher, held, fits⟩ := sound.subscribers subscriber mem
    refine ⟨(if i = subscriber.watcher then change watcher else watcher), ?_, ?_⟩
    · rw [FileWatcherState.onWatcher, getElem?_modify, held]
      rfl
    · split
      · exact fits.grows (grows watcher)
      · exact fits
  entry := fun place entered => by
    rw [FileWatcherState.onWatcher, length_modify]
    exact sound.entry place entered

theorem Sound.onSubscriber (sound : state.Sound) (i : Nat) {change : Subscriber → Subscriber}
    (same : ∀ subscriber, (change subscriber).watcher = subscriber.watcher)
    (kept : ∀ subscriber watcher, state.watchers[subscriber.watcher]? = some watcher →
      subscriber.Sound watcher → (change subscriber).Sound watcher) :
    (state.onSubscriber i change).Sound where
  watchers := sound.watchers
  subscribers := fun subscriber mem => by
    obtain ⟨place, atPlace⟩ := mem_iff_getElem?.mp mem
    rw [FileWatcherState.onSubscriber, getElem?_modify] at atPlace
    obtain ⟨before, held, rfl⟩ := map_eq_some_iff.mp atPlace
    obtain ⟨watcher, found, fits⟩ := sound.subscribers before (mem_of_getElem? held)
    split
    · exact ⟨watcher, (same before).symm ▸ found, kept before watcher found fits⟩
    · exact ⟨watcher, found, fits⟩
  entry := sound.entry

theorem Sound.noEntry (sound : state.Sound) : ({ state with entry := none } :
    FileWatcherState).Sound :=
  ⟨sound.watchers, sound.subscribers, fun _ impossible => absurd impossible (by simp)⟩

theorem Sound.subscribe (sound : state.Sound) (party : Party) : (state.subscribe party).Sound := by
  unfold FileWatcherState.subscribe
  split
  next i entered =>
    have bound := sound.entry i entered
    refine ⟨sound.watchers, fun subscriber mem => ?_, sound.entry⟩
    rcases mem_append.mp mem with old | new
    · exact sound.subscribers subscriber old
    · rw [mem_singleton.mp new]
      have held := getElem?_eq_getElem bound
      have found : state.watchers.getD i {} = state.watchers[i] := by
        rw [getD_eq_getElem?_getD, held]
        rfl
      have whole := sound.watchers _ (getElem_mem bound)
      refine ⟨state.watchers[i], held, ?_⟩
      rw [found]
      refine ⟨Nat.le_refl _, Nat.le_refl _, fun _ => (between_self _ _).symm, Nat.le_refl _, ?_⟩
      rw [take_length]
      exact whole.sent.length_le
  · constructor
    · intro watcher mem
      rcases mem_append.mp mem with old | new
      · exact sound.watchers watcher old
      · rw [mem_singleton.mp new]
        exact Watcher.Sound.new
    · intro subscriber mem
      rcases mem_append.mp mem with old | new
      · obtain ⟨watcher, held, fits⟩ := sound.subscribers subscriber old
        exact ⟨watcher, (getElem?_append_left
          (List.getElem?_eq_some_iff.mp held).1).trans held, fits⟩
      · rw [mem_singleton.mp new]
        exact ⟨{}, getElem?_concat_length, ⟨Nat.le_refl _, Nat.le_refl _,
          fun _ => (between_self _ _).symm, Nat.le_refl _, Nat.le_refl _⟩⟩
    · intro i entered
      cases entered
      rw [length_append, length_singleton]
      exact Nat.lt_succ_self _

theorem watcher_disconnect (subscriber : Subscriber) :
    subscriber.disconnect.watcher = subscriber.watcher := by
  unfold Subscriber.disconnect
  split <;> rfl

theorem watcher_receive (sender : Channel WatchMessage) (closed : Bool) (subscriber : Subscriber) :
    (subscriber.receive sender closed).watcher = subscriber.watcher := by
  unfold Subscriber.receive
  split
  · split
    · rfl
    · rfl
    · split
      · exact watcher_disconnect subscriber
      · rfl
  · rfl

theorem Sound.after (sound : state.Sound) (event : Event) : (state.after event).Sound := by
  cases event with
  | subscribe party => exact sound.subscribe party
  | disconnect i =>
    exact sound.onSubscriber i watcher_disconnect fun _ _ _ fits => fits.disconnect
  | unsubscribe i =>
    unfold FileWatcherState.after FileWatcherState.unsubscribe
    dsimp only
    split
    · split
      · have left : (state.onSubscriber i ({ · with phase := .gone })).Sound :=
          sound.onSubscriber i (fun _ => rfl) fun _ _ _ fits =>
            ⟨fits.order, fits.bound, fits.received, fits.heardBound, fits.before⟩
        exact left.noEntry
      · exact sound
    · exact sound
  | receive i =>
    refine sound.onSubscriber i (fun _ => watcher_receive _ _ _)
      fun subscriber watcher found fits => ?_
    rw [getD_eq_getElem?_getD, found]
    exact fits.receive _
  | start i granted =>
    exact sound.onWatcher i (fun _ whole => whole.start granted) (·.grows_start granted)
  | notify i notification =>
    exact sound.onWatcher i (fun _ whole => whole.notify notification)
      (·.grows_notify notification)
  | take i => exact sound.onWatcher i (fun _ whole => whole.take _) (·.grows_take _)
  | send i =>
    have next := sound.onWatcher i (fun _ whole => whole.send (state.hasReceiver i))
      (·.grows_send (state.hasReceiver i))
    exact ⟨next.watchers, next.subscribers, next.entry⟩
  | remove i =>
    unfold FileWatcherState.after remove
    dsimp only
    split
    · exact (sound.onWatcher i (fun _ whole => whole.finish) (·.grows_finish)).noEntry
    · exact sound

theorem Sound.init : ({} : FileWatcherState).Sound :=
  ⟨fun _ mem => absurd mem not_mem_nil, fun _ mem => absurd mem not_mem_nil,
    fun _ impossible => absurd impossible (by simp)⟩

/-! ### Which steps keep the tasks going -/

/-- The task of every connected subscriber goes on. -/
def Lives (state : FileWatcherState) : Prop :=
  ∀ subscriber ∈ state.subscribers, subscriber.phase = .connected →
    (state.task subscriber.watcher).runs = true

theorem task_eq {i : Nat} (held : state.watchers[i]? = some watcher) :
    state.task i = watcher.task := by
  rw [task, getD_eq_getElem?_getD, held]
  rfl

theorem Sound.allServed_iff (sound : state.Sound) : state.AllServed ↔ state.Lives := by
  constructor
  · intro served subscriber mem connected
    obtain ⟨watcher, held, here⟩ := served subscriber mem connected
    rw [task_eq held]
    exact here.runs
  · intro lives subscriber mem connected
    obtain ⟨watcher, held, fits⟩ := sound.subscribers subscriber mem
    have runs := lives subscriber mem connected
    rw [task_eq held] at runs
    have whole := sound.watchers watcher (mem_of_getElem? held)
    exact ⟨watcher, held, fits.served whole runs⟩

theorem task_onWatcher (i other : Nat) (change : Watcher → Watcher) :
    (state.onWatcher i change).task other =
      if i = other then ((state.watchers[other]?).map (change · |>.task)).getD .stopped
      else state.task other := by
  unfold task onWatcher
  rw [getD_eq_getElem?_getD, getD_eq_getElem?_getD, getElem?_modify]
  cases state.watchers[other]? with
  | none | some => split <;> rfl

theorem Sound.lives_onWatcher_iff (sound : state.Sound) (lives : state.Lives) (i : Nat)
    (change : Watcher → Watcher) :
    (state.onWatcher i change).Lives ↔ ∀ watcher ∈ state.watchers[i]?, state.Awaited i →
        (change watcher).task.runs = true := by
  constructor
  · rintro next watcher held ⟨subscriber, mem, connected, rfl⟩
    have runs := next subscriber mem connected
    rw [task_onWatcher, if_pos rfl, held] at runs
    exact runs
  · intro awaited subscriber mem connected
    rw [task_onWatcher]
    split
    next here =>
      obtain ⟨watcher, held, -⟩ := sound.subscribers subscriber mem
      rw [held]
      exact awaited watcher (here ▸ held) ⟨subscriber, mem, connected, here.symm⟩
    · exact lives subscriber mem connected

theorem Lives.runs (lives : state.Lives) {i : Nat} (awaited : state.Awaited i)
    (held : state.watchers[i]? = some watcher) :
    watcher.task.runs = true := by
  obtain ⟨subscriber, mem, connected, rfl⟩ := awaited
  rw [← task_eq held]
  exact lives subscriber mem connected

theorem Lives.onSubscriber (lives : state.Lives) (i : Nat) {change : Subscriber → Subscriber}
    (same : ∀ subscriber, (change subscriber).watcher = subscriber.watcher)
    (earlier : ∀ subscriber, (change subscriber).phase = .connected →
      subscriber.phase = .connected) :
    (state.onSubscriber i change).Lives := by
  intro subscriber mem connected
  obtain ⟨place, atPlace⟩ := mem_iff_getElem?.mp mem
  rw [FileWatcherState.onSubscriber, getElem?_modify] at atPlace
  obtain ⟨before, held, rfl⟩ := map_eq_some_iff.mp atPlace
  have inState := mem_of_getElem? held
  split at connected
  next here =>
    rw [if_pos here, same]
    exact lives before inState (earlier before connected)
  next away =>
    rw [if_neg away]
    exact lives before inState connected

theorem connected_of_disconnect (connected : subscriber.disconnect.phase = .connected) :
    subscriber.phase = .connected := by
  unfold Subscriber.disconnect at connected
  split at connected
  next here =>
    exact here
  · exact connected

theorem connected_of_receive {sender : Channel WatchMessage} {closed : Bool}
    (connected : (subscriber.receive sender closed).phase = .connected) :
    subscriber.phase = .connected := by
  unfold Subscriber.receive at connected
  split at connected
  next here =>
    exact here
  · exact connected

theorem Sound.lives_subscribe_iff (sound : state.Sound) (lives : state.Lives) (party : Party) :
    (state.subscribe party).Lives ↔ state.Heeds (.subscribe party) := by
  unfold FileWatcherState.subscribe FileWatcherState.Heeds
  split
  next i entered =>
    constructor
    · intro next place atPlace
      cases entered.symm.trans atPlace
      exact next _ (mem_append_right _ (mem_singleton.mpr rfl)) rfl
    · intro runs subscriber mem connected
      rcases mem_append.mp mem with old | new
      · exact lives subscriber old connected
      · rw [mem_singleton.mp new]
        exact runs i entered
  next noEntry =>
    refine iff_of_true (fun subscriber mem connected => ?_) (fun i entered => ?_)
    · unfold task
      dsimp only
      rw [getD_eq_getElem?_getD]
      rcases mem_append.mp mem with old | new
      · obtain ⟨watcher, held, -⟩ := sound.subscribers subscriber old
        rw [getElem?_append_left (List.getElem?_eq_some_iff.mp held).1, held]
        exact lives.runs ⟨subscriber, old, connected, rfl⟩ held
      · rw [mem_singleton.mp new, getElem?_concat_length]
        rfl
    · exact absurd (noEntry.symm.trans entered) (by simp)

theorem runs_take (held : Bool) (runs : watcher.task.runs = true) :
    (watcher.take held).task.runs = true ↔
      (watcher.task = .waiting → watcher.queue ≠ [] → held = true) := by
  unfold Watcher.take
  split
  next notification rest waiting queued =>
    cases held <;> simp [waiting, queued, Task.runs]
  next other =>
    refine iff_of_true runs fun waiting queued => ?_
    obtain ⟨notification, rest, same⟩ := exists_cons_of_ne_nil queued
    exact absurd same (other notification rest waiting)

theorem runs_send (runs : watcher.task.runs = true) : (watcher.send true).task.runs = true := by
  unfold Watcher.send
  split
  · rfl
  · rfl
  · rfl
  · exact runs

theorem runs_notify (notification : Notification) :
    (watcher.notify notification).task = watcher.task := by
  unfold Watcher.notify
  split <;> rfl

theorem runs_start (granted : Bool) (runs : watcher.task.runs = true) :
    (watcher.start granted).task.runs = true ↔ (granted = false → watcher.task ≠ .starting) := by
  unfold Watcher.start
  split
  next starting =>
    cases granted <;> simp [starting, Task.runs]
  next started =>
    exact iff_of_true runs fun _ => started

/-- In a state in which all tasks go on, a step keeps them going exactly if it heeds what it has
to. -/
theorem Sound.lives_after_iff (sound : state.Sound) (lives : state.Lives) (event : Event) :
    (state.after event).Lives ↔ state.Heeds event := by
  cases event with
  | subscribe party => exact sound.lives_subscribe_iff lives party
  | disconnect i =>
    exact iff_of_true
      (lives.onSubscriber i watcher_disconnect fun _ => connected_of_disconnect) trivial
  | receive i =>
    exact iff_of_true
      (lives.onSubscriber i (fun _ => watcher_receive _ _ _) fun _ => connected_of_receive)
      trivial
  | unsubscribe i =>
    refine iff_of_true ?_ trivial
    unfold FileWatcherState.after FileWatcherState.unsubscribe
    dsimp only
    split
    · split
      · have left : (state.onSubscriber i ({ · with phase := .gone })).Lives :=
          lives.onSubscriber i (fun _ => rfl) fun _ gone => absurd gone (by simp)
        exact left
      · exact lives
    · exact lives
  | start i granted =>
    refine (sound.lives_onWatcher_iff lives i _).trans ?_
    constructor
    · intro all refused starting awaited
      obtain ⟨subscriber, mem, connected, rfl⟩ := awaited
      obtain ⟨watcher, held, -⟩ := sound.subscribers subscriber mem
      have awaited : state.Awaited subscriber.watcher := ⟨subscriber, mem, connected, rfl⟩
      have runs := lives.runs awaited held
      rw [task_eq held] at starting
      exact (runs_start granted runs).mp (all watcher held awaited) refused starting
    · intro heeds watcher held awaited
      refine (runs_start granted (lives.runs awaited held)).mpr fun refused starting => ?_
      exact heeds refused ((task_eq held).trans starting) awaited
  | notify i notification =>
    refine iff_of_true ((sound.lives_onWatcher_iff lives i _).mpr ?_) trivial
    intro watcher held awaited
    rw [runs_notify]
    exact lives.runs awaited held
  | take i =>
    refine (sound.lives_onWatcher_iff lives i _).trans (forall₂_congr fun watcher held => ?_)
    constructor
    · intro all waiting queued noEntry awaited
      have entered := (runs_take _ (lives.runs awaited held)).mp (all awaited) waiting queued
      rw [noEntry] at entered
      exact false_ne_true entered
    · intro heeds awaited
      refine (runs_take _ (lives.runs awaited held)).mpr fun waiting queued => ?_
      exact isSome_iff_ne_none.mpr fun noEntry => heeds waiting queued noEntry awaited
  | send i =>
    refine iff_of_true ?_ trivial
    have next := (sound.lives_onWatcher_iff lives i
      (Watcher.send (state.hasReceiver i))).mpr fun watcher held awaited => ?_
    · exact next
    · have runs := lives.runs awaited held
      obtain ⟨subscriber, mem, connected, here⟩ := awaited
      have received : state.hasReceiver i = true :=
        any_eq_true.mpr ⟨subscriber, mem, by simp [here, connected]⟩
      rw [received]
      exact runs_send runs
  | remove i =>
    refine iff_of_true ?_ trivial
    unfold FileWatcherState.after remove
    dsimp only
    split
    next leaving =>
      have next := (sound.lives_onWatcher_iff lives i Watcher.finish).mpr
        fun watcher held awaited => ?_
      · exact next
      · have runs := lives.runs awaited held
        rw [← task_eq held, leaving] at runs
        exact absurd runs false_ne_true
    · exact lives

end FileWatcherState

open FileWatcherState

/-- In every run, the subscribers are served in every state exactly if every step heeds what it has
to. -/
theorem subscribers_served_iff (events : List Event) :
    (∀ front, front <+: events → (FileWatcherState.run front).AllServed) ↔
      Runs.Careful FileWatcherState.after FileWatcherState.Heeds {} events :=
  Runs.always_good_iff FileWatcherState.Sound FileWatcherState.AllServed
    (fun _ event sound => sound.after event)
    (fun _ event sound served => (sound.after event).allServed_iff.trans
      (sound.lives_after_iff (sound.allServed_iff.mp served) event))
    Sound.init (fun _ member => absurd member not_mem_nil) events

def changed (path : String) : Notification := .ok .modify [path]

/-- Of two clients one leaves, and the path changes. -/
def oneLeaves : List Event :=
  [.subscribe .client, .subscribe .client, .start 0 true, .disconnect 0, .unsubscribe 0,
    .notify 0 (changed "a"), .take 0]

/-- A plugin leaves, the path changes, and a client subscribes. -/
def pluginLeaves : List Event :=
  [.subscribe .plugin, .start 0 true, .disconnect 0, .notify 0 (changed "a"), .take 0, .send 0,
    .subscribe .client]

/-- A task finds no entry, another client subscribes, and the task removes its entry; then the path
changes. -/
def lateRemoval : List Event :=
  [.subscribe .client, .start 0 true, .disconnect 0, .unsubscribe 0, .notify 0 (changed "a"),
    .take 0, .subscribe .client, .start 1 true, .remove 0, .notify 1 (changed "a"), .take 1]

/-- A client stays connected to a task that has ended: when another client leaves, when a plugin's
task has ended with nobody to receive, and when a task that leaves removes a new entry. -/
theorem clients_left_behind : (FileWatcherState.run oneLeaves).Awaited 0 ∧
      (FileWatcherState.run oneLeaves).task 0 = .leaving ∧
    (FileWatcherState.run pluginLeaves).Awaited 0 ∧
      (FileWatcherState.run pluginLeaves).task 0 = .stopped ∧
    (FileWatcherState.run lateRemoval).Awaited 1 ∧
      (FileWatcherState.run lateRemoval).task 1 = .leaving := by
  decide

end Dinotty.FileWatcher
