/-
This file is the event bus and the tasks that listen to it. A task that has fallen behind is told so
by an error and ends there, so it lives on exactly if it never receives late.
-/

import Dinotty.Foundation.Broadcast
import Dinotty.Foundation.Runs

namespace Dinotty.Events

open Broadcast List Channel

variable {BusEvent : Type}

/-! ### The bus -/

/-- The tasks that listen to the bus. -/
inductive Consumer where
  | webhook
  | eventBridge
  | agentSocket
  deriving DecidableEq

/-- A task with the place from which it has listened, the place that it has reached and what it has
received. -/
structure Subscriber (BusEvent : Type) where
  consumer : Consumer
  start : Nat
  next : Nat
  received : List BusEvent := []
  running : Bool := true
  shutDown : Bool := false

structure EventBus (BusEvent : Type) where
  sender : Channel BusEvent := { capacity := 1024 }
  subscribers : List (Subscriber BusEvent) := []

/-- Subscribe to what is published from now on. -/
def EventBus.subscribe (bus : EventBus BusEvent) (consumer : Consumer) : EventBus BusEvent :=
  { bus with
    subscribers := bus.subscribers ++
      [{ consumer, start := bus.sender.sent.length, next := bus.sender.sent.length }] }

def EventBus.publish (bus : EventBus BusEvent) (event : BusEvent) : EventBus BusEvent :=
  { bus with sender := bus.sender.send event }

/-- One round of the loop of a task. Anything but an event ends it. -/
def Subscriber.receive (sender : Channel BusEvent) (subscriber : Subscriber BusEvent) :
    Subscriber BusEvent :=
  if subscriber.running then
    match sender.recv subscriber.next with
    | (.value event, next) =>
        { subscriber with next, received := subscriber.received ++ [event] }
    | (.lagged _, next) => { subscriber with next, running := false }
    | (.empty, _) => subscriber
  else subscriber

/-- Shut a task down. A task that has ended by itself is not shut down. -/
def Subscriber.stop (subscriber : Subscriber BusEvent) : Subscriber BusEvent :=
  if subscriber.running then { subscriber with running := false, shutDown := true }
  else subscriber

inductive Event (BusEvent : Type) where
  | publish (event : BusEvent)
  | subscribe (consumer : Consumer)
  | receive (index : Nat)
  | shutDown (index : Nat)

def EventBus.after (bus : EventBus BusEvent) : Event BusEvent → EventBus BusEvent
  | .publish event => bus.publish event
  | .subscribe consumer => bus.subscribe consumer
  | .receive index =>
      { bus with subscribers := bus.subscribers.modify index (·.receive bus.sender) }
  | .shutDown index => { bus with subscribers := bus.subscribers.modify index (·.stop) }

def EventBus.run (events : List (Event BusEvent)) : EventBus BusEvent :=
  Runs.run EventBus.after {} events

/-! ### What is asked of a task -/

/-- A task listens, and has received everything that was published from its start up to the place
that it has reached. -/
structure Subscriber.Served (sender : Channel BusEvent) (subscriber : Subscriber BusEvent) :
    Prop where
  running : subscriber.running = true
  received : subscriber.received = sender.between subscriber.start subscriber.next

/-- The task does not stand before the oldest event that is kept when it receives. -/
def Prompt (index : Nat) (bus : EventBus BusEvent) : Event BusEvent → Prop
  | .receive other =>
      other = index → ∀ subscriber ∈ bus.subscribers[index]?, subscriber.running = true →
        bus.sender.oldest ≤ subscriber.next
  | _ => True

def PromptRun (index : Nat) (events : List (Event BusEvent)) : Prop :=
  Runs.Careful EventBus.after (Prompt index) ({} : EventBus BusEvent) events

/-! ### One step -/

/-- A task has read in order, and stands inside of what was published. -/
structure Subscriber.Orderly (sender : Channel BusEvent) (subscriber : Subscriber BusEvent) :
    Prop where
  order : subscriber.start ≤ subscriber.next
  bound : subscriber.next ≤ sender.sent.length
  open_ : subscriber.running = true → subscriber.shutDown = false
  served : subscriber.running = true →
    subscriber.received = sender.between subscriber.start subscriber.next

def EventBus.Orderly (bus : EventBus BusEvent) : Prop :=
  ∀ subscriber ∈ bus.subscribers, subscriber.Orderly bus.sender

variable {bus : EventBus BusEvent} {sender : Channel BusEvent} {subscriber : Subscriber BusEvent}

theorem Subscriber.Orderly.publish (orderly : subscriber.Orderly sender) (event : BusEvent) :
    subscriber.Orderly (sender.send event) where
  order := orderly.order
  bound := by
    rw [send, length_append]
    exact Nat.le_add_right_of_le orderly.bound
  open_ := orderly.open_
  served := fun running => by
    rw [between_send orderly.bound]
    exact orderly.served running

theorem Subscriber.Orderly.receive (orderly : subscriber.Orderly sender) :
    (subscriber.receive sender).Orderly sender := by
  unfold Subscriber.receive
  split
  next running =>
    rcases sender.recv_cases subscriber.next with
      ⟨late, found⟩ | ⟨-, event, held, found⟩ | ⟨-, -, found⟩
    · rw [found]
      exact ⟨Nat.le_trans orderly.order (Nat.le_of_lt late), sender.oldest_le_length,
        fun listening => absurd listening Bool.false_ne_true,
        fun listening => absurd listening Bool.false_ne_true⟩
    · rw [found]
      refine ⟨Nat.le_succ_of_le orderly.order, (List.getElem?_eq_some_iff.mp held).1,
        orderly.open_, fun _ => ?_⟩
      rw [between_succ orderly.order held, orderly.served running]
    · rw [found]
      exact orderly
  · exact orderly

theorem Subscriber.Orderly.stop (orderly : subscriber.Orderly sender) :
    subscriber.stop.Orderly sender := by
  unfold Subscriber.stop
  split
  · exact ⟨orderly.order, orderly.bound, fun listening => absurd listening Bool.false_ne_true,
      fun listening => absurd listening Bool.false_ne_true⟩
  · exact orderly

theorem forall_mem_modify {Item : Type} {items : List Item} {holds : Item → Prop}
    (all : ∀ item ∈ items, holds item) {change : Item → Item}
    (kept : ∀ item, holds item → holds (change item)) (i : Nat) :
    ∀ item ∈ items.modify i change, holds item := by
  intro item mem
  obtain ⟨place, atPlace⟩ := mem_iff_getElem?.mp mem
  rw [getElem?_modify] at atPlace
  obtain ⟨old, held, rfl⟩ := Option.map_eq_some_iff.mp atPlace
  have before := all old (mem_of_getElem? held)
  split
  · exact kept old before
  · exact before

theorem EventBus.Orderly.after (orderly : bus.Orderly) (event : Event BusEvent) :
    (bus.after event).Orderly := by
  cases event with
  | publish event => exact fun subscriber mem => (orderly subscriber mem).publish event
  | subscribe consumer =>
    intro subscriber mem
    rcases mem_append.mp mem with old | new
    · exact orderly subscriber old
    · rw [mem_singleton.mp new]
      exact ⟨Nat.le_refl _, Nat.le_refl _, fun _ => rfl, fun _ => (between_self _ _).symm⟩
  | receive i => exact forall_mem_modify orderly (fun _ => Subscriber.Orderly.receive) i
  | shutDown i => exact forall_mem_modify orderly (fun _ => Subscriber.Orderly.stop) i

theorem orderly_run (events : List (Event BusEvent)) : (EventBus.run events).Orderly :=
  Runs.kept EventBus.Orderly (fun _ event orderly => orderly.after event)
    (fun _ mem => absurd mem not_mem_nil) events

/-! ### Runs -/

/-- The task listens, unless it was shut down. -/
def Lives (index : Nat) (bus : EventBus BusEvent) : Prop :=
  ∀ subscriber ∈ bus.subscribers[index]?, subscriber.running = true ∨ subscriber.shutDown = true

theorem Subscriber.Orderly.lives_receive_iff (orderly : subscriber.Orderly sender) :
    (subscriber.receive sender).running = true ∨ (subscriber.receive sender).shutDown = true ↔
      (subscriber.running = true ∨ subscriber.shutDown = true) ∧
        (subscriber.running = true → sender.oldest ≤ subscriber.next) := by
  unfold Subscriber.receive
  by_cases running : subscriber.running = true
  · rw [if_pos running]
    have notShut := orderly.open_ running
    rcases sender.recv_cases subscriber.next with
      ⟨late, found⟩ | ⟨held, event, -, found⟩ | ⟨held, -, found⟩
    · rw [found]
      simp [notShut, running, late]
    · rw [found]
      simp [running, held]
    · rw [found]
      simp [running, held]
  · rw [if_neg running]
    simp [running]

theorem Subscriber.lives_stop_iff (subscriber : Subscriber BusEvent) :
    subscriber.stop.running = true ∨ subscriber.stop.shutDown = true ↔
      subscriber.running = true ∨ subscriber.shutDown = true := by
  unfold Subscriber.stop
  by_cases running : subscriber.running = true
  · rw [if_pos running]
    simp [running]
  · rw [if_neg running]

/-- A step keeps a task alive exactly if it was and does not receive late. -/
theorem EventBus.Orderly.lives_after_iff (orderly : bus.Orderly) (i : Nat)
    (event : Event BusEvent) :
    Lives i (bus.after event) ↔ Lives i bus ∧ Prompt i bus event := by
  cases event with
  | publish event => exact (and_iff_left trivial).symm
  | subscribe consumer =>
    refine Iff.trans ?_ (and_iff_left trivial).symm
    refine ⟨fun lives subscriber held => lives subscriber ?_, fun lives subscriber held => ?_⟩
    · have bound := (List.getElem?_eq_some_iff.mp held).1
      exact (getElem?_append_left bound).trans held
    · by_cases old : i < bus.subscribers.length
      · exact lives subscriber ((getElem?_append_left old).symm.trans held)
      · have new : subscriber ∈ [_] := mem_of_getElem?
          ((getElem?_append_right (Nat.le_of_not_lt old)).symm.trans held)
        rw [mem_singleton.mp new]
        exact .inl rfl
  | receive other =>
    unfold Lives Prompt EventBus.after
    dsimp only
    rw [getElem?_modify]
    cases held : bus.subscribers[i]? with
    | none => simp
    | some subscriber =>
      have step := (orderly subscriber (mem_of_getElem? held)).lives_receive_iff
      by_cases here : other = i
      · subst here
        simpa [held] using step
      · simp [here]
  | shutDown other =>
    refine Iff.trans ?_ (and_iff_left trivial).symm
    unfold Lives EventBus.after
    dsimp only
    rw [getElem?_modify]
    cases held : bus.subscribers[i]? with
    | none => simp
    | some subscriber =>
      by_cases here : other = i
      · simpa [here] using subscriber.lives_stop_iff
      · simp [here]

/-- In every run, a task that was not shut down has received everything that was published since it
began exactly if it never received late. -/
theorem served_iff (events : List (Event BusEvent)) (index : Nat) (subscriber : Subscriber BusEvent)
    (present : (EventBus.run events).subscribers[index]? = some subscriber)
    (notShut : subscriber.shutDown = false) :
    subscriber.Served (EventBus.run events).sender ↔ PromptRun index events := by
  have lives : Lives index (EventBus.run events) ↔ PromptRun index events :=
    (Runs.good_run_iff EventBus.Orderly (Lives index) (fun _ event orderly => orderly.after event)
      (fun _ event orderly => orderly.lives_after_iff index event)
      (fun _ member => absurd member not_mem_nil) events).trans
      (and_iff_right fun _ impossible => absurd impossible (by simp))
  have orderly := orderly_run events subscriber (mem_of_getElem? present)
  calc subscriber.Served (EventBus.run events).sender
    _ ↔ subscriber.running = true :=
        ⟨fun served => served.running, fun running => ⟨running, orderly.served running⟩⟩
    _ ↔ Lives index (EventBus.run events) := by
        unfold Lives
        simp [present, notShut]
    _ ↔ PromptRun index events := lives

/-- The bridge receives two events in turn, and a forwarder is shut down between them. -/
def inTurn : List (Event Nat) :=
  [.subscribe .eventBridge, .subscribe .agentSocket, .publish 1, .receive 0, .shutDown 1,
    .publish 2, .receive 0]

theorem served_inTurn : Subscriber.Served (EventBus.run inTurn).sender
        { consumer := .eventBridge, start := 0, next := 2, received := [1, 2] } ↔
      PromptRun 0 inTurn :=
  served_iff inTurn 0 _ rfl rfl

theorem run_publish (bus : EventBus BusEvent) (events : List BusEvent) :
    Runs.run EventBus.after bus (events.map .publish) =
      { bus with sender := { bus.sender with sent := bus.sender.sent ++ events } } := by
  induction events generalizing bus with
  | nil =>
    rw [append_nil]
    rfl
  | cons event rest ih =>
    refine (ih (bus.publish event)).trans ?_
    rw [EventBus.publish, send, append_assoc]
    rfl

theorem run_burst (consumer : Consumer) (published : List Nat) (later : List (Event Nat)) :
    EventBus.run (.subscribe consumer :: (published.map .publish ++ later)) =
      Runs.run EventBus.after
        { sender := { capacity := 1024, sent := published }
          subscribers := [{ consumer, start := 0, next := 0 }] } later :=
  calc EventBus.run (.subscribe consumer :: (published.map .publish ++ later))
    _ = Runs.run EventBus.after (EventBus.subscribe {} consumer)
          (published.map .publish ++ later) := rfl
    _ = Runs.run EventBus.after (Runs.run EventBus.after (EventBus.subscribe {} consumer)
          (published.map .publish)) later := Runs.run_append _ _ _
    _ = _ := by
        rw [run_publish]
        rfl

/-- One event more is published than the bus keeps before the dispatcher of webhooks receives. -/
def burst : List (Event Nat) :=
  .subscribe .webhook :: ((List.range 1025).map .publish ++ [.receive 0, .publish 7, .receive 0])

/-- Only one event is overwritten, but the dispatcher receives neither the others nor what is
published afterwards. -/
theorem burst_ends_webhooks : ((EventBus.run burst).subscribers.map fun subscriber =>
        (subscriber.running, subscriber.shutDown, subscriber.received)) = [(false, false, [])] ∧
      ((EventBus.run burst).sender.oldest, (EventBus.run burst).sender.sent.length) =
        (2, 1026) := by
  rw [burst, run_burst]
  decide +kernel

end Dinotty.Events
