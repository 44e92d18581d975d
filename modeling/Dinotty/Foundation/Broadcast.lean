/-
This file is a channel that keeps the newest messages for any number of receivers. A receiver that
stands before the oldest message that is kept is told how many it has missed, and is put there.
-/

import Mathlib

namespace Broadcast

open List

variable {Message : Type}

/-- A channel with every message that was sent. It keeps the newest ones, up to its capacity. -/
structure Channel (Message : Type) where
  capacity : Nat
  sent : List Message := []

inductive Recv (Message : Type) where
  | value (message : Message)
  | lagged (missed : Nat)
  | empty

namespace Channel

/-- The place of the oldest message that is kept. -/
def oldest (channel : Channel Message) : Nat := channel.sent.length - channel.capacity

def send (channel : Channel Message) (message : Message) : Channel Message :=
  { channel with sent := channel.sent ++ [message] }

/-- What the receiver at a place finds, and the place where it stands after that. -/
def recv (channel : Channel Message) (next : Nat) : Recv Message × Nat :=
  if next < channel.oldest then (.lagged (channel.oldest - next), channel.oldest)
  else match channel.sent[next]? with
    | some message => (.value message, next + 1)
    | none => (.empty, next)

/-- The messages from one place up to another. -/
def between (channel : Channel Message) (start next : Nat) : List Message :=
  (channel.sent.drop start).take (next - start)

variable {channel : Channel Message} {start next : Nat}

section

variable (channel : Channel Message)

theorem recv_cases (next : Nat) : (next < channel.oldest ∧
      channel.recv next = (.lagged (channel.oldest - next), channel.oldest)) ∨
    (channel.oldest ≤ next ∧ ∃ msg, channel.sent[next]? = some msg ∧
      channel.recv next = (.value msg, next + 1)) ∨
    (channel.oldest ≤ next ∧ channel.sent.length ≤ next ∧ channel.recv next = (.empty, next)) := by
  unfold recv
  by_cases late : next < channel.oldest
  · exact .inl ⟨late, if_pos late⟩
  · rw [if_neg late]
    cases found : channel.sent[next]? with
    | some msg => exact .inr (.inl ⟨Nat.le_of_not_lt late, msg, rfl, rfl⟩)
    | none =>
      exact .inr (.inr ⟨Nat.le_of_not_lt late, List.getElem?_eq_none_iff.mp found, rfl⟩)

theorem oldest_le_length : channel.oldest ≤ channel.sent.length :=
  Nat.sub_le _ _

theorem between_self (start : Nat) : channel.between start start = [] := by
  rw [between, Nat.sub_self, take_zero]

end

theorem between_append {later : Channel Message} {more : List Message}
    (bound : next ≤ channel.sent.length) (grown : later.sent = channel.sent ++ more) :
    later.between start next = channel.between start next := by
  unfold between
  rw [grown]
  by_cases order : start ≤ next
  · rw [drop_append_of_le_length (Nat.le_trans order bound), take_append_of_le_length]
    rw [length_drop]
    omega
  · rw [Nat.sub_eq_zero_of_le (Nat.le_of_not_le order), take_zero, take_zero]

theorem between_send (bound : next ≤ channel.sent.length) (msg : Message) :
    (channel.send msg).between start next = channel.between start next :=
  between_append bound rfl

theorem between_succ (order : start ≤ next) {message : Message}
    (found : channel.sent[next]? = some message) :
    channel.between start (next + 1) = channel.between start next ++ [message] := by
  unfold between
  have here : (channel.sent.drop start)[next - start]? = some message := by
    rw [getElem?_drop, Nat.add_sub_cancel' order, found]
  rw [Nat.succ_sub order, take_add_one, here]
  rfl

end Channel

end Broadcast
