/-
This file is a bounded channel between a sender that never waits and a receiver. It remembers every
message it has accepted; one that finds it full or closed is refused.
-/

import Mathlib

/-- A bounded channel: the messages it has accepted, how many have been taken, and how many it has
refused. -/
structure Mailbox (Message : Type) where
  capacity : Nat
  closed : Bool
  sent : List Message
  taken : Nat
  refused : Nat
  deriving DecidableEq, Repr

namespace Mailbox

variable {Message : Type}

def new (capacity : Nat) : Mailbox Message := ⟨capacity, false, [], 0, 0⟩

/-- The channel has room for one more message. -/
def HasRoom (mailbox : Mailbox Message) : Prop :=
  mailbox.closed = false ∧ mailbox.sent.length - mailbox.taken < mailbox.capacity

instance (mailbox : Mailbox Message) : Decidable mailbox.HasRoom :=
  inferInstanceAs (Decidable (_ ∧ _))

def trySend (mailbox : Mailbox Message) (message : Message) : Mailbox Message :=
  if mailbox.HasRoom then { mailbox with sent := mailbox.sent ++ [message] }
  else { mailbox with refused := mailbox.refused + 1 }

/-- The receiver takes the next message, if there is one. -/
def receive (mailbox : Mailbox Message) : Mailbox Message :=
  { mailbox with taken := min (mailbox.taken + 1) mailbox.sent.length }

def received (mailbox : Mailbox Message) : List Message := mailbox.sent.take mailbox.taken

/-- The receiver has taken everything that was sent to it. -/
def Drained (mailbox : Mailbox Message) : Prop := mailbox.sent.length ≤ mailbox.taken

variable {mailbox : Mailbox Message}

theorem received_of_drained (drained : mailbox.Drained) :
    mailbox.received = mailbox.sent := List.take_of_length_le drained

theorem trySend_of_room (room : mailbox.HasRoom) (msg : Message) :
    mailbox.trySend msg = { mailbox with sent := mailbox.sent ++ [msg] } := if_pos room

theorem trySend_of_full (full : ¬ mailbox.HasRoom) (msg : Message) :
    mailbox.trySend msg = { mailbox with refused := mailbox.refused + 1 } := if_neg full

variable (mailbox : Mailbox Message)

theorem trySend_cases (msg : Message) :
    (mailbox.HasRoom ∧ (mailbox.trySend msg).sent = mailbox.sent ++ [msg] ∧
        (mailbox.trySend msg).refused = mailbox.refused) ∨
      (¬ mailbox.HasRoom ∧ (mailbox.trySend msg).sent = mailbox.sent ∧
        (mailbox.trySend msg).refused = mailbox.refused + 1) := by
  by_cases room : mailbox.HasRoom
  · rw [trySend_of_room room]
    exact .inl ⟨room, rfl, rfl⟩
  · rw [trySend_of_full room]
    exact .inr ⟨room, rfl, rfl⟩

@[simp] theorem receive_sent : mailbox.receive.sent = mailbox.sent :=
  rfl

@[simp] theorem trySend_closed (msg : Message) : (mailbox.trySend msg).closed = mailbox.closed := by
  unfold trySend
  split <;> rfl

end Mailbox
