/-
This file models how the broadcast task turns the bytes of a PTY into text. It keeps the bytes
beyond the last complete character for the next batch, and takes more than three such bytes for
garbage: a stray byte then takes the characters after it along.
-/

import Dinotty.Foundation.Lossy

namespace Dinotty.Session

open Utf8 List

/-- The bytes that the task holds back, and the texts that it has broadcast. -/
structure Utf8Tail where
  held : List UInt8
  sent : List (List Char)
deriving DecidableEq

namespace Utf8Tail

def start : Utf8Tail := ⟨[], []⟩

def receive (tail : Utf8Tail) (batch : List UInt8) : Utf8Tail :=
  let held := tail.held ++ batch
  let (valid, rest) := validPrefix held
  if rest = [] then ⟨[], tail.sent ++ [valid]⟩
  else
    let sent := if valid ≠ [] then tail.sent ++ [valid] else tail.sent
    if rest.length > 3 then ⟨[], sent ++ [[replacement]]⟩ else ⟨rest, sent⟩

def receiveAll (batches : List (List UInt8)) : Utf8Tail := batches.foldl receive start

/-- The texts sent and the lossy decoding of the bytes held. -/
def text (tail : Utf8Tail) : List Char := tail.sent.flatten ++ lossy tail.held

/-- The bytes held and a batch have at most three bytes beyond their longest valid prefix. -/
def Whole (tail : Utf8Tail) (batch : List UInt8) : Prop :=
  (validPrefix (tail.held ++ batch)).2.length ≤ 3

instance (tail : Utf8Tail) (batch : List UInt8) : Decidable (tail.Whole batch) :=
  inferInstanceAs (Decidable (_ ≤ 3))

theorem sent_valid (sent : List (List Char)) (valid : List Char) :
    (if valid ≠ [] then sent ++ [valid] else sent).flatten = sent.flatten ++ valid := by
  split
  · rw [flatten_append, flatten_singleton]
  next empty =>
    rw [Decidable.of_not_not empty, append_nil]

variable {tail : Utf8Tail} {batch : List UInt8}

theorem receive_whole (whole : tail.Whole batch) : (tail.receive batch).sent.flatten =
      tail.sent.flatten ++ (validPrefix (tail.held ++ batch)).1 ∧
    (tail.receive batch).held = (validPrefix (tail.held ++ batch)).2 := by
  unfold receive
  dsimp only
  split
  next empty =>
    exact ⟨by rw [flatten_append, flatten_singleton], empty.symm⟩
  · rw [if_neg (Nat.not_lt_of_le whole)]
    exact ⟨sent_valid _ _, rfl⟩

theorem receive_broken (broken : ¬ tail.Whole batch) : (tail.receive batch).sent.flatten =
      tail.sent.flatten ++ (validPrefix (tail.held ++ batch)).1 ++ [replacement] ∧
    (tail.receive batch).held = [] := by
  have long : (validPrefix (tail.held ++ batch)).2.length > 3 := Nat.lt_of_not_le broken
  unfold receive
  dsimp only
  split
  next empty =>
    rw [empty] at long
    exact absurd long (Nat.not_lt_zero 3)
  · exact ⟨by rw [flatten_append, flatten_singleton, sent_valid], rfl⟩

theorem receiveAll_snoc (batches : List (List UInt8)) (batch : List UInt8) :
    receiveAll (batches ++ [batch]) = (receiveAll batches).receive batch := by
  rw [receiveAll, foldl_append]
  rfl

theorem held_length (batches : List (List UInt8)) : (receiveAll batches).held.length ≤ 3 := by
  induction batches using List.reverseRecOn with
  | nil => exact Nat.zero_le 3
  | append_singleton batches batch _ =>
    rw [receiveAll_snoc]
    by_cases whole : (receiveAll batches).Whole batch
    · rw [(receive_whole whole).2]
      exact whole
    · rw [(receive_broken whole).2]
      exact Nat.zero_le 3

/-- The tail stands for the bytes received: it decodes like them whatever follows. -/
def StandsFor (tail : Utf8Tail) (received : List UInt8) : Prop :=
  ∀ more, lossy (received ++ more) = tail.sent.flatten ++ lossy (tail.held ++ more)

theorem StandsFor.receive {received : List UInt8} (stands : tail.StandsFor received)
    (whole : tail.Whole batch) :
    (tail.receive batch).StandsFor (received ++ batch) := by
  obtain ⟨sent, held⟩ := receive_whole whole
  intro more
  rw [sent, held, append_assoc received, stands, ← append_assoc, lossy_append, append_assoc]

theorem StandsFor.text_broken {received : List UInt8} (stands : tail.StandsFor received)
    (broken : ¬ tail.Whole batch) :
    (tail.receive batch).text ≠ lossy (received ++ batch) := by
  obtain ⟨sent, held⟩ := receive_broken broken
  rw [text, sent, held, stands, lossy_eq (tail.held ++ batch), lossy_nil, append_nil, append_assoc]
  intro equal
  have lengths := congrArg List.length
    (append_cancel_left (append_cancel_left equal))
  have long := lossy_rest_length (Nat.lt_of_not_le broken)
  rw [← lengths] at long
  exact absurd long (by decide)

theorem receiveAll_standsFor {batches : List (List UInt8)}
    (whole : ∀ front batch, front ++ [batch] <+: batches → (receiveAll front).Whole batch) :
    (receiveAll batches).StandsFor batches.flatten := by
  induction batches using List.reverseRecOn with
  | nil => exact fun _ => rfl
  | append_singleton batches batch ih =>
    have before := ih fun front other within =>
      whole front other (within.trans (prefix_append _ _))
    rw [receiveAll_snoc, flatten_append, flatten_singleton]
    exact before.receive (whole batches batch (prefix_refl _))

end Utf8Tail

/-- After any batches at most three bytes are held. The texts sent and the bytes held are that of
the stream after each batch exactly when no batch had more than three bytes beyond the valid prefix.
-/
theorem reassembly_iff (batches : List (List UInt8)) :
    (Utf8Tail.receiveAll batches).held.length ≤ 3 ∧ ((∀ front, front <+: batches →
        (Utf8Tail.receiveAll front).text = lossy front.flatten) ↔
      ∀ front batch, front ++ [batch] <+: batches → (Utf8Tail.receiveAll front).Whole batch) := by
  refine ⟨Utf8Tail.held_length batches, fun exact front batch within => ?_,
    fun whole front within => ?_⟩
  · -- Before the first batch that is not whole, the tail stands for the stream.
    induction length : front.length using Nat.strongRecOn generalizing front batch with
    | _ length ih =>
      refine Decidable.byContradiction fun broken => ?_
      have stands := Utf8Tail.receiveAll_standsFor fun earlier other prior =>
        ih earlier.length (by
          have shorter := prior.length_le
          rw [length_append, length_singleton, length] at shorter
          exact shorter) earlier other
          (prior.trans ((prefix_append _ _).trans within)) rfl
      have same := exact (front ++ [batch]) within
      rw [Utf8Tail.receiveAll_snoc, flatten_append, flatten_singleton] at same
      exact stands.text_broken broken same
  · have stands := Utf8Tail.receiveAll_standsFor fun earlier other prior =>
      whole earlier other (prior.trans within)
    have same := stands []
    rw [append_nil, append_nil] at same
    exact same.symm

/-- A stray byte in front of three letters: one replacement character is sent for all four. -/
theorem strayByte_drops : ¬ ∀ batches : List (List UInt8),
      (Utf8Tail.receiveAll batches).text = lossy batches.flatten := by
  intro always
  exact absurd (always [[0xFF, 0x61, 0x62, 0x63]]) (by decide +kernel)

end Dinotty.Session
