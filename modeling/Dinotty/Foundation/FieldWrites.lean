/-
This file is the writes of the fields of a record: after a list of writes a field holds what the
last of them that sets it gave it.
-/

import Mathlib

namespace FieldWrites

variable {Field : Type} {Value : Field → Type}

/-- Which fields are set, and to what. The values of the other fields do not matter. -/
structure Write (Value : Field → Type) where
  sets : Field → Bool
  given : ∀ field, Value field

def Write.apply (write : Write Value) (values : ∀ field, Value field) : ∀ field, Value field :=
  fun field => if write.sets field then write.given field else values field

/-- What the fields hold after writes, oldest first. -/
def replay (start : ∀ field, Value field) (writes : List (Write Value)) : ∀ field, Value field :=
  writes.foldl (fun values write => write.apply values) start

variable {start : ∀ field, Value field} {writes : List (Write Value)} {write : Write Value}

theorem replay_append (later : List (Write Value)) :
    replay start (writes ++ later) = replay (replay start writes) later :=
  List.foldl_append

theorem replay_snoc : replay start (writes ++ [write]) = write.apply (replay start writes) :=
  replay_append [write]

theorem replay_whole (left : ∀ field, write.sets field = false →
    write.given field = replay start writes field) :
    replay start (writes ++ [write]) = write.given := by
  rw [replay_snoc]
  funext field
  cases set : write.sets field with
  | false => rw [left field set, Write.apply, set]; rfl
  | true => rw [Write.apply, set]; rfl

end FieldWrites
