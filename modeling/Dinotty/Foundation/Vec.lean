/-
This file is the calculus of growable arrays whose operations fail when an index or a slice bound is
out of range. Each operation has one lemma that says when it succeeds and what it then answers, and
one that says what it keeps.
-/

import Mathlib

namespace Vec

open List Option

variable {Item : Type}

/-- Remove the item at `index` and answer it with the items that stay. -/
def remove (items : List Item) (index : Nat) : Option (Item × List Item) :=
  items[index]?.map fun item => (item, items.eraseIdx index)

/-- Insert an item before position `index`, which may be one past the last item. -/
def insert (items : List Item) (index : Nat) (item : Item) : Option (List Item) :=
  if index ≤ items.length then some (items.take index ++ item :: items.drop index) else none

/-- Assign the item at `index`. -/
def set (items : List Item) (index : Nat) (item : Item) : Option (List Item) :=
  if index < items.length then some (items.set index item) else none

/-- Assign the item at `index` when a condition holds. -/
def setIf (condition : Prop) [Decidable condition] (items : List Item) (index : Nat)
    (item : Item) : Option (List Item) :=
  if condition then set items index item else some items

/-- Update the item at `index` by a function that may itself fail. -/
def update (items : List Item) (index : Nat) (change : Item → Option Item) : Option (List Item) :=
  (items[index]?).bind fun item => (change item).map fun changed => items.set index changed

/-- Assign every item of the slice that starts at `start`. -/
def fillFrom (items : List Item) (start : Nat) (item : Item) : Option (List Item) :=
  if start ≤ items.length then
    some (items.take start ++ List.replicate (items.length - start) item)
  else none

/-- Assign every item of the slice that ends with position `last`. -/
def fillThrough (items : List Item) (last : Nat) (item : Item) : Option (List Item) :=
  if last < items.length then
    some (List.replicate (last + 1) item ++ items.drop (last + 1))
  else none

/-- Truncate to `count` items, or extend to it with copies of one item. -/
def resize (items : List Item) (count : Nat) (item : Item) : List Item :=
  items.take count ++ List.replicate (count - items.length) item

/-! ### When an operation succeeds -/

variable {items rest : List Item} {index : Nat} {item : Item}

theorem remove_eq_some : remove items index = some (item, rest) ↔
      items[index]? = some item ∧ items.eraseIdx index = rest := by
  simp only [remove, map_eq_some_iff, Prod.mk.injEq]
  constructor
  · rintro ⟨found, held, rfl, rfl⟩
    exact ⟨held, rfl⟩
  · rintro ⟨held, rfl⟩
    exact ⟨item, held, rfl, rfl⟩

theorem remove_of_lt (bound : index < items.length) :
    remove items index = some (items[index], items.eraseIdx index) := by
  rw [remove, getElem?_eq_getElem bound, map_some]

theorem insert_of_le (bound : index ≤ items.length) (item : Item) :
    insert items index item = some (items.take index ++ item :: items.drop index) := if_pos bound

variable {result : List Item}

theorem insert_eq_some : insert items index item = some result ↔
      index ≤ items.length ∧ items.take index ++ item :: items.drop index = result := by
  simp [insert]

theorem set_eq_some : set items index item = some result ↔
      index < items.length ∧ items.set index item = result := by
  simp [set]

theorem set_of_lt (bound : index < items.length) (item : Item) :
    set items index item = some (items.set index item) := if_pos bound

variable {change : Item → Option Item}

theorem update_eq_some : update items index change = some result ↔
      ∃ item changed, items[index]? = some item ∧ change item = some changed ∧
        items.set index changed = result := by
  simp only [update, bind_eq_some_iff, map_eq_some_iff]
  constructor
  · rintro ⟨item, held, changed, done, rfl⟩
    exact ⟨item, changed, held, done, rfl⟩
  · rintro ⟨item, changed, held, done, rfl⟩
    exact ⟨item, held, changed, done, rfl⟩

theorem fillFrom_eq_some {start : Nat} : fillFrom items start item = some result ↔
      start ≤ items.length ∧
        items.take start ++ List.replicate (items.length - start) item = result := by
  simp [fillFrom]

theorem fillThrough_eq_some {last : Nat} : fillThrough items last item = some result ↔
      last < items.length ∧ List.replicate (last + 1) item ++ items.drop (last + 1) = result := by
  simp [fillThrough]

/-! ### Lengths -/

theorem remove_length (removed : remove items index = some (item, rest)) :
    index < items.length ∧ rest.length + 1 = items.length := by
  obtain ⟨held, rfl⟩ := remove_eq_some.mp removed
  have bound : index < items.length := (List.getElem?_eq_some_iff.mp held).1
  refine ⟨bound, ?_⟩
  rw [length_eraseIdx, if_pos bound]
  omega

theorem insert_length (ins : insert items index item = some result) :
    result.length = items.length + 1 := by
  obtain ⟨bound, rfl⟩ := insert_eq_some.mp ins
  simp only [length_append, length_take, length_cons, length_drop]
  omega

theorem update_length (updated : update items index change = some result) :
    result.length = items.length := by
  obtain ⟨item, changed, -, -, rfl⟩ := update_eq_some.mp updated
  exact length_set

theorem fillFrom_length {start : Nat} (filled : fillFrom items start item = some result) :
    result.length = items.length := by
  obtain ⟨bound, rfl⟩ := fillFrom_eq_some.mp filled
  simp only [length_append, length_take, length_replicate]
  omega

theorem fillThrough_length {last : Nat} (filled : fillThrough items last item = some result) :
    result.length = items.length := by
  obtain ⟨bound, rfl⟩ := fillThrough_eq_some.mp filled
  simp only [length_append, length_drop, length_replicate]
  omega

theorem resize_length (items : List Item) (count : Nat) (item : Item) :
    (resize items count item).length = count := by
  simp only [resize, length_append, length_take, length_replicate]
  omega

/-! ### What an operation keeps of every item -/

variable {property : Item → Prop}

section

variable (all : ∀ kept ∈ items, property kept)
include all

theorem remove_forall (removed : remove items index = some (item, rest)) :
    property item ∧ ∀ kept ∈ rest, property kept := by
  obtain ⟨held, rfl⟩ := remove_eq_some.mp removed
  exact ⟨all _ (mem_of_getElem? held), fun kept mem => all kept (mem_of_mem_eraseIdx mem)⟩

theorem insert_forall (new : property item) (ins : insert items index item = some result) :
    ∀ kept ∈ result, property kept := by
  obtain ⟨-, rfl⟩ := insert_eq_some.mp ins
  intro kept mem
  rcases mem_append.mp mem with front | back
  · exact all kept (mem_of_mem_take front)
  · rcases mem_cons.mp back with rfl | later
    · exact new
    · exact all kept (mem_of_mem_drop later)

theorem update_forall
    (changes : ∀ item changed, items[index]? = some item → change item = some changed →
      property changed) (updated : update items index change = some result) :
    ∀ kept ∈ result, property kept := by
  obtain ⟨item, changed, held, done, rfl⟩ := update_eq_some.mp updated
  intro kept mem
  rcases mem_or_eq_of_mem_set mem with old | rfl
  · exact all kept old
  · exact changes item kept held done

theorem resize_forall {count : Nat} (new : property item) :
    ∀ kept ∈ resize items count item, property kept := by
  intro kept mem
  rcases mem_append.mp mem with front | back
  · exact all kept (mem_of_mem_take front)
  · rw [eq_of_mem_replicate back]
    exact new

end

end Vec
