/-
This file moves the items of an array by one place between two positions: the item at the source
goes, and a new item stands at the target. Everything outside the two positions stays.
-/

import Dinotty.Foundation.Fallible
import Dinotty.Foundation.Vec

namespace Vec

open List Function

variable {Item : Type}

/-- Remove the item at `source` and put a new one at `target`. -/
def shift (items : List Item) (source target : Nat) (item : Item) : List Item :=
  (items.eraseIdx source).take target ++ item :: (items.eraseIdx source).drop target

variable {items : List Item} {source target : Nat} {item : Item}

theorem shift_length (sourceBound : source < items.length) :
    (shift items source target item).length = items.length := by
  simp only [shift, length_append, length_take, length_cons, length_drop,
    length_eraseIdx, if_pos sourceBound]
  omega

theorem shift_getElem? (sourceBound : source < items.length) (targetBound : target < items.length)
    (index : Nat) :
    (shift items source target item)[index]? = if index = target then some item
      else if source ≤ index ∧ index < target then items[index + 1]?
      else if target < index ∧ index ≤ source then items[index - 1]?
      else items[index]? := by
  have shorter : (items.eraseIdx source).length = items.length - 1 := by
    rw [length_eraseIdx, if_pos sourceBound]
  have front : ((items.eraseIdx source).take target).length = target := by
    rw [length_take, shorter]
    omega
  rw [shift, getElem?_append, front]
  by_cases before : index < target
  · rw [if_pos before, getElem?_take_of_lt before, getElem?_eraseIdx, if_neg (Nat.ne_of_lt before)]
    by_cases early : index < source
    · rw [if_pos early, if_neg (by omega), if_neg (by omega)]
    · rw [if_neg early, if_pos ⟨Nat.le_of_not_lt early, before⟩]
  · rw [if_neg before]
    by_cases here : index = target
    · rw [if_pos here, here, Nat.sub_self]
      rfl
    · obtain ⟨past, equal⟩ : ∃ past, index - target = past + 1 := ⟨index - target - 1, by omega⟩
      rw [if_neg here, if_neg (show ¬ (source ≤ index ∧ index < target) from
        fun between => before between.2), equal, getElem?_cons_succ, getElem?_drop,
        getElem?_eraseIdx, show target + past = index - 1 by omega]
      by_cases early : index - 1 < source
      · rw [if_pos early, if_pos (by omega)]
      · rw [if_neg early, if_neg (by omega), show index - 1 + 1 = index by omega]

def Between (source target index : Nat) : Prop :=
  min source target ≤ index ∧ index ≤ max source target

instance (source target index : Nat) : Decidable (Between source target index) :=
  inferInstanceAs (Decidable (_ ∧ _))

variable {index : Nat}

theorem shift_outside (sourceBound : source < items.length) (targetBound : target < items.length)
    (outside : ¬ Between source target index) :
    (shift items source target item)[index]? = items[index]? := by
  unfold Between at outside
  rw [shift_getElem? sourceBound targetBound, if_neg (by omega), if_neg (by omega),
    if_neg (by omega)]

theorem shift_eq_self (sourceBound : source < items.length) (targetBound : target < items.length)
    (filled : ∀ index, Between source target index → items[index]? = some item) :
    shift items source target item = items := by
  refine ext_getElem? fun index => ?_
  unfold Between at filled
  rw [shift_getElem? sourceBound targetBound]
  split
  · rw [filled index (by omega)]
  · split
    · rw [filled (index + 1) (by omega), filled index (by omega)]
    · split
      · rw [filled (index - 1) (by omega), filled index (by omega)]
      · rfl

/-! ### Repeating the move -/

theorem iterate_shift_length (sourceBound : source < items.length) (count : Nat) :
    ((shift · source target item)^[count] items).length = items.length := by
  induction count with
  | zero => rfl
  | succ count ih =>
    rw [iterate_succ_apply', shift_length (by rw [ih]; exact sourceBound), ih]

section

variable (sourceBound : source < items.length) (targetBound : target < items.length)
include sourceBound targetBound

theorem iterate_shift_outside (count : Nat) (outside : ¬ Between source target index) :
    ((shift · source target item)^[count] items)[index]? = items[index]? := by
  induction count with
  | zero => rfl
  | succ count ih =>
    have length : ((shift · source target item)^[count] items).length = items.length :=
      iterate_shift_length sourceBound count
    rw [iterate_succ_apply', shift_outside (by rw [length]; exact sourceBound)
      (by rw [length]; exact targetBound) outside, ih]

theorem iterate_shift_filled (count : Nat) (between : Between source target index)
    (near : index < target + count) (near' : target < index + count) :
    ((shift · source target item)^[count] items)[index]? = some item := by
  induction count generalizing index with
  | zero => omega
  | succ count ih =>
    have length : ((shift · source target item)^[count] items).length = items.length :=
      iterate_shift_length sourceBound count
    unfold Between at between ih
    rw [iterate_succ_apply', shift_getElem? (by rw [length]; exact sourceBound)
      (by rw [length]; exact targetBound)]
    split
    · rfl
    · split
      · exact ih (by omega) (by omega) (by omega)
      · split
        · exact ih (by omega) (by omega) (by omega)
        · omega

theorem iterate_shift_eq_self_iff {count : Nat} (positive : 0 < count) :
    (shift · source target item)^[count] items = items ↔
      ∀ index, Between source target index → items[index]? = some item := by
  constructor
  · intro same index between
    have again (times : Nat) : (shift · source target item)^[count * times] items = items := by
      rw [iterate_mul]
      exact iterate_fixed same times
    have far : items.length ≤ count * items.length := Nat.le_mul_of_pos_left _ positive
    rw [← again items.length]
    have inside := between
    unfold Between at inside
    exact iterate_shift_filled sourceBound targetBound _ between (by omega) (by omega)
  · intro filled
    exact iterate_fixed (shift_eq_self sourceBound targetBound filled) count

end

theorem repeatTimes_eq_iterate {State : Type} {once : State → Option State} {step : State → State}
    (inv : State → Prop)
    (steps : ∀ state, inv state → once state = some (step state) ∧ inv (step state))
    (count : Nat) {state : State} (start : inv state) :
    Fallible.repeatTimes once count state = some (step^[count] state) := by
  induction count generalizing state with
  | zero => rfl
  | succ count ih =>
    obtain ⟨done, kept⟩ := steps state start
    rw [Fallible.repeatTimes_succ, done, Option.bind_some, ih kept, iterate_succ_apply]

end Vec
