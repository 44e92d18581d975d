/-
This file is the values of JSON: their reading by key and by kind, the setting of a field, and the
recursion over the values in an array of an object.
-/

import Mathlib

/-- A value of JSON. An object keeps its fields in an order that nothing reads, and a number is
exact. -/
inductive Json where
  | null
  | bool (value : Bool)
  | num (value : Rat)
  | str (value : String)
  | arr (items : List Json)
  | obj (fields : List (String × Json))

namespace Json

open List

mutual

def decEq : (first second : Json) → Decidable (first = second)
  | .null, .null => isTrue rfl
  | .bool value, .bool value' => decidable_of_iff (value = value') (by simp)
  | .num value, .num value' => decidable_of_iff (value = value') (by simp)
  | .str value, .str value' => decidable_of_iff (value = value') (by simp)
  | .arr items, .arr items' =>
      have : Decidable (items = items') := decEqItems items items'
      decidable_of_iff (items = items') (by simp)
  | .obj fields, .obj fields' =>
      have : Decidable (fields = fields') := decEqFields fields fields'
      decidable_of_iff (fields = fields') (by simp)
  | .null, .bool _ | .null, .num _ | .null, .str _ | .null, .arr _ | .null, .obj _
  | .bool _, .null | .bool _, .num _ | .bool _, .str _ | .bool _, .arr _ | .bool _, .obj _
  | .num _, .null | .num _, .bool _ | .num _, .str _ | .num _, .arr _ | .num _, .obj _
  | .str _, .null | .str _, .bool _ | .str _, .num _ | .str _, .arr _ | .str _, .obj _
  | .arr _, .null | .arr _, .bool _ | .arr _, .num _ | .arr _, .str _ | .arr _, .obj _
  | .obj _, .null | .obj _, .bool _ | .obj _, .num _ | .obj _, .str _ | .obj _, .arr _ =>
      isFalse (by simp)

def decEqItems : (first second : List Json) → Decidable (first = second)
  | [], [] => isTrue rfl
  | item :: rest, item' :: rest' =>
      have : Decidable (item = item') := decEq item item'
      have : Decidable (rest = rest') := decEqItems rest rest'
      decidable_of_iff (item = item' ∧ rest = rest') (by simp)
  | [], _ :: _ | _ :: _, [] => isFalse (by simp)

def decEqFields : (first second : List (String × Json)) → Decidable (first = second)
  | [], [] => isTrue rfl
  | (key, value) :: rest, (key', value') :: rest' =>
      have : Decidable (value = value') := decEq value value'
      have : Decidable (rest = rest') := decEqFields rest rest'
      decidable_of_iff (key = key' ∧ value = value' ∧ rest = rest') (by simp [and_assoc])
  | [], _ :: _ | _ :: _, [] => isFalse (by simp)

end

instance : DecidableEq Json := decEq

/-! ### Reading -/

/-- The value of a field, which only an object has. -/
def get (key : String) : Json → Option Json
  | .obj fields => fields.lookup key
  | _ => none

def asStr : Json → Option String
  | .str value => some value
  | _ => none

def asArray : Json → Option (List Json)
  | .arr items => some items
  | _ => none

/-- A number that an unsigned integer of 64 bits can be. -/
def asU64 : Json → Option Nat
  | .num value => if value.den = 1 ∧ 0 ≤ value.num ∧ value.num < 2 ^ 64 then some value.num.toNat
      else none
  | _ => none

def isObject : Json → Bool
  | .obj _ => true
  | _ => false

def getStr (key : String) (value : Json) : Option String := (value.get key).bind asStr

def getArray (key : String) (value : Json) : Option (List Json) := (value.get key).bind asArray

/-! ### Setting a field -/

def setField (key : String) (value : Json) : List (String × Json) → List (String × Json)
  | [] => [(key, value)]
  | (name, old) :: rest =>
      if key = name then (name, value) :: rest else (name, old) :: setField key value rest

/-- Set a field of an object. Other values have none to set. -/
def set : Json → String → Json → Json
  | .obj fields, key, value => .obj (setField key value fields)
  | other, _, _ => other

/-- Remove a field of an object. -/
def without (key : String) : Json → Json
  | .obj fields => .obj (fields.filter (·.1 ≠ key))
  | other => other

theorem lookup_cons (key name : String) (value : Json) (rest : List (String × Json)) :
    lookup key ((name, value) :: rest) = if key = name then some value else rest.lookup key := by
  by_cases same : key = name
  · rw [if_pos same, same, lookup_cons_self]
  · rw [if_neg same, List.lookup_cons, beq_eq_false_iff_ne.mpr same]

theorem lookup_setField (key : String) (value : Json) (fields : List (String × Json))
    (other : String) :
    (setField key value fields).lookup other =
      if other = key then some value else fields.lookup other := by
  induction fields with
  | nil => exact lookup_cons other key value []
  | cons field rest ih =>
    obtain ⟨name, old⟩ := field
    rw [setField]
    split
    next here =>
      rw [lookup_cons, lookup_cons, ← here]
      split <;> rfl
    next away =>
      rw [lookup_cons, lookup_cons, ih]
      by_cases same : other = name
      · rw [if_pos same, if_pos same, if_neg fun here => away (here.symm.trans same)]
      · rw [if_neg same, if_neg same]

variable {key : String} {value : Json}

theorem setField_lookup {fields : List (String × Json)} (found : fields.lookup key = some value) :
    setField key value fields = fields := by
  induction fields with
  | nil => cases found
  | cons field rest ih =>
    obtain ⟨name, old⟩ := field
    rw [lookup_cons] at found
    rw [setField]
    by_cases same : key = name
    · rw [if_pos same] at found ⊢
      rw [Option.some.inj found]
    · rw [if_neg same] at found ⊢
      rw [ih found]

variable {object : Json}

theorem isObject_of_get (found : object.get key = some value) : object.isObject = true := by
  cases object with
  | obj fields => rfl
  | _ => cases found

@[simp] theorem isObject_set (key : String) (value object : Json) :
    (object.set key value).isObject = object.isObject := by
  cases object <;> rfl

theorem get_set_self (isObject : object.isObject = true) (key : String) (value : Json) :
    (object.set key value).get key = some value := by
  cases object with
  | obj fields => exact (lookup_setField key value fields key).trans (if_pos rfl)
  | _ => cases isObject

variable {other : String}

theorem get_set_of_ne (ne : other ≠ key) (value object : Json) :
    (object.set key value).get other = object.get other := by
  cases object with
  | obj fields => exact (lookup_setField key value fields other).trans (if_neg ne)
  | _ => rfl

theorem set_of_get (found : object.get key = some value) : object.set key value = object := by
  cases object with
  | obj fields => exact congrArg obj (setField_lookup found)
  | _ => cases found

theorem setField_setField (key : String) (first second : Json) (fields : List (String × Json)) :
    setField key second (setField key first fields) = setField key second fields := by
  induction fields with
  | nil => simp [setField]
  | cons field rest ih =>
    obtain ⟨name, old⟩ := field
    by_cases same : key = name
    · simp [setField, same]
    · simp [setField, same, ih]

theorem set_set (key : String) (first second object : Json) :
    (object.set key first).set key second = object.set key second := by
  cases object with
  | obj fields => exact congrArg obj (setField_setField key first second fields)
  | _ => rfl

theorem getStr_set_of_ne (ne : other ≠ key) (value object : Json) :
    (object.set key value).getStr other = object.getStr other := by
  rw [getStr, get_set_of_ne ne, getStr]

theorem getArray_set_of_ne (ne : other ≠ key) (value object : Json) :
    (object.set key value).getArray other = object.getArray other := by
  rw [getArray, get_set_of_ne ne, getArray]

theorem isObject_of_getStr {text : String} (found : object.getStr key = some text) :
    object.isObject = true := by
  obtain ⟨value, held, -⟩ := Option.bind_eq_some_iff.mp found
  exact isObject_of_get held

theorem get_of_getArray {items : List Json} (found : object.getArray key = some items) :
    object.get key = some (.arr items) := by
  obtain ⟨value, held, isArray⟩ := Option.bind_eq_some_iff.mp found
  cases value with
  | arr items' =>
    cases isArray
    exact held
  | _ => cases isArray

theorem getArray_set_self (isObject : object.isObject = true) (key : String) (items : List Json) :
    (object.set key (.arr items)).getArray key = some items := by
  rw [getArray, get_set_self isObject]
  rfl

/-! ### Removing a field -/

theorem filter_setField (key : String) (value : Json) (fields : List (String × Json)) :
    (setField key value fields).filter (·.1 ≠ key) = fields.filter (·.1 ≠ key) := by
  induction fields with
  | nil => simp [setField]
  | cons field rest ih =>
    obtain ⟨name, old⟩ := field
    rw [setField]
    split
    next same =>
      simp [same]
    · rw [filter_cons, filter_cons, ih]

@[simp] theorem without_set (key : String) (value object : Json) :
    (object.set key value).without key = object.without key := by
  cases object with
  | obj fields => exact congrArg obj (filter_setField key value fields)
  | _ => rfl

theorem lookup_filter_ne (ne : other ≠ key) (fields : List (String × Json)) :
    (fields.filter (·.1 ≠ key)).lookup other = fields.lookup other := by
  induction fields with
  | nil => rfl
  | cons field rest ih =>
    obtain ⟨name, value⟩ := field
    by_cases same : name = key
    · rw [filter_cons_of_neg (by simp [same]), ih, lookup_cons, if_neg (same ▸ ne)]
    · rw [filter_cons_of_pos (by simp [same]), lookup_cons, lookup_cons, ih]

theorem getStr_without_of_ne (ne : other ≠ key) (object : Json) :
    (object.without key).getStr other = object.getStr other := by
  cases object with
  | obj fields =>
    exact congrArg (Option.bind · asStr) (lookup_filter_ne ne fields)
  | _ => rfl

/-! ### Recursion -/

theorem sizeOf_lookup {fields : List (String × Json)} (found : fields.lookup key = some value) :
    sizeOf value < sizeOf fields := by
  induction fields with
  | nil => cases found
  | cons field rest ih =>
    obtain ⟨name, first⟩ := field
    rw [lookup_cons] at found
    split at found
    · cases found
      simp
      omega
    · have := ih found
      simp
      omega

theorem sizeOf_of_mem_getArray {item : Json} {items : List Json}
    (found : object.getArray key = some items) (mem : item ∈ items) :
    sizeOf item < sizeOf object := by
  have held := get_of_getArray found
  have inItems := sizeOf_lt_of_mem mem
  cases object with
  | obj fields =>
    have inFields : sizeOf (arr items) < sizeOf fields := sizeOf_lookup held
    simp at inFields ⊢
    omega
  | _ => cases held

/-- To prove a property of every value, prove it of a value whose items under `key` have it. -/
theorem induction_on_items (key : String) {property : Json → Prop}
    (step : ∀ value, (∀ items, value.getArray key = some items →
      ∀ item ∈ items, property item) → property value) (value : Json) : property value :=
  step value fun _ found item mem =>
    have := sizeOf_of_mem_getArray found mem
    induction_on_items key step item
termination_by sizeOf value

end Json
