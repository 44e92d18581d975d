/-
This file treats text as a list of scalar values that is addressed by UTF-8 byte offsets. Among any
four neighbouring offsets of a text there is a boundary: this is what makes the cutting into pieces
advance.
-/

import Mathlib

namespace Utf8

open List Option

/-- The number of bytes that encode a text. -/
def size (text : List Char) : Nat := (text.map Char.utf8Size).sum

variable {text : List Char}

@[simp] theorem size_nil : size [] = 0 := rfl

@[simp] theorem size_cons (c : Char) (rest : List Char) :
    size (c :: rest) = c.utf8Size + size rest := by
  rw [size, map_cons, sum_cons]
  rfl

@[simp] theorem size_append (front back : List Char) :
    size (front ++ back) = size front + size back := by
  rw [size, map_append, sum_append]
  rfl

theorem size_eq_zero (empty : size text = 0) : text = [] := by
  cases text with
  | nil => rfl
  | cons c rest =>
    have positive := c.utf8Size_pos
    rw [size_cons] at empty
    omega

/-! ### Boundaries and slices -/

/-- The two parts of a text at a byte offset, when the offset lies on a boundary. -/
def splitAt? : List Char → Nat → Option (List Char × List Char)
  | text, 0 => some ([], text)
  | [], _ + 1 => none
  | c :: rest, offset + 1 =>
      if c.utf8Size ≤ offset + 1 then
        (splitAt? rest (offset + 1 - c.utf8Size)).map fun parts => (c :: parts.1, parts.2)
      else none

/-- Whether a byte offset lies between two characters, or at an end of the text. -/
def isCharBoundary (text : List Char) (offset : Nat) : Bool := (splitAt? text offset).isSome

/-- The text between two byte offsets, both of which have to be boundaries. -/
def slice? (text : List Char) (start stop : Nat) : Option (List Char) := do
  let (front, _) ← splitAt? text stop
  let (_, middle) ← splitAt? front start
  return middle

theorem splitAt?_append (front back : List Char) :
    splitAt? (front ++ back) (size front) = some (front, back) := by
  induction front with
  | nil =>
    rw [nil_append, size_nil]
    cases back <;> rfl
  | cons c rest ih =>
    have positive := c.utf8Size_pos
    obtain ⟨offset, equal⟩ : ∃ offset, size (c :: rest) = offset + 1 :=
      ⟨size (c :: rest) - 1, by rw [size_cons]; omega⟩
    rw [size_cons] at equal
    rw [cons_append, size_cons, equal, splitAt?, if_pos (by omega),
      show offset + 1 - c.utf8Size = size rest by omega, ih]
    rfl

variable {offset : Nat}

theorem splitAt?_eq_some {parts : List Char × List Char} (split : splitAt? text offset = some parts)
    :
    text = parts.1 ++ parts.2 ∧ size parts.1 = offset := by
  induction text generalizing offset parts with
  | nil =>
    cases offset with
    | zero =>
      cases split
      exact ⟨rfl, rfl⟩
    | succ offset => exact nomatch split
  | cons c rest ih =>
    cases offset with
    | zero =>
      cases split
      exact ⟨rfl, rfl⟩
    | succ offset =>
      rw [splitAt?] at split
      by_cases within : c.utf8Size ≤ offset + 1
      · rw [if_pos within] at split
        obtain ⟨later, laterSplit, rfl⟩ := map_eq_some_iff.mp split
        obtain ⟨equal, laterSize⟩ := ih laterSplit
        refine ⟨congrArg (c :: ·) equal, ?_⟩
        rw [size_cons, laterSize]
        omega
      · rw [if_neg within] at split
        exact nomatch split

section

variable (text : List Char)

theorem isCharBoundary_iff (offset : Nat) : isCharBoundary text offset = true ↔
      ∃ front back, text = front ++ back ∧ size front = offset := by
  rw [isCharBoundary, isSome_iff_exists]
  constructor
  · rintro ⟨⟨front, back⟩, split⟩
    exact ⟨front, back, splitAt?_eq_some split⟩
  · rintro ⟨front, back, rfl, rfl⟩
    exact ⟨_, splitAt?_append front back⟩

theorem isCharBoundary_size : isCharBoundary text (size text) = true :=
  (isCharBoundary_iff text _).mpr ⟨text, [], (append_nil text).symm, rfl⟩

theorem slice?_append (front middle back : List Char) :
    slice? (front ++ (middle ++ back)) (size front) (size front + size middle) = some middle := by
  rw [slice?, ← size_append, ← append_assoc, splitAt?_append, bind_eq_bind, bind_some]
  dsimp only
  rw [splitAt?_append]
  rfl

/-- A boundary lies within the four bytes up to any offset of a text. -/
theorem exists_boundary (inside : offset ≤ size text) :
    ∃ back, isCharBoundary text (offset - back) = true ∧ back ≤ 3 ∧ back ≤ offset := by
  induction text generalizing offset with
  | nil =>
    obtain rfl : offset = 0 := by
      rw [size_nil] at inside
      omega
    exact ⟨0, rfl, by omega, by omega⟩
  | cons c rest ih =>
    have bound := c.utf8Size_le_four
    by_cases within : offset < c.utf8Size
    · refine ⟨offset, ?_, by omega, Nat.le_refl offset⟩
      rw [Nat.sub_self]
      rfl
    · rw [size_cons] at inside
      obtain ⟨back, boundary, small, short⟩ :=
        ih (show offset - c.utf8Size ≤ size rest by omega)
      refine ⟨back, ?_, small, by omega⟩
      obtain ⟨front, later, rfl, sizeEq⟩ := (isCharBoundary_iff _ _).mp boundary
      refine (isCharBoundary_iff _ _).mpr ⟨c :: front, later, rfl, ?_⟩
      rw [size_cons, sizeEq]
      omega

/-! ### Retreating to a boundary -/

/-- Step back from an offset until it is a boundary or has reached `start`. -/
def retreat (text : List Char) (start : Nat) : Nat → Nat
  | 0 => 0
  | stop + 1 =>
      if start < stop + 1 ∧ isCharBoundary text (stop + 1) = false then retreat text start stop
      else stop + 1

theorem retreat_le (start stop : Nat) : retreat text start stop ≤ stop := by
  induction stop with
  | zero => exact Nat.le_refl 0
  | succ stop ih =>
    rw [retreat]
    split
    · omega
    · exact Nat.le_refl _

end

variable {stop : Nat}

theorem retreat_boundary {start : Nat} (startBoundary : isCharBoundary text start = true)
    (ordered : start ≤ stop) :
    start ≤ retreat text start stop ∧ isCharBoundary text (retreat text start stop) = true := by
  induction stop with
  | zero =>
    obtain rfl : start = 0 := by omega
    exact ⟨Nat.le_refl 0, startBoundary⟩
  | succ stop ih =>
    rw [retreat]
    by_cases back : start < stop + 1 ∧ isCharBoundary text (stop + 1) = false
    · rw [if_pos back]
      exact ih (by omega)
    · rw [if_neg back]
      refine ⟨ordered, ?_⟩
      by_cases above : start < stop + 1
      · exact Bool.of_not_eq_false fun noBoundary => back ⟨above, noBoundary⟩
      · obtain rfl : start = stop + 1 := by omega
        exact startBoundary

theorem boundary_le_retreat (start : Nat) (boundary : isCharBoundary text offset = true)
    (below : offset ≤ stop) :
    offset ≤ retreat text start stop := by
  induction stop with
  | zero => exact below
  | succ stop ih =>
    rw [retreat]
    by_cases back : start < stop + 1 ∧ isCharBoundary text (stop + 1) = false
    · rw [if_pos back]
      by_cases equal : offset = stop + 1
      · rw [equal, back.2] at boundary
        exact nomatch boundary
      · exact ih (by omega)
    · rw [if_neg back]
      exact below

/-! ### Cutting into pieces -/

/-- The end of the next piece: at most `limit` bytes on, moved back to a boundary. -/
def nextCut (limit : Nat) (text : List Char) (start : Nat) : Nat :=
  retreat text start (min (start + limit) (size text))

theorem nextCut_spec {limit : Nat} (wide : 4 ≤ limit) {start : Nat}
    (startBoundary : isCharBoundary text start = true) (inside : start < size text) :
    start < nextCut limit text start ∧ nextCut limit text start ≤ start + limit ∧
      nextCut limit text start ≤ size text ∧
      isCharBoundary text (nextCut limit text start) = true := by
  have ordered : start ≤ min (start + limit) (size text) := by omega
  have upper := retreat_le text start (min (start + limit) (size text))
  obtain ⟨-, boundary⟩ := retreat_boundary startBoundary ordered
  refine ⟨?_, Nat.le_trans upper (Nat.min_le_left _ _),
    Nat.le_trans upper (Nat.min_le_right _ _), boundary⟩
  by_cases whole : size text ≤ start + limit
  · have last := boundary_le_retreat start (isCharBoundary_size text)
      (show size text ≤ min (start + limit) (size text) by omega)
    exact Nat.lt_of_lt_of_le inside last
  · obtain ⟨back, near, small, -⟩ :=
      exists_boundary text (show start + limit ≤ size text by omega)
    have reached := boundary_le_retreat start near
      (show start + limit - back ≤ min (start + limit) (size text) by omega)
    exact Nat.lt_of_lt_of_le (by omega) reached

theorem slice?_of_boundaries {front back : List Char} (equal : text = front ++ back)
    (ordered : size front ≤ stop) (boundary : isCharBoundary text stop = true) :
    ∃ middle rest, back = middle ++ rest ∧ size front + size middle = stop ∧
      slice? text (size front) stop = some middle := by
  obtain ⟨long, rest, longEqual, longSize⟩ := (isCharBoundary_iff _ _).mp boundary
  have split : front ++ back = long ++ rest := equal.symm.trans longEqual
  obtain ⟨middle, rfl, rfl⟩ | ⟨middle, rfl, rfl⟩ := append_eq_append_iff.mp split
  · refine ⟨middle, rest, rfl, by rw [← longSize, size_append], ?_⟩
    rw [equal, ← longSize, size_append]
    exact slice?_append front middle rest
  · rw [size_append] at ordered
    obtain rfl : middle = [] := size_eq_zero (by omega)
    rw [append_nil]
    refine ⟨[], back, rfl, longSize, ?_⟩
    rw [equal, append_nil, ← longSize]
    exact slice?_append long [] back

end Utf8
