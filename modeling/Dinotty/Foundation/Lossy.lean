/-
This file decodes bytes as UTF-8. The lossy decoding replaces each maximal invalid part by one
replacement character, and the valid prefix ends at the first one. What is decoded does not depend
on the bytes that follow, except for a character that is cut off at the end.
-/

import Mathlib

namespace Utf8

open List

/-- The character that stands for an invalid part. -/
def replacement : Char := '\uFFFD'

def byteWithin (low high : Nat) (byte : UInt8) : Bool := low ≤ byte.toNat ∧ byte.toNat ≤ high

/-- The tests that the bytes after a first byte have to pass, or none if no character begins with
it. -/
def continuations (first : UInt8) : Option (List (UInt8 → Bool)) :=
  let any := byteWithin 0x80 0xBF
  if byteWithin 0x00 0x7F first then some []
  else if byteWithin 0xC2 0xDF first then some [any]
  else if byteWithin 0xE0 0xE0 first then some [byteWithin 0xA0 0xBF, any]
  else if byteWithin 0xED 0xED first then some [byteWithin 0x80 0x9F, any]
  else if byteWithin 0xE1 0xEF first then some [any, any]
  else if byteWithin 0xF0 0xF0 first then some [byteWithin 0x90 0xBF, any, any]
  else if byteWithin 0xF1 0xF3 first then some [any, any, any]
  else if byteWithin 0xF4 0xF4 first then some [byteWithin 0x80 0x8F, any, any]
  else none

/-- Read bytes while they pass the tests: the bytes read, whether all tests were passed, and the
bytes that are left. -/
def scan : List (UInt8 → Bool) → List UInt8 → List UInt8 × Bool × List UInt8
  | [], bytes => ([], true, bytes)
  | _ :: _, [] => ([], false, [])
  | test :: tests, byte :: bytes =>
      if test byte then
        let (taken, complete, left) := scan tests bytes
        (byte :: taken, complete, left)
      else ([], false, byte :: bytes)

/-- The code that a first byte and its continuation stand for. -/
def assemble (first : UInt8) : List UInt8 → Nat
  | [] => first.toNat
  | [second] => first.toNat % 0x20 * 0x40 + second.toNat % 0x40
  | [second, third] =>
      first.toNat % 0x10 * 0x1000 + second.toNat % 0x40 * 0x40 + third.toNat % 0x40
  | second :: third :: fourth :: _ =>
      first.toNat % 0x08 * 0x40000 + second.toNat % 0x40 * 0x1000 + third.toNat % 0x40 * 0x40 +
        fourth.toNat % 0x40

/-- The character at the front of the bytes, if it is complete, and the bytes after it or after
the invalid part. -/
def next (first : UInt8) (bytes : List UInt8) : Option Char × List UInt8 :=
  match continuations first with
  | none => (none, bytes)
  | some tests =>
      match scan tests bytes with
      | (taken, true, left) => (some (Char.ofNat (assemble first taken)), left)
      | (_, false, left) => (none, left)

/-- Decode at most `fuel` characters and invalid parts. -/
def lossyWithin : Nat → List UInt8 → List Char
  | 0, _ => []
  | _, [] => []
  | fuel + 1, first :: bytes =>
      ((next first bytes).1.getD replacement) :: lossyWithin fuel (next first bytes).2

def lossy (bytes : List UInt8) : List Char := lossyWithin bytes.length bytes

/-- Split at most `fuel` characters off the bytes, up to the first invalid part. -/
def validWithin : Nat → List UInt8 → List Char × List UInt8
  | 0, bytes => ([], bytes)
  | _, [] => ([], [])
  | fuel + 1, first :: bytes =>
      match next first bytes with
      | (none, _) => ([], first :: bytes)
      | (some c, left) => (c :: (validWithin fuel left).1, (validWithin fuel left).2)

/-- The text of the longest valid prefix, and the bytes beyond it. -/
def validPrefix (bytes : List UInt8) : List Char × List UInt8 := validWithin bytes.length bytes

/-! ### One character -/

theorem scan_length (tests : List (UInt8 → Bool)) (bytes : List UInt8) :
    (scan tests bytes).1.length + (scan tests bytes).2.2.length = bytes.length ∧
      (scan tests bytes).1.length ≤ tests.length := by
  induction tests generalizing bytes with
  | nil => exact ⟨Nat.zero_add _, Nat.le_refl _⟩
  | cons test tests ih =>
    cases bytes with
    | nil => exact ⟨rfl, Nat.zero_le _⟩
    | cons byte bytes =>
      rw [scan]
      split
      · obtain ⟨total, bound⟩ := ih bytes
        exact ⟨(Nat.succ_add _ _).trans (congrArg Nat.succ total), Nat.succ_le_succ bound⟩
      · exact ⟨Nat.zero_add _, Nat.zero_le _⟩

variable {tests : List (UInt8 → Bool)} {bytes : List UInt8}

theorem scan_append (complete : (scan tests bytes).2.1 = true) (more : List UInt8) :
    scan tests (bytes ++ more) = ((scan tests bytes).1, true, (scan tests bytes).2.2 ++ more) := by
  induction tests generalizing bytes with
  | nil => rfl
  | cons test tests ih =>
    cases bytes with
    | nil => exact nomatch complete
    | cons byte bytes =>
      rw [cons_append, scan, scan] at *
      by_cases passes : test byte = true
      · simp only [if_pos passes] at complete ⊢
        rw [ih complete]
      · rw [if_neg passes] at complete
        exact nomatch complete

theorem scan_append_of_stopped (stopped : (scan tests bytes).2.2 ≠ []) (more : List UInt8) :
    scan tests (bytes ++ more) =
      ((scan tests bytes).1, (scan tests bytes).2.1, (scan tests bytes).2.2 ++ more) := by
  induction tests generalizing bytes with
  | nil => rfl
  | cons test tests ih =>
    cases bytes with
    | nil => exact absurd rfl stopped
    | cons byte bytes =>
      rw [cons_append, scan, scan] at *
      by_cases passes : test byte = true
      · simp only [if_pos passes] at stopped ⊢
        rw [ih stopped]
      · simp only [if_neg passes]
        rfl

theorem scan_failed (failed : (scan tests bytes).2.1 = false) :
    (scan tests bytes).1.length < tests.length := by
  induction tests generalizing bytes with
  | nil => exact nomatch failed
  | cons test tests ih =>
    cases bytes with
    | nil => exact Nat.zero_lt_succ _
    | cons byte bytes =>
      rw [scan] at failed ⊢
      split at failed
      next passes =>
        rw [if_pos passes]
        exact Nat.succ_lt_succ (ih failed)
      next fails =>
        rw [if_neg fails]
        exact Nat.zero_lt_succ _

variable {first : UInt8}

theorem continuations_length (starts : continuations first = some tests) : tests.length ≤ 3 := by
  unfold continuations at starts
  dsimp only at starts
  repeat' split at starts
  all_goals first
    | (obtain rfl := Option.some.inj starts; decide)
    | exact nomatch starts

theorem next_length (first : UInt8) (bytes : List UInt8) :
    (next first bytes).2.length ≤ bytes.length := by
  unfold next
  split
  · exact Nat.le_refl _
  next tests _ =>
    obtain ⟨total, -⟩ := scan_length tests bytes
    split
    next taken left equal =>
      rw [equal] at total
      exact Nat.le_of_add_left_le (Nat.le_of_eq total)
    next taken left equal =>
      rw [equal] at total
      exact Nat.le_of_add_left_le (Nat.le_of_eq total)

variable {left : List UInt8}

theorem next_append {c : Char} (complete : next first bytes = (some c, left)) (more : List UInt8) :
    next first (bytes ++ more) = (some c, left ++ more) := by
  unfold next at complete ⊢
  cases starts : continuations first with
  | none =>
    rw [starts] at complete
    exact nomatch complete
  | some tests =>
    rw [starts] at complete
    dsimp only at complete ⊢
    split at complete
    next taken rest equal =>
      have passed : (scan tests bytes).2.1 = true := by rw [equal]
      rw [scan_append passed, equal, ← (Prod.mk.inj complete).1, ← (Prod.mk.inj complete).2]
    · exact nomatch (Prod.mk.inj complete).1

theorem next_append_of_invalid (invalid : next first bytes = (none, left)) (stopped : left ≠ [])
    (more : List UInt8) :
    next first (bytes ++ more) = (none, left ++ more) := by
  unfold next at invalid ⊢
  cases starts : continuations first with
  | none =>
    rw [starts] at invalid
    cases invalid
    rfl
  | some tests =>
    rw [starts] at invalid
    dsimp only at invalid ⊢
    split at invalid
    · exact nomatch (Prod.mk.inj invalid).1
    next taken rest equal =>
      cases invalid
      rw [scan_append_of_stopped (by rw [equal]; exact stopped), equal]

theorem next_invalid (invalid : next first bytes = (none, left)) :
    bytes.length ≤ left.length + 2 := by
  unfold next at invalid
  split at invalid
  · cases invalid
    exact Nat.le_add_right _ _
  next tests starts =>
    have bound := continuations_length starts
    obtain ⟨total, -⟩ := scan_length tests bytes
    split at invalid
    · exact nomatch (Prod.mk.inj invalid).1
    next taken rest equal =>
      have failed := scan_failed (show (scan tests bytes).2.1 = false by rw [equal])
      rw [equal] at failed total
      cases invalid
      dsimp only at failed total
      omega

/-- Bytes are read one character or invalid part after the other. -/
theorem next_induction {property : List UInt8 → Prop} (nil : property [])
    (cons : ∀ first bytes, property (next first bytes).2 → property (first :: bytes))
    (bytes : List UInt8) : property bytes := by
  obtain ⟨bound, within⟩ : ∃ bound, bytes.length ≤ bound := ⟨_, Nat.le_refl _⟩
  induction bound generalizing bytes with
  | zero =>
    obtain rfl := eq_nil_of_length_eq_zero (Nat.le_zero.mp within)
    exact nil
  | succ bound ih =>
    cases bytes with
    | nil => exact nil
    | cons first bytes =>
      exact cons first bytes (ih _
        (Nat.le_trans (next_length first bytes) (Nat.le_of_succ_le_succ within)))

/-! ### Decoding -/

theorem lossyWithin_eq {fuel : Nat} (enough : bytes.length ≤ fuel) :
    lossyWithin fuel bytes = lossy bytes := by
  induction bytes using next_induction generalizing fuel with
  | nil => cases fuel <;> rfl
  | cons byte bytes ih =>
    cases fuel with
    | zero => exact absurd enough (Nat.not_succ_le_zero _)
    | succ fuel =>
      have shorter := next_length byte bytes
      have less := Nat.le_trans shorter (Nat.le_of_succ_le_succ enough)
      exact congrArg _ ((ih less).trans (ih shorter).symm)

@[simp] theorem lossy_nil : lossy [] = [] := rfl

theorem lossy_cons (first : UInt8) (bytes : List UInt8) : lossy (first :: bytes) =
      (next first bytes).1.getD replacement :: lossy (next first bytes).2 := by
  show _ :: lossyWithin bytes.length (next first bytes).2 = _
  rw [lossyWithin_eq (next_length first bytes)]

theorem validWithin_eq {fuel : Nat} (enough : bytes.length ≤ fuel) :
    validWithin fuel bytes = validPrefix bytes := by
  induction bytes using next_induction generalizing fuel with
  | nil => cases fuel <;> rfl
  | cons byte bytes ih =>
    cases fuel with
    | zero => exact absurd enough (Nat.not_succ_le_zero _)
    | succ fuel =>
      have shorter := next_length byte bytes
      have less := Nat.le_trans shorter (Nat.le_of_succ_le_succ enough)
      have same := (ih less).trans (ih shorter).symm
      rw [validPrefix, length_cons, validWithin, validWithin]
      split
      · rfl
      next c left equal =>
        rw [equal] at same
        rw [same]

theorem validPrefix_of_char {c : Char} (complete : next first bytes = (some c, left)) :
    validPrefix (first :: bytes) = (c :: (validPrefix left).1, (validPrefix left).2) := by
  have shorter : left.length ≤ bytes.length := by
    have bound := next_length first bytes
    rw [complete] at bound
    exact bound
  rw [← validWithin_eq shorter, validPrefix, length_cons, validWithin, complete]

theorem validPrefix_of_invalid (invalid : next first bytes = (none, left)) :
    validPrefix (first :: bytes) = ([], first :: bytes) := by
  rw [validPrefix, length_cons, validWithin, invalid]

theorem lossy_append (bytes more : List UInt8) :
    lossy (bytes ++ more) = (validPrefix bytes).1 ++ lossy ((validPrefix bytes).2 ++ more) := by
  induction bytes using next_induction with
  | nil => rfl
  | cons first bytes ih =>
    rcases read : next first bytes with ⟨_ | c, left⟩ <;> rw [read] at ih
    · rw [validPrefix_of_invalid read]
      rfl
    · rw [validPrefix_of_char read, cons_append, lossy_cons, next_append read more, ih]
      rfl

theorem lossy_eq (bytes : List UInt8) :
    lossy bytes = (validPrefix bytes).1 ++ lossy (validPrefix bytes).2 := by
  have split := lossy_append bytes []
  rw [append_nil, append_nil] at split
  exact split

theorem validPrefix_rest (bytes : List UInt8) : (validPrefix bytes).2 = [] ∨ ∃ first rest left,
      (validPrefix bytes).2 = first :: rest ∧ next first rest = (none, left) := by
  induction bytes using next_induction with
  | nil => exact Or.inl rfl
  | cons first bytes ih =>
    rcases read : next first bytes with ⟨_ | c, left⟩ <;> rw [read] at ih
    · rw [validPrefix_of_invalid read]
      exact Or.inr ⟨first, bytes, left, rfl, read⟩
    · rw [validPrefix_of_char read]
      exact ih

theorem validPrefix_append (bytes more : List UInt8) : validPrefix (bytes ++ more) =
      ((validPrefix bytes).1 ++ (validPrefix ((validPrefix bytes).2 ++ more)).1,
        (validPrefix ((validPrefix bytes).2 ++ more)).2) := by
  induction bytes using next_induction with
  | nil => rfl
  | cons first bytes ih =>
    rcases read : next first bytes with ⟨_ | c, left⟩ <;> rw [read] at ih
    · rw [validPrefix_of_invalid read]
      rfl
    · rw [validPrefix_of_char read, cons_append, validPrefix_of_char (next_append read more), ih]
      rfl

/-- Bytes that are text, but for a character that may be cut off at the end. -/
def IsText (bytes : List UInt8) : Prop := (validPrefix bytes).2.length ≤ 3

instance (bytes : List UInt8) : Decidable (IsText bytes) := inferInstanceAs (Decidable (_ ≤ 3))

theorem IsText.of_append {more : List UInt8} (text : IsText (bytes ++ more)) : IsText bytes := by
  refine Nat.le_of_not_lt fun long => ?_
  rcases validPrefix_rest bytes with empty | ⟨first, rest, left, equal, invalid⟩
  · rw [empty] at long
    exact absurd long (Nat.not_lt_zero 3)
  · have bound := next_invalid invalid
    have stopped : left ≠ [] := by
      rintro rfl
      rw [equal, length_cons] at long
      rw [length_nil] at bound
      omega
    rw [IsText, validPrefix_append, equal, cons_append,
      validPrefix_of_invalid (next_append_of_invalid invalid stopped more)] at text
    rw [equal] at long
    rw [← cons_append, length_append] at text
    omega

theorem lossy_rest_length (long : 3 < (validPrefix bytes).2.length) :
    2 ≤ (lossy (validPrefix bytes).2).length := by
  rcases validPrefix_rest bytes with empty | ⟨first, rest, left, equal, invalid⟩
  · rw [empty] at long
    exact absurd long (Nat.not_lt_zero 3)
  · rw [equal] at long ⊢
    have bound := next_invalid invalid
    rw [length_cons] at long
    rw [lossy_cons, invalid]
    cases left with
    | nil => exact absurd bound (by rw [length_nil]; omega)
    | cons second left =>
      rw [lossy_cons]
      exact Nat.succ_le_succ (Nat.succ_le_succ (Nat.zero_le _))

end Utf8
