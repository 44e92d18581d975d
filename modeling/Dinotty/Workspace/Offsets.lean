/-
This file is the positions of files that requests name and answers give: the part that a `Range`
header asks for, and the column of a match of a search in the units of the editor.
-/

import Dinotty.Workspace.Util

namespace Dinotty.Workspace

open List Option Chars

/-! ### What a header asks for -/

/-- The forms of a byte range. -/
inductive ByteRange where
  | onward (first : Nat)
  | bounded (first last : Nat)
  | suffix (length : Nat)

/-- The part of a file with bytes that a range stands for. -/
def ByteRange.result (size : Nat) : ByteRange → ByteRangeResult
  | onward first => if first < size then .part first (size - 1) else .notSatisfiable
  | bounded first last =>
      if first < size ∧ first ≤ last then .part first (min last (size - 1)) else .notSatisfiable
  | suffix length => if length = 0 then .notSatisfiable else .part (size - length) (size - 1)

/-- A number that fits in 64 bits, in decimal digits. -/
def Spelled (digits : List Char) (number : Nat) : Prop :=
  Chars.decimalValue digits = some number ∧ number < 2 ^ 64

inductive Spells : List Char → ByteRange → Prop where
  | onward {digits : List Char} {first : Nat} (number : Spelled digits first) :
      Spells (digits ++ ['-']) (.onward first)
  | bounded {digits digits' : List Char} {first last : Nat} (number : Spelled digits first)
      (number' : Spelled digits' last) : Spells (digits ++ '-' :: digits') (.bounded first last)
  | suffix {digits : List Char} {length : Nat} (number : Spelled digits length) :
      Spells ('-' :: digits) (.suffix length)

/-- The first byte range of a header. -/
def Asks (rangeHeader : List Char) (range : ByteRange) : Prop :=
  ∃ list : List Char, "bytes=".toList ++ list = Chars.trim rangeHeader ∧
    Spells (Chars.trim (list.takeWhile (· ≠ ','))) range

variable {digits : List Char} {number : Nat}

theorem Spelled.minus_notMem (spelled : Spelled digits number) : '-' ∉ digits := by
  intro mem
  obtain ⟨front, rest, rfl⟩ := append_of_mem mem
  have stuck (rest : List Char) : rest.foldl
      (fun value c => do return 10 * (← value) + (← digitValue 10 c)) none = none := by
    induction rest with
    | nil => rfl
    | cons c rest ih => exact ih
  have atMinus (value : Option Nat) :
      (do return 10 * (← value) + (← digitValue 10 '-')) = (none : Option Nat) := by
    cases value <;> rfl
  have failed := spelled.1
  rw [decimalValue, if_neg (append_ne_nil_of_right_ne_nil _ (cons_ne_nil _ _)),
    foldl_append, foldl_cons, atMinus, stuck] at failed
  cases failed

theorem Spelled.ne_nil (spelled : Spelled digits number) : digits ≠ [] := by
  rintro rfl
  cases spelled.1

theorem parseUnsigned_eq_some (unsigned : '+' ∉ digits) :
    parseUnsigned (2 ^ 64) digits = some number ↔ Spelled digits number := by
  have plain : digits.head? ≠ some '+' := fun signed => unsigned (mem_of_head? signed)
  rw [parseUnsigned, if_neg plain, filter_eq_some_iff, decide_eq_true_eq]
  rfl

theorem rangeEnd_eq_some (unsigned : '+' ∉ digits) (given : digits ≠ []) {default : Nat} :
    rangeEnd digits default = some number ↔ Spelled digits number := by
  rw [rangeEnd, if_neg given, parseUnsigned_eq_some unsigned]

/-! ### Classification -/

variable {size start stop : Nat} {rangeHeader text : List Char}

/-- The range that the first element of the list asks for. -/
def resolveFirst (size : Nat) (first : List Char) : ByteRangeResult :=
  match first with
  | [] => .full
  | '-' :: suffix =>
      match (if suffix = [] then none else Chars.parseUnsigned (2 ^ 64) suffix) with
      | none => .full
      | some 0 => .notSatisfiable
      | some count => .part (size - count) (size - 1)
  | _ =>
      match Chars.splitOnce '-' first with
      | none => .full
      | some (fromText, toText) =>
          match rangeEnd fromText 0, rangeEnd toText (size - 1) with
          | some start, some stop =>
              if start ≥ size then .notSatisfiable
              else if min stop (size - 1) < start then .notSatisfiable
              else .part start (min stop (size - 1))
          | _, _ => .full

theorem resolveByteRange_eq_first (nonempty : size ≠ 0) {list : List Char}
    (whole : "bytes=".toList ++ list = trim rangeHeader) :
    resolveByteRange rangeHeader size = resolveFirst size (trim (list.takeWhile (· ≠ ','))) := by
  rw [resolveByteRange, ← whole, if_neg nonempty, if_neg (not_not.mpr (prefix_append ..))]
  rfl

theorem resolveByteRange_within (resolved : resolveByteRange rangeHeader size = .part start stop) :
    start ≤ stop ∧ stop < size := by
  unfold resolveByteRange at resolved
  dsimp only at resolved
  split at resolved
  · cases resolved
  · split at resolved
    · cases resolved
    · split at resolved
      · cases resolved
      · split at resolved
        · cases resolved
        · cases resolved
        next count positive _ =>
          cases resolved
          have positive : count ≠ 0 := positive
          omega
      · repeat' split at resolved
        all_goals cases resolved
        omega

/-- Neither the sign of a suffix nor an end begins a text that begins with a number. -/
theorem resolveFirst_of_number (spelled : Spelled digits number) (unsigned : '+' ∉ digits)
    {rest : List Char} {last : Nat} (isLast : rangeEnd rest (size - 1) = some last) :
    resolveFirst size (digits ++ '-' :: rest) =
      (ByteRange.bounded number (min last (size - 1))).result size := by
  have cut := splitOnce_append spelled.minus_notMem rest
  have parsed : rangeEnd digits 0 = some number :=
    (rangeEnd_eq_some unsigned spelled.ne_nil).mpr spelled
  cases digits with
  | nil => exact absurd rfl spelled.ne_nil
  | cons c digits =>
    have other : c ≠ '-' := fun same => spelled.minus_notMem (same ▸ mem_cons_self)
    rw [cons_append] at cut ⊢
    unfold resolveFirst
    split
    next empty =>
      cases empty
    next same =>
      exact absurd (cons.inj same).1 other
    · rw [cut]
      dsimp only
      rw [parsed, isLast]
      dsimp only [ByteRange.result]
      split
      · rw [if_neg (by omega)]
      · split
        · rw [if_neg (by omega)]
        · rw [if_pos (by omega), Nat.min_eq_left (Nat.min_le_right ..)]

theorem Spells.resolveFirst_eq {range : ByteRange} (spells : Spells text range)
    (unsigned : '+' ∉ text) : resolveFirst size text = range.result size := by
  cases spells with
  | onward spelled =>
    rw [resolveFirst_of_number spelled (fun plus => unsigned (mem_append_left _ plus))
      (if_pos rfl), ByteRange.result, ByteRange.result, Nat.min_self, Nat.min_self]
    split
    · rw [if_pos (by omega)]
    · rw [if_neg (by omega)]
  | bounded spelled spelled' =>
    have unsigned' := fun plus => unsigned (mem_append_right _ (mem_cons_of_mem _ plus))
    rw [resolveFirst_of_number spelled (fun plus => unsigned (mem_append_left _ plus))
      ((rangeEnd_eq_some unsigned' spelled'.ne_nil).mpr spelled')]
    simp only [ByteRange.result]
    split
    · rw [if_pos (by omega), Nat.min_eq_left (Nat.min_le_right ..)]
    · rw [if_neg (by omega)]
  | @suffix digits length spelled =>
    have parsed := (parseUnsigned_eq_some fun plus => unsigned (mem_cons_of_mem _ plus)).mpr spelled
    rw [resolveFirst, if_neg spelled.ne_nil, parsed]
    cases length with
    | zero | succ => rfl

/-- What is not the spelling of a range is ignored. -/
theorem resolveFirst_eq_full (unsigned : '+' ∉ text)
    (invalid : ¬ ∃ range, Spells text range) : resolveFirst size text = .full := by
  unfold resolveFirst
  split
  · rfl
  · split
    · rfl
    all_goals
      rename_i parsed
      split at parsed
      · cases parsed
      · have spelled :=
          (parseUnsigned_eq_some fun plus => unsigned (mem_cons_of_mem _ plus)).mp parsed
        exact absurd ⟨_, .suffix spelled⟩ invalid
  next minus =>
    split
    · rfl
    next front rest cut =>
      obtain rfl := splitOnce_eq_some cut
      have given : front ≠ [] := by
        rintro rfl
        exact minus rest rfl
      split
      next parsed parsed' =>
        have spelled := (rangeEnd_eq_some (fun plus => unsigned (mem_append_left _ plus))
          given).mp parsed
        by_cases onward : rest = []
        · subst onward
          exact absurd ⟨_, .onward spelled⟩ invalid
        · have spelled' := (rangeEnd_eq_some (fun plus =>
            unsigned (mem_append_right _ (mem_cons_of_mem _ plus))) onward).mp parsed'
          exact absurd ⟨_, .bounded spelled spelled'⟩ invalid
      · rfl

/-- A part lies in the file. An empty file is sent whole. Of another file the part is sent that the
first byte range of the header stands for, or none if that has no bytes, and what is no byte range
of numbers that fit in 64 bits is ignored. -/
theorem resolveByteRange_exact (rangeHeader : List Char) (size : Nat) :
    (∀ start stop, resolveByteRange rangeHeader size = .part start stop →
      start ≤ stop ∧ stop < size) ∧
    (size = 0 → resolveByteRange rangeHeader size = .full) ∧
    (size ≠ 0 → '+' ∉ rangeHeader → (∀ range, Asks rangeHeader range →
        resolveByteRange rangeHeader size = range.result size) ∧
      ((¬ ∃ range, Asks rangeHeader range) → resolveByteRange rangeHeader size = .full)) := by
  refine ⟨fun start stop => resolveByteRange_within, fun empty => if_pos empty,
    fun nonempty unsigned => ?_⟩
  have plain {list : List Char} (whole : "bytes=".toList ++ list = Chars.trim rangeHeader) :
      '+' ∉ Chars.trim (list.takeWhile (· ≠ ',')) := by
    intro plus
    have plus := takeWhile_subset _ (Chars.trim_subset _ plus)
    exact unsigned (Chars.trim_subset _ (whole ▸ mem_append_right _ plus))
  constructor
  · rintro range ⟨list, whole, spells⟩
    rw [resolveByteRange_eq_first nonempty whole]
    exact spells.resolveFirst_eq (plain whole)
  · intro invalid
    by_cases unit : "bytes=".toList <+: Chars.trim rangeHeader
    · obtain ⟨list, whole⟩ := unit
      rw [resolveByteRange_eq_first nonempty whole]
      refine resolveFirst_eq_full (plain whole) ?_
      rintro ⟨range, spells⟩
      exact invalid ⟨range, list, whole, spells⟩
    · rw [resolveByteRange, if_neg nonempty, if_pos unit]

theorem resolveByteRange_exact_clamped :
    resolveByteRange "bytes=2-9, 0-0".toList 5 = .part 2 4 := by
  have two : Spelled ['2'] 2 := ⟨by decide, by decide⟩
  have nine : Spelled ['9'] 9 := ⟨by decide, by decide⟩
  exact ((resolveByteRange_exact _ 5).2.2 (by decide) (by decide)).1 (.bounded 2 9)
    ⟨"2-9, 0-0".toList, by decide, .bounded two nine⟩

/-- A range that ends before it begins is not ignored. -/
theorem reversed_notSatisfiable : resolveByteRange "bytes=5-2".toList 10 = .notSatisfiable ∧
      resolveByteRange "bytes=5-2".toList 10 ≠ .full := by
  decide +kernel

/-! ### Columns -/

/-- The column of a byte of a line, which is one more than the number of characters that begin
before it. -/
def byteOffsetToColumn (lineBytes : List UInt8) (byteOffset : Nat) : UInt32 :=
  (lineBytes.take byteOffset).foldl
    (fun col byte => if byte &&& 0xC0 ≠ 0x80 then col + 1 else col) 1

/-- The units in which the editor counts a character. -/
def utf16Units (c : Char) : Nat := if c.toNat < 0x10000 then 1 else 2

theorem continuation : ∀ n < 0x40, UInt8.ofNat (n + 0x80) &&& 0xC0 = 0x80 := by decide +kernel

theorem beginning : ∀ n < 0x100, n < 0x80 ∨ 0xC0 ≤ n → UInt8.ofNat n &&& 0xC0 ≠ 0x80 := by
  decide +kernel

theorem foldl_utf8EncodeChar (c : Char) (col : UInt32) : (String.utf8EncodeChar c).foldl
      (fun col byte => if byte &&& 0xC0 ≠ 0x80 then col + 1 else col) col = col + 1 := by
  have later (value : Nat) := continuation (value % 0x40) (by omega)
  unfold String.utf8EncodeChar
  dsimp only
  split
  · rw [foldl_cons, foldl_nil, if_pos (beginning _ (by omega) (.inl (by omega)))]
  · split
    · simp only [foldl_cons, foldl_nil, later, ne_eq, not_true, if_false]
      rw [if_pos (beginning _ (by omega) (.inr (by omega)))]
    · split
      · simp only [foldl_cons, foldl_nil, later, ne_eq, not_true, if_false]
        rw [if_pos (beginning _ (by omega) (.inr (by omega)))]
      · simp only [foldl_cons, foldl_nil, later, ne_eq, not_true, if_false]
        rw [if_pos (beginning _ (by omega) (.inr (by omega)))]

theorem length_flatMap_utf8EncodeChar (text : List Char) :
    (text.flatMap String.utf8EncodeChar).length = Utf8.size text := by
  rw [length_flatMap, Utf8.size]
  congr 2
  funext c
  exact String.length_utf8EncodeChar c

theorem byteOffsetToColumn_eq (front back : List Char) :
    byteOffsetToColumn ((front ++ back).flatMap String.utf8EncodeChar) (Utf8.size front) =
      UInt32.ofNat (1 + front.length) := by
  have counted (col : Nat) : (front.flatMap String.utf8EncodeChar).foldl
      (fun col byte => if byte &&& 0xC0 ≠ 0x80 then col + 1 else col) (UInt32.ofNat col) =
        UInt32.ofNat (col + front.length) := by
    induction front generalizing col with
    | nil => rfl
    | cons c front ih =>
      rw [flatMap_cons, foldl_append, foldl_utf8EncodeChar]
      have next := ih (col + 1)
      rw [UInt32.ofNat_add] at next
      rw [length_cons, Nat.add_comm front.length, ← Nat.add_assoc]
      exact next
  rw [byteOffsetToColumn, flatMap_append, take_left' (length_flatMap_utf8EncodeChar front)]
  exact counted 1

/-- The column of an offset counts the units of the editor exactly if no character before it takes
two of them, and they are less than four billion. -/
theorem byteOffsetToColumn_iff (front back : List Char) :
    (byteOffsetToColumn ((front ++ back).flatMap String.utf8EncodeChar)
        (Utf8.size front)).toNat = 1 + (front.map utf16Units).sum ↔
      (∀ c ∈ front, c.toNat < 0x10000) ∧ 1 + front.length < 2 ^ 32 := by
  have atLeast : front.length ≤ (front.map utf16Units).sum ∧
      ((front.map utf16Units).sum = front.length ↔ ∀ c ∈ front, c.toNat < 0x10000) := by
    induction front with
    | nil => exact ⟨Nat.le_refl _, fun _ => nofun, fun _ => rfl⟩
    | cons c front ih =>
      rw [map_cons, sum_cons, length_cons, forall_mem_cons, ← ih.2, utf16Units]
      split <;> omega
  rw [byteOffsetToColumn_eq, UInt32.toNat_ofNat', ← atLeast.2]
  have bounded := Nat.mod_lt (1 + front.length) (Nat.two_pow_pos 32)
  have below := Nat.mod_le (1 + front.length) (2 ^ 32)
  constructor
  · intro same
    omega
  · rintro ⟨single, within⟩
    rw [Nat.mod_eq_of_lt within, single]

/-- A character outside the basic plane is counted once, and the editor counts it twice. -/
theorem column_after_emoji : byteOffsetToColumn ("😀x".toList.flatMap String.utf8EncodeChar) 4 = 2 ∧
      1 + (['😀'].map utf16Units).sum = 3 := by
  decide +kernel

end Dinotty.Workspace
