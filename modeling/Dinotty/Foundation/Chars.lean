/-
This file is the handling of text as a list of characters, as programs that read headers
and paths do it: white space at the ends, cutting at a separator, and unsigned decimal
numbers with a bound.
-/

import Mathlib

namespace Chars

open List Option

/-- Texts are compared in definitions: the instance is named once. -/
instance lawfulBEq : LawfulBEq (List Char) := inferInstance

/-! ### White space -/

/-- White space in the sense of Unicode. -/
def isWhitespace (c : Char) : Bool :=
  (9 ≤ c.toNat && c.toNat ≤ 13) || c.toNat = 0x20 || c.toNat = 0x85 || c.toNat = 0xA0 ||
    c.toNat = 0x1680 || (0x2000 ≤ c.toNat && c.toNat ≤ 0x200A) || c.toNat = 0x2028 ||
    c.toNat = 0x2029 || c.toNat = 0x202F || c.toNat = 0x205F || c.toNat = 0x3000

/-- A text without the white space at its ends. -/
def trim (text : List Char) : List Char :=
  ((text.dropWhile isWhitespace).reverse.dropWhile isWhitespace).reverse

variable {text : List Char}

theorem dropWhile_eq_self {test : Char → Bool} (none : ∀ c ∈ text, test c = false) :
    text.dropWhile test = text := by
  cases text with
  | nil => rfl
  | cons c rest => rw [dropWhile_cons_of_neg (by simp [none c mem_cons_self])]

theorem trim_eq_self (solid : ∀ c ∈ text, isWhitespace c = false) : trim text = text := by
  have reversed : ∀ c ∈ text.reverse, isWhitespace c = false :=
    fun c mem => solid c (mem_reverse.mp mem)
  rw [trim, dropWhile_eq_self solid, dropWhile_eq_self reversed, reverse_reverse]

variable {c : Char}

theorem trim_cons_whitespace (space : isWhitespace c = true) (text : List Char) :
    trim (c :: text) = trim text := by
  rw [trim, dropWhile_cons_of_pos space]
  rfl

theorem trim_eq_self_of_ends (first : ∀ c ∈ text.head?, isWhitespace c = false)
    (last : ∀ c ∈ text.getLast?, isWhitespace c = false) : trim text = text := by
  have same (side : List Char) (ends : ∀ c ∈ side.head?, isWhitespace c = false) :
      side.dropWhile isWhitespace = side := by
    cases side with
    | nil => rfl
    | cons c rest => rw [dropWhile_cons_of_neg (by simp [ends c rfl])]
  have reversed : ∀ c ∈ text.reverse.head?, isWhitespace c = false := by
    rw [head?_reverse]
    exact last
  rw [trim, same text first, same text.reverse reversed, reverse_reverse]

theorem head?_dropWhile {test : Char → Bool} :
    ∀ c ∈ (text.dropWhile test).head?, test c = false := by
  intro c first
  have stopped := head?_dropWhile_not test text
  rw [mem_def.mp first] at stopped
  simpa using stopped

theorem trim_trim (text : List Char) : trim (trim text) = trim text := by
  have last : ∀ c ∈ (trim text).getLast?, isWhitespace c = false := by
    rw [trim, getLast?_reverse]
    exact head?_dropWhile
  have first : ∀ c ∈ (trim text).head?, isWhitespace c = false := by
    intro c isFirst
    rw [trim, head?_reverse] at isFirst
    have suffix : (text.dropWhile isWhitespace).reverse.dropWhile isWhitespace <:+
        (text.dropWhile isWhitespace).reverse := dropWhile_suffix _
    obtain ⟨front, whole⟩ := suffix
    have plain : ∀ c ∈ (text.dropWhile isWhitespace).head?, isWhitespace c = false :=
      head?_dropWhile
    refine plain c ?_
    rw [← getLast?_reverse, ← whole, mem_def, getLast?_append, mem_def.mp isFirst]
    rfl
  exact trim_eq_self_of_ends first last

theorem trim_subset (text : List Char) : trim text ⊆ text := by
  intro c mem
  rw [trim, mem_reverse] at mem
  exact (dropWhile_suffix _).subset (mem_reverse.mp ((dropWhile_suffix _).subset mem))

/-! ### Letter case -/

def toAsciiLower (c : Char) : Char :=
  if 65 ≤ c.toNat ∧ c.toNat ≤ 90 then Char.ofNat (c.toNat + 32) else c

def eqIgnoreAsciiCase (first second : List Char) : Bool :=
  first.map toAsciiLower = second.map toAsciiLower

/-! ### Cutting -/

/-- The parts of a text before and after the first separator. -/
def splitOnce (separator : Char) : List Char → Option (List Char × List Char)
  | [] => none
  | c :: rest =>
      if c = separator then some ([], rest)
      else (splitOnce separator rest).map fun parts => (c :: parts.1, parts.2)

variable {separator : Char} {front : List Char}

theorem splitOnce_append (absent : separator ∉ front) (rest : List Char) :
    splitOnce separator (front ++ separator :: rest) = some (front, rest) := by
  induction front with
  | nil => simp [splitOnce]
  | cons c later ih =>
    have other : c ≠ separator := fun same => absent (same ▸ mem_cons_self)
    have later := ih fun mem => absent (mem_cons_of_mem _ mem)
    rw [cons_append, splitOnce, if_neg other, later]
    rfl

theorem splitOnce_eq_some {rest : List Char} (cut : splitOnce separator text = some (front, rest)) :
    text = front ++ separator :: rest := by
  induction text generalizing front with
  | nil => cases cut
  | cons c later ih =>
    rw [splitOnce] at cut
    split at cut
    next same =>
      cases cut
      rw [same]
      rfl
    · obtain ⟨parts, isParts, same⟩ := map_eq_some_iff.mp cut
      cases same
      rw [ih isParts]
      rfl

theorem splitOnce_of_notMem (absent : separator ∉ text) : splitOnce separator text = none := by
  cases cut : splitOnce separator text with
  | none => rfl
  | some parts =>
    obtain ⟨front, rest⟩ := parts
    rw [splitOnce_eq_some cut] at absent
    exact absurd (mem_append_right _ mem_cons_self) absent

theorem not_mem_of_mem_splitOn {piece : List Char} (isPiece : piece ∈ text.splitOn separator) :
    separator ∉ piece := by
  induction text generalizing piece with
  | nil =>
    rw [splitOn_nil, mem_singleton] at isPiece
    rw [isPiece]
    exact not_mem_nil
  | cons c later ih =>
    rw [splitOn, splitOnP_cons_eq_if_modifyHead] at isPiece
    split at isPiece
    · rcases mem_cons.mp isPiece with rfl | isLater
      · exact not_mem_nil
      · exact ih isLater
    next ne =>
      change piece ∈ (later.splitOn separator).modifyHead (cons c) at isPiece
      cases pieces : later.splitOn separator with
      | nil =>
        rw [pieces] at isPiece
        cases isPiece
      | cons first rest =>
        rw [pieces] at ih isPiece
        rcases mem_cons.mp isPiece with rfl | isLater
        · intro mem
          rcases mem_cons.mp mem with same | isLater
          · exact ne (beq_iff_eq.mpr same.symm)
          · exact ih mem_cons_self isLater
        · exact ih (mem_cons_of_mem _ isLater)

theorem splitOn_append_cons (absent : separator ∉ front) (rest : List Char) :
    (front ++ separator :: rest).splitOn separator = front :: rest.splitOn separator := by
  rw [splitOn_eq_splitOnP, splitOn_eq_splitOnP]
  refine splitOnP_append_cons_of_forall_mem (p := (· == separator)) (fun c mem => ?_)
    separator (beq_self_eq_true _) rest
  exact beq_eq_false_iff_ne.mpr fun same => absent (same ▸ mem)

theorem splitOn_append (separator : Char) (front rest : List Char) :
    (front ++ separator :: rest).splitOn separator =
      front.splitOn separator ++ rest.splitOn separator := by
  rw [splitOn_eq_splitOnP, splitOn_eq_splitOnP, splitOn_eq_splitOnP]
  exact splitOnP_append_cons front rest (beq_self_eq_true separator)

/-! ### Numbers -/

def hexValue (c : Char) : Option Nat :=
  if 48 ≤ c.toNat ∧ c.toNat ≤ 57 then some (c.toNat - 48)
  else if 97 ≤ c.toNat ∧ c.toNat ≤ 102 then some (c.toNat - 87)
  else if 65 ≤ c.toNat ∧ c.toNat ≤ 70 then some (c.toNat - 55)
  else none

def digitValue (radix : Nat) (c : Char) : Option Nat := (hexValue c).filter (· < radix)

theorem toNat_of_digitValue {radix : Nat} (digit : (digitValue radix c).isSome) :
    (48 ≤ c.toNat ∧ c.toNat ≤ 57) ∨ (97 ≤ c.toNat ∧ c.toNat ≤ 102) ∨
      (65 ≤ c.toNat ∧ c.toNat ≤ 70) := by
  obtain ⟨value, found⟩ := isSome_iff_exists.mp digit
  have hex := (filter_eq_some_iff.mp found).1
  unfold hexValue at hex
  split_ifs at hex with decimal lower upper
  · exact .inl decimal
  · exact .inr (.inl lower)
  · exact .inr (.inr upper)

/-- The value of a non-empty sequence of decimal digits. -/
def decimalValue (digits : List Char) : Option Nat :=
  if digits = [] then none
  else
    digits.foldl (fun value c => do return 10 * (← value) + (← digitValue 10 c)) (some 0)

/-- An unsigned decimal number below a bound, which may have a plus sign. -/
def parseUnsigned (bound : Nat) (text : List Char) : Option Nat :=
  let digits := if text.head? = some '+' then text.tail else text
  (decimalValue digits).filter (· < bound)

theorem digitValue_digitChar : ∀ digit < 10, digitValue 10 (Nat.digitChar digit) = some digit := by
  decide

theorem isDigit_of_mem_toDigits {number : Nat} (mem : c ∈ Nat.toDigits 10 number) :
    ∃ digit < 10, c = Nat.digitChar digit := by
  induction number using Nat.strongRecOn with
  | ind number ih =>
    rw [Nat.toDigits_eq_if (by decide)] at mem
    split at mem
    next small =>
      exact ⟨number, small, mem_singleton.mp mem⟩
    next large =>
      rcases mem_append.mp mem with front | back
      · exact ih (number / 10) (by omega) front
      · exact ⟨number % 10, by omega, mem_singleton.mp back⟩

theorem toDigits_ne_nil (number : Nat) : Nat.toDigits 10 number ≠ [] := by
  rw [Nat.toDigits_eq_if (by decide)]
  split <;> simp

theorem decimalValue_toDigits (number : Nat) :
    decimalValue (Nat.toDigits 10 number) = some number := by
  have folded : (Nat.toDigits 10 number).foldl
      (fun value c => do return 10 * (← value) + (← digitValue 10 c)) (some 0) = some number := by
    induction number using Nat.strongRecOn with
    | ind number ih =>
      rw [Nat.toDigits_eq_if (by decide)]
      split
      next small =>
        simp [digitValue_digitChar number small]
      next large =>
        have last := digitValue_digitChar (number % 10) (by omega)
        rw [foldl_append, ih (number / 10) (by omega)]
        simp only [foldl_cons, foldl_nil, last, bind_eq_bind, bind_some,
          Option.pure_def, Option.some.injEq]
        omega
  rw [decimalValue, if_neg (toDigits_ne_nil number)]
  exact folded

theorem parseUnsigned_toDigits {bound number : Nat} (within : number < bound) :
    parseUnsigned bound (Nat.toDigits 10 number) = some number := by
  have unsigned : (Nat.toDigits 10 number).head? ≠ some '+' := by
    intro signed
    obtain ⟨digit, small, same⟩ := isDigit_of_mem_toDigits (mem_of_head? signed)
    have notPlus : ∀ digit < 10, '+' ≠ Nat.digitChar digit := by decide
    exact notPlus digit small same
  rw [parseUnsigned, if_neg unsigned, decimalValue_toDigits]
  exact filter_eq_some_iff.mpr ⟨rfl, decide_eq_true within⟩

/-! ### Lines -/

def lines (text : List Char) : List (List Char) :=
  let pieces := text.splitOn '\n'
  let ended := pieces.dropLast.map fun line =>
    if line.getLast? = some '\r' then line.dropLast else line
  ended ++ pieces.getLast?.toList.filter fun line => line ≠ []

def unlines (lines : List (List Char)) : List Char := lines.flatMap fun line => line ++ ['\n']

theorem lines_cons {line : List Char} (within : '\n' ∉ line) (last : line.getLast? ≠ some '\r')
    (text : List Char) : lines (line ++ '\n' :: text) = line :: lines text := by
  have others : text.splitOn '\n' ≠ [] := splitOnP_ne_nil _ _
  unfold lines
  rw [splitOn_append_cons within]
  dsimp only
  rw [dropLast_cons_of_ne_nil others, getLast?_cons_of_ne_nil others, map_cons,
    if_neg last, cons_append]

variable {written : List (List Char)}

theorem lines_unlines (within : ∀ line ∈ written, '\n' ∉ line)
    (last : ∀ line ∈ written, line.getLast? ≠ some '\r') : lines (unlines written) = written := by
  induction written with
  | nil => rfl
  | cons line rest ih =>
    rw [unlines, flatMap_cons, append_assoc, singleton_append,
      lines_cons (within line mem_cons_self) (last line mem_cons_self)]
    exact congrArg (line :: ·) (ih
      (fun other mem => within other (mem_cons_of_mem line mem))
      (fun other mem => last other (mem_cons_of_mem line mem)))

theorem intercalate_append_newline (nonempty : written ≠ []) :
    intercalate ['\n'] written ++ ['\n'] = unlines written := by
  induction written with
  | nil => exact absurd rfl nonempty
  | cons line rest ih =>
    cases rest with
    | nil => simp [unlines]
    | cons next others =>
      have later := ih (cons_ne_nil next others)
      rw [intercalate_cons_cons, append_assoc, later]
      simp [unlines]

theorem getLast?_intercalate (separator : List Char) (front : List (List Char)) {line : List Char}
    (nonempty : line ≠ []) :
    (intercalate separator (front ++ [line])).getLast? = line.getLast? := by
  induction front with
  | nil => rw [nil_append, intercalate_singleton]
  | cons first others ih =>
    have later : others ++ [line] ≠ [] := by simp
    have whole : intercalate separator (others ++ [line]) ≠ [] := by
      intro empty
      rw [empty] at ih
      exact nonempty (getLast?_eq_none_iff.mp ih.symm)
    rw [cons_append, intercalate_cons_of_ne_nil later, getLast?_append_of_ne_nil _ whole, ih]

theorem ended_intercalate (nonempty : ∀ line ∈ written, line ≠ [])
    (within : ∀ line ∈ written, '\n' ∉ line) :
    (if intercalate ['\n'] written ≠ [] ∧ (intercalate ['\n'] written).getLast? ≠ some '\n' then
      intercalate ['\n'] written ++ ['\n']
    else intercalate ['\n'] written) = unlines written := by
  rcases eq_nil_or_concat' written with rfl | ⟨front, line, rfl⟩
  · rfl
  · have mem : line ∈ front ++ [line] := mem_append_right front mem_cons_self
    have last := getLast?_intercalate ['\n'] front (nonempty line mem)
    have unended : (intercalate ['\n'] (front ++ [line])).getLast? ≠ some '\n' := by
      rw [last]
      exact fun isEnd => within line mem (mem_of_getLast? isEnd)
    have filled : intercalate ['\n'] (front ++ [line]) ≠ [] := by
      intro empty
      rw [empty] at last
      exact nonempty line mem (getLast?_eq_none_iff.mp last.symm)
    rw [if_pos ⟨filled, unended⟩, intercalate_append_newline (by simp)]

end Chars
