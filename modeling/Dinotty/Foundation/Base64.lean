/-
This file is the base64 encoding with the standard alphabet and padding. Three bytes become
four letters, so the text tells the bytes, and it holds neither spaces nor line ends.
-/

import Dinotty.Foundation.Chars

namespace Base64

open List

/-! ### The encoding -/

def letter (bits : Nat) : Char :=
  if bits < 26 then Char.ofNat (65 + bits)
  else if bits < 52 then Char.ofNat (71 + bits)
  else if bits < 62 then Char.ofNat (bits - 4)
  else if bits = 62 then '+'
  else '/'

def value (byte : UInt8) : Nat := byte.toNat

def encode : List UInt8 → List Char
  | [] => []
  | [first] => [letter (value first / 4), letter (value first % 4 * 16), '=', '=']
  | [first, second] =>
      [letter (value first / 4), letter (value first % 4 * 16 + value second / 16),
        letter (value second % 16 * 4), '=']
  | first :: second :: third :: rest =>
      letter (value first / 4) :: letter (value first % 4 * 16 + value second / 16) ::
        letter (value second % 16 * 4 + value third / 64) :: letter (value third % 64) ::
          encode rest

/-! ### The letters -/

theorem value_lt (byte : UInt8) : value byte < 256 := byte.toNat_lt

theorem value_injective {first second : UInt8} (same : value first = value second) :
    first = second :=
  UInt8.toNat_inj.mp same

theorem letter_injective : ∀ first < 64, ∀ second < 64, letter first = letter second →
    first = second := by
  decide +kernel

theorem letter_ne_padding : ∀ bits < 64, letter bits ≠ '=' := by
  decide +kernel

def IsLetter (c : Char) : Prop := c = '=' ∨ ∃ bits < 64, c = letter bits

variable {bytes : List UInt8}

theorem isLetter_of_mem_encode {c : Char} (mem : c ∈ encode bytes) : IsLetter c := by
  have isLetter (bits : Nat) (small : bits < 64) : IsLetter (letter bits) :=
    Or.inr ⟨bits, small, rfl⟩
  have padding : IsLetter '=' := Or.inl rfl
  induction bytes using encode.induct with
  | case1 => cases mem
  | case2 first =>
    have bound := value_lt first
    simp only [encode, mem_cons, not_mem_nil, or_false] at mem
    rcases mem with rfl | rfl | rfl | rfl
    · exact isLetter _ (by omega)
    · exact isLetter _ (by omega)
    · exact padding
    · exact padding
  | case3 first second =>
    have firstBound := value_lt first
    have secondBound := value_lt second
    simp only [encode, mem_cons, not_mem_nil, or_false] at mem
    rcases mem with rfl | rfl | rfl | rfl
    · exact isLetter _ (by omega)
    · exact isLetter _ (by omega)
    · exact isLetter _ (by omega)
    · exact padding
  | case4 first second third rest ih =>
    have firstBound := value_lt first
    have secondBound := value_lt second
    have thirdBound := value_lt third
    simp only [encode, mem_cons] at mem
    rcases mem with rfl | rfl | rfl | rfl | later
    · exact isLetter _ (by omega)
    · exact isLetter _ (by omega)
    · exact isLetter _ (by omega)
    · exact isLetter _ (by omega)
    · exact ih later

theorem solid_of_mem_encode {c : Char} (mem : c ∈ encode bytes) : Chars.isWhitespace c = false := by
  have solid : ∀ bits < 64, Chars.isWhitespace (letter bits) = false := by decide +kernel
  rcases isLetter_of_mem_encode mem with rfl | ⟨bits, small, rfl⟩
  · decide
  · exact solid bits small

/-! ### Telling the bytes -/

theorem letter_inj {first second : Nat} (same : letter first = letter second)
    (firstSmall : first < 64) (secondSmall : second < 64) : first = second :=
  letter_injective first firstSmall second secondSmall same

theorem encode_injective {first second : List UInt8} (same : encode first = encode second) :
    first = second := by
  induction first using encode.induct generalizing second with
  | case1 =>
    cases second using encode.induct with
    | case1 => rfl
    | _ => simp [encode] at same
  | case2 a =>
    have aBound := value_lt a
    cases second using encode.induct with
    | case1 => simp [encode] at same
    | case2 x =>
      have xBound := value_lt x
      simp only [encode, cons.injEq] at same
      have high := letter_inj same.1 (by omega) (by omega)
      have low := letter_inj same.2.1 (by omega) (by omega)
      rw [value_injective (by omega : value a = value x)]
    | case3 x y =>
      have yBound := value_lt y
      simp only [encode, cons.injEq] at same
      exact absurd same.2.2.1.symm (letter_ne_padding _ (by omega))
    | case4 x y z rest =>
      have zBound := value_lt z
      simp only [encode, cons.injEq] at same
      exact absurd same.2.2.1.symm (letter_ne_padding _ (by omega))
  | case3 a b =>
    have aBound := value_lt a
    have bBound := value_lt b
    cases second using encode.induct with
    | case1 => simp [encode] at same
    | case2 x =>
      simp only [encode, cons.injEq] at same
      exact absurd same.2.2.1 (letter_ne_padding _ (by omega))
    | case3 x y =>
      have xBound := value_lt x
      have yBound := value_lt y
      simp only [encode, cons.injEq] at same
      have high := letter_inj same.1 (by omega) (by omega)
      have middle := letter_inj same.2.1 (by omega) (by omega)
      have low := letter_inj same.2.2.1 (by omega) (by omega)
      rw [value_injective (by omega : value a = value x),
        value_injective (by omega : value b = value y)]
    | case4 x y z rest =>
      have zBound := value_lt z
      simp only [encode, cons.injEq] at same
      exact absurd same.2.2.2.1.symm (letter_ne_padding _ (by omega))
  | case4 a b c rest ih =>
    have aBound := value_lt a
    have bBound := value_lt b
    have cBound := value_lt c
    cases second using encode.induct with
    | case1 => simp [encode] at same
    | case2 x =>
      simp only [encode, cons.injEq] at same
      exact absurd same.2.2.1 (letter_ne_padding _ (by omega))
    | case3 x y =>
      simp only [encode, cons.injEq] at same
      exact absurd same.2.2.2.1 (letter_ne_padding _ (by omega))
    | case4 x y z others =>
      have xBound := value_lt x
      have yBound := value_lt y
      have zBound := value_lt z
      simp only [encode, cons.injEq] at same
      have first := letter_inj same.1 (by omega) (by omega)
      have second := letter_inj same.2.1 (by omega) (by omega)
      have third := letter_inj same.2.2.1 (by omega) (by omega)
      have fourth := letter_inj same.2.2.2.1 (by omega) (by omega)
      rw [value_injective (by omega : value a = value x),
        value_injective (by omega : value b = value y),
        value_injective (by omega : value c = value z), ih same.2.2.2.2]

theorem encode_eq_nil_iff : encode bytes = [] ↔ bytes = [] :=
  ⟨fun empty => encode_injective empty, fun empty => empty ▸ rfl⟩

end Base64
