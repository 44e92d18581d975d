/-
This file is the addresses of the Internet protocol in their two versions, and the reading of one
from its text.
-/

import Dinotty.Foundation.Chars

/-- An address of version four or six. -/
inductive IpAddr where
  | v4 (bits : BitVec 32)
  | v6 (bits : BitVec 128)
  deriving DecidableEq

namespace IpAddr

open Option

/-- The address of version four with these octets. -/
def ofOctets (a b c d : Nat) : BitVec 32 :=
  BitVec.ofNat 32 (((a * 256 + b) * 256 + c) * 256 + d)

/-- The octets of an address of version four. -/
def octets (bits : BitVec 32) : List Nat :=
  [bits.toNat / 2 ^ 24, bits.toNat / 2 ^ 16 % 256, bits.toNat / 2 ^ 8 % 256, bits.toNat % 256]

/-- The address of version six with these groups of sixteen bits. -/
def ofSegments (segments : List Nat) : BitVec 128 :=
  BitVec.ofNat 128 (segments.foldl (fun value segment => value * 65536 + segment) 0)

/-! ### Reading -/

/-- What a reader answers: a value and the text behind it. -/
abbrev Reader (Value : Type) := List Char → Option (Value × List Char)

def readChar (expected : Char) : Reader Unit
  | c :: rest => if c = expected then some ((), rest) else none
  | [] => none

def readDigits (radix : Nat) : List Char → List Nat × List Char
  | c :: rest =>
      match Chars.digitValue radix c with
      | some digit =>
          let (digits, later) := readDigits radix rest
          (digit :: digits, later)
      | none => ([], c :: rest)
  | [] => ([], [])

def readNumber (radix maxDigits : Nat) (allowZeroPrefix : Bool) : Reader Nat := fun text =>
  let (digits, rest) := readDigits radix text
  if digits.length = 0 ∨ maxDigits < digits.length then none
  else if !allowZeroPrefix ∧ digits.head? = some 0 ∧ 1 < digits.length then none
  else some (digits.foldl (fun value digit => value * radix + digit) 0, rest)

/-- Read behind a separator, except for the first element of a sequence. -/
def readSeparator {Value : Type} (separator : Char) (index : Nat) (inner : Reader Value) :
    Reader Value := fun text =>
  (if index = 0 then some text else (readChar separator text).map Prod.snd).bind inner

def readOctet : Reader Nat := fun text => do
  let (value, rest) ← readNumber 10 3 false text
  if value < 256 then some (value, rest) else none

def readIpv4 : Reader (BitVec 32) := fun text => do
  let (a, rest) ← readSeparator '.' 0 readOctet text
  let (b, rest) ← readSeparator '.' 1 readOctet rest
  let (c, rest) ← readSeparator '.' 2 readOctet rest
  let (d, rest) ← readSeparator '.' 3 readOctet rest
  some (ofOctets a b c d, rest)

/-- Read groups, the last two of which may be an address of version four. `count` groups may come,
`index` have come. -/
def readGroups : (count index : Nat) → List Char → List Nat × Bool × List Char
  | 0, _, text => ([], false, text)
  | count + 1, index, text =>
      match if 0 < count then readSeparator ':' index readIpv4 text else none with
      | some (bits, rest) =>
          let value := bits.toNat
          ([value / 65536, value % 65536], true, rest)
      | none =>
          match readSeparator ':' index (readNumber 16 4 true) text with
          | none => ([], false, text)
          | some (group, rest) =>
              let (groups, mapped, later) := readGroups count (index + 1) rest
              (group :: groups, mapped, later)

def readIpv6 : Reader (BitVec 128) := fun text =>
  let (head, mapped, rest) := readGroups 8 0 text
  if head.length = 8 then some (ofSegments head, rest)
  else if mapped then none
  else do
    let (_, rest) ← readChar ':' rest
    let (_, rest) ← readChar ':' rest
    let (tail, _, rest) := readGroups (7 - head.length) 0 rest
    some (ofSegments (head ++ List.replicate (8 - head.length - tail.length) 0 ++ tail), rest)

/-- Parse an address, which must be the whole text. -/
def parse (text : List Char) : Option IpAddr :=
  let read : Option (IpAddr × List Char) :=
    match readIpv4 text with
    | some (bits, rest) => some (.v4 bits, rest)
    | none => (readIpv6 text).map fun (bits, rest) => (.v6 bits, rest)
  match read with
  | some (address, []) => some address
  | _ => none

/-! ### What an address is written with -/

/-- The characters that addresses are written with. -/
def isAddressChar (c : Char) : Bool :=
  (Chars.digitValue 16 c).isSome || c = ':' || c = '.'

/-- The text consists of address characters and the rest. -/
def Consumed (text rest : List Char) : Prop :=
  ∃ used, text = used ++ rest ∧ ∀ c ∈ used, isAddressChar c = true

theorem Consumed.refl (text : List Char) : Consumed text text := ⟨[], rfl, by simp⟩

theorem Consumed.trans {first second third : List Char} (before : Consumed first second)
    (after : Consumed second third) : Consumed first third := by
  obtain ⟨front, rfl, frontChars⟩ := before
  obtain ⟨back, rfl, backChars⟩ := after
  refine ⟨front ++ back, (List.append_assoc _ _ _).symm, fun c mem => ?_⟩
  exact (List.mem_append.mp mem).elim (frontChars c) (backChars c)

variable {text : List Char}

theorem Consumed.cons {c : Char} {rest : List Char} (known : isAddressChar c = true)
    (later : Consumed text rest) : Consumed (c :: text) rest := by
  obtain ⟨used, rfl, chars⟩ := later
  exact ⟨c :: used, rfl, List.forall_mem_cons.mpr ⟨known, chars⟩⟩

/-- A reader that takes address characters only. -/
def Plain {Value : Type} (reader : Reader Value) : Prop :=
  ∀ {text value rest}, reader text = some (value, rest) → Consumed text rest

theorem readChar_plain {expected : Char} (known : isAddressChar expected = true) :
    Plain (readChar expected) := by
  intro text value rest read
  cases text with
  | nil => cases read
  | cons c later =>
    rw [readChar] at read
    split at read
    next same =>
      obtain rfl : later = rest := congrArg Prod.snd (some.inj read)
      exact .cons (same ▸ known) (.refl later)
    · cases read

variable {radix : Nat}

theorem digitValue_widen (small : radix ≤ 16) {c : Char} {digit : Nat}
    (value : Chars.digitValue radix c = some digit) : (Chars.digitValue 16 c).isSome := by
  obtain ⟨hex, bound⟩ := filter_eq_some_iff.mp value
  have wide : digit < 16 := Nat.lt_of_lt_of_le (of_decide_eq_true bound) small
  exact isSome_of_eq_some (filter_eq_some_iff.mpr ⟨hex, decide_eq_true wide⟩)

theorem readDigits_consumed (small : radix ≤ 16) (text : List Char) :
    Consumed text (readDigits radix text).2 := by
  induction text with
  | nil => exact .refl []
  | cons c rest ih =>
    rw [readDigits]
    split
    next digit value =>
      refine .cons ?_ ih
      rw [isAddressChar, digitValue_widen small value, Bool.true_or, Bool.true_or]
    · exact .refl _

theorem readNumber_plain {maxDigits : Nat} {allowZeroPrefix : Bool} (small : radix ≤ 16) :
    Plain (readNumber radix maxDigits allowZeroPrefix) := by
  intro text value rest read
  have consumed := readDigits_consumed small text
  unfold readNumber at read
  simp only at read
  split at read
  · cases read
  split at read
  · cases read
  obtain rfl : (readDigits radix text).2 = rest := congrArg Prod.snd (some.inj read)
  exact consumed

theorem readSeparator_plain {Value : Type} {sep : Char} {i : Nat}
    {inner : Reader Value} (known : isAddressChar sep = true) (plain : Plain inner) :
    Plain (readSeparator sep i inner) := by
  intro text value rest read
  unfold readSeparator at read
  obtain ⟨middle, front, back⟩ := bind_eq_some_iff.mp read
  refine Consumed.trans ?_ (plain back)
  split at front
  · cases front
    exact .refl _
  · obtain ⟨⟨_, later⟩, first, rfl⟩ := map_eq_some_iff.mp front
    exact readChar_plain known first

theorem readOctet_plain : Plain readOctet := by
  intro text value rest read
  obtain ⟨⟨number, later⟩, first, checked⟩ := bind_eq_some_iff.mp read
  dsimp only at checked
  split at checked
  · obtain rfl : later = rest := congrArg Prod.snd (some.inj checked)
    exact readNumber_plain (by decide) first
  · cases checked

theorem readIpv4_plain : Plain readIpv4 := by
  intro text value rest read
  have octet : ∀ i, Plain (readSeparator '.' i readOctet) := fun i =>
    readSeparator_plain (by decide) readOctet_plain
  obtain ⟨⟨a, rest₁⟩, first, read⟩ := bind_eq_some_iff.mp read
  obtain ⟨⟨b, rest₂⟩, second, read⟩ := bind_eq_some_iff.mp read
  obtain ⟨⟨c, rest₃⟩, third, read⟩ := bind_eq_some_iff.mp read
  obtain ⟨⟨d, rest₄⟩, fourth, read⟩ := bind_eq_some_iff.mp read
  obtain rfl : rest₄ = rest := congrArg Prod.snd (some.inj read)
  exact (((octet 0 first).trans (octet 1 second)).trans (octet 2 third)).trans (octet 3 fourth)

theorem readGroups_consumed (count i : Nat) (text : List Char) :
    Consumed text (readGroups count i text).2.2 := by
  induction count generalizing i text with
  | zero => exact .refl text
  | succ count ih =>
    rw [readGroups]
    split
    next bits rest embedded =>
      split at embedded
      · exact readSeparator_plain (by decide) readIpv4_plain embedded
      · cases embedded
    · split
      · exact .refl text
      next group rest read =>
        exact (readSeparator_plain (by decide) (readNumber_plain (by decide)) read).trans
          (ih (i + 1) rest)

theorem readIpv6_plain : Plain readIpv6 := by
  intro text value rest read
  have front := readGroups_consumed 8 0 text
  unfold readIpv6 at read
  simp only at read
  split at read
  · obtain rfl := congrArg Prod.snd (some.inj read)
    exact front
  split at read
  · cases read
  obtain ⟨⟨_, rest₁⟩, first, read⟩ := bind_eq_some_iff.mp read
  obtain ⟨⟨_, rest₂⟩, second, read⟩ := bind_eq_some_iff.mp read
  obtain rfl := congrArg Prod.snd (some.inj read)
  have colon : Plain (readChar ':') := readChar_plain (by decide)
  exact ((front.trans (colon first)).trans (colon second)).trans (readGroups_consumed _ _ _)

/-- An address is written with address characters only. -/
theorem parse_chars {address : IpAddr} (parsed : parse text = some address) :
    ∀ c ∈ text, isAddressChar c = true := by
  have all : ∀ {text}, Consumed text [] → ∀ c ∈ text, isAddressChar c = true := by
    rintro text ⟨used, rfl, chars⟩
    simpa using chars
  unfold parse at parsed
  cases v4 : readIpv4 text with
  | some answer =>
    obtain ⟨bits, rest⟩ := answer
    have consumed := readIpv4_plain v4
    rw [v4] at parsed
    cases rest with
    | nil => exact all consumed
    | cons c rest => cases parsed
  | none =>
    rw [v4] at parsed
    cases v6 : readIpv6 text with
    | none =>
      rw [v6] at parsed
      cases parsed
    | some answer =>
      obtain ⟨bits, rest⟩ := answer
      have consumed := readIpv6_plain v6
      rw [v6] at parsed
      cases rest with
      | nil => exact all consumed
      | cons c rest => cases parsed

theorem parse_forall {test : Char → Prop} (digits : ∀ c, (Chars.digitValue 16 c).isSome → test c)
    (colon : test ':') (dot : test '.') {address : IpAddr} (parsed : parse text = some address) :
    ∀ c ∈ text, test c := by
  intro c mem
  have known := parse_chars parsed c mem
  rw [isAddressChar, Bool.or_eq_true, Bool.or_eq_true, decide_eq_true_eq, decide_eq_true_eq]
    at known
  obtain (digit | rfl) | rfl := known
  · exact digits c digit
  · exact colon
  · exact dot

example : parse "127.0.0.1".toList = some (.v4 0x7F000001#32) := by decide +kernel

example : parse "::ffff:127.0.0.1".toList = some (.v6 0xFFFF7F000001#128) := by decide +kernel

example : parse "2001:db8::1".toList = some (.v6 0x20010DB8000000000000000000000001#128) := by
  decide +kernel

example : parse "01.2.3.4".toList = none := by decide +kernel

end IpAddr
