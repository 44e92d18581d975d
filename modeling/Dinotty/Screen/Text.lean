/-
This file is the text handling that the operating-system commands of the screen use.
-/

import Mathlib

namespace Dinotty.Screen

/-! ### Lossy decoding -/

def replacement : Char := Char.ofNat 0xFFFD

def isContinuation (byte : UInt8) : Bool := 0x80 ≤ byte && byte ≤ 0xBF

/-- Whether `second` may follow the lead byte of a three-byte sequence. -/
def secondOfThree (lead second : UInt8) : Bool :=
  if lead = 0xE0 then 0xA0 ≤ second && second ≤ 0xBF
  else if lead = 0xED then 0x80 ≤ second && second ≤ 0x9F
  else isContinuation second

/-- Whether `second` may follow the lead byte of a four-byte sequence. -/
def secondOfFour (lead second : UInt8) : Bool :=
  if lead = 0xF0 then 0x90 ≤ second && second ≤ 0xBF
  else if lead = 0xF4 then 0x80 ≤ second && second ≤ 0x8F
  else isContinuation second

def low6 (byte : UInt8) : Nat := byte.toNat % 64

/-- The next character of a byte string, with the number of bytes after the first that it
takes. -/
def nextChar (lead : UInt8) (rest : List UInt8) : Char × Nat :=
  if lead < 0x80 then (Char.ofNat lead.toNat, 0)
  else if 0xC2 ≤ lead ∧ lead ≤ 0xDF then
    match rest with
    | second :: _ =>
        if isContinuation second then (Char.ofNat (lead.toNat % 32 * 64 + low6 second), 1)
        else (replacement, 0)
    | [] => (replacement, 0)
  else if 0xE0 ≤ lead ∧ lead ≤ 0xEF then
    match rest with
    | second :: later =>
        if secondOfThree lead second then
          match later with
          | third :: _ =>
              if isContinuation third then
                (Char.ofNat ((lead.toNat % 16 * 64 + low6 second) * 64 + low6 third), 2)
              else (replacement, 1)
          | [] => (replacement, 1)
        else (replacement, 0)
    | [] => (replacement, 0)
  else if 0xF0 ≤ lead ∧ lead ≤ 0xF4 then
    match rest with
    | second :: later =>
        if secondOfFour lead second then
          match later with
          | third :: last =>
              if isContinuation third then
                match last with
                | fourth :: _ =>
                    if isContinuation fourth then
                      (Char.ofNat (((lead.toNat % 8 * 64 + low6 second) * 64 + low6 third) * 64 +
                        low6 fourth), 3)
                    else (replacement, 2)
                | [] => (replacement, 2)
              else (replacement, 1)
          | [] => (replacement, 1)
        else (replacement, 0)
    | [] => (replacement, 0)
  else (replacement, 0)

/-- Decode at most `fuel` characters. -/
def lossyChars : Nat → List UInt8 → List Char
  | 0, _ => []
  | _, [] => []
  | fuel + 1, lead :: rest =>
      let (char, taken) := nextChar lead rest
      char :: lossyChars fuel (rest.drop taken)

/-- `String::from_utf8_lossy`. Every character takes at least one byte, so the length of the
input is fuel enough. -/
def fromUtf8Lossy (bytes : List UInt8) : List Char := lossyChars bytes.length bytes

example : fromUtf8Lossy [0x6F, 0x6B, 0xFF, 0xFE] = ['o', 'k', replacement, replacement] := by
  decide

/-! ### Truncation and numbers -/

/-- The longest prefix of whole characters that fits in `limit` bytes. -/
def takeBytes : Nat → List Char → List Char
  | _, [] => []
  | limit, char :: rest =>
      if char.utf8Size ≤ limit then char :: takeBytes (limit - char.utf8Size) rest else []

/-- Truncate a notification payload to 4096 bytes without splitting a character. -/
def truncateUtf8 (text : List Char) : List Char := takeBytes (4 * 1024) text

def digitsValue (digits : List UInt8) : Option Nat :=
  match digits with
  | [] => none
  | _ =>
      if digits.all (fun digit => 0x30 ≤ digit && digit ≤ 0x39) then
        some (digits.foldl (fun value digit => value * 10 + (digit.toNat - 0x30)) 0)
      else none

/-- Parse a signed 32-bit decimal. -/
def parseI32 (bytes : List UInt8) : Option Int :=
  match bytes with
  | 0x2D :: digits => do
      let value ← digitsValue digits
      if value ≤ 2147483648 then some (-(value : Int)) else none
  | 0x2B :: digits => do
      let value ← digitsValue digits
      if value ≤ 2147483647 then some (value : Int) else none
  | digits => do
      let value ← digitsValue digits
      if value ≤ 2147483647 then some (value : Int) else none

end Dinotty.Screen
