/-
This file is the order of plugin versions.
-/

import Dinotty.Plugin.Manifest

namespace Dinotty.Plugin

open List Chars

/-- A part of a pre-release. -/
inductive Identifier where
  | numeric (value : Nat)
  | alphanumeric (text : List Char)
  deriving DecidableEq

def Identifier.text : Identifier → List Char
  | .numeric value => Nat.toDigits 10 value
  | .alphanumeric text => text

/-- Numbers come before texts. -/
def Identifier.lt : Identifier → Identifier → Prop
  | .numeric first, .numeric second => first < second
  | .numeric _, .alphanumeric _ => True
  | .alphanumeric _, .numeric _ => False
  | .alphanumeric first, .alphanumeric second => first < second

structure SemanticVersion where
  major : Nat
  minor : Nat
  patch : Nat
  pre : List Identifier := []
  build : List (List Char) := []
  deriving DecidableEq

namespace SemanticVersion

def core (version : SemanticVersion) : List Nat := [version.major, version.minor, version.patch]

def text (version : SemanticVersion) : List Char :=
  List.intercalate ['.'] (version.core.map (Nat.toDigits 10)) ++
    (if version.pre = [] then []
      else '-' :: List.intercalate ['.'] (version.pre.map Identifier.text)) ++
    if version.build = [] then [] else '+' :: List.intercalate ['.'] version.build

/-- The first version has the lower precedence. A release comes after its pre-releases, and the
build does not count. -/
def Precedes (first second : SemanticVersion) : Prop :=
  first.core < second.core ∨ first.core = second.core ∧ first.pre ≠ [] ∧
    (second.pre = [] ∨ List.Lex Identifier.lt first.pre second.pre)

/-- A release with numbers that fit into 32 bits. -/
structure Plain (version : SemanticVersion) : Prop where
  pre : version.pre = []
  build : version.build = []
  fits : ∀ number ∈ version.core, number < 2 ^ 32

end SemanticVersion

def versionNumbers (text : List Char) : List Nat :=
  ((text.dropWhile (· = 'v')).splitOn '.').filterMap (parseUnsigned (2 ^ 32))

def versionGt (first second : List Char) : Bool := versionNumbers second < versionNumbers first

theorem not_mem_toDigits {c : Char} (other : ∀ digit < 10, c ≠ Nat.digitChar digit) (number : Nat) :
    c ∉ Nat.toDigits 10 number := fun mem =>
  have ⟨digit, small, same⟩ := isDigit_of_mem_toDigits mem
  other digit small same

section

variable {first second : SemanticVersion}

/-- A release is read number by number, whatever letters stand in front of it. -/
theorem versionNumbers_text (plain : first.Plain) (marks : Nat) :
    versionNumbers (replicate marks 'v' ++ first.text) = first.core := by
  obtain ⟨pre, build, fits⟩ := plain
  have dot := @not_mem_toDigits '.' (by decide)
  have text : first.text = Nat.toDigits 10 first.major ++
      '.' :: (Nat.toDigits 10 first.minor ++ '.' :: Nat.toDigits 10 first.patch) := by
    simp [SemanticVersion.text, SemanticVersion.core, pre, build, List.intercalate]
  have front (rest : List Char) : (Nat.toDigits 10 first.major ++ rest).dropWhile (· = 'v') =
      Nat.toDigits 10 first.major ++ rest := by
    have letter := @not_mem_toDigits 'v' (by decide) first.major
    cases digits : Nat.toDigits 10 first.major with
    | nil => exact absurd digits (toDigits_ne_nil _)
    | cons digit later =>
      rw [digits] at letter
      exact dropWhile_cons_of_neg (by simpa using (ne_of_not_mem_cons letter).symm)
  simp only [SemanticVersion.core, forall_mem_cons] at fits
  rw [versionNumbers, dropWhile_append_of_pos (by simp), text, front, splitOn_append_cons (dot _),
    splitOn_append_cons (dot _), splitOn_eq_singleton (dot _)]
  simp only [filterMap_cons, parseUnsigned_toDigits fits.1, parseUnsigned_toDigits fits.2.1,
    parseUnsigned_toDigits fits.2.2.1]
  rfl

theorem core_injective (plain : first.Plain) (plain' : second.Plain)
    (same : first.core = second.core) : first = second := by
  obtain ⟨major, minor, patch, pre, build⟩ := first
  obtain ⟨major', minor', patch', pre', build'⟩ := second
  obtain ⟨rfl, rfl, -⟩ := plain
  obtain ⟨rfl, rfl, -⟩ := plain'
  simpa [SemanticVersion.core] using same

end

end Dinotty.Plugin
