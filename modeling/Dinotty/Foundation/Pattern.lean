/-
This file is path patterns as routers have them. It decides whether two patterns have a path in
common.
-/

import Mathlib

namespace Dinotty

inductive Segment where
  | static (text : String)
  | param (name : String)
  | rest (name : String)
  deriving DecidableEq

instance : Coe String Segment := ⟨Segment.static⟩

/-- Whether a segment of a path may be the one of a pattern. -/
def Segment.admits : Segment → String → Bool
  | .static text, segment => text = segment
  | .param _, _ => true
  | .rest _, _ => false

def Segment.overlaps : Segment → Segment → Bool
  | .static text, .static text' => text = text'
  | .rest _, _ => false
  | _, .rest _ => false
  | _, _ => true

theorem Segment.overlaps_of_admits {first second : Segment} {segment : String}
    (admitsFirst : first.admits segment = true) (admitsSecond : second.admits segment = true) :
    first.overlaps second = true := by
  cases first <;> cases second <;> simp_all [Segment.admits, Segment.overlaps]

abbrev Pattern := List Segment

namespace Pattern

/-- Whether a path of these segments may have the pattern: a parameter takes any segment, and the
rest is at least one segment. -/
def admits : Pattern → List String → Bool
  | [], [] => true
  | [.rest _], _ :: _ => true
  | part :: pattern, segment :: segments => part.admits segment && admits pattern segments
  | _, _ => false

/-- Whether some path may have both patterns. -/
def overlaps : Pattern → Pattern → Bool
  | [], [] => true
  | [.rest _], _ :: _ => true
  | _ :: _, [.rest _] => true
  | part :: first, part' :: second => part.overlaps part' && overlaps first second
  | _, _ => false

theorem overlaps_of_admits {first second : Pattern} {segments : List String}
    (admitsFirst : first.admits segments = true) (admitsSecond : second.admits segments = true) :
    first.overlaps second = true := by
  fun_induction overlaps first second generalizing segments with
  | case1 | case2 | case3 => rfl
  | case4 part first part' second notRest notRest' ih =>
    cases segments with
    | nil => simp [admits] at admitsFirst
    | cons segment later =>
      rw [admits, Bool.and_eq_true] at admitsFirst admitsSecond
      · rw [Bool.and_eq_true]
        exact ⟨Segment.overlaps_of_admits admitsFirst.1 admitsSecond.1,
          ih admitsFirst.2 admitsSecond.2⟩
      · exact notRest'
      · exact notRest
  | case5 first second bothEmpty _ _ bothCons =>
    cases first with
    | nil =>
      cases second with
      | nil => exact (bothEmpty rfl rfl).elim
      | cons part' second => cases segments <;> simp [admits] at admitsFirst admitsSecond
    | cons part first =>
      cases second with
      | nil => cases segments <;> simp [admits] at admitsFirst admitsSecond
      | cons part' second => exact (bothCons part first part' second rfl rfl).elim

end Pattern

end Dinotty
