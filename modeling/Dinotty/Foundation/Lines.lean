/-
This file is the reading of lines from a stream of bytes. A line ends with a newline, with or
without a carriage return before it; what is behind the last newline is a line once the stream has
ended.
-/

import Mathlib

namespace Lines

open List

def newline : UInt8 := 10

def carriageReturn : UInt8 := 13

/-- A line without the carriage return at its end. -/
def strip (line : List UInt8) : List UInt8 :=
  if line.getLast? = some carriageReturn then line.dropLast else line

/-- The lines of the bytes that come after a begun line. -/
def linesFrom (begun : List UInt8) : List UInt8 → List (List UInt8)
  | [] => if begun = [] then [] else [begun]
  | byte :: rest =>
      if byte = newline then strip begun :: linesFrom [] rest
      else linesFrom (begun ++ [byte]) rest

def lines (bytes : List UInt8) : List (List UInt8) := linesFrom [] bytes

inductive Read where
  | line (line rest : List UInt8)
  | wait
  | ended
  deriving DecidableEq

/-- Read the next line of what is there, of a stream that has ended or goes on. -/
def nextLine (closed : Bool) (bytes : List UInt8) : Read :=
  match bytes.span (· ≠ newline) with
  | (front, _ :: rest) => .line (strip front) rest
  | (front, []) =>
      if closed then if front = [] then .ended else .line front []
      else .wait

theorem linesFrom_append_newline {front : List UInt8} (within : newline ∉ front)
    (begun rest : List UInt8) :
    linesFrom begun (front ++ newline :: rest) = strip (begun ++ front) :: lines rest := by
  induction front generalizing begun with
  | nil => rw [nil_append, linesFrom, if_pos rfl, append_nil, lines]
  | cons byte others ih =>
    obtain ⟨here, further⟩ := not_or.mp (mem_cons.not.mp within)
    rw [cons_append, linesFrom, if_neg (Ne.symm here), ih further, append_assoc, singleton_append]

variable {bytes : List UInt8}

theorem linesFrom_of_no_newline (within : newline ∉ bytes) (begun : List UInt8) :
    linesFrom begun bytes = if begun ++ bytes = [] then [] else [begun ++ bytes] := by
  induction bytes generalizing begun with
  | nil => rw [linesFrom, append_nil]
  | cons byte others ih =>
    obtain ⟨here, further⟩ := not_or.mp (mem_cons.not.mp within)
    rw [linesFrom, if_neg (Ne.symm here), ih further, append_assoc, singleton_append]

theorem notMem_takeWhile (bytes : List UInt8) : newline ∉ bytes.takeWhile (· ≠ newline) :=
  fun mem => by simpa using mem_takeWhile_imp mem

/-- A line that is read is the first one, whatever comes after what is there; the last line of a
stream that has ended is read whole. -/
theorem lines_of_nextLine {closed : Bool} {line rest more : List UInt8}
    (found : nextLine closed bytes = .line line rest) (last : closed = true → more = []) :
    lines (bytes ++ more) = line :: lines (rest ++ more) := by
  unfold nextLine at found
  rw [span_eq_takeWhile_dropWhile] at found
  have whole := takeWhile_append_dropWhile (p := fun byte => byte ≠ newline) (l := bytes)
  split at found
  next front first others parts =>
    obtain ⟨taken, dropped⟩ := Prod.mk.inj parts
    obtain ⟨rfl, rfl⟩ := Read.line.inj found
    have isNewline : first = newline := by
      have stopped := head?_dropWhile_not (fun byte => decide (byte ≠ newline)) bytes
      rw [dropped] at stopped
      simpa using stopped
    rw [← whole, taken, dropped, isNewline, append_assoc, cons_append, lines,
      linesFrom_append_newline (taken ▸ notMem_takeWhile bytes), nil_append]
  next front parts =>
    obtain ⟨taken, dropped⟩ := Prod.mk.inj parts
    split at found
    next isClosed =>
      split at found
      · exact absurd found (by simp)
      next nonempty =>
        obtain ⟨rfl, rfl⟩ := Read.line.inj found
        rw [last isClosed, ← whole, taken, dropped, append_nil, append_nil, lines,
          linesFrom_of_no_newline (taken ▸ notMem_takeWhile bytes), nil_append,
          if_neg nonempty]
        rfl
    · exact absurd found (by simp)

theorem nextLine_eq_ended {closed : Bool} (found : nextLine closed bytes = .ended) :
    closed = true ∧ bytes = [] := by
  unfold nextLine at found
  rw [span_eq_takeWhile_dropWhile] at found
  have whole := takeWhile_append_dropWhile (p := fun byte => byte ≠ newline) (l := bytes)
  split at found
  · exact absurd found (by simp)
  next front parts =>
    obtain ⟨taken, dropped⟩ := Prod.mk.inj parts
    split at found
    next isClosed =>
      split at found
      next empty =>
        rw [← whole, taken, dropped, empty]
        exact ⟨isClosed, rfl⟩
      · exact absurd found (by simp)
    · exact absurd found (by simp)

theorem eq_nil_of_lines (none : lines bytes = []) : bytes = [] := by
  by_contra nonempty
  cases found : nextLine true bytes with
  | line line rest =>
    have first : lines (bytes ++ []) = line :: lines (rest ++ []) :=
      lines_of_nextLine found fun _ => rfl
    rw [append_nil, none] at first
    exact absurd first (by simp)
  | wait =>
    unfold nextLine at found
    split at found <;> simp at found
    split at found <;> simp at found
  | ended => exact nonempty (nextLine_eq_ended found).2

end Lines
