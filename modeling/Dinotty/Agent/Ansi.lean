/-
This file is what dropping the escape sequences of a text leaves of it.
-/

import Dinotty.Agent.Api

namespace Dinotty.Agent

open List

/-! ### Sequences -/

inductive Shape where
  | control (parameters intermediates : List Char) (final : Char)
  | command (payload : List Char) (bell : Bool)
  | string (opener : Char) (payload : List Char)
  | escape (intermediate : Option Char) (final : Char)

namespace Shape

def text : Shape → List Char
  | control parameters intermediates final =>
      '\x1b' :: '[' :: (parameters ++ intermediates ++ [final])
  | command payload bell =>
      '\x1b' :: ']' :: (payload ++ if bell then ['\x07'] else ['\x1b', '\\'])
  | string opener payload => '\x1b' :: opener :: (payload ++ ['\x1b', '\\'])
  | escape intermediate final => '\x1b' :: (intermediate.toList ++ [final])

/-- The parts are those of a complete sequence. -/
def Complete : Shape → Prop
  | control parameters intermediates final =>
      (∀ c ∈ parameters, '0' ≤ c ∧ c ≤ '?') ∧ (∀ c ∈ intermediates, ' ' ≤ c ∧ c ≤ '/') ∧
        '@' ≤ final ∧ final ≤ '~'
  | command payload _ => '\x1b' ∉ payload ∧ '\x07' ∉ payload
  | string opener payload => opener ∈ ['P', 'X', '^', '_'] ∧ '\x1b' ∉ payload
  | escape none final => '0' ≤ final ∧ final ≤ '~' ∧ final ∉ ['[', ']', 'P', 'X', '^', '_']
  | escape (some intermediate) final =>
      ' ' ≤ intermediate ∧ intermediate ≤ '/' ∧ '0' ≤ final ∧ final ≤ '~'

end Shape

structure EscapeSequence where
  shape : Shape
  complete : shape.Complete

/-- Text without escapes. -/
structure Printable where
  text : List Char
  plain : '\x1b' ∉ text

abbrev Piece := Printable ⊕ EscapeSequence

def whole (pieces : List Piece) : List Char :=
  pieces.flatMap (Sum.elim Printable.text (·.shape.text))

def printed (pieces : List Piece) : List Char :=
  pieces.flatMap (Sum.elim Printable.text fun _ => [])

/-- Control sequences that end in a letter, and commands. -/
def Shape.Dropped : Shape → Prop
  | .control _ _ final => final.isAlpha = true
  | .command _ _ => True
  | _ => False

/-! ### Skipping -/

theorem stripAnsi_cons {c : Char} (ne : c ≠ '\x1b') (rest : List Char) :
    stripAnsi (c :: rest) = c :: stripAnsi rest := by
  rw [stripAnsi]
  · exact fun _ same _ => ne same
  · exact fun _ same _ => ne same
  · exact ne

theorem stripAnsi_append {front : List Char} (plain : '\x1b' ∉ front) (rest : List Char) :
    stripAnsi (front ++ rest) = front ++ stripAnsi rest := by
  induction front with
  | nil => rfl
  | cons c front ih =>
    rw [cons_append, stripAnsi_cons (ne_of_not_mem_cons plain).symm,
      ih (not_mem_of_not_mem_cons plain), cons_append]

theorem stripAnsi_escape {c : Char} (other : c ∉ ['\x1b', '[', ']']) (rest : List Char) :
    stripAnsi ('\x1b' :: c :: rest) = c :: stripAnsi rest := by
  simp only [mem_cons, not_mem_nil, or_false, not_or] at other
  rw [stripAnsi, stripAnsi_cons other.1]
  · exact fun _ same => other.2.1 (head_eq_of_cons_eq same)
  · exact fun _ same => other.2.2 (head_eq_of_cons_eq same)

theorem escape_notMem_stripAnsi (text : List Char) : '\x1b' ∉ stripAnsi text := by
  fun_induction stripAnsi text with
  | case1 => exact not_mem_nil
  | case2 rest _ ih | case3 rest _ ih | case4 rest _ _ ih => exact ih
  | case5 c rest _ _ other ih => exact not_mem_cons_of_ne_of_not_mem (fun same => other same.symm) ih

theorem skipControlSequence_append {front : List Char} (others : ∀ c ∈ front, c.isAlpha = false)
    (rest : List Char) : skipControlSequence (front ++ rest) = skipControlSequence rest := by
  induction front with
  | nil => rfl
  | cons c front ih =>
    rw [cons_append, skipControlSequence, others c mem_cons_self]
    exact ih fun c mem => others c (mem_cons_of_mem _ mem)

theorem skipCommandSequence_append {payload : List Char} (plain : '\x1b' ∉ payload)
    (silent : '\x07' ∉ payload) (rest : List Char) :
    skipCommandSequence (payload ++ rest) = skipCommandSequence rest := by
  induction payload with
  | nil => rfl
  | cons c payload ih =>
    rw [cons_append, skipCommandSequence, ih (not_mem_of_not_mem_cons plain)
      (not_mem_of_not_mem_cons silent)]
    · exact fun same => ne_of_not_mem_cons silent same.symm
    · exact fun _ same => absurd same.symm (ne_of_not_mem_cons plain)

/-- No part of a control sequence but its end is a letter. -/
theorem not_isAlpha {c : Char} (low : c ≤ '?') : c.isAlpha = false := by
  have bound : c.toNat ≤ 63 := low
  simp only [Char.isAlpha, Char.isUpper, Char.isLower, Bool.or_eq_false_iff, Bool.and_eq_false_iff,
    decide_eq_false_iff_not, ge_iff_le, UInt32.le_iff_toNat_le]
  simp
  omega

/-- A control sequence takes the text up to the next letter along, unless it ends in one. -/
theorem stripAnsi_control {parameters intermediates : List Char} {final : Char}
    (complete : (Shape.control parameters intermediates final).Complete) (rest : List Char) :
    stripAnsi ((Shape.control parameters intermediates final).text ++ rest) =
      stripAnsi (if final.isAlpha = true then rest else skipControlSequence rest) := by
  have others : ∀ c ∈ parameters ++ intermediates, c.isAlpha = false := fun c mem => by
    rcases mem_append.mp mem with front | back
    · exact not_isAlpha (complete.1 c front).2
    · exact not_isAlpha (Char.le_trans (complete.2.1 c back).2 (by decide))
  rw [Shape.text, cons_append, cons_append, stripAnsi, append_assoc,
    skipControlSequence_append others, singleton_append, skipControlSequence]

variable {shape : Shape} (complete : shape.Complete)
include complete

theorem stripAnsi_dropped (dropped : shape.Dropped) (rest : List Char) :
    stripAnsi (shape.text ++ rest) = stripAnsi rest := by
  cases shape with
  | control parameters intermediates final =>
    rw [stripAnsi_control complete]
    exact congrArg stripAnsi (if_pos dropped)
  | command payload bell =>
    rw [Shape.text, cons_append, cons_append, stripAnsi, append_assoc,
      skipCommandSequence_append complete.1 complete.2]
    cases bell with
    | false => rfl
    | true => rfl
  | string | escape => exact dropped.elim

/-- A sequence of another kind takes a letter along, or leaves something of itself behind. -/
theorem exists_stripAnsi_ne (kept : ¬ shape.Dropped) :
    ∃ rest, '\x1b' ∉ rest ∧ stripAnsi (shape.text ++ rest) ≠ rest := by
  have left {c : Char} (visible : ' ' ≤ c) (other : c ≠ '[' ∧ c ≠ ']') (rest : List Char) :
      stripAnsi ('\x1b' :: c :: rest) ≠ [] := by
    have ne : c ≠ '\x1b' := fun same => absurd (same ▸ visible) (by decide)
    rw [stripAnsi_escape (by simp [ne, other])]
    exact cons_ne_nil _ _
  cases shape with
  | control parameters intermediates final =>
    refine ⟨['a'], by decide, ?_⟩
    have other : ¬ final.isAlpha = true := kept
    rw [stripAnsi_control complete, if_neg other]
    simp [skipControlSequence, stripAnsi]
  | command => exact absurd trivial kept
  | string opener payload =>
    obtain ⟨visible, other⟩ : ' ' ≤ opener ∧ opener ≠ '[' ∧ opener ≠ ']' := by
      have listed := complete.1
      simp only [mem_cons, not_mem_nil, or_false] at listed
      rcases listed with rfl | rfl | rfl | rfl <;> decide
    exact ⟨[], not_mem_nil, left visible other _⟩
  | escape intermediate final =>
    refine ⟨[], not_mem_nil, ?_⟩
    cases intermediate with
    | none =>
      obtain ⟨low, -, other⟩ := complete
      simp only [mem_cons, not_or] at other
      exact left (Char.le_trans (by decide) low) ⟨other.1, other.2.1⟩ _
    | some intermediate =>
      refine left complete.1 ⟨fun same => ?_, fun same => ?_⟩ _
      · exact absurd (same ▸ complete.2.1) (by decide)
      · exact absurd (same ▸ complete.2.1) (by decide)

omit complete

/-- What is left of a text holds no escape, and is left as it is. Texts come out as they are printed
exactly if the sequences in them are control sequences that end in a letter, and commands. -/
theorem stripAnsi_exact_iff (text : List Char) (kinds : Set EscapeSequence) :
    ('\x1b' ∉ stripAnsi text ∧ stripAnsi (stripAnsi text) = stripAnsi text) ∧
      ((∀ pieces : List Piece, (∀ sequence, .inr sequence ∈ pieces → sequence ∈ kinds) →
          stripAnsi (whole pieces) = printed pieces) ↔
        ∀ sequence ∈ kinds, sequence.shape.Dropped) := by
  refine ⟨⟨escape_notMem_stripAnsi text, ?_⟩, ⟨?_, ?_⟩⟩
  · have same := stripAnsi_append (escape_notMem_stripAnsi text) []
    rwa [append_nil, stripAnsi, append_nil] at same
  · intro exact sequence mem
    by_contra kept
    obtain ⟨rest, plain, ne⟩ := exists_stripAnsi_ne sequence.complete kept
    have same := exact [.inr sequence, .inl ⟨rest, plain⟩] (by simpa using mem)
    simp only [whole, printed, flatMap_cons, flatMap_nil, Sum.elim_inl, Sum.elim_inr, nil_append,
      append_nil] at same
    exact ne same
  · intro dropped pieces within
    induction pieces with
    | nil => rw [whole, flatMap_nil, stripAnsi]; rfl
    | cons piece pieces ih =>
      have ih := ih fun sequence mem => within sequence (mem_cons_of_mem _ mem)
      cases piece with
      | inl printable =>
        exact (stripAnsi_append printable.plain _).trans (congrArg (printable.text ++ ·) ih)
      | inr sequence =>
        exact (stripAnsi_dropped sequence.complete (dropped _ (within _ mem_cons_self)) _).trans ih

/-- A letter behind the sequence of the delete key is taken for its end. -/
theorem stripAnsi_swallows :
    ¬ ∀ pieces : List Piece, stripAnsi (whole pieces) = printed pieces := fun exact => by
  have same := exact [.inr ⟨.control ['3'] [] '~',
      fun c mem => by rw [mem_singleton.mp mem]; decide, nofun, by decide⟩,
    .inl ⟨['a'], by decide⟩]
  simp [whole, printed, Shape.text, stripAnsi, skipControlSequence] at same

end Dinotty.Agent
