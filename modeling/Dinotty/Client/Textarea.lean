/-
This file is the editing of a terminal's input line through a textarea: a line editor that holds the
text of one snapshot and is sent the keys holds that of the next.
-/

import Dinotty.Workspace.Offsets

namespace Dinotty.Terminal

open List Workspace

/-- A text of code points, with a selection in the units of the browser. -/
structure TerminalTextareaSnapshot where
  value : List Char
  selectionStart : Nat
  selectionEnd : Nat

/-- The code points before an offset, of which the last may be cut. -/
def codePointOffset : List Char → Nat → Nat
  | [], _ => 0
  | c :: rest, utf16Offset =>
      if utf16Offset = 0 then 0 else codePointOffset rest (utf16Offset - utf16Units c) + 1

def moveTerminalCursor (start stop : Nat) (applicationCursor : Bool) : List Char :=
  let final := if stop < start then 'D' else 'C'
  (replicate (max start stop - min start stop)
    ['\x1b', if applicationCursor then 'O' else '[', final]).flatten

def commonPrefix : List Char → List Char → Nat
  | c :: rest, c' :: rest' => if c = c' then commonPrefix rest rest' + 1 else 0
  | _, _ => 0

/-- The common suffix of two texts behind their common prefix. -/
def commonSuffix (oldText newText : List Char) : Nat :=
  commonPrefix (oldText.drop (commonPrefix oldText newText)).reverse
    (newText.drop (commonPrefix oldText newText)).reverse

def inserted (oldText newText : List Char) : List Char :=
  (newText.take (newText.length - commonSuffix oldText newText)).drop
    (commonPrefix oldText newText)

def terminalTextareaEdit (before after : TerminalTextareaSnapshot) (applicationCursor : Bool) :
    List Char :=
  let cursorBefore := codePointOffset before.value before.selectionEnd
  let desiredCursor := codePointOffset after.value after.selectionEnd
  if before.value = after.value then
    moveTerminalCursor cursorBefore desiredCursor applicationCursor
  else
    let oldEditEnd := before.value.length - commonSuffix before.value after.value
    let inserted := inserted before.value after.value
    let cursorAfterEdit := commonPrefix before.value after.value + inserted.length
    moveTerminalCursor cursorBefore oldEditEnd applicationCursor ++
      replicate (oldEditEnd - commonPrefix before.value after.value) '\x7f' ++ inserted ++
      moveTerminalCursor cursorAfterEdit desiredCursor applicationCursor

/-! ### The line editor -/

/-- The text before and after the cursor, and how much of a control sequence was read. -/
structure LineEditor where
  left : List Char
  right : List Char
  escape : Nat := 0

def LineEditor.press (editor : LineEditor) (c : Char) : LineEditor :=
  match editor.escape with
  | 0 =>
      if c = '\x1b' then { editor with escape := 1 }
      else if c = '\x7f' then { editor with left := editor.left.dropLast }
      else { editor with left := editor.left ++ [c] }
  | 1 => { editor with escape := 2 }
  | _ =>
      if c = 'D' then ⟨editor.left.dropLast, editor.left.getLast?.toList ++ editor.right, 0⟩
      else if c = 'C' then ⟨editor.left ++ editor.right.head?.toList, editor.right.tail, 0⟩
      else { editor with escape := 0 }

def LineEditor.type (editor : LineEditor) (keys : List Char) : LineEditor :=
  keys.foldl LineEditor.press editor

def LineEditor.at (text : List Char) (cursor : Nat) : LineEditor :=
  ⟨text.take cursor, text.drop cursor, 0⟩

/-! ### What the keys do -/

theorem codePointOffset_eq (front back : List Char) :
    codePointOffset (front ++ back) (front.map utf16Units).sum = front.length := by
  induction front with
  | nil => cases back <;> rfl
  | cons c front ih =>
    have positive : 0 < utf16Units c := by
      unfold utf16Units
      split <;> decide
    rw [cons_append, codePointOffset, map_cons, sum_cons, if_neg (by omega),
      Nat.add_sub_cancel_left, ih, length_cons]

theorem type_append (editor : LineEditor) (keys more : List Char) :
    editor.type (keys ++ more) = (editor.type keys).type more := foldl_append

section

variable (text : List Char) (mode : Char)

theorem type_back {place : Nat} (inside : place < text.length) :
    (LineEditor.at text (place + 1)).type ['\x1b', mode, 'D'] = .at text place := by
  have last := getElem?_eq_getElem inside
  show LineEditor.mk (text.take (place + 1)).dropLast
    ((text.take (place + 1)).getLast?.toList ++ text.drop (place + 1)) 0 = _
  rw [take_add_one, last, Option.toList_some, dropLast_concat, getLast?_concat,
    Option.toList_some, singleton_append, getElem_cons_drop inside]
  rfl

theorem type_forward (place : Nat) :
    (LineEditor.at text place).type ['\x1b', mode, 'C'] = .at text (place + 1) := by
  show LineEditor.mk (text.take place ++ (text.drop place).head?.toList)
    (text.drop place).tail 0 = _
  rw [head?_drop, tail_drop, ← take_add_one]
  rfl

end

theorem type_moveTerminalCursor (text : List Char) {start : Nat} (within : start ≤ text.length)
    (stop : Nat) (applicationCursor : Bool) :
    (LineEditor.at text start).type (moveTerminalCursor start stop applicationCursor) =
      .at text stop := by
  unfold moveTerminalCursor
  dsimp only
  generalize (if applicationCursor then 'O' else '[') = mode
  rcases Nat.lt_or_ge stop start with back | onward
  · rw [if_pos back]
    obtain ⟨count, rfl⟩ := Nat.exists_eq_add_of_le (Nat.le_of_lt back)
    rw [Nat.max_eq_left (Nat.le_of_lt back), Nat.min_eq_right (Nat.le_of_lt back),
      Nat.add_sub_cancel_left]
    clear back
    induction count with
    | zero => rfl
    | succ count ih =>
      rw [replicate_succ, flatten_cons, type_append, ← Nat.add_assoc,
        type_back text mode (show stop + count < _ from within), ih (Nat.le_of_lt within)]
  · rw [if_neg (Nat.not_lt.mpr onward)]
    obtain ⟨count, rfl⟩ := Nat.exists_eq_add_of_le onward
    rw [Nat.max_eq_right onward, Nat.min_eq_left onward, Nat.add_sub_cancel_left]
    clear within onward
    induction count generalizing start with
    | zero => rfl
    | succ count ih =>
      rw [replicate_succ, flatten_cons, type_append, type_forward, ih, Nat.add_assoc,
        Nat.add_comm 1]

theorem type_backspaces (front taken right : List Char) :
    (LineEditor.mk (front ++ taken) right 0).type (replicate taken.length '\x7f') =
      ⟨front, right, 0⟩ := by
  induction taken using reverseRecOn with
  | nil => rw [append_nil]; rfl
  | append_singleton taken c ih =>
    rw [length_append, length_singleton, replicate_succ]
    show (LineEditor.mk (front ++ (taken ++ [c])).dropLast right 0).type _ = _
    rw [← append_assoc, dropLast_concat, ih]

theorem type_printable {keys : List Char}
    (printable : ∀ c ∈ keys, 0x20 ≤ c.toNat ∧ c.toNat ≠ 0x7f) (left right : List Char) :
    (LineEditor.mk left right 0).type keys = ⟨left ++ keys, right, 0⟩ := by
  induction keys generalizing left with
  | nil => rw [append_nil]; rfl
  | cons c keys ih =>
    obtain ⟨isPrintable, printable⟩ := forall_mem_cons.mp printable
    have pressed : (LineEditor.mk left right 0).press c = ⟨left ++ [c], right, 0⟩ := by
      have noEscape : c ≠ '\x1b' := fun same => absurd isPrintable.1 (by rw [same]; decide)
      have noDelete : c ≠ '\x7f' := fun same => isPrintable.2 (by rw [same]; rfl)
      simp only [LineEditor.press, if_neg noEscape, if_neg noDelete]
    show ((LineEditor.mk left right 0).press c).type keys = _
    rw [pressed, ih printable, append_assoc, singleton_append]

/-! ### The edit -/

theorem commonPrefix_spec (oldText newText : List Char) :
    oldText.take (commonPrefix oldText newText) = newText.take (commonPrefix oldText newText) ∧
      commonPrefix oldText newText ≤ oldText.length ∧
      commonPrefix oldText newText ≤ newText.length := by
  fun_induction commonPrefix oldText newText with
  | case1 rest c rest' ih =>
    exact ⟨congrArg (c :: ·) ih.1, Nat.succ_le_succ ih.2.1, Nat.succ_le_succ ih.2.2⟩
  | case2 | case3 => exact ⟨rfl, Nat.zero_le _, Nat.zero_le _⟩

/-- Two texts are a common part, parts of their own and another common part. -/
theorem exists_parts (oldText newText : List Char) :
    ∃ front taken back, oldText = front ++ taken ++ back ∧
      newText = front ++ inserted oldText newText ++ back ∧
      front.length = commonPrefix oldText newText ∧
      back.length = commonSuffix oldText newText := by
  obtain ⟨sameFront, within, within'⟩ := commonPrefix_spec oldText newText
  obtain ⟨sameBack, short, short'⟩ := commonPrefix_spec
    (oldText.drop (commonPrefix oldText newText)).reverse
    (newText.drop (commonPrefix oldText newText)).reverse
  change _ = take (commonSuffix oldText newText) _ at sameBack
  rw [length_reverse] at short short'
  change commonSuffix oldText newText ≤ _ at short short'
  have ends (text : List Char) (suffix : Nat) (short : suffix ≤ text.length) :
      text = text.take (text.length - suffix) ++ (text.reverse.take suffix).reverse := by
    rw [reverse_take, reverse_reverse, length_reverse, take_append_drop]
  have middle : (newText.drop (commonPrefix oldText newText)).take
      ((newText.drop (commonPrefix oldText newText)).length - commonSuffix oldText newText) =
        inserted oldText newText := by
    rw [inserted, drop_take, length_drop, Nat.sub_right_comm]
  have old := (take_append_drop (commonPrefix oldText newText) oldText).symm
  have new := (take_append_drop (commonPrefix oldText newText) newText).symm
  rw [ends _ _ short, ← append_assoc] at old
  rw [ends _ _ short', middle, ← sameBack, ← sameFront, ← append_assoc] at new
  refine ⟨_, _, _, old, new, length_take_of_le within, ?_⟩
  rw [length_reverse]
  exact length_take_of_le (by rwa [length_reverse])

/-- The keys of an edit turn the text and the cursor of the first snapshot into those of the
second. -/
theorem type_terminalTextareaEdit (front back front' back' : List Char) (start start' : Nat)
    (applicationCursor : Bool)
    (printable : ∀ c ∈ inserted (front ++ back) (front' ++ back'),
      0x20 ≤ c.toNat ∧ c.toNat ≠ 0x7f) :
    (LineEditor.mk front back 0).type (terminalTextareaEdit
      ⟨front ++ back, start, (front.map utf16Units).sum⟩
      ⟨front' ++ back', start', (front'.map utf16Units).sum⟩ applicationCursor) =
      ⟨front', back', 0⟩ := by
  have placed (front back : List Char) :
      LineEditor.mk front back 0 = .at (front ++ back) front.length := by
    rw [LineEditor.at, take_left, drop_left]
  have within (front back : List Char) : front.length ≤ (front ++ back).length := by
    rw [length_append]
    exact Nat.le_add_right _ _
  unfold terminalTextareaEdit
  dsimp only
  rw [codePointOffset_eq, codePointOffset_eq, placed front back, placed front' back']
  split
  next same =>
    rw [type_moveTerminalCursor _ (within front back), same]
  · obtain ⟨shared, taken, rest, old, new, isPrefix, isSuffix⟩ :=
      exists_parts (front ++ back) (front' ++ back')
    have inside := within front back
    rw [← isPrefix, ← isSuffix]
    generalize inserted (front ++ back) (front' ++ back') = added at *
    rw [old] at inside ⊢
    rw [new]
    have stop : (shared ++ taken ++ rest).length - rest.length = (shared ++ taken).length := by
      rw [length_append, Nat.add_sub_cancel]
    have count : (shared ++ taken).length - shared.length = taken.length := by
      rw [length_append, Nat.add_sub_cancel_left]
    rw [stop, count, type_append, type_append, type_append, type_moveTerminalCursor _ inside,
      ← placed, type_backspaces, type_printable printable, placed, length_append,
      type_moveTerminalCursor _ (by simp)]

theorem type_terminalTextareaEdit_accent :
    (LineEditor.mk ['a', 'b'] ['c'] 0).type (terminalTextareaEdit
      ⟨['a', 'b', 'c'], 2, 2⟩ ⟨['a', 'é', 'c'], 2, 2⟩ false) = ⟨['a', 'é'], ['c'], 0⟩ :=
  type_terminalTextareaEdit ['a', 'b'] ['c'] ['a', 'é'] ['c'] 2 2 false
    (@of_decide_eq_true _ (decidableBAll _ _) rfl)

end Dinotty.Terminal
