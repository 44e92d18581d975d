/-
This file follows the two halves of a wide glyph: the cell that holds it and the continuation cell
`'\0'` on its right. An action keeps the pairs when the columns at which it cuts a row are clear of
continuations; printing repairs the halves it overwrites, but for a wide glyph stored to the left of
another one.
-/

import Dinotty.Screen.Shape

namespace Dinotty.Screen

open List Fallible Vec

/-- What is relied on of the display widths: the continuation mark is not printed as a glyph,
and a blank is not wide. -/
structure PlainWidths (width : Char → Option Nat) : Prop where
  continuation : (width nul).getD 0 = 0
  blank : width ' ' ≠ some 2

/-! ### The pairs of a row -/

section Pairs

variable (width : Char → Option Nat)

/-- The cell at `col` is a continuation. -/
def NulAt (line : Row) (col : Nat) : Prop := (line)[col]?.any (·.ch = nul)

/-- The cell at `col` holds a wide glyph. -/
def WideAt (line : Row) (col : Nat) : Prop := (line)[col]?.any (width ·.ch = some 2)

instance (line : Row) (col : Nat) : Decidable (NulAt line col) :=
  inferInstanceAs (Decidable (_ = true))

instance (line : Row) (col : Nat) : Decidable (WideAt width line col) :=
  inferInstanceAs (Decidable (_ = true))

/-- Continuations occur exactly on the right of wide glyphs. -/
structure Paired (line : Row) : Prop where
  first : ¬ NulAt line 0
  pairs : ∀ col, WideAt width line col ↔ NulAt line (col + 1)

/-- Read one cell, knowing whether a continuation is due. -/
def pairStep (due : Bool) (c : Char) : Option Bool :=
  if c = nul then (if due then some false else none)
  else if due then none
  else some (decide (width c = some 2))

/-- Read a row from left to right. -/
def scan (due : Bool) (line : Row) : Option Bool :=
  Fallible.run (pairStep width) due (line.map Cell.ch)

variable {width}

theorem scan_append (due : Bool) (front back : Row) : scan width due (front ++ back) =
      (scan width due front).bind fun middle => scan width middle back := by
  rw [scan, map_append, run_append]
  rfl

theorem scan_cons (due : Bool) (cell : Cell) (line : Row) : scan width due (cell :: line) =
      (pairStep width due cell.ch).bind fun middle => scan width middle line := rfl

section

variable (cell : Cell) (line : Row)
include cell line

theorem nulAt_cons_zero : NulAt (cell :: line) 0 ↔ cell.ch = nul := by
  simp [NulAt]

theorem nulAt_cons_succ (col : Nat) : NulAt (cell :: line) (col + 1) ↔ NulAt line col := by
  simp [NulAt]

theorem wideAt_cons_zero : WideAt width (cell :: line) 0 ↔ width cell.ch = some 2 := by
  simp [WideAt]

theorem wideAt_cons_succ (col : Nat) :
    WideAt width (cell :: line) (col + 1) ↔ WideAt width line col := by
  simp [WideAt]

end

theorem not_nulAt_of_length_le {line : Row} {col : Nat} (bound : line.length ≤ col) :
    ¬ NulAt line col := by
  simp [NulAt, getElem?_eq_none bound]

section

variable (plain : PlainWidths width)
include plain

theorem PlainWidths.nul_narrow : width nul ≠ some 2 := by
  intro wide
  have zero := plain.continuation
  simp [wide] at zero

/-- The automaton accepts the rest of a row exactly when the rest starts with a continuation if
one is due, and only then, and is paired from there on. -/
theorem scan_eq_some_false_iff (due : Bool) (line : Row) : scan width due line = some false ↔
      (NulAt line 0 ↔ due = true) ∧ ∀ col, WideAt width line col ↔ NulAt line (col + 1) := by
  induction line generalizing due with
  | nil => simp [scan, NulAt, WideAt]
  | cons cell rest ih =>
    have shift : (∀ col, WideAt width (cell :: rest) col ↔ NulAt (cell :: rest) (col + 1)) ↔
        (width cell.ch = some 2 ↔ NulAt rest 0) ∧
          ∀ col, WideAt width rest col ↔ NulAt rest (col + 1) := by
      constructor
      · intro pairs
        refine ⟨?_, fun col => ?_⟩
        · have zero := pairs 0
          rwa [wideAt_cons_zero, nulAt_cons_succ] at zero
        · have later := pairs (col + 1)
          rwa [wideAt_cons_succ, nulAt_cons_succ] at later
      · rintro ⟨zero, later⟩ col
        cases col with
        | zero => rwa [wideAt_cons_zero, nulAt_cons_succ]
        | succ col =>
          rw [wideAt_cons_succ, nulAt_cons_succ]
          exact later col
    rw [scan_cons, nulAt_cons_zero, shift, pairStep]
    by_cases mark : cell.ch = nul
    · have narrow := plain.nul_narrow
      cases due with
      | true => simp [mark, narrow, ih]
      | false => simp [mark]
    · cases due with
      | true => simp [mark]
      | false =>
        simp only [mark, if_false, Bool.false_eq_true, Option.bind_some, ih,
          decide_eq_true_eq, iff_self, true_and]
        exact and_congr_left fun _ => iff_comm

theorem paired_iff_scan (line : Row) : Paired width line ↔ scan width false line = some false := by
  rw [scan_eq_some_false_iff plain]
  simp only [Bool.false_eq_true, iff_false]
  exact ⟨fun paired => ⟨paired.first, paired.pairs⟩, fun halves => ⟨halves.1, halves.2⟩⟩

theorem Paired.cut {line : Row} (paired : Paired width line) (col : Nat) :
    scan width false (line.take col) = some (decide (NulAt line col)) ∧
      scan width (decide (NulAt line col)) (line.drop col) = some false := by
  have whole := (paired_iff_scan plain line).mp paired
  rw [← take_append_drop col line, scan_append] at whole
  obtain ⟨due, front, back⟩ := Option.bind_eq_some_iff.mp whole
  have here : due = decide (NulAt line col) := by
    have starts := ((scan_eq_some_false_iff plain due _).mp back).1
    rw [NulAt, getElem?_drop, Nat.add_zero] at starts
    rw [Bool.eq_iff_iff, decide_eq_true_eq]
    exact starts.symm
  subst here
  exact ⟨front, back⟩

end

section

variable (plain : PlainWidths width) {line : Row} {col : Nat}
include plain

theorem Paired.nil : Paired width [] := (paired_iff_scan plain []).mpr rfl

theorem Paired.append {front back : Row} (first : Paired width front)
    (second : Paired width back) : Paired width (front ++ back) := by
  rw [paired_iff_scan plain, scan_append, (paired_iff_scan plain front).mp first]
  exact (paired_iff_scan plain back).mp second

theorem Paired.narrow {cell : Cell} (glyph : cell.ch ≠ nul) (narrow : width cell.ch ≠ some 2)
    (rest : Paired width line) : Paired width (cell :: line) := by
  rw [paired_iff_scan plain] at rest ⊢
  rw [scan_cons, pairStep, if_neg glyph]
  simpa [narrow] using rest

theorem Paired.wide {cell mark : Cell} (glyph : cell.ch ≠ nul) (wide : width cell.ch = some 2)
    (isMark : mark.ch = nul) (rest : Paired width line) :
    Paired width (cell :: mark :: line) := by
  rw [paired_iff_scan plain] at rest ⊢
  simpa [scan_cons, pairStep, glyph, wide, isMark] using rest

theorem Paired.blank (rest : Paired width line) : Paired width (Cell.blank :: line) :=
  .narrow plain (by decide) plain.blank rest

theorem Paired.blanks (count : Nat) : Paired width (replicate count Cell.blank) := by
  induction count with
  | zero => exact .nil plain
  | succ count ih => exact .blank plain ih

theorem Paired.take (paired : Paired width line) (clear : ¬ NulAt line col) :
    Paired width (line.take col) := by
  have front := (paired.cut plain col).1
  rw [decide_eq_false clear] at front
  exact (paired_iff_scan plain _).mpr front

theorem Paired.drop (paired : Paired width line) (clear : ¬ NulAt line col) :
    Paired width (line.drop col) := by
  have back := (paired.cut plain col).2
  rw [decide_eq_false clear] at back
  exact (paired_iff_scan plain _).mpr back

theorem Paired.close {other : Nat} (paired : Paired width line)
    (agree : NulAt line col ↔ NulAt line other) :
    Paired width (line.take col ++ line.drop other) := by
  rw [paired_iff_scan plain, scan_append, (paired.cut plain col).1, Option.bind_some,
    decide_eq_decide.mpr agree]
  exact (paired.cut plain other).2

end

theorem Paired.congr {line other : Row} (same : line.map Cell.ch = other.map Cell.ch)
    (plain : PlainWidths width) (paired : Paired width line) : Paired width other := by
  rw [paired_iff_scan plain, scan] at paired ⊢
  rwa [← same]

end Pairs

/-! ### Operations inside one row -/

section Rows

variable {width : Char → Option Nat} (plain : PlainWidths width) {line next : Row} {col : Nat}

theorem nulAt_take {line : Row} {col stop : Nat} (inside : NulAt (line.take stop) col) :
    NulAt line col := by
  unfold NulAt at inside ⊢
  rw [getElem?_take] at inside
  split at inside
  · exact inside
  · simp at inside

include plain

theorem fillFrom_paired (paired : Paired width line) (clear : ¬ NulAt line col)
    (done : fillFrom line col Cell.blank = some next) : Paired width next := by
  obtain ⟨-, rfl⟩ := fillFrom_eq_some.mp done
  exact (paired.take plain clear).append plain (.blanks plain _)

theorem fillThrough_paired (paired : Paired width line) (clear : ¬ NulAt line (col + 1))
    (done : fillThrough line col Cell.blank = some next) : Paired width next := by
  obtain ⟨-, rfl⟩ := fillThrough_eq_some.mp done
  exact Paired.append plain (.blanks plain _) (paired.drop plain clear)

theorem resize_paired (paired : Paired width line) (clear : ¬ NulAt line col) :
    Paired width (resize line col Cell.blank) :=
  (paired.take plain clear).append plain (.blanks plain _)

omit plain in
/-- Deleting `count` characters closes the gap and fills the end with blanks. -/
theorem deleteCharacters_eq (col count : Nat) (line : Row) :
    repeatTimes (deleteCharacter col) count line =
      some (line.take col ++ line.drop (col + count) ++
        replicate (min count (line.length - col)) Cell.blank) := by
  induction count generalizing line with
  | zero => simp
  | succ count ih =>
    rw [repeatTimes_succ, deleteCharacter]
    split
    next inside =>
      have split : line.eraseIdx col ++ [Cell.blank] =
          line.take col ++ (line.drop (col + 1) ++ [Cell.blank]) := by
        rw [eraseIdx_eq_take_drop_succ, append_assoc]
      have front : (line.take col).length = col := by
        rw [length_take]
        omega
      have length : (line.eraseIdx col ++ [Cell.blank]).length = line.length := by
        rw [length_append, length_eraseIdx, if_pos inside, length_singleton]
        omega
      rw [remove_of_lt inside, Option.map_some, Option.bind_some, ih, length,
        split, take_left' front, drop_append, front, Nat.add_sub_cancel_left,
        drop_eq_nil_of_le (by omega), nil_append, append_assoc, append_assoc]
      congr 2
      by_cases short : count ≤ line.length - (col + 1)
      · rw [drop_append_of_le_length (by rw [length_drop]; exact short), drop_drop,
          Nat.min_eq_left (by omega), Nat.min_eq_left (by omega), append_assoc,
          Nat.add_assoc, Nat.add_comm 1 count]
        rfl
      · have emptied : (line.drop (col + 1) ++ [Cell.blank]).drop count = [] := by
          refine drop_eq_nil_of_le ?_
          rw [length_append, length_drop, length_singleton]
          omega
        have past : line.drop (col + (count + 1)) = [] := drop_eq_nil_of_le (by omega)
        rw [emptied, past, Nat.min_eq_right (by omega), Nat.min_eq_right (by omega)]
    next outside =>
      rw [Option.bind_some, ih, Nat.sub_eq_zero_of_le (by omega), Nat.min_zero,
        Nat.min_zero, drop_eq_nil_of_le (by omega), drop_eq_nil_of_le (by omega)]

theorem deleteCharacters_paired (paired : Paired width line) {count : Nat}
    (agree : NulAt line col ↔ NulAt line (col + count))
    (done : repeatTimes (deleteCharacter col) count line = some next) :
    Paired width next := by
  rw [deleteCharacters_eq] at done
  cases done
  exact (paired.close plain agree).append plain (.blanks plain _)

omit plain in
/-- Inserting `count` characters moves the rest of the row to the right and cuts it off at the
last column. -/
theorem insertCharacters_eq {cols : Nat} (col count : Nat) (line : Row)
    (lineWidth : line.length = cols) (bound : col ≤ cols) :
    repeatTimes (insertCharacter col cols) count line = some (line.take col ++
        (replicate count Cell.blank ++ line.drop col).take (cols - col)) := by
  have front (row : Row) (rowWidth : row.length = cols) : (row.take col).length = col := by
    rw [length_take, rowWidth, Nat.min_eq_left bound]
  induction count generalizing line with
  | zero =>
    have whole : (line.drop col).length ≤ cols - col :=
      Nat.le_of_eq (by rw [length_drop, lineWidth])
    rw [replicate_zero, nil_append, take_of_length_le whole, take_append_drop]
    rfl
  | succ count ih =>
    have once : insertCharacter col cols line =
        some (line.take col ++ (Cell.blank :: line.drop col).take (cols - col)) := by
      rw [insertCharacter, insert_of_le (by rw [lineWidth]; exact bound), Option.map_some,
        take_append, front line lineWidth,
        take_of_length_le (by rw [front line lineWidth]; exact bound)]
    have onceWidth :
        (line.take col ++ (Cell.blank :: line.drop col).take (cols - col)).length = cols := by
      rw [length_append, front line lineWidth, length_take, length_cons, length_drop, lineWidth]
      omega
    rw [repeatTimes_succ, once, Option.bind_some, ih _ onceWidth,
      take_left' (front line lineWidth), drop_left' (front line lineWidth)]
    congr 2
    rw [take_append, take_take, Nat.min_eq_left (Nat.sub_le _ _), ← take_append,
      replicate_succ', append_assoc]
    rfl

theorem insertCharacters_paired {cols count : Nat} (paired : Paired width line)
    (lineWidth : line.length = cols) (countPos : 1 ≤ count) (clear : ¬ NulAt line col)
    (clearEnd : ¬ NulAt line (max col (cols - count)))
    (done : repeatTimes (insertCharacter col cols) count line = some next) :
    Paired width next := by
  by_cases bound : col ≤ cols
  · rw [insertCharacters_eq col count line lineWidth bound] at done
    cases done
    refine (paired.take plain clear).append plain ?_
    rw [take_append, take_replicate, length_replicate]
    refine Paired.append plain (.blanks plain _) ?_
    have end' : (line.drop col).take (cols - col - count) =
        (line.take (max col (cols - count))).drop col := by
      rw [drop_take]
      congr 1
      omega
    rw [end']
    exact (paired.take plain clearEnd).drop plain fun cut => clear (nulAt_take cut)
  · obtain ⟨count, rfl⟩ : ∃ fewer, count = fewer + 1 := ⟨count - 1, by omega⟩
    have panics : insertCharacter col cols line = none := by
      rw [insertCharacter, Vec.insert, if_neg (by rw [lineWidth]; exact bound)]
      rfl
    simp [panics] at done

omit plain in
theorem eraseCells_eq {cols : Nat} (col count : Nat) (line : Row)
    (lineWidth : line.length = cols) (bound : col ≤ cols) :
    eraseCells col cols count line =
      some (line.take col ++ replicate (min count (cols - col)) Cell.blank ++
        line.drop (col + count)) := by
  induction count with
  | zero =>
    rw [Nat.zero_min, replicate_zero, append_nil, Nat.add_zero, take_append_drop]
    rfl
  | succ count ih =>
    rw [eraseCells, ih, Option.bind_eq_bind, Option.bind_some]
    split
    next inside =>
      have front : (line.take col ++ replicate count Cell.blank).length = col + count := by
        rw [length_append, length_take, length_replicate]
        omega
      have inRange : col + count < line.length := by rw [lineWidth]; exact inside
      have here : line.drop (col + count) = (line)[col + count] :: line.drop (col + count + 1) :=
        drop_eq_getElem_cons inRange
      rw [Nat.min_eq_left (by omega), Nat.min_eq_left (by omega), set_of_lt (by
        rw [length_append, front, length_drop]
        omega), set_append_right _ _ (Nat.le_of_eq front), front, Nat.sub_self, here,
        set_cons_zero, append_cons, replicate_succ', ← append_assoc]
      rfl
    next outside =>
      rw [Nat.min_eq_right (by omega), Nat.min_eq_right (by omega),
        drop_eq_nil_of_le (by omega), drop_eq_nil_of_le (by omega)]

theorem eraseCells_paired {cols count : Nat} (paired : Paired width line)
    (lineWidth : line.length = cols) (bound : col ≤ cols) (clear : ¬ NulAt line col)
    (clearEnd : ¬ NulAt line (col + count))
    (done : eraseCells col cols count line = some next) : Paired width next := by
  rw [eraseCells_eq col count line lineWidth bound] at done
  cases done
  exact ((paired.take plain clear).append plain (.blanks plain _)).append plain
    (paired.drop plain clearEnd)

/-! ### Storing a glyph -/

omit plain in
theorem nulAt_iff {line : Row} {cell : Cell} {col : Nat} (here : (line)[col]? = some cell) :
    NulAt line col ↔ cell.ch = nul := by
  simp [NulAt, here]

omit plain in
theorem wideAt_iff {line : Row} {cell : Cell} {col : Nat} (here : (line)[col]? = some cell) :
    WideAt width line col ↔ width cell.ch = some 2 := by
  simp [WideAt, here]

theorem not_nulAt_of_wideAt (wide : WideAt width line col) : ¬ NulAt line col := by
  intro mark
  cases here : (line)[col]? with
  | none => simp [NulAt, here] at mark
  | some cell =>
    rw [wideAt_iff here] at wide
    rw [nulAt_iff here] at mark
    exact plain.nul_narrow (mark ▸ wide)

/-- Clearing the orphaned half leaves two paired pieces, and no new wide glyph on the right. -/
structure ClearedAt (width : Char → Option Nat) (line cleared : Row) (col : Nat) : Prop where
  front : Paired width (cleared.take col)
  back : Paired width (cleared.drop (col + 1))
  length : cleared.length = line.length
  beside : WideAt width cleared (col + 1) → WideAt width line (col + 1)

section

variable (paired : Paired width line)
include paired

theorem cleared_left (bound : col < line.length) (mark : NulAt line col) (colPos : col > 0) :
    ClearedAt width line (line.set (col - 1) Cell.blank) col := by
  obtain ⟨before, rfl⟩ : ∃ before, col = before + 1 := ⟨col - 1, by omega⟩
  have glyph : WideAt width line before := (paired.pairs before).mpr mark
  have narrow : ¬ WideAt width line (before + 1) := fun wide =>
    not_nulAt_of_wideAt plain wide mark
  rw [Nat.add_sub_cancel]
  refine ⟨?_, ?_, length_set, ?_⟩
  · have stored : (line.set before Cell.blank).take (before + 1) =
        line.take before ++ [Cell.blank] := by
      rw [take_set, set_eq_take_append_cons_drop, if_pos (by rw [length_take]; omega),
        take_take, Nat.min_eq_left (Nat.le_succ _), drop_take, Nat.sub_self,
        take_zero]
    rw [stored]
    exact (paired.take plain (not_nulAt_of_wideAt plain glyph)).append plain
      (.blank plain (.nil plain))
  · rw [drop_set_of_lt (by omega)]
    exact paired.drop plain fun next => narrow ((paired.pairs _).mpr next)
  · unfold WideAt
    rw [getElem?_set_ne (by omega)]
    exact id

theorem cleared_right (glyph : WideAt width line col) (bound : col + 1 < line.length) :
    ClearedAt width line (line.set (col + 1) Cell.blank) col := by
  have mark : NulAt line (col + 1) := (paired.pairs col).mp glyph
  have narrow : ¬ WideAt width line (col + 1) := fun wide =>
    not_nulAt_of_wideAt plain wide mark
  refine ⟨?_, ?_, length_set, ?_⟩
  · rw [take_set_of_le (Nat.le_succ col)]
    exact paired.take plain (not_nulAt_of_wideAt plain glyph)
  · have stored : (line.set (col + 1) Cell.blank).drop (col + 1) =
        Cell.blank :: line.drop (col + 2) := by
      rw [drop_eq_getElem_cons (by rw [length_set]; exact bound), getElem_set_self,
        drop_set_of_lt (by omega)]
    rw [stored]
    exact .blank plain (paired.drop plain fun next => narrow ((paired.pairs _).mpr next))
  · intro wide
    rw [wideAt_iff (getElem?_set_self bound)] at wide
    exact absurd wide plain.blank

theorem cleared_none (mark : ¬ NulAt line col) (narrow : ¬ WideAt width line col) :
    ClearedAt width line line col :=
  ⟨paired.take plain mark, paired.drop plain fun next => narrow ((paired.pairs col).mpr next),
    rfl, id⟩

/-- Storing a glyph keeps the pairs when a wide one has a column left for its continuation that
holds no other wide glyph. -/
theorem putGlyph_paired {cols : Nat} {c : Char} {attrs : CellAttrs} (lineWidth : line.length = cols)
    (glyph : c ≠ nul) (fits : width c = some 2 → col + 1 < cols ∧ ¬ WideAt width line (col + 1))
    (done : putGlyph width cols c ((width c).getD 0) attrs col line = some next) :
    Paired width next := by
  obtain ⟨old, found, done⟩ := Option.bind_eq_some_iff.mp done
  obtain ⟨cell, here, rfl⟩ := Option.map_eq_some_iff.mp found
  have bound : col < line.length := (List.getElem?_eq_some_iff.mp here).1
  obtain ⟨one, oneDone, done⟩ := Option.bind_eq_some_iff.mp done
  obtain ⟨two, twoDone, done⟩ := Option.bind_eq_some_iff.mp done
  obtain ⟨three, threeDone, done⟩ := Option.bind_eq_some_iff.mp done
  have cleared : ClearedAt width line two col := by
    by_cases mark : NulAt line col
    · have isMark := (nulAt_iff here).mp mark
      have colPos : col > 0 := Nat.pos_of_ne_zero fun zero => paired.first (zero ▸ mark)
      rw [setIf, if_pos ⟨isMark, colPos⟩, set_of_lt (by omega)] at oneDone
      cases oneDone
      rw [setIf, if_neg fun wide => wide.1 isMark] at twoDone
      cases twoDone
      exact cleared_left plain paired bound mark colPos
    · rw [nulAt_iff here] at mark
      rw [setIf, if_neg fun left => mark left.1] at oneDone
      cases oneDone
      by_cases wide : width cell.ch = some 2
      · have glyphHere : WideAt width line col := (wideAt_iff here).mpr wide
        have inside : col + 1 < line.length := by
          by_contra outside
          exact not_nulAt_of_length_le (Nat.le_of_not_lt outside) ((paired.pairs col).mp glyphHere)
        have visible : cell.ch ≠ ' ' := fun blank => plain.blank (blank ▸ wide)
        rw [setIf, if_pos ⟨mark, visible, wide, lineWidth ▸ inside⟩, set_of_lt inside]
          at twoDone
        cases twoDone
        exact cleared_right plain paired glyphHere inside
      · rw [setIf, if_neg fun right => wide right.2.2.1] at twoDone
        cases twoDone
        exact cleared_none plain paired (fun here' => mark ((nulAt_iff here).mp here'))
          fun glyphHere => wide ((wideAt_iff here).mp glyphHere)
  have boundTwo : col < two.length := by rw [cleared.length]; exact bound
  rw [set_of_lt boundTwo, set_eq_take_append_cons_drop, if_pos boundTwo] at threeDone
  cases threeDone
  by_cases wide : width c = some 2
  · obtain ⟨inside, narrow⟩ := fits wide
    have insideTwo : col + 1 < two.length := by rw [cleared.length, lineWidth]; exact inside
    have frontLength : (two.take col).length = col := by
      rw [length_take]
      omega
    have rest : two.drop (col + 1) = two[col + 1] :: two.drop (col + 2) :=
      drop_eq_getElem_cons insideTwo
    have later : Paired width (two.drop (col + 2)) := by
      have next : Paired width ((two.drop (col + 1)).drop 1) := cleared.back.drop plain fun mark => by
        have beside := (cleared.back.pairs 0).mpr mark
        rw [rest, wideAt_cons_zero, ← wideAt_iff (getElem?_eq_getElem insideTwo)] at beside
        exact narrow (cleared.beside beside)
      rwa [drop_drop] at next
    rw [setIf, if_pos ⟨by simp [wide], inside⟩, set_of_lt (by
        rw [length_append, frontLength, length_cons, rest, length_cons]
        omega), set_append_right _ _ (by omega), frontLength, Nat.add_sub_cancel_left, rest,
      set_cons_succ, set_cons_zero] at done
    cases done
    exact cleared.front.append plain (.wide plain glyph wide rfl later)
  · have single : ¬ (width c).getD 0 = 2 := by
      intro two'
      cases columns : width c with
      | none => simp [columns] at two'
      | some count =>
        rw [columns, Option.getD_some] at two'
        exact wide (two' ▸ columns)
    rw [setIf, if_neg fun pair => single pair.1] at done
    cases done
    exact cleared.front.append plain (.narrow plain glyph wide cleared.back)

end

end Rows

/-! ### The pairs of a buffer and its history -/

def ScreenBuffer.Paired (width : Char → Option Nat) (buffer : ScreenBuffer) : Prop :=
  ∀ line ∈ buffer.cells, line.length = buffer.cols ∧ Screen.Paired width line

section Buffers

variable {width : Char → Option Nat} (plain : PlainWidths width) {buffer next : ScreenBuffer}

theorem pushScrollback_paired {scrollback : List Row} {line : Row}
    (hist : ∀ old ∈ scrollback, Paired width old) (new : Paired width line) :
    ∀ old ∈ pushScrollback scrollback line, Paired width old := by
  have pushed : ∀ old ∈ scrollback ++ [line], Paired width old := by
    intro old mem
    rcases mem_append.mp mem with kept | last
    · exact hist old kept
    · rw [mem_singleton.mp last]
      exact new
  intro old mem
  unfold pushScrollback at mem
  dsimp only at mem
  split at mem
  · exact pushed old (mem_of_mem_drop mem)
  · exact pushed old mem

include plain

theorem blankRow_paired (cols : Nat) :
    (blankRow cols).length = cols ∧ Paired width (blankRow cols) :=
  ⟨length_replicate, .blanks plain cols⟩

theorem ScreenBuffer.new_paired (cols rows : Nat) : (new cols rows).Paired width := by
  intro line mem
  rw [eq_of_mem_replicate mem]
  exact blankRow_paired plain cols

theorem ScreenBuffer.scrollUp_paired {scrollback hist : List Row}
    (paired : buffer.Paired width) (old : ∀ line ∈ scrollback, Screen.Paired width line)
    (done : buffer.scrollUp scrollback = some (next, hist)) :
    next.Paired width ∧ ∀ line ∈ hist, Screen.Paired width line := by
  obtain ⟨⟨top, rest⟩, removed, done⟩ := Option.bind_eq_some_iff.mp done
  obtain ⟨cells, ins, done⟩ := Option.bind_eq_some_iff.mp done
  cases done
  obtain ⟨topPaired, restPaired⟩ := remove_forall paired removed
  refine ⟨insert_forall restPaired (blankRow_paired plain _) ins, ?_⟩
  split
  · exact pushScrollback_paired old topPaired.2
  · exact old

theorem ScreenBuffer.scrollDown_paired (paired : buffer.Paired width)
    (done : buffer.scrollDown = some next) : next.Paired width := by
  obtain ⟨⟨bottom, rest⟩, removed, done⟩ := Option.bind_eq_some_iff.mp done
  obtain ⟨cells, ins, done⟩ := Option.bind_eq_some_iff.mp done
  cases done
  exact insert_forall (remove_forall paired removed).2 (blankRow_paired plain _) ins

end Buffers

namespace Performer

variable {width : Char → Option Nat} (plain : PlainWidths width) {p next : Performer}

/-- The pairs of the active buffer and of the history. -/
structure Paired (width : Char → Option Nat) (p : Performer) : Prop where
  screen : p.screen.Paired width
  history : ∀ line ∈ p.scrollback, Screen.Paired width line

theorem Paired.of_rows (paired : p.Paired width) (cells : next.screen.cells = p.screen.cells)
    (cols : next.screen.cols = p.screen.cols) (scrollback : next.scrollback = p.scrollback) :
    next.Paired width := by
  refine ⟨?_, scrollback ▸ paired.history⟩
  unfold ScreenBuffer.Paired
  rw [cells, cols]
  exact paired.screen

theorem mapCells_paired {change : List Row → Option (List Row)} (paired : p.Paired width)
    (changes : ∀ cells, change p.screen.cells = some cells →
      ∀ line ∈ cells, line.length = p.screen.cols ∧ Screen.Paired width line)
    (done : p.mapCells change = some next) : next.Paired width := by
  obtain ⟨cells, changed, rfl⟩ := Option.map_eq_some_iff.mp done
  exact ⟨changes cells changed, paired.history⟩

theorem updateRow_paired {row : Nat} {change : Row → Option Row} (paired : p.Paired width)
    (changes : ∀ line changed, p.screen.cells[row]? = some line → line.length = p.screen.cols →
      Screen.Paired width line → change line = some changed →
      changed.length = p.screen.cols ∧ Screen.Paired width changed)
    (done : p.mapCells (fun cells => update cells row change) = some next) :
    next.Paired width := by
  refine mapCells_paired paired (fun cells updated => ?_) done
  refine update_forall paired.screen (fun line changed held changedTo => ?_) updated
  obtain ⟨lineWidth, linePaired⟩ := paired.screen line (mem_of_getElem? held)
  exact changes line changed held lineWidth linePaired changedTo

include plain

section

variable (paired : p.Paired width)
include paired

theorem scrollUp_paired (done : p.scrollUp = some next) : next.Paired width := by
  obtain ⟨⟨screen, history⟩, scrolled, done⟩ := Option.bind_eq_some_iff.mp done
  cases done
  obtain ⟨screenPaired, historyPaired⟩ :=
    ScreenBuffer.scrollUp_paired plain paired.screen paired.history scrolled
  exact ⟨screenPaired, historyPaired⟩

theorem scrollDown_paired (done : p.scrollDown = some next) : next.Paired width := by
  obtain ⟨screen, scrolled, done⟩ := Option.bind_eq_some_iff.mp done
  cases done
  exact ⟨ScreenBuffer.scrollDown_paired plain paired.screen scrolled, paired.history⟩

theorem lineFeed_paired (done : p.lineFeed = some next) : next.Paired width := by
  unfold lineFeed at done
  dsimp only at done
  split at done
  · obtain ⟨⟨screen, history⟩, scrolled, done⟩ := Option.bind_eq_some_iff.mp done
    cases done
    have moved : ScreenBuffer.Paired width { p.screen with
        cursor := { p.screen.cursor with row := p.screen.scrollBottom } } := paired.screen
    obtain ⟨screenPaired, historyPaired⟩ :=
      ScreenBuffer.scrollUp_paired plain moved paired.history scrolled
    exact ⟨screenPaired, historyPaired⟩
  · cases done
    exact ⟨paired.screen, paired.history⟩

theorem execute_paired (byte : UInt8) (done : p.execute byte = some next) : next.Paired width := by
  unfold execute at done
  split at done
  case h_3 | h_4 | h_5 => exact lineFeed_paired plain paired done
  all_goals
    cases done
    exact ⟨paired.screen, paired.history⟩

end

/-! ### Printing -/

omit plain in
theorem printCombining_paired (plain : PlainWidths width) (paired : p.Paired width) (c : Char)
    (done : p.printCombining c = some next) : next.Paired width := by
  unfold printCombining at done
  dsimp only at done
  split at done
  · refine updateRow_paired paired (fun line changed _ lineWidth linePaired updated => ?_) done
    refine ⟨by rw [update_length updated, lineWidth], ?_⟩
    obtain ⟨prev, marked, here, markedEq, rfl⟩ := update_eq_some.mp updated
    obtain ⟨inside, rfl⟩ := List.getElem?_eq_some_iff.mp here
    have sameChar : marked.ch = (line)[p.screen.cursor.col - 1].ch := by
      rw [← Option.some.inj markedEq]
      split
      · unfold Cell.pushCombining
        split <;> rfl
      · rfl
    refine linePaired.congr ?_ plain
    have here' : (line.map Cell.ch)[p.screen.cursor.col - 1]? =
        some (line)[p.screen.cursor.col - 1].ch := by
      rw [getElem?_map, here, Option.map_some]
    rw [map_set, sameChar]
    refine ext_getElem? fun i => ?_
    rw [getElem?_set, length_map, if_pos inside, ← here']
    split
    next equal =>
      rw [equal]
    · rfl
  · cases done
    exact paired

/-- The cell at `row` and `col` holds a wide glyph. -/
def WideIn (width : Char → Option Nat) (cells : List Row) (row col : Nat) : Prop :=
  ∃ line, cells[row]? = some line ∧ WideAt width line col

/-- The screen has two columns at least, and the column that the continuation takes does not hold
another wide glyph. The glyph is stored at the cursor or, when it has only the last column left, at
the start of the next row. -/
def WideFits (width : Char → Option Nat) (p : Performer) : Prop :=
  p.screen.cols ≠ 0 → 2 ≤ p.screen.cols ∧
      if p.screen.cursor.col + 1 ≥ p.screen.cols then
        p.screen.cursor.row + 1 ≤ p.screen.scrollBottom →
          ¬ WideIn width p.screen.cells (p.screen.cursor.row + 1) 1
      else
        p.screen.cursor.row < p.screen.rows →
          ¬ WideIn width p.screen.cells p.screen.cursor.row (p.screen.cursor.col + 1)

omit plain in
/-- A line feed keeps the column and lands on a blank row or on the next one. -/
theorem lineFeed_lands (done : p.lineFeed = some next) :
    next.screen.cols = p.screen.cols ∧ next.screen.cursor.col = p.screen.cursor.col ∧
      ∀ line, next.screen.cells[next.screen.cursor.row]? = some line →
        line = blankRow p.screen.cols ∨ p.screen.cursor.row + 1 ≤ p.screen.scrollBottom ∧
            p.screen.cells[p.screen.cursor.row + 1]? = some line := by
  unfold lineFeed at done
  dsimp only at done
  split at done
  · obtain ⟨⟨screen, hist⟩, scrolled, done⟩ := Option.bind_eq_some_iff.mp done
    cases done
    obtain ⟨⟨top, rest⟩, removed, scrolled⟩ := Option.bind_eq_some_iff.mp scrolled
    obtain ⟨cells, ins, scrolled⟩ := Option.bind_eq_some_iff.mp scrolled
    cases scrolled
    obtain ⟨bound, rfl⟩ := insert_eq_some.mp ins
    refine ⟨rfl, rfl, fun line here => Or.inl ?_⟩
    have front : (rest.take p.screen.scrollBottom).length = p.screen.scrollBottom := by
      rw [length_take, Nat.min_eq_left bound]
    rw [getElem?_append_right (Nat.le_of_eq front), front, Nat.sub_self] at here
    exact (Option.some.inj here).symm
  next above =>
    cases done
    exact ⟨rfl, rfl, fun line here => Or.inr ⟨Nat.le_of_not_lt above, here⟩⟩

omit plain in
theorem wrapIf_cols {cond : Prop} [Decidable cond]
    (done : p.wrapIf cond = some next) : next.screen.cols = p.screen.cols := by
  unfold wrapIf at done
  split at done
  · exact (lineFeed_lands done).1
  · exact congrArg (·.screen.cols) (Option.some.inj done).symm

theorem wrap_fits (fits : p.screen.cursor.row + 1 ≤ p.screen.scrollBottom →
      ¬ WideIn width p.screen.cells (p.screen.cursor.row + 1) 1)
    (done : p.wrap = some next) :
    next.screen.cols = p.screen.cols ∧ next.screen.cursor.col = 0 ∧
      ¬ WideIn width next.screen.cells next.screen.cursor.row 1 := by
  obtain ⟨colsEq, colEq, lands⟩ := lineFeed_lands done
  refine ⟨colsEq, colEq, ?_⟩
  rintro ⟨line, here, wide⟩
  rcases lands line here with rfl | ⟨above, next'⟩
  · unfold WideAt blankRow at wide
    rw [getElem?_replicate] at wide
    have narrow : width Cell.blank.ch ≠ some 2 := plain.blank
    split at wide
    · exact narrow (by simpa using wide)
    · simp at wide
  · exact fits above ⟨line, next', wide⟩

theorem wrapIf_paired (paired : p.Paired width) (cond : Prop) [Decidable cond]
    (done : p.wrapIf cond = some next) : next.Paired width := by
  unfold wrapIf at done
  split at done
  · have moved : (p.mapCursor fun cursor => { cursor with col := 0 }).Paired width :=
      paired.of_rows rfl rfl rfl
    exact lineFeed_paired plain moved done
  · cases done
    exact paired

theorem drawGlyph_paired (paired : p.Paired width) {c : Char} (glyph : c ≠ nul)
    (fits : width c = some 2 → p.screen.cursor.row < p.screen.rows →
      p.screen.cursor.col < p.screen.cols →
      p.screen.cursor.col + 1 < p.screen.cols ∧
        ¬ WideIn width p.screen.cells p.screen.cursor.row (p.screen.cursor.col + 1))
    (done : p.drawGlyph width c ((width c).getD 0) = some next) : next.Paired width := by
  unfold drawGlyph at done
  dsimp only at done
  split at done
  next inside =>
    refine updateRow_paired paired (fun line changed here lineWidth linePaired stored => ?_) done
    refine ⟨of_total (putGlyph_total width c _ _ lineWidth inside.2) stored, ?_⟩
    refine putGlyph_paired plain linePaired lineWidth glyph (fun wide => ?_) stored
    obtain ⟨room, narrow⟩ := fits wide inside.1 inside.2
    exact ⟨room, fun beside => narrow ⟨line, here, beside⟩⟩
  · cases done
    exact paired

/-- Where a wide glyph lands after the wraps, its continuation has a column that does not hold
another wide glyph. -/
theorem wraps_fit (fits : p.WideFits width) {c : Char} (wide : width c = some 2)
    {one two : Performer} (first : p.wrapIf (p.screen.cursor.col ≥ p.screen.cols) = some one)
    (second : one.wrapIf ((width c).getD 0 = 2 ∧ one.screen.cursor.col + 1 ≥ one.screen.cols) =
      some two)
    (rowInside : two.screen.cursor.row < two.screen.rows)
    (colInside : two.screen.cursor.col < two.screen.cols) :
    two.screen.cursor.col + 1 < two.screen.cols ∧
      ¬ WideIn width two.screen.cells two.screen.cursor.row (two.screen.cursor.col + 1) := by
  have oneCols := wrapIf_cols first
  have twoCols := wrapIf_cols second
  obtain ⟨columns, clear⟩ := fits (by omega)
  have isWide : (width c).getD 0 = 2 := by simp [wide]
  by_cases full : p.screen.cursor.col ≥ p.screen.cols
  · rw [if_pos (Nat.le_succ_of_le full)] at clear
    rw [wrapIf, if_pos full] at first
    obtain ⟨-, oneCol, oneClear⟩ := wrap_fits plain clear first
    rw [wrapIf, if_neg fun last => by omega] at second
    cases second
    rw [oneCol]
    exact ⟨by omega, oneClear⟩
  · rw [wrapIf, if_neg full] at first
    cases first
    by_cases last : p.screen.cursor.col + 1 ≥ p.screen.cols
    · rw [if_pos last] at clear
      rw [wrapIf, if_pos ⟨isWide, last⟩] at second
      obtain ⟨-, twoCol, twoClear⟩ := wrap_fits plain clear second
      rw [twoCol]
      exact ⟨by omega, twoClear⟩
    · rw [if_neg last] at clear
      rw [wrapIf, if_neg fun both => last both.2] at second
      cases second
      exact ⟨Nat.lt_of_not_le last, clear rowInside⟩

theorem printGlyph_paired (paired : p.Paired width) {c : Char} (glyph : c ≠ nul)
    (fits : width c = some 2 → p.WideFits width)
    (done : p.printGlyph width c ((width c).getD 0) = some next) : next.Paired width := by
  obtain ⟨one, first, done⟩ := Option.bind_eq_some_iff.mp done
  obtain ⟨two, second, done⟩ := Option.bind_eq_some_iff.mp done
  obtain ⟨three, drawn, done⟩ := Option.bind_eq_some_iff.mp done
  cases done
  have twoPaired := wrapIf_paired plain (wrapIf_paired plain paired _ first) _ second
  have threePaired := drawGlyph_paired plain twoPaired glyph
    (fun wide => wraps_fit plain (fits wide) wide first second) drawn
  exact threePaired.of_rows rfl rfl rfl

theorem print_paired (paired : p.Paired width) {c : Char}
    (fits : width c = some 2 → p.WideFits width) (done : p.print width c = some next) :
    next.Paired width := by
  unfold print at done
  dsimp only at done
  split at done
  · exact printCombining_paired plain paired c done
  next visible =>
    have glyph : c ≠ nul := by
      rintro rfl
      exact visible plain.continuation
    exact printGlyph_paired plain paired glyph fits done

/-! ### Control functions -/

/-- The column does not cut a glyph of the row in two. -/
def ClearIn (cells : List Row) (row col : Nat) : Prop :=
  ∀ line, cells[row]? = some line → ¬ NulAt line col

/-- The column at which the erased part starts or ends does not cut a glyph in two. -/
def EraseClear (p : Performer) (selector : Nat) : Prop :=
  match selector with
  | 0 => ClearIn p.screen.cells p.screen.cursor.row p.screen.cursor.col
  | 1 =>
      ClearIn p.screen.cells p.screen.cursor.row
        (min p.screen.cursor.col (p.screen.cols - 1) + 1)
  | _ => True

/-- The condition on a control function. Deleting characters closes a gap, so its two ends must
agree on whether they cut a glyph in two; inserting and erasing characters put blanks at both ends.
-/
def ControlKeepsPairs (p : Performer) (function : ControlFunction) (p0 : Nat) : Prop :=
  let row := p.screen.cursor.row
  let col := p.screen.cursor.col
  match function with
  | .eraseDisplay | .eraseLine => p.EraseClear p0
  | .deleteCharacters =>
      ∀ line, p.screen.cells[row]? = some line → (NulAt line col ↔ NulAt line (col + orOne p0))
  | .insertCharacters =>
      ClearIn p.screen.cells row col ∧
        ClearIn p.screen.cells row (max col (p.screen.cols - orOne p0))
  | .eraseCharacters =>
      col < p.screen.cols →
        ClearIn p.screen.cells row col ∧ ClearIn p.screen.cells row (col + orOne p0)
  | _ => True

omit plain in
theorem eraseRows_forall {property : Row → Prop} {cells erased : List Row} {start stop : Nat}
    (all : ∀ line ∈ cells, property line) (blank : ∀ line ∈ cells, property (eraseRow line))
    (done : eraseRows cells start stop = some erased) : ∀ line ∈ erased, property line := by
  unfold eraseRows at done
  split at done
  · cases done
    exact all
  · split at done
    · cases done
      intro line mem
      rcases mem_append.mp mem with front | back
      · rcases mem_append.mp front with kept | middle
        · exact all line (mem_of_mem_take kept)
        · obtain ⟨old, oldMember, rfl⟩ := mem_map.mp middle
          exact blank old (mem_of_mem_take (mem_of_mem_drop oldMember))
      · exact all line (mem_of_mem_drop back)
    · simp at done

omit plain in
theorem eraseRows_getElem? {cells erased : List Row} {start stop row : Nat}
    (done : eraseRows cells start stop = some erased) (below : stop ≤ row) :
    erased[row]? = cells[row]? := by
  unfold eraseRows at done
  split at done
  · cases done
    rfl
  · split at done
    · cases done
      have front : (cells.take start ++ ((cells.take stop).drop start).map eraseRow).length =
          stop := by
        simp only [length_append, length_take, length_map, length_drop]
        omega
      rw [getElem?_append_right (by omega), front, getElem?_drop, Nat.add_sub_cancel' below]
    · simp at done

theorem eraseRow_paired {cols : Nat} {line : Row} (lineWidth : line.length = cols) :
    (eraseRow line).length = cols ∧ Screen.Paired width (eraseRow line) :=
  ⟨by rw [eraseRow_length, lineWidth], .blanks plain _⟩

theorem fillFromRow_paired {cols col : Nat} {line changed : Row} (lineWidth : line.length = cols)
    (linePaired : Screen.Paired width line) (clear : ¬ NulAt line col)
    (filled : fillFrom line col Cell.blank = some changed) :
    changed.length = cols ∧ Screen.Paired width changed :=
  ⟨by rw [fillFrom_length filled, lineWidth], fillFrom_paired plain linePaired clear filled⟩

theorem fillThroughRow_paired {cols col : Nat} {line changed : Row}
    (lineWidth : line.length = cols) (linePaired : Screen.Paired width line)
    (clear : ¬ NulAt line (col + 1))
    (filled : fillThrough line col Cell.blank = some changed) :
    changed.length = cols ∧ Screen.Paired width changed :=
  ⟨by rw [fillThrough_length filled, lineWidth], fillThrough_paired plain linePaired clear filled⟩

theorem eraseLine_paired (paired : p.Paired width) {selector : Nat}
    (clear : p.EraseClear selector) (done : p.eraseLine selector = some next) :
    next.Paired width := by
  unfold eraseLine at done
  dsimp only at done
  split at done
  · refine updateRow_paired paired (fun line changed here lineWidth linePaired filled => ?_) done
    exact fillFromRow_paired plain lineWidth linePaired (clear line here) filled
  · refine updateRow_paired paired (fun line changed here lineWidth linePaired filled => ?_) done
    exact fillThroughRow_paired plain lineWidth linePaired (clear line here) filled
  · refine updateRow_paired paired (fun line changed here lineWidth linePaired erased => ?_) done
    rw [← Option.some.inj erased]
    exact eraseRow_paired plain lineWidth
  · cases done
    exact paired

theorem eraseDisplay_paired (paired : p.Paired width) {selector : Nat}
    (clear : p.EraseClear selector) (done : p.eraseDisplay selector = some next) :
    next.Paired width := by
  unfold eraseDisplay at done
  dsimp only at done
  have allErased (cells : List Row)
      (all : ∀ line ∈ cells, line.length = p.screen.cols ∧ Screen.Paired width line) :
      ∀ line ∈ cells, (eraseRow line).length = p.screen.cols ∧
        Screen.Paired width (eraseRow line) :=
    fun line mem => eraseRow_paired plain (all line mem).1
  split at done
  · refine mapCells_paired paired (fun cells changed => ?_) done
    obtain ⟨middle, updated, erased⟩ := Option.bind_eq_some_iff.mp changed
    have middlePaired := update_forall paired.screen (fun line filledLine here filled => by
      obtain ⟨lineWidth, linePaired⟩ := paired.screen line (mem_of_getElem? here)
      exact fillFromRow_paired plain lineWidth linePaired (clear line here) filled) updated
    exact eraseRows_forall middlePaired (allErased middle middlePaired) erased
  · refine mapCells_paired paired (fun cells changed => ?_) done
    obtain ⟨middle, erased, updated⟩ := Option.bind_eq_some_iff.mp changed
    have middlePaired := eraseRows_forall paired.screen (allErased _ paired.screen) erased
    refine update_forall middlePaired (fun line filledLine here filled => ?_) updated
    obtain ⟨lineWidth, linePaired⟩ := middlePaired line (mem_of_getElem? here)
    rw [eraseRows_getElem? erased (Nat.le_refl _)] at here
    exact fillThroughRow_paired plain lineWidth linePaired (clear line here) filled
  all_goals first
    | refine mapCells_paired paired (fun cells changed => ?_) done
      rw [← Option.some.inj changed]
      intro line mem
      obtain ⟨old, oldMember, rfl⟩ := mem_map.mp mem
      exact allErased _ paired.screen old oldMember
    | obtain rfl := Option.some.inj done
      exact paired

theorem removeInsert_paired {source target cols : Nat} {cells changed : List Row}
    (all : ∀ line ∈ cells, line.length = cols ∧ Screen.Paired width line)
    (done : (do
      let rest ←
        if source < cells.length then (remove cells source).map Prod.snd else some cells
      insert rest target (blankRow cols)) = some changed) :
    ∀ line ∈ changed, line.length = cols ∧ Screen.Paired width line := by
  split at done
  · obtain ⟨rest, removed, ins⟩ := Option.bind_eq_some_iff.mp done
    obtain ⟨⟨gone, left⟩, taken, rfl⟩ := Option.map_eq_some_iff.mp removed
    exact insert_forall (remove_forall all taken).2 (blankRow_paired plain cols) ins
  · exact insert_forall all (blankRow_paired plain cols) done

omit plain in
theorem insertCharacters_length {cols col count : Nat} {line changed : Row}
    (lineWidth : line.length = cols)
    (done : repeatTimes (insertCharacter col cols) count line = some changed) :
    changed.length = cols := by
  have once (row next : Row) (rowWidth : row.length = cols)
      (taken : insertCharacter col cols row = some next) : next.length = cols := by
    obtain ⟨ins, insertedEq, rfl⟩ := Option.map_eq_some_iff.mp taken
    rw [length_take, insert_length insertedEq, rowWidth]
    omega
  exact repeatTimes_invariant once lineWidth done

theorem control_paired (paired : p.Paired width) {function : ControlFunction}
    {params : List (List UInt16)} {p0 p1 : Nat} (clear : p.ControlKeepsPairs function p0)
    (done : p.control function params p0 p1 = some next) : next.Paired width := by
  have countPos : 1 ≤ orOne p0 := by
    unfold orOne
    split <;> omega
  cases function with
  | eraseDisplay => exact eraseDisplay_paired plain paired clear done
  | eraseLine => exact eraseLine_paired plain paired clear done
  | insertLines | deleteLines =>
    refine mapCells_paired paired (fun cells changed => ?_) done
    exact repeatTimes_invariant
      (fun rows next all once => removeInsert_paired plain all once) paired.screen changed
  | deleteCharacters =>
    refine updateRow_paired paired (fun line changed here lineWidth linePaired deleted => ?_) done
    refine ⟨?_, deleteCharacters_paired plain linePaired (clear line here) deleted⟩
    exact of_total (repeatTimes_total (length · = p.screen.cols)
      (fun _ => deleteCharacter_total) _ lineWidth) deleted
  | insertCharacters =>
    refine updateRow_paired paired (fun line changed here lineWidth linePaired ins => ?_) done
    exact ⟨insertCharacters_length lineWidth ins,
      insertCharacters_paired plain linePaired lineWidth countPos (clear.1 line here)
        (clear.2 line here) ins⟩
  | eraseCharacters =>
    simp only [control] at done
    split at done
    next inside =>
      obtain ⟨start, stop⟩ := clear inside
      refine updateRow_paired paired (fun line changed here lineWidth linePaired erased => ?_) done
      exact ⟨of_total (eraseCells_total _ lineWidth) erased,
        eraseCells_paired plain linePaired lineWidth (Nat.le_of_lt inside) (start line here)
          (stop line here) erased⟩
    · cases done
      exact paired
  | scrollUp =>
    exact repeatTimes_invariant
      (fun state after kept once => scrollUp_paired plain kept once) paired done
  | scrollDown =>
    exact repeatTimes_invariant
      (fun state after kept once => scrollDown_paired plain kept once) paired done
  | cursorUp | cursorDown | cursorForward | cursorBack | cursorPosition | setScrollRegion
  | linePosition | cursorColumn | graphicRendition =>
    cases done
    exact paired.of_rows rfl rfl rfl

omit plain in
theorem Paired.of_untouched (paired : p.Paired width) (untouched : p.Untouched next) :
    next.Paired width :=
  paired.of_rows (by rw [untouched.screen]) (by rw [untouched.screen]) untouched.scrollback

/-- The condition on a control sequence: the control function that it selects keeps the pairs. -/
def CsiKeepsPairs (p : Performer) (params : List (List UInt16)) (intermediates : List UInt8)
    (action : Char) : Prop :=
  intermediates = [] → ∀ function, ControlFunction.ofFinal action = some function →
    p.ControlKeepsPairs function ((params.flatten.map UInt16.toNat)[0]?.getD 0)

theorem csiDispatch_paired (paired : p.Paired width) {params : List (List UInt16)}
    {inter : List UInt8} {action : Char}
    (clear : p.CsiKeepsPairs params inter action)
    (done : p.csiDispatch params inter action = some next) : next.Paired width := by
  have same {other : Performer} (untouched : p.Untouched other) (equal : some other = some next) :
      next.Paired width := by
    cases equal
    exact paired.of_untouched untouched
  unfold csiDispatch at done
  dsimp only at done
  split at done
  · split at done
    · exact same (foldl_untouched setMode_untouched _ p) done
    · exact same (foldl_untouched resetMode_untouched _ p) done
    · exact same (.refl p) done
  · split at done
    · cases done
      exact paired.of_untouched ⟨rfl, rfl, rfl, rfl⟩
    · split at done
      · exact same (.refl p) done
      next empty =>
        rw [not_not] at empty
        split at done
        next function final =>
          exact control_paired plain paired (clear empty function final) done
        · exact same (.refl p) done

theorem escDispatch_paired (paired : p.Paired width) {inter : List UInt8} {byte : UInt8}
    (done : p.escDispatch inter byte = some next) : next.Paired width := by
  unfold escDispatch at done
  split at done
  · cases done
    exact paired.of_rows rfl rfl rfl
  · split at done
    · cases done
      unfold restoreCursor
      split
      · exact paired.of_rows rfl rfl rfl
      · exact paired
    · split at done
      · unfold reverseIndex at done
        split at done
        · exact scrollDown_paired plain paired done
        · split at done
          all_goals
            cases done
            exact paired.of_rows rfl rfl rfl
      · split at done
        all_goals
          cases done
          exact paired.of_rows rfl rfl rfl

end Performer

/-! ### One callback -/

/-- The condition under which a callback keeps the pairs. -/
def Callback.KeepsPairs (width : Char → Option Nat) (p : Performer) : Callback → Prop
  | .print c => width c = some 2 → p.WideFits width
  | .csiDispatch params intermediates _ action => p.CsiKeepsPairs params intermediates action
  | _ => True

theorem perform_paired {width : Char → Option Nat} (plain : PlainWidths width)
    {p next : Performer} (paired : p.Paired width) {cb : Callback}
    (keeps : cb.KeepsPairs width p) (done : p.perform width cb = some next) :
    next.Paired width := by
  cases cb with
  | print c => exact Performer.print_paired plain paired keeps done
  | execute byte => exact Performer.execute_paired plain paired byte done
  | hook | put | unhook =>
    cases done
    exact paired
  | oscDispatch params bellTerminated =>
    have segment : params ≠ [] := by
      rintro rfl
      simp [Performer.perform, Performer.oscDispatch] at done
    have silent := of_total (Performer.oscDispatch_silent p segment) done
    exact paired.of_untouched silent.toUntouched
  | csiDispatch params inter ignore action =>
    exact Performer.csiDispatch_paired plain paired keeps done
  | escDispatch inter ignore byte =>
    exact Performer.escDispatch_paired plain paired done

/-! ### Resizing -/

/-- The rows that a resize moves out at the top, after the blank rows below the cursor have been
trimmed. -/
def ScreenBuffer.rowsMovedOut (buffer : ScreenBuffer) (rows : Nat) : Nat :=
  (trimBlankRows buffer.cursor.row (buffer.cells.length - rows) buffer.cells).2

/-- The condition on resizing a buffer: the new last column does not cut a glyph in two in a row
that stays. -/
def ScreenBuffer.ResizeClear (buffer : ScreenBuffer) (cols rows : Nat) : Prop :=
  ∀ line ∈ buffer.cells.drop (buffer.rowsMovedOut rows), ¬ NulAt line cols

namespace ScreenBuffer

variable {width : Char → Option Nat} (plain : PlainWidths width) {buffer next : ScreenBuffer}

theorem foldl_pushScrollback_paired {moved hist : List Row}
    (movedPaired : ∀ line ∈ moved, Screen.Paired width line)
    (old : ∀ line ∈ hist, Screen.Paired width line) :
    ∀ line ∈ moved.foldl pushScrollback hist, Screen.Paired width line := by
  induction moved generalizing hist with
  | nil => exact old
  | cons first rest ih =>
    rw [forall_mem_cons] at movedPaired
    exact ih movedPaired.2 (pushScrollback_paired old movedPaired.1)

/-- A row after the row phase of a resize is an old one that stays, or a new blank one. -/
theorem resizeRows_paired {cols rows cursorRow : Nat} {scrollback : Option (List Row)}
    {cells : List Row} {hist : Option (List Row)} {property : Row → Prop}
    (stays : ∀ line ∈ buffer.cells.drop (buffer.rowsMovedOut rows), property line)
    (blank : property (blankRow cols))
    (moved : ∀ line ∈ buffer.cells, Screen.Paired width line)
    (old : ∀ lines, scrollback = some lines → ∀ line ∈ lines, Screen.Paired width line)
    (done : buffer.resizeRows cols rows scrollback = some (cells, hist, cursorRow)) :
    (∀ line ∈ cells, property line) ∧
      ∀ lines, hist = some lines → ∀ line ∈ lines, Screen.Paired width line := by
  unfold resizeRows at done
  dsimp only at done
  unfold rowsMovedOut at stays
  obtain ⟨trimmed, bound, trimEq, -⟩ :=
    trimBlankRows_eq buffer.cursor.row (buffer.cells.length - rows) buffer.cells
  rw [trimEq] at done stays
  dsimp only at done stays
  have stayAll (small : ¬ rows < buffer.cells.length) : ∀ line ∈ buffer.cells, property line := by
    rw [Nat.sub_eq_zero_of_le (by omega), drop_zero] at stays
    exact stays
  split at done
  · rw [popTopRows_eq _ _ _ _ (by rw [length_take]; omega)] at done
    obtain ⟨rfl, rfl, -⟩ := by simpa only [Option.some.injEq, Prod.mk.injEq] using done
    constructor
    · intro line mem
      rw [drop_take] at mem
      exact stays line (mem_of_mem_take mem)
    · intro lines held
      obtain ⟨before, beforeEq, rfl⟩ := Option.map_eq_some_iff.mp held
      exact foldl_pushScrollback_paired
        (fun line mem => moved line (mem_of_mem_take (mem_of_mem_take mem)))
        (old before beforeEq)
  next small =>
    split at done
    · obtain ⟨rfl, rfl, -⟩ := by simpa only [Option.some.injEq, Prod.mk.injEq] using done
      exact ⟨resize_forall (stayAll small) blank, old⟩
    · obtain ⟨rfl, rfl, -⟩ := by simpa only [Option.some.injEq, Prod.mk.injEq] using done
      exact ⟨stayAll small, old⟩

theorem Paired.firstWidth (paired : buffer.Paired width) {line : Row} (mem : line ∈ buffer.cells) :
    (buffer.cells.head?.map length).getD 0 = line.length := by
  cases rowsEq : buffer.cells with
  | nil => simp [rowsEq] at mem
  | cons first rest =>
    have firstWidth := (paired first (by rw [rowsEq]; exact mem_cons_self)).1
    rw [head?_cons, Option.map_some, Option.getD_some, firstWidth, (paired line mem).1]

include plain

theorem resize_paired {cols rows : Nat} {scrollback hist : Option (List Row)}
    (paired : buffer.Paired width) (clear : buffer.ResizeClear cols rows)
    (old : ∀ lines, scrollback = some lines → ∀ line ∈ lines, Screen.Paired width line)
    (done : buffer.resize cols rows scrollback = some (next, hist)) :
    next.Paired width ∧ ∀ lines, hist = some lines → ∀ line ∈ lines, Screen.Paired width line := by
  obtain ⟨⟨cells, moved, cursorRow⟩, rowsDone, done⟩ := Option.bind_eq_some_iff.mp done
  cases done
  have newRow : (blankRow cols).length = cols := length_replicate
  have stays (line : Row) (mem : line ∈ buffer.cells.drop (buffer.rowsMovedOut rows)) :
      (line.length = (buffer.cells.head?.map length).getD 0 ∨ line.length = cols) ∧
        Screen.Paired width line ∧ ¬ NulAt line cols := by
    have inside := mem_of_mem_drop mem
    exact ⟨Or.inl (Paired.firstWidth paired inside).symm, (paired line inside).2, clear line mem⟩
  obtain ⟨rowsPaired, historyPaired⟩ := resizeRows_paired stays
    ⟨Or.inr newRow, (blankRow_paired plain cols).2, not_nulAt_of_length_le (Nat.le_of_eq newRow)⟩
    (fun line mem => (paired line mem).2) old rowsDone
  refine ⟨?_, historyPaired⟩
  show ∀ line ∈ resizeCols cells _ cols, line.length = cols ∧ _
  unfold resizeCols
  split
  · intro line mem
    obtain ⟨before, beforeMember, rfl⟩ := mem_map.mp mem
    obtain ⟨-, linePaired, lineClear⟩ := rowsPaired before beforeMember
    exact ⟨resize_length _ _ _, Screen.resize_paired plain linePaired lineClear⟩
  next same =>
    rw [not_not] at same
    intro line mem
    obtain ⟨lineWidth, linePaired, -⟩ := rowsPaired line mem
    rw [← same, or_self] at lineWidth
    exact ⟨lineWidth, linePaired⟩

end ScreenBuffer

/-! ### The whole screen -/

namespace VirtualScreen

variable {Parser : Type} {width : Char → Option Nat} {vs : VirtualScreen Parser}

/-- In both buffers and in the history, continuations occur exactly on the right of wide
glyphs. -/
structure Paired (width : Char → Option Nat) (vs : VirtualScreen Parser) : Prop where
  primary : vs.primary.Paired width
  alternate : vs.alternate.Paired width
  history : ∀ line ∈ vs.scrollback, Screen.Paired width line

theorem Paired.performer (paired : vs.Paired width) : vs.performer.Paired width := by
  refine ⟨?_, paired.history⟩
  show vs.active.Paired width
  unfold active
  split
  · exact paired.alternate
  · exact paired.primary

theorem Paired.giveBack (paired : vs.Paired width) {p : Performer} (kept : p.Paired width) :
    (vs.giveBack p).Paired width := by
  refine ⟨?_, ?_, kept.history⟩
  · show (if vs.usingAlternate then vs.primary else p.screen).Paired width
    split
    · exact paired.primary
    · exact kept.screen
  · show (if vs.usingAlternate then p.screen else vs.alternate).Paired width
    split
    · exact kept.screen
    · exact paired.alternate

variable (plain : PlainWidths width)
include plain

theorem new_paired (parser : Parser) (cols rows : Nat) : (new parser cols rows).Paired width :=
  ⟨ScreenBuffer.new_paired plain cols rows, ScreenBuffer.new_paired plain cols rows, nofun⟩

theorem Paired.switch (paired : vs.Paired width) (req : Option Bool) :
    (vs.switch req).Paired width := by
  unfold VirtualScreen.switch
  split
  · split
    · exact paired
    · exact ⟨paired.primary, ScreenBuffer.new_paired plain vs.cols vs.rows, paired.history⟩
  · split
    · refine ⟨?_, paired.alternate, paired.history⟩
      unfold leaveAlternate
      dsimp only
      split <;> exact paired.primary
    · exact paired
  · exact paired

theorem Paired.perform {next : VirtualScreen Parser} {cbs : List Callback}
    (paired : vs.Paired width)
    (keeps : Meets (Performer.perform width)
      (fun p cb => cb.KeepsPairs width p) vs.performer cbs)
    (done : vs.perform width cbs = some next) : next.Paired width := by
  obtain ⟨p, reached, rfl⟩ := Option.map_eq_some_iff.mp done
  have kept := run_invariant
    (fun _ _ _ before holds taken => perform_paired plain before holds taken) paired.performer
    keeps reached
  exact (paired.giveBack kept).switch plain _

/-- The condition on resizing the screen: the new last column does not cut a glyph of either
buffer in two. -/
def ResizeKeepsPairs (vs : VirtualScreen Parser) (cols rows : Nat) : Prop :=
  vs.primary.ResizeClear cols rows ∧ vs.alternate.ResizeClear cols rows

theorem Paired.resize {next : VirtualScreen Parser} {cols rows : Nat} (paired : vs.Paired width)
    (clear : vs.ResizeKeepsPairs cols rows) (done : vs.resize cols rows = some next) :
    next.Paired width := by
  obtain ⟨⟨primary, history⟩, primaryDone, done⟩ := Option.bind_eq_some_iff.mp done
  obtain ⟨⟨alternate, none'⟩, alternateDone, done⟩ := Option.bind_eq_some_iff.mp done
  cases done
  obtain ⟨primaryPaired, historyPaired⟩ :=
    ScreenBuffer.resize_paired plain paired.primary clear.1
      (fun lines equal => Option.some.inj equal ▸ paired.history) primaryDone
  obtain ⟨alternatePaired, -⟩ :=
    ScreenBuffer.resize_paired plain paired.alternate clear.2 (fun lines equal => by simp at equal)
      alternateDone
  refine ⟨primaryPaired, alternatePaired, ?_⟩
  show ∀ line ∈ history.getD vs.scrollback, Screen.Paired width line
  cases history with
  | none => exact paired.history
  | some lines => exact historyPaired lines rfl

end VirtualScreen

/-! ### Runs -/

section

variable (vte : Vte) (width : Char → Option Nat)

/-- The condition on a byte: each of its callbacks keeps the pairs. -/
def FeedByteKeepsPairs (vs : VirtualScreen vte.Parser) (byte : UInt8) : Prop :=
  let (parser, callbacks) := vte.advance vs.parser byte
  Fallible.Meets (Performer.perform width) (fun p callback => callback.KeepsPairs width p)
    { vs with parser }.performer callbacks

def CallKeepsPairs (vs : VirtualScreen vte.Parser) : ScreenCall → Prop
  | .feed data =>
      Fallible.Meets (VirtualScreen.feedByte vte width) (FeedByteKeepsPairs vte width)
        (vs.collectOutput data) data
  | .resize cols rows => vs.ResizeKeepsPairs cols rows

variable {vte} {width}

theorem collectOutput_paired {vs : VirtualScreen vte.Parser} (paired : vs.Paired width)
    (data : List UInt8) : (vs.collectOutput data).Paired width := by
  unfold VirtualScreen.collectOutput
  split
  · exact paired
  · exact ⟨paired.primary, paired.alternate, paired.history⟩

variable (plain : PlainWidths width)
include plain

variable {vs next : VirtualScreen vte.Parser}

theorem feedByte_paired (paired : vs.Paired width)
    {byte : UInt8} (keeps : FeedByteKeepsPairs vte width vs byte)
    (done : vs.feedByte vte width byte = some next) : next.Paired width :=
  have advanced : { vs with parser := (vte.advance vs.parser byte).1 }.Paired width :=
    ⟨paired.primary, paired.alternate, paired.history⟩
  advanced.perform plain keeps done

theorem call_paired (paired : vs.Paired width)
    {call : ScreenCall} (keeps : CallKeepsPairs vte width vs call)
    (done : vs.call vte width call = some next) : next.Paired width := by
  cases call with
  | feed data =>
    exact run_invariant
      (fun _ _ _ before holds taken => feedByte_paired plain before holds taken)
      (collectOutput_paired paired data) keeps done
  | resize cols rows => exact paired.resize plain keeps done

end

/-- In a run whose steps all meet the condition, every state reached has continuations exactly on
the right of wide glyphs, in both buffers and in the history. -/
theorem run_keeps_pairs (vte : Vte) (width : Char → Option Nat) (plain : PlainWidths width)
    {cols rows : Nat} {calls : List ScreenCall}
    (keeps : Fallible.Meets (VirtualScreen.call vte width) (CallKeepsPairs vte width)
      (.new vte.new cols rows) calls)
    {first rest : List ScreenCall} (split : calls = first ++ rest)
    {vs : VirtualScreen vte.Parser}
    (reached : Fallible.run (VirtualScreen.call vte width) (.new vte.new cols rows) first =
      some vs) : vs.Paired width := by
  subst split
  exact run_invariant
    (fun _ _ _ before holds taken => call_paired plain before holds taken)
    (VirtualScreen.new_paired plain vte.new cols rows)
    ((meets_append _ first rest).mp keeps).1 reached

theorem smallWidth_plain : PlainWidths smallWidth :=
  ⟨by decide, by decide⟩

/-- A wide glyph and a narrow one printed one after the other are well paired. -/
theorem run_keeps_pairs_printed :
    ∃ vs, Fallible.run (VirtualScreen.call smallVte smallWidth) (.new smallVte.new 4 1)
        [.feed (textBytes "中x".toList)] = some vs ∧ vs.Paired smallWidth := by
  have run : (Fallible.run (VirtualScreen.call smallVte smallWidth) (.new smallVte.new 4 1)
      [.feed (textBytes "中x".toList)]).isSome = true := by decide +kernel
  obtain ⟨vs, reached⟩ := Option.isSome_iff_exists.mp run
  refine ⟨vs, reached, ?_⟩
  refine run_keeps_pairs smallVte smallWidth smallWidth_plain ?_ (append_nil _).symm reached
  have narrow : smallWidth 'x' ≠ some 2 := by decide
  refine ⟨?_, fun _ _ => trivial⟩
  refine meets_cons_of_some trivial rfl ?_
  refine meets_cons_of_some trivial rfl ?_
  refine meets_cons_of_some ⟨fun _ _ => ⟨by decide, ?_⟩, fun _ _ => trivial⟩ rfl ?_
  · rintro - ⟨line, here, wide⟩
    cases here
    revert wide
    decide
  · exact meets_cons_of_some ⟨fun wide => absurd wide narrow, fun _ _ => trivial⟩ rfl
      trivial

/-- The characters of the primary screen after a run from a screen of four columns and one
row. -/
def printedChars (text : String) : Option (List (List Char)) :=
  (Fallible.run (VirtualScreen.call smallVte smallWidth) (.new smallVte.new 4 1)
    [.feed (textBytes text.toList)]).map fun vs => vs.primary.cells.map (·.map Cell.ch)

theorem not_paired_of_chars {text : String} {line : List Char}
    (chars : printedChars text = some [line])
    (rejected : run (pairStep smallWidth) false line ≠ some false) :
    ∃ vs, run (VirtualScreen.call smallVte smallWidth) (.new smallVte.new 4 1)
      [.feed (textBytes text.toList)] = some vs ∧ ¬ vs.Paired smallWidth := by
  obtain ⟨vs, reached, cells⟩ := Option.map_eq_some_iff.mp chars
  refine ⟨vs, reached, fun paired => rejected ?_⟩
  have mem : line ∈ vs.primary.cells.map (·.map Cell.ch) := by
    rw [cells]
    exact mem_singleton_self line
  obtain ⟨row, rowMember, rfl⟩ := mem_map.mp mem
  exact (paired_iff_scan smallWidth_plain row).mp (paired.primary row rowMember).2

/-- A wide glyph stored on the left of another one orphans its continuation, and erasing from the
right half of a glyph leaves the glyph without one. -/
theorem wide_over_wide_and_erased_half :
    (∃ vs, Fallible.run (VirtualScreen.call smallVte smallWidth) (.new smallVte.new 4 1)
        [.feed (textBytes "a中\x1b[1;1H中".toList)] = some vs ∧ ¬ vs.Paired smallWidth) ∧
      ∃ vs, Fallible.run (VirtualScreen.call smallVte smallWidth) (.new smallVte.new 4 1)
        [.feed (textBytes "中\x1b[1;2H\x1b[K".toList)] = some vs ∧ ¬ vs.Paired smallWidth := by
  constructor
  · have chars : printedChars "a中\x1b[1;1H中" = some [['中', nul, nul, ' ']] := by
      decide +kernel
    exact not_paired_of_chars chars (by decide)
  · have chars : printedChars "中\x1b[1;2H\x1b[K" = some [['中', ' ', ' ', ' ']] := by
      decide +kernel
    exact not_paired_of_chars chars (by decide)

end Dinotty.Screen
