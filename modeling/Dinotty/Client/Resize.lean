/-
This file is the resizing of a pane with the keyboard. It is shown in which runs every split keeps
the sum of its ratios and every ratio stays at or above its least.
-/

import Dinotty.Session.Layout

namespace Dinotty.SplitPane

open Session List Option

inductive Direction where
  | left
  | right
  | up
  | down
  deriving DecidableEq

def isPane (pane : PaneId) : Layout → Bool
  | .leaf fields => fields.paneId = pane
  | _ => false

def step : Rat := 1 / 20

/-- The direction that takes from a pane of a split and gives to the one before it. -/
def backward (axis : String) : Direction := if axis = "horizontal" then .left else .up

/-- The direction that gives to a pane of a split and takes from the one after it. -/
def forward (axis : String) : Direction := if axis = "horizontal" then .right else .down

/-- The ratios of a split of `count` children with a pane at `idx`. -/
def resizeRatios (axis : String) (direction : Direction) (count idx : Nat) (ratios : List Rat) :
    List Rat :=
  if direction = backward axis ∧ 0 < idx then
    (ratios.modify idx fun ratio => max (1 / 10) (ratio - step)).modify (idx - 1) (· + step)
  else if direction = forward axis ∧ idx + 1 < count then
    (ratios.modify idx fun ratio => min (9 / 10) (ratio + step)).modify (idx + 1) (· - step)
  else ratios

/-- Every leaf among the children is told its ratio. -/
def tellRatios : List Layout → List Rat → List Layout
  | [], _ => []
  | .leaf fields :: rest, ratios =>
      .leaf { fields with ratio := ratios.head? } :: tellRatios rest ratios.tail
  | child :: rest, ratios => child :: tellRatios rest ratios.tail

mutual

/-- The layout after a step, if it has a split with the leaf of the pane as a child. -/
def resizeParentSplit (activePaneId : PaneId) (direction : Direction) : Layout → Option Layout
  | .split id axis ratio children ratios =>
      (resizeAmong activePaneId direction children).map fun
        | some changed => .split id axis ratio changed ratios
        | none =>
            let resized := resizeRatios axis direction children.length
              (children.findIdx (isPane activePaneId)) ratios
            .split id axis ratio (tellRatios children resized) resized
  | _ => none

/-- The children after a step, if the split is below one of them, and nothing if one of them is
the leaf. -/
def resizeAmong (activePaneId : PaneId) (direction : Direction) :
    List Layout → Option (Option (List Layout))
  | [] => none
  | child :: rest =>
      if isPane activePaneId child then some none
      else
        match resizeParentSplit activePaneId direction child with
        | some changed => some (some (changed :: rest))
        | none => (resizeAmong activePaneId direction rest).map (Option.map (child :: ·))

end

def keyboardResize (activePaneId : PaneId) (direction : Direction) (layout : Layout) : Layout :=
  (resizeParentSplit activePaneId direction layout).getD layout

/-! ### The splits of a layout -/

structure Split where
  axis : String
  children : List Layout
  ratios : List Rat

mutual

def splits : Layout → List Split
  | .split _ axis _ children ratios => ⟨axis, children, ratios⟩ :: splitsOfAll children
  | _ => []

def splitsOfAll : List Layout → List Split
  | [] => []
  | child :: rest => splits child ++ splitsOfAll rest

end

/-- Each child has a ratio of at least a tenth. -/
def Split.Valid (split : Split) : Prop :=
  split.ratios.length = split.children.length ∧ ∀ ratio ∈ split.ratios, 1 / 10 ≤ ratio

instance (split : Split) : Decidable split.Valid := inferInstanceAs (Decidable (_ ∧ _))

def sums (splits : List Split) : List Rat := splits.map (·.ratios.sum)

/-- Where a step takes from a pane of the split, that has its least and the step, and where it gives
to the pane, that stays below its most. -/
def Split.HasRoom (activePaneId : PaneId) (direction : Direction) (split : Split) : Prop :=
  (∃ child ∈ split.children, isPane activePaneId child) →
    let idx := split.children.findIdx (isPane activePaneId)
    (direction = backward split.axis → 0 < idx → ∀ ratio ∈ split.ratios[idx]?, 3 / 20 ≤ ratio) ∧
    (direction = forward split.axis → idx + 1 < split.children.length →
      (∀ ratio ∈ split.ratios[idx]?, ratio ≤ 17 / 20) ∧
        ∀ ratio ∈ split.ratios[idx + 1]?, 3 / 20 ≤ ratio)

/-! ### One step -/

section

variable {ratios : List Rat} {ratio : Rat} {index : Nat} {change : Rat → Rat}

theorem sum_modify (held : ratios[index]? = some ratio) :
    (ratios.modify index change).sum = ratios.sum + (change ratio - ratio) := by
  induction ratios generalizing index with
  | nil => cases held
  | cons first rest ih =>
    cases index with
    | zero =>
      cases held
      rw [modify_zero_cons, sum_cons, sum_cons]
      linarith
    | succ index =>
      rw [modify_succ_cons, sum_cons, sum_cons, ih held, add_assoc]

theorem least_modify (held : ratios[index]? = some ratio) (enough : 1 / 10 ≤ change ratio)
    (least : ∀ ratio ∈ ratios, 1 / 10 ≤ ratio) :
    ∀ ratio ∈ ratios.modify index change, 1 / 10 ≤ ratio := by
  intro other mem
  obtain ⟨place, found⟩ := getElem?_of_mem mem
  rw [getElem?_modify] at found
  split at found
  next here =>
    subst here
    rw [held] at found
    cases found
    exact enough
  · exact least other (mem_of_getElem? (by simpa using found))

end

/-- A change of two ratios that takes from one what it gives to the other. -/
theorem exchange {ratios : List Rat} {i j : Nat} {give take : Rat → Rat} {first second : Rat}
    (apart : i ≠ j) (atFirst : ratios[i]? = some first) (atSecond : ratios[j]? = some second)
    (least : ∀ ratio ∈ ratios, 1 / 10 ≤ ratio) (enough : 1 / 10 ≤ give first)
    (enough' : 1 / 10 ≤ take second) (even : give first - first + (take second - second) = 0) :
    (∀ ratio ∈ (ratios.modify i give).modify j take, 1 / 10 ≤ ratio) ∧
      ((ratios.modify i give).modify j take).sum = ratios.sum ∧
      ((ratios.modify i give).modify j take).length = ratios.length := by
  have atSecond' : (ratios.modify i give)[j]? = some second :=
    (getElem?_modify_ne _ _ apart).trans atSecond
  refine ⟨least_modify atSecond' enough' (least_modify atFirst enough least), ?_, by simp⟩
  rw [sum_modify atSecond', sum_modify atFirst]
  linarith

theorem resizeRatios_keeps {axis : String} {direction : Direction} {idx : Nat} {ratios : List Rat}
    (inside : idx < ratios.length) (least : ∀ ratio ∈ ratios, 1 / 10 ≤ ratio)
    (toPrevious : direction = backward axis → 0 < idx → ∀ ratio ∈ ratios[idx]?, 3 / 20 ≤ ratio)
    (toNext : direction = forward axis → idx + 1 < ratios.length →
      (∀ ratio ∈ ratios[idx]?, ratio ≤ 17 / 20) ∧ ∀ ratio ∈ ratios[idx + 1]?, 3 / 20 ≤ ratio) :
    (∀ ratio ∈ resizeRatios axis direction ratios.length idx ratios, 1 / 10 ≤ ratio) ∧
      (resizeRatios axis direction ratios.length idx ratios).sum = ratios.sum ∧
      (resizeRatios axis direction ratios.length idx ratios).length = ratios.length := by
  have own := getElem?_eq_getElem inside
  have ownLeast := least _ (getElem_mem inside)
  unfold resizeRatios
  split
  next taken =>
    have before := getElem?_eq_getElem (show idx - 1 < ratios.length by omega)
    have beforeLeast := least _ (mem_of_getElem? before)
    have room := toPrevious taken.1 taken.2 _ own
    have given : max (1 / 10) (ratios[idx] - step) = ratios[idx] - step :=
      max_eq_right (by rw [step]; linarith)
    refine exchange (by omega) own before least (le_max_left ..) (by rw [step]; linarith) ?_
    rw [given]
    linarith
  · split
    next taken =>
      have after := getElem?_eq_getElem taken.2
      have room := toNext taken.1 taken.2
      have ownRoom := room.1 _ own
      have afterRoom := room.2 _ after
      have given : min (9 / 10) (ratios[idx] + step) = ratios[idx] + step :=
        min_eq_right (by rw [step]; linarith)
      refine exchange (by omega) own after least ?_ (by rw [step]; linarith) ?_
      · rw [given, step]
        linarith
      · rw [given]
        linarith
    · exact ⟨least, rfl, rfl⟩

/-- What the leaves are told changes no split. -/
theorem splitsOfAll_tellRatios (children : List Layout) (ratios : List Rat) :
    splitsOfAll (tellRatios children ratios) = splitsOfAll children ∧
      (tellRatios children ratios).length = children.length := by
  fun_induction tellRatios children ratios with
  | case1 => exact ⟨rfl, rfl⟩
  | case2 fields rest ratios ih => exact ⟨ih.1, congrArg (· + 1) ih.2⟩
  | case3 child rest ratios _ ih =>
    exact ⟨congrArg (splits child ++ ·) ih.1, congrArg (· + 1) ih.2⟩

section

variable {pane : PaneId} {direction : Direction}

mutual

theorem resizeParentSplit_keeps : ∀ {layout changed : Layout},
    resizeParentSplit pane direction layout = some changed →
    (∀ split ∈ splits layout, split.Valid ∧ split.HasRoom pane direction) →
      (∀ split ∈ splits changed, split.Valid) ∧ sums (splits changed) = sums (splits layout)
  | .leaf _, _, resized, _ | .other _, _, resized, _ => by cases resized
  | .split id axis ratio children ratios, _, resized, fine => by
    obtain ⟨below, found, rfl⟩ := map_eq_some_iff.mp resized
    obtain ⟨⟨⟨count, least⟩, room⟩, fine⟩ := forall_mem_cons.mp fine
    obtain ⟨here, further⟩ := resizeAmong_keeps children
    cases below with
    | some after =>
      obtain ⟨valid, same, length⟩ := further after found fine
      exact ⟨forall_mem_cons.mpr ⟨⟨count.trans length.symm, least⟩, valid⟩,
        congrArg (ratios.sum :: ·) same⟩
    | none =>
      obtain ⟨toPrevious, toNext⟩ := room (here found)
      have inside := findIdx_lt_length_of_exists (here found)
      dsimp only at count least toPrevious toNext ⊢
      rw [← count] at inside toNext ⊢
      obtain ⟨least, same, length⟩ := resizeRatios_keeps inside least toPrevious toNext
      have told := splitsOfAll_tellRatios children (resizeRatios axis direction ratios.length
        (children.findIdx (isPane pane)) ratios)
      rw [splits, told.1]
      exact ⟨forall_mem_cons.mpr ⟨⟨(length.trans count).trans told.2.symm, least⟩,
        fun split mem => (fine split mem).1⟩, congrArg (· :: _) same⟩

theorem resizeAmong_keeps : ∀ children : List Layout,
    (resizeAmong pane direction children = some none → ∃ child ∈ children, isPane pane child) ∧
    ∀ changed, resizeAmong pane direction children = some (some changed) →
      (∀ split ∈ splitsOfAll children, split.Valid ∧ split.HasRoom pane direction) →
      (∀ split ∈ splitsOfAll changed, split.Valid) ∧
        sums (splitsOfAll changed) = sums (splitsOfAll children) ∧
        changed.length = children.length
  | [] => ⟨nofun, nofun⟩
  | child :: rest => by
    obtain ⟨here, further⟩ := resizeAmong_keeps rest
    rw [resizeAmong, splitsOfAll, sums, map_append]
    simp only [forall_mem_append]
    split
    next isChild =>
      exact ⟨fun _ => ⟨child, mem_cons_self, isChild⟩, nofun⟩
    · split
      next after inChild =>
        refine ⟨nofun, fun changed found fine => ?_⟩
        cases found
        obtain ⟨valid, same⟩ := resizeParentSplit_keeps inChild fine.1
        refine ⟨forall_mem_append.mpr ⟨valid, fun split mem => (fine.2 split mem).1⟩, ?_, rfl⟩
        exact map_append.trans (congrArg (· ++ _) same)
      · constructor
        · intro found
          obtain ⟨_, inRest, isNone⟩ := map_eq_some_iff.mp found
          obtain rfl := map_eq_none_iff.mp isNone
          obtain ⟨child, mem, isChild⟩ := here inRest
          exact ⟨child, mem_cons_of_mem _ mem, isChild⟩
        · intro changed found fine
          obtain ⟨_, inRest, isSome⟩ := map_eq_some_iff.mp found
          obtain ⟨after, rfl, rfl⟩ := map_eq_some_iff.mp isSome
          obtain ⟨valid, same, length⟩ := further after inRest fine.2
          refine ⟨forall_mem_append.mpr ⟨fun split mem => (fine.1 split mem).1, valid⟩, ?_,
            congrArg (· + 1) length⟩
          exact map_append.trans (congrArg (_ ++ ·) same)

end

theorem keyboardResize_keeps {layout : Layout} (valid : ∀ split ∈ splits layout, split.Valid)
    (room : ∀ split ∈ splits layout, split.HasRoom pane direction) :
    (∀ split ∈ splits (keyboardResize pane direction layout), split.Valid) ∧
      sums (splits (keyboardResize pane direction layout)) = sums (splits layout) := by
  unfold keyboardResize
  cases resized : resizeParentSplit pane direction layout with
  | none => exact ⟨valid, rfl⟩
  | some changed =>
    exact resizeParentSplit_keeps resized fun split mem => ⟨valid split mem, room split mem⟩

end

/-! ### Whole runs -/

def resizeAll (layout : Layout) (steps : List (PaneId × Direction)) : Layout :=
  steps.foldl (fun layout step => keyboardResize step.1 step.2 layout) layout

def HasRoomAlong : Layout → List (PaneId × Direction) → Prop
  | _, [] => True
  | layout, step :: rest =>
      (∀ split ∈ splits layout, split.HasRoom step.1 step.2) ∧
        HasRoomAlong (keyboardResize step.1 step.2 layout) rest

/-- In a run whose steps all have room, every split keeps the sum of its ratios, and every ratio
its least. -/
theorem resizeAll_keeps {steps : List (PaneId × Direction)} {layout : Layout}
    (valid : ∀ split ∈ splits layout, split.Valid) (room : HasRoomAlong layout steps) :
    (∀ split ∈ splits (resizeAll layout steps), split.Valid) ∧
      sums (splits (resizeAll layout steps)) = sums (splits layout) := by
  induction steps generalizing layout with
  | nil => exact ⟨valid, rfl⟩
  | cons step rest ih =>
    obtain ⟨valid, same⟩ := keyboardResize_keeps valid room.1
    obtain ⟨valid, same'⟩ := ih valid room.2
    exact ⟨valid, same'.trans same⟩

/-- Two panes beside each other. -/
def beside (first second : Rat) : Layout :=
  .split "s" "horizontal" none [.leaf { paneId := "a" }, .leaf { paneId := "b" }] [first, second]

theorem resizeAll_keeps_beside :
    (∀ split ∈ splits (resizeAll (beside (1 / 2) (1 / 2)) [("b", .left)]), split.Valid) ∧
      sums (splits (resizeAll (beside (1 / 2) (1 / 2)) [("b", .left)])) =
        sums (splits (beside (1 / 2) (1 / 2))) := by
  refine resizeAll_keeps (by decide +kernel) ⟨fun split member _ => ?_, trivial⟩
  obtain rfl := mem_singleton.mp member
  decide +kernel

/-- A pane at its least takes nothing from itself, and still gives to its neighbour. -/
theorem resize_at_least :
    (∀ split ∈ splits (beside (9 / 10) (1 / 10)), split.Valid) ∧
      sums (splits (beside (9 / 10) (1 / 10))) = [1] ∧
      sums (splits (keyboardResize "b" .left (beside (9 / 10) (1 / 10)))) = [21 / 20] := by
  decide +kernel

end Dinotty.SplitPane
