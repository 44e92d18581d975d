/-
This file is the removal of a leaf from the layout of the editor panes. The split that loses the
leaf stays even when it is left with a single child.
-/

import Mathlib

namespace Dinotty.EditorPane

open List

structure EditorLeaf where
  id : String
  filePath : Option String := none
  isDir : Bool := false
  ratio : Rat := 1
  zoomed : Bool := false
  deriving DecidableEq

inductive EditorLayout where
  | leaf (fields : EditorLeaf)
  | split (id direction : String) (children : List EditorLayout) (ratios : List Rat)

namespace EditorLayout

/-- The layout is the leaf. -/
def isLeaf (leafId : String) : EditorLayout → Bool
  | .leaf fields => fields.id = leafId
  | _ => false

def tell (ratio : Rat) : EditorLayout → EditorLayout
  | .leaf fields => .leaf { fields with ratio }
  | layout => layout

def redistributeEditorRatios : EditorLayout → EditorLayout
  | .split id direction children ratios =>
      if children = [] then .split id direction children ratios
      else
        .split id direction (children.map (tell (1 / children.length)))
          (children.map fun _ => 1 / (children.length : Rat))
  | layout => layout

/-- A split with another split as its only child takes over what that consists of. -/
def collapse : EditorLayout → EditorLayout
  | .split id _ [.split _ direction children ratios] _ => .split id direction children ratios
  | layout => layout

mutual

/-- The layout without the leaf, if it has been found. -/
def removeEditorLeaf (leafId : String) : EditorLayout → Option EditorLayout
  | .leaf _ => none
  | .split id direction children ratios =>
      if children.any (isLeaf leafId) then
        some (redistributeEditorRatios (.split id direction (children.eraseP (isLeaf leafId))
          (ratios.eraseIdx (children.findIdx (isLeaf leafId)))))
      else
        (removeAmong leafId children).map fun children =>
          redistributeEditorRatios (collapse (.split id direction children ratios))

def removeAmong (leafId : String) : List EditorLayout → Option (List EditorLayout)
  | [] => none
  | child :: rest =>
      match removeEditorLeaf leafId child with
      | some changed => some (changed :: rest)
      | none => (removeAmong leafId rest).map (child :: ·)

end

/-! ### Leaves and splits -/

mutual

def getAllEditorLeaves : EditorLayout → List EditorLeaf
  | .leaf fields => [fields]
  | .split _ _ children _ => leavesOfAll children

def leavesOfAll : List EditorLayout → List EditorLeaf
  | [] => []
  | child :: rest => getAllEditorLeaves child ++ leavesOfAll rest

end

mutual

/-- The splits, each as its children and its ratios. -/
def splits : EditorLayout → List (List EditorLayout × List Rat)
  | .leaf _ => []
  | .split _ _ children ratios => (children, ratios) :: splitsOfAll children

def splitsOfAll : List EditorLayout → List (List EditorLayout × List Rat)
  | [] => []
  | child :: rest => splits child ++ splitsOfAll rest

end

/-- What a leaf is, but for its share of the split. -/
def bare (leaf : EditorLeaf) : EditorLeaf := { leaf with ratio := 0 }

def ids (children : List EditorLayout) : List String := (leavesOfAll children).map (·.id)

def without (leafId : String) (children : List EditorLayout) : List EditorLeaf :=
  ((leavesOfAll children).filter (·.id ≠ leafId)).map bare

/-- Each child has a ratio, and there is not just one. -/
def Shaped (split : List EditorLayout × List Rat) : Prop :=
  split.2.length = split.1.length ∧ split.1.length ≠ 1

/-- A split below the root as it should be. -/
def Sound (split : List EditorLayout × List Rat) : Prop :=
  split.2.length = split.1.length ∧ split.2.sum = 1 ∧ 2 ≤ split.1.length

/-- The split that loses the leaf has two other children, and one that is left alone has ratios that
sum to one. -/
def Fits (leafId : String) (split : List EditorLayout × List Rat) : Prop :=
  if split.1.any (isLeaf leafId) then 3 ≤ split.1.length
  else leafId ∉ ids split.1 → split.2.sum = 1

variable {leafId : String} {children rest : List EditorLayout}

variable (first second : List EditorLayout)

theorem leavesOfAll_append :
    leavesOfAll (first ++ second) = leavesOfAll first ++ leavesOfAll second := by
  induction first with
  | nil => rfl
  | cons child rest ih => rw [cons_append, leavesOfAll, leavesOfAll, ih, append_assoc]

theorem splitsOfAll_append :
    splitsOfAll (first ++ second) = splitsOfAll first ++ splitsOfAll second := by
  induction first with
  | nil => rfl
  | cons child rest ih => rw [cons_append, splitsOfAll, splitsOfAll, ih, append_assoc]

theorem ids_cons (child : EditorLayout) (rest : List EditorLayout) :
    ids (child :: rest) = ids [child] ++ ids rest := by
  simp [ids, leavesOfAll]

theorem without_cons (child : EditorLayout) (rest : List EditorLayout) :
    without leafId (child :: rest) = without leafId [child] ++ without leafId rest := by
  simp [without, leavesOfAll]

theorem length_ne_zero (held : leafId ∈ ids children) : children.length ≠ 0 := by
  intro none
  rw [eq_nil_of_length_eq_zero none] at held
  cases held

theorem ids_append : ids (first ++ second) = ids first ++ ids second := by
  simp [ids, leavesOfAll_append]

/-- The leaf among the children, and what is left when it is taken out. -/
theorem exists_leaf (held : children.any (isLeaf leafId)) : ∃ front fields back,
    children = front ++ .leaf fields :: back ∧ fields.id = leafId ∧
      children.eraseP (isLeaf leafId) = front ++ back := by
  obtain ⟨child, mem, named⟩ := any_eq_true.mp held
  obtain ⟨child, front, back, -, named, rfl, erased⟩ := exists_of_eraseP mem named
  cases child with
  | leaf fields => exact ⟨front, fields, back, rfl, of_decide_eq_true named, erased⟩
  | split => cases named

theorem mem_ids_of_any (held : children.any (isLeaf leafId)) : leafId ∈ ids children := by
  obtain ⟨front, fields, back, rfl, rfl, -⟩ := exists_leaf held
  simp [ids, leavesOfAll_append, leavesOfAll, getAllEditorLeaves]

theorem without_of_notMem (other : leafId ∉ ids children) :
    without leafId children = (leavesOfAll children).map bare := by
  refine congrArg (map bare) (filter_eq_self.mpr fun leaf mem => decide_eq_true ?_)
  rintro rfl
  exact other (mem_map_of_mem mem)

theorem redistributed (id side : String) (ratios : List Rat) (some : children ≠ []) :
    ∃ told shares, redistributeEditorRatios (.split id side children ratios) =
        .split id side told shares ∧ told.length = children.length ∧
      shares.length = children.length ∧ shares.sum = 1 ∧
      (leavesOfAll told).map bare = (leavesOfAll children).map bare ∧
      splitsOfAll told = splitsOfAll children := by
  refine ⟨_, _, if_neg some, length_map _, length_map _, ?_, ?_, ?_⟩
  · rw [map_const', sum_replicate, nsmul_eq_mul]
    exact mul_one_div_cancel (Nat.cast_ne_zero.mpr (mt eq_nil_of_length_eq_zero some))
  · generalize (1 / children.length : Rat) = ratio
    clear some
    induction children with
    | nil => rfl
    | cons child rest ih =>
      cases child <;> simp_all [leavesOfAll, tell, getAllEditorLeaves, bare]
  · generalize (1 / children.length : Rat) = ratio
    clear some
    induction children with
    | nil => rfl
    | cons child rest ih => cases child <;> simp_all [splitsOfAll, tell, splits]

/-- A split has no leaves but those of the layout that it is in. -/
theorem ids_below : ∀ {children : List EditorLayout} {inner : List EditorLayout × List Rat},
    inner ∈ splitsOfAll children → ids inner.1 ⊆ ids children
  | .leaf _ :: rest, _, mem => by
    rw [ids_cons]
    exact Subset.trans (ids_below (show _ ∈ splitsOfAll rest from mem)) (subset_append_right _ _)
  | .split id side below ratios :: rest, _, mem => by
    rw [ids_cons]
    rcases mem_append.mp mem with here | later
    · refine Subset.trans ?_ (subset_append_left _ _)
      rcases mem_cons.mp here with rfl | deeper
      · simp [ids, leavesOfAll, getAllEditorLeaves]
      · simpa [ids, leavesOfAll, getAllEditorLeaves] using ids_below deeper
    · exact Subset.trans (ids_below later) (subset_append_right _ _)

/-- Splits that are left alone are as they should be if they were. -/
theorem sound_iff_fits (shaped : ∀ inner ∈ splitsOfAll children, Shaped inner)
    (other : leafId ∉ ids children) :
    (∀ inner ∈ splitsOfAll children, Sound inner) ↔
      ∀ inner ∈ splitsOfAll children, Fits leafId inner := by
  refine forall₂_congr fun inner mem => ?_
  have away := fun here => other (ids_below mem here)
  obtain ⟨count, several⟩ := shaped inner mem
  rw [Fits, if_neg fun child => away (mem_ids_of_any child), Sound]
  refine ⟨fun sound _ => sound.2.1, fun sum => ⟨count, sum away, ?_⟩⟩
  have : inner.1.length ≠ 0 := by
    intro none
    have := sum away
    rw [eq_nil_of_length_eq_zero (count.trans none)] at this
    exact absurd this (by decide)
  omega

mutual

theorem removeEditorLeaf_of_notMem : ∀ layout : EditorLayout, leafId ∉ ids [layout] →
    removeEditorLeaf leafId layout = none
  | .leaf _, _ => rfl
  | .split id side children ratios, other => by
    have other : leafId ∉ ids children := by
      simpa [ids, leavesOfAll, getAllEditorLeaves] using other
    rw [removeEditorLeaf, if_neg fun child => other (mem_ids_of_any child),
      removeAmong_of_notMem children other]
    rfl

theorem removeAmong_of_notMem : ∀ children : List EditorLayout, leafId ∉ ids children →
    removeAmong leafId children = none
  | [], _ => rfl
  | child :: rest, other => by
    rw [ids_cons, mem_append, not_or] at other
    rw [removeAmong, removeEditorLeaf_of_notMem child other.1, removeAmong_of_notMem rest other.2]
    rfl

end

/-! ### The removal -/

/-- What the removal makes of the children of a split. -/
structure Removes (leafId : String) (children after : List EditorLayout) : Prop where
  leaves : (leavesOfAll after).map bare = without leafId children
  sound : (∀ inner ∈ splitsOfAll after, Sound inner) ↔
    ∀ inner ∈ splitsOfAll children, Fits leafId inner

theorem Removes.same (shaped : ∀ inner ∈ splitsOfAll children, Shaped inner)
    (other : leafId ∉ ids children) : Removes leafId children children :=
  ⟨(without_of_notMem other).symm, sound_iff_fits shaped other⟩

theorem Removes.append {first first' second second' : List EditorLayout}
    (front : Removes leafId first first') (back : Removes leafId second second') :
    Removes leafId (first ++ second) (first' ++ second') := by
  refine ⟨?_, ?_⟩
  · rw [leavesOfAll_append, map_append, front.leaves, back.leaves, without, without, without,
      leavesOfAll_append, filter_append, map_append]
  · rw [splitsOfAll_append, splitsOfAll_append]
    simp only [forall_mem_append]
    rw [front.sound, back.sound]

/-- What it makes of a split with the leaf below it. -/
theorem split_spec (id side : String) {ratios : List Rat} (held : leafId ∈ ids children)
    (nodup : (ids children).Nodup) (shape : Shaped (children, ratios))
    (shaped : ∀ inner ∈ splitsOfAll children, Shaped inner)
    (deep : ¬ children.any (isLeaf leafId) → ∃ after, removeAmong leafId children = some after ∧
      after.length = children.length ∧ Removes leafId children after) :
    ∃ after shares, removeEditorLeaf leafId (.split id side children ratios) =
        some (.split id side after shares) ∧ Removes leafId children after ∧
      shares.length = after.length ∧ (after ≠ [] → shares.sum = 1) ∧
      if children.any (isLeaf leafId) then after.length + 1 = children.length
      else after.length = children.length := by
  rw [removeEditorLeaf]
  split
  next child =>
    obtain ⟨front, fields, back, rfl, rfl, erased⟩ := exists_leaf child
    have equal : ids (front ++ .leaf fields :: back) = ids front ++ fields.id :: ids back := by
      rw [ids_append, ids_cons]
      rfl
    rw [equal, nodup_middle, nodup_cons, mem_append, not_or] at nodup
    have leafTaken : Removes fields.id [.leaf fields] [] :=
      ⟨by simp [without, leavesOfAll, getAllEditorLeaves], by simp [splitsOfAll, splits]⟩
    have removes : Removes fields.id (front ++ .leaf fields :: back) (front ++ back) := by
      rw [splitsOfAll_append, forall_mem_append] at shaped
      exact (Removes.same shaped.1 nodup.1.1).append
        (leafTaken.append (Removes.same shaped.2 nodup.1.2))
    have length : (front ++ back).length + 1 = (front ++ .leaf fields :: back).length := by
      rw [length_append, length_append, length_cons]
      rfl
    rw [erased, ← length]
    by_cases empty : front ++ back = []
    · obtain ⟨rfl, rfl⟩ := append_eq_nil_iff.mp empty
      obtain ⟨ratio, rfl⟩ := length_eq_one_iff.mp shape.1
      exact ⟨[], [], by simp [redistributeEditorRatios, isLeaf], removes, rfl, nofun, rfl⟩
    · obtain ⟨told, shares, equal, count, shareCount, sum, leaves', splits'⟩ :=
        redistributed id side (ratios.eraseIdx
          ((front ++ .leaf fields :: back).findIdx (isLeaf fields.id))) empty
      exact ⟨told, shares, congrArg some equal, ⟨leaves'.trans removes.leaves,
        splits' ▸ removes.sound⟩, shareCount.trans count.symm, fun _ => sum,
        congrArg (· + 1) count⟩
  next noChild =>
    obtain ⟨after, removed, length, leaves, sound⟩ := deep noChild
    have several : children.length ≠ 1 := shape.2
    have some := length_ne_zero held
    have two : 2 ≤ after.length := by omega
    have same : collapse (.split id side after ratios) = .split id side after ratios := by
      unfold collapse
      split
      next equal =>
        cases equal
        exact absurd two (Nat.not_succ_le_self 1)
      · rfl
    obtain ⟨told, shares, equal, count, shareCount, sum, leaves', splits'⟩ :=
      redistributed id side ratios (length_pos_iff.mp (by omega) : after ≠ [])
    refine ⟨told, shares, ?_, ⟨leaves'.trans leaves, splits' ▸ sound⟩, shareCount.trans count.symm,
      fun _ => sum, count.trans length⟩
    rw [removed, Option.map_some, same, equal]

/-- Below the root the split itself must have two children left. -/
theorem sound_head_iff {below after : List EditorLayout} {ratios shares : List Rat}
    (inside : leafId ∈ ids below) (shape : Shaped (below, ratios))
    (count : shares.length = after.length) (sum : after ≠ [] → shares.sum = 1)
    (length : if below.any (isLeaf leafId) then after.length + 1 = below.length
      else after.length = below.length) :
    Sound (after, shares) ↔ Fits leafId (below, ratios) := by
  have several : below.length ≠ 1 := shape.2
  have some := length_ne_zero inside
  have sound (two : 2 ≤ after.length) : Sound (after, shares) :=
    ⟨count, sum (length_pos_iff.mp (by omega)), two⟩
  rw [Fits]
  split
  next child =>
    rw [if_pos child] at length
    refine ⟨fun sound => ?_, fun three => sound ?_⟩
    · have two : 2 ≤ after.length := sound.2.2
      dsimp only
      omega
    · dsimp only at three
      omega
  next noChild =>
    rw [if_neg noChild] at length
    exact iff_of_true (sound (by omega)) fun other => absurd inside other

theorem removeAmong_spec : ∀ children : List EditorLayout, leafId ∈ ids children →
    (ids children).Nodup → (∀ inner ∈ splitsOfAll children, Shaped inner) →
    ¬ children.any (isLeaf leafId) → ∃ after, removeAmong leafId children = some after ∧
      after.length = children.length ∧ Removes leafId children after
  | child :: rest, held, nodup, shaped, notChild => by
    have skip (other : leafId ∉ ids [child]) : ∃ after,
        removeAmong leafId (child :: rest) = some after ∧
          after.length = (child :: rest).length ∧ Removes leafId (child :: rest) after := by
      rw [ids_cons] at held nodup
      obtain ⟨after, removed, length, removes⟩ := removeAmong_spec rest
        ((mem_append.mp held).resolve_left other) (nodup_append.mp nodup).2.1
        (fun inner mem => shaped inner (mem_append_right _ mem))
        fun inRest => notChild (any_cons.trans (Bool.or_eq_true_iff.mpr (.inr inRest)))
      refine ⟨child :: after, ?_, congrArg (· + 1) length, ?_⟩
      · rw [removeAmong, removeEditorLeaf_of_notMem child other, removed]
        rfl
      · refine (Removes.same (fun inner mem => ?_) other).append removes
        exact shaped inner (mem_append_left _ (by simpa [splitsOfAll] using mem))
    match child with
    | .leaf fields =>
      refine skip fun mem => notChild ?_
      simp [ids, leavesOfAll, getAllEditorLeaves] at mem
      simp [isLeaf, mem]
    | .split id side below ratios =>
      by_cases inside : leafId ∈ ids below
      · have same : ids [.split id side below ratios] = ids below := by
          simp [ids, leavesOfAll, getAllEditorLeaves]
        rw [ids_cons, same, nodup_append] at nodup
        rw [show splitsOfAll (.split id side below ratios :: rest) =
          (below, ratios) :: splitsOfAll below ++ splitsOfAll rest from rfl, forall_mem_append,
          forall_mem_cons] at shaped
        obtain ⟨⟨shape, shapedBelow⟩, shapedRest⟩ := shaped
        obtain ⟨after, shares, removed, removes, count, sum, length⟩ := split_spec id side inside
          nodup.1 shape shapedBelow (removeAmong_spec below inside nodup.1 shapedBelow)
        have changed : Removes leafId [.split id side below ratios]
            [.split id side after shares] := by
          refine ⟨?_, ?_⟩
          · simpa [leavesOfAll, getAllEditorLeaves, without] using removes.leaves
          · simp only [splitsOfAll, splits, append_nil, forall_mem_cons, removes.sound]
            exact and_congr_left fun _ => sound_head_iff inside shape count sum length
        refine ⟨.split id side after shares :: rest, by rw [removeAmong, removed], rfl,
          changed.append (Removes.same shapedRest fun later => nodup.2.2 _ inside _ later rfl)⟩
      · exact skip (by simpa [ids, leavesOfAll, getAllEditorLeaves] using inside)

/-- The leaf goes and the others stay. The layout is as it should be exactly if the split that the
leaf was in has two other children, unless it is the root, and the other splits had ratios that sum
to one. -/
theorem removeEditorLeaf_iff {id direction : String} {ratios : List Rat}
    (held : leafId ∈ ids children) (distinct : (ids children).Nodup)
    (shape : Shaped (children, ratios)) (shaped : ∀ inner ∈ splitsOfAll children, Shaped inner) :
    ∃ after shares, removeEditorLeaf leafId (.split id direction children ratios) =
        some (.split id direction after shares) ∧
      (leavesOfAll after).map bare = without leafId children ∧
      (after ≠ [] ∧ shares.length = after.length ∧ shares.sum = 1) ∧
      ((∀ inner ∈ splitsOfAll after, Sound inner) ↔
        ∀ inner ∈ splitsOfAll children, Fits leafId inner) := by
  obtain ⟨after, shares, removed, removes, count, sum, length⟩ := split_spec id direction held distinct
    shape shaped (removeAmong_spec children held distinct shaped)
  have several : children.length ≠ 1 := shape.2
  have held := length_ne_zero held
  have some : after ≠ [] := by
    rintro rfl
    split at length <;> rw [length_nil] at length <;> omega
  exact ⟨after, shares, removed, removes.leaves, ⟨some, count, sum some⟩, removes.sound⟩

/-- A leaf beside a split of two. -/
def nested : List EditorLayout :=
  [.leaf { id := "a" }, .split "inner" "vertical" [.leaf { id := "b" }, .leaf { id := "c" }]
    [1 / 2, 1 / 2]]

theorem removeEditorLeaf_iff_nested : ∃ after shares,
    removeEditorLeaf "a" (.split "root" "horizontal" nested [1 / 2, 1 / 2]) =
        some (.split "root" "horizontal" after shares) ∧
      (leavesOfAll after).map bare = without "a" nested ∧
      (after ≠ [] ∧ shares.length = after.length ∧ shares.sum = 1) ∧
      ((∀ inner ∈ splitsOfAll after, Sound inner) ↔ ∀ inner ∈ splitsOfAll nested, Fits "a" inner) :=
  removeEditorLeaf_iff (by decide +kernel) (by decide +kernel) ⟨rfl, by decide⟩ fun inner mem => by
    obtain rfl := mem_singleton.mp mem
    exact ⟨rfl, by decide⟩

/-- The split of two is left with a single child. -/
theorem single_child_left : ∃ after shares,
    removeEditorLeaf "b" (.split "root" "horizontal" nested [1 / 2, 1 / 2]) =
        some (.split "root" "horizontal" after shares) ∧
      ∃ inner ∈ splitsOfAll after, inner.1.length = 1 :=
  ⟨_, _, rfl, _, mem_cons_self, rfl⟩

end EditorLayout
end Dinotty.EditorPane
