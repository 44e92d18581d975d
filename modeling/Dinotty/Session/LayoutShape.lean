/-
This file is the shape of layouts: every split has as many ratios as children, and enough children.
-/

import Dinotty.Session.StoredLayout

namespace Dinotty.Session.Stored

open List Option Json

/-- A layout of leaves with a pane and of splits with at least so many children and as many ratios
as children. -/
inductive Tree (least : Nat) : Json → Prop where
  | leaf {node : Json} {pane : PaneId} (type : node.getStr "type" = some "leaf")
      (named : node.getStr "paneId" = some pane) : Tree least node
  | split {node : Json} {items ratios : List Json} (type : node.getStr "type" = some "split")
      (found : node.getArray "children" = some items)
      (shared : node.getArray "ratios" = some ratios) (balanced : ratios.length = items.length)
      (enough : least ≤ items.length) (below : ∀ child ∈ items, Tree least child) :
      Tree least node

variable {least : Nat} {node new : Json} {items : List Json} {pane target : PaneId}

/-! ### Shapes -/

theorem Tree.set (tree : Tree least node) {key : String} (notType : "type" ≠ key)
    (notPane : "paneId" ≠ key) (notChildren : "children" ≠ key) (notRatios : "ratios" ≠ key)
    (value : Json) : Tree least (node.set key value) := by
  cases tree with
  | leaf type named =>
    exact .leaf ((getStr_set_of_ne notType _ _).trans type)
      ((getStr_set_of_ne notPane _ _).trans named)
  | split type found shared balanced enough below =>
    exact .split ((getStr_set_of_ne notType _ _).trans type)
      ((getArray_set_of_ne notChildren _ _).trans found)
      ((getArray_set_of_ne notRatios _ _).trans shared) balanced enough below

theorem Tree.set_children (type : node.getStr "type" = some "split") {ratios : List Json}
    (shared : node.getArray "ratios" = some ratios) (balanced : ratios.length = items.length)
    (enough : least ≤ items.length) (below : ∀ child ∈ items, Tree least child) :
    Tree least (node.set "children" (.arr items)) :=
  .split ((getStr_set_of_ne (by decide) _ _).trans type)
    (getArray_set_self (isObject_of_getStr type) "children" items)
    ((getArray_set_of_ne (by decide) _ _).trans shared) balanced enough below

theorem Tree.set_shares (type : node.getStr "type" = some "split")
    (enough : least ≤ items.length) (below : ∀ child ∈ items, Tree least child) :
    Tree least ((node.set "children" (.arr items)).set "ratios" (shares items.length)) := by
  have isObject := isObject_of_getStr type
  have found : ((node.set "children" (.arr items)).set "ratios" (shares items.length)).getArray
      "children" = some items := by
    rw [getArray_set_of_ne (by decide), getArray_set_self isObject]
  refine .split ?_ found (getArray_set_self (by rw [isObject_set, isObject]) _ _)
    length_replicate enough below
  rw [getStr_set_of_ne (by decide), getStr_set_of_ne (by decide), type]

theorem Tree.panes_ne_nil (tree : Tree (least + 1) node) : collectLeafPaneIds node ≠ [] := by
  induction tree with
  | leaf type named =>
    rw [collectLeafPaneIds_eq, if_pos type, named]
    exact cons_ne_nil _ _
  | @split node items ratios type found shared balanced enough below ih =>
    rw [collectLeafPaneIds_eq, if_neg (by rw [type]; decide), children_of_split type found]
    obtain ⟨child, mem⟩ :=
      exists_mem_of_length_pos (Nat.lt_of_lt_of_le (Nat.succ_pos least) enough)
    intro none
    exact ih child mem (flatMap_eq_nil_iff.mp none child mem)

/-! ### Two layouts side by side -/

def paneLeaf (pane : PaneId) : Json := .obj [("type", .str "leaf"), ("paneId", .str pane)]

variable (pane : PaneId)

theorem tree_paneLeaf : Tree least (paneLeaf pane) := .leaf rfl rfl

theorem tree_halves (few : least ≤ 2) {first second : Json} (id side : String)
    (front : Tree least first) (back : Tree least second) :
    Tree least (halves id side first second) :=
  .split rfl rfl rfl rfl few fun child mem => by
    rcases mem_pair.mp mem with rfl | rfl
    · exact front
    · exact back

theorem panes_halves (id side : String) (first second : Json) :
    collectLeafPaneIds (halves id side first second) =
      collectLeafPaneIds first ++ collectLeafPaneIds second := by
  have isSplit : (halves id side first second).getStr "type" = some "split" := rfl
  rw [collectLeafPaneIds_eq, if_neg (by rw [isSplit]; decide), children_of_split isSplit rfl]
  simp

theorem panes_paneLeaf : collectLeafPaneIds (paneLeaf pane) = [pane] := by
  have isLeaf : (paneLeaf pane).getStr "type" = some "leaf" := rfl
  rw [collectLeafPaneIds_eq, if_pos isLeaf]
  rfl

/-! ### Removing a pane -/

theorem tree_closeGap (few : least ≤ 2) (type : node.getStr "type" = some "split")
    {ratios : List Json} (shared : node.getArray "ratios" = some ratios) {kept : List Json}
    (enough : least ≤ ratios.length) (below : ∀ child ∈ kept, Tree least child)
    (closed : closeGap node ratios.length kept = some new) : Tree least new := by
  unfold closeGap at closed
  split at closed
  · cases closed
  next nonempty =>
    split at closed
    next all =>
      cases closed
      exact Tree.set_children type shared all.symm (all ▸ enough) below
    · split at closed
      · cases closed
        exact below _ mem_cons_self
      next several =>
        cases closed
        refine Tree.set_shares type (few.trans ?_) below
        match kept, nonempty, several with
        | [], nonempty, _ => exact absurd rfl nonempty
        | [child], _, several => exact absurd rfl (several child)
        | _ :: _ :: _, _, _ => exact Nat.le_add_left 2 _

theorem tree_removePaneFromLayout (few : least ≤ 2) (tree : Tree least node) (pane : PaneId) :
    ∀ new, removePaneFromLayout pane node = some new → Tree least new := by
  induction tree with
  | leaf type named =>
    intro new removed
    rw [removePaneFromLayout_leaf pane type named] at removed
    split at removed
    · cases removed
    · cases removed
      exact .leaf type named
  | @split node items ratios type found shared balanced enough _ ih =>
    intro new removed
    rw [removePaneFromLayout_split pane type found, ← balanced] at removed
    refine tree_closeGap few type shared (balanced ▸ enough) (fun child mem => ?_) removed
    obtain ⟨old, isOld, left⟩ := mem_filterMap.mp mem
    exact ih old isOld child left

/-- Removing a pane takes exactly its leaf away. The layout goes exactly if there was no other leaf,
every split that is left has as many ratios as children, and no split has a single child if none
had. -/
theorem removePaneFromLayout_tree (tree : Tree 1 node)
    (distinct : (collectLeafPaneIds node).Nodup) (pane : PaneId) :
    (removePaneFromLayout pane node).elim [] leaves =
        (leaves node).filter (Json.getStr "paneId" · ≠ some pane) ∧
      (removePaneFromLayout pane node = none ↔ collectLeafPaneIds node = [pane]) ∧
      ∀ new, removePaneFromLayout pane node = some new →
        Tree 1 new ∧ (Tree 2 node → Tree 2 new) := by
  refine ⟨leaves_removePaneFromLayout pane node, ?_, fun new removed =>
    ⟨tree_removePaneFromLayout (by decide) tree pane new removed,
      fun wide => tree_removePaneFromLayout (le_refl 2) wide pane new removed⟩⟩
  have panes := panes_removePaneFromLayout pane node
  constructor
  · intro gone
    rw [gone, elim_none] at panes
    have all : ∀ found ∈ collectLeafPaneIds node, found = pane := fun found member => by
      by_contra other
      have left : found ∈ (collectLeafPaneIds node).filter (· ≠ pane) :=
        mem_filter.mpr ⟨member, decide_eq_true other⟩
      rw [← panes] at left
      cases left
    have count := nodup_iff_count.mp distinct pane
    rw [eq_replicate_of_mem all, count_replicate_self] at count
    have positive := length_pos_iff.mpr tree.panes_ne_nil
    rw [eq_replicate_of_mem all, Nat.le_antisymm count positive, replicate_one]
  · intro single
    cases removed : removePaneFromLayout pane node with
    | none => rfl
    | some new =>
      rw [single, removed] at panes
      have some := (tree_removePaneFromLayout (by decide) tree pane new removed).panes_ne_nil
      exact absurd (panes.trans (by simp)) some

theorem removePaneFromLayout_halves :
    (removePaneFromLayout "a" (halves "s" "horizontal" (paneLeaf "a") (paneLeaf "b"))).elim []
        leaves =
      (leaves (halves "s" "horizontal" (paneLeaf "a") (paneLeaf "b"))).filter
        (Json.getStr "paneId" · ≠ some "a") := by
  have tree : Tree 1 (halves "s" "horizontal" (paneLeaf "a") (paneLeaf "b")) :=
    tree_halves (by decide) _ _ (tree_paneLeaf _) (tree_paneLeaf _)
  refine (removePaneFromLayout_tree tree ?_ "a").1
  rw [panes_halves, panes_paneLeaf, panes_paneLeaf]
  decide

/-! ### Where inserted leaves stand -/

section Insertion

variable {wrap : Json → Json}

/-- What becomes of a leaf, without its share of the parent. -/
def wrapped (wrap : Json → Json) (target : PaneId) (leaf : Json) : List Json :=
  if leaf.getStr "paneId" = some target then bareLeaves (wrap leaf) else [leaf.without "ratio"]

theorem bareLeaves_splice (parentAxis : String) (changed : Bool) (updated : Json) :
    (splice parentAxis changed updated).flatMap bareLeaves = bareLeaves updated := by
  rw [bareLeaves, ← leaves_splice parentAxis changed updated, map_flatMap]
  rfl

theorem spliceAll_leaves
    (inserts : ∀ child ∈ items, ∃ new, insertAtLeaf wrap target child = some new ∧
      bareLeaves new = (leaves child).flatMap (wrapped wrap target))
    (parentAxis : String) (found : Bool) :
    let spliced := spliceAll parentAxis found
      (items.map fun child => (child, insertAtLeaf wrap target child))
    spliced.1.flatMap bareLeaves = (items.flatMap leaves).flatMap (wrapped wrap target) ∧
      (spliced.2 = false →
        items.flatMap bareLeaves = (items.flatMap leaves).flatMap (wrapped wrap target)) := by
  induction items generalizing found with
  | nil => exact ⟨rfl, fun _ => rfl⟩
  | cons child rest ih =>
    intro spliced
    obtain ⟨updated, ins, atChild⟩ := inserts child mem_cons_self
    obtain ⟨later, unchanged⟩ := ih
      (fun other mem => inserts other (mem_cons_of_mem _ mem))
      (found || decide (updated ≠ child))
    have unfolded : spliced = (splice parentAxis (found || decide (updated ≠ child)) updated ++
            (spliceAll parentAxis (found || decide (updated ≠ child))
              (rest.map fun child => (child, insertAtLeaf wrap target child))).1,
          (spliceAll parentAxis (found || decide (updated ≠ child))
            (rest.map fun child => (child, insertAtLeaf wrap target child))).2) := by
      simp [spliced, ins, spliceAll]
    rw [unfolded, flatMap_cons, flatMap_cons, flatMap_append]
    refine ⟨?_, fun notFound => ?_⟩
    · rw [flatMap_append, bareLeaves_splice, atChild, later]
    -- A child that has changed would have been found.
    have same : updated = child := by
      by_contra ne
      rw [spliceAll_found (by simp [ne])] at notFound
      cases notFound
    rw [same] at atChild
    rw [unchanged notFound, flatMap_append, atChild]

/-- An insertion does to each leaf of the target what the wrapping does, and leaves the others where
they are. -/
theorem insertAtLeaf_leaves (formed : WellFormed node) :
    ∃ new, insertAtLeaf wrap target node = some new ∧
      bareLeaves new = (leaves node).flatMap (wrapped wrap target) := by
  induction formed with
  | @leaf node pane type named =>
    rw [insertAtLeaf_leaf wrap target type named, leaves_of_leaf type named,
      flatMap_singleton, wrapped, named]
    by_cases here : pane = target
    · exact ⟨wrap node, if_pos here, (if_pos (congrArg some here)).symm⟩
    · refine ⟨node, if_neg here, ?_⟩
      rw [if_neg fun same => here (some.inj same), bareLeaves, leaves_of_leaf type named,
        map_singleton]
  | @split node side items type along found nonempty below ih =>
    have all := spliceAll_leaves ih (Layout.normalizeSplitDirection side)
      false
    rw [insertAtLeaf_split wrap target type along found, leaves_of_split type found]
    split
    rename_i newChildren changed spliced
    rw [spliced] at all
    cases changed with
    | true =>
      refine ⟨_, if_pos rfl, ?_⟩
      rw [← all.1, bareLeaves, leaves_set_ratios
        ((getStr_set_of_ne (by decide) _ _).trans type), leaves_set_children type,
        flatMap_map, map_flatMap]
      exact flatMap_congr fun child _ => bareLeaves_set_ratio child _
    | false =>
      refine ⟨node, if_neg Bool.false_ne_true, ?_⟩
      rw [← all.2 rfl, bareLeaves, leaves_of_split type found, map_flatMap]
      rfl

/-- Where there is no target, nothing changes. -/
theorem insertAtLeaf_absent (formed : WellFormed node)
    (absent : target ∉ collectLeafPaneIds node) : insertAtLeaf wrap target node = some node := by
  induction formed with
  | @leaf node pane type named =>
    rw [collectLeafPaneIds_eq, if_pos type, named] at absent
    rw [insertAtLeaf_leaf wrap target type named,
      if_neg fun same => absent (by rw [same]; exact mem_cons_self)]
  | @split node side items type along found nonempty below ih =>
    rw [collectLeafPaneIds_eq, if_neg (by rw [type]; decide), children_of_split type found]
      at absent
    have each : ∀ child ∈ items, insertAtLeaf wrap target child = some child :=
      fun child mem => ih child mem fun there =>
        absent (mem_flatMap.mpr ⟨child, mem, there⟩)
    have none (axis : String) : (spliceAll axis false
        (items.map fun child => (child, insertAtLeaf wrap target child))).2 = false := by
      clear absent ih below nonempty found
      induction items with
      | nil => rfl
      | cons child rest later =>
        rw [map_cons, each child mem_cons_self, spliceAll]
        simp only [ne_eq, not_true_eq_false, decide_false, Bool.or_false]
        exact later fun other mem => each other (mem_cons_of_mem _ mem)
    rw [insertAtLeaf_split wrap target type along found]
    split
    rename_i newChildren changed spliced
    have unchanged := none (Layout.normalizeSplitDirection side)
    rw [spliced] at unchanged
    exact if_neg fun isChanged => absurd (isChanged.symm.trans unchanged) (by decide)

/-! ### The shape after an insertion -/

theorem tree_splice (tree : Tree least node) (parentAxis : String) (changed : Bool) :
    ∀ child ∈ splice parentAxis changed node, Tree least child := by
  unfold splice
  split
  next spliced =>
    cases tree with
    | leaf type named =>
      rw [spliced.2.1] at type
      exact absurd type (by decide)
    | split type found shared balanced enough below =>
      rw [found, getD_some]
      exact below
  · exact forall_mem_singleton.mpr tree

theorem length_splice_pos (tree : Tree (least + 1) node) (parentAxis : String) (changed : Bool) :
    1 ≤ (splice parentAxis changed node).length := by
  unfold splice
  split
  next spliced =>
    cases tree with
    | leaf type named =>
      rw [spliced.2.1] at type
      exact absurd type (by decide)
    | split type found shared balanced enough below =>
      rw [found, getD_some]
      exact (Nat.le_add_left 1 least).trans enough
  · exact le_refl 1

theorem tree_spliceAll
    (inserts : ∀ child ∈ items, ∃ new, insertAtLeaf wrap target child = some new ∧
      Tree (least + 1) new) (parentAxis : String) (found : Bool) :
    let spliced := spliceAll parentAxis found
      (items.map fun child => (child, insertAtLeaf wrap target child))
    (∀ child ∈ spliced.1, Tree (least + 1) child) ∧ items.length ≤ spliced.1.length := by
  induction items generalizing found with
  | nil => exact ⟨fun _ mem => absurd mem not_mem_nil, le_refl 0⟩
  | cons child rest ih =>
    intro spliced
    obtain ⟨updated, ins, tree⟩ := inserts child mem_cons_self
    obtain ⟨later, longer⟩ := ih
      (fun other mem => inserts other (mem_cons_of_mem _ mem))
      (found || decide (updated ≠ child))
    have unfolded : spliced.1 = splice parentAxis (found || decide (updated ≠ child)) updated ++
          (spliceAll parentAxis (found || decide (updated ≠ child))
            (rest.map fun child => (child, insertAtLeaf wrap target child))).1 := by
      simp [spliced, ins, spliceAll]
    have positive := length_splice_pos tree parentAxis (found || decide (updated ≠ child))
    rw [unfolded, length_cons, length_append]
    refine ⟨fun other mem => ?_, by omega⟩
    rcases mem_append.mp mem with here | there
    · exact tree_splice tree _ _ other here
    · exact later other there

theorem tree_insertAtLeaf (wraps : ∀ node, Tree (least + 1) node → Tree (least + 1) (wrap node))
    (formed : WellFormed node) (tree : Tree (least + 1) node) :
    ∃ new, insertAtLeaf wrap target node = some new ∧ Tree (least + 1) new := by
  induction formed with
  | @leaf node pane type named =>
    rw [insertAtLeaf_leaf wrap target type named]
    by_cases here : pane = target
    · exact ⟨wrap node, if_pos here, wraps node tree⟩
    · exact ⟨node, if_neg here, tree⟩
  | @split node side items type along found nonempty below ih =>
    cases tree with
    | leaf isLeaf named =>
      rw [type] at isLeaf
      exact absurd isLeaf (by decide)
    | @split _ items' ratios _ found' shared balanced enough trees =>
      cases found.symm.trans found'
      have all := tree_spliceAll
        (fun child mem => ih child mem (trees child mem))
        (Layout.normalizeSplitDirection side) false
      rw [insertAtLeaf_split wrap target type along found]
      split
      rename_i newChildren changed spliced
      rw [spliced] at all
      cases changed with
      | true =>
        have shape (ratio : Json) : Tree (least + 1)
            ((node.set "children" (.arr (newChildren.map (·.set "ratio" ratio)))).set "ratios"
              (shares (newChildren.map (·.set "ratio" ratio)).length)) := by
          refine Tree.set_shares type ?_ fun child mem => ?_
          · rw [length_map]
            exact enough.trans all.2
          · obtain ⟨old, isOld, rfl⟩ := List.mem_map.mp mem
            exact (all.1 old isOld).set (by decide) (by decide) (by decide) (by decide) _
        simp only [length_map] at shape
        exact ⟨_, if_pos rfl, shape _⟩
      | false =>
        exact ⟨node, if_neg Bool.false_ne_true, .split type found shared balanced enough trees⟩

theorem leaves_of_count (once : (collectLeafPaneIds node).count target = 1) :
    ∃ front leaf back, leaves node = front ++ leaf :: back ∧ leaf.getStr "paneId" = some target ∧
      ∀ other ∈ front ++ back, other.getStr "paneId" ≠ some target := by
  have held : target ∈ collectLeafPaneIds node :=
    count_pos_iff.mp (by rw [once]; exact Nat.one_pos)
  rw [collectLeafPaneIds_leaves] at held once
  obtain ⟨leaf, mem, named⟩ := mem_filterMap.mp held
  obtain ⟨front, back, parts⟩ := append_of_mem mem
  refine ⟨front, leaf, back, parts, named, fun other isOther isTarget => ?_⟩
  have again : target ∈ (front ++ back).filterMap (getStr "paneId") :=
    mem_filterMap.mpr ⟨other, isOther, isTarget⟩
  have positive := count_pos_iff.mpr again
  rw [parts, filterMap_append, filterMap_cons_some named, count_append, count_cons_self] at once
  rw [filterMap_append, count_append] at positive
  omega

/-- In a layout without the target nothing changes. Where the target is once, the new leaves stand
next to it. -/
def Spliced (target : PaneId) (before behind : List Json) (layout : Json)
    (result : Option Json) : Prop :=
  (target ∉ collectLeafPaneIds layout → result = some layout) ∧
    ((collectLeafPaneIds layout).count target = 1 →
      ∃ new front leaf back, result = some new ∧ Tree 1 new ∧
        leaves layout = front ++ leaf :: back ∧ leaf.getStr "paneId" = some target ∧
        bareLeaves new = front.map (Json.without "ratio") ++
          (before ++ leaf.without "ratio" :: behind) ++ back.map (Json.without "ratio"))

theorem insertAtLeaf_spliced {before behind : List Json} (formed : WellFormed node)
    (tree : Tree 1 node) (wraps : ∀ leaf, Tree 1 leaf → Tree 1 (wrap leaf))
    (puts : ∀ leaf ∈ leaves node,
      bareLeaves (wrap leaf) = before ++ leaf.without "ratio" :: behind) :
    Spliced target before behind node (insertAtLeaf wrap target node) := by
  refine ⟨insertAtLeaf_absent formed, fun once => ?_⟩
  obtain ⟨new, ins, shape⟩ := tree_insertAtLeaf wraps formed tree
  have stands : ∃ new, insertAtLeaf wrap target node = some new ∧
      bareLeaves new = (leaves node).flatMap (wrapped wrap target) :=
    insertAtLeaf_leaves formed
  obtain ⟨same, isSame, stand⟩ := stands
  cases ins.symm.trans isSame
  obtain ⟨front, leaf, back, parts, named, others⟩ := leaves_of_count once
  refine ⟨new, front, leaf, back, ins, shape, parts, named, ?_⟩
  have kept (others : List Json) (other : ∀ leaf ∈ others, leaf.getStr "paneId" ≠ some target) :
      others.flatMap (wrapped wrap target) = others.map (without "ratio") := by
    rw [map_eq_flatMap]
    exact flatMap_congr fun leaf mem => if_neg (other leaf mem)
  rw [stand, parts, flatMap_append, flatMap_cons, wrapped, if_pos named,
    kept front fun other mem => others other (mem_append_left _ mem),
    kept back fun other mem => others other (mem_append_right _ mem),
    puts leaf (parts ▸ mem_append_right _ mem_cons_self)]
  simp

end Insertion

/-! ### New leaves next to the target -/

theorem bareLeaves_of_mem {leaf : Json} (mem : leaf ∈ leaves node) :
    bareLeaves leaf = [leaf.without "ratio"] := by
  have single : leaves leaf = [leaf] := by
    induction node using node_induction with
    | leaf node pane isLeaf named =>
      rw [leaves_of_leaf isLeaf named, mem_singleton] at mem
      rw [mem, leaves_of_leaf isLeaf named]
    | nameless node isLeaf nameless =>
      rw [leaves_of_nameless isLeaf nameless] at mem
      cases mem
    | inner node notLeaf below =>
      rw [leaves_of_ne notLeaf] at mem
      obtain ⟨child, isChild, inChild⟩ := mem_flatMap.mp mem
      exact below child isChild inChild
  rw [bareLeaves, single, map_singleton]

variable (title shellType : Option String)

theorem tree_newLeaf : Tree least (newLeaf pane title shellType) := .leaf rfl rfl

theorem bareLeaves_newLeaf :
    bareLeaves (newLeaf pane title shellType) =
      [(newLeaf pane title shellType).without "ratio"] := by
  rw [bareLeaves, leaves_of_leaf rfl rfl, map_singleton]

theorem wellFormed_paneLeaf : WellFormed (paneLeaf pane) := .leaf rfl rfl

end Dinotty.Session.Stored
