/-
This file is what an insertion does to the rest of a layout.
-/

import Dinotty.Session.LayoutShape

namespace Dinotty.Session.Stored

open List Json

/-! ### Insertions that spare the other subtrees -/

/-- A subtree without the target stays as it is, and only the new split around the target is spliced
into its parent. -/
def insertSparing (wrap : Json → Json) (target : PaneId) (layout : Json) : Json :=
  if target ∉ collectLeafPaneIds layout then layout
  else if layout.getStr "type" = some "leaf" then wrap layout
  else
    let axis := Layout.normalizeSplitDirection ((layout.getStr "direction").getD "")
    let newChildren := (children layout).attach.flatMap fun child =>
      splice axis (decide (child.1.getStr "type" = some "leaf"))
        (insertSparing wrap target child.1)
    let ratio := Json.num (Layout.share newChildren.length)
    (layout.set "children" (.arr (newChildren.map (·.set "ratio" ratio)))).set "ratios"
      (shares newChildren.length)
termination_by sizeOf layout
decreasing_by exact sizeOf_of_mem_children child.2

def Along (axis : String) (node : Json) : Prop :=
  node.getStr "type" = some "split" ∧
    (node.getStr "direction").map Layout.normalizeSplitDirection = some axis

instance (axis : String) (node : Json) : Decidable (Along axis node) :=
  inferInstanceAs (Decidable (_ ∧ _))

/-- From the first child with the target on, no child is a split along the axis. -/
def Crossing (axis : String) (target : PaneId) : Bool → List Json → Prop
  | _, [] => True
  | found, child :: rest =>
      let reached := found || decide (target ∈ collectLeafPaneIds child)
      (reached = true → ¬ Along axis child) ∧ Crossing axis target reached rest

/-- In every split with the target, the children from it on are no splits along its axis. -/
inductive Undisturbed (target : PaneId) : Json → Prop
  | absent {node : Json} (absent : target ∉ collectLeafPaneIds node) : Undisturbed target node
  | leaf {node : Json} (type : node.getStr "type" = some "leaf") : Undisturbed target node
  | split {node : Json} {direction : String} {items : List Json}
      (type : node.getStr "type" = some "split")
      (along : node.getStr "direction" = some direction)
      (found : node.getArray "children" = some items)
      (crossing : Crossing (Layout.normalizeSplitDirection direction) target false items)
      (below : ∀ child ∈ items, Undisturbed target child) : Undisturbed target node

variable {wrap : Json → Json} {target : PaneId} {node child : Json} {items : List Json}

theorem insertSparing_absent (absent : target ∉ collectLeafPaneIds node) :
    insertSparing wrap target node = node := by
  rw [insertSparing, if_pos absent]

theorem insertSparing_split (wrap : Json → Json) {direction : String}
    (isSplit : node.getStr "type" = some "split")
    (along : node.getStr "direction" = some direction)
    (found : node.getArray "children" = some items) (held : target ∈ collectLeafPaneIds node) :
    insertSparing wrap target node =
      let newChildren := items.flatMap fun child =>
        splice (Layout.normalizeSplitDirection direction)
          (decide (child.getStr "type" = some "leaf")) (insertSparing wrap target child)
      let ratio := num (Layout.share newChildren.length)
      (node.set "children" (.arr (newChildren.map (·.set "ratio" ratio)))).set "ratios"
        (shares newChildren.length) := by
  have attached (axis : String) : ((children node).attach.flatMap fun child =>
      splice axis (decide (child.1.getStr "type" = some "leaf"))
        (insertSparing wrap target child.1)) =
      items.flatMap fun child =>
        splice axis (decide (child.getStr "type" = some "leaf"))
          (insertSparing wrap target child) := by
    rw [← children_of_split isSplit found]
    conv_rhs => rw [← List.attach_map_subtype_val (children node), flatMap_map]
  rw [insertSparing, if_neg (not_not.mpr held), if_neg (by rw [isSplit]; decide), along]
  dsimp only [Option.getD_some]
  rw [attached]

/-! ### Counting nodes -/

theorem nodeCount_set_ratio (node ratio : Json) :
    nodeCount (node.set "ratio" ratio) = nodeCount node := by
  rw [nodeCount_eq, nodeCount_eq, children_set_of_ne (by decide) (by decide)]

theorem nodeCount_set_shares (isSplit : node.getStr "type" = some "split") (ratio shares : Json) :
    nodeCount ((node.set "children" (.arr (items.map (·.set "ratio" ratio)))).set "ratios" shares) =
      1 + (items.map nodeCount).sum := by
  rw [nodeCount_eq, children_set_of_ne (by decide) (by decide), children_set_children isSplit,
    List.map_map]
  exact congrArg (fun counts => 1 + List.sum counts)
    (map_congr_left fun child _ => nodeCount_set_ratio child ratio)

theorem nodeCount_splice {axis : String} {changed : Bool}
    (found : ∃ items, node.getArray "children" = some items) :
    ((splice axis changed node).map nodeCount).sum +
      (if changed = true ∧ Along axis node then 1 else 0) = nodeCount node := by
  obtain ⟨items, found⟩ := found
  unfold splice Along
  split_ifs with spliced
  · rw [found, Option.getD_some, nodeCount_eq node, children_of_split spliced.2.1 found,
      Nat.add_comm]
  · simp

/-! ### Insertions side by side -/

/-- The insertion has no more nodes than the one that spares, and as many exactly if the two agree.
-/
structure Lags (wrap : Json → Json) (target : PaneId) (node new : Json) : Prop where
  inserted : insertAtLeaf wrap target node = some new
  nodeCount_le : nodeCount new ≤ nodeCount (insertSparing wrap target node)
  same : Undisturbed target node → new = insertSparing wrap target node
  undisturbed : nodeCount (insertSparing wrap target node) ≤ nodeCount new → Undisturbed target node
  differs : target ∈ collectLeafPaneIds node → new ≠ node
  along (axis : String) : node.getStr "type" = some "split" → (Along axis new ↔ Along axis node)
  children : node.getStr "type" = some "split" → ∃ items, new.getArray "children" = some items

theorem Lags.absent (formed : WellFormed node) (absent : target ∉ collectLeafPaneIds node) :
    Lags wrap target node node where
  inserted := insertAtLeaf_absent formed absent
  nodeCount_le := by rw [insertSparing_absent absent]
  same := fun _ => (insertSparing_absent absent).symm
  undisturbed := fun _ => .absent absent
  differs := fun held => (absent held).elim
  along := fun _ _ => Iff.rfl
  children := fun isSplit => by
    cases formed with
    | leaf type named =>
      rw [isSplit] at type
      exact absurd type (by decide)
    | split type along found nonempty below => exact ⟨_, found⟩

theorem splice_leaf {axis : String} {changed : Bool} (isLeaf : node.getStr "type" = some "leaf") :
    splice axis changed node = [node] := by
  unfold splice
  rw [if_neg fun spliced => absurd (isLeaf.symm.trans spliced.2.1) (by decide)]

theorem Lags.piece {new : Json} {reached : Bool} (axis : String) (formed : WellFormed child)
    (lags : Lags wrap target child new)
    (here : target ∈ collectLeafPaneIds child → reached = true) :
    let made := splice axis reached new
    let wanted := splice axis (decide (child.getStr "type" = some "leaf"))
      (insertSparing wrap target child)
    ((made.map nodeCount).sum ≤ (wanted.map nodeCount).sum) ∧
      ((reached = true → ¬ Along axis child) → Undisturbed target child → made = wanted) ∧
      ((wanted.map nodeCount).sum ≤ (made.map nodeCount).sum →
        (reached = true → ¬ Along axis child) ∧ Undisturbed target child) := by
  intro made wanted
  by_cases isLeaf : child.getStr "type" = some "leaf"
  · have same := lags.same (.leaf isLeaf)
    have notAlong : ¬ Along axis child := fun along =>
      absurd (isLeaf.symm.trans along.1) (by decide)
    have pieces : made = wanted := by
      by_cases held : target ∈ collectLeafPaneIds child
      · simp [made, wanted, here held, same, isLeaf]
      · have stays : new = child := same.trans (insertSparing_absent held)
        have spared : insertSparing wrap target child = child := insertSparing_absent held
        simp only [made, wanted, stays, spared]
        rw [splice_leaf isLeaf, splice_leaf isLeaf]
    exact ⟨by rw [pieces], fun _ _ => pieces, fun _ => ⟨fun _ => notAlong, .leaf isLeaf⟩⟩
  · have isSplit : child.getStr "type" = some "split" := by
      cases formed with
      | leaf type named => exact absurd type isLeaf
      | split type along found nonempty below => exact type
    have single : wanted = [insertSparing wrap target child] := by
      simp only [wanted, isLeaf, decide_false, splice]
      rw [if_neg fun spliced => Bool.false_ne_true spliced.1]
    have count : (made.map nodeCount).sum + (if reached = true ∧ Along axis new then 1 else 0) =
      nodeCount new := nodeCount_splice (lags.children isSplit)
    have le := lags.nodeCount_le
    simp only [lags.along axis isSplit] at count
    rw [single, map_singleton, sum_singleton]
    refine ⟨by omega, fun crossing undisturbed => ?_, fun enough => ?_⟩
    · rw [← lags.same undisturbed]
      exact if_neg fun spliced => crossing spliced.1 ((lags.along axis isSplit).mp spliced.2)
    · split_ifs at count with spliced
      · omega
      · exact ⟨fun reached along => spliced ⟨reached, along⟩, lags.undisturbed (by omega)⟩

theorem lags_spliceAll (axis : String)
    (lag : ∀ child ∈ items, WellFormed child ∧ ∃ new, Lags wrap target child new) (found : Bool) :
    let spliced := spliceAll axis found
      (items.map fun child => (child, insertAtLeaf wrap target child))
    let wanted := items.flatMap fun child =>
      splice axis (decide (child.getStr "type" = some "leaf")) (insertSparing wrap target child)
    (spliced.1.map nodeCount).sum ≤ (wanted.map nodeCount).sum ∧
      (Crossing axis target found items → (∀ child ∈ items, Undisturbed target child) →
        spliced.1 = wanted) ∧
      ((wanted.map nodeCount).sum ≤ (spliced.1.map nodeCount).sum →
        Crossing axis target found items ∧ ∀ child ∈ items, Undisturbed target child) ∧
      ((∃ child ∈ items, target ∈ collectLeafPaneIds child) → spliced.2 = true) := by
  induction items generalizing found with
  | nil => exact ⟨le_refl _, fun _ _ => rfl, fun _ => ⟨trivial, nofun⟩,
      fun ⟨_, inNone, _⟩ => nomatch inNone⟩
  | cons child rest ih =>
    intro spliced wanted
    obtain ⟨formed, new, lags⟩ := lag child mem_cons_self
    have reached : (found || decide (new ≠ child)) =
        (found || decide (target ∈ collectLeafPaneIds child)) := by
      by_cases held : target ∈ collectLeafPaneIds child
      · rw [decide_eq_true held, decide_eq_true (lags.differs held)]
      · have stays : new = child := Option.some.inj
          (lags.inserted.symm.trans (insertAtLeaf_absent formed held))
        rw [decide_eq_false held, decide_eq_false (not_not.mpr stays)]
    have unfolded : spliced =
        (splice axis (found || decide (target ∈ collectLeafPaneIds child)) new ++
            (spliceAll axis (found || decide (target ∈ collectLeafPaneIds child))
              (rest.map fun child => (child, insertAtLeaf wrap target child))).1,
          (spliceAll axis (found || decide (target ∈ collectLeafPaneIds child))
            (rest.map fun child => (child, insertAtLeaf wrap target child))).2) := by
      simp only [spliced, map_cons, lags.inserted, spliceAll, reached]
    obtain ⟨le, same, calm⟩ := lags.piece axis formed
      (fun held => by rw [decide_eq_true held, Bool.or_true] :
        target ∈ collectLeafPaneIds child →
          (found || decide (target ∈ collectLeafPaneIds child)) = true)
    obtain ⟨leRest, sameRest, calmRest, foundRest⟩ := ih
      (fun other mem => lag other (mem_cons_of_mem _ mem))
      (found || decide (target ∈ collectLeafPaneIds child))
    simp only [unfolded, wanted, flatMap_cons, map_append, sum_append]
    refine ⟨by omega, fun crossing undisturbed => ?_, fun enough => ?_, fun held => ?_⟩
    · rw [same crossing.1 (undisturbed child mem_cons_self),
        sameRest crossing.2 fun other mem => undisturbed other (mem_cons_of_mem _ mem)]
    · obtain ⟨crossing, calmChild⟩ := calm (by omega)
      obtain ⟨crossingRest, calmOthers⟩ := calmRest (by omega)
      exact ⟨⟨crossing, crossingRest⟩, forall_mem_cons.mpr ⟨calmChild, calmOthers⟩⟩
    · obtain ⟨other, mem, inOther⟩ := held
      rcases mem_cons.mp mem with rfl | later
      · exact spliceAll_found (by rw [decide_eq_true inOther, Bool.or_true])
      · exact foundRest ⟨other, later, inOther⟩

/-- A leaf is wrapped together with others. -/
def Grows (wrap : Json → Json) : Prop :=
  ∀ leaf, bareLeaves leaf ≠ [] → 2 ≤ (bareLeaves (wrap leaf)).length

theorem length_lt_wrapped (grows : Grows wrap) (held : target ∈ collectLeafPaneIds node) :
    (bareLeaves node).length < ((leaves node).flatMap (wrapped wrap target)).length := by
  have leafy : ∀ leaf ∈ leaves node, bareLeaves leaf ≠ [] := fun leaf mem => by
    rw [bareLeaves_of_mem mem]
    exact cons_ne_nil _ _
  rw [collectLeafPaneIds_leaves] at held
  obtain ⟨leaf, mem, named⟩ := mem_filterMap.mp held
  have counted : (bareLeaves node).length = ((leaves node).map fun _ => 1).sum := by
    simp [bareLeaves]
  rw [counted, length_flatMap]
  refine sum_lt_sum _ _ (fun other isOther => ?_) ⟨leaf, mem, ?_⟩
  · unfold wrapped
    split_ifs
    · exact Nat.le_of_succ_le (grows other (leafy other isOther))
    · exact le_refl 1
  · rw [wrapped, if_pos named]
    exact grows leaf (leafy leaf mem)

theorem exists_lags (target : PaneId) (grows : Grows wrap) (formed : WellFormed node) :
    ∃ new, Lags wrap target node new := by
  induction formed with
  | @leaf node pane type named =>
    by_cases here : pane = target
    · subst here
      have panes : collectLeafPaneIds node = [pane] := by
        rw [collectLeafPaneIds_eq, if_pos type, named]
        rfl
      have spared : insertSparing wrap pane node = wrap node := by
        rw [insertSparing, if_neg (by rw [panes]; simp), if_pos type]
      refine ⟨wrap node, ?_, by rw [spared], fun _ => spared.symm, fun _ => .leaf type,
        fun _ same => ?_, fun _ isSplit => ?_, fun isSplit => ?_⟩
      · rw [insertAtLeaf_leaf wrap pane type named, if_pos rfl]
      · have single : bareLeaves node = [node.without "ratio"] := by
          rw [bareLeaves, leaves_of_leaf type named, map_singleton]
        have grown := grows node (by rw [single]; exact cons_ne_nil _ _)
        rw [same, single] at grown
        exact Nat.not_succ_le_self 1 grown
      all_goals exact absurd (type.symm.trans isSplit) (by decide)
    · refine ⟨node, .absent (.leaf type named) ?_⟩
      rw [collectLeafPaneIds_eq, if_pos type, named]
      simpa using Ne.symm here
  | @split node side items type along found nonempty below ih =>
    have formed : WellFormed node := .split type along found nonempty below
    by_cases held : target ∈ collectLeafPaneIds node
    · obtain ⟨le, same, calm, changes⟩ := lags_spliceAll
        (Layout.normalizeSplitDirection side)
        (fun child mem => ⟨below child mem, ih child mem⟩) false
      have inChild : ∃ child ∈ items, target ∈ collectLeafPaneIds child := by
        rw [collectLeafPaneIds_eq, if_neg (by rw [type]; decide),
          children_of_split type found] at held
        exact mem_flatMap.mp held
      have stands : ∃ new, insertAtLeaf wrap target node = some new ∧
          bareLeaves new = (leaves node).flatMap (wrapped wrap target) :=
        insertAtLeaf_leaves formed
      obtain ⟨new, inserted, leaves⟩ := stands
      have made := inserted
      rw [insertAtLeaf_split wrap target type along found] at made
      dsimp only at made
      rw [if_pos (changes inChild)] at made
      cases made
      have spared := insertSparing_split wrap type along found held
      dsimp only at spared
      refine ⟨_, inserted, ?_, fun undisturbed => ?_, fun enough => ?_, fun _ stays => ?_,
        fun axis _ => ?_, fun _ => ?_⟩
      · rw [spared, nodeCount_set_shares type, nodeCount_set_shares type]
        omega
      · cases undisturbed with
        | absent absent => exact absurd held absent
        | leaf isLeaf => exact absurd (isLeaf.symm.trans type) (by decide)
        | split _ along' found' crossing below' =>
          cases along.symm.trans along'
          cases found.symm.trans found'
          rw [spared, same crossing below']
      · rw [spared, nodeCount_set_shares type, nodeCount_set_shares type] at enough
        obtain ⟨crossing, calmBelow⟩ := calm (by omega)
        exact .split type along found crossing calmBelow
      · have grown := length_lt_wrapped grows held
        rw [← leaves, stays] at grown
        exact lt_irrefl _ grown
      · unfold Along
        rw [getStr_set_of_ne (by decide), getStr_set_of_ne (by decide),
          getStr_set_of_ne (by decide), getStr_set_of_ne (by decide)]
      · exact ⟨_, (getArray_set_of_ne (by decide) _ _).trans
          (getArray_set_self (isObject_of_getStr type) "children" _)⟩
    · exact ⟨node, .absent formed held⟩

/-! ### When the other subtrees stay -/

theorem insertAtLeaf_eq_sparing_iff (grows : Grows wrap) (formed : WellFormed node) :
    insertAtLeaf wrap target node = some (insertSparing wrap target node) ↔
      Undisturbed target node := by
  obtain ⟨new, lags⟩ := exists_lags target grows formed
  rw [lags.inserted, Option.some.injEq]
  exact ⟨fun same => lags.undisturbed (same ▸ le_refl _), lags.same⟩

theorem grows_halves {subtree : Json} (some : collectLeafPaneIds subtree ≠ [])
    (splitId side : String) :
    Grows (fun leaf => halves splitId side leaf subtree) ∧
      Grows fun leaf => halves splitId side subtree leaf := by
  have more : 1 ≤ (bareLeaves subtree).length := by
    refine length_pos_of_ne_nil fun none => some ?_
    rw [collectLeafPaneIds_leaves, map_eq_nil_iff.mp none, filterMap_nil]
  constructor
  all_goals
    intro leaf leafy
    have own := length_pos_of_ne_nil leafy
    rw [bareLeaves_halves, length_append]
    omega

theorem panes_newLeaf_ne_nil (pane : PaneId) (title shellType : Option String) :
    collectLeafPaneIds (newLeaf pane title shellType) ≠ [] := by
  have isLeaf : (newLeaf pane title shellType).getStr "type" = some "leaf" := rfl
  rw [collectLeafPaneIds_eq, if_pos isLeaf]
  exact cons_ne_nil pane []

theorem wellFormed_halves {first second : Json} (id side : String)
    (front : WellFormed first) (back : WellFormed second) :
    WellFormed (halves id side first second) :=
  .split rfl rfl rfl (cons_ne_nil _ _) fun child mem => by
    rcases mem_pair.mp mem with rfl | rfl
    · exact front
    · exact back

end Dinotty.Session.Stored
