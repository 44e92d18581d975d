/-
This file is the layouts as they are stored: any JSON that a client has sent. The operations on them
look only at what they need, and what they do with an odd node differs.
-/

import Dinotty.Foundation.Json
import Dinotty.Session.Layout

namespace Dinotty.Session.Stored

open List Option Json

/-! ### Reading a layout -/

def collectLeafPaneIds (node : Json) : List PaneId :=
  match node.getStr "type" with
  | some "leaf" => (node.getStr "paneId").toList
  | some "split" =>
      match _found : node.getArray "children" with
      | some children => children.attach.flatMap fun child => collectLeafPaneIds child.1
      | none => []
  | _ => []
termination_by sizeOf node
decreasing_by exact Json.sizeOf_of_mem_getArray _found child.2

/-- A leaf without a kind is a terminal. -/
def leafKind (node : Json) : String := (node.getStr "kind").getD "terminal"

def collectTerminalLeafPaneIds (node : Json) : List PaneId :=
  match node.getStr "type" with
  | some "leaf" => if leafKind node = "terminal" then (node.getStr "paneId").toList else []
  | some "split" =>
      match _found : node.getArray "children" with
      | some children => children.attach.flatMap fun child => collectTerminalLeafPaneIds child.1
      | none => []
  | _ => []
termination_by sizeOf node
decreasing_by exact Json.sizeOf_of_mem_getArray _found child.2

def firstLeafId (node : Json) : Option PaneId :=
  match node.getStr "type" with
  | some "leaf" => node.getStr "paneId"
  | some "split" =>
      match _found : node.getArray "children" with
      | some children => children.attach.findSome? fun child => firstLeafId child.1
      | none => none
  | _ => none
termination_by sizeOf node
decreasing_by exact Json.sizeOf_of_mem_getArray _found child.2

def extractLeafFromLayout (pane : PaneId) (node : Json) : Option Json :=
  match node.getStr "type" with
  | some "leaf" => if node.getStr "paneId" = some pane then some node else none
  | some "split" =>
      match _found : node.getArray "children" with
      | some children => children.attach.findSome? fun child => extractLeafFromLayout pane child.1
      | none => none
  | _ => none
termination_by sizeOf node
decreasing_by exact Json.sizeOf_of_mem_getArray _found child.2

/-- Mark every leaf without a kind as a terminal. -/
def ensureLeafKind (node : Json) : Json :=
  match node.getStr "type" with
  | some "leaf" =>
      if (node.get "kind").isNone then node.set "kind" (.str "terminal") else node
  | some "split" =>
      match _found : node.getArray "children" with
      | some children =>
          node.set "children" (.arr (children.attach.map fun child => ensureLeafKind child.1))
      | none => node
  | _ => node
termination_by sizeOf node
decreasing_by exact Json.sizeOf_of_mem_getArray _found child.2

/-! ### Removing a pane -/

/-- The equal shares of so many children. -/
def shares (count : Nat) : Json := .arr (List.replicate count (.num (Layout.share count)))

/-- What is left of a split when `kept` of its `count` children are left. -/
def closeGap (node : Json) (count : Nat) (kept : List Json) : Option Json :=
  if kept.isEmpty then none
  else if kept.length = count then some (node.set "children" (.arr kept))
  else
    match kept with
    | [child] => some child
    | _ => some ((node.set "children" (.arr kept)).set "ratios" (shares kept.length))

/-- Remove a pane. Nothing is answered for a node without a leaf left, a type, a pane or children.
-/
def removePaneFromLayout (pane : PaneId) (node : Json) : Option Json :=
  match node.getStr "type" with
  | none => none
  | some "leaf" =>
      match node.getStr "paneId" with
      | none => none
      | some found => if found = pane then none else some node
  | some "split" =>
      match _found : node.getArray "children" with
      | none => none
      | some children =>
          closeGap node children.length
            (children.attach.filterMap fun child => removePaneFromLayout pane child.1)
  | some _ => some node
termination_by sizeOf node
decreasing_by exact Json.sizeOf_of_mem_getArray _found child.2

/-! ### Wrapping a pane in a split -/

/-- What an updated child contributes to its parent: the children of a changed split along the
axis of the parent, else itself. -/
def splice (parentAxis : String) (changed : Bool) (updated : Json) : List Json :=
  if changed ∧ updated.getStr "type" = some "split" ∧
      (updated.getStr "direction").map Layout.normalizeSplitDirection = some parentAxis then
    (updated.getArray "children").getD [updated]
  else [updated]

/-- The children of a split, given with what has become of each, after the replacement, with
whether one has changed. -/
def spliceAll (parentAxis : String) : Bool → List (Json × Option Json) → List Json × Bool
  | found, [] => ([], found)
  | found, (_, none) :: rest => spliceAll parentAxis found rest
  | found, (child, some updated) :: rest =>
      let changed := found || decide (updated ≠ child)
      let (later, foundLater) := spliceAll parentAxis changed rest
      (splice parentAxis changed updated ++ later, foundLater)

/-- Replace the leaf of `target` by what `wrap` makes of it. A new split along the axis of its
parent is spliced into it. -/
def insertAtLeaf (wrap : Json → Json) (target : PaneId) (layout : Json) : Option Json :=
  match layout.getStr "type" with
  | none => none
  | some "leaf" =>
      match layout.getStr "paneId" with
      | none => none
      | some pane => if pane = target then some (wrap layout) else some layout
  | some "split" =>
      match layout.getStr "direction", _found : layout.getArray "children" with
      | some parentDirection, some children =>
          let (newChildren, found) :=
            spliceAll (Layout.normalizeSplitDirection parentDirection) false
              (children.attach.map fun child => (child.1, insertAtLeaf wrap target child.1))
          if found then
            let ratio := Json.num (Layout.share newChildren.length)
            some ((layout.set "children" (.arr (newChildren.map (·.set "ratio" ratio)))).set
              "ratios" (shares newChildren.length))
          else some layout
      | _, _ => none
  | some _ => some layout
termination_by sizeOf layout
decreasing_by exact Json.sizeOf_of_mem_getArray _found child.2

def halves (id direction : String) (first second : Json) : Json :=
  .obj [("type", .str "split"), ("id", .str id), ("direction", .str direction),
    ("children", .arr [first, second]), ("ratios", .arr [.num (1 / 2), .num (1 / 2)])]

def newLeaf (pane : PaneId) (title shellType : Option String) : Json :=
  .obj ([("type", .str "leaf"), ("paneId", .str pane),
    ("title", .str (title.getD "Terminal")), ("ratio", .num 1), ("zoomed", .bool false)] ++
    (shellType.map fun shell => ("shell_type", Json.str shell)).toList)

/-- Put a new leaf behind the leaf of `target`. The split keeps the direction as it is given. -/
def insertPaneIntoLayoutInner (target : PaneId) (direction splitId : String) (pane : PaneId)
    (title shellType : Option String) (layout : Json) : Option Json :=
  insertAtLeaf (fun leaf => halves splitId direction leaf (newLeaf pane title shellType))
    target layout

/-- Put a subtree beside the leaf of `target`, in front of it when it comes from the left or from
the top. -/
def insertSubtreeIntoLayout (target : PaneId) (direction splitId : String) (subtree : Json)
    (layout : Json) : Option Json :=
  insertAtLeaf
    (fun leaf =>
      if direction = "left" ∨ direction = "top" then
        halves splitId (Layout.normalizeSplitDirection direction) subtree leaf
      else halves splitId (Layout.normalizeSplitDirection direction) leaf subtree)
    target layout

/-! ### The leaves of a layout -/

/-- The children that the operations look into. -/
def children (node : Json) : List Json :=
  if node.getStr "type" = some "split" then (node.getArray "children").getD [] else []

variable {node : Json} {items : List Json}

theorem children_of_split (split : node.getStr "type" = some "split")
    (found : node.getArray "children" = some items) :
    children node = items := by
  rw [children, if_pos split, found, getD_some]

theorem children_of_ne (other : node.getStr "type" ≠ some "split") :
    children node = [] := if_neg other

theorem sizeOf_of_mem_children {child : Json} (mem : child ∈ children node) :
    sizeOf child < sizeOf node := by
  unfold children at mem
  split at mem
  · cases found : node.getArray "children" with
    | none => simp [found] at mem
    | some items =>
      rw [found, getD_some] at mem
      exact sizeOf_of_mem_getArray found mem
  · cases mem

/-- To prove a property of every node, prove it of a node whose children have it. -/
theorem induction_on_children {property : Json → Prop}
    (step : ∀ node, (∀ child ∈ children node, property child) → property node) (node : Json) :
    property node :=
  step node fun child mem =>
    have := sizeOf_of_mem_children mem
    induction_on_children step child
termination_by sizeOf node

/-- The leaves that have a pane, from left to right. -/
def leaves (node : Json) : List Json :=
  if node.getStr "type" = some "leaf" then
    if (node.getStr "paneId").isSome then [node] else []
  else (children node).attach.flatMap fun child => leaves child.1
termination_by sizeOf node
decreasing_by exact sizeOf_of_mem_children child.2

variable {pane : PaneId}

theorem leaves_of_leaf (leaf : node.getStr "type" = some "leaf")
    (named : node.getStr "paneId" = some pane) : leaves node = [node] := by
  rw [leaves, if_pos leaf, named, isSome_some, if_pos rfl]

theorem leaves_of_nameless (leaf : node.getStr "type" = some "leaf")
    (nameless : node.getStr "paneId" = none) : leaves node = [] := by
  rw [leaves, if_pos leaf, nameless, isSome_none, if_neg Bool.false_ne_true]

theorem leaves_of_ne (other : node.getStr "type" ≠ some "leaf") :
    leaves node = (children node).flatMap leaves := by
  rw [leaves, if_neg other]
  simp

theorem leaves_of_split (split : node.getStr "type" = some "split")
    (found : node.getArray "children" = some items) :
    leaves node = items.flatMap leaves := by
  rw [leaves_of_ne (by rw [split]; decide), children_of_split split found]

variable {Result : Type}

theorem byType_eq (node : Json) (atLeaf : Result) (atChildren : List Json → Result) :
    (match node.getStr "type" with
      | some "leaf" => atLeaf
      | some "split" =>
          match _found : node.getArray "children" with
          | some children => atChildren children
          | none => atChildren []
      | _ => atChildren []) =
      if node.getStr "type" = some "leaf" then atLeaf else atChildren (children node) := by
  split
  next leaf =>
    rw [if_pos leaf]
  next isSplit =>
    rw [isSplit, if_neg (by decide), children, if_pos isSplit]
    split <;> rename_i found <;> rw [found] <;> rfl
  next notLeaf notSplit =>
    rw [if_neg notLeaf, children_of_ne notSplit]

theorem collectLeafPaneIds_eq (node : Json) : collectLeafPaneIds node =
      if node.getStr "type" = some "leaf" then (node.getStr "paneId").toList
      else (children node).flatMap collectLeafPaneIds := by
  rw [collectLeafPaneIds]
  simp only [flatMap_subtype, List.unattach_attach]
  exact byType_eq node _ fun items => items.flatMap collectLeafPaneIds

theorem collectTerminalLeafPaneIds_eq (node : Json) : collectTerminalLeafPaneIds node =
      if node.getStr "type" = some "leaf" then
        if leafKind node = "terminal" then (node.getStr "paneId").toList else []
      else (children node).flatMap collectTerminalLeafPaneIds := by
  rw [collectTerminalLeafPaneIds]
  simp only [flatMap_subtype, List.unattach_attach]
  exact byType_eq node _ fun items => items.flatMap collectTerminalLeafPaneIds

theorem firstLeafId_eq (node : Json) : firstLeafId node =
      if node.getStr "type" = some "leaf" then node.getStr "paneId"
      else (children node).findSome? firstLeafId := by
  rw [firstLeafId]
  simp only [findSome?_subtype, List.unattach_attach]
  exact byType_eq node _ fun items => items.findSome? firstLeafId

section

variable (pane : PaneId)

theorem extractLeafFromLayout_eq (node : Json) : extractLeafFromLayout pane node =
      if node.getStr "type" = some "leaf" then
        if node.getStr "paneId" = some pane then some node else none
      else (children node).findSome? (extractLeafFromLayout pane) := by
  rw [extractLeafFromLayout]
  simp only [findSome?_subtype, List.unattach_attach]
  exact byType_eq node _ fun items => items.findSome? (extractLeafFromLayout pane)

theorem node_induction {property : Json → Prop}
    (leaf : ∀ node pane, node.getStr "type" = some "leaf" → node.getStr "paneId" = some pane →
      property node)
    (nameless : ∀ node, node.getStr "type" = some "leaf" → node.getStr "paneId" = none →
      property node)
    (inner : ∀ node, node.getStr "type" ≠ some "leaf" →
      (∀ child ∈ children node, property child) → property node) (node : Json) : property node := by
  induction node using induction_on_children with
  | step node below =>
    by_cases isLeaf : node.getStr "type" = some "leaf"
    · cases named : node.getStr "paneId" with
      | none => exact nameless node isLeaf named
      | some pane => exact leaf node pane isLeaf named
    · exact inner node isLeaf below

theorem flatMap_congr_children {first second : Json → List Result}
    (same : ∀ child ∈ children node, first child = second child) :
    (children node).flatMap first = (children node).flatMap second := by
  rw [flatMap_def, flatMap_def, map_congr_left same]

theorem findSome?_congr_children {first second : Json → Option Result}
    (same : ∀ child ∈ children node, first child = second child) :
    (children node).findSome? first = (children node).findSome? second := by
  generalize children node = items at same ⊢
  induction items with
  | nil => rfl
  | cons child rest ih =>
    rw [findSome?_cons, findSome?_cons, same child mem_cons_self,
      ih fun other mem => same other (mem_cons_of_mem _ mem)]

theorem collectLeafPaneIds_leaves (node : Json) :
    collectLeafPaneIds node = (leaves node).filterMap (getStr "paneId") := by
  induction node using node_induction with
  | leaf node pane isLeaf named =>
    rw [collectLeafPaneIds_eq, if_pos isLeaf, leaves_of_leaf isLeaf named, named]
    simp [named]
  | nameless node isLeaf nameless =>
    rw [collectLeafPaneIds_eq, if_pos isLeaf, leaves_of_nameless isLeaf nameless, nameless]
    rfl
  | inner node notLeaf below =>
    rw [collectLeafPaneIds_eq, if_neg notLeaf, leaves_of_ne notLeaf, filterMap_flatMap,
      flatMap_congr_children below]

theorem collectTerminalLeafPaneIds_leaves (node : Json) : collectTerminalLeafPaneIds node =
      ((leaves node).filter (leafKind · = "terminal")).filterMap (getStr "paneId") := by
  induction node using node_induction with
  | leaf node pane isLeaf named =>
    rw [collectTerminalLeafPaneIds_eq, if_pos isLeaf, leaves_of_leaf isLeaf named, named]
    by_cases terminal : leafKind node = "terminal" <;> simp [terminal, named]
  | nameless node isLeaf nameless =>
    rw [collectTerminalLeafPaneIds_eq, if_pos isLeaf, leaves_of_nameless isLeaf nameless, nameless]
    split <;> rfl
  | inner node notLeaf below =>
    rw [collectTerminalLeafPaneIds_eq, if_neg notLeaf, leaves_of_ne notLeaf, filter_flatMap,
      filterMap_flatMap, flatMap_congr_children below]

theorem firstLeafId_leaves (node : Json) : firstLeafId node = (collectLeafPaneIds node).head? := by
  induction node using node_induction with
  | leaf node pane isLeaf named =>
    rw [firstLeafId_eq, if_pos isLeaf, collectLeafPaneIds_eq, if_pos isLeaf, named]
    rfl
  | nameless node isLeaf nameless =>
    rw [firstLeafId_eq, if_pos isLeaf, collectLeafPaneIds_eq, if_pos isLeaf, nameless]
    rfl
  | inner node notLeaf below =>
    rw [firstLeafId_eq, if_neg notLeaf, collectLeafPaneIds_eq, if_neg notLeaf, head?_flatMap,
      findSome?_congr_children below]

theorem extractLeafFromLayout_leaves (node : Json) :
    extractLeafFromLayout pane node = (leaves node).find? (getStr "paneId" · = some pane) := by
  induction node using node_induction with
  | leaf node found isLeaf named =>
    rw [extractLeafFromLayout_eq, if_pos isLeaf, leaves_of_leaf isLeaf named]
    by_cases here : found = pane <;> simp [named, here]
  | nameless node isLeaf nameless =>
    rw [extractLeafFromLayout_eq, if_pos isLeaf, leaves_of_nameless isLeaf nameless, nameless]
    rfl
  | inner node notLeaf below =>
    rw [extractLeafFromLayout_eq, if_neg notLeaf, leaves_of_ne notLeaf, find?_flatMap,
      findSome?_congr_children below]
/-! ### The leaves after a removal -/

theorem removePaneFromLayout_leaf {found : PaneId} (pane : PaneId)
    (leaf : node.getStr "type" = some "leaf") (named : node.getStr "paneId" = some found) :
    removePaneFromLayout pane node = if found = pane then none else some node := by
  simp only [removePaneFromLayout, leaf, named]

theorem removePaneFromLayout_nameless (leaf : node.getStr "type" = some "leaf")
    (nameless : node.getStr "paneId" = none) :
    removePaneFromLayout pane node = none := by
  simp only [removePaneFromLayout, leaf, nameless]

theorem removePaneFromLayout_split (isSplit : node.getStr "type" = some "split")
    (found : node.getArray "children" = some items) :
    removePaneFromLayout pane node =
      closeGap node items.length (items.filterMap (removePaneFromLayout pane)) := by
  rw [removePaneFromLayout, isSplit]
  simp only [filterMap_subtype, List.unattach_attach]
  split <;> rename_i here
  · rw [found] at here
    cases here
  · cases found.symm.trans here
    rfl

theorem removePaneFromLayout_childless (isSplit : node.getStr "type" = some "split")
    (childless : node.getArray "children" = none) :
    removePaneFromLayout pane node = none := by
  rw [removePaneFromLayout, isSplit]
  simp only [filterMap_subtype, List.unattach_attach]
  split <;> rename_i here
  · rfl
  · rw [childless] at here
    cases here

theorem removePaneFromLayout_untyped (untyped : node.getStr "type" = none) :
    removePaneFromLayout pane node = none := by
  rw [removePaneFromLayout, untyped]

theorem removePaneFromLayout_other {type : String} (pane : PaneId)
    (typed : node.getStr "type" = some type) (notLeaf : type ≠ "leaf") (notSplit : type ≠ "split") :
    removePaneFromLayout pane node = some node := by
  rw [removePaneFromLayout, typed]
  simp

theorem leaves_set_children (isSplit : node.getStr "type" = some "split") (items : List Json) :
    leaves (node.set "children" (.arr items)) = items.flatMap leaves :=
  leaves_of_split
    ((getStr_set_of_ne (by decide) _ _).trans isSplit)
    (getArray_set_self (isObject_of_getStr isSplit) "children" items)

theorem leaves_set_ratios (isSplit : node.getStr "type" = some "split") (ratios : Json) :
    leaves (node.set "ratios" ratios) = leaves node := by
  have kept : (node.set "ratios" ratios).getStr "type" = node.getStr "type" :=
    getStr_set_of_ne (by decide) _ _
  rw [leaves_of_ne (kept.trans_ne (by rw [isSplit]; decide)),
    leaves_of_ne (by rw [isSplit]; decide), children, children, kept,
    getArray_set_of_ne (by decide)]

theorem leaves_closeGap (isSplit : node.getStr "type" = some "split") (count : Nat)
    (kept : List Json) : (closeGap node count kept).elim [] leaves = kept.flatMap leaves := by
  unfold closeGap
  split
  next empty =>
    rw [isEmpty_iff.mp empty]
    rfl
  · split
    · exact leaves_set_children isSplit kept
    · split
      · simp
      · rw [elim_some, leaves_set_ratios, leaves_set_children isSplit]
        rw [getStr_set_of_ne (by decide), isSplit]

theorem flatMap_filterMap_eq {Item : Type} (items : List Item) (change : Item → Option Item)
    (read read' : Item → List Result)
    (same : ∀ item ∈ items, (change item).elim [] read = read' item) :
    (items.filterMap change).flatMap read = items.flatMap read' := by
  induction items with
  | nil => rfl
  | cons item rest ih =>
    have here := same item mem_cons_self
    have later := ih fun other mem =>
      same other (mem_cons_of_mem _ mem)
    rw [flatMap_cons, filterMap_cons, ← here, ← later]
    cases change item with
    | none => rfl
    | some changed => exact flatMap_cons

/-- Removing a pane removes its leaves, wherever they are, and keeps the other leaves as they
are and in their order. -/
theorem leaves_removePaneFromLayout (node : Json) :
    (removePaneFromLayout pane node).elim [] leaves =
      (leaves node).filter (getStr "paneId" · ≠ some pane) := by
  induction node using node_induction with
  | leaf node found isLeaf named =>
    rw [removePaneFromLayout_leaf pane isLeaf named, leaves_of_leaf isLeaf named]
    by_cases here : found = pane
    · simp [here, named]
    · simp [here, named, leaves_of_leaf isLeaf named]
  | nameless node isLeaf nameless =>
    rw [removePaneFromLayout_nameless pane isLeaf nameless, leaves_of_nameless isLeaf nameless]
    rfl
  | inner node notLeaf below =>
    rw [leaves_of_ne notLeaf, filter_flatMap]
    cases typed : node.getStr "type" with
    | none =>
      rw [removePaneFromLayout_untyped pane typed, children_of_ne (by rw [typed]; decide)]
      rfl
    | some type =>
      by_cases isSplit : type = "split"
      · rw [isSplit] at typed
        cases found : node.getArray "children" with
        | none =>
          rw [removePaneFromLayout_childless pane typed found, children, if_pos typed, found]
          rfl
        | some items =>
          rw [children_of_split typed found] at below ⊢
          rw [removePaneFromLayout_split pane typed found, leaves_closeGap typed]
          exact flatMap_filterMap_eq items _ _ _ below
      · have notLeaf' : type ≠ "leaf" := fun same => notLeaf (typed.trans (congrArg some same))
        have noChildren : children node = [] :=
          children_of_ne (by simpa [typed] using isSplit)
        rw [removePaneFromLayout_other pane typed notLeaf' isSplit, elim_some,
          leaves_of_ne notLeaf, noChildren]
        rfl
theorem filterMap_paneId_filter (items : List Json) :
    (items.filter (getStr "paneId" · ≠ some pane)).filterMap (getStr "paneId") =
      (items.filterMap (getStr "paneId")).filter (· ≠ pane) := by
  rw [filterMap_filter, filter_filterMap]
  refine congrArg (fun read => items.filterMap read) (funext fun item => ?_)
  cases item.getStr "paneId" with
  | none => rfl
  | some found => by_cases same : found = pane <;> simp [same, filter_some]

theorem panes_removePaneFromLayout (layout : Json) :
    (removePaneFromLayout pane layout).elim [] collectLeafPaneIds =
      (collectLeafPaneIds layout).filter (· ≠ pane) := by
  have kept := leaves_removePaneFromLayout pane layout
  rw [collectLeafPaneIds_leaves layout, ← filterMap_paneId_filter, ← kept]
  cases removePaneFromLayout pane layout with
  | none => rfl
  | some new => exact collectLeafPaneIds_leaves new

theorem terminalPanes_removePaneFromLayout (layout : Json) :
    (removePaneFromLayout pane layout).elim [] collectTerminalLeafPaneIds =
      (collectTerminalLeafPaneIds layout).filter (· ≠ pane) := by
  have kept := leaves_removePaneFromLayout pane layout
  rw [collectTerminalLeafPaneIds_leaves layout, ← filterMap_paneId_filter, List.filter_filter,
    filter_congr fun leaf _ => Bool.and_comm .., ← List.filter_filter, ← kept]
  cases removePaneFromLayout pane layout with
  | none => rfl
  | some new => exact collectTerminalLeafPaneIds_leaves new

end

/-! ### The layouts that a removal leaves alone -/

/-- Every node that a removal comes to has a type, a leaf a pane, and a split children. -/
inductive Readable : Json → Prop where
  | leaf {node : Json} {pane : PaneId} (type : node.getStr "type" = some "leaf")
      (named : node.getStr "paneId" = some pane) : Readable node
  | split {node : Json} {items : List Json} (type : node.getStr "type" = some "split")
      (found : node.getArray "children" = some items) (nonempty : items ≠ [])
      (below : ∀ child ∈ items, Readable child) : Readable node
  | other {node : Json} {type : String} (typed : node.getStr "type" = some type)
      (notLeaf : type ≠ "leaf") (notSplit : type ≠ "split") : Readable node

/-- The number of nodes that a removal may come to. -/
def nodeCount (node : Json) : Nat :=
  1 + ((children node).attach.map fun child => nodeCount child.1).sum
termination_by sizeOf node
decreasing_by exact sizeOf_of_mem_children child.2

theorem nodeCount_eq (node : Json) : nodeCount node = 1 + ((children node).map nodeCount).sum := by
  rw [nodeCount]
  simp

theorem nodeCount_lt {child : Json} (mem : child ∈ children node) :
    nodeCount child < nodeCount node := by
  have le := le_sum_of_mem (mem_map_of_mem (f := nodeCount) mem)
  rw [nodeCount_eq node]
  omega

theorem sum_nodeCount_filterMap_le {change : Json → Option Json}
    (le : ∀ item ∈ items, ∀ changed, change item = some changed →
      nodeCount changed ≤ nodeCount item) :
    ((items.filterMap change).map nodeCount).sum ≤ (items.map nodeCount).sum := by
  induction items with
  | nil => exact le_rfl
  | cons item rest ih =>
    have later := ih fun other mem =>
      le other (mem_cons_of_mem _ mem)
    cases here : change item with
    | none =>
      rw [filterMap_cons_none here, map_cons, sum_cons]
      exact later.trans (Nat.le_add_left _ _)
    | some changed =>
      have first := le item mem_cons_self changed here
      rw [filterMap_cons_some here, map_cons, map_cons, sum_cons, sum_cons]
      exact Nat.add_le_add first later

theorem children_set_children (isSplit : node.getStr "type" = some "split") (items : List Json) :
    children (node.set "children" (.arr items)) = items :=
  children_of_split
    ((getStr_set_of_ne (by decide) _ _).trans isSplit)
    (getArray_set_self (isObject_of_getStr isSplit) "children" items)

theorem children_set_of_ne {key : String} (notType : "type" ≠ key) (notChildren : "children" ≠ key)
    (node value : Json) : children (node.set key value) = children node := by
  rw [children, children, getStr_set_of_ne notType, getArray_set_of_ne notChildren]

theorem nodeCount_closeGap_le {new : Json} (isSplit : node.getStr "type" = some "split")
    {count : Nat} {kept : List Json} (closed : closeGap node count kept = some new) :
    nodeCount new ≤ 1 + (kept.map nodeCount).sum := by
  unfold closeGap at closed
  split at closed
  · cases closed
  · split at closed
    · cases closed
      rw [nodeCount_eq, children_set_children isSplit]
    · split at closed
      · cases closed
        simp
      · cases closed
        rw [nodeCount_eq, children_set_of_ne (by decide) (by decide), children_set_children isSplit]

/-- What is left of a node: a leaf or a node of another type stays as it is, and a split closes the
gap between what is left of its children. -/
theorem removal_induction (property : Json → Json → Prop)
    (leaf : ∀ node found, node.getStr "type" = some "leaf" → node.getStr "paneId" = some found →
      property node node)
    (split : ∀ node items new, node.getStr "type" = some "split" →
      node.getArray "children" = some items →
      closeGap node items.length (items.filterMap (removePaneFromLayout pane)) = some new →
      (∀ item ∈ items, ∀ left, removePaneFromLayout pane item = some left → property item left) →
      property node new)
    (other : ∀ node type, node.getStr "type" = some type → type ≠ "leaf" → type ≠ "split" →
      property node node) (node : Json) :
    ∀ new, removePaneFromLayout pane node = some new → property node new := by
  induction node using node_induction with
  | leaf node found isLeaf named =>
    intro new removed
    rw [removePaneFromLayout_leaf pane isLeaf named] at removed
    split at removed
    · cases removed
    · cases removed
      exact leaf node found isLeaf named
  | nameless node isLeaf nameless =>
    intro new removed
    rw [removePaneFromLayout_nameless pane isLeaf nameless] at removed
    cases removed
  | inner node notLeaf below =>
    intro new removed
    cases typed : node.getStr "type" with
    | none =>
      rw [removePaneFromLayout_untyped pane typed] at removed
      cases removed
    | some type =>
      by_cases isSplit : type = "split"
      · rw [isSplit] at typed
        cases found : node.getArray "children" with
        | none =>
          rw [removePaneFromLayout_childless pane typed found] at removed
          cases removed
        | some items =>
          rw [children_of_split typed found] at below
          rw [removePaneFromLayout_split pane typed found] at removed
          exact split node items new typed found removed below
      · have notLeaf' : type ≠ "leaf" := fun same => notLeaf (typed.trans (congrArg some same))
        rw [removePaneFromLayout_other pane typed notLeaf' isSplit] at removed
        cases removed
        exact other node type typed notLeaf' isSplit

theorem nodeCount_removePaneFromLayout_le (node : Json) :
    ∀ new, removePaneFromLayout pane node = some new → nodeCount new ≤ nodeCount node := by
  refine removal_induction (fun node new => nodeCount new ≤ nodeCount node) (fun _ _ _ _ => le_rfl)
    (fun node items new isSplit found closed below => ?_) (fun _ _ _ _ _ => le_rfl) node
  have closed := nodeCount_closeGap_le isSplit closed
  have kept := sum_nodeCount_filterMap_le below
  rw [nodeCount_eq node, children_of_split isSplit found]
  omega

theorem filterMap_eq_self_iff {Item : Type} {change : Item → Option Item} {items : List Item} :
    items.filterMap change = items ↔ ∀ item ∈ items, change item = some item := by
  induction items with
  | nil => simp
  | cons item rest ih =>
    rw [forall_mem_cons, ← ih]
    cases here : change item with
    | none =>
      rw [filterMap_cons_none here]
      refine ⟨fun same => ?_, fun both => nomatch both.1⟩
      have short := length_filterMap_le change rest
      rw [same, length_cons] at short
      omega
    | some changed => rw [filterMap_cons_some here, cons.injEq, some.injEq]

theorem removePaneFromLayout_of_readable (readable : Readable node)
    (absent : pane ∉ collectLeafPaneIds node) : removePaneFromLayout pane node = some node := by
  induction readable with
  | leaf type named =>
    rw [collectLeafPaneIds_eq, if_pos type, named] at absent
    rw [removePaneFromLayout_leaf pane type named, if_neg]
    exact fun same => absent (by simp [same])
  | @split node items type found nonempty below ih =>
    rw [collectLeafPaneIds_eq, if_neg (by rw [type]; decide), children_of_split type found,
      mem_flatMap] at absent
    have kept : items.filterMap (removePaneFromLayout pane) = items :=
      filterMap_eq_self_iff.mpr fun child mem =>
        ih child mem fun held => absent ⟨child, mem, held⟩
    rw [removePaneFromLayout_split pane type found, kept]
    unfold closeGap
    rw [if_neg (by simpa using nonempty), if_pos rfl, set_of_get (get_of_getArray found)]
  | other typed notLeaf notSplit => exact removePaneFromLayout_other pane typed notLeaf notSplit

theorem readable_of_removePaneFromLayout (node : Json)
    (kept : removePaneFromLayout pane node = some node) : Readable node := by
  refine removal_induction (fun node new => new = node → Readable node)
    (fun _ _ isLeaf named _ => .leaf isLeaf named)
    (fun node items new isSplit found closed below same => ?_)
    (fun _ _ typed notLeaf notSplit _ => .other typed notLeaf notSplit) node node kept rfl
  subst same
  have kept : (items.filterMap (removePaneFromLayout pane)) = items := by
    -- The one child left is smaller, and other shares come with fewer children.
    have object := isObject_of_getStr isSplit
    unfold closeGap at closed
    split at closed
    · cases closed
    · split at closed
      · have same := congrArg (getArray "children") (some.inj closed)
        rw [getArray_set_self object, found] at same
        exact some.inj same
      · split at closed
        next child only =>
          obtain rfl := some.inj closed
          obtain ⟨origin, mem, left⟩ := mem_filterMap.mp (only ▸ mem_singleton_self child)
          have le := nodeCount_removePaneFromLayout_le origin child left
          have lt := nodeCount_lt ((children_of_split isSplit found).symm ▸ mem)
          omega
        · have same := congrArg (getArray "children") (some.inj closed)
          rw [getArray_set_of_ne (by decide), getArray_set_self object, found] at same
          exact some.inj same
  refine .split isSplit found (fun empty => ?_) fun child mem =>
    below child mem child (filterMap_eq_self_iff.mp kept child mem) rfl
  rw [empty] at closed
  cases closed

theorem filterMap_eq_self_of_sum_nodeCount {change : Json → Option Json}
    (le : ∀ item ∈ items, ∀ changed, change item = some changed →
      nodeCount changed ≤ nodeCount item)
    (eq : ∀ item ∈ items, ∀ changed, change item = some changed →
      nodeCount item ≤ nodeCount changed → changed = item)
    (sum : (items.map nodeCount).sum ≤ ((items.filterMap change).map nodeCount).sum) :
    items.filterMap change = items := by
  induction items with
  | nil => rfl
  | cons item rest ih =>
    have leRest := fun other mem => le other (mem_cons_of_mem item mem)
    have later := sum_nodeCount_filterMap_le leRest
    cases here : change item with
    | none =>
      -- A node that is dropped has been counted.
      have positive := nodeCount_eq item
      rw [filterMap_cons_none here, map_cons, sum_cons] at sum
      omega
    | some changed =>
      have first := le item mem_cons_self changed here
      rw [filterMap_cons_some here, map_cons, map_cons, sum_cons, sum_cons] at sum
      rw [filterMap_cons_some here, eq item mem_cons_self changed here (by omega),
        ih leRest (fun other mem => eq other (mem_cons_of_mem _ mem))
          (by omega)]

/-- A removal that leaves all nodes leaves the layout as it is. -/
theorem eq_of_nodeCount_removePaneFromLayout (node : Json) :
    ∀ new, removePaneFromLayout pane node = some new → nodeCount node ≤ nodeCount new →
      new = node := by
  refine removal_induction (fun node new => nodeCount node ≤ nodeCount new → new = node)
    (fun _ _ _ _ _ => rfl) (fun node items new isSplit found closed below count => ?_)
    (fun _ _ _ _ _ _ => rfl) node
  have few := nodeCount_closeGap_le isSplit closed
  rw [nodeCount_eq node, children_of_split isSplit found] at count
  have total : (items.map nodeCount).sum ≤
      ((items.filterMap (removePaneFromLayout pane)).map nodeCount).sum := by omega
  have kept := filterMap_eq_self_of_sum_nodeCount
    (fun item _ => nodeCount_removePaneFromLayout_le item) below total
  rw [kept] at closed
  unfold closeGap at closed
  split at closed
  · cases closed
  · rw [if_pos rfl, set_of_get (get_of_getArray found)] at closed
    exact (some.inj closed).symm

theorem removePaneFromLayout_eq_some_self_iff : removePaneFromLayout pane node = some node ↔
      Readable node ∧ pane ∉ collectLeafPaneIds node := by
  refine ⟨fun kept => ⟨readable_of_removePaneFromLayout node kept, fun held => ?_⟩,
    fun ⟨readable, absent⟩ => removePaneFromLayout_of_readable readable absent⟩
  have panes := panes_removePaneFromLayout pane node
  rw [kept, elim_some] at panes
  rw [panes] at held
  simpa using (mem_filter.mp held).2

theorem removePaneFromLayout_eq_self_iff (absent : pane ∉ collectLeafPaneIds node) :
    removePaneFromLayout pane node = some node ↔ Readable node :=
  ⟨readable_of_removePaneFromLayout node, fun readable =>
    removePaneFromLayout_of_readable readable absent⟩

/-! ### Marking the leaves -/

theorem ensureLeafKind_leaf (leaf : node.getStr "type" = some "leaf") : ensureLeafKind node =
      if (node.get "kind").isNone then node.set "kind" (.str "terminal") else node := by
  simp only [ensureLeafKind, leaf]

theorem ensureLeafKind_split (isSplit : node.getStr "type" = some "split")
    (found : node.getArray "children" = some items) :
    ensureLeafKind node = node.set "children" (.arr (items.map ensureLeafKind)) := by
  rw [ensureLeafKind, isSplit]
  simp only [List.map_subtype, List.unattach_attach]
  split <;> rename_i here
  · cases found.symm.trans here
    rfl
  · rw [found] at here
    cases here

theorem ensureLeafKind_childless (notLeaf : node.getStr "type" ≠ some "leaf")
    (childless : node.getStr "type" = some "split" → node.getArray "children" = none) :
    ensureLeafKind node = node := by
  rw [ensureLeafKind]
  split
  next leaf =>
    exact absurd leaf notLeaf
  next isSplit =>
    split <;> rename_i here
    · rw [childless isSplit] at here
      cases here
    · rfl
  · rfl

/-- Marking the leaves without a kind changes none of the terminals. -/
theorem terminalPanes_ensureLeafKind (node : Json) :
    collectTerminalLeafPaneIds (ensureLeafKind node) = collectTerminalLeafPaneIds node := by
  induction node using induction_on_children with
  | step node below =>
    by_cases isLeaf : node.getStr "type" = some "leaf"
    · rw [ensureLeafKind_leaf isLeaf]
      split
      next unmarked =>
        have object := isObject_of_getStr isLeaf
        have marked : leafKind (node.set "kind" (.str "terminal")) = leafKind node := by
          rw [leafKind, leafKind, getStr, get_set_self object, getStr,
            isNone_iff_eq_none.mp unmarked]
          rfl
        rw [collectTerminalLeafPaneIds_eq, collectTerminalLeafPaneIds_eq node, marked,
          getStr_set_of_ne (by decide), getStr_set_of_ne (by decide)]
        simp only [if_pos isLeaf]
      · rfl
    · by_cases isSplit : node.getStr "type" = some "split"
      · cases found : node.getArray "children" with
        | none => rw [ensureLeafKind_childless isLeaf fun _ => found]
        | some items =>
          have typeSet : (node.set "children" (.arr (items.map ensureLeafKind))).getStr "type" =
              node.getStr "type" := getStr_set_of_ne (by decide) _ _
          rw [children_of_split isSplit found] at below
          rw [ensureLeafKind_split isSplit found, collectTerminalLeafPaneIds_eq,
            if_neg (typeSet.trans_ne isLeaf), children_set_children isSplit,
            collectTerminalLeafPaneIds_eq, if_neg isLeaf, children_of_split isSplit found,
            flatMap_map, flatMap_def, flatMap_def, map_congr_left below]
      · rw [ensureLeafKind_childless isLeaf fun same => absurd same isSplit]

/-! ### The leaves after an insertion -/

/-- A node with a type that the operations know: a leaf with a pane, or a split along a direction
with children that are well formed too. -/
inductive WellFormed : Json → Prop where
  | leaf {node : Json} {pane : PaneId} (type : node.getStr "type" = some "leaf")
      (named : node.getStr "paneId" = some pane) : WellFormed node
  | split {node : Json} {direction : String} {items : List Json}
      (type : node.getStr "type" = some "split")
      (along : node.getStr "direction" = some direction)
      (found : node.getArray "children" = some items) (nonempty : items ≠ [])
      (below : ∀ child ∈ items, WellFormed child) : WellFormed node

/-- The leaves without their shares of the parents. -/
def bareLeaves (node : Json) : List Json := (leaves node).map (Json.without "ratio")

theorem bareLeaves_set_ratio (node ratio : Json) :
    bareLeaves (node.set "ratio" ratio) = bareLeaves node := by
  have typeSet : (node.set "ratio" ratio).getStr "type" = node.getStr "type" :=
    getStr_set_of_ne (by decide) _ _
  have paneSet : (node.set "ratio" ratio).getStr "paneId" = node.getStr "paneId" :=
    getStr_set_of_ne (by decide) _ _
  unfold bareLeaves
  by_cases isLeaf : node.getStr "type" = some "leaf"
  · cases named : node.getStr "paneId" with
    | none =>
      rw [leaves_of_nameless isLeaf named,
        leaves_of_nameless (typeSet.trans isLeaf) (paneSet.trans named)]
    | some pane =>
      rw [leaves_of_leaf isLeaf named,
        leaves_of_leaf (typeSet.trans isLeaf) (paneSet.trans named), map_singleton,
        map_singleton, without_set]
  · rw [leaves_of_ne isLeaf, leaves_of_ne (typeSet.trans_ne isLeaf),
      children_set_of_ne (by decide) (by decide)]

theorem insertAtLeaf_leaf (wrap : Json → Json) (target : PaneId)
    (isLeaf : node.getStr "type" = some "leaf") (named : node.getStr "paneId" = some pane) :
    insertAtLeaf wrap target node = if pane = target then some (wrap node) else some node := by
  simp only [insertAtLeaf, isLeaf, named]

theorem insertAtLeaf_split {direction : String} (wrap : Json → Json) (target : PaneId)
    (isSplit : node.getStr "type" = some "split") (along : node.getStr "direction" = some direction)
    (found : node.getArray "children" = some items) :
    insertAtLeaf wrap target node =
      let (newChildren, found) := spliceAll (Layout.normalizeSplitDirection direction) false
        (items.map fun child => (child, insertAtLeaf wrap target child))
      if found then
        let ratio := num (Layout.share newChildren.length)
        some ((node.set "children" (.arr (newChildren.map (·.set "ratio" ratio)))).set
          "ratios" (shares newChildren.length))
      else some node := by
  rw [insertAtLeaf, isSplit]
  simp only [List.map_subtype, List.unattach_attach]
  split
  next direction' items' along' found' =>
    cases along.symm.trans along'
    cases found.symm.trans found'
    rfl
  next missing =>
    exact absurd found (missing direction items along)

/-- The new leaves are those of the old node, and for each leaf of `target` the added ones. -/
def Adds (target : PaneId) (added : List Json) (old new : Json) : Prop :=
  ∀ leaf, (bareLeaves new).count leaf =
    (bareLeaves old).count leaf + (collectLeafPaneIds old).count target * added.count leaf

theorem leaves_splice (parentAxis : String) (changed : Bool) (updated : Json) :
    (splice parentAxis changed updated).flatMap leaves = leaves updated := by
  unfold splice
  split
  next spliced =>
    cases found : updated.getArray "children" with
    | none => simp
    | some items => rw [getD_some, leaves_of_split spliced.2.1 found]
  · simp

theorem spliceAll_found {parentAxis : String} {found : Bool} (already : found = true)
    {items : List (Json × Option Json)} : (spliceAll parentAxis found items).2 = true := by
  induction items generalizing found with
  | nil => exact already
  | cons item rest ih =>
    obtain ⟨child, _ | updated⟩ := item
    · exact ih already
    · exact ih (by rw [already, Bool.true_or])

section Insertion

variable {wrap : Json → Json} {target : PaneId} {added : List Json}

/-- What is inserted into each of several children is inserted into all of them, and nothing is
where no change is found. -/
theorem spliceAll_adds
    (inserts : ∀ child ∈ items, ∃ new, insertAtLeaf wrap target child = some new ∧
      Adds target added child new) (parentAxis : String) (found : Bool) :
    let spliced := spliceAll parentAxis found
      (items.map fun child => (child, insertAtLeaf wrap target child))
    ∀ leaf, (spliced.1.flatMap bareLeaves).count leaf = (items.flatMap bareLeaves).count leaf +
        (items.flatMap collectLeafPaneIds).count target * added.count leaf ∧
      (spliced.2 = false →
        (items.flatMap collectLeafPaneIds).count target * added.count leaf = 0) := by
  induction items generalizing found with
  | nil => exact fun leaf => ⟨by simp [spliceAll], by simp⟩
  | cons child rest ih =>
    intro spliced leaf
    obtain ⟨updated, inserted, adds⟩ := inserts child mem_cons_self
    have later := ih
      (fun other mem => inserts other (mem_cons_of_mem _ mem))
      (found || decide (updated ≠ child)) leaf
    have unfolded : spliced = (splice parentAxis (found || decide (updated ≠ child)) updated ++
            (spliceAll parentAxis (found || decide (updated ≠ child))
              (rest.map fun child => (child, insertAtLeaf wrap target child))).1,
          (spliceAll parentAxis (found || decide (updated ≠ child))
            (rest.map fun child => (child, insertAtLeaf wrap target child))).2) := by
      simp [spliced, inserted, spliceAll]
    have bare : (splice parentAxis (found || decide (updated ≠ child)) updated).flatMap
        bareLeaves = bareLeaves updated := by
      rw [bareLeaves, ← leaves_splice parentAxis (found || decide (updated ≠ child)) updated,
        map_flatMap]
      rfl
    rw [unfolded]
    simp only [flatMap_append, flatMap_cons, count_append, bare, adds leaf, later.1, Nat.add_mul]
    refine ⟨by omega, fun notFound => ?_⟩
    -- A child that has changed would have been found.
    have same : updated = child := by
      by_contra ne
      rw [spliceAll_found (by simp [ne])] at notFound
      cases notFound
    have none := adds leaf
    rw [same] at none
    have noneLater := later.2 notFound
    omega

/-- Wrapping the leaf of `target` succeeds in a well formed layout. When the wrapping of a leaf
adds leaves to the one, so does the insertion wherever `target` occurs. -/
theorem insertAtLeaf_adds
    (wraps : ∀ node, node.getStr "type" = some "leaf" → node.getStr "paneId" = some target →
      (bareLeaves (wrap node)).Perm (node.without "ratio" :: added)) (formed : WellFormed node)
    :
    ∃ new, insertAtLeaf wrap target node = some new ∧ Adds target added node new := by
  induction formed with
  | @leaf node pane type named =>
    rw [insertAtLeaf_leaf wrap target type named]
    have panes : collectLeafPaneIds node = [pane] := by
      rw [collectLeafPaneIds_eq, if_pos type, named]
      rfl
    by_cases here : pane = target
    · refine ⟨wrap node, if_pos here, fun leaf => ?_⟩
      rw [(wraps node type (here ▸ named)).count_eq, panes, here, bareLeaves,
        leaves_of_leaf type named]
      simp [count_cons, Nat.add_comm]
    · refine ⟨node, if_neg here, fun leaf => ?_⟩
      rw [panes, count_cons_of_ne here, count_nil, Nat.zero_mul, Nat.add_zero]
  | @split node side items type along found nonempty below ih =>
    have all := spliceAll_adds ih (Layout.normalizeSplitDirection side) false
    have panes : collectLeafPaneIds node = items.flatMap collectLeafPaneIds := by
      rw [collectLeafPaneIds_eq, if_neg (by rw [type]; decide), children_of_split type found]
    have bare : bareLeaves node = items.flatMap bareLeaves := by
      rw [bareLeaves, leaves_of_split type found, map_flatMap]
      rfl
    rw [insertAtLeaf_split wrap target type along found]
    split
    rename_i newChildren changed spliced
    rw [spliced] at all
    cases changed with
    | true =>
      refine ⟨_, if_pos rfl, fun leaf => ?_⟩
      rw [bareLeaves, leaves_set_ratios
        ((getStr_set_of_ne (by decide) _ _).trans type), leaves_set_children type,
        flatMap_map, map_flatMap, panes, bare, ← (all leaf).1]
      exact congrArg (count leaf) (flatMap_congr fun child _ =>
        bareLeaves_set_ratio child _)
    | false =>
      refine ⟨node, if_neg Bool.false_ne_true, fun leaf => ?_⟩
      rw [panes, (all leaf).2 rfl, Nat.add_zero]

end Insertion

theorem bareLeaves_halves (id side : String) (first second : Json) :
    bareLeaves (halves id side first second) = bareLeaves first ++ bareLeaves second := by
  have both : leaves (halves id side first second) = [first, second].flatMap leaves :=
    leaves_of_split rfl rfl
  rw [bareLeaves, both]
  simp [bareLeaves]

theorem insertSubtreeIntoLayout_adds (target : PaneId) (side splitId : String)
    (subtree : Json) {layout : Json} (formed : WellFormed layout) :
    ∃ new, insertSubtreeIntoLayout target side splitId subtree layout = some new ∧
      Adds target (bareLeaves subtree) layout new := by
  refine insertAtLeaf_adds (fun node type named => ?_) formed
  have single : bareLeaves node = [node.without "ratio"] := by
    rw [bareLeaves, leaves_of_leaf type named, map_singleton]
  split
  · rw [bareLeaves_halves, single]
    exact perm_append_singleton _ _
  · rw [bareLeaves_halves, single, singleton_append]

end Dinotty.Session.Stored
