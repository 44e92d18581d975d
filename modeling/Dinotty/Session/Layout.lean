/-
This file is the layout tree of a tab: leaves, each the place of one pane, and splits of several
subtrees along one axis. A split that is left with one child collapses into it, and a new split
along the axis of its parent is spliced into the parent.
-/

import Mathlib

namespace Dinotty.Session

open List

abbrev PaneId := String

abbrev TabId := String

/-- A leaf. The fields that no operation reads are kept together in `rest`. -/
structure Leaf where
  paneId : PaneId
  kind : Option String := none
  title : Option String := none
  shellType : Option String := none
  ratio : Option Rat := none
  zoomed : Option Bool := none
  rest : List (String × String) := []
  deriving DecidableEq

/-- A layout: a leaf, a split, or a node of another type, which no operation looks into. -/
inductive Layout where
  | leaf (fields : Leaf)
  | split (id direction : String) (ratio : Option Rat) (children : List Layout)
      (ratios : List Rat)
  | other (type : String)

namespace Layout

mutual

def decEq : (first second : Layout) → Decidable (first = second)
  | .leaf fields, .leaf fields' => decidable_of_iff (fields = fields') (by simp)
  | .split id direction ratio children ratios, .split id' direction' ratio' children' ratios' =>
      have : Decidable (children = children') := decEqAll children children'
      decidable_of_iff (id = id' ∧ direction = direction' ∧ ratio = ratio' ∧
        children = children' ∧ ratios = ratios') (by simp)
  | .other type, .other type' => decidable_of_iff (type = type') (by simp)
  | .leaf _, .split .. | .leaf _, .other _ | .split .., .leaf _ | .split .., .other _
  | .other _, .leaf _ | .other _, .split .. => isFalse (by simp)

def decEqAll : (first second : List Layout) → Decidable (first = second)
  | [], [] => isTrue rfl
  | child :: rest, child' :: rest' =>
      have : Decidable (child = child') := decEq child child'
      have : Decidable (rest = rest') := decEqAll rest rest'
      decidable_of_iff (child = child' ∧ rest = rest') (by simp)
  | [], _ :: _ | _ :: _, [] => isFalse (by simp)

end

instance : DecidableEq Layout := decEq

/-- To prove a property of every layout, prove it of a split whose children all have it. -/
@[elab_as_elim]
theorem induction {property : Layout → Prop} (leaf : ∀ fields, property (.leaf fields))
    (split : ∀ id side ratio children ratios, (∀ child ∈ children, property child) →
      property (.split id side ratio children ratios))
    (other : ∀ type, property (.other type)) : ∀ layout, property layout
  | .leaf fields => leaf fields
  | .split id side ratio children ratios =>
      split id side ratio children ratios fun child _ =>
        induction leaf split other child
  | .other type => other type

/-! ### Reading a layout -/

mutual

/-- The panes of the leaves from left to right. -/
def collectLeafPaneIds : Layout → List PaneId
  | .leaf fields => [fields.paneId]
  | .split _ _ _ children _ => collectLeafPaneIdsOfAll children
  | .other _ => []

def collectLeafPaneIdsOfAll : List Layout → List PaneId
  | [] => []
  | child :: rest => collectLeafPaneIds child ++ collectLeafPaneIdsOfAll rest

end

/-- A leaf without a kind is a terminal. -/
def leafKind (fields : Leaf) : String := fields.kind.getD "terminal"

mutual

/-- The panes of the leaves that need a session. -/
def collectTerminalLeafPaneIds : Layout → List PaneId
  | .leaf fields => if leafKind fields = "terminal" then [fields.paneId] else []
  | .split _ _ _ children _ => collectTerminalLeafPaneIdsOfAll children
  | .other _ => []

def collectTerminalLeafPaneIdsOfAll : List Layout → List PaneId
  | [] => []
  | child :: rest => collectTerminalLeafPaneIds child ++ collectTerminalLeafPaneIdsOfAll rest

end

mutual

def firstLeafId : Layout → Option PaneId
  | .leaf fields => some fields.paneId
  | .split _ _ _ children _ => firstLeafIdOfAll children
  | .other _ => none

def firstLeafIdOfAll : List Layout → Option PaneId
  | [] => none
  | child :: rest => (firstLeafId child).or (firstLeafIdOfAll rest)

end

mutual

def extractLeafFromLayout (pane : PaneId) : Layout → Option Layout
  | .leaf fields => if fields.paneId = pane then some (.leaf fields) else none
  | .split _ _ _ children _ => extractLeafFromAll pane children
  | .other _ => none

def extractLeafFromAll (pane : PaneId) : List Layout → Option Layout
  | [] => none
  | child :: rest => (extractLeafFromLayout pane child).or (extractLeafFromAll pane rest)

end

/-! ### Removing a pane -/

def share (count : Nat) : Rat := 1 / count

/-- What is left of a split when `kept` of its `count` children are left. -/
def closeGap (id direction : String) (ratio : Option Rat) (ratios : List Rat) (count : Nat)
    (kept : List Layout) : Option Layout :=
  match kept with
  | [] => none
  | [child] =>
      if count = 1 then some (.split id direction ratio [child] ratios) else some child
  | _ =>
      if kept.length = count then some (.split id direction ratio kept ratios)
      else
        some (.split id direction ratio kept
          (List.replicate kept.length (share kept.length)))

mutual

/-- Remove a pane, answering nothing when no leaf is left. -/
def removePaneFromLayout (pane : PaneId) : Layout → Option Layout
  | .leaf fields => if fields.paneId = pane then none else some (.leaf fields)
  | .split id direction ratio children ratios =>
      closeGap id direction ratio ratios children.length (removePaneFromAll pane children)
  | .other type => some (.other type)

def removePaneFromAll (pane : PaneId) : List Layout → List Layout
  | [] => []
  | child :: rest =>
      match removePaneFromLayout pane child with
      | some kept => kept :: removePaneFromAll pane rest
      | none => removePaneFromAll pane rest

end

/-! ### Wrapping a pane in a split -/

/-- The axis of a split direction. -/
def normalizeSplitDirection (direction : String) : String :=
  if direction = "top" ∨ direction = "bottom" ∨ direction = "vertical" then "vertical"
  else "horizontal"

/-- Set the share of a node within its parent. -/
def withRatio (ratio : Rat) : Layout → Layout
  | .leaf fields => .leaf { fields with ratio := some ratio }
  | .split id direction _ children ratios => .split id direction (some ratio) children ratios
  | .other type => .other type

/-- What an updated child contributes to its parent: the children of a changed split along the
axis of the parent, else itself. -/
def splice (parentDirection : String) (changed : Bool) (updated : Layout) : List Layout :=
  match updated with
  | .split _ direction _ inner _ =>
      if changed ∧ normalizeSplitDirection direction = normalizeSplitDirection parentDirection then
        inner
      else [updated]
  | _ => [updated]

mutual

/-- Replace the leaf of `target` by what `wrap` makes of it. A new split along the axis of its
parent is spliced into it. -/
def insertAtLeaf (wrap : Leaf → Layout) (target : PaneId) : Layout → Option Layout
  | .leaf fields => if fields.paneId = target then some (wrap fields) else some (.leaf fields)
  | .split id direction ratio children ratios =>
      let (newChildren, found) := insertAtLeafInAll wrap target direction false children
      if found then
        some (.split id direction ratio
          (newChildren.map (withRatio (share newChildren.length)))
          (List.replicate newChildren.length (share newChildren.length)))
      else some (.split id direction ratio children ratios)
  | .other type => some (.other type)

/-- The children of a split after the replacement, with whether one has changed so far. -/
def insertAtLeafInAll (wrap : Leaf → Layout) (target : PaneId) (parentDirection : String) :
    Bool → List Layout → List Layout × Bool
  | found, [] => ([], found)
  | found, child :: rest =>
      match insertAtLeaf wrap target child with
      | none => insertAtLeafInAll wrap target parentDirection found rest
      | some updated =>
          let changed := found || decide (updated ≠ child)
          let (later, foundLater) := insertAtLeafInAll wrap target parentDirection changed rest
          (splice parentDirection changed updated ++ later, foundLater)

end

def halves (id direction : String) (first second : Layout) : Layout :=
  .split id direction none [first, second] [1 / 2, 1 / 2]

def newLeaf (pane : PaneId) (title shellType : Option String) : Leaf where
  paneId := pane
  title := some (title.getD "Terminal")
  shellType
  ratio := some 1
  zoomed := some false

/-- Put a new leaf behind the leaf of `target`. The split keeps the direction as it is given. -/
def insertPaneIntoLayoutInner (target : PaneId) (direction splitId : String) (pane : PaneId)
    (title shellType : Option String) (layout : Layout) : Option Layout :=
  insertAtLeaf
    (fun fields => halves splitId direction (.leaf fields) (.leaf (newLeaf pane title shellType)))
    target layout

def insertPaneIntoLayout (target : PaneId) (direction splitId : String) (pane : PaneId)
    (layout : Layout) : Option Layout :=
  insertPaneIntoLayoutInner target direction splitId pane none none layout

def insertPaneIntoLayoutWithInfo (target : PaneId) (direction splitId : String) (pane : PaneId)
    (title shellType : String) (layout : Layout) : Option Layout :=
  insertPaneIntoLayoutInner target direction splitId pane (some title) (some shellType) layout

/-- Put a subtree beside the leaf of `target`, in front of it when it comes from the left or from
the top. -/
def insertSubtreeIntoLayout (target : PaneId) (direction splitId : String) (subtree : Layout)
    (layout : Layout) : Option Layout :=
  insertAtLeaf
    (fun fields =>
      if direction = "left" ∨ direction = "top" then
        halves splitId (normalizeSplitDirection direction) subtree (.leaf fields)
      else halves splitId (normalizeSplitDirection direction) (.leaf fields) subtree)
    target layout

/-! ### The panes of a layout -/

@[simp] theorem collectLeafPaneIds_leaf (fields : Leaf) :
    collectLeafPaneIds (.leaf fields) = [fields.paneId] := by
  rw [collectLeafPaneIds]

@[simp] theorem collectLeafPaneIds_split (id side : String) (ratio : Option Rat)
    (children : List Layout) (ratios : List Rat) :
    collectLeafPaneIds (.split id side ratio children ratios) =
      collectLeafPaneIdsOfAll children := by
  rw [collectLeafPaneIds]

@[simp] theorem collectLeafPaneIdsOfAll_nil : collectLeafPaneIdsOfAll [] = [] := by
  rw [collectLeafPaneIdsOfAll]

@[simp] theorem collectLeafPaneIdsOfAll_cons (child : Layout) (rest : List Layout) :
    collectLeafPaneIdsOfAll (child :: rest) =
      collectLeafPaneIds child ++ collectLeafPaneIdsOfAll rest := by
  rw [collectLeafPaneIdsOfAll]

@[simp] theorem collectLeafPaneIdsOfAll_append (first second : List Layout) :
    collectLeafPaneIdsOfAll (first ++ second) =
      collectLeafPaneIdsOfAll first ++ collectLeafPaneIdsOfAll second := by
  induction first with
  | nil => rfl
  | cons child rest ih =>
    rw [cons_append, collectLeafPaneIdsOfAll_cons, collectLeafPaneIdsOfAll_cons, ih, append_assoc]

theorem panes_closeGap (id side : String) (ratio : Option Rat) (ratios : List Rat)
    (count : Nat) (kept : List Layout) :
    (closeGap id side ratio ratios count kept).elim [] collectLeafPaneIds =
      collectLeafPaneIdsOfAll kept := by
  match kept with
  | [] => rfl
  | [child] =>
    rw [closeGap]
    split
    · rfl
    · exact (append_nil _).symm
  | first :: second :: rest =>
    simp only [closeGap]
    split <;> rfl

/-- Removing a pane removes it from the panes, wherever it occurs, and keeps the others in
their order. -/
theorem panes_removePaneFromLayout (pane : PaneId) (layout : Layout) :
    (layout.removePaneFromLayout pane).elim [] collectLeafPaneIds =
      layout.collectLeafPaneIds.filter (· ≠ pane) := by
  induction layout using Layout.induction with
  | leaf fields =>
    rw [removePaneFromLayout, collectLeafPaneIds_leaf]
    by_cases same : fields.paneId = pane
    · simp [same]
    · simp [same]
  | split id side ratio children ratios ih =>
    rw [removePaneFromLayout, panes_closeGap, collectLeafPaneIds_split]
    clear ratios ratio side id
    induction children with
    | nil => rfl
    | cons child rest later =>
      have atChild := ih child mem_cons_self
      have atRest := later fun other mem =>
        ih other (mem_cons_of_mem _ mem)
      rw [removePaneFromAll, collectLeafPaneIdsOfAll_cons, filter_append, ← atChild, ← atRest]
      cases child.removePaneFromLayout pane with
      | none => rfl
      | some kept => exact collectLeafPaneIdsOfAll_cons kept _
  | other type => rfl

theorem panes_of_removePaneFromLayout {pane : PaneId} {layout new : Layout}
    (removed : layout.removePaneFromLayout pane = some new) :
    new.collectLeafPaneIds = layout.collectLeafPaneIds.filter (· ≠ pane) := by
  rw [← panes_removePaneFromLayout, removed]
  rfl

theorem panes_of_extractLeafFromLayout {pane : PaneId} {layout extracted : Layout}
    (found : layout.extractLeafFromLayout pane = some extracted) :
    extracted.collectLeafPaneIds = [pane] := by
  induction layout using Layout.induction with
  | leaf fields =>
    rw [extractLeafFromLayout] at found
    split at found
    next same =>
      rw [← Option.some.inj found, collectLeafPaneIds_leaf, same]
    · cases found
  | split id side ratio children ratios ih =>
    rw [extractLeafFromLayout] at found
    clear ratios ratio side id
    induction children with
    | nil => cases found
    | cons child rest later =>
      rw [extractLeafFromAll] at found
      cases atChild : child.extractLeafFromLayout pane with
      | some leaf =>
        rw [atChild] at found
        exact ih child mem_cons_self (atChild.trans found)
      | none =>
        rw [atChild] at found
        exact later (fun other mem =>
          ih other (mem_cons_of_mem _ mem)) found
  | other type => cases found

@[simp] theorem panes_withRatio (ratio : Rat) (layout : Layout) :
    (layout.withRatio ratio).collectLeafPaneIds = layout.collectLeafPaneIds := by
  cases layout <;> rfl

theorem panes_map_withRatio (ratio : Rat) (children : List Layout) :
    collectLeafPaneIdsOfAll (children.map (withRatio ratio)) =
      collectLeafPaneIdsOfAll children := by
  induction children with
  | nil => rfl
  | cons child rest ih =>
    rw [map_cons, collectLeafPaneIdsOfAll_cons, collectLeafPaneIdsOfAll_cons, panes_withRatio, ih]

theorem panes_splice (parentDirection : String) (changed : Bool) (updated : Layout) :
    collectLeafPaneIdsOfAll (splice parentDirection changed updated) =
      updated.collectLeafPaneIds := by
  unfold splice
  split
  · split
    · rfl
    · exact append_nil _
  · exact append_nil _

/-! ### The panes after an insertion -/

section Insertion

variable {wrap : Leaf → Layout} {target : PaneId} {added : List PaneId}

/-- The new panes are those of the old layout, and for each leaf of `target` the added ones. -/
def Adds (target : PaneId) (added old new : List PaneId) : Prop :=
  ∀ pane, new.count pane = old.count pane + old.count target * added.count pane

theorem Adds.append {first second first' second' : List PaneId}
    (front : Adds target added first first') (back : Adds target added second second') :
    Adds target added (first ++ second) (first' ++ second') := by
  intro pane
  rw [count_append, count_append, count_append, front pane, back pane, Nat.add_mul]
  omega

theorem insertAtLeafInAll_found {parentDirection : String} {found : Bool}
    (already : found = true) {children : List Layout} :
    (insertAtLeafInAll wrap target parentDirection found children).2 = true := by
  induction children generalizing found with
  | nil => rw [insertAtLeafInAll, already]
  | cons child rest ih =>
    rw [insertAtLeafInAll]
    split
    · exact ih already
    · exact ih (by rw [already, Bool.true_or])

/-- Wrapping the leaf of `target` always succeeds. When the wrapping of a leaf adds panes to the
one of the leaf, so does the insertion wherever `target` occurs. -/
theorem insertAtLeaf_adds (wraps : ∀ fields, fields.paneId = target →
      (wrap fields).collectLeafPaneIds.Perm (target :: added)) (layout : Layout) :
    ∃ new, layout.insertAtLeaf wrap target = some new ∧
      Adds target added layout.collectLeafPaneIds new.collectLeafPaneIds := by
  induction layout using Layout.induction with
  | leaf fields =>
    by_cases same : fields.paneId = target
    · refine ⟨wrap fields, by rw [insertAtLeaf, if_pos same], fun pane => ?_⟩
      rw [(wraps fields same).count_eq, collectLeafPaneIds_leaf, same, count_cons_self,
        count_cons, count_singleton]
      simp [Nat.add_comm]
    · refine ⟨.leaf fields, by rw [insertAtLeaf, if_neg same], fun pane => ?_⟩
      rw [collectLeafPaneIds_leaf, count_cons_of_ne same, count_nil, Nat.zero_mul, Nat.add_zero]
  | split id side ratio children ratios ih =>
    -- What is not found among the children has changed none of them.
    have all : ∀ found, Adds target added (collectLeafPaneIdsOfAll children)
          (collectLeafPaneIdsOfAll (insertAtLeafInAll wrap target side found children).1) ∧
        ((insertAtLeafInAll wrap target side found children).2 = false →
          Adds target added (collectLeafPaneIdsOfAll children)
            (collectLeafPaneIdsOfAll children)) := by
      clear ratios ratio id
      induction children with
      | nil =>
        intro found
        have nothing : Adds target added [] [] := fun pane => by simp
        exact ⟨nothing, fun _ => nothing⟩
      | cons child rest later =>
        intro found
        obtain ⟨updated, ins, atChild⟩ := ih child mem_cons_self
        have atRest := later fun other mem =>
          ih other (mem_cons_of_mem _ mem)
        obtain ⟨panesRest, unchanged⟩ := atRest (found || decide (updated ≠ child))
        rw [insertAtLeafInAll, ins, collectLeafPaneIdsOfAll_cons]
        refine ⟨?_, fun notFound => ?_⟩
        · rw [collectLeafPaneIdsOfAll_append, panes_splice]
          exact atChild.append panesRest
        · have same : updated = child := by
            by_contra ne
            rw [insertAtLeafInAll_found (by simp [ne])] at notFound
            cases notFound
          rw [same] at atChild
          exact atChild.append (unchanged notFound)
    obtain ⟨panes, unchanged⟩ := all false
    rw [insertAtLeaf, collectLeafPaneIds_split]
    split
    rename_i newChildren found ins
    rw [ins] at panes unchanged
    cases found with
    | true =>
      refine ⟨_, if_pos rfl, ?_⟩
      rw [collectLeafPaneIds_split, panes_map_withRatio]
      exact panes
    | false =>
      exact ⟨_, if_neg Bool.false_ne_true, unchanged rfl⟩
  | other type =>
    exact ⟨.other type, by rw [insertAtLeaf], fun pane => by simp [collectLeafPaneIds]⟩

end Insertion

theorem insertPaneIntoLayoutInner_adds (target : PaneId) (side splitId : String)
    (pane : PaneId) (title shellType : Option String) (layout : Layout) :
    ∃ new, layout.insertPaneIntoLayoutInner target side splitId pane title shellType = some new ∧
      Adds target [pane] layout.collectLeafPaneIds new.collectLeafPaneIds := by
  refine insertAtLeaf_adds (fun fields same => ?_) layout
  simp [halves, newLeaf, same]

theorem insertSubtreeIntoLayout_adds (target : PaneId) (side splitId : String)
    (subtree layout : Layout) :
    ∃ new, insertSubtreeIntoLayout target side splitId subtree layout = some new ∧
      Adds target subtree.collectLeafPaneIds layout.collectLeafPaneIds new.collectLeafPaneIds := by
  refine insertAtLeaf_adds (fun fields same => ?_) layout
  split
  · simp [halves, same, perm_append_singleton]
  · simp [halves, same]

end Layout

end Dinotty.Session
