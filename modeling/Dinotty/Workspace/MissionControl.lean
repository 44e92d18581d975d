/-
This file is the keyboard's way through the cards of mission control: left and right go around the
cards in a cycle.
-/

import Dinotty.Session.StoredTabs
import Dinotty.Workspace.Registry

namespace Dinotty.MissionControl

open Session Session.Stored.SessionManager WorkspaceMgmt List Option

/-! ### The model -/

/-- The workspace of a tab: by its connection, or by the longest path above its directory, in
bytes. -/
def tabWorkspaceId (workspaces : List Workspace) (cwd connectionId : Option String) :
    Option String :=
  match connectionId with
  | some id => (workspaces.find? fun ws => ws.connectionId = some id).map (·.id)
  | none =>
    match cwd.filter (· ≠ "") with
    | none => none
    | some cwd =>
        let best := workspaces.foldl (fun (best : Option Workspace × Nat) ws =>
          let path := trimEndSlashes ws.path.toList
          let length := (String.ofList path).utf8ByteSize
          if ws.connectionId.isSome ∨ path = [] then best
          else if (cwd.toList = path ∨ path ++ ['/'] <+: cwd.toList) ∧ best.2 < length then
            (some ws, length)
          else best) (none, 0)
        best.1.map (·.id)

inductive NavDir where
  | up | down | left | right
  deriving DecidableEq

def filteredIds (tabs : List TabInfo) (workspaces : List Workspace)
    (selectedWorkspaceId : Option String) : List TabId :=
  (tabs.filter fun tab =>
    tabWorkspaceId workspaces tab.cwd tab.connectionId = selectedWorkspaceId).map (·.tabId)

/-- The card beside the selected one. The card that adds a tab is `none`, as is a selection that
is not among the cards. -/
def navigateTabInWorkspace (tabs : List TabInfo) (workspaces : List Workspace)
    (selectedWorkspaceId : Option String) (selectedTabId : Option TabId) (dir : NavDir) :
    Option TabId :=
  let ids := filteredIds tabs workspaces selectedWorkspaceId
  if ids = [] then none
  else
    match selectedTabId.bind fun id => ids.idxOf? id with
    | none => if dir = .left then ids.getLast? else ids[0]?
    | some i =>
        if dir = .left then
          if i = 0 then none else ids[i - 1]?
        else if ids.length ≤ i + 1 then none
        else ids[i + 1]?

/-! ### Cycles -/

section

variable {α : Type} [DecidableEq α] {cards : List α} {step : α → α}

theorem iterate_of_next (distinct : cards.Nodup)
    (follows : ∀ card (mem : card ∈ cards), step card = cards.next card mem)
    {start : Nat} (bound : start < cards.length) (count : Nat) :
    cards[(start + count) % cards.length]? = some (step^[count] cards[start]) := by
  induction count with
  | zero =>
    rw [Nat.add_zero, Nat.mod_eq_of_lt bound, getElem?_eq_getElem bound]
    rfl
  | succ count ih =>
    obtain ⟨inside, here⟩ := List.getElem?_eq_some_iff.mp ih
    rw [Function.iterate_succ_apply', ← here, follows _ (getElem_mem _),
      next_getElem cards distinct, ← getElem?_eq_getElem]
    simp only [Nat.mod_add_mod, Nat.add_assoc]

theorem visited_of_next (distinct : cards.Nodup)
    (follows : ∀ card (mem : card ∈ cards), step card = cards.next card mem)
    {card : α} (mem : card ∈ cards) :
    step^[cards.length] card = card ∧
      ((range cards.length).map fun count => step^[count] card).Perm cards := by
  obtain ⟨start, bound, rfl⟩ := getElem_of_mem mem
  have walks := iterate_of_next distinct follows bound
  constructor
  · refine some.inj ((walks _).symm.trans ?_)
    rw [Nat.add_mod_right, Nat.mod_eq_of_lt bound, getElem?_eq_getElem bound]
  · have around : ((range cards.length).map fun count => step^[count] cards[start]) =
        cards.rotate start := by
      refine ext_getElem (by simp) fun i _ _ => some.inj ?_
      rw [getElem_map, getElem_range, getElem_rotate, ← walks, Nat.add_comm start,
        ← getElem?_eq_getElem]
    rw [around]
    exact rotate_perm cards start

end

/-! ### The cards -/

section

variable (tabs : List TabInfo) (workspaces : List Workspace) (selected : Option String)

/-- The card that adds a tab and then the tabs of the workspace. -/
def cards : List (Option TabId) := none :: (filteredIds tabs workspaces selected).map some

variable {tabs workspaces selected}

section

variable (distinct : (tabs.map (·.tabId)).Nodup)
include distinct

theorem cards_nodup : (cards tabs workspaces selected).Nodup := by
  have once : (filteredIds tabs workspaces selected).Nodup :=
    distinct.sublist (filter_sublist.map _)
  exact nodup_cons.mpr ⟨by simp, once.map (some_injective _)⟩

/-- Right goes to the next place and left to the one before, around the cards. -/
theorem navigate_getElem? {card : Option TabId} {place : Nat}
    (standsAt : (cards tabs workspaces selected)[place]? = some card) (dir : NavDir) :
    (cards tabs workspaces selected)[(place + if dir = .left then
        (cards tabs workspaces selected).length - 1 else 1) %
          (cards tabs workspaces selected).length]? =
      some (navigateTabInWorkspace tabs workspaces selected card dir) := by
  have once : (filteredIds tabs workspaces selected).Nodup :=
    distinct.sublist (filter_sublist.map _)
  unfold navigateTabInWorkspace
  simp only [cards, length_cons, length_map, Nat.add_sub_cancel] at standsAt ⊢
  generalize filteredIds tabs workspaces selected = ids at once standsAt ⊢
  by_cases empty : ids = []
  · subst empty
    simp [Nat.mod_one]
  have some_last : 0 < ids.length := length_pos_of_ne_nil empty
  rw [if_neg empty]
  cases place with
  | zero =>
    cases standsAt
    simp only [bind_none, Nat.zero_add]
    split
    · obtain ⟨before, size⟩ : ∃ before, ids.length = before + 1 := ⟨ids.length - 1, by omega⟩
      rw [Nat.mod_eq_of_lt (Nat.lt_succ_self _), getLast?_eq_getElem?, size,
        getElem?_cons_succ, getElem?_map, Nat.add_sub_cancel,
        getElem?_eq_getElem (by omega)]
      rfl
    · rw [Nat.mod_eq_of_lt (by omega), getElem?_cons_succ, getElem?_map,
        getElem?_eq_getElem some_last]
      rfl
  | succ index =>
    rw [getElem?_cons_succ, getElem?_map] at standsAt
    obtain ⟨id, here, rfl⟩ := map_eq_some_iff.mp standsAt
    obtain ⟨bound, rfl⟩ := List.getElem?_eq_some_iff.mp here
    have found : ids.idxOf? ids[index] = some index :=
      idxOf?_eq_some_iff.mpr ⟨bound, rfl, fun other lower same =>
        Nat.ne_of_lt lower ((once.getElem_inj_iff).mp same)⟩
    simp only [bind_some, found]
    split
    · have back : (index + 1 + ids.length) % (ids.length + 1) = index := by
        rw [Nat.add_assoc, Nat.add_comm 1, Nat.add_mod_right, Nat.mod_eq_of_lt (by omega)]
      rw [back]
      cases index with
      | zero => rfl
      | succ below =>
        rw [getElem?_cons_succ, getElem?_map, getElem?_eq_getElem (by omega)]
        simp
    · by_cases isLast : ids.length ≤ index + 1
      · have around : index + 1 + 1 = ids.length + 1 := by omega
        rw [around, Nat.mod_self, if_pos isLast]
        rfl
      · rw [Nat.mod_eq_of_lt (by omega), getElem?_cons_succ, getElem?_map, if_neg isLast,
          getElem?_eq_getElem (by omega)]
        rfl

theorem navigate_right (card : Option TabId) (member : card ∈ cards tabs workspaces selected) :
    navigateTabInWorkspace tabs workspaces selected card .right =
      (cards tabs workspaces selected).next card member := by
  obtain ⟨place, bound, rfl⟩ := getElem_of_mem member
  rw [next_getElem _ (cards_nodup distinct)]
  have moves := navigate_getElem? distinct (getElem?_eq_getElem bound) .right
  exact some.inj (moves.symm.trans (getElem?_eq_getElem _))

theorem navigate_left (card : Option TabId) (member : card ∈ cards tabs workspaces selected) :
    navigateTabInWorkspace tabs workspaces selected card .left =
      (cards tabs workspaces selected).prev card member := by
  obtain ⟨place, bound, rfl⟩ := getElem_of_mem member
  rw [prev_getElem _ (cards_nodup distinct)]
  have moves := navigate_getElem? distinct (getElem?_eq_getElem bound) .left
  exact some.inj (moves.symm.trans (getElem?_eq_getElem _))

end

theorem idxOf?_bind_stale {selectedTabId : Option TabId}
    (stale : selectedTabId ∉ cards tabs workspaces selected) :
    (selectedTabId.bind fun id => (filteredIds tabs workspaces selected).idxOf? id) = none := by
  cases selectedTabId with
  | none => rfl
  | some id =>
    exact idxOf?_eq_none_iff.mpr fun held =>
      stale (mem_cons_of_mem _ (mem_map_of_mem held))

/-- Left and right undo each other on the cards, as many steps to the right as there are cards go
once around them, and any other selection moves like the card that adds a tab. -/
theorem navigation_cycles (distinct : (tabs.map (·.tabId)).Nodup) :
    (∀ card ∈ cards tabs workspaces selected,
      let navigate := navigateTabInWorkspace tabs workspaces selected
      navigate (navigate card .right) .left = card ∧
      navigate (navigate card .left) .right = card ∧
      (navigate · .right)^[(cards tabs workspaces selected).length] card = card ∧
      ((List.range (cards tabs workspaces selected).length).map fun count =>
        (navigate · .right)^[count] card).Perm (cards tabs workspaces selected)) ∧
    ∀ card ∉ cards tabs workspaces selected, ∀ dir,
      navigateTabInWorkspace tabs workspaces selected card dir =
        navigateTabInWorkspace tabs workspaces selected none dir := by
  have once : (cards tabs workspaces selected).Nodup := cards_nodup distinct
  refine ⟨fun card member => ⟨?_, ?_, visited_of_next once (navigate_right distinct) member⟩,
    fun card stale dir => ?_⟩
  · rw [navigate_right distinct card member,
      navigate_left distinct _ (next_mem _ _ member), prev_next _ once]
  · rw [navigate_left distinct card member,
      navigate_right distinct _ (prev_mem _ _ member), next_prev _ once]
  · unfold navigateTabInWorkspace
    simp [idxOf?_bind_stale stale]

/-- Three steps from the second of two tabs. -/
theorem navigation_cycles_pair :
    let tab (id : TabId) : TabInfo := ⟨id, id, none, none, none, none, none, none⟩
    (navigateTabInWorkspace [tab "a", tab "b"] [] none · .right)^[3] (some "b") = some "b" := by
  intro tab
  have distinct : ([tab "a", tab "b"].map (·.tabId)).Nodup := by decide
  exact ((navigation_cycles distinct).1 (some "b") (by decide +kernel)).2.2.1

end

end Dinotty.MissionControl
