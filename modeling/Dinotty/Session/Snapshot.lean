/-
This file is the snapshot of the tabs and its restoration into an empty manager. It proves which
tabs come back, in which order, with which layouts and active panes, and which terminals have
sessions.
-/

import Dinotty.Session.Restore
import Dinotty.Session.TabOrder

namespace Dinotty.Session.Stored

open List SessionManager

/-! ### Writing -/

structure SessionSnapshot where
  activePaneId : Option PaneId
  tabOrder : List TabId
  tabs : List TabSnapshot

def cwdOf (manager : SessionManager) (pane : PaneId) : Option String :=
  (manager.sessions.lookup pane).bind (·.cwd)

/-- Fill in the directory of every terminal leaf that has a session with one. -/
def enrichLeafCwd (manager : SessionManager) (node : Json) : Json :=
  if node.getStr "type" = some "leaf" then
    if leafKind node = "terminal" then
      match (node.getStr "paneId").bind (cwdOf manager) with
      | some cwd => node.set "cwd" (.str cwd)
      | none => node
    else node
  else
    match _found : node.getArray "children" with
    | some children =>
        node.set "children" (.arr (children.attach.map fun child => enrichLeafCwd manager child.1))
    | none => node
termination_by sizeOf node
decreasing_by exact Json.sizeOf_of_mem_getArray _found child.2

def tabSnapshot (manager : SessionManager) (tabId : TabId) (value : Json) : TabSnapshot :=
  let layout := (value.get "layout").getD .null
  let activePaneId := value.getStr "active_pane_id"
  { tabId
    paneId := activePaneId.getD tabId
    layout := enrichLeafCwd manager layout
    activePaneId
    connectionId := none
    workspaceId := none
    customTitle := none
    broadcastMode := none }

def buildSnapshot (manager : SessionManager) : SessionSnapshot where
  activePaneId := manager.activePaneId
  tabOrder     := manager.tabOrder
  tabs         := manager.tabOrder.filterMap fun tab =>
    (manager.tabLayouts.lookup tab).map (tabSnapshot manager tab)

/-! ### Reading -/

def maxRestoreTabs : Nat := 20

/-- Restore tabs one after another, going on after one that fails. -/
def restoreTabs (spawn : Spawn) (manager : SessionManager) (tabs : List TabSnapshot) :
    SessionManager :=
  tabs.foldl (fun manager tab => (restoreSingleTab spawn manager tab).1) manager

/-- Restore the first tabs that are local, and then the active pane if it has a session. -/
def restoreSession (spawn : Spawn) (manager : SessionManager) (snapshot : SessionSnapshot) :
    SessionManager :=
  let tabs := (snapshot.tabs.filter (·.connectionId.isNone)).take maxRestoreTabs
  let restored := restoreTabs spawn manager tabs
  match snapshot.activePaneId with
  | some active =>
      if (restored.sessions.lookup active).isSome then restored.setActivePaneId (some active)
      else restored
  | none => restored

/-! ### The directories of the terminals -/

/-- A layout without the directories of its terminal leaves. -/
def withoutCwd (node : Json) : Json :=
  if node.getStr "type" = some "leaf" then
    if leafKind node = "terminal" then node.without "cwd" else node
  else
    match _found : node.getArray "children" with
    | some children =>
        node.set "children" (.arr (children.attach.map fun child => withoutCwd child.1))
    | none => node
termination_by sizeOf node
decreasing_by exact Json.sizeOf_of_mem_getArray _found child.2

variable {manager : SessionManager} {node : Json} {items : List Json}

theorem enrichLeafCwd_of_leaf (isLeaf : node.getStr "type" = some "leaf") :
    enrichLeafCwd manager node = node ∨ ∃ pane cwd, leafKind node = "terminal" ∧
      node.getStr "paneId" = some pane ∧ cwdOf manager pane = some cwd ∧
      enrichLeafCwd manager node = node.set "cwd" (.str cwd) := by
  rw [enrichLeafCwd, if_pos isLeaf]
  split
  next terminal =>
    split
    next cwd found =>
      obtain ⟨pane, named, inDirectory⟩ := Option.bind_eq_some_iff.mp found
      exact .inr ⟨pane, cwd, terminal, named, inDirectory, rfl⟩
    · exact .inl rfl
  · exact .inl rfl

theorem enrichLeafCwd_of_items (notLeaf : node.getStr "type" ≠ some "leaf")
    (found : node.getArray "children" = some items) :
    enrichLeafCwd manager node =
      node.set "children" (.arr (items.map (enrichLeafCwd manager))) := by
  rw [enrichLeafCwd, if_neg notLeaf]
  simp only [map_subtype, unattach_attach]
  split <;> rename_i here
  · cases found.symm.trans here
    rfl
  · cases found.symm.trans here

theorem enrichLeafCwd_of_no_items (notLeaf : node.getStr "type" ≠ some "leaf")
    (none : node.getArray "children" = none) : enrichLeafCwd manager node = node := by
  rw [enrichLeafCwd, if_neg notLeaf]
  split <;> rename_i here
  · cases none.symm.trans here
  · rfl

theorem withoutCwd_of_items (notLeaf : node.getStr "type" ≠ some "leaf")
    (found : node.getArray "children" = some items) :
    withoutCwd node = node.set "children" (.arr (items.map withoutCwd)) := by
  rw [withoutCwd, if_neg notLeaf]
  simp only [map_subtype, unattach_attach]
  split <;> rename_i here
  · cases found.symm.trans here
    rfl
  · cases found.symm.trans here

theorem withoutCwd_enrichLeafCwd (manager : SessionManager) (node : Json) :
    withoutCwd (enrichLeafCwd manager node) = withoutCwd node := by
  induction node using Json.induction_on_items "children" with
  | step node below =>
    by_cases isLeaf : node.getStr "type" = some "leaf"
    · rcases @enrichLeafCwd_of_leaf manager node isLeaf with
        same | ⟨pane, cwd, terminal, -, -, enriched⟩
      · rw [same]
      · have type : (node.set "cwd" (.str cwd)).getStr "type" = some "leaf" :=
          (Json.getStr_set_of_ne (by decide) _ _).trans isLeaf
        have kind : leafKind (node.set "cwd" (.str cwd)) = leafKind node :=
          congrArg (·.getD "terminal") (Json.getStr_set_of_ne (by decide) _ _)
        rw [enriched, withoutCwd, if_pos type, if_pos (kind.trans terminal), Json.without_set,
          withoutCwd, if_pos isLeaf, if_pos terminal]
    · cases found : node.getArray "children" with
      | none => rw [enrichLeafCwd_of_no_items isLeaf found]
      | some items =>
        have type : (node.set "children" (.arr (items.map (enrichLeafCwd manager)))).getStr
            "type" ≠ some "leaf" := by
          rw [Json.getStr_set_of_ne (by decide)]
          exact isLeaf
        have isObject := Json.isObject_of_get (Json.get_of_getArray found)
        rw [enrichLeafCwd_of_items isLeaf found,
          withoutCwd_of_items type (Json.getArray_set_self isObject _ _), Json.set_set,
          withoutCwd_of_items isLeaf found, map_map]
        exact congrArg (fun items => node.set "children" (.arr items))
          (map_congr_left fun item mem => below items found item mem)

theorem collectTerminalLeavesWithCwd_enriched_leaf (manager : SessionManager)
    (isLeaf : node.getStr "type" = some "leaf") :
    collectTerminalLeavesWithCwd (enrichLeafCwd manager node) =
      (collectTerminalLeavesWithCwd node).map fun (pane, cwd) =>
        (pane, (cwdOf manager pane).or cwd) := by
  rw [enrichLeafCwd, if_pos isLeaf]
  by_cases terminal : leafKind node = "terminal"
  · rw [if_pos terminal]
    have collected : collectTerminalLeavesWithCwd node =
        ((node.getStr "paneId").map fun pane => (pane, node.getStr "cwd")).toList := by
      rw [collectTerminalLeavesWithCwd_eq, if_pos isLeaf, if_pos terminal]
    cases named : node.getStr "paneId" with
    | none =>
      rw [collected, named, Option.bind_none]
      dsimp only
      rw [collected, named]
      rfl
    | some pane =>
      rw [collected, named, Option.bind_some]
      cases inDirectory : cwdOf manager pane with
      | none =>
        dsimp only
        rw [collected, named]
        simp [inDirectory]
      | some cwd =>
        have type : (node.set "cwd" (.str cwd)).getStr "type" = some "leaf" :=
          (Json.getStr_set_of_ne (by decide) _ _).trans isLeaf
        have kind : leafKind (node.set "cwd" (.str cwd)) = leafKind node :=
          congrArg (·.getD "terminal") (Json.getStr_set_of_ne (by decide) _ _)
        have pane' : (node.set "cwd" (.str cwd)).getStr "paneId" = some pane :=
          (Json.getStr_set_of_ne (by decide) _ _).trans named
        have dir : (node.set "cwd" (.str cwd)).getStr "cwd" = some cwd := by
          rw [Json.getStr, Json.get_set_self (Json.isObject_of_getStr isLeaf)]
          rfl
        dsimp only
        rw [collectTerminalLeavesWithCwd_eq, if_pos type, if_pos (kind.trans terminal), pane', dir]
        simp [inDirectory]
  · rw [if_neg terminal, collectTerminalLeavesWithCwd_eq, if_pos isLeaf, if_neg terminal]
    rfl

theorem collectTerminalLeavesWithCwd_enrichLeafCwd (manager : SessionManager) (node : Json) :
    collectTerminalLeavesWithCwd (enrichLeafCwd manager node) =
      (collectTerminalLeavesWithCwd node).map fun (pane, cwd) =>
        (pane, (cwdOf manager pane).or cwd) := by
  induction node using Json.induction_on_items "children" with
  | step node below =>
    by_cases isLeaf : node.getStr "type" = some "leaf"
    · exact collectTerminalLeavesWithCwd_enriched_leaf manager isLeaf
    · have collected : ∀ other : Json, other.getStr "type" = node.getStr "type" →
          collectTerminalLeavesWithCwd other =
            (children other).flatMap collectTerminalLeavesWithCwd := by
        intro other type
        rw [collectTerminalLeavesWithCwd_eq, if_neg (type.trans_ne isLeaf)]
      cases found : node.getArray "children" with
      | none =>
        have none : children node = [] := by
          rw [children, found]
          exact ite_self _
        rw [enrichLeafCwd_of_no_items isLeaf found, collected node rfl, none]
        rfl
      | some items =>
        have type : (node.set "children" (.arr (items.map (enrichLeafCwd manager)))).getStr
            "type" = node.getStr "type" := Json.getStr_set_of_ne (by decide) _ _
        rw [enrichLeafCwd_of_items isLeaf found, collected _ type, collected node rfl]
        by_cases isSplit : node.getStr "type" = some "split"
        · rw [children_set_children isSplit, children_of_split isSplit found, flatMap_map,
            map_flatMap]
          exact flatMap_congr fun item mem => below items found item mem
        · rw [children_of_ne (type.trans_ne isSplit), children_of_ne isSplit]
          rfl

theorem collectTerminalLeafPaneIds_enrichLeafCwd (manager : SessionManager) (node : Json) :
    collectTerminalLeafPaneIds (enrichLeafCwd manager node) = collectTerminalLeafPaneIds node := by
  rw [← map_fst_collectTerminalLeavesWithCwd, collectTerminalLeavesWithCwd_enrichLeafCwd,
    map_map, ← map_fst_collectTerminalLeavesWithCwd]
  rfl

/-! ### Restoring tabs -/

theorem allStart_iff (succeeds : ∀ pane cwd, ∃ sess, spawn pane cwd = .ok sess)
    {spawned : List PaneId} {leaves : List (PaneId × Option String)} :
    AllStart manager spawn spawned leaves ↔ (leaves.map Prod.fst).Nodup ∧
        ∀ pane ∈ leaves.map Prod.fst, manager.Vacant pane ∧ pane ∉ spawned := by
  induction leaves generalizing spawned with
  | nil => simp [AllStart]
  | cons leaf rest ih =>
    obtain ⟨pane, cwd⟩ := leaf
    rw [AllStart, ih, Starts, map_cons, nodup_cons, forall_mem_cons]
    constructor
    · rintro ⟨⟨vacant, unspawned, -⟩, nodup, all⟩
      refine ⟨⟨fun mem => ?_, nodup⟩, ⟨vacant, unspawned⟩, fun other mem => ?_⟩
      · exact (all pane mem).2 (mem_append_right _ (mem_singleton_self pane))
      · exact ⟨(all other mem).1, fun earlier =>
          (all other mem).2 (mem_append_left _ earlier)⟩
    · rintro ⟨⟨once, nodup⟩, ⟨vacant, unspawned⟩, all⟩
      refine ⟨⟨vacant, unspawned, succeeds pane cwd⟩, nodup, fun other mem => ?_⟩
      refine ⟨(all other mem).1, fun earlier => ?_⟩
      rcases mem_append.mp earlier with before | last
      · exact (all other mem).2 before
      · exact once (mem_singleton.mp last ▸ mem)

variable {spawn : Spawn}

theorem allStart_tab_iff (succeeds : ∀ pane cwd, ∃ session, spawn pane cwd = .ok session)
    (tab : TabSnapshot) :
    AllStart manager (spawnPane spawn) [] (collectTerminalLeavesWithCwd tab.layout) ↔
      (collectTerminalLeafPaneIds tab.layout).Nodup ∧
        ∀ pane ∈ collectTerminalLeafPaneIds tab.layout, manager.Vacant pane := by
  have comesUp : ∀ pane cwd, ∃ session, spawnPane spawn pane cwd = .ok session :=
    fun pane cwd => succeeds pane _
  rw [allStart_iff comesUp, map_fst_collectTerminalLeavesWithCwd]
  simp

def snapshotPanes (tabs : List TabSnapshot) : List PaneId :=
  tabs.flatMap fun tab => collectTerminalLeafPaneIds tab.layout

theorem snapshotPanes_cons (tab : TabSnapshot) (rest : List TabSnapshot) :
    snapshotPanes (tab :: rest) = collectTerminalLeafPaneIds tab.layout ++ snapshotPanes rest := rfl

theorem snapshotPanes_singleton (tab : TabSnapshot) :
    snapshotPanes [tab] = collectTerminalLeafPaneIds tab.layout := append_nil _

/-- All tabs of a snapshot have been restored behind those that were there. -/
structure Restored (before after : SessionManager) (tabs : List TabSnapshot) : Prop where
  order : after.tabOrder = before.tabOrder ++ tabs.map (·.tabId)
  stored : ∀ tab ∈ tabs, after.tabLayouts.lookup tab.tabId = some (restoredValue tab)
  others : ∀ tab, tab ∉ tabs.map (·.tabId) →
    after.tabLayouts.lookup tab = before.tabLayouts.lookup tab
  sessions : ∀ pane, (after.sessions.lookup pane).isSome = true ↔
    (before.sessions.lookup pane).isSome = true ∨ pane ∈ snapshotPanes tabs
  reservations : after.sessionReservations = before.sessionReservations
  active : after.activePaneId = before.activePaneId

theorem restored_tab (succeeds : ∀ pane cwd, ∃ session, spawn pane cwd = .ok session)
    {tab : TabSnapshot} (fresh : tab.tabId ∉ manager.tabOrder)
    (nodup : (collectTerminalLeafPaneIds tab.layout).Nodup)
    (vacant : ∀ pane ∈ collectTerminalLeafPaneIds tab.layout, manager.Vacant pane) :
    Restored manager (restoreSingleTab spawn manager tab).1 [tab] := by
  obtain ⟨after, started, same⟩ :=
    restoreSingleTab_of_allStart ((allStart_tab_iff succeeds tab).mpr ⟨nodup, vacant⟩)
  rw [same]
  constructor
  · rw [insertTabLocked, started.tabOrder]
    exact if_neg (by simpa using fresh)
  · rintro other mem
    obtain rfl := mem_singleton.mp mem
    rw [insertTabLocked_lookup, if_pos rfl]
  · intro other ne
    rw [insertTabLocked_lookup, if_neg (by simpa using ne), started.tabLayouts]
  · intro pane
    change (after.sessions.lookup pane).isSome = true ↔ _
    rw [snapshotPanes_singleton]
    by_cases mem : pane ∈ collectTerminalLeafPaneIds tab.layout
    · exact iff_of_true (started.live pane mem) (.inr mem)
    · rw [started.others pane mem, or_iff_left mem]
  · exact started.reservations
  · exact started.active

theorem Restored.refl (manager : SessionManager) : Restored manager manager [] where
  order := (append_nil _).symm
  stored := nofun
  others := fun _ _ => rfl
  sessions := fun _ => (or_iff_left not_mem_nil).symm
  reservations := rfl
  active := rfl

variable {before after : SessionManager} {tabs : List TabSnapshot}

theorem Restored.vacant_iff (restored : Restored before after tabs) (pane : PaneId) :
    after.Vacant pane ↔ before.Vacant pane ∧ pane ∉ snapshotPanes tabs := by
  have dead : (after.sessions.lookup pane).isNone = true ↔
      (before.sessions.lookup pane).isNone = true ∧ pane ∉ snapshotPanes tabs := by
    rw [← Option.not_isSome, ← Option.not_isSome, Bool.not_eq_true', Bool.not_eq_true',
      ← Bool.not_eq_true, ← Bool.not_eq_true, restored.sessions, not_or]
  unfold Vacant
  rw [dead, restored.reservations, and_right_comm]

theorem Restored.trans {middle : SessionManager} {first second : List TabSnapshot}
    (earlier : Restored before middle first) (later : Restored middle after second)
    (apart : ∀ tab ∈ first, tab.tabId ∉ second.map (·.tabId)) :
    Restored before after (first ++ second) where
  order := by rw [later.order, earlier.order, map_append, append_assoc]
  stored := by
    intro tab mem
    rcases mem_append.mp mem with inFirst | inSecond
    · rw [later.others tab.tabId (apart tab inFirst)]
      exact earlier.stored tab inFirst
    · exact later.stored tab inSecond
  others := by
    intro tab outside
    rw [map_append, mem_append, not_or] at outside
    rw [later.others tab outside.2, earlier.others tab outside.1]
  sessions := by
    intro pane
    rw [later.sessions, earlier.sessions, snapshotPanes, snapshotPanes, snapshotPanes,
      flatMap_append, mem_append, or_assoc]
  reservations := later.reservations.trans earlier.reservations
  active := later.active.trans earlier.active

theorem Restored.fresh {tab : TabSnapshot} {rest : List TabSnapshot}
    (restored : Restored before after [tab]) (unlisted : tab.tabId ∉ rest.map (·.tabId))
    (fresh : ∀ other ∈ rest, other.tabId ∉ before.tabOrder) :
    ∀ other ∈ rest, other.tabId ∉ after.tabOrder := by
  intro other mem listed
  rw [restored.order, mem_append, map_singleton, mem_singleton] at listed
  rcases listed with earlier | same
  · exact fresh other mem earlier
  · exact unlisted (mem_map.mpr ⟨other, mem, same⟩)

theorem restored_tabs (succeeds : ∀ pane cwd, ∃ sess, spawn pane cwd = .ok sess)
    (once : (tabs.map (·.tabId)).Nodup) (fresh : ∀ tab ∈ tabs, tab.tabId ∉ manager.tabOrder)
    (nodup : (snapshotPanes tabs).Nodup)
    (vacant : ∀ pane ∈ snapshotPanes tabs, manager.Vacant pane) :
    Restored manager (restoreTabs spawn manager tabs) tabs := by
  induction tabs generalizing manager with
  | nil => exact .refl manager
  | cons tab rest ih =>
    rw [snapshotPanes_cons] at nodup vacant
    obtain ⟨distinctFirst, distinctRest, disjoint⟩ := nodup_append'.mp nodup
    obtain ⟨unlisted, onceRest⟩ := nodup_cons.mp once
    have first := restored_tab succeeds (fresh tab mem_cons_self) distinctFirst
      fun pane mem => vacant pane (mem_append_left _ mem)
    refine first.trans (ih onceRest ?_ distinctRest ?_) ?_
    · exact first.fresh unlisted fun other mem => fresh other (mem_cons_of_mem _ mem)
    · intro pane mem
      refine (first.vacant_iff pane).mpr ⟨vacant pane (mem_append_right _ mem), ?_⟩
      rw [snapshotPanes_singleton]
      exact fun inFirst => disjoint inFirst mem
    · rintro other single
      obtain rfl := mem_singleton.mp single
      exact unlisted

/-! ### Which tabs come back -/

theorem ordered_rollBack (ordered : manager.Ordered) (spawned : List PaneId) :
    (rollBack manager spawned).Ordered := by
  induction spawned generalizing manager with
  | nil => exact ordered
  | cons pane rest ih => exact ih (ordered.closeSession pane none)

theorem length_tabOrder_rollBack {spawned : List PaneId} (ordered : before.Ordered)
    (started : Started before after spawned) :
    (rollBack after spawned).Ordered ∧
      (rollBack after spawned).tabOrder.length ≤ before.tabOrder.length := by
  have orderedAfter := ordered_rollBack (ordered.congr started.tabOrder started.tabLayouts) spawned
  refine ⟨orderedAfter, orderedAfter.nodup.length_le_of_subset fun tab listed => ?_⟩
  rw [orderedAfter.mem_iff, (rollBack_spec started.distinct started.live).2.2.1,
    started.tabLayouts] at listed
  refine (ordered.mem_iff tab).mpr (Option.isSome_iff_exists.mpr ?_)
  obtain ⟨left, purged⟩ := Option.isSome_iff_exists.mp listed
  obtain ⟨value, found, -⟩ := Option.bind_eq_some_iff.mp purged
  exact ⟨value, found⟩

theorem length_tabOrder_restoreSingleTab (ordered : manager.Ordered) (spawn : Spawn)
    (tab : TabSnapshot) :
    (restoreSingleTab spawn manager tab).1.Ordered ∧
      (restoreSingleTab spawn manager tab).1.tabOrder.length ≤ manager.tabOrder.length + 1 ∧
      (¬AllStart manager (spawnPane spawn) [] (collectTerminalLeavesWithCwd tab.layout) →
        (restoreSingleTab spawn manager tab).1.tabOrder.length ≤ manager.tabOrder.length) := by
  by_cases all : AllStart manager (spawnPane spawn) [] (collectTerminalLeavesWithCwd tab.layout)
  · obtain ⟨after, started, same⟩ := restoreSingleTab_of_allStart all
    rw [same]
    refine ⟨(ordered.congr started.tabOrder started.tabLayouts).insertTabLocked _ _, ?_,
      fun fails => absurd all fails⟩
    rw [insertTabLocked, started.tabOrder]
    split
    · exact Nat.le_succ _
    · rw [length_append, length_singleton]
  · obtain ⟨after, error, started, same⟩ := restoreSingleTab_of_not_allStart all
    rw [same]
    obtain ⟨orderedAfter, shorter⟩ := length_tabOrder_rollBack ordered started
    exact ⟨orderedAfter, Nat.le_succ_of_le shorter, fun _ => shorter⟩

theorem length_tabOrder_restoreTabs (ordered : manager.Ordered) (spawn : Spawn)
    (tabs : List TabSnapshot) :
    (restoreTabs spawn manager tabs).tabOrder.length ≤ manager.tabOrder.length + tabs.length := by
  induction tabs generalizing manager with
  | nil => exact Nat.le_refl _
  | cons tab rest ih =>
    obtain ⟨orderedNext, longer, -⟩ := length_tabOrder_restoreSingleTab ordered spawn tab
    have further := ih orderedNext
    rw [restoreTabs, foldl_cons, length_cons]
    rw [restoreTabs] at further
    omega

/-- Where as many tabs are listed more as are restored, their terminals had vacant panes, each
once. -/
theorem distinct_of_restoreTabs (succeeds : ∀ pane cwd, ∃ sess, spawn pane cwd = .ok sess)
    (ordered : manager.Ordered) (once : (tabs.map (·.tabId)).Nodup)
    (fresh : ∀ tab ∈ tabs, tab.tabId ∉ manager.tabOrder)
    (length : (restoreTabs spawn manager tabs).tabOrder.length =
      manager.tabOrder.length + tabs.length) :
    (snapshotPanes tabs).Nodup ∧ ∀ pane ∈ snapshotPanes tabs, manager.Vacant pane := by
  induction tabs generalizing manager with
  | nil => exact ⟨.nil, nofun⟩
  | cons tab rest ih =>
    obtain ⟨orderedNext, longer, fails⟩ := length_tabOrder_restoreSingleTab ordered spawn tab
    have further := length_tabOrder_restoreTabs orderedNext spawn rest
    rw [restoreTabs, foldl_cons, length_cons] at length
    rw [restoreTabs] at further
    have all : AllStart manager (spawnPane spawn) []
        (collectTerminalLeavesWithCwd tab.layout) := by
      by_contra failing
      have shorter := fails failing
      omega
    obtain ⟨distinctFirst, vacantFirst⟩ := (allStart_tab_iff succeeds tab).mp all
    have first := restored_tab succeeds (fresh tab mem_cons_self) distinctFirst vacantFirst
    obtain ⟨unlisted, onceRest⟩ := nodup_cons.mp once
    have lengthFirst : (restoreSingleTab spawn manager tab).1.tabOrder.length =
        manager.tabOrder.length + 1 := by
      rw [first.order, length_append]
      rfl
    obtain ⟨distinctRest, vacantRest⟩ := ih orderedNext onceRest
      (first.fresh unlisted fun other mem => fresh other (mem_cons_of_mem _ mem)) (by
        rw [restoreTabs]
        omega)
    have apart := fun pane mem => (first.vacant_iff pane).mp (vacantRest pane mem)
    rw [snapshotPanes_singleton] at apart
    rw [snapshotPanes_cons]
    refine ⟨nodup_append'.mpr ⟨distinctFirst, distinctRest, ?_⟩, fun pane mem => ?_⟩
    · exact fun pane inFirst inRest => (apart pane inRest).2 inFirst
    · rcases mem_append.mp mem with inFirst | inRest
      · exact vacantFirst pane inFirst
      · exact (apart pane inRest).1

/-! ### A snapshot that is restored -/

def terminalPanes (manager : SessionManager) (tabs : List TabId) : List PaneId :=
  tabs.flatMap fun tab => (manager.layoutOf tab).elim [] collectTerminalLeafPaneIds

/-- The tab has the layout, up to the directories of its terminals, which are those of the sessions
where these have one, and the active pane. -/
structure SameTab (before after : SessionManager) (tab : TabId) : Prop where
  layout : ∃ new, after.layoutOf tab = some new ∧
    withoutCwd new = withoutCwd ((before.layoutOf tab).getD .null) ∧
    collectTerminalLeavesWithCwd new =
      (collectTerminalLeavesWithCwd ((before.layoutOf tab).getD .null)).map fun (pane, cwd) =>
        (pane, (cwdOf before pane).or cwd)
  active : (after.tabLayouts.lookup tab).bind (Json.getStr "active_pane_id") =
    (before.tabLayouts.lookup tab).bind (Json.getStr "active_pane_id")

/-- The manager has these tabs in this order and no others, the sessions of their terminals and no
others, none of them for a pane that was connected over SSH, and the active pane if it is one of
theirs. -/
structure CameBack (before after : SessionManager) (tabs : List TabId) : Prop where
  order : after.tabOrder = tabs
  same : ∀ tab ∈ tabs, SameTab before after tab
  absent : ∀ tab, tab ∉ tabs → after.tabLayouts.lookup tab = none
  sessions : ∀ pane, (after.sessions.lookup pane).isSome = true ↔ pane ∈ terminalPanes before tabs
  notSsh : ∀ pane session, (after.sessions.lookup pane).isSome = true →
    before.sessions.lookup pane = some session → session.sshParams = none
  active : after.activePaneId =
    before.activePaneId.filter fun pane => decide (pane ∈ terminalPanes before tabs)

theorem sameTab_of_restored {tab : TabId} {value : Json}
    (found : before.tabLayouts.lookup tab = some value)
    (stored : after.tabLayouts.lookup tab = some (restoredValue (tabSnapshot before tab value))) :
    SameTab before after tab where
  layout := by
    have layoutBefore : before.layoutOf tab = value.get "layout" := by
      rw [layoutOf, found, Option.bind_some]
    refine ⟨enrichLeafCwd before ((value.get "layout").getD .null), ?_, ?_, ?_⟩
    · exact layoutOf_eq_some_iff.mpr ⟨_, stored, rfl⟩
    · rw [layoutBefore, withoutCwd_enrichLeafCwd]
    · rw [layoutBefore, collectTerminalLeavesWithCwd_enrichLeafCwd]
  active := by
    rw [stored, found, Option.bind_some, Option.bind_some]
    cases inHand : value.getStr "active_pane_id" <;>
      simp [restoredValue, tabSnapshot, inHand] <;> rfl

theorem tabs_buildSnapshot (ordered : manager.Ordered) :
    (buildSnapshot manager).tabs = manager.tabOrder.map fun tab =>
      tabSnapshot manager tab ((manager.tabLayouts.lookup tab).getD .null) := by
  rw [buildSnapshot, ← filterMap_eq_map]
  refine filterMap_congr fun tab mem => ?_
  obtain ⟨value, found⟩ := Option.isSome_iff_exists.mp ((ordered.mem_iff tab).mp mem)
  rw [Function.comp_apply, found, Option.map_some, Option.getD_some]

theorem collectTerminalLeafPaneIds_null : collectTerminalLeafPaneIds .null = [] := by
  rw [collectTerminalLeafPaneIds_eq, if_neg (by decide)]
  rfl

theorem snapshotPanes_tabSnapshot (manager : SessionManager) (tabs : List TabId) :
    snapshotPanes (tabs.map fun tab =>
      tabSnapshot manager tab ((manager.tabLayouts.lookup tab).getD .null)) =
      terminalPanes manager tabs := by
  rw [snapshotPanes, flatMap_map, terminalPanes]
  refine flatMap_congr fun tab mem => ?_
  rw [layoutOf]
  cases found : manager.tabLayouts.lookup tab with
  | none =>
    rw [Option.getD_none, Option.bind_none]
    exact (collectTerminalLeafPaneIds_enrichLeafCwd manager .null).trans
      collectTerminalLeafPaneIds_null
  | some value =>
    rw [Option.getD_some, Option.bind_some, tabSnapshot]
    refine (collectTerminalLeafPaneIds_enrichLeafCwd manager _).trans ?_
    cases value.get "layout" with
    | none => exact collectTerminalLeafPaneIds_null
    | some layout => rfl

theorem restoreSession_buildSnapshot (ordered : manager.Ordered) (spawn : Spawn)
    (into : SessionManager) :
    restoreSession spawn into (buildSnapshot manager) =
      let restored := restoreTabs spawn into
        ((manager.tabOrder.take maxRestoreTabs).map fun tab =>
          tabSnapshot manager tab ((manager.tabLayouts.lookup tab).getD .null))
      match manager.activePaneId with
      | some active =>
          if (restored.sessions.lookup active).isSome then restored.setActivePaneId (some active)
          else restored
      | none => restored := by
  have unmarked : (buildSnapshot manager).tabs.filter (·.connectionId.isNone) =
      (buildSnapshot manager).tabs := by
    refine filter_eq_self.mpr fun tab mem => ?_
    rw [tabs_buildSnapshot ordered] at mem
    obtain ⟨id, -, rfl⟩ := mem_map.mp mem
    rfl
  rw [restoreSession, unmarked, tabs_buildSnapshot ordered, ← map_take]
  rfl

theorem ordered_empty : ({} : SessionManager).Ordered := ⟨.nil, fun tab => by simp⟩

def comesUp : Spawn := fun _ _ => .ok { handle := 1 }

/-- A local terminal in a directory of its own. -/
def oneTerminal : SessionManager :=
  SessionManager.run [.insertSession "p1" { handle := 1, cwd := some "/srv" },
    .updateLayout "t1"
      (tabValue (.obj [("type", .str "leaf"), ("paneId", .str "p1")]) (some "p1")) (some "p1")]

/-- A terminal over SSH, in a tab that a user has named. -/
def remoteTerminal : SessionManager :=
  SessionManager.run [
    .insertSession "p1" { handle := 1, sshParams := some { username := "u", host := "h" } },
    .updateLayout "t1"
      (tabValue (.obj [("type", .str "leaf"), ("paneId", .str "p1")]) (some "p1")) (some "p1"),
    .renameTab "t1" "prod"]

/-- Tabs without terminals, one more than are restored. -/
def twentyOneTabs : SessionManager :=
  SessionManager.run ((List.range 21).map fun number =>
    .updateLayout (toString number) (tabValue .null none) none)

end Dinotty.Session.Stored
