/-
This file is the tabs that a client of the sync socket shows. It keeps the root of a layout a split,
with an axis for every direction; it keeps the tabs that it has when a list arrives; and it ignores
an update whose leaves are those that it shows.
-/

import Dinotty.Foundation.Mirrors
import Dinotty.Session.Layout

namespace Dinotty.Sync

open Session List Option

/-! ### Layouts -/

mutual

/-- Make the direction of every split an axis. -/
def normalizeSplitTree : Layout → Layout
  | .leaf fields => .leaf fields
  | .split id direction ratio children ratios =>
      .split id (Layout.normalizeSplitDirection direction) ratio
        (normalizeSplitTreeOfAll children) ratios
  | .other type => .other type

def normalizeSplitTreeOfAll : List Layout → List Layout
  | [] => []
  | child :: rest => normalizeSplitTree child :: normalizeSplitTreeOfAll rest

end

/-- Wrap a layout that is not a split, so that the root is one. An identifier is made up for a
root that has none. -/
def ensureSplitRoot (splitId : String) : Layout → Layout
  | .split id direction ratio children ratios =>
      normalizeSplitTree (.split (if id = "" then splitId else id) direction ratio children ratios)
  | layout => .split splitId "horizontal" none [layout] [1]

/-- The panes of the leaves. A client knows leaves and splits only, and no other node. -/
def getAllLeaves (layout : Layout) : List PaneId := layout.collectLeafPaneIds

mutual

/-- The nesting, the axes and the panes of a layout. -/
def skeleton : Layout → Layout
  | .leaf fields => .leaf { paneId := fields.paneId }
  | .split _ direction _ children _ =>
      .split "" (Layout.normalizeSplitDirection direction) none (skeletonOfAll children) []
  | .other type => .other type

def skeletonOfAll : List Layout → List Layout
  | [] => []
  | child :: rest => skeleton child :: skeletonOfAll rest

end

/-- The skeleton of a layout in the form in which a client keeps it. -/
def rooted (layout : Layout) : Layout := skeleton (ensureSplitRoot "" layout)

theorem normalizeSplitDirection_idem (direction : String) :
    Layout.normalizeSplitDirection (Layout.normalizeSplitDirection direction) =
      Layout.normalizeSplitDirection direction := by
  unfold Layout.normalizeSplitDirection
  split <;> rfl

theorem skeleton_normalizeSplitTree (layout : Layout) :
    skeleton (normalizeSplitTree layout) = skeleton layout := by
  induction layout using Layout.induction with
  | leaf fields => rw [normalizeSplitTree]
  | split id side ratio children ratios ih =>
    have all : skeletonOfAll (normalizeSplitTreeOfAll children) = skeletonOfAll children := by
      clear id side ratio ratios
      induction children with
      | nil => rfl
      | cons child rest later =>
        rw [normalizeSplitTreeOfAll, skeletonOfAll, skeletonOfAll, ih child mem_cons_self,
          later fun other mem => ih other (mem_cons_of_mem _ mem)]
    rw [normalizeSplitTree, skeleton, skeleton, all, normalizeSplitDirection_idem]
  | other type => rw [normalizeSplitTree]

theorem rooted_split (id side : String) (ratio : Option Rat) (children : List Layout)
    (ratios : List Rat) :
    rooted (.split id side ratio children ratios) =
      skeleton (.split id side ratio children ratios) := by
  rw [rooted, ensureSplitRoot, skeleton_normalizeSplitTree, skeleton, skeleton]

@[simp] theorem rooted_ensureSplitRoot (splitId : String) (layout : Layout) :
    rooted (ensureSplitRoot splitId layout) = rooted layout := by
  cases layout with
  | leaf fields => rfl
  | split id side ratio children ratios =>
    rw [ensureSplitRoot, normalizeSplitTree, rooted_split, rooted_split,
      ← skeleton_normalizeSplitTree (.split id side ratio children ratios),
      normalizeSplitTree, skeleton, skeleton]
  | other type => rfl

/-! ### Messages -/

structure TabInfo where
  tabId : TabId
  /-- The first leaf of the layout. -/
  paneId : PaneId
  layout : Option Layout
  activePaneId : Option PaneId

/-- What a client is told of the tabs. The tabs of a list are distinct. -/
inductive SyncMsg where
  | tabList (tabs : List TabInfo) (activePaneId : Option PaneId)
      (distinct : (tabs.map (·.tabId)).Nodup)
  | tabCreated (tabId : TabId) (paneId : PaneId) (layout : Option Layout)
  | tabClosed (paneId : TabId)
  | layoutUpdated (paneId : TabId) (layout : Layout) (activePaneId : PaneId)

inductive SyncClientMsg where
  | createTab (layout : Layout) (tabId : Option TabId) (paneId : Option PaneId)
  | closeTab (paneId : TabId)
  | closePane (paneId : PaneId)
  | updateLayout (paneId : TabId) (layout : Layout) (activePaneId : PaneId)

/-! ### The panes of a tab, the most recent first -/

def touchPaneMru (paneMru : List PaneId) (pane : PaneId) : List PaneId :=
  pane :: paneMru.filter (· ≠ pane)

def removePaneFromMru (paneMru : List PaneId) (pane : PaneId) : List PaneId :=
  paneMru.filter (· ≠ pane)

/-- Keep the panes of the layout, each once, and put the others of the layout behind them. -/
def reconcilePaneMru (paneMru layoutPaneIds : List PaneId) (activePaneId : PaneId) : List PaneId :=
  let kept := (paneMru.filter (· ∈ layoutPaneIds)).eraseDups
  let result := if kept.isEmpty ∧ activePaneId ∈ layoutPaneIds then [activePaneId] else kept
  (result ++ layoutPaneIds).eraseDups

def initializePaneMru (layoutPaneIds : List PaneId) (activePaneId : PaneId) : List PaneId :=
  reconcilePaneMru [activePaneId] layoutPaneIds activePaneId

/-! ### Clients -/

structure TerminalTab where
  paneId : TabId
  layout : Layout
  activePaneId : PaneId
  paneMru : List PaneId

/-- A client, with the tabs that it has been told of in the last seconds. -/
structure Client where
  tabs : List TerminalTab := []
  recentlyCreated : List TabId := []

/-- The leaf that stands in for a layout that is not sent. -/
def placeholderLeaf (pane : PaneId) : Layout :=
  .leaf { paneId := pane, title := some "Terminal", ratio := some 1, zoomed := some false }

/-- What a message tells about a tab. -/
def noteOf (tab : TabId) : SyncMsg → Option (Mirrors.Note (Option Layout))
  | .tabList tabs _ _ =>
      some (.listed ((tabs.find? fun info => info.tabId = tab).map fun info =>
        info.layout.map rooted))
  | .tabCreated tabId paneId layout =>
      if tabId = tab then some (.created (some (rooted (layout.getD (placeholderLeaf paneId)))))
      else none
  | .tabClosed paneId => if paneId = tab then some .closed else none
  | .layoutUpdated paneId layout _ =>
      if paneId = tab then some (.updated (some (rooted layout))) else none

namespace TerminalTab

/-- The tab that a client makes of a listed one. -/
def ofInfo (splitId : TabId → String) (info : TabInfo) : TerminalTab :=
  let layout := ensureSplitRoot (splitId info.tabId)
    (info.layout.getD (placeholderLeaf info.paneId))
  let activePaneId := info.activePaneId.getD info.paneId
  { paneId := info.tabId
    layout
    activePaneId
    paneMru := initializePaneMru (getAllLeaves layout) activePaneId }

def SameLeaves (tab : TerminalTab) (layout : Layout) : Prop :=
  (getAllLeaves layout).length = (getAllLeaves tab.layout).length ∧
    ∀ pane ∈ getAllLeaves layout, pane ∈ getAllLeaves tab.layout

instance (tab : TerminalTab) (layout : Layout) : Decidable (tab.SameLeaves layout) :=
  inferInstanceAs (Decidable (_ ∧ _))

/-- The leaves of the tab that an update leaves out. -/
def removedPaneIds (tab : TerminalTab) (layout : Layout) : List PaneId :=
  (getAllLeaves tab.layout).filter (· ∉ getAllLeaves layout)

/-- The tab after an update. The layout stays when the leaves are the same ones. -/
def update (splitId : TabId → String) (layout : Layout) (activePaneId : PaneId)
    (tab : TerminalTab) : TerminalTab :=
  let incomingLeafIds := getAllLeaves layout
  let paneMru := reconcilePaneMru
    ((tab.removedPaneIds layout).foldl removePaneFromMru tab.paneMru) incomingLeafIds
    tab.activePaneId
  { tab with
    layout :=
      if tab.SameLeaves layout then tab.layout else ensureSplitRoot (splitId tab.paneId) layout
    activePaneId :=
      if tab.activePaneId ∈ tab.removedPaneIds layout then paneMru.headD activePaneId
      else if activePaneId ∈ incomingLeafIds then activePaneId else tab.activePaneId
    paneMru :=
      if tab.activePaneId ∉ tab.removedPaneIds layout ∧ activePaneId ∈ incomingLeafIds then
        touchPaneMru paneMru activePaneId
      else paneMru }

end TerminalTab

namespace Client

/-- Make a pane the active one of the first tab that has it. -/
def activatePane (pane : PaneId) : List TerminalTab → List TerminalTab
  | [] => []
  | tab :: rest =>
      if pane ∈ getAllLeaves tab.layout then { tab with activePaneId := pane } :: rest
      else tab :: activatePane pane rest

def unknownTabs (client : Client) (listed : List TabInfo) : List TabInfo :=
  let localLeafIds := client.tabs.flatMap fun tab => getAllLeaves tab.layout
  let localTabIds := client.tabs.map (·.paneId)
  listed.filter fun info =>
    info.paneId ∉ localLeafIds ∧ info.paneId ∉ localTabIds ∧ info.tabId ∉ localTabIds

/-- Whether a tab stays when a list arrives: it is listed, or shares a leaf with a listed one, or
it is a recent one. -/
def Survives (client : Client) (listed : List TabInfo) (tab : TerminalTab) : Prop :=
  tab.paneId ∈ client.recentlyCreated ∨ tab.paneId ∈ listed.map (·.tabId) ∨
    ∃ pane ∈ getAllLeaves tab.layout,
      pane ∈ listed.flatMap fun info => info.layout.elim [] getAllLeaves

instance (client : Client) (listed : List TabInfo) (tab : TerminalTab) :
    Decidable (client.Survives listed tab) :=
  inferInstanceAs (Decidable (_ ∨ _ ∨ _))

def receiveTabList (splitId : TabId → String) (listed : List TabInfo)
    (activePaneId : Option PaneId) (client : Client) : Client :=
  let tabs := client.tabs ++ (client.unknownTabs listed).map (TerminalTab.ofInfo splitId)
  let kept := tabs.filter fun tab => client.Survives listed tab
  { client with
    tabs :=
      match activePaneId.filter (· ≠ "") with
      | some pane => activatePane pane kept
      | none => kept }

/-- A tab that is there, or that has the leaf, stays as it is. -/
def receiveTabCreated (splitId : TabId → String) (tabId : TabId) (paneId : PaneId)
    (layout : Option Layout) (client : Client) : Client :=
  if client.tabs.any fun tab => tab.paneId = tabId ∨ paneId ∈ getAllLeaves tab.layout then client
  else
    { tabs := client.tabs ++ [{
        paneId := tabId
        layout := ensureSplitRoot (splitId tabId) (layout.getD (placeholderLeaf paneId))
        activePaneId := paneId
        paneMru := [paneId] }]
      recentlyCreated := tabId :: client.recentlyCreated }

/-- Tabs are closed by their own identifier only. -/
def receiveTabClosed (paneId : TabId) (client : Client) : Client :=
  { client with tabs := client.tabs.eraseP fun tab => tab.paneId = paneId }

/-- The tab of an update: the one of its identifier, else the first one that shares a leaf. -/
def targetTab (client : Client) (paneId : TabId) (layout : Layout) : Option TerminalTab :=
  (client.tabs.find? fun tab => tab.paneId = paneId).or
    (client.tabs.find? fun tab =>
      (getAllLeaves layout).any fun pane => pane ∈ getAllLeaves tab.layout)

/-- Whether a tab stays beside one that has been updated: not all its leaves are in that one. -/
def StaysBeside (updated tab : TerminalTab) : Prop :=
  tab.paneId = updated.paneId ∨
    ¬∀ pane ∈ getAllLeaves tab.layout, pane ∈ getAllLeaves updated.layout

instance (updated tab : TerminalTab) : Decidable (StaysBeside updated tab) :=
  inferInstanceAs (Decidable (_ ∨ _))

/-- An update replaces the layout of a tab. A client that chooses another active pane than the
update does sends its choice back. -/
def receiveLayoutUpdated (splitId : TabId → String) (paneId : TabId) (layout : Layout)
    (activePaneId : PaneId) (client : Client) : Client × Option SyncClientMsg :=
  match client.targetTab paneId layout with
  | none => (client, none)
  | some target =>
      let updated := target.update splitId layout activePaneId
      let tabs := client.tabs.map fun tab => if tab.paneId = target.paneId then updated else tab
      ({ client with tabs := tabs.filter fun tab => StaysBeside updated tab },
        if target.activePaneId ∈ target.removedPaneIds layout ∧
            updated.activePaneId ≠ activePaneId then
          some (.updateLayout updated.paneId updated.layout updated.activePaneId)
        else none)

/-- What a client makes of a message, and what it sends in answer. -/
def receive (splitId : TabId → String) (client : Client) : SyncMsg → Client × Option SyncClientMsg
  | .tabList tabs activePaneId _ => (client.receiveTabList splitId tabs activePaneId, none)
  | .tabCreated tabId paneId layout =>
      (client.receiveTabCreated splitId tabId paneId layout, none)
  | .tabClosed paneId => (client.receiveTabClosed paneId, none)
  | .layoutUpdated paneId layout activePaneId =>
      client.receiveLayoutUpdated splitId paneId layout activePaneId

def editTab (tab : TabId) (change : TerminalTab → TerminalTab) (client : Client) : Client :=
  { client with
    tabs := client.tabs.map fun shown => if shown.paneId = tab then change shown else shown }

/-! ### One tab -/

def findTab (tabs : List TerminalTab) (tab : TabId) : Option TerminalTab :=
  tabs.find? fun shown => shown.paneId = tab

def viewOf (tabs : List TerminalTab) (tab : TabId) : Option (Option Layout) :=
  (findTab tabs tab).map fun shown => some (rooted shown.layout)

def view (client : Client) (tab : TabId) : Option (Option Layout) := viewOf client.tabs tab

theorem findTab_cons (first : TerminalTab) (rest : List TerminalTab) (tab : TabId) :
    findTab (first :: rest) tab = if first.paneId = tab then some first else findTab rest tab := by
  unfold findTab
  by_cases here : first.paneId = tab
  · rw [if_pos here, find?_cons_of_pos (by simp [here])]
  · rw [if_neg here, find?_cons_of_neg (by simp [here])]

variable {tabs : List TerminalTab} {tab : TabId}

theorem findTab_eq_none_iff : findTab tabs tab = none ↔ tab ∉ tabs.map (·.paneId) := by
  simp [findTab]

theorem paneId_of_findTab {shown : TerminalTab} (found : findTab tabs tab = some shown) :
    shown ∈ tabs ∧ shown.paneId = tab :=
  ⟨mem_of_find?_eq_some found, of_decide_eq_true
    (find?_some (p := fun shown : TerminalTab => shown.paneId = tab) found)⟩

theorem viewOf_eq_none_iff : viewOf tabs tab = none ↔ tab ∉ tabs.map (·.paneId) := by
  rw [viewOf, map_eq_none_iff, findTab_eq_none_iff]

theorem viewOf_append (first second : List TerminalTab) (tab : TabId) :
    viewOf (first ++ second) tab = (viewOf first tab).or (viewOf second tab) := by
  rw [viewOf, findTab, find?_append, map_or]
  rfl

theorem findTab_filter {keep : TerminalTab → Bool}
    (kept : ∀ shown ∈ tabs, shown.paneId = tab → keep shown = true) :
    findTab (tabs.filter keep) tab = findTab tabs tab := by
  induction tabs with
  | nil => rfl
  | cons first rest ih =>
    have later := ih fun shown mem => kept shown (mem_cons_of_mem _ mem)
    rw [findTab_cons]
    by_cases here : first.paneId = tab
    · rw [if_pos here, filter_cons_of_pos (kept first mem_cons_self here), findTab_cons,
        if_pos here]
    · rw [if_neg here]
      by_cases keeps : keep first = true
      · rw [filter_cons_of_pos keeps, findTab_cons, if_neg here, later]
      · rw [filter_cons_of_neg keeps, later]

theorem viewOf_activatePane (pane : PaneId) (tabs : List TerminalTab) (tab : TabId) :
    viewOf (activatePane pane tabs) tab = viewOf tabs tab := by
  induction tabs with
  | nil => rfl
  | cons first rest ih =>
    unfold viewOf at *
    rw [activatePane]
    split
    · rw [findTab_cons, findTab_cons]
      split <;> rfl
    · rw [findTab_cons, findTab_cons]
      split
      · rfl
      · exact ih

theorem viewOf_replace (updated : TerminalTab) (tabs : List TerminalTab) (tab : TabId) :
    viewOf (tabs.map fun shown => if shown.paneId = updated.paneId then updated else shown) tab =
      if updated.paneId = tab then (viewOf tabs tab).map fun _ => some (rooted updated.layout)
      else viewOf tabs tab := by
  induction tabs with
  | nil => simp [viewOf, findTab]
  | cons first rest ih =>
    unfold viewOf at ih ⊢
    rw [map_cons, findTab_cons, findTab_cons]
    by_cases here : first.paneId = updated.paneId
    · rw [if_pos here, here]
      by_cases asked : updated.paneId = tab
      · rw [if_pos asked, if_pos asked, if_pos asked, map_some, map_some, map_some]
      · rw [if_neg asked, if_neg asked, if_neg asked, ih, if_neg asked]
    · rw [if_neg here]
      by_cases asked : first.paneId = tab
      · rw [if_pos asked, if_neg fun same => here (asked.trans same.symm), if_pos asked]
      · rw [if_neg asked, ih, if_neg asked]

variable {change : TerminalTab → TerminalTab}

theorem view_editTab
    (keeps : ∀ shown, (change shown).paneId = shown.paneId) (client : Client) (tab other : TabId) :
    (client.editTab tab change).view other = (findTab client.tabs other).map fun shown =>
        some (rooted (if tab = other then change shown else shown).layout) := by
  obtain ⟨tabs, recent⟩ := client
  unfold view editTab viewOf
  simp only
  induction tabs with
  | nil => rfl
  | cons first rest ih =>
    have name : (if first.paneId = tab then change first else first).paneId = first.paneId := by
      split
      · exact keeps first
      · rfl
    rw [map_cons, findTab_cons, findTab_cons, name]
    by_cases here : first.paneId = other
    · rw [if_pos here, if_pos here, map_some, map_some, here]
      by_cases asked : tab = other
      · rw [if_pos asked, if_pos asked.symm]
      · rw [if_neg asked, if_neg (Ne.symm asked)]
    · rw [if_neg here, if_neg here, ih]

/-- An update with the leaves that are shown has their layout, and is not taken for one of another
tab. -/
def UpdatesPlainly (splitId : TabId → String) (client : Client) (layout : Layout)
    (activePaneId : PaneId) : Option TerminalTab → Prop
  | some target =>
      (target.SameLeaves layout → rooted layout = rooted target.layout) ∧
        ∀ tab ∈ client.tabs, StaysBeside (target.update splitId layout activePaneId) tab
  | none => ∀ tab ∈ client.tabs, ∀ pane ∈ getAllLeaves layout, pane ∉ getAllLeaves tab.layout

instance (splitId : TabId → String) (client : Client) (layout : Layout) (activePaneId : PaneId) :
    ∀ target, Decidable (client.UpdatesPlainly splitId layout activePaneId target)
  | some _ => inferInstanceAs (Decidable (_ ∧ _))
  | none => inferInstanceAs (Decidable (∀ tab ∈ _, _))

/-- A list finds no other layout of a tab that it lists, adds the tabs that are not there and lets
none of the others survive, a new tab is not taken for another one, and an update is one of its tab.
-/
def HearsPlainly (splitId : TabId → String) (client : Client) : SyncMsg → Prop
  | .tabList tabs _ _ =>
      (∀ tab ∈ client.tabs, client.Survives tabs tab → ∃ info ∈ tabs, info.tabId = tab.paneId ∧
          info.layout.map rooted = some (rooted tab.layout)) ∧
      ∀ info ∈ tabs, info.layout.isSome = true ∧ (info.tabId ∈ client.tabs.map (·.paneId) ∨
          info.paneId ∉ client.tabs.flatMap (fun tab => getAllLeaves tab.layout) ∧
            info.paneId ∉ client.tabs.map (·.paneId))
  | .tabCreated tabId paneId _ =>
      tabId ∈ client.tabs.map (·.paneId) ∨ ∀ tab ∈ client.tabs, paneId ∉ getAllLeaves tab.layout
  | .tabClosed _ => True
  | .layoutUpdated paneId layout activePaneId =>
      client.UpdatesPlainly splitId layout activePaneId (findTab client.tabs paneId)

instance (splitId : TabId → String) (client : Client) :
    ∀ message, Decidable (client.HearsPlainly splitId message)
  | .tabList .. => inferInstanceAs (Decidable (_ ∧ _))
  | .tabCreated .. => inferInstanceAs (Decidable (_ ∨ _))
  | .tabClosed _ => isTrue trivial
  | .layoutUpdated _ layout activePaneId =>
      inferInstanceAs (Decidable (client.UpdatesPlainly splitId layout activePaneId _))

def Distinct (client : Client) : Prop := (client.tabs.map (·.paneId)).Nodup

section Receive

variable {splitId : TabId → String} {client : Client}

theorem view_receiveTabClosed (distinct : client.Distinct) (closed tab : TabId) :
    (client.receiveTabClosed closed).view tab = if closed = tab then none else client.view tab := by
  obtain ⟨tabs, recent⟩ := client
  unfold view receiveTabClosed Distinct at *
  simp only at distinct ⊢
  induction tabs with
  | nil => simp [viewOf, findTab]
  | cons first rest ih =>
    rw [map_cons, nodup_cons] at distinct
    by_cases here : first.paneId = closed
    · rw [eraseP_cons_of_pos (by simp [here])]
      by_cases same : closed = tab
      · rw [if_pos same, viewOf_eq_none_iff, ← same, ← here]
        exact distinct.1
      · rw [if_neg same, viewOf, viewOf, findTab_cons,
          if_neg fun other => same (here.symm.trans other)]
    · rw [eraseP_cons_of_neg (by simp [here]), viewOf, findTab_cons]
      have later := ih distinct.2
      unfold viewOf at later ⊢
      by_cases found : first.paneId = tab
      · rw [if_pos found, if_neg fun same => here (found.trans same.symm), findTab_cons,
          if_pos found]
      · rw [if_neg found, later, findTab_cons, if_neg found]

theorem view_receiveTabCreated {tabId : TabId} {paneId : PaneId} {layout : Option Layout}
    (plain : tabId ∈ client.tabs.map (·.paneId) ∨
      ∀ tab ∈ client.tabs, paneId ∉ getAllLeaves tab.layout) (tab : TabId) :
    (client.receiveTabCreated splitId tabId paneId layout).view tab =
      if tabId = tab then
        (client.view tab).or (some (some (rooted (layout.getD (placeholderLeaf paneId)))))
      else client.view tab := by
  have found : (client.tabs.any fun tab =>
      tab.paneId = tabId ∨ paneId ∈ getAllLeaves tab.layout) = true ↔
        tabId ∈ client.tabs.map (·.paneId) := by
    rw [List.any_eq_true, List.mem_map]
    constructor
    · rintro ⟨shown, mem, either⟩
      rcases of_decide_eq_true either with same | held
      · exact ⟨shown, mem, same⟩
      · rcases plain with present | absent
        · exact mem_map.mp present
        · exact absurd held (absent shown mem)
    · rintro ⟨shown, mem, same⟩
      exact ⟨shown, mem, decide_eq_true (.inl same)⟩
  unfold receiveTabCreated
  by_cases present : tabId ∈ client.tabs.map (·.paneId)
  · rw [if_pos (found.mpr present)]
    split
    next same =>
      have shown : client.view tab ≠ none := fun none =>
        viewOf_eq_none_iff.mp none (same ▸ present)
      obtain ⟨value, shown⟩ := ne_none_iff_exists'.mp shown
      rw [shown]
      rfl
    · rfl
  · rw [if_neg fun both => present (found.mp both), view, viewOf_append]
    split
    next same =>
      subst same
      rw [viewOf_eq_none_iff.mpr present, none_or, view, viewOf_eq_none_iff.mpr present,
        none_or, viewOf, findTab_cons, if_pos rfl, map_some, rooted_ensureSplitRoot]
    next ne =>
      have none : viewOf [{
          paneId := tabId
          layout := ensureSplitRoot (splitId tabId) (layout.getD (placeholderLeaf paneId))
          activePaneId := paneId
          paneMru := [paneId] }] tab = none := by
        rw [viewOf_eq_none_iff]
        simpa using Ne.symm ne
      rw [none, or_none, view]

theorem view_receiveTabList {listed : List TabInfo} {activePaneId : Option PaneId}
    (survivors : ∀ tab ∈ client.tabs, client.Survives listed tab →
      ∃ info ∈ listed, info.tabId = tab.paneId ∧ info.layout.map rooted = some (rooted tab.layout))
    (complete : ∀ info ∈ listed, info.layout.isSome = true ∧
      (info.tabId ∈ client.tabs.map (·.paneId) ∨
        info.paneId ∉ client.tabs.flatMap (fun tab => getAllLeaves tab.layout) ∧
          info.paneId ∉ client.tabs.map (·.paneId)))
    (distinct : (listed.map (·.tabId)).Nodup) (tab : TabId) :
    (client.receiveTabList splitId listed activePaneId).view tab =
      (listed.find? fun info => info.tabId = tab).map fun info => info.layout.map rooted := by
  have focus : (client.receiveTabList splitId listed activePaneId).view tab =
      viewOf ((client.tabs ++ (client.unknownTabs listed).map (TerminalTab.ofInfo splitId)).filter
        fun tab => client.Survives listed tab) tab := by
    unfold view receiveTabList
    simp only
    split
    · exact viewOf_activatePane _ _ _
    · rfl
  rw [focus]
  cases found : listed.find? fun info => info.tabId = tab with
  | none =>
    rw [map_none, viewOf_eq_none_iff]
    have unlisted : ∀ info ∈ listed, info.tabId ≠ tab := by
      simpa using found
    rintro mem
    obtain ⟨shown, stays, rfl⟩ := mem_map.mp mem
    obtain ⟨inAll, survives⟩ := mem_filter.mp stays
    rcases mem_append.mp inAll with old | new
    · obtain ⟨info, mem, same, -⟩ := survivors shown old (of_decide_eq_true survives)
      exact unlisted info mem same
    · obtain ⟨info, added, rfl⟩ := mem_map.mp new
      exact unlisted info (mem_filter.mp added).1 rfl
  | some info =>
    have mem := mem_of_find?_eq_some found
    have named : info.tabId = tab := of_decide_eq_true
      (find?_some (p := fun info : TabInfo => info.tabId = tab) found)
    have onlyOne : ∀ other ∈ listed, other.tabId = tab → other = info := fun other inList same =>
      inj_on_of_nodup_map distinct inList mem (same.trans named.symm)
    obtain ⟨hasLayout, known⟩ := complete info mem
    obtain ⟨layout, atLayout⟩ := isSome_iff_exists.mp hasLayout
    have kept : ∀ shown ∈ client.tabs ++
        (client.unknownTabs listed).map (TerminalTab.ofInfo splitId),
        shown.paneId = tab → decide (client.Survives listed shown) = true := by
      intro shown _ same
      refine decide_eq_true (.inr (.inl ?_))
      rw [same, ← named]
      exact mem_map_of_mem mem
    rw [viewOf, findTab_filter kept, ← viewOf, viewOf_append, map_some, atLayout, map_some]
    by_cases here : tab ∈ client.tabs.map (·.paneId)
    · obtain ⟨shown, held⟩ := ne_none_iff_exists'.mp
        (mt findTab_eq_none_iff.mp (not_not.mpr here))
      obtain ⟨inTabs, shownNamed⟩ := paneId_of_findTab held
      have survives := of_decide_eq_true (kept shown (mem_append_left _ inTabs) shownNamed)
      obtain ⟨other, inList, same, equal⟩ := survivors shown inTabs survives
      rw [onlyOne other inList (same.trans shownNamed), atLayout] at equal
      rw [viewOf, held, map_some, some_or]
      exact congrArg some equal.symm
    · rw [viewOf_eq_none_iff.mpr here, none_or, viewOf, findTab, find?_map]
      have unknown : info ∈ client.unknownTabs listed := by
        refine mem_filter.mpr ⟨mem, decide_eq_true ?_⟩
        rcases known with held | ⟨noLeaf, noTab⟩
        · exact absurd (named ▸ held) here
        · exact ⟨noLeaf, noTab, named ▸ here⟩
      have first : (client.unknownTabs listed).find?
          ((fun shown : TerminalTab => decide (shown.paneId = tab)) ∘ TerminalTab.ofInfo splitId) =
          some info := by
        cases foundOther : (client.unknownTabs listed).find?
            ((fun shown : TerminalTab => decide (shown.paneId = tab)) ∘
              TerminalTab.ofInfo splitId) with
        | none =>
          exact absurd (decide_eq_true named) (find?_eq_none.mp foundOther info unknown)
        | some other =>
          have otherNamed : other.tabId = tab := of_decide_eq_true
            (find?_some (p := fun info : TabInfo => info.tabId = tab) foundOther)
          have inList := (mem_filter.mp (mem_of_find?_eq_some foundOther)).1
          rw [onlyOne other inList otherNamed]
      rw [first, map_some, map_some, TerminalTab.ofInfo, atLayout]
      exact congrArg (some ∘ some) (rooted_ensureSplitRoot _ layout)

variable {layout : Layout} {activePaneId : PaneId}

theorem rooted_update {target : TerminalTab}
    (same : target.SameLeaves layout → rooted layout = rooted target.layout) :
    rooted (target.update splitId layout activePaneId).layout = rooted layout := by
  unfold TerminalTab.update
  simp only
  split
  next sameLeaves =>
    exact (same sameLeaves).symm
  · exact rooted_ensureSplitRoot _ layout

theorem targetTab_eq {paneId : TabId}
    (plain : client.UpdatesPlainly splitId layout activePaneId (findTab client.tabs paneId)) :
    client.targetTab paneId layout = findTab client.tabs paneId := by
  unfold targetTab
  cases found : findTab client.tabs paneId with
  | none =>
    rw [found] at plain
    have apart : client.tabs.find? (fun tab =>
        (getAllLeaves layout).any fun pane => pane ∈ getAllLeaves tab.layout) = none := by
      rw [find?_eq_none]
      intro shown mem held
      obtain ⟨pane, inLayout, inShown⟩ := any_eq_true.mp held
      exact plain shown mem pane inLayout (of_decide_eq_true inShown)
    rw [show (client.tabs.find? fun tab => tab.paneId = paneId) = none from found, apart]
    rfl
  | some target =>
    rw [show (client.tabs.find? fun tab => tab.paneId = paneId) = some target from found]
    rfl

theorem view_receiveLayoutUpdated {paneId : TabId}
    (plain : client.UpdatesPlainly splitId layout activePaneId (findTab client.tabs paneId))
    (tab : TabId) :
    (client.receiveLayoutUpdated splitId paneId layout activePaneId).1.view tab =
      if paneId = tab then (client.view tab).map fun _ => some (rooted layout)
      else client.view tab := by
  unfold receiveLayoutUpdated
  rw [targetTab_eq plain]
  cases found : findTab client.tabs paneId with
  | none =>
    by_cases same : paneId = tab
    · have unseen : client.view tab = none := by
        rw [view, viewOf, ← same, found]
        rfl
      rw [if_pos same, unseen]
      rfl
    · rw [if_neg same]
  | some target =>
    rw [found] at plain
    obtain ⟨same, beside⟩ := plain
    have named := (paneId_of_findTab found).2
    have kept : ∀ shown ∈ client.tabs.map (fun tab =>
        if tab.paneId = target.paneId then target.update splitId layout activePaneId else tab),
        decide (StaysBeside (target.update splitId layout activePaneId) shown) = true := by
      intro shown mem
      obtain ⟨before, inTabs, rfl⟩ := mem_map.mp mem
      refine decide_eq_true ?_
      split
      · exact .inl rfl
      · exact beside before inTabs
    simp only
    rw [view, filter_eq_self.mpr kept]
    have replaced := viewOf_replace (target.update splitId layout activePaneId) client.tabs tab
    rw [show (target.update splitId layout activePaneId).paneId = paneId from named,
      rooted_update same] at replaced
    rw [named]
    exact replaced

theorem view_receive (distinct : client.Distinct) {msg : SyncMsg}
    (plain : client.HearsPlainly splitId msg) (tab : TabId) :
    (client.receive splitId msg).1.view tab =
      (noteOf tab msg).elim (client.view tab) fun note => note.hear (client.view tab) := by
  cases msg with
  | tabList tabs activePaneId listedOnce =>
    exact view_receiveTabList plain.1 plain.2 listedOnce tab
  | tabCreated tabId paneId layout =>
    rw [receive, view_receiveTabCreated plain, noteOf]
    split <;> rfl
  | tabClosed paneId =>
    rw [receive, view_receiveTabClosed distinct, noteOf]
    split <;> rfl
  | layoutUpdated paneId layout activePaneId =>
    rw [receive, view_receiveLayoutUpdated plain, noteOf]
    split <;> rfl

theorem paneIds_activatePane (pane : PaneId) (tabs : List TerminalTab) :
    (activatePane pane tabs).map (·.paneId) = tabs.map (·.paneId) := by
  induction tabs with
  | nil => rfl
  | cons first rest ih =>
    rw [activatePane]
    split
    · rfl
    · rw [map_cons, map_cons, ih]

section

variable (distinct : client.Distinct)
include distinct

theorem Distinct.receiveTabList {listed : List TabInfo} (listedOnce : (listed.map (·.tabId)).Nodup)
    (activePaneId : Option PaneId) :
    (client.receiveTabList splitId listed activePaneId).Distinct := by
  have names : ((client.unknownTabs listed).map (TerminalTab.ofInfo splitId)).map (·.paneId) =
      (client.unknownTabs listed).map (·.tabId) := by
    rw [List.map_map]
    rfl
  have all : ((client.tabs ++ (client.unknownTabs listed).map
      (TerminalTab.ofInfo splitId)).map (·.paneId)).Nodup := by
    rw [map_append, names]
    refine Nodup.append distinct
      (listedOnce.sublist (filter_sublist.map _)) fun tab inTabs inListed => ?_
    obtain ⟨info, unknown, rfl⟩ := mem_map.mp inListed
    exact (of_decide_eq_true (mem_filter.mp unknown).2).2.2 inTabs
  have kept := all.sublist
    ((filter_sublist (p := fun tab => decide (client.Survives listed tab))).map (·.paneId))
  unfold Client.receiveTabList Distinct
  simp only
  split
  · rw [paneIds_activatePane]
    exact kept
  · exact kept

theorem Distinct.receiveTabCreated (tabId : TabId) (paneId : PaneId) (layout : Option Layout) :
    (client.receiveTabCreated splitId tabId paneId layout).Distinct := by
  unfold Client.receiveTabCreated
  split
  · exact distinct
  next absent =>
    unfold Distinct
    rw [map_append]
    refine Nodup.append distinct (nodup_singleton _) fun tab inTabs new => ?_
    obtain ⟨shown, mem, named⟩ := mem_map.mp inTabs
    refine absent (any_eq_true.mpr ⟨shown, mem, decide_eq_true (.inl ?_)⟩)
    exact named.trans (mem_singleton.mp new)

theorem Distinct.receiveLayoutUpdated (paneId : TabId) (layout : Layout) (activePaneId : PaneId) :
    (client.receiveLayoutUpdated splitId paneId layout activePaneId).1.Distinct := by
  unfold Client.receiveLayoutUpdated
  split
  · exact distinct
  next target _ =>
    have names : (client.tabs.map fun tab =>
        if tab.paneId = target.paneId then target.update splitId layout activePaneId else
          tab).map (·.paneId) = client.tabs.map (·.paneId) := by
      rw [List.map_map]
      refine map_congr_left fun tab _ => ?_
      rw [Function.comp_apply]
      split
      next same =>
        exact same.symm
      · rfl
    unfold Distinct at distinct ⊢
    rw [← names] at distinct
    exact distinct.sublist (filter_sublist.map _)

theorem Distinct.editTab (keeps : ∀ shown, (change shown).paneId = shown.paneId) (tab : TabId) :
    (client.editTab tab change).Distinct := by
  have names : (client.editTab tab change).tabs.map (·.paneId) = client.tabs.map (·.paneId) := by
    rw [Client.editTab, List.map_map]
    refine map_congr_left fun shown _ => ?_
    rw [Function.comp_apply]
    split
    · exact keeps shown
    · rfl
  unfold Distinct at distinct ⊢
  rw [names]
  exact distinct

theorem Distinct.receive (msg : SyncMsg) : (client.receive splitId msg).1.Distinct := by
  cases msg with
  | tabList tabs activePaneId listedOnce => exact distinct.receiveTabList listedOnce activePaneId
  | tabCreated tabId paneId layout => exact distinct.receiveTabCreated tabId paneId layout
  | tabClosed paneId => exact distinct.sublist (eraseP_sublist.map _)
  | layoutUpdated paneId layout activePaneId =>
    exact distinct.receiveLayoutUpdated paneId layout activePaneId

end

/-- A client answers an update only, with the layout that it then shows. -/
theorem answer_receive {msg : SyncMsg} (plain : client.HearsPlainly splitId msg)
    {answer : SyncClientMsg} (answered : (client.receive splitId msg).2 = some answer) :
    ∃ paneId layout activePaneId, answer = .updateLayout paneId layout activePaneId ∧
      (client.receive splitId msg).1.view paneId = some (some (rooted layout)) := by
  cases msg with
  | tabList | tabCreated | tabClosed => cases answered
  | layoutUpdated paneId layout activePaneId =>
    have shown := view_receiveLayoutUpdated plain paneId
    rw [if_pos rfl] at shown
    rw [receive] at answered ⊢
    unfold receiveLayoutUpdated at answered
    rw [targetTab_eq plain] at answered
    cases found : findTab client.tabs paneId with
    | none =>
      rw [found] at answered
      cases answered
    | some target =>
      rw [found] at answered
      change client.UpdatesPlainly splitId layout activePaneId _ at plain
      rw [found] at plain
      simp only at answered
      split at answered
      · cases answered
        have named := (paneId_of_findTab found).2
        refine ⟨_, _, _, rfl, ?_⟩
        rw [rooted_update plain.1]
        rw [show (target.update splitId layout activePaneId).paneId = paneId from named, shown,
          view, viewOf, found]
        rfl
      · cases answered

end Receive

end Client

end Dinotty.Sync
