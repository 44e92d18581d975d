/-
This file is the window of a client of the sync socket. It is shown in which runs every tab has its
active pane and its recent panes right, and the selected tab is one of the tabs, once no handler
waits.
-/

import Dinotty.Foundation.Runs
import Dinotty.Sync.Client

namespace Dinotty.Sync

open Session List Option Layout Function

/-! ### What a client is sent -/

/-- A layout that has leaves, each of them once. -/
structure FormedLayout where
  layout : Layout
  once : (getAllLeaves layout).Nodup
  inhabited : getAllLeaves layout ≠ []

structure ListedTab where
  tabId : TabId
  paneId : PaneId
  layout : Option FormedLayout
  activePaneId : Option PaneId

/-- What the browser keeps of a tab, in the form of today. -/
structure SavedTab where
  layout : FormedLayout
  activePaneId : Option PaneId

structure SavedPluginTab where
  paneId : TabId
  pluginId : String
  title : Option String

/-- What the browser keeps of tabs, and the tabs that were created in the last seconds. -/
structure Surroundings where
  getSavedTab : PaneId → Option SavedTab := fun _ => none
  savedPluginTabs : List SavedPluginTab := []
  recentlyCreated : TabId → Bool := fun _ => false

/-- A tab of the window is known by the place of its object. -/
abbrev Key := Nat

/-- The workspaces of the tabs, and the active one. -/
structure Workspaces where
  workspaceIdOfTab : Key → Option String := fun _ => none
  activeWorkspaceId : Option String := none

/-- The tab at the place of a removed one: in its workspace if that has any, else of all. -/
def pickSuccessorTab {Tab : Type} (remainingTabs : List Tab) (closedWorkspaceId : Option String)
    (workspaceIdxBefore removedIdx : Nat) (workspaceIdOf : Tab → Option String) : Option Tab :=
  let workspaceTabs := remainingTabs.filter fun tab => workspaceIdOf tab = closedWorkspaceId
  if workspaceTabs ≠ [] then workspaceTabs[min workspaceIdxBefore (workspaceTabs.length - 1)]?
  else remainingTabs[min removedIdx (remainingTabs.length - 1)]?

theorem mem_of_pickSuccessorTab {Tab : Type} {remainingTabs : List Tab}
    {closedWorkspaceId : Option String} {workspaceIdxBefore removedIdx : Nat}
    {workspaceIdOf : Tab → Option String} {successor : Tab}
    (picked : pickSuccessorTab remainingTabs closedWorkspaceId workspaceIdxBefore removedIdx
      workspaceIdOf = some successor) : successor ∈ remainingTabs := by
  unfold pickSuccessorTab at picked
  dsimp only at picked
  split_ifs at picked
  · exact (mem_filter.mp (mem_of_getElem? picked)).1
  · exact mem_of_getElem? picked

/-! ### The window -/

inductive Tab where
  | terminal (tab : TerminalTab)
  | plugin (paneId : TabId)

namespace Tab

def paneId : Tab → TabId
  | terminal tab => tab.paneId
  | plugin paneId => paneId

def isPlugin : Tab → Bool
  | terminal _ => false
  | plugin _ => true

/-- The panes of the leaves. A plugin tab has none. -/
def leaves : Tab → List PaneId
  | terminal tab => getAllLeaves tab.layout
  | plugin _ => []

def modify (change : TerminalTab → TerminalTab) : Tab → Tab
  | terminal tab => terminal (change tab)
  | plugin paneId => plugin paneId

end Tab

/-- A handler that waits: for the end of its own changes, or for a workspace to be activated. -/
inductive Handler where
  | tabList (isEmpty : Bool)
  | layoutUpdated (target : Key)
  /-- The workspace is that of the successor, or of another tab that was chosen `again`. -/
  | tabClosed (navGen tabIdx : Nat) (successor : Option Key) (again : Bool)

/-- The objects of the tabs, the tabs in their order, the selected one and how often a new tab was
called for. -/
structure Window where
  objects : Key → Tab := fun _ => .plugin ""
  created : Nat := 0
  tabs : List Key := []
  activePaneId : Option TabId := none
  revealNavGen : Nat := 0
  newTabs : Nat := 0
  handlers : List Handler := []

namespace Window

variable (window : Window)

def push (tab : Tab) : Window :=
  { window with
    objects := Function.update window.objects window.created tab
    created := window.created + 1
    tabs := window.tabs ++ [window.created] }

def modify (window : Window) (key : Key) (change : TerminalTab → TerminalTab) : Window :=
  { window with
    objects := Function.update window.objects key ((window.objects key).modify change) }

def findLeaf (pane : PaneId) : Option Key :=
  window.tabs.find? fun key => pane ∈ (window.objects key).leaves

def IsTerminal (paneId : TabId) (key : Key) : Prop :=
  (window.objects key).isPlugin = false ∧ (window.objects key).paneId = paneId

instance (window : Window) (paneId : TabId) (key : Key) :
    Decidable (window.IsTerminal paneId key) :=
  inferInstanceAs (Decidable (_ ∧ _))

/-- Whether the selected tab is a plugin tab. -/
def onPlugin : Bool :=
  (window.tabs.find? fun key => some (window.objects key).paneId = window.activePaneId).any
    fun key => (window.objects key).isPlugin

/-! ### A list of the tabs -/

section

variable (splitId : TabId → String)

/-- The layout of a listed tab: the one that is sent, or kept here, or a leaf. -/
def listedLayout (surroundings : Surroundings) (info : ListedTab) : Layout :=
  ensureSplitRoot (splitId info.tabId)
    (match info.layout, surroundings.getSavedTab info.paneId with
      | some sent, _ => sent.layout
      | none, some migrated => migrated.layout.layout
      | none, none => placeholderLeaf info.paneId)

def listedActivePaneId (surroundings : Surroundings) (info : ListedTab) : PaneId :=
  match info.activePaneId, (surroundings.getSavedTab info.paneId).bind (·.activePaneId) with
  | some sent, _ => sent
  | none, some migrated => migrated
  | none, none => info.paneId

def listedTab (surroundings : Surroundings) (info : ListedTab) : TerminalTab where
  paneId := info.tabId
  layout := listedLayout splitId surroundings info
  activePaneId := listedActivePaneId surroundings info
  paneMru := initializePaneMru (getAllLeaves (listedLayout splitId surroundings info))
    (listedActivePaneId surroundings info)

/-- A plugin tab of old, as a terminal tab with the plugin in its leaf. -/
def migratePluginTab (saved : SavedPluginTab) : TerminalTab where
  paneId := saved.paneId
  layout := ensureSplitRoot (splitId saved.paneId)
    (.leaf {
      paneId := saved.paneId
      kind := some "plugin"
      title := some (saved.title.getD "Plugin")
      ratio := some 1
      zoomed := some false
      rest := [("pluginId", saved.pluginId)] })
  activePaneId := saved.paneId
  paneMru := [saved.paneId]

end

def unknown (listed : List ListedTab) : List ListedTab :=
  let localLeafIds := window.tabs.flatMap fun key => (window.objects key).leaves
  let isLocal := fun paneId => window.tabs.any fun key => window.IsTerminal paneId key
  listed.filter fun info =>
    info.paneId ∉ localLeafIds ∧ isLocal info.paneId = false ∧ isLocal info.tabId = false

def addPluginTab (splitId : TabId → String) (window : Window) (saved : SavedPluginTab) : Window :=
  if window.tabs.any fun key => (window.objects key).paneId = saved.paneId then window
  else window.push (.terminal (migratePluginTab splitId saved))

def survives (listed : List ListedTab) (surroundings : Surroundings) (tab : Tab) : Bool :=
  tab.isPlugin || surroundings.recentlyCreated tab.paneId ||
    (listed.map (·.tabId)).contains tab.paneId ||
    tab.leaves.any fun pane => listed.any fun info =>
      (info.layout.map fun sent => getAllLeaves sent.layout).any (pane ∈ ·)

def afterList (splitId : TabId → String) (window : Window) (listed : List ListedTab)
    (surroundings : Surroundings) : Window :=
  let listedToo := (window.unknown listed).foldl
    (fun window info => window.push (.terminal (listedTab splitId surroundings info))) window
  let all := surroundings.savedPluginTabs.foldl (addPluginTab splitId) listedToo
  { all with tabs := all.tabs.filter fun key => survives listed surroundings (all.objects key) }

/-- The pane that is active on the server becomes active here, with its tab, unless a plugin tab is
selected. -/
def activateListed (activePaneId : Option PaneId) : Option Window :=
  (activePaneId.filter fun pane => pane ≠ "" ∧ window.onPlugin = false).bind fun pane =>
    (window.findLeaf pane).map fun target =>
      { window.modify target fun tab => { tab with activePaneId := pane } with
        activePaneId := some (window.objects target).paneId }

def endTabList (isEmpty : Bool) : Window :=
  match window.tabs with
  | [] => { window with newTabs := if isEmpty then window.newTabs + 1 else window.newTabs }
  | first :: _ =>
      if window.tabs.any fun key => some (window.objects key).paneId = window.activePaneId then
        window
      else { window with activePaneId := some (window.objects first).paneId }

def tabList (splitId : TabId → String) (window : Window) (listed : List ListedTab)
    (activePaneId : Option PaneId) (surroundings : Surroundings) : Window :=
  let after := window.afterList splitId listed surroundings
  match after.activateListed activePaneId with
  | some activated =>
      { activated with handlers := activated.handlers ++ [.tabList listed.isEmpty] }
  | none => after.endTabList listed.isEmpty

/-! ### A tab that is created, activated or closed -/

/-- Whether a terminal tab is the created one, or has its leaf. -/
def isKnown (tabId : TabId) (paneId : PaneId) : Bool :=
  window.tabs.any fun key =>
    window.IsTerminal tabId key ∨ paneId ∈ (window.objects key).leaves

def createdLayout (paneId : PaneId) (layout : Option FormedLayout) : Layout :=
  (layout.map (·.layout)).getD (placeholderLeaf paneId)

def tabCreated (splitId : TabId → String) (window : Window) (tabId : TabId) (paneId : PaneId)
    (layout : Option FormedLayout) : Window :=
  if window.isKnown tabId paneId then window
  else
    { window.push (.terminal {
        paneId := tabId
        layout := ensureSplitRoot (splitId tabId) (createdLayout paneId layout)
        activePaneId := paneId
        paneMru := [paneId] }) with
      activePaneId := some tabId }

def tabActivated (paneId : PaneId) : Window :=
  if window.onPlugin then window
  else
    match window.findLeaf paneId with
    | none => window
    | some target =>
        { window.modify target fun tab =>
            { tab with paneMru := touchPaneMru tab.paneMru paneId, activePaneId := paneId } with
          activePaneId := some (window.objects target).paneId }

/-- Select a successor, unless there was another navigation. -/
def select (navGen : Nat) (successor : Option Key) : Window :=
  if navGen = window.revealNavGen then
    { window with activePaneId := successor.map fun key => (window.objects key).paneId }
  else window

def isElsewhere (workspaces : Workspaces) (successor : Option Key) : Bool :=
  successor.any fun key => workspaces.workspaceIdOfTab key ≠ workspaces.activeWorkspaceId

def leaveTab (tabIdx : Nat) (successor : Option Key) (workspaces : Workspaces) : Window :=
  let leaving : Window := { window with revealNavGen := window.revealNavGen + 1 }
  if isElsewhere workspaces successor then
    { leaving with
      handlers := leaving.handlers ++ [.tabClosed leaving.revealNavGen tabIdx successor false] }
  else leaving.select leaving.revealNavGen successor

def tabClosed (paneId : TabId) (workspaces : Workspaces) : Window :=
  match window.tabs.findIdx? fun key => window.IsTerminal paneId key with
  | none => window
  | some tabIdx =>
      let closedWorkspaceId := (window.tabs[tabIdx]?).bind workspaces.workspaceIdOfTab
      let workspaceIdxBefore := ((window.tabs.take tabIdx).filter fun key =>
        workspaces.workspaceIdOfTab key = closedWorkspaceId).length
      let closed : Window := { window with tabs := window.tabs.eraseIdx tabIdx }
      if closed.tabs = [] then { closed with newTabs := closed.newTabs + 1 }
      else if window.activePaneId = some paneId then
        closed.leaveTab tabIdx (pickSuccessorTab closed.tabs closedWorkspaceId workspaceIdxBefore
          tabIdx workspaces.workspaceIdOfTab) workspaces
      else closed

/-- The tab that is selected when the workspace of the successor was not activated. -/
def fallback (tabIdx : Nat) (workspaces : Workspaces) : Option Key :=
  (window.tabs.find? fun key =>
    workspaces.workspaceIdOfTab key = workspaces.activeWorkspaceId).or
      window.tabs[min tabIdx (window.tabs.length - 1)]?

/-- The first activation has ended. -/
def resumeClose (navGen tabIdx : Nat) (successor : Option Key)
    (workspaceCommitted : Bool) (workspaces : Workspaces) : Window :=
  if workspaceCommitted ∧ navGen = window.revealNavGen then window.select navGen successor
  else if isElsewhere workspaces (window.fallback tabIdx workspaces) then
    { window with
      handlers := window.handlers ++
        [.tabClosed navGen tabIdx (window.fallback tabIdx workspaces) true] }
  else window.select navGen (window.fallback tabIdx workspaces)

/-! ### An update of a layout -/

def updateTarget (paneId : TabId) (layout : Layout) : Option Key :=
  (window.tabs.find? fun key => window.IsTerminal paneId key).or
    (window.tabs.find? fun key =>
      (getAllLeaves layout).any fun pane => pane ∈ (window.objects key).leaves)

def layoutUpdated (splitId : TabId → String) (window : Window) (paneId : TabId)
    (layout : Layout) (activePaneId : PaneId) : Window :=
  match window.updateTarget paneId layout with
  | none => window
  | some target =>
      let updated := window.modify target (TerminalTab.update splitId layout activePaneId)
      { updated with handlers := updated.handlers ++ [.layoutUpdated target] }

/-- Whether a tab stays beside the target of an update. -/
def staysBeside (target tab : Tab) : Bool :=
  tab.isPlugin || tab.paneId = target.paneId || !tab.leaves.all fun pane => pane ∈ target.leaves

/-- Tabs whose leaves are all in the updated one are taken away. -/
def endLayoutUpdated (target : Key) : Window :=
  { window with
    tabs := window.tabs.filter fun key =>
      staysBeside (window.objects target) (window.objects key) }

/-! ### Runs -/

end Window

inductive News where
  | tabList (tabs : List ListedTab) (activePaneId : Option PaneId) (surroundings : Surroundings)
  | tabCreated (tabId : TabId) (paneId : PaneId) (layout : Option FormedLayout)
  | tabClosed (paneId : TabId) (workspaces : Workspaces)
  | tabActivated (paneId : PaneId)
  | layoutUpdated (paneId : TabId) (layout : FormedLayout) (activePaneId : PaneId)
  /-- A handler goes on. -/
  | resume (index : Nat) (workspaceCommitted : Bool) (workspaces : Workspaces)

namespace Window

def resume (window : Window) (workspaceCommitted : Bool) (workspaces : Workspaces) :
    Handler → Window
  | .tabList isEmpty => window.endTabList isEmpty
  | .layoutUpdated target => window.endLayoutUpdated target
  | .tabClosed navGen tabIdx successor again =>
      if again then window.select navGen successor
      else window.resumeClose navGen tabIdx successor workspaceCommitted workspaces

def after (splitId : TabId → String) (window : Window) : News → Window
  | .tabList tabs activePaneId surroundings =>
      window.tabList splitId tabs activePaneId surroundings
  | .tabCreated tabId paneId layout => window.tabCreated splitId tabId paneId layout
  | .tabClosed paneId workspaces => window.tabClosed paneId workspaces
  | .tabActivated paneId => window.tabActivated paneId
  | .layoutUpdated paneId layout activePaneId =>
      window.layoutUpdated splitId paneId layout.layout activePaneId
  | .resume index workspaceCommitted workspaces =>
      match window.handlers[index]? with
      | none => window
      | some handler =>
          ({ window with handlers := window.handlers.eraseIdx index } : Window).resume
            workspaceCommitted workspaces handler

end Window

/-- The active pane is a leaf, and the recent panes are the leaves, each once. -/
structure TerminalTab.Sound (tab : TerminalTab) : Prop where
  active : tab.activePaneId ∈ getAllLeaves tab.layout
  once : tab.paneMru.Nodup
  recent : ∀ pane, pane ∈ tab.paneMru ↔ pane ∈ getAllLeaves tab.layout

namespace Window

/-- The selected tab is one of the tabs, if any is selected. -/
def Shows (window : Window) : Prop :=
  ∀ paneId ∈ window.activePaneId, ∃ key ∈ window.tabs, (window.objects key).paneId = paneId

structure Consistent (window : Window) : Prop where
  sound : ∀ key ∈ window.tabs, ∀ tab, window.objects key = .terminal tab → tab.Sound
  shows : window.Shows

/-- A list tells for each new tab an active pane that it has, and leaves a tab; a created tab has
one pane; a closed one is not the last; an update does not take the selected tab, and leaves a tab;
and the successor of a closed tab is there when it is selected. -/
def Clear (splitId : TabId → String) (window : Window) : News → Prop
  | .tabList tabs _ surroundings =>
      (∀ info ∈ window.unknown tabs, listedActivePaneId surroundings info ∈
        getAllLeaves (listedLayout splitId surroundings info)) ∧
      ((window.afterList splitId tabs surroundings).tabs ≠ [] ∨ window.activePaneId = none)
  | .tabCreated tabId paneId layout =>
      window.isKnown tabId paneId = false → getAllLeaves (createdLayout paneId layout) = [paneId]
  | .tabClosed paneId _ =>
      (∃ key ∈ window.tabs, window.IsTerminal paneId key) →
        2 ≤ window.tabs.length ∨ window.activePaneId = none
  | .resume index workspaceCommitted _ =>
      match window.handlers[index]? with
      | some (.layoutUpdated target) =>
          (∃ key ∈ window.tabs, staysBeside (window.objects target) (window.objects key)) ∧
            ∀ key ∈ window.tabs, some (window.objects key).paneId = window.activePaneId →
              staysBeside (window.objects target) (window.objects key)
      | some (.tabClosed navGen _ successor again) =>
          navGen = window.revealNavGen → again = true ∨ workspaceCommitted = true →
            ∀ key ∈ successor, key ∈ window.tabs
      | _ => True
  | .tabActivated _ | .layoutUpdated _ _ _ => True

end Window

/-! ### Layouts and recent panes -/

theorem collectLeafPaneIds_normalizeSplitTree (layout : Layout) :
    (normalizeSplitTree layout).collectLeafPaneIds = layout.collectLeafPaneIds := by
  induction layout using induction with
  | leaf fields => rw [normalizeSplitTree]
  | split id side ratio children ratios ih =>
    rw [normalizeSplitTree, collectLeafPaneIds_split, collectLeafPaneIds_split]
    clear id side ratio ratios
    induction children with
    | nil => rw [normalizeSplitTreeOfAll]
    | cons child rest later =>
      rw [normalizeSplitTreeOfAll, collectLeafPaneIdsOfAll_cons,
        collectLeafPaneIdsOfAll_cons, ih child mem_cons_self,
        later fun other mem => ih other (mem_cons_of_mem _ mem)]
  | other type => rw [normalizeSplitTree]

@[simp] theorem getAllLeaves_ensureSplitRoot (splitId : String) (layout : Layout) :
    getAllLeaves (ensureSplitRoot splitId layout) = getAllLeaves layout := by
  unfold getAllLeaves
  cases layout with
  | leaf fields =>
    rw [ensureSplitRoot, collectLeafPaneIds_split, collectLeafPaneIdsOfAll_cons,
      collectLeafPaneIdsOfAll_nil, append_nil]
    · intro _ _ _ _ _ same
      cases same
  | split id side ratio children ratios =>
    rw [ensureSplitRoot, collectLeafPaneIds_normalizeSplitTree, collectLeafPaneIds_split,
      collectLeafPaneIds_split]
  | other type =>
    rw [ensureSplitRoot, collectLeafPaneIds_split, collectLeafPaneIdsOfAll_cons,
      collectLeafPaneIdsOfAll_nil, append_nil]
    · intro _ _ _ _ _ same
      cases same

theorem nodup_eraseDups (panes : List PaneId) : panes.eraseDups.Nodup := by
  induction length : panes.length using Nat.strongRecOn generalizing panes with
  | ind count ih =>
    cases panes with
    | nil => exact nodup_nil
    | cons first rest =>
      rw [eraseDups_cons, nodup_cons, mem_eraseDups]
      refine ⟨fun mem => ?_, ih _ ?_ _ rfl⟩
      · have differs := (mem_filter.mp mem).2
        simp at differs
      · have shorter := length_filter_le (fun pane => !(pane == first)) rest
        rw [length_cons] at length
        omega

variable {paneMru layoutPaneIds : List PaneId} {activePaneId pane : PaneId}

theorem nodup_reconcilePaneMru : (reconcilePaneMru paneMru layoutPaneIds activePaneId).Nodup :=
  nodup_eraseDups _

theorem mem_reconcilePaneMru :
    pane ∈ reconcilePaneMru paneMru layoutPaneIds activePaneId ↔ pane ∈ layoutPaneIds := by
  unfold reconcilePaneMru
  dsimp only
  rw [mem_eraseDups, mem_append]
  refine ⟨fun mem => mem.elim (fun earlier => ?_) id, Or.inr⟩
  split_ifs at earlier with alone
  · rw [mem_singleton.mp earlier]
    exact alone.2
  · exact of_decide_eq_true (mem_filter.mp (mem_eraseDups.mp earlier)).2

theorem mem_touchPaneMru (touched : pane ∈ paneMru) {other : PaneId} :
    other ∈ touchPaneMru paneMru pane ↔ other ∈ paneMru := by
  unfold touchPaneMru
  rw [mem_cons, mem_filter, decide_eq_true_iff]
  constructor
  · rintro (rfl | ⟨mem, -⟩)
    · exact touched
    · exact mem
  · intro mem
    rcases eq_or_ne other pane with same | ne
    · exact Or.inl same
    · exact Or.inr ⟨mem, ne⟩

theorem nodup_touchPaneMru (once : paneMru.Nodup) : (touchPaneMru paneMru pane).Nodup := by
  refine nodup_cons.mpr ⟨fun mem => ?_, once.filter _⟩
  exact absurd rfl (of_decide_eq_true (mem_filter.mp mem).2)

/-! ### Tabs -/

namespace TerminalTab

variable {tab : TerminalTab}

theorem Sound.touch (sound : tab.Sound) (leaf : pane ∈ getAllLeaves tab.layout) :
    ({ tab with paneMru := touchPaneMru tab.paneMru pane, activePaneId := pane } :
      TerminalTab).Sound where
  active := leaf
  once := nodup_touchPaneMru sound.once
  recent := fun _ => (mem_touchPaneMru ((sound.recent pane).mpr leaf)).trans (sound.recent _)

/-- An update makes a tab sound again, and gives it the leaves of the update. -/
theorem Sound.update (sound : tab.Sound) (splitId : TabId → String) (sent : FormedLayout)
    (activePaneId : PaneId) : (tab.update splitId sent.layout activePaneId).Sound := by
  have leaves : ∀ pane, pane ∈ getAllLeaves (tab.update splitId sent.layout activePaneId).layout ↔
      pane ∈ getAllLeaves sent.layout := by
    intro pane
    unfold TerminalTab.update
    dsimp only
    split_ifs with same
    · -- leaves that are as many and nodup are all of them
      have perm := (sent.once.subperm same.2).perm_of_length_le
        (Nat.le_of_eq same.1.symm)
      exact perm.mem_iff.symm
    · rw [getAllLeaves_ensureSplitRoot]
  have all : ∀ {mru : List PaneId}, ∀ pane,
      pane ∈ reconcilePaneMru mru (getAllLeaves sent.layout) tab.activePaneId ↔
        pane ∈ getAllLeaves sent.layout := fun _ => mem_reconcilePaneMru
  refine { active := (leaves _).mpr ?_, once := ?_, recent := fun pane => ?_ }
  · unfold TerminalTab.update
    dsimp only
    split_ifs with removed given
    · obtain ⟨first, rest, panes⟩ := exists_cons_of_ne_nil sent.inhabited
      have mem : first ∈ reconcilePaneMru
          ((tab.removedPaneIds sent.layout).foldl removePaneFromMru tab.paneMru)
          (getAllLeaves sent.layout) tab.activePaneId := by
        rw [all, panes]
        exact mem_cons_self
      obtain ⟨head, tail, recent⟩ := exists_cons_of_ne_nil (ne_nil_of_mem mem)
      have isRecent : head ∈ reconcilePaneMru
          ((tab.removedPaneIds sent.layout).foldl removePaneFromMru tab.paneMru)
          (getAllLeaves sent.layout) tab.activePaneId := by
        rw [recent]
        exact mem_cons_self
      rw [recent]
      exact (all head).mp isRecent
    · exact given
    · by_contra missing
      exact removed (mem_filter.mpr ⟨sound.active, decide_eq_true missing⟩)
  · unfold TerminalTab.update
    dsimp only
    split_ifs
    · exact nodup_touchPaneMru nodup_reconcilePaneMru
    · exact nodup_reconcilePaneMru
  · rw [leaves]
    unfold TerminalTab.update
    dsimp only
    split_ifs with touched
    · rw [mem_touchPaneMru ((all _).mpr touched.2), all]
    · exact all pane

end TerminalTab

namespace Window

variable {splitId : TabId → String} {window : Window}

variable {surroundings : Surroundings}

theorem sound_listedTab {info : ListedTab} (active : listedActivePaneId surroundings info ∈
      getAllLeaves (listedLayout splitId surroundings info)) :
    (listedTab splitId surroundings info).Sound where
  active := active
  once := nodup_reconcilePaneMru
  recent := fun _ => mem_reconcilePaneMru

theorem sound_alone {tab : TerminalTab} (leaves : getAllLeaves tab.layout = [tab.activePaneId])
    (recent : tab.paneMru = [tab.activePaneId]) : tab.Sound where
  active := by
    rw [leaves]
    exact mem_singleton_self _
  once := by
    rw [recent]
    exact nodup_singleton _
  recent := fun pane => by rw [leaves, recent]

theorem sound_migratePluginTab (saved : SavedPluginTab) :
    (migratePluginTab splitId saved).Sound := by
  refine sound_alone ?_ rfl
  dsimp only [migratePluginTab]
  rw [getAllLeaves_ensureSplitRoot]
  exact collectLeafPaneIds_leaf _

/-! ### What the handlers keep -/

/-- The objects of the tabs are made, and sound. -/
structure Healthy (window : Window) : Prop where
  sound : ∀ key ∈ window.tabs, ∀ tab, window.objects key = .terminal tab → tab.Sound
  made : ∀ key ∈ window.tabs, key < window.created

/-- A handler is to select the successor of the tab that was closed last. -/
def Returning (window : Window) : Prop :=
  ∃ tabIdx successor again,
    Handler.tabClosed window.revealNavGen tabIdx successor again ∈ window.handlers

/-- The handler of a list is to select a tab if none is. -/
def Listing (window : Window) : Prop :=
  window.tabs ≠ [] ∧ ∃ isEmpty, Handler.tabList isEmpty ∈ window.handlers

structure Kept (window : Window) : Prop extends window.Healthy where
  selecting : window.Shows ∨ window.Returning ∨ window.Listing

theorem Healthy.push (healthy : window.Healthy) (tab : Tab)
    (sound : ∀ terminal, tab = .terminal terminal → terminal.Sound) :
    (window.push tab).Healthy := by
  refine { sound := fun key mem terminal isTerminal => ?_, made := fun key mem => ?_ }
  · dsimp only [Window.push] at isTerminal
    rcases mem_append.mp mem with earlier | new
    · rw [update_of_ne (Nat.ne_of_lt (healthy.made key earlier))] at isTerminal
      exact healthy.sound key earlier terminal isTerminal
    · rw [mem_singleton.mp new, update_self] at isTerminal
      exact sound terminal isTerminal
  · dsimp only [Window.push]
    rcases mem_append.mp mem with earlier | new
    · exact Nat.lt_succ_of_lt (healthy.made key earlier)
    · rw [mem_singleton.mp new]
      exact Nat.lt_succ_self _

variable {target : Key}

theorem Healthy.modify (healthy : window.Healthy) {change : TerminalTab → TerminalTab}
    (sound : ∀ tab, window.objects target = .terminal tab → (change tab).Sound) :
    (window.modify target change).Healthy := by
  refine { sound := fun key mem terminal isTerminal => ?_, made := healthy.made }
  dsimp only [Window.modify] at isTerminal
  rcases eq_or_ne key target with rfl | ne
  · rw [update_self] at isTerminal
    cases object : window.objects key with
    | terminal tab =>
      rw [object] at isTerminal
      exact Tab.terminal.inj isTerminal ▸ sound tab object
    | plugin paneId =>
      rw [object] at isTerminal
      cases isTerminal
  · rw [update_of_ne ne] at isTerminal
    exact healthy.sound key mem terminal isTerminal

theorem Healthy.fewer (healthy : window.Healthy) {later : Window}
    (objects : later.objects = window.objects) (created : later.created = window.created)
    (fewer : ∀ key ∈ later.tabs, key ∈ window.tabs) : later.Healthy where
  sound := fun key mem => objects ▸ healthy.sound key (fewer key mem)
  made := fun key mem => created ▸ healthy.made key (fewer key mem)

theorem paneId_modify (window : Window) (change : TerminalTab → TerminalTab)
    (names : ∀ tab, (change tab).paneId = tab.paneId) (target key : Key) :
    ((window.modify target change).objects key).paneId = (window.objects key).paneId := by
  dsimp only [modify]
  rcases eq_or_ne key target with rfl | ne
  · rw [update_self]
    cases window.objects key with
    | terminal tab => exact names tab
    | plugin paneId => rfl
  · rw [update_of_ne ne]

theorem shows_of_selected {key : Key} {paneId : TabId}
    (selected : window.activePaneId = some paneId)
    (mem : key ∈ window.tabs) (named : (window.objects key).paneId = paneId) :
    window.Shows := by
  intro other isActive
  rw [selected] at isActive
  cases isActive
  exact ⟨key, mem, named⟩

theorem shows_of_none (none : window.activePaneId = none) : window.Shows := by
  intro paneId isActive
  rw [none] at isActive
  cases isActive

theorem mem_of_findLeaf (found : window.findLeaf pane = some target) :
    target ∈ window.tabs ∧ pane ∈ (window.objects target).leaves :=
  ⟨mem_of_find?_eq_some found, of_decide_eq_true
    (find?_some (p := fun key => pane ∈ (window.objects key).leaves) found)⟩

/-! ### A list -/

theorem Healthy.addPluginTab (healthy : window.Healthy) (saved : SavedPluginTab) :
    (window.addPluginTab splitId saved).Healthy := by
  unfold Window.addPluginTab
  split_ifs
  · exact healthy
  · refine healthy.push _ fun terminal same => ?_
    rw [← Tab.terminal.inj same]
    exact sound_migratePluginTab saved

theorem Healthy.afterList (healthy : window.Healthy) {listed : List ListedTab}
    (active : ∀ info ∈ window.unknown listed, listedActivePaneId surroundings info ∈
        getAllLeaves (listedLayout splitId surroundings info)) :
    (window.afterList splitId listed surroundings).Healthy := by
  have listedToo : ∀ (infos : List ListedTab) (start : Window), start.Healthy →
      (∀ info ∈ infos, listedActivePaneId surroundings info ∈
        getAllLeaves (listedLayout splitId surroundings info)) →
      (infos.foldl (fun window info =>
        window.push (.terminal (listedTab splitId surroundings info))) start).Healthy := by
    intro infos
    induction infos with
    | nil => exact fun _ isHealthy _ => isHealthy
    | cons info rest ih =>
      intro start isHealthy each
      refine ih _ (isHealthy.push _ fun terminal same => ?_) fun other mem =>
        each other (mem_cons_of_mem _ mem)
      rw [← Tab.terminal.inj same]
      exact sound_listedTab (each info mem_cons_self)
  have plugins : ∀ (saved : List SavedPluginTab) (start : Window), start.Healthy →
      (saved.foldl (Window.addPluginTab splitId) start).Healthy := by
    intro saved
    induction saved with
    | nil => exact fun _ isHealthy => isHealthy
    | cons first rest ih =>
      exact fun start isHealthy => ih _ (isHealthy.addPluginTab first)
  exact (plugins _ _ (listedToo _ _ healthy active)).fewer rfl rfl
    fun _ mem => (mem_filter.mp mem).1

theorem activePaneId_afterList (listed : List ListedTab) (surroundings : Surroundings) :
    (window.afterList splitId listed surroundings).activePaneId = window.activePaneId := by
  have listedToo : ∀ (infos : List ListedTab) (start : Window),
      (infos.foldl (fun window info =>
        window.push (.terminal (listedTab splitId surroundings info))) start).activePaneId =
          start.activePaneId := by
    intro infos
    induction infos with
    | nil => exact fun _ => rfl
    | cons info rest ih => exact fun start => ih _
  have plugins : ∀ (saved : List SavedPluginTab) (start : Window),
      (saved.foldl (addPluginTab splitId) start).activePaneId = start.activePaneId := by
    intro saved
    induction saved with
    | nil => exact fun _ => rfl
    | cons first rest ih =>
      intro start
      refine (ih _).trans ?_
      unfold addPluginTab
      split_ifs <;> rfl
  exact (plugins _ _).trans (listedToo _ _)

theorem Healthy.endTabList (healthy : window.Healthy) (isEmpty : Bool) :
    (window.endTabList isEmpty).Healthy := by
  unfold Window.endTabList
  split
  · exact healthy.fewer rfl rfl fun _ mem => mem
  · split_ifs
    · exact healthy
    · exact healthy.fewer rfl rfl fun _ mem => mem

theorem shows_endTabList (isEmpty : Bool) (some : window.tabs ≠ [] ∨ window.activePaneId = none) :
    (window.endTabList isEmpty).Shows := by
  unfold endTabList
  split
  next empty => exact shows_of_none (some.resolve_left fun tabs => tabs empty)
  next first rest tabs =>
    split_ifs with shown
    · obtain ⟨key, mem, selected⟩ := any_eq_true.mp shown
      exact shows_of_selected (of_decide_eq_true selected).symm mem rfl
    · refine shows_of_selected rfl ?_ rfl
      dsimp only
      rw [tabs]
      exact mem_cons_self

theorem Healthy.activateListed (healthy : window.Healthy) {activePaneId : Option PaneId}
    {activated : Window} (isActivated : window.activateListed activePaneId = some activated) :
    activated.Healthy ∧ activated.Shows := by
  obtain ⟨pane, -, found⟩ := bind_eq_some_iff.mp isActivated
  obtain ⟨target, isTarget, rfl⟩ := map_eq_some_iff.mp found
  obtain ⟨mem, leaf⟩ := mem_of_findLeaf isTarget
  have modified : (window.modify target fun tab => { tab with activePaneId := pane }).Healthy := by
    refine healthy.modify fun tab object => ?_
    have sound := healthy.sound target mem tab object
    rw [object] at leaf
    exact { sound with active := leaf }
  refine ⟨modified.fewer rfl rfl fun _ mem => mem, ?_⟩
  exact shows_of_selected rfl mem
    (paneId_modify window (fun tab => { tab with activePaneId := pane }) (fun _ => rfl) _ _)

theorem Kept.tabList (kept : window.Kept) {listed : List ListedTab} {activePaneId : Option PaneId}
    (clear : window.Clear splitId (.tabList listed activePaneId surroundings)) :
    (window.tabList splitId listed activePaneId surroundings).Kept := by
  have healthy := kept.toHealthy.afterList clear.1
  unfold Window.tabList
  dsimp only
  split
  next activated isActivated =>
    obtain ⟨activatedHealthy, shows⟩ := healthy.activateListed isActivated
    exact { activatedHealthy.fewer rfl rfl fun _ mem => mem with selecting := Or.inl shows }
  next =>
    refine { healthy.endTabList _ with selecting := Or.inl (shows_endTabList _ ?_) }
    rw [activePaneId_afterList]
    exact clear.2

/-! ### A tab that is created, activated or closed -/

theorem Kept.tabCreated (kept : window.Kept) {tabId : TabId} {paneId : PaneId}
    {layout : Option FormedLayout}
    (clear : window.Clear splitId (.tabCreated tabId paneId layout)) :
    (window.tabCreated splitId tabId paneId layout).Kept := by
  unfold Window.tabCreated
  split_ifs with known
  · exact kept
  · let tab : TerminalTab :=
      { paneId := tabId
        layout := ensureSplitRoot (splitId tabId) (createdLayout paneId layout)
        activePaneId := paneId
        paneMru := [paneId] }
    have leaves : getAllLeaves tab.layout = [paneId] := by
      rw [getAllLeaves_ensureSplitRoot]
      exact clear (Bool.eq_false_iff.mpr known)
    have pushed := kept.toHealthy.push (.terminal tab) fun terminal same =>
      Tab.terminal.inj same ▸ sound_alone leaves rfl
    refine { pushed.fewer rfl rfl fun _ mem => mem with selecting := Or.inl ?_ }
    refine shows_of_selected rfl (mem_append_right _ (mem_singleton_self _)) ?_
    dsimp only [push]
    rw [update_self]
    rfl

theorem Kept.tabActivated (kept : window.Kept) (paneId : PaneId) :
    (window.tabActivated paneId).Kept := by
  unfold Window.tabActivated
  split_ifs
  · exact kept
  · split
    next => exact kept
    next target found =>
      obtain ⟨mem, leaf⟩ := mem_of_findLeaf found
      have modified : (window.modify target fun tab =>
          { tab with
            paneMru := touchPaneMru tab.paneMru paneId
            activePaneId := paneId }).Healthy := by
        refine kept.toHealthy.modify fun tab object => ?_
        rw [object] at leaf
        exact (kept.sound target mem tab object).touch leaf
      refine { modified.fewer rfl rfl fun _ mem => mem with selecting := Or.inl ?_ }
      exact shows_of_selected rfl mem
        (paneId_modify window (fun tab =>
          { tab with
            paneMru := touchPaneMru tab.paneMru paneId
            activePaneId := paneId }) (fun _ => rfl) _ _)

variable {tabIdx : Nat}

theorem mem_of_fallback {successor : Key}
    (found : window.fallback tabIdx workspaces = some successor) : successor ∈ window.tabs := by
  rcases or_eq_some_iff.mp found with inWorkspace | ⟨-, atPlace⟩
  · exact mem_of_find?_eq_some inWorkspace
  · exact mem_of_getElem? atPlace

variable {navGen : Nat} {successor : Option Key}

theorem shows_select (cur : navGen = window.revealNavGen)
    (there : ∀ key ∈ successor, key ∈ window.tabs) : (window.select navGen successor).Shows := by
  unfold select
  rw [if_pos cur]
  intro paneId selected
  obtain ⟨key, isSuccessor, named⟩ := map_eq_some_iff.mp selected
  exact ⟨key, there key isSuccessor, named⟩

theorem Healthy.select (healthy : window.Healthy) (navGen : Nat) (successor : Option Key) :
    (window.select navGen successor).Healthy := by
  unfold Window.select
  split_ifs
  · exact healthy.fewer rfl rfl fun _ mem => mem
  · exact healthy

theorem Healthy.leaveTab (healthy : window.Healthy) (there : ∀ key ∈ successor, key ∈ window.tabs) :
    (window.leaveTab tabIdx successor workspaces).Kept := by
  have leaving : ({ window with revealNavGen := window.revealNavGen + 1 } : Window).Healthy :=
    healthy.fewer rfl rfl fun _ mem => mem
  unfold Window.leaveTab
  dsimp only
  split_ifs
  · refine { leaving.fewer rfl rfl fun _ mem => mem with
      selecting := Or.inr (Or.inl ⟨tabIdx, successor, false, ?_⟩) }
    exact mem_append_right _ (mem_singleton_self _)
  · exact { leaving.select _ successor with selecting := Or.inl (shows_select rfl there) }

theorem Kept.tabClosed (kept : window.Kept) {paneId : TabId}
    (clear : window.Clear splitId (.tabClosed paneId workspaces)) :
    (window.tabClosed paneId workspaces).Kept := by
  unfold Window.tabClosed
  split
  next => exact kept
  next tabIdx found =>
    obtain ⟨bound, isClosed, -⟩ := findIdx?_eq_some_iff_getElem.mp found
    have isTerminal := of_decide_eq_true isClosed
    have closed : ({ window with tabs := window.tabs.eraseIdx tabIdx } : Window).Healthy :=
      kept.toHealthy.fewer rfl rfl fun _ => mem_of_mem_eraseIdx
    dsimp only
    split_ifs with last selected
    · refine { closed.fewer rfl rfl fun _ mem => mem with selecting := Or.inl ?_ }
      have length := length_eraseIdx_of_lt bound
      rw [last, length_nil] at length
      rcases clear ⟨_, getElem_mem bound, isTerminal⟩ with more | none
      · omega
      · exact shows_of_none none
    · exact closed.leaveTab fun key picked => mem_of_pickSuccessorTab picked
    · refine { closed with selecting := ?_ }
      rcases kept.selecting with shows | returning | ⟨-, listing⟩
      · refine Or.inl fun other isActive => ?_
        obtain ⟨key, mem, named⟩ := shows other isActive
        obtain ⟨index, atIndex⟩ := mem_iff_getElem?.mp mem
        refine ⟨key, mem_eraseIdx_iff_getElem?.mpr ⟨index, fun same => ?_, atIndex⟩, named⟩
        rw [same, getElem?_eq_getElem bound] at atIndex
        rw [← some.inj atIndex] at named
        exact selected (isActive.trans (congrArg some (named.symm.trans isTerminal.2)))
      · exact Or.inr (Or.inl returning)
      · exact Or.inr (Or.inr ⟨last, listing⟩)

/-! ### An update -/

theorem Kept.layoutUpdated (kept : window.Kept) (paneId : TabId) (sent : FormedLayout)
    (activePaneId : PaneId) :
    (window.layoutUpdated splitId paneId sent.layout activePaneId).Kept := by
  unfold Window.layoutUpdated
  split
  next => exact kept
  next target found =>
    have mem : target ∈ window.tabs := by
      rcases or_eq_some_iff.mp found with named | ⟨-, overlaps⟩
      · exact mem_of_find?_eq_some named
      · exact mem_of_find?_eq_some overlaps
    have modified := kept.toHealthy.modify fun tab object =>
      (kept.sound target mem tab object).update splitId sent activePaneId
    refine { modified.fewer rfl rfl fun _ mem => mem with selecting := ?_ }
    rcases kept.selecting with shows | ⟨tabIdx, successor, again, waits⟩ | ⟨tabs, isEmpty, waits⟩
    · refine Or.inl fun other isActive => ?_
      obtain ⟨key, mem, named⟩ := shows other isActive
      have same := paneId_modify window (TerminalTab.update splitId sent.layout activePaneId)
        (fun _ => rfl) target key
      exact ⟨key, mem, same.trans named⟩
    · exact Or.inr (Or.inl ⟨tabIdx, successor, again, mem_append_left _ waits⟩)
    · exact Or.inr (Or.inr ⟨tabs, isEmpty, mem_append_left _ waits⟩)

/-! ### Handlers that go on -/

theorem mem_handlers_eraseIdx {handler other : Handler}
    (atIndex : window.handlers[index]? = some handler) (waits : other ∈ window.handlers)
    (ne : other ≠ handler) : other ∈ window.handlers.eraseIdx index := by
  obtain ⟨place, atPlace⟩ := mem_iff_getElem?.mp waits
  refine mem_eraseIdx_iff_getElem?.mpr ⟨place, fun same => ne ?_, atPlace⟩
  rw [same, atIndex] at atPlace
  exact (some.inj atPlace).symm

variable {index : Nat} {workspaceCommitted : Bool} {workspaces : Workspaces}

section

variable (kept : window.Kept)
include kept

theorem Kept.resumeTabList {isEmpty : Bool}
    (atIndex : window.handlers[index]? = some (.tabList isEmpty)) :
    (({ window with handlers := window.handlers.eraseIdx index } : Window).endTabList
      isEmpty).Kept := by
  have erased : ({ window with handlers := window.handlers.eraseIdx index } : Window).Healthy :=
    kept.toHealthy.fewer rfl rfl fun _ mem => mem
  refine { erased.endTabList isEmpty with selecting := ?_ }
  by_cases none : window.tabs = []
  · have left : ∀ other : Window, other.activePaneId = window.activePaneId →
        other.tabs = window.tabs → other.objects = window.objects →
        other.revealNavGen = window.revealNavGen →
        other.handlers = window.handlers.eraseIdx index →
        other.Shows ∨ other.Returning ∨ other.Listing := by
      intro other active tabs objects navGen handlers
      rcases kept.selecting with shows | ⟨tabIdx, successor, again, waits⟩ | ⟨tabs, -⟩
      · refine Or.inl ?_
        unfold Shows
        rw [active, tabs, objects]
        exact shows
      · refine Or.inr (Or.inl ⟨tabIdx, successor, again, ?_⟩)
        rw [navGen, handlers]
        exact mem_handlers_eraseIdx atIndex waits fun same => by cases same
      · exact absurd none tabs
    have ended : (({ window with handlers := window.handlers.eraseIdx index } : Window).endTabList
        isEmpty) = { window with
          handlers := window.handlers.eraseIdx index
          newTabs := if isEmpty then window.newTabs + 1 else window.newTabs } := by
      unfold endTabList
      dsimp only
      rw [none]
    rw [ended]
    exact left _ rfl rfl rfl rfl rfl
  · exact Or.inl (shows_endTabList isEmpty (Or.inl none))

theorem Kept.resumeLayoutUpdated (atIndex : window.handlers[index]? = some (.layoutUpdated target))
    (stays : ∃ key ∈ window.tabs, staysBeside (window.objects target) (window.objects key))
    (selected : ∀ key ∈ window.tabs, some (window.objects key).paneId = window.activePaneId →
      staysBeside (window.objects target) (window.objects key)) :
    (({ window with handlers := window.handlers.eraseIdx index } : Window).endLayoutUpdated
      target).Kept := by
  have ended : (({ window with handlers := window.handlers.eraseIdx index } :
      Window).endLayoutUpdated target).Healthy :=
    kept.toHealthy.fewer rfl rfl fun _ mem => (mem_filter.mp mem).1
  refine { ended with selecting := ?_ }
  rcases kept.selecting with shows | ⟨tabIdx, successor, again, waits⟩ | ⟨-, isEmpty, waits⟩
  · refine Or.inl fun other isActive => ?_
    obtain ⟨key, mem, named⟩ := shows other isActive
    refine ⟨key, mem_filter.mpr ⟨mem, selected key mem ?_⟩, named⟩
    rw [named]
    exact isActive.symm
  · refine Or.inr (Or.inl ⟨tabIdx, successor, again, ?_⟩)
    exact mem_handlers_eraseIdx atIndex waits fun same => by cases same
  · refine Or.inr (Or.inr ⟨?_, isEmpty, ?_⟩)
    · obtain ⟨key, mem, isBeside⟩ := stays
      exact ne_nil_of_mem (mem_filter.mpr ⟨mem, isBeside⟩)
    · exact mem_handlers_eraseIdx atIndex waits fun same => by cases same

theorem Kept.select {chosen : Option Key} {again : Bool}
    (atIndex : window.handlers[index]? = some (.tabClosed navGen tabIdx chosen again))
    (there : navGen = window.revealNavGen → ∀ key ∈ successor, key ∈ window.tabs) :
    (({ window with handlers := window.handlers.eraseIdx index } : Window).select navGen
      successor).Kept := by
  have erased : ({ window with handlers := window.handlers.eraseIdx index } : Window).Healthy :=
    kept.toHealthy.fewer rfl rfl fun _ mem => mem
  refine { erased.select navGen successor with selecting := ?_ }
  by_cases cur : navGen = window.revealNavGen
  · exact Or.inl (shows_select cur (there cur))
  · unfold Window.select
    rw [if_neg cur]
    rcases kept.selecting with shows | ⟨place, other, isAgain, waits⟩ | ⟨tabs, isEmpty, waits⟩
    · exact Or.inl shows
    · refine Or.inr (Or.inl ⟨place, other, isAgain, mem_handlers_eraseIdx atIndex waits ?_⟩)
      intro same
      exact cur (Handler.tabClosed.inj same).1.symm
    · refine Or.inr (Or.inr ⟨tabs, isEmpty, mem_handlers_eraseIdx atIndex waits ?_⟩)
      intro same
      cases same

theorem Kept.resumeClose
    (atIndex : window.handlers[index]? = some (.tabClosed navGen tabIdx successor false))
    (there : navGen = window.revealNavGen → workspaceCommitted = true →
      ∀ key ∈ successor, key ∈ window.tabs) :
    (({ window with handlers := window.handlers.eraseIdx index } : Window).resumeClose navGen
      tabIdx successor workspaceCommitted workspaces).Kept := by
  unfold Window.resumeClose
  split_ifs with committed
  · exact kept.select atIndex fun cur => there cur committed.1
  · have erased : ({ window with handlers := window.handlers.eraseIdx index } : Window).Healthy :=
      kept.toHealthy.fewer rfl rfl fun _ mem => mem
    refine { erased.fewer rfl rfl fun _ mem => mem with selecting := ?_ }
    by_cases cur : navGen = window.revealNavGen
    · refine Or.inr (Or.inl ⟨tabIdx, window.fallback tabIdx workspaces, true, ?_⟩)
      dsimp only
      rw [← cur]
      exact mem_append_right _ (mem_singleton_self _)
    · rcases kept.selecting with shows | ⟨place, other, isAgain, waits⟩ | ⟨tabs, isEmpty, waits⟩
      · exact Or.inl shows
      · refine Or.inr (Or.inl ⟨place, other, isAgain, mem_append_left _
          (mem_handlers_eraseIdx atIndex waits ?_)⟩)
        intro same
        exact cur (Handler.tabClosed.inj same).1.symm
      · refine Or.inr (Or.inr ⟨tabs, isEmpty, mem_append_left _
          (mem_handlers_eraseIdx atIndex waits ?_)⟩)
        intro same
        cases same
  · exact kept.select atIndex fun _ key found => mem_of_fallback found

theorem Kept.resume (clear : window.Clear splitId (.resume index workspaceCommitted workspaces)) :
    (window.after splitId (.resume index workspaceCommitted workspaces)).Kept := by
  dsimp only [after]
  dsimp only [Clear] at clear
  cases atIndex : window.handlers[index]? with
  | none => exact kept
  | some handler =>
    rw [atIndex] at clear
    cases handler with
    | tabList isEmpty => exact kept.resumeTabList atIndex
    | layoutUpdated target => exact kept.resumeLayoutUpdated atIndex clear.1 clear.2
    | tabClosed navGen tabIdx successor again =>
      dsimp only [Window.resume]
      split_ifs with isAgain
      · exact kept.select atIndex fun cur => clear cur (Or.inl isAgain)
      · rw [Bool.not_eq_true] at isAgain
        subst isAgain
        exact kept.resumeClose atIndex fun cur committed => clear cur (Or.inr committed)

end

theorem Kept.after (window : Window) (news : News) (kept : window.Kept)
    (clear : window.Clear splitId news) : (window.after splitId news).Kept := by
  cases news with
  | tabList tabs activePaneId surroundings => exact kept.tabList clear
  | tabCreated tabId paneId layout => exact kept.tabCreated clear
  | tabClosed paneId workspaces => exact kept.tabClosed clear
  | tabActivated paneId => exact kept.tabActivated paneId
  | layoutUpdated paneId layout activePaneId =>
    exact kept.layoutUpdated paneId layout activePaneId
  | resume index workspaceCommitted workspaces => exact kept.resume clear

/-- In a run in which all news are clear, the window is consistent whenever no handler waits. -/
theorem consistent_run {start : Window} {news : List News} (consistent : start.Consistent)
    (made : ∀ key ∈ start.tabs, key < start.created)
    (clear : Runs.Careful (Window.after splitId) (Window.Clear splitId) start news)
    (ended : (Runs.run (Window.after splitId) start news).handlers = []) :
    (Runs.run (Window.after splitId) start news).Consistent := by
  have kept := clear.kept Kept Kept.after
    { sound := consistent.sound, made := made, selecting := Or.inl consistent.shows }
  refine { sound := kept.sound, shows := ?_ }
  rcases kept.selecting with shows | ⟨tabIdx, successor, again, waits⟩ | ⟨-, isEmpty, waits⟩
  · exact shows
  · rw [ended] at waits
    cases waits
  · rw [ended] at waits
    cases waits

/-! ### A window that stays consistent, and ones that do not -/

def oneLeaf (pane : PaneId) : FormedLayout where
  layout := placeholderLeaf pane
  once := nodup_singleton pane
  inhabited := cons_ne_nil pane []

/-- Two panes side by side. -/
def twoLeaves : FormedLayout where
  layout := .split "s" "horizontal" none [placeholderLeaf "first", placeholderLeaf "second"] []
  once := by decide
  inhabited := by decide

/-- Tabs are listed, created, updated and closed, and the handler of the list goes on last. -/
def calmNews : List News :=
  [.tabList [⟨"one", "first", some (oneLeaf "first"), none⟩] (some "first") {},
    .tabCreated "two" "third" none, .layoutUpdated "one" twoLeaves "second",
    .tabActivated "second", .tabClosed "two" {}, .resume 1 false {}, .resume 0 false {}]

theorem consistent_calmNews : (Runs.run (Window.after fun _ => "s") {} calmNews).Consistent ∧
      (Runs.run (Window.after fun _ => "s") {} calmNews).activePaneId = some "one" := by
  refine ⟨consistent_run { sound := nofun, shows := nofun } nofun ?_ (by decide +kernel),
    by decide +kernel⟩
  refine ⟨⟨by decide +kernel, Or.inl (by decide +kernel)⟩, fun _ => by decide +kernel, trivial,
    trivial, fun _ => Or.inl (by decide +kernel), ⟨⟨0, by decide +kernel⟩, by decide +kernel⟩,
    trivial, trivial⟩

/-- A created tab that has two panes. -/
theorem recent_pane_missing : ¬ ∀ news : List News,
    (Runs.run (Window.after fun _ => "s") {} news).handlers = [] →
      (Runs.run (Window.after fun _ => "s") {} news).Consistent := by
  intro consistent
  have isConsistent := consistent [.tabCreated "one" "first" (some twoLeaves)] rfl
  have sound := isConsistent.sound 0 (by decide +kernel) _ rfl
  exact absurd ((sound.recent "second").mpr (by decide +kernel)) (by decide +kernel)

end Window

end Dinotty.Sync
