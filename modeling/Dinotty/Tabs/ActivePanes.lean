/-
This file is the panes that are active: the one of the manager, where input goes, and the one of
each tab. It proves in which runs each of them is a leaf, the one of the manager of some tab and the
others of their own.
-/

import Dinotty.Foundation.Runs
import Dinotty.Tabs.Conservation
import Dinotty.Tabs.Titles

namespace Dinotty.Tabs.Stored

open List Option KeyMap

open Session hiding SessionManager
open Session.Stored Session.Stored.SessionManager

/-! ### Messages -/

/-- Whether a node of a layout names the pane, be it a leaf or not. -/
def layoutHasPane (pane : PaneId) (layout : Json) : Bool :=
  layout.getStr "paneId" = some pane ||
    match _found : layout.getArray "children" with
    | some children => children.attach.any fun child => layoutHasPane pane child.1
    | none => false
termination_by sizeOf layout
decreasing_by exact Json.sizeOf_of_mem_getArray _found child.2

def isPaneInAnyTab (manager : SessionManager) (pane : PaneId) : Bool :=
  manager.tabLayouts.entries.any fun entry =>
    ((entry.2.get "layout").map (layoutHasPane pane)).getD false

def tabLeafFor (manager : SessionManager) (tab : TabId) : Option PaneId :=
  (manager.tabLayouts.lookup tab).bind fun value =>
    (value.getStr "active_pane_id").or ((value.get "layout").bind firstLeafId)

/-- The pane that is meant by the name of a tab or of a pane. -/
def meantLeaf (manager : SessionManager) (pane : PaneId) : PaneId :=
  (tabLeafFor manager pane).getD pane

def resolveActivateLeaf (manager : SessionManager) (pane : PaneId) : Option PaneId :=
  if isPaneInAnyTab manager (meantLeaf manager pane) then some (meantLeaf manager pane) else none

/-- The pane that a tab is created with: the one that the client gives, else the first leaf. -/
def createdLeaf (layout : Json) (tab : TabId) (pane : Option PaneId) : PaneId :=
  (pane.or (firstLeafId layout)).getD tab

def leafIdsOf (manager : SessionManager) (tab : TabId) : List PaneId :=
  ((manager.layoutOf tab).map collectLeafPaneIds).getD []

/-- An operation of the server, a message of a client about a tab, the closing of a tab by a
request, and the confirmation of a tab in mission control. -/
inductive SyncOperation where
  | tabs (operation : TabOperation)
  | activateTab (pane : PaneId)
  | createTab (layout : Json) (tab : TabId) (pane : Option PaneId)
  | updateLayout (tab : TabId) (layout : Json) (activePaneId : PaneId)
  | closeTab (tab : TabId)
  | syncCloseTab (tab : TabId)
  | confirm (selected : Option TabId)

namespace SyncOperation

def apply (manager : SessionManager) : SyncOperation → SessionManager
  | .tabs operation => operation.apply manager
  | .activateTab pane =>
      match resolveActivateLeaf manager pane with
      | some leaf => manager.setActivePaneId (some leaf)
      | none => manager
  | .createTab layout tab pane =>
      manager.updateLayoutLocked tab (tabValue layout (some (createdLeaf layout tab pane)))
        (some (createdLeaf layout tab pane))
  | .updateLayout tab layout activePaneId =>
      manager.updateLayoutLocked tab (tabValue layout (some activePaneId)) (some activePaneId)
  | .closeTab tab =>
      (((leafIdsOf manager tab).foldl (fun manager pane => (manager.closeSession pane none).1)
        manager).removeTabLocked tab).1
  | .syncCloseTab tab =>
      (((leafIdsOf manager tab).foldl (fun manager pane => (manager.closePane pane).1)
        manager).removeTabLocked tab).1
  | .confirm selected =>
      match selected.bind (tabLeafFor manager) with
      | some leaf => manager.setActivePaneId (some leaf)
      | none => manager

end SyncOperation

/-! ### The active panes are leaves -/

/-- The value of a tab has the pane as a leaf. -/
def Shows (value : Json) (pane : PaneId) : Prop :=
  ∃ layout, value.get "layout" = some layout ∧ pane ∈ collectLeafPaneIds layout

def ShownAt (manager : SessionManager) (tab : TabId) (pane : PaneId) : Prop :=
  ∃ value, manager.tabLayouts.lookup tab = some value ∧ Shows value pane

/-- The active pane of a value is one of its leaves. -/
def Points (value : Json) : Prop :=
  ∀ pane, value.getStr "active_pane_id" = some pane → Shows value pane

/-- The active pane of the manager is a leaf of a tab, and that of each tab one of its own. -/
structure ActiveValid (manager : SessionManager) : Prop where
  active : ∀ pane, manager.activePaneId = some pane → ∃ tab, ShownAt manager tab pane
  stored : ∀ tab value, manager.tabLayouts.lookup tab = some value → Points value

/-! ### What an operation must see to -/

/-- What takes the place of a tab has the active pane, if no other tab has it. -/
def Covers (manager : SessionManager) (tab : TabId) (kept : PaneId → Prop) : Prop :=
  ∀ pane, manager.activePaneId = some pane → ShownAt manager tab pane →
    kept pane ∨ ∃ other, other ≠ tab ∧ ShownAt manager other pane

/-- A value that is stored with the pane to activate, if there is one. -/
def SoundUpdate (manager : SessionManager) (tab : TabId) (value : Json) : Option PaneId → Prop
  | some pane =>
      Points value ∧ (Shows value pane ∨ ∃ other, other ≠ tab ∧ ShownAt manager other pane)
  | none => Points value ∧ Covers manager tab (Shows value)

/-- The condition on an operation of the manager. Closing a session or a pane has none. -/
def SoundOperation (manager : SessionManager) : Operation → Prop
  | .insertTab tab value => SoundUpdate manager tab value none
  | .updateLayout tab value activePaneId => SoundUpdate manager tab value activePaneId
  | .insertTabForSession pane session tab value activePaneId =>
      manager.isCurrentSession pane session = true →
        SoundUpdate manager tab value (some activePaneId)
  | .removeTab tab => Covers manager tab fun _ => False
  | .setActivePaneId pane => ∀ active, pane = some active → ∃ tab, ShownAt manager tab active
  | .purgePane pane skipMatchingTab =>
      manager.activePaneId = some pane → skipMatchingTab = true ∧ ShownAt manager pane pane
  | .tabList =>
      ∀ pane, manager.activePaneId = some pane → ∃ tab value,
        manager.tabLayouts.lookup tab = some value ∧ manager.stale value = false ∧ Shows value pane
  | _ => True

/-- The layout that a request changes is well formed. -/
def SoundLayout (manager : SessionManager) (tab : TabId) : Prop :=
  ∀ layout, manager.layoutOf tab = some layout → WellFormed layout

def HasOther (manager : SessionManager) (tab : TabId) (pane : PaneId) : Prop :=
  ∀ layout, manager.layoutOf tab = some layout → ∃ other ∈ collectLeafPaneIds layout, other ≠ pane

def SoundRequest (manager : SessionManager) : TabOperation → Prop
  | .manage operation => SoundOperation manager operation
  | .splitPane tab _ _ _ _ => SoundLayout manager tab
  | .insertNonTerminalPane tab _ _ _ leaf pane =>
      SoundLayout manager tab ∧ pane ∈ collectLeafPaneIds leaf
  | .movePane destination request _ =>
      SoundLayout manager destination ∧
        ∀ pane, request.sourcePaneId = some pane → HasOther manager request.sourceTabId pane
  | .extractPane source pane newTab =>
      manager.tabLayouts.lookup newTab = none ∧ HasOther manager source pane
  | .activatePane _ _ => True
  | .updateLayout tab layout activePaneId =>
      (manager.tabLayouts.lookup tab).isSome → activePaneId ∈ collectLeafPaneIds layout

/-- A client gives leaves as active panes, layouts are well formed and name panes at leaves only,
and the tab that the active pane is in goes with its session. -/
def Sound (manager : SessionManager) : SyncOperation → Prop
  | .tabs operation => SoundRequest manager operation
  | .activateTab pane =>
      ∀ tab layout, manager.layoutOf tab = some layout →
        layoutHasPane (meantLeaf manager pane) layout = true →
          meantLeaf manager pane ∈ collectLeafPaneIds layout
  | .createTab layout tab pane => createdLeaf layout tab pane ∈ collectLeafPaneIds layout
  | .updateLayout _ layout activePaneId => activePaneId ∈ collectLeafPaneIds layout
  | .closeTab tab =>
      Covers manager tab fun pane => (manager.sessions.lookup pane).isSome = true
  | .syncCloseTab _ | .confirm _ => True

/-! ### Values -/

variable {layout : Json} {pane : PaneId}

variable {activePaneId : Option PaneId}

theorem shows_tabValue :
    Shows (tabValue layout activePaneId) pane ↔ pane ∈ collectLeafPaneIds layout := by
  refine ⟨?_, fun held => ⟨layout, get_layout_tabValue layout activePaneId, held⟩⟩
  rintro ⟨other, read, held⟩
  rw [get_layout_tabValue] at read
  exact some.inj read ▸ held

theorem points_tabValue
    (held : ∀ pane, activePaneId = some pane → pane ∈ collectLeafPaneIds layout) :
    Points (tabValue layout activePaneId) := by
  intro pane active
  rw [getStr_active_tabValue] at active
  exact shows_tabValue.mpr (held pane active)

variable {manager : SessionManager} {tab : TabId}

theorem shownAt_of_layoutOf (found : manager.layoutOf tab = some layout)
    (held : pane ∈ collectLeafPaneIds layout) : ShownAt manager tab pane := by
  obtain ⟨value, present, read⟩ := layoutOf_eq_some_iff.mp found
  exact ⟨value, present, layout, read, held⟩

theorem layoutOf_of_shownAt (shown : ShownAt manager tab pane) :
    ∃ layout, manager.layoutOf tab = some layout ∧ pane ∈ collectLeafPaneIds layout := by
  obtain ⟨value, present, layout, read, held⟩ := shown
  exact ⟨layout, layoutOf_eq_some_iff.mpr ⟨value, present, read⟩, held⟩

theorem shownAt_congr {after : SessionManager}
    (same : after.tabLayouts.lookup tab = manager.tabLayouts.lookup tab) :
    ShownAt after tab pane ↔ ShownAt manager tab pane := by
  rw [ShownAt, ShownAt, same]

variable {other : PaneId}

theorem shows_purged {value : Json} (shows : Shows value other) (ne : other ≠ pane) :
    ∃ new, (purgeRevision pane value).apply value = some new ∧ Shows new other := by
  obtain ⟨layout, read, held⟩ := shows
  have kept := panes_removePaneFromLayout pane layout
  have stays : other ∈ (collectLeafPaneIds layout).filter (· ≠ pane) :=
    mem_filter.mpr ⟨held, decide_eq_true ne⟩
  rcases purgeRevision_cases pane value with ⟨none, -⟩ | ⟨layout', read', cases⟩
  · cases none.symm.trans read
  · cases read.symm.trans read'
    rcases cases with ⟨gone, -⟩ | ⟨-, keep⟩ | ⟨new, left, -, write⟩
    · rw [gone] at kept
      rw [← kept] at stays
      exact absurd stays not_mem_nil
    · rw [keep]
      exact ⟨value, rfl, layout, read, held⟩
    · rw [write]
      rw [left, elim_some] at kept
      exact ⟨_, rfl, shows_tabValue.mpr (kept ▸ stays)⟩

variable {new : Json}

theorem points_purged {value : Json} (points : Points value)
    (applied : (purgeRevision pane value).apply value = some new) : Points new := by
  rcases purgeRevision_cases pane value with ⟨-, keep⟩ | ⟨layout, read, cases⟩
  · rw [keep] at applied
    exact some.inj applied ▸ points
  · rcases cases with ⟨-, drop⟩ | ⟨-, keep⟩ | ⟨left, -, -, write⟩
    · rw [drop] at applied
      cases applied
    · rw [keep] at applied
      exact some.inj applied ▸ points
    · rw [write] at applied
      rw [← some.inj applied]
      refine points_tabValue fun active repaired => ?_
      rw [repairActive, or_eq_some_iff] at repaired
      rcases repaired with before | ⟨-, first⟩
      · exact of_decide_eq_true (filter_eq_some_iff.mp before).2
      · exact mem_of_head? first

/-! ### Sections -/

namespace ActiveValid

variable {manager after : SessionManager} {tab : TabId} {value : Json} {pane : PaneId}

section

variable (valid : ActiveValid manager)
include valid

theorem congr (tabs : after.tabLayouts = manager.tabLayouts)
    (active : after.activePaneId = manager.activePaneId) : ActiveValid after := by
  refine ⟨fun pane isActive => ?_, fun tab value held => ?_⟩
  · obtain ⟨tab, shown⟩ := valid.active pane (active ▸ isActive)
    exact ⟨tab, (shownAt_congr (by rw [tabs])).mpr shown⟩
  · exact valid.stored tab value (tabs ▸ held)

theorem setActivePaneId {pane : Option PaneId}
    (shown : ∀ active, pane = some active → ∃ tab, ShownAt manager tab active) :
    ActiveValid (manager.setActivePaneId pane) :=
  ⟨shown, valid.stored⟩

theorem shown_of_covers {kept : PaneId → Prop} (covers : Covers manager tab kept)
    (active : manager.activePaneId = some pane) :
    kept pane ∨ ∃ other, other ≠ tab ∧ ShownAt manager other pane := by
  obtain ⟨shownTab, shown⟩ := valid.active pane active
  by_cases here : shownTab = tab
  · exact covers pane active (here ▸ shown)
  · exact .inr ⟨shownTab, here, shown⟩

theorem updateLayoutLocked (sound : SoundUpdate manager tab value activePaneId) :
    ActiveValid (manager.updateLayoutLocked tab value activePaneId) := by
  have lookup : ∀ other, (manager.updateLayoutLocked tab value activePaneId).tabLayouts.lookup
      other = if other = tab then some value else manager.tabLayouts.lookup other :=
    fun other => insertTabLocked_lookup manager tab value other
  have shown : ∀ pane, (Shows value pane ∨ ∃ other, other ≠ tab ∧ ShownAt manager other pane) →
      ∃ other, ShownAt (manager.updateLayoutLocked tab value activePaneId) other pane := by
    rintro pane (here | ⟨other, ne, there⟩)
    · exact ⟨tab, value, (lookup tab).trans (if_pos rfl), here⟩
    · exact ⟨other, (shownAt_congr ((lookup other).trans (if_neg ne))).mpr there⟩
  have points : Points value := by
    cases activePaneId with
    | none | some => exact sound.1
  refine ⟨fun pane isActive => shown pane ?_, fun other stored held => ?_⟩
  · cases activePaneId with
    | none => exact valid.shown_of_covers sound.2 isActive
    | some given => exact some.inj isActive ▸ sound.2
  · rw [lookup] at held
    split at held
    · exact some.inj held ▸ points
    · exact valid.stored other stored held

theorem insertTabLocked (sound : SoundUpdate manager tab value none) :
    ActiveValid (manager.insertTabLocked tab value) :=
  (valid.updateLayoutLocked sound).congr rfl rfl

theorem removeTabLocked (covers : Covers manager tab fun _ => False) :
    ActiveValid (manager.removeTabLocked tab).1 := by
  refine ⟨fun pane isActive => ?_, fun other stored held => ?_⟩
  · rcases valid.shown_of_covers covers isActive with none | ⟨other, ne, shown⟩
    · exact none.elim
    · exact ⟨other, (shownAt_congr ((removeTabLocked_lookup manager tab other).trans
        (if_neg ne))).mpr shown⟩
  · rw [removeTabLocked_lookup] at held
    split at held
    · cases held
    · exact valid.stored other stored held

theorem purged (lookup : ∀ tab, after.tabLayouts.lookup tab =
      (manager.tabLayouts.lookup tab).bind fun value => (purgeRevision pane value).apply value)
    (active : ∀ other, after.activePaneId = some other →
      manager.activePaneId = some other ∧ other ≠ pane) : ActiveValid after := by
  refine ⟨fun other isActive => ?_, fun tab stored held => ?_⟩
  · obtain ⟨before, ne⟩ := active other isActive
    obtain ⟨tab, value, held, shows⟩ := valid.active other before
    obtain ⟨new, applied, showsNew⟩ := shows_purged shows ne
    exact ⟨tab, new, by rw [lookup, held, bind_some, applied], showsNew⟩
  · rw [lookup] at held
    obtain ⟨value, was, applied⟩ := bind_eq_some_iff.mp held
    exact points_purged (valid.stored tab value was) applied

end

end ActiveValid

theorem activePaneId_collectLayoutCloseLocked (manager : SessionManager) (pane : PaneId)
    (fallbackTab : Bool)
    (active : (manager.collectLayoutCloseLocked pane fallbackTab).1.activePaneId = some other) :
    manager.activePaneId = some other ∧ other ≠ pane := by
  have same : (manager.purgePaneFromLayoutsLocked pane false).1.activePaneId =
      manager.activePaneId :=
    congrArg (·.2.1) (beside_purgePaneFromLayoutsLocked manager pane false)
  simp only [collectLayoutCloseLocked] at active
  rw [same] at active
  split at active
  · cases active
  next inactive =>
    refine ⟨active, ?_⟩
    rintro rfl
    exact inactive active

theorem activePaneId_removeSessionLocked {closed : SessionManager} {expected : Option SessionHandle}
    {plan : SessionManager.ClosePlan}
    (removed : manager.removeSessionLocked pane expected = some (closed, plan))
    (active : closed.activePaneId = some other) :
    manager.activePaneId = some other ∧ other ≠ pane := by
  unfold removeSessionLocked at removed
  split at removed
  · cases removed
  · split at removed
    · cases removed
    · let without : SessionManager := { manager with
        sessions := manager.sessions.erase pane
        unownedSince := manager.unownedSince.erase pane }
      have same : closed = (without.collectLayoutCloseLocked pane true).1 :=
        (congrArg Prod.fst (some.inj removed)).symm
      rw [same] at active
      exact activePaneId_collectLayoutCloseLocked without pane true active

theorem activePaneId_closePane_of_some
    (active : (manager.closePane pane).1.activePaneId = some other) :
    manager.activePaneId = some other ∧ other ≠ pane := by
  unfold closePane at active
  split at active
  next closed plan removed =>
    exact activePaneId_removeSessionLocked removed active
  · exact activePaneId_collectLayoutCloseLocked manager pane false active

namespace ActiveValid

variable {manager : SessionManager} {tab : TabId} {pane : PaneId}

section

variable (valid : ActiveValid manager)
include valid

theorem closePane (pane : PaneId) : ActiveValid (manager.closePane pane).1 :=
  valid.purged (lookup_closePane manager pane) fun _ => activePaneId_closePane_of_some

theorem removeSessionLocked {closed : SessionManager} {expected : Option SessionHandle}
    {plan : SessionManager.ClosePlan}
    (removed : manager.removeSessionLocked pane expected = some (closed, plan)) :
    ActiveValid closed :=
  valid.purged (removeSessionLocked_spec removed).2
    fun _ => activePaneId_removeSessionLocked removed

theorem closeSession (pane : PaneId) (expected : Option SessionHandle) :
    ActiveValid (manager.closeSession pane expected).1 := by
  unfold SessionManager.closeSession
  split
  next closed plan removed =>
    exact valid.removeSessionLocked removed
  · exact valid

theorem createSession (pane : PaneId) (spawned : Except String SessionRecord) :
    ActiveValid (manager.createSession pane spawned).1 := by
  rcases createSession_cases manager pane spawned with ⟨-, error, failed⟩ | ⟨sess, -, -, made⟩
  · rw [failed]
    exact valid
  · rw [made]
    exact valid.congr rfl rfl

theorem renameTab (tab : TabId) (title : String) : ActiveValid (manager.renameTab tab title).1 := by
  unfold SessionManager.renameTab
  split
  next value held =>
    split
    · have layout : (value.set "title" (.str title)).get "layout" = value.get "layout" :=
        Json.get_set_of_ne (by decide) _ _
      have active : (value.set "title" (.str title)).getStr "active_pane_id" =
          value.getStr "active_pane_id" := Json.getStr_set_of_ne (by decide) _ _
      have shows : ∀ pane, Shows (value.set "title" (.str title)) pane ↔ Shows value pane :=
        fun pane => by rw [Shows, Shows, layout]
      have sound : SoundUpdate manager tab (value.set "title" (.str title)) none := by
        refine ⟨fun pane points => ?_, ?_⟩
        · exact (shows pane).mpr (valid.stored tab value held pane (active ▸ points))
        · rintro pane - ⟨other, found, shown⟩
          cases found.symm.trans held
          exact .inl ((shows pane).mpr shown)
      exact (valid.insertTabLocked sound).congr rfl rfl
    · exact valid
  · exact valid

theorem tabList (live : ∀ pane, manager.activePaneId = some pane → ∃ tab value,
      manager.tabLayouts.lookup tab = some value ∧ manager.stale value = false ∧
        Shows value pane) : ActiveValid manager.tabList.1 := by
  have lookup := lookup_pruneTabs manager
  have active : manager.pruneTabs.activePaneId = manager.activePaneId :=
    congrArg (·.2.1) (beside_pruneTabs manager)
  refine ⟨fun pane isActive => ?_, fun tab stored held => ?_⟩
  · obtain ⟨tab, value, held, fresh, shows⟩ := live pane (active ▸ isActive)
    refine ⟨tab, value, ?_, shows⟩
    rw [SessionManager.tabList, lookup, held, filter_some, fresh]
    rfl
  · rw [SessionManager.tabList, lookup] at held
    exact valid.stored tab stored (filter_eq_some_iff.mp held).1

theorem purgePane {skipMatchingTab : Bool} (stays : manager.activePaneId = some pane →
      skipMatchingTab = true ∧ ShownAt manager pane pane) :
    ActiveValid (manager.purgePaneFromLayoutsLocked pane skipMatchingTab).1 := by
  have lookup := lookup_purgePaneFromLayoutsLocked manager pane skipMatchingTab
  have active : (manager.purgePaneFromLayoutsLocked pane skipMatchingTab).1.activePaneId =
      manager.activePaneId :=
    congrArg (·.2.1) (beside_purgePaneFromLayoutsLocked manager pane skipMatchingTab)
  refine ⟨fun other isActive => ?_, fun tab stored held => ?_⟩
  · rw [active] at isActive
    by_cases same : other = pane
    · -- The tab of the name of the pane is skipped.
      subst same
      obtain ⟨rfl, value, held, shows⟩ := stays isActive
      refine ⟨other, value, ?_, shows⟩
      rw [lookup, held, bind_some, purgeRevise]
      simp [Revision.apply]
    · obtain ⟨tab, value, held, shows⟩ := valid.active other isActive
      refine ⟨tab, ?_⟩
      unfold ShownAt
      rw [lookup, held, bind_some, purgeRevise]
      split
      · exact ⟨value, rfl, shows⟩
      · exact shows_purged shows same
  · rw [lookup] at held
    obtain ⟨value, was, applied⟩ := bind_eq_some_iff.mp held
    rw [purgeRevise] at applied
    split at applied
    · exact some.inj applied ▸ valid.stored tab value was
    · exact points_purged (valid.stored tab value was) applied

theorem step {op : Operation} (sound : SoundOperation manager op) :
    ActiveValid (manager.step op) := by
  cases op with
  | insertTab tab value => exact valid.insertTabLocked sound
  | removeTab tab => exact valid.removeTabLocked sound
  | updateLayout tab value activePaneId => exact valid.updateLayoutLocked sound
  | renameTab tab title => exact valid.renameTab tab title
  | reorderTabs tabs =>
    simp only [SessionManager.step, reorderTabs]
    split
    · exact valid
    · split
      · exact valid
      · exact valid.congr rfl rfl
  | setActivePaneId pane => exact valid.setActivePaneId sound
  | insertTabForSession pane sess tab value activePaneId =>
    simp only [SessionManager.step, insertTabForSession]
    split
    next current =>
      exact valid.updateLayoutLocked (sound current)
    · exact valid
  | insertSession pane sess =>
    simp only [SessionManager.step, insertSession]
    split
    · exact valid
    · split
      · exact valid
      · exact valid.congr rfl rfl
  | reserveSession pane =>
    simp only [SessionManager.step, reserveSession]
    split
    · exact valid
    · exact valid.congr rfl rfl
  | publish pane sess =>
    simp only [SessionManager.step, publish]
    split
    · exact valid
    · exact valid.congr rfl rfl
  | dropReservation pane => exact valid.congr rfl rfl
  | closeSession pane expected => exact valid.closeSession pane expected
  | closePane pane => exact valid.closePane pane
  | purgePane pane skipMatchingTab => exact valid.purgePane sound
  | tabList => exact valid.tabList sound

end

end ActiveValid

/-! ### Insertions -/

variable {target : PaneId} {subtree : Json}

theorem mem_of_adds {old : Json} (adds : Adds target (bareLeaves subtree) old new)
    (held : pane ∈ collectLeafPaneIds old) : pane ∈ collectLeafPaneIds new := by
  rw [← panes_bareLeaves, mem_filterMap] at held ⊢
  obtain ⟨leaf, mem, named⟩ := held
  have positive := count_pos_iff.mpr mem
  refine ⟨leaf, count_pos_iff.mp ?_, named⟩
  rw [adds leaf]
  omega

theorem mem_of_adds_added {old : Json} (adds : Adds target (bareLeaves subtree) old new)
    (there : target ∈ collectLeafPaneIds old) (held : pane ∈ collectLeafPaneIds subtree) :
    pane ∈ collectLeafPaneIds new := by
  rw [← panes_bareLeaves, mem_filterMap] at held ⊢
  obtain ⟨leaf, mem, named⟩ := held
  have positive := Nat.mul_pos (count_pos_iff.mpr there) (count_pos_iff.mpr mem)
  refine ⟨leaf, count_pos_iff.mp ?_, named⟩
  rw [adds leaf]
  omega

theorem adds_insertSubtree {side splitId : String} (formed : WellFormed layout)
    (inserted : insertSubtreeIntoLayout target side splitId subtree layout = some new) :
    Adds target (bareLeaves subtree) layout new := by
  obtain ⟨other, insertedOther, adds⟩ :=
    insertSubtreeIntoLayout_adds target side splitId subtree formed
  exact some.inj (insertedOther.symm.trans inserted) ▸ adds

theorem panes_newLeaf (pane : PaneId) (title shellType : Option String) :
    collectLeafPaneIds (newLeaf pane title shellType) = [pane] := by
  rw [collectLeafPaneIds_eq, if_pos (by cases shellType <;> rfl)]
  cases shellType <;> rfl

theorem insertPaneIntoLayoutInner_adds (target : PaneId) (side splitId : String)
    (pane : PaneId) (title shellType : Option String) (formed : WellFormed layout)
    (inserted : insertPaneIntoLayoutInner target side splitId pane title shellType layout =
      some new) : Adds target (bareLeaves (newLeaf pane title shellType)) layout new := by
  have wraps : ∀ node, node.getStr "type" = some "leaf" → node.getStr "paneId" = some target →
      (bareLeaves (halves splitId side node (newLeaf pane title shellType))).Perm
        (node.without "ratio" :: bareLeaves (newLeaf pane title shellType)) := by
    intro node type named
    have single : bareLeaves node = [node.without "ratio"] := by
      rw [bareLeaves, leaves_of_leaf type named, map_singleton]
    rw [bareLeaves_halves, single, singleton_append]
  obtain ⟨other, insertedOther, adds⟩ := insertAtLeaf_adds wraps formed
  exact some.inj (insertedOther.symm.trans inserted) ▸ adds

theorem panes_splitLayout {request : SplitPaneRequest} {splitId : String} {sess : SessionRecord}
    (formed : WellFormed layout) (held : request.paneId ∈ collectLeafPaneIds layout)
    (inserted : splitLayout layout request splitId pane sess = some new) :
    pane ∈ collectLeafPaneIds new ∧
      ∀ other ∈ collectLeafPaneIds layout, other ∈ collectLeafPaneIds new := by
  have adds : ∃ title shellType,
      Adds request.paneId (bareLeaves (newLeaf pane title shellType)) layout new := by
    unfold splitLayout at inserted
    split at inserted
    · exact ⟨_, _, insertPaneIntoLayoutInner_adds _ _ _ _ _ _ formed inserted⟩
    · exact ⟨_, _, insertPaneIntoLayoutInner_adds _ _ _ _ _ _ formed inserted⟩
  obtain ⟨title, shellType, adds⟩ := adds
  exact ⟨mem_of_adds_added adds held (by rw [panes_newLeaf]; exact mem_singleton_self pane),
    fun other => mem_of_adds adds⟩

/-! ### Requests -/

namespace ActiveValid

variable {manager : SessionManager} {tab : TabId} {pane : PaneId}

variable {layout : Json}

section

variable (valid : ActiveValid manager)
include valid

theorem insertGrown (found : manager.layoutOf tab = some layout)
    (grown : ∀ other ∈ collectLeafPaneIds layout, other ∈ collectLeafPaneIds new)
    (held : pane ∈ collectLeafPaneIds new) :
    ActiveValid (manager.insertTabLocked tab (tabValue new (some pane))) := by
  refine valid.insertTabLocked ⟨points_tabValue ?_, fun other _ shown => .inl ?_⟩
  · rintro other ⟨⟩
    exact held
  · obtain ⟨before, foundBefore, inBefore⟩ := layoutOf_of_shownAt shown
    cases found.symm.trans foundBefore
    exact shows_tabValue.mpr (grown other inBefore)

theorem rewritten {after : SessionManager} (active : after.activePaneId = manager.activePaneId)
    (shown : ∀ tab pane, ShownAt manager tab pane → ∃ other, ShownAt after other pane)
    (stored : ∀ tab value, after.tabLayouts.lookup tab = some value → Points value) :
    ActiveValid after := by
  refine ⟨fun pane isActive => ?_, stored⟩
  obtain ⟨tab, before⟩ := valid.active pane (active ▸ isActive)
  exact shown tab pane before

theorem splitPane (sound : SoundLayout manager tab) (request : SplitPaneRequest) (pane : PaneId)
    (splitId : String) (spawned : Except String SessionRecord) :
    ActiveValid (Stored.splitPane manager tab request pane splitId spawned).1 := by
  unfold Stored.splitPane
  split
  · exact valid
  next layout loaded =>
    obtain ⟨found, held⟩ := loadWithPane_eq_ok_iff.mp loaded
    have tabs := tabLayouts_createSession manager pane spawned
    have created := valid.createSession pane spawned
    split
    next failed error same =>
      rw [same] at created
      exact created
    next made sess same =>
      rw [same] at created tabs
      have foundMade : made.layoutOf tab = some layout := by
        rw [layoutOf, tabs]
        exact found
      split
      · exact created.closeSession pane none
      next new split =>
        obtain ⟨added, grown⟩ := panes_splitLayout (sound layout found) held split
        exact created.insertGrown foundMade grown added

theorem insertNonTerminalPane (sound : SoundLayout manager tab) (target : PaneId)
    (side splitId : String) {leaf : Json} (named : pane ∈ collectLeafPaneIds leaf) :
    ActiveValid
      (Stored.insertNonTerminalPane manager tab target side splitId leaf pane).1 := by
  unfold Stored.insertNonTerminalPane
  generalize planned : (do
    let layout ← loadWithPane manager "tab" "pane not found in tab" tab target
    let new ← orFail "failed to update layout"
      (insertSubtreeIntoLayout target side splitId leaf layout)
    .ok [.insert tab new pane] : Except Rejection (List Write)) = plan
  cases plan with
  | error rejection => exact valid
  | ok writes =>
    obtain ⟨layout, loaded, rest⟩ := bind_eq_ok_iff.mp planned
    obtain ⟨new, inserted, done⟩ := bind_eq_ok_iff.mp rest
    obtain ⟨found, held⟩ := loadWithPane_eq_ok_iff.mp loaded
    cases done
    have adds := adds_insertSubtree (sound layout found) (orFail_eq_ok_iff.mp inserted)
    exact valid.insertGrown found (fun other => mem_of_adds adds)
      (mem_of_adds_added adds held named)

end

theorem panes_left {left : Json} (removed : removePaneFromLayout pane layout = some left) :
    collectLeafPaneIds left = (collectLeafPaneIds layout).filter (· ≠ pane) := by
  have kept := panes_removePaneFromLayout pane layout
  rwa [removed, elim_some] at kept

theorem firstLeafId_mem {held fallback : PaneId} (mem : held ∈ collectLeafPaneIds layout) :
    (firstLeafId layout).getD fallback ∈ collectLeafPaneIds layout := by
  rw [firstLeafId_leaves]
  cases leaves : collectLeafPaneIds layout with
  | nil =>
    rw [leaves] at mem
    exact absurd mem not_mem_nil
  | cons first rest => exact mem_cons_self

theorem points_left {left : Json} {fallback : PaneId}
    (removed : removePaneFromLayout pane layout = some left)
    (other : ∃ other ∈ collectLeafPaneIds layout, other ≠ pane) :
    Points (tabValue left (some ((firstLeafId left).getD fallback))) := by
  refine points_tabValue ?_
  rintro active ⟨⟩
  obtain ⟨stays, mem, ne⟩ := other
  have nonempty : stays ∈ collectLeafPaneIds left := by
    rw [panes_left removed]
    exact mem_filter.mpr ⟨mem, decide_eq_true ne⟩
  exact firstLeafId_mem nonempty

theorem panes_extracted {leaf : Json} (extracted : extractLeafFromLayout pane layout = some leaf) :
    pane ∈ collectLeafPaneIds leaf := by
  rw [extractLeafFromLayout_leaves] at extracted
  have named : leaf.getStr "paneId" = some pane := by
    simpa using find?_some extracted
  rw [collectLeafPaneIds_leaves, leaves_of_mem_leaves (mem_of_find?_eq_some extracted),
    filterMap_cons_some named]
  exact mem_cons_self

section

variable (valid : ActiveValid manager)
include valid

theorem movePane {destination : TabId} {request : MovePaneRequest}
    (sound : SoundLayout manager destination) (others : ∀ pane, request.sourcePaneId = some pane →
      HasOther manager request.sourceTabId pane) (splitId : String) :
    ActiveValid (Stored.movePane manager destination request splitId).1 := by
  unfold Stored.movePane
  cases planned : planMove manager destination request splitId with
  | error rejection => exact valid
  | ok writes =>
    obtain ⟨ne, sourceLayout, layout, source, found, held, moves⟩ :=
      planMove_eq_ok_iff.mp planned
    unfold Moves at moves
    cases mode : request.sourcePaneId with
    | none =>
      rw [mode] at moves
      obtain ⟨new, inserted, rfl⟩ := moves
      have adds := adds_insertSubtree (sound layout found) inserted
      have after := lookup_remove_insert manager request.sourceTabId destination new
        ((firstLeafId new).getD request.targetPaneId)
      refine valid.rewritten rfl (fun tab pane shown => ?_) (fun tab stored present => ?_)
      · by_cases here : tab = request.sourceTabId ∨ tab = destination
        · refine ⟨destination, _, (after destination).trans (if_pos rfl), shows_tabValue.mpr ?_⟩
          obtain ⟨before, foundBefore, inBefore⟩ := layoutOf_of_shownAt shown
          rcases here with rfl | rfl
          · cases source.symm.trans foundBefore
            exact mem_of_adds_added adds held inBefore
          · cases found.symm.trans foundBefore
            exact mem_of_adds adds inBefore
        · obtain ⟨notSource, notDestination⟩ := not_or.mp here
          exact ⟨tab, (shownAt_congr ((after tab).trans
            ((if_neg notDestination).trans (if_neg notSource)))).mpr shown⟩
      · have present' := (after tab).symm.trans present
        split at present'
        · cases present'
          refine points_tabValue ?_
          rintro active ⟨⟩
          exact firstLeafId_mem (mem_of_adds adds held)
        · split at present'
          · cases present'
          · exact valid.stored tab stored present'
    | some moved =>
      rw [mode] at moves
      obtain ⟨leaf, left, new, ⟨-, -, extracted, removed⟩, inserted, rfl⟩ := moves
      have adds := adds_insertSubtree (sound layout found) inserted
      have after := lookup_insert_insert manager request.sourceTabId destination left new
        ((firstLeafId left).getD request.targetPaneId) moved
      have landed := mem_of_adds_added adds held (panes_extracted extracted)
      refine valid.rewritten rfl (fun tab pane shown => ?_) (fun tab stored present => ?_)
      · obtain ⟨before, foundBefore, inBefore⟩ := layoutOf_of_shownAt shown
        by_cases atDestination : tab = destination
        · subst atDestination
          cases found.symm.trans foundBefore
          exact ⟨tab, _, (after tab).trans (if_pos rfl),
            shows_tabValue.mpr (mem_of_adds adds inBefore)⟩
        · by_cases atSource : tab = request.sourceTabId
          · subst atSource
            cases source.symm.trans foundBefore
            -- The moved pane is in the destination, the others are left.
            by_cases here : pane = moved
            · exact ⟨destination, _, (after destination).trans (if_pos rfl),
                shows_tabValue.mpr (here ▸ landed)⟩
            · refine ⟨request.sourceTabId, _, (after request.sourceTabId).trans
                ((if_neg atDestination).trans (if_pos rfl)), shows_tabValue.mpr ?_⟩
              rw [panes_left removed]
              exact mem_filter.mpr ⟨inBefore, decide_eq_true here⟩
          · exact ⟨tab, (shownAt_congr ((after tab).trans
              ((if_neg atDestination).trans (if_neg atSource)))).mpr shown⟩
      · have present' := (after tab).symm.trans present
        split at present'
        · cases present'
          refine points_tabValue ?_
          rintro active ⟨⟩
          exact landed
        · split at present'
          · cases present'
            exact points_left removed (others moved mode sourceLayout source)
          · exact valid.stored tab stored present'

theorem extractPane {source newTab : TabId} (vacant : manager.tabLayouts.lookup newTab = none)
    (others : HasOther manager source pane) :
    ActiveValid (Stored.extractPane manager source pane newTab).1 := by
  unfold Stored.extractPane
  cases planned : planExtract manager source pane newTab with
  | error rejection => exact valid
  | ok writes =>
    obtain ⟨layout, leaf, left, found, ⟨-, -, extracted, removed⟩, rfl⟩ :=
      planExtract_eq_ok_iff.mp planned
    have after := lookup_insert_insert manager source newTab left leaf
      ((firstLeafId left).getD pane) pane
    have taken := panes_extracted extracted
    refine valid.rewritten rfl (fun tab other shown => ?_) (fun tab stored held => ?_)
    · have away : tab ≠ newTab := by
        rintro rfl
        obtain ⟨value, before, -⟩ := shown
        cases vacant.symm.trans before
      by_cases atSource : tab = source
      · subst atSource
        obtain ⟨was, foundBefore, inBefore⟩ := layoutOf_of_shownAt shown
        cases found.symm.trans foundBefore
        by_cases here : other = pane
        · exact ⟨newTab, _, (after newTab).trans (if_pos rfl), shows_tabValue.mpr (here ▸ taken)⟩
        · refine ⟨tab, _, (after tab).trans ((if_neg away).trans (if_pos rfl)),
            shows_tabValue.mpr ?_⟩
          rw [panes_left removed]
          exact mem_filter.mpr ⟨inBefore, decide_eq_true here⟩
      · exact ⟨tab, (shownAt_congr ((after tab).trans
          ((if_neg away).trans (if_neg atSource)))).mpr shown⟩
    · have present' := (after tab).symm.trans held
      split at present'
      · cases present'
        refine points_tabValue ?_
        rintro active ⟨⟩
        exact taken
      · split at present'
        · cases present'
          exact points_left removed (others layout found)
        · exact valid.stored tab stored present'

theorem store (tab : TabId) (held : pane ∈ collectLeafPaneIds layout) :
    ActiveValid (manager.updateLayoutLocked tab (tabValue layout (some pane)) (some pane)) := by
  refine valid.updateLayoutLocked ⟨points_tabValue ?_, .inl (shows_tabValue.mpr held)⟩
  rintro active ⟨⟩
  exact held

theorem activatePane (tab : TabId) (pane : PaneId) :
    ActiveValid (Stored.activatePane manager tab pane).1 := by
  unfold Stored.activatePane
  split
  · exact valid
  · dsimp only
    split
    next held =>
      exact valid.store tab held
    · exact valid

theorem updateLayout
    (held : (manager.tabLayouts.lookup tab).isSome → pane ∈ collectLeafPaneIds layout) :
    ActiveValid (Stored.updateLayout manager tab layout pane).1 := by
  unfold Stored.updateLayout
  split
  next present =>
    exact valid.store tab (held present)
  · exact valid

theorem request {op : TabOperation} (sound : SoundRequest manager op) :
    ActiveValid (op.apply manager) := by
  cases op with
  | manage op => exact valid.step sound
  | splitPane tab request pane splitId spawned =>
    exact valid.splitPane sound request pane splitId spawned
  | insertNonTerminalPane tab target side splitId leaf pane =>
    exact valid.insertNonTerminalPane sound.1 target side splitId sound.2
  | movePane destination request splitId => exact valid.movePane sound.1 sound.2 splitId
  | extractPane source pane newTab => exact valid.extractPane sound.1 sound.2
  | activatePane tab pane => exact valid.activatePane tab pane
  | updateLayout tab layout activePaneId => exact valid.updateLayout sound

end

end ActiveValid

/-! ### Messages keep the active panes valid -/

theorem isPaneInAnyTab_iff : isPaneInAnyTab manager pane = true ↔
      ∃ tab layout, manager.layoutOf tab = some layout ∧ layoutHasPane pane layout = true := by
  rw [isPaneInAnyTab, List.any_eq_true]
  constructor
  · rintro ⟨⟨tab, value⟩, mem, named⟩
    cases read : value.get "layout" with
    | none =>
      rw [read] at named
      cases named
    | some layout =>
      rw [read] at named
      exact ⟨tab, layout, layoutOf_eq_some_iff.mpr
        ⟨value, lookup_eq_some_iff.mpr mem, read⟩, named⟩
  · rintro ⟨tab, layout, found, named⟩
    obtain ⟨value, held, read⟩ := layoutOf_eq_some_iff.mp found
    refine ⟨⟨tab, value⟩, lookup_eq_some_iff.mp held, ?_⟩
    rw [read]
    exact named

namespace ActiveValid

variable {manager : SessionManager} {tab : TabId} {pane : PaneId}

theorem tabLeafFor_shown (valid : ActiveValid manager)
    (meant : tabLeafFor manager tab = some pane) : ShownAt manager tab pane := by
  obtain ⟨value, held, read⟩ := bind_eq_some_iff.mp meant
  refine ⟨value, held, ?_⟩
  rcases or_eq_some_iff.mp read with active | ⟨-, first⟩
  · exact valid.stored tab value held pane active
  · obtain ⟨layout, found, firstLeaf⟩ := bind_eq_some_iff.mp first
    rw [firstLeafId_leaves] at firstLeaf
    exact ⟨layout, found, mem_of_head? firstLeaf⟩

theorem activateTab (valid : ActiveValid manager)
    (atLeaves : ∀ tab layout, manager.layoutOf tab = some layout →
      layoutHasPane (meantLeaf manager pane) layout = true →
        meantLeaf manager pane ∈ collectLeafPaneIds layout) :
    ActiveValid ((SyncOperation.activateTab pane).apply manager) := by
  rw [SyncOperation.apply]
  split
  next leaf resolved =>
    rw [resolveActivateLeaf, ite_none_right_eq_some] at resolved
    obtain ⟨somewhere, same⟩ := resolved
    cases same
    obtain ⟨tab, layout, found, named⟩ := isPaneInAnyTab_iff.mp somewhere
    refine valid.setActivePaneId ?_
    rintro active ⟨⟩
    exact ⟨tab, shownAt_of_layoutOf found (atLeaves tab layout found named)⟩
  · exact valid

theorem confirm (valid : ActiveValid manager) (selected : Option TabId) :
    ActiveValid ((SyncOperation.confirm selected).apply manager) := by
  rw [SyncOperation.apply]
  split
  next leaf meant =>
    obtain ⟨tab, -, meantBy⟩ := bind_eq_some_iff.mp meant
    refine valid.setActivePaneId ?_
    rintro active ⟨⟩
    exact ⟨tab, valid.tabLeafFor_shown meantBy⟩
  · exact valid

end ActiveValid

/-! ### Closing the panes of a tab -/

/-- Some panes have been closed: none of them is active, and the others are where they were. -/
structure Closed (closed : PaneId → Prop) (manager after : SessionManager) : Prop where
  active : ∀ pane, after.activePaneId = some pane → manager.activePaneId = some pane ∧ ¬closed pane
  shrinks : ∀ tab pane, ShownAt after tab pane → ShownAt manager tab pane
  stays : ∀ tab pane, ¬closed pane → ShownAt manager tab pane → ShownAt after tab pane

namespace Closed

variable {first second closed : PaneId → Prop} {manager middle after : SessionManager}

theorem none (manager : SessionManager) : Closed (fun _ => False) manager manager :=
  ⟨fun _ active => ⟨active, not_false⟩, fun _ _ => id, fun _ _ _ => id⟩

theorem congr (done : Closed first manager after) (same : ∀ pane, first pane ↔ second pane) :
    Closed second manager after := by
  rwa [← funext fun pane => propext (same pane)]

theorem trans (earlier : Closed first manager middle) (later : Closed second middle after) :
    Closed (fun pane => first pane ∨ second pane) manager after := by
  refine ⟨fun pane active => ?_, fun tab pane shown => ?_, fun tab pane open' shown => ?_⟩
  · obtain ⟨atMiddle, notSecond⟩ := later.active pane active
    obtain ⟨atStart, notFirst⟩ := earlier.active pane atMiddle
    exact ⟨atStart, not_or.mpr ⟨notFirst, notSecond⟩⟩
  · exact earlier.shrinks tab pane (later.shrinks tab pane shown)
  · obtain ⟨notFirst, notSecond⟩ := not_or.mp open'
    exact later.stays tab pane notSecond (earlier.stays tab pane notFirst shown)

theorem of_purge (lookup : ∀ tab, after.tabLayouts.lookup tab =
      (manager.tabLayouts.lookup tab).bind fun value => (purgeRevision pane value).apply value)
    (active : ∀ other, after.activePaneId = some other →
      manager.activePaneId = some other ∧ other ≠ pane) : Closed (· = pane) manager after := by
  refine ⟨active, ?_, ?_⟩
  · rintro tab other ⟨new, present, layout, read, held⟩
    rw [lookup] at present
    obtain ⟨value, was, applied⟩ := bind_eq_some_iff.mp present
    obtain ⟨before, readBefore, removed⟩ := removed_of_purgeRevision applied read
    have left := panes_removePaneFromLayout pane before
    rw [removed, elim_some] at left
    exact ⟨value, was, before, readBefore, mem_of_mem_filter (left ▸ held)⟩
  · rintro tab other ne ⟨value, present, shows⟩
    obtain ⟨new, applied, showsNew⟩ := shows_purged shows ne
    exact ⟨new, by rw [lookup, present, bind_some, applied], showsNew⟩

theorem closePanes (manager : SessionManager) (panes : List PaneId) : Closed (· ∈ panes) manager
      (panes.foldl (fun manager pane => (manager.closePane pane).1) manager) := by
  induction panes generalizing manager with
  | nil => exact (none manager).congr fun pane => by simp
  | cons pane rest ih =>
    have one : Closed (· = pane) manager (manager.closePane pane).1 :=
      of_purge (lookup_closePane manager pane) fun _ => activePaneId_closePane_of_some
    exact (one.trans (ih (manager.closePane pane).1)).congr
      fun other => mem_cons.symm

theorem closeSession (manager : SessionManager) (pane : PaneId) :
    Closed (fun other => other = pane ∧ (manager.sessions.lookup other).isSome = true) manager
        (manager.closeSession pane Option.none).1 ∧
      ∀ other, ((manager.closeSession pane Option.none).1.sessions.lookup other).isSome = true ↔
        other ≠ pane ∧ (manager.sessions.lookup other).isSome = true := by
  cases removed : manager.removeSessionLocked pane Option.none with
  | none =>
    have absent : manager.sessions.lookup pane = Option.none := by
      unfold removeSessionLocked at removed
      split at removed
      · assumption
      · cases removed
    have same : (manager.closeSession pane Option.none).1 = manager := by
      rw [SessionManager.closeSession, removed]
    rw [same]
    refine ⟨(none manager).congr fun other => ?_, fun other => ?_⟩
    · refine iff_of_false not_false ?_
      rintro ⟨rfl, live⟩
      rw [absent] at live
      cases live
    · refine ⟨fun live => ⟨?_, live⟩, fun live => live.2⟩
      rintro rfl
      rw [absent] at live
      cases live
  | some answer =>
    obtain ⟨closed, plan⟩ := answer
    have same : (manager.closeSession pane Option.none).1 = closed := by
      rw [SessionManager.closeSession, removed]
    have live : (manager.sessions.lookup pane).isSome = true := by
      unfold removeSessionLocked at removed
      split at removed
      · cases removed
      next session held =>
        rw [held]
        rfl
    obtain ⟨sessions, tabs⟩ := removeSessionLocked_spec removed
    rw [same]
    refine ⟨(of_purge tabs fun _ => activePaneId_removeSessionLocked removed).congr
      fun other => ⟨?_, And.left⟩, fun other => ?_⟩
    · rintro rfl
      exact ⟨rfl, live⟩
    · rw [sessions, lookup_erase]
      by_cases here : other = pane
      · simp [here]
      · simp [here]

theorem closeSessions (manager : SessionManager) (panes : List PaneId) :
    Closed (fun pane => pane ∈ panes ∧ (manager.sessions.lookup pane).isSome = true) manager
      (panes.foldl (fun manager pane => (manager.closeSession pane Option.none).1) manager) := by
  induction panes generalizing manager with
  | nil => exact (none manager).congr fun pane => by simp
  | cons pane rest ih =>
    obtain ⟨one, sessions⟩ := closeSession manager pane
    refine (one.trans (ih _)).congr fun other => ?_
    rw [sessions, mem_cons]
    constructor
    · rintro (⟨rfl, live⟩ | ⟨later, -, live⟩)
      · exact ⟨.inl rfl, live⟩
      · exact ⟨.inr later, live⟩
    · rintro ⟨here | later, live⟩
      · exact .inl ⟨here, live⟩
      · by_cases same : other = pane
        · exact .inl ⟨same, live⟩
        · exact .inr ⟨later, same, live⟩

end Closed

theorem mem_leafIdsOf : pane ∈ leafIdsOf manager tab ↔ ShownAt manager tab pane := by
  rw [leafIdsOf]
  constructor
  · intro mem
    cases found : manager.layoutOf tab with
    | none =>
      rw [found] at mem
      exact absurd mem not_mem_nil
    | some layout =>
      rw [found] at mem
      exact shownAt_of_layoutOf found mem
  · intro shown
    obtain ⟨layout, found, held⟩ := layoutOf_of_shownAt shown
    rw [found]
    exact held

namespace ActiveValid

variable {manager : SessionManager} {tab : TabId}

theorem foldl (step : SessionManager → PaneId → SessionManager)
    (keeps : ∀ manager pane, ActiveValid manager → ActiveValid (step manager pane))
    (panes : List PaneId) (valid : ActiveValid manager) : ActiveValid (panes.foldl step manager) := by
  induction panes generalizing manager with
  | nil => exact valid
  | cons pane rest ih => exact ih (keeps manager pane valid)

theorem syncCloseTab (valid : ActiveValid manager) (tab : TabId) :
    ActiveValid ((SyncOperation.syncCloseTab tab).apply manager) := by
  have done := Closed.closePanes manager (leafIdsOf manager tab)
  have kept := valid.foldl _ (fun manager pane valid => valid.closePane pane)
    (leafIdsOf manager tab)
  refine kept.removeTabLocked ?_
  intro pane active shown
  exact absurd (mem_leafIdsOf.mpr (done.shrinks tab pane shown)) (done.active pane active).2

theorem closeTab (valid : ActiveValid manager)
    (covers : Covers manager tab fun pane => (manager.sessions.lookup pane).isSome = true) :
    ActiveValid ((SyncOperation.closeTab tab).apply manager) := by
  have done := Closed.closeSessions manager (leafIdsOf manager tab)
  have kept := valid.foldl _ (fun manager pane valid => valid.closeSession pane none)
    (leafIdsOf manager tab)
  refine kept.removeTabLocked ?_
  intro pane active shown
  obtain ⟨before, unclosed⟩ := done.active pane active
  have here := done.shrinks tab pane shown
  rcases covers pane before here with live | ⟨other, ne, there⟩
  · exact absurd ⟨mem_leafIdsOf.mpr here, live⟩ unclosed
  · exact .inr ⟨other, ne, done.stays other pane unclosed there⟩

theorem message (valid : ActiveValid manager) {op : SyncOperation}
    (sound : Sound manager op) : ActiveValid (op.apply manager) := by
  cases op with
  | tabs op => exact valid.request sound
  | activateTab pane => exact valid.activateTab sound
  | createTab layout tab pane | updateLayout tab layout activePaneId => exact valid.store tab sound
  | closeTab tab => exact valid.closeTab sound
  | syncCloseTab tab => exact valid.syncCloseTab tab
  | confirm selected => exact valid.confirm selected

end ActiveValid

/-! ### Whole runs -/

/-- If all operations meet the condition, the active pane of the manager is a leaf of some tab, and
that of each tab a leaf of its own. -/
theorem active_panes_are_leaves (operations : List SyncOperation)
    (sound : Runs.Careful SyncOperation.apply Sound {} operations) :
    ActiveValid (Runs.run SyncOperation.apply {} operations) :=
  sound.kept ActiveValid (fun _ _ valid allowed => valid.message allowed)
    ⟨nofun, fun _ _ present => by cases present⟩

/-- A client creates a tab, splits its pane and closes the new one again. -/
theorem active_panes_are_leaves_closed : ActiveValid (Runs.run SyncOperation.apply {}
      [.createTab (plainLeaf "p1") "t1" none,
        .updateLayout "t1" (halves "s1" "horizontal" (plainLeaf "p1") (plainLeaf "p2")) "p2",
        .tabs (.manage (.closePane "p2"))]) := by
  have first : createdLeaf (plainLeaf "p1") "t1" none ∈ collectLeafPaneIds (plainLeaf "p1") := by
    decide +kernel
  have second : "p2" ∈ collectLeafPaneIds
      (halves "s1" "horizontal" (plainLeaf "p1") (plainLeaf "p2")) := by decide +kernel
  exact active_panes_are_leaves _ ⟨first, second, trivial, trivial⟩

/-- A client stores a layout with an active pane that is nowhere. -/
theorem ghost_is_active :
    let after := Runs.run SyncOperation.apply {}
      [.createTab (plainLeaf "p1") "t1" none, .updateLayout "t1" (plainLeaf "p1") "ghost"]
    after.activePaneId = some "ghost" ∧ ¬ActiveValid after := by
  refine ⟨rfl, fun valid => ?_⟩
  have stored := valid.stored "t1" (tabValue (plainLeaf "p1") (some "ghost"))
    (lookup_insert _ _ _ _) "ghost" rfl
  have missing : "ghost" ∉ collectLeafPaneIds (plainLeaf "p1") := by decide +kernel
  exact missing (shows_tabValue.mp stored)

end Dinotty.Tabs.Stored
