/-
This file is the session manager: the sessions and their reservations by pane, the layouts by tab,
and the operations that run as one section under the lifecycle lock. A session is known here by its
identity only. The locks are left out, and so are the broadcasts, snapshots and signals that follow
a section; what a section leaves to be done after it is part of its answer.
-/

import Dinotty.Foundation.KeyMap
import Dinotty.Session.Layout

namespace Dinotty.Session

/-- The identity of a session, which its owners compare by pointer. -/
abbrev SessionHandle := Nat

/-- A reading of the monotonic clock, in milliseconds. -/
abbrev Instant := Nat

/-- How long a session without a leaf is kept. -/
def sessionUnownedGrace : Nat := 60 * 1000

structure TabValue where
  layout : Option Layout := none
  activePaneId : Option PaneId := none
  title : Option String := none
  deriving DecidableEq

structure LayoutUpdate where
  tabId : TabId
  layout : Layout
  activePaneId : PaneId

/-- What the clients must be told after a section that changed layouts. -/
structure LayoutChanges where
  closedTabs : List TabId := []
  updates : List LayoutUpdate := []

/-- What is left to do for a session that has been removed. -/
structure ClosePlan where
  session : SessionHandle
  closedTabs : List TabId
  layoutUpdates : List LayoutUpdate

structure SessionManager where
  sessions : KeyMap PaneId SessionHandle := ∅
  tabLayouts : KeyMap TabId TabValue := ∅
  tabOrder : List TabId := []
  activePaneId : Option PaneId := none
  sessionReservations : List PaneId := []
  unownedSince : KeyMap PaneId Instant := ∅

namespace SessionManager

/-! ### Layouts -/

variable (manager : SessionManager)

def insertTabLocked (tab : TabId) (value : TabValue) : SessionManager :=
  { manager with
    tabOrder := if tab ∈ manager.tabOrder then manager.tabOrder else manager.tabOrder ++ [tab]
    tabLayouts := manager.tabLayouts.insert tab value }

/-- Remove a tab, answering whether it was there. -/
def removeTabLocked (tab : TabId) : SessionManager × Bool :=
  ({ manager with
      tabLayouts := manager.tabLayouts.erase tab
      tabOrder := manager.tabOrder.filter (· ≠ tab) },
    (manager.tabLayouts.lookup tab).isSome)

def updateLayoutLocked (tab : TabId) (value : TabValue)
    (activePaneId : Option PaneId) : SessionManager :=
  let manager := manager.insertTabLocked tab value
  { manager with activePaneId := activePaneId.or manager.activePaneId }

/-- What removing a pane makes of a tab. -/
inductive PurgeEffect where
  | untouched
  | emptied
  | updated (layout : Layout) (activePaneId : Option PaneId)
  deriving DecidableEq

def purgeEffect (pane : PaneId) (value : TabValue) : PurgeEffect :=
  match value.layout with
  | none => .untouched
  | some layout =>
      match layout.removePaneFromLayout pane with
      | none => .emptied
      | some new =>
          if new = layout then .untouched
          else
            let leafIds := new.collectLeafPaneIds
            .updated new ((value.activePaneId.filter (· ∈ leafIds)).or leafIds.head?)

def emptiedTabs (pane : PaneId) (entries : List (Sigma fun _ : TabId => TabValue)) : List TabId :=
  entries.filterMap fun entry =>
    match purgeEffect pane entry.2 with
    | .emptied => some entry.1
    | _ => none

/-- The tabs that a purge updates, with their new values. -/
def updatedTabs (pane : PaneId) (entries : List (Sigma fun _ : TabId => TabValue)) :
    List (TabId × Layout × Option PaneId) :=
  entries.filterMap fun entry =>
    match purgeEffect pane entry.2 with
    | .updated layout activePaneId => some (entry.1, layout, activePaneId)
    | _ => none

/-- Remove a pane from all layouts, with the tabs that are left without a leaf. -/
def purgePaneFromLayoutsLocked (pane : PaneId)
    (skipMatchingTab : Bool) : SessionManager × LayoutChanges :=
  let entries := manager.tabLayouts.entries.filter fun entry =>
    !(skipMatchingTab && entry.1 = pane)
  let updates := updatedTabs pane entries
  let emptied := emptiedTabs pane entries
  let written := updates.foldl (fun manager (tab, layout, activePaneId) =>
    manager.insertTabLocked tab { layout := some layout, activePaneId }) manager
  (emptied.foldl (fun manager tab => (manager.removeTabLocked tab).1) written,
    { closedTabs := emptied
      updates := updates.map fun (tabId, layout, activePaneId) =>
        { tabId, layout, activePaneId := activePaneId.getD "" } })

/-- Remove a pane that has exited from all layouts. -/
def onPtyExitedLocked (pane : PaneId) : SessionManager × LayoutChanges :=
  manager.purgePaneFromLayoutsLocked pane false

/-- The layout part of closing a pane. A session without a layout closes the tab of its own
name. -/
def collectLayoutCloseLocked (pane : PaneId) (fallbackTab : Bool) : SessionManager × LayoutChanges :=
  let (manager, changes) := manager.onPtyExitedLocked pane
  let changes :=
    if fallbackTab ∧ changes.closedTabs.isEmpty ∧ changes.updates.isEmpty then
      { changes with closedTabs := [pane] }
    else changes
  ({ manager with
      activePaneId := if manager.activePaneId = some pane then none else manager.activePaneId },
    changes)

/-- Whether a terminal leaf of some tab refers to the pane. -/
def paneIsReferencedLocked (pane : PaneId) : Bool :=
  manager.tabLayouts.entries.any fun entry =>
    entry.2.layout.any fun layout => pane ∈ layout.collectTerminalLeafPaneIds

/-! ### Sessions -/

def isCurrentSession (pane : PaneId) (session : SessionHandle) : Bool :=
  manager.sessions.lookup pane = some session

/-- Publish a new tab only if the exact session is still a member. -/
def insertTabForSession (pane : PaneId) (session : SessionHandle)
    (tab : TabId) (value : TabValue) (activePaneId : PaneId) : SessionManager × Bool :=
  if manager.isCurrentSession pane session then
    (manager.updateLayoutLocked tab value (some activePaneId), true)
  else (manager, false)

/-- Insert a session when the pane is vacant and not reserved. -/
def insertSession (pane : PaneId) (session : SessionHandle) : SessionManager × Bool :=
  if pane ∈ manager.sessionReservations then (manager, false)
  else if (manager.sessions.lookup pane).isSome then (manager, false)
  else
    ({ manager with
        unownedSince := manager.unownedSince.erase pane
        sessions := manager.sessions.insert pane session }, true)

/-- Reserve a pane that has neither a session nor a reservation. -/
def reserveSession (pane : PaneId) : SessionManager × Bool :=
  if (manager.sessions.lookup pane).isSome ∨ pane ∈ manager.sessionReservations then
    (manager, false)
  else ({ manager with sessionReservations := pane :: manager.sessionReservations }, true)

def publish (pane : PaneId) (session : SessionHandle) : SessionManager × Bool :=
  if (manager.sessions.lookup pane).isSome then (manager, false)
  else
    ({ manager with
        sessions := manager.sessions.insert pane session
        unownedSince := manager.unownedSince.erase pane
        sessionReservations := manager.sessionReservations.filter (· ≠ pane) }, true)

def dropReservation (pane : PaneId) : SessionManager :=
  { manager with sessionReservations := manager.sessionReservations.filter (· ≠ pane) }

/-- Remove the session of a pane when it is the expected one, if one is expected. -/
def removeSessionLocked (pane : PaneId)
    (expected : Option SessionHandle) : Option (SessionManager × ClosePlan) :=
  match manager.sessions.lookup pane with
  | none => none
  | some current =>
      if expected.any (· ≠ current) then none
      else
        let removed := { manager with
          sessions := manager.sessions.erase pane
          unownedSince := manager.unownedSince.erase pane }
        let (closed, changes) := removed.collectLayoutCloseLocked pane true
        some (closed, {
          session := current
          closedTabs := changes.closedTabs
          layoutUpdates := changes.updates })

def claimSessionClose (pane : PaneId)
    (expected : Option SessionHandle) : Option (SessionManager × ClosePlan) :=
  manager.removeSessionLocked pane expected

/-- What the section of closing a pane claims: its session, or only its leaves. -/
inductive PaneClosePlan where
  | session (plan : ClosePlan)
  | layout (changes : LayoutChanges)

/-- The section of closing a pane, which may have leaves without a session. -/
def claimPaneClose (pane : PaneId) : SessionManager × Option PaneClosePlan :=
  match manager.removeSessionLocked pane none with
  | some (closed, plan) => (closed, some (.session plan))
  | none =>
      let (closed, changes) := manager.collectLayoutCloseLocked pane false
      (closed, if changes.closedTabs.isEmpty ∧ changes.updates.isEmpty then none
        else some (.layout changes))

/-- The section of reaping a session: no terminal leaf refers to its pane, the grace period is
over, and it is neither connected nor superseded. -/
def claimReap (pane : PaneId) (session : SessionHandle)
    (now : Instant) (connected : Bool) : SessionManager × Option ClosePlan :=
  if manager.paneIsReferencedLocked pane then
    ({ manager with unownedSince := manager.unownedSince.erase pane }, none)
  else
    let since := (manager.unownedSince.lookup pane).getD now
    let aged := { manager with unownedSince := manager.unownedSince.insert pane since }
    if now - since < sessionUnownedGrace ∨ connected then (aged, none)
    else
      match aged.removeSessionLocked pane (some session) with
      | some (closed, plan) => (closed, some plan)
      | none => (aged, none)

/-! ### The layouts after a purge -/

def layoutOf (tab : TabId) : Option Layout :=
  (manager.tabLayouts.lookup tab).bind (·.layout)

/-- The panes of a tab, none when it is not there or has no layout. -/
def panesOf (tab : TabId) : List PaneId :=
  (manager.layoutOf tab).elim [] Layout.collectLeafPaneIds

variable {tab : TabId}

@[simp] theorem insertTabLocked_lookup (tab : TabId) (value : TabValue) (other : TabId) :
    (manager.insertTabLocked tab value).tabLayouts.lookup other =
      if other = tab then some value else manager.tabLayouts.lookup other :=
  KeyMap.lookup_insert _ _ _ _

@[simp] theorem removeTabLocked_lookup (tab other : TabId) :
    (manager.removeTabLocked tab).1.tabLayouts.lookup other =
      if other = tab then none else manager.tabLayouts.lookup other :=
  KeyMap.lookup_erase _ _ _

theorem lookup_foldl_insertTabLocked {value : TabValue}
    (updates : List (TabId × Layout × Option PaneId)) (agree : ∀ update ∈ updates, update.1 = tab →
      { layout := some update.2.1, activePaneId := update.2.2 } = value) (manager : SessionManager)
    :
    (updates.foldl (fun manager (tab, layout, activePaneId) =>
        manager.insertTabLocked tab { layout := some layout, activePaneId })
      manager).tabLayouts.lookup tab =
      if tab ∈ updates.map Prod.fst then some value else manager.tabLayouts.lookup tab := by
  induction updates generalizing manager with
  | nil => rfl
  | cons update rest ih =>
    have later := ih
      (fun other mem => agree other (List.mem_cons_of_mem _ mem))
    rw [List.foldl_cons, later, insertTabLocked_lookup, List.map_cons]
    by_cases inRest : tab ∈ rest.map Prod.fst
    · rw [if_pos inRest, if_pos (List.mem_cons_of_mem _ inRest)]
    · rw [if_neg inRest]
      by_cases here : tab = update.1
      · rw [if_pos here, if_pos (by simp [here]), agree update List.mem_cons_self here.symm]
      · rw [if_neg here, if_neg (by simp [here, inRest])]

theorem lookup_foldl_removeTabLocked (removed : List TabId) (manager : SessionManager) :
    (removed.foldl (fun manager tab => (manager.removeTabLocked tab).1)
      manager).tabLayouts.lookup tab =
      if tab ∈ removed then none else manager.tabLayouts.lookup tab := by
  induction removed generalizing manager with
  | nil => rfl
  | cons first rest ih =>
    rw [List.foldl_cons, ih, removeTabLocked_lookup]
    by_cases inRest : tab ∈ rest
    · rw [if_pos inRest, if_pos (List.mem_cons_of_mem _ inRest)]
    · rw [if_neg inRest]
      by_cases here : tab = first
      · rw [if_pos here, if_pos (by simp [here])]
      · rw [if_neg here, if_neg (by simp [here, inRest])]

theorem mem_updatedTabs {pane : PaneId} {entries : List (Sigma fun _ : TabId => TabValue)}
    {layout : Layout} {activePaneId : Option PaneId} :
    (tab, layout, activePaneId) ∈ updatedTabs pane entries ↔ ∃ value, ⟨tab, value⟩ ∈ entries ∧
        purgeEffect pane value = .updated layout activePaneId := by
  rw [updatedTabs, List.mem_filterMap]
  constructor
  · rintro ⟨⟨found, value⟩, mem, effect⟩
    split at effect
    next updated activeUpdated same =>
      cases effect
      exact ⟨value, mem, same⟩
    · cases effect
  · rintro ⟨value, mem, effect⟩
    exact ⟨⟨tab, value⟩, mem, by simp [effect]⟩

theorem mem_emptiedTabs {pane : PaneId} {entries : List (Sigma fun _ : TabId => TabValue)} :
    tab ∈ emptiedTabs pane entries ↔
      ∃ value, ⟨tab, value⟩ ∈ entries ∧ purgeEffect pane value = .emptied := by
  rw [emptiedTabs, List.mem_filterMap]
  constructor
  · rintro ⟨⟨found, value⟩, mem, effect⟩
    split at effect
    next same =>
      cases effect
      exact ⟨value, mem, same⟩
    · cases effect
  · rintro ⟨value, mem, effect⟩
    exact ⟨⟨tab, value⟩, mem, by simp [effect]⟩

def purgedValue (pane : PaneId) (value : TabValue) : Option TabValue :=
  match purgeEffect pane value with
  | .untouched => some value
  | .emptied => none
  | .updated layout activePaneId => some { layout := some layout, activePaneId }

theorem lookup_purgePaneFromLayoutsLocked (pane : PaneId) (skipMatchingTab : Bool) (tab : TabId) :
    (manager.purgePaneFromLayoutsLocked pane skipMatchingTab).1.tabLayouts.lookup tab =
      if skipMatchingTab && tab = pane then manager.tabLayouts.lookup tab
      else (manager.tabLayouts.lookup tab).bind (purgedValue pane) := by
  have inEntries : ∀ value, ⟨tab, value⟩ ∈ manager.tabLayouts.entries.filter
          (fun entry => !(skipMatchingTab && entry.1 = pane)) ↔
        manager.tabLayouts.lookup tab = some value ∧ (skipMatchingTab && tab = pane) = false := by
    intro value
    rw [List.mem_filter, KeyMap.lookup_eq_some_iff, Bool.not_eq_true']
  have emptied : tab ∈ emptiedTabs pane (manager.tabLayouts.entries.filter
        (fun entry => !(skipMatchingTab && entry.1 = pane))) ↔
      ∃ value, (manager.tabLayouts.lookup tab = some value ∧
        (skipMatchingTab && tab = pane) = false) ∧ purgeEffect pane value = .emptied := by
    rw [mem_emptiedTabs]
    exact exists_congr fun value => and_congr_left fun _ => inEntries value
  have updated : ∀ layout activePaneId, (tab, layout, activePaneId) ∈
        updatedTabs pane (manager.tabLayouts.entries.filter
          (fun entry => !(skipMatchingTab && entry.1 = pane))) ↔
      ∃ value, (manager.tabLayouts.lookup tab = some value ∧
        (skipMatchingTab && tab = pane) = false) ∧
        purgeEffect pane value = .updated layout activePaneId := by
    intro layout activePaneId
    rw [mem_updatedTabs]
    exact exists_congr fun value => and_congr_left fun _ => inEntries value
  rw [purgePaneFromLayoutsLocked]
  generalize manager.tabLayouts.entries.filter
    (fun entry => !(skipMatchingTab && entry.1 = pane)) = entries at emptied updated
  simp only [lookup_foldl_removeTabLocked]
  by_cases changes : ∃ value layout activePaneId, (manager.tabLayouts.lookup tab = some value ∧
      (skipMatchingTab && tab = pane) = false) ∧
      purgeEffect pane value = .updated layout activePaneId
  · obtain ⟨value, layout, activePaneId, found, effect⟩ := changes
    have stays : tab ∉ emptiedTabs pane entries := by
      intro mem
      obtain ⟨other, otherFound, otherEffect⟩ := emptied.mp mem
      cases found.1.symm.trans otherFound.1
      rw [effect] at otherEffect
      cases otherEffect
    have mem := (updated layout activePaneId).mpr ⟨value, found, effect⟩
    rw [if_neg stays, @lookup_foldl_insertTabLocked tab { layout := some layout, activePaneId },
      if_pos, found.1, found.2, if_neg, Option.bind_some, purgedValue, effect]
    · exact Bool.false_ne_true
    · exact List.mem_map_of_mem mem
    · rintro ⟨_, otherLayout, otherActive⟩ otherMember rfl
      obtain ⟨other, otherFound, otherEffect⟩ := (updated _ _).mp otherMember
      cases found.1.symm.trans otherFound.1
      rw [effect] at otherEffect
      injection otherEffect with sameLayout sameActive
      rw [sameLayout, sameActive]
  · have unwritten : tab ∉ (updatedTabs pane entries).map Prod.fst := by
      intro mem
      obtain ⟨⟨_, layout, activePaneId⟩, inUpdates, rfl⟩ := List.mem_map.mp mem
      obtain ⟨value, found, effect⟩ := (updated layout activePaneId).mp inUpdates
      exact changes ⟨value, layout, activePaneId, found, effect⟩
    rw [@lookup_foldl_insertTabLocked tab {}, if_neg unwritten]
    · cases found : manager.tabLayouts.lookup tab with
      | none => simp
      | some value =>
        cases skipped : skipMatchingTab && decide (tab = pane) with
        | true =>
          rw [if_neg, if_pos rfl]
          intro mem
          obtain ⟨other, otherFound, _⟩ := emptied.mp mem
          rw [otherFound.2] at skipped
          cases skipped
        | false =>
          rw [if_neg Bool.false_ne_true, Option.bind_some, purgedValue]
          cases effect : purgeEffect pane value with
          | untouched =>
            rw [if_neg]
            intro mem
            obtain ⟨other, otherFound, otherEffect⟩ := emptied.mp mem
            cases found.symm.trans otherFound.1
            rw [effect] at otherEffect
            cases otherEffect
          | emptied => rw [if_pos (emptied.mpr ⟨value, ⟨found, skipped⟩, effect⟩)]
          | updated layout activePaneId =>
            exact absurd ⟨value, layout, activePaneId, ⟨found, skipped⟩, effect⟩ changes
    · rintro ⟨_, layout, activePaneId⟩ mem rfl
      exact absurd (List.mem_map_of_mem mem) unwritten

theorem purgedValue_panes (pane : PaneId) (value : TabValue) :
    (((purgedValue pane value).bind (·.layout)).elim [] Layout.collectLeafPaneIds) =
      (value.layout.elim [] Layout.collectLeafPaneIds).filter (· ≠ pane) := by
  unfold purgedValue purgeEffect
  cases found : value.layout with
  | none => simp [found]
  | some layout =>
    have panes := Layout.panes_removePaneFromLayout pane layout
    cases removed : layout.removePaneFromLayout pane with
    | none =>
      rw [removed] at panes
      simpa [removed] using panes
    | some new =>
      rw [removed] at panes
      by_cases same : new = layout
      · rw [same] at panes removed
        simpa [removed, found] using panes
      · simpa [removed, same] using panes

theorem panesOf_purgePaneFromLayoutsLocked (pane : PaneId) (skipMatchingTab : Bool) (tab : TabId) :
    (manager.purgePaneFromLayoutsLocked pane skipMatchingTab).1.panesOf tab =
      if skipMatchingTab && tab = pane then manager.panesOf tab
      else (manager.panesOf tab).filter (· ≠ pane) := by
  unfold panesOf layoutOf
  rw [lookup_purgePaneFromLayoutsLocked]
  split
  · rfl
  · cases manager.tabLayouts.lookup tab with
    | none => rfl
    | some value => exact purgedValue_panes pane value

end SessionManager

end Dinotty.Session
