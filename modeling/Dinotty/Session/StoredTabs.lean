/-
This file is the session manager over the tabs as they are stored: the value of a tab is any JSON,
of which the manager reads a layout, an active pane and a title.
-/

import Dinotty.Session.Manager
import Dinotty.Session.StoredLayout

namespace Dinotty.Session.Stored

open Option KeyMap

/-- What is kept of the connection of a session over SSH. -/
structure SshParams where
  username : String
  host : String
  profileId : Option String := none
  workspaceId : Option String := none
  deriving DecidableEq

/-- A session. Its owners share the handle; `cwd` is the directory that it answers for a
workspace. -/
structure SessionRecord where
  handle : SessionHandle
  cwd : Option String := none
  sshParams : Option SshParams := none
  deriving DecidableEq

structure SessionManager where
  sessions : KeyMap PaneId SessionRecord := ∅
  tabLayouts : KeyMap TabId Json := ∅
  tabOrder : List TabId := []
  activePaneId : Option PaneId := none
  sessionReservations : List PaneId := []
  unownedSince : KeyMap PaneId Instant := ∅

def tabValue (layout : Json) (activePaneId : Option PaneId) : Json :=
  .obj (("layout", layout) ::
    (activePaneId.map fun pane => ("active_pane_id", Json.str pane)).toList)

theorem get_layout_tabValue (layout : Json) (active : Option PaneId) :
    (tabValue layout active).get "layout" = some layout := rfl

theorem getStr_active_tabValue (layout : Json) (activePaneId : Option PaneId) :
    (tabValue layout activePaneId).getStr "active_pane_id" = activePaneId := by
  cases activePaneId <;> rfl

namespace SessionManager

/-! ### Tabs -/

variable (manager : SessionManager)

def insertTabLocked (tab : TabId) (value : Json) : SessionManager :=
  { manager with
    tabOrder := if tab ∈ manager.tabOrder then manager.tabOrder else manager.tabOrder ++ [tab]
    tabLayouts := manager.tabLayouts.insert tab value }

def removeTabLocked (tab : TabId) : SessionManager × Bool :=
  ({ manager with
      tabLayouts := manager.tabLayouts.erase tab
      tabOrder := manager.tabOrder.filter (· ≠ tab) },
    (manager.tabLayouts.lookup tab).isSome)

def updateLayoutLocked (tab : TabId) (value : Json)
    (activePaneId : Option PaneId) : SessionManager :=
  let manager := manager.insertTabLocked tab value
  { manager with activePaneId := activePaneId.or manager.activePaneId }

/-- Set the title of a tab, answering whether its value could take one. -/
def renameTab (tab : TabId) (title : String) : SessionManager × Bool :=
  match manager.tabLayouts.lookup tab with
  | some value =>
      if value.isObject then
        ({ manager with
            tabLayouts := manager.tabLayouts.insert tab (value.set "title" (.str title)) }, true)
      else (manager, false)
  | none => (manager, false)

/-- The identifiers seen so far and the order of the known ones among them, after one more. -/
def listTab (known : TabId → Bool) (listed : List TabId × List TabId) (tab : TabId) :
    List TabId × List TabId :=
  if tab ∈ listed.1 then listed
  else (tab :: listed.1, if known tab then listed.2 ++ [tab] else listed.2)

/-- Apply an order that a client provides, answering the new order when it is another. -/
def reorderTabs (tabs : List TabId) : SessionManager × Option (List TabId) :=
  let (seen, listed) :=
    tabs.foldl (listTab fun tab => (manager.tabLayouts.lookup tab).isSome) ([], [])
  if listed.isEmpty then (manager, none)
  else
    let newOrder := listed ++ manager.tabOrder.filter (· ∉ seen)
    if manager.tabOrder = newOrder then (manager, none)
    else ({ manager with tabOrder := newOrder }, some newOrder)

def setActivePaneId (pane : Option PaneId) : SessionManager :=
  { manager with activePaneId := pane }

/-! ### Removing a pane from the tabs -/

/-- The pane that is active in a changed layout: the one before when it is left, else the first
one. -/
def repairActive (value new : Json) : Option PaneId :=
  let newLeafIds := collectLeafPaneIds new
  ((value.getStr "active_pane_id").filter (· ∈ newLeafIds)).or newLeafIds.head?

def purgeRevision (pane : PaneId) (value : Json) : KeyMap.Revision Json :=
  match value.get "layout" with
  | none => .keep
  | some layout =>
      match removePaneFromLayout pane layout with
      | none => .drop
      | some new => if new = layout then .keep else .write (tabValue new (repairActive value new))

/-- What a purge makes of each tab. One tab may be skipped, the one of the name of the pane. -/
def purgeRevise (pane : PaneId) (skipMatchingTab : Bool) (tab : TabId) (value : Json) :
    KeyMap.Revision Json :=
  if skipMatchingTab && tab = pane then .keep else purgeRevision pane value

structure LayoutUpdate where
  tabId : TabId
  layout : Json
  activePaneId : PaneId

structure LayoutChanges where
  closedTabs : List TabId := []
  updates : List LayoutUpdate := []

def purgePaneFromLayoutsLocked (pane : PaneId)
    (skipMatchingTab : Bool) : SessionManager × LayoutChanges :=
  let updates := KeyMap.written (purgeRevise pane skipMatchingTab) manager.tabLayouts
  let emptied := KeyMap.dropped (purgeRevise pane skipMatchingTab) manager.tabLayouts
  let written := updates.foldl (fun manager (tab, value) => manager.insertTabLocked tab value)
    manager
  (emptied.foldl (fun manager tab => (manager.removeTabLocked tab).1) written,
    { closedTabs := emptied
      updates := updates.map fun (tabId, value) =>
        { tabId
          layout := (value.get "layout").getD .null
          activePaneId := (value.getStr "active_pane_id").getD "" } })

/-- The layout part of closing a pane. A session without a layout closes the tab of its own
name. -/
def collectLayoutCloseLocked (pane : PaneId) (fallbackTab : Bool) : SessionManager × LayoutChanges :=
  let (manager, changes) := manager.purgePaneFromLayoutsLocked pane false
  let changes :=
    if fallbackTab ∧ changes.closedTabs.isEmpty ∧ changes.updates.isEmpty then
      { changes with closedTabs := [pane] }
    else changes
  ({ manager with
      activePaneId := if manager.activePaneId = some pane then none else manager.activePaneId },
    changes)

/-! ### Sessions -/

def isCurrentSession (pane : PaneId) (session : SessionHandle) : Bool :=
  (manager.sessions.lookup pane).map (·.handle) = some session

def insertTabForSession (pane : PaneId) (session : SessionHandle)
    (tab : TabId) (value : Json) (activePaneId : PaneId) : SessionManager × Bool :=
  if manager.isCurrentSession pane session then
    (manager.updateLayoutLocked tab value (some activePaneId), true)
  else (manager, false)

def insertSession (pane : PaneId) (session : SessionRecord) : SessionManager × Bool :=
  if pane ∈ manager.sessionReservations then (manager, false)
  else if (manager.sessions.lookup pane).isSome then (manager, false)
  else
    ({ manager with
        unownedSince := manager.unownedSince.erase pane
        sessions := manager.sessions.insert pane session }, true)

def reserveSession (pane : PaneId) : SessionManager × Bool :=
  if (manager.sessions.lookup pane).isSome ∨ pane ∈ manager.sessionReservations then
    (manager, false)
  else ({ manager with sessionReservations := pane :: manager.sessionReservations }, true)

def publish (pane : PaneId) (session : SessionRecord) : SessionManager × Bool :=
  if (manager.sessions.lookup pane).isSome then (manager, false)
  else
    ({ manager with
        sessions := manager.sessions.insert pane session
        unownedSince := manager.unownedSince.erase pane
        sessionReservations := manager.sessionReservations.filter (· ≠ pane) }, true)

def dropReservation (pane : PaneId) : SessionManager :=
  { manager with sessionReservations := manager.sessionReservations.filter (· ≠ pane) }

/-- Create a session: the pane is reserved, the backend is spawned, and the session is published.
The reservation is given up on the way out. -/
def createSession (pane : PaneId)
    (spawned : Except String SessionRecord) : SessionManager × Except String SessionRecord :=
  match manager.reserveSession pane with
  | (manager, false) => (manager, .error ("session already exists for pane " ++ pane))
  | (manager, true) =>
      match spawned with
      | .error error => (manager.dropReservation pane, .error error)
      | .ok session =>
          match manager.publish pane session with
          | (manager, true) => (manager, .ok session)
          | (manager, false) =>
              (manager.dropReservation pane, .error ("session already exists for pane " ++ pane))

structure ClosePlan where
  session : SessionRecord
  changes : LayoutChanges

def removeSessionLocked (pane : PaneId)
    (expected : Option SessionHandle) : Option (SessionManager × ClosePlan) :=
  match manager.sessions.lookup pane with
  | none => none
  | some current =>
      if expected.any (· ≠ current.handle) then none
      else
        let removed := { manager with
          sessions := manager.sessions.erase pane
          unownedSince := manager.unownedSince.erase pane }
        let (closed, changes) := removed.collectLayoutCloseLocked pane true
        some (closed, { session := current, changes })

/-- Close the session of a pane, answering whether there was one to close. -/
def closeSession (pane : PaneId) (expected : Option SessionHandle) : SessionManager × Bool :=
  match manager.removeSessionLocked pane expected with
  | some (closed, _) => (closed, true)
  | none => (manager, false)

/-- Close a pane, which may be a leaf without a session. -/
def closePane (pane : PaneId) : SessionManager × Bool :=
  match manager.removeSessionLocked pane none with
  | some (closed, _) => (closed, true)
  | none =>
      let (closed, changes) := manager.collectLayoutCloseLocked pane false
      (closed, !(changes.closedTabs.isEmpty && changes.updates.isEmpty))

/-! ### Listing the tabs -/

/-- Whether a tab is stale: it has no leaf, or a terminal leaf without a session. -/
def stale (value : Json) : Bool :=
  match value.get "layout" with
  | none => false
  | some layout =>
      (collectLeafPaneIds layout).isEmpty ||
        (collectTerminalLeafPaneIds layout).any fun pane =>
          (manager.sessions.lookup pane).isNone

structure TabInfo where
  tabId : TabId
  paneId : PaneId
  layout : Option Json
  activePaneId : Option PaneId
  cwd : Option String
  connectionId : Option String
  workspaceId : Option String
  title : Option String

def tabInfo (tabId : TabId) (value : Json) : TabInfo :=
  let layout := (value.get "layout").map ensureLeafKind
  let paneId := (layout.bind firstLeafId).getD tabId
  let session := manager.sessions.lookup paneId
  { tabId
    paneId
    layout
    activePaneId := value.getStr "active_pane_id"
    cwd := session.bind (·.cwd)
    connectionId := session.bind fun session => session.sshParams.bind (·.profileId)
    workspaceId := session.bind fun session => session.sshParams.bind (·.workspaceId)
    title := value.getStr "title" }

def pruneTabs : SessionManager :=
  (KeyMap.keysWhere (fun _ value => manager.stale value) manager.tabLayouts).foldl
    (fun manager tab => (manager.removeTabLocked tab).1) manager

/-- Prune the stale tabs and list the others in their order, with the active pane. -/
def tabList : SessionManager × List TabInfo × Option PaneId :=
  let manager := manager.pruneTabs
  let tabs := manager.tabLayouts.entries.map fun entry => manager.tabInfo entry.1 entry.2
  (manager,
    tabs.mergeSort fun first second =>
      manager.tabOrder.idxOf first.tabId ≤ manager.tabOrder.idxOf second.tabId,
    manager.activePaneId)

/-! ### Runs -/

inductive Operation where
  | insertTab (tab : TabId) (value : Json)
  | removeTab (tab : TabId)
  | updateLayout (tab : TabId) (value : Json) (activePaneId : Option PaneId)
  | renameTab (tab : TabId) (title : String)
  | reorderTabs (tabs : List TabId)
  | setActivePaneId (pane : Option PaneId)
  | insertTabForSession (pane : PaneId) (session : SessionHandle) (tab : TabId) (value : Json)
      (activePaneId : PaneId)
  | insertSession (pane : PaneId) (session : SessionRecord)
  | reserveSession (pane : PaneId)
  | publish (pane : PaneId) (session : SessionRecord)
  | dropReservation (pane : PaneId)
  | closeSession (pane : PaneId) (expected : Option SessionHandle)
  | closePane (pane : PaneId)
  | purgePane (pane : PaneId) (skipMatchingTab : Bool)
  | tabList

def step (manager : SessionManager) : Operation → SessionManager
  | .insertTab tab value => manager.insertTabLocked tab value
  | .removeTab tab => (manager.removeTabLocked tab).1
  | .updateLayout tab value activePaneId => manager.updateLayoutLocked tab value activePaneId
  | .renameTab tab title => (manager.renameTab tab title).1
  | .reorderTabs tabs => (manager.reorderTabs tabs).1
  | .setActivePaneId pane => manager.setActivePaneId pane
  | .insertTabForSession pane session tab value activePaneId =>
      (manager.insertTabForSession pane session tab value activePaneId).1
  | .insertSession pane session => (manager.insertSession pane session).1
  | .reserveSession pane => (manager.reserveSession pane).1
  | .publish pane session => (manager.publish pane session).1
  | .dropReservation pane => manager.dropReservation pane
  | .closeSession pane expected => (manager.closeSession pane expected).1
  | .closePane pane => (manager.closePane pane).1
  | .purgePane pane skipMatchingTab => (manager.purgePaneFromLayoutsLocked pane skipMatchingTab).1
  | .tabList => manager.tabList.1

/-- A run from a manager without tabs and sessions. -/
def run (operations : List Operation) : SessionManager := operations.foldl step {}

/-! ### The tabs after a section -/

def layoutOf (tab : TabId) : Option Json :=
  (manager.tabLayouts.lookup tab).bind (Json.get "layout")

theorem layoutOf_eq_some_iff {manager : SessionManager} {tab : TabId} {layout : Json} :
    manager.layoutOf tab = some layout ↔
      ∃ value, manager.tabLayouts.lookup tab = some value ∧ value.get "layout" = some layout :=
  bind_eq_some_iff

@[simp] theorem insertTabLocked_lookup (tab : TabId) (value : Json) (other : TabId) :
    (manager.insertTabLocked tab value).tabLayouts.lookup other =
      if other = tab then some value else manager.tabLayouts.lookup other :=
  lookup_insert _ _ _ _

@[simp] theorem removeTabLocked_lookup (tab other : TabId) :
    (manager.removeTabLocked tab).1.tabLayouts.lookup other =
      if other = tab then none else manager.tabLayouts.lookup other :=
  lookup_erase _ _ _

/-- What the tabs are not about: the sessions and the panes in hand. -/
def beside : KeyMap PaneId SessionRecord × Option PaneId × List PaneId × KeyMap PaneId Instant :=
  (manager.sessions, manager.activePaneId, manager.sessionReservations, manager.unownedSince)

theorem beside_foldl_insertTabLocked (updates : List (TabId × Json)) (manager : SessionManager) :
    (updates.foldl (fun manager (tab, value) => manager.insertTabLocked tab value)
      manager).beside = manager.beside := by
  induction updates generalizing manager with
  | nil => rfl
  | cons update rest ih => exact ih _

theorem beside_foldl_removeTabLocked (tabs : List TabId) (manager : SessionManager) :
    (tabs.foldl (fun manager tab => (manager.removeTabLocked tab).1) manager).beside =
      manager.beside := by
  induction tabs generalizing manager with
  | nil => rfl
  | cons tab rest ih => exact ih _

theorem tabLayouts_foldl_insertTabLocked (updates : List (TabId × Json))
    (manager : SessionManager) :
    (updates.foldl (fun manager (tab, value) => manager.insertTabLocked tab value)
      manager).tabLayouts =
      updates.foldl (fun map pair => map.insert pair.1 pair.2) manager.tabLayouts := by
  induction updates generalizing manager with
  | nil => rfl
  | cons update rest ih => exact ih _

theorem tabLayouts_foldl_removeTabLocked (tabs : List TabId) (manager : SessionManager) :
    (tabs.foldl (fun manager tab => (manager.removeTabLocked tab).1) manager).tabLayouts =
      tabs.foldl (fun map tab => map.erase tab) manager.tabLayouts := by
  induction tabs generalizing manager with
  | nil => rfl
  | cons tab rest ih => exact ih _

theorem beside_purgePaneFromLayoutsLocked (pane : PaneId) (skipMatchingTab : Bool) :
    (manager.purgePaneFromLayoutsLocked pane skipMatchingTab).1.beside = manager.beside :=
  (beside_foldl_removeTabLocked _ _).trans (beside_foldl_insertTabLocked _ _)

theorem lookup_purgePaneFromLayoutsLocked (pane : PaneId) (skipMatchingTab : Bool) (tab : TabId) :
    (manager.purgePaneFromLayoutsLocked pane skipMatchingTab).1.tabLayouts.lookup tab =
      (manager.tabLayouts.lookup tab).bind fun value =>
        (purgeRevise pane skipMatchingTab tab value).apply value := by
  rw [← lookup_revised, purgePaneFromLayoutsLocked, tabLayouts_foldl_removeTabLocked,
    tabLayouts_foldl_insertTabLocked]

theorem purgeRevision_cases (pane : PaneId) (value : Json) :
    (value.get "layout" = none ∧ purgeRevision pane value = .keep) ∨
    ∃ layout, value.get "layout" = some layout ∧
      ((removePaneFromLayout pane layout = none ∧ purgeRevision pane value = .drop) ∨
        (removePaneFromLayout pane layout = some layout ∧ purgeRevision pane value = .keep) ∨
        ∃ new, removePaneFromLayout pane layout = some new ∧ new ≠ layout ∧
          purgeRevision pane value = .write (tabValue new (repairActive value new))) := by
  unfold purgeRevision
  cases value.get "layout" with
  | none => exact .inl ⟨rfl, rfl⟩
  | some layout =>
    refine .inr ⟨layout, rfl, ?_⟩
    dsimp only
    cases removePaneFromLayout pane layout with
    | none => exact .inl ⟨rfl, rfl⟩
    | some new =>
      by_cases same : new = layout
      · exact .inr (.inl ⟨congrArg some same, if_pos same⟩)
      · exact .inr (.inr ⟨new, rfl, same, if_neg same⟩)

theorem removed_of_purgeRevision {pane : PaneId} {value new layout : Json}
    (applied : (purgeRevision pane value).apply value = some new)
    (atNew : new.get "layout" = some layout) :
    ∃ before, value.get "layout" = some before ∧
      removePaneFromLayout pane before = some layout := by
  rcases purgeRevision_cases pane value with ⟨none, keep⟩ | ⟨before, atBefore, cases⟩
  · rw [keep] at applied
    rw [← some.inj applied] at atNew
    cases none.symm.trans atNew
  · refine ⟨before, atBefore, ?_⟩
    rcases cases with ⟨-, drop⟩ | ⟨same, keep⟩ | ⟨left, removed, -, write⟩
    · rw [drop] at applied
      cases applied
    · rw [keep] at applied
      rw [← some.inj applied] at atNew
      rw [same, ← atBefore, atNew]
    · rw [write] at applied
      rw [← some.inj applied, get_layout_tabValue] at atNew
      rw [removed, atNew]

section

variable (pane : PaneId)
include manager pane

theorem tabLayouts_collectLayoutCloseLocked (fallbackTab : Bool) :
    (manager.collectLayoutCloseLocked pane fallbackTab).1.tabLayouts =
      (manager.purgePaneFromLayoutsLocked pane false).1.tabLayouts := rfl

theorem closePane_eq :
    ∃ before : SessionManager, ∃ fallbackTab, before.tabLayouts = manager.tabLayouts ∧
      (manager.closePane pane).1 = (before.collectLayoutCloseLocked pane fallbackTab).1 := by
  unfold closePane removeSessionLocked
  cases manager.sessions.lookup pane with
  | none => exact ⟨manager, false, rfl, rfl⟩
  | some session =>
    exact ⟨{ manager with
      sessions := manager.sessions.erase pane
      unownedSince := manager.unownedSince.erase pane }, true, rfl, rfl⟩

theorem lookup_closePane (tab : TabId) : (manager.closePane pane).1.tabLayouts.lookup tab =
      (manager.tabLayouts.lookup tab).bind fun value =>
        (purgeRevision pane value).apply value := by
  obtain ⟨before, fallbackTab, same, closed⟩ := closePane_eq manager pane
  rw [closed, tabLayouts_collectLayoutCloseLocked, lookup_purgePaneFromLayoutsLocked, same]
  rfl

end

theorem removeSessionLocked_spec {manager closed : SessionManager} {pane : PaneId}
    {expected : Option SessionHandle} {plan : ClosePlan}
    (removed : manager.removeSessionLocked pane expected = some (closed, plan)) :
    closed.sessions = manager.sessions.erase pane ∧
    ∀ tab, closed.tabLayouts.lookup tab = (manager.tabLayouts.lookup tab).bind fun value =>
        (purgeRevision pane value).apply value := by
  unfold removeSessionLocked at removed
  split at removed
  · cases removed
  · split at removed
    · cases removed
    · let without : SessionManager := { manager with
        sessions := manager.sessions.erase pane
        unownedSince := manager.unownedSince.erase pane }
      have same : closed = (without.collectLayoutCloseLocked pane true).1 :=
        (congrArg Prod.fst (some.inj removed)).symm
      rw [same]
      refine ⟨congrArg Prod.fst (beside_purgePaneFromLayoutsLocked without pane false),
        fun tab => ?_⟩
      rw [tabLayouts_collectLayoutCloseLocked, lookup_purgePaneFromLayoutsLocked]
      rfl

theorem activePaneId_closePane (pane : PaneId) :
    (manager.closePane pane).1.activePaneId ≠ some pane := by
  obtain ⟨before, fallbackTab, -, closed⟩ := closePane_eq manager pane
  rw [closed, collectLayoutCloseLocked]
  dsimp only
  split
  · exact nofun
  · assumption

/-! ### Creating a session -/

/-- Whether a pane has neither a session nor a reservation. -/
def Vacant (pane : PaneId) : Prop :=
  (manager.sessions.lookup pane).isNone = true ∧ pane ∉ manager.sessionReservations

/-- A session is created for a vacant pane, or else nothing changes. -/
theorem createSession_cases (pane : PaneId) (spawned : Except String SessionRecord) :
    ((¬manager.Vacant pane ∨ ∃ error, spawned = .error error) ∧
        ∃ error, manager.createSession pane spawned = (manager, .error error)) ∨
      ∃ session, manager.Vacant pane ∧ spawned = .ok session ∧ manager.createSession pane spawned =
          ({ manager with
              sessions := manager.sessions.insert pane session
              unownedSince := manager.unownedSince.erase pane }, .ok session) := by
  unfold createSession reserveSession Vacant
  by_cases taken : (manager.sessions.lookup pane).isSome = true ∨ pane ∈ manager.sessionReservations
  · rw [if_pos taken]
    refine .inl ⟨.inl fun vacant => ?_, _, rfl⟩
    rcases taken with live | reserved
    · simp [isNone_iff_eq_none.mp vacant.1] at live
    · exact vacant.2 reserved
  · rw [if_neg taken]
    obtain ⟨dead, free⟩ := not_or.mp taken
    have given : (pane :: manager.sessionReservations).filter (· ≠ pane) =
        manager.sessionReservations := by
      rw [List.filter_cons_of_neg (by simp)]
      exact List.filter_eq_self.mpr fun other mem =>
        decide_eq_true fun same => free (same ▸ mem)
    cases spawned with
    | error error =>
      refine .inl ⟨.inr ⟨error, rfl⟩, error, ?_⟩
      simp only [dropReservation, given]
    | ok session =>
      refine .inr ⟨session, ⟨by simpa using dead, free⟩, rfl, ?_⟩
      simp only [publish, if_neg dead, given]

theorem lookup_pruneTabs (tab : TabId) : manager.pruneTabs.tabLayouts.lookup tab =
      (manager.tabLayouts.lookup tab).filter fun value => !manager.stale value := by
  rw [pruneTabs, tabLayouts_foldl_removeTabLocked, lookup_foldl_erase]
  cases found : manager.tabLayouts.lookup tab with
  | none => simp
  | some value =>
    by_cases isStale : manager.stale value = true
    · rw [if_pos (mem_keysWhere.mpr ⟨value, found, isStale⟩), filter_some, isStale]
      rfl
    · rw [if_neg, filter_some, Bool.eq_false_iff.mpr isStale]
      · rfl
      · intro mem
        obtain ⟨other, held, otherStale⟩ := mem_keysWhere.mp mem
        cases found.symm.trans held
        exact isStale otherStale

theorem beside_pruneTabs : manager.pruneTabs.beside = manager.beside :=
  beside_foldl_removeTabLocked _ _

end SessionManager

end Dinotty.Session.Stored
