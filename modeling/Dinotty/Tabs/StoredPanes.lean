/-
This file is the requests on the panes of the tabs as they are stored, each run without another
between its reading and its writing. A request answers an error, or it writes whole values of tabs.
-/

import Dinotty.Session.StoredTabs
import Dinotty.Tabs.Panes

namespace Dinotty.Tabs.Stored

open Session hiding SessionManager
open Session.Stored

/-! ### What the requests read -/

/-- Load the layout of a tab, which the errors call `what`. -/
def loadLayout (manager : SessionManager) (what : String) (tab : TabId) : Except Rejection Json :=
  match manager.tabLayouts.lookup tab with
  | none => .error { status := 404, error := what ++ " not found" }
  | some value =>
      match value.get "layout" with
      | none => .error { status := 500, error := what ++ " has no layout" }
      | some layout => .ok layout

/-- Load the layout of a tab that must hold a pane. -/
def loadWithPane (manager : SessionManager) (what missing : String) (tab : TabId)
    (pane : PaneId) : Except Rejection Json := do
  let layout ← loadLayout manager what tab
  if pane ∈ collectLeafPaneIds layout then .ok layout
  else .error { status := 404, error := missing }

/-- The result of an operation on a layout, or the error that it has failed. -/
def orFail (error : String) : Option Json → Except Rejection Json
  | some layout => .ok layout
  | none => .error { status := 500, error }

/-! ### What the requests write -/

inductive Write where
  | insert (tab : TabId) (layout : Json) (activePaneId : PaneId)
  | remove (tab : TabId)

def Write.apply (manager : SessionManager) : Write → SessionManager
  | .insert tab layout activePaneId =>
      manager.insertTabLocked tab (tabValue layout (some activePaneId))
  | .remove tab => (manager.removeTabLocked tab).1

def applyWrites (manager : SessionManager) (writes : List Write) : SessionManager :=
  writes.foldl Write.apply manager

/-- Do what a request has planned, or nothing when it is rejected. -/
def perform (manager : SessionManager) (plan : Except Rejection (List Write)) :
    SessionManager × Option Rejection :=
  match plan with
  | .ok writes => (applyWrites manager writes, none)
  | .error rejection => (manager, some rejection)

/-! ### Moving and extracting -/

structure MovePaneRequest where
  sourceTabId : TabId
  sourcePaneId : Option PaneId
  targetPaneId : PaneId
  direction : String

def takePane (errors : TakeErrors) (layout : Json) (pane : PaneId) :
    Except Rejection (Json × Json) := do
  let leafIds := collectLeafPaneIds layout
  if leafIds.length < 2 then .error { status := 400, error := errors.tooFew }
  else if pane ∉ leafIds then .error { status := 404, error := errors.missing }
  else
    let leaf ← orFail errors.extraction (extractLeafFromLayout pane layout)
    let left ← orFail "failed to update source layout" (removePaneFromLayout pane layout)
    .ok (leaf, left)

/-- Plan to move a pane of the source tab, or all of it, beside a pane of the destination. -/
def planMove (manager : SessionManager) (destination : TabId) (request : MovePaneRequest)
    (splitId : String) : Except Rejection (List Write) := do
  if request.sourceTabId = destination then
    .error { status := 400, error := "source and destination tab must differ" }
  else
    let sourceLayout ← loadLayout manager "source tab" request.sourceTabId
    let layout ← loadWithPane manager "destination tab"
      "target pane not found in destination tab" destination request.targetPaneId
    match request.sourcePaneId with
    | none =>
        let new ← orFail "failed to insert subtree"
          (insertSubtreeIntoLayout request.targetPaneId request.direction splitId sourceLayout
            layout)
        .ok [.remove request.sourceTabId,
          .insert destination new ((firstLeafId new).getD request.targetPaneId)]
    | some pane =>
        let (leaf, left) ← takePane moveErrors sourceLayout pane
        let new ← orFail "failed to update destination layout"
          (insertSubtreeIntoLayout request.targetPaneId request.direction splitId leaf layout)
        .ok [.insert request.sourceTabId left ((firstLeafId left).getD request.targetPaneId),
          .insert destination new pane]

def movePane (manager : SessionManager) (destination : TabId) (request : MovePaneRequest)
    (splitId : String) : SessionManager × Option Rejection :=
  perform manager (planMove manager destination request splitId)

def planExtract (manager : SessionManager) (source : TabId) (pane : PaneId) (newTab : TabId) :
    Except Rejection (List Write) := do
  let sourceLayout ← loadLayout manager "source tab" source
  let (leaf, left) ← takePane extractErrors sourceLayout pane
  .ok [.insert source left ((firstLeafId left).getD pane), .insert newTab leaf pane]

def extractPane (manager : SessionManager) (source : TabId) (pane : PaneId) (newTab : TabId) :
    SessionManager × Option Rejection :=
  perform manager (planExtract manager source pane newTab)

/-! ### Splitting and activating -/

structure SplitPaneRequest where
  paneId : PaneId
  direction : String

/-- The layout with a new leaf beside the target. A session over SSH gives it a title. -/
def splitLayout (layout : Json) (request : SplitPaneRequest) (splitId : String) (pane : PaneId)
    (session : SessionRecord) : Option Json :=
  match session.sshParams with
  | some params =>
      insertPaneIntoLayoutInner request.paneId request.direction splitId pane
        (some (params.username ++ "@" ++ params.host)) (some "ssh") layout
  | none =>
      insertPaneIntoLayoutInner request.paneId request.direction splitId pane none none layout

/-- Split a pane: a session is created for the new pane, with the outcome `spawned`, and its leaf
is put beside the one of the pane. -/
def splitPane (manager : SessionManager) (tab : TabId) (request : SplitPaneRequest)
    (pane : PaneId) (splitId : String) (spawned : Except String SessionRecord) :
    SessionManager × Option Rejection :=
  match loadWithPane manager "tab" "pane not found in tab" tab request.paneId with
  | .error rejection => (manager, some rejection)
  | .ok layout =>
      match manager.createSession pane spawned with
      | (manager, .error error) => (manager, some { status := 500, error })
      | (manager, .ok session) =>
          match splitLayout layout request splitId pane session with
          | none =>
              -- The session that was made for nothing is killed.
              ((manager.closeSession pane none).1,
                some { status := 500, error := "failed to update layout" })
          | some new => (Write.apply manager (.insert tab new pane), none)

/-- Insert a leaf that needs no session beside a pane. -/
def insertNonTerminalPane (manager : SessionManager) (tab : TabId) (target : PaneId)
    (direction splitId : String) (leaf : Json) (pane : PaneId) :
    SessionManager × Option Rejection :=
  perform manager (do
    let layout ← loadWithPane manager "tab" "pane not found in tab" tab target
    let new ← orFail "failed to update layout"
      (insertSubtreeIntoLayout target direction splitId leaf layout)
    .ok [.insert tab new pane])

/-- Activate a pane of a tab. A tab without a layout has no pane. -/
def activatePane (manager : SessionManager) (tab : TabId) (pane : PaneId) :
    SessionManager × Option Rejection :=
  match manager.tabLayouts.lookup tab with
  | none => (manager, some { status := 404, error := "tab not found" })
  | some value =>
      let layout := (value.get "layout").getD .null
      if pane ∈ collectLeafPaneIds layout then
        (manager.updateLayoutLocked tab (tabValue layout (some pane)) (some pane), none)
      else (manager, some { status := 404, error := "pane not found in tab" })

/-- Store the layout that a client sends for a tab that is there. -/
def updateLayout (manager : SessionManager) (tab : TabId) (layout : Json)
    (activePaneId : PaneId) : SessionManager × Option Rejection :=
  if (manager.tabLayouts.lookup tab).isSome then
    (manager.updateLayoutLocked tab (tabValue layout (some activePaneId)) (some activePaneId), none)
  else (manager, some { status := 404, error := "tab not found" })

/-! ### When a request is accepted -/

theorem bind_eq_ok_iff {Error Value Result : Type} {first : Except Error Value}
    {next : Value → Except Error Result} {result : Result} :
    (first >>= next) = .ok result ↔ ∃ value, first = .ok value ∧ next value = .ok result := by
  cases first with
  | error error => exact ⟨nofun, fun ⟨_, failed, _⟩ => by cases failed⟩
  | ok value =>
    refine ⟨fun passed => ⟨value, rfl, passed⟩, fun ⟨other, same, passed⟩ => ?_⟩
    cases same
    exact passed

variable {layout : Json}

theorem orFail_eq_ok_iff {error : String} {res : Option Json} :
    orFail error res = .ok layout ↔ res = some layout := by
  cases res with
  | none => exact ⟨nofun, nofun⟩
  | some found => exact ⟨fun same => congrArg some (Except.ok.inj same), fun same =>
      congrArg Except.ok (Option.some.inj same)⟩

variable {manager : SessionManager}

theorem loadLayout_eq_ok_iff {what : String} {tab : TabId} :
    loadLayout manager what tab = .ok layout ↔ manager.layoutOf tab = some layout := by
  unfold loadLayout Stored.SessionManager.layoutOf
  cases manager.tabLayouts.lookup tab with
  | none => exact ⟨nofun, nofun⟩
  | some value =>
    rw [Option.bind_some]
    dsimp only
    cases value.get "layout" with
    | none => exact ⟨nofun, nofun⟩
    | some found => exact ⟨fun same => congrArg some (Except.ok.inj same), fun same =>
        congrArg Except.ok (Option.some.inj same)⟩

variable {pane : PaneId}

theorem loadWithPane_eq_ok_iff {what missing : String} {tab : TabId} :
    loadWithPane manager what missing tab pane = .ok layout ↔
      manager.layoutOf tab = some layout ∧ pane ∈ collectLeafPaneIds layout := by
  rw [loadWithPane, bind_eq_ok_iff]
  constructor
  · rintro ⟨found, loaded, passed⟩
    split at passed
    next held =>
      cases passed
      exact ⟨loadLayout_eq_ok_iff.mp loaded, held⟩
    · cases passed
  · rintro ⟨found, held⟩
    exact ⟨layout, loadLayout_eq_ok_iff.mpr found, if_pos held⟩

theorem takePane_eq_ok_iff {errors : TakeErrors} {leaf left : Json} :
    takePane errors layout pane = .ok (leaf, left) ↔
      2 ≤ (collectLeafPaneIds layout).length ∧ pane ∈ collectLeafPaneIds layout ∧
        extractLeafFromLayout pane layout = some leaf ∧
        removePaneFromLayout pane layout = some left := by
  unfold takePane
  dsimp only
  split
  next few =>
    exact ⟨nofun, fun enough => absurd enough.1 (Nat.not_le.mpr few)⟩
  next enough =>
    split
    next missing =>
      exact ⟨nofun, fun held => absurd held.2.1 missing⟩
    next held =>
      rw [bind_eq_ok_iff]
      simp only [orFail_eq_ok_iff, bind_eq_ok_iff, Except.ok.injEq, Prod.mk.injEq]
      constructor
      · rintro ⟨found, extracted, rest, removed, rfl, rfl⟩
        exact ⟨Nat.not_lt.mp enough, not_not.mp held, extracted, removed⟩
      · rintro ⟨-, -, extracted, removed⟩
        exact ⟨leaf, extracted, left, removed, rfl, rfl⟩

/-- What a move does with the layouts of the two tabs. -/
def Moves (request : MovePaneRequest) (destination : TabId) (splitId : String)
    (sourceLayout layout : Json) (writes : List Write) : Prop :=
  match request.sourcePaneId with
  | none => ∃ new,
      insertSubtreeIntoLayout request.targetPaneId request.direction splitId sourceLayout layout =
        some new ∧
      writes = [.remove request.sourceTabId,
        .insert destination new ((firstLeafId new).getD request.targetPaneId)]
  | some pane => ∃ leaf left new,
      (2 ≤ (collectLeafPaneIds sourceLayout).length ∧ pane ∈ collectLeafPaneIds sourceLayout ∧
        extractLeafFromLayout pane sourceLayout = some leaf ∧
        removePaneFromLayout pane sourceLayout = some left) ∧
      insertSubtreeIntoLayout request.targetPaneId request.direction splitId leaf layout =
        some new ∧
      writes = [.insert request.sourceTabId left ((firstLeafId left).getD request.targetPaneId),
        .insert destination new pane]

theorem planMove_eq_ok_iff {dest : TabId} {req : MovePaneRequest} {splitId : String}
    {writes : List Write} :
    planMove manager dest req splitId = .ok writes ↔
      req.sourceTabId ≠ dest ∧ ∃ sourceLayout layout,
        manager.layoutOf req.sourceTabId = some sourceLayout ∧
        manager.layoutOf dest = some layout ∧
        req.targetPaneId ∈ collectLeafPaneIds layout ∧
        Moves req dest splitId sourceLayout layout writes := by
  unfold planMove Moves
  split
  next same =>
    exact ⟨nofun, fun ne => absurd same ne.1⟩
  next ne =>
    simp only [bind_eq_ok_iff, loadLayout_eq_ok_iff, loadWithPane_eq_ok_iff]
    cases req.sourcePaneId with
    | none =>
      simp only [bind_eq_ok_iff, orFail_eq_ok_iff, Except.ok.injEq]
      constructor
      · rintro ⟨sourceLayout, source, layout, ⟨found, held⟩, new, ins, rfl⟩
        exact ⟨ne, sourceLayout, layout, source, found, held, new, ins, rfl⟩
      · rintro ⟨-, sourceLayout, layout, source, found, held, new, ins, rfl⟩
        exact ⟨sourceLayout, source, layout, ⟨found, held⟩, new, ins, rfl⟩
    | some pane =>
      simp only [bind_eq_ok_iff, orFail_eq_ok_iff, Except.ok.injEq]
      constructor
      · rintro ⟨sourceLayout, source, layout, ⟨found, held⟩, ⟨leaf, left⟩, taken, new, ins, rfl⟩
        exact ⟨ne, sourceLayout, layout, source, found, held, leaf, left, new,
          takePane_eq_ok_iff.mp taken, ins, rfl⟩
      · rintro ⟨-, sourceLayout, layout, source, found, held, leaf, left, new, taken, ins, rfl⟩
        exact ⟨sourceLayout, source, layout, ⟨found, held⟩, (leaf, left),
          takePane_eq_ok_iff.mpr taken, new, ins, rfl⟩

theorem planExtract_eq_ok_iff {source : TabId} {newTab : TabId} {writes : List Write} :
    planExtract manager source pane newTab = .ok writes ↔
      ∃ sourceLayout leaf left, manager.layoutOf source = some sourceLayout ∧
        (2 ≤ (collectLeafPaneIds sourceLayout).length ∧ pane ∈ collectLeafPaneIds sourceLayout ∧
          extractLeafFromLayout pane sourceLayout = some leaf ∧
          removePaneFromLayout pane sourceLayout = some left) ∧
        writes = [.insert source left ((firstLeafId left).getD pane),
          .insert newTab leaf pane] := by
  unfold planExtract
  simp only [bind_eq_ok_iff, loadLayout_eq_ok_iff]
  constructor
  · rintro ⟨sourceLayout, found, ⟨leaf, left⟩, taken, done⟩
    exact ⟨sourceLayout, leaf, left, found, takePane_eq_ok_iff.mp taken, (Except.ok.inj done).symm⟩
  · rintro ⟨sourceLayout, leaf, left, found, taken, rfl⟩
    exact ⟨sourceLayout, found, (leaf, left), takePane_eq_ok_iff.mpr taken, rfl⟩

end Dinotty.Tabs.Stored
