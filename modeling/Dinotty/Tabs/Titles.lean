/-
This file is what becomes of the title that a user has given to a tab: it stays exactly when no
layout is stored for the tab.
-/

import Dinotty.Tabs.StoredPanes

namespace Dinotty.Tabs.Stored

open Option

open Session hiding SessionManager
open Session.Stored Session.Stored.SessionManager

def titleOf (manager : SessionManager) (tab : TabId) : Option String :=
  (manager.tabLayouts.lookup tab).bind (Json.getStr "title")

/-- The operations on the tabs: those of the manager and the requests on panes. -/
inductive TabOperation where
  | manage (operation : Operation)
  | splitPane (tab : TabId) (request : SplitPaneRequest) (pane : PaneId) (splitId : String)
      (spawned : Except String SessionRecord)
  | insertNonTerminalPane (tab : TabId) (target : PaneId) (direction splitId : String)
      (leaf : Json) (pane : PaneId)
  | movePane (destination : TabId) (request : MovePaneRequest) (splitId : String)
  | extractPane (source : TabId) (pane : PaneId) (newTab : TabId)
  | activatePane (tab : TabId) (pane : PaneId)
  | updateLayout (tab : TabId) (layout : Json) (activePaneId : PaneId)

namespace TabOperation

def apply (manager : SessionManager) : TabOperation → SessionManager
  | .manage operation => manager.step operation
  | .splitPane tab request pane splitId spawned =>
      (Stored.splitPane manager tab request pane splitId spawned).1
  | .insertNonTerminalPane tab target direction splitId leaf pane =>
      (Stored.insertNonTerminalPane manager tab target direction splitId leaf pane).1
  | .movePane destination request splitId =>
      (Stored.movePane manager destination request splitId).1
  | .extractPane source pane newTab => (Stored.extractPane manager source pane newTab).1
  | .activatePane tab pane => (Stored.activatePane manager tab pane).1
  | .updateLayout tab layout activePaneId =>
      (Stored.updateLayout manager tab layout activePaneId).1

/-- Whether an operation gives a title to the tab. -/
def Renames (tab : TabId) : TabOperation → Prop
  | .manage (.renameTab other _) => other = tab
  | _ => False

end TabOperation

/-- Whether the tab loses leaves, but not all of them, when a pane is removed. -/
def Shrinks (manager : SessionManager) (pane : PaneId) (tab : TabId) : Prop :=
  ∃ layout new, manager.layoutOf tab = some layout ∧
    removePaneFromLayout pane layout = some new ∧ new ≠ layout

/-- Whether an operation stores a layout for the tab, with another title than it has. -/
def TabOperation.Writes (manager : SessionManager) (tab : TabId) : TabOperation → Prop
  | .manage (.insertTab other value) | .manage (.updateLayout other value _) =>
      other = tab ∧ value.getStr "title" ≠ titleOf manager tab
  | .manage (.insertTabForSession pane session other value _) =>
      manager.isCurrentSession pane session = true ∧ other = tab ∧
        value.getStr "title" ≠ titleOf manager tab
  | .manage (.closeSession pane expected) =>
      (∃ session, manager.sessions.lookup pane = some session ∧
        expected.any (· ≠ session.handle) = false) ∧ Shrinks manager pane tab
  | .manage (.closePane pane) => Shrinks manager pane tab
  | .manage (.purgePane pane skipMatchingTab) =>
      (skipMatchingTab && decide (tab = pane)) = false ∧ Shrinks manager pane tab
  | .manage _ => False
  | .splitPane other request pane splitId spawned =>
      ∃ layout session, manager.layoutOf other = some layout ∧
        request.paneId ∈ collectLeafPaneIds layout ∧ manager.Vacant pane ∧
        spawned = .ok session ∧
        if (splitLayout layout request splitId pane session).isSome then other = tab
        else Shrinks manager pane tab
  | .insertNonTerminalPane other target direction splitId leaf _ =>
      other = tab ∧ ∃ layout new, manager.layoutOf other = some layout ∧
        target ∈ collectLeafPaneIds layout ∧
        insertSubtreeIntoLayout target direction splitId leaf layout = some new
  | .movePane destination request splitId =>
      (destination = tab ∨ request.sourceTabId = tab ∧ request.sourcePaneId.isSome = true) ∧
        ∃ sourceLayout layout writes, request.sourceTabId ≠ destination ∧
          manager.layoutOf request.sourceTabId = some sourceLayout ∧
          manager.layoutOf destination = some layout ∧
          request.targetPaneId ∈ collectLeafPaneIds layout ∧
          Moves request destination splitId sourceLayout layout writes
  | .extractPane source pane newTab =>
      (source = tab ∨ newTab = tab) ∧ ∃ layout leaf left, manager.layoutOf source = some layout ∧
        2 ≤ (collectLeafPaneIds layout).length ∧ pane ∈ collectLeafPaneIds layout ∧
        extractLeafFromLayout pane layout = some leaf ∧
        removePaneFromLayout pane layout = some left
  | .activatePane other pane =>
      other = tab ∧ ∃ layout, manager.layoutOf tab = some layout ∧ pane ∈ collectLeafPaneIds layout
  | .updateLayout other _ _ => other = tab

/-- After an operation the tab has the title that it had, unless it is gone. -/
def KeepsTitle (before after : SessionManager) (tab : TabId) : Prop :=
  after.tabLayouts.lookup tab = none ∨ titleOf after tab = titleOf before tab

/-! ### What keeps a title, and what loses it -/

section Title

variable {manager after : SessionManager} {tab : TabId} {title : String}

theorem keepsTitle_of_same (same : after.tabLayouts.lookup tab = manager.tabLayouts.lookup tab) :
    KeepsTitle manager after tab :=
  .inr (by rw [titleOf, titleOf, same])

variable {value : Json}

theorem titleOf_of_lookup (held : manager.tabLayouts.lookup tab = some value) :
    titleOf manager tab = value.getStr "title" := by
  rw [titleOf, held, bind_some]

theorem keepsTitle_of_lookup (held : after.tabLayouts.lookup tab = some value) :
    KeepsTitle manager after tab ↔ value.getStr "title" = titleOf manager tab := by
  rw [KeepsTitle, held, titleOf_of_lookup held]
  exact or_iff_right nofun

theorem getStr_title_tabValue (layout : Json) (active : Option PaneId) :
    (tabValue layout active).getStr "title" = none := by
  cases active <;> rfl

theorem not_keepsTitle_of_tabValue (titled : titleOf manager tab = some title) {layout : Json}
    {active : Option PaneId}
    (held : after.tabLayouts.lookup tab = some (tabValue layout active)) :
    ¬KeepsTitle manager after tab := by
  rw [keepsTitle_of_lookup held, getStr_title_tabValue, titled]
  exact nofun

/-- The removal of a pane keeps the title of a tab that it does not shrink. -/
theorem keepsTitle_of_removal (titled : titleOf manager tab = some title) {pane : PaneId}
    (removed : after.tabLayouts.lookup tab = (manager.tabLayouts.lookup tab).bind fun value =>
      (purgeRevision pane value).apply value) :
    KeepsTitle manager after tab ↔ ¬Shrinks manager pane tab := by
  obtain ⟨value, held, -⟩ := bind_eq_some_iff.mp titled
  rw [held, bind_some] at removed
  rcases purgeRevision_cases pane value with ⟨none, keep⟩ | ⟨layout, atLayout, cases⟩
  · rw [keep] at removed
    refine iff_of_true (keepsTitle_of_same (removed.trans held.symm)) ?_
    rintro ⟨layout, _, found, -⟩
    obtain ⟨other, otherPresent, atLayout⟩ := layoutOf_eq_some_iff.mp found
    cases held.symm.trans otherPresent
    cases none.symm.trans atLayout
  · have found : manager.layoutOf tab = some layout :=
      layoutOf_eq_some_iff.mpr ⟨value, held, atLayout⟩
    have shrinks_iff : Shrinks manager pane tab ↔
        ∃ new, removePaneFromLayout pane layout = some new ∧ new ≠ layout := by
      refine ⟨?_, fun ⟨new, left⟩ => ⟨layout, new, found, left⟩⟩
      rintro ⟨other, new, otherFound, left⟩
      cases found.symm.trans otherFound
      exact ⟨new, left⟩
    rw [shrinks_iff]
    rcases cases with ⟨none, drop⟩ | ⟨same, keep⟩ | ⟨new, left, changed, write⟩
    · rw [drop] at removed
      exact iff_of_true (.inl removed) fun ⟨new, left, _⟩ => nomatch none.symm.trans left
    · rw [keep] at removed
      exact iff_of_true (keepsTitle_of_same (removed.trans held.symm)) fun ⟨new, left, changed⟩ =>
        changed (some.inj (left.symm.trans same))
    · rw [write] at removed
      exact iff_of_false (not_keepsTitle_of_tabValue titled removed)
        (not_not.mpr ⟨new, left, changed⟩)

theorem keepsTitle_of_insert {other : TabId} (ins : after.tabLayouts.lookup tab =
      if tab = other then some value else manager.tabLayouts.lookup tab) :
    KeepsTitle manager after tab ↔ ¬(other = tab ∧ value.getStr "title" ≠ titleOf manager tab) := by
  by_cases same : tab = other
  · rw [if_pos same] at ins
    rw [keepsTitle_of_lookup ins]
    simp [same]
  · rw [if_neg same] at ins
    exact iff_of_true (keepsTitle_of_same ins) fun written => same written.1.symm

theorem keepsTitle_of_tabValue (titled : titleOf manager tab = some title) {other : TabId}
    {layout : Json} {active : Option PaneId}
    (ins : after.tabLayouts.lookup tab = if tab = other then some (tabValue layout active)
      else manager.tabLayouts.lookup tab) :
    KeepsTitle manager after tab ↔ other ≠ tab := by
  rw [keepsTitle_of_insert ins, getStr_title_tabValue, titled]
  simp

end Title

/-! ### The operations -/

section Operations

variable {manager : SessionManager} {tab : TabId} {title : String}

theorem lookup_closeSession (manager : SessionManager) (pane : PaneId)
    (expected : Option SessionHandle) (tab : TabId) :
    ((∃ session, manager.sessions.lookup pane = some session ∧
        expected.any (· ≠ session.handle) = false) ∧
      (manager.closeSession pane expected).1.tabLayouts.lookup tab =
        (manager.tabLayouts.lookup tab).bind fun value =>
          (purgeRevision pane value).apply value) ∨
    ((¬∃ session, manager.sessions.lookup pane = some session ∧
        expected.any (· ≠ session.handle) = false) ∧
      (manager.closeSession pane expected).1 = manager) := by
  unfold closeSession
  cases removed : manager.removeSessionLocked pane expected with
  | some answer =>
    obtain ⟨closed, plan⟩ := answer
    refine .inl ⟨?_, (removeSessionLocked_spec removed).2 tab⟩
    unfold removeSessionLocked at removed
    split at removed
    · cases removed
    next session found =>
      split at removed
      · cases removed
      next expectedHandle =>
        exact ⟨session, found, Bool.eq_false_iff.mpr expectedHandle⟩
  | none =>
    refine .inr ⟨?_, rfl⟩
    rintro ⟨session, found, expectedHandle⟩
    unfold removeSessionLocked at removed
    rw [found] at removed
    dsimp only at removed
    rw [if_neg (Bool.eq_false_iff.mp expectedHandle)] at removed
    cases removed

theorem keepsTitle_manage (titled : titleOf manager tab = some title) (op : Operation)
    (other : ¬(TabOperation.manage op).Renames tab) :
    KeepsTitle manager (manager.step op) tab ↔ ¬(TabOperation.manage op).Writes manager tab := by
  obtain ⟨value, present, -⟩ := bind_eq_some_iff.mp titled
  cases op with
  | insertTab written new => exact keepsTitle_of_insert (insertTabLocked_lookup _ _ _ _)
  | updateLayout written new active =>
    exact keepsTitle_of_insert (insertTabLocked_lookup _ _ _ _)
  | insertTabForSession pane sess written new active =>
    change KeepsTitle manager (manager.insertTabForSession pane sess written new
      active).1 tab ↔ _
    unfold insertTabForSession
    split
    next cur =>
      exact (keepsTitle_of_insert (insertTabLocked_lookup _ _ _ _)).trans
        (not_congr (and_iff_right cur).symm)
    next superseded =>
      exact iff_of_true (keepsTitle_of_same rfl) fun written => superseded written.1
  | removeTab removed =>
    refine iff_of_true ?_ id
    by_cases same : tab = removed
    · exact .inl ((removeTabLocked_lookup _ _ _).trans (if_pos same))
    · exact keepsTitle_of_same ((removeTabLocked_lookup _ _ _).trans (if_neg same))
  | renameTab renamed new =>
    refine iff_of_true (keepsTitle_of_same ?_) id
    change (manager.renameTab renamed new).1.tabLayouts.lookup tab = _
    unfold renameTab
    split
    · split
      · exact (KeyMap.lookup_insert _ _ _ _).trans (if_neg fun same => other same.symm)
      · rfl
    · rfl
  | reorderTabs tabs =>
    refine iff_of_true (keepsTitle_of_same ?_) id
    simp only [step, reorderTabs]
    split
    · rfl
    · split <;> rfl
  | insertSession pane sess =>
    refine iff_of_true (keepsTitle_of_same ?_) id
    simp only [step, insertSession]
    split
    · rfl
    · split <;> rfl
  | reserveSession pane =>
    refine iff_of_true (keepsTitle_of_same ?_) id
    simp only [step, reserveSession]
    split <;> rfl
  | publish pane sess =>
    refine iff_of_true (keepsTitle_of_same ?_) id
    simp only [step, publish]
    split <;> rfl
  | setActivePaneId | dropReservation => exact iff_of_true (keepsTitle_of_same rfl) id
  | closeSession pane expected =>
    change KeepsTitle manager (manager.closeSession pane expected).1 tab ↔ _
    rcases lookup_closeSession manager pane expected tab with ⟨held, removed⟩ | ⟨missing, same⟩
    · rw [keepsTitle_of_removal titled removed, TabOperation.Writes, and_iff_right held]
    · rw [same]
      exact iff_of_true (keepsTitle_of_same rfl) fun written => missing written.1
  | closePane pane => exact keepsTitle_of_removal titled (lookup_closePane manager pane tab)
  | purgePane pane skipMatchingTab =>
    have purged := lookup_purgePaneFromLayoutsLocked manager pane skipMatchingTab tab
    unfold purgeRevise at purged
    cases skipped : skipMatchingTab && decide (tab = pane) with
    | true =>
      rw [skipped] at purged
      refine iff_of_true (keepsTitle_of_same (purged.trans ?_)) fun written => by
        cases skipped.symm.trans written.1
      rw [present]
      rfl
    | false =>
      rw [skipped] at purged
      exact (keepsTitle_of_removal titled purged).trans
        (not_congr (and_iff_right skipped).symm)
  | tabList =>
    refine iff_of_true ?_ id
    have pruned := lookup_pruneTabs manager tab
    rw [present, filter_some] at pruned
    split at pruned
    · exact keepsTitle_of_same (pruned.trans present.symm)
    · exact .inl pruned

theorem tabLayouts_createSession (manager : SessionManager) (pane : PaneId)
    (spawned : Except String SessionRecord) :
    (manager.createSession pane spawned).1.tabLayouts = manager.tabLayouts := by
  rcases createSession_cases manager pane spawned with ⟨-, error, failed⟩ | ⟨sess, -, -, made⟩
  · rw [failed]
  · rw [made]

section

variable (titled : titleOf manager tab = some title)
include titled

variable (other : TabId)

theorem keepsTitle_splitPane (req : SplitPaneRequest) (pane : PaneId)
    (splitId : String) (spawned : Except String SessionRecord) :
    KeepsTitle manager (splitPane manager other req pane splitId spawned).1 tab ↔
      ¬(TabOperation.splitPane other req pane splitId spawned).Writes manager tab := by
  unfold splitPane TabOperation.Writes
  cases loaded : loadWithPane manager "tab" "pane not found in tab" other req.paneId with
  | error rejection =>
    refine iff_of_true (keepsTitle_of_same rfl) ?_
    rintro ⟨layout, session, found, held, -⟩
    cases loaded.symm.trans (loadWithPane_eq_ok_iff.mpr ⟨found, held⟩)
  | ok layout =>
    obtain ⟨found, held⟩ := loadWithPane_eq_ok_iff.mp loaded
    rcases createSession_cases manager pane spawned with
      ⟨unable, error, failed⟩ | ⟨session, vacant, done, made⟩
    · simp only [failed]
      refine iff_of_true (keepsTitle_of_same rfl) ?_
      rintro ⟨_, session, -, -, vacant, done, -⟩
      rcases unable with taken | ⟨error, failed⟩
      · exact taken vacant
      · cases failed.symm.trans done
    · simp only [made]
      -- The layout that is read and the session that is made are the ones of the cond.
      have cond : (∃ layout session, manager.layoutOf other = some layout ∧
          req.paneId ∈ collectLeafPaneIds layout ∧ manager.Vacant pane ∧
          spawned = .ok session ∧
          if (splitLayout layout req splitId pane session).isSome then other = tab
          else Shrinks manager pane tab) ↔
          if (splitLayout layout req splitId pane session).isSome then other = tab
          else Shrinks manager pane tab := by
        refine ⟨?_, fun written => ⟨layout, session, found, held, vacant, done, written⟩⟩
        rintro ⟨layout', session', found', -, -, done', written⟩
        cases found.symm.trans found'
        cases done.symm.trans done'
        exact written
      rw [cond]
      cases split : splitLayout layout req splitId pane session with
      | some new =>
        exact keepsTitle_of_tabValue titled (insertTabLocked_lookup _ _ _ _)
      | none =>
        -- The session made for nothing is closed, and its pane leaves the tabs.
        rw [isSome_none, if_neg Bool.false_ne_true]
        refine keepsTitle_of_removal titled ?_
        rcases lookup_closeSession { manager with
          sessions := manager.sessions.insert pane session
          unownedSince := manager.unownedSince.erase pane } pane none tab with
          ⟨-, removed⟩ | ⟨missing, -⟩
        · exact removed
        · exact absurd ⟨session, (KeyMap.lookup_insert _ _ _ _).trans (if_pos rfl), rfl⟩ missing

theorem keepsTitle_insertNonTerminalPane (target : PaneId)
    (side splitId : String) (leaf : Json) (pane : PaneId) :
    KeepsTitle manager
        (insertNonTerminalPane manager other target side splitId leaf pane).1 tab ↔
      ¬(TabOperation.insertNonTerminalPane other target side splitId leaf pane).Writes
        manager tab := by
  unfold insertNonTerminalPane TabOperation.Writes
  generalize planned : (do
    let layout ← loadWithPane manager "tab" "pane not found in tab" other target
    let new ← orFail "failed to update layout"
      (insertSubtreeIntoLayout target side splitId leaf layout)
    .ok [.insert other new pane] : Except Rejection (List Write)) = plan
  cases plan with
  | error rejection =>
    refine iff_of_true (keepsTitle_of_same rfl) ?_
    rintro ⟨-, layout, new, found, held, ins⟩
    rw [loadWithPane_eq_ok_iff.mpr ⟨found, held⟩] at planned
    change (orFail _ _ >>= _) = _ at planned
    rw [ins] at planned
    cases planned
  | ok writes =>
    obtain ⟨layout, loaded, rest⟩ := bind_eq_ok_iff.mp planned
    obtain ⟨new, ins, done⟩ := bind_eq_ok_iff.mp rest
    obtain ⟨found, held⟩ := loadWithPane_eq_ok_iff.mp loaded
    cases done
    refine (keepsTitle_of_tabValue titled (insertTabLocked_lookup _ _ _ _)).trans
      (not_congr (and_iff_left ?_).symm)
    exact ⟨layout, new, found, held, orFail_eq_ok_iff.mp ins⟩

theorem keepsTitle_movePane (dest : TabId) (req : MovePaneRequest) (splitId : String) :
    KeepsTitle manager (movePane manager dest req splitId).1 tab ↔
      ¬(TabOperation.movePane dest req splitId).Writes manager tab := by
  dsimp only [movePane, TabOperation.Writes]
  cases planned : planMove manager dest req splitId with
  | error rejection =>
    refine iff_of_true (keepsTitle_of_same rfl) ?_
    rintro ⟨-, sourceLayout, layout, writes, taken⟩
    obtain ⟨ne, source, found, held, moves⟩ := taken
    cases planned.symm.trans (planMove_eq_ok_iff.mpr
      ⟨ne, sourceLayout, layout, source, found, held, moves⟩)
  | ok writes =>
    obtain ⟨ne, sourceLayout, layout, source, found, held, moves⟩ :=
      planMove_eq_ok_iff.mp planned
    rw [and_iff_left ⟨sourceLayout, layout, writes, ne, source, found, held, moves⟩]
    unfold Moves at moves
    cases whole : req.sourcePaneId with
    | none =>
      rw [whole] at moves
      obtain ⟨new, -, rfl⟩ := moves
      have after : (applyWrites manager [.remove req.sourceTabId,
          .insert dest new ((firstLeafId new).getD req.targetPaneId)]).tabLayouts.lookup
          tab = if tab = dest then
            some (tabValue new (some ((firstLeafId new).getD req.targetPaneId)))
          else if tab = req.sourceTabId then none else manager.tabLayouts.lookup tab :=
        (insertTabLocked_lookup _ _ _ _).trans
          (congrArg _ (removeTabLocked_lookup manager req.sourceTabId tab))
      by_cases here : tab = dest
      · rw [if_pos here] at after
        exact iff_of_false (not_keepsTitle_of_tabValue titled after) (not_not.mpr (.inl here.symm))
      · rw [if_neg here] at after
        refine iff_of_true ?_ ?_
        · split at after
          · exact .inl after
          · exact keepsTitle_of_same after
        · rintro (same | ⟨-, given⟩)
          · exact here same.symm
          · cases given
    | some pane =>
      rw [whole] at moves
      obtain ⟨leaf, left, new, -, -, rfl⟩ := moves
      have after : (applyWrites manager [.insert req.sourceTabId left
          ((firstLeafId left).getD req.targetPaneId),
          .insert dest new pane]).tabLayouts.lookup tab =
          if tab = dest then some (tabValue new (some pane))
          else if tab = req.sourceTabId then
            some (tabValue left (some ((firstLeafId left).getD req.targetPaneId)))
          else manager.tabLayouts.lookup tab :=
        (insertTabLocked_lookup _ _ _ _).trans
          (congrArg _ (insertTabLocked_lookup manager req.sourceTabId _ tab))
      by_cases here : tab = dest
      · rw [if_pos here] at after
        exact iff_of_false (not_keepsTitle_of_tabValue titled after) (not_not.mpr (.inl here.symm))
      · rw [if_neg here] at after
        by_cases there : tab = req.sourceTabId
        · rw [if_pos there] at after
          exact iff_of_false (not_keepsTitle_of_tabValue titled after)
            (not_not.mpr (.inr ⟨there.symm, rfl⟩))
        · rw [if_neg there] at after
          refine iff_of_true (keepsTitle_of_same after) ?_
          rintro (same | ⟨same, -⟩)
          · exact here same.symm
          · exact there same.symm

theorem keepsTitle_extractPane (source : TabId) (pane : PaneId) (newTab : TabId) :
    KeepsTitle manager (extractPane manager source pane newTab).1 tab ↔
      ¬(TabOperation.extractPane source pane newTab).Writes manager tab := by
  dsimp only [extractPane, TabOperation.Writes]
  cases planned : planExtract manager source pane newTab with
  | error rejection =>
    refine iff_of_true (keepsTitle_of_same rfl) ?_
    rintro ⟨-, layout, leaf, left, found, taken⟩
    cases planned.symm.trans (planExtract_eq_ok_iff.mpr ⟨layout, leaf, left, found, taken, rfl⟩)
  | ok writes =>
    obtain ⟨layout, leaf, left, found, taken, rfl⟩ := planExtract_eq_ok_iff.mp planned
    rw [and_iff_left ⟨layout, leaf, left, found, taken⟩]
    have after : (applyWrites manager [.insert source left ((firstLeafId left).getD pane),
        .insert newTab leaf pane]).tabLayouts.lookup tab =
        if tab = newTab then some (tabValue leaf (some pane))
        else if tab = source then some (tabValue left (some ((firstLeafId left).getD pane)))
        else manager.tabLayouts.lookup tab :=
      (insertTabLocked_lookup _ _ _ _).trans
        (congrArg _ (insertTabLocked_lookup manager source _ tab))
    by_cases here : tab = newTab
    · rw [if_pos here] at after
      exact iff_of_false (not_keepsTitle_of_tabValue titled after) (not_not.mpr (.inr here.symm))
    · rw [if_neg here] at after
      by_cases there : tab = source
      · rw [if_pos there] at after
        exact iff_of_false (not_keepsTitle_of_tabValue titled after)
          (not_not.mpr (.inl there.symm))
      · rw [if_neg there] at after
        refine iff_of_true (keepsTitle_of_same after) ?_
        rintro (same | same)
        · exact there same.symm
        · exact here same.symm

theorem keepsTitle_activatePane (pane : PaneId) :
    KeepsTitle manager (activatePane manager other pane).1 tab ↔
      ¬(TabOperation.activatePane other pane).Writes manager tab := by
  unfold activatePane TabOperation.Writes
  split
  next missing =>
    refine iff_of_true (keepsTitle_of_same rfl) ?_
    rintro ⟨rfl, layout, found, -⟩
    obtain ⟨value, present, -⟩ := layoutOf_eq_some_iff.mp found
    cases missing.symm.trans present
  next value present =>
    have nothing : collectLeafPaneIds .null = [] := by decide +kernel
    dsimp only
    split
    next held =>
      refine (keepsTitle_of_tabValue titled (insertTabLocked_lookup _ _ _ _)).trans
        (not_congr ⟨fun same => ⟨same, ?_⟩, fun written => written.1⟩)
      subst same
      cases atLayout : value.get "layout" with
      | none => simp [atLayout, nothing] at held
      | some layout =>
        rw [atLayout, getD_some] at held
        exact ⟨layout, layoutOf_eq_some_iff.mpr ⟨value, present, atLayout⟩, held⟩
    next missing =>
      refine iff_of_true (keepsTitle_of_same rfl) ?_
      rintro ⟨rfl, layout, found, held⟩
      obtain ⟨value', present', atLayout⟩ := layoutOf_eq_some_iff.mp found
      cases present.symm.trans present'
      rw [atLayout, getD_some] at missing
      exact missing held

theorem keepsTitle_updateLayout (layout : Json) (active : PaneId) :
    KeepsTitle manager (updateLayout manager other layout active).1 tab ↔ other ≠ tab := by
  unfold updateLayout
  split
  · exact keepsTitle_of_tabValue titled (insertTabLocked_lookup _ _ _ _)
  next missing =>
    refine iff_of_true (keepsTitle_of_same rfl) ?_
    rintro rfl
    obtain ⟨value, held, -⟩ := bind_eq_some_iff.mp titled
    simp [held] at missing

end

end Operations

theorem keepsTitle_apply_iff {manager : SessionManager} {tab : TabId} {title : String}
    (titled : titleOf manager tab = some title) (op : TabOperation)
    (other : ¬op.Renames tab) :
    KeepsTitle manager (op.apply manager) tab ↔ ¬op.Writes manager tab := by
  cases op with
  | manage op => exact keepsTitle_manage titled op other
  | splitPane => exact keepsTitle_splitPane titled _ _ _ _ _
  | insertNonTerminalPane => exact keepsTitle_insertNonTerminalPane titled _ _ _ _ _ _
  | movePane => exact keepsTitle_movePane titled _ _ _
  | extractPane => exact keepsTitle_extractPane titled _ _ _
  | activatePane => exact keepsTitle_activatePane titled _ _
  | updateLayout => exact keepsTitle_updateLayout titled _ _ _

/-! ### Runs -/

def applyAll (manager : SessionManager) (operations : List TabOperation) : SessionManager :=
  operations.foldl TabOperation.apply manager

/-- A run that neither renames nor removes the tab, and stores no layout for it. -/
def Spares (manager : SessionManager) (tab : TabId) (operations : List TabOperation) : Prop :=
  ∀ before operation after, operations = before ++ operation :: after →
    ¬operation.Renames tab ∧ ¬operation.Writes (applyAll manager before) tab ∧
      tab ∈ (operation.apply (applyAll manager before)).tabLayouts

theorem titleOf_applyAll {manager : SessionManager} {tab : TabId} {title : String}
    (titled : titleOf manager tab = some title) {operations : List TabOperation}
    (spares : Spares manager tab operations) :
    titleOf (applyAll manager operations) tab = some title := by
  induction operations using List.reverseRecOn with
  | nil => exact titled
  | append_singleton before op ih =>
    have kept := ih fun first step rest same =>
      spares first step (rest ++ [op]) (by rw [same]; simp)
    obtain ⟨other, unwritten, held⟩ := spares before op [] rfl
    rw [applyAll, List.foldl_append]
    rcases (keepsTitle_apply_iff kept op other).mpr unwritten with gone | same
    · rw [← AList.lookup_isSome, gone] at held
      cases held
    · exact same.trans kept

/-- The title of a tab survives an operation exactly when it stores no layout for the tab, and every
run of such operations. -/
theorem title_survives_iff {manager : SessionManager} {tab : TabId} {title : String}
    (titled : titleOf manager tab = some title) :
    (∀ operation : TabOperation, ¬operation.Renames tab →
      (KeepsTitle manager (operation.apply manager) tab ↔ ¬operation.Writes manager tab)) ∧
    ∀ operations, Spares manager tab operations →
      titleOf (applyAll manager operations) tab = some title :=
  ⟨fun operation other => keepsTitle_apply_iff titled operation other,
    fun _ spares => titleOf_applyAll titled spares⟩

/-- A tab of one leaf that a user has renamed. -/
def renamed : SessionManager :=
  run [.insertTab "t1"
      (tabValue (.obj [("type", .str "leaf"), ("paneId", .str "p1")]) (some "p1")),
    .renameTab "t1" "Build"]

theorem title_survives_iff_renamed : (∀ operation : TabOperation, ¬operation.Renames "t1" →
      (KeepsTitle renamed (operation.apply renamed) "t1" ↔ ¬operation.Writes renamed "t1")) ∧
    ∀ operations, Spares renamed "t1" operations →
      titleOf (applyAll renamed operations) "t1" = some "Build" :=
  title_survives_iff (by decide +kernel)

/-- A client stores the layout that the tab has, and the title is gone. -/
theorem title_lost_to_same_layout : ¬KeepsTitle renamed ((TabOperation.manage (.updateLayout "t1"
        (tabValue (.obj [("type", .str "leaf"), ("paneId", .str "p1")]) (some "p1"))
        (some "p1"))).apply renamed) "t1" := by
  unfold KeepsTitle
  decide +kernel

end Dinotty.Tabs.Stored
