/-
This file is what closing a pane does to the tabs as they are stored. A tab that did not hold the
pane is left alone when all of its layout can be read; a removal takes an odd node for an empty one,
and a tab with nothing else goes.
-/

import Dinotty.Session.StoredTabs

namespace Dinotty.Session.Stored

open Option

namespace SessionManager

variable {new : Json}

theorem repairActive_mem {value : Json} {active : PaneId}
    (repaired : repairActive value new = some active) : active ∈ collectLeafPaneIds new := by
  rcases or_eq_some_iff.mp repaired with kept | ⟨-, first⟩
  · exact of_decide_eq_true (filter_eq_some_iff.mp kept).2
  · exact List.mem_of_mem_head? first

theorem repairActive_isSome {value : Json} (leaf : collectLeafPaneIds new ≠ []) :
    (repairActive value new).isSome = true := by
  obtain ⟨first, rest, same⟩ := List.exists_cons_of_ne_nil leaf
  simp [repairActive, same]

/-- Closing a pane leaves no layout that holds the pane and no tab changed that did not hold it, it
removes a tab only when no other leaf is left, the active pane of a changed tab is one of its
leaves, and the pane is not the active one of all. -/
structure ClosesCleanly (manager : SessionManager) (pane : PaneId) : Prop where
  complete : ∀ tab layout, (manager.closePane pane).1.layoutOf tab = some layout →
    pane ∉ collectLeafPaneIds layout
  untouched : ∀ tab value, manager.tabLayouts.lookup tab = some value →
    (∀ layout, value.get "layout" = some layout → pane ∉ collectLeafPaneIds layout) →
    (manager.closePane pane).1.tabLayouts.lookup tab = some value
  emptied : ∀ tab layout, manager.layoutOf tab = some layout → pane ∈ collectLeafPaneIds layout →
    (manager.closePane pane).1.tabLayouts.lookup tab = none →
    ∀ other ∈ collectLeafPaneIds layout, other = pane
  active : ∀ tab value layout, (manager.closePane pane).1.tabLayouts.lookup tab = some value →
    manager.tabLayouts.lookup tab ≠ some value → value.get "layout" = some layout →
    (∀ active, value.getStr "active_pane_id" = some active → active ∈ collectLeafPaneIds layout) ∧
    (collectLeafPaneIds layout ≠ [] → (value.getStr "active_pane_id").isSome = true)
  global : (manager.closePane pane).1.activePaneId ≠ some pane

theorem lookup_closePane_eq_some_iff {mgr : SessionManager} {pane : PaneId} {tab : TabId} :
    (mgr.closePane pane).1.tabLayouts.lookup tab = some new ↔
      ∃ value, mgr.tabLayouts.lookup tab = some value ∧
        (purgeRevision pane value).apply value = some new := by
  rw [lookup_closePane, bind_eq_some_iff]

/-- Closing a pane is local and complete exactly when all of each layout that does not hold the
pane can be read. -/
theorem closesCleanly_iff (manager : SessionManager) (pane : PaneId) : manager.ClosesCleanly pane ↔
      ∀ tab layout, manager.layoutOf tab = some layout → pane ∉ collectLeafPaneIds layout →
        Readable layout := by
  constructor
  · intro clean tab layout found absent
    obtain ⟨value, present, atLayout⟩ := layoutOf_eq_some_iff.mp found
    have kept := clean.untouched tab value present fun other atOther =>
      some.inj (atLayout.symm.trans atOther) ▸ absent
    obtain ⟨before, presentBefore, applied⟩ := lookup_closePane_eq_some_iff.mp kept
    cases present.symm.trans presentBefore
    refine (removePaneFromLayout_eq_self_iff absent).mp ?_
    rcases purgeRevision_cases pane value with ⟨none, -⟩ | ⟨other, atOther, cases⟩
    · cases none.symm.trans atLayout
    · cases atLayout.symm.trans atOther
      rcases cases with ⟨-, drop⟩ | ⟨same, -⟩ | ⟨new, -, changed, write⟩
      · rw [drop] at applied
        cases applied
      · exact same
      · rw [write] at applied
        have atNew := congrArg (Json.get "layout") (some.inj applied)
        rw [get_layout_tabValue, atLayout] at atNew
        exact absurd (some.inj atNew) changed
  · intro readable
    refine ⟨?_, ?_, ?_, ?_, activePaneId_closePane manager pane⟩
    · intro tab layout found
      obtain ⟨new, present, atNew⟩ := layoutOf_eq_some_iff.mp found
      obtain ⟨value, -, applied⟩ := lookup_closePane_eq_some_iff.mp present
      obtain ⟨before, -, removed⟩ := removed_of_purgeRevision applied atNew
      have panes := panes_removePaneFromLayout pane before
      rw [removed, elim_some] at panes
      rw [panes]
      simp
    · intro tab value present absent
      rw [lookup_closePane_eq_some_iff]
      refine ⟨value, present, ?_⟩
      rcases purgeRevision_cases pane value with ⟨-, keep⟩ | ⟨layout, atLayout, cases⟩
      · rw [keep]
        rfl
      · have same := (removePaneFromLayout_eq_self_iff (absent layout atLayout)).mpr
          (readable tab layout (layoutOf_eq_some_iff.mpr ⟨value, present, atLayout⟩)
            (absent layout atLayout))
        rcases cases with ⟨none, -⟩ | ⟨-, keep⟩ | ⟨new, removed, changed, -⟩
        · cases none.symm.trans same
        · rw [keep]
          rfl
        · exact absurd (some.inj (removed.symm.trans same)) changed
    · intro tab layout found held gone other member
      obtain ⟨value, present, atLayout⟩ := layoutOf_eq_some_iff.mp found
      rw [lookup_closePane, present, bind_some] at gone
      have panes := panes_removePaneFromLayout pane layout
      rcases purgeRevision_cases pane value with ⟨none, -⟩ | ⟨before, atBefore, cases⟩
      · cases none.symm.trans atLayout
      · cases atLayout.symm.trans atBefore
        rcases cases with ⟨removed, -⟩ | ⟨-, keep⟩ | ⟨new, -, -, write⟩
        · rw [removed, elim_none] at panes
          by_contra different
          have left : other ∈ (collectLeafPaneIds layout).filter (· ≠ pane) :=
            List.mem_filter.mpr ⟨member, decide_eq_true different⟩
          rw [← panes] at left
          cases left
        · rw [keep] at gone
          cases gone
        · rw [write] at gone
          cases gone
    · intro tab new layout present changed atNew
      obtain ⟨value, before, applied⟩ := lookup_closePane_eq_some_iff.mp present
      have written : ∃ left, new = tabValue left (repairActive value left) := by
        rcases purgeRevision_cases pane value with ⟨-, keep⟩ | ⟨_, _, cases⟩
        · rw [keep] at applied
          exact absurd (applied ▸ before) changed
        · rcases cases with ⟨-, drop⟩ | ⟨-, keep⟩ | ⟨left, -, -, write⟩
          · rw [drop] at applied
            cases applied
          · rw [keep] at applied
            exact absurd (applied ▸ before) changed
          · rw [write] at applied
            exact ⟨left, (some.inj applied).symm⟩
      obtain ⟨left, rfl⟩ := written
      cases atNew
      rw [getStr_active_tabValue]
      exact ⟨fun active repaired => repairActive_mem repaired, repairActive_isSome⟩

/-- A tab of one leaf, and another whose layout a client has sent as null. -/
def withOddTab : SessionManager :=
  run [.updateLayout "t1"
      (tabValue (.obj [("type", .str "leaf"), ("paneId", .str "p1")]) (some "p1")) (some "p1"),
    .updateLayout "t2" (tabValue .null (some "p2")) (some "p2")]

/-- Closing the pane of the first tab takes the odd tab with it. -/
theorem odd_tab_goes_along : ¬withOddTab.ClosesCleanly "p1" := by
  intro clean
  have kept := clean.untouched "t2" (tabValue .null (some "p2")) (by decide +kernel) (by
    intro layout found
    cases found.symm.trans (get_layout_tabValue .null _)
    decide +kernel)
  have gone : (withOddTab.closePane "p1").1.tabLayouts.lookup "t2" = none := by decide +kernel
  cases gone.symm.trans kept

end SessionManager

end Dinotty.Session.Stored
