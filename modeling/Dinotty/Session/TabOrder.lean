/-
This file is the order of the tabs: it lists every tab once and nothing else, and an order that a
client sends is followed as far as it names tabs that are there.
-/

import Dinotty.Session.StoredTabs

namespace Dinotty.Session.Stored.SessionManager

open List

/-- The order lists each tab once, and nothing else. -/
structure Ordered (manager : SessionManager) : Prop where
  nodup : manager.tabOrder.Nodup
  mem_iff : ∀ tab, tab ∈ manager.tabOrder ↔ (manager.tabLayouts.lookup tab).isSome = true

namespace Ordered

variable {manager : SessionManager}

section

variable (ordered : manager.Ordered)
include ordered

theorem congr {other : SessionManager} (sameOrder : other.tabOrder = manager.tabOrder)
    (sameTabs : other.tabLayouts = manager.tabLayouts) : other.Ordered :=
  ⟨sameOrder ▸ ordered.nodup, sameOrder ▸ sameTabs ▸ ordered.mem_iff⟩

variable (tab : TabId)

theorem insertTabLocked (value : Json) : (manager.insertTabLocked tab value).Ordered := by
  constructor
  · rw [SessionManager.insertTabLocked]
    split
    · exact ordered.nodup
    next absent =>
      exact ordered.nodup.append (nodup_singleton tab) (by simpa using absent)
  · intro other
    rw [insertTabLocked_lookup, SessionManager.insertTabLocked]
    by_cases same : other = tab
    · rw [if_pos same, same]
      split <;> simp_all
    · rw [if_neg same, ← ordered.mem_iff]
      split <;> simp [same]

theorem removeTabLocked : (manager.removeTabLocked tab).1.Ordered := by
  constructor
  · exact ordered.nodup.filter _
  · intro other
    rw [removeTabLocked_lookup, SessionManager.removeTabLocked, mem_filter, ordered.mem_iff]
    by_cases same : other = tab <;> simp [same]

theorem foldl_insertTabLocked (updates : List (TabId × Json)) :
    (updates.foldl (fun manager (tab, value) => manager.insertTabLocked tab value)
      manager).Ordered := by
  induction updates generalizing manager with
  | nil => exact ordered
  | cons update rest ih =>
    exact ih (ordered.insertTabLocked update.1 update.2)

theorem foldl_removeTabLocked (tabs : List TabId) :
    (tabs.foldl (fun manager tab => (manager.removeTabLocked tab).1) manager).Ordered := by
  induction tabs generalizing manager with
  | nil => exact ordered
  | cons tab rest ih => exact ih (ordered.removeTabLocked tab)

theorem updateLayoutLocked (value : Json) (active : Option PaneId) :
    (manager.updateLayoutLocked tab value active).Ordered :=
  (ordered.insertTabLocked tab value).congr rfl rfl

variable (pane : PaneId)

theorem purgePaneFromLayoutsLocked (skipMatchingTab : Bool) :
    (manager.purgePaneFromLayoutsLocked pane skipMatchingTab).1.Ordered :=
  (ordered.foldl_insertTabLocked _).foldl_removeTabLocked _

theorem collectLayoutCloseLocked (fallbackTab : Bool) :
    (manager.collectLayoutCloseLocked pane fallbackTab).1.Ordered :=
  (ordered.purgePaneFromLayoutsLocked pane false).congr rfl rfl

theorem removeSessionLocked {pane : PaneId} {expected : Option SessionHandle}
    {closed : SessionManager} {plan : ClosePlan}
    (removed : manager.removeSessionLocked pane expected = some (closed, plan)) :
    closed.Ordered := by
  unfold SessionManager.removeSessionLocked at removed
  split at removed
  · cases removed
  · split at removed
    · cases removed
    · cases removed
      have erased : ({ manager with
          sessions := manager.sessions.erase pane
          unownedSince := manager.unownedSince.erase pane } : SessionManager).Ordered :=
        ordered.congr rfl rfl
      exact erased.collectLayoutCloseLocked pane true

theorem closeSession (expected : Option SessionHandle) :
    (manager.closeSession pane expected).1.Ordered := by
  unfold SessionManager.closeSession
  split
  next removed =>
    exact ordered.removeSessionLocked removed
  · exact ordered

theorem closePane : (manager.closePane pane).1.Ordered := by
  unfold SessionManager.closePane
  split
  next removed =>
    exact ordered.removeSessionLocked removed
  · exact ordered.collectLayoutCloseLocked pane false

theorem renameTab (title : String) : (manager.renameTab tab title).1.Ordered := by
  unfold SessionManager.renameTab
  split
  next value found =>
    split
    · refine ⟨ordered.nodup, fun other => ?_⟩
      rw [ordered.mem_iff, KeyMap.lookup_insert]
      by_cases same : other = tab
      · rw [if_pos same, same, found]
        rfl
      · rw [if_neg same]
    · exact ordered
  · exact ordered

end

end Ordered

/-! ### Reordering -/

theorem foldl_listTab (known : TabId → Bool) (tabs : List TabId) :
    (∀ tab, tab ∈ (tabs.foldl (listTab known) ([], [])).1 ↔ tab ∈ tabs) ∧
    (tabs.foldl (listTab known) ([], [])).2 = (tabs.filter known).eraseDups ∧
    (tabs.foldl (listTab known) ([], [])).2.Nodup := by
  induction tabs using reverseRecOn with
  | nil => simp
  | append_singleton rest tab ih =>
    obtain ⟨seen, listed, nodup⟩ := ih
    have inListed : ∀ other, other ∈ (rest.foldl (listTab known) ([], [])).2 ↔
        other ∈ rest ∧ known other = true := by
      intro other
      rw [listed, mem_eraseDups, mem_filter]
    rw [foldl_append, foldl_cons, foldl_nil, filter_append, eraseDups_append, ← listed]
    generalize rest.foldl (listTab known) ([], []) = before at seen nodup inListed
    unfold listTab
    by_cases again : tab ∈ rest
    · rw [if_pos ((seen tab).mpr again)]
      refine ⟨fun other => ?_, ?_, nodup⟩
      · rw [seen, mem_append, mem_singleton]
        exact ⟨Or.inl, fun either => either.elim id fun same => same ▸ again⟩
      · by_cases isKnown : known tab = true <;> simp [isKnown, again, removeAll]
    · rw [if_neg fun mem => again ((seen tab).mp mem)]
      refine ⟨fun other => ?_, ?_, ?_⟩
      · rw [mem_cons, seen, mem_append, mem_singleton, or_comm]
      · by_cases isKnown : known tab = true
        · simp [isKnown, again, removeAll, eraseDups_cons]
        · simp [isKnown, removeAll]
      · dsimp only
        split
        · refine nodup.append (nodup_singleton tab) ?_
          simpa using fun mem => again ((inListed tab).mp mem).1
        · exact nodup

variable {manager : SessionManager}

/-- The new order puts the listed tabs that are there first and keeps the others in their
order behind them. -/
theorem tabOrder_reorderTabs (ordered : manager.Ordered) (tabs : List TabId) :
    (manager.reorderTabs tabs).1.tabOrder =
      (tabs.filter fun tab => (manager.tabLayouts.lookup tab).isSome).eraseDups ++
        manager.tabOrder.filter (· ∉ tabs) := by
  obtain ⟨seen, listed, -⟩ := foldl_listTab (fun tab => (manager.tabLayouts.lookup tab).isSome) tabs
  have others : manager.tabOrder.filter
      (· ∉ (tabs.foldl (listTab fun tab => (manager.tabLayouts.lookup tab).isSome)
        ([], [])).1) = manager.tabOrder.filter (· ∉ tabs) :=
    filter_congr fun tab _ => by simp only [seen]
  rw [reorderTabs]
  simp only [others]
  split
  next empty =>
    -- No tab is listed, so none of the order is.
    rw [← listed, isEmpty_iff.mp empty, nil_append]
    refine (filter_eq_self.mpr fun tab mem => ?_).symm
    rw [decide_eq_true_eq]
    intro inTabs
    have held := (ordered.mem_iff tab).mp mem
    have inListed : tab ∈ (tabs.filter fun tab =>
        (manager.tabLayouts.lookup tab).isSome).eraseDups :=
      mem_eraseDups.mpr (mem_filter.mpr ⟨inTabs, held⟩)
    rw [← listed, isEmpty_iff.mp empty] at inListed
    cases inListed
  · rw [← listed]
    split
    · assumption
    · rfl

theorem Ordered.reorderTabs (ordered : manager.Ordered) (tabs : List TabId) :
    (manager.reorderTabs tabs).1.Ordered := by
  have order := tabOrder_reorderTabs ordered tabs
  have sameTabs : (manager.reorderTabs tabs).1.tabLayouts = manager.tabLayouts := by
    simp only [SessionManager.reorderTabs]
    split
    · rfl
    · split <;> rfl
  obtain ⟨-, listed, nodup⟩ :=
    foldl_listTab (fun tab => (manager.tabLayouts.lookup tab).isSome) tabs
  rw [listed] at nodup
  constructor
  · rw [order]
    refine nodup.append (ordered.nodup.filter _) fun tab inListed inOthers => ?_
    have inTabs := (mem_filter.mp (mem_eraseDups.mp inListed)).1
    simp [inTabs] at inOthers
  · intro tab
    rw [order, sameTabs, mem_append, mem_eraseDups, mem_filter, mem_filter, ordered.mem_iff]
    by_cases inTabs : tab ∈ tabs <;> simp [inTabs]

/-! ### Runs -/

theorem Ordered.step (ordered : manager.Ordered) (op : Operation) : (manager.step op).Ordered := by
  cases op with
  | insertTab tab value => exact ordered.insertTabLocked tab value
  | removeTab tab => exact ordered.removeTabLocked tab
  | updateLayout tab value active => exact ordered.updateLayoutLocked tab value active
  | renameTab tab title => exact ordered.renameTab tab title
  | reorderTabs tabs => exact ordered.reorderTabs tabs
  | insertTabForSession pane sess tab value active =>
    change (manager.insertTabForSession pane sess tab value active).1.Ordered
    unfold insertTabForSession
    split
    · exact ordered.updateLayoutLocked tab value (some active)
    · exact ordered
  | insertSession pane sess =>
    refine ordered.congr ?_ ?_ <;>
    · simp only [SessionManager.step, SessionManager.insertSession]
      split <;> (try split) <;> rfl
  | reserveSession pane =>
    refine ordered.congr ?_ ?_ <;>
    · simp only [SessionManager.step, reserveSession]
      split <;> rfl
  | publish pane sess =>
    refine ordered.congr ?_ ?_ <;>
    · simp only [SessionManager.step, publish]
      split <;> rfl
  | setActivePaneId | dropReservation => exact ordered.congr rfl rfl
  | closeSession pane expected => exact ordered.closeSession pane expected
  | closePane pane => exact ordered.closePane pane
  | purgePane pane skipMatchingTab =>
    exact ordered.purgePaneFromLayoutsLocked pane skipMatchingTab
  | tabList => exact ordered.foldl_removeTabLocked _

theorem ordered_run (operations : List Operation) : (run operations).Ordered := by
  induction operations using reverseRecOn with
  | nil => exact ⟨nodup_nil, fun tab => by simp [run]⟩
  | append_singleton before op ih =>
    rw [run, foldl_append]
    exact ih.step op

/-- After any run the order lists each tab once and nothing else, and a client's order puts the tabs
that it names first, and leaves the others in their order behind them. -/
theorem run_tabOrder (operations : List Operation) : (run operations).tabOrder.Nodup ∧
    (∀ tab, tab ∈ (run operations).tabOrder ↔
      ((run operations).tabLayouts.lookup tab).isSome = true) ∧
    ∀ tabs, ((run operations).reorderTabs tabs).1.tabOrder =
      (tabs.filter fun tab => ((run operations).tabLayouts.lookup tab).isSome).eraseDups ++
        (run operations).tabOrder.filter (· ∉ tabs) :=
  have ordered := ordered_run operations
  ⟨ordered.nodup, ordered.mem_iff, tabOrder_reorderTabs ordered⟩

end Dinotty.Session.Stored.SessionManager
