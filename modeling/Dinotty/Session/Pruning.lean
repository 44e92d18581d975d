/-
This file is the pruning of the tabs before they are listed. A tab goes when it has no leaf, or when
one of its terminal leaves has no session, and the live terminals in it go too.
-/

import Dinotty.Session.StoredTabs

namespace Dinotty.Session.Stored.SessionManager

open List Option KeyMap

def Live (manager : SessionManager) (pane : PaneId) : Prop :=
  (manager.sessions.lookup pane).isSome = true

/-- Listing the tabs removes no tab with a live terminal and none that has leaves but no terminal,
and each terminal of a tab that it lists is live. -/
structure PrunesSafely (manager : SessionManager) : Prop where
  living : ∀ tab layout, manager.layoutOf tab = some layout →
    ∀ pane ∈ collectTerminalLeafPaneIds layout, manager.Live pane →
    tab ∈ manager.tabList.1.tabLayouts
  nonTerminal : ∀ tab layout, manager.layoutOf tab = some layout →
    collectLeafPaneIds layout ≠ [] → collectTerminalLeafPaneIds layout = [] →
    tab ∈ manager.tabList.1.tabLayouts
  listed : ∀ info ∈ manager.tabList.2.1, ∀ layout, info.layout = some layout →
    ∀ pane ∈ collectTerminalLeafPaneIds layout, manager.tabList.1.Live pane

/-- No tab has both a terminal with a session and one without. -/
def Unmixed (manager : SessionManager) : Prop :=
  ∀ tab layout, manager.layoutOf tab = some layout →
    ∀ pane ∈ collectTerminalLeafPaneIds layout, ∀ other ∈ collectTerminalLeafPaneIds layout,
      manager.Live pane → manager.Live other

/-! ### What pruning removes -/

variable {manager : SessionManager}

theorem stale_eq_false_iff {value layout : Json} (atLayout : value.get "layout" = some layout) :
    manager.stale value = false ↔ collectLeafPaneIds layout ≠ [] ∧
      ∀ pane ∈ collectTerminalLeafPaneIds layout, manager.Live pane := by
  simp [stale, atLayout, Live, isSome_iff_ne_none]

theorem mem_pruneTabs {tab : TabId} : tab ∈ manager.pruneTabs.tabLayouts ↔
      ∃ value, manager.tabLayouts.lookup tab = some value ∧ manager.stale value = false := by
  rw [← AList.lookup_isSome, lookup_pruneTabs, isSome_iff_exists]
  simp

theorem leafPanes_ne_nil_of_terminal {layout : Json} {pane : PaneId}
    (terminal : pane ∈ collectTerminalLeafPaneIds layout) : collectLeafPaneIds layout ≠ [] := by
  rw [collectTerminalLeafPaneIds_leaves] at terminal
  obtain ⟨leaf, mem, named⟩ := mem_filterMap.mp terminal
  have inPanes : pane ∈ collectLeafPaneIds layout := by
    rw [collectLeafPaneIds_leaves]
    exact mem_filterMap.mpr ⟨leaf, (mem_filter.mp mem).1, named⟩
  exact ne_nil_of_mem inPanes

theorem of_mem_tabList {info : TabInfo} (mem : info ∈ manager.tabList.2.1) :
    ∃ value, manager.stale value = false ∧
      info.layout = (value.get "layout").map ensureLeafKind := by
  obtain ⟨⟨tab, value⟩, inEntries, rfl⟩ := List.mem_map.mp (mem_mergeSort.mp mem)
  have held := lookup_eq_some_iff.mpr inEntries
  rw [lookup_pruneTabs, filter_eq_some_iff, Bool.not_eq_true'] at held
  exact ⟨value, held.2, rfl⟩

theorem sessions_tabList (manager : SessionManager) :
    manager.tabList.1.sessions = manager.sessions :=
  congrArg Prod.fst (beside_pruneTabs manager)

/-- Pruning is safe exactly when no tab has both a live and a dead terminal. -/
theorem prunesSafely_iff (manager : SessionManager) : manager.PrunesSafely ↔ manager.Unmixed := by
  constructor
  · intro safe tab layout found pane terminal other otherTerminal live
    obtain ⟨value, held, fresh⟩ :=
      mem_pruneTabs.mp (safe.living tab layout found pane terminal live)
    obtain ⟨value', present', atLayout⟩ := layoutOf_eq_some_iff.mp found
    cases held.symm.trans present'
    exact ((stale_eq_false_iff atLayout).mp fresh).2 other otherTerminal
  · intro unmixed
    refine ⟨?_, ?_, ?_⟩
    · intro tab layout found pane terminal live
      obtain ⟨value, held, atLayout⟩ := layoutOf_eq_some_iff.mp found
      refine mem_pruneTabs.mpr ⟨value, held, (stale_eq_false_iff atLayout).mpr ⟨?_, ?_⟩⟩
      · exact leafPanes_ne_nil_of_terminal terminal
      · exact fun other otherTerminal =>
          unmixed tab layout found pane terminal other otherTerminal live
    · intro tab layout found leaf none
      obtain ⟨value, held, atLayout⟩ := layoutOf_eq_some_iff.mp found
      refine mem_pruneTabs.mpr ⟨value, held, (stale_eq_false_iff atLayout).mpr ⟨leaf, ?_⟩⟩
      rw [none]
      exact nofun
    · intro info mem layout atInfo pane terminal
      obtain ⟨value, fresh, same⟩ := of_mem_tabList mem
      obtain ⟨stored, atLayout, rfl⟩ := map_eq_some_iff.mp (same.symm.trans atInfo)
      rw [terminalPanes_ensureLeafKind] at terminal
      rw [Live, sessions_tabList]
      exact ((stale_eq_false_iff atLayout).mp fresh).2 pane terminal

/-! ### Which steps keep the tabs unmixed -/

/-- A value whose terminals are all live, or none of them. -/
def Coherent (manager : SessionManager) (value : Json) : Prop :=
  ∀ layout, value.get "layout" = some layout →
    ∀ pane ∈ collectTerminalLeafPaneIds layout, ∀ other ∈ collectTerminalLeafPaneIds layout,
      manager.Live pane → manager.Live other

/-- What a step writes is coherent, and a session is started only for a pane that shares no tab with
another terminal. -/
def Careful (manager : SessionManager) : Operation → Prop
  | .insertTab _ value | .updateLayout _ value _ | .insertTabForSession _ _ _ value _ =>
      manager.Coherent value
  | .insertSession pane _ | .publish pane _ =>
      ∀ tab layout, manager.layoutOf tab = some layout → pane ∈ collectTerminalLeafPaneIds layout →
        ∀ other ∈ collectTerminalLeafPaneIds layout, other = pane
  | _ => True

namespace Unmixed

variable {manager : SessionManager}

variable {after : SessionManager}

section

variable (unmixed : manager.Unmixed)
include unmixed

theorem of_subset (subset : ∀ tab layout, after.layoutOf tab = some layout →
      ∃ before, manager.layoutOf tab = some before ∧ ∀ pane ∈ collectTerminalLeafPaneIds layout,
          pane ∈ collectTerminalLeafPaneIds before ∧ (after.Live pane ↔ manager.Live pane)) :
    after.Unmixed := by
  intro tab layout found pane terminal other otherTerminal live
  obtain ⟨before, foundBefore, kept⟩ := subset tab layout found
  obtain ⟨mem, same⟩ := kept pane terminal
  obtain ⟨otherMember, otherSame⟩ := kept other otherTerminal
  exact otherSame.mpr (unmixed tab before foundBefore pane mem other otherMember (same.mp live))

theorem congr (sameSessions : after.sessions = manager.sessions)
    (sameLayouts : ∀ tab, after.layoutOf tab = manager.layoutOf tab) : after.Unmixed :=
  unmixed.of_subset fun tab layout found =>
    ⟨layout, sameLayouts tab ▸ found, fun _ terminal => ⟨terminal, by rw [Live, Live, sameSessions]⟩⟩

theorem insertTabLocked (tab : TabId) {value : Json} (coherent : manager.Coherent value) :
    (manager.insertTabLocked tab value).Unmixed := by
  intro other layout found
  obtain ⟨found', held, atLayout⟩ := layoutOf_eq_some_iff.mp found
  rw [insertTabLocked_lookup] at held
  split at held
  · cases held
    exact coherent layout atLayout
  · exact unmixed other layout (layoutOf_eq_some_iff.mpr ⟨found', held, atLayout⟩)

variable (pane : PaneId)

theorem of_removal (tabs : ∀ tab new, after.tabLayouts.lookup tab = some new →
      ∃ value, manager.tabLayouts.lookup tab = some value ∧
        (new = value ∨ (purgeRevision pane value).apply value = some new))
    (live : ∀ other, after.Live other ↔ manager.Live other) : after.Unmixed := by
  refine unmixed.of_subset fun tab layout found => ?_
  obtain ⟨new, held, atNew⟩ := layoutOf_eq_some_iff.mp found
  obtain ⟨value, before, rfl | applied⟩ := tabs tab new held
  · exact ⟨layout, layoutOf_eq_some_iff.mpr ⟨_, before, atNew⟩, fun other terminal =>
      ⟨terminal, live other⟩⟩
  · obtain ⟨old, atOld, removed⟩ := removed_of_purgeRevision applied atNew
    refine ⟨old, layoutOf_eq_some_iff.mpr ⟨value, before, atOld⟩, fun other terminal =>
      ⟨?_, live other⟩⟩
    have panes := terminalPanes_removePaneFromLayout pane old
    rw [removed, elim_some] at panes
    exact (mem_filter.mp (panes ▸ terminal)).1

theorem purgePaneFromLayoutsLocked (skipMatchingTab : Bool) :
    (manager.purgePaneFromLayoutsLocked pane skipMatchingTab).1.Unmixed := by
  refine unmixed.of_removal pane (fun tab new held => ?_) fun other => ?_
  · rw [lookup_purgePaneFromLayoutsLocked, bind_eq_some_iff] at held
    obtain ⟨value, before, applied⟩ := held
    refine ⟨value, before, ?_⟩
    unfold purgeRevise at applied
    split at applied
    · exact .inl (some.inj applied).symm
    · exact .inr applied
  · have same := congrArg Prod.fst
      (beside_purgePaneFromLayoutsLocked manager pane skipMatchingTab)
    rw [Live, Live, show (manager.purgePaneFromLayoutsLocked pane skipMatchingTab).1.sessions =
      manager.sessions from same]

theorem collectLayoutCloseLocked (fallbackTab : Bool) :
    (manager.collectLayoutCloseLocked pane fallbackTab).1.Unmixed :=
  (unmixed.purgePaneFromLayoutsLocked pane false).congr rfl fun _ => rfl

theorem removeSessionLocked {pane : PaneId} {expected : Option SessionHandle}
    {closed : SessionManager} {plan : ClosePlan}
    (removed : manager.removeSessionLocked pane expected = some (closed, plan)) :
    closed.Unmixed := by
  obtain ⟨sessions, tabs⟩ := removeSessionLocked_spec removed
  refine unmixed.of_subset fun tab layout found => ?_
  obtain ⟨new, held, atNew⟩ := layoutOf_eq_some_iff.mp found
  rw [tabs, bind_eq_some_iff] at held
  obtain ⟨value, before, applied⟩ := held
  obtain ⟨old, atOld, removed⟩ := removed_of_purgeRevision applied atNew
  refine ⟨old, layoutOf_eq_some_iff.mpr ⟨value, before, atOld⟩, fun other terminal => ?_⟩
  have panes := terminalPanes_removePaneFromLayout pane old
  rw [removed, elim_some] at panes
  obtain ⟨mem, ne⟩ := mem_filter.mp (panes ▸ terminal)
  refine ⟨mem, ?_⟩
  rw [Live, Live, sessions, lookup_erase, if_neg (of_decide_eq_true ne)]

theorem closeSession (expected : Option SessionHandle) :
    (manager.closeSession pane expected).1.Unmixed := by
  unfold SessionManager.closeSession
  split
  next removed =>
    exact unmixed.removeSessionLocked removed
  · exact unmixed

theorem closePane : (manager.closePane pane).1.Unmixed := by
  unfold SessionManager.closePane
  split
  next removed =>
    exact unmixed.removeSessionLocked removed
  · exact unmixed.collectLayoutCloseLocked pane false

theorem pruneTabs : manager.pruneTabs.Unmixed := by
  refine unmixed.of_removal "" (fun tab new held => ?_) fun other => ?_
  · rw [lookup_pruneTabs, filter_eq_some_iff] at held
    exact ⟨new, held.1, .inl rfl⟩
  · rw [Live, Live, show manager.pruneTabs.sessions = manager.sessions from
      congrArg Prod.fst (beside_pruneTabs manager)]

theorem removeTabLocked (tab : TabId) : (manager.removeTabLocked tab).1.Unmixed := by
  refine unmixed.of_removal "" (fun other new held => ?_) fun _ => Iff.rfl
  rw [removeTabLocked_lookup] at held
  split at held
  · cases held
  · exact ⟨new, held, .inl rfl⟩

theorem renameTab (tab : TabId) (title : String) : (manager.renameTab tab title).1.Unmixed := by
  unfold SessionManager.renameTab
  split
  next value found =>
    split
    · refine unmixed.congr rfl fun other => ?_
      rw [layoutOf, layoutOf, lookup_insert]
      by_cases same : other = tab
      · rw [if_pos same, same, found, bind_some, bind_some, Json.get_set_of_ne (by decide)]
      · rw [if_neg same]
    · exact unmixed
  · exact unmixed

theorem insertLive (sameLayouts : ∀ tab, after.layoutOf tab = manager.layoutOf tab)
    (live : ∀ other, other ≠ pane → (after.Live other ↔ manager.Live other))
    (alone : ∀ tab layout, manager.layoutOf tab = some layout →
      pane ∈ collectTerminalLeafPaneIds layout →
      ∀ other ∈ collectTerminalLeafPaneIds layout, other = pane) : after.Unmixed := by
  intro tab layout found first terminal second otherTerminal isLive
  rw [sameLayouts] at found
  by_cases here : pane ∈ collectTerminalLeafPaneIds layout
  · rw [alone tab layout found here second otherTerminal]
    rw [alone tab layout found here first terminal] at isLive
    exact isLive
  · have differs : ∀ other ∈ collectTerminalLeafPaneIds layout, other ≠ pane :=
      fun other mem same => here (same ▸ mem)
    rw [live first (differs first terminal)] at isLive
    rw [live second (differs second otherTerminal)]
    exact unmixed tab layout found first terminal second otherTerminal isLive

theorem step {op : Operation} (careful : manager.Careful op) : (manager.step op).Unmixed := by
  cases op with
  | insertTab tab value => exact unmixed.insertTabLocked tab careful
  | removeTab tab => exact unmixed.removeTabLocked tab
  | updateLayout tab value active =>
    exact (unmixed.insertTabLocked tab careful).congr rfl fun _ => rfl
  | renameTab tab title => exact unmixed.renameTab tab title
  | reorderTabs tabs =>
    refine unmixed.congr ?_ fun tab => ?_ <;>
    · simp only [SessionManager.step, SessionManager.reorderTabs]
      split
      · rfl
      · split <;> rfl
  | setActivePaneId pane => exact unmixed.congr rfl fun _ => rfl
  | insertTabForSession pane sess tab value active =>
    change (manager.insertTabForSession pane sess tab value active).1.Unmixed
    unfold SessionManager.insertTabForSession
    split
    · exact (unmixed.insertTabLocked tab careful).congr rfl fun _ => rfl
    · exact unmixed
  | insertSession pane sess =>
    change (manager.insertSession pane sess).1.Unmixed
    unfold SessionManager.insertSession
    split
    · exact unmixed
    · split
      · exact unmixed
      · refine unmixed.insertLive pane (fun _ => rfl) (fun other ne => ?_) careful
        rw [Live, Live, lookup_insert, if_neg ne]
  | reserveSession pane =>
    change (manager.reserveSession pane).1.Unmixed
    unfold SessionManager.reserveSession
    split
    · exact unmixed
    · exact unmixed.congr rfl fun _ => rfl
  | publish pane sess =>
    change (manager.publish pane sess).1.Unmixed
    unfold SessionManager.publish
    split
    · exact unmixed
    · refine unmixed.insertLive pane (fun _ => rfl) (fun other ne => ?_) careful
      rw [Live, Live, lookup_insert, if_neg ne]
  | dropReservation pane => exact unmixed.congr rfl fun _ => rfl
  | closeSession pane expected => exact unmixed.closeSession pane expected
  | closePane pane => exact unmixed.closePane pane
  | purgePane pane skipMatchingTab =>
    exact unmixed.purgePaneFromLayoutsLocked pane skipMatchingTab
  | tabList => exact unmixed.pruneTabs

end

end Unmixed

/-! ### Runs -/

def CarefulRun (operations : List Operation) : Prop :=
  ∀ before operation after, operations = before ++ operation :: after →
    (run before).Careful operation

theorem unmixed_run {operations : List Operation} (careful : CarefulRun operations) :
    (run operations).Unmixed := by
  induction operations using List.reverseRecOn with
  | nil =>
    intro tab layout found
    simp [run, layoutOf] at found
  | append_singleton before op ih =>
    have unmixed := ih fun first step rest same =>
      careful first step (rest ++ [op]) (by rw [same]; simp)
    rw [run, foldl_append]
    exact unmixed.step (careful before op [] rfl)

/-- Pruning is safe after a run exactly when no tab has both a live and a dead terminal, as after
every run of careful steps. -/
theorem run_prunesSafely (operations : List Operation) :
    ((run operations).PrunesSafely ↔ (run operations).Unmixed) ∧
    (CarefulRun operations → (run operations).PrunesSafely) :=
  ⟨prunesSafely_iff _, fun careful => (prunesSafely_iff _).mpr (unmixed_run careful)⟩

/-- A tab of two terminals, of which one has a session. -/
def halfDead : SessionManager :=
  run [.insertSession "p1" { handle := 1 }, .updateLayout "t1"
      (tabValue (halves "s" "horizontal"
        (.obj [("type", .str "leaf"), ("paneId", .str "p1")])
        (.obj [("type", .str "leaf"), ("paneId", .str "p2")])) (some "p1")) (some "p1")]

/-- Listing the tabs removes the tab of the live terminal. -/
theorem live_terminal_pruned : ¬halfDead.PrunesSafely := by
  intro safe
  have stays := safe.living "t1"
    (halves "s" "horizontal" (.obj [("type", .str "leaf"), ("paneId", .str "p1")])
      (.obj [("type", .str "leaf"), ("paneId", .str "p2")])) (by decide +kernel) "p1"
    (by decide +kernel) (by unfold Live; decide +kernel)
  have gone : "t1" ∉ halfDead.tabList.1.tabLayouts := by decide +kernel
  exact gone stays

end Dinotty.Session.Stored.SessionManager
