/-
This file is what moving a pane, a whole tab or a pane into a tab of its own keeps: the leaves over
all tabs, each as it was but for its ratio.
-/

import Dinotty.Tabs.StoredPanes

namespace Dinotty.Tabs.Stored

open List Option KeyMap

open Session hiding SessionManager
open Session.Stored Session.Stored.SessionManager

/-! ### The leaves over all tabs -/

/-- The leaves of a tab without their ratios. A tab without a layout has no leaf. -/
def tabLeaves (value : Json) : List Json := (value.get "layout").elim [] bareLeaves

/-- The leaves over all tabs without their ratios. -/
def allLeaves (manager : SessionManager) : List Json :=
  manager.tabLayouts.entries.flatMap fun entry => tabLeaves entry.2

def panesOf (manager : SessionManager) (tab : TabId) : List PaneId :=
  ((manager.tabLayouts.lookup tab).elim [] tabLeaves).filterMap (Json.getStr "paneId")

def allPanes (manager : SessionManager) : List PaneId :=
  (allLeaves manager).filterMap (Json.getStr "paneId")

/-- Every tab has a well formed layout, and no pane occurs twice over all tabs. -/
structure Tidy (manager : SessionManager) : Prop where
  wellFormed : ∀ tab value, manager.tabLayouts.lookup tab = some value →
    ∃ layout, value.get "layout" = some layout ∧ WellFormed layout
  distinct : (allPanes manager).Nodup

theorem panes_bareLeaves (layout : Json) :
    (bareLeaves layout).filterMap (Json.getStr "paneId") = collectLeafPaneIds layout := by
  rw [bareLeaves, filterMap_map, collectLeafPaneIds_leaves]
  exact congrArg (fun read => (leaves layout).filterMap read)
    (funext fun leaf => Json.getStr_without_of_ne (by decide) leaf)

theorem allPanes_eq (manager : SessionManager) :
    allPanes manager = manager.tabLayouts.entries.flatMap fun entry =>
      (tabLeaves entry.2).filterMap (Json.getStr "paneId") :=
  filterMap_flatMap

theorem panesOf_eq (manager : SessionManager) (tab : TabId) :
    panesOf manager tab = (manager.tabLayouts.lookup tab).elim [] fun value =>
      (tabLeaves value).filterMap (Json.getStr "paneId") := by
  unfold panesOf
  cases manager.tabLayouts.lookup tab <;> rfl

variable {manager : SessionManager} {layout : Json}

theorem tabLeaves_of_layoutOf {tab : TabId} (found : manager.layoutOf tab = some layout) :
    (manager.tabLayouts.lookup tab).elim [] tabLeaves = bareLeaves layout := by
  obtain ⟨value, held, read⟩ := bind_eq_some_iff.mp found
  rw [held, elim_some, tabLeaves, read, elim_some]

theorem panesOf_of_layoutOf {tab : TabId} (found : manager.layoutOf tab = some layout) :
    panesOf manager tab = collectLeafPaneIds layout := by
  rw [panesOf, tabLeaves_of_layoutOf found, panes_bareLeaves]

namespace Tidy

variable {manager : SessionManager} {tab : TabId} {layout : Json}

theorem wellFormed_layout (tidy : Tidy manager) (found : manager.layoutOf tab = some layout) :
    WellFormed layout := by
  obtain ⟨value, held, read⟩ := bind_eq_some_iff.mp found
  obtain ⟨other, readOther, wellFormed⟩ := tidy.wellFormed tab value held
  cases read.symm.trans readOther
  exact wellFormed

theorem nodup_layout (tidy : Tidy manager) (found : manager.layoutOf tab = some layout) :
    (collectLeafPaneIds layout).Nodup := by
  have apart := flatMap_entries_perm
    (fun value => (tabLeaves value).filterMap (Json.getStr "paneId")) manager.tabLayouts tab
  rw [← allPanes_eq, ← panesOf_eq, panesOf_of_layoutOf found] at apart
  exact (apart.nodup_iff.mp tidy.distinct).of_append_left

end Tidy

variable {pane : PaneId}

theorem existsUnique_tab (nodup : (allPanes manager).Nodup) (mem : pane ∈ allPanes manager) :
    ∃! tab, pane ∈ panesOf manager tab := by
  rw [allPanes_eq] at nodup mem
  obtain ⟨⟨tab, value⟩, present, held⟩ := mem_flatMap.mp mem
  have here : pane ∈ panesOf manager tab := by
    rw [panesOf_eq, lookup_eq_some_iff.mpr present]
    exact held
  refine ⟨tab, here, fun other there => ?_⟩
  rw [panesOf_eq] at here there
  exact eq_of_nodup_flatMap_entries nodup there here

/-! ### Taking a leaf out -/

theorem perm_cons_of_find?_eq_some {Item Name : Type} [DecidableEq Name] {read : Item → Option Name}
    {items : List Item} (nodup : (items.filterMap read).Nodup) {name : Name} {item : Item}
    (found : items.find? (read · = some name) = some item) :
    items.Perm (item :: items.filter (read · ≠ some name)) := by
  induction items with
  | nil => cases found
  | cons first rest ih =>
    by_cases here : read first = some name
    · rw [find?_cons_of_pos (by simpa using here)] at found
      cases found
      rw [filterMap_cons_some here, nodup_cons] at nodup
      have others : rest.filter (read · ≠ some name) = rest := by
        refine filter_eq_self.mpr fun other mem => decide_eq_true fun same => ?_
        exact nodup.1 (mem_filterMap.mpr ⟨other, mem, same⟩)
      rw [filter_cons_of_neg (by simpa using here), others]
    · have distinctRest : (rest.filterMap read).Nodup :=
        nodup.sublist ((sublist_cons_self first rest).filterMap read)
      rw [find?_cons_of_neg (by simpa using here)] at found
      rw [filter_cons_of_pos (by simpa using here)]
      exact ((ih distinctRest found).cons first).trans (.swap _ _ _)

theorem leaves_of_mem_leaves {node leaf : Json} (mem : leaf ∈ leaves node) :
    leaves leaf = [leaf] := by
  induction node using node_induction with
  | leaf node pane isLeaf named =>
    rw [leaves_of_leaf isLeaf named] at mem
    obtain rfl := mem_singleton.mp mem
    exact leaves_of_leaf isLeaf named
  | nameless node isLeaf nameless =>
    rw [leaves_of_nameless isLeaf nameless] at mem
    cases mem
  | inner node notLeaf below =>
    rw [leaves_of_ne notLeaf] at mem
    obtain ⟨child, inNode, inChild⟩ := mem_flatMap.mp mem
    exact below child inNode inChild

theorem bareLeaves_taken {leaf left : Json} (nodup : (collectLeafPaneIds layout).Nodup)
    (extracted : extractLeafFromLayout pane layout = some leaf)
    (removed : removePaneFromLayout pane layout = some left) :
    (bareLeaves layout).Perm (bareLeaves leaf ++ bareLeaves left) := by
  rw [extractLeafFromLayout_leaves] at extracted
  rw [collectLeafPaneIds_leaves] at nodup
  have kept := leaves_removePaneFromLayout pane layout
  rw [removed, elim_some] at kept
  have taken := perm_cons_of_find?_eq_some nodup extracted
  rw [← kept] at taken
  rw [bareLeaves, bareLeaves, bareLeaves, leaves_of_mem_leaves (mem_of_find?_eq_some extracted)]
  exact taken.map _

theorem bareLeaves_inserted {target : PaneId} {side splitId : String} {subtree new : Json}
    (formed : WellFormed layout) (nodup : (collectLeafPaneIds layout).Nodup)
    (held : target ∈ collectLeafPaneIds layout)
    (ins : insertSubtreeIntoLayout target side splitId subtree layout = some new) :
    (bareLeaves new).Perm (bareLeaves layout ++ bareLeaves subtree) := by
  obtain ⟨other, insertedOther, adds⟩ :=
    insertSubtreeIntoLayout_adds target side splitId subtree formed
  cases ins.symm.trans insertedOther
  refine perm_iff_count.mpr fun leaf => ?_
  rw [adds leaf, count_append, count_eq_one_of_mem nodup held, Nat.one_mul]

/-! ### The requests -/

/-- A request that moves panes between tabs. The identifiers of a new split and of a new tab are
random. -/
inductive PaneRequest where
  | move (destination : TabId) (request : MovePaneRequest) (splitId : String)
  | extract (source : TabId) (pane : PaneId) (newTab : TabId)

namespace PaneRequest

def run (manager : SessionManager) : PaneRequest → SessionManager × Option Rejection
  | .move destination request splitId => movePane manager destination request splitId
  | .extract source pane newTab => extractPane manager source pane newTab

def source : PaneRequest → TabId
  | .move _ request _ => request.sourceTabId
  | .extract source _ _ => source

def destination : PaneRequest → TabId
  | .move destination _ _ => destination
  | .extract _ _ newTab => newTab

def MovesTab : PaneRequest → Prop
  | .move _ request _ => request.sourcePaneId = none
  | .extract _ _ _ => False

/-- The identifier of a new tab is not in use. -/
def Fresh (manager : SessionManager) : PaneRequest → Prop
  | .move _ _ _ => True
  | .extract _ _ newTab => manager.tabLayouts.lookup newTab = none

end PaneRequest

/-- The other tabs are as they were, the two tabs have the leaves that they had together, and the
source tab goes exactly when it has moved as a whole. -/
structure Exchanged (before after : SessionManager) (request : PaneRequest) : Prop where
  others : ∀ tab, tab ≠ request.source → tab ≠ request.destination →
    after.tabLayouts.lookup tab = before.tabLayouts.lookup tab
  different : request.source ≠ request.destination
  leaves : ((after.tabLayouts.lookup request.source).elim [] tabLeaves ++
      (after.tabLayouts.lookup request.destination).elim [] tabLeaves).Perm
    ((before.tabLayouts.lookup request.source).elim [] tabLeaves ++
      (before.tabLayouts.lookup request.destination).elim [] tabLeaves)
  source : after.tabLayouts.lookup request.source = none ↔ request.MovesTab

theorem lookup_insert_insert (manager : SessionManager) (first second : TabId)
    (firstLayout secondLayout : Json) (firstActive secondActive : PaneId) (tab : TabId) :
    (applyWrites manager [.insert first firstLayout firstActive,
        .insert second secondLayout secondActive]).tabLayouts.lookup tab =
      if tab = second then some (tabValue secondLayout (some secondActive))
      else if tab = first then some (tabValue firstLayout (some firstActive))
      else manager.tabLayouts.lookup tab := by
  show ((manager.tabLayouts.insert first _).insert second _).lookup tab = _
  rw [lookup_insert, lookup_insert]

theorem lookup_remove_insert (manager : SessionManager) (first second : TabId)
    (layout : Json) (active : PaneId) (tab : TabId) :
    (applyWrites manager [.remove first, .insert second layout active]).tabLayouts.lookup tab =
      if tab = second then some (tabValue layout (some active))
      else if tab = first then none
      else manager.tabLayouts.lookup tab := by
  show ((manager.tabLayouts.erase first).insert second _).lookup tab = _
  rw [lookup_insert, lookup_erase]

/-- An accepted move exchanges leaves between its two tabs. -/
theorem planMove_exchanged (tidy : Tidy manager) {destination : TabId} {req : MovePaneRequest}
    {splitId : String} {writes : List Write}
    (planned : planMove manager destination req splitId = .ok writes) :
    Exchanged manager (applyWrites manager writes) (.move destination req splitId) := by
  obtain ⟨ne, sourceLayout, layout, source, found, held, moves⟩ :=
    planMove_eq_ok_iff.mp planned
  have wellFormed := tidy.wellFormed_layout found
  have nodup := tidy.nodup_layout found
  cases mode : req.sourcePaneId with
  | none =>
    simp only [Moves, mode] at moves
    obtain ⟨new, ins, rfl⟩ := moves
    have after := lookup_remove_insert manager req.sourceTabId destination new
      ((firstLeafId new).getD req.targetPaneId)
    refine ⟨fun tab notSource notDestination =>
      (after tab).trans ((if_neg notDestination).trans (if_neg notSource)), ne, ?_, ?_⟩
    · simp only [PaneRequest.source, PaneRequest.destination]
      rw [after, if_neg ne, if_pos rfl, after, if_pos rfl, tabLeaves_of_layoutOf source,
        tabLeaves_of_layoutOf found]
      exact (bareLeaves_inserted wellFormed nodup held ins).trans perm_append_comm
    · simp only [PaneRequest.source, PaneRequest.MovesTab, mode]
      rw [after, if_neg ne, if_pos rfl]
      simp
  | some pane =>
    simp only [Moves, mode] at moves
    obtain ⟨leaf, left, new, ⟨-, -, extracted, removed⟩, ins, rfl⟩ := moves
    have after := lookup_insert_insert manager req.sourceTabId destination left new
      ((firstLeafId left).getD req.targetPaneId) pane
    refine ⟨fun tab notSource notDestination =>
      (after tab).trans ((if_neg notDestination).trans (if_neg notSource)), ne, ?_, ?_⟩
    · have taken := bareLeaves_taken (tidy.nodup_layout source) extracted removed
      have given := bareLeaves_inserted wellFormed nodup held ins
      simp only [PaneRequest.source, PaneRequest.destination]
      rw [after, if_neg ne, if_pos rfl, after, if_pos rfl, tabLeaves_of_layoutOf source,
        tabLeaves_of_layoutOf found]
      calc bareLeaves left ++ bareLeaves new
          |>.Perm (bareLeaves left ++ (bareLeaves layout ++ bareLeaves leaf)) := given.append_left _
        _ |>.Perm ((bareLeaves leaf ++ bareLeaves left) ++ bareLeaves layout) := by
            rw [← append_assoc, append_assoc (bareLeaves leaf)]
            exact perm_append_comm
        _ |>.Perm (bareLeaves sourceLayout ++ bareLeaves layout) := taken.symm.append_right _
    · simp only [PaneRequest.source, PaneRequest.MovesTab, mode]
      rw [after, if_neg ne, if_pos rfl]
      simp

theorem planExtract_exchanged (tidy : Tidy manager) {source : TabId} {newTab : TabId}
    (fresh : manager.tabLayouts.lookup newTab = none) {writes : List Write}
    (planned : planExtract manager source pane newTab = .ok writes) :
    Exchanged manager (applyWrites manager writes) (.extract source pane newTab) := by
  obtain ⟨layout, leaf, left, found, ⟨-, -, extracted, removed⟩, rfl⟩ :=
    planExtract_eq_ok_iff.mp planned
  have ne : source ≠ newTab := by
    rintro rfl
    rw [layoutOf, fresh] at found
    cases found
  have after := lookup_insert_insert manager source newTab left leaf
    ((firstLeafId left).getD pane) pane
  refine ⟨fun tab notSource notDestination =>
    (after tab).trans ((if_neg notDestination).trans (if_neg notSource)), ne, ?_, ?_⟩
  · simp only [PaneRequest.source, PaneRequest.destination]
    rw [after, if_neg ne, if_pos rfl, after, if_pos rfl, tabLeaves_of_layoutOf found, fresh]
    have taken := bareLeaves_taken (tidy.nodup_layout found) extracted removed
    exact perm_append_comm.trans (taken.symm.trans (.of_eq (append_nil _).symm))
  · simp only [PaneRequest.source, PaneRequest.MovesTab]
    rw [after, if_neg ne, if_pos rfl]
    simp

theorem run_cases (tidy : Tidy manager) {request : PaneRequest} (fresh : request.Fresh manager) :
    (∃ rejection, request.run manager = (manager, some rejection)) ∨
      (request.run manager).2 = none ∧ Exchanged manager (request.run manager).1 request := by
  cases request with
  | move dest request splitId =>
    simp only [PaneRequest.run, movePane]
    cases planned : planMove manager dest request splitId with
    | error rejection => exact .inl ⟨rejection, rfl⟩
    | ok writes => exact .inr ⟨rfl, planMove_exchanged tidy planned⟩
  | extract source pane newTab =>
    simp only [PaneRequest.run, extractPane]
    cases planned : planExtract manager source pane newTab with
    | error rejection => exact .inl ⟨rejection, rfl⟩
    | ok writes => exact .inr ⟨rfl, planExtract_exchanged tidy fresh planned⟩

theorem Exchanged.allLeaves_perm {before after : SessionManager} {req : PaneRequest}
    (exchanged : Exchanged before after req) : (allLeaves after).Perm (allLeaves before) :=
  flatMap_entries_perm_of_exchange exchanged.different exchanged.others exchanged.leaves

theorem allPanes_perm {before after : SessionManager}
    (leaves : (allLeaves after).Perm (allLeaves before)) :
    (allPanes after).Perm (allPanes before) := leaves.filterMap _

/-- Moving panes keeps the leaves over all tabs, each as it is but for its ratio, and keeps every
pane in exactly one tab. The source tab goes exactly when all of it has moved, and a rejected
request changes nothing. -/
theorem panes_conserved {manager : SessionManager} (tidy : Tidy manager) {request : PaneRequest}
    (fresh : request.Fresh manager) :
    (allLeaves (request.run manager).1).Perm (allLeaves manager) ∧
      (∀ pane ∈ allPanes manager, ∃! tab, pane ∈ panesOf (request.run manager).1 tab) ∧
      ((manager.tabLayouts.lookup request.source).isSome →
        ((request.run manager).1.tabLayouts.lookup request.source = none ↔
          (request.run manager).2 = none ∧ request.MovesTab)) ∧
      ((request.run manager).2.isSome → (request.run manager).1 = manager) := by
  rcases run_cases tidy fresh with ⟨rejection, rejected⟩ | ⟨accepted, exchanged⟩
  · rw [rejected]
    refine ⟨.refl _, fun pane member => existsUnique_tab tidy.distinct member,
      fun present => ⟨fun gone => ?_, nofun⟩, fun _ => rfl⟩
    rw [gone] at present
    cases present
  · have panes := allPanes_perm exchanged.allLeaves_perm
    refine ⟨exchanged.allLeaves_perm, fun pane member => ?_, fun _ => ?_, fun failed => ?_⟩
    · exact existsUnique_tab (panes.nodup_iff.mpr tidy.distinct) (panes.mem_iff.mpr member)
    · rw [exchanged.source, accepted, eq_self, true_and]
    · rw [accepted] at failed
      cases failed

/-! ### A tab of two panes that moves as a whole -/

def plainLeaf (pane : PaneId) : Json := .obj [("type", .str "leaf"), ("paneId", .str pane)]

/-- Two panes side by side in one tab, and a third one in another. -/
def twoTabs : SessionManager where
  tabLayouts := (∅ : KeyMap TabId Json).insert "t1"
      (tabValue (halves "s1" "horizontal" (plainLeaf "p1") (plainLeaf "p2")) (some "p1"))
    |>.insert "t2" (tabValue (plainLeaf "p3") (some "p3"))
  tabOrder := ["t1", "t2"]

theorem wellFormed_plainLeaf (pane : PaneId) : WellFormed (plainLeaf pane) := .leaf rfl rfl

theorem tidy_twoTabs : Tidy twoTabs where
  wellFormed := by
    intro tab value found
    rw [twoTabs, lookup_insert, lookup_insert] at found
    split_ifs at found
    · cases found
      exact ⟨_, get_layout_tabValue _ _, wellFormed_plainLeaf "p3"⟩
    · cases found
      refine ⟨_, get_layout_tabValue _ _, .split rfl rfl rfl (cons_ne_nil _ _) ?_⟩
      rintro child (_ | ⟨_, _ | ⟨_, _ | _⟩⟩)
      · exact wellFormed_plainLeaf "p1"
      · exact wellFormed_plainLeaf "p2"
    · cases found
  distinct := by decide +kernel

/-- All of the first tab is to move to the right of the third pane. -/
def moveAll : PaneRequest :=
  .move "t2"
    { sourceTabId := "t1", sourcePaneId := none, targetPaneId := "p3", direction := "right" } "s2"

theorem panes_conserved_twoTabs : (allLeaves (moveAll.run twoTabs).1).Perm (allLeaves twoTabs) ∧
      (∀ pane ∈ allPanes twoTabs, ∃! tab, pane ∈ panesOf (moveAll.run twoTabs).1 tab) ∧
      ((twoTabs.tabLayouts.lookup moveAll.source).isSome →
        ((moveAll.run twoTabs).1.tabLayouts.lookup moveAll.source = none ↔
          (moveAll.run twoTabs).2 = none ∧ moveAll.MovesTab)) ∧
      ((moveAll.run twoTabs).2.isSome → (moveAll.run twoTabs).1 = twoTabs) :=
  panes_conserved tidy_twoTabs trivial

/-- A source tab does not only go when it has a single pane. -/
theorem tab_of_two_panes_removed :
    ¬∀ (manager : SessionManager) (request : PaneRequest), Tidy manager → request.Fresh manager →
      (request.run manager).2 = none →
        ((request.run manager).1.tabLayouts.lookup request.source = none ↔
          ∃ pane, panesOf manager request.source = [pane]) := by
  intro claim
  have removed := claim twoTabs moveAll tidy_twoTabs trivial (by decide +kernel)
  obtain ⟨pane, only⟩ := removed.mp (by decide +kernel)
  have both : panesOf twoTabs "t1" = ["p1", "p2"] := by decide +kernel
  cases both.symm.trans only

end Dinotty.Tabs.Stored
