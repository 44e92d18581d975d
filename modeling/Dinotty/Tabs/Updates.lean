/-
This file proves what the requests on panes keep of the panes: when no request writes over a change
that it has not seen, and none closes a pane that another has in its hand, every pane stays in
exactly one leaf of exactly one tab.
-/

import Dinotty.Foundation.Holdings
import Dinotty.Session.Lifecycle
import Dinotty.Tabs.Panes

namespace Dinotty.Tabs

open Session Holdings List Option Fallible KeyMap SessionManager

/-! ### Undisturbed sections -/

/-- What a write adds to the tabs that have a pane. -/
def Write.gain (pane : PaneId) : Write → ℤ
  | .insert _ read layout _ =>
      layout.collectLeafPaneIds.count pane - read.collectLeafPaneIds.count pane
  | .remove _ read => -read.collectLeafPaneIds.count pane
  | .create _ layout _ => layout.collectLeafPaneIds.count pane

/-- What the writes of a request still add. -/
def gains (pane : PaneId) (writes : List Write) : ℤ := (writes.map (Write.gain pane)).sum

/-- How often a request has a pane in its hand. -/
def Request.carried (pane : PaneId) : Request → ℤ
  | .writing writes _ => gains pane writes
  | _ => 0

/-- The tab still has the panes that the request has read. -/
def Unchanged (manager : SessionManager) (tab : TabId) (read : Layout) : Prop :=
  (manager.layoutOf tab).isSome ∧ (manager.panesOf tab).Perm read.collectLeafPaneIds

instance (manager : SessionManager) (tab : TabId) (read : Layout) :
    Decidable (Unchanged manager tab read) := inferInstanceAs (Decidable (_ ∧ _))

/-- A write finds the tab as it has been read. -/
def Write.Current (manager : SessionManager) : Write → Prop
  | .insert tab read _ _ | .remove tab read => Unchanged manager tab read
  | .create .. => True

instance (manager : SessionManager) : ∀ write : Write, Decidable (write.Current manager)
  | .insert tab read _ _ | .remove tab read =>
      inferInstanceAs (Decidable (Unchanged manager tab read))
  | .create .. => isTrue trivial

def Board.nextWrite (board : Board) (id : RequestId) : Option Write :=
  match board.requests.lookup id with
  | some (.writing (write :: _) _) => some write
  | _ => none

def Board.nextClosed (board : Board) (id : RequestId) : Option PaneId :=
  match board.requests.lookup id with
  | some (.closing pane) => some pane
  | _ => none

/-- A section that writes finds its tab unchanged, and a section that closes a pane finds it in
the hand of no request. -/
def Undisturbed (board : Board) : Action → Prop
  | .write id => ∀ write ∈ board.nextWrite id, write.Current board.manager
  | .close id =>
      ∀ pane ∈ board.nextClosed id, ∀ entry ∈ board.requests.entries, entry.2.carried pane = 0
  | _ => True

instance (board : Board) : ∀ action, Decidable (Undisturbed board action)
  | .write id =>
      inferInstanceAs (Decidable (∀ write ∈ board.nextWrite id, write.Current board.manager))
  | .close id =>
      inferInstanceAs (Decidable (∀ pane ∈ board.nextClosed id,
        ∀ entry ∈ board.requests.entries, entry.2.carried pane = 0))
  | .startSplit .. | .reserve _ | .abandon _ | .publish .. | .startMove .. | .readDestination ..
  | .startExtract .. | .startClose .. | .recheck _ | .correct _ | .answer _ => isTrue trivial

/-! ### The account of a pane -/

namespace Board

/-- What the tabs have of a pane, and what the requests are about to add. -/
def holding (board : Board) (pane : PaneId) : TabId ⊕ RequestId → ℤ
  | .inl tab => (board.manager.panesOf tab).count pane
  | .inr id => (board.requests.lookup id).elim 0 (Request.carried pane)

/-- The panes that have been created and not closed are there once. -/
def expected (board : Board) (pane : PaneId) : ℤ :=
  if pane ∈ board.created ∧ pane ∉ board.closed then 1 else 0

/-- A published session is current until its pane is closed. -/
def Member (board : Board) (pane : PaneId) (session : SessionHandle) : Prop :=
  pane ∈ board.created ∧ (board.manager.sessions.lookup pane = some session ∨ pane ∈ board.closed)

end Board

/-- What a request knows. What it has read has every pane once; no rest of its writes takes more
panes than it adds. -/
def Request.Sound (board : Board) : Request → Prop
  | .splitting split _ =>
      split.layout.collectLeafPaneIds.Nodup ∧ split.target ∈ split.layout.collectLeafPaneIds
  | .moving move => move.sourceLayout.collectLeafPaneIds.Nodup
  | .writing writes publication =>
      (∀ rest, rest <:+ writes → ∀ pane, 0 ≤ gains pane rest) ∧
      (∀ pane session, publication = some (pane, session) → board.Member pane session)
  | .correcting pane => pane ∈ board.closed
  | .closing pane => pane ∈ board.created

structure Accounted (board : Board) : Prop where
  sums : ∀ pane, Sums (board.holding pane) (board.expected pane)
  sound : ∀ id request, board.requests.lookup id = some request → request.Sound board
  closed : ∀ pane ∈ board.closed, pane ∈ board.created
  gone : ∀ tab ∈ board.closedTabs, board.manager.tabLayouts.lookup tab = none

section

variable {board next : Board}

@[simp] theorem holding_tab (board : Board) (pane : PaneId) (tab : TabId) :
    board.holding pane (.inl tab) = (board.manager.panesOf tab).count pane := rfl

@[simp] theorem holding_request (board : Board) (pane : PaneId) (id : RequestId) :
    board.holding pane (.inr id) = (board.requests.lookup id).elim 0 (Request.carried pane) := rfl

@[simp] theorem gains_nil (pane : PaneId) : gains pane [] = 0 := rfl

@[simp] theorem gains_cons (pane : PaneId) (write : Write) (rest : List Write) :
    gains pane (write :: rest) = write.gain pane + gains pane rest := sum_cons

@[simp] theorem Board.set_lookup (board : Board) (id : RequestId) (request : Option Request)
    (other : RequestId) :
    (board.set id request).requests.lookup other =
      if other = id then request else board.requests.lookup other := by
  unfold set
  cases request with
  | none => exact lookup_erase _ _ _
  | some request => exact lookup_insert _ _ _ _

theorem Request.Sound.carried_nonneg {req : Request} (sound : req.Sound board)
    (pane : PaneId) : 0 ≤ req.carried pane := by
  cases req with
  | writing writes publication => exact sound.1 writes (suffix_refl _) pane
  | _ => exact Int.le_refl 0

theorem Accounted.nonneg (accounted : Accounted board) (pane : PaneId)
    (place : TabId ⊕ RequestId) : 0 ≤ board.holding pane place := by
  cases place with
  | inl tab => exact Int.natCast_nonneg _
  | inr id =>
    rw [holding_request]
    cases found : board.requests.lookup id with
    | none => exact Int.le_refl 0
    | some request => exact (accounted.sound id request found).carried_nonneg pane

theorem expected_le_one (board : Board) (pane : PaneId) : board.expected pane ≤ 1 := by
  unfold Board.expected
  split <;> decide

theorem Accounted.nodup (accounted : Accounted board) (tab : TabId) :
    (board.manager.panesOf tab).Nodup := by
  rw [nodup_iff_count_le_one]
  intro pane
  have bound := (accounted.sums pane).le_total (accounted.nonneg pane) (.inl tab)
  rw [holding_tab] at bound
  exact Int.ofNat_le.mp (bound.trans (expected_le_one board pane))

theorem Request.Sound.mono {req : Request} (sound : req.Sound board)
    (members : ∀ pane session, board.Member pane session → next.Member pane session)
    (created : ∀ pane ∈ board.created, pane ∈ next.created)
    (closed : ∀ pane ∈ board.closed, pane ∈ next.closed) : req.Sound next := by
  cases req with
  | splitting | moving => exact sound
  | writing writes publication =>
    exact ⟨sound.1, fun pane session published =>
      members pane session (sound.2 pane session published)⟩
  | correcting pane => exact closed pane sound
  | closing pane => exact created pane sound

end

/-! ### Sections that write no layout -/

section

variable {board : Board}

/-- The layouts and the tabs of two managers are the same, and so are the sessions of the panes
that have been created. -/
structure Quiet (board : Board) (manager : SessionManager) : Prop where
  layouts : manager.tabLayouts = board.manager.tabLayouts
  sessions : ∀ pane ∈ board.created,
    manager.sessions.lookup pane = board.manager.sessions.lookup pane

theorem Quiet.refl (board : Board) : Quiet board board.manager := ⟨rfl, fun _ _ => rfl⟩

theorem quiet_dropReservation (board : Board) (pane : PaneId) :
    Quiet board (board.manager.dropReservation pane) := ⟨rfl, fun _ _ => rfl⟩

variable {manager : SessionManager}

theorem quiet_reserveSession {pane : PaneId}
    (reserved : board.manager.reserveSession pane = (manager, true)) : Quiet board manager := by
  unfold reserveSession at reserved
  split at reserved
  · cases reserved
  · cases reserved
    exact ⟨rfl, fun _ _ => rfl⟩

/-- A section that writes no layout and changes only one request keeps the account, when the
request has as much in its hand as before. -/
theorem Accounted.request (accounted : Accounted board) (quiet : Quiet board manager)
    {id : RequestId} {request : Option Request}
    (even : ∀ pane, request.elim 0 (Request.carried pane) =
      (board.requests.lookup id).elim 0 (Request.carried pane))
    (sound : ∀ known, request = some known → known.Sound board) :
    Accounted ({ board with manager }.set id request) := by
  have members : ∀ pane session, board.Member pane session →
      ({ board with manager }.set id request).Member pane session := by
    rintro pane session ⟨created, cur⟩
    exact ⟨created, cur.imp_left fun cur =>
      (quiet.sessions pane created).trans cur⟩
  refine ⟨fun pane => ?_, fun other known found => ?_, accounted.closed, fun tab closed => ?_⟩
  · refine (accounted.sums pane).congr fun place => ?_
    cases place with
    | inl tab =>
      change ((manager.panesOf tab).count pane : ℤ) = _
      rw [panesOf, layoutOf, quiet.layouts]
      rfl
    | inr other =>
      rw [holding_request, holding_request, Board.set_lookup]
      by_cases same : other = id
      · rw [if_pos same, same]
        exact even pane
      · rw [if_neg same]
  · rw [Board.set_lookup] at found
    by_cases same : other = id
    · rw [if_pos same] at found
      exact (sound known found).mono members (fun _ created => created) fun _ closed => closed
    · rw [if_neg same] at found
      exact (accounted.sound other known found).mono members (fun _ created => created)
        fun _ closed => closed
  · change manager.tabLayouts.lookup tab = none
    rw [quiet.layouts]
    exact accounted.gone tab closed

theorem Accounted.finish (accounted : Accounted board) (quiet : Quiet board manager)
    {id : RequestId} {request : Request} (found : board.requests.lookup id = some request)
    (empty : ∀ pane, request.carried pane = 0) :
    Accounted ({ board with manager }.set id none) :=
  accounted.request quiet (fun pane => by rw [found]; exact (empty pane).symm)
    nofun

variable {layout : Layout}

theorem loadLayout_ok {what : String} {tab : TabId}
    (loaded : loadLayout manager what tab = .ok layout) : manager.layoutOf tab = some layout := by
  unfold loadLayout at loaded
  unfold layoutOf
  split at loaded
  · cases loaded
  next value found =>
    rw [found, bind_some]
    split at loaded
    · cases loaded
    next other held =>
      rw [held, Except.ok.inj loaded]

theorem panesOf_of_layoutOf {tab : TabId} (held : manager.layoutOf tab = some layout) :
    manager.panesOf tab = layout.collectLeafPaneIds := by
  rw [panesOf, held]
  rfl

theorem Accounted.nodup_of_loaded (accounted : Accounted board) {what : String} {tab : TabId}
    (loaded : loadLayout board.manager what tab = .ok layout) :
    layout.collectLeafPaneIds.Nodup := by
  rw [← panesOf_of_layoutOf (loadLayout_ok loaded)]
  exact accounted.nodup tab

end

/-! ### Writes that make up for each other -/

/-- The writes move panes: no rest of them takes more than it adds, and all of them together
add nothing. -/
structure Moves (writes : List Write) : Prop where
  even : ∀ pane, gains pane writes = 0
  rest : ∀ rest, rest <:+ writes → ∀ pane, 0 ≤ gains pane rest

variable {writes : List Write}

theorem nonneg_of_suffix {write : Write} (front : ∀ pane, 0 ≤ gains pane (write :: writes))
    (later : ∀ rest, rest <:+ writes → ∀ pane, 0 ≤ gains pane rest) :
    ∀ rest, rest <:+ write :: writes → ∀ pane, 0 ≤ gains pane rest := by
  intro rest suffix pane
  rcases suffix_cons_iff.mp suffix with rfl | suffix
  · exact front pane
  · exact later rest suffix pane

theorem nonneg_of_suffix_nil (rest : List Write) (suffix : rest <:+ []) (pane : PaneId) :
    0 ≤ gains pane rest := by
  rw [suffix_nil.mp suffix]
  exact Int.le_refl 0

theorem moves_pair {first second : Write} (even : ∀ pane, first.gain pane + second.gain pane = 0)
    (adds : ∀ pane, 0 ≤ second.gain pane) : Moves [first, second] := by
  have all : ∀ pane, gains pane [first, second] = 0 := by
    intro pane
    rw [gains_cons, gains_cons, gains_nil, Int.add_zero]
    exact even pane
  refine ⟨all, nonneg_of_suffix (fun pane => (all pane).ge) ?_⟩
  refine nonneg_of_suffix (fun pane => ?_) nonneg_of_suffix_nil
  rw [gains_cons, gains_nil, Int.add_zero]
  exact adds pane

variable {target : PaneId}

theorem count_of_adds {added old new : List PaneId} (adds : Layout.Adds target added old new)
    (nodup : old.Nodup) (mem : target ∈ old) (pane : PaneId) :
    new.count pane = old.count pane + added.count pane := by
  rw [adds pane, count_eq_one_of_mem nodup mem, Nat.one_mul]

variable {layout : Layout} {pane : PaneId}

/-- A pane that is taken out of a layout is what the layout has more than its rest. -/
theorem takePane_ok {errors : TakeErrors} {leaf left : Layout}
    (nodup : layout.collectLeafPaneIds.Nodup)
    (taken : takePane errors layout pane = .ok (leaf, left)) :
    leaf.collectLeafPaneIds = [pane] ∧ ∀ other, layout.collectLeafPaneIds.count other =
        left.collectLeafPaneIds.count other + [pane].count other := by
  unfold takePane at taken
  simp only at taken
  split at taken
  · cases taken
  split at taken
  · cases taken
  rename_i mem
  split at taken
  · cases taken
  rename_i extracted found
  split at taken
  · cases taken
  rename_i rest removed
  obtain ⟨rfl, rfl⟩ := Prod.mk.injEq .. ▸ Except.ok.inj taken
  refine ⟨Layout.panes_of_extractLeafFromLayout found, fun other => ?_⟩
  rw [Layout.panes_of_removePaneFromLayout removed, count_singleton]
  by_cases same : pane = other
  · have once := count_eq_one_of_mem nodup (not_not.mp mem)
    have none : (layout.collectLeafPaneIds.filter (· ≠ pane)).count pane = 0 :=
      count_eq_zero_of_not_mem fun kept => by simp at kept
    rw [← same, once, none, beq_self_eq_true, if_pos rfl]
  · rw [count_filter (by simpa using fun eq => same eq.symm)]
    simp [same]

variable {source destination : TabId} {sourceLayout : Layout} {splitId : String}

theorem moveTab_moves {destLayout : Layout} {side : String}
    (nodup : destLayout.collectLeafPaneIds.Nodup)
    (mem : target ∈ destLayout.collectLeafPaneIds)
    (moved : moveTab source sourceLayout destination destLayout target side splitId =
      .ok writes) : Moves writes := by
  obtain ⟨new, ins, adds⟩ := Layout.insertSubtreeIntoLayout_adds target side splitId
    sourceLayout destLayout
  unfold moveTab at moved
  rw [ins] at moved
  cases moved
  have count := count_of_adds adds nodup mem
  refine moves_pair (fun pane => ?_) fun pane => ?_
  · simp only [Write.gain, count pane]
    omega
  · simp only [Write.gain, count pane]
    omega

theorem moveOne_moves {destLayout : Layout} {side : String}
    (sourceNodup : sourceLayout.collectLeafPaneIds.Nodup)
    (nodup : destLayout.collectLeafPaneIds.Nodup)
    (mem : target ∈ destLayout.collectLeafPaneIds)
    (moved : moveOne source sourceLayout pane destination destLayout target side
      splitId = .ok writes) : Moves writes := by
  obtain ⟨⟨leaf, left⟩, taken, moved⟩ := bind_eq_ok moved
  obtain ⟨single, rest⟩ := takePane_ok sourceNodup taken
  obtain ⟨new, ins, adds⟩ := Layout.insertSubtreeIntoLayout_adds target side splitId
    leaf destLayout
  simp only [ins] at moved
  cases moved
  have count := count_of_adds adds nodup mem
  rw [single] at count
  refine moves_pair (fun other => ?_) fun other => ?_
  · simp only [Write.gain, count other, rest other]
    omega
  · simp only [Write.gain, count other]
    omega

theorem extractOne_moves {newTab : TabId} (sourceNodup : sourceLayout.collectLeafPaneIds.Nodup)
    (extracted : extractOne source sourceLayout pane newTab = .ok writes) : Moves writes := by
  obtain ⟨⟨leaf, left⟩, taken, extracted⟩ := bind_eq_ok extracted
  obtain ⟨single, rest⟩ := takePane_ok sourceNodup taken
  cases extracted
  refine moves_pair (fun other => ?_) fun other => ?_
  · simp only [Write.gain, single, rest other]
    omega
  · simp only [Write.gain]
    omega

/-! ### The section of a write -/

def Write.tab : Write → TabId
  | .insert tab _ _ _ | .remove tab _ | .create tab _ _ => tab

/-- The panes that the tab has after the write. -/
def Write.panes : Write → List PaneId
  | .insert _ _ layout _ | .create _ layout _ => layout.collectLeafPaneIds
  | .remove _ _ => []

def Write.value : Write → Option TabValue
  | .insert _ _ layout activePaneId | .create _ layout activePaneId =>
      some { layout := some layout, activePaneId := some activePaneId }
  | .remove _ _ => none

section

variable (write : Write) (manager : SessionManager)
include write manager

theorem apply_lookup (other : TabId) : (write.apply manager).tabLayouts.lookup other =
      if other = write.tab then write.value else manager.tabLayouts.lookup other := by
  cases write with
  | insert | create => exact insertTabLocked_lookup _ _ _ _
  | remove => exact removeTabLocked_lookup _ _ _

theorem apply_panesOf_ne {other : TabId} (ne : other ≠ write.tab) :
    (write.apply manager).panesOf other = manager.panesOf other := by
  unfold panesOf layoutOf
  rw [apply_lookup, if_neg ne]

theorem apply_panesOf : (write.apply manager).panesOf write.tab = write.panes := by
  unfold panesOf layoutOf
  rw [apply_lookup, if_pos rfl]
  cases write <;> rfl

end

variable {manager : SessionManager}

theorem Write.Current.count_panes {write : Write} (cur : write.Current manager)
    (fresh : ∀ tab layout active, write = .create tab layout active → manager.panesOf tab = [])
    (pane : PaneId) :
    (write.panes.count pane : ℤ) = (manager.panesOf write.tab).count pane + write.gain pane := by
  cases write with
  | insert tab read layout active =>
    simp only [Write.panes, Write.tab, Write.gain, cur.2.count_eq pane]
    omega
  | remove tab read =>
    simp only [Write.panes, Write.tab, Write.gain, cur.2.count_eq pane, count_nil]
    omega
  | create tab layout active =>
    simp only [Write.panes, Write.tab, Write.gain, fresh tab layout active rfl, count_nil]
    omega

variable {board : Board}

theorem settle_gone (stays : ∀ tab ∈ board.closedTabs, manager.tabLayouts.lookup tab = none) :
    ∀ tab ∈ (board.settle manager).closedTabs, manager.tabLayouts.lookup tab = none := by
  intro tab mem
  rcases mem_append.mp mem with vanished | before
  · exact isNone_iff_eq_none.mp (mem_filter.mp vanished).2
  · exact stays tab before

theorem apply_sessions (write : Write) (manager : SessionManager) :
    (write.apply manager).sessions = manager.sessions := by
  cases write <;> rfl

variable {next : Board}

theorem Accounted.write (accounted : Accounted board) {id : RequestId} {write : Write}
    {rest : List Write} {publication : Option (PaneId × SessionHandle)}
    (found : board.requests.lookup id = some (.writing (write :: rest) publication))
    (cur : write.Current board.manager)
    (taken : board.applyWrite id write rest publication = some next) : Accounted next := by
  -- A write goes to a tab that is there, or to one that is new.
  have reached : next = (board.settle (write.apply board.manager)).set id
        (some (.writing rest publication)) ∧
      (∀ tab layout active, write = .create tab layout active →
        board.manager.tabLayouts.lookup tab = none) ∧
      write.tab ∉ board.closedTabs := by
    have held : ∀ tab read, Unchanged board.manager tab read → tab ∉ board.closedTabs := by
      intro tab read unchanged closed
      have absent := accounted.gone tab closed
      have layout := unchanged.1
      rw [layoutOf, absent] at layout
      cases layout
    unfold Board.applyWrite at taken
    cases write with
    | insert tab read | remove tab read =>
      exact ⟨(some.inj taken).symm, nofun, held tab read cur⟩
    | create tab layout active =>
      simp only at taken
      split at taken
      · cases taken
      next new =>
        rw [not_or, Bool.not_eq_true, isSome_eq_false_iff] at new
        refine ⟨(some.inj taken).symm, ?_, new.2⟩
        rintro _ _ _ ⟨⟩
        exact isNone_iff_eq_none.mp new.1
  obtain ⟨rfl, fresh, open_⟩ := reached
  have freshPanes : ∀ tab layout active, write = .create tab layout active →
      board.manager.panesOf tab = [] := by
    intro tab layout active same
    rw [panesOf, layoutOf, fresh tab layout active same]
    rfl
  obtain ⟨suffixes, published⟩ := accounted.sound id _ found
  have members : ∀ pane session, board.Member pane session →
      ((board.settle (write.apply board.manager)).set id
        (some (.writing rest publication))).Member pane session := by
    rintro pane session ⟨created, mem⟩
    refine ⟨created, mem.imp_left fun sessions => ?_⟩
    exact (congrArg (AList.lookup pane) (apply_sessions write board.manager)).trans sessions
  refine ⟨fun pane => ?_, fun other request there => ?_, accounted.closed,
    settle_gone fun tab closed => ?_⟩
  · refine (accounted.sums pane).transfer
      (nofun : (Sum.inl write.tab : TabId ⊕ RequestId) ≠ .inr id) ?_ ?_
    · intro place notTab notRequest
      cases place with
      | inl other =>
        have ne : other ≠ write.tab := fun same => notTab (congrArg Sum.inl same)
        exact congrArg (fun panes => ((count pane panes : Nat) : ℤ))
          (apply_panesOf_ne write board.manager ne)
      | inr other =>
        have ne : other ≠ id := fun same => notRequest (congrArg Sum.inr same)
        rw [holding_request, holding_request, Board.set_lookup, if_neg ne]
        rfl
    · have count := cur.count_panes freshPanes pane
      rw [holding_request, holding_request, holding_tab, holding_tab, Board.set_lookup,
        if_pos rfl, found]
      change (((write.apply board.manager).panesOf write.tab).count pane : ℤ) +
        gains pane rest = _ + gains pane (write :: rest)
      rw [apply_panesOf, count, gains_cons]
      omega
  · rw [Board.set_lookup] at there
    split at there
    · cases there
      refine ⟨fun later suffix => suffixes later (suffix.trans (suffix_cons _ _)), ?_⟩
      exact fun pane session same => members pane session (published pane session same)
    · exact (accounted.sound other request there).mono members (fun _ created => created)
        fun _ closed => closed
  · rw [apply_lookup, if_neg fun same : tab = write.tab => open_ (same ▸ closed)]
    exact accounted.gone tab closed

/-! ### The section that publishes a split -/

variable {session : SessionHandle}

theorem publish_quiet (new : pane ∉ board.created)
    (published : board.manager.publish pane session = (manager, true)) :
    Quiet board manager ∧ manager.sessions.lookup pane = some session := by
  unfold publish at published
  split at published
  · cases published
  · cases published
    refine ⟨⟨rfl, fun other created => ?_⟩, ?_⟩
    · have ne : other ≠ pane := fun same => new (same ▸ created)
      exact (lookup_insert _ _ _ _).trans (if_neg ne)
    · exact (lookup_insert _ _ _ _).trans (if_pos rfl)

theorem publish_refused {after : SessionManager}
    (refused : manager.publish pane session = (after, false)) : after = manager := by
  unfold publish at refused
  split at refused
  · exact (congrArg Prod.fst refused).symm
  · cases refused

theorem splitLayout_adds (layout : Layout) (target : PaneId) (side splitId : String)
    (pane : PaneId) (sshTitle : Option String) :
    ∃ new, splitLayout layout target side splitId pane sshTitle = some new ∧
      Layout.Adds target [pane] layout.collectLeafPaneIds new.collectLeafPaneIds := by
  unfold splitLayout
  cases sshTitle with
  | some | none => exact Layout.insertPaneIntoLayoutInner_adds ..

theorem Accounted.publish (accounted : Accounted board) {id : RequestId} {split : Split}
    {sshTitle : Option String} (found : board.requests.lookup id = some (.splitting split true))
    (taken : board.publishSplit id split session sshTitle splitId = some next) :
    Accounted next := by
  obtain ⟨nodup, mem⟩ := accounted.sound id _ found
  unfold Board.publishSplit at taken
  split at taken
  · cases taken
  rename_i new
  split at taken
  · -- A publication that fails leaves the sessions alone.
    rename_i manager refused
    cases taken
    obtain rfl := publish_refused refused
    exact accounted.finish (quiet_dropReservation board split.pane) found fun _ => rfl
  next manager published =>
    obtain ⟨quiet, cur⟩ := publish_quiet new published
    obtain ⟨layout, ins, adds⟩ := splitLayout_adds split.layout split.target
      split.direction splitId split.pane sshTitle
    rw [ins] at taken
    cases taken
    have count := count_of_adds adds nodup mem
    have gain : ∀ pane, gains pane [.insert split.tab split.layout layout split.pane] =
        [split.pane].count pane := by
      intro pane
      rw [gains_cons, gains_nil]
      simp only [Write.gain, count pane]
      omega
    have members : ∀ pane session', board.Member pane session' →
        (Board.set { board with manager, created := split.pane :: board.created } id
          (some (.writing [.insert split.tab split.layout layout split.pane]
            (some (split.pane, session))))).Member pane session' := by
      rintro pane session' ⟨created, mem⟩
      exact ⟨mem_cons_of_mem _ created, mem.imp_left fun sessions =>
        (quiet.sessions pane created).trans sessions⟩
    have unclosed : split.pane ∉ board.closed := fun closed =>
      new (accounted.closed split.pane closed)
    refine ⟨fun pane => ?_, fun other known there => ?_,
      fun pane closed => mem_cons_of_mem _ (accounted.closed pane closed),
      fun tab closed => ?_⟩
    · -- The new pane is in the hand of the request.
      refine (congrArg (Sums _) ?_).mpr ((accounted.sums pane).change (.inr id)
        fun place ne => ?_)
      · rw [holding_request, holding_request, Board.set_lookup, if_pos rfl, found]
        change _ = board.expected pane + gains pane [_] - 0
        rw [gain pane]
        unfold Board.expected
        change (if pane ∈ split.pane :: board.created ∧ pane ∉ board.closed then (1 : ℤ) else 0) = _
        by_cases same : pane = split.pane
        · simp [same, new, unclosed]
        · simp [same, Ne.symm same]
      · cases place with
        | inl tab =>
          change ((manager.panesOf tab).count pane : ℤ) = _
          rw [panesOf, layoutOf, quiet.layouts]
          rfl
        | inr other =>
          rw [holding_request, holding_request, Board.set_lookup,
            if_neg fun same => ne (congrArg Sum.inr same)]
    · rw [Board.set_lookup] at there
      split at there
      · cases there
        refine ⟨nonneg_of_suffix (fun pane => ?_) nonneg_of_suffix_nil, ?_⟩
        · rw [gain pane]
          exact Int.natCast_nonneg _
        · rintro _ _ ⟨⟩
          exact ⟨mem_cons_self, .inl cur⟩
      · exact (accounted.sound other known there).mono members
          (fun _ created => mem_cons_of_mem _ created) fun _ closed => closed
    · change manager.tabLayouts.lookup tab = none
      rw [quiet.layouts]
      exact accounted.gone tab closed

/-! ### The sections that remove a pane -/

/-- A section that removes a closed pane from all tabs keeps the account, when no request has the
pane in its hand. -/
theorem Accounted.purged (accounted : Accounted board) {closed : List PaneId}
    (created : pane ∈ board.created)
    (closes : ∀ other, other ∈ closed ↔ other = pane ∨ other ∈ board.closed)
    (removed : ∀ tab, (manager.panesOf tab).count pane = 0) (others : ∀ tab other, other ≠ pane →
      (manager.panesOf tab).count other = (board.manager.panesOf tab).count other)
    (absent : ∀ tab, board.manager.tabLayouts.lookup tab = none →
      manager.tabLayouts.lookup tab = none) (sessions : ∀ other, other ≠ pane →
      manager.sessions.lookup other = board.manager.sessions.lookup other)
    (unheld : ∀ other request, board.requests.lookup other = some request →
      request.carried pane = 0) {id : RequestId} {request : Request}
    (found : board.requests.lookup id = some request) (empty : ∀ pane, request.carried pane = 0) :
    Accounted (({ board with closed }.settle manager).set id none) := by
  have members : ∀ other session, board.Member other session →
      (({ board with closed }.settle manager).set id none).Member other session := by
    rintro other session ⟨known, cur⟩
    refine ⟨known, ?_⟩
    by_cases same : other = pane
    · exact .inr ((closes other).mpr (.inl same))
    · exact cur.imp (fun cur => (sessions other same).trans cur)
        fun before => (closes other).mpr (.inr before)
  have requests : ∀ other, other ≠ id →
      (({ board with closed }.settle manager).set id none).requests.lookup other =
        board.requests.lookup other := fun other ne => by
    rw [Board.set_lookup, if_neg ne]
    rfl
  have ended : (({ board with closed }.settle manager).set id none).requests.lookup id = none := by
    rw [Board.set_lookup, if_pos rfl]
  refine ⟨fun other => ?_, fun other known there => ?_, fun other mem => ?_,
    settle_gone fun tab before => absent tab (accounted.gone tab before)⟩
  · by_cases same : other = pane
    · have nothing : (({ board with closed }.settle manager).set id none).expected other = 0 :=
        if_neg fun held => held.2 ((closes other).mpr (.inl same))
      rw [nothing, same]
      refine Sums.none fun place => ?_
      cases place with
      | inl tab => exact congrArg Nat.cast (removed tab)
      | inr place =>
        rw [holding_request]
        by_cases here : place = id
        · rw [here, ended]
          rfl
        · rw [requests place here]
          cases there : board.requests.lookup place with
          | none => rfl
          | some known => exact unheld place known there
    · have unchanged : (({ board with closed }.settle manager).set id none).expected other =
          board.expected other := by
        unfold Board.expected
        refine if_congr (and_congr Iff.rfl (not_congr ?_)) rfl rfl
        exact (closes other).trans (or_iff_right same)
      rw [unchanged]
      refine (accounted.sums other).congr fun place => ?_
      cases place with
      | inl tab => exact congrArg Nat.cast (others tab other same)
      | inr place =>
        rw [holding_request, holding_request]
        by_cases here : place = id
        · rw [here, ended, found]
          exact (empty other).symm
        · rw [requests place here]
  · by_cases here : other = id
    · rw [here, ended] at there
      cases there
    · rw [requests other here] at there
      exact (accounted.sound other known there).mono members (fun _ known => known)
        fun before mem => (closes before).mpr (.inr mem)
  · rcases (closes other).mp mem with rfl | before
    · exact created
    · exact accounted.closed other before

theorem panesOf_of_lookup {before after : SessionManager} {tab : TabId}
    (purged : after.tabLayouts.lookup tab =
      (before.tabLayouts.lookup tab).bind (purgedValue pane)) :
    after.panesOf tab = (before.panesOf tab).filter (· ≠ pane) := by
  unfold panesOf layoutOf
  rw [purged]
  cases before.tabLayouts.lookup tab with
  | none => rfl
  | some value => exact purgedValue_panes pane value

theorem count_filter_ne {panes : List PaneId} {other : PaneId} (ne : other ≠ pane) :
    (panes.filter (· ≠ pane)).count other = panes.count other :=
  count_filter (by simpa using ne)

theorem count_filter_self (panes : List PaneId) (pane : PaneId) :
    (panes.filter (· ≠ pane)).count pane = 0 :=
  count_eq_zero_of_not_mem fun kept => by simp at kept

/-- Closing a pane purges every tab, and removes the session of the pane if it has one. -/
theorem claimPaneClose_closes (manager : SessionManager) (pane : PaneId) :
    (∀ tab, (manager.claimPaneClose pane).1.tabLayouts.lookup tab =
      (manager.tabLayouts.lookup tab).bind (purgedValue pane)) ∧
    ∀ other, other ≠ pane →
      (manager.claimPaneClose pane).1.sessions.lookup other = manager.sessions.lookup other := by
  have collected : ∀ (before : SessionManager) fallbackTab tab,
      (before.collectLayoutCloseLocked pane fallbackTab).1.tabLayouts.lookup tab =
        (before.tabLayouts.lookup tab).bind (purgedValue pane) :=
    fun before _ tab => (before.lookup_purgePaneFromLayoutsLocked pane false tab).trans
      (if_neg Bool.false_ne_true)
  unfold claimPaneClose
  cases removed : manager.removeSessionLocked pane none with
  | none =>
    refine ⟨collected manager false, fun other _ => ?_⟩
    have same := manager.collectLayoutCloseLocked_sameMembers pane false
    exact congrArg (AList.lookup other) same.sessions
  | some claimed =>
    obtain ⟨closed, plan⟩ := claimed
    have erased := (removeSessionLocked_eq_some removed).2.2.1
    refine ⟨fun tab => ?_, fun other ne => ?_⟩
    · unfold removeSessionLocked at removed
      split at removed
      · cases removed
      · split at removed
        · cases removed
        · cases removed
          exact collected _ true tab
    · change closed.sessions.lookup other = _
      rw [erased, lookup_erase, if_neg ne]

theorem Accounted.close (accounted : Accounted board) {id : RequestId}
    (found : board.requests.lookup id = some (.closing pane))
    (unheld : ∀ other request, board.requests.lookup other = some request →
      request.carried pane = 0) :
    Accounted (({ board with closed := pane :: board.closed }.settle
      (board.manager.claimPaneClose pane).1).set id none) := by
  obtain ⟨lookup, sessions⟩ := claimPaneClose_closes board.manager pane
  refine accounted.purged (accounted.sound id _ found) (fun other => mem_cons)
    (fun tab => ?_) (fun tab other ne => ?_) (fun tab absent => ?_) sessions unheld found
    fun _ => rfl
  · rw [panesOf_of_lookup (lookup tab), count_filter_self]
  · rw [panesOf_of_lookup (lookup tab), count_filter_ne ne]
  · rw [lookup tab, absent]
    rfl

theorem Accounted.closed_nowhere (accounted : Accounted board) (closed : pane ∈ board.closed)
    (place : TabId ⊕ RequestId) : board.holding pane place = 0 := by
  have nothing : board.expected pane = 0 := if_neg fun held => held.2 closed
  have sums := accounted.sums pane
  rw [nothing] at sums
  exact sums.eq_zero (accounted.nonneg pane) place

theorem Accounted.correct (accounted : Accounted board) {id : RequestId}
    (found : board.requests.lookup id = some (.correcting pane)) :
    Accounted ((board.settle (board.manager.purgePaneFromLayoutsLocked pane true).1).set
      id none) := by
  have closed : pane ∈ board.closed := accounted.sound id _ found
  have none : ∀ tab, (board.manager.panesOf tab).count pane = 0 := fun tab =>
    Int.ofNat_eq_zero.mp (accounted.closed_nowhere closed (.inl tab))
  have lookup := board.manager.lookup_purgePaneFromLayoutsLocked pane true
  have same := board.manager.purgePaneFromLayoutsLocked_sameMembers pane true
  have panes : ∀ tab other,
      ((board.manager.purgePaneFromLayoutsLocked pane true).1.panesOf tab).count other =
        (board.manager.panesOf tab).count other := by
    intro tab other
    rw [panesOf_purgePaneFromLayoutsLocked]
    split
    · rfl
    · by_cases here : other = pane
      · rw [here, count_filter_self, none tab]
      · exact count_filter_ne here
  refine accounted.purged (accounted.closed pane closed) (fun other => ?_) (fun tab => ?_)
    (fun tab other _ => panes tab other) (fun tab absent => ?_)
    (fun other _ => congrArg (AList.lookup other) same.sessions)
    (fun other request there => ?_) found fun _ => rfl
  · exact ⟨.inr, fun mem => mem.elim (fun here => here ▸ closed) fun before => before⟩
  · rw [panes tab pane, none tab]
  · rw [lookup tab, absent]
    exact ite_self _
  · have nothing := accounted.closed_nowhere closed (.inr other)
    rwa [holding_request, there] at nothing

/-! ### A section -/

theorem Accounted.accept (accounted : Accounted board) {id : RequestId}
    {request : Except Rejection Request}
    (sound : ∀ known, request = .ok known → known.Sound board ∧ ∀ pane, known.carried pane = 0)
    (taken : board.accept id request = some next) : Accounted next := by
  unfold Board.accept at taken
  split at taken
  next known =>
    split at taken
    · cases taken
    next new =>
      cases taken
      refine accounted.request (.refl board) (fun pane => ?_) ?_
      · rw [AList.lookup_eq_none.mpr new]
        exact (sound known rfl).2 pane
      · rintro _ ⟨⟩
        exact (sound known rfl).1
  · cases taken
    exact accounted

theorem loadWithPane_ok {tab : TabId} (loaded : loadWithPane manager tab pane = .ok layout) :
    loadLayout manager "tab" tab = .ok layout ∧ pane ∈ layout.collectLeafPaneIds := by
  obtain ⟨found, there, checked⟩ := bind_eq_ok loaded
  split at checked
  next mem =>
    cases checked
    exact ⟨there, mem⟩
  · cases checked

theorem loadDestination_ok (loaded : loadDestination manager destination target = .ok layout) :
    loadLayout manager "destination tab" destination = .ok layout ∧
      target ∈ layout.collectLeafPaneIds := by
  obtain ⟨found, there, checked⟩ := bind_eq_ok loaded
  split at checked
  next mem =>
    cases checked
    exact ⟨there, mem⟩
  · cases checked

theorem Accounted.created_of_mem (accounted : Accounted board) {tab : TabId}
    (mem : pane ∈ board.manager.panesOf tab) : pane ∈ board.created := by
  by_contra new
  have nothing : board.expected pane = 0 := if_neg fun held => new held.1
  have sums := accounted.sums pane
  rw [nothing] at sums
  have count := sums.eq_zero (accounted.nonneg pane) (.inl tab)
  exact count_eq_zero.mp (Int.ofNat_eq_zero.mp count) mem

theorem step_accounted (accounted : Accounted board) {action : Action}
    (undisturbed : Undisturbed board action) (taken : board.step action = some next) :
    Accounted next := by
  cases action with
  | startSplit id tab target side pane =>
    refine accounted.accept (fun known admitted => ?_) taken
    obtain ⟨layout, loaded, rest⟩ := bind_eq_ok admitted
    cases rest
    obtain ⟨there, mem⟩ := loadWithPane_ok loaded
    exact ⟨⟨accounted.nodup_of_loaded there, mem⟩, fun _ => rfl⟩
  | reserve id =>
    simp only [Board.step] at taken
    split at taken
    next split found =>
      split at taken
      next manager reserved =>
        cases taken
        have known : (Request.splitting split false).Sound board := accounted.sound id _ found
        refine accounted.request (quiet_reserveSession reserved) (fun _ => by rw [found]; rfl) ?_
        rintro _ ⟨⟩
        exact known
      · cases taken
        exact accounted.finish (.refl board) found fun _ => rfl
    · cases taken
  | abandon id =>
    simp only [Board.step] at taken
    split at taken
    next split found =>
      cases taken
      exact accounted.finish (.refl board) found fun _ => rfl
    next split found =>
      cases taken
      exact accounted.finish (quiet_dropReservation board split.pane) found fun _ => rfl
    · cases taken
  | publish id session sshTitle splitId =>
    simp only [Board.step] at taken
    split at taken
    next split found =>
      exact accounted.publish found taken
    · cases taken
  | startMove id source pane destination target side =>
    refine accounted.accept (fun known admitted => ?_) taken
    split at admitted
    · cases admitted
    obtain ⟨layout, loaded, rest⟩ := bind_eq_ok admitted
    cases rest
    exact ⟨accounted.nodup_of_loaded loaded, fun _ => rfl⟩
  | readDestination id splitId =>
    simp only [Board.step] at taken
    split at taken
    next move found =>
      split at taken
      next writes read =>
        cases taken
        obtain ⟨layout, loaded, planned⟩ := bind_eq_ok read
        obtain ⟨there, mem⟩ := loadDestination_ok loaded
        have nodup := accounted.nodup_of_loaded there
        have moves : Moves writes := by
          split at planned
          · exact moveTab_moves nodup mem planned
          · exact moveOne_moves (accounted.sound id _ found) nodup mem planned
        refine accounted.request (.refl board) (fun pane => ?_) ?_
        · rw [found]
          exact moves.even pane
        · rintro _ ⟨⟩
          exact ⟨moves.rest, nofun⟩
      · cases taken
        exact accounted.finish (.refl board) found fun _ => rfl
    · cases taken
  | startExtract id source pane newTab =>
    refine accounted.accept (fun known admitted => ?_) taken
    obtain ⟨layout, loaded, rest⟩ := bind_eq_ok admitted
    obtain ⟨writes, extracted, rest⟩ := bind_eq_ok rest
    cases rest
    have moves := extractOne_moves (accounted.nodup_of_loaded loaded) extracted
    exact ⟨⟨moves.rest, nofun⟩, moves.even⟩
  | startClose id tab pane =>
    refine accounted.accept (fun known admitted => ?_) taken
    obtain ⟨layout, loaded, rest⟩ := bind_eq_ok admitted
    cases rest
    obtain ⟨there, mem⟩ := loadWithPane_ok loaded
    rw [← panesOf_of_layoutOf (loadLayout_ok there)] at mem
    exact ⟨accounted.created_of_mem mem, fun _ => rfl⟩
  | close id =>
    simp only [Board.step] at taken
    split at taken
    next pane found =>
      cases taken
      have unheld := undisturbed pane (by rw [Board.nextClosed, found]; rfl)
      refine accounted.close found fun other request there => ?_
      exact unheld ⟨other, request⟩ (lookup_eq_some_iff.mp there)
    · cases taken
  | write id =>
    simp only [Board.step] at taken
    split at taken
    next write rest publication found =>
      have cur := undisturbed write (by rw [Board.nextWrite, found]; rfl)
      exact accounted.write found cur taken
    · cases taken
  | recheck id =>
    simp only [Board.step] at taken
    split at taken
    next pane session found =>
      cases taken
      split
      · exact accounted.finish (.refl board) found fun _ => rfl
      · -- A session that is not cur any more has left with its pane.
        rename_i superseded
        refine accounted.request (.refl board) (fun _ => by rw [found]; rfl) ?_
        rintro _ ⟨⟩
        refine ((accounted.sound id _ found).2 pane session rfl).2.resolve_left fun cur => ?_
        exact superseded (decide_eq_true cur)
    · cases taken
  | correct id =>
    simp only [Board.step] at taken
    split at taken
    next pane found =>
      cases taken
      exact accounted.correct found
    · cases taken
  | answer id =>
    simp only [Board.step] at taken
    split at taken
    next found =>
      cases taken
      exact accounted.finish (.refl board) found fun _ => rfl
    · cases taken

/-! ### A run -/

/-- The pane is in exactly one leaf of exactly one tab. -/
def OccursOnce (manager : SessionManager) (pane : PaneId) : Prop :=
  ∃ tab, (manager.panesOf tab).count pane = 1 ∧ ∀ other, other ≠ tab → pane ∉ manager.panesOf other

/-- Every pane of the tabs is in exactly one leaf of exactly one tab. -/
def Tidy (manager : SessionManager) : Prop :=
  ∀ tab, ∀ pane ∈ manager.panesOf tab, OccursOnce manager pane

theorem mem_start_created (manager : SessionManager) (pane : PaneId) :
    pane ∈ (Board.start manager).created ↔ ∃ tab, pane ∈ manager.panesOf tab := by
  unfold Board.start
  rw [mem_flatMap]
  refine ⟨fun ⟨tab, _, mem⟩ => ⟨tab, mem⟩, fun ⟨tab, mem⟩ => ⟨tab, ?_, mem⟩⟩
  by_contra absent
  rw [panesOf, layoutOf, AList.lookup_eq_none.mpr absent] at mem
  cases mem

theorem start_accounted (tidy : Tidy manager) : Accounted (Board.start manager) where
  sums pane := by
    by_cases created : pane ∈ (Board.start manager).created
    · obtain ⟨somewhere, held⟩ := (mem_start_created manager pane).mp created
      obtain ⟨tab, once, others⟩ := tidy somewhere pane held
      have expected : (Board.start manager).expected pane =
          (Board.start manager).holding pane (.inl tab) := by
        rw [holding_tab]
        exact (if_pos ⟨created, not_mem_nil⟩).trans (congrArg Nat.cast once).symm
      rw [expected]
      refine Sums.single (Sum.inl tab) fun place ne => ?_
      cases place with
      | inl other =>
        have away := others other fun same => ne (congrArg Sum.inl same)
        exact congrArg Nat.cast (count_eq_zero.mpr away)
      | inr id => rfl
    · have expected : (Board.start manager).expected pane = 0 :=
        if_neg fun held => created held.1
      rw [expected]
      refine Sums.none fun place => ?_
      cases place with
      | inl tab =>
        refine congrArg Nat.cast (count_eq_zero.mpr fun member => created ?_)
        exact (mem_start_created manager pane).mpr ⟨tab, member⟩
      | inr id => rfl
  sound _ _ found := nomatch found
  closed _ member := nomatch member
  gone _ member := nomatch member

/-- No update of a layout has been lost. When no request is under way, every pane that has been
created and not closed is in exactly one leaf of exactly one tab; no closed pane is in any tab; and
no closed tab is there. -/
structure Kept (board : Board) : Prop where
  present : (∀ id, board.requests.lookup id = none) →
    ∀ pane ∈ board.created, pane ∉ board.closed → OccursOnce board.manager pane
  absent : ∀ pane ∈ board.closed, ∀ tab, pane ∉ board.manager.panesOf tab
  gone : ∀ tab ∈ board.closedTabs, board.manager.tabLayouts.lookup tab = none

theorem Accounted.kept (accounted : Accounted board) : Kept board where
  present finished pane created unclosed := by
    have expected : board.expected pane = 1 := if_pos ⟨created, unclosed⟩
    have sums := accounted.sums pane
    rw [expected] at sums
    obtain ⟨place, one, others⟩ := sums.unique (accounted.nonneg pane)
    cases place with
    | inl tab =>
      refine ⟨tab, Int.ofNat_inj.mp one, fun other ne => ?_⟩
      have zero := others (Sum.inl other) fun same => ne (Sum.inl.inj same)
      exact count_eq_zero.mp (Int.ofNat_eq_zero.mp zero)
    | inr id =>
      rw [holding_request, finished id] at one
      cases one
  absent pane closed tab :=
    count_eq_zero.mp
      (Int.ofNat_eq_zero.mp (accounted.closed_nowhere closed (Sum.inl tab)))
  gone := accounted.gone

/-- In a run from tidy tabs in which every write finds its tab as it has been read, and no pane is
closed while a request has it in its hand, no update is lost. -/
theorem no_update_lost {manager : SessionManager} {actions : List Action} {final : Board}
    (tidy : Tidy manager)
    (undisturbed : Fallible.Meets Board.step Undisturbed (Board.start manager) actions)
    (reached : Fallible.run Board.step (Board.start manager) actions = some final) :
    Kept final := by
  have accounted : Accounted final :=
    run_invariant (fun _ _ _ accounted undisturbed taken =>
      step_accounted accounted undisturbed taken) (start_accounted tidy) undisturbed reached
  exact accounted.kept

/-! ### Two runs -/

def oneTab : SessionManager where
  sessions := AList.singleton "first" 0
  tabLayouts := AList.singleton "tab"
    { layout := some (.leaf { paneId := "first" }), activePaneId := some "first" }
  tabOrder := ["tab"]

theorem not_mem_panesOf (nowhere : ∀ entry ∈ manager.tabLayouts.entries,
      pane ∉ entry.2.layout.elim [] Layout.collectLeafPaneIds) (tab : TabId) :
    pane ∉ manager.panesOf tab := by
  unfold panesOf layoutOf
  cases found : manager.tabLayouts.lookup tab with
  | none => exact not_mem_nil
  | some value => exact nowhere ⟨tab, value⟩ (lookup_eq_some_iff.mp found)

theorem oneTab_tidy : Tidy oneTab := by
  have panes : ∀ tab, tab ≠ "tab" → oneTab.panesOf tab = [] := by
    intro tab ne
    unfold panesOf layoutOf
    rw [show oneTab.tabLayouts.lookup tab = none from AList.lookup_eq_none.mpr
      fun there => ne (mem_singleton.mp there)]
    rfl
  intro tab pane mem
  have here : tab = "tab" := by
    by_contra ne
    rw [panes tab ne] at mem
    cases mem
  subst here
  obtain rfl : pane = "first" := mem_singleton.mp mem
  refine ⟨"tab", by decide +kernel, fun other ne => ?_⟩
  rw [panes other ne]
  exact not_mem_nil

/-- Split the only pane of a tab, up to the answer. -/
def oneSplit : List Action :=
  [.startSplit 0 "tab" "first" "right" "second", .reserve 0, .publish 0 1 none "split",
    .write 0, .recheck 0]

theorem no_update_lost_split :
    ∃ final, Fallible.run Board.step (Board.start oneTab) oneSplit = some final ∧
      final.created = ["second", "first"] ∧ Kept final := by
  have run : (Fallible.run Board.step (Board.start oneTab) oneSplit).any
      (·.created = ["second", "first"]) := by decide +kernel
  obtain ⟨final, reached, created⟩ := (Option.any_eq_true _ _).mp run
  have undisturbed : Fallible.Meets Board.step Undisturbed (Board.start oneTab) oneSplit := by
    decide +kernel
  exact ⟨final, reached, of_decide_eq_true created, no_update_lost oneTab_tidy undisturbed reached⟩

/-- Split the same pane twice, each request reading the layout before the other writes it. -/
def twoSplits : List Action :=
  [.startSplit 0 "tab" "first" "right" "second", .startSplit 1 "tab" "first" "right" "third",
    .reserve 0, .publish 0 1 none "split", .reserve 1, .publish 1 2 none "split'",
    .write 0, .write 1, .recheck 0, .recheck 1]

/-- Close the only pane of a tab while a split of it is under way. -/
def splitAndClose : List Action :=
  [.startSplit 0 "tab" "first" "right" "second", .startClose 1 "tab" "first", .close 1,
    .reserve 0, .publish 0 1 none "split", .write 0, .recheck 0]

/-- Of two concurrent splits of one tab the first is lost. A split that is under way while its tab
is closed brings the tab back, with the closed pane. -/
theorem concurrent_requests_lose_and_revive : Tidy oneTab ∧
    (∃ final, Fallible.run Board.step (Board.start oneTab) twoSplits = some final ∧
      final.requests.entries.isEmpty ∧ "second" ∈ final.created ∧ "second" ∉ final.closed ∧
      ¬ OccursOnce final.manager "second") ∧
    ∃ final, Fallible.run Board.step (Board.start oneTab) splitAndClose = some final ∧
      final.requests.entries.isEmpty ∧ "first" ∈ final.closed ∧
      "first" ∈ final.manager.panesOf "tab" ∧ "tab" ∈ final.closedTabs ∧
      (final.manager.tabLayouts.lookup "tab").isSome := by
  refine ⟨oneTab_tidy, ?_, ?_⟩
  · have run : (Fallible.run Board.step (Board.start oneTab) twoSplits).any fun final =>
        final.requests.entries.isEmpty ∧ "second" ∈ final.created ∧ "second" ∉ final.closed ∧
          ∀ entry ∈ final.manager.tabLayouts.entries,
            "second" ∉ entry.2.layout.elim [] Layout.collectLeafPaneIds := by decide +kernel
    obtain ⟨final, reached, facts⟩ := (Option.any_eq_true _ _).mp run
    obtain ⟨ended, created, unclosed, nowhere⟩ := of_decide_eq_true facts
    refine ⟨final, reached, ended, created, unclosed, ?_⟩
    rintro ⟨tab, once, _⟩
    rw [count_eq_zero.mpr (not_mem_panesOf nowhere tab)] at once
    cases once
  · have run : (Fallible.run Board.step (Board.start oneTab) splitAndClose).any fun final =>
        final.requests.entries.isEmpty ∧ "first" ∈ final.closed ∧
          "first" ∈ final.manager.panesOf "tab" ∧ "tab" ∈ final.closedTabs ∧
          (final.manager.tabLayouts.lookup "tab").isSome := by decide +kernel
    obtain ⟨final, reached, facts⟩ := (Option.any_eq_true _ _).mp run
    exact ⟨final, reached, of_decide_eq_true facts⟩

end Dinotty.Tabs
