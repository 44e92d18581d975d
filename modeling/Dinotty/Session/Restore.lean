/-
This file is the materialisation of a tab: its terminals are started one by one, and the tab is
stored when all have started. When one fails, those before it are closed again, and closing takes
each of their panes out of every tab.
-/

import Dinotty.Session.StoredTabs

namespace Dinotty.Session.Stored

open List Option KeyMap SessionManager

/-! ### Starting and rolling back -/

/-- How the backend of a pane comes up, given the directory that it is to start in. -/
abbrev Spawn := PaneId → Option String → Except String SessionRecord

/-- Start the terminals one by one, up to the first that fails, answering those that have
started and the failure. -/
def startAll (spawn : Spawn) : SessionManager → List PaneId → List (PaneId × Option String) →
    SessionManager × List PaneId × Option (PaneId × String)
  | manager, spawned, [] => (manager, spawned, none)
  | manager, spawned, (pane, cwd) :: rest =>
      match manager.createSession pane (spawn pane cwd) with
      | (manager, .ok _) => startAll spawn manager (spawned ++ [pane]) rest
      | (manager, .error error) => (manager, spawned, some (pane, error))

/-- Close the terminals that have been started. -/
def rollBack (manager : SessionManager) (spawned : List PaneId) : SessionManager :=
  spawned.foldl (fun manager pane => (manager.closeSession pane none).1) manager

/-- The managers have the same sessions, reservations, tabs in the same order, and active pane. -/
structure SameMembers (before after : SessionManager) : Prop where
  sessions : ∀ pane, after.sessions.lookup pane = before.sessions.lookup pane
  reservations : after.sessionReservations = before.sessionReservations
  tabs : ∀ tab, after.tabLayouts.lookup tab = before.tabLayouts.lookup tab
  order : after.tabOrder = before.tabOrder
  active : after.activePaneId = before.activePaneId

/-- Closing the panes leaves the tabs and the active pane alone: the removal can read every layout
and finds none of the panes, and none is active. -/
def Harmless (manager : SessionManager) (panes : List PaneId) : Prop :=
  ∀ pane ∈ panes, manager.activePaneId ≠ some pane ∧
    ∀ tab layout, manager.layoutOf tab = some layout →
      Readable layout ∧ pane ∉ collectLeafPaneIds layout

/-! ### The terminals that have started -/

structure Started (before after : SessionManager) (spawned : List PaneId) : Prop where
  distinct : spawned.Nodup
  vacant : ∀ pane ∈ spawned, before.Vacant pane
  live : ∀ pane ∈ spawned, (after.sessions.lookup pane).isSome
  others : ∀ pane, pane ∉ spawned → after.sessions.lookup pane = before.sessions.lookup pane
  reservations : after.sessionReservations = before.sessionReservations
  tabLayouts : after.tabLayouts = before.tabLayouts
  tabOrder : after.tabOrder = before.tabOrder
  active : after.activePaneId = before.activePaneId

theorem Started.refl (manager : SessionManager) : Started manager manager [] :=
  ⟨.nil, nofun, nofun, fun _ _ => rfl, rfl, rfl, rfl, rfl⟩

variable {before after : SessionManager} {spawned : List PaneId}

theorem Started.vacant_iff (started : Started before after spawned) (pane : PaneId) :
    after.Vacant pane ↔ before.Vacant pane ∧ pane ∉ spawned := by
  unfold Vacant
  rw [started.reservations]
  constructor
  · rintro ⟨dead, free⟩
    have unspawned : pane ∉ spawned := fun mem => by
      have live := started.live pane mem
      rw [isNone_iff_eq_none.mp dead] at live
      cases live
    rw [started.others pane unspawned] at dead
    exact ⟨⟨dead, free⟩, unspawned⟩
  · rintro ⟨⟨dead, free⟩, unspawned⟩
    rw [started.others pane unspawned]
    exact ⟨dead, free⟩

variable {pane : PaneId}

theorem Started.create (started : Started before after spawned) (vacant : after.Vacant pane)
    (session : SessionRecord) :
    Started before { after with
      sessions := after.sessions.insert pane session
      unownedSince := after.unownedSince.erase pane } (spawned ++ [pane]) where
  distinct := by
    have unspawned := ((started.vacant_iff pane).mp vacant).2
    refine nodup_append.mpr ⟨started.distinct, nodup_singleton pane, ?_⟩
    rintro other mem last isLast rfl
    exact unspawned (mem_singleton.mp isLast ▸ mem)
  vacant := by
    intro other mem
    rcases mem_append.mp mem with earlier | last
    · exact started.vacant other earlier
    · obtain rfl := mem_singleton.mp last
      exact ((started.vacant_iff other).mp vacant).1
  live := by
    intro other mem
    dsimp only
    rw [lookup_insert]
    split
    · rfl
    next away =>
      refine started.live other ((mem_append.mp mem).resolve_right fun last => ?_)
      exact away (mem_singleton.mp last)
  others := by
    intro other unspawned
    rw [mem_append, mem_singleton, not_or] at unspawned
    dsimp only
    rw [lookup_insert, if_neg unspawned.2]
    exact started.others other unspawned.1
  reservations := started.reservations
  tabLayouts := started.tabLayouts
  tabOrder := started.tabOrder
  active := started.active

/-- Whether a terminal starts after those that have been started. -/
def Starts (manager : SessionManager) (spawn : Spawn) (spawned : List PaneId)
    (leaf : PaneId × Option String) : Prop :=
  manager.Vacant leaf.1 ∧ leaf.1 ∉ spawned ∧ ∃ session, spawn leaf.1 leaf.2 = .ok session

instance (manager : SessionManager) (pane : PaneId) : Decidable (manager.Vacant pane) :=
  inferInstanceAs (Decidable (_ ∧ _))

instance (manager : SessionManager) (spawn : Spawn) (spawned : List PaneId)
    (leaf : PaneId × Option String) : Decidable (Starts manager spawn spawned leaf) :=
  have : Decidable (∃ session, spawn leaf.1 leaf.2 = .ok session) :=
    match spawn leaf.1 leaf.2 with
    | .ok session => isTrue ⟨session, rfl⟩
    | .error _ => isFalse nofun
  inferInstanceAs (Decidable (_ ∧ _ ∧ _))

/-- The panes that start before one fails, behind those that have been started. -/
def startedPanes (manager : SessionManager) (spawn : Spawn) :
    List PaneId → List (PaneId × Option String) → List PaneId
  | spawned, [] => spawned
  | spawned, leaf :: rest =>
      if Starts manager spawn spawned leaf then startedPanes manager spawn (spawned ++ [leaf.1]) rest
      else spawned

def AllStart (manager : SessionManager) (spawn : Spawn) :
    List PaneId → List (PaneId × Option String) → Prop
  | _, [] => True
  | spawned, leaf :: rest =>
      Starts manager spawn spawned leaf ∧ AllStart manager spawn (spawned ++ [leaf.1]) rest

theorem createSession_of_started (started : Started before after spawned) (spawn : Spawn)
    (pane : PaneId) (cwd : Option String) :
    (Starts before spawn spawned (pane, cwd) ∧ ∃ next sess,
        after.createSession pane (spawn pane cwd) = (next, .ok sess) ∧
        Started before next (spawned ++ [pane])) ∨
      (¬Starts before spawn spawned (pane, cwd) ∧ ∃ error,
        after.createSession pane (spawn pane cwd) = (after, .error error)) := by
  rcases after.createSession_cases pane (spawn pane cwd) with
    ⟨cannot, error, same⟩ | ⟨sess, vacant, ok, created⟩
  · refine .inr ⟨fun starts => ?_, error, same⟩
    rcases cannot with taken | ⟨reason, failed⟩
    · exact taken ((started.vacant_iff pane).mpr ⟨starts.1, starts.2.1⟩)
    · obtain ⟨sess, ok⟩ := starts.2.2
      cases ok.symm.trans failed
  · obtain ⟨vacantBefore, unspawned⟩ := (started.vacant_iff pane).mp vacant
    exact .inl ⟨⟨vacantBefore, unspawned, sess, ok⟩, _, sess, created, started.create vacant sess⟩

theorem startAll_spec (started : Started before after spawned) (spawn : Spawn)
    (leaves : List (PaneId × Option String)) :
    (startAll spawn after spawned leaves).2.1 = startedPanes before spawn spawned leaves ∧
    Started before (startAll spawn after spawned leaves).1
      (startedPanes before spawn spawned leaves) ∧
    ((startAll spawn after spawned leaves).2.2 = none ↔ AllStart before spawn spawned leaves) := by
  induction leaves generalizing after spawned with
  | nil => exact ⟨rfl, started, iff_of_true rfl trivial⟩
  | cons leaf rest ih =>
    obtain ⟨pane, cwd⟩ := leaf
    rw [startAll, startedPanes, AllStart]
    rcases createSession_of_started started spawn pane cwd with
      ⟨starts, next, sess, created, startedNext⟩ | ⟨fails, error, same⟩
    · rw [created, if_pos starts]
      simp only [starts, true_and]
      exact ih startedNext
    · rw [same, if_neg fails]
      simp only [fails, false_and]
      exact ⟨trivial, started, iff_of_false nofun id⟩

variable {manager : SessionManager} {spawn : Spawn}

theorem startedPanes_of_allStart {leaves : List (PaneId × Option String)}
    (all : AllStart manager spawn spawned leaves) :
    startedPanes manager spawn spawned leaves = spawned ++ leaves.map Prod.fst := by
  induction leaves generalizing spawned with
  | nil => exact (append_nil spawned).symm
  | cons leaf rest ih =>
    rw [startedPanes, if_pos all.1, ih all.2, map_cons, append_assoc]
    rfl

/-! ### What rolling back does -/

/-- What is left of the value of a tab when panes have been closed one by one. -/
def purges : List PaneId → Json → Option Json
  | [], value => some value
  | pane :: rest, value =>
      ((SessionManager.purgeRevision pane value).apply value).bind (purges rest)

def layoutNodes (value : Json) : Nat := (value.get "layout").elim 0 nodeCount

variable {value : Json}

theorem layoutNodes_of_purgeRevision {new : Json}
    (applied : (purgeRevision pane value).apply value = some new) :
    layoutNodes new ≤ layoutNodes value ∧
      (layoutNodes value ≤ layoutNodes new → purgeRevision pane value = .keep) := by
  rcases purgeRevision_cases pane value with ⟨-, keep⟩ | ⟨layout, atLayout, cases⟩
  · rw [keep] at applied
    cases applied
    exact ⟨Nat.le_refl _, fun _ => keep⟩
  · rcases cases with ⟨-, drop⟩ | ⟨-, keep⟩ | ⟨left, removed, changed, write⟩
    · rw [drop] at applied
      cases applied
    · rw [keep] at applied
      cases applied
      exact ⟨Nat.le_refl _, fun _ => keep⟩
    · rw [write] at applied
      cases applied
      rw [layoutNodes, layoutNodes, get_layout_tabValue, atLayout, elim_some, elim_some]
      exact ⟨nodeCount_removePaneFromLayout_le layout left removed, fun count =>
        absurd (eq_of_nodeCount_removePaneFromLayout layout left removed count) changed⟩

/-- Closing panes one by one leaves a tab as it is exactly when closing each of them does. -/
theorem purges_eq_some_self_iff {panes : List PaneId} : purges panes value = some value ↔
      ∀ pane ∈ panes, purgeRevision pane value = .keep := by
  have shrinks : ∀ (panes : List PaneId) (value new : Json), purges panes value = some new →
      layoutNodes new ≤ layoutNodes value := by
    intro panes
    induction panes with
    | nil => exact fun value new same => (congrArg layoutNodes (some.inj same)).ge
    | cons pane rest ih =>
      intro value new purged
      obtain ⟨next, applied, later⟩ := bind_eq_some_iff.mp purged
      exact (ih next new later).trans (layoutNodes_of_purgeRevision applied).1
  constructor
  · intro purged
    induction panes with
    | nil => exact nofun
    | cons pane rest ih =>
      obtain ⟨next, applied, later⟩ := bind_eq_some_iff.mp purged
      -- The nodes have not become fewer at the end, so not at the first step either.
      have keep := (layoutNodes_of_purgeRevision applied).2 (shrinks rest next value later)
      rw [keep] at applied
      cases applied
      exact forall_mem_cons.mpr ⟨keep, ih later⟩
  · intro keeps
    induction panes with
    | nil => rfl
    | cons pane rest ih =>
      rw [purges, keeps pane mem_cons_self]
      exact ih fun other mem => keeps other (mem_cons_of_mem _ mem)

theorem purgeRevision_eq_keep_iff : purgeRevision pane value = .keep ↔
      ∀ layout, value.get "layout" = some layout →
        Readable layout ∧ pane ∉ collectLeafPaneIds layout := by
  rcases purgeRevision_cases pane value with ⟨none, keep⟩ | ⟨layout, atLayout, cases⟩
  · refine iff_of_true keep fun layout found => ?_
    cases none.symm.trans found
  · have single : (∀ other, value.get "layout" = some other →
        Readable other ∧ pane ∉ collectLeafPaneIds other) ↔
          removePaneFromLayout pane layout = some layout := by
      rw [removePaneFromLayout_eq_some_self_iff]
      refine ⟨fun all => all layout atLayout, fun same other found => ?_⟩
      cases atLayout.symm.trans found
      exact same
    rw [single]
    rcases cases with ⟨gone, drop⟩ | ⟨same, keep⟩ | ⟨left, removed, changed, write⟩
    · rw [drop, gone]
      exact iff_of_false nofun nofun
    · exact iff_of_true keep same
    · rw [write, removed, some.injEq]
      exact iff_of_false nofun changed

def withoutSession (manager : SessionManager) (pane : PaneId) : SessionManager :=
  { manager with
    sessions := manager.sessions.erase pane
    unownedSince := manager.unownedSince.erase pane }

theorem closeSession_of_present (held : (manager.sessions.lookup pane).isSome) :
    (manager.closeSession pane none).1 =
      ((withoutSession manager pane).collectLayoutCloseLocked pane true).1 := by
  obtain ⟨session, found⟩ := isSome_iff_exists.mp held
  rw [closeSession, removeSessionLocked, found]
  rfl

theorem rollBack_spec (nodup : spawned.Nodup)
    (live : ∀ pane ∈ spawned, (manager.sessions.lookup pane).isSome) :
    (∀ pane, (rollBack manager spawned).sessions.lookup pane =
        if pane ∈ spawned then none else manager.sessions.lookup pane) ∧
      (rollBack manager spawned).sessionReservations = manager.sessionReservations ∧
      (∀ tab, (rollBack manager spawned).tabLayouts.lookup tab =
        (manager.tabLayouts.lookup tab).bind (purges spawned)) ∧
      (rollBack manager spawned).activePaneId =
        if ∃ pane ∈ spawned, manager.activePaneId = some pane then none
        else manager.activePaneId := by
  induction spawned generalizing manager with
  | nil =>
    refine ⟨fun pane => rfl, rfl, fun tab => ?_, by simp [rollBack]⟩
    show _ = (manager.tabLayouts.lookup tab).bind some
    exact (bind_fun_some _).symm
  | cons pane rest ih =>
    obtain ⟨unspawned, distinctRest⟩ := nodup_cons.mp nodup
    have closed := closeSession_of_present (live pane mem_cons_self)
    have beside := (withoutSession manager pane).beside_purgePaneFromLayoutsLocked pane false
    have sessions : (manager.closeSession pane none).1.sessions = manager.sessions.erase pane := by
      rw [closed]
      exact congrArg Prod.fst beside
    have reservations : (manager.closeSession pane none).1.sessionReservations =
        manager.sessionReservations := by
      rw [closed]
      exact congrArg (·.2.2.1) beside
    have active : (manager.closeSession pane none).1.activePaneId =
        if manager.activePaneId = some pane then none else manager.activePaneId := by
      rw [closed]
      have kept : ((withoutSession manager pane).purgePaneFromLayoutsLocked pane
          false).1.activePaneId = manager.activePaneId := congrArg (·.2.1) beside
      rw [collectLayoutCloseLocked]
      dsimp only
      rw [kept]
    have tabs : ∀ tab, (manager.closeSession pane none).1.tabLayouts.lookup tab =
        (manager.tabLayouts.lookup tab).bind fun value =>
          (purgeRevision pane value).apply value := by
      intro tab
      rw [closed, tabLayouts_collectLayoutCloseLocked, lookup_purgePaneFromLayoutsLocked]
      rfl
    obtain ⟨sessionsRest, reservationsRest, tabsRest, activeRest⟩ :=
      @ih (manager.closeSession pane none).1 distinctRest
        fun other mem => by
          have ne : other ≠ pane := fun same => unspawned (same ▸ mem)
          rw [sessions, lookup_erase, if_neg ne]
          exact live other (mem_cons_of_mem _ mem)
    refine ⟨fun other => ?_, reservationsRest.trans reservations, fun tab => ?_, ?_⟩
    · refine (sessionsRest other).trans ?_
      rw [sessions, lookup_erase]
      by_cases inRest : other ∈ rest
      · rw [if_pos inRest, if_pos (mem_cons_of_mem _ inRest)]
      · rw [if_neg inRest]
        by_cases here : other = pane
        · rw [if_pos here, if_pos (by simp [here])]
        · rw [if_neg here, if_neg (by simp [here, inRest])]
    · refine (tabsRest tab).trans ?_
      rw [tabs, bind_assoc]
      rfl
    · refine activeRest.trans ?_
      rw [active]
      by_cases here : manager.activePaneId = some pane
      · rw [if_pos here, if_neg (by simp), if_pos ⟨pane, mem_cons_self, here⟩]
      · simp [here]

theorem purgePaneFromLayoutsLocked_of_keep
    (keeps : ∀ tab value, manager.tabLayouts.lookup tab = some value →
      purgeRevision pane value = .keep) :
    (manager.purgePaneFromLayoutsLocked pane false).1 = manager := by
  have revises : ∀ tab value, manager.tabLayouts.lookup tab = some value →
      purgeRevise pane false tab value = .keep := fun tab value found => by
    rw [purgeRevise, Bool.false_and, if_neg Bool.false_ne_true]
    exact keeps tab value found
  have written : written (purgeRevise pane false) manager.tabLayouts = [] := by
    refine eq_nil_iff_forall_not_mem.mpr fun pair mem => ?_
    obtain ⟨value, found, writes⟩ := mem_written.mp mem
    cases (revises _ value found).symm.trans writes
  have dropped : dropped (purgeRevise pane false) manager.tabLayouts = [] := by
    refine eq_nil_iff_forall_not_mem.mpr fun tab mem => ?_
    obtain ⟨value, found, drops⟩ := mem_dropped.mp mem
    cases (revises _ value found).symm.trans drops
  rw [purgePaneFromLayoutsLocked, written, dropped]
  rfl

/-- Rolling back leaves the order of the tabs alone where closing the panes keeps every tab. -/
theorem tabOrder_rollBack (nodup : spawned.Nodup)
    (live : ∀ pane ∈ spawned, (manager.sessions.lookup pane).isSome)
    (keeps : ∀ pane ∈ spawned, ∀ tab value, manager.tabLayouts.lookup tab = some value →
      purgeRevision pane value = .keep) :
    (rollBack manager spawned).tabOrder = manager.tabOrder := by
  induction spawned generalizing manager with
  | nil => rfl
  | cons pane rest ih =>
    obtain ⟨unspawned, distinctRest⟩ := nodup_cons.mp nodup
    have kept : ((withoutSession manager pane).purgePaneFromLayoutsLocked pane false).1 =
        withoutSession manager pane :=
      purgePaneFromLayoutsLocked_of_keep (keeps pane mem_cons_self)
    have closed := closeSession_of_present (live pane mem_cons_self)
    have same : (manager.closeSession pane none).1.tabLayouts = manager.tabLayouts ∧
        (manager.closeSession pane none).1.tabOrder = manager.tabOrder ∧
        (manager.closeSession pane none).1.sessions = manager.sessions.erase pane := by
      rw [closed, collectLayoutCloseLocked]
      dsimp only
      rw [kept]
      exact ⟨rfl, rfl, rfl⟩
    refine (@ih (manager.closeSession pane none).1 distinctRest
      (fun other mem => ?_) (fun other mem tab value found => ?_)).trans same.2.1
    · have ne : other ≠ pane := fun here => unspawned (here ▸ mem)
      rw [same.2.2, lookup_erase, if_neg ne]
      exact live other (mem_cons_of_mem _ mem)
    · rw [same.1] at found
      exact keeps other (mem_cons_of_mem _ mem) tab value found

/-- Rolling back restores the manager exactly when closing the panes is harmless. -/
theorem sameMembers_rollBack_iff (started : Started before after spawned) :
    SameMembers before (rollBack after spawned) ↔ Harmless before spawned := by
  obtain ⟨sessions, reservations, tabs, active⟩ := rollBack_spec started.distinct started.live
  rw [started.tabLayouts] at tabs
  rw [started.active] at active
  constructor
  · intro same pane mem
    constructor
    · intro isActive
      have cleared := active.symm.trans same.active
      rw [if_pos ⟨pane, mem, isActive⟩, isActive] at cleared
      cases cleared
    · intro tab layout found
      obtain ⟨value, held, atLayout⟩ := layoutOf_eq_some_iff.mp found
      have kept := (tabs tab).symm.trans (same.tabs tab)
      rw [held, bind_some, purges_eq_some_self_iff] at kept
      exact purgeRevision_eq_keep_iff.mp (kept pane mem) layout atLayout
  · intro harmless
    have keeps : ∀ pane ∈ spawned, ∀ tab value, before.tabLayouts.lookup tab = some value →
        purgeRevision pane value = .keep := by
      intro pane mem tab value held
      refine purgeRevision_eq_keep_iff.mpr fun layout atLayout => ?_
      exact (harmless pane mem).2 tab layout
        (layoutOf_eq_some_iff.mpr ⟨value, held, atLayout⟩)
    refine ⟨fun pane => ?_, reservations.trans started.reservations, fun tab => ?_, ?_, ?_⟩
    · rw [sessions]
      split
      next mem =>
        exact (isNone_iff_eq_none.mp (started.vacant pane mem).1).symm
      next unspawned =>
        exact started.others pane unspawned
    · rw [tabs]
      cases held : before.tabLayouts.lookup tab with
      | none => rfl
      | some value =>
        exact purges_eq_some_self_iff.mpr fun pane mem => keeps pane mem tab value held
    · refine (tabOrder_rollBack started.distinct started.live ?_).trans started.tabOrder
      rw [started.tabLayouts]
      exact keeps
    · rw [active, if_neg]
      rintro ⟨pane, mem, isActive⟩
      exact (harmless pane mem).1 isActive

/-! ### All or nothing -/

/-- The tab is stored with the layout, and every terminal leaf of it has a live session, under a
pane that was vacant. -/
structure Committed (before after : SessionManager) (tab : TabId) (layout : Json) : Prop where
  stored : after.layoutOf tab = some layout
  live : ∀ pane ∈ collectTerminalLeafPaneIds layout,
    before.Vacant pane ∧ (after.sessions.lookup pane).isSome

/-- A tab is committed, or there is an error and the manager is as it was. -/
def AllOrNothing {Error : Type} (before : SessionManager) (result : SessionManager × Option Error) :
    Prop :=
  match result.2 with
  | none => ∃ tab layout, Committed before result.1 tab layout
  | some _ => SameMembers before result.1

theorem committed_of_started (started : Started before after spawned) {tab : TabId} {layout : Json}
    (atLayout : value.get "layout" = some layout)
    (terminals : ∀ pane ∈ collectTerminalLeafPaneIds layout, pane ∈ spawned) :
    Committed before (after.insertTabLocked tab value) tab layout where
  stored := layoutOf_eq_some_iff.mpr
    ⟨value, by rw [insertTabLocked_lookup, if_pos rfl], atLayout⟩
  live := fun pane mem =>
    ⟨started.vacant pane (terminals pane mem), started.live pane (terminals pane mem)⟩

/-! ### The tabs of a snapshot -/

structure TabSnapshot where
  tabId : TabId
  paneId : PaneId
  layout : Json
  activePaneId : Option PaneId
  connectionId : Option String := none
  workspaceId : Option String := none
  customTitle : Option String := none
  broadcastMode : Option String := none

/-- The panes of the terminal leaves with the directories that the leaves name. -/
def collectTerminalLeavesWithCwd (node : Json) : List (PaneId × Option String) :=
  match node.getStr "type" with
  | some "leaf" =>
      if leafKind node = "terminal" then
        ((node.getStr "paneId").map fun pane => (pane, node.getStr "cwd")).toList
      else []
  | some "split" =>
      match _found : node.getArray "children" with
      | some children => children.attach.flatMap fun child => collectTerminalLeavesWithCwd child.1
      | none => []
  | _ => []
termination_by sizeOf node
decreasing_by exact Json.sizeOf_of_mem_getArray _found child.2

/-- Start a terminal of a snapshot. An empty directory is none. -/
def spawnPane (spawn : Spawn) : Spawn := fun pane cwd => spawn pane (cwd.filter (· ≠ ""))

def restoredValue (tab : TabSnapshot) : Json :=
  .obj [("layout", tab.layout), ("active_pane_id", tab.activePaneId.elim .null .str)]

/-- Restore a tab, answering the error when a terminal does not start. -/
def restoreSingleTab (spawn : Spawn) (manager : SessionManager) (tab : TabSnapshot) :
    SessionManager × Option String :=
  let leaves := collectTerminalLeavesWithCwd tab.layout
  if leaves.isEmpty then
    (manager.insertTabLocked tab.tabId (restoredValue tab), none)
  else
    match startAll (spawnPane spawn) manager [] leaves with
    | (manager, spawned, some (pane, error)) =>
        (rollBack manager spawned, some ("spawn " ++ pane ++ " failed: " ++ error))
    | (manager, _, none) => (manager.insertTabLocked tab.tabId (restoredValue tab), none)

theorem collectTerminalLeavesWithCwd_eq (node : Json) : collectTerminalLeavesWithCwd node =
      if node.getStr "type" = some "leaf" then
        if leafKind node = "terminal" then
          ((node.getStr "paneId").map fun pane => (pane, node.getStr "cwd")).toList
        else []
      else (children node).flatMap collectTerminalLeavesWithCwd := by
  rw [collectTerminalLeavesWithCwd]
  simp only [flatMap_subtype, List.unattach_attach]
  exact byType_eq node _ fun items => items.flatMap collectTerminalLeavesWithCwd

theorem map_fst_collectTerminalLeavesWithCwd (node : Json) :
    (collectTerminalLeavesWithCwd node).map Prod.fst = collectTerminalLeafPaneIds node := by
  induction node using induction_on_children with
  | step node below =>
    rw [collectTerminalLeavesWithCwd_eq, collectTerminalLeafPaneIds_eq]
    split
    · split
      · cases node.getStr "paneId" <;> rfl
      · rfl
    · rw [map_flatMap]
      exact flatMap_congr_children below

theorem restoreSingleTab_eq (spawn : Spawn) (manager : SessionManager) (tab : TabSnapshot) :
    restoreSingleTab spawn manager tab =
      match startAll (spawnPane spawn) manager [] (collectTerminalLeavesWithCwd tab.layout) with
      | (manager, spawned, some (pane, error)) =>
          (rollBack manager spawned, some ("spawn " ++ pane ++ " failed: " ++ error))
      | (manager, _, none) => (manager.insertTabLocked tab.tabId (restoredValue tab), none) := by
  unfold restoreSingleTab
  dsimp only
  split
  next empty =>
    rw [isEmpty_iff.mp empty]
    rfl
  · rfl

theorem restoreSingleTab_of_allStart {tab : TabSnapshot}
    (all : AllStart manager (spawnPane spawn) [] (collectTerminalLeavesWithCwd tab.layout)) :
    ∃ started, Started manager started (collectTerminalLeafPaneIds tab.layout) ∧
      restoreSingleTab spawn manager tab =
        (started.insertTabLocked tab.tabId (restoredValue tab), none) := by
  obtain ⟨-, started, ends⟩ := startAll_spec (.refl manager) (spawnPane spawn)
    (collectTerminalLeavesWithCwd tab.layout)
  rw [startedPanes_of_allStart all, nil_append, map_fst_collectTerminalLeavesWithCwd]
    at started
  refine ⟨_, started, ?_⟩
  rw [restoreSingleTab_eq]
  have done := ends.mpr all
  generalize startAll _ _ _ _ = res at done
  obtain ⟨after, spawned, failure⟩ := res
  obtain rfl : failure = none := done
  rfl

theorem restoreSingleTab_of_not_allStart {tab : TabSnapshot}
    (fails : ¬AllStart manager (spawnPane spawn) [] (collectTerminalLeavesWithCwd tab.layout)) :
    ∃ started error, Started manager started (startedPanes manager (spawnPane spawn) []
        (collectTerminalLeavesWithCwd tab.layout)) ∧
      restoreSingleTab spawn manager tab =
        (rollBack started (startedPanes manager (spawnPane spawn) []
          (collectTerminalLeavesWithCwd tab.layout)), some error) := by
  obtain ⟨spawnedPanes, started, ends⟩ := startAll_spec (.refl manager) (spawnPane spawn)
    (collectTerminalLeavesWithCwd tab.layout)
  rw [restoreSingleTab_eq]
  have failed := mt ends.mp fails
  generalize startAll _ _ _ _ = res at spawnedPanes started failed
  obtain ⟨after, spawned, failure⟩ := res
  cases failure with
  | none => exact absurd rfl failed
  | some failure =>
    obtain rfl : spawned = _ := spawnedPanes
    exact ⟨after, _, started, rfl⟩

theorem restoreSingleTab_allOrNothing_iff (spawn : Spawn) (manager : SessionManager)
    (tab : TabSnapshot) :
    AllOrNothing manager (restoreSingleTab spawn manager tab) ↔
      AllStart manager (spawnPane spawn) [] (collectTerminalLeavesWithCwd tab.layout) ∨
      Harmless manager (startedPanes manager (spawnPane spawn) []
        (collectTerminalLeavesWithCwd tab.layout)) := by
  by_cases all : AllStart manager (spawnPane spawn) [] (collectTerminalLeavesWithCwd tab.layout)
  · obtain ⟨after, started, same⟩ := restoreSingleTab_of_allStart all
    refine iff_of_true ?_ (.inl all)
    rw [same]
    exact ⟨tab.tabId, tab.layout, committed_of_started started rfl fun pane mem => mem⟩
  · obtain ⟨after, error, started, same⟩ := restoreSingleTab_of_not_allStart all
    rw [same, or_iff_right all]
    exact sameMembers_rollBack_iff started

end Dinotty.Session.Stored
