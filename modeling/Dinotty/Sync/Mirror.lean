/-
This file is one tab of the server and its clients, as a cell with mirrors. Events are careful if
the changes of one tab do not overlap, nobody edits a tab while something about it is on its way,
and each message does at the client what it tells.
-/

import Dinotty.Sync.Server

namespace Dinotty.Sync

open Session Mirrors List Option SessionManager

/-! ### One tab -/

/-- What the server has of a tab, with the layout in the form in which a client keeps it. -/
def sourceOf (manager : SessionManager) (tab : TabId) : Option (Option Layout) :=
  (manager.tabLayouts.lookup tab).map fun value => value.layout.map rooted

/-- The layout that a message wants a tab to have. -/
def editOf (tab : TabId) : SyncClientMsg → Option (Option Layout)
  | .updateLayout paneId layout _ => if paneId = tab then some (some (rooted layout)) else none
  | .createTab .. | .closeTab _ | .closePane _ => none

def toldOf (tab : TabId) (told : Audience × SyncMsg) : Option (Audience × Note (Option Layout)) :=
  (noteOf tab told.2).map fun note => (told.1, note)

def siteOf (tab : TabId) (connection : Connection) : Site (Option Layout) where
  phase := connection.phase
  shown := connection.client.view tab
  out := connection.out.filterMap (noteOf tab)
  rx := connection.rx.filterMap (noteOf tab)
  edits := connection.inbox.filterMap (editOf tab)
  telling := connection.telling.filterMap (toldOf tab)

variable (server : Server)

def Server.cellOf (tab : TabId) : Cell (Option Layout) where
  source := sourceOf server.manager tab
  sites := fun id => ((server.connections.lookup id).map (siteOf tab)).getD {}

/-- Nobody has anything to tell about a tab. -/
def Silent (tab : TabId) : Prop :=
  ∀ entry ∈ server.connections.entries, ∀ told ∈ entry.2.telling, (noteOf tab told.2).isNone = true

/-- No layout of a tab is on its way to the server. -/
def Unedited (tab : TabId) : Prop :=
  ∀ entry ∈ server.connections.entries, ∀ message ∈ entry.2.inbox, editOf tab message = none

/-- Nothing about a tab is on its way to a client, and no layout of it from another one. -/
def Editable (id : Nat) (tab : TabId) : Prop :=
  ∀ entry ∈ server.connections.entries,
    (∀ told ∈ entry.2.telling, told.1.reaches entry.1 id = true →
      (noteOf tab told.2).isNone = true) ∧
    (entry.1 = id → entry.2.phase = .ready ∧
      ∀ message ∈ entry.2.out ++ entry.2.rx, (noteOf tab message).isNone = true) ∧
    (entry.1 ≠ id → ∀ message ∈ entry.2.inbox, editOf tab message = none)

instance (server : Server) (tab : TabId) : Decidable (Silent server tab) :=
  inferInstanceAs (Decidable (∀ entry ∈ _, _))

instance (server : Server) (tab : TabId) : Decidable (Unedited server tab) :=
  inferInstanceAs (Decidable (∀ entry ∈ _, _))

instance (server : Server) (id : Nat) (tab : TabId) : Decidable (Editable server id tab) :=
  inferInstanceAs (Decidable (∀ entry ∈ _, _))

/-! ### Careful events -/

/-- The tab whose layout a message changes. -/
def editedTab : SyncClientMsg → Option TabId
  | .updateLayout paneId _ _ => some paneId
  | .createTab .. | .closeTab _ | .closePane _ => none

/-- A section changes a tab only while nobody has anything to tell about it and no layout of it is
on its way; it says of no tab that is there that it is closed; and no tab is left when one is to be
removed without a pane to close. -/
def PerformsCarefully (server : Server) : Task → Prop
  | .closePane pane =>
      let claimed := server.manager.claimPaneClose pane
      let changes := changesOf claimed.2
      (∀ tab ∈ changes.closedTabs, Silent server tab ∧ Unedited server tab ∧
        (claimed.1.tabLayouts.lookup tab).isNone = true) ∧
      ∀ update ∈ changes.updates, Silent server update.tabId ∧ Unedited server update.tabId
  | .removeTab tab => (server.manager.tabLayouts.lookup tab).isNone = true

/-- A tab is made under a new identifier, and a layout is stored while nobody has anything to tell
about its tab. -/
def HandlesCarefully (server : Server) (connection : Connection) (uuid : TabId) :
    SyncClientMsg → Prop
  | .createTab _ tabId _ =>
      (server.manager.tabLayouts.lookup (tabId.getD uuid)).isNone = true ∧
        Silent server (tabId.getD uuid) ∧
        ∀ message ∈ connection.rx, (noteOf (tabId.getD uuid) message).isNone = true
  | .updateLayout paneId _ _ => Silent server paneId
  | .closeTab _ | .closePane _ => True

/-- What a handler does next, of what it has to tell, to do and to take, is done carefully. -/
def GoesOnCarefully (server : Server) (connection : Connection) (uuid : TabId) :
    List (Audience × SyncMsg) → List Task → List SyncClientMsg → Prop
  | _ :: _, _, _ => True
  | [], task :: _, _ => PerformsCarefully server task
  | [], [], message :: _ => HandlesCarefully server connection uuid message
  | [], [], [] => True

def WorksCarefully (uuid : TabId) (connection : Connection) : Prop :=
  connection.phase = .registered ∨
    GoesOnCarefully server connection uuid connection.telling connection.todo connection.inbox

/-- A client hears a message that does what it tells, and answers it only when it may then edit
the tab. -/
def HearsCarefully (id : Nat) (splitId : TabId → String) (connection : Connection) : Prop :=
  ∀ message ∈ connection.out.head?, connection.client.HearsPlainly splitId message ∧
      let (client, answer) := connection.client.receive splitId message
      let heard := { connection with client, out := connection.out.tail }
      ∀ tab ∈ answer.bind editedTab,
        Editable { server with connections := server.connections.insert id heard } id tab

/-- The tabs that are pruned for a client are known to no other one, and nothing about them is on
its way. -/
def ListsCarefully (id : Nat) (connection : Connection) : Prop :=
  ∀ tab ∈ server.manager.staleTabs, Silent server tab ∧ Unedited server tab ∧
    (∀ message ∈ connection.rx, (noteOf tab message).isNone = true) ∧
    ∀ entry ∈ server.connections.entries, entry.1 ≠ id → entry.2.phase = .gone

/-- An event that does not lead the clients astray. -/
def Careful (server : Server) : Event → Prop
  | .connect _ client => client.Distinct
  | .list id => ∀ connection ∈ server.connections.lookup id, ListsCarefully server id connection
  | .hear id splitId =>
      ∀ connection ∈ server.connections.lookup id, HearsCarefully server id splitId connection
  | .edit id tab .. => Editable server id tab
  | .work id uuid =>
      ∀ connection ∈ server.connections.lookup id, WorksCarefully server uuid connection
  | .leave _ | .discard _ | .forward _ | .turn .. | .expire .. | .createTab .. | .closeTab ..
  | .closePane .. | .spawn .. => True

instance (server : Server) : ∀ task, Decidable (PerformsCarefully server task)
  | .closePane _ => inferInstanceAs (Decidable (_ ∧ _))
  | .removeTab _ => inferInstanceAs (Decidable (_ = _))

instance (server : Server) (connection : Connection) (uuid : TabId) :
    ∀ message, Decidable (HandlesCarefully server connection uuid message)
  | .createTab .. => inferInstanceAs (Decidable (_ ∧ _ ∧ _))
  | .updateLayout paneId _ _ => inferInstanceAs (Decidable (Silent server paneId))
  | .closeTab _ | .closePane _ => isTrue trivial

instance (server : Server) (connection : Connection) (uuid : TabId) :
    ∀ telling todo inbox, Decidable (GoesOnCarefully server connection uuid telling todo inbox)
  | _ :: _, _, _ => isTrue trivial
  | [], task :: _, _ => inferInstanceAs (Decidable (PerformsCarefully server task))
  | [], [], message :: _ =>
      inferInstanceAs (Decidable (HandlesCarefully server connection uuid message))
  | [], [], [] => isTrue trivial

instance (server : Server) (uuid : TabId) (connection : Connection) :
    Decidable (WorksCarefully server uuid connection) :=
  inferInstanceAs (Decidable (_ ∨ _))

instance (server : Server) (id : Nat) (splitId : TabId → String) (connection : Connection) :
    Decidable (HearsCarefully server id splitId connection) :=
  inferInstanceAs (Decidable (∀ message ∈ _, _))

instance (server : Server) (id : Nat) (connection : Connection) :
    Decidable (ListsCarefully server id connection) :=
  inferInstanceAs (Decidable (∀ tab ∈ _, _))

instance (server : Server) : ∀ event, Decidable (Careful server event)
  | .connect _ _ => inferInstanceAs (Decidable (List.Nodup _))
  | .list _ => inferInstanceAs (Decidable (∀ connection ∈ _, _))
  | .hear _ _ => inferInstanceAs (Decidable (∀ connection ∈ _, _))
  | .edit id tab .. => inferInstanceAs (Decidable (Editable server id tab))
  | .work _ _ => inferInstanceAs (Decidable (∀ connection ∈ _, _))
  | .leave _ | .discard _ | .forward _ | .turn .. | .expire .. | .createTab .. | .closeTab ..
  | .closePane .. | .spawn .. => isTrue trivial

/-! ### The cell of a tab -/

section Cell

variable {server : Server} {id : Nat} {connection : Connection} {tab : TabId}

theorem sites_of_lookup (held : server.connections.lookup id = some connection) (tab : TabId) :
    (server.cellOf tab).sites id = siteOf tab connection := by
  rw [Server.cellOf]
  simp [held]

theorem sites_of_unused (unused : server.connections.lookup id = none) (tab : TabId) :
    (server.cellOf tab).sites id = {} := by
  rw [Server.cellOf]
  simp [unused]

theorem cellOf_insert (server : Server) (mgr : SessionManager) (id : Nat)
    (connection : Connection) (tab : TabId) :
    Server.cellOf ⟨mgr, server.connections.insert id connection⟩ tab =
      Cell.set { server.cellOf tab with source := sourceOf mgr tab } id
        (siteOf tab connection) := by
  refine Cell.ext rfl fun other => ?_
  by_cases here : other = id
  · rw [here, Cell.set_self, sites_of_lookup (AList.lookup_insert _)]
  · rw [Cell.set_of_ne _ _ here]
    unfold Server.cellOf
    simp only [KeyMap.lookup_insert, if_neg here]

theorem entry_of_lookup (held : server.connections.lookup id = some connection) :
    (⟨id, connection⟩ : Sigma fun _ : Nat => Connection) ∈ server.connections.entries :=
  KeyMap.lookup_eq_some_iff.mp held

theorem site_cases (property : Nat → Site (Option Layout) → Prop) (tab : TabId)
    (unused : ∀ id, property id {})
    (used : ∀ entry ∈ server.connections.entries, property entry.1 (siteOf tab entry.2))
    (id : Nat) : property id ((server.cellOf tab).sites id) := by
  cases held : server.connections.lookup id with
  | none =>
    rw [sites_of_unused held]
    exact unused id
  | some connection =>
    rw [sites_of_lookup held]
    exact used ⟨id, connection⟩ (entry_of_lookup held)

theorem toldOf_eq_none {told : Audience × SyncMsg} (silent : (noteOf tab told.2).isNone = true) :
    toldOf tab told = none := by
  rw [toldOf, isNone_iff_eq_none.mp silent]
  rfl

theorem calm_of_silent (silent : Silent server tab) : (server.cellOf tab).Calm :=
  site_cases (fun _ site => site.telling = []) tab (fun _ => rfl)
    fun entry mem => filterMap_eq_nil_iff.mpr fun told inTelling =>
      toldOf_eq_none (silent entry mem told inTelling)

theorem unedited_cellOf (unedited : Unedited server tab) : (server.cellOf tab).Unedited :=
  site_cases (fun _ site => site.edits = []) tab (fun _ => rfl)
    fun entry mem => filterMap_eq_nil_iff.mpr (unedited entry mem)

theorem notes_eq_nil {messages : List SyncMsg}
    (silent : ∀ message ∈ messages, (noteOf tab message).isNone = true) :
    messages.filterMap (noteOf tab) = [] :=
  filterMap_eq_nil_iff.mpr fun message mem =>
    isNone_iff_eq_none.mp (silent message mem)

end Cell

/-! ### The invariant -/

/-- For each tab the server with its clients is a good cell, and the tabs of each client are
distinct. -/
structure Sound (server : Server) : Prop where
  good : ∀ tab, (server.cellOf tab).Good
  distinct : ∀ id connection, server.connections.lookup id = some connection →
    connection.client.Distinct

section Single

variable {server : Server} {id : Nat}

variable {connection : Connection}

section

variable (sound : Sound server)
include sound

theorem Sound.insert {mgr : SessionManager} (distinct : connection.client.Distinct)
    (good : ∀ tab, (Cell.set { server.cellOf tab with source := sourceOf mgr tab } id
      (siteOf tab connection)).Good) :
    Sound ⟨mgr, server.connections.insert id connection⟩ := by
  refine ⟨fun tab => ?_, fun other found held => ?_⟩
  · rw [cellOf_insert]
    exact good tab
  · simp only [KeyMap.lookup_insert] at held
    split at held
    · exact some.inj held ▸ distinct
    · exact sound.distinct other found held

theorem Sound.change {change : Connection → Connection}
    (distinct : ∀ connection, server.connections.lookup id = some connection →
      (change connection).client.Distinct)
    (good : ∀ connection, server.connections.lookup id = some connection →
      ∀ tab, ((server.cellOf tab).set id (siteOf tab (change connection))).Good) :
    Sound (server.change id change) := by
  unfold Server.change
  cases held : server.connections.lookup id with
  | none => exact sound
  | some connection => exact sound.insert (distinct connection held) (good connection held)

theorem Sound.unnoticed {change : Connection → Connection}
    (distinct : ∀ connection, connection.client.Distinct → (change connection).client.Distinct)
    (same : ∀ tab connection, siteOf tab (change connection) = siteOf tab connection) :
    Sound (server.change id change) := by
  refine sound.change (fun connection held => distinct connection
    (sound.distinct id connection held)) fun connection held tab => ?_
  rw [same, Cell.set_eq_self (sites_of_lookup held tab)]
  exact sound.good tab

theorem Sound.send {message : SyncClientMsg} (noEdit : ∀ tab, editOf tab message = none) :
    Sound (server.change id (.send message)) := by
  refine sound.unnoticed (fun connection distinct => ?_) fun tab connection => ?_
  · unfold Connection.send
    split <;> exact distinct
  · unfold Connection.send
    split
    · rfl
    · simp [siteOf, noEdit]

theorem Sound.connect (unused : server.connections.lookup id = none) {client : Client}
    (distinct : client.Distinct) :
    Sound { server with
      connections := server.connections.insert id { phase := .registered, client } } := by
  refine sound.insert distinct fun tab => ?_
  obtain ⟨teller, good⟩ := sound.good tab
  exact ⟨teller, good.join (sites_of_unused unused tab) (client.view tab)⟩

theorem Sound.leave : Sound (server.change id .leave) := by
  refine sound.change (fun connection held => sound.distinct id connection held)
    fun connection held tab => ?_
  obtain ⟨teller, good⟩ := sound.good tab
  have left := good.leave id
  rw [sites_of_lookup held] at left
  exact ⟨teller, left⟩

theorem Sound.discard : Sound (server.change id .discard) := by
  refine sound.change (fun connection held => ?_) fun connection held tab => ?_
  · unfold Connection.discard
    split
    · exact sound.distinct id connection held
    · exact sound.distinct id connection held
  · obtain ⟨teller, good⟩ := sound.good tab
    unfold Connection.discard
    split
    next gone =>
      have site := sites_of_lookup held tab
      have atSite : ((server.cellOf tab).sites id).phase = .gone := by
        rw [site]
        exact gone
      have dropped := good.drop atSite
      rw [site] at dropped
      exact ⟨teller, dropped⟩
    · rw [Cell.set_eq_self (sites_of_lookup held tab)]
      exact ⟨teller, good⟩

theorem Sound.forward : Sound (server.change id .forward) := by
  refine sound.change (fun connection held => ?_) fun connection held tab => ?_
  · have distinct := sound.distinct id connection held
    unfold Connection.forward
    split
    · exact distinct
    · split <;> exact distinct
  · obtain ⟨teller, good⟩ := sound.good tab
    have site := sites_of_lookup held tab
    have unchanged : ((server.cellOf tab).set id (siteOf tab connection)).Good := by
      rw [Cell.set_eq_self site]
      exact ⟨teller, good⟩
    unfold Connection.forward
    split
    · exact unchanged
    next message rest queued =>
      split
      next ready =>
        cases note : noteOf tab message with
        | none =>
          have same : siteOf tab { connection with
              out := connection.out ++ [message], rx := rest } = siteOf tab connection := by
            simp [siteOf, queued, note]
          rw [same]
          exact unchanged
        | some told =>
          have rx : ((server.cellOf tab).sites id).rx = told :: rest.filterMap (noteOf tab) := by
            rw [site]
            simp [siteOf, queued, note]
          have atSite : ((server.cellOf tab).sites id).phase = .ready := by
            rw [site]
            exact ready
          have forwarded := good.forward rx atSite
          have same : siteOf tab { connection with
              out := connection.out ++ [message], rx := rest } =
              { siteOf tab connection with
                out := (siteOf tab connection).out ++ [told]
                rx := rest.filterMap (noteOf tab) } := by
            simp [siteOf, note]
          rw [same, ← site]
          exact ⟨teller, forwarded⟩
      · exact unchanged

end

/-! ### Editing and hearing -/

variable {tab : TabId}

theorem coming_of_editable (editable : Editable server id tab)
    (held : server.connections.lookup id = some connection) (teller : Nat) :
    (server.cellOf tab).coming teller id = [] := by
  obtain ⟨-, own, -⟩ := editable _ (entry_of_lookup held)
  have queued := (own rfl).2
  have pending : heardBy teller id ((server.cellOf tab).sites teller).telling = [] := by
    refine site_cases (fun teller site => heardBy teller id site.telling = []) tab
      (fun _ => rfl) (fun entry mem => ?_) teller
    rw [heardBy, map_eq_nil_iff, filter_eq_nil_iff]
    intro pair inTelling
    obtain ⟨told, announced, noted⟩ := mem_filterMap.mp inTelling
    obtain ⟨note, found, rfl⟩ := map_eq_some_iff.mp noted
    intro reached
    have silent := (editable entry mem).1 told announced reached
    rw [found] at silent
    cases silent
  rw [Cell.coming, Cell.pending, pending, sites_of_lookup held, append_nil]
  exact append_eq_nil_iff.mpr
    ⟨notes_eq_nil fun message mem => queued message (mem_append_left _ mem),
      notes_eq_nil fun message mem => queued message (mem_append_right _ mem)⟩

theorem others_of_editable (editable : Editable server id tab) :
    ∀ other, other ≠ id → ((server.cellOf tab).sites other).edits = [] :=
  site_cases (fun other site => other ≠ id → site.edits = []) tab
    (fun _ _ => rfl) fun entry mem ne =>
      filterMap_eq_nil_iff.mpr ((editable entry mem).2.2 ne)

theorem editSite_good (good : (server.cellOf tab).Good) (editable : Editable server id tab)
    (held : server.connections.lookup id = some connection)
    (shown : (connection.client.view tab).isSome = true) (value : Option Layout) :
    ((server.cellOf tab).set id { siteOf tab connection with
      shown := some value, edits := (siteOf tab connection).edits ++ [value] }).Good := by
  obtain ⟨teller, goodAt⟩ := good
  have site := sites_of_lookup held tab
  have ready : ((server.cellOf tab).sites id).phase = .ready := by
    rw [site]
    exact ((editable _ (entry_of_lookup held)).2.1 rfl).1
  have atSite : ((server.cellOf tab).sites id).shown.isSome = true := by
    rw [site]
    exact shown
  have edited := goodAt.edit ready atSite (coming_of_editable editable held teller)
    (others_of_editable editable) value
  rw [site] at edited
  exact ⟨teller, edited⟩

theorem Sound.edit (sound : Sound server) (editable : Editable server id tab) (layout : Layout)
    (activePaneId : PaneId) (paneMru : List PaneId) :
    Sound (server.change id (.edit tab layout activePaneId paneMru)) := by
  have keeps : ∀ shown : TerminalTab,
      ({ shown with layout, activePaneId, paneMru } : TerminalTab).paneId = shown.paneId :=
    fun _ => rfl
  refine sound.change (fun connection held => ?_) fun connection held other => ?_
  · have distinct := sound.distinct id connection held
    unfold Connection.edit
    split
    · exact distinct.editTab keeps tab
    · exact distinct
  · have site := sites_of_lookup held other
    unfold Connection.edit
    split
    next possible =>
      by_cases here : tab = other
      · subst here
        have same : siteOf tab { connection with
            client := connection.client.editTab tab fun shown =>
              { shown with layout, activePaneId, paneMru }
            inbox := connection.inbox ++ [.updateLayout tab layout activePaneId] } =
            { siteOf tab connection with
              shown := some (some (rooted layout))
              edits := (siteOf tab connection).edits ++ [some (rooted layout)] } := by
          obtain ⟨value, shown⟩ := isSome_iff_exists.mp possible.1
          obtain ⟨old, found, -⟩ := map_eq_some_iff.mp shown
          simp [siteOf, Client.view_editTab keeps, found, editOf]
        rw [same]
        exact editSite_good (sound.good tab) editable held possible.1 _
      · have same : siteOf other { connection with
            client := connection.client.editTab tab fun shown =>
              { shown with layout, activePaneId, paneMru }
            inbox := connection.inbox ++ [.updateLayout tab layout activePaneId] } =
            siteOf other connection := by
          have view : (connection.client.editTab tab fun shown =>
              { shown with layout, activePaneId, paneMru }).view other =
              connection.client.view other := by
            rw [Client.view_editTab keeps]
            simp only [if_neg here]
            rfl
          simp [siteOf, view, here, editOf]
        rw [same, Cell.set_eq_self site]
        exact sound.good other
    · rw [Cell.set_eq_self site]
      exact sound.good other

theorem Sound.heardSite (sound : Sound server)
    (held : server.connections.lookup id = some connection) {splitId : TabId → String}
    {message : SyncMsg} {rest : List SyncMsg} (queued : connection.out = message :: rest)
    (plain : connection.client.HearsPlainly splitId message) (tab : TabId) :
    ((server.cellOf tab).set id (siteOf tab { connection with
      client := (connection.client.receive splitId message).1, out := rest })).Good := by
  have distinct := sound.distinct id connection held
  obtain ⟨teller, good⟩ := sound.good tab
  have site := sites_of_lookup held tab
  have view := Client.view_receive distinct plain tab
  cases note : noteOf tab message with
  | none =>
    have same : siteOf tab { connection with
        client := (connection.client.receive splitId message).1, out := rest } =
        siteOf tab connection := by
      rw [note] at view
      simpa [siteOf, queued, note] using view
    rw [same, Cell.set_eq_self site]
    exact ⟨teller, good⟩
  | some told =>
    have out : ((server.cellOf tab).sites id).out = told :: rest.filterMap (noteOf tab) := by
      rw [site]
      simp [siteOf, queued, note]
    have same : siteOf tab { connection with
        client := (connection.client.receive splitId message).1, out := rest } =
        { siteOf tab connection with
          shown := told.hear (siteOf tab connection).shown
          out := rest.filterMap (noteOf tab) } := by
      rw [note] at view
      simpa [siteOf] using view
    rw [same, ← site]
    exact ⟨teller, good.hear out⟩

theorem Sound.hear (sound : Sound server) {splitId : TabId → String}
    (careful : ∀ connection ∈ server.connections.lookup id,
      HearsCarefully server id splitId connection) :
    Sound (server.change id (.hear splitId)) := by
  refine sound.change (fun connection held => ?_) fun connection held tab => ?_
  · have distinct := sound.distinct id connection held
    unfold Connection.hear
    split
    · exact distinct
    · exact distinct.receive _
  · have hearing := careful connection held
    unfold Connection.hear
    unfold HearsCarefully at hearing
    cases queued : connection.out with
    | nil =>
      rw [Cell.set_eq_self (sites_of_lookup held tab)]
      exact sound.good tab
    | cons message rest =>
      rw [queued] at hearing
      obtain ⟨plain, editable⟩ := hearing message rfl
      have heard := sound.heardSite held queued plain
      simp only [tail_cons] at editable ⊢
      cases answered : (connection.client.receive splitId message).2 with
      | none =>
        rw [toList_none, append_nil]
        exact heard tab
      | some answer =>
        obtain ⟨paneId, layout, activePaneId, rfl, shown⟩ := Client.answer_receive plain answered
        have allowed := editable paneId (by rw [answered]; rfl)
        rw [toList_some]
        by_cases here : paneId = tab
        · subst here
          have cell := cellOf_insert server server.manager id { connection with
            client := (connection.client.receive splitId message).1, out := rest } paneId
          have edited := editSite_good (cell ▸ heard paneId) allowed (AList.lookup_insert _)
            (by rw [shown]; rfl) (some (rooted layout))
          rw [cell, Cell.set_set] at edited
          have same : siteOf paneId { connection with
              client := (connection.client.receive splitId message).1
              out := rest
              inbox := connection.inbox ++ [.updateLayout paneId layout activePaneId] } =
              { siteOf paneId { connection with
                  client := (connection.client.receive splitId message).1, out := rest } with
                shown := some (some (rooted layout))
                edits := (siteOf paneId connection).edits ++ [some (rooted layout)] } := by
            simp [siteOf, shown, editOf]
          rw [same]
          exact edited
        · have same : siteOf tab { connection with
              client := (connection.client.receive splitId message).1
              out := rest
              inbox := connection.inbox ++ [.updateLayout paneId layout activePaneId] } =
              siteOf tab { connection with
                client := (connection.client.receive splitId message).1, out := rest } := by
            simp [siteOf, here, editOf]
          rw [same]
          exact heard tab

/-! ### Listing -/

theorem skeleton_ensureLeafKind (layout : Layout) :
    skeleton layout.ensureLeafKind = skeleton layout := by
  induction layout using Layout.induction with
  | leaf fields => rfl
  | split splitId side ratio children ratios ih =>
    have all : skeletonOfAll (Layout.ensureLeafKindOfAll children) = skeletonOfAll children := by
      clear splitId side ratio ratios
      induction children with
      | nil => rfl
      | cons child rest later =>
        rw [Layout.ensureLeafKindOfAll, skeletonOfAll, skeletonOfAll, ih child mem_cons_self,
          later fun other mem => ih other (mem_cons_of_mem _ mem)]
    rw [Layout.ensureLeafKind, skeleton, skeleton, all]
  | other type => rfl

theorem rooted_ensureLeafKind (layout : Layout) : rooted layout.ensureLeafKind = rooted layout := by
  have same := skeleton_ensureLeafKind layout
  cases layout with
  | leaf fields => rfl
  | split splitId side ratio children ratios =>
    rw [Layout.ensureLeafKind] at same ⊢
    rw [rooted_split, rooted_split, same]
  | other type => rfl

theorem noteOf_tabList (mgr : SessionManager) (tab : TabId) :
    noteOf tab (tabList mgr) = some (.listed (sourceOf mgr tab)) := by
  have entries : ∀ entry, entry ∈ mgr.orderedEntries ↔
      mgr.tabLayouts.lookup entry.1 = some entry.2 := by
    intro entry
    rw [KeyMap.lookup_eq_some_iff, orderedEntries, mem_insertionSort]
  rw [tabList, noteOf, sourceOf, find?_map, Option.map_map]
  refine congrArg (some ∘ Note.listed) ?_
  cases found : mgr.orderedEntries.find?
      ((fun info : TabInfo => decide (info.tabId = tab)) ∘
        fun entry => tabInfo entry.1 entry.2) with
  | none =>
    cases held : mgr.tabLayouts.lookup tab with
    | none => rfl
    | some value =>
      have unlisted := find?_eq_none.mp found ⟨tab, value⟩ ((entries _).mpr held)
      simp [tabInfo] at unlisted
  | some entry =>
    have listed := (entries entry).mp (mem_of_find?_eq_some found)
    have named : entry.1 = tab := by
      have matching := find?_some found
      simpa [tabInfo] using matching
    rw [← named, listed, map_some, map_some, Function.comp_apply, tabInfo, Option.map_map]
    exact congrArg some (Option.map_congr fun layout _ => rooted_ensureLeafKind layout)

theorem Sound.list (sound : Sound server) (careful : ∀ connection ∈ server.connections.lookup id,
      ListsCarefully server id connection) : Sound (server.list id) := by
  unfold Server.list
  cases held : server.connections.lookup id with
  | none => exact sound
  | some connection =>
    simp only
    split
    next registered =>
      refine sound.insert (sound.distinct id connection held) fun tab => ?_
      have site := sites_of_lookup held tab
      have atSite : ((server.cellOf tab).sites id).phase = .registered := by
        rw [site]
        exact registered
      -- A tab that is pruned is gone before the tabs are listed.
      have pruned : Cell.Good
          { server.cellOf tab with source := sourceOf server.manager.pruneTabs tab } := by
        rw [sourceOf, pruneTabs, lookup_foldl_removeTabLocked]
        split
        next stale =>
          obtain ⟨silent, unedited, empty, only⟩ := careful connection held tab stale
          refine (sound.good tab).purge (calm_of_silent silent) (unedited_cellOf unedited)
            (site_cases (fun other site => other ≠ id → site.phase = .gone) tab
              (fun _ _ => rfl) fun entry mem ne => only entry mem ne)
            atSite ?_
          rw [site]
          exact notes_eq_nil empty
        · exact sound.good tab
      obtain ⟨teller, good⟩ := pruned
      have listed := good.list atSite
      have same : siteOf tab { connection with
          phase := .ready, out := connection.out ++ [tabList server.manager.pruneTabs] } =
          { siteOf tab connection with
            phase := .ready
            out := (siteOf tab connection).out ++
              [.listed (sourceOf server.manager.pruneTabs tab)] } := by
        simp [siteOf, noteOf_tabList]
      rw [same, ← site]
      exact ⟨teller, listed⟩
    · exact sound

end Single

end Dinotty.Sync
