/-
This file is the server of the sync socket with its clients. A handler changes the tabs first and
enqueues what it has to tell afterwards, one message at a time, and every other handler may go on in
between. A client is registered before the tabs are listed for it, and what is told meanwhile is
forwarded behind the list.
-/

import Dinotty.Session.Manager
import Dinotty.Sync.Client

namespace Dinotty.Session

namespace Layout

mutual

/-- Tag every leaf without a kind as a terminal. -/
def ensureLeafKind : Layout → Layout
  | .leaf fields => .leaf { fields with kind := some (fields.kind.getD "terminal") }
  | .split id direction ratio children ratios =>
      .split id direction ratio (ensureLeafKindOfAll children) ratios
  | .other type => .other type

def ensureLeafKindOfAll : List Layout → List Layout
  | [] => []
  | child :: rest => ensureLeafKind child :: ensureLeafKindOfAll rest

end

end Layout

namespace SessionManager

def stale (manager : SessionManager) (value : TabValue) : Bool :=
  match value.layout with
  | none => false
  | some layout =>
      layout.collectLeafPaneIds.isEmpty ||
        layout.collectTerminalLeafPaneIds.any fun pane => (manager.sessions.lookup pane).isNone

def staleTabs (manager : SessionManager) : List TabId :=
  KeyMap.keysWhere (fun _ value => manager.stale value) manager.tabLayouts

def pruneTabs (manager : SessionManager) : SessionManager :=
  manager.staleTabs.foldl (fun manager tab => (manager.removeTabLocked tab).1) manager

def orderedEntries (manager : SessionManager) : List (Sigma fun _ : TabId => TabValue) :=
  manager.tabLayouts.entries.insertionSort fun first second =>
    manager.tabOrder.idxOf first.1 ≤ manager.tabOrder.idxOf second.1

end SessionManager

end Dinotty.Session

namespace Dinotty.Sync

open Session Mirrors

/-- What is told about a tab in a list. -/
def tabInfo (tab : TabId) (value : TabValue) : TabInfo :=
  let layout := value.layout.map Layout.ensureLeafKind
  { tabId := tab
    paneId := (layout.bind Layout.firstLeafId).getD tab
    layout
    activePaneId := value.activePaneId }

theorem distinct_orderedEntries (mgr : SessionManager) :
    ((mgr.orderedEntries.map fun entry => tabInfo entry.1 entry.2).map (·.tabId)).Nodup := by
  rw [List.map_map]
  have perm := (List.perm_insertionSort (fun first second : Sigma fun _ : TabId => TabValue =>
    mgr.tabOrder.idxOf first.1 ≤ mgr.tabOrder.idxOf second.1)
    mgr.tabLayouts.entries).map Sigma.fst
  exact perm.nodup_iff.mpr mgr.tabLayouts.nodupKeys

/-- The list of the tabs that is sent to a client. -/
def tabList (manager : SessionManager) : SyncMsg :=
  .tabList (manager.orderedEntries.map fun entry => tabInfo entry.1 entry.2) manager.activePaneId
    (distinct_orderedEntries manager)

/-! ### Handlers -/

/-- What a handler does later for a message that it has taken. -/
inductive Task where
  | closePane (pane : PaneId)
  | removeTab (tab : TabId)

def changesOf : Option SessionManager.PaneClosePlan → LayoutChanges
  | some (.session plan) => { closedTabs := plan.closedTabs, updates := plan.layoutUpdates }
  | some (.layout changes) => changes
  | none => {}

/-- Everyone is told of the closed tabs first. -/
def broadcastLayoutChanges (changes : LayoutChanges) : List (Audience × SyncMsg) :=
  changes.closedTabs.map (fun tab => (.everyone, .tabClosed tab)) ++
    changes.updates.map fun update =>
      (.everyone, .layoutUpdated update.tabId update.layout update.activePaneId)

/-- A section of a handler, with what is to be told after it. -/
def perform (manager : SessionManager) : Task → SessionManager × List (Audience × SyncMsg)
  | .closePane pane =>
      let (closed, plan) := manager.claimPaneClose pane
      (closed, broadcastLayoutChanges (changesOf plan))
  | .removeTab tab =>
      let (removed, present) := manager.removeTabLocked tab
      (removed, if present then [(.others, .tabClosed tab)] else [])

/-- What a handler makes of a message: the tabs, what it does later, and what is to be told. -/
def handle (manager : SessionManager) (uuid : TabId) :
    SyncClientMsg → SessionManager × List Task × List (Audience × SyncMsg)
  | .createTab layout tabId paneId =>
      let tabId := tabId.getD uuid
      let leafId := (paneId.or layout.firstLeafId).getD tabId
      let created := SyncMsg.tabCreated tabId leafId (some layout)
      (manager.updateLayoutLocked tabId { layout := some layout, activePaneId := some leafId }
          (some leafId),
        [], [(.sender, created), (.others, created)])
  | .closeTab paneId =>
      (manager, (manager.panesOf paneId).map .closePane ++ [.removeTab paneId], [])
  | .closePane paneId => (manager, [.closePane paneId], [])
  | .updateLayout paneId layout activePaneId =>
      (manager.updateLayoutLocked paneId
          { layout := some layout, activePaneId := some activePaneId } (some activePaneId),
        [], [(.others, .layoutUpdated paneId layout activePaneId)])

/-! ### Connections -/

/-- A connection: the client, the messages on their way to it, what it has sent, and the state of
its handler. -/
structure Connection where
  phase : Phase
  client : Client
  out : List SyncMsg := []
  rx : List SyncMsg := []
  inbox : List SyncClientMsg := []
  todo : List Task := []
  telling : List (Audience × SyncMsg) := []

/-- A message for the clients as it arrives at one. A reply goes past the messages that are still
to be forwarded. -/
def Connection.deliver (told : Audience × SyncMsg) (sender reader : Nat)
    (connection : Connection) : Connection :=
  if told.1 = .sender then
    if reader = sender ∧ connection.phase = .ready then
      { connection with out := connection.out ++ [told.2] }
    else connection
  else if told.1.reaches sender reader ∧ connection.phase ≠ .gone then
    { connection with rx := connection.rx ++ [told.2] }
  else connection

structure Server where
  manager : SessionManager := {}
  connections : KeyMap Nat Connection := ∅

/-- A connection is opened by a client with the tabs that it has, the tabs are listed for it, it is
closed, or loses what the client has sent; a message is forwarded or heard; a client changes a
layout and sends it, turns to another pane, forgets that a tab is recent, or sends another message;
a handler goes on; or a session is started. -/
inductive Event where
  | connect (id : Nat) (client : Client)
  | list (id : Nat)
  | leave (id : Nat)
  | discard (id : Nat)
  | forward (id : Nat)
  | hear (id : Nat) (splitId : TabId → String)
  | edit (id : Nat) (tab : TabId) (layout : Layout) (activePaneId : PaneId)
      (paneMru : List PaneId)
  | turn (id : Nat) (tab : TabId) (activePaneId : PaneId) (paneMru : List PaneId)
  | expire (id : Nat) (tab : TabId)
  | createTab (id : Nat) (layout : Layout) (tabId : Option TabId) (paneId : Option PaneId)
  | closeTab (id : Nat) (tab : TabId)
  | closePane (id : Nat) (pane : PaneId)
  | work (id : Nat) (uuid : TabId)
  | spawn (pane : PaneId) (session : SessionHandle)

namespace Connection

/-- The client hears the next message, and sends its answer. -/
def hear (splitId : TabId → String) (connection : Connection) : Connection :=
  match connection.out with
  | [] => connection
  | message :: rest =>
      let (client, answer) := connection.client.receive splitId message
      { connection with client, out := rest, inbox := connection.inbox ++ answer.toList }

/-- The client changes a tab that it shows, and sends the layout. -/
def edit (tab : TabId) (layout : Layout) (activePaneId : PaneId) (paneMru : List PaneId)
    (connection : Connection) : Connection :=
  if (connection.client.view tab).isSome ∧ connection.phase ≠ .gone then
    { connection with
      client := connection.client.editTab tab fun shown =>
        { shown with layout, activePaneId, paneMru }
      inbox := connection.inbox ++ [.updateLayout tab layout activePaneId] }
  else connection

def forward (connection : Connection) : Connection :=
  match connection.rx with
  | [] => connection
  | message :: rest =>
      if connection.phase = .ready then
        { connection with out := connection.out ++ [message], rx := rest }
      else connection

def leave (connection : Connection) : Connection :=
  { connection with phase := .gone, out := [], rx := [] }

def discard (connection : Connection) : Connection :=
  if connection.phase = .gone then { connection with inbox := [] } else connection

def send (message : SyncClientMsg) (connection : Connection) : Connection :=
  if connection.phase = .gone then connection
  else { connection with inbox := connection.inbox ++ [message] }

end Connection

namespace Server

def change (server : Server) (id : Nat) (change : Connection → Connection) : Server :=
  match server.connections.lookup id with
  | none => server
  | some connection =>
      { server with connections := server.connections.insert id (change connection) }

/-- A handler tells its next message. -/
def tell (server : Server) (sender : Nat) (told : Audience × SyncMsg)
    (rest : List (Audience × SyncMsg)) : Server :=
  { server with
    connections := KeyMap.mapValues (fun reader connection =>
      { connection.deliver told sender reader with
        telling := if reader = sender then rest else connection.telling }) server.connections }

/-- A handler tells what it has to tell, does what is left to do, or takes the next message. It
starts once the tabs have been listed. -/
def work (server : Server) (id : Nat) (uuid : TabId) : Server :=
  match server.connections.lookup id with
  | none => server
  | some connection =>
      if connection.phase = .registered then server
      else
        match connection.telling, connection.todo, connection.inbox with
        | told :: rest, _, _ => server.tell id told rest
        | [], task :: todo, _ =>
            let (manager, telling) := perform server.manager task
            { manager
              connections := server.connections.insert id { connection with todo, telling } }
        | [], [], message :: inbox =>
            let (manager, todo, telling) := handle server.manager uuid message
            { manager
              connections := server.connections.insert id { connection with todo, telling, inbox } }
        | [], [], [] => server

/-- The tabs are pruned and listed for a client that has been registered. -/
def list (server : Server) (id : Nat) : Server :=
  match server.connections.lookup id with
  | none => server
  | some connection =>
      if connection.phase = .registered then
        let manager := server.manager.pruneTabs
        { manager
          connections := server.connections.insert id
            { connection with phase := .ready, out := connection.out ++ [tabList manager] } }
      else server

/-- What the server and the clients are after an event. One that cannot happen leaves them. -/
def after (server : Server) : Event → Server
  | .connect id client =>
      if (server.connections.lookup id).isSome then server
      else
        { server with
          connections := server.connections.insert id { phase := .registered, client } }
  | .list id => server.list id
  | .leave id => server.change id .leave
  | .discard id => server.change id .discard
  | .forward id => server.change id .forward
  | .hear id splitId => server.change id (.hear splitId)
  | .edit id tab layout activePaneId paneMru =>
      server.change id (.edit tab layout activePaneId paneMru)
  | .turn id tab activePaneId paneMru =>
      server.change id fun connection => { connection with
        client := connection.client.editTab tab fun shown =>
          { shown with activePaneId, paneMru } }
  | .expire id tab =>
      server.change id fun connection => { connection with
        client := { connection.client with
          recentlyCreated := connection.client.recentlyCreated.filter (· ≠ tab) } }
  | .createTab id layout tabId paneId => server.change id (.send (.createTab layout tabId paneId))
  | .closeTab id tab => server.change id (.send (.closeTab tab))
  | .closePane id pane => server.change id (.send (.closePane pane))
  | .work id uuid => server.work id uuid
  | .spawn pane session =>
      { server with manager := (server.manager.insertSession pane session).1 }

end Server

end Dinotty.Sync
