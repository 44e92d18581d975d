/-
This file is the service of the panes of the tabs. A request reads layouts, answers an error or goes
on with what it has read, and later writes whole layouts. Its sections are the steps of a board, on
which any number of requests is under way.
-/

import Dinotty.Foundation.Fallible
import Dinotty.Session.Manager

namespace Dinotty.Tabs

open Session

/-! ### What the requests read -/

/-- An answer other than success. -/
structure Rejection where
  status : Nat
  error : String
  deriving DecidableEq

/-- Load the layout of a tab, which the errors call `what`. -/
def loadLayout (manager : SessionManager) (what : String) (tab : TabId) : Except Rejection Layout :=
  match manager.tabLayouts.lookup tab with
  | none => .error { status := 404, error := what ++ " not found" }
  | some value =>
      match value.layout with
      | none => .error { status := 500, error := what ++ " has no layout" }
      | some layout => .ok layout

/-- Load the layout of a tab that must hold a pane, as splitting and closing do. -/
def loadWithPane (manager : SessionManager) (tab : TabId) (pane : PaneId) :
    Except Rejection Layout := do
  let layout ← loadLayout manager "tab" tab
  if pane ∈ layout.collectLeafPaneIds then .ok layout
  else .error { status := 404, error := "pane not found in tab" }

/-- Load the layout of the tab that a move goes to. -/
def loadDestination (manager : SessionManager) (destination : TabId) (target : PaneId) :
    Except Rejection Layout := do
  let layout ← loadLayout manager "destination tab" destination
  if target ∈ layout.collectLeafPaneIds then .ok layout
  else .error { status := 404, error := "target pane not found in destination tab" }

/-! ### What the requests write -/

/-- A write of a request. `read` is the layout that the request has read and that the write
replaces. -/
inductive Write where
  | insert (tab : TabId) (read layout : Layout) (activePaneId : PaneId)
  | remove (tab : TabId) (read : Layout)
  | create (tab : TabId) (layout : Layout) (activePaneId : PaneId)

/-- A new leaf beside the target. A session over SSH gives it a title. -/
def splitLayout (layout : Layout) (target : PaneId) (direction splitId : String) (pane : PaneId)
    (sshTitle : Option String) : Option Layout :=
  match sshTitle with
  | some title =>
      layout.insertPaneIntoLayoutWithInfo target direction splitId pane title "ssh"
  | none => layout.insertPaneIntoLayout target direction splitId pane

structure TakeErrors where
  tooFew : String
  missing : String
  extraction : String

/-- Take a pane out of a layout of at least two, answering its leaf and what is left. -/
def takePane (errors : TakeErrors) (layout : Layout) (pane : PaneId) :
    Except Rejection (Layout × Layout) :=
  let leafIds := layout.collectLeafPaneIds
  if leafIds.length < 2 then .error { status := 400, error := errors.tooFew }
  else if pane ∉ leafIds then .error { status := 404, error := errors.missing }
  else
    match layout.extractLeafFromLayout pane with
    | none => .error { status := 500, error := errors.extraction }
    | some leaf =>
        match layout.removePaneFromLayout pane with
        | none => .error { status := 500, error := "failed to update source layout" }
        | some left => .ok (leaf, left)

/-- Move a whole tab beside a leaf of another. -/
def moveTab (source : TabId) (sourceLayout : Layout) (destination : TabId)
    (destinationLayout : Layout) (target : PaneId) (direction splitId : String) :
    Except Rejection (List Write) :=
  match Layout.insertSubtreeIntoLayout target direction splitId sourceLayout destinationLayout with
  | none => .error { status := 500, error := "failed to insert subtree" }
  | some new =>
      .ok [.remove source sourceLayout,
        .insert destination destinationLayout new (new.firstLeafId.getD target)]

def moveErrors : TakeErrors where
  tooFew := "source tab must have at least 2 panes to move one out"
  missing := "source pane not found in source tab"
  extraction := "failed to extract source leaf"

/-- Move one pane of a tab beside a leaf of another. -/
def moveOne (source : TabId) (sourceLayout : Layout) (pane : PaneId) (destination : TabId)
    (destinationLayout : Layout) (target : PaneId) (direction splitId : String) :
    Except Rejection (List Write) := do
  let (leaf, left) ← takePane moveErrors sourceLayout pane
  match Layout.insertSubtreeIntoLayout target direction splitId leaf destinationLayout with
  | none => .error { status := 500, error := "failed to update destination layout" }
  | some new =>
      .ok [.insert source sourceLayout left (left.firstLeafId.getD target),
        .insert destination destinationLayout new pane]

def extractErrors : TakeErrors where
  tooFew := "source tab must have at least 2 panes to extract one"
  missing := "pane not found in source tab"
  extraction := "failed to extract leaf"

def extractOne (source : TabId) (sourceLayout : Layout) (pane : PaneId) (newTab : TabId) :
    Except Rejection (List Write) := do
  let (leaf, left) ← takePane extractErrors sourceLayout pane
  .ok [.insert source sourceLayout left (left.firstLeafId.getD pane), .create newTab leaf pane]

/-! ### The board -/

abbrev RequestId := Nat

/-- What a request to split has read and drawn. -/
structure Split where
  tab : TabId
  target : PaneId
  direction : String
  layout : Layout
  pane : PaneId

/-- What a request to move has read before it reads the destination. Without a pane it moves the
whole tab. -/
structure Move where
  source : TabId
  pane : Option PaneId
  destination : TabId
  target : PaneId
  direction : String
  sourceLayout : Layout

inductive Request where
  | splitting (split : Split) (reserved : Bool)
  | moving (move : Move)
  | writing (writes : List Write) (publication : Option (PaneId × SessionHandle))
  | correcting (pane : PaneId)
  | closing (pane : PaneId)

structure Board where
  manager : SessionManager
  requests : KeyMap RequestId Request := ∅
  /-- The panes there were at the start and the ones whose session has been published since. -/
  created : List PaneId
  closed : List PaneId := []
  closedTabs : List TabId := []

namespace Board

/-- A board of the tabs there are, without requests. -/
def start (manager : SessionManager) : Board where
  manager
  created := manager.tabLayouts.keys.flatMap manager.panesOf

/-- Set how far a request has come, or end it. -/
def set (board : Board) (id : RequestId) (request : Option Request) : Board :=
  { board with
    requests := match request with
      | some request => board.requests.insert id request
      | none => board.requests.erase id }

/-- Go on after a section, keeping account of the tabs that it has closed. -/
def settle (board : Board) (manager : SessionManager) : Board :=
  { board with
    manager
    closedTabs := (board.manager.tabLayouts.keys.filter fun tab =>
      (manager.tabLayouts.lookup tab).isNone) ++ board.closedTabs }

end Board

def Write.apply (manager : SessionManager) : Write → SessionManager
  | .insert tab _ layout activePaneId | .create tab layout activePaneId =>
      manager.insertTabLocked tab { layout := some layout, activePaneId := some activePaneId }
  | .remove tab _ => (manager.removeTabLocked tab).1

/-- The sections of the requests. The identifiers that a request draws are part of its actions. -/
inductive Action where
  | startSplit (id : RequestId) (tab : TabId) (target : PaneId) (direction : String)
      (pane : PaneId)
  | reserve (id : RequestId)
  | abandon (id : RequestId)
  | publish (id : RequestId) (session : SessionHandle) (sshTitle : Option String)
      (splitId : String)
  | startMove (id : RequestId) (source : TabId) (pane : Option PaneId) (destination : TabId)
      (target : PaneId) (direction : String)
  | readDestination (id : RequestId) (splitId : String)
  | startExtract (id : RequestId) (source : TabId) (pane : PaneId) (newTab : TabId)
  | startClose (id : RequestId) (tab : TabId) (pane : PaneId)
  | close (id : RequestId)
  | write (id : RequestId)
  | recheck (id : RequestId)
  | correct (id : RequestId)
  | answer (id : RequestId)

namespace Board

/-- Start a request that has read what it needs, or reject it. -/
def accept (board : Board) (id : RequestId) : Except Rejection Request → Option Board
  | .ok request => if id ∈ board.requests then none else some (board.set id (some request))
  | .error _ => some board

/-- The section that publishes the session of a split, up to the write of its layout. A pane is
published under a newly drawn identifier. -/
def publishSplit (board : Board) (id : RequestId) (split : Split) (session : SessionHandle)
    (sshTitle : Option String) (splitId : String) : Option Board :=
  if split.pane ∈ board.created then none
  else
    match board.manager.publish split.pane session with
    | (manager, false) =>
        some ({ board with manager := manager.dropReservation split.pane }.set id none)
    | (manager, true) =>
        let published := { board with manager, created := split.pane :: board.created }
        match splitLayout split.layout split.target split.direction splitId split.pane sshTitle with
        | some layout =>
            some (published.set id (some (.writing
              [.insert split.tab split.layout layout split.pane] (some (split.pane, session)))))
        | none =>
            -- The session that was made for nothing is killed.
            let killed := (manager.claimSessionClose split.pane none).elim manager Prod.fst
            some (({ published with closed := split.pane :: board.closed }.settle killed).set
              id none)

/-- The section of the next write. A tab is created under a newly drawn identifier. -/
def applyWrite (board : Board) (id : RequestId) (write : Write) (rest : List Write)
    (publication : Option (PaneId × SessionHandle)) : Option Board :=
  let next := (board.settle (write.apply board.manager)).set id
    (some (.writing rest publication))
  match write with
  | .create tab _ _ =>
      if (board.manager.tabLayouts.lookup tab).isSome ∨ tab ∈ board.closedTabs then none
      else some next
  | _ => some next

/-- Take one section of a request. A section that does not come next is none. -/
def step (board : Board) : Action → Option Board
  | .startSplit id tab target direction pane =>
      board.accept id (do
        let layout ← loadWithPane board.manager tab target
        .ok (.splitting { tab, target, direction, layout, pane } false))
  | .reserve id =>
      match board.requests.lookup id with
      | some (.splitting split false) =>
          match board.manager.reserveSession split.pane with
          | (manager, true) =>
              some ({ board with manager }.set id (some (.splitting split true)))
          | (_, false) => some (board.set id none)
      | _ => none
  | .abandon id =>
      match board.requests.lookup id with
      | some (.splitting _ false) => some (board.set id none)
      | some (.splitting split true) =>
          some ({ board with manager := board.manager.dropReservation split.pane }.set id none)
      | _ => none
  | .publish id session sshTitle splitId =>
      match board.requests.lookup id with
      | some (.splitting split true) => board.publishSplit id split session sshTitle splitId
      | _ => none
  | .startMove id source pane destination target direction =>
      board.accept id
        (if source = destination then
          .error { status := 400, error := "source and destination tab must differ" }
        else do
          let sourceLayout ← loadLayout board.manager "source tab" source
          .ok (.moving { source, pane, destination, target, direction, sourceLayout }))
  | .readDestination id splitId =>
      match board.requests.lookup id with
      | some (.moving move) =>
          let writes : Except Rejection (List Write) := do
            let layout ← loadDestination board.manager move.destination move.target
            match move.pane with
            | none =>
                moveTab move.source move.sourceLayout move.destination layout move.target
                  move.direction splitId
            | some pane =>
                moveOne move.source move.sourceLayout pane move.destination layout move.target
                  move.direction splitId
          match writes with
          | .ok writes => some (board.set id (some (.writing writes none)))
          | .error _ => some (board.set id none)
      | _ => none
  | .startExtract id source pane newTab =>
      board.accept id (do
        let layout ← loadLayout board.manager "source tab" source
        let writes ← extractOne source layout pane newTab
        .ok (.writing writes none))
  | .startClose id tab pane =>
      board.accept id (do
        let _ ← loadWithPane board.manager tab pane
        .ok (.closing pane))
  | .close id =>
      match board.requests.lookup id with
      | some (.closing pane) =>
          let (manager, _) := board.manager.claimPaneClose pane
          some (({ board with closed := pane :: board.closed }.settle manager).set id none)
      | _ => none
  | .write id =>
      match board.requests.lookup id with
      | some (.writing (write :: rest) publication) =>
          board.applyWrite id write rest publication
      | _ => none
  | .recheck id =>
      match board.requests.lookup id with
      | some (.writing [] (some (pane, session))) =>
          some (board.set id
            (if board.manager.isCurrentSession pane session then none
            else some (.correcting pane)))
      | _ => none
  | .correct id =>
      match board.requests.lookup id with
      | some (.correcting pane) =>
          let (manager, _) := board.manager.purgePaneFromLayoutsLocked pane true
          some ((board.settle manager).set id none)
      | _ => none
  | .answer id =>
      match board.requests.lookup id with
      | some (.writing [] none) => some (board.set id none)
      | _ => none

end Board

end Dinotty.Tabs
