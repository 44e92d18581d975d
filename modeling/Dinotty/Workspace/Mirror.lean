/-
This file is what a client makes of the messages about workspaces. Where an update that is refused
leaves the connection alone, and a reorder meets order numbers that compare alike on both sides, a
client shows the server's workspaces in the server's order.
-/

import Dinotty.Workspace.Registry
import Dinotty.Foundation.Runs
import Dinotty.Foundation.StableSort

namespace Dinotty.WorkspaceMgmt

open Interleaving List

/-! ### The client -/

inductive SyncMsg where
  | workspaceCreated (workspace : Workspace)
  | workspaceUpdated (workspace : Workspace)
  | workspaceDeleted (id : String)
  | workspaceReordered (ids : List String)

/-- What a client does with a message. A workspace that it does not have is not updated. -/
def receive (workspaces : List Workspace) : SyncMsg → List Workspace
  | .workspaceCreated workspace =>
      if workspaces.any (·.id = workspace.id) then workspaces else workspaces ++ [workspace]
  | .workspaceUpdated workspace =>
      workspaces.set (workspaces.findIdx (·.id = workspace.id)) workspace
  | .workspaceDeleted id => workspaces.filter fun workspace => workspace.id ≠ id
  | .workspaceReordered ids =>
      (ids.zipIdx.foldl (fun workspaces (id, index) => setOrder workspaces id index)
        workspaces).mergeSort fun first second => first.order ≤ second.order

/-! ### The server -/

/-- The list of the server and what it has told the clients so far. -/
structure Hub where
  workspaces : List Workspace
  sent : List SyncMsg := []

/-- What a request does while it has the list for itself, and what it tells after that. -/
inductive Op where
  | create (files : Files) (req : CreateWorkspaceReq) (id : String)
  | update (files : Files) (id : String) (req : UpdateWorkspaceReq)
  | delete (id : String)
  | announceDeleted (id : String)
  | reorder (ids : List String)

def program : Operation → List Op
  | .create files req id => [.create files req id]
  | .update files id req => [.update files id req]
  | .delete id => [.delete id]
  | .reorder ids => [.reorder ids]

/-- Take the list that a request leaves, and tell the clients if it is not refused. -/
def Hub.take {Answer : Type} (hub : Hub) (result : List Workspace × Except Rejection Answer)
    (message : Answer → List SyncMsg) : Hub :=
  { workspaces := result.1
    sent := match result.2 with
      | .ok answer => hub.sent ++ message answer
      | .error _ => hub.sent }

def exec : Exec Hub Op Unit
  | _, _, .create files req id, rest, hub =>
      some (hub.take (createWorkspace files hub.workspaces req id)
        fun workspace => [.workspaceCreated workspace], rest)
  | _, _, .update files id req, rest, hub =>
      some (hub.take (updateWorkspace files hub.workspaces id req)
        fun workspace => [.workspaceUpdated workspace], rest)
  | _, _, .delete id, rest, hub =>
      let result := deleteWorkspace hub.workspaces id
      some (hub.take result fun _ => [], match result.2 with
        | .ok _ => .announceDeleted id :: rest
        | .error _ => rest)
  | _, _, .announceDeleted id, rest, hub =>
      some ({ hub with sent := hub.sent ++ [.workspaceDeleted id] }, rest)
  | _, _, .reorder ids, rest, hub =>
      some (hub.take (reorderWorkspaces hub.workspaces ids)
        fun _ => [.workspaceReordered ids], rest)

/-- What a client that was given the list at the start has made of the messages. -/
def Hub.client (listed : List Workspace) (hub : Hub) : List Workspace :=
  hub.sent.foldl receive listed

abbrev Requests := Pool Hub Op

def Requests.start (listed : List Workspace) : Requests := { shared := ⟨listed, []⟩, threads := [] }

def Requests.run (pool : Requests) (events : List (Event Operation Unit)) : Requests :=
  Runs.run (Pool.after program exec) pool events

def Requests.Finished (pool : Requests) : Prop := ∀ ops ∈ pool.threads, ops.isEmpty

instance decidableFinished (pool : Requests) : Decidable pool.Finished :=
  inferInstanceAs (Decidable (∀ ops ∈ pool.threads, ops.isEmpty))

def Workspace.unnumbered (workspace : Workspace) : Workspace := { workspace with order := 0 }

/-! ### What an operation has to heed -/

/-- The workspace with the number that a reorder gives to it: its last place in the list, or the one
that it has. -/
def reordered (number : Nat → Nat) (ids : List String) (workspace : Workspace) : Workspace :=
  ids.zipIdx.foldl (fun workspace (id, index) => numbered id (number index) workspace) workspace

/-- Any two workspaces, numbered as a reorder numbers them, compare with the client as they do with
the server. -/
def ComparesAlike (workspaces mine : List Workspace) (ids : List String) : Prop :=
  ∀ first ∈ workspaces, ∀ second ∈ workspaces, ∀ one ∈ mine, ∀ other ∈ mine,
    one.id = first.id → other.id = second.id →
    ((reordered asOrder ids first).order ≤ (reordered asOrder ids second).order ↔
      (reordered id ids one).order ≤ (reordered id ids other).order)

instance decidableComparesAlike (workspaces mine : List Workspace) (ids : List String) :
    Decidable (ComparesAlike workspaces mine ids) :=
  inferInstanceAs (Decidable (∀ first ∈ workspaces, ∀ second ∈ workspaces, ∀ one ∈ mine,
    ∀ other ∈ mine, one.id = first.id → other.id = second.id → (_ ≤ _ ↔ _ ≤ _)))

/-- The ids that a client may have come across. -/
def usedIds (listed : List Workspace) (sent : List SyncMsg) : List String :=
  listed.map (·.id) ++ sent.filterMap fun
    | .workspaceCreated workspace => some workspace.id
    | _ => none

/-- A new workspace has a new id; an update with a path that is refused names no other connection;
and the order numbers that a reorder meets compare alike on both sides. -/
def Heeds (listed : List Workspace) (hub : Hub) : Op → Prop
  | .create _ _ id => id ∉ usedIds listed hub.sent
  | .update files id req =>
      ∀ found ∈ hub.workspaces[hub.workspaces.findIdx (·.id = id)]?, ∀ path ∈ req.path,
        (updatedPath files hub.workspaces (hub.workspaces.findIdx (·.id = id))
          { found with connectionId := req.connectionId.or found.connectionId } req path).isOk ∨
        req.connectionId.or found.connectionId = found.connectionId
  | .delete _ => True
  | .announceDeleted _ => True
  | .reorder ids =>
      (∃ id ∈ ids, id ∉ hub.workspaces.map (·.id)) ∨
        ComparesAlike hub.workspaces (hub.client listed) ids

instance decidableHeeds (listed : List Workspace) (hub : Hub) :
    ∀ op, Decidable (Heeds listed hub op)
  | .create _ _ id => inferInstanceAs (Decidable (id ∉ usedIds listed hub.sent))
  | .update files id req =>
      inferInstanceAs (Decidable (∀ found ∈ hub.workspaces[hub.workspaces.findIdx (·.id = id)]?,
        ∀ path ∈ req.path,
        (updatedPath files hub.workspaces (hub.workspaces.findIdx (·.id = id))
          { found with connectionId := req.connectionId.or found.connectionId } req path).isOk ∨
        req.connectionId.or found.connectionId = found.connectionId))
  | .delete _ => isTrue trivial
  | .announceDeleted _ => isTrue trivial
  | .reorder ids =>
      inferInstanceAs (Decidable ((∃ id ∈ ids, id ∉ hub.workspaces.map (·.id)) ∨
        ComparesAlike hub.workspaces (hub.client listed) ids))

def HeedfulRun (listed : List Workspace) (events : List (Event Operation Unit)) : Prop :=
  Runs.Careful (Pool.after program exec) (fun pool => pool.Allows (Heeds listed))
    (Requests.start listed) events

instance decidableHeedfulRun (listed : List Workspace) (events : List (Event Operation Unit)) :
    Decidable (HeedfulRun listed events) :=
  inferInstanceAs (Decidable (Runs.Careful _ _ _ _))

/-! ### One message -/

variable {workspaces mine : List Workspace} {leaving : List String}

theorem id_unnumbered (ws : Workspace) : ws.unnumbered.id = ws.id := rfl

theorem map_id_of_unnumbered {first second : List Workspace}
    (same : first.map (·.unnumbered) = second.map (·.unnumbered)) :
    first.map (·.id) = second.map (·.id) := by
  have ids := congrArg (map (·.id)) same
  rw [map_map, map_map] at ids
  exact ids

def replaced (id : String) (new workspace : Workspace) : Workspace :=
  if workspace.id = id then new else workspace

theorem set_findIdx (once : (workspaces.map (·.id)).Nodup) (id : String) (new : Workspace) :
    workspaces.set (workspaces.findIdx (·.id = id)) new = workspaces.map (replaced id new) := by
  induction workspaces with
  | nil => rfl
  | cons ws rest ih =>
    obtain ⟨unlisted, onceRest⟩ := nodup_cons.mp once
    rw [findIdx_cons, map_cons, replaced]
    by_cases here : ws.id = id
    · have untouched : rest.map (replaced id new) = rest := by
        refine (map_congr_left fun other mem => ?_).trans (map_id rest)
        refine if_neg fun same => unlisted ?_
        exact mem_map.mpr ⟨other, mem, same.trans here.symm⟩
      rw [if_pos here, decide_eq_true here, untouched]
      rfl
    · rw [if_neg here, decide_eq_false here]
      exact congrArg (ws :: ·) (ih onceRest)

theorem eraseIdx_findIdx (once : (workspaces.map (·.id)).Nodup) (id : String) :
    workspaces.eraseIdx (workspaces.findIdx (·.id = id)) =
      workspaces.filter fun ws => ws.id ≠ id := by
  induction workspaces with
  | nil => rfl
  | cons ws rest ih =>
    obtain ⟨unlisted, onceRest⟩ := nodup_cons.mp once
    rw [findIdx_cons]
    by_cases here : ws.id = id
    · have untouched : (rest.filter fun other => other.id ≠ id) = rest := by
        refine filter_eq_self.mpr fun other mem => decide_eq_true fun same => unlisted ?_
        exact mem_map.mpr ⟨other, mem, same.trans here.symm⟩
      rw [filter_cons_of_neg (by simp [here]), decide_eq_true here, untouched]
      rfl
    · rw [filter_cons_of_pos (by simp [here]), decide_eq_false here]
      exact congrArg (ws :: ·) (ih onceRest)

theorem unnumbered_numbered (id : String) (order : Nat) (ws : Workspace) :
    (numbered id order ws).unnumbered = ws.unnumbered := by
  unfold numbered
  split <;> rfl

section

variable (number : Nat → Nat) (ids : List String)
include number ids

theorem id_reordered (ws : Workspace) : (reordered number ids ws).id = ws.id := by
  unfold reordered
  induction ids.zipIdx generalizing ws with
  | nil => rfl
  | cons pair rest ih =>
    rw [foldl_cons, ih, id_numbered]

theorem unnumbered_reordered (ws : Workspace) :
    (reordered number ids ws).unnumbered = ws.unnumbered := by
  unfold reordered
  induction ids.zipIdx generalizing ws with
  | nil => rfl
  | cons pair rest ih =>
    rw [foldl_cons, ih, unnumbered_numbered]

theorem foldl_setOrder_eq (once : (workspaces.map (·.id)).Nodup) :
    ids.zipIdx.foldl (fun workspaces (id, i) => setOrder workspaces id (number i))
      workspaces = workspaces.map (reordered number ids) := by
  unfold reordered
  induction ids.zipIdx generalizing workspaces with
  | nil => exact (map_id workspaces).symm
  | cons pair rest ih =>
    have onceNext : ((workspaces.map (numbered pair.1 (number pair.2))).map (·.id)).Nodup := by
      rw [map_map]
      exact (map_congr_left fun ws _ => id_numbered pair.1 _ ws) ▸ once
    rw [foldl_cons]
    dsimp only
    rw [setOrder_eq once, ih onceNext, map_map]
    rfl

end

/-! ### The list of the client -/

/-- The client shows the workspaces of the server in its order, and those that it will be told to
forget. -/
def Shows (workspaces mine : List Workspace) (leaving : List String) : Prop :=
  (mine.filter fun workspace => workspace.id ∉ leaving).map (·.unnumbered) =
    workspaces.map (·.unnumbered)

section

variable (shows : Shows workspaces mine leaving)
include shows

theorem Shows.congr {others : List String} (same : ∀ id, id ∈ others ↔ id ∈ leaving) :
    Shows workspaces mine others := by
  unfold Shows at shows ⊢
  rw [← shows]
  exact congrArg _ (filter_congr fun ws _ => decide_eq_decide.mpr
    (not_congr (same ws.id)))

theorem Shows.ids : workspaces.map (·.id) = (mine.filter fun ws => ws.id ∉ leaving).map (·.id) :=
  (map_id_of_unnumbered shows).symm

theorem Shows.once (once : (mine.map (·.id)).Nodup) : (workspaces.map (·.id)).Nodup := by
  rw [shows.ids]
  exact once.sublist (filter_sublist.map _)

theorem Shows.mem {id : String} (listed : id ∈ workspaces.map (·.id)) : id ∈ mine.map (·.id) := by
  rw [shows.ids] at listed
  exact (filter_sublist.map _).subset listed

theorem Shows.create {ws : Workspace} (staying : ws.id ∉ leaving) :
    Shows (workspaces ++ [ws]) (mine ++ [ws]) leaving := by
  unfold Shows at shows ⊢
  have stays : [ws].filter (fun ws => ws.id ∉ leaving) = [ws] :=
    filter_eq_self.mpr fun other mem => by
      rw [mem_singleton.mp mem]
      exact decide_eq_true staying
  rw [filter_append, stays, map_append, map_append, shows]

end

theorem id_replaced {id : String} {new : Workspace} (same : new.id = id) (ws : Workspace) :
    (replaced id new ws).id = ws.id := by
  unfold replaced
  split
  next here =>
    exact same.trans here.symm
  · rfl

theorem unnumbered_replaced (id : String) (new ws : Workspace) :
    (replaced id new ws).unnumbered = replaced id new.unnumbered ws.unnumbered := by
  unfold replaced
  rw [id_unnumbered]
  split <;> rfl

theorem Shows.replace (shows : Shows workspaces mine leaving) (new : Workspace) :
    Shows (workspaces.map (replaced new.id new)) (mine.map (replaced new.id new)) leaving := by
  unfold Shows at shows ⊢
  have commutes : (fun ws : Workspace => ws.unnumbered) ∘ replaced new.id new =
      replaced new.id new.unnumbered ∘ fun ws => ws.unnumbered :=
    funext fun ws => unnumbered_replaced new.id new ws
  have kept : (fun ws : Workspace => decide (ws.id ∉ leaving)) ∘
      replaced new.id new = fun ws => decide (ws.id ∉ leaving) := by
    funext ws
    rw [Function.comp_apply, id_replaced rfl]
  rw [filter_map, kept, map_map, map_map, commutes, ← map_map, ← map_map, shows]

theorem filter_unnumbered (id : String) (workspaces : List Workspace) :
    (workspaces.filter fun ws => ws.id ≠ id).map (·.unnumbered) =
      (workspaces.map (·.unnumbered)).filter fun ws => ws.id ≠ id := by
  rw [filter_map]
  rfl

section

variable (shows : Shows workspaces mine leaving)
include shows

theorem Shows.remove (id : String) :
    Shows (renumber (workspaces.filter fun ws => ws.id ≠ id)) mine
      (id :: leaving) := by
  unfold Shows at shows ⊢
  have without : (mine.filter fun ws => ws.id ∉ id :: leaving) =
      (mine.filter fun ws => ws.id ∉ leaving).filter
        fun ws => ws.id ≠ id := by
    rw [filter_filter]
    refine filter_congr fun ws _ => ?_
    simp [mem_cons]
  rw [map_renumber _ fun _ _ => rfl, without, filter_unnumbered, filter_unnumbered, shows]

theorem Shows.forget {id : String} {left : List String}
    (split : ∀ other, other ∈ leaving ↔ other = id ∨ other ∈ left) :
    Shows workspaces (mine.filter fun ws => ws.id ≠ id) left := by
  unfold Shows at shows ⊢
  rw [← shows, filter_filter]
  refine congrArg _ (filter_congr fun ws _ => ?_)
  rw [Bool.eq_iff_iff]
  simp [split, and_comm]

/-- What a reorder has numbered is sorted the same on both sides if its numbers compare alike. -/
theorem Shows.reorder {ids : List String} (alike : ComparesAlike workspaces mine ids) :
    Shows ((workspaces.map (reordered asOrder ids)).mergeSort
        fun first second => first.order ≤ second.order)
      ((mine.map (reordered id ids)).mergeSort fun first second => first.order ≤ second.order)
      leaving := by
  unfold Shows
  have kept : (fun ws : Workspace => decide (ws.id ∉ leaving)) ∘ reordered id ids =
      fun ws => decide (ws.id ∉ leaving) := by
    funext ws
    rw [Function.comp_apply, id_reordered]
  have numbering (number : Nat → Nat) (items : List Workspace) :
      (items.map (reordered number ids)).map (·.unnumbered) = items.map (·.unnumbered) := by
    rw [map_map]
    exact map_congr_left fun ws _ => unnumbered_reordered number ids ws
  rw [StableSort.filter_mergeSort
      (fun first second third => by simpa using Nat.le_trans)
      (fun first second => by simpa using Nat.le_total first.order second.order),
    filter_map, kept]
  symm
  refine StableSort.map_mergeSort_eq ((numbering _ _).trans (shows.symm.trans (numbering _ _).symm))
    ?_
  intro first inFirst second inSecond one inOne other inOther sameOne sameOther
  obtain ⟨first, firstMember, rfl⟩ := mem_map.mp inFirst
  obtain ⟨second, secondMember, rfl⟩ := mem_map.mp inSecond
  obtain ⟨one, oneMember, rfl⟩ := mem_map.mp inOne
  obtain ⟨other, otherMember, rfl⟩ := mem_map.mp inOther
  rw [unnumbered_reordered, unnumbered_reordered] at sameOne sameOther
  have compared := alike first firstMember second secondMember one
    (mem_of_mem_filter oneMember) other (mem_of_mem_filter otherMember)
    (congrArg Workspace.id sameOne).symm (congrArg Workspace.id sameOther).symm
  exact decide_eq_decide.mpr compared

end

/-! ### One operation -/

theorem createWorkspace_cases (files : Files) (workspaces : List Workspace)
    (req : CreateWorkspaceReq) (id : String) :
    (∃ rejection, createWorkspace files workspaces req id = (workspaces, .error rejection)) ∨
      ∃ ws, ws.id = id ∧
        createWorkspace files workspaces req id = (workspaces ++ [ws], .ok ws) := by
  unfold createWorkspace
  split
  · exact .inl ⟨_, rfl⟩
  · split
    · exact .inl ⟨_, rfl⟩
    · exact .inr ⟨_, rfl, rfl⟩

/-- An update is refused because there is no such workspace, or because of its path, and then the
connection is changed already; or it sets a workspace. -/
theorem updateWorkspace_cases (files : Files) (workspaces : List Workspace) (id : String)
    (req : UpdateWorkspaceReq) :
    (∃ rejection, updateWorkspace files workspaces id req = (workspaces, .error rejection)) ∨
      (∃ found path rejection,
        workspaces[workspaces.findIdx (·.id = id)]? = some found ∧ req.path = some path ∧
        updatedPath files workspaces (workspaces.findIdx (·.id = id))
          { found with connectionId := req.connectionId.or found.connectionId } req path =
            .error rejection ∧
        updateWorkspace files workspaces id req = (workspaces.set (workspaces.findIdx (·.id = id))
            { found with connectionId := req.connectionId.or found.connectionId },
            .error rejection)) ∨
      ∃ new, new.id = id ∧ updateWorkspace files workspaces id req =
        (workspaces.set (workspaces.findIdx (·.id = id)) new, .ok new) := by
  unfold updateWorkspace
  dsimp only
  split
  · exact .inl ⟨_, rfl⟩
  next found held =>
    have named : found.id = id := id_of_findIdx held
    split
    · exact .inr (.inr ⟨_, show (withLooks { found with
          connectionId := req.connectionId.or found.connectionId } req).id = id from named, rfl⟩)
    next path given =>
      split
      next rejection refused =>
        exact .inr (.inl ⟨found, path, rejection, held, given, refused, rfl⟩)
      next stored accepted =>
        exact .inr (.inr ⟨_, show (withLooks (withPath { found with
          connectionId := req.connectionId.or found.connectionId } req stored) req).id = id
            from named, rfl⟩)

theorem deleteWorkspace_cases (workspaces : List Workspace) (id : String) :
    (∃ rejection, deleteWorkspace workspaces id = (workspaces, .error rejection)) ∨
      workspaces.findIdx (·.id = id) < workspaces.length ∧ deleteWorkspace workspaces id =
        (renumber (workspaces.eraseIdx (workspaces.findIdx (·.id = id))), .ok ()) := by
  unfold deleteWorkspace
  dsimp only
  split
  next known =>
    exact .inr ⟨known, rfl⟩
  · exact .inl ⟨_, rfl⟩

theorem reorderWorkspaces_cases (workspaces : List Workspace) (ids : List String) :
    (∃ rejection, reorderWorkspaces workspaces ids = (workspaces, .error rejection)) ∨
      (∀ id ∈ ids, id ∈ workspaces.map (·.id)) ∧ reorderWorkspaces workspaces ids =
        ((ids.zipIdx.foldl (fun workspaces (id, i) => setOrder workspaces id (asOrder i))
          workspaces).mergeSort fun first second => first.order ≤ second.order, .ok ()) := by
  unfold reorderWorkspaces
  split
  · exact .inl ⟨_, rfl⟩
  next known =>
    refine .inr ⟨fun id listed => ?_, rfl⟩
    have found := find?_eq_none.mp known id listed
    simp only [Bool.not_eq_true', Bool.not_eq_false, any_eq_true, decide_eq_true_eq] at found
    exact mem_map.mpr found

/-- The client shows what the server has, but for the workspaces that it will be told to forget, and
every workspace once. -/
structure Mirrored (listed : List Workspace) (hub : Hub) (leaving : List String) : Prop where
  shows : Shows hub.workspaces (hub.client listed) leaving
  once : ((hub.client listed).map (·.id)).Nodup
  used : ∀ id, id ∈ (hub.client listed).map (·.id) ∨ id ∈ leaving → id ∈ usedIds listed hub.sent

variable {listed : List Workspace} {hub : Hub}

theorem client_tell (workspaces : List Workspace) (message : SyncMsg) :
    Hub.client listed ⟨workspaces, hub.sent ++ [message]⟩ =
      receive (hub.client listed) message := by
  rw [Hub.client, foldl_append]
  rfl

theorem usedIds_tell (listed : List Workspace) (sent : List SyncMsg) (message : SyncMsg) :
    usedIds listed (sent ++ [message]) = usedIds listed sent ++ ([message].filterMap fun
        | .workspaceCreated workspace => some workspace.id
        | _ => none) := by
  rw [usedIds, filterMap_append, ← append_assoc]
  rfl

theorem mem_usedIds_tell {sent : List SyncMsg} {id : String} (used : id ∈ usedIds listed sent)
    (message : SyncMsg) : id ∈ usedIds listed (sent ++ [message]) := by
  rw [usedIds_tell]
  exact mem_append_left _ used

theorem Mirrored.congr (mirrored : Mirrored listed hub leaving) {others : List String}
    (same : ∀ id, id ∈ others ↔ id ∈ leaving) : Mirrored listed hub others where
  shows := mirrored.shows.congr same
  once := mirrored.once
  used := fun id come => mirrored.used id (come.imp_right (same id).mp)

theorem Mirrored.create (mirrored : Mirrored listed hub leaving) (files : Files)
    (req : CreateWorkspaceReq) {id : String} (fresh : id ∉ usedIds listed hub.sent) :
    Mirrored listed (hub.take (createWorkspace files hub.workspaces req id)
      fun workspace => [.workspaceCreated workspace]) leaving := by
  rcases createWorkspace_cases files hub.workspaces req id with
    ⟨rejection, refused⟩ | ⟨workspace, rfl, accepted⟩
  · rw [refused]
    exact mirrored
  · rw [accepted]
    have unknown : workspace.id ∉ (hub.client listed).map (·.id) := fun known =>
      fresh (mirrored.used _ (.inl known))
    have pushed : (hub.take (hub.workspaces ++ [workspace], .ok workspace)
        fun workspace : Workspace => [SyncMsg.workspaceCreated workspace]).client listed =
          hub.client listed ++ [workspace] := by
      refine (client_tell _ _).trans (if_neg fun known => unknown ?_)
      obtain ⟨other, mem, same⟩ := any_eq_true.mp known
      exact mem_map.mpr ⟨other, mem, of_decide_eq_true same⟩
    constructor
    · rw [pushed]
      exact mirrored.shows.create fun gone => fresh (mirrored.used _ (.inr gone))
    · rw [pushed, map_append]
      exact mirrored.once.append (nodup_singleton _) (disjoint_singleton.mpr unknown)
    · intro id come
      rw [pushed, map_append, mem_append, or_assoc] at come
      rcases come with old | new | gone
      · exact mem_usedIds_tell (mirrored.used id (.inl old)) _
      · obtain rfl := mem_singleton.mp new
        exact mem_append_right _ (mem_filterMap.mpr
          ⟨.workspaceCreated workspace, mem_append_right _ (mem_singleton.mpr rfl), rfl⟩)
      · exact mem_usedIds_tell (mirrored.used id (.inr gone)) _

theorem map_id_replaced (new : Workspace) (workspaces : List Workspace) :
    (workspaces.map (replaced new.id new)).map (·.id) = workspaces.map (·.id) := by
  rw [map_map]
  exact map_congr_left fun ws _ => id_replaced rfl ws

section

variable (mirrored : Mirrored listed hub leaving)
include mirrored

theorem Mirrored.update (files : Files) {id : String} {req : UpdateWorkspaceReq}
    (heeds : Heeds listed hub (.update files id req)) :
    Mirrored listed (hub.take (updateWorkspace files hub.workspaces id req)
      fun workspace => [.workspaceUpdated workspace]) leaving := by
  rcases updateWorkspace_cases files hub.workspaces id req with
    ⟨rejection, refused⟩ | ⟨found, path, rejection, held, given, refused, result⟩ |
      ⟨new, rfl, accepted⟩
  · rw [refused]
    exact mirrored
  · have unchanged : req.connectionId.or found.connectionId = found.connectionId := by
      rcases heeds found held path given with taken | unchanged
      · rw [refused] at taken
        exact absurd taken Bool.false_ne_true
      · exact unchanged
    rw [result, unchanged]
    have same : hub.workspaces.set (hub.workspaces.findIdx (·.id = id)) found = hub.workspaces :=
      ext_getElem? fun position => by
        rw [getElem?_set]
        split
        next here =>
          rw [← here, held, if_pos (List.getElem?_eq_some_iff.mp held).1]
        · rfl
    rw [Hub.take, show ({ found with connectionId := found.connectionId } : Workspace) = found
      from rfl, same]
    exact mirrored
  · have onceServer := mirrored.shows.once mirrored.once
    rw [accepted, set_findIdx onceServer]
    have replacedClient : (hub.take (hub.workspaces.map (replaced new.id new), .ok new)
        fun workspace : Workspace => [SyncMsg.workspaceUpdated workspace]).client listed =
          (hub.client listed).map (replaced new.id new) :=
      (client_tell _ _).trans (set_findIdx mirrored.once new.id new)
    constructor
    · rw [replacedClient]
      exact mirrored.shows.replace new
    · rw [replacedClient, map_id_replaced]
      exact mirrored.once
    · intro id come
      rw [replacedClient, map_id_replaced] at come
      exact mem_usedIds_tell (mirrored.used id come) _

theorem Mirrored.remove {id : String}
    (known : hub.workspaces.findIdx (·.id = id) < hub.workspaces.length) :
    Mirrored listed
      { hub with
        workspaces := renumber (hub.workspaces.eraseIdx (hub.workspaces.findIdx (·.id = id))) }
      (id :: leaving) where
  shows := by
    rw [eraseIdx_findIdx (mirrored.shows.once mirrored.once)]
    exact mirrored.shows.remove id
  once := mirrored.once
  used := fun other come => by
    rcases come with old | gone
    · exact mirrored.used other (.inl old)
    · rcases mem_cons.mp gone with rfl | before
      · have member : other ∈ hub.workspaces.map (·.id) := by
          refine mem_map.mpr ⟨_, getElem_mem known, ?_⟩
          exact id_of_findIdx (getElem?_eq_getElem known)
        exact mirrored.used other (.inl (mirrored.shows.mem member))
      · exact mirrored.used other (.inr before)

theorem Mirrored.announce {id : String} {left : List String}
    (split : ∀ other, other ∈ leaving ↔ other = id ∨ other ∈ left) :
    Mirrored listed { hub with sent := hub.sent ++ [.workspaceDeleted id] } left where
  shows := by
    rw [client_tell]
    exact mirrored.shows.forget split
  once := by
    rw [client_tell]
    exact mirrored.once.sublist (filter_sublist.map _)
  used := fun other come => by
    rw [client_tell] at come
    refine mem_usedIds_tell (mirrored.used other ?_) _
    exact come.imp ((filter_sublist.map _).subset ·) fun gone => (split other).mpr (.inr gone)

end

theorem map_id_reordered (number : Nat → Nat) (ids : List String) (workspaces : List Workspace) :
    (workspaces.map (reordered number ids)).map (·.id) = workspaces.map (·.id) := by
  rw [map_map]
  exact map_congr_left fun ws _ => id_reordered number ids ws

theorem Mirrored.reorder (mirrored : Mirrored listed hub leaving) {ids : List String}
    (heeds : Heeds listed hub (.reorder ids)) :
    Mirrored listed (hub.take (reorderWorkspaces hub.workspaces ids)
      fun _ => [.workspaceReordered ids]) leaving := by
  rcases reorderWorkspaces_cases hub.workspaces ids with ⟨rejection, refused⟩ | ⟨known, accepted⟩
  · rw [refused]
    exact mirrored
  · have alike : ComparesAlike hub.workspaces (hub.client listed) ids := by
      rcases heeds with ⟨id, listedId, unknown⟩ | alike
      · exact absurd (known id listedId) unknown
      · exact alike
    rw [accepted, foldl_setOrder_eq asOrder ids (mirrored.shows.once mirrored.once)]
    have sorted : (hub.take ((hub.workspaces.map (reordered asOrder ids)).mergeSort
        (fun first second => first.order ≤ second.order), .ok ())
        fun _ : Unit => [SyncMsg.workspaceReordered ids]).client listed =
          ((hub.client listed).map (reordered id ids)).mergeSort
            fun first second => first.order ≤ second.order := by
      refine (client_tell _ _).trans ?_
      rw [← foldl_setOrder_eq id ids mirrored.once]
      rfl
    have sameIds := ((mergeSort_perm ((hub.client listed).map (reordered id ids))
      fun first second => first.order ≤ second.order).map (·.id)).trans
        (Perm.of_eq (map_id_reordered id ids _))
    constructor
    · rw [sorted]
      exact mirrored.shows.reorder alike
    · rw [sorted]
      exact sameIds.nodup_iff.mpr mirrored.once
    · intro other come
      rw [sorted] at come
      exact mem_usedIds_tell (mirrored.used other (come.imp_left sameIds.mem_iff.mp)) _

/-! ### Runs -/

/-- The ids of the deleted workspaces that the clients have still to be told of. -/
def Requests.untold (pool : Requests) : List String :=
  pool.threads.flatMap fun ops => ops.filterMap fun
    | .announceDeleted id => some id
    | _ => none

variable {pool : Requests}

theorem mem_untold {id : String} :
    id ∈ pool.untold ↔ ∃ ops ∈ pool.threads, Op.announceDeleted id ∈ ops := by
  rw [Requests.untold, mem_flatMap]
  refine exists_congr fun ops => and_congr_right fun _ => ?_
  rw [mem_filterMap]
  constructor
  · rintro ⟨op, mem, isLeaving⟩
    cases op <;> simp_all
  · exact fun mem => ⟨.announceDeleted id, mem, rfl⟩

theorem mem_untold_spawn {request : Operation} {id : String} :
    id ∈ Requests.untold (pool.spawn (program request)) ↔ id ∈ pool.untold := by
  rw [mem_untold, mem_untold, Pool.spawn]
  constructor
  · rintro ⟨ops, mem, telling⟩
    rcases mem_append.mp mem with old | new
    · exact ⟨ops, old, telling⟩
    · rw [mem_singleton.mp new] at telling
      cases request <;> simp [program] at telling
  · rintro ⟨ops, mem, telling⟩
    exact ⟨ops, mem_append_left _ mem, telling⟩

theorem mem_untold_step {pool next : Requests} {i : Nat} {before after : List Op}
    (held : pool.threads[i]? = some before) (own : next.threads[i]? = some after)
    (same : ∀ other, other ≠ i → next.threads[other]? = pool.threads[other]?) (id : String) :
    (id ∈ next.untold ∨ .announceDeleted id ∈ before ↔
      id ∈ pool.untold ∨ .announceDeleted id ∈ after) ∧
    (.announceDeleted id ∈ before → id ∈ pool.untold) ∧
    (.announceDeleted id ∈ after → id ∈ next.untold) := by
  rw [mem_untold, mem_untold]
  exact ⟨Pool.exists_step held own same, fun telling => ⟨before, mem_of_getElem? held, telling⟩,
    fun telling => ⟨after, mem_of_getElem? own, telling⟩⟩

theorem Mirrored.step {pool next : Requests} {i : Nat} {choice : Unit}
    (mirrored : Mirrored listed pool.shared pool.untold)
    (heeds : pool.Allows (Heeds listed) (.step i choice : Event Operation Unit))
    (done : pool.step exec i choice = some next) :
    Mirrored listed next.shared next.untold := by
  obtain ⟨op, rest, ops, held, ran, own, same⟩ := Pool.step_cases done
  have heed := heeds.apply held
  have told := mem_untold_step held own same
  -- An operation that neither deletes nor tells of it leaves the same to be told.
  have unmoved (plain : ∀ id, .announceDeleted id ∈ op :: rest ↔ .announceDeleted id ∈ ops) :
      ∀ id, id ∈ next.untold ↔ id ∈ pool.untold := fun id => by
    have steps := told id
    have here := plain id
    grind
  cases op with
  | create files req id =>
    obtain ⟨shared, rfl⟩ := Prod.mk.inj (Option.some.inj ran)
    rw [← shared]
    exact (mirrored.create files req heed).congr (unmoved fun id => by simp)
  | update files id req =>
    obtain ⟨shared, rfl⟩ := Prod.mk.inj (Option.some.inj ran)
    rw [← shared]
    exact (mirrored.update files heed).congr (unmoved fun id => by simp)
  | reorder ids =>
    obtain ⟨shared, rfl⟩ := Prod.mk.inj (Option.some.inj ran)
    rw [← shared]
    exact (mirrored.reorder heed).congr (unmoved fun id => by simp)
  | announceDeleted id =>
    obtain ⟨shared, rfl⟩ := Prod.mk.inj (Option.some.inj ran)
    rw [← shared]
    refine mirrored.announce fun other => ?_
    have steps := told other
    rw [mem_cons, Op.announceDeleted.injEq] at steps
    grind
  | delete id =>
    obtain ⟨shared, left⟩ := Prod.mk.inj (Option.some.inj ran)
    rw [← shared]
    rcases deleteWorkspace_cases pool.shared.workspaces id with
      ⟨rejection, refused⟩ | ⟨known, accepted⟩
    · rw [refused] at left ⊢
      subst left
      exact mirrored.congr (unmoved fun id => by simp)
    · rw [accepted] at left ⊢
      subst left
      have removed := mirrored.remove known
      rw [show pool.shared.sent = pool.shared.sent ++ [] from (append_nil _).symm] at removed
      refine removed.congr fun other => ?_
      have steps := told other
      rw [mem_cons, mem_cons, Op.announceDeleted.injEq] at steps
      rw [mem_cons]
      have noDelete : Op.announceDeleted other ≠ .delete id := by simp
      grind

theorem Mirrored.after {event : Event Operation Unit}
    (mirrored : Mirrored listed pool.shared pool.untold)
    (heeds : pool.Allows (Heeds listed) event) :
    Mirrored listed (pool.after program exec event).shared
      (Requests.untold (pool.after program exec event)) := by
  cases event with
  | request request => exact mirrored.congr fun id => mem_untold_spawn
  | step i choice =>
    rw [Pool.after]
    cases done : pool.step exec i choice with
    | none => exact mirrored
    | some next => exact mirrored.step heeds done

theorem mirrored_start (once : (listed.map (·.id)).Nodup) :
    Mirrored listed (Requests.start listed).shared (Requests.start listed).untold where
  shows := by
    have all : (listed.filter fun ws => ws.id ∉ (Requests.start listed).untold) =
        listed := filter_eq_self.mpr fun ws _ => decide_eq_true not_mem_nil
    exact congrArg (map (·.unnumbered)) all
  once := once
  used := fun _ come => mem_append_left _ (come.resolve_right not_mem_nil)

theorem mirrored_run (once : (listed.map (·.id)).Nodup) {events : List (Event Operation Unit)}
    (heedful : HeedfulRun listed events) :
    Mirrored listed ((Requests.start listed).run events).shared
      ((Requests.start listed).run events).untold :=
  Runs.Careful.kept (fun pool : Requests => Mirrored listed pool.shared pool.untold)
    (fun _ _ mirrored heeds => mirrored.after heeds) (mirrored_start once) heedful

/-- If each operation heeds what it has to, a client that follows every message shows the server's
workspaces in the server's order once no request is under way. -/
theorem clients_mirror_workspaces (listed : List Workspace) (once : (listed.map (·.id)).Nodup)
    (events : List (Event Operation Unit)) (heedful : HeedfulRun listed events)
    (finished : ((Requests.start listed).run events).Finished) :
    (((Requests.start listed).run events).shared.client listed).map (·.unnumbered) =
      ((Requests.start listed).run events).shared.workspaces.map (·.unnumbered) := by
  have mirrored := mirrored_run once heedful
  have all : ((((Requests.start listed).run events).shared.client listed).filter fun workspace =>
      workspace.id ∉ ((Requests.start listed).run events).untold) =
        ((Requests.start listed).run events).shared.client listed := by
    refine filter_eq_self.mpr fun workspace _ => decide_eq_true fun telling => ?_
    obtain ⟨ops, member, inOps⟩ := mem_untold.mp telling
    rw [List.isEmpty_iff.mp (finished ops member)] at inOps
    exact not_mem_nil inOps
  exact all ▸ mirrored.shows

def remote (id : String) (order : Nat) : Workspace :=
  { id, name := id, path := "/" ++ id, order, connectionId := some "ssh", abbr := none
    color := none }

def threeListed : List Workspace := [remote "a" 0, remote "b" 1, remote "c" 2]

/-- Another reorder of all workspaces comes before the clients are told of a deleted one. -/
def overtaken : List (Event Operation Unit) :=
  [.request (.delete "a"), .step 0 (), .request (.reorder ["c", "b", "c"]), .step 1 (),
    .request (.create {} { path := "/d", connectionId := some "ssh" } "d"), .step 2 (),
    .step 0 ()]

theorem clients_mirror_overtaken :
    (((Requests.start threeListed).run overtaken).shared.client threeListed).map (·.unnumbered) =
      ((Requests.start threeListed).run overtaken).shared.workspaces.map (·.unnumbered) :=
  clients_mirror_workspaces threeListed (by decide) overtaken (by decide +kernel)
    (by decide +kernel)

/-- A workspace is deleted, and after that the last one of the others is put in front. -/
def putInFront : List (Event Operation Unit) :=
  [.request (.delete "a"), .step 0 (), .step 0 (), .request (.reorder ["c"]), .step 1 ()]

/-- An update that changes the connection and has no path. -/
def refusedUpdate : List (Event Operation Unit) :=
  [.request (.update {} "a" { path := some " ", connectionId := some "other" }), .step 0 ()]

theorem client_putInFront :
    ((Requests.start threeListed).run putInFront).shared.client threeListed =
      [remote "c" 0, remote "b" 1] :=
  calc ((Requests.start threeListed).run putInFront).shared.client threeListed
    _ = [remote "b" 1, remote "c" 0].mergeSort fun first second => first.order ≤ second.order := rfl
    _ = [remote "c" 0, remote "b" 1] :=
      mergeSort_eq_of_keys Workspace.order (Perm.swap _ _ _) rfl

theorem workspaces_putInFront : ((Requests.start threeListed).run putInFront).shared.workspaces =
      [remote "b" 0, remote "c" 0] :=
  calc ((Requests.start threeListed).run putInFront).shared.workspaces
    _ = [remote "b" 0, remote "c" 0].mergeSort fun first second => first.order ≤ second.order := rfl
    _ = [remote "b" 0, remote "c" 0] := mergeSort_of_pairwise (by decide)

/-- The numbers of a client have a gap where a workspace was deleted, so a reorder sorts them
otherwise; and a refused update changes the connection of a workspace without a message. -/
theorem clients_stray : ((Requests.start threeListed).run putInFront).Finished ∧
    (((Requests.start threeListed).run putInFront).shared.client threeListed).map (·.id) =
      ["c", "b"] ∧
    ((Requests.start threeListed).run putInFront).shared.workspaces.map (·.id) = ["b", "c"] ∧
    ((Requests.start threeListed).run refusedUpdate).Finished ∧
    (((Requests.start threeListed).run refusedUpdate).shared.client threeListed).map
      (·.connectionId) = [some "ssh", some "ssh", some "ssh"] ∧
    ((Requests.start threeListed).run refusedUpdate).shared.workspaces.map (·.connectionId) =
      [some "other", some "ssh", some "ssh"] := by
  rw [client_putInFront, workspaces_putInFront]
  decide +kernel

end Dinotty.WorkspaceMgmt
