/-
This file is the list of workspaces. No two have one path over one connection, their order numbers
are their positions, and reordering places the listed ones in front, in every run in which no
connection is changed onto another workspace's path and every list of a reorder names the workspaces
that are in front already.
-/

import Dinotty.Workspace.Util

namespace Dinotty.WorkspaceMgmt

open FileTree List Option

/-! ### Workspaces -/

structure Workspace where
  id : String
  name : String
  path : String
  order : Nat
  connectionId : Option String
  abbr : Option String
  color : Option String
  deriving DecidableEq

structure Rejection where
  status : Nat
  error : String
  deriving DecidableEq

def workspacePalette : List String :=
  ["#E06C75", "#D19A66", "#E5C07B", "#98C379", "#56B6C2", "#61AFEF", "#C678DD"]

def fnv1a32 (bytes : List UInt8) : UInt32 :=
  bytes.foldl (fun hash byte => (hash ^^^ byte.toUInt32) * 0x01000193) 0x811c9dc5

def paletteColorFor (id : String) : String :=
  workspacePalette.getD ((fnv1a32 id.toUTF8.data.toList) % 7).toNat ""

def isControl (c : Char) : Bool := c.toNat < 0x20 || (0x7F ≤ c.toNat && c.toNat < 0xA0)

def isMeaninglessChar (c : Char) : Bool :=
  isControl c || Chars.isWhitespace c ||
    c ∈ ['\u200B', '\u200C', '\u200D', '\u2060', '\uFEFF']

def normalizeAbbr (raw : String) : Option String :=
  let normalized := (raw.toList.filter fun c => !isMeaninglessChar c).take 3
  if normalized = [] then none else some (String.ofList normalized)

def isValidHex6 (text : String) : Bool :=
  text.utf8ByteSize = 7 && text.toList.head? = some '#' &&
    text.toList.tail.all fun c => (Chars.hexValue c).isSome

def toUpperAscii (c : Char) : Char :=
  if 97 ≤ c.toNat ∧ c.toNat ≤ 122 then Char.ofNat (c.toNat - 32) else c

/-- A color in capitals. A valid one has only ASCII characters. -/
def normalizeColor (raw : String) : Option String :=
  if isValidHex6 raw then some (String.ofList (raw.toList.map toUpperAscii)) else none

def trim (text : String) : String := String.ofList (Chars.trim text.toList)

def trimEndSlashes (text : List Char) : List Char := (text.reverse.dropWhile (· = '/')).reverse

/-- The components of a path, without those that stand for where it is. -/
def components (text : List Char) : List FileName :=
  (segments text).filter fun segment => segment ≠ [] ∧ segment ≠ currentName

/-- The last component, which names the workspace. -/
def deriveName (path : String) : String :=
  match (components (trimEndSlashes path.toList)).getLast? with
  | some name => if name = parentName then "root" else String.ofList name
  | none => "root"

/-! ### Paths -/

def sensitiveDirs : List String :=
  ["/", "/etc", "/sys", "/proc", "/dev", "/bin", "/sbin", "/usr"]

def isSensitive (path : FilePath) : Bool :=
  sensitiveDirs.any fun sensitive =>
    sensitive ≠ "/" && decide (components sensitive.toList <+: path)

def isSensitiveWorkspaceTarget (path : FilePath) : Bool := path = [] || isSensitive path

def display (location : FilePath) : String :=
  String.ofList ('/' :: List.intercalate ['/'] location)

/-- The directory that a path of a request names. It is held against the sensitive directories as it
is written and resolved. -/
def validateWorkspacePath (tree : Workspace.Tree) (reason : String) (path : String) :
    Except String String :=
  let trimmed := Chars.trim path.toList
  if trimmed = [] then .error "path cannot be empty"
  else if ¬isAbsolute trimmed then .error "path must be absolute"
  else
    let rawTrimmed := trimEndSlashes trimmed
    if isSensitiveWorkspaceTarget (components rawTrimmed) then
      .error ("cannot use sensitive system directory: " ++
        (if rawTrimmed = [] then "/" else String.ofList rawTrimmed))
    else
      match tree.canonicalize (segments trimmed) with
      | none => .error ("invalid path: " ++ reason)
      | some canonical =>
          if ¬tree.isDirectoryAt canonical then .error "path is not a directory"
          else if isSensitiveWorkspaceTarget canonical then
            .error ("cannot use sensitive system directory: " ++ display canonical)
          else .ok (display canonical)

/-! ### Requests -/

structure CreateWorkspaceReq where
  path : String
  name : Option String := none
  connectionId : Option String := none
  abbr : Option String := none
  color : Option String := none

structure UpdateWorkspaceReq where
  name : Option String := none
  path : Option String := none
  connectionId : Option String := none
  abbr : Option String := none
  color : Option String := none

def alreadyExists : Rejection :=
  { status := 409, error := "workspace with this path already exists" }

def emptyPath : Rejection := { status := 400, error := "path cannot be empty" }

def notFound : Rejection := { status := 404, error := "workspace not found" }

def asOrder (number : Nat) : Nat := number % 2 ^ 32

/-- What a request finds in the file system: the tree, and why a path is not resolved. -/
structure Files where
  tree : Workspace.Tree := {}
  reason : String := ""

variable (files : Files)

/-- The path of a new workspace: a remote one as it is, a local one resolved. -/
def newPath (req : CreateWorkspaceReq) : Except Rejection String :=
  if req.connectionId.isSome then
    if trim req.path = "" then .error emptyPath else .ok (trim req.path)
  else
    (validateWorkspacePath files.tree files.reason req.path).mapError fun error =>
      { status := 400, error }

def createWorkspace (workspaces : List Workspace) (req : CreateWorkspaceReq) (id : String) :
    List Workspace × Except Rejection Workspace :=
  match newPath files req with
  | .error rejection => (workspaces, .error rejection)
  | .ok path =>
      if workspaces.any fun other => other.path = path ∧ other.connectionId = req.connectionId then
        (workspaces, .error alreadyExists)
      else
        let workspace : Workspace :=
          { id
            name := (req.name.filter fun name => trim name ≠ "").getD (deriveName path)
            path
            order := asOrder workspaces.length
            connectionId := req.connectionId
            abbr := req.abbr.bind normalizeAbbr
            color := some ((req.color.bind normalizeColor).getD (paletteColorFor id)) }
        (workspaces ++ [workspace], .ok workspace)

/-- Whether another workspace than the one at the index passes the test. -/
def anyOther (workspaces : List Workspace) (index : Nat) (test : Workspace → Bool) : Bool :=
  workspaces.zipIdx.any fun (other, position) => position ≠ index && test other

/-- The path that an update gives to a workspace. For a remote one it has to be free over its
connection, for a local one over any. -/
def updatedPath (workspaces : List Workspace) (index : Nat) (workspace : Workspace)
    (req : UpdateWorkspaceReq) (path : String) : Except Rejection String :=
  if (req.connectionId.or workspace.connectionId).isSome then
    if trim path = "" then .error emptyPath
    else if anyOther workspaces index fun other =>
        other.path = trim path ∧ other.connectionId = workspace.connectionId then
      .error alreadyExists
    else .ok (trim path)
  else
    match validateWorkspacePath files.tree files.reason path with
    | .error error => .error { status := 400, error }
    | .ok path =>
        if anyOther workspaces index fun other => other.path = path then .error alreadyExists
        else .ok path

/-- The workspace with another path, which names it unless the request does. -/
def withPath (workspace : Workspace) (req : UpdateWorkspaceReq) (path : String) : Workspace :=
  { workspace with
    path
    name := if req.name = none then deriveName path else workspace.name }

/-- The workspace with the name, the abbreviation and the color of a request. -/
def withLooks (workspace : Workspace) (req : UpdateWorkspaceReq) : Workspace :=
  { workspace with
    name := ((req.name.map trim).filter (· ≠ "")).getD workspace.name
    abbr := match req.abbr with
      | some raw => normalizeAbbr raw
      | none => workspace.abbr
    color := match req.color with
      | some raw => some ((normalizeColor raw).getD (paletteColorFor workspace.id))
      | none => workspace.color }

/-- Update a workspace. Its connection is changed at once, and stays so when the path is refused. -/
def updateWorkspace (workspaces : List Workspace) (id : String) (req : UpdateWorkspaceReq) :
    List Workspace × Except Rejection Workspace :=
  let index := workspaces.findIdx (·.id = id)
  match workspaces[index]? with
  | none => (workspaces, .error notFound)
  | some found =>
      let workspace := { found with connectionId := req.connectionId.or found.connectionId }
      match req.path with
      | none =>
          let workspace := withLooks workspace req
          (workspaces.set index workspace, .ok workspace)
      | some path =>
          match updatedPath files workspaces index workspace req path with
          | .error rejection => (workspaces.set index workspace, .error rejection)
          | .ok path =>
              let workspace := withLooks (withPath workspace req path) req
              (workspaces.set index workspace, .ok workspace)

def renumber (workspaces : List Workspace) : List Workspace :=
  workspaces.zipIdx.map fun (workspace, index) => { workspace with order := asOrder index }

def deleteWorkspace (workspaces : List Workspace) (id : String) :
    List Workspace × Except Rejection Unit :=
  let index := workspaces.findIdx (·.id = id)
  if index < workspaces.length then (renumber (workspaces.eraseIdx index), .ok ())
  else (workspaces, .error notFound)

/-- Give a number to the first workspace with the id. -/
def setOrder (workspaces : List Workspace) (id : String) (order : Nat) : List Workspace :=
  workspaces.modify (workspaces.findIdx (·.id = id)) fun workspace => { workspace with order }

/-- Number the listed workspaces by their places in the list, and sort all by their numbers. -/
def reorderWorkspaces (workspaces : List Workspace) (ids : List String) :
    List Workspace × Except Rejection Unit :=
  match ids.find? fun id => !workspaces.any fun workspace => workspace.id = id with
  | some id => (workspaces, .error { status := 400, error := "workspace not found: " ++ id })
  | none =>
      let numbered := ids.zipIdx.foldl
        (fun workspaces (id, index) => setOrder workspaces id (asOrder index)) workspaces
      (numbered.mergeSort fun first second => first.order ≤ second.order, .ok ())

/-! ### Runs -/

inductive Operation where
  | create (files : Files) (req : CreateWorkspaceReq) (id : String)
  | update (files : Files) (id : String) (req : UpdateWorkspaceReq)
  | delete (id : String)
  | reorder (ids : List String)

def step (workspaces : List Workspace) : Operation → List Workspace
  | .create files req id => (createWorkspace files workspaces req id).1
  | .update files id req => (updateWorkspace files workspaces id req).1
  | .delete id => (deleteWorkspace workspaces id).1
  | .reorder ids => (reorderWorkspaces workspaces ids).1

def run (operations : List Operation) : List Workspace := operations.foldl step []

/-! ### What holds of the list -/

def Workspace.target (workspace : Workspace) : String × Option String :=
  (workspace.path, workspace.connectionId)

/-- No two workspaces have the same path over the same connection, and their order numbers are their
positions. -/
structure Tidy (workspaces : List Workspace) : Prop where
  targets : (workspaces.map (·.target)).Nodup
  orders : workspaces.map (·.order) = List.range workspaces.length

/-- The listed workspaces are in front, in the order of their first mention, and the others behind
them as before. -/
def Placed (before : List Workspace) (ids : List String) (after : List Workspace) : Prop :=
  after.map (·.id) = ids.eraseDups ++ (before.map (·.id)).filter fun id => decide (id ∉ ids)

/-- A tidy list of workspaces with different ids, not more than an order number can count. -/
structure Kept (workspaces : List Workspace) : Prop extends Tidy workspaces where
  ids : (workspaces.map (·.id)).Nodup
  bounded : workspaces.length ≤ 2 ^ 32

/-- A new workspace has a new id and there is room for it; a new connection that comes without a new
path, or with one that is refused, does not meet another workspace with the old path; and the list
of a reorder that is not refused names each of the workspaces that are in front already once. -/
def Careful (workspaces : List Workspace) : Operation → Prop
  | .create _ _ id => id ∉ workspaces.map (·.id) ∧ workspaces.length < 2 ^ 32
  | .update _ id req =>
      ∀ workspace ∈ workspaces, workspace.id = id →
        ∀ connection, req.connectionId = some connection →
        (∀ path, req.path = some path → trim path = "" ∨ ∃ other ∈ workspaces, other.id ≠ id ∧
          other.target = (trim path, some connection)) →
        ∀ other ∈ workspaces, other.id ≠ id → other.target ≠ (workspace.path, some connection)
  | .delete _ => True
  | .reorder ids =>
      (∃ id ∈ ids, id ∉ workspaces.map (·.id)) ∨
        ids.Nodup ∧ ids.Perm ((workspaces.map (·.id)).take ids.length)

theorem asOrder_of_lt {number : Nat} (bound : number < 2 ^ 32) : asOrder number = number :=
  Nat.mod_eq_of_lt bound

/-! ### Creating and deleting -/

variable {workspaces : List Workspace}

theorem Kept.create (kept : Kept workspaces) (files : Files) (req : CreateWorkspaceReq)
    {id : String} (unused : id ∉ workspaces.map (·.id)) (room : workspaces.length < 2 ^ 32) :
    Kept (createWorkspace files workspaces req id).1 := by
  unfold createWorkspace
  split
  · exact kept
  next path _ =>
    split
    · exact kept
    next free =>
      constructor
      · constructor
        · rw [map_append, map_singleton]
          refine kept.targets.append (nodup_singleton _) (disjoint_singleton.mpr ?_)
          intro taken
          obtain ⟨other, mem, same⟩ := mem_map.mp taken
          obtain ⟨samePath, sameConnection⟩ := Prod.mk.inj same
          exact free (any_eq_true.mpr
            ⟨other, mem, decide_eq_true ⟨samePath, sameConnection⟩⟩)
        · rw [map_append, map_singleton, kept.orders, length_append,
            length_singleton, range_succ, asOrder_of_lt room]
      · rw [map_append, map_singleton]
        exact kept.ids.append (nodup_singleton _) (disjoint_singleton.mpr unused)
      · rw [length_append, length_singleton]
        exact room

theorem map_renumber {Field : Type} (field : Workspace → Field)
    (same : ∀ ws order, field { ws with order } = field ws)
    (workspaces : List Workspace) : (renumber workspaces).map field = workspaces.map field := by
  rw [renumber, List.map_map]
  conv_rhs => rw [← zipIdx_map_fst 0 workspaces, List.map_map]
  exact map_congr_left fun pair _ => same _ _

theorem orders_renumber (bound : workspaces.length ≤ 2 ^ 32) :
    (renumber workspaces).map (·.order) = List.range workspaces.length := by
  rw [renumber, List.map_map]
  refine ext_getElem (by simp) fun i inMap inRange => ?_
  rw [length_range] at inRange
  simp [asOrder_of_lt (Nat.lt_of_lt_of_le inRange bound)]

theorem Kept.delete (kept : Kept workspaces) (id : String) :
    Kept (deleteWorkspace workspaces id).1 := by
  unfold deleteWorkspace
  dsimp only
  split
  · have part := eraseIdx_sublist workspaces (workspaces.findIdx (·.id = id))
    have shorter : (workspaces.eraseIdx (workspaces.findIdx (·.id = id))).length ≤ 2 ^ 32 :=
      Nat.le_trans part.length_le kept.bounded
    generalize workspaces.eraseIdx (workspaces.findIdx (·.id = id)) = left at part shorter
    have length : (renumber left).length = left.length := by simp [renumber]
    constructor
    · constructor
      · rw [map_renumber _ fun _ _ => rfl]
        exact kept.targets.sublist (part.map _)
      · rw [length, orders_renumber shorter]
    · rw [map_renumber _ fun _ _ => rfl]
      exact kept.ids.sublist (part.map _)
    · rw [length]
      exact shorter
  · exact kept

/-! ### Updating -/

theorem anyOther_eq_true_iff {i : Nat} {test : Workspace → Bool} :
    anyOther workspaces i test = true ↔
      ∃ pos other, workspaces[pos]? = some other ∧ pos ≠ i ∧ test other = true := by
  rw [anyOther, List.any_eq_true]
  constructor
  · rintro ⟨⟨other, pos⟩, mem, found⟩
    rw [Bool.and_eq_true, decide_eq_true_iff] at found
    exact ⟨pos, other, by simpa using mem_zipIdx_iff_getElem?.mp mem, found⟩
  · rintro ⟨pos, other, held, away, passes⟩
    refine ⟨(other, pos), mem_zipIdx_iff_getElem?.mpr (by simpa using held), ?_⟩
    rw [Bool.and_eq_true, decide_eq_true_iff]
    exact ⟨away, passes⟩

theorem nodup_set {Item : Type} {items : List Item} (nodup : items.Nodup) {i : Nat} {new : Item}
    (fresh : ∀ pos, pos ≠ i → items[pos]? ≠ some new) :
    (items.set i new).Nodup := by
  rw [nodup_iff_getElem?_ne_getElem?] at nodup ⊢
  intro first second before bound same
  rw [length_set] at bound
  by_cases atFirst : first = i
  · rw [atFirst, getElem?_set_self (by omega), getElem?_set_ne (by omega)] at same
    exact fresh second (by omega) same.symm
  · by_cases atSecond : second = i
    · rw [atSecond, getElem?_set_self (by omega), getElem?_set_ne (by omega)] at same
      exact fresh first atFirst same
    · rw [getElem?_set_ne (by omega), getElem?_set_ne (by omega)] at same
      exact nodup first second before bound same

theorem map_set_of_same {Item Field : Type} (field : Item → Field) {items : List Item}
    {i : Nat} {old new : Item} (found : items[i]? = some old)
    (same : field new = field old) : (items.set i new).map field = items.map field := by
  obtain ⟨bound, rfl⟩ := List.getElem?_eq_some_iff.mp found
  have inMap : i < (items.map field).length := by
    rw [length_map]
    exact bound
  rw [map_set, same, ← getElem_map field (h := inMap), set_getElem_self]

theorem Kept.set (kept : Kept workspaces) {i : Nat} {old new : Workspace}
    (found : workspaces[i]? = some old) (id : new.id = old.id) (order : new.order = old.order)
    (apart : ∀ pos other, workspaces[pos]? = some other → pos ≠ i →
      other.target ≠ new.target) : Kept (workspaces.set i new) := by
  constructor
  · constructor
    · rw [map_set]
      refine nodup_set kept.targets fun pos away held => ?_
      rw [getElem?_map, map_eq_some_iff] at held
      obtain ⟨other, atPosition, same⟩ := held
      exact apart pos other atPosition away same
    · rw [map_set_of_same _ found order, kept.orders, length_set]
  · rw [map_set_of_same _ found id]
    exact kept.ids
  · rw [length_set]
    exact kept.bounded

theorem Kept.ids_ne (kept : Kept workspaces) {first second : Nat} {one other : Workspace}
    (atFirst : workspaces[first]? = some one) (atSecond : workspaces[second]? = some other)
    (away : first ≠ second) : one.id ≠ other.id := by
  intro same
  have bound : first < (workspaces.map (·.id)).length := by
    rw [length_map]
    exact (List.getElem?_eq_some_iff.mp atFirst).1
  refine away ((getElem?_inj bound kept.ids).mp ?_)
  rw [getElem?_map, getElem?_map, atFirst, atSecond, map_some, map_some, same]

theorem Kept.targets_ne (kept : Kept workspaces) {first second : Nat} {one other : Workspace}
    (atFirst : workspaces[first]? = some one) (atSecond : workspaces[second]? = some other)
    (away : first ≠ second) : one.target ≠ other.target := by
  intro same
  have bound : first < (workspaces.map (·.target)).length := by
    rw [length_map]
    exact (List.getElem?_eq_some_iff.mp atFirst).1
  refine away ((getElem?_inj bound kept.targets).mp ?_)
  rw [getElem?_map, getElem?_map, atFirst, atSecond, map_some, map_some, same]

variable {id : String}

theorem id_of_findIdx {found : Workspace}
    (held : workspaces[workspaces.findIdx (·.id = id)]? = some found) : found.id = id := by
  obtain ⟨bound, rfl⟩ := List.getElem?_eq_some_iff.mp held
  exact of_decide_eq_true (findIdx_getElem (w := bound))

theorem Kept.apart_of_connection (kept : Kept workspaces) {files : Files} {id : String}
    {req : UpdateWorkspaceReq} (careful : Careful workspaces (.update files id req)) {i : Nat}
    {found : Workspace} (held : workspaces[i]? = some found) (named : found.id = id)
    (refused : ∀ connection, req.connectionId = some connection → ∀ path, req.path = some path →
      trim path = "" ∨ ∃ other ∈ workspaces, other.id ≠ id ∧
        other.target = (trim path, some connection))
    {pos : Nat} {other : Workspace} (atPosition : workspaces[pos]? = some other)
    (away : pos ≠ i) :
    other.target ≠ (found.path, req.connectionId.or found.connectionId) := by
  cases given : req.connectionId with
  | none => exact kept.targets_ne atPosition held away
  | some connection =>
    refine careful found (mem_of_getElem? held) named connection given
      (refused connection given) other (mem_of_getElem? atPosition) ?_
    exact named ▸ kept.ids_ne atPosition held away

theorem apart_of_updatedPath {files : Files} {i : Nat} {ws : Workspace}
    {req : UpdateWorkspaceReq} {path stored : String}
    (allowed : updatedPath files workspaces i ws req path = .ok stored)
    {pos : Nat} {other : Workspace} (atPosition : workspaces[pos]? = some other)
    (away : pos ≠ i) : other.target ≠ (stored, ws.connectionId) := by
  intro same
  obtain ⟨samePath, sameConnection⟩ := Prod.mk.inj same
  unfold updatedPath at allowed
  split at allowed
  · split at allowed
    · cases allowed
    · split at allowed
      · cases allowed
      next free =>
        cases allowed
        exact free (anyOther_eq_true_iff.mpr ⟨pos, other, atPosition, away,
          decide_eq_true ⟨samePath, sameConnection⟩⟩)
  · split at allowed
    · cases allowed
    · split at allowed
      · cases allowed
      next free =>
        cases allowed
        exact free (anyOther_eq_true_iff.mpr ⟨pos, other, atPosition, away,
          decide_eq_true samePath⟩)

theorem refused_of_updatedPath {files : Files} {i : Nat} {ws : Workspace}
    {req : UpdateWorkspaceReq} {path connection : String} {rejection : Rejection}
    (given : req.connectionId = some connection)
    (connected : ws.connectionId = some connection)
    (refused : updatedPath files workspaces i ws req path = .error rejection) :
    trim path = "" ∨ ∃ pos other, workspaces[pos]? = some other ∧ pos ≠ i ∧
      other.target = (trim path, some connection) := by
  unfold updatedPath at refused
  rw [given] at refused
  split at refused
  · split at refused
    next empty =>
      exact .inl empty
    · split at refused
      next taken =>
        obtain ⟨pos, other, atPosition, away, passes⟩ := anyOther_eq_true_iff.mp taken
        obtain ⟨samePath, sameConnection⟩ := of_decide_eq_true passes
        exact .inr ⟨pos, other, atPosition, away,
          Prod.ext samePath (sameConnection.trans connected)⟩
      · cases refused
  next unconnected =>
    exact absurd rfl unconnected

theorem Kept.update (kept : Kept workspaces) {files : Files} {id : String}
    {req : UpdateWorkspaceReq} (careful : Careful workspaces (.update files id req)) :
    Kept (updateWorkspace files workspaces id req).1 := by
  unfold updateWorkspace
  dsimp only
  split
  · exact kept
  next found held =>
    have named := id_of_findIdx held
    generalize workspaces.findIdx (·.id = id) = i at held
    have connected := fun refused => @Kept.apart_of_connection _ kept files id req careful i
      found held named refused
    split
    next pathless =>
      refine kept.set held rfl rfl fun pos other atPosition away => ?_
      refine connected (fun _ _ path given => ?_) atPosition away
      cases pathless.symm.trans given
    next path given =>
      split
      next rejection refused =>
        refine kept.set held rfl rfl fun pos other atPosition away => ?_
        refine connected (fun conn givenConnection path' given' => ?_) atPosition away
        cases given.symm.trans given'
        refine (refused_of_updatedPath givenConnection (by rw [givenConnection]; rfl)
          refused).imp_right ?_
        rintro ⟨pos, other, atPosition, away, same⟩
        exact ⟨other, mem_of_getElem? atPosition, named ▸ kept.ids_ne atPosition held away, same⟩
      next stored allowed =>
        refine kept.set held rfl rfl fun pos other atPosition away => ?_
        exact apart_of_updatedPath allowed atPosition away

/-! ### Reordering -/

theorem mergeSort_eq_of_keys {Item : Type} (key : Item → Nat) {items target : List Item}
    (perm : items.Perm target) (keys : target.map key = range target.length) :
    (items.mergeSort fun first second => key first ≤ key second) = target := by
  have increasing : target.Pairwise fun first second => key first < key second := by
    rw [← pairwise_map (f := key) (R := (· < ·)), keys]
    exact pairwise_lt_range
  have nodup : (target.map key).Nodup := keys ▸ nodup_range
  have sorted : (items.mergeSort fun first second => key first ≤ key second).Pairwise
      fun first second => decide (key first ≤ key second) = true :=
    pairwise_mergeSort (fun first second third => by simpa using Nat.le_trans)
      (fun first second => by simpa using Nat.le_total (key first) (key second)) items
  have same := (mergeSort_perm items fun first second => key first ≤ key second).trans perm
  refine same.eq_of_pairwise (fun first second inFirst inSecond before after => ?_) sorted
    (increasing.imp fun before => decide_eq_true (Nat.le_of_lt before))
  have inTarget : first ∈ target := same.mem_iff.mp inFirst
  exact inj_on_of_nodup_map nodup inTarget inSecond
    (Nat.le_antisymm (of_decide_eq_true before) (of_decide_eq_true after))

def numbered (id : String) (order : Nat) (workspace : Workspace) : Workspace :=
  if workspace.id = id then { workspace with order } else workspace

theorem id_numbered (id : String) (order : Nat) (ws : Workspace) :
    (numbered id order ws).id = ws.id := by
  unfold numbered
  split <;> rfl

theorem setOrder_eq (once : (workspaces.map (·.id)).Nodup) (id : String) (order : Nat) :
    setOrder workspaces id order = workspaces.map (numbered id order) := by
  induction workspaces with
  | nil => rfl
  | cons ws rest ih =>
    obtain ⟨unlisted, onceRest⟩ := nodup_cons.mp once
    have further := ih onceRest
    rw [setOrder] at further ⊢
    rw [findIdx_cons, map_cons, numbered]
    by_cases here : ws.id = id
    · rw [if_pos here, decide_eq_true here]
      have untouched : rest.map (numbered id order) = rest := by
        refine (map_congr_left fun other mem => ?_).trans (map_id rest)
        refine if_neg fun same => unlisted ?_
        exact mem_map.mpr ⟨other, mem, same.trans here.symm⟩
      rw [untouched]
      rfl
    · rw [if_neg here, decide_eq_false here]
      exact congrArg (ws :: ·) further

/-- The workspace with the number that a list of ids gives to it, if it names it. -/
def givenOrder (start : Nat) (ids : List String) (workspace : Workspace) : Workspace :=
  if workspace.id ∈ ids then { workspace with order := start + ids.idxOf workspace.id }
  else workspace

theorem givenOrder_cons {rest : List String} (unlisted : id ∉ rest) (start : Nat)
    (workspace : Workspace) :
    givenOrder (start + 1) rest (numbered id start workspace) =
      givenOrder start (id :: rest) workspace := by
  unfold givenOrder
  rw [id_numbered]
  by_cases here : workspace.id = id
  · rw [if_neg (here ▸ unlisted), if_pos (here ▸ mem_cons_self), numbered, if_pos here, here,
      idxOf_cons_self]
    rfl
  · rw [numbered, if_neg here, idxOf_cons_ne _ (Ne.symm here)]
    by_cases listed : workspace.id ∈ rest
    · rw [if_pos listed, if_pos (mem_cons_of_mem id listed), Nat.add_assoc, Nat.add_comm 1]
    · rw [if_neg listed, if_neg fun mem => (mem_cons.mp mem).elim here listed]

variable {ids : List String}

theorem foldl_setOrder (once : ids.Nodup) {start : Nat}
    (bound : start + ids.length ≤ 2 ^ 32) (named : (workspaces.map (·.id)).Nodup) :
    (ids.zipIdx start).foldl
      (fun workspaces (id, i) => setOrder workspaces id (asOrder i)) workspaces =
      workspaces.map (givenOrder start ids) := by
  induction ids generalizing start workspaces with
  | nil => exact (map_id workspaces).symm
  | cons id rest ih =>
    obtain ⟨unlisted, onceRest⟩ := nodup_cons.mp once
    rw [length_cons] at bound
    have namedNext : ((workspaces.map (numbered id start)).map (·.id)).Nodup := by
      rw [List.map_map]
      exact (map_congr_left fun ws _ => id_numbered id start ws) ▸ named
    rw [zipIdx_cons, foldl_cons]
    dsimp only
    rw [setOrder_eq named, asOrder_of_lt (by omega), ih onceRest (by omega) namedNext, List.map_map]
    exact map_congr_left fun ws _ => givenOrder_cons unlisted start ws

/-- The listed workspaces, in the order of the list, and the others behind them. -/
def arranged (workspaces : List Workspace) (ids : List String) : List Workspace :=
  ids.filterMap (fun id => workspaces.find? (·.id = id)) ++ workspaces.drop ids.length

theorem find?_id {ws : Workspace} (found : workspaces.find? (·.id = id) = some ws) :
    ws ∈ workspaces ∧ ws.id = id := by
  have passes := find?_some found
  exact ⟨mem_of_find?_eq_some found, of_decide_eq_true passes⟩

theorem find?_of_id (known : id ∈ workspaces.map (·.id)) :
    ∃ workspace, workspaces.find? (·.id = id) = some workspace := by
  obtain ⟨workspace, mem, same⟩ := mem_map.mp known
  exact isSome_iff_exists.mp
    (find?_isSome.mpr ⟨workspace, mem, decide_eq_true (p := workspace.id = id) same⟩)

theorem map_id_filterMap_find (known : ∀ id ∈ ids, id ∈ workspaces.map (·.id)) :
    (ids.filterMap fun id => workspaces.find? (·.id = id)).map (·.id) = ids := by
  induction ids with
  | nil => rfl
  | cons id rest ih =>
    obtain ⟨ws, found⟩ := find?_of_id (known id mem_cons_self)
    rw [filterMap_cons, found, map_cons,
      ih fun other listed => known other (mem_cons_of_mem _ listed),
      (find?_id found).2]

theorem perm_arranged (named : (workspaces.map (·.id)).Nodup)
    (once : ids.Nodup) (front : ids.Perm ((workspaces.map (·.id)).take ids.length)) :
    workspaces.Perm (arranged workspaces ids) := by
  have known : ∀ id ∈ ids, id ∈ workspaces.map (·.id) := fun id listed =>
    mem_of_mem_take (front.mem_iff.mp listed)
  have foundIds := map_id_filterMap_find known
  have perm : (workspaces.take ids.length).Perm
      (ids.filterMap fun id => workspaces.find? (·.id = id)) := by
    have nodupTake : (workspaces.take ids.length).Nodup :=
      (Nodup.of_map _ named).sublist (take_sublist _ _)
    have nodupFound : (ids.filterMap fun id => workspaces.find? (·.id = id)).Nodup := by
      refine Nodup.of_map (·.id) ?_
      rw [foundIds]
      exact once
    refine (perm_ext_iff_of_nodup nodupTake nodupFound).mpr fun workspace => ?_
    have only : ∀ other ∈ workspaces, other.id = workspace.id → workspace ∈ workspaces →
        other = workspace := fun other inList same inList' =>
      inj_on_of_nodup_map named inList inList' same
    rw [mem_filterMap]
    constructor
    · intro inFront
      have inList := mem_of_mem_take inFront
      have listed : workspace.id ∈ ids := by
        rw [front.mem_iff, ← map_take]
        exact mem_map.mpr ⟨workspace, inFront, rfl⟩
      refine ⟨workspace.id, listed, ?_⟩
      obtain ⟨other, found⟩ := find?_of_id (mem_map.mpr ⟨workspace, inList, rfl⟩)
      rw [found, only other (find?_id found).1 (find?_id found).2 inList]
    · rintro ⟨id, listed, found⟩
      obtain ⟨inList, named'⟩ := find?_id found
      have inFront := front.mem_iff.mp listed
      rw [← map_take] at inFront
      obtain ⟨other, mem, same⟩ := mem_map.mp inFront
      exact only other (mem_of_mem_take mem) (same.trans named'.symm) inList ▸ mem
  conv_lhs => rw [← take_append_drop ids.length workspaces]
  exact perm.append_right _

theorem not_listed_of_mem_drop (named : (workspaces.map (·.id)).Nodup)
    (front : ids.Perm ((workspaces.map (·.id)).take ids.length)) {ws : Workspace}
    (behind : ws ∈ workspaces.drop ids.length) : ws.id ∉ ids := by
  intro listed
  have inFront := front.mem_iff.mp listed
  have inDrop : ws.id ∈ (workspaces.map (·.id)).drop ids.length := by
    rw [← map_drop]
    exact mem_map.mpr ⟨ws, behind, rfl⟩
  rw [← take_append_drop ids.length (workspaces.map (·.id))] at named
  exact disjoint_of_nodup_append named inFront inDrop

theorem length_le_of_front (front : ids.Perm ((workspaces.map (·.id)).take ids.length)) :
    ids.length ≤ workspaces.length := by
  have same := front.length_eq
  rw [length_take, length_map] at same
  omega

theorem known_of_front (front : ids.Perm ((workspaces.map (·.id)).take ids.length)) :
    ∀ id ∈ ids, id ∈ workspaces.map (·.id) :=
  fun _ listed => mem_of_mem_take (front.mem_iff.mp listed)

/-- The arranged workspaces, numbered by the list, count up from zero. -/
theorem orders_arranged (kept : Kept workspaces) {ids : List String} (once : ids.Nodup)
    (front : ids.Perm ((workspaces.map (·.id)).take ids.length)) :
    ((arranged workspaces ids).map (givenOrder 0 ids)).map (·.order) = range workspaces.length := by
  have listed : ((ids.filterMap fun id => workspaces.find? (·.id = id)).map
      (givenOrder 0 ids)).map (·.order) = range ids.length := by
    have numbers : ((ids.filterMap fun id => workspaces.find? (·.id = id)).map
        (givenOrder 0 ids)).map (·.order) = ids.map fun id => ids.idxOf id := by
      refine Eq.trans ?_ (congrArg (map fun id => ids.idxOf id)
        (map_id_filterMap_find (known_of_front front)))
      rw [List.map_map, List.map_map]
      refine map_congr_left fun ws mem => ?_
      obtain ⟨id, inIds, found⟩ := mem_filterMap.mp mem
      have inList : ws.id ∈ ids := (find?_id found).2 ▸ inIds
      rw [Function.comp_apply, Function.comp_apply, givenOrder, if_pos inList, Nat.zero_add]
    rw [numbers]
    refine ext_getElem (by simp) fun i inMap inRange => ?_
    rw [getElem_map, getElem_range, once.idxOf_getElem]
  have others : ((workspaces.drop ids.length).map (givenOrder 0 ids)).map (·.order) =
      (range workspaces.length).drop ids.length := by
    rw [← kept.orders, ← map_drop, List.map_map]
    refine map_congr_left fun ws behind => ?_
    rw [Function.comp_apply, givenOrder, if_neg (not_listed_of_mem_drop kept.ids front behind)]
  rw [arranged, map_append, map_append, listed, others]
  conv_rhs => rw [← take_append_drop ids.length (range workspaces.length)]
  rw [take_range, Nat.min_eq_left (length_le_of_front front)]

theorem reorderWorkspaces_front (kept : Kept workspaces) {ids : List String} (once : ids.Nodup)
    (front : ids.Perm ((workspaces.map (·.id)).take ids.length)) :
    (reorderWorkspaces workspaces ids).1 = (arranged workspaces ids).map (givenOrder 0 ids) := by
  have taken : ids.find? (fun id => !workspaces.any fun ws => ws.id = id) = none := by
    refine find?_eq_none.mpr fun id listed => ?_
    obtain ⟨ws, mem, same⟩ := mem_map.mp (known_of_front front id listed)
    simpa using ⟨ws, mem, same⟩
  have bound : 0 + ids.length ≤ 2 ^ 32 := by
    rw [Nat.zero_add]
    exact Nat.le_trans (length_le_of_front front) kept.bounded
  rw [reorderWorkspaces, taken]
  dsimp only
  rw [foldl_setOrder once bound kept.ids]
  refine mergeSort_eq_of_keys Workspace.order ((perm_arranged kept.ids once front).map _) ?_
  rw [orders_arranged kept once front, length_map, (perm_arranged kept.ids once front).length_eq]

theorem target_givenOrder (start : Nat) (ids : List String) (ws : Workspace) :
    (givenOrder start ids ws).target = ws.target := by
  unfold givenOrder
  split <;> rfl

theorem id_givenOrder (start : Nat) (ids : List String) (ws : Workspace) :
    (givenOrder start ids ws).id = ws.id := by
  unfold givenOrder
  split <;> rfl

theorem map_givenOrder {Field : Type} (field : Workspace → Field) {ids : List String}
    (same : ∀ ws, field (givenOrder 0 ids ws) = field ws)
    (items : List Workspace) :
    (items.map (givenOrder 0 ids)).map field = items.map field := by
  rw [List.map_map]
  exact map_congr_left fun ws _ => same ws

theorem reorderWorkspaces_unknown (unknown : ∃ id ∈ ids, id ∉ workspaces.map (·.id)) :
    (reorderWorkspaces workspaces ids).1 = workspaces ∧
      ∃ rejection, (reorderWorkspaces workspaces ids).2 = .error rejection := by
  obtain ⟨id, listed, absent⟩ := unknown
  have found : (ids.find? fun id => !workspaces.any fun ws => ws.id = id).isSome := by
    refine find?_isSome.mpr ⟨id, listed, ?_⟩
    rw [Bool.not_eq_true', List.any_eq_false]
    exact fun ws mem same =>
      absent (mem_map.mpr ⟨ws, mem, of_decide_eq_true same⟩)
  obtain ⟨first, isFirst⟩ := isSome_iff_exists.mp found
  rw [reorderWorkspaces, isFirst]
  exact ⟨rfl, _, rfl⟩

theorem Kept.reorder (kept : Kept workspaces) {ids : List String}
    (careful : Careful workspaces (.reorder ids)) : Kept (reorderWorkspaces workspaces ids).1 := by
  rcases careful with unknown | ⟨once, front⟩
  · rw [(reorderWorkspaces_unknown unknown).1]
    exact kept
  · rw [reorderWorkspaces_front kept once front]
    have perm := perm_arranged kept.ids once front
    have length : ((arranged workspaces ids).map (givenOrder 0 ids)).length =
        workspaces.length := by
      rw [length_map, perm.length_eq]
    constructor
    · constructor
      · rw [map_givenOrder _ (target_givenOrder 0 ids)]
        exact (perm.map _).nodup kept.targets
      · rw [orders_arranged kept once front, length]
    · rw [map_givenOrder _ (id_givenOrder 0 ids)]
      exact (perm.map _).nodup kept.ids
    · rw [length]
      exact kept.bounded

theorem eraseDups_of_nodup (once : ids.Nodup) : ids.eraseDups = ids := by
  induction ids with
  | nil => rfl
  | cons id rest ih =>
    obtain ⟨unlisted, onceRest⟩ := nodup_cons.mp once
    have others : rest.filter (fun other => !other == id) = rest := by
      refine filter_eq_self.mpr fun other mem => ?_
      rw [Bool.not_eq_true', beq_eq_false_iff_ne]
      exact fun same => unlisted (same ▸ mem)
    rw [eraseDups_cons, others, ih onceRest]

theorem placed_of_careful (kept : Kept workspaces) {ids : List String}
    (careful : Careful workspaces (.reorder ids))
    (taken : (reorderWorkspaces workspaces ids).2 = .ok ()) :
    Placed workspaces ids (reorderWorkspaces workspaces ids).1 := by
  rcases careful with unknown | ⟨once, front⟩
  · obtain ⟨rejection, refused⟩ := (reorderWorkspaces_unknown unknown).2
    cases taken.symm.trans refused
  · have known := known_of_front front
    have inFront : ((workspaces.take ids.length).map (·.id)).filter
        (fun id => decide (id ∉ ids)) = [] := by
      refine filter_eq_nil_iff.mpr fun id mem => ?_
      rw [map_take] at mem
      simpa using front.mem_iff.mpr mem
    have behind : ((workspaces.drop ids.length).map (·.id)).filter
        (fun id => decide (id ∉ ids)) = (workspaces.drop ids.length).map (·.id) := by
      refine filter_eq_self.mpr fun id mem => ?_
      obtain ⟨ws, inDrop, rfl⟩ := mem_map.mp mem
      exact decide_eq_true (not_listed_of_mem_drop kept.ids front inDrop)
    have others : (workspaces.map (·.id)).filter (fun id => decide (id ∉ ids)) =
        (workspaces.drop ids.length).map (·.id) := by
      conv_lhs => rw [← take_append_drop ids.length workspaces]
      rw [map_append, filter_append, inFront, behind, nil_append]
    rw [Placed, reorderWorkspaces_front kept once front, map_givenOrder _ (id_givenOrder 0 ids),
      arranged, map_append, map_id_filterMap_find known, others, eraseDups_of_nodup once]

/-- A run whose steps heed what they have to heed. -/
def CarefulRun (operations : List Operation) : Prop :=
  ∀ before operation after, operations = before ++ operation :: after →
    Careful (run before) operation

theorem Kept.step (kept : Kept workspaces) {op : Operation}
    (careful : Careful workspaces op) : Kept (step workspaces op) := by
  cases op with
  | create files req id => exact kept.create files req careful.1 careful.2
  | update files id req => exact kept.update careful
  | delete id => exact kept.delete id
  | reorder ids => exact kept.reorder careful

theorem kept_run {operations : List Operation} (careful : CarefulRun operations) :
    Kept (run operations) := by
  induction operations using reverseRecOn with
  | nil => exact ⟨⟨.nil, rfl⟩, .nil, Nat.zero_le _⟩
  | append_singleton before op ih =>
    have kept := ih fun first step rest same =>
      careful first step (rest ++ [op]) (by rw [same]; simp)
    rw [run, foldl_append]
    exact kept.step (careful before op [] rfl)

def createRemote (path connection id : String) : Operation :=
  .create {} { path, connectionId := some connection } id

/-- The connection of a workspace is changed to the one that another has under the same path. -/
def changeConnection : List Operation :=
  [createRemote "/srv" "a" "w1", createRemote "/srv" "b" "w2",
    .update {} "w2" { connectionId := some "a" }]

/-- Only the last of two workspaces is listed. -/
def listLast : List Operation :=
  [createRemote "/srv" "a" "w1", createRemote "/srv" "b" "w2", .reorder ["w2"]]

theorem run_listLast : run listLast =
    (run (listLast.take 2)).map fun ws => { ws with order := 0 } := by
  have reordered : run listLast = (reorderWorkspaces (run (listLast.take 2)) ["w2"]).1 := rfl
  have numbered : setOrder (run (listLast.take 2)) "w2" (asOrder 0) =
      (run (listLast.take 2)).map fun ws => { ws with order := 0 } := by
    decide +kernel
  have taken : ["w2"].find? (fun id => !(run (listLast.take 2)).any fun ws =>
      ws.id = id) = none := by
    decide +kernel
  rw [reordered, reorderWorkspaces, taken]
  dsimp only [zipIdx, foldl]
  rw [numbered]
  exact mergeSort_of_pairwise (by decide +kernel)

/-- A request that brings another connection also brings no path, or one that is not empty and new
over that connection. -/
def ConnectsWell (workspaces : List Workspace) (id : String) (req : UpdateWorkspaceReq) : Prop :=
  ∀ found, workspaces[workspaces.findIdx (·.id = id)]? = some found →
    ∀ connection, req.connectionId = some connection → found.connectionId ≠ some connection →
      ∀ path, req.path = some path → trim path ≠ "" ∧
        anyOther workspaces (workspaces.findIdx (·.id = id)) (fun other =>
          other.path = trim path ∧ other.connectionId = some connection) = false

theorem updatedPath_remote {files : Files} {i : Nat} {req : UpdateWorkspaceReq}
    (ws : Workspace) {connection : String} (remote : req.connectionId = some connection)
    (connected : ws.connectionId = some connection) (path : String) :
    (∃ rejection, updatedPath files workspaces i ws req path = .error rejection) ↔
      ¬(trim path ≠ "" ∧ anyOther workspaces i (fun other =>
        other.path = trim path ∧ other.connectionId = some connection) = false) := by
  unfold updatedPath
  rw [remote, connected, some_or, isSome_some, if_pos rfl]
  split
  next empty =>
    exact ⟨fun _ both => both.1 empty, fun _ => ⟨_, rfl⟩⟩
  next named =>
    split
    next taken =>
      exact ⟨fun _ both => absurd (taken.symm.trans both.2) (by decide), fun _ => ⟨_, rfl⟩⟩
    next free =>
      exact ⟨nofun, fun neither => absurd ⟨named, Bool.eq_false_iff.mpr free⟩ neither⟩

/-- An update that fails leaves the list as it was, for every request that connects well and for no
other. -/
theorem failed_update_unchanged_iff (files : Files) (workspaces : List Workspace) (id : String)
    (req : UpdateWorkspaceReq) :
    ((∃ rejection, (updateWorkspace files workspaces id req).2 = .error rejection) →
      (updateWorkspace files workspaces id req).1 = workspaces) ↔
      ConnectsWell workspaces id req := by
  unfold updateWorkspace ConnectsWell
  dsimp only
  generalize workspaces.findIdx (·.id = id) = index
  cases here : workspaces[index]? with
  | none => exact ⟨nofun, fun _ _ => rfl⟩
  | some found =>
    obtain ⟨bound, isFound⟩ := List.getElem?_eq_some_iff.mp here
    cases pathGiven : req.path with
    | none => exact ⟨nofun, nofun⟩
    | some path =>
      dsimp only
      constructor
      · intro unchanged _ isFound connection given differs _ isPath
        cases isFound
        cases isPath
        have connected : (req.connectionId.or found.connectionId) = some connection := by
          rw [given]
          rfl
        by_contra refused
        obtain ⟨rejection, failure⟩ := (updatedPath_remote
          { found with connectionId := req.connectionId.or found.connectionId } given connected
          path).mpr refused
        rw [failure] at unchanged
        have same := congrArg (fun list => list[index]?) (unchanged ⟨rejection, rfl⟩)
        dsimp only at same
        rw [getElem?_set_self bound, here] at same
        exact differs ((congrArg Workspace.connectionId (some.inj same)).symm.trans connected)
      · intro well ⟨rejection, fails⟩
        cases result : updatedPath files workspaces index
            { found with connectionId := req.connectionId.or found.connectionId } req path with
        | ok _ =>
          rw [result] at fails
          cases fails
        | error _ =>
          dsimp only
          have kept : (req.connectionId.or found.connectionId) = found.connectionId := by
            cases given : req.connectionId with
            | none => rfl
            | some connection =>
              by_contra differs
              refine (updatedPath_remote _ given ?_ path).mp ⟨_, result⟩
                (well found rfl connection given (fun same => differs same.symm) path rfl)
              rw [given]
              rfl
          rw [kept]
          have unchanged := set_getElem_self bound
          rw [isFound] at unchanged
          exact unchanged

/-- A request with an empty path is refused and leaves its connection behind. -/
theorem refused_update_connects :
    ¬ ∀ (files : Files) (workspaces : List Workspace) (id : String) (req : UpdateWorkspaceReq),
      (∃ rejection, (updateWorkspace files workspaces id req).2 = .error rejection) →
        (updateWorkspace files workspaces id req).1 = workspaces := by
  intro unchanged
  have same := unchanged {} [⟨"w", "home", "/home", 0, none, none, none⟩] "w"
    { path := some "", connectionId := some "office" } ⟨emptyPath, by decide +kernel⟩
  revert same
  decide +kernel

end Dinotty.WorkspaceMgmt
