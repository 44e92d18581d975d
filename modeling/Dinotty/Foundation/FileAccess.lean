/-
This file is the system calls that read and change a tree of files. Each answers with the access
that it makes, and changes nothing but what that access disturbs.
-/

import Dinotty.Foundation.FileTree

namespace FileTree

open List Option

variable {Content : Type}

/-! ### What a call takes hold of -/

inductive Access where
  | read (location : FilePath)
  | create (location : FilePath)
  | write (location : FilePath)
  /-- A node goes, with all that is below it. -/
  | remove (location : FilePath)
  /-- A directory stays, and all that is below it goes. -/
  | clear (location : FilePath)
  | rename (source destination : FilePath)
  deriving DecidableEq

namespace Access

/-- The nodes that an access takes hold of. -/
def locations : Access → List FilePath
  | read location | create location | write location | remove location | clear location =>
      [location]
  | rename source destination => [source, destination]

/-- Whether the node at a location may be another one after an access. -/
def Disturbs : Access → FilePath → Prop
  | read _, _ => False
  | create location, other | write location, other => other = location
  | remove location, other => location <+: other
  | clear location, other => location <+: other ∧ other ≠ location
  | rename source destination, other => source <+: other ∨ destination <+: other

/-- The nodes that an access takes away from their locations. -/
def takes : Access → Option FilePath
  | remove location => some location
  | rename source _ => some source
  | _ => none

theorem mem_locations_of_takes {access : Access} (taken : access.takes = some location) :
    location ∈ access.locations := by
  cases access with
  | remove there =>
    cases taken
    exact mem_singleton_self _
  | rename source destination =>
    cases taken
    exact mem_cons_self
  | read | create | write | clear => cases taken

theorem below_of_disturbs {access : Access} {other : FilePath} (disturbed : access.Disturbs other) :
    ∃ location ∈ access.locations, location <+: other := by
  cases access with
  | read location => exact disturbed.elim
  | create location | write location =>
    obtain rfl : other = location := disturbed
    exact ⟨other, mem_singleton_self _, prefix_rfl⟩
  | remove location => exact ⟨location, mem_singleton_self _, disturbed⟩
  | clear location => exact ⟨location, mem_singleton_self _, disturbed.1⟩
  | rename source destination =>
    rcases disturbed with below | below
    · exact ⟨source, mem_cons_self, below⟩
    · exact ⟨destination, mem_cons_of_mem _ (mem_singleton_self _), below⟩

end Access

/-- A call that got through. -/
structure Done (Content : Type) where
  access : Access
  tree : FileTree Content

/-- A call changes only what its access disturbs. -/
def Done.Framed (before : FileTree Content) (done : Done Content) : Prop :=
  ∀ location, ¬ done.access.Disturbs location → done.tree.node location = before.node location

/-! ### Queries -/

section Calls

variable (tree : FileTree Content)

def fileExists (path : FilePath) : Bool := (tree.canonicalize path).isSome

def metadata (path : FilePath) : Option (FilePath × FileNode Content) := do
  let location ← tree.canonicalize path
  let found ← tree.node location
  some (location, found)

def isFile (path : FilePath) : Bool :=
  match tree.metadata path with
  | some (_, .file _) => true
  | _ => false

def isDir (path : FilePath) : Bool :=
  match tree.canonicalize path with
  | some location => tree.isDirectoryAt location
  | none => false

/-- The node of an entry: a link at the end of the path is not followed. -/
def symlinkMetadata (path : FilePath) : Option (FileNode Content) :=
  match tree.entry path with
  | some location => tree.node location
  | none => (tree.metadata path).map Prod.snd

def readFile (path : FilePath) : Option (FilePath × Content) := do
  match ← tree.metadata path with
  | (location, .file content) | (location, .special content) => some (location, content)
  | _ => none

def readDir (path : FilePath) : Option (FilePath × List FileName) := do
  let location ← tree.canonicalize path
  if tree.isDirectoryAt location then
    some (location, tree.nodes.keys.filterMap fun key =>
      if key.dropLast = location then key.getLast? else none)
  else none

/-! ### Changes -/

def put (location : FilePath) (found : FileNode Content) : FileTree Content :=
  { tree with nodes := tree.nodes.insert location found }

/-- The tree without the nodes at the locations that pass a test. -/
def prune (test : FilePath → Bool) : FileTree Content :=
  { tree with nodes := tree.nodes.retain fun location _ => !test location }

/-- Write a file whole. It is made where there is none. -/
def writeFile (path : FilePath) (content : Content) : Option (Done Content) := do
  let location ← tree.place path
  match tree.node location with
  | none => some ⟨.create location, tree.put location (.file content)⟩
  | some (.file _) => some ⟨.write location, tree.put location (.file content)⟩
  | some (.special _) => some ⟨.write location, tree⟩
  | _ => none

/-- Make an entry that must not be there, not even as a link. -/
def createEntry (path : FilePath) (found : FileNode Content) : Option (Done Content) := do
  let location ← tree.entry path
  match tree.node location with
  | none => some ⟨.create location, tree.put location found⟩
  | some _ => none

def createDir (path : FilePath) : Option (Done Content) := tree.createEntry path .directory

def removeFile (path : FilePath) : Option (Done Content) := do
  let location ← tree.entry path
  match tree.node location with
  | none | some .directory => none
  | some _ => some ⟨.remove location, tree.prune (location <+: ·)⟩

/-- A path without the slashes at its end. -/
def bare (path : FilePath) : FilePath := (path.reverse.dropWhile (· = [])).reverse

/-- What is in a directory goes, and the directory itself cannot. -/
def clearDir (path : FilePath) : Option (Done Content × Bool) := do
  let location ← tree.canonicalize path
  if tree.isDirectoryAt location then
    some (⟨.clear location, tree.prune fun other => location <+: other && other ≠ location⟩, false)
  else none

/-- Remove a directory with all that is in it, or a link. A path that ends in no name of its own
directory loses what is in the directory before the call fails. -/
def removeDirAll (path : FilePath) : Option (Done Content × Bool) :=
  match tree.entry (bare path) with
  | some location =>
      match tree.node location with
      | some .directory => some (⟨.remove location, tree.prune (location <+: ·)⟩, true)
      | some (.link _) =>
          if bare path = path then
            some (⟨.remove location, tree.prune (location <+: ·)⟩, true)
          else tree.clearDir path
      | _ => none
  | none => tree.clearDir path

/-- Where the nodes are after a rename: those below the source move, those at the destination
go. -/
def relocate (source destination : FilePath) (location : FilePath) : Option FilePath :=
  if source <+: location then some (destination ++ location.drop source.length)
  else if destination <+: location then none
  else some location

/-- Give an entry another path. An entry in its place goes, unless it is a directory with something
in it or only one of the two is a directory. -/
def rename (old new : FilePath) : Option (Done Content) := do
  let source ← tree.entry old
  let destination ← tree.entry new
  let found ← tree.node source
  if source = destination then some ⟨.rename source destination, tree⟩
  else if source <+: destination ∨ destination <+: source then none
  else
    let done : Done Content :=
      ⟨.rename source destination,
        { tree with nodes := tree.nodes.rekey (relocate source destination) }⟩
    match found, tree.node destination with
    | _, none => some done
    | .directory, some .directory =>
        if tree.nodes.keys.all (fun key => !(destination <+: key) || key = destination) then
          some done
        else none
    | .directory, some _ | _, some .directory => none
    | _, some _ => some done

/-- Make a directory and those above it that are missing. The path is given from its end. -/
def createDirAllFrom (tree : FileTree Content) : List FileName →
    List Access × FileTree Content × Bool
  | [] => ([], tree, true)
  | name :: above =>
      let path := (name :: above).reverse
      match tree.createDir path with
      | some done => ([done.access], done.tree, true)
      | none =>
          if tree.isDir path then ([], tree, true)
          else if tree.fileExists above.reverse then ([], tree, false)
          else
            match createDirAllFrom tree above with
            | (accesses, made, false) => (accesses, made, false)
            | (accesses, made, true) =>
                match made.createDir path with
                | some done => (accesses ++ [done.access], done.tree, true)
                | none => (accesses, made, made.isDir path)

def createDirAll (path : FilePath) : List Access × FileTree Content × Bool :=
  tree.createDirAllFrom path.reverse

end Calls

/-! ### What the calls do -/

variable {tree : FileTree Content} {path location : FilePath} {done : Done Content}

theorem node_put (below : location ≠ []) (found : FileNode Content) (other : FilePath) :
    (tree.put location found).node other =
      if other = location then some found else tree.node other := by
  by_cases root : other = []
  · rw [if_neg fun same => below (same.symm.trans root), node, node, if_pos root, if_pos root]
  · rw [node, node, if_neg root, if_neg root, put, KeyMap.lookup_insert]

theorem node_prune (test : FilePath → Bool) {other : FilePath} (kept : test other = false) :
    (tree.prune test).node other = tree.node other := by
  by_cases root : other = []
  · rw [node, node, if_pos root, if_pos root]
  · rw [node, node, if_neg root, if_neg root, prune, KeyMap.lookup_retain, kept]
    cases tree.nodes.lookup other <;> rfl

theorem entry_ne_nil (named : tree.entry path = some location) : location ≠ [] := by
  obtain ⟨front, name, directory, -, rfl, -⟩ := entry_eq_some.mp named
  exact concat_ne_nil name directory

theorem ne_nil_of_not_directory (other : tree.isDirectoryAt location = false) : location ≠ [] := by
  rintro rfl
  cases other

theorem framed_put (access : Access) (below : location ≠ []) (found : FileNode Content)
    (disturbed : access.Disturbs location) :
    Done.Framed tree ⟨access, tree.put location found⟩ := by
  intro other apart
  have differs : other ≠ location := by
    rintro rfl
    exact apart disturbed
  rw [node_put below, if_neg differs]

theorem framed_remove : Done.Framed tree ⟨.remove location, tree.prune (location <+: ·)⟩ :=
  fun _ apart => node_prune _ (decide_eq_false apart)

theorem framed_clear : Done.Framed tree
    ⟨.clear location, tree.prune fun other => location <+: other && other ≠ location⟩ := by
  intro other apart
  refine node_prune _ ?_
  by_cases below : location <+: other
  · have same : other = location := not_not.mp fun differs => apart ⟨below, differs⟩
    simp [same]
  · simp [below]

theorem metadata_eq_some {found : FileNode Content} : tree.metadata path = some (location, found) ↔
      tree.canonicalize path = some location ∧ tree.node location = some found := by
  constructor
  · intro answered
    obtain ⟨there, leads, answered⟩ := bind_eq_some_iff.mp answered
    obtain ⟨node, held, same⟩ := bind_eq_some_iff.mp answered
    cases same
    exact ⟨leads, held⟩
  · rintro ⟨leads, held⟩
    rw [metadata, leads, bind_eq_bind, bind_some, held]
    rfl

theorem isDir_iff : tree.isDir path = true ↔
    ∃ location, tree.canonicalize path = some location ∧ tree.isDirectoryAt location = true := by
  unfold isDir
  split <;> simp_all

theorem readFile_spec {content : Content}
    (answered : tree.readFile path = some (location, content)) :
    tree.canonicalize path = some location ∧ tree.isDirectoryAt location = false := by
  obtain ⟨⟨there, found⟩, known, answered⟩ := bind_eq_some_iff.mp answered
  obtain ⟨leads, held⟩ := metadata_eq_some.mp known
  cases found with
  | file | special =>
    cases answered
    refine ⟨leads, ?_⟩
    rw [isDirectoryAt, held]
  | directory | link => cases answered

theorem writeFile_spec {content : Content} (through : tree.writeFile path content = some done) :
    ∃ location, tree.place path = some location ∧ tree.isDirectoryAt location = false ∧
      (done.access = .create location ∨ done.access = .write location) ∧
      Done.Framed tree done := by
  obtain ⟨location, leads, through⟩ := bind_eq_some_iff.mp through
  refine ⟨location, leads, ?_⟩
  split at through
  next missing =>
    cases through
    have other : tree.isDirectoryAt location = false := by rw [isDirectoryAt, missing]
    exact ⟨other, .inl rfl, framed_put _ (ne_nil_of_not_directory other) _ rfl⟩
  next held =>
    cases through
    have other : tree.isDirectoryAt location = false := by rw [isDirectoryAt, held]
    exact ⟨other, .inr rfl, framed_put _ (ne_nil_of_not_directory other) _ rfl⟩
  next held =>
    cases through
    exact ⟨by rw [isDirectoryAt, held], .inr rfl, fun _ _ => rfl⟩
  · cases through

theorem createEntry_spec {found : FileNode Content}
    (through : tree.createEntry path found = some done) :
    ∃ location, tree.entry path = some location ∧ tree.node location = none ∧
      done = ⟨.create location, tree.put location found⟩ ∧ Done.Framed tree done := by
  obtain ⟨location, named, through⟩ := bind_eq_some_iff.mp through
  split at through
  · cases through
    exact ⟨location, named, ‹_›, rfl, framed_put _ (entry_ne_nil named) _ rfl⟩
  · cases through

theorem removeFile_spec (through : tree.removeFile path = some done) :
    ∃ location, tree.entry path = some location ∧ tree.isDirectoryAt location = false ∧
      done.access = .remove location ∧ Done.Framed tree done := by
  obtain ⟨location, named, through⟩ := bind_eq_some_iff.mp through
  split at through
  · cases through
  · cases through
  next found solid held =>
    cases through
    refine ⟨location, named, ?_, rfl, framed_remove⟩
    rw [isDirectoryAt, held]
    cases found with
    | directory => exact absurd rfl solid
    | file | link | special => rfl

theorem clearDir_spec {finished : Bool} (through : tree.clearDir path = some (done, finished)) :
    ∃ location, tree.canonicalize path = some location ∧ done.access = .clear location ∧
      finished = false ∧ Done.Framed tree done := by
  obtain ⟨location, leads, through⟩ := bind_eq_some_iff.mp through
  split at through
  · cases through
    exact ⟨location, leads, rfl, rfl, framed_clear⟩
  · cases through

/-- Removing a directory takes the entry, or else what is in the directory that the path leads
to. -/
theorem removeDirAll_spec {finished : Bool}
    (through : tree.removeDirAll path = some (done, finished)) :
    Done.Framed tree done ∧
      ((∃ location, tree.entry (bare path) = some location ∧ done.access = .remove location ∧
          finished = true) ∨
        ∃ location, tree.canonicalize path = some location ∧ done.access = .clear location ∧
          finished = false) := by
  have cleared (through : tree.clearDir path = some (done, finished)) :
      Done.Framed tree done ∧ ∃ location, tree.canonicalize path = some location ∧
        done.access = .clear location ∧ finished = false := by
    obtain ⟨location, leads, access, failed, framed⟩ := clearDir_spec through
    exact ⟨framed, location, leads, access, failed⟩
  unfold removeDirAll at through
  split at through
  next location named =>
    split at through
    · cases through
      exact ⟨framed_remove, .inl ⟨location, named, rfl, rfl⟩⟩
    · split at through
      · cases through
        exact ⟨framed_remove, .inl ⟨location, named, rfl, rfl⟩⟩
      · exact ⟨(cleared through).1, .inr (cleared through).2⟩
    · cases through
  · exact ⟨(cleared through).1, .inr (cleared through).2⟩

theorem relocate_eq_some {source destination other : FilePath}
    (apart : ¬ (source <+: location ∨ destination <+: location)) :
    relocate source destination other = some location ↔ other = location := by
  obtain ⟨notSource, notDestination⟩ := not_or.mp apart
  unfold relocate
  split
  next below =>
    constructor
    · intro moved
      exact absurd ⟨_, some.inj moved⟩ notDestination
    · rintro rfl
      exact absurd below notSource
  · split
    next below =>
      constructor
      · intro moved
        cases moved
      · rintro rfl
        exact absurd below notDestination
    · exact ⟨fun same => some.inj same, congrArg some⟩

theorem framed_rename (source destination : FilePath) : Done.Framed tree
    ⟨.rename source destination,
      { tree with nodes := tree.nodes.rekey (relocate source destination) }⟩ := by
  intro location apart
  by_cases root : location = []
  · rw [node, node, if_pos root, if_pos root]
  · rw [node, node, if_neg root, if_neg root]
    exact KeyMap.lookup_rekey (fun _ => relocate_eq_some apart) _

theorem rename_spec {old new : FilePath} (through : tree.rename old new = some done) :
    ∃ source destination, tree.entry old = some source ∧ tree.entry new = some destination ∧
      (tree.node source).isSome = true ∧ done.access = .rename source destination ∧
      Done.Framed tree done := by
  obtain ⟨source, oldNamed, through⟩ := bind_eq_some_iff.mp through
  obtain ⟨destination, newNamed, through⟩ := bind_eq_some_iff.mp through
  obtain ⟨found, held, through⟩ := bind_eq_some_iff.mp through
  refine ⟨source, destination, oldNamed, newNamed, isSome_of_eq_some held, ?_⟩
  have moved : done = ⟨.rename source destination,
      { tree with nodes := tree.nodes.rekey (relocate source destination) }⟩ →
      done.access = .rename source destination ∧ Done.Framed tree done := by
    rintro rfl
    exact ⟨rfl, framed_rename source destination⟩
  split at through
  · cases through
    exact ⟨rfl, fun _ _ => rfl⟩
  · split at through
    · cases through
    · simp only at through
      split at through
      · exact moved (some.inj through).symm
      · split at through
        · exact moved (some.inj through).symm
        · cases through
      · cases through
      · cases through
      · exact moved (some.inj through).symm

end FileTree
