/-
This file is a tree of directories, files and symbolic links as the system calls of a POSIX host see
it. An operation answers with the nodes that it takes hold of, so that a program over the tree can
be asked which nodes it touches.
-/

import Dinotty.Foundation.KeyMap
import Dinotty.Foundation.Chars

/-- The name of an entry of a directory, or a segment of a path. -/
abbrev FileName := List Char

/-- A path from the root directory down. The location of a node is the path without links and
special segments. -/
abbrev FilePath := List FileName

inductive FileNode (Content : Type) where
  | directory
  | file (content : Content)
  | link (target : List Char)
  /-- A socket, a pipe or a device, with what a reader receives from it. -/
  | special (content : Content)
  deriving DecidableEq

/-- The nodes below the root directory, at their locations, and how many links one walk
follows. -/
structure FileTree (Content : Type) where
  nodes : KeyMap FilePath (FileNode Content) := ∅
  linkLimit : Nat := 40

namespace FileTree

open List

variable {Content : Type}

/-! ### Paths -/

def currentName : FileName := ['.']

def parentName : FileName := ['.', '.']

def IsNormal (name : FileName) : Prop := name ≠ [] ∧ name ≠ currentName ∧ name ≠ parentName

instance (name : FileName) : Decidable (IsNormal name) :=
  inferInstanceAs (Decidable (_ ∧ _ ∧ _))

def segments (text : List Char) : List FileName := text.splitOn '/'

def isAbsolute (text : List Char) : Bool := text.head? = some '/'

/-- The path that a text leads to from a path: an absolute text leaves the path behind. -/
def join (base : FilePath) (text : List Char) : FilePath :=
  if isAbsolute text then segments text else base ++ segments text

/-! ### Walking a path -/

/-- The node at a location. The root directory is always there. -/
def node (tree : FileTree Content) (location : FilePath) : Option (FileNode Content) :=
  if location = [] then some .directory else tree.nodes.lookup location

def isDirectoryAt (tree : FileTree Content) (location : FilePath) : Bool :=
  match tree.node location with
  | some .directory => true
  | _ => false

def isLinkAt (tree : FileTree Content) (location : FilePath) : Bool :=
  match tree.node location with
  | some (.link _) => true
  | _ => false

inductive Stop where
  /-- At a node. -/
  | found (location : FilePath)
  /-- At a directory that has no entry of the last name. -/
  | absent (directory : FilePath) (name : FileName)
  /-- At a link in a directory, with the segments that remain. -/
  | link (directory : FilePath) (target : List Char) (rest : List FileName)
  | failed
  deriving DecidableEq

/-- Walk from a location to the first link. -/
def descend (tree : FileTree Content) (here : FilePath) : List FileName → Stop
  | [] => .found here
  | name :: rest =>
      if tree.isDirectoryAt here = false ∨ '\x00' ∈ name then .failed
      else if name = parentName then descend tree here.dropLast rest
      else if name = [] ∨ name = currentName then descend tree here rest
      else
        match tree.node (here ++ [name]) with
        | none => if rest = [] then .absent here name else .failed
        | some (.link target) => .link here target rest
        | some _ => descend tree (here ++ [name]) rest

/-- Walk from a location to the end, following the links within a limit. -/
def walk (tree : FileTree Content) : Nat → FilePath → List FileName → Stop
  | limit, here, rest =>
      match descend tree here rest with
      | .link directory target rest =>
          match limit with
          | 0 => .failed
          | limit + 1 =>
              walk tree limit (if isAbsolute target then [] else directory)
                (segments target ++ rest)
      | stop => stop

/-- The location of the node that a path leads to. -/
def canonicalize (tree : FileTree Content) (path : FilePath) : Option FilePath :=
  match tree.walk tree.linkLimit [] path with
  | .found location => some location
  | _ => none

/-- Where a file is found, or made, that is opened for writing. -/
def place (tree : FileTree Content) (path : FilePath) : Option FilePath :=
  match tree.walk tree.linkLimit [] path with
  | .found location => some location
  | .absent directory name => some (directory ++ [name])
  | _ => none

/-- The entry that a path names: a link at the end of the path is not followed. -/
def entry (tree : FileTree Content) (path : FilePath) : Option FilePath := do
  let name ← path.getLast?
  let directory ← tree.canonicalize path.dropLast
  if IsNormal name ∧ '\x00' ∉ name ∧ tree.isDirectoryAt directory then
    some (directory ++ [name])
  else none

/-! ### Locations -/

/-- A location that a walk can stop at: every name on the way is normal and no directory is a link.
-/
def Located (tree : FileTree Content) (location : FilePath) : Prop :=
  ∀ front name, front ++ [name] <+: location →
    (IsNormal name ∧ '\x00' ∉ name) ∧ tree.isDirectoryAt front = true ∧
      (tree.node (front ++ [name])).isSome = true ∧ tree.isLinkAt (front ++ [name]) = false

variable {tree : FileTree Content} {here location : FilePath}

@[simp] theorem node_nil : tree.node [] = some .directory := rfl

@[simp] theorem isDirectoryAt_nil : tree.isDirectoryAt [] = true := rfl

theorem node_of_isDirectoryAt (directory : tree.isDirectoryAt location = true) :
    tree.node location = some .directory := by
  unfold isDirectoryAt at directory
  split at directory
  · assumption
  · cases directory

theorem isDirectoryAt_iff : tree.isDirectoryAt location = true ↔
    tree.node location = some .directory :=
  ⟨node_of_isDirectoryAt, fun there => by rw [isDirectoryAt, there]⟩

theorem isLinkAt_of_isDirectoryAt (directory : tree.isDirectoryAt location = true) :
    tree.isLinkAt location = false := by
  rw [isLinkAt, node_of_isDirectoryAt directory]

theorem located_nil : Located tree [] := by
  intro front name below
  simpa using below.length_le

theorem Located.of_front {above : FilePath} (located : Located tree location)
    (below : above <+: location) : Located tree above :=
  fun front name further => located front name (further.trans below)

theorem Located.dropLast (located : Located tree here) : Located tree here.dropLast :=
  located.of_front ( dropLast_prefix here)

variable {name : FileName}

theorem Located.concat (located : Located tree here) (normal : IsNormal name)
    (whole : '\x00' ∉ name) (directory : tree.isDirectoryAt here = true)
    (held : (tree.node (here ++ [name])).isSome = true)
    (solid : tree.isLinkAt (here ++ [name]) = false) : Located tree (here ++ [name]) := by
  intro front last below
  by_cases short : (front ++ [last]).length ≤ here.length
  · exact located front last (prefix_of_prefix_length_le below (prefix_append _ _) short)
  · have full : front ++ [last] = here ++ [name] :=
      below.eq_of_length_le (by
        simp only [length_append, length_singleton] at short ⊢
        omega)
    obtain ⟨rfl, same⟩ := append_inj' full rfl
    obtain rfl := singleton_inj.mp same
    exact ⟨⟨normal, whole⟩, directory, held, solid⟩

variable {rest : List FileName}

theorem Located.isDirectoryAt_front (located : Located tree (here ++ name :: rest)) :
    tree.isDirectoryAt here = true :=
  (located here name ⟨rest, by simp⟩).2.1

theorem Located.node_isSome (located : Located tree location) :
    (tree.node location).isSome = true := by
  rcases eq_nil_or_concat location with rfl | ⟨front, name, rfl⟩
  · rfl
  · rw [concat_eq_append] at located ⊢
    exact (located front name prefix_rfl).2.2.1

theorem Located.isLinkAt (located : Located tree location) : tree.isLinkAt location = false := by
  rcases eq_nil_or_concat location with rfl | ⟨front, name, rfl⟩
  · rfl
  · rw [concat_eq_append] at located ⊢
    exact (located front name prefix_rfl).2.2.2

/-- What is known of the places where walks stop. -/
def Stop.Sound (tree : FileTree Content) : Stop → Prop
  | .found location => Located tree location
  | .absent directory name =>
      Located tree directory ∧ tree.isDirectoryAt directory = true ∧
        (IsNormal name ∧ '\x00' ∉ name) ∧ tree.node (directory ++ [name]) = none
  | .link directory _ _ => Located tree directory
  | .failed => True

theorem descend_sound (located : Located tree here) (rest : List FileName) :
    (tree.descend here rest).Sound tree := by
  induction rest generalizing here with
  | nil => exact located
  | cons name rest ih =>
    rw [descend]
    by_cases refused : tree.isDirectoryAt here = false ∨ '\x00' ∈ name
    · rw [if_pos refused]
      trivial
    · rw [if_neg refused]
      obtain ⟨directory, whole⟩ := not_or.mp refused
      rw [Bool.not_eq_false] at directory
      by_cases up : name = parentName
      · rw [if_pos up]
        exact ih located.dropLast
      · rw [if_neg up]
        by_cases idle : name = [] ∨ name = currentName
        · rw [if_pos idle]
          exact ih located
        · rw [if_neg idle]
          have normal : IsNormal name := ⟨fun h => idle (.inl h), fun h => idle (.inr h), up⟩
          split
          · split
            · exact ⟨located, directory, ⟨normal, whole⟩, ‹_›⟩
            · trivial
          · exact located
          next found solid there =>
            refine ih (located.concat normal whole directory ?_ ?_)
            · rw [there]
              rfl
            · rw [isLinkAt, there]
              cases found with
              | link target => exact absurd rfl (solid target)
              | directory | file | special => rfl

theorem walk_sound (limit : Nat) (located : Located tree here) (rest : List FileName) :
    (tree.walk limit here rest).Sound tree := by
  induction limit generalizing here rest with
  | zero =>
    have sound := descend_sound located rest
    rw [walk]
    cases stop : tree.descend here rest with
    | link directory target rest => trivial
    | found | absent => rwa [stop] at sound
    | failed => trivial
  | succ limit ih =>
    have sound := descend_sound located rest
    rw [walk]
    cases stop : tree.descend here rest with
    | link directory target rest =>
      rw [stop] at sound
      refine ih ?_ _
      split
      · exact located_nil
      · exact sound
    | found | absent => rwa [stop] at sound
    | failed => trivial

variable {path : FilePath}

theorem canonicalize_eq_some : tree.canonicalize path = some location ↔
      tree.walk tree.linkLimit [] path = .found location := by
  unfold canonicalize
  split <;> simp_all

theorem canonicalize_located (found : tree.canonicalize path = some location) :
    Located tree location := by
  have sound := walk_sound tree.linkLimit (located_nil : Located tree []) path
  rwa [canonicalize_eq_some.mp found] at sound

theorem descend_of_located (located : Located tree (here ++ rest)) :
    tree.descend here rest = .found (here ++ rest) := by
  induction rest generalizing here with
  | nil => rw [append_nil, descend]
  | cons name rest ih =>
    obtain ⟨⟨normal, whole⟩, directory, held, solid⟩ :=
      located here name ⟨rest, by simp⟩
    have further : here ++ name :: rest = (here ++ [name]) ++ rest := by simp
    have later := ih (further ▸ located)
    rw [descend, if_neg (by simp [directory, whole]), if_neg normal.2.2,
      if_neg (by simp [normal.1, normal.2.1]), further, ← later]
    unfold isLinkAt at solid
    split
    next missing =>
      rw [missing] at held
      cases held
    next target there =>
      rw [there] at solid
      cases solid
    · rfl

variable {limit : Nat}

theorem walk_of_descend_found (stop : tree.descend here rest = .found location) :
    tree.walk limit here rest = .found location := by
  cases limit <;> rw [walk, stop]

theorem canonicalize_of_located (located : Located tree location) :
    tree.canonicalize location = some location :=
  canonicalize_eq_some.mpr
    (walk_of_descend_found (by
      simpa using descend_of_located (show Located tree ([] ++ location) from located)))

/-! ### Walks of longer paths -/

variable {front : List FileName}

theorem descend_append_of_found (stop : tree.descend here front = .found location)
    (rest : List FileName) :
    tree.descend here (front ++ rest) = tree.descend location rest := by
  induction front generalizing here with
  | nil =>
    obtain rfl := Stop.found.inj stop
    rfl
  | cons name front ih =>
    rw [descend] at stop
    rw [cons_append, descend]
    split at stop
    · cases stop
    · rw [if_neg ‹_›]
      split at stop
      · rw [if_pos ‹_›, ih stop]
      · rw [if_neg ‹_›]
        split at stop
        · rw [if_pos ‹_›, ih stop]
        · rw [if_neg ‹_›]
          split at stop
          · split at stop <;> cases stop
          · cases stop
          · exact ih stop

theorem descend_append_of_link {directory : FilePath} {target : List Char}
    {remaining : List FileName} (stop : tree.descend here front = .link directory target remaining)
    (rest : List FileName) :
    tree.descend here (front ++ rest) = .link directory target (remaining ++ rest) := by
  induction front generalizing here with
  | nil => cases stop
  | cons name front ih =>
    rw [descend] at stop
    rw [cons_append, descend]
    split at stop
    · cases stop
    · rw [if_neg ‹_›]
      split at stop
      · rw [if_pos ‹_›, ih stop]
      · rw [if_neg ‹_›]
        split at stop
        · rw [if_pos ‹_›, ih stop]
        · rw [if_neg ‹_›]
          split at stop
          · split at stop <;> cases stop
          · obtain ⟨rfl, rfl, rfl⟩ := Stop.link.injEq .. ▸ stop
            rfl
          · exact ih stop

theorem walk_congr {there : FilePath} {first second : List FileName}
    (same : tree.descend here first = tree.descend there second) :
    tree.walk limit here first = tree.walk limit there second := by
  cases limit <;> rw [walk, walk, same]

theorem walk_append (stop : tree.walk limit here front = .found location) :
    ∃ left, ∀ rest, tree.walk limit here (front ++ rest) = tree.walk left location rest := by
  induction limit generalizing here front with
  | zero =>
    rw [walk] at stop
    split at stop
    · cases stop
    · exact ⟨0, fun rest => walk_congr (descend_append_of_found stop rest)⟩
  | succ limit ih =>
    rw [walk] at stop
    split at stop
    next directory target remaining link =>
      obtain ⟨left, onward⟩ := ih stop
      refine ⟨left, fun rest => ?_⟩
      rw [walk, descend_append_of_link link, ← onward rest]
      simp
    · exact ⟨limit + 1, fun rest => walk_congr (descend_append_of_found stop rest)⟩

theorem entry_eq_some : tree.entry path = some location ↔
    ∃ front name directory, path = front ++ [name] ∧ location = directory ++ [name] ∧
      tree.canonicalize front = some directory ∧ tree.isDirectoryAt directory = true ∧
      IsNormal name ∧ '\x00' ∉ name := by
  constructor
  · intro named
    obtain ⟨name, last, named⟩ := Option.bind_eq_some_iff.mp named
    obtain ⟨directory, found, named⟩ := Option.bind_eq_some_iff.mp named
    split at named
    next sound =>
      exact ⟨path.dropLast, name, directory, (dropLast_append_getLast? name last).symm,
        (Option.some.inj named).symm, found, sound.2.2, sound.1, sound.2.1⟩
    · cases named
  · rintro ⟨front, name, directory, rfl, rfl, found, isDirectory, normal, whole⟩
    simp [entry, found, isDirectory, normal, whole]

theorem descend_name (directory : tree.isDirectoryAt here = true) (normal : IsNormal name)
    (whole : '\x00' ∉ name) (solid : tree.isLinkAt (here ++ [name]) = false) :
    tree.descend here [name] = if (tree.node (here ++ [name])).isSome then .found (here ++ [name])
      else .absent here name := by
  rw [descend, if_neg (by simp [directory, whole]), if_neg normal.2.2,
    if_neg (by simp [normal.1, normal.2.1])]
  unfold isLinkAt at solid
  split
  next missing =>
    rw [missing]
    rfl
  next target there =>
    rw [there] at solid
    cases solid
  next found _ there =>
    rw [there]
    rfl

theorem walk_of_entry (named : tree.entry path = some location)
    (solid : tree.isLinkAt location = false) :
    tree.walk tree.linkLimit [] path = if (tree.node location).isSome then .found location
      else .absent location.dropLast (location.getLastD []) := by
  obtain ⟨front, name, directory, rfl, rfl, found, isDirectory, normal, whole⟩ :=
    entry_eq_some.mp named
  obtain ⟨left, onward⟩ := walk_append (canonicalize_eq_some.mp found)
  have stop := descend_name isDirectory normal whole solid
  rw [onward [name]]
  split
  next held =>
    rw [if_pos held] at stop
    exact walk_of_descend_found stop
  next missing =>
    rw [if_neg missing] at stop
    cases left <;> simp [walk, stop]

theorem entry_of_walk {front : FilePath} {directory : FilePath}
    (found : tree.canonicalize front = some directory) (normal : IsNormal name)
    (through : tree.walk tree.linkLimit [] (front ++ [name]) ≠ .failed) :
    tree.entry (front ++ [name]) = some (directory ++ [name]) := by
  obtain ⟨left, onward⟩ := walk_append (canonicalize_eq_some.mp found)
  rw [onward [name]] at through
  refine entry_eq_some.mpr ⟨front, name, directory, rfl, rfl, found, ?_⟩
  by_cases refused : tree.isDirectoryAt directory = false ∨ '\x00' ∈ name
  · refine absurd ?_ through
    cases left <;> rw [walk, descend, if_pos refused]
  · obtain ⟨isDirectory, whole⟩ := not_or.mp refused
    exact ⟨Bool.not_eq_false _ ▸ isDirectory, normal, whole⟩

theorem eq_entry_of_canonicalize (named : tree.entry path = some location)
    (solid : tree.isLinkAt location = false) {there : FilePath}
    (leads : tree.canonicalize path = some there) : there = location := by
  rw [canonicalize_eq_some, walk_of_entry named solid] at leads
  split at leads
  · exact (Stop.found.inj leads).symm
  · cases leads

theorem place_of_entry (named : tree.entry path = some location)
    (solid : tree.isLinkAt location = false) : tree.place path = some location := by
  rw [place, walk_of_entry named solid]
  obtain ⟨front, name, directory, rfl, rfl, -⟩ := entry_eq_some.mp named
  by_cases held : (tree.node (directory ++ [name])).isSome
  · rw [if_pos held]
  · rw [if_neg held]
    simp

theorem place_of_canonicalize (found : tree.canonicalize path = some location) :
    tree.place path = some location := by
  rw [place, canonicalize_eq_some.mp found]

end FileTree
