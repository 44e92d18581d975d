/-
This file is about paths through directories that hold no links: such a path leads to itself if its
directories are there, and nowhere if they are not.
-/

import Dinotty.Foundation.FileAccess

namespace FileTree

open List Option

variable {Content : Type} {tree : FileTree Content} {here location path : FilePath}

/-! ### Walks that get stuck -/

/-- A walk that stops before its end goes nowhere from there. -/
theorem descend_append_of_stuck {front rest : List FileName}
    (stuck : tree.descend here front = .failed ∨
      ∃ directory name, tree.descend here front = .absent directory name)
    (further : rest ≠ []) : tree.descend here (front ++ rest) = .failed := by
  induction front generalizing here with
  | nil =>
    rcases stuck with failed | ⟨directory, name, absent⟩
    · cases failed
    · cases absent
  | cons name front ih =>
    rw [cons_append, descend]
    rw [descend] at stuck
    split
    · rfl
    · rw [if_neg ‹_›] at stuck
      split
      · rw [if_pos ‹_›] at stuck
        exact ih stuck
      · rw [if_neg ‹_›] at stuck
        split
        · rw [if_pos ‹_›] at stuck
          exact ih stuck
        · rw [if_neg ‹_›] at stuck
          split
          · rw [if_neg fun none => further (append_eq_nil_iff.mp none).2]
          next there =>
            rw [there] at stuck
            rcases stuck with failed | ⟨directory, name, absent⟩
            · cases failed
            · cases absent
          next found solid there =>
            rw [there] at stuck
            cases found with
            | link target => exact absurd rfl (solid target)
            | directory | file | special => exact ih stuck

/-! ### Passable paths -/

theorem join_plain {text : List Char} (plain : '/' ∉ text) : join path text = path ++ [text] := by
  have relative : ¬ isAbsolute text = true := fun absolute =>
    plain (mem_of_mem_head? (of_decide_eq_true absolute))
  rw [join, if_neg relative, segments, splitOn_eq_singleton plain]

def IsEntryName (name : FileName) : Prop := IsNormal name ∧ '\x00' ∉ name

instance (name : FileName) : Decidable (IsEntryName name) :=
  inferInstanceAs (Decidable (_ ∧ _))

/-- The path goes through directories, as far as there is anything on it. -/
def Passable (tree : FileTree Content) (path : FilePath) : Prop :=
  ∀ front name, front ++ [name] <+: path → IsEntryName name ∧ (tree.node (front ++ [name]) = none ∨
      tree.node (front ++ [name]) = some .directory ∧ tree.isDirectoryAt front = true)

theorem Passable.of_front (passable : Passable tree path) (above : here <+: path) :
    Passable tree here :=
  fun front name further => passable front name (further.trans above)

theorem Passable.located (passable : Passable tree path)
    (there : tree.isDirectoryAt path = true) : Located tree path := by
  induction path using reverseRecOn with
  | nil => exact located_nil
  | append_singleton front name ih =>
    obtain ⟨⟨normal, whole⟩, missing | ⟨found, directory⟩⟩ := passable front name prefix_rfl
    · rw [isDirectoryAt, missing] at there
      cases there
    · exact (ih (passable.of_front (prefix_append _ _)) directory).concat
        normal whole directory (by rw [found]; rfl) (isLinkAt_of_isDirectoryAt there)

theorem Passable.descend_stuck {names : List FileName} (passable : Passable tree (here ++ names))
    (directory : tree.isDirectoryAt here = true)
    (missing : tree.isDirectoryAt (here ++ names) = false) :
    tree.descend here names = .failed ∨
      ∃ directory name, tree.descend here names = .absent directory name := by
  induction names generalizing here with
  | nil =>
    rw [append_nil, directory] at missing
    cases missing
  | cons name rest ih =>
    have further : here ++ name :: rest = (here ++ [name]) ++ rest := by simp
    obtain ⟨⟨normal, whole⟩, absent | ⟨found, -⟩⟩ := passable here name ⟨rest, by simp⟩
    · rw [descend, if_neg (by simp [directory, whole]), if_neg normal.2.2,
        if_neg (by simp [normal.1, normal.2.1]), absent]
      dsimp only
      split
      · exact .inr ⟨here, name, rfl⟩
      · exact .inl rfl
    · rw [descend, if_neg (by simp [directory, whole]), if_neg normal.2.2,
        if_neg (by simp [normal.1, normal.2.1]), found]
      rw [further] at passable missing
      exact ih passable (isDirectoryAt_iff.mpr found) missing

theorem Passable.canonicalize (passable : Passable tree path) :
    tree.canonicalize path = if tree.isDirectoryAt path then some path else none := by
  split
  next there =>
    exact canonicalize_of_located (passable.located there)
  next missing =>
    have fromRoot : Passable tree ([] ++ path) := passable
    have stuck := fromRoot.descend_stuck isDirectoryAt_nil (Bool.not_eq_true _ ▸ missing)
    rw [FileTree.canonicalize]
    rcases stuck with failed | ⟨directory, name, absent⟩
    · cases limit : tree.linkLimit <;> rw [walk, failed]
    · cases limit : tree.linkLimit <;> rw [walk, absent]

variable {name : FileName}

section

variable (passable : Passable tree path) (entryName : IsEntryName name)
include passable entryName

theorem Passable.canonicalize_concat (solid : tree.isLinkAt (path ++ [name]) = false) :
    tree.canonicalize (path ++ [name]) =
      if tree.isDirectoryAt path = true ∧ (tree.node (path ++ [name])).isSome then
        some (path ++ [name])
      else none := by
  by_cases there : tree.isDirectoryAt path = true
  · have named : tree.entry (path ++ [name]) = some (path ++ [name]) :=
      entry_eq_some.mpr ⟨path, name, path, rfl, rfl, by rw [passable.canonicalize, if_pos there],
        there, entryName⟩
    rw [FileTree.canonicalize, walk_of_entry named solid]
    by_cases held : (tree.node (path ++ [name])).isSome
    · rw [if_pos held, if_pos ⟨there, held⟩]
    · rw [if_neg held, if_neg fun both => held both.2]
  · have fromRoot : Passable tree ([] ++ path) := passable
    have stuck := fromRoot.descend_stuck isDirectoryAt_nil (Bool.not_eq_true _ ▸ there)
    have failed := descend_append_of_stuck stuck (cons_ne_nil name [])
    rw [if_neg fun both => there both.1, FileTree.canonicalize]
    cases limit : tree.linkLimit <;> rw [walk, failed]

theorem Passable.entry_concat : tree.entry (path ++ [name]) =
      if tree.isDirectoryAt path then some (path ++ [name]) else none := by
  split
  next there =>
    exact entry_eq_some.mpr ⟨path, name, path, rfl, rfl,
      by rw [passable.canonicalize, if_pos there], there, entryName⟩
  next missing =>
    refine eq_none_iff_forall_ne_some.mpr fun location named => ?_
    obtain ⟨front, last, directory, same, -, leads, -⟩ := entry_eq_some.mp named
    obtain ⟨rfl, -⟩ := append_inj' same rfl
    rw [passable.canonicalize, if_neg missing] at leads
    cases leads

theorem Passable.metadata_concat (solid : tree.isLinkAt (path ++ [name]) = false) :
    tree.metadata (path ++ [name]) =
      if tree.isDirectoryAt path = true then
        (tree.node (path ++ [name])).map fun found => (path ++ [name], found)
      else none := by
  rw [metadata, passable.canonicalize_concat entryName solid]
  by_cases there : tree.isDirectoryAt path = true
  · rw [if_pos there]
    cases found : tree.node (path ++ [name]) with
    | none => simp
    | some node => simp [there, found]
  · rw [if_neg there, if_neg fun both => there both.1]
    rfl

end

theorem Passable.node_of_prefix (passable : Passable tree path)
    (there : tree.isDirectoryAt path = true) (above : location <+: path) :
    tree.node location = some .directory := by
  obtain ⟨rest, rfl⟩ := above
  cases rest with
  | nil => exact isDirectoryAt_iff.mp (by simpa using there)
  | cons name rest =>
    exact isDirectoryAt_iff.mp (passable.located there).isDirectoryAt_front

/-! ### Making the directories of a path -/

theorem Passable.createDir (passable : Passable tree (path ++ [name])) :
    tree.createDir (path ++ [name]) =
      if tree.isDirectoryAt path = true ∧ tree.node (path ++ [name]) = none then
        some ⟨.create (path ++ [name]), tree.put (path ++ [name]) .directory⟩
      else none := by
  have entryName := (passable path name prefix_rfl).1
  rw [FileTree.createDir, createEntry,
    (passable.of_front (prefix_append _ _)).entry_concat entryName]
  by_cases there : tree.isDirectoryAt path = true
  · rw [if_pos there, bind_eq_bind, bind_some]
    cases found : tree.node (path ++ [name]) with
    | none => rw [if_pos ⟨there, rfl⟩]
    | some node => rw [if_neg (by simp)]
  · rw [if_neg there, if_neg fun both => there both.1]
    rfl

/-- Making the directories of a passable path succeeds, and changes nothing else. -/
theorem Passable.createDirAll (passable : Passable tree path) :
    ∃ accesses made, tree.createDirAll path = (accesses, made, true) ∧
      ∀ location, made.node location =
        if location <+: path then some .directory else tree.node location := by
  unfold FileTree.createDirAll
  induction path using reverseRecOn with
  | nil =>
    refine ⟨[], tree, rfl, fun location => ?_⟩
    split
    next root =>
      rw [prefix_nil.mp root]
      rfl
    · rfl
  | append_singleton above name ih =>
    have passableAbove := passable.of_front (prefix_append above [name])
    -- Making the last directory gives all of the path when those above are there.
    have nodes_put {tree : FileTree Content} (passable : Passable tree above)
        (there : tree.isDirectoryAt above = true) (location : FilePath) :
        (tree.put (above ++ [name]) .directory).node location =
          if location <+: above ++ [name] then some .directory else tree.node location := by
      rw [node_put (concat_ne_nil name above)]
      by_cases whole : location = above ++ [name]
      · rw [if_pos whole, if_pos (whole ▸ prefix_rfl)]
      · rw [if_neg whole]
        by_cases below : location <+: above ++ [name]
        · rw [if_pos below]
          refine passable.node_of_prefix there ?_
          exact (prefix_concat_iff.mp below).resolve_left whole
        · rw [if_neg below]
    rw [reverse_append, reverse_singleton, singleton_append, createDirAllFrom]
    simp only [reverse_cons, reverse_reverse]
    rw [passable.createDir]
    by_cases there : tree.isDirectoryAt above = true
    · cases found : tree.node (above ++ [name]) with
      | none =>
        rw [if_pos ⟨there, rfl⟩]
        exact ⟨_, _, rfl, nodes_put passableAbove there⟩
      | some node =>
        obtain ⟨-, absent | ⟨directory, -⟩⟩ := passable above name prefix_rfl
        · rw [absent] at found
          cases found
        · have isDirectory := isDirectoryAt_iff.mpr directory
          have leads : tree.isDir (above ++ [name]) = true :=
            isDir_iff.mpr ⟨_, by rw [passable.canonicalize, if_pos isDirectory], isDirectory⟩
          rw [if_neg (by simp), if_pos leads]
          refine ⟨_, _, rfl, fun location => ?_⟩
          split
          · exact passable.node_of_prefix isDirectory ‹_›
          · rfl
    · obtain ⟨accesses, made, makes, nodes⟩ := ih passableAbove
      have absent : tree.node (above ++ [name]) = none := by
        obtain ⟨-, absent | ⟨-, directory⟩⟩ := passable above name prefix_rfl
        · exact absent
        · exact absurd directory there
      have noDirectory : tree.isDir (above ++ [name]) = false := by
        unfold isDir
        rw [passable.canonicalize, if_neg (by rw [isDirectoryAt, absent]; simp)]
      have nowhere : tree.fileExists above = false := by
        rw [fileExists, passableAbove.canonicalize, if_neg there]
        rfl
      have beyond : ¬ above ++ [name] <+: above := fun below => by
        have short := below.length_le
        rw [length_append, length_singleton] at short
        exact Nat.not_succ_le_self _ short
      have passableMade : Passable made (above ++ [name]) := by
        intro front last below
        refine ⟨(passable front last below).1, ?_⟩
        rcases prefix_concat_iff.mp below with whole | further
        · rw [whole, nodes, if_neg beyond]
          exact .inl absent
        · refine .inr ⟨by rw [nodes, if_pos further], isDirectoryAt_iff.mpr ?_⟩
          rw [nodes, if_pos ((prefix_append front [last]).trans further)]
      have made_above : made.isDirectoryAt above = true :=
        isDirectoryAt_iff.mpr (by rw [nodes, if_pos prefix_rfl])
      rw [if_neg fun both => there both.1, if_neg (by rw [noDirectory]; simp),
        if_neg (by rw [nowhere]; simp), makes]
      simp only
      rw [passableMade.createDir, if_pos ⟨made_above, by rw [nodes, if_neg beyond, absent]⟩]
      refine ⟨_, _, rfl, fun location => ?_⟩
      rw [nodes_put (passableMade.of_front (prefix_append _ _)) made_above, nodes]
      by_cases below : location <+: above
      · rw [if_pos below, if_pos (below.trans (prefix_append _ _)), if_pos
          (below.trans (prefix_append _ _))]
      · rw [if_neg below]

/-! ### Listing a directory -/

/-- The names that are listed of the last directory of a passable path are those of its entries,
each once. -/
theorem Passable.readDir (passable : Passable tree path) (there : tree.isDirectoryAt path = true) :
    ∃ names, tree.readDir path = some (path, names) ∧ names.Nodup ∧
      ∀ name, name ∈ names ↔ (tree.node (path ++ [name])).isSome := by
  have listed : tree.readDir path = some (path, tree.nodes.keys.filterMap fun key =>
      if key.dropLast = path then key.getLast? else none) := by
    rw [FileTree.readDir, passable.canonicalize, if_pos there]
    simp [there]
  have isEntry (key : FilePath) (name : FileName) :
      (if key.dropLast = path then key.getLast? else none) = some name ↔ key = path ++ [name] := by
    constructor
    · intro last
      split at last
      next same =>
        rw [← same]
        exact (dropLast_append_getLast? name last).symm
      · cases last
    · rintro rfl
      simp
  refine ⟨_, listed, ?_, fun name => ?_⟩
  · refine (AList.keys_nodup tree.nodes).filterMap fun first second name atFirst atSecond => ?_
    rw [mem_def, isEntry] at atFirst atSecond
    rw [atFirst, atSecond]
  · rw [mem_filterMap, node, if_neg (concat_ne_nil name path), AList.lookup_isSome]
    constructor
    · rintro ⟨key, mem, last⟩
      rw [← (isEntry key name).mp last]
      exact AList.mem_keys.mpr mem
    · intro mem
      exact ⟨_, AList.mem_keys.mp mem, (isEntry _ name).mpr rfl⟩

/-! ### Changes beside a path -/

theorem Passable.congr {after : FileTree Content} (passable : Passable tree path)
    (same : ∀ above, above <+: path → after.node above = tree.node above) :
    Passable after path := by
  intro front name below
  have above := (prefix_append front [name]).trans below
  rw [isDirectoryAt, same _ below, same _ above]
  exact passable front name below

theorem Passable.made {made : FileTree Content} {other : FilePath} (passable : Passable tree other)
    (nodes : ∀ location, made.node location =
      if location <+: path then some .directory else tree.node location) :
    Passable made other := by
  intro front name below
  obtain ⟨entryName, found⟩ := passable front name below
  refine ⟨entryName, ?_⟩
  rw [nodes]
  split
  next onPath =>
    refine .inr ⟨rfl, isDirectoryAt_iff.mpr ?_⟩
    rw [nodes, if_pos ((prefix_append front [name]).trans onPath)]
  · refine found.imp_right fun ⟨isDirectory, directory⟩ => ⟨isDirectory, isDirectoryAt_iff.mpr ?_⟩
    rw [nodes, isDirectoryAt_iff.mp directory]
    split <;> rfl

theorem isDirectoryAt_made {made : FileTree Content} (nodes : ∀ location, made.node location =
      if location <+: path then some .directory else tree.node location)
    (there : tree.isDirectoryAt location = true) : made.isDirectoryAt location = true := by
  refine isDirectoryAt_iff.mpr ?_
  rw [nodes, isDirectoryAt_iff.mp there]
  split <;> rfl

theorem node_prune_of_test {test : FilePath → Bool} (below : location ≠ [])
    (gone : test location = true) : (tree.prune test).node location = none := by
  rw [node, if_neg below, prune, KeyMap.lookup_retain, gone]
  cases tree.nodes.lookup location <;> rfl

section

variable (passable : Passable tree path)
include passable

theorem Passable.prune {test : FilePath → Bool}
    (closed : ∀ front name, test front = true → test (front ++ [name]) = true) :
    Passable (tree.prune test) path := by
  intro front name below
  obtain ⟨entryName, found⟩ := passable front name below
  refine ⟨entryName, ?_⟩
  cases gone : test (front ++ [name]) with
  | true => exact .inl (node_prune_of_test (concat_ne_nil name front) gone)
  | false =>
    have kept : test front = false := by
      rw [← Bool.not_eq_true]
      intro taken
      rw [closed front name taken] at gone
      cases gone
    rw [node_prune test gone, isDirectoryAt, node_prune test kept]
    exact found

theorem Passable.entry_eq (named : tree.entry (path ++ [name]) = some location) :
    location = path ++ [name] ∧ tree.isDirectoryAt path = true ∧ IsEntryName name := by
  obtain ⟨front, last, directory, same, rfl, leads, there, entryName⟩ := entry_eq_some.mp named
  obtain ⟨rfl, sameName⟩ := append_inj' same rfl
  obtain rfl := singleton_inj.mp sameName
  rw [passable.canonicalize] at leads
  split at leads
  · cases leads
    exact ⟨rfl, there, entryName⟩
  · cases leads

theorem Passable.canonicalize_concat_of_missing (missing : tree.isDirectoryAt path = false) :
    tree.canonicalize (path ++ [name]) = none := by
  have fromRoot : Passable tree ([] ++ path) := passable
  have stuck := fromRoot.descend_stuck isDirectoryAt_nil missing
  have failed := descend_append_of_stuck stuck (cons_ne_nil name [])
  rw [FileTree.canonicalize]
  cases limit : tree.linkLimit <;> rw [walk, failed]

theorem Passable.symlinkMetadata_concat (entryName : IsEntryName name) :
    tree.symlinkMetadata (path ++ [name]) =
      if tree.isDirectoryAt path = true then tree.node (path ++ [name]) else none := by
  rw [symlinkMetadata, passable.entry_concat entryName]
  cases there : tree.isDirectoryAt path with
  | true => rfl
  | false =>
    simp only [Bool.false_eq_true, if_false]
    rw [metadata, passable.canonicalize_concat_of_missing there]
    rfl

end

variable {done : Done Content}

theorem Passable.removeFile_concat (passable : Passable tree path)
    (through : tree.removeFile (path ++ [name]) = some done) :
    done.tree = tree.prune (path ++ [name] <+: ·) := by
  obtain ⟨location, named, through⟩ := bind_eq_some_iff.mp through
  obtain ⟨rfl, -⟩ := passable.entry_eq named
  split at through
  · cases through
  · cases through
  · cases through
    rfl

theorem bare_concat (entryName : IsEntryName name) : bare (path ++ [name]) = path ++ [name] := by
  rw [bare, reverse_append, reverse_singleton, singleton_append,
    dropWhile_cons_of_neg (by simpa using entryName.1.1)]
  simp

theorem Passable.removeDirAll_concat {finished : Bool} (passable : Passable tree path)
    (entryName : IsEntryName name)
    (through : tree.removeDirAll (path ++ [name]) = some (done, finished)) :
    done.tree = tree.prune (path ++ [name] <+: ·) ∧ finished = true := by
  unfold removeDirAll at through
  rw [bare_concat entryName] at through
  cases named : tree.entry (path ++ [name]) with
  | none =>
    rw [named] at through
    obtain ⟨location, leads, -⟩ := clearDir_spec through
    cases directory : tree.isDirectoryAt path with
    | false =>
      rw [passable.canonicalize_concat_of_missing directory] at leads
      cases leads
    | true =>
      rw [passable.entry_concat entryName, if_pos directory] at named
      cases named
  | some location =>
    obtain ⟨rfl, -⟩ := passable.entry_eq named
    rw [named] at through
    simp only at through
    split at through
    · cases through
      exact ⟨rfl, rfl⟩
    · rw [if_pos trivial] at through
      cases through
      exact ⟨rfl, rfl⟩
    · cases through

/-- What leads somewhere and is no plain or special file can be removed with all that is in it. -/
theorem Passable.removeDirAll_of_exists (passable : Passable tree path)
    (entryName : IsEntryName name) (there : tree.fileExists (path ++ [name]) = true)
    (holds : ∀ found ∈ tree.node (path ++ [name]),
      found = .directory ∨ ∃ target, found = .link target) :
    tree.removeDirAll (path ++ [name]) =
      some (⟨.remove (path ++ [name]), tree.prune (path ++ [name] <+: ·)⟩, true) := by
  obtain ⟨last, leads⟩ := isSome_iff_exists.mp there
  have directory : tree.isDirectoryAt path = true := by
    by_contra missing
    rw [passable.canonicalize_concat_of_missing (Bool.not_eq_true _ ▸ missing)] at leads
    cases leads
  rw [removeDirAll, bare_concat entryName, passable.entry_concat entryName, if_pos directory]
  simp only
  cases found : tree.node (path ++ [name]) with
  | none =>
    have solid : tree.isLinkAt (path ++ [name]) = false := by rw [isLinkAt, found]
    rw [passable.canonicalize_concat entryName solid, found] at leads
    simp at leads
  | some node =>
    obtain rfl | ⟨target, rfl⟩ := holds node found
    · rfl
    · simp

/-! ### Renaming -/

/-- What a rename does: what was below the source is below the destination, and nothing else is
there. -/
theorem rename_nodes {old new : FilePath} (through : tree.rename old new = some done) :
    ∃ source destination, tree.entry old = some source ∧ tree.entry new = some destination ∧
      (source = destination ∧ done.tree = tree ∨
        ¬ source <+: destination ∧ ¬ destination <+: source ∧
        (∀ rest, done.tree.node (destination ++ rest) = tree.node (source ++ rest)) ∧
        (∀ rest, done.tree.node (source ++ rest) = none) ∧
        ∀ location, ¬ source <+: location → ¬ destination <+: location →
          done.tree.node location = tree.node location) := by
  obtain ⟨source, oldNamed, through⟩ := bind_eq_some_iff.mp through
  obtain ⟨destination, newNamed, through⟩ := bind_eq_some_iff.mp through
  obtain ⟨found, held, through⟩ := bind_eq_some_iff.mp through
  refine ⟨source, destination, oldNamed, newNamed, ?_⟩
  split at through
  · cases through
    exact .inl ⟨‹_›, rfl⟩
  · split at through
    · cases through
    next differs apart =>
      obtain ⟨notBelow, notAbove⟩ := not_or.mp apart
      have moved : done = ⟨.rename source destination,
          { tree with nodes := tree.nodes.rekey (relocate source destination) }⟩ := by
        simp only at through
        split at through
        · exact (some.inj through).symm
        · split at through
          · exact (some.inj through).symm
          · cases through
        · cases through
        · cases through
        · exact (some.inj through).symm
      obtain rfl := moved
      have sourceRoot := entry_ne_nil oldNamed
      have destinationRoot := entry_ne_nil newNamed
      refine .inr ⟨notBelow, notAbove, fun rest => ?_, fun rest => ?_, fun location aside beside =>
        framed_rename source destination location (not_or.mpr ⟨aside, beside⟩)⟩
      · rw [node, node, if_neg fun none => destinationRoot (append_eq_nil_iff.mp none).1,
          if_neg fun none => sourceRoot (append_eq_nil_iff.mp none).1]
        refine KeyMap.lookup_rekey (fun other => ?_) _
        unfold relocate
        split
        next below =>
          obtain ⟨further, rfl⟩ := below
          rw [drop_left, some.injEq, append_cancel_left_eq, append_cancel_left_eq]
        next aside =>
          split
          · refine iff_of_false (by simp) ?_
            rintro rfl
            exact aside (prefix_append _ _)
          next beside =>
            refine iff_of_false ?_ ?_
            · intro same
              exact beside (some.inj same ▸ prefix_append _ _)
            · rintro rfl
              exact aside (prefix_append _ _)
      · rw [node, if_neg fun none => sourceRoot (append_eq_nil_iff.mp none).1]
        refine KeyMap.lookup_rekey_of_none (fun other same => ?_) _
        unfold relocate at same
        split at same
        · have both := some.inj same
          rcases prefix_or_prefix_of_prefix
            (both ▸ prefix_append destination (other.drop source.length))
            (prefix_append source rest) with above | below
          · exact notAbove above
          · exact notBelow below
        next aside =>
          split at same
          · cases same
          · exact aside (some.inj same ▸ prefix_append _ _)

theorem rename_of_free {old new source destination : FilePath} {found : FileNode Content}
    (oldNamed : tree.entry old = some source) (newNamed : tree.entry new = some destination)
    (held : tree.node source = some found) (free : tree.node destination = none)
    (notBelow : ¬ source <+: destination) (notAbove : ¬ destination <+: source) :
    ∃ done, tree.rename old new = some done := by
  have differs : source ≠ destination := by
    rintro rfl
    exact notBelow prefix_rfl
  refine ⟨⟨.rename source destination,
    { tree with nodes := tree.nodes.rekey (relocate source destination) }⟩, ?_⟩
  rw [rename, oldNamed, newNamed]
  simp [held, if_neg differs, if_neg (not_or.mpr ⟨notBelow, notAbove⟩), free]

end FileTree
