/-
This file is what the calls to a host do to its files: a removal that ends with an error has only
removed.
-/

import Dinotty.Workspace.RemoteFiles

namespace Dinotty.Workspace.RemoteFiles

open FileTree List Option Program.Keeps

variable {Content : Type}

/-! ### Calls -/

def Quiet (remote : Remote Content) : Prop := ∀ error ∈ remote.errors, error = false

/-- What holds of the files, and that no call ends with an error if that is assumed. -/
def At (calm : Prop) (holds : FileTree Content → Prop) (remote : Remote Content) : Prop :=
  holds remote.tree ∧ (calm → Quiet remote)

variable {calm : Prop} {holds : FileTree Content → Prop} {login : FilePath}
  {home : Option RemoteHome} {tree : FileTree Content} {Value : Type}

variable {operation : FileTree Content → Option (FileTree Content × Value)}

/-- What a call does, it does to the files; if no call ends with an error, it fails only by
itself. -/
theorem leads_call (after : Value → FileTree Content → Prop) (failed : FileTree Content → Prop)
    (answered : ∀ tree value later, holds tree → operation tree = some (later, value) →
      after value later)
    (refused : ∀ tree, holds tree → (calm → operation tree = none) → failed tree) :
    Program.Leads (At calm holds) (call operation) (fun value => At calm (after value))
      (At calm failed) := by
  rintro ⟨tree, errors⟩ ⟨there, quiet⟩
  unfold call
  cases errors with
  | nil =>
    dsimp only
    cases res : operation tree with
    | none => exact ⟨refused tree there fun _ => res, fun _ _ mem => by cases mem⟩
    | some outcome => exact ⟨answered tree _ _ there res, fun _ _ mem => by cases mem⟩
  | cons error rest =>
    have quietRest (isCalm : calm) : ∀ error ∈ rest, error = false :=
      fun other mem => quiet isCalm other (mem_cons_of_mem error mem)
    cases error with
    | true =>
      refine ⟨refused tree there fun isCalm => ?_, quietRest⟩
      exact absurd (quiet isCalm true mem_cons_self) (by decide)
    | false =>
      dsimp only
      cases res : operation tree with
      | none => exact ⟨refused tree there fun _ => res, quietRest⟩
      | some outcome => exact ⟨answered tree _ _ there res, quietRest⟩

theorem leads_through {value : Value} {later : FileTree Content}
    (through : operation tree = some (later, value)) :
    Program.Leads (At calm (· = tree)) (call operation)
      (fun found => At calm fun files => found = value ∧ files = later)
      fun remote => remote.tree = tree ∧ ¬ calm := by
  have answer : Program.Leads (At calm (· = tree)) (call operation)
      (fun found => At calm fun files => found = value ∧ files = later)
      (At calm fun files => files = tree ∧ ¬ calm) := by
    refine leads_call _ _ ?_ ?_
    · rintro files found after rfl answered
      rw [through] at answered
      cases answered
      exact ⟨rfl, rfl⟩
    · rintro files rfl refused
      refine ⟨rfl, fun isCalm => ?_⟩
      rw [through] at refused
      cases refused isCalm
  exact answer.mono (fun _ there => there) (fun _ _ there => there) fun _ there => there.1

theorem leads_each {program : Program (Remote Content) Value}
    {after : Value → Remote Content → Prop} {failed : Remote Content → Prop}
    (each : ∀ files, holds files → Program.Leads (At calm (· = files)) program after failed) :
    Program.Leads (At calm holds) program after failed :=
  fun remote there => each remote.tree there.1 remote ⟨rfl, there.2⟩

/-! ### Removing a directory -/

variable {location : FilePath}

theorem trimEndSlashes_render (grounded : Grounded tree) (there : (tree.node location).isSome) :
    trimEndSlashes (render location) = location.flatMap fun name => '/' :: name := by
  rcases eq_nil_or_concat' location with rfl | ⟨front, name, rfl⟩
  · simp [trimEndSlashes, render, rdropWhile]
  · obtain ⟨entryName, plain, -⟩ := grounded.parent there
    have text : render (front ++ [name]) =
        (front.flatMap fun name => '/' :: name) ++ '/' :: name := by
      cases front <;> simp [render]
    have last : ∀ nonempty : (front.flatMap fun name => '/' :: name) ++ '/' :: name ≠ [],
        ¬ decide (((front.flatMap fun name => '/' :: name) ++ '/' :: name).getLast nonempty = '/')
          = true := by
      intro nonempty isSlash
      rw [getLast_append_of_ne_nil _ (cons_ne_nil _ _), getLast_cons entryName.1.1] at isSlash
      exact plain (of_decide_eq_true isSlash ▸ getLast_mem entryName.1.1)
    rw [text, trimEndSlashes, rdropWhile_eq_self_iff.mpr last]
    simp

variable {directory : FilePath}

theorem child_render (grounded : Grounded tree) (there : (tree.node directory).isSome)
    (name : FileName) :
    trimEndSlashes (render directory) ++ '/' :: name = render (directory ++ [name]) := by
  rw [trimEndSlashes_render grounded there]
  cases directory <;> simp [render]

/-- No node is deeper than a bound. -/
def Bounded (bound : Nat) (tree : FileTree Content) : Prop :=
  ∀ location, (tree.node location).isSome → location.length ≤ bound

variable {bound : Nat}

theorem Bounded.without {gone : FilePath → Prop} {after : FileTree Content}
    (bounded : Bounded bound tree) (without : tree.Without gone after) : Bounded bound after := by
  intro location there
  by_cases isGone : gone location
  · rw [without.1 location isGone] at there
    cases there
  · rw [without.2 location isGone] at there
    exact bounded location there

/-- What is in the files once an entry with all below it is removed. -/
structure Left (tree : FileTree Content) (bound : Nat) (gone : FilePath → Prop)
    (files : FileTree Content) : Prop where
  without : tree.Without gone files
  grounded : Grounded files
  bounded : Bounded bound files

theorem Left.of_without {files : FileTree Content} (grounded : Grounded tree)
    (bounded : Bounded bound tree) (without : tree.Without (location <+: ·) files) :
    Left tree bound (location <+: ·) files :=
  ⟨without, grounded.without without fun _ _ below => below.trans (prefix_append _ _),
    bounded.without without⟩

/-- The entries of a directory that are listed: itself and the one above, and others that are
there. -/
def Listed (tree : FileTree Content) (directory : FilePath)
    (entries : List (FileName × FileNode Content)) : Prop :=
  (entries.map Prod.fst).Nodup ∧
    ∀ entry ∈ entries, ¬ (entry.1 = currentName ∨ entry.1 = parentName) →
      tree.node (directory ++ [entry.1]) = some entry.2

def BelowEntries (directory : FilePath) (entries : List (FileName × FileNode Content))
    (location : FilePath) : Prop :=
  ∃ entry ∈ entries, ¬ (entry.1 = currentName ∨ entry.1 = parentName) ∧
    directory ++ [entry.1] <+: location

variable {removeBelow : List Char → Program (Remote Content) Unit}

/-- The directories in a directory are removed with all that is in them. -/
def RemovesBelow (calm : Prop) (bound : Nat) (directory : FilePath)
    (removeBelow : List Char → Program (Remote Content) Unit) : Prop :=
  ∀ (files : FileTree Content) (name : FileName), Grounded files → Bounded bound files →
    files.isDirectoryAt (directory ++ [name]) = true →
      Program.Leads (At calm (· = files)) (removeBelow (render (directory ++ [name])))
        (fun _ => At calm (Left files bound (directory ++ [name] <+: ·))) fun _ => ¬ calm

theorem removeEntry_leads (login : FilePath) (below : RemovesBelow calm bound directory removeBelow)
    (entry : FileName × FileNode Content) (grounded : Grounded tree) (bounded : Bounded bound tree)
    (isDirectory : tree.isDirectoryAt directory = true)
    (listed : ¬ (entry.1 = currentName ∨ entry.1 = parentName) →
      tree.node (directory ++ [entry.1]) = some entry.2) :
    Program.Leads (At calm (· = tree)) (removeEntry login removeBelow (render directory) entry)
      (fun _ => At calm (Left tree bound (BelowEntries directory [entry]))) fun _ => ¬ calm := by
  obtain ⟨name, found⟩ := entry
  unfold removeEntry
  refine Program.Leads.ite (fun isDot => ?_) fun notDot => ?_
  · refine Program.Leads.pure fun remote there => ⟨?_, there.2⟩
    obtain ⟨rfl, -⟩ := there
    refine ⟨⟨fun location gone => ?_, fun _ _ => rfl⟩, grounded, bounded⟩
    obtain ⟨entry, mem, notDot, -⟩ := gone
    exact absurd (mem_singleton.mp mem ▸ isDot) notDot
  · have there := listed notDot
    have same (location : FilePath) : directory ++ [name] <+: location ↔
        BelowEntries directory [(name, found)] location :=
      ⟨fun isBelow => ⟨_, mem_singleton_self _, notDot, isBelow⟩, fun isBelow => by
        obtain ⟨entry, mem, -, isBelow⟩ := isBelow
        rwa [mem_singleton.mp mem] at isBelow⟩
    have removed (files : FileTree Content)
        (without : tree.Without (directory ++ [name] <+: ·) files) :
        Left tree bound (BelowEntries directory [(name, found)]) files := by
      have left := Left.of_without grounded bounded without
      exact ⟨left.without.congr same, left.grounded, left.bounded⟩
    dsimp only
    rw [child_render grounded (node_isSome_of_isDirectoryAt isDirectory)]
    have file (solid : found ≠ .directory) : Program.Leads (At calm (· = tree))
        (removeFile login (render (directory ++ [name])))
        (fun _ => At calm (Left tree bound (BelowEntries directory [(name, found)])))
        fun _ => ¬ calm := by
      have through := grounded.removeFile_render (concat_ne_nil name directory) there solid login
      refine (leads_through (by rw [through]; rfl)).mono (fun _ there => there)
        (fun _ remote there => ⟨?_, there.2⟩) fun _ there => there.2
      rw [there.1.2]
      exact removed _ (without_prune_below (concat_ne_nil name directory))
    cases found with
    | directory =>
      refine (below tree name grounded bounded (isDirectoryAt_iff.mpr there)).mono
        (fun _ there => there) (fun _ remote there => ⟨?_, there.2⟩) fun _ there => there
      exact removed _ there.1.without
    | file | link | special => exact file (by simp)

theorem removeEntries_leads (login : FilePath)
    (below : RemovesBelow calm bound directory removeBelow)
    (entries : List (FileName × FileNode Content)) (grounded : Grounded tree)
    (bounded : Bounded bound tree) (isDirectory : tree.isDirectoryAt directory = true)
    (listed : Listed tree directory entries) :
    Program.Leads (At calm (· = tree)) (removeEntries login removeBelow (render directory) entries)
      (fun _ => At calm (Left tree bound (BelowEntries directory entries))) fun _ => ¬ calm := by
  induction entries generalizing tree with
  | nil =>
    refine Program.Leads.pure fun remote there => ⟨?_, there.2⟩
    obtain ⟨rfl, -⟩ := there
    refine ⟨⟨fun location gone => ?_, fun _ _ => rfl⟩, grounded, bounded⟩
    obtain ⟨entry, mem, -⟩ := gone
    cases mem
  | cons entry rest ih =>
    obtain ⟨nodup, held⟩ := listed
    rw [map_cons, nodup_cons] at nodup
    have first := removeEntry_leads login below entry grounded bounded isDirectory
      (held entry mem_cons_self)
    refine Program.Leads.bind first fun _ => leads_each fun files left => ?_
    have stays (location : FilePath) (kept : ¬ directory ++ [entry.1] <+: location) :
        files.node location = tree.node location := by
      refine left.without.2 location fun gone => kept ?_
      obtain ⟨other, mem, -, isBelow⟩ := gone
      rwa [mem_singleton.mp mem] at isBelow
    have directoryLeft : files.isDirectoryAt directory = true := by
      have above : ¬ directory ++ [entry.1] <+: directory := fun isBelow => by
        have short := isBelow.length_le
        rw [length_append, length_singleton] at short
        omega
      rw [isDirectoryAt_iff, stays directory above]
      exact node_of_isDirectoryAt isDirectory
    have listedRest : Listed files directory rest := by
      refine ⟨nodup.2, fun other mem notDot => ?_⟩
      rw [stays _ fun isBelow => ?_, held other (mem_cons_of_mem entry mem) notDot]
      have same := isBelow.eq_of_length (by simp)
      obtain ⟨-, names⟩ := append_inj' same rfl
      exact nodup.1 (singleton_inj.mp names ▸ mem_map_of_mem mem)
    refine (ih left.grounded left.bounded directoryLeft listedRest).mono
      (fun _ there => there) (fun _ remote there => ⟨?_, there.2⟩) fun _ there => there
    refine ⟨(left.without.trans there.1.without).congr fun location => ?_, there.1.grounded,
      there.1.bounded⟩
    simp [BelowEntries]

theorem readDir_render (grounded : Grounded tree)
    (isDirectory : tree.isDirectoryAt directory = true) (login : FilePath) :
    ∃ entries, (tree.readDir (join login (render directory))).map
        (fun found => (tree, listing tree found.1 found.2)) = some (tree, entries) ∧
      Listed tree directory entries ∧
      ∀ name, (tree.node (directory ++ [name])).isSome →
        ∃ entry ∈ entries, entry.1 = name ∧ ¬ (name = currentName ∨ name = parentName) := by
  have there := node_isSome_of_isDirectoryAt isDirectory
  obtain ⟨names, listed, nodup, isName⟩ := (grounded.passable isDirectory).readDir isDirectory
  have leads : tree.readDir (join login (render directory)) = some (directory, names) := by
    rw [← listed, FileTree.readDir, FileTree.readDir,
      grounded.canonicalize_render there (isLinkAt_of_isDirectoryAt isDirectory),
      (grounded.passable isDirectory).canonicalize, if_pos isDirectory]
  have normal (name : FileName) (held : (tree.node (directory ++ [name])).isSome) :
      ¬ (name = currentName ∨ name = parentName) := by
    obtain ⟨⟨entryName, -⟩, -⟩ := grounded.parent held
    exact fun isDot => isDot.elim entryName.2.1 entryName.2.2
  have others : (names.filterMap fun name =>
      (tree.node (directory ++ [name])).map fun found => (name, found)).map Prod.fst = names := by
    rw [map_filterMap]
    refine (filterMap_congr fun name mem => ?_).trans filterMap_some
    obtain ⟨found, held⟩ := isSome_iff_exists.mp ((isName name).mp mem)
    rw [held]
    rfl
  have noDot (name : FileName) (isDot : name = currentName ∨ name = parentName) : name ∉ names :=
    fun mem => normal name ((isName name).mp mem) isDot
  refine ⟨listing tree directory names, by rw [leads]; rfl, ⟨?_, ?_⟩, ?_⟩
  · rw [listing, map_cons, map_cons, others, nodup_cons, nodup_cons]
    refine ⟨fun mem => ?_, noDot _ (Or.inr rfl), nodup⟩
    rcases mem_cons.mp mem with same | further
    · exact absurd (show currentName = parentName from same) (by decide)
    · exact noDot _ (Or.inl rfl) further
  · intro entry mem notDot
    rcases mem_cons.mp mem with rfl | mem
    · exact absurd (Or.inl rfl) notDot
    · rcases mem_cons.mp mem with rfl | mem
      · exact absurd (Or.inr rfl) notDot
      · obtain ⟨name, -, isEntry⟩ := mem_filterMap.mp mem
        obtain ⟨found, held, rfl⟩ := map_eq_some_iff.mp isEntry
        exact held
  · intro name held
    obtain ⟨found, isFound⟩ := isSome_iff_exists.mp held
    refine ⟨(name, found), ?_, rfl, normal name held⟩
    refine mem_cons_of_mem _ (mem_cons_of_mem _ (mem_filterMap.mpr ?_))
    exact ⟨name, (isName name).mpr held, by rw [isFound]; rfl⟩

/-- All that is in a directory goes, if the directories in it can be removed. -/
theorem listed_leads (login : FilePath) (below : RemovesBelow calm bound directory removeBelow)
    (grounded : Grounded tree) (bounded : Bounded bound tree)
    (isDirectory : tree.isDirectoryAt directory = true) :
    Program.Leads (At calm (· = tree)) (readDir login (render directory) >>= fun entries =>
        removeEntries login removeBelow (render directory) entries)
      (fun _ => At calm fun files =>
        Left tree bound (fun location => location ≠ directory ∧ directory <+: location) files ∧
          ∀ name, files.node (directory ++ [name]) = none) fun _ => ¬ calm := by
  obtain ⟨entries, through, listed, complete⟩ := readDir_render grounded isDirectory login
  refine Program.Leads.bind ((leads_through through).mono (fun _ there => there)
    (fun _ _ there => there) fun _ there => there.2) fun found => leads_each fun files there => ?_
  obtain ⟨rfl, rfl⟩ := there
  refine (removeEntries_leads login below found grounded bounded isDirectory listed).mono
    (fun _ there => there) (fun _ remote there => ⟨?_, there.2⟩) fun _ there => there
  obtain ⟨⟨without, groundedLeft, boundedLeft⟩, -⟩ := there
  have inside (location : FilePath) (gone : BelowEntries directory found location) :
      location ≠ directory ∧ directory <+: location := by
    obtain ⟨entry, -, -, rest, rfl⟩ := gone
    refine ⟨fun same => ?_, ⟨entry.1 :: rest, by simp⟩⟩
    have length := congrArg length same
    simp only [length_append, length_singleton] at length
    omega
  have emptied (location : FilePath) (isInside : location ≠ directory ∧ directory <+: location) :
      remote.tree.node location = none := by
    by_cases gone : BelowEntries directory found location
    · exact without.1 location gone
    · rw [without.2 location gone]
      by_contra there
      obtain ⟨further, rest, rfl⟩ := isInside
      cases rest with
      | nil => exact further (append_nil directory)
      | cons name rest =>
        have child : directory ++ [name] <+: directory ++ name :: rest := ⟨rest, by simp⟩
        obtain ⟨entry, mem, rfl, notDot⟩ := complete name
          (grounded.node_of_prefix (ne_none_iff_isSome.mp there) child)
        exact gone ⟨entry, mem, notDot, child⟩
  refine ⟨⟨⟨emptied, fun location kept => without.2 location fun gone => kept (inside _ gone)⟩,
    groundedLeft, boundedLeft⟩, fun name => emptied _ ⟨by simp, prefix_append _ _⟩⟩

theorem removeDirRecursive_leads {depth : Nat} (below : location ≠ []) (grounded : Grounded tree)
    (bounded : Bounded bound tree) (isDirectory : tree.isDirectoryAt location = true)
    (deep : bound < location.length + depth) :
    Program.Leads (At calm (· = tree)) (removeDirRecursive login depth (render location))
      (fun _ => At calm (Left tree bound (location <+: ·))) fun _ => ¬ calm := by
  induction depth generalizing tree location with
  | zero =>
    have short := bounded location (node_isSome_of_isDirectoryAt isDirectory)
    omega
  | succ depth ih =>
    rw [removeDirRecursive, ← Program.bind_assoc]
    have inside := listed_leads login (fun files name groundedFiles boundedFiles isBelow =>
      ih (concat_ne_nil name location) groundedFiles boundedFiles isBelow
        (by rw [length_append, length_singleton]; omega)) grounded bounded isDirectory
    refine Program.Leads.bind inside fun _ => leads_each fun files there => ?_
    obtain ⟨left, empty⟩ := there
    have stays : files.isDirectoryAt location = true := by
      rw [isDirectoryAt_iff, left.without.2 location fun inside => inside.1 rfl]
      exact node_of_isDirectoryAt isDirectory
    have through := left.grounded.removeDir_render below stays empty login
    refine (leads_through (by rw [through]; rfl)).mono (fun _ there => there)
      (fun _ remote there => ⟨?_, there.2⟩) fun _ there => there.2
    rw [there.1.2]
    refine Left.of_without grounded bounded ((left.without.trans
      (without_prune_below below)).congr fun other => ?_)
    exact ⟨fun gone => gone.elim And.right id, Or.inr⟩

theorem removeDirRecursive_root {depth : Nat} (grounded : Grounded tree)
    (bounded : Bounded bound tree) (deep : bound ≤ depth) :
    Program.Leads (At calm (· = tree)) (removeDirRecursive login (depth + 1) (render []))
      (fun _ _ => False) fun remote => calm → ∀ name, remote.tree.node [name] = none := by
  rw [removeDirRecursive, ← Program.bind_assoc]
  have below : RemovesBelow calm bound []
      (removeDirRecursive login depth : _ → Program (Remote Content) Unit) :=
    fun _ name groundedFiles boundedFiles isBelow =>
      removeDirRecursive_leads (concat_ne_nil name []) groundedFiles boundedFiles isBelow
        (Nat.lt_one_add_iff.mpr deep)
  have emptied := listed_leads login below grounded bounded isDirectoryAt_nil
  refine Program.Leads.bind (emptied.mono (fun _ there => there) (fun _ _ there => there)
    fun _ loud isCalm => absurd isCalm loud) fun _ => ?_
  refine (leads_call (fun _ _ => False) (fun files => ∀ name, files.node [name] = none) ?_ ?_).mono
    (fun _ there => there) (fun _ _ there => there.1) fun _ there _ => there.1
  · intro files value later _ answered
    rw [removeDir_root] at answered
    cases answered
  · exact fun files there _ => there.2

/-! ### Removing only -/

/-- Nothing is in the files that was not there before. -/
def Shrinks (tree files : FileTree Content) : Prop :=
  ∀ location, files.node location = none ∨ files.node location = tree.node location

theorem Shrinks.prune {files : FileTree Content} (shrinks : Shrinks tree files)
    (test : FilePath → Bool) : Shrinks tree (files.prune test) := by
  intro location
  by_cases below : location = []
  · exact Or.inr (by rw [below, node_nil, node_nil])
  · cases gone : test location with
    | true => exact Or.inl (node_prune_of_test below gone)
    | false =>
      rw [node_prune test gone]
      exact shrinks location

/-- A program adds nothing to the files. -/
def OnlyShrinks {Value : Type} (tree : FileTree Content)
    (program : Program (Remote Content) Value) : Prop :=
  program.Keeps (fun remote => Shrinks tree remote.tree) fun _ => True

theorem call_shrinks (keeps : ∀ files value later, operation files = some (later, value) →
      later = files ∨ ∃ test, later = files.prune test) :
    OnlyShrinks tree (call operation) := by
  have led : Program.Leads (At False (Shrinks tree)) (call operation)
      (fun _ => At False (Shrinks tree)) (At False (Shrinks tree)) := by
    refine leads_call _ _ (fun files value later shrinks answered => ?_) fun _ shrinks _ => shrinks
    rcases keeps files value later answered with rfl | ⟨test, rfl⟩
    · exact shrinks
    · exact shrinks.prune test
  exact led.mono (fun _ there => ⟨there, False.elim⟩) (fun _ _ there => ⟨trivial, there.1⟩)
    fun _ there => there.1

theorem removeFile_shrinks (path : List Char) : OnlyShrinks tree (removeFile login path) := by
  refine call_shrinks fun files value later answered => Or.inr ?_
  obtain ⟨done, through, same⟩ := map_eq_some_iff.mp answered
  obtain ⟨location, -, through⟩ := bind_eq_some_iff.mp through
  cases same
  split at through
  · cases through
  · cases through
  · exact ⟨_, congrArg Done.tree (some.inj through).symm⟩

theorem removeDir_shrinks (path : List Char) : OnlyShrinks tree (removeDir login path) := by
  refine call_shrinks fun files value later answered => Or.inr ?_
  obtain ⟨after, through, same⟩ := map_eq_some_iff.mp answered
  obtain ⟨location, -, through⟩ := bind_eq_some_iff.mp through
  cases same
  split at through
  · split at through
    · cases through
    · exact ⟨_, (some.inj through).symm⟩
  · cases through

theorem removeEntries_shrinks
    (below : ∀ path, OnlyShrinks tree (removeBelow path)) (path : List Char)
    (entries : List (FileName × FileNode Content)) :
    OnlyShrinks tree (removeEntries login removeBelow path entries) := by
  induction entries with
  | nil => exact pure trivial
  | cons entry rest ih =>
    have first : OnlyShrinks tree (removeEntry login removeBelow path entry) := by
      unfold removeEntry
      refine ite (fun _ => pure trivial) fun _ => ?_
      dsimp only
      split
      · exact below _
      · exact removeFile_shrinks _
    exact first.bind fun _ _ => ih

theorem removeDirRecursive_shrinks (depth : Nat) (path : List Char) :
    OnlyShrinks tree (removeDirRecursive login depth path) := by
  induction depth generalizing path with
  | zero => exact fail
  | succ depth ih =>
    have listing : OnlyShrinks tree (readDir login path) := by
      refine call_shrinks fun files value later answered => ?_
      obtain ⟨found, -, same⟩ := map_eq_some_iff.mp answered
      exact Or.inl (Prod.mk.inj same).1.symm
    exact listing.bind fun _ _ => (removeEntries_shrinks ih _ _).bind
      fun _ _ => removeDir_shrinks _

end Dinotty.Workspace.RemoteFiles
