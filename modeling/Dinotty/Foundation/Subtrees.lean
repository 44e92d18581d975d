/-
This file is about trees whose nodes all lie in directories, as those of a file system do.
-/

import Dinotty.Foundation.Directories

namespace FileTree

open List Option

variable {Content : Type} {tree : FileTree Content} {here location path : FilePath}

/-! ### Grounded trees -/

/-- Every node lies in a directory, under a name of an entry. -/
def Grounded (tree : FileTree Content) : Prop :=
  ∀ location, location ≠ [] → (tree.node location).isSome →
    ∃ directory name, location = directory ++ [name] ∧ IsEntryName name ∧ '/' ∉ name ∧
      tree.isDirectoryAt directory = true

theorem Grounded.parent {name : FileName} (grounded : Grounded tree)
    (there : (tree.node (here ++ [name])).isSome) :
    IsEntryName name ∧ '/' ∉ name ∧ tree.isDirectoryAt here = true := by
  obtain ⟨dir, last, same, entryName, plain, isDirectory⟩ :=
    grounded (here ++ [name]) (concat_ne_nil name here) there
  obtain ⟨rfl, names⟩ := append_inj' same rfl
  obtain rfl := singleton_inj.mp names
  exact ⟨entryName, plain, isDirectory⟩

theorem node_isSome_of_isDirectoryAt (dir : tree.isDirectoryAt location = true) :
    (tree.node location).isSome := by
  rw [node_of_isDirectoryAt dir]
  rfl

section

variable (grounded : Grounded tree)
include grounded

theorem Grounded.isDirectoryAt_of_prefix {rest : List FileName}
    (there : (tree.node (here ++ rest)).isSome) (below : rest ≠ []) :
    tree.isDirectoryAt here = true := by
  induction rest using reverseRecOn with
  | nil => exact absurd rfl below
  | append_singleton front name ih =>
    rw [← append_assoc] at there
    have dir := (grounded.parent there).2.2
    by_cases last : front = []
    · rwa [last, append_nil] at dir
    · exact ih (node_isSome_of_isDirectoryAt dir) last

theorem Grounded.node_of_prefix (there : (tree.node location).isSome) (below : here <+: location) :
    (tree.node here).isSome := by
  obtain ⟨rest, rfl⟩ := below
  by_cases last : rest = []
  · rwa [last, append_nil] at there
  · exact node_isSome_of_isDirectoryAt (grounded.isDirectoryAt_of_prefix there last)

theorem Grounded.located (there : (tree.node location).isSome)
    (solid : tree.isLinkAt location = false) : Located tree location := by
  induction location using reverseRecOn with
  | nil => exact located_nil
  | append_singleton front name ih =>
    obtain ⟨entryName, -, dir⟩ := grounded.parent there
    exact (ih (node_isSome_of_isDirectoryAt dir)
      (isLinkAt_of_isDirectoryAt dir)).concat entryName.1 entryName.2 dir there solid

theorem Grounded.passable (dir : tree.isDirectoryAt path = true) : Passable tree path := by
  intro front name further
  have there := grounded.node_of_prefix (node_isSome_of_isDirectoryAt dir) further
  obtain ⟨entryName, -, isDirectory⟩ := grounded.parent there
  refine ⟨entryName, Or.inr ⟨?_, isDirectory⟩⟩
  obtain ⟨rest, rfl⟩ := further
  by_cases last : rest = []
  · rw [last, append_nil] at dir
    exact node_of_isDirectoryAt dir
  · exact node_of_isDirectoryAt (grounded.isDirectoryAt_of_prefix
      (node_isSome_of_isDirectoryAt dir) last)

end

/-! ### What is left of a tree -/

/-- A tree without the nodes at some locations. -/
def Without (before : FileTree Content) (gone : FilePath → Prop) (after : FileTree Content) :
    Prop :=
  (∀ location, gone location → after.node location = none) ∧
    ∀ location, ¬ gone location → after.node location = before.node location

variable {after : FileTree Content}

theorem Grounded.without {gone : FilePath → Prop} (grounded : Grounded tree)
    (without : tree.Without gone after)
    (closed : ∀ location name, gone location → gone (location ++ [name])) : Grounded after := by
  intro location below there
  have kept : ¬ gone location := by
    intro isGone
    rw [without.1 location isGone] at there
    cases there
  rw [without.2 location kept] at there
  obtain ⟨directory, name, rfl, entryName, plain, isDirectory⟩ := grounded location below there
  have keptAbove : ¬ gone directory := fun isGone => kept (closed directory name isGone)
  refine ⟨directory, name, rfl, entryName, plain, ?_⟩
  rw [isDirectoryAt_iff, without.2 directory keptAbove]
  exact node_of_isDirectoryAt isDirectory

theorem without_prune {test : FilePath → Bool} (root : test [] = false) :
    tree.Without (test · = true) (tree.prune test) := by
  refine ⟨fun location gone => ?_, fun location kept => ?_⟩
  · refine node_prune_of_test ?_ gone
    rintro rfl
    rw [root] at gone
    cases gone
  · exact node_prune test (Bool.not_eq_true _ ▸ kept)

theorem without_prune_below (below : location ≠ []) :
    tree.Without (location <+: ·) (tree.prune fun other => location <+: other) := by
  have root : decide (location <+: []) = false :=
    decide_eq_false fun above => below (prefix_nil.mp above)
  have without : tree.Without (fun other => decide (location <+: other) = true)
      (tree.prune fun other => location <+: other) := without_prune root
  exact ⟨fun other gone => without.1 other (decide_eq_true gone),
    fun other kept => without.2 other fun gone => kept (of_decide_eq_true gone)⟩

theorem Without.trans {first second : FilePath → Prop} {middle : FileTree Content}
    (earlier : tree.Without first middle) (later : middle.Without second after) :
    tree.Without (fun location => first location ∨ second location) after := by
  refine ⟨fun location gone => ?_, fun location kept => ?_⟩
  · by_cases last : second location
    · exact later.1 location last
    · rw [later.2 location last]
      exact earlier.1 location (gone.resolve_right last)
  · obtain ⟨notFirst, notSecond⟩ := not_or.mp kept
    rw [later.2 location notSecond, earlier.2 location notFirst]

theorem Without.congr {gone other : FilePath → Prop} (without : tree.Without gone after)
    (same : ∀ location, gone location ↔ other location) :
    tree.Without other after :=
  ⟨fun location isGone => without.1 location ((same location).mpr isGone),
    fun location kept => without.2 location fun isGone => kept ((same location).mp isGone)⟩

/-! ### Removing an empty directory -/

def removeDir (tree : FileTree Content) (path : FilePath) : Option (FileTree Content) := do
  let location ← tree.entry path
  match tree.node location with
  | some .directory =>
      if tree.nodes.keys.any fun key => location <+: key && key ≠ location then none
      else some (tree.prune (location <+: ·))
  | _ => none

/-- The length of the longest location of a node. -/
def height (tree : FileTree Content) : Nat := (tree.nodes.keys.map List.length).foldr max 0

theorem length_le_height (there : (tree.node location).isSome) : location.length ≤ tree.height := by
  by_cases below : location = []
  · rw [below]
    exact Nat.zero_le _
  · rw [node, if_neg below, AList.lookup_isSome] at there
    have mem : location.length ∈ tree.nodes.keys.map length :=
      mem_map_of_mem (AList.mem_keys.mp there)
    unfold height
    generalize tree.nodes.keys.map length = lengths at mem
    induction lengths with
    | nil => cases mem
    | cons length rest ih =>
      rcases mem_cons.mp mem with same | later
      · rw [same]
        exact le_max_left _ _
      · exact le_trans (ih later) (le_max_right _ _)

/-! ### Texts of locations -/

def render (location : FilePath) : List Char :=
  match location with
  | [] => ['/']
  | names => names.flatMap fun name => '/' :: name

/-- The path that the text of a location leads along. -/
def rooted : FilePath → FilePath
  | [] => [[], []]
  | names => [] :: names

variable {names : FilePath}

theorem segments_render (plain : ∀ name ∈ names, '/' ∉ name) :
    segments (render names) = rooted names := by
  cases names with
  | nil => rfl
  | cons name rest =>
    have below : ∀ (rest : List FileName) (name : FileName), (∀ other ∈ name :: rest, '/' ∉ other) →
          segments (name ++ rest.flatMap fun other => '/' :: other) = name :: rest := by
      intro rest
      induction rest with
      | nil =>
        intro name plain
        rw [flatMap_nil, append_nil, segments, splitOn_eq_singleton (plain name mem_cons_self)]
      | cons next others ih =>
        intro name plain
        have further := ih next
          fun other mem => plain other (mem_cons_of_mem name mem)
        rw [segments] at further
        rw [flatMap_cons, cons_append, segments,
          Chars.splitOn_append_cons (plain name mem_cons_self), further]
    have whole := below (name :: rest) [] fun other mem => by
      rcases mem_cons.mp mem with rfl | later
      · exact not_mem_nil
      · exact plain other later
    rwa [nil_append] at whole

theorem isAbsolute_render (names : FilePath) : isAbsolute (render names) = true := by
  cases names <;> rfl

theorem join_render (base : FilePath) (plain : ∀ name ∈ names, '/' ∉ name) :
    join base (render names) = rooted names := by
  rw [join, if_pos (isAbsolute_render names), segments_render plain]

theorem descend_rooted (names : FilePath) :
    tree.descend [] (rooted names) = tree.descend [] names := by
  have idle (rest : List FileName) : tree.descend [] ([] :: rest) = tree.descend [] rest := by
    rw [descend, if_neg (by simp), if_neg (by decide), if_pos (Or.inl rfl)]
  cases names with
  | nil => rw [rooted, idle, idle]
  | cons name rest => exact idle (name :: rest)

theorem walk_rooted (limit : Nat) (names : FilePath) :
    tree.walk limit [] (rooted names) = tree.walk limit [] names := by
  cases limit <;> rw [walk, walk, descend_rooted]

theorem canonicalize_rooted (names : FilePath) :
    tree.canonicalize (rooted names) = tree.canonicalize names := by
  rw [canonicalize, canonicalize, walk_rooted]

theorem entry_rooted (below : names ≠ []) : tree.entry (rooted names) = tree.entry names := by
  obtain ⟨front, name, rfl⟩ := (eq_nil_or_concat' names).resolve_left below
  have whole : rooted (front ++ [name]) = ([] :: front) ++ [name] := by
    cases front <;> rfl
  have leads : tree.canonicalize ([] :: front) = tree.canonicalize front := by
    cases front with
    | nil =>
      rw [← canonicalize_rooted [], rooted, canonicalize, canonicalize]
      have same : tree.descend [] [[]] = tree.descend [] [[], []] := by simp [descend]
      cases limit : tree.linkLimit <;> rw [walk, walk, same]
    | cons first rest => exact canonicalize_rooted (first :: rest)
  rw [whole, entry, entry, getLast?_concat, getLast?_concat, dropLast_concat,
    dropLast_concat, leads]

theorem entry_rooted_nil : tree.entry (rooted []) = none := by
  cases named : tree.entry (rooted []) with
  | none => rfl
  | some location =>
    obtain ⟨front, name, dir, same, -, -, -, normal, -⟩ := entry_eq_some.mp named
    have last : some name = some [] := by
      rw [← getLast?_concat (l := front), ← same]
      rfl
    exact absurd (some.inj last) normal.1

section

variable (grounded : Grounded tree)
include grounded

theorem Grounded.entry_eq (below : location ≠ []) (there : (tree.node location).isSome) :
    tree.entry location = some location := by
  obtain ⟨dir, name, rfl, entryName, -, isDirectory⟩ := grounded location below there
  rw [(grounded.passable isDirectory).entry_concat entryName, if_pos isDirectory]

theorem Grounded.plain (there : (tree.node location).isSome) : ∀ name ∈ location, '/' ∉ name := by
  induction location using reverseRecOn with
  | nil => exact fun _ mem => absurd mem not_mem_nil
  | append_singleton front name ih =>
    obtain ⟨-, plain, isDirectory⟩ := grounded.parent there
    intro other mem
    rcases mem_append.mp mem with above | last
    · exact ih (node_isSome_of_isDirectoryAt isDirectory) other above
    · exact mem_singleton.mp last ▸ plain

theorem Grounded.entry_render (below : location ≠ []) (there : (tree.node location).isSome)
    (base : FilePath) :
    tree.entry (join base (render location)) = some location := by
  rw [join_render base (grounded.plain there), entry_rooted below, grounded.entry_eq below there]

theorem Grounded.canonicalize_render (there : (tree.node location).isSome)
    (solid : tree.isLinkAt location = false) (base : FilePath) :
    tree.canonicalize (join base (render location)) = some location := by
  rw [join_render base (grounded.plain there), canonicalize_rooted,
    canonicalize_of_located (grounded.located there solid)]

end

/-! ### Taking away what a text names -/

theorem Grounded.removeFile_render (grounded : Grounded tree) (below : location ≠ [])
    {found : FileNode Content} (there : tree.node location = some found)
    (solid : found ≠ .directory) (base : FilePath) :
    tree.removeFile (join base (render location)) =
      some ⟨.remove location, tree.prune (location <+: ·)⟩ := by
  have named := grounded.entry_render below (by rw [there]; rfl) base
  rw [removeFile, named, bind_eq_bind, bind_some, there]
  cases found with
  | directory => exact absurd rfl solid
  | file | link | special => rfl

theorem Grounded.removeDir_render (grounded : Grounded tree) (below : location ≠ [])
    (dir : tree.isDirectoryAt location = true)
    (empty : ∀ name, tree.node (location ++ [name]) = none) (base : FilePath) :
    tree.removeDir (join base (render location)) = some (tree.prune (location <+: ·)) := by
  have named := grounded.entry_render below (node_isSome_of_isDirectoryAt dir) base
  have nothing : ¬ (tree.nodes.keys.any fun key =>
      decide (location <+: key) && decide (key ≠ location)) = true := by
    intro some
    obtain ⟨key, mem, inside⟩ := any_eq_true.mp some
    simp only [Bool.and_eq_true, decide_eq_true_eq] at inside
    obtain ⟨⟨rest, rfl⟩, further⟩ := inside
    cases rest with
    | nil => exact further (append_nil location)
    | cons name rest =>
      have there : (tree.node (location ++ name :: rest)).isSome := by
        rw [node, if_neg (by simp), AList.lookup_isSome]
        exact AList.mem_keys.mpr mem
      have child := grounded.node_of_prefix there
        (show location ++ [name] <+: location ++ name :: rest from ⟨rest, by simp⟩)
      rw [empty name] at child
      cases child
  rw [removeDir, named, bind_eq_bind, bind_some, node_of_isDirectoryAt dir]
  exact if_neg nothing

theorem removeDir_root (base : FilePath) : tree.removeDir (join base (render [])) = none := by
  rw [join_render base (fun _ mem => absurd mem not_mem_nil), removeDir, entry_rooted_nil]
  rfl

end FileTree
