/-
This file is directories that hold the files of a list and nothing else.
-/

import Dinotty.Foundation.Directories

namespace FileTree

open List Option

variable {Content : Type} {tree : FileTree Content} {path rest : FilePath}
  {files : List (FilePath × Content)} {file : FilePath × Content}

/-- What is at a path in a directory that holds the files of a list and nothing else. -/
def nodeOf (files : List (FilePath × Content)) (rest : FilePath) : Option (FileNode Content) :=
  match files.find? (·.1 = rest) with
  | some file => some (.file file.2)
  | none => if rest = [] ∨ files.any (rest <+: ·.1) then some .directory else none

/-- A directory holds the files of a list and nothing else. -/
def Laid (tree : FileTree Content) (path : FilePath) (files : List (FilePath × Content)) : Prop :=
  ∀ rest, tree.node (path ++ rest) = nodeOf files rest

/-- No file has the path of another one, or of a directory of another one. -/
def Apart (first second : FilePath × Content) : Prop :=
  ¬ first.1 <+: second.1 ∧ ¬ second.1 <+: first.1

theorem nodeOf_of_free (free : ∀ other ∈ files, other.1 ≠ rest) : nodeOf files rest =
      if rest = [] ∨ files.any (rest <+: ·.1) then some .directory else none := by
  have none : files.find? (·.1 = rest) = none :=
    find?_eq_none.mpr fun other mem same => free other mem (of_decide_eq_true same)
  rw [nodeOf, none]

theorem nodeOf_nil (filled : ∀ other ∈ files, other.1 ≠ []) : nodeOf files [] = some .directory := by
  rw [nodeOf_of_free filled, if_pos (.inl rfl)]

theorem Laid.isDirectoryAt (laid : Laid tree path files) (filled : ∀ other ∈ files, other.1 ≠ []) :
    tree.isDirectoryAt path = true := by
  have here := laid []
  rw [append_nil, nodeOf_nil filled] at here
  exact isDirectoryAt_iff.mpr here

theorem nodeOf_concat (apart : ∀ other ∈ files, Apart other file) (rest : FilePath) :
    nodeOf (files ++ [file]) rest = if rest = file.1 then some (.file file.2)
      else if rest <+: file.1 then some .directory
      else nodeOf files rest := by
  have unfolded : nodeOf (files ++ [file]) rest =
      match (files.find? (·.1 = rest)).or (if file.1 = rest then some file else none) with
      | some file => some (.file file.2)
      | none =>
          if rest = [] ∨ files.any (rest <+: ·.1) ∨ rest <+: file.1 then some .directory
          else none := by
    rw [nodeOf, find?_append, find?_singleton, any_append]
    simp only [decide_eq_true_eq, any_cons, any_nil, Bool.or_false, Bool.or_eq_true]
  rw [unfolded]
  by_cases same : rest = file.1
  · have none : files.find? (·.1 = rest) = none := by
      refine find?_eq_none.mpr fun other mem equal => (apart other mem).1 ?_
      have path : other.1 = file.1 := (of_decide_eq_true equal).trans same
      exact path ▸ prefix_rfl
    rw [none, if_pos same, if_pos same.symm]
    rfl
  · rw [if_neg same, if_neg (Ne.symm same), or_none]
    by_cases below : rest <+: file.1
    · have none : files.find? (·.1 = rest) = none := by
        refine find?_eq_none.mpr fun other mem equal => (apart other mem).1 ?_
        rw [of_decide_eq_true equal]
        exact below
      rw [none, if_pos below]
      exact if_pos (.inr (.inr below))
    · rw [if_neg below, nodeOf]
      cases files.find? (·.1 = rest) with
      | some other => rfl
      | none => simp only [below, or_false]

/-- The way to another file is free. -/
theorem Laid.passable_front {front : FilePath} {name : FileName} (laid : Laid tree path files)
    (passable : Passable tree path) (names : ∀ name ∈ front, IsEntryName name)
    (apart : ∀ other ∈ files, ¬ other.1 <+: front ++ [name]) : Passable tree (path ++ front) := by
  have free {mid : FilePath} (above : mid <+: front) (other : FilePath × Content)
      (mem : other ∈ files) : other.1 ≠ mid := by
    rintro rfl
    exact apart other mem (above.trans (prefix_append _ _))
  intro above last below
  rcases prefix_or_prefix_of_prefix below (prefix_append path front) with
    inPath | ⟨mid, same⟩
  · exact passable above last inPath
  · rcases eq_nil_or_concat mid with rfl | ⟨mid, name, rfl⟩
    · rw [append_nil] at same
      exact passable above last (same ▸ prefix_rfl)
    · rw [concat_eq_append, ← append_assoc] at same
      obtain ⟨rfl, sameName⟩ := append_inj' same rfl
      obtain rfl := singleton_inj.mp sameName
      rw [append_assoc, prefix_append_right_inj] at below
      refine ⟨names name (below.subset (mem_append_right _ mem_cons_self)), ?_⟩
      have atLast := laid (mid ++ [name])
      have atMid := laid mid
      rw [nodeOf_of_free (free below)] at atLast
      rw [nodeOf_of_free (free ((prefix_append _ _).trans below))] at atMid
      rw [← append_assoc] at atLast
      rw [atLast]
      split
      next there =>
        refine .inr ⟨rfl, isDirectoryAt_iff.mpr ?_⟩
        rw [atMid, if_pos]
        right
        rcases there with none | there
        · exact absurd none (concat_ne_nil _ _)
        · obtain ⟨other, mem, further⟩ := List.any_eq_true.mp there
          refine List.any_eq_true.mpr ⟨other, mem, decide_eq_true ?_⟩
          exact (prefix_append _ _).trans (of_decide_eq_true further)
      · exact .inl rfl

/-- Writing another file makes its directories and changes nothing else. -/
theorem Laid.write (laid : Laid tree path files) (passable : Passable tree path)
    (filled : ∀ other ∈ files, other.1 ≠ []) (nonempty : file.1 ≠ [])
    (names : ∀ name ∈ file.1, IsEntryName name) (apart : ∀ other ∈ files, Apart other file) :
    ∃ accesses made done, tree.createDirAll (path ++ file.1).dropLast = (accesses, made, true) ∧
      made.writeFile (path ++ file.1) file.2 = some done ∧
      Laid done.tree path (files ++ [file]) ∧
      ∀ location, ¬ path <+: location → made.node location = tree.node location ∧
        done.tree.node location = tree.node location := by
  obtain ⟨front, name, isFile⟩ : ∃ front name, file.1 = front ++ [name] :=
    ⟨_, _, (dropLast_append_getLast nonempty).symm⟩
  have here := laid.isDirectoryAt filled
  have free : Passable tree (path ++ front) := laid.passable_front passable
    (fun other mem => names other (isFile ▸ mem_append_left _ mem))
    fun other mem => isFile ▸ (apart other mem).1
  obtain ⟨accesses, made, makes, nodes⟩ := free.createDirAll
  have there : made.isDirectoryAt (path ++ front) = true :=
    isDirectoryAt_iff.mpr (by rw [nodes, if_pos prefix_rfl])
  have passableMade : Passable made (path ++ front) := fun above last below => by
    refine ⟨(free above last below).1, .inr ⟨by rw [nodes, if_pos below], ?_⟩⟩
    refine isDirectoryAt_iff.mpr ?_
    rw [nodes, if_pos ((prefix_append above [last]).trans below)]
  have entryName : IsEntryName name := names name (by
    rw [isFile]
    exact mem_append_right _ mem_cons_self)
  have named := passableMade.entry_concat entryName
  rw [if_pos there] at named
  have location : path ++ file.1 = path ++ front ++ [name] := by rw [isFile, append_assoc]
  have missing : made.node (path ++ front ++ [name]) = none := by
    have long : ¬ path ++ front ++ [name] <+: path ++ front := fun below => by
      have short := below.length_le
      simp only [length_append, length_singleton] at short
      omega
    rw [nodes, if_neg long, append_assoc, laid, ← isFile, nodeOf_of_free fun other mem same =>
      (apart other mem).1 (same ▸ prefix_rfl), if_neg]
    rintro (none | there)
    · exact nonempty none
    · obtain ⟨other, mem, further⟩ := List.any_eq_true.mp there
      exact (apart other mem).2 (of_decide_eq_true further)
  have solid : made.isLinkAt (path ++ front ++ [name]) = false := by rw [isLinkAt, missing]
  have writes : made.writeFile (path ++ file.1) file.2 = some ⟨.create (path ++ front ++ [name]),
        made.put (path ++ front ++ [name]) (.file file.2)⟩ := by
    rw [writeFile, location, place_of_entry named solid, bind_eq_bind, bind_some, missing]
  refine ⟨accesses, made, _, ?_, writes, fun rest => ?_, fun other outside => ?_⟩
  · rw [location, dropLast_concat, makes]
  · rw [node_put (concat_ne_nil _ _), nodes, laid, nodeOf_concat apart, ← location]
    by_cases same : rest = file.1
    · rw [if_pos (congrArg _ same), if_pos same]
    · rw [if_neg fun equal => same (append_cancel_left equal), if_neg same]
      rw [isFile] at same ⊢
      by_cases below : rest <+: front
      · rw [if_pos ((prefix_append_right_inj _).mpr below),
          if_pos (below.trans (prefix_append _ _))]
      · rw [if_neg fun both => below ((prefix_append_right_inj _).mp both), if_neg]
        exact fun further => (prefix_concat_iff.mp further).elim same below
  · have same : made.node other = tree.node other := by
      rw [nodes]
      split
      next above =>
        rcases prefix_or_prefix_of_prefix above (prefix_append path front) with
          inPath | below
        · exact (passable.node_of_prefix here inPath).symm
        · exact absurd below outside
      · rfl
    refine ⟨same, ?_⟩
    rw [node_put (concat_ne_nil _ _), if_neg, same]
    rintro rfl
    rw [append_assoc] at outside
    exact outside (prefix_append _ _)

end FileTree
