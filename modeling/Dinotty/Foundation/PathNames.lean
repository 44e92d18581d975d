/-
This file is about the names on a path. Segments that stand for no name can be left out of a path
without changing where it leads.
-/

import Dinotty.Foundation.Directories

namespace FileTree

open List

variable {Content : Type} {tree : FileTree Content} {here location path : FilePath}

/-! ### Segments that stand for no name -/

/-- A segment that stays in the directory that it is looked up in. -/
def IsIdle (name : FileName) : Prop := name = [] ∨ name = currentName

instance (name : FileName) : Decidable (IsIdle name) := inferInstanceAs (Decidable (_ ∨ _))

/-- A path without some of the segments that stand for no name. -/
inductive Skips : List FileName → List FileName → Prop where
  | nil : Skips [] []
  | keep (name : FileName) {first second : List FileName} (skips : Skips first second) :
      Skips (name :: first) (name :: second)
  | skip {name : FileName} (idle : IsIdle name) {first second : List FileName}
      (skips : Skips first second) : Skips (name :: first) second

variable {first second : List FileName}

theorem Skips.append_left (skips : Skips first second) (front : List FileName) :
    Skips (front ++ first) (front ++ second) := by
  induction front with
  | nil => exact skips
  | cons name front ih => exact ih.keep name

theorem skips_filter (names : List FileName) :
    Skips names (names.filter fun name => ¬ IsIdle name) := by
  induction names with
  | nil => exact Skips.nil
  | cons name rest ih =>
    by_cases idle : IsIdle name
    · rw [filter_cons_of_neg (by simpa using idle)]
      exact ih.skip idle
    · rw [filter_cons_of_pos (by simpa using idle)]
      exact ih.keep name

/-- Where a walk to the first link stops, it stops without them. -/
theorem descend_skips (tree : FileTree Content) (here : FilePath) (skips : Skips first second) :
    match tree.descend here first with
    | .found location => tree.descend here second = .found location
    | .link directory target rest =>
        ∃ remaining, Skips rest remaining ∧
          tree.descend here second = .link directory target remaining
    | _ => True := by
  induction skips generalizing here with
  | nil => rfl
  | @keep name first second skips ih =>
    rw [descend, descend]
    by_cases refused : tree.isDirectoryAt here = false ∨ '\x00' ∈ name
    · rw [if_pos refused]
      trivial
    · rw [if_neg refused, if_neg refused]
      by_cases up : name = parentName
      · rw [if_pos up, if_pos up]
        exact ih _
      · rw [if_neg up, if_neg up]
        by_cases idle : name = [] ∨ name = currentName
        · rw [if_pos idle, if_pos idle]
          exact ih _
        · rw [if_neg idle, if_neg idle]
          cases there : tree.node (here ++ [name]) with
          | none =>
            dsimp only
            by_cases last : first = []
            · rw [if_pos last]
              trivial
            · rw [if_neg last]
              trivial
          | some found =>
            cases found with
            | link target => exact ⟨second, skips, rfl⟩
            | directory | file | special => exact ih _
  | @skip name idle first second skips ih =>
    rw [descend]
    by_cases refused : tree.isDirectoryAt here = false ∨ '\x00' ∈ name
    · rw [if_pos refused]
      trivial
    · have notUp : name ≠ parentName := by
        rcases idle with rfl | rfl <;> decide
      rw [if_neg refused, if_neg notUp, if_pos (show name = [] ∨ name = currentName from idle)]
      exact ih _

theorem walk_skips {limit : Nat} (skips : Skips first second)
    (found : tree.walk limit here first = .found location) :
    tree.walk limit here second = .found location := by
  induction limit generalizing here first second with
  | zero =>
    have stops := descend_skips tree here skips
    rw [walk] at found
    cases stop : tree.descend here first with
    | found there =>
      rw [stop] at found stops
      rw [walk_of_descend_found stops]
      exact found
    | link | absent | failed =>
      rw [stop] at found
      cases found
  | succ limit ih =>
    have stops := descend_skips tree here skips
    rw [walk] at found
    cases stop : tree.descend here first with
    | found there =>
      rw [stop] at found stops
      rw [walk_of_descend_found stops]
      exact found
    | link directory target rest =>
      rw [stop] at found stops
      obtain ⟨remaining, further, stopped⟩ := stops
      rw [walk, stopped]
      exact ih (further.append_left (segments target)) found
    | absent | failed =>
      rw [stop] at found
      cases found

theorem canonicalize_filter (leads : tree.canonicalize path = some location) :
    tree.canonicalize (path.filter fun name => ¬ IsIdle name) = some location :=
  canonicalize_eq_some.mpr (walk_skips (skips_filter path) (canonicalize_eq_some.mp leads))

/-! ### The directory of the last name -/

theorem walk_of_append {limit : Nat} {front rest : List FileName}
    (found : tree.walk limit here (front ++ rest) = .found location) :
    ∃ middle, tree.walk limit here front = .found middle := by
  by_cases last : rest = []
  · rw [last, append_nil] at found
    exact ⟨location, found⟩
  · induction limit generalizing here front with
    | zero =>
      rw [walk] at found
      cases stop : tree.descend here front with
      | found middle => exact ⟨middle, walk_of_descend_found stop⟩
      | link directory target remaining =>
        rw [descend_append_of_link stop] at found
        cases found
      | absent directory name =>
        rw [descend_append_of_stuck (Or.inr ⟨directory, name, stop⟩) last] at found
        cases found
      | failed =>
        rw [descend_append_of_stuck (Or.inl stop) last] at found
        cases found
    | succ limit ih =>
      rw [walk] at found
      cases stop : tree.descend here front with
      | found middle => exact ⟨middle, walk_of_descend_found stop⟩
      | link directory target remaining =>
        rw [descend_append_of_link stop] at found
        dsimp only at found
        rw [← append_assoc] at found
        obtain ⟨middle, onward⟩ := ih found
        exact ⟨middle, by rw [walk, stop]; exact onward⟩
      | absent directory name =>
        rw [descend_append_of_stuck (Or.inr ⟨directory, name, stop⟩) last] at found
        cases found
      | failed =>
        rw [descend_append_of_stuck (Or.inl stop) last] at found
        cases found

theorem entry_of_canonicalize {front : FilePath} {name : FileName}
    (leads : tree.canonicalize (front ++ [name]) = some location) (normal : IsNormal name) :
    ∃ directory, tree.entry (front ++ [name]) = some (directory ++ [name]) := by
  obtain ⟨directory, found⟩ := walk_of_append (canonicalize_eq_some.mp leads)
  refine ⟨directory, entry_of_walk (canonicalize_eq_some.mpr found) normal ?_⟩
  rw [canonicalize_eq_some.mp leads]
  exact Stop.noConfusion

end FileTree
