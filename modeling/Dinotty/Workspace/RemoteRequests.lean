/-
This file is which requests to a host act on the entry that their path names: those whose path does
not end in a link.
-/

import Dinotty.Foundation.PathNames
import Dinotty.Workspace.RemoteRemoval

namespace Dinotty.Workspace.RemoteFiles

open List Program.Leads Response Chars

open FileTree

variable {Content : Type}

/-! ### Which requests do so -/

def IsFileOrDirectory : FileNode Content → Prop
  | .file _ | .directory => True
  | .link _ | .special _ => False

/-- Whether the host renames what is at a location to a path that is free. -/
def Moves (tree : FileTree Content) (login target : FilePath) (dest : List Char) : Prop :=
  tree.fileExists (join login dest) = false ∧
    (renamed tree (join login (render target)) (join login dest)).isSome

/-- The path has a name and does not end in a link. -/
def NamesNoLink (tree : FileTree Content) (home : Option RemoteHome) (path : List Char) : Prop :=
  namedPath home path ≠ [] ∧
    ∀ entry ∈ namedEntry tree (namedPath home path), tree.isLinkAt entry = false

/-- The path of a request does not end in a link, if it leads to what can be acted on. To delete, it
may not lead up, and nothing may be in the root directory if it leads there. -/
def Clear (tree : FileTree Content) (login : FilePath) (home : Option RemoteHome) : Request → Prop
  | .delete path =>
      ∀ target ∈ tree.canonicalize (join login (resolveRemoteRel home path)),
        ∀ found ∈ tree.node target, IsFileOrDirectory found →
          if target = [] then ∀ location, location ≠ [] → tree.node location = none
          else ¬ LeadsUp path ∧ NamesNoLink tree home path
  | .rename path newName =>
      ∀ target ∈ tree.canonicalize (join login (resolveRemoteRel home path)),
        Moves tree login target
          (trimEndSlashes (parentText (render target)) ++ '/' :: newName) →
        NamesNoLink tree home path
  | .move path destDir =>
      ∀ target ∈ tree.canonicalize (join login (resolveRemoteRel home path)),
        ∀ directory ∈ tree.canonicalize (join login (resolveRemoteRel home destDir)),
          Moves tree login target
            (trimEndSlashes (render directory) ++ '/' :: fileName (render target)) →
          NamesNoLink tree home path

variable {calm : Prop} {login : FilePath} {home : Option RemoteHome} {tree : FileTree Content}
  {Value : Type}

/-! ### What a path is resolved to -/

theorem isIdle_test : (fun name : FileName => decide (name ≠ [] ∧ name ≠ currentName)) =
    fun name => decide (¬ IsIdle name) := by
  funext name
  exact decide_eq_decide.mpr not_or.symm

/-- A path that does not start at a slash is resolved below the root directory, or to it. -/
theorem normalizeRemoteJoin_names (login : FilePath) {rel : List Char} (trimmed : trim rel = rel)
    (relative : rel.head? ≠ some '/') :
    normalizeRemoteJoin ['/'] rel = ['/'] ∨
      ((segments rel).filter fun name => name ≠ [] ∧ name ≠ currentName) = [] ∨
      (segments rel).filter (fun name => name ≠ [] ∧ name ≠ currentName) =
        (join login (normalizeRemoteJoin ['/'] rel)).filter fun name => ¬ IsIdle name := by
  have unchanged : rel.dropWhile (· = '/') = rel := by
    cases rel with
    | nil => rfl
    | cons c rest =>
      refine dropWhile_cons_of_neg fun isSlash => relative ?_
      rw [of_decide_eq_true isSlash]
      rfl
  unfold normalizeRemoteJoin
  rw [trimmed, unchanged]
  dsimp only
  by_cases up : parentName ∈ segments rel
  · exact Or.inl (if_pos up)
  · rw [if_neg up]
    right
    cases names : (segments rel).filter fun name => name ≠ [] ∧ name ≠ currentName with
    | nil => exact Or.inl rfl
    | cons name rest =>
      right
      have plain : ∀ other ∈ name :: rest, '/' ∉ other := by
        rw [← names]
        exact fun other mem => not_mem_of_mem_splitOn (mem_of_mem_filter mem)
      have solid : (name :: rest).filter (fun name => ¬ IsIdle name) = name :: rest := by
        rw [← isIdle_test, ← names, filter_filter]
        simp
      have text : trimEndSlashes ['/'] ++ (name :: rest).flatMap (fun name => '/' :: name) =
          render (name :: rest) := by
        simp [trimEndSlashes, render, rdropWhile]
      have path : rooted (name :: rest) = [] :: name :: rest := rfl
      rw [text, join_render login plain, path, filter_cons_of_neg (by simp [IsIdle]), solid]

variable {path : List Char}

/-- A path that has a name is resolved to where its names lead; one that leads up without a slash in
front to the root directory. -/
theorem resolveRemoteRel_names (login : FilePath) (named : namedPath home path ≠ []) :
    resolveRemoteRel home path = ['/'] ∨ namedPath home path =
        (join login (resolveRemoteRel home path)).filter fun name => ¬ IsIdle name := by
  have homeAbsolute : isAbsolute (homeText home) = true := by
    cases home with
    | none => rfl
    | some home => exact home.absolute
  unfold namedPath at named ⊢
  unfold resolveRemoteRel
  generalize trimmed : trim path = rel at named ⊢
  dsimp only at named ⊢
  by_cases empty : rel = []
  · exact Or.inl (if_pos empty)
  · rw [if_neg empty]
    by_cases absolute : rel.head? = some '/'
    · right
      have notHome : rel ≠ ['~'] := by
        rintro rfl
        cases absolute
      have notBelowHome : ¬ ['~', '/'] <+: rel := by
        rintro ⟨rest, rfl⟩
        cases absolute
      rw [if_pos absolute, if_neg notHome, if_neg notBelowHome, join,
        if_pos (show isAbsolute rel = true from decide_eq_true absolute), isIdle_test]
    · rw [if_neg absolute]
      by_cases belowHome : ['~', '/'] <+: rel
      · right
        obtain ⟨rest, rfl⟩ := belowHome
        have notHome : ['~', '/'] ++ rest ≠ ['~'] := by simp
        have starts : isAbsolute (homeText home ++ '/' :: rest) = true := by
          cases text : homeText home with
          | nil => rfl
          | cons c others =>
            rw [text] at homeAbsolute
            exact homeAbsolute
        have split : segments (homeText home ++ '/' :: rest) =
            segments (homeText home) ++ segments rest := splitOn_append '/' _ _
        rw [if_pos (prefix_append _ _), if_neg notHome, if_pos (prefix_append _ _)]
        rw [show (['~', '/'] ++ rest).drop 2 = rest from rfl, join, if_pos starts, split,
          isIdle_test]
      · rw [if_neg belowHome, if_neg belowHome] at *
        by_cases atHome : rel = ['~']
        · right
          rw [if_pos atHome, if_pos atHome, join, if_pos homeAbsolute, isIdle_test]
        · rw [if_neg atHome] at named
          rw [if_neg atHome, if_neg atHome]
          rcases normalizeRemoteJoin_names login (trimmed ▸ trim_trim path)
            absolute with root | none | same
          · exact Or.inl root
          · exact absurd none named
          · exact Or.inr same

variable {target : FilePath}

theorem namedEntry_of_canonicalize
    (leads : tree.canonicalize (join login (resolveRemoteRel home path)) = some target)
    (below : target ≠ []) (noLink : NamesNoLink tree home path) :
    namedEntry tree (namedPath home path) = some target := by
  obtain ⟨named, solid⟩ := noLink
  rcases resolveRemoteRel_names login named with root | same
  · rw [root] at leads
    refine absurd ?_ below
    have toRoot : tree.canonicalize (join login (render [])) = some [] := by
      rw [join_render login (fun _ mem => absurd mem not_mem_nil), canonicalize_rooted]
      exact canonicalize_of_located located_nil
    exact (Option.some.inj (toRoot.symm.trans leads)).symm
  · have leadsNamed := canonicalize_filter leads
    rw [← same] at leadsNamed
    obtain ⟨front, name, whole⟩ := (eq_nil_or_concat' (namedPath home path)).resolve_left named
    have normalOrUp : name = parentName ∨ IsNormal name := by
      have mem : name ∈ namedPath home path := by simp [whole]
      have isName : name ≠ [] ∧ name ≠ currentName := by
        unfold namedPath at mem
        have passed := (mem_filter.mp mem).2
        exact of_decide_eq_true passed
      by_cases up : name = parentName
      · exact Or.inl up
      · exact Or.inr ⟨isName.1, isName.2, up⟩
    unfold namedEntry at solid ⊢
    rw [whole, getLast?_concat] at solid ⊢
    rw [whole] at leadsNamed
    dsimp only at solid ⊢
    rcases normalOrUp with up | normal
    · rw [if_pos up]
      exact leadsNamed
    · rw [if_neg normal.2.2] at solid ⊢
      obtain ⟨directory, isEntry⟩ := entry_of_canonicalize leadsNamed normal
      rw [isEntry, eq_entry_of_canonicalize isEntry (solid _ isEntry) leadsNamed]

theorem namedEntry_iff
    (leads : tree.canonicalize (join login (resolveRemoteRel home path)) = some target)
    (below : target ≠ []) :
    namedEntry tree (namedPath home path) = some target ↔ NamesNoLink tree home path := by
  refine ⟨fun named => ⟨fun empty => ?_, fun entry isEntry => ?_⟩,
    namedEntry_of_canonicalize leads below⟩
  · rw [empty] at named
    exact below (Option.some.inj named).symm
  · rw [Option.mem_def, named] at isEntry
    rw [← Option.some.inj isEntry]
    exact (canonicalize_located leads).isLinkAt

/-! ### The endpoints -/

variable {final : Response → Remote Content → Prop}

theorem orSftpError_leads {program : Program (Remote Content) Value}
    {next : Value → Program (Remote Content) Response} {before : Remote Content → Prop}
    {after : Value → Remote Content → Prop} {failed : Remote Content → Prop}
    {never : Remote Content → Prop} (first : Program.Leads before program after failed)
    (second : ∀ value, Program.Leads (after value) (next value) final never)
    (answer : ∀ remote, failed remote → final .sftpError remote) :
    Program.Leads before (orSftpError program next) final never := by
  intro remote there
  have led := first remote there
  unfold orSftpError
  cases result : program remote with
  | mk later value =>
    rw [result] at led
    cases value with
    | none => exact answer later led
    | some value => exact second value later led

theorem trimEndSlashes_ne_root (text : List Char) : trimEndSlashes text ≠ ['/'] := by
  intro root
  have last := rdropWhile_last_not (fun c => decide (c = '/')) text
  unfold trimEndSlashes at root
  rw [root] at last
  exact last (cons_ne_nil _ _) rfl

theorem canonicalize_missing (missing : tree.canonicalize (join login path) = none) :
    Program.Leads (At calm (· = tree)) (canonicalize login path) (fun _ _ => False)
      fun remote => remote.tree = tree := by
  refine (leads_call (fun _ _ => False) (· = tree) ?_ fun _ there _ => there).mono
    (fun _ there => there) (fun _ _ there => there.1) fun _ there => there.1
  rintro files value later rfl answered
  rw [missing] at answered
  cases answered

theorem canonicalize_found (leads : tree.canonicalize (join login path) = some target) :
    Program.Leads (At calm (· = tree)) (canonicalize login path)
      (fun text => At calm fun files => text = render target ∧ files = tree)
      fun remote => remote.tree = tree ∧ ¬ calm :=
  leads_through (by rw [leads]; rfl)

theorem remoteDelete_missing
    (missing : tree.canonicalize (join login (resolveRemoteRel home path)) = none) :
    Program.Leads (At calm (· = tree)) (remoteDelete login home path)
      (fun resp remote => resp ≠ .done ∧ remote.tree = tree) fun _ => False :=
  orSftpError_leads (canonicalize_missing missing) (fun _ _ there => there.elim)
    fun _ there => ⟨by simp, there⟩

variable {found : FileNode Content}

theorem remoteDelete_found (grounded : Grounded tree)
    (leads : tree.canonicalize (join login (resolveRemoteRel home path)) = some target)
    (there : tree.node target = some found)
    (further : Program.Leads (At calm (· = tree)) (deleteFound login (render target) found) final
      fun _ => False) (failing : ∀ remote, remote.tree = tree → ¬ calm → final .sftpError remote) :
    Program.Leads (At calm (· = tree)) (remoteDelete login home path) final fun _ => False := by
  have solid := (canonicalize_located leads).isLinkAt
  have described : (tree.metadata (join login (render target))).map
      (fun found => (tree, found.2)) = some (tree, found) := by
    rw [FileTree.metadata, grounded.canonicalize_render (by rw [there]; rfl) solid,
      Option.bind_eq_bind, Option.bind_some, there]
    rfl
  refine orSftpError_leads (canonicalize_found leads) (fun text => leads_each fun files known => ?_)
    fun remote known => failing remote known.1 known.2
  obtain ⟨rfl, rfl⟩ := known
  rw [if_neg (trimEndSlashes_ne_root _)]
  refine orSftpError_leads (leads_through described)
    (fun answer => leads_each fun later known => ?_)
    fun remote known => failing remote known.1 known.2
  obtain ⟨rfl, rfl⟩ := known
  exact further

theorem bounded_height (tree : FileTree Content) : Bounded tree.height tree :=
  fun _ there => length_le_height there

theorem removeDirWhole_leads {after : Unit → Remote Content → Prop} {failed : Remote Content → Prop}
    (led : Program.Leads (At calm (· = tree)) (removeDirRecursive login (tree.height + 1) path)
      after failed) :
    Program.Leads (At calm (· = tree)) (removeDirWhole login path) after failed := by
  intro remote there
  have led := led remote there
  unfold removeDirWhole
  rwa [there.1]

theorem deleteFound_entry (grounded : Grounded tree) (below : target ≠ [])
    (there : tree.node target = some found) (kind : IsFileOrDirectory found) :
    Program.Leads (At calm (· = tree)) (deleteFound login (render target) found)
      (fun resp remote => (resp = .done → Removes tree target remote.tree) ∧
        (calm → resp = .done)) fun _ => False := by
  have held : (tree.node target).isSome := by rw [there]; rfl
  have failing (remote : Remote Content) (loud : ¬ calm) :
      (sftpError = .done → Removes tree target remote.tree) ∧ (calm → sftpError = .done) :=
    ⟨fun same => Response.noConfusion same, fun isCalm => absurd isCalm loud⟩
  cases found with
  | link | special => exact kind.elim
  | file content =>
    have through := grounded.removeFile_render below there (by simp) login
    refine orSftpError_leads (leads_through (by rw [through]; rfl))
      (fun _ => pure fun remote known => ?_)
      fun remote known => failing remote known.2
    rw [known.1.2]
    exact ⟨fun _ => ⟨below, held, without_prune_below below⟩, fun _ => rfl⟩
  | directory =>
    have gone : Program.Leads (At calm (· = tree)) (removeDirWhole login (render target))
        (fun _ => At calm (Left tree tree.height (target <+: ·))) fun _ => ¬ calm :=
      removeDirWhole_leads (removeDirRecursive_leads below grounded (bounded_height tree)
        (isDirectoryAt_iff.mpr there) (by omega))
    refine orSftpError_leads gone (fun _ => pure fun remote known => ?_)
      fun remote loud => failing remote loud
    exact ⟨fun _ => ⟨below, held, known.1.without⟩, fun _ => rfl⟩

theorem deleteFound_other {target : List Char} (kind : ¬ IsFileOrDirectory found) :
    Program.Leads (At calm (· = tree)) (deleteFound login target found)
      (fun resp remote => resp ≠ .done ∧ remote.tree = tree) fun _ => False := by
  cases found with
  | file | directory => exact absurd trivial kind
  | link | special => exact pure fun _ known => ⟨by simp, known.1⟩

theorem deleteFound_root (grounded : Grounded tree) :
    Program.Leads (At calm (· = tree)) (deleteFound login (render []) .directory)
      (fun resp remote => resp ≠ .done ∧ Shrinks tree remote.tree ∧
        (calm → ∀ name, remote.tree.node [name] = none)) fun _ => False := by
  have emptied : Program.Leads (At calm (· = tree))
      (removeDirRecursive login (tree.height + 1) (render [])) (fun _ _ => False)
      fun remote => calm → ∀ name, remote.tree.node [name] = none :=
    removeDirRecursive_root grounded (bounded_height tree) le_rfl
  have shrunk : Program.Leads (At calm (· = tree))
      (removeDirRecursive login (tree.height + 1) (render []))
      (fun _ remote => True ∧ Shrinks tree remote.tree) fun remote => Shrinks tree remote.tree :=
    (removeDirRecursive_shrinks _ _).mono (fun _ known _ => Or.inr (by rw [known.1]))
      (fun _ _ known => known) fun _ known => known
  exact orSftpError_leads (removeDirWhole_leads (emptied.and shrunk))
    (fun _ _ known => known.1.elim) fun _ known => ⟨by simp, known.2, known.1⟩

variable {program : Program (Remote Content) Response}

theorem outcome_of_leads (errors : List Bool)
    (led : Program.Leads (At calm (· = tree)) program final fun _ => False)
    (quiet : calm → ∀ error ∈ errors, error = false) :
    ∃ resp, (program { tree, errors }).2 = some resp ∧ final resp (program { tree, errors }).1 := by
  have led := led { tree, errors } ⟨rfl, quiet⟩
  cases result : program { tree, errors } with
  | mk later value =>
    rw [result] at led
    cases value with
    | none => exact led.elim
    | some resp => exact ⟨resp, rfl, led⟩

variable {after : FileTree Content}

theorem Removes.unique {first second : FilePath} (one : Removes tree first after)
    (other : Removes tree second after) : first = second := by
  have below {entry another : FilePath} (removed : Removes tree entry after)
      (alsoRemoved : Removes tree another after) : another <+: entry := by
    by_contra apart
    have gone := removed.2.2.1 entry prefix_rfl
    rw [alsoRemoved.2.2.2 entry apart] at gone
    have there := removed.2.1
    rw [gone] at there
    cases there
  exact (below other one).eq_of_length_le (below one other).length_le

theorem Shrinks.eq_of_empty {files : FileTree Content} (shrinks : Shrinks tree files)
    (empty : ∀ location, location ≠ [] → tree.node location = none) (location : FilePath) :
    files.node location = tree.node location := by
  rcases shrinks location with gone | same
  · by_cases below : location = []
    · rw [below, node_nil, node_nil]
    · rw [gone, empty location below]
  · exact same

theorem isFileOrDirectory_or (found : FileNode Content) :
    IsFileOrDirectory found ∨ ¬ IsFileOrDirectory found := by
  cases found with
  | file | directory => exact Or.inl trivial
  | link | special => exact Or.inr id

theorem remoteDelete_root (grounded : Grounded tree)
    (leads : tree.canonicalize (join login (resolveRemoteRel home path)) = some []) :
    Program.Leads (At calm (· = tree)) (remoteDelete login home path)
      (fun resp remote => resp ≠ .done ∧ Shrinks tree remote.tree ∧
        (calm → ∀ name, remote.tree.node [name] = none)) fun _ => False :=
  remoteDelete_found grounded leads node_nil (deleteFound_root grounded) fun _ known loud =>
    ⟨by simp, fun _ => Or.inr (by rw [known]), fun isCalm => absurd isCalm loud⟩

theorem remoteDelete_entry (grounded : Grounded tree)
    (leads : tree.canonicalize (join login (resolveRemoteRel home path)) = some target)
    (below : target ≠ []) (there : tree.node target = some found) (kind : IsFileOrDirectory found) :
    Program.Leads (At calm (· = tree)) (remoteDelete login home path)
      (fun resp remote => (resp = .done → Removes tree target remote.tree) ∧
        (calm → resp = .done)) fun _ => False :=
  remoteDelete_found grounded leads there (deleteFound_entry grounded below there kind)
    fun _ _ loud => ⟨fun same => Response.noConfusion same, fun isCalm => absurd isCalm loud⟩

/-- A request to delete acts on the entry that its path names exactly if that is what the path is
resolved to. -/
theorem remoteDelete_acts_iff (grounded : Grounded tree) (path : List Char) :
    ActsOnNamed tree login home (.delete path) ↔ Clear tree login home (.delete path) := by
  constructor
  · intro acts target leads found there kind
    obtain ⟨unchanged, removed⟩ := acts []
    have noError (_ : True) : ∀ error ∈ ([] : List Bool), error = false :=
      fun _ mem => absurd mem not_mem_nil
    by_cases root : target = []
    · subst root
      rw [if_pos rfl]
      intro loc below
      obtain ⟨_, -, -, -, emptied⟩ := outcome_of_leads [] (remoteDelete_root grounded leads) noError
      by_contra held
      obtain ⟨name, rest, rfl⟩ := exists_cons_of_ne_nil below
      have first := grounded.node_of_prefix (Option.ne_none_iff_isSome.mp held)
        (show [name] <+: name :: rest from ⟨rest, rfl⟩)
      rw [← unchanged (Or.inr (Or.inl leads)) [name]] at first
      rw [show (Request.run login home (.delete path) { tree, errors := [] }).1.tree.node [name] =
        none from emptied trivial name] at first
      cases first
    · rw [if_neg root]
      obtain ⟨resp, answered, gone, isDone⟩ := outcome_of_leads []
        (remoteDelete_entry grounded leads root there kind) noError
      obtain rfl := isDone trivial
      have removes := gone rfl
      refine ⟨fun up => ?_, ?_⟩
      · have same : (remoteDelete login home path { tree, errors := [] }).1.tree.node target =
            tree.node target := unchanged (Or.inl up) target
        rw [removes.2.2.1 target prefix_rfl, there] at same
        cases same
      · obtain ⟨entry, named, other⟩ := removed answered
        exact (namedEntry_iff leads root).mp (removes.unique other ▸ named)
  · intro clear errors
    have loud : False → ∀ error ∈ errors, error = false := False.elim
    cases leads : tree.canonicalize (join login (resolveRemoteRel home path)) with
    | none =>
      obtain ⟨resp, answered, notDone, same⟩ :=
        outcome_of_leads errors (remoteDelete_missing leads) loud
      refine ⟨fun _ loc => congrArg (node · loc) same, fun isDone => ?_⟩
      exact absurd (Option.some.inj (answered.symm.trans isDone)) notDone
    | some target =>
      obtain ⟨found, there⟩ := Option.isSome_iff_exists.mp (canonicalize_located leads).node_isSome
      rcases isFileOrDirectory_or found with kind | other
      · have cond := clear target leads found there kind
        by_cases root : target = []
        · subst root
          rw [if_pos rfl] at cond
          obtain ⟨resp, answered, notDone, shrinks, -⟩ :=
            outcome_of_leads errors (remoteDelete_root grounded leads) loud
          refine ⟨fun _ loc => shrinks.eq_of_empty cond loc, fun isDone => ?_⟩
          exact absurd (Option.some.inj (answered.symm.trans isDone)) notDone
        · rw [if_neg root] at cond
          obtain ⟨resp, answered, removes, -⟩ :=
            outcome_of_leads errors (remoteDelete_entry grounded leads root there kind) loud
          have named := (namedEntry_iff leads root).mpr cond.2
          refine ⟨?_, fun isDone => ⟨target, named,
            removes (Option.some.inj (answered.symm.trans isDone))⟩⟩
          rintro (up | toRoot | namesRoot)
          · exact absurd up cond.1
          · exact absurd (Option.some.inj (leads.symm.trans toRoot)) root
          · exact absurd (Option.some.inj (named.symm.trans namesRoot)) root
      · obtain ⟨resp, answered, notDone, same⟩ := outcome_of_leads errors
          (remoteDelete_found grounded leads there (deleteFound_other other)
            fun _ known _ => ⟨by simp, known⟩) loud
        refine ⟨fun _ loc => congrArg (node · loc) same, fun isDone => ?_⟩
        exact absurd (Option.some.inj (answered.symm.trans isDone)) notDone

/-! ### Renaming and moving -/

variable {dest : List Char}

theorem Moves.ne_nil (moves : Moves tree login target dest) : target ≠ [] := by
  rintro rfl
  have isRenamed := moves.2
  rw [renamed, join_render login (fun _ mem => absurd mem not_mem_nil),
    entry_rooted_nil] at isRenamed
  cases isRenamed

theorem renamed_relocates {new : FilePath} (grounded : Grounded tree)
    (there : (tree.node target).isSome)
    (through : renamed tree (join login (render target)) new = some after) :
    Relocates tree target after := by
  obtain ⟨source, named, through⟩ := Option.bind_eq_some_iff.mp through
  have below : target ≠ [] := by
    rintro rfl
    rw [join_render login (fun _ mem => absurd mem not_mem_nil), entry_rooted_nil]
      at named
    cases named
  rw [grounded.entry_render below there] at named
  cases named
  obtain ⟨destination, free, through⟩ := Option.bind_eq_some_iff.mp through
  split at through
  · cases through
  next notTaken =>
    rw [Option.not_isSome_iff_eq_none] at notTaken
    obtain ⟨done, renamed, rfl⟩ := Option.map_eq_some_iff.mp through
    obtain ⟨source, goal, oldNamed, newNamed, moved⟩ := rename_nodes renamed
    rw [grounded.entry_render below there] at oldNamed
    cases oldNamed
    cases free.symm.trans newNamed
    rcases moved with ⟨rfl, -⟩ | ⟨-, -, arrived, gone, others⟩
    · rw [notTaken] at there
      cases there
    · exact ⟨there, destination, notTaken, arrived, gone, others⟩

theorem Relocates.unique {first second : FilePath} (grounded : Grounded tree)
    (one : Relocates tree first after) (other : Relocates tree second after) : first = second := by
  have below {entry another : FilePath} (relocated : Relocates tree entry after)
      (alsoRelocated : Relocates tree another after) : another <+: entry := by
    obtain ⟨there, -, -, -, gone, -⟩ := relocated
    obtain ⟨-, destination, free, -, -, others⟩ := alsoRelocated
    by_contra apart
    have away : ¬ destination <+: entry := by
      intro isBelow
      have above := grounded.node_of_prefix there isBelow
      rw [free] at above
      cases above
    have left := gone []
    rw [append_nil, others entry apart away] at left
    rw [left] at there
    cases there
  exact (below other one).eq_of_length_le (below one other).length_le

theorem renameTo_leads {message : String} (grounded : Grounded tree)
    (there : (tree.node target).isSome) :
    Program.Leads (At calm (· = tree)) (renameTo login (render target) dest message)
      (fun resp remote =>
        (∀ rel, resp = .relocated rel →
          Moves tree login target dest ∧ Relocates tree target remote.tree) ∧
        (calm → Moves tree login target dest → resp = .relocated (relOf dest)))
      fun _ => False := by
  have failing (remote : Remote Content) (loud : ¬ calm) : (∀ rel, sftpError =
        .relocated rel → Moves tree login target dest ∧ Relocates tree target remote.tree) ∧
      (calm → Moves tree login target dest → sftpError = .relocated (relOf dest)) :=
    ⟨fun _ same => Response.noConfusion same, fun isCalm => absurd isCalm loud⟩
  refine orSftpError_leads (leads_through rfl) (fun held => leads_each fun files known => ?_)
    fun remote known => failing remote known.2
  obtain ⟨rfl, rfl⟩ := known
  refine ite (fun taken => ?_) fun free => ?_
  · refine pure fun remote known => ⟨fun _ same => Response.noConfusion same, ?_⟩
    intro _ moves
    rw [moves.1] at taken
    cases taken
  · have notThere : files.fileExists (join login dest) = false := Bool.not_eq_true _ ▸ free
    cases through : renamed files (join login (render target)) (join login dest) with
    | none =>
      have refused : Program.Leads (At calm (· = files)) (rename login (render target) dest)
          (fun _ _ => False) (At calm fun _ => True) := by
        refine (leads_call (fun _ _ => False) (fun _ => True) ?_ fun _ _ _ => trivial).mono
          (fun _ there => there) (fun _ _ there => there.1) fun _ there => there
        rintro other value later rfl answered
        rw [through] at answered
        cases answered
      refine orSftpError_leads refused (fun _ _ known => known.elim) fun remote _ =>
        ⟨fun _ same => Response.noConfusion same, fun _ moves => ?_⟩
      have isRenamed := moves.2
      rw [through] at isRenamed
      cases isRenamed
    | some after =>
      refine orSftpError_leads (leads_through (by rw [through]; rfl))
        (fun _ => pure fun remote known => ?_)
        fun remote known => failing remote known.2
      refine ⟨fun _ _ => ⟨⟨notThere, by rw [through]; rfl⟩, ?_⟩, fun _ _ => rfl⟩
      rw [known.1.2]
      exact renamed_relocates grounded there through

/-- Where a request leads that is to rename what is at a location to a path. -/
def RenameLeads (tree : FileTree Content) (login : FilePath)
    (program : Program (Remote Content) Response) (target : FilePath) (dest : List Char) : Prop :=
  ∀ calm : Prop, Program.Leads (At calm (· = tree)) program
    (fun response remote =>
      (∀ rel, response = .relocated rel →
        Moves tree login target dest ∧ Relocates tree target remote.tree) ∧
      (calm → Moves tree login target dest → response = .relocated (relOf dest)))
    fun _ => False

theorem RenameLeads.relocated {rel : List Char} {errors : List Bool}
    (led : RenameLeads tree login program target dest)
    (answered : (program { tree, errors }).2 = some (.relocated rel)) :
    Moves tree login target dest ∧ Relocates tree target (program { tree, errors }).1.tree := by
  obtain ⟨resp, same, final, -⟩ := outcome_of_leads errors (led False) False.elim
  exact final rel (Option.some.inj (same.symm.trans answered))

theorem RenameLeads.moved (led : RenameLeads tree login program target dest)
    (moves : Moves tree login target dest) :
    (program { tree, errors := [] }).2 = some (.relocated (relOf dest)) ∧
      Relocates tree target (program { tree, errors := [] }).1.tree := by
  obtain ⟨resp, answered, final, quiet⟩ := outcome_of_leads [] (led True)
    fun _ _ mem => absurd mem not_mem_nil
  obtain rfl := quiet trivial moves
  exact ⟨answered, (final _ rfl).2⟩

theorem remoteRename_leads {newName : List Char} (grounded : Grounded tree)
    (leads : tree.canonicalize (join login (resolveRemoteRel home path)) = some target) :
    RenameLeads tree login (remoteRename login home path newName) target
      (trimEndSlashes (parentText (render target)) ++ '/' :: newName) := by
  intro calm
  refine orSftpError_leads (canonicalize_found leads) (fun text => leads_each fun files known => ?_)
    fun _ known => ⟨fun _ same => Response.noConfusion same, fun isCalm => absurd isCalm known.2⟩
  obtain ⟨rfl, rfl⟩ := known
  exact renameTo_leads grounded (canonicalize_located leads).node_isSome

theorem remoteMove_leads {destDir : List Char} {directory : FilePath} (grounded : Grounded tree)
    (leads : tree.canonicalize (join login (resolveRemoteRel home path)) = some target)
    (leadsInto : tree.canonicalize (join login (resolveRemoteRel home destDir)) = some directory) :
    RenameLeads tree login (remoteMove login home path destDir) target
      (trimEndSlashes (render directory) ++ '/' :: fileName (render target)) := by
  intro calm
  refine orSftpError_leads (canonicalize_found leads) (fun text => leads_each fun files known => ?_)
    fun _ known => ⟨fun _ same => Response.noConfusion same, fun isCalm => absurd isCalm known.2⟩
  obtain ⟨rfl, rfl⟩ := known
  refine orSftpError_leads (canonicalize_found leadsInto)
    (fun text => leads_each fun later known => ?_)
    fun _ known => ⟨fun _ same => Response.noConfusion same, fun isCalm => absurd isCalm known.2⟩
  obtain ⟨rfl, rfl⟩ := known
  exact renameTo_leads grounded (canonicalize_located leads).node_isSome

theorem not_relocated {errors : List Bool} (led : Program.Leads (At False (· = tree)) program
      (fun resp _ => ∀ rel, resp ≠ .relocated rel) fun _ => False) (rel : List Char) :
    (program { tree, errors }).2 ≠ some (.relocated rel) := by
  obtain ⟨resp, answered, never⟩ := outcome_of_leads errors led False.elim
  exact fun same => never rel (Option.some.inj (answered.symm.trans same))

theorem remoteRename_acts_iff (grounded : Grounded tree) (path newName : List Char) :
    ActsOnNamed tree login home (.rename path newName) ↔
      Clear tree login home (.rename path newName) := by
  constructor
  · intro acts target leads moves
    obtain ⟨answered, relocates⟩ := (remoteRename_leads grounded leads).moved moves
    obtain ⟨entry, named, other⟩ := acts [] _ answered
    exact (namedEntry_iff leads moves.ne_nil).mp (relocates.unique grounded other ▸ named)
  · intro clear errors outcome rel answered
    cases leads : tree.canonicalize (join login (resolveRemoteRel home path)) with
    | none =>
      refine absurd answered (not_relocated ?_ rel)
      exact orSftpError_leads (canonicalize_missing leads) (fun _ _ known => known.elim)
        fun _ _ _ same => Response.noConfusion same
    | some target =>
      obtain ⟨moves, relocates⟩ := (remoteRename_leads grounded leads).relocated answered
      exact ⟨target, (namedEntry_iff leads moves.ne_nil).mpr (clear target leads moves), relocates⟩

theorem remoteMove_acts_iff (grounded : Grounded tree) (path destDir : List Char) :
    ActsOnNamed tree login home (.move path destDir) ↔
      Clear tree login home (.move path destDir) := by
  constructor
  · intro acts target leads directory leadsInto moves
    obtain ⟨answered, relocates⟩ := (remoteMove_leads grounded leads leadsInto).moved moves
    obtain ⟨entry, named, other⟩ := acts [] _ answered
    exact (namedEntry_iff leads moves.ne_nil).mp (relocates.unique grounded other ▸ named)
  · intro clear errors outcome rel answered
    cases leads : tree.canonicalize (join login (resolveRemoteRel home path)) with
    | none =>
      refine absurd answered (not_relocated ?_ rel)
      exact orSftpError_leads (canonicalize_missing leads) (fun _ _ known => known.elim)
        fun _ _ _ same => Response.noConfusion same
    | some target =>
      cases leadsInto : tree.canonicalize (join login (resolveRemoteRel home destDir)) with
      | none =>
        refine absurd answered (not_relocated ?_ rel)
        refine orSftpError_leads (canonicalize_found leads)
          (fun _ => leads_each fun files known => ?_) fun _ _ _ same => Response.noConfusion same
        obtain ⟨rfl, rfl⟩ := known
        exact orSftpError_leads (canonicalize_missing leadsInto) (fun _ _ known => known.elim)
          fun _ _ _ same => Response.noConfusion same
      | some directory =>
        obtain ⟨moves, relocates⟩ := (remoteMove_leads grounded leads leadsInto).relocated answered
        have named := (namedEntry_iff leads moves.ne_nil).mpr
          (clear target leads directory leadsInto moves)
        exact ⟨target, named, relocates⟩

/-! ### Every request -/

/-- The files of a host: each lies in a directory. -/
structure RemoteTree (Content : Type) where
  tree : FileTree Content
  grounded : Grounded tree

/-- A request acts on the entry that its path names exactly if that is what the path is resolved
to. -/
theorem acts_on_named_iff (files : RemoteTree Content) (login : FilePath)
    (home : Option RemoteHome) (request : Request) :
    ActsOnNamed files.tree login home request ↔ Clear files.tree login home request := by
  cases request with
  | delete path => exact remoteDelete_acts_iff files.grounded path
  | rename path newName => exact remoteRename_acts_iff files.grounded path newName
  | move path destDir => exact remoteMove_acts_iff files.grounded path destDir

/-- A directory with a file, and a link to the directory. -/
def linkedFiles : FileTree Nat :=
  ((({} : FileTree Nat).put ["data".toList] .directory).put ["data".toList, "a".toList]
    (.file 1)).put ["link".toList] (.link "data".toList)

theorem linkedFiles_grounded : Grounded linkedFiles := by
  intro loc below there
  rw [node, if_neg below, AList.lookup_isSome] at there
  have keys : linkedFiles.nodes.keys =
      [["link".toList], ["data".toList, "a".toList], ["data".toList]] := by
    decide +kernel
  have mem : loc ∈ linkedFiles.nodes.keys := AList.mem_keys.mp there
  rw [keys] at mem
  simp only [mem_cons, not_mem_nil, or_false] at mem
  rcases mem with rfl | rfl | rfl
  · exact ⟨[], _, rfl, by decide, by decide, rfl⟩
  · exact ⟨["data".toList], _, rfl, by decide, by decide, by decide +kernel⟩
  · exact ⟨[], _, rfl, by decide, by decide, rfl⟩

/-- A path that leads up, and starts at no slash, is resolved to the root directory, and all that is
in it goes. -/
theorem leadsUp_removes :
    Grounded linkedFiles ∧ ¬ ActsOnNamed linkedFiles [] none (.delete "../notes".toList) := by
  refine ⟨linkedFiles_grounded, fun acts => ?_⟩
  have unchanged := (acts []).1 (Or.inl (by decide +kernel)) ["data".toList]
  exact absurd unchanged (by decide +kernel)

end Dinotty.Workspace.RemoteFiles
