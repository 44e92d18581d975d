/-
This file is about what an operation on one plugin does to another one: nothing.
-/

import Dinotty.Foundation.FileSets
import Dinotty.Plugin.Manager

namespace Dinotty.Plugin

open List Option FileTree Program.Keeps Host

variable {Content Version Value : Type} {host : Host Content Version} {id : String}
  {location other : FilePath} {slot backup name : FileName}

/-! ### Locations -/

theorem pluginPath_eq (plain : IsPluginName id) :
    pluginPath host id = host.pluginDir ++ [id.toList] := join_plain plain.2

/-- A location is neither on the way to the directories of the host nor to the directory of a
plugin, and not in it. -/
structure Aside (host : Host Content Version) (id : String) (location : FilePath) : Prop where
  staging : ¬ location <+: stagingRoot host
  data : ¬ location <+: host.dataDir
  above : ¬ location <+: host.pluginDir ++ [id.toList]
  below : ¬ host.pluginDir ++ [id.toList] <+: location

theorem Aside.of_front (aside : Aside host id location) (further : location <+: other) :
    Aside host id other where
  staging := fun above => aside.staging (further.trans above)
  data := fun above => aside.data (further.trans above)
  above := fun above => aside.above (further.trans above)
  below := fun below =>
    ( prefix_or_prefix_of_prefix further below).elim aside.above aside.below

/-- An id that is not the name of the staging area. -/
def NotStaging (id : String) : Prop := id.toList ≠ ".staging".toList

theorem notStaging_of_reserved (reserved : id ∈ reservedPluginIds) : NotStaging id := by
  obtain rfl := mem_singleton.mp reserved
  unfold NotStaging
  decide

theorem entry_prefix_iff {first second : FileName} :
    host.pluginDir ++ [first] <+: host.pluginDir ++ [second] ↔ first = second := by
  rw [prefix_append_right_inj]
  constructor
  · intro below
    exact singleton_inj.mp (below.eq_of_length rfl)
  · rintro rfl
    exact prefix_rfl

theorem pluginDir_prefix : host.pluginDir <+: stagingRoot host := prefix_append _ _

theorem entry_not_prefix_dir : ¬ host.pluginDir ++ [name] <+: host.pluginDir := fun below => by
  have short := below.length_le
  rw [length_append, length_singleton] at short
  exact Nat.not_succ_le_self _ short

theorem entry_not_prefix_data : ¬ host.pluginDir ++ [name] <+: host.dataDir := fun below => by
  have short := below.length_le
  simp [pluginDir, dataDir] at short

theorem aside_entry (differs : name ≠ id.toList) (further : name ≠ ".staging".toList) :
    Aside host id (host.pluginDir ++ [name]) where
  staging := fun below => further (entry_prefix_iff.mp below)
  data := entry_not_prefix_data
  above := fun below => differs (entry_prefix_iff.mp below)
  below := fun below => differs (entry_prefix_iff.mp below).symm

theorem staged_not_prefix_root : ¬ stagingRoot host ++ [slot] <+: stagingRoot host :=
    fun below => by
  have short := below.length_le
  rw [length_append, length_singleton] at short
  exact Nat.not_succ_le_self _ short

theorem aside_staged (apart : NotStaging id) : Aside host id (stagingRoot host ++ [slot]) where
  staging := staged_not_prefix_root
  data := fun below =>
    entry_not_prefix_data ((prefix_append (stagingRoot host) [slot]).trans below)
  above := fun below =>
    apart (entry_prefix_iff.mp ((prefix_append (stagingRoot host) [slot]).trans below)).symm
  below := fun below => by
    rcases prefix_concat_iff.mp below with whole | inRoot
    · have same := congrArg length whole
      simp [stagingRoot] at same
    · exact apart (entry_prefix_iff.mp inRoot)

theorem aside_data : Aside host id (host.dataDir ++ [name]) := by
  have differs : "plugin-data".toList ≠ "plugins".toList := by decide
  have dir (rest : FilePath) : ¬ host.dataDir ++ [name] <+: host.pluginDir ++ rest := by
    intro below
    simp only [dataDir, pluginDir, append_assoc, prefix_append_right_inj, singleton_append] at below
    exact differs (cons_prefix_cons.mp below).1
  refine ⟨dir _, fun below => ?_, dir _, fun below => ?_⟩
  · have short := below.length_le
    rw [length_append, length_singleton] at short
    exact Nat.not_succ_le_self _ short
  · simp only [dataDir, pluginDir, append_assoc, prefix_append_right_inj, singleton_append] at below
    exact differs (cons_prefix_cons.mp below).1.symm

/-! ### What stays -/

/-- The directories of the host, as far as they are there, are directories. -/
structure Standing (host : Host Content Version) (tree : FileTree Content) : Prop where
  staging : FileTree.Passable tree (stagingRoot host)
  data : FileTree.Passable tree host.dataDir

variable {tree : FileTree Content}

theorem Standing.plugins (standing : Standing host tree) : Passable tree host.pluginDir :=
  standing.staging.of_front (prefix_append _ _)

/-- The directory and the registration of a plugin are as told. -/
structure Stays (host : Host Content Version) (id : String)
    (nodes : FilePath → Option (FileNode Content)) (info : Option PluginInfo)
    (manager : PluginManager Content) : Prop where
  standing : Standing host manager.tree
  entry : ∀ rest, manager.tree.node (host.pluginDir ++ [id.toList] ++ rest) = nodes rest
  inside : ∀ rest, (nodes rest).isSome → manager.tree.isDirectoryAt host.pluginDir = true
  registered : manager.registry.lookup id = info

variable {nodes : FilePath → Option (FileNode Content)} {info : Option PluginInfo}
  {manager : PluginManager Content}

section

variable (stays : Stays host id nodes info manager)
include stays

theorem Stays.of_nodes (aside : ∀ location, tree.node location ≠ manager.tree.node location →
      Aside host id location) : Stays host id nodes info { manager with tree } := by
  have same {location : FilePath} (near : ¬ Aside host id location) :
      tree.node location = manager.tree.node location := not_not.mp fun differs =>
    near (aside location differs)
  refine ⟨⟨?_, ?_⟩, fun rest => ?_, fun rest there => ?_, stays.registered⟩
  · exact stays.standing.staging.congr fun _ above => same fun aside => aside.staging above
  · exact stays.standing.data.congr fun _ above => same fun aside => aside.data above
  · exact (same fun aside => aside.below (prefix_append _ rest)).trans (stays.entry rest)
  · rw [isDirectoryAt, same fun aside => aside.above (prefix_append _ _)]
    exact stays.inside rest there

theorem Stays.of_framed {done : Done Content} (framed : Done.Framed manager.tree done)
    (aside : ∀ location ∈ done.access.locations, Aside host id location) :
    Stays host id nodes info { manager with tree := done.tree } := by
  refine stays.of_nodes fun location differs => ?_
  have disturbed : done.access.Disturbs location := not_not.mp fun apart =>
    differs (framed location apart)
  obtain ⟨above, mem, further⟩ := Access.below_of_disturbs disturbed
  exact (aside above mem).of_front further

theorem Stays.next : Stays host id nodes info manager.next :=
  ⟨stays.standing, stays.entry, stays.inside, stays.registered⟩

end

/-- A test for nodes at or below a place that takes with a node whatever is below it. -/
structure Beneath (place : FilePath) (test : FilePath → Bool) : Prop where
  closed : ∀ front name, test front = true → test (front ++ [name]) = true
  below : ∀ location, test location = true → place <+: location

theorem beneath_all (place : FilePath) : Beneath place (place <+: ·) where
  closed := fun _ _ below =>
    decide_eq_true ((of_decide_eq_true below).trans (prefix_append _ _))
  below := fun _ below => of_decide_eq_true below

variable {test : FilePath → Bool}

theorem Stays.prune (stays : Stays host id nodes info manager) (aside : Aside host id location)
    (beneath : Beneath location test) :
    Stays host id nodes info { manager with tree := manager.tree.prune test } := by
  refine stays.of_nodes fun other differs => aside.of_front (beneath.below other ?_)
  by_contra kept
  exact differs (node_prune _ (Bool.not_eq_true _ ▸ kept))

theorem Stays.prune_entry (stays : Stays host id nodes info manager) (differs : name ≠ id.toList)
    (beneath : Beneath (host.pluginDir ++ [name]) test) :
    Stays host id nodes info { manager with tree := manager.tree.prune test } := by
  have kept {location : FilePath} (outside : ¬ host.pluginDir ++ [name] <+: location) :
      test location = false := by
    by_contra taken
    exact outside (beneath.below location (Bool.not_eq_false _ ▸ taken))
  refine ⟨⟨stays.standing.staging.prune beneath.closed, stays.standing.data.prune beneath.closed⟩,
    fun rest => ?_, fun rest there => ?_, stays.registered⟩
  · refine (node_prune _ (kept fun below => ?_)).trans (stays.entry rest)
    rcases prefix_or_prefix_of_prefix below (prefix_append _ rest) with above | above
    · exact differs (entry_prefix_iff.mp above)
    · exact differs (entry_prefix_iff.mp above).symm
  · rw [isDirectoryAt, node_prune _ (kept entry_not_prefix_dir)]
    exact stays.inside rest there

variable {manifest : PluginManifest}

theorem Stays.register (stays : Stays host id nodes info manager) (differs : manifest.id ≠ id)
    (registered : PluginInfo) :
    Stays host id nodes info
      { manager with registry := manager.registry.insert manifest.id registered } where
  standing := stays.standing
  entry := stays.entry
  inside := stays.inside
  registered := by
    rw [KeyMap.lookup_insert, if_neg differs.symm]
    exact stays.registered

/-! ### Removing what is in a place -/

/-- A path to an entry of a directory that is reached without links, wherever a condition holds. -/
def Clearable (before : PluginManager Content → Prop) (place : FilePath) : Prop :=
  ∃ front name, place = front ++ [name] ∧ FileTree.IsEntryName name ∧
    ∀ manager, before manager → FileTree.Passable manager.tree front

theorem partlyRemoved_prune (tree : FileTree Content) (place : FilePath) (done : FilePath → Bool) :
    ∃ test, Beneath place test ∧
      partlyRemoved tree (tree.prune (place <+: ·)) done = tree.prune test := by
  refine ⟨_, ⟨fun front name taken => ?_, fun location taken => ?_⟩, rfl⟩
  · obtain ⟨above, mem, goes⟩ := any_eq_true.mp taken
    refine any_eq_true.mpr ⟨above, (mem_inits _ _).mpr ?_, goes⟩
    exact ((mem_inits _ _).mp mem).trans (prefix_append _ _)
  · obtain ⟨above, mem, goes⟩ := any_eq_true.mp taken
    simp only [Bool.and_eq_true] at goes
    obtain ⟨⟨-, held⟩, gone⟩ := goes
    refine IsPrefix.trans ?_ ((mem_inits _ _).mp mem)
    by_contra outside
    rw [node_prune _ (decide_eq_false outside), isNone_iff_eq_none] at gone
    rw [gone] at held
    cases held

section Removing

variable {before later after failed : PluginManager Content → Prop} {place : FilePath}

theorem faulty_leads {whole : Step Content Unit}
    {part : (FilePath → Bool) → PluginManager Content → PluginManager Content}
    (next : ∀ manager, before manager → later manager.next)
    (led : Program.Leads later whole (fun _ => after) failed)
    (parted : ∀ done manager, before manager → manager.faults 0 = some done →
      failed (part done manager.next)) :
    Program.Leads before (faulty whole part) (fun _ => after) failed := by
  intro manager there
  unfold faulty
  cases fault : manager.faults 0 with
  | none => exact led _ (next manager there)
  | some done => exact parted done _ there fault

variable {call : FileTree Content → Option (FileTree Content)}

theorem callTree_leads
    (called : ∀ manager tree, before manager → call manager.tree = some tree →
      after { manager with tree }) :
    Program.Leads before (callTree call) (fun _ => after) before := by
  intro manager there
  unfold callTree
  cases through : call manager.tree with
  | none => exact there
  | some tree => exact called manager tree there through

theorem onTree_leads (next : ∀ manager, before manager → later manager.next)
    (called : ∀ manager tree, later manager → call manager.tree = some tree →
      after { manager with tree }) :
    Program.Leads before (onTree call) (fun _ => after) later :=
  faulty_leads next (callTree_leads called) fun _ manager there _ => next manager there

section

variable (clearable : Clearable later place) (next : ∀ manager, before manager → later manager.next)
  (whole : ∀ manager, later manager → after { manager with tree := manager.tree.prune (place <+: ·) })
include clearable next whole

theorem removeDirAll_leads (same : ∀ manager, later manager → failed manager)
    (partly : ∀ manager test, before manager → (manager.faults 0).isSome → Beneath place test →
      failed { manager.next with tree := manager.tree.prune test }) :
    Program.Leads before (removeDirAll place) (fun _ => after) failed := by
  obtain ⟨front, name, rfl, entryName, passable⟩ := clearable
  refine faulty_leads next (fun manager there => ?_) fun done manager there fault => ?_
  · unfold removeWhole
    cases through : manager.tree.removeDirAll (front ++ [name]) with
    | none => exact same manager there
    | some res =>
      obtain ⟨done, finished⟩ := res
      obtain ⟨gone, rfl⟩ := (passable manager there).removeDirAll_concat entryName through
      simp only [if_true]
      rw [gone]
      exact whole manager there
  · cases through : manager.next.tree.removeDirAll (front ++ [name]) with
    | none => exact same _ (next manager there)
    | some res =>
      obtain ⟨removed, finished⟩ := res
      obtain ⟨gone, -⟩ := (passable _ (next manager there)).removeDirAll_concat entryName through
      obtain ⟨test, beneath, parted⟩ := partlyRemoved_prune manager.next.tree (front ++ [name]) done
      dsimp only
      rw [gone, parted]
      exact partly manager test there (by rw [fault]; rfl) beneath

theorem removeSymlinkOrFile_leads :
    Program.Leads before (removeSymlinkOrFile place) (fun _ => after) later := by
  obtain ⟨front, name, rfl, -, passable⟩ := clearable
  refine onTree_leads next fun manager tree there through => ?_
  have removed {done : Done Content}
      (through : manager.tree.removeFile (front ++ [name]) = some done) :
      after { manager with tree := done.tree } := by
    rw [(passable manager there).removeFile_concat through]
    exact whole manager there
  split at through
  · obtain ⟨done, called, rfl⟩ := map_eq_some_iff.mp through
    exact removed called
  · obtain ⟨done, called, rfl⟩ := map_eq_some_iff.mp through
    exact removed called
  · cases through

theorem removePluginPath_leads (same : ∀ manager, later manager → failed manager)
    (missing : ∀ manager, before manager → failed manager)
    (partly : ∀ manager test, before manager → (manager.faults 0).isSome → Beneath place test →
      failed { manager.next with tree := manager.tree.prune test }) :
    Program.Leads before (removePluginPath place) (fun _ => after) failed := by
  have single : Program.Leads before (removeSymlinkOrFile place) (fun _ => after) failed :=
    Program.Leads.mono (removeSymlinkOrFile_leads clearable next whole) (fun _ there => there)
      (fun _ _ there => there) same
  refine Program.Leads.bind Program.Leads.glance fun found => ?_
  split
  · exact Program.Leads.fail missing
  · exact single
  · exact single
  · exact removeDirAll_leads clearable next whole same partly

end

end Removing

/-! ### Steps that spare a plugin -/

/-- A program leaves a plugin as it is. -/
def Spares {Value : Type} (host : Host Content Version) (id : String)
    (nodes : FilePath → Option (FileNode Content)) (info : Option PluginInfo)
    (program : Step Content Value) : Prop :=
  program.Keeps (Stays host id nodes info) fun _ => True

theorem keeps_onTree {call : FileTree Content → Option (FileTree Content)}
    (kept : ∀ manager tree, Stays host id nodes info manager → call manager.tree = some tree →
      Stays host id nodes info { manager with tree }) :
    Spares host id nodes info (onTree call) :=
  Program.Leads.mono (onTree_leads (fun _ stays => stays.next) kept) (fun _ stays => stays)
    (fun _ _ stays => ⟨trivial, stays⟩) fun _ stays => stays

theorem createDirAll_leads (apart : NotStaging id) {path : FilePath}
    (onWay : path <+: stagingRoot host) :
    Program.Leads (Stays host id nodes info) (createDirAll path)
      (fun _ manager => manager.tree.isDirectoryAt path = true ∧ Stays host id nodes info manager)
      (Stays host id nodes info) := by
  refine faulty_leads (fun _ stays => stays.next) (fun manager stays => ?_)
    fun _ _ stays _ => stays.next
  obtain ⟨accesses, made, makes, nodes⟩ := (stays.standing.staging.of_front onWay).createDirAll
  rw [makes]
  refine ⟨isDirectoryAt_iff.mpr ?_,
    ⟨stays.standing.staging.made nodes, stays.standing.data.made nodes⟩, fun rest => ?_,
    fun rest there => isDirectoryAt_made nodes (stays.inside rest there),
    stays.registered⟩
  · exact (nodes path).trans (if_pos prefix_rfl)
  · refine (nodes _).trans ((if_neg fun below => ?_).trans (stays.entry rest))
    exact apart (entry_prefix_iff.mp ((prefix_append _ rest).trans (below.trans onWay)))

theorem keeps_createDirAll (apart : NotStaging id) {path : FilePath}
    (onWay : path <+: stagingRoot host) :
    Spares host id nodes info (createDirAll path) :=
  Program.Leads.mono (createDirAll_leads apart onWay) (fun _ stays => stays)
    (fun _ _ there => ⟨trivial, there.2⟩) fun _ stays => stays

theorem keeps_createPluginDir (apart : NotStaging id) :
    Spares host id nodes info (createDirAll host.pluginDir) :=
  keeps_createDirAll apart (prefix_append _ _)

/-- A staging directory has a name of its own in the staging area. -/
def IsStaged (host : Host Content Version) (staged : FilePath) : Prop :=
  ∃ slot, staged = stagingRoot host ++ [slot] ∧ FileTree.IsEntryName slot

theorem newDir_spec {later : FileTree Content} (standing : Standing host tree)
    (through : ((tree.createDir (stagingRoot host ++ [slot])).map fun done =>
      done.tree.prune fun location => stagingRoot host ++ [slot] <+: location &&
        location ≠ stagingRoot host ++ [slot]) = some later) :
    IsEntryName slot ∧ tree.node (stagingRoot host ++ [slot]) = none ∧
      Laid later (stagingRoot host ++ [slot]) [] ∧
      ∀ location, ¬ stagingRoot host ++ [slot] <+: location →
        later.node location = tree.node location := by
  obtain ⟨done, created, rfl⟩ := map_eq_some_iff.mp through
  obtain ⟨location, named, free, same, -⟩ := createEntry_spec created
  obtain ⟨rfl, -, entryName⟩ := standing.staging.entry_eq named
  rw [same]
  refine ⟨entryName, free, fun rest => ?_, fun location outside => ?_⟩
  · by_cases none : rest = []
    · rw [none, append_nil, node_prune _ (by simp), node_put (concat_ne_nil _ _), if_pos rfl]
      rfl
    · rw [node_prune_of_test]
      · rw [nodeOf_of_free (fun _ mem => absurd mem not_mem_nil), if_neg]
        simp [none]
      · simp
      · simp [none]
  · have differs : location ≠ stagingRoot host ++ [slot] := fun same =>
      outside (same ▸ prefix_rfl)
    rw [node_prune _ (by simp [outside]), node_put (concat_ne_nil _ _), if_neg differs]

theorem Stays.staged (stays : Stays host id nodes info manager) (apart : NotStaging id)
    (other : ∀ location, ¬ stagingRoot host ++ [slot] <+: location →
      tree.node location = manager.tree.node location) :
    Stays host id nodes info { manager with tree } := by
  have aside : Aside host id (stagingRoot host ++ [slot]) := aside_staged apart
  refine stays.of_nodes fun location differs => aside.of_front ?_
  by_contra outside
  exact differs (other location outside)

theorem keeps_stagingDir (apart : NotStaging id) :
    Program.Keeps (Stays host id nodes info) (stagingDir host slot) (IsStaged host) := by
  refine (keeps_createDirAll apart prefix_rfl).bind fun _ _ => ?_
  have makes : Program.Leads (Stays host id nodes info)
      (onTree fun tree => (tree.createDir (stagingRoot host ++ [slot])).map fun done =>
        done.tree.prune fun location => stagingRoot host ++ [slot] <+: location &&
          location ≠ stagingRoot host ++ [slot])
      (fun _ manager => IsEntryName slot ∧ Stays host id nodes info manager)
      (Stays host id nodes info) := by
    refine onTree_leads (fun _ stays => stays.next) fun manager tree stays through => ?_
    obtain ⟨entryName, -, -, other⟩ := newDir_spec stays.standing through
    exact ⟨entryName, stays.staged apart other⟩
  refine Program.Leads.bind makes fun _ => Program.Leads.given fun entryName => ?_
  exact Program.Leads.pure fun _ stays => ⟨⟨slot, rfl, entryName⟩, stays⟩

theorem node_unpack {dest : FilePath} {found : List ((FileName × FilePath) × FileNode Content)}
    (outside : ¬ dest <+: location) :
    (unpack tree dest found).node location = tree.node location := by
  unfold unpack
  induction found generalizing tree with
  | nil => rfl
  | cons first rest ih =>
    have differs : location ≠ dest ++ first.1.1 :: first.1.2 := fun same =>
      outside (same ▸ prefix_append _ _)
    rw [foldl_cons, ih, node_put, if_neg differs]
    exact fun none => (cons_ne_nil _ _ (append_eq_nil_iff.mp none).2)

variable {staged : FilePath}

theorem Stays.unpack (stays : Stays host id nodes info manager) (apart : NotStaging id)
    (isStaged : IsStaged host staged) (found : List ((FileName × FilePath) × FileNode Content)) :
    Stays host id nodes info { manager with tree := unpack manager.tree staged found } := by
  obtain ⟨slot, rfl, -⟩ := isStaged
  have aside : Aside host id (stagingRoot host ++ [slot]) := aside_staged apart
  refine stays.of_nodes fun location differs => aside.of_front ?_
  by_contra outside
  exact differs (node_unpack outside)

section

variable (apart : NotStaging id) (isStaged : IsStaged host staged)
include apart isStaged

theorem keeps_writeNodes (found : List ((FileName × FilePath) × FileNode Content)) :
    Spares host id nodes info (writeNodes found staged) :=
  faulty_leads (fun _ stays => stays.next)
    (fun _ stays => ⟨trivial, stays.unpack apart isStaged found⟩)
    fun _ _ stays _ => stays.next.unpack apart isStaged _

theorem keeps_extractTarGz (archive : Archive Content) :
    Spares host id nodes info (extractTarGz archive staged) :=
  (keeps_writeNodes apart isStaged archive.nodes).bind fun _ _ =>
    require.weaken fun _ _ => trivial

theorem keeps_copyPluginDir (src : FilePath) :
    Spares host id nodes info (copyPluginDir src staged) := by
  refine look.bind fun _ _ => ofOption.bind fun _ _ => ?_
  refine look.bind fun found _ => require.bind fun _ _ => ?_
  exact keeps_writeNodes apart isStaged found

end

/-! ### Other plugins -/

structure Other (id other : String) : Prop where
  plain : IsPluginName other
  notStaging : NotStaging other
  differs : other ≠ id

theorem Other.aside {other : String} (isOther : Other id other) :
    Aside host id (host.pluginDir ++ [other.toList]) :=
  aside_entry (fun same => isOther.differs (String.toList_inj.mp same)) isOther.notStaging

/-- A place of its own for a plugin or in the staging area. -/
def IsPlace (host : Host Content Version) (id : String) (place : FilePath) : Prop :=
  IsStaged host place ∨ ∃ other, Other id other ∧ place = pluginPath host other

variable {place : FilePath}

theorem IsPlace.spec (isPlace : IsPlace host id place) (apart : NotStaging id) :
    Aside host id place ∧ ∃ front name, place = front ++ [name] ∧ IsEntryName name ∧
      ∀ tree : FileTree Content, Standing host tree → Passable tree front := by
  rcases isPlace with ⟨slot, rfl, entryName⟩ | ⟨other, isOther, rfl⟩
  · exact ⟨aside_staged apart, _, _, rfl, entryName, fun _ standing => standing.staging⟩
  · rw [pluginPath_eq isOther.plain]
    exact ⟨isOther.aside, _, _, rfl, isOther.plain.1, fun _ standing => standing.plugins⟩

variable {old new : FilePath}

theorem Stays.renamed (stays : Stays host id nodes info manager) (apart : NotStaging id)
    (isOld : IsPlace host id old) (isNew : IsPlace host id new)
    (through : (manager.tree.rename old new).map (·.tree) = some tree) :
    Stays host id nodes info { manager with tree } := by
  obtain ⟨done, renamed, rfl⟩ := map_eq_some_iff.mp through
  obtain ⟨source, dest, oldNamed, newNamed, -, access, framed⟩ := rename_spec renamed
  obtain ⟨asideOld, oldFront, oldName, rfl, -, passableOld⟩ := isOld.spec apart
  obtain ⟨asideNew, newFront, newName, rfl, -, passableNew⟩ := isNew.spec apart
  obtain ⟨rfl, -⟩ := (passableOld _ stays.standing).entry_eq oldNamed
  obtain ⟨rfl, -⟩ := (passableNew _ stays.standing).entry_eq newNamed
  refine stays.of_framed framed fun location mem => ?_
  rw [access] at mem
  rcases mem_cons.mp mem with rfl | mem
  · exact asideOld
  · exact mem_singleton.mp mem ▸ asideNew

theorem keeps_rename (apart : NotStaging id) (isOld : IsPlace host id old)
    (isNew : IsPlace host id new) :
    Spares host id nodes info (rename old new) :=
  keeps_onTree fun _ _ stays through => stays.renamed apart isOld isNew through

theorem keeps_renameBack (apart : NotStaging id) (isOld : IsPlace host id old)
    (isNew : IsPlace host id new) :
    Spares host id nodes info (renameBack old new) :=
  callTree_leads fun _ _ stays through => ⟨trivial, stays.renamed apart isOld isNew through⟩

/-- A place that can be cleared without touching a plugin. -/
structure Removable (host : Host Content Version) (id : String) (place : FilePath) : Prop where
  named : ∃ front name, place = front ++ [name] ∧ FileTree.IsEntryName name ∧
    ∀ tree : FileTree Content, Standing host tree → FileTree.Passable tree front
  kept : ∀ nodes info manager test, Stays host id nodes info manager → Beneath place test →
    Stays host id nodes info { manager with tree := manager.tree.prune test }

theorem IsPlace.removable (isPlace : IsPlace host id place) (apart : NotStaging id) :
    Removable host id place where
  named := (isPlace.spec apart).2
  kept := fun _ _ _ _ stays beneath => stays.prune (isPlace.spec apart).1 beneath

theorem IsStaged.removable (isStaged : IsStaged host staged) (apart : NotStaging id) :
    Removable host id staged :=
  IsPlace.removable (.inl isStaged) apart

section

variable (removable : Removable host id place)
include removable

theorem Removable.clearable (nodes : FilePath → Option (FileNode Content))
    (info : Option PluginInfo) :
    Clearable (Stays host id nodes info) place := by
  obtain ⟨front, name, same, entryName, passable⟩ := removable.named
  exact ⟨front, name, same, entryName, fun manager stays => passable _ stays.standing⟩

theorem Removable.whole (stays : Stays host id nodes info manager) :
    Stays host id nodes info { manager with tree := manager.tree.prune (place <+: ·) } :=
  removable.kept nodes info manager _ stays (beneath_all place)

theorem keeps_removeDirAll : Spares host id nodes info (removeDirAll place) :=
  removeDirAll_leads (removable.clearable nodes info) (fun _ stays => stays.next)
    (fun _ stays => ⟨trivial, removable.whole stays⟩) (fun _ stays => stays)
    fun _ _ stays _ beneath => removable.kept _ _ _ _ stays.next beneath

theorem keeps_removeSymlinkOrFile : Spares host id nodes info (removeSymlinkOrFile place) :=
  removeSymlinkOrFile_leads (removable.clearable nodes info) (fun _ stays => stays.next)
    fun _ stays => ⟨trivial, removable.whole stays⟩

theorem keeps_removePluginPath : Spares host id nodes info (removePluginPath place) :=
  removePluginPath_leads (removable.clearable nodes info) (fun _ stays => stays.next)
    (fun _ stays => ⟨trivial, removable.whole stays⟩) (fun _ stays => stays)
    (fun _ stays => stays) fun _ _ stays _ beneath => removable.kept _ _ _ _ stays.next beneath

end

theorem keeps_withStaging (apart : NotStaging id) {body : FilePath → Step Content Value}
    {gives : Value → Prop}
    (keeps : ∀ staged, IsStaged host staged →
      Program.Keeps (Stays host id nodes info) (body staged) gives) :
    Program.Keeps (Stays host id nodes info) (withStaging host slot body) gives := by
  refine (keeps_stagingDir apart).bind fun staged isStaged => ?_
  exact (keeps staged isStaged).thenAlways fun manager stays =>
    (keeps_removeDirAll (isStaged.removable apart)).state stays

theorem keeps_createDirSymlink {src : FilePath} {other : String} (isOther : Other id other) :
    Spares host id nodes info (createDirSymlink src (pluginPath host other)) := by
  refine keeps_onTree fun manager tree stays through => ?_
  obtain ⟨done, created, rfl⟩ := map_eq_some_iff.mp through
  obtain ⟨location, named, -, same, framed⟩ := createEntry_spec created
  rw [pluginPath_eq isOther.plain] at named
  obtain ⟨rfl, -⟩ := stays.standing.plugins.entry_eq named
  refine stays.of_framed framed fun location mem => ?_
  rw [same] at mem
  exact mem_singleton.mp mem ▸ isOther.aside

theorem keeps_register (differs : manifest.id ≠ id) (installDate : Option Nat) (isDevLink : Bool) :
    Spares host id nodes info (register manifest installDate isDevLink) :=
  bind (.change fun _ stays => stays.register differs _) fun _ _ => .pure trivial

theorem keeps_requireNew {other : String} : Spares host id nodes info (requireNew host other) :=
  look.bind fun _ _ => require.weaken fun _ _ => trivial

theorem keeps_replaceWithStaged (apart : NotStaging id) (isStaged : IsStaged host staged)
    {other : String} (isOther : Other id other) :
    Spares host id nodes info (replaceWithStaged host backup other staged) := by
  have place : IsPlace host id (pluginPath host other) := .inr ⟨other, isOther, rfl⟩
  refine (keeps_stagingDir apart).bind fun backupPath isBackup => ?_
  refine (keeps_removeDirAll (isBackup.removable apart)).bind fun _ _ => ?_
  refine look.bind fun hadOld _ => ?_
  refine (when fun _ => keeps_rename apart place (.inl isBackup)).bind fun _ _ => ?_
  refine (keeps_rename apart (.inl isStaged) place).succeeds.bind fun installed _ => ?_
  refine .ite (fun _ => .when fun _ => .change fun manager stays => ?_) fun _ => ?_
  · exact (keeps_removePluginPath (isBackup.removable apart)).state stays
  · exact (when fun _ => keeps_renameBack apart (.inl isBackup) place).bind
      fun _ _ => .fail

/-! ### Operations on other plugins -/

theorem keeps_passes {inv : PluginManager Content → Prop} {res : Except String Unit} :
    Program.Keeps inv (passes res) fun _ => res = .ok () :=
  require.weaken fun _ passed => by
    cases res with
    | error => cases passed
    | ok => rfl

theorem keeps_prepared {root : FilePath} :
    Spares host id nodes info (prepared host root manifest) :=
  look.bind fun _ _ => require.weaken fun _ _ => trivial

section Operations

variable [LinearOrder Version]

variable {manifest : PluginManifest}

theorem name_of_valid (valid : validateForHost host manifest = .ok ()) :
    IsPluginName manifest.id ∧ NotStaging manifest.id := by
  obtain ⟨⟨⟩, valid, -⟩ := bind_ok valid
  refine ⟨isPluginName_of_validateManifest valid, fun same => ?_⟩
  have dot := (id_of_validateManifest valid).2 '.' (by rw [same]; decide)
  cases dot

theorem other_of_checks (reserved : id ∈ reservedPluginIds)
    (valid : validateForHost host manifest = .ok ())
    (rejects : rejectReservedPluginId manifest.id = .ok ()) : Other id manifest.id where
  plain := (name_of_valid valid).1
  notStaging := (name_of_valid valid).2
  differs := fun same => of_check rejects (same ▸ reserved)

variable {approveNative : Bool} {now : Option Nat}

theorem keeps_installWithApproval (reserved : id ∈ reservedPluginIds) {archive : Archive Content} :
    Spares host id nodes info (installWithApproval host archive approveNative slot now) := by
  have apart := notStaging_of_reserved reserved
  refine (keeps_createPluginDir apart).bind fun _ _ =>
    keeps_withStaging apart fun staged isStaged => ?_
  refine (keeps_extractTarGz apart isStaged archive).bind fun _ _ => ?_
  refine look.bind fun _ _ => ofOption.bind fun manifest _ => ?_
  refine keeps_passes.bind fun _ valid => keeps_passes.bind fun _ rejects => ?_
  have isOther := other_of_checks reserved valid rejects
  refine keeps_passes.bind fun _ _ => keeps_prepared.bind fun _ _ => ?_
  refine keeps_requireNew.bind fun _ _ => ?_
  refine (keeps_rename apart (.inl isStaged) (.inr ⟨_, isOther, rfl⟩)).bind fun _ _ => ?_
  exact keeps_register isOther.differs now false

theorem keeps_installFromDirWithApproval (reserved : id ∈ reservedPluginIds) {src : FilePath}
    {devLink : Bool} :
    Spares host id nodes info
      (installFromDirWithApproval host src devLink approveNative slot now) := by
  have apart := notStaging_of_reserved reserved
  refine look.bind fun _ _ => ofOption.bind fun manifest _ => ?_
  refine keeps_passes.bind fun _ valid => keeps_passes.bind fun _ rejects => ?_
  have isOther := other_of_checks reserved valid rejects
  refine keeps_passes.bind fun _ _ => keeps_prepared.bind fun _ _ => ?_
  refine (keeps_createPluginDir apart).bind fun _ _ => .ite (fun _ => ?_) fun _ => ?_
  · refine keeps_requireNew.bind fun _ _ => (keeps_createDirSymlink isOther).bind fun _ _ => ?_
    exact keeps_register isOther.differs now true
  · refine keeps_withStaging apart fun staged isStaged => ?_
    refine (keeps_copyPluginDir apart isStaged src).bind fun _ _ => ?_
    refine keeps_prepared.bind fun _ _ => keeps_requireNew.bind fun _ _ => ?_
    refine (keeps_rename apart (.inl isStaged) (.inr ⟨_, isOther, rfl⟩)).bind fun _ _ => ?_
    exact keeps_register isOther.differs now false

theorem keeps_installFromDir (reserved : id ∈ reservedPluginIds) {path : FilePath} {devLink : Bool}
    :
    Spares host id nodes info (installFromDir host path devLink approveNative slot now) := by
  refine look.bind fun _ _ => ofOption.bind fun _ _ => ?_
  refine look.bind fun _ _ => require.bind fun _ _ => ?_
  exact keeps_installFromDirWithApproval reserved

variable {stopped : Bool}

theorem keeps_upsertFromDir (reserved : id ∈ reservedPluginIds) {src : FilePath} :
    Spares host id nodes info
      (upsertFromDir host src manifest approveNative slot backup stopped now) := by
  have apart := notStaging_of_reserved reserved
  refine keeps_passes.bind fun _ valid => keeps_passes.bind fun _ rejects => ?_
  have isOther := other_of_checks reserved valid rejects
  refine keeps_passes.bind fun _ _ => (keeps_createPluginDir apart).bind fun _ _ => ?_
  refine keeps_withStaging apart fun staged isStaged => ?_
  refine (keeps_copyPluginDir apart isStaged src).bind fun _ _ => keeps_prepared.bind fun _ _ => ?_
  refine look.bind fun _ _ => look.bind fun _ _ => ?_
  refine require.bind fun _ _ => ?_
  refine (keeps_replaceWithStaged apart isStaged isOther).bind fun _ _ => ?_
  exact keeps_register isOther.differs _ false

theorem keeps_installFromGit (reserved : id ∈ reservedPluginIds) {pluginRoot : FilePath} :
    Spares host id nodes info
      (installFromGit host pluginRoot approveNative slot backup stopped now) := by
  refine look.bind fun _ _ => ofOption.bind fun _ _ => ?_
  exact keeps_upsertFromDir reserved

theorem keeps_updateWithApproval (reserved : id ∈ reservedPluginIds) {updated : String}
    {archive : Archive Content} :
    Spares host id nodes info
      (updateWithApproval host updated archive approveNative slot backup stopped) := by
  have apart := notStaging_of_reserved reserved
  refine (keeps_createPluginDir apart).bind fun _ _ =>
    keeps_withStaging apart fun staged isStaged => ?_
  refine (keeps_extractTarGz apart isStaged archive).bind fun _ _ => ?_
  refine look.bind fun _ _ => ofOption.bind fun manifest _ => ?_
  refine keeps_passes.bind fun _ valid => keeps_passes.bind fun _ rejects => ?_
  have isOther := other_of_checks reserved valid rejects
  refine keeps_passes.bind fun _ _ => require.bind fun _ same => ?_
  obtain rfl := same
  refine keeps_prepared.bind fun _ _ => ?_
  refine look.bind fun _ _ => ofOption.bind fun _ _ => ?_
  refine require.bind fun _ _ => require.bind fun _ _ => ?_
  refine (keeps_replaceWithStaged apart isStaged isOther).bind fun _ _ => ?_
  exact keeps_register isOther.differs _ false

end Operations

theorem keeps_devLink {src : FilePath} {stopped : Bool} (reserved : id ∈ reservedPluginIds)
    (isOther : Other id manifest.id) :
    Spares host id nodes info (devLinkFrom host src manifest stopped) := by
  have apart := notStaging_of_reserved reserved
  have place : IsPlace host id (pluginPath host manifest.id) := .inr ⟨_, isOther, rfl⟩
  refine look.bind fun _ _ => look.bind fun _ _ => ?_
  refine require.bind fun _ _ => (when fun _ => ?_).bind fun _ _ => ?_
  · exact require.bind fun _ _ => keeps_removeSymlinkOrFile (place.removable apart)
  · refine (keeps_createPluginDir apart).bind fun _ _ => ?_
    refine (keeps_createDirSymlink isOther).bind fun _ _ => ?_
    exact keeps_register isOther.differs none true

/-! ### Deletes of other plugins -/

variable {deleted : String}

theorem removable_entry (plain : IsPluginName deleted) (differs : deleted ≠ id) :
    Removable host id (pluginPath host deleted) where
  named := ⟨_, _, pluginPath_eq plain, plain.1, fun _ standing => standing.plugins⟩
  kept := fun _ _ _ _ stays beneath => by
    rw [pluginPath_eq plain] at beneath
    exact stays.prune_entry (fun same => differs (String.toList_inj.mp same)) beneath

theorem removable_data (plain : IsPluginName deleted) :
    Removable host id (join host.dataDir deleted.toList) where
  named := ⟨_, _, join_plain plain.2, plain.1, fun _ standing => standing.data⟩
  kept := fun _ _ _ _ stays beneath => by
    rw [join_plain plain.2] at beneath
    exact stays.prune aside_data beneath

theorem keeps_delete {keepData stopped : Bool} (plain : IsPluginName deleted)
    (differs : deleted ≠ id) :
    Spares host id nodes info (delete host deleted keepData stopped) := by
  refine require.bind fun _ _ => look.bind fun _ _ => ?_
  refine (when fun _ => keeps_removePluginPath
    (removable_entry plain differs)).bind fun _ _ => ?_
  refine look.bind fun _ _ => ?_
  refine (when fun _ => keeps_removeDirAll (removable_data plain)).bind fun _ _ => ?_
  exact .change fun manager stays => ⟨stays.standing, stays.entry, stays.inside, by
    rw [KeyMap.lookup_erase, if_neg differs.symm]
    exact stays.registered⟩

end Dinotty.Plugin
