/-
This file is about the place of a plugin: what a staged directory becomes in it, what comes back
when that fails, and what is left when the plugin is removed.
-/

import Dinotty.Plugin.Spared

namespace Dinotty.Plugin

open List Option FileTree Program.Leads

variable {Content Version Value : Type} {host : Host Content Version} {id : String}
  {slot backup : FileName} {found nodes others : FilePath → Option (FileNode Content)}
  {info otherInfo : Option PluginInfo} {manager later : PluginManager Content}

/-! ### What is in the place of a plugin -/

/-- There is nothing in the place of a plugin. -/
def noNodes : FilePath → Option (FileNode Content) := fun _ => none

/-- Where there is no entry, there is nothing in it. -/
def Hollow (nodes : FilePath → Option (FileNode Content)) : Prop :=
  nodes [] = none → nodes = noNodes

section

variable (stays : Stays host id nodes info manager)
include stays

theorem Stays.entry_node : manager.tree.node (host.pluginDir ++ [id.toList]) = nodes [] := by
  rw [← stays.entry [], append_nil]

theorem Stays.symlinkMetadata (plain : IsPluginName id) :
    manager.tree.symlinkMetadata (pluginPath host id) = nodes [] := by
  rw [pluginPath_eq plain, stays.standing.plugins.symlinkMetadata_concat plain.1, stays.entry_node]
  split
  · rfl
  next missing =>
    cases there : nodes [] with
    | none => rfl
    | some found => exact absurd (stays.inside [] (by rw [there]; rfl)) missing

theorem Stays.pathExists (plain : IsPluginName id) :
    pathExistsOrSymlink manager.tree (pluginPath host id) = (nodes []).isSome := by
  rw [pathExistsOrSymlink, stays.symlinkMetadata plain]
  cases there : nodes [] with
  | some found => simp
  | none =>
    have solid : manager.tree.isLinkAt (host.pluginDir ++ [id.toList]) = false := by
      rw [isLinkAt, stays.entry_node, there]
    rw [fileExists, pluginPath_eq plain,
      stays.standing.plugins.canonicalize_concat plain.1 solid, stays.entry_node, there]
    simp

end

/-! ### Removing a plugin -/

/-- What a removal that has come to some nodes leaves of a plugin. -/
def remaining (host : Host Content Version) (id : String) (test : FilePath → Bool)
    (nodes : FilePath → Option (FileNode Content)) : FilePath → Option (FileNode Content) :=
  fun rest => if test (host.pluginDir ++ [id.toList] ++ rest) then none else nodes rest

variable {test : FilePath → Bool}

theorem Beneath.append {place : FilePath} (beneath : Beneath place test) {front : FilePath}
    (taken : test front = true) (rest : FilePath) :
    test (front ++ rest) = true := by
  induction rest using reverseRecOn with
  | nil => rwa [append_nil]
  | append_singleton rest name ih =>
    rw [← append_assoc]
    exact beneath.closed _ name ih

theorem remaining_all : remaining host id (host.pluginDir ++ [id.toList] <+: ·) nodes = noNodes :=
  funext fun rest => if_pos (decide_eq_true (prefix_append _ rest))

theorem Hollow.remaining (hollow : Hollow nodes)
    (beneath : Beneath (host.pluginDir ++ [id.toList]) test) :
    Hollow (remaining host id test nodes) := by
  intro none
  rw [Plugin.remaining, append_nil] at none
  split at none
  next taken =>
    exact funext fun rest => if_pos (beneath.append taken rest)
  · funext rest
    rw [Plugin.remaining, hollow none]
    exact ite_self _

theorem Stays.removed (stays : Stays host id nodes info manager)
    (beneath : Beneath (host.pluginDir ++ [id.toList]) test) :
    Stays host id (remaining host id test nodes) info
      { manager with tree := manager.tree.prune test } := by
  refine ⟨⟨?_, ?_⟩, fun rest => ?_, fun rest there => ?_, stays.registered⟩
  · exact stays.standing.staging.prune beneath.closed
  · exact stays.standing.data.prune beneath.closed
  · rw [remaining]
    split
    · exact node_prune_of_test (by simp) ‹_›
    next kept =>
      exact (node_prune _ (Bool.not_eq_true _ ▸ kept)).trans (stays.entry rest)
  · rw [isDirectoryAt, node_prune]
    · refine stays.inside rest ?_
      rw [remaining] at there
      split at there
      · cases there
      · exact there
    · by_contra taken
      exact entry_not_prefix_dir (beneath.below _ (Bool.not_eq_false _ ▸ taken))

theorem clearable_plugin {before : PluginManager Content → Prop} (plain : IsPluginName id)
    (standing : ∀ manager, before manager → Standing host manager.tree) :
    Clearable before (pluginPath host id) :=
  ⟨_, _, pluginPath_eq plain, plain.1, fun manager there => (standing manager there).plugins⟩

/-! ### A directory on the way to its place -/

structure Ready (host : Host Content Version) (id : String) (slot : FileName)
    (found nodes : FilePath → Option (FileNode Content)) (info : Option PluginInfo)
    (manager : PluginManager Content) : Prop where
  stays : Stays host id nodes info manager
  root : manager.tree.isDirectoryAt (stagingRoot host) = true
  staged : ∀ rest, manager.tree.node (stagingRoot host ++ [slot] ++ rest) = found rest

section

variable (ready : Ready host id slot found nodes info manager)
include ready

theorem Ready.next : Ready host id slot found nodes info manager.next :=
  ⟨ready.stays.next, ready.root, ready.staged⟩

theorem Ready.of_same (stays : Stays host id others otherInfo later)
    (root : later.tree.node (stagingRoot host) = manager.tree.node (stagingRoot host))
    (same : ∀ rest, later.tree.node (stagingRoot host ++ [slot] ++ rest) =
      manager.tree.node (stagingRoot host ++ [slot] ++ rest)) :
    Ready host id slot found others otherInfo later where
  stays := stays
  root := by
    rw [isDirectoryAt, root]
    exact ready.root
  staged := fun rest => (same rest).trans (ready.staged rest)

theorem Ready.prune {place : FilePath} (beneath : Beneath place test)
    (stays : Stays host id others info { manager with tree := manager.tree.prune test })
    (aboveRoot : ¬ place <+: stagingRoot host)
    (away : ∀ rest, ¬ place <+: stagingRoot host ++ [slot] ++ rest) :
    Ready host id slot found others info { manager with tree := manager.tree.prune test } := by
  have kept {location : FilePath} (outside : ¬ place <+: location) :
      (manager.tree.prune test).node location = manager.tree.node location := by
    refine node_prune _ ?_
    by_contra taken
    exact outside (beneath.below location (Bool.not_eq_false _ ▸ taken))
  exact ready.of_same stays (kept aboveRoot) fun rest => kept (away rest)

end

theorem stagingDir_ready (apart : NotStaging id) :
    Program.Leads (Stays host id nodes info) (stagingDir host slot)
      (fun staged manager => (staged = stagingRoot host ++ [slot] ∧ IsEntryName slot) ∧
        Ready host id slot (nodeOf []) nodes info manager)
      (Stays host id nodes info) := by
  refine bind (createDirAll_leads apart prefix_rfl) fun _ => ?_
  have makes : Program.Leads
      (fun manager => manager.tree.isDirectoryAt (stagingRoot host) = true ∧
        Stays host id nodes info manager)
      (onTree fun tree => (tree.createDir (stagingRoot host ++ [slot])).map fun done =>
        done.tree.prune fun loc => stagingRoot host ++ [slot] <+: loc &&
          loc ≠ stagingRoot host ++ [slot])
      (fun _ manager => IsEntryName slot ∧ Ready host id slot (nodeOf []) nodes info manager)
      fun manager => manager.tree.isDirectoryAt (stagingRoot host) = true ∧
        Stays host id nodes info manager := by
    refine onTree_leads (fun _ there => ⟨there.1, there.2.next⟩)
      fun manager tree ⟨root, stays⟩ through => ?_
    obtain ⟨entryName, -, laid, other⟩ := newDir_spec stays.standing through
    refine ⟨entryName, stays.staged apart other, ?_, laid⟩
    rw [isDirectoryAt, other _ staged_not_prefix_root]
    exact root
  refine bind (mono makes (fun _ there => there)
    (fun _ _ there => there) fun _ there => there.2) fun _ => ?_
  refine given fun entryName => ?_
  exact pure fun _ ready => ⟨⟨rfl, entryName⟩, ready⟩

/-! ### Giving it the place -/

theorem Ready.renamed (ready : Ready host id slot found noNodes info manager)
    (apart : NotStaging id) (plain : IsPluginName id) (entryName : IsEntryName slot)
    (filled : (found []).isSome) :
    ∃ done, manager.tree.rename (stagingRoot host ++ [slot]) (pluginPath host id) = some done ∧
      Stays host id found info { manager with tree := done.tree } := by
  have aside : Aside host id (stagingRoot host ++ [slot]) := aside_staged apart
  have directory : manager.tree.isDirectoryAt host.pluginDir = true :=
    isDirectoryAt_iff.mpr
      (ready.stays.standing.staging.node_of_prefix ready.root pluginDir_prefix)
  have oldNamed := ready.stays.standing.staging.entry_concat entryName
  have newNamed := ready.stays.standing.plugins.entry_concat plain.1
  rw [if_pos ready.root] at oldNamed
  rw [if_pos directory] at newNamed
  rw [pluginPath_eq plain]
  obtain ⟨first, isFirst⟩ := isSome_iff_exists.mp filled
  have there := ready.staged []
  rw [append_nil, isFirst] at there
  obtain ⟨done, through⟩ := rename_of_free oldNamed newNamed there
    ready.stays.entry_node aside.above aside.below
  obtain ⟨source, destination, sourceNamed, destinationNamed, moved⟩ := rename_nodes through
  cases oldNamed.symm.trans sourceNamed
  cases newNamed.symm.trans destinationNamed
  obtain ⟨same, -⟩ | ⟨-, -, there, -, other⟩ := moved
  · exact absurd (same ▸ prefix_rfl) aside.above
  refine ⟨done, through, ⟨?_, ?_⟩, fun rest => (there rest).trans (ready.staged rest),
    fun _ _ => ?_, ready.stays.registered⟩
  · refine ready.stays.standing.staging.congr fun above below => other above ?_ ?_
    · exact fun further => staged_not_prefix_root (further.trans below)
    · exact fun further => apart (entry_prefix_iff.mp (further.trans below))
  · refine ready.stays.standing.data.congr fun above below => other above ?_ ?_
    · exact fun further => aside.data (further.trans below)
    · exact fun further => entry_not_prefix_data (further.trans below)
  · rw [isDirectoryAt, other]
    · exact directory
    · exact fun below => aside.above (below.trans (prefix_append _ _))
    · exact entry_not_prefix_dir

section Renaming

variable {before : PluginManager Content → Prop}

theorem rename_ready (apart : NotStaging id) (plain : IsPluginName id)
    (entryName : IsEntryName slot) (filled : (found []).isSome)
    (next : ∀ manager, before manager → before manager.next)
    (ready : ∀ manager, before manager → Ready host id slot found noNodes info manager) :
    Program.Leads before (rename (stagingRoot host ++ [slot]) (pluginPath host id))
      (fun _ => Stays host id found info) before := by
  refine onTree_leads next fun manager tree there through => ?_
  obtain ⟨done, renamed, rfl⟩ := map_eq_some_iff.mp through
  obtain ⟨same, isSame, stays⟩ := (ready manager there).renamed apart plain entryName filled
  cases isSame.symm.trans renamed
  exact stays

theorem renameBack_ready (apart : NotStaging id) (plain : IsPluginName id)
    (entryName : IsEntryName slot) (filled : (found []).isSome)
    (ready : ∀ manager, before manager → Ready host id slot found noNodes info manager)
    {never : PluginManager Content → Prop} :
    Program.Leads before (renameBack (stagingRoot host ++ [slot]) (pluginPath host id))
      (fun _ => Stays host id found info) never := by
  intro manager there
  obtain ⟨done, renamed, stays⟩ := (ready manager there).renamed apart plain entryName filled
  simp only [renameBack, callTree, renamed, map_some]
  exact stays

end Renaming

/-! ### Putting an older one aside -/

theorem other_slot_apart (differs : backup ≠ slot) (rest : FilePath) :
    ¬ stagingRoot host ++ [backup] <+: stagingRoot host ++ [slot] ++ rest := fun below => by
  rw [append_assoc, prefix_append_right_inj, singleton_append] at below
  exact differs (cons_prefix_cons.mp below).1

/-- Room for the older plugin is not where the new one is. -/
theorem stagingDir_backup (apart : NotStaging id) (filled : (found []).isSome) :
    Program.Leads (Ready host id slot found nodes info) (stagingDir host backup)
      (fun path manager => (path = stagingRoot host ++ [backup] ∧ IsEntryName backup ∧
        backup ≠ slot) ∧ Ready host id slot found nodes info manager)
      (Stays host id nodes info) := by
  have makesRoot : Program.Leads (Ready host id slot found nodes info)
      (createDirAll (stagingRoot host)) (fun _ => Ready host id slot found nodes info)
      (Stays host id nodes info) := by
    refine faulty_leads (fun _ ready => ready.next) (fun manager ready => ?_)
      fun _ _ ready _ => ready.next.stays
    obtain ⟨accesses, made, makes, same⟩ := ready.stays.standing.staging.createDirAll
    have kept (location : FilePath) : made.node location = manager.tree.node location := by
      rw [same]
      split
      next above =>
        exact (ready.stays.standing.staging.node_of_prefix ready.root above).symm
      · rfl
    rw [makes]
    refine ready.of_same ?_ (kept _) fun rest => kept _
    exact ready.stays.of_nodes fun location differs => absurd (kept location) differs
  refine bind makesRoot fun _ => ?_
  have makes : Program.Leads (Ready host id slot found nodes info)
      (onTree fun tree => (tree.createDir (stagingRoot host ++ [backup])).map fun done =>
        done.tree.prune fun location => stagingRoot host ++ [backup] <+: location &&
          location ≠ stagingRoot host ++ [backup])
      (fun _ manager => (IsEntryName backup ∧ backup ≠ slot) ∧
        Ready host id slot found nodes info manager)
      (Ready host id slot found nodes info) := by
    refine onTree_leads (fun _ ready => ready.next) fun manager tree ready through => ?_
    obtain ⟨entryName, free, -, other⟩ := newDir_spec ready.stays.standing through
    have differs : backup ≠ slot := by
      rintro rfl
      have there := ready.staged []
      rw [append_nil, free] at there
      rw [← there] at filled
      cases filled
    refine ⟨⟨entryName, differs⟩, ?_⟩
    exact ready.of_same (ready.stays.staged apart other) (other _ staged_not_prefix_root)
      fun rest => other _ (other_slot_apart differs rest)
  refine bind (mono makes (fun _ there => there)
    (fun _ _ there => there) fun _ ready => ready.stays) fun _ => ?_
  exact pure fun _ there => ⟨⟨rfl, there.1⟩, there.2⟩

/-- An older plugin goes where there is room for it. -/
theorem rename_backup (apart : NotStaging id) (plain : IsPluginName id) (differs : backup ≠ slot) :
    Program.Leads (Ready host id slot found nodes info)
      (rename (pluginPath host id) (stagingRoot host ++ [backup]))
      (fun _ manager => Ready host id slot found noNodes info manager ∧
        Ready host id backup nodes noNodes info manager)
      (Ready host id slot found nodes info) := by
  have aside : Aside host id (stagingRoot host ++ [backup]) := aside_staged apart
  refine onTree_leads (fun _ ready => ready.next) fun manager tree ready through => ?_
  obtain ⟨done, renamed, rfl⟩ := map_eq_some_iff.mp through
  obtain ⟨source, destination, sourceNamed, destinationNamed, moved⟩ := rename_nodes renamed
  rw [pluginPath_eq plain] at sourceNamed
  obtain ⟨rfl, -⟩ := ready.stays.standing.plugins.entry_eq sourceNamed
  obtain ⟨rfl, -⟩ := ready.stays.standing.staging.entry_eq destinationNamed
  obtain ⟨same, -⟩ | ⟨-, -, there, gone, other⟩ := moved
  · exact absurd (same ▸ prefix_rfl) aside.below
  have onWay {location : FilePath} (above : location <+: stagingRoot host) :
      done.tree.node location = manager.tree.node location := by
    refine other location (fun below => ?_) fun below => ?_
    · exact apart (entry_prefix_iff.mp (below.trans above))
    · exact staged_not_prefix_root (below.trans above)
  have stays : Stays host id noNodes info { manager with tree := done.tree } := by
    refine ⟨⟨?_, ?_⟩, gone, fun _ there => absurd there (by simp [noNodes]), ready.stays.registered⟩
    · exact ready.stays.standing.staging.congr fun _ above => onWay above
    · refine ready.stays.standing.data.congr fun above below => other above ?_ ?_
      · exact fun further => entry_not_prefix_data (further.trans below)
      · exact fun further => aside.data (further.trans below)
  refine ⟨ready.of_same stays (onWay prefix_rfl) fun rest => ?_, stays, ?_, fun rest => ?_⟩
  · have asideStaged : Aside host id (stagingRoot host ++ [slot]) := aside_staged apart
    exact other _ (asideStaged.of_front (prefix_append _ rest)).below
      (other_slot_apart differs rest)
  · rw [isDirectoryAt, onWay prefix_rfl]
    exact ready.root
  · exact (there rest).trans (ready.stays.entry rest)

/-- What is known while an older plugin is out of its place, if there was one. -/
def OutOfPlace (host : Host Content Version) (id : String) (slot backup : FileName)
    (found nodes : FilePath → Option (FileNode Content)) (info : Option PluginInfo)
    (hadOld : Bool) (manager : PluginManager Content) : Prop :=
  Ready host id slot found noNodes info manager ∧
    (hadOld = true → Ready host id backup nodes noNodes info manager)

/-- A staged directory comes into the place of an older plugin, or all is as before. -/
theorem replaceWithStaged_ready (apart : NotStaging id) (plain : IsPluginName id)
    (entryName : IsEntryName slot) (filled : (found []).isSome) (hollow : Hollow nodes) :
    Program.Leads (Ready host id slot found nodes info)
      (replaceWithStaged host backup id (stagingRoot host ++ [slot]))
      (fun _ => Stays host id found info) (Stays host id nodes info) := by
  refine bind (stagingDir_backup apart filled) fun path => ?_
  refine given fun ⟨isPath, backupName, differs⟩ => ?_
  obtain rfl := isPath
  have isBackup : IsStaged host (stagingRoot host ++ [backup]) := ⟨backup, rfl, backupName⟩
  have clearable : Clearable (Ready host id slot found nodes info)
      (stagingRoot host ++ [backup]) :=
    ⟨_, _, rfl, backupName, fun _ ready => ready.stays.standing.staging⟩
  have reserved : Program.Leads (Ready host id slot found nodes info)
      (removeDirAll (stagingRoot host ++ [backup])) (fun _ => Ready host id slot found nodes info)
      (Stays host id nodes info) := by
    refine removeDirAll_leads clearable (fun _ ready => ready.next) (fun manager ready => ?_)
      (fun _ ready => ready.stays)
      fun manager test ready _ beneath => ready.stays.next.prune (aside_staged apart) beneath
    exact ready.prune (beneath_all _) (ready.stays.prune (aside_staged apart) (beneath_all _))
      staged_not_prefix_root (other_slot_apart differs)
  refine bind reserved fun _ => ?_
  have looks : Program.Leads (Ready host id slot found nodes info)
      (Program.look fun manager => pathExistsOrSymlink manager.tree (pluginPath host id))
      (fun hadOld manager => hadOld = (nodes []).isSome ∧
        Ready host id slot found nodes info manager) (Stays host id nodes info) :=
    fun manager ready => ⟨ready.stays.pathExists plain, ready⟩
  refine bind looks fun hadOld => given fun isOld => ?_
  have putsAside : Program.Leads (Ready host id slot found nodes info)
      (Program.when (hadOld = true)
        (rename (pluginPath host id) (stagingRoot host ++ [backup])))
      (fun _ => OutOfPlace host id slot backup found nodes info hadOld)
      (Stays host id nodes info) := by
    refine when (fun had => mono (rename_backup apart plain differs)
      (fun _ ready => ready) (fun _ _ there => ⟨there.1, fun _ => there.2⟩)
      fun _ ready => ready.stays) fun had manager ready => ?_
    have none : nodes [] = none := by
      rw [isOld, isSome_iff_ne_none, not_not] at had
      exact had
    exact ⟨hollow none ▸ ready, fun isOld => absurd isOld had⟩
  refine bind putsAside fun _ => ?_
  have moves : Program.Leads (OutOfPlace host id slot backup found nodes info hadOld)
      (rename (stagingRoot host ++ [slot]) (pluginPath host id))
      (fun _ => Stays host id found info)
      (OutOfPlace host id slot backup found nodes info hadOld) :=
    rename_ready apart plain entryName filled
      (fun _ there => ⟨there.1.next, fun had => (there.2 had).next⟩) fun _ there => there.1
  have installs : Program.Leads (OutOfPlace host id slot backup found nodes info hadOld)
      (rename (stagingRoot host ++ [slot]) (pluginPath host id)).succeeds
      (fun installed manager =>
        if installed = true then Stays host id found info manager
        else OutOfPlace host id slot backup found nodes info hadOld manager)
      (Stays host id nodes info) :=
    succeeds moves (fun _ _ stays => by rwa [if_pos rfl])
      fun _ there => by rwa [if_neg Bool.false_ne_true]
  refine bind installs fun installed => ite (fun yes => ?_) fun no => ?_
  · simp only [if_pos yes]
    refine when (fun _ => change fun manager stays => ?_)
      fun _ _ stays => stays
    exact (keeps_removePluginPath (isBackup.removable apart)).state stays
  · simp only [if_neg no]
    have restores : Program.Leads (OutOfPlace host id slot backup found nodes info hadOld)
        (Program.when (hadOld = true)
          (renameBack (stagingRoot host ++ [backup]) (pluginPath host id)))
        (fun _ => Stays host id nodes info) (Stays host id nodes info) := by
      refine when (fun had => ?_) fun had manager there => ?_
      · rw [isOld] at had
        exact renameBack_ready apart plain backupName had fun _ there => there.2 (isOld ▸ had)
      · rw [isOld, isSome_iff_ne_none, not_not] at had
        exact hollow had ▸ there.1.stays
    exact bind restores fun _ => fail fun _ stays => stays

end Dinotty.Plugin
