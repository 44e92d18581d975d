/-
This file is about the plugins under the ids that the app keeps for itself: such a plugin is a seed,
as long as no development link is made under the id and deletes name one directory.
-/

import Dinotty.Plugin.Staging

namespace Dinotty.Plugin

open List Option Program.Leads KeyMap

variable {Content Version Value : Type} {host : Host Content Version} {id : String}
  {slot backup : FileName} {seed : Seed Content} {seeds : List (Seed Content)}
  {nodes : FilePath → Option (FileNode Content)} {info : Option PluginInfo}
  {manager : PluginManager Content}

/-! ### Seeds -/

variable {file : FilePath × Content}

theorem Seed.mem_files (mem : file ∈ seed.files) :
    ∃ asset ∈ seed.assets, ∃ rest ∈ stripSeedPrefix asset.1,
      file = (FileTree.segments rest, asset.2) := by
  obtain ⟨asset, isAsset, stripped⟩ := mem_filterMap.mp mem
  obtain ⟨rest, isRest, same⟩ := map_eq_some_iff.mp stripped
  exact ⟨asset, isAsset, rest, isRest, same.symm⟩

theorem Seed.files_ne_nil (mem : file ∈ seed.files) : file.1 ≠ [] := by
  obtain ⟨asset, -, rest, -, rfl⟩ := seed.mem_files mem
  exact splitOn_ne_nil '/' rest

theorem Seed.files_names (mem : file ∈ seed.files) :
    ∀ name ∈ file.1, FileTree.IsEntryName name := by
  obtain ⟨asset, isAsset, rest, isRest, rfl⟩ := seed.mem_files mem
  exact seed.normal asset isAsset rest isRest

section

variable (seed : Seed Content)

theorem Seed.files_apart : seed.files.Pairwise FileTree.Apart := by
  refine pairwise_filterMap.mpr (seed.apart.imp fun {first second} apart => ?_)
  intro file stripped other strippedOther
  obtain ⟨rest, isRest, rfl⟩ := map_eq_some_iff.mp stripped
  obtain ⟨rest', isRest', rfl⟩ := map_eq_some_iff.mp strippedOther
  exact apart rest isRest rest' isRest'

/-! ### Writing a seed -/

theorem staged_passable (stays : Stays host id nodes info manager)
    (root : manager.tree.isDirectoryAt (stagingRoot host) = true)
    (entryName : FileTree.IsEntryName slot)
    (there : manager.tree.isDirectoryAt (stagingRoot host ++ [slot]) = true) :
    FileTree.Passable manager.tree (stagingRoot host ++ [slot]) := by
  intro front name below
  rcases prefix_concat_iff.mp below with whole | above
  · obtain ⟨rfl, same⟩ := append_inj' whole rfl
    obtain rfl := singleton_inj.mp same
    exact ⟨entryName, .inr ⟨FileTree.isDirectoryAt_iff.mp there, root⟩⟩
  · exact stays.standing.staging front name above

/-- The directories of a file of a seed are there, and the file can be written. -/
def Writable (host : Host Content Version) (id : String) (slot : FileName)
    (written : List (FilePath × Content)) (file : FilePath × Content)
    (nodes : FilePath → Option (FileNode Content)) (info : Option PluginInfo)
    (manager : PluginManager Content) : Prop :=
  Stays host id nodes info manager ∧ ∃ done,
    manager.tree.writeFile (stagingRoot host ++ [slot] ++ file.1) file.2 = some done ∧
      Ready host id slot (FileTree.nodeOf (written ++ [file])) nodes info
        { manager with tree := done.tree }

theorem Writable.next {written : List (FilePath × Content)}
    (writable : Writable host id slot written file nodes info manager) :
    Writable host id slot written file nodes info manager.next := by
  obtain ⟨stays, done, writes, ready⟩ := writable
  exact ⟨stays.next, done, writes, ready.next⟩

theorem writeSeedFile_ready (apart : NotStaging id) (entryName : FileTree.IsEntryName slot)
    {written : List (FilePath × Content)} (filled : ∀ other ∈ written, other.1 ≠ [])
    (nonempty : file.1 ≠ []) (names : ∀ name ∈ file.1, FileTree.IsEntryName name)
    (beside : ∀ other ∈ written, FileTree.Apart other file) :
    Program.Leads (Ready host id slot (FileTree.nodeOf written) nodes info)
      (writeSeedFile (stagingRoot host ++ [slot]) file)
      (fun _ => Ready host id slot (FileTree.nodeOf (written ++ [file])) nodes info)
      (Stays host id nodes info) := by
  have makes : Program.Leads (Ready host id slot (FileTree.nodeOf written) nodes info)
      (createDirAll (stagingRoot host ++ [slot] ++ file.1).dropLast)
      (fun _ => Writable host id slot written file nodes info) (Stays host id nodes info) := by
    refine faulty_leads (fun _ ready => ready.next) (fun manager ready => ?_)
      fun _ _ ready _ => ready.next.stays
    have laid : FileTree.Laid manager.tree (stagingRoot host ++ [slot]) written := ready.staged
    have passable := staged_passable ready.stays ready.root entryName (laid.isDirectoryAt filled)
    obtain ⟨accesses, made, done, makes, writes, laidNow, other⟩ :=
      laid.write passable filled nonempty names beside
    rw [makes]
    refine ⟨ready.stays.staged apart fun loc outside => (other loc outside).1, done,
      writes, ready.stays.staged apart fun loc outside => (other loc outside).2, ?_,
      laidNow⟩
    rw [FileTree.isDirectoryAt, (other _ staged_not_prefix_root).2]
    exact ready.root
  refine bind makes fun _ => mono (onTree_leads
    (fun _ writable => writable.next) fun manager tree writable through => ?_)
    (fun _ writable => writable) (fun _ _ ready => ready) fun _ writable => writable.1
  obtain ⟨-, done, writes, ready⟩ := writable
  rw [writes] at through
  cases through
  exact ready

theorem writeSeed_ready (apart : NotStaging id) (entryName : FileTree.IsEntryName slot)
    (rest : List (FilePath × Content)) :
    ∀ written : List (FilePath × Content),
      (∀ file ∈ written ++ rest, file.1 ≠ [] ∧ ∀ name ∈ file.1, FileTree.IsEntryName name) →
      (written ++ rest).Pairwise FileTree.Apart →
      Program.Leads (Ready host id slot (FileTree.nodeOf written) nodes info)
        (writeSeed (stagingRoot host ++ [slot]) rest)
        (fun _ => Ready host id slot (FileTree.nodeOf (written ++ rest)) nodes info)
        (Stays host id nodes info) := by
  induction rest with
  | nil =>
    intro written _ _
    rw [append_nil]
    exact pure fun _ ready => ready
  | cons file rest ih =>
    intro written sound beside
    have same : written ++ file :: rest = written ++ [file] ++ rest := by simp
    have mem : file ∈ written ++ file :: rest := mem_append_right _ mem_cons_self
    refine bind (writeSeedFile_ready apart entryName
      (fun other inWritten => (sound other (mem_append_left _ inWritten)).1)
      (sound file mem).1 (sound file mem).2 fun other inWritten => ?_) fun _ => ?_
    · exact (pairwise_append.mp beside).2.2 other inWritten file mem_cons_self
    · rw [same] at sound beside ⊢
      exact ih _ sound beside

/-! ### Plugins that are seeds -/

/-- A reserved plugin that is registered is exactly the files of a seed, and no development link. -/
def Good (seeds : List (Seed Content)) (nodes : FilePath → Option (FileNode Content))
    (info : Option PluginInfo) : Prop :=
  Hollow nodes ∧ ∀ registered ∈ info, registered.isDevLink = false ∧
    ∃ seed ∈ seeds, nodes = FileTree.nodeOf seed.files

/-- A reserved plugin is a seed, if it is registered. -/
def Sound (host : Host Content Version) (seeds : List (Seed Content)) (id : String)
    (manager : PluginManager Content) : Prop :=
  ∃ nodes info, Good seeds nodes info ∧ Stays host id nodes info manager

theorem Seed.nodeOf_nil : FileTree.nodeOf seed.files [] = some .directory :=
  FileTree.nodeOf_nil fun _ mem => seed.files_ne_nil mem

theorem Seed.filled : (FileTree.nodeOf seed.files []).isSome = true := by
  rw [seed.nodeOf_nil]
  rfl

theorem Seed.hollow : Hollow (FileTree.nodeOf seed.files) := fun none => by
  rw [seed.nodeOf_nil] at none
  cases none

end

theorem hollow_noNodes : Hollow (noNodes : FilePath → Option (FileNode Content)) := fun _ => rfl

theorem sound_of_unregistered (hollow : Hollow nodes)
    (stays : Stays host id nodes none manager) : Sound host seeds id manager :=
  ⟨nodes, none, ⟨hollow, nofun⟩, stays⟩

theorem register_sound {manifest : PluginManifest} (same : manifest.id = id)
    (brought : seed ∈ seeds) (now : Option Nat) {failed : PluginManager Content → Prop} :
    Program.Leads (Stays host id (FileTree.nodeOf seed.files) info)
      (register manifest now false) (fun _ => Sound host seeds id) failed := by
  intro manager stays
  refine ⟨FileTree.nodeOf seed.files, some ⟨manifest, now, false⟩,
    ⟨seed.hollow, fun registered there => ?_⟩, stays.standing, stays.entry, stays.inside, ?_⟩
  · cases there
    exact ⟨rfl, seed, brought, rfl⟩
  · exact (lookup_insert _ _ _ _).trans (if_pos same.symm)

theorem clears_sound (apart : NotStaging id) (plain : IsPluginName id)
    {found : FilePath → Option (FileNode Content)} (hollow : Hollow nodes) :
    Program.Leads (Ready host id slot found nodes none) (removePluginPath (pluginPath host id))
      (fun _ => Ready host id slot found noNodes none) (Sound host seeds id) := by
  have aside : Aside host id (stagingRoot host ++ [slot]) := aside_staged apart
  refine removePluginPath_leads (clearable_plugin plain fun _ ready => ready.stays.standing)
    (fun _ ready => ready.next) (fun manager ready => ?_)
    (fun _ ready => sound_of_unregistered hollow ready.stays)
    (fun _ ready => sound_of_unregistered hollow ready.stays) fun manager test ready _ beneath => ?_
  · rw [pluginPath_eq plain]
    refine ready.prune (beneath_all _) ?_ (fun below => apart (entry_prefix_iff.mp below))
      fun rest => (aside.of_front (prefix_append _ rest)).below
    have stays := ready.stays.removed (beneath_all _)
    rwa [remaining_all] at stays
  · rw [pluginPath_eq plain] at beneath
    exact sound_of_unregistered (hollow.remaining beneath)
      (ready.stays.next.removed beneath)

section Seeding

variable [LinearOrder Version]

variable {now : Option Nat}

theorem keeps_installSeed (apart : NotStaging id) {staged : FilePath}
    (isStaged : IsStaged host staged) {manifest : PluginManifest} (isOther : Other id manifest.id) :
    Program.Keeps (Stays host id nodes info) (installSeed host backup now staged manifest)
      fun _ => True := by
  have place : IsPlace host id (pluginPath host manifest.id) := .inr ⟨_, isOther, rfl⟩
  refine Program.Keeps.look.bind fun installed _ => ?_
  cases installed with
  | some registered =>
    refine .ite (fun _ => .pure trivial) fun _ => ?_
    refine (keeps_replaceWithStaged apart isStaged isOther).bind fun _ _ => ?_
    exact (keeps_register isOther.differs now false).bind fun _ _ => .pure trivial
  | none =>
    refine Program.Keeps.look.bind fun _ _ => ?_
    refine (Program.Keeps.when fun _ => keeps_removePluginPath (place.removable apart)).bind
      fun _ _ => ?_
    refine (keeps_rename apart (.inl isStaged) place).bind fun _ _ => ?_
    exact (keeps_register isOther.differs now false).bind fun _ _ => .pure trivial

theorem installSeed_sound (apart : NotStaging id) (entryName : FileTree.IsEntryName slot)
    (brought : seed ∈ seeds) (good : Good seeds nodes info) {manifest : PluginManifest}
    (plain : IsPluginName id) (same : manifest.id = id) :
    Program.Leads (Ready host id slot (FileTree.nodeOf seed.files) nodes info)
      (installSeed host backup now (stagingRoot host ++ [slot]) manifest)
      (fun _ => Sound host seeds id) (Sound host seeds id) := by
  have asBefore : ∀ manager, Stays host id nodes info manager → Sound host seeds id manager :=
    fun _ stays => ⟨nodes, info, good, stays⟩
  have registers (info : Option PluginInfo) :
      Program.Leads (Stays host id (FileTree.nodeOf seed.files) info)
        (do let _ ← register manifest now false) (fun _ => Sound host seeds id)
        (Sound host seeds id) :=
    bind (register_sound same brought now) fun _ =>
      pure fun _ sound => sound
  have sees : Program.Leads (Ready host id slot (FileTree.nodeOf seed.files) nodes info)
      (Program.look fun manager => manager.registry.lookup manifest.id)
      (fun installed manager => installed = info ∧
        Ready host id slot (FileTree.nodeOf seed.files) nodes info manager)
      (Sound host seeds id) :=
    fun manager ready => ⟨by rw [same]; exact ready.stays.registered, ready⟩
  refine bind sees fun installed => given fun isInstalled => ?_
  cases installed with
  | some registered =>
    refine ite (fun _ => pure fun _ ready => asBefore _ ready.stays)
      fun _ => ?_
    rw [same]
    exact bind (mono
      (replaceWithStaged_ready apart plain entryName seed.filled good.1) (fun _ ready => ready)
      (fun _ _ stays => stays) asBefore) fun _ => registers info
  | none =>
    obtain rfl := isInstalled
    rw [same]
    have looks : Program.Leads (Ready host id slot (FileTree.nodeOf seed.files) nodes none)
        (Program.look fun manager => pathExistsOrSymlink manager.tree (pluginPath host id))
        (fun held manager => held = (nodes []).isSome ∧
          Ready host id slot (FileTree.nodeOf seed.files) nodes none manager)
        (Sound host seeds id) :=
      fun manager ready => ⟨ready.stays.pathExists plain, ready⟩
    refine bind looks fun held => given fun isPresent => ?_
    refine bind (when (fun _ => clears_sound apart plain good.1)
      fun absent _ ready => ?_) fun _ => ?_
    · rw [isPresent, isSome_iff_ne_none, not_not] at absent
      exact good.1 absent ▸ ready
    · exact bind (mono (rename_ready apart plain entryName
        seed.filled (fun _ ready => ready.next) fun _ ready => ready) (fun _ ready => ready)
        (fun _ _ stays => stays) fun _ ready => sound_of_unregistered hollow_noNodes ready.stays)
        fun _ => registers none

theorem ensureSeed_sound (reserved : id ∈ reservedPluginIds) (plain : IsPluginName id)
    (brought : seed ∈ seeds) :
    Program.Leads (Sound host seeds id) (ensureSeed host seed slot backup now)
      (fun _ => Sound host seeds id) (Sound host seeds id) := by
  have apart := notStaging_of_reserved reserved
  rintro manager ⟨nodes, info, good, stays⟩
  have asBefore : ∀ manager, Stays host id nodes info manager → Sound host seeds id manager :=
    fun _ stays => ⟨nodes, info, good, stays⟩
  have led : Program.Leads (Stays host id nodes info) (ensureSeed host seed slot backup now)
      (fun _ => Sound host seeds id) (Sound host seeds id) := by
    refine bind (mono (keeps_createPluginDir apart)
      (fun _ stays => stays) (fun _ _ there => there.2) asBefore) fun _ => ?_
    refine bind (mono (stagingDir_ready apart) (fun _ stays => stays)
      (fun _ _ there => there) asBefore) fun staged =>
        given fun ⟨isPath, entryName⟩ => ?_
    obtain rfl := isPath
    have isStaged : IsStaged host (stagingRoot host ++ [slot]) := ⟨slot, rfl, entryName⟩
    have drops : ∀ manager, Sound host seeds id manager →
        Sound host seeds id (dropStaging (stagingRoot host ++ [slot]) manager) := by
      rintro manager ⟨nodes, info, good, stays⟩
      exact ⟨nodes, info, good, (keeps_removeDirAll (isStaged.removable apart)).state stays⟩
    refine thenAlways ?_ (fun _ => drops) drops
    refine bind (mono (writeSeed_ready apart entryName seed.files []
      (fun file mem => ⟨seed.files_ne_nil mem, seed.files_names mem⟩) seed.files_apart)
      (fun _ ready => ready) (fun _ _ ready => ready) asBefore) fun _ => ?_
    refine ite (fun _ => pure fun _ ready => asBefore _ ready.stays)
      fun _ => ?_
    refine bind glance fun manifest => ?_
    refine bind (ofOption (fun _ _ _ ready => ready)
      fun _ ready => asBefore _ ready.stays) fun manifest => ?_
    refine bind (mono keeps_passes (fun _ ready => ready)
      (fun _ _ there => there) fun _ ready => asBefore _ ready.stays) fun _ =>
        given fun valid => ?_
    by_cases same : manifest.id = id
    · exact installSeed_sound apart entryName brought good plain same
    · have isOther : Other id manifest.id :=
        ⟨(name_of_valid valid).1, (name_of_valid valid).2, same⟩
      exact mono (keeps_installSeed apart isStaged isOther)
        (fun _ ready => ready.stays) (fun _ _ there => asBefore _ there.2) asBefore
  exact led manager stays

end Seeding

/-! ### Deletes of a reserved plugin -/

/-- No step on the files fails for some time, and the data of a plugin, where it goes, is no plain
file. -/
structure Steady (host : Host Content Version) (id : String) (keepData : Bool) (steps : Nat)
    (manager : PluginManager Content) : Prop where
  sure : ∀ step < steps, manager.faults step = none
  data : keepData = false → ∀ found ∈ manager.tree.node (host.dataDir ++ [id.toList]),
    found = .directory ∨ ∃ target, found = .link target

variable {keepData : Bool}

theorem Steady.next {steps : Nat} (steady : Steady host id keepData (steps + 1) manager) :
    Steady host id keepData steps manager.next :=
  ⟨fun step before => steady.sure (step + 1) (Nat.succ_lt_succ before), steady.data⟩

theorem data_not_below {rest : FilePath} :
    ¬ host.pluginDir ++ [id.toList] <+: host.dataDir ++ rest := fun below => by
  have differs : "plugin-data".toList ≠ "plugins".toList := by decide
  simp only [Host.dataDir, Host.pluginDir, append_assoc, prefix_append_right_inj,
    singleton_append] at below
  exact differs (cons_prefix_cons.mp below).1.symm

theorem removes_sound (plain : IsPluginName id) (good : Good seeds nodes info) {held : Bool}
    (isPresent : held = (nodes []).isSome) :
    Program.Leads
      (fun manager => Stays host id nodes info manager ∧ Steady host id keepData 2 manager)
      (Program.when (held = true) (removePluginPath (pluginPath host id)))
      (fun _ manager => Stays host id noNodes info manager ∧ Steady host id keepData 1 manager)
      (Sound host seeds id) := by
  refine when (fun _ => ?_) fun absent manager there => ?_
  · have next (manager : PluginManager Content)
        (there : Stays host id nodes info manager ∧ Steady host id keepData 2 manager) :
        Stays host id nodes info manager.next ∧ Steady host id keepData 1 manager.next :=
      ⟨there.1.next, there.2.next⟩
    have clearable : Clearable (fun manager => Stays host id nodes info manager ∧
        Steady host id keepData 1 manager) (pluginPath host id) :=
      clearable_plugin plain fun _ there => there.1.standing
    refine removePluginPath_leads clearable next
      (fun manager there => ⟨?_, there.2.sure, ?_⟩) (fun _ there => ⟨nodes, info, good, there.1⟩)
      (fun _ there => ⟨nodes, info, good, there.1⟩) fun manager _ there fault _ => ?_
    · rw [pluginPath_eq plain, ← remaining_all]
      exact there.1.removed (beneath_all _)
    · rw [pluginPath_eq plain, FileTree.node_prune _ (decide_eq_false data_not_below)]
      exact there.2.data
    · rw [there.2.sure 0 (by decide)] at fault
      cases fault
  · rw [isPresent, isSome_iff_ne_none, not_not] at absent
    exact ⟨good.1 absent ▸ there.1, fun step first => there.2.sure step (by omega), there.2.data⟩

theorem delete_registered (plain : IsPluginName id) (good : Good seeds nodes info) {stopped : Bool}
    :
    Program.Leads
      (fun manager => Stays host id nodes info manager ∧ Steady host id keepData 2 manager)
      (delete host id keepData stopped) (fun _ => Sound host seeds id) (Sound host seeds id) := by
  have requires : Program.Leads
      (fun manager => Stays host id nodes info manager ∧ Steady host id keepData 2 manager)
      (Program.require (stopped = true))
      (fun _ manager => Stays host id nodes info manager ∧ Steady host id keepData 2 manager)
      (Sound host seeds id) :=
    require (fun _ there _ => there) fun _ there => ⟨nodes, info, good, there.1⟩
  refine bind requires fun _ => ?_
  have looks : Program.Leads
      (fun manager => Stays host id nodes info manager ∧ Steady host id keepData 2 manager)
      (Program.look fun manager => pathExistsOrSymlink manager.tree (pluginPath host id))
      (fun held manager => held = (nodes []).isSome ∧ Stays host id nodes info manager ∧
        Steady host id keepData 2 manager) (Sound host seeds id) :=
    fun manager there => ⟨there.1.pathExists plain, there⟩
  refine bind looks fun held => given fun isPresent => ?_
  refine bind (removes_sound plain good isPresent) fun _ => ?_
  have sees : Program.Leads
      (fun manager => Stays host id noNodes info manager ∧ Steady host id keepData 1 manager)
      (Program.look fun manager => manager.tree.fileExists (FileTree.join host.dataDir id.toList))
      (fun held manager => (held = true →
          manager.tree.fileExists (host.dataDir ++ [id.toList]) = true) ∧
        Stays host id noNodes info manager ∧ Steady host id keepData 1 manager)
      (Sound host seeds id) := fun manager there =>
    ⟨fun leads => FileTree.join_plain plain.2 ▸ leads, there⟩
  refine bind sees fun held => ?_
  have clears : Program.Leads (fun manager => (held = true →
          manager.tree.fileExists (host.dataDir ++ [id.toList]) = true) ∧
        Stays host id noNodes info manager ∧ Steady host id keepData 1 manager)
      (Program.when (keepData = false ∧ held = true)
        (removeDirAll (FileTree.join host.dataDir id.toList)))
      (fun _ => Stays host id noNodes info) (Sound host seeds id) := by
    refine when (fun ⟨goes, isThere⟩ manager there => ?_) fun _ _ there => there.2.1
    obtain ⟨leads, stays, steady⟩ := there
    have through := stays.standing.data.removeDirAll_of_exists plain.1 (leads isThere)
      (steady.data goes)
    rw [FileTree.join_plain plain.2, removeDirAll, faulty, steady.sure 0 Nat.one_pos]
    simp only [removeWhole, PluginManager.next, through, if_true]
    exact stays.next.prune aside_data (beneath_all _)
  refine bind clears fun _ => change fun manager stays => ?_
  refine sound_of_unregistered hollow_noNodes ⟨stays.standing, stays.entry, stays.inside, ?_⟩
  exact (lookup_erase _ _ _).trans (if_pos rfl)

def Unregistered (host : Host Content Version) (id : String) (manager : PluginManager Content) :
    Prop :=
  ∃ nodes, Hollow nodes ∧ Stays host id nodes none manager

theorem Unregistered.sound (unregistered : Unregistered host id manager) :
    Sound host seeds id manager := by
  obtain ⟨nodes, hollow, stays⟩ := unregistered
  exact sound_of_unregistered hollow stays

/-- A delete where no plugin is registered may leave anything. -/
theorem delete_unregistered (plain : IsPluginName id) {stopped : Bool} :
    Program.Keeps (Unregistered host id) (delete host id keepData stopped) fun _ => True := by
  have standing : ∀ manager, Unregistered host id manager → Standing host manager.tree :=
    fun _ ⟨_, _, stays⟩ => stays.standing
  have next : ∀ manager, Unregistered host id manager → Unregistered host id manager.next :=
    fun _ ⟨nodes, hollow, stays⟩ => ⟨nodes, hollow, stays.next⟩
  have removes : Program.Keeps (Unregistered host id) (removePluginPath (pluginPath host id))
      fun _ => True := by
    have gone (manager : PluginManager Content) (test : FilePath → Bool)
        (there : Unregistered host id manager) (beneath : Beneath (pluginPath host id) test) :
        Unregistered host id { manager with tree := manager.tree.prune test } := by
      obtain ⟨nodes, hollow, stays⟩ := there
      rw [pluginPath_eq plain] at beneath
      exact ⟨_, hollow.remaining beneath, stays.removed beneath⟩
    exact removePluginPath_leads (clearable_plugin plain standing) next
      (fun manager there => ⟨trivial, gone manager _ there (beneath_all _)⟩) (fun _ there => there)
      (fun _ there => there) fun manager test there _ beneath =>
        gone manager.next test (next manager there) beneath
  have removesData : Program.Keeps (Unregistered host id)
      (removeDirAll (FileTree.join host.dataDir id.toList)) fun _ => True := by
    have gone (manager : PluginManager Content) (test : FilePath → Bool)
        (there : Unregistered host id manager)
        (beneath : Beneath (FileTree.join host.dataDir id.toList) test) :
        Unregistered host id { manager with tree := manager.tree.prune test } := by
      obtain ⟨nodes, hollow, stays⟩ := there
      exact ⟨nodes, hollow, (removable_data plain).kept nodes none manager test stays beneath⟩
    exact removeDirAll_leads ⟨_, _, FileTree.join_plain plain.2, plain.1,
        fun _ there => (standing _ there).data⟩ next
      (fun manager there => ⟨trivial, gone manager _ there (beneath_all _)⟩) (fun _ there => there)
      fun manager test there _ beneath => gone manager.next test (next manager there) beneath
  refine Program.Keeps.require.bind fun _ _ => Program.Keeps.look.bind fun _ _ => ?_
  refine (Program.Keeps.when fun _ => removes).bind fun _ _ => Program.Keeps.look.bind fun _ _ => ?_
  refine (Program.Keeps.when fun _ => removesData).bind fun _ _ => .change fun manager there => ?_
  obtain ⟨nodes, hollow, stays⟩ := there
  refine ⟨nodes, hollow, stays.standing, stays.entry, stays.inside, ?_⟩
  exact (lookup_erase _ _ _).trans (if_pos rfl)

/-! ### Requests -/

/-- What comes to a manager, with the names of new directories and what the system answers. -/
inductive Request (Content : Type) where
  | install (archive : Archive Content) (approveNative : Bool) (slot : FileName)
    (now : Option Nat)
  | installFromDir (path : FilePath) (devLink approveNative : Bool) (slot : FileName)
    (now : Option Nat)
  | installFromGit (pluginRoot : FilePath) (approveNative : Bool) (slot backup : FileName)
    (stopped : Bool) (now : Option Nat)
  | update (id : String) (archive : Archive Content) (approveNative : Bool)
    (slot backup : FileName) (stopped : Bool)
  | devLink (path : FilePath) (approveNative stopped : Bool)
  | delete (id : String) (keepData stopped : Bool)
  | ensureSeed (seed : Seed Content) (slot backup : FileName) (now : Option Nat)
  /-- Others change files, but not the directory of the plugins. -/
  | outside (tree : FileTree Content)

theorem Sound.of_keeps {program : Step Content Value} {gives : Value → Prop}
    (sound : Sound host seeds id manager)
    (keeps : ∀ nodes info, Program.Keeps (Stays host id nodes info) program gives) :
    Sound host seeds id (program manager).1 := by
  obtain ⟨nodes, info, good, stays⟩ := sound
  exact ⟨nodes, info, good, (keeps nodes info).state stays⟩

theorem Sound.outside {tree : FileTree Content} (sound : Sound host seeds id manager)
    (standing : Standing host tree)
    (same : ∀ loc, host.pluginDir <+: loc → tree.node loc = manager.tree.node loc) :
    Sound host seeds id { manager with tree } := by
  obtain ⟨nodes, info, good, stays⟩ := sound
  refine ⟨nodes, info, good, standing, fun rest => ?_, fun rest there => ?_, stays.registered⟩
  · rw [same _ (by rw [append_assoc]; exact prefix_append _ _)]
    exact stays.entry rest
  · rw [FileTree.isDirectoryAt, same _ prefix_rfl]
    exact stays.inside rest there

/-- A manager whose directory of plugins is empty. -/
structure Fresh (host : Host Content Version) (manager : PluginManager Content) : Prop where
  standing : Standing host manager.tree
  empty : ∀ rest, rest ≠ [] → manager.tree.node (host.pluginDir ++ rest) = none
  unregistered : manager.registry = ∅

theorem Fresh.sound (fresh : Fresh host manager) : Sound host seeds id manager := by
  refine sound_of_unregistered hollow_noNodes ⟨fresh.standing, fun rest => ?_,
    fun _ there => absurd there (by simp [noNodes]), ?_⟩
  · rw [append_assoc]
    exact fresh.empty _ (append_ne_nil_of_left_ne_nil (cons_ne_nil _ _) _)
  · rw [fresh.unregistered]
    rfl

section Requests

variable [LinearOrder Version]

def handle (host : Host Content Version) (manager : PluginManager Content) :
    Request Content → PluginManager Content
  | .install archive approveNative slot now =>
      (installWithApproval host archive approveNative slot now manager).1
  | .installFromDir path devLink approveNative slot now =>
      (installFromDir host path devLink approveNative slot now manager).1
  | .installFromGit pluginRoot approveNative slot backup stopped now =>
      (installFromGit host pluginRoot approveNative slot backup stopped now manager).1
  | .update id archive approveNative slot backup stopped =>
      (updateWithApproval host id archive approveNative slot backup stopped manager).1
  | .devLink path approveNative stopped =>
      (devLinkPlugin host path approveNative stopped manager).1
  | .delete id keepData stopped => (delete host id keepData stopped manager).1
  | .ensureSeed seed slot backup now => (ensureSeed host seed slot backup now manager).1
  | .outside tree => { manager with tree }

/-- Others leave the directory of the plugins alone, and put no file in the place of a directory of
the host. -/
def Untouched (host : Host Content Version) (manager : PluginManager Content) :
    Request Content → Prop
  | .outside tree => Standing host tree ∧ ∀ location, host.pluginDir <+: location →
      tree.node location = manager.tree.node location
  | _ => True

/-- No development link is made under a reserved id where there is no directory. A delete names a
plugin, and one of a reserved plugin does not stop half way. -/
def Proper (host : Host Content Version) (manager : PluginManager Content) : Request Content → Prop
  | .devLink path approveNative _ => ∀ src manifest,
      checkDevLink host manager.tree path approveNative = some (src, manifest) →
      manifest.id ∈ reservedPluginIds →
      manager.tree.isDirectoryAt (host.pluginDir ++ [manifest.id.toList]) = true
  | .delete id keepData _ => IsPluginName id ∧
      (id ∈ reservedPluginIds → (manager.registry.lookup id).isSome →
        Steady host id keepData 2 manager)
  | _ => True

def seedsOf (requests : List (Request Content)) : List (Seed Content) :=
  requests.filterMap fun
    | .ensureSeed seed _ _ _ => some seed
    | _ => none

theorem isPluginName_of_reserved (reserved : id ∈ reservedPluginIds) : IsPluginName id := by
  obtain rfl := mem_singleton.mp reserved
  unfold IsPluginName FileTree.IsEntryName
  decide

section

variable (reserved : id ∈ reservedPluginIds) (sound : Sound host seeds id manager)
include reserved sound

theorem Sound.devLink {path : FilePath} {approveNative stopped : Bool}
    (proper : Proper host manager (.devLink path approveNative stopped)) :
    Sound host seeds id (devLinkPlugin host path approveNative stopped manager).1 := by
  unfold devLinkPlugin
  rw [Program.bind_apply]
  dsimp only [Program.look]
  cases checked : checkDevLink host manager.tree path approveNative with
  | none => exact sound
  | some found =>
    obtain ⟨src, manifest⟩ := found
    have valid : validateForHost host manifest = .ok () := by
      obtain ⟨_, -, checked⟩ := bind_eq_some_iff.mp checked
      obtain ⟨_, -, checked⟩ := bind_eq_some_iff.mp checked
      split at checked
      next passed =>
        cases checked
        cases res : validateForHost host _ with
        | ok => rfl
        | error =>
          rw [res] at passed
          cases passed.1
      · cases checked
    have goesOn : (Program.ofOption (some (src, manifest)) >>= fun checked =>
        devLinkFrom host checked.1 checked.2 stopped) manager =
          devLinkFrom host src manifest stopped manager := rfl
    rw [goesOn]
    by_cases same : manifest.id = id
    · -- The dir is in the way.
      have dir := proper src manifest checked (same ▸ reserved)
      obtain ⟨nodes, info, good, stays⟩ := sound
      rw [same] at dir
      have metadata := stays.symlinkMetadata (isPluginName_of_reserved reserved)
      rw [← stays.entry_node, FileTree.isDirectoryAt_iff.mp dir] at metadata
      have refused : (devLinkFrom host src manifest stopped manager).1 = manager := by
        unfold devLinkFrom
        simp [Program.bind_apply, Program.look, Program.require, Program.fail, same, metadata,
          pathExistsOrSymlink]
      rw [refused]
      exact ⟨nodes, info, good, stays⟩
    · exact sound.of_keeps fun _ _ =>
        keeps_devLink reserved ⟨(name_of_valid valid).1, (name_of_valid valid).2, same⟩

theorem Sound.delete {deleted : String} {stopped : Bool}
    (proper : Proper host manager (.delete deleted keepData stopped)) :
    Sound host seeds id (delete host deleted keepData stopped manager).1 := by
  obtain ⟨plain, steady⟩ := proper
  by_cases same : deleted = id
  · obtain ⟨nodes, info, good, stays⟩ := sound
    subst same
    cases info with
    | none => exact ((delete_unregistered plain).state ⟨nodes, good.1, stays⟩).sound
    | some info =>
      have registered : (manager.registry.lookup deleted).isSome := by
        rw [stays.registered]
        rfl
      exact (delete_registered plain good).state ⟨stays, steady reserved registered⟩
  · exact sound.of_keeps fun _ _ => keeps_delete plain same

theorem Sound.handled {req : Request Content} (untouched : Untouched host manager req)
    (proper : Proper host manager req) (brought : ∀ seed ∈ seedsOf [req], seed ∈ seeds) :
    Sound host seeds id (handle host manager req) := by
  cases req with
  | install archive approveNative slot now =>
    exact sound.of_keeps fun _ _ => keeps_installWithApproval reserved
  | installFromDir path devLink approveNative slot now =>
    exact sound.of_keeps fun _ _ => keeps_installFromDir reserved
  | installFromGit pluginRoot approveNative slot backup stopped now =>
    exact sound.of_keeps fun _ _ => keeps_installFromGit reserved
  | update id archive approveNative slot backup stopped =>
    exact sound.of_keeps fun _ _ => keeps_updateWithApproval reserved
  | devLink path approveNative stopped => exact sound.devLink reserved proper
  | delete id keepData stopped => exact sound.delete reserved proper
  | ensureSeed seed slot backup now =>
    have isSeed : seed ∈ seeds := brought seed mem_cons_self
    exact (ensureSeed_sound reserved (isPluginName_of_reserved reserved) isSeed).state sound
  | outside tree => exact sound.outside untouched.1 untouched.2

end

theorem seedsOf_append (first second : List (Request Content)) :
    seedsOf (first ++ second) = seedsOf first ++ seedsOf second := filterMap_append

theorem Sound.after_run (reserved : id ∈ reservedPluginIds) (requests : List (Request Content))
    (sound : Sound host seeds id manager)
    (untouched : Runs.Careful (handle host) (Untouched host) manager requests)
    (proper : Runs.Careful (handle host) (Proper host) manager requests)
    (brought : ∀ seed ∈ seedsOf requests, seed ∈ seeds) :
    Sound host seeds id (Runs.run (handle host) manager requests) := by
  induction requests generalizing manager with
  | nil => exact sound
  | cons req rest ih =>
    have parts : seedsOf (req :: rest) = seedsOf [req] ++ seedsOf rest :=
      seedsOf_append [req] rest
    rw [parts] at brought
    refine ih (sound.handled reserved untouched.1 proper.1 fun seed mem => ?_)
      untouched.2 proper.2 fun seed mem => ?_
    · exact brought seed (mem_append_left _ mem)
    · exact brought seed (mem_append_right _ mem)

/-- In every run of proper requests, a plugin under a reserved id is no development link, and its
directory holds exactly the files of a seed. -/
theorem reserved_run (fresh : Fresh host manager) (requests : List (Request Content))
    (untouched : Runs.Careful (handle host) (Untouched host) manager requests)
    (proper : Runs.Careful (handle host) (Proper host) manager requests)
    (reserved : id ∈ reservedPluginIds) (registered : PluginInfo)
    (isRegistered :
      (Runs.run (handle host) manager requests).registry.lookup id = some registered) :
    registered.isDevLink = false ∧ ∃ seed ∈ seedsOf requests,
      FileTree.Laid (Runs.run (handle host) manager requests).tree (pluginPath host id)
        seed.files := by
  obtain ⟨nodes, info, good, stays⟩ :=
    Sound.after_run reserved requests fresh.sound untouched proper fun _ member => member
  rw [stays.registered] at isRegistered
  obtain ⟨notLink, seed, member, rfl⟩ := good.2 registered isRegistered
  refine ⟨notLink, seed, member, ?_⟩
  rw [pluginPath_eq (isPluginName_of_reserved reserved)]
  exact stays.entry

end Requests

/-! ### A seed and a link -/

def keyboardHost : Host Unit Nat where
  root := ["r".toList]
  hostTarget := none
  hostVersion := "1"
  parseManifest := fun _ => some { id := "builtin-keyboard", name := "Keyboard", version := "1" }
  parseVersion := fun _ => none

def keyboardSeed : Seed Unit where
  assets := [("builtin-keyboard/plugin.json".toList, ())]
  normal := by decide
  apart := pairwise_singleton _ _

/-- A folder with a manifest, beside the directories of the host. -/
def folderTree : FileTree Unit where
  nodes := ((∅ : KeyMap FilePath (FileNode Unit)).insert ["d".toList] .directory).insert
    ["d".toList, "plugin.json".toList] (.file ())

theorem passable_of_free {tree : FileTree Content} {path : FilePath}
    (names : ∀ name ∈ path, FileTree.IsEntryName name)
    (free : ∀ loc, loc <+: path → loc ≠ [] → tree.node loc = none) :
    FileTree.Passable tree path := fun _ name below =>
  ⟨names name (below.subset (mem_append_right _ mem_cons_self)),
    .inl (free _ below (concat_ne_nil _ _))⟩

theorem fresh_empty : Fresh keyboardHost { tree := {} } where
  standing := ⟨passable_of_free (by decide) fun loc _ nonempty => if_neg nonempty,
    passable_of_free (by decide) fun loc _ nonempty => if_neg nonempty⟩
  empty := fun rest nonempty => if_neg (by simp [nonempty])
  unregistered := rfl

/-- The plugins after a seed has been brought to an empty directory. -/
def seeded : PluginManager Unit :=
  Runs.run (handle keyboardHost) { tree := {} }
    [.ensureSeed keyboardSeed "s".toList "b".toList none]

theorem seeded_registered : (seeded.registry.lookup "builtin-keyboard").isSome = true := by
  decide +kernel

theorem reserved_run_seeded : ∃ registered,
    seeded.registry.lookup "builtin-keyboard" = some registered ∧
    registered.isDevLink = false ∧ ∃ seed ∈ [keyboardSeed],
      FileTree.Laid seeded.tree (pluginPath keyboardHost "builtin-keyboard") seed.files := by
  obtain ⟨registered, isRegistered⟩ := isSome_iff_exists.mp seeded_registered
  exact ⟨registered, isRegistered, reserved_run fresh_empty
    [.ensureSeed keyboardSeed "s".toList "b".toList none] ⟨trivial, trivial⟩ ⟨trivial, trivial⟩
    (by decide) registered isRegistered⟩

theorem folderTree_free {loc : FilePath} (hosted : loc.head? = some "r".toList) :
    folderTree.node loc = none := by
  have other (rest : FilePath) : loc ≠ "d".toList :: rest := by
    rintro rfl
    exact absurd (some.inj hosted) (by decide)
  have nonempty : loc ≠ [] := by
    rintro rfl
    cases hosted
  rw [FileTree.node, if_neg nonempty, folderTree, lookup_insert, if_neg (other _),
    lookup_insert, if_neg (other _)]
  rfl

theorem fresh_folder : Fresh keyboardHost { tree := folderTree } := by
  have free {loc rest : FilePath} (below : loc <+: "r".toList :: rest)
      (nonempty : loc ≠ []) : folderTree.node loc = none := by
    refine folderTree_free ?_
    cases loc with
    | nil => exact absurd rfl nonempty
    | cons first others => rw [(cons_prefix_cons.mp below).1, head?_cons]
  exact {
    standing := ⟨passable_of_free (by decide) fun _ below nonempty => free below nonempty,
      passable_of_free (by decide) fun _ below nonempty => free below nonempty⟩
    empty := fun _ _ => folderTree_free rfl
    unregistered := rfl }

/-- A development link poses as the keyboard. -/
theorem devLink_poses : ¬ ∀ (manager : PluginManager Unit) (requests : List (Request Unit)),
    Fresh keyboardHost manager →
    Runs.Careful (handle keyboardHost) (Untouched keyboardHost) manager requests →
    ∀ id ∈ reservedPluginIds, ∀ registered,
      (Runs.run (handle keyboardHost) manager requests).registry.lookup id = some registered →
      registered.isDevLink = false ∧ ∃ seed ∈ seedsOf requests,
        FileTree.Laid (Runs.run (handle keyboardHost) manager requests).tree
          (pluginPath keyboardHost id) seed.files := by
  intro always
  have linked : ((Runs.run (handle keyboardHost) { tree := folderTree }
      [.devLink ["d".toList] false true]).registry.lookup "builtin-keyboard").map (·.isDevLink) =
        some true := by
    decide +kernel
  obtain ⟨registered, isRegistered, isLink⟩ := map_eq_some_iff.mp linked
  have noLink := (always { tree := folderTree } [.devLink ["d".toList] false true] fresh_folder
    ⟨trivial, trivial⟩ "builtin-keyboard" (by decide) registered isRegistered).1
  rw [isLink] at noLink
  cases noLink

end Dinotty.Plugin
