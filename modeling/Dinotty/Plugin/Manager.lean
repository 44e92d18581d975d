/-
This file is the manager of the plugins. Each step on the files may fail, and what it had done by
then stays done.
-/

import Dinotty.Foundation.Program
import Dinotty.Foundation.Runs
import Dinotty.Plugin.Manifest

namespace Dinotty.Plugin

/-! ### The manager -/

structure PluginInfo where
  manifest : PluginManifest
  installDate : Option Nat
  isDevLink : Bool

/-- The files, the registry and the fate of the steps on the files that are still to come. -/
structure PluginManager (Content : Type) where
  tree : FileTree Content
  registry : KeyMap String PluginInfo := ∅
  faults : Nat → Option (FilePath → Bool) := fun _ => none

/-- Plugin ids owned by the app itself. -/
def reservedPluginIds : List String := ["builtin-keyboard"]

def rejectReservedPluginId (id : String) : Except String Unit :=
  check (id ∉ reservedPluginIds) ("plugin id '" ++ id ++
    "' is managed by the app and cannot be installed or updated through this channel")

/-- What an archive unpacks to in an empty directory, and whether it unpacks whole. -/
structure Archive (Content : Type) where
  nodes : List ((FileName × FilePath) × FileNode Content)
  whole : Bool := true

variable {Content Version Value : Type}

abbrev Step (Content : Type) := Program (PluginManager Content)

/-! ### Steps on files -/

/-- The manager before the step after the next one. -/
def PluginManager.next (manager : PluginManager Content) : PluginManager Content :=
  { manager with faults := fun step => manager.faults (step + 1) }

/-- A step on the files that may fail, with what part of it is done then. -/
def faulty (whole : Step Content Unit)
    (part : (FilePath → Bool) → PluginManager Content → PluginManager Content) :
    Step Content Unit := fun manager =>
  match manager.faults 0 with
  | none => whole manager.next
  | some done => (part done manager.next, none)

def callTree (call : FileTree Content → Option (FileTree Content)) : Step Content Unit :=
  fun manager =>
    match call manager.tree with
    | some tree => ({ manager with tree }, some ())
    | none => (manager, none)

/-- A change of the files that is made whole or not at all. -/
def onTree (call : FileTree Content → Option (FileTree Content)) : Step Content Unit :=
  faulty (callTree call) fun _ manager => manager

def createDirAll (path : FilePath) : Step Content Unit :=
  faulty (fun manager =>
    match manager.tree.createDirAll path with
    | (_, made, done) => ({ manager with tree := made }, if done then some () else none))
    fun _ manager => manager

def rename (old new : FilePath) : Step Content Unit :=
  onTree fun tree => (tree.rename old new).map (·.tree)

/-- Undo a rename. That this works is taken for granted where it is possible. -/
def renameBack (old new : FilePath) : Step Content Unit :=
  callTree fun tree => (tree.rename old new).map (·.tree)

/-- The tree after a removal that has come to some of the nodes. A directory goes after what is in
it. -/
def partlyRemoved (tree left : FileTree Content) (done : FilePath → Bool) : FileTree Content :=
  tree.prune fun location => location.inits.any fun above =>
    done above && (tree.node above).isSome && (left.node above).isNone

def removeWhole (path : FilePath) : Step Content Unit := fun manager =>
  match manager.tree.removeDirAll path with
  | some (done, finished) =>
      ({ manager with tree := done.tree }, if finished then some () else none)
  | none => (manager, none)

/-- Remove a directory with all that is in it. What is gone before it fails stays gone. -/
def removeDirAll (path : FilePath) : Step Content Unit :=
  faulty (removeWhole path) fun done manager =>
    match manager.tree.removeDirAll path with
    | some (whole, _) => { manager with tree := partlyRemoved manager.tree whole.tree done }
    | none => manager

def pathExistsOrSymlink (tree : FileTree Content) (path : FilePath) : Bool :=
  tree.fileExists path || (tree.symlinkMetadata path).isSome

/-- Remove a link or a file, but no directory. -/
def removeSymlinkOrFile (path : FilePath) : Step Content Unit :=
  onTree fun tree =>
    match tree.symlinkMetadata path with
    | some (.link _) | some (.file _) => (tree.removeFile path).map (·.tree)
    | _ => none

def removePluginPath (path : FilePath) : Step Content Unit := do
  let found ← Program.look fun manager => manager.tree.symlinkMetadata path
  match found with
  | none => Program.fail
  | some (.link _) | some (.file _) => removeSymlinkOrFile path
  | some _ => removeDirAll path

def createDirSymlink (src link : FilePath) : Step Content Unit :=
  onTree fun tree =>
    (tree.createEntry link (.link ('/' :: List.intercalate ['/'] src))).map (·.tree)

/-- What an archive unpacks to is put below a directory. -/
def unpack (tree : FileTree Content) (dest : FilePath)
    (nodes : List ((FileName × FilePath) × FileNode Content)) : FileTree Content :=
  nodes.foldl (fun tree ((name, below), found) => tree.put (dest ++ name :: below) found) tree

/-- Put nodes below a directory. -/
def writeNodes (nodes : List ((FileName × FilePath) × FileNode Content)) (dest : FilePath) :
    Step Content Unit :=
  faulty (Program.change fun manager => { manager with tree := unpack manager.tree dest nodes })
    fun done manager =>
      { manager with
        tree := unpack manager.tree dest (nodes.filter fun ((name, below), _) =>
          done (dest ++ name :: below)) }

def extractTarGz (archive : Archive Content) (dest : FilePath) : Step Content Unit := do
  writeNodes archive.nodes dest
  Program.require archive.whole

/-- A directory that folder installs leave out. -/
def isDevelopmentCache (tree : FileTree Content) (location : FilePath) : Bool :=
  match location.getLast? with
  | none => false
  | some name =>
      name = ".git".toList || name = "node_modules".toList ||
        (name = "target".toList && (tree.isFile (location ++ ["CACHEDIR.TAG".toList]) ||
          tree.isFile (location ++ [".rustc_info.json".toList])))

/-- The nodes below a directory that a copy of it takes along, with their paths in it. -/
def copiedNodes (tree : FileTree Content) (src : FilePath) :
    List ((FileName × FilePath) × FileNode Content) :=
  tree.nodes.entries.filterMap fun ⟨location, found⟩ =>
    if src <+: location ∧ ¬ location.inits.any fun above =>
        src <+: above ∧ above ≠ src ∧ tree.isDirectoryAt above ∧ isDevelopmentCache tree above then
      match location.drop src.length with
      | [] => none
      | name :: below => some ((name, below), found)
    else none

/-- Copy a directory. Links and special files are not allowed in it. -/
def copyPluginDir (src dest : FilePath) : Step Content Unit := do
  let location ← Program.look fun manager => manager.tree.canonicalize src
  let location ← Program.ofOption location
  let nodes ← Program.look fun manager => copiedNodes manager.tree location
  Program.require (nodes.all fun (_, found) =>
    match found with
    | .directory | .file _ => true
    | .link _ | .special _ => false)
  writeNodes nodes dest

/-! ### Steps of the operations -/

variable [LinearOrder Version] (host : Host Content Version)

def stagingRoot : FilePath := host.pluginDir ++ [".staging".toList]

def pluginPath (id : String) : FilePath := FileTree.join (host.pluginDir) id.toList

/-- Make a new directory in the staging area. The name stands for what the system comes up with. -/
def stagingDir (slot : FileName) : Step Content FilePath := do
  let staged := stagingRoot host ++ [slot]
  createDirAll (stagingRoot host)
  -- A new directory is empty.
  onTree fun tree => (tree.createDir staged).map fun done =>
    done.tree.prune fun location => staged <+: location && location ≠ staged
  pure staged

/-- A staging directory goes when it is not needed anymore, if it is still there. -/
def dropStaging (staged : FilePath) (manager : PluginManager Content) : PluginManager Content :=
  (removeDirAll staged manager).1

/-- Do something with a new staging directory. -/
def withStaging (slot : FileName) (body : FilePath → Step Content Value) : Step Content Value := do
  let staged ← stagingDir host slot
  (body staged).thenAlways (dropStaging staged)

def readManifest (tree : FileTree Content) (root : FilePath) : Option PluginManifest :=
  (tree.readFile (root ++ ["plugin.json".toList])).bind fun (_, content) =>
    host.parseManifest content

def passes (result : Except String Unit) : Step Content Unit :=
  Program.require (result.isOk = true)

def prepared (root : FilePath) (manifest : PluginManifest) : Step Content Unit := do
  let found ← Program.look fun manager => prepareBinary host manager.tree root manifest
  Program.require (found = true)

def register (manifest : PluginManifest) (installDate : Option Nat) (isDevLink : Bool) :
    Step Content PluginManifest := do
  Program.change fun manager =>
    { manager with
      registry := manager.registry.insert manifest.id { manifest, installDate, isDevLink } }
  pure manifest

/-- A plugin is only installed if there is nothing in its place. -/
def requireNew (id : String) : Step Content Unit := do
  let taken ← Program.look fun manager =>
    (manager.registry.lookup id).isSome ||
      pathExistsOrSymlink manager.tree (pluginPath host id)
  Program.require (taken = false)

/-- Give a staged directory the place of a plugin. What was there before comes back if that
fails. -/
def replaceWithStaged (backup : FileName) (id : String) (staged : FilePath) :
    Step Content Unit := do
  let backupPath ← stagingDir host backup
  removeDirAll backupPath
  let hadOld ← Program.look fun manager => pathExistsOrSymlink manager.tree (pluginPath host id)
  Program.when (hadOld = true) (rename (pluginPath host id) backupPath)
  let installed ← (rename staged (pluginPath host id)).succeeds
  if installed = true then
    Program.when (hadOld = true)
      (Program.change fun manager => (removePluginPath backupPath manager).1)
  else do
    Program.when (hadOld = true) (renameBack backupPath (pluginPath host id))
    Program.fail

/-! ### Operations -/

def installWithApproval (archive : Archive Content) (approveNative : Bool) (slot : FileName)
    (now : Option Nat) : Step Content PluginManifest := do
  createDirAll host.pluginDir
  withStaging host slot fun staged => do
    extractTarGz archive staged
    let manifest ← Program.look fun manager => readManifest host manager.tree staged
    let manifest ← Program.ofOption manifest
    passes (validateForHost host manifest)
    passes (rejectReservedPluginId manifest.id)
    passes (requireNativeApproval manifest approveNative)
    prepared host staged manifest
    requireNew host manifest.id
    rename staged (pluginPath host manifest.id)
    register manifest now false

def installFromDirWithApproval (src : FilePath) (devLink approveNative : Bool) (slot : FileName)
    (now : Option Nat) : Step Content PluginManifest := do
  let manifest ← Program.look fun manager => readManifest host manager.tree src
  let manifest ← Program.ofOption manifest
  passes (validateForHost host manifest)
  passes (rejectReservedPluginId manifest.id)
  passes (requireNativeApproval manifest approveNative)
  prepared host src manifest
  createDirAll host.pluginDir
  if devLink = true then
    requireNew host manifest.id
    createDirSymlink src (pluginPath host manifest.id)
    register manifest now true
  else
    withStaging host slot fun staged => do
      copyPluginDir src staged
      prepared host staged manifest
      requireNew host manifest.id
      rename staged (pluginPath host manifest.id)
      register manifest now false

/-- The folder of a request, with its links followed. -/
def installFromDir (path : FilePath) (devLink approveNative : Bool) (slot : FileName)
    (now : Option Nat) : Step Content PluginManifest := do
  let src ← Program.look fun manager => manager.tree.canonicalize path
  let src ← Program.ofOption src
  let folder ← Program.look fun manager => manager.tree.isDir src
  Program.require (folder = true)
  installFromDirWithApproval host src devLink approveNative slot now

/-- The answer tells whether the processes of the plugin could be stopped. -/
def upsertFromDir (src : FilePath) (manifest : PluginManifest) (approveNative : Bool)
    (slot backup : FileName) (stopped : Bool) (now : Option Nat) :
    Step Content PluginManifest := do
  passes (validateForHost host manifest)
  passes (rejectReservedPluginId manifest.id)
  passes (requireNativeApproval manifest approveNative)
  createDirAll host.pluginDir
  withStaging host slot fun staged => do
    copyPluginDir src staged
    prepared host staged manifest
    let oldInfo ← Program.look fun manager => manager.registry.lookup manifest.id
    let taken ← Program.look fun manager =>
      oldInfo.isSome || pathExistsOrSymlink manager.tree (pluginPath host manifest.id)
    Program.require (taken = true → stopped = true)
    replaceWithStaged host backup manifest.id staged
    register manifest ((oldInfo.bind (·.installDate)).or now) false

/-- The plugin that has been downloaded and unpacked into a directory. -/
def installFromGit (pluginRoot : FilePath) (approveNative : Bool) (slot backup : FileName)
    (stopped : Bool) (now : Option Nat) : Step Content PluginManifest := do
  let manifest ← Program.look fun manager => readManifest host manager.tree pluginRoot
  let manifest ← Program.ofOption manifest
  upsertFromDir host pluginRoot manifest approveNative slot backup stopped now

def updateWithApproval (id : String) (archive : Archive Content) (approveNative : Bool)
    (slot backup : FileName) (stopped : Bool) : Step Content PluginManifest := do
  createDirAll host.pluginDir
  withStaging host slot fun staged => do
    extractTarGz archive staged
    let manifest ← Program.look fun manager => readManifest host manager.tree staged
    let manifest ← Program.ofOption manifest
    passes (validateForHost host manifest)
    passes (rejectReservedPluginId manifest.id)
    passes (requireNativeApproval manifest approveNative)
    Program.require (manifest.id = id)
    prepared host staged manifest
    let oldInfo ← Program.look fun manager => manager.registry.lookup id
    let oldInfo ← Program.ofOption oldInfo
    Program.require (oldInfo.isDevLink = false)
    Program.require (stopped = true)
    replaceWithStaged host backup id staged
    register manifest oldInfo.installDate false

def delete (id : String) (keepData stopped : Bool) : Step Content Unit := do
  Program.require (stopped = true)
  let present ← Program.look fun manager => pathExistsOrSymlink manager.tree (pluginPath host id)
  Program.when (present = true) (removePluginPath (pluginPath host id))
  let dataPath := FileTree.join host.dataDir id.toList
  let present ← Program.look fun manager => manager.tree.fileExists dataPath
  Program.when (keepData = false ∧ present = true) (removeDirAll dataPath)
  Program.change fun manager => { manager with registry := manager.registry.erase id }

/-- What a request for a development link checks: the folder with its links followed, and its
manifest. -/
def checkDevLink (tree : FileTree Content) (path : FilePath) (approveNative : Bool) :
    Option (FilePath × PluginManifest) := do
  let src ← tree.canonicalize path
  let manifest ← readManifest host tree src
  if (validateForHost host manifest).isOk ∧ (requireNativeApproval manifest approveNative).isOk ∧
      prepareBinary host tree src manifest then
    some (src, manifest)
  else none

/-- Make a development link to a folder that has passed the checks. -/
def devLinkFrom (src : FilePath) (manifest : PluginManifest) (stopped : Bool) :
    Step Content PluginManifest := do
  let link := pluginPath host manifest.id
  let present ← Program.look fun manager => pathExistsOrSymlink manager.tree link
  let real ← Program.look fun manager =>
    match manager.tree.symlinkMetadata link with
    | some .directory => true
    | _ => false
  Program.require (present = true → real = false)
  Program.when (present = true) do
    Program.require (stopped = true)
    removeSymlinkOrFile link
  createDirAll host.pluginDir
  createDirSymlink src link
  register manifest none true

def devLinkPlugin (path : FilePath) (approveNative stopped : Bool) :
    Step Content PluginManifest := do
  let checked ← Program.look fun manager => checkDevLink host manager.tree path approveNative
  let (src, manifest) ← Program.ofOption checked
  devLinkFrom host src manifest stopped

/-! ### Seeds -/

/-- The part of a name behind the directory of the seed. -/
def stripSeedPrefix (name : List Char) : Option (List Char) :=
  if "builtin-keyboard/".toList <+: name then some (name.drop "builtin-keyboard/".toList.length)
  else none

/-- The files that are compiled into the app: each name is the path of a file in a directory. -/
structure Seed (Content : Type) where
  assets : List (List Char × Content)
  normal : ∀ asset ∈ assets, ∀ rest ∈ stripSeedPrefix asset.1,
    ∀ name ∈ FileTree.segments rest, FileTree.IsEntryName name
  apart : assets.Pairwise fun first second =>
    ∀ rest ∈ stripSeedPrefix first.1, ∀ other ∈ stripSeedPrefix second.1,
      ¬ FileTree.segments rest <+: FileTree.segments other ∧
        ¬ FileTree.segments other <+: FileTree.segments rest

/-- The files of the bundled plugin, with their paths in its directory. -/
def Seed.files (seed : Seed Content) : List (FilePath × Content) :=
  seed.assets.filterMap fun (name, content) =>
    (stripSeedPrefix name).map fun rest => (FileTree.segments rest, content)

def writeSeedFile (staged : FilePath) (file : FilePath × Content) : Step Content Unit := do
  createDirAll (staged ++ file.1).dropLast
  onTree fun tree => (tree.writeFile (staged ++ file.1) file.2).map (·.tree)

def writeSeed (staged : FilePath) : List (FilePath × Content) → Step Content Unit
  | [] => pure ()
  | file :: rest => do
      writeSeedFile staged file
      writeSeed staged rest

/-- Give a staged seed the place of the plugin with its id, unless a newer one is registered. -/
def installSeed (backup : FileName) (now : Option Nat) (staged : FilePath)
    (manifest : PluginManifest) : Step Content Unit := do
  let installed ← Program.look fun manager => manager.registry.lookup manifest.id
  match installed with
  | some info =>
      if installedVersionNotOlder host info.manifest.version manifest.version = true then
        pure ()
      else do
        replaceWithStaged host backup manifest.id staged
        let _ ← register manifest now false
  | none =>
      -- The directory may be there although the plugin is not registered.
      let present ← Program.look fun manager =>
        pathExistsOrSymlink manager.tree (pluginPath host manifest.id)
      Program.when (present = true) (removePluginPath (pluginPath host manifest.id))
      rename staged (pluginPath host manifest.id)
      let _ ← register manifest now false

def installSeedStaged (backup : FileName) (now : Option Nat) (staged : FilePath) :
    Step Content Unit := do
  let manifest ← Program.look fun manager => readManifest host manager.tree staged
  let manifest ← Program.ofOption manifest
  passes (validateForHost host manifest)
  installSeed host backup now staged manifest

def ensureSeed (seed : Seed Content) (slot backup : FileName) (now : Option Nat) :
    Step Content Unit := do
  createDirAll host.pluginDir
  withStaging host slot fun staged => do
    writeSeed staged seed.files
    if seed.files = [] then pure ()
    else installSeedStaged host backup now staged

end Dinotty.Plugin
