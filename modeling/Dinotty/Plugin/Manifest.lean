/-
This file is the manifest of a plugin and what is checked of it before the plugin is installed. The
id of a valid manifest is the name of a directory.
-/

import Dinotty.Foundation.Directories

namespace Dinotty.Plugin

/-! ### Manifests -/

inductive ProcessLifecycleScope where
  | ui
  | host
  deriving DecidableEq

structure ProcessLifecycleConfig where
  scope : ProcessLifecycleScope := .ui
  stdinLease : Bool := false
  shutdownDeadlineMs : Nat := 10000
  forceKillAfterMs : Nat := 15000
  deriving DecidableEq

structure BinConfig where
  mode : String
  entry : Option String := none
  entries : KeyMap String String := ∅
  lifecycle : Option ProcessLifecycleConfig := none

structure PluginManifest where
  id : String
  name : String
  version : String
  minAppVersion : Option String := none
  bin : Option BinConfig := none
  permissions : Option (List String) := none
  category : Option String := none
  targets : Option (List String) := none

inductive HostTarget where
  | windowsX8664
  | linuxX8664
  | linuxAarch64
  | macosX8664
  | macosAarch64
  deriving DecidableEq

def HostTarget.asStr : HostTarget → String
  | windowsX8664 => "windows-x86_64"
  | linuxX8664 => "linux-x86_64"
  | linuxAarch64 => "linux-aarch64"
  | macosX8664 => "macos-x86_64"
  | macosAarch64 => "macos-aarch64"

/-! ### Validation -/

def nativeExecutePermission : String := "native.execute"

def longRunningPermission : String := "process.long-running"

def workspaceReadPermission : String := "workspace.read"

def workspaceWritePermission : String := "workspace.write"

def isKnownCategory (category : String) : Bool :=
  category ∈ ["system", "dev", "ai", "files", "network", "other"]

def isKnownHostTarget (target : String) : Bool :=
  target ∈ ["windows-x86_64", "linux-x86_64", "linux-aarch64", "macos-x86_64", "macos-aarch64"]

def isIdChar (c : Char) : Bool := c.isLower || c.isDigit || c = '-'

def check (condition : Prop) [Decidable condition] (error : String) : Except String Unit :=
  if condition then .ok () else .error error

def validateBin (permissions : List String) (bin : BinConfig) : Except String Unit := do
  check (bin.mode = "cli") "bin.mode must be 'cli'"
  check (bin.entry.isSome ∨ bin.entries.size ≠ 0) "bin.entry or bin.entries is required"
  match bin.lifecycle with
  | none => pure ()
  | some lifecycle =>
      check (lifecycle.shutdownDeadlineMs ≤ lifecycle.forceKillAfterMs)
        "bin.lifecycle.shutdownDeadlineMs must not exceed forceKillAfterMs"
      check (lifecycle.shutdownDeadlineMs ≤ 30000)
        "bin.lifecycle.shutdownDeadlineMs must not exceed 30000"
      check (lifecycle.forceKillAfterMs ≤ 60000)
        "bin.lifecycle.forceKillAfterMs must not exceed 60000"
  check (bin.entries.size = 0 ∧ bin.lifecycle = none ∨ nativeExecutePermission ∈ permissions)
    ("native plugin features require permission '" ++ nativeExecutePermission ++ "'")
  check (bin.lifecycle = none ∨ longRunningPermission ∈ permissions)
    ("managed process lifecycle requires permission '" ++ longRunningPermission ++ "'")

/-- Permissions in the name spaces of the app are known ones. -/
def validatePermission (permission : String) : Except String Unit := do
  check (("native.".toList <+: permission.toList ∨ "process.".toList <+: permission.toList) →
      permission = nativeExecutePermission ∨ permission = longRunningPermission)
    ("unknown native permission '" ++ permission ++ "'")
  check ("workspace.".toList <+: permission.toList →
      permission = workspaceReadPermission ∨ permission = workspaceWritePermission)
    ("unknown workspace permission '" ++ permission ++ "'")

def validateManifest (manifest : PluginManifest) : Except String Unit := do
  check (manifest.id ≠ "") "id is required"
  check (manifest.id.toList.all isIdChar) "id must match [a-z0-9-]"
  check (manifest.name ≠ "") "name is required"
  check (manifest.version ≠ "") "version is required"
  manifest.category.toList.forM fun category =>
    check (isKnownCategory category) ("unknown category '" ++ category ++ "'")
  (manifest.targets.getD []).forM fun target =>
    check (isKnownHostTarget target) ("unknown host target '" ++ target ++ "'")
  manifest.bin.toList.forM (validateBin (manifest.permissions.getD []))
  (manifest.permissions.getD []).forM validatePermission

theorem of_check {condition : Prop} [Decidable condition] {error : String}
    (passed : check condition error = .ok ()) : condition := by
  unfold check at passed
  split at passed
  · assumption
  · cases passed

theorem bind_ok {Value Result : Type} {first : Except String Value}
    {next : Value → Except String Result} {result : Result}
    (passed : (first >>= next) = .ok result) :
    ∃ value, first = .ok value ∧ next value = .ok result := by
  cases first with
  | error => cases passed
  | ok value => exact ⟨value, rfl, passed⟩

theorem id_of_validateManifest {manifest : PluginManifest}
    (valid : validateManifest manifest = .ok ()) :
    manifest.id ≠ "" ∧ ∀ c ∈ manifest.id.toList, isIdChar c = true := by
  obtain ⟨⟨⟩, nonempty, valid⟩ := bind_ok valid
  obtain ⟨⟨⟩, chars, -⟩ := bind_ok valid
  exact ⟨of_check nonempty, List.all_eq_true.mp (of_check chars)⟩

def IsPluginName (id : String) : Prop := FileTree.IsEntryName id.toList ∧ '/' ∉ id.toList

theorem isPluginName_of_validateManifest {manifest : PluginManifest}
    (valid : validateManifest manifest = .ok ()) : IsPluginName manifest.id := by
  obtain ⟨nonempty, chars⟩ := id_of_validateManifest valid
  have free {c : Char} (other : isIdChar c = false) : c ∉ manifest.id.toList := fun mem => by
    rw [chars c mem] at other
    cases other
  refine ⟨⟨⟨?_, ?_, ?_⟩, free (by decide)⟩, free (by decide)⟩
  · exact fun empty => nonempty (String.toList_eq_nil_iff.mp empty)
  · exact fun same => free (c := '.') (by decide) (by rw [same]; decide)
  · exact fun same => free (c := '.') (by decide) (by rw [same]; decide)

/-! ### Approval -/

def requiredNativePermissions (manifest : PluginManifest) : List String :=
  match manifest.bin with
  | none => []
  | some bin =>
      if bin.entries.size = 0 ∧ bin.lifecycle = none then []
      else
        nativeExecutePermission :: if bin.lifecycle = none then [] else [longRunningPermission]

def requireNativeApproval (manifest : PluginManifest) (approved : Bool) : Except String Unit :=
  let permissions := requiredNativePermissions manifest
  check (permissions = [] ∨ approved)
    ("native permissions require approval: " ++ ", ".intercalate permissions)

/-! ### The host -/

/-- What a host is: where its files are, the system it runs on, its own version, and how it reads
manifests and versions. -/
structure Host (Content Version : Type) where
  root : FilePath
  hostTarget : Option HostTarget
  hostVersion : String
  parseManifest : Content → Option PluginManifest
  parseVersion : List Char → Option Version

variable {Content Version : Type} [LinearOrder Version] (host : Host Content Version)

def Host.pluginDir : FilePath := host.root ++ ["plugins".toList]

def Host.dataDir : FilePath := host.root ++ ["plugin-data".toList]

/-- A version text without the letter in front. -/
def trimVersion (text : String) : List Char := text.toList.dropWhile (· = 'v')

def validateMinAppVersion (manifest : PluginManifest) : Except String Unit :=
  match manifest.minAppVersion with
  | none => .ok ()
  | some required =>
      match host.parseVersion (trimVersion required),
        host.parseVersion (trimVersion host.hostVersion) with
      | none, _ => .error ("invalid minAppVersion '" ++ required ++ "'")
      | some _, none => .error ("invalid Dinotty host version '" ++ host.hostVersion ++ "'")
      | some requiredVersion, some hostVersion =>
          check (requiredVersion ≤ hostVersion) ("plugin requires Dinotty " ++ required ++
            " or newer (current: " ++ host.hostVersion ++ ")")

def validateForHost (manifest : PluginManifest) : Except String Unit := do
  validateManifest manifest
  validateMinAppVersion host manifest

/-- An installed version blocks a seed unless it is known to be older. -/
def installedVersionNotOlder (installed seed : String) : Bool :=
  match host.parseVersion installed.toList, host.parseVersion seed.toList with
  | some installed, some seed => seed ≤ installed
  | _, _ => true

/-! ### Binaries -/

def selectedBinaryEntry (bin : BinConfig) (target : HostTarget) : Option String :=
  (bin.entries.lookup target.asStr).or bin.entry

/-- The file of the binary, which must be inside the directory of the plugin. -/
def resolveBinary (tree : FileTree Content) (pluginRoot : FilePath) (bin : BinConfig)
    (target : HostTarget) : Option FilePath := do
  let entry ← selectedBinaryEntry bin target
  if FileTree.isAbsolute entry.toList ∨
      FileTree.parentName ∈ FileTree.segments entry.toList then none
  else
    let canonicalRoot ← tree.canonicalize pluginRoot
    let canonicalBinary ← tree.canonicalize (FileTree.join pluginRoot entry.toList)
    if canonicalRoot <+: canonicalBinary ∧ tree.isFile canonicalBinary then some canonicalBinary
    else none

/-- A plugin with a binary has one for this host. -/
def prepareBinary (tree : FileTree Content) (pluginRoot : FilePath)
    (manifest : PluginManifest) : Bool :=
  match manifest.bin with
  | none => true
  | some bin =>
      match host.hostTarget with
      | none => false
      | some target => (resolveBinary tree pluginRoot bin target).isSome

end Dinotty.Plugin
