/-
This file is the updates of the settings: those under the lock in one go, and those that read the
settings, save them changed and come back to put them into memory.
-/

import Dinotty.Foundation.FieldWrites
import Dinotty.Foundation.Json
import Dinotty.Foundation.Runs

namespace Dinotty.SettingsState

open List Option

open FieldWrites (Write replay)

/-! ### The settings -/

structure RemoteServer where
  id : String
  name : String
  url : String
  token : Option String := none
  group : Option String := none
  lastSeenVersion : Option String := none
  hasToken : Bool := false
  deriving DecidableEq

def RemoteServer.refreshHasToken (server : RemoteServer) : RemoteServer :=
  { server with hasToken := server.token.any fun token => token != "" }

def RemoteServer.scrubSecrets (server : RemoteServer) : RemoteServer :=
  { server.refreshHasToken with token := none }

inductive SystemToolbarMode where
  | followIme
  | persistentMobile
  deriving DecidableEq

/-- The settings that are saved. Those that the server only hands through are values by name. -/
structure Settings where
  settingsVersion : Nat
  activeWorkspaceId : Option String
  remoteServers : List RemoteServer
  hasImage : Bool
  systemKeyboard : Json
  systemKeyboardUserDefault : Json
  systemToolbarMode : SystemToolbarMode
  imeKeyboardOverlapPx : Option Nat
  inheritCwdForNewTab : Bool
  quickSendThreshold : Nat
  logPath : String
  others : String → Json

/-- A setting: a field of the settings, or of a section of them that is set field by field. -/
inductive Field where
  | settingsVersion
  | activeWorkspaceId
  | remoteServers
  | hasImage
  | systemKeyboard
  | systemKeyboardUserDefault
  | systemToolbarMode
  | imeKeyboardOverlapPx
  | inheritCwdForNewTab
  | quickSendThreshold
  | logPath
  | other (name : String)
  deriving DecidableEq

abbrev Field.Value : Field → Type
  | .settingsVersion | .quickSendThreshold => Nat
  | .activeWorkspaceId => Option String
  | .remoteServers => List RemoteServer
  | .hasImage | .inheritCwdForNewTab => Bool
  | .systemKeyboard | .systemKeyboardUserDefault | .other _ => Json
  | .systemToolbarMode => SystemToolbarMode
  | .imeKeyboardOverlapPx => Option Nat
  | .logPath => String

instance decidableEqValue : ∀ field : Field, DecidableEq field.Value
  | .settingsVersion | .quickSendThreshold => inferInstanceAs (DecidableEq Nat)
  | .activeWorkspaceId => inferInstanceAs (DecidableEq (Option String))
  | .remoteServers => inferInstanceAs (DecidableEq (List RemoteServer))
  | .hasImage | .inheritCwdForNewTab => inferInstanceAs (DecidableEq Bool)
  | .systemKeyboard | .systemKeyboardUserDefault | .other _ => inferInstanceAs (DecidableEq Json)
  | .systemToolbarMode => inferInstanceAs (DecidableEq SystemToolbarMode)
  | .imeKeyboardOverlapPx => inferInstanceAs (DecidableEq (Option Nat))
  | .logPath => inferInstanceAs (DecidableEq String)

def Settings.get (settings : Settings) : ∀ field : Field, field.Value
  | .settingsVersion => settings.settingsVersion
  | .activeWorkspaceId => settings.activeWorkspaceId
  | .remoteServers => settings.remoteServers
  | .hasImage => settings.hasImage
  | .systemKeyboard => settings.systemKeyboard
  | .systemKeyboardUserDefault => settings.systemKeyboardUserDefault
  | .systemToolbarMode => settings.systemToolbarMode
  | .imeKeyboardOverlapPx => settings.imeKeyboardOverlapPx
  | .inheritCwdForNewTab => settings.inheritCwdForNewTab
  | .quickSendThreshold => settings.quickSendThreshold
  | .logPath => settings.logPath
  | .other name => settings.others name

def currentSettingsVersion : Nat := 15

/-! ### What a client sends -/

/-- What is done to the sections that are values here. -/
structure Config where
  upgrade : Settings → Settings
  clampTextConfig : Json → Json
  clampThemeLibrary : Json → Json → Json × Json
  normalizeActionKeyboard : Json → Json
  normalizeSystemKeyboard : Json → Json
  normalizeOrigin : String → Option String
  logFilePath : String

def getSettings (config : Config) (settings : Settings) : Settings :=
  { settings with
    logPath := if settings.logPath = "" then config.logFilePath else settings.logPath
    remoteServers := settings.remoteServers.map RemoteServer.scrubSecrets }

def migrateSettings (config : Config) (settings : Settings) : Settings :=
  if settings.settingsVersion ≥ currentSettingsVersion then settings else config.upgrade settings

def clampText (config : Config) (settings : Settings) : Settings :=
  { settings with others := fun name =>
      if name = "text" then config.clampTextConfig (settings.others name)
      else settings.others name }

def clampQuickSendThreshold (settings : Settings) : Settings :=
  { settings with quickSendThreshold := min settings.quickSendThreshold 5000 }

def imeKeyboardOverlapMax : Nat := 300

def clampImeKeyboardOverlapPx (settings : Settings) : Settings :=
  { settings with
    imeKeyboardOverlapPx := settings.imeKeyboardOverlapPx.map (min · imeKeyboardOverlapMax) }

def clampThemeOnPut (config : Config) (settings : Settings) : Settings :=
  let library := config.clampThemeLibrary (settings.others "custom_themes")
    (settings.others "hidden_builtins")
  { settings with others := fun name =>
      if name = "custom_themes" then library.1
      else if name = "hidden_builtins" then library.2
      else settings.others name }

def normalizeActionKeyboards (config : Config) (settings : Settings) : Settings :=
  { settings with
    systemKeyboard := config.normalizeSystemKeyboard settings.systemKeyboard
    systemKeyboardUserDefault := config.normalizeSystemKeyboard settings.systemKeyboardUserDefault
    others := fun name =>
      if name = "action_keyboard" ∨ name = "action_keyboard_user_default" then
        config.normalizeActionKeyboard (settings.others name)
      else settings.others name }

/-- What is made of the settings that a client puts, before the ones in memory are looked at. -/
def tidied (config : Config) (body : Settings) : Settings :=
  normalizeActionKeyboards config <| clampThemeOnPut config <| clampImeKeyboardOverlapPx <|
    clampQuickSendThreshold <| clampText config
      { migrateSettings config body with settingsVersion := currentSettingsVersion }

/-! ### Putting the settings -/

def inheritRemoteServerTokens (incoming existing : List RemoteServer) : List RemoteServer :=
  incoming.map fun server =>
    let stored := (existing.find? fun stored => stored.id = server.id).bind (·.token)
    { server with token := server.token <|> stored }.refreshHasToken

/-- The version that a client knows is older. One that tells no version is. -/
def isBefore (clientSettingsVersion : Option Nat) (version : Nat) : Bool :=
  clientSettingsVersion.all (· < version)

def preserveSystemKeyboard (clientSettingsVersion : Option Nat) (existing incoming : Settings) :
    Settings :=
  if isBefore clientSettingsVersion 12 ∧ existing.settingsVersion ≥ 12 then
    { incoming with
      systemKeyboard := existing.systemKeyboard
      systemKeyboardUserDefault := existing.systemKeyboardUserDefault
      systemToolbarMode := existing.systemToolbarMode }
  else incoming

def preserveImeKeyboardOverlap (clientSettingsVersion : Option Nat) (existing incoming : Settings) :
    Settings :=
  if isBefore clientSettingsVersion 13 ∧ existing.settingsVersion ≥ 13 ∧
      existing.imeKeyboardOverlapPx.isSome then
    { incoming with imeKeyboardOverlapPx := existing.imeKeyboardOverlapPx }
  else incoming

def preserveInheritCwd (clientSettingsVersion : Option Nat) (existing incoming : Settings) :
    Settings :=
  if isBefore clientSettingsVersion 14 ∧ existing.settingsVersion ≥ 14 then
    { incoming with inheritCwdForNewTab := existing.inheritCwdForNewTab }
  else incoming

def preserveCurrentSettingsOnLegacyPut (clientSettingsVersion : Option Nat)
    (existing incoming : Settings) : Settings :=
  preserveInheritCwd clientSettingsVersion existing <|
    preserveImeKeyboardOverlap clientSettingsVersion existing <|
      preserveSystemKeyboard clientSettingsVersion existing incoming

/-- The settings that a put saves, and that it later replaces the ones in memory with. -/
def putSettings (config : Config) (clientSettingsVersion : Option Nat) (body existing : Settings) :
    Settings :=
  let incoming := preserveCurrentSettingsOnLegacyPut clientSettingsVersion existing
    (tidied config body)
  { incoming with
    activeWorkspaceId := existing.activeWorkspaceId
    remoteServers := inheritRemoteServerTokens incoming.remoteServers existing.remoteServers }

/-- The addresses of a roster, if they all are addresses. -/
def normalizeRoster (config : Config) (roster : List RemoteServer) : Option (List RemoteServer) :=
  roster.mapM fun server => (config.normalizeOrigin server.url).map fun origin =>
    { server with url := origin }

def putRemoteServers (config : Config) (roster : List RemoteServer) (existing : Settings) :
    Option Settings :=
  (normalizeRoster config roster).map fun normalized =>
    { existing with
      remoteServers := inheritRemoteServerTokens normalized existing.remoteServers
      settingsVersion := currentSettingsVersion }

/-! ### Updates under the lock -/

inductive Update where
  | rememberVersion (id version : String)
  | uploadBackground
  | activateWorkspace (id : String)
  | deactivateWorkspace
  | deleteWorkspace (id : String)

/-- The first server with the id gets the version, unless it has it. -/
def rememberVersion (id version : String) : List RemoteServer → Option (List RemoteServer)
  | [] => none
  | server :: rest =>
      if server.id = id then
        if server.lastSeenVersion = some version then none
        else some ({ server with lastSeenVersion := some version } :: rest)
      else (rememberVersion id version rest).map (server :: ·)

/-- The settings after an update, if it changes and saves them. -/
def Update.apply (settings : Settings) : Update → Option Settings
  | .rememberVersion id version =>
      (SettingsState.rememberVersion id version settings.remoteServers).map fun servers =>
        { settings with remoteServers := servers }
  | .uploadBackground =>
      some { settings with hasImage := true, settingsVersion := currentSettingsVersion }
  | .activateWorkspace id => some { settings with activeWorkspaceId := some id }
  | .deactivateWorkspace => some { settings with activeWorkspaceId := none }
  | .deleteWorkspace id =>
      if settings.activeWorkspaceId = some id then some { settings with activeWorkspaceId := none }
      else none

def Update.sets : Update → Field → Bool
  | .rememberVersion _ _, field => field = .remoteServers
  | .uploadBackground, field => field = .hasImage ∨ field = .settingsVersion
  | .activateWorkspace _, field | .deactivateWorkspace, field | .deleteWorkspace _, field =>
      field = .activeWorkspaceId

/-! ### The server -/

/-- How the writing of the file ends: a failed one may leave anything in it. -/
inductive Saved where
  | written
  | failed (file : Option Settings)

/-- A request that has saved the settings and waits for the lock to put them into memory. -/
structure Draft where
  written : Settings
  sets : Field → Bool

/-- The settings in memory and in the file, what each client was last shown and the requests on
their way. -/
structure Server where
  memory : Settings
  file : Option Settings
  reads : Nat → Option Settings := fun _ => none
  drafts : List Draft := []
  writes : List (Write Field.Value) := []

/-- A server that has just loaded its settings. -/
def start (settings : Settings) : Server := { memory := settings, file := some settings }

inductive Event where
  | getSettings (client : Nat)
  | putSettings (client : Nat) (clientSettingsVersion : Option Nat) (body : Settings)
      (saved : Saved)
  | putRemoteServers (roster : List RemoteServer) (saved : Saved)
  /-- A request goes on to put what it has saved into memory. -/
  | commit (index : Nat)
  | update (update : Update) (saved : Saved)

/-- The fields that a client puts otherwise than it was shown them. The active workspace is not
for it to set. -/
def changedFrom (shown : Option Settings) (body : Settings) (field : Field) : Bool :=
  field ≠ .activeWorkspaceId ∧ ∀ settings ∈ shown, body.get field ≠ settings.get field

/-- A request saves its draft, and is over if that fails. -/
def Server.save (server : Server) (draft : Draft) : Saved → Server
  | .written =>
      { server with file := some draft.written, drafts := server.drafts ++ [draft] }
  | .failed file => { server with file := file }

def Server.commit (server : Server) (draft : Draft) : Server :=
  { server with
    memory := draft.written
    writes := server.writes ++ [⟨draft.sets, draft.written.get⟩] }

def Server.after (config : Config) (server : Server) : Event → Server
  | .getSettings client =>
      { server with
        reads := Function.update server.reads client (some (getSettings config server.memory)) }
  | .putSettings client clientSettingsVersion body saved =>
      server.save
        { written := SettingsState.putSettings config clientSettingsVersion body server.memory
          sets := changedFrom (server.reads client) body } saved
  | .putRemoteServers roster saved =>
      match SettingsState.putRemoteServers config roster server.memory with
      | none => server
      | some written =>
          server.save
            { written := written
              sets := fun field => field = .remoteServers ∨ field = .settingsVersion } saved
  | .commit index =>
      match server.drafts[index]? with
      | none => server
      | some draft => { server.commit draft with drafts := server.drafts.eraseIdx index }
  | .update update saved =>
      match update.apply server.memory with
      | none => server
      | some written =>
          { server.commit ⟨written, update.sets⟩ with
            file := match saved with
              | .written => some written
              | .failed file => file }

/-! ### The runs -/

/-- What a client that leaves a field alone sends back is what memory holds. -/
def Faithful (memory : Settings) : Field → Prop
  | .remoteServers => (memory.remoteServers.map (·.id)).Nodup ∧
      ∀ server ∈ memory.remoteServers, server.refreshHasToken = server
  | .logPath => memory.logPath ≠ ""
  | _ => True

/-- A client that puts settings sends each field that it does not change as it would be shown it
now, and in order. -/
def UpToDate (config : Config) (server : Server) (client : Nat) (body : Settings) : Prop :=
  ∀ field, field ≠ .activeWorkspaceId → changedFrom (server.reads client) body field = false →
    body.get field = (getSettings config server.memory).get field ∧
      (tidied config body).get field = body.get field ∧ Faithful server.memory field

/-- Requests that come back to the settings come one after another, they know the settings that
they replace, and the file can be written. -/
def Orderly (config : Config) (server : Server) : Event → Prop
  | .getSettings _ | .commit _ => True
  | .putSettings client _ body saved =>
      server.drafts = [] ∧ UpToDate config server client body ∧
        (saved = .written ∨ saved = .failed server.file)
  | .putRemoteServers _ saved =>
      server.drafts = [] ∧ (saved = .written ∨ saved = .failed server.file)
  | .update update saved =>
      (update.apply server.memory).isSome → server.drafts = [] ∧ saved = .written

/-! ### What an operation leaves -/

theorem find?_id {servers : List RemoteServer} (nodup : (servers.map (·.id)).Nodup)
    {server : RemoteServer} (mem : server ∈ servers) :
    servers.find? (fun stored => stored.id = server.id) = some server := by
  induction servers with
  | nil => exact absurd mem not_mem_nil
  | cons first rest ih =>
    rw [map_cons, nodup_cons] at nodup
    rcases mem_cons.mp mem with rfl | later
    · exact find?_cons_of_pos (decide_eq_true rfl)
    · have ne : first.id ≠ server.id :=
        fun same => nodup.1 (same ▸ mem_map_of_mem later)
      rw [find?_cons_of_neg (by simpa using ne)]
      exact ih nodup.2 later

theorem inheritRemoteServerTokens_scrubbed {servers : List RemoteServer}
    (nodup : (servers.map (·.id)).Nodup)
    (derived : ∀ server ∈ servers, server.refreshHasToken = server) :
    inheritRemoteServerTokens (servers.map RemoteServer.scrubSecrets) servers = servers := by
  rw [inheritRemoteServerTokens, List.map_map]
  conv_rhs => rw [← List.map_id servers]
  refine map_congr_left fun server mem => ?_
  calc _ = ({ server with hasToken := server.refreshHasToken.hasToken
                          token := none <|> (servers.find? fun stored =>
                            stored.id = server.id).bind (·.token) } :
              RemoteServer).refreshHasToken := rfl
    _ = server.refreshHasToken := by rw [find?_id nodup mem]; rfl
    _ = server := derived server mem

/-- Each field is the incoming one or the existing one. -/
def Merges (existing incoming merged : Settings) : Prop :=
  ∀ field, merged.get field = incoming.get field ∨ merged.get field = existing.get field

theorem Merges.trans {existing incoming middle merged : Settings}
    (first : Merges existing incoming middle) (second : Merges existing middle merged) :
    Merges existing incoming merged := by
  intro field
  rcases second field with same | kept
  · rw [same]
    exact first field
  · exact Or.inr kept

section

variable (clientSettingsVersion : Option Nat) (existing incoming : Settings)
include clientSettingsVersion existing incoming

theorem merges_preserveSystemKeyboard :
    Merges existing incoming (preserveSystemKeyboard clientSettingsVersion existing incoming) := by
  intro field
  unfold preserveSystemKeyboard
  split
  · cases field <;> first | exact Or.inr rfl | exact Or.inl rfl
  · exact Or.inl rfl

theorem merges_preserveImeKeyboardOverlap : Merges existing incoming
      (preserveImeKeyboardOverlap clientSettingsVersion existing incoming) := by
  intro field
  unfold preserveImeKeyboardOverlap
  split
  · cases field <;> first | exact Or.inr rfl | exact Or.inl rfl
  · exact Or.inl rfl

theorem merges_preserveInheritCwd :
    Merges existing incoming (preserveInheritCwd clientSettingsVersion existing incoming) := by
  intro field
  unfold preserveInheritCwd
  split
  · cases field <;> first | exact Or.inr rfl | exact Or.inl rfl
  · exact Or.inl rfl

theorem merges_preserveCurrentSettings : Merges existing incoming
      (preserveCurrentSettingsOnLegacyPut clientSettingsVersion existing incoming) :=
  ((merges_preserveSystemKeyboard clientSettingsVersion existing incoming).trans
    (merges_preserveImeKeyboardOverlap clientSettingsVersion existing _)).trans
    (merges_preserveInheritCwd clientSettingsVersion existing _)

theorem remoteServers_preserveCurrentSettings :
    (preserveCurrentSettingsOnLegacyPut clientSettingsVersion existing incoming).remoteServers =
      incoming.remoteServers := by
  unfold preserveCurrentSettingsOnLegacyPut preserveInheritCwd preserveImeKeyboardOverlap
    preserveSystemKeyboard
  split <;> split <;> split <;> rfl

end

variable {field : Field}

theorem getSettings_get (config : Config) {memory : Settings} (faithful : Faithful memory field)
    (ne : field ≠ .remoteServers) :
    (getSettings config memory).get field = memory.get field := by
  cases field with
  | remoteServers => exact absurd rfl ne
  | logPath => exact if_neg faithful
  | _ => rfl

theorem putSettings_get (config : Config) (clientSettingsVersion : Option Nat)
    (body existing : Settings) (owned : field ≠ .activeWorkspaceId)
    (ne : field ≠ .remoteServers) :
    (putSettings config clientSettingsVersion body existing).get field =
      (preserveCurrentSettingsOnLegacyPut clientSettingsVersion existing
        (tidied config body)).get field := by
  cases field with
  | activeWorkspaceId => exact absurd rfl owned
  | remoteServers => exact absurd rfl ne
  | _ => rfl

variable {config : Config}

theorem putSettings_left {client : Nat} {body : Settings}
    (upToDate : UpToDate config server client body) (clientSettingsVersion : Option Nat)
    (left : changedFrom (server.reads client) body field = false) :
    (putSettings config clientSettingsVersion body server.memory).get field =
      server.memory.get field := by
  by_cases owned : field = .activeWorkspaceId
  · subst owned
    rfl
  obtain ⟨shown, tidy, faithful⟩ := upToDate field owned left
  by_cases roster : field = .remoteServers
  · subst roster
    calc (putSettings config clientSettingsVersion body server.memory).remoteServers
        = inheritRemoteServerTokens (tidied config body).remoteServers
            server.memory.remoteServers := by
          rw [putSettings, remoteServers_preserveCurrentSettings]
      _ = inheritRemoteServerTokens (server.memory.remoteServers.map RemoteServer.scrubSecrets)
            server.memory.remoteServers :=
          congrArg (inheritRemoteServerTokens · _) (tidy.trans shown)
      _ = server.memory.remoteServers := inheritRemoteServerTokens_scrubbed faithful.1 faithful.2
  · rw [putSettings_get config clientSettingsVersion body server.memory owned roster]
    rcases merges_preserveCurrentSettings clientSettingsVersion server.memory
      (tidied config body) field with same | kept
    · rw [same, tidy, shown, getSettings_get config faithful roster]
    · exact kept

theorem putRemoteServers_left {roster : List RemoteServer} {existing written : Settings}
    (taken : putRemoteServers config roster existing = some written)
    (servers : field ≠ .remoteServers) (version : field ≠ .settingsVersion) :
    written.get field = existing.get field := by
  obtain ⟨normalized, -, rfl⟩ := map_eq_some_iff.mp taken
  cases field with
  | remoteServers => exact absurd rfl servers
  | settingsVersion => exact absurd rfl version
  | _ => rfl

theorem Update.apply_left {update : Update} {written : Settings}
    (applied : update.apply settings = some written) (left : update.sets field = false) :
    written.get field = settings.get field := by
  cases update with
  | rememberVersion id version =>
    obtain ⟨servers, -, rfl⟩ := map_eq_some_iff.mp applied
    cases field with
    | remoteServers => exact absurd left (by simp [sets])
    | _ => rfl
  | uploadBackground =>
    cases applied
    cases field with
    | hasImage | settingsVersion => exact absurd left (by simp [sets])
    | _ => rfl
  | activateWorkspace | deactivateWorkspace =>
    cases applied
    cases field with
    | activeWorkspaceId => exact absurd left (by simp [sets])
    | _ => rfl
  | deleteWorkspace id =>
    rw [apply, ite_none_right_eq_some] at applied
    obtain ⟨-, same⟩ := applied
    cases same
    cases field with
    | activeWorkspaceId => exact absurd left (by simp [sets])
    | _ => rfl

/-! ### Whole runs -/

/-- Memory holds what was written to it, and so does the file, unless one request has saved what it
is about to put into memory. -/
structure Kept (settings : Settings) (server : Server) : Prop where
  current : server.memory.get = replay settings.get server.writes
  saved : (server.drafts = [] ∧ server.file = some server.memory) ∨
    ∃ draft, server.drafts = [draft] ∧ server.file = some draft.written ∧
      ∀ field, draft.sets field = false → draft.written.get field = server.memory.get field

variable {settings : Settings} {server : Server}

section

variable (kept : Kept settings server)
include kept

theorem Kept.settled (none : server.drafts = []) : server.file = some server.memory := by
  rcases kept.saved with ⟨-, same⟩ | ⟨draft, some, -⟩
  · exact same
  · rw [none] at some
    exact absurd some (cons_ne_nil draft []).symm

theorem Kept.commit {draft : Draft} (left : ∀ field, draft.sets field = false →
      draft.written.get field = server.memory.get field) :
    (server.commit draft).memory.get = replay settings.get (server.commit draft).writes := by
  have write : replay settings.get (server.writes ++ [⟨draft.sets, draft.written.get⟩]) =
      draft.written.get := FieldWrites.replay_whole (kept.current ▸ left)
  exact write.symm

theorem Kept.save (none : server.drafts = []) {draft : Draft}
    (left : ∀ field, draft.sets field = false →
      draft.written.get field = server.memory.get field) {saved : Saved}
    (orderly : saved = .written ∨ saved = .failed server.file) :
    Kept settings (server.save draft saved) := by
  rcases orderly with rfl | rfl
  · refine ⟨kept.current, Or.inr ⟨draft, ?_, rfl, left⟩⟩
    rw [Server.save, none]
    rfl
  · exact ⟨kept.current, kept.saved⟩

theorem Kept.step {event : Event} (orderly : Orderly config server event) :
    Kept settings (server.after config event) := by
  cases event with
  | getSettings client => exact ⟨kept.current, kept.saved⟩
  | putSettings client clientSettingsVersion body saved =>
    obtain ⟨none, upToDate, ends⟩ := orderly
    exact kept.save none (fun field left =>
      putSettings_left upToDate clientSettingsVersion left) ends
  | putRemoteServers roster saved =>
    obtain ⟨none, ends⟩ := orderly
    rw [Server.after]
    split
    · exact kept
    · next written taken =>
      refine kept.save none (fun field left => ?_) ends
      simp only [decide_eq_false_iff_not, not_or] at left
      exact putRemoteServers_left taken left.1 left.2
  | commit i =>
    rw [Server.after]
    split
    · exact kept
    · next draft held =>
      rcases kept.saved with ⟨none, -⟩ | ⟨other, only, file, left⟩
      · rw [none] at held
        exact absurd held (by simp)
      · rw [only, getElem?_singleton] at held
        obtain ⟨rfl, same⟩ : i = 0 ∧ other = draft := by
          simpa using held
        subst same
        refine ⟨kept.commit left, Or.inl ⟨?_, file⟩⟩
        rw [only]
        rfl
  | update update saved =>
    rw [Server.after]
    split
    · exact kept
    · next written applied =>
      obtain ⟨none, rfl⟩ := orderly (by rw [applied]; rfl)
      have left : ∀ field, update.sets field = false →
          written.get field = server.memory.get field :=
        fun field left => update.apply_left applied left
      have current : (server.commit ⟨written, update.sets⟩).memory.get =
          replay settings.get (server.commit ⟨written, update.sets⟩).writes := kept.commit left
      exact ⟨current, Or.inl ⟨none, rfl⟩⟩

end

/-- When all requests of an orderly run are over, every field in memory holds what was last
written to it, and the file holds what memory does. -/
theorem no_setting_lost (config : Config) (settings : Settings) (events : List Event)
    (orderly : Runs.Careful (Server.after config) (Orderly config) (start settings) events)
    (finished : (Runs.run (Server.after config) (start settings) events).drafts = []) :
    (∀ field, (Runs.run (Server.after config) (start settings) events).memory.get field =
        replay settings.get (Runs.run (Server.after config) (start settings) events).writes field) ∧
      (Runs.run (Server.after config) (start settings) events).file =
        some (Runs.run (Server.after config) (start settings) events).memory := by
  have kept := orderly.kept (Kept settings) (fun _ _ kept allowed => kept.step allowed)
    (⟨rfl, Or.inl ⟨rfl, rfl⟩⟩ : Kept settings (start settings))
  exact ⟨fun field => congrFun kept.current field, kept.settled finished⟩

/-- Nothing to tidy: every address is one as it stands. -/
def plainConfig : Config where
  upgrade := fun settings =>
    { settings with settingsVersion := currentSettingsVersion }
  clampTextConfig := id
  clampThemeLibrary := fun themes hidden => (themes, hidden)
  normalizeActionKeyboard := id
  normalizeSystemKeyboard := id
  normalizeOrigin := some
  logFilePath := "/var/log/dinotty.log"

def sampleSettings : Settings where
  settingsVersion := 15
  activeWorkspaceId := some "home"
  remoteServers :=
    [{ id := "lab", name := "Lab", url := "http://lab:8999", token := some "t", hasToken := true }]
  hasImage := false
  systemKeyboard := .null
  systemKeyboardUserDefault := .null
  systemToolbarMode := .followIme
  imeKeyboardOverlapPx := some 0
  inheritCwdForNewTab := false
  quickSendThreshold := 63
  logPath := "/tmp/dinotty.log"
  others := fun _ => .null

/-- The client sends the settings as it was shown them, but for one. -/
def thresholdBody : Settings :=
  { getSettings plainConfig sampleSettings with quickSendThreshold := 100 }

theorem thresholdBody_upToDate (memory : server.memory = sampleSettings)
    (reads : server.reads 0 = some (getSettings plainConfig sampleSettings)) :
    UpToDate plainConfig server 0 thresholdBody := by
  intro field _ left
  rw [memory]
  cases field with
  | quickSendThreshold =>
    rw [changedFrom, reads] at left
    exact absurd left (by decide)
  | remoteServers =>
    have nodup : (sampleSettings.remoteServers.map (·.id)).Nodup := by decide
    exact ⟨rfl, rfl, nodup, by decide⟩
  | logPath =>
    have chosen : sampleSettings.logPath ≠ "" := by decide
    exact ⟨rfl, rfl, chosen⟩
  | other name =>
    refine ⟨rfl, ?_, trivial⟩
    simp [tidied, normalizeActionKeyboards, clampThemeOnPut, clampImeKeyboardOverlapPx,
      clampQuickSendThreshold, clampText, migrateSettings, Settings.get, plainConfig,
      thresholdBody, getSettings, sampleSettings, currentSettingsVersion]
  | _ => exact ⟨rfl, rfl, trivial⟩

/-- A client puts a threshold, and a workspace is activated afterwards. -/
theorem no_setting_lost_inTurn :
    let events : List Event := [.getSettings 0, .putSettings 0 (some 15) thresholdBody .written,
      .commit 0, .update (.activateWorkspace "work") .written]
    let server := Runs.run (Server.after plainConfig) (start sampleSettings) events
    (∀ field, server.memory.get field =
        replay sampleSettings.get server.writes field) ∧ server.file = some server.memory :=
  no_setting_lost plainConfig sampleSettings _
    ⟨trivial, ⟨rfl, thresholdBody_upToDate rfl rfl, Or.inl rfl⟩, trivial, fun _ => ⟨rfl, rfl⟩,
      trivial⟩ rfl

/-- A workspace is activated while a put waits for the lock: memory keeps neither the workspace nor
what the file holds. -/
theorem activation_lost :
    let events : List Event := [.getSettings 0, .putSettings 0 (some 15) thresholdBody .written,
      .update (.activateWorkspace "work") .written, .commit 0]
    let server := Runs.run (Server.after plainConfig) (start sampleSettings) events
    server.drafts = [] ∧ server.memory.activeWorkspaceId = some "home" ∧
      replay sampleSettings.get server.writes .activeWorkspaceId = some "work" ∧
      server.file ≠ some server.memory := by
  refine ⟨rfl, rfl, rfl, fun same => ?_⟩
  have sameId := congrArg (Option.map (·.activeWorkspaceId)) same
  exact absurd sameId (by decide)

end Dinotty.SettingsState
