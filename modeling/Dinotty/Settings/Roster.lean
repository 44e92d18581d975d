/-
This file is the roster of the servers that the hub relays to. An answer carries no token, only
whether there is one; an entry that is put without a token takes the token that is stored under its
id.
-/

import Dinotty.Settings.Updates

namespace Dinotty.SettingsState

open List Option RemoteServer

/-! ### Entries on the wire -/

/-- An entry in a request or in an answer. Its `token` key may be absent, and may be `null`. -/
structure RosterEntry where
  id : String
  name : String
  url : String
  token : Option (Option String) := none
  group : Option String := none
  lastSeenVersion : Option String := none
  hasToken : Bool := false
  deriving DecidableEq

/-- A `null` is read as if the key were absent. -/
def RosterEntry.deserialize (entry : RosterEntry) : RemoteServer where
  id := entry.id
  name := entry.name
  url := entry.url
  token := entry.token.join
  group := entry.group
  lastSeenVersion := entry.lastSeenVersion
  hasToken := entry.hasToken

/-- The key is left out if there is no token. -/
def RemoteServer.serialize (server : RemoteServer) : RosterEntry where
  id := server.id
  name := server.name
  url := server.url
  token := server.token.map some
  group := server.group
  lastSeenVersion := server.lastSeenVersion
  hasToken := server.hasToken

/-! ### The requests, one after the other -/

/-- The migrations of the settings have nothing to do to the roster. -/
def Config.keepingRoster (config : Config) : Config :=
  { config with
    upgrade := fun settings =>
      { config.upgrade settings with remoteServers := settings.remoteServers } }

/-- The settings in memory and in the file. -/
structure Hub where
  memory : Settings
  file : Option Settings

inductive RosterRequest where
  | getSettings
  | getRemoteServers
  | putSettings (clientSettingsVersion : Option Nat) (body : Settings) (roster : List RosterEntry)
      (saved : Saved)
  | putRemoteServers (roster : List RosterEntry) (saved : Saved)

inductive Reply where
  | settings (others : Settings) (roster : List RosterEntry)
  | servers (roster : List RosterEntry)
  | status (code : Nat)

/-- Save the settings and put them into memory. -/
def Hub.replace (hub : Hub) (written : Settings) : Saved → Hub × Reply
  | .written => ({ memory := written, file := some written }, .status 200)
  | .failed file => ({ hub with file }, .status 500)

def Hub.handle (config : Config) (hub : Hub) : RosterRequest → Hub × Reply
  | .getSettings =>
      let shown := getSettings config hub.memory
      (hub, .settings { shown with remoteServers := [] }
        (shown.remoteServers.map RemoteServer.serialize))
  | .getRemoteServers =>
      (hub, .servers ((hub.memory.remoteServers.map RemoteServer.scrubSecrets).map
        RemoteServer.serialize))
  | .putSettings clientSettingsVersion body roster saved =>
      hub.replace
        (putSettings config.keepingRoster clientSettingsVersion
          { body with remoteServers := roster.map RosterEntry.deserialize } hub.memory) saved
  | .putRemoteServers roster saved =>
      match putRemoteServers config (roster.map RosterEntry.deserialize) hub.memory with
      | none => (hub, .status 400)
      | some written => hub.replace written saved

def Hub.run (config : Config) (hub : Hub) (requests : List RosterRequest) : Hub :=
  Runs.run (fun hub request => (Hub.handle config hub request).1) hub requests

def RosterRequest.puts : RosterRequest → Option (List RosterEntry)
  | .putSettings _ _ roster _ | .putRemoteServers roster _ => some roster
  | .getSettings | .getRemoteServers => none

def Reply.shows : Reply → Option (List RosterEntry)
  | .settings _ roster | .servers roster => some roster
  | .status _ => none

/-! ### What is stored -/

def tokenOf (roster : List RemoteServer) (id : String) : Option String :=
  (roster.find? fun stored => stored.id = id).bind (·.token)

/-- The flag of an entry tells whether its token is a text that is not empty. -/
def FlagsRight (roster : List RemoteServer) : Prop :=
  ∀ server ∈ roster, server.hasToken = server.token.any fun token => token != ""

variable (incoming existing : List RemoteServer)

theorem flagsRight_inherit : FlagsRight (inheritRemoteServerTokens incoming existing) := by
  intro server mem
  obtain ⟨entry, -, rfl⟩ := mem_map.mp mem
  rfl

theorem tidied_keepingRoster (config : Config) (body : Settings) :
    (tidied config.keepingRoster body).remoteServers = body.remoteServers := by
  change (migrateSettings config.keepingRoster body).remoteServers = body.remoteServers
  unfold migrateSettings
  split <;> rfl

def credentials (servers : List RemoteServer) : List (String × Option String) :=
  servers.map fun server => (server.id, server.token)

variable {config : Config}

theorem credentials_normalizeRoster {roster normalized : List RemoteServer}
    (taken : normalizeRoster config roster = some normalized) :
    credentials normalized = credentials roster := by
  induction roster generalizing normalized with
  | nil =>
    cases taken
    rfl
  | cons server rest ih =>
    unfold normalizeRoster at taken ih
    rw [mapM_cons] at taken
    obtain ⟨head, atHead, others⟩ := bind_eq_some_iff.mp taken
    obtain ⟨tail, atTail, whole⟩ := bind_eq_some_iff.mp others
    cases whole
    obtain ⟨origin, -, rfl⟩ := map_eq_some_iff.mp atHead
    have later := ih atTail
    unfold credentials at later ⊢
    rw [map_cons, map_cons, later]

variable {request : RosterRequest} {roster : List RosterEntry}

/-- A put that succeeds stores the submitted entries with the tokens that they inherit, and any
other leaves the memory as it is. -/
theorem handle_put (config : Config) (hub : Hub) (puts : request.puts = some roster) :
    ((hub.handle config request).2 = .status 200 ∧ ∃ incoming,
        credentials incoming = credentials (roster.map RosterEntry.deserialize) ∧
        (hub.handle config request).1.memory.remoteServers =
          inheritRemoteServerTokens incoming hub.memory.remoteServers ∧
        (hub.handle config request).1.file = some (hub.handle config request).1.memory) ∨
    ((hub.handle config request).2 ≠ .status 200 ∧
      (hub.handle config request).1.memory = hub.memory) := by
  cases request with
  | getSettings | getRemoteServers => exact absurd puts (by simp [RosterRequest.puts])
  | putSettings clientSettingsVersion body entries saved =>
    obtain rfl := some.inj puts
    cases saved with
    | failed file => exact .inr ⟨by simp [Hub.handle, Hub.replace], rfl⟩
    | written =>
      refine .inl ⟨rfl, _, rfl, ?_, rfl⟩
      change (putSettings _ _ _ _).remoteServers = _
      rw [putSettings, remoteServers_preserveCurrentSettings, tidied_keepingRoster]
  | putRemoteServers entries saved =>
    obtain rfl := some.inj puts
    rw [Hub.handle]
    cases taken : putRemoteServers config (entries.map RosterEntry.deserialize)
        hub.memory with
    | none => exact .inr ⟨by simp, rfl⟩
    | some written =>
      cases saved with
      | failed file => exact .inr ⟨by simp [Hub.replace], rfl⟩
      | written =>
        obtain ⟨normalized, whole, rfl⟩ := map_eq_some_iff.mp taken
        exact .inl ⟨rfl, normalized, credentials_normalizeRoster whole, rfl, rfl⟩

theorem mem_inherit {incoming existing : List RemoteServer} {id : String} {token : Option String}
    (mem : (id, token) ∈ credentials incoming) :
    ∃ server ∈ inheritRemoteServerTokens incoming existing,
      server.id = id ∧ server.token = (token <|> tokenOf existing id) := by
  obtain ⟨server, inIncoming, same⟩ := mem_map.mp mem
  cases same
  exact ⟨_, mem_map.mpr ⟨server, inIncoming, rfl⟩, rfl, rfl⟩

theorem ids_inherit :
    (inheritRemoteServerTokens incoming existing).map (·.id) =
      (credentials incoming).map Prod.fst := by
  rw [inheritRemoteServerTokens, credentials, List.map_map, List.map_map]
  rfl

theorem ids_deserialize (roster : List RosterEntry) :
    (credentials (roster.map RosterEntry.deserialize)).map Prod.fst = roster.map (·.id) := by
  rw [credentials, List.map_map, List.map_map]
  rfl

theorem tokenOf_of_notMem {roster : List RemoteServer} {id : String}
    (absent : id ∉ roster.map (·.id)) : tokenOf roster id = none := by
  have missing : roster.find? (fun stored => stored.id = id) = none :=
    find?_eq_none.mpr fun server mem same =>
      absent (mem_map.mpr ⟨server, mem, of_decide_eq_true same⟩)
  rw [tokenOf, missing]
  rfl

structure Stores (roster : List RosterEntry) (before after : List RemoteServer) : Prop where
  ids : after.map (·.id) = roster.map (·.id)
  flags : FlagsRight after
  submitted : ∀ entry ∈ roster, ∀ text, entry.token = some (some text) →
    tokenOf after entry.id = some text
  kept : ∀ entry ∈ roster, entry.token = none ∨ entry.token = some none →
    tokenOf after entry.id = tokenOf before entry.id
  fresh : ∀ entry ∈ roster, entry.token = none ∨ entry.token = some none →
    entry.id ∉ before.map (·.id) → tokenOf after entry.id = none

theorem stores_inherit {incoming existing : List RemoteServer} (nodup : (roster.map (·.id)).Nodup)
    (same : credentials incoming = credentials (roster.map RosterEntry.deserialize)) :
    Stores roster existing (inheritRemoteServerTokens incoming existing) := by
  have ids : (inheritRemoteServerTokens incoming existing).map (·.id) = roster.map (·.id) := by
    rw [ids_inherit, same, ids_deserialize]
  have tokens (entry : RosterEntry) (mem : entry ∈ roster) :
      tokenOf (inheritRemoteServerTokens incoming existing) entry.id =
        (entry.token.join <|> tokenOf existing entry.id) := by
    have credential : (entry.id, entry.token.join) ∈ credentials incoming := by
      rw [same]
      exact mem_map.mpr ⟨_, mem_map_of_mem mem, rfl⟩
    obtain ⟨server, stored, named, token⟩ := mem_inherit credential
    rw [tokenOf, ← named, find?_id (ids ▸ nodup) stored, bind_some, token, named]
  have keeps (entry : RosterEntry) (mem : entry ∈ roster)
      (silent : entry.token = none ∨ entry.token = some none) :
      tokenOf (inheritRemoteServerTokens incoming existing) entry.id =
        tokenOf existing entry.id := by
    rw [tokens entry mem]
    rcases silent with absent | null
    · rw [absent]
      rfl
    · rw [null]
      rfl
  refine ⟨ids, flagsRight_inherit incoming existing, fun entry mem text sent => ?_, keeps,
    fun entry mem silent new => ?_⟩
  · rw [tokens entry mem, sent]
    rfl
  · rw [keeps entry mem silent, tokenOf_of_notMem new]

theorem Stores.unchanged {before after : List RemoteServer} (stores : Stores roster before after)
    (ids : (roster.map (·.id)).Perm (before.map (·.id)))
    (silent : ∀ entry ∈ roster, entry.token = none ∨ entry.token = some none) (id : String) :
    tokenOf after id = tokenOf before id := by
  by_cases mem : id ∈ roster.map (·.id)
  · obtain ⟨entry, inRoster, rfl⟩ := mem_map.mp mem
    exact stores.kept entry inRoster (silent entry inRoster)
  · rw [tokenOf_of_notMem (stores.ids ▸ mem),
      tokenOf_of_notMem fun there => mem (ids.mem_iff.mpr there)]

/-! ### What is shown -/

theorem handle_reads {hub : Hub} (reads : request.puts = none) :
    (hub.handle config request).1 = hub := by
  cases request with
  | getSettings | getRemoteServers => rfl
  | putSettings | putRemoteServers => exact absurd reads (by simp [RosterRequest.puts])

theorem handle_shows {hub : Hub} {shown : List RosterEntry}
    (shows : (hub.handle config request).2.shows = some shown) :
    request.puts = none ∧ shown = (hub.memory.remoteServers.map scrubSecrets).map
        serialize := by
  cases request with
  | getSettings | getRemoteServers => exact ⟨rfl, (some.inj shows).symm⟩
  | putSettings clientSettingsVersion body roster saved =>
    cases saved <;> exact absurd shows (by simp [Hub.handle, Hub.replace, Reply.shows])
  | putRemoteServers roster saved =>
    rw [Hub.handle] at shows
    split at shows
    · exact absurd shows (by simp [Reply.shows])
    · cases saved <;> exact absurd shows (by simp [Hub.replace, Reply.shows])

/-! ### Sequences of requests -/

/-- A client that puts back the list that it was shown may have changed its order and any field but
the ids, as long as it sends no token. -/
structure RoundTrips (config : Config) (hub : Hub) : Prop where
  shown : ∀ request shown, (hub.handle config request).2.shows = some shown →
    (∀ entry ∈ shown, entry.token = none) ∧
    shown.map (fun entry => (entry.id, entry.hasToken)) =
      hub.memory.remoteServers.map fun server =>
        (server.id, server.token.any fun token => token != "")
  stored : ∀ request roster, request.puts = some roster → (roster.map (·.id)).Nodup →
    (hub.handle config request).2 = .status 200 →
    Stores roster hub.memory.remoteServers
      (hub.handle config request).1.memory.remoteServers ∧
    (hub.handle config request).1.file = some (hub.handle config request).1.memory
  refused : ∀ request, (hub.handle config request).2 ≠ .status 200 →
    (hub.handle config request).1.memory = hub.memory
  putBack : ∀ get shown put roster, (hub.handle config get).2.shows = some shown →
    put.puts = some roster → (roster.map (·.id)).Nodup →
    (roster.map (·.id)).Perm (shown.map (·.id)) →
    (∀ entry ∈ roster, entry.token = none ∨ entry.token = some none) →
    ∀ id, tokenOf ((hub.handle config get).1.handle config put).1.memory.remoteServers id =
      tokenOf hub.memory.remoteServers id

theorem ids_shown (servers : List RemoteServer) :
    ((servers.map scrubSecrets).map serialize).map (·.id) = servers.map (·.id) := by
  rw [List.map_map, List.map_map]
  rfl

theorem roundTrips (config : Config) (hub : Hub) : RoundTrips config hub where
  shown := fun request shown shows => by
    obtain ⟨-, rfl⟩ := handle_shows shows
    refine ⟨fun entry mem => ?_, ?_⟩
    · obtain ⟨server, scrubbed, rfl⟩ := mem_map.mp mem
      obtain ⟨stored, -, rfl⟩ := mem_map.mp scrubbed
      rfl
    · rw [List.map_map, List.map_map]
      rfl
  stored := fun request roster puts nodup taken => by
    rcases handle_put config hub puts with
      ⟨-, incoming, same, stored, file⟩ | ⟨refused, -⟩
    · rw [stored]
      exact ⟨stores_inherit nodup same, file⟩
    · exact absurd taken refused
  refused := fun request refused => by
    cases puts : request.puts with
    | none => rw [handle_reads puts]
    | some roster =>
      rcases handle_put config hub puts with ⟨taken, -⟩ | ⟨-, same⟩
      · exact absurd taken refused
      · exact same
  putBack := fun get shown put roster shows puts nodup ids silent id => by
    obtain ⟨reads, same⟩ := handle_shows shows
    rw [handle_reads reads]
    rw [same, ids_shown] at ids
    rcases handle_put config hub puts with
      ⟨-, incoming, same, stored, -⟩ | ⟨-, same⟩
    · rw [stored]
      exact (stores_inherit nodup same).unchanged ids silent id
    · rw [same]

theorem handle_flags (config : Config) (hub : Hub) (request : RosterRequest) :
    (hub.handle config request).1.memory = hub.memory ∨
      FlagsRight (hub.handle config request).1.memory.remoteServers := by
  cases puts : request.puts with
  | none => exact .inl (by rw [handle_reads puts])
  | some roster =>
    rcases handle_put config hub puts with
      ⟨-, incoming, -, stored, -⟩ | ⟨-, same⟩
    · rw [stored]
      exact .inr (flagsRight_inherit incoming hub.memory.remoteServers)
    · exact .inl same

/-- After any sequence of requests, the roster is the one that it started with or has the right
flags, and the next requests show, store and keep tokens as they should. -/
theorem roster_round_trip (config : Config) (hub : Hub) (requests : List RosterRequest) :
    RoundTrips config (hub.run config requests) ∧
      ((hub.run config requests).memory.remoteServers = hub.memory.remoteServers ∨
        FlagsRight (hub.run config requests).memory.remoteServers) := by
  refine ⟨roundTrips config _, ?_⟩
  refine Runs.kept
    (fun now : Hub => now.memory.remoteServers = hub.memory.remoteServers ∨
      FlagsRight now.memory.remoteServers) (fun now request held => ?_) (.inl rfl) requests
  rcases handle_flags config now request with same | right
  · rw [same]
    exact held
  · exact .inr right

/-- A `null` in the place of a token keeps the stored token; and the flag of a roster that was
stored before any request may be stale. -/
theorem null_keeps_token :
    (let hub : Hub := { memory := sampleSettings, file := some sampleSettings }
     let put : RosterRequest := .putRemoteServers
       [{ id := "lab", name := "Lab", url := "http://lab:8999", token := some none }] .written
     (hub.handle plainConfig put).2 = .status 200 ∧
       tokenOf (hub.handle plainConfig put).1.memory.remoteServers "lab" = some "t") ∧
    ∃ roster : List RemoteServer, ¬ FlagsRight roster := by
  refine ⟨⟨rfl, rfl⟩, [{ id := "lab", name := "Lab", url := "http://lab:8999", token := some "t" }],
    fun right => ?_⟩
  exact absurd (right _ mem_cons_self) (by decide)

end Dinotty.SettingsState
