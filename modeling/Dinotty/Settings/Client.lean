/-
This file is the settings of a client, with requests on their way and answers that come in any
order. It is shown in which runs no edit is lost.
-/

import Dinotty.Foundation.JobChain
import Dinotty.Foundation.Runs

namespace Dinotty.SettingsClient

open List Option Function

/-! ### What goes over the wire -/

variable {Field : Type} {Value : Field → Type}

abbrev Values (Value : Field → Type) : Type := ∀ field, Value field

/-- Some of the fields. -/
abbrev Payload (Value : Field → Type) : Type := ∀ field, Option (Value field)

/-- How a field is saved: as it is here, as it was last loaded, or not at all. -/
inductive Sending where
  | sent
  | echoed
  | withheld
  deriving DecidableEq

/-- What is done to values between a client and the server. -/
structure Wire (Value : Field → Type) where
  sending : Field → Sending
  /-- Keyboards are sent without their icons. -/
  encode : ∀ field, Value field → Value field
  /-- What the server makes of a payload and the settings that it has. -/
  put : Payload Value → Values Value → Values Value
  /-- What the server shows of the settings that it has. -/
  get : Values Value → Values Value
  /-- What is made of a value that is loaded. -/
  normalize : ∀ field, Value field → Value field
  imeKeyboardOverlapPx : Field
  isNull : Value imeKeyboardOverlapPx → Bool

/-! ### A client -/

inductive LoadPhase (Value : Field → Type) where
  /-- For the save that ran when the load was called. -/
  | waiting (save : Nat)
  | preparing
  | requested (revisionAtRequest : Nat)
  /-- The answer is on its way. The last value tells whether no edit was unsaved when the server
  gave it. -/
  | answered (revisionAtRequest : Nat) (data : Values Value) (complete : Bool)
  | ended

inductive SavePhase (Value : Field → Type) where
  | queued (predecessor : Nat)
  /-- For the first load. -/
  | loading
  /-- With the number of edits that the payload has. -/
  | preparing (payload : Payload Value) (edits : Nat)
  | sent (payload : Payload Value) (edits : Nat)
  /-- By the server, whose answer is on its way. -/
  | stored
  | ended

/-- A client with its loads and saves, and the settings that the server has. The last edit of each
field, the number of edits, and how many the server has and each `PUT` had are kept beside. -/
structure Client (wire : Wire Value) where
  settings : Values Value
  settingsRevision : Nat := 0
  settingsLoaded : Bool := false
  loaded : Bool := false
  loadPromise : Option Nat := none
  saveTail : Option Nat := none
  saveTailRevision : Option Nat := none
  loadGeneration : Nat := 0
  loadsInFlight : Nat := 0
  echo : Option (Payload Value) := none
  legacyOverlap : Option (Value wire.imeKeyboardOverlapPx)
  loads : List (LoadPhase Value) := []
  saves : List (SavePhase Value) := []
  server : Values Value
  lastEdit : Payload Value := fun _ => none
  edits : Nat := 0
  unsaved : Bool := false
  serverEdits : Nat := 0
  puts : List Nat := []

def SavePhase.isOver : SavePhase Value → Bool
  | .ended => true
  | _ => false

def SavePhase.isQueued : SavePhase Value → Bool
  | .queued _ => true
  | _ => false

/-- Its `PUT` has been sent and not been answered. -/
def SavePhase.inFlight : SavePhase Value → Bool
  | .sent _ _ | .stored => true
  | _ => false

def SavePhase.isStored : SavePhase Value → Bool
  | .stored | .ended => true
  | _ => false

def stages : JobChain.Stages (SavePhase Value) where
  queued := SavePhase.isQueued
  ended := SavePhase.isOver

/-! ### Saving -/

variable {wire : Wire Value}

/-- A save ends, and the next one has none to wait for if it was the last. -/
def Client.endSave (client : Client wire) (save : Nat) : Client wire :=
  { client with
    saves := client.saves.set save .ended
    saveTail := if client.saveTail = some save then none else client.saveTail
    saveTailRevision :=
      if client.saveTail = some save then none else client.saveTailRevision }

def payloadOf (wire : Wire Value) (settings : Values Value) (echo : Payload Value) :
    Payload Value :=
  fun field =>
    match wire.sending field with
    | .sent => some (wire.encode field (settings field))
    | .echoed => echo field
    | .withheld => none

/-- The payload is made, unless settings have never been loaded. -/
def Client.makePayload (client : Client wire) (save : Nat) : Client wire :=
  match client.echo with
  | none => client.endSave save
  | some echo =>
      { client with
        saves := client.saves.set save
          (.preparing (payloadOf wire client.settings echo) client.edits) }

/-- A save begins. If there is a first load it waits for it. -/
def Client.persistSettings (client : Client wire) (save : Nat) : Client wire :=
  match client.loadPromise with
  | some _ => { client with saves := client.saves.set save .loading }
  | none => client.makePayload save

/-- A call to save. It makes no save if the last one is of the same revision. -/
def Client.saveSettings (client : Client wire) : Client wire :=
  if client.saveTail.isSome ∧ client.saveTailRevision = some client.settingsRevision then
    { client with unsaved := false }
  else
    match client.saveTail with
    | some predecessor =>
        { client with
          saves := client.saves ++ [.queued predecessor]
          saveTail := some client.saves.length
          saveTailRevision := some client.settingsRevision
          unsaved := false }
    | none =>
        let called : Client wire :=
          { client with
            saves := client.saves ++ [.loading]
            saveTail := some client.saves.length
            saveTailRevision := some client.settingsRevision
            unsaved := false }
        called.persistSettings client.saves.length

/-- A save whose predecessor is over begins. -/
def Client.resumeSave (client : Client wire) (save : Nat) : Client wire :=
  match client.saves[save]? with
  | some (.queued predecessor) =>
      if (client.saves[predecessor]?).any SavePhase.isOver then client.persistSettings save
      else client
  | _ => client

/-- The first load that a save waits for is over. -/
def Client.awaitLoad (client : Client wire) (save : Nat) : Client wire :=
  match client.saves[save]?, client.loadPromise with
  | some .loading, some load =>
      match client.loads[load]? with
      | some .ended => client.makePayload save
      | _ => client
  | _, _ => client

def Client.sendSave (client : Client wire) (save : Nat) : Client wire :=
  match client.saves[save]? with
  | some (.preparing payload edits) =>
      { client with
        saves := client.saves.set save (.sent payload edits)
        puts := client.puts ++ [edits] }
  | _ => client

def Client.storeSave (client : Client wire) (save : Nat) : Client wire :=
  match client.saves[save]? with
  | some (.sent payload edits) =>
      { client with
        saves := client.saves.set save .stored
        server := wire.put payload client.server
        serverEdits := edits }
  | _ => client

def Client.receiveSave (client : Client wire) (save : Nat) : Client wire :=
  match client.saves[save]? with
  | some .stored => client.endSave save
  | _ => client

/-! ### Loading -/

/-- A call to load. Without a token it does nothing. -/
def Client.loadSettings (client : Client wire) (hasAuthToken : Bool) : Client wire :=
  if hasAuthToken then
    { client with
      loads := client.loads ++ [client.saveTail.elim .preparing .waiting]
      loadGeneration := client.loadGeneration + 1
      loadsInFlight := client.loadsInFlight + 1 }
  else { client with loads := client.loads ++ [.ended] }

def Client.useSettings (client : Client wire) (hasAuthToken : Bool) : Client wire :=
  if client.loaded then client
  else
    { client.loadSettings hasAuthToken with
      loadPromise := some client.loads.length
      loaded := true }

/-- The save that a load waits for is over. -/
def Client.resumeLoad (client : Client wire) (load : Nat) : Client wire :=
  match client.loads[load]? with
  | some (.waiting save) =>
      if (client.saves[save]?).any SavePhase.isOver then
        { client with loads := client.loads.set load .preparing }
      else client
  | _ => client

def Client.sendLoad (client : Client wire) (load : Nat) : Client wire :=
  match client.loads[load]? with
  | some .preparing =>
      { client with loads := client.loads.set load (.requested client.settingsRevision) }
  | _ => client

def Client.allSaved (client : Client wire) : Bool :=
  !client.unsaved && client.saves.all SavePhase.isStored

def Client.answerLoad (client : Client wire) (load : Nat) : Client wire :=
  match client.loads[load]? with
  | some (.requested revisionAtRequest) =>
      { client with
        loads := client.loads.set load
          (.answered revisionAtRequest (wire.get client.server) client.allSaved) }
  | _ => client

def loadedEcho (wire : Wire Value) (data : Values Value) : Payload Value :=
  fun field => if wire.sending field = .echoed then some (data field) else none

/-- Settings that are loaded replace the ones here. An overlap that the server does not know is
taken from what an older client left. -/
def Client.assign [DecidableEq Field] (client : Client wire) (data : Values Value)
    (changes : Nat) : Client wire :=
  let values : Values Value := fun field => wire.normalize field (data field)
  let assigned : Client wire :=
    { client with
      settings := values
      settingsRevision := client.settingsRevision + changes
      settingsLoaded := true }
  if wire.isNull (values wire.imeKeyboardOverlapPx) then
    match client.legacyOverlap with
    | none => assigned
    | some legacyOverlap =>
        { assigned with
          settings := Function.update values wire.imeKeyboardOverlapPx legacyOverlap
          settingsRevision := client.settingsRevision + changes + 1 : Client wire }.saveSettings
  else { assigned with legacyOverlap := none }

/-- Whether a response has to be discarded, as the settings were edited since it was asked for. -/
def Client.outdates (client : Client wire) (revisionAtRequest : Nat) : Bool :=
  client.settingsLoaded && client.settingsRevision != revisionAtRequest

def Client.receiveLoad [DecidableEq Field] (client : Client wire) (load changes : Nat) :
    Client wire :=
  match client.loads[load]? with
  | some (.answered revisionAtRequest data _) =>
      let received : Client wire :=
        { client with
          loads := client.loads.set load .ended
          loadsInFlight := client.loadsInFlight - 1
          echo := some (loadedEcho wire data)
          loadGeneration := client.loadGeneration + 1 }
      if client.outdates revisionAtRequest then received else received.assign data changes
  | _ => client

/-! ### Runs -/

inductive Event (Value : Field → Type) where
  | useSettings (hasAuthToken : Bool)
  | loadSettings (hasAuthToken : Bool)
  | edit (field : Field) (value : Value field)
  | saveSettings
  | resumeSave (save : Nat)
  | awaitLoad (save : Nat)
  | sendSave (save : Nat)
  | storeSave (save : Nat)
  | receiveSave (save : Nat)
  | resumeLoad (load : Nat)
  | sendLoad (load : Nat)
  | answerLoad (load : Nat)
  | receiveLoad (load changes : Nat)

/-- The watcher notices an edit at once. -/
def Client.edit [DecidableEq Field] (client : Client wire) (field : Field) (value : Value field) :
    Client wire :=
  { client with
    settings := Function.update client.settings field value
    settingsRevision := client.settingsRevision + 1
    lastEdit := Function.update client.lastEdit field (some value)
    edits := client.edits + 1
    unsaved := true }

def Client.after [DecidableEq Field] (client : Client wire) : Event Value → Client wire
  | .useSettings hasAuthToken => client.useSettings hasAuthToken
  | .loadSettings hasAuthToken => client.loadSettings hasAuthToken
  | .edit field value => client.edit field value
  | .saveSettings => client.saveSettings
  | .resumeSave save => client.resumeSave save
  | .awaitLoad save => client.awaitLoad save
  | .sendSave save => client.sendSave save
  | .storeSave save => client.storeSave save
  | .receiveSave save => client.receiveSave save
  | .resumeLoad load => client.resumeLoad load
  | .sendLoad load => client.sendLoad load
  | .answerLoad load => client.answerLoad load
  | .receiveLoad load changes => client.receiveLoad load changes

/-- The settings hold the last edit of each field, and so do those of the server once nothing waits
to be saved. One `PUT` at most is under way, and they are sent in the order of the edits. -/
structure Client.Safe (client : Client wire) : Prop where
  here : ∀ field, ∀ value ∈ client.lastEdit field, client.settings field = value
  there : client.unsaved = false → (∀ phase ∈ client.saves, phase.isOver = true) →
    ∀ field, ∀ value ∈ client.lastEdit field, client.server field = value
  single : ∀ (index other : Nat) (first second : SavePhase Value),
    client.saves[index]? = some first → client.saves[other]? = some second →
    first.inFlight = true → second.inFlight = true → index = other
  ordered : client.puts.Pairwise (· ≤ ·)

/-- A value that the server keeps and shows and which a client that loads it leaves as it is. -/
structure Wire.Keeps (wire : Wire Value) (field : Field) (value : Value field) : Prop where
  sent : wire.sending field = .sent
  put : ∀ payload stored, payload field = some (wire.encode field value) →
    wire.put payload stored field = value
  get : ∀ stored, stored field = value → wire.get stored field = value
  normalize : wire.normalize field value = value
  known : ∀ same : field = wire.imeKeyboardOverlapPx, wire.isNull (same ▸ value) = false

/-- Edits come after the settings were loaded, and a response that is not discarded was given when
no edit was unsaved. -/
def Client.Clear (client : Client wire) : Event Value → Prop
  | .edit field value => client.settingsLoaded = true ∧ wire.Keeps field value
  | .receiveLoad load _ => ∀ revisionAtRequest data complete,
      client.loads[load]? = some (.answered revisionAtRequest data complete) →
      client.settingsLoaded = true → client.outdates revisionAtRequest = false → complete = true
  | _ => True

/-! ### What every event keeps -/

def SavePhase.carried : SavePhase Value → Option (Payload Value × Nat)
  | .preparing payload edits | .sent payload edits => some (payload, edits)
  | _ => none

/-- A save that will have the server store all edits. -/
def SavePhase.Bears (edits : Nat) : SavePhase Value → Prop
  | .queued _ | .loading => True
  | .preparing _ count | .sent _ count => count = edits
  | .stored | .ended => False

def LoadPhase.revision : LoadPhase Value → Option Nat
  | .requested revisionAtRequest | .answered revisionAtRequest _ _ => some revisionAtRequest
  | _ => none

/-- The server has all edits, or a save will have it store them. -/
def Client.Coming (client : Client wire) : Prop :=
  client.serverEdits = client.edits ∨ ∃ phase ∈ client.saves, phase.Bears client.edits

/-- A payload is no older than what was put before, and if it has all edits it has their values. -/
structure Carries (wire : Wire Value) (serverEdits edits : Nat) (puts : List Nat)
    (lastEdit payload : Payload Value) (count : Nat) : Prop where
  since : serverEdits ≤ count
  bound : count ≤ edits
  puts : ∀ put ∈ puts, put ≤ count
  current : count = edits →
    ∀ field, ∀ value ∈ lastEdit field, payload field = some (wire.encode field value)

abbrev Client.Carries (client : Client wire) (carried : Payload Value × Nat) : Prop :=
  SettingsClient.Carries wire client.serverEdits client.edits client.puts client.lastEdit
    carried.1 carried.2

/-- The saves are a chain of which the tail is the end, nothing was edited before the settings were
loaded, and whatever has all edits has their values. -/
structure Client.Kept (client : Client wire) : Prop where
  chained : JobChain.Ordered stages client.saves
  predecessors : ∀ index predecessor, client.saves[index]? = some (.queued predecessor) →
    predecessor + 1 = index
  tail : ∀ save ∈ client.saveTail, save + 1 = client.saves.length
  idle : client.saveTail = none → ∀ phase ∈ client.saves, phase.isOver = true
  unloaded : client.settingsLoaded = false → client.edits = 0
  unedited : client.edits = 0 → ∀ field, client.lastEdit field = none
  echo : client.settingsLoaded = true → client.echo.isSome = true
  keeps : ∀ field, ∀ value ∈ client.lastEdit field, wire.Keeps field value
  here : ∀ field, ∀ value ∈ client.lastEdit field, client.settings field = value
  payloads : ∀ (index : Nat) (phase : SavePhase Value), client.saves[index]? = some phase →
    ∀ carried ∈ phase.carried, client.Carries carried
  serverBound : client.serverEdits ≤ client.edits
  server : client.serverEdits = client.edits →
    ∀ field, ∀ value ∈ client.lastEdit field, client.server field = value
  coming : client.unsaved = false → client.Coming
  tailRevision : ∀ revision ∈ client.saveTailRevision, revision ≤ client.settingsRevision
  tailComing : client.saveTailRevision = some client.settingsRevision → client.Coming
  requests : ∀ load ∈ client.loads, ∀ revision ∈ load.revision, revision ≤ client.settingsRevision
  answers : ∀ data, .answered client.settingsRevision data true ∈ client.loads →
    ∀ field, ∀ value ∈ client.lastEdit field, data field = value
  ordered : client.puts.Pairwise (· ≤ ·)
  putsBound : ∀ put ∈ client.puts, put ≤ client.edits

variable {client : Client wire} {save : Nat} {old new : SavePhase Value}

variable {phase : SavePhase Value}

theorem SavePhase.begun_of_carried {carried : Payload Value × Nat}
    (carries : carried ∈ phase.carried) : phase.isQueued = false ∧ phase.isOver = false := by
  cases phase with
  | preparing | sent => exact ⟨rfl, rfl⟩
  | _ => cases carries

theorem SavePhase.begun_of_inFlight (inFlight : phase.inFlight = true) :
    phase.isQueued = false ∧ phase.isOver = false := by
  cases phase with
  | sent | stored => exact ⟨rfl, rfl⟩
  | _ => cases inFlight

theorem Client.Coming.set (coming : client.Coming) (found : client.saves[save]? = some old)
    (bears : old.Bears client.edits → new.Bears client.edits) :
    ({ client with saves := client.saves.set save new } : Client wire).Coming := by
  rcases coming with same | ⟨phase, mem, isBorne⟩
  · exact Or.inl same
  · obtain ⟨i, atIndex⟩ := mem_iff_getElem?.mp mem
    refine Or.inr ?_
    rcases eq_or_ne i save with rfl | ne
    · rw [found] at atIndex
      cases atIndex
      exact ⟨new, mem_of_getElem? (JobChain.getElem?_set_same new found), bears isBorne⟩
    · exact ⟨phase, mem_of_getElem? (JobChain.getElem?_set_other new ne atIndex), isBorne⟩

theorem Client.Coming.of_bears (coming : client.Coming) (found : client.saves[save]? = some old)
    {serverEdits : Nat} (since : client.serverEdits = client.edits → serverEdits = client.edits)
    (bears : old.Bears client.edits → serverEdits = client.edits) :
    serverEdits = client.edits ∨ ∃ phase ∈ client.saves.set save new, phase.Bears client.edits := by
  rcases coming with same | ⟨phase, mem, isBorne⟩
  · exact Or.inl (since same)
  · obtain ⟨i, atIndex⟩ := mem_iff_getElem?.mp mem
    rcases eq_or_ne i save with rfl | ne
    · rw [found] at atIndex
      cases atIndex
      exact Or.inl (bears isBorne)
    · exact Or.inr ⟨phase, mem_of_getElem?
        (JobChain.getElem?_set_other new ne atIndex), isBorne⟩

section

variable (kept : client.Kept) (found : client.saves[save]? = some old)
include kept found

theorem Client.Kept.setSave (runs : old.isOver = false)
    (free : JobChain.Ordered stages (client.saves.set save new)) (begun : new.isQueued = false)
    (carries : ∀ carried ∈ new.carried, client.Carries carried)
    (bears : old.Bears client.edits → new.Bears client.edits) :
    ({ client with saves := client.saves.set save new } : Client wire).Kept := by
  refine { kept with
    chained := free
    predecessors := fun i predecessor atIndex => ?_
    tail := fun last isTail => ?_
    idle := fun noTail => ?_
    payloads := fun i phase atIndex => ?_
    coming := fun saved => (kept.coming saved).set found bears
    tailComing := fun cur => (kept.tailComing cur).set found bears }
  · rcases JobChain.getElem?_set_cases atIndex with ⟨-, same⟩ | ⟨-, before⟩
    · rw [← same] at begun
      cases begun
    · exact kept.predecessors i predecessor before
  · rw [length_set]
    exact kept.tail last isTail
  · have ended := kept.idle noTail old (mem_of_getElem? found)
    rw [runs] at ended
    cases ended
  · rcases JobChain.getElem?_set_cases atIndex with ⟨-, rfl⟩ | ⟨-, before⟩
    · exact carries
    · exact kept.payloads i phase before

/-- A save ends that bears no edits which the server does not have. -/
theorem Client.Kept.endSave (free : JobChain.Ordered stages (client.saves.set save .ended))
    (bears : old.Bears client.edits → client.serverEdits = client.edits) :
    (client.endSave save).Kept := by
  have coming : client.Coming → (client.endSave save).Coming := fun coming =>
    coming.of_bears found id bears
  refine { kept with
    chained := free
    predecessors := fun i predecessor atIndex => ?_
    tail := fun last isTail => ?_
    idle := fun noTail => ?_
    payloads := fun i phase atIndex => ?_
    coming := fun saved => coming (kept.coming saved)
    tailRevision := fun rev isTail => ?_
    tailComing := fun cur => ?_ }
  · rcases JobChain.getElem?_set_cases atIndex with ⟨-, same⟩ | ⟨-, before⟩
    · cases same
    · exact kept.predecessors i predecessor before
  · dsimp only [Client.endSave] at isTail ⊢
    rw [length_set]
    split_ifs at isTail
    · cases isTail
    · exact kept.tail last isTail
  · dsimp only [Client.endSave] at noTail ⊢
    split_ifs at noTail with isTail
    · refine free.all_over (JobChain.getElem?_set_same .ended found) ?_ rfl rfl
      rw [length_set]
      exact kept.tail save isTail
    · intro phase mem
      rcases mem_or_eq_of_mem_set mem with before | rfl
      · exact kept.idle noTail phase before
      · rfl
  · rcases JobChain.getElem?_set_cases atIndex with ⟨-, rfl⟩ | ⟨-, before⟩
    · intro carried carries
      cases carries
    · exact kept.payloads i phase before
  · dsimp only [Client.endSave] at isTail
    split_ifs at isTail
    · cases isTail
    · exact kept.tailRevision rev isTail
  · dsimp only [Client.endSave] at cur
    split_ifs at cur
    exact coming (kept.tailComing cur)

theorem Client.Kept.makePayload (runs : old.isOver = false)
    (free : ∀ new, JobChain.Ordered stages (client.saves.set save new)) :
    (client.makePayload save).Kept := by
  unfold Client.makePayload
  split
  next unknown =>
    have notLoaded : client.settingsLoaded = false := by
      refine Bool.eq_false_iff.mpr fun isLoaded => ?_
      have known := kept.echo isLoaded
      rw [unknown] at known
      cases known
    have none := kept.unloaded notLoaded
    have bound := kept.serverBound
    exact kept.endSave found (free .ended) fun _ => by omega
  next echo _ =>
    let payload : SavePhase Value := .preparing (payloadOf wire client.settings echo) client.edits
    have isBegun : payload.isQueued = false := rfl
    refine kept.setSave found runs (free payload) isBegun (fun carried carries => ?_) fun _ => rfl
    cases carries
    exact { since := kept.serverBound, bound := Nat.le_refl _, puts := kept.putsBound,
            current := fun _ field value isLast => by
              dsimp only [payloadOf]
              rw [(kept.keeps field value isLast).sent, kept.here field value isLast] }

theorem Client.Kept.persistSettings (runs : old.isOver = false)
    (free : ∀ new, JobChain.Ordered stages (client.saves.set save new)) :
    (client.persistSettings save).Kept := by
  unfold Client.persistSettings
  split
  next load _ =>
    have isBegun : (SavePhase.loading : SavePhase Value).isQueued = false := rfl
    refine kept.setSave found runs (free .loading) isBegun (fun carried carries => ?_)
      fun _ => trivial
    cases carries
  next => exact kept.makePayload found runs free

end

section

variable (kept : client.Kept)
include kept

theorem Client.Kept.addSave (new : SavePhase Value)
    (allowed : new.isQueued = true ∨ ∀ phase ∈ client.saves, phase.isOver = true)
    (predecessor : ∀ predecessor, new = .queued predecessor → client.saveTail = some predecessor)
    (carries : new.carried = none) (bears : new.Bears client.edits) :
    ({ client with
        saves := client.saves ++ [new]
        saveTail := some client.saves.length
        saveTailRevision := some client.settingsRevision
        unsaved := false } : Client wire).Kept := by
  have coming : client.serverEdits = client.edits ∨
      ∃ phase ∈ client.saves ++ [new], phase.Bears client.edits :=
    Or.inr ⟨new, mem_append_right _ (mem_singleton_self new), bears⟩
  refine { kept with
    chained := kept.chained.snoc allowed
    predecessors := fun i before atIndex => ?_
    tail := fun last isTail => ?_
    idle := fun noTail => by cases noTail
    payloads := fun i phase atIndex => ?_
    coming := fun _ => coming
    tailRevision := fun rev isTail => ?_
    tailComing := fun _ => coming }
  · rcases JobChain.getElem?_snoc_cases atIndex with ⟨rfl, same⟩ | ⟨-, earlier⟩
    · exact kept.tail before (predecessor before same.symm)
    · exact kept.predecessors i before earlier
  · cases isTail
    rw [length_append, length_singleton]
  · rcases JobChain.getElem?_snoc_cases atIndex with ⟨-, rfl⟩ | ⟨-, earlier⟩
    · intro carried isCarried
      rw [carries] at isCarried
      cases isCarried
    · exact kept.payloads i phase earlier
  · cases isTail
    exact Nat.le_refl _

theorem Client.Kept.saveSettings : client.saveSettings.Kept := by
  unfold Client.saveSettings
  split_ifs with again
  · exact { kept with coming := fun _ => kept.tailComing again.2 }
  · split
    next predecessor tail =>
      refine kept.addSave (.queued predecessor) (Or.inl rfl) (fun other same => ?_) rfl trivial
      obtain rfl := SavePhase.queued.inj same
      exact tail
    next tail =>
      have added := kept.addSave SavePhase.loading (Or.inr (kept.idle tail))
        (nofun) rfl trivial
      have found : (client.saves ++ [SavePhase.loading])[client.saves.length]? =
          some (.loading : SavePhase Value) := getElem?_concat_length
      exact added.persistSettings found rfl fun _ => added.chained.advance found rfl rfl

theorem Client.Kept.resumeSave (save : Nat) : (client.resumeSave save).Kept := by
  unfold Client.resumeSave
  split
  next predecessor found =>
    split_ifs with isOver
    · obtain ⟨before, atBefore, ended⟩ := (Option.any_eq_true _ _).mp isOver
      obtain rfl := kept.predecessors save predecessor found
      have begun : before.isQueued = false := by
        cases before with
        | ended => rfl
        | _ => cases ended
      exact kept.persistSettings found rfl fun _ =>
        kept.chained.begin found rfl atBefore ended begun
    · exact kept
  next => exact kept

theorem Client.Kept.awaitLoad (save : Nat) : (client.awaitLoad save).Kept := by
  unfold Client.awaitLoad
  split
  next load found _ =>
    split
    · exact kept.makePayload found rfl fun _ => kept.chained.advance found rfl rfl
    · exact kept
  next => exact kept

theorem Client.Kept.alone (found : client.saves[save]? = some old) (begun : old.isQueued = false)
    (runs : old.isOver = false) {i : Nat} (ne : i ≠ save)
    (atIndex : client.saves[i]? = some phase) :
    phase.carried = none := by
  refine Option.eq_none_iff_forall_not_mem.mpr fun carried carries => ne ?_
  have other := SavePhase.begun_of_carried carries
  exact kept.chained.unique atIndex found other.1 begun other.2 runs

theorem Client.Kept.sendSave (save : Nat) : (client.sendSave save).Kept := by
  unfold Client.sendSave
  split
  next payload edits found =>
    have carries := kept.payloads save _ found (payload, edits) rfl
    have free : JobChain.Ordered stages (client.saves.set save (.sent payload edits)) :=
      kept.chained.advance found rfl rfl
    have moved := kept.setSave found rfl free rfl
      (fun carried isCarried => some.inj isCarried ▸ carries) id
    refine { moved with
      payloads := fun i phase atIndex carried isCarried => ?_
      ordered := ?_
      putsBound := fun put mem => ?_ }
    · rcases JobChain.getElem?_set_cases atIndex with ⟨-, rfl⟩ | ⟨ne, before⟩
      · cases isCarried
        refine { carries with puts := fun put mem => ?_ }
        rcases mem_append.mp mem with earlier | new
        · exact carries.puts put earlier
        · exact Nat.le_of_eq (mem_singleton.mp new)
      · rw [kept.alone found rfl rfl ne before] at isCarried
        cases isCarried
    · refine pairwise_append.mpr ⟨kept.ordered, pairwise_singleton _ _, ?_⟩
      intro put mem new isNew
      rw [mem_singleton.mp isNew]
      exact carries.puts put mem
    · rcases mem_append.mp mem with earlier | new
      · exact kept.putsBound put earlier
      · exact Nat.le_trans (Nat.le_of_eq (mem_singleton.mp new)) carries.bound
  next => exact kept

/-- What the server stores is no older than what it had, and has the values of the edits. -/
theorem Client.Kept.storeSave (save : Nat) : (client.storeSave save).Kept := by
  unfold Client.storeSave
  split
  next payload edits found =>
    have carries := kept.payloads save _ found (payload, edits) rfl
    have since : client.serverEdits = client.edits → edits = client.edits := fun same =>
      Nat.le_antisymm carries.bound (same ▸ carries.since)
    have coming : client.Coming → edits = client.edits ∨
        ∃ phase ∈ client.saves.set save .stored, phase.Bears client.edits := fun coming =>
      coming.of_bears found since id
    have free : JobChain.Ordered stages (client.saves.set save .stored) :=
      kept.chained.advance found rfl rfl
    refine { kept with
      chained := free
      predecessors := fun i predecessor atIndex => ?_
      tail := fun last isTail => ?_
      idle := fun noTail => ?_
      payloads := fun i phase atIndex carried isCarried => ?_
      serverBound := carries.bound
      server := fun all field value isLast => ?_
      coming := fun saved => coming (kept.coming saved)
      tailComing := fun current => coming (kept.tailComing current) }
    · rcases JobChain.getElem?_set_cases atIndex with ⟨-, same⟩ | ⟨-, before⟩
      · cases same
      · exact kept.predecessors i predecessor before
    · rw [length_set]
      exact kept.tail last isTail
    · have ended := kept.idle noTail _ (mem_of_getElem? found)
      cases ended
    · rcases JobChain.getElem?_set_cases atIndex with ⟨-, rfl⟩ | ⟨ne, before⟩
      · cases isCarried
      · rw [kept.alone found rfl rfl ne before] at isCarried
        cases isCarried
    · exact (kept.keeps field value isLast).put payload client.server
        (carries.current all field value isLast)
  next => exact kept

theorem Client.Kept.receiveSave (save : Nat) : (client.receiveSave save).Kept := by
  unfold Client.receiveSave
  split
  next found =>
    exact kept.endSave found (kept.chained.advance found rfl rfl) fun bears => bears.elim
  next => exact kept

end

variable {loads : List (LoadPhase Value)}

section

variable (kept : client.Kept)
include kept

theorem Client.Kept.setLoads {loadGeneration loadsInFlight : Nat} {loadPromise : Option Nat}
    {loaded : Bool}
    (requests : ∀ load ∈ loads, ∀ revision ∈ load.revision, revision ≤ client.settingsRevision)
    (answers : ∀ data, .answered client.settingsRevision data true ∈ loads →
      ∀ field, ∀ value ∈ client.lastEdit field, data field = value) :
    ({ client with
        loads := loads
        loadGeneration := loadGeneration
        loadsInFlight := loadsInFlight
        loadPromise := loadPromise
        loaded := loaded } : Client wire).Kept :=
  { kept with requests := requests, answers := answers }

theorem Client.Kept.requests_of (phase : LoadPhase Value)
    (bound : ∀ revision ∈ phase.revision, revision ≤ client.settingsRevision)
    (from_ : ∀ load ∈ loads, load ∈ client.loads ∨ load = phase) :
    ∀ load ∈ loads, ∀ revision ∈ load.revision, revision ≤ client.settingsRevision := by
  intro load mem
  rcases from_ load mem with before | rfl
  · exact kept.requests load before
  · exact bound

theorem Client.Kept.answers_of (phase : LoadPhase Value)
    (good : ∀ data, phase = .answered client.settingsRevision data true →
      ∀ field, ∀ value ∈ client.lastEdit field, data field = value)
    (from_ : ∀ load ∈ loads, load ∈ client.loads ∨ load = phase) :
    ∀ data, .answered client.settingsRevision data true ∈ loads →
      ∀ field, ∀ value ∈ client.lastEdit field, data field = value := by
  intro data mem
  rcases from_ _ mem with before | same
  · exact kept.answers data before
  · exact good data same.symm

theorem Client.Kept.loadSettings (hasAuthToken : Bool) :
    (client.loadSettings hasAuthToken).Kept := by
  have joins : ∀ phase load : LoadPhase Value, load ∈ client.loads ++ [phase] →
      load ∈ client.loads ∨ load = phase := fun phase load mem =>
    (mem_append.mp mem).imp id mem_singleton.mp
  unfold Client.loadSettings
  split_ifs
  · refine kept.setLoads (kept.requests_of _ ?_ (joins _)) (kept.answers_of _ ?_ (joins _))
    · intro rev there
      cases tail : client.saveTail <;> rw [tail] at there <;> cases there
    · intro data same
      cases tail : client.saveTail <;> rw [tail] at same <;> cases same
  · exact kept.setLoads (kept.requests_of .ended (nofun) (joins _))
      (kept.answers_of .ended (nofun) (joins _))

theorem Client.Kept.useSettings (hasAuthToken : Bool) : (client.useSettings hasAuthToken).Kept := by
  unfold Client.useSettings
  split_ifs
  · exact kept
  · have loading := kept.loadSettings hasAuthToken
    exact loading.setLoads loading.requests loading.answers

theorem Client.Kept.setLoad {load : Nat} {phase : LoadPhase Value}
    (bound : ∀ revision ∈ phase.revision, revision ≤ client.settingsRevision)
    (good : ∀ data, phase = .answered client.settingsRevision data true →
      ∀ field, ∀ value ∈ client.lastEdit field, data field = value) :
    ({ client with loads := client.loads.set load phase } : Client wire).Kept :=
  kept.setLoads (kept.requests_of phase bound fun _ => mem_or_eq_of_mem_set)
    (kept.answers_of phase good fun _ => mem_or_eq_of_mem_set)

theorem Client.Kept.resumeLoad (load : Nat) : (client.resumeLoad load).Kept := by
  unfold Client.resumeLoad
  split
  · split_ifs
    · exact kept.setLoad (nofun) nofun
    · exact kept
  · exact kept

theorem Client.Kept.sendLoad (load : Nat) : (client.sendLoad load).Kept := by
  unfold Client.sendLoad
  split
  · exact kept.setLoad (fun _ there => Nat.le_of_eq (some.inj there).symm)
      nofun
  · exact kept

theorem Client.Kept.server_of_allSaved (saved : client.unsaved = false)
    (stored : ∀ phase ∈ client.saves, phase.isStored = true) (field : Field) (value : Value field)
    (isLast : value ∈ client.lastEdit field) :
    client.server field = value := by
  rcases kept.coming saved with all | ⟨phase, mem, bears⟩
  · exact kept.server all field value isLast
  · have isStored := stored phase mem
    cases phase with
    | stored | ended => exact bears.elim
    | _ => cases isStored

theorem Client.Kept.answerLoad (load : Nat) : (client.answerLoad load).Kept := by
  unfold Client.answerLoad
  split
  next revisionAtRequest found =>
    refine kept.setLoad (fun rev there => ?_) fun data same field value isLast => ?_
    · exact kept.requests _ (mem_of_getElem? found) rev there
    · obtain ⟨-, rfl, complete⟩ := LoadPhase.answered.inj same
      obtain ⟨saved, stored⟩ := Bool.and_eq_true_iff.mp complete
      exact (kept.keeps field value isLast).get client.server
        (kept.server_of_allSaved (Bool.not_eq_true' _ ▸ saved) (List.all_eq_true.mp stored)
          field value isLast)
  next => exact kept

theorem Client.Kept.replace (echo : client.echo.isSome = true) {values : Values Value}
    (agrees : ∀ field, ∀ value ∈ client.lastEdit field, values field = value) (more : Nat)
    (legacyOverlap : Option (Value wire.imeKeyboardOverlapPx)) :
    ({ client with
        settings := values
        settingsRevision := client.settingsRevision + more
        settingsLoaded := true
        legacyOverlap := legacyOverlap } : Client wire).Kept := by
  refine { kept with
    unloaded := fun notLoaded => by cases notLoaded
    echo := fun _ => echo
    here := agrees
    tailRevision := fun rev isTail =>
      Nat.le_add_right_of_le (kept.tailRevision rev isTail)
    tailComing := fun cur => ?_
    requests := fun load mem rev there =>
      Nat.le_add_right_of_le (kept.requests load mem rev there)
    answers := fun data mem => ?_ }
  · have bound := kept.tailRevision _ cur
    dsimp only at bound
    have none : more = 0 := by omega
    rw [none] at cur
    exact kept.tailComing cur
  · have bound := kept.requests _ mem _ rfl
    dsimp only at bound
    have none : more = 0 := by omega
    rw [none] at mem
    exact kept.answers data mem

end

section

variable [DecidableEq Field]

/-- No edit is replaced by settings that have all edits. -/
theorem Client.Kept.assign (kept : client.Kept) (echo : client.echo.isSome = true)
    {data : Values Value} (agrees : ∀ field, ∀ value ∈ client.lastEdit field,
      data field = value) (changes : Nat) : (client.assign data changes).Kept := by
  have normal : ∀ field, ∀ value ∈ client.lastEdit field,
      wire.normalize field (data field) = value := by
    intro field value isLast
    rw [agrees field value isLast]
    exact (kept.keeps field value isLast).normalize
  dsimp only [Client.assign]
  split_ifs with isNull
  · split
    next => exact kept.replace echo normal changes client.legacyOverlap
    next legacyOverlap _ =>
      refine (kept.replace echo (fun field value isLast => ?_) (changes + 1)
        client.legacyOverlap).saveSettings
      have other : field ≠ wire.imeKeyboardOverlapPx := by
        rintro rfl
        have known := (kept.keeps _ value isLast).known rfl
        rw [normal _ value isLast, known] at isNull
        cases isNull
      rw [update_of_ne other]
      exact normal field value isLast
  · exact kept.replace echo normal changes none

theorem Client.Kept.receiveLoad (kept : client.Kept) (load changes : Nat)
    (clear : client.Clear (.receiveLoad load changes)) :
    (client.receiveLoad load changes).Kept := by
  unfold Client.receiveLoad
  split
  next revisionAtRequest data complete found =>
    have ended : ∀ other ∈ client.loads.set load .ended, other ∈ client.loads ∨ other = .ended :=
      fun _ => mem_or_eq_of_mem_set
    have received : ({ client with
        loads := client.loads.set load .ended
        loadsInFlight := client.loadsInFlight - 1
        echo := some (loadedEcho wire data)
        loadGeneration := client.loadGeneration + 1 } : Client wire).Kept :=
      { kept with
        echo := fun _ => rfl
        requests := kept.requests_of .ended (nofun) ended
        answers := kept.answers_of .ended (nofun) ended }
    dsimp only
    split_ifs with outdated
    · exact received
    · refine received.assign rfl (fun field value isLast => ?_) changes
      cases isLoaded : client.settingsLoaded with
      | false =>
        rw [kept.unedited (kept.unloaded isLoaded) field] at isLast
        cases isLast
      | true =>
        have isComplete := clear revisionAtRequest data complete found isLoaded
          (Bool.eq_false_iff.mpr outdated)
        have cur : client.settingsRevision = revisionAtRequest := by
          by_contra ne
          refine outdated ?_
          rw [Client.outdates, isLoaded, Bool.true_and]
          exact bne_iff_ne.mpr ne
        rw [← cur, isComplete] at found
        exact kept.answers data (mem_of_getElem? found) field value isLast
  next => exact kept

/-- An edit after the settings were loaded. Nothing on its way has it yet. -/
theorem Client.Kept.edit (kept : client.Kept) (field : Field) (value : Value field)
    (isLoaded : client.settingsLoaded = true) (keeps : wire.Keeps field value) :
    (client.edit field value).Kept := by
  have cases_ : ∀ other, ∀ last ∈ (client.edit field value).lastEdit other,
      (∃ same : field = other, same ▸ value = last) ∨
        field ≠ other ∧ last ∈ client.lastEdit other := by
    intro other last isLast
    rcases eq_or_ne field other with rfl | ne
    · dsimp only [Client.edit] at isLast
      rw [update_self] at isLast
      exact Or.inl ⟨rfl, some.inj isLast⟩
    · dsimp only [Client.edit] at isLast
      rw [update_of_ne ne.symm] at isLast
      exact Or.inr ⟨ne, isLast⟩
  refine { kept with
    unloaded := fun notLoaded => ?_
    unedited := nofun
    keeps := fun other last isLast => ?_
    here := fun other last isLast => ?_
    payloads := fun i phase atIndex carried isCarried => ?_
    serverBound := Nat.le_succ_of_le kept.serverBound
    server := fun all => ?_
    coming := nofun
    tailRevision := fun rev isTail => Nat.le_succ_of_le (kept.tailRevision rev isTail)
    tailComing := fun current => ?_
    requests := fun load mem rev there =>
      Nat.le_succ_of_le (kept.requests load mem rev there)
    answers := fun data mem => ?_
    putsBound := fun put mem => Nat.le_succ_of_le (kept.putsBound put mem) }
  · rw [Client.edit, isLoaded] at notLoaded
    cases notLoaded
  · rcases cases_ other last isLast with ⟨rfl, rfl⟩ | ⟨-, before⟩
    · exact keeps
    · exact kept.keeps other last before
  · dsimp only [Client.edit]
    rcases cases_ other last isLast with ⟨rfl, rfl⟩ | ⟨ne, before⟩
    · exact update_self _ _ _
    · rw [update_of_ne ne.symm]
      exact kept.here other last before
  · have carries := kept.payloads i phase atIndex carried isCarried
    have bound := carries.bound
    exact { carries with
      bound := Nat.le_succ_of_le bound
      current := fun all => by
        dsimp only [Client.edit] at all
        omega }
  · have bound := kept.serverBound
    dsimp only [Client.edit] at all
    omega
  · have bound := kept.tailRevision _ current
    dsimp only [Client.edit] at bound
    omega
  · have bound := kept.requests _ mem _ rfl
    dsimp only [Client.edit] at bound
    omega

theorem Client.Kept.after (client : Client wire) (event : Event Value) (kept : client.Kept)
    (clear : client.Clear event) : (client.after event).Kept := by
  cases event with
  | useSettings hasAuthToken => exact kept.useSettings hasAuthToken
  | loadSettings hasAuthToken => exact kept.loadSettings hasAuthToken
  | edit field value => exact kept.edit field value clear.1 clear.2
  | saveSettings => exact kept.saveSettings
  | resumeSave save => exact kept.resumeSave save
  | awaitLoad save => exact kept.awaitLoad save
  | sendSave save => exact kept.sendSave save
  | storeSave save => exact kept.storeSave save
  | receiveSave save => exact kept.receiveSave save
  | resumeLoad load => exact kept.resumeLoad load
  | sendLoad load => exact kept.sendLoad load
  | answerLoad load => exact kept.answerLoad load
  | receiveLoad load changes => exact kept.receiveLoad load changes clear

end

/-! ### Runs that lose no edit -/

/-- A client that has just been opened. -/
def start (wire : Wire Value) (settings server : Values Value)
    (legacyOverlap : Option (Value wire.imeKeyboardOverlapPx)) : Client wire :=
  { settings := settings, server := server, legacyOverlap := legacyOverlap }

theorem start_kept {settings server : Values Value}
    {legacyOverlap : Option (Value wire.imeKeyboardOverlapPx)} :
    (start wire settings server legacyOverlap).Kept where
  chained := JobChain.ordered_nil
  predecessors := fun _ _ found => by cases found
  tail := fun _ isTail => by cases isTail
  idle := fun _ _ mem => absurd mem not_mem_nil
  unloaded := fun _ => rfl
  unedited := fun _ _ => rfl
  echo := fun isLoaded => by cases isLoaded
  keeps := fun _ _ isLast => by cases isLast
  here := fun _ _ isLast => by cases isLast
  payloads := fun _ _ found => by cases found
  serverBound := Nat.le_refl 0
  server := fun _ _ _ isLast => by cases isLast
  coming := fun _ => Or.inl rfl
  tailRevision := fun _ isTail => by cases isTail
  tailComing := fun cur => by cases cur
  requests := fun _ mem => absurd mem not_mem_nil
  answers := fun _ mem => absurd mem not_mem_nil
  ordered := List.Pairwise.nil
  putsBound := fun _ mem => absurd mem not_mem_nil

theorem Client.Kept.safe (kept : client.Kept) : client.Safe where
  here := kept.here
  there := fun saved ended => kept.server_of_allSaved saved fun phase mem => by
    have isOver := ended phase mem
    cases phase with
    | ended => rfl
    | _ => cases isOver
  single := fun i other first second atIndex atOther firstFlies secondFlies =>
    kept.chained.unique atIndex atOther (SavePhase.begun_of_inFlight firstFlies).1
      (SavePhase.begun_of_inFlight secondFlies).1 (SavePhase.begun_of_inFlight firstFlies).2
      (SavePhase.begun_of_inFlight secondFlies).2
  ordered := kept.ordered

/-- In a run in which every event is clear no edit is lost. -/
theorem edits_survive [DecidableEq Field] {settings server : Values Value}
    {legacyOverlap : Option (Value wire.imeKeyboardOverlapPx)} {events : List (Event Value)}
    (clear : Runs.Careful Client.after Client.Clear (start wire settings server legacyOverlap)
      events) :
    (Runs.run Client.after (start wire settings server legacyOverlap) events).Safe :=
  (clear.kept Client.Kept Client.Kept.after start_kept).safe

/-! ### A run that does, and one that does not -/

inductive Setting where
  | shell
  | imeKeyboardOverlapPx
  deriving DecidableEq

/-- Values that go over the wire as they are. An unknown overlap is 0. -/
def plainWire : Wire fun _ : Setting => Nat where
  sending := fun _ => .sent
  encode := fun _ value => value
  put := fun payload stored field => (payload field).getD (stored field)
  get := id
  normalize := fun _ value => value
  imeKeyboardOverlapPx := .imeKeyboardOverlapPx
  isNull := fun value => value = 0

theorem plainWire_keeps_shell (value : Nat) : plainWire.Keeps .shell value where
  sent := rfl
  put := fun payload stored given => by
    dsimp only [plainWire]
    rw [given]
    rfl
  get := fun _ same => same
  normalize := rfl
  known := nofun

/-- A client of a server on which the shell is 7, with the settings loaded. -/
def opened : List (Event fun _ : Setting => Nat) :=
  [.useSettings true, .sendLoad 0, .answerLoad 0, .receiveLoad 0 2]

def editedAndSaved : List (Event fun _ : Setting => Nat) :=
  opened ++ [.edit .shell 1, .saveSettings, .awaitLoad 0, .sendSave 0, .storeSave 0, .receiveSave 0]

def freshClient : Client plainWire := start plainWire (fun _ => 0) (fun _ => 7) none

theorem edits_survive_editedAndSaved : (Runs.run Client.after freshClient editedAndSaved).Safe ∧
      (Runs.run Client.after freshClient editedAndSaved).server .shell = 1 := by
  refine ⟨edits_survive ⟨trivial, trivial, trivial, ?_, ⟨rfl, plainWire_keeps_shell 1⟩, trivial,
    trivial, trivial, trivial, trivial, trivial⟩, by decide +kernel⟩
  intro _ _ _ _ isLoaded
  cases isLoaded

/-- The load waits for the save of the first edit but not for that of a second one, and is answered
before it. -/
def loadedBetween : List (Event fun _ : Setting => Nat) :=
  opened ++ [.edit .shell 1, .saveSettings, .awaitLoad 0, .sendSave 0, .loadSettings true,
    .edit .shell 2, .saveSettings, .storeSave 0, .receiveSave 0, .resumeSave 1, .resumeLoad 1,
    .awaitLoad 1, .sendLoad 1, .sendSave 1, .answerLoad 1, .storeSave 1, .receiveSave 1,
    .receiveLoad 1 1]

theorem edit_overwritten : ¬ ∀ events, (Runs.run Client.after freshClient events).Safe := by
  intro safe
  have last : (2 : Nat) ∈ (Runs.run Client.after freshClient loadedBetween).lastEdit .shell := by
    decide +kernel
  exact absurd ((safe loadedBetween).here .shell 2 last) (by decide +kernel)

end Dinotty.SettingsClient
