/-
This file is the ledger of the processes that a crash may leave behind, and the sweep of those whose
owner is gone. The system may answer each probe as it likes.
-/

import Dinotty.Foundation.KeyMap
import Dinotty.Foundation.Runs

namespace Dinotty.Session.PidLedger

open List

/-! ### The ledger file -/

def schemaVersion : Nat := 1

structure ProcessIdentity where
  pid : Nat
  startTime : Nat
  deriving DecidableEq

structure LedgerEntry where
  paneId : String
  pid : Nat
  pgid : Nat
  procStartTime : Nat
  spawnedAt : Nat
  owner : ProcessIdentity
  deriving DecidableEq

structure Ledger where
  version : Nat := schemaVersion
  entries : List LedgerEntry := []
  deriving DecidableEq

inductive LedgerFile where
  | absent
  /-- The file cannot be read, or does not parse. -/
  | corrupt
  | parsed (ledger : Ledger)
  deriving DecidableEq

/-- An unreadable ledger, or one of another schema, counts as empty. -/
def readLedger : LedgerFile → Ledger
  | .absent | .corrupt => {}
  | .parsed ledger => if ledger.version = schemaVersion then ledger else {}

/-! ### The system -/

inductive Signal where
  | term
  | kill
  deriving DecidableEq

/-- Why the system refuses a signal. -/
inductive OsError where
  | noSuchProcess
  | notPermitted
  | other (text : String)
  deriving DecidableEq

def OsError.text : OsError → String
  | .noSuchProcess => "No such process (os error 3)"
  | .notPermitted => "Operation not permitted (os error 1)"
  | .other text => text

inductive Probe where
  | alive
  | dead
  | unknown (error : String)
  deriving DecidableEq

/-- What a sweep has asked and done, with the answers. -/
inductive Event where
  | groupProbe (pgid : Nat) (probe : Probe)
  | identityProbe (pid startTime : Nat) (probe : Probe)
  | snapshot (pgid : Nat) (answer : Except String (KeyMap Nat Nat))
  /-- A signal to a process, or to the group of a negative target. -/
  | sent (target : Int) (signal : Signal) (answer : Except OsError Unit)

/-- The system answers as it likes, given what has happened before. -/
structure System where
  probe : List Event → Int → Except OsError Unit
  startTime : List Event → Nat → Option Nat
  snapshotGroup : List Event → Nat → Except String (KeyMap Nat Nat)
  send : List Event → Int → Signal → Except OsError Unit
  lastError : List Event → String

variable (system : System)

def System.after (past : List Event) : System where
  probe         := fun events => system.probe (past ++ events)
  startTime     := fun events => system.startTime (past ++ events)
  snapshotGroup := fun events => system.snapshotGroup (past ++ events)
  send          := fun events => system.send (past ++ events)
  lastError     := fun events => system.lastError (past ++ events)

/-- The numbers that a process or a group may have for the system. -/
def maxPid : Nat := 2 ^ 31 - 1

def System.probeKill (target : Int) : Probe :=
  match system.probe [] target with
  | .ok () => .alive
  | .error .noSuchProcess => .dead
  | .error .notPermitted => .alive
  | .error (.other text) => .unknown text

def System.processProbe (pid : Nat) : Probe :=
  if pid ≤ maxPid then system.probeKill pid else .dead

def System.groupProbe (pgid : Nat) : Probe :=
  if pgid ≤ maxPid then system.probeKill (-pgid) else .dead

/-- Whether the process is there that had started at the time. -/
def System.identityProbe (pid expectedStartTime : Nat) : Probe :=
  match system.processProbe pid with
  | .alive =>
      match system.startTime [] pid with
      | some actual => if actual = expectedStartTime then .alive else .dead
      | none => .unknown (system.lastError [])
  | other => other

/-- Send a signal to a process or a group whose number may be too large for the system. -/
def System.signal (system : System) (name : String) (number : Nat) (target : Int)
    (signal : Signal) : List Event × Except OsError Unit :=
  if number ≤ maxPid then
    let answer := system.send [] target signal
    ([.sent target signal answer], answer)
  else ([], .error (.other (name ++ " exceeds i32")))

def System.signalGroup (pgid : Nat) (signal : Signal) : List Event × Except OsError Unit :=
  system.signal "pgid" pgid (-pgid) signal

def System.signalProcess (pid : Nat) (signal : Signal) : List Event × Except OsError Unit :=
  system.signal "pid" pid pid signal

theorem System.signal_cases (name : String) (number : Nat) (target : Int) (signal : Signal) :
    (∃ answer, system.signal name number target signal = ([.sent target signal answer], answer)) ∨
    ∃ text, system.signal name number target signal = ([], .error (.other text)) := by
  rw [System.signal]
  split
  · exact .inl ⟨_, rfl⟩
  · exact .inr ⟨_, rfl⟩

/-! ### Sweeping -/

inductive SweepOutcome where
  | swept
  | skipped (reason : String)
  deriving DecidableEq

/-- Kill the members of a group one by one, each after one more look at who it is, answering why
that has been given up. -/
def killMembers (system : System) : List (Nat × Nat) → List Event × Option String
  | [] => ([], none)
  | (pid, startTime) :: rest =>
      let probe := system.identityProbe pid startTime
      let probed := [Event.identityProbe pid startTime probe]
      match probe with
      | .dead =>
          let (events, failure) := killMembers (system.after probed) rest
          (probed ++ events, failure)
      | .unknown error => (probed, some ("re-verify pid " ++ toString pid ++ ": " ++ error))
      | .alive =>
          let (sent, answer) := (system.after probed).signalProcess pid .kill
          let goOn :=
            let (events, failure) := killMembers (system.after (probed ++ sent)) rest
            (probed ++ sent ++ events, failure)
          match answer with
          | .ok () | .error .noSuchProcess => goOn
          | .error error =>
              (probed ++ sent, some ("KILL pid " ++ toString pid ++ ": " ++ error.text))

/-- The last look at the group. -/
def afterKill (pgid : Nat) : List Event × SweepOutcome :=
  let probe := system.groupProbe pgid
  ([.groupProbe pgid probe], match probe with
    | .dead => .swept
    | .alive => .skipped "process group still alive after KILL"
    | .unknown error => .skipped ("post-KILL group probe: " ++ error))

/-- What follows on the request to end, given the members that the group had before. -/
def afterTerm (pgid : Nat) (before : KeyMap Nat Nat) : List Event × SweepOutcome :=
  let probe := system.groupProbe pgid
  let probed := [Event.groupProbe pgid probe]
  match probe with
  | .dead => (probed, .swept)
  | .unknown error => (probed, .skipped ("post-TERM group probe: " ++ error))
  | .alive =>
      let answer := (system.after probed).snapshotGroup [] pgid
      let seen := probed ++ [Event.snapshot pgid answer]
      match answer with
      | .error error => (seen, .skipped ("post-TERM snapshot: " ++ error))
      | .ok after =>
          let members := after.entries.map fun member => (member.1, member.2)
          if members = [] then (seen, .skipped "live group had no verifiable members")
          else
            match members.find? fun (pid, startTime) => before.lookup pid ≠ some startTime with
            | some (pid, _) =>
                (seen, .skipped ("group member identity changed after TERM: pid " ++ toString pid))
            | none =>
                let (killed, failure) := killMembers (system.after seen) members
                match failure with
                | some reason => (seen ++ killed, .skipped reason)
                | none =>
                    let (last, outcome) := afterKill (system.after (seen ++ killed)) pgid
                    (seen ++ killed ++ last, outcome)

def sweepEntry (entry : LedgerEntry) : List Event × SweepOutcome :=
  let probe := system.groupProbe entry.pgid
  let probed := [Event.groupProbe entry.pgid probe]
  match probe with
  | .dead => (probed, .swept)
  | .unknown error => (probed, .skipped ("group probe: " ++ error))
  | .alive =>
      let answer := (system.after probed).snapshotGroup [] entry.pgid
      let seen := probed ++ [Event.snapshot entry.pgid answer]
      match answer with
      | .error error => (seen, .skipped ("group snapshot: " ++ error))
      | .ok before =>
          if before.lookup entry.pid ≠ some entry.procStartTime then
            (seen, .skipped "recorded process identity mismatch")
          else
            let (sent, answer) := (system.after seen).signalGroup entry.pgid .term
            match answer with
            | .error .noSuchProcess => (seen ++ sent, .swept)
            | .error error => (seen ++ sent, .skipped ("TERM failed: " ++ error.text))
            | .ok () =>
                let (later, outcome) := afterTerm (system.after (seen ++ sent)) entry.pgid before
                (seen ++ sent ++ later, outcome)

/-- What becomes of an entry: what its owner's probe answers, what is done and whether it is kept. -/
structure Fate where
  entry : LedgerEntry
  owner : Probe
  events : List Event
  outcome : Option SweepOutcome

/-- Only an entry that has been swept is dropped. -/
def Fate.kept (fate : Fate) : Bool := fate.outcome ≠ some .swept

def fateOf (entry : LedgerEntry) : Fate :=
  let owner := system.identityProbe entry.owner.pid entry.owner.startTime
  let probed := [Event.identityProbe entry.owner.pid entry.owner.startTime owner]
  match owner with
  | .dead =>
      let (events, outcome) := sweepEntry (system.after probed) entry
      { entry, owner, events := probed ++ events, outcome := some outcome }
  | _ => { entry, owner, events := probed, outcome := none }

def sweepEntries (system : System) : List LedgerEntry → List Fate
  | [] => []
  | entry :: rest =>
      let fate := fateOf system entry
      fate :: sweepEntries (system.after fate.events) rest

/-! ### The operations -/

/-- Whether the lock is got and the file written. -/
structure Luck where
  locked : Bool := true
  written : Bool := true

def writeLedger (luck : Luck) (file : LedgerFile) (ledger : Ledger) : LedgerFile :=
  if luck.written then .parsed ledger else file

def addEntry (luck : Luck) (file : LedgerFile) (entry : LedgerEntry) : LedgerFile :=
  if luck.locked then
    let ledger := readLedger file
    writeLedger luck file { ledger with
      entries := (ledger.entries.filter fun other =>
        other.paneId ≠ entry.paneId ∨ other.owner ≠ entry.owner) ++ [entry] }
  else file

def removeEntry (luck : Luck) (file : LedgerFile) (paneId : String) (owner : ProcessIdentity) :
    LedgerFile :=
  if file = .absent then file
  else if luck.locked then
    let ledger := readLedger file
    let left := ledger.entries.filter fun other => other.paneId ≠ paneId ∨ other.owner ≠ owner
    if left.length = ledger.entries.length then file
    else writeLedger luck file { ledger with entries := left }
  else file

/-- The fates of the entries that a sweep comes to. -/
def sweepFates (luck : Luck) (file : LedgerFile) : List Fate :=
  if luck.locked then sweepEntries system (readLedger file).entries else []

def sweep (luck : Luck) (file : LedgerFile) : LedgerFile :=
  if luck.locked then
    let retained := ((sweepFates system luck file).filter (·.kept)).map (·.entry)
    writeLedger luck file { readLedger file with entries := retained }
  else file

inductive Operation where
  | add (luck : Luck) (entry : LedgerEntry)
  | remove (luck : Luck) (paneId : String) (owner : ProcessIdentity)
  | sweep (luck : Luck) (system : System)

def step (file : LedgerFile) : Operation → LedgerFile
  | .add luck entry => addEntry luck file entry
  | .remove luck paneId owner => removeEntry luck file paneId owner
  | .sweep luck system => PidLedger.sweep system luck file

def run (file : LedgerFile) (operations : List Operation) : LedgerFile :=
  Runs.run step file operations

/-! ### Who gets a signal -/

/-- The group has been reported gone: by a probe, or by the request to end. -/
def GroupGone (pgid : Nat) (events : List Event) : Prop :=
  .groupProbe pgid .dead ∈ events ∨ .sent (-pgid) .term (.error .noSuchProcess) ∈ events

/-- The group of the entry has been asked to end after it had the members. -/
def Requested (entry : LedgerEntry) (members : KeyMap Nat Nat) (past : List Event) : Prop :=
  ∃ earlier answer, .snapshot entry.pgid (.ok members) ∈ earlier ∧
    earlier ++ [Event.sent (-entry.pgid) .term answer] <+: past

/-- A request to end goes to the group of the entry once the recorded process has been seen in it,
and a process is killed that had the same start time before the request and has just been found to
have it. -/
def Guarded (entry : LedgerEntry) (past : List Event) : Event → Prop
  | .sent target .term _ =>
      target = -entry.pgid ∧ ∃ members, .snapshot entry.pgid (.ok members) ∈ past ∧
        members.lookup entry.pid = some entry.procStartTime
  | .sent target .kill _ =>
      ∃ (members : KeyMap Nat Nat) (pid startTime : Nat),
        target = pid ∧ Requested entry members past ∧ members.lookup pid = some startTime ∧
          ∃ earlier, past = earlier ++ [.identityProbe pid startTime .alive]
  | _ => True

variable {entry : LedgerEntry} {members : KeyMap Nat Nat} {past : List Event}

theorem Requested.append (requested : Requested entry members past) (later : List Event) :
    Requested entry members (past ++ later) := by
  obtain ⟨earlier, answer, seen, before⟩ := requested
  exact ⟨earlier, answer, seen, before.trans (prefix_append past later)⟩

/-- Only members with the start time that they had are killed. -/
theorem guarded_killMembers {list : List (Nat × Nat)}
    (same : ∀ mem ∈ list, members.lookup mem.1 = some mem.2)
    (requested : Requested entry members past) :
    Runs.Preceded (Guarded entry) past (killMembers system list).1 := by
  induction list generalizing system past with
  | nil => trivial
  | cons mem rest ih =>
    obtain ⟨pid, startTime⟩ := mem
    obtain ⟨here, others⟩ := forall_mem_cons.mp same
    rw [killMembers]
    dsimp only
    generalize system.identityProbe pid startTime = probe
    cases probe with
    | dead => exact ⟨trivial, ih _ others (requested.append _)⟩
    | unknown error => exact ⟨trivial, trivial⟩
    | alive =>
      have cases := (system.after [.identityProbe pid startTime .alive]).signal_cases "pid" pid
        pid .kill
      rw [← System.signalProcess] at cases
      rcases cases with ⟨answer, sent⟩ | ⟨text, refused⟩
      · have guarded : Guarded entry (past ++ [.identityProbe pid startTime .alive])
            (.sent pid .kill answer) :=
          ⟨members, pid, startTime, rfl, requested.append _, here, past, rfl⟩
        have later := fun system => ih system others
          ((requested.append [.identityProbe pid startTime .alive]).append [.sent pid .kill answer])
        simp only [sent]
        rcases answer with (_ | _ | _) | _
        · exact ⟨trivial, guarded, later _⟩
        · exact ⟨trivial, guarded, trivial⟩
        · exact ⟨trivial, guarded, trivial⟩
        · exact ⟨trivial, guarded, later _⟩
      · simp only [refused]
        exact ⟨trivial, trivial⟩

theorem GroupGone.behind {pgid : Nat} {events : List Event} (gone : GroupGone pgid events)
    (earlier : List Event) : GroupGone pgid (earlier ++ events) :=
  gone.imp (mem_append_right earlier) (mem_append_right earlier)

/-- The signals of a sweep go where they may, and the group is gone when it says so. -/
structure Sound (entry : LedgerEntry) (past : List Event) (result : List Event × SweepOutcome) :
    Prop where
  guarded : Runs.Preceded (Guarded entry) past result.1
  gone : result.2 = .swept → GroupGone entry.pgid result.1

theorem Sound.skipped {events : List Event} (guarded : Runs.Preceded (Guarded entry) past events)
    (reason : String) : Sound entry past (events, .skipped reason) :=
  ⟨guarded, nofun⟩

theorem Sound.behind {first later : List Event} {outcome : SweepOutcome}
    (guarded : Runs.Preceded (Guarded entry) past first)
    (sound : Sound entry (past ++ first) (later, outcome)) :
    Sound entry past (first ++ later, outcome) :=
  ⟨Runs.preceded_append.mpr ⟨guarded, sound.guarded⟩, fun swept => (sound.gone swept).behind first⟩

theorem Sound.probed (probe : Probe) (reason : String) :
    Sound entry past ([.groupProbe entry.pgid probe], .skipped reason) :=
  ⟨⟨trivial, trivial⟩, nofun⟩

theorem Sound.dead : Sound entry past ([.groupProbe entry.pgid .dead], .swept) :=
  ⟨⟨trivial, trivial⟩, fun _ => .inl (mem_singleton_self _)⟩

theorem sound_afterKill : Sound entry past (afterKill system entry.pgid) := by
  rw [afterKill]
  generalize system.groupProbe entry.pgid = probe
  cases probe with
  | dead => exact Sound.dead
  | alive | unknown => exact Sound.probed _ _

theorem sound_afterTerm (requested : Requested entry members past) :
    Sound entry past (afterTerm system entry.pgid members) := by
  rw [afterTerm]
  dsimp only
  generalize system.groupProbe entry.pgid = probe
  cases probe with
  | dead => exact Sound.dead
  | unknown error => exact Sound.probed _ _
  | alive =>
    dsimp only
    generalize (system.after _).snapshotGroup [] entry.pgid = answer
    have seen : Runs.Preceded (Guarded entry) past
        [.groupProbe entry.pgid .alive, .snapshot entry.pgid answer] :=
      ⟨trivial, trivial, trivial⟩
    cases answer with
    | error error => exact Sound.skipped seen _
    | ok after =>
      dsimp only
      split
      · exact Sound.skipped seen _
      · split
        · exact Sound.skipped seen _
        next unchanged =>
          have same : ∀ mem ∈ after.entries.map fun mem => (mem.1, mem.2),
              members.lookup mem.1 = some mem.2 := fun mem inside => by
            simpa using find?_eq_none.mp unchanged mem inside
          have killed := guarded_killMembers (system.after
            ([.groupProbe entry.pgid .alive] ++ [.snapshot entry.pgid (.ok after)])) same
            (requested.append [.groupProbe entry.pgid .alive, .snapshot entry.pgid (.ok after)])
          have before := Runs.preceded_append.mpr ⟨seen, killed⟩
          split
          · exact Sound.skipped before _
          · exact Sound.behind before (sound_afterKill _)

theorem sound_sweepEntry (entry : LedgerEntry) (past : List Event) :
    Sound entry past (sweepEntry system entry) := by
  rw [sweepEntry]
  dsimp only
  generalize system.groupProbe entry.pgid = probe
  cases probe with
  | dead => exact Sound.dead
  | unknown error => exact Sound.probed _ _
  | alive =>
    dsimp only
    generalize (system.after _).snapshotGroup [] entry.pgid = answer
    have seen : Runs.Preceded (Guarded entry) past
        [.groupProbe entry.pgid .alive, .snapshot entry.pgid answer] :=
      ⟨trivial, trivial, trivial⟩
    cases answer with
    | error error => exact Sound.skipped seen _
    | ok before =>
      dsimp only
      split
      · exact Sound.skipped seen _
      next recorded =>
        have cases := (system.after ([.groupProbe entry.pgid .alive] ++
          [.snapshot entry.pgid (.ok before)])).signal_cases "pgid" entry.pgid (-entry.pgid) .term
        rw [← System.signalGroup] at cases
        rcases cases with ⟨answer, sent⟩ | ⟨text, refused⟩
        · -- The group has the recorded process in the snapshot that comes just before.
          have guarded : Runs.Preceded (Guarded entry) past ([.groupProbe entry.pgid .alive,
              .snapshot entry.pgid (.ok before)] ++ [.sent (-entry.pgid) .term answer]) :=
            Runs.preceded_append.mpr
              ⟨seen, ⟨rfl, before, by simp, not_not.mp recorded⟩, trivial⟩
          simp only [sent]
          rcases answer with (_ | _ | _) | _
          · exact ⟨guarded, fun _ => .inr (by simp)⟩
          · exact Sound.skipped guarded _
          · exact Sound.skipped guarded _
          · exact Sound.behind guarded (sound_afterTerm _ ⟨past ++ [.groupProbe entry.pgid .alive,
              .snapshot entry.pgid (.ok before)], .ok (), by simp, by simp⟩)
        · simp only [refused]
          exact Sound.skipped (by rwa [append_nil]) _

/-! ### What becomes of the entries -/

/-- An owner that is alive, or not known to be dead, has its entry kept and nobody signalled. An
entry that is dropped has its group gone. -/
structure Fate.Sound (fate : Fate) : Prop where
  asked : ∃ later, fate.events =
    .identityProbe fate.entry.owner.pid fate.entry.owner.startTime fate.owner :: later
  spared : fate.owner ≠ .dead → fate.kept = true ∧ fate.events.length = 1
  gone : fate.kept = false → GroupGone fate.entry.pgid fate.events
  guarded : Runs.Preceded (Guarded fate.entry) [] fate.events

theorem sound_fateOf (entry : LedgerEntry) : (fateOf system entry).Sound := by
  rw [fateOf]
  dsimp only
  generalize system.identityProbe entry.owner.pid entry.owner.startTime = owner
  cases owner with
  | alive | unknown =>
    exact { asked   := ⟨[], rfl⟩
            spared  := fun _ => ⟨rfl, rfl⟩
            gone    := nofun
            guarded := ⟨trivial, trivial⟩ }
  | dead =>
    have sound := sound_sweepEntry (system.after
      [.identityProbe entry.owner.pid entry.owner.startTime .dead]) entry
      [.identityProbe entry.owner.pid entry.owner.startTime .dead]
    exact { asked   := ⟨_, rfl⟩
            spared  := fun alive => absurd rfl alive
            gone    := fun dropped => (sound.gone (by simpa [Fate.kept] using dropped)).behind _
            guarded := ⟨trivial, sound.guarded⟩ }

theorem map_entry_sweepEntries (entries : List LedgerEntry) :
    (sweepEntries system entries).map (·.entry) = entries := by
  induction entries generalizing system with
  | nil => rfl
  | cons entry rest ih =>
    have same : (fateOf system entry).entry = entry := by
      rw [fateOf]
      dsimp only
      split <;> rfl
    rw [sweepEntries, map_cons, ih, same]

theorem sound_sweepEntries (entries : List LedgerEntry) :
    ∀ fate ∈ sweepEntries system entries, fate.Sound := by
  induction entries generalizing system with
  | nil => nofun
  | cons entry rest ih =>
    rw [sweepEntries]
    exact forall_mem_cons.mpr ⟨sound_fateOf system entry, ih _⟩

/-! ### Whose entries change -/

def entriesOf (owner : ProcessIdentity) (file : LedgerFile) : List LedgerEntry :=
  (readLedger file).entries.filter (·.owner = owner)

def entryCount (owner : ProcessIdentity) (paneId : String) (file : LedgerFile) : Nat :=
  ((readLedger file).entries.filter fun entry =>
    entry.paneId = paneId ∧ entry.owner = owner).length

variable {luck : Luck} {file : LedgerFile} {owner : ProcessIdentity} {paneId : String}

theorem version_readLedger (file : LedgerFile) : (readLedger file).version = schemaVersion := by
  cases file with
  | absent => rfl
  | corrupt => rfl
  | parsed ledger =>
    rw [readLedger]
    split
    · assumption
    · rfl

theorem entries_written (file : LedgerFile) (entries : List LedgerEntry) :
    (readLedger (.parsed { readLedger file with entries := entries })).entries = entries := by
  rw [readLedger, if_pos (version_readLedger file)]

theorem readLedger_addEntry (luck : Luck) (file : LedgerFile) (entry : LedgerEntry) :
    addEntry luck file entry = file ∧ ¬ (luck.locked ∧ luck.written) ∨
      (readLedger (addEntry luck file entry)).entries =
        (readLedger file).entries.filter (fun other =>
          other.paneId ≠ entry.paneId ∨ other.owner ≠ entry.owner) ++ [entry] := by
  rw [addEntry]
  split
  · dsimp only
    rw [writeLedger]
    split
    · exact .inr (entries_written file _)
    next unwritten =>
      exact .inl ⟨rfl, fun both => unwritten both.2⟩
  next unlocked =>
    exact .inl ⟨rfl, fun both => unlocked both.1⟩

theorem readLedger_removeEntry (luck : Luck) (file : LedgerFile) (paneId : String)
    (owner : ProcessIdentity) :
    removeEntry luck file paneId owner = file ∨
      (readLedger (removeEntry luck file paneId owner)).entries =
        (readLedger file).entries.filter fun other =>
          other.paneId ≠ paneId ∨ other.owner ≠ owner := by
  rw [removeEntry]
  split
  · exact .inl rfl
  · split
    · dsimp only
      split
      · exact .inl rfl
      · rw [writeLedger]
        split
        · exact .inr (entries_written file _)
        · exact .inl rfl
    · exact .inl rfl

theorem readLedger_sweep (luck : Luck) (file : LedgerFile) : sweep system luck file = file ∨
      (sweepFates system luck file).map (·.entry) = (readLedger file).entries ∧
      (readLedger (sweep system luck file)).entries =
        ((sweepFates system luck file).filter (·.kept)).map (·.entry) := by
  rw [sweep, sweepFates]
  split
  · rw [writeLedger]
    split
    · exact .inr ⟨map_entry_sweepEntries system _, entries_written file _⟩
    · exact .inl rfl
  · exact .inl rfl

/-- `add` and `remove` leave the entries of other owners alone, `add` leaves its owner with one
entry for the pane, and a sweep keeps the entries whose fate it is. -/
def Respects (file : LedgerFile) : Operation → Prop
  | .add luck entry =>
      (∀ owner, owner ≠ entry.owner →
        entriesOf owner (addEntry luck file entry) = entriesOf owner file) ∧
      (luck.locked → luck.written →
        entryCount entry.owner entry.paneId (addEntry luck file entry) = 1)
  | .remove luck paneId owner =>
      ∀ other, other ≠ owner →
        entriesOf other (removeEntry luck file paneId owner) = entriesOf other file
  | .sweep luck system =>
      (PidLedger.sweep system luck file = file ∨
        (sweepFates system luck file).map (·.entry) = (readLedger file).entries ∧
        (readLedger (PidLedger.sweep system luck file)).entries =
          ((sweepFates system luck file).filter (·.kept)).map (·.entry)) ∧
      ∀ fate ∈ sweepFates system luck file, fate.Sound

theorem filter_owner_filter {entries : List LedgerEntry} {other : ProcessIdentity}
    (ne : other ≠ owner) :
    (entries.filter fun entry => entry.paneId ≠ paneId ∨ entry.owner ≠ owner).filter
      (·.owner = other) = entries.filter (·.owner = other) := by
  rw [List.filter_filter]
  refine filter_congr fun entry mem => ?_
  by_cases hers : entry.owner = other
  · simp [hers, ne]
  · simp [hers]

theorem entryCount_added {entries : List LedgerEntry}
    (added : (readLedger file).entries = entries.filter (fun other =>
      other.paneId ≠ entry.paneId ∨ other.owner ≠ entry.owner) ++ [entry]) :
    entryCount entry.owner entry.paneId file = 1 := by
  have left : (entries.filter (fun other =>
      other.paneId ≠ entry.paneId ∨ other.owner ≠ entry.owner)).filter (fun other =>
      other.paneId = entry.paneId ∧ other.owner = entry.owner) = [] := by
    rw [List.filter_filter, filter_eq_nil_iff]
    simp only [decide_eq_true_eq, Bool.and_eq_true]
    exact fun other mem both => both.2.elim (· both.1.1) (· both.1.2)
  rw [entryCount, added, filter_append, left]
  simp

theorem respects (file : LedgerFile) (operation : Operation) : Respects file operation := by
  cases operation with
  | add luck entry =>
    refine ⟨fun owner ne => ?_, fun locked written => ?_⟩
    · rcases readLedger_addEntry luck file entry with ⟨same, -⟩ | added
      · rw [same]
      · have alone : [entry].filter (·.owner = owner) = [] := by simp [Ne.symm ne]
        rw [entriesOf, added, filter_append, filter_owner_filter ne, alone, append_nil]
        rfl
    · rcases readLedger_addEntry luck file entry with ⟨-, failed⟩ | added
      · exact absurd ⟨locked, written⟩ failed
      · exact entryCount_added added
  | remove luck paneId owner =>
    intro other ne
    rcases readLedger_removeEntry luck file paneId owner with same | removed
    · rw [same]
    · rw [entriesOf, removed, filter_owner_filter ne]
      rfl
  | sweep luck system =>
    refine ⟨readLedger_sweep system luck file, ?_⟩
    rw [sweepFates]
    split
    · exact sound_sweepEntries system _
    · nofun

theorem entryCount_le {later : LedgerFile}
    (fewer : (readLedger later).entries.Sublist (readLedger file).entries) :
    entryCount owner paneId later ≤ entryCount owner paneId file :=
  (fewer.filter _).length_le

/-- No operation gives an owner a second entry for a pane. -/
theorem entryCount_step (file : LedgerFile) (op : Operation) (owner : ProcessIdentity)
    (paneId : String) :
    entryCount owner paneId (step file op) ≤ max 1 (entryCount owner paneId file) := by
  cases op with
  | add luck entry =>
    rw [step]
    rcases readLedger_addEntry luck file entry with ⟨same, -⟩ | added
    · rw [same]
      exact Nat.le_max_right _ _
    · by_cases here : entry.paneId = paneId ∧ entry.owner = owner
      · obtain ⟨rfl, rfl⟩ := here
        exact Nat.le_trans (Nat.le_of_eq (entryCount_added added)) (Nat.le_max_left _ _)
      · refine Nat.le_trans ?_ (Nat.le_max_right _ _)
        have alone : [entry].filter (fun other => other.paneId = paneId ∧ other.owner = owner) =
            [] := by simpa using here
        rw [entryCount, added, filter_append, alone, append_nil]
        exact (filter_sublist.filter _).length_le
  | remove luck removedPane remover =>
    refine Nat.le_trans ?_ (Nat.le_max_right _ _)
    rw [step]
    rcases readLedger_removeEntry luck file removedPane remover with same | removed
    · rw [same]
    · exact entryCount_le (removed ▸ filter_sublist)
  | sweep luck system =>
    refine Nat.le_trans ?_ (Nat.le_max_right _ _)
    rw [step]
    rcases readLedger_sweep system luck file with same | ⟨all, kept⟩
    · rw [same]
    · refine entryCount_le ?_
      rw [kept, ← all]
      exact filter_sublist.map _

/-- Whatever the system answers, owners keep to their own entries, nobody comes to have two entries
for a pane, an entry is dropped only when its group has been reported gone, and only those are
signalled that may be. -/
theorem ledger_owned (file : LedgerFile) (operations : List Operation) :
    (∀ owner paneId, entryCount owner paneId (run file operations) ≤
      max 1 (entryCount owner paneId file)) ∧
    ∀ operation, Respects (run file operations) operation := by
  refine ⟨fun owner paneId => ?_, respects (run file operations)⟩
  refine Runs.kept (fun later => entryCount owner paneId later ≤
    max 1 (entryCount owner paneId file)) (fun later operation few => ?_)
    (Nat.le_max_right _ _) operations
  exact Nat.le_trans (entryCount_step later operation owner paneId)
    (Nat.max_le.mpr ⟨Nat.le_max_left _ _, few⟩)

/-! ### An entry that no probe has reported gone -/

def orphan : LedgerEntry where
  paneId        := "p"
  pid           := 10
  pgid          := 10
  procStartTime := 5
  spawnedAt     := 0
  owner         := ⟨2, 1⟩

/-- The group of the entry is there until it is asked to end. -/
def vanishing : System where
  probe         := fun _ target => if target = -10 then .ok () else .error .noSuchProcess
  startTime     := fun _ _ => some 5
  snapshotGroup := fun _ _ => .ok (AList.singleton 10 5)
  send          := fun _ _ _ => .error .noSuchProcess
  lastError     := fun _ => ""

/-- A file may list an owner and a pane twice, and an entry is dropped when the request to end finds
no group. -/
theorem listed_twice_and_dropped_unprobed :
    entryCount orphan.owner "p" (run (.parsed { entries := [orphan, orphan] }) []) = 2 ∧
    run (.parsed { entries := [orphan] }) [.sweep {} vanishing] = .parsed {} ∧
    ∀ fate ∈ sweepFates vanishing {} (.parsed { entries := [orphan] }),
      .groupProbe orphan.pgid .dead ∉ fate.events := by
  refine ⟨by decide +kernel, by decide +kernel, ?_⟩
  have fates : sweepFates vanishing {} (.parsed { entries := [orphan] }) =
      [{ entry   := orphan
         owner   := .dead
         events  := [.identityProbe 2 1 .dead, .groupProbe 10 .alive,
           .snapshot 10 (.ok (AList.singleton 10 5)), .sent (-10) .term (.error .noSuchProcess)]
         outcome := some .swept }] := by
    rfl
  rw [fates]
  simp

end Dinotty.Session.PidLedger
