/-
This file is the store of the shell history and the calls that use it at the same time. A command
stays away once its deletion is complete, in every run in which no call writes an entry that has
been deleted since the call looked.
-/

import Dinotty.Foundation.Runs
import Dinotty.Workspace.Handlers

namespace Dinotty.History

open Interleaving List

/-! ### The history file -/

/-- How often each command has been used. -/
abbrev Entries := KeyMap String Nat

/-- Count a use of a command, if it is one. -/
def bump (entries : Entries) (cmd : List Char) : Entries :=
  if cmd = [] then entries
  else entries.insert (String.ofList cmd) ((entries.lookup (String.ofList cmd)).getD 0 + 1)

/-- A line without the backslash at its end, if it has one. -/
def stripBackslash (line : List Char) : Option (List Char) :=
  if line.getLast? = some '\\' then some line.dropLast else none

/-- A line of zsh, with the command that goes on from the lines before it. -/
def parseZshLine (state : Entries × List Char) (line : List Char) : Entries × List Char :=
  let (entries, continuation) := state
  if continuation ≠ [] then
    match stripBackslash line with
    | some stripped => (entries, continuation ++ '\n' :: stripped)
    | none => (bump entries (Chars.trim (continuation ++ '\n' :: line)), [])
  else
    let raw := if [':', ' '] <+: line then (line.dropWhile (· ≠ ';')).tail else line
    match stripBackslash raw with
    | some stripped => (entries, stripped)
    | none => (bump entries (Chars.trim raw), [])

def parseHistory (shellType : String) (content : List Char) : Entries :=
  if shellType = "zsh" then
    let (entries, continuation) := (Chars.lines content).foldl parseZshLine (∅, [])
    bump entries (Chars.trim continuation)
  else
    (Chars.lines content).foldl (fun entries line => bump entries (Chars.trim line)) ∅

/-! ### The store -/

structure SuggestionItem where
  command : String
  frequency : Nat
  deriving DecidableEq

/-- The entries with the prefix, those used most first, up to the limit. -/
def query (entries : Entries) (commandPrefix : Option String) (limit : Nat) : List SuggestionItem :=
  let named : Entries := match commandPrefix with
    | some text =>
        if text ≠ "" then
          KeyMap.retain (fun (cmd : String) _ => text.toList <+: cmd.toList) entries
        else entries
    | none => entries
  let results := named.entries.map fun entry =>
    ({ command := entry.1, frequency := entry.2 } : SuggestionItem)
  (results.mergeSort fun first second => second.frequency ≤ first.frequency).take limit

/-- What the calls have told, in the order of time. -/
inductive Report where
  | suggestions (items : List SuggestionItem)
  | answer (items : List SuggestionItem)
  | deleted (cmd : String)

def Report.commands : Report → List String
  | .suggestions items | .answer items => items.map (·.command)
  | .deleted _ => []

/-- The store, with a record of what the calls have told, which nothing reads. -/
structure HistoryInner where
  entries : Entries := ∅
  deleted : List String := []
  shellType : String
  reports : List Report := []

/-- What a call has still to do, with what it has read so far. -/
inductive Op where
  | readInitial
  | readReload
  | filterDeleted (entries : Entries)
  | replace (entries : Entries)
  | checkDeleted (cmd : String)
  | count (cmd : String)
  | markDeleted (cmd : String)
  | removeEntry (cmd : String)
  /-- Tell the first entries, at the end of a deletion if it is one. -/
  | broadcastTop (deleting : Option String)
  | query (commandPrefix : Option String) (limit : Nat)

/-- The content of the history file when it is read, if it can be. -/
abbrev Choice := Option (List Char)

/-- What a call does up to its next lock. -/
def exec : Exec HistoryInner Op Choice := fun _ content op rest store =>
  match op with
  | .readInitial =>
      some (store, match content with
        | some content => .replace (parseHistory store.shellType content) :: rest
        | none => rest)
  | .readReload =>
      some (store, match content with
        | some content => .filterDeleted (parseHistory store.shellType content) :: rest
        | none => rest)
  | .filterDeleted entries =>
      some (store, .replace (store.deleted.foldl (fun entries cmd => entries.erase cmd) entries) ::
        rest)
  | .replace entries => some ({ store with entries }, .broadcastTop none :: rest)
  | .checkDeleted cmd => some (store, if cmd ∈ store.deleted then rest else .count cmd :: rest)
  | .count cmd =>
      some ({ store with entries := bump store.entries cmd.toList }, .broadcastTop none :: rest)
  | .markDeleted cmd =>
      some ({ store with deleted := cmd :: store.deleted }, .removeEntry cmd :: rest)
  | .removeEntry cmd =>
      some ({ store with entries := store.entries.erase cmd }, .broadcastTop (some cmd) :: rest)
  | .broadcastTop deleting =>
      some ({ store with
        reports := store.reports ++ .suggestions (History.query store.entries none 20) ::
          (deleting.map Report.deleted).toList }, rest)
  | .query commandPrefix limit =>
      some ({ store with
        reports := store.reports ++
          [.answer (History.query store.entries commandPrefix limit)] }, rest)

inductive Call where
  | loadInitial
  | reloadIncremental
  | pushRealtime (command : String)
  | delete (command : String)
  | getHistory (commandPrefix : Option String) (limit : Option Nat)

def Call.program : Call → List Op
  | .loadInitial => [.readInitial]
  | .reloadIncremental => [.readReload]
  | .pushRealtime command =>
      let cmd := Chars.trim command.toList
      if cmd = [] then [] else [.checkDeleted (String.ofList cmd)]
  | .delete command => [.markDeleted command]
  | .getHistory commandPrefix limit => [.query commandPrefix (min (limit.getD 20) 100)]

abbrev World := Pool HistoryInner Op

def World.init (shellType : String) : World := { shared := { shellType }, threads := [] }

def World.run (world : World) (events : List (Event Call Choice)) : World :=
  Runs.run (Pool.after Call.program exec) world events

/-! ### Deleted commands -/

/-- No report after the end of a deletion lists the command. -/
def StaysDeleted (reports : List Report) : Prop :=
  ∀ earlier cmd later, reports = earlier ++ .deleted cmd :: later →
    ∀ report ∈ later, cmd ∉ report.commands

/-- A call that is about to write entries writes none that is deleted. -/
def Careful (store : HistoryInner) : Op → Prop
  | .count cmd => cmd ∉ store.deleted
  | .replace entries => ∀ cmd ∈ store.deleted, cmd ∉ entries
  | _ => True

instance (store : HistoryInner) : ∀ op, Decidable (Careful store op)
  | .count cmd => inferInstanceAs (Decidable (cmd ∉ store.deleted))
  | .replace entries => inferInstanceAs (Decidable (∀ cmd ∈ store.deleted, cmd ∉ entries))
  | .readInitial | .readReload | .filterDeleted _ | .checkDeleted _ | .markDeleted _
  | .removeEntry _ | .broadcastTop _ | .query _ _ => isTrue trivial

def CarefulRun (world : World) (events : List (Event Call Choice)) : Prop :=
  Runs.Careful (Pool.after Call.program exec) (fun world => world.Allows Careful) world events

instance (world : World) (events : List (Event Call Choice)) :
    Decidable (CarefulRun world events) :=
  inferInstanceAs (Decidable (Runs.Careful _ _ _ _))

def Gone (store : HistoryInner) (cmd : String) : Prop := cmd ∈ store.deleted ∧ cmd ∉ store.entries

def Relies (store : HistoryInner) : Op → Prop
  | .removeEntry cmd => cmd ∈ store.deleted
  | .broadcastTop (some cmd) => Gone store cmd
  | _ => True

variable {entries : Entries}

theorem mem_bump {cmd : List Char} {other : String} (mem : other ∈ bump entries cmd) :
    other = String.ofList cmd ∨ other ∈ entries := by
  unfold bump at mem
  split at mem
  · exact .inr mem
  · exact AList.mem_insert entries |>.mp mem

theorem mem_query {commandPrefix : Option String} {limit : Nat} {cmd : String}
    (listed : cmd ∈ (query entries commandPrefix limit).map (·.command)) : cmd ∈ entries := by
  obtain ⟨item, mem, rfl⟩ := mem_map.mp listed
  have inResults := (mergeSort_perm _ _).mem_iff.mp (mem_of_mem_take mem)
  obtain ⟨entry, inNamed, rfl⟩ := mem_map.mp inResults
  have part : entry ∈ entries.entries := by
    split at inNamed
    · split at inNamed
      · exact (mem_filter.mp inNamed).1
      · exact inNamed
    · exact inNamed
  exact mem_map.mpr ⟨entry, part, rfl⟩

theorem mem_query_of_mem {limit : Nat} (few : entries.size ≤ limit) {cmd : String}
    (held : cmd ∈ entries) :
    cmd ∈ (query entries none limit).map (·.command) := by
  obtain ⟨entry, mem, rfl⟩ := mem_map.mp held
  have short : (entries.entries.map fun entry =>
      ({ command := entry.1, frequency := entry.2 } : SuggestionItem)).length ≤ limit := by
    rw [length_map]
    exact few
  rw [query, take_of_length_le (le_of_eq_of_le (length_mergeSort _) short)]
  refine mem_map.mpr ⟨{ command := entry.1, frequency := entry.2 }, ?_, rfl⟩
  exact (mergeSort_perm _ _).mem_iff.mpr (mem_map.mpr ⟨entry, mem, rfl⟩)

/-- What no careful event takes back: commands that are gone, and their record. -/
structure Kept (world : World) : Prop where
  relies : world.Holds Relies
  gone : ∀ cmd, Report.deleted cmd ∈ world.shared.reports → Gone world.shared cmd
  stays : StaysDeleted world.shared.reports

theorem StaysDeleted.append {reports : List Report} (stays : StaysDeleted reports)
    {report : Report} (silent : ∀ cmd, Report.deleted cmd ∈ reports → cmd ∉ report.commands) :
    StaysDeleted (reports ++ [report]) := by
  intro earlier cmd later same other mem
  rcases eq_nil_or_concat later with rfl | ⟨before, last, rfl⟩
  · cases mem
  · rw [concat_eq_append, ← cons_append, ← append_assoc] at same
    obtain ⟨sameReports, sameLast⟩ := append_inj' same rfl
    rw [concat_eq_append, mem_append] at mem
    rcases mem with inBefore | isLast
    · exact stays earlier cmd before sameReports other inBefore
    · obtain rfl := mem_singleton.mp isLast
      obtain rfl := cons.inj sameLast |>.1
      refine silent cmd ?_
      rw [sameReports]
      simp

variable {next : HistoryInner}

theorem Relies.frame {store : HistoryInner} (deleted : ∀ cmd ∈ store.deleted, cmd ∈ next.deleted)
    (entries : ∀ cmd, Gone store cmd → cmd ∉ next.entries) {op : Op} (relies : Relies store op) :
    Relies next op := by
  cases op with
  | removeEntry cmd => exact deleted cmd relies
  | broadcastTop deleting =>
    cases deleting with
    | none => trivial
    | some cmd => exact ⟨deleted cmd relies.1, entries cmd relies⟩
  | _ => trivial

/-- A careful call keeps the deleted commands, and gives no entry to and tells of no command that is
gone. -/
structure Steps (store next : HistoryInner) (rest ops : List Op) : Prop where
  deleted : ∀ cmd ∈ store.deleted, cmd ∈ next.deleted
  entries : ∀ cmd, Gone store cmd → cmd ∉ next.entries
  fresh : ∀ op ∈ ops, op ∈ rest ∨ Relies next op
  reports : next.reports = store.reports ∨ ∃ items deleting,
    next.reports = store.reports ++ items :: (deleting.map Report.deleted).toList ∧
      (∀ cmd, items ≠ .deleted cmd) ∧ (∀ cmd ∈ items.commands, cmd ∈ store.entries) ∧
      ∀ cmd, deleting = some cmd → Gone next cmd

theorem steps_of_exec {i : Nat} {content : Choice} {op : Op} {rest ops : List Op}
    {store : HistoryInner} (relies : Relies store op) (careful : Careful store op)
    (ran : exec i content op rest store = some (next, ops)) :
    Steps store next rest ops := by
  have quiet : ∀ {later : List Op}, (∀ other ∈ later, other ∈ rest ∨ Relies store other) →
      Steps store store rest later := fun fresh =>
    ⟨fun _ mem => mem, fun _ gone => gone.2, fresh, .inl rfl⟩
  have put : ∀ {next : HistoryInner} {first : Op}, Relies next first →
      ∀ other ∈ first :: rest, other ∈ rest ∨ Relies next other := by
    intro next first holds other mem
    rcases mem_cons.mp mem with rfl | later
    · exact .inr holds
    · exact .inl later
  cases op with
  | readInitial | readReload =>
    cases ran
    cases content with
    | none => exact quiet fun _ mem => .inl mem
    | some content => exact quiet (put trivial)
  | filterDeleted entries =>
    cases ran
    exact quiet (put trivial)
  | replace entries =>
    cases ran
    exact ⟨fun _ mem => mem, fun cmd gone => careful cmd gone.1, put trivial, .inl rfl⟩
  | checkDeleted cmd =>
    obtain ⟨rfl, rfl⟩ := Prod.mk.inj (Option.some.inj ran)
    by_cases mem : cmd ∈ store.deleted
    · rw [if_pos mem]
      exact quiet fun _ mem => .inl mem
    · rw [if_neg mem]
      exact quiet (put trivial)
  | count cmd =>
    cases ran
    refine ⟨fun _ mem => mem, fun other gone held => ?_, put trivial, .inl rfl⟩
    rcases mem_bump held with rfl | before
    · rw [String.ofList_toList] at gone
      exact careful gone.1
    · exact gone.2 before
  | markDeleted cmd =>
    cases ran
    exact ⟨fun _ mem => mem_cons_of_mem cmd mem, fun _ gone => gone.2,
      put (mem_cons_self), .inl rfl⟩
  | removeEntry cmd =>
    cases ran
    refine ⟨fun _ mem => mem, fun other gone held => ?_, put ⟨relies, fun held => ?_⟩, .inl rfl⟩
    · exact gone.2 (AList.mem_erase.mp held).2
    · exact (AList.mem_erase.mp held).1 rfl
  | broadcastTop deleting =>
    cases ran
    refine ⟨fun _ mem => mem, fun _ gone => gone.2, fun _ mem => .inl mem,
      .inr ⟨_, deleting, rfl, nofun, fun cmd listed => mem_query listed, ?_⟩⟩
    rintro cmd rfl
    exact relies
  | query commandPrefix limit =>
    cases ran
    exact ⟨fun _ mem => mem, fun _ gone => gone.2, fun _ mem => .inl mem,
      .inr ⟨_, none, rfl, nofun, fun cmd listed => mem_query listed, nofun⟩⟩

variable {world : World}

theorem Kept.request (kept : Kept world) (call : Call) : Kept (world.spawn call.program) := by
  refine ⟨kept.relies.spawn fun op mem => ?_, kept.gone, kept.stays⟩
  cases call with
  | pushRealtime command =>
    rw [Call.program] at mem
    split at mem
    · cases mem
    · obtain rfl := mem_singleton.mp mem
      trivial
  | _ =>
    obtain rfl := mem_singleton.mp mem
    trivial

/-- A record that a careful step extends still has no deleted command behind its deletion. -/
theorem Kept.stays_of_steps (kept : Kept world) {rest ops : List Op}
    (steps : Steps world.shared next rest ops) :
    (∀ cmd, Report.deleted cmd ∈ next.reports → Gone next cmd) ∧ StaysDeleted next.reports := by
  have gone : ∀ cmd, Report.deleted cmd ∈ world.shared.reports → Gone next cmd := fun cmd mem =>
    ⟨steps.deleted cmd (kept.gone cmd mem).1, steps.entries cmd (kept.gone cmd mem)⟩
  rcases steps.reports with same | ⟨items, deleting, same, noEnd, held, ends⟩
  · rw [same]
    exact ⟨gone, kept.stays⟩
  · have told : StaysDeleted (world.shared.reports ++ [items]) :=
      kept.stays.append fun cmd mem listed => (kept.gone cmd mem).2 (held cmd listed)
    rw [same]
    cases deleting with
    | none =>
      refine ⟨fun cmd mem => ?_, told⟩
      rcases mem_append.mp mem with earlier | last
      · exact gone cmd earlier
      · exact absurd (mem_singleton.mp last).symm (noEnd cmd)
    | some deleted =>
      constructor
      · intro cmd mem
        rcases mem_append.mp mem with earlier | last
        · exact gone cmd earlier
        · rcases mem_cons.mp last with isItems | isEnd
          · exact absurd isItems.symm (noEnd cmd)
          · obtain rfl := Report.deleted.inj (mem_singleton.mp isEnd)
            exact ends cmd rfl
      · have ended : StaysDeleted (world.shared.reports ++ [items] ++ [.deleted deleted]) :=
          told.append fun _ _ => not_mem_nil
        rwa [append_assoc] at ended

theorem Kept.step {next : World} (kept : Kept world) {i : Nat} {content : Choice}
    (careful : ∀ op rest, world.threads[i]? = some (op :: rest) → Careful world.shared op)
    (done : world.step exec i content = some next) : Kept next := by
  obtain ⟨op, rest, ops, held, ran, -⟩ := Pool.step_cases done
  have steps : ∀ op rest ops, world.threads[i]? = some (op :: rest) →
      Relies world.shared op → exec i content op rest world.shared = some (next.shared, ops) →
      Steps world.shared next.shared rest ops := by
    intro op rest ops held relies ran
    exact steps_of_exec relies (careful op rest held) ran
  have mine := steps op rest ops held
    (kept.relies _ (mem_of_getElem? held) op mem_cons_self) ran
  obtain ⟨gone, stays⟩ := kept.stays_of_steps mine
  refine ⟨kept.relies.step done (fun other => Relies.frame mine.deleted mine.entries) ?_, gone,
    stays⟩
  intro op rest ops held relies ran
  exact (steps op rest ops held relies ran).fresh

/-- A deleted command stays away in every run in which the calls are careful. -/
theorem deleted_history_stays (shellType : String) (events : List (Event Call Choice))
    (careful : CarefulRun (World.init shellType) events) :
    StaysDeleted ((World.init shellType).run events).shared.reports := by
  have start : Kept (World.init shellType) := by
    refine ⟨nofun, nofun, fun earlier cmd later same => ?_⟩
    have length := congrArg List.length same
    simp [World.init] at length
  refine (careful.kept Kept (fun world event kept allowed => ?_) start).stays
  exact Pool.after_kept kept (fun call _ => kept.request call)
    fun index content next same done => kept.step (fun op rest => (same ▸ allowed).apply) done

def pushThenDelete : List (Event Call Choice) :=
  [.request (.pushRealtime "ls"), .step 0 none, .step 0 none, .request (.delete "ls"),
    .step 1 none, .step 1 none, .step 1 none]

/-- A push that goes on only after the deletion. -/
def pushAcrossDelete : List (Event Call Choice) :=
  [.request (.pushRealtime "ls"), .step 0 none, .request (.delete "ls"), .step 1 none,
    .step 1 none, .step 1 none, .step 0 none, .step 0 none]

theorem deleted_history_stays_example :
    StaysDeleted ((World.init "bash").run pushThenDelete).shared.reports :=
  deleted_history_stays "bash" pushThenDelete (by decide +kernel)

/-- The deleted command is suggested again. -/
theorem deleted_command_returns :
    ¬StaysDeleted ((World.init "bash").run pushAcrossDelete).shared.reports := by
  intro stays
  have reports : ((World.init "bash").run pushAcrossDelete).shared.reports =
      [.suggestions (query ∅ none 20)] ++
        .deleted "ls" :: [.suggestions (query (bump ∅ "ls".toList) none 20)] := rfl
  exact stays _ "ls" _ reports _ (mem_singleton_self _)
    (mem_query_of_mem (by decide +kernel) (by decide +kernel))

end Dinotty.History
