/-
This file runs commands in a pane for agents. It proves what a call can come to, and in which runs
every call answers with what its own command has come to.
-/

import Dinotty.Foundation.Chars
import Dinotty.Foundation.Runs
import Dinotty.Screen.Commands

namespace Dinotty.Screen

open List

/-! ### The tracking of a command -/

namespace VirtualScreen

variable {Parser : Type}

def beginCommandTracking (vs : VirtualScreen Parser) : VirtualScreen Parser :=
  { vs with
    commandState   := .commandStart
    pendingCommand := some { outputBuf := [] } }

/-- Give up the command that is tracked, answering its output. -/
def finishCommandTracking (vs : VirtualScreen Parser) : List Char × VirtualScreen Parser :=
  ((vs.pendingCommand.map fun pending => fromUtf8Lossy pending.outputBuf).getD [],
    { vs with
      commandState   := .idle
      pendingCommand := none })

end VirtualScreen

/-- The characters of names before and after the at sign of a prompt. -/
def isPromptNameChar (c : Char) : Bool := c.isAlphanum || c = '_' || c = '.' || c = '-'

/-- Whether a text ends in one of the marks, with a space at most behind it. -/
def endsInMark (marks : List Char) (text : List Char) : Bool :=
  match text.reverse with
  | ' ' :: c :: front => c ∈ marks && '\n' ∉ front
  | c :: front => c ∈ marks && '\n' ∉ front
  | [] => false

/-- `^[#$%>] ?$` -/
def isBarePrompt (line : List Char) : Bool :=
  match line with
  | [c] | [c, ' '] => c ∈ ['#', '$', '%', '>']
  | _ => false

def behindName (line : List Char) : Option (List Char) :=
  match line.span isPromptNameChar with
  | (_ :: _, '@' :: rest) => some rest
  | _ => none

/-- `^[a-zA-Z0-9_.\-]+@[a-zA-Z0-9_.\-]+[:~].*[$#] ?$` -/
def isHostPrompt (line : List Char) : Bool :=
  match (behindName line).map (List.span isPromptNameChar) with
  | some (_ :: _, c :: rest) => (c = ':' || c = '~') && endsInMark ['$', '#'] rest
  | _ => false

/-- `^[a-zA-Z0-9_.\-]+@.*\$ ?$` -/
def isDollarPrompt (line : List Char) : Bool := (behindName line).any (endsInMark ['$'])

def isPrompt (line : List Char) : Bool :=
  isBarePrompt line || isHostPrompt line || isDollarPrompt line

def trimEnd (text : List Char) : List Char := (text.reverse.dropWhile Chars.isWhitespace).reverse

namespace VirtualScreen

variable {Parser : Type}

def cursorLine (vs : VirtualScreen Parser) : Option (List Char) :=
  if vs.active.cursor.row ≥ vs.active.rows then none
  else
    (vs.active.cells[vs.active.cursor.row]?).map fun row =>
      (row.take (vs.active.cursor.col + 1)).map fun cell =>
        if cell.ch = nul then ' ' else cell.ch

/-- Take a prompt at the cursor for the end of the command. -/
def detectPrompt (vs : VirtualScreen Parser) : Option (CommandResult × VirtualScreen Parser) :=
  if vs.cursorLine.any fun line => isPrompt (trimEnd line) then
    some ({ exitCode := -1, method := "prompt_detection" },
      { vs with
        commandState   := .idle
        pendingCommand := none })
  else none

end VirtualScreen

/-- The screen that a panic in a read leaves behind: nothing has been drained. -/
def VirtualScreen.feedPartly (vte : Vte) (width : Char → Option Nat) :
    VirtualScreen vte.Parser → List UInt8 → VirtualScreen vte.Parser
  | vs, [] => vs
  | vs, byte :: rest =>
      match vs.feedByte vte width byte with
      | some next => feedPartly vte width next rest
      | none => vs

end Dinotty.Screen

namespace Dinotty.Agent

open Screen List

/-! ### Calls, the shell and the reader -/

structure RunResponse where
  exitCode : Int
  stdout : List Char
  method : String
  deriving DecidableEq

/-- How far a call has come. While it polls, it knows when it has started. -/
inductive Phase where
  | begin
  | write
  | drain (start : Nat)
  | take (result : CommandResult)
  | prompt (start : Nat)
  | expire (start : Nat)
  /-- The answer, and the number of commands that had finished by then. -/
  | returned (response : RunResponse) (finished : Nat)
  | failed (error : String)
  deriving DecidableEq

/-- A call of `execute_command`. -/
structure Call where
  command : String
  timeoutMs : Nat
  /-- The place of its command among those that have been written. -/
  index : Option Nat := none
  phase : Phase := .begin
  deriving DecidableEq

/-- A pane with its shell: the commands that have been written to it, the output of the one that it
runs, what the earlier ones have come to, and the bytes that are still to be read. -/
structure Pane (vte : Vte) where
  now : Nat := 0
  screen : VirtualScreen vte.Parser
  lastOutput : Option Nat := none
  typed : List String := []
  running : Option (List UInt8) := none
  finished : List (List UInt8 × Int) := []
  unread : List UInt8 := []
  calls : List Call := []

/-- What happens next. A call goes on with a write that succeeds or fails. -/
inductive PaneEvent where
  | tick (ms : Nat)
  | call (command : String) (timeoutMs : Nat)
  | go (id : Nat) (written : Except String Unit)
  | shellPrompt (text : List UInt8)
  | shellStart
  | shellPrint (output : List UInt8)
  | shellEnd (exitCode : Int)
  | read (count : Nat)

/-- The bytes of an OSC 133. -/
def markBytes (text : String) : List UInt8 :=
  textBytes (['\x1b'] ++ "]133;".toList ++ text.toList ++ ['\x07'])

variable {vte : Vte}

/-- A call polls for the prompt only after 100 milliseconds of silence, and when no command is
tracked. -/
def shouldCheckPrompt (pane : Pane vte) : Prop :=
  (pane.lastOutput.any fun last => pane.now - last ≥ 100) ∧ pane.screen.commandState = .idle

instance (pane : Pane vte) : Decidable (shouldCheckPrompt pane) :=
  inferInstanceAs (Decidable (_ ∧ _))

def promptFound (pane : Pane vte) : Option (CommandResult × VirtualScreen vte.Parser) :=
  if shouldCheckPrompt pane then pane.screen.detectPrompt else none

/-- One step of a call, under one lock of the screen or less. -/
def goOn (pane : Pane vte) (call : Call) (written : Except String Unit) : Pane vte × Call :=
  match call.phase with
  | .begin =>
      ({ pane with screen := pane.screen.beginCommandTracking }, { call with phase := .write })
  | .write =>
      match written with
      | .error error =>
          (pane, { call with phase := .failed ("Failed to write to PTY: " ++ error) })
      | .ok () =>
          ({ pane with typed := pane.typed ++ [call.command] },
            { call with
              index := some pane.typed.length
              phase := .drain pane.now })
  | .drain start =>
      let (results, screen) := pane.screen.drainCommandResults
      ({ pane with screen },
        { call with
          phase := results.head?.elim (.prompt start) Phase.take })
  | .take result =>
      let (stdout, screen) := pane.screen.takeCommandOutput
      ({ pane with screen },
        { call with
          phase := .returned ⟨result.exitCode, stdout, result.method⟩ pane.finished.length })
  | .prompt start =>
      match promptFound pane with
      | some (result, screen) =>
          let (stdout, screen) := screen.takeCommandOutput
          ({ pane with screen },
            { call with
              phase := .returned ⟨result.exitCode, stdout, result.method⟩ pane.finished.length })
      | none => (pane, { call with phase := .expire start })
  | .expire start =>
      if pane.now - start ≥ call.timeoutMs then
        let (stdout, screen) := pane.screen.finishCommandTracking
        ({ pane with screen },
          { call with
            phase := .returned ⟨-1, stdout, "timeout"⟩ pane.finished.length })
      else (pane, { call with phase := .drain start })
  | .returned _ _ | .failed _ => (pane, call)

/-- Feed some bytes and drain what they made, unless that panics. -/
def readBytes (width : Char → Option Nat) (pane : Pane vte) (count : Nat) : Pane vte :=
  let data := pane.unread.take count
  if data = [] then pane
  else
    { pane with
      lastOutput := some pane.now
      unread     := pane.unread.drop count
      screen     :=
        match pane.screen.read vte width data with
        | some (screen, _) => screen
        | none => (pane.screen.collectOutput data).feedPartly vte width data }

/-- The shell runs the commands in order, marks the start and the end of each, and prints its prompt
between them. -/
def step (width : Char → Option Nat) (pane : Pane vte) : PaneEvent → Pane vte
  | .tick ms => { pane with now := pane.now + ms }
  | .call command timeoutMs => { pane with calls := pane.calls ++ [{ command, timeoutMs }] }
  | .go id written =>
      match pane.calls[id]? with
      | some call =>
          let (pane, call) := goOn pane call written
          { pane with calls := pane.calls.set id call }
      | none => pane
  | .shellPrompt text =>
      if pane.running = none then { pane with unread := pane.unread ++ text } else pane
  | .shellStart =>
      if pane.running = none ∧ pane.finished.length < pane.typed.length then
        { pane with
          running := some []
          unread  := pane.unread ++ markBytes "B" }
      else pane
  | .shellPrint output =>
      match pane.running with
      | some earlier =>
          { pane with
            running := some (earlier ++ output)
            unread  := pane.unread ++ output }
      | none => pane
  | .shellEnd exitCode =>
      match pane.running with
      | some output =>
          { pane with
            running  := none
            finished := pane.finished ++ [(output, exitCode)]
            unread   := pane.unread ++ markBytes ("D;" ++ toString exitCode) }
      | none => pane
  | .read count => readBytes width pane count

def Pane.start (vte : Vte) (cols rows : Nat) : Pane vte := { screen := .new vte.new cols rows }

def run (width : Char → Option Nat) (pane : Pane vte) (events : List PaneEvent) : Pane vte :=
  Runs.run (step width) pane events

/-! ### What a call comes to -/

/-- A call that has not timed out answers for its own command, and one that has did so before its
command ended. -/
def Answered (pane : Pane vte) (call : Call) : Prop :=
  ∀ response before index, call.phase = .returned response before → call.index = some index →
    if response.method = "timeout" then ¬ index < before
    else ∃ output, pane.finished[index]? = some (output, response.exitCode) ∧
      response.stdout = fromUtf8Lossy output

/-- No two calls have the same command. -/
def Distinct (calls : List Call) : Prop :=
  ∀ (i j : Nat) (first second : Call) (index : Nat),
    calls[i]? = some first → calls[j]? = some second →
    first.index = some index → second.index = some index → i = j

/-- Every call answers for its own command, and no two for the same one. -/
def AllAnswered (pane : Pane vte) : Prop :=
  (∀ call ∈ pane.calls, Answered pane call) ∧ Distinct pane.calls

/-- A call finds no prompt, unless its command has ended without output and with the exit code −1,
and times out only before its command has ended. -/
def CallAllowed (pane : Pane vte) (call : Call) : Prop :=
  match call.phase with
  | .prompt _ => (promptFound pane).isSome →
      ∀ index ∈ call.index, pane.finished[index]? = some ([], -1)
  | .expire start => pane.now - start ≥ call.timeoutMs →
      ∀ index ∈ call.index, ¬ index < pane.finished.length
  | _ => True

instance decidableCallAllowed (pane : Pane vte) : ∀ call, Decidable (CallAllowed pane call)
  | ⟨_, _, index, .prompt _⟩ =>
      inferInstanceAs (Decidable ((promptFound pane).isSome →
        ∀ place ∈ index, pane.finished[place]? = some ([], -1)))
  | ⟨_, timeoutMs, index, .expire start⟩ =>
      inferInstanceAs (Decidable (pane.now - start ≥ timeoutMs →
        ∀ place ∈ index, ¬ place < pane.finished.length))
  | ⟨_, _, _, .begin⟩ | ⟨_, _, _, .write⟩ | ⟨_, _, _, .drain _⟩ | ⟨_, _, _, .take _⟩
  | ⟨_, _, _, .returned _ _⟩ | ⟨_, _, _, .failed _⟩ => isTrue trivial

/-- Calls go on only where they are allowed to, and no read panics. -/
def Allowed (width : Char → Option Nat) (pane : Pane vte) : PaneEvent → Prop
  | .go id _ => ∀ call ∈ pane.calls[id]?, CallAllowed pane call
  | .read count => (pane.screen.feed vte width (pane.unread.take count)).isSome
  | _ => True

instance decidableAllowed (width : Char → Option Nat) (pane : Pane vte) :
    ∀ event, Decidable (Allowed width pane event)
  | .go id _ => inferInstanceAs (Decidable (∀ call ∈ pane.calls[id]?, CallAllowed pane call))
  | .read count =>
      inferInstanceAs (Decidable ((pane.screen.feed vte width (pane.unread.take count)).isSome))
  | .tick _ | .call _ _ | .shellPrompt _ | .shellStart | .shellPrint _ | .shellEnd _ =>
      isTrue trivial

/-- A call never comes to take a result, knows the place of its command once it has written it,
and answers as it should. -/
structure CallSound (pane : Pane vte) (call : Call) : Prop where
  notTaking : ∀ result, call.phase ≠ .take result
  typed : ∀ index ∈ call.index, index < pane.typed.length
  fresh : call.phase = .begin ∨ call.phase = .write → call.index = none
  answered : Answered pane call

/-- Between the steps there is no result that a call could take. -/
structure Sound (pane : Pane vte) : Prop where
  drained : pane.screen.commandResults = []
  distinct : Distinct pane.calls
  calls : ∀ call ∈ pane.calls, CallSound pane call

variable {pane next : Pane vte} {call after : Call}

theorem CallSound.mono (sound : CallSound pane call)
    (typed : pane.typed.length ≤ next.typed.length) (finished : pane.finished <+: next.finished) :
    CallSound next call where
  notTaking := sound.notTaking
  typed := fun index here => Nat.lt_of_lt_of_le (sound.typed index here) typed
  fresh := sound.fresh
  answered := by
    intro resp before index returned here
    have now := sound.answered resp before index returned here
    split
    next timedOut =>
      rwa [if_pos timedOut] at now
    next inTime =>
      rw [if_neg inTime] at now
      obtain ⟨output, ended, same⟩ := now
      obtain ⟨later, longer⟩ := finished
      refine ⟨output, ?_, same⟩
      rw [← longer, getElem?_append_left (List.getElem?_eq_some_iff.mp ended).1, ended]

structure GoesOn (pane : Pane vte) (call : Call) (next : Pane vte) (after : Call) : Prop where
  calls : next.calls = pane.calls
  finished : next.finished = pane.finished
  drained : next.screen.commandResults = []
  typed : pane.typed.length ≤ next.typed.length
  index : after.index = call.index ∨ after.index = some pane.typed.length
  sound : CallSound next after

theorem CallSound.unanswered (notTaking : ∀ result, call.phase ≠ .take result)
    (typed : ∀ index ∈ call.index, index < pane.typed.length)
    (fresh : call.phase = .begin ∨ call.phase = .write → call.index = none)
    (unanswered : ∀ resp before, call.phase ≠ .returned resp before) :
    CallSound pane call :=
  ⟨notTaking, typed, fresh, fun resp before _ returned =>
    absurd returned (unanswered resp before)⟩

theorem promptFound_eq_some {result : CommandResult} {screen : VirtualScreen vte.Parser}
    (found : promptFound pane = some (result, screen)) :
    result = { exitCode := -1, method := "prompt_detection" } ∧
      screen = { pane.screen with
        commandState   := .idle
        pendingCommand := none } := by
  rw [promptFound] at found
  split at found
  · rw [VirtualScreen.detectPrompt] at found
    split at found
    · cases found
      exact ⟨rfl, rfl⟩
    · exact nomatch found
  · exact nomatch found

/-- A step that types nothing changes the screen and the phase. -/
theorem GoesOn.quiet {screen : VirtualScreen vte.Parser} {phase : Phase}
    (drained : screen.commandResults = [])
    (sound : CallSound { pane with screen } { call with phase }) :
    GoesOn pane call { pane with screen } { call with phase } :=
  ⟨rfl, rfl, drained, Nat.le_refl _, .inl rfl, sound⟩

theorem goesOn (written : Except String Unit) (drained : pane.screen.commandResults = [])
    (sound : CallSound pane call)
    (allowed : CallAllowed pane call) :
    GoesOn pane call (goOn pane call written).1 (goOn pane call written).2 := by
  obtain ⟨command, timeoutMs, index, phase⟩ := call
  cases phase with
  | begin =>
    exact .quiet drained (.unanswered nofun sound.typed (fun _ => sound.fresh (.inl rfl)) nofun)
  | write =>
    cases written with
    | error error => exact .quiet drained (.unanswered nofun sound.typed nofun nofun)
    | ok done =>
      have longer : (pane.typed ++ [command]).length = pane.typed.length + 1 := by simp
      refine { calls    := rfl
               finished := rfl
               drained  := drained
               typed    := longer ▸ Nat.le_succ _
               index    := .inr rfl
               sound    := .unanswered nofun (fun place here => ?_) nofun nofun }
      cases here
      exact longer ▸ Nat.lt_succ_self _
  | drain start =>
    refine .quiet rfl ?_
    simp only [drained, head?_nil, Option.elim_none]
    exact .unanswered nofun sound.typed nofun nofun
  | take result => exact absurd rfl (sound.notTaking result)
  | prompt start =>
    simp only [goOn]
    cases found : promptFound pane with
    | none => exact .quiet drained (.unanswered nofun sound.typed nofun nofun)
    | some prompt =>
      obtain ⟨result, screen⟩ := prompt
      obtain ⟨rfl, rfl⟩ := promptFound_eq_some found
      refine .quiet drained ⟨nofun, sound.typed, nofun, ?_⟩
      intro resp before place returned here
      obtain ⟨rfl, rfl⟩ := Phase.returned.inj returned
      exact ⟨[], allowed (by rw [found]; rfl) place here, rfl⟩
  | expire start =>
    simp only [goOn]
    split
    next late =>
      refine .quiet drained ⟨nofun, sound.typed, nofun, ?_⟩
      intro resp before place returned here
      obtain ⟨rfl, rfl⟩ := Phase.returned.inj returned
      exact allowed late place here
    · exact .quiet drained (.unanswered nofun sound.typed nofun nofun)
  | returned | failed => exact .quiet drained sound

variable {calls : List Call}

theorem set_cases {id i : Nat} {other : Call} (held : (calls.set id after)[i]? = some other) :
    i = id ∧ other = after ∨ i ≠ id ∧ calls[i]? = some other := by
  by_cases here : i = id
  · subst here
    rw [getElem?_set_self (by simpa using (List.getElem?_eq_some_iff.mp held).1)] at held
    exact .inl ⟨rfl, (Option.some.inj held).symm⟩
  · rw [getElem?_set_ne (Ne.symm here)] at held
    exact .inr ⟨here, held⟩

/-- The calls stay apart when one of them keeps its place or gets a new one. -/
theorem distinct_set {id typed : Nat} (distinct : Distinct calls)
    (before : ∀ call ∈ calls, ∀ index ∈ call.index, index < typed)
    (held : calls[id]? = some call) (index : after.index = call.index ∨ after.index = some typed)
    :
    Distinct (calls.set id after) := by
  -- The place of the changed call is the one that it had, or one that nobody has.
  have apart : ∀ (j : Nat) (other : Call) (place : Nat), calls[j]? = some other →
      other.index = some place → after.index = some place → j = id := by
    intro j other place presentOther hers mine
    rcases index with same | new
    · exact distinct j id other call place presentOther held hers (same ▸ mine)
    · cases new.symm.trans mine
      exact absurd (before other (mem_of_getElem? presentOther) typed hers)
        (Nat.lt_irrefl _)
  intro i j first second place presentFirst presentSecond inFirst inSecond
  rcases set_cases presentFirst with ⟨rfl, rfl⟩ | ⟨elsewhere, old⟩
  · rcases set_cases presentSecond with ⟨rfl, -⟩ | ⟨-, other⟩
    · rfl
    · exact (apart j second place other inSecond inFirst).symm
  · rcases set_cases presentSecond with ⟨rfl, rfl⟩ | ⟨-, other⟩
    · exact apart i first place old inFirst inSecond
    · exact distinct i j first second place old other inFirst inSecond

theorem distinct_append (distinct : Distinct calls) (unplaced : after.index = none) :
    Distinct (calls ++ [after]) := by
  have old : ∀ (i : Nat) (other : Call) (place : Nat), (calls ++ [after])[i]? = some other →
      other.index = some place → calls[i]? = some other := by
    intro i other place held placed
    rcases Nat.lt_or_ge i calls.length with inside | outside
    · rwa [getElem?_append_left inside] at held
    · rw [getElem?_append_right outside] at held
      obtain rfl := mem_singleton.mp (mem_of_getElem? held)
      exact nomatch unplaced.symm.trans placed
  intro i j first second place presentFirst presentSecond inFirst inSecond
  exact distinct i j first second place (old i first place presentFirst inFirst)
    (old j second place presentSecond inSecond) inFirst inSecond

theorem sound_step {width : Char → Option Nat} (event : PaneEvent) (sound : Sound pane)
    (allowed : Allowed width pane event) : Sound (step width pane event) := by
  have still : ∀ {next : Pane vte}, next.screen.commandResults = [] → next.calls = pane.calls →
      pane.typed.length ≤ next.typed.length → pane.finished <+: next.finished → Sound next :=
    fun drained calls typed finished =>
      { drained, distinct := calls ▸ sound.distinct
        calls := fun call mem => (sound.calls call (calls ▸ mem)).mono typed finished }
  cases event with
  | tick ms => exact still sound.drained rfl (Nat.le_refl _) (prefix_refl _)
  | call command timeoutMs =>
    refine ⟨sound.drained, distinct_append sound.distinct rfl, fun call mem => ?_⟩
    · rcases mem_append.mp mem with old | new
      · exact (sound.calls call old).mono (Nat.le_refl _) (prefix_refl _)
      · obtain rfl := mem_singleton.mp new
        exact .unanswered nofun nofun (fun _ => rfl) nofun
  | go id written =>
    simp only [step]
    split
    next call held =>
      have goes := goesOn written sound.drained
        (sound.calls call (mem_of_getElem? held)) (allowed call held)
      refine ⟨goes.drained, ?_, fun other mem => ?_⟩
      · rw [goes.calls]
        exact distinct_set sound.distinct (fun other mem => (sound.calls other mem).typed)
          held goes.index
      · rw [goes.calls] at mem
        rcases mem_or_eq_of_mem_set mem with old | rfl
        · exact (sound.calls other old).mono goes.typed (goes.finished ▸ prefix_refl _)
        · exact goes.sound.mono (Nat.le_refl _) (prefix_refl _)
    · exact sound
  | shellPrompt | shellStart | shellPrint =>
    simp only [step]
    split
    · exact still sound.drained rfl (Nat.le_refl _) (prefix_refl _)
    · exact sound
  | shellEnd exitCode =>
    simp only [step]
    split
    · exact still sound.drained rfl (Nat.le_refl _) (prefix_append _ _)
    · exact sound
  | read count =>
    simp only [step, readBytes]
    split
    · exact sound
    · obtain ⟨fed, done⟩ := Option.isSome_iff_exists.mp allowed
      obtain ⟨result, read⟩ : ∃ result,
          pane.screen.read vte width (pane.unread.take count) = some result :=
        ⟨_, by rw [VirtualScreen.read, done]; rfl⟩
      rw [read]
      exact still (read_shell sound.drained read).2.2.1 rfl (Nat.le_refl _) (prefix_refl _)

/-- A call writes its command and the shell begins to run it. -/
def begun : List PaneEvent :=
  [.call "ls" 100, .go 0 (.ok ()), .go 0 (.ok ()), .shellStart]

/-- A call that polls once and times out. -/
def polled : List PaneEvent :=
  [.tick 100, .go 0 (.ok ()), .go 0 (.ok ()), .go 0 (.ok ())]

/-- The command ends with the exit code 7, and the reader reads all of it. -/
def ended : List PaneEvent :=
  [.shellPrint (textBytes ['h', 'i']), .shellEnd 7, .read 100]

end Dinotty.Agent
