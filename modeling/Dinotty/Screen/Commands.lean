/-
This file follows the shell integration: the marks of OSC 133 in the stream and the results that the
PTY reader drains after each read. It proves that every command gets exactly one result with its own
exit code, and that the output taken for it is always empty: the mark that makes the result has
dropped the output.
-/

import Dinotty.Screen.Parser

namespace Dinotty.Screen

open List Option

/-! ### What the reader drains -/

namespace VirtualScreen

variable {Parser : Type}

def drainCommandResults (vs : VirtualScreen Parser) : List CommandResult × VirtualScreen Parser :=
  (vs.commandResults, { vs with commandResults := [] })

/-- Take the output collected for the command that is running, or for none. -/
def takeCommandOutput (vs : VirtualScreen Parser) : List Char × VirtualScreen Parser :=
  match vs.pendingCommand with
  | some pending =>
      (fromUtf8Lossy pending.outputBuf, { vs with pendingCommand := some { outputBuf := [] } })
  | none => ([], vs)

/-- Take an output for each of `count` results. -/
def takeOutputs : Nat → VirtualScreen Parser → List (List Char) × VirtualScreen Parser
  | 0, vs => ([], vs)
  | count + 1, vs =>
      let (output, vs) := vs.takeCommandOutput
      let (outputs, vs) := takeOutputs count vs
      (output :: outputs, vs)

def drainSyncEvents (vs : VirtualScreen Parser) : List SyncEvent × VirtualScreen Parser :=
  (vs.syncEvents, { vs with syncEvents := [] })

def drainOscActions (vs : VirtualScreen Parser) : List OscAction × VirtualScreen Parser :=
  (vs.oscActions, { vs with oscActions := [] })

end VirtualScreen

/-- What the reader takes from the screen after feeding it one read. -/
structure FeedResult where
  commandResults : List (CommandResult × List Char)
  syncEvents : List SyncEvent
  oscActions : List OscAction
  deriving DecidableEq, Repr

/-- Feed the bytes of one read and drain what they made. -/
def VirtualScreen.read (vte : Vte) (width : Char → Option Nat) (vs : VirtualScreen vte.Parser)
    (data : List UInt8) : Option (VirtualScreen vte.Parser × FeedResult) :=
  (vs.feed vte width data).map fun vs =>
    let (results, vs) := vs.drainCommandResults
    let (outputs, vs) := vs.takeOutputs results.length
    let (syncEvents, vs) := vs.drainSyncEvents
    let (oscActions, vs) := vs.drainOscActions
    (vs, { commandResults := results.zip outputs, syncEvents, oscActions })

/-- The results of one read after another. -/
def VirtualScreen.readAll (vte : Vte) (width : Char → Option Nat) :
    VirtualScreen vte.Parser → List (List UInt8) → Option (List (CommandResult × List Char))
  | _, [] => some []
  | vs, data :: rest => do
      let (vs, result) ← vs.read vte width data
      let later ← readAll vte width vs rest
      return result.commandResults ++ later

/-! ### The marks in the stream -/

/-- The marks A, B and D of OSC 133, with what follows a D. -/
inductive Mark where
  | prompt
  | start
  | finish (rest : List (List UInt8))
  deriving DecidableEq, Repr

def Mark.ofSegments : List (List UInt8) → Option Mark
  | _ :: [0x41] :: _ => some .prompt
  | _ :: [0x42] :: _ => some .start
  | _ :: [0x44] :: rest => some (.finish rest)
  | _ => none

def Callback.mark : Callback → Option Mark
  | .oscDispatch segments _ =>
      if segments.head? = some [0x31, 0x33, 0x33] then Mark.ofSegments segments else none
  | _ => none

def exitCode (rest : List (List UInt8)) : Int := (rest.head?.bind parseI32).getD (-1)

/-- A result with the time at which the command had started. Without a pending command there is
none, and the duration is zero. -/
structure TrackedResult where
  result : CommandResult
  startTime : Option Nat
  deriving DecidableEq, Repr

/-- What OSC 133 does, with the times and without the output. -/
structure Tracker where
  state : CommandState
  pending : Option Nat
  results : List TrackedResult
  deriving DecidableEq, Repr

namespace Tracker

def new : Tracker := ⟨.idle, none, []⟩

def push (tracker : Tracker) (exitCode : Int) (method : String) : List TrackedResult :=
  tracker.results ++ [⟨{ exitCode, method }, tracker.pending⟩]

def apply (tracker : Tracker) (now : Nat) : Option Mark → Tracker
  | some .prompt => { tracker with state := .idle, pending := none }
  | some .start =>
      { state := .commandStart
        pending := some now
        results :=
          if tracker.state ≠ .idle ∧ tracker.pending.isSome then tracker.push (-1) "interrupted"
          else tracker.results }
  | some (.finish rest) =>
      { state := .idle
        pending := none
        results := tracker.push (exitCode rest) "shell_integration" }
  | none => tracker

def follow (tracker : Tracker) (callbacks : List (Nat × Callback)) : Tracker :=
  callbacks.foldl (fun tracker timed => tracker.apply timed.1 timed.2.mark) tracker

end Tracker

/-! ### The shell state of the screen -/

/-- The part of the screen that the shell integration uses. -/
structure Shell where
  state : CommandState
  pending : Option PendingCommand
  results : List CommandResult
  deriving DecidableEq, Repr

namespace Shell

def apply (shell : Shell) : Option Mark → Shell
  | some .prompt => { shell with state := .idle, pending := none }
  | some .start =>
      { state := .commandStart
        pending := some { outputBuf := [] }
        results :=
          if shell.state ≠ .idle ∧ shell.pending.isSome then
            shell.results ++ [{ exitCode := -1, method := "interrupted" }]
          else shell.results }
  | some (.finish rest) =>
      { state := .idle
        pending := none
        results := shell.results ++ [{ exitCode := exitCode rest, method := "shell_integration" }] }
  | none => shell

def follow (shell : Shell) (callbacks : List Callback) : Shell :=
  callbacks.foldl (fun shell callback => shell.apply callback.mark) shell

theorem follow_append (shell : Shell) (front back : List Callback) :
    shell.follow (front ++ back) = (shell.follow front).follow back := foldl_append

end Shell

namespace Performer

def shell (p : Performer) : Shell := ⟨p.commandState, p.pendingCommand, p.commandResults⟩

variable {p next : Performer}

/-- An action that touches the screen and the history only. -/
def Paints (p next : Performer) : Prop :=
  next = { p with screen := next.screen, scrollback := next.scrollback }

theorem Paints.refl (p : Performer) : p.Paints p := rfl

theorem Paints.trans {middle : Performer} (before : p.Paints middle)
    (after : middle.Paints next) : p.Paints next := by
  unfold Paints at before after ⊢
  rw [after, before]

theorem Paints.shell (paints : p.Paints next) : next.shell = p.shell := by
  rw [paints]
  rfl

theorem paints_some {other : Performer} (paints : p.Paints other)
    (done : some other = some next) : p.Paints next := some.inj done ▸ paints

theorem paints_of_some {screen : ScreenBuffer} {scrollback : List Row}
    (done : some { p with screen, scrollback } = some next) : p.Paints next := by
  cases done
  exact rfl

theorem mapCursor_paints (p : Performer) (change : CursorState → CursorState) :
    p.Paints (p.mapCursor change) := rfl

theorem mapCells_paints {change : List Row → Option (List Row)}
    (done : p.mapCells change = some next) : p.Paints next := by
  obtain ⟨cells, -, rfl⟩ := map_eq_some_iff.mp done
  exact rfl

theorem scrollUp_paints (done : p.scrollUp = some next) : p.Paints next := by
  obtain ⟨⟨screen, hist⟩, -, done⟩ := bind_eq_some_iff.mp done
  exact paints_of_some done

theorem scrollDown_paints (done : p.scrollDown = some next) : p.Paints next := by
  obtain ⟨screen, -, done⟩ := bind_eq_some_iff.mp done
  exact paints_of_some done

theorem repeat_paints {once : Performer → Option Performer}
    (paints : ∀ {q after : Performer}, once q = some after → q.Paints after) {count : Nat}
    (done : Fallible.repeatTimes once count p = some next) : p.Paints next :=
  Fallible.repeatTimes_invariant
    (fun _ _ (before : p.Paints _) taken => before.trans (paints taken)) (.refl p) done

theorem lineFeed_paints (done : p.lineFeed = some next) : p.Paints next := by
  unfold lineFeed at done
  dsimp only at done
  split at done
  · obtain ⟨⟨screen, hist⟩, -, done⟩ := bind_eq_some_iff.mp done
    exact paints_of_some done
  · exact paints_of_some done

theorem wrapIf_paints {cond : Prop} [Decidable cond]
    (done : p.wrapIf cond = some next) : p.Paints next := by
  unfold wrapIf at done
  split at done
  · exact (mapCursor_paints p _).trans (lineFeed_paints done)
  · exact paints_some (.refl p) done

theorem print_paints {width : Char → Option Nat} {c : Char}
    (done : p.print width c = some next) : p.Paints next := by
  unfold print at done
  dsimp only at done
  split at done
  · unfold printCombining at done
    dsimp only at done
    split at done
    · exact mapCells_paints done
    · exact paints_some (.refl p) done
  · obtain ⟨first, firstDone, done⟩ := bind_eq_some_iff.mp done
    obtain ⟨second, secondDone, done⟩ := bind_eq_some_iff.mp done
    obtain ⟨drawn, drawnDone, done⟩ := bind_eq_some_iff.mp done
    have wrapped := (wrapIf_paints firstDone).trans (wrapIf_paints secondDone)
    refine wrapped.trans (Paints.trans ?_ (paints_some (mapCursor_paints drawn _) done))
    unfold drawGlyph at drawnDone
    dsimp only at drawnDone
    split at drawnDone
    · exact mapCells_paints drawnDone
    · exact paints_some (.refl second) drawnDone

theorem control_paints {function : ControlFunction} {params : List (List UInt16)} {p0 p1 : Nat}
    (done : p.control function params p0 p1 = some next) : p.Paints next := by
  cases function with
  | scrollUp => exact repeat_paints scrollUp_paints done
  | scrollDown => exact repeat_paints scrollDown_paints done
  | eraseDisplay | eraseLine =>
    simp only [control, eraseDisplay, eraseLine] at done
    split at done
    all_goals first
      | exact mapCells_paints done
      | exact paints_some (.refl p) done
  | insertLines | deleteLines | deleteCharacters | insertCharacters =>
    simp only [control] at done
    exact mapCells_paints done
  | eraseCharacters =>
    simp only [control] at done
    split at done
    · exact mapCells_paints done
    · exact paints_some (.refl p) done
  | cursorUp | cursorDown | cursorForward | cursorBack | cursorPosition | setScrollRegion
  | linePosition | cursorColumn | graphicRendition => exact paints_of_some done

theorem setMode_shell (p : Performer) (mode : Nat) : (p.setMode mode).shell = p.shell := by
  unfold setMode
  split <;> rfl

theorem resetMode_shell (p : Performer) (mode : Nat) : (p.resetMode mode).shell = p.shell := by
  unfold resetMode
  split <;> rfl

theorem foldl_shell {change : Performer → Nat → Performer}
    (keeps : ∀ (q : Performer) mode, (change q mode).shell = q.shell) (modes : List Nat)
    (p : Performer) : (modes.foldl change p).shell = p.shell := by
  induction modes generalizing p with
  | nil => rfl
  | cons mode rest ih =>
    rw [foldl_cons, ih, keeps]

theorem csiDispatch_shell {params : List (List UInt16)} {inter : List UInt8}
    {action : Char} (done : p.csiDispatch params inter action = some next) :
    next.shell = p.shell := by
  unfold csiDispatch at done
  dsimp only at done
  split at done
  · split at done
    all_goals obtain rfl := some.inj done
    · exact foldl_shell setMode_shell _ p
    · exact foldl_shell resetMode_shell _ p
    · rfl
  · split at done
    · cases done
      rfl
    · split at done
      · cases done
        rfl
      · split at done
        · exact (control_paints done).shell
        · cases done
          rfl

theorem escDispatch_shell {inter : List UInt8} {byte : UInt8}
    (done : p.escDispatch inter byte = some next) : next.shell = p.shell := by
  unfold escDispatch at done
  split at done
  · cases done
    rfl
  · split at done
    · cases done
      unfold restoreCursor
      split <;> rfl
    · split at done
      · unfold reverseIndex at done
        split at done
        · exact (scrollDown_paints done).shell
        · split at done
          all_goals
            cases done
            rfl
      · split at done
        all_goals
          cases done
          rfl

theorem execute_shell {byte : UInt8} (done : p.execute byte = some next) :
    next.shell = p.shell := by
  unfold execute at done
  split at done
  case h_3 | h_4 | h_5 => exact (lineFeed_paints done).shell
  all_goals
    cases done
    rfl

theorem dispatchOsc133_shell (p : Performer) (segments : List (List UInt8)) :
    (p.dispatchOsc133 segments).shell = p.shell.apply (Mark.ofSegments segments) := by
  unfold dispatchOsc133
  split
  case h_4 notPrompt notStart notFinish =>
    have unmarked : Mark.ofSegments segments = none := by
      unfold Mark.ofSegments
      split
      · exact (notPrompt _ _ rfl).elim
      · exact (notStart _ _ rfl).elim
      · exact (notFinish _ _ rfl).elim
      · rfl
    rw [unmarked]
    rfl
  all_goals rfl

theorem dispatchOsc9_shell (p : Performer) (segments : List (List UInt8)) :
    (p.dispatchOsc9 segments).shell = p.shell := by
  unfold dispatchOsc9
  dsimp only
  split
  · rfl
  · split <;> rfl

theorem dispatchOsc777_shell (p : Performer) (segments : List (List UInt8)) :
    (p.dispatchOsc777 segments).shell = p.shell := by
  unfold dispatchOsc777
  dsimp only
  split <;> rfl

theorem oscDispatch_shell {segments : List (List UInt8)} {bellTerminated : Bool}
    (done : p.oscDispatch segments = some next) :
    next.shell = p.shell.apply (Callback.oscDispatch segments bellTerminated).mark := by
  cases segments with
  | nil => exact absurd done (by simp [oscDispatch])
  | cons command rest =>
    cases done
    simp only [Callback.mark, head?_cons, some.injEq]
    split
    · exact dispatchOsc133_shell p (command :: rest)
    · split
      · exact dispatchOsc9_shell p (command :: rest)
      · split
        · exact dispatchOsc777_shell p (command :: rest)
        · rfl

theorem perform_shell {width : Char → Option Nat} {cb : Callback}
    (done : p.perform width cb = some next) : next.shell = p.shell.apply cb.mark := by
  cases cb with
  | print c => exact (print_paints done).shell
  | execute byte => exact execute_shell done
  | hook params inter ignore action | put byte | unhook =>
    cases done
    rfl
  | csiDispatch params inter ignore action => exact csiDispatch_shell done
  | escDispatch inter ignore byte => exact escDispatch_shell done
  | oscDispatch segments bellTerminated => exact oscDispatch_shell done

end Performer

/-! ### Feeding -/

namespace VirtualScreen

variable {Parser : Type}

def shell (vs : VirtualScreen Parser) : Shell :=
  ⟨vs.commandState, vs.pendingCommand, vs.commandResults⟩

variable {width : Char → Option Nat}

theorem run_shell {p final : Performer} {callbacks : List Callback}
    (reached : Fallible.run (Performer.perform width) p callbacks = some final) :
    final.shell = p.shell.follow callbacks := by
  induction callbacks generalizing p with
  | nil =>
    cases reached
    rfl
  | cons cb rest ih =>
    obtain ⟨next, taken, later⟩ := bind_eq_some_iff.mp reached
    rw [ih later, Performer.perform_shell taken]
    rfl

theorem switch_shell (vs : VirtualScreen Parser) (req : Option Bool) :
    (vs.switch req).shell = vs.shell := by
  unfold switch
  split
  · split <;> rfl
  · split <;> rfl
  · rfl

theorem perform_shell {vs next : VirtualScreen Parser} {callbacks : List Callback}
    (done : vs.perform width callbacks = some next) :
    next.shell = vs.shell.follow callbacks := by
  obtain ⟨p, reached, rfl⟩ := map_eq_some_iff.mp done
  rw [switch_shell]
  exact run_shell reached

theorem groups_shell {vs final : VirtualScreen Parser} {groups : List (List Callback)}
    (reached : Fallible.run (perform width) vs groups = some final) :
    final.shell = vs.shell.follow groups.flatten := by
  induction groups generalizing vs with
  | nil =>
    cases reached
    rfl
  | cons group rest ih =>
    obtain ⟨next, taken, later⟩ := bind_eq_some_iff.mp reached
    rw [ih later, perform_shell taken, flatten_cons, Shell.follow_append]

theorem collectOutput_shell (vs : VirtualScreen Parser) (data : List UInt8) :
    (vs.collectOutput data).shell.state = vs.shell.state ∧
      (vs.collectOutput data).shell.results = vs.shell.results ∧
      (vs.collectOutput data).shell.pending.isSome = vs.shell.pending.isSome ∧
      (vs.collectOutput data).parser = vs.parser := by
  unfold collectOutput
  split
  · exact ⟨rfl, rfl, rfl, rfl⟩
  · exact ⟨rfl, rfl, isSome_map, rfl⟩

end VirtualScreen

theorem feed_shell {vte : Vte} {width : Char → Option Nat} {vs next : VirtualScreen vte.Parser}
    {data : List UInt8} (done : vs.feed vte width data = some next) :
    next.shell = (vs.collectOutput data).shell.follow (vte.decode vs.parser data).2.flatten ∧
      next.parser = (vte.decode vs.parser data).1 := by
  unfold VirtualScreen.feed at done
  rw [run_feedByte_eq, (VirtualScreen.collectOutput_shell vs data).2.2.2] at done
  obtain ⟨final, reached, rfl⟩ := map_eq_some_iff.mp done
  have followed := VirtualScreen.groups_shell reached
  exact ⟨followed, rfl⟩

/-! ### Draining -/

namespace Shell

/-- As soon as a read has made a result, no output is pending. -/
def Quiet (shell : Shell) : Prop :=
  shell.results = [] ∨ ∀ pending, shell.pending = some pending → pending.outputBuf = []

theorem apply_quiet {shell : Shell} (quiet : shell.Quiet) (mark : Option Mark) :
    (shell.apply mark).Quiet := by
  rcases mark with _ | mark
  · exact quiet
  · cases mark with
    | prompt | finish rest => exact .inr nofun
    | start =>
      refine .inr fun pending held => ?_
      cases held
      rfl

theorem follow_quiet {shell : Shell} (quiet : shell.Quiet) (cbs : List Callback) :
    (shell.follow cbs).Quiet := by
  induction cbs generalizing shell with
  | nil => exact quiet
  | cons cb rest ih =>
    exact ih (apply_quiet quiet cb.mark)

end Shell

namespace VirtualScreen

variable {Parser : Type}

/-- Two screens agree on everything the shell integration uses but the collected output. -/
structure SameShell (vs next : VirtualScreen Parser) : Prop where
  state : next.shell.state = vs.shell.state
  pending : next.shell.pending.isSome = vs.shell.pending.isSome
  results : next.shell.results = vs.shell.results
  parser : next.parser = vs.parser

theorem takeCommandOutput_same (vs : VirtualScreen Parser) :
    vs.SameShell vs.takeCommandOutput.2 := by
  unfold takeCommandOutput
  split
  next pending held =>
    refine ⟨rfl, ?_, rfl, rfl⟩
    show true = vs.pendingCommand.isSome
    rw [held]
    rfl
  · exact ⟨rfl, rfl, rfl, rfl⟩

theorem takeOutputs_same (count : Nat) (vs : VirtualScreen Parser) :
    vs.SameShell (takeOutputs count vs).2 ∧ (takeOutputs count vs).1.length = count := by
  induction count generalizing vs with
  | zero => exact ⟨⟨rfl, rfl, rfl, rfl⟩, rfl⟩
  | succ count ih =>
    have first := takeCommandOutput_same vs
    obtain ⟨later, length⟩ := ih vs.takeCommandOutput.2
    exact ⟨⟨later.state.trans first.state, later.pending.trans first.pending,
      later.results.trans first.results, later.parser.trans first.parser⟩,
      congrArg (· + 1) length⟩

theorem takeOutputs_empty (count : Nat) {vs : VirtualScreen Parser}
    (empty : ∀ pending, vs.pendingCommand = some pending → pending.outputBuf = []) :
    ∀ output ∈ (takeOutputs count vs).1, output = [] := by
  induction count generalizing vs with
  | zero => exact nofun
  | succ count ih =>
    unfold takeOutputs takeCommandOutput
    dsimp only
    split
    next pending held =>
      intro output mem
      rcases mem_cons.mp mem with rfl | later
      · rw [empty pending held]
        rfl
      · refine ih (fun other taken => ?_) output later
        cases taken
        rfl
    · intro output mem
      rcases mem_cons.mp mem with rfl | later
      · rfl
      · exact ih empty output later

end VirtualScreen

/-- A read delivers the results of its callbacks, each with an empty output, and leaves the shell
state of the screen without them. -/
theorem read_shell {vte : Vte} {width : Char → Option Nat} {vs next : VirtualScreen vte.Parser}
    {data : List UInt8} {result : FeedResult} (clean : vs.commandResults = [])
    (done : vs.read vte width data = some (next, result)) :
    let shell := (vs.collectOutput data).shell.follow (vte.decode vs.parser data).2.flatten
    next.shell.state = shell.state ∧ next.shell.pending.isSome = shell.pending.isSome ∧
      next.commandResults = [] ∧ next.parser = (vte.decode vs.parser data).1 ∧
      result.commandResults.map Prod.fst = shell.results ∧
      ∀ item ∈ result.commandResults, item.2 = [] := by
  obtain ⟨fed, feedDone, drained⟩ := map_eq_some_iff.mp done
  obtain ⟨fedShell, fedParser⟩ := feed_shell feedDone
  have quiet : fed.shell.Quiet := by
    rw [fedShell]
    exact Shell.follow_quiet (.inl ((VirtualScreen.collectOutput_shell vs data).2.1.trans clean)) _
  cases drained
  have same := VirtualScreen.takeOutputs_same fed.commandResults.length
    { fed with commandResults := [] }
  dsimp only
  rw [← fedShell]
  refine ⟨same.1.state, same.1.pending, same.1.results, same.1.parser.trans fedParser, ?_, ?_⟩
  · exact map_fst_zip (Nat.le_of_eq same.2.symm)
  · intro item mem
    rcases quiet with none | empty
    · have noResult : fed.commandResults = [] := none
      simp only [noResult, zip_nil_left] at mem
      exact nomatch mem
    · have taken := (of_mem_zip mem).2
      refine VirtualScreen.takeOutputs_empty _ ?_ item.2 taken
      exact empty

/-! ### The tracker runs alongside -/

/-- A tracker agrees with the shell state of a screen whose results have been drained so far. -/
structure Tracker.Follows (tracker : Tracker) (drained : List CommandResult) (shell : Shell) :
    Prop where
  state : shell.state = tracker.state
  pending : shell.pending.isSome = tracker.pending.isSome
  results : tracker.results.map TrackedResult.result = drained ++ shell.results

namespace Tracker

variable {tracker : Tracker} {drained : List CommandResult} {shell : Shell}

theorem push_results (follows : tracker.Follows drained shell) (exitCode : Int) (method : String) :
    (tracker.push exitCode method).map TrackedResult.result =
      drained ++ (shell.results ++ [⟨exitCode, method⟩]) := by
  rw [push, map_append, follows.results, append_assoc]
  rfl

theorem apply_follows (follows : tracker.Follows drained shell) (now : Nat) (mark : Option Mark) :
    (tracker.apply now mark).Follows drained (shell.apply mark) := by
  rcases mark with _ | mark
  · exact follows
  · cases mark with
    | prompt => exact ⟨rfl, rfl, follows.results⟩
    | finish rest => exact ⟨rfl, rfl, push_results follows _ _⟩
    | start =>
      refine ⟨rfl, rfl, ?_⟩
      simp only [apply, Shell.apply, follows.state, follows.pending]
      split
      · exact push_results follows _ _
      · exact follows.results

theorem follow_cons (tracker : Tracker) (timed : Nat × Callback) (rest : List (Nat × Callback)) :
    tracker.follow (timed :: rest) = (tracker.apply timed.1 timed.2.mark).follow rest := rfl

theorem follow_append (tracker : Tracker) (front back : List (Nat × Callback)) :
    tracker.follow (front ++ back) = (tracker.follow front).follow back := foldl_append

theorem follow_follows (follows : tracker.Follows drained shell) (timed : List (Nat × Callback)) :
    (tracker.follow timed).Follows drained (shell.follow (timed.map Prod.snd)) := by
  induction timed generalizing tracker shell with
  | nil => exact follows
  | cons head rest ih =>
    exact ih (apply_follows follows head.1 head.2.mark)

/-- However the stream is cut into reads, the results delivered are those of the tracker, and every
output is empty. -/
theorem readAll_tracked {vte : Vte} {width : Char → Option Nat} {chunks : List (List UInt8)}
    {vs : VirtualScreen vte.Parser} {timed : List (Nat × Callback)}
    {delivered : List (CommandResult × List Char)} (follows : tracker.Follows drained vs.shell)
    (clean : vs.commandResults = [])
    (decoded : (vte.decode vs.parser chunks.flatten).2.flatten = timed.map Prod.snd)
    (done : vs.readAll vte width chunks = some delivered) :
    (tracker.follow timed).results.map TrackedResult.result = drained ++ delivered.map Prod.fst ∧
      ∀ item ∈ delivered, item.2 = [] := by
  induction chunks generalizing vs tracker drained timed delivered with
  | nil =>
    cases done
    obtain rfl := map_eq_nil_iff.mp decoded.symm
    have results := follows.results
    rw [show vs.shell.results = [] from clean] at results
    exact ⟨results, nofun⟩
  | cons data rest ih =>
    obtain ⟨⟨next, result⟩, readDone, done⟩ := bind_eq_some_iff.mp done
    obtain ⟨later, laterDone, done⟩ := bind_eq_some_iff.mp done
    cases done
    rw [flatten_cons, Vte.decode_append, flatten_append] at decoded
    obtain ⟨front, back, rfl, frontEq, backEq⟩ := map_eq_append_iff.mp decoded.symm
    obtain ⟨state, pending, empty, parser, results, outputs⟩ := read_shell clean readDone
    obtain ⟨sameState, sameResults, samePending, -⟩ := VirtualScreen.collectOutput_shell vs data
    have collected : tracker.Follows drained (vs.collectOutput data).shell :=
      ⟨sameState.trans follows.state, samePending.trans follows.pending,
        by rw [sameResults]; exact follows.results⟩
    have fed := follow_follows collected front
    rw [frontEq] at fed
    have kept : (tracker.follow front).Follows (drained ++ result.commandResults.map Prod.fst)
        next.shell :=
      ⟨state.trans fed.state, pending.trans fed.pending, by
        rw [fed.results, results, show next.shell.results = [] from empty, append_nil]⟩
    obtain ⟨laterResults, laterOutputs⟩ :=
      ih kept empty (by rw [parser]; exact backEq.symm) laterDone
    rw [follow_append, laterResults, map_append, append_assoc]
    refine ⟨rfl, fun item mem => ?_⟩
    rcases mem_append.mp mem with early | late
    · exact outputs item early
    · exact laterOutputs item late

end Tracker

/-! ### Streams of commands -/

/-- The text of a callback: escape sequences have none. -/
def Callback.visible : Callback → List Char
  | .print c => [c]
  | .execute byte => [Char.ofNat byte.toNat]
  | _ => []

/-- A command in the stream: what comes before it, its B mark, its output, the A marks right before
its D mark, the D mark and its exit code. Every callback has its time. -/
structure Command where
  before : List (Nat × Callback)
  start : Nat × Callback
  output : List (Nat × Callback)
  prompts : List (Nat × Callback)
  finish : Nat × Callback
  code : Int
  between : ∀ timed ∈ before, timed.2.mark = none ∨ timed.2.mark = some .prompt
  starts : start.2.mark = some .start
  unmarked : ∀ timed ∈ output, timed.2.mark = none
  prompting : ∀ timed ∈ prompts, timed.2.mark = some .prompt
  finishes : ∃ rest, finish.2.mark = some (.finish rest) ∧ rest.head?.bind parseI32 = some code

namespace Command

def callbacks (command : Command) : List (Nat × Callback) :=
  command.before ++ [command.start] ++ command.output ++ command.prompts ++ [command.finish]

/-- The output with escape sequences removed. -/
def visible (command : Command) : List Char :=
  command.output.flatMap fun timed => timed.2.visible

/-- The result that the tracker makes: an A mark before the D mark has dropped the time at which the
command started. -/
def tracked (command : Command) : TrackedResult where
  result := { exitCode := command.code, method := "shell_integration" }
  startTime := if command.prompts = [] then some command.start.1 else none

end Command

/-- A stream of commands, ended by text and A marks. -/
def commandStream (commands : List Command) (trailing : List (Nat × Callback)) :
    List (Nat × Callback) := commands.flatMap Command.callbacks ++ trailing

/-- Every command has exactly one result, in order: with its exit code, measured from its own B
mark, and with its own output. -/
def Correct (commands : List Command) (trailing : List (Nat × Callback))
    (delivered : List (CommandResult × List Char)) : Prop :=
  let tracked := (Tracker.new.follow (commandStream commands trailing)).results
  delivered.map Prod.fst = tracked.map TrackedResult.result ∧
    List.Forall₂ (fun command (item : TrackedResult × CommandResult × List Char) =>
      item.2.1.exitCode = command.code ∧ item.1.startTime = some command.start.1 ∧
        item.2.2 = command.visible) commands (tracked.zip delivered)

namespace Tracker

variable {tracker : Tracker} {timed : List (Nat × Callback)}

theorem follow_unmarked (unmarked : ∀ cb ∈ timed, cb.2.mark = none) :
    tracker.follow timed = tracker := by
  induction timed with
  | nil => rfl
  | cons head rest ih =>
    rw [follow_cons, unmarked head mem_cons_self]
    exact ih fun cb mem =>
      unmarked cb (mem_cons_of_mem head mem)

theorem follow_prompts (prompting : ∀ cb ∈ timed, cb.2.mark = some .prompt) :
    tracker.follow timed =
      if timed = [] then tracker else { tracker with state := .idle, pending := none } := by
  induction timed generalizing tracker with
  | nil => rfl
  | cons head rest ih =>
    rw [follow_cons, prompting head mem_cons_self,
      ih fun cb mem =>
        prompting cb (mem_cons_of_mem head mem)]
    split <;> rfl

section

variable (idle : tracker.state = .idle) (nothing : tracker.pending = none)
include idle nothing

theorem follow_between (between : ∀ cb ∈ timed, cb.2.mark = none ∨ cb.2.mark = some .prompt) :
    tracker.follow timed = tracker := by
  induction timed generalizing tracker with
  | nil => rfl
  | cons head rest ih =>
    have same : tracker.apply head.1 head.2.mark = tracker := by
      rcases between head mem_cons_self with unmarked | prompt
      · rw [unmarked]
        rfl
      · rw [prompt, apply, ← idle, ← nothing]
    rw [follow_cons, same]
    exact ih idle nothing fun cb mem =>
      between cb (mem_cons_of_mem head mem)

theorem follow_command (command : Command) : tracker.follow command.callbacks =
      ⟨.idle, none, tracker.results ++ [command.tracked]⟩ := by
  obtain ⟨rest, finish, code⟩ := command.finishes
  have started : tracker.follow [command.start] =
      ⟨.commandStart, some command.start.1, tracker.results⟩ := by
    show tracker.apply command.start.1 command.start.2.mark = _
    rw [command.starts, apply, if_neg (by simp [idle])]
  have finished (running : Tracker) : running.follow [command.finish] =
      ⟨.idle, none, running.push command.code "shell_integration"⟩ := by
    show running.apply command.finish.1 command.finish.2.mark = _
    rw [finish, apply, exitCode, code, getD_some]
  rw [Command.callbacks, follow_append, follow_append, follow_append, follow_append,
    follow_between idle nothing command.between, started, follow_unmarked command.unmarked,
    follow_prompts command.prompting, finished]
  unfold Command.tracked
  split <;> rfl

theorem follow_commands (commands : List Command) :
    tracker.follow (commands.flatMap Command.callbacks) =
      ⟨.idle, none, tracker.results ++ commands.map Command.tracked⟩ := by
  induction commands generalizing tracker with
  | nil =>
    rw [flatMap_nil, map_nil, append_nil, ← idle, ← nothing]
    rfl
  | cons command rest ih =>
    rw [flatMap_cons, follow_append, follow_command idle nothing command,
      ih rfl rfl, map_cons, append_assoc]
    rfl

end

theorem follow_stream (commands : List Command) {trailing : List (Nat × Callback)}
    (between : ∀ cb ∈ trailing, cb.2.mark = none ∨ cb.2.mark = some .prompt) :
    (new.follow (commandStream commands trailing)).results = commands.map Command.tracked := by
  rw [commandStream, follow_append, follow_commands rfl rfl, follow_between rfl rfl between]
  rfl

end Tracker

/-! ### When the results are correct -/

theorem tracked_startTime_iff (command : Command) :
    command.tracked.startTime = some command.start.1 ↔ command.prompts = [] := by
  unfold Command.tracked
  dsimp only
  split
  next noPrompt =>
    exact iff_of_true rfl noPrompt
  next prompted =>
    exact iff_of_false (by simp) prompted

/-- The items are right exactly when no command has an output, and none has an A mark before its D
mark. -/
theorem forall₂_items_iff (commands : List Command) {delivered : List (CommandResult × List Char)}
    (results : delivered.map Prod.fst = commands.map fun command => command.tracked.result)
    (outputs : ∀ item ∈ delivered, item.2 = []) :
    Forall₂ (fun command (item : TrackedResult × CommandResult × List Char) =>
        item.2.1.exitCode = command.code ∧ item.1.startTime = some command.start.1 ∧
          item.2.2 = command.visible) commands
        ((commands.map Command.tracked).zip delivered) ↔
      ∀ command ∈ commands, command.visible = [] ∧ command.prompts = [] := by
  induction commands generalizing delivered with
  | nil => simp
  | cons command rest ih =>
    cases delivered with
    | nil => exact absurd results (by simp)
    | cons item later =>
      simp only [map_cons, cons.injEq] at results
      rw [map_cons, zip_cons_cons, forall₂_cons, forall_mem_cons,
        ih results.2 fun other mem => outputs other (.tail item mem),
        results.1, outputs item mem_cons_self, tracked_startTime_iff]
      refine and_congr_left fun _ => ?_
      constructor
      · rintro ⟨-, noPrompt, empty⟩
        exact ⟨empty.symm, noPrompt⟩
      · rintro ⟨empty, noPrompt⟩
        exact ⟨rfl, noPrompt, empty.symm⟩

/-- However the stream of commands is cut into reads, its results are correct exactly when no
command has any output, and none has an A mark right before its D mark. -/
theorem results_correct_iff (vte : Vte) (width : Char → Option Nat) (cols rows : Nat)
    (commands : List Command) (trailing : List (Nat × Callback))
    (between : ∀ callback ∈ trailing, callback.2.mark = none ∨ callback.2.mark = some .prompt)
    (chunks : List (List UInt8)) {delivered : List (CommandResult × List Char)}
    (decoded : (vte.decode vte.new chunks.flatten).2.flatten =
      (commandStream commands trailing).map Prod.snd)
    (done : (VirtualScreen.new vte.new cols rows).readAll vte width chunks = some delivered) :
    Correct commands trailing delivered ↔
      ∀ command ∈ commands, command.visible = [] ∧ command.prompts = [] := by
  have fresh : Tracker.new.Follows [] (VirtualScreen.new vte.new cols rows).shell := ⟨rfl, rfl, rfl⟩
  obtain ⟨results, outputs⟩ := Tracker.readAll_tracked fresh rfl decoded done
  rw [nil_append] at results
  unfold Correct
  dsimp only
  rw [Tracker.follow_stream commands between] at results ⊢
  rw [and_iff_right results.symm]
  rw [List.map_map] at results
  exact forall₂_items_iff commands results.symm outputs

/-- The small parser with operating-system commands that a bell ends. -/
def shellVte : Vte where
  Parser := SmallParser ⊕ List UInt8
  new := .inl .ground
  advance
    | .inl parser, byte =>
        if parser = .escape ∧ byte = 0x5D then (.inr [], [])
        else (.inl (parser.advance byte).1, (parser.advance byte).2)
    | .inr collected, byte =>
        if byte = 0x07 then (.inl .ground, [.oscDispatch (collected.splitOn 0x3B) true])
        else (.inr (collected ++ [byte]), [])

/-- A command that prints two characters, in a stream of two reads. -/
def listing : Command where
  before := []
  start := (0, .oscDispatch [[0x31, 0x33, 0x33], [0x42]] true)
  output := [(1, .print 'h'), (2, .print 'i')]
  prompts := []
  finish := (3, .oscDispatch [[0x31, 0x33, 0x33], [0x44], [0x37]] true)
  code := 7
  between := by decide
  starts := rfl
  unmarked := by decide
  prompting := by decide
  finishes := ⟨[[0x37]], rfl, rfl⟩

def listingChunks : List (List UInt8) :=
  [textBytes "\x1b]133;B\x07hi".toList, textBytes "\x1b]133;D;7\x07".toList]

theorem results_correct_iff_listing :
    Correct [listing] [] [({ exitCode := 7, method := "shell_integration" }, [])] ↔
      ∀ command ∈ [listing], command.visible = [] ∧ command.prompts = [] :=
  results_correct_iff shellVte smallWidth 10 2 [listing] [] (by decide) listingChunks
    (by decide +kernel) (by decide +kernel)

/-- The result of the command comes with an empty output. -/
theorem listing_output_lost :
    (VirtualScreen.new shellVte.new 10 2).readAll shellVte smallWidth listingChunks =
        some [({ exitCode := 7, method := "shell_integration" }, [])] ∧
      ¬ Correct [listing] [] [({ exitCode := 7, method := "shell_integration" }, [])] := by
  refine ⟨by decide +kernel, fun correct => ?_⟩
  obtain ⟨-, items⟩ := correct
  have tracked : (Tracker.new.follow (commandStream [listing] [])).results = [listing.tracked] :=
    rfl
  rw [tracked, zip_cons_cons, forall₂_cons] at items
  exact absurd items.1.2.2 (by decide)

end Dinotty.Screen
