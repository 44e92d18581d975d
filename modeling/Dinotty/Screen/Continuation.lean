/-
This file follows two screens that show the same and are fed the same. They agree on every further
byte if they agree on the saved cursor and on the buffer behind the one shown too. A replayed
snapshot leaves out the pen, a wrap that is pending, the saved cursor and the buffer that is not
shown.
-/

import Dinotty.Screen.Redraw

namespace Dinotty.Screen

open Option Fallible Performer

/-- The mode flags that a snapshot carries: all but focus reporting. -/
def PrivateModes.carried (modes : PrivateModes) : PrivateModes := { modes with focusEvent := false }

/-! ### What a callback depends on -/

/-- The two performers agree on what decides the shown buffer, and on the carried modes. -/
structure Performer.Alike (p q : Performer) : Prop where
  screen : p.screen = q.screen
  savedCursor : p.savedCursor = q.savedCursor
  pendingSwitch : p.pendingSwitch = q.pendingSwitch
  modes : p.privateModes.carried = q.privateModes.carried

namespace Performer

variable {p q : Performer}

/-- Both actions panic, or both end with performers that agree. -/
abbrev Agree (first second : Option Performer) : Prop := Option.Rel Alike first second

theorem Alike.mapCursor (alike : p.Alike q) (change : CursorState → CursorState) :
    (p.mapCursor change).Alike (q.mapCursor change) :=
  ⟨by rw [Performer.mapCursor, alike.screen]; rfl, alike.savedCursor, alike.pendingSwitch,
    alike.modes⟩

theorem Alike.withScreen (alike : p.Alike q) (screen : ScreenBuffer) (one two : List Row) :
    Alike { p with screen, scrollback := one } { q with screen, scrollback := two } :=
  ⟨rfl, alike.savedCursor, alike.pendingSwitch, alike.modes⟩

theorem Alike.mapCells (alike : p.Alike q) (change : List Row → Option (List Row)) :
    Agree (p.mapCells change) (q.mapCells change) := by
  unfold Performer.mapCells
  rw [alike.screen]
  cases change q.screen.cells with
  | none => exact .none
  | some cells => exact .some ⟨rfl, alike.savedCursor, alike.pendingSwitch, alike.modes⟩

theorem scrollUp_rel (screen : ScreenBuffer) (one two : List Row) :
    Rel (fun first second => first.1 = second.1) (screen.scrollUp one)
      (screen.scrollUp two) := by
  unfold ScreenBuffer.scrollUp
  refine rel_bind (rel_refl _) ?_
  rintro ⟨row, rest⟩ - rfl
  refine rel_bind (rel_refl _) ?_
  rintro cells - rfl
  exact .some rfl

theorem Alike.scrollUp (alike : p.Alike q) : Agree p.scrollUp q.scrollUp := by
  unfold Performer.scrollUp
  rw [alike.screen]
  refine rel_bind (scrollUp_rel q.screen p.scrollback q.scrollback) ?_
  rintro ⟨screen, one⟩ ⟨-, two⟩ rfl
  exact .some (alike.withScreen screen one two)

theorem Alike.scrollDown (alike : p.Alike q) : Agree p.scrollDown q.scrollDown := by
  unfold Performer.scrollDown
  rw [alike.screen]
  cases q.screen.scrollDown with
  | none => exact .none
  | some screen => exact .some ⟨rfl, alike.savedCursor, alike.pendingSwitch, alike.modes⟩

theorem Alike.lineFeed (alike : p.Alike q) : Agree p.lineFeed q.lineFeed := by
  unfold Performer.lineFeed
  rw [alike.screen]
  dsimp only
  split
  · refine rel_bind (scrollUp_rel _ p.scrollback q.scrollback) ?_
    rintro ⟨screen, one⟩ ⟨-, two⟩ rfl
    exact .some (alike.withScreen screen one two)
  · exact .some (alike.mapCursor _)

/-! ### Printing -/

theorem Alike.wrapIf (alike : p.Alike q) {first second : Prop} [Decidable first]
    [Decidable second] (same : first ↔ second) : Agree (p.wrapIf first) (q.wrapIf second) := by
  unfold Performer.wrapIf
  simp only [same]
  split
  · exact (alike.mapCursor _).lineFeed
  · exact .some alike

section

variable (alike : p.Alike q) (width : Char → Option Nat) (c : Char)
include alike width c

theorem Alike.drawGlyph (w : Nat) : Agree (p.drawGlyph width c w) (q.drawGlyph width c w) := by
  unfold Performer.drawGlyph
  rw [alike.screen]
  dsimp only
  split
  · exact alike.mapCells _
  · exact .some alike

theorem Alike.printGlyph (w : Nat) : Agree (p.printGlyph width c w) (q.printGlyph width c w) := by
  unfold Performer.printGlyph
  refine rel_bind (alike.wrapIf (by rw [alike.screen])) fun one two first => ?_
  refine rel_bind (first.wrapIf (by rw [first.screen])) fun three four second => ?_
  refine rel_bind (second.drawGlyph width c w) fun five six drawn => ?_
  exact .some (drawn.mapCursor _)

theorem Alike.print : Agree (p.print width c) (q.print width c) := by
  unfold Performer.print Performer.printCombining
  rw [alike.screen]
  dsimp only
  split
  · split
    · exact alike.mapCells _
    · exact .some alike
  · exact alike.printGlyph width c _

end

theorem Alike.execute (alike : p.Alike q) (byte : UInt8) :
    Agree (p.execute byte) (q.execute byte) := by
  unfold Performer.execute
  rw [alike.screen]
  split
  case h_1 => exact .some (alike.mapCursor _)
  case h_2 => exact .some (alike.mapCursor _)
  case h_3 | h_4 | h_5 => exact alike.lineFeed
  case h_6 => exact .some (alike.mapCursor _)
  case h_7 => exact .some ⟨rfl, alike.savedCursor, alike.pendingSwitch, alike.modes⟩
  case h_8 => exact .some alike

/-! ### Sequences -/

theorem Alike.symm (alike : p.Alike q) : q.Alike p :=
  ⟨alike.screen.symm, alike.savedCursor.symm, alike.pendingSwitch.symm, alike.modes.symm⟩

theorem Alike.trans {r : Performer} (first : p.Alike q) (second : q.Alike r) : p.Alike r :=
  ⟨first.screen.trans second.screen, first.savedCursor.trans second.savedCursor,
    first.pendingSwitch.trans second.pendingSwitch, first.modes.trans second.modes⟩

theorem Silent.alike {next : Performer} (silent : p.Silent next)
    (modes : next.privateModes = p.privateModes) : p.Alike next :=
  ⟨silent.screen.symm, silent.savedCursor.symm, silent.pendingSwitch.symm, by rw [modes]⟩

theorem dispatchOsc133_alike (p : Performer) (params : List (List UInt8)) :
    p.Alike (p.dispatchOsc133 params) := by
  refine (dispatchOsc133_silent p params).alike ?_
  unfold dispatchOsc133
  split <;> rfl

theorem dispatchOsc9_alike (p : Performer) (params : List (List UInt8)) :
    p.Alike (p.dispatchOsc9 params) := by
  refine (dispatchOsc9_silent p params).alike ?_
  unfold dispatchOsc9
  dsimp only
  split
  · rfl
  · split <;> rfl

theorem dispatchOsc777_alike (p : Performer) (params : List (List UInt8)) :
    p.Alike (p.dispatchOsc777 params) := by
  refine (dispatchOsc777_silent p params).alike ?_
  unfold dispatchOsc777
  split <;> rfl

theorem Alike.oscDispatch (alike : p.Alike q) (params : List (List UInt8)) :
    Agree (p.oscDispatch params) (q.oscDispatch params) := by
  unfold Performer.oscDispatch
  cases params with
  | nil => exact .none
  | cons command rest =>
    dsimp only
    refine .some ?_
    split
    · exact (dispatchOsc133_alike p _).symm.trans (alike.trans (dispatchOsc133_alike q _))
    · split
      · exact (dispatchOsc9_alike p _).symm.trans (alike.trans (dispatchOsc9_alike q _))
      · split
        · exact (dispatchOsc777_alike p _).symm.trans (alike.trans (dispatchOsc777_alike q _))
        · exact alike

theorem Alike.withModes (alike : p.Alike q) {first second : PrivateModes}
    (carried : first.carried = second.carried) :
    Alike { p with privateModes := first } { q with privateModes := second } :=
  ⟨alike.screen, alike.savedCursor, alike.pendingSwitch, carried⟩

theorem Alike.withSwitch (alike : p.Alike q) (req : Option Bool) :
    Alike { p with pendingSwitch := req } { q with pendingSwitch := req } :=
  ⟨alike.screen, alike.savedCursor, rfl, alike.modes⟩

theorem Alike.withSyncEvents (alike : p.Alike q) (one two : List SyncEvent) :
    Alike { p with syncEvents := one } { q with syncEvents := two } :=
  ⟨alike.screen, alike.savedCursor, alike.pendingSwitch, alike.modes⟩

theorem Alike.setMode (alike : p.Alike q) (mode : Nat) :
    (p.setMode mode).Alike (q.setMode mode) := by
  have flags (change : PrivateModes → PrivateModes) := congrArg change alike.modes
  unfold Performer.setMode
  split
  case h_1 => exact alike.withModes (flags fun m => { m with cursorKeys := true })
  case h_2 => exact alike.withModes (flags fun m => { m with mouse := .x10 })
  case h_3 | h_4 | h_5 => exact alike.withSwitch _
  case h_6 => exact alike.withModes (flags fun m => { m with keypad := true })
  case h_7 => exact alike.withModes (flags fun m => { m with mouse := .normal })
  case h_8 => exact alike.withModes (flags fun m => { m with mouse := .button })
  case h_9 => exact alike.withModes (flags fun m => { m with mouse := .any })
  case h_10 => exact alike.withModes alike.modes
  case h_11 => exact alike.withModes (flags fun m => { m with encoding := .sgr })
  case h_12 => exact alike.withModes (flags fun m => { m with encoding := .sgrPixels })
  case h_13 => exact alike.withModes (flags fun m => { m with bracketedPaste := true })
  case h_14 => exact alike.withSyncEvents _ _
  case h_15 => exact alike

theorem Alike.resetMode (alike : p.Alike q) (mode : Nat) :
    (p.resetMode mode).Alike (q.resetMode mode) := by
  have flags (change : PrivateModes → PrivateModes) := congrArg change alike.modes
  unfold Performer.resetMode
  split
  case h_1 => exact alike.withModes (flags fun m => { m with cursorKeys := false })
  case h_2 | h_3 | h_4 | h_5 => exact alike.withModes (flags fun m => { m with mouse := .none })
  case h_6 | h_7 | h_8 => exact alike.withSwitch _
  case h_9 => exact alike.withModes (flags fun m => { m with keypad := false })
  case h_10 => exact alike.withModes alike.modes
  case h_11 | h_12 => exact alike.withModes (flags fun m => { m with encoding := .default })
  case h_13 => exact alike.withModes (flags fun m => { m with bracketedPaste := false })
  case h_14 => exact alike.withSyncEvents _ _
  case h_15 => exact alike

theorem Alike.foldl {change : Performer → Nat → Performer}
    (keeps : ∀ (p q : Performer) mode, p.Alike q → (change p mode).Alike (change q mode))
    (alike : p.Alike q) (modes : List Nat) :
    (modes.foldl change p).Alike (modes.foldl change q) := by
  induction modes generalizing p q with
  | nil => exact alike
  | cons mode rest ih => exact ih (keeps p q mode alike)

section

variable (alike : p.Alike q)
include alike

theorem Alike.eraseDisplay (selector : Nat) :
    Agree (p.eraseDisplay selector) (q.eraseDisplay selector) := by
  unfold Performer.eraseDisplay
  rw [alike.screen]
  dsimp only
  split
  case h_1 | h_2 | h_3 | h_4 => exact alike.mapCells _
  case h_5 => exact .some alike

theorem Alike.eraseLine (selector : Nat) : Agree (p.eraseLine selector) (q.eraseLine selector) := by
  unfold Performer.eraseLine
  rw [alike.screen]
  dsimp only
  split
  case h_1 | h_2 | h_3 => exact alike.mapCells _
  case h_4 => exact .some alike

theorem Alike.control (function : ControlFunction) (params : List (List UInt16)) (p0 p1 : Nat) :
    Agree (p.control function params p0 p1) (q.control function params p0 p1) := by
  unfold Performer.control
  rw [alike.screen]
  cases function with
  | cursorUp | cursorDown | cursorForward | cursorBack | cursorPosition | linePosition
  | cursorColumn => exact .some (alike.mapCursor _)
  | eraseDisplay => exact alike.eraseDisplay p0
  | eraseLine => exact alike.eraseLine p0
  | insertLines | deleteLines | deleteCharacters | insertCharacters => exact alike.mapCells _
  | scrollUp => exact rel_repeatTimes (fun _ _ alike => alike.scrollUp) _ alike
  | scrollDown => exact rel_repeatTimes (fun _ _ alike => alike.scrollDown) _ alike
  | setScrollRegion =>
    exact .some ⟨rfl, alike.savedCursor, alike.pendingSwitch, alike.modes⟩
  | eraseCharacters =>
    dsimp only
    split
    · exact alike.mapCells _
    · exact .some alike
  | graphicRendition => exact .some (alike.mapCursor _)

theorem Alike.csiDispatch (params : List (List UInt16)) (inter : List UInt8) (action : Char) :
    Agree (p.csiDispatch params inter action)
      (q.csiDispatch params inter action) := by
  unfold Performer.csiDispatch
  dsimp only
  split
  · split
    · exact .some (foldl (fun _ _ mode alike => alike.setMode mode) alike _)
    · exact .some (foldl (fun _ _ mode alike => alike.resetMode mode) alike _)
    · exact .some alike
  · split
    · exact .some (alike.withModes (congrArg (fun m => m.softReset.carried) alike.modes))
    · split
      · exact .some alike
      · split
        · exact alike.control _ params _ _
        · exact .some alike

theorem Alike.reverseIndex : Agree p.reverseIndex q.reverseIndex := by
  unfold Performer.reverseIndex
  rw [alike.screen]
  split
  · exact alike.scrollDown
  · split
    · exact .some (alike.mapCursor _)
    · exact .some alike

theorem Alike.restoreCursor : p.restoreCursor.Alike q.restoreCursor := by
  unfold Performer.restoreCursor
  rw [alike.savedCursor]
  split
  · exact alike.mapCursor _
  · exact alike

theorem Alike.escDispatch (inter : List UInt8) (byte : UInt8) :
    Agree (p.escDispatch inter byte) (q.escDispatch inter byte) := by
  unfold Performer.escDispatch
  split
  · exact .some ⟨alike.screen, congrArg some (congrArg ScreenBuffer.cursor alike.screen),
      alike.pendingSwitch, alike.modes⟩
  · split
    · exact .some alike.restoreCursor
    · split
      · exact alike.reverseIndex
      · split
        · exact .some (alike.withModes rfl)
        · exact .some alike

theorem Alike.perform (width : Char → Option Nat) (cb : Callback) :
    Agree (p.perform width cb) (q.perform width cb) := by
  cases cb with
  | print c => exact alike.print width c
  | execute byte => exact alike.execute byte
  | hook | put | unhook => exact .some alike
  | oscDispatch params => exact alike.oscDispatch params
  | csiDispatch params inter ignore action =>
    exact alike.csiDispatch params inter action
  | escDispatch inter ignore byte => exact alike.escDispatch inter byte

end

end Performer

theorem perform_saved {width : Char → Option Nat} {p next : Performer} {cb : Callback}
    (saved : p.savedCursor.isSome = true) (done : p.perform width cb = some next) :
    next.savedCursor.isSome = true := by
  by_cases saves : cb.SavesCursor
  · rw [(perform_save saves done).1]
    rfl
  · by_cases switches : cb.Switches
    · cases cb with
      | csiDispatch params inter ignore action =>
        obtain ⟨rfl, rfl | rfl, -⟩ := switches
        · cases done
          rwa [(foldl_untouched setMode_untouched _ p).savedCursor]
        · cases done
          rwa [(foldl_untouched resetMode_untouched _ p).savedCursor]
      | _ => exact absurd switches fun impossible => impossible
    · rwa [(perform_shares switches saves done).savedCursor]

/-! ### Screens that show the same -/

namespace VirtualScreen

variable {Parser : Type}

/-- The two screens show the same, and agree on the saved cursor and, while the alternate screen is
shown, the primary buffer, whose cursor is then saved. -/
structure Alike (vs other : VirtualScreen Parser) : Prop where
  active : vs.active = other.active
  usingAlternate : vs.usingAlternate = other.usingAlternate
  savedCursor : vs.savedCursor = other.savedCursor
  cols : vs.cols = other.cols
  rows : vs.rows = other.rows
  modes : vs.privateModes.carried = other.privateModes.carried
  behind : vs.usingAlternate = true → vs.savedCursor.isSome = true ∧
    vs.primary.withCursor {} = other.primary.withCursor {}

variable {vs other : VirtualScreen Parser}

theorem Alike.performer (alike : vs.Alike other) : vs.performer.Alike other.performer :=
  ⟨alike.active, alike.savedCursor, rfl, alike.modes⟩

theorem Alike.giveBack (alike : vs.Alike other) {p q : Performer} (same : p.Alike q)
    (saved : vs.usingAlternate = true → p.savedCursor.isSome = true) :
    (vs.giveBack p).Alike (other.giveBack q) := by
  obtain ⟨active, shown, savedCursor, cols, rows, modes, behind⟩ := alike
  obtain ⟨primary, alternate, usingAlternate⟩ := vs
  obtain ⟨otherPrimary, otherAlternate, otherShown⟩ := other
  dsimp only at shown
  subst shown
  cases usingAlternate with
  | false =>
    exact ⟨same.screen, rfl, same.savedCursor, cols, rows, same.modes, fun impossible =>
      nomatch impossible⟩
  | true =>
    exact ⟨same.screen, rfl, same.savedCursor, cols, rows, same.modes, fun _ =>
      ⟨saved rfl, (behind rfl).2⟩⟩

theorem Alike.switch (alike : vs.Alike other) (req : Option Bool) :
    (vs.switch req).Alike (other.switch req) := by
  obtain ⟨active, shown, savedCursor, cols, rows, modes, behind⟩ := alike
  obtain ⟨primary, alternate, usingAlternate⟩ := vs
  obtain ⟨otherPrimary, otherAlternate, otherShown⟩ := other
  dsimp only at shown savedCursor cols rows modes behind
  subst shown savedCursor cols rows
  rcases req with _ | enter
  · exact ⟨active, rfl, rfl, rfl, rfl, modes, behind⟩
  · cases enter with
    | true =>
      cases usingAlternate with
      | true => exact ⟨active, rfl, rfl, rfl, rfl, modes, behind⟩
      | false =>
        have same : primary = otherPrimary := active
        subst same
        exact ⟨rfl, rfl, rfl, rfl, rfl, modes, fun _ => ⟨rfl, rfl⟩⟩
    | false =>
      cases usingAlternate with
      | true =>
        obtain ⟨isSaved, same⟩ := behind rfl
        obtain ⟨saved, rfl⟩ := isSome_iff_exists.mp isSaved
        have restored := congrArg (fun buffer => ScreenBuffer.withCursor buffer saved) same
        exact ⟨restored, rfl, rfl, rfl, rfl, modes, nofun⟩
      | false => exact ⟨active, rfl, rfl, rfl, rfl, modes, behind⟩

theorem run_saved {width : Char → Option Nat} {p final : Performer} {cbs : List Callback}
    (saved : p.savedCursor.isSome = true)
    (reached : Fallible.run (Performer.perform width) p cbs = some final) :
    final.savedCursor.isSome = true :=
  run_kept (fun p => p.savedCursor.isSome = true)
    (fun _ _ _ saved done => perform_saved saved done) saved reached

/-- Screens that agree still agree after the callbacks of a byte, or both panic. -/
theorem Alike.perform (alike : vs.Alike other) (width : Char → Option Nat) (cbs : List Callback) :
    Rel Alike (vs.perform width cbs) (other.perform width cbs) := by
  have ran := rel_run
    (fun _ _ cb same => Performer.Alike.perform same width cb) cbs
    alike.performer
  unfold VirtualScreen.perform
  cases first : Fallible.run (Performer.perform width) vs.performer cbs with
  | none =>
    rw [first] at ran
    cases second : Fallible.run (Performer.perform width) other.performer cbs with
    | none => exact .none
    | some q =>
      rw [second] at ran
      cases ran
  | some p =>
    rw [first] at ran
    cases second : Fallible.run (Performer.perform width) other.performer cbs with
    | none =>
      rw [second] at ran
      cases ran
    | some q =>
      rw [second] at ran
      cases ran with
      | some same =>
        have given := alike.giveBack same fun shown => run_saved (alike.behind shown).1 first
        rw [map_some, map_some, same.pendingSwitch]
        exact .some (given.switch q.pendingSwitch)

theorem Alike.withParser (alike : vs.Alike other) (parser : Parser) :
    { vs with parser }.Alike other :=
  ⟨alike.active, alike.usingAlternate, alike.savedCursor, alike.cols, alike.rows, alike.modes,
    alike.behind⟩

theorem Alike.symm (alike : vs.Alike other) : other.Alike vs :=
  ⟨alike.active.symm, alike.usingAlternate.symm, alike.savedCursor.symm, alike.cols.symm,
    alike.rows.symm, alike.modes.symm, fun shown =>
      ⟨by rw [← alike.savedCursor]; exact (alike.behind (alike.usingAlternate.trans shown)).1,
        (alike.behind (alike.usingAlternate.trans shown)).2.symm⟩⟩

theorem Alike.collectOutput (alike : vs.Alike other) (data : List UInt8) :
    (vs.collectOutput data).Alike other := by
  unfold VirtualScreen.collectOutput
  split
  · exact alike
  · exact ⟨alike.active, alike.usingAlternate, alike.savedCursor, alike.cols, alike.rows,
      alike.modes, alike.behind⟩

end VirtualScreen

/-! ### Feeding both screens -/

/-- Between two sequences the parser has no memory: all ground states read every further byte string
alike. -/
def Vte.Memoryless (vte : Vte) (ground : vte.Parser → Prop) : Prop :=
  ∀ first second, ground first → ground second → ∀ bytes,
    (vte.decode first bytes).2 = (vte.decode second bytes).2

section

variable {vte : Vte} {ground : vte.Parser → Prop} {width : Char → Option Nat}

theorem VirtualScreen.Alike.feed {vs other : VirtualScreen vte.Parser} (alike : vs.Alike other)
    (memoryless : vte.Memoryless ground) (grounded : ground vs.parser)
    (otherGrounded : ground other.parser) (data : List UInt8) :
    Rel Alike (vs.feed vte width data) (other.feed vte width data) := by
  have collected : (vs.collectOutput data).Alike (other.collectOutput data) :=
    ((alike.collectOutput data).symm.collectOutput data).symm
  have parser := (vs.collectOutput_same data).2.2.2
  have otherParser := (other.collectOutput_same data).2.2.2
  unfold VirtualScreen.feed
  rw [run_feedByte_eq, run_feedByte_eq, parser, otherParser,
    memoryless vs.parser other.parser grounded otherGrounded data]
  refine rel_map (rel_run
    (fun _ _ cbs same => perform same width cbs) _ collected) ?_
  exact fun one two same => ((same.withParser _).symm.withParser _).symm

end

/-! ### The replayed snapshot -/

/-- What is seen of a screen: the shown buffer with its cells, cursor, pen and scroll region, which
of the two it is, and the modes. -/
def VirtualScreen.Same {Parser : Type} (vs other : VirtualScreen Parser) : Prop :=
  vs.active = other.active ∧ vs.usingAlternate = other.usingAlternate ∧
    vs.privateModes.carried = other.privateModes.carried

/-- A fresh screen of the same size that is fed the snapshot goes on like the original. -/
def VirtualScreen.Continues (vte : Vte) (width : Char → Option Nat)
    (vs : VirtualScreen vte.Parser) : Prop :=
  ∃ copy, (VirtualScreen.new vte.new vs.cols vs.rows).feed vte width
      (textBytes (tokenText vs.snapshot)) = some copy ∧
    ∀ data, Option.Rel VirtualScreen.Same (vs.feed vte width data) (copy.feed vte width data)

/-- The snapshot carries all of the state that later output depends on. The stream stands between
two sequences; the shown buffer is an addressable grid of rows that come back as they are; the pen
is plain and the cursor on a cell, with no wrap pending; and nothing is saved, but for the blank
primary buffer and its cursor in the corner while the alternate screen is shown. -/
structure VirtualScreen.Carried {Parser : Type} (width : Char → Option Nat)
    (ground : Parser → Prop) (vs : VirtualScreen Parser) : Prop where
  between : ground vs.parser
  readable : vs.active.Readable width
  colsEq : vs.active.cols = vs.cols
  rowsEq : vs.active.rows = vs.rows
  addressable : vs.cols ≤ 65535 ∧ vs.rows ≤ 65535
  rows : ∀ line ∈ vs.active.cells, mended line = line
  pen : vs.active.cursor.attrs = {}
  cursor : vs.active.cursor.row < vs.rows ∧ vs.active.cursor.col < vs.cols
  saved :
    if vs.usingAlternate then
      vs.savedCursor = some {} ∧ vs.primary.withCursor {} = .new vs.cols vs.rows
    else vs.savedCursor = none

section

variable {vte : Vte} {ground : vte.Parser → Prop} {width : Char → Option Nat}

theorem VirtualScreen.Carried.replica_eq {Parser : Type} {ground : Parser → Prop}
    {vs : VirtualScreen Parser} (carried : vs.Carried width ground) :
    vs.active.replica = vs.active := by
  have row : min (min vs.active.cursor.row 65534) (vs.active.rows - 1) = vs.active.cursor.row := by
    have := carried.cursor.1
    have := carried.addressable.2
    have := carried.rowsEq
    omega
  have col : min (min vs.active.cursor.col 65534) (vs.active.cols - 1) = vs.active.cursor.col := by
    have := carried.cursor.2
    have := carried.addressable.1
    have := carried.colsEq
    omega
  have cells : vs.active.cells.map mended = vs.active.cells :=
    (List.map_congr_left carried.rows).trans (List.map_id _)
  rw [ScreenBuffer.replica, row, col, cells, ← carried.pen]

theorem VirtualScreen.Carried.alike {Parser : Type} {ground : Parser → Prop}
    {vs : VirtualScreen Parser} (carried : vs.Carried width ground) (parser : Parser) :
    vs.Alike (vs.copy parser) := by
  have active : vs.active = (vs.copy parser).active := by
    rw [vs.copy_active parser, carried.replica_eq]
  have saved := carried.saved
  cases shown : vs.usingAlternate with
  | false =>
    rw [if_neg (by rw [shown]; decide)] at saved
    refine ⟨active, (vs.copy_usingAlternate parser).symm, ?_, ?_, ?_, ?_, fun impossible => ?_⟩
    · rw [saved, copy, shown]
      rfl
    · rw [copy, shown, ← carried.colsEq]
      rfl
    · rw [copy, shown, ← carried.rowsEq]
      rfl
    · rfl
    · rw [shown] at impossible
      cases impossible
  | true =>
    rw [if_pos shown] at saved
    refine ⟨active, (vs.copy_usingAlternate parser).symm, ?_, ?_, ?_, rfl, fun _ => ⟨?_, ?_⟩⟩
    · rw [saved.1, copy, shown]
      rfl
    · rw [copy, shown, ← carried.colsEq]
      rfl
    · rw [copy, shown, ← carried.rowsEq]
      rfl
    · rw [saved.1]
      rfl
    · rw [saved.2, copy, shown, ← carried.colsEq, ← carried.rowsEq]
      rfl

/-- A screen in a state that its snapshot carries goes on like the original, whatever both are
fed. -/
theorem snapshot_continues (vte : Vte) (ground : vte.Parser → Prop)
    (faithful : vte.Faithful ground) (memoryless : vte.Memoryless ground)
    (width : Char → Option Nat) (plain : PlainWidths width) (vs : VirtualScreen vte.Parser)
    (carried : vs.Carried width ground) : vs.Continues vte width := by
  obtain ⟨parser, landed, fed⟩ := feed_snapshot faithful plain vs carried.readable
    (by rw [carried.rowsEq]; exact carried.addressable.2)
  rw [carried.colsEq, carried.rowsEq] at fed
  refine ⟨vs.copy parser, fed, fun data => ?_⟩
  refine rel_mono ((carried.alike parser).feed memoryless carried.between
    (by rw [vs.copy_parser]; exact landed) data) fun one two same => ?_
  exact ⟨same.active, same.usingAlternate, same.modes⟩

end

theorem smallVte_memoryless : smallVte.Memoryless (· = SmallParser.ground) := by
  rintro first second rfl rfl bytes
  rfl

/-- A bold glyph, the rendition reset, and the cursor back on the glyph. -/
theorem snapshot_continues_printed :
    ∃ vs, (VirtualScreen.new smallVte.new 2 1).feed smallVte smallWidth
        (textBytes "\x1b[1ma\x1b[0m\x1b[1;1H".toList) = some vs ∧
      vs.Continues smallVte smallWidth := by
  have run : ((VirtualScreen.new smallVte.new 2 1).feed smallVte smallWidth
      (textBytes "\x1b[1ma\x1b[0m\x1b[1;1H".toList)).map
        (fun vs => (vs.active, vs.usingAlternate, vs.savedCursor, vs.cols, vs.rows)) =
      some ({ ScreenBuffer.new 2 1 with
        cells := [[{ ch := 'a', attrs := { bold := true } }, {}]] }, false, none, 2, 1) := by
    decide +kernel
  have ground : ((VirtualScreen.new smallVte.new 2 1).feed smallVte smallWidth
      (textBytes "\x1b[1ma\x1b[0m\x1b[1;1H".toList)).map VirtualScreen.parser =
      some SmallParser.ground := rfl
  obtain ⟨vs, fed, equal⟩ := map_eq_some_iff.mp run
  rw [fed] at ground
  simp only [Prod.mk.injEq] at equal
  obtain ⟨shown, primary, saved, cols, rows⟩ := equal
  refine ⟨vs, fed, ?_⟩
  refine snapshot_continues smallVte _ SmallParser.faithful smallVte_memoryless smallWidth
    smallWidth_plain vs ⟨some.inj ground, ?_, ?_, ?_, ?_, ?_, ?_, ?_, ?_⟩
  · rw [shown]
    refine ⟨⟨rfl, by decide⟩, by decide, by decide, ?_⟩
    intro line member
    rw [List.mem_singleton.mp member]
    exact .narrow (by decide) (by decide) ⟨by decide, nofun, by decide⟩
      (.narrow (by decide) (by decide) ⟨by decide, nofun, by decide⟩ .nil)
  · rw [shown, cols]
    rfl
  · rw [shown, rows]
    rfl
  · rw [cols, rows]
    decide
  · rw [shown]
    decide
  · rw [shown]
    rfl
  · rw [shown, cols, rows]
    decide
  · rw [primary, if_neg (by decide)]
    exact saved

/-- The rows of a screen and of its replayed snapshot, after both have been fed a further text. -/
def afterReplay (text further : String) : Option (List Row × List Row) := do
  let vs ← (VirtualScreen.new smallVte.new 2 1).feed smallVte smallWidth (textBytes text.toList)
  let copy ← (VirtualScreen.new smallVte.new vs.cols vs.rows).feed smallVte smallWidth
    (textBytes (tokenText vs.snapshot))
  let first ← vs.feed smallVte smallWidth (textBytes further.toList)
  let second ← copy.feed smallVte smallWidth (textBytes further.toList)
  return (first.active.cells, second.active.cells)

theorem not_continues_of_after {text further : String} {first second : List Row}
    (after : afterReplay text further = some (first, second)) (ne : first ≠ second) :
    ∃ vs, (VirtualScreen.new smallVte.new 2 1).feed smallVte smallWidth
        (textBytes text.toList) = some vs ∧ ¬ vs.Continues smallVte smallWidth := by
  obtain ⟨vs, fed, after⟩ := bind_eq_some_iff.mp after
  obtain ⟨copy, copied, after⟩ := bind_eq_some_iff.mp after
  obtain ⟨one, oneFed, after⟩ := bind_eq_some_iff.mp after
  obtain ⟨two, twoFed, after⟩ := bind_eq_some_iff.mp after
  cases after
  refine ⟨vs, fed, ?_⟩
  rintro ⟨other, otherCopied, goesOn⟩
  rw [copied] at otherCopied
  cases otherCopied
  have same := goesOn (textBytes further.toList)
  rw [oneFed, twoFed] at same
  cases same with
  | some shown => exact ne (congrArg ScreenBuffer.cells shown.1)

/-- A snapshot carries neither a pending wrap nor the pen: the next glyph overwrites the last glyph
of the copy, and is bold on the original only. -/
theorem pending_wrap_and_pen_lost :
    (∃ vs, (VirtualScreen.new smallVte.new 2 1).feed smallVte smallWidth
        (textBytes "ab".toList) = some vs ∧ ¬ vs.Continues smallVte smallWidth) ∧
      ∃ vs, (VirtualScreen.new smallVte.new 2 1).feed smallVte smallWidth
        (textBytes "\x1b[1m".toList) = some vs ∧ ¬ vs.Continues smallVte smallWidth := by
  constructor
  · have after : afterReplay "ab" "c" =
        some ([[{ ch := 'c' }, {}]], [[{ ch := 'a' }, { ch := 'c' }]]) := by decide +kernel
    exact not_continues_of_after after (by decide)
  · have after : afterReplay "\x1b[1m" "a" =
        some ([[{ ch := 'a', attrs := { bold := true } }, {}]], [[{ ch := 'a' }, {}]]) := by
      decide +kernel
    exact not_continues_of_after after (by decide)

end Dinotty.Screen
