/-
This file shows what an excursion to the alternate screen leaves behind. The history and the saved
cursor are shared, so an excursion is isolated exactly when it never scrolls a row off the top and
its last save, if there is one, is made where the primary cursor was.
-/

import Dinotty.Screen.Shape

namespace Dinotty.Screen

open List Option Fallible VirtualScreen

/-! ### The callbacks that reach the shared state -/

/-- The private modes that switch between the screens. -/
def SwitchMode (mode : Nat) : Prop := mode = 47 ∨ mode = 1047 ∨ mode = 1049

/-- The callback asks for a switch between the screens. -/
def Callback.Switches : Callback → Prop
  | .csiDispatch params intermediates _ action =>
      intermediates = [0x3F] ∧ (action = 'h' ∨ action = 'l') ∧
        ∃ mode ∈ params.flatten.map UInt16.toNat, SwitchMode mode
  | _ => False

def Callback.SavesCursor : Callback → Prop
  | .escDispatch intermediates _ byte =>
      intermediates = [0x37] ∨ intermediates = [] ∧ byte = 0x37
  | _ => False

/-- The number of times that a glyph of width `w` wraps. -/
def wraps (col cols w : Nat) : Nat :=
  (if col ≥ cols then 1 else 0) +
    if w = 2 ∧ (if col ≥ cols then 0 else col) + 1 ≥ cols then 1 else 0

/-- A line feed leaves the bottom margin of a region that starts at the top of the screen. -/
def ScreenBuffer.LineFeedScrolls (buffer : ScreenBuffer) : Prop :=
  buffer.scrollTop = 0 ∧ buffer.cursor.row + 1 > buffer.scrollBottom

/-- A glyph of width `w` wraps past the bottom margin of such a region. -/
def ScreenBuffer.GlyphScrolls (buffer : ScreenBuffer) (w : Nat) : Prop :=
  buffer.scrollTop = 0 ∧ 0 < wraps buffer.cursor.col buffer.cols w ∧
    buffer.cursor.row + wraps buffer.cursor.col buffer.cols w > buffer.scrollBottom

/-- The callback scrolls a row off the top of the screen. -/
def Callback.ScrollsOff (width : Char → Option Nat) (p : Performer) : Callback → Prop
  | .print c => (width c).getD 0 ≠ 0 ∧ p.screen.GlyphScrolls ((width c).getD 0)
  | .execute byte =>
      (byte = 0x0A ∨ byte = 0x0B ∨ byte = 0x0C) ∧ p.screen.LineFeedScrolls
  | .csiDispatch _ intermediates _ action =>
      intermediates = [] ∧ ControlFunction.ofFinal action = some .scrollUp ∧ p.screen.scrollTop = 0
  | _ => False

/-! ### What an action does to the shared state -/

namespace Performer

/-- What an action does to the state that both screens share. -/
structure Shares (p next : Performer) (scrolls : Prop) : Prop where
  history : ∃ lines, next.scrollback = lines.foldl pushScrollback p.scrollback ∧
    (lines = [] ↔ ¬ scrolls)
  savedCursor : next.savedCursor = p.savedCursor
  usingAlternate : next.usingAlternate = p.usingAlternate
  pendingSwitch : next.pendingSwitch = p.pendingSwitch

section

variable {p middle next : Performer} {first second scrolls : Prop}

theorem Shares.congr (shares : p.Shares next first) (same : first ↔ second) :
    p.Shares next second :=
  ⟨by simpa only [same] using shares.history, shares.savedCursor, shares.usingAlternate,
    shares.pendingSwitch⟩

theorem Shares.trans (before : p.Shares middle first) (after : middle.Shares next second) :
    p.Shares next (first ∨ second) := by
  obtain ⟨front, frontEq, frontEmpty⟩ := before.history
  obtain ⟨back, backEq, backEmpty⟩ := after.history
  refine ⟨⟨front ++ back, ?_, ?_⟩, after.savedCursor.trans before.savedCursor,
    after.usingAlternate.trans before.usingAlternate,
    after.pendingSwitch.trans before.pendingSwitch⟩
  · rw [backEq, frontEq, foldl_append]
  · rw [append_eq_nil_iff, frontEmpty, backEmpty, not_or]

theorem shares_of_same (scrollback : next.scrollback = p.scrollback)
    (savedCursor : next.savedCursor = p.savedCursor)
    (usingAlternate : next.usingAlternate = p.usingAlternate)
    (pendingSwitch : next.pendingSwitch = p.pendingSwitch) : p.Shares next False :=
  ⟨⟨[], scrollback, by simp⟩, savedCursor, usingAlternate, pendingSwitch⟩

theorem Silent.shares (silent : p.Silent next) : p.Shares next False :=
  shares_of_same silent.scrollback silent.savedCursor silent.usingAlternate silent.pendingSwitch

theorem Shares.refl (p : Performer) : p.Shares p False := (Silent.refl p).shares

theorem shares_some {other : Performer} (shares : p.Shares other scrolls)
    (done : some other = some next) : p.Shares next scrolls :=
  some.inj done ▸ shares

theorem mapCursor_shares (p : Performer) (change : CursorState → CursorState) :
    p.Shares (p.mapCursor change) False := shares_of_same rfl rfl rfl rfl

theorem mapCells_shares {change : List Row → Option (List Row)}
    (done : p.mapCells change = some next) : p.Shares next False := by
  obtain ⟨cells, -, rfl⟩ := map_eq_some_iff.mp done
  exact shares_of_same rfl rfl rfl rfl

theorem scrollUp_shares (done : p.scrollUp = some next) :
    p.Shares next (p.screen.scrollTop = 0) ∧ next.screen.scrollTop = p.screen.scrollTop := by
  obtain ⟨⟨screen, hist⟩, scrolled, done⟩ := bind_eq_some_iff.mp done
  cases done
  obtain ⟨⟨line, rest⟩, removed, scrolled⟩ := bind_eq_some_iff.mp scrolled
  obtain ⟨cells, ins, scrolled⟩ := bind_eq_some_iff.mp scrolled
  cases scrolled
  refine ⟨⟨?_, rfl, rfl, rfl⟩, rfl⟩
  by_cases top : p.screen.scrollTop = 0
  · exact ⟨[line], by simp [top], by simp [top]⟩
  · exact ⟨[], by simp [top], by simp [top]⟩

theorem scrollUps_shares {count : Nat} (countPos : 1 ≤ count)
    (done : repeatTimes scrollUp count p = some next) :
    p.Shares next (p.screen.scrollTop = 0) := by
  induction count generalizing p with
  | zero => omega
  | succ count ih =>
    obtain ⟨middle, once, later⟩ := bind_eq_some_iff.mp done
    obtain ⟨first, topEq⟩ := scrollUp_shares once
    by_cases more : 1 ≤ count
    · have rest := ih more later
      rw [topEq] at rest
      exact (first.trans rest).congr (or_self_iff)
    · obtain rfl : count = 0 := by omega
      exact shares_some first later

theorem scrollDown_shares (done : p.scrollDown = some next) : p.Shares next False := by
  obtain ⟨screen, -, done⟩ := bind_eq_some_iff.mp done
  cases done
  exact shares_of_same rfl rfl rfl rfl

theorem lineFeed_shares (done : p.lineFeed = some next) : p.Shares next p.screen.LineFeedScrolls ∧
      next.screen.scrollTop = p.screen.scrollTop ∧
      next.screen.scrollBottom = p.screen.scrollBottom ∧
      next.screen.cols = p.screen.cols ∧
      next.screen.cursor.col = p.screen.cursor.col ∧
      next.screen.cursor.row =
        if p.screen.cursor.row + 1 > p.screen.scrollBottom then p.screen.scrollBottom
        else p.screen.cursor.row + 1 := by
  unfold lineFeed at done
  dsimp only at done
  split at done
  next below =>
    obtain ⟨⟨screen, hist⟩, scrolled, done⟩ := bind_eq_some_iff.mp done
    cases done
    obtain ⟨⟨line, rest⟩, removed, scrolled⟩ := bind_eq_some_iff.mp scrolled
    obtain ⟨cells, ins, scrolled⟩ := bind_eq_some_iff.mp scrolled
    cases scrolled
    refine ⟨⟨?_, rfl, rfl, rfl⟩, rfl, rfl, rfl, rfl, (if_pos below).symm⟩
    by_cases top : p.screen.scrollTop = 0
    · exact ⟨[line], by simp [top], by simp [ScreenBuffer.LineFeedScrolls, top, below]⟩
    · exact ⟨[], by simp [top], by simp [ScreenBuffer.LineFeedScrolls, top]⟩
  next above =>
    cases done
    refine ⟨?_, rfl, rfl, rfl, rfl, (if_neg above).symm⟩
    exact (mapCursor_shares p _).congr (by simp [ScreenBuffer.LineFeedScrolls, above])

/-! ### Printing -/

variable {c : Char}

theorem drawGlyph_shares {width : Char → Option Nat} {w : Nat}
    (done : p.drawGlyph width c w = some next) : p.Shares next False := by
  unfold drawGlyph at done
  dsimp only at done
  split at done
  · exact mapCells_shares done
  · exact shares_some (.refl p) done

theorem printCombining_shares (done : p.printCombining c = some next) : p.Shares next False := by
  unfold printCombining at done
  dsimp only at done
  split at done
  · exact mapCells_shares done
  · exact shares_some (.refl p) done

theorem wrapIf_shares {cond : Prop} [Decidable cond] (done : p.wrapIf cond = some next) :
    p.Shares next (cond ∧ p.screen.LineFeedScrolls) ∧ next.screen.scrollTop = p.screen.scrollTop ∧
      next.screen.scrollBottom = p.screen.scrollBottom ∧
      next.screen.cols = p.screen.cols ∧
      next.screen.cursor.col = (if cond then 0 else p.screen.cursor.col) ∧
      next.screen.cursor.row = (if cond then
          if p.screen.cursor.row + 1 > p.screen.scrollBottom then p.screen.scrollBottom
          else p.screen.cursor.row + 1
        else p.screen.cursor.row) := by
  unfold wrapIf at done
  split at done
  next holds =>
    obtain ⟨shares, landed⟩ := lineFeed_shares done
    rw [if_pos holds, if_pos holds]
    refine ⟨?_, landed⟩
    exact ((mapCursor_shares p _).trans shares).congr
      ((or_iff_right id).trans (and_iff_right holds).symm)
  next fails =>
    cases done
    rw [if_neg fails, if_neg fails]
    exact ⟨(Shares.refl p).congr (by simp [fails]), rfl, rfl, rfl, rfl, rfl⟩

theorem printGlyph_shares {width : Char → Option Nat} {w : Nat}
    (done : p.printGlyph width c w = some next) : p.Shares next (p.screen.GlyphScrolls w) := by
  obtain ⟨one, first, done⟩ := bind_eq_some_iff.mp done
  obtain ⟨two, second, done⟩ := bind_eq_some_iff.mp done
  obtain ⟨three, drawn, done⟩ := bind_eq_some_iff.mp done
  obtain ⟨firstShares, topEq, bottomEq, colsEq, colEq, rowEq⟩ := wrapIf_shares first
  obtain ⟨secondShares, -⟩ := wrapIf_shares second
  have moved := shares_some (mapCursor_shares three _) done
  refine ((firstShares.trans secondShares).trans ((drawGlyph_shares drawn).trans moved)).congr ?_
  simp only [or_false, ScreenBuffer.LineFeedScrolls, ScreenBuffer.GlyphScrolls, topEq, bottomEq,
    rowEq, colsEq, colEq, wraps]
  clear topEq bottomEq colsEq colEq rowEq first second firstShares secondShares
  by_cases full : p.screen.cursor.col ≥ p.screen.cols
  · simp only [full, if_true, true_and]
    split_ifs <;> omega
  · simp only [full, if_false, false_and, false_or]
    split_ifs <;> omega

/-! ### One callback -/

theorem execute_shares {byte : UInt8} (done : p.execute byte = some next) : p.Shares next
      ((byte = 0x0A ∨ byte = 0x0B ∨ byte = 0x0C) ∧ p.screen.LineFeedScrolls) := by
  unfold execute at done
  split at done
  case h_3 | h_4 | h_5 => exact (lineFeed_shares done).1.congr (by simp)
  case h_1 | h_2 | h_6 | h_7 =>
    cases done
    exact Shares.congr (shares_of_same rfl rfl rfl rfl) (by simp)
  case h_8 notFeed notVertical notForm _ _ =>
    refine (shares_some (.refl p) done).congr ?_
    simp only [false_iff, not_and]
    rintro (rfl | rfl | rfl)
    all_goals contradiction

theorem eraseLine_shares {selector : Nat} (done : p.eraseLine selector = some next) :
    p.Shares next False := by
  unfold eraseLine at done
  dsimp only at done
  split at done
  case h_4 => exact shares_some (.refl p) done
  all_goals exact mapCells_shares done

theorem eraseDisplay_shares {selector : Nat} (done : p.eraseDisplay selector = some next) :
    p.Shares next False := by
  unfold eraseDisplay at done
  dsimp only at done
  split at done
  case h_5 => exact shares_some (.refl p) done
  all_goals exact mapCells_shares done

theorem control_shares {function : ControlFunction} {params : List (List UInt16)} {p0 p1 : Nat}
    (done : p.control function params p0 p1 = some next) :
    p.Shares next (function = .scrollUp ∧ p.screen.scrollTop = 0) := by
  have countPos : 1 ≤ orOne p0 := by
    unfold orOne
    split <;> omega
  have quiet (shares : p.Shares next False) (other : function ≠ .scrollUp) :
      p.Shares next (function = .scrollUp ∧ p.screen.scrollTop = 0) :=
    shares.congr (by simp [other])
  cases function with
  | scrollUp => exact (scrollUps_shares countPos done).congr (by simp)
  | scrollDown =>
    refine quiet ?_ (by simp)
    have once (state after : Performer) (before : p.Shares state False)
        (taken : state.scrollDown = some after) : p.Shares after False :=
      (before.trans (scrollDown_shares taken)).congr (by simp)
    exact repeatTimes_invariant once (.refl p) done
  | eraseDisplay => exact quiet (eraseDisplay_shares done) (by simp)
  | eraseLine => exact quiet (eraseLine_shares done) (by simp)
  | insertLines | deleteLines | deleteCharacters | insertCharacters =>
    simp only [control] at done
    exact quiet (mapCells_shares done) (by simp)
  | eraseCharacters =>
    refine quiet ?_ (by simp)
    simp only [control] at done
    split at done
    · exact mapCells_shares done
    · exact shares_some (.refl p) done
  | cursorUp | cursorDown | cursorForward | cursorBack | cursorPosition | setScrollRegion
  | linePosition | cursorColumn | graphicRendition =>
    cases done
    exact quiet (shares_of_same rfl rfl rfl rfl) (by simp)

theorem setMode_pendingSwitch (p : Performer) {mode : Nat} (other : ¬ SwitchMode mode) :
    (p.setMode mode).pendingSwitch = p.pendingSwitch := by
  unfold setMode
  split
  case h_3 | h_4 | h_5 => simp [SwitchMode] at other
  all_goals rfl

theorem resetMode_pendingSwitch (p : Performer) {mode : Nat} (other : ¬ SwitchMode mode) :
    (p.resetMode mode).pendingSwitch = p.pendingSwitch := by
  unfold resetMode
  split
  case h_6 | h_7 | h_8 => simp [SwitchMode] at other
  all_goals rfl

theorem foldl_pendingSwitch {change : Performer → Nat → Performer}
    (keeps : ∀ (q : Performer) mode, ¬ SwitchMode mode →
      (change q mode).pendingSwitch = q.pendingSwitch)
    {modes : List Nat} (others : ¬ ∃ mode ∈ modes, SwitchMode mode) (p : Performer) :
    (modes.foldl change p).pendingSwitch = p.pendingSwitch := by
  induction modes generalizing p with
  | nil => rfl
  | cons mode rest ih =>
    rw [exists_mem_cons_iff, not_or] at others
    rw [foldl_cons, ih others.2, keeps p mode others.1]

theorem csiDispatch_shares {params : List (List UInt16)} {inter : List UInt8}
    {ignore : Bool} {action : Char}
    (stays : ¬ (Callback.csiDispatch params inter ignore action).Switches)
    (done : p.csiDispatch params inter action = some next) :
    p.Shares next (inter = [] ∧ ControlFunction.ofFinal action = some .scrollUp ∧
      p.screen.scrollTop = 0) := by
  unfold csiDispatch at done
  dsimp only at done
  split at done
  next question =>
    refine Shares.congr (?_ : p.Shares next False) (by simp [question])
    split at done
    · cases done
      have others : ¬ ∃ mode ∈ params.flatten.map UInt16.toNat, SwitchMode mode :=
        fun switch => stays ⟨question, Or.inl rfl, switch⟩
      exact Silent.shares ⟨foldl_untouched setMode_untouched _ p,
        foldl_pendingSwitch (fun q _ => setMode_pendingSwitch q) others p⟩
    · cases done
      have others : ¬ ∃ mode ∈ params.flatten.map UInt16.toNat, SwitchMode mode :=
        fun switch => stays ⟨question, Or.inr rfl, switch⟩
      exact Silent.shares ⟨foldl_untouched resetMode_untouched _ p,
        foldl_pendingSwitch (fun q _ => resetMode_pendingSwitch q) others p⟩
    · exact shares_some (.refl p) done
  · split at done
    next bang =>
      cases done
      exact Shares.congr (shares_of_same rfl rfl rfl rfl) (by simp [bang.1])
    · split at done
      next nonempty =>
        exact (shares_some (.refl p) done).congr (by simp [nonempty])
      next empty =>
        rw [not_not] at empty
        split at done
        next function final =>
          refine (control_shares done).congr ?_
          simp [empty, final]
        next final =>
          exact (shares_some (.refl p) done).congr (by simp [final])

theorem escDispatch_shares {inter : List UInt8} {ignore : Bool} {byte : UInt8}
    (keeps : ¬ (Callback.escDispatch inter ignore byte).SavesCursor)
    (done : p.escDispatch inter byte = some next) : p.Shares next False := by
  unfold escDispatch at done
  split at done
  next saves =>
    exact absurd saves keeps
  · split at done
    · cases done
      unfold restoreCursor
      split
      · exact shares_of_same rfl rfl rfl rfl
      · exact .refl p
    · split at done
      · unfold reverseIndex at done
        split at done
        · exact scrollDown_shares done
        · split at done
          all_goals
            cases done
            exact shares_of_same rfl rfl rfl rfl
      · split at done
        all_goals
          cases done
          exact shares_of_same rfl rfl rfl rfl

end

end Performer

/-- A callback that asks for no switch and does not save the cursor appends rows to the history
exactly when it scrolls a row off the top, and touches no other shared field. -/
theorem perform_shares {width : Char → Option Nat} {p next : Performer} {callback : Callback}
    (stays : ¬ callback.Switches) (keeps : ¬ callback.SavesCursor)
    (done : p.perform width callback = some next) :
    p.Shares next (callback.ScrollsOff width p) := by
  cases callback with
  | print c =>
    simp only [Performer.perform, Performer.print] at done
    split at done
    next combining =>
      exact (Performer.printCombining_shares done).congr (by simp [Callback.ScrollsOff, combining])
    next glyph =>
      exact (Performer.printGlyph_shares done).congr (by simp [Callback.ScrollsOff, glyph])
  | execute byte => exact Performer.execute_shares done
  | hook params inter ignore action | put byte | unhook =>
    exact Performer.shares_some (.refl p) done
  | oscDispatch params bellTerminated =>
    have segment : params ≠ [] := by
      rintro rfl
      simp [Performer.perform, Performer.oscDispatch] at done
    exact (of_total (Performer.oscDispatch_silent p segment) done).shares
  | csiDispatch params inter ignore action =>
    exact Performer.csiDispatch_shares stays done
  | escDispatch inter ignore byte => exact Performer.escDispatch_shares keeps done

theorem perform_save {width : Char → Option Nat} {p next : Performer} {callback : Callback}
    (saves : callback.SavesCursor) (done : p.perform width callback = some next) :
    next = p.saveCursor ∧ ¬ callback.ScrollsOff width p := by
  cases callback with
  | escDispatch inter ignore byte =>
    have saves' : inter = [0x37] ∨ inter = [] ∧ byte = 0x37 := saves
    simp only [Performer.perform, Performer.escDispatch, if_pos saves', some.injEq] at done
    exact ⟨done.symm, fun scrolls => scrolls⟩
  | _ => exact absurd saves fun impossible => impossible

/-! ### Runs of callbacks -/

/-- The position of a cursor, without its rendition. -/
def CursorState.position (cursor : CursorState) : Nat × Nat := (cursor.row, cursor.col)

section

variable (width : Char → Option Nat)

/-- No callback of the run scrolls a row off the top of the screen. -/
def NeverScrollsOff : Performer → List Callback → Prop :=
  Fallible.Meets (Performer.perform width) fun p callback => ¬ callback.ScrollsOff width p

/-- The last save of the run, if there is one, is made with the cursor at `position`. -/
def LastSaveAt (position : Nat × Nat) : Performer → List Callback → Prop
  | _, [] => True
  | p, callback :: rest =>
      (callback.SavesCursor → (∀ later ∈ rest, ¬ later.SavesCursor) →
        p.screen.cursor.position = position) ∧
      ∀ next, p.perform width callback = some next → LastSaveAt position next rest

variable {width}

variable {p final : Performer} {callbacks : List Callback}

section

variable (stays : ∀ callback ∈ callbacks, ¬ callback.Switches)
include stays

/-- A run without a switch appends rows to the history exactly when one of its callbacks scrolls a
row off the top. -/
theorem run_shares (reached : run (Performer.perform width) p callbacks = some final) :
    final.usingAlternate = p.usingAlternate ∧ final.pendingSwitch = p.pendingSwitch ∧
      ∃ lines, final.scrollback = lines.foldl pushScrollback p.scrollback ∧
        (lines = [] ↔ NeverScrollsOff width p callbacks) := by
  induction callbacks generalizing p with
  | nil =>
    cases reached
    exact ⟨rfl, rfl, [], rfl, iff_of_true rfl trivial⟩
  | cons callback rest ih =>
    rw [forall_mem_cons] at stays
    obtain ⟨next, taken, later⟩ := bind_eq_some_iff.mp reached
    obtain ⟨shown, req, lines, linesEq, linesEmpty⟩ := ih stays.2 later
    have once : next.usingAlternate = p.usingAlternate ∧ next.pendingSwitch = p.pendingSwitch ∧
        ∃ front, next.scrollback = front.foldl pushScrollback p.scrollback ∧
          (front = [] ↔ ¬ callback.ScrollsOff width p) := by
      by_cases saves : callback.SavesCursor
      · obtain ⟨rfl, quiet⟩ := perform_save saves taken
        exact ⟨rfl, rfl, [], rfl, iff_of_true rfl quiet⟩
      · have shares := perform_shares stays.1 saves taken
        exact ⟨shares.usingAlternate, shares.pendingSwitch, shares.history⟩
    obtain ⟨onceShown, onceRequest, front, frontEq, frontEmpty⟩ := once
    refine ⟨shown.trans onceShown, req.trans onceRequest, front ++ lines, ?_, ?_⟩
    · rw [linesEq, frontEq, foldl_append]
    · rw [append_eq_nil_iff, frontEmpty, linesEmpty, NeverScrollsOff, meets_cons_iff taken]

theorem run_savedCursor_none (keeps : ∀ callback ∈ callbacks, ¬ callback.SavesCursor)
    (reached : run (Performer.perform width) p callbacks = some final) :
    final.savedCursor = p.savedCursor ∧ ∀ pos, LastSaveAt width pos p callbacks := by
  induction callbacks generalizing p with
  | nil =>
    cases reached
    exact ⟨rfl, fun _ => trivial⟩
  | cons callback rest ih =>
    rw [forall_mem_cons] at stays keeps
    obtain ⟨next, taken, later⟩ := bind_eq_some_iff.mp reached
    obtain ⟨saved, lastSave⟩ := ih stays.2 keeps.2 later
    refine ⟨saved.trans (perform_shares stays.1 keeps.1 taken).savedCursor, fun pos => ?_⟩
    refine ⟨fun saves => absurd saves keeps.1, fun other otherTaken => ?_⟩
    rw [taken] at otherTaken
    exact some.inj otherTaken ▸ lastSave pos

/-- The cursor saved after a run that saves one is the one of its last save. -/
theorem run_savedCursor_some (saves : ∃ callback ∈ callbacks, callback.SavesCursor)
    (reached : run (Performer.perform width) p callbacks = some final) :
    ∃ cursor, final.savedCursor = some cursor ∧
      ∀ position, cursor.position = position ↔ LastSaveAt width position p callbacks := by
  induction callbacks generalizing p with
  | nil => simp at saves
  | cons callback rest ih =>
    rw [forall_mem_cons] at stays
    obtain ⟨next, taken, later⟩ := bind_eq_some_iff.mp reached
    have unfolded (position : Nat × Nat) : LastSaveAt width position p (callback :: rest) ↔
        (callback.SavesCursor → (∀ after ∈ rest, ¬ after.SavesCursor) →
          p.screen.cursor.position = position) ∧ LastSaveAt width position next rest := by
      rw [LastSaveAt, taken]
      simp
    by_cases more : ∃ after ∈ rest, after.SavesCursor
    · obtain ⟨cursor, saved, decides⟩ := ih stays.2 more later
      refine ⟨cursor, saved, fun position => ?_⟩
      rw [unfolded, decides position]
      refine (and_iff_right fun _ none => ?_).symm
      obtain ⟨after, mem, afterSaves⟩ := more
      exact absurd afterSaves (none after mem)
    · have none : ∀ after ∈ rest, ¬ after.SavesCursor :=
        fun after mem afterSaves => more ⟨after, mem, afterSaves⟩
      have here : callback.SavesCursor := by
        obtain ⟨other, mem, otherSaves⟩ := saves
        rcases mem_cons.mp mem with rfl | inRest
        · exact otherSaves
        · exact absurd otherSaves (none other inRest)
      obtain ⟨rfl, -⟩ := perform_save here taken
      obtain ⟨saved, lastSave⟩ := run_savedCursor_none stays.2 none later
      refine ⟨p.screen.cursor, saved, fun position => ?_⟩
      rw [unfolded]
      exact ⟨fun equal => ⟨fun _ _ => equal, lastSave position⟩, fun both => both.1 here none⟩

theorem run_savedCursor {saved : CursorState} (start : p.savedCursor = some saved)
    (reached : run (Performer.perform width) p callbacks = some final) :
    ∃ cursor, final.savedCursor = some cursor ∧
      (cursor.position = saved.position ↔ LastSaveAt width saved.position p callbacks) := by
  by_cases saves : ∃ callback ∈ callbacks, callback.SavesCursor
  · obtain ⟨cursor, cursorSaved, decides⟩ := run_savedCursor_some stays saves reached
    exact ⟨cursor, cursorSaved, decides saved.position⟩
  · have none : ∀ callback ∈ callbacks, ¬ callback.SavesCursor :=
      fun callback mem callbackSaves => saves ⟨callback, mem, callbackSaves⟩
    obtain ⟨same, lastSave⟩ := run_savedCursor_none stays none reached
    exact ⟨saved, same.trans start, iff_of_true rfl (lastSave saved.position)⟩

end

theorem foldl_pushScrollback_length (lines hist : List Row)
    (bound : hist.length ≤ scrollbackLimit) :
    (lines.foldl pushScrollback hist).length =
      min (hist.length + lines.length) scrollbackLimit := by
  induction lines generalizing hist with
  | nil => exact (Nat.min_eq_left bound).symm
  | cons line rest ih =>
    have pushed : (pushScrollback hist line).length = min (hist.length + 1) scrollbackLimit := by
      unfold pushScrollback
      dsimp only
      split
      next ended =>
        rw [length_drop]
        rw [length_append, length_singleton] at ended ⊢
        omega
      next under =>
        rw [length_append, length_singleton] at under ⊢
        omega
    rw [foldl_cons, ih _ (by omega), pushed, length_cons]
    omega

end

/-! ### The excursion -/

namespace VirtualScreen

variable {Parser : Type} {width : Char → Option Nat}

variable (vs : VirtualScreen Parser)

theorem giveBack_giveBack (first second : Performer) :
    (vs.giveBack first).giveBack second = vs.giveBack second := by
  obtain ⟨primary, alternate, usingAlternate⟩ := vs
  cases usingAlternate <;> rfl

theorem performer_giveBack {p : Performer}
    (shown : p.usingAlternate = vs.usingAlternate) (req : p.pendingSwitch = none) :
    (vs.giveBack p).performer = p := by
  obtain ⟨primary, alternate, usingAlternate⟩ := vs
  obtain ⟨screen, scrollback, savedCursor, pendingSwitch, pShown⟩ := p
  dsimp only at shown req
  subst shown req
  cases pShown <;> rfl

variable {vs : VirtualScreen Parser}

theorem run_perform_stays {final : VirtualScreen Parser} {groups : List (List Callback)}
    (stays : ∀ callback ∈ groups.flatten, ¬ callback.Switches)
    (reached : run (perform width) vs groups = some final) :
    ∃ p, run (Performer.perform width) vs.performer groups.flatten = some p ∧
      final = vs.giveBack p := by
  induction groups generalizing vs with
  | nil =>
    obtain rfl := some.inj reached
    exact ⟨vs.performer, rfl, (giveBack_performer vs).symm⟩
  | cons group rest ih =>
    rw [flatten_cons, forall_mem_append] at stays
    obtain ⟨next, performed, later⟩ := bind_eq_some_iff.mp reached
    obtain ⟨p, ran, rfl⟩ := map_eq_some_iff.mp performed
    obtain ⟨shown, req, -⟩ := run_shares stays.1 ran
    have noRequest : p.pendingSwitch = none := req
    rw [noRequest] at later
    obtain ⟨last, ranRest, rfl⟩ := ih stays.2 later
    refine ⟨last, ?_, giveBack_giveBack vs p last⟩
    have resumed : ((vs.giveBack p).switch none).performer = p :=
      performer_giveBack vs shown noRequest
    rw [flatten_cons, run_append_of_some _ ran, ← ranRest, resumed]

/-- `CSI ?1049h`. -/
def enterCallback : Callback := .csiDispatch [[1049]] [0x3F] false 'h'

/-- `CSI ?1049l`. -/
def leaveCallback : Callback := .csiDispatch [[1049]] [0x3F] false 'l'

theorem perform_enter (primaryShown : vs.usingAlternate = false) :
    vs.perform width [enterCallback] = some vs.enterAlternate := by
  obtain ⟨primary, alternate, usingAlternate⟩ := vs
  dsimp only at primaryShown
  subst primaryShown
  rfl

theorem perform_leave (alternateShown : vs.usingAlternate = true) :
    vs.perform width [leaveCallback] = some vs.leaveAlternate := by
  obtain ⟨primary, alternate, usingAlternate⟩ := vs
  dsimp only at alternateShown
  subst alternateShown
  rfl

/-- The primary buffer has its cells, the history its rows and the primary cursor its position
from before. -/
structure Isolated (before after : VirtualScreen Parser) : Prop where
  cells : after.primary.cells = before.primary.cells
  scrollback : after.scrollback = before.scrollback
  position : after.primary.cursor.position = before.primary.cursor.position

/-- No callback scrolls a row off the top of the alternate screen, and the last save, if there is
one, is made at the position of the primary cursor. -/
def IsolatedWhen (width : Char → Option Nat) (vs : VirtualScreen Parser)
    (callbacks : List Callback) : Prop :=
  NeverScrollsOff width vs.enterAlternate.performer callbacks ∧
    LastSaveAt width vs.primary.cursor.position vs.enterAlternate.performer callbacks

theorem excursion_isolated {final : VirtualScreen Parser}
    {enter groups leave : List (List Callback)} (primaryShown : vs.usingAlternate = false)
    (entered : enter.flatten = [enterCallback]) (left : leave.flatten = [leaveCallback])
    (stays : ∀ callback ∈ groups.flatten, ¬ callback.Switches)
    (reached : run (perform width) vs (enter ++ groups ++ leave) = some final) :
    (vs.IsolatedWhen width groups.flatten → vs.Isolated final) ∧
      (vs.scrollback.length < scrollbackLimit → vs.Isolated final →
        vs.IsolatedWhen width groups.flatten) := by
  have first : run (perform width) vs enter = some vs.enterAlternate := by
    rw [run_groups_singleton width vs entered, perform_enter primaryShown]
  rw [append_assoc, run_append_of_some _ first, run_append] at reached
  obtain ⟨away, ranAway, ranLeave⟩ := bind_eq_some_iff.mp reached
  obtain ⟨p, ran, rfl⟩ := run_perform_stays stays ranAway
  have back : run (perform width) (vs.enterAlternate.giveBack p) leave =
      some (vs.enterAlternate.giveBack p).leaveAlternate := by
    rw [run_groups_singleton width _ left]
    exact perform_leave rfl
  cases back.symm.trans ranLeave
  obtain ⟨-, -, lines, linesEq, linesEmpty⟩ := run_shares stays ran
  have start : vs.enterAlternate.performer.savedCursor = some vs.primary.cursor := rfl
  obtain ⟨cursor, saved, decides⟩ := run_savedCursor stays start ran
  have hist : (vs.enterAlternate.giveBack p).leaveAlternate.scrollback =
      lines.foldl pushScrollback vs.scrollback := linesEq
  have primary : (vs.enterAlternate.giveBack p).leaveAlternate.primary =
      { vs.primary with cursor } := by
    unfold leaveAlternate giveBack
    simp only [saved]
    rfl
  constructor
  · rintro ⟨quiet, lastSave⟩
    refine ⟨by rw [primary], ?_, by rw [primary, decides.mpr lastSave]⟩
    rw [hist, linesEmpty.mpr quiet, foldl_nil]
  · rintro room ⟨-, scrollbackEq, positionEq⟩
    constructor
    · refine linesEmpty.mp (eq_nil_of_length_eq_zero ?_)
      have length := congrArg length (hist.symm.trans scrollbackEq)
      rw [foldl_pushScrollback_length _ _ (Nat.le_of_lt room)] at length
      omega
    · rw [primary] at positionEq
      exact decides.mp positionEq

theorem collectOutput_same (data : List UInt8) :
    (vs.collectOutput data).primary = vs.primary ∧
      (vs.collectOutput data).scrollback = vs.scrollback ∧
      (vs.collectOutput data).usingAlternate = vs.usingAlternate ∧
      (vs.collectOutput data).parser = vs.parser := by
  unfold collectOutput
  split <;> exact ⟨rfl, rfl, rfl, rfl⟩

end VirtualScreen

/-- The parser reads the bytes as `CSI ?1049h`, the given callbacks, and `CSI ?1049l`. -/
def Vte.ReadsExcursion (vte : Vte) (parser : vte.Parser) (data : List UInt8)
    (callbacks : List Callback) : Prop :=
  ∃ enter groups leave, (vte.decode parser data).2 = enter ++ groups ++ leave ∧
    enter.flatten = [VirtualScreen.enterCallback] ∧ groups.flatten = callbacks ∧
    leave.flatten = [VirtualScreen.leaveCallback]

/-- An excursion to the alternate screen that contains no switch leaves the primary cells, the
history and the primary cursor position as they were when it scrolls no row off the top and its last
save of the cursor is made at the primary cursor. While the history is below its limit, it does so
only then. -/
theorem alternate_excursion_isolated (vte : Vte) (width : Char → Option Nat)
    {vs final : VirtualScreen vte.Parser} (primaryShown : vs.usingAlternate = false)
    {data : List UInt8} {callbacks : List Callback}
    (reads : vte.ReadsExcursion vs.parser data callbacks)
    (stays : ∀ callback ∈ callbacks, ¬ callback.Switches)
    (fed : vs.feed vte width data = some final) :
    ((vs.collectOutput data).IsolatedWhen width callbacks → vs.Isolated final) ∧
      (vs.scrollback.length < scrollbackLimit → vs.Isolated final →
        (vs.collectOutput data).IsolatedWhen width callbacks) := by
  obtain ⟨primaryEq, scrollbackEq, shownEq, parserEq⟩ := vs.collectOutput_same data
  obtain ⟨enter, groups, leave, decoded, entered, rfl, left⟩ := reads
  rw [VirtualScreen.feed, run_feedByte_eq, parserEq, decoded] at fed
  obtain ⟨last, ran, rfl⟩ := map_eq_some_iff.mp fed
  obtain ⟨enough, needed⟩ :=
    VirtualScreen.excursion_isolated (shownEq.trans primaryShown) entered left stays ran
  rw [scrollbackEq] at needed
  refine ⟨fun quiet => ?_, fun room isolated => needed room ?_⟩
  · have isolated := enough quiet
    exact ⟨isolated.cells.trans (congrArg _ primaryEq), isolated.scrollback.trans scrollbackEq,
      isolated.position.trans (congrArg (·.cursor.position) primaryEq)⟩
  · exact ⟨isolated.cells.trans (congrArg _ primaryEq.symm),
      isolated.scrollback.trans scrollbackEq.symm,
      isolated.position.trans (congrArg (·.cursor.position) primaryEq.symm)⟩

/-- The groups of a control sequence of eight bytes: seven bytes that dispatch nothing, then the
dispatch. -/
def eighthByte (callback : Callback) : List (List Callback) :=
  List.replicate 7 [] ++ [[callback]]

/-- Two letters printed on the alternate screen stay there. -/
theorem alternate_excursion_isolated_printed :
    ∃ final, (VirtualScreen.new smallVte.new 4 2).feed smallVte smallWidth
        (textBytes "\x1b[?1049hab\x1b[?1049l".toList) = some final ∧
      (VirtualScreen.new smallVte.new 4 2).Isolated final := by
  have run : ((VirtualScreen.new smallVte.new 4 2).feed smallVte smallWidth
      (textBytes "\x1b[?1049hab\x1b[?1049l".toList)).isSome = true := by decide +kernel
  obtain ⟨final, fed⟩ := isSome_iff_exists.mp run
  refine ⟨final, fed, ?_⟩
  have reads : smallVte.ReadsExcursion smallVte.new
      (textBytes "\x1b[?1049hab\x1b[?1049l".toList) [.print 'a', .print 'b'] :=
    ⟨eighthByte VirtualScreen.enterCallback, [[.print 'a'], [.print 'b']],
      eighthByte VirtualScreen.leaveCallback, by decide +kernel, rfl, rfl, rfl⟩
  have stays : ∀ callback ∈ [Callback.print 'a', .print 'b'], ¬ callback.Switches := by
    simp [Callback.Switches]
  have isolated := @alternate_excursion_isolated smallVte smallWidth (.new smallVte.new 4 2) final
    rfl _ _ reads stays fed
  refine isolated.1 ⟨?_, ?_⟩
  · refine meets_cons_of_some (fun scrolls => ?_) rfl ?_
    · exact absurd scrolls.2.2.1 (by decide)
    · refine meets_cons_of_some (fun scrolls => ?_) rfl trivial
      exact absurd scrolls.2.2.1 (by decide)
  · exact ⟨fun saves => saves.elim, fun _ _ => ⟨fun saves => saves.elim, fun _ _ => trivial⟩⟩

/-- What the claimed isolation would keep of a screen of four columns and two rows: the empty
history and the cursor at the origin. -/
def afterExcursion (text : String) : Option (List Row × Nat × Nat) :=
  ((VirtualScreen.new smallVte.new 4 2).feed smallVte smallWidth (textBytes text.toList)).map
    fun vs => (vs.scrollback, vs.primary.cursor.position)

theorem not_isolated_of_after {text : String} {after : List Row × Nat × Nat}
    (outcome : afterExcursion text = some after) (differs : after ≠ ([], 0, 0)) :
    ∃ final, (new smallVte.new 4 2).feed smallVte smallWidth
        (textBytes text.toList) = some final ∧
      ¬ (new smallVte.new 4 2).Isolated final := by
  obtain ⟨final, fed, rfl⟩ := map_eq_some_iff.mp outcome
  refine ⟨final, fed, fun isolated => differs ?_⟩
  rw [isolated.scrollback, isolated.position]
  rfl

/-- A line feed on the last row of the alternate screen moves its top row into the history; and a
cursor saved on the alternate screen is the one that the primary screen gets back. -/
theorem alternate_line_feed_and_save_leak : (∃ callbacks final, smallVte.ReadsExcursion smallVte.new
          (textBytes "\x1b[?1049h\n\n\x1b[?1049l".toList) callbacks ∧
        (∀ callback ∈ callbacks, ¬ callback.Switches) ∧
        (VirtualScreen.new smallVte.new 4 2).feed smallVte smallWidth
          (textBytes "\x1b[?1049h\n\n\x1b[?1049l".toList) = some final ∧
        ¬ (VirtualScreen.new smallVte.new 4 2).Isolated final) ∧
      ∃ callbacks final, smallVte.ReadsExcursion smallVte.new
          (textBytes "\x1b[?1049h\x1b[2;2H\x1b7\x1b[?1049l".toList) callbacks ∧
        (∀ callback ∈ callbacks, ¬ callback.Switches) ∧
        (VirtualScreen.new smallVte.new 4 2).feed smallVte smallWidth
          (textBytes "\x1b[?1049h\x1b[2;2H\x1b7\x1b[?1049l".toList) = some final ∧
        ¬ (VirtualScreen.new smallVte.new 4 2).Isolated final := by
  constructor
  · have outcome : afterExcursion "\x1b[?1049h\n\n\x1b[?1049l" = some ([blankRow 4], 0, 0) := by
      decide +kernel
    obtain ⟨final, fed, leaks⟩ := not_isolated_of_after outcome (by decide)
    refine ⟨[.execute 0x0A, .execute 0x0A], final, ?_, by simp [Callback.Switches], fed, leaks⟩
    exact ⟨eighthByte VirtualScreen.enterCallback, [[.execute 0x0A], [.execute 0x0A]],
      eighthByte VirtualScreen.leaveCallback, by decide +kernel, rfl, rfl, rfl⟩
  · have outcome : afterExcursion "\x1b[?1049h\x1b[2;2H\x1b7\x1b[?1049l" = some ([], 1, 1) := by
      decide +kernel
    obtain ⟨final, fed, leaks⟩ := not_isolated_of_after outcome (by decide)
    refine ⟨[.csiDispatch [[2], [2]] [] false 'H', .escDispatch [] false 0x37], final, ?_,
      by simp [Callback.Switches], fed, leaks⟩
    exact ⟨eighthByte VirtualScreen.enterCallback,
      List.replicate 5 [] ++ [[.csiDispatch [[2], [2]] [] false 'H'], [],
        [.escDispatch [] false 0x37]],
      eighthByte VirtualScreen.leaveCallback, by decide +kernel, rfl, rfl, rfl⟩

end Dinotty.Screen
