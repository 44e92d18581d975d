/-
This file proves that the history of a screen only grows at its end, up to the limit.
-/

import Dinotty.Screen.Isolation
import Dinotty.Screen.RowResize

namespace Dinotty.Screen

open List Fallible VirtualScreen

/-- The history `later` is `before` with rows pushed behind it. -/
def Grows (before later : List Row) : Prop :=
  ∃ lines : List Row, later = lines.foldl pushScrollback before

theorem Grows.refl (history : List Row) : Grows history history := ⟨[], rfl⟩

theorem Grows.trans {before middle later : List Row} (first : Grows before middle)
    (second : Grows middle later) : Grows before later := by
  obtain ⟨front, rfl⟩ := first
  obtain ⟨back, rfl⟩ := second
  exact ⟨front ++ back, foldl_append.symm⟩

/-- What each step grows, a run grows. -/
theorem run_grows {State Input : Type} {step : State → Input → Option State} {start final : State}
    {inputs : List Input} (history : State → List Row)
    (grows : ∀ state input next, step state input = some next →
      Grows (history state) (history next))
    (reached : run step start inputs = some final) : Grows (history start) (history final) :=
  run_invariant (fun state input next (grown : Grows (history start) (history state)) _ taken =>
      grown.trans (grows state input next taken))
    (.refl _) (meets_of_forall (fun _ _ => trivial) start inputs) reached

/-- A switch leaves the history alone. -/
theorem perform_grows {width : Char → Option Nat} {p next : Performer} {callback : Callback}
    (done : p.perform width callback = some next) : Grows p.scrollback next.scrollback := by
  by_cases switches : callback.Switches
  · cases callback with
    | csiDispatch params inter ignore action =>
      obtain ⟨rfl, rfl | rfl, -⟩ := switches
      · cases done
        exact ⟨[], (Performer.foldl_untouched Performer.setMode_untouched _ p).scrollback⟩
      · cases done
        exact ⟨[], (Performer.foldl_untouched Performer.resetMode_untouched _ p).scrollback⟩
    | _ => exact switches.elim
  · by_cases saves : callback.SavesCursor
    · obtain ⟨rfl, -⟩ := perform_save saves done
      exact .refl p.scrollback
    · obtain ⟨lines, equal, -⟩ := (perform_shares switches saves done).history
      exact ⟨lines, equal⟩

theorem resizeRows_grows {buffer : ScreenBuffer} {cols rows cursorRow : Nat} {history : List Row}
    {cells : List Row} {moved : Option (List Row)}
    (done : buffer.resizeRows cols rows (some history) = some (cells, moved, cursorRow)) :
    Grows history (moved.getD history) := by
  unfold ScreenBuffer.resizeRows at done
  dsimp only at done
  split at done
  · obtain ⟨trimmed, bound, trim, -⟩ :=
      trimBlankRows_eq buffer.cursor.row (buffer.cells.length - rows) buffer.cells
    rw [trim, popTopRows_eq _ _ _ _ (by rw [length_take]; omega)] at done
    cases done
    exact ⟨_, rfl⟩
  · split at done
    all_goals
      cases done
      exact .refl history

section

variable {vte : Vte} {width : Char → Option Nat} {vs next : VirtualScreen vte.Parser}

theorem feedByte_grows {byte : UInt8} (done : vs.feedByte vte width byte = some next) :
    Grows vs.scrollback next.scrollback := by
  obtain ⟨p, ran, rfl⟩ := Option.map_eq_some_iff.mp done
  have same : ∀ (vs : VirtualScreen vte.Parser) req, (vs.switch req).scrollback = vs.scrollback := by
    intro vs req
    unfold VirtualScreen.switch
    repeat' split
    all_goals rfl
  rw [same]
  exact run_grows Performer.scrollback (fun _ _ _ => perform_grows) ran

theorem call_grows {call : ScreenCall} (done : vs.call vte width call = some next) :
    Grows vs.scrollback next.scrollback := by
  cases call with
  | feed data =>
    have same : (vs.collectOutput data).scrollback = vs.scrollback := by
      unfold collectOutput
      split <;> rfl
    exact same ▸ run_grows VirtualScreen.scrollback (fun _ _ _ => feedByte_grows) done
  | resize cols rows =>
    obtain ⟨⟨primary, moved⟩, primaryDone, done⟩ := Option.bind_eq_some_iff.mp done
    obtain ⟨⟨alternate, kept⟩, -, done⟩ := Option.bind_eq_some_iff.mp done
    cases done
    obtain ⟨⟨cells, rowsMoved, cursorRow⟩, rowsDone, primaryDone⟩ :=
      Option.bind_eq_some_iff.mp primaryDone
    cases primaryDone
    exact resizeRows_grows rowsDone

end

end Dinotty.Screen
