/-
This file is what the screen makes of the text that the renderer writes for a row. A legible row
written onto an erased row comes back cell for cell, but for the attributes of a continuation, which
come back as those of its glyph.
-/

import Dinotty.Screen.Render
import Dinotty.Screen.Wide
import Dinotty.Screen.Isolation

namespace Dinotty.Screen

open List Option Performer Vec

/-! ### Reading a rendition back -/

variable {n : Nat}

theorem saturate_toNat (bound : n ≤ 65535) : (saturate n).toNat = n := by
  rw [saturate, Nat.min_eq_left bound, UInt16.toNat_ofNat', Nat.mod_eq_of_lt (by omega)]

theorem saturate_succ (n : Nat) : (saturate (n + 1)).toNat = min n 65534 + 1 := by
  rw [saturate, UInt16.toNat_ofNat', Nat.mod_eq_of_lt (by omega)]
  omega

/-- The items of a parameter list that the parser has read from numbers. -/
def plainItems (numbers : List Nat) : List (Nat × Option Nat) := numbers.map fun n => (n, none)

theorem sgrItems_plain {numbers : List Nat} (bound : ∀ n ∈ numbers, n ≤ 65535) :
    sgrItems (numbers.map fun n => [saturate n]) = plainItems numbers := by
  induction numbers with
  | nil => rfl
  | cons n rest ih =>
    have tail := ih fun other mem => bound other (mem_cons_of_mem n mem)
    rw [map_cons, sgrItems, filterMap_cons]
    show ((saturate n).toNat, none) :: sgrItems (rest.map fun n => [saturate n]) = _
    rw [tail, saturate_toNat (bound n mem_cons_self)]
    rfl

namespace CellAttrs

theorem applyItems_code {code : Nat} (notForeground : code ≠ 38) (notBackground : code ≠ 48)
    (attrs : CellAttrs) (rest : List Nat) :
    applyItems 0 attrs (plainItems (code :: rest)) =
      applyItems 0 (attrs.applyCode code none) (plainItems rest) := by
  rw [plainItems, map_cons, applyItems, if_neg notForeground, if_neg notBackground]
  rfl

variable {attrs : CellAttrs}

theorem applyItems_flag (next : CellAttrs) {code : Nat} (notForeground : code ≠ 38)
    (notBackground : code ≠ 48) {flag : Bool}
    (applied : (if flag then attrs.applyCode code none else attrs) = next) (rest : List Nat) :
    applyItems 0 attrs (plainItems (flagParams flag code ++ rest)) =
      applyItems 0 next (plainItems rest) := by
  cases flag with
  | false =>
    obtain rfl : attrs = next := applied
    rfl
  | true =>
    obtain rfl : attrs.applyCode code none = next := applied
    exact applyItems_code notForeground notBackground attrs rest

theorem applyCode_palette (attrs : CellAttrs) {index : Nat} (bound : index < 8) :
    attrs.applyCode (30 + index) none = { attrs with fg := some (.indexed (.ofNat index)) } ∧
      attrs.applyCode (90 + index) none =
        { attrs with fg := some (.indexed (.ofNat (index + 8))) } ∧
      attrs.applyCode (40 + index) none = { attrs with bg := some (.indexed (.ofNat index)) } ∧
      attrs.applyCode (100 + index) none =
        { attrs with bg := some (.indexed (.ofNat (index + 8))) } := by
  interval_cases index <;> exact ⟨rfl, rfl, rfl, rfl⟩

theorem applyItems_palette {base bright : Nat} (put : Color → CellAttrs)
    (codes : ∀ index < 8, attrs.applyCode (base + index) none = put (.indexed (.ofNat index)) ∧
      attrs.applyCode (bright + index) none = put (.indexed (.ofNat (index + 8))))
    (plain : ∀ index < 8, base + index ≠ 38 ∧ base + index ≠ 48 ∧ bright + index ≠ 38 ∧
      bright + index ≠ 48) {extended : Nat}
    (long : ∀ color taken rest, extendedColor rest = (some color, taken) →
      applyItems 0 attrs ((extended, none) :: rest) = applyItems taken (put color) rest)
    (color : Color) (rest : List Nat) :
    applyItems 0 attrs (plainItems (colorParams base bright extended (some color) ++ rest)) =
      applyItems 0 (put color) (plainItems rest) := by
  cases color with
  | rgb red green blue =>
    have read := long _ _ (plainItems (2 :: red.toNat :: green.toNat :: blue.toNat :: rest)) rfl
    simp only [UInt8.ofNat_toNat] at read
    exact read
  | indexed index =>
    have exactly : UInt8.ofNat index.toNat = index := UInt8.ofNat_toNat
    rw [colorParams]
    split
    next low =>
      have bound : index.toNat < 8 := UInt8.lt_iff_toNat_lt.mp low
      obtain ⟨select, -⟩ := codes index.toNat bound
      obtain ⟨other, another, -⟩ := plain index.toNat bound
      rw [exactly] at select
      rw [singleton_append, applyItems_code other another, select]
    next notLow =>
      split
      next low =>
        have floor : 8 ≤ index.toNat := by
          have := mt UInt8.lt_iff_toNat_lt.mpr notLow
          exact Nat.le_of_not_lt this
        have ceiling : index.toNat < 16 := UInt8.lt_iff_toNat_lt.mp low
        obtain ⟨-, select⟩ := codes (index.toNat - 8) (by omega)
        obtain ⟨-, -, other, another⟩ := plain (index.toNat - 8) (by omega)
        rw [Nat.sub_add_cancel floor, exactly] at select
        rw [← Nat.add_sub_assoc floor] at select other another
        rw [singleton_append, applyItems_code other another, select]
      · have read := long _ _ (plainItems (5 :: index.toNat :: rest)) rfl
        rw [exactly] at read
        exact read

theorem applyItems_foreground (unset : attrs.fg = none) (color : Option Color) (rest : List Nat) :
    applyItems 0 attrs (plainItems (colorParams 30 90 38 color ++ rest)) =
      applyItems 0 { attrs with fg := color } (plainItems rest) := by
  cases color with
  | none =>
    obtain ⟨⟩ := attrs
    obtain rfl := unset
    rfl
  | some color =>
    refine applyItems_palette (fun c => { attrs with fg := some c })
      (fun i bound => ?_) (by omega) (fun c taken items read => ?_) color rest
    · obtain ⟨low, high, -⟩ := applyCode_palette attrs bound
      exact ⟨low, high⟩
    · rw [applyItems, if_pos rfl, read]
      rfl

theorem applyItems_background (unset : attrs.bg = none) (color : Option Color) (rest : List Nat) :
    applyItems 0 attrs (plainItems (colorParams 40 100 48 color ++ rest)) =
      applyItems 0 { attrs with bg := color } (plainItems rest) := by
  cases color with
  | none =>
    obtain ⟨⟩ := attrs
    obtain rfl := unset
    rfl
  | some color =>
    refine applyItems_palette (fun c => { attrs with bg := some c })
      (fun i bound => ?_) (by omega) (fun c taken items read => ?_) color rest
    · obtain ⟨-, -, low, high⟩ := applyCode_palette attrs bound
      exact ⟨low, high⟩
    · rw [applyItems, if_neg (by decide), if_pos rfl, read]
      rfl

end CellAttrs

theorem flagParams_eq {flag : Bool} {code : Nat} (mem : n ∈ flagParams flag code) : n = code := by
  cases flag with
  | false => cases mem
  | true => exact mem_singleton.mp mem

theorem colorParams_bound {base bright extended : Nat}
    (small : base ≤ 100 ∧ bright ≤ 100 ∧ extended ≤ 100) {color : Option Color}
    (mem : n ∈ colorParams base bright extended color) : n ≤ 65535 := by
  have byte (value : UInt8) : value.toNat < 256 := value.toNat_lt
  cases color with
  | none => cases mem
  | some color =>
    cases color with
    | rgb red green blue =>
      have := byte red
      have := byte green
      have := byte blue
      simp only [colorParams, mem_cons, not_mem_nil, or_false] at mem
      omega
    | indexed i =>
      have := byte i
      rw [colorParams] at mem
      split at mem
      · have := mem_singleton.mp mem
        omega
      · split at mem
        · have := mem_singleton.mp mem
          omega
        · simp only [mem_cons, not_mem_nil, or_false] at mem
          omega

theorem sgrParams_bound (attrs : CellAttrs) : ∀ n ∈ sgrParams attrs, n ≤ 65535 := by
  intro n mem
  simp only [sgrParams, mem_cons, mem_append] at mem
  rcases mem with rfl | (((((((mem | mem) | mem) | mem) | mem) | mem) |
    mem) | mem)
  · exact Nat.zero_le _
  all_goals
    first
    | exact colorParams_bound (by decide) mem
    | rw [flagParams_eq mem]
      decide

/-- The rendition that is read back is the one that was written, whatever was in force. -/
theorem applySgr_sgrParams (attrs old : CellAttrs) :
    applySgr ((sgrParams attrs).map fun n => [saturate n]) old = attrs := by
  have items := sgrItems_plain (sgrParams_bound attrs)
  have nonempty : (sgrParams attrs).map (fun n => [saturate n]) ≠ [] := by simp [sgrParams]
  obtain ⟨fg, bg, bold, dim, italic, underline, inverse, strikethrough⟩ := attrs
  rw [applySgr, if_neg nonempty, items, sgrParams,
    CellAttrs.applyItems_code (by decide) (by decide)]
  simp only [append_assoc]
  rw [CellAttrs.applyItems_flag { bold } (by decide) (by decide) (by cases bold <;> rfl),
    CellAttrs.applyItems_flag { bold, dim } (by decide) (by decide)
      (by cases dim <;> rfl),
    CellAttrs.applyItems_flag { bold, dim, italic } (by decide) (by decide)
      (by cases italic <;> rfl),
    CellAttrs.applyItems_flag { bold, dim, italic, underline } (by decide) (by decide)
      (by cases underline <;> rfl),
    CellAttrs.applyItems_flag { bold, dim, italic, underline, inverse } (by decide)
      (by decide) (by cases inverse <;> rfl),
    CellAttrs.applyItems_flag
      { bold, dim, italic, underline, inverse, strikethrough } (by decide)
      (by decide) (by cases strikethrough <;> rfl),
    CellAttrs.applyItems_foreground rfl,
    ← append_nil (colorParams 40 100 48 bg), CellAttrs.applyItems_background rfl]
  rfl

/-! ### Painting -/

/-- The screen with another content: the shown buffer and the history. -/
def VirtualScreen.draw {Parser : Type} (vs : VirtualScreen Parser) (screen : ScreenBuffer)
    (scrollback : List Row) : VirtualScreen Parser :=
  vs.giveBack { vs.performer with screen, scrollback }

namespace VirtualScreen

variable {Parser : Type} (vs : VirtualScreen Parser)

@[simp] theorem draw_active (screen : ScreenBuffer) (scrollback : List Row) :
    (vs.draw screen scrollback).active = screen := by
  obtain ⟨primary, alternate, usingAlternate⟩ := vs
  cases usingAlternate <;> rfl

@[simp] theorem draw_draw (first second : ScreenBuffer) (old new : List Row) :
    (vs.draw first old).draw second new = vs.draw second new := by
  obtain ⟨primary, alternate, usingAlternate⟩ := vs
  cases usingAlternate <;> rfl

theorem draw_self : vs.draw vs.active vs.scrollback = vs := giveBack_performer vs

theorem process_append (width : Char → Option Nat) (first second : List Callback) :
    vs.process width (first ++ second) =
      (vs.process width first).bind fun middle => middle.process width second := by
  rw [process, map_append, Fallible.run_append]
  rfl

end VirtualScreen

/-- Wherever the shown buffer and the history are the first pair, the tokens make them the second
one and change nothing else. -/
def Paints (width : Char → Option Nat) (tokens : List Token)
    (before after : ScreenBuffer × List Row) : Prop :=
  ∀ (Parser : Type) (vs : VirtualScreen Parser), vs.active = before.1 → vs.scrollback = before.2 →
    vs.process width (tokens.map Token.callback) = some (vs.draw after.1 after.2)

namespace Paints

variable {width : Char → Option Nat} {before middle after : ScreenBuffer × List Row}

theorem refl (width : Char → Option Nat) (content : ScreenBuffer × List Row) :
    Paints width [] content content := by
  intro Parser vs active history
  rw [← active, ← history, VirtualScreen.draw_self]
  rfl

theorem append {first second : List Token} (one : Paints width first before middle)
    (two : Paints width second middle after) : Paints width (first ++ second) before after := by
  intro Parser vs active history
  rw [map_append, VirtualScreen.process_append, one Parser vs active history,
    bind_some, two Parser _ (VirtualScreen.draw_active _ _ _) rfl, VirtualScreen.draw_draw]

theorem cons {token : Token} {rest : List Token} (one : Paints width [token] before middle)
    (two : Paints width rest middle after) : Paints width (token :: rest) before after :=
  one.append two

theorem step {token : Token} (performed : ∀ p : Performer, p.screen = before.1 →
      p.scrollback = before.2 →
      p.perform width token.callback = some { p with screen := after.1, scrollback := after.2 }) :
    Paints width [token] before after := by
  intro Parser vs active history
  have once := performed vs.performer active history
  show Fallible.run (VirtualScreen.perform width) vs [[token.callback]] = _
  rw [Fallible.run_cons, VirtualScreen.perform, Fallible.run_cons, once]
  rfl

end Paints

/-! ### Control sequences -/

def ScreenBuffer.withCursor (buffer : ScreenBuffer) (cursor : CursorState) : ScreenBuffer :=
  { buffer with cursor }

section Sequences

variable (width : Char → Option Nat) (buffer : ScreenBuffer) (history : List Row)

theorem encodeSgr_paints (attrs : CellAttrs) : Paints width [encodeSgr attrs] (buffer, history)
      (buffer.withCursor { buffer.cursor with attrs }, history) := by
  refine .step fun p screen scrollback => ?_
  have pen : p.perform width (encodeSgr attrs).callback =
      some (p.mapAttrs (applySgr ((sgrParams attrs).map fun n => [saturate n]))) := rfl
  rw [pen, mapAttrs, funext (applySgr_sgrParams attrs)]
  obtain ⟨rfl⟩ := screen
  obtain ⟨rfl⟩ := scrollback
  rfl

theorem resetSgr_paints : Paints width [resetSgr] (buffer, history)
      (buffer.withCursor { buffer.cursor with attrs := {} }, history) :=
  encodeSgr_paints width buffer history {}

theorem position_paints (row col : Nat) :
    Paints width [.csi [row + 1, col + 1] 'H'] (buffer, history)
      (buffer.withCursor { buffer.cursor with
        row := min (min row 65534) (buffer.rows - 1)
        col := min (min col 65534) (buffer.cols - 1) }, history) := by
  have param (n : Nat) : orOne (saturate (n + 1)).toNat - 1 = min n 65534 := by
    rw [saturate_succ, orOne, if_neg (Nat.succ_ne_zero _), Nat.add_sub_cancel]
  refine .step fun p screen scrollback => ?_
  have moved : p.perform width (Token.csi [row + 1, col + 1] 'H').callback =
      some (p.mapCursor fun cursor => { cursor with
        row := min (orOne (saturate (row + 1)).toNat - 1) (p.screen.rows - 1)
        col := min (orOne (saturate (col + 1)).toNat - 1) (p.screen.cols - 1) }) := rfl
  rw [moved, param, param]
  obtain ⟨rfl⟩ := screen
  obtain ⟨rfl⟩ := scrollback
  rfl

theorem region_paints (top bottom : Nat) :
    Paints width [.csi [top + 1, bottom + 1] 'r'] (buffer, history) ({ buffer with
        scrollTop := min (min top 65534) (buffer.rows - 1)
        scrollBottom := min (min bottom 65534) (buffer.rows - 1)
        cursor := { buffer.cursor with row := 0, col := 0 } }, history) := by
  refine .step fun p screen scrollback => ?_
  obtain ⟨rfl⟩ := screen
  obtain ⟨rfl⟩ := scrollback
  have cut : p.perform width (Token.csi [top + 1, bottom + 1] 'r').callback =
      some { p with
        screen := { p.screen with
          scrollTop := min (orOne (saturate (top + 1)).toNat - 1) (p.screen.rows - 1)
          scrollBottom := min ((if (saturate (bottom + 1)).toNat = 0 then p.screen.rows
            else (saturate (bottom + 1)).toNat) - 1) (p.screen.rows - 1)
          cursor := { p.screen.cursor with row := 0, col := 0 } } } := rfl
  rw [cut, saturate_succ, saturate_succ, orOne, if_neg (Nat.succ_ne_zero _),
    if_neg (Nat.succ_ne_zero _), Nat.add_sub_cancel, Nat.add_sub_cancel]

theorem eraseLine_paints {line : Row} (here : buffer.cells[buffer.cursor.row]? = some line) :
    Paints width [.csi [2] 'K'] (buffer, history)
      ({ buffer with cells := buffer.cells.set buffer.cursor.row (eraseRow line) }, history) := by
  refine .step fun p screen scrollback => ?_
  obtain ⟨rfl⟩ := screen
  obtain ⟨rfl⟩ := scrollback
  have erased : p.perform width (Token.csi [2] 'K').callback =
      p.mapCells fun cells => update cells p.screen.cursor.row fun line =>
        some (eraseRow line) := rfl
  rw [erased, mapCells, update, here]
  rfl

theorem privateMode_paints {mode : Nat} {final : Char}
    (silent : ∀ p : Performer, p.perform width (Token.privateMode mode final).callback = some p) :
    Paints width [.privateMode mode final] (buffer, history) (buffer, history) := by
  refine .step fun p screen scrollback => ?_
  obtain ⟨rfl⟩ := screen
  obtain ⟨rfl⟩ := scrollback
  exact silent p

end Sequences

/-! ### Glyphs -/

/-- A row of `cols` cells that holds what has been drawn so far and is blank from there on. -/
def padded (cols : Nat) (drawn : Row) : Row :=
  drawn ++ List.replicate (cols - drawn.length) Cell.blank

/-- The buffer while the row at `row` is drawn: the row so far, the cursor and the pen. -/
def ScreenBuffer.drawing (buffer : ScreenBuffer) (row : Nat) (line : Row) (col : Nat)
    (pen : CellAttrs) : ScreenBuffer :=
  { buffer with cells := buffer.cells.set row line, cursor := { row, col, attrs := pen } }

section Glyphs

variable {width : Char → Option Nat} {cols : Nat} {drawn : Row}

theorem padded_length (fits : drawn.length ≤ cols) : (padded cols drawn).length = cols := by
  rw [padded, length_append, length_replicate, Nat.add_sub_cancel' fits]

theorem padded_of_lt (room : drawn.length < cols) : padded cols drawn =
      drawn ++ Cell.blank :: replicate (cols - (drawn.length + 1)) Cell.blank := by
  rw [padded, show cols - drawn.length = cols - (drawn.length + 1) + 1 by omega, replicate_succ]

theorem padded_getElem? (room : drawn.length < cols) :
    (padded cols drawn)[drawn.length]? = some Cell.blank := by
  rw [padded_of_lt room, getElem?_append_right (Nat.le_refl _), Nat.sub_self]
  rfl

theorem set_padded (room : drawn.length < cols) (cell : Cell) :
    Vec.set (padded cols drawn) drawn.length cell = some (padded cols (drawn ++ [cell])) := by
  have inside : drawn.length < (padded cols drawn).length := by
    rw [padded_length (Nat.le_of_lt room)]
    exact room
  rw [set_of_lt inside, padded_of_lt room, set_append_right _ _ (Nat.le_refl _),
    Nat.sub_self, set_cons_zero, padded, length_append, append_assoc]
  rfl

theorem putGlyph_of_blank {line : Row} {col : Nat} (blank : (line)[col]? = some Cell.blank)
    (c : Char) (w : Nat) (attrs : CellAttrs) :
    putGlyph width cols c w attrs col line =
      (Vec.set line col { ch := c, combining := [], attrs }).bind fun stored =>
        setIf (w = 2 ∧ col + 1 < cols) stored (col + 1)
          { ch := nul, combining := [], attrs } := by
  have left : ¬ (Cell.blank.ch = nul ∧ col > 0) := fun both => absurd both.1 (by decide)
  have right : ¬ (Cell.blank.ch ≠ nul ∧ Cell.blank.ch ≠ ' ' ∧ width Cell.blank.ch = some 2 ∧
      col + 1 < cols) := fun all => all.2.1 rfl
  rw [putGlyph, blank, map_some, bind_eq_bind, bind_some, setIf,
    if_neg left, bind_eq_bind, bind_some, setIf, if_neg right]
  rfl

theorem putGlyph_narrow (room : drawn.length < cols) (c : Char) (attrs : CellAttrs) :
    putGlyph width cols c 1 attrs drawn.length (padded cols drawn) =
      some (padded cols (drawn ++ [{ ch := c, combining := [], attrs }])) := by
  rw [putGlyph_of_blank (padded_getElem? room), set_padded room, bind_some, setIf,
    if_neg fun both => absurd both.1 (by decide)]

theorem putGlyph_wide (room : drawn.length + 1 < cols) (c : Char) (attrs : CellAttrs) :
    putGlyph width cols c 2 attrs drawn.length (padded cols drawn) = some (padded cols (drawn ++
        [{ ch := c, combining := [], attrs }, { ch := nul, combining := [], attrs }])) := by
  have first := Nat.lt_of_succ_lt room
  have second : (drawn ++ [{ ch := c, combining := [], attrs : Cell }]).length < cols := by
    rw [length_append]
    exact room
  have stored := set_padded second { ch := nul, combining := [], attrs }
  rw [length_append, length_singleton, append_assoc] at stored
  rw [putGlyph_of_blank (padded_getElem? first), set_padded first, bind_some, setIf,
    if_pos ⟨rfl, room⟩, stored]
  rfl

variable {buffer : ScreenBuffer} {row : Nat} (history : List Row)

variable {pen : CellAttrs}

theorem glyph_paints {c : Char} {w : Nat} (positive : w ≠ 0) (wide : width c = some w)
    (rowInside : row < buffer.cells.length) (rowBound : row < buffer.rows) {line stored : Row}
    {col : Nat} (room : col < buffer.cols) (both : w = 2 → col + 1 < buffer.cols)
    (put : putGlyph width buffer.cols c w pen col line = some stored) :
    Paints width [.glyph c] (buffer.drawing row line col pen, history)
      (buffer.drawing row stored (col + w) pen, history) := by
  refine .step fun p screen scrollback => ?_
  obtain ⟨rfl⟩ := scrollback
  have printed : p.perform width (Token.glyph c).callback = p.print width c := rfl
  have notFull : ¬ p.screen.cursor.col ≥ p.screen.cols := by
    rw [screen]
    exact Nat.not_le.mpr room
  have notLast : ¬ (w = 2 ∧ p.screen.cursor.col + 1 ≥ p.screen.cols) := by
    rintro ⟨two, last⟩
    rw [screen] at last
    exact absurd (both two) (Nat.not_lt.mpr last)
  have inside : p.screen.cursor.row < p.screen.rows ∧ p.screen.cursor.col < p.screen.cols := by
    rw [screen]
    exact ⟨rowBound, room⟩
  rw [printed, print, wide, getD_some, if_neg positive, printGlyph,
    wrapIf, if_neg notFull, bind_eq_bind, bind_some, wrapIf,
    if_neg notLast, bind_some, drawGlyph, if_pos inside, mapCells,
    screen]
  have here : (buffer.cells.set row line)[row]? = some line := getElem?_set_self rowInside
  have updated : update (buffer.cells.set row line) row
      (putGlyph width buffer.cols c w pen col) = some (buffer.cells.set row stored) := by
    rw [update, here, bind_some, put, map_some, set_set]
  show ((update (buffer.cells.set row line) row (putGlyph width buffer.cols c w pen col)).map
    _).bind _ = _
  rw [updated]
  rfl

theorem mark_paints {mark : Char} (zero : (width mark).getD 0 = 0)
    (rowInside : row < buffer.cells.length) (rowBound : row < buffer.rows) {cell : Cell}
    (visible : cell.ch ≠ ' ' ∧ cell.ch ≠ nul) (room : cell.combining.length < maxCombining) :
    Paints width [.glyph mark]
      (buffer.drawing row (padded cols (drawn ++ [cell])) (drawn.length + 1) pen, history)
      (buffer.drawing row
        (padded cols (drawn ++ [{ cell with combining := cell.combining ++ [mark] }]))
        (drawn.length + 1) pen, history) := by
  refine .step fun p screen scrollback => ?_
  obtain ⟨rfl⟩ := scrollback
  have printed : p.perform width (Token.glyph mark).callback = p.print width mark := rfl
  have inside : p.screen.cursor.row < p.screen.rows ∧ p.screen.cursor.col > 0 := by
    rw [screen]
    exact ⟨rowBound, Nat.succ_pos _⟩
  rw [printed, print, if_pos zero, printCombining, if_pos inside, mapCells, screen]
  have here : (buffer.cells.set row (padded cols (drawn ++ [cell])))[row]? =
      some (padded cols (drawn ++ [cell])) := getElem?_set_self rowInside
  have there : (padded cols (drawn ++ [cell]))[drawn.length]? = some cell := by
    rw [padded, append_assoc, getElem?_append_right (Nat.le_refl _), Nat.sub_self]
    rfl
  have stored : (padded cols (drawn ++ [cell])).set drawn.length
      { cell with combining := cell.combining ++ [mark] } =
        padded cols (drawn ++ [{ cell with combining := cell.combining ++ [mark] }]) := by
    rw [padded, padded, append_assoc, append_assoc,
      set_append_right _ _ (Nat.le_refl _), Nat.sub_self, length_append,
      length_append]
    rfl
  have updated : update (buffer.cells.set row (padded cols (drawn ++ [cell]))) row
      (fun line => update line drawn.length fun prev =>
        some (if prev.ch ≠ ' ' ∧ prev.ch ≠ nul then prev.pushCombining mark else prev)) =
      some (buffer.cells.set row
        (padded cols (drawn ++ [{ cell with combining := cell.combining ++ [mark] }]))) := by
    rw [update, here, bind_some, update, there, bind_some, if_pos visible,
      Cell.pushCombining, if_pos room, map_some, stored, map_some, set_set]
  show (update (buffer.cells.set row (padded cols (drawn ++ [cell]))) row
    (fun line => update line drawn.length fun prev =>
      some (if prev.ch ≠ ' ' ∧ prev.ch ≠ nul then prev.pushCombining mark else prev))).map _ = _
  rw [updated]
  rfl

theorem marks_paint {marks : List Char} (zero : ∀ mark ∈ marks, (width mark).getD 0 = 0)
    (rowInside : row < buffer.cells.length) (rowBound : row < buffer.rows) (cell : Cell)
    (visible : marks ≠ [] → cell.ch ≠ ' ' ∧ cell.ch ≠ nul)
    (room : cell.combining.length + marks.length ≤ maxCombining) :
    Paints width (marks.map Token.glyph)
      (buffer.drawing row (padded cols (drawn ++ [cell])) (drawn.length + 1) pen, history)
      (buffer.drawing row
        (padded cols (drawn ++ [{ cell with combining := cell.combining ++ marks }]))
        (drawn.length + 1) pen, history) := by
  induction marks generalizing cell with
  | nil =>
    rw [append_nil]
    exact .refl width _
  | cons mark rest ih =>
    have shown := visible (cons_ne_nil mark rest)
    rw [length_cons] at room
    have later := ih
      (fun other mem => zero other (mem_cons_of_mem _ mem))
      { cell with combining := cell.combining ++ [mark] } (fun _ => shown)
      (by rw [length_append, length_singleton]; omega)
    rw [append_assoc] at later
    exact (mark_paints history (zero mark mem_cons_self) rowInside rowBound shown
      (by omega)).cons later

end Glyphs

/-! ### Rows -/

section Rows

variable (width : Char → Option Nat)

/-- The combining marks of a cell, at most three of them and none on a blank. -/
structure Cell.Marked (cell : Cell) : Prop where
  count : cell.combining.length ≤ maxCombining
  marks : ∀ mark ∈ cell.combining, isControl mark = false ∧ (width mark).getD 0 = 0
  visible : cell.combining ≠ [] → cell.ch ≠ ' '

/-- A row made of glyphs of one column, with their combining marks, and of wide glyphs, each
with its continuation. -/
inductive Legible : Row → Prop
  | nil : Legible []
  | narrow {cell : Cell} {rest : Row} (glyph : isControl cell.ch = false)
      (one : width cell.ch = some 1) (marked : cell.Marked width) (later : Legible rest) :
      Legible (cell :: rest)
  | wide {cell mark : Cell} {rest : Row} (glyph : isControl cell.ch = false)
      (two : width cell.ch = some 2) (bare : cell.combining = []) (continuation : mark.ch = nul)
      (clean : mark.combining = []) (later : Legible rest) : Legible (cell :: mark :: rest)

/-- The row with the attributes of each continuation replaced by those of the cell before it. -/
def mendFrom (before : CellAttrs) : Row → Row
  | [] => []
  | cell :: rest =>
      if cell.ch = nul then { cell with attrs := before } :: mendFrom before rest
      else cell :: mendFrom cell.attrs rest

/-- The row with the attributes of each continuation replaced by those of its glyph. -/
def mended (line : Row) : Row := mendFrom {} line

variable {width}

theorem mendFrom_length (before : CellAttrs) (line : Row) :
    (mendFrom before line).length = line.length := by
  induction line generalizing before with
  | nil => rfl
  | cons cell rest ih =>
    rw [mendFrom]
    split
    · rw [length_cons, length_cons, ih]
    · rw [length_cons, length_cons, ih]

theorem mended_length (line : Row) : (mended line).length = line.length := mendFrom_length {} line

theorem glyph_ne_nul {c : Char} (glyph : isControl c = false) : c ≠ nul := by
  rintro rfl
  exact absurd glyph (by decide)

variable {cell : Cell}

theorem mendFrom_glyph (glyph : isControl cell.ch = false) (before : CellAttrs) (rest : Row) :
    mendFrom before (cell :: rest) = cell :: mendFrom cell.attrs rest :=
  if_neg (glyph_ne_nul glyph)

variable {line : Row}

theorem Legible.mendFrom_eq (legible : Legible width line) (before : CellAttrs) :
    mendFrom before line = mended line := by
  cases legible with
  | nil => rfl
  | narrow glyph one marked later => rw [mended, mendFrom_glyph glyph, mendFrom_glyph glyph]
  | wide glyph two bare continuation clean later =>
    rw [mended, mendFrom_glyph glyph, mendFrom_glyph glyph]

variable {rest : Row}

theorem mended_narrow (glyph : isControl cell.ch = false) (later : Legible width rest) :
    mended (cell :: rest) = cell :: mended rest := by
  rw [mended, mendFrom_glyph glyph, later.mendFrom_eq]

variable {mark : Cell}

theorem mended_wide (glyph : isControl cell.ch = false) (continuation : mark.ch = nul)
    (later : Legible width rest) :
    mended (cell :: mark :: rest) = cell :: { mark with attrs := cell.attrs } :: mended rest := by
  rw [mended, mendFrom_glyph glyph, mendFrom, if_pos continuation, later.mendFrom_eq]

/-! ### Trimming -/

theorem trimmed_cons (cell : Cell) (rest : Row) : trimmed (cell :: rest) =
      if trimmed rest = [] ∧ cell.isBlank then [] else cell :: trimmed rest := by
  simp only [trimmed, rdropWhile, reverse_cons, dropWhile_append]
  by_cases empty : rest.reverse.dropWhile Cell.isBlank = []
  · by_cases blank : cell.isBlank
    · simp [empty, blank]
    · simp [empty, blank]
  · simp [empty]

theorem trimmed_cons_of_ne (kept : trimmed (cell :: rest) ≠ []) :
    trimmed (cell :: rest) = cell :: trimmed rest := by
  rw [trimmed_cons] at kept ⊢
  split
  next both =>
    exact absurd (if_pos both) kept
  · rfl

theorem CellAttrs.eq_default {attrs : CellAttrs} (unset : attrs.hasAttrs = false) : attrs = {} := by
  obtain ⟨fg, bg, bold, dim, italic, underline, inverse, strikethrough⟩ := attrs
  simp only [hasAttrs, Bool.or_eq_false_iff, isSome_eq_false_iff, isNone_iff_eq_none]
    at unset
  obtain ⟨⟨⟨⟨⟨⟨⟨rfl, rfl⟩, rfl⟩, rfl⟩, rfl⟩, rfl⟩, rfl⟩, rfl⟩ := unset
  rfl

theorem Cell.isBlank_iff :
    cell.isBlank = true ↔ (cell.ch = ' ' ∨ cell.ch = nul) ∧ cell.attrs.hasAttrs = false := by
  simp [isBlank]

theorem Cell.eq_blank (glyph : isControl cell.ch = false) (marked : cell.Marked width)
    (blank : cell.isBlank) : cell = Cell.blank := by
  obtain ⟨space | continuation, unset⟩ := isBlank_iff.mp blank
  · have bare : cell.combining = [] := by
      by_contra some
      exact marked.visible some space
    have pen := CellAttrs.eq_default unset
    obtain ⟨ch, combining, attrs⟩ := cell
    obtain rfl := space
    obtain rfl := bare
    obtain rfl := pen
    rfl
  · exact absurd continuation (glyph_ne_nul glyph)

theorem not_isBlank_of_wide (plain : PlainWidths width) (glyph : isControl cell.ch = false)
    (two : width cell.ch = some 2) : ¬ cell.isBlank := by
  intro blank
  obtain ⟨space | continuation, -⟩ := Cell.isBlank_iff.mp blank
  · rw [space] at two
    exact plain.blank two
  · exact glyph_ne_nul glyph continuation

theorem Legible.eq_blank (plain : PlainWidths width) (legible : Legible width line)
    (empty : trimmed line = []) : line = replicate line.length Cell.blank := by
  induction legible with
  | nil => rfl
  | narrow glyph one marked later ih =>
    rw [trimmed_cons] at empty
    split at empty
    next both =>
      rw [length_cons, replicate_succ, ← ih both.1, ← Cell.eq_blank glyph marked both.2]
    · cases empty
  | wide glyph two bare continuation clean later ih =>
    rw [trimmed_cons] at empty
    split at empty
    next both =>
      exact absurd both.2 (not_isBlank_of_wide plain glyph two)
    · cases empty

theorem Legible.mended_eq_blank (plain : PlainWidths width) (legible : Legible width line)
    (empty : trimmed line = []) :
    mended line = replicate line.length Cell.blank := by
  have blank (count : Nat) (before : CellAttrs) :
      mendFrom before (replicate count Cell.blank) = replicate count Cell.blank := by
    induction count generalizing before with
    | zero => rfl
    | succ count ih =>
      rw [replicate_succ, mendFrom_glyph (by decide), ih]
  rw [mended, legible.eq_blank plain empty, blank, length_replicate]

theorem renderCells_trimmed_nul (continuation : mark.ch = nul) (before : CellAttrs) (rest : Row) :
    renderCells before (trimmed (mark :: rest)) = renderCells before (trimmed rest) := by
  rw [trimmed_cons]
  split
  next both =>
    rw [both.1]
  · rw [renderCells, if_pos continuation]

/-! ### Writing a row -/

theorem writeTo_paints_narrow (glyph : isControl cell.ch = false) (one : width cell.ch = some 1)
    (marked : cell.Marked width) {buffer : ScreenBuffer} {row : Nat}
    (rowInside : row < buffer.cells.length) (rowBound : row < buffer.rows) (drawn : Row)
    (room : drawn.length < buffer.cols) (history : List Row) :
    Paints width cell.writeTo
      (buffer.drawing row (padded buffer.cols drawn) drawn.length cell.attrs, history)
      (buffer.drawing row (padded buffer.cols (drawn ++ [cell])) (drawn.length + 1) cell.attrs,
        history) := by
  have stored := glyph_paints history (by decide) one rowInside rowBound room
    (fun two => absurd two (by decide)) (putGlyph_narrow room cell.ch cell.attrs)
  exact stored.cons (marks_paint history (fun mark mem => (marked.marks mark mem).2) rowInside
    rowBound { cell with combining := [] }
    (fun some => ⟨marked.visible some, glyph_ne_nul glyph⟩)
    (by rw [length_nil, Nat.zero_add]; exact marked.count))

theorem writeTo_paints_wide (two : width cell.ch = some 2) (bare : cell.combining = [])
    (continuation : mark.ch = nul) (clean : mark.combining = []) {buffer : ScreenBuffer} {row : Nat}
    (rowInside : row < buffer.cells.length) (rowBound : row < buffer.rows) (drawn : Row)
    (room : drawn.length + 1 < buffer.cols) (history : List Row) :
    Paints width cell.writeTo
      (buffer.drawing row (padded buffer.cols drawn) drawn.length cell.attrs, history)
      (buffer.drawing row (padded buffer.cols (drawn ++ [cell, { mark with attrs := cell.attrs }]))
        (drawn.length + 2) cell.attrs, history) := by
  have stored := glyph_paints history (by decide) two rowInside rowBound (Nat.lt_of_succ_lt room)
    (fun _ => room) (putGlyph_wide room cell.ch cell.attrs)
  obtain ⟨ch, combining, attrs⟩ := cell
  obtain ⟨markCh, markCombining, markAttrs⟩ := mark
  obtain rfl := bare
  obtain rfl := continuation
  obtain rfl := clean
  exact stored

theorem rendition_paints (buffer : ScreenBuffer) (row : Nat) (line : Row) (col : Nat)
    (pen attrs : CellAttrs) (history : List Row) :
    Paints width (if attrs = pen then [] else [encodeSgr attrs])
      (buffer.drawing row line col pen, history)
      (buffer.drawing row line col attrs, history) := by
  split
  next same =>
    rw [same]
    exact .refl width _
  · exact encodeSgr_paints width (buffer.drawing row line col pen) history attrs

theorem renderCells_cons (glyph : isControl cell.ch = false) (pen : CellAttrs) (rest : Row) :
    renderCells pen (cell :: rest) =
      ((if cell.attrs = pen then [] else [encodeSgr cell.attrs]) ++ cell.writeTo ++
        (renderCells cell.attrs rest).1, (renderCells cell.attrs rest).2) := by
  rw [renderCells, if_neg (glyph_ne_nul glyph)]

/-- The cells of a legible row, written behind what has been drawn, complete the row. The pen ends
as the renderer says. -/
theorem renderCells_paints (plain : PlainWidths width) (legible : Legible width line)
    (buffer : ScreenBuffer) (row : Nat) (rowInside : row < buffer.cells.length)
    (rowBound : row < buffer.rows) (drawn : Row) (fills : drawn.length + line.length = buffer.cols)
    (pen : CellAttrs) (history : List Row) :
    ∃ col, Paints width (renderCells pen (trimmed line)).1
      (buffer.drawing row (padded buffer.cols drawn) drawn.length pen, history)
      (buffer.drawing row (drawn ++ mended line) col (renderCells pen (trimmed line)).2,
        history) := by
  induction legible generalizing drawn pen with
  | nil =>
    refine ⟨drawn.length, ?_⟩
    rw [padded, ← fills, length_nil, Nat.add_sub_cancel_left]
    exact .refl width _
  | @narrow cell rest glyph one marked later ih =>
    by_cases empty : trimmed (cell :: rest) = []
    · refine ⟨drawn.length, ?_⟩
      rw [empty, (Legible.narrow glyph one marked later).mended_eq_blank plain empty, padded,
        ← fills, Nat.add_sub_cancel_left]
      exact .refl width _
    · rw [length_cons] at fills
      have written := writeTo_paints_narrow glyph one marked rowInside rowBound drawn
        (by omega) history
      have longer : (drawn ++ [cell]).length = drawn.length + 1 := length_append
      obtain ⟨col, painted⟩ := ih (drawn ++ [cell])
        (by rw [longer]; omega) cell.attrs
      rw [longer, append_assoc] at painted
      rw [trimmed_cons_of_ne empty, renderCells_cons glyph, mended_narrow glyph later]
      exact ⟨col, ((rendition_paints buffer row _ _ pen cell.attrs history).append
        written).append painted⟩
  | @wide cell mark rest glyph two bare continuation clean later ih =>
    rw [length_cons, length_cons] at fills
    have written := writeTo_paints_wide two bare continuation clean rowInside rowBound drawn
      (by omega) history
    have longer : (drawn ++ [cell, { mark with attrs := cell.attrs }]).length =
        drawn.length + 2 := length_append
    obtain ⟨col, painted⟩ := ih
      (drawn ++ [cell, { mark with attrs := cell.attrs }])
      (by rw [longer]; omega) cell.attrs
    rw [longer, append_assoc] at painted
    have kept : trimmed (cell :: mark :: rest) = cell :: trimmed (mark :: rest) := by
      rw [trimmed_cons, if_neg fun both => not_isBlank_of_wide plain glyph two both.2]
    rw [kept, renderCells_cons glyph, renderCells_trimmed_nul continuation,
      mended_wide glyph continuation later]
    exact ⟨col, ((rendition_paints buffer row _ _ pen cell.attrs history).append
      written).append painted⟩

theorem endRow_paints (buffer : ScreenBuffer) (row : Nat) (line : Row) (col : Nat)
    (pen : CellAttrs) (history : List Row) {after : ScreenBuffer × List Row}
    (rest : CellAttrs → List Token)
    (later : Paints width (rest {}) (buffer.drawing row line col {}, history) after) :
    Paints width (if pen.hasAttrs then resetSgr :: rest {} else rest pen)
      (buffer.drawing row line col pen, history) after := by
  split
  · exact (resetSgr_paints width (buffer.drawing row line col pen) history).cons later
  next plainPen =>
    rw [CellAttrs.eq_default (Bool.eq_false_iff.mpr plainPen)]
    exact later

theorem startRow_paints (width : Char → Option Nat) (buffer : ScreenBuffer) {front : List Row}
    {back : List Row} (rowsEq : buffer.cells = front ++ line :: back)
    (lineWidth : line.length = buffer.cols) (rowBound : front.length < buffer.rows)
    (addressable : buffer.rows ≤ 65535) (plainPen : buffer.cursor.attrs = {}) (history : List Row) :
    Paints width [.csi [front.length + 1, 1] 'H', .csi [2] 'K'] (buffer, history)
      (buffer.drawing front.length (padded buffer.cols []) 0 {}, history) := by
  have row : min (min front.length 65534) (buffer.rows - 1) = front.length := by omega
  have col : min (min 0 65534) (buffer.cols - 1) = 0 := by omega
  have moved : Paints width [.csi [front.length + 1, 1] 'H'] (buffer, history)
      (buffer.withCursor { row := front.length, col := 0, attrs := {} }, history) := by
    have stepped := position_paints width buffer history front.length 0
    rw [row, col] at stepped
    rw [← plainPen]
    exact stepped
  have here : (buffer.withCursor { row := front.length, col := 0, attrs := {} }).cells[
      front.length]? = some line := by
    show buffer.cells[front.length]? = some line
    rw [rowsEq, getElem?_append_right (Nat.le_refl _), Nat.sub_self]
    rfl
  have erased := eraseLine_paints width _ history here
  rw [eraseRow, lineWidth] at erased
  exact moved.cons erased

theorem renderRows_cons (pen : CellAttrs) (i : Nat) (line : Row) (rest : List Row) :
    renderRows pen i (line :: rest) =
      [.csi [i + 1, 1] 'H', .csi [2] 'K'] ++ (renderCells pen (trimmed line)).1 ++
        if (renderCells pen (trimmed line)).2.hasAttrs then
          resetSgr :: renderRows {} (i + 1) rest
        else renderRows (renderCells pen (trimmed line)).2 (i + 1) rest := rfl

/-- The rows of a buffer, written over rows of the same widths, come back below the ones that are
there already. -/
theorem renderRows_paints (plain : PlainWidths width) (buffer : ScreenBuffer)
    (addressable : buffer.rows ≤ 65535) (history : List Row) {lines : List Row}
    (legible : ∀ line ∈ lines, Legible width line ∧ line.length = buffer.cols)
    (front old : List Row) (sameLength : old.length = lines.length)
    (oldWidths : ∀ line ∈ old, line.length = buffer.cols)
    (fills : front.length + lines.length = buffer.rows) (cursor : CursorState)
    (plainPen : cursor.attrs = {}) :
    ∃ final : CursorState, final.attrs = {} ∧ Paints width (renderRows {} front.length lines)
        ({ buffer with cells := front ++ old, cursor }, history)
        ({ buffer with cells := front ++ lines.map mended, cursor := final }, history) := by
  induction lines generalizing front old cursor with
  | nil =>
    obtain rfl := length_eq_zero_iff.mp sameLength
    exact ⟨cursor, plainPen, .refl width _⟩
  | cons line rest ih =>
    obtain ⟨first, others, rfl⟩ := exists_cons_of_length_eq_add_one sameLength
    obtain ⟨lineLegible, lineWidth⟩ := legible line mem_cons_self
    rw [length_cons] at fills
    have started := startRow_paints width
      { buffer with cells := front ++ first :: others, cursor } rfl
      (oldWidths first mem_cons_self) (by show front.length < buffer.rows; omega) addressable
      plainPen history
    obtain ⟨col, written⟩ := renderCells_paints plain lineLegible
      { buffer with cells := front ++ first :: others, cursor } front.length
      (by rw [length_append, length_cons]; omega)
      (by show front.length < buffer.rows; omega) []
      (by rw [length_nil, Nat.zero_add]; exact lineWidth) {} history
    have longer : (front ++ [mended line]).length = front.length + 1 := length_append
    obtain ⟨final, finalPen, painted⟩ := ih
      (fun other mem => legible other (mem_cons_of_mem _ mem)) (front ++ [mended line])
      others (Nat.succ.inj sameLength)
      (fun other mem => oldWidths other (mem_cons_of_mem _ mem))
      (by rw [longer]; omega) { row := front.length, col, attrs := {} } rfl
    refine ⟨final, finalPen, ?_⟩
    rw [longer, append_assoc, append_assoc] at painted
    have stored : (front ++ first :: others).set front.length (mended line) =
        front ++ mended line :: others := by
      rw [set_append_right _ _ (Nat.le_refl _), Nat.sub_self, set_cons_zero]
    have ended := endRow_paints { buffer with cells := front ++ first :: others, cursor }
      front.length (mended line) col (renderCells {} (trimmed line)).2 history
      (fun pen => renderRows pen (front.length + 1) rest) (by
        rw [ScreenBuffer.drawing, stored]
        exact painted)
    rw [renderRows_cons, append_assoc]
    exact started.append (written.append ended)

end Rows

end Dinotty.Screen
