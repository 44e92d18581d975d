/-
This file proves the round trip of the snapshot. The rows of a buffer, its scroll region and the
private modes come back on a fresh screen; the pen comes back plain, a pending wrap is lost, and the
continuations of wide glyphs take the attributes of their glyphs.
-/

import Dinotty.Screen.Painting

namespace Dinotty.Screen

open List Option Token VirtualScreen

section Buffers

variable {width : Char → Option Nat}

/-! ### Buffers -/

variable (width) in
/-- A buffer that the renderer can write: a grid with its margins inside, made of legible rows. -/
structure ScreenBuffer.Readable (buffer : ScreenBuffer) : Prop where
  sized : Sized buffer.cells buffer.cols buffer.rows
  top : buffer.scrollTop < buffer.rows
  bottom : buffer.scrollBottom < buffer.rows
  legible : ∀ line ∈ buffer.cells, Legible width line

theorem renderBuffer_paints (plain : PlainWidths width) {shown : ScreenBuffer}
    (readable : shown.Readable width) (addressable : shown.rows ≤ 65535) (canvas : ScreenBuffer)
    (sized : Sized canvas.cells shown.cols shown.rows) (colsEq : canvas.cols = shown.cols)
    (rowsEq : canvas.rows = shown.rows) (plainPen : canvas.cursor.attrs = {})
    (hist : List Row) :
    ∃ final : CursorState, final.attrs = {} ∧ Paints width (renderBuffer shown) (canvas, hist)
        ({ canvas with cells := shown.cells.map mended, cursor := final }, hist) := by
  obtain ⟨final, -, painted⟩ := renderRows_paints plain canvas (by omega) hist
    (fun line mem => ⟨readable.legible line mem, by
      rw [readable.sized.2 line mem, colsEq]⟩)
    [] canvas.cells (by rw [sized.1, readable.sized.1])
    (fun line mem => by rw [sized.2 line mem, colsEq])
    (by rw [length_nil, Nat.zero_add, readable.sized.1, rowsEq]) canvas.cursor plainPen
  exact ⟨{ final with attrs := {} }, rfl, painted.append (resetSgr_paints width _ hist)⟩

theorem restoreCursorState_paints (width : Char → Option Nat) {shown : ScreenBuffer}
    (top : shown.scrollTop < shown.rows) (bottom : shown.scrollBottom < shown.rows)
    (addressable : shown.rows ≤ 65535) (canvas : ScreenBuffer) (colsEq : canvas.cols = shown.cols)
    (rowsEq : canvas.rows = shown.rows) (wholeTop : canvas.scrollTop = 0)
    (wholeBottom : canvas.scrollBottom = canvas.rows - 1) (hist : List Row) :
    Paints width (restoreCursorState shown) (canvas, hist) ({ canvas with
        scrollTop := shown.scrollTop
        scrollBottom := shown.scrollBottom
        cursor := { canvas.cursor with
          row := min (min shown.cursor.row 65534) (shown.rows - 1)
          col := min (min shown.cursor.col 65534) (shown.cols - 1) } }, hist) := by
  have topKept : min (min shown.scrollTop 65534) (shown.rows - 1) = shown.scrollTop := by omega
  have bottomKept : min (min shown.scrollBottom 65534) (shown.rows - 1) = shown.scrollBottom := by
    omega
  obtain ⟨cells, cursor, canvasTop, canvasBottom, cols, rows⟩ := canvas
  obtain rfl : cols = shown.cols := colsEq
  obtain rfl : rows = shown.rows := rowsEq
  unfold restoreCursorState
  split
  · have cut := region_paints width ⟨cells, cursor, canvasTop, canvasBottom, shown.cols, shown.rows⟩
      hist shown.scrollTop shown.scrollBottom
    rw [topKept, bottomKept] at cut
    exact cut.append (position_paints width _ hist shown.cursor.row shown.cursor.col)
  next whole =>
    have sameTop : canvasTop = shown.scrollTop := by
      have : canvasTop = 0 := wholeTop
      omega
    have sameBottom : canvasBottom = shown.scrollBottom := by
      have : canvasBottom = shown.rows - 1 := wholeBottom
      omega
    obtain rfl := sameTop
    obtain rfl := sameBottom
    exact position_paints width _ hist shown.cursor.row shown.cursor.col

end Buffers

/-! ### Private modes -/

namespace VirtualScreen

variable {Parser : Type} (width : Char → Option Nat)

def withModes (vs : VirtualScreen Parser) (privateModes : PrivateModes) : VirtualScreen Parser :=
  { vs with privateModes }

section

variable (vs : VirtualScreen Parser)
include vs

variable (modes : PrivateModes)

@[simp] theorem withModes_privateModes : (vs.withModes modes).privateModes = modes := rfl

theorem withModes_draw (screen : ScreenBuffer) (hist : List Row) :
    (vs.withModes modes).draw screen hist = (vs.draw screen hist).withModes modes := by
  obtain ⟨primary, alternate, usingAlternate⟩ := vs
  cases usingAlternate <;> rfl

theorem withModes_self {modes : PrivateModes} (same : vs.privateModes = modes) :
    vs.withModes modes = vs := by
  rw [← same]
  rfl

theorem process_privateMode {mode : Nat} (change : PrivateModes → PrivateModes)
    (sets : ∀ p : Performer, p.perform width (privateMode mode 'h').callback =
      some { p with privateModes := change p.privateModes }) :
    vs.process width [(privateMode mode 'h').callback] =
      some (vs.withModes (change vs.privateModes)) := by
  show Fallible.run (perform width) vs [[(privateMode mode 'h').callback]] = _
  rw [Fallible.run_cons, perform, Fallible.run_cons, sets]
  obtain ⟨primary, alternate, usingAlternate⟩ := vs
  cases usingAlternate <;> rfl

theorem process_encoding (encoding : MouseEncoding) (unset : vs.privateModes.encoding = .default) :
    vs.process width (encoding.replay.map callback) =
      some (vs.withModes { vs.privateModes with encoding }) := by
  cases encoding with
  | default => exact congrArg some (withModes_self vs (by rw [← unset])).symm
  | sgr =>
    exact process_privateMode width vs (fun modes => { modes with encoding := .sgr }) fun p => rfl
  | sgrPixels =>
    exact process_privateMode width vs (fun modes => { modes with encoding := .sgrPixels })
      fun p => rfl

theorem process_mouse (mouse : MouseProtocol) (unset : vs.privateModes.mouse = .none) :
    vs.process width (mouse.replay.map callback) =
      some (vs.withModes { vs.privateModes with mouse }) := by
  have set (mode : Nat) (sets : ∀ p : Performer,
      p.perform width (privateMode mode 'h').callback =
        some { p with privateModes := { p.privateModes with mouse } }) :=
    process_privateMode width vs (fun modes => { modes with mouse }) sets
  cases mouse with
  | none => exact congrArg some (withModes_self vs (by rw [← unset])).symm
  | x10 => exact set 9 fun p => rfl
  | normal => exact set 1000 fun p => rfl
  | button => exact set 1002 fun p => rfl
  | any => exact set 1003 fun p => rfl

theorem process_flagMode {mode : Nat} (flag : Bool) (change : PrivateModes → PrivateModes)
    (next : PrivateModes)
    (sets : ∀ p : Performer, p.perform width (privateMode mode 'h').callback =
      some { p with privateModes := change p.privateModes })
    (changed : (if flag then change vs.privateModes else vs.privateModes) = next) :
    vs.process width ((flagMode flag mode).map callback) = some (vs.withModes next) := by
  obtain rfl := changed
  cases flag with
  | false => rfl
  | true =>
    show vs.process width [(privateMode mode 'h').callback] = _
    exact process_privateMode width vs change sets

theorem process_writeReplay (plain : vs.privateModes = {}) :
    vs.process width (modes.writeReplay.map callback) =
      some (vs.withModes { modes with focusEvent := false }) := by
  obtain ⟨mouse, encoding, cursorKeys, keypad, bracketedPaste, focusEvent⟩ := modes
  simp only [PrivateModes.writeReplay, map_append, process_append]
  rw [process_encoding width vs encoding (by rw [plain]), bind_some,
    process_mouse width _ mouse (by rw [withModes_privateModes, plain]), bind_some,
    process_flagMode width _ cursorKeys (fun modes => { modes with cursorKeys := true })
      { mouse, encoding, cursorKeys } (fun p => rfl)
      (by rw [withModes_privateModes, withModes_privateModes, plain]; cases cursorKeys <;> rfl),
    bind_some,
    process_flagMode width _ keypad (fun modes => { modes with keypad := true })
      { mouse, encoding, cursorKeys, keypad } (fun p => rfl) (by cases keypad <;> rfl),
    bind_some,
    process_flagMode width _ bracketedPaste (fun modes => { modes with bracketedPaste := true })
      { mouse, encoding, cursorKeys, keypad, bracketedPaste } (fun p => rfl)
      (by cases bracketedPaste <;> rfl)]
  rfl

end

end VirtualScreen

/-! ### The tokens are well formed -/

theorem encodeSgr_wellFormed (attrs : CellAttrs) : (encodeSgr attrs).WellFormed := by
  have flag (value : Bool) (code : Nat) : (flagParams value code).length ≤ 1 := by
    cases value with
    | false => exact Nat.zero_le 1
    | true => exact Nat.le_refl 1
  have color (base bright extended : Nat) (value : Option Color) :
      (colorParams base bright extended value).length ≤ 5 := by
    unfold colorParams
    split
    · split
      · exact Nat.le_add_left 1 4
      · split
        · exact Nat.le_add_left 1 4
        · exact Nat.le_add_left 3 2
    · exact Nat.le_refl 5
    · exact Nat.zero_le 5
  refine ⟨cons_ne_nil _ _, ?_, rfl⟩
  have bold := flag attrs.bold 1
  have dim := flag attrs.dim 2
  have italic := flag attrs.italic 3
  have underline := flag attrs.underline 4
  have inverse := flag attrs.inverse 7
  have strikethrough := flag attrs.strikethrough 9
  have fg := color 30 90 38 attrs.fg
  have bg := color 40 100 48 attrs.bg
  simp only [sgrParams, length_cons, length_append, maxParams]
  omega

def Cell.Printable (cell : Cell) : Prop :=
  cell.ch ≠ nul → isControl cell.ch = false ∧ ∀ mark ∈ cell.combining, isControl mark = false

theorem renderCells_wellFormed {line : Row} (printable : ∀ cell ∈ line, cell.Printable)
    (pen : CellAttrs) : ∀ token ∈ (renderCells pen line).1, token.WellFormed := by
  induction line generalizing pen with
  | nil => exact nofun
  | cons cell rest ih =>
    rw [forall_mem_cons] at printable
    rw [renderCells]
    split
    · exact ih printable.2 pen
    next glyph =>
      obtain ⟨visible, marks⟩ := printable.1 glyph
      intro token mem
      rcases mem_append.mp mem with front | back
      · rcases mem_append.mp front with rendition | written
        · split at rendition
          · cases rendition
          · rw [mem_singleton.mp rendition]
            exact encodeSgr_wellFormed cell.attrs
        · rcases mem_cons.mp written with rfl | mark
          · exact visible
          · obtain ⟨c, among, rfl⟩ := mem_map.mp mark
            exact marks c among
      · exact ih printable.2 cell.attrs token back

variable {width : Char → Option Nat}

theorem Legible.printable {line : Row} (legible : Legible width line) :
    ∀ cell ∈ trimmed line, cell.Printable := by
  have whole : ∀ cell ∈ line, cell.Printable := by
    induction legible with
    | nil => exact nofun
    | narrow glyph one marked later ih =>
      rw [forall_mem_cons]
      exact ⟨fun _ => ⟨glyph, fun mark mem => (marked.marks mark mem).1⟩, ih⟩
    | wide glyph two bare continuation clean later ih =>
      rw [forall_mem_cons, forall_mem_cons]
      refine ⟨fun _ => ⟨glyph, ?_⟩, fun visible => absurd continuation visible, ih⟩
      rw [bare]
      exact nofun
  exact fun cell mem => whole cell (( rdropWhile_prefix _ _).subset mem)

theorem resetSgr_wellFormed : resetSgr.WellFormed := encodeSgr_wellFormed {}

theorem renderRows_wellFormed {lines : List Row} (legible : ∀ line ∈ lines, Legible width line)
    (pen : CellAttrs) (i : Nat) :
    ∀ token ∈ renderRows pen i lines, token.WellFormed := by
  induction lines generalizing pen i with
  | nil => exact nofun
  | cons line rest ih =>
    rw [forall_mem_cons] at legible
    rw [renderRows_cons]
    intro token mem
    rcases mem_append.mp mem with front | back
    · rcases mem_append.mp front with start | written
      · simp only [mem_cons, not_mem_nil, or_false] at start
        rcases start with rfl | rfl
        · exact ⟨cons_ne_nil _ _, Nat.le_add_left 2 30, rfl⟩
        · exact ⟨cons_ne_nil _ _, Nat.le_add_left 1 31, rfl⟩
      · exact renderCells_wellFormed legible.1.printable pen token written
    · split at back
      · rcases mem_cons.mp back with rfl | later
        · exact resetSgr_wellFormed
        · exact ih legible.2 _ _ token later
      · exact ih legible.2 _ _ token back

theorem renderBuffer_wellFormed {shown : ScreenBuffer} (readable : shown.Readable width) :
    ∀ token ∈ renderBuffer shown, token.WellFormed := by
  intro token mem
  rcases mem_append.mp mem with rows | last
  · exact renderRows_wellFormed readable.legible {} 0 token rows
  · rw [mem_singleton.mp last]
    exact resetSgr_wellFormed

theorem restoreCursorState_wellFormed (shown : ScreenBuffer) :
    ∀ token ∈ restoreCursorState shown, token.WellFormed := by
  intro token mem
  rcases mem_append.mp mem with region | place
  · split at region
    · rw [mem_singleton.mp region]
      exact ⟨cons_ne_nil _ _, Nat.le_add_left 2 30, rfl⟩
    · cases region
  · rw [mem_singleton.mp place]
    exact ⟨cons_ne_nil _ _, Nat.le_add_left 2 30, rfl⟩

theorem writeReplay_wellFormed (modes : PrivateModes) :
    ∀ token ∈ modes.writeReplay, token.WellFormed := by
  have flag (value : Bool) (mode : Nat) : ∀ token ∈ flagMode value mode, token.WellFormed := by
    intro token mem
    cases value with
    | false => cases mem
    | true =>
      rw [mem_singleton.mp mem]
      exact rfl
  intro token mem
  simp only [PrivateModes.writeReplay, mem_append] at mem
  rcases mem with (((encoding | mouse) | cursorKeys) | keypad) | bracketedPaste
  · cases known : modes.encoding with
    | default =>
      rw [known] at encoding
      cases encoding
    | sgr | sgrPixels =>
      rw [known] at encoding
      rw [mem_singleton.mp encoding]
      exact rfl
  · cases known : modes.mouse with
    | none =>
      rw [known] at mouse
      cases mouse
    | x10 | normal | button | any =>
      rw [known] at mouse
      rw [mem_singleton.mp mouse]
      exact rfl
  · exact flag _ _ token cursorKeys
  · exact flag _ _ token keypad
  · exact flag _ _ token bracketedPaste

/-! ### The snapshot -/

/-- What a fresh buffer shows after the text of a buffer: the pen is plain, and a pending wrap is
lost. -/
def ScreenBuffer.replica (shown : ScreenBuffer) : ScreenBuffer :=
  { shown with
    cells := shown.cells.map mended
    cursor :=
      { row := min (min shown.cursor.row 65534) (shown.rows - 1)
        col := min (min shown.cursor.col 65534) (shown.cols - 1)
        attrs := {} } }

/-- A canvas on which a buffer can be drawn: a grid of its size without margins, with a plain pen.
-/
structure ScreenBuffer.Canvas (canvas shown : ScreenBuffer) : Prop where
  sized : Sized canvas.cells shown.cols shown.rows
  colsEq : canvas.cols = shown.cols
  rowsEq : canvas.rows = shown.rows
  top : canvas.scrollTop = 0
  bottom : canvas.scrollBottom = canvas.rows - 1
  pen : canvas.cursor.attrs = {}

theorem canvas_new (shown : ScreenBuffer) : (ScreenBuffer.new shown.cols shown.rows).Canvas shown :=
  ⟨ScreenBuffer.sized_blank _ _, rfl, rfl, rfl, rfl, rfl⟩

namespace VirtualScreen

variable {Parser Other : Type} {width : Char → Option Nat}

theorem process_append_of_some (vs : VirtualScreen Parser) {middle : VirtualScreen Parser}
    {first : List Callback} (second : List Callback)
    (reached : vs.process width first = some middle) :
    vs.process width (first ++ second) = middle.process width second := by
  rw [process_append, reached, bind_some]

/-- The body of a snapshot redraws the buffer, sets the modes and restores region and cursor. -/
theorem process_redraw (plain : PlainWidths width) {shown : ScreenBuffer}
    (readable : shown.Readable width) (addressable : shown.rows ≤ 65535) (modes : PrivateModes)
    (vs : VirtualScreen Parser) (canvas : vs.active.Canvas shown) (unset : vs.privateModes = {}) :
    vs.process width ((renderBuffer shown ++ modes.writeReplay ++ restoreCursorState shown).map
        callback) =
      some ((vs.draw shown.replica vs.scrollback).withModes
        { modes with focusEvent := false }) := by
  obtain ⟨final, pen, painted⟩ := renderBuffer_paints plain readable addressable vs.active
    canvas.sized canvas.colsEq canvas.rowsEq canvas.pen vs.scrollback
  have drawn := painted Parser vs rfl rfl
  have set := process_writeReplay width
    (vs.draw { vs.active with cells := shown.cells.map mended, cursor := final } vs.scrollback)
    modes unset
  have restored := restoreCursorState_paints width readable.top readable.bottom addressable
    { vs.active with cells := shown.cells.map mended, cursor := final } canvas.colsEq
    canvas.rowsEq canvas.top canvas.bottom vs.scrollback Parser
    ((vs.draw { vs.active with cells := shown.cells.map mended, cursor := final }
      vs.scrollback).withModes { modes with focusEvent := false })
    (draw_active vs _ _) rfl
  rw [withModes_draw, draw_draw] at restored
  have same : ScreenBuffer.mk (shown.cells.map mended)
      { row := min (min shown.cursor.row 65534) (shown.rows - 1)
        col := min (min shown.cursor.col 65534) (shown.cols - 1)
        attrs := final.attrs } shown.scrollTop shown.scrollBottom vs.active.cols vs.active.rows =
      shown.replica := by
    rw [pen, canvas.colsEq, canvas.rowsEq]
    rfl
  rw [map_append, map_append, append_assoc, process_append_of_some vs _ drawn,
    process_append_of_some _ _ set, restored]
  exact congrArg (fun screen => some ((vs.draw screen vs.scrollback).withModes
    { modes with focusEvent := false })) same

theorem process_quiet (vs : VirtualScreen Parser) {mode : Nat} {final : Char}
    (silent : ∀ p : Performer, p.perform width (privateMode mode final).callback = some p) :
    vs.process width [(privateMode mode final).callback] = some vs := by
  have quiet := privateMode_paints width vs.active vs.scrollback silent Parser vs rfl rfl
  rwa [draw_self] at quiet

variable {vs : VirtualScreen Parser}

theorem process_cons_of_some {middle : VirtualScreen Parser} {cb : Callback}
    {rest : List Callback} (reached : vs.process width [cb] = some middle) :
    vs.process width (cb :: rest) = middle.process width rest :=
  process_append_of_some vs rest reached

theorem process_resetSgr (vs : VirtualScreen Parser) (plainPen : vs.active.cursor.attrs = {}) :
    vs.process width [resetSgr.callback] = some vs := by
  have reset := resetSgr_paints width vs.active vs.scrollback Parser vs rfl rfl
  have same : vs.active.withCursor { vs.active.cursor with attrs := {} } = vs.active := by
    rw [← plainPen]
    rfl
  rw [same, draw_self] at reset
  exact reset

theorem process_enterAlternate (primaryShown : vs.usingAlternate = false) :
    vs.process width [enterAlternateToken.callback] = some vs.enterAlternate := by
  have entered : vs.perform width [enterCallback] = _ := perform_enter primaryShown
  show Fallible.run (perform width) vs [[enterCallback]] = _
  rw [Fallible.run_cons, entered]
  rfl

/-- The fresh screen on which a snapshot draws: the alternate screen is entered first when the
snapshot shows it. -/
def canvas (parser : Parser) (cols rows : Nat) (usingAlternate : Bool) : VirtualScreen Parser :=
  if usingAlternate then (new parser cols rows).enterAlternate else new parser cols rows

theorem canvas_active (parser : Parser) (cols rows : Nat) (usingAlternate : Bool) :
    (canvas parser cols rows usingAlternate).active = .new cols rows := by
  cases usingAlternate <;> rfl

theorem process_prologue (width : Char → Option Nat) (parser : Parser) (cols rows : Nat)
    (usingAlternate : Bool) :
    (new parser cols rows).process width
        (([hideCursor, resetSgr] ++ if usingAlternate then [enterAlternateToken] else []).map
          callback) =
      some (canvas parser cols rows usingAlternate) := by
  have started : (new parser cols rows).process width
      ([hideCursor, resetSgr].map callback) = some (new parser cols rows) := by
    have hidden : (new parser cols rows).process width [hideCursor.callback] = _ :=
      process_quiet _ fun p => rfl
    exact (process_cons_of_some hidden).trans (process_resetSgr _ rfl)
  rw [map_append, process_append_of_some _ _ started]
  cases usingAlternate with
  | false => rfl
  | true => exact process_enterAlternate rfl

/-- Fed to a fresh screen, a snapshot makes it show the replica of the shown buffer, with the same
screen and the same modes, but for focus reporting. -/
theorem process_snapshot (plain : PlainWidths width) (vs : VirtualScreen Other)
    (readable : vs.active.Readable width) (addressable : vs.active.rows ≤ 65535)
    (parser : Parser) :
    (new parser vs.active.cols vs.active.rows).process width (vs.snapshot.map callback) =
      some (((canvas parser vs.active.cols vs.active.rows vs.usingAlternate).draw
        vs.active.replica []).withModes { vs.privateModes with focusEvent := false }) := by
  have shown := canvas_active parser vs.active.cols vs.active.rows vs.usingAlternate
  have started := process_prologue width parser vs.active.cols vs.active.rows
    vs.usingAlternate
  have redrawn := process_redraw plain readable addressable vs.privateModes
    (canvas parser vs.active.cols vs.active.rows vs.usingAlternate)
    (by rw [shown]; exact canvas_new vs.active) (by unfold canvas; split <;> rfl)
  have hist : (canvas parser vs.active.cols vs.active.rows vs.usingAlternate).scrollback = [] := by
    unfold canvas
    split <;> rfl
  have tokens : vs.snapshot =
      ([hideCursor, resetSgr] ++ if vs.usingAlternate then [enterAlternateToken] else []) ++
        ((renderBuffer vs.active ++ vs.privateModes.writeReplay ++
          restoreCursorState vs.active) ++ [showCursor]) := by
    simp [snapshot]
  rw [hist] at redrawn
  rw [tokens, map_append, process_append_of_some _ _ started, map_append,
    process_append_of_some _ _ redrawn]
  exact process_quiet _ fun p => rfl

theorem snapshot_wellFormed (readable : vs.active.Readable width) :
    ∀ token ∈ vs.snapshot, token.WellFormed := by
  have mode (number : Nat) (final : Char) (known : isFinal final = true) :
      (privateMode number final).WellFormed := known
  simp only [snapshot, forall_mem_append]
  refine ⟨⟨⟨⟨⟨?_, ?_⟩, renderBuffer_wellFormed readable⟩, writeReplay_wellFormed _⟩,
    restoreCursorState_wellFormed _⟩, ?_⟩
  · rw [forall_mem_cons, forall_mem_singleton]
    exact ⟨mode 25 'l' rfl, resetSgr_wellFormed⟩
  · split
    · rw [forall_mem_singleton]
      exact mode 1049 'h' rfl
    · exact nofun
  · rw [forall_mem_singleton]
    exact mode 25 'h' rfl

end VirtualScreen

section

variable {vte : Vte} {ground : vte.Parser → Prop} {width : Char → Option Nat}

/-- The screen that a fresh terminal of the size of the shown buffer is after the snapshot. -/
def VirtualScreen.copy {Parser : Type} (vs : VirtualScreen Parser) (parser : Parser) :
    VirtualScreen Parser :=
  ((VirtualScreen.canvas parser vs.active.cols vs.active.rows vs.usingAlternate).draw
    vs.active.replica []).withModes { vs.privateModes with focusEvent := false }

variable {Parser : Type}

theorem VirtualScreen.copy_withParser (vs : VirtualScreen Parser) (first parser : Parser) :
    { vs.copy first with parser } = vs.copy parser := by
  unfold copy canvas
  cases vs.usingAlternate <;> rfl

section

variable (vs : VirtualScreen Parser) (parser : Parser)
include vs parser

@[simp] theorem VirtualScreen.copy_active : (vs.copy parser).active = vs.active.replica :=
  draw_active (canvas parser vs.active.cols vs.active.rows vs.usingAlternate) _ _

@[simp] theorem VirtualScreen.copy_usingAlternate :
    (vs.copy parser).usingAlternate = vs.usingAlternate := by
  show (canvas parser vs.active.cols vs.active.rows vs.usingAlternate).usingAlternate = _
  unfold canvas
  split
  next alternate =>
    exact alternate.symm
  next primary =>
    exact (Bool.eq_false_iff.mpr primary).symm

theorem VirtualScreen.copy_parser : (vs.copy parser).parser = parser := by
  unfold copy canvas
  cases vs.usingAlternate <;> rfl

end

theorem feed_snapshot (faithful : vte.Faithful ground) (plain : PlainWidths width)
    (vs : VirtualScreen vte.Parser) (readable : vs.active.Readable width)
    (addressable : vs.active.rows ≤ 65535) :
    ∃ parser, ground parser ∧
      (new vte.new vs.active.cols vs.active.rows).feed vte width
        (textBytes (tokenText vs.snapshot)) = some (vs.copy parser) := by
  obtain ⟨parser, landed, fed⟩ := feed_tokens faithful width vs.snapshot
    (snapshot_wellFormed readable)
    (new vte.new vs.active.cols vs.active.rows) faithful.new
  rw [process_snapshot plain vs readable addressable, map_some] at fed
  exact ⟨parser, landed, fed.trans (congrArg some (vs.copy_withParser vte.new parser))⟩

end

/-! ### The round trip -/

/-- A buffer as the screen keeps it: a grid of two columns at least, with its margins in order, of
printable glyphs of one or two columns, each wide one with its continuation, and with combining
marks only on visible glyphs of one column. -/
structure ScreenBuffer.WellFormed (width : Char → Option Nat) (buffer : ScreenBuffer) : Prop where
  columns : 2 ≤ buffer.cols
  sized : Sized buffer.cells buffer.cols buffer.rows
  margins : buffer.scrollTop ≤ buffer.scrollBottom
  bottom : buffer.scrollBottom < buffer.rows
  pairs : ∀ line ∈ buffer.cells, Screen.Paired width line
  glyphs : ∀ line ∈ buffer.cells, ∀ cell ∈ line, cell.ch = nul ∨
    isControl cell.ch = false ∧ (width cell.ch = some 1 ∨ width cell.ch = some 2)
  marks : ∀ line ∈ buffer.cells, ∀ cell ∈ line, cell.combining.length ≤ maxCombining ∧
    (∀ mark ∈ cell.combining, isControl mark = false ∧ width mark = some 0) ∧
    (cell.combining ≠ [] → cell.ch ≠ ' ' ∧ width cell.ch = some 1)

section RoundTrip

variable {width : Char → Option Nat}

/-- A row that the pairing automaton accepts is legible, behind a continuation when one is due. -/
theorem legible_of_scan (plain : PlainWidths width) {line : Row}
    (glyphs : ∀ cell ∈ line, cell.ch = nul ∨
      isControl cell.ch = false ∧ (width cell.ch = some 1 ∨ width cell.ch = some 2))
    (marks : ∀ cell ∈ line, cell.combining.length ≤ maxCombining ∧
      (∀ mark ∈ cell.combining, isControl mark = false ∧ width mark = some 0) ∧
      (cell.combining ≠ [] → cell.ch ≠ ' ' ∧ width cell.ch = some 1)) :
    (scan width false line = some false → Legible width line) ∧
      (scan width true line = some false → ∃ mark rest, line = mark :: rest ∧ mark.ch = nul ∧
        mark.combining = [] ∧ Legible width rest) := by
  induction line with
  | nil => exact ⟨fun _ => .nil, nofun⟩
  | cons cell rest ih =>
    rw [forall_mem_cons] at glyphs marks
    obtain ⟨fresh, behind⟩ := ih glyphs.2 marks.2
    obtain ⟨count, plainMarks, visible⟩ := marks.1
    simp only [scan_cons, pairStep]
    by_cases continuation : cell.ch = nul
    · have bare : cell.combining = [] := by
        by_contra some
        have narrow := (visible some).2
        have zero := plain.continuation
        rw [continuation] at narrow
        rw [narrow] at zero
        cases zero
      simp only [continuation, if_true, Bool.false_eq_true, if_false, bind_none,
        bind_some, reduceCtorEq, false_implies, true_and]
      exact fun taken => ⟨cell, rest, rfl, continuation, bare, fresh taken⟩
    · obtain ⟨glyph, columns⟩ := glyphs.1.resolve_left continuation
      have glyphMarks : ∀ mark ∈ cell.combining, isControl mark = false ∧ (width mark).getD 0 = 0 :=
        fun mark mem => ⟨(plainMarks mark mem).1, by rw [(plainMarks mark mem).2]; rfl⟩
      rcases columns with one | two
      · simp only [continuation, one, if_false, if_true, Bool.false_eq_true, bind_some,
          bind_none, some.injEq, reduceCtorEq, false_implies, and_true,
          show ((1 : Nat) = 2) = False from eq_false (by decide), decide_false]
        exact fun taken => .narrow glyph one
          ⟨count, glyphMarks, fun some => (visible some).1⟩ (fresh taken)
      · have bare : cell.combining = [] := by
          by_contra some
          rw [(visible some).2] at two
          cases two
        simp only [continuation, two, if_false, if_true, Bool.false_eq_true, bind_some,
          bind_none, reduceCtorEq, false_implies, and_true, decide_true]
        intro taken
        obtain ⟨mark, others, rfl, isNul, clean, later⟩ := behind taken
        exact .wide glyph two bare isNul clean later

theorem ScreenBuffer.WellFormed.readable (plain : PlainWidths width) {buffer : ScreenBuffer}
    (formed : buffer.WellFormed width) : buffer.Readable width where
  sized := formed.sized
  top := Nat.lt_of_le_of_lt formed.margins formed.bottom
  bottom := formed.bottom
  legible line member :=
    (legible_of_scan plain (formed.glyphs line member) (formed.marks line member)).1
      ((paired_iff_scan plain line).mp (formed.pairs line member))

theorem mendFrom_mendFrom (before : CellAttrs) (line : Row) :
    mendFrom before (mendFrom before line) = mendFrom before line := by
  induction line generalizing before with
  | nil => rfl
  | cons cell rest ih =>
    by_cases continuation : cell.ch = nul
    · simp [mendFrom, continuation, ih]
    · simp [mendFrom, continuation, ih]

theorem mended_mended (line : Row) : mended (mended line) = mended line := mendFrom_mendFrom {} line

theorem Legible.mended {line : Row} (legible : Legible width line) :
    Legible width (mended line) := by
  induction legible with
  | nil => exact .nil
  | narrow glyph one marked later ih =>
    rw [mended_narrow glyph later]
    exact .narrow glyph one marked ih
  | wide glyph two bare continuation clean later ih =>
    rw [mended_wide glyph continuation later]
    exact .wide glyph two bare continuation clean ih

theorem ScreenBuffer.Readable.replica {buffer : ScreenBuffer} (readable : buffer.Readable width) :
    buffer.replica.Readable width where
  sized := by
    refine ⟨(length_map mended).trans readable.sized.1, fun line member => ?_⟩
    obtain ⟨original, among, rfl⟩ := mem_map.mp member
    rw [mended_length]
    exact readable.sized.2 original among
  top := readable.top
  bottom := readable.bottom
  legible line member := by
    obtain ⟨original, among, rfl⟩ := mem_map.mp member
    exact (readable.legible original among).mended

/-- A fresh screen of the size of the shown buffer that is fed the snapshot has the same cells, but
for the attributes of continuations, which are those of their glyphs; it shows the same one of the
two screens, with the same scroll region and the same modes but focus reporting; and its own
snapshot gives the same cells once more. -/
theorem snapshot_round_trip (vte : Vte) (ground : vte.Parser → Prop)
    (faithful : vte.Faithful ground) (width : Char → Option Nat) (plain : PlainWidths width)
    (vs : VirtualScreen vte.Parser) (wellFormed : vs.active.WellFormed width)
    (addressable : vs.active.rows ≤ 65535) :
    ∃ copy, (VirtualScreen.new vte.new vs.active.cols vs.active.rows).feed vte width
        (textBytes (tokenText vs.snapshot)) = some copy ∧
      copy.active.cells = vs.active.cells.map mended ∧
      copy.usingAlternate = vs.usingAlternate ∧
      copy.active.scrollTop = vs.active.scrollTop ∧
      copy.active.scrollBottom = vs.active.scrollBottom ∧
      copy.privateModes = { vs.privateModes with focusEvent := false } ∧
      ∃ again, (VirtualScreen.new vte.new copy.active.cols copy.active.rows).feed vte width
          (textBytes (tokenText copy.snapshot)) = some again ∧
        again.active.cells = copy.active.cells := by
  have readable := wellFormed.readable plain
  obtain ⟨parser, -, fed⟩ := feed_snapshot faithful plain vs readable addressable
  have shown := vs.copy_active parser
  obtain ⟨other, -, fedAgain⟩ := feed_snapshot faithful plain (vs.copy parser)
    (by rw [shown]; exact readable.replica) (by rw [shown]; exact addressable)
  refine ⟨vs.copy parser, fed, by rw [shown]; rfl, vs.copy_usingAlternate parser,
    by rw [shown]; rfl, by rw [shown]; rfl, rfl, (vs.copy parser).copy other, fedAgain, ?_⟩
  rw [(vs.copy parser).copy_active other, shown]
  show (vs.active.cells.map mended).map mended = vs.active.cells.map mended
  rw [List.map_map]
  exact map_congr_left fun line member => mended_mended line

/-- A row with a combining mark, a wide glyph, colours and a blank that is not drawn. -/
def styledRow : Row :=
  [{ ch := 'e', combining := ['\u0301'], attrs := { bold := true, fg := some (.indexed 9) } },
    { ch := '中', attrs := { bg := some (.rgb 1 2 3) } },
    { ch := nul, attrs := { bg := some (.rgb 1 2 3) } },
    Cell.blank]

def styledScreen : VirtualScreen SmallParser :=
  { VirtualScreen.new .ground 4 1 with
    primary := { ScreenBuffer.new 4 1 with cells := [styledRow] } }

theorem pairs_of_scan {cells : List Row}
    (taken : ∀ line ∈ cells, scan smallWidth false line = some false) :
    ∀ line ∈ cells, Paired smallWidth line :=
  fun line mem => (paired_iff_scan smallWidth_plain line).mpr (taken line mem)

/-- Whether the combining marks of a cell are few, and stand on a glyph. -/
def marksFit (cell : Cell) : Bool :=
  cell.combining.length ≤ maxCombining &&
    (cell.combining.all fun mark => !isControl mark && smallWidth mark = some 0) &&
    (cell.combining = [] || cell.ch ≠ ' ' && smallWidth cell.ch = some 1)

theorem marks_of_fit {cells : List Row} (fit : (cells.all fun line => line.all marksFit) = true) :
    ∀ line ∈ cells, ∀ cell ∈ line, cell.combining.length ≤ maxCombining ∧
      (∀ mark ∈ cell.combining, isControl mark = false ∧ smallWidth mark = some 0) ∧
      (cell.combining ≠ [] → cell.ch ≠ ' ' ∧ smallWidth cell.ch = some 1) := by
  intro line inLine cell inCell
  have fits := all_eq_true.mp (all_eq_true.mp fit line inLine) cell inCell
  simp only [marksFit, Bool.and_eq_true, decide_eq_true_eq, List.all_eq_true, Bool.or_eq_true,
    Bool.not_eq_true'] at fits
  exact ⟨fits.1.1, fits.1.2, fun marked => fits.2.resolve_left marked⟩

theorem snapshot_round_trip_styled :
    ∃ copy, (VirtualScreen.new smallVte.new 4 1).feed smallVte smallWidth
        (textBytes (tokenText styledScreen.snapshot)) = some copy ∧
      copy.active.cells = styledScreen.active.cells := by
  have wellFormed : styledScreen.active.WellFormed smallWidth :=
    { columns := by decide
      sized := ⟨rfl, by decide⟩
      margins := by decide
      bottom := by decide
      pairs := pairs_of_scan (by decide)
      glyphs := by decide
      marks := marks_of_fit (by decide) }
  obtain ⟨copy, fed, cells, -⟩ := snapshot_round_trip smallVte _ SmallParser.faithful smallWidth
    smallWidth_plain styledScreen wellFormed (by decide)
  exact ⟨copy, fed, cells.trans (by decide)⟩

/-- Of two wide glyphs, the first of them bold, the two cells between their outer halves are
deleted: the continuation that is left is not bold, and the snapshot makes it so. -/
theorem snapshot_mends_continuation : ∃ vs copy : VirtualScreen smallVte.Parser,
      (VirtualScreen.new smallVte.new 4 1).feed smallVte smallWidth
          (textBytes "\x1b[1m中\x1b[0m文\x1b[1;2H\x1b[2P".toList) = some vs ∧
        vs.active.WellFormed smallWidth ∧
        (VirtualScreen.new smallVte.new vs.active.cols vs.active.rows).feed smallVte smallWidth
          (textBytes (tokenText vs.snapshot)) = some copy ∧
        copy.active.cells ≠ vs.active.cells := by
  have run : ((VirtualScreen.new smallVte.new 4 1).feed smallVte smallWidth
      (textBytes "\x1b[1m中\x1b[0m文\x1b[1;2H\x1b[2P".toList)).map VirtualScreen.active =
        some { ScreenBuffer.new 4 1 with
          cells := [[{ ch := '中', attrs := { bold := true } }, { ch := nul }, {}, {}]]
          cursor := { row := 0, col := 1 } } := by
    decide +kernel
  obtain ⟨vs, fed, shown⟩ := map_eq_some_iff.mp run
  have wellFormed : vs.active.WellFormed smallWidth := by
    rw [shown]
    exact {
      columns := by decide
      sized := ⟨rfl, by decide⟩
      margins := by decide
      bottom := by decide
      pairs := pairs_of_scan (by decide)
      glyphs := by decide
      marks := marks_of_fit (by decide) }
  obtain ⟨parser, -, replayed⟩ := feed_snapshot SmallParser.faithful smallWidth_plain vs
    (wellFormed.readable smallWidth_plain) (by rw [shown]; decide)
  refine ⟨vs, vs.copy parser, fed, wellFormed, replayed, ?_⟩
  rw [vs.copy_active parser, shown]
  decide

end RoundTrip

end Dinotty.Screen
