/-
This file is the boundary between bytes and callbacks. It states what the development assumes of the
escape-sequence parser: from its ground state, a printable character, a line control and a
well-formed control sequence each make exactly their own callback and lead back, with decimal
parameters saturating at 65535. A small parser that satisfies the assumption stands for the package
on concrete inputs.
-/

import Dinotty.Screen.VirtualScreen

namespace Dinotty.Screen

open List Option Fallible VirtualScreen

/-! ### Decoding a byte string -/

/-- The callbacks that a byte string makes, one group for each byte, and the parser state
after it. -/
def Vte.decode (vte : Vte) : vte.Parser → List UInt8 → vte.Parser × List (List Callback)
  | parser, [] => (parser, [])
  | parser, byte :: rest =>
      ((vte.decode (vte.advance parser byte).1 rest).1,
        (vte.advance parser byte).2 :: (vte.decode (vte.advance parser byte).1 rest).2)

theorem Vte.decode_append (vte : Vte) (parser : vte.Parser) (first second : List UInt8) :
    vte.decode parser (first ++ second) = ((vte.decode (vte.decode parser first).1 second).1,
        (vte.decode parser first).2 ++ (vte.decode (vte.decode parser first).1 second).2) := by
  induction first generalizing parser with
  | nil => rfl
  | cons byte rest ih =>
    simp [decode, ih]

/-- A byte string leads from one parser state to another and makes the given callbacks. -/
def Vte.Emits (vte : Vte) (parser : vte.Parser) (bytes : List UInt8) (next : vte.Parser)
    (callbacks : List Callback) : Prop :=
  (vte.decode parser bytes).1 = next ∧ (vte.decode parser bytes).2.flatten = callbacks

variable {vte : Vte}

variable {parser middle next : vte.Parser}

theorem Vte.Emits.append {first second : List UInt8}
    {front back : List Callback} (leads : vte.Emits parser first middle front)
    (later : vte.Emits middle second next back) :
    vte.Emits parser (first ++ second) next (front ++ back) := by
  obtain ⟨rfl, rfl⟩ := leads
  obtain ⟨rfl, rfl⟩ := later
  rw [Emits, decode_append]
  exact ⟨rfl, flatten_append⟩

theorem Vte.Emits.append_silent {first second : List UInt8}
    {back : List Callback} (leads : vte.Emits parser first middle [])
    (later : vte.Emits middle second next back) : vte.Emits parser (first ++ second) next back :=
  leads.append later

theorem Vte.emits_byte {parser next : vte.Parser} {byte : UInt8} {callbacks : List Callback}
    (step : vte.advance parser byte = (next, callbacks)) :
    vte.Emits parser [byte] next callbacks := by
  rw [Emits, decode, step]
  exact ⟨rfl, append_nil callbacks⟩

namespace VirtualScreen

variable {Parser : Type} (width : Char → Option Nat)

section

variable (vs : VirtualScreen Parser)
include vs

theorem giveBack_performer : vs.giveBack vs.performer = vs := by
  obtain ⟨primary, alternate, usingAlternate⟩ := vs
  cases usingAlternate <;> rfl

@[simp] theorem perform_nil : vs.perform width [] = some vs := by
  show some ((vs.giveBack vs.performer).switch none) = some vs
  rw [giveBack_performer]
  rfl

theorem switch_withParser (parser : Parser) (req : Option Bool) :
    { vs with parser }.switch req = { vs.switch req with parser } := by
  obtain ⟨primary, alternate, usingAlternate⟩ := vs
  rcases req with _ | enter
  · rfl
  · cases enter <;> cases usingAlternate <;> rfl

theorem perform_withParser (parser : Parser) (cbs : List Callback) :
    { vs with parser }.perform width cbs =
      (vs.perform width cbs).map fun next => { next with parser } := by
  unfold perform
  rw [Option.map_map]
  exact congrArg (fun change => Option.map change _)
    (funext fun p => switch_withParser (vs.giveBack p) parser p.pendingSwitch)

theorem run_withParser (parser other : Parser) (groups : List (List Callback)) :
    (run (perform width) { vs with parser } groups).map
        (fun final => { final with parser := other }) =
      (run (perform width) vs groups).map
        (fun final => { final with parser := other }) := by
  induction groups generalizing vs with
  | nil => rfl
  | cons group rest ih =>
    rw [run_cons, run_cons, perform_withParser]
    cases vs.perform width group with
    | none => rfl
    | some next => exact ih next

end

/-- Apply callbacks one byte after another, a byte for each of them. -/
def process (vs : VirtualScreen Parser) (callbacks : List Callback) :
    Option (VirtualScreen Parser) :=
  Fallible.run (VirtualScreen.perform width) vs (callbacks.map fun callback => [callback])

theorem run_groups_nil (vs : VirtualScreen Parser) {groups : List (List Callback)}
    (empty : groups.flatten = []) :
    run (perform width) vs groups = some vs := by
  induction groups with
  | nil => rfl
  | cons group rest ih =>
    rw [flatten_cons, append_eq_nil_iff] at empty
    rw [empty.1, run_cons_of_some (perform_nil width vs), ih empty.2]

theorem run_groups_singleton (vs : VirtualScreen Parser) {groups : List (List Callback)}
    {cb : Callback} (single : groups.flatten = [cb]) :
    run (perform width) vs groups = vs.perform width [cb] := by
  induction groups with
  | nil => simp at single
  | cons group rest ih =>
    rw [flatten_cons, append_eq_cons_iff] at single
    rcases single with ⟨rfl, tail⟩ | ⟨other, rfl, tail⟩
    · rw [run_cons_of_some (perform_nil width vs), ih tail]
    · obtain ⟨rfl, empty⟩ := append_eq_nil_iff.mp tail.symm
      rw [run_cons]
      have later (next : VirtualScreen Parser) : run (perform width) next rest = some next :=
        run_groups_nil width next empty
      simp [later]

end VirtualScreen

theorem run_feedByte_eq (vte : Vte) (width : Char → Option Nat)
    (vs : VirtualScreen vte.Parser) (bytes : List UInt8) :
    run (feedByte vte width) vs bytes =
      (run (perform width) vs (vte.decode vs.parser bytes).2).map
        fun next => { next with parser := (vte.decode vs.parser bytes).1 } := by
  induction bytes generalizing vs with
  | nil => rfl
  | cons byte rest ih =>
    have step : vs.feedByte vte width byte =
        (vs.perform width (vte.advance vs.parser byte).2).map fun next =>
          { next with parser := (vte.advance vs.parser byte).1 } :=
      perform_withParser width vs _ _
    rw [run_cons, step, Vte.decode, run_cons]
    cases vs.perform width (vte.advance vs.parser byte).2 with
    | none => rfl
    | some next =>
      rw [map_some, bind_some, bind_some, ih]
      exact run_withParser width next _ _ _

/-! ### Tokens -/

/-- `char::is_control`. -/
def isControl (c : Char) : Bool := c.toNat < 0x20 || (0x7F ≤ c.toNat && c.toNat < 0xA0)

def decimal (n : Nat) : List Char := Nat.toDigits 10 n

def textBytes (text : List Char) : List UInt8 := text.flatMap String.utf8EncodeChar

/-- The pieces of text that the renderer writes. -/
inductive Token where
  | glyph (c : Char)
  | control (byte : UInt8)
  | csi (params : List Nat) (final : Char)
  | privateMode (mode : Nat) (final : Char)
  deriving DecidableEq, Repr

/-- Decimal parameters separated by semicolons. -/
def paramText : List Nat → List Char
  | [] => []
  | [param] => decimal param
  | param :: rest => decimal param ++ ';' :: paramText rest

def Token.text : Token → List Char
  | .glyph c => [c]
  | .control byte => [Char.ofNat byte.toNat]
  | .csi params final => '\x1b' :: '[' :: (paramText params ++ [final])
  | .privateMode mode final => '\x1b' :: '[' :: '?' :: (decimal mode ++ [final])

/-- A decimal parameter as the parser stores it. -/
def saturate (n : Nat) : UInt16 := UInt16.ofNat (min n 65535)

def Token.callback : Token → Callback
  | .glyph c => .print c
  | .control byte => .execute byte
  | .csi params final => .csiDispatch (params.map fun n => [saturate n]) [] false final
  | .privateMode mode final => .csiDispatch [[saturate mode]] [0x3F] false final

/-- A final byte of a control sequence. -/
def isFinal (c : Char) : Bool := 0x40 ≤ c.toNat && c.toNat ≤ 0x7E

/-- The number of parameters that the parser keeps. -/
def maxParams : Nat := 32

def Token.WellFormed : Token → Prop
  | .glyph c => isControl c = false
  | .control byte => byte = 0x0A ∨ byte = 0x0D
  | .csi params final => params ≠ [] ∧ params.length ≤ maxParams ∧ isFinal final = true
  | .privateMode _ final => isFinal final = true

/-- The parser decodes every well-formed token faithfully: from a ground state its bytes make its
callback, no other, and lead to a ground state. -/
structure Vte.Faithful (vte : Vte) (ground : vte.Parser → Prop) : Prop where
  new : ground vte.new
  token : ∀ parser (token : Token), ground parser → token.WellFormed →
    ∃ next, ground next ∧ vte.Emits parser (textBytes token.text) next [token.callback]

theorem textBytes_append (first second : List Char) :
    textBytes (first ++ second) = textBytes first ++ textBytes second := flatMap_append

/-- Feeding the text of well-formed tokens applies their callbacks one after another. -/
theorem feed_tokens {ground : vte.Parser → Prop} (faithful : vte.Faithful ground)
    (width : Char → Option Nat) (tokens : List Token)
    (formed : ∀ token ∈ tokens, token.WellFormed) (vs : VirtualScreen vte.Parser)
    (start : ground vs.parser) :
    ∃ parser, ground parser ∧
      run (feedByte vte width) vs (textBytes (tokens.flatMap Token.text)) =
        (vs.process width (tokens.map Token.callback)).map fun next => { next with parser } := by
  induction tokens generalizing vs with
  | nil => exact ⟨vs.parser, start, rfl⟩
  | cons token rest ih =>
    obtain ⟨landing, landed, rfl, single⟩ :=
      faithful.token vs.parser token start (formed token mem_cons_self)
    have first : run (feedByte vte width) vs (textBytes token.text) =
        (vs.perform width [token.callback]).map fun next =>
          { next with parser := (vte.decode vs.parser (textBytes token.text)).1 } := by
      rw [run_feedByte_eq, run_groups_singleton width vs single]
    rw [flatMap_cons, textBytes_append, run_append, first, process, map_cons, map_cons, run_cons]
    cases vs.perform width [token.callback] with
    | none => exact ⟨vs.parser, start, rfl⟩
    | some next =>
      obtain ⟨parser, ends, equal⟩ := ih
        (fun later mem => formed later (mem_cons_of_mem _ mem))
        { next with parser := (vte.decode vs.parser (textBytes token.text)).1 } landed
      refine ⟨parser, ends, ?_⟩
      rw [map_some, bind_some, bind_some, equal]
      exact run_withParser width next _ _ _

/-! ### A small parser -/

/-- The code-point bits read so far with the number of bytes still missing, or the parameters of the
control sequence. -/
inductive SmallParser where
  | ground
  | utf8 (missing value : Nat)
  | escape
  | csi (intermediates : List UInt8) (params : List (List UInt16)) (param : Nat)
  deriving DecidableEq, Repr

def SmallParser.advance : SmallParser → UInt8 → SmallParser × List Callback
  | .ground, byte =>
      if byte = 0x1B then (.escape, [])
      else if byte < 0x20 then (.ground, [.execute byte])
      else if byte < 0x80 then (.ground, [.print (Char.ofNat byte.toNat)])
      else if byte < 0xE0 then (.utf8 1 (byte.toNat % 32), [])
      else if byte < 0xF0 then (.utf8 2 (byte.toNat % 16), [])
      else (.utf8 3 (byte.toNat % 8), [])
  | .utf8 missing value, byte =>
      if missing ≤ 1 then (.ground, [.print (Char.ofNat (value * 64 + byte.toNat % 64))])
      else (.utf8 (missing - 1) (value * 64 + byte.toNat % 64), [])
  | .escape, byte =>
      if byte = 0x5B then (.csi [] [] 0, []) else (.ground, [.escDispatch [] false byte])
  | .csi intermediates params param, byte =>
      if 0x30 ≤ byte ∧ byte ≤ 0x39 then
        (.csi intermediates params (min (param * 10 + (byte.toNat - 0x30)) 65535), [])
      else if byte = 0x3B then
        (.csi intermediates (params ++ [[UInt16.ofNat param]]) 0, [])
      else if byte < 0x40 then (.csi (intermediates ++ [byte]) params param, [])
      else
        (.ground, [.csiDispatch (params ++ [[UInt16.ofNat param]]) intermediates false
          (Char.ofNat byte.toNat)])

/-- The escape-sequence parser cut down to the sequences of this development's tokens. -/
def smallVte : Vte where
  Parser := SmallParser
  new := .ground
  advance := SmallParser.advance

/-- The display widths of control characters, combining marks, wide ideographs and the rest. -/
def smallWidth (c : Char) : Option Nat :=
  if isControl c then none
  else if 0x300 ≤ c.toNat ∧ c.toNat ≤ 0x36F then some 0
  else if 0x4E00 ≤ c.toNat ∧ c.toNat ≤ 0x9FFF then some 2
  else some 1

namespace SmallParser

theorem emits_step {parser next : SmallParser} {byte : UInt8} {callbacks : List Callback}
    (step : parser.advance byte = (next, callbacks)) :
    smallVte.Emits parser [byte] next callbacks :=
  @Vte.emits_byte smallVte parser next byte callbacks step

variable {n : Nat}

theorem toNat_byte (bound : n < 256) : (UInt8.ofNat n).toNat = n := by
  rw [UInt8.toNat_ofNat', Nat.mod_eq_of_lt bound]

theorem byte_lt {m : Nat} (bound : n < 256) (other : m < 256) :
    UInt8.ofNat n < UInt8.ofNat m ↔ n < m := by
  rw [UInt8.lt_iff_toNat_lt, toNat_byte bound, toNat_byte other]

theorem byte_eq {m : Nat} (bound : n < 256) (other : m < 256) :
    UInt8.ofNat n = UInt8.ofNat m ↔ n = m := by
  rw [← UInt8.toNat_inj, toNat_byte bound, toNat_byte other]

theorem advance_ascii (printable : 0x20 ≤ n) (bound : n < 0x80) :
    advance .ground (UInt8.ofNat n) = (.ground, [.print (Char.ofNat n)]) := by
  have notEscape : ¬ UInt8.ofNat n = 0x1B := by
    rw [show (0x1B : UInt8) = UInt8.ofNat 0x1B from rfl, byte_eq (by omega) (by omega)]
    omega
  have notControl : ¬ UInt8.ofNat n < 0x20 := by
    rw [show (0x20 : UInt8) = UInt8.ofNat 0x20 from rfl, byte_lt (by omega) (by omega)]
    omega
  have ascii : UInt8.ofNat n < 0x80 := by
    rw [show (0x80 : UInt8) = UInt8.ofNat 0x80 from rfl, byte_lt (by omega) (by omega)]
    omega
  rw [advance, if_neg notEscape, if_neg notControl, if_pos ascii, toNat_byte (by omega)]

theorem advance_lead (high : 0x80 ≤ n) (bound : n < 256) : advance .ground (UInt8.ofNat n) =
      (if n < 0xE0 then .utf8 1 (n % 32) else if n < 0xF0 then .utf8 2 (n % 16)
        else .utf8 3 (n % 8), []) := by
  have notEscape : ¬ UInt8.ofNat n = 0x1B := by
    rw [show (0x1B : UInt8) = UInt8.ofNat 0x1B from rfl, byte_eq bound (by omega)]
    omega
  have notControl : ¬ UInt8.ofNat n < 0x20 := by
    rw [show (0x20 : UInt8) = UInt8.ofNat 0x20 from rfl, byte_lt bound (by omega)]
    omega
  have notAscii : ¬ UInt8.ofNat n < 0x80 := by
    rw [show (0x80 : UInt8) = UInt8.ofNat 0x80 from rfl, byte_lt bound (by omega)]
    omega
  rw [advance, if_neg notEscape, if_neg notControl, if_neg notAscii, toNat_byte bound]
  simp only [show (0xE0 : UInt8) = UInt8.ofNat 0xE0 from rfl,
    show (0xF0 : UInt8) = UInt8.ofNat 0xF0 from rfl, byte_lt bound (show 0xE0 < 256 by decide),
    byte_lt bound (show 0xF0 < 256 by decide)]
  split
  · rfl
  · split <;> rfl

theorem advance_last (value : Nat) (bound : n < 256) : advance (.utf8 1 value) (UInt8.ofNat n) =
      (.ground, [.print (Char.ofNat (value * 64 + n % 64))]) := by
  rw [advance, if_pos (Nat.le_refl 1), toNat_byte bound]

theorem advance_more (missing value : Nat) (bound : n < 256) :
    advance (.utf8 (missing + 2) value) (UInt8.ofNat n) =
      (.utf8 (missing + 1) (value * 64 + n % 64), []) := by
  rw [advance, if_neg (by omega), toNat_byte bound]
  rfl

theorem emits_char (c : Char) (printable : isControl c = false) :
    smallVte.Emits .ground (String.utf8EncodeChar c) .ground [.print c] := by
  have inRange : c.toNat < 1114112 := by
    have := c.valid
    simp only [UInt32.isValidChar, Nat.isValidChar] at this
    show c.val.toNat < 1114112
    omega
  have visible : 0x20 ≤ c.toNat ∧ (c.toNat < 0x7F ∨ 0xA0 ≤ c.toNat) := by
    simp only [isControl, Bool.or_eq_false_iff, Bool.and_eq_false_iff, decide_eq_false_iff_not]
      at printable
    omega
  have recover {n : Nat} (equal : n = c.toNat) : Char.ofNat n = c := by
    rw [equal, Char.ofNat_toNat]
  have encoded : String.utf8EncodeChar c = if c.toNat ≤ 127 then [UInt8.ofNat c.toNat]
      else if c.toNat ≤ 2047 then
        [UInt8.ofNat (c.toNat / 64 % 32 + 192)] ++ [UInt8.ofNat (c.toNat % 64 + 128)]
      else if c.toNat ≤ 65535 then
        [UInt8.ofNat (c.toNat / 4096 % 16 + 224)] ++ ([UInt8.ofNat (c.toNat / 64 % 64 + 128)] ++
          [UInt8.ofNat (c.toNat % 64 + 128)])
      else
        [UInt8.ofNat (c.toNat / 262144 % 8 + 240)] ++
          ([UInt8.ofNat (c.toNat / 4096 % 64 + 128)] ++ ([UInt8.ofNat (c.toNat / 64 % 64 + 128)] ++
            [UInt8.ofNat (c.toNat % 64 + 128)])) := rfl
  have lead {n : Nat} (high : 0x80 ≤ n) (bound : n < 256) := emits_step (advance_lead high bound)
  have more (missing value : Nat) {n : Nat} (bound : n < 256) :=
    emits_step (advance_more missing value bound)
  have last {value n : Nat} (bound : n < 256) (equal : value * 64 + n % 64 = c.toNat) :
      smallVte.Emits (.utf8 1 value) [UInt8.ofNat n] .ground [.print c] :=
    emits_step ((advance_last value bound).trans (by rw [recover equal]))
  rw [encoded]
  split
  · exact emits_step
      ((advance_ascii visible.1 (by omega)).trans (by rw [recover rfl]))
  · split
    · refine (lead (by omega) (by omega)).append_silent ?_
      rw [if_pos (by omega)]
      exact last (by omega) (by omega)
    · split
      · refine (lead (by omega) (by omega)).append_silent ?_
        rw [if_neg (by omega), if_pos (by omega)]
        refine (more 0 _ (by omega)).append_silent ?_
        exact last (by omega) (by omega)
      · refine (lead (by omega) (by omega)).append_silent ?_
        rw [if_neg (by omega), if_neg (by omega)]
        refine (more 1 _ (by omega)).append_silent ?_
        refine (more 0 _ (by omega)).append_silent ?_
        exact last (by omega) (by omega)

/-! ### Control sequences -/

section

variable (intermediates : List UInt8) (params : List (List UInt16))

theorem emits_digit (param d : Nat) (bound : d < 10) :
    smallVte.Emits (.csi intermediates params param) (textBytes [Nat.digitChar d])
      (.csi intermediates params (min (param * 10 + d) 65535)) [] := by
  have byte : ∀ d < 10, textBytes [Nat.digitChar d] = [UInt8.ofNat (d + 48)] := by decide
  have digit : ∀ d < 10, 0x30 ≤ UInt8.ofNat (d + 48) ∧ UInt8.ofNat (d + 48) ≤ 0x39 := by decide
  rw [byte d bound]
  refine emits_step ?_
  rw [advance, if_pos (digit d bound), toNat_byte (by omega)]
  rfl

theorem emits_decimal (n : Nat) :
    smallVte.Emits (.csi intermediates params 0) (textBytes (decimal n))
      (.csi intermediates params (min n 65535)) [] := by
  induction n using Nat.strongRecOn with
  | ind n ih =>
    unfold decimal
    rw [Nat.toDigits_eq_if (by decide)]
    split
    next small =>
      have := emits_digit intermediates params 0 n small
      rwa [Nat.zero_mul, Nat.zero_add] at this
    next large =>
      have front := ih (n / 10) (by omega)
      have back := emits_digit intermediates params (min (n / 10) 65535) (n % 10) (by omega)
      rw [textBytes_append]
      have value : min (min (n / 10) 65535 * 10 + n % 10) 65535 = min n 65535 := by omega
      rw [value] at back
      exact front.append back

theorem emits_final (param : Nat) (final : Char) (isFinal : isFinal final = true) :
    smallVte.Emits (.csi intermediates params param) (textBytes [final]) .ground
      [.csiDispatch (params ++ [[UInt16.ofNat param]]) intermediates false final] := by
  have range : 0x40 ≤ final.toNat ∧ final.toNat ≤ 0x7E := by
    simpa [Screen.isFinal] using isFinal
  have byte : textBytes [final] = [UInt8.ofNat final.toNat] := by
    show String.utf8EncodeChar final ++ [] = _
    rw [append_nil, String.utf8EncodeChar]
    exact if_pos (show final.toNat ≤ 127 by omega)
  have value : (UInt8.ofNat final.toNat).toNat = final.toNat := toNat_byte (by omega)
  have notDigit : ¬ (0x30 ≤ UInt8.ofNat final.toNat ∧ UInt8.ofNat final.toNat ≤ 0x39) := by
    rw [UInt8.le_iff_toNat_le, UInt8.le_iff_toNat_le, value]
    show ¬ (0x30 ≤ final.toNat ∧ final.toNat ≤ 0x39)
    omega
  have notSeparator : ¬ UInt8.ofNat final.toNat = 0x3B := by
    rw [← UInt8.toNat_inj, value]
    show ¬ final.toNat = 0x3B
    omega
  have notMarker : ¬ UInt8.ofNat final.toNat < 0x40 := by
    rw [UInt8.lt_iff_toNat_lt, value]
    show ¬ final.toNat < 0x40
    omega
  rw [byte]
  refine emits_step ?_
  rw [advance, if_neg notDigit, if_neg notSeparator, if_neg notMarker, value, Char.ofNat_toNat]

end

theorem emits_params (intermediates : List UInt8) (final : Char) (isFinal : isFinal final = true)
    (read : List (List UInt16)) (numbers : List Nat) (nonempty : numbers ≠ []) :
    smallVte.Emits (.csi intermediates read 0) (textBytes (paramText numbers ++ [final])) .ground
      [.csiDispatch (read ++ numbers.map fun n => [saturate n]) intermediates false final] := by
  induction numbers generalizing read with
  | nil => exact absurd rfl nonempty
  | cons n rest ih =>
    rw [textBytes_append]
    cases rest with
    | nil =>
      exact (emits_decimal intermediates read n).append
        (emits_final intermediates read (min n 65535) final isFinal)
    | cons other later =>
      have sep : smallVte.Emits (.csi intermediates read (min n 65535)) (textBytes [';'])
          (.csi intermediates (read ++ [[saturate n]]) 0) [] :=
        emits_step rfl
      have tail := ih (read ++ [[saturate n]]) (by simp)
      rw [textBytes_append, append_assoc] at tail
      have text : textBytes (paramText (n :: other :: later)) =
          textBytes (decimal n) ++ (textBytes [';'] ++ textBytes (paramText (other :: later))) := by
        rw [← textBytes_append, ← textBytes_append]
        rfl
      rw [text, append_assoc, append_assoc]
      exact (emits_decimal intermediates read n).append (sep.append tail)

theorem faithful : smallVte.Faithful (· = ground) where
  new := rfl
  token := by
    rintro parser token rfl formed
    refine ⟨.ground, rfl, ?_⟩
    have bracket : smallVte.Emits .ground (textBytes ['', '[']) (.csi [] [] 0) [] := ⟨rfl, rfl⟩
    cases token with
    | glyph c =>
      have := emits_char c formed
      rwa [← append_nil (String.utf8EncodeChar c)] at this
    | control byte =>
      rcases formed with rfl | rfl
      · exact ⟨rfl, rfl⟩
      · exact ⟨rfl, rfl⟩
    | csi params final =>
      exact bracket.append (emits_params [] final formed.2.2 [] _ formed.1)
    | privateMode mode final =>
      have marker : smallVte.Emits .ground (textBytes ['', '[', '?']) (.csi [0x3F] [] 0) [] :=
        ⟨rfl, rfl⟩
      exact marker.append (emits_params [0x3F] final formed [] [mode] (by simp))

end SmallParser

end Dinotty.Screen
