/-
This file is the reader of the preview of CSV files, one character after the other with a mode for
what stands between quotes. It reads back every table that is written with quotes where they are
needed, and what it has read of any text is read again from what is written of it.
-/

import Mathlib

namespace Dinotty.CsvPreview

open List

/-- A text of the browser, as code units. -/
abbrev Text := List UInt16

abbrev CsvRow := List Text

def quote : UInt16 := 0x22

def carriageReturn : UInt16 := 0x0D

def lineFeed : UInt16 := 0x0A

/-- A comma, a tab, a semicolon and a bar. -/
def delimiterCandidates : List UInt16 := [0x2C, 0x09, 0x3B, 0x7C]

structure Reader where
  parsedRows : List CsvRow := []
  currentRow : CsvRow := []
  currentField : Text := []
  insideQuotes : Bool := false
  /-- The index was advanced past the character that follows. -/
  skips : Bool := false

def Reader.endRow (reader : Reader) : Reader :=
  { reader with
    parsedRows := reader.parsedRows ++ [reader.currentRow ++ [reader.currentField]]
    currentRow := []
    currentField := [] }

def Reader.read (delimiter : UInt16) (reader : Reader) (currentCharacter : UInt16)
    (nextCharacter : Option UInt16) : Reader :=
  if reader.skips then { reader with skips := false }
  else if currentCharacter = quote ∧ reader.insideQuotes ∧ nextCharacter = some quote then
    { reader with currentField := reader.currentField ++ [quote], skips := true }
  else if currentCharacter = quote then { reader with insideQuotes := ¬ reader.insideQuotes }
  else if currentCharacter = delimiter ∧ ¬ reader.insideQuotes then
    { reader with
      currentRow := reader.currentRow ++ [reader.currentField]
      currentField := [] }
  else if (currentCharacter = lineFeed ∨ currentCharacter = carriageReturn) ∧
      ¬ reader.insideQuotes then
    { reader.endRow with
      skips := currentCharacter = carriageReturn ∧ nextCharacter = some lineFeed }
  else { reader with currentField := reader.currentField ++ [currentCharacter] }

def Reader.readAll (delimiter : UInt16) : Reader → Text → Reader
  | reader, [] => reader
  | reader, currentCharacter :: rest =>
      readAll delimiter (reader.read delimiter currentCharacter rest.head?) rest

/-- The rows that were read, with one that has no end, and without empty ones at the end. -/
def Reader.rows (reader : Reader) : List CsvRow :=
  let reader :=
    if reader.currentField ≠ [] ∨ reader.currentRow ≠ [] then reader.endRow else reader
  reader.parsedRows.rdropWhile (· = [[]])

def parseCsvText (csvText : Text) (delimiter : UInt16) : List CsvRow :=
  (Reader.readAll delimiter {} csvText).rows

/-! ### Writing a table -/

/-- A field stands between quotes if it needs them, with its own quotes doubled. -/
def writeField (delimiter : UInt16) (field : Text) : Text :=
  if ∃ c ∈ field, c ∈ [quote, delimiter, lineFeed, carriageReturn] then
    quote :: field.flatMap (fun c => if c = quote then [quote, quote] else [c]) ++ [quote]
  else field

def writeRow (delimiter : UInt16) : CsvRow → Text
  | [] => []
  | [field] => writeField delimiter field
  | field :: next :: rest =>
      writeField delimiter field ++ delimiter :: writeRow delimiter (next :: rest)

/-- The last row may have an end too. -/
def writeTable (delimiter : UInt16) (ended : Bool) : List CsvRow → Text
  | [] => []
  | [row] => writeRow delimiter row ++ if ended then [carriageReturn, lineFeed] else []
  | row :: next :: rest => writeRow delimiter row ++
      carriageReturn :: lineFeed :: writeTable delimiter ended (next :: rest)

/-! ### Reading it back -/

variable {delimiter : UInt16} (rows : List CsvRow) (row : CsvRow) {rest : Text}

/-- What stands between quotes is read as it is. -/
theorem readAll_quoted (closed : rest.head? ≠ some quote) (front field : Text) :
    Reader.readAll delimiter ⟨rows, row, front, true, false⟩
      (field.flatMap (fun c => if c = quote then [quote, quote] else [c]) ++ quote :: rest) =
      Reader.readAll delimiter ⟨rows, row, front ++ field, false, false⟩ rest := by
  induction field generalizing front with
  | nil => simp [Reader.readAll, Reader.read, closed]
  | cons c field ih =>
    have next := ih (front ++ [c])
    rw [append_assoc, singleton_append] at next
    by_cases isQuote : c = quote
    · subst isQuote
      simpa [Reader.readAll, Reader.read] using next
    · simpa [Reader.readAll, Reader.read, isQuote] using next

theorem readAll_plain {field : Text}
    (plain : ¬ ∃ c ∈ field, c ∈ [quote, delimiter, lineFeed, carriageReturn]) (front : Text) :
    Reader.readAll delimiter ⟨rows, row, front, false, false⟩ (field ++ rest) =
      Reader.readAll delimiter ⟨rows, row, front ++ field, false, false⟩ rest := by
  induction field generalizing front with
  | nil => rw [nil_append, append_nil]
  | cons c field ih =>
    have next := ih (fun ⟨d, mem, special⟩ => plain ⟨d, mem_cons_of_mem _ mem, special⟩)
      (front ++ [c])
    rw [append_assoc, singleton_append] at next
    have other : c ∉ [quote, delimiter, lineFeed, carriageReturn] :=
      fun special => plain ⟨c, mem_cons_self, special⟩
    simp only [mem_cons, not_mem_nil, or_false, not_or] at other
    simpa [Reader.readAll, Reader.read, other] using next

theorem readAll_writeField (closed : rest.head? ≠ some quote) (field : Text) :
    Reader.readAll delimiter ⟨rows, row, [], false, false⟩ (writeField delimiter field ++ rest) =
      Reader.readAll delimiter ⟨rows, row, field, false, false⟩ rest := by
  unfold writeField
  split
  · rw [append_assoc, singleton_append]
    exact readAll_quoted rows row closed [] field
  next plain =>
    exact readAll_plain rows row plain []

theorem readAll_filled {reader : Reader} (filled : [] ∉ reader.parsedRows) (text : Text) :
    [] ∉ (Reader.readAll delimiter reader text).parsedRows := by
  induction text generalizing reader with
  | nil => exact filled
  | cons c rest ih =>
    refine ih ?_
    unfold Reader.read
    repeat' split
    all_goals first
      | exact filled
      | simp [Reader.endRow, filled]

section

variable (known : delimiter ∈ delimiterCandidates)
include known

/-- No delimiter is a quote or ends a row. -/
theorem delimiter_apart :
    delimiter ≠ quote ∧ delimiter ≠ lineFeed ∧ delimiter ≠ carriageReturn := by
  simp only [delimiterCandidates, mem_cons, not_mem_nil, or_false] at known
  rcases known with rfl | rfl | rfl | rfl <;> decide

theorem readAll_writeRow (closed : rest.head? ≠ some quote) (field : Text) (fields : CsvRow) :
    Reader.readAll delimiter ⟨rows, row, [], false, false⟩
      (writeRow delimiter (field :: fields) ++ rest) =
      Reader.readAll delimiter ⟨rows, row ++ (field :: fields).dropLast,
        (field :: fields).getLast (cons_ne_nil _ _), false, false⟩ rest := by
  induction fields generalizing field row with
  | nil =>
    rw [writeRow, readAll_writeField rows row closed, dropLast_singleton, append_nil]
    rfl
  | cons next fields ih =>
    obtain ⟨noQuote, noLineFeed, noCarriageReturn⟩ := delimiter_apart known
    have later := ih (row ++ [field]) next
    rw [append_assoc, singleton_append] at later
    have closed (more : Text) : (delimiter :: more).head? ≠ some quote :=
      fun same => noQuote (Option.some.inj same)
    rw [writeRow, append_assoc, cons_append, readAll_writeField rows row (closed _)]
    simpa [Reader.readAll, Reader.read, noQuote] using later

theorem readAll_rowEnd (field : Text) (fields : CsvRow) :
    Reader.readAll delimiter ⟨rows, [], [], false, false⟩
      (writeRow delimiter (field :: fields) ++ carriageReturn :: lineFeed :: rest) =
      Reader.readAll delimiter ⟨rows ++ [field :: fields], [], [], false, false⟩ rest := by
  have noCarriageReturn := (delimiter_apart known).2.2.symm
  have whole := dropLast_concat_getLast (cons_ne_nil field fields)
  have mark : carriageReturn ≠ quote := by decide
  have closed : (carriageReturn :: lineFeed :: rest).head? ≠ some quote :=
    fun same => mark (Option.some.inj same)
  rw [readAll_writeRow rows [] known closed, nil_append]
  simp [Reader.readAll, Reader.read, mark, noCarriageReturn, Reader.endRow, whole]

theorem readAll_writeTable (ended : Bool) {table : List CsvRow} (filled : [] ∉ table)
    (solid : table.getLast? ≠ some [[]]) :
    (Reader.readAll delimiter ⟨rows, [], [], false, false⟩
      (writeTable delimiter ended table)).rows = (rows ++ table).rdropWhile (· = [[]]) := by
  fun_induction writeTable delimiter ended table generalizing rows with
  | case1 => simp [Reader.readAll, Reader.rows]
  | case2 row =>
    cases row with
    | nil => exact absurd mem_cons_self filled
    | cons field fields =>
      cases ended with
      | true =>
        rw [if_pos rfl, readAll_rowEnd rows known]
        simp [Reader.readAll, Reader.rows]
      | false =>
        rw [if_neg nofun, readAll_writeRow rows [] known (by simp), nil_append]
        have whole := dropLast_concat_getLast (cons_ne_nil field fields)
        have some : (field :: fields).getLast (cons_ne_nil _ _) ≠ [] ∨
            (field :: fields).dropLast ≠ [] := by
          cases fields with
          | nil =>
            refine .inl fun empty => solid ?_
            rw [getLast?_singleton, show field = [] from empty]
          | cons => exact .inr (cons_ne_nil _ _)
        rw [Reader.readAll, Reader.rows]
        dsimp only
        rw [if_pos some, Reader.endRow, whole]
  | case3 row next rest ih =>
    cases row with
    | nil => exact absurd mem_cons_self filled
    | cons field fields =>
      rw [getLast?_cons_cons] at solid
      rw [readAll_rowEnd rows known, ih (rows ++ [field :: fields])
        (fun mem => filled (mem_cons_of_mem _ mem)) solid, append_assoc, singleton_append]

/-- A table is read back whose rows all have fields and whose last row is not a single empty
field. -/
theorem parseCsvText_writeTable (ended : Bool) {table : List CsvRow} (filled : [] ∉ table)
    (solid : table.getLast? ≠ some [[]]) :
    parseCsvText (writeTable delimiter ended table) delimiter = table := by
  rw [parseCsvText, readAll_writeTable [] known ended filled solid, nil_append,
    rdropWhile_eq_self_iff]
  intro nonempty isEmpty
  rw [getLast?_eq_some_getLast nonempty, of_decide_eq_true isEmpty] at solid
  exact solid rfl

end

theorem parseCsvText_writeTable_quoted :
    parseCsvText (writeTable 0x2C false [[[0x61, 0x22, 0x2C], []], [[0x0D, 0x0A]]]) 0x2C =
      [[[0x61, 0x22, 0x2C], []], [[0x0D, 0x0A]]] :=
  parseCsvText_writeTable (by decide) false (by decide) (by decide)

/-- A table that was read from any text is read back from what is written of it. -/
theorem parseCsvText_stable (known : delimiter ∈ delimiterCandidates) (ended : Bool)
    (text : Text) : parseCsvText (writeTable delimiter ended (parseCsvText text delimiter)) delimiter =
      parseCsvText text delimiter := by
  obtain ⟨rows, filled, read⟩ : ∃ rows : List CsvRow, [] ∉ rows ∧
      parseCsvText text delimiter = rows.rdropWhile (· = [[]]) := by
    have filled : [] ∉ (Reader.readAll delimiter {} text).parsedRows :=
      readAll_filled (by simp) text
    refine ⟨_, ?_, rfl⟩
    split
    · simp [Reader.endRow, filled]
    · exact filled
  have solid : (rows.rdropWhile (· = [[]])).getLast? ≠ some [[]] := fun last => by
    have nonempty : rows.rdropWhile (· = [[]]) ≠ [] := fun empty => by simp [empty] at last
    rw [getLast?_eq_some_getLast nonempty] at last
    exact rdropWhile_last_not _ rows nonempty (decide_eq_true (Option.some.inj last))
  have kept : [] ∉ rows.rdropWhile (· = [[]]) := fun mem =>
    filled (( rdropWhile_prefix _ rows).subset mem)
  rw [read, parseCsvText, readAll_writeTable [] known ended kept solid, nil_append,
    rdropWhile_idempotent]

/-- A quote that is never closed, and an empty line behind another. -/
theorem parseCsvText_stable_unclosed :
    parseCsvText (writeTable 0x2C true (parseCsvText [0x0A, 0x0A, 0x22, 0x2C] 0x2C)) 0x2C =
      parseCsvText [0x0A, 0x0A, 0x22, 0x2C] 0x2C :=
  parseCsvText_stable (by decide) true _

end Dinotty.CsvPreview
