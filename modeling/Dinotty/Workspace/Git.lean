/-
This file is the staging and the reverting of single changes of a file. Both take lines apart from
their ends and join them again with line feeds.
-/

import Dinotty.Workspace.Handlers

namespace Dinotty.Git

open List Chars Workspace

abbrev Text := List Char

abbrev Line := List Char

/-! ### Lines -/

def rawLines : Text → List Line
  | [] => []
  | c :: rest =>
      if c = '\n' then [c] :: rawLines rest
      else
        match rawLines rest with
        | [] => [[c]]
        | line :: more => (c :: line) :: more

def bare (line : Line) : Line :=
  if line.getLast? = some '\n' then
    if line.dropLast.getLast? = some '\r' then line.dropLast.dropLast else line.dropLast
  else line

/-! ### Differences -/

inductive Tag where
  | equal
  | insert
  | delete
  | replace
  deriving DecidableEq

/-- A part of a difference. An insertion has no old lines, a deletion no new ones. -/
structure DiffOp where
  tag : Tag
  oldIndex : Nat
  oldLen : Nat
  newIndex : Nat
  newLen : Nat

def DiffOp.Proper (op : DiffOp) : Prop :=
  match op.tag with
  | .equal => op.oldLen = op.newLen
  | .insert => op.oldLen = 0 ∧ 0 < op.newLen
  | .delete => 0 < op.oldLen ∧ op.newLen = 0
  | .replace => 0 < op.oldLen ∧ 0 < op.newLen

/-- The parts of a difference follow one another in both texts, up to their ends. -/
def Covers (oldTotal newTotal : Nat) : Nat → Nat → List DiffOp → Prop
  | old, new, [] => old = oldTotal ∧ new = newTotal
  | old, new, op :: ops => op.Proper ∧ op.oldIndex = old ∧ op.newIndex = new ∧
      Covers oldTotal newTotal (old + op.oldLen) (new + op.newLen) ops

def slice {α : Type} (lines : List α) (index len : Nat) : List α := (lines.drop index).take len

/-! ### Staging -/

/-- What is staged of a part whose new lines begin with the line `modLine`. -/
def DiffOp.staged {α : Type} (startLine endLine : Nat) (orig cur : List α) (modLine : Nat)
    (op : DiffOp) : List α :=
  match op.tag with
  | .equal => slice orig op.oldIndex op.oldLen
  | .insert =>
      ((slice cur op.newIndex op.newLen).zipIdx modLine).filterMap fun (line, lineNum) =>
        if startLine ≤ lineNum ∧ lineNum ≤ endLine then some line else none
  | .delete =>
      if startLine ≤ modLine ∧ modLine ≤ endLine then [] else slice orig op.oldIndex op.oldLen
  | .replace =>
      if startLine ≤ modLine ∧ modLine + op.newLen - 1 ≤ endLine then
        slice cur op.newIndex op.newLen
      else slice orig op.oldIndex op.oldLen

def stagedLines (startLine endLine : Nat) (orig cur : List Line) : Nat → List DiffOp → List Line
  | _, [] => []
  | modLine, op :: ops => op.staged startLine endLine orig cur modLine ++
      stagedLines startLine endLine orig cur (modLine + op.newLen) ops

/-- The difference of two lists of lines, that of two texts as a patch, and what a patch makes of a
text. -/
structure Tools (Hunk : Type) where
  diff : List Line → List Line → List DiffOp
  hunks : Text → Text → List Hunk
  apply : List Hunk → Text → Option Text

structure Tools.Correct {Hunk : Type} (tools : Tools Hunk) : Prop where
  covers : ∀ old new, Covers old.length new.length 0 0 (tools.diff old new)
  hunks : ∀ old new, tools.hunks old new = [] → old = new
  applies : ∀ old new text, tools.apply (tools.hunks old new) old = some text → text = new

/-- The text in the index after it was that of `HEAD`, if the request succeeds. -/
def workspaceGitStageLines {Hunk : Type} (tools : Tools Hunk) (original current : Text)
    (startLine endLine : Nat) : Option Text :=
  let stagedContent := intercalate ['\n'] (stagedLines startLine endLine (lines original) (lines current) 1
    (tools.diff (lines original) (lines current)))
  match tools.hunks original stagedContent with
  | [] => some original
  | hunks => tools.apply hunks original

/-! ### Reverting -/

structure GitChange where
  changeType : String
  modifiedStart : Nat
  modifiedEnd : Nat
  originalStart : Option Nat
  originalEnd : Option Nat
  deriving DecidableEq

def DiffOp.change (origLine modLine : Nat) (op : DiffOp) : Option GitChange :=
  match op.tag with
  | .equal => none
  | .insert => some ⟨"added", modLine, modLine + op.newLen - 1, some origLine, none⟩
  | .delete => some ⟨"deleted", modLine, modLine, some origLine, some (origLine + op.oldLen - 1)⟩
  | .replace =>
      some ⟨"modified", modLine, modLine + op.newLen - 1, some origLine,
        some (origLine + op.oldLen - 1)⟩

def workspaceGitDiff : Nat → Nat → List DiffOp → List GitChange
  | _, _, [] => []
  | origLine, modLine, op :: ops => (op.change origLine modLine).toList ++
      workspaceGitDiff (origLine + op.oldLen) (modLine + op.newLen) ops

/-! ### Joined lines -/

def IsLine (line : Line) : Prop := line ≠ [] ∧ '\n' ∉ line.dropLast

theorem isLine_of_mem_rawLines {text : Text} {line : Line} (mem : line ∈ rawLines text) :
    IsLine line := by
  induction text generalizing line with
  | nil => cases mem
  | cons c rest ih =>
    rw [rawLines] at mem
    split at mem
    · rcases mem_cons.mp mem with rfl | mem
      · exact ⟨cons_ne_nil _ _, not_mem_nil⟩
      · exact ih mem
    next other =>
      cases begun : rawLines rest with
      | nil =>
        rw [begun] at mem
        obtain rfl := mem_singleton.mp mem
        exact ⟨cons_ne_nil _ _, not_mem_nil⟩
      | cons first more =>
        rw [begun] at ih mem
        rcases mem_cons.mp mem with rfl | mem
        · obtain ⟨some, within⟩ := ih mem_cons_self
          refine ⟨cons_ne_nil _ _, ?_⟩
          rw [dropLast_cons_of_ne_nil some]
          exact fun inside => (mem_cons.mp inside).elim (fun same => other same.symm) within
        · exact ih (mem_cons_of_mem _ mem)

variable {line : Line}

theorem IsLine.newline_notMem_bare (isLine : IsLine line) : '\n' ∉ bare line := by
  unfold bare
  split
  · split
    · exact fun mem => isLine.2 (dropLast_subset _ mem)
    · exact isLine.2
  next unended =>
    intro mem
    rw [← dropLast_concat_getLast isLine.1] at mem
    rcases mem_append.mp mem with inside | isLast
    · exact isLine.2 inside
    · exact unended ((getLast?_eq_some_getLast isLine.1).trans
        (congrArg some (mem_singleton.mp isLast).symm))

theorem rawLines_append (within : '\n' ∉ line) (rest : Text) :
    rawLines (line ++ '\n' :: rest) = (line ++ ['\n']) :: rawLines rest := by
  induction line with
  | nil => rfl
  | cons c line ih =>
    obtain ⟨other, within⟩ := not_or.mp (mem_cons.not.mp within)
    rw [cons_append, rawLines, if_neg (Ne.symm other), ih within]
    rfl

theorem rawLines_unended (within : '\n' ∉ line) (some : line ≠ []) : rawLines line = [line] := by
  induction line with
  | nil => exact absurd rfl some
  | cons c line ih =>
    obtain ⟨other, within⟩ := not_or.mp (mem_cons.not.mp within)
    rw [rawLines, if_neg (Ne.symm other)]
    cases line with
    | nil => rfl
    | cons d line => rw [ih within (cons_ne_nil _ _)]

theorem lines_append (within : '\n' ∉ line) (rest : Text) :
    lines (line ++ '\n' :: rest) = bare (line ++ ['\n']) :: lines rest := by
  have others : rest.splitOn '\n' ≠ [] := splitOnP_ne_nil _ _
  unfold lines
  rw [splitOn_append_cons within]
  dsimp only
  rw [dropLast_cons_of_ne_nil others, map_cons, getLast?_cons_of_ne_nil others, bare,
    if_pos getLast?_concat, dropLast_concat]
  rfl

theorem lines_eq (text : Text) : lines text = (rawLines text).map bare := by
  induction count : text.length using Nat.strong_induction_on generalizing text with
  | _ count ih =>
    by_cases ended : '\n' ∈ text
    · obtain ⟨line, rest, rfl, within⟩ := eq_append_cons_of_mem ended
      rw [lines_append within, rawLines_append within, map_cons]
      refine congrArg _ (ih rest.length ?_ rest rfl)
      rw [← count, length_append, length_cons]
      omega
    · have single : text.splitOn '\n' = [text] := by
        rw [splitOn_eq_splitOnP]
        exact splitOnP_eq_singleton fun c mem =>
          beq_eq_false_iff_ne.mpr fun same => ended (same ▸ mem)
      cases text with
      | nil => rfl
      | cons c line =>
        rw [rawLines_unended ended (cons_ne_nil _ _), map_singleton, bare,
          if_neg fun last => ended (mem_of_getLast? last)]
        unfold lines
        rw [single]
        rfl

/-- The lines without their ends, with line feeds between them. -/
def joined (raw : List Line) : Text := intercalate ['\n'] (raw.map bare)

def Ended (line : Line) : Prop := bare line ++ ['\n'] = line

/-- A line feed is the whole end of every line but the last, which has none. -/
def Separated : List Line → Prop
  | [] => True
  | [line] => bare line = line
  | line :: next :: rest => Ended line ∧ Separated (next :: rest)

theorem joined_cons (line next : Line) (rest : List Line) :
    joined (line :: next :: rest) = bare line ++ '\n' :: joined (next :: rest) := rfl

theorem joined_singleton (line : Line) : joined [line] = bare line := append_nil _

theorem rawLines_joined {raw : List Line} (isLine : ∀ line ∈ raw, IsLine line) :
    rawLines (joined raw) = raw ↔ Separated raw := by
  fun_induction Separated raw with
  | case1 => exact iff_of_true rfl trivial
  | case2 line =>
    obtain ⟨some, -⟩ := isLine line mem_cons_self
    have within := (isLine line mem_cons_self).newline_notMem_bare
    rw [joined_singleton]
    by_cases blank : bare line = []
    · rw [blank]
      exact iff_of_false nofun some.symm
    · rw [rawLines_unended within blank, singleton_inj]
  | case3 line next rest ih =>
    obtain ⟨isFirst, isLine⟩ := forall_mem_cons.mp isLine
    rw [← ih isLine, joined_cons, rawLines_append isFirst.newline_notMem_bare, cons.injEq]
    rfl

/-- As `Separated`, but the last line ends too, and it is not blank if it is not the only one. -/
def Terminated : List Line → Prop
  | [] => False
  | [line] => Ended line
  | [line, last] => Ended line ∧ Ended last ∧ last ≠ ['\n']
  | line :: next :: rest => Ended line ∧ Terminated (next :: rest)

def Kept (current : Text) (raw : List Line) : Prop :=
  if current.getLast? = some '\n' then Terminated raw else Separated raw

/-- A text with a final line feed if the worktree has one. -/
def written (current newContent : Text) : Text :=
  if current.getLast? = some '\n' ∧ newContent.getLast? ≠ some '\n' then newContent ++ ['\n']
  else newContent

variable {cur : Text}

theorem written_append {text : Text} (line : Line) (some : text ≠ []) :
    written cur (line ++ '\n' :: text) = line ++ '\n' :: written cur text := by
  have last : (line ++ '\n' :: text).getLast? = text.getLast? := by
    rw [getLast?_append_of_ne_nil _ (cons_ne_nil _ _), getLast?_cons_of_ne_nil some]
  rw [written, last, written]
  split
  · rw [append_assoc, cons_append]
  · rfl

theorem written_unended {line : Line} (ended : cur.getLast? = some '\n') (within : '\n' ∉ line) :
    written cur line = line ++ ['\n'] :=
  if_pos ⟨ended, fun last => within (mem_of_getLast? last)⟩

theorem rawLines_written {raw : List Line} (isLine : ∀ line ∈ raw, IsLine line) :
    rawLines (written cur (joined raw)) = raw ↔ Kept cur raw := by
  by_cases ended : cur.getLast? = some '\n'
  swap
  · rw [Kept, if_neg ended, written, if_neg fun both => ended both.1]
    exact rawLines_joined isLine
  rw [Kept, if_pos ended]
  fun_induction Terminated raw with
  | case1 =>
    have blank : written cur (joined []) = ['\n'] := written_unended ended not_mem_nil
    rw [blank]
    exact iff_of_false nofun id
  | case2 line =>
    have within := (isLine line mem_cons_self).newline_notMem_bare
    rw [joined_singleton, written_unended ended within, rawLines_append within, rawLines,
      singleton_inj]
    rfl
  | case3 line last =>
    have within := (isLine line mem_cons_self).newline_notMem_bare
    have inLast := (isLine last (mem_cons_of_mem _ mem_cons_self)).newline_notMem_bare
    rw [joined_cons, joined_singleton]
    by_cases blank : bare last = []
    · rw [blank, written, if_neg fun both => both.2 getLast?_concat, rawLines_append within]
      refine iff_of_false (fun same => nomatch (cons.inj same).2) ?_
      refine fun ⟨_, isEnded, other⟩ => other ?_
      rw [← isEnded, blank]
      rfl
    · rw [written_append _ blank, written_unended ended inLast, rawLines_append within,
        rawLines_append inLast, rawLines, cons.injEq, singleton_inj]
      refine and_congr_right fun _ => (and_iff_left_of_imp ?_).symm
      rintro isEnded rfl
      exact blank (by decide)
  | case4 line next rest several ih =>
    obtain ⟨isFirst, isLine⟩ := forall_mem_cons.mp isLine
    have some : joined (next :: rest) ≠ [] := by
      cases rest with
      | nil => exact absurd rfl several
      | cons _ _ => exact append_ne_nil_of_right_ne_nil _ (cons_ne_nil _ _)
    rw [← ih isLine, joined_cons, written_append _ some,
      rawLines_append isFirst.newline_notMem_bare, cons.injEq]
    rfl

/-! ### Staged lines -/

theorem slice_map {α β : Type} (f : α → β) (lines : List α) (i len : Nat) :
    slice (lines.map f) i len = (slice lines i len).map f := by
  rw [slice, ← map_drop, ← map_take, slice]

theorem slice_subset {α : Type} (lines : List α) (i len : Nat) : slice lines i len ⊆ lines :=
  fun _ mem => mem_of_mem_drop (mem_of_mem_take mem)

theorem DiffOp.staged_map {α β : Type} (f : α → β) (startLine endLine : Nat) (orig cur : List α)
    (modLine : Nat) (op : DiffOp) :
    op.staged startLine endLine (orig.map f) (cur.map f) modLine =
      (op.staged startLine endLine orig cur modLine).map f := by
  unfold DiffOp.staged
  split
  · rw [slice_map]
  · rw [slice_map, zipIdx_map, filterMap_map, map_filterMap]
    refine congrArg₂ _ (funext fun ⟨line, lineNum⟩ => ?_) rfl
    change (if startLine ≤ lineNum ∧ lineNum ≤ endLine then some (f line) else none) =
      (if startLine ≤ lineNum ∧ lineNum ≤ endLine then some line else none).map f
    split <;> rfl
  · split
    · rfl
    · rw [slice_map]
  · split <;> rw [slice_map]

theorem DiffOp.staged_subset {α : Type} (startLine endLine : Nat) (orig cur : List α)
    (modLine : Nat) (op : DiffOp) :
    op.staged startLine endLine orig cur modLine ⊆ orig ++ cur := by
  have old := Subset.trans (slice_subset orig op.oldIndex op.oldLen) (subset_append_left orig cur)
  have new := Subset.trans (slice_subset cur op.newIndex op.newLen) (subset_append_right orig cur)
  unfold DiffOp.staged
  split
  · exact old
  · intro line mem
    obtain ⟨⟨_, lineNum⟩, entries, chosen⟩ := mem_filterMap.mp mem
    obtain ⟨-, chosen⟩ := Option.ite_none_right_eq_some.mp chosen
    exact Option.some.inj chosen ▸ new (fst_mem_of_mem_zipIdx entries)
  · split
    · exact nil_subset _
    · exact old
  · split
    · exact new
    · exact old

theorem stagedLines_eq {startLine endLine oldTotal newTotal old new : Nat} {orig cur : List Line}
    {ops : List DiffOp} (covers : Covers oldTotal newTotal old new ops) :
    stagedLines startLine endLine orig cur (new + 1) ops =
      ops.flatMap fun op => op.staged startLine endLine orig cur (op.newIndex + 1) := by
  induction ops generalizing old new with
  | nil => rfl
  | cons op ops ih =>
    obtain ⟨-, -, rfl, covers⟩ := covers
    rw [stagedLines, flatMap_cons, Nat.add_right_comm, ih covers]

/-- The lines of `HEAD`, with the changes within a range of lines. -/
def merged {Hunk : Type} (tools : Tools Hunk) (original current : Text) (startLine endLine : Nat) :
    List Line :=
  (tools.diff (lines original) (lines current)).flatMap fun op =>
    op.staged startLine endLine (rawLines original) (rawLines current) (op.newIndex + 1)

/-- Staging keeps every line with its end exactly when a line feed ends all of them but the last,
which has no end. -/
theorem workspaceGitStageLines_iff {Hunk : Type} {tools : Tools Hunk} (correct : tools.Correct)
    {original current text : Text} {startLine endLine : Nat}
    (success : workspaceGitStageLines tools original current startLine endLine = some text) :
    rawLines text = merged tools original current startLine endLine ↔
      Separated (merged tools original current startLine endLine) := by
  have content : stagedLines startLine endLine (lines original) (lines current) 1
      (tools.diff (lines original) (lines current)) =
        (merged tools original current startLine endLine).map bare := by
    rw [merged, map_flatMap]
    refine (stagedLines_eq (correct.covers _ _)).trans (congrArg₂ _ (funext fun op => ?_) rfl)
    rw [lines_eq, lines_eq]
    exact op.staged_map _ _ _ _ _ _
  have isJoined : text = joined (merged tools original current startLine endLine) := by
    rw [joined, ← content]
    dsimp only [workspaceGitStageLines] at success
    split at success
    next unchanged =>
      exact (Option.some.inj success).symm.trans (correct.hunks _ _ unchanged)
    · exact correct.applies _ _ _ success
  rw [isJoined]
  refine rawLines_joined fun line member => ?_
  obtain ⟨op, -, member⟩ := mem_flatMap.mp member
  exact (mem_append.mp (op.staged_subset _ _ _ _ _ member)).elim isLine_of_mem_rawLines
    isLine_of_mem_rawLines

/-- The tools that replace all lines at once. -/
def wholesale : Tools Text where
  diff old new :=
    if old = [] then if new = [] then [] else [⟨.insert, 0, 0, 0, new.length⟩]
    else if new = [] then [⟨.delete, 0, old.length, 0, 0⟩]
    else [⟨.replace, 0, old.length, 0, new.length⟩]
  hunks old new := if old = new then [] else [new]
  apply hunks _ := hunks.head?

theorem wholesale_correct : wholesale.Correct where
  covers old new := by
    cases old <;> cases new <;> simp [wholesale, Covers, DiffOp.Proper]
  hunks old new unchanged := by
    by_contra other
    exact cons_ne_nil _ _ ((if_neg other).symm.trans unchanged)
  applies old new text applied := by
    by_cases same : old = new
    · cases (congrArg head? (if_pos same)).symm.trans applied
    · exact (Option.some.inj ((congrArg head? (if_neg same)).symm.trans applied)).symm

theorem workspaceGitStageLines_iff_wholesale :
    rawLines ['b'] = merged wholesale ['a'] ['b'] 1 1 ↔
      Separated (merged wholesale ['a'] ['b'] 1 1) :=
  workspaceGitStageLines_iff wholesale_correct (by decide)

theorem staged_unended :
    workspaceGitStageLines wholesale ['a', '\n'] ['b', '\n'] 1 1 = some ['b'] ∧
      merged wholesale ['a', '\n'] ['b', '\n'] 1 1 = [['b', '\n']] ∧
      rawLines ['b'] ≠ [['b', '\n']] := by
  decide

/-! ### Reverted blocks -/

/-- The block of `HEAD` whose place a change took. -/
def GitChange.original (change : GitChange) (head : List Line) : List Line :=
  match change.originalStart, change.originalEnd with
  | some first, some last => slice head (first - 1) (last + 1 - first)
  | _, _ => []

/-- The lines behind a change. A deletion stands before the line that is reported for it. -/
def GitChange.behind (change : GitChange) (cur : List Line) : List Line :=
  cur.drop (if change.changeType = "deleted" then change.modifiedStart - 1
    else change.modifiedEnd)

/-- The lines of the worktree with the block of `HEAD` in the place of a change. -/
def GitChange.reverted (change : GitChange) (head cur : List Line) : List Line :=
  cur.take (change.modifiedStart - 1) ++ change.original head ++ change.behind cur

variable {oldTotal newTotal old new : Nat}

theorem Covers.le {ops : List DiffOp}
    (covers : Covers oldTotal newTotal old new ops) : old ≤ oldTotal ∧ new ≤ newTotal := by
  induction ops generalizing old new with
  | nil => exact ⟨Nat.le_of_eq covers.1, Nat.le_of_eq covers.2⟩
  | cons op ops ih =>
    obtain ⟨inOld, inNew⟩ := ih covers.2.2.2
    exact ⟨Nat.le_of_add_right_le inOld, Nat.le_of_add_right_le inNew⟩

theorem mem_workspaceGitDiff {ops : List DiffOp}
    {change : GitChange} (covers : Covers oldTotal newTotal old new ops)
    (reported : change ∈ workspaceGitDiff (old + 1) (new + 1) ops) :
    ∃ op : DiffOp, op.Proper ∧ op.oldIndex + op.oldLen ≤ oldTotal ∧ op.newIndex ≤ newTotal ∧
      op.change (op.oldIndex + 1) (op.newIndex + 1) = some change := by
  induction ops generalizing old new with
  | nil => cases reported
  | cons op ops ih =>
    have within := covers.le.2
    obtain ⟨proper, rfl, rfl, covers⟩ := covers
    rcases mem_append.mp reported with here | later
    · exact ⟨op, proper, covers.le.1, within, Option.mem_toList.mp here⟩
    · rw [Nat.add_right_comm, Nat.add_right_comm op.newIndex] at later
      exact ih covers later

theorem revertLines_eq {cur originalLines : Text} {original : List Line}
    (corresponding : lines originalLines = original.map bare) {startLine endLine : Nat}
    (inRange : startLine ≤ (lines cur).length + 1) :
    revertLines startLine endLine originalLines cur =
      some (written cur (joined ((rawLines cur).take (startLine - 1) ++ original ++
        (rawLines cur).drop endLine))) := by
  have rest : (lines cur).drop (min endLine (lines cur).length) = (lines cur).drop endLine := by
    rcases Nat.le_total endLine (lines cur).length with le | ge
    · rw [Nat.min_eq_left le]
    · rw [Nat.min_eq_right ge, drop_length, drop_eq_nil_of_le ge]
  rw [revertLines, if_neg (by omega), corresponding, rest, joined, map_append, map_append,
    map_take, map_drop, ← lines_eq, written]
  exact (apply_ite some _ _ _).symm

theorem length_rawLines_joined {raw : List Line} (isLine : ∀ line ∈ raw, IsLine line)
    (some : raw ≠ []) (ended : Bool) :
    (rawLines (joined raw ++ if ended then ['\n'] else [])).length ≤ raw.length := by
  fun_induction Separated raw with
  | case1 => exact absurd rfl some
  | case2 line =>
    have within := (isLine line mem_cons_self).newline_notMem_bare
    rw [joined_singleton]
    cases ended with
    | true =>
      rw [if_pos rfl, rawLines_append within]
      exact Nat.le_refl 1
    | false =>
      rw [if_neg (by decide), append_nil]
      by_cases blank : bare line = []
      · rw [blank]
        exact Nat.zero_le _
      · rw [rawLines_unended within blank]
        exact Nat.le_refl 1
  | case3 line next rest ih =>
    obtain ⟨isFirst, isLine⟩ := forall_mem_cons.mp isLine
    rw [joined_cons, append_assoc, cons_append, rawLines_append isFirst.newline_notMem_bare]
    exact Nat.succ_le_succ (ih isLine (cons_ne_nil _ _))

theorem length_rawLines_written {raw : List Line}
    (isLine : ∀ line ∈ raw, IsLine line) (some : raw ≠ []) :
    (rawLines (written cur (joined raw))).length ≤ raw.length := by
  unfold written
  split
  · exact length_rawLines_joined isLine some true
  · simpa using length_rawLines_joined isLine some false

/-- A revert is out of range only for a start two lines behind the last. That of a reported change
puts the block of `HEAD` in its place exactly when it is no deletion before a line, which would be
lost, and a line feed is the whole end of every line, where only the last may have none. -/
theorem revertLines_iff {head current originalLines : Text} {ops : List DiffOp} {change : GitChange}
    (covers : Covers (rawLines head).length (rawLines current).length 0 0 ops)
    (reported : change ∈ workspaceGitDiff 1 1 ops)
    (corresponding : lines originalLines = (change.original (rawLines head)).map bare) :
    (∀ content startLine endLine, revertLines startLine endLine content current = none ↔
      (lines current).length + 1 < startLine) ∧
    ∃ text, revertLines change.modifiedStart change.modifiedEnd originalLines current = some text ∧
      (rawLines text = change.reverted (rawLines head) (rawLines current) ↔
        (change.changeType = "deleted" → change.behind (rawLines current) = []) ∧
          Kept current (change.reverted (rawLines head) (rawLines current))) := by
  refine ⟨fun content startLine endLine => ?_, ?_⟩
  · dsimp only [revertLines]
    split
    · exact iff_of_true rfl (by omega)
    · split <;> exact iff_of_false nofun (by omega)
  obtain ⟨op, proper, inOld, inNew, found⟩ := mem_workspaceGitDiff covers reported
  have start : change.modifiedStart = op.newIndex + 1 := by
    unfold DiffOp.change at found
    split at found <;> cases found <;> rfl
  have areLines : ∀ count, ∀ line ∈ (rawLines current).take op.newIndex ++
      change.original (rawLines head) ++ (rawLines current).drop count, IsLine line := by
    intro count line member
    rcases mem_append.mp member with member | member
    · rcases mem_append.mp member with member | member
      · exact isLine_of_mem_rawLines (mem_of_mem_take member)
      · unfold GitChange.original at member
        split at member
        · exact isLine_of_mem_rawLines (slice_subset _ _ _ member)
        · cases member
    · exact isLine_of_mem_rawLines (mem_of_mem_drop member)
  have count : (lines current).length = (rawLines current).length := by
    rw [lines_eq, length_map]
  refine ⟨_, revertLines_eq corresponding (by omega), ?_⟩
  rw [GitChange.reverted, start, Nat.add_sub_cancel]
  by_cases deleted : change.changeType = "deleted"
  · have first : change.modifiedEnd = op.newIndex + 1 ∧ change.original (rawLines head) ≠ [] := by
      unfold DiffOp.change at found
      unfold DiffOp.Proper at proper
      split at found <;> cases found
      · exact absurd deleted (show "added" ≠ "deleted" by decide)
      next isDelete =>
        rw [isDelete] at proper
        refine ⟨rfl, ne_nil_of_length_pos ?_⟩
        change 0 < (take (op.oldIndex + 1 + op.oldLen - 1 + 1 - (op.oldIndex + 1))
          (drop op.oldIndex (rawLines head))).length
        rw [length_take, length_drop]
        omega
      · exact absurd deleted (show "modified" ≠ "deleted" by decide)
    rw [GitChange.behind, if_pos deleted, start, Nat.add_sub_cancel, first.1]
    by_cases last : (rawLines current).drop op.newIndex = []
    · have past : (rawLines current).drop (op.newIndex + 1) = [] := by
        rw [← drop_drop, last, drop_nil]
      have kept := @rawLines_written current _ (areLines (op.newIndex + 1))
      rw [past] at kept ⊢
      rw [last, kept]
      exact (and_iff_right fun _ => rfl).symm
    · refine iff_of_false (fun same => ?_) fun both => last (both.1 deleted)
      have fewer := @length_rawLines_written current _ (areLines (op.newIndex + 1))
        (append_ne_nil_of_left_ne_nil (append_ne_nil_of_right_ne_nil _ first.2) _)
      have some := length_pos_of_ne_nil last
      simp only [same, length_append, length_drop] at fewer some
      omega
  · rw [GitChange.behind, if_neg deleted, rawLines_written (areLines _)]
    exact (and_iff_right fun same => absurd same deleted).symm

/-- A line that stands for another. -/
def replacement : GitChange := ⟨"modified", 1, 1, some 1, some 1⟩

theorem revertLines_iff_replacement :
    (∀ content startLine endLine, revertLines startLine endLine content ['b', '\n'] =
      none ↔ (lines ['b', '\n']).length + 1 < startLine) ∧
    ∃ text, revertLines replacement.modifiedStart replacement.modifiedEnd ['a'] ['b', '\n'] =
        some text ∧
      (rawLines text = replacement.reverted (rawLines ['a', '\n']) (rawLines ['b', '\n']) ↔
        (replacement.changeType = "deleted" → replacement.behind (rawLines ['b', '\n']) = []) ∧
          Kept ['b', '\n'] (replacement.reverted (rawLines ['a', '\n']) (rawLines ['b', '\n']))) :=
  have covers : Covers 1 1 0 0 [⟨.replace, 0, 1, 0, 1⟩] := by simp [Covers, DiffOp.Proper]
  revertLines_iff covers (by decide) (by decide)

theorem reverted_deletion : Covers 2 1 0 0 [⟨.delete, 0, 1, 0, 0⟩, ⟨.equal, 1, 1, 0, 1⟩] ∧
    workspaceGitDiff 1 1 [⟨.delete, 0, 1, 0, 0⟩, ⟨.equal, 1, 1, 0, 1⟩] =
      [⟨"deleted", 1, 1, some 1, some 1⟩] ∧
    rawLines ['a', '\n', 'b', '\n'] = [['a', '\n'], ['b', '\n']] ∧
    revertLines 1 1 ['a', '\n'] ['b', '\n'] = some ['a', '\n'] ∧
    revertLines 3 3 [] ['a', '\n'] = none :=
  ⟨by simp [Covers, DiffOp.Proper], by decide⟩

end Dinotty.Git
