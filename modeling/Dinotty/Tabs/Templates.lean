/-
This file is the application of a template. It proves when applying a template, and likewise
restoring a tab, either stores a tab of live terminals or leaves everything as it was.
-/

import Dinotty.Session.Restore
import Dinotty.Tabs.Panes

namespace Dinotty.Tabs.Stored

open List Option Json

open Session hiding SessionManager
open Session.Stored

/-! ### Preparing a layout -/

/-- What the application of a template finds: drawn identifiers, how terminals come up, the file
system, the plugins, the directory of the workspace, and the shell. -/
structure Environment where
  draw : Nat → String
  spawn : Spawn
  isDir : String → Bool
  pathExists : String → Bool
  homeDir : String
  installedPluginIds : List String
  workspacePath : Option String
  shellSpec : Bool

structure Preparation where
  manager : SessionManager
  createdPtyIds : List PaneId := []
  startupCommands : List (PaneId × String) := []
  warnings : List String := []
  drawn : Nat := 0

/-- What preparing a part of a layout answers. -/
abbrev Prepare (Result : Type) := Preparation → Preparation × Except Rejection Result

def Preparation.warn (preparation : Preparation) (warning : String) : Preparation :=
  { preparation with warnings := preparation.warnings ++ [warning] }

/-- The directory that a terminal starts in: the one of its leaf, or the one of the workspace. -/
def launchCwd (environment : Environment) (leaf : Json) : Option String :=
  let cwdPath :=
    match leaf.getStr "cwd" with
    | some path =>
        if path ≠ "" ∧ environment.isDir path then some path else environment.workspacePath
    | none => environment.workspacePath
  cwdPath.filter environment.isDir

def checkCwd (environment : Environment) (leaf : Json) (preparation : Preparation) : Preparation :=
  match leaf.getStr "cwd" with
  | some path =>
      if path ≠ "" ∧ ¬environment.isDir path then
        preparation.warn ("cwd '" ++ path ++ "' not found, using workspace root")
      else preparation
  | none => preparation

/-- A terminal over SSH becomes a local one. -/
def downgradeSsh (leaf : Json) (preparation : Preparation) : Json × Preparation :=
  if leaf.getStr "shell_type" = some "ssh" then
    (leaf.without "shell_type",
      preparation.warn "SSH pane downgraded to local terminal (reconnect manually)")
  else (leaf, preparation)

/-- Prepare the leaf of a terminal: start it, and remember its first command. The leaf is looked at
for SSH twice. -/
def prepareTerminal (environment : Environment) (pane : PaneId) (leaf : Json) : Prepare Json :=
  fun preparation =>
    if environment.shellSpec = false then
      (preparation,
        .error { status := 500, error := "terminal layout is missing a resolved shell" })
    else
      let cwd := launchCwd environment leaf
      let preparation := checkCwd environment leaf preparation
      let (leaf, preparation) := downgradeSsh leaf preparation
      let (leaf, preparation) := downgradeSsh leaf preparation
      match preparation.manager.createSession pane (environment.spawn pane cwd) with
      | (manager, .ok _) =>
          let leaf := leaf.set "paneId" (.str pane)
          let command := (leaf.getStr "startup_command").filter (· ≠ "")
          ({ preparation with
              manager
              createdPtyIds := preparation.createdPtyIds ++ [pane]
              startupCommands := preparation.startupCommands ++
                (command.map fun command => (pane, command)).toList }, .ok leaf)
      | (manager, .error error) =>
          ({ preparation with manager },
            .error { status := 500, error := "failed to create PTY: " ++ error })

def preparePlugin (environment : Environment) (pane : PaneId) (leaf : Json) : Prepare Json :=
  fun preparation =>
    let pluginId := (leaf.getStr "pluginId").getD ""
    if pluginId ≠ "" ∧ pluginId ∉ environment.installedPluginIds then
      (preparation.warn ("plugin '" ++ pluginId ++ "' not installed, showing placeholder"),
        .ok (((leaf.set "load_error" (.str "not_installed")).set "title"
          (.str ("Plugin " ++ pluginId ++ " (not installed)"))).set "paneId" (.str pane)))
    else (preparation, .ok (leaf.set "paneId" (.str pane)))

/-- Prepare the leaf of files, whose path may be gone. -/
def prepareFiles (environment : Environment) (pane : PaneId) (leaf : Json) : Prepare Json :=
  fun preparation =>
    let path := (leaf.getStr "path").getD ""
    if path ≠ "" ∧ ¬environment.pathExists path then
      (preparation.warn ("files path '" ++ path ++ "' not found"),
        .ok ((leaf.set "path" (.str environment.homeDir)).set "paneId" (.str pane)))
    else (preparation, .ok (leaf.set "paneId" (.str pane)))

/-- Prepare a leaf under a new pane. -/
def prepareLeaf (environment : Environment) (leaf : Json) : Prepare Json := fun preparation =>
  let pane := environment.draw preparation.drawn
  let preparation := { preparation with drawn := preparation.drawn + 1 }
  match leafKind leaf with
  | "terminal" => prepareTerminal environment pane leaf preparation
  | "plugin" => preparePlugin environment pane leaf preparation
  | "files" => prepareFiles environment pane leaf preparation
  | _ => (preparation, .ok (leaf.set "paneId" (.str pane)))

/-- Prepare one after another, up to the first that fails. -/
def prepareAll : List (Prepare Json) → Prepare (List Json)
  | [], preparation => (preparation, .ok [])
  | first :: rest, preparation =>
      match first preparation with
      | (preparation, .error rejection) => (preparation, .error rejection)
      | (preparation, .ok child) =>
          match prepareAll rest preparation with
          | (preparation, .error rejection) => (preparation, .error rejection)
          | (preparation, .ok children) => (preparation, .ok (child :: children))

def prepareLayoutWithShell (environment : Environment) (layout : Json) : Prepare Json :=
  match layout.getStr "type" with
  | none => fun preparation => (preparation, .ok layout)
  | some "leaf" => prepareLeaf environment layout
  | some "split" =>
      match _found : layout.getArray "children" with
      | none => fun preparation => (preparation, .ok layout)
      | some children => fun preparation =>
          match prepareAll
              (children.attach.map fun child => prepareLayoutWithShell environment child.1)
              preparation with
          | (preparation, .error rejection) => (preparation, .error rejection)
          | (preparation, .ok children) =>
              (preparation, .ok (layout.set "children" (.arr children)))
  | some _ => fun preparation => (preparation, .ok layout)
termination_by sizeOf layout
decreasing_by exact Json.sizeOf_of_mem_getArray _found child.2

def layoutContainsTerminal (layout : Json) : Bool :=
  match layout.getStr "type" with
  | some "leaf" => leafKind layout = "terminal"
  | some "split" =>
      match _found : layout.getArray "children" with
      | some children => children.attach.any fun child => layoutContainsTerminal child.1
      | none => false
  | _ => false
termination_by sizeOf layout
decreasing_by exact Json.sizeOf_of_mem_getArray _found child.2

/-- The first pane, which is looked for below any node that is no leaf. -/
def collectFirstPaneId (layout : Json) : Option PaneId :=
  if layout.getStr "type" = some "leaf" then layout.getStr "paneId"
  else
    match _found : layout.getArray "children" with
    | some children => children.attach.findSome? fun child => collectFirstPaneId child.1
    | none => none
termination_by sizeOf layout
decreasing_by exact Json.sizeOf_of_mem_getArray _found child.2

/-- Prepare all leaves of a layout, then store the tab. When a leaf fails, the terminals that have
been started are closed. -/
def applyLayout (environment : Environment) (manager : SessionManager) (layout : Json) :
    SessionManager × Option Rejection :=
  let newTabId := environment.draw 0
  match prepareLayoutWithShell environment layout { manager, drawn := 1 } with
  | (preparation, .error rejection) =>
      (rollBack preparation.manager preparation.createdPtyIds, some rejection)
  | (preparation, .ok layout) =>
      let activePaneId := (collectFirstPaneId layout).getD (environment.draw preparation.drawn)
      let stored := preparation.manager.insertTabLocked newTabId
        (tabValue layout (some activePaneId))
      ({ stored with activePaneId := some activePaneId }, none)

/-- Apply a template that has been loaded, or could not be. A shell is resolved only for a layout
with a terminal. -/
def applyTemplate (environment : Environment) (manager : SessionManager)
    (template : Except Rejection Json) (shell : Except Rejection Unit) :
    SessionManager × Option Rejection :=
  match template with
  | .error rejection => (manager, some rejection)
  | .ok layout =>
      let shellSpec : Except Rejection Bool :=
        if layoutContainsTerminal layout then shell.map fun _ => true else .ok false
      match shellSpec with
      | .error rejection => (manager, some rejection)
      | .ok shellSpec => applyLayout { environment with shellSpec } manager layout

/-! ### The terminals of a template -/

/-- The leaves of a layout, with a pane or without. -/
def leafNodes (node : Json) : List Json :=
  if node.getStr "type" = some "leaf" then [node]
  else (children node).attach.flatMap fun child => leafNodes child.1
termination_by sizeOf node
decreasing_by exact sizeOf_of_mem_children child.2

theorem leafNodes_eq (node : Json) : leafNodes node =
      if node.getStr "type" = some "leaf" then [node] else (children node).flatMap leafNodes := by
  rw [leafNodes]
  simp

/-- The terminals among leaves that draw their panes from `start` on, with their directories. -/
def templateLeaves (environment : Environment) (start : Nat) (nodes : List Json) :
    List (PaneId × Option String) :=
  (nodes.zipIdx start).filterMap fun (leaf, index) =>
    if leafKind leaf = "terminal" then some (environment.draw index, launchCwd environment leaf)
    else none

theorem templateLeaves_append (environment : Environment) (start : Nat) (first second : List Json) :
    templateLeaves environment start (first ++ second) = templateLeaves environment start first ++
        templateLeaves environment (start + first.length) second := by
  rw [templateLeaves, zipIdx_append, filterMap_append]
  rfl

theorem startAll_append (spawn : Spawn) (mgr : SessionManager) (spawned : List PaneId)
    (first second : List (PaneId × Option String)) :
    startAll spawn mgr spawned (first ++ second) = match startAll spawn mgr spawned first with
      | (mgr, spawned, none) => startAll spawn mgr spawned second
      | (mgr, spawned, some failure) => (mgr, spawned, some failure) := by
  induction first generalizing mgr spawned with
  | nil => rfl
  | cons leaf rest ih =>
    obtain ⟨pane, cwd⟩ := leaf
    rw [cons_append, startAll, startAll]
    cases created : mgr.createSession pane (spawn pane cwd) with
    | mk next outcome =>
      cases outcome with
      | error error => rfl
      | ok sess => exact ih next (spawned ++ [pane])

/-- Preparing starts the terminals of some leaves, draws a pane for each leaf, and answers an error
exactly when a terminal does not start. -/
structure Prepares (environment : Environment) (nodes : List Json) (before after : Preparation)
    (failed : Prop) : Prop where
  manager : after.manager = (startAll environment.spawn before.manager before.createdPtyIds
    (templateLeaves environment before.drawn nodes)).1
  created : after.createdPtyIds = (startAll environment.spawn before.manager before.createdPtyIds
    (templateLeaves environment before.drawn nodes)).2.1
  outcome : failed ↔ (startAll environment.spawn before.manager before.createdPtyIds
    (templateLeaves environment before.drawn nodes)).2.2 ≠ none
  drawn : ¬failed → after.drawn = before.drawn + nodes.length

/-- Whether a shell is there for the terminals among leaves. -/
def Equipped (environment : Environment) (nodes : List Json) : Prop :=
  environment.shellSpec = true ∨ ∀ leaf ∈ nodes, leafKind leaf ≠ "terminal"

variable {environment : Environment} {before middle after : Preparation}

variable {nodes : List Json}

theorem Equipped.mono {others : List Json} (equipped : Equipped environment nodes)
    (part : ∀ leaf ∈ others, leaf ∈ nodes) : Equipped environment others :=
  equipped.imp_right fun none leaf mem => none leaf (part leaf mem)

variable {failed : Prop}

theorem Prepares.of_nil (none : templateLeaves environment before.drawn nodes = [])
    (manager : after.manager = before.manager)
    (created : after.createdPtyIds = before.createdPtyIds)
    (drawn : after.drawn = before.drawn + nodes.length) (passed : ¬failed) :
    Prepares environment nodes before after failed := by
  constructor
  · rw [none]
    exact manager
  · rw [none]
    exact created
  · rw [none]
    exact iff_of_false passed fun same => same rfl
  · exact fun _ => drawn

theorem Prepares.append {first second : List Json} {failedFirst : Prop}
    (prepared : Prepares environment first before middle failedFirst) (passed : ¬failedFirst)
    (later : Prepares environment second middle after failed) :
    Prepares environment (first ++ second) before after failed := by
  have ends := not_ne_iff.mp (mt prepared.outcome.mpr passed)
  have both : startAll environment.spawn before.manager before.createdPtyIds
      (templateLeaves environment before.drawn (first ++ second)) =
      startAll environment.spawn middle.manager middle.createdPtyIds
        (templateLeaves environment middle.drawn second) := by
    rw [templateLeaves_append, startAll_append, prepared.manager, prepared.created,
      prepared.drawn passed]
    generalize startAll _ _ _ (templateLeaves environment before.drawn first) = res at ends
    obtain ⟨manager, spawned, failure⟩ := res
    obtain rfl : failure = none := ends
    rfl
  refine ⟨?_, ?_, ?_, fun passedLater => ?_⟩
  · rw [both]
    exact later.manager
  · rw [both]
    exact later.created
  · rw [both]
    exact later.outcome
  · rw [later.drawn passedLater, prepared.drawn passed, length_append, Nat.add_assoc]

theorem Prepares.append_of_failed {first second : List Json}
    (prepared : Prepares environment first before after failed) (isFailed : failed) :
    Prepares environment (first ++ second) before after failed := by
  have fails := prepared.outcome.mp isFailed
  have same : startAll environment.spawn before.manager before.createdPtyIds
      (templateLeaves environment before.drawn (first ++ second)) =
      startAll environment.spawn before.manager before.createdPtyIds
        (templateLeaves environment before.drawn first) := by
    rw [templateLeaves_append, startAll_append]
    generalize startAll _ _ _ (templateLeaves environment before.drawn first) = res at fails
    obtain ⟨manager, spawned, failure⟩ := res
    cases failure with
    | none => exact absurd rfl fails
    | some failure => rfl
  refine ⟨?_, ?_, ?_, fun passed => absurd isFailed passed⟩
  · rw [same]
    exact prepared.manager
  · rw [same]
    exact prepared.created
  · rw [same]
    exact prepared.outcome

def Failed {Result : Type} (result : Preparation × Except Rejection Result) : Prop :=
  ∃ rejection, result.2 = .error rejection

variable {Result : Type}

theorem not_failed_ok (preparation : Preparation) (value : Result) :
    ¬Failed (preparation, (.ok value : Except Rejection Result)) := nofun

theorem Prepares.of_failed {Other : Type} {rejection : Rejection}
    (prepares : Prepares environment nodes before after
      (Failed (after, (.error rejection : Except Rejection Result)))) :
    Prepares environment nodes before after
      (Failed (after, (.error rejection : Except Rejection Other))) where
  manager := prepares.manager
  created := prepares.created
  outcome := iff_of_true ⟨rejection, rfl⟩ (prepares.outcome.mp ⟨rejection, rfl⟩)
  drawn := fun passed => absurd ⟨rejection, rfl⟩ passed

theorem Prepares.of_passed {Other : Type} {value : Result} {other : Other}
    (prepares : Prepares environment nodes before after
      (Failed (after, (.ok value : Except Rejection Result)))) :
    Prepares environment nodes before after
      (Failed (after, (.ok other : Except Rejection Other))) where
  manager := prepares.manager
  created := prepares.created
  outcome := iff_of_false (not_failed_ok after other)
    (mt prepares.outcome.mpr (not_failed_ok after value))
  drawn := fun _ => prepares.drawn (not_failed_ok after value)

variable {leaf : Json}

theorem collectTerminalLeafPaneIds_set_paneId {changed : Json} (pane : PaneId)
    (isLeaf : leaf.getStr "type" = some "leaf") (type : changed.getStr "type" = leaf.getStr "type")
    (kind : changed.getStr "kind" = leaf.getStr "kind") :
    collectTerminalLeafPaneIds (changed.set "paneId" (.str pane)) =
      if leafKind leaf = "terminal" then [pane] else [] := by
  have object := isObject_of_getStr (type.trans isLeaf)
  have named : (changed.set "paneId" (.str pane)).getStr "paneId" = some pane := by
    rw [getStr, get_set_self object]
    rfl
  have sameKind : leafKind (changed.set "paneId" (.str pane)) = leafKind leaf := by
    rw [leafKind, getStr_set_of_ne (by decide), kind, leafKind]
  rw [collectTerminalLeafPaneIds_eq, getStr_set_of_ne (by decide), type, if_pos isLeaf,
    sameKind, named]
  rfl

theorem templateLeaves_singleton (start : Nat) (leaf : Json) :
    templateLeaves environment start [leaf] =
      if leafKind leaf = "terminal" then
        [(environment.draw start, launchCwd environment leaf)]
      else [] := by
  unfold templateLeaves
  rw [zipIdx_singleton, filterMap_cons, filterMap_nil]
  split <;> simp_all

theorem downgradeSsh_spec (leaf : Json) (preparation : Preparation) :
    (downgradeSsh leaf preparation).1.getStr "type" = leaf.getStr "type" ∧
      (downgradeSsh leaf preparation).1.getStr "kind" = leaf.getStr "kind" ∧
      (downgradeSsh leaf preparation).2.manager = preparation.manager ∧
      (downgradeSsh leaf preparation).2.createdPtyIds = preparation.createdPtyIds ∧
      (downgradeSsh leaf preparation).2.drawn = preparation.drawn := by
  unfold downgradeSsh
  split
  · exact ⟨getStr_without_of_ne (by decide) _, getStr_without_of_ne (by decide) _, rfl, rfl, rfl⟩
  · exact ⟨rfl, rfl, rfl, rfl, rfl⟩

theorem checkCwd_spec (leaf : Json) (preparation : Preparation) :
    (checkCwd environment leaf preparation).manager = preparation.manager ∧
      (checkCwd environment leaf preparation).createdPtyIds = preparation.createdPtyIds ∧
      (checkCwd environment leaf preparation).drawn = preparation.drawn := by
  unfold checkCwd
  split
  · split <;> exact ⟨rfl, rfl, rfl⟩
  · exact ⟨rfl, rfl, rfl⟩

/-- Terminals are started for the leaves, and the terminals of the result are those that have been
started. -/
structure Prepared (environment : Environment) (nodes : List Json) (before : Preparation)
    (result : Preparation × Except Rejection Json) : Prop where
  prepares : Prepares environment nodes before result.1 (Failed result)
  panes : ∀ new, result.2 = .ok new → collectTerminalLeafPaneIds new =
    (templateLeaves environment before.drawn nodes).map Prod.fst

section

variable (isLeaf : leaf.getStr "type" = some "leaf")
include isLeaf

theorem prepared_plain {changed : Json} (notTerminal : leafKind leaf ≠ "terminal")
    (type : changed.getStr "type" = leaf.getStr "type")
    (kind : changed.getStr "kind" = leaf.getStr "kind") (pane : PaneId)
    (manager : after.manager = before.manager)
    (created : after.createdPtyIds = before.createdPtyIds) (drawn : after.drawn = before.drawn + 1)
    :
    Prepared environment [leaf] before (after, .ok (changed.set "paneId" (.str pane))) := by
  have none : templateLeaves environment before.drawn [leaf] = [] := by
    rw [templateLeaves_singleton, if_neg notTerminal]
  refine ⟨.of_nil none manager created drawn (not_failed_ok _ _), fun new same => ?_⟩
  cases same
  rw [collectTerminalLeafPaneIds_set_paneId pane isLeaf type kind, if_neg notTerminal, none]
  rfl

theorem prepared_terminal (terminal : leafKind leaf = "terminal")
    (shell : environment.shellSpec = true) :
    Prepared environment [leaf] before
      (prepareTerminal environment (environment.draw before.drawn) leaf
        { before with drawn := before.drawn + 1 }) := by
  have leaves : templateLeaves environment before.drawn [leaf] =
      [(environment.draw before.drawn, launchCwd environment leaf)] := by
    rw [templateLeaves_singleton, if_pos terminal]
  have panes : ∀ changed : Json, changed.getStr "type" = leaf.getStr "type" →
      changed.getStr "kind" = leaf.getStr "kind" →
      collectTerminalLeafPaneIds (changed.set "paneId" (.str (environment.draw before.drawn))) =
        (templateLeaves environment before.drawn [leaf]).map Prod.fst := by
    intro changed type kind
    rw [collectTerminalLeafPaneIds_set_paneId _ isLeaf type kind, if_pos terminal, leaves]
    rfl
  unfold prepareTerminal
  rw [if_neg (by simp [shell])]
  dsimp only
  obtain ⟨manager, created, drawn⟩ := @checkCwd_spec environment leaf
    { before with drawn := before.drawn + 1 }
  generalize checkCwd environment leaf { before with drawn := before.drawn + 1 } = checked at *
  obtain ⟨type, kind, managerFirst, createdFirst, drawnFirst⟩ := downgradeSsh_spec leaf checked
  generalize downgradeSsh leaf checked = first at *
  obtain ⟨typeSecond, kindSecond, managerSecond, createdSecond, drawnSecond⟩ :=
    downgradeSsh_spec first.1 first.2
  generalize downgradeSsh first.1 first.2 = second at *
  have sameManager : second.2.manager = before.manager :=
    managerSecond.trans (managerFirst.trans manager)
  have sameCreated : second.2.createdPtyIds = before.createdPtyIds :=
    createdSecond.trans (createdFirst.trans created)
  have sameDrawn : second.2.drawn = before.drawn + 1 := drawnSecond.trans (drawnFirst.trans drawn)
  rw [sameManager]
  have start : startAll environment.spawn before.manager before.createdPtyIds
      (templateLeaves environment before.drawn [leaf]) =
      match before.manager.createSession (environment.draw before.drawn)
          (environment.spawn (environment.draw before.drawn) (launchCwd environment leaf)) with
      | (manager, .ok _) =>
          (manager, before.createdPtyIds ++ [environment.draw before.drawn], none)
      | (manager, .error error) =>
          (manager, before.createdPtyIds, some (environment.draw before.drawn, error)) := by
    rw [leaves]
    rfl
  generalize before.manager.createSession _ _ = outcome at start ⊢
  obtain ⟨next, sess | error⟩ := outcome
  · refine ⟨⟨?_, ?_, ?_, fun passed => ?_⟩, nofun⟩
    · rw [start]
    · rw [start]
      exact sameCreated
    · rw [start]
      exact iff_of_true ⟨_, rfl⟩ nofun
    · exact absurd ⟨_, rfl⟩ passed
  · refine ⟨⟨?_, ?_, ?_, fun _ => sameDrawn⟩, fun new same => ?_⟩
    · rw [start]
    · rw [start]
      exact congrArg (· ++ [environment.draw before.drawn]) sameCreated
    · rw [start]
      exact iff_of_false (not_failed_ok _ _) fun same => same rfl
    · cases same
      exact panes second.1 (typeSecond.trans type) (kindSecond.trans kind)

theorem prepared_leaf (equipped : Equipped environment [leaf]) :
    Prepared environment [leaf] before (prepareLeaf environment leaf before) := by
  unfold prepareLeaf
  dsimp only
  split
  next terminal =>
    refine prepared_terminal isLeaf terminal (equipped.resolve_right fun none => ?_)
    exact none leaf (mem_singleton_self leaf) terminal
  next plugin =>
    have notTerminal : leafKind leaf ≠ "terminal" := by rw [plugin]; decide
    unfold preparePlugin
    dsimp only
    split
    · refine prepared_plain isLeaf notTerminal ?_ ?_ _ rfl rfl rfl
      · rw [getStr_set_of_ne (by decide), getStr_set_of_ne (by decide)]
      · rw [getStr_set_of_ne (by decide), getStr_set_of_ne (by decide)]
    · exact prepared_plain isLeaf notTerminal rfl rfl _ rfl rfl rfl
  next files =>
    have notTerminal : leafKind leaf ≠ "terminal" := by rw [files]; decide
    unfold prepareFiles
    dsimp only
    split
    · exact prepared_plain isLeaf notTerminal (getStr_set_of_ne (by decide) _ _)
        (getStr_set_of_ne (by decide) _ _) _ rfl rfl rfl
    · exact prepared_plain isLeaf notTerminal rfl rfl _ rfl rfl rfl
  next notTerminal _ _ =>
    exact prepared_plain isLeaf notTerminal rfl rfl _ rfl rfl rfl

end

theorem prepareAll_spec {items : List Json}
    (prepared : ∀ item ∈ items, ∀ before, Prepared environment (leafNodes item) before
      (prepareLayoutWithShell environment item before)) (before : Preparation) :
    let result := prepareAll (items.map (prepareLayoutWithShell environment)) before
    Prepares environment (items.flatMap leafNodes) before result.1 (Failed result) ∧
      ∀ new, result.2 = .ok new → new.flatMap collectTerminalLeafPaneIds =
        (templateLeaves environment before.drawn (items.flatMap leafNodes)).map Prod.fst := by
  induction items generalizing before with
  | nil =>
    refine ⟨.of_nil rfl rfl rfl rfl (not_failed_ok _ _), fun new same => ?_⟩
    cases same
    rfl
  | cons item rest ih =>
    have first := prepared item mem_cons_self before
    have later := fun middle =>
      ih (fun other mem => prepared other (mem_cons_of_mem _ mem)) middle
    simp only [map_cons, prepareAll, flatMap_cons]
    generalize prepareLayoutWithShell environment item before = result at first
    obtain ⟨middle, rejection | child⟩ := result
    · exact ⟨(first.prepares.append_of_failed ⟨rejection, rfl⟩).of_failed, nofun⟩
    · have passed := not_failed_ok middle child
      obtain ⟨prepares, panes⟩ := ih
        (fun other mem => prepared other (mem_cons_of_mem _ mem)) middle
      dsimp only
      generalize prepareAll (rest.map (prepareLayoutWithShell environment)) middle = later
        at prepares panes
      obtain ⟨after, rejection | children⟩ := later
      · exact ⟨(first.prepares.append passed prepares).of_failed, nofun⟩
      · refine ⟨(first.prepares.append passed prepares).of_passed, fun new same => ?_⟩
        cases same
        rw [flatMap_cons, first.panes child rfl, panes children rfl,
          templateLeaves_append, map_append, first.prepares.drawn passed]

theorem leafNodes_of_ne {node : Json} (notLeaf : node.getStr "type" ≠ some "leaf") :
    leafNodes node = (children node).flatMap leafNodes := by
  rw [leafNodes_eq, if_neg notLeaf]

theorem prepareLayoutWithShell_split {layout : Json} {items : List Json}
    (isSplit : layout.getStr "type" = some "split")
    (found : layout.getArray "children" = some items) :
    prepareLayoutWithShell environment layout = fun before =>
      match prepareAll (items.map (prepareLayoutWithShell environment)) before with
      | (preparation, .error rejection) => (preparation, .error rejection)
      | (preparation, .ok children) =>
          (preparation, .ok (layout.set "children" (.arr children))) := by
  rw [prepareLayoutWithShell, isSplit]
  simp only [List.map_subtype, List.unattach_attach]
  split <;> rename_i here
  · cases found.symm.trans here
  · cases found.symm.trans here
    rfl

theorem prepareLayoutWithShell_childless {layout : Json}
    (notLeaf : layout.getStr "type" ≠ some "leaf")
    (childless : layout.getStr "type" = some "split" → layout.getArray "children" = none) :
    prepareLayoutWithShell environment layout = fun before => (before, .ok layout) := by
  rw [prepareLayoutWithShell]
  split
  · rfl
  next isLeaf =>
    exact absurd isLeaf notLeaf
  next isSplit =>
    split <;> rename_i found
    · rfl
    · cases (childless isSplit).symm.trans found
  · rfl

theorem prepared_layout (layout : Json) (equipped : Equipped environment (leafNodes layout))
    (before : Preparation) :
    Prepared environment (leafNodes layout) before
      (prepareLayoutWithShell environment layout before) := by
  induction layout using induction_on_children generalizing before with
  | step layout below =>
    by_cases isLeaf : layout.getStr "type" = some "leaf"
    · have single : leafNodes layout = [layout] := by rw [leafNodes_eq, if_pos isLeaf]
      have same : prepareLayoutWithShell environment layout = prepareLeaf environment layout := by
        rw [prepareLayoutWithShell, isLeaf]
        rfl
      rw [single] at equipped ⊢
      rw [same]
      exact prepared_leaf isLeaf equipped
    · rw [leafNodes_of_ne isLeaf] at equipped ⊢
      by_cases whole : layout.getStr "type" = some "split" ∧
          ∃ items, layout.getArray "children" = some items
      · obtain ⟨isSplit, items, found⟩ := whole
        rw [children_of_split isSplit found] at below equipped ⊢
        obtain ⟨prepares, panes⟩ := prepareAll_spec (fun item mem =>
          below item mem (equipped.mono fun leaf inItem =>
            mem_flatMap.mpr ⟨item, mem, inItem⟩)) before
        rw [prepareLayoutWithShell_split isSplit found]
        dsimp only
        generalize prepareAll (items.map (prepareLayoutWithShell environment)) before = res
          at prepares panes
        obtain ⟨after, rejection | children⟩ := res
        · exact ⟨prepares.of_failed, nofun⟩
        · refine ⟨prepares.of_passed, fun new same => ?_⟩
          cases same
          have type : (layout.set "children" (.arr children)).getStr "type" =
              layout.getStr "type" := getStr_set_of_ne (by decide) _ _
          rw [collectTerminalLeafPaneIds_eq, if_neg (type.trans_ne isLeaf),
            children_set_children isSplit]
          exact panes children rfl
      · have childless : layout.getStr "type" = some "split" →
            layout.getArray "children" = none := fun isSplit =>
          eq_none_iff_forall_not_mem.mpr fun items found => whole ⟨isSplit, items, found⟩
        have none : children layout = [] := by
          by_cases isSplit : layout.getStr "type" = some "split"
          · rw [children, if_pos isSplit, childless isSplit, getD_none]
          · exact children_of_ne isSplit
        rw [prepareLayoutWithShell_childless isLeaf childless, none]
        refine ⟨.of_nil rfl rfl rfl rfl (not_failed_ok _ _), fun new same => ?_⟩
        cases same
        rw [collectTerminalLeafPaneIds_eq, if_neg isLeaf, none]
        rfl

/-! ### All or nothing -/

theorem layoutContainsTerminal_iff (layout : Json) : layoutContainsTerminal layout = true ↔
      ∃ leaf ∈ leafNodes layout, leafKind leaf = "terminal" := by
  induction layout using induction_on_children with
  | step layout below =>
    have looked : layoutContainsTerminal layout =
        if layout.getStr "type" = some "leaf" then decide (leafKind layout = "terminal")
        else (children layout).any layoutContainsTerminal := by
      rw [layoutContainsTerminal]
      simp only [any_subtype, List.unattach_attach]
      exact byType_eq layout _ fun items => items.any layoutContainsTerminal
    rw [looked, leafNodes_eq]
    split
    · simp
    · simp only [List.any_eq_true, mem_flatMap]
      constructor
      · rintro ⟨child, mem, contains⟩
        obtain ⟨leaf, inChild, terminal⟩ := (below child mem).mp contains
        exact ⟨leaf, ⟨child, mem, inChild⟩, terminal⟩
      · rintro ⟨leaf, ⟨child, mem, inChild⟩, terminal⟩
        exact ⟨child, mem, (below child mem).mpr ⟨leaf, inChild, terminal⟩⟩

/-- The terminals that applying a template starts, in their order. -/
def terminalsOf (environment : Environment) (template : Except Rejection Json)
    (shell : Except Rejection Unit) : List (PaneId × Option String) :=
  match template with
  | .error _ => []
  | .ok layout =>
      match shell with
      | .ok () => templateLeaves environment 1 (leafNodes layout)
      | .error _ => []

theorem SameMembers.refl (manager : SessionManager) : SameMembers manager manager :=
  ⟨fun _ => rfl, rfl, fun _ => rfl, rfl, rfl⟩

theorem templateLeaves_of_no_terminal (none : ∀ leaf ∈ nodes, leafKind leaf ≠ "terminal")
    (start : Nat) :
    templateLeaves environment start nodes = [] := by
  refine filterMap_eq_nil_iff.mpr fun (leaf, i) mem => ?_
  exact if_neg (none leaf (fst_mem_of_mem_zipIdx mem))

theorem applyLayout_allOrNothing_iff (manager : SessionManager) (layout : Json)
    (equipped : Equipped environment (leafNodes layout)) :
    AllOrNothing manager (applyLayout environment manager layout) ↔
      AllStart manager environment.spawn [] (templateLeaves environment 1 (leafNodes layout)) ∨
      Harmless manager (startedPanes manager environment.spawn []
        (templateLeaves environment 1 (leafNodes layout))) := by
  obtain ⟨prepares, panes⟩ := prepared_layout layout equipped { manager, drawn := 1 }
  obtain ⟨spawned, started, ends⟩ := startAll_spec (.refl manager) environment.spawn
    (templateLeaves environment 1 (leafNodes layout))
  have sameManager := prepares.manager
  have sameCreated := prepares.created.trans spawned
  have outcome := prepares.outcome
  rw [← sameManager] at started
  unfold applyLayout
  generalize prepareLayoutWithShell environment layout { manager, drawn := 1 } = res at *
  obtain ⟨after, rejection | new⟩ := res
  · have failed := mt ends.mpr (outcome.mp ⟨rejection, rfl⟩)
    rw [or_iff_right failed, ← sameCreated]
    rw [← sameCreated] at started
    exact sameMembers_rollBack_iff started
  · have all := ends.mp (not_ne_iff.mp (mt outcome.mpr (not_failed_ok after new)))
    rw [startedPanes_of_allStart all, nil_append] at started
    have committed : ∀ active, Committed manager
        (after.manager.insertTabLocked (environment.draw 0) (tabValue new active))
        (environment.draw 0) new := fun active =>
      committed_of_started started (get_layout_tabValue new active)
        fun pane mem => panes new rfl ▸ mem
    exact iff_of_true ⟨environment.draw 0, new, (committed _).stored, (committed none).live⟩
      (.inl all)

/-- Applying a template is all or nothing exactly when all its terminals start, or closing those
that have started is harmless. -/
theorem applyTemplate_allOrNothing_iff (environment : Environment) (mgr : SessionManager)
    (template : Except Rejection Json) (shell : Except Rejection Unit) :
    AllOrNothing mgr (applyTemplate environment mgr template shell) ↔
      AllStart mgr environment.spawn [] (terminalsOf environment template shell) ∨
      Harmless mgr
        (startedPanes mgr environment.spawn [] (terminalsOf environment template shell)) := by
  cases template with
  | error rejection => exact iff_of_true (SameMembers.refl mgr) (.inl trivial)
  | ok layout =>
    by_cases contains : layoutContainsTerminal layout = true
    · cases shell with
      | error rejection =>
        rw [applyTemplate, contains]
        exact iff_of_true (SameMembers.refl mgr) (.inl trivial)
      | ok _ =>
        have ran : applyTemplate environment mgr (.ok layout) (.ok ()) =
            applyLayout { environment with shellSpec := true } mgr layout := by
          rw [applyTemplate, contains]
          rfl
        rw [ran]
        exact applyLayout_allOrNothing_iff mgr layout (.inl rfl)
    · have none : ∀ leaf ∈ leafNodes layout, leafKind leaf ≠ "terminal" :=
        fun leaf mem terminal =>
          contains ((layoutContainsTerminal_iff layout).mpr ⟨leaf, mem, terminal⟩)
      have ran : applyTemplate environment mgr (.ok layout) shell =
          applyLayout { environment with shellSpec := false } mgr layout := by
        rw [applyTemplate, if_neg contains]
      have terminals : terminalsOf environment (.ok layout) shell = [] := by
        cases shell with
        | error rejection => rfl
        | ok _ => exact templateLeaves_of_no_terminal none 1
      have applied := @applyLayout_allOrNothing_iff { environment with shellSpec := false }
        mgr layout (.inr none)
      rw [templateLeaves_of_no_terminal none 1] at applied
      rw [ran, terminals]
      exact applied

/-- Restoring a tab and applying a template either store a tab of live terminals or leave the
manager as it was, exactly when no terminal fails, or closing those that have started is harmless.
-/
theorem materialisation_allOrNothing_iff (spawn : Spawn) (environment : Environment)
    (manager : SessionManager) (tab : TabSnapshot) (template : Except Rejection Json)
    (shell : Except Rejection Unit) :
    (AllOrNothing manager (restoreSingleTab spawn manager tab) ↔
      AllStart manager (spawnPane spawn) [] (collectTerminalLeavesWithCwd tab.layout) ∨
      Harmless manager (startedPanes manager (spawnPane spawn) []
        (collectTerminalLeavesWithCwd tab.layout))) ∧
    (AllOrNothing manager (applyTemplate environment manager template shell) ↔
      AllStart manager environment.spawn [] (terminalsOf environment template shell) ∨
      Harmless manager
        (startedPanes manager environment.spawn [] (terminalsOf environment template shell))) :=
  ⟨restoreSingleTab_allOrNothing_iff spawn manager tab,
    applyTemplate_allOrNothing_iff environment manager template shell⟩

def secondFails : Spawn := fun pane _ =>
  if pane = "p2" then .error "no such shell" else .ok { handle := 1 }

/-- A tab without a layout, as a snapshot has it, and a tab of two terminals. -/
def snapshotTabs : TabSnapshot × TabSnapshot :=
  ({ tabId := "t1", paneId := "t1", layout := .null, activePaneId := none },
    { tabId := "t2"
      paneId := "p1"
      layout := halves "s1" "horizontal"
        (.obj [("type", .str "leaf"), ("paneId", .str "p1")])
        (.obj [("type", .str "leaf"), ("paneId", .str "p2")])
      activePaneId := some "p1" })

def firstRestored : SessionManager := (restoreSingleTab secondFails {} snapshotTabs.1).1

/-- The second tab is not restored, and the first one is gone. -/
theorem failed_restore_removes_tab :
    ¬AllOrNothing firstRestored (restoreSingleTab secondFails firstRestored snapshotTabs.2) := by
  intro nothing
  have error : (restoreSingleTab secondFails firstRestored snapshotTabs.2).2.isSome = true := by
    decide +kernel
  obtain ⟨reason, failed⟩ := isSome_iff_exists.mp error
  rw [AllOrNothing, failed] at nothing
  have gone : ((restoreSingleTab secondFails firstRestored snapshotTabs.2).1.tabLayouts.lookup
      "t1").isNone = true := by
    decide +kernel
  rw [nothing.tabs "t1"] at gone
  revert gone
  decide +kernel

end Dinotty.Tabs.Stored
