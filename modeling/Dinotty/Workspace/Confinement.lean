/-
This file proves what the endpoints over a pane's files touch. Those that write, remove or move what
a path names test the place that the path leads to, or the directory in front of it, and then act on
the entry that it names: the two are the same unless the last segment is a link, and exactly then
the root can be left.
-/

import Dinotty.Workspace.Handlers

namespace Dinotty.Workspace

open FileTree List Fallible

/-! ### The claim and its condition -/

/-- A served request takes hold of nodes inside the root only, leaves all others as they are, and
neither removes nor renames the root. -/
structure Confined (before : Tree) (root : FilePath) (outcome : Outcome) : Prop where
  inside : ∀ access ∈ outcome.accesses, ∀ location ∈ access.locations, root <+: location
  spared : ∀ access ∈ outcome.accesses, access.takes ≠ some root
  framed : ∀ location, ¬ root <+: location → outcome.tree.node location = before.node location
  stays : outcome.tree.isDirectoryAt root = true

/-- A path whose last segment names a link. -/
def isLink (tree : Tree) (path : FilePath) : Bool :=
  match tree.entry path with
  | some location => tree.isLinkAt location
  | none => false

/-- A path that names no link, or a link in a directory inside the root. -/
def LinkKept (tree : Tree) (root target : FilePath) : Prop :=
  isLink tree target = true → pathMustBeUnder tree root target.dropLast = .ok ()

/-- The condition on the joined path under which an endpoint keeps to the root. -/
def Keeps (tree : Tree) (root target : FilePath) : Request → Prop
  | .info .. | .raw .. | .create .. => True
  | .putFile .. =>
      isLink tree target = true → ∃ location, tree.place target = some location ∧ root <+: location
  | .delete .. | .move .. => LinkKept tree root target
  | .rename .. =>
      LinkKept tree root target ∧ (tree.canonicalize target = some root → isLink tree target = true)
  | .gitRevertLines .. => pathMustBeUnder tree root target = .ok ()

def Request.joinedText : Request → List Char
  | .info path | .raw path _ | .create path _ _ | .putFile path _ | .delete path
  | .rename path _ | .move path _ => path
  | .gitRevertLines path _ _ _ => trimPath path

/-- The condition on a request under which it keeps to the root. -/
def KeepsInside (tree : Tree) (root : FilePath) (request : Request) : Prop :=
  ∀ target, normalizeJoin root request.joinedText = .ok target → Keeps tree root target request

/-! ### The tests -/

variable {tree : Tree} {session : Option Session} {root target location : FilePath}
  {outcome : Outcome}

theorem orSystem_eq_ok {Result : Type} {answer : Option Result} {result : Result} :
    orSystem answer = .ok result ↔ answer = some result := by
  cases answer <;> simp [orSystem]

theorem pathMustBeUnder_iff (canonical : tree.canonicalize root = some root) :
    pathMustBeUnder tree root target = .ok () ↔
      ∃ location, tree.canonicalize target = some location ∧ root <+: location := by
  rw [pathMustBeUnder, canonical]
  cases leads : tree.canonicalize target with
  | none => simp [jsonErr]
  | some location =>
    by_cases below : root <+: location
    · simp [below]
    · simp [below, jsonErr]

theorem parentDirMustBeInWorkspace_ok (canonical : tree.canonicalize root = some root)
    (passed : parentDirMustBeInWorkspace tree root target = .ok ()) :
    target ≠ [] ∧ ∃ location, tree.canonicalize target.dropLast = some location ∧
      root <+: location := by
  rw [parentDirMustBeInWorkspace, canonical, parent] at passed
  by_cases empty : target = []
  · rw [if_pos empty] at passed
    cases passed
  · rw [if_neg empty] at passed
    refine ⟨empty, ?_⟩
    simp only at passed
    split at passed
    · cases passed
    · split at passed
      · exact ⟨_, ‹_›, ‹_›⟩
      · cases passed

theorem normalizeJoin_ok {rel : List Char} (joined : normalizeJoin root rel = .ok target) :
    ∃ names : List FileName, target = root ++ names ∧ ∀ name ∈ names, IsNormal name := by
  simp only [normalizeJoin] at joined
  split at joined
  · cases joined
  next level =>
    refine ⟨_, (Except.ok.inj joined).symm, fun name mem => ?_⟩
    obtain ⟨segment, kept⟩ := mem_filter.mp mem
    rw [decide_eq_true_iff] at kept
    exact ⟨kept.1, kept.2, fun same => level (same ▸ segment)⟩

/-! ### What the endpoints do -/

theorem refuseIf_eq_ok {condition : Prop} [Decidable condition] {status : Nat} {error : String}
    {answer : Unit} : refuseIf condition status error = .ok answer ↔ ¬ condition := by
  unfold refuseIf
  split <;> simp_all [jsonErr]

theorem checkedFile_ok (canonical : tree.canonicalize root = some root) {bytes : Bytes}
    (checked : checkedFile tree root target = .ok (location, bytes)) :
    tree.canonicalize target = some location ∧ root <+: location := by
  obtain ⟨-, -, checked⟩ := bind_eq_ok checked
  obtain ⟨⟨⟩, under, checked⟩ := bind_eq_ok checked
  obtain ⟨found, read, checked⟩ := bind_eq_ok checked
  obtain ⟨-, -, checked⟩ := bind_eq_ok checked
  cases checked
  obtain ⟨there, leads, below⟩ := (pathMustBeUnder_iff canonical).mp under
  have known := (readFile_spec (orSystem_eq_ok.mp read)).1
  cases leads.symm.trans known
  exact ⟨leads, below⟩

/-- A reading endpoint leaves the tree alone and reads one file inside the root. -/
def ReadsInside (tree : Tree) (root : FilePath) (outcome : Outcome) : Prop :=
  outcome.tree = tree ∧ ∃ location, root <+: location ∧
    ∀ access ∈ outcome.accesses, access = .read location

variable {path : List Char}

theorem workspaceMeta_ok (rooted : getRoot tree session = .ok root)
    (canonical : tree.canonicalize root = some root)
    (served : workspaceMeta tree session path = .ok outcome) : ReadsInside tree root outcome := by
  replace served := rest_eq_ok rooted served
  obtain ⟨target, -, served⟩ := bind_eq_ok served
  obtain ⟨⟨location, bytes⟩, checked, served⟩ := bind_eq_ok served
  obtain ⟨leads, below⟩ := checkedFile_ok canonical checked
  simp only at served
  split at served
  · cases served
    exact ⟨rfl, location, below, by simp⟩
  · split at served
    · cases served
      exact ⟨rfl, location, below, by simp⟩
    · split at served
      · cases served
        exact ⟨rfl, location, below, by simp⟩
      · obtain ⟨⟨again, bytes⟩, read, served⟩ := bind_eq_ok served
        cases served
        have known := (readFile_spec (orSystem_eq_ok.mp read)).1
        cases leads.symm.trans known
        exact ⟨rfl, location, below, by simp⟩

theorem workspaceRaw_ok (rooted : getRoot tree session = .ok root)
    (canonical : tree.canonicalize root = some root) {mimeGuess : FilePath → String}
    {rangeHeader : Option (List Char)}
    (served : workspaceRaw tree session mimeGuess path rangeHeader = .ok outcome) :
    ReadsInside tree root outcome := by
  replace served := rest_eq_ok rooted served
  obtain ⟨target, -, served⟩ := bind_eq_ok served
  obtain ⟨⟨location, bytes⟩, checked, served⟩ := bind_eq_ok served
  obtain ⟨leads, below⟩ := checkedFile_ok canonical checked
  simp only at served
  split at served
  · cases served
    exact ⟨rfl, location, below, by simp⟩
  · split at served
    · obtain ⟨⟨again, bytes⟩, read, served⟩ := bind_eq_ok served
      cases served
      have known := (readFile_spec (orSystem_eq_ok.mp read)).1
      cases leads.symm.trans known
      exact ⟨rfl, location, below, by simp⟩
    · cases served
      exact ⟨rfl, location, below, by simp⟩
    · obtain ⟨⟨again, bytes⟩, read, served⟩ := bind_eq_ok served
      cases served
      have known := (readFile_spec (orSystem_eq_ok.mp read)).1
      cases leads.symm.trans known
      exact ⟨rfl, location, below, by simp⟩

def Within (root location : FilePath) : Prop := root <+: location ∧ location ≠ root

theorem within_concat {name : FileName} (below : root <+: location) :
    Within root (location ++ [name]) := by
  refine ⟨below.trans (prefix_append _ _), fun same => ?_⟩
  have longer := below.length_le
  rw [← same, length_append, length_singleton] at longer
  omega

theorem prefix_of_within {name : FileName} (within : Within root (location ++ [name])) :
    root <+: location :=
  (prefix_concat_iff.mp within.1).resolve_left within.2.symm

theorem confined_of_within (rootDir : tree.isDirectoryAt root = true) {access : Access}
    (framed : Done.Framed tree ⟨access, outcome.tree⟩)
    (only : ∀ other ∈ outcome.accesses, other = access ∨
      ∃ location, other = .read location ∧ root <+: location)
    (within : ∀ location ∈ access.locations, Within root location) :
    Confined tree root outcome := by
  have undisturbed : ¬ access.Disturbs root := by
    intro disturbed
    obtain ⟨location, held, above⟩ := Access.below_of_disturbs disturbed
    exact (within location held).2 (above.eq_of_length_le (within location held).1.length_le)
  refine ⟨?_, ?_, ?_, ?_⟩
  · intro other mem location held
    obtain rfl | ⟨there, rfl, below⟩ := only other mem
    · exact (within location held).1
    · obtain rfl := mem_singleton.mp held
      exact below
  · intro other mem taken
    obtain rfl | ⟨there, rfl, below⟩ := only other mem
    · exact (within root (Access.mem_locations_of_takes taken)).2 rfl
    · cases taken
  · intro location outside
    refine framed location fun disturbed => ?_
    obtain ⟨there, held, above⟩ := Access.below_of_disturbs disturbed
    exact outside ((within there held).1.trans above)
  · rw [isDirectoryAt_iff, framed root undisturbed]
    exact node_of_isDirectoryAt rootDir

theorem Confined.within_of_takes (confined : Confined tree root outcome) (access : Access)
    (made : access ∈ outcome.accesses) (taken : access.takes = some location) :
    Within root location :=
  ⟨confined.inside access made location (Access.mem_locations_of_takes taken),
    fun same => confined.spared access made (taken.trans (congrArg some same))⟩

theorem ReadsInside.confined (rootDir : tree.isDirectoryAt root = true)
    (reads : ReadsInside tree root outcome) : Confined tree root outcome := by
  obtain ⟨same, there, below, only⟩ := reads
  refine ⟨?_, ?_, ?_, ?_⟩
  · intro access mem location held
    obtain rfl := only access mem
    obtain rfl := mem_singleton.mp held
    exact below
  · intro access mem taken
    obtain rfl := only access mem
    cases taken
  · exact fun location _ => by rw [same]
  · rw [same, rootDir]

/-! ### The entry that a path names -/

theorem within_of_linkKept (canonical : tree.canonicalize root = some root)
    (named : tree.entry target = some location)
    (under : pathMustBeUnder tree root target = .ok ()) (kept : LinkKept tree root target)
    (apart : tree.canonicalize target = some root → isLink tree target = true) :
    Within root location := by
  obtain ⟨front, name, dir, same, rfl, found, -⟩ := entry_eq_some.mp named
  obtain ⟨there, leads, below⟩ := (pathMustBeUnder_iff canonical).mp under
  cases link : isLink tree target with
  | true =>
    obtain ⟨inside, leadsInside, holds⟩ := (pathMustBeUnder_iff canonical).mp (kept link)
    rw [same, dropLast_concat, found] at leadsInside
    cases leadsInside
    exact within_concat holds
  | false =>
    rw [isLink, named] at link
    obtain rfl := eq_entry_of_canonicalize named link leads
    refine ⟨below, fun rootItself => ?_⟩
    have linked := apart (rootItself ▸ leads)
    rw [isLink, named, link] at linked
    cases linked

theorem linkKept_of_within (canonical : tree.canonicalize root = some root)
    (named : tree.entry target = some location) (within : Within root location) :
    LinkKept tree root target := by
  intro _
  obtain ⟨front, name, dir, rfl, rfl, found, -⟩ := entry_eq_some.mp named
  refine (pathMustBeUnder_iff canonical).mpr ⟨dir, ?_, prefix_of_within within⟩
  rw [dropLast_concat, found]

/-! ### The endpoints that change something -/

theorem workspaceCreateEntry_ok (rooted : getRoot tree session = .ok root)
    (canonical : tree.canonicalize root = some root) {parentPath kind name : List Char}
    (served : workspaceCreateEntry tree session parentPath kind name = .ok outcome) :
    ∃ location, Within root location ∧ outcome.accesses = [.create location] ∧
      Done.Framed tree ⟨.create location, outcome.tree⟩ := by
  obtain ⟨name, -, served⟩ := bind_eq_ok served
  obtain ⟨-, -, served⟩ := bind_eq_ok served
  replace served := rest_eq_ok rooted served
  obtain ⟨parentDir, -, served⟩ := bind_eq_ok served
  obtain ⟨-, -, served⟩ := bind_eq_ok served
  obtain ⟨⟨⟩, under, served⟩ := bind_eq_ok served
  obtain ⟨-, -, served⟩ := bind_eq_ok served
  obtain ⟨done, through, served⟩ := bind_eq_ok served
  obtain ⟨there, leads, below⟩ := (pathMustBeUnder_iff canonical).mp under
  obtain ⟨location, named, -, rfl, framed⟩ := createEntry_spec (orSystem_eq_ok.mp through)
  obtain ⟨front, last, dir, same, rfl, found, -⟩ := entry_eq_some.mp named
  obtain ⟨rfl, -⟩ := append_inj' same rfl
  cases leads.symm.trans found
  split at served
  · cases served
  · cases served
    exact ⟨there ++ [last], within_concat below, rfl, framed⟩

theorem workspacePutFile_ok (rooted : getRoot tree session = .ok root)
    (canonical : tree.canonicalize root = some root) (rootDir : tree.isDirectoryAt root = true)
    {content : List Char} (served : workspacePutFile tree session path content = .ok outcome) :
    ∃ target location access, normalizeJoin root path = .ok target ∧
      tree.place target = some location ∧ location ≠ root ∧
      (isLink tree target = false → root <+: location) ∧
      outcome.accesses = [access] ∧ access.locations = [location] ∧
      Done.Framed tree ⟨access, outcome.tree⟩ := by
  obtain ⟨-, -, served⟩ := bind_eq_ok served
  replace served := rest_eq_ok rooted served
  obtain ⟨target, joined, served⟩ := bind_eq_ok served
  obtain ⟨-, -, served⟩ := bind_eq_ok served
  obtain ⟨⟨⟩, parentInside, served⟩ := bind_eq_ok served
  obtain ⟨done, through, served⟩ := bind_eq_ok served
  cases served
  obtain ⟨nonempty, dir, found, below⟩ := parentDirMustBeInWorkspace_ok canonical parentInside
  obtain ⟨location, placed, notDirectory, access, framed⟩ :=
    writeFile_spec (orSystem_eq_ok.mp through)
  refine ⟨target, location, done.access, joined, placed, ?_, ?_, rfl, ?_, framed⟩
  · rintro rfl
    rw [notDirectory] at rootDir
    cases rootDir
  · intro solid
    obtain ⟨names, rfl, normal⟩ := normalizeJoin_ok joined
    obtain rfl | ⟨front, name, rfl⟩ := eq_nil_or_concat names
    · -- The joined path is the root itself, whose parent is not below it.
      have longer := below.length_le
      have shorter := (canonicalize_located canonical).dropLast
      rw [append_nil] at found nonempty
      rw [canonicalize_of_located shorter] at found
      cases found
      rw [length_dropLast] at longer
      have := length_pos_iff.mpr nonempty
      omega
    · rw [concat_eq_append, ← append_assoc] at *
      rw [dropLast_concat] at found
      have named := entry_of_walk found (normal name (by simp)) fun failed => by
        rw [place, failed] at placed
        cases placed
      rw [isLink, named] at solid
      cases (place_of_entry named solid).symm.trans placed
      exact below.trans (prefix_append _ _)
  · obtain created | written := access
    · rw [created]
      rfl
    · rw [written]
      rfl

/-- What an endpoint that takes an entry away knows of it. -/
structure Takes (tree : Tree) (root target location : FilePath) : Prop where
  named : tree.entry target = some location
  under : pathMustBeUnder tree root target = .ok ()

theorem bare_eq_self {path : FilePath} (names : ∀ name ∈ path, name ≠ []) : bare path = path := by
  rw [bare, ← reverse_inj, reverse_reverse]
  cases reversed : path.reverse with
  | nil => rfl
  | cons name rest =>
    have mem : name ∈ path := mem_reverse.mp (reversed ▸ mem_cons_self)
    exact dropWhile_cons_of_neg (by simpa using names name mem)

theorem joined_names (canonical : tree.canonicalize root = some root) {rel : List Char}
    (joined : normalizeJoin root rel = .ok target) : ∀ name ∈ target, name ≠ [] := by
  obtain ⟨names, rfl, normal⟩ := normalizeJoin_ok joined
  intro name mem
  rcases mem_append.mp mem with old | new
  · obtain ⟨front, rest, rfl⟩ := append_of_mem old
    exact (canonicalize_located canonical front name ⟨rest, by simp⟩).1.1.1
  · exact (normal name new).1

section

variable (rooted : getRoot tree session = .ok root)
include rooted

theorem workspaceDelete_ok (canonical : tree.canonicalize root = some root)
    (served : workspaceDelete tree session path = .ok outcome) :
    ∃ target location, normalizeJoin root path = .ok target ∧ Takes tree root target location ∧
      tree.canonicalize target ≠ some root ∧ outcome.accesses = [.remove location] ∧
      Done.Framed tree ⟨.remove location, outcome.tree⟩ := by
  replace served := rest_eq_ok rooted served
  obtain ⟨target, joined, served⟩ := bind_eq_ok served
  obtain ⟨-, -, served⟩ := bind_eq_ok served
  obtain ⟨⟨⟩, under, served⟩ := bind_eq_ok served
  obtain ⟨answer, differs, served⟩ := bind_eq_ok served
  rw [refuseIf_eq_ok, canonical] at differs
  split at served
  · obtain ⟨done, through, served⟩ := bind_eq_ok served
    cases served
    obtain ⟨location, named, -, access, framed⟩ := removeFile_spec (orSystem_eq_ok.mp through)
    exact ⟨target, location, joined, ⟨named, under⟩, differs, congrArg (fun a => [a]) access,
      access ▸ framed⟩
  · split at served
    · split at served
      next done through =>
        cases served
        obtain ⟨framed, ⟨location, named, access, -⟩ | ⟨-, -, -, unfinished⟩⟩ :=
          removeDirAll_spec through
        · rw [bare_eq_self (joined_names canonical joined)] at named
          exact ⟨target, location, joined, ⟨named, under⟩, differs, congrArg (fun a => [a]) access,
            access ▸ framed⟩
        · cases unfinished
      · cases served
    · cases served

theorem workspaceRename_ok {newName : List Char}
    (served : workspaceRename tree session path newName = .ok outcome) :
    ∃ target location dest name, normalizeJoin root path = .ok target ∧
      Takes tree root target location ∧ dest = location.dropLast ++ [name] ∧
      outcome.accesses = [.rename location dest] ∧
      Done.Framed tree ⟨.rename location dest, outcome.tree⟩ := by
  replace served := rest_eq_ok rooted served
  obtain ⟨target, joined, served⟩ := bind_eq_ok served
  obtain ⟨-, -, served⟩ := bind_eq_ok served
  obtain ⟨⟨⟩, under, served⟩ := bind_eq_ok served
  obtain ⟨newName, -, served⟩ := bind_eq_ok served
  split at served
  · cases served
  next dir inFront =>
    obtain ⟨-, -, served⟩ := bind_eq_ok served
    obtain ⟨done, through, served⟩ := bind_eq_ok served
    cases served
    obtain ⟨location, dest, named, newNamed, -, access, framed⟩ :=
      rename_spec (orSystem_eq_ok.mp through)
    refine ⟨target, location, dest, newName, joined, ⟨named, under⟩, ?_,
      congrArg (fun a => [a]) access, access ▸ framed⟩
    obtain ⟨front, last, there, rfl, rfl, found, -⟩ := entry_eq_some.mp named
    obtain ⟨newFront, newLast, newThere, same, rfl, newFound, -⟩ := entry_eq_some.mp newNamed
    obtain ⟨rfl, lastSame⟩ := append_inj' same rfl
    obtain rfl := singleton_inj.mp lastSame
    have frontSame : dir = front := by
      rw [parent, if_neg (concat_ne_nil last front), dropLast_concat] at inFront
      exact (Option.some.inj inFront).symm
    rw [frontSame, found] at newFound
    rw [dropLast_concat, Option.some.inj newFound]

theorem workspaceMove_ok (canonical : tree.canonicalize root = some root)
    (rootDir : tree.isDirectoryAt root = true) {destPath : List Char}
    (served : workspaceMove tree session path destPath = .ok outcome) :
    ∃ target location dest, normalizeJoin root path = .ok target ∧
      Takes tree root target location ∧ tree.canonicalize target ≠ some root ∧
      Within root dest ∧ outcome.accesses = [.rename location dest] ∧
      Done.Framed tree ⟨.rename location dest, outcome.tree⟩ := by
  replace served := rest_eq_ok rooted served
  obtain ⟨source, joined, served⟩ := bind_eq_ok served
  obtain ⟨-, -, served⟩ := bind_eq_ok served
  obtain ⟨⟨⟩, under, served⟩ := bind_eq_ok served
  obtain ⟨destDir, -, served⟩ := bind_eq_ok served
  obtain ⟨-, -, served⟩ := bind_eq_ok served
  obtain ⟨⟨⟩, destUnder, served⟩ := bind_eq_ok served
  split at served
  · cases served
  · obtain ⟨-, -, served⟩ := bind_eq_ok served
    obtain ⟨answer, apart, served⟩ := bind_eq_ok served
    obtain ⟨done, through, served⟩ := bind_eq_ok served
    cases served
    obtain ⟨destThere, destLeads, destBelow⟩ := (pathMustBeUnder_iff canonical).mp destUnder
    obtain ⟨location, dest, named, newNamed, -, access, framed⟩ :=
      rename_spec (orSystem_eq_ok.mp through)
    refine ⟨source, location, dest, joined, ⟨named, under⟩, ?_, ?_,
      congrArg (fun a => [a]) access, access ▸ framed⟩
    · -- The root itself is a dir above every dest.
      intro rootItself
      refine refuseIf_eq_ok.mp apart ⟨isDir_iff.mpr ⟨root, rootItself, rootDir⟩, ?_⟩
      rw [rootItself, destLeads]
      exact destBelow
    · obtain ⟨front, last, there, same, rfl, found, -⟩ := entry_eq_some.mp newNamed
      obtain ⟨rfl, -⟩ := append_inj' same rfl
      cases destLeads.symm.trans found
      exact within_concat destBelow

theorem workspaceGitRevertLines_ok {originalLines : List Char} {startLine endLine : Nat}
    (served : workspaceGitRevertLines tree session path startLine endLine originalLines =
      .ok outcome) :
    ∃ target location access, normalizeJoin root (trimPath path) = .ok target ∧
      tree.canonicalize target = some location ∧ tree.isDirectoryAt location = false ∧
      outcome.accesses = [.read location, access] ∧ access.locations = [location] ∧
      Done.Framed tree ⟨access, outcome.tree⟩ := by
  replace served := rest_eq_ok rooted served
  obtain ⟨-, -, served⟩ := bind_eq_ok served
  obtain ⟨target, joined, served⟩ := bind_eq_ok served
  obtain ⟨⟨location, bytes⟩, read, served⟩ := bind_eq_ok served
  obtain ⟨cur, -, served⟩ := bind_eq_ok served
  split at served
  · cases served
  · obtain ⟨done, through, served⟩ := bind_eq_ok served
    cases served
    obtain ⟨leads, notDirectory⟩ := readFile_spec (orSystem_eq_ok.mp read)
    obtain ⟨there, placed, -, access, framed⟩ := writeFile_spec (orSystem_eq_ok.mp through)
    cases (place_of_canonicalize leads).symm.trans placed
    refine ⟨target, location, done.access, joined, leads, notDirectory, rfl, ?_, framed⟩
    obtain created | written := access
    · rw [created]
      rfl
    · rw [written]
      rfl

end

/-! ### Confinement -/

theorem keepsInside_iff (request : Request)
    (joined : normalizeJoin root request.joinedText = .ok target) :
    KeepsInside tree root request ↔ Keeps tree root target request := by
  constructor
  · exact fun keeps => keeps target joined
  · intro keeps other otherJoined
    cases joined.symm.trans otherJoined
    exact keeps

section

variable (rooted : getRoot tree session = .ok root) (canonical : tree.canonicalize root = some root)
  (rootDir : tree.isDirectoryAt root = true)
include rooted canonical rootDir

theorem confined_putFile_iff {content : List Char}
    (served : workspacePutFile tree session path content = .ok outcome) :
    Confined tree root outcome ↔ KeepsInside tree root (.putFile path content) := by
  obtain ⟨target, location, access, joined, placed, differs, plain, accesses, held, framed⟩ :=
    workspacePutFile_ok rooted canonical rootDir served
  rw [keepsInside_iff (.putFile path content) joined]
  constructor
  · intro confined _
    exact ⟨location, placed, confined.inside access (by simp [accesses]) location (by simp [held])⟩
  · intro keeps
    have below : root <+: location := by
      cases link : isLink tree target with
      | false => exact plain link
      | true =>
        obtain ⟨there, thereplaced, holds⟩ := keeps link
        cases placed.symm.trans thereplaced
        exact holds
    refine confined_of_within rootDir framed (fun other mem => .inl ?_) fun other mem => ?_
    · simpa [accesses] using mem
    · rw [held] at mem
      obtain rfl := mem_singleton.mp mem
      exact ⟨below, differs⟩

theorem confined_delete_iff (served : workspaceDelete tree session path = .ok outcome) :
    Confined tree root outcome ↔ KeepsInside tree root (.delete path) := by
  obtain ⟨target, location, joined, ⟨named, under⟩, differs, accesses, framed⟩ :=
    workspaceDelete_ok rooted canonical served
  rw [keepsInside_iff (.delete path) joined]
  constructor
  · intro confined
    exact linkKept_of_within canonical named
      (confined.within_of_takes (.remove location) (by simp [accesses]) rfl)
  · intro keeps
    have within := within_of_linkKept canonical named under keeps fun same => absurd same differs
    refine confined_of_within rootDir framed (fun other mem => .inl ?_) fun other mem => ?_
    · simpa [accesses] using mem
    · obtain rfl := mem_singleton.mp mem
      exact within

theorem confined_rename_iff {newName : List Char}
    (served : workspaceRename tree session path newName = .ok outcome) :
    Confined tree root outcome ↔ KeepsInside tree root (.rename path newName) := by
  obtain ⟨target, location, dest, name, joined, ⟨named, under⟩, moved, accesses, framed⟩ :=
    workspaceRename_ok rooted served
  rw [keepsInside_iff (.rename path newName) joined]
  constructor
  · intro confined
    have within : Within root location :=
      confined.within_of_takes (.rename location dest) (by simp [accesses]) rfl
    refine ⟨linkKept_of_within canonical named within, fun rootItself => ?_⟩
    rw [isLink, named]
    by_contra solid
    rw [Bool.not_eq_true] at solid
    exact within.2 (eq_entry_of_canonicalize named solid rootItself).symm
  · rintro ⟨kept, apart⟩
    have within := within_of_linkKept canonical named under kept apart
    refine confined_of_within rootDir framed (fun other mem => .inl ?_) fun other mem => ?_
    · simpa [accesses] using mem
    · rcases mem_cons.mp mem with rfl | mem
      · exact within
      · obtain rfl := mem_singleton.mp mem
        obtain ⟨front, last, dir, -, rfl, -⟩ := entry_eq_some.mp named
        rw [moved, dropLast_concat]
        exact within_concat (prefix_of_within within)

theorem confined_move_iff {dest : List Char}
    (served : workspaceMove tree session path dest = .ok outcome) :
    Confined tree root outcome ↔ KeepsInside tree root (.move path dest) := by
  obtain ⟨target, location, destination, joined, ⟨named, under⟩, differs, inside, accesses,
    framed⟩ := workspaceMove_ok rooted canonical rootDir served
  rw [keepsInside_iff (.move path dest) joined]
  constructor
  · intro confined
    exact linkKept_of_within canonical named
      (confined.within_of_takes (.rename location destination) (by simp [accesses]) rfl)
  · intro keeps
    have within := within_of_linkKept canonical named under keeps fun same => absurd same differs
    refine confined_of_within rootDir framed (fun other mem => .inl ?_) fun other mem => ?_
    · simpa [accesses] using mem
    · rcases mem_cons.mp mem with rfl | mem
      · exact within
      · obtain rfl := mem_singleton.mp mem
        exact inside

theorem confined_gitRevertLines_iff {originalLines : List Char} {startLine endLine : Nat}
    (served : workspaceGitRevertLines tree session path startLine endLine originalLines =
      .ok outcome) :
    Confined tree root outcome ↔
      KeepsInside tree root (.gitRevertLines path startLine endLine originalLines) := by
  obtain ⟨target, location, access, joined, leads, notDirectory, accesses, held, framed⟩ :=
    workspaceGitRevertLines_ok rooted served
  rw [keepsInside_iff (.gitRevertLines path startLine endLine originalLines) joined]
  constructor
  · intro confined
    refine (pathMustBeUnder_iff canonical).mpr ⟨location, leads, ?_⟩
    exact confined.inside (.read location) (by simp [accesses]) location
      (mem_singleton_self _)
  · intro under
    obtain ⟨there, thereLeads, below⟩ := (pathMustBeUnder_iff canonical).mp under
    cases leads.symm.trans thereLeads
    refine confined_of_within rootDir framed (fun other mem => ?_) fun other mem => ?_
    · rw [accesses] at mem
      rcases mem_cons.mp mem with rfl | mem
      · exact .inr ⟨location, rfl, below⟩
      · exact .inl (mem_singleton.mp mem)
    · rw [held] at mem
      obtain rfl := mem_singleton.mp mem
      refine ⟨below, ?_⟩
      rintro rfl
      rw [notDirectory] at rootDir
      cases rootDir

end

/-- A served request keeps to the root of its pane exactly when its condition holds. -/
theorem workspace_confined (mimeGuess : FilePath → String) (tree : Tree)
    (session : Option Session) (root : FilePath) (rooted : getRoot tree session = .ok root)
    (canonical : tree.canonicalize root = some root) (rootDir : tree.isDirectoryAt root = true)
    (request : Request) (outcome : Outcome)
    (served : serve mimeGuess tree session request = .ok outcome) :
    Confined tree root outcome ↔ KeepsInside tree root request := by
  cases request with
  | info path =>
    exact iff_of_true ((workspaceMeta_ok rooted canonical served).confined rootDir)
      fun _ _ => trivial
  | raw path rangeHeader =>
    exact iff_of_true ((workspaceRaw_ok rooted canonical served).confined rootDir) fun _ _ => trivial
  | create parentPath kind name =>
    obtain ⟨location, within, accesses, framed⟩ := workspaceCreateEntry_ok rooted canonical served
    refine iff_of_true ?_ fun _ _ => trivial
    refine confined_of_within rootDir framed (fun other member => .inl ?_) fun other member => ?_
    · simpa [accesses] using member
    · obtain rfl := mem_singleton.mp member
      exact within
  | putFile path content => exact confined_putFile_iff rooted canonical rootDir served
  | delete path => exact confined_delete_iff rooted canonical rootDir served
  | rename path newName => exact confined_rename_iff rooted canonical rootDir served
  | move path dest => exact confined_move_iff rooted canonical rootDir served
  | gitRevertLines path startLine endLine originalLines =>
    exact confined_gitRevertLines_iff rooted canonical rootDir served

/-! ### Instances -/

/-- A tree with a root `w` that holds a file, a link to a directory outside and a dangling link;
outside is a link back into the root. -/
def sampleTree : Tree where
  nodes := [(⟨[['w']], .directory⟩ : Sigma fun _ : FilePath => FileNode Bytes),
    ⟨[['w'], ['a']], .file [120, 10]⟩,
    ⟨[['w'], ['d']], .link ['/', 'o']⟩,
    ⟨[['w'], ['n']], .link ['/', 'o', '/', 'n']⟩,
    ⟨[['o']], .directory⟩,
    ⟨[['o'], ['f']], .file [121, 10]⟩,
    ⟨[['o'], ['b']], .link ['.', '.', '/', 'w', '/', 'a']⟩].toAList

def sampleSession : Option Session := some ⟨some [['w']]⟩

def sampleServe (request : Request) : Except Failure Outcome :=
  serve (fun _ => "text/plain") sampleTree sampleSession request

theorem exists_of_accesses {answer : Except Failure Outcome} {accesses : List Access}
    (made : answer.map Outcome.accesses = .ok accesses) :
    ∃ outcome, answer = .ok outcome ∧ outcome.accesses = accesses := by
  cases answer with
  | error failure => cases made
  | ok outcome => exact ⟨outcome, rfl, Except.ok.inj made⟩

theorem workspace_confined_sample : ∃ outcome, sampleServe (.putFile ['a'] ['y']) = .ok outcome ∧
      Confined sampleTree [['w']] outcome := by
  have made : (sampleServe (.putFile ['a'] ['y'])).map Outcome.accesses =
      .ok [.write [['w'], ['a']]] := by decide +kernel
  obtain ⟨outcome, served, -⟩ := exists_of_accesses made
  refine ⟨outcome, served, (workspace_confined (fun _ => "text/plain") sampleTree sampleSession
    [['w']] (by decide +kernel) (by decide +kernel) (by decide +kernel) _ outcome served).mpr ?_⟩
  have joined : normalizeJoin [['w']] ['a'] = .ok [['w'], ['a']] := by decide +kernel
  refine (keepsInside_iff (.putFile ['a'] ['y']) joined).mpr fun link => ?_
  have plain : isLink sampleTree [['w'], ['a']] = false := by decide +kernel
  rw [plain] at link
  cases link

/-- A request is served and leaves the root of the sample. -/
def Escapes (request : Request) : Prop :=
  ∃ outcome, sampleServe request = .ok outcome ∧ ¬ Confined sampleTree [['w']] outcome

theorem escapes_of_accesses {request : Request} (accesses : List Access)
    (made : (sampleServe request).map Outcome.accesses = .ok accesses)
    (outside : ¬ ∀ access ∈ accesses, ∀ location ∈ access.locations, [['w']] <+: location) :
    Escapes request := by
  obtain ⟨outcome, served, rfl⟩ := exists_of_accesses made
  exact ⟨outcome, served, fun confined => outside confined.inside⟩

/-- Writing through a dangling link, renaming the root, removing and moving a link outside that
leads back in, and taking back lines of a file outside. -/
theorem workspace_escapes : getRoot sampleTree sampleSession = .ok [['w']] ∧
      sampleTree.canonicalize [['w']] = some [['w']] ∧ sampleTree.isDirectoryAt [['w']] = true ∧
      Escapes (.putFile ['n'] ['y']) ∧ Escapes (.rename ['/'] ['v']) ∧
      Escapes (.delete ['d', '/', 'b']) ∧ Escapes (.move ['d', '/', 'b'] []) ∧
      Escapes (.gitRevertLines ['d', '/', 'f'] 1 1 ['z']) := by
  refine ⟨by decide +kernel, by decide +kernel, by decide +kernel, ?_, ?_, ?_, ?_, ?_⟩
  · exact escapes_of_accesses [.create [['o'], ['n']]] (by decide +kernel)
      (by decide +kernel)
  · exact escapes_of_accesses [.rename [['w']] [['v']]] (by decide +kernel)
      (by decide +kernel)
  · exact escapes_of_accesses [.remove [['o'], ['b']]] (by decide +kernel)
      (by decide +kernel)
  · exact escapes_of_accesses [.rename [['o'], ['b']] [['w'], ['b']]]
      (by decide +kernel) (by decide +kernel)
  · exact escapes_of_accesses [.read [['o'], ['f']], .write [['o'], ['f']]]
      (by decide +kernel) (by decide +kernel)

end Dinotty.Workspace
