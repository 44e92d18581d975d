/-
This file is the store of the layout templates: a file for each template, and an index beside them
in each directory. Damage to an index that makes it unreadable is repaired by scanning the
directory, but an index that has gone counts as empty.
-/

import Dinotty.Foundation.Directories
import Dinotty.Foundation.Json
import Dinotty.Foundation.Runs

namespace Dinotty.Templates

open List Option KeyMap FileTree

/-! ### Templates -/

inductive TemplateScope where
  | workspace
  | global
  deriving DecidableEq

structure Template where
  id : List Char
  name : String
  scope : TemplateScope
  workspaceId : Option (List Char) := none
  createdAt : String
  updatedAt : String
  layout : Json
  deriving DecidableEq

structure TemplateIndexEntry where
  id : List Char
  name : String
  scope : TemplateScope
  workspaceId : Option (List Char) := none
  updatedAt : String
  deriving DecidableEq

abbrev TemplateIndex := List TemplateIndexEntry

inductive Document where
  | template (template : Template)
  | index (templates : TemplateIndex)
  | garbage
  deriving DecidableEq

abbrev Disk := FileTree Document

/-- The order in which a directory lists its entries. -/
structure DirectoryOrder where
  arrange : List FileName → List FileName
  perm : ∀ names, (arrange names).Perm names

/-! ### Paths -/

/-- The directory of a scope. A workspace without a name has one, too. -/
def scopeDir (baseDir : FilePath) (scope : TemplateScope) (workspaceId : Option (List Char)) :
    FilePath :=
  match scope with
  | .global => FileTree.join baseDir "global".toList
  | .workspace =>
      FileTree.join (FileTree.join baseDir "workspaces".toList)
        ((workspaceId.filter (· ≠ [])).getD "orphaned".toList)

def fileName (id : List Char) : FileName := id ++ ".json".toList

def templatePath (baseDir : FilePath) (scope : TemplateScope) (workspaceId : Option (List Char))
    (id : List Char) : FilePath :=
  FileTree.join (scopeDir baseDir scope workspaceId) (fileName id)

def indexName : FileName := "index.json".toList

def indexPath (baseDir : FilePath) (scope : TemplateScope) (workspaceId : Option (List Char)) :
    FilePath :=
  FileTree.join (scopeDir baseDir scope workspaceId) indexName

/-- A path without its last name, and without the segments before it that name nothing. -/
def parent (path : FilePath) : FilePath :=
  (path.dropLast.reverse.dropWhile fun name => name = [] ∨ name = FileTree.currentName).reverse

/-- The extension of a name is `json`. A name that starts with its only dot has none. -/
def hasJsonExtension (name : FileName) : Bool :=
  ".json".toList <:+ name ∧ name ≠ ".json".toList

/-! ### The store -/

/-- Write a file next to the path and give it the path. An entry in its place goes, unless it is a
directory. -/
def atomicWrite (disk : Disk) (path : FilePath) (document : Document) : Disk × Bool :=
  match disk.createDirAll (parent path) with
  | (_, made, false) => (made, false)
  | (_, made, true) =>
      match made.entry path with
      | none => (made, false)
      | some location =>
          if made.isDirectoryAt location then (made, false)
          else (made.put location (.file document), true)

def isMissing (disk : Disk) (path : FilePath) : Bool :=
  match disk.walk disk.linkLimit [] path with
  | .absent _ _ => true
  | _ => false

def readTemplate (disk : Disk) (path : FilePath) : Option Template :=
  match disk.readFile path with
  | some (_, .template template) => some template
  | _ => none

def entryOf (template : Template) : TemplateIndexEntry where
  id := template.id
  name := template.name
  scope := template.scope
  workspaceId := template.workspaceId
  updatedAt := template.updatedAt

def newer (first second : TemplateIndexEntry) : Bool := second.updatedAt ≤ first.updatedAt

/-- The entry that a file of a directory gives to its index. -/
def scan (disk : Disk) (dir : FilePath) (name : FileName) : Option TemplateIndexEntry :=
  if hasJsonExtension name ∧ name ≠ indexName then
    (readTemplate disk (dir ++ [name])).map entryOf
  else none

variable (baseDir : FilePath)

def rebuildIndex (disk : Disk) (order : DirectoryOrder) (scope : TemplateScope)
    (workspaceId : Option (List Char)) : Disk × TemplateIndex :=
  let dir := scopeDir baseDir scope workspaceId
  match disk.readDir dir with
  | none => (disk, [])
  | some (_, names) =>
      let templates := ((order.arrange names).filterMap (scan disk dir)).mergeSort newer
      ((atomicWrite disk (indexPath baseDir scope workspaceId) (.index templates)).1, templates)

/-- An index that is not there is empty, and one that cannot be read is made again. -/
def loadIndex (disk : Disk) (order : DirectoryOrder) (scope : TemplateScope)
    (workspaceId : Option (List Char)) : Disk × TemplateIndex :=
  let path := indexPath baseDir scope workspaceId
  if isMissing disk path then (disk, [])
  else
    match disk.readFile path with
    | some (_, .index templates) => (disk, templates)
    | _ => rebuildIndex baseDir disk order scope workspaceId

/-- Put an entry in the place of the one with its id, or else behind all. -/
def upsert (entry : TemplateIndexEntry) : TemplateIndex → TemplateIndex
  | [] => [entry]
  | first :: rest => if first.id = entry.id then entry :: rest else first :: upsert entry rest

/-- Save a template. The answer tells whether that succeeds. -/
def save (disk : Disk) (order : DirectoryOrder) (template : Template) : Disk × Bool :=
  let path := templatePath baseDir template.scope template.workspaceId template.id
  match atomicWrite disk path (.template template) with
  | (written, false) => (written, false)
  | (written, true) =>
      let (loaded, templates) := loadIndex baseDir written order template.scope template.workspaceId
      atomicWrite loaded (indexPath baseDir template.scope template.workspaceId)
        (.index ((upsert (entryOf template) templates).mergeSort newer))

def load (disk : Disk) (scope : TemplateScope) (workspaceId : Option (List Char))
    (id : List Char) : Option Template :=
  readTemplate disk (templatePath baseDir scope workspaceId id)

/-- The templates of a scope. An entry whose file cannot be read is skipped. -/
def list (disk : Disk) (order : DirectoryOrder) (scope : TemplateScope)
    (workspaceId : Option (List Char)) : Disk × List Template :=
  let (loaded, templates) := loadIndex baseDir disk order scope workspaceId
  (loaded, templates.filterMap fun entry => load baseDir loaded scope workspaceId entry.id)

def delete (disk : Disk) (order : DirectoryOrder) (scope : TemplateScope)
    (workspaceId : Option (List Char)) (id : List Char) : Disk × Bool :=
  match disk.removeFile (templatePath baseDir scope workspaceId id) with
  | none => (disk, false)
  | some done =>
      let (loaded, templates) := loadIndex baseDir done.tree order scope workspaceId
      let left := templates.filter fun entry => entry.id ≠ id
      if left.length ≠ templates.length then
        atomicWrite loaded (indexPath baseDir scope workspaceId) (.index left)
      else (loaded, true)

/-! ### Plain names -/

def PlainName (name : FileName) : Prop := FileTree.IsEntryName name ∧ '/' ∉ name

/-- An id that makes the name of a file of its own, other than the index. -/
def PlainId (id : List Char) : Prop :=
  id ≠ [] ∧ id ≠ "index".toList ∧ '/' ∉ id ∧ '\x00' ∉ id

inductive Place where
  | global
  | workspace (id : List Char)
  deriving DecidableEq

namespace Place

def of (scope : TemplateScope) (workspaceId : Option (List Char)) : Place :=
  match scope with
  | .global => .global
  | .workspace => .workspace (workspaceId.getD [])

def Plain : Place → Prop
  | .global => True
  | .workspace id => PlainName id

def dir : Place → FilePath
  | .global => baseDir ++ ["global".toList]
  | .workspace id => baseDir ++ ["workspaces".toList, id]

end Place

variable {baseDir} {disk : Disk} {place other : Place} {name another : FileName}

variable {scope : TemplateScope} {workspaceId : Option (List Char)}

theorem scopeDir_plain (plain : (Place.of scope workspaceId).Plain) :
    scopeDir baseDir scope workspaceId = (Place.of scope workspaceId).dir baseDir := by
  cases scope with
  | global => exact join_plain (by decide)
  | workspace =>
    have names : PlainName (workspaceId.getD []) := plain
    cases workspaceId with
    | none => exact absurd rfl names.1.1.1
    | some id =>
      have filled : (some id).filter (· ≠ []) = some id := by
        rw [filter_some, if_pos (by simpa using names.1.1.1)]
      have apart : '/' ∉ id := names.2
      rw [scopeDir, filled, getD_some, join_plain apart, join_plain (by decide), append_assoc]
      rfl

theorem dir_eq_concat (place : Place) (plain : place.Plain) :
    ∃ front last, place.dir baseDir = front ++ [last] ∧ IsEntryName last := by
  cases place with
  | global => exact ⟨_, _, rfl, by decide, by decide⟩
  | workspace id =>
    exact ⟨baseDir ++ ["workspaces".toList], id, by simp [Place.dir], plain.1⟩

theorem parent_dir (plain : place.Plain) (name : FileName) :
    parent (place.dir baseDir ++ [name]) = place.dir baseDir := by
  obtain ⟨front, last, same, normal, -⟩ := @dir_eq_concat baseDir place plain
  have kept : ¬ (last = [] ∨ last = currentName) := not_or.mpr ⟨normal.1, normal.2.1⟩
  rw [parent, dropLast_concat, same, reverse_append, reverse_singleton,
    singleton_append, dropWhile_cons_of_neg (by simpa using kept)]
  simp

theorem dir_concat_front (below : place.dir baseDir ++ [name] <+: other.dir baseDir ++ [another]) :
    place = other ∧ name = another := by
  cases place with
  | global =>
    cases other with
    | global =>
      have same := below.eq_of_length (by simp [Place.dir])
      exact ⟨rfl, singleton_inj.mp (append_cancel_left same)⟩
    | workspace id =>
      simp only [Place.dir, append_assoc, prefix_append_right_inj] at below
      exact absurd (cons_prefix_cons.mp below).1 (by decide)
  | workspace id =>
    cases other with
    | global =>
      have long := below.length_le
      simp [Place.dir] at long
    | workspace id' =>
      have same := below.eq_of_length (by simp [Place.dir])
      simp [Place.dir] at same
      exact ⟨congrArg _ same.1, same.2⟩

theorem dir_concat_not_prefix : ¬ place.dir baseDir ++ [name] <+: other.dir baseDir := by
  intro below
  obtain ⟨rfl, same⟩ := dir_concat_front (below.trans (prefix_append _ [name]))
  have long := below.length_le
  rw [length_append, length_singleton] at long
  exact Nat.not_succ_le_self _ long

theorem isEntryName_fileName {id : List Char} (plain : PlainId id) : IsEntryName (fileName id) := by
  obtain ⟨nonempty, -, -, whole⟩ := plain
  refine ⟨⟨?_, ?_, ?_⟩, ?_⟩
  · simp [fileName]
  · intro same
    have long := congrArg length same
    simp [fileName, currentName] at long
  · intro same
    have long := congrArg length same
    simp [fileName, parentName] at long
  · simp [fileName, whole]

theorem fileName_inj {first second : List Char} (same : fileName first = fileName second) :
    first = second := append_cancel_right same

theorem fileName_ne_index {id : List Char} (plain : PlainId id) : fileName id ≠ indexName :=
  fun same => plain.2.1 (fileName_inj same)

theorem hasJsonExtension_fileName {id : List Char} (plain : PlainId id) :
    hasJsonExtension (fileName id) = true := by
  have noId : fileName [] = ".json".toList := rfl
  exact decide_eq_true ⟨suffix_append id _, fun same =>
    plain.1 (fileName_inj (same.trans noId.symm))⟩

/-! ### What the directories hold -/

/-- The document under a name in the directory of a place. -/
def contents (baseDir : FilePath) (disk : Disk) (place : Place) (name : FileName) :
    Option Document :=
  match disk.node (place.dir baseDir ++ [name]) with
  | some (.file document) => some document
  | _ => none

/-- The directories are directories, as far as they are there, and hold files only. -/
structure Ready (baseDir : FilePath) (disk : Disk) : Prop where
  passable : ∀ place : Place, place.Plain → FileTree.Passable disk (place.dir baseDir)
  inside : ∀ place : Place, place.Plain → ∀ name, (disk.node (place.dir baseDir ++ [name])).isSome →
    disk.isDirectoryAt (place.dir baseDir) = true
  node : ∀ place : Place, place.Plain → ∀ name,
    disk.node (place.dir baseDir ++ [name]) = (contents baseDir disk place name).map .file

theorem contents_of_node {document : Option Document}
    (there : disk.node (place.dir baseDir ++ [name]) = document.map .file) :
    contents baseDir disk place name = document := by
  rw [contents, there]
  cases document <;> rfl

section

variable (ready : Ready baseDir disk) (plain : place.Plain)
include ready plain

theorem Ready.not_directory : disk.isDirectoryAt (place.dir baseDir ++ [name]) = false := by
  rw [isDirectoryAt, ready.node place plain name]
  cases contents baseDir disk place name <;> rfl

theorem Ready.not_link : disk.isLinkAt (place.dir baseDir ++ [name]) = false := by
  rw [isLinkAt, ready.node place plain name]
  cases contents baseDir disk place name <;> rfl

theorem Ready.directory {document : Document}
    (there : contents baseDir disk place name = some document) :
    disk.isDirectoryAt (place.dir baseDir) = true :=
  ready.inside place plain name (by rw [ready.node place plain name, there]; rfl)

section

variable (entryName : FileTree.IsEntryName name)
include entryName

theorem Ready.readFile : disk.readFile (place.dir baseDir ++ [name]) =
      (contents baseDir disk place name).map fun document =>
        (place.dir baseDir ++ [name], document) := by
  rw [FileTree.readFile,
    (ready.passable place plain).metadata_concat entryName (ready.not_link plain),
    ready.node place plain name]
  cases there : contents baseDir disk place name with
  | none => split <;> rfl
  | some document =>
    rw [if_pos (ready.directory plain there)]
    rfl

theorem Ready.readTemplate : readTemplate disk (place.dir baseDir ++ [name]) =
      match contents baseDir disk place name with
      | some (.template template) => some template
      | _ => none := by
  rw [Templates.readTemplate, ready.readFile plain entryName]
  rcases contents baseDir disk place name with _ | _ | _ | _ <;> rfl

theorem Ready.atomicWrite (document : Document) :
    ∃ written, atomicWrite disk (place.dir baseDir ++ [name]) document = (written, true) ∧
      Ready baseDir written ∧
      ∀ other another, other.Plain → contents baseDir written other another =
        if other = place ∧ another = name then some document
        else contents baseDir disk other another := by
  obtain ⟨accesses, made, makes, nodes⟩ := (ready.passable place plain).createDirAll
  have made_dir : made.isDirectoryAt (place.dir baseDir) = true :=
    isDirectoryAt_iff.mpr (by rw [nodes, if_pos prefix_rfl])
  have passable_made : Passable made (place.dir baseDir) := fun front last below => by
    have above := (prefix_append front [last]).trans below
    refine ⟨(ready.passable place plain front last below).1, .inr ⟨?_, ?_⟩⟩
    · rw [nodes, if_pos below]
    · exact isDirectoryAt_iff.mpr (by rw [nodes, if_pos above])
  have made_node : made.node (place.dir baseDir ++ [name]) =
      disk.node (place.dir baseDir ++ [name]) := by
    rw [nodes, if_neg dir_concat_not_prefix]
  have not_directory : made.isDirectoryAt (place.dir baseDir ++ [name]) = false := by
    rw [isDirectoryAt, made_node]
    exact ready.not_directory plain
  have written_nodes (location : FilePath) :
      (made.put (place.dir baseDir ++ [name]) (.file document)).node location =
        if location = place.dir baseDir ++ [name] then some (.file document)
        else made.node location := node_put (concat_ne_nil _ _) _ _
  refine ⟨made.put (place.dir baseDir ++ [name]) (.file document), ?_, ?_⟩
  · rw [Templates.atomicWrite, parent_dir plain, makes]
    simp only
    rw [passable_made.entry_concat entryName, if_pos made_dir]
    simp only
    rw [if_neg (by rw [not_directory]; simp)]
  generalize made.put (place.dir baseDir ++ [name]) (.file document) = written at written_nodes
  -- What is a directory stays one.
  have stays {location : FilePath} (apart : location ≠ place.dir baseDir ++ [name])
      (directory : location <+: place.dir baseDir ∨ disk.isDirectoryAt location = true) :
      written.isDirectoryAt location = true := by
    refine isDirectoryAt_iff.mpr ?_
    rw [written_nodes, if_neg apart, nodes]
    split
    · rfl
    next beside =>
      exact isDirectoryAt_iff.mp (directory.resolve_left beside)
  have node (other : Place) (another : FileName) (plainOther : other.Plain) :
      written.node (other.dir baseDir ++ [another]) =
        (if other = place ∧ another = name then some document
          else contents baseDir disk other another).map .file := by
    rw [written_nodes]
    by_cases here : other = place ∧ another = name
    · rw [here.1, here.2, if_pos rfl, if_pos ⟨rfl, rfl⟩]
      rfl
    · rw [if_neg here, if_neg, nodes, if_neg dir_concat_not_prefix, ready.node other plainOther]
      intro same
      exact here (dir_concat_front ⟨[], by rw [append_nil, same]⟩)
  have holds (other : Place) (another : FileName) (plainOther : other.Plain) :=
    contents_of_node (node other another plainOther)
  refine ⟨⟨fun other plainOther front last below => ?_, fun other plainOther another present => ?_,
    fun other plainOther another => ?_⟩, fun other another => holds other another⟩
  · have apart : front ++ [last] ≠ place.dir baseDir ++ [name] := fun same =>
      dir_concat_not_prefix (same ▸ below)
    have above := (prefix_append front [last]).trans below
    have frontApart : front ≠ place.dir baseDir ++ [name] := fun same =>
      dir_concat_not_prefix (same ▸ above)
    obtain ⟨entryLast, found⟩ := ready.passable other plainOther front last below
    refine ⟨entryLast, ?_⟩
    rw [written_nodes, if_neg apart, nodes]
    by_cases inDir : front ++ [last] <+: place.dir baseDir
    · rw [if_pos inDir]
      exact .inr ⟨rfl, stays frontApart (.inl ((prefix_append front [last]).trans inDir))⟩
    · rw [if_neg inDir]
      exact found.imp_right fun both => ⟨both.1, stays frontApart (.inr both.2)⟩
  · have dirApart : other.dir baseDir ≠ place.dir baseDir ++ [name] := fun same =>
      dir_concat_not_prefix ⟨[], by rw [append_nil]; exact same.symm⟩
    refine stays dirApart ?_
    rw [node other another plainOther] at present
    by_cases here : other = place ∧ another = name
    · exact .inl (here.1 ▸ prefix_rfl)
    · rw [if_neg here] at present
      obtain ⟨held, there⟩ := isSome_iff_exists.mp present
      obtain ⟨document, old, -⟩ := map_eq_some_iff.mp there
      exact .inr (ready.directory plainOther old)
  · rw [holds other another plainOther, node other another plainOther]

theorem Ready.removeFile : match contents baseDir disk place name with
    | none => disk.removeFile (place.dir baseDir ++ [name]) = none
    | some _ =>
        ∃ done, disk.removeFile (place.dir baseDir ++ [name]) = some done ∧
          Ready baseDir done.tree ∧
          ∀ other another, other.Plain → contents baseDir done.tree other another =
            if other = place ∧ another = name then none
            else contents baseDir disk other another := by
  have named := (ready.passable place plain).entry_concat entryName
  have found := ready.node place plain name
  cases there : contents baseDir disk place name with
  | none =>
    rw [there] at found
    dsimp only
    rw [FileTree.removeFile, named]
    split
    · simp [found]
    · rfl
  | some document =>
    rw [there] at found
    dsimp only
    rw [if_pos (ready.directory plain there)] at named
    refine ⟨⟨.remove (place.dir baseDir ++ [name]),
      disk.prune (place.dir baseDir ++ [name] <+: ·)⟩, ?_, ?_⟩
    · rw [FileTree.removeFile, named]
      simp [found]
    dsimp only
    have kept {location : FilePath} (apart : ¬ place.dir baseDir ++ [name] <+: location) :
        (disk.prune (place.dir baseDir ++ [name] <+: ·)).node location = disk.node location :=
      node_prune _ (decide_eq_false apart)
    have gone : (disk.prune (place.dir baseDir ++ [name] <+: ·)).node
        (place.dir baseDir ++ [name]) = none := by
      rw [FileTree.node, if_neg (concat_ne_nil _ _), FileTree.prune, lookup_retain]
      simp
    generalize disk.prune (place.dir baseDir ++ [name] <+: ·) = left at kept gone
    have node (other : Place) (another : FileName) (plainOther : other.Plain) :
        left.node (other.dir baseDir ++ [another]) =
          (if other = place ∧ another = name then none
            else contents baseDir disk other another).map .file := by
      by_cases here : other = place ∧ another = name
      · rw [here.1, here.2, if_pos ⟨rfl, rfl⟩, gone]
        rfl
      · rw [if_neg here, kept, ready.node other plainOther]
        intro below
        obtain ⟨samePlace, sameName⟩ := dir_concat_front below
        exact here ⟨samePlace.symm, sameName.symm⟩
    have holds (other : Place) (another : FileName) (plainOther : other.Plain) :=
      contents_of_node (node other another plainOther)
    have directory (other : Place) {front : FilePath} (above : front <+: other.dir baseDir) :
        left.isDirectoryAt front = disk.isDirectoryAt front := by
      rw [isDirectoryAt, kept fun below => dir_concat_not_prefix (below.trans above)]
      rfl
    refine ⟨⟨fun other plainOther front last below => ?_,
      fun other plainOther another present => ?_, fun other plainOther another => ?_⟩,
      fun other another => holds other another⟩
    · have above := (prefix_append front [last]).trans below
      rw [kept fun further => dir_concat_not_prefix (further.trans below), directory other above]
      exact ready.passable other plainOther front last below
    · rw [directory other prefix_rfl]
      rw [node other another plainOther] at present
      by_cases here : other = place ∧ another = name
      · rw [if_pos here] at present
        cases present
      · rw [if_neg here] at present
        obtain ⟨held, there⟩ := isSome_iff_exists.mp present
        obtain ⟨document, old, -⟩ := map_eq_some_iff.mp there
        exact ready.directory plainOther old
    · rw [holds other another plainOther, node other another plainOther]

end

end

/-! ### Loading an index -/

theorem isEntryName_index : IsEntryName indexName := by
  refine ⟨⟨?_, ?_, ?_⟩, ?_⟩ <;> decide

theorem indexPath_plain (plain : (Place.of scope workspaceId).Plain) :
    indexPath baseDir scope workspaceId =
      (Place.of scope workspaceId).dir baseDir ++ [indexName] := by
  rw [indexPath, scopeDir_plain plain, join_plain (by decide)]

theorem templatePath_plain {id : List Char} (plain : (Place.of scope workspaceId).Plain)
    (plainId : PlainId id) :
    templatePath baseDir scope workspaceId id =
      (Place.of scope workspaceId).dir baseDir ++ [fileName id] := by
  rw [templatePath, scopeDir_plain plain, join_plain]
  simp [fileName, plainId.2.2.1]

theorem Ready.isMissing (ready : Ready baseDir disk) (plain : place.Plain)
    (entryName : IsEntryName name)
    (directory : disk.isDirectoryAt (place.dir baseDir) = true) :
    isMissing disk (place.dir baseDir ++ [name]) = (contents baseDir disk place name).isNone := by
  have named := (ready.passable place plain).entry_concat entryName
  rw [if_pos directory] at named
  rw [Templates.isMissing, walk_of_entry named (ready.not_link plain), ready.node place plain name]
  cases contents baseDir disk place name <;> rfl

theorem Ready.loadIndex (ready : Ready baseDir disk) (order : DirectoryOrder)
    (plain : (Place.of scope workspaceId).Plain) :
    loadIndex baseDir disk order scope workspaceId =
      match contents baseDir disk (Place.of scope workspaceId) indexName with
      | none => (disk, [])
      | some (.index templates) => (disk, templates)
      | some _ => rebuildIndex baseDir disk order scope workspaceId := by
  rw [Templates.loadIndex, indexPath_plain plain, ready.readFile plain isEntryName_index]
  cases there : contents baseDir disk (Place.of scope workspaceId) indexName with
  | none =>
    by_cases directory : disk.isDirectoryAt ((Place.of scope workspaceId).dir baseDir) = true
    · rw [ready.isMissing plain isEntryName_index directory, there]
      rfl
    · have unreadable : disk.readDir ((Place.of scope workspaceId).dir baseDir) = none := by
        rw [FileTree.readDir, (ready.passable _ plain).canonicalize, if_neg directory]
        rfl
      simp only
      split
      · rfl
      · simp only [map_none]
        rw [rebuildIndex, scopeDir_plain plain, unreadable]
  | some document =>
    rw [ready.isMissing plain isEntryName_index (ready.directory plain there), there]
    cases document <;> rfl

/-! ### What is saved -/

/-- The templates that have been saved and not deleted since. -/
abbrev Saved := KeyMap (Place × List Char) Template

/-- An index of the templates of a place, apart from the one with an id. -/
structure ListsBut (saved : Saved) (place : Place) (id : List Char) (templates : TemplateIndex) :
    Prop where
  once : (templates.map (·.id)).Nodup
  all : ∀ other, other ≠ id → (saved.lookup (place, other)).isSome → other ∈ templates.map (·.id)
  held : ∀ entry ∈ templates, entry.id ≠ id → ∃ template,
    saved.lookup (place, entry.id) = some template ∧ entry.updatedAt = template.updatedAt
  sorted : templates.Pairwise fun first second => second.updatedAt ≤ first.updatedAt

structure Lists (saved : Saved) (place : Place) (templates : TemplateIndex) : Prop where
  once : (templates.map (·.id)).Nodup
  all : ∀ id, (saved.lookup (place, id)).isSome → id ∈ templates.map (·.id)
  held : ∀ entry ∈ templates, ∃ template,
    saved.lookup (place, entry.id) = some template ∧ entry.updatedAt = template.updatedAt
  sorted : templates.Pairwise fun first second => second.updatedAt ≤ first.updatedAt

variable {saved : Saved} {templates : TemplateIndex}

theorem Lists.but {now : Saved} {id : List Char} (lists : Lists saved place templates)
    (same : ∀ other, other ≠ id → now.lookup (place, other) = saved.lookup (place, other)) :
    ListsBut now place id templates where
  once := lists.once
  all := fun other differs present => lists.all other (same other differs ▸ present)
  held := fun entry mem differs => by
    rw [same _ differs]
    exact lists.held entry mem
  sorted := lists.sorted

theorem Lists.of_but (lists : ∀ id, ListsBut saved place id templates) :
    Lists saved place templates where
  once := (lists []).once
  all := fun id present => (lists (id ++ ['.'])).all id (by simp) present
  held := fun entry mem => (lists (entry.id ++ ['.'])).held entry mem (by simp)
  sorted := (lists []).sorted

theorem newer_trans (first second third : TemplateIndexEntry) (before : newer first second = true)
    (after : newer second third = true) : newer first third = true :=
  decide_eq_true ((of_decide_eq_true after).trans (of_decide_eq_true before))

theorem newer_total (first second : TemplateIndexEntry) :
    (newer first second || newer second first) = true := by
  rcases le_total second.updatedAt first.updatedAt with before | after
  · simp [newer, before]
  · simp [newer, after]

theorem sorted_mergeSort (templates : TemplateIndex) :
    (templates.mergeSort newer).Pairwise fun first second =>
      second.updatedAt ≤ first.updatedAt :=
  (pairwise_mergeSort newer_trans newer_total templates).imp of_decide_eq_true

theorem lists_mergeSort (once : (templates.map (·.id)).Nodup)
    (all : ∀ id, (saved.lookup (place, id)).isSome → id ∈ templates.map (·.id))
    (held : ∀ entry ∈ templates, ∃ template,
      saved.lookup (place, entry.id) = some template ∧ entry.updatedAt = template.updatedAt) :
    Lists saved place (templates.mergeSort newer) where
  once := ((mergeSort_perm templates newer).map _).nodup_iff.mpr once
  all := fun id present =>
    ((mergeSort_perm templates newer).map _).mem_iff.mpr (all id present)
  held := fun entry mem => held entry (mem_mergeSort.mp mem)
  sorted := sorted_mergeSort templates

theorem mem_upsert {entry new : TemplateIndexEntry} (once : (templates.map (·.id)).Nodup)
    (mem : entry ∈ upsert new templates) :
    entry = new ∨ entry ∈ templates ∧ entry.id ≠ new.id := by
  induction templates with
  | nil => exact .inl (mem_singleton.mp mem)
  | cons first rest ih =>
    rw [map_cons, nodup_cons] at once
    rw [upsert] at mem
    split at mem
    next same =>
      rcases mem_cons.mp mem with here | later
      · exact .inl here
      · refine .inr ⟨mem_cons_of_mem _ later, fun equal => once.1 ?_⟩
        rw [same, ← equal]
        exact mem_map_of_mem later
    next differs =>
      rcases mem_cons.mp mem with rfl | later
      · exact .inr ⟨mem_cons_self, differs⟩
      · exact (ih once.2 later).imp_right fun ⟨there, other⟩ =>
          ⟨mem_cons_of_mem _ there, other⟩

theorem ids_upsert (new : TemplateIndexEntry) (templates : TemplateIndex) :
    (upsert new templates).map (·.id) = if new.id ∈ templates.map (·.id) then templates.map (·.id)
      else templates.map (·.id) ++ [new.id] := by
  induction templates with
  | nil => rfl
  | cons first rest ih =>
    rw [upsert]
    by_cases same : first.id = new.id
    · rw [if_pos same, if_pos (by rw [map_cons, same]; exact mem_cons_self)]
      rw [map_cons, map_cons, same]
    · rw [if_neg same, map_cons, map_cons, ih]
      by_cases later : new.id ∈ rest.map (·.id)
      · rw [if_pos later, if_pos (mem_cons_of_mem _ later)]
      · rw [if_neg later, if_neg]
        · rfl
        · exact fun mem => (mem_cons.mp mem).elim (fun here => same here.symm) later

variable {template : Template}

theorem ListsBut.upsert (lists : ListsBut saved place template.id templates)
    (there : saved.lookup (place, template.id) = some template) :
    Lists saved place ((upsert (entryOf template) templates).mergeSort newer) := by
  have ids := ids_upsert (entryOf template) templates
  refine lists_mergeSort ?_ (fun id present => ?_) fun entry mem => ?_
  · rw [ids]
    split
    · exact lists.once
    next absent =>
      exact lists.once.append (nodup_singleton _) (disjoint_singleton.mpr absent)
  · by_cases same : id = template.id
    · rw [ids, same]
      split
      · assumption
      · exact mem_append_right _ (mem_singleton.mpr rfl)
    · have mem := lists.all id same present
      rw [ids]
      split
      · exact mem
      · exact mem_append_left _ mem
  · rcases mem_upsert lists.once mem with rfl | ⟨old, differs⟩
    · exact ⟨template, there, rfl⟩
    · exact lists.held entry old differs

theorem ListsBut.filter {id : List Char} (lists : ListsBut saved place id templates)
    (gone : saved.lookup (place, id) = none) :
    Lists saved place (templates.filter fun entry => entry.id ≠ id) where
  once := lists.once.sublist ((filter_sublist).map _)
  all := fun other present => by
    have differs : other ≠ id := by
      rintro rfl
      rw [gone] at present
      cases present
    obtain ⟨entry, mem, rfl⟩ := mem_map.mp (lists.all other differs present)
    exact mem_map_of_mem (mem_filter.mpr ⟨mem, decide_eq_true differs⟩)
  held := fun entry mem => by
    obtain ⟨old, differs⟩ := mem_filter.mp mem
    exact lists.held entry old (of_decide_eq_true differs)
  sorted := lists.sorted.sublist filter_sublist

/-! ### The disk and what is saved -/

/-- Every template is in its file, and apart from the indices there is no other file. -/
structure Filed (baseDir : FilePath) (disk : Disk) (saved : Saved) : Prop where
  ready : Ready baseDir disk
  filed : ∀ place : Place, place.Plain → ∀ id, PlainId id →
    contents baseDir disk place (fileName id) = (saved.lookup (place, id)).map .template
  only : ∀ place : Place, place.Plain → ∀ name, name ≠ indexName →
    (contents baseDir disk place name).isSome → ∃ id, PlainId id ∧ name = fileName id
  keyed : ∀ place id template, saved.lookup (place, id) = some template →
    PlainId id ∧ template.id = id

/-- The index of a place, if it can be read, is right. Without one there are no templates. -/
def Indexed (baseDir : FilePath) (disk : Disk) (saved : Saved) (place : Place) : Prop :=
  match contents baseDir disk place indexName with
  | none => ∀ id, saved.lookup (place, id) = none
  | some (.index templates) => Lists saved place templates
  | some _ => True

structure Agrees (baseDir : FilePath) (disk : Disk) (saved : Saved) : Prop where
  filed : Filed baseDir disk saved
  indexed : ∀ place : Place, place.Plain → Indexed baseDir disk saved place

theorem Indexed.congr {after : Disk} {now : Saved} (indexed : Indexed baseDir disk saved place)
    (same : contents baseDir after place indexName = contents baseDir disk place indexName)
    (lookups : ∀ id, now.lookup (place, id) = saved.lookup (place, id)) :
    Indexed baseDir after now place := by
  unfold Indexed at indexed ⊢
  rw [same]
  split at indexed
  · exact fun id => (lookups id).trans (indexed id)
  · exact {
      once := indexed.once
      all := fun id present => indexed.all id (lookups id ▸ present)
      held := fun entry mem => by
        rw [lookups]
        exact indexed.held entry mem
      sorted := indexed.sorted }
  · trivial

section

variable (filed : Filed baseDir disk saved)
include filed

theorem Filed.write_index (plain : place.Plain) (document : Document) :
    ∃ written, atomicWrite disk (place.dir baseDir ++ [indexName]) document = (written, true) ∧
      Filed baseDir written saved ∧
      contents baseDir written place indexName = some document ∧
      ∀ other : Place, other.Plain → other ≠ place →
        contents baseDir written other indexName = contents baseDir disk other indexName := by
  obtain ⟨written, writes, ready, holds⟩ := filed.ready.atomicWrite plain isEntryName_index document
  refine ⟨written, writes, ⟨ready, fun other plainOther id plainId => ?_,
    fun other plainOther name differs held => ?_, filed.keyed⟩, ?_,
    fun other plainOther apart => ?_⟩
  · rw [holds other _ plainOther, if_neg fun both => fileName_ne_index plainId both.2]
    exact filed.filed other plainOther id plainId
  · rw [holds other _ plainOther, if_neg fun both => differs both.2] at held
    exact filed.only other plainOther name differs held
  · rw [holds place _ plain, if_pos ⟨rfl, rfl⟩]
  · rw [holds other _ plainOther, if_neg fun both => apart both.1]

/-- What is found under a name is the entry of the template that was saved under its id. -/
theorem Filed.scan (plain : place.Plain) (present : (contents baseDir disk place name).isSome)
    (entry : TemplateIndexEntry) :
    scan disk (place.dir baseDir) name = some entry ↔
      ∃ id template, name = fileName id ∧ saved.lookup (place, id) = some template ∧
        entry = entryOf template := by
  constructor
  · intro found
    rw [Templates.scan, ite_none_right_eq_some] at found
    obtain ⟨⟨-, differs⟩, read⟩ := found
    obtain ⟨id, plainId, rfl⟩ := filed.only place plain name differs present
    obtain ⟨template, readTemplate, rfl⟩ := map_eq_some_iff.mp read
    rw [filed.ready.readTemplate plain (isEntryName_fileName plainId),
      filed.filed place plain id plainId] at readTemplate
    cases there : saved.lookup (place, id) with
    | none =>
      rw [there] at readTemplate
      cases readTemplate
    | some held =>
      rw [there] at readTemplate
      obtain rfl := some.inj readTemplate
      exact ⟨id, held, rfl, there, rfl⟩
  · rintro ⟨id, template, rfl, there, rfl⟩
    have plainId := (filed.keyed place id template there).1
    rw [Templates.scan, if_pos ⟨hasJsonExtension_fileName plainId, fileName_ne_index plainId⟩,
      filed.ready.readTemplate plain (isEntryName_fileName plainId),
      filed.filed place plain id plainId, there]
    rfl

theorem Filed.lists (plain : place.Plain) {names : List FileName} (once : names.Nodup)
    (listed : ∀ name, name ∈ names ↔ (contents baseDir disk place name).isSome) :
    Lists saved place ((names.filterMap (Templates.scan disk (place.dir baseDir))).mergeSort
      newer) := by
  have found (entry : TemplateIndexEntry) :
      entry ∈ names.filterMap (Templates.scan disk (place.dir baseDir)) ↔
        ∃ id template, saved.lookup (place, id) = some template ∧ entry = entryOf template := by
    rw [mem_filterMap]
    constructor
    · rintro ⟨name, mem, read⟩
      obtain ⟨id, template, -, there, same⟩ :=
        (filed.scan plain ((listed name).mp mem) entry).mp read
      exact ⟨id, template, there, same⟩
    · rintro ⟨id, template, there, same⟩
      have held : (contents baseDir disk place (fileName id)).isSome := by
        rw [filed.filed place plain id (filed.keyed place id template there).1, there]
        rfl
      exact ⟨fileName id, (listed _).mpr held,
        (filed.scan plain held entry).mpr ⟨id, template, rfl, there, same⟩⟩
  refine lists_mergeSort ?_ (fun id held => ?_) fun entry mem => ?_
  · rw [map_filterMap]
    refine pairwise_filterMap.mpr (once.imp_of_mem fun {first second} inFirst inSecond apart
      => ?_)
    intro firstId readFirst secondId readSecond same
    obtain ⟨entry, atFirst, rfl⟩ := map_eq_some_iff.mp readFirst
    obtain ⟨other, atSecond, rfl⟩ := map_eq_some_iff.mp readSecond
    obtain ⟨id, template, rfl, there, rfl⟩ :=
      (filed.scan plain ((listed first).mp inFirst) entry).mp atFirst
    obtain ⟨id', template', rfl, there', rfl⟩ :=
      (filed.scan plain ((listed second).mp inSecond) other).mp atSecond
    refine apart (congrArg fileName ?_)
    calc id = template.id := ((filed.keyed place id template there).2).symm
      _ = template'.id := same
      _ = id' := (filed.keyed place id' template' there').2
  · obtain ⟨template, there⟩ := isSome_iff_exists.mp held
    refine mem_map.mpr ⟨entryOf template, (found _).mpr ⟨id, template, there, rfl⟩, ?_⟩
    exact (filed.keyed place id template there).2
  · obtain ⟨id, template, there, rfl⟩ := (found entry).mp mem
    refine ⟨template, ?_, rfl⟩
    have named : (entryOf template).id = id := (filed.keyed place id template there).2
    rw [named, there]

/-- Scanning the directory makes a right index, and saves it. -/
theorem Filed.rebuildIndex (order : DirectoryOrder) (plain : (Place.of scope workspaceId).Plain)
    (directory : disk.isDirectoryAt ((Place.of scope workspaceId).dir baseDir) = true) :
    ∃ rebuilt templates, rebuildIndex baseDir disk order scope workspaceId = (rebuilt, templates) ∧
      Filed baseDir rebuilt saved ∧ Lists saved (Place.of scope workspaceId) templates ∧
      contents baseDir rebuilt (Place.of scope workspaceId) indexName = some (.index templates) ∧
      ∀ other : Place, other.Plain → other ≠ Place.of scope workspaceId →
        contents baseDir rebuilt other indexName = contents baseDir disk other indexName := by
  obtain ⟨names, listed, once, held⟩ := (filed.ready.passable _ plain).readDir directory
  obtain ⟨place, isPlace⟩ : ∃ place, place = Place.of scope workspaceId := ⟨_, rfl⟩
  rw [← isPlace] at plain listed held ⊢
  have lists := filed.lists plain ((order.perm names).nodup_iff.mpr once) fun name => by
    rw [(order.perm names).mem_iff, held, filed.ready.node place plain]
    cases contents baseDir disk place name <;> rfl
  obtain ⟨rebuilt, writes, filedNow, index, others⟩ := filed.write_index plain
    (.index (((order.arrange names).filterMap (Templates.scan disk (place.dir baseDir))).mergeSort
      newer))
  refine ⟨rebuilt, _, ?_, filedNow, lists, index, others⟩
  have path : indexPath baseDir scope workspaceId = place.dir baseDir ++ [indexName] := by
    rw [isPlace] at plain ⊢
    exact indexPath_plain plain
  have dir : scopeDir baseDir scope workspaceId = place.dir baseDir := by
    rw [isPlace] at plain ⊢
    exact scopeDir_plain plain
  rw [Templates.rebuildIndex, path, dir]
  simp only [listed]
  rw [writes]

/-- An index stays right for the other templates, and one that is made anew is right. -/
theorem Filed.loadIndex {before : Saved} (order : DirectoryOrder)
    (plain : (Place.of scope workspaceId).Plain)
    (indexed : Indexed baseDir disk before (Place.of scope workspaceId)) :
    ∃ loaded templates, loadIndex baseDir disk order scope workspaceId = (loaded, templates) ∧
      Filed baseDir loaded saved ∧
      (∀ id, (∀ other, other ≠ id → saved.lookup (Place.of scope workspaceId, other) =
          before.lookup (Place.of scope workspaceId, other)) →
        ListsBut saved (Place.of scope workspaceId) id templates) ∧
      (∀ other : Place, other.Plain → other ≠ Place.of scope workspaceId →
        contents baseDir loaded other indexName = contents baseDir disk other indexName) ∧
      (loaded = disk ∧ (∀ any, before.lookup (Place.of scope workspaceId, any) = none) ∨
        contents baseDir loaded (Place.of scope workspaceId) indexName =
          some (.index templates)) := by
  rw [filed.ready.loadIndex order plain]
  unfold Indexed at indexed
  cases there : contents baseDir disk (Place.of scope workspaceId) indexName with
  | none =>
    rw [there] at indexed
    refine ⟨disk, [], rfl, filed, fun id same => ⟨nodup_nil, fun other differs held => ?_,
      fun _ mem => absurd mem not_mem_nil, Pairwise.nil⟩, fun _ _ _ => rfl,
      .inl ⟨rfl, indexed⟩⟩
    rw [same other differs, indexed other] at held
    cases held
  | some document =>
    rw [there] at indexed
    have directory := filed.ready.directory plain there
    obtain ⟨rebuilt, made, rebuilds, filedNow, lists, index, others⟩ :=
      filed.rebuildIndex order plain directory
    cases document with
    | index templates =>
      exact ⟨disk, templates, rfl, filed, fun id => Lists.but indexed, fun _ _ _ => rfl, .inr there⟩
    | template | garbage =>
      exact ⟨rebuilt, made, rebuilds, filedNow, fun id _ => lists.but fun _ _ => rfl, others,
        .inr index⟩

end

/-! ### The operations -/

theorem Indexed.write {after : Disk} (lists : Lists saved place templates)
    (written : contents baseDir after place indexName = some (.index templates)) :
    Indexed baseDir after saved place := by
  unfold Indexed
  rw [written]
  exact lists

theorem Filed.write_template (filed : Filed baseDir disk saved) (plain : place.Plain)
    (plainId : PlainId template.id) :
    ∃ written, atomicWrite disk (place.dir baseDir ++ [fileName template.id])
        (.template template) = (written, true) ∧
      Filed baseDir written (saved.insert (place, template.id) template) ∧
      ∀ other : Place, other.Plain →
        contents baseDir written other indexName = contents baseDir disk other indexName := by
  obtain ⟨written, writes, ready, holds⟩ :=
    filed.ready.atomicWrite plain (isEntryName_fileName plainId) (.template template)
  refine ⟨written, writes, ⟨ready, fun other plainOther id plainOtherId => ?_,
    fun other plainOther name differs present => ?_, fun other id held there => ?_⟩,
    fun other plainOther => ?_⟩
  · rw [holds other _ plainOther, lookup_insert]
    by_cases here : (other, id) = (place, template.id)
    · cases here
      rw [if_pos ⟨rfl, rfl⟩, if_pos rfl]
      rfl
    · rw [if_neg here, if_neg]
      · exact filed.filed other plainOther id plainOtherId
      · rintro ⟨rfl, same⟩
        exact here (congrArg _ (fileName_inj same))
  · rw [holds other _ plainOther] at present
    split at present
    next here =>
      exact ⟨template.id, plainId, here.2⟩
    · exact filed.only other plainOther name differs present
  · rw [lookup_insert] at there
    split at there
    next here =>
      cases here
      cases there
      exact ⟨plainId, rfl⟩
    · exact filed.keyed other id held there
  · rw [holds other _ plainOther, if_neg fun both => fileName_ne_index plainId both.2.symm]

theorem Filed.remove_template (filed : Filed baseDir disk saved) (plain : place.Plain)
    {id : List Char} (plainId : PlainId id) (there : (saved.lookup (place, id)).isSome) :
    ∃ done, disk.removeFile (place.dir baseDir ++ [fileName id]) = some done ∧
      Filed baseDir done.tree (saved.erase (place, id)) ∧
      ∀ other : Place, other.Plain →
        contents baseDir done.tree other indexName = contents baseDir disk other indexName := by
  have removes := filed.ready.removeFile plain (isEntryName_fileName plainId)
  have held := filed.filed place plain id plainId
  obtain ⟨template, present⟩ := isSome_iff_exists.mp there
  rw [present] at held
  rw [held] at removes
  obtain ⟨done, removed, ready, holds⟩ := removes
  refine ⟨done, removed, ⟨ready, fun other plainOther any plainAny => ?_,
    fun other plainOther name differs present => ?_, fun other any held there => ?_⟩,
    fun other plainOther => ?_⟩
  · rw [holds other _ plainOther, lookup_erase]
    by_cases here : (other, any) = (place, id)
    · cases here
      rw [if_pos ⟨rfl, rfl⟩, if_pos rfl]
      rfl
    · rw [if_neg here, if_neg]
      · exact filed.filed other plainOther any plainAny
      · rintro ⟨rfl, same⟩
        exact here (congrArg _ (fileName_inj same))
  · rw [holds other _ plainOther] at present
    split at present
    · cases present
    · exact filed.only other plainOther name differs present
  · obtain ⟨-, there⟩ := of_lookup_erase there
    exact filed.keyed other any held there
  · rw [holds other _ plainOther, if_neg fun both => fileName_ne_index plainId both.2.symm]

section

variable (agrees : Agrees baseDir disk saved) (order : DirectoryOrder)
include agrees order

theorem Agrees.save (plain : (Place.of template.scope template.workspaceId).Plain)
    (plainId : PlainId template.id) :
    ∃ after, save baseDir disk order template = (after, true) ∧ Agrees baseDir after
        (saved.insert (Place.of template.scope template.workspaceId, template.id) template) := by
  obtain ⟨written, writes, filed, indices⟩ := agrees.filed.write_template plain plainId
  have indexed := (agrees.indexed _ plain).congr (indices _ plain) fun _ => rfl
  obtain ⟨loaded, templates, loads, filedLoaded, listsBut, others, -⟩ :=
    filed.loadIndex order plain indexed
  have lists := listsBut template.id fun other differs => by
    rw [lookup_insert, if_neg fun same => differs (Prod.mk.inj same).2]
  obtain ⟨after, writesIndex, filedAfter, index, othersAfter⟩ :=
    filedLoaded.write_index plain
      (.index ((upsert (entryOf template) templates).mergeSort newer))
  refine ⟨after, ?_, filedAfter, fun other plainOther => ?_⟩
  · rw [Templates.save, templatePath_plain plain plainId, indexPath_plain plain]
    simp only [writes, loads]
    exact writesIndex
  · by_cases here : other = Place.of template.scope template.workspaceId
    · rw [here]
      refine Indexed.write (lists.upsert ?_) index
      rw [lookup_insert, if_pos rfl]
    · refine (agrees.indexed other plainOther).congr ?_ fun id => ?_
      · rw [othersAfter other plainOther here, others other plainOther here,
          indices other plainOther]
      · rw [lookup_insert, if_neg fun same => here (Prod.mk.inj same).1]

theorem Agrees.delete {id : List Char} (plain : (Place.of scope workspaceId).Plain)
    (plainId : PlainId id) :
    ∃ after, delete baseDir disk order scope workspaceId id =
        (after, (saved.lookup (Place.of scope workspaceId, id)).isSome) ∧
      Agrees baseDir after (if (saved.lookup (Place.of scope workspaceId, id)).isSome then
          saved.erase (Place.of scope workspaceId, id)
        else saved) := by
  have path : templatePath baseDir scope workspaceId id =
      (Place.of scope workspaceId).dir baseDir ++ [fileName id] :=
    templatePath_plain plain plainId
  have read := agrees.filed.filed _ plain id plainId
  have removes := agrees.filed.ready.removeFile plain (isEntryName_fileName plainId)
  cases held : saved.lookup (Place.of scope workspaceId, id) with
  | none =>
    rw [read, held] at removes
    refine ⟨disk, ?_, agrees⟩
    rw [Templates.delete, path, removes]
    rfl
  | some template =>
    obtain ⟨done, removed, filed, indices⟩ :=
      agrees.filed.remove_template plain plainId (by rw [held]; rfl)
    have indexed : Indexed baseDir done.tree saved (Place.of scope workspaceId) :=
      (agrees.indexed _ plain).congr (indices _ plain) fun _ => rfl
    obtain ⟨loaded, templates, loads, filedLoaded, listsBut, others, kept⟩ :=
      filed.loadIndex order plain indexed
    have lists := (listsBut id fun other differs => by
      rw [lookup_erase, if_neg fun same => differs (Prod.mk.inj same).2]).filter
        (by rw [lookup_erase, if_pos rfl])
    -- The indices of the other places are as they were.
    have away {after : Disk} (same : ∀ other : Place, other.Plain →
        other ≠ Place.of scope workspaceId →
        contents baseDir after other indexName = contents baseDir loaded other indexName)
        (other : Place) (plainOther : other.Plain) (apart : other ≠ Place.of scope workspaceId) :
        Indexed baseDir after (saved.erase (Place.of scope workspaceId, id)) other := by
      refine (agrees.indexed other plainOther).congr ?_ fun any => ?_
      · rw [same other plainOther apart, others other plainOther apart, indices other plainOther]
      · rw [lookup_erase, if_neg fun same => apart (Prod.mk.inj same).1]
    rw [Templates.delete, path, removed, isSome_some, if_pos rfl]
    simp only [loads]
    split
    · obtain ⟨after, writes, filedAfter, index, othersAfter⟩ :=
        filedLoaded.write_index plain
          (.index (templates.filter fun entry => entry.id ≠ id))
      refine ⟨after, ?_, filedAfter, fun other plainOther => ?_⟩
      · rw [indexPath_plain plain]
        exact writes
      · by_cases here : other = Place.of scope workspaceId
        · rw [here]
          exact Indexed.write lists index
        · exact away othersAfter other plainOther here
    next whole =>
      have all : (templates.filter fun entry => entry.id ≠ id) = templates :=
        filter_sublist.eq_of_length (of_not_not whole)
      refine ⟨loaded, rfl, filedLoaded, fun other plainOther => ?_⟩
      by_cases here : other = Place.of scope workspaceId
      · rcases kept with ⟨-, none⟩ | index
        · rw [none id] at held
          cases held
        · rw [all] at lists
          rw [here]
          exact Indexed.write lists index
      · exact away (fun _ _ _ => rfl) other plainOther here

theorem Agrees.list (plain : (Place.of scope workspaceId).Plain) :
    ∃ after templates, list baseDir disk order scope workspaceId = (after, templates) ∧
      Agrees baseDir after saved ∧
      (∀ template, template ∈ templates ↔
        saved.lookup (Place.of scope workspaceId, template.id) = some template) ∧
      (templates.map (·.id)).Nodup ∧
      templates.Pairwise fun first second => second.updatedAt ≤ first.updatedAt := by
  obtain ⟨loaded, index, loads, filed, listsBut, others, kept⟩ :=
    agrees.filed.loadIndex order plain (agrees.indexed _ plain)
  have lists := Lists.of_but fun id => listsBut id fun _ _ => rfl
  have loadEntry (entry : TemplateIndexEntry) (mem : entry ∈ index) :
      ∃ template, load baseDir loaded scope workspaceId entry.id = some template ∧
        saved.lookup (Place.of scope workspaceId, entry.id) = some template ∧
        template.id = entry.id ∧ entry.updatedAt = template.updatedAt := by
    obtain ⟨template, there, date⟩ := lists.held entry mem
    obtain ⟨plainId, same⟩ := filed.keyed _ _ _ there
    refine ⟨template, ?_, there, same, date⟩
    rw [load, templatePath_plain plain plainId,
      filed.ready.readTemplate plain (isEntryName_fileName plainId),
      filed.filed _ plain _ plainId, there]
    rfl
  refine ⟨loaded, index.filterMap fun entry => load baseDir loaded scope workspaceId entry.id,
    by rw [Templates.list, loads], ⟨filed, fun other plainOther => ?_⟩, fun template => ?_, ?_, ?_⟩
  · by_cases here : other = Place.of scope workspaceId
    · rcases kept with ⟨rfl, -⟩ | written
      · exact agrees.indexed other plainOther
      · exact here ▸ Indexed.write lists written
    · exact (agrees.indexed other plainOther).congr (others other plainOther here) fun _ => rfl
  · rw [mem_filterMap]
    constructor
    · rintro ⟨entry, mem, loadsEntry⟩
      obtain ⟨held, loadsHeld, there, same, -⟩ := loadEntry entry mem
      cases loadsHeld.symm.trans loadsEntry
      rw [same, there]
    · intro there
      obtain ⟨entry, mem, same⟩ := mem_map.mp (lists.all template.id (by rw [there]; rfl))
      obtain ⟨held, loadsHeld, thereHeld, -, -⟩ := loadEntry entry mem
      rw [same, there] at thereHeld
      exact ⟨entry, mem, loadsHeld.trans thereHeld.symm⟩
  · have ids : (index.filterMap fun entry =>
        load baseDir loaded scope workspaceId entry.id).map (·.id) = index.map (·.id) := by
      rw [map_filterMap, ← filterMap_eq_map]
      refine filterMap_congr fun entry mem => ?_
      obtain ⟨held, loadsHeld, -, same, -⟩ := loadEntry entry mem
      rw [loadsHeld, map_some, same]
      rfl
    rw [ids]
    exact lists.once
  · refine pairwise_filterMap.mpr (lists.sorted.imp_of_mem
      fun {first second} inFirst inSecond before template loadsFirst other loadsSecond => ?_)
    obtain ⟨held, loadsHeld, -, -, dateFirst⟩ := loadEntry first inFirst
    obtain ⟨held', loadsHeld', -, -, dateSecond⟩ := loadEntry second inSecond
    cases loadsHeld.symm.trans loadsFirst
    cases loadsHeld'.symm.trans loadsSecond
    rw [← dateFirst, ← dateSecond]
    exact before

end

/-! ### Damage to an index -/

def removeIndex (baseDir : FilePath) (disk : Disk) (scope : TemplateScope)
    (workspaceId : Option (List Char)) : Disk :=
  match disk.removeFile (indexPath baseDir scope workspaceId) with
  | some done => done.tree
  | none => disk

/-- The index of a scope, if there is one, cannot be parsed anymore. -/
def corruptIndex (baseDir : FilePath) (disk : Disk) (scope : TemplateScope)
    (workspaceId : Option (List Char)) : Disk :=
  let path := indexPath baseDir scope workspaceId
  if (disk.readFile path).isSome then (atomicWrite disk path .garbage).1 else disk

theorem Filed.removeIndex (filed : Filed baseDir disk saved)
    (plain : (Place.of scope workspaceId).Plain) :
    Filed baseDir (removeIndex baseDir disk scope workspaceId) saved ∧
      ∀ other : Place, other.Plain →
        contents baseDir (removeIndex baseDir disk scope workspaceId) other indexName =
          if other = Place.of scope workspaceId then none
          else contents baseDir disk other indexName := by
  have removes := filed.ready.removeFile plain isEntryName_index
  rw [Templates.removeIndex, indexPath_plain plain]
  cases there : contents baseDir disk (Place.of scope workspaceId) indexName with
  | none =>
    rw [there] at removes
    rw [removes]
    refine ⟨filed, fun other plainOther => ?_⟩
    by_cases here : other = Place.of scope workspaceId
    · rw [if_pos here, here]
      exact there
    · rw [if_neg here]
  | some document =>
    rw [there] at removes
    obtain ⟨done, removed, ready, holds⟩ := removes
    rw [removed]
    refine ⟨⟨ready, fun other plainOther id plainId => ?_,
      fun other plainOther name differs held => ?_, filed.keyed⟩, fun other plainOther => ?_⟩
    · rw [holds other _ plainOther, if_neg fun both => fileName_ne_index plainId both.2]
      exact filed.filed other plainOther id plainId
    · rw [holds other _ plainOther, if_neg fun both => differs both.2] at held
      exact filed.only other plainOther name differs held
    · rw [holds other _ plainOther]
      by_cases here : other = Place.of scope workspaceId
      · rw [if_pos ⟨here, rfl⟩, if_pos here]
      · rw [if_neg fun both => here both.1, if_neg here]

theorem Agrees.removeIndex (agrees : Agrees baseDir disk saved)
    (plain : (Place.of scope workspaceId).Plain)
    (empty : ∀ id, saved.lookup (Place.of scope workspaceId, id) = none) :
    Agrees baseDir (removeIndex baseDir disk scope workspaceId) saved := by
  obtain ⟨filed, indices⟩ := agrees.filed.removeIndex plain
  refine ⟨filed, fun other plainOther => ?_⟩
  have index := indices other plainOther
  by_cases here : other = Place.of scope workspaceId
  · rw [if_pos here] at index
    unfold Indexed
    rw [index, here]
    exact empty
  · rw [if_neg here] at index
    exact (agrees.indexed other plainOther).congr index fun _ => rfl

theorem Agrees.corruptIndex (agrees : Agrees baseDir disk saved)
    (plain : (Place.of scope workspaceId).Plain) :
    Agrees baseDir (corruptIndex baseDir disk scope workspaceId) saved := by
  simp only [Templates.corruptIndex]
  split
  · obtain ⟨written, writes, filed, index, others⟩ := agrees.filed.write_index plain .garbage
    rw [indexPath_plain plain, writes]
    refine ⟨filed, fun other plainOther => ?_⟩
    by_cases here : other = Place.of scope workspaceId
    · unfold Indexed
      rw [here, index]
      trivial
    · exact (agrees.indexed other plainOther).congr (others other plainOther here) fun _ => rfl
  · exact agrees

theorem Filed.list_removeIndex (filed : Filed baseDir disk saved) (order : DirectoryOrder)
    (plain : (Place.of scope workspaceId).Plain) :
    (list baseDir (Templates.removeIndex baseDir disk scope workspaceId) order scope
      workspaceId).2 = [] := by
  obtain ⟨filedLeft, indices⟩ := filed.removeIndex plain
  have gone := indices _ plain
  rw [if_pos rfl] at gone
  rw [list, filedLeft.ready.loadIndex order plain, gone]
  rfl

/-! ### Runs -/

inductive Event where
  | save (order : DirectoryOrder) (template : Template)
  | delete (order : DirectoryOrder) (scope : TemplateScope) (workspaceId : Option (List Char))
      (id : List Char)
  | list (order : DirectoryOrder) (scope : TemplateScope) (workspaceId : Option (List Char))
  | indexRemoved (scope : TemplateScope) (workspaceId : Option (List Char))
  | indexCorrupted (scope : TemplateScope) (workspaceId : Option (List Char))

/-- The disk, and the templates that have been saved and not deleted since. -/
structure Store where
  disk : Disk
  saved : Saved := ∅

def after (baseDir : FilePath) (store : Store) : Event → Store
  | .save order template =>
      let (disk, done) := save baseDir store.disk order template
      { disk := disk
        saved := if done then
            store.saved.insert (Place.of template.scope template.workspaceId, template.id) template
          else store.saved }
  | .delete order scope workspaceId id =>
      let (disk, done) := delete baseDir store.disk order scope workspaceId id
      { disk := disk
        saved := if done then store.saved.erase (Place.of scope workspaceId, id)
          else store.saved }
  | .list order scope workspaceId =>
      { store with disk := (list baseDir store.disk order scope workspaceId).1 }
  | .indexRemoved scope workspaceId =>
      { store with disk := removeIndex baseDir store.disk scope workspaceId }
  | .indexCorrupted scope workspaceId =>
      { store with disk := corruptIndex baseDir store.disk scope workspaceId }

/-- Names are plain, and no index goes while there are templates in its place. -/
def Allowed (store : Store) : Event → Prop
  | .save _ template =>
      (Place.of template.scope template.workspaceId).Plain ∧ PlainId template.id
  | .delete _ scope workspaceId id => (Place.of scope workspaceId).Plain ∧ PlainId id
  | .list _ scope workspaceId => (Place.of scope workspaceId).Plain
  | .indexRemoved scope workspaceId =>
      (Place.of scope workspaceId).Plain ∧
        ∀ id, store.saved.lookup (Place.of scope workspaceId, id) = none
  | .indexCorrupted scope workspaceId => (Place.of scope workspaceId).Plain

theorem Agrees.after {store : Store} (agrees : Agrees baseDir store.disk store.saved)
    {event : Event} (allowed : Allowed store event) :
    Agrees baseDir (after baseDir store event).disk (after baseDir store event).saved := by
  cases event with
  | save order template =>
    obtain ⟨disk, saves, next⟩ := agrees.save order allowed.1 allowed.2
    rw [Templates.after, saves]
    exact next
  | delete order scope workspaceId id =>
    obtain ⟨disk, deletes, next⟩ := agrees.delete order allowed.1 allowed.2
    rw [Templates.after, deletes]
    exact next
  | list order scope workspaceId =>
    obtain ⟨disk, templates, lists, next, -⟩ := agrees.list order allowed
    rw [Templates.after, lists]
    exact next
  | indexRemoved scope workspaceId => exact agrees.removeIndex allowed.1 allowed.2
  | indexCorrupted scope workspaceId => exact agrees.corruptIndex allowed

/-- The directory of the templates is there or can be made, and there is nothing in it. -/
structure Fresh (baseDir : FilePath) (disk : Disk) : Prop where
  passable : FileTree.Passable disk baseDir
  empty : ∀ location, baseDir <+: location → location ≠ baseDir → disk.node location = none

theorem Fresh.passable_dir (fresh : Fresh baseDir disk) (plain : place.Plain) :
    Passable disk (place.dir baseDir) := by
  obtain ⟨names, below, entryNames⟩ : ∃ names, place.dir baseDir = baseDir ++ names ∧
      ∀ name ∈ names, IsEntryName name := by
    cases place with
    | global =>
      refine ⟨_, rfl, fun name mem => ?_⟩
      rw [mem_singleton.mp mem]
      refine ⟨⟨?_, ?_, ?_⟩, ?_⟩ <;> decide
    | workspace id =>
      refine ⟨_, rfl, fun name mem => ?_⟩
      rcases mem_cons.mp mem with rfl | here
      · refine ⟨⟨?_, ?_, ?_⟩, ?_⟩ <;> decide
      · rw [mem_singleton.mp here]
        exact plain.1
  rw [below]
  intro front name further
  rcases prefix_or_prefix_of_prefix further (prefix_append baseDir names) with
    above | ⟨rest, same⟩
  · exact fresh.passable front name above
  · by_cases none : rest = []
    · refine fresh.passable front name ?_
      have whole : baseDir ++ rest = baseDir := none ▸ append_nil baseDir
      exact whole ▸ same ▸ prefix_rfl
    · rw [← same, prefix_append_right_inj] at further
      have last : name ∈ rest := by
        have inRest : (front ++ [name]).getLast? = rest.getLast? := by
          rw [← same, getLast?_append_of_ne_nil _ none]
        rw [getLast?_concat] at inRest
        exact mem_of_getLast? inRest.symm
      refine ⟨entryNames name (further.subset last), .inl (fresh.empty _ ⟨rest, same⟩ ?_)⟩
      rw [← same]
      exact fun whole => none (append_right_eq_self.mp whole)

theorem Fresh.agrees (fresh : Fresh baseDir disk) : Agrees baseDir disk ∅ := by
  have nothing (place : Place) (name : FileName) :
      disk.node (place.dir baseDir ++ [name]) = none := by
    refine fresh.empty _ ?_ ?_
    · cases place <;> exact ⟨_, (append_assoc _ _ _).symm⟩
    · intro same
      have long := congrArg length same
      cases place <;> simp [Place.dir] at long
  have noContents (place : Place) (name : FileName) : contents baseDir disk place name = none := by
    rw [contents, nothing]
  refine ⟨⟨⟨fun place plain => fresh.passable_dir plain, fun place plain name held => ?_,
    fun place plain name => ?_⟩, fun place plain id plainId => noContents place _,
    fun place plain name differs held => ?_, fun place id template there => ?_⟩,
    fun place plain => ?_⟩
  · rw [nothing] at held
    cases held
  · rw [nothing, noContents]
    rfl
  · rw [noContents] at held
    cases held
  · cases there
  · unfold Indexed
    rw [noContents]
    exact fun _ => rfl

/-- A list has exactly the templates of its place that have been saved and not deleted since, each
once, and the newest first, as long as names are plain and no index goes while there are templates.
-/
theorem list_run (fresh : Fresh baseDir disk) (events : List Event)
    (careful : Runs.Careful (after baseDir) Allowed { disk } events) (order : DirectoryOrder)
    (scope : TemplateScope) (workspaceId : Option (List Char))
    (plain : (Place.of scope workspaceId).Plain) :
    let store := Runs.run (after baseDir) { disk } events
    let templates := (list baseDir store.disk order scope workspaceId).2
    (∀ template, template ∈ templates ↔
      store.saved.lookup (Place.of scope workspaceId, template.id) = some template) ∧
    (templates.map (·.id)).Nodup ∧
    templates.Pairwise fun first second => second.updatedAt ≤ first.updatedAt := by
  have agrees := careful.kept (fun store => Agrees baseDir store.disk store.saved)
    (fun _ _ agrees allowed => agrees.after allowed) fresh.agrees
  obtain ⟨disk, templates, lists, -, exactly, once, sorted⟩ := agrees.list order plain
  dsimp only
  rw [lists]
  exact ⟨exactly, once, sorted⟩

def inOrder : DirectoryOrder where
  arrange := id
  perm := fun _ => List.Perm.refl _

def split : Template where
  id := "split".toList
  name := "Split"
  scope := .global
  createdAt := "2026-01-01"
  updatedAt := "2026-01-01"
  layout := .null

theorem plainId_split : PlainId split.id := by
  refine ⟨?_, ?_, ?_, ?_⟩ <;> decide

theorem fresh_empty : Fresh [] ({} : Disk) where
  passable := fun _ _ above => absurd (prefix_nil.mp above) (concat_ne_nil _ _)
  empty := fun _ _ differs => if_neg differs

def onlySplit : Saved := (∅ : Saved).insert (.global, split.id) split

theorem after_split : ∃ disk,
    after [] { disk := {} } (.save inOrder split) = { disk, saved := onlySplit } ∧
      Agrees [] disk onlySplit := by
  have global : (Place.of split.scope split.workspaceId).Plain := trivial
  obtain ⟨disk, saves, agrees⟩ := fresh_empty.agrees.save inOrder global plainId_split
  refine ⟨disk, ?_, agrees⟩
  rw [after, saves]
  rfl

/-- An index that cannot be parsed hides nothing. -/
theorem list_run_corrupted : split ∈ (list [] (Runs.run (after []) { disk := {} }
    [.save inOrder split, .indexCorrupted .global none]).disk inOrder .global none).2 := by
  have exactly := (list_run fresh_empty [.save inOrder split, .indexCorrupted .global none]
    ⟨⟨trivial, plainId_split⟩, trivial, trivial⟩ inOrder .global none trivial).1 split
  obtain ⟨disk, saves, -⟩ := after_split
  have saved : (Runs.run (after []) { disk := {} }
      [.save inOrder split, .indexCorrupted .global none]).saved = onlySplit := by
    rw [Runs.run, foldl_cons, saves]
    rfl
  rw [exactly, saved, onlySplit, lookup_insert]
  exact if_pos rfl

/-- An index that has gone hides a template that is still there. -/
theorem index_gone : ∃ disk saved, Runs.run (after []) { disk := {} }
      [.save inOrder split, .indexRemoved .global none] = { disk, saved } ∧
    saved.lookup (.global, split.id) = some split ∧ (list [] disk inOrder .global none).2 = [] := by
  obtain ⟨disk, saves, agrees⟩ := after_split
  refine ⟨removeIndex [] disk .global none, onlySplit, ?_, ?_,
    agrees.filed.list_removeIndex inOrder trivial⟩
  · rw [Runs.run, foldl_cons, saves]
    rfl
  · rw [onlySplit, lookup_insert]
    exact if_pos rfl

end Dinotty.Templates
