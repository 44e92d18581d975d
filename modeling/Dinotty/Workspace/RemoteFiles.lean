/-
This file is the removal, the renaming and the moving of files on a host that is reached over SFTP.
The host resolves every path before it is acted on; what a request should act on is the entry that
its path names.
-/

import Dinotty.Foundation.Program
import Dinotty.Foundation.Subtrees

namespace Dinotty.Workspace.RemoteFiles

open FileTree

variable {Content : Type}

/-! ### The host -/

/-- The files of a host, and which of the next calls end with an error. -/
structure Remote (Content : Type) where
  tree : FileTree Content
  errors : List Bool := []

/-- A call to the host. One that ends with an error leaves the files as they are. -/
def call {Value : Type} (operation : FileTree Content → Option (FileTree Content × Value)) :
    Program (Remote Content) Value := fun remote =>
  match remote.errors with
  | true :: errors => ({ remote with errors := errors }, none)
  | errors =>
      match operation remote.tree with
      | none => ({ remote with errors := errors.tail }, none)
      | some (tree, value) => ({ tree := tree, errors := errors.tail }, some value)

section

-- The directory that paths without a slash in front start at.
variable (login : FilePath)

/-- The text of the place that a path leads to. A host may tell one for a missing last name, too;
the calls for it end with an error then. -/
def canonicalize (path : List Char) : Program (Remote Content) (List Char) :=
  call fun tree =>
    (tree.canonicalize (join login path)).map fun location => (tree, render location)

def metadata (path : List Char) : Program (Remote Content) (FileNode Content) :=
  call fun tree => (tree.metadata (join login path)).map fun found => (tree, found.2)

def tryExists (path : List Char) : Program (Remote Content) Bool :=
  call fun tree => some (tree, tree.fileExists (join login path))

/-- The entries of a directory with what they are, itself and the one above among them. -/
def listing (tree : FileTree Content) (directory : FilePath) (names : List FileName) :
    List (FileName × FileNode Content) :=
  (currentName, .directory) :: (parentName, .directory) ::
    names.filterMap fun name => (tree.node (directory ++ [name])).map fun found => (name, found)

def readDir (path : List Char) : Program (Remote Content) (List (FileName × FileNode Content)) :=
  call fun tree => (tree.readDir (join login path)).map fun found =>
    (tree, listing tree found.1 found.2)

def removeFile (path : List Char) : Program (Remote Content) Unit :=
  call fun tree => (tree.removeFile (join login path)).map fun done => (done.tree, ())

def removeDir (path : List Char) : Program (Remote Content) Unit :=
  call fun tree => (tree.removeDir (join login path)).map fun after => (after, ())

/-- A rename on the host: nothing may be at the new path, and only that of a directory may end
with a slash. -/
def renamed (tree : FileTree Content) (old new : FilePath) : Option (FileTree Content) := do
  let source ← tree.entry old
  let new := if tree.isDirectoryAt source then bare new else new
  let destination ← tree.entry new
  if (tree.node destination).isSome then none
  else (tree.rename old new).map (·.tree)

def rename (old new : List Char) : Program (Remote Content) Unit :=
  call fun tree => (renamed tree (join login old) (join login new)).map fun after => (after, ())

/-! ### Paths -/

def trimEndSlashes (text : List Char) : List Char := text.rdropWhile (· = '/')

/-- The home directory of a session, if it is known. -/
structure RemoteHome where
  text : List Char
  absolute : isAbsolute text = true

variable (home : Option RemoteHome)

def homeText : List Char := (home.map (·.text)).getD ['/']

def normalizeRemoteJoin (root rel : List Char) : List Char :=
  let rel := (Chars.trim rel).dropWhile (· = '/')
  if parentName ∈ segments rel then root
  else
    trimEndSlashes root ++
      ((segments rel).filter fun name => name ≠ [] ∧ name ≠ currentName).flatMap
        fun name => '/' :: name

def resolveRemoteRel (rel : List Char) : List Char :=
  let rel := Chars.trim rel
  if rel = [] then ['/']
  else if rel.head? = some '/' then rel
  else if ['~', '/'] <+: rel then homeText home ++ '/' :: rel.drop 2
  else if rel = ['~'] then homeText home
  else normalizeRemoteJoin ['/'] rel

/-! ### The endpoints -/

inductive Response where
  | done
  | relocated (rel : List Char)
  | badRequest (message : String)
  | conflict (message : String)
  | sftpError
  deriving DecidableEq

/-- Go on with what a call finds, or answer that it ended with an error. -/
def orSftpError {Value : Type} (program : Program (Remote Content) Value)
    (next : Value → Program (Remote Content) Response) : Program (Remote Content) Response :=
  fun remote =>
    match program remote with
    | (later, some value) => next value later
    | (later, none) => (later, some .sftpError)

/-- Remove an entry of a directory, another directory by a program. -/
def removeEntry (removeBelow : List Char → Program (Remote Content) Unit) (path : List Char)
    (entry : FileName × FileNode Content) : Program (Remote Content) Unit :=
  if entry.1 = currentName ∨ entry.1 = parentName then pure ()
  else
    let child := trimEndSlashes path ++ '/' :: entry.1
    match entry.2 with
    | .directory => removeBelow child
    | _ => removeFile login child

def removeEntries (removeBelow : List Char → Program (Remote Content) Unit) (path : List Char) :
    List (FileName × FileNode Content) → Program (Remote Content) Unit
  | [] => pure ()
  | entry :: rest => do
      removeEntry login removeBelow path entry
      removeEntries removeBelow path rest

/-- Remove a directory with all that is in it, down to a depth. -/
def removeDirRecursive : Nat → List Char → Program (Remote Content) Unit
  | 0, _ => Program.fail
  | depth + 1, path => do
      let entries ← readDir login path
      removeEntries login (removeDirRecursive depth) path entries
      removeDir login path

/-- No directory is deeper than the longest location. -/
def removeDirWhole (path : List Char) : Program (Remote Content) Unit := fun remote =>
  removeDirRecursive login (remote.tree.height + 1) path remote

def deleteFound (target : List Char) : FileNode Content → Program (Remote Content) Response
  | .file _ => orSftpError (removeFile login target) fun _ => pure .done
  | .directory => orSftpError (removeDirWhole login target) fun _ => pure .done
  | _ => pure (.badRequest "not a file or directory")

def remoteDelete (path : List Char) : Program (Remote Content) Response :=
  orSftpError (canonicalize login (resolveRemoteRel home path)) fun target =>
    if trimEndSlashes target = ['/'] then pure (.badRequest "cannot delete root")
    else orSftpError (metadata login target) (deleteFound login target)

/-- The path of an entry as the client sees it. -/
def relOf (dest : List Char) : List Char := dest.dropWhile (· = '/')

/-- The path of the directory that a canonical path lies in. -/
def parentText (target : List Char) : List Char :=
  let above := trimEndSlashes (target.rdropWhile (· ≠ '/'))
  if above = [] then ['/'] else above

/-- The last name of a canonical path. -/
def fileName (target : List Char) : List Char := target.rtakeWhile (· ≠ '/')

/-- Rename an entry to a path that leads nowhere. -/
def renameTo (source dest : List Char) (message : String) : Program (Remote Content) Response :=
  orSftpError (tryExists login dest) fun present =>
    if present then pure (.conflict message)
    else orSftpError (rename login source dest) fun _ => pure (.relocated (relOf dest))

def remoteRename (path newName : List Char) : Program (Remote Content) Response :=
  orSftpError (canonicalize login (resolveRemoteRel home path)) fun target =>
    renameTo login target (trimEndSlashes (parentText target) ++ '/' :: newName) "already exists"

def remoteMove (path destDir : List Char) : Program (Remote Content) Response :=
  orSftpError (canonicalize login (resolveRemoteRel home path)) fun source =>
    orSftpError (canonicalize login (resolveRemoteRel home destDir)) fun destCanon =>
      renameTo login source (trimEndSlashes destCanon ++ '/' :: fileName source)
        "already exists in destination"

/-! ### What is asked for -/

inductive Request where
  | delete (path : List Char)
  | rename (path newName : List Char)
  | move (path destDir : List Char)

def Request.run (home : Option RemoteHome) : Request → Program (Remote Content) Response
  | .delete path => remoteDelete login home path
  | .rename path newName => remoteRename login home path newName
  | .move path destDir => remoteMove login home path destDir

end

/-- The names on a path, from the root directory down. -/
def namedPath (home : Option RemoteHome) (path : List Char) : FilePath :=
  let path := Chars.trim path
  let names :=
    if path = ['~'] then segments (homeText home)
    else if ['~', '/'] <+: path then segments (homeText home) ++ segments (path.drop 2)
    else segments path
  names.filter fun name => name ≠ [] ∧ name ≠ currentName

/-- The entry that a path names. A link at its end is not followed. -/
def namedEntry (tree : FileTree Content) (names : FilePath) : Option FilePath :=
  match names.getLast? with
  | none => some []
  | some name => if name = parentName then tree.canonicalize names else tree.entry names

def LeadsUp (path : List Char) : Prop := parentName ∈ segments (Chars.trim path)

instance (path : List Char) : Decidable (LeadsUp path) := inferInstanceAs (Decidable (_ ∈ _))

/-- An entry goes with what is below it, and nothing else. -/
def Removes (tree : FileTree Content) (entry : FilePath) (after : FileTree Content) : Prop :=
  entry ≠ [] ∧ (tree.node entry).isSome ∧ tree.Without (entry <+: ·) after

/-- An entry goes to a free place with what is below it, and nothing else changes. -/
def Relocates (tree : FileTree Content) (entry : FilePath) (after : FileTree Content) : Prop :=
  (tree.node entry).isSome ∧ ∃ destination, tree.node destination = none ∧
    (∀ rest, after.node (destination ++ rest) = tree.node (entry ++ rest)) ∧
    (∀ rest, after.node (entry ++ rest) = none) ∧
    ∀ location, ¬ entry <+: location → ¬ destination <+: location →
      after.node location = tree.node location

/-- A request that succeeds has acted on the entry that its path names. A path that leads up or to
the root directory removes nothing. -/
def ActsOnNamed (tree : FileTree Content) (login : FilePath) (home : Option RemoteHome)
    (request : Request) : Prop :=
  ∀ errors, let outcome := request.run login home { tree, errors }
    match request with
    | .delete path =>
        (LeadsUp path ∨ tree.canonicalize (join login (resolveRemoteRel home path)) = some [] ∨
            namedEntry tree (namedPath home path) = some [] →
          ∀ location, outcome.1.tree.node location = tree.node location) ∧
        (outcome.2 = some .done → ∃ entry ∈ namedEntry tree (namedPath home path),
          Removes tree entry outcome.1.tree)
    | .rename path _ | .move path _ =>
        ∀ rel, outcome.2 = some (.relocated rel) →
          ∃ entry ∈ namedEntry tree (namedPath home path), Relocates tree entry outcome.1.tree

end Dinotty.Workspace.RemoteFiles
