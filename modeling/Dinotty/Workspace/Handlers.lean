/-
This file is the endpoints that read and change the files of a pane that runs on the host itself.
Each answers with the tree that it leaves, the accesses that it made and the answer.
-/

import Dinotty.Workspace.Util
import Dinotty.Foundation.Fallible

namespace Dinotty.Workspace

open FileTree

structure MetaResponse where
  kind : String
  content : Option (List Char) := none
  language : Option String := none
  truncated : Bool := false
  mime : Option String := none
  message : Option String := none

namespace MetaResponse

def media (kind mime : String) : MetaResponse := { kind, mime := some mime }

def unsupported : MetaResponse := { kind := "unsupported", message := some "binary file" }

end MetaResponse

structure RawResponse where
  status : Nat
  contentType : String
  contentLength : Option Nat := none
  contentRange : Option String := none
  body : Bytes := []

inductive Reply where
  | info (response : MetaResponse)
  | raw (response : RawResponse)
  | created (rel : List Char)
  | ok
  | moved (rel : List Char)

structure Outcome where
  tree : Tree
  accesses : List Access
  reply : Reply

def decode (bytes : Bytes) : Option (List Char) :=
  (String.fromUTF8? ⟨bytes.toArray⟩).map String.toList

def encode (text : List Char) : Bytes := (String.ofList text).toUTF8.data.toList

section

variable (tree : Tree) (session : Option Session)

/-! ### Reading -/

def textMeta (target : FilePath) (bytes : Bytes) : MetaResponse :=
  let truncated : Bool := maxTextPreview < bytes.length
  let slice := if truncated then bytes.take maxTextPreview else bytes
  match decode slice with
  | none => .unsupported
  | some text =>
      let lang := detectLanguage target
      { kind := if lang = "markdown" then "markdown" else if lang = "html" then "html" else "text"
        content := some text
        language := some lang
        truncated
        message := if truncated then some "truncated" else none }

/-- The location of a file with its size, within the limit of a download. -/
def checkedFile (root target : FilePath) : Except Failure (FilePath × Bytes) := do
  refuseIf (tree.isFile target = false) 400 "not a file"
  pathMustBeUnder tree root target
  let found ← orSystem (tree.readFile target)
  refuseIf (maxDownload < found.2.length) 400 "file too large"
  return found

def workspaceMeta (path : List Char) : Except Failure Outcome := do
  let root ← getRoot tree session
  let target ← normalizeJoin root path
  let (location, _) ← checkedFile tree root target
  let answer (response : MetaResponse) : Outcome := ⟨tree, [.read location], .info response⟩
  match mediaKind target with
  | some (kind, mime) => return answer (.media kind mime)
  | none =>
      match officeKind target with
      | some (kind, mime) => return answer (.media kind mime)
      | none =>
          if skipTextPreview target then return answer .unsupported
          let (again, bytes) ← orSystem (tree.readFile target)
          return { answer (textMeta target bytes) with accesses := [.read location, .read again] }

/-- Serve a file or a range of it. The type that a name suggests is guessed outside. -/
def workspaceRaw (mimeGuess : FilePath → String) (path : List Char)
    (rangeHeader : Option (List Char)) : Except Failure Outcome := do
  let root ← getRoot tree session
  let target ← normalizeJoin root path
  let (location, bytes) ← checkedFile tree root target
  let len := bytes.length
  let contentType := ((mediaKind target).map Prod.snd).getD (mimeGuess target)
  let answer (accesses : List Access) (response : RawResponse) : Outcome :=
    ⟨tree, .read location :: accesses, .raw response⟩
  if len = 0 then return answer [] { status := 200, contentType, contentLength := some 0 }
  match (rangeHeader.map fun header => resolveByteRange header len).getD .full with
  | .part start stop => do
      let (again, bytes) ← orSystem (tree.readFile target)
      return answer [.read again]
        { status := 206
          contentType
          contentLength := some (stop - start + 1)
          contentRange := some s!"bytes {start}-{stop}/{len}"
          body := (bytes.drop start).take (stop - start + 1) }
  | .notSatisfiable =>
      return answer [] { status := 416, contentType, contentRange := some s!"bytes */{len}" }
  | .full => do
      let (again, bytes) ← orSystem (tree.readFile target)
      return answer [.read again]
        { status := 200, contentType, contentLength := some len, body := bytes }

/-! ### Changing -/

def workspaceCreateEntry (parentPath kind name : List Char) : Except Failure Outcome := do
  let name ← validateEntryName name
  let kind := toLowercase kind
  refuseIf (kind ≠ "file".toList ∧ kind ≠ "dir".toList) 400 "invalid kind"
  let root ← getRoot tree session
  let parentDir ← normalizeJoin root parentPath
  refuseIf (tree.isDir parentDir = false) 400 "parent not a directory"
  pathMustBeUnder tree root parentDir
  let dest := parentDir ++ [name]
  refuseIf (tree.fileExists dest = true) 409 "already exists"
  let done ← orSystem
    (tree.createEntry dest (if kind = "dir".toList then .directory else .file []))
  match relFromRoot root dest with
  | none => jsonErr 400 "bad path"
  | some rel => return ⟨done.tree, [done.access], .created rel⟩

def workspacePutFile (path content : List Char) : Except Failure Outcome := do
  refuseIf (maxDownload < Utf8.size content) 400 "content too large"
  let root ← getRoot tree session
  let target ← normalizeJoin root path
  refuseIf (tree.fileExists target = true ∧ tree.isDir target = true) 400 "is directory"
  parentDirMustBeInWorkspace tree root target
  let done ← orSystem (tree.writeFile target (encode content))
  return ⟨done.tree, [done.access], .ok⟩

def workspaceDelete (path : List Char) : Except Failure Outcome := do
  let root ← getRoot tree session
  let target ← normalizeJoin root path
  refuseIf (tree.fileExists target = false) 404 "not found"
  pathMustBeUnder tree root target
  refuseIf (tree.canonicalize target = tree.canonicalize root) 400 "cannot delete workspace root"
  if tree.isFile target then
    let done ← orSystem (tree.removeFile target)
    return ⟨done.tree, [done.access], .ok⟩
  else if tree.isDir target then
    match tree.removeDirAll target with
    | some (done, true) => return ⟨done.tree, [done.access], .ok⟩
    | _ => .error .system
  else jsonErr 400 "not a file or directory"

def workspaceRename (path newName : List Char) : Except Failure Outcome := do
  let root ← getRoot tree session
  let target ← normalizeJoin root path
  refuseIf (tree.fileExists target = false) 404 "not found"
  pathMustBeUnder tree root target
  let newName ← validateEntryName newName
  match parent target with
  | none => jsonErr 400 "invalid path"
  | some parent =>
      let dest := parent ++ [newName]
      refuseIf (tree.fileExists dest = true) 409 "already exists"
      let done ← orSystem (tree.rename target dest)
      return ⟨done.tree, [done.access], .moved ((relFromRoot root dest).getD [])⟩

def workspaceMove (path destPath : List Char) : Except Failure Outcome := do
  let root ← getRoot tree session
  let source ← normalizeJoin root path
  refuseIf (tree.fileExists source = false) 404 "source not found"
  pathMustBeUnder tree root source
  let destDir ← normalizeJoin root destPath
  refuseIf (tree.isDir destDir = false) 400 "dest is not a directory"
  pathMustBeUnder tree root destDir
  match source.getLast? with
  | none => jsonErr 400 "invalid source path"
  | some fileName =>
      let dest := destDir ++ [fileName]
      refuseIf (tree.fileExists dest = true) 409 "already exists in destination"
      let destCanon := (tree.canonicalize destDir).getD destDir
      let sourceCanon := (tree.canonicalize source).getD source
      refuseIf (tree.isDir source = true ∧ sourceCanon <+: destCanon) 400 "cannot move into itself"
      let done ← orSystem (tree.rename source dest)
      return ⟨done.tree, [done.access], .moved ((relFromRoot root dest).getD [])⟩

/-! ### Taking back lines -/

/-- The text with some of its lines replaced, or nothing where the first is past the end by more
than one. -/
def revertLines (startLine endLine : Nat) (originalLines current : List Char) :
    Option (List Char) :=
  let currentLines := Chars.lines current
  let start := startLine - 1
  let stop := min endLine currentLines.length
  if currentLines.length < start then none
  else
    let newContent := List.intercalate ['\n']
      (currentLines.take start ++ Chars.lines originalLines ++ currentLines.drop stop)
    if current.getLast? = some '\n' ∧ newContent.getLast? ≠ some '\n' then
      some (newContent ++ ['\n'])
    else some newContent

def workspaceGitRevertLines (path : List Char) (startLine endLine : Nat)
    (originalLines : List Char) : Except Failure Outcome := do
  let root ← getRoot tree session
  let rel := trimPath path
  refuseIf (rel = []) 400 "path required"
  let target ← normalizeJoin root rel
  let (location, bytes) ← orSystem (tree.readFile target)
  let current ← orSystem (decode bytes)
  match revertLines startLine endLine originalLines current with
  | none => .error .panicked
  | some content =>
      let done ← orSystem (tree.writeFile target (encode content))
      return ⟨done.tree, [.read location, done.access], .ok⟩

end

/-! ### The endpoints together -/

/-- A request to one of the endpoints over the files of a pane. -/
inductive Request where
  | info (path : List Char)
  | raw (path : List Char) (rangeHeader : Option (List Char))
  | create (parent kind name : List Char)
  | putFile (path content : List Char)
  | delete (path : List Char)
  | rename (path newName : List Char)
  | move (path dest : List Char)
  | gitRevertLines (path : List Char) (startLine endLine : Nat) (originalLines : List Char)

def serve (mimeGuess : FilePath → String) (tree : Tree) (session : Option Session) :
    Request → Except Failure Outcome
  | .info path => workspaceMeta tree session path
  | .raw path rangeHeader => workspaceRaw tree session mimeGuess path rangeHeader
  | .create parent kind name => workspaceCreateEntry tree session parent kind name
  | .putFile path content => workspacePutFile tree session path content
  | .delete path => workspaceDelete tree session path
  | .rename path newName => workspaceRename tree session path newName
  | .move path dest => workspaceMove tree session path dest
  | .gitRevertLines path startLine endLine originalLines =>
      workspaceGitRevertLines tree session path startLine endLine originalLines

end Dinotty.Workspace
