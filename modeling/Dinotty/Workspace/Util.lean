/-
This file is what the endpoints over a pane's files share.
-/

import Dinotty.Foundation.FileAccess
import Dinotty.Foundation.Utf8

namespace Dinotty.Workspace

open FileTree

abbrev Bytes := List UInt8

abbrev Tree := FileTree Bytes

/-- Why a request is not served. -/
inductive Failure where
  | refused (status : Nat) (error : String)
  /-- A system call failed: status 500 with the text of the system. -/
  | system
  | panicked
  deriving DecidableEq

def jsonErr {Result : Type} (status : Nat) (error : String) : Except Failure Result :=
  .error (.refused status error)

/-- Return an error where a test of the handler fails. -/
def refuseIf (condition : Prop) [Decidable condition] (status : Nat) (error : String) :
    Except Failure Unit :=
  if condition then jsonErr status error else .ok ()

/-- What a system call answers, or its failure. -/
def orSystem {Result : Type} : Option Result → Except Failure Result
  | some result => .ok result
  | none => .error .system

def maxTextPreview : Nat := 512 * 1024

def maxDownload : Nat := 500 * 1024 * 1024

/-- A local session, with the directory that its shell last told. -/
structure Session where
  hostCwd : Option FilePath

def getRoot (tree : Tree) (session : Option Session) : Except Failure FilePath :=
  match session with
  | none => jsonErr 404 "unknown pane"
  | some session =>
      match session.hostCwd with
      | none => jsonErr 409 "cwd_unavailable_for_backend"
      | some cwd => .ok ((tree.canonicalize cwd).getD cwd)

/-- A path text without white space around it and slashes in front. -/
def trimPath (rel : List Char) : List Char := (Chars.trim rel).dropWhile (· = '/')

def normalizeJoin (root : FilePath) (rel : List Char) : Except Failure FilePath :=
  let rel := trimPath rel
  if parentName ∈ segments rel then jsonErr 400 "invalid path"
  else .ok (root ++ (segments rel).filter fun segment => segment ≠ [] ∧ segment ≠ currentName)

def pathMustBeUnder (tree : Tree) (root candidate : FilePath) : Except Failure Unit :=
  match tree.canonicalize root with
  | none => jsonErr 404 "cwd"
  | some rootCanon =>
      match tree.canonicalize candidate with
      | none => jsonErr 404 "path"
      | some candCanon =>
          if rootCanon <+: candCanon then .ok () else jsonErr 403 "outside workspace"

def relFromRoot (root full : FilePath) : Option (List Char) :=
  if root <+: full then
    some ((List.intercalate ['/'] (full.drop root.length)).map fun c =>
      if c = '\\' then '/' else c)
  else none

def validateEntryName (name : List Char) : Except Failure FileName :=
  let name := Chars.trim name
  if name = [] ∨ name = currentName ∨ name = parentName then jsonErr 400 "invalid name"
  else if '/' ∈ name ∨ '\\' ∈ name then jsonErr 400 "invalid name"
  else .ok name

/-- The directory part of a path of names. -/
def parent (path : FilePath) : Option FilePath := if path = [] then none else some path.dropLast

def parentDirMustBeInWorkspace (tree : Tree) (root filePath : FilePath) : Except Failure Unit :=
  match tree.canonicalize root with
  | none => jsonErr 404 "cwd"
  | some rootCanon =>
      match parent filePath with
      | none => jsonErr 400 "invalid path"
      | some directory =>
          match tree.canonicalize directory with
          | none => jsonErr 404 "parent not found"
          | some parentCanon =>
              if rootCanon <+: parentCanon then .ok () else jsonErr 403 "outside workspace"

/-! ### What the name of a file says -/

/-- The lower case of a text, exact where it is ASCII: the Kelvin sign is the only letter outside
ASCII with a lower case in it. -/
def toLowercase (text : List Char) : List Char :=
  text.map fun c => if c = '\u212A' then 'k' else Chars.toAsciiLower c

/-- The extension of the last name of a path. -/
def extension (path : FilePath) : Option (List Char) :=
  match ((path.getLastD []).splitOn '.').reverse with
  | [] | [_] => none
  | last :: before => if before = [[]] then none else some last

/-- The extension in lower case, empty where there is none. -/
def lowerExtension (path : FilePath) : String :=
  String.ofList (toLowercase ((extension path).getD []))

def detectLanguage (path : FilePath) : String :=
  match lowerExtension path with
  | "rs" => "rust"
  | "js" | "mjs" | "cjs" | "jsx" => "javascript"
  | "ts" | "mts" | "cts" | "tsx" => "typescript"
  | "py" => "python"
  | "go" => "go"
  | "java" => "java"
  | "c" | "h" => "c"
  | "cpp" | "cc" | "cxx" | "hpp" => "cpp"
  | "json" => "json"
  | "yaml" | "yml" => "yaml"
  | "toml" => "toml"
  | "xml" | "vue" => "xml"
  | "html" | "htm" => "html"
  | "css" | "scss" | "sass" => "css"
  | "md" | "markdown" => "markdown"
  | "sh" | "bash" | "zsh" => "bash"
  | "sql" => "sql"
  | _ => "plaintext"

def mediaKind (path : FilePath) : Option (String × String) :=
  match lowerExtension path with
  | "png" => some ("image", "image/png")
  | "jpg" | "jpeg" => some ("image", "image/jpeg")
  | "gif" => some ("image", "image/gif")
  | "webp" => some ("image", "image/webp")
  | "svg" => some ("image", "image/svg+xml")
  | "mp4" | "m4v" => some ("video", "video/mp4")
  | "webm" => some ("video", "video/webm")
  | "mov" => some ("video", "video/quicktime")
  | "ogv" => some ("video", "video/ogg")
  | "3gp" | "3gpp" => some ("video", "video/3gpp")
  | "mkv" => some ("video", "video/x-matroska")
  | "mp3" => some ("audio", "audio/mpeg")
  | "wav" => some ("audio", "audio/wav")
  | "ogg" | "oga" => some ("audio", "audio/ogg")
  | "m4a" => some ("audio", "audio/mp4")
  | "flac" => some ("audio", "audio/flac")
  | "pdf" => some ("pdf", "application/pdf")
  | _ => none

def skipTextPreview (path : FilePath) : Bool :=
  match lowerExtension path with
  | "cube" | "lut" | "3dl" | "dat" => true
  | _ => false

def officeKind (path : FilePath) : Option (String × String) :=
  match lowerExtension path with
  | "doc" => some ("office", "application/msword")
  | "docx" =>
      some ("office", "application/vnd.openxmlformats-officedocument.wordprocessingml.document")
  | "xls" => some ("office", "application/vnd.ms-excel")
  | "xlsx" => some ("office", "application/vnd.openxmlformats-officedocument.spreadsheetml.sheet")
  | _ => none

/-! ### The range header -/

inductive ByteRangeResult where
  | full
  | part (start stop : Nat)
  | notSatisfiable
  deriving DecidableEq

/-- An end of a range: its default where it is left out, and nothing where it is no number. -/
def rangeEnd (text : List Char) (default : Nat) : Option Nat :=
  if text = [] then some default else Chars.parseUnsigned (2 ^ 64) text

def resolveByteRange (rangeHeader : List Char) (size : Nat) : ByteRangeResult :=
  let header := Chars.trim rangeHeader
  if size = 0 then .full
  else if ¬ "bytes=".toList <+: header then .full
  else
    let first := Chars.trim ((header.drop 6).takeWhile (· ≠ ','))
    match first with
    | [] => .full
    | '-' :: suffix =>
        match (if suffix = [] then none else Chars.parseUnsigned (2 ^ 64) suffix) with
        | none => .full
        | some 0 => .notSatisfiable
        | some count => .part (size - count) (size - 1)
    | _ =>
        match Chars.splitOnce '-' first with
        | none => .full
        | some (fromText, toText) =>
            match rangeEnd fromText 0, rangeEnd toText (size - 1) with
            | some start, some stop =>
                if start ≥ size then .notSatisfiable
                else if min stop (size - 1) < start then .notSatisfiable
                else .part start (min stop (size - 1))
            | _, _ => .full

end Dinotty.Workspace
