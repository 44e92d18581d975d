/-
This file is the directory of uploads: its trimming, and the request that stores files in it.
-/

import Dinotty.Foundation.Fallible
import Dinotty.Workspace.Registry

namespace Dinotty.Uploads

open WorkspaceMgmt List

/-! ### Trimming -/

def uploadMarker : String := ".dinotty-uploads"

/-- An entry of the directory. The name is the text of the last component of the path. -/
structure DirEntry where
  path : String
  name : String
  isFile : Bool
  size : Nat
  modified : Option Int

structure UploadFileEntry where
  path : String
  name : String
  size : Nat
  modified : Int

inductive Removal where
  | removed
  | notFound
  | failed (error : String)

def Removal.fails : Removal → Bool
  | .failed _ => true
  | _ => false

/-- The directory as a request finds it: whether it has the marker, its entries, and what the
system makes of a removal. -/
structure UploadDir where
  marked : Bool
  entries : Except Rejection (List DirEntry)
  remove : String → Removal

def collectUploadFiles (entries : List DirEntry) : List UploadFileEntry :=
  (entries.filter fun entry => entry.name ≠ uploadMarker ∧ entry.isFile).map fun entry =>
    ⟨entry.path, entry.name, entry.size, entry.modified.getD 0⟩

/-- The cap on the bytes, which does not overflow. -/
def capBytes (capMb : Nat) : Nat := min (min (capMb * 1024) (2 ^ 64 - 1) * 1024) (2 ^ 64 - 1)

def isOlder (first second : UploadFileEntry) : Bool :=
  first.modified < second.modified ∨ first.modified = second.modified ∧ first.name ≤ second.name

def candidates (files : List UploadFileEntry) (keepPaths : List String) : List UploadFileEntry :=
  (files.filter fun file => file.path ∉ keepPaths).mergeSort isOlder

def trimLoop (remove : String → Removal) (capBytes capCount : Nat) :
    List UploadFileEntry → Nat → Nat → List UploadFileEntry × Except Rejection Unit
  | [], _, _ => ([], .ok ())
  | candidate :: rest, totalSize, totalCount =>
      if totalSize ≤ capBytes ∧ totalCount ≤ capCount then ([], .ok ())
      else
        match remove candidate.path with
        | .failed error => ([], .error { status := 500, error })
        | _ =>
            let (removed, result) :=
              trimLoop remove capBytes capCount rest (totalSize - candidate.size) (totalCount - 1)
            (candidate :: removed, result)

def totalBytes (files : List UploadFileEntry) : Nat := (files.map (·.size)).sum

/-- Trim a directory with the marker. The sizes are added up in 64 bits. -/
def trimUploadsDir (dir : UploadDir) (keepPaths : List String) (capMb capCount : Nat) :
    List UploadFileEntry × Except Rejection Unit :=
  if !dir.marked then ([], .ok ())
  else
    match dir.entries with
    | .error rejection => ([], .error rejection)
    | .ok entries =>
        let files := collectUploadFiles entries
        trimLoop dir.remove (capBytes capMb) capCount (candidates files keepPaths)
          (totalBytes files % 2 ^ 64) files.length

/-- The rest of the files is within the caps when so many of the oldest are taken away. -/
def Fits (totalSize totalCount capBytes capCount : Nat) (oldest : List UploadFileEntry)
    (count : Nat) : Prop :=
  totalSize - totalBytes (oldest.take count) ≤ capBytes ∧ totalCount - count ≤ capCount

/-- The files that are taken are the fewest of the oldest that have to go, and none is kept. -/
def TrimsExactly (files : List UploadFileEntry) (keepPaths : List String)
    (capBytes capCount : Nat) (removed : List UploadFileEntry) : Prop :=
  (∀ file ∈ removed, file.path ∉ keepPaths) ∧
    ∃ oldest : List UploadFileEntry, oldest.Perm (files.filter fun file => file.path ∉ keepPaths) ∧
      oldest.Pairwise (fun first second => isOlder first second = true) ∧
      ∃ count ≤ oldest.length, removed = oldest.take count ∧
        (∀ fewer < count, ¬Fits (totalBytes files) files.length capBytes capCount oldest fewer) ∧
        (count = oldest.length ∨
          Fits (totalBytes files) files.length capBytes capCount oldest count)

variable (files : List UploadFileEntry)

theorem totalBytes_take_mono {fewer more : Nat}
    (order : fewer ≤ more) : totalBytes (files.take fewer) ≤ totalBytes (files.take more) :=
  ((take_sublist_take_left order).map _).sum_le_sum fun _ _ => Nat.zero_le _

/-- How far the loop comes: to the end, to where the caps hold, or to a file that it cannot remove. -/
theorem trimLoop_spec (remove : String → Removal) (capBytes capCount : Nat)
    (oldest : List UploadFileEntry) (totalSize totalCount : Nat) :
    ∃ count ≤ oldest.length,
      (trimLoop remove capBytes capCount oldest totalSize totalCount).1 = oldest.take count ∧
      (∀ fewer < count, ¬Fits totalSize totalCount capBytes capCount oldest fewer ∧
        ∀ file, oldest[fewer]? = some file → ∀ error, remove file.path ≠ .failed error) ∧
      (count = oldest.length ∨ Fits totalSize totalCount capBytes capCount oldest count ∨
        ∃ file error, oldest[count]? = some file ∧ remove file.path = .failed error ∧
          ¬Fits totalSize totalCount capBytes capCount oldest count) := by
  induction oldest generalizing totalSize totalCount with
  | nil => exact ⟨0, Nat.le_refl _, rfl, nofun, .inl rfl⟩
  | cons cand rest ih =>
    have shifts (count : Nat) : Fits totalSize totalCount capBytes capCount (cand :: rest)
        (count + 1) ↔ Fits (totalSize - cand.size) (totalCount - 1) capBytes capCount rest
          count := by
      unfold Fits totalBytes
      rw [take_succ_cons, map_cons, sum_cons, Nat.sub_add_eq, Nat.add_comm count, Nat.sub_add_eq]
    unfold trimLoop
    by_cases fits : totalSize ≤ capBytes ∧ totalCount ≤ capCount
    · rw [if_pos fits]
      exact ⟨0, Nat.zero_le _, rfl, nofun, .inr (.inl fits)⟩
    rw [if_neg fits]
    cases res : remove cand.path with
    | failed error =>
      exact ⟨0, Nat.zero_le _, rfl, nofun, .inr (.inr ⟨cand, error, rfl, res, fits⟩)⟩
    | _ =>
      obtain ⟨count, bound, taken, before, stops⟩ :=
        ih (totalSize - cand.size) (totalCount - 1)
      refine ⟨count + 1, Nat.succ_le_succ bound, congrArg (cand :: ·) taken, ?_, ?_⟩
      · intro fewer lower
        cases fewer with
        | zero =>
          refine ⟨fits, fun file first error fails => ?_⟩
          cases first
          cases res.symm.trans fails
        | succ fewer =>
          rw [shifts]
          exact before fewer (Nat.lt_of_succ_lt_succ lower)
      · rw [shifts]
        exact stops.imp_left (congrArg Nat.succ)

theorem Fits.mono {totalSize totalCount capBytes capCount fewer more : Nat}
    {oldest : List UploadFileEntry} (fits : Fits totalSize totalCount capBytes capCount oldest fewer)
    (order : fewer ≤ more) : Fits totalSize totalCount capBytes capCount oldest more :=
  ⟨(Nat.sub_le_sub_left (totalBytes_take_mono oldest order) _).trans fits.1,
    (Nat.sub_le_sub_left order _).trans fits.2⟩

theorem candidates_perm (keepPaths : List String) :
    (candidates files keepPaths).Perm (files.filter fun file => file.path ∉ keepPaths) :=
  mergeSort_perm _ _

theorem candidates_sorted (keepPaths : List String) :
    (candidates files keepPaths).Pairwise fun first second => isOlder first second = true := by
  refine pairwise_mergeSort (fun first second third before after => ?_)
    (fun first second => ?_) _
  · simp only [isOlder, decide_eq_true_eq] at before after ⊢
    rcases before with before | ⟨same, before⟩
    · exact .inl (after.elim before.trans fun tie => tie.1 ▸ before)
    · exact same ▸ after.imp_right fun tie => ⟨tie.1, before.trans tie.2⟩
  · simp only [isOlder, Bool.or_eq_true, decide_eq_true_eq]
    rcases lt_trichotomy first.modified second.modified with older | same | newer
    · exact .inl (.inl older)
    · exact (le_total first.name second.name).imp (fun order => .inr ⟨same, order⟩)
        (fun order => .inr ⟨same.symm, order⟩)
    · exact .inr (.inl newer)

/-- The sum in 64 bits stops the trimming nowhere that the sum itself does not, and a file that
cannot be removed does not have to go. -/
structure Trimmable (files : List UploadFileEntry) (keepPaths : List String)
    (capBytes capCount : Nat) (remove : String → Removal) : Prop where
  sum : ∀ count < (candidates files keepPaths).length,
    Fits (totalBytes files % 2 ^ 64) files.length capBytes capCount (candidates files keepPaths)
      count →
    Fits (totalBytes files) files.length capBytes capCount (candidates files keepPaths) count
  removable : ∀ count file error, (candidates files keepPaths)[count]? = some file →
    remove file.path = .failed error →
    Fits (totalBytes files) files.length capBytes capCount (candidates files keepPaths) count

/-- Trimming takes the fewest of the oldest files that have to go, unless the sum of the sizes
overflows to where the caps hold or a file cannot be removed. -/
theorem trimUploadsDir_exact_iff (dir : UploadDir) (keepPaths : List String)
    (capMb capCount : Nat) (entries : List DirEntry) (managed : dir.marked = true)
    (listed : dir.entries = .ok entries) :
    TrimsExactly (collectUploadFiles entries) keepPaths (capBytes capMb) capCount
        (trimUploadsDir dir keepPaths capMb capCount).1 ↔
      Trimmable (collectUploadFiles entries) keepPaths (capBytes capMb) capCount dir.remove := by
  have unfolded : trimUploadsDir dir keepPaths capMb capCount =
      trimLoop dir.remove (capBytes capMb) capCount
        (candidates (collectUploadFiles entries) keepPaths)
        (totalBytes (collectUploadFiles entries) % 2 ^ 64) (collectUploadFiles entries).length := by
    simp [trimUploadsDir, managed, listed]
  rw [unfolded]
  generalize collectUploadFiles entries = files
  obtain ⟨count, bound, taken, before, stops⟩ :=
    trimLoop_spec dir.remove (capBytes capMb) capCount (candidates files keepPaths)
      (totalBytes files % 2 ^ 64) files.length
  rw [taken]
  have wraps (fewer : Nat)
      (fits : Fits (totalBytes files) files.length (capBytes capMb) capCount
        (candidates files keepPaths) fewer) :
      Fits (totalBytes files % 2 ^ 64) files.length (capBytes capMb) capCount
        (candidates files keepPaths) fewer :=
    ⟨(Nat.sub_le_sub_right (Nat.mod_le _ _) _).trans fits.1, fits.2⟩
  constructor
  · rintro ⟨-, oldest, permutes, -, other, otherBound, same, -, ends⟩
    have lengths := permutes.length_eq.trans (candidates_perm files keepPaths).length_eq.symm
    have counts : count = other := by
      have := congrArg List.length same
      rwa [length_take_of_le bound, length_take_of_le otherBound] at this
    subst counts
    -- Where the loop stops, the caps hold of the true sum, and so they do from there on.
    have after (later : Nat) (order : count ≤ later)
        (inside : later < (candidates files keepPaths).length) :
        Fits (totalBytes files) files.length (capBytes capMb) capCount
          (candidates files keepPaths) later := by
      rcases ends with done | fits
      · omega
      · unfold Fits at fits
        rw [← same] at fits
        exact Fits.mono fits order
    refine ⟨fun later inside fits => after later ?_ inside,
      fun later file error found fails => after later ?_ (List.getElem?_eq_some_iff.mp found).1⟩
    · exact Nat.le_of_not_lt fun earlier => (before later earlier).1 fits
    · exact Nat.le_of_not_lt fun earlier => (before later earlier).2 file found error fails
  · intro trimmable
    refine ⟨fun file member => ?_, candidates files keepPaths, candidates_perm files keepPaths,
      candidates_sorted files keepPaths, count, bound, rfl,
      fun fewer earlier fits => (before fewer earlier).1 (wraps fewer fits), ?_⟩
    · have kept := (candidates_perm files keepPaths).mem_iff.mp (mem_of_mem_take member)
      exact of_decide_eq_true (mem_filter.mp kept).2
    · rcases Nat.lt_or_eq_of_le bound with inside | done
      · rcases stops with done | fits | ⟨file, error, found, fails, unfit⟩
        · exact .inl done
        · exact .inr (trimmable.sum count inside fits)
        · exact (unfit (wraps count (trimmable.removable count file error found fails))).elim
      · exact .inl done

/-- Three files whose sizes add up to `2 ^ 64 + 1`. -/
def sparseFiles : List DirEntry :=
  [⟨"/u/a", "a", true, 2 ^ 63 - 1, some 1⟩, ⟨"/u/b", "b", true, 2 ^ 63 - 1, some 2⟩,
    ⟨"/u/c", "c", true, 3, some 3⟩]

def sparseDir : UploadDir := ⟨true, .ok sparseFiles, fun _ => .removed⟩

theorem sparse_files_iff : TrimsExactly (collectUploadFiles sparseFiles) ["/u/c"] (capBytes 1) 10
        (trimUploadsDir sparseDir ["/u/c"] 1 10).1 ↔
      Trimmable (collectUploadFiles sparseFiles) ["/u/c"] (capBytes 1) 10 sparseDir.remove :=
  trimUploadsDir_exact_iff sparseDir ["/u/c"] 1 10 sparseFiles rfl rfl

/-- The sum of the sizes wraps to one byte and every file stays. -/
theorem sparse_files_stay : ¬TrimsExactly (collectUploadFiles sparseFiles) [] (capBytes 1) 10
    (trimUploadsDir sparseDir [] 1 10).1 := by
  have stay : (trimUploadsDir sparseDir [] 1 10).1 = [] := by
    change (trimLoop _ (capBytes 1) 10 (candidates (collectUploadFiles sparseFiles) [])
      (totalBytes (collectUploadFiles sparseFiles) % 2 ^ 64)
      (collectUploadFiles sparseFiles).length).1 = []
    cases candidates (collectUploadFiles sparseFiles) [] with
    | nil => rfl
    | cons oldest rest => rw [trimLoop, if_pos (by decide)]
  rintro ⟨-, oldest, permutes, -, count, bound, same, -, ends⟩
  rw [stay] at same
  have length : oldest.length = 3 := permutes.length_eq.trans (by decide)
  have none : count = 0 := by
    rw [← length_take_of_le bound, ← same]
    rfl
  subst none
  rcases ends with done | fits
  · omega
  · have ended : ¬totalBytes (collectUploadFiles sparseFiles) ≤ capBytes 1 := by decide
    exact ended fits.1

/-! ### Uploading -/

def invalidFilename : Rejection := { status := 400, error := "invalid filename" }

def sanitizeUploadBasename (raw : String) : Except Rejection String :=
  if raw ∈ ["", ".", "..", uploadMarker] then .error invalidFilename
  else if raw.toList.any fun c => c = '/' ∨ c = '\\' ∨ c.toNat < 32 ∨ c.toNat = 127 then
    .error invalidFilename
  else .ok raw

/-- The name without its extension and the extension with its dot. -/
def splitExtension (name : List Char) : List Char × List Char :=
  let extension := (name.reverse.takeWhile (· ≠ '.')).reverse
  let stem := name.take (name.length - extension.length - 1)
  if stem = [] then (name, []) else (stem, '.' :: extension)

def suffixedUploadName (base : String) (n : Nat) : String :=
  let name := base.toList
  let compound := [".tar.gz", ".tar.bz2", ".tar.xz", ".tar.zst"].find? fun compound =>
    compound.toList <:+ name.map Char.toLower
  let stemLen := name.length - (compound.map String.length).getD name.length
  let (stem, ext) :=
    if 0 < stemLen then (name.take stemLen, name.drop stemLen) else splitExtension name
  String.ofList stem ++ " (" ++ toString n ++ ")" ++ String.ofList ext

/-- What the system makes of the steps of a request, and the directory as trimming and the status
find it. -/
structure UploadSystem where
  base : String
  refuses : String → Option Rejection
  write : String → Nat → Option Rejection
  flush : String → Option Rejection
  remove : String → Removal
  atTrim : List String → UploadDir
  atStatus : List String → UploadDir

/-- A part of the request. Its chunks end where reading fails. -/
structure Field where
  name : Option String
  fileName : Option String
  chunks : List (Except String (List UInt8))

structure UploadCaps where
  fileCapMb : Nat
  capMb : Nat
  capCount : Nat

def UploadCaps.fileCapBytes (caps : UploadCaps) : Nat :=
  min (caps.fileCapMb * (1024 * 1024)) (2 ^ 64 - 1)

variable (system : UploadSystem)

/-- Try the names from the number `n`, as long as some of the 32 bits are left. -/
def createFrom (files : List String) (base : String) : Nat → Nat → Except Rejection String
  | _, 0 => .error { status := 409, error := "too many filename collisions" }
  | n, left + 1 =>
      let path := system.base ++ "/" ++ if n = 0 then base else suffixedUploadName base n
      if path ∈ files then createFrom files base (n + 1) left
      else (system.refuses path).elim (.ok path) .error

def createNewUploadFile (files : List String) (base : String) : Except Rejection String :=
  createFrom system files base 0 (2 ^ 32)

def writeChunks (capBytes : Nat) (path : String) :
    List (Except String (List UInt8)) → Nat → Except Rejection Unit
  | [], _ => (system.flush path).elim (.ok ()) .error
  | .error error :: _, _ => .error { status := 400, error }
  | .ok chunk :: rest, written =>
      if 0 < capBytes ∧ capBytes < written + chunk.length then
        .error { status := 413, error := "upload file too large" }
      else
        match system.write path (written + chunk.length) with
        | some rejection => .error rejection
        | none => writeChunks capBytes path rest (written + chunk.length)

/-- The files after a rollback. One that the system does not remove stays. -/
def rollbackUploads (files writtenPaths : List String) (currentPath : Option String) :
    List String :=
  files.filter fun path => path ∉ writtenPaths ++ currentPath.toList ∨ (system.remove path).fails

def readFields (capBytes : Nat) : List (Except String Field) → List String → List String →
    List String × Except Rejection (List String)
  | [], files, writtenPaths => (files, .ok writtenPaths)
  | .error error :: _, files, writtenPaths =>
      (rollbackUploads system files writtenPaths none, .error { status := 400, error })
  | .ok field :: rest, files, writtenPaths =>
      if field.name = some "path" then
        (rollbackUploads system files writtenPaths none,
          .error { status := 400, error := "path field is not supported" })
      else
        match field.fileName with
        | none => readFields capBytes rest files writtenPaths
        | some filename =>
          match sanitizeUploadBasename filename >>= createNewUploadFile system files with
          | .error rejection => (rollbackUploads system files writtenPaths none, .error rejection)
          | .ok path =>
            match writeChunks system capBytes path field.chunks 0 with
            | .error rejection =>
                (rollbackUploads system (files ++ [path]) writtenPaths (some path),
                  .error rejection)
            | .ok () => readFields capBytes rest (files ++ [path]) (writtenPaths ++ [path])

structure UploadDirStatus where
  managed : Bool
  foreign : Bool
  empty : Bool
  deriving DecidableEq

def uploadDirStatus (dir : UploadDir) : Except Rejection UploadDirStatus :=
  dir.entries.map fun entries =>
    let empty := entries.all (·.name = uploadMarker)
    ⟨dir.marked, !dir.marked && !empty, empty⟩

/-- Trim a managed directory and read its status. -/
def finishUploads (caps : UploadCaps) (managed : Bool) (files writtenPaths : List String) :
    List String × Except Rejection (List String × UploadDirStatus) :=
  let (removed, trimmed) :=
    if managed then trimUploadsDir (system.atTrim files) writtenPaths caps.capMb caps.capCount
    else ([], .ok ())
  let files := files.filter (· ∉ removed.map (·.path))
  (files, do
    trimmed
    return (writtenPaths, ← uploadDirStatus (system.atStatus files)))

/-- The files that the request leaves and its response: what it saved and the status. -/
def workspaceUploads (caps : UploadCaps) (prepared : Except Rejection Bool)
    (fields : List (Except String Field)) (files : List String) :
    List String × Except Rejection (List String × UploadDirStatus) :=
  match prepared with
  | .error rejection => (files, .error rejection)
  | .ok managed =>
    match readFields system caps.fileCapBytes fields files [] with
    | (files, .error rejection) => (files, .error rejection)
    | (files, .ok writtenPaths) => finishUploads system caps managed files writtenPaths

/-- The files that the parts make until one fails. -/
def storing (capBytes : Nat) :
    List (Except String Field) → List String → List String × Option Rejection
  | [], _ => ([], none)
  | .error error :: _, _ => ([], some { status := 400, error })
  | .ok field :: rest, files =>
      if field.name = some "path" then
        ([], some { status := 400, error := "path field is not supported" })
      else
        match field.fileName with
        | none => storing capBytes rest files
        | some filename =>
          match sanitizeUploadBasename filename >>= createNewUploadFile system files with
          | .error rejection => ([], some rejection)
          | .ok path =>
            match writeChunks system capBytes path field.chunks 0 with
            | .error rejection => ([path], some rejection)
            | .ok () => (storing capBytes rest (files ++ [path])).map (path :: ·) id

variable {system}

theorem createFrom_fresh {files : List String} {base path : String} {n left : Nat}
    (created : createFrom system files base n left = .ok path) : path ∉ files := by
  induction left generalizing n with
  | zero => cases created
  | succ left ih =>
    dsimp only [createFrom] at created
    generalize system.base ++ "/" ++ (if n = 0 then base else _) = tried at created
    split at created
    · exact ih created
    · cases refused : system.refuses tried <;> rw [refused] at created <;> cases created
      assumption

/-- Reading makes new files, and takes them all back if a part fails. -/
theorem readFields_eq (system : UploadSystem) (capBytes : Nat) (fields : List (Except String Field))
    (files writtenPaths : List String) :
    (∀ path ∈ (storing system capBytes fields files).1, path ∉ files) ∧
      readFields system capBytes fields files writtenPaths =
        match storing system capBytes fields files with
        | (created, none) => (files ++ created, .ok (writtenPaths ++ created))
        | (created, some rejection) =>
            (rollbackUploads system (files ++ created) (writtenPaths ++ created) none,
              .error rejection) := by
  induction fields generalizing files writtenPaths with
  | nil => simp [storing, readFields]
  | cons part rest ih =>
    cases part with
    | error error => simp [storing, readFields]
    | ok field =>
      dsimp only [storing, readFields]
      by_cases isPath : field.name = some "path"
      · simp [isPath]
      rw [if_neg isPath, if_neg isPath]
      cases field.fileName with
      | none => exact ih files writtenPaths
      | some filename =>
        dsimp only
        cases made : sanitizeUploadBasename filename >>= createNewUploadFile system files with
        | error rejection => simp
        | ok path =>
          obtain ⟨name, -, created⟩ := Fallible.bind_eq_ok made
          have fresh : path ∉ files := createFrom_fresh created
          dsimp only
          cases writeChunks system capBytes path field.chunks 0 with
          | error rejection => simpa [rollbackUploads] using fresh
          | ok written =>
            obtain ⟨later, reads⟩ := ih (files ++ [path]) (writtenPaths ++ [path])
            refine ⟨fun other mem => ?_, ?_⟩
            · rcases mem_cons.mp mem with rfl | mem
              · exact fresh
              · exact fun old => later other mem (mem_append_left _ old)
            · rw [reads]
              rcases storing system capBytes rest (files ++ [path]) with ⟨_, _ | rejection⟩ <;> simp

theorem trimUploadsDir_kept {dir : UploadDir} {keepPaths : List String} {capMb capCount : Nat}
    {file : UploadFileEntry} (removed : file ∈ (trimUploadsDir dir keepPaths capMb capCount).1) :
    file.path ∉ keepPaths := by
  unfold trimUploadsDir at removed
  split at removed
  · cases removed
  split at removed
  · cases removed
  · dsimp only at removed
    obtain ⟨count, -, equal, -⟩ :=
      trimLoop_spec dir.remove (capBytes capMb) capCount (candidates _ keepPaths) _ _
    rw [equal] at removed
    have kept := (candidates_perm _ keepPaths).mem_iff.mp (mem_of_mem_take removed)
    exact of_decide_eq_true (mem_filter.mp kept).2

theorem mem_finishUploads {caps : UploadCaps} {managed : Bool} {files writtenPaths : List String}
    {path : String} (written : path ∈ writtenPaths) (held : path ∈ files) :
    path ∈ (finishUploads system caps managed files writtenPaths).1 := by
  refine mem_filter.mpr ⟨held, decide_eq_true fun removed => ?_⟩
  obtain ⟨file, taken, rfl⟩ := List.mem_map.mp removed
  cases managed with
  | true => exact trimUploadsDir_kept taken written
  | false => cases taken

/-- A response that is an error has no file behind it that was not there before. -/
def FailsClean {Response : Type} (files : List String)
    (result : List String × Except Rejection Response) : Prop :=
  ∀ rejection, result.2 = .error rejection → ∀ path ∈ result.1, path ∈ files

/-- The files made before a part fails can be removed, and nothing fails once all are stored. -/
def RollsBack (system : UploadSystem) (caps : UploadCaps) (prepared : Except Rejection Bool)
    (fields : List (Except String Field)) (files : List String) : Prop :=
  match prepared with
  | .error _ => True
  | .ok managed =>
    match storing system caps.fileCapBytes fields files with
    | (created, some _) => ∀ path ∈ created, (system.remove path).fails = false
    | (created, none) => created = [] ∨
        ∃ saved, (finishUploads system caps managed (files ++ created) created).2 = .ok saved

/-- What is stored is taken back when a part fails, and stays when a later step does. -/
theorem failed_upload_clean_iff (caps : UploadCaps) (prepared : Except Rejection Bool)
    (fields : List (Except String Field)) (files : List String) :
    FailsClean files (workspaceUploads system caps prepared fields files) ↔
      RollsBack system caps prepared fields files := by
  unfold workspaceUploads RollsBack
  cases prepared with
  | error rejection => exact iff_of_true (fun _ _ path present => present) trivial
  | ok managed =>
    have ⟨fresh, reads⟩ := readFields_eq system caps.fileCapBytes fields files []
    simp only [reads]
    generalize storing system caps.fileCapBytes fields files = stored at fresh ⊢
    obtain ⟨created, _ | rejection⟩ := stored
    · dsimp only [nil_append]
      constructor
      · intro clean
        cases created with
        | nil => exact .inl rfl
        | cons path others =>
          cases outcome : (finishUploads system caps managed _ (path :: others)).2 with
          | ok saved => exact .inr ⟨saved, rfl⟩
          | error rejection =>
            have stays : path ∈ (finishUploads system caps managed (files ++ path :: others)
                (path :: others)).1 :=
              mem_finishUploads mem_cons_self (mem_append_right _ mem_cons_self)
            exact (fresh path mem_cons_self (clean rejection outcome path stays)).elim
      · rintro (rfl | ⟨saved, succeeds⟩) rejection failed path present
        · simpa using (mem_filter.mp present).1
        · cases succeeds.symm.trans failed
    · constructor
      · intro clean path member
        by_contra fails
        refine fresh path member (clean rejection rfl path (mem_filter.mpr
          ⟨mem_append_right _ member, ?_⟩))
        simpa using .inr (by simpa using fails)
      · intro removable _ _ path present
        obtain ⟨member, stays⟩ := mem_filter.mp present
        refine (mem_append.mp member).resolve_right fun new => ?_
        simp [new, removable path new] at stays

/-- A directory with an old file that cannot be removed. -/
def stuckSystem : UploadSystem where
  base := "/u"
  refuses _ := none
  write _ _ := none
  flush _ := none
  remove path := if path = "/u/old" then .failed "not permitted" else .removed
  atTrim _ := ⟨true, .ok [⟨"/u/old", "old", true, 1, some 1⟩, ⟨"/u/a", "a", true, 1, some 2⟩],
    fun _ => .failed "not permitted"⟩
  atStatus _ := ⟨true, .ok [], fun _ => .removed⟩

/-- Trimming fails and the new file stays. -/
theorem upload_left_behind : ¬FailsClean ["/u/old"] (workspaceUploads stuckSystem ⟨1, 1, 1⟩
    (.ok true) [.ok ⟨some "file", some "a", [.ok [7]]⟩] ["/u/old"]) := fun clean =>
  absurd (clean { status := 500, error := "not permitted" } (by decide +kernel) "/u/a"
    (by decide +kernel)) (by decide)

end Dinotty.Uploads
