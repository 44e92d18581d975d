/-
This file is the installation of a language pack. The client and the server measure its texts in
different units, and the server stores one key under another name.
-/

import Dinotty.Workspace.Offsets

namespace Dinotty.Locales

open List Option

abbrev Text := List Char

def byteLength (text : Text) : Nat := (text.map Char.utf8Size).sum

def utf16Length (text : Text) : Nat := (text.map Workspace.utf16Units).sum

def maxPackBytes : Nat := 512 * 1024

def maxMessages : Nat := 20000

def maxValueLength : Nat := 4000

def maxTagLength : Nat := 35

def forbiddenKeys : List Text := ["__proto__".toList, "constructor".toList, "prototype".toList]

/-! ### Reading a pack -/

inductive Entry where
  | text (value : Text)
  | other

/-- A value of a manifest. The entries of an object are taken in the order of their keys. -/
inductive Value where
  | text (value : Text)
  | object (entries : List (Text × Entry))
  | other

abbrev Manifest := List (String × Value)

structure Pack where
  tag : Text
  name : Text
  version : Option Text
  minAppVersion : Option Text
  extends_ : Text
  messages : List (Text × Text)
  deriving DecidableEq

/-- What the client and the server read of a JSON text, and what the server writes for a pack. -/
structure Json where
  parse : Text → Option (Option Manifest)
  fromStr : Text → Option (Option Manifest)
  toVecPretty : Pack → Text

def tagChars : Bool → Text → Bool
  | _, [] => true
  | lastWasDash, c :: rest =>
      if c = '-' then !lastWasDash && tagChars true rest
      else c.isAlphanum && tagChars false rest

def isValidTag (length : Text → Nat) (tag : Text) : Bool :=
  2 ≤ length tag && length tag ≤ maxTagLength && tag.head? ≠ some '-' && tag.getLast? ≠ some '-' &&
    tagChars false tag

def usable (length : Text → Nat) : Text × Entry → Option (Text × Text)
  | (_, .other) => none
  | (key, .text value) =>
      if key ∉ forbiddenKeys ∧ length value ≤ maxValueLength then some (key, value) else none

def sanitizeMessages (length : Text → Nat) (entries : List (Text × Entry)) : List (Text × Text) :=
  entries.filterMap (usable length)

def Manifest.getStr (manifest : Manifest) (key : String) : Option Text :=
  match manifest.lookup key with
  | some (.text value) => some value
  | _ => none

def Manifest.getOr (manifest : Manifest) (key : String) (default : Text) : Text :=
  ((manifest.getStr key).filter (· ≠ [])).getD default

def Manifest.pack (length : Text → Nat) (manifest : Manifest) (entries : List (Text × Entry))
    (fallbackTag : Text) : Pack where
  tag := manifest.getOr "tag" fallbackTag
  name := manifest.getOr "name" (manifest.getOr "tag" fallbackTag)
  version := manifest.getStr "version"
  minAppVersion := manifest.getStr "minAppVersion"
  extends_ := manifest.getOr "extends" "en".toList
  messages := sanitizeMessages length entries

def Pack.Usable (length : Text → Nat) (pack : Pack) : Prop :=
  isValidTag length pack.tag = true ∧ pack.messages ≠ [] ∧
    (pack.extends_ = pack.tag ∨ isValidTag length pack.extends_ = true)

instance (length : Text → Nat) (pack : Pack) : Decidable (pack.Usable length) :=
  inferInstanceAs (Decidable (_ ∧ _))

def readPack (length : Text → Nat) (read : Text → Option (Option Manifest))
    (text fallbackTag : Text) : Option Pack :=
  if maxPackBytes < length text then none
  else
    match read text with
    | some (some manifest) =>
        match manifest.lookup "messages" with
        | some (.object entries) =>
            let pack := manifest.pack length entries fallbackTag
            if entries.length ≤ maxMessages ∧ pack.Usable length then some pack else none
        | _ => none
    | _ => none

/-- The client measures in units of UTF-16. -/
def parseLocalePack (json : Json) : Text → Text → Option Pack := readPack utf16Length json.parse

/-- The server measures in bytes. -/
def sanitizePack (json : Json) : Text → Text → Option Pack := readPack byteLength json.fromStr

/-! ### Storing and listing -/

def Pack.serialize (pack : Pack) : Manifest :=
  [("tag", .text pack.tag), ("name", .text pack.name)] ++
    (pack.version.map fun version => ("version", .text version)).toList ++
    (pack.minAppVersion.map fun version => ("min_app_version", .text version)).toList ++
    [("extends", .text pack.extends_),
      ("messages", .object (pack.messages.map fun message => (message.1, .text message.2)))]

def fileName (tag : Text) : Text := tag ++ ".json".toList

/-- The files, by their names, with that of a pack that is installed. -/
def installPack (json : Json) (files : List (Text × Text)) (pack : Pack) : List (Text × Text) :=
  files.filter (·.1 ≠ fileName pack.tag) ++ [(fileName pack.tag, json.toVecPretty pack)]

structure LocaleFile where
  file : Text
  body : Text

def getLocales (files : List (Text × Text)) : List LocaleFile :=
  (files.filterMap fun (name, body) =>
    let stem := name.take (name.length - 5)
    if fileName stem = name ∧ isValidTag byteLength stem = true ∧ byteLength body ≤ maxPackBytes then
      some ⟨stem, body⟩
    else none).mergeSort fun a b => a.file ≤ b.file

/-- The server accepts the text and lists the pack that it stores, as the client and the server read
it. -/
def ComesBack (json : Json) (files : List (Text × Text)) (text fallbackTag : Text) (pack : Pack) :
    Prop :=
  ∃ stored, sanitizePack json text fallbackTag = some stored ∧
    ⟨stored.tag, json.toVecPretty stored⟩ ∈ getLocales (installPack json files stored) ∧
    parseLocalePack json (json.toVecPretty stored) stored.tag = some pack ∧
    sanitizePack json (json.toVecPretty stored) stored.tag = some stored

/-! ### The two measures -/

theorem utf16Units_of_ascii {c : Char} (ascii : c.utf8Size = 1) : Workspace.utf16Units c = 1 := by
  have low : c.toNat ≤ 127 := UInt32.le_iff_toNat_le.mp (Char.utf8Size_eq_one_iff.mp ascii)
  exact if_pos (by omega)

theorem utf16Length_le (text : Text) : utf16Length text ≤ byteLength text := by
  refine List.sum_le_sum fun c _ => ?_
  rcases Nat.lt_or_ge c.utf8Size 2 with short | long
  · exact (utf16Units_of_ascii (by have := c.utf8Size_pos; omega)).trans_le c.utf8Size_pos
  · unfold Workspace.utf16Units
    split <;> omega

theorem utf8Size_of_isAlphanum {c : Char} (alphanum : c.isAlphanum = true) : c.utf8Size = 1 := by
  refine Char.utf8Size_eq_one_iff.mpr (UInt32.le_iff_toNat_le.mpr ?_)
  simp only [Char.isAlphanum, Char.isAlpha, Char.isUpper, Char.isLower, Char.isDigit,
    Bool.or_eq_true, Bool.and_eq_true, decide_eq_true_eq, UInt32.le_iff_toNat_le, ge_iff_le,
    UInt32.reduceToNat] at alphanum ⊢
  have bounds : 'Z'.val.toNat = 90 ∧ 'z'.val.toNat = 122 ∧ '9'.val.toNat = 57 := by decide
  omega

theorem utf16Length_of_tagChars {lastWasDash : Bool} {tag : Text}
    (chars : tagChars lastWasDash tag = true) : utf16Length tag = byteLength tag := by
  refine congrArg sum (map_congr_left fun c mem => ?_)
  have ascii : c.utf8Size = 1 := by
    induction tag generalizing lastWasDash with
    | nil => cases mem
    | cons first rest ih =>
      rw [tagChars] at chars
      split at chars <;> rw [Bool.and_eq_true] at chars <;>
        rcases mem_cons.mp mem with rfl | later
      next dash =>
        rw [dash]
        rfl
      · exact ih chars.2 later
      · exact utf8Size_of_isAlphanum chars.1
      · exact ih chars.2 later
  rw [utf16Units_of_ascii ascii, ascii]

theorem isValidTag_eq (tag : Text) : isValidTag utf16Length tag = isValidTag byteLength tag := by
  unfold isValidTag
  cases chars : tagChars false tag with
  | true => rw [utf16Length_of_tagChars chars]
  | false => rw [Bool.and_false, Bool.and_false]

theorem Pack.usable_iff (pack : Pack) : pack.Usable utf16Length ↔ pack.Usable byteLength := by
  unfold Pack.Usable
  rw [isValidTag_eq, isValidTag_eq]

/-! ### Reading back a pack -/

section

variable {length : Text → Nat} {read : Text → Option (Option Manifest)} {text fallbackTag : Text}
  {pack : Pack}

theorem readPack_eq_some : readPack length read text fallbackTag = some pack ↔
    length text ≤ maxPackBytes ∧ ∃ manifest entries, read text = some (some manifest) ∧
      manifest.lookup "messages" = some (.object entries) ∧ entries.length ≤ maxMessages ∧
      pack = manifest.pack length entries fallbackTag ∧ pack.Usable length := by
  unfold readPack
  constructor
  · intro taken
    split at taken
    · cases taken
    next small =>
      split at taken
      next manifest isRead =>
        split at taken
        next entries isMessages =>
          obtain ⟨⟨few, usable⟩, same⟩ := ite_none_right_eq_some.mp taken
          obtain rfl := Option.some.inj same
          exact ⟨Nat.not_lt.mp small, manifest, entries, isRead, isMessages, few, rfl, usable⟩
        · cases taken
      · cases taken
  · rintro ⟨small, manifest, entries, isRead, isMessages, few, rfl, usable⟩
    rw [if_neg (Nat.not_lt.mpr small), isRead]
    dsimp only
    rw [isMessages]
    exact if_pos ⟨few, usable⟩

theorem usable_eq_some {entry : Text × Entry} {msg : Text × Text} :
    usable length entry = some msg ↔ entry = (msg.1, .text msg.2) ∧
      msg.1 ∉ forbiddenKeys ∧ length msg.2 ≤ maxValueLength := by
  obtain ⟨key, value⟩ := entry
  cases value with
  | other => simp [usable]
  | text value =>
    rw [usable, ite_none_right_eq_some, some_inj]
    constructor
    · rintro ⟨clean, rfl⟩
      exact ⟨rfl, clean⟩
    · rintro ⟨same, clean⟩
      cases same
      exact ⟨clean, rfl⟩

theorem clean_of_mem {entries : List (Text × Entry)} {msg : Text × Text}
    (mem : msg ∈ sanitizeMessages length entries) :
    msg.1 ∉ forbiddenKeys ∧ length msg.2 ≤ maxValueLength :=
  (mem_filterMap.mp mem).elim fun _ kept => (usable_eq_some.mp kept.2).2

def Pack.entries (pack : Pack) : List (Text × Entry) :=
  pack.messages.map fun message => (message.1, .text message.2)

theorem sanitizeMessages_entries (clean : ∀ message ∈ pack.messages,
      message.1 ∉ forbiddenKeys ∧ length message.2 ≤ maxValueLength) :
    sanitizeMessages length pack.entries = pack.messages := by
  rw [sanitizeMessages, Pack.entries, filterMap_map]
  refine (filterMap_congr fun message mem => ?_).trans filterMap_some
  exact usable_eq_some.mpr ⟨rfl, clean message mem⟩

theorem sanitizeMessages_bytes {entries : List (Text × Entry)}
    (short : ∀ msg ∈ sanitizeMessages utf16Length entries, byteLength msg.2 ≤ maxValueLength) :
    sanitizeMessages byteLength entries = sanitizeMessages utf16Length entries := by
  refine filterMap_congr fun entry mem => Option.ext fun msg => ?_
  rw [usable_eq_some, usable_eq_some]
  refine and_congr_right fun same => and_congr_right fun allowed => ⟨fun fits => ?_, fun fits => ?_⟩
  · exact (utf16Length_le msg.2).trans fits
  · exact short msg (mem_filterMap.mpr ⟨entry, mem, usable_eq_some.mpr ⟨same, allowed, fits⟩⟩)

theorem ne_nil_of_isValidTag {tag : Text} (valid : isValidTag byteLength tag = true) :
    tag ≠ [] := by
  rintro rfl
  cases valid

theorem getOr_ne_nil {manifest : Manifest} {key : String} {default : Text} (some : default ≠ []) :
    manifest.getOr key default ≠ [] := by
  unfold Manifest.getOr
  cases given : (manifest.getStr key).filter (· ≠ []) with
  | none => exact some
  | some value => exact of_decide_eq_true (filter_eq_some_iff.mp given).2

theorem getOr_eq {manifest : Manifest} {key : String} {default value : Text}
    (given : manifest.lookup key = some (.text value)) (some : value ≠ []) :
    manifest.getOr key default = value := by
  rw [Manifest.getOr, Manifest.getStr, given]
  exact congrArg (getD · default) (filter_some_pos (decide_eq_true some))

theorem readPack_serialize (small : length text ≤ maxPackBytes)
    (isRead : read text = some (some pack.serialize)) (named : pack.name ≠ [])
    (few : pack.messages.length ≤ maxMessages) (usable : pack.Usable length)
    (valid : pack.Usable byteLength) (clean : ∀ message ∈ pack.messages,
      message.1 ∉ forbiddenKeys ∧ length message.2 ≤ maxValueLength) :
    readPack length read text fallbackTag = some { pack with minAppVersion := none } := by
  have tagged := ne_nil_of_isValidTag valid.1
  have extended : pack.extends_ ≠ [] :=
    valid.2.2.elim (fun same => same ▸ tagged) ne_nil_of_isValidTag
  have isMessages : pack.serialize.lookup "messages" = some (.object pack.entries) ∧
      pack.serialize.lookup "extends" = some (.text pack.extends_) ∧
      pack.serialize.getStr "version" = pack.version ∧
      pack.serialize.getStr "minAppVersion" = none := by
    unfold Manifest.getStr Pack.serialize
    cases pack.version <;> cases pack.minAppVersion <;> exact ⟨rfl, rfl, rfl, rfl⟩
  obtain ⟨isMessages, isExtends, isVersion, unnamed⟩ := isMessages
  refine readPack_eq_some.mpr ⟨small, _, _, isRead, isMessages, ?_, ?_, usable⟩
  · rwa [Pack.entries, length_map]
  · rw [Manifest.pack, sanitizeMessages_entries clean, isVersion, unnamed,
      getOr_eq isExtends extended, @getOr_eq pack.serialize "tag" _ pack.tag rfl tagged,
      @getOr_eq pack.serialize "name" _ pack.name rfl named]

end

theorem mem_getLocales {files : List (Text × Text)} {tag body : Text} :
    ⟨tag, body⟩ ∈ getLocales files ↔ (fileName tag, body) ∈ files ∧
      isValidTag byteLength tag = true ∧ byteLength body ≤ maxPackBytes := by
  rw [getLocales, mem_mergeSort, mem_filterMap]
  constructor
  · rintro ⟨⟨name, content⟩, mem, listed⟩
    obtain ⟨⟨isName, valid, small⟩, same⟩ := ite_none_right_eq_some.mp listed
    cases same
    exact ⟨isName.symm ▸ mem, valid, small⟩
  · rintro ⟨mem, valid, small⟩
    have stem : (fileName tag).take ((fileName tag).length - 5) = tag := by
      rw [fileName, length_append]
      exact take_left
    refine ⟨_, mem, ite_none_right_eq_some.mpr ?_⟩
    rw [stem]
    exact ⟨⟨rfl, valid, small⟩, rfl⟩

variable {json : Json} {text fallbackTag : Text} {pack : Pack}

/-- The server can read the text, the text, the messages and the stored pack keep to the limits in
bytes too, and the pack names no least version of the app. -/
def Fits (json : Json) (text : Text) (pack : Pack) : Prop :=
  (json.fromStr text).isSome ∧ byteLength text ≤ maxPackBytes ∧
    (∀ message ∈ pack.messages, byteLength message.2 ≤ maxValueLength) ∧
    byteLength (json.toVecPretty pack) ≤ maxPackBytes ∧ pack.minAppVersion = none

/-- A pack that the client accepts comes back exactly when it fits the server. -/
theorem comesBack_iff
    (agree : ∀ text manifest, json.fromStr text = some manifest → json.parse text = some manifest)
    (reads : ∀ pack, sanitizePack json text fallbackTag = some pack →
      json.fromStr (json.toVecPretty pack) = some (some pack.serialize))
    (accepted : parseLocalePack json text fallbackTag = some pack) (files : List (Text × Text)) :
    ComesBack json files text fallbackTag pack ↔ Fits json text pack := by
  obtain ⟨-, manifest, entries, isParsed, isMessages, few, same, usable⟩ :=
    readPack_eq_some.mp accepted
  have agreed : ∀ found, json.fromStr text = some found → found = some manifest := fun found isRead =>
    Option.some.inj ((agree text found isRead).symm.trans isParsed)
  -- the pack that the server stores, read by one of them
  have back : ∀ {length read stored}, sanitizePack json text fallbackTag = some stored →
      stored = manifest.pack byteLength entries fallbackTag → (∀ text, length text ≤ byteLength text) →
      length (json.toVecPretty stored) ≤ maxPackBytes → stored.Usable length →
      read (json.toVecPretty stored) = some (some stored.serialize) →
      readPack length read (json.toVecPretty stored) stored.tag =
        some { stored with minAppVersion := none } := by
    rintro length read stored sanitized rfl measured small usable isRead
    have valid := (readPack_eq_some.mp sanitized).2.choose_spec.choose_spec.2.2.2.2
    refine readPack_serialize small isRead (getOr_ne_nil (ne_nil_of_isValidTag valid.1))
      ((length_filterMap_le _ _).trans few) usable valid fun message mem => ?_
    have clean := clean_of_mem mem
    exact ⟨clean.1, (measured _).trans clean.2⟩
  constructor
  · rintro ⟨stored, sanitized, listed, parsed, -⟩
    obtain ⟨small, found, others, isRead, areMessages, -, isStored, valid⟩ :=
      readPack_eq_some.mp sanitized
    obtain rfl := Option.some.inj (agreed _ isRead)
    obtain rfl : others = entries :=
      Value.object.inj (Option.some.inj (areMessages.symm.trans isMessages))
    have restored := back sanitized isStored utf16Length_le (readPack_eq_some.mp parsed).1
      (stored.usable_iff.mpr valid) (agree _ _ (reads stored sanitized))
    obtain rfl := Option.some.inj (parsed.symm.trans restored)
    have unnamed : stored.minAppVersion = none :=
      (congrArg Pack.minAppVersion isStored).trans (congrArg Pack.minAppVersion same).symm
    have whole : { stored with minAppVersion := none } = stored := by rw [← unnamed]
    refine ⟨isRead ▸ rfl, small, fun message mem => ?_, ?_, rfl⟩
    · rw [isStored] at mem
      exact (clean_of_mem mem).2
    · rw [whole]
      exact (mem_getLocales.mp listed).2.2
  · rintro ⟨isSome, small, short, fits, unnamed⟩
    obtain ⟨found, isRead⟩ := Option.isSome_iff_exists.mp isSome
    obtain rfl := agreed found isRead
    have isStored : pack = manifest.pack byteLength entries fallbackTag := by
      rw [same] at short
      rw [same, Manifest.pack, Manifest.pack, sanitizeMessages_bytes short]
    have valid := pack.usable_iff.mp usable
    have sanitized : sanitizePack json text fallbackTag = some pack :=
      readPack_eq_some.mpr ⟨small, manifest, entries, isRead, isMessages, few, isStored, valid⟩
    have whole : { pack with minAppVersion := none } = pack := by rw [← unnamed]
    refine ⟨pack, sanitized, mem_getLocales.mpr ⟨mem_append_right _ (mem_singleton_self _), valid.1,
      fits⟩, ?_, ?_⟩
    · exact (back sanitized isStored utf16Length_le ((utf16Length_le _).trans fits) usable
        (agree _ _ (reads pack sanitized))).trans (congrArg some whole)
    · exact (back sanitized isStored (fun _ => Nat.le_refl _) fits valid (reads pack sanitized)).trans
        (congrArg some whole)

def newerText : Text :=
  "\x7b\"tag\":\"ja\",\"minAppVersion\":\"1\",\"messages\":\x7b\"a\":\"b\"\x7d\x7d".toList

def newerPack : Pack :=
  ⟨"ja".toList, "ja".toList, none, some "1".toList, "en".toList, [("a".toList, "b".toList)]⟩

def newerStored : Text := ("\x7b\n  \"tag\": \"ja\",\n  \"name\": \"ja\",\n  \"min_app_version\": \"1\",\n" ++
  "  \"extends\": \"en\",\n  \"messages\": \x7b\n    \"a\": \"b\"\n  \x7d\n\x7d").toList

def readNewer (text : Text) : Option (Option Manifest) :=
  if text = newerText then
    some (some [("tag", .text "ja".toList), ("minAppVersion", .text "1".toList),
      ("messages", .object [("a".toList, .text "b".toList)])])
  else if text = newerStored then some (some newerPack.serialize)
  else none

def newerJson : Json := ⟨readNewer, readNewer, fun _ => newerStored⟩

theorem comesBack_iff_newer :
    ComesBack newerJson [] newerText [] newerPack ↔ Fits newerJson newerText newerPack := by
  refine comesBack_iff (fun _ _ => id) (fun pack stored => ?_) (by decide +kernel) []
  have accepted : sanitizePack newerJson newerText [] = some newerPack := by decide +kernel
  obtain rfl := Option.some.inj (accepted.symm.trans stored)
  rfl

theorem minAppVersion_lost : parseLocalePack newerJson newerText [] = some newerPack ∧
    sanitizePack newerJson newerText [] = some newerPack ∧
    parseLocalePack newerJson (newerJson.toVecPretty newerPack) newerPack.tag =
      some { newerPack with minAppVersion := none } ∧
    { newerPack with minAppVersion := none } ≠ newerPack := by
  decide +kernel

end Dinotty.Locales
