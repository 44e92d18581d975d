/-
This file is the choice of the bundles of a release that are offered as an update.
-/

import Dinotty.Plugin.Versions

namespace Dinotty.Update

open List Option Chars Plugin

inductive AssetKind where
  | dmg
  | appImage
  | deb
  | nsis
  | portable
  deriving DecidableEq

namespace AssetKind

def extension : AssetKind → List Char
  | dmg => ".dmg".toList
  | appImage => ".appimage".toList
  | deb => ".deb".toList
  | nsis | portable => ".exe".toList

def archToken : AssetKind → HostTarget → Option (List Char)
  | dmg, .macosAarch64 | appImage, .linuxAarch64 => some "aarch64".toList
  | dmg, .macosX8664 | nsis, .windowsX8664 | portable, .windowsX8664 => some "x64".toList
  | appImage, .linuxX8664 | deb, .linuxX8664 => some "amd64".toList
  | deb, .linuxAarch64 => some "arm64".toList
  | _, _ => none

def windowsSuffix : AssetKind → Option (List Char)
  | nsis => some "-setup".toList
  | portable => some "-portable".toList
  | _ => none

end AssetKind

structure GitHubAsset where
  name : List Char
  browserDownloadUrl : List Char
  size : Option Nat := none
  state : Option String := none

structure DownloadAsset where
  name : List Char
  url : List Char
  size : Option Nat
  kind : AssetKind

/-- The parts of a URL that the library has parsed, and how it writes the URL. -/
structure AssetUrl where
  scheme : String
  hostStr : Option String
  username : String := ""
  password : Option String := none
  port : Option Nat := none
  query : Option String := none
  fragment : Option String := none
  path : List Char
  text : List Char

def assetNamePrefix : List Char := "Dinotty_".toList

def downloadPathPrefix : List Char := "/xichan96/dinotty/releases/download/".toList

def lower (text : List Char) : List Char := text.map toAsciiLower

/-- The parts of a name between its delimiters. -/
def segments (name : List Char) : List (List Char) :=
  name.splitOnP fun c => c = '-' ∨ c = '_' ∨ c = '.'

def stripPrefix (front text : List Char) : Option (List Char) :=
  if front <+: text then some (text.drop front.length) else none

section

variable (parse : List Char → Except String AssetUrl)

def validateReleaseAssetUrl (rawUrl expectedTag expectedName : List Char) :
    Except String (List Char) := do
  let url ← (parse rawUrl).mapError ("invalid asset URL: " ++ ·)
  let pathIsExact := ((stripPrefix downloadPathPrefix url.path).bind (splitOnce '/')).any
    fun (tag, file) => tag = expectedTag ∧ file = expectedName
  if url.scheme = "https" ∧ url.hostStr = some "github.com" ∧ url.username = "" ∧
      url.password = none ∧ url.port = none ∧ url.query = none ∧ url.fragment = none ∧
      expectedTag ≠ [] ∧ expectedName ≠ [] ∧ '/' ∉ expectedName ∧
      ¬ "..".toList <:+: expectedName ∧ pathIsExact then
    return url.text
  else throw "asset URL is not an official Dinotty release asset URL"

/-- The looser rule for names. A bundle with a suffix is told by that. -/
def GitHubAsset.nameMatches (asset : GitHubAsset) (kind : AssetKind) (target : HostTarget) : Bool :=
  match kind.archToken target with
  | none => false
  | some token =>
      let name := lower asset.name
      if ¬ lower assetNamePrefix <+: name ∨ ¬ kind.extension <:+ name then false
      else
        match kind.windowsSuffix with
        | some suffix => suffix <:+ name.take (name.length - kind.extension.length)
        | none => token ∈ segments name ∧ ¬ "-portable".toList <:+: name

def assetPreferences : HostTarget → List AssetKind
  | .macosAarch64 | .macosX8664 => [.dmg]
  | .windowsX8664 => [.nsis, .portable]
  | .linuxX8664 | .linuxAarch64 => [.appImage, .deb]

def exactName (version : SemanticVersion) (target : HostTarget) (kind : AssetKind) : List Char :=
  assetNamePrefix ++ version.text ++ '_' :: (kind.archToken target).getD [] ++
    kind.windowsSuffix.getD [] ++ kind.extension

def GitHubAsset.eligible (asset : GitHubAsset) : Bool := asset.state.all (· = "uploaded")

def GitHubAsset.isExact (asset : GitHubAsset) (version : SemanticVersion) (target : HostTarget)
    (kind : AssetKind) : Bool :=
  eqIgnoreAsciiCase asset.name (exactName version target kind)

/-- The bundle of a kind, of which the expected name is tried first. -/
def candidateOf (assets : List GitHubAsset) (version : SemanticVersion) (target : HostTarget)
    (kind : AssetKind) : Option GitHubAsset :=
  let eligible := assets.filter GitHubAsset.eligible
  (eligible.find? (·.isExact version target kind)).or (eligible.find? (·.nameMatches kind target))

def selectAsset (assets : List GitHubAsset) (tag : List Char) (version : SemanticVersion)
    (target : HostTarget) (kind : AssetKind) : Option DownloadAsset := do
  let candidate ← candidateOf assets version target kind
  let url ← (validateReleaseAssetUrl parse candidate.browserDownloadUrl tag candidate.name).toOption
  return ⟨candidate.name, url, candidate.size, kind⟩

def selectAssets (assets : List GitHubAsset) (tag : List Char) (version : SemanticVersion) :
    Option HostTarget → Option DownloadAsset × List DownloadAsset
  | none => (none, [])
  | some target =>
      match (assetPreferences target).filterMap (selectAsset parse assets tag version target) with
      | [] => (none, [])
      | download :: alternates => (some download, alternates)

/-! ### What is offered -/

/-- The URL of the asset of this name on the release page of the tag. -/
structure Official (url : AssetUrl) (tag name : List Char) : Prop where
  server : url.scheme = "https" ∧ url.hostStr = some "github.com" ∧ url.port = none
  bare : url.username = "" ∧ url.password = none ∧ url.query = none ∧ url.fragment = none
  path : url.path = downloadPathPrefix ++ tag ++ '/' :: name
  tag : tag ≠ [] ∧ '/' ∉ tag
  name : name ≠ [] ∧ '/' ∉ name ∧ ¬ "..".toList <:+: name

def GitHubAsset.Published (asset : GitHubAsset) (tag url : List Char) : Prop :=
  ∃ parsed, parse asset.browserDownloadUrl = .ok parsed ∧ Official parsed tag asset.name ∧
    parsed.text = url

structure Fits (kind : AssetKind) (target : HostTarget) (name : List Char) : Prop where
  front : lower assetNamePrefix <+: lower name
  back : kind.windowsSuffix.getD [] ++ kind.extension <:+ lower name
  segment : kind.windowsSuffix = none →
    ∃ token ∈ kind.archToken target, token ∈ segments (lower name)

theorem stripPrefix_bind_splitOnce {path tag name : List Char} :
    ((stripPrefix downloadPathPrefix path).bind (splitOnce '/')).any
        (fun (first, file) => first = tag ∧ file = name) = true ↔
      path = downloadPathPrefix ++ tag ++ '/' :: name ∧ '/' ∉ tag := by
  rw [Option.any_eq_true]
  constructor
  · rintro ⟨⟨first, file⟩, cut, same⟩
    obtain ⟨rfl, rfl⟩ := of_decide_eq_true same
    obtain ⟨rest, stripped, cut⟩ := bind_eq_some_iff.mp cut
    have isRest := splitOnce_eq_some cut
    unfold stripPrefix at stripped
    split at stripped
    next isPrefix =>
      obtain ⟨later, rfl⟩ := isPrefix
      rw [drop_left] at stripped
      obtain rfl := some.inj stripped
      refine ⟨by rw [isRest, append_assoc], fun mem => ?_⟩
      obtain ⟨front, back, same, absent⟩ := eq_append_cons_of_mem mem
      rw [isRest, same, append_assoc, cons_append, splitOnce_append absent] at cut
      have length := congrArg length (Prod.mk.inj (some.inj cut)).1
      simp at length
    · cases stripped
  · rintro ⟨rfl, absent⟩
    refine ⟨(tag, name), ?_, decide_eq_true ⟨rfl, rfl⟩⟩
    rw [stripPrefix, append_assoc, if_pos (prefix_append ..), bind_some, drop_left,
      splitOnce_append absent]

variable {parse}

theorem validateReleaseAssetUrl_eq_ok {rawUrl tag name text : List Char} :
    validateReleaseAssetUrl parse rawUrl tag name = .ok text ↔
      ∃ url, parse rawUrl = .ok url ∧ Official url tag name ∧ url.text = text := by
  unfold validateReleaseAssetUrl
  cases parse rawUrl with
  | error => exact ⟨nofun, nofun⟩
  | ok url =>
    change (if _ then Except.ok url.text else _) = _ ↔ _
    split
    next holds =>
      obtain ⟨scheme, host, user, password, port, query, fragment, tagged, named, one, up,
        isPath⟩ := holds
      obtain ⟨path, absent⟩ := stripPrefix_bind_splitOnce.mp isPath
      have official : Official url tag name :=
        ⟨⟨scheme, host, port⟩, ⟨user, password, query, fragment⟩, path, ⟨tagged, absent⟩,
          named, one, up⟩
      exact ⟨fun same => ⟨url, rfl, official, Except.ok.inj same⟩, fun ⟨_, isUrl, _, same⟩ => by
        rw [← same, Except.ok.inj isUrl]⟩
    next fails =>
      refine ⟨nofun, fun ⟨_, isUrl, official, _⟩ => absurd ?_ fails⟩
      obtain rfl := Except.ok.inj isUrl
      obtain ⟨⟨scheme, host, port⟩, ⟨user, password, query, fragment⟩, path, ⟨tagged, absent⟩,
        named, one, up⟩ := official
      exact ⟨scheme, host, user, password, port, query, fragment, tagged, named, one, up,
        stripPrefix_bind_splitOnce.mpr ⟨path, absent⟩⟩

variable {version : SemanticVersion} {target : HostTarget} {kind : AssetKind} {asset : GitHubAsset}

/-- The parts of an expected name are in lower case, and delimited. -/
theorem parts_of_preferred (preferred : kind ∈ assetPreferences target) :
    (∃ token ∈ kind.archToken target, lower token = token ∧
        token.all fun c => ¬ (c = '-' ∨ c = '_' ∨ c = '.')) ∧
      lower (kind.windowsSuffix.getD []) = kind.windowsSuffix.getD [] ∧
      ∃ rest, kind.extension = '.' :: rest ∧ lower kind.extension = kind.extension := by
  revert preferred
  cases target <;> cases kind
  all_goals first
    | exact fun preferred => absurd preferred (by decide)
    | exact fun _ => ⟨⟨_, rfl, by decide, by decide⟩, by decide, _, rfl, by decide⟩

theorem fits_of_isExact (preferred : kind ∈ assetPreferences target)
    (exact : asset.isExact version target kind = true) : Fits kind target asset.name := by
  obtain ⟨⟨token, isToken, tokenLow, whole⟩, suffixLow, rest, dot, low⟩ :=
    parts_of_preferred preferred
  have same : lower asset.name = lower assetNamePrefix ++ lower version.text ++ '_' :: token ++
      kind.windowsSuffix.getD [] ++ kind.extension := by
    have same : lower asset.name = lower (exactName version target kind) := of_decide_eq_true exact
    rw [same, exactName, isToken, getD_some]
    simp only [lower, map_append, map_cons] at low suffixLow tokenLow ⊢
    rw [low, suffixLow, tokenLow]
    rfl
  refine ⟨?_, ?_, fun plain => ⟨token, isToken, ?_⟩⟩
  · rw [same, append_assoc, append_assoc, append_assoc]
    exact prefix_append ..
  · rw [same, append_assoc _ (kind.windowsSuffix.getD [])]
    exact suffix_append ..
  · rw [same, plain, getD_none, append_nil, append_assoc, cons_append, segments,
      splitOnP_append_cons _ _ (by decide), dot, splitOnP_append_cons_of_forall_mem
        (fun c mem => decide_eq_false (of_decide_eq_true (all_eq_true.mp whole c mem))) _ (by decide)]
    exact mem_append_right _ mem_cons_self

theorem fits_of_nameMatches (loose : asset.nameMatches kind target = true) :
    Fits kind target asset.name := by
  unfold GitHubAsset.nameMatches at loose
  split at loose
  · cases loose
  next token isToken =>
    dsimp only at loose
    split at loose
    · cases loose
    next held =>
      obtain ⟨front, back⟩ := not_or.mp held
      refine ⟨not_not.mp front, ?_, fun plain => ⟨token, isToken, ?_⟩⟩
      · obtain ⟨stem, isStem⟩ := not_not.mp back
        rw [← isStem] at loose ⊢
        split at loose
        next suffix isSuffix =>
          rw [length_append, Nat.add_sub_cancel, take_left] at loose
          obtain ⟨more, rfl⟩ := of_decide_eq_true loose
          rw [isSuffix, getD_some, append_assoc]
          exact suffix_append ..
        next plain =>
          rw [plain, getD_none, nil_append]
          exact suffix_append ..
      · rw [plain] at loose
        exact (of_decide_eq_true loose).1

variable {assets : List GitHubAsset} {tag : List Char}

theorem selectAsset_eq_some {download : DownloadAsset} :
    selectAsset parse assets tag version target kind = some download ↔
      ∃ asset, candidateOf assets version target kind = some asset ∧
        asset.Published parse tag download.url ∧
        download = ⟨asset.name, download.url, asset.size, kind⟩ := by
  constructor
  · intro selected
    obtain ⟨candidate, found, selected⟩ := bind_eq_some_iff.mp selected
    obtain ⟨url, valid, same⟩ := bind_eq_some_iff.mp selected
    cases same
    refine ⟨candidate, found, validateReleaseAssetUrl_eq_ok.mp ?_, rfl⟩
    cases held : validateReleaseAssetUrl parse candidate.browserDownloadUrl tag candidate.name with
    | error => rw [held] at valid; cases valid
    | ok text => rw [held] at valid; exact congrArg Except.ok (some.inj valid)
  · rintro ⟨candidate, found, published, same⟩
    have valid := validateReleaseAssetUrl_eq_ok.mpr published
    refine bind_eq_some_iff.mpr ⟨candidate, found, bind_eq_some_iff.mpr ⟨download.url, ?_, ?_⟩⟩
    · rw [valid]
      rfl
    · rw [same]
      rfl

theorem of_candidate
    (found : candidateOf assets version target kind = some asset) :
    asset ∈ assets ∧ asset.eligible = true ∧
      (asset.isExact version target kind = true ∨ asset.nameMatches kind target = true) := by
  rcases or_eq_some_iff.mp found with found | ⟨-, found⟩
  · obtain ⟨mem, eligible⟩ := mem_filter.mp (mem_of_find?_eq_some found)
    have exact := find?_some found
    exact ⟨mem, eligible, .inl exact⟩
  · obtain ⟨mem, eligible⟩ := mem_filter.mp (mem_of_find?_eq_some found)
    have loose := find?_some found
    exact ⟨mem, eligible, .inr loose⟩

theorem filter_eq_nil_of_find? {test : GitHubAsset → Bool}
    (none : (assets.filter GitHubAsset.eligible).find? test = none) :
    (assets.filter fun asset => asset.eligible ∧ test asset) = [] := by
  refine filter_eq_nil_iff.mpr fun asset mem both => ?_
  obtain ⟨eligible, holds⟩ := of_decide_eq_true both
  exact find?_eq_none.mp none asset (mem_filter.mpr ⟨mem, eligible⟩) holds

theorem kinds_sublist (kinds : List AssetKind) :
    ((kinds.filterMap (selectAsset parse assets tag version target)).map (·.kind)).Sublist
      kinds := by
  induction kinds with
  | nil => exact .refl _
  | cons kind rest ih =>
    rw [filterMap_cons]
    split
    · exact ih.cons _
    next selected =>
      obtain ⟨asset, -, -, same⟩ := selectAsset_eq_some.mp selected
      rw [map_cons, same]
      exact ih.cons_cons _

/-- Of each kind that suits the host, in their order, one bundle at most is offered: an uploaded
asset with its URL and a name that fits. A kind whose matching bundles all have their URLs is
offered if there is one, and under the expected name if there is one of that. -/
theorem selectAssets_spec (parse : List Char → Except String AssetUrl) (assets : List GitHubAsset)
    (tag : List Char) (version : SemanticVersion) (target : HostTarget) :
    selectAssets parse assets tag version none = (none, []) ∧
      ∃ offered : List DownloadAsset,
        selectAssets parse assets tag version (some target) = (offered.head?, offered.tail) ∧
        (offered.map (·.kind)).Sublist (assetPreferences target) ∧
        (∀ download ∈ offered, ∃ asset ∈ assets, asset.eligible = true ∧
          download.name = asset.name ∧ download.size = asset.size ∧
          asset.Published parse tag download.url ∧ Fits download.kind target download.name) ∧
        ∀ kind ∈ assetPreferences target,
          let exacts := assets.filter fun asset =>
            asset.eligible ∧ asset.isExact version target kind
          let loose := assets.filter fun asset => asset.eligible ∧ asset.nameMatches kind target
          ((∀ asset ∈ exacts, ∃ url, asset.Published parse tag url) → exacts ≠ [] →
            ∃ download ∈ offered, download.kind = kind ∧
              eqIgnoreAsciiCase download.name (exactName version target kind) = true) ∧
          ((∀ asset ∈ exacts ++ loose, ∃ url, asset.Published parse tag url) →
            exacts ++ loose ≠ [] → ∃ download ∈ offered, download.kind = kind) := by
  refine ⟨rfl, (assetPreferences target).filterMap (selectAsset parse assets tag version target),
    ?_, ?_, ?_, ?_⟩
  · rw [selectAssets]
    split
    next none => rw [none]; rfl
    next found => rw [found]; rfl
  · exact kinds_sublist _
  · intro download mem
    obtain ⟨kind, preferred, selected⟩ := mem_filterMap.mp mem
    obtain ⟨asset, found, published, same⟩ := selectAsset_eq_some.mp selected
    obtain ⟨mem, eligible, named⟩ := of_candidate found
    have fits : Fits kind target asset.name :=
      named.elim (fits_of_isExact preferred) fits_of_nameMatches
    rw [same]
    exact ⟨asset, mem, eligible, rfl, rfl, published, fits⟩
  · intro kind preferred exacts loose
    have offers {asset : GitHubAsset}
        (found : candidateOf assets version target kind = some asset)
        (published : ∃ url, asset.Published parse tag url) :
        ∃ download ∈
            (assetPreferences target).filterMap (selectAsset parse assets tag version target),
          download.kind = kind ∧ download.name = asset.name := by
      obtain ⟨url, published⟩ := published
      exact ⟨⟨asset.name, url, asset.size, kind⟩, mem_filterMap.mpr
        ⟨kind, preferred, selectAsset_eq_some.mpr ⟨asset, found, published, rfl⟩⟩, rfl, rfl⟩
    constructor
    · intro published nonempty
      cases found : (assets.filter GitHubAsset.eligible).find? (·.isExact version target kind) with
      | none => exact absurd (filter_eq_nil_of_find? found) nonempty
      | some asset =>
        have exact := find?_some found
        obtain ⟨mem, eligible⟩ := mem_filter.mp (mem_of_find?_eq_some found)
        obtain ⟨download, offered, isKind, named⟩ := offers (or_eq_some_iff.mpr (.inl found))
          (published asset (mem_filter.mpr ⟨mem, decide_eq_true ⟨eligible, exact⟩⟩))
        exact ⟨download, offered, isKind, by rw [named]; exact exact⟩
    · intro published nonempty
      cases found : candidateOf assets version target kind with
      | none =>
        obtain ⟨noExact, noLoose⟩ := or_eq_none_iff.mp found
        exact absurd (append_eq_nil_iff.mpr
          ⟨filter_eq_nil_of_find? noExact, filter_eq_nil_of_find? noLoose⟩) nonempty
      | some asset =>
        obtain ⟨mem, eligible, named⟩ := of_candidate found
        have isMatch : asset ∈ exacts ++ loose := mem_append.mpr <| named.imp
          (fun exact => mem_filter.mpr ⟨mem, decide_eq_true ⟨eligible, exact⟩⟩)
          fun matched => mem_filter.mpr ⟨mem, decide_eq_true ⟨eligible, matched⟩⟩
        obtain ⟨download, offered, isKind, -⟩ := offers found (published asset isMatch)
        exact ⟨download, offered, isKind⟩

/-- The package of the standalone server has all but the name of the product. -/
theorem server_not_offered :
    let name := "dinotty-server_0.26.0-1_amd64.deb".toList
    let url : AssetUrl := ⟨"https", some "github.com", "", none, none, none, none,
      downloadPathPrefix ++ "v0.26.0/".toList ++ name, name⟩
    let asset : GitHubAsset := { name, browserDownloadUrl := name }
    let version : SemanticVersion := { major := 0, minor := 26, patch := 0 }
    AssetKind.deb ∈ assetPreferences .linuxX8664 ∧ asset.eligible = true ∧
      asset.Published (fun _ => .ok url) "v0.26.0".toList name ∧
      AssetKind.deb.extension <:+ lower name ∧ "amd64".toList ∈ segments (lower name) ∧
      (selectAssets (fun _ => .ok url) [asset] "v0.26.0".toList version
        (some .linuxX8664)).1.isNone = true := by
  refine ⟨by decide, rfl, ⟨_, rfl, ⟨⟨rfl, rfl, rfl⟩, ⟨rfl, rfl, rfl, rfl⟩, rfl, by decide,
    by decide⟩, rfl⟩, by decide, by decide, by decide +kernel⟩

end

end Dinotty.Update
