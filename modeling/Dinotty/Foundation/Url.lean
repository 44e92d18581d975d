/-
This file is the parsing of http and https URLs as the URL standard has it. The parsing of the
authority itself is a parameter. A path behind the origin of a URL is normalized in the same way
behind every origin.
-/

import Dinotty.Foundation.Chars

namespace Dinotty

open List

/-- The parsing of a host and a port, into the form in which they are written back. -/
structure Authorities where
  parse : Bool → List Char → Option (List Char)
  idempotent : ∀ secure text authority, parse secure text = some authority →
    parse secure authority = some authority
  nonempty : ∀ secure text authority, parse secure text = some authority → authority ≠ []
  plain : ∀ secure text authority, parse secure text = some authority →
    ∀ c ∈ authority, 32 < c.toNat ∧ c ∉ ['/', '\\', '?', '#']

/-- The parsing of authorities that are in the form in which they are written back. -/
def Authorities.verbatim : Authorities where
  parse _ text :=
    if text ≠ [] ∧ text.all (fun c => 32 < c.toNat ∧ c ∉ ['/', '\\', '?', '#']) then some text
    else none
  idempotent _ text authority parsed := by
    split_ifs at parsed with plain
    cases parsed
    exact if_pos plain
  nonempty _ text authority parsed := by
    split_ifs at parsed with plain
    cases parsed
    exact plain.1
  plain _ text authority parsed := by
    split_ifs at parsed with plain
    cases parsed
    exact fun c member => of_decide_eq_true (List.all_eq_true.mp plain.2 c member)

structure Url where
  secure : Bool
  authority : List Char
  path : List Char
  query : Option (List Char) := none
  deriving DecidableEq

namespace Url

/-! ### Encoding -/

def hexDigit (value : Nat) : Char := "0123456789ABCDEF".toList.getD value '0'

def encodeChar (c : Char) : List Char :=
  (String.utf8EncodeChar c).flatMap fun byte =>
    ['%', hexDigit (byte.toNat / 16), hexDigit (byte.toNat % 16)]

def percentEncode (special : List Char) (text : List Char) : List Char :=
  text.flatMap fun c =>
    if c.toNat ≤ 32 ∨ 126 < c.toNat ∨ c ∈ special then encodeChar c else [c]

def pathSpecial : List Char := ['"', '#', '<', '>', '?', '^', '\x60', '\x7b', '\x7d']

def querySpecial : List Char := ['"', '#', '<', '>', '\'']

/-! ### Paths -/

def isSlash (c : Char) : Bool := c = '/' || c = '\\'

/-- Whether a segment stands for the directory itself. -/
def isSingleDot (segment : List Char) : Bool :=
  segment.map Chars.toAsciiLower ∈ [".".toList, "%2e".toList]

/-- Whether a segment stands for the directory above. -/
def isDoubleDot (segment : List Char) : Bool :=
  segment.map Chars.toAsciiLower ∈ ["..".toList, ".%2e".toList, "%2e.".toList, "%2e%2e".toList]

/-- Resolve the dot segments. The segments so far are in reverse order. A dot segment at the end
leaves an empty one. -/
def resolve : List (List Char) → List (List Char) → List (List Char)
  | done, [] => done.reverse
  | done, segment :: rest =>
      let above := if isDoubleDot segment then done.tail else done
      if isDoubleDot segment || isSingleDot segment then
        if rest = [] then ([] :: above).reverse else resolve above rest
      else resolve (percentEncode pathSpecial segment :: done) rest

/-- The path that a text behind the first slash stands for. -/
def normalizePath (text : List Char) : List Char :=
  (resolve [] (text.splitOnP isSlash)).flatMap fun segment => '/' :: segment

/-! ### Parsing -/

/-- A text without control characters and spaces at its ends and without tabs and line ends. -/
def clean (text : List Char) : List Char :=
  (((text.dropWhile (·.toNat ≤ 32)).reverse.dropWhile (·.toNat ≤ 32)).reverse).filter
    (· ∉ ['\t', '\n', '\r'])

def endsAuthority (c : Char) : Bool := isSlash c || c = '?' || c = '#'

def endsPath (c : Char) : Bool := c = '?' || c = '#'

def pathText (tail : List Char) : List Char :=
  match tail.takeWhile (!endsPath ·) with
  | [] => []
  | c :: text => if isSlash c then text else c :: text

def queryText (tail : List Char) : Option (List Char) :=
  match tail.dropWhile (!endsPath ·) with
  | '?' :: text => some (text.takeWhile (· ≠ '#'))
  | _ => none

/-- Read what follows the scheme. -/
def parseAuthority (authorities : Authorities) (secure : Bool) (text : List Char) : Option Url :=
  let text := text.dropWhile isSlash
  let tail := text.dropWhile (!endsAuthority ·)
  (authorities.parse secure (text.takeWhile (!endsAuthority ·))).map fun authority =>
    { secure
      authority
      path := normalizePath (pathText tail)
      query := (queryText tail).map (percentEncode querySpecial) }

/-- Read an http or https URL. Other schemes are not of interest here. -/
def parse (authorities : Authorities) (text : List Char) : Option Url :=
  match Chars.splitOnce ':' (clean text) with
  | none => none
  | some (scheme, rest) =>
      if scheme.map Chars.toAsciiLower = "http".toList then parseAuthority authorities false rest
      else if scheme.map Chars.toAsciiLower = "https".toList then
        parseAuthority authorities true rest
      else none

def scheme (secure : Bool) : List Char := if secure then "https".toList else "http".toList

def origin (url : Url) : List Char := scheme url.secure ++ "://".toList ++ url.authority

/-! ### Paths behind an origin -/

/-- A text that no white space is removed from. -/
def Solid (text : List Char) : Prop := ∀ c ∈ text, 32 < c.toNat

instance (text : List Char) : Decidable (Solid text) := List.decidableBAll _ text

variable {text : List Char}

theorem clean_eq_self (solid : Solid text) : clean text = text := by
  have forwards : ∀ c ∈ text, decide (c.toNat ≤ 32) = false := fun c mem =>
    decide_eq_false (Nat.not_le.mpr (solid c mem))
  have backwards : ∀ c ∈ text.reverse, decide (c.toNat ≤ 32) = false := fun c mem =>
    forwards c (mem_reverse.mp mem)
  rw [clean, Chars.dropWhile_eq_self forwards, Chars.dropWhile_eq_self backwards,
    reverse_reverse, filter_eq_self]
  intro c mem
  have large := solid c mem
  refine decide_eq_true fun isSpace => ?_
  simp only [mem_cons, not_mem_nil, or_false] at isSpace
  rcases isSpace with rfl | rfl | rfl <;> exact absurd large (by decide)

def querySuffix (query : Option (List Char)) : List Char :=
  match query with
  | none => []
  | some text => '?' :: text

theorem takeWhile_plain {rest : List Char} (plain : ∀ c ∈ rest, endsPath c = false)
    (query : Option (List Char)) :
    (rest ++ querySuffix query).takeWhile (!endsPath ·) = rest := by
  have all : ∀ c ∈ rest, (!endsPath c) = true := fun c mem => by rw [plain c mem]; rfl
  rw [takeWhile_append_of_pos all]
  cases query with
  | none => exact append_nil rest
  | some text =>
    rw [querySuffix, takeWhile_cons_of_neg (by decide)]
    exact append_nil rest

theorem pathText_append {rest : List Char} (plain : ∀ c ∈ rest, endsPath c = false)
    (query : Option (List Char)) : pathText ('/' :: (rest ++ querySuffix query)) = rest := by
  unfold pathText
  rw [takeWhile_cons_of_pos (by decide), takeWhile_plain plain]
  rfl

variable {authorities : Authorities}

theorem parse_eq_some {url : Url} (parsed : parse authorities text = some url) :
    ∃ source, authorities.parse url.secure source = some url.authority := by
  have fromAuthority : ∀ secure rest, parseAuthority authorities secure rest = some url →
      ∃ source, authorities.parse url.secure source = some url.authority := by
    intro secure rest found
    obtain ⟨authority, isAuthority, rfl⟩ := Option.map_eq_some_iff.mp found
    exact ⟨_, isAuthority⟩
  unfold parse at parsed
  split at parsed
  · cases parsed
  · split at parsed
    · exact fromAuthority _ _ parsed
    · split at parsed
      · exact fromAuthority _ _ parsed
      · cases parsed

/-- The characters of an authority that has been written. -/
def Plain (authority : List Char) : Prop :=
  ∀ c ∈ authority, 32 < c.toNat ∧ c ∉ ['/', '\\', '?', '#']

instance (authority : List Char) : Decidable (Plain authority) := List.decidableBAll _ authority

theorem parseAuthority_append {secure : Bool} {source : List Char}
    (nonempty : source ≠ []) (plain : Plain source) (tail : List Char) :
    parseAuthority authorities secure ("//".toList ++ source ++ '/' :: tail) =
      (authorities.parse secure source).map fun authority =>
        { secure
          authority
          path := normalizePath (pathText ('/' :: tail))
          query := (queryText ('/' :: tail)).map (percentEncode querySpecial) } := by
  have inside : ∀ c ∈ source, (!endsAuthority c) = true := by
    intro c mem
    have other := (plain c mem).2
    simp only [mem_cons, not_mem_nil, or_false, not_or] at other
    simp [endsAuthority, isSlash, other]
  have unslashed : ("//".toList ++ source ++ '/' :: tail).dropWhile isSlash =
      source ++ '/' :: tail := by
    obtain ⟨c, later, rfl⟩ := exists_cons_of_ne_nil nonempty
    have notEnd := inside c mem_cons_self
    have notSlash : ¬isSlash c = true := by
      intro slash
      simp [endsAuthority, slash] at notEnd
    exact dropWhile_cons_of_neg notSlash
  unfold parseAuthority
  simp only [unslashed]
  rw [takeWhile_append_of_pos inside, dropWhile_append_of_pos inside,
    takeWhile_cons_of_neg (by decide), dropWhile_cons_of_neg (by decide),
    append_nil]

theorem solid_scheme (secure : Bool) : Solid (scheme secure) := by
  cases secure <;> decide

theorem parse_append {secure : Bool} {source : List Char}
    (nonempty : source ≠ []) (plain : Plain source) {rest : List Char}
    {query : Option (List Char)} (solid : Solid (rest ++ querySuffix query))
    (inPath : ∀ c ∈ rest, endsPath c = false) :
    parse authorities (scheme secure ++ "://".toList ++ source ++
        '/' :: (rest ++ querySuffix query)) =
      (authorities.parse secure source).map fun authority =>
        { secure
          authority
          path := normalizePath rest
          query := (queryText ('/' :: (rest ++ querySuffix query))).map
            (percentEncode querySpecial) } := by
  have whole : scheme secure ++ "://".toList ++ source ++ '/' :: (rest ++ querySuffix query) =
      scheme secure ++ ':' :: ("//".toList ++ source ++ '/' :: (rest ++ querySuffix query)) := by
    simp
  have allSolid : Solid (scheme secure ++ ':' :: ("//".toList ++ source ++
      '/' :: (rest ++ querySuffix query))) := by
    intro c mem
    rcases mem_append.mp mem with isScheme | behind
    · exact solid_scheme secure c isScheme
    rcases mem_cons.mp behind with rfl | behind
    · decide
    rcases mem_append.mp behind with front | behind
    · rcases mem_append.mp front with slashes | inSource
      · have ofSlashes : Solid "//".toList := by decide
        exact ofSlashes c slashes
      · exact (plain c inSource).1
    rcases mem_cons.mp behind with rfl | behind
    · decide
    · exact solid c behind
  have noColon : ':' ∉ scheme secure := by cases secure <;> decide
  have byScheme : parse authorities (scheme secure ++ ':' :: ("//".toList ++ source ++
      '/' :: (rest ++ querySuffix query))) =
      parseAuthority authorities secure ("//".toList ++ source ++
        '/' :: (rest ++ querySuffix query)) := by
    unfold parse
    rw [clean_eq_self allSolid, Chars.splitOnce_append noColon]
    cases secure with
    | false => exact if_pos (by decide)
    | true => exact (if_neg (by decide)).trans (if_pos (by decide))
  rw [whole, byScheme, parseAuthority_append nonempty plain, pathText_append inPath]

theorem parse_origin {url : Url}
    (parsed : parse authorities text = some url) {rest : List Char} {query : Option (List Char)}
    (solid : Solid (rest ++ querySuffix query)) (inPath : ∀ c ∈ rest, endsPath c = false) :
    ∃ target, parse authorities (url.origin ++ '/' :: (rest ++ querySuffix query)) = some target ∧
      target.origin = url.origin ∧ target.path = normalizePath rest := by
  obtain ⟨source, known⟩ := parse_eq_some parsed
  have nonempty := authorities.nonempty _ _ _ known
  have plain : Plain url.authority := authorities.plain _ _ _ known
  have read := @parse_append authorities url.secure _ nonempty plain _ _ solid inPath
  rw [authorities.idempotent _ _ _ known] at read
  exact ⟨_, read, rfl, rfl⟩

end Url

end Dinotty
