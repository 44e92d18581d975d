/-
This file is the host keys of the servers that are connected to. The first key of a host and port is
written into a file of lines, and later keys are compared with what the lines say.
-/

import Dinotty.Foundation.Base64
import Dinotty.Foundation.Runs

namespace Dinotty.Ssh

open List Option Chars Base64

/-! ### The lines -/

/-- An entry of the file `known_hosts`. -/
structure KnownHostEntry where
  host : List Char
  port : UInt16
  keyType : List Char
  keyData : List Char
  deriving DecidableEq

def formatHostPrefix (host : List Char) (port : UInt16) : List Char :=
  if port = 22 then host
  else '[' :: host ++ ']' :: ':' :: Nat.toDigits 10 port.toNat

def formatHostEntry (host : List Char) (port : UInt16) (keyBytes : List UInt8)
    (keyType : List Char) : List Char :=
  formatHostPrefix host port ++ ' ' :: keyType ++ ' ' :: Base64.encode keyBytes

/-- The host and the port of a field. The source panics on brackets the wrong way round; here the
host is empty then. -/
def parseHostPort (hostField : List Char) : List Char × UInt16 :=
  match Chars.splitOnce '[' hostField, Chars.splitOnce ']' hostField with
  | some (front, _), some (within, portText) =>
      let digits := portText.dropWhile (· = ':')
      (within.drop (front.length + 1),
        ((Chars.parseUnsigned 65536 digits).map UInt16.ofNat).getD 22)
  | _, _ => (hostField, 22)

/-- The entry of a line. Its third part is all that comes after the second space. -/
def parseEntry (line : List Char) : Option KnownHostEntry :=
  let line := Chars.trim line
  if line = [] ∨ line.head? = some '#' then none
  else do
    let (hostField, rest) ← Chars.splitOnce ' ' line
    let (keyType, keyData) ← Chars.splitOnce ' ' rest
    let (host, port) := parseHostPort hostField
    return ⟨host, port, keyType, keyData⟩

/-! ### The verifier -/

inductive HostKeyError where
  | unknownHost (host : List Char) (port : UInt16)
  | keyMismatch (host : List Char)
  deriving DecidableEq

structure HostKeyVerifier where
  knownHosts : Option (List Char)
  deriving DecidableEq

def HostKeyVerifier.loadKnownHosts (verifier : HostKeyVerifier) : List KnownHostEntry :=
  match verifier.knownHosts with
  | none => []
  | some content => (Chars.lines content).filterMap parseEntry

/-- An entry without a port of its own stands for every port. -/
def KnownHostEntry.isFor (host : List Char) (port : UInt16) (entry : KnownHostEntry) : Bool :=
  entry.host = host && (entry.port = port || entry.port = 22)

def HostKeyVerifier.verify (verifier : HostKeyVerifier) (host : List Char) (port : UInt16)
    (keyBytes : List UInt8) : Except HostKeyError Unit :=
  match verifier.loadKnownHosts.find? (KnownHostEntry.isFor host port) with
  | some entry =>
      if entry.keyData = Base64.encode keyBytes then .ok ()
      else .error (.keyMismatch host)
  | none => .error (.unknownHost host port)

/-- Replace the lines that begin as the one of the host does. -/
def HostKeyVerifier.acceptAndSave (verifier : HostKeyVerifier) (host : List Char) (port : UInt16)
    (keyBytes : List UInt8) (keyType : List Char) : HostKeyVerifier :=
  let entry := formatHostEntry host port keyBytes keyType
  let content := verifier.knownHosts.getD []
  let kept := (Chars.lines content).filter fun line => ¬ formatHostPrefix host port <+: line
  let content := List.intercalate ['\n'] kept
  let content :=
    if content ≠ [] ∧ content.getLast? ≠ some '\n' then content ++ ['\n'] else content
  { knownHosts := some (content ++ entry ++ ['\n']) }

/-- A connection, and the key that its server presents. -/
structure Connection where
  host : List Char
  port : UInt16
  keyBytes : List UInt8
  keyType : List Char
  deriving DecidableEq

def keyMismatch (host : List Char) : List Char :=
  "Host key mismatch for ".toList ++ host ++
    ". Potential MITM attack. Remove the old key from known_hosts to reconnect.".toList

/-- Whether a connection goes on, and the file after that. The key of a new host is accepted. -/
def checkServerKey (verifier : HostKeyVerifier) (connection : Connection) :
    Except (List Char) Unit × HostKeyVerifier :=
  match verifier.verify connection.host connection.port connection.keyBytes with
  | .ok () => (.ok (), verifier)
  | .error (.unknownHost _ _) =>
      (.ok (), verifier.acceptAndSave connection.host connection.port connection.keyBytes
        connection.keyType)
  | .error (.keyMismatch host) => (.error (keyMismatch host), verifier)

/-! ### The runs -/

/-- The file, and the connections that were accepted, oldest first. -/
structure Client where
  verifier : HostKeyVerifier
  accepted : List Connection := []

def Client.accepts (client : Client) (connection : Connection) : Bool :=
  (checkServerKey client.verifier connection).1.isOk

def Client.connect (client : Client) (connection : Connection) : Client :=
  { verifier := (checkServerKey client.verifier connection).2
    accepted :=
      if client.accepts connection then client.accepted ++ [connection] else client.accepted }

def start : Client := { verifier := { knownHosts := some [] } }

def firstTo (accepted : List Connection) (host : List Char) (port : UInt16) : Option Connection :=
  accepted.find? fun connection => connection.host = host ∧ connection.port = port

/-- A connection is accepted exactly if it is the first to its host and port, or has the key of the
first. -/
def Client.Pins (client : Client) (connection : Connection) : Prop :=
  client.accepts connection = true ↔
    ∀ first ∈ firstTo client.accepted connection.host connection.port,
      connection.keyBytes = first.keyBytes

/-- A name of a host: it has neither spaces, nor brackets, nor the sign of a comment. -/
def IsHost (host : List Char) : Prop :=
  host ≠ [] ∧ ∀ c ∈ host, Chars.isWhitespace c = false ∧ c ≠ '[' ∧ c ≠ ']' ∧ c ≠ '#'

instance (host : List Char) : Decidable (IsHost host) :=
  @instDecidableAnd _ _ _ (decidableBAll _ host)

/-- The line of a first connection is read back as it was written, and does not take those of
others. -/
def Client.Clear (client : Client) (connection : Connection) : Prop :=
  firstTo client.accepted connection.host connection.port = none →
    (∀ standard ∈ firstTo client.accepted connection.host 22,
      connection.keyBytes = standard.keyBytes) ∧
    (firstTo client.accepted connection.host 22 = none →
      connection.keyBytes ≠ [] ∧ ' ' ∉ connection.keyType ∧ '\n' ∉ connection.keyType ∧
        ∀ earlier ∈ client.accepted, ¬ formatHostPrefix connection.host connection.port <+:
            formatHostPrefix earlier.host earlier.port)

instance (client : Client) (connection : Connection) : Decidable (client.Clear connection) :=
  inferInstanceAs (Decidable (_ → _))

/-! ### Reading back a line -/

section

variable {host : List Char} {port : UInt16}

theorem mem_formatHostPrefix {c : Char} (mem : c ∈ formatHostPrefix host port) :
    c ∈ host ∨ c = '[' ∨ c = ']' ∨ c = ':' ∨ ∃ digit < 10, c = Nat.digitChar digit := by
  unfold formatHostPrefix at mem
  split at mem
  · exact Or.inl mem
  · simp only [cons_append, mem_cons, mem_append] at mem
    rcases mem with rfl | inHost | rfl | rfl | inPort
    · exact Or.inr (Or.inl rfl)
    · exact Or.inl inHost
    · exact Or.inr (Or.inr (Or.inl rfl))
    · exact Or.inr (Or.inr (Or.inr (Or.inl rfl)))
    · exact Or.inr (Or.inr (Or.inr (Or.inr (isDigit_of_mem_toDigits inPort))))

section

variable (isHost : IsHost host)
include isHost

theorem formatHostPrefix_solid : ∀ c ∈ formatHostPrefix host port, isWhitespace c = false := by
  have digits : ∀ digit < 10, isWhitespace (Nat.digitChar digit) = false := by decide
  intro c mem
  rcases mem_formatHostPrefix mem with inHost | rfl | rfl | rfl | ⟨digit, small, rfl⟩
  · exact (isHost.2 c inHost).1
  · decide
  · decide
  · decide
  · exact digits digit small

theorem space_notMem_formatHostPrefix : ' ' ∉ formatHostPrefix host port :=
  fun mem => absurd (formatHostPrefix_solid isHost ' ' mem) (by decide)

theorem head_formatHostPrefix (port : UInt16) (rest : List Char) :
    ∃ c, (formatHostPrefix host port ++ rest).head? = some c ∧
      isWhitespace c = false ∧ c ≠ '#' := by
  unfold formatHostPrefix
  split
  · obtain ⟨c, others, rfl⟩ := exists_cons_of_ne_nil isHost.1
    have plain := isHost.2 c mem_cons_self
    exact ⟨c, rfl, plain.1, plain.2.2.2⟩
  · exact ⟨'[', rfl, by decide, by decide⟩

theorem parseHostPort_formatHostPrefix :
    parseHostPort (formatHostPrefix host port) = (host, port) := by
  have noOpening : '[' ∉ host := fun mem => (isHost.2 '[' mem).2.1 rfl
  have noClosing : ']' ∉ host := fun mem => (isHost.2 ']' mem).2.2.1 rfl
  unfold formatHostPrefix
  split
  next standard =>
    rw [parseHostPort, splitOnce_of_notMem noOpening, standard]
  · have opening : splitOnce '['
        ('[' :: host ++ ']' :: ':' :: Nat.toDigits 10 port.toNat) =
          some ([], host ++ ']' :: ':' :: Nat.toDigits 10 port.toNat) := rfl
    have absent : ']' ∉ '[' :: host :=
      fun mem => (mem_cons.mp mem).elim (by decide) noClosing
    have closing : splitOnce ']'
        ('[' :: host ++ ']' :: ':' :: Nat.toDigits 10 port.toNat) =
          some ('[' :: host, ':' :: Nat.toDigits 10 port.toNat) :=
      splitOnce_append absent _
    have digits : (':' :: Nat.toDigits 10 port.toNat).dropWhile (· = ':') =
        Nat.toDigits 10 port.toNat := by
      rw [dropWhile_cons_of_pos (by decide)]
      refine dropWhile_eq_self fun c mem => ?_
      obtain ⟨digit, small, rfl⟩ := isDigit_of_mem_toDigits mem
      have notColon : ∀ digit < 10, decide (Nat.digitChar digit = ':') = false := by decide
      exact notColon digit small
    have number : parseUnsigned 65536 (Nat.toDigits 10 port.toNat) = some port.toNat :=
      parseUnsigned_toDigits port.toNat_lt
    rw [parseHostPort, opening, closing]
    dsimp only
    rw [digits, number]
    simp

/-- A line that is written for a key is read back as what it was written for. -/
theorem parseEntry_formatHostEntry {keyBytes : List UInt8} (held : keyBytes ≠ [])
    {keyType : List Char} (noSpace : ' ' ∉ keyType) :
    parseEntry (formatHostEntry host port keyBytes keyType) =
      some ⟨host, port, keyType, encode keyBytes⟩ := by
  have encoded : encode keyBytes ≠ [] := encode_eq_nil_iff.not.mpr held
  have whole : formatHostEntry host port keyBytes keyType =
      formatHostPrefix host port ++ ' ' :: (keyType ++ ' ' :: encode keyBytes) := by
    rw [formatHostEntry, append_assoc]
    rfl
  obtain ⟨c, head, solid, notComment⟩ := head_formatHostPrefix isHost port
    (' ' :: (keyType ++ ' ' :: encode keyBytes))
  rw [← whole] at head
  have first : ∀ c ∈ (formatHostEntry host port keyBytes keyType).head?,
      isWhitespace c = false := by
    intro other isFirst
    rw [head] at isFirst
    exact some.inj isFirst ▸ solid
  have last : ∀ c ∈ (formatHostEntry host port keyBytes keyType).getLast?,
      isWhitespace c = false := by
    intro c isLast
    rw [formatHostEntry, getLast?_append_of_ne_nil _ (cons_ne_nil _ _),
      getLast?_cons_of_ne_nil encoded] at isLast
    exact solid_of_mem_encode (mem_of_getLast? isLast)
  have read : ¬ (formatHostEntry host port keyBytes keyType = [] ∨
      (formatHostEntry host port keyBytes keyType).head? = some '#') := by
    rintro (empty | comment)
    · rw [empty] at head
      cases head
    · exact notComment (some.inj (head.symm.trans comment))
  rw [parseEntry, trim_eq_self_of_ends first last]
  dsimp only
  rw [if_neg read, whole, splitOnce_append (space_notMem_formatHostPrefix isHost)]
  dsimp only [bind_eq_bind, bind_some]
  rw [splitOnce_append noSpace]
  dsimp only [bind_eq_bind, bind_some]
  rw [parseHostPort_formatHostPrefix isHost]
  rfl

end

end

/-! ### The file of the saved keys -/

def Connection.line (connection : Connection) : List Char :=
  formatHostEntry connection.host connection.port connection.keyBytes connection.keyType

/-- The line of a connection tells its host and key. -/
structure Connection.Plain (connection : Connection) : Prop where
  isHost : IsHost connection.host
  present : connection.keyBytes ≠ []
  noSpace : ' ' ∉ connection.keyType
  noNewline : '\n' ∉ connection.keyType

def fileOf (saved : List Connection) : HostKeyVerifier :=
  { knownHosts := some (Chars.unlines (saved.map Connection.line)) }

variable {connection : Connection}

theorem Connection.Plain.newline_notMem (plain : connection.Plain) : '\n' ∉ connection.line := by
  intro mem
  simp only [line, formatHostEntry, append_assoc, cons_append, mem_append, mem_cons] at mem
  rcases mem with inField | isSpace | inType | isSpace | inKey
  · exact absurd (formatHostPrefix_solid plain.isHost '\n' inField) (by decide)
  · exact absurd isSpace (by decide)
  · exact plain.noNewline inType
  · exact absurd isSpace (by decide)
  · exact absurd (solid_of_mem_encode inKey) (by decide)

theorem Connection.Plain.getLast?_line (plain : connection.Plain) :
    connection.line.getLast? ≠ some '\r' := by
  have encoded : encode connection.keyBytes ≠ [] :=
    encode_eq_nil_iff.not.mpr plain.present
  rw [line, formatHostEntry, getLast?_append_of_ne_nil _ (cons_ne_nil _ _),
    getLast?_cons_of_ne_nil encoded]
  intro returns
  exact absurd (solid_of_mem_encode (mem_of_getLast? returns)) (by decide)

theorem Connection.line_ne_nil (connection : Connection) : connection.line ≠ [] := by
  rw [line, formatHostEntry]
  exact append_ne_nil_of_right_ne_nil _ (cons_ne_nil _ _)

variable {saved : List Connection}

theorem lines_fileOf (plain : ∀ connection ∈ saved, connection.Plain) :
    lines (unlines (saved.map Connection.line)) = saved.map Connection.line := by
  refine lines_unlines (fun line mem => ?_) (fun line mem => ?_)
  · obtain ⟨connection, isSaved, rfl⟩ := mem_map.mp mem
    exact (plain connection isSaved).newline_notMem
  · obtain ⟨connection, isSaved, rfl⟩ := mem_map.mp mem
    exact (plain connection isSaved).getLast?_line

theorem loadKnownHosts_fileOf (plain : ∀ connection ∈ saved, connection.Plain) :
    (fileOf saved).loadKnownHosts = saved.map fun connection =>
      ⟨connection.host, connection.port, connection.keyType, encode connection.keyBytes⟩ := by
  have loaded : (fileOf saved).loadKnownHosts =
      (lines (unlines (saved.map Connection.line))).filterMap parseEntry := rfl
  rw [loaded, lines_fileOf plain, filterMap_map]
  clear loaded
  induction saved with
  | nil => rfl
  | cons connection rest ih =>
    have here := plain connection mem_cons_self
    have read : (parseEntry ∘ Connection.line) connection = some ⟨connection.host,
        connection.port, connection.keyType, encode connection.keyBytes⟩ :=
      parseEntry_formatHostEntry here.isHost here.present here.noSpace
    rw [filterMap_cons_some read, map_cons, ih
      fun other mem => plain other (mem_cons_of_mem connection mem)]

def savedFor (saved : List Connection) (host : List Char) (port : UInt16) : Option Connection :=
  saved.find? fun connection =>
    connection.host = host && (connection.port = port || connection.port = 22)

theorem verify_fileOf (plain : ∀ connection ∈ saved, connection.Plain)
    (host : List Char) (port : UInt16) (keyBytes : List UInt8) :
    (fileOf saved).verify host port keyBytes = match savedFor saved host port with
      | some connection =>
          if connection.keyBytes = keyBytes then .ok () else .error (.keyMismatch host)
      | none => .error (.unknownHost host port) := by
  rw [HostKeyVerifier.verify, loadKnownHosts_fileOf plain, find?_map]
  have found : find? (KnownHostEntry.isFor host port ∘ fun connection =>
      ⟨connection.host, connection.port, connection.keyType,
        encode connection.keyBytes⟩) saved = savedFor saved host port := rfl
  rw [found]
  cases savedFor saved host port with
  | none => rfl
  | some connection =>
    by_cases same : connection.keyBytes = keyBytes
    · simp [same]
    · have ne : encode connection.keyBytes ≠ encode keyBytes :=
        fun encoded => same (encode_injective encoded)
      simp [same, ne]

theorem isPrefix_line_iff {front : List Char} (solid : ' ' ∉ front) (connection : Connection) :
    front <+: connection.line ↔ front <+: formatHostPrefix connection.host connection.port := by
  rw [Connection.line, formatHostEntry, append_assoc]
  constructor
  · intro begins
    rcases prefix_or_prefix_of_prefix begins (prefix_append _ _) with within | longer
    · exact within
    · obtain ⟨others, rfl⟩ := longer
      have restBegins := (prefix_append_right_inj _).mp begins
      cases others with
      | nil => exact ⟨[], by rw [append_nil, append_nil]⟩
      | cons c others =>
        obtain ⟨rfl, -⟩ := cons_prefix_cons.mp restBegins
        exact absurd (mem_append_right _ mem_cons_self) solid
  · exact fun within => within.trans (prefix_append _ _)

/-- Where no line begins as the one of a connection, the line is put behind all others. -/
theorem acceptAndSave_fileOf
    (plain : ∀ connection ∈ saved, connection.Plain) (isHost : IsHost connection.host)
    (clear : ∀ earlier ∈ saved, ¬ formatHostPrefix connection.host connection.port <+:
      formatHostPrefix earlier.host earlier.port) :
    (fileOf saved).acceptAndSave connection.host connection.port connection.keyBytes
      connection.keyType = fileOf (saved ++ [connection]) := by
  have kept : (saved.map Connection.line).filter
      (fun line => ¬ formatHostPrefix connection.host connection.port <+: line) =
        saved.map Connection.line := by
    refine filter_eq_self.mpr fun line mem => ?_
    obtain ⟨earlier, isSaved, rfl⟩ := mem_map.mp mem
    have apart := clear earlier isSaved
    rw [← isPrefix_line_iff (space_notMem_formatHostPrefix isHost)] at apart
    exact decide_eq_true apart
  have content : (lines ((fileOf saved).knownHosts.getD [])).filter
      (fun line => ¬ formatHostPrefix connection.host connection.port <+: line) =
        saved.map Connection.line := by
    rw [← kept]
    exact congrArg _ (lines_fileOf plain)
  have ended : (if intercalate ['\n'] (saved.map Connection.line) ≠ [] ∧
      (intercalate ['\n'] (saved.map Connection.line)).getLast? ≠ some '\n' then
        intercalate ['\n'] (saved.map Connection.line) ++ ['\n']
      else intercalate ['\n'] (saved.map Connection.line)) =
        unlines (saved.map Connection.line) := by
    refine ended_intercalate (fun line mem => ?_) (fun line mem => ?_)
    · obtain ⟨earlier, -, rfl⟩ := mem_map.mp mem
      exact earlier.line_ne_nil
    · obtain ⟨earlier, isSaved, rfl⟩ := mem_map.mp mem
      exact (plain earlier isSaved).newline_notMem
  unfold HostKeyVerifier.acceptAndSave
  dsimp only
  rw [content, ended, fileOf, map_append, unlines, unlines, flatMap_append,
    append_assoc, map_singleton, flatMap_singleton]
  rfl

/-! ### What every connection keeps -/

/-- The file holds the saved connections, and tells of every host and port that has been accepted
its first key. -/
structure Client.Kept (client : Client) (saved : List Connection) : Prop where
  file : client.verifier = fileOf saved
  plain : ∀ connection ∈ saved, connection.Plain
  known : ∀ connection ∈ saved, connection ∈ client.accepted
  found : ∀ host port, (savedFor saved host port).map Connection.keyBytes =
    (firstTo client.accepted host port <|> firstTo client.accepted host 22).map Connection.keyBytes

variable {client : Client} {saved : List Connection} {connection : Connection}

theorem start_kept : start.Kept [] where
  file := rfl
  plain := fun _ mem => absurd mem not_mem_nil
  known := fun _ mem => absurd mem not_mem_nil
  found := fun _ _ => rfl

theorem Client.Kept.connect_eq (kept : client.Kept saved) : client.connect connection =
      match savedFor saved connection.host connection.port with
      | some earlier =>
          if earlier.keyBytes = connection.keyBytes then
            { client with accepted := client.accepted ++ [connection] }
          else client
      | none =>
          { verifier := (fileOf saved).acceptAndSave connection.host connection.port
              connection.keyBytes connection.keyType
            accepted := client.accepted ++ [connection] } := by
  have checked := verify_fileOf kept.plain connection.host connection.port connection.keyBytes
  rw [connect, accepts, checkServerKey, kept.file, checked]
  cases savedFor saved connection.host connection.port with
  | none => simp [Except.isOk, Except.toBool]
  | some earlier =>
    by_cases same : earlier.keyBytes = connection.keyBytes
    · simp [same, Except.isOk, Except.toBool]
    · simp [same, Except.isOk, Except.toBool, ← kept.file]

theorem Client.Kept.accepts_iff (kept : client.Kept saved) : client.accepts connection = true ↔
      ∀ earlier ∈ savedFor saved connection.host connection.port,
        earlier.keyBytes = connection.keyBytes := by
  have checked := verify_fileOf kept.plain connection.host connection.port connection.keyBytes
  rw [accepts, checkServerKey, kept.file, checked]
  cases savedFor saved connection.host connection.port with
  | none => simp [Except.isOk, Except.toBool]
  | some earlier =>
    by_cases same : earlier.keyBytes = connection.keyBytes
    · simp [same, Except.isOk, Except.toBool]
    · simp [same, Except.isOk, Except.toBool]

theorem Client.Kept.pins (kept : client.Kept saved) (clear : client.Clear connection) :
    client.Pins connection := by
  have found := kept.found connection.host connection.port
  rw [Pins, kept.accepts_iff]
  cases first : firstTo client.accepted connection.host connection.port with
  | some earlier =>
    rw [first] at found
    obtain ⟨entry, isSaved, same⟩ := map_eq_some_iff.mp found
    simp [isSaved, same, eq_comm]
  | none =>
    refine iff_of_true ?_ (fun _ absent => absurd absent (not_mem_none _))
    intro entry isSaved
    have cond := clear first
    rw [first, mem_def.mp isSaved] at found
    cases standard : firstTo client.accepted connection.host 22 with
    | none =>
      rw [standard] at found
      cases found
    | some earlier =>
      rw [standard] at found
      exact (some.inj found).trans (cond.1 earlier standard).symm

theorem firstTo_append (taken : List Connection) (connection : Connection) (host : List Char)
    (port : UInt16) :
    firstTo (taken ++ [connection]) host port = (firstTo taken host port <|>
        if connection.host = host ∧ connection.port = port then some connection else none) := by
  unfold firstTo
  rw [find?_append]
  by_cases matching : connection.host = host ∧ connection.port = port
  · simp [matching]
  · simp [matching]

theorem savedFor_append (saved : List Connection) (connection : Connection) (host : List Char)
    (port : UInt16) :
    savedFor (saved ++ [connection]) host port = (savedFor saved host port <|>
        if connection.host = host ∧ (connection.port = port ∨ connection.port = 22) then
          some connection else none) := by
  unfold savedFor
  rw [find?_append]
  by_cases matching : connection.host = host ∧ (connection.port = port ∨ connection.port = 22)
  · simp [matching]
  · simp [matching]

section

variable (kept : client.Kept saved)
include kept

theorem Client.Kept.again {earlier : Connection}
    (there : firstTo client.accepted connection.host connection.port = some earlier) :
    ({ client with accepted := client.accepted ++ [connection] } : Client).Kept saved where
  file := kept.file
  plain := kept.plain
  known := fun other isSaved => mem_append_left _ (kept.known other isSaved)
  found := by
    intro host port
    have unchanged (port : UInt16) :
        firstTo (client.accepted ++ [connection]) host port =
          firstTo client.accepted host port := by
      rw [firstTo_append]
      split
      next same =>
        rw [← same.1, ← same.2, there]
        rfl
      · cases firstTo client.accepted host port <;> rfl
    rw [kept.found host port]
    dsimp only
    rw [unchanged, unchanged]

/-- A connection to a host with the key of its standard port has that key from then on. -/
theorem Client.Kept.shared {standard : Connection}
    (fresh : firstTo client.accepted connection.host connection.port = none)
    (there : firstTo client.accepted connection.host 22 = some standard)
    (same : connection.keyBytes = standard.keyBytes) :
    ({ client with accepted := client.accepted ++ [connection] } : Client).Kept saved where
  file := kept.file
  plain := kept.plain
  known := fun other isSaved => mem_append_left _ (kept.known other isSaved)
  found := by
    intro host port
    have other : connection.port ≠ 22 := by
      intro isStandard
      rw [isStandard, there] at fresh
      cases fresh
    rw [kept.found host port]
    dsimp only
    rw [firstTo_append, firstTo_append, if_neg (c := connection.host = host ∧ connection.port = 22)
      fun both => other both.2]
    by_cases here : connection.host = host ∧ connection.port = port
    · rw [if_pos here, ← here.1, ← here.2, fresh, there]
      exact congrArg some same.symm
    · rw [if_neg here]
      cases firstTo client.accepted host port <;> cases firstTo client.accepted host 22 <;> rfl

/-- The key of a fresh host is saved behind all others. -/
theorem Client.Kept.saves (plain : connection.Plain)
    (fresh : firstTo client.accepted connection.host connection.port = none)
    (unshared : firstTo client.accepted connection.host 22 = none) :
    ({ verifier := fileOf (saved ++ [connection])
       accepted := client.accepted ++ [connection] } : Client).Kept (saved ++ [connection]) where
  file := rfl
  plain := by
    intro other mem
    rcases mem_append.mp mem with old | new
    · exact kept.plain other old
    · exact mem_singleton.mp new ▸ plain
  known := by
    intro other mem
    rcases mem_append.mp mem with old | new
    · exact mem_append_left _ (kept.known other old)
    · exact mem_append_right _ new
  found := by
    intro host port
    have found := kept.found host port
    dsimp only
    rw [savedFor_append, firstTo_append, firstTo_append]
    by_cases sameHost : connection.host = host
    · subst sameHost
      rw [unshared] at found
      by_cases samePort : connection.port = port
      · subst samePort
        have absent : savedFor saved connection.host connection.port = none := by
          rw [fresh] at found
          exact map_eq_none_iff.mp found
        simp [absent, fresh]
      · by_cases isStandard : connection.port = 22
        · -- Every port of the host without a key of its own has the new one.
          cases mine : firstTo client.accepted connection.host port with
          | none =>
            rw [mine] at found
            have ne : (22 : UInt16) ≠ port := isStandard ▸ samePort
            simp [map_eq_none_iff.mp found, unshared, isStandard, ne]
          | some earlier =>
            rw [mine] at found
            obtain ⟨entry, isSaved, sameKey⟩ := map_eq_some_iff.mp found
            simp [isSaved, sameKey]
        · simpa [samePort, isStandard, unshared] using found
    · simpa [sameHost] using found

/-- A clear connection leaves a file that tells the first keys. -/
theorem Client.Kept.connect (isHost : IsHost connection.host) (clear : client.Clear connection) :
    ∃ saved, (client.connect connection).Kept saved := by
  have found := kept.found connection.host connection.port
  rw [kept.connect_eq]
  cases first : firstTo client.accepted connection.host connection.port with
  | some earlier =>
    rw [first] at found
    obtain ⟨entry, isSaved, -⟩ := map_eq_some_iff.mp found
    rw [isSaved]
    dsimp only
    split
    · exact ⟨saved, kept.again first⟩
    · exact ⟨saved, kept⟩
  | none =>
    have cond := clear first
    rw [first] at found
    cases standard : firstTo client.accepted connection.host 22 with
    | some earlier =>
      have same : connection.keyBytes = earlier.keyBytes := cond.1 earlier standard
      rw [standard] at found
      obtain ⟨entry, isSaved, sameKey⟩ := map_eq_some_iff.mp found
      have accepted : entry.keyBytes = connection.keyBytes := sameKey.trans same.symm
      rw [isSaved]
      dsimp only
      rw [if_pos accepted]
      exact ⟨saved, kept.shared first standard same⟩
    | none =>
      obtain ⟨held, noSpace, noNewline, apart⟩ := cond.2 standard
      rw [standard] at found
      rw [map_eq_none_iff.mp found]
      dsimp only
      rw [acceptAndSave_fileOf kept.plain isHost
        fun other isSaved => apart other (kept.known other isSaved)]
      exact ⟨_, kept.saves ⟨isHost, held, noSpace, noNewline⟩ first standard⟩

end

/-- In a run of clear connections, exactly the first to a host and port and those with its key are
accepted. -/
theorem host_keys_pinned (connections : List Connection) (connection : Connection)
    (clear : Runs.Careful Client.connect
      (fun client other => IsHost other.host ∧ client.Clear other) start
      (connections ++ [connection])) :
    (Runs.run Client.connect start connections).Pins connection := by
  obtain ⟨before, ⟨_, clearHere⟩, _⟩ := Runs.careful_append.mp clear
  obtain ⟨saved, kept⟩ := before.kept (fun client => ∃ saved, client.Kept saved)
    (fun _ _ ⟨_, kept⟩ allowed => kept.connect allowed.1 allowed.2) ⟨[], start_kept⟩
  exact kept.pins clearHere

def office (keyByte : UInt8) : Connection :=
  { host := "office".toList, port := 22, keyBytes := [0, keyByte], keyType := "Ed25519".toList }

/-- A host keeps its key while another port and another host are connected to. -/
theorem host_keys_pinned_office : (Runs.run Client.connect start
      [office 1, { office 1 with port := 2222 }, { office 3 with host := "home".toList }]).Pins
      (office 2) :=
  host_keys_pinned _ _ (by decide +kernel)

/-- A host whose name begins the name of another takes its line: then the other is accepted with
any key. -/
theorem host_key_lost : let connections := [office 1, { office 2 with host := "off".toList }]
    (∀ connection ∈ connections ++ [office 3], IsHost connection.host) ∧
      ¬ (Runs.run Client.connect start connections).Pins (office 3) := by
  have accepted : (Runs.run Client.connect start
      [office 1, { office 2 with host := "off".toList }]).accepts (office 3) = true := by
    decide +kernel
  have first : firstTo (Runs.run Client.connect start
      [office 1, { office 2 with host := "off".toList }]).accepted (office 3).host
      (office 3).port = some (office 1) := by
    decide +kernel
  refine ⟨by decide +kernel, fun pins => ?_⟩
  exact absurd (pins.mp accepted (office 1) first) (by decide)

end Dinotty.Ssh
