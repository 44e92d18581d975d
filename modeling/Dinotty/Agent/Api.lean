/-
This file is the interface for agents. It proves exactly which requests act within the authority of
their token and on the pane that they name.
-/

import Dinotty.Agent.Limiter
import Dinotty.Auth.Tokens
import Dinotty.Foundation.Json
import Dinotty.Screen.VirtualScreen

namespace Dinotty.Agent

open Auth Screen List Option

/-! ### Requests and answers -/

def defaultTimeoutMs : Nat := 300000

def maxTimeoutMs : Nat := 3600000

structure AgentRunRequest where
  command : String
  timeout : Option Nat := none
  paneId : Option String := none

structure AgentRunResponse where
  exitCode : Int
  stdout : List Char
  stderr : List Char := []
  duration : Nat
  paneId : String
  method : String

structure AgentSendRequest where
  command : String
  paneId : Option String := none

structure AgentReadQuery where
  paneId : String := "active"
  scrollback : Option Nat := none
  stripAnsi : Bool := true

structure CursorInfo where
  row : Nat
  col : Nat

structure AgentReadResponse where
  paneId : String
  lines : List (List Char)
  scrollback : Option (List (List Char))
  cursor : CursorInfo
  cwd : Option String

/-- An error with its status and headers. -/
structure AgentFailure where
  status : Nat
  code : String
  message : String
  headers : List (String × String) := []

inductive AgentAnswer where
  | ran (response : AgentRunResponse)
  | sent (paneId : String)
  | read (response : AgentReadResponse)
  | failed (failure : AgentFailure)

/-! ### Plain text -/

/-- What follows on a control sequence. -/
def skipControlSequence : List Char → List Char
  | [] => []
  | c :: rest => if c.isAlpha then rest else skipControlSequence rest

/-- What follows on an operating-system command. -/
def skipCommandSequence : List Char → List Char
  | [] => []
  | '\x07' :: rest => rest
  | '\x1b' :: '\\' :: rest => rest
  | _ :: rest => skipCommandSequence rest

theorem length_skipControlSequence (text : List Char) :
    (skipControlSequence text).length ≤ text.length := by
  induction text with
  | nil => exact Nat.le_refl 0
  | cons c rest ih =>
    rw [skipControlSequence]
    split
    · exact Nat.le_succ _
    · exact Nat.le_succ_of_le ih

theorem length_skipCommandSequence (text : List Char) :
    (skipCommandSequence text).length ≤ text.length := by
  fun_induction skipCommandSequence text with
  | case1 => exact Nat.le_refl 0
  | case2 rest => exact Nat.le_succ _
  | case3 rest => exact Nat.le_add_right _ 2
  | case4 _ rest _ _ ih => exact Nat.le_succ_of_le ih

/-- Drop the escape sequences of a text. -/
def stripAnsi : List Char → List Char
  | [] => []
  | '\x1b' :: '[' :: rest =>
      have := length_skipControlSequence rest
      stripAnsi (skipControlSequence rest)
  | '\x1b' :: ']' :: rest =>
      have := length_skipCommandSequence rest
      stripAnsi (skipCommandSequence rest)
  | '\x1b' :: rest => stripAnsi rest
  | c :: rest => c :: stripAnsi rest
termination_by text => text.length

/-- The text of a row up to its last mark. -/
def plainRow (row : Row) : List Char :=
  ((row.reverse.dropWhile fun cell => cell.ch = ' ' ∨ cell.ch = nul).reverse).map fun cell =>
    if cell.ch = nul then ' ' else cell.ch

def snapshotPlain {Parser : Type} (vs : VirtualScreen Parser) : List Char :=
  ['\n'].intercalate (vs.active.cells.map plainRow)

def snapshotScrollbackPlain {Parser : Type} (vs : VirtualScreen Parser) (maxLines : Option Nat) :
    List (List Char) :=
  let skip := maxLines.elim 0 (vs.scrollback.length - ·)
  (vs.scrollback.drop skip).map plainRow

/-! ### The server -/

/-- A session, with the texts that have been written to it. -/
structure AgentPane (Parser : Type) where
  screen : VirtualScreen Parser
  input : List String := []
  cwd : Option String := none

structure AgentServer (Parser : Type) where
  openApi : Bool
  activePaneId : Option String
  sessions : KeyMap String (AgentPane Parser)
  runLimiter : AgentRunLimiter := ∅

variable {Parser : Type}

/-- What the world does during a request: whether a text can be written, and how a command ends and
what the pane shows then. -/
structure World (Parser : Type) where
  written : Except String Unit
  ending : Nat → AgentRunResponse
  screen : VirtualScreen Parser

/-- The pane that is asked for, or else the active one, or any. -/
def resolvePaneId (requested : Option String) (server : AgentServer Parser) : Option String :=
  if requested = none ∨ requested = some "auto" then
    (server.activePaneId.filter fun id => (server.sessions.lookup id).isSome).or
      server.sessions.keys.head?
  else requested.filter fun id => (server.sessions.lookup id).isSome

def resolvePaneIdFromStr (requested : String) (server : AgentServer Parser) : Option String :=
  if requested = "active" ∨ requested = "" then resolvePaneId none server
  else resolvePaneId (some requested) server

def writeInput (server : AgentServer Parser) (paneId : String) (session : AgentPane Parser)
    (text : String) : AgentServer Parser :=
  { server with
    sessions :=
      server.sessions.insert paneId { session with input := session.input ++ [text ++ "\n"] } }

/-- Write a command to a pane and wait for its end. -/
def executeCommand (world : World Parser) (server : AgentServer Parser) (paneId command : String)
    (timeoutMs : Nat) : AgentServer Parser × Except AgentFailure AgentRunResponse :=
  match server.sessions.lookup paneId with
  | none => (server, .error { status := 404, code := "NOT_FOUND", message := "Pane not found" })
  | some session =>
      let session := { session with screen := world.screen }
      match world.written with
      | .error error =>
          ({ server with sessions := server.sessions.insert paneId session }, .error {
              status  := 500
              code    := "INTERNAL_ERROR"
              message := "Failed to write to PTY: " ++ error })
      | .ok () =>
          (writeInput server paneId session command,
            .ok { world.ending timeoutMs with paneId := paneId })

def scopeDenied (capability paneId : String) : AgentFailure where
  status := 403
  code := "SCOPE_DENIED"
  message := "Token " ++ capability ++ " scope does not include pane " ++ paneId

/-- The checks that every request makes. `valid` is a check that goes before the pane. -/
def gate (server : AgentServer Parser) (info : TokenInfo) (disabled capability : String)
    (valid : Except AgentFailure Unit) (resolved : Option String) : Except AgentFailure String :=
  if ¬ server.openApi then
    .error { status := 403, code := "CAPABILITY_DENIED", message := disabled }
  else if ¬ info.hasCapability capability then
    .error {
      status  := 403
      code    := "CAPABILITY_DENIED"
      message := "Token lacks " ++ capability ++ " capability" }
  else
    match valid, resolved with
    | .error failure, _ => .error failure
    | .ok (), none =>
        .error { status := 404, code := "NOT_FOUND", message := "No active terminal session" }
    | .ok (), some paneId =>
        if info.checkScope capability paneId then .ok paneId
        else .error (scopeDenied capability paneId)

def validTimeout (timeout : Option Nat) : Except AgentFailure Unit :=
  if timeout.any (· > maxTimeoutMs) then
    .error {
      status  := 400
      code    := "INVALID_REQUEST"
      message := "timeout exceeds maximum of " ++ toString maxTimeoutMs ++ "ms" }
  else .ok ()

/-- `POST /api/sessions/:pane_id/run`: the path is not looked at. -/
def sessionsRun (world : World Parser) (server : AgentServer Parser) (info : TokenInfo)
    (req : AgentRunRequest) : AgentServer Parser × AgentAnswer :=
  match gate server info "Agent API is disabled. Enable open_api in settings." "terminal:write"
      (validTimeout req.timeout) (resolvePaneId req.paneId server) with
  | .error failure => (server, .failed failure)
  | .ok paneId =>
      match server.runLimiter.acquire with
      | none =>
          (server, .failed {
              status  := 429
              code    := "RATE_LIMITED"
              message := "Maximum " ++ toString maxConcurrentRuns ++ " concurrent runs"
              headers := [("Retry-After", "5")] })
      | some runLimiter =>
          let timeout := min (req.timeout.getD defaultTimeoutMs) maxTimeoutMs
          let (server, result) :=
            executeCommand world { server with runLimiter } paneId req.command timeout
          let server := { server with runLimiter := server.runLimiter.release }
          match result with
          | .ok response => (server, .ran response)
          | .error failure => (server, .failed failure)

/-- `POST /api/sessions/:pane_id/send`: the path is not looked at. -/
def sessionsSend (world : World Parser) (server : AgentServer Parser) (info : TokenInfo)
    (req : AgentSendRequest) : AgentServer Parser × AgentAnswer :=
  match gate server info "Agent API is disabled" "terminal:write" (.ok ())
      (resolvePaneId req.paneId server) with
  | .error failure => (server, .failed failure)
  | .ok paneId =>
      match server.sessions.lookup paneId, world.written with
      | some session, .ok () => (writeInput server paneId session req.command, .sent paneId)
      | some _, .error error =>
          (server, .failed {
              status  := 500
              code    := "INTERNAL_ERROR"
              message := "Write failed: " ++ error })
      | none, _ =>
          (server, .failed { status := 404, code := "NOT_FOUND", message := "Pane not found" })

def readPane (paneId : String) (session : AgentPane Parser) (q : AgentReadQuery) :
    AgentReadResponse :=
  let strip := fun text => if q.stripAnsi then stripAnsi text else text
  { paneId
    lines      := (strip (snapshotPlain session.screen)).splitOn '\n'
    scrollback := q.scrollback.map fun count =>
      (snapshotScrollbackPlain session.screen (some (min count 10000))).map strip
    cursor     := ⟨session.screen.active.cursor.row, session.screen.active.cursor.col⟩
    cwd        := session.cwd }

/-- `GET /api/sessions/:pane_id/read`: the path is not looked at. -/
def sessionsRead (server : AgentServer Parser) (info : TokenInfo) (q : AgentReadQuery) :
    AgentAnswer :=
  match gate server info "Agent API is disabled" "terminal:read" (.ok ())
      (resolvePaneIdFromStr q.paneId server) with
  | .error failure => .failed failure
  | .ok paneId =>
      match server.sessions.lookup paneId with
      | some session => .read (readPane paneId session q)
      | none => .failed { status := 404, code := "NOT_FOUND", message := "Pane not found" }

/-! ### The stream of events -/

inductive BusEvent where
  | commandFinished (paneId command : String) (exitCode : Int) (durationMs : Nat)
      (stdout : List Char) (method : String)
  | sessionCreated (paneId shellType : String)
  | sessionClosed (paneId : String) (exitCode : Option Int)
  | tabCreated (tabId paneId : String)
  | tabClosed (tabId : String)
  | fileChanged (path changeType : String)
  | custom (pluginId eventName : String) (data : Json)
  | authLoginFailed (ip reason : String) (attemptCount : Nat) (lockedUntil : Option Nat)
  | verificationCode (requestId code : String) (occurredAt : Nat)
  | verificationCodeConsumed (requestId ip : String) (userAgent : Option String) (occurredAt : Nat)
  | notify (paneId : String) (title : Option String) (body notificationType severity : String)
      (occurredAt : Nat)
  | processExited (pluginId : String) (pid : Nat) (exitCode : Option Int)
  | pluginChanged (pluginId change : String)

def BusEvent.paneId : BusEvent → Option String
  | .commandFinished paneId _ _ _ _ _ | .sessionCreated paneId _ | .sessionClosed paneId _
  | .tabCreated _ paneId | .notify paneId _ _ _ _ _ => some paneId
  | _ => none

/-- What the stream sends to its client. -/
inductive AgentMessage where
  | result (id : String) (response : AgentRunResponse)
  | error (id code message : String)
  | subscribed
  | pong
  | event (event : BusEvent)

/-- A message of the client: the token of the connection is not at hand. -/
def handleAgentMessage (world : World Parser) (server : AgentServer Parser) (val : Json) :
    AgentServer Parser × List AgentMessage :=
  match (val.getStr "type").getD "" with
  | "run" =>
      let id := (val.getStr "id").getD ""
      let command := (val.getStr "command").getD ""
      let timeout := min (((val.get "timeout").bind Json.asU64).getD defaultTimeoutMs) maxTimeoutMs
      match resolvePaneId none server with
      | none => (server, [.error id "NOT_FOUND" "No active session"])
      | some paneId =>
          let (server, result) := executeCommand world server paneId command timeout
          match result with
          | .ok response => (server, [.result id response])
          | .error failure => (server, [.error id failure.code failure.message])
  | "subscribe" => (server, [.subscribed])
  | "ping" => (server, [.pong])
  | _ => (server, [])

/-- Every event goes to every client. -/
def forwardEvent (event : BusEvent) : List AgentMessage := [.event event]

/-! ### Authority and addressing -/

/-- What agents ask for, over HTTP with the pane of the path, or on a stream, where events come up
too. -/
inductive AgentRequest where
  | run (paneId : String) (req : AgentRunRequest)
  | send (paneId : String) (req : AgentSendRequest)
  | read (paneId : String) (q : AgentReadQuery)
  | message (val : Json)
  | published (event : BusEvent)

inductive Reply where
  | answer (answer : AgentAnswer)
  | messages (messages : List AgentMessage)

def handle (world : World Parser) (server : AgentServer Parser) (info : TokenInfo) :
    AgentRequest → AgentServer Parser × Reply
  | .run _ req =>
      let (server, answer) := sessionsRun world server info req
      (server, .answer answer)
  | .send _ req =>
      let (server, answer) := sessionsSend world server info req
      (server, .answer answer)
  | .read _ q => (server, .answer (sessionsRead server info q))
  | .message val =>
      let (server, messages) := handleAgentMessage world server val
      (server, .messages messages)
  | .published event => (server, .messages (forwardEvent event))

def AgentRequest.path : AgentRequest → Option String
  | .run paneId _ | .send paneId _ | .read paneId _ => some paneId
  | .message _ | .published _ => none

/-- The texts that have been written to a pane. -/
def inputOf (server : AgentServer Parser) (paneId : String) : Option (List String) :=
  (server.sessions.lookup paneId).map (·.input)

/-- A token may do to a pane what the capability is for. -/
def Permits (info : TokenInfo) (capability paneId : String) : Prop :=
  info.hasCapability capability ∧ info.checkScope capability paneId

/-- A request keeps to the authority of its token and to the pane of its path. -/
structure Lawful (server : AgentServer Parser) (info : TokenInfo) (request : AgentRequest)
    (result : AgentServer Parser × Reply) : Prop where
  commands : ∀ paneId, inputOf result.1 paneId ≠ inputOf server paneId →
    Permits info "terminal:write" paneId ∧ ∀ path ∈ request.path, paneId = path
  screens : ∀ response, result.2 = .answer (.read response) →
    Permits info "terminal:read" response.paneId ∧ ∀ path ∈ request.path, response.paneId = path
  events : ∀ messages event paneId, result.2 = .messages messages → .event event ∈ messages →
    event.paneId = some paneId → Permits info "terminal:read" paneId

/-- The pane that a request is for: the one that it names, or the active one, or else the first one.
-/
inductive Addresses (server : AgentServer Parser) : Option String → String → Prop where
  | named {paneId : String} (named : paneId ≠ "auto")
      (live : (server.sessions.lookup paneId).isSome) : Addresses server (some paneId) paneId
  | active {requested : Option String} {paneId : String}
      (auto : requested = none ∨ requested = some "auto")
      (active : server.activePaneId = some paneId)
      (live : (server.sessions.lookup paneId).isSome) : Addresses server requested paneId
  | first {requested : Option String} {paneId : String}
      (auto : requested = none ∨ requested = some "auto")
      (gone : ∀ active ∈ server.activePaneId, (server.sessions.lookup active).isSome = false)
      (first : server.sessions.keys.head? = some paneId) : Addresses server requested paneId

/-- The pane of a query that asks for the active one by name. -/
def AgentReadQuery.requested (q : AgentReadQuery) : Option String :=
  if q.paneId = "active" ∨ q.paneId = "" then none else some q.paneId

/-- A request is let through to a pane: the interface is on and the token permits it. -/
def Admits (server : AgentServer Parser) (info : TokenInfo) (capability paneId : String) : Prop :=
  server.openApi ∧ Permits info capability paneId

/-- When a request is lawful, unless it is refused or comes to nothing: over HTTP, if the pane that
it is for is the one of its path; on a stream, if the token has the rights for the pane. -/
def Addressed (world : World Parser) (server : AgentServer Parser) (info : TokenInfo) :
    AgentRequest → Prop
  | .run path req => ∀ paneId, Addresses server req.paneId paneId →
      Admits server info "terminal:write" paneId →
      (∀ timeout ∈ req.timeout, timeout ≤ maxTimeoutMs) →
      server.runLimiter.running < maxConcurrentRuns → world.written = .ok () → paneId = path
  | .send path req => ∀ paneId, Addresses server req.paneId paneId →
      Admits server info "terminal:write" paneId → world.written = .ok () → paneId = path
  | .read path q => ∀ paneId, Addresses server q.requested paneId →
      Admits server info "terminal:read" paneId → paneId = path
  | .message val => val.getStr "type" = some "run" → world.written = .ok () →
      ∀ paneId, Addresses server none paneId → Permits info "terminal:write" paneId
  | .published event => ∀ paneId ∈ event.paneId, Permits info "terminal:read" paneId

section

variable {world : World Parser} {server : AgentServer Parser} {info : TokenInfo}
variable {requested : Option String} {paneId other capability : String}

theorem live_of_mem_keys (mem : paneId ∈ server.sessions.keys) :
    (server.sessions.lookup paneId).isSome :=
  AList.lookup_isSome.mpr mem

theorem resolvePaneId_eq_some :
    resolvePaneId requested server = some paneId ↔ Addresses server requested paneId := by
  rw [resolvePaneId]
  split
  next auto =>
    constructor
    · intro resolved
      rcases or_eq_some_iff.mp resolved with active | ⟨gone, first⟩
      · obtain ⟨active, live⟩ := filter_eq_some_iff.mp active
        exact .active auto active live
      · refine .first auto (fun active here => ?_) first
        simpa using filter_eq_none_iff.mp gone active here
    · rintro (⟨named, -⟩ | ⟨-, active, live⟩ | ⟨-, gone, first⟩)
      · exact absurd auto (by simpa using named)
      · rw [active, filter_some, if_pos live]
        rfl
      · have none : (server.activePaneId.filter fun id =>
            (server.sessions.lookup id).isSome) = none := by
          simpa [filter_eq_none_iff] using gone
        rw [none, none_or, first]
  next auto =>
    constructor
    · intro resolved
      obtain ⟨rfl, live⟩ := filter_eq_some_iff.mp resolved
      exact .named (fun same => auto (.inr (congrArg some same))) live
    · rintro (⟨named, live⟩ | ⟨isAuto, -, -⟩ | ⟨isAuto, -, -⟩)
      · rw [filter_some, if_pos live]
      · exact absurd isAuto auto
      · exact absurd isAuto auto

theorem resolvePaneIdFromStr_eq_some {q : AgentReadQuery} :
    resolvePaneIdFromStr q.paneId server = some paneId ↔ Addresses server q.requested paneId := by
  rw [resolvePaneIdFromStr, AgentReadQuery.requested]
  split
  · exact resolvePaneId_eq_some
  · exact resolvePaneId_eq_some

theorem Addresses.live (addresses : Addresses server requested paneId) :
    (server.sessions.lookup paneId).isSome := by
  rcases addresses with ⟨-, live⟩ | ⟨-, -, live⟩ | ⟨-, -, first⟩
  · exact live
  · exact live
  · exact live_of_mem_keys (mem_of_mem_head? first)

theorem gate_eq_ok {disabled : String} {valid : Except AgentFailure Unit} :
    gate server info disabled capability valid requested = .ok paneId ↔
      Admits server info capability paneId ∧ valid = .ok () ∧ requested = some paneId := by
  unfold gate Admits Permits
  split
  next off =>
    exact ⟨nofun, fun admitted => absurd admitted.1.1 off⟩
  next on =>
    split
    next incapable =>
      exact ⟨nofun, fun admitted => absurd admitted.1.2.1 incapable⟩
    next capable =>
      split
      · exact ⟨nofun, nofun⟩
      · exact ⟨nofun, nofun⟩
      next resolved =>
        split
        next scope =>
          constructor
          · intro same
            cases same
            exact ⟨⟨not_not.mp on, not_not.mp capable, scope⟩, rfl, rfl⟩
          · rintro ⟨-, -, same⟩
            rw [some.inj same]
        next refused =>
          refine ⟨nofun, fun admitted => ?_⟩
          rw [some.inj admitted.2.2] at refused
          exact absurd admitted.1.2.2 refused

theorem validTimeout_eq_ok {timeout : Option Nat} :
    validTimeout timeout = .ok () ↔ ∀ given ∈ timeout, given ≤ maxTimeoutMs := by
  rw [validTimeout]
  cases timeout with
  | none => simp
  | some given =>
    by_cases long : given > maxTimeoutMs
    · simp [long]
    · simpa [long] using Nat.le_of_not_lt long

/-! ### What reaches a pane -/

theorem inputOf_insert (session : AgentPane Parser) :
    inputOf { server with sessions := server.sessions.insert paneId session } other =
      if other = paneId then some session.input else inputOf server other := by
  rw [inputOf, KeyMap.lookup_insert]
  split <;> rfl

theorem inputOf_writeInput (sess : AgentPane Parser) {input : List String}
    (held : inputOf server paneId = some input) (same : sess.input = input) (text : String) :
    inputOf (writeInput server paneId sess text) other ≠ inputOf server other ↔ other = paneId := by
  rw [writeInput, inputOf_insert]
  by_cases here : other = paneId
  · rw [if_pos here, here, held, same]
    simp
  · simp [here]

theorem inputOf_executeCommand (server : AgentServer Parser) {command : String} {timeoutMs : Nat}
    (live : (server.sessions.lookup paneId).isSome) :
    inputOf (executeCommand world server paneId command timeoutMs).1 other ≠
      inputOf server other ↔ other = paneId ∧ world.written = .ok () := by
  obtain ⟨session, held⟩ := isSome_iff_exists.mp live
  have input : inputOf server paneId = some session.input := by rw [inputOf, held]; rfl
  rw [executeCommand, held]
  dsimp only
  cases world.written with
  | error error =>
    dsimp only
    rw [inputOf_insert]
    by_cases here : other = paneId
    · simp [here, input]
    · simp [here]
  | ok done =>
    dsimp only
    refine (inputOf_writeInput { session with screen := world.screen } input rfl command).trans ?_
    exact (and_iff_left rfl).symm

theorem reached_sessionsRun {req : AgentRunRequest} :
    inputOf (sessionsRun world server info req).1 other ≠ inputOf server other ↔
      Addresses server req.paneId other ∧ Admits server info "terminal:write" other ∧
        (∀ timeout ∈ req.timeout, timeout ≤ maxTimeoutMs) ∧
        server.runLimiter.running < maxConcurrentRuns ∧ world.written = .ok () := by
  rw [sessionsRun]
  split
  next failure refused =>
    refine ⟨fun changed => absurd rfl changed, fun ⟨addresses, admits, valid, _, _⟩ => ?_⟩
    exact absurd (refused.symm.trans (gate_eq_ok.mpr
      ⟨admits, validTimeout_eq_ok.mpr valid, resolvePaneId_eq_some.mpr addresses⟩)) nofun
  next paneId admitted =>
    obtain ⟨admits, valid, resolved⟩ := gate_eq_ok.mp admitted
    have addresses := resolvePaneId_eq_some.mp resolved
    have alone : ∀ pane, Addresses server req.paneId pane → pane = paneId := fun pane also =>
      some.inj ((resolvePaneId_eq_some.mpr also).symm.trans resolved)
    split
    next full =>
      exact ⟨fun changed => absurd rfl changed, fun ⟨_, _, _, room, _⟩ =>
        absurd room (Nat.not_lt_of_le (AgentRunLimiter.acquire_eq_none full))⟩
    next runLimiter taken =>
      have room := (AgentRunLimiter.acquire_eq_some taken).1
      have after : inputOf (executeCommand world { server with runLimiter } paneId
          req.command (min (req.timeout.getD defaultTimeoutMs) maxTimeoutMs)).1 other ≠
            inputOf server other ↔
          Addresses server req.paneId other ∧ Admits server info "terminal:write" other ∧
            (∀ timeout ∈ req.timeout, timeout ≤ maxTimeoutMs) ∧
            server.runLimiter.running < maxConcurrentRuns ∧ world.written = .ok () := by
        refine (inputOf_executeCommand { server with runLimiter }
          addresses.live).trans ⟨?_, fun ⟨also, _, _, _, written⟩ => ⟨alone other also, written⟩⟩
        rintro ⟨rfl, written⟩
        exact ⟨addresses, admits, validTimeout_eq_ok.mp valid, room, written⟩
      dsimp only
      split
      · exact after
      · exact after

theorem reached_sessionsSend {req : AgentSendRequest} :
    inputOf (sessionsSend world server info req).1 other ≠ inputOf server other ↔
      Addresses server req.paneId other ∧ Admits server info "terminal:write" other ∧
        world.written = .ok () := by
  rw [sessionsSend]
  split
  next failure refused =>
    refine ⟨fun changed => absurd rfl changed, fun ⟨addresses, admits, _⟩ => ?_⟩
    exact absurd (refused.symm.trans
      (gate_eq_ok.mpr ⟨admits, rfl, resolvePaneId_eq_some.mpr addresses⟩)) nofun
  next paneId admitted =>
    obtain ⟨admits, -, resolved⟩ := gate_eq_ok.mp admitted
    have addresses := resolvePaneId_eq_some.mp resolved
    split
    next sess held written =>
      have input : inputOf server paneId = some sess.input := by rw [inputOf, held]; rfl
      refine (inputOf_writeInput sess input rfl req.command).trans ⟨?_, fun ⟨also, _⟩ => ?_⟩
      · rintro rfl
        exact ⟨addresses, admits, written⟩
      · exact some.inj ((resolvePaneId_eq_some.mpr also).symm.trans resolved)
    next error unwritten =>
      exact ⟨fun changed => absurd rfl changed,
        fun ⟨_, _, written⟩ => absurd (unwritten.symm.trans written) nofun⟩
    next absent =>
      have live := addresses.live
      rw [absent] at live
      exact nomatch live

theorem reached_handleAgentMessage {val : Json} :
    inputOf (handleAgentMessage world server val).1 other ≠ inputOf server other ↔
      val.getStr "type" = some "run" ∧ world.written = .ok () ∧ Addresses server none other := by
  rw [handleAgentMessage]
  split
  next run =>
    have isRun : val.getStr "type" = some "run" := by
      cases kind : val.getStr "type" with
      | none => rw [kind] at run; exact absurd run (by decide)
      | some kind => rw [kind] at run; exact congrArg some run
    dsimp only
    split
    next nowhere =>
      refine ⟨fun changed => absurd rfl changed, fun ⟨_, _, addresses⟩ => ?_⟩
      exact absurd (nowhere.symm.trans (resolvePaneId_eq_some.mpr addresses)) nofun
    next paneId resolved =>
      have addresses := resolvePaneId_eq_some.mp resolved
      have after : inputOf (executeCommand world server paneId ((val.getStr "command").getD "")
          (min (((val.get "timeout").bind Json.asU64).getD defaultTimeoutMs) maxTimeoutMs)).1
            other ≠ inputOf server other ↔
          val.getStr "type" = some "run" ∧ world.written = .ok () ∧
            Addresses server none other := by
        refine (inputOf_executeCommand server addresses.live).trans
          ⟨?_, fun ⟨_, written, also⟩ => ?_⟩
        · rintro ⟨rfl, written⟩
          exact ⟨isRun, written, addresses⟩
        · exact ⟨some.inj ((resolvePaneId_eq_some.mpr also).symm.trans resolved), written⟩
      split
      · exact after
      · exact after
  next isSubscribe =>
    exact ⟨fun changed => absurd rfl changed,
      fun ⟨run, _, _⟩ => absurd (run ▸ isSubscribe) (by decide)⟩
  next isPing =>
    exact ⟨fun changed => absurd rfl changed, fun ⟨run, _, _⟩ => absurd (run ▸ isPing) (by decide)⟩
  next notRun _ _ =>
    exact ⟨fun changed => absurd rfl changed, fun ⟨run, _, _⟩ => absurd (by rw [run]; rfl) notRun⟩

theorem sessionsRead_eq_read {q : AgentReadQuery} :
    (∃ resp, sessionsRead server info q = .read resp ∧ resp.paneId = paneId) ↔
      Addresses server q.requested paneId ∧ Admits server info "terminal:read" paneId := by
  rw [sessionsRead]
  split
  next failure refused =>
    refine ⟨nofun, fun ⟨addresses, admits⟩ => ?_⟩
    exact absurd (refused.symm.trans
      (gate_eq_ok.mpr ⟨admits, rfl, resolvePaneIdFromStr_eq_some.mpr addresses⟩)) nofun
  next found admitted =>
    obtain ⟨admits, -, resolved⟩ := gate_eq_ok.mp admitted
    have addresses := resolvePaneIdFromStr_eq_some.mp resolved
    split
    next sess held =>
      constructor
      · rintro ⟨resp, same, rfl⟩
        obtain rfl := AgentAnswer.read.inj same
        exact ⟨addresses, admits⟩
      · rintro ⟨also, -⟩
        refine ⟨_, rfl, ?_⟩
        exact some.inj
          (resolved.symm.trans (resolvePaneIdFromStr_eq_some.mpr also))
    next absent =>
      have live := addresses.live
      rw [absent] at live
      exact nomatch live

theorem sessionsRun_ne_read {req : AgentRunRequest} (response : AgentReadResponse) :
    (sessionsRun world server info req).2 ≠ .read response := by
  rw [sessionsRun]
  split
  · nofun
  · split
    · nofun
    · dsimp only
      split
      · nofun
      · nofun

theorem sessionsSend_ne_read {req : AgentSendRequest} (response : AgentReadResponse) :
    (sessionsSend world server info req).2 ≠ .read response := by
  rw [sessionsSend]
  split
  · nofun
  · split
    · nofun
    · nofun
    · nofun

theorem event_notMem_handleAgentMessage {val : Json} (event : BusEvent) :
    .event event ∉ (handleAgentMessage world server val).2 := by
  rw [handleAgentMessage]
  split
  · dsimp only
    split
    · simp
    · split
      · simp
      · simp
  all_goals simp

theorem lawful_iff (world : World Parser) (server : AgentServer Parser) (info : TokenInfo)
    (request : AgentRequest) :
    Lawful server info request (handle world server info request) ↔
      Addressed world server info request := by
  cases request with
  | run path req =>
    constructor
    · intro lawful paneId addresses admits valid room written
      exact (lawful.commands paneId (reached_sessionsRun.mpr
        ⟨addresses, admits, valid, room, written⟩)).2 path rfl
    · intro addressed
      refine ⟨fun paneId changed => ?_, fun response same => ?_, nofun⟩
      · obtain ⟨addresses, admits, valid, room, written⟩ := reached_sessionsRun.mp changed
        refine ⟨admits.2, fun named here => ?_⟩
        exact (addressed paneId addresses admits valid room written).trans (some.inj here)
      · exact absurd (Reply.answer.inj same) (sessionsRun_ne_read response)
  | send path req =>
    constructor
    · intro lawful paneId addresses admits written
      exact (lawful.commands paneId (reached_sessionsSend.mpr
        ⟨addresses, admits, written⟩)).2 path rfl
    · intro addressed
      refine ⟨fun paneId changed => ?_, fun response same => ?_, nofun⟩
      · obtain ⟨addresses, admits, written⟩ := reached_sessionsSend.mp changed
        refine ⟨admits.2, fun named here => ?_⟩
        exact (addressed paneId addresses admits written).trans (some.inj here)
      · exact absurd (Reply.answer.inj same) (sessionsSend_ne_read response)
  | read path q =>
    constructor
    · intro lawful paneId addresses admits
      obtain ⟨response, same, rfl⟩ := sessionsRead_eq_read.mpr ⟨addresses, admits⟩
      exact (lawful.screens response (congrArg Reply.answer same)).2 path rfl
    · intro addressed
      refine ⟨fun paneId changed => absurd rfl changed, fun response same => ?_, nofun⟩
      obtain ⟨addresses, admits⟩ := sessionsRead_eq_read.mp
        ⟨response, Reply.answer.inj same, rfl⟩
      refine ⟨admits.2, fun named here => ?_⟩
      exact (addressed response.paneId addresses admits).trans (some.inj here)
  | message val =>
    constructor
    · intro lawful run written paneId addresses
      exact (lawful.commands paneId (reached_handleAgentMessage.mpr
        ⟨run, written, addresses⟩)).1
    · intro addressed
      refine ⟨fun paneId changed => ?_, nofun, fun messages event paneId same member => ?_⟩
      · obtain ⟨run, written, addresses⟩ := reached_handleAgentMessage.mp changed
        exact ⟨addressed run written paneId addresses, nofun⟩
      · rw [← Reply.messages.inj same] at member
        exact absurd member (event_notMem_handleAgentMessage event)
  | published event =>
    constructor
    · intro lawful paneId here
      exact lawful.events [.event event] event paneId rfl (mem_singleton_self _) here
    · intro addressed
      refine ⟨fun paneId changed => absurd rfl changed, nofun,
        fun messages other paneId same member here => ?_⟩
      rw [← Reply.messages.inj same] at member
      rw [AgentMessage.event.inj (mem_singleton.mp member)] at here
      exact addressed paneId here

end

/-! ### Requests that act beyond their authority -/

def twoPanes : AgentServer Unit where
  openApi      := true
  activePaneId := some "other"
  sessions     := (AList.singleton "pane" { screen := .new () 1 1 }).insert "other"
    { screen := .new () 1 1 }

/-- Every text can be written, and every command ends at once. -/
def quick : World Unit where
  written := .ok ()
  ending  := fun _ =>
    { exitCode := 0, stdout := [], duration := 0, paneId := "", method := "shell_integration" }
  screen  := .new () 1 1

def powerless : TokenInfo where
  tokenId      := "t"
  isGlobal     := false
  capabilities := []
  scopes       := ∅

/-- A run for one pane without a pane in its body runs in another one, a command on the stream runs
for a token without capabilities, and so does an event come up. -/
theorem path_and_stream_unchecked : ¬ Lawful twoPanes .global (.run "pane" { command := "ls" })
        (handle quick twoPanes .global (.run "pane" { command := "ls" })) ∧
    ¬ Lawful twoPanes powerless (.message (.obj [("type", .str "run"), ("command", .str "ls")]))
        (handle quick twoPanes powerless
          (.message (.obj [("type", .str "run"), ("command", .str "ls")]))) ∧
    ¬ Lawful twoPanes powerless (.published (.sessionCreated "pane" "zsh"))
        (handle quick twoPanes powerless (.published (.sessionCreated "pane" "zsh"))) := by
  refine ⟨fun lawful => ?_, fun lawful => ?_, fun lawful => ?_⟩
  · have moved := (lawful.commands "other" (by decide +kernel)).2 "pane" rfl
    exact absurd moved (by decide)
  · have permitted := (lawful.commands "other" (by decide +kernel)).1.1
    exact absurd permitted (by decide)
  · have permitted := lawful.events _ _ "pane" rfl (mem_singleton_self _) rfl
    exact absurd permitted.1 (by decide)

end Dinotty.Agent
