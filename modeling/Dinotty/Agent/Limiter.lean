/-
This file is the limit on the commands that agents run at once. It proves in which runs the count is
that of the commands that are being executed, and never exceeds the limit.
-/

import Dinotty.Foundation.KeyMap
import Dinotty.Foundation.Runs

namespace Dinotty.Agent

open List

/-! ### The limiter -/

def maxConcurrentRuns : Nat := 10

/-- The runs that hold a slot, by the key that they are counted under. -/
abbrev AgentRunLimiter := KeyMap String Nat

namespace AgentRunLimiter

/-- All runs are counted under one key. -/
def running (limiter : AgentRunLimiter) : Nat := (limiter.lookup "default").getD 0

/-- Take a slot, if one is left. -/
def acquire (limiter : AgentRunLimiter) : Option AgentRunLimiter :=
  if limiter.running ≥ maxConcurrentRuns then none
  else some (limiter.insert "default" (limiter.running + 1))

def release (limiter : AgentRunLimiter) : AgentRunLimiter :=
  match limiter.lookup "default" with
  | some count => limiter.insert "default" (count - 1)
  | none => limiter

variable {limiter next : AgentRunLimiter}

theorem running_insert (count : Nat) : running (AList.insert "default" count limiter) = count := by
  rw [running, KeyMap.lookup_insert, if_pos rfl]
  rfl

theorem acquire_eq_some (taken : limiter.acquire = some next) :
    limiter.running < maxConcurrentRuns ∧ next.running = limiter.running + 1 := by
  rw [acquire] at taken
  split at taken
  · exact nomatch taken
  next room =>
    cases taken
    exact ⟨Nat.lt_of_not_le room, running_insert _⟩

theorem acquire_eq_none (full : limiter.acquire = none) : maxConcurrentRuns ≤ limiter.running := by
  rw [acquire] at full
  split at full
  · assumption
  · exact nomatch full

theorem running_release (limiter : AgentRunLimiter) :
    limiter.release.running = limiter.running - 1 := by
  rw [release]
  split
  next count held =>
    rw [running_insert, running, held]
    rfl
  next absent =>
    rw [running, absent]
    rfl

end AgentRunLimiter

/-! ### Requests -/

/-- How far a run has come. One that is rejected knows how many its token had then. -/
inductive RunPhase where
  | arrived
  | executing
  | releasing
  | finished
  | rejected (own : Nat)
  | dropped
  deriving DecidableEq

/-- A run that a token has asked for, over HTTP once it has passed its checks, or on a stream. -/
structure RunRequest where
  tokenId : String
  stream : Bool
  phase : RunPhase
  deriving DecidableEq

/-- A run executes from when it has its slot until it has given it back. -/
def RunRequest.executes (request : RunRequest) : Bool :=
  request.phase = .executing || request.phase = .releasing

structure RunServer where
  runLimiter : AgentRunLimiter := ∅
  requests : List RunRequest := []
  deriving DecidableEq

namespace RunServer

def executing (server : RunServer) : Nat := server.requests.countP (·.executes)

def executingOf (server : RunServer) (tokenId : String) : Nat :=
  server.requests.countP fun request => request.executes && request.tokenId = tokenId

inductive Event where
  | request (tokenId : String)
  | streamRun (tokenId : String)
  | go (id : Nat)
  | drop (id : Nat)

/-- A request goes on behind a place where it has waited. The runs of streams do without slots. -/
def goOn (server : RunServer) (id : Nat) (request : RunRequest) : RunServer :=
  let goTo := fun phase => server.requests.set id { request with phase }
  match request.phase with
  | .arrived =>
      match server.runLimiter.acquire with
      | some runLimiter => { runLimiter, requests := goTo .executing }
      | none => { server with requests := goTo (.rejected (server.executingOf request.tokenId)) }
  | .executing =>
      { server with requests := goTo (if request.stream then .finished else .releasing) }
  | .releasing =>
      { runLimiter := server.runLimiter.release
        requests   := goTo .finished }
  | .finished | .rejected _ | .dropped => server

/-- A request may be dropped wherever it waits. The runs of streams are tasks of their own. -/
def dropAt (server : RunServer) (id : Nat) (request : RunRequest) : RunServer :=
  if request.stream then server
  else
    match request.phase with
    | .arrived | .executing | .releasing =>
        { server with requests := server.requests.set id { request with phase := .dropped } }
    | .finished | .rejected _ | .dropped => server

def step (server : RunServer) : Event → RunServer
  | .request tokenId =>
      { server with
        requests := server.requests ++ [{ tokenId, stream := false, phase := .arrived }] }
  | .streamRun tokenId =>
      { server with
        requests := server.requests ++ [{ tokenId, stream := true, phase := .executing }] }
  | .go id => server.requests[id]?.elim server (server.goOn id)
  | .drop id => server.requests[id]?.elim server (server.dropAt id)

def run (server : RunServer) (events : List Event) : RunServer := Runs.run step server events

/-! ### The count -/

/-- The count is that of the runs and within the limit, and a request is rejected only when its own
token has all the slots. -/
structure Conserved (server : RunServer) : Prop where
  count : server.runLimiter.running = server.executing
  bounded : server.runLimiter.running ≤ maxConcurrentRuns
  own : ∀ request ∈ server.requests, ∀ own, request.phase = .rejected own → maxConcurrentRuns ≤ own

/-- No run comes over a stream, none is dropped once it has its slot, and a request comes to a full
limiter only when its own token has all the slots. -/
def Allowed (server : RunServer) : Event → Prop
  | .request _ => True
  | .streamRun _ => False
  | .go id => ∀ request ∈ server.requests[id]?, request.phase = .arrived →
      maxConcurrentRuns ≤ server.runLimiter.running →
        maxConcurrentRuns ≤ server.executingOf request.tokenId
  | .drop id => ∀ request ∈ server.requests[id]?, request.executes = false

instance decidableAllowed (server : RunServer) : ∀ event, Decidable (server.Allowed event)
  | .request _ => isTrue trivial
  | .streamRun _ => isFalse not_false
  | .go id => inferInstanceAs (Decidable (∀ request ∈ server.requests[id]?,
      request.phase = .arrived → maxConcurrentRuns ≤ server.runLimiter.running →
        maxConcurrentRuns ≤ server.executingOf request.tokenId))
  | .drop id =>
      inferInstanceAs (Decidable (∀ request ∈ server.requests[id]?, request.executes = false))

variable {server : RunServer} {id : Nat} {request : RunRequest}

theorem executing_set (runLimiter : AgentRunLimiter) (held : server.requests[id]? = some request)
    (after : RunRequest) :
    executing { runLimiter, requests := server.requests.set id after } + request.executes.toNat =
      server.executing + after.executes.toNat := by
  obtain ⟨bound, here⟩ := List.getElem?_eq_some_iff.mp held
  have counted : request.executes.toNat ≤ server.executing := by
    have positive : request.executes = true → 0 < server.executing := fun executes =>
      countP_pos_iff.mpr ⟨request, mem_of_getElem? held, executes⟩
    cases executes : request.executes with
    | false => exact Nat.zero_le _
    | true => exact positive executes
  rw [executing, countP_set bound, here]
  change server.executing - _ + _ + _ = _
  cases executes : request.executes <;> cases ran : after.executes <;> simp_all

theorem executing_append (server : RunServer) (after : RunRequest) :
    executing { server with requests := server.requests ++ [after] } =
      server.executing + after.executes.toNat := by
  rw [executing, countP_append, countP_singleton]
  cases after.executes <;> rfl

/-- The count is right and no run has come over a stream. -/
structure Orderly (server : RunServer) : Prop where
  conserved : server.Conserved
  plain : ∀ request ∈ server.requests, request.stream = false

theorem Orderly.move {next : AgentRunLimiter} {phase : RunPhase} (orderly : server.Orderly)
    (held : server.requests[id]? = some request)
    (moved : next.running + request.executes.toNat =
      server.runLimiter.running + (RunRequest.executes { request with phase }).toNat)
    (bounded : next.running ≤ maxConcurrentRuns)
    (rejected : ∀ own, phase = .rejected own → maxConcurrentRuns ≤ own) :
    Orderly { runLimiter := next, requests := server.requests.set id { request with phase } } := by
  have counted := executing_set next held { request with phase }
  have count := orderly.conserved.count
  refine ⟨⟨?_, bounded, fun other mem own isRejected => ?_⟩, fun other mem => ?_⟩
  · change next.running = _
    omega
  · rcases mem_or_eq_of_mem_set mem with old | rfl
    · exact orderly.conserved.own other old own isRejected
    · exact rejected own isRejected
  · rcases mem_or_eq_of_mem_set mem with old | rfl
    · exact orderly.plain other old
    · exact orderly.plain request (mem_of_getElem? held)

theorem orderly_step (event : Event) (orderly : server.Orderly)
    (allowed : server.Allowed event) : (server.step event).Orderly := by
  cases event with
  | request tokenId =>
    refine ⟨⟨?_, orderly.conserved.bounded, fun request mem own phase => ?_⟩, fun request mem => ?_⟩
    · exact orderly.conserved.count.trans
        (executing_append server ⟨tokenId, false, .arrived⟩).symm
    · rcases mem_append.mp mem with old | new
      · exact orderly.conserved.own request old own phase
      · rw [mem_singleton.mp new] at phase
        exact nomatch phase
    · rcases mem_append.mp mem with old | new
      · exact orderly.plain request old
      · rw [mem_singleton.mp new]
  | streamRun tokenId => exact absurd allowed not_false
  | go id =>
    rw [step]
    cases held : server.requests[id]? with
    | none => exact orderly
    | some request =>
      have plain := orderly.plain request (mem_of_getElem? held)
      have bounded := orderly.conserved.bounded
      obtain ⟨tokenId, stream, phase⟩ := request
      obtain rfl : stream = false := plain
      simp only [Option.elim_some]
      cases phase with
      | arrived =>
        simp only [goOn]
        split
        next next taken =>
          obtain ⟨room, counted⟩ := AgentRunLimiter.acquire_eq_some taken
          exact orderly.move held counted (counted ▸ room) nofun
        next full =>
          refine orderly.move held rfl bounded fun own same => ?_
          exact RunPhase.rejected.inj same ▸
            allowed _ held rfl (AgentRunLimiter.acquire_eq_none full)
      | executing => exact orderly.move held rfl bounded nofun
      | releasing =>
        -- The slot of the request itself is counted, so that one can be given back.
        have positive : 0 < server.executing := countP_pos_iff.mpr
          ⟨_, mem_of_getElem? held, rfl⟩
        have count := orderly.conserved.count
        have released := AgentRunLimiter.running_release server.runLimiter
        refine orderly.move held ?_ (by omega) nofun
        change server.runLimiter.release.running + 1 = server.runLimiter.running
        omega
      | finished | rejected own | dropped => exact orderly
  | drop id =>
    rw [step]
    cases held : server.requests[id]? with
    | none => exact orderly
    | some request =>
      have idle := allowed request held
      obtain ⟨tokenId, stream, phase⟩ := request
      simp only [Option.elim_some, dropAt]
      split
      · exact orderly
      · cases phase with
        | arrived => exact orderly.move held rfl orderly.conserved.bounded nofun
        | executing | releasing => exact nomatch idle
        | finished | rejected own | dropped => exact orderly

/-- In every such run the count is right in every state. -/
theorem run_conserved (events : List Event)
    (careful : Runs.Careful step Allowed {} events) : (run {} events).Conserved := by
  have start : Orderly {} := ⟨⟨rfl, Nat.zero_le _, nofun⟩, nofun⟩
  exact (careful.kept Orderly
    (fun server event orderly allowed => orderly_step event orderly allowed) start).conserved

/-! ### Slots that are lost or taken by others -/

def comeAndGo : List Event :=
  [.request "a", .go 0, .request "b", .go 1, .go 0, .go 0, .go 1, .go 1]

theorem run_conserved_comeAndGo :
    Runs.Careful step Allowed {} comeAndGo ∧ (run {} comeAndGo).Conserved :=
  ⟨by decide +kernel, run_conserved comeAndGo (by decide +kernel)⟩

/-- Ten requests of a token take their slots and are dropped. -/
def takeAndDrop : List Event :=
  (List.range 10).flatMap fun id => [.request "a", .go id, .drop id]

/-- Slots of requests that are dropped stay taken, so that another token is rejected while nothing
is executed; and a command on a stream has none. -/
theorem slots_lost : ¬ (run {} [.request "a", .go 0, .drop 0]).Conserved ∧
    ¬ (run {} (takeAndDrop ++ [.request "b", .go 10])).Conserved ∧
    ¬ (run {} [.streamRun "a"]).Conserved := by
  refine ⟨fun conserved => ?_, fun conserved => ?_, fun conserved => ?_⟩
  · exact absurd conserved.count (by decide +kernel)
  · exact absurd (conserved.own ⟨"b", false, .rejected 0⟩ (by decide +kernel) 0 rfl) (by decide)
  · exact absurd conserved.count (by decide +kernel)

end RunServer

end Dinotty.Agent
