/-
This file is runs of requests with the lockout at work. It proves when the lockout bounds the
attempts: every wrong token is recorded, and nothing is looked at while the tally of recorded
failures says that it must not be.
-/

import Dinotty.Auth.Exemptions
import Dinotty.Auth.Tokens
import Dinotty.Foundation.Fallible
import Dinotty.Proxy.Relay

namespace Dinotty.Auth

open List Option KeyMap Lockouts

/-! ### Inspections -/

/-- What a request shows of its credentials: tokens, and whether also a session or a code. -/
structure Shown where
  tokens : List (List Char) := []
  other : Bool := false
  deriving DecidableEq

/-- What has been looked at of a request: the comparisons of its tokens with the master token,
whether a session or a code was looked up, and whether a failure was recorded. -/
structure Inspection where
  compared : List Bool := []
  other : Bool := false
  recorded : Bool := false
  deriving DecidableEq

/-- Look at what is shown and record nothing. -/
def Shown.inspect (shown : Shown) (token : List Char) : Inspection where
  compared := shown.tokens.map fun presented => constantTimeEq presented token
  other := shown.other

namespace Inspection

def looks (inspection : Inspection) : Bool := !inspection.compared.isEmpty || inspection.other

def andThen (first second : Inspection) : Inspection where
  compared := first.compared ++ second.compared
  other := first.other || second.other
  recorded := first.recorded || second.recorded

theorem looks_andThen (first second : Inspection) :
    (first.andThen second).looks = (first.looks || second.looks) := by
  rcases first with ⟨compared, other, recorded⟩
  cases compared with
  | nil => exact Bool.or_left_comm _ _ _
  | cons res results => rfl

end Inspection

namespace Shown

theorem looks_inspect {shown : Shown} {token : List Char}
    (looks : (shown.inspect token).looks = true) : shown ≠ {} := by
  rintro rfl
  cases looks

theorem right_inspect {shown : Shown} {token : List Char}
    (right : ∀ presented ∈ shown.tokens, presented = token) :
    false ∉ (shown.inspect token).compared := by
  intro wrong
  obtain ⟨presented, isShown, differs⟩ := List.mem_map.mp wrong
  rw [(constantTimeEq_iff presented token).mpr (right presented isShown)] at differs
  cases differs

end Shown

/-- What is shown to the check of a valid session or else the token. -/
def validAuthShown (sessionValid : List Char → Bool) (port : Nat) (headers : HeaderMap) :
    Shown where
  tokens :=
    if (extractSessionCookie headers port).any sessionValid then []
    else (bearerToken headers).toList
  other := (extractSessionCookie headers port).isSome

/-- What is shown to the middleware that finds out whose token a request carries. -/
def sessionsTokenShown (port : Nat) (request : Request) (token : List Char) : Shown :=
  match presentedToken request.headers request.query with
  | none =>
      if isWsUpgrade request.headers then {}
      else { other := (extractSessionCookie request.headers port).isSome }
  | some raw => { tokens := if token = [] then [] else [raw], other := true }

def clipboardShown (port : Nat) (headers : HeaderMap) : Shown where
  tokens := (bearerToken headers).toList
  other := (extractSessionCookie headers port).isSome

/-! ### Logins -/

inductive LoginBody where
  | token (token : List Char)
  | code (requestId code : List Char)

inductive LoginReply where
  | session
  | refused (status : Nat) (error : String) (retryAfter : Option Nat := none)
  deriving DecidableEq

/-- Compare a posted token with the stored one. -/
def handleTokenLogin (lockouts : Lockouts) (now : Nat) (realIp : IpAddr) (token stored : List Char)
    (globalLockoutSecs : Nat) : Lockouts × LoginReply × Inspection :=
  if !constantTimeEq (Chars.trim token) stored then
    (lockouts.recordAuthFailure now realIp globalLockoutSecs, .refused 401 "unauthorized",
      { compared := [false], recorded := true })
  else (lockouts, .session, { compared := [true] })

namespace LoginBody

def shown (settings : AuthSettings) (stored : List Char) : LoginBody → Shown
  | .token posted =>
      if stored ≠ [] ∧ Chars.trim posted ≠ [] ∧ settings.loginMethod = "token" then
        { tokens := [Chars.trim posted] }
      else {}
  | .code requestId digits =>
      if stored ≠ [] ∧ Chars.trim requestId ≠ [] ∧ Chars.trim digits ≠ [] ∧
          settings.loginMethod = "verification_code" then { other := true }
      else {}

/-- A body that the settings ask for, with the right token or with a code. -/
def Right (settings : AuthSettings) (stored : List Char) : LoginBody → Prop
  | .token posted => settings.loginMethod = "token" ∧ Chars.trim posted = stored
  | .code _ _ => settings.loginMethod = "verification_code"

/-- A body that a login records as a failure: a wrong token, or the wrong kind of body. -/
def Fails (settings : AuthSettings) (stored : List Char) : LoginBody → Prop
  | .token posted =>
      stored ≠ [] ∧ Chars.trim posted ≠ [] ∧
        (settings.loginMethod = "token" → Chars.trim posted ≠ stored)
  | .code requestId digits =>
      stored ≠ [] ∧ Chars.trim requestId ≠ [] ∧ Chars.trim digits ≠ [] ∧
        settings.loginMethod ≠ "verification_code"

end LoginBody

/-- Log in, with a token or with a code as the settings say. The check of a code is a parameter. -/
def login (settings : AuthSettings)
    (verify : List Char → List Char → Except (Nat × String) Unit) (stored : List Char)
    (lockouts : Lockouts) (now : Nat) (clientIp : IpAddr) (headers : HeaderMap)
    (body : LoginBody) : Lockouts × LoginReply × Inspection :=
  if stored = [] then (lockouts, .refused 400 "no token configured", {})
  else
    let realIp := realClientIp headers clientIp settings.trustedProxies
    match lockouts.checkLockout now realIp settings with
    | (lockouts, some retryAfter) =>
        (lockouts, .refused 429 "too many failed attempts, please try again later" retryAfter, {})
    | (lockouts, none) =>
        match body with
        | .token token =>
            if Chars.trim token = [] then (lockouts, .refused 400 "token cannot be empty", {})
            else if settings.loginMethod = "token" then
              handleTokenLogin lockouts now realIp token stored settings.globalLockoutSecs
            else
              (lockouts.recordAuthFailure now realIp settings.globalLockoutSecs,
                .refused 401 "login method mismatch", { recorded := true })
        | .code requestId code =>
            if Chars.trim requestId = [] ∨ Chars.trim code = [] then
              (lockouts, .refused 400 "request_id and code are required", {})
            else if settings.loginMethod = "verification_code" then
              match verify requestId code with
              | .ok () => (lockouts, .session, { other := true })
              | .error (status, error) => (lockouts, .refused status error, { other := true })
            else
              (lockouts.recordAuthFailure now realIp settings.globalLockoutSecs,
                .refused 401 "login method mismatch", { recorded := true })

/-! ### Runs -/

/-- An attempt: the address that it counts for, its time and what has been looked at. -/
structure Attempt where
  ip : IpAddr
  now : Nat
  inspection : Inspection

structure Site where
  settings : AuthSettings
  port : Nat
  allowExternal : Bool
  routes : List Route
  router : Router routes

/-- The state of a run. The last attempt comes first. -/
structure Defense where
  lockouts : Lockouts := {}
  now : Nat
  token : List Char
  log : List Attempt := []

/-- A request, with the body that a login would read, the valid sessions and the right codes; the
passing of time; and a change of the token. -/
inductive DefenseAction where
  | request (clientIp : IpAddr) (request : Request) (body : LoginBody)
      (sessionValid : List Char → Bool)
      (verify : List Char → List Char → Except (Nat × String) Unit)
  | wait (milliseconds : Nat)
  | setToken (token : List Char)

namespace Site

variable (site : Site) (state : Defense) (clientIp : IpAddr) (request : Request)
  (sessionValid : List Char → Bool)

def realIp : IpAddr := realClientIp request.headers clientIp site.settings.trustedProxies

/-- Whether the lockout refuses an address now. -/
def locked (ip : IpAddr) : Bool :=
  (state.lockouts.checkLockout state.now ip site.settings).2.isSome

def outerShown : Shown :=
  if (earlyVerdict site.settings state.token clientIp request).isSome ||
      site.locked state (site.realIp clientIp request) || isAgentManagedPath request.path then {}
  else validAuthShown sessionValid site.port request.headers

def gateShown (route : Route) (handler : Handler) : Shown :=
  if route.sessionsToken then sessionsTokenShown site.port request state.token
  else
    match handler with
    | .proxyProxyHandlerRoot | .proxyProxyHandlerWildcard =>
        if isLoopback (site.realIp clientIp request) || !site.allowExternal then {}
        else validAuthShown sessionValid site.port request.headers
    | .proxyRelayDispatchHandler =>
        if isLoopback (site.realIp clientIp request) ||
            (Proxy.parseRelayPath request.path).isNone then {}
        else validAuthShown sessionValid site.port request.headers
    | .clipboardGetClipboard =>
        if state.token = [] then {} else clipboardShown site.port request.headers
    | _ => {}

def isLogin (handler : Handler) : Bool := handler = .login || handler = .desktopCheckAuth

/-- The route and the handler that a request reaches, if it is forwarded. -/
def reached : Option (Route × Handler) :=
  match (authMiddleware site.settings sessionValid site.port state.token state.lockouts state.now
    clientIp request).2 with
  | .forwarded _ => site.router.dispatch request.method request.path
  | .rejected _ _ _ => none

/-- Answer a request that has been let through or rejected. -/
def handle (lockouts : Lockouts) (body : LoginBody)
    (verify : List Char → List Char → Except (Nat × String) Unit) : Lockouts × Inspection :=
  match site.reached state clientIp request sessionValid with
  | none => (lockouts, {})
  | some (route, handler) =>
      if isLogin handler then
        let (lockouts, _, inspection) :=
          login site.settings verify state.token lockouts state.now clientIp request.headers body
        (lockouts, inspection)
      else
        (lockouts,
          (site.gateShown state clientIp request sessionValid route handler).inspect state.token)

def serve (body : LoginBody) (verify : List Char → List Char → Except (Nat × String) Unit) :
    Lockouts × Inspection :=
  let (lockouts, _) := authMiddleware site.settings sessionValid site.port state.token
    state.lockouts state.now clientIp request
  let (lockouts, inspection) := site.handle state clientIp request sessionValid lockouts body verify
  (lockouts,
    ((site.outerShown state clientIp request sessionValid).inspect state.token).andThen inspection)

def step : DefenseAction → Option Defense
  | .request clientIp request body sessionValid verify =>
      let (lockouts, inspection) := site.serve state clientIp request sessionValid body verify
      some { state with
        lockouts
        log := { ip := site.realIp clientIp request, now := state.now, inspection } :: state.log }
  | .wait milliseconds => some { state with now := state.now + milliseconds }
  | .setToken token => some { state with token }

end Site

/-! ### The bound -/

namespace AuthSettings

variable (settings : AuthSettings)

def isGlobal : Bool := settings.lockoutStrategy = "global"

/-- The failures that lead to a lockout, of an address or of everybody. -/
def maxFailures : Nat :=
  if settings.isGlobal then settings.globalLockoutMaxFailures else settings.lockoutMaxFailures

/-- The seconds of a lockout. -/
def period : Nat := if settings.isGlobal then settings.globalLockoutSecs else settings.lockoutSecs

end AuthSettings

/-- The failures counted up to now: how many, the second of the first and the time of the last. -/
structure Tally where
  count : Nat := 0
  opened : Nat := 0
  since : Nat := 0

/-- Count another failure. The count starts again after a lockout, and for everybody when the period
since the first failure is over. -/
def Tally.fail (settings : AuthSettings) (tally : Tally) (now : Nat) : Tally :=
  if tally.count = 0 ∨ settings.maxFailures ≤ tally.count ∨
      (settings.isGlobal ∧ tally.opened + settings.period ≤ seconds now) then
    { count := 1, opened := seconds now, since := now }
  else { tally with count := tally.count + 1, since := now }

/-- Whether attempts have to be refused: so many failures, and not yet a period since the last. -/
def Tally.locks (settings : AuthSettings) (tally : Tally) (now : Nat) : Bool :=
  settings.maxFailures ≤ tally.count && now < tally.since + 1000 * settings.period

/-- The tally of the recorded failures of an address, or of all. -/
def tally (settings : AuthSettings) (ip : IpAddr) : List Attempt → Tally
  | [] => {}
  | attempt :: earlier =>
      if attempt.inspection.recorded ∧ (settings.isGlobal ∨ attempt.ip = ip) then
        (tally settings ip earlier).fail settings attempt.now
      else tally settings ip earlier

/-- A full tally has the period since its first failure still before it, or its lockout behind
it. -/
def Tally.InTime (settings : AuthSettings) (tally : Tally) (now : Nat) : Prop :=
  settings.maxFailures ≤ tally.count → tally.opened + settings.period ≤ seconds now →
    tally.since + 1000 * settings.period ≤ now

/-- It is not the second in which the period since the first failure is over, and the clock shows
more than a period. -/
def Tally.OffEdge (settings : AuthSettings) (tally : Tally) (now : Nat) : Prop :=
  seconds now ≠ tally.opened + settings.period ∧ (tally.count = 0 → settings.period < seconds now)

/-- Every wrong token is recorded, and nothing is looked at while the tally locks. -/
def Bounded (settings : AuthSettings) : List Attempt → Prop
  | [] => True
  | attempt :: earlier =>
      (false ∈ attempt.inspection.compared → attempt.inspection.recorded = true) ∧
        (attempt.inspection.looks = true →
          (tally settings attempt.ip earlier).locks settings attempt.now = false) ∧
        Bounded settings earlier

instance (settings : AuthSettings) : ∀ log, Decidable (Bounded settings log)
  | [] => isTrue trivial
  | _ :: earlier =>
      have := instDecidableBounded settings earlier
      inferInstanceAs (Decidable (_ ∧ _ ∧ _))

/-! ### The condition -/

namespace Site

variable (site : Site) (state : Defense) (clientIp : IpAddr) (request : Request)
  (sessionValid : List Char → Bool) (body : LoginBody)

/-- What a request shows to the handler that it reaches, or to its gate. -/
def handlerShown (route : Route) (handler : Handler) : Shown :=
  if isLogin handler then body.shown site.settings state.token
  else site.gateShown state clientIp request sessionValid route handler

/-- Whether a request shows a credential to anybody. -/
def Shows : Prop :=
  site.outerShown state clientIp request sessionValid ≠ {} ∨
    ∃ found ∈ site.reached state clientIp request sessionValid,
      site.handlerShown state clientIp request sessionValid body found.1 found.2 ≠ {}

/-- Whether a request is a login whose body counts as a failure. -/
def FailsLogin : Prop :=
  ∃ found ∈ site.reached state clientIp request sessionValid,
    isLogin found.2 = true ∧ body.Fails site.settings state.token

/-- Tokens shown outside of a login are right, and a gate of a handler is shown nothing by an
address that the lockout refuses. -/
def ShowsRight : Prop :=
  (∀ presented ∈ (site.outerShown state clientIp request sessionValid).tokens,
      presented = state.token) ∧
    ∀ found ∈ site.reached state clientIp request sessionValid, isLogin found.2 = false →
      (∀ presented ∈ (site.gateShown state clientIp request sessionValid found.1 found.2).tokens,
        presented = state.token) ∧
        (site.locked state (site.realIp clientIp request) = true →
          site.gateShown state clientIp request sessionValid found.1 found.2 = {})

/-- Where failures of everybody are counted together, a credential comes before the period since the
first failure is over or after the lockout is, and a failure not in the second in which the period
is over nor, if it is the first, before the clock shows more than a period. -/
def InWindow (ip : IpAddr) : Prop :=
  site.settings.isGlobal = true → (site.Shows state clientIp request sessionValid body →
      (tally site.settings ip state.log).InTime site.settings state.now) ∧
    (site.FailsLogin state clientIp request sessionValid body →
      (tally site.settings ip state.log).OffEdge site.settings state.now)

/-- Every request shows gates what is right, and comes in its window. -/
def Careful (site : Site) (state : Defense) : DefenseAction → Prop
  | .request clientIp request body sessionValid _ =>
      site.ShowsRight state clientIp request sessionValid ∧
        site.InWindow state clientIp request sessionValid body (site.realIp clientIp request)
  | _ => True

instance (stored : List Char) : Decidable (body.Fails site.settings stored) :=
  match body with
  | .token _ => inferInstanceAs (Decidable (_ ∧ _))
  | .code _ _ => inferInstanceAs (Decidable (_ ∧ _))

instance : Decidable (site.Shows state clientIp request sessionValid body) :=
  inferInstanceAs (Decidable (_ ∨ _))

instance : Decidable (site.FailsLogin state clientIp request sessionValid body) :=
  inferInstanceAs (Decidable (∃ found ∈ _, _))

instance (tally : Tally) : Decidable (tally.InTime site.settings state.now) :=
  inferInstanceAs (Decidable (_ → _ → _))

instance (tally : Tally) : Decidable (tally.OffEdge site.settings state.now) :=
  inferInstanceAs (Decidable (_ ∧ _))

instance : Decidable (site.ShowsRight state clientIp request sessionValid) :=
  inferInstanceAs (Decidable (_ ∧ ∀ found ∈ _, _))

instance (ip : IpAddr) : Decidable (site.InWindow state clientIp request sessionValid body ip) :=
  inferInstanceAs (Decidable (_ → _))

instance (action : DefenseAction) : Decidable (site.Careful state action) :=
  match action with
  | .request _ _ _ _ _ => inferInstanceAs (Decidable (_ ∧ _))
  | .wait _ => isTrue trivial
  | .setToken _ => isTrue trivial

end Site

/-! ### The counters and the tally -/

/-- The counters stand for the tallies. -/
structure Tracks (settings : AuthSettings) (lockouts : Lockouts) (log : List Attempt) (now : Nat) :
    Prop where
  address : settings.isGlobal = false → ∀ ip, (∃ record, lockouts.failMap.lookup ip = some record ∧
      record.count = (tally settings ip log).count ∧
      record.lastFail = (tally settings ip log).since ∧
      (tally settings ip log).count ≤ settings.maxFailures) ∨
    (lockouts.failMap.lookup ip = none ∧ ((tally settings ip log).count = 0 ∨
        (settings.maxFailures ≤ (tally settings ip log).count ∧
          (tally settings ip log).since + 1000 * settings.period ≤ now)))
  everybody : settings.isGlobal = true → ∀ ip,
    lockouts.globalFailCount = (tally settings ip log).count ∧
      lockouts.globalFailWindowStart = (tally settings ip log).opened ∧
      (tally settings ip log).count ≤ settings.maxFailures ∧
      (lockouts.globalFailCount = 0 → lockouts.globalFailWindowStart = 0)

/-- A check has just let an address through. -/
structure Admitted (settings : AuthSettings) (lockouts : Lockouts) (log : List Attempt) (now : Nat)
    (ip : IpAddr) : Prop where
  address : settings.isGlobal = false →
    (∀ record, lockouts.failMap.lookup ip = some record → record.count < settings.maxFailures) ∧
      (tally settings ip log).locks settings now = false
  everybody : settings.isGlobal = true → lockouts.globalFailCount < settings.maxFailures ∨
      lockouts.globalFailWindowStart + settings.period ≤ seconds now

/-- A strategy that counts failures, up to a number of 32 bits and for some period. -/
structure Counting (settings : AuthSettings) : Prop where
  strategy : settings.lockoutStrategy = "ip" ∨ settings.lockoutStrategy = "global"
  positive : 1 ≤ settings.maxFailures
  bounded : settings.maxFailures < 2 ^ 32
  lasting : 1 ≤ settings.period

section

variable {settings : AuthSettings} {lockouts : Lockouts} {log : List Attempt} {now : Nat}

theorem seconds_lt_iff (elapsed period : Nat) :
    seconds elapsed < period ↔ elapsed < 1000 * period := by
  rw [seconds, Nat.div_lt_iff_lt_mul (by decide), Nat.mul_comm]

theorem checkLockout_ip (isIp : settings.lockoutStrategy = "ip") (ip : IpAddr) :
    lockouts.checkLockout now ip settings = match lockouts.failMap.lookup ip with
      | none => (lockouts, none)
      | some record =>
          if settings.lockoutMaxFailures ≤ record.count then
            if seconds (now - record.lastFail) < settings.lockoutSecs then
              (lockouts, some (settings.lockoutSecs - seconds (now - record.lastFail)))
            else ({ lockouts with failMap := lockouts.failMap.erase ip }, none)
          else (lockouts, none) := by
  unfold checkLockout
  rw [isIp]
  rfl

theorem checkLockout_global (isGlobal : settings.lockoutStrategy = "global") (ip : IpAddr) :
    lockouts.checkLockout now ip settings =
      if settings.globalLockoutMaxFailures ≤ lockouts.globalFailCount ∧
          seconds now - lockouts.globalFailWindowStart < settings.globalLockoutSecs then
        (lockouts,
          some (settings.globalLockoutSecs - (seconds now - lockouts.globalFailWindowStart)))
      else (lockouts, none) := by
  unfold checkLockout
  rw [isGlobal]
  rfl

theorem not_global_of_ip (isIp : settings.lockoutStrategy = "ip") :
    settings.isGlobal = false ∧ settings.maxFailures = settings.lockoutMaxFailures ∧
      settings.period = settings.lockoutSecs := by
  have notGlobal : settings.isGlobal = false := by
    rw [AuthSettings.isGlobal, isIp]
    rfl
  simp [AuthSettings.maxFailures, AuthSettings.period, notGlobal]

theorem global_of_global (isGlobal : settings.lockoutStrategy = "global") :
    settings.isGlobal = true ∧ settings.maxFailures = settings.globalLockoutMaxFailures ∧
      settings.period = settings.globalLockoutSecs := by
  have global : settings.isGlobal = true := decide_eq_true isGlobal
  simp [AuthSettings.maxFailures, AuthSettings.period, global]

/-- A check of an address keeps the counters in step, and lets it through only if its tally
allows. -/
def Checked (settings : AuthSettings) (log : List Attempt) (now : Nat) (ip : IpAddr)
    (result : Lockouts × Option Nat) : Prop :=
  Tracks settings result.1 log now ∧ (result.2 = none → Admitted settings result.1 log now ip)

theorem checkLockout_ip_tracks (counting : Counting settings)
    (isIp : settings.lockoutStrategy = "ip") (tracks : Tracks settings lockouts log now)
    (ip : IpAddr) : Checked settings log now ip (lockouts.checkLockout now ip settings) := by
  obtain ⟨notGlobal, isMax, isPeriod⟩ := not_global_of_ip isIp
  have vacuous : ∀ {property : Prop}, settings.isGlobal = true → property := by
    intro property isGlobal
    rw [notGlobal] at isGlobal
    cases isGlobal
  have free_of_few : (tally settings ip log).count < settings.maxFailures →
      (tally settings ip log).locks settings now = false := fun few =>
    (Bool.and_eq_false_iff).mpr (.inl (decide_eq_false (Nat.not_le.mpr few)))
  have free_of_over : (tally settings ip log).since + 1000 * settings.period ≤ now →
      (tally settings ip log).locks settings now = false := fun ended =>
    (Bool.and_eq_false_iff).mpr (.inr (decide_eq_false (Nat.not_lt.mpr ended)))
  rw [checkLockout_ip isIp]
  rcases tracks.address notGlobal ip with ⟨record, stored, count, lastFail, few⟩ | ⟨absent, quiet⟩
  · simp only [stored]
    by_cases full : settings.lockoutMaxFailures ≤ record.count
    · rw [if_pos full]
      by_cases recent : seconds (now - record.lastFail) < settings.lockoutSecs
      · rw [if_pos recent]
        exact ⟨tracks, nofun⟩
      · -- The lockout is over and its record is forgotten.
        rw [if_neg recent]
        have ended : (tally settings ip log).since + 1000 * settings.period ≤ now := by
          have lasting := counting.lasting
          rw [seconds_lt_iff] at recent
          rw [isPeriod] at lasting
          rw [← lastFail, isPeriod]
          omega
        refine ⟨⟨fun _ other => ?_, vacuous⟩, fun _ => ⟨fun _ => ⟨fun other isOther => ?_,
          free_of_over ended⟩, vacuous⟩⟩
        · by_cases same : other = ip
          · subst same
            refine .inr ⟨by rw [lookup_erase, if_pos rfl], .inr ⟨?_, ended⟩⟩
            rw [← count, isMax]
            exact full
          · rw [lookup_erase, if_neg same]
            exact tracks.address notGlobal other
        · rw [lookup_erase, if_pos rfl] at isOther
          cases isOther
    · rw [if_neg full]
      have fewer : record.count < settings.maxFailures := isMax ▸ Nat.not_le.mp full
      refine ⟨tracks, fun _ => ⟨fun _ => ⟨fun other isOther => ?_, free_of_few (count ▸ fewer)⟩,
        vacuous⟩⟩
      cases stored.symm.trans isOther
      exact fewer
  · simp only [absent]
    refine ⟨tracks, fun _ => ⟨fun _ => ⟨fun other isOther => ?_, ?_⟩, vacuous⟩⟩
    · rw [absent] at isOther
      cases isOther
    · rcases quiet with none | ⟨-, ended⟩
      · exact free_of_few (none ▸ counting.positive)
      · exact free_of_over ended

theorem checkLockout_global_tracks (counting : Counting settings)
    (isGlobal : settings.lockoutStrategy = "global")
    (tracks : Tracks settings lockouts log now) (ip : IpAddr) :
    Checked settings log now ip (lockouts.checkLockout now ip settings) := by
  obtain ⟨global, isMax, isPeriod⟩ := global_of_global isGlobal
  rw [checkLockout_global isGlobal]
  split_ifs with refused
  · exact ⟨tracks, nofun⟩
  · refine ⟨tracks, fun _ => ⟨fun notGlobal => ?_, fun _ => ?_⟩⟩
    · rw [global] at notGlobal
      cases notGlobal
    · have lasting := counting.lasting
      rw [isMax, isPeriod] at *
      change lockouts.globalFailCount < settings.globalLockoutMaxFailures ∨
        lockouts.globalFailWindowStart + settings.globalLockoutSecs ≤ seconds now
      omega

theorem checkLockout_tracks (counting : Counting settings)
    (tracks : Tracks settings lockouts log now) (ip : IpAddr) :
    Checked settings log now ip (lockouts.checkLockout now ip settings) := by
  rcases counting.strategy with isIp | isGlobal
  · exact checkLockout_ip_tracks counting isIp tracks ip
  · exact checkLockout_global_tracks counting isGlobal tracks ip

variable {attempt : Attempt} {ip : IpAddr}

theorem tally_recorded (recorded : attempt.inspection.recorded = true)
    (counts : settings.isGlobal = true ∨ attempt.ip = ip) :
    tally settings ip (attempt :: log) = (tally settings ip log).fail settings attempt.now :=
  if_pos ⟨recorded, counts⟩

theorem tally_global (isGlobal : settings.isGlobal = true) (ip ip' : IpAddr)
    (log : List Attempt) : tally settings ip log = tally settings ip' log := by
  induction log with
  | nil => rfl
  | cons attempt earlier ih =>
    simp [tally, isGlobal, ih]

theorem tally_skip (skips : ¬(attempt.inspection.recorded = true ∧
      (settings.isGlobal = true ∨ attempt.ip = ip))) :
    tally settings ip (attempt :: log) = tally settings ip log :=
  if_neg skips

/-- The counters after a failure stand for the tallies after it. -/
theorem recordAuthFailure_tracks (counting : Counting settings)
    (tracks : Tracks settings lockouts log now) (isNow : attempt.now = now)
    (recorded : attempt.inspection.recorded = true)
    (admitted : Admitted settings lockouts log now attempt.ip)
    (offEdge : settings.isGlobal = true → (tally settings attempt.ip log).OffEdge settings now) :
    Tracks settings (lockouts.recordAuthFailure now attempt.ip settings.globalLockoutSecs)
      (attempt :: log) now := by
  have positive := counting.positive
  have bounded := counting.bounded
  refine ⟨fun notGlobal ip => ?_, fun isGlobal ip => ?_⟩
  · have failMap : (lockouts.recordAuthFailure now attempt.ip settings.globalLockoutSecs).failMap =
        lockouts.failMap.insert attempt.ip {
          count := (((lockouts.failMap.lookup attempt.ip).map FailRecord.count).getD 0 + 1) % 2 ^ 32
          lastFail := now } := by
      unfold recordAuthFailure
      simp only
      split_ifs <;> rfl
    rw [failMap, lookup_insert]
    by_cases same : ip = attempt.ip
    · subst same
      rw [if_pos rfl, tally_recorded recorded (.inr rfl), Tally.fail, notGlobal, isNow]
      refine .inl ⟨_, rfl, ?_⟩
      have few := (admitted.address notGlobal).1
      rcases tracks.address notGlobal attempt.ip with
        ⟨record, stored, count, lastFail, -⟩ | ⟨absent, quiet⟩
      · have fewer := few record stored
        rw [count] at fewer
        have noWrap : ((tally settings attempt.ip log).count + 1) % 2 ^ 32 =
            (tally settings attempt.ip log).count + 1 := Nat.mod_eq_of_lt (by omega)
        rw [stored]
        simp only [map_some, getD_some, count, noWrap]
        by_cases none : (tally settings attempt.ip log).count = 0
        · rw [if_pos (.inl none), none]
          exact ⟨rfl, rfl, positive⟩
        · rw [if_neg (by simp [none, fewer])]
          exact ⟨rfl, rfl, fewer⟩
      · have restarts : (tally settings attempt.ip log).count = 0 ∨
            settings.maxFailures ≤ (tally settings attempt.ip log).count ∨
            (false = true ∧ (tally settings attempt.ip log).opened + settings.period ≤
              seconds now) := by
          rcases quiet with none | ⟨full, -⟩
          · exact .inl none
          · exact .inr (.inl full)
        rw [absent, if_pos restarts]
        exact ⟨rfl, rfl, positive⟩
    · rw [if_neg same, tally_skip fun counts => ?_]
      · exact tracks.address notGlobal ip
      · rcases counts.2 with isGlobal | isIp
        · rw [notGlobal] at isGlobal
          cases isGlobal
        · exact same isIp.symm
  · obtain ⟨count, opened, few, fresh⟩ := tracks.everybody isGlobal ip
    have sameIp : tally settings attempt.ip log = tally settings ip log :=
      tally_global isGlobal attempt.ip ip log
    obtain ⟨notLast, first⟩ := sameIp ▸ offEdge isGlobal
    rw [← opened] at notLast
    rw [← count] at first
    have isPeriod : settings.period = settings.globalLockoutSecs := by
      rw [AuthSettings.period, isGlobal]
      rfl
    have room := admitted.everybody isGlobal
    rw [tally_recorded recorded (.inl isGlobal), Tally.fail, isNow]
    unfold recordAuthFailure
    simp only
    rw [← isPeriod, ← count, ← opened]
    by_cases resets : settings.period < seconds now - lockouts.globalFailWindowStart
    · rw [if_pos resets, if_pos (.inr (.inr ⟨isGlobal, by omega⟩))]
      exact ⟨rfl, rfl, positive, nofun⟩
    · -- The window is open: it is not over, nor is this its last second.
      have some : lockouts.globalFailCount ≠ 0 := by
        intro none
        have late := first none
        rw [fresh none] at resets
        exact resets late
      have inside : seconds now < lockouts.globalFailWindowStart + settings.period := by omega
      have fewer : lockouts.globalFailCount < settings.maxFailures := by omega
      rw [if_neg resets, if_neg (by simp [some, fewer, inside])]
      have noWrap : (lockouts.globalFailCount + 1) % 2 ^ 32 = lockouts.globalFailCount + 1 :=
        Nat.mod_eq_of_lt (by omega)
      exact ⟨noWrap, rfl, fewer, fun none => absurd (noWrap.symm.trans none) (Nat.succ_ne_zero _)⟩

theorem Tracks.skip (tracks : Tracks settings lockouts log now)
    (unrecorded : attempt.inspection.recorded = false) :
    Tracks settings lockouts (attempt :: log) now := by
  have same : ∀ ip, tally settings ip (attempt :: log) = tally settings ip log := by
    intro ip
    refine tally_skip fun counts => ?_
    rw [unrecorded] at counts
    cases counts.1
  refine ⟨fun notGlobal ip => ?_, fun isGlobal ip => ?_⟩
  · rw [same ip]
    exact tracks.address notGlobal ip
  · rw [same ip]
    exact tracks.everybody isGlobal ip

theorem Tracks.wait (tracks : Tracks settings lockouts log now) (milliseconds : Nat) :
    Tracks settings lockouts log (now + milliseconds) := by
  refine ⟨fun notGlobal ip => ?_, tracks.everybody⟩
  refine (tracks.address notGlobal ip).imp_right fun ⟨absent, quiet⟩ => ⟨absent, ?_⟩
  exact quiet.imp_right fun ⟨full, ended⟩ => ⟨full, Nat.le_add_right_of_le ended⟩

theorem free_of_unlocked (counting : Counting settings) (tracks : Tracks settings lockouts log now)
    (unlocked : (lockouts.checkLockout now ip settings).2 = none)
    (inTime : settings.isGlobal = true → (tally settings ip log).InTime settings now) :
    (tally settings ip log).locks settings now = false := by
  obtain ⟨after, admitted⟩ := checkLockout_tracks counting tracks ip
  cases isGlobal : settings.isGlobal with
  | false => exact ((admitted unlocked).address isGlobal).2
  | true =>
    obtain ⟨count, opened, -, -⟩ := after.everybody isGlobal ip
    have room := (admitted unlocked).everybody isGlobal
    rw [count, opened] at room
    rw [Tally.locks, Bool.and_eq_false_iff]
    rcases room with few | ended
    · exact .inl (decide_eq_false (Nat.not_le.mpr few))
    · by_cases full : settings.maxFailures ≤ (tally settings ip log).count
      · exact .inr (decide_eq_false (Nat.not_lt.mpr (inTime isGlobal full ended)))
      · exact .inl (decide_eq_false full)

end

/-! ### What an answer does -/

/-- What a section that answers a request has done: recorded what is wrong, looked at nothing that
it must not, and recorded a failure right behind a check or kept the counters in step. -/
structure Sound (settings : AuthSettings) (log : List Attempt) (now : Nat) (ip : IpAddr)
    (after : Lockouts) (inspection : Inspection) : Prop where
  compared : false ∈ inspection.compared → inspection.recorded = true
  free : inspection.looks = true →
    (settings.isGlobal = true → (tally settings ip log).InTime settings now) →
    (tally settings ip log).locks settings now = false
  recorded : inspection.recorded = true → ∃ middle, Tracks settings middle log now ∧
    Admitted settings middle log now ip ∧
    after = middle.recordAuthFailure now ip settings.globalLockoutSecs
  kept : inspection.recorded = false → Tracks settings after log now

section

variable {settings : AuthSettings} {lockouts : Lockouts} {log : List Attempt} {now : Nat}

variable {ip : IpAddr} {after : Lockouts} {inspection : Inspection}

theorem Sound.quiet (counting : Counting settings) {before : Lockouts}
    (tracks : Tracks settings after log now) (right : false ∉ inspection.compared)
    (unrecorded : inspection.recorded = false) (tracksBefore : Tracks settings before log now)
    (unlocked : inspection.looks = true → (before.checkLockout now ip settings).2 = none) :
    Sound settings log now ip after inspection where
  compared wrong := absurd wrong right
  free looks inTime := free_of_unlocked counting tracksBefore (unlocked looks) inTime
  recorded recorded := by rw [unrecorded] at recorded; cases recorded
  kept _ := tracks

theorem Sound.failed (counting : Counting settings) {before middle : Lockouts}
    (tracks : Tracks settings middle log now) (admitted : Admitted settings middle log now ip)
    (recorded : inspection.recorded = true) (tracksBefore : Tracks settings before log now)
    (unlocked : (before.checkLockout now ip settings).2 = none) :
    Sound settings log now ip (middle.recordAuthFailure now ip settings.globalLockoutSecs)
      inspection where
  compared _ := recorded
  free _ inTime := free_of_unlocked counting tracksBefore unlocked inTime
  recorded _ := ⟨middle, tracks, admitted, rfl⟩
  kept unrecorded := by rw [recorded] at unrecorded; cases unrecorded

theorem Sound.andThen {middle : Lockouts} {first second : Inspection}
    (firstSound : Sound settings log now ip middle first) (right : false ∉ first.compared)
    (unrecorded : first.recorded = false) (secondSound : Sound settings log now ip after second) :
    Sound settings log now ip after (first.andThen second) where
  compared wrong := by
    rcases mem_append.mp wrong with inFirst | inSecond
    · exact absurd inFirst right
    · simp [Inspection.andThen, secondSound.compared inSecond]
  free looks := by
    rw [Inspection.looks_andThen, Bool.or_eq_true] at looks
    rcases looks with firstLooks | secondLooks
    · exact firstSound.free firstLooks
    · exact secondSound.free secondLooks
  recorded recorded := secondSound.recorded (by
    simpa [Inspection.andThen, unrecorded] using recorded)
  kept notRecorded := secondSound.kept (by
    simpa [Inspection.andThen, unrecorded] using notRecorded)

theorem login_sound (counting : Counting settings) (tracks : Tracks settings lockouts log now)
    {verify : List Char → List Char → Except (Nat × String) Unit} {stored : List Char}
    {clientIp : IpAddr} {headers : HeaderMap} {body : LoginBody} {reply : LoginReply}
    (answered : login settings verify stored lockouts now clientIp headers body =
      (after, reply, inspection)) :
    Sound settings log now (realClientIp headers clientIp settings.trustedProxies) after
      inspection := by
  unfold login at answered
  split at answered
  · cases answered
    exact .quiet counting tracks not_mem_nil rfl tracks nofun
  simp only at answered
  obtain ⟨checkedTracks, admitted⟩ := checkLockout_tracks counting tracks
    (realClientIp headers clientIp settings.trustedProxies)
  split at answered
  next middle retryAfter checked =>
    rw [checked] at checkedTracks
    cases answered
    exact .quiet counting checkedTracks not_mem_nil rfl tracks nofun
  next middle checked =>
    have unlocked : (lockouts.checkLockout now
        (realClientIp headers clientIp settings.trustedProxies) settings).2 = none := by
      rw [checked]
    rw [checked] at checkedTracks admitted
    have failed : ∀ {inspection : Inspection}, inspection.recorded = true →
        Sound settings log now (realClientIp headers clientIp settings.trustedProxies)
          (middle.recordAuthFailure now (realClientIp headers clientIp settings.trustedProxies)
            settings.globalLockoutSecs) inspection :=
      fun recorded => .failed counting checkedTracks (admitted rfl) recorded tracks unlocked
    split at answered
    · split at answered
      · cases answered
        exact .quiet counting checkedTracks not_mem_nil rfl tracks nofun
      split at answered
      · unfold handleTokenLogin at answered
        split at answered
        · cases answered
          exact failed rfl
        · cases answered
          exact .quiet counting checkedTracks (by simp) rfl tracks fun _ => unlocked
      · cases answered
        exact failed rfl
    · split at answered
      · cases answered
        exact .quiet counting checkedTracks not_mem_nil rfl tracks nofun
      split at answered
      · split at answered
        · cases answered
          exact .quiet counting checkedTracks not_mem_nil rfl tracks fun _ => unlocked
        · cases answered
          exact .quiet counting checkedTracks not_mem_nil rfl tracks fun _ => unlocked
      · cases answered
        exact failed rfl

/-- A login that creates a session has compared the right token, or checked a code, and has not been
refused by the lockout. -/
theorem login_session {verify : List Char → List Char → Except (Nat × String) Unit}
    {stored : List Char} {clientIp : IpAddr} {headers : HeaderMap} {body : LoginBody}
    (answered : login settings verify stored lockouts now clientIp headers body =
      (after, .session, inspection)) :
    stored ≠ [] ∧ (lockouts.checkLockout now
        (realClientIp headers clientIp settings.trustedProxies) settings).2 = none ∧
      body.Right settings stored := by
  unfold login at answered
  split at answered
  · cases answered
  rename_i configured
  simp only at answered
  split at answered
  · cases answered
  rename_i middle checked
  refine ⟨configured, by rw [checked], ?_⟩
  cases body with
  | token posted =>
    simp only at answered
    split at answered
    · cases answered
    split at answered
    next byToken =>
      unfold handleTokenLogin at answered
      split at answered
      · cases answered
      next right =>
        exact ⟨byToken, by simpa using right⟩
    · cases answered
  | code requestId code =>
    simp only at answered
    split at answered
    · cases answered
    split at answered
    · assumption
    · cases answered

/-- What a login has looked at its body has shown, and what it has recorded is a failure. -/
theorem login_shown (settings : AuthSettings)
    (verify : List Char → List Char → Except (Nat × String) Unit) (stored : List Char)
    (lockouts : Lockouts) (now : Nat) (clientIp : IpAddr) (headers : HeaderMap)
    (body : LoginBody) :
    ((login settings verify stored lockouts now clientIp headers body).2.2.looks = true →
      body.shown settings stored ≠ {}) ∧
    ((login settings verify stored lockouts now clientIp headers body).2.2.recorded = true →
      body.Fails settings stored) := by
  unfold login
  split
  · exact ⟨nofun, nofun⟩
  rename_i configured
  simp only
  split
  · exact ⟨nofun, nofun⟩
  cases body with
  | token token =>
    simp only
    split
    · exact ⟨nofun, nofun⟩
    rename_i given
    split
    next byToken =>
      unfold handleTokenLogin
      have shown : LoginBody.shown settings stored (.token token) ≠ {} := by
        simp [LoginBody.shown, configured, given, byToken]
      split
      next differs =>
        refine ⟨fun _ => shown, fun _ => ⟨configured, given, fun _ same => ?_⟩⟩
        rw [(constantTimeEq_iff _ _).mpr same] at differs
        cases differs
      · exact ⟨fun _ => shown, nofun⟩
    next notByToken =>
      exact ⟨nofun, fun _ => ⟨configured, given, fun byToken => absurd byToken notByToken⟩⟩
  | code requestId code =>
    simp only
    split
    · exact ⟨nofun, nofun⟩
    rename_i given
    rw [not_or] at given
    split
    next byCode =>
      have shown : LoginBody.shown settings stored (.code requestId code) ≠ {} := by
        simp [LoginBody.shown, configured, given, byCode]
      split <;> exact ⟨fun _ => shown, nofun⟩
    next notByCode =>
      exact ⟨nofun, fun _ => ⟨configured, given.1, given.2, notByCode⟩⟩

theorem authMiddleware_tracks (counting : Counting settings)
    (tracks : Tracks settings lockouts log now) (sessionValid : List Char → Bool) (port : Nat)
    (token : List Char) (clientIp : IpAddr) (request : Request) :
    Tracks settings
      (authMiddleware settings sessionValid port token lockouts now clientIp request).1
      log now := by
  unfold authMiddleware
  split
  · exact tracks
  · have after := (checkLockout_tracks counting tracks
      (realClientIp request.headers clientIp settings.trustedProxies)).1
    simp only
    split
    next checked =>
      rw [checked] at after
      exact after
    next checked =>
      rw [checked] at after
      split_ifs <;> exact after

end

namespace Site

variable {site : Site} {state : Defense} {clientIp : IpAddr} {request : Request}
  {sessionValid : List Char → Bool}

theorem unlocked_of_outer (shows : site.outerShown state clientIp request sessionValid ≠ {}) :
    (state.lockouts.checkLockout state.now (site.realIp clientIp request) site.settings).2 =
      none := by
  unfold outerShown at shows
  split at shows
  · exact absurd rfl shows
  next asked =>
    simp only [Bool.or_eq_true, not_or, locked, not_isSome_iff_eq_none] at asked
    exact asked.1.2

theorem handle_sound (counting : Counting site.settings) {lockouts : Lockouts}
    (tracks : Tracks site.settings lockouts state.log state.now)
    (tracksBefore : Tracks site.settings state.lockouts state.log state.now)
    (showsRight : site.ShowsRight state clientIp request sessionValid) (body : LoginBody)
    (verify : List Char → List Char → Except (Nat × String) Unit) :
    Sound site.settings state.log state.now (site.realIp clientIp request)
      (site.handle state clientIp request sessionValid lockouts body verify).1
      (site.handle state clientIp request sessionValid lockouts body verify).2 := by
  unfold handle
  split
  · exact .quiet counting tracks not_mem_nil rfl tracks nofun
  rename_i route handler found
  split
  · rcases answered : login site.settings verify state.token lockouts state.now clientIp
      request.headers body with ⟨after, reply, inspection⟩
    exact login_sound counting tracks answered
  next notLogin =>
    obtain ⟨right, hidden⟩ := showsRight.2 (route, handler) found (by simpa using notLogin)
    refine .quiet counting tracks (Shown.right_inspect right) rfl tracksBefore fun looks => ?_
    have free := mt hidden (Shown.looks_inspect looks)
    rwa [locked, Bool.not_eq_true, isSome_eq_false_iff, isNone_iff_eq_none] at free

theorem serve_sound (counting : Counting site.settings)
    (tracks : Tracks site.settings state.lockouts state.log state.now)
    (showsRight : site.ShowsRight state clientIp request sessionValid) (body : LoginBody)
    (verify : List Char → List Char → Except (Nat × String) Unit) :
    Sound site.settings state.log state.now (site.realIp clientIp request)
      (site.serve state clientIp request sessionValid body verify).1
      (site.serve state clientIp request sessionValid body verify).2 := by
  have middle := authMiddleware_tracks counting tracks sessionValid site.port state.token clientIp
    request
  have right := Shown.right_inspect showsRight.1
  have outer : Sound site.settings state.log state.now (site.realIp clientIp request)
      (authMiddleware site.settings sessionValid site.port state.token state.lockouts state.now
        clientIp request).1
      ((site.outerShown state clientIp request sessionValid).inspect state.token) :=
    .quiet counting middle right rfl tracks fun looks =>
      unlocked_of_outer (Shown.looks_inspect looks)
  exact outer.andThen right rfl (handle_sound counting middle tracks showsRight body verify)

theorem handle_shown (lockouts : Lockouts) (body : LoginBody)
    (verify : List Char → List Char → Except (Nat × String) Unit) :
    ((site.handle state clientIp request sessionValid lockouts body verify).2.looks = true →
      ∃ found ∈ site.reached state clientIp request sessionValid,
        site.handlerShown state clientIp request sessionValid body found.1 found.2 ≠ {}) ∧
    ((site.handle state clientIp request sessionValid lockouts body verify).2.recorded = true →
      site.FailsLogin state clientIp request sessionValid body) := by
  unfold handle
  split
  · exact ⟨nofun, nofun⟩
  rename_i route handler found
  by_cases isLogin_ : isLogin handler = true
  · rw [if_pos isLogin_]
    obtain ⟨shown, fails⟩ := login_shown site.settings verify state.token lockouts state.now
      clientIp request.headers body
    refine ⟨fun looks => ⟨_, found, ?_⟩, fun recorded => ⟨_, found, isLogin_, fails recorded⟩⟩
    rw [handlerShown, if_pos isLogin_]
    exact shown looks
  · rw [if_neg isLogin_]
    refine ⟨fun looks => ⟨_, found, ?_⟩, nofun⟩
    rw [handlerShown, if_neg isLogin_]
    exact Shown.looks_inspect looks

theorem serve_shown (body : LoginBody)
    (verify : List Char → List Char → Except (Nat × String) Unit) :
    ((site.serve state clientIp request sessionValid body verify).2.looks = true →
      site.Shows state clientIp request sessionValid body) ∧
    ((site.serve state clientIp request sessionValid body verify).2.recorded = true →
      site.FailsLogin state clientIp request sessionValid body) := by
  obtain ⟨shown, fails⟩ := @handle_shown site state clientIp request sessionValid
    (authMiddleware site.settings sessionValid site.port state.token state.lockouts state.now
      clientIp request).1 body verify
  refine ⟨fun looks => ?_, fun recorded => fails recorded⟩
  rw [serve, Inspection.looks_andThen, Bool.or_eq_true] at looks
  exact looks.imp Shown.looks_inspect shown

end Site

/-! ### Runs are bounded -/

/-- The counters stand for the tallies, and the attempts so far are bounded. -/
structure Guarded (settings : AuthSettings) (state : Defense) : Prop where
  tracks : Tracks settings state.lockouts state.log state.now
  bounded : Bounded settings state.log

theorem step_guarded {site : Site} (counting : Counting site.settings) (state : Defense)
    (action : DefenseAction) (next : Defense) (guarded : Guarded site.settings state)
    (careful : site.Careful state action) (taken : site.step state action = some next) :
    Guarded site.settings next := by
  cases action with
  | wait milliseconds =>
    cases taken
    exact ⟨guarded.tracks.wait milliseconds, guarded.bounded⟩
  | setToken token =>
    cases taken
    exact ⟨guarded.tracks, guarded.bounded⟩
  | request clientIp request body sessionValid verify =>
    obtain ⟨showsRight, inWindow⟩ := careful
    have sound := site.serve_sound counting guarded.tracks showsRight body verify
    obtain ⟨shown, fails⟩ := @Site.serve_shown site state clientIp request sessionValid body verify
    cases taken
    refine ⟨?_, sound.compared, fun looks => ?_, guarded.bounded⟩
    · cases recorded : (site.serve state clientIp request sessionValid body verify).2.recorded with
      | false => exact (sound.kept recorded).skip recorded
      | true =>
        obtain ⟨middle, tracks, admitted, after⟩ := sound.recorded recorded
        let attempt : Attempt := {
          ip := site.realIp clientIp request
          now := state.now
          inspection := (site.serve state clientIp request sessionValid body verify).2 }
        have counted : Tracks site.settings (middle.recordAuthFailure state.now attempt.ip
            site.settings.globalLockoutSecs) (attempt :: state.log) state.now :=
          recordAuthFailure_tracks counting tracks rfl recorded admitted fun isGlobal =>
            (inWindow isGlobal).2 (fails recorded)
        exact after ▸ counted
    · exact sound.free looks fun isGlobal => (inWindow isGlobal).1 (shown looks)

theorem guarded_start (settings : AuthSettings) (now : Nat) (token : List Char) :
    Guarded settings { now, token } where
  tracks := ⟨fun _ _ => .inr ⟨rfl, .inl rfl⟩, fun _ _ => ⟨rfl, rfl, Nat.zero_le _, fun _ => rfl⟩⟩
  bounded := trivial

/-- In runs of careful requests every wrong token is recorded, and after as many failures as lead to
a lockout nothing is looked at until the period since the last of them is over. -/
theorem attempts_bounded {site : Site} (counting : Counting site.settings) (now : Nat)
    (token : List Char) (actions : List DefenseAction) (final : Defense)
    (careful : Fallible.Meets site.step site.Careful { now, token } actions)
    (reached : Fallible.run site.step { now, token } actions = some final) :
    Bounded site.settings final.log :=
  (Fallible.run_invariant (step_guarded counting) (guarded_start site.settings now token) careful
    reached).bounded

/-- A server whose settings lock everybody out for a minute after one failure. -/
def strictSite (lockoutStrategy : String) : Site where
  settings := {
    lockoutStrategy, lockoutMaxFailures := 1, globalLockoutMaxFailures := 1
    globalLockoutSecs := 60 }
  port := 8999
  allowExternal := false
  routes := serverRoutes
  router := Router.first serverRoutes

/-- A request from one address outside, without sessions or codes. -/
def outside (method path : String) (posted : String) (headers : HeaderMap := []) : DefenseAction :=
  .request (.v4 0xCB007107#32) { method, path := path.toList, headers } (.token posted.toList)
    (fun _ => false) fun _ _ => .error (401, "code not found")

theorem attempts_bounded_login : ∃ final,
    Fallible.run (strictSite "ip").step { now := 90000000, token := "secret".toList }
        [outside "POST" "/api/auth" "guess", .wait 1000, outside "POST" "/api/auth" "secret"] =
      some final ∧
    Bounded (strictSite "ip").settings final.log := by
  refine ⟨_, rfl, ?_⟩
  exact @attempts_bounded (strictSite "ip")
    ⟨.inl rfl, by decide, by decide, by decide⟩ 90000000 "secret".toList
    [outside "POST" "/api/auth" "guess", .wait 1000, outside "POST" "/api/auth" "secret"] _
    (by decide +kernel) rfl

/-- A wrong Bearer token is not recorded; and in the second in which the minute after the first
failure of everybody is over, one failure does not keep the next token from being compared. -/
theorem guesses_unbounded :
    (∃ final, Fallible.run (strictSite "ip").step { now := 90000000, token := "secret".toList }
        [outside "GET" "/api/info" "" [("authorization", "Bearer guess".toList)]] = some final ∧
      ¬Bounded (strictSite "ip").settings final.log) ∧
    (∃ final, Fallible.run (strictSite "global").step
        { now := 90000000, token := "secret".toList }
        [outside "POST" "/api/auth" "guess", .wait 60000, outside "POST" "/api/auth" "guess",
          outside "POST" "/api/auth" "guess"] = some final ∧
      ¬Bounded (strictSite "global").settings final.log) := by
  exact ⟨⟨_, rfl, by decide +kernel⟩, ⟨_, rfl, by decide +kernel⟩⟩

end Dinotty.Auth
