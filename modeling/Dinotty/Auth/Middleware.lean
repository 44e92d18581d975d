/-
This file is the outer authentication of every request: the paths that need none, the
address whitelist, the lockout, the session cookie and the bearer token.
-/

import Dinotty.Auth.Credentials
import Dinotty.Auth.Lockout

namespace Dinotty.Auth

/-- A request, as far as authentication looks at it. -/
structure Request where
  method : String
  path : List Char
  query : Option (List Char) := none
  headers : HeaderMap := []

/-- Why a request goes on to its handler. -/
inductive Passage where
  | unconfigured
  | exempt
  | whitelisted
  | login
  | agentManaged
  | session
  | token
  deriving DecidableEq

inductive Verdict where
  | forwarded (passage : Passage)
  | rejected (status : Nat) (body : String) (retryAfter : Option Nat := none)
  deriving DecidableEq

def startsWith (front : String) (text : List Char) : Bool := (stripPrefix front text).isSome

def trimStartSlashes (path : List Char) : List Char := path.dropWhile (· = '/')

/-- Whether a request is made by a script of another site: the origin decides, then the label of the
browser, or else the host. -/
def isCrossSiteBrowserRequest (headers : HeaderMap) : Bool :=
  match (headers.get "origin").bind toStr with
  | none => false
  | some origin =>
      let authority :=
        ((stripPrefix "https://" origin).or <| (stripPrefix "http://" origin).or <|
          (stripPrefix "tauri://" origin).or <| stripPrefix "asset://" origin).getD origin
      let originHost := (authority.splitOn ':').headD []
      if Chars.eqIgnoreAsciiCase originHost "localhost".toList ||
          Chars.eqIgnoreAsciiCase originHost "127.0.0.1".toList ||
          Chars.eqIgnoreAsciiCase originHost "tauri.localhost".toList then false
      else
        match (headers.get "sec-fetch-site").bind toStr with
        | some site => Chars.eqIgnoreAsciiCase site "cross-site".toList
        | none =>
            match (headers.get "host").bind toStr with
            | some host => !Chars.eqIgnoreAsciiCase authority host
            | none => false

/-- Paths that find out themselves whose token a request carries. -/
def isAgentManagedPath (path : List Char) : Bool :=
  match ((trimStartSlashes path).splitOn '/').map String.ofList with
  | ["api", "sessions", _, action] => action = "run" || action = "send" || action = "read"
  | "api" :: "tokens" :: _ => true
  | ["mcp", action] => action = "sse" || action = "message"
  | _ => false

/-- Paths that need no authentication, or that have a gate of their own. -/
def isExemptPath (path : List Char) : Bool :=
  path = "/".toList || path = "/api/token-configured".toList ||
    path = "/manifest.json".toList || path = "/sw.js".toList || path = "/logo.png".toList ||
    startsWith "/assets/" path || startsWith "/icons/" path || path = "/ws/events".toList ||
    startsWith "/preview/" path || startsWith "/__srv/" path

def isLoginPath (path : List Char) : Bool :=
  path = "/api/auth".toList || path = "/api/auth/request-code".toList

/-- The verdict that comes before the lockout, if there is one. -/
def earlyVerdict (settings : AuthSettings) (token : List Char) (clientIp : IpAddr)
    (request : Request) : Option Verdict :=
  if token = [] then some (.forwarded .unconfigured)
  else if isExemptPath request.path then some (.forwarded .exempt)
  else
    let realIp := realClientIp request.headers clientIp settings.trustedProxies
    let crossSite := isCrossSiteBrowserRequest request.headers
    if request.path = "/api/auto-token".toList && (!isLoopback realIp || crossSite) then
      some (.rejected 403 "auto-token is only available from localhost")
    else if isIpWhitelisted realIp settings.ipWhitelist then
      if crossSite then some (.rejected 403 "cross-site requests are not allowed")
      else some (.forwarded .whitelisted)
    else if isLoginPath request.path then some (.forwarded .login)
    else none

/-- Let a request through or reject it. -/
def authMiddleware (settings : AuthSettings) (sessionValid : List Char → Bool) (port : Nat)
    (token : List Char) (lockouts : Lockouts) (now : Nat) (clientIp : IpAddr)
    (request : Request) : Lockouts × Verdict :=
  match earlyVerdict settings token clientIp request with
  | some verdict => (lockouts, verdict)
  | none =>
      let realIp := realClientIp request.headers clientIp settings.trustedProxies
      match lockouts.checkLockout now realIp settings with
      | (lockouts, some retryAfter) =>
          (lockouts, .rejected 429 "too many failed attempts, please try again later" retryAfter)
      | (lockouts, none) =>
          if isAgentManagedPath request.path then (lockouts, .forwarded .agentManaged)
          else if (extractSessionCookie request.headers port).any sessionValid then
            (lockouts, .forwarded .session)
          else if checkToken request.headers token then (lockouts, .forwarded .token)
          else (lockouts, .rejected 401 "unauthorized")

/-- Whether a request carries a valid session cookie or the token. -/
def hasValidAuth (sessionValid : List Char → Bool) (port : Nat) (headers : HeaderMap)
    (token : List Char) : Bool :=
  (extractSessionCookie headers port).any sessionValid || checkToken headers token

end Dinotty.Auth
