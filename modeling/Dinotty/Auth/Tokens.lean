/-
This file is the agent tokens, their manager, the middleware that finds out whose token a request
carries, and the handlers that manage tokens on behalf of a token. The hash of token texts is a
parameter, and so is what is drawn at random.
-/

import Dinotty.Auth.Credentials
import Dinotty.Foundation.KeyMap

namespace Dinotty.Auth

structure AgentToken where
  id : String
  name : String
  tokenHash : String
  tokenPrefix : List Char
  capabilities : List String
  scopes : KeyMap String (List String) := ∅
  createdAt : Nat
  expiresAt : Option Nat := none
  lastUsedAt : Option Nat := none
  description : String := ""

/-- What a handler learns of the token of a request. -/
structure TokenInfo where
  tokenId : String
  isGlobal : Bool
  capabilities : List String
  scopes : KeyMap String (List String)

def allCapabilities : List String :=
  ["terminal:read", "terminal:write", "terminal:create", "terminal:kill", "workspace:read",
    "workspace:write", "workspace:execute", "plugin:exec", "settings:read", "settings:write"]

namespace TokenInfo

def global : TokenInfo where
  tokenId := "global"
  isGlobal := true
  capabilities := allCapabilities
  scopes := ∅

def hasCapability (info : TokenInfo) (cap : String) : Bool :=
  info.isGlobal || cap ∈ info.capabilities

/-- Without a scope entry a capability is not restricted. -/
def checkScope (info : TokenInfo) (cap resource : String) : Bool :=
  if info.isGlobal then true
  else if cap ∉ info.capabilities then false
  else
    match info.scopes.lookup cap with
    | some scopes => resource ∈ scopes
    | none => true

end TokenInfo

/-- The refusal of a request: its status, its code and its message. -/
structure TokenError where
  status : Nat
  code : String
  message : String
  deriving DecidableEq

structure TokenManager where
  tokens : KeyMap String AgentToken := ∅
  revoked : KeyMap String Nat := ∅
  globalToken : List Char := []

structure CreateTokenRequest where
  name : String
  description : String := ""
  capabilities : List String
  scopes : KeyMap String (List String) := ∅
  expiresIn : Option Nat := none

structure UpdateTokenRequest where
  name : Option String := none
  capabilities : Option (List String) := none
  scopes : Option (KeyMap String (List String)) := none

namespace TokenManager

section

variable (hash : List Char → String)

/-- The record of a new token. The clock counts in 64 bits. -/
def newToken (now : Nat) (raw : List Char) (id : String) (req : CreateTokenRequest) :
    AgentToken where
  id
  name := req.name
  tokenHash := hash raw
  tokenPrefix := raw.take 12 ++ "...".toList
  capabilities := req.capabilities
  scopes := req.scopes
  createdAt := now
  expiresAt := req.expiresIn.map fun seconds => (now + seconds) % 2 ^ 64
  description := req.description

variable (manager : TokenManager)

/-- Create a token under a drawn text and identifier. The tokens are saved to a file, which may
fail with an error. -/
def create (now : Nat) (raw : List Char) (id : String)
    (saved : Except String Unit) (req : CreateTokenRequest) :
    TokenManager × Except String (List Char × AgentToken) :=
  let token := newToken hash now raw id req
  ({ manager with tokens := manager.tokens.insert id token }, saved.map fun _ => (raw, token))

/-- A token with the fields that are given changed. -/
def edited (token : AgentToken) (req : UpdateTokenRequest) : AgentToken :=
  { token with
    name := req.name.getD token.name
    capabilities := req.capabilities.getD token.capabilities
    scopes := req.scopes.getD token.scopes }

def update (id : String) (saved : Except String Unit)
    (req : UpdateTokenRequest) : TokenManager × Except String AgentToken :=
  match manager.tokens.lookup id with
  | none => (manager, .error "token not found")
  | some token =>
      let token := edited token req
      ({ manager with tokens := manager.tokens.insert id token }, saved.map fun _ => token)

def revoke (now : Nat) (id : String) (saved : Except String Unit) :
    TokenManager × Except String Unit :=
  match manager.tokens.lookup id with
  | none => (manager, .error "token not found")
  | some token =>
      ({ manager with
          tokens := manager.tokens.erase id
          revoked := manager.revoked.insert token.tokenHash now }, saved)

def findByHash (tokenHash : String) : Option AgentToken :=
  (manager.tokens.entries.map Sigma.snd).find? fun token => token.tokenHash = tokenHash

/-- Whose token a text is. Nobody's while the global token is being written. -/
def validate (now : Nat) (busy : Bool) (raw : List Char) : Option TokenInfo :=
  if busy then none
  else if manager.globalToken ≠ [] ∧ constantTimeEq raw manager.globalToken then some .global
  else
    match manager.findByHash (hash raw) with
    | none => none
    | some token =>
        if (manager.revoked.lookup (hash raw)).isSome then none
        else if token.expiresAt.any fun expiry => expiry < now then none
        else
          some {
            tokenId := token.id
            isGlobal := false
            capabilities := token.capabilities
            scopes := token.scopes }

def touch (now : Nat) (raw : List Char) : TokenManager :=
  match manager.findByHash (hash raw) with
  | none => manager
  | some token =>
      { manager with
        tokens := manager.tokens.insert token.id { token with lastUsedAt := some now } }

/-- Drop the tokens that have expired and the revocations older than a day. -/
def cleanup (now : Nat) : TokenManager :=
  { manager with
    tokens := KeyMap.retain (fun _ token => !token.expiresAt.any fun expiry => expiry < now)
      manager.tokens
    revoked := KeyMap.retain (fun _ since => !(86400 < now - since)) manager.revoked }

end

end TokenManager

/-! ### The middleware -/

/-- The credential that a request presents: its bearer token or else its query parameter. -/
def presentedToken (headers : HeaderMap) (query : Option (List Char)) : Option (List Char) :=
  (bearerToken headers).or (queryToken query)

def isWsUpgrade (headers : HeaderMap) : Bool :=
  ((headers.get "upgrade").bind toStr).any fun value =>
    Chars.eqIgnoreAsciiCase value "websocket".toList

def unauthorized (message : String) : TokenError :=
  { status := 401, code := "UNAUTHORIZED", message }

/-- Find out whose token a request carries; a request without one needs a valid session. The use
of an agent token is noted. -/
def sessionsTokenMiddleware (hash : List Char → String) (sessionValid : List Char → Bool)
    (port : Nat) (manager : TokenManager) (now : Nat) (busy : Bool) (headers : HeaderMap)
    (query : Option (List Char)) : TokenManager × Except TokenError TokenInfo :=
  match presentedToken headers query with
  | none =>
      if isWsUpgrade headers then
        (manager, .error (unauthorized "WS requires Bearer or ?token= query param"))
      else if (extractSessionCookie headers port).any sessionValid then (manager, .ok .global)
      else (manager, .error (unauthorized "Missing or invalid credentials"))
  | some raw =>
      if manager.globalToken ≠ [] ∧ constantTimeEq raw manager.globalToken then
        (manager, .ok .global)
      else
        match manager.validate hash now busy raw with
        | some info => (manager.touch hash now raw, .ok info)
        | none => (manager, .error (unauthorized "Invalid or expired token"))

/-! ### The handlers -/

inductive TokenRequest where
  | create (req : CreateTokenRequest)
  | update (id : String) (req : UpdateTokenRequest)
  | revoke (id : String)

inductive TokenAnswer where
  | created (raw : List Char) (token : AgentToken)
  | updated (token : AgentToken)
  | revoked

def capabilityDenied (cap : String) : TokenError :=
  { status := 403, code := "CAPABILITY_DENIED", message := "Token lacks " ++ cap ++ " capability" }

def notFound (message : String) : TokenError := { status := 404, code := "NOT_FOUND", message }

/-- A handler that a token needs a capability for, and that changes nothing without it. -/
def requireCapability {Answer : Type} (cap : String) (manager : TokenManager) (info : TokenInfo)
    (handler : TokenManager × Except TokenError Answer) :
    TokenManager × Except TokenError Answer :=
  if !info.hasCapability cap then (manager, .error (capabilityDenied cap)) else handler

/-- Create a token under a drawn text and identifier. -/
def createToken (hash : List Char → String) (manager : TokenManager) (now : Nat)
    (raw : List Char) (id : String) (saved : Except String Unit) (info : TokenInfo)
    (req : CreateTokenRequest) : TokenManager × Except TokenError TokenAnswer :=
  requireCapability "settings:write" manager info <|
    match req.capabilities.find? (· ∉ allCapabilities) with
    | some cap =>
        (manager, .error
          { status := 400, code := "INVALID_REQUEST", message := "unknown capability: " ++ cap })
    | none =>
        match manager.create hash now raw id saved req with
        | (manager, .ok (raw, token)) => (manager, .ok (.created raw token))
        | (manager, .error message) =>
            (manager, .error { status := 500, code := "INTERNAL_ERROR", message })

def updateToken (manager : TokenManager) (saved : Except String Unit) (info : TokenInfo)
    (id : String) (req : UpdateTokenRequest) : TokenManager × Except TokenError TokenAnswer :=
  requireCapability "settings:write" manager info <| match manager.update id saved req with
    | (manager, .ok token) => (manager, .ok (.updated token))
    | (manager, .error message) => (manager, .error (notFound message))

def revokeToken (manager : TokenManager) (now : Nat) (saved : Except String Unit)
    (info : TokenInfo) (id : String) : TokenManager × Except TokenError TokenAnswer :=
  requireCapability "settings:write" manager info <| match manager.revoke now id saved with
    | (manager, .ok ()) => (manager, .ok .revoked)
    | (manager, .error message) => (manager, .error (notFound message))

def handleTokenRequest (hash : List Char → String) (manager : TokenManager) (now : Nat)
    (raw : List Char) (id : String) (saved : Except String Unit) (info : TokenInfo) :
    TokenRequest → TokenManager × Except TokenError TokenAnswer
  | .create req => createToken hash manager now raw id saved info req
  | .update target req => updateToken manager saved info target req
  | .revoke target => revokeToken manager now saved info target

end Dinotty.Auth
