/-
This file is the relay: requests for a path below `/__srv/` go on to another server of the roster,
with the token that the roster has for it.
-/

import Dinotty.Auth.Middleware
import Dinotty.Foundation.Url

namespace Dinotty.Proxy

open Auth

structure RemoteServer where
  id : List Char
  url : List Char
  token : Option (List Char) := none
  deriving DecidableEq

/-- What the other server sees of a request: where it is sent to, and whether its body is. -/
structure UpstreamRequest where
  method : String
  base : List Char
  path : List Char
  query : Option (List Char)
  headers : HeaderMap
  hasBody : Bool
  deriving DecidableEq

inductive RelayOutcome where
  | refused (status : Nat) (message : List Char)
  | relayed (upstream : UpstreamRequest)
  deriving DecidableEq

/-! ### Paths -/

/-- Split `/__srv/<id>/<rest>`. -/
def parseRelayPath (path : List Char) : Option (List Char × List Char) :=
  match (stripPrefix "/__srv" path).bind (stripPrefix "/") with
  | none => none
  | some after =>
      if after = [] then none
      else
        match Chars.splitOnce '/' after with
        | some (id, rest) => if id ≠ [] then some (id, rest) else none
        | none => some (after, [])

/-- Paths that are not relayed, without slashes at the front. -/
def isHubOnlyPath (rest : List Char) : Bool :=
  let path := (rest.reverse.dropWhile (· = '/')).reverse
  path = "api/auth".toList || startsWith "api/auth/" path || path = "api/token".toList ||
    startsWith "api/token/" path || path = "api/auto-token".toList ||
    path = "api/token-configured".toList || startsWith "api/tokens" path

/-- The path that the other server resolves. -/
def normalizedRelayPath (authorities : Authorities) (rest : List Char) : Option (List Char) :=
  (Url.parse authorities ("http://relay.invalid/".toList ++ rest)).map fun url =>
    trimStartSlashes url.path

/-! ### Headers -/

def isHopByHop (name : String) : Bool :=
  name ∈ ["connection", "keep-alive", "te", "trailer", "transfer-encoding", "upgrade"] ||
    startsWith "proxy-" name.toList

/-- The headers that a proxy passes on: not the ones of this connection, and not those that say
where the browser stands to this server. -/
def forwardsHeader (name : String) : Bool :=
  name ∉ ["host", "connection", "upgrade", "accept-encoding", "origin"] &&
    !startsWith "sec-fetch-" name.toList

/-- The headers that the relay passes on. -/
def shouldForwardHeader (name : String) : Bool :=
  !isHopByHop name && name ≠ "x-dinotty-relay" &&
    name ∉ ["authorization", "cookie", "content-length"] && forwardsHeader name

def needsCsrfHeader (method : String) : Bool := method ∉ ["GET", "HEAD", "OPTIONS"]

def hasCsrfHeader (headers : HeaderMap) : Bool :=
  ((headers.get "x-dinotty-relay").bind toStr).any fun value => Chars.trim value ≠ []

/-! ### The gate -/

section

variable (authorities : Authorities) (sessionValid : List Char → Bool) (port : Nat)
  (token : List Char) (settings : AuthSettings) (servers : List RemoteServer)

/-- The server that a request goes on to, or the answer that refuses it. -/
def authorizedTarget (request : Request) (realIp : IpAddr) (id rest : List Char) :
    Except (Nat × List Char) RemoteServer :=
  if !isLoopback realIp && !hasValidAuth sessionValid port request.headers token then
    .error (401, "relay: unauthorized".toList)
  else if isCrossSiteBrowserRequest request.headers then
    .error (403, "Cross-site requests are not allowed".toList)
  else
    match normalizedRelayPath authorities rest with
    | none => .error (400, "malformed relay path".toList)
    | some resolved =>
        if isHubOnlyPath resolved then
          .error (403, "This endpoint is not relayed; use it on the hub".toList)
        else if needsCsrfHeader request.method && !hasCsrfHeader request.headers then
          .error (403, "Missing X-Dinotty-Relay header".toList)
        else
          match servers.find? (·.id = id) with
          | some server => .ok server
          | none => .error (404, "Unknown server".toList)

/-- The origin of the URL of a server. An authority is never empty. -/
def upstreamOrigin (raw : List Char) : Option (List Char) :=
  (Url.parse authorities (Chars.trim raw)).map Url.origin

/-- The host of an origin with the scheme for WebSockets. -/
def upstreamWsBase (origin : List Char) : Option (List Char) :=
  match stripPrefix "http://" origin with
  | some host => some ("ws://".toList ++ host)
  | none => (stripPrefix "https://" origin).map fun host => "wss://".toList ++ host

/-- The token of a server; an empty one counts as none. -/
def upstreamToken (server : RemoteServer) : List Char := server.token.getD []

def bearer (token : List Char) : List Char := "Bearer ".toList ++ token

/-! ### Requests over HTTP -/

def isHeaderValue (value : List Char) : Bool :=
  value.all fun c => (32 ≤ c.toNat && c.toNat ≠ 127) || c = '\t'

/-- The credential that the relay adds. -/
def injectedHeaders (upstreamToken : List Char) : HeaderMap :=
  if upstreamToken = [] then [] else [("authorization", bearer upstreamToken)]

/-- The request that the other server sees. -/
def httpUpstream (request : Request) (target : Url) (upstreamToken : List Char) :
    UpstreamRequest where
  method := request.method
  base := target.origin
  path := target.path
  query := target.query
  headers :=
    (request.headers.filter fun entry => shouldForwardHeader entry.1 && isVisible entry.2) ++
      injectedHeaders upstreamToken
  hasBody := request.headers.get "content-length" ≠ some "0".toList

def badGateway (message : List Char) : RelayOutcome := .refused 502 message

/-- Send a request on, unless its target or its token cannot be written. -/
def forwardHttp (request : Request) (origin rest upstreamToken : List Char) : RelayOutcome :=
  match Url.parse authorities (origin ++ '/' :: (rest ++ Url.querySuffix request.query)) with
  | none => .refused 400 "Cannot build the upstream url".toList
  | some target =>
      if upstreamToken ≠ [] ∧ !isHeaderValue (bearer upstreamToken) then
        badGateway ("cannot reach ".toList ++ origin ++ ": builder error".toList)
      else .relayed (httpUpstream request target upstreamToken)

/-! ### WebSockets -/

/-- Whether the opening of a WebSocket passes a header on. -/
def forwardsWsHeader (name : String) : Bool :=
  (name = "cookie" || name = "authorization" || startsWith "x-" name.toList ||
    startsWith "sec-websocket-" name.toList) &&
    name ∉ ["sec-websocket-key", "sec-websocket-version", "sec-websocket-extensions"]

/-- Set a header, in place of any other of its name. -/
def setHeader (headers : HeaderMap) (entry : String × List Char) : HeaderMap :=
  entry :: headers.filter (·.1 ≠ entry.1)

/-- The protocols that the client of a WebSocket offers. -/
def wsProtocols (headers : HeaderMap) : List (List Char) :=
  match (headers.get "sec-websocket-protocol").bind toStr with
  | none => []
  | some text => (text.splitOn ',').map Chars.trim

/-- The headers that the other server sees: those of the opening, those of the client, an origin
that fits the host, and the injected ones. -/
def wsHeaders (headers : HeaderMap) (host key : List Char) (injected : HeaderMap) : HeaderMap :=
  let opening : HeaderMap := [("host", host), ("connection", "Upgrade".toList),
    ("upgrade", "websocket".toList), ("sec-websocket-version", "13".toList),
    ("sec-websocket-key", key)]
  let forwarded :=
    (headers.filter fun entry => forwardsWsHeader entry.1 && isVisible entry.2).foldl setHeader
      opening
  let protocols := wsProtocols headers
  let forwarded :=
    if protocols = [] then forwarded
    else setHeader forwarded ("sec-websocket-protocol", List.intercalate ", ".toList protocols)
  (injected.filter fun entry => isVisible entry.2).foldl setHeader
    (setHeader forwarded ("origin", "http://".toList ++ host))

/-- The opening of a WebSocket that the other server sees. The path is written as it stands. -/
def wsUpstream (key : List Char) (request : Request) (base rest : List Char)
    (injected : HeaderMap) : UpstreamRequest where
  method := "GET"
  base
  path := '/' :: rest
  query := request.query
  headers := wsHeaders request.headers
    (((stripPrefix "ws://" base).or (stripPrefix "wss://" base)).getD []) key injected
  hasBody := false

/-- Open a WebSocket to the other server, if the client asks for one in due form. -/
def proxyWebsocket (upgrade : Request → Except (List Char) Unit) (key : List Char)
    (request : Request) (base rest : List Char) (injected : HeaderMap) : RelayOutcome :=
  match upgrade request with
  | .error message => .refused 400 ("WebSocket upgrade failed: ".toList ++ message)
  | .ok () => .relayed (wsUpstream key request base rest injected)

def withoutCookies (request : Request) : Request :=
  { request with headers := request.headers.filter (·.1 ≠ "cookie") }

/-! ### The handler -/

def isWebsocket (request : Request) : Bool :=
  ((request.headers.get "upgrade").bind toStr).any fun value =>
    Chars.eqIgnoreAsciiCase value "websocket".toList

/-- Send a request that has passed the gate on to its server. -/
def relayTo (upgrade : Request → Except (List Char) Unit) (key : List Char) (request : Request)
    (id rest : List Char) (server : RemoteServer) : RelayOutcome :=
  match upstreamOrigin authorities server.url with
  | none => badGateway ("server '".toList ++ id ++ "' has no usable http(s) url".toList)
  | some origin =>
      if isWebsocket request then
        match upstreamWsBase origin with
        | none => badGateway ("cannot build a websocket url for '".toList ++ id ++ ['\''])
        | some base =>
            proxyWebsocket upgrade key (withoutCookies request) base rest
              (injectedHeaders (upstreamToken server))
      else forwardHttp authorities request origin rest (upstreamToken server)

/-- Answer a request for a path below `/__srv/`. -/
def relayDispatchHandler (upgrade : Request → Except (List Char) Unit) (key : List Char)
    (clientIp : IpAddr) (request : Request) : RelayOutcome :=
  match parseRelayPath request.path with
  | none => .refused 400 "malformed relay path".toList
  | some (id, rest) =>
      let realIp := realClientIp request.headers clientIp settings.trustedProxies
      match authorizedTarget authorities sessionValid port token servers request realIp id rest with
      | .error (status, message) => .refused status message
      | .ok server => relayTo authorities upgrade key request id rest server

end

end Dinotty.Proxy
