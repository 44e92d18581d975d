/-
This file is the proxy for other sites. Every hop looks up the host, refuses addresses of the own
network, and connects with a client that is pinned to what has been looked up. The URLs of the
client library are a parameter.
-/

import Dinotty.Auth.ClientIp

namespace Dinotty.Proxy

open Auth List

/-! ### Addresses of the own network -/

def isPrivateV4 (bits : BitVec 32) : Bool :=
  match IpAddr.octets bits with
  | [a, b, c, d] =>
      a = 127 || (a = 10 || (a = 172 && 16 ≤ b && b ≤ 31) || (a = 192 && b = 168)) ||
        (a = 169 && b = 254) || [a, b, c, d] = [255, 255, 255, 255] || bits = 0#32 ||
        (a = 100 && 64 ≤ b && b ≤ 127) || [a, b, c, d] = [169, 254, 169, 254]
  | _ => false

/-- The address of version four that an address of version six stands for. -/
def toIpv4Mapped (bits : BitVec 128) : Option (BitVec 32) :=
  if bits.toNat / 2 ^ 32 = 0xffff then some (BitVec.ofNat 32 (bits.toNat % 2 ^ 32)) else none

def isPrivateIp : IpAddr → Bool
  | .v4 bits => isPrivateV4 bits
  | .v6 bits =>
      match toIpv4Mapped bits with
      | some mapped => isPrivateV4 mapped
      | none =>
          bits = 1#128 || bits = 0#128 || bits.toNat / 2 ^ (128 - 7) = 0xfc00 / 2 ^ (16 - 7) ||
            bits.toNat / 2 ^ (128 - 10) = 0xfe80 / 2 ^ (16 - 10)

/-! ### URLs -/

/-- A host without the brackets around an address of version six. -/
def unbracket (host : List Char) : List Char :=
  ((host.dropWhile (· = '[')).reverse.dropWhile (· = ']')).reverse

/-- The URLs of the client library, as far as the proxy uses them. -/
structure UrlLibrary where
  Url : Type
  parse : List Char → Option Url
  join : Url → List Char → Option Url
  scheme : Url → String
  hostStr : Url → Option (List Char)
  port : Url → Option Nat
  asStr : Url → List Char
  hosted : ∀ url, scheme url ∈ ["http", "https"] → (hostStr url).isSome = true
  plain : ∀ url host, hostStr url = some host → IpAddr.parse (unbracket host) = none →
    '[' ∉ host ∧ ']' ∉ host ∧ ':' ∉ host
  bracketed : ∀ url host, hostStr url = some host → ':' ∈ host → host.head? = some '['

namespace UrlLibrary

variable (library : UrlLibrary)

def IsWeb (url : library.Url) : Prop := library.scheme url ∈ ["http", "https"]

instance (url : library.Url) : Decidable (library.IsWeb url) := inferInstanceAs (Decidable (_ ∈ _))

abbrev WebUrl := { url : library.Url // library.IsWeb url }

def portOrKnownDefault (url : library.Url) : Option Nat :=
  (library.port url).or <| if library.scheme url = "http" then some 80
    else if library.scheme url = "https" then some 443
    else none

/-- The key of a target: `scheme://host[:port]`. -/
def proxyAuthority (url : library.Url) : List Char :=
  (library.scheme url).toList ++ "://".toList ++ (library.hostStr url).getD [] ++
    ((library.port url).map fun port => ':' :: (Nat.repr port).toList).getD []

end UrlLibrary

/-! ### Targets and clients -/

structure SocketAddr where
  ip : IpAddr
  port : Nat
  deriving DecidableEq

/-- What has been looked up and checked. There is a domain if the client has to be pinned. -/
structure ResolvedTarget where
  domain : Option (List Char)
  addrs : List SocketAddr
  deriving DecidableEq

structure Refusal where
  status : Nat
  message : String
  deriving DecidableEq

/-- Look up and check the host of a URL, where `names` is the answer of the resolver. -/
def resolveTarget (library : UrlLibrary) (url : library.Url) (names : Option (List SocketAddr)) :
    Except Refusal ResolvedTarget :=
  let port := (library.portOrKnownDefault url).getD 80
  match library.hostStr url with
  | none => .ok { domain := none, addrs := [] }
  | some host =>
      match IpAddr.parse (unbracket host) with
      | some ip =>
          if isPrivateIp ip then
            .error ⟨403, "Access to private/internal addresses is not allowed"⟩
          else .ok { domain := none, addrs := [⟨ip, port⟩] }
      | none =>
          match names with
          | none => .error ⟨502, "DNS resolution failed"⟩
          | some addrs =>
              if addrs.any fun addr => isPrivateIp addr.ip then
                .error ⟨403, "Access to private/internal addresses is not allowed"⟩
              else .ok { domain := some (unbracket host), addrs }

/-- A client of the library: it takes the addresses of one domain from where it is pinned to. -/
structure Client where
  pinned : Option (List Char × List SocketAddr)
  deriving DecidableEq

def pinnedClient (target : ResolvedTarget) : Client where
  pinned :=
    match target.domain with
    | some domain => if target.addrs ≠ [] then some (domain, target.addrs) else none
    | none => none

/-- The addresses that a client may connect to for a URL, where `second` is the answer of the
resolver to the client itself. -/
def Client.connectsTo (client : Client) (library : UrlLibrary) (url : library.Url)
    (second : List IpAddr) : List IpAddr :=
  match library.hostStr url with
  | none => []
  | some host =>
      match IpAddr.parse (unbracket host) with
      | some ip => [ip]
      | none =>
          match client.pinned with
          | some (domain, addrs) => if domain = host then addrs.map SocketAddr.ip else second
          | none => second

/-- What a target says when a URL has been looked up and checked. -/
def ResolvedTarget.For (target : ResolvedTarget) (library : UrlLibrary) (url : library.Url) :
    Prop :=
  ∀ host, library.hostStr url = some host → IpAddr.parse (unbracket host) = none →
      target.domain = some (unbracket host) ∧ ∀ addr ∈ target.addrs, isPrivateIp addr.ip = false

/-! ### The cache of clients -/

def clientCacheTtl : Nat := 300000

def clientCacheCap : Nat := 64

/-- A cached client, under the authority and the addresses that it was built for, without their
order. -/
structure PinnedEntry where
  authority : List Char
  addrs : List SocketAddr
  client : Client
  created : Nat
  deriving DecidableEq

/-- An entry whose client was built for what its key says. -/
def PinnedEntry.Honest (library : UrlLibrary) (entry : PinnedEntry) : Prop :=
  ∃ url target, library.IsWeb url ∧ ResolvedTarget.For target library url ∧
    entry.authority = library.proxyAuthority url ∧ target.addrs.Perm entry.addrs ∧
    entry.client = pinnedClient target

/-- Drop the oldest of the entries, so many times. -/
def dropOldest : Nat → List PinnedEntry → List PinnedEntry
  | 0, entries => entries
  | count + 1, entries =>
      match entries.argmin PinnedEntry.created with
      | none => entries
      | some oldest => dropOldest count (entries.erase oldest)

def evictOldest (now : Nat) (entries : List PinnedEntry) : List PinnedEntry :=
  if entries.length ≤ clientCacheCap then entries
  else
    let fresh := entries.filter fun entry => decide (now - entry.created < clientCacheTtl)
    dropOldest (fresh.length - clientCacheCap) fresh

theorem mem_of_mem_dropOldest {count : Nat} {entries : List PinnedEntry} {entry : PinnedEntry}
    (mem : entry ∈ dropOldest count entries) : entry ∈ entries := by
  induction count generalizing entries with
  | zero => exact mem
  | succ count ih =>
    unfold dropOldest at mem
    split at mem
    · exact mem
    · exact mem_of_mem_erase (ih mem)

theorem mem_of_mem_evictOldest {now : Nat} {entries : List PinnedEntry} {entry : PinnedEntry}
    (mem : entry ∈ evictOldest now entries) : entry ∈ entries := by
  unfold evictOldest at mem
  split at mem
  · exact mem
  · exact mem_of_mem_filter (mem_of_mem_dropOldest mem)

structure PinnedClients (library : UrlLibrary) where
  entries : List PinnedEntry := []
  honest : ∀ entry ∈ entries, entry.Honest library := by simp

def PinnedClients.clientFor {library : UrlLibrary} (clients : PinnedClients library) (now : Nat)
    (url : library.WebUrl) (target : ResolvedTarget) (right : target.For library url.1) :
    PinnedClients library × Client :=
  let isKey := fun entry : PinnedEntry =>
    decide (entry.authority = library.proxyAuthority url.1) && target.addrs.isPerm entry.addrs
  match (clients.entries.find? isKey).filter fun entry =>
      decide (now - entry.created < clientCacheTtl) with
  | some entry => (clients, entry.client)
  | none =>
      let entry : PinnedEntry := {
        authority := library.proxyAuthority url.1
        addrs := target.addrs
        client := pinnedClient target
        created := now }
      ({ entries := evictOldest now (entry :: clients.entries.filter fun other => !isKey other)
         honest := by
           intro other member
           rcases mem_cons.mp (mem_of_mem_evictOldest member) with rfl | kept
           · exact ⟨url.1, target, url.2, right, rfl, .refl _, rfl⟩
           · exact clients.honest other (mem_of_mem_filter kept) },
        entry.client)

/-! ### Requests -/

/-- A request of a page. There is no body if it is too large. -/
structure ExternalRequest where
  url : List Char
  method : String
  headers : HeaderMap
  body : Option (List UInt8)

/-- The headers that go out. Values that are no text are dropped. -/
def forwardedHeaders (headers : HeaderMap) : HeaderMap :=
  headers.filterMap fun (name, value) =>
    if name ∈ ["host", "connection", "upgrade", "origin", "referer", "accept-encoding",
        "content-length"] then none
    else (toStr value).map (name, ·)

def contentType (headers : HeaderMap) : List Char :=
  ((headers.get "content-type").bind toStr).getD []

/-- A request that goes out, and the client that sends it. -/
structure Sent (library : UrlLibrary) where
  url : library.WebUrl
  client : Client
  method : String
  headers : HeaderMap
  body : List UInt8

inductive Outcome (library : UrlLibrary) where
  | refused (status : Nat) (message : List Char)
  | fetched (url : library.WebUrl) (status : Nat)

def Refusal.outcome {library : UrlLibrary} (refusal : Refusal) : Outcome library :=
  .refused refusal.status refusal.message.toList

structure Reply where
  status : Nat
  location : Option (List Char) := none

/-- What a hop meets: the answer of the resolver, the reply from outside, the time, and what others
have done to the clients. -/
structure Hop (library : UrlLibrary) where
  names : Option (List SocketAddr)
  reply : Except (List Char) Reply
  now : Nat := 0
  meanwhile : PinnedClients library → PinnedClients library := id

/-- A request between two hops. -/
structure Visit (library : UrlLibrary) where
  url : library.WebUrl
  method : String
  body : List UInt8
  clients : PinnedClients library
  sent : List (Sent library) := []
  outcome : Option (Outcome library) := none

section

variable {library : UrlLibrary} (rewriteForm : List UInt8 → List Char → Option (List UInt8))

/-- The body that goes out: forms have their URLs rewritten. -/
def sentBody (contentType : List Char) (url : library.WebUrl) (body : List UInt8) : List UInt8 :=
  if body ≠ [] ∧ "application/x-www-form-urlencoded".toList <:+: contentType then
    (rewriteForm body (library.asStr url.1)).getD body
  else body

def Reply.redirect (reply : Reply) (url : library.WebUrl) : Option library.Url :=
  if 300 ≤ reply.status ∧ reply.status < 400 then
    (reply.location.bind toStr).bind (library.join url.1)
  else none

/-- Whether a redirect turns a request into one that only gets. -/
def Reply.turnsToGet (reply : Reply) (method : String) : Bool :=
  reply.status = 303 || ((reply.status = 301 || reply.status = 302) && method ∉ ["GET", "HEAD"])

namespace Visit

variable (visit : Visit library) (headers : HeaderMap) (contentType : List Char)

def follow (reply : Reply) : Visit library :=
  match reply.redirect visit.url with
  | none => { visit with outcome := some (.fetched visit.url reply.status) }
  | some next =>
      if isWeb : library.IsWeb next then
        if reply.turnsToGet visit.method then
          { visit with url := ⟨next, isWeb⟩, method := "GET", body := [] }
        else { visit with url := ⟨next, isWeb⟩ }
      else
        { visit with
          outcome := some (.refused 400 "Only http/https redirects are supported".toList) }

theorem resolveTarget_for {url : library.Url} {names : Option (List SocketAddr)}
    {target : ResolvedTarget} (resolved : resolveTarget library url names = .ok target) :
    target.For library url := by
  intro host isHost isName
  unfold resolveTarget at resolved
  simp only [isHost, isName] at resolved
  split at resolved
  · cases resolved
  split at resolved
  · cases resolved
  next addrs outside =>
    cases resolved
    refine ⟨rfl, fun addr mem => ?_⟩
    by_contra isPrivate
    exact outside (List.any_eq_true.mpr ⟨addr, mem, by simpa using isPrivate⟩)

/-- One hop: look up, check, connect and send. -/
def step (hop : Hop library) : Visit library :=
  if visit.outcome.isSome then visit
  else
    match resolved : resolveTarget library visit.url.1 hop.names with
    | .error refusal => { visit with outcome := some refusal.outcome }
    | .ok target =>
        let (clients, client) := (hop.meanwhile visit.clients).clientFor hop.now visit.url target
          (resolveTarget_for resolved)
        let sent : Sent library := {
          url := visit.url
          client
          method := visit.method
          headers
          body := sentBody rewriteForm contentType visit.url visit.body }
        let visit := { visit with clients, sent := visit.sent ++ [sent] }
        match hop.reply with
        | .error message =>
            { visit with outcome := some (.refused 502 ("Proxy error: ".toList ++ message)) }
        | .ok reply => visit.follow reply

def run (hops : List (Hop library)) : Visit library :=
  hops.foldl (fun visit hop => step rewriteForm visit headers contentType hop) visit

end Visit

/-- What comes of a request: all that goes out, and the outcome once there is one. -/
structure ExternalAnswer (library : UrlLibrary) where
  sent : List (Sent library)
  outcome : Option (Outcome library)

/-- The checks before the first hop. -/
def accept (library : UrlLibrary) (request : ExternalRequest)
    (names : Option (List SocketAddr)) : Except Refusal (library.WebUrl × List UInt8) :=
  if request.url = [] then .error ⟨400, "Missing url parameter"⟩
  else
    match library.parse request.url with
    | none => .error ⟨400, "Invalid URL"⟩
    | some url =>
        if isWeb : library.IsWeb url then do
          let _ ← resolveTarget library url names
          match request.body with
          | none => .error ⟨400, "Request body too large"⟩
          | some body => .ok (⟨url, isWeb⟩, body)
        else .error ⟨400, "Only http/https URLs are supported"⟩

/-- Fetch a URL for a page, through ten hops at most. -/
def externalProxyHandler (clients : PinnedClients library) (request : ExternalRequest)
    (names : Option (List SocketAddr)) (hops : List (Hop library)) : ExternalAnswer library :=
  match accept library request names with
  | .error refusal => { sent := [], outcome := some refusal.outcome }
  | .ok (url, body) =>
      let start : Visit library := { url, method := request.method, body, clients }
      let visit := start.run rewriteForm (forwardedHeaders request.headers)
        (contentType request.headers) (hops.take 10)
      { sent := visit.sent
        outcome :=
          visit.outcome.or
            (if 10 ≤ hops.length then some (.refused 502 "Too many redirects".toList) else none) }

end

end Dinotty.Proxy
