/-
This file is what the relay promises of every request that it sends on: it goes to the server that
the path names, for the path that the gate has judged, with the credential of the roster and none of
the caller's. A WebSocket keeps it exactly when its path is written as it resolves and the roster
has a token that can be written.
-/

import Dinotty.Proxy.Relay

namespace Dinotty.Proxy

open Auth List Option Url

/-! ### Credentials of the caller -/

def credentialHeaders : List String := ["cookie", "authorization"]

def withoutCredentials (headers : HeaderMap) : HeaderMap :=
  headers.filter (·.1 ∉ credentialHeaders)

/-- Two requests that differ in cookies and authorization at most. -/
structure SameButCredentials (first second : Request) : Prop where
  method : first.method = second.method
  path : first.path = second.path
  query : first.query = second.query
  headers : withoutCredentials first.headers = withoutCredentials second.headers

variable {name : String}

variable (headers : HeaderMap)

variable {keep : String × List Char → Bool}

theorem get_filter (kept : ∀ value, keep (name, value) = true) :
    HeaderMap.get (headers.filter keep) name = HeaderMap.get headers name := by
  unfold HeaderMap.get
  induction headers with
  | nil => rfl
  | cons entry rest ih =>
    by_cases keeps : keep entry = true
    · rw [filter_cons_of_pos keeps, lookup_cons, lookup_cons, ih]
    · have ne : name ≠ entry.1 := by
        rintro rfl
        exact keeps (kept entry.2)
      rw [filter_cons_of_neg keeps, lookup_cons, beq_false_of_ne ne, ih]

variable {first second : Request}

section

variable (same : SameButCredentials first second)
include same

theorem SameButCredentials.get (other : name ∉ credentialHeaders) :
    HeaderMap.get first.headers name = HeaderMap.get second.headers name := by
  have through : ∀ headers : HeaderMap,
      HeaderMap.get (withoutCredentials headers) name = HeaderMap.get headers name :=
    fun headers => get_filter headers fun _ => decide_eq_true other
  rw [← through first.headers, ← through second.headers, same.headers]

theorem SameButCredentials.filter
    (sparing : ∀ entry, keep entry = true → entry.1 ∉ credentialHeaders) :
    first.headers.filter keep = second.headers.filter keep := by
  have through : ∀ headers : HeaderMap,
      headers.filter keep = (withoutCredentials headers).filter keep := by
    intro headers
    rw [withoutCredentials, List.filter_filter]
    refine filter_congr fun entry _ => ?_
    cases kept : keep entry with
    | false => rfl
    | true => simpa using sparing entry kept
  rw [through first.headers, through second.headers, same.headers]

theorem SameButCredentials.withoutCookies :
    SameButCredentials (withoutCookies first) (withoutCookies second) where
  method := same.method
  path := same.path
  query := same.query
  headers := by
    unfold withoutCredentials Proxy.withoutCookies
    simp only [List.filter_filter]
    exact same.filter fun entry kept => of_decide_eq_true ((Bool.and_eq_true _ _).mp kept).1

end

/-! ### Setting headers -/

theorem filter_setHeader (entry : String × List Char) :
    (setHeader headers entry).filter (·.1 ≠ name) =
      if entry.1 = name then headers.filter (·.1 ≠ name)
      else setHeader (headers.filter (·.1 ≠ name)) entry := by
  unfold setHeader
  split_ifs with same
  · rw [filter_cons_of_neg (by simpa using same), List.filter_filter]
    refine filter_congr fun other _ => ?_
    rw [same]
    exact Bool.and_self _
  · rw [filter_cons_of_pos (by simpa using same), List.filter_filter, List.filter_filter]
    congr 1
    refine filter_congr fun other _ => ?_
    exact Bool.and_comm _ _

theorem filter_foldl_setHeader (headers entries : HeaderMap) :
    (entries.foldl setHeader headers).filter (·.1 ≠ name) =
      (entries.filter (·.1 ≠ name)).foldl setHeader (headers.filter (·.1 ≠ name)) := by
  induction entries generalizing headers with
  | nil => rfl
  | cons entry rest ih =>
    rw [foldl_cons, ih, filter_setHeader]
    split_ifs with same
    · rw [filter_cons_of_neg (by simpa using same)]
    · rw [filter_cons_of_pos (by simpa using same), foldl_cons]

theorem mem_setHeader {headers : HeaderMap} {entry other : String × List Char}
    (mem : other ∈ setHeader headers entry) : other = entry ∨ other ∈ headers := by
  rcases mem_cons.mp mem with same | rest
  · exact .inl same
  · exact .inr (mem_of_mem_filter rest)

theorem mem_foldl_setHeader {entries headers : HeaderMap} {other : String × List Char}
    (mem : other ∈ entries.foldl setHeader headers) : other ∈ entries ∨ other ∈ headers := by
  induction entries generalizing headers with
  | nil => exact .inr mem
  | cons entry rest ih =>
    rcases ih mem with later | set
    · exact .inl (mem_cons_of_mem _ later)
    · rcases mem_setHeader set with same | old
      · exact .inl (same ▸ mem_cons_self)
      · exact .inr old

/-! ### The hub -/

/-- What the answer of the relay depends on, apart from the request. -/
structure Hub where
  authorities : Authorities
  sessionValid : List Char → Bool
  port : Nat
  token : List Char
  settings : AuthSettings
  servers : List RemoteServer
  clientIp : IpAddr
  key : List Char
  upgrade : Request → Except (List Char) Unit
  upgradeSame : ∀ first second, SameButCredentials first second → upgrade first = upgrade second

namespace Hub

variable (hub : Hub) (request : Request)

def realIp : IpAddr := realClientIp request.headers hub.clientIp hub.settings.trustedProxies

def admits (id rest : List Char) : Except (Nat × List Char) RemoteServer :=
  authorizedTarget hub.authorities hub.sessionValid hub.port hub.token hub.servers request
    (hub.realIp request) id rest

def answer : RelayOutcome :=
  relayDispatchHandler hub.authorities hub.sessionValid hub.port hub.token hub.settings hub.servers
    hub.upgrade hub.key hub.clientIp request

/-- What is promised of a request that is sent on. Slashes in front of a path do not count. -/
structure RelaysTo (id rest : List Char) (server : RemoteServer) (upstream : UpstreamRequest) :
    Prop where
  named : parseRelayPath request.path = some (id, rest) ∧
    hub.servers.find? (·.id = id) = some server
  origin : ∃ origin, upstreamOrigin hub.authorities server.url = some origin ∧
    (if isWebsocket request then upstreamWsBase origin else some origin) = some upstream.base
  judged : normalizedRelayPath hub.authorities rest = some (trimStartSlashes upstream.path)
  notHubOnly : isHubOnlyPath (trimStartSlashes upstream.path) = false
  credential : ∀ entry ∈ upstream.headers, entry.1 ∈ credentialHeaders →
    entry = ("authorization", bearer (upstreamToken server)) ∧ upstreamToken server ≠ []
  presented : upstreamToken server ≠ [] →
    ("authorization", bearer (upstreamToken server)) ∈ upstream.headers
  same : ∀ other, SameButCredentials request other → ∀ upstream',
    hub.answer other = .relayed upstream' → upstream' = upstream
  marked : request.method ∈ ["GET", "HEAD", "OPTIONS"] ∨ hasCsrfHeader request.headers = true

structure Gated : Prop where
  relayed : ∀ upstream, hub.answer request = .relayed upstream →
    ∃ id rest server, hub.RelaysTo request id rest server upstream
  unprobed : isLoopback (hub.realIp request) = false →
    hasValidAuth hub.sessionValid hub.port request.headers hub.token = false →
    ∀ path path', (parseRelayPath path).isSome → (parseRelayPath path').isSome →
      hub.answer { request with path } = hub.answer { request with path := path' }

/-- The path below a server is written as it resolves, and the token can be the credential. -/
def Presentable (rest : List Char) (server : RemoteServer) : Prop :=
  normalizedRelayPath hub.authorities rest = some (trimStartSlashes rest) ∧
    upstreamToken server ≠ [] ∧ isVisible (bearer (upstreamToken server)) = true

/-- If the request opens a WebSocket, it is to such a path and server. -/
def OpensPresentable : Prop :=
  isWebsocket request = true → ∀ id rest server, parseRelayPath request.path = some (id, rest) →
    hub.admits request id rest = .ok server →
    (upstreamOrigin hub.authorities server.url).isSome →
    hub.upgrade (withoutCookies request) = .ok () → hub.Presentable rest server

end Hub

/-- What the type of a request line guarantees. -/
def WellFormed (request : Request) : Prop :=
  Url.Solid (request.path ++ Url.querySuffix request.query) ∧
    ∀ c ∈ request.path, Url.endsPath c = false

instance (request : Request) : Decidable (WellFormed request) :=
  have := List.decidableBAll (Url.endsPath · = false) request.path
  inferInstanceAs (Decidable (_ ∧ _))

namespace Hub

variable {hub : Hub} {request : Request}

/-! ### What the answer does -/

variable {id rest : List Char} {server : RemoteServer}

theorem admits_ok (admitted : hub.admits request id rest = .ok server) :
    (isLoopback (hub.realIp request) = true ∨
      hasValidAuth hub.sessionValid hub.port request.headers hub.token = true) ∧
    isCrossSiteBrowserRequest request.headers = false ∧
    (∃ resolved, normalizedRelayPath hub.authorities rest = some resolved ∧
      isHubOnlyPath resolved = false) ∧
    (needsCsrfHeader request.method = false ∨ hasCsrfHeader request.headers = true) ∧
    hub.servers.find? (·.id = id) = some server := by
  unfold admits authorizedTarget at admitted
  split at admitted
  · cases admitted
  rename_i authentic
  split at admitted
  · cases admitted
  rename_i sameSite
  split at admitted
  · cases admitted
  rename_i resolved isResolved
  split at admitted
  · cases admitted
  rename_i relayable
  split at admitted
  · cases admitted
  rename_i marked
  split at admitted
  next found isFound =>
    cases admitted
    refine ⟨?_, by simpa using sameSite, ⟨resolved, isResolved, by simpa using relayable⟩, ?_,
      isFound⟩
    · rw [Bool.and_eq_true, not_and_or] at authentic
      simpa using authentic
    · rw [Bool.and_eq_true, not_and_or] at marked
      simpa using marked
  · cases admitted

theorem answer_relayed {upstream : UpstreamRequest}
    (relayed : hub.answer request = .relayed upstream) :
    ∃ id rest server origin, parseRelayPath request.path = some (id, rest) ∧
      hub.admits request id rest = .ok server ∧
      upstreamOrigin hub.authorities server.url = some origin ∧
      ((isWebsocket request = false ∧ ∃ target,
          parse hub.authorities (origin ++ '/' :: (rest ++ querySuffix request.query)) =
            some target ∧
          upstream = httpUpstream request target (upstreamToken server)) ∨
        (isWebsocket request = true ∧ hub.upgrade (withoutCookies request) = .ok () ∧
          ∃ base, upstreamWsBase origin = some base ∧
            upstream = wsUpstream hub.key (withoutCookies request) base rest
              (injectedHeaders (upstreamToken server)))) := by
  unfold answer relayDispatchHandler at relayed
  split at relayed
  · cases relayed
  rename_i id rest isPath
  simp only at relayed
  split at relayed
  · cases relayed
  rename_i server admitted
  unfold relayTo at relayed
  split at relayed
  · cases relayed
  rename_i origin isOrigin
  refine ⟨id, rest, server, origin, isPath, admitted, isOrigin, ?_⟩
  split at relayed
  next websocket =>
    split at relayed
    · cases relayed
    rename_i base isBase
    unfold proxyWebsocket at relayed
    split at relayed
    · cases relayed
    rename_i upgraded
    cases relayed
    exact .inr ⟨websocket, upgraded, base, isBase, rfl⟩
  next http =>
    unfold forwardHttp at relayed
    split at relayed
    · cases relayed
    rename_i target isTarget
    split at relayed
    · cases relayed
    · cases relayed
      exact .inl ⟨by simpa using http, target, isTarget, rfl⟩

/-- What the type of a request line guarantees holds of the path below a server too. -/
theorem wellFormed_rest (formed : WellFormed request)
    (isPath : parseRelayPath request.path = some (id, rest)) :
    Solid (rest ++ querySuffix request.query) ∧ ∀ c ∈ rest, endsPath c = false := by
  have suffix : ∀ c ∈ rest, c ∈ request.path := by
    unfold parseRelayPath at isPath
    split at isPath
    · cases isPath
    rename_i after isAfter
    obtain ⟨middle, isMiddle, isAfter⟩ := bind_eq_some_iff.mp isAfter
    rw [← stripPrefix_eq_some.mp isMiddle, ← stripPrefix_eq_some.mp isAfter]
    intro c mem
    refine mem_append_right _ (mem_append_right _ ?_)
    split at isPath
    · cases isPath
    split at isPath
    next name behind cut =>
      split at isPath
      · cases isPath
        rw [Chars.splitOnce_eq_some cut]
        exact mem_append_right _ (mem_cons_of_mem _ mem)
      · cases isPath
    · cases isPath
      cases mem
  refine ⟨fun c mem => ?_, fun c mem => formed.2 c (suffix c mem)⟩
  rcases mem_append.mp mem with inRest | inQuery
  · exact formed.1 c (mem_append_left _ (suffix c inRest))
  · exact formed.1 c (mem_append_right _ inQuery)

theorem normalizedRelayPath_eq {authorities : Authorities} {resolved : List Char}
    (solid : Solid rest) (inPath : ∀ c ∈ rest, endsPath c = false)
    (isResolved : normalizedRelayPath authorities rest = some resolved) :
    resolved = trimStartSlashes (normalizePath rest) := by
  have solid' : Solid (rest ++ querySuffix none) := by
    rw [querySuffix, append_nil]
    exact solid
  have plain : Plain "relay.invalid".toList := by decide
  have read := @Url.parse_append authorities false _ (by decide) plain rest none solid' inPath
  have whole : scheme false ++ "://".toList ++ "relay.invalid".toList ++
      '/' :: (rest ++ querySuffix none) = "http://relay.invalid/".toList ++ rest := by
    rw [querySuffix, append_nil]
    rfl
  rw [whole] at read
  unfold normalizedRelayPath at isResolved
  rw [read] at isResolved
  obtain ⟨url, isUrl, rfl⟩ := map_eq_some_iff.mp isResolved
  obtain ⟨authority, -, rfl⟩ := map_eq_some_iff.mp isUrl
  rfl

/-! ### Two requests that differ in credentials -/

variable {entry : String × List Char}

theorem sparing_shouldForwardHeader
    (kept : (shouldForwardHeader entry.1 && isVisible entry.2) = true) :
    entry.1 ∉ credentialHeaders := by
  intro credential
  simp only [credentialHeaders, mem_cons, not_mem_nil, or_false] at credential
  rcases credential with cookie | authorization
  · simp [shouldForwardHeader, cookie] at kept
  · simp [shouldForwardHeader, authorization] at kept

variable {other : Request}

theorem httpUpstream_same (same : SameButCredentials request other) (target : Url)
    (upstreamToken : List Char) :
    httpUpstream other target upstreamToken = httpUpstream request target upstreamToken := by
  have headers := same.filter fun _ => sparing_shouldForwardHeader
  have length : HeaderMap.get request.headers "content-length" =
      HeaderMap.get other.headers "content-length" := same.get (by decide)
  unfold httpUpstream
  rw [same.method, headers, length]

variable {token : List Char}

theorem wsHeaders_injected (host key : List Char) (nonempty : token ≠ [])
    (visible : isVisible (bearer token) = true) :
    wsHeaders headers host key (injectedHeaders token) = ("authorization", bearer token) ::
        (wsHeaders headers host key []).filter (·.1 ≠ "authorization") := by
  have kept : ([("authorization", bearer token)] : HeaderMap).filter
      (fun entry => isVisible entry.2) = [("authorization", bearer token)] :=
    filter_cons_of_pos visible
  unfold wsHeaders injectedHeaders
  rw [if_neg nonempty, kept]
  rfl

/-- Without the authorization, the headers of a WebSocket depend on no credential. -/
theorem wsHeaders_same (same : SameButCredentials first second) (host key : List Char) :
    (wsHeaders (withoutCookies first).headers host key []).filter (·.1 ≠ "authorization") =
      (wsHeaders (withoutCookies second).headers host key []).filter (·.1 ≠ "authorization") := by
  have protocols : wsProtocols (withoutCookies first).headers =
      wsProtocols (withoutCookies second).headers := by
    unfold wsProtocols withoutCookies
    rw [get_filter first.headers fun _ => rfl, get_filter second.headers fun _ => rfl,
      same.get (by decide)]
  have entries : ((withoutCookies first).headers.filter fun entry =>
        forwardsWsHeader entry.1 && isVisible entry.2).filter (·.1 ≠ "authorization") =
      ((withoutCookies second).headers.filter fun entry =>
        forwardsWsHeader entry.1 && isVisible entry.2).filter (·.1 ≠ "authorization") := by
    unfold withoutCookies
    simp only [List.filter_filter]
    refine same.filter fun entry kept => ?_
    simp only [Bool.and_eq_true, decide_eq_true_eq] at kept
    simp [credentialHeaders, kept]
  have forwarded : ∀ opening : HeaderMap,
      (((withoutCookies first).headers.filter fun entry =>
        forwardsWsHeader entry.1 && isVisible entry.2).foldl setHeader opening).filter
          (·.1 ≠ "authorization") =
      (((withoutCookies second).headers.filter fun entry =>
        forwardsWsHeader entry.1 && isVisible entry.2).foldl setHeader opening).filter
          (·.1 ≠ "authorization") := by
    intro opening
    rw [filter_foldl_setHeader, filter_foldl_setHeader, entries]
  have originOther : "origin" ≠ "authorization" := by decide
  have protocolOther : "sec-websocket-protocol" ≠ "authorization" := by decide
  unfold wsHeaders
  rw [protocols]
  simp only [filter_nil, foldl_nil]
  by_cases none : wsProtocols (withoutCookies second).headers = []
  · simp only [none, if_true, filter_setHeader, originOther, if_false, forwarded]
  · simp only [none, if_false, filter_setHeader, originOther, protocolOther, forwarded]

section

variable (same : SameButCredentials request other)
include same

theorem wsUpstream_same (key base rest : List Char) (nonempty : token ≠ [])
    (visible : isVisible (bearer token) = true) :
    wsUpstream key (withoutCookies other) base rest (injectedHeaders token) =
      wsUpstream key (withoutCookies request) base rest (injectedHeaders token) := by
  unfold wsUpstream
  rw [wsHeaders_injected _ _ _ nonempty visible, wsHeaders_injected _ _ _ nonempty visible,
    wsHeaders_same same]
  simp [withoutCookies, same.query]

theorem isWebsocket_same : isWebsocket other = isWebsocket request := by
  unfold isWebsocket
  rw [same.get (by decide)]

/-- The other server sees the same of two requests that differ in credentials, unless they open a
WebSocket without a token. -/
theorem relayed_same {upstream upstream' : UpstreamRequest}
    (relayed : hub.answer request = .relayed upstream)
    (relayed' : hub.answer other = .relayed upstream') (presentable : hub.OpensPresentable request)
    : upstream' = upstream := by
  obtain ⟨id, rest, server, origin, isPath, admitted, isOrigin, sent⟩ := answer_relayed relayed
  obtain ⟨id', rest', server', origin', isPath', admitted', isOrigin', sent'⟩ :=
    answer_relayed relayed'
  rw [← same.path, isPath] at isPath'
  cases isPath'
  have sameServer := (admits_ok admitted).2.2.2.2.symm.trans (admits_ok admitted').2.2.2.2
  cases sameServer
  cases isOrigin.symm.trans isOrigin'
  rw [isWebsocket_same same, ← same.query] at sent'
  rcases sent with ⟨http, target, isTarget, rfl⟩ | ⟨websocket, upgraded, base, isBase, rfl⟩
  · rcases sent' with ⟨-, target', isTarget', rfl⟩ | ⟨websocket, -⟩
    · cases isTarget.symm.trans isTarget'
      exact httpUpstream_same same target _
    · rw [http] at websocket
      cases websocket
  · rcases sent' with ⟨http, -⟩ | ⟨-, -, base', isBase', rfl⟩
    · rw [websocket] at http
      cases http
    · cases isBase.symm.trans isBase'
      obtain ⟨-, nonempty, visible⟩ := presentable websocket id rest server isPath admitted
        (isSome_of_eq_some isOrigin) upgraded
      exact wsUpstream_same same hub.key base rest nonempty visible

end

/-! ### What the gate promises -/

theorem marked_of {method : String} (unmarked : needsCsrfHeader method = false) :
    method ∈ ["GET", "HEAD", "OPTIONS"] :=
  not_not.mp (of_decide_eq_false unmarked)

/-- Requests over HTTP keep every promise. -/
theorem relaysTo_http (formed : WellFormed request) (presentable : hub.OpensPresentable request)
    {origin : List Char} (isPath : parseRelayPath request.path = some (id, rest))
    (admitted : hub.admits request id rest = .ok server)
    (isOrigin : upstreamOrigin hub.authorities server.url = some origin)
    (http : isWebsocket request = false) {target : Url}
    (isTarget : parse hub.authorities (origin ++ '/' :: (rest ++ querySuffix request.query)) =
      some target) (relayed : hub.answer request =
      .relayed (httpUpstream request target (upstreamToken server))) :
    hub.RelaysTo request id rest server (httpUpstream request target (upstreamToken server)) := by
  obtain ⟨-, -, ⟨resolved, isResolved, relayable⟩, marked, isServer⟩ := admits_ok admitted
  obtain ⟨solid, inPath⟩ := wellFormed_rest formed isPath
  have solidRest : Solid rest := fun c mem => solid c (mem_append_left _ mem)
  obtain ⟨url, isUrl, rfl⟩ := map_eq_some_iff.mp isOrigin
  obtain ⟨target', isTarget', sameOrigin, path⟩ := parse_origin isUrl solid inPath
  cases isTarget.symm.trans isTarget'
  have judged : resolved = trimStartSlashes target.path := by
    rw [path]
    exact normalizedRelayPath_eq solidRest inPath isResolved
  subst judged
  refine {
    named := ⟨isPath, isServer⟩
    origin := ⟨url.origin, isOrigin, ?_⟩
    judged := isResolved
    notHubOnly := relayable
    credential := ?_
    presented := ?_
    same := fun other same upstream' relayed' => relayed_same same relayed relayed' presentable
    marked := marked.imp_left marked_of }
  · rw [if_neg (by simp [http])]
    exact congrArg some sameOrigin.symm
  · intro entry mem credential
    rcases mem_append.mp mem with forwarded | injected
    · exact (sparing_shouldForwardHeader (mem_filter.mp forwarded).2 credential).elim
    · unfold injectedHeaders at injected
      split_ifs at injected with empty
      · cases injected
      · exact ⟨mem_singleton.mp injected, empty⟩
  · intro nonempty
    refine mem_append_right _ ?_
    rw [injectedHeaders, if_neg nonempty]
    exact mem_singleton_self _

/-- The credentials that a WebSocket shows can be written, and are injected or of the client. -/
theorem credential_wsHeaders {headers injected : HeaderMap} {host key : List Char}
    (mem : entry ∈ wsHeaders headers host key injected)
    (credential : entry.1 ∈ credentialHeaders) :
    isVisible entry.2 = true ∧ (entry ∈ injected ∨ entry ∈ headers) := by
  have other : ∀ {name : String} {value : List Char}, name ∉ credentialHeaders →
      entry ≠ (name, value) := by
    rintro name value notCredential rfl
    exact notCredential credential
  have fromForwarded : ∀ opening : HeaderMap, (∀ first ∈ opening, first.1 ∉ credentialHeaders) →
      entry ∈ (headers.filter fun entry =>
        forwardsWsHeader entry.1 && isVisible entry.2).foldl setHeader opening →
      isVisible entry.2 = true ∧ (entry ∈ injected ∨ entry ∈ headers) := by
    intro opening plain isForwarded
    rcases mem_foldl_setHeader isForwarded with kept | first
    · obtain ⟨inHeaders, keeps⟩ := mem_filter.mp kept
      exact ⟨((Bool.and_eq_true _ _).mp keeps).2, .inr inHeaders⟩
    · exact (plain entry first credential).elim
  have plain : ∀ first ∈ ([("host", host), ("connection", "Upgrade".toList),
      ("upgrade", "websocket".toList), ("sec-websocket-version", "13".toList),
      ("sec-websocket-key", key)] : HeaderMap), first.1 ∉ credentialHeaders := by
    simp [credentialHeaders]
  unfold wsHeaders at mem
  rcases mem_foldl_setHeader mem with isInjected | set
  · obtain ⟨inInjected, visible⟩ := mem_filter.mp isInjected
    exact ⟨visible, .inl inInjected⟩
  rcases mem_setHeader set with isOrigin | before
  · exact (other (by decide) isOrigin).elim
  split_ifs at before
  · exact fromForwarded _ plain before
  · rcases mem_setHeader before with isProtocol | forwarded
    · exact (other (by decide) isProtocol).elim
    · exact fromForwarded _ plain forwarded

/-- A WebSocket to a server whose path and token are presentable keeps every promise. -/
theorem relaysTo_websocket (presentable : hub.OpensPresentable request) {origin base : List Char}
    (isPath : parseRelayPath request.path = some (id, rest))
    (admitted : hub.admits request id rest = .ok server)
    (isOrigin : upstreamOrigin hub.authorities server.url = some origin)
    (websocket : isWebsocket request = true)
    (upgraded : hub.upgrade (withoutCookies request) = .ok ())
    (isBase : upstreamWsBase origin = some base)
    (relayed : hub.answer request = .relayed (wsUpstream hub.key (withoutCookies request) base rest
      (injectedHeaders (upstreamToken server)))) :
    hub.RelaysTo request id rest server (wsUpstream hub.key (withoutCookies request) base rest
      (injectedHeaders (upstreamToken server))) := by
  obtain ⟨-, -, ⟨resolved, isResolved, relayable⟩, marked, isServer⟩ := admits_ok admitted
  obtain ⟨normal, nonempty, visible⟩ := presentable websocket id rest server isPath admitted
    (isSome_of_eq_some isOrigin) upgraded
  cases normal.symm.trans isResolved
  have shown := wsHeaders_injected (withoutCookies request).headers
    (((stripPrefix "ws://" base).or (stripPrefix "wss://" base)).getD []) hub.key nonempty visible
  refine {
    named := ⟨isPath, isServer⟩
    origin := ⟨origin, isOrigin, ?_⟩
    judged := isResolved
    notHubOnly := relayable
    credential := ?_
    presented := ?_
    same := fun other same upstream' relayed' => relayed_same same relayed relayed' presentable
    marked := marked.imp_left marked_of }
  · rw [if_pos websocket]
    exact isBase
  · intro entry mem credential
    rw [wsUpstream, shown] at mem
    rcases mem_cons.mp mem with injected | others
    · exact ⟨injected, nonempty⟩
    · obtain ⟨mem, notAuthorization⟩ := mem_filter.mp others
      rcases (credential_wsHeaders mem credential).2 with none | inHeaders
      · cases none
      · have notCookie := (mem_filter.mp inHeaders).2
        simp only [credentialHeaders, mem_cons, not_mem_nil, or_false] at credential
        simp only [decide_eq_true_eq] at notCookie notAuthorization
        rcases credential with cookie | authorization
        · exact (notCookie cookie).elim
        · exact (notAuthorization authorization).elim
  · intro _
    rw [wsUpstream, shown]
    exact mem_cons_self

theorem unprobed (remote : isLoopback (hub.realIp request) = false) (unauthenticated :
      hasValidAuth hub.sessionValid hub.port request.headers hub.token = false)
    {path : List Char} (isPath : (parseRelayPath path).isSome) :
    hub.answer { request with path } = .refused 401 "relay: unauthorized".toList := by
  obtain ⟨⟨id, rest⟩, isPath⟩ := isSome_iff_exists.mp isPath
  have refused : hub.admits { request with path } id rest =
      .error (401, "relay: unauthorized".toList) := by
    unfold admits authorizedTarget
    refine if_pos ?_
    change (!isLoopback (hub.realIp request) &&
      !hasValidAuth hub.sessionValid hub.port request.headers hub.token) = true
    rw [remote, unauthenticated]
    rfl
  unfold admits realIp at refused
  unfold answer relayDispatchHandler
  simp only [isPath, refused]

/-! ### What a WebSocket needs -/

theorem answer_websocket (isPath : parseRelayPath request.path = some (id, rest))
    (admitted : hub.admits request id rest = .ok server)
    (usable : (upstreamOrigin hub.authorities server.url).isSome)
    (websocket : isWebsocket request = true)
    (upgraded : hub.upgrade (withoutCookies request) = .ok ()) :
    ∃ base, hub.answer request = .relayed (wsUpstream hub.key (withoutCookies request) base rest
      (injectedHeaders (upstreamToken server))) := by
  obtain ⟨origin, isOrigin⟩ := isSome_iff_exists.mp usable
  obtain ⟨url, -, rfl⟩ := map_eq_some_iff.mp isOrigin
  have hasBase : ∃ base, upstreamWsBase url.origin = some base := by
    unfold upstreamWsBase
    cases stripped : stripPrefix "http://" url.origin with
    | some host => exact ⟨_, rfl⟩
    | none =>
      have whole : ∀ secure, url.secure = secure →
          stripPrefix (String.ofList (scheme secure) ++ "://") url.origin = some url.authority := by
        rintro secure rfl
        refine stripPrefix_eq_some.mpr ?_
        unfold origin
        cases url.secure <;> rfl
      cases isSecure : url.secure with
      | false =>
        have insecure : stripPrefix "http://" url.origin = some url.authority := whole false isSecure
        rw [stripped] at insecure
        cases insecure
      | true =>
        have secure : stripPrefix "https://" url.origin = some url.authority := whole true isSecure
        exact ⟨_, by rw [secure]; rfl⟩
  obtain ⟨base, isBase⟩ := hasBase
  refine ⟨base, ?_⟩
  unfold admits realIp at admitted
  unfold answer relayDispatchHandler
  simp [isPath, admitted, relayTo, isOrigin, isBase, websocket, proxyWebsocket, upgraded]

def withAuthorization (request : Request) (value : List Char) : Request :=
  { request with headers := request.headers ++ [("authorization", value)] }

theorem same_withAuthorization (request : Request) (value : List Char) :
    SameButCredentials request (withAuthorization request value) where
  method := rfl
  path := rfl
  query := rfl
  headers := by
    unfold withoutCredentials withAuthorization
    rw [filter_append]
    exact (append_nil _).symm

theorem get_append (headers more : HeaderMap) (name : String) :
    HeaderMap.get (headers ++ more) name =
      (HeaderMap.get headers name).or (HeaderMap.get more name) := by
  unfold HeaderMap.get
  exact lookup_append

/-- A further authorization does not take the authentication away. -/
theorem hasValidAuth_withAuthorization {sessionValid : List Char → Bool} {port : Nat}
    (value : List Char)
    (authenticated : hasValidAuth sessionValid port request.headers token = true) :
    hasValidAuth sessionValid port (withAuthorization request value).headers token = true := by
  have cookies : HeaderMap.get (withAuthorization request value).headers "cookie" =
      HeaderMap.get request.headers "cookie" := by
    unfold withAuthorization
    rw [get_append]
    exact or_none
  unfold hasValidAuth at authenticated ⊢
  rcases (Bool.or_eq_true _ _).mp authenticated with sess | bearer
  · refine (Bool.or_eq_true _ _).mpr (.inl ?_)
    unfold extractSessionCookie at sess ⊢
    rw [cookies]
    exact sess
  · refine (Bool.or_eq_true _ _).mpr (.inr ?_)
    unfold checkToken bearerToken at bearer ⊢
    have first : HeaderMap.get (withAuthorization request value).headers "authorization" =
        HeaderMap.get request.headers "authorization" := by
      unfold withAuthorization
      rw [get_append]
      cases held : HeaderMap.get request.headers "authorization" with
      | some text => rfl
      | none =>
        rw [held] at bearer
        cases bearer
    rw [first]
    exact bearer

theorem realIp_same (same : SameButCredentials request other) :
    hub.realIp other = hub.realIp request := by
  unfold realIp realClientIp
  rw [same.get (by decide)]

theorem isCrossSite_same (same : SameButCredentials request other) :
    isCrossSiteBrowserRequest other.headers = isCrossSiteBrowserRequest request.headers := by
  have origin : HeaderMap.get request.headers "origin" = HeaderMap.get other.headers "origin" :=
    same.get (by decide)
  have site : HeaderMap.get request.headers "sec-fetch-site" =
      HeaderMap.get other.headers "sec-fetch-site" := same.get (by decide)
  have host : HeaderMap.get request.headers "host" = HeaderMap.get other.headers "host" :=
    same.get (by decide)
  unfold isCrossSiteBrowserRequest
  rw [origin, site, host]

theorem admits_withAuthorization (value : List Char)
    (admitted : hub.admits request id rest = .ok server) :
    hub.admits (withAuthorization request value) id rest = .ok server := by
  obtain ⟨authentic, sameSite, ⟨resolved, isResolved, relayable⟩, marked, isServer⟩ :=
    admits_ok admitted
  have same := same_withAuthorization request value
  have authentic' : ¬(!isLoopback (hub.realIp (withAuthorization request value)) &&
      !hasValidAuth hub.sessionValid hub.port (withAuthorization request value).headers
        hub.token) = true := by
    rcases authentic with loopback | authenticated
    · rw [realIp_same same, loopback]
      exact Bool.false_ne_true
    · rw [hasValidAuth_withAuthorization value authenticated]
      simp
  have marked' : ¬(needsCsrfHeader (withAuthorization request value).method &&
      !hasCsrfHeader (withAuthorization request value).headers) = true := by
    rcases marked with safe | marked
    · rw [← same.method, safe]
      exact Bool.false_ne_true
    · have kept : hasCsrfHeader (withAuthorization request value).headers = true := by
        unfold hasCsrfHeader at marked ⊢
        rw [← same.get (by decide)]
        exact marked
      rw [kept]
      simp
  unfold admits authorizedTarget
  rw [if_neg authentic', if_neg (by simp [isCrossSite_same same, sameSite])]
  simp only [isResolved]
  rw [if_neg (by simp [relayable]), if_neg marked']
  simp only [isServer]

theorem mem_wsHeaders_last {headers : HeaderMap} {host key : List Char}
    (credential : entry.1 ∈ credentialHeaders)
    (kept : (forwardsWsHeader entry.1 && isVisible entry.2) = true) :
    entry ∈ wsHeaders (headers ++ [entry]) host key [] := by
  have other : ∀ name, name ∉ credentialHeaders → entry.1 ≠ name := by
    rintro name notCredential rfl
    exact notCredential credential
  have set : ∀ {opening : HeaderMap} {name : String} {value : List Char},
      name ∉ credentialHeaders → entry ∈ opening → entry ∈ setHeader opening (name, value) := by
    intro opening name value notCredential mem
    exact mem_cons_of_mem _
      (mem_filter.mpr ⟨mem, decide_eq_true (other name notCredential)⟩)
  have one : ([entry] : HeaderMap).filter (fun entry =>
      forwardsWsHeader entry.1 && isVisible entry.2) = [entry] := filter_cons_of_pos kept
  unfold wsHeaders
  simp only [filter_append, foldl_append, one, filter_nil, foldl_cons, foldl_nil]
  refine set (by decide) ?_
  split_ifs
  · exact mem_cons_self
  · exact set (by decide) mem_cons_self

/-- Without a token of the roster, a WebSocket shows the credential of its caller. -/
theorem presentable_of_gated (gated : hub.Gated request)
    (isPath : parseRelayPath request.path = some (id, rest))
    (admitted : hub.admits request id rest = .ok server)
    (usable : (upstreamOrigin hub.authorities server.url).isSome)
    (websocket : isWebsocket request = true)
    (upgraded : hub.upgrade (withoutCookies request) = .ok ()) : hub.Presentable rest server := by
  obtain ⟨base, relayed⟩ := answer_websocket isPath admitted usable websocket upgraded
  obtain ⟨id', rest', server', relaysTo⟩ := gated.relayed _ relayed
  obtain ⟨rfl, rfl⟩ := Prod.mk.injEq .. ▸ some.inj (isPath.symm.trans relaysTo.named.1)
  cases (admits_ok admitted).2.2.2.2.symm.trans relaysTo.named.2
  have nonempty : upstreamToken server ≠ [] := by
    intro empty
    have same := same_withAuthorization request "Bearer".toList
    have upgraded' : hub.upgrade (withoutCookies (withAuthorization request "Bearer".toList)) =
        .ok () := (hub.upgradeSame _ _ same.withoutCookies).symm.trans upgraded
    have isPath' : parseRelayPath (withAuthorization request "Bearer".toList).path =
        some (id, rest) := isPath
    obtain ⟨base', relayed'⟩ := answer_websocket isPath' (admits_withAuthorization _ admitted) usable
      ((isWebsocket_same same).trans websocket) upgraded'
    have shown := relaysTo.same _ same _ relayed'
    have mem : ("authorization", "Bearer".toList) ∈ (wsUpstream hub.key
        (withoutCookies (withAuthorization request "Bearer".toList)) base' rest
        (injectedHeaders (upstreamToken server))).headers := by
      rw [empty]
      have front : (withoutCookies (withAuthorization request "Bearer".toList)).headers =
          (withoutCookies request).headers ++ [("authorization", "Bearer".toList)] := by
        unfold withoutCookies withAuthorization
        rw [filter_append]
        rfl
      unfold wsUpstream
      rw [front]
      exact mem_wsHeaders_last (by decide) (by decide)
    rw [shown] at mem
    exact (relaysTo.credential _ mem (by decide)).2 empty
  have credential : "authorization" ∈ credentialHeaders := by decide
  exact ⟨relaysTo.judged, nonempty,
    (credential_wsHeaders (relaysTo.presented nonempty) credential).1⟩

/-- The relay keeps its promises exactly when the request opens no WebSocket, or opens one for a
path that is written as it resolves to a server whose token can be the credential. -/
theorem relay_gated (wellFormed : WellFormed request) :
    hub.Gated request ↔ hub.OpensPresentable request := by
  constructor
  · intro gated websocket id rest server isPath admitted usable upgraded
    exact presentable_of_gated gated isPath admitted usable websocket upgraded
  · intro presentable
    refine ⟨fun upstream relayed => ?_, fun remote unauthenticated path path' isPath isPath' =>
      (unprobed remote unauthenticated isPath).trans (unprobed remote unauthenticated isPath').symm⟩
    obtain ⟨id, rest, server, origin, isPath, admitted, isOrigin, sent⟩ := answer_relayed relayed
    refine ⟨id, rest, server, ?_⟩
    rcases sent with ⟨http, target, isTarget, rfl⟩ | ⟨websocket, upgraded, base, isBase, rfl⟩
    · exact relaysTo_http wellFormed presentable isPath admitted isOrigin http isTarget relayed
    · exact relaysTo_websocket presentable isPath admitted isOrigin websocket upgraded isBase relayed

/-- A hub whose roster has a server with a token and one without. -/
def twoServers : Hub where
  authorities := .verbatim
  sessionValid := fun _ => false
  port := 8999
  token := "hub-token".toList
  settings := {}
  servers := [
    { id := "a".toList, url := "http://192.0.2.10:58901".toList, token := some "roster".toList },
    { id := "b".toList, url := "http://192.0.2.11:58901".toList }]
  clientIp := .v4 0x7F000001#32
  key := "key".toList
  upgrade := fun _ => .ok ()
  upgradeSame := fun _ _ _ => rfl

def get (path : String) (headers : HeaderMap) : Request where
  method := "GET"
  path := path.toList
  headers

theorem relay_gated_list :
    twoServers.Gated (get "/__srv/a/api/plugins/../list" [("cookie", "c".toList)]) :=
  (relay_gated (by decide)).mpr fun websocket =>
    absurd websocket (by decide)

/-- The token of the hub goes out to a server without one, and a path with dot segments as it
stands. -/
theorem websocket_leaks_and_strays : ¬twoServers.Gated (get "/__srv/b/ws"
      [("upgrade", "websocket".toList), ("authorization", "Bearer hub-token".toList)]) ∧
    ¬twoServers.Gated (get "/__srv/a/ws/../list" [("upgrade", "websocket".toList)]) := by
  constructor
  · intro gated
    have run : (match twoServers.answer (get "/__srv/b/ws"
        [("upgrade", "websocket".toList), ("authorization", "Bearer hub-token".toList)]) with
      | .refused _ _ => false
      | .relayed upstream =>
        decide (("authorization", "Bearer hub-token".toList) ∈ upstream.headers)) = true := by
      decide +kernel
    split at run
    · cases run
    rename_i upstream relayed
    obtain ⟨id, rest, server, relaysTo⟩ := gated.relayed upstream relayed
    have nonempty := (relaysTo.credential _ (of_decide_eq_true run) (by decide)).2
    have named : parseRelayPath "/__srv/b/ws".toList = some ("b".toList, "ws".toList) := by decide
    obtain ⟨rfl, rfl⟩ := Prod.mk.injEq .. ▸ some.inj (named.symm.trans relaysTo.named.1)
    obtain rfl := some.inj relaysTo.named.2
    exact nonempty rfl
  · intro gated
    have run : (match twoServers.answer (get "/__srv/a/ws/../list"
        [("upgrade", "websocket".toList)]) with
      | .refused _ _ => false
      | .relayed upstream => decide (upstream.path = "/ws/../list".toList)) = true := by
      decide +kernel
    split at run
    · cases run
    rename_i upstream relayed
    obtain ⟨id, rest, server, relaysTo⟩ := gated.relayed upstream relayed
    have named : parseRelayPath "/__srv/a/ws/../list".toList =
        some ("a".toList, "ws/../list".toList) := by decide
    obtain ⟨rfl, rfl⟩ := Prod.mk.injEq .. ▸ some.inj (named.symm.trans relaysTo.named.1)
    have judged := relaysTo.judged
    rw [of_decide_eq_true run] at judged
    exact absurd judged (by decide +kernel)

end Hub

end Dinotty.Proxy
