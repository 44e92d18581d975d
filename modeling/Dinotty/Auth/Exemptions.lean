/-
This file compares the paths that pass the outer authentication without a credential with the routes
of both servers.
-/

import Dinotty.Auth.Middleware
import Dinotty.Auth.Routes

namespace Dinotty.Auth

open List Option

/-- The handlers for everybody: the page with its parts, and what a login needs. -/
def publicHandlers : List Handler :=
  [.index, .staticHandler, .iconHandler, .manifestHandler, .swHandler, .logo, .tokenConfigured,
    .login, .requestCode, .desktopIndex, .desktopStaticHandler, .desktopIconHandler,
    .desktopManifestHandler, .desktopLogo, .desktopTokenConfigured, .desktopCheckAuth,
    .desktopRequestCode]

/-- The handlers that have a gate of their own: the preview proxy and the relay. -/
def gatedHandlers : List Handler :=
  [.proxyProxyHandlerRoot, .proxyProxyHandlerWildcard, .proxyRelayDispatchHandler]

/-- Whether all handlers of a route can do without the outer authentication. -/
def Route.open (route : Route) : Bool :=
  route.sessionsToken ||
    route.handlers.all fun (_, handler) => handler ∈ publicHandlers || handler ∈ gatedHandlers

/-! ### The shapes of exempt paths -/

/-- Patterns of all paths that are forwarded without a credential. The last one is for paths that
start with several slashes. -/
def exemptShapes : List Pattern :=
  [[""], ["api", "token-configured"], ["manifest.json"], ["sw.js"], ["logo.png"],
    ["assets", .rest "path"], ["icons", .rest "path"], ["ws", "events"],
    ["preview", .rest "path"], ["__srv", .rest "rest"], ["api", "auth"],
    ["api", "auth", "request-code"], ["api", "sessions", .param "pane_id", "run"],
    ["api", "sessions", .param "pane_id", "send"], ["api", "sessions", .param "pane_id", "read"],
    ["api", "tokens"], ["api", "tokens", .rest "rest"], ["mcp", "sse"], ["mcp", "message"],
    ["", .rest "path"]]

variable {path : List Char}

theorem shape_of_eq {text : String} (shape : Pattern) (known : shape ∈ exemptShapes)
    (admitted : (pathSegments text.toList).all shape.admits = true) (same : path = text.toList) :
    ∀ segments ∈ pathSegments path, ∃ shape ∈ exemptShapes, shape.admits segments = true := by
  subst same
  intro segments parsed
  rw [parsed] at admitted
  exact ⟨shape, known, admitted⟩

theorem shape_of_startsWith {front : String} (directory name : String)
    (known : [Segment.static directory, .rest name] ∈ exemptShapes)
    (noSlash : '/' ∉ directory.toList) (spelled : front.toList = '/' :: directory.toList ++ ['/'])
    (starts : startsWith front path = true) :
    ∀ segments ∈ pathSegments path, ∃ shape ∈ exemptShapes, shape.admits segments = true := by
  intro segments parsed
  refine ⟨_, known, ?_⟩
  obtain ⟨later, isLater⟩ := isSome_iff_exists.mp starts
  have whole := stripPrefix_eq_some.mp isLater
  rw [spelled, cons_append, cons_append, append_assoc, singleton_append]
    at whole
  rw [← whole, pathSegments_cons] at parsed
  have parts : (directory.toList ++ '/' :: later).splitOn '/' =
      directory.toList :: later.splitOn '/' :=
    splitOn_append_cons_self_of_not_mem noSlash later
  obtain ⟨segment, others, isCons⟩ := exists_cons_of_ne_nil (splitOn_ne_nil '/' later)
  rw [parts, isCons, mem_some_iff] at parsed
  subst parsed
  simp [Pattern.admits, Segment.admits]

theorem shape_of_exempt (exempt : isExemptPath path = true) :
    ∀ segments ∈ pathSegments path, ∃ shape ∈ exemptShapes, shape.admits segments = true := by
  simp only [isExemptPath, Bool.or_eq_true, decide_eq_true_eq] at exempt
  rcases exempt with
    ((((((((root | configured) | manifest) | worker) | logo) | assets) | icons) | events) | preview) |
      relay
  · exact shape_of_eq [""] (by decide) (by decide) root
  · exact shape_of_eq ["api", "token-configured"] (by decide) (by decide) configured
  · exact shape_of_eq ["manifest.json"] (by decide) (by decide) manifest
  · exact shape_of_eq ["sw.js"] (by decide) (by decide) worker
  · exact shape_of_eq ["logo.png"] (by decide) (by decide) logo
  · exact shape_of_startsWith "assets" "path" (by decide) (by decide) (by decide) assets
  · exact shape_of_startsWith "icons" "path" (by decide) (by decide) (by decide) icons
  · exact shape_of_eq ["ws", "events"] (by decide) (by decide) events
  · exact shape_of_startsWith "preview" "path" (by decide) (by decide) (by decide) preview
  · exact shape_of_startsWith "__srv" "rest" (by decide) (by decide) (by decide) relay

theorem shape_of_login (login : isLoginPath path = true) :
    ∀ segments ∈ pathSegments path, ∃ shape ∈ exemptShapes, shape.admits segments = true := by
  simp only [isLoginPath, Bool.or_eq_true, decide_eq_true_eq] at login
  rcases login with auth | requestCode
  · exact shape_of_eq ["api", "auth"] (by decide) (by decide) auth
  · exact shape_of_eq ["api", "auth", "request-code"] (by decide) (by decide) requestCode

/-- Slashes in front make no difference to which paths are agent managed, but they do to routes. -/
theorem shape_of_agentManaged (managed : isAgentManagedPath path = true) :
    ∀ segments ∈ pathSegments path, ∃ shape ∈ exemptShapes, shape.admits segments = true := by
  intro segments parsed
  obtain ⟨tail, rfl⟩ := exists_of_pathSegments parsed
  rw [pathSegments_cons, mem_some_iff] at parsed
  subst parsed
  by_cases doubled : ∃ later, tail = '/' :: later
  · obtain ⟨later, rfl⟩ := doubled
    obtain ⟨segment, others, isCons⟩ := exists_cons_of_ne_nil (splitOn_ne_nil '/' later)
    have parts : ('/' :: later).splitOn '/' = [] :: segment :: others := by
      rw [← isCons]
      exact splitOn_append_cons_self_of_not_mem not_mem_nil later
    refine ⟨["", .rest "path"], by decide, ?_⟩
    rw [parts]
    rfl
  · have trimmed : trimStartSlashes ('/' :: tail) = tail := by
      cases tail with
      | nil => rfl
      | cons c later =>
        have notSlash : c ≠ '/' := by
          rintro rfl
          exact doubled ⟨later, rfl⟩
        simp [trimStartSlashes, notSlash]
    unfold isAgentManagedPath at managed
    rw [trimmed] at managed
    split at managed
    next sess action isSession =>
      rw [isSession]
      simp only [Bool.or_eq_true, decide_eq_true_eq] at managed
      rcases managed with (rfl | rfl) | rfl
      · exact ⟨["api", "sessions", .param "pane_id", "run"], by decide, rfl⟩
      · exact ⟨["api", "sessions", .param "pane_id", "send"], by decide, rfl⟩
      · exact ⟨["api", "sessions", .param "pane_id", "read"], by decide, rfl⟩
    next others isTokens =>
      rw [isTokens]
      cases others with
      | nil => exact ⟨["api", "tokens"], by decide, rfl⟩
      | cons id others => exact ⟨["api", "tokens", .rest "rest"], by decide, rfl⟩
    next action isMcp =>
      rw [isMcp]
      simp only [Bool.or_eq_true, decide_eq_true_eq] at managed
      rcases managed with rfl | rfl
      · exact ⟨["mcp", "sse"], by decide, rfl⟩
      · exact ⟨["mcp", "message"], by decide, rfl⟩
    · cases managed

/-! ### The routes -/

/-- Every route that has a path in common with a shape is open. -/
def shapesOpen (routes : List Route) : Bool :=
  routes.all fun route =>
    exemptShapes.all (fun shape => !shape.overlaps route.pattern) || route.open

theorem serverRoutes_open : shapesOpen serverRoutes = true := by decide +kernel

theorem desktopRoutes_open : shapesOpen desktopRoutes = true := by decide +kernel


/-- What forwards a request whose verdict comes before the lockout. -/
theorem earlyVerdict_forwarded {settings : AuthSettings} {token : List Char} {clientIp : IpAddr}
    {request : Request} {passage : Passage} (configured : token ≠ [])
    (forwarded : earlyVerdict settings token clientIp request = some (.forwarded passage)) :
    (passage = .exempt ∧ isExemptPath request.path = true) ∨ passage = .whitelisted ∨
      (passage = .login ∧ isLoginPath request.path = true) := by
  unfold earlyVerdict at forwarded
  rw [if_neg configured] at forwarded
  split at forwarded
  next exempt =>
    cases forwarded
    exact .inl ⟨rfl, exempt⟩
  · simp only at forwarded
    split at forwarded
    · cases forwarded
    · split at forwarded
      · split at forwarded
        · cases forwarded
        · cases forwarded
          exact .inr (.inl rfl)
      · split at forwarded
        next login =>
          cases forwarded
          exact .inr (.inr ⟨rfl, login⟩)
        · cases forwarded

theorem authMiddleware_forwarded {settings : AuthSettings} {sessionValid : List Char → Bool}
    {port : Nat} {token : List Char} {lockouts : Lockouts} {now : Nat} {clientIp : IpAddr}
    {request : Request} {passage : Passage} (configured : token ≠ [])
    (forwarded : (authMiddleware settings sessionValid port token lockouts now clientIp request).2 =
      .forwarded passage) :
    (passage = .exempt ∧ isExemptPath request.path = true) ∨
      (passage = .login ∧ isLoginPath request.path = true) ∨
      (passage = .agentManaged ∧ isAgentManagedPath request.path = true) ∨
      passage ∈ [Passage.whitelisted, .session, .token] := by
  unfold authMiddleware at forwarded
  split at forwarded
  next verdict early =>
    rw [show verdict = .forwarded passage from forwarded] at early
    rcases earlyVerdict_forwarded configured early with exempt | rfl | login
    · exact .inl exempt
    · exact .inr (.inr (.inr (by decide)))
    · exact .inr (.inl login)
  · simp only at forwarded
    split at forwarded
    · cases forwarded
    · split at forwarded
      next managed =>
        cases forwarded
        exact .inr (.inr (.inl ⟨rfl, managed⟩))
      · split at forwarded
        · cases forwarded
          exact .inr (.inr (.inr (by decide)))
        · split at forwarded
          · cases forwarded
            exact .inr (.inr (.inr (by decide)))
          · cases forwarded

theorem open_of_shape {routes : List Route} (allOpen : shapesOpen routes = true) {route : Route}
    (mounted : route ∈ routes) {shape : Pattern} (known : shape ∈ exemptShapes)
    {segments : List String} (shaped : shape.admits segments = true)
    (admitted : route.pattern.admits segments = true) : route.open = true := by
  have checked := List.all_eq_true.mp allOpen route mounted
  rcases (Bool.or_eq_true _ _).mp checked with apart | isOpen
  · have noOverlap := List.all_eq_true.mp apart shape known
    rw [Pattern.overlaps_of_admits shaped admitted] at noOverlap
    cases noOverlap
  · exact isOpen

/-- With a token configured, a request that is forwarded without a whitelisted address, a session or
the token reaches a public handler, a route whose own middleware finds out whose token it carries, a
proxy with a gate of its own, or nothing. This holds for every router that takes the fixed segments
of routes literally. -/
theorem exemptions_match_routes {settings : AuthSettings} {sessionValid : List Char → Bool}
    {port : Nat} {token : List Char} {lockouts : Lockouts} {now : Nat} {clientIp : IpAddr}
    {request : Request} {passage : Passage} (configured : token ≠ [])
    (forwarded : (authMiddleware settings sessionValid port token lockouts now clientIp request).2 =
      .forwarded passage)
    (unaccepted : passage ∉ [Passage.whitelisted, .session, .token]) {routes : List Route}
    (known : routes = serverRoutes ∨ routes = desktopRoutes) (router : Router routes)
    {route : Route} {handler : Handler}
    (dispatched : router.dispatch request.method request.path = some (route, handler)) :
    handler ∈ publicHandlers ∨ route.sessionsToken = true ∨ handler ∈ gatedHandlers := by
  obtain ⟨mounted, admitted, filter, answers, -⟩ := router.sound _ _ _ _ dispatched
  obtain ⟨segments, parsed, admitted⟩ := (Option.any_eq_true _ _).mp admitted
  have shaped : ∃ shape ∈ exemptShapes, shape.admits segments = true := by
    rcases authMiddleware_forwarded configured forwarded with ⟨-, exempt⟩ | ⟨-, login⟩ |
      ⟨-, managed⟩ | accepted
    · exact shape_of_exempt exempt segments parsed
    · exact shape_of_login login segments parsed
    · exact shape_of_agentManaged managed segments parsed
    · exact (unaccepted accepted).elim
  obtain ⟨shape, isShape, shaped⟩ := shaped
  have allOpen : shapesOpen routes = true := by
    rcases known with rfl | rfl
    · exact serverRoutes_open
    · exact desktopRoutes_open
  have isOpen := open_of_shape allOpen mounted isShape shaped admitted
  rcases (Bool.or_eq_true _ _).mp isOpen with underMiddleware | handlersOpen
  · exact .inr (.inl underMiddleware)
  · have handlerOpen := List.all_eq_true.mp handlersOpen _ answers
    rcases (Bool.or_eq_true _ _).mp handlerOpen with isPublic | isGated
    · exact .inl (of_decide_eq_true isPublic)
    · exact .inr (.inr (of_decide_eq_true isGated))

theorem exemptions_match_routes_tokens : ∃ route handler,
      (Router.first serverRoutes).dispatch "POST" "/api/tokens".toList = some (route, handler) ∧
      (handler ∈ publicHandlers ∨ route.sessionsToken = true ∨ handler ∈ gatedHandlers) := by
  refine ⟨_, _, rfl, ?_⟩
  exact @exemptions_match_routes {} (fun _ => false) 8999 "secret".toList {} 0 (.v4 0xCB007107#32)
    { method := "POST", path := "/api/tokens".toList } .agentManaged (by decide) (by decide +kernel)
    (by decide) _ (.inl rfl) (Router.first serverRoutes) _ _ rfl

end Dinotty.Auth
