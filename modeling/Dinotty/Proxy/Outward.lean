/-
This file is what the proxy for other sites promises of every request that goes out: it connects to
no address of the own network, and it is the same for every session and every authorization of the
caller.
-/

import Dinotty.Auth.Credentials
import Dinotty.Foundation.Fallible
import Dinotty.Foundation.Url
import Dinotty.Proxy.External

namespace Dinotty.Proxy

open Auth List Option Chars

/-! ### Addresses of the own network -/

/-- Whether an address is in a network, given as an address of it and the length of its prefix. -/
def InNetwork {width : Nat} (bits : BitVec width) (network : Nat × Nat) : Prop :=
  bits.toNat / 2 ^ (width - network.2) = network.1 / 2 ^ (width - network.2)

/-- The networks of version four that are private, of the host, of the link, of the carrier, or
unspecified. -/
def inwardV4 : List (Nat × Nat) :=
  [(10 * 2 ^ 24, 8), (172 * 2 ^ 24 + 16 * 2 ^ 16, 12), (192 * 2 ^ 24 + 168 * 2 ^ 16, 16),
    (127 * 2 ^ 24, 8), (169 * 2 ^ 24 + 254 * 2 ^ 16, 16), (100 * 2 ^ 24 + 64 * 2 ^ 16, 10), (0, 32)]

/-- The networks of version six that are of the host, unspecified, private or of the link. -/
def inwardV6 : List (Nat × Nat) :=
  [(1, 128), (0, 128), (0xfc00 * 2 ^ 112, 7), (0xfe80 * 2 ^ 112, 10)]

/-- The addresses of the own network, in version four, version six, or mapped. -/
inductive Inward : IpAddr → Prop
  | v4 (bits : BitVec 32) (network : Nat × Nat) (listed : network ∈ inwardV4)
      (inside : InNetwork bits network) : Inward (.v4 bits)
  | v6 (bits : BitVec 128) (network : Nat × Nat) (listed : network ∈ inwardV6)
      (inside : InNetwork bits network) : Inward (.v6 bits)
  | mapped (bits : BitVec 128) (low : BitVec 32)
      (maps : bits.toNat = 0xffff * 2 ^ 32 + low.toNat) (inside : Inward (.v4 low)) :
      Inward (.v6 bits)

theorem isPrivateV4_of_inNetwork {bits : BitVec 32} {network : Nat × Nat}
    (listed : network ∈ inwardV4) (inside : InNetwork bits network) :
    isPrivateV4 bits = true := by
  have bounded := bits.isLt
  have unspecified : bits.toNat = 0 → bits = 0#32 := fun zero => BitVec.eq_of_toNat_eq zero
  unfold InNetwork at inside
  simp only [inwardV4, mem_cons, not_mem_nil, or_false] at listed
  unfold isPrivateV4 IpAddr.octets
  simp only [Bool.or_eq_true, Bool.and_eq_true, decide_eq_true_eq]
  rcases listed with rfl | rfl | rfl | rfl | rfl | rfl | rfl <;> norm_num at inside
  · omega
  · omega
  · omega
  · omega
  · omega
  · omega
  · simp [unspecified inside]

theorem isPrivateIp_of_inward {ip : IpAddr} (inward : Inward ip) : isPrivateIp ip = true := by
  cases inward with
  | v4 bits network listed inside => exact isPrivateV4_of_inNetwork listed inside
  | v6 bits network listed inside =>
    have bounded := bits.isLt
    unfold InNetwork at inside
    simp only [inwardV6, mem_cons, not_mem_nil, or_false] at listed
    have unmapped : toIpv4Mapped bits = none := by
      unfold toIpv4Mapped
      rw [if_neg]
      rcases listed with rfl | rfl | rfl | rfl <;> norm_num at inside <;> omega
    unfold isPrivateIp
    simp only [unmapped, Bool.or_eq_true, decide_eq_true_eq]
    rcases listed with rfl | rfl | rfl | rfl <;> norm_num at inside
    · exact .inl (.inl (.inl (BitVec.eq_of_toNat_eq inside)))
    · exact .inl (.inl (.inr (BitVec.eq_of_toNat_eq inside)))
    · exact .inl (.inr (by norm_num; exact inside))
    · exact .inr (by norm_num; exact inside)
  | mapped bits low maps inside =>
    have isMapped : toIpv4Mapped bits = some low := by
      have bounded := low.isLt
      unfold toIpv4Mapped
      rw [if_pos (by omega)]
      refine congrArg some (BitVec.eq_of_toNat_eq ?_)
      rw [BitVec.toNat_ofNat]
      omega
    unfold isPrivateIp
    simp only [isMapped]
    cases inside with
    | v4 _ network listed inside => exact isPrivateV4_of_inNetwork listed inside

/-! ### Where a hop connects to -/

section

variable {library : UrlLibrary}

/-- The host of a URL is a name that has to be looked up. -/
def IsName (url : library.Url) : Prop :=
  ∃ host, library.hostStr url = some host ∧ IpAddr.parse (unbracket host) = none

/-- A request goes out over HTTP to no address of the own network, whatever a second look at its
host answers. -/
def Sent.Confined (sent : Sent library) : Prop :=
  library.scheme sent.url.1 ∈ ["http", "https"] ∧
    ∀ second, ∀ ip ∈ sent.client.connectsTo library sent.url.1 second, ¬Inward ip

variable {host : List Char}

theorem unbracket_eq_self (noOpening : '[' ∉ host) (noClosing : ']' ∉ host) :
    unbracket host = host := by
  have keep : ∀ {c : Char} {text : List Char}, c ∉ text →
      text.dropWhile (fun other => decide (other = c)) = text := by
    intro c text absent
    refine dropWhile_eq_self fun other mem => decide_eq_false ?_
    exact ne_of_mem_of_not_mem mem absent
  unfold unbracket
  rw [keep noOpening, keep (by simpa using noClosing), reverse_reverse]

theorem takeWhile_colon (front back : List Char) :
    (front ++ ':' :: back).takeWhile (· ≠ ':') = front.takeWhile (· ≠ ':') := by
  rw [takeWhile_append, takeWhile_cons_of_neg (by simp), append_nil]
  split
  next whole =>
    exact (( takeWhile_prefix _).eq_of_length whole).symm
  · rfl

theorem takeWhile_of_not_mem {text : List Char} (absent : ':' ∉ text) :
    text.takeWhile (· ≠ ':') = text :=
  takeWhile_eq_self_iff.mpr fun _ mem =>
    decide_eq_true (ne_of_mem_of_not_mem mem absent)

/-- What is behind the first colon of an authority up to the next one. -/
def hostPart (authority : List Char) : List Char :=
  ((authority.dropWhile (· ≠ ':')).drop 1).takeWhile (· ≠ ':')

variable {url : library.Url}

theorem hostPart_proxyAuthority (isWeb : library.IsWeb url)
    (isHost : library.hostStr url = some host) :
    hostPart (library.proxyAuthority url) = '/' :: '/' :: host.takeWhile (· ≠ ':') := by
  have behind : ∀ front : List Char, ':' ∉ front → ∀ back,
      (front ++ ':' :: back).dropWhile (· ≠ ':') = ':' :: back := by
    intro front absent back
    rw [dropWhile_append_of_pos, dropWhile_cons_of_neg (by simp)]
    intro c mem
    exact decide_eq_true (ne_of_mem_of_not_mem mem absent)
  have colonless : ':' ∉ (library.scheme url).toList := by
    rcases mem_cons.mp isWeb with isHttp | isHttps
    · rw [isHttp]
      decide
    · rw [mem_singleton.mp isHttps]
      decide
  have spelled : ∀ front back : List Char, front ++ "://".toList ++ host ++ back =
      front ++ ':' :: ('/' :: '/' :: (host ++ back)) := by
    intro front back
    simp
  unfold hostPart UrlLibrary.proxyAuthority
  rw [isHost, getD_some, spelled, behind _ colonless, drop_one, tail_cons,
    takeWhile_cons_of_pos (by decide), takeWhile_cons_of_pos (by decide)]
  refine congrArg (fun text => '/' :: '/' :: text) ?_
  cases library.port url with
  | none => rw [map_none, getD_none, append_nil]
  | some port => exact takeWhile_colon host _

theorem hostStr_of_proxyAuthority {url other : library.Url} (isWeb : library.IsWeb url)
    (otherIsWeb : library.IsWeb other) (isHost : library.hostStr url = some host)
    (isName : IpAddr.parse (unbracket host) = none)
    (same : library.proxyAuthority other = library.proxyAuthority url) :
    library.hostStr other = some host := by
  obtain ⟨otherHost, isOtherHost⟩ := isSome_iff_exists.mp (library.hosted other otherIsWeb)
  obtain ⟨noOpening, -, noColon⟩ := library.plain url host isHost isName
  have parts := congrArg hostPart same
  rw [hostPart_proxyAuthority otherIsWeb isOtherHost, hostPart_proxyAuthority isWeb isHost] at parts
  have sameFront : otherHost.takeWhile (· ≠ ':') = host := by
    rw [← takeWhile_of_not_mem noColon]
    exact (cons.inj (cons.inj parts).2).2
  rw [isOtherHost]
  refine congrArg some ?_
  by_cases colon : ':' ∈ otherHost
  · -- It would be an address of version six, which starts with a bracket.
    have bracket := library.bracketed other otherHost isOtherHost colon
    obtain ⟨rest, rfl⟩ := head?_eq_some_iff.mp bracket
    rw [takeWhile_cons_of_pos (by decide)] at sameFront
    exact absurd (sameFront ▸ mem_cons_self) noOpening
  · rw [← sameFront, takeWhile_of_not_mem colon]

theorem clientFor_pinned (clients : PinnedClients library) (now : Nat) (url : library.WebUrl)
    (target : ResolvedTarget) (right : target.For library url.1) (isName : IsName url.1) :
    ∃ kept : ResolvedTarget, kept.For library url.1 ∧ kept.addrs.Perm target.addrs ∧
      (clients.clientFor now url target right).2 = pinnedClient kept := by
  obtain ⟨host, isHost, isName⟩ := isName
  unfold PinnedClients.clientFor
  simp only
  split
  next entry found =>
    obtain ⟨found, -⟩ := filter_eq_some_iff.mp found
    have isKey := find?_some found
    rw [Bool.and_eq_true, decide_eq_true_eq, isPerm_iff] at isKey
    obtain ⟨keptUrl, kept, keptWeb, keptRight, authority, perm, client⟩ :=
      clients.honest entry (mem_of_find?_eq_some found)
    refine ⟨kept, ?_, perm.trans isKey.2.symm, client⟩
    have sameHost := hostStr_of_proxyAuthority url.2 keptWeb isHost isName
      (authority.symm.trans isKey.1)
    intro other isOther
    cases isHost.symm.trans isOther
    exact keptRight host sameHost
  · exact ⟨target, right, .refl _, rfl⟩

variable {names : Option (List SocketAddr)} {target : ResolvedTarget}

theorem addrs_of_resolved
    (resolved : resolveTarget library url names = .ok target) (isName : IsName url) :
    names = some target.addrs := by
  obtain ⟨host, isHost, isName⟩ := isName
  unfold resolveTarget at resolved
  simp only [isHost, isName] at resolved
  split at resolved
  · cases resolved
  split at resolved
  · cases resolved
  · cases resolved
    rfl

theorem public_of_resolved (resolved : resolveTarget library url names = .ok target)
    (isHost : library.hostStr url = some host) {ip : IpAddr}
    (isIp : IpAddr.parse (unbracket host) = some ip) : ¬Inward ip := by
  unfold resolveTarget at resolved
  simp only [isHost, isIp] at resolved
  split at resolved
  · cases resolved
  next isPublic =>
    exact fun inward => isPublic (isPrivateIp_of_inward inward)

/-- The request of a hop is confined exactly when the answer was not empty. Otherwise the client is
not pinned. -/
theorem confined_iff {sent : Sent library} {clients : PinnedClients library} {now : Nat}
    (resolved : resolveTarget library sent.url.1 names = .ok target)
    (right : target.For library sent.url.1)
    (isClient : sent.client = (clients.clientFor now sent.url target right).2) :
    sent.Confined ↔ (IsName sent.url.1 → names ≠ some []) := by
  refine ⟨fun confined isName empty => ?_, fun named => ⟨sent.url.2, fun second ip mem => ?_⟩⟩
  · obtain ⟨kept, -, perm, client⟩ := clientFor_pinned clients now sent.url target right isName
    have noAddrs : kept.addrs = [] := by
      have addrs := addrs_of_resolved resolved isName
      rw [empty] at addrs
      rw [← some.inj addrs] at perm
      exact perm.eq_nil
    obtain ⟨host, isHost, isName⟩ := isName
    have loopback : Inward (.v4 0x7F000001#32) :=
      .v4 _ (127 * 2 ^ 24, 8) (by decide) (by unfold InNetwork; decide)
    refine confined.2 [.v4 0x7F000001#32] (.v4 0x7F000001#32) ?_ loopback
    unfold Client.connectsTo
    simp only [isHost, isName, isClient, client, pinnedClient, noAddrs]
    split
    next pinned =>
      split at pinned <;> simp at pinned
    · exact mem_singleton_self _
  · unfold Client.connectsTo at mem
    split at mem
    · cases mem
    rename_i host isHost
    split at mem
    next literal isLiteral =>
      rw [mem_singleton.mp mem]
      exact public_of_resolved resolved isHost isLiteral
    next isName =>
      have lookedUp : IsName sent.url.1 := ⟨host, isHost, isName⟩
      obtain ⟨kept, keptRight, perm, client⟩ :=
        clientFor_pinned clients now sent.url target right lookedUp
      obtain ⟨domain, allPublic⟩ := keptRight host isHost isName
      obtain ⟨noOpening, noClosing, -⟩ := library.plain _ host isHost isName
      rw [unbracket_eq_self noOpening noClosing] at domain
      have some_ : kept.addrs ≠ [] := by
        intro none
        rw [none] at perm
        refine named lookedUp ?_
        rw [addrs_of_resolved resolved lookedUp, perm.symm.eq_nil]
      have pinned : sent.client.pinned = some (host, kept.addrs) := by
        rw [isClient, client, pinnedClient, domain]
        exact if_pos some_
      simp only [pinned, if_pos] at mem
      obtain ⟨addr, isAddr, rfl⟩ := mem_map.mp mem
      intro inward
      have isPublic := allPublic addr isAddr
      rw [isPrivateIp_of_inward inward] at isPublic
      cases isPublic

/-! ### Runs of hops -/

/-- If a name has to be looked up for the hop, the answer is not empty. -/
def Visit.Named (visit : Visit library) (hop : Hop library) : Prop :=
  visit.outcome = none → IsName visit.url.1 → hop.names ≠ some []

variable (rewriteForm : List UInt8 → List Char → Option (List UInt8)) (headers : HeaderMap)
  (contentType : List Char)

section

variable (visit : Visit library)
include visit

theorem follow_sent (reply : Reply) : (visit.follow reply).sent = visit.sent := by
  unfold Visit.follow
  split
  · rfl
  · split_ifs <;> rfl

variable (hop : Hop library)

/-- What one hop sends: nothing, or one request with a client for its target. -/
theorem step_sent :
    ((visit.step rewriteForm headers contentType hop).sent = visit.sent ∧
      (visit.outcome = none → ∃ refusal,
        resolveTarget library visit.url.1 hop.names = .error refusal)) ∨
    ∃ (sent : Sent library) (target : ResolvedTarget) (right : target.For library sent.url.1),
      (visit.step rewriteForm headers contentType hop).sent = visit.sent ++ [sent] ∧
      visit.outcome = none ∧ sent.url = visit.url ∧ sent.headers = headers ∧
      resolveTarget library sent.url.1 hop.names = .ok target ∧
      sent.client = ((hop.meanwhile visit.clients).clientFor hop.now sent.url target right).2 := by
  unfold Visit.step
  split
  next ended =>
    refine .inl ⟨rfl, fun open_ => ?_⟩
    rw [open_] at ended
    cases ended
  rename_i notOver
  have open_ := not_isSome_iff_eq_none.mp notOver
  split
  next refusal resolved =>
    exact .inl ⟨rfl, fun _ => ⟨refusal, resolved⟩⟩
  next target resolved =>
    have right := Visit.resolveTarget_for resolved
    refine .inr ⟨{
        url := visit.url
        client := ((hop.meanwhile visit.clients).clientFor hop.now visit.url target right).2
        method := visit.method
        headers
        body := sentBody rewriteForm contentType visit.url visit.body },
      target, right, ?_, open_, rfl, rfl, resolved, rfl⟩
    simp only
    split
    · rfl
    · exact follow_sent _ _

theorem step_confined :
    (∀ sent ∈ (visit.step rewriteForm headers contentType hop).sent, sent.Confined) ↔
      (∀ sent ∈ visit.sent, sent.Confined) ∧ visit.Named hop := by
  rcases step_sent rewriteForm headers contentType visit hop with
    ⟨nothing, refused⟩ | ⟨sent, target, right, one, open_, isUrl, -, resolved, isClient⟩
  · rw [nothing]
    refine (and_iff_left fun open_ isName empty => ?_).symm
    obtain ⟨refusal, refused⟩ := refused open_
    obtain ⟨host, isHost, isName⟩ := isName
    unfold resolveTarget at refused
    simp only [isHost, isName, empty, any_nil] at refused
    cases refused
  · rw [one, forall_mem_append, forall_mem_singleton, confined_iff resolved right isClient, isUrl]
    exact and_congr_right fun _ => ⟨fun named _ => named, fun named => named open_⟩

theorem run_confined (hops : List (Hop library)) :
    (∀ sent ∈ (visit.run rewriteForm headers contentType hops).sent, sent.Confined) ↔
      (∀ sent ∈ visit.sent, sent.Confined) ∧ Fallible.Meets
          (fun visit hop => some (Visit.step rewriteForm visit headers contentType hop))
          Visit.Named visit hops := by
  induction hops generalizing visit with
  | nil => exact (and_iff_left trivial).symm
  | cons hop rest ih =>
    rw [Fallible.meets_cons_iff rfl, ← and_assoc,
      ← step_confined rewriteForm headers contentType visit hop]
    exact ih _

theorem run_sent_prefix (hops : List (Hop library)) :
    visit.sent <+: (visit.run rewriteForm headers contentType hops).sent := by
  induction hops generalizing visit with
  | nil => exact prefix_rfl
  | cons hop rest ih =>
    refine IsPrefix.trans ?_ (ih _)
    rcases step_sent rewriteForm headers contentType visit hop with
      ⟨nothing, -⟩ | ⟨sent, _, _, one, -⟩
    · exact nothing ▸ prefix_rfl
    · rw [one]
      exact prefix_append _ _

theorem run_head (none_ : visit.sent = []) (open_ : visit.outcome = none) (hop : Hop library)
    (rest : List (Hop library))
    (resolved : resolveTarget library visit.url.1 hop.names = .ok target) :
    ∃ sent, (visit.run rewriteForm headers contentType (hop :: rest)).sent.head? = some sent ∧
      sent.headers = headers := by
  rcases step_sent rewriteForm headers contentType visit hop with
    ⟨-, refused⟩ | ⟨sent, _, _, one, -, -, isHeaders, -⟩
  · obtain ⟨refusal, refused⟩ := refused open_
    rw [resolved] at refused
    cases refused
  · refine ⟨sent, ?_, isHeaders⟩
    obtain ⟨later, whole⟩ := run_sent_prefix rewriteForm headers contentType
      (visit.step rewriteForm headers contentType hop) rest
    rw [one, none_] at whole
    have unfolded : visit.run rewriteForm headers contentType (hop :: rest) =
        (visit.step rewriteForm headers contentType hop).run rewriteForm headers contentType rest :=
      rfl
    rw [unfolded, ← whole]
    rfl

theorem run_refused (rest : List (Hop library)) (none_ : visit.sent = [])
    {refusal : Refusal} (refused : resolveTarget library visit.url.1 hop.names = .error refusal)
    (open_ : visit.outcome = none) :
    (visit.run rewriteForm headers contentType (hop :: rest)).sent = [] := by
  have ended : ∀ (hops : List (Hop library)) (visit : Visit library), visit.outcome.isSome = true →
      visit.run rewriteForm headers contentType hops = visit := by
    intro hops
    induction hops with
    | nil => exact fun _ _ => rfl
    | cons hop rest ih =>
      intro visit isOver
      have still : visit.step rewriteForm headers contentType hop = visit := by
        unfold Visit.step
        rw [if_pos isOver]
      have unfolded : visit.run rewriteForm headers contentType (hop :: rest) =
          (visit.step rewriteForm headers contentType hop).run rewriteForm headers contentType
            rest := rfl
      rw [unfolded, still]
      exact ih visit isOver
  have stepped : visit.step rewriteForm headers contentType hop =
      { visit with outcome := some refusal.outcome } := by
    unfold Visit.step
    rw [if_neg (by rw [open_]; nofun)]
    split
    next other refused' =>
      rw [refused] at refused'
      cases refused'
      rfl
    next resolved =>
      rw [refused] at resolved
      cases resolved
  have unfolded : visit.run rewriteForm headers contentType (hop :: rest) =
      (visit.step rewriteForm headers contentType hop).run rewriteForm headers contentType rest :=
    rfl
  rw [unfolded, stepped, ended rest _ rfl]
  exact none_

end

end

/-! ### Credentials of the caller -/

def sessionPrefix (port : Nat) : List Char := (sessionCookieName port).toList ++ ['=']

/-- A part of a cookie header that is the session cookie. -/
def IsSessionPair (port : Nat) (pair : List Char) : Prop :=
  ∃ lead value, (∀ c ∈ lead, Chars.isWhitespace c = true) ∧
    pair = lead ++ sessionPrefix port ++ value

/-- Two parts that differ in the value of the session cookie at most. -/
inductive SamePair (port : Nat) : List Char → List Char → Prop
  | refl (pair : List Char) : SamePair port pair pair
  | session (lead value other : List Char) (spaces : ∀ c ∈ lead, Chars.isWhitespace c = true) :
      SamePair port (lead ++ sessionPrefix port ++ value) (lead ++ sessionPrefix port ++ other)

def SameCookie (port : Nat) (value other : List Char) : Prop :=
  List.Forall₂ (SamePair port) (value.splitOn ';') (other.splitOn ';')

/-- Two headers that differ in the values of the session cookie and the authorization at most. -/
inductive SameHeader (port : Nat) : String × List Char → String × List Char → Prop
  | refl (entry : String × List Char) : SameHeader port entry entry
  | authorization (value other : List Char) :
      SameHeader port ("authorization", value) ("authorization", other)
  | cookie (value other : List Char) (same : SameCookie port value other) :
      SameHeader port ("cookie", value) ("cookie", other)

/-- Two requests that differ in the values of the session cookie and the authorization at most. -/
structure SameButSession (port : Nat) (request other : ExternalRequest) : Prop where
  url : other.url = request.url
  method : other.method = request.method
  body : other.body = request.body
  headers : List.Forall₂ (SameHeader port) request.headers other.headers

/-- A cookie header is text, values of the session cookie aside. -/
def Spelled (port : Nat) (value : List Char) : Prop :=
  ∀ pair ∈ value.splitOn ';', isVisible pair = true ∨
    ∃ lead value, (∀ c ∈ lead, Chars.isWhitespace c = true) ∧
      isVisible (lead ++ sessionPrefix port) = true ∧ pair = lead ++ sessionPrefix port ++ value

/-- No authorization, and no session cookie in a header that would go out. -/
structure Anonymous (port : Nat) (headers : HeaderMap) : Prop where
  authorization : ∀ value, ("authorization", value) ∉ headers
  cookie : ∀ value, ("cookie", value) ∈ headers → Spelled port value →
    ∀ pair ∈ value.splitOn ';', ¬IsSessionPair port pair

section

variable {port : Nat}

theorem isVisible_append (front back : List Char) :
    isVisible (front ++ back) = (isVisible front && isVisible back) := all_append

theorem isVisible_intercalate {pieces : List (List Char)} {sep : Char}
    (visible : isVisible [sep] = true) :
    isVisible ([sep].intercalate pieces) = true ↔ ∀ piece ∈ pieces, isVisible piece = true := by
  induction pieces with
  | nil => simp [isVisible]
  | cons first rest ih =>
    cases rest with
    | nil => simp
    | cons second later =>
      rw [intercalate_cons_cons, isVisible_append, isVisible_append, visible, forall_mem_cons, ← ih]
      simp

theorem isVisible_iff_pieces (value : List Char) :
    isVisible value = true ↔ ∀ piece ∈ value.splitOn ';', isVisible piece = true := by
  have sep : isVisible [';'] = true := by decide
  rw [← isVisible_intercalate sep, intercalate_splitOn]

theorem exists_of_forall₂ {First Second : Type} {relation : First → Second → Prop}
    {firsts : List First} {seconds : List Second} (related : Forall₂ relation firsts seconds)
    {first : First} (mem : first ∈ firsts) : ∃ second ∈ seconds, relation first second := by
  induction related with
  | nil => cases mem
  | cons head tail ih =>
    rcases mem_cons.mp mem with rfl | later
    · exact ⟨_, mem_cons_self, head⟩
    · obtain ⟨second, isSecond, holds⟩ := ih later
      exact ⟨second, mem_cons_of_mem _ isSecond, holds⟩

variable {value other : List Char}

theorem spelled_of_same (same : SameCookie port value other) (visible : isVisible other = true) :
    Spelled port value := by
  intro pair isPair
  obtain ⟨otherPair, isOther, samePair⟩ := exists_of_forall₂ same isPair
  have pairVisible := (isVisible_iff_pieces other).mp visible otherPair isOther
  cases samePair with
  | refl => exact .inl pairVisible
  | session lead value other spaces =>
    rw [isVisible_append, Bool.and_eq_true] at pairVisible
    exact .inr ⟨lead, value, spaces, pairVisible.1, rfl⟩

theorem spelled_of_visible (visible : isVisible value = true) :
    Spelled port value := fun pair isPair =>
  .inl ((isVisible_iff_pieces value).mp visible pair isPair)

theorem eq_of_sessionless (same : SameCookie port value other)
    (sessionless : ∀ pair ∈ value.splitOn ';', ¬IsSessionPair port pair) : value = other := by
  have pieces : value.splitOn ';' = other.splitOn ';' := by
    unfold SameCookie at same
    generalize value.splitOn ';' = pairs at same sessionless
    generalize other.splitOn ';' = others at same
    induction same with
    | nil => rfl
    | cons head tail ih =>
      rw [ih fun pair isPair => sessionless pair (mem_cons_of_mem _ isPair)]
      cases head with
      | refl => rfl
      | session lead value other spaces =>
        exact absurd ⟨lead, value, spaces, rfl⟩ (sessionless _ mem_cons_self)
  calc
    value = [';'].intercalate (value.splitOn ';') := (intercalate_splitOn ';').symm
    _ = [';'].intercalate (other.splitOn ';') := congrArg _ pieces
    _ = other := intercalate_splitOn ';'

variable {headers : HeaderMap}

/-- What goes out of anonymous headers does not depend on the values. -/
theorem Anonymous.forwardedHeaders_eq {others : HeaderMap} (anonymous : Anonymous port headers)
    (same : Forall₂ (SameHeader port) headers others) :
    forwardedHeaders headers = forwardedHeaders others := by
  induction same with
  | nil => rfl
  | cons head tail ih =>
    have later := ih
      ⟨fun value mem => anonymous.authorization value (mem_cons_of_mem _ mem),
        fun value mem => anonymous.cookie value (mem_cons_of_mem _ mem)⟩
    unfold forwardedHeaders at later ⊢
    rw [filterMap_cons, filterMap_cons, later]
    cases head with
    | refl => rfl
    | authorization value other =>
      exact absurd mem_cons_self (anonymous.authorization value)
    | cookie value other same =>
      have sameText : toStr value = toStr other := by
        by_cases spelled : Spelled port value
        · rw [eq_of_sessionless same (anonymous.cookie value mem_cons_self spelled)]
        · have hidden : isVisible value ≠ true := fun visible =>
            spelled (spelled_of_visible visible)
          have otherHidden : isVisible other ≠ true := fun visible =>
            spelled (spelled_of_same same visible)
          unfold toStr
          rw [if_neg hidden, if_neg otherHidden]
      simp only [sameText]

theorem contentType_same {others : HeaderMap} (same : Forall₂ (SameHeader port) headers others) :
    contentType headers = contentType others := by
  have sameGet : HeaderMap.get headers "content-type" = HeaderMap.get others "content-type" := by
    unfold HeaderMap.get
    induction same with
    | nil => rfl
    | cons head tail ih =>
      cases head with
      | refl entry => rw [lookup_cons, lookup_cons, ih]
      | authorization | cookie => exact ih
  unfold contentType
  rw [sameGet]

/-- Pieces that are text, session values aside, can be made text by other values. -/
theorem exists_visible {pieces : List (List Char)} (spelled : ∀ pair ∈ pieces, ';' ∉ pair ∧
      (isVisible pair = true ∨ ∃ lead value, (∀ c ∈ lead, isWhitespace c = true) ∧
        isVisible (lead ++ sessionPrefix port) = true ∧
        pair = lead ++ sessionPrefix port ++ value)) :
    ∃ others, Forall₂ (SamePair port) pieces others ∧
      ∀ other ∈ others, isVisible other = true ∧ ';' ∉ other := by
  induction pieces with
  | nil => exact ⟨[], .nil, nofun⟩
  | cons pair rest ih =>
    obtain ⟨others, same, visible⟩ := ih fun later isLater =>
      spelled later (mem_cons_of_mem _ isLater)
    obtain ⟨noSemicolon, isVisible_ | ⟨lead, value, spaces, frontVisible, rfl⟩⟩ :=
      spelled pair mem_cons_self
    · exact ⟨pair :: others, .cons (.refl pair) same,
        forall_mem_cons.mpr ⟨⟨isVisible_, noSemicolon⟩, visible⟩⟩
    · refine ⟨(lead ++ sessionPrefix port ++ []) :: others,
        .cons (.session lead value [] spaces) same,
        forall_mem_cons.mpr ⟨⟨?_, fun mem => noSemicolon ?_⟩, visible⟩⟩
      · rw [append_nil]
        exact frontVisible
      · rw [append_nil] at mem
        exact mem_append_left value mem

/-- A cookie header with a session that goes out can go out with two values of the session. -/
theorem exists_two_values (spelled : Spelled port value) {pair : List Char}
    (isPair : pair ∈ value.splitOn ';') (isSession : IsSessionPair port pair) :
    ∃ first second, SameCookie port value first ∧ SameCookie port value second ∧
      isVisible first = true ∧ isVisible second = true ∧ first ≠ second := by
  have clean : ∀ piece ∈ value.splitOn ';', ';' ∉ piece := fun _ => not_mem_of_mem_splitOn
  obtain ⟨lead, old, spaces, frontVisible, rfl⟩ : ∃ lead old, (∀ c ∈ lead, isWhitespace c = true) ∧
      isVisible (lead ++ sessionPrefix port) = true ∧ pair = lead ++ sessionPrefix port ++ old := by
    rcases spelled pair isPair with visible | apart
    · obtain ⟨lead, old, spaces, rfl⟩ := isSession
      rw [isVisible_append, Bool.and_eq_true] at visible
      exact ⟨lead, old, spaces, visible.1, rfl⟩
    · exact apart
  obtain ⟨front, back, whole⟩ := append_of_mem isPair
  have known : ∀ piece ∈ front ++ (lead ++ sessionPrefix port ++ old) :: back, ';' ∉ piece ∧
      (isVisible piece = true ∨ ∃ lead value, (∀ c ∈ lead, isWhitespace c = true) ∧
        isVisible (lead ++ sessionPrefix port) = true ∧
        piece = lead ++ sessionPrefix port ++ value) := by
    rw [← whole]
    exact fun piece isPiece => ⟨clean piece isPiece, spelled piece isPiece⟩
  obtain ⟨fronts, sameFront, frontsVisible⟩ := exists_visible fun piece isPiece =>
    known piece (mem_append_left _ isPiece)
  obtain ⟨backs, sameBack, backsVisible⟩ := exists_visible fun piece isPiece =>
    known piece (mem_append_right _ (mem_cons_of_mem _ isPiece))
  let pieces (c : Char) := fronts ++ (lead ++ sessionPrefix port ++ [c]) :: backs
  have noSemicolon : ';' ∉ lead ++ sessionPrefix port := fun mem =>
    clean _ isPair (mem_append_left _ mem)
  have piecesVisible : ∀ c, isVisible [c] = true → c ≠ ';' → ∀ piece ∈ pieces c,
      isVisible piece = true ∧ ';' ∉ piece := by
    intro c visible notSemicolon piece isPiece
    rcases mem_append.mp isPiece with isFront | isRest
    · exact frontsVisible piece isFront
    rcases mem_cons.mp isRest with rfl | isBack
    · rw [isVisible_append, frontVisible, visible]
      refine ⟨rfl, fun mem => ?_⟩
      rcases mem_append.mp mem with isLead | isLast
      · exact noSemicolon isLead
      · exact notSemicolon (mem_singleton.mp isLast).symm
    · exact backsVisible piece isBack
  have splits : ∀ c, isVisible [c] = true → c ≠ ';' →
      ([';'].intercalate (pieces c)).splitOn ';' = pieces c := fun c visible notSemicolon =>
    splitOn_intercalate ';'
      (fun piece isPiece => (piecesVisible c visible notSemicolon piece isPiece).2)
      (by simp [pieces])
  have same : ∀ c, isVisible [c] = true → c ≠ ';' →
      SameCookie port value ([';'].intercalate (pieces c)) := by
    intro c visible notSemicolon
    unfold SameCookie
    rw [splits c visible notSemicolon, whole]
    exact rel_append sameFront (.cons (.session lead old [c] spaces) sameBack)
  refine ⟨[';'].intercalate (pieces 'a'), [';'].intercalate (pieces 'b'),
    same 'a' (by decide) (by decide), same 'b' (by decide) (by decide),
    (isVisible_intercalate (by decide)).mpr fun piece isPiece =>
      (piecesVisible 'a' (by decide) (by decide) piece isPiece).1,
    (isVisible_intercalate (by decide)).mpr fun piece isPiece =>
      (piecesVisible 'b' (by decide) (by decide) piece isPiece).1, fun equal => ?_⟩
  have samePieces : pieces 'a' = pieces 'b' := by
    rw [← splits 'a' (by decide) (by decide), equal, splits 'b' (by decide) (by decide)]
  have sameLast := append_cancel_left (cons.inj (append_cancel_left samePieces)).1
  cases sameLast

variable {front back : HeaderMap}

theorem sameHeaders_replace {entry other : String × List Char} (same : SameHeader port entry other)
    :
    Forall₂ (SameHeader port) (front ++ entry :: back) (front ++ other :: back) := by
  have refl : ∀ headers : HeaderMap, Forall₂ (SameHeader port) headers headers :=
    fun headers => forall₂_same.mpr fun entry _ => .refl entry
  exact rel_append (refl front) (.cons same (refl back))

theorem forwardedHeaders_replace {name : String}
    (kept : name ∉ ["host", "connection", "upgrade", "origin", "referer", "accept-encoding",
      "content-length"]) (visible : isVisible value = true) :
    forwardedHeaders (front ++ (name, value) :: back) =
      forwardedHeaders front ++ (name, value) :: forwardedHeaders back := by
  unfold forwardedHeaders
  rw [filterMap_append, filterMap_cons]
  simp only [if_neg kept, toStr, if_pos visible, map_some]

theorem forwardedHeaders_differ {name : String}
    (kept : name ∉ ["host", "connection", "upgrade", "origin", "referer", "accept-encoding",
      "content-length"]) (visible : isVisible value = true) (otherVisible : isVisible other = true)
    (differ : value ≠ other) : forwardedHeaders (front ++ (name, value) :: back) ≠
      forwardedHeaders (front ++ (name, other) :: back) := by
  rw [forwardedHeaders_replace kept visible, forwardedHeaders_replace kept otherVisible]
  intro same
  have sameEntry := (cons.inj (append_cancel_left same)).1
  exact differ (Prod.mk.injEq .. ▸ sameEntry).2

theorem anonymous_of_same (same : ∀ others, Forall₂ (SameHeader port) headers others →
      forwardedHeaders others = forwardedHeaders headers) : Anonymous port headers where
  authorization value member := by
    obtain ⟨front, back, rfl⟩ := append_of_mem member
    have first := same _ (sameHeaders_replace (.authorization value ['a']))
    have second := same _ (sameHeaders_replace (.authorization value ['b']))
    exact forwardedHeaders_differ (by decide) (by decide) (by decide) (by decide)
      (first.trans second.symm)
  cookie value member spelled pair isPair isSession := by
    obtain ⟨front, back, rfl⟩ := append_of_mem member
    obtain ⟨one, two, sameOne, sameTwo, oneVisible, twoVisible, differ⟩ :=
      exists_two_values spelled isPair isSession
    have first := same _ (sameHeaders_replace (.cookie value one sameOne))
    have second := same _ (sameHeaders_replace (.cookie value two sameTwo))
    exact forwardedHeaders_differ (by decide) oneVisible twoVisible differ
      (first.trans second.symm)

end

/-! ### The promise -/

section

variable {library : UrlLibrary} (rewriteForm : List UInt8 → List Char → Option (List UInt8))
  (clients : PinnedClients library) (port : Nat) (request : ExternalRequest)
  (names : Option (List SocketAddr)) (hops : List (Hop library))

/-- What is promised of a request: every hop is confined, and what goes out is the same for all
values of the session cookie and the authorization. -/
structure Outward : Prop where
  confined : ∀ sent ∈ (externalProxyHandler rewriteForm clients request names hops).sent,
    sent.Confined
  silent : ∀ other, SameButSession port request other →
    (externalProxyHandler rewriteForm clients other names hops).sent =
      (externalProxyHandler rewriteForm clients request names hops).sent

/-- The names of all hops have answers, and if the first hop sends anything, the headers are
anonymous. -/
structure Discreet : Prop where
  named : ∀ url body, accept library request names = .ok (url, body) → Fallible.Meets
      (fun visit hop => some (Visit.step rewriteForm visit (forwardedHeaders request.headers)
        (contentType request.headers) hop))
      Visit.Named { url, method := request.method, body, clients } (hops.take 10)
  anonymous : ∀ url body, accept library request names = .ok (url, body) → ∀ hop ∈ hops.head?,
    ∀ target, resolveTarget library url.1 hop.names = .ok target → Anonymous port request.headers

variable {rewriteForm clients port request names hops}

theorem handler_of_admitted {url : library.WebUrl} {body : List UInt8}
    (admitted : accept library request names = .ok (url, body)) :
    (externalProxyHandler rewriteForm clients request names hops).sent =
      (Visit.run rewriteForm { url, method := request.method, body, clients }
        (forwardedHeaders request.headers) (contentType request.headers) (hops.take 10)).sent := by
  unfold externalProxyHandler
  rw [admitted]

theorem handler_of_refused {refusal : Refusal}
    (refused : accept library request names = .error refusal) :
    (externalProxyHandler rewriteForm clients request names hops).sent = [] := by
  unfold externalProxyHandler
  rw [refused]

theorem SameButSession.accept {other : ExternalRequest} (same : SameButSession port request other) :
    Proxy.accept library other names = Proxy.accept library request names := by
  unfold Proxy.accept
  rw [same.url, same.body]

theorem discreet_of_outward (outward : Outward rewriteForm clients port request names hops) :
    Discreet rewriteForm clients port request names hops := by
  refine ⟨fun url body admitted => ?_, fun url body admitted hop isFirst target resolved => ?_⟩
  · have confined := outward.confined
    rw [handler_of_admitted admitted] at confined
    exact ((run_confined _ _ _ _ _).mp confined).2
  · refine anonymous_of_same fun headers same => ?_
    have sameRequest : SameButSession port request { request with headers } := ⟨rfl, rfl, rfl, same⟩
    have silent := outward.silent _ sameRequest
    rw [handler_of_admitted admitted,
      handler_of_admitted (sameRequest.accept.trans admitted)] at silent
    obtain ⟨rest, rfl⟩ := head?_eq_some_iff.mp isFirst
    rw [take_succ_cons] at silent
    obtain ⟨sent, isSent, isHeaders⟩ := run_head rewriteForm (forwardedHeaders request.headers)
      (contentType request.headers) { url, method := request.method, body, clients } rfl rfl hop
      (rest.take 9) resolved
    obtain ⟨other, isOther, isOthers⟩ := run_head rewriteForm (forwardedHeaders headers)
      (contentType headers) { url, method := request.method, body, clients } rfl rfl hop
      (rest.take 9) resolved
    rw [← isHeaders, ← isOthers]
    have sameSent := isOther.symm.trans ((congrArg head? silent).trans isSent)
    rw [some.inj sameSent]

theorem outward_of_discreet (discreet : Discreet rewriteForm clients port request names hops) :
    Outward rewriteForm clients port request names hops := by
  cases admitted : accept library request names with
  | error refusal =>
    refine ⟨fun sent isSent => ?_, fun other same => ?_⟩
    · rw [handler_of_refused admitted] at isSent
      cases isSent
    · rw [handler_of_refused admitted, handler_of_refused (same.accept.trans admitted)]
  | ok start =>
    obtain ⟨url, body⟩ := start
    refine ⟨?_, fun other same => ?_⟩
    · rw [handler_of_admitted admitted]
      exact (run_confined _ _ _ _ _).mpr ⟨nofun, discreet.named url body admitted⟩
    · rw [handler_of_admitted admitted, handler_of_admitted (same.accept.trans admitted),
        same.method]
      cases hops with
      | nil => rfl
      | cons hop rest =>
        rw [take_succ_cons]
        cases resolved : resolveTarget library url.1 hop.names with
        | error refusal =>
          rw [run_refused _ _ _ _ _ _ rfl resolved rfl, run_refused _ _ _ _ _ _ rfl resolved rfl]
        | ok target =>
          have anonymous := discreet.anonymous url body admitted hop rfl target resolved
          rw [anonymous.forwardedHeaders_eq same.headers, contentType_same same.headers]

/-- The proxy for other sites keeps its promise exactly for discreet requests. -/
theorem external_outward : Outward rewriteForm clients port request names hops ↔
      Discreet rewriteForm clients port request names hops :=
  ⟨discreet_of_outward, outward_of_discreet⟩

end

/-- URLs whose authorities are in the form in which they are written back, and whose hosts are names
or addresses of version four. -/
def plainUrls : UrlLibrary where
  Url := Url
  parse := Url.parse .verbatim
  join _ := Url.parse .verbatim
  scheme url := if url.secure then "https" else "http"
  hostStr url := some ((url.authority.takeWhile (· ≠ ':')).filter (· ∉ ['[', ']']))
  port url := Chars.parseUnsigned 65536 ((url.authority.dropWhile (· ≠ ':')).drop 1)
  asStr url := url.origin ++ url.path ++ Url.querySuffix url.query
  hosted _ _ := rfl
  plain url host isHost _ := by
    cases isHost
    refine ⟨by simp, by simp, fun colon => ?_⟩
    exact absurd (mem_takeWhile_imp (mem_of_mem_filter colon)) (by decide)
  bracketed url host isHost colon := by
    cases isHost
    exact absurd (mem_takeWhile_imp (mem_of_mem_filter colon)) (by decide)

def pageOutside (headers : HeaderMap) : ExternalRequest where
  url := "https://example.com/".toList
  method := "GET"
  headers
  body := some []

def outsideAddr : SocketAddr := ⟨.v4 0x5DB8D822#32, 443⟩

theorem external_outward_anonymous :
    @Outward plainUrls (fun _ _ => none) {} 8999 (pageOutside [("accept", "*/*".toList)])
      (some [outsideAddr]) [{ names := some [outsideAddr], reply := .ok { status := 200 } }] := by
  refine external_outward.mpr ⟨fun url body admitted => ?_, fun _ _ _ _ _ _ _ => ?_⟩
  · exact ⟨fun _ _ => by decide, fun _ _ => trivial⟩
  · refine ⟨fun value member => ?_, fun value member => ?_⟩
    · have sameName : "authorization" = "accept" := congrArg Prod.fst (mem_singleton.mp member)
      exact absurd sameName (by decide)
    · have sameName : "cookie" = "accept" := congrArg Prod.fst (mem_singleton.mp member)
      exact absurd sameName (by decide)

/-- The session cookie goes out, and a name without an address is looked up a second time. -/
theorem external_leaks_and_strays : ¬@Outward plainUrls (fun _ _ => none) {} 8999
      (pageOutside [("cookie", "dinotty_session_8999=secret".toList)])
      (some [outsideAddr]) [{ names := some [outsideAddr], reply := .ok { status := 200 } }] ∧
    ¬@Outward plainUrls (fun _ _ => none) {} 8999 (pageOutside [])
      (some []) [{ names := some [], reply := .ok { status := 200 } }] := by
  constructor
  · intro outward
    have anonymous := (discreet_of_outward outward).anonymous _ _ rfl _ rfl _ rfl
    refine anonymous.cookie _ mem_cons_self (spelled_of_visible (by decide)) _
      mem_cons_self ⟨[], "secret".toList, nofun, ?_⟩
    decide
  · intro outward
    have named := ((discreet_of_outward outward).named _ _ rfl).1
    exact named rfl ⟨"example.com".toList, by decide, by decide⟩ rfl

end Dinotty.Proxy
