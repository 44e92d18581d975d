/-
This file is the address that a request comes from. It proves for which X-Forwarded-For headers it
is the address that the trusted proxy has appended.
-/

import Dinotty.Foundation.IpAddr

namespace Dinotty.Auth

open List Chars

/-! ### Headers -/

/-- The headers of a request, names in lower case. A value is the text that its bytes encode. -/
abbrev HeaderMap := List (String × List Char)

def HeaderMap.get (headers : HeaderMap) (name : String) : Option (List Char) :=
  headers.lookup name

/-- Whether every byte is visible ASCII or a tab. -/
def isVisible (value : List Char) : Bool :=
  value.all fun c => (32 ≤ c.toNat && c.toNat < 127) || c = '\t'

/-- A header value as text, unless it is opaque. -/
def toStr (value : List Char) : Option (List Char) := if isVisible value then some value else none

/-! ### Whitelists -/

/-- Match `192.168.0.*`, for addresses of version four only. -/
def matchesWildcard (ip : IpAddr) (pattern : List Char) : Bool :=
  match ip with
  | .v6 _ => false
  | .v4 bits =>
      let parts := pattern.splitOn '.'
      if parts.length ≠ 4 then false
      else
        (parts.zip (IpAddr.octets bits)).all fun (part, octet) =>
          part = ['*'] || Chars.parseUnsigned 256 part = some octet

/-- The mask of a prefix of `width` bits. -/
def prefixMask (width prefixLen : Nat) : BitVec width :=
  if prefixLen = 0 then 0 else BitVec.allOnes width <<< (width - prefixLen)

/-- Match `192.168.1.0/24`. -/
def matchesCidr (ip : IpAddr) (cidr : List Char) : Bool :=
  match Chars.splitOnce '/' cidr with
  | none => false
  | some (addrStr, prefixStr) =>
      match Chars.parseUnsigned (2 ^ 32) prefixStr with
      | none => false
      | some prefixLen =>
          match ip, IpAddr.parse addrStr with
          | .v4 ipBits, some (.v4 netBits) =>
              if 32 < prefixLen then false
              else ipBits &&& prefixMask 32 prefixLen = netBits &&& prefixMask 32 prefixLen
          | .v6 ipBits, some (.v6 netBits) =>
              if 128 < prefixLen then false
              else ipBits &&& prefixMask 128 prefixLen = netBits &&& prefixMask 128 prefixLen
          | _, _ => false

/-- Whether one entry of a list matches: a CIDR block, a wildcard or an address. -/
def matchesEntry (ip : IpAddr) (entry : List Char) : Bool :=
  let entry := Chars.trim entry
  if '/' ∈ entry then matchesCidr ip entry
  else if '*' ∈ entry then matchesWildcard ip entry
  else IpAddr.parse entry = some ip

def isIpWhitelisted (ip : IpAddr) (whitelist : List (List Char)) : Bool :=
  whitelist.any (matchesEntry ip)

/-- Whether an address is of the host itself. -/
def isLoopback : IpAddr → Bool
  | .v4 bits => (IpAddr.octets bits).head? = some 127
  | .v6 bits => bits = 1#128

/-! ### The client -/

def firstUntrusted (trustedProxies : List (List Char)) (parts : List (List Char)) : Option IpAddr :=
  parts.findSome? fun part =>
    (IpAddr.parse (Chars.trim part)).filter fun ip => !isIpWhitelisted ip trustedProxies

def realClientIp (headers : HeaderMap) (connIp : IpAddr) (trustedProxies : List (List Char)) :
    IpAddr :=
  if !isIpWhitelisted connIp trustedProxies then connIp
  else
    match headers.get "x-forwarded-for" with
    | none => connIp
    | some xff =>
        match toStr xff with
        | none => connIp
        | some listed => (firstUntrusted trustedProxies (listed.splitOn ',')).getD connIp

/-! ### What a client can write -/

/-- The client counts as the one at `client`: on any whitelist, and as the host itself. -/
structure Resolves (headers : HeaderMap) (connIp : IpAddr) (trustedProxies : List (List Char))
    (client : IpAddr) : Prop where
  address : realClientIp headers connIp trustedProxies = client
  whitelisted : ∀ whitelist,
    isIpWhitelisted (realClientIp headers connIp trustedProxies) whitelist =
      isIpWhitelisted client whitelist
  loopback : isLoopback (realClientIp headers connIp trustedProxies) = isLoopback client

variable {client : IpAddr}

theorem resolves_iff {headers : HeaderMap} {connIp : IpAddr} {trustedProxies : List (List Char)} :
    Resolves headers connIp trustedProxies client ↔
      realClientIp headers connIp trustedProxies = client := by
  refine ⟨Resolves.address, ?_⟩
  rintro rfl
  exact ⟨rfl, fun _ => rfl, rfl⟩

/-- A character that a header value may have and that no separator or white space is. -/
def Solid (c : Char) : Prop := 32 < c.toNat ∧ c.toNat < 127 ∧ c ≠ ','

theorem Solid.notWhitespace {c : Char} (solid : Solid c) : isWhitespace c = false := by
  obtain ⟨low, high, -⟩ := solid
  simp only [isWhitespace, Bool.or_eq_false_iff, Bool.and_eq_false_iff, decide_eq_false_iff_not]
  omega

variable {spelling : List Char}

theorem solid_of_parse (parsed : IpAddr.parse spelling = some client) :
    ∀ c ∈ spelling, Solid c := by
  refine IpAddr.parse_forall (fun c digit => ?_) ⟨by decide, by decide, by decide⟩
    ⟨by decide, by decide, by decide⟩ parsed
  have range := toNat_of_digitValue digit
  refine ⟨by omega, by omega, ?_⟩
  rintro rfl
  exact absurd range (by decide)

theorem splitOn_appended {front : List Char} (solid : ∀ c ∈ spelling, Solid c) :
    (front ++ ", ".toList ++ spelling).splitOn ',' = front.splitOn ',' ++ [' ' :: spelling] := by
  have noComma : ',' ∉ ' ' :: spelling := by
    intro mem
    rcases mem_cons.mp mem with same | later
    · exact absurd same (by decide)
    · exact (solid ',' later).2.2 rfl
  rw [append_assoc]
  change (front ++ ',' :: (' ' :: spelling)).splitOn ',' = _
  rw [splitOn_append_cons_self, splitOn_eq_singleton noComma]

theorem isVisible_appended {front : List Char} (solid : ∀ c ∈ spelling, Solid c) :
    isVisible (front ++ ", ".toList ++ spelling) = isVisible front := by
  have back : isVisible spelling = true := by
    refine List.all_eq_true.mpr fun c mem => ?_
    obtain ⟨low, high, -⟩ := solid c mem
    simp only [Bool.or_eq_true, Bool.and_eq_true, decide_eq_true_eq]
    omega
  unfold isVisible at back ⊢
  rw [all_append, all_append, back]
  simp

theorem firstUntrusted_appended {trustedProxies parts : List (List Char)}
    (parsed : IpAddr.parse spelling = some client)
    (untrusted : isIpWhitelisted client trustedProxies = false) :
    firstUntrusted trustedProxies (parts ++ [' ' :: spelling]) =
      some ((firstUntrusted trustedProxies parts).getD client) := by
  have trimmed : trim (' ' :: spelling) = spelling := by
    rw [trim_cons_whitespace (by decide)]
    exact trim_eq_self fun c mem => (solid_of_parse parsed c mem).notWhitespace
  have last : firstUntrusted trustedProxies [' ' :: spelling] = some client := by
    unfold firstUntrusted
    rw [findSome?_cons, trimmed, parsed, Option.filter_some, untrusted]
    rfl
  unfold firstUntrusted at last ⊢
  rw [findSome?_append, last]
  cases List.findSome? _ parts with
  | none | some => rfl

/-- Behind an untrusted peer no header changes the address. Behind a trusted one, the client that
the proxy has appended counts as itself exactly when the header is not opaque and what the client
has sent lists no other untrusted address in front of it. -/
theorem real_client_ip_resolves (trustedProxies : List (List Char)) (connIp : IpAddr) :
    (isIpWhitelisted connIp trustedProxies = false →
      ∀ headers, Resolves headers connIp trustedProxies connIp) ∧
    (isIpWhitelisted connIp trustedProxies = true →
      ∀ (headers : HeaderMap) (front spelling : List Char) (client : IpAddr),
        headers.get "x-forwarded-for" = some (front ++ ", ".toList ++ spelling) →
        IpAddr.parse spelling = some client →
        isIpWhitelisted client trustedProxies = false →
        (Resolves headers connIp trustedProxies client ↔ isVisible front = true ∧
            ∀ other ∈ firstUntrusted trustedProxies (front.splitOn ','), other = client)) := by
  constructor
  · intro untrusted headers
    rw [resolves_iff, realClientIp, untrusted]
    rfl
  · intro trusted headers front spelling client sent parsed untrusted
    have solid := solid_of_parse parsed
    rw [resolves_iff, realClientIp, trusted, sent]
    simp only [Bool.not_true, Bool.false_eq_true, if_false]
    unfold toStr
    rw [isVisible_appended solid]
    by_cases visible : isVisible front = true
    · rw [if_pos visible]
      simp only [splitOn_appended solid, firstUntrusted_appended parsed untrusted,
        Option.getD_some, visible, true_and]
      cases firstUntrusted trustedProxies (front.splitOn ',') with
      | none | some => simp
    · -- An opaque header is passed over, and the peer is trusted where the client is not.
      rw [if_neg visible]
      refine iff_of_false (fun same => ?_) fun holds => visible holds.1
      rw [show connIp = client from same, untrusted] at trusted
      cases trusted

theorem real_client_ip_resolves_proxy : Resolves
      [("x-forwarded-for", "unknown, 10.0.0.1".toList ++ ", ".toList ++ "203.0.113.7".toList)]
      (.v4 0x0A000001#32) ["10.0.0.0/8".toList] (.v4 0xCB007107#32) :=
  ((real_client_ip_resolves ["10.0.0.0/8".toList] (.v4 0x0A000001#32)).2 (by decide +kernel) _
    "unknown, 10.0.0.1".toList "203.0.113.7".toList (.v4 0xCB007107#32) rfl (by decide +kernel)
    (by decide +kernel)).mpr ⟨by decide +kernel, by decide +kernel⟩

/-- Behind the proxy at 10.0.0.1 the client at 203.0.113.7 sends `X-Forwarded-For: 127.0.0.1` and
counts as the host itself. -/
theorem forwarded_loopback_spoofs : isIpWhitelisted (.v4 0x0A000001#32) ["10.0.0.1".toList] = true ∧
    isIpWhitelisted (.v4 0xCB007107#32) ["10.0.0.1".toList] = false ∧
    IpAddr.parse "203.0.113.7".toList = some (.v4 0xCB007107#32) ∧
    realClientIp [("x-forwarded-for", "127.0.0.1".toList ++ ", ".toList ++ "203.0.113.7".toList)]
      (.v4 0x0A000001#32) ["10.0.0.1".toList] = .v4 0x7F000001#32 ∧
    isLoopback (.v4 0x7F000001#32) = true := by
  decide +kernel

end Dinotty.Auth
