/-
This file is the management of tokens on behalf of a token and of the tokens obtained with it, over
any run of requests.
-/

import Dinotty.Auth.Tokens
import Dinotty.Foundation.Fallible

namespace Dinotty.Auth

open List Option KeyMap

/-- The tokens, the clock, the texts of the tokens at hand, and the identifiers of the tokens that
have been revoked. -/
structure Delegation where
  manager : TokenManager
  now : Nat
  obtained : List (List Char)
  revokedIds : List String := []

/-- A request that carries one of the tokens at hand, with what is drawn for it and the outcome of
saving; a revocation by the owner of the server; the clean-up; and the passing of time. -/
inductive DelegationAction where
  | request (headers : HeaderMap) (query : Option (List Char)) (busy : Bool) (raw : List Char)
      (id : String) (saved : Except String Unit) (request : TokenRequest)
  | revoke (id : String) (saved : Except String Unit)
  | cleanup
  | wait (seconds : Nat)

namespace Delegation

variable (hash : List Char → String)

/-- Drawn at random, a text is not the global token, and neither it nor the identifier is in
use or has been. -/
def Unused (state : Delegation) (raw : List Char) (id : String) : Prop :=
  raw ≠ state.manager.globalToken ∧ id ∉ state.manager.tokens ∧ id ∉ state.revokedIds ∧
    (∀ entry ∈ state.manager.tokens.entries, entry.2.tokenHash ≠ hash raw) ∧
    hash raw ∉ state.manager.revoked

instance (state : Delegation) (raw : List Char) (id : String) :
    Decidable (state.Unused hash raw id) := inferInstanceAs (Decidable (_ ∧ _))

def handedOut : Except TokenError TokenAnswer → List (List Char)
  | .ok (.created text _) => [text]
  | _ => []

/-- Go on with the tokens that a section leaves, and note the ones it has revoked. -/
def proceed (state : Delegation) (manager : TokenManager) (texts : List (List Char)) : Delegation :=
  { state with
    manager
    obtained := texts ++ state.obtained
    revokedIds := state.manager.tokens.keys.filter (· ∉ manager.tokens) ++ state.revokedIds }

/-- Take one step. A request has to carry a token that is at hand. -/
def step (state : Delegation) : DelegationAction → Option Delegation
  | .request headers query busy raw id saved request =>
      if ¬ (presentedToken headers query).any (· ∈ state.obtained) ∨
          ¬ state.Unused hash raw id then none
      else
        match sessionsTokenMiddleware hash (fun _ => false) 0 state.manager state.now busy
          headers query with
        | (manager, .error _) => some { state with manager }
        | (manager, .ok info) =>
            let (after, answer) :=
              handleTokenRequest hash manager state.now raw id saved info request
            some (state.proceed after (handedOut answer))
  | .revoke id saved => some (state.proceed (state.manager.revoke state.now id saved).1 [])
  | .cleanup => some { state with manager := state.manager.cleanup state.now }
  | .wait seconds => some { state with now := state.now + seconds }

def start (manager : TokenManager) (now : Nat) (raw : List Char) : Delegation where
  manager
  now
  obtained := [raw]

end Delegation

/-! ### What the sections do to the tokens -/

namespace TokenManager

variable {hash : List Char → String} {manager : TokenManager}

/-- Every token is stored under its own identifier. -/
def Keyed (manager : TokenManager) : Prop :=
  ∀ id token, manager.tokens.lookup id = some token → token.id = id

/-- The tokens of `after` come from those of `before` and from the new identifiers. -/
structure Derives (before after : TokenManager) (new : List String) : Prop where
  keyed : before.Keyed → after.Keyed
  absent : before.Keyed → ∀ id, id ∉ new → before.tokens.lookup id = none →
    after.tokens.lookup id = none
  globalToken : after.globalToken = before.globalToken

theorem Derives.refl (manager : TokenManager) (new : List String) : manager.Derives manager new :=
  ⟨fun keyed => keyed, fun _ _ _ absent => absent, rfl⟩

theorem Derives.trans {first second third : TokenManager} {new later : List String}
    (before : first.Derives second new) (after : second.Derives third later) (sub : new ⊆ later) :
    first.Derives third later :=
  ⟨fun keyed => after.keyed (before.keyed keyed),
    fun keyed id unused absent => after.absent (before.keyed keyed) id unused
      (before.absent keyed id (fun mem => unused (sub mem)) absent),
    after.globalToken.trans before.globalToken⟩

theorem derives_insert {id : String} {token : AgentToken} {new : List String}
    (named : token.id = id) (known : id ∈ new ∨ (manager.tokens.lookup id).isSome) :
    manager.Derives { manager with tokens := manager.tokens.insert id token } new := by
  refine ⟨fun keyed other found lookup => ?_, fun _ other unused absent => ?_, rfl⟩
  · rw [lookup_insert] at lookup
    split at lookup
    next same =>
      rw [← some.inj lookup, named, same]
    · exact keyed other found lookup
  · rw [lookup_insert, if_neg ?_]
    · exact absent
    · rintro rfl
      rcases known with mem | held
      · exact unused mem
      · rw [absent] at held
        cases held

theorem derives_sub {tokens : KeyMap String AgentToken} {revoked : KeyMap String Nat}
    (sub : ∀ id token, tokens.lookup id = some token → manager.tokens.lookup id = some token)
    (new : List String) : manager.Derives { manager with tokens, revoked } new := by
  refine ⟨fun keyed id token lookup => keyed id token (sub id token lookup),
    fun _ id _ absent => ?_, rfl⟩
  cases lookup : tokens.lookup id with
  | none => rfl
  | some token =>
    rw [sub id token lookup] at absent
    cases absent

theorem lookup_of_findByHash {tokenHash : String} {token : AgentToken}
    (found : manager.findByHash tokenHash = some token) :
    token.tokenHash = tokenHash ∧ ∃ id, manager.tokens.lookup id = some token := by
  have mem := mem_of_find?_eq_some found
  have hashed := find?_some found
  obtain ⟨⟨id, _⟩, entry, rfl⟩ := List.mem_map.mp mem
  exact ⟨of_decide_eq_true hashed, id, lookup_eq_some_iff.mpr entry⟩

theorem touch_derives (now : Nat) (raw : List Char) (keyed : manager.Keyed) :
    manager.Derives (manager.touch hash now raw) [] := by
  unfold touch
  split
  · exact .refl manager []
  next token found =>
    obtain ⟨_, id, lookup⟩ := lookup_of_findByHash found
    refine derives_insert rfl (.inr ?_)
    rw [keyed id token lookup, lookup]
    rfl

theorem revoke_derives (now : Nat) (id : String) (saved : Except String Unit) :
    manager.Derives (manager.revoke now id saved).1 [] := by
  unfold revoke
  split
  · exact .refl manager []
  · refine derives_sub (fun other token lookup => ?_) []
    exact (of_lookup_erase lookup).2

theorem cleanup_derives (now : Nat) : manager.Derives (manager.cleanup now) [] := by
  refine derives_sub (fun id token lookup => ?_) []
  rw [lookup_retain] at lookup
  exact (filter_eq_some_iff.mp lookup).1

theorem update_derives (keyed : manager.Keyed) (id : String) (saved : Except String Unit)
    (req : UpdateTokenRequest) : manager.Derives (manager.update id saved req).1 [] := by
  unfold update
  split
  · exact .refl manager []
  next token lookup =>
    exact derives_insert (keyed id token lookup) (.inr (isSome_of_eq_some lookup))

def IsAgent (manager : TokenManager) (raw : List Char) : Prop :=
  ¬ (manager.globalToken ≠ [] ∧ constantTimeEq raw manager.globalToken = true)

instance (manager : TokenManager) (raw : List Char) : Decidable (manager.IsAgent raw) :=
  inferInstanceAs (Decidable (¬ _))

/-- A token that is valid and not the global one is stored, neither revoked nor expired. -/
theorem validate_eq_some {now : Nat} {busy : Bool} {raw : List Char} {info : TokenInfo}
    (valid : manager.validate hash now busy raw = some info) (agent : manager.IsAgent raw) :
    ∃ token, manager.findByHash (hash raw) = some token ∧
      (token.expiresAt.any fun expiry => expiry < now) = false ∧
      info = {
        tokenId := token.id
        isGlobal := false
        capabilities := token.capabilities
        scopes := token.scopes } := by
  unfold validate at valid
  split at valid
  · cases valid
  split at valid
  next isGlobal =>
    exact absurd isGlobal agent
  split at valid
  · cases valid
  rename_i token found
  split at valid
  · cases valid
  split at valid
  · cases valid
  rename_i unexpired
  exact ⟨token, found, Bool.not_eq_true _ ▸ unexpired, (some.inj valid).symm⟩

end TokenManager

theorem requireCapability_cases {Answer : Type} {cap : String} {manager : TokenManager}
    {info : TokenInfo} {handler res : TokenManager × Except TokenError Answer}
    (handled : requireCapability cap manager info handler = res) :
    (info.hasCapability cap = false ∧ res = (manager, .error (capabilityDenied cap))) ∨
      (info.hasCapability cap = true ∧ res = handler) := by
  unfold requireCapability at handled
  cases held : info.hasCapability cap with
  | false =>
    rw [held] at handled
    exact .inl ⟨rfl, handled.symm⟩
  | true =>
    rw [held] at handled
    exact .inr ⟨rfl, handled.symm⟩

section

variable {hash : List Char → String} {manager after : TokenManager} {now : Nat}
  {raw : List Char} {id : String} {saved : Except String Unit} {info : TokenInfo}
  {request : TokenRequest} {answer : Except TokenError TokenAnswer}

theorem handleTokenRequest_refused (powerless : info.hasCapability "settings:write" = false) :
    handleTokenRequest hash manager now raw id saved info request =
      (manager, .error (capabilityDenied "settings:write")) := by
  have denied : (!info.hasCapability "settings:write") = true := by rw [powerless]; rfl
  cases request with
  | create | update | revoke => exact if_pos denied

theorem handleTokenRequest_derives (keyed : manager.Keyed)
    (handled : handleTokenRequest hash manager now raw id saved info request = (after, answer)) :
    manager.Derives after [id] ∧ ∀ text ∈ Delegation.handedOut answer, text = raw := by
  have refused : (after, answer) = (manager, .error (capabilityDenied "settings:write")) →
      manager.Derives after [id] ∧ ∀ text ∈ Delegation.handedOut answer, text = raw := by
    intro same
    obtain ⟨rfl, rfl⟩ := Prod.mk.injEq .. ▸ same
    exact ⟨.refl after [id], nofun⟩
  cases request with
  | create req =>
    rcases requireCapability_cases handled with ⟨_, same⟩ | ⟨_, same⟩
    · exact refused same
    split at same
    · cases same
      exact ⟨.refl _ [id], nofun⟩
    · have ins : manager.Derives (manager.create hash now raw id saved req).1 [id] :=
        TokenManager.derives_insert rfl (.inl mem_cons_self)
      split at same
      next created text token outcome =>
        cases same
        rw [outcome] at ins
        refine ⟨ins, ?_⟩
        intro given mem
        have drawn : saved.map (fun _ => (raw, TokenManager.newToken hash now raw id req)) =
          .ok (text, token) := congrArg Prod.snd outcome
        rw [mem_singleton.mp mem]
        cases saved with
        | error => cases drawn
        | ok => exact (congrArg Prod.fst (Except.ok.inj drawn)).symm
      next created msg outcome =>
        cases same
        rw [outcome] at ins
        exact ⟨ins, nofun⟩
  | update target req =>
    rcases requireCapability_cases handled with ⟨_, same⟩ | ⟨_, same⟩
    · exact refused same
    have updated : manager.Derives (manager.update target saved req).1 [id] :=
      (TokenManager.update_derives keyed target saved req).trans (.refl _ [id]) (by simp)
    split at same
    next changed token outcome =>
      cases same
      rw [outcome] at updated
      exact ⟨updated, nofun⟩
    next changed msg outcome =>
      cases same
      rw [outcome] at updated
      exact ⟨updated, nofun⟩
  | revoke target =>
    rcases requireCapability_cases handled with ⟨_, same⟩ | ⟨_, same⟩
    · exact refused same
    have revoked : manager.Derives (manager.revoke now target saved).1 [id] :=
      (TokenManager.revoke_derives now target saved).trans (.refl _ [id]) (by simp)
    split at same
    next changed outcome =>
      cases same
      rw [outcome] at revoked
      exact ⟨revoked, nofun⟩
    next changed msg outcome =>
      cases same
      rw [outcome] at revoked
      exact ⟨revoked, nofun⟩

theorem sessionsTokenMiddleware_ok {busy : Bool} {headers : HeaderMap}
    {query : Option (List Char)} {presented : List Char}
    (carries : presentedToken headers query = some presented) (agent : manager.IsAgent presented)
    {sessionValid : List Char → Bool} {port : Nat}
    (passed : sessionsTokenMiddleware hash sessionValid port manager now busy headers query =
      (after, .ok info)) :
    manager.validate hash now busy presented = some info ∧
      after = manager.touch hash now presented := by
  unfold sessionsTokenMiddleware at passed
  rw [carries] at passed
  dsimp only at passed
  rw [if_neg agent] at passed
  split at passed
  next known valid =>
    obtain ⟨rfl, same⟩ := Prod.mk.injEq .. ▸ passed
    exact ⟨valid.trans (congrArg some (Except.ok.inj same)), rfl⟩
  · cases passed

theorem sessionsTokenMiddleware_error {busy : Bool} {headers : HeaderMap}
    {query : Option (List Char)} {sessionValid : List Char → Bool} {port : Nat}
    {error : TokenError}
    (refused : sessionsTokenMiddleware hash sessionValid port manager now busy headers query =
      (after, .error error)) : after = manager := by
  unfold sessionsTokenMiddleware at refused
  split at refused
  · split_ifs at refused <;> exact (congrArg Prod.fst refused).symm
  · split_ifs at refused
    · cases refused
    · split at refused
      · cases refused
      · exact (congrArg Prod.fst refused).symm

end

/-! ### Runs -/

namespace Delegation

variable {hash : List Char → String} {state next : Delegation}

/-- Tokens are stored under their identifiers, the revoked ones are gone, and none of the tokens at
hand is the global one. -/
structure Orderly (state : Delegation) : Prop where
  keyed : state.manager.Keyed
  gone : ∀ id ∈ state.revokedIds, state.manager.tokens.lookup id = none
  agents : ∀ raw ∈ state.obtained, state.manager.IsAgent raw

theorem Orderly.proceed (orderly : state.Orderly) {manager : TokenManager} {new : List String}
    {texts : List (List Char)} (derives : state.manager.Derives manager new)
    (unused : ∀ id ∈ new, id ∉ state.revokedIds) (agents : ∀ text ∈ texts, manager.IsAgent text) :
    (state.proceed manager texts).Orderly where
  keyed := derives.keyed orderly.keyed
  gone id member := by
    rcases mem_append.mp member with vanished | before
    · have absent := of_decide_eq_true (mem_filter.mp vanished).2
      exact AList.lookup_eq_none.mpr absent
    · exact derives.absent orderly.keyed id (fun isNew => unused id isNew before)
        (orderly.gone id before)
  agents raw member := by
    rcases mem_append.mp member with given | before
    · exact agents raw given
    · have agent := orderly.agents raw before
      rwa [TokenManager.IsAgent, ← derives.globalToken] at agent

variable {raw : List Char}

/-- What a request that goes through does to the tokens at hand. -/
theorem step_request {headers : HeaderMap} {query : Option (List Char)} {busy : Bool} {id : String}
    {saved : Except String Unit} {request : TokenRequest} (orderly : state.Orderly)
    (taken : state.step hash (.request headers query busy raw id saved request) = some next) :
    next = state ∨ ∃ presented ∈ state.obtained, ∃ info answer after, state.Unused hash raw id ∧
      state.manager.validate hash state.now busy presented = some info ∧
      handleTokenRequest hash (state.manager.touch hash state.now presented) state.now raw id saved
        info request = (after, answer) ∧
      next = state.proceed after (handedOut answer) := by
  unfold step at taken
  simp only at taken
  split at taken
  · cases taken
  rename_i admitted
  rw [not_or, not_not, not_not] at admitted
  obtain ⟨presented, carries, atHand⟩ := (Option.any_eq_true _ _).mp admitted.1
  have mem : presented ∈ state.obtained := of_decide_eq_true atHand
  split at taken
  next manager error refused =>
    cases taken
    exact .inl (by rw [sessionsTokenMiddleware_error refused])
  next manager info passed =>
    cases taken
    obtain ⟨valid, rfl⟩ :=
      sessionsTokenMiddleware_ok carries (orderly.agents presented mem) passed
    exact .inr ⟨presented, mem, info, _, _, admitted.2, valid, rfl, rfl⟩

theorem step_orderly (orderly : state.Orderly) {action : DelegationAction}
    (taken : state.step hash action = some next) : next.Orderly := by
  cases action with
  | request headers query busy raw id saved request =>
    rcases step_request orderly taken with rfl | ⟨presented, mem, info, answer, after,
      unused, valid, handled, rfl⟩
    · exact orderly
    · have touched : state.manager.Derives (state.manager.touch hash state.now presented) [] :=
        state.manager.touch_derives state.now presented orderly.keyed
      obtain ⟨derives, texts⟩ := handleTokenRequest_derives (touched.keyed orderly.keyed) handled
      have both := touched.trans derives (nil_subset [id])
      refine orderly.proceed both (fun new isNew => ?_) fun text given => ?_
      · rw [mem_singleton.mp isNew]
        exact unused.2.2.1
      · rw [texts text given, TokenManager.IsAgent, both.globalToken, constantTimeEq_iff]
        exact fun isGlobal => unused.1 isGlobal.2
  | revoke id saved =>
    cases taken
    exact orderly.proceed (state.manager.revoke_derives state.now id saved) nofun nofun
  | cleanup =>
    cases taken
    have derives := state.manager.cleanup_derives state.now
    exact ⟨derives.keyed orderly.keyed,
      fun id mem => derives.absent orderly.keyed id not_mem_nil (orderly.gone id mem),
      orderly.agents⟩
  | wait seconds =>
    cases taken
    exact ⟨orderly.keyed, orderly.gone, orderly.agents⟩

/-- Only the one token is at hand, and it still has the authority it had. -/
structure Confined (hash : List Char → String) (raw : List Char) (token : AgentToken)
    (state : Delegation) : Prop where
  obtained : state.obtained = [raw]
  same : ∀ id other, state.manager.tokens.lookup id = some other → other.tokenHash = hash raw →
    other.id = token.id ∧ other.capabilities = token.capabilities ∧ other.scopes = token.scopes ∧
      other.expiresAt = token.expiresAt

variable {token : AgentToken}

theorem Confined.of_sub (confined : state.Confined hash raw token)
    (obtained : next.obtained = state.obtained)
    (sub : ∀ id other, next.manager.tokens.lookup id = some other →
      state.manager.tokens.lookup id = some other) : next.Confined hash raw token :=
  ⟨obtained.trans confined.obtained, fun id other lookup =>
    confined.same id other (sub id other lookup)⟩

theorem revoke_sub {manager : TokenManager} {now : Nat} {id : String} {saved : Except String Unit}
    {other : String} (lookup : (manager.revoke now id saved).1.tokens.lookup other = some token) :
    manager.tokens.lookup other = some token := by
  unfold TokenManager.revoke at lookup
  split at lookup
  · exact lookup
  · exact (of_lookup_erase lookup).2

/-- A token without the capability to manage tokens stays alone, with the authority it has. -/
theorem step_confined (orderly : state.Orderly) (powerless : "settings:write" ∉ token.capabilities)
    (confined : state.Confined hash raw token) {action : DelegationAction}
    (taken : state.step hash action = some next) : next.Confined hash raw token := by
  cases action with
  | request headers query busy text id saved request =>
    rcases step_request orderly taken with rfl | ⟨presented, mem, info, answer, after,
      unused, valid, handled, rfl⟩
    · exact confined
    rw [confined.obtained, mem_singleton] at mem
    subst mem
    obtain ⟨found, byHash, _, rfl⟩ := TokenManager.validate_eq_some valid
      (orderly.agents presented (by rw [confined.obtained]; exact mem_singleton_self _))
    obtain ⟨hashed, foundId, lookup⟩ := TokenManager.lookup_of_findByHash byHash
    have known := confined.same foundId found lookup hashed
    rw [handleTokenRequest_refused (by
      simp [TokenInfo.hasCapability, known.2.1, powerless])] at handled
    cases handled
    refine ⟨confined.obtained, fun other stored otherLookup otherHashed => ?_⟩
    change (state.manager.touch hash state.now presented).tokens.lookup other = some stored
      at otherLookup
    unfold TokenManager.touch at otherLookup
    rw [byHash] at otherLookup
    dsimp only at otherLookup
    rw [lookup_insert] at otherLookup
    split at otherLookup
    · rw [← some.inj otherLookup]
      exact known
    · exact confined.same other stored otherLookup otherHashed
  | revoke id saved =>
    cases taken
    exact confined.of_sub rfl fun _ _ lookup => revoke_sub lookup
  | cleanup =>
    cases taken
    refine confined.of_sub rfl fun id other lookup => ?_
    change (KeyMap.retain _ _).lookup id = some other at lookup
    rw [lookup_retain] at lookup
    exact (filter_eq_some_iff.mp lookup).1
  | wait seconds =>
    cases taken
    exact confined.of_sub rfl fun _ _ lookup => lookup

/-- A token that has been neither revoked nor has expired. -/
def Alive (state : Delegation) (id : String) : Prop :=
  id ∉ state.revokedIds ∧ ∃ token, state.manager.tokens.lookup id = some token ∧
    (token.expiresAt.any fun expiry => expiry < state.now) = false

theorem Orderly.alive (orderly : state.Orderly) (mem : raw ∈ state.obtained) {busy : Bool}
    {info : TokenInfo} (valid : state.manager.validate hash state.now busy raw = some info) :
    info.isGlobal = false ∧ state.Alive info.tokenId := by
  obtain ⟨token, found, unexpired, rfl⟩ :=
    TokenManager.validate_eq_some valid (orderly.agents raw mem)
  obtain ⟨_, id, lookup⟩ := TokenManager.lookup_of_findByHash found
  have named : token.id = id := orderly.keyed id token lookup
  refine ⟨rfl, ?_, token, named ▸ lookup, unexpired⟩
  intro revoked
  have absent := orderly.gone token.id revoked
  rw [named, lookup] at absent
  cases absent

end Delegation

/-- Tokens are stored under their own identifiers, and no two have the same hash. -/
structure TokenManager.WellFormed (manager : TokenManager) : Prop where
  keyed : manager.Keyed
  distinct : ∀ id id' token token', manager.tokens.lookup id = some token →
    manager.tokens.lookup id' = some token' → token.tokenHash = token'.tokenHash → id = id'

/-- In every run of requests with an agent token and the tokens obtained with it, none of them is
ever the global token and each is valid only while it is itself neither revoked nor expired. Without
the capability to manage tokens the token stays alone, with exactly its authority, up to its expiry.
-/
theorem delegation_needs_settings_write {hash : List Char → String} {manager : TokenManager}
    {now : Nat} {raw : List Char} {token : AgentToken} {actions : List DelegationAction}
    {final : Delegation} (wellFormed : manager.WellFormed) (agent : manager.IsAgent raw)
    (held : manager.findByHash (hash raw) = some token)
    (reached : Fallible.run (Delegation.step hash) (Delegation.start manager now raw) actions =
      some final) :
    ∀ other ∈ final.obtained, ∀ busy info,
      final.manager.validate hash final.now busy other = some info →
      info.isGlobal = false ∧ final.Alive info.tokenId ∧
      ("settings:write" ∉ token.capabilities → other = raw ∧
        info = {
          tokenId := token.id
          isGlobal := false
          capabilities := token.capabilities
          scopes := token.scopes } ∧
        (token.expiresAt.any fun expiry => expiry < final.now) = false) := by
  have startOrderly : (Delegation.start manager now raw).Orderly :=
    ⟨wellFormed.keyed, nofun, fun other member => mem_singleton.mp member ▸ agent⟩
  have anyStep : ∀ start : Delegation, Fallible.Meets (Delegation.step hash) (fun _ _ => True)
      start actions := fun start => Fallible.meets_of_forall (fun _ _ => trivial) start actions
  have orderly : final.Orderly := Fallible.run_invariant
    (fun _ _ _ orderly _ taken => Delegation.step_orderly orderly taken) startOrderly (anyStep _)
    reached
  intro other member busy info valid
  obtain ⟨notGlobal, alive⟩ := orderly.alive member valid
  refine ⟨notGlobal, alive, fun powerless => ?_⟩
  have startConfined : (Delegation.start manager now raw).Confined hash raw token := by
    obtain ⟨hashed, id, lookup⟩ := TokenManager.lookup_of_findByHash held
    refine ⟨rfl, fun id' stored stored' hashed' => ?_⟩
    have sameId := wellFormed.distinct id id' token stored lookup stored'
      (hashed.trans hashed'.symm)
    subst sameId
    cases lookup.symm.trans stored'
    exact ⟨rfl, rfl, rfl, rfl⟩
  have preserved : ∀ (state : Delegation) action next,
      state.Orderly ∧ state.Confined hash raw token → True →
      state.step hash action = some next → next.Orderly ∧ next.Confined hash raw token :=
    fun _ _ _ both _ taken => ⟨Delegation.step_orderly both.1 taken,
      Delegation.step_confined both.1 powerless both.2 taken⟩
  have confined := (Fallible.run_invariant preserved ⟨startOrderly, startConfined⟩ (anyStep _)
    reached).2
  rw [confined.obtained, mem_singleton] at member
  subst member
  obtain ⟨found, byHash, unexpired, rfl⟩ := TokenManager.validate_eq_some valid
    (orderly.agents other (by rw [confined.obtained]; exact mem_singleton_self _))
  obtain ⟨hashed, id, lookup⟩ := TokenManager.lookup_of_findByHash byHash
  obtain ⟨sameId, capabilities, scopes, expiresAt⟩ := confined.same id found lookup hashed
  refine ⟨rfl, by rw [sameId, capabilities, scopes], ?_⟩
  rw [← expiresAt]
  exact unexpired

/-! ### Two runs -/

/-- A server with one agent token of these capabilities. -/
def oneToken (capabilities : List String) : TokenManager where
  tokens := AList.singleton "agent"
    { id := "agent", name := "agent", tokenHash := "dnt_a", tokenPrefix := [], createdAt := 0,
      capabilities, expiresAt := some 100 }
  globalToken := "secret".toList

theorem oneToken_wellFormed (capabilities : List String) : (oneToken capabilities).WellFormed := by
  have only : ∀ id token, (oneToken capabilities).tokens.lookup id = some token →
      id = "agent" ∧ token.id = "agent" := by
    intro id token lookup
    have mem := lookup_eq_some_iff.mp lookup
    obtain ⟨rfl, rfl⟩ := Sigma.mk.injEq .. ▸ mem_singleton.mp mem
    exact ⟨rfl, rfl⟩
  refine ⟨fun id token lookup => ?_, fun id id' token token' lookup lookup' _ => ?_⟩
  · exact (only id token lookup).2.trans (only id token lookup).1.symm
  · exact (only id token lookup).1.trans (only id' token' lookup').1.symm

/-- Create a token that may write to terminals, with the agent token, whose revocation follows. -/
def createThenRevoke : List DelegationAction :=
  [.request [("authorization", "Bearer dnt_a".toList)] none false "dnt_b".toList "child" (.ok ())
      (.create { name := "child", capabilities := ["terminal:write"] }),
    .revoke "agent" (.ok ())]

theorem delegation_needs_settings_write_reader :
    ∃ final, Fallible.run (Delegation.step String.ofList)
        (Delegation.start (oneToken ["terminal:read"]) 0 "dnt_a".toList) createThenRevoke =
          some final ∧
      ∀ other ∈ final.obtained, ∀ busy info,
        final.manager.validate String.ofList final.now busy other = some info →
        info.isGlobal = false ∧ final.Alive info.tokenId := by
  obtain ⟨final, reached⟩ := isSome_iff_exists.mp
    (show (Fallible.run (Delegation.step String.ofList)
      (Delegation.start (oneToken ["terminal:read"]) 0 "dnt_a".toList) createThenRevoke).isSome by
        decide +kernel)
  refine ⟨final, reached, fun other member busy info valid => ?_⟩
  have facts := delegation_needs_settings_write (oneToken_wellFormed ["terminal:read"])
    (by decide +kernel) (by rfl) reached other member busy info valid
  exact ⟨facts.1, facts.2.1⟩

/-- A token that may only manage tokens obtains one that may write to terminals and outlives its
revocation. -/
theorem managing_token_amplifies :
    ∃ final, Fallible.run (Delegation.step String.ofList)
        (Delegation.start (oneToken ["settings:write"]) 0 "dnt_a".toList) createThenRevoke =
          some final ∧
      "dnt_b".toList ∈ final.obtained ∧ "agent" ∈ final.revokedIds ∧
      (final.manager.validate String.ofList final.now false "dnt_b".toList).any
        (fun info => info.hasCapability "terminal:write") = true ∧
      (∀ info, (oneToken ["settings:write"]).validate String.ofList 0 false "dnt_a".toList =
        some info → info.hasCapability "terminal:write" = false) := by
  have run : (Fallible.run (Delegation.step String.ofList)
      (Delegation.start (oneToken ["settings:write"]) 0 "dnt_a".toList) createThenRevoke).any
      fun final => "dnt_b".toList ∈ final.obtained ∧ "agent" ∈ final.revokedIds ∧
        (final.manager.validate String.ofList final.now false "dnt_b".toList).any
          (fun info => info.hasCapability "terminal:write") = true := by decide +kernel
  obtain ⟨final, reached, facts⟩ := (Option.any_eq_true _ _).mp run
  obtain ⟨member, revoked, writes⟩ := of_decide_eq_true facts
  refine ⟨final, reached, member, revoked, writes, fun info valid => ?_⟩
  have before : ((oneToken ["settings:write"]).validate String.ofList 0 false "dnt_a".toList).all
      fun info => info.hasCapability "terminal:write" = false := by decide +kernel
  rw [valid] at before
  exact of_decide_eq_true before

end Dinotty.Auth
