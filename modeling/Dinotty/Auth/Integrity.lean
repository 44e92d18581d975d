/-
This file is the token store under any sequence of requests that create, update and revoke tokens.
-/

import Dinotty.Auth.Delegation
import Dinotty.Foundation.Runs

namespace Dinotty.Auth

/-- A request, whose it is, and what its surroundings decide. -/
structure TokenEvent where
  now : Nat
  raw : List Char
  id : String
  saved : Except String Unit
  info : TokenInfo
  request : TokenRequest

def AgentToken.Valid (token : AgentToken) : Prop :=
  token.capabilities ⊆ allCapabilities ∧ ∀ expiry ∈ token.expiresAt, token.createdAt ≤ expiry

namespace TokenManager

section

variable (hash : List Char → String)

abbrev handle (manager : TokenManager) (event : TokenEvent) :
    TokenManager × Except TokenError TokenAnswer :=
  handleTokenRequest hash manager event.now event.raw event.id event.saved event.info event.request

def after (manager : TokenManager) (event : TokenEvent) : TokenManager :=
  (manager.handle hash event).1

end

def Valid (manager : TokenManager) : Prop :=
  ∀ id token, manager.tokens.lookup id = some token → token.Valid

/-- The tokens stay valid, the expiry of a new one is the sum that was asked for, and an error
changes no token. -/
structure Handled (manager : TokenManager) (event : TokenEvent)
    (result : TokenManager × Except TokenError TokenAnswer) : Prop where
  valid : result.1.Valid
  expires : ∀ req raw token, event.request = .create req → result.2 = .ok (.created raw token) →
    token.expiresAt = req.expiresIn.map (event.now + ·)
  unchanged : ∀ error, result.2 = .error error →
    ∀ id, result.1.tokens.lookup id = manager.tokens.lookup id

/-- Once a request has passed its checks, saving does not fail, the sum of the expiry does not
overflow and an update brings no unknown capability. -/
def Sure (manager : TokenManager) (event : TokenEvent) : Prop :=
  event.info.hasCapability "settings:write" = true → match event.request with
    | .create req => req.capabilities ⊆ allCapabilities →
        event.saved = .ok () ∧ ∀ seconds ∈ req.expiresIn, event.now + seconds < 2 ^ 64
    | .update id req => ∀ token, manager.tokens.lookup id = some token →
        req.capabilities.getD [] ⊆ allCapabilities ∧
          (event.saved = .ok () ∨ edited token req = token)
    | .revoke id => id ∈ manager.tokens → event.saved = .ok ()

variable {hash : List Char → String} {manager : TokenManager} {event : TokenEvent}
  {result : TokenManager × Except TokenError TokenAnswer}

theorem Valid.insert (valid : manager.Valid) {id : String} {token : AgentToken}
    (new : token.Valid) :
    Valid { manager with tokens := manager.tokens.insert id token } := by
  intro other stored found
  rw [KeyMap.lookup_insert] at found
  split at found
  · cases found
    exact new
  · exact valid other stored found

theorem handled_of_refused (valid : manager.Valid) {refusal : TokenError}
    (refused : result = (manager, .error refusal)) : Handled manager event result := by
  cases refused
  exact ⟨valid, nofun, fun _ _ _ => rfl⟩

theorem handled_of_sure (valid : manager.Valid) (sure : Sure manager event)
    (handled : manager.handle hash event = result) : Handled manager event result := by
  obtain ⟨now, raw, id, saved, info, request⟩ := event
  cases request with
  | create req =>
    rcases requireCapability_cases handled with ⟨-, refused⟩ | ⟨held, rfl⟩
    · exact handled_of_refused valid refused
    split
    · exact handled_of_refused valid rfl
    next known =>
      have capabilities : req.capabilities ⊆ allCapabilities := fun cap mem => by
        simpa using List.find?_eq_none.mp known cap mem
      obtain ⟨done, small⟩ := sure held capabilities
      have expiry : (newToken hash now raw id req).expiresAt = req.expiresIn.map (now + ·) :=
        Option.map_congr fun seconds given => Nat.mod_eq_of_lt (small seconds given)
      cases done
      refine ⟨valid.insert ⟨capabilities, fun time given => ?_⟩, ?_, nofun⟩
      · rw [expiry] at given
        obtain ⟨seconds, -, rfl⟩ := Option.map_eq_some_iff.mp given
        exact Nat.le_add_right now seconds
      · rintro _ _ _ ⟨⟩ ⟨⟩
        exact expiry
  | update target req =>
    rcases requireCapability_cases handled with ⟨-, refused⟩ | ⟨held, rfl⟩
    · exact handled_of_refused valid refused
    unfold update
    cases found : manager.tokens.lookup target with
    | none => exact handled_of_refused valid rfl
    | some token =>
      obtain ⟨known, sound⟩ := sure held token found
      have new : (edited token req).Valid := by
        refine ⟨?_, (valid target token found).2⟩
        unfold edited
        cases given : req.capabilities with
        | none => exact (valid target token found).1
        | some capabilities => simpa [given] using known
      cases saved with
      | ok => exact ⟨valid.insert new, nofun, nofun⟩
      | error msg =>
        refine ⟨valid.insert new, nofun, fun _ _ other => ?_⟩
        change (manager.tokens.insert target (edited token req)).lookup other = _
        rw [KeyMap.lookup_insert, sound.resolve_left nofun]
        split
        next here =>
          rw [here, found]
        · rfl
  | revoke target =>
    rcases requireCapability_cases handled with ⟨-, refused⟩ | ⟨held, rfl⟩
    · exact handled_of_refused valid refused
    unfold revoke
    cases found : manager.tokens.lookup target with
    | none => exact handled_of_refused valid rfl
    | some token =>
      cases sure held (AList.lookup_isSome.mp (by rw [found]; rfl))
      exact ⟨fun other stored present => valid other stored
        (KeyMap.of_lookup_erase present).2, nofun, nofun⟩

/-- If no request overflows, brings an unknown capability or fails once it is under way, every
request does what it should. -/
theorem tokens_stay_sound (valid : manager.Valid) (front back : List TokenEvent)
    (sure : Runs.Careful (after hash) Sure manager (front ++ event :: back)) :
    let before := Runs.run (after hash) manager front
    before.Valid ∧ Handled before event (before.handle hash event) := by
  obtain ⟨earlier, now, -⟩ := Runs.careful_append.mp sure
  have kept : (Runs.run (after hash) manager front).Valid :=
    earlier.kept Valid (fun _ _ valid sure => (handled_of_sure valid sure rfl).valid) valid
  exact ⟨kept, handled_of_sure kept now rfl⟩

def ownerEvent (request : TokenRequest) : TokenEvent :=
  ⟨1000, "dnt_1".toList, "t1", .ok (), .global, request⟩

def readerRequest : TokenRequest :=
  .create { name := "reader", capabilities := ["terminal:read"], expiresIn := some 60 }

theorem tokens_stay_sound_reader : Handled
    (Runs.run (after String.ofList) {} [ownerEvent readerRequest]) (ownerEvent (.revoke "t1"))
    ((Runs.run (after String.ofList) {} [ownerEvent readerRequest]).handle String.ofList
      (ownerEvent (.revoke "t1"))) := by
  have start : Valid {} := fun _ _ found => by cases found
  have sure : Runs.Careful (after String.ofList) Sure {}
      ([ownerEvent readerRequest] ++ [ownerEvent (.revoke "t1")]) :=
    ⟨fun _ _ => ⟨rfl, by decide⟩, fun _ _ => rfl, trivial⟩
  exact (tokens_stay_sound start [ownerEvent readerRequest] [] sure).2

theorem update_stores_unknown : ¬(Runs.run (after String.ofList) {} [ownerEvent readerRequest,
    ownerEvent (.update "t1" { capabilities := some ["root"] })]).Valid := by
  intro valid
  have stored : ((Runs.run (after String.ofList) {} [ownerEvent readerRequest,
      ownerEvent (.update "t1" { capabilities := some ["root"] })]).tokens.lookup "t1").map
        (·.capabilities) = some ["root"] := by decide
  obtain ⟨token, found, capabilities⟩ := Option.map_eq_some_iff.mp stored
  have known := (valid "t1" token found).1
  rw [capabilities] at known
  exact absurd known (by decide)

end TokenManager

end Dinotty.Auth
