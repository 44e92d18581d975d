/-
This file is the tokens in memory and in their file while requests that create, update and revoke
them run side by side. If no write puts an older snapshot in the place of a newer one, the file has
the tokens in memory once all requests are answered; a write that comes late brings a revoked token
back.
-/

import Dinotty.Auth.Delegation
import Dinotty.Foundation.Runs

namespace Dinotty.Auth

open Interleaving List KeyMap Pool Option TokenManager

/-! ### The file -/

/-- What the file holds: nothing yet, a list of tokens, or a part of one. -/
inductive TokensFile where
  | missing
  | list (tokens : List AgentToken)
  | broken

def TokensFile.read : TokensFile → List AgentToken
  | .list tokens => tokens
  | .missing | .broken => []

/-- A manager that starts with what the file holds. -/
def TokenManager.load (file : TokensFile) (globalToken : List Char) : TokenManager where
  tokens := file.read.foldl (fun tokens token => tokens.insert token.id token) ∅
  globalToken

def TokenManager.snapshot (manager : TokenManager) : List AgentToken :=
  manager.tokens.entries.map Sigma.snd

/-! ### Requests side by side -/

/-- A request that has passed the middleware, and whose it is. -/
structure TokenCall where
  info : TokenInfo
  request : TokenRequest

/-- A write is done, it is refused before the file is touched, or it breaks off and leaves a part of
the text. -/
inductive SaveOutcome where
  | done
  | refused (message : String)
  | cut (message : String)
  deriving DecidableEq

/-- What the environment decides at a step. -/
structure Surroundings where
  now : Nat := 0
  raw : List Char := []
  id : String := ""
  saving : SaveOutcome := .done

/-- The tokens in memory and in the file. The changes of the memory are counted, and a snapshot has
the count at which it was taken. -/
structure TokenStore where
  manager : TokenManager
  file : TokensFile
  changes : Nat := 0
  written : Nat := 0
  revokedIds : List String := []
  answered : List (TokenRequest × Except TokenError TokenAnswer) := []

/-- The handler up to the change of the memory, the snapshot, the write. The answer depends on how
the write goes. -/
inductive SaveStep where
  | handle (call : TokenCall)
  | snapshot (request : TokenRequest) (answer : Except String Unit → Except TokenError TokenAnswer)
  | write (request : TokenRequest) (answer : Except String Unit → Except TokenError TokenAnswer)
      (tokens : List AgentToken) (changes : Nat)

namespace TokenStore

variable (hash : List Char → String)

def answer (store : TokenStore) (request : TokenRequest)
    (answer : Except TokenError TokenAnswer) : TokenStore :=
  { store with answered := store.answered ++ [(request, answer)] }

/-- The change of the memory by a request that is to be saved. -/
def change (store : TokenStore) (manager : TokenManager) : TokenStore :=
  { store with
    manager
    changes := store.changes + 1
    revokedIds := store.manager.tokens.keys.filter (· ∉ manager.tokens) ++ store.revokedIds }

def exec : Exec TokenStore SaveStep Surroundings
  | _, around, .handle call, rest, store =>
      let handled (saved : Except String Unit) :=
        handleTokenRequest hash store.manager around.now around.raw around.id saved call.info
          call.request
      match handled (.ok ()) with
      | (manager, .ok _) =>
          some (store.change manager,
            .snapshot call.request (fun saved => (handled saved).2) :: rest)
      | (manager, .error refusal) =>
          some ({ store with manager }.answer call.request (.error refusal), rest)
  | _, _, .snapshot request answer, rest, store =>
      some (store, .write request answer store.manager.snapshot store.changes :: rest)
  | _, around, .write request answer tokens changes, rest, store =>
      match around.saving with
      | .done =>
          some ({ store with file := .list tokens, written := changes }.answer request
            (answer (.ok ())), rest)
      | .refused message => some (store.answer request (answer (.error message)), rest)
      | .cut message =>
          some ({ store with file := .broken }.answer request (answer (.error message)), rest)

/-- A server that has just started. -/
def opened (file : TokensFile) (globalToken : List Char) : Pool TokenStore SaveStep where
  shared := { manager := .load file globalToken, file }
  threads := []

def run (file : TokensFile) (globalToken : List Char)
    (events : List (Event TokenCall Surroundings)) : Pool TokenStore SaveStep :=
  Runs.run (Pool.after (fun call => [.handle call]) (exec hash)) (opened file globalToken) events

def restarted (store : TokenStore) : TokenManager := .load store.file store.manager.globalToken

/-- A write that is done, and does not replace a snapshot that is newer than its own. -/
def InTurn (store : TokenStore) (around : Surroundings) : SaveStep → Prop
  | .write _ _ _ changes => around.saving = .done ∧ store.written ≤ changes
  | .handle _ | .snapshot _ _ => True

/-- The identifier that is drawn for a new token neither is nor was one of another token. -/
def FreshlyDrawn (store : TokenStore) (around : Surroundings) : SaveStep → Prop
  | .handle { request := .create _, .. } =>
      around.id ∉ store.manager.tokens ∧ around.id ∉ store.revokedIds
  | _ => True

def Steps (allowed : TokenStore → Surroundings → SaveStep → Prop) (file : TokensFile)
    (globalToken : List Char) (events : List (Event TokenCall Surroundings)) : Prop :=
  Runs.Careful (Pool.after (fun call => [.handle call]) (exec hash))
    (fun pool event =>
      match event with
      | .request _ => True
      | .step index around => ∀ op ∈ pool.at index, allowed pool.shared around op)
    (opened file globalToken) events

end TokenStore

/-! ### What a request does to the memory -/

/-- What the handlers do to the tokens, given that the change is saved. -/
inductive Effect (before after : TokenManager) (id : String) :
    TokenRequest → Except TokenError TokenAnswer → Prop where
  | refused (request : TokenRequest) (refusal : TokenError) (same : after = before) :
      Effect before after id request (.error refusal)
  | created (req : CreateTokenRequest) (raw : List Char) (token : AgentToken)
      (named : token.id = id) (tokens : after.tokens = before.tokens.insert id token) :
      Effect before after id (.create req) (.ok (.created raw token))
  | updated (target : String) (req : UpdateTokenRequest) (old : AgentToken)
      (present : before.tokens.lookup target = some old)
      (tokens : after.tokens = before.tokens.insert target (TokenManager.edited old req)) :
      Effect before after id (.update target req) (.ok (.updated (TokenManager.edited old req)))
  | revoked (target : String) (old : AgentToken)
      (present : before.tokens.lookup target = some old)
      (tokens : after.tokens = before.tokens.erase target) :
      Effect before after id (.revoke target) (.ok .revoked)

variable {after : TokenManager}

theorem Effect.unchanged {before : TokenManager} {id : String} {req : TokenRequest}
    {refusal : TokenError} (effect : Effect before after id req (.error refusal)) :
    after = before := by
  cases effect
  assumption

theorem Effect.keyed {before : TokenManager} {id : String} {request : TokenRequest}
    {answer : Except TokenError TokenAnswer} (effect : Effect before after id request answer)
    (keyed : before.Keyed) : after.Keyed := by
  intro other token found
  cases effect with
  | refused request refusal same => exact keyed other token (same ▸ found)
  | created req raw new named tokens =>
    rw [tokens, lookup_insert] at found
    split at found
    next here =>
      rw [← some.inj found, named, here]
    · exact keyed other token found
  | updated target req old held tokens =>
    rw [tokens, lookup_insert] at found
    split at found
    next here =>
      rw [← some.inj found, here]
      exact keyed target old held
    · exact keyed other token found
  | revoked target old held tokens =>
    rw [tokens] at found
    obtain ⟨-, found⟩ := of_lookup_erase found
    exact keyed other token found

theorem handleTokenRequest_effect {hash : List Char → String} {manager : TokenManager} {now : Nat}
    {raw : List Char} {id : String} {info : TokenInfo} {request : TokenRequest}
    {answer : Except TokenError TokenAnswer}
    (handled : handleTokenRequest hash manager now raw id (.ok ()) info request =
      (after, answer)) : Effect manager after id request answer := by
  have refused {refusal : TokenError}
      (same : (after, answer) = (manager, .error refusal)) :
      Effect manager after id request answer := by
    cases same
    exact .refused request refusal rfl
  cases request with
  | create req =>
    rcases requireCapability_cases handled with ⟨-, same⟩ | ⟨-, same⟩
    · exact refused same
    · split at same
      · exact refused same
      · cases same
        exact .created req raw _ rfl rfl
  | update target req =>
    rcases requireCapability_cases handled with ⟨-, same⟩ | ⟨-, same⟩
    · exact refused same
    · unfold update at same
      cases held : manager.tokens.lookup target with
      | none =>
        rw [held] at same
        exact refused same
      | some old =>
        rw [held] at same
        cases same
        exact .updated target req old held rfl
  | revoke target =>
    rcases requireCapability_cases handled with ⟨-, same⟩ | ⟨-, same⟩
    · exact refused same
    · unfold revoke at same
      cases held : manager.tokens.lookup target with
      | none =>
        rw [held] at same
        exact refused same
      | some old =>
        rw [held] at same
        cases same
        exact .revoked target old held rfl

/-! ### Restarts -/

variable (file : TokensFile)

variable (globalToken : List Char)

theorem load_keyed : (load file globalToken).Keyed := by
  have step (tokens : List AgentToken) (map : KeyMap String AgentToken)
      (keyed : ∀ id token, map.lookup id = some token → token.id = id) :
      ∀ id token, (tokens.foldl (fun map token => map.insert token.id token) map).lookup id =
        some token → token.id = id := by
    induction tokens generalizing map with
    | nil => exact keyed
    | cons head rest ih =>
      refine ih _ fun id token found => ?_
      rw [lookup_insert] at found
      split at found
      next here =>
        rw [← some.inj found, here]
      · exact keyed id token found
  exact step file.read ∅ fun id token found => by simp at found

/-- What is written of the tokens in memory is what is read again. -/
theorem lookup_load_snapshot {manager : TokenManager} (keyed : manager.Keyed)
    (globalToken : List Char) (id : String) :
    (load (.list manager.snapshot) globalToken).tokens.lookup id = manager.tokens.lookup id := by
  have pairs : (load (.list manager.snapshot) globalToken).tokens =
      (manager.snapshot.map fun token => (token.id, token)).foldl
        (fun map pair => map.insert pair.1 pair.2) ∅ := by
    rw [foldl_map]
    rfl
  have entries : ∀ pair ∈ manager.snapshot.map fun token => (token.id, token),
      manager.tokens.lookup pair.1 = some pair.2 := by
    intro pair mem
    obtain ⟨token, inSnapshot, rfl⟩ := mem_map.mp mem
    obtain ⟨⟨key, value⟩, entry, rfl⟩ := mem_map.mp inSnapshot
    have found := lookup_eq_some_iff.mpr entry
    dsimp only
    rw [keyed key value found]
    exact found
  rw [pairs]
  cases found : manager.tokens.lookup id with
  | none =>
    rw [lookup_foldl_insert_of_notMem]
    · rfl
    · rintro pair mem rfl
      rw [entries pair mem] at found
      exact absurd found (by simp)
  | some token =>
    refine lookup_foldl_insert_of_mem (fun pair mem here => ?_) ?_ ∅
    · have same := entries pair mem
      rw [here, found] at same
      exact (some.inj same).symm
    · refine mem_map.mpr ⟨token, mem_map.mpr ⟨⟨id, token⟩, ?_, rfl⟩, ?_⟩
      · exact lookup_eq_some_iff.mp found
      · rw [keyed id token found]

/-! ### The file keeps up -/

namespace TokenStore

/-- The file has the newest snapshot, and what it holds is what the memory has. -/
structure Saved (store : TokenStore) : Prop where
  newest : store.written = store.changes
  same : ∀ id, store.restarted.tokens.lookup id = store.manager.tokens.lookup id
  exact : 0 < store.changes → store.file = .list store.manager.snapshot

/-- A snapshot to be written that is of the latest change is one of the memory as it is. -/
def UpToDate (store : TokenStore) : SaveStep → Prop
  | .write _ _ tokens changes =>
      changes ≤ store.changes ∧ (changes = store.changes → tokens = store.manager.snapshot)
  | .handle _ | .snapshot _ _ => True

/-- A step that leads to a write of the latest change. -/
def Newest (store : TokenStore) : SaveStep → Prop
  | .handle _ => False
  | .snapshot _ _ => True
  | .write _ _ _ changes => changes = store.changes

/-- The file is as the memory, or a request is about to make it so. -/
structure Sound (pool : Pool TokenStore SaveStep) : Prop where
  keyed : pool.shared.manager.Keyed
  ahead : pool.shared.written ≤ pool.shared.changes
  snapshots : pool.Holds UpToDate
  current : Saved pool.shared ∨ ∃ ops ∈ pool.threads, ∃ op ∈ ops, Newest pool.shared op

variable {hash : List Char → String}

variable {index : Nat} {around : Surroundings} {store after : TokenStore}

theorem exec_handle {call : TokenCall} {rest ops : List SaveStep}
    (ran : exec hash index around (.handle call) rest store = some (after, ops)) :
    (∃ manager result answer, Effect store.manager manager around.id call.request (.ok result) ∧
      answer (.ok ()) = .ok result ∧ after = store.change manager ∧
      ops = .snapshot call.request answer :: rest) ∨
    (∃ refusal, after = store.answer call.request (.error refusal) ∧ ops = rest) := by
  dsimp only [exec] at ran
  split at ran
  next manager result handled =>
    cases ran
    exact .inl ⟨manager, result, _, handleTokenRequest_effect handled,
      congrArg Prod.snd handled, rfl, rfl⟩
  next manager refusal handled =>
    cases ran
    exact .inr ⟨refusal, by rw [(handleTokenRequest_effect handled).unchanged], rfl⟩

variable {pool next : Pool TokenStore SaveStep}

theorem newest_step {op : SaveStep} {rest ops : List SaveStep}
    (held : pool.threads[index]? = some (op :: rest)) (own : next.threads[index]? = some ops)
    (same : ∀ other, other ≠ index → next.threads[other]? = pool.threads[other]?)
    (notNewest : ¬ Newest store op) (left : rest ⊆ ops)
    (pending : ∃ ops ∈ pool.threads, ∃ op ∈ ops, Newest store op) :
    ∃ ops ∈ next.threads, ∃ op ∈ ops, Newest store op := by
  have steps : (∃ ops ∈ next.threads, ∃ op ∈ ops, Newest store op) ∨
        (∃ other ∈ op :: rest, Newest store other) ↔
      (∃ ops ∈ pool.threads, ∃ op ∈ ops, Newest store op) ∨ ∃ op ∈ ops, Newest store op :=
    exists_step held own same
  rcases steps.mpr (.inl pending) with there | ⟨other, mem, newest⟩
  · exact there
  · rcases mem_cons.mp mem with rfl | later
    · exact absurd newest notNewest
    · exact ⟨ops, mem_of_getElem? own, other, left later, newest⟩

/-- A step that writes in turn keeps the file up with the memory. -/
theorem Sound.step (sound : Sound pool)
    (inTurn : ∀ op ∈ pool.at index, InTurn pool.shared around op)
    (done : pool.step (exec hash) index around = some next) : Sound next := by
  obtain ⟨op, rest, ops, held, ran, own, same⟩ := step_cases done
  have turn := inTurn op (at_eq held)
  -- The operations of the other threads stay up to date if the new one is.
  have upToDate (frame : ∀ op, UpToDate pool.shared op → UpToDate next.shared op)
      (new : ∀ other ∈ ops, other ∈ rest ∨ UpToDate next.shared other) :
      next.Holds UpToDate := by
    refine sound.snapshots.step done frame fun op' rest' ops' present' _ executed' => ?_
    rw [held] at present'
    obtain ⟨rfl, rfl⟩ := cons.inj (some.inj present')
    rw [ran] at executed'
    cases executed'
    exact new
  cases op with
  | handle call =>
    rcases exec_handle ran with
      ⟨manager, result, answer, effect, -, after, rfl⟩ | ⟨refusal, after, rfl⟩
    · rw [after] at upToDate
      refine ⟨?_, ?_, upToDate (fun op before => ?_) fun other mem => ?_, ?_⟩
      · rw [after]
        exact effect.keyed sound.keyed
      · rw [after]
        exact Nat.le_succ_of_le sound.ahead
      · cases op with
        | handle | snapshot => trivial
        | write req answer tokens changes =>
          refine ⟨Nat.le_succ_of_le before.1, fun newest => ?_⟩
          exact absurd (newest ▸ before.1) (Nat.not_succ_le_self _)
      · rcases mem_cons.mp mem with rfl | later
        · exact .inr trivial
        · exact .inl later
      · exact .inr ⟨_, mem_of_getElem? own, _, mem_cons_self, trivial⟩
    · rw [after] at upToDate
      refine ⟨?_, ?_, upToDate (fun op before => ?_) fun other mem => .inl mem, ?_⟩
      · rw [after]
        exact sound.keyed
      · rw [after]
        exact sound.ahead
      · cases op <;> exact before
      · rw [after]
        rcases sound.current with saved | pending
        · exact .inl ⟨saved.newest, saved.same, saved.exact⟩
        · exact .inr (newest_step held own same not_false (Subset.refl _) pending)
  | snapshot req answer =>
    obtain ⟨after, rfl⟩ := Prod.mk.inj (some.inj ran)
    rw [← after] at upToDate
    refine ⟨?_, ?_, upToDate (fun _ before => before) fun other mem => ?_, ?_⟩
    · rw [← after]
      exact sound.keyed
    · rw [← after]
      exact sound.ahead
    · rcases mem_cons.mp mem with rfl | later
      · exact .inr ⟨Nat.le_refl _, fun _ => rfl⟩
      · exact .inl later
    · rw [← after]
      exact .inr ⟨_, mem_of_getElem? own, _, mem_cons_self, rfl⟩
  | write req answer tokens changes =>
    have mine : UpToDate pool.shared (.write req answer tokens changes) :=
      sound.snapshots _ (mem_of_getElem? held) _ mem_cons_self
    dsimp only [exec] at ran
    rw [turn.1] at ran
    obtain ⟨after, rfl⟩ := Prod.mk.inj (some.inj ran)
    rw [← after] at upToDate
    refine ⟨?_, ?_, upToDate (fun op before => ?_) fun other mem => .inl mem, ?_⟩
    · rw [← after]
      exact sound.keyed
    · rw [← after]
      exact mine.1
    · cases op <;> exact before
    · rw [← after]
      by_cases newest : changes = pool.shared.changes
      · obtain rfl := mine.2 newest
        exact .inl ⟨newest, lookup_load_snapshot sound.keyed _, fun _ => rfl⟩
      · rcases sound.current with saved | pending
        · have early := mine.1
          have turn := turn.2
          have late := saved.newest
          omega
        · exact .inr (newest_step held own same newest (Subset.refl _) pending)

/-! ### Answers kept -/

/-- What an answer promises: a revoked token stays so, and a created one is there unless it has been
revoked. -/
def Accounted (store : TokenStore) : TokenRequest → TokenAnswer → Prop
  | .revoke id, .revoked => id ∈ store.revokedIds
  | _, .created _ token => token.id ∈ store.revokedIds ∨
      ∃ held, store.manager.tokens.lookup token.id = some held ∧ held.tokenHash = token.tokenHash
  | _, _ => True

/-- The answer that a step leads to is one that can be kept. -/
def Accountable (store : TokenStore) : SaveStep → Prop
  | .handle _ => True
  | .snapshot request answer | .write request answer _ _ =>
      ∀ result, answer (.ok ()) = .ok result → Accounted store request result

structure Accounts (pool : Pool TokenStore SaveStep) : Prop where
  gone : ∀ id ∈ pool.shared.revokedIds, pool.shared.manager.tokens.lookup id = none
  coming : pool.Holds Accountable
  given : ∀ request result, (request, .ok result) ∈ pool.shared.answered →
    Accounted pool.shared request result

variable {before : TokenStore} {result : TokenAnswer}

theorem Accounted.congr {req : TokenRequest} (accounted : Accounted before req result)
    (revoked : before.revokedIds ⊆ after.revokedIds)
    (kept : ∀ id held, before.manager.tokens.lookup id = some held → id ∈ after.revokedIds ∨
      ∃ now, after.manager.tokens.lookup id = some now ∧ now.tokenHash = held.tokenHash) :
    Accounted after req result := by
  cases result with
  | created raw token =>
    have entry : token.id ∈ before.revokedIds ∨ ∃ held,
        before.manager.tokens.lookup token.id = some held ∧ held.tokenHash = token.tokenHash := by
      cases req <;> exact accounted
    have goal : token.id ∈ after.revokedIds ∨ ∃ held,
        after.manager.tokens.lookup token.id = some held ∧ held.tokenHash = token.tokenHash := by
      rcases entry with gone | ⟨held, present, text⟩
      · exact .inl (revoked gone)
      · refine (kept token.id held present).imp_right fun ⟨now, there, same⟩ => ?_
        exact ⟨now, there, same.trans text⟩
    cases req <;> exact goal
  | updated token => cases req <;> trivial
  | revoked =>
    cases req with
    | create | update => trivial
    | revoke id => exact revoked accounted

theorem Accounted.same {req : TokenRequest} (accounted : Accounted before req result)
    (manager : after.manager = before.manager) (revoked : after.revokedIds = before.revokedIds) :
    Accounted after req result :=
  accounted.congr (fun id mem => revoked ▸ mem) fun id held there =>
    .inr ⟨held, by rw [manager]; exact there, rfl⟩

variable {manager : TokenManager}

/-- A change of the memory keeps the tokens that it does not revoke. -/
theorem change_keeps {id : String} {request : TokenRequest}
    (effect : Effect store.manager manager id request (.ok result))
    (fresh : (∃ req, request = .create req) → store.manager.tokens.lookup id = none)
    (other : String) (held : AgentToken) (present : store.manager.tokens.lookup other = some held) :
    other ∈ (store.change manager).revokedIds ∨
      ∃ now, manager.tokens.lookup other = some now ∧ now.tokenHash = held.tokenHash := by
  cases effect with
  | created req raw token named tokens =>
    refine .inr ⟨held, ?_, rfl⟩
    rw [tokens, lookup_insert, if_neg ?_]
    · exact present
    · rintro rfl
      rw [fresh ⟨req, rfl⟩] at present
      exact absurd present (by simp)
  | updated target req old found tokens =>
    rw [tokens, lookup_insert]
    split
    next here =>
      rw [here, found] at present
      cases present
      exact .inr ⟨_, rfl, rfl⟩
    · exact .inr ⟨held, present, rfl⟩
  | revoked target old found tokens =>
    rw [tokens, lookup_erase]
    split
    next here =>
      refine .inl (mem_append_left _ (mem_filter.mpr ⟨?_, decide_eq_true ?_⟩))
      · exact AList.mem_keys.mp (AList.lookup_isSome.mp (by rw [present]; rfl))
      · rw [tokens, here]
        exact fun mem => (AList.mem_erase.mp mem).1 rfl
    · exact .inr ⟨held, present, rfl⟩

theorem change_accounted {id : String} {request : TokenRequest}
    (effect : Effect store.manager manager id request (.ok result)) :
    Accounted (store.change manager) request result := by
  cases effect with
  | created req raw token named tokens =>
    refine .inr ⟨token, ?_, rfl⟩
    change manager.tokens.lookup token.id = _
    rw [tokens, lookup_insert, if_pos named]
  | updated => trivial
  | revoked target old found tokens =>
    refine mem_append_left _ (mem_filter.mpr ⟨?_, decide_eq_true ?_⟩)
    · exact AList.mem_keys.mp (AList.lookup_isSome.mp (by rw [found]; rfl))
    · rw [tokens]
      exact fun mem => (AList.mem_erase.mp mem).1 rfl

/-- A change of the memory brings no revoked token back. -/
theorem change_gone {drawn : String} {request : TokenRequest}
    (effect : Effect store.manager manager drawn request (.ok result))
    (fresh : (∃ req, request = .create req) → drawn ∉ store.revokedIds)
    (gone : ∀ id ∈ store.revokedIds, store.manager.tokens.lookup id = none) :
    ∀ id ∈ (store.change manager).revokedIds, manager.tokens.lookup id = none := by
  intro id mem
  rcases mem_append.mp mem with now | before
  · exact AList.lookup_eq_none.mpr (of_decide_eq_true (mem_filter.mp now).2)
  · have absent := gone id before
    cases effect with
    | created req raw token named tokens =>
      rw [tokens, lookup_insert, if_neg ?_]
      · exact absent
      · rintro rfl
        exact fresh ⟨req, rfl⟩ before
    | updated target req old found tokens =>
      rw [tokens, lookup_insert, if_neg ?_]
      · exact absent
      · rintro rfl
        rw [absent] at found
        exact absurd found (by simp)
    | revoked target old found tokens =>
      rw [tokens, lookup_erase]
      split
      · rfl
      · exact absent

theorem Accountable.congr {op : SaveStep} (accountable : Accountable before op)
    (frame : ∀ req result, Accounted before req result → Accounted after req result) :
    Accountable after op := by
  cases op with
  | handle call => trivial
  | snapshot | write => exact fun result same => frame _ result (accountable result same)

theorem Accounts.step (accounts : Accounts pool)
    (inTurn : ∀ op ∈ pool.at index, InTurn pool.shared around op)
    (drawn : ∀ op ∈ pool.at index, FreshlyDrawn pool.shared around op)
    (done : pool.step (exec hash) index around = some next) : Accounts next := by
  obtain ⟨op, rest, ops, held, ran, -, -⟩ := step_cases done
  have turn := inTurn op (at_eq held)
  have fresh := drawn op (at_eq held)
  have mine : Accountable pool.shared op :=
    accounts.coming _ (mem_of_getElem? held) _ mem_cons_self
  have coming (frame : ∀ request result, Accounted pool.shared request result →
        Accounted next.shared request result)
      (new : ∀ other ∈ ops, other ∈ rest ∨ Accountable next.shared other) :
      next.Holds Accountable := by
    refine accounts.coming.step done (fun _ before => before.congr frame)
      fun op' rest' ops' present' _ executed' => ?_
    rw [held] at present'
    obtain ⟨rfl, rfl⟩ := cons.inj (some.inj present')
    rw [ran] at executed'
    cases executed'
    exact new
  cases op with
  | handle call =>
    rcases exec_handle ran with
      ⟨manager, result, answer, effect, promised, after, rfl⟩ | ⟨refusal, after, rfl⟩
    · have unused : (∃ req, call.request = .create req) →
          around.id ∉ pool.shared.manager.tokens ∧ around.id ∉ pool.shared.revokedIds := by
        obtain ⟨info, request⟩ := call
        rintro ⟨req, rfl⟩
        exact fresh
      have frame (request : TokenRequest) (result : TokenAnswer)
          (before : Accounted pool.shared request result) :
          Accounted (pool.shared.change manager) request result :=
        before.congr (subset_append_right _ _)
          (change_keeps effect fun create => AList.lookup_eq_none.mpr (unused create).1)
      rw [after] at coming
      refine ⟨?_, coming frame fun other mem => ?_, ?_⟩
      · rw [after]
        exact change_gone effect (fun create => (unused create).2) accounts.gone
      · rcases mem_cons.mp mem with rfl | later
        · refine .inr fun other same => ?_
          rw [promised] at same
          cases same
          exact change_accounted effect
        · exact .inl later
      · rw [after]
        exact fun request result mem => frame _ _ (accounts.given request result mem)
    · rw [after] at coming
      refine ⟨?_, coming (fun _ _ before => before.same rfl rfl) fun other mem => .inl mem, ?_⟩
      · rw [after]
        exact accounts.gone
      · rw [after]
        intro request result mem
        rcases mem_append.mp mem with before | new
        · exact (accounts.given request result before).same rfl rfl
        · exact absurd (Prod.mk.inj (mem_singleton.mp new)).2 (by simp)
  | snapshot request answer =>
    obtain ⟨after, rfl⟩ := Prod.mk.inj (some.inj ran)
    rw [← after] at coming
    refine ⟨?_, coming (fun _ _ before => before) fun other mem => ?_, ?_⟩
    · rw [← after]
      exact accounts.gone
    · rcases mem_cons.mp mem with rfl | later
      · exact .inr mine
      · exact .inl later
    · rw [← after]
      exact accounts.given
  | write request answer tokens changes =>
    dsimp only [exec] at ran
    rw [turn.1] at ran
    obtain ⟨after, rfl⟩ := Prod.mk.inj (some.inj ran)
    rw [← after] at coming
    refine ⟨?_, coming (fun _ _ before => before.same rfl rfl) fun other mem => .inl mem, ?_⟩
    · rw [← after]
      exact accounts.gone
    · rw [← after]
      intro other result mem
      rcases mem_append.mp mem with before | new
      · exact (accounts.given other result before).same rfl rfl
      · obtain ⟨rfl, promised⟩ := Prod.mk.inj (mem_singleton.mp new)
        exact (mine result promised.symm).same rfl rfl

/-! ### Runs -/

theorem sound_opened : Sound (opened file globalToken) where
  keyed := load_keyed file globalToken
  ahead := Nat.le_refl 0
  snapshots := fun _ mem => absurd mem not_mem_nil
  current := .inl ⟨rfl, fun _ => rfl, fun changed => absurd changed (Nat.lt_irrefl 0)⟩

theorem accounts_opened : Accounts (opened file globalToken) where
  gone := fun _ mem => absurd mem not_mem_nil
  coming := fun _ mem => absurd mem not_mem_nil
  given := fun _ _ mem => absurd mem not_mem_nil

theorem Sound.request (sound : Sound pool) (call : TokenCall) :
    Sound (pool.spawn [.handle call]) where
  keyed := sound.keyed
  ahead := sound.ahead
  snapshots := sound.snapshots.spawn fun _ mem => mem_singleton.mp mem ▸ trivial
  current := sound.current.imp_right fun ⟨ops, mem, newest⟩ =>
    ⟨ops, mem_append_left _ mem, newest⟩

theorem Accounts.request (accounts : Accounts pool) (call : TokenCall) :
    Accounts (pool.spawn [.handle call]) where
  gone := accounts.gone
  coming := accounts.coming.spawn fun _ mem => mem_singleton.mp mem ▸ trivial
  given := accounts.given

variable {file : TokensFile} {globalToken : List Char}
  {events : List (Event TokenCall Surroundings)}

theorem Steps.sound (inTurn : Steps hash InTurn file globalToken events) :
    Sound (run hash file globalToken events) :=
  Runs.Careful.kept Sound
    (fun _ event sound allowed => after_kept sound (fun call _ => sound.request call)
      fun _ _ _ isStep done => sound.step (by subst isStep; exact allowed) done)
    (sound_opened file globalToken) inTurn

theorem Steps.accounts (inTurn : Steps hash InTurn file globalToken events)
    (drawn : Steps hash FreshlyDrawn file globalToken events) :
    Accounts (run hash file globalToken events) :=
  Runs.Careful.kept Accounts
    (fun _ event accounts allowed => after_kept accounts
      (fun call _ => accounts.request call)
      fun _ _ _ isStep done => accounts.step (by subst isStep; exact allowed.1)
        (by subst isStep; exact allowed.2) done)
    (accounts_opened file globalToken) (Runs.Careful.and inTurn drawn)

theorem Sound.saved (sound : Sound pool) (finished : ∀ ops ∈ pool.threads, ops = []) :
    Saved pool.shared := by
  rcases sound.current with saved | ⟨ops, mem, op, inOps, -⟩
  · exact saved
  · rw [finished ops mem] at inOps
    exact absurd inOps not_mem_nil

theorem validate_held (keyed : manager.Keyed) {now : Nat} {busy : Bool} {raw : List Char}
    {info : TokenInfo} (valid : manager.validate hash now busy raw = some info)
    (agent : manager.IsAgent raw) : (manager.tokens.lookup info.tokenId).isSome := by
  obtain ⟨token, found, -, rfl⟩ := validate_eq_some valid agent
  obtain ⟨-, id, held⟩ := lookup_of_findByHash found
  rw [keyed id token held, held]
  rfl

/-- In a run whose writes are in turn, once every request is answered the file has the tokens in
memory. If no identifier is drawn twice, a token whose revocation was acknowledged is not valid
after a restart, and one whose creation was acknowledged is there unless it has been revoked. -/
theorem tokensFile_converges (hash : List Char → String) (file : TokensFile)
    (globalToken : List Char) (events : List (Event TokenCall Surroundings))
    (inTurn : Steps hash InTurn file globalToken events)
    (finished : ∀ ops ∈ (run hash file globalToken events).threads, ops = []) :
    (∀ id, (run hash file globalToken events).shared.restarted.tokens.lookup id =
      (run hash file globalToken events).shared.manager.tokens.lookup id) ∧
    (0 < (run hash file globalToken events).shared.changes →
      (run hash file globalToken events).shared.file =
        .list (run hash file globalToken events).shared.manager.snapshot) ∧
    (Steps hash FreshlyDrawn file globalToken events → (∀ id,
        (.revoke id, .ok .revoked) ∈ (run hash file globalToken events).shared.answered →
        ∀ now busy raw info,
        (run hash file globalToken events).shared.restarted.validate hash now busy raw = some info →
        (run hash file globalToken events).shared.restarted.IsAgent raw → info.tokenId ≠ id) ∧
      ∀ request raw token, (request, .ok (.created raw token)) ∈
          (run hash file globalToken events).shared.answered →
        token.id ∉ (run hash file globalToken events).shared.revokedIds →
        ∃ held, (run hash file globalToken events).shared.restarted.tokens.lookup token.id =
            some held ∧ held.tokenHash = token.tokenHash) := by
  have saved := inTurn.sound.saved finished
  refine ⟨saved.same, saved.exact, fun drawn => ⟨?_, ?_⟩⟩
  · rintro id acknowledged now busy raw info valid agent rfl
    have held := validate_held (load_keyed _ _) valid agent
    have gone := (inTurn.accounts drawn).gone _ ((inTurn.accounts drawn).given _ _ acknowledged)
    rw [← saved.same] at gone
    exact absurd (held.symm.trans (congrArg Option.isSome gone)) (by simp)
  · intro request raw token acknowledged unrevoked
    have accounted := (inTurn.accounts drawn).given _ _ acknowledged
    rw [saved.same]
    cases request <;> exact accounted.resolve_left unrevoked

instance decidableInTurn (store : TokenStore) (around : Surroundings) :
    ∀ op, Decidable (InTurn store around op)
  | .write _ _ _ changes =>
      inferInstanceAs (Decidable (around.saving = .done ∧ store.written ≤ changes))
  | .handle _ | .snapshot _ _ => isTrue trivial

instance decidableFreshlyDrawn (store : TokenStore) (around : Surroundings) :
    ∀ op, Decidable (FreshlyDrawn store around op)
  | .handle { request := .create _, .. } =>
      inferInstanceAs (Decidable (around.id ∉ store.manager.tokens ∧ around.id ∉ store.revokedIds))
  | .handle { request := .update _ _, .. } | .handle { request := .revoke _, .. }
  | .snapshot _ _ | .write _ _ _ _ => isTrue trivial

instance decidableSteps (allowed : TokenStore → Surroundings → SaveStep → Prop)
    [∀ store around op, Decidable (allowed store around op)] :
    Decidable (Steps hash allowed file globalToken events) :=
  let decide (pool : Pool TokenStore SaveStep) : ∀ event : Event TokenCall Surroundings,
      Decidable (match event with
        | .request _ => True
        | .step index around => ∀ op ∈ pool.at index, allowed pool.shared around op)
    | .request _ => isTrue trivial
    | .step _ _ => inferInstanceAs (Decidable (∀ op ∈ _, _))
  @Runs.decidableCareful _ _ _ _ decide _ _

def laptop : AgentToken where
  id := "a"
  name := "laptop"
  tokenHash := "dnt_a"
  tokenPrefix := []
  capabilities := ["terminal:write"]
  createdAt := 0

/-- A token is created and another one is revoked, one request after the other. -/
def oneByOne : List (Event TokenCall Surroundings) :=
  [.request ⟨.global, .create { name := "phone", capabilities := [] }⟩,
    .step 0 { raw := "dnt_b".toList, id := "b" }, .step 0 {}, .step 0 {},
    .request ⟨.global, .revoke "a"⟩, .step 1 {}, .step 1 {}, .step 1 {}]

theorem tokensFile_oneByOne :
    (∀ id, (run String.ofList (.list [laptop]) [] oneByOne).shared.restarted.tokens.lookup id =
      (run String.ofList (.list [laptop]) [] oneByOne).shared.manager.tokens.lookup id) ∧
    ∀ now busy raw info,
      (run String.ofList (.list [laptop]) [] oneByOne).shared.restarted.validate String.ofList now
        busy raw = some info →
      (run String.ofList (.list [laptop]) [] oneByOne).shared.restarted.IsAgent raw →
      info.tokenId ≠ "a" := by
  obtain ⟨same, -, kept⟩ := tokensFile_converges String.ofList (.list [laptop]) [] oneByOne
    (by decide +kernel) (by decide +kernel)
  have acknowledged : (.revoke "a", .ok .revoked) ∈
      (run String.ofList (.list [laptop]) [] oneByOne).shared.answered :=
    mem_of_getElem? (rfl : _[1]? = _)
  exact ⟨same, (kept (by decide +kernel)).1 "a" acknowledged⟩

/-- The same two requests, but the first one writes its snapshot last. -/
def crossed : List (Event TokenCall Surroundings) :=
  [.request ⟨.global, .create { name := "phone", capabilities := [] }⟩,
    .step 0 { raw := "dnt_b".toList, id := "b" }, .step 0 {},
    .request ⟨.global, .revoke "a"⟩, .step 1 {}, .step 1 {}, .step 1 {}, .step 0 {}]

/-- The token whose revocation was acknowledged is in the file again, and valid after a restart. -/
theorem revoked_comes_back :
    (∀ ops ∈ (run String.ofList (.list [laptop]) [] crossed).threads, ops = []) ∧
      (.revoke "a", .ok .revoked) ∈
        (run String.ofList (.list [laptop]) [] crossed).shared.answered ∧
      (run String.ofList (.list [laptop]) [] crossed).shared.manager.tokens.lookup "a" = none ∧
      ((run String.ofList (.list [laptop]) [] crossed).shared.restarted.validate String.ofList 0
        false "dnt_a".toList).isSome := by
  refine ⟨by decide +kernel, mem_of_getElem? (rfl : _[0]? = _), rfl, by decide +kernel⟩

end TokenStore

end Dinotty.Auth
