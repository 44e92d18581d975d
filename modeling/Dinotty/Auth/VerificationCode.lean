/-
This file is the store of the verification codes. A request reads the time to live and the clock
before it gets hold of an entry, and lets go of the entry before it removes it, so others may come
in between.
-/

import Dinotty.Auth.Credentials
import Dinotty.Foundation.Interleaving
import Dinotty.Foundation.KeyMap

namespace Dinotty.Auth.VerificationCode

open Interleaving List KeyMap Option Bool

/-! ### The store -/

abbrev RequestId := String

/-- The number of wrong guesses that end a code. -/
def maxAttempts : Nat := 5

/-- A second of the clock, which counts milliseconds. -/
def second : Nat := 1000

def rateWindow : Nat := 60 * second

structure CodeEntry where
  code : List Char
  createdAt : Nat
  attempts : Nat := 0
  consumed : Bool := false
  deriving DecidableEq

inductive VerifyOutcome where
  | ok
  | notFound
  | expired
  | consumed
  | tooManyAttempts
  | mismatch
  deriving DecidableEq

structure RateWindow where
  windowStart : Nat
  count : Nat
  deriving DecidableEq

structure CodeStore where
  codes : KeyMap RequestId CodeEntry := ∅
  rateMap : KeyMap IpAddr RateWindow := ∅
  ttlSeconds : Nat
  rateLimitPerMinute : Nat

namespace CodeStore

def new (ttlSeconds rateLimitPerMinute : Nat) : CodeStore where
  ttlSeconds := max ttlSeconds 1
  rateLimitPerMinute := max rateLimitPerMinute 1

def updateTtl (store : CodeStore) (ttl : Nat) : CodeStore :=
  { store with ttlSeconds := max ttl 1 }

def updateRateLimit (store : CodeStore) (limit : Nat) : CodeStore :=
  { store with rateLimitPerMinute := max limit 1 }

/-- Count a creation against the limit of its address, answering whether it is within it. -/
def countCreation (store : CodeStore) (clientIp : IpAddr) (now limit : Nat) : CodeStore × Bool :=
  let window := (store.rateMap.lookup clientIp).getD { windowStart := now, count := 0 }
  if now - window.windowStart < rateWindow then
    if limit ≤ window.count then
      ({ store with rateMap := store.rateMap.insert clientIp window }, false)
    else
      let window := { window with count := window.count + 1 }
      ({ store with rateMap := store.rateMap.insert clientIp window }, true)
  else
    let window := { windowStart := now, count := 1 }
    ({ store with rateMap := store.rateMap.insert clientIp window }, true)

def issue (store : CodeStore) (requestId : RequestId) (code : List Char) (createdAt : Nat) :
    CodeStore :=
  { store with codes := store.codes.insert requestId { code, createdAt } }

end CodeStore

/-- What a look at an entry answers: the outcome, the entry as it is left, whether it is to be
removed afterwards, and how the comparison went. -/
structure Look where
  outcome : VerifyOutcome
  entry : CodeEntry
  removes : Bool := false
  compared : Option Bool := none

def CodeEntry.verify (entry : CodeEntry) (guess : List Char) (ttl now : Nat) : Look :=
  if ttl * second < now - entry.createdAt then { outcome := .expired, entry, removes := true }
  else if entry.consumed then { outcome := .consumed, entry }
  else if maxAttempts ≤ entry.attempts then
    { outcome := .tooManyAttempts, entry, removes := true }
  else if constantTimeEq entry.code guess then
    { outcome := .ok, entry := { entry with consumed := true }, compared := some true }
  else
    let entry := { entry with attempts := entry.attempts + 1 }
    if maxAttempts ≤ entry.attempts then
      { outcome := .tooManyAttempts, entry, removes := true, compared := some false }
    else { outcome := .mismatch, entry, compared := some false }

def CodeEntry.isKept (entry : CodeEntry) (ttl now : Nat) : Bool :=
  !entry.consumed && now - entry.createdAt ≤ ttl * second

/-! ### The requests -/

/-- What a request has still to do, with what it has read so far. -/
inductive Op where
  | startCreate (clientIp : IpAddr)
  | countCreation (clientIp : IpAddr) (now limit : Nat)
  | issue (now : Nat)
  | loadTtl (requestId : RequestId) (guess : List Char)
  | readClock (requestId : RequestId) (guess : List Char) (ttl loadedAt : Nat)
  | verify (requestId : RequestId) (guess : List Char) (ttl loadedAt now : Nat)
  | remove (requestId : RequestId)
  | loadCleanupTtl
  | readCleanupClock (ttl : Nat)
  | retain (ttl now : Nat)
  | retainWindows (now : Nat)
  | updateTtl (ttl : Nat)
  | updateRateLimit (limit : Nat)

/-- What chance decides: the identifier and the code of a creation, and the entry that a cleanup
comes to next. -/
inductive Choice where
  | none
  | drawn (requestId : RequestId) (code : List Char)
  | visit (requestId : RequestId)

structure Issue where
  code : List Char
  createdAt : Nat

/-- A verification that has looked for its entry. -/
structure Check where
  requestId : RequestId
  guess : List Char
  ttl : Nat
  loadedAt : Nat
  time : Nat
  outcome : VerifyOutcome
  compared : Option Bool

/-- A time to live and when it came into force. -/
structure Term where
  since : Nat
  ttl : Nat

/-- The store and the clock, with a record of what has been issued, checked and put in force, which
nothing reads. -/
structure Shared where
  store : CodeStore
  now : Nat := 0
  issued : KeyMap RequestId Issue := ∅
  history : List Check := []
  terms : List Term

def Shared.check (shared : Shared) (requestId : RequestId) (guess : List Char)
    (ttl loadedAt now : Nat) : Shared × Bool :=
  match shared.store.codes.lookup requestId with
  | none =>
      ({ shared with
          history := shared.history ++
            [{ requestId, guess, ttl, loadedAt, time := now, outcome := .notFound,
               compared := none }] }, false)
  | some entry =>
      let look := entry.verify guess ttl now
      ({ shared with
          store := { shared.store with codes := shared.store.codes.insert requestId look.entry }
          history := shared.history ++
            [{ requestId, guess, ttl, loadedAt, time := now, outcome := look.outcome,
               compared := look.compared }] }, look.removes)

def setStore (shared : Shared) (store : CodeStore) : Shared := { shared with store }

def exec : Exec Shared Op Choice := fun _ choice op rest shared =>
  match op with
  | .startCreate clientIp =>
      some (shared, .countCreation clientIp shared.now shared.store.rateLimitPerMinute :: rest)
  | .countCreation clientIp now limit =>
      let (store, within) := shared.store.countCreation clientIp now limit
      some (setStore shared store, if within then .issue now :: rest else rest)
  | .issue now =>
      match choice with
      | .drawn requestId code =>
          some ({ shared with
              store := shared.store.issue requestId code now
              issued := shared.issued.insert requestId { code, createdAt := now } }, rest)
      | _ => none
  | .loadTtl requestId guess =>
      some (shared, .readClock requestId guess shared.store.ttlSeconds shared.now :: rest)
  | .readClock requestId guess ttl loadedAt =>
      some (shared, .verify requestId guess ttl loadedAt shared.now :: rest)
  | .verify requestId guess ttl loadedAt now =>
      let (shared, removes) := shared.check requestId guess ttl loadedAt now
      some (shared, if removes then .remove requestId :: rest else rest)
  | .remove requestId =>
      some (setStore shared
        { shared.store with codes := shared.store.codes.erase requestId }, rest)
  | .loadCleanupTtl => some (shared, .readCleanupClock shared.store.ttlSeconds :: rest)
  | .readCleanupClock ttl => some (shared, .retain ttl shared.now :: rest)
  | .retain ttl now =>
      match choice with
      | .visit requestId =>
          let kept := (shared.store.codes.lookup requestId).any (·.isKept ttl now)
          some (if kept then shared
            else setStore shared
              { shared.store with codes := shared.store.codes.erase requestId },
            .retain ttl now :: rest)
      | _ => some (shared, .retainWindows now :: rest)
  | .retainWindows now =>
      some (setStore shared
        { shared.store with
          rateMap := KeyMap.retain (fun _ window => now - window.windowStart < rateWindow)
            shared.store.rateMap }, rest)
  | .updateTtl ttl =>
      some ({ shared with
        store := shared.store.updateTtl ttl
        terms := shared.terms ++ [{ since := shared.now, ttl := max ttl 1 }] }, rest)
  | .updateRateLimit limit => some (setStore shared (shared.store.updateRateLimit limit), rest)

inductive Request where
  | create (clientIp : IpAddr)
  | verify (requestId : RequestId) (guess : List Char)
  | cleanup
  | updateTtl (ttl : Nat)
  | updateRateLimit (limit : Nat)

def Request.program : Request → List Op
  | .create clientIp => [.startCreate clientIp]
  | .verify requestId guess => [.loadTtl requestId guess]
  | .cleanup => [.loadCleanupTtl]
  | .updateTtl ttl => [.updateTtl ttl]
  | .updateRateLimit limit => [.updateRateLimit limit]

/-- What happens: a request comes, one of those that have come goes on, or time passes. -/
inductive Event where
  | request (request : Request)
  | step (index : Nat) (choice : Choice)
  | wait (duration : Nat)

abbrev World := Pool Shared Op

/-- An event that cannot happen leaves the world as it is. -/
def World.after (world : World) : Event → World
  | .request request => world.spawn request.program
  | .step index choice => (world.step exec index choice).getD world
  | .wait duration => { world with shared := { world.shared with now := world.shared.now + duration } }

def World.init (ttlSeconds rateLimitPerMinute : Nat) : World where
  shared :=
    { store := CodeStore.new ttlSeconds rateLimitPerMinute
      terms := [{ since := 0, ttl := max ttlSeconds 1 }] }
  threads := []

def World.run (world : World) (events : List Event) : World := events.foldl World.after world

/-- An identifier that is drawn has not been drawn before. -/
def Fresh (world : World) : Event → Prop
  | .step _ (.drawn requestId _) => requestId ∉ world.shared.issued
  | _ => True

/-- A run in which the identifiers that are drawn are new. -/
def FreshRun (world : World) : List Event → Prop
  | [] => True
  | event :: rest => Fresh world event ∧ FreshRun (world.after event) rest

/-! ### Safety of the shared state -/

/-- Whether a check has made a comparison, and it failed. -/
def Check.isWrong (requestId : RequestId) (check : Check) : Bool :=
  check.requestId = requestId && check.compared = some false

def Check.isOk (requestId : RequestId) (check : Check) : Bool :=
  check.requestId = requestId && check.outcome = .ok

@[simp] theorem Check.isWrong_iff {requestId : RequestId} {check : Check} :
    check.isWrong requestId = true ↔ check.requestId = requestId ∧ check.compared = some false := by
  simp [isWrong]

@[simp] theorem Check.isOk_iff {requestId : RequestId} {check : Check} :
    check.isOk requestId = true ↔ check.requestId = requestId ∧ check.outcome = .ok := by
  simp [isOk]

def wrongs (history : List Check) (requestId : RequestId) : Nat :=
  history.countP (Check.isWrong requestId)

def oks (history : List Check) (requestId : RequestId) : Nat :=
  history.countP (Check.isOk requestId)

/-- Whether a time to live was in force at a time: it had come into force, and no other had before
the time was over. -/
def InForce (terms : List Term) (ttl time : Nat) : Prop :=
  ∃ earlier term later, terms = earlier ++ term :: later ∧ term.ttl = ttl ∧ term.since ≤ time ∧
    ∀ other ∈ later, time ≤ other.since

/-- What has been read of the time to live: it was in force at the time it was read. -/
def Loaded (shared : Shared) (ttl loadedAt : Nat) : Prop :=
  InForce shared.terms ttl loadedAt ∧ loadedAt ≤ shared.now

/-- The guess is the code of the identifier, in time, and fewer comparisons than the limit had gone
wrong before. -/
structure Sound (issued : KeyMap RequestId Issue) (earlier : List Check) (check : Check) : Prop where
  issue : ∃ issue, issued.lookup check.requestId = some issue ∧ check.guess = issue.code ∧
    check.time - issue.createdAt ≤ check.ttl * second
  few : wrongs earlier check.requestId < maxAttempts

structure Safe (shared : Shared) : Prop where
  entries : ∀ requestId entry, shared.store.codes.lookup requestId = some entry →
    (∃ issue, shared.issued.lookup requestId = some issue ∧ entry.code = issue.code ∧
      entry.createdAt = issue.createdAt) ∧
    wrongs shared.history requestId = entry.attempts ∧
    oks shared.history requestId = entry.consumed.toNat
  unissued : ∀ requestId, requestId ∉ shared.issued →
    wrongs shared.history requestId = 0 ∧ oks shared.history requestId = 0
  once : ∀ requestId, oks shared.history requestId ≤ 1
  sound : ∀ earlier check later, shared.history = earlier ++ check :: later →
    check.outcome = .ok → Sound shared.issued earlier check
  loaded : ∀ check ∈ shared.history,
    Loaded shared check.ttl check.loadedAt ∧ check.loadedAt ≤ check.time
  current : ∃ earlier term, shared.terms = earlier ++ [term] ∧
    term.ttl = shared.store.ttlSeconds ∧ term.since ≤ shared.now

/-- What a request has read before is what the store and the clock had. -/
def Ready (shared : Shared) : Op → Prop
  | .readClock _ _ ttl loadedAt => Loaded shared ttl loadedAt
  | .verify _ _ ttl loadedAt now => Loaded shared ttl loadedAt ∧ loadedAt ≤ now
  | _ => True

/-- Time passes, and a new time to live comes into force at its time. -/
structure Later (before after : Shared) : Prop where
  now : before.now ≤ after.now
  terms : after.terms = before.terms ∨
    ∃ ttl, after.terms = before.terms ++ [{ since := before.now, ttl }]

theorem Later.refl (shared : Shared) : Later shared shared := ⟨Nat.le_refl _, .inl rfl⟩

theorem Loaded.later {before after : Shared} {ttl loadedAt : Nat}
    (loaded : Loaded before ttl loadedAt) (later : Later before after) :
    Loaded after ttl loadedAt := by
  obtain ⟨⟨earlier, term, rest, whole, isTtl, started, notOver⟩, past⟩ := loaded
  refine ⟨?_, Nat.le_trans past later.now⟩
  rcases later.terms with same | ⟨next, same⟩
  · exact ⟨earlier, term, rest, same.trans whole, isTtl, started, notOver⟩
  · refine ⟨earlier, term, rest ++ [{ since := before.now, ttl := next }],
      by rw [same, whole]; simp, isTtl, started, fun other mem => ?_⟩
    rcases mem_append.mp mem with old | new
    · exact notOver other old
    · obtain rfl := mem_singleton.mp new
      exact past

theorem Ready.later {before after : Shared} {op : Op} (ready : Ready before op)
    (later : Later before after) : Ready after op := by
  cases op with
  | readClock requestId guess ttl loadedAt => exact Loaded.later ready later
  | verify requestId guess ttl loadedAt now => exact ⟨ready.1.later later, ready.2⟩
  | _ => trivial

variable {shared : Shared}

theorem loaded_current (safe : Safe shared) : Loaded shared shared.store.ttlSeconds shared.now := by
  obtain ⟨earlier, term, whole, isTtl, started⟩ := safe.current
  exact ⟨⟨earlier, term, [], whole, isTtl, started, nofun⟩, Nat.le_refl _⟩

variable (hist : List Check)

theorem wrongs_append (check : Check) (requestId : RequestId) :
    wrongs (hist ++ [check]) requestId =
      wrongs hist requestId + (check.isWrong requestId).toNat := by
  rw [wrongs, countP_append, countP_singleton]
  cases check.isWrong requestId <;> rfl

theorem oks_append (check : Check) (requestId : RequestId) :
    oks (hist ++ [check]) requestId = oks hist requestId + (check.isOk requestId).toNat := by
  rw [oks, countP_append, countP_singleton]
  cases check.isOk requestId <;> rfl

theorem split_append_singleton {Item : Type} {items earlier later : List Item} {last item : Item}
    (same : items ++ [last] = earlier ++ item :: later) :
    earlier = items ∧ item = last ∨
      ∃ rest, later = rest ++ [last] ∧ items = earlier ++ item :: rest := by
  rcases eq_nil_or_concat later with rfl | ⟨rest, final, rfl⟩
  · obtain ⟨before, only⟩ := append_inj' same rfl
    exact .inl ⟨before.symm, (singleton_inj.mp only).symm⟩
  · rw [concat_eq_append, ← cons_append, ← append_assoc] at same
    obtain ⟨before, only⟩ := append_inj' same rfl
    exact .inr ⟨rest, by rw [concat_eq_append, singleton_inj.mp only], before⟩

theorem Safe.setStore (safe : Safe shared) {store : CodeStore}
    (codes : ∀ requestId entry, store.codes.lookup requestId = some entry →
      shared.store.codes.lookup requestId = some entry)
    (ttl : store.ttlSeconds = shared.store.ttlSeconds) :
    Safe (setStore shared store) where
  entries := fun requestId entry held => safe.entries requestId entry (codes _ _ held)
  unissued := safe.unissued
  once := safe.once
  sound := safe.sound
  loaded := safe.loaded
  current := by
    obtain ⟨earlier, term, whole, isTtl, started⟩ := safe.current
    exact ⟨earlier, term, whole, isTtl.trans ttl.symm, started⟩

theorem lookup_erase_some {codes : KeyMap RequestId CodeEntry} {gone requestId : RequestId}
    {entry : CodeEntry} (held : (codes.erase gone).lookup requestId = some entry) :
    codes.lookup requestId = some entry := by
  exact (of_lookup_erase held).2

theorem Safe.issue (safe : Safe shared) {requestId : RequestId}
    (fresh : requestId ∉ shared.issued) (code : List Char) (now : Nat) :
    Safe { shared with
      store := shared.store.issue requestId code now
      issued := shared.issued.insert requestId { code, createdAt := now } } where
  entries := by
    intro other entry held
    dsimp only [CodeStore.issue] at held ⊢
    rw [lookup_insert] at held ⊢
    split at held
    next here =>
      cases held
      obtain ⟨noWrong, noOk⟩ := safe.unissued requestId fresh
      rw [if_pos here, here]
      exact ⟨⟨_, rfl, rfl, rfl⟩, noWrong, noOk⟩
    next away =>
      rw [if_neg away]
      exact safe.entries other entry held
  unissued := by
    intro other absent
    exact safe.unissued other fun mem => absent (AList.mem_insert _ |>.mpr (.inr mem))
  once := safe.once
  sound := by
    intro earlier check later whole isOk
    have sound := safe.sound earlier check later whole isOk
    obtain ⟨issue, held, right⟩ := sound.issue
    refine ⟨⟨issue, ?_, right⟩, sound.few⟩
    have old : check.requestId ∈ shared.issued :=
      AList.lookup_isSome.mp (isSome_of_eq_some held)
    have ne : check.requestId ≠ requestId := fun same => fresh (same ▸ old)
    rw [lookup_insert, if_neg ne, held]
  loaded := safe.loaded
  current := safe.current

/-- What verifying a guess may do with an entry: nothing, consume it for the right guess, or count
a wrong one. -/
inductive Looks (entry : CodeEntry) (guess : List Char) (ttl now : Nat) (look : Look) : Prop where
  | nothing (compared : look.compared = none) (outcome : look.outcome ≠ .ok)
      (same : look.entry = entry) : Looks entry guess ttl now look
  | right (compared : look.compared = some true) (outcome : look.outcome = .ok)
      (same : look.entry = { entry with consumed := true }) (right : entry.code = guess)
      (unused : entry.consumed = false) (few : entry.attempts < maxAttempts)
      (inTime : now - entry.createdAt ≤ ttl * second) : Looks entry guess ttl now look
  | wrong (compared : look.compared = some false) (outcome : look.outcome ≠ .ok)
      (same : look.entry = { entry with attempts := entry.attempts + 1 }) :
      Looks entry guess ttl now look

theorem CodeEntry.looks_verify (entry : CodeEntry) (guess : List Char) (ttl now : Nat) :
    Looks entry guess ttl now (entry.verify guess ttl now) := by
  unfold verify
  split
  · exact .nothing rfl nofun rfl
  next inTime =>
    split
    · exact .nothing rfl nofun rfl
    next unused =>
      split
      · exact .nothing rfl nofun rfl
      next few =>
        split
        next right =>
          exact .right rfl rfl rfl ((constantTimeEq_iff _ _).mp right)
            (eq_false_iff.mpr unused) (Nat.not_le.mp few) (Nat.not_lt.mp inTime)
        · dsimp only
          split <;> exact .wrong rfl nofun rfl

/-- A check that is recorded keeps what is recorded right, if it is so itself and the entries
follow the record. -/
theorem Safe.record (safe : Safe shared) {check : Check} {store : CodeStore}
    (entries : ∀ requestId entry, store.codes.lookup requestId = some entry →
      (∃ issue, shared.issued.lookup requestId = some issue ∧ entry.code = issue.code ∧
        entry.createdAt = issue.createdAt) ∧
      wrongs (shared.history ++ [check]) requestId = entry.attempts ∧
      oks (shared.history ++ [check]) requestId = entry.consumed.toNat)
    (issued : check.compared ≠ none ∨ check.outcome = .ok → check.requestId ∈ shared.issued)
    (first : check.outcome = .ok → oks shared.history check.requestId = 0)
    (sound : check.outcome = .ok → Sound shared.issued shared.history check)
    (loaded : Loaded shared check.ttl check.loadedAt ∧ check.loadedAt ≤ check.time)
    (ttl : store.ttlSeconds = shared.store.ttlSeconds) :
    Safe { shared with store, history := shared.history ++ [check] } where
  entries := entries
  unissued := by
    intro requestId absent
    obtain ⟨noWrong, noOk⟩ := safe.unissued requestId absent
    rw [wrongs_append, oks_append, noWrong, noOk]
    have notWrong : check.isWrong requestId = false := by
      refine eq_false_iff.mpr fun wrong => ?_
      obtain ⟨rfl, compared⟩ := Check.isWrong_iff.mp wrong
      exact absent (issued (.inl (by rw [compared]; exact nofun)))
    have notOk : check.isOk requestId = false := by
      refine eq_false_iff.mpr fun isOk => ?_
      obtain ⟨rfl, outcome⟩ := Check.isOk_iff.mp isOk
      exact absent (issued (.inr outcome))
    rw [notWrong, notOk]
    exact ⟨rfl, rfl⟩
  once := by
    intro requestId
    rw [oks_append]
    cases isOk : check.isOk requestId with
    | false => exact safe.once requestId
    | true =>
      obtain ⟨rfl, outcome⟩ := Check.isOk_iff.mp isOk
      rw [first outcome]
      exact Nat.le_refl 1
  sound := by
    intro earlier other later whole isOk
    rcases split_append_singleton whole with ⟨rfl, rfl⟩ | ⟨rest, -, before⟩
    · exact sound isOk
    · exact safe.sound earlier other rest before isOk
  loaded := by
    intro other mem
    rcases mem_append.mp mem with old | new
    · exact safe.loaded other old
    · obtain rfl := mem_singleton.mp new
      exact loaded
  current := by
    obtain ⟨earlier, term, whole, isTtl, started⟩ := safe.current
    exact ⟨earlier, term, whole, isTtl.trans ttl.symm, started⟩

theorem counts_of_ne {check : Check} {requestId : RequestId} (other : check.requestId ≠ requestId) :
    wrongs (hist ++ [check]) requestId = wrongs hist requestId ∧
      oks (hist ++ [check]) requestId = oks hist requestId := by
  have notWrong : check.isWrong requestId = false :=
    eq_false_iff.mpr fun wrong => other (Check.isWrong_iff.mp wrong).1
  have notOk : check.isOk requestId = false :=
    eq_false_iff.mpr fun isOk => other (Check.isOk_iff.mp isOk).1
  rw [wrongs_append, oks_append, notWrong, notOk]
  exact ⟨rfl, rfl⟩

theorem counts_of_none {check : Check} (requestId : RequestId)
    (compared : check.compared = none) (outcome : check.outcome ≠ .ok) :
    wrongs (hist ++ [check]) requestId = wrongs hist requestId ∧
      oks (hist ++ [check]) requestId = oks hist requestId := by
  have notWrong : check.isWrong requestId = false := by
    refine eq_false_iff.mpr fun wrong => ?_
    cases compared.symm.trans (Check.isWrong_iff.mp wrong).2
  have notOk : check.isOk requestId = false :=
    eq_false_iff.mpr fun isOk => outcome (Check.isOk_iff.mp isOk).2
  rw [wrongs_append, oks_append, notWrong, notOk]
  exact ⟨rfl, rfl⟩

/-- The entry of a check has the counts of the check, and the other entries keep theirs. -/
theorem Safe.entries_insert (safe : Safe shared) {entry left : CodeEntry}
    {check : Check} (held : shared.store.codes.lookup check.requestId = some entry)
    (sameCode : left.code = entry.code) (sameCreated : left.createdAt = entry.createdAt)
    (wrong : entry.attempts + (check.isWrong check.requestId).toNat = left.attempts)
    (isOk : entry.consumed.toNat + (check.isOk check.requestId).toNat = left.consumed.toNat)
    (requestId : RequestId) (found : CodeEntry)
    (atId : (shared.store.codes.insert check.requestId left).lookup requestId = some found) :
    (∃ issue, shared.issued.lookup requestId = some issue ∧ found.code = issue.code ∧
      found.createdAt = issue.createdAt) ∧
    wrongs (shared.history ++ [check]) requestId = found.attempts ∧
    oks (shared.history ++ [check]) requestId = found.consumed.toNat := by
  rw [lookup_insert] at atId
  split at atId
  next here =>
    cases atId
    obtain ⟨⟨issue, isIssued, isCode, isCreated⟩, wrongCount, okCount⟩ :=
      safe.entries check.requestId entry held
    rw [here, wrongs_append, oks_append, wrongCount, okCount]
    exact ⟨⟨issue, isIssued, sameCode.trans isCode, sameCreated.trans isCreated⟩, wrong, isOk⟩
  next away =>
    obtain ⟨wrongCount, okCount⟩ := counts_of_ne shared.history (Ne.symm away)
    rw [wrongCount, okCount]
    exact safe.entries requestId found atId

/-- A look at an entry is recorded with what it does to the entry. -/
theorem Safe.look (safe : Safe shared) {check : Check}
    (loaded : Loaded shared check.ttl check.loadedAt) (ordered : check.loadedAt ≤ check.time)
    {entry : CodeEntry} (held : shared.store.codes.lookup check.requestId = some entry)
    {look : Look} (looks : Looks entry check.guess check.ttl check.time look)
    (isOutcome : check.outcome = look.outcome) (isCompared : check.compared = look.compared) :
    Safe { shared with
      store := { shared.store with codes := shared.store.codes.insert check.requestId look.entry }
      history := shared.history ++ [check] } := by
  obtain ⟨⟨issue, isIssued, isCode, isCreated⟩, wrongCount, okCount⟩ :=
    safe.entries check.requestId entry held
  have mem : check.requestId ∈ shared.issued :=
    AList.lookup_isSome.mp (isSome_of_eq_some isIssued)
  cases looks with
  | nothing compared outcome same =>
    refine safe.record (safe.entries_insert held ?_ ?_ ?_ ?_) (fun _ => mem)
      (fun isOk => absurd (isOutcome.symm.trans isOk) outcome)
      (fun isOk => absurd (isOutcome.symm.trans isOk) outcome) ⟨loaded, ordered⟩ rfl
    all_goals simp [Check.isWrong, Check.isOk, isCompared, isOutcome, compared, outcome, same]
  | right compared outcome same right unused few inTime =>
    have none : oks shared.history check.requestId = 0 := by rw [okCount, unused]; rfl
    rw [isCreated] at inTime
    rw [← wrongCount] at few
    refine safe.record (safe.entries_insert held ?_ ?_ ?_ ?_) (fun _ => mem)
      (fun _ => none) (fun _ => ⟨⟨issue, isIssued, right.symm.trans isCode, inTime⟩, few⟩)
      ⟨loaded, ordered⟩ rfl
    all_goals
      simp [Check.isWrong, Check.isOk, isCompared, isOutcome, compared, outcome, same, unused]
  | wrong compared outcome same =>
    refine safe.record (safe.entries_insert held ?_ ?_ ?_ ?_) (fun _ => mem)
      (fun isOk => absurd (isOutcome.symm.trans isOk) outcome)
      (fun isOk => absurd (isOutcome.symm.trans isOk) outcome) ⟨loaded, ordered⟩ rfl
    all_goals simp [Check.isWrong, Check.isOk, isCompared, isOutcome, compared, outcome, same]

theorem Safe.notFound (safe : Safe shared) {check : Check}
    (loaded : Loaded shared check.ttl check.loadedAt) (ordered : check.loadedAt ≤ check.time)
    (outcome : check.outcome = .notFound) (compared : check.compared = none) :
    Safe { shared with history := shared.history ++ [check] } := by
  have notOk : check.outcome ≠ .ok := by rw [outcome]; exact nofun
  refine safe.record (fun other entry found => ?_) (fun either => ?_)
    (fun isOk => absurd isOk notOk) (fun isOk => absurd isOk notOk) ⟨loaded, ordered⟩ rfl
  · obtain ⟨wrong, isOk⟩ := counts_of_none shared.history other compared notOk
    rw [wrong, isOk]
    exact safe.entries other entry found
  · exact absurd either (not_or.mpr ⟨not_not.mpr compared, notOk⟩)

theorem Safe.check (safe : Safe shared) (requestId : RequestId)
    (guess : List Char) {ttl loadedAt now : Nat} (loaded : Loaded shared ttl loadedAt)
    (ordered : loadedAt ≤ now) : Safe (shared.check requestId guess ttl loadedAt now).1 := by
  unfold Shared.check
  split
  · exact @Safe.notFound shared safe ⟨requestId, guess, ttl, loadedAt, now, _, _⟩ loaded ordered
      rfl rfl
  next entry held =>
    exact @Safe.look shared safe ⟨requestId, guess, ttl, loadedAt, now, _, _⟩ loaded ordered
      entry held _ (entry.looks_verify guess ttl now) rfl rfl

theorem Shared.check_later (shared : Shared) (requestId : RequestId) (guess : List Char)
    (ttl loadedAt now : Nat) :
    Later shared (shared.check requestId guess ttl loadedAt now).1 := by
  unfold check
  split <;> exact ⟨Nat.le_refl _, .inl rfl⟩

theorem countCreation_same (store : CodeStore) (clientIp : IpAddr) (now limit : Nat) :
    (store.countCreation clientIp now limit).1.codes = store.codes ∧
      (store.countCreation clientIp now limit).1.ttlSeconds = store.ttlSeconds := by
  unfold CodeStore.countCreation
  dsimp only
  split
  · split <;> exact ⟨rfl, rfl⟩
  · exact ⟨rfl, rfl⟩

theorem Safe.updateTtl (safe : Safe shared) (ttl : Nat)
    {after : Shared} (isAfter : after = { shared with
      store := shared.store.updateTtl ttl
      terms := shared.terms ++ [{ since := shared.now, ttl := max ttl 1 }] }) :
    Safe after ∧ Later shared after := by
  subst isAfter
  have later : Later shared { shared with
      store := shared.store.updateTtl ttl
      terms := shared.terms ++ [{ since := shared.now, ttl := max ttl 1 }] } :=
    ⟨Nat.le_refl _, .inr ⟨_, rfl⟩⟩
  refine ⟨⟨safe.entries, safe.unissued, safe.once, safe.sound, fun check mem => ?_,
    ⟨_, _, rfl, rfl, Nat.le_refl _⟩⟩, later⟩
  obtain ⟨loaded, ordered⟩ := safe.loaded check mem
  exact ⟨loaded.later later, ordered⟩

theorem exec_safe {i : Nat} {choice : Choice} {op : Op} {rest ops : List Op}
    {shared after : Shared} (safe : Safe shared) (ready : Ready shared op)
    (fresh : ∀ requestId code, choice = .drawn requestId code → requestId ∉ shared.issued)
    (ran : exec i choice op rest shared = some (after, ops)) :
    Safe after ∧ Later shared after ∧ ∀ next ∈ ops, next ∈ rest ∨ Ready after next := by
  have stays : ∀ next ∈ rest, next ∈ rest ∨ Ready after next := fun _ mem => .inl mem
  have pushes : ∀ {first : Op}, Ready after first → ∀ next ∈ first :: rest,
      next ∈ rest ∨ Ready after next := by
    intro first firstReady next mem
    rcases mem_cons.mp mem with rfl | inRest
    · exact .inr firstReady
    · exact .inl inRest
  cases op with
  | startCreate clientIp =>
    cases ran
    exact ⟨safe, .refl _, pushes trivial⟩
  | countCreation clientIp now limit =>
    obtain ⟨codes, ttl⟩ := countCreation_same shared.store clientIp now limit
    simp only [exec, some.injEq, Prod.mk.injEq] at ran
    obtain ⟨rfl, rfl⟩ := ran
    refine ⟨safe.setStore (fun _ _ held => codes ▸ held) ttl, ⟨Nat.le_refl _, .inl rfl⟩, ?_⟩
    split
    · exact pushes trivial
    · exact stays
  | issue now =>
    cases choice with
    | drawn requestId code =>
      cases ran
      exact ⟨safe.issue (fresh requestId code rfl) code now, ⟨Nat.le_refl _, .inl rfl⟩, stays⟩
    | none | visit => cases ran
  | loadTtl requestId guess =>
    cases ran
    exact ⟨safe, .refl _, pushes (loaded_current safe)⟩
  | readClock requestId guess ttl loadedAt =>
    cases ran
    exact ⟨safe, .refl _, pushes ⟨ready, ready.2⟩⟩
  | verify requestId guess ttl loadedAt now =>
    simp only [exec, some.injEq, Prod.mk.injEq] at ran
    obtain ⟨rfl, rfl⟩ := ran
    refine ⟨safe.check requestId guess ready.1 ready.2, shared.check_later _ _ _ _ _, ?_⟩
    split
    · exact pushes trivial
    · exact stays
  | remove requestId =>
    cases ran
    exact ⟨safe.setStore (fun _ _ => lookup_erase_some) rfl, ⟨Nat.le_refl _, .inl rfl⟩, stays⟩
  | loadCleanupTtl | readCleanupClock =>
    cases ran
    exact ⟨safe, .refl _, pushes trivial⟩
  | retain ttl now =>
    cases choice with
    | visit requestId =>
      cases ran
      refine ⟨?_, ?_, pushes trivial⟩
      · split
        · exact safe
        · exact safe.setStore (fun _ _ => lookup_erase_some) rfl
      · split <;> exact ⟨Nat.le_refl _, .inl rfl⟩
    | none | drawn =>
      cases ran
      exact ⟨safe, .refl _, pushes trivial⟩
  | retainWindows now =>
    cases ran
    exact ⟨safe.setStore (fun _ _ held => held) rfl, ⟨Nat.le_refl _, .inl rfl⟩, stays⟩
  | updateTtl ttl =>
    obtain ⟨isAfter, rfl⟩ := Prod.mk.inj (some.inj ran)
    obtain ⟨safeAfter, later⟩ := safe.updateTtl ttl isAfter.symm
    exact ⟨safeAfter, later, stays⟩
  | updateRateLimit limit =>
    cases ran
    exact ⟨safe.setStore (fun _ _ held => held) rfl, ⟨Nat.le_refl _, .inl rfl⟩, stays⟩

/-! ### Safety of every run -/

/-- Whether all that a request has still to do is ready. -/
def AllReady (_ : Nat) (shared : Shared) (ops : List Op) : Prop := ∀ op ∈ ops, Ready shared op

structure World.Safe (world : World) : Prop where
  shared : VerificationCode.Safe world.shared
  ready : world.Stands AllReady

theorem ready_program (shared : Shared) (request : Request) (i : Nat) :
    AllReady i shared request.program := by
  intro op mem
  cases request <;> obtain rfl := mem_singleton.mp mem <;> trivial

theorem World.Safe.wait {world : World} (safe : world.Safe) (duration : Nat) :
    (world.after (.wait duration)).Safe := by
  have later : Later world.shared (world.after (.wait duration)).shared :=
    ⟨Nat.le_add_right _ _, .inl rfl⟩
  refine ⟨⟨safe.shared.entries, safe.shared.unissued, safe.shared.once, safe.shared.sound,
    fun check mem => ?_, ?_⟩, fun i ops held op mem => ?_⟩
  · obtain ⟨loaded, ordered⟩ := safe.shared.loaded check mem
    exact ⟨loaded.later later, ordered⟩
  · obtain ⟨earlier, term, whole, isTtl, started⟩ := safe.shared.current
    exact ⟨earlier, term, whole, isTtl, Nat.le_trans started later.now⟩
  · exact (safe.ready i ops held op mem).later later

theorem World.Safe.step {world next : World} (safe : world.Safe) {i : Nat} {choice : Choice}
    (fresh : Fresh world (.step i choice))
    (done : world.step exec i choice = some next) : next.Safe := by
  obtain ⟨op, rest, ops, held, ran, own, same⟩ := Pool.step_cases done
  have readyOps := safe.ready i _ held
  have isFresh : ∀ requestId code, choice = .drawn requestId code →
      requestId ∉ world.shared.issued := by
    rintro requestId code rfl
    exact fresh
  obtain ⟨safeNext, later, ready⟩ :=
    exec_safe safe.shared (readyOps op mem_cons_self) isFresh ran
  refine ⟨safeNext, Pool.step_stands safe.ready done ?_ ?_⟩
  · intro op' rest' ops' present' _ executed' next mem
    obtain ⟨rfl, rfl⟩ := cons.inj (some.inj (present'.symm.trans held))
    obtain rfl := (Prod.mk.inj (some.inj (executed'.symm.trans ran))).2
    rcases ready next mem with inRest | isReady
    · exact (readyOps next (mem_cons_of_mem _ inRest)).later later
    · exact isReady
  · exact fun other ops' _ _ stands op mem => (stands op mem).later later

theorem World.Safe.after {world : World} (safe : world.Safe) {event : Event}
    (fresh : Fresh world event) : (world.after event).Safe := by
  cases event with
  | request request => exact ⟨safe.shared, Pool.spawn_stands safe.ready (ready_program _ _ _)⟩
  | step i choice =>
    cases done : world.step exec i choice with
    | none =>
      rw [World.after, done]
      exact safe
    | some next =>
      rw [World.after, done]
      exact safe.step fresh done
  | wait duration => exact safe.wait duration

theorem World.safe_init (ttlSeconds rateLimitPerMinute : Nat) :
    (init ttlSeconds rateLimitPerMinute).Safe where
  shared :=
    { entries := nofun
      unissued := fun _ _ => ⟨rfl, rfl⟩
      once := fun _ => Nat.zero_le 1
      sound := fun earlier check later whole => by
        cases earlier <;> cases whole
      loaded := nofun
      current := ⟨[], _, rfl, rfl, Nat.le_refl 0⟩ }
  ready := nofun

theorem World.Safe.run {world : World} (safe : world.Safe) {events : List Event}
    (fresh : FreshRun world events) : (world.run events).Safe := by
  induction events generalizing world with
  | nil => exact safe
  | cons event rest ih =>
    exact ih (safe.after fresh.1) fresh.2

/-- A code is good for one success, whatever requests run at the same time, for the right guess,
within the time to live that was in force when the request began, and when fewer comparisons than
the limit had gone wrong before. -/
theorem verification_single_use {ttlSeconds rateLimitPerMinute : Nat} {events : List Event}
    (fresh : FreshRun (World.init ttlSeconds rateLimitPerMinute) events)
    (requestId : RequestId) :
    let shared := ((World.init ttlSeconds rateLimitPerMinute).run events).shared
    oks shared.history requestId ≤ 1 ∧
      ∀ earlier check later, shared.history = earlier ++ check :: later →
        check.requestId = requestId → check.outcome = .ok →
        (∃ issue, shared.issued.lookup requestId = some issue ∧ check.guess = issue.code ∧
          check.time - issue.createdAt ≤ check.ttl * second) ∧
        InForce shared.terms check.ttl check.loadedAt ∧ check.loadedAt ≤ check.time ∧
        wrongs earlier requestId < maxAttempts := by
  have safe := ((World.safe_init ttlSeconds rateLimitPerMinute).run fresh).shared
  refine ⟨safe.once requestId, ?_⟩
  rintro earlier check later whole rfl isOk
  have sound := safe.sound earlier check later whole isOk
  obtain ⟨⟨inForce, -⟩, ordered⟩ := safe.loaded check (by rw [whole]; simp)
  exact ⟨sound.issue, inForce, ordered, sound.few⟩

/-- A code is created and verified with a wrong guess and then with the right one, twice. -/
def createdAndVerified : List Event :=
  [.request (.create (.v4 0)), .step 0 .none, .step 0 .none,
    .step 0 (.drawn "r1" ['1', '2']), .request (.verify "r1" ['0', '0']), .step 1 .none,
    .step 1 .none, .step 1 .none, .request (.verify "r1" ['1', '2']),
    .request (.verify "r1" ['1', '2']), .step 2 .none, .step 3 .none, .step 2 .none,
    .step 3 .none, .step 3 .none, .step 2 .none]

theorem verification_single_use_example :
    let shared := ((World.init 300 5).run createdAndVerified).shared
    oks shared.history "r1" ≤ 1 ∧
      ∀ earlier check later, shared.history = earlier ++ check :: later →
        check.requestId = "r1" → check.outcome = .ok →
        (∃ issue, shared.issued.lookup "r1" = some issue ∧ check.guess = issue.code ∧
          check.time - issue.createdAt ≤ check.ttl * second) ∧
        InForce shared.terms check.ttl check.loadedAt ∧ check.loadedAt ≤ check.time ∧
        wrongs earlier "r1" < maxAttempts :=
  @verification_single_use 300 5 createdAndVerified
    ⟨trivial, trivial, trivial, by unfold Fresh; decide +kernel, trivial, trivial, trivial, trivial,
      trivial, trivial, trivial, trivial, trivial, trivial, trivial, trivial, trivial⟩ "r1"

example : (((World.init 300 5).run createdAndVerified).shared.history.map (·.outcome)) =
    [.mismatch, .ok, .consumed] := by decide +kernel

end Dinotty.Auth.VerificationCode
