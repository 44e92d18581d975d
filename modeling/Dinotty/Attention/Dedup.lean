/-
This file proves that the deduplication of requests runs each at most once. The ledger forgets what
has expired; a register of reservations forgets nothing, and the ledger answers as it does.
-/

import Dinotty.Attention.Invariant
import Dinotty.Foundation.Reservations

namespace Dinotty.Attention

open Reservations List Option Bool

/-! ### Runs with a clock -/

def LedgerCall.nowMs : LedgerCall → Nat
  | .recordPaneEvent _ _ _ nowMs => nowMs
  | .recordNotifEvent _ _ _ nowMs => nowMs
  | .markRead _ _ _ nowMs => nowMs
  | .paneClosed _ nowMs => nowMs
  | .sweep nowMs => nowMs
  | .reserve _ _ _ nowMs => nowMs
  | .complete _ _ _ nowMs => nowMs

/-- A grant of a key to a request with a payload hash, or its completion. -/
abbrev DedupEvent := Event (String × String) Nat DedupOutcome

def dedupHorizons : Horizons := ⟨reservationTimeout, dedupTtl⟩

/-- A ledger, the time of its last call, the grants of reservations and the completions that have
succeeded. -/
structure DedupRun where
  ledger : AttentionLedger
  clock : Nat
  history : List DedupEvent

namespace DedupRun

def start (epoch : String) : DedupRun := ⟨.withEpoch epoch, 0, []⟩

/-- What the answer to a reservation adds to the history. -/
def granted (key : String × String) (payloadHash nowMs : Nat) : ReserveResult → List DedupEvent
  | .reserved generation => [.granted key generation payloadHash nowMs]
  | _ => []

/-- A call that is not earlier than the last one. -/
def step (state : DedupRun) (call : LedgerCall) : Option DedupRun :=
  if call.nowMs < state.clock then none
  else match call with
    | .reserve clientId requestId payloadHash nowMs =>
        (state.ledger.reserve clientId requestId payloadHash nowMs).map fun (ledger, result) =>
          ⟨ledger, nowMs, state.history ++ granted (clientId, requestId) payloadHash nowMs result⟩
    | .complete key generation outcome nowMs =>
        let (ledger, completed) := state.ledger.complete key generation outcome nowMs
        some ⟨ledger, nowMs,
          if completed then state.history ++ [.completed key generation outcome nowMs]
          else state.history⟩
    | call => (state.ledger.call call).map fun (ledger, _) => ⟨ledger, call.nowMs, state.history⟩

end DedupRun

/-! ### What the ledger holds -/

/-- An entry is what the register knows of its key, or is gone because that has expired. -/
def Held (clock : Nat) (entry : Option DedupEntry) : Slot Nat DedupOutcome → Prop
  | .free => entry = none
  | .pending generation payloadHash since =>
      entry = some ⟨payloadHash, .inFlight since generation⟩ ∨
        entry = none ∧ since + reservationTimeout ≤ clock
  | .done _ payloadHash outcome since =>
      entry = some ⟨payloadHash, .done since outcome⟩ ∨ entry = none ∧ since + dedupTtl ≤ clock

/-- The ledger serves the register of its history. -/
structure DedupRun.Serves (state : DedupRun) : Prop where
  legal : Legal dedupHorizons state.history
  past : ∀ event ∈ state.history, event.time ≤ state.clock
  issued : ∀ event ∈ state.history, event.generation < state.ledger.nextDedupGeneration
  held : ∀ key, Held state.clock (state.ledger.dedup.lookup key) (slot state.history key)

theorem isExpired_iff {duration : Nat} (positive : 0 < duration) (start nowMs : Nat) :
    isExpired start duration nowMs = true ↔ start + duration ≤ nowMs := by
  rw [isExpired, decide_eq_true_eq]
  omega

theorem reservationTimeout_pos : 0 < reservationTimeout := by decide

theorem dedupTtl_pos : 0 < dedupTtl := by decide

variable {clock nowMs : Nat} {entry : Option DedupEntry} {known : Slot Nat DedupOutcome}

theorem Held.later (held : Held clock entry known) (passes : clock ≤ nowMs) :
    Held nowMs entry known := by
  cases known with
  | free => exact held
  | pending | done =>
    exact held.imp_right fun gone => ⟨gone.1, Nat.le_trans gone.2 passes⟩

theorem filter_live {since ttl : Nat} {entry : DedupEntry} (positive : 0 < ttl)
    (live : entry.live nowMs = !isExpired since ttl nowMs) :
    (some entry).filter (·.live nowMs) = some entry ∨
      (some entry).filter (·.live nowMs) = none ∧ since + ttl ≤ nowMs := by
  rw [filter_some, live]
  cases expired : isExpired since ttl nowMs with
  | true => exact .inr ⟨rfl, (isExpired_iff positive _ _).mp expired⟩
  | false => exact .inl rfl

theorem Held.sweep (held : Held nowMs entry known) :
    Held nowMs (entry.filter fun entry => entry.live nowMs) known := by
  cases known with
  | free =>
    obtain rfl : entry = none := held
    rfl
  | pending generation payloadHash since =>
    rcases held with rfl | ⟨rfl, expired⟩
    · exact filter_live reservationTimeout_pos rfl
    · exact Or.inr ⟨rfl, expired⟩
  | done generation payloadHash outcome since =>
    rcases held with rfl | ⟨rfl, expired⟩
    · exact filter_live dedupTtl_pos rfl
    · exact Or.inr ⟨rfl, expired⟩

variable {ledger next : AttentionLedger} {payloadHash : Nat}

theorem grant_eq {key : String × String} {res : ReserveResult}
    (done : ledger.grant key payloadHash nowMs = some (next, res)) :
    res = .reserved ledger.nextDedupGeneration ∧
      next = { ledger with
        nextDedupGeneration := ledger.nextDedupGeneration + 1
        dedup := ledger.dedup.insert key
          ⟨payloadHash, .inFlight nowMs ledger.nextDedupGeneration⟩ } := by
  obtain ⟨nextDedupGeneration, succ, equal⟩ := bind_eq_some_iff.mp done
  obtain rfl := checkedSucc_eq_some succ
  cases equal
  exact ⟨rfl, rfl⟩

variable {clientId requestId : String}

/-- A reservation is granted under a new generation when its key may be granted, and otherwise
changes nothing. -/
theorem reserve_cases {res : ReserveResult}
    (held : Held nowMs (ledger.dedup.lookup (clientId, requestId)) known)
    (done : ledger.reserve clientId requestId payloadHash nowMs = some (next, res)) :
    (known.Grantable dedupHorizons nowMs ∧ res = .reserved ledger.nextDedupGeneration ∧
      next = { ledger with
        nextDedupGeneration := ledger.nextDedupGeneration + 1
        dedup := ledger.dedup.insert (clientId, requestId)
          ⟨payloadHash, .inFlight nowMs ledger.nextDedupGeneration⟩ }) ∨
    next = ledger ∧ DedupRun.granted (clientId, requestId) payloadHash nowMs res = [] := by
  unfold AttentionLedger.reserve at done
  dsimp only at done
  cases known with
  | free =>
    rw [show ledger.dedup.lookup (clientId, requestId) = none from held] at done
    exact Or.inl ⟨trivial, grant_eq done⟩
  | pending generation found since =>
    rcases held with present | ⟨absent, expired⟩
    · rw [present] at done
      dsimp only at done
      split at done
      next expired =>
        exact Or.inl ⟨(isExpired_iff reservationTimeout_pos _ _).mp expired, grant_eq done⟩
      · refine Or.inr ?_
        split at done
        · cases done
          exact ⟨rfl, rfl⟩
        · cases done
          exact ⟨rfl, rfl⟩
    · rw [absent] at done
      exact Or.inl ⟨expired, grant_eq done⟩
  | done generation found outcome since =>
    rcases held with present | ⟨absent, expired⟩
    · rw [present] at done
      dsimp only at done
      split at done
      next expired =>
        exact Or.inl ⟨(isExpired_iff dedupTtl_pos _ _).mp expired, grant_eq done⟩
      · refine Or.inr ?_
        split at done
        · cases done
          exact ⟨rfl, rfl⟩
        · cases done
          exact ⟨rfl, rfl⟩
    · rw [absent] at done
      exact Or.inl ⟨expired, grant_eq done⟩

theorem reserve_pending {generation since : Nat}
    (held : Held clock (ledger.dedup.lookup (clientId, requestId))
      (.pending generation payloadHash since)) (passes : clock ≤ nowMs)
    (recent : nowMs < since + reservationTimeout) (other : Nat) :
    ledger.reserve clientId requestId other nowMs =
      some (ledger, if payloadHash = other then .inFlight else .conflict) := by
  rcases held with present | ⟨-, expired⟩
  · have live : isExpired since reservationTimeout nowMs = false :=
      eq_false_of_not_eq_true fun expired =>
        Nat.not_lt_of_le ((isExpired_iff reservationTimeout_pos _ _).mp expired) recent
    unfold AttentionLedger.reserve
    simp only [present, live, false_eq_true, if_false]
    by_cases same : payloadHash = other
    · rw [if_neg (not_not_intro same), if_pos same]
    · rw [if_pos same, if_neg same]
  · exact absurd recent (Nat.not_lt_of_le (Nat.le_trans expired passes))

theorem reserve_done {generation since : Nat} {outcome : DedupOutcome}
    (held : Held clock (ledger.dedup.lookup (clientId, requestId))
      (.done generation payloadHash outcome since)) (passes : clock ≤ nowMs)
    (recent : nowMs < since + dedupTtl) (other : Nat) :
    ledger.reserve clientId requestId other nowMs =
      some (ledger, if payloadHash = other then .replay outcome else .conflict) := by
  rcases held with present | ⟨-, expired⟩
  · have live : isExpired since dedupTtl nowMs = false :=
      eq_false_of_not_eq_true fun expired =>
        Nat.not_lt_of_le ((isExpired_iff dedupTtl_pos _ _).mp expired) recent
    unfold AttentionLedger.reserve
    simp only [present, live, false_eq_true, if_false]
    by_cases same : payloadHash = other
    · rw [if_neg (not_not_intro same), if_pos same]
    · rw [if_pos same, if_neg same]
  · exact absurd recent (Nat.not_lt_of_le (Nat.le_trans expired passes))

/-- A completion succeeds for the generation that its key is pending for, and otherwise changes
nothing. -/
theorem complete_cases {key : String × String}
    (held : Held clock (ledger.dedup.lookup key) known) (generation : Nat)
    (outcome : DedupOutcome) (nowMs : Nat) :
    (∃ payloadHash since, known = .pending generation payloadHash since ∧
      ledger.complete key generation outcome nowMs = ({ ledger with
          dedup := ledger.dedup.insert key ⟨payloadHash, .done nowMs outcome⟩ }, true)) ∨
    ledger.complete key generation outcome nowMs = (ledger, false) := by
  have missing (absent : ledger.dedup.lookup key = none) :
      ledger.complete key generation outcome nowMs = (ledger, false) := by
    rw [AttentionLedger.complete, absent]
  cases known with
  | free => exact Or.inr (missing held)
  | pending active payloadHash since =>
    rcases held with present | ⟨absent, -⟩
    · by_cases same : active = generation
      · refine Or.inl ⟨payloadHash, since, by rw [same], ?_⟩
        rw [AttentionLedger.complete, present]
        exact if_pos same
      · refine Or.inr ?_
        rw [AttentionLedger.complete, present]
        exact if_neg same
    · exact Or.inr (missing absent)
  | done active payloadHash found since =>
    refine Or.inr ?_
    rcases held with present | ⟨absent, -⟩
    · rw [AttentionLedger.complete, present]
    · exact missing absent

/-! ### The register of a run -/

theorem completes_dedup {call : LedgerCall} (completes : Completes ledger nowMs call next) :
    next.nextDedupGeneration = ledger.nextDedupGeneration ∧
      next.dedup = KeyMap.retain (fun _ entry => entry.live nowMs) ledger.dedup := by
  obtain ⟨expired, pending, capped, rev, expiry, changed, caps, rfl⟩ := completes
  obtain ⟨⟨panes, notifs, expiredEqual⟩, -⟩ := expireInto_eq expiry
  obtain ⟨⟨keptPanes, keptNotifs, cappedEqual⟩, -⟩ := enforceIdentityCaps_eq caps
  have same : (expired.ledger.changed call).nextDedupGeneration =
      expired.ledger.nextDedupGeneration ∧
      (expired.ledger.changed call).dedup = expired.ledger.dedup := by
    cases call with
    | markRead epoch panes notifs time =>
      by_cases stale : epoch ≠ expired.ledger.epoch
      · rw [AttentionLedger.changed, if_pos stale]
        exact ⟨rfl, rfl⟩
      · rw [AttentionLedger.changed, if_neg stale]
        exact ⟨rfl, rfl⟩
    | recordPaneEvent | recordNotifEvent | paneClosed | sweep | reserve
      | complete => exact ⟨rfl, rfl⟩
  rw [cappedEqual]
  show pending.ledger.nextDedupGeneration = _ ∧ pending.ledger.dedup = _
  rw [changed, same.1, same.2, expiredEqual]
  exact ⟨rfl, rfl⟩

namespace DedupRun

variable {state after : DedupRun}

theorem Serves.start (epoch : String) : (DedupRun.start epoch).Serves :=
  ⟨.nil, nofun, nofun, fun _ => rfl⟩

section

variable (serves : state.Serves) (passes : state.clock ≤ nowMs)
include serves passes

theorem Serves.unchanged : Serves ⟨state.ledger, nowMs, state.history⟩ :=
  ⟨serves.legal, fun event mem => Nat.le_trans (serves.past event mem) passes, serves.issued,
    fun key => (serves.held key).later passes⟩

theorem Serves.swept (generation : next.nextDedupGeneration = state.ledger.nextDedupGeneration)
    (dedup : next.dedup = KeyMap.retain (fun _ entry => entry.live nowMs) state.ledger.dedup) :
    Serves ⟨next, nowMs, state.history⟩ := by
  refine ⟨serves.legal, fun event mem => Nat.le_trans (serves.past event mem) passes,
    fun event mem => generation ▸ serves.issued event mem, fun key => ?_⟩
  show Held nowMs (next.dedup.lookup key) _
  rw [dedup, KeyMap.lookup_retain]
  exact ((serves.held key).later passes).sweep

theorem held_insert {event : DedupEvent} {value : DedupEntry}
    (here : Held nowMs (some value) (slot (state.history ++ [event]) event.key))
    (key : String × String) :
    Held nowMs ((state.ledger.dedup.insert event.key value).lookup key)
      (slot (state.history ++ [event]) key) := by
  rw [KeyMap.lookup_insert]
  by_cases same : key = event.key
  · rw [if_pos same, same]
    exact here
  · rw [if_neg same, slot_snoc_other _ _ (Ne.symm same)]
    exact (serves.held key).later passes

end

theorem forall_mem_snoc {Item : Type} {property : Item → Prop} {items : List Item} {last : Item}
    (front : ∀ item ∈ items, property item) (holds : property last) :
    ∀ item ∈ items ++ [last], property item := by
  intro item mem
  rcases mem_append.mp mem with old | new
  · exact front item old
  · exact mem_singleton.mp new ▸ holds

/-- Every call keeps the ledger serving the register of its history. -/
theorem Serves.step (serves : state.Serves) {call : LedgerCall}
    (taken : state.step call = some after) : after.Serves := by
  unfold DedupRun.step at taken
  split at taken
  · exact nomatch taken
  next notEarlier =>
    have passes := Nat.le_of_not_lt notEarlier
    have others {next : AttentionLedger} {returned : Option StateDelta} {time : Nat}
        (called : state.ledger.call call = some (next, returned))
        (expires : call.expiresAt = some time) (now : call.nowMs = time) :
        Serves ⟨next, time, state.history⟩ := by
      rw [now] at passes
      obtain ⟨generation, dedup⟩ := completes_dedup (call_completes called expires)
      exact serves.swept passes generation dedup
    cases call with
    | reserve clientId requestId payloadHash nowMs =>
      obtain ⟨⟨next, res⟩, reserving, rfl⟩ := map_eq_some_iff.mp taken
      have passes : state.clock ≤ nowMs := passes
      rcases reserve_cases ((serves.held _).later passes) reserving with
        ⟨grantable, rfl, rfl⟩ | ⟨rfl, silent⟩
      · have legal : Legal dedupHorizons (state.history ++ [.granted (clientId, requestId)
            state.ledger.nextDedupGeneration payloadHash nowMs]) :=
          serves.legal.granted grantable serves.issued fun event mem =>
            Nat.le_trans (serves.past event mem) passes
        refine ⟨legal, forall_mem_snoc (fun event mem =>
          Nat.le_trans (serves.past event mem) passes) (Nat.le_refl _),
          forall_mem_snoc (fun event mem => Nat.lt_succ_of_lt (serves.issued event mem))
            (Nat.lt_succ_self _), held_insert serves passes ?_⟩
        show Held nowMs _ (slot _ (clientId, requestId))
        rw [slot_granted]
        exact Or.inl rfl
      · dsimp only
        rw [silent, append_nil]
        exact serves.unchanged passes
    | complete key generation outcome nowMs =>
      have passes : state.clock ≤ nowMs := passes
      dsimp only at taken
      rcases complete_cases (serves.held key) generation outcome nowMs with
        ⟨payloadHash, since, pending, equal⟩ | equal
      · rw [equal] at taken
        cases taken
        have legal : Legal dedupHorizons
            (state.history ++ [.completed key generation outcome nowMs]) :=
          serves.legal.completed pending fun event mem =>
            Nat.le_trans (serves.past event mem) passes
        have issued : generation < state.ledger.nextDedupGeneration :=
          serves.issued _ (serves.legal.pending_mem pending)
        refine ⟨legal, forall_mem_snoc (fun event mem =>
          Nat.le_trans (serves.past event mem) passes) (Nat.le_refl _),
          forall_mem_snoc serves.issued issued, held_insert serves passes ?_⟩
        show Held nowMs _ (slot _ key)
        rw [slot_completed pending]
        exact Or.inl rfl
      · rw [equal] at taken
        cases taken
        exact serves.unchanged passes
    | recordPaneEvent | recordNotifEvent | markRead | paneClosed | sweep =>
      obtain ⟨⟨next, returned⟩, called, rfl⟩ := map_eq_some_iff.mp taken
      exact others called rfl rfl

theorem run_serves {epoch : String} {calls : List LedgerCall}
    (reached : Fallible.run step (.start epoch) calls = some state) : state.Serves :=
  Fallible.run_kept Serves (fun _ _ _ serves taken => serves.step taken) (.start epoch) reached

variable {key : String × String} {generation : Nat}

theorem Serves.complete_refused (serves : state.Serves)
    (older : (latestGrant state.history key).map Prod.fst ≠ some generation)
    (outcome : DedupOutcome) (nowMs : Nat) :
    state.ledger.complete key generation outcome nowMs = (state.ledger, false) := by
  rcases complete_cases (serves.held key) generation outcome nowMs with
    ⟨payloadHash, since, pending, -⟩ | refused
  · rw [← slot_grant, pending] at older
    exact absurd rfl older
  · exact refused

theorem Serves.reserve_completed (serves : state.Serves) {before later : List DedupEvent}
    {time : Nat} {outcome : DedupOutcome}
    (equal : state.history = before ++ .completed key generation outcome time :: later) :
    ∃ payloadHash, latestGrant before key = some (generation, payloadHash) ∧
      ∀ other nowMs, state.clock ≤ nowMs → nowMs < time + dedupTtl →
        state.ledger.reserve key.1 key.2 other nowMs =
          some (state.ledger, if payloadHash = other then .replay outcome else .conflict) := by
  have legal := equal ▸ serves.legal
  obtain ⟨payloadHash, granted⟩ := legal.completed_latest
  refine ⟨payloadHash, granted, fun other nowMs passes recent => ?_⟩
  have known := legal.slot_done granted fun event mem =>
    Nat.lt_of_le_of_lt (serves.past event (equal ▸ mem_append_right _
      (mem_cons_of_mem _ mem))) (Nat.lt_of_le_of_lt passes recent)
  rw [← equal] at known
  have held := serves.held key
  rw [known] at held
  exact reserve_done held passes recent other

theorem Serves.reserve_granted (serves : state.Serves) {before later : List DedupEvent} {time : Nat}
    (equal : state.history = before ++ .granted key generation payloadHash time :: later)
    (uncompleted : ∀ event ∈ later, event.completes key generation = false) (other : Nat)
    (passes : state.clock ≤ nowMs) (recent : nowMs < time + reservationTimeout) :
    state.ledger.reserve key.1 key.2 other nowMs =
      some (state.ledger, if payloadHash = other then .inFlight else .conflict) := by
  have legal := equal ▸ serves.legal
  have known := legal.slot_pending (fun event mem =>
    Nat.lt_of_le_of_lt (serves.past event (equal ▸ mem_append_right _
      (mem_cons_of_mem _ mem))) (Nat.lt_of_le_of_lt passes recent)) uncompleted
  rw [← equal] at known
  have held := serves.held key
  rw [known] at held
  exact reserve_pending held passes recent other

end DedupRun

/-- After every run of calls whose times do not run back: no generation of a key has completed
twice; what has completed was the last grant of its key, and until it is forgotten it is replayed to
the same request and any other is a conflict; a completion of another generation changes nothing;
and while a grant is pending and has not expired no other is given. -/
theorem dedup_at_most_once {epoch : String} {calls : List LedgerCall} {state : DedupRun}
    (reached : Fallible.run DedupRun.step (.start epoch) calls = some state) :
    (∀ key generation, state.history.countP (Event.completes key generation) ≤ 1) ∧
    (∀ before later key generation outcome time,
      state.history = before ++ .completed key generation outcome time :: later →
      ∃ payloadHash, latestGrant before key = some (generation, payloadHash) ∧
        ∀ other nowMs, state.clock ≤ nowMs → nowMs < time + dedupTtl →
          state.ledger.reserve key.1 key.2 other nowMs =
            some (state.ledger, if payloadHash = other then .replay outcome else .conflict)) ∧
    (∀ key generation outcome nowMs,
      (latestGrant state.history key).map Prod.fst ≠ some generation →
      state.ledger.complete key generation outcome nowMs = (state.ledger, false)) ∧
    ∀ before later key generation payloadHash time,
      state.history = before ++ .granted key generation payloadHash time :: later →
      (∀ event ∈ later, event.completes key generation = false) →
      ∀ other nowMs, state.clock ≤ nowMs → nowMs < time + reservationTimeout →
        state.ledger.reserve key.1 key.2 other nowMs =
          some (state.ledger, if payloadHash = other then .inFlight else .conflict) := by
  have serves := DedupRun.run_serves reached
  refine ⟨fun key generation => (serves.legal.completes_once key generation).1, ?_, ?_, ?_⟩
  · exact fun _ _ _ _ _ _ equal => serves.reserve_completed equal
  · exact fun _ _ outcome nowMs older => serves.complete_refused older outcome nowMs
  · exact fun _ _ _ _ _ _ equal uncompleted other _ passes recent =>
      serves.reserve_granted equal uncompleted other passes recent

/-- An owner whose reservation has expired completes too late, after another has taken over. -/
theorem dedup_at_most_once_reclaimed : ∃ state, Fallible.run DedupRun.step (.start "e")
      [.reserve "c" "r" 7 100, .reserve "c" "r" 8 30100,
        .complete ("c", "r") 1 (.producer .notFound) 30200,
        .complete ("c", "r") 2 (.producer .notFound) 30300] = some state ∧
      state.ledger.reserve "c" "r" 8 30400 =
        some (state.ledger, .replay (.producer .notFound)) := by
  have reached : Fallible.run DedupRun.step (.start "e")
      [.reserve "c" "r" 7 100, .reserve "c" "r" 8 30100,
        .complete ("c", "r") 1 (.producer .notFound) 30200,
        .complete ("c", "r") 2 (.producer .notFound) 30300] =
      some ⟨_, 30300, [.granted ("c", "r") 1 7 100, .granted ("c", "r") 2 8 30100,
        .completed ("c", "r") 2 (.producer .notFound) 30300]⟩ := rfl
  obtain ⟨payloadHash, granted, replays⟩ := (dedup_at_most_once reached).2.1
    [.granted ("c", "r") 1 7 100, .granted ("c", "r") 2 8 30100] [] _ _ _ _ rfl
  obtain rfl : 8 = payloadHash :=
    (Prod.mk.inj (some.inj ((by decide : latestGrant _ _ = some (2, 8)).symm.trans
      granted))).2
  exact ⟨_, reached, replays 8 30400 (by decide) (by decide)⟩

end Dinotty.Attention
