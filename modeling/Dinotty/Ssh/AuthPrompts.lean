/-
This file is the prompts of an SSH server that authenticates a user, and the answers to them. The
prompts of a round wait in a queue that every client's poller takes from, and what any client sends
waits in another.
-/

import Dinotty.Foundation.Runs

namespace Dinotty.Ssh

open List Option Function

/-! ### An attempt -/

structure SshAuthPrompt where
  prompt : String
  echo : Bool
  deriving DecidableEq

abbrev ClientId := Nat

/-- The prompts of a round, with its number. -/
structure Asked where
  round : Nat
  prompts : List SshAuthPrompt
  deriving DecidableEq

/-- What a client sends, with the latest round and whether the client had been shown its
prompts. -/
structure Answer where
  responses : List String
  sender : ClientId
  round : Nat
  shown : Bool
  deriving DecidableEq

structure PendingSshAuth where
  prompts : List Asked := []
  responses : List Answer := []
  deriving DecidableEq

inductive Phase where
  | idle
  /-- A call to the server is on its way. -/
  | calling
  /-- For an answer from the clients. -/
  | waiting
  deriving DecidableEq

inductive Link where
  | fresh
  | connected
  | gone
  deriving DecidableEq

/-- An attempt on a pane, its clients, which round's prompts each has been shown and which answers
were submitted for each round. -/
structure Auth where
  phase : Phase := .idle
  pending : Option PendingSshAuth := none
  round : Nat := 0
  links : ClientId → Link := fun _ => .fresh
  /-- The clients whose monitor knows of the attempt. -/
  known : ClientId → Bool := fun _ => false
  /-- How many pollers a client has for its prompts. -/
  polling : ClientId → Nat := fun _ => 0
  outboxes : ClientId → List Asked := fun _ => []
  shown : List (ClientId × Nat) := []
  submitted : List (Nat × Answer) := []

/-! ### What happens -/

/-- What a call to the server comes back with. -/
inductive Reply where
  | success
  | failure
  | infoRequest (prompts : List SshAuthPrompt)
  | error

inductive AuthEvent where
  | start
  | reply (reply : Reply)
  /-- The attempt takes the first answer. -/
  | receive
  | timeout
  /-- The request that the attempt belongs to is dropped. -/
  | drop
  | connect (client : ClientId)
  | disconnect (client : ClientId)
  | monitor (client : ClientId)
  /-- A poller looks for prompts, and the client's queue may have room for them. -/
  | poll (client : ClientId) (room : Bool)
  | deliver (client : ClientId)
  | answer (client : ClientId) (responses : List String)

/-- The end of an attempt that the server has decided on. -/
def Auth.decided (auth : Auth) : Auth := { auth with phase := .idle, pending := none }

/-- The next round of an attempt. -/
def Auth.ask (auth : Auth) (prompts : List SshAuthPrompt) : Auth :=
  match auth.pending with
  | none => { auth with phase := .idle, round := auth.round + 1 }
  | some pending =>
      { auth with
        phase := .waiting
        round := auth.round + 1
        pending := some { pending with
          prompts := pending.prompts ++ [⟨auth.round + 1, prompts⟩] } }

def Auth.handle (auth : Auth) : Reply → Auth
  | .success | .failure => auth.decided
  | .infoRequest prompts => auth.ask prompts
  | .error => { auth with phase := .idle }

def Auth.receive (auth : Auth) : Auth :=
  match auth.pending with
  | none => { auth with phase := .idle }
  | some pending =>
      match pending.responses with
      | [] => auth
      | answer :: rest =>
          { auth with
            phase := .calling
            pending := some { pending with responses := rest }
            submitted := auth.submitted ++ [(auth.round, answer)] }

/-- A monitor starts a poller for an attempt that is new to it. -/
def Auth.monitor (auth : Auth) (client : ClientId) : Auth :=
  if auth.pending.isSome then
    if auth.known client then auth
    else
      { auth with
        known := Function.update auth.known client true
        polling := Function.update auth.polling client (auth.polling client + 1) }
  else { auth with known := Function.update auth.known client false }

def Auth.ended (auth : Auth) (client : ClientId) : Auth :=
  { auth with polling := Function.update auth.polling client (auth.polling client - 1) }

/-- A poller takes prompts for its client. If the client cannot be sent them, they are lost and the
poller ends. -/
def Auth.poll (auth : Auth) (client : ClientId) (room : Bool) : Auth :=
  match auth.pending with
  | none => auth.ended client
  | some pending =>
      match pending.prompts with
      | [] => auth
      | asked :: rest =>
          let taken := { auth with pending := some { pending with prompts := rest } }
          if auth.links client = .connected ∧ room = true then
            { taken with
              outboxes := Function.update auth.outboxes client
                (auth.outboxes client ++ [asked]) }
          else taken.ended client

def Auth.deliver (auth : Auth) (client : ClientId) : Auth :=
  match auth.outboxes client with
  | [] => auth
  | asked :: rest =>
      { auth with
        outboxes := Function.update auth.outboxes client rest
        shown := auth.shown ++ [(client, asked.round)] }

def Auth.answer (auth : Auth) (client : ClientId) (responses : List String) : Auth :=
  { auth with
    pending := auth.pending.map fun pending =>
      { pending with
        responses := pending.responses ++
          [⟨responses, client, auth.round, (client, auth.round) ∈ auth.shown⟩] } }

def Auth.after (auth : Auth) : AuthEvent → Auth
  | .start =>
      if auth.phase = .idle then { auth with phase := .calling, pending := some {} } else auth
  | .reply reply => if auth.phase = .calling then auth.handle reply else auth
  | .receive => if auth.phase = .waiting then auth.receive else auth
  | .timeout => if auth.phase = .waiting then { auth with phase := .idle } else auth
  | .drop => { auth with phase := .idle }
  | .connect client =>
      if auth.links client = .fresh then
        { auth with links := Function.update auth.links client .connected }
      else auth
  | .disconnect client =>
      if auth.links client = .connected then
        { auth with
          links := Function.update auth.links client .gone
          outboxes := Function.update auth.outboxes client [] }
      else auth
  | .monitor client => if auth.links client = .connected then auth.monitor client else auth
  | .poll client room => if 0 < auth.polling client then auth.poll client room else auth
  | .deliver client => if auth.links client = .connected then auth.deliver client else auth
  | .answer client responses =>
      if auth.links client = .connected then auth.answer client responses else auth

/-! ### What is asked of it -/

/-- The prompts of a round wait to be taken, or to be delivered to a client. -/
def Auth.Underway (auth : Auth) (round : Nat) : Prop :=
  (∃ pending ∈ auth.pending, ∃ asked ∈ pending.prompts, asked.round = round) ∨
    ∃ client, auth.links client = .connected ∧ ∃ asked ∈ auth.outboxes client, asked.round = round

/-- The answers submitted for a round were sent in it, by a client that had been shown its prompts.
The prompts of every round have been shown to a client, those of a round that waits perhaps not yet.
Nothing is pending once the attempt has ended. -/
structure Auth.Paired (auth : Auth) : Prop where
  answers : ∀ round answer, (round, answer) ∈ auth.submitted →
    answer.round = round ∧ answer.shown = true
  reached : ∀ round, 0 < round → round ≤ auth.round → (∃ client, (client, round) ∈ auth.shown) ∨
      round = auth.round ∧ auth.phase = .waiting ∧ auth.Underway round
  ended : auth.phase = .idle → auth.pending = none

/-- No answers are left when the next round begins, the first answer of a round comes from a client
that has been shown its prompts, prompts are taken for clients that they reach, and the attempt ends
only when the server decides. -/
def Auth.Clear (auth : Auth) : AuthEvent → Prop
  | .reply reply => auth.phase = .calling → match reply with
      | .infoRequest _ => ∀ pending ∈ auth.pending, pending.responses = []
      | .error => False
      | .success | .failure => True
  | .timeout => auth.phase ≠ .waiting
  | .drop => auth.phase = .idle
  | .poll client room => 0 < auth.polling client → ∀ pending ∈ auth.pending, pending.prompts ≠ [] →
        auth.links client = .connected ∧ room = true
  | .disconnect client => auth.links client = .connected → auth.outboxes client = []
  | .answer client _ => auth.links client = .connected → auth.phase = .waiting →
      ∀ pending ∈ auth.pending, pending.responses = [] → (client, auth.round) ∈ auth.shown
  | .start | .receive | .connect _ | .monitor _ | .deliver _ => True

/-! ### What every event keeps -/

/-- An attempt has its channels, and the answer that it takes next is one to its round. -/
structure Auth.Kept (auth : Auth) : Prop extends auth.Paired where
  channels : auth.phase ≠ .idle → auth.pending.isSome
  next : auth.phase = .waiting → ∀ pending ∈ auth.pending, ∀ answer ∈ pending.responses.head?,
    answer.round = auth.round ∧ answer.shown = true ∧ (answer.sender, auth.round) ∈ auth.shown

variable {auth : Auth} {client : ClientId}

theorem auth_kept : ({} : Auth).Kept where
  answers := fun _ _ mem => absurd mem not_mem_nil
  reached := fun _ positive bound => absurd (Nat.lt_of_lt_of_le positive bound) (Nat.lt_irrefl 0)
  ended := fun _ => rfl
  channels := fun busy => absurd rfl busy
  next := fun waiting => Phase.noConfusion waiting

section

variable (kept : auth.Kept)
include kept

theorem Auth.Kept.all_shown (notWaiting : auth.phase ≠ .waiting) {round : Nat}
    (positive : 0 < round) (bound : round ≤ auth.round) :
    ∃ client, (client, round) ∈ auth.shown := by
  rcases kept.reached round positive bound with shown | ⟨-, waiting, -⟩
  · exact shown
  · exact absurd waiting notWaiting

theorem Auth.Kept.start (idle : auth.phase = .idle) :
    ({ auth with phase := .calling, pending := some {} } : Auth).Kept where
  answers := kept.answers
  reached := fun _ positive bound => Or.inl
    (kept.all_shown (fun waiting => by rw [idle] at waiting; cases waiting) positive bound)
  ended := fun idle => Phase.noConfusion idle
  channels := fun _ => rfl
  next := fun waiting => Phase.noConfusion waiting

theorem Auth.Kept.decided (calling : auth.phase = .calling) : auth.decided.Kept where
  answers := kept.answers
  reached := fun _ positive bound => Or.inl
    (kept.all_shown (fun waiting => by rw [calling] at waiting; cases waiting) positive bound)
  ended := fun _ => rfl
  channels := fun busy => absurd rfl busy
  next := fun waiting => Phase.noConfusion waiting

/-- The prompts of a new round wait in the queue, and no answer does. -/
theorem Auth.Kept.ask (calling : auth.phase = .calling) (prompts : List SshAuthPrompt)
    (empty : ∀ pending ∈ auth.pending, pending.responses = []) :
    (auth.ask prompts).Kept := by
  have busy : auth.phase ≠ .idle := by
    rw [calling]
    decide
  have notWaiting : auth.phase ≠ .waiting := by
    rw [calling]
    decide
  obtain ⟨pending, there⟩ := isSome_iff_exists.mp (kept.channels busy)
  have asked : auth.ask prompts = { auth with
      phase := .waiting
      round := auth.round + 1
      pending := some { pending with
        prompts := pending.prompts ++ [⟨auth.round + 1, prompts⟩] } } := by
    rw [Auth.ask, there]
  rw [asked]
  refine { answers := kept.answers, reached := fun round positive bound => ?_,
           ended := fun idle => Phase.noConfusion idle, channels := fun _ => rfl,
           next := fun _ other isPending answer first => ?_ }
  · rcases Nat.lt_or_eq_of_le bound with earlier | rfl
    · exact Or.inl (kept.all_shown notWaiting positive (Nat.lt_succ_iff.mp earlier))
    · exact Or.inr ⟨rfl, rfl, Or.inl ⟨_, rfl, ⟨auth.round + 1, prompts⟩,
        mem_append_right _ (mem_singleton_self _), rfl⟩⟩
  · cases isPending
    rw [empty pending there] at first
    cases first

/-- The answer that is submitted is one to the round. -/
theorem Auth.Kept.receive (waiting : auth.phase = .waiting) : auth.receive.Kept := by
  have busy : auth.phase ≠ .idle := by
    rw [waiting]
    decide
  obtain ⟨pending, there⟩ := isSome_iff_exists.mp (kept.channels busy)
  cases responses : pending.responses with
  | nil =>
    have same : auth.receive = auth := by
      rw [Auth.receive, there]
      dsimp only
      rw [responses]
    rwa [same]
  | cons answer rest =>
    have received : auth.receive = { auth with
        phase := .calling
        pending := some { pending with responses := rest }
        submitted := auth.submitted ++ [(auth.round, answer)] } := by
      rw [Auth.receive, there]
      dsimp only
      rw [responses]
    have first : answer ∈ pending.responses.head? := by
      rw [responses]
      rfl
    obtain ⟨inRound, isShown, sender⟩ := kept.next waiting pending there answer first
    rw [received]
    refine { answers := fun round other mem => ?_, reached := fun round positive bound => ?_,
             ended := fun idle => Phase.noConfusion idle, channels := fun _ => rfl,
             next := fun waiting => Phase.noConfusion waiting }
    · rcases mem_append.mp mem with earlier | new
      · exact kept.answers round other earlier
      · obtain ⟨rfl, rfl⟩ := Prod.mk.inj (mem_singleton.mp new)
        exact ⟨inRound, isShown⟩
    · rcases kept.reached round positive bound with shown | ⟨rfl, -, -⟩
      · exact Or.inl shown
      · exact Or.inl ⟨answer.sender, sender⟩

theorem Auth.Kept.aside {later : Auth} (phase : later.phase = auth.phase)
    (pending : later.pending = auth.pending) (round : later.round = auth.round)
    (shown : later.shown = auth.shown) (submitted : later.submitted = auth.submitted)
    (outboxes : ∀ client, auth.links client = .connected → auth.outboxes client ≠ [] →
      later.links client = .connected ∧ later.outboxes client = auth.outboxes client) :
    later.Kept := by
  refine { answers := ?_, reached := ?_, ended := ?_, channels := ?_, next := ?_ }
  · rw [submitted]
    exact kept.answers
  · rw [round, shown, phase]
    intro number positive bound
    refine (kept.reached number positive bound).imp id fun ⟨same, waiting, underway⟩ =>
      ⟨same, waiting, ?_⟩
    unfold Auth.Underway
    rw [pending]
    refine underway.imp id fun ⟨client, link, asked, mem, isRound⟩ => ?_
    have stays := outboxes client link (ne_nil_of_mem mem)
    exact ⟨client, stays.1, asked, stays.2.symm ▸ mem, isRound⟩
  · rw [phase, pending]
    exact kept.ended
  · rw [phase, pending]
    exact kept.channels
  · rw [phase, pending, round, shown]
    exact kept.next

section

variable (client : ClientId)

theorem Auth.Kept.monitor : (auth.monitor client).Kept := by
  unfold Auth.monitor
  split_ifs
  · exact kept
  · exact kept.aside rfl rfl rfl rfl rfl fun _ link _ => ⟨link, rfl⟩
  · exact kept.aside rfl rfl rfl rfl rfl fun _ link _ => ⟨link, rfl⟩

/-- The prompts that a poller takes go to the queue of its client. -/
theorem Auth.Kept.poll (room : Bool)
    (reaches : ∀ pending ∈ auth.pending, pending.prompts ≠ [] →
      auth.links client = .connected ∧ room = true) : (auth.poll client room).Kept := by
  unfold Auth.poll
  cases there : auth.pending with
  | none =>
    have same : (auth.ended client).Kept :=
      kept.aside rfl rfl rfl rfl rfl fun _ link _ => ⟨link, rfl⟩
    exact same
  | some pending =>
    dsimp only
    cases prompts : pending.prompts with
    | nil => exact kept
    | cons asked rest =>
      have arrives := reaches pending there (by rw [prompts]; exact cons_ne_nil asked rest)
      dsimp only
      rw [if_pos arrives]
      refine { answers := kept.answers, reached := fun round positive bound => ?_,
               ended := fun idle => ?_, channels := fun _ => rfl,
               next := fun waiting other isPending answer first => ?_ }
      · refine (kept.reached round positive bound).imp id fun ⟨same, waiting, underway⟩ =>
          ⟨same, waiting, ?_⟩
        rcases underway with
          ⟨_, isPending, found, mem, isRound⟩ | ⟨other, link, found, mem, isRound⟩
        · cases there.symm.trans isPending
          rw [prompts] at mem
          rcases mem_cons.mp mem with rfl | waits
          · refine Or.inr ⟨client, arrives.1, found, ?_, isRound⟩
            dsimp only
            rw [update_self]
            exact mem_append_right _ (mem_singleton_self found)
          · exact Or.inl ⟨_, rfl, found, waits, isRound⟩
        · refine Or.inr ⟨other, link, found, ?_, isRound⟩
          dsimp only
          rcases eq_or_ne other client with rfl | ne
          · rw [update_self]
            exact mem_append_left _ mem
          · rwa [update_of_ne ne]
      · rw [kept.ended idle] at there
        cases there
      · cases isPending
        exact kept.next waiting pending there answer first

theorem Auth.Kept.deliver : (auth.deliver client).Kept := by
  unfold Auth.deliver
  cases queue : auth.outboxes client with
  | nil => exact kept
  | cons asked rest =>
    refine { answers := kept.answers, reached := fun round positive bound => ?_,
             ended := kept.ended, channels := kept.channels,
             next := fun waiting pending there answer first => ?_ }
    · rcases kept.reached round positive bound with ⟨other, shown⟩ | ⟨same, waiting, underway⟩
      · exact Or.inl ⟨other, mem_append_left _ shown⟩
      · rcases underway with waits | ⟨other, link, found, mem, isRound⟩
        · exact Or.inr ⟨same, waiting, Or.inl waits⟩
        · rcases eq_or_ne other client with rfl | ne
          · rw [queue] at mem
            rcases mem_cons.mp mem with rfl | later
            · exact Or.inl ⟨other, isRound ▸ mem_append_right _ (mem_singleton_self _)⟩
            · refine Or.inr ⟨same, waiting, Or.inr ⟨other, link, found, ?_, isRound⟩⟩
              dsimp only
              rwa [update_self]
          · refine Or.inr ⟨same, waiting, Or.inr ⟨other, link, found, ?_, isRound⟩⟩
            dsimp only
            rwa [update_of_ne ne]
    · obtain ⟨inRound, isShown, sender⟩ := kept.next waiting pending there answer first
      exact ⟨inRound, isShown, mem_append_left _ sender⟩

/-- An answer that comes to a round with none is from a client that has been shown its prompts. -/
theorem Auth.Kept.answer (responses : List String)
    (fits : auth.phase = .waiting → ∀ pending ∈ auth.pending, pending.responses = [] →
      (client, auth.round) ∈ auth.shown) : (auth.answer client responses).Kept := by
  refine { answers := kept.answers, reached := fun round positive bound => ?_,
           ended := fun idle => ?_, channels := fun busy => ?_,
           next := fun waiting other isPending answer first => ?_ }
  · refine (kept.reached round positive bound).imp id fun ⟨same, waiting, underway⟩ =>
      ⟨same, waiting, underway.imp (fun ⟨pending, there, waits⟩ => ?_) id⟩
    exact ⟨_, Option.mem_map_of_mem _ there, waits⟩
  · dsimp only [Auth.answer]
    rw [kept.ended idle]
    rfl
  · dsimp only [Auth.answer]
    rw [isSome_map]
    exact kept.channels busy
  · obtain ⟨pending, there, rfl⟩ := map_eq_some_iff.mp isPending
    cases earlier : pending.responses with
    | nil =>
      have shown := fits waiting pending there earlier
      dsimp only at first
      rw [earlier] at first
      cases first
      exact ⟨rfl, decide_eq_true shown, shown⟩
    | cons head rest =>
      refine kept.next waiting pending there answer ?_
      dsimp only at first
      rw [earlier] at first ⊢
      exact first

end

theorem Auth.Kept.handle (calling : auth.phase = .calling) (reply : Reply)
    (clear : auth.Clear (.reply reply)) : (auth.handle reply).Kept := by
  cases reply with
  | success | failure => exact kept.decided calling
  | infoRequest prompts => exact kept.ask calling prompts (clear calling)
  | error => exact (clear calling).elim

theorem Auth.Kept.connect (fresh : auth.links client = .fresh) :
    ({ auth with links := update auth.links client .connected } : Auth).Kept := by
  refine kept.aside rfl rfl rfl rfl rfl fun other link _ => ⟨?_, rfl⟩
  have ne : other ≠ client := by
    rintro rfl
    rw [fresh] at link
    cases link
  dsimp only
  rwa [update_of_ne ne]

theorem Auth.Kept.disconnect (empty : auth.outboxes client = []) : ({ auth with
        links := update auth.links client .gone
        outboxes := update auth.outboxes client [] } : Auth).Kept := by
  refine kept.aside rfl rfl rfl rfl rfl fun other link waits => ?_
  have ne : other ≠ client := by
    rintro rfl
    exact waits empty
  dsimp only
  rw [update_of_ne ne, update_of_ne ne]
  exact ⟨link, rfl⟩

end

theorem Auth.Kept.after (auth : Auth) (event : AuthEvent) (kept : auth.Kept)
    (clear : auth.Clear event) : (auth.after event).Kept := by
  cases event with
  | start =>
    dsimp only [Auth.after]
    split_ifs with idle
    · exact kept.start idle
    · exact kept
  | reply reply =>
    dsimp only [Auth.after]
    split_ifs with calling
    · exact kept.handle calling reply clear
    · exact kept
  | receive =>
    dsimp only [Auth.after]
    split_ifs with waiting
    · exact kept.receive waiting
    · exact kept
  | timeout =>
    dsimp only [Auth.after]
    rw [if_neg clear]
    exact kept
  | drop =>
    have idle : auth.phase = .idle := clear
    have same : auth.after .drop = auth := by
      dsimp only [Auth.after]
      rw [← idle]
    rwa [same]
  | connect client =>
    dsimp only [Auth.after]
    split_ifs with fresh
    · exact kept.connect fresh
    · exact kept
  | disconnect client =>
    dsimp only [Auth.after]
    split_ifs with connected
    · exact kept.disconnect (clear connected)
    · exact kept
  | monitor client =>
    dsimp only [Auth.after]
    split_ifs
    · exact kept.monitor client
    · exact kept
  | poll client room =>
    dsimp only [Auth.after]
    split_ifs with polls
    · exact kept.poll client room (clear polls)
    · exact kept
  | deliver client =>
    dsimp only [Auth.after]
    split_ifs
    · exact kept.deliver client
    · exact kept
  | answer client responses =>
    dsimp only [Auth.after]
    split_ifs with connected
    · exact kept.answer client responses (clear connected)
    · exact kept

/-! ### Runs -/

/-- If every event is clear, the answers submitted for a round are to its prompts, the prompts of
every round reach a client, and nothing stays pending. -/
theorem prompts_paired {events : List AuthEvent}
    (clear : Runs.Careful Auth.after Auth.Clear {} events) :
    (Runs.run Auth.after {} events).Paired :=
  (clear.kept Auth.Kept Auth.Kept.after auth_kept).toPaired

/-- Two rounds of an attempt, each answered by the client that was shown its prompts. -/
def twoRounds : List AuthEvent :=
  [.connect 1, .start, .monitor 1, .reply (.infoRequest [⟨"Password: ", false⟩]), .poll 1 true,
    .deliver 1, .answer 1 ["secret"], .receive, .reply (.infoRequest [⟨"Code: ", false⟩]),
    .poll 1 true, .deliver 1, .answer 1 ["123456"], .receive, .reply .success]

instance decidableClear : ∀ (auth : Auth) (event : AuthEvent), Decidable (auth.Clear event)
  | _, .reply .success | _, .reply .failure => inferInstanceAs (Decidable (_ → True))
  | _, .reply .error => inferInstanceAs (Decidable (_ → False))
  | _, .reply (.infoRequest _) => inferInstanceAs (Decidable (_ → ∀ _ ∈ _, _))
  | _, .timeout => inferInstanceAs (Decidable (_ ≠ _))
  | _, .drop => inferInstanceAs (Decidable (_ = _))
  | _, .poll _ _ => inferInstanceAs (Decidable (_ → ∀ _ ∈ _, _ → _))
  | _, .disconnect _ => inferInstanceAs (Decidable (_ → _))
  | _, .answer _ _ => inferInstanceAs (Decidable (_ → _ → ∀ _ ∈ _, _ → _))
  | _, .start | _, .receive | _, .connect _ | _, .monitor _ | _, .deliver _ =>
      inferInstanceAs (Decidable True)

theorem prompts_paired_twoRounds : (Runs.run Auth.after {} twoRounds).Paired ∧
      (Runs.run Auth.after {} twoRounds).submitted.length = 2 :=
  ⟨prompts_paired (by decide +kernel), by decide +kernel⟩

/-- The password is sent twice, and the second copy answers the next round. -/
def sentTwice : List AuthEvent :=
  [.connect 1, .start, .monitor 1, .reply (.infoRequest [⟨"Password: ", false⟩]), .poll 1 true,
    .deliver 1, .answer 1 ["secret"], .answer 1 ["secret"], .receive,
    .reply (.infoRequest [⟨"Code: ", true⟩]), .receive]

theorem password_misplaced : ¬ ∀ events : List AuthEvent,
    (Runs.run Auth.after {} events).Paired := by
  intro paired
  have misplaced : (2, (⟨["secret"], 1, 1, true⟩ : Answer)) ∈
      (Runs.run Auth.after {} sentTwice).submitted := by
    decide +kernel
  exact absurd ((paired sentTwice).answers _ _ misplaced).1 (by decide)

end Dinotty.Ssh
