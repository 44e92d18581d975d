/-
This file is fair locks for readers and writers. It proves that threads do not wait for each other
in a circle if locks are taken in the order of a rank, where a reader may take a lock again as long
as no writer is in the queue.
-/

import Dinotty.Foundation.Runs

namespace RwLock

open List Option Function

/-! ### One lock -/

inductive Mode where
  | read
  | write
  deriving DecidableEq

/-- Who holds a lock, and who waits for it in which order. -/
structure Lock where
  holders : List (Nat × Mode) := []
  queue : List (Nat × Mode) := []
  deriving DecidableEq

/-- Readers share a lock, a writer has it alone. -/
def Compatible (holders : List (Nat × Mode)) : Mode → Prop
  | .read => ∀ holder ∈ holders, holder.2 = .read
  | .write => holders = []

instance decidableCompatible (holders : List (Nat × Mode)) :
    ∀ mode, Decidable (Compatible holders mode)
  | .read => inferInstanceAs (Decidable (∀ holder ∈ holders, holder.2 = .read))
  | .write => inferInstanceAs (Decidable (holders = []))

/-- Grant requests in their order as long as they go with the holders. -/
def grant (holders : List (Nat × Mode)) : List (Nat × Mode) → Lock
  | [] => { holders }
  | request :: rest =>
      if Compatible holders request.2 then grant (holders ++ [request]) rest
      else { holders, queue := request :: rest }

def Lock.request (lock : Lock) (request : Nat × Mode) : Lock :=
  grant lock.holders (lock.queue ++ [request])

def Lock.release (lock : Lock) (request : Nat × Mode) : Lock :=
  grant (lock.holders.erase request) lock.queue

theorem grant_cases (holders queue : List (Nat × Mode)) : ∃ granted rest, queue = granted ++ rest ∧
      grant holders queue = { holders := holders ++ granted, queue := rest } ∧
      ∀ front ∈ rest.head?, ¬ Compatible (holders ++ granted) front.2 := by
  induction queue generalizing holders with
  | nil => exact ⟨[], [], rfl, by rw [grant, append_nil], nofun⟩
  | cons req rest ih =>
    rw [grant]
    split
    · obtain ⟨granted, left, rfl, res, settled⟩ := ih (holders ++ [req])
      rw [append_assoc, singleton_append] at res settled
      exact ⟨req :: granted, left, rfl, res, settled⟩
    next incompatible =>
      refine ⟨[], req :: rest, rfl, by rw [append_nil], fun front same => ?_⟩
      rw [append_nil, ← some.inj same]
      exact incompatible

/-- A writer holds the lock alone. -/
def Exclusive (holders : List (Nat × Mode)) : Prop :=
  ∀ holder ∈ holders, holder.2 = .write → holders = [holder]

variable {holders : List (Nat × Mode)}

theorem Exclusive.append (exclusive : Exclusive holders) {req : Nat × Mode}
    (compatible : Compatible holders req.2) :
    Exclusive (holders ++ [req]) := by
  obtain ⟨thread, mode⟩ := req
  cases mode with
  | read =>
    intro holder mem writes
    rcases mem_append.mp mem with old | new
    · exact nomatch (compatible holder old).symm.trans writes
    · obtain rfl := mem_singleton.mp new
      exact nomatch writes
  | write =>
    obtain rfl : holders = [] := compatible
    intro holder mem _
    obtain rfl := mem_singleton.mp mem
    rfl

theorem Exclusive.grant (exclusive : Exclusive holders) (queue : List (Nat × Mode)) :
    Exclusive (grant holders queue).holders := by
  induction queue generalizing holders with
  | nil => exact exclusive
  | cons req rest ih =>
    rw [grant]
    split
    next compatible =>
      exact ih (exclusive.append compatible)
    · exact exclusive

theorem Exclusive.erase (exclusive : Exclusive holders) (req : Nat × Mode) :
    Exclusive (holders.erase req) := by
  intro holder mem writes
  have alone := exclusive holder (mem_of_mem_erase mem) writes
  rw [alone] at mem ⊢
  by_cases same : holder = req
  · rw [same, erase_cons_head] at mem
    exact nomatch mem
  · rw [erase_of_not_mem fun other => same (mem_singleton.mp other).symm]

/-- A lock is in order: its writer is alone, and the request at the front has to wait. -/
structure Lock.Fair (lock : Lock) : Prop where
  exclusive : Exclusive lock.holders
  settled : ∀ front ∈ lock.queue.head?, ¬ Compatible lock.holders front.2

theorem Lock.Fair.grant (exclusive : Exclusive holders) (queue : List (Nat × Mode)) :
    (grant holders queue).Fair := by
  refine ⟨exclusive.grant queue, ?_⟩
  obtain ⟨granted, rest, -, res, settled⟩ := grant_cases holders queue
  rw [res]
  exact settled

variable {thread : Nat}

/-- A reader gets the lock again at once as long as no writer is in the queue. -/
theorem Lock.Fair.request_again {lock : Lock} (fair : lock.Fair)
    (held : ∃ mode, (thread, mode) ∈ lock.holders)
    (unwritten : ∀ request ∈ lock.queue, request.2 ≠ .write)
    (reads : ∀ mode, (thread, mode) ∈ lock.holders → mode = .read) :
    lock.request (thread, .read) =
      { holders := lock.holders ++ [(thread, .read)], queue := [] } := by
  -- One reader among the holders means that all of them are.
  have readers : Compatible lock.holders .read := by
    intro holder mem
    cases mode : holder.2 with
    | read => rfl
    | write =>
      obtain ⟨own, present⟩ := held
      have alone := fair.exclusive holder mem mode
      rw [alone] at present
      obtain rfl := mem_singleton.mp present
      exact nomatch (reads own mem).symm.trans mode
  have empty : lock.queue = [] := by
    cases queue : lock.queue with
    | nil => rfl
    | cons front rest =>
      have blocked := fair.settled front (by rw [queue]; rfl)
      have waiting := unwritten front (by rw [queue]; exact mem_cons_self)
      obtain ⟨other, mode⟩ := front
      cases mode with
      | read => exact absurd readers blocked
      | write => exact absurd rfl waiting
  rw [Lock.request, empty, nil_append, RwLock.grant, if_pos readers]
  rfl

/-! ### Threads that wait for each other -/

variable {Name : Type}

/-- A thread keeps another one from a lock: it holds it, or it stands before it in the queue. -/
def Lock.Blocks (lock : Lock) (blocker waiting : Nat) : Prop :=
  (∃ mode, (blocker, mode) ∈ lock.holders) ∨
    ∃ before mode after, lock.queue = before ++ (waiting, mode) :: after ∧
      ∃ other, (blocker, other) ∈ before

/-- Each of the threads waits for a lock that one of them keeps it from. -/
structure Deadlocked (locks : Name → Lock) (threads : Finset Nat) : Prop where
  nonempty : threads.Nonempty
  stuck : ∀ thread ∈ threads, ∃ name mode, (thread, mode) ∈ (locks name).queue ∧
    ∃ other ∈ threads, (locks name).Blocks other thread

/-- A thread waits for one lock, once, and all locks that it holds then are of a smaller rank. -/
structure Ranked (rank : Name → Nat) (locks : Name → Lock) : Prop where
  once : ∀ name, (locks name).queue.Nodup
  alone : ∀ thread name mode other otherMode, (thread, mode) ∈ (locks name).queue →
    (thread, otherMode) ∈ (locks other).queue → other = name ∧ otherMode = mode
  above : ∀ thread name mode held heldMode, (thread, mode) ∈ (locks name).queue →
    (thread, heldMode) ∈ (locks held).holders → rank held < rank name

variable {locks : Name → Lock}

/-- Threads that take locks by rank do not wait for each other: of those that wait for a lock of the
highest rank the first one in the queue goes on. -/
theorem Ranked.not_deadlocked (ranked : Ranked rank locks) (threads : Finset Nat) :
    ¬ Deadlocked locks threads := by
  rintro ⟨nonempty, stuck⟩
  choose name mode waits other mem blocks using stuck
  obtain ⟨⟨top, inTop⟩, -, highest⟩ := threads.attach.exists_max_image
    (fun thread => rank (name thread.1 thread.2)) (Finset.attach_nonempty_iff.mpr nonempty)
  have nobody : ∀ (pos thread : Nat), thread ∈ threads → ∀ own : Mode,
      (locks (name top inTop)).queue[pos]? = some (thread, own) → False := by
    intro pos
    induction pos using Nat.strong_induction_on with
    | _ pos ih =>
      intro thread inside own present
      obtain ⟨sameName, sameMode⟩ := ranked.alone thread _ _ _ _
        (mem_of_getElem? present) (waits thread inside)
      have waiting := waits (other thread inside) (mem thread inside)
      rcases blocks thread inside with ⟨held, holds⟩ | ⟨before, here, after, queue, theirs, ahead⟩
      · rw [sameName] at holds
        have higher := ranked.above _ _ _ _ _ waiting holds
        exact absurd (highest ⟨_, mem thread inside⟩ (Finset.mem_attach _ _))
          (Nat.not_le_of_lt higher)
      · rw [sameName] at queue
        obtain ⟨earlier, bound, found⟩ := getElem_of_mem ahead
        have place : (locks (name top inTop)).queue[before.length]? = some (thread, here) := by
          rw [queue, getElem?_append_right (Nat.le_refl _), Nat.sub_self]
          rfl
        have sameHere := (ranked.alone thread _ _ _ _ (mem_of_getElem? present)
          (mem_of_getElem? place)).2
        have unique : pos = before.length :=
          (getElem?_inj (List.getElem?_eq_some_iff.mp present).1 (ranked.once _)).mp
            (present.trans (sameHere ▸ place.symm))
        refine ih earlier (unique ▸ bound) _ (mem thread inside) theirs ?_
        · rw [queue, getElem?_append_left bound, getElem?_eq_getElem bound, found]
  obtain ⟨pos, bound, found⟩ := getElem_of_mem (waits top inTop)
  exact nobody pos top inTop _ (by rw [getElem?_eq_getElem bound, found])

/-! ### What threads do -/

/-- A thread takes a lock by entering its queue and waiting until it has left it. -/
inductive Op (Name : Type) where
  | lock (name : Name) (mode : Mode)
  | wait (name : Name) (mode : Mode)
  | unlock (name : Name) (mode : Mode)
  | work
  deriving DecidableEq

/-- The operations left to a thread take the locks by rank and release them. A reader may take its
lock once more. -/
def Safe (rank : Name → Nat) [DecidableEq Name] : List (Name × Mode) → List (Op Name) → Prop
  | held, [] => held = []
  | held, .lock name mode :: rest =>
      (∀ entry ∈ held, rank entry.1 < rank name ∨ entry = (name, .read) ∧ mode = .read) ∧
        Safe rank ((name, mode) :: held) rest
  | held, .wait _ _ :: rest | held, .work :: rest => Safe rank held rest
  | held, .unlock name mode :: rest =>
      (name, mode) ∈ held ∧ Safe rank (held.erase (name, mode)) rest

variable [DecidableEq Name]

def exec : Interleaving.Exec (Name → Lock) (Op Name) Unit
  | index, _, .lock name mode, rest, locks =>
      some (Function.update locks name ((locks name).request (index, mode)),
        .wait name mode :: rest)
  | index, _, .wait name mode, rest, locks =>
      if (index, mode) ∈ (locks name).queue then none else some (locks, rest)
  | index, _, .unlock name mode, rest, locks =>
      some (Function.update locks name ((locks name).release (index, mode)), rest)
  | _, _, .work, rest, locks => some (locks, rest)

variable {rank : Name → Nat}

/-- Where a thread stands with the locks that it holds and the one that it waits for. -/
inductive Place (rank : Name → Nat) : List (Name × Mode) → List (Name × Mode) → List (Op Name) →
    Prop where
  | runs {held : List (Name × Mode)} {ops : List (Op Name)} (safe : Safe rank held ops) :
      Place rank held [] ops
  | waits {held : List (Name × Mode)} {name : Name} {mode : Mode} {rest : List (Op Name)}
      (above : ∀ entry ∈ held, rank entry.1 < rank name)
      (safe : Safe rank ((name, mode) :: held) rest) :
      Place rank held [(name, mode)] (.wait name mode :: rest)

/-- The locks know a thread as the holder of some of them and as a waiter for one at most. -/
structure Stands (rank : Name → Nat) (thread : Nat) (locks : Name → Lock) (ops : List (Op Name))
    (held wanted : List (Name × Mode)) : Prop where
  holds : ∀ name mode, (locks name).holders.count (thread, mode) = held.count (name, mode)
  waits : ∀ name mode, (locks name).queue.count (thread, mode) = wanted.count (name, mode)
  place : Place rank held wanted ops

/-- Every lock is in order, and so is every thread, where those that there are not hold nothing. -/
structure Orderly (rank : Name → Nat) (pool : Interleaving.Pool (Name → Lock) (Op Name)) :
    Prop where
  fair : ∀ name, (pool.shared name).Fair
  stands : ∀ thread, ∃ held wanted,
    Stands rank thread pool.shared ((pool.threads[thread]?).getD []) held wanted

variable {held wanted : List (Name × Mode)} {name : Name} {mode : Mode}

theorem Place.wanted_cases {ops : List (Op Name)} (place : Place rank held wanted ops)
    (mem : (name, mode) ∈ wanted) :
    wanted = [(name, mode)] ∧ ∀ entry ∈ held, rank entry.1 < rank name := by
  cases place with
  | runs safe => exact nomatch mem
  | waits above safe =>
    obtain ⟨rfl, rfl⟩ := Prod.mk.inj (mem_singleton.mp mem)
    exact ⟨rfl, above⟩

variable {pool : Interleaving.Pool (Name → Lock) (Op Name)}

theorem Orderly.ranked (orderly : Orderly rank pool) : Ranked rank pool.shared := by
  have known : ∀ {thread name mode}, (thread, mode) ∈ (pool.shared name).queue →
      ∃ held, Stands rank thread pool.shared ((pool.threads[thread]?).getD []) held
        [(name, mode)] ∧ ∀ entry ∈ held, rank entry.1 < rank name := by
    intro thread name mode mem
    obtain ⟨held, wanted, stands⟩ := orderly.stands thread
    have positive := count_pos_iff.mpr mem
    rw [stands.waits] at positive
    obtain ⟨rfl, above⟩ := stands.place.wanted_cases (count_pos_iff.mp positive)
    exact ⟨held, stands, above⟩
  refine ⟨fun name => ?_, fun thread name mode other otherMode here there => ?_,
    fun thread name mode held heldMode here holds => ?_⟩
  · refine nodup_iff_count_le_one.mpr fun ⟨thread, mode⟩ => ?_
    by_cases mem : (thread, mode) ∈ (pool.shared name).queue
    · obtain ⟨held, stands, -⟩ := known mem
      rw [stands.waits name mode]
      exact nodup_iff_count_le_one.mp (nodup_singleton _) _
    · rw [count_eq_zero_of_not_mem mem]
      exact Nat.zero_le 1
  · obtain ⟨held, stands, -⟩ := known here
    have positive := count_pos_iff.mpr there
    rw [stands.waits] at positive
    exact Prod.mk.inj (mem_singleton.mp (count_pos_iff.mp positive))
  · obtain ⟨mine, stands, above⟩ := known here
    have positive := count_pos_iff.mpr holds
    rw [stands.holds] at positive
    exact above _ (count_pos_iff.mp positive)

/-- What a lock does for other threads: it moves requests from its queue to its holders. -/
theorem Stands.moved {ops : List (Op Name)} (stands : Stands rank thread locks ops held wanted)
    (name : Name) (next : Lock) (granted : List (Nat × Mode))
    (holders : ∀ mode, next.holders.count (thread, mode) =
      (locks name).holders.count (thread, mode) + granted.count (thread, mode))
    (queue : ∀ mode, (locks name).queue.count (thread, mode) =
      granted.count (thread, mode) + next.queue.count (thread, mode)) :
    ∃ held wanted, Stands rank thread (update locks name next) ops held wanted := by
  by_cases none : ∀ mode, granted.count (thread, mode) = 0
  · -- Nothing is granted to the thread.
    refine ⟨held, wanted, fun other mode => ?_, fun other mode => ?_, stands.place⟩
    · by_cases here : other = name
      · subst here
        rw [update_self, holders, none, Nat.add_zero, stands.holds]
      · rw [update_of_ne here, stands.holds]
    · by_cases here : other = name
      · subst here
        rw [update_self, ← stands.waits, queue, none, Nat.zero_add]
      · rw [update_of_ne here, stands.waits]
  · obtain ⟨mode, some⟩ := not_forall.mp none
    have positive : 0 < wanted.count (name, mode) := by
      rw [← stands.waits, queue]
      omega
    have place := stands.place
    have waits := stands.waits
    cases place with
    | runs safe => exact absurd positive (Nat.lt_irrefl 0)
    | waits above safe =>
      obtain ⟨rfl, rfl⟩ := Prod.mk.inj (mem_singleton.mp (count_pos_iff.mp positive))
      -- The one req of the thread is granted, and its queue is left.
      have moved : ∀ other, granted.count (thread, other) = [(name, mode)].count (name, other) ∧
          next.queue.count (thread, other) = 0 := by
        intro other
        have total := (waits name other).symm.trans (queue other)
        by_cases same : other = mode
        · subst same
          rw [count_singleton_self] at total ⊢
          omega
        · have zero : [(name, mode)].count (name, other) = 0 :=
            count_eq_zero_of_not_mem (by simpa using same)
          rw [zero] at total ⊢
          omega
      refine ⟨(name, mode) :: held, [], fun other otherMode => ?_, fun other otherMode => ?_,
        .runs safe⟩
      · by_cases here : other = name
        · subst here
          rw [update_self, holders, (moved otherMode).1, stands.holds, Nat.add_comm,
            ← count_append, singleton_append]
        · rw [update_of_ne here, stands.holds, count_cons_of_ne]
          exact fun same => here (congrArg Prod.fst same).symm
      · by_cases here : other = name
        · subst here
          rw [update_self, (moved otherMode).2]
          rfl
        · rw [update_of_ne here, waits, count_eq_zero_of_not_mem]
          · rfl
          · exact fun same => here (congrArg Prod.fst (mem_singleton.mp same))

variable {rest : List (Op Name)}

theorem Place.runs_of_ne {op : Op Name} (place : Place rank held wanted (op :: rest))
    (notWait : ∀ name mode, op ≠ .wait name mode) :
    wanted = [] ∧ Safe rank held (op :: rest) := by
  cases place with
  | runs safe => exact ⟨rfl, safe⟩
  | waits above safe => exact absurd rfl (notWait _ _)

/-- A thread that takes a lock holds it or stands in its queue. -/
theorem Stands.lock (stands : Stands rank thread locks (.lock name mode :: rest) held wanted)
    (fair : (locks name).Fair) (unwritten : (∃ mode, (thread, mode) ∈ (locks name).holders) →
      ∀ request ∈ (locks name).queue, request.2 ≠ .write) :
    ∃ held wanted, Stands rank thread
      (update locks name ((locks name).request (thread, mode)))
      (.wait name mode :: rest) held wanted := by
  obtain ⟨rfl, ordered, safe⟩ := stands.place.runs_of_ne nofun
  obtain ⟨granted, left, queue, res, -⟩ :=
    grant_cases (locks name).holders ((locks name).queue ++ [(thread, mode)])
  -- The request of the thread is granted or left in the queue, and there is no other one of it.
  have total : ∀ other, granted.count (thread, other) + left.count (thread, other) =
      [(name, mode)].count (name, other) := by
    intro other
    have before : (locks name).queue.count (thread, other) = 0 := stands.waits name other
    rw [← count_append, ← queue, count_append, before, Nat.zero_add]
    by_cases same : mode = other
    · subst same
      rw [count_singleton_self, count_singleton_self]
    · rw [count_eq_zero_of_not_mem (by simpa using Ne.symm same),
        count_eq_zero_of_not_mem (by simpa using Ne.symm same)]
  have one : [(name, mode)].count (name, mode) = 1 := count_singleton_self
  have others : ∀ other, other ≠ mode → [(name, mode)].count (name, other) = 0 :=
    fun other ne => count_eq_zero_of_not_mem (by simpa using ne)
  have away : ∀ other, other ≠ name → ∀ otherMode,
      [(name, mode)].count (other, otherMode) = 0 := fun other ne otherMode =>
    count_eq_zero_of_not_mem fun same =>
      ne (congrArg Prod.fst (mem_singleton.mp same))
  have outside : ∀ other, other ≠ name →
      update locks name ((locks name).request (thread, mode)) other = locks other :=
    fun other ne => update_of_ne ne _ _
  have inside : update locks name ((locks name).request (thread, mode)) name =
      { holders := (locks name).holders ++ granted, queue := left } := by
    rw [update_self, ← res]
    rfl
  by_cases now : granted.count (thread, mode) = 0
  · have split : ∀ other, granted.count (thread, other) = 0 ∧
        left.count (thread, other) = [(name, mode)].count (name, other) := by
      intro other
      have sum := total other
      by_cases same : other = mode
      · subst same
        omega
      · rw [others other same] at sum ⊢
        omega
    refine ⟨held, [(name, mode)], fun other otherMode => ?_, fun other otherMode => ?_,
      .waits (fun entry mem => ?_) safe⟩
    · by_cases here : other = name
      · subst here
        rw [inside, count_append, (split otherMode).1, Nat.add_zero, stands.holds]
      · rw [outside other here, stands.holds]
    · by_cases here : other = name
      · subst here
        rw [inside, (split otherMode).2]
      · rw [outside other here, stands.waits, away other here]
        rfl
    · rcases ordered entry mem with above | ⟨rfl, rfl⟩
      · exact above
      · -- A reader that has the lock already gets it at once.
        have holds : ∀ other, (thread, other) ∈ (locks name).holders ↔ (name, other) ∈ held := by
          intro other
          rw [← count_pos_iff, stands.holds, count_pos_iff]
        have holder : ∃ other, (thread, other) ∈ (locks name).holders :=
          ⟨.read, (holds .read).mpr mem⟩
        have again := fair.request_again holder (unwritten holder) fun other present => by
          rcases ordered (name, other) ((holds other).mp present) with above | ⟨same, -⟩
          · exact absurd above (Nat.lt_irrefl _)
          · exact congrArg Prod.snd same
        have empty : left = [] := congrArg Lock.queue (res.symm.trans again)
        have sum := total .read
        rw [empty, count_nil, now, one] at sum
        exact absurd sum (by decide)
  · have split : ∀ other, granted.count (thread, other) = [(name, mode)].count (name, other) ∧
        left.count (thread, other) = 0 := by
      intro other
      have sum := total other
      by_cases same : other = mode
      · subst same
        omega
      · rw [others other same] at sum ⊢
        omega
    refine ⟨(name, mode) :: held, [], fun other otherMode => ?_, fun other otherMode => ?_,
      .runs safe⟩
    · rw [← singleton_append, count_append]
      by_cases here : other = name
      · subst here
        rw [inside, count_append, (split otherMode).1, stands.holds, Nat.add_comm]
      · rw [outside other here, stands.holds, away other here, Nat.zero_add]
    · by_cases here : other = name
      · subst here
        rw [inside, (split otherMode).2]
        rfl
      · rw [outside other here, stands.waits]

/-- A thread that releases a lock is left with the others. -/
theorem Stands.unlock (stands : Stands rank thread locks (.unlock name mode :: rest) held wanted) :
    Stands rank thread (update locks name ((locks name).release (thread, mode))) rest
      (held.erase (name, mode)) [] := by
  obtain ⟨rfl, -, safe⟩ := stands.place.runs_of_ne nofun
  obtain ⟨granted, left, queue, res, -⟩ :=
    grant_cases ((locks name).holders.erase (thread, mode)) (locks name).queue
  have nothing : ∀ other, granted.count (thread, other) = 0 ∧ left.count (thread, other) = 0 := by
    intro other
    have before : (locks name).queue.count (thread, other) = 0 := stands.waits name other
    rw [queue, count_append] at before
    omega
  have inside : update locks name ((locks name).release (thread, mode)) name =
      { holders := (locks name).holders.erase (thread, mode) ++ granted, queue := left } := by
    rw [update_self, ← res]
    rfl
  refine ⟨fun other otherMode => ?_, fun other otherMode => ?_, .runs safe⟩
  · rw [count_erase]
    by_cases here : other = name
    · subst here
      rw [inside, count_append, count_erase, (nothing otherMode).1, stands.holds]
      simp
    · rw [update_of_ne here, stands.holds]
      simp [Ne.symm here]
  · by_cases here : other = name
    · subst here
      rw [inside, (nothing otherMode).2]
      rfl
    · rw [update_of_ne here, stands.waits]

/-! ### Runs -/

variable {Request : Type}

/-- A thread that has a lock does not ask for it again while a writer is in the queue. -/
def MayDo (locks : Name → Lock) (thread : Nat) : Op Name → Prop
  | .lock name _ => (∃ holder ∈ (locks name).holders, holder.1 = thread) →
      ∀ request ∈ (locks name).queue, request.2 ≠ .write
  | _ => True

instance decidableMayDo (locks : Name → Lock) (thread : Nat) :
    ∀ op, Decidable (MayDo locks thread op)
  | .lock name _ => inferInstanceAs (Decidable
      ((∃ holder ∈ (locks name).holders, holder.1 = thread) →
        ∀ request ∈ (locks name).queue, request.2 ≠ .write))
  | .wait _ _ | .unlock _ _ | .work => isTrue trivial

def Considerate (pool : Interleaving.Pool (Name → Lock) (Op Name)) :
    Interleaving.Event Request Unit → Prop
  | .request _ => True
  | .step index _ => ∀ op ∈ pool.at index, MayDo pool.shared index op

instance decidableConsiderate (pool : Interleaving.Pool (Name → Lock) (Op Name)) :
    ∀ event : Interleaving.Event Request Unit, Decidable (Considerate pool event)
  | .request _ => isTrue trivial
  | .step index _ => inferInstanceAs (Decidable (∀ op ∈ pool.at index, MayDo pool.shared index op))

theorem Orderly.step {next : Interleaving.Pool (Name → Lock) (Op Name)} {i : Nat}
    (orderly : Orderly rank pool) (considerate : ∀ op ∈ pool.at i, MayDo pool.shared i op)
    (done : pool.step exec i () = some next) : Orderly rank next := by
  obtain ⟨op, rest, ops, present, ran, own, same⟩ := Interleaving.Pool.step_cases done
  have away : ∀ thread, thread ≠ i →
      (next.threads[thread]?).getD [] = (pool.threads[thread]?).getD [] :=
    fun thread ne => by rw [same thread ne]
  obtain ⟨held, wanted, stands⟩ := orderly.stands i
  rw [present, getD_some] at stands
  -- Who does the step, and who does not.
  have all : ∀ {locks : Name → Lock}, next.shared = locks → (∀ name, (locks name).Fair) →
      (∃ held wanted, Stands rank i locks ops held wanted) →
      (∀ thread, thread ≠ i → ∃ held wanted,
        Stands rank thread locks ((pool.threads[thread]?).getD []) held wanted) →
      Orderly rank next := by
    rintro locks rfl fair mine others
    refine ⟨fair, fun thread => ?_⟩
    by_cases here : thread = i
    · subst here
      rw [own]
      exact mine
    · rw [away thread here]
      exact others thread here
  have fairAfter : ∀ {name lock}, lock.Fair → ∀ other,
      (update pool.shared name lock other).Fair := by
    intro name lock fair other
    by_cases here : other = name
    · subst here
      rwa [update_self]
    · rw [update_of_ne here]
      exact orderly.fair other
  cases op with
  | lock name mode =>
    obtain ⟨shared, rfl⟩ := Prod.mk.inj (some.inj ran)
    refine all shared.symm (fairAfter (.grant (orderly.fair name).exclusive _))
      (stands.lock (orderly.fair name) fun ⟨held, holder⟩ =>
        considerate _ (Interleaving.Pool.at_eq present) ⟨_, holder, rfl⟩)
      fun thread ne => ?_
    obtain ⟨theirs, waiting, theyStand⟩ := orderly.stands thread
    obtain ⟨granted, left, queue, res, -⟩ :=
      grant_cases (pool.shared name).holders ((pool.shared name).queue ++ [(i, mode)])
    refine theyStand.moved name _ granted (fun other => ?_) fun other => ?_
    · rw [Lock.request, res, count_append]
    · rw [Lock.request, res, ← count_append, ← queue, count_append,
        count_eq_zero_of_not_mem (a := (thread, other)) (l := [(i, mode)]), Nat.add_zero]
      exact fun same => ne (congrArg Prod.fst (mem_singleton.mp same))
  | wait name mode =>
    simp only [exec] at ran
    split at ran
    · exact nomatch ran
    next left =>
      obtain ⟨shared, rfl⟩ := Prod.mk.inj (some.inj ran)
      have running : wanted = [] ∧ Safe rank held rest := by
        have place := stands.place
        have waits := stands.waits
        cases place with
        | runs safe => exact ⟨rfl, safe⟩
        | waits above safe =>
          have counted := waits name mode
          rw [count_singleton_self] at counted
          exact absurd (count_pos_iff.mp (counted ▸ Nat.one_pos)) left
      obtain ⟨rfl, safe⟩ := running
      exact all shared.symm orderly.fair ⟨held, [], stands.holds, stands.waits, .runs safe⟩
        fun thread _ => orderly.stands thread
  | unlock name mode =>
    obtain ⟨shared, rfl⟩ := Prod.mk.inj (some.inj ran)
    refine all shared.symm (fairAfter (.grant ((orderly.fair name).exclusive.erase _) _))
      ⟨_, _, stands.unlock⟩ fun thread ne => ?_
    obtain ⟨theirs, waiting, theyStand⟩ := orderly.stands thread
    obtain ⟨granted, left, queue, res, -⟩ :=
      grant_cases ((pool.shared name).holders.erase (i, mode)) (pool.shared name).queue
    refine theyStand.moved name _ granted (fun other => ?_) fun other => ?_
    · rw [Lock.release, res, count_append, count_erase_of_ne]
      exact fun same => ne (congrArg Prod.fst same)
    · rw [Lock.release, res, ← count_append, ← queue]
  | work =>
    obtain ⟨shared, rfl⟩ := Prod.mk.inj (some.inj ran)
    obtain ⟨rfl, safe⟩ := stands.place.runs_of_ne nofun
    exact all shared.symm orderly.fair ⟨held, [], stands.holds, stands.waits, .runs safe⟩
      fun thread _ => orderly.stands thread

theorem Orderly.spawn (orderly : Orderly rank pool) {program : List (Op Name)}
    (safe : Safe rank [] program) :
    Orderly rank (pool.spawn program) := by
  refine ⟨orderly.fair, fun thread => ?_⟩
  have before := orderly.stands thread
  cases present : (pool.spawn program).threads[thread]? with
  | none =>
    rw [getElem?_eq_none_iff.mpr (Nat.le_trans (by simp [Interleaving.Pool.spawn])
      (getElem?_eq_none_iff.mp present))] at before
    exact before
  | some ops =>
    rcases Interleaving.Pool.spawn_cases present with old | ⟨rfl, rfl⟩
    · rw [old] at before
      exact before
    · -- A thread that was not there holds nothing and waits for nothing.
      rw [getElem?_eq_none (Nat.le_refl _)] at before
      obtain ⟨held, wanted, stands⟩ := before
      have place := stands.place
      have holds := stands.holds
      have waits := stands.waits
      cases place with
      | runs empty =>
        obtain rfl := empty
        exact ⟨[], [], holds, waits, .runs safe⟩

theorem run_not_deadlocked {program : Request → List (Op Name)}
    (safe : ∀ req, Safe rank [] (program req))
    {events : List (Interleaving.Event Request Unit)}
    (careful : Runs.Careful (Interleaving.Pool.after program exec) Considerate
      ⟨fun _ => {}, []⟩ events) (threads : Finset Nat) :
    ¬ Deadlocked (Runs.run (Interleaving.Pool.after program exec) ⟨fun _ => {}, []⟩ events).shared
      threads := by
  have start : Orderly rank (⟨fun _ => {}, []⟩ : Interleaving.Pool (Name → Lock) (Op Name)) :=
    ⟨fun _ => ⟨nofun, nofun⟩, fun _ => ⟨[], [], fun _ _ => rfl, fun _ _ => rfl, .runs rfl⟩⟩
  refine (careful.kept (Orderly rank) (fun pool event orderly considerate => ?_)
    start).ranked.not_deadlocked threads
  refine Interleaving.Pool.after_kept orderly (fun req _ => orderly.spawn (safe req))
    fun i choice next taken done => ?_
  subst taken
  exact orderly.step considerate done

end RwLock
