/-
This file is a cell with mirrors. A writer changes the cell first and announces the change
afterwards. A mirror that joins is registered first and is told the value later, in front of what
has been queued meanwhile; it may also change what it shows and send the new value to be written.
The mirrors show the cell once nothing is on its way, in every run in which the changes do not
overlap and no mirror is edited while something else is on its way to it: what a mirror shows
becomes the value of the cell when it hears all that is on its way.
-/

import Mathlib

namespace Mirrors

open List Option

variable {Value : Type}

/-! ### Notes -/

/-- What a mirror is told: that there is a value now, that it has changed, that it is gone, or what
it is. -/
inductive Note (Value : Type) where
  | created (value : Value)
  | updated (value : Value)
  | closed
  | listed (value : Option Value)

/-- What a mirror shows after a note. It ignores a creation when it shows a value, and a change
when it shows none. -/
def Note.hear : Note Value → Option Value → Option Value
  | .created value, shown => shown.or (some value)
  | .updated value, shown => shown.map fun _ => value
  | .closed, _ => none
  | .listed value, _ => value

def replay (notes : List (Note Value)) (shown : Option Value) : Option Value :=
  notes.foldl (fun shown note => note.hear shown) shown

theorem replay_append (first second : List (Note Value)) (shown : Option Value) :
    replay (first ++ second) shown = replay second (replay first shown) :=
  foldl_append

theorem isSome_replay {first second : Option Value} (same : first.isSome = second.isSome)
    (notes : List (Note Value)) : (replay notes first).isSome = (replay notes second).isSome := by
  induction notes generalizing first second with
  | nil => exact same
  | cons note rest ih =>
    refine ih ?_
    cases note with
    | created value => simp [Note.hear]
    | updated value => simpa [Note.hear] using same
    | closed | listed => rfl

/-- A note tells the value of the cell as it is. -/
def Note.Apt : Note Value → Option Value → Prop
  | .created value, source => source = some value
  | .updated value, source => source = some value
  | .closed, source => source = none
  | .listed _, _ => False

/-- Who shows the value of the cell still does after these notes. Without a value the notes take
any value away, or there are none. -/
def Steady (notes : List (Note Value)) : Option Value → Prop
  | none => notes = [] ∨ ∀ shown, replay notes shown = none
  | some value => replay notes (some value) = some value

theorem steady_nil (source : Option Value) : Steady [] source := by
  cases source with
  | none => exact .inl rfl
  | some value => rfl

variable {notes : List (Note Value)} {source : Option Value}

theorem Steady.replay_eq (steady : Steady notes source) : replay notes source = source := by
  cases source with
  | none => exact steady.elim (fun same => same ▸ rfl) fun gone => gone none
  | some value => exact steady

theorem Steady.created (steady : Steady notes none) (value : Value) :
    Steady (notes ++ [.created value]) (some value) := by
  rw [Steady, replay_append]
  rcases steady with rfl | gone
  · rfl
  · rw [gone]
    rfl

theorem Steady.updated {before : Value} (steady : Steady notes (some before)) (value : Value) :
    Steady (notes ++ [.updated value]) (some value) := by
  have same : (some value).isSome = (some before).isSome := rfl
  have shown : (replay notes (some value)).isSome = true := by
    rw [isSome_replay same, steady.replay_eq]
    rfl
  obtain ⟨other, found⟩ := isSome_iff_exists.mp shown
  rw [Steady, replay_append, found]
  rfl

theorem steady_closed (notes : List (Note Value)) : Steady (notes ++ [.closed]) none :=
  .inr fun shown => by
    rw [replay_append]
    rfl

/-- Notes that tell the value as it is leave it to whoever shows it. -/
theorem steady_of_apt (apt : ∀ note ∈ notes, note.Apt source) : Steady notes source := by
  cases source with
  | none =>
    rcases eq_nil_or_concat' notes with rfl | ⟨earlier, last, rfl⟩
    · exact .inl rfl
    · have told := apt last (by simp)
      cases last with
      | closed => exact steady_closed earlier
      | created | updated | listed => cases told
  | some value =>
    induction notes with
    | nil => rfl
    | cons note rest ih =>
      have told := apt note mem_cons_self
      have later := ih fun other mem =>
        apt other (mem_cons_of_mem _ mem)
      cases note with
      | created other => exact later
      | updated other =>
        cases told
        exact later
      | closed | listed => cases told

/-- Notes that carry whoever shows the value before a change to the one after it. -/
structure Carries (notes : List (Note Value)) (before after : Option Value) : Prop where
  shown : replay notes before = after
  steady : ∀ earlier, Steady earlier before → Steady (earlier ++ notes) after

theorem carries_created (value : Value) : Carries [.created value] none (some value) :=
  ⟨rfl, fun _ steady => steady.created value⟩

theorem carries_updated (before value : Value) :
    Carries [.updated value] (some before) (some value) :=
  ⟨rfl, fun _ steady => steady.updated value⟩

theorem carries_closed (before : Option Value) : Carries [.closed] before none :=
  ⟨rfl, fun earlier _ => steady_closed earlier⟩

theorem carries_nil (source : Option Value) : Carries [] source source :=
  ⟨rfl, fun earlier steady => (append_nil earlier).symm ▸ steady⟩

theorem Carries.append {first second : List (Note Value)} {before middle after : Option Value}
    (one : Carries first before middle) (two : Carries second middle after) :
    Carries (first ++ second) before after := by
  refine ⟨?_, fun earlier steady => ?_⟩
  · rw [replay_append, one.shown, two.shown]
  · rw [← append_assoc]
    exact two.steady _ (one.steady earlier steady)

/-- A note tells that the value has changed to what it is, or that it is gone. -/
def Note.Announces : Note Value → Option Value → Prop
  | .updated value, source => source = some value
  | .closed, source => source = none
  | .created _, _ | .listed _, _ => False

variable {note : Note Value}

theorem Note.Announces.apt (announces : note.Announces source) : note.Apt source := by
  cases note with
  | updated | closed => exact announces
  | created | listed => cases announces

/-- Announcements carry the mirrors along, if there is one when the value has changed, and if none
makes a value out of nothing. -/
theorem carries_of_announces {before after : Option Value}
    (announces : ∀ note ∈ notes, note.Announces after)
    (held : after.isSome = true → before.isSome = true) (told : notes = [] → before = after) :
    Carries notes before after := by
  induction notes generalizing before with
  | nil =>
    rw [told rfl]
    exact carries_nil after
  | cons note rest ih =>
    have later : Carries rest after after := ih
      (fun other mem => announces other (mem_cons_of_mem _ mem)) id fun _ => rfl
    have first : Carries [note] before after := by
      have now := announces note mem_cons_self
      cases note with
      | updated value =>
        obtain rfl : after = some value := now
        obtain ⟨old, rfl⟩ := isSome_iff_exists.mp (held rfl)
        exact carries_updated old value
      | closed =>
        obtain rfl : after = none := now
        exact carries_closed before
      | created | listed => cases now
    exact first.append later

/-! ### The cell -/

inductive Audience where
  | everyone
  | others
  | sender
  deriving DecidableEq

def Audience.reaches (audience : Audience) (sender reader : Nat) : Bool :=
  match audience with
  | .everyone => true
  | .others => reader ≠ sender
  | .sender => reader = sender

def heardBy (sender reader : Nat) (notes : List (Audience × Note Value)) : List (Note Value) :=
  (notes.filter fun told => told.1.reaches sender reader).map Prod.snd

/-- Whether a mirror is registered, has been told the value too, or is gone. -/
inductive Phase where
  | registered
  | ready
  | gone
  deriving DecidableEq

/-- A mirror and its writer: what is shown, what is in front of it and queued behind that, what it
has sent, and what its writer still has to tell. -/
structure Site (Value : Type) where
  phase : Phase := .gone
  shown : Option Value := none
  out : List (Note Value) := []
  rx : List (Note Value) := []
  edits : List Value := []
  telling : List (Audience × Note Value) := []

structure Cell (Value : Type) where
  source : Option Value
  sites : Nat → Site Value

/-- A note as it arrives at a mirror. A reply overtakes what is queued. -/
def Site.deliver (told : Audience × Note Value) (sender reader : Nat) (site : Site Value) :
    Site Value :=
  if told.1 = .sender then
    if reader = sender ∧ site.phase = .ready then { site with out := site.out ++ [told.2] }
    else site
  else if told.1.reaches sender reader ∧ site.phase ≠ .gone then
    { site with rx := site.rx ++ [told.2] }
  else site

namespace Cell

def set (cell : Cell Value) (id : Nat) (site : Site Value) : Cell Value :=
  { cell with sites := fun other => if other = id then site else cell.sites other }

/-- A writer tells a note, with `rest` left to tell. -/
def tell (cell : Cell Value) (sender : Nat) (told : Audience × Note Value)
    (rest : List (Audience × Note Value)) : Cell Value :=
  { cell with
    sites := fun reader =>
      { (cell.sites reader).deliver told sender reader with
        telling := if reader = sender then rest else (cell.sites reader).telling } }

/-- What a writer still has to tell a mirror. -/
def pending (cell : Cell Value) (teller reader : Nat) : List (Note Value) :=
  heardBy teller reader (cell.sites teller).telling

def coming (cell : Cell Value) (teller reader : Nat) : List (Note Value) :=
  (cell.sites reader).out ++ (cell.sites reader).rx ++ cell.pending teller reader

def Calm (cell : Cell Value) : Prop := ∀ id, (cell.sites id).telling = []

def Unedited (cell : Cell Value) : Prop := ∀ id, (cell.sites id).edits = []

/-- The invariant, with the one writer that may have something to tell. -/
structure GoodAt (cell : Cell Value) (teller : Nat) : Prop where
  alone : ∀ other, other ≠ teller → (cell.sites other).telling = []
  apt : ∀ told ∈ (cell.sites teller).telling, told.2.Apt cell.source
  replied : ∀ told ∈ (cell.sites teller).telling.tail, told.1 ≠ .sender
  replying : ∀ note rest, (cell.sites teller).telling = (.sender, note) :: rest →
    (cell.sites teller).rx = []
  ready : ∀ reader, (cell.sites reader).phase = .ready → (cell.sites reader).edits = [] →
    replay (cell.coming teller reader) (cell.sites reader).shown = cell.source
  registered : ∀ reader, (cell.sites reader).phase = .registered →
    (cell.sites reader).edits = [] ∧ (cell.sites reader).telling = [] ∧
      (cell.sites reader).out = [] ∧
      Steady ((cell.sites reader).rx ++ cell.pending teller reader) cell.source
  editing : ∀ reader, (cell.sites reader).edits ≠ [] →
    cell.source.isSome = true ∧ ∀ other, other ≠ reader → (cell.sites other).edits = []
  edited : ∀ reader, (cell.sites reader).edits ≠ [] → (cell.sites reader).phase = .ready →
    cell.coming teller reader = [] ∧ (cell.sites reader).edits.getLast? = (cell.sites reader).shown

def Good (cell : Cell Value) : Prop := ∃ teller, cell.GoodAt teller

structure Quiet (cell : Cell Value) : Prop where
  calm : cell.Calm
  unedited : cell.Unedited
  heard : ∀ reader, (cell.sites reader).out = [] ∧ (cell.sites reader).rx = []

/-! ### Changes at one site -/

variable {id : Nat}

variable (cell : Cell Value)

@[simp] theorem set_self (id : Nat) (site : Site Value) : (cell.set id site).sites id = site :=
  if_pos rfl

theorem set_of_ne {other : Nat} (site : Site Value) (ne : other ≠ id) :
    (cell.set id site).sites other = cell.sites other :=
  if_neg ne

theorem ext {first second : Cell Value} (source : first.source = second.source)
    (sites : ∀ id, first.sites id = second.sites id) : first = second := by
  obtain ⟨_, _⟩ := first
  obtain ⟨_, _⟩ := second
  obtain rfl := source
  obtain rfl := funext sites
  rfl

variable {cell : Cell Value} {site : Site Value}

theorem set_eq_self (same : cell.sites id = site) : cell.set id site = cell := by
  refine ext rfl fun other => ?_
  by_cases here : other = id
  · rw [here, set_self, same]
  · rw [set_of_ne _ _ here]

theorem set_set (id : Nat) (first second : Site Value) :
    (cell.set id first).set id second = cell.set id second := by
  refine ext rfl fun other => ?_
  by_cases here : other = id
  · rw [here, set_self, set_self]
  · rw [set_of_ne _ _ here, set_of_ne _ _ here, set_of_ne _ _ here]

theorem telling_set (same : site.telling = (cell.sites id).telling) (other : Nat) :
    ((cell.set id site).sites other).telling = (cell.sites other).telling := by
  by_cases here : other = id
  · rw [here, set_self, same]
  · rw [set_of_ne cell site here]

variable {teller : Nat}

section

variable (good : cell.GoodAt teller)
include good

/-- A change at one site keeps the invariant if it does at this site. -/
theorem GoodAt.set (telling : site.telling = (cell.sites id).telling)
    (rx : (cell.sites id).rx = [] → site.rx = []) (ready : site.phase = .ready → site.edits = [] →
      replay (site.out ++ site.rx ++ cell.pending teller id) site.shown = cell.source)
    (registered : site.phase = .registered → site.edits = [] ∧ site.telling = [] ∧
      site.out = [] ∧ Steady (site.rx ++ cell.pending teller id) cell.source)
    (editing : site.edits ≠ [] → cell.source.isSome = true ∧
      ∀ other, other ≠ id → (cell.sites other).edits = [])
    (edited : site.edits ≠ [] → site.phase = .ready →
      site.out ++ site.rx ++ cell.pending teller id = [] ∧ site.edits.getLast? = site.shown) :
    (cell.set id site).GoodAt teller := by
  have told := telling_set telling
  have pending : ∀ reader, (cell.set id site).pending teller reader = cell.pending teller reader :=
    fun reader => congrArg (heardBy teller reader) (told teller)
  have cases : ∀ (property : Nat → Site Value → Prop), property id site →
      (∀ other, other ≠ id → property other (cell.sites other)) →
      ∀ other, property other ((cell.set id site).sites other) := by
    intro property here away other
    by_cases same : other = id
    · rw [same, set_self]
      exact here
    · rw [set_of_ne cell site same]
      exact away other same
  constructor
  · exact fun other ne => (told other).trans (good.alone other ne)
  · rw [told]
    exact good.apt
  · rw [told]
    exact good.replied
  · intro note rest
    rw [told]
    intro same
    have empty := good.replying note rest same
    by_cases here : teller = id
    · rw [here, set_self]
      exact rx (here ▸ empty)
    · rw [set_of_ne cell site here]
      exact empty
  · refine cases (fun reader site' => site'.phase = .ready → site'.edits = [] →
      replay (site'.out ++ site'.rx ++ (cell.set id site).pending teller reader) site'.shown =
        cell.source) ?_ fun other _ => ?_
    · rw [pending]
      exact ready
    · rw [pending]
      exact good.ready other
  · refine cases (fun reader site' => site'.phase = .registered → site'.edits = [] ∧
      site'.telling = [] ∧ site'.out = [] ∧
        Steady (site'.rx ++ (cell.set id site).pending teller reader) cell.source)
      ?_ fun other _ => ?_
    · rw [pending]
      exact registered
    · rw [pending]
      exact good.registered other
  · refine cases (fun reader site' => site'.edits ≠ [] → cell.source.isSome = true ∧
      ∀ other, other ≠ reader → ((cell.set id site).sites other).edits = [])
      (fun some => ?_) fun reader ne some => ?_
    · refine ⟨(editing some).1, fun other ne => ?_⟩
      rw [set_of_ne cell site ne]
      exact (editing some).2 other ne
    · obtain ⟨held, others⟩ := good.editing reader some
      refine ⟨held, cases (fun other site' => other ≠ reader → site'.edits = [])
        (fun _ => ?_) fun other _ => others other⟩
      by_contra own
      exact some ((editing own).2 reader ne)
  · refine cases (fun reader site' => site'.edits ≠ [] → site'.phase = .ready →
      site'.out ++ site'.rx ++ (cell.set id site).pending teller reader = [] ∧
        site'.edits.getLast? = site'.shown) ?_ fun other _ => ?_
    · rw [pending]
      exact edited
    · rw [pending]
      exact good.edited other

theorem GoodAt.forward {rest : List (Note Value)}
    (queued : (cell.sites id).rx = note :: rest) (ready : (cell.sites id).phase = .ready) :
    (cell.set id { cell.sites id with
      out := (cell.sites id).out ++ [note], rx := rest }).GoodAt teller := by
  have same : (cell.sites id).out ++ [note] ++ rest ++ cell.pending teller id =
      cell.coming teller id := by
    rw [coming, queued, append_assoc (cell.sites id).out [note]]
    rfl
  refine good.set rfl (fun empty => ?_) (fun _ unedited => ?_) (fun registered => ?_)
    (good.editing id) fun edits _ => ?_
  · cases queued.symm.trans empty
  · exact same.symm ▸ good.ready id ready unedited
  · cases ready.symm.trans registered
  · exact same.symm ▸ good.edited id edits ready

theorem GoodAt.hear {rest : List (Note Value)} (queued : (cell.sites id).out = note :: rest) :
    (cell.set id { cell.sites id with
      shown := note.hear (cell.sites id).shown, out := rest }).GoodAt teller := by
  have same : cell.coming teller id =
      note :: (rest ++ (cell.sites id).rx ++ cell.pending teller id) := by
    rw [coming, queued]
    rfl
  refine good.set rfl (fun empty => empty) (fun ready unedited => ?_) (fun registered => ?_)
    (good.editing id) fun edits ready => ?_
  · have now := good.ready id ready unedited
    rw [same] at now
    exact now
  · cases queued.symm.trans (good.registered id registered).2.2.1
  · cases same.symm.trans (good.edited id edits ready).1

theorem GoodAt.edit (ready : (cell.sites id).phase = .ready)
    (shown : (cell.sites id).shown.isSome = true) (nothing : cell.coming teller id = [])
    (others : ∀ other, other ≠ id → (cell.sites other).edits = []) (value : Value) :
    (cell.set id { cell.sites id with
      shown := some value, edits := (cell.sites id).edits ++ [value] }).GoodAt teller := by
  have some : (cell.sites id).edits ++ [value] ≠ [] := by simp
  refine good.set rfl (fun empty => empty) (fun _ unedited => ?_) (fun registered => ?_)
    (fun _ => ⟨?_, others⟩) fun _ _ => ⟨nothing, by simp⟩
  · exact absurd unedited some
  · cases ready.symm.trans registered
  · by_cases unedited : (cell.sites id).edits = []
    · have now := good.ready id ready unedited
      rw [nothing] at now
      exact now ▸ shown
    · exact (good.editing id unedited).1

theorem GoodAt.join (unused : cell.sites id = {}) (shown : Option Value) :
    (cell.set id { phase := .registered, shown }).GoodAt teller := by
  refine good.set (by rw [unused]) (fun _ => rfl) (fun ready => by cases ready)
    (fun _ => ⟨rfl, rfl, rfl, ?_⟩) (fun some => absurd rfl some) fun some => absurd rfl some
  refine steady_of_apt fun note mem => ?_
  obtain ⟨told, reached, rfl⟩ := mem_map.mp mem
  exact good.apt told (mem_of_mem_filter reached)

theorem GoodAt.list (registered : (cell.sites id).phase = .registered) :
    (cell.set id { cell.sites id with
      phase := .ready, out := (cell.sites id).out ++ [.listed cell.source] }).GoodAt teller := by
  obtain ⟨unedited, -, empty, steady⟩ := good.registered id registered
  refine good.set rfl (fun empty => empty) (fun _ _ => ?_) (fun registered => by cases registered)
    (fun some => absurd unedited some) fun some => absurd unedited some
  rw [empty]
  exact steady.replay_eq

theorem GoodAt.leave (id : Nat) :
    (cell.set id { cell.sites id with phase := .gone, out := [], rx := [] }).GoodAt teller :=
  good.set rfl (fun _ => rfl) (fun ready => by cases ready) (fun registered => by cases registered)
    (good.editing id) fun _ ready => by cases ready

theorem GoodAt.drop (gone : (cell.sites id).phase = .gone) :
    (cell.set id { cell.sites id with edits := [] }).GoodAt teller := by
  refine good.set rfl (fun empty => empty) (fun ready => ?_) (fun registered => ?_)
    (fun some => absurd rfl some) fun some => absurd rfl some
  · cases gone.symm.trans ready
  · cases gone.symm.trans registered

end

/-! ### Telling a change -/

@[simp] theorem heardBy_nil (sender reader : Nat) :
    heardBy sender reader ([] : List (Audience × Note Value)) = [] := rfl

theorem heardBy_cons (told : Audience × Note Value) (rest : List (Audience × Note Value))
    (sender reader : Nat) :
    heardBy sender reader (told :: rest) =
      (if told.1.reaches sender reader then [told.2] else []) ++ heardBy sender reader rest := by
  by_cases reached : told.1.reaches sender reader = true
  · simp [heardBy, reached]
  · simp [heardBy, reached]

section

variable (told : Audience × Note Value) (sender reader : Nat)
include told sender reader

variable (site : Site Value)

theorem deliver_phase : (site.deliver told sender reader).phase = site.phase := by
  unfold Site.deliver
  split <;> split <;> rfl

theorem deliver_shown : (site.deliver told sender reader).shown = site.shown := by
  unfold Site.deliver
  split <;> split <;> rfl

theorem deliver_edits : (site.deliver told sender reader).edits = site.edits := by
  unfold Site.deliver
  split <;> split <;> rfl

theorem deliver_unused : Site.deliver told sender reader ({} : Site Value) = {} := by
  unfold Site.deliver
  split
  · rw [if_neg fun both => Phase.noConfusion both.2]
  · rw [if_neg fun both => both.2 rfl]

end

variable {reader : Nat}

theorem deliver_out {told : Audience × Note Value} {sender : Nat} (ne : reader ≠ sender) :
    (site.deliver told sender reader).out = site.out := by
  unfold Site.deliver
  split
  · rw [if_neg fun both => ne both.1]
  · split <;> rfl

theorem deliver_coming {told : Audience × Note Value} {rest : List (Audience × Note Value)}
    {sender : Nat} (held : site.phase ≠ .gone) (ready : reader = sender → site.phase = .ready)
    (replying : told.1 = .sender → reader = sender → site.rx = []) :
    (site.deliver told sender reader).out ++ (site.deliver told sender reader).rx ++
        heardBy sender reader rest =
      site.out ++ site.rx ++ heardBy sender reader (told :: rest) := by
  obtain ⟨audience, note⟩ := told
  rw [heardBy_cons]
  by_cases reply : audience = .sender
  · subst reply
    by_cases own : reader = sender
    · have delivered : site.deliver (.sender, note) sender reader =
          { site with out := site.out ++ [note] } := by
        rw [Site.deliver, if_pos rfl, if_pos ⟨own, ready own⟩]
      rw [delivered, replying rfl own]
      simp [Audience.reaches, own]
    · have ignored : site.deliver (.sender, note) sender reader = site := by
        rw [Site.deliver, if_pos rfl, if_neg fun both => own both.1]
      rw [ignored]
      simp [Audience.reaches, own]
  · by_cases reached : audience.reaches sender reader = true
    · have delivered : site.deliver (audience, note) sender reader =
          { site with rx := site.rx ++ [note] } := by
        rw [Site.deliver, if_neg reply, if_pos ⟨reached, held⟩]
      rw [delivered, if_pos reached]
      simp
    · have ignored : site.deliver (audience, note) sender reader = site := by
        rw [Site.deliver, if_neg reply, if_neg fun both => reached both.1]
      rw [ignored, if_neg reached]
      rfl

section Tell

variable {cell : Cell Value} {sender : Nat} {told : Audience × Note Value}
  {rest : List (Audience × Note Value)}

theorem telling_tell_self : ((cell.tell sender told rest).sites sender).telling = rest :=
  if_pos rfl

theorem telling_tell_of_ne {other : Nat} (ne : other ≠ sender) :
    ((cell.tell sender told rest).sites other).telling = (cell.sites other).telling :=
  if_neg ne

theorem coming_tell (announced : (cell.sites sender).telling = told :: rest)
    (held : (cell.sites reader).phase ≠ .gone)
    (ready : reader = sender → (cell.sites reader).phase = .ready)
    (replying : told.1 = .sender → (cell.sites sender).rx = []) :
    (cell.tell sender told rest).coming sender reader = cell.coming sender reader := by
  rw [coming, coming, pending, pending, telling_tell_self, announced]
  exact deliver_coming held ready fun reply own => own ▸ replying reply

/-- What a writer tells next moves to the queues of those that it reaches. -/
theorem GoodAt.tell (good : cell.GoodAt sender)
    (announced : (cell.sites sender).telling = told :: rest) :
    (cell.tell sender told rest).GoodAt sender := by
  have replied := good.replied
  rw [announced] at replied
  have replyFirst : told.1 = .sender → (cell.sites sender).rx = [] := by
    intro reply
    exact good.replying told.2 rest (by rw [announced, ← reply])
  have notRegistered : (cell.sites sender).phase ≠ .registered := by
    intro registered
    cases (good.registered sender registered).2.1.symm.trans announced
  constructor
  · intro other ne
    exact (telling_tell_of_ne ne).trans (good.alone other ne)
  · intro other mem
    rw [telling_tell_self] at mem
    exact good.apt other (announced ▸ mem_cons_of_mem _ mem)
  · intro other mem
    rw [telling_tell_self] at mem
    exact replied other (mem_of_mem_tail mem)
  · intro note others same
    rw [telling_tell_self] at same
    exact absurd rfl (replied (.sender, note) (by rw [same]; simp))
  · intro reader ready unedited
    have phase := (deliver_phase told sender reader _).symm.trans ready
    have edits := (deliver_edits told sender reader _).symm.trans unedited
    rw [coming_tell announced (by rw [phase]; decide) (fun _ => phase) replyFirst]
    exact (congrArg _ (deliver_shown told sender reader _)).trans (good.ready reader phase edits)
  · intro reader registered
    have phase := (deliver_phase told sender reader _).symm.trans registered
    have ne : reader ≠ sender := fun own => notRegistered (own ▸ phase)
    obtain ⟨unedited, silent, empty, steady⟩ := good.registered reader phase
    have emptied : ((cell.tell sender told rest).sites reader).out = [] :=
      (deliver_out ne).trans empty
    refine ⟨(deliver_edits told sender reader _).trans unedited,
      (telling_tell_of_ne ne).trans silent, emptied, ?_⟩
    have same := coming_tell announced (by rw [phase]; decide) (fun own => absurd own ne)
      replyFirst
    rw [coming, coming, emptied, empty] at same
    exact same ▸ steady
  · intro reader some
    obtain ⟨held, others⟩ :=
      good.editing reader fun none => some ((deliver_edits told sender reader _).trans none)
    refine ⟨held, fun other ne => ?_⟩
    exact (deliver_edits told sender other _).trans (others other ne)
  · intro reader some ready
    have phase := (deliver_phase told sender reader _).symm.trans ready
    obtain ⟨nothing, last⟩ :=
      good.edited reader (fun none => some ((deliver_edits told sender reader _).trans none)) phase
    rw [coming_tell announced (by rw [phase]; decide) (fun _ => phase) replyFirst]
    refine ⟨nothing, ?_⟩
    exact (congrArg getLast? (deliver_edits told sender reader _)).trans
      (last.trans (deliver_shown told sender reader _).symm)

end Tell

/-! ### Writing the cell -/

/-- A writer changes the cell, with what it has to tell and what is left to be written. -/
def write (cell : Cell Value) (id : Nat) (source : Option Value) (edits : List Value)
    (telling : List (Audience × Note Value)) : Cell Value :=
  set { cell with source } id { cell.sites id with edits, telling }

/-- While no writer has anything to tell, it does not matter which is taken to be the one. -/
theorem Good.goodAt (good : cell.Good) (calm : cell.Calm) (id : Nat) : cell.GoodAt id := by
  obtain ⟨teller, goodAt⟩ := good
  have pending : ∀ reader, cell.pending id reader = cell.pending teller reader := by
    intro reader
    rw [pending, pending, calm, calm]
    rfl
  have coming : ∀ reader, cell.coming id reader = cell.coming teller reader := by
    intro reader
    rw [coming, coming, pending]
  constructor
  · exact fun other _ => calm other
  · rw [calm]
    exact fun told mem => absurd mem (not_mem_nil)
  · rw [calm]
    exact fun told mem => absurd mem (not_mem_nil)
  · intro note rest same
    cases (calm id).symm.trans same
  · intro reader
    rw [coming]
    exact goodAt.ready reader
  · intro reader
    rw [pending]
    exact goodAt.registered reader
  · exact goodAt.editing
  · intro reader
    rw [coming]
    exact goodAt.edited reader

section Write

variable {cell : Cell Value} {id : Nat}

/-- A change keeps the invariant if its notes carry the other mirrors along, and that of the writer
shows it or is told of it too. -/
theorem Good.write (good : cell.Good) (calm : cell.Calm) {edits : List Value}
    {telling : List (Audience × Note Value)}
    (others : ∀ other, other ≠ id → (cell.sites other).edits = [])
    (working : (cell.sites id).phase ≠ .registered) (apt : ∀ told ∈ telling, told.2.Apt source)
    (replied : ∀ told ∈ telling.tail, told.1 ≠ .sender)
    (replying : ∀ note rest, telling = (.sender, note) :: rest → (cell.sites id).rx = [])
    (carries : ∀ reader, reader ≠ id → Carries (heardBy id reader telling) cell.source source)
    (own : (cell.sites id).phase = .ready → edits = [] →
      replay ((cell.sites id).out ++ (cell.sites id).rx ++ heardBy id id telling)
        (cell.sites id).shown = source) (editing : edits ≠ [] → source.isSome = true)
    (edited : edits ≠ [] → (cell.sites id).phase = .ready →
      (cell.sites id).out ++ (cell.sites id).rx ++ heardBy id id telling = [] ∧
        edits.getLast? = (cell.sites id).shown) :
    (cell.write id source edits telling).Good := by
  have goodAt := good.goodAt calm id
  have silent : ∀ reader, cell.pending id reader = [] := by
    intro reader
    rw [pending, calm, heardBy_nil]
  have self : (cell.write id source edits telling).sites id =
      { cell.sites id with edits, telling } := set_self _ _ _
  have other : ∀ {reader}, reader ≠ id →
      (cell.write id source edits telling).sites reader = cell.sites reader :=
    fun ne => set_of_ne _ _ ne
  have pending : ∀ reader, (cell.write id source edits telling).pending id reader =
      heardBy id reader telling := by
    intro reader
    rw [pending, self]
  refine ⟨id, ?_, ?_, ?_, ?_, ?_, ?_, ?_, ?_⟩
  · exact fun reader ne => (congrArg Site.telling (other ne)).trans (calm reader)
  · rw [self]
    exact apt
  · rw [self]
    exact replied
  · rw [self]
    exact replying
  · intro reader ready unedited
    rw [coming, pending]
    by_cases here : reader = id
    · subst here
      rw [self] at ready unedited ⊢
      exact own ready unedited
    · rw [other here] at ready unedited ⊢
      have now := goodAt.ready reader ready unedited
      rw [coming, silent, append_nil] at now
      rw [replay_append, now]
      exact (carries reader here).shown
  · intro reader registered
    rw [pending]
    by_cases here : reader = id
    · subst here
      rw [self] at registered
      exact absurd registered working
    · rw [other here] at registered ⊢
      obtain ⟨unedited, calm, empty, steady⟩ := goodAt.registered reader registered
      rw [silent, append_nil] at steady
      exact ⟨unedited, calm, empty, (carries reader here).steady _ steady⟩
  · intro reader some
    by_cases here : reader = id
    · subst here
      rw [self] at some
      refine ⟨editing some, fun reader' ne => ?_⟩
      rw [other ne]
      exact others reader' ne
    · rw [other here] at some
      exact absurd (others reader here) some
  · intro reader some ready
    rw [coming, pending]
    by_cases here : reader = id
    · subst here
      rw [self] at some ready ⊢
      exact edited some ready
    · rw [other here] at some
      exact absurd (others reader here) some

theorem heardBy_everyone (notes : List (Note Value)) (sender reader : Nat) :
    heardBy sender reader (notes.map fun note => (.everyone, note)) = notes := by
  induction notes with
  | nil => rfl
  | cons note rest ih =>
    rw [map_cons, heardBy_cons, ih]
    rfl

theorem heardBy_others {sender : Nat} (ne : reader ≠ sender) (note : Note Value) :
    heardBy sender reader [(.others, note)] = [note] := by
  simp [heardBy, Audience.reaches, ne]

@[simp] theorem heardBy_others_self (note : Note Value) (sender : Nat) :
    heardBy sender sender [(.others, note)] = [] := by
  simp [heardBy, Audience.reaches]

section

variable (good : cell.Good) (calm : cell.Calm)
include good calm

/-- The value that a mirror has sent is written, and the others are told. -/
theorem Good.handle (working : (cell.sites id).phase ≠ .registered) {value : Value}
    {rest : List Value} (sent : (cell.sites id).edits = value :: rest) :
    (cell.write id (some value) rest [(.others, .updated value)]).Good := by
  have goodAt := good.goodAt calm id
  have edits : (cell.sites id).edits ≠ [] := by simp [sent]
  obtain ⟨held, others⟩ := goodAt.editing id edits
  obtain ⟨before, source⟩ := isSome_iff_exists.mp held
  have nothing : (cell.sites id).phase = .ready → (cell.sites id).out ++ (cell.sites id).rx = [] ∧
        (value :: rest).getLast? = (cell.sites id).shown := by
    intro ready
    obtain ⟨empty, last⟩ := goodAt.edited id edits ready
    exact ⟨(append_eq_nil_iff.mp empty).1, sent ▸ last⟩
  refine good.write calm others working ?_ ?_ ?_ ?_ ?_ (fun _ => rfl) ?_
  · simp [Note.Apt]
  · simp
  · intro note notes same
    cases same
  · intro reader ne
    rw [heardBy_others ne, source]
    exact carries_updated before value
  · intro ready none
    obtain ⟨empty, last⟩ := nothing ready
    rw [heardBy_others_self, append_nil, empty, ← last, none]
    rfl
  · intro some ready
    obtain ⟨empty, last⟩ := nothing ready
    rw [heardBy_others_self, append_nil, ← last]
    exact ⟨empty, (getLast?_cons_of_ne_nil some).symm⟩

/-- A value is made where there was none. The mirror that asked for it is told in front of its
queue, which must be empty. -/
theorem Good.create (working : (cell.sites id).phase ≠ .registered) (absent : cell.source = none)
    (empty : (cell.sites id).rx = []) (value : Value) :
    (cell.write id (some value) (cell.sites id).edits
      [(.sender, .created value), (.others, .created value)]).Good := by
  have goodAt := good.goodAt calm id
  have unedited : cell.Unedited := by
    intro reader
    by_contra some
    have held := (goodAt.editing reader some).1
    rw [absent] at held
    cases held
  have heard : ∀ reader, heardBy id reader
      [(.sender, .created value), (.others, .created value)] = [.created value] := by
    intro reader
    by_cases own : reader = id
    · simp [heardBy, Audience.reaches, own]
    · simp [heardBy, Audience.reaches, own]
  refine good.write calm (fun other _ => unedited other) working ?_ ?_ (fun _ _ _ => empty) ?_ ?_
    (fun _ => rfl) fun some => absurd (unedited id) some
  · simp [Note.Apt]
  · simp
  · intro reader _
    rw [heard, absent]
    exact carries_created value
  · intro ready _
    have now := goodAt.ready id ready (unedited id)
    rw [coming, pending, calm, heardBy_nil, append_nil] at now
    rw [heard, replay_append, now, absent]
    rfl

/-- A change that everyone is told of, while no mirror is being edited. -/
theorem Good.announce (unedited : cell.Unedited) (working : (cell.sites id).phase ≠ .registered)
    (announces : ∀ note ∈ notes, note.Announces source)
    (held : source.isSome = true → cell.source.isSome = true)
    (told : notes = [] → cell.source = source) :
    (cell.write id source (cell.sites id).edits
      (notes.map fun note => (.everyone, note))).Good := by
  have goodAt := good.goodAt calm id
  have carries := carries_of_announces announces held told
  refine good.write calm (fun other _ => unedited other) working ?_ ?_ ?_ (fun reader _ => ?_) ?_
    (fun some => absurd (unedited id) some) fun some => absurd (unedited id) some
  · intro pair mem
    obtain ⟨note, inNotes, rfl⟩ := mem_map.mp mem
    exact (announces note inNotes).apt
  · intro pair mem
    obtain ⟨note, -, rfl⟩ := mem_map.mp (mem_of_mem_tail mem)
    exact Audience.noConfusion
  · intro note rest same
    have mem : ((.sender, note) : Audience × Note Value) ∈
        notes.map fun note => (.everyone, note) := by
      rw [same]
      exact mem_cons_self
    obtain ⟨other, -, clash⟩ := mem_map.mp mem
    cases clash
  · rw [heardBy_everyone]
    exact carries
  · intro ready _
    have now := goodAt.ready id ready (unedited id)
    rw [coming, pending, calm, heardBy_nil, append_nil] at now
    rw [heardBy_everyone, replay_append, now]
    exact carries.shown

/-- The value is gone and nobody is told, while there is no mirror but one that joins. -/
theorem Good.purge (unedited : cell.Unedited)
    (only : ∀ other, other ≠ id → (cell.sites other).phase = .gone)
    (joining : (cell.sites id).phase = .registered) (empty : (cell.sites id).rx = []) :
    Good { cell with source := none } := by
  have goodAt := good.goodAt calm id
  refine ⟨id, goodAt.alone, ?_, goodAt.replied, goodAt.replying, ?_, ?_, ?_, ?_⟩
  · intro told mem
    rw [show ((⟨none, cell.sites⟩ : Cell Value).sites id).telling = [] from calm id] at mem
    cases mem
  · intro reader ready
    by_cases here : reader = id
    · subst here
      cases joining.symm.trans ready
    · cases (only reader here).symm.trans ready
  · intro reader registered
    by_cases here : reader = id
    · subst here
      obtain ⟨silent, calm', nothing, -⟩ := goodAt.registered reader registered
      refine ⟨silent, calm', nothing, ?_⟩
      rw [pending, show (cell.sites reader).telling = [] from calm', empty]
      exact steady_nil none
    · cases (only reader here).symm.trans registered
  · exact fun reader some => absurd (unedited reader) some
  · exact fun reader some => absurd (unedited reader) some

end

end Write

theorem Good.shown (good : cell.Good) (quiet : cell.Quiet)
    (ready : (cell.sites reader).phase = .ready) :
    (cell.sites reader).shown = cell.source := by
  obtain ⟨teller, goodAt⟩ := good
  have now := goodAt.ready reader ready (quiet.unedited reader)
  obtain ⟨out, rx⟩ := quiet.heard reader
  rw [coming, pending, quiet.calm, out, rx] at now
  exact now

end Cell

end Mirrors
