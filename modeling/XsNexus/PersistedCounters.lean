import Mathlib.Tactic

namespace PersistedCounters

/-- What the process is doing with its next item: it has taken it, or has stored its number and not yet
offered it. -/
inductive Stage (α : Type*)
  | idle
  | taken (a : α)
  | stored (a : α)

/-- A running process: the counter items are taken from, the number that is written to the disk, and the item
that is offered to be sent. -/
structure Memory (α : Type*) where
  counter : Nat
  shared : Nat
  stage : Stage α
  offered : Option α

/-- The disk, which a crash leaves, with the process and the items it has sent so far. -/
structure Machine (α : Type*) where
  disk : Nat
  memory : Option (Memory α)
  sent : List α

section Steps

variable {α : Type*} (number : α → Nat) (top : Nat)

/-- The counter goes up until it reaches the top. -/
def Above (counter : Nat) (a : α) : Prop := counter < number a ∨ (counter ≤ number a ∧ top ≤ number a)

inductive Step : Machine α → Machine α → Prop
  | stay (m : Machine α) : Step m m
  | start (disk : Nat) (sent : List α) :
      Step ⟨disk, none, sent⟩ ⟨disk, some ⟨disk, disk, .idle, none⟩, sent⟩
  | crash (disk : Nat) (memory : Option (Memory α)) (sent : List α) : Step ⟨disk, memory, sent⟩ ⟨disk, none, sent⟩
  | take (disk counter shared : Nat) (offered : Option α) (sent : List α) (a : α) (h : Above number top counter a) :
      Step ⟨disk, some ⟨counter, shared, .idle, offered⟩, sent⟩
        ⟨disk, some ⟨number a, shared, .taken a, offered⟩, sent⟩
  | drop (disk counter shared : Nat) (stage : Stage α) (offered : Option α) (sent : List α) :
      Step ⟨disk, some ⟨counter, shared, stage, offered⟩, sent⟩ ⟨disk, some ⟨counter, shared, .idle, offered⟩, sent⟩
  | fail (disk counter shared : Nat) (offered : Option α) (sent : List α) (a : α) :
      Step ⟨disk, some ⟨counter, shared, .taken a, offered⟩, sent⟩
        ⟨disk, some ⟨counter, number a, .idle, offered⟩, sent⟩
  | store (disk counter shared : Nat) (offered : Option α) (sent : List α) (a : α) :
      Step ⟨disk, some ⟨counter, shared, .taken a, offered⟩, sent⟩
        ⟨number a, some ⟨counter, number a, .stored a, offered⟩, sent⟩
  | write (disk counter shared : Nat) (stage : Stage α) (offered : Option α) (sent : List α) :
      Step ⟨disk, some ⟨counter, shared, stage, offered⟩, sent⟩ ⟨shared, some ⟨counter, shared, stage, offered⟩, sent⟩
  | offer (disk counter shared : Nat) (offered : Option α) (sent : List α) (a : α) :
      Step ⟨disk, some ⟨counter, shared, .stored a, offered⟩, sent⟩
        ⟨disk, some ⟨counter, shared, .idle, some a⟩, sent⟩
  | send (disk counter shared : Nat) (stage : Stage α) (sent : List α) (a : α) :
      Step ⟨disk, some ⟨counter, shared, stage, some a⟩, sent⟩
        ⟨disk, some ⟨counter, shared, stage, some a⟩, sent ++ [a]⟩

/-- An earlier item and a later one: the later number is larger, unless the counter has reached the top. -/
def Before (a b : α) : Prop := a = b ∨ number a < number b ∨ top ≤ number b

/-- The stage of a process with what it has taken or stored. -/
def StageSound (disk counter shared : Nat) (offered : Option α) (sent : List α) : Stage α → Prop
  | .idle => True
  | .taken a => number a = counter ∧ (shared < number a ∨ top ≤ number a)
  | .stored a => number a ≤ disk ∧ (∀ b ∈ sent, Before number top b a) ∧ ∀ b ∈ offered, Before number top b a

structure Alive (disk : Nat) (sent : List α) (memory : Memory α) : Prop where
  shared : disk ≤ memory.shared
  counter : memory.shared ≤ memory.counter
  offered : ∀ a ∈ memory.offered, number a ≤ disk ∧ ∀ b ∈ sent, Before number top b a
  stage : StageSound number top disk memory.counter memory.shared memory.offered sent memory.stage

/-- Nothing is sent that the disk does not count, and what is sent is in order. -/
structure Ordered (m : Machine α) : Prop where
  counted : ∀ a ∈ m.sent, number a ≤ m.disk
  ordered : m.sent.Pairwise (Before number top)
  alive : ∀ memory ∈ m.memory, Alive number top m.disk m.sent memory

variable {number : α → Nat} {top : Nat}

theorem Alive.store {disk counter shared : Nat} {offered : Option α} {sent : List α} {a : α}
    (h : Alive number top disk sent ⟨counter, shared, .taken a, offered⟩) (hcounted : ∀ b ∈ sent, number b ≤ disk) :
    disk ≤ number a ∧ number a ≤ counter ∧ (∀ b ∈ sent, Before number top b a) ∧
      ∀ b ∈ offered, Before number top b a := by
  obtain ⟨hshared, hcounter, hoffered, htaken, hnext⟩ := h
  dsimp only at hshared hcounter hoffered htaken hnext
  have hbefore : ∀ b, number b ≤ disk → Before number top b a := by
    intro b hb
    rcases hnext with hlt | htop
    · exact Or.inr (Or.inl (by omega))
    · exact Or.inr (Or.inr htop)
  refine ⟨by omega, by omega, fun b hb => hbefore b (hcounted b hb), fun b hb => ?_⟩
  exact hbefore b (hoffered b hb).1

theorem Ordered.step {m m' : Machine α} (hs : Step number top m m') (h : Ordered number top m) :
    Ordered number top m' := by
  obtain ⟨hcounted, hordered, halive⟩ := h
  cases hs with
  | stay => exact ⟨hcounted, hordered, halive⟩
  | start disk sent =>
    refine ⟨hcounted, hordered, fun memory hmemory => ?_⟩
    cases Option.some.inj hmemory
    exact ⟨Nat.le_refl _, Nat.le_refl _, fun a ha => by simp at ha, trivial⟩
  | crash disk memory sent => exact ⟨hcounted, hordered, fun memory hmemory => by simp at hmemory⟩
  | take disk counter shared offered sent a hnext =>
    refine ⟨hcounted, hordered, fun memory hmemory => ?_⟩
    cases Option.some.inj hmemory
    obtain ⟨hshared, hcounter, hoffered, _⟩ := halive _ rfl
    dsimp only at hshared hcounter
    refine ⟨hshared, ?_, hoffered, rfl, ?_⟩
    · rcases hnext with hlt | ⟨hle, _⟩ <;> dsimp only <;> omega
    · rcases hnext with hlt | ⟨_, htop⟩
      · exact Or.inl (Nat.lt_of_le_of_lt hcounter hlt)
      · exact Or.inr htop
  | drop disk counter shared stage offered sent =>
    refine ⟨hcounted, hordered, fun memory hmemory => ?_⟩
    cases Option.some.inj hmemory
    obtain ⟨hshared, hcounter, hoffered, _⟩ := halive _ rfl
    exact ⟨hshared, hcounter, hoffered, trivial⟩
  | fail disk counter shared offered sent a =>
    refine ⟨hcounted, hordered, fun memory hmemory => ?_⟩
    cases Option.some.inj hmemory
    have hbefore := halive _ rfl
    obtain ⟨hdisk, hcounter, _, _⟩ := hbefore.store hcounted
    exact ⟨hdisk, hcounter, hbefore.offered, trivial⟩
  | store disk counter shared offered sent a =>
    have hbefore := halive _ rfl
    obtain ⟨hdisk, hcounter, hsent, hoffered⟩ := hbefore.store hcounted
    refine ⟨fun b hb => (hcounted b hb).trans hdisk, hordered, fun memory hmemory => ?_⟩
    cases Option.some.inj hmemory
    refine ⟨Nat.le_refl _, hcounter, fun b hb => ?_, Nat.le_refl _, hsent, hoffered⟩
    obtain ⟨hle, hbefore⟩ := hbefore.offered b hb
    exact ⟨hle.trans hdisk, hbefore⟩
  | write disk counter shared stage offered sent =>
    obtain ⟨hshared, hcounter, hoffered, hstage⟩ := halive _ rfl
    refine ⟨fun b hb => (hcounted b hb).trans hshared, hordered, fun memory hmemory => ?_⟩
    cases Option.some.inj hmemory
    refine ⟨Nat.le_refl _, hcounter, fun b hb => ?_, ?_⟩
    · obtain ⟨hle, hbefore⟩ := hoffered b hb
      exact ⟨hle.trans hshared, hbefore⟩
    · cases stage with
      | idle => trivial
      | taken a => exact hstage
      | stored a => exact ⟨hstage.1.trans hshared, hstage.2⟩
  | offer disk counter shared offered sent a =>
    refine ⟨hcounted, hordered, fun memory hmemory => ?_⟩
    cases Option.some.inj hmemory
    obtain ⟨hshared, hcounter, _, hle, hsent, _⟩ := halive _ rfl
    refine ⟨hshared, hcounter, fun b hb => ?_, trivial⟩
    cases Option.some.inj hb
    exact ⟨hle, hsent⟩
  | send disk counter shared stage sent a =>
    obtain ⟨hshared, hcounter, hoffered, hstage⟩ := halive _ rfl
    obtain ⟨hle, hbefore⟩ := hoffered a rfl
    have happend : ∀ b ∈ sent ++ [a], b ∈ sent ∨ b = a := by
      intro b hb
      rcases List.mem_append.mp hb with hb | hb
      · exact Or.inl hb
      · exact Or.inr (List.mem_singleton.mp hb)
    refine ⟨fun b hb => ?_, ?_, fun memory hmemory => ?_⟩
    · rcases happend b hb with hb | rfl
      · exact hcounted b hb
      · exact hle
    · refine List.pairwise_append.mpr ⟨hordered, List.pairwise_singleton _ _, fun b hb c hc => ?_⟩
      cases List.mem_singleton.mp hc
      exact hbefore b hb
    · cases Option.some.inj hmemory
      refine ⟨hshared, hcounter, fun b hb => ⟨(hoffered b hb).1, fun d hd => ?_⟩, ?_⟩
      · cases Option.some.inj hb
        rcases happend d hd with hd | rfl
        · exact hbefore d hd
        · exact Or.inl rfl
      · cases stage with
        | idle => trivial
        | taken b => exact hstage
        | stored b =>
          refine ⟨hstage.1, fun d hd => ?_, hstage.2.2⟩
          rcases happend d hd with hd | rfl
          · exact hstage.2.1 d hd
          · exact hstage.2.2 d rfl

theorem ordered_of_run {disk : Nat} {m : Machine α}
    (h : Relation.ReflTransGen (Step number top) ⟨disk, none, []⟩ m) : Ordered number top m := by
  induction h with
  | refl =>
    exact ⟨fun a ha => by simp at ha, List.Pairwise.nil, fun memory hmemory => by simp at hmemory⟩
  | tail _ hs ih => exact ih.step hs

/-- Whatever crashes and writes come between, the items that are sent have larger and larger numbers, or are
sent again. -/
theorem increasing_of_run {disk : Nat} {m : Machine α}
    (h : Relation.ReflTransGen (Step number top) ⟨disk, none, []⟩ m) (hbound : ∀ a ∈ m.sent, number a < top) :
    m.sent.Pairwise fun a b => a ≠ b → number a < number b := by
  refine (ordered_of_run h).ordered.imp_of_mem fun {a b} _ hb hbefore hne => ?_
  rcases hbefore with heq | hlt | htop
  · exact absurd heq hne
  · exact hlt
  · exact absurd (hbound b hb) (Nat.not_lt.mpr htop)

end Steps

end PersistedCounters
