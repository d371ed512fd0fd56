import XsNexus.FiniteMap
import XsNexus.Runs
import Mathlib.Logic.Relation

namespace ReadCommitted

open FiniteMap Relation Runs

variable {R M W σ : Type}

/-- What is left of a transaction. A statement sees the committed state under the transaction's own
writes; a change outside of the transaction is there for all at once, and stays. -/
inductive Script (R M W σ : Type)
  | commit
  | rollback
  | lock (resource : R) (mode : M) (next : Script R M W σ)
  | statement (writes : σ → List W) (next : σ → Script R M W σ)
  | outside (change : σ → σ) (next : σ → Script R M W σ)

structure Transaction (R M W σ : Type) where
  script : Script R M W σ
  writes : List W
  locks : List (R × M)

structure Server (R M W σ : Type) where
  committed : σ
  transactions : Map Nat (Transaction R M W σ)

/-- Which locks exclude each other, and what one write does. -/
structure Rules (M W σ : Type) where
  conflicts : M → M → Bool
  write : σ → W → σ
  conflicts_symm : ∀ mode mode', conflicts mode mode' = conflicts mode' mode

def Rules.view (rules : Rules M W σ) (committed : σ) (writes : List W) : σ :=
  writes.foldl rules.write committed

namespace Server

variable [DecidableEq R]

def put (server : Server R M W σ) (id : Nat) (transaction : Transaction R M W σ) : Server R M W σ :=
  { server with transactions := server.transactions.insert id transaction }

def drop (server : Server R M W σ) (id : Nat) : Server R M W σ :=
  { server with transactions := server.transactions.erase id }

/-- No other transaction holds a lock on the resource that excludes the mode. -/
def grants (rules : Rules M W σ) (server : Server R M W σ) (id : Nat) (resource : R) (mode : M) : Bool :=
  server.transactions.entries.all fun entry => decide (entry.1 = id) ||
    entry.2.locks.all fun held => !(decide (held.1 = resource) && rules.conflicts mode held.2)

def advance (rules : Rules M W σ) (server : Server R M W σ) (id : Nat) : Server R M W σ :=
  match server.transactions.lookup id with
  | none => server
  | some transaction =>
    match transaction.script with
    | .commit =>
      { server.drop id with committed := rules.view server.committed transaction.writes }
    | .rollback => server.drop id
    | .lock resource mode next =>
      if server.grants rules id resource mode then
        server.put id { transaction with
          script := next
          locks := (resource, mode) :: transaction.locks }
      else server
    | .statement writes next =>
      let seen := rules.view server.committed transaction.writes
      server.put id { transaction with
        script := next seen
        writes := transaction.writes ++ writes seen }
    | .outside change next =>
      { server.put id { transaction with script := next server.committed } with
        committed := change server.committed }

end Server

/-- What happens to the server: a transaction begins, goes on or is given up, or the committed state
changes from elsewhere. -/
inductive Op (R M W σ : Type)
  | start (id : Nat) (script : Script R M W σ)
  | advance (id : Nat)
  | abort (id : Nat)
  | elsewhere (change : σ → σ)

def Server.step [DecidableEq R] (rules : Rules M W σ) (server : Server R M W σ) :
    Op R M W σ → Unit × Server R M W σ
  | .start id script => ((), if id ∈ server.transactions then server else server.put id ⟨script, [], []⟩)
  | .advance id => ((), server.advance rules id)
  | .abort id => ((), server.drop id)
  | .elsewhere change => ((), { server with committed := change server.committed })

variable {rules : Rules M W σ}

/-- Locks that two transactions may hold at once. -/
def Compatible (rules : Rules M W σ) (locks locks' : List (R × M)) : Prop :=
  ∀ resource mode mode', (resource, mode) ∈ locks → (resource, mode') ∈ locks' →
    rules.conflicts mode mode' = false

theorem Compatible.symm {locks locks' : List (R × M)} (h : Compatible rules locks locks') :
    Compatible rules locks' locks :=
  fun resource mode mode' hm hm' => by rw [rules.conflicts_symm, h resource mode' mode hm' hm]

/-- What holds of every transaction and of every two, as one is put in its place. -/
def Server.Exclusive (rules : Rules M W σ) (server : Server R M W σ) : Prop :=
  ∀ id id' transaction transaction', id ≠ id' →
    server.transactions.lookup id = some transaction →
    server.transactions.lookup id' = some transaction' →
    Compatible rules transaction.locks transaction'.locks

namespace Server

variable [DecidableEq R] {server : Server R M W σ} {id : Nat} {transaction : Transaction R M W σ}

omit [DecidableEq R] in
theorem lookup_put (server : Server R M W σ) (id id' : Nat) (transaction : Transaction R M W σ) :
    (server.put id transaction).transactions.lookup id' =
      if id' = id then some transaction else server.transactions.lookup id' :=
  lookup_insert_eq ..

omit [DecidableEq R] in
theorem lookup_drop (server : Server R M W σ) (id id' : Nat) :
    (server.drop id).transactions.lookup id' =
      if id' = id then none else server.transactions.lookup id' :=
  lookup_erase_eq ..

theorem compatible_of_grants {resource : R} {mode : M} (h : server.grants rules id resource mode = true)
    {id' : Nat} {transaction' : Transaction R M W σ} (hne : id' ≠ id)
    (hl : server.transactions.lookup id' = some transaction') {mode' : M}
    (hheld : (resource, mode') ∈ transaction'.locks) : rules.conflicts mode mode' = false := by
  have hentry : (⟨id', transaction'⟩ : Sigma fun _ : Nat => Transaction R M W σ) ∈
      server.transactions.entries := AList.mem_lookup_iff.mp hl
  have hall := List.all_eq_true.mp h _ hentry
  rw [Bool.or_eq_true, decide_eq_true_eq] at hall
  have hlocks := List.all_eq_true.mp (hall.resolve_left hne) _ hheld
  simpa using hlocks

omit [DecidableEq R] in
theorem Exclusive.drop (h : server.Exclusive rules) (id : Nat) : (server.drop id).Exclusive rules := by
  intro first second transaction transaction' hne hl hl'
  rw [lookup_drop] at hl hl'
  split at hl
  next => simp at hl
  next =>
    split at hl'
    next => simp at hl'
    next => exact h first second transaction transaction' hne hl hl'

omit [DecidableEq R] in
theorem Exclusive.put (h : server.Exclusive rules)
    (hnew : ∀ id' transaction', id' ≠ id → server.transactions.lookup id' = some transaction' →
      Compatible rules transaction.locks transaction'.locks) :
    (server.put id transaction).Exclusive rules := by
  intro first second held held' hne hl hl'
  rw [lookup_put] at hl hl'
  by_cases hfirst : first = id
  · rw [if_pos hfirst] at hl
    cases hl
    rw [if_neg (fun hsecond => hne (hfirst.trans hsecond.symm))] at hl'
    exact hnew second held' (fun hsecond => hne (hfirst.trans hsecond.symm)) hl'
  · rw [if_neg hfirst] at hl
    by_cases hsecond : second = id
    · rw [if_pos hsecond] at hl'
      cases hl'
      exact (hnew first held hfirst hl).symm
    · rw [if_neg hsecond] at hl'
      exact h first second held held' hne hl hl'

theorem Exclusive.advance (h : server.Exclusive rules) (id : Nat) :
    (server.advance rules id).Exclusive rules := by
  unfold Server.advance
  split
  next => exact h
  next transaction hl =>
    have hsame : ∀ id' transaction', id' ≠ id → server.transactions.lookup id' = some transaction' →
        Compatible rules transaction.locks transaction'.locks := fun id' transaction' hne hl' =>
      h id id' transaction transaction' (Ne.symm hne) hl hl'
    split
    next => exact h.drop id
    next => exact h.drop id
    next resource mode next hscript =>
      split
      next hgrants =>
        refine h.put fun id' transaction' hne hl' wanted first second hfirst hsecond => ?_
        rcases List.mem_cons.mp hfirst with heq | hheld
        · cases heq
          exact compatible_of_grants hgrants hne hl' hsecond
        · exact hsame id' transaction' hne hl' wanted first second hheld hsecond
      next => exact h
    next => exact h.put hsame
    next => exact h.put hsame

theorem Exclusive.step (h : server.Exclusive rules) (op : Op R M W σ) :
    (server.step rules op).2.Exclusive rules := by
  cases op with
  | start id script =>
    show (if id ∈ server.transactions then server else server.put id ⟨script, [], []⟩).Exclusive rules
    split
    next => exact h
    next => exact h.put fun _ _ _ _ _ _ _ hheld => absurd hheld List.not_mem_nil
  | advance id => exact h.advance id
  | abort id => exact h.drop id
  | elsewhere change => exact h

theorem exclusive_run (ops : List (Op R M W σ)) {committed : σ} :
    (final (Server.step rules) ⟨committed, ∅⟩ ops : Server R M W σ).Exclusive rules :=
  run_keeps (fun server op h _ => h.step op) ops
    (fun _ _ _ _ _ hl => by simp at hl) (along_true _ _ _)

end Server

/-- The locks of a script are asked for in an order that `allowed` has under the locks held. -/
def Script.Ordered (allowed : List (R × M) → R → M → Prop) : List (R × M) → Script R M W σ → Prop
  | _, .commit => True
  | _, .rollback => True
  | held, .lock resource mode next =>
    allowed held resource mode ∧ next.Ordered allowed ((resource, mode) :: held)
  | held, .statement _ next => ∀ seen, (next seen).Ordered allowed held
  | held, .outside _ next => ∀ seen, (next seen).Ordered allowed held

/-- All transactions keep to the order. -/
def Server.Ordered (allowed : List (R × M) → R → M → Prop) (server : Server R M W σ) : Prop :=
  ∀ id transaction, server.transactions.lookup id = some transaction →
    transaction.script.Ordered allowed transaction.locks

namespace Server

variable [DecidableEq R] {allowed : List (R × M) → R → M → Prop} {server : Server R M W σ}

omit [DecidableEq R] in
theorem Ordered.put (h : server.Ordered allowed) {id : Nat} {transaction : Transaction R M W σ}
    (hnew : transaction.script.Ordered allowed transaction.locks) :
    (server.put id transaction).Ordered allowed := by
  intro id' held hl
  rw [lookup_put] at hl
  split at hl
  next =>
    cases hl
    exact hnew
  next => exact h id' held hl

omit [DecidableEq R] in
theorem Ordered.drop (h : server.Ordered allowed) (id : Nat) : (server.drop id).Ordered allowed := by
  intro id' held hl
  rw [lookup_drop] at hl
  split at hl
  next => simp at hl
  next => exact h id' held hl

theorem Ordered.advance (h : server.Ordered allowed) (id : Nat) :
    (server.advance rules id).Ordered allowed := by
  unfold Server.advance
  split
  next => exact h
  next transaction hl =>
    have hscript := h id transaction hl
    split
    next => exact h.drop id
    next => exact h.drop id
    next resource mode next heq =>
      rw [heq] at hscript
      split
      next => exact h.put hscript.2
      next => exact h
    next writes next heq =>
      rw [heq] at hscript
      exact h.put (hscript _)
    next change next heq =>
      rw [heq] at hscript
      exact h.put (hscript _)

/-- Scripts that keep to the order from the start keep to it in every run. -/
theorem ordered_run {ops : List (Op R M W σ)} {committed : σ}
    (hops : ∀ id script, .start id script ∈ ops → script.Ordered allowed []) :
    (final (Server.step rules) ⟨committed, ∅⟩ ops : Server R M W σ).Ordered allowed := by
  have hstart : Server.Ordered allowed (⟨committed, ∅⟩ : Server R M W σ) :=
    fun _ _ hl => by simp at hl
  generalize (⟨committed, ∅⟩ : Server R M W σ) = server at hstart
  induction ops generalizing server with
  | nil => exact hstart
  | cons op ops ih =>
    refine ih (fun id script hm => hops id script (List.mem_cons_of_mem _ hm)) _ ?_
    cases op with
    | start id script =>
      show (if id ∈ server.transactions then server else
        server.put id ⟨script, [], []⟩).Ordered allowed
      split
      next => exact hstart
      next => exact hstart.put (hops id script (List.mem_cons_self ..))
    | advance id => exact hstart.advance id
    | abort id => exact hstart.drop id
    | elsewhere change => exact hstart

/-- One transaction is kept waiting by a lock of the other. -/
def WaitsFor (rules : Rules M W σ) (server : Server R M W σ) (id id' : Nat) : Prop :=
  id ≠ id' ∧ ∃ transaction transaction' resource mode next mode',
    server.transactions.lookup id = some transaction ∧
    server.transactions.lookup id' = some transaction' ∧
    transaction.script = .lock resource mode next ∧
    (resource, mode') ∈ transaction'.locks ∧ rules.conflicts mode mode' = true

def waits (rules : Rules M W σ) (server : Server R M W σ) (id id' : Nat) : Bool :=
  decide (id ≠ id') && (server.transactions.lookup id).any fun transaction =>
    (server.transactions.lookup id').any fun transaction' =>
      match transaction.script with
      | .lock resource mode _ => transaction'.locks.any fun held =>
        decide (held.1 = resource) && rules.conflicts mode held.2
      | _ => false

theorem waitsFor_of_waits {id id' : Nat} (h : server.waits rules id id' = true) :
    server.WaitsFor rules id id' := by
  unfold waits at h
  rw [Bool.and_eq_true, decide_eq_true_eq] at h
  obtain ⟨hne, h⟩ := h
  obtain ⟨transaction, hl, h⟩ := (Option.any_eq_true _ _).mp h
  obtain ⟨transaction', hl', h⟩ := (Option.any_eq_true _ _).mp h
  split at h
  next resource mode next hscript =>
    obtain ⟨held, hheld, h⟩ := List.any_eq_true.mp h
    rw [Bool.and_eq_true, decide_eq_true_eq] at h
    obtain ⟨rfl, hconflict⟩ := h
    exact ⟨hne, transaction, transaction', held.1, mode, next, held.2, hl, hl', hscript, hheld,
      hconflict⟩
  next => simp at h

/-- A cycle of transactions, each of which is kept waiting by the next. -/
def Deadlocked (rules : Rules M W σ) (server : Server R M W σ) : Prop :=
  ∃ id, TransGen (server.WaitsFor rules) id id

omit [DecidableEq R] in
/-- Where waiting goes up a rank, no cycle comes about. -/
theorem not_deadlocked_of_rank {rank : Nat → Nat}
    (h : ∀ id id' id'', server.WaitsFor rules id id' → server.WaitsFor rules id' id'' →
      rank id < rank id') : ¬server.Deadlocked rules := by
  rintro ⟨id, hcycle⟩
  have hrises : ∀ {id'}, TransGen (server.WaitsFor rules) id id' → ∀ id'',
      server.WaitsFor rules id' id'' → rank id < rank id' := by
    intro id' hpath
    induction hpath with
    | single hwait => exact fun id'' hnext => h _ _ _ hwait hnext
    | tail _ hwait ih => exact fun id'' hnext => (ih _ hwait).trans (h _ _ _ hwait hnext)
  obtain ⟨second, hfirst, _⟩ := TransGen.head'_iff.mp hcycle
  exact absurd (hrises hcycle second hfirst) (lt_irrefl _)

end Server

/-- What the transactions keep of the committed state, and what one that has some locks may count on
of the changes of the others. -/
structure Discipline (R M σ : Type) where
  Inv : σ → Prop
  Rely : List (R × M) → σ → σ → Prop
  refl : ∀ held now, Rely held now now
  trans : ∀ {held before now after}, Rely held before now → Rely held now after → Rely held before after

/-- A change that somebody with these locks may make. -/
def Discipline.Allows (rules : Rules M W σ) (d : Discipline R M σ) (held : List (R × M))
    (now after : σ) : Prop :=
  d.Inv after ∧ ∀ others, Compatible rules held others → d.Rely others now after

/-- Whatever the others do between two of its steps, the script changes the committed state only as it
may. -/
def Script.Guarantees (rules : Rules M W σ) (d : Discipline R M σ) :
    List (R × M) → List W → σ → Script R M W σ → Prop
  | held, writes, seen, .commit => ∀ now, d.Rely held seen now → d.Inv now →
    d.Allows rules held now (rules.view now writes)
  | _, _, _, .rollback => True
  | held, writes, seen, .lock resource mode next => ∀ now, d.Rely held seen now → d.Inv now →
    next.Guarantees rules d ((resource, mode) :: held) writes now
  | held, writes, seen, .statement write next => ∀ now, d.Rely held seen now → d.Inv now →
    (next (rules.view now writes)).Guarantees rules d held
      (writes ++ write (rules.view now writes)) now
  | held, writes, seen, .outside change next => ∀ now, d.Rely held seen now → d.Inv now →
    d.Allows rules held now (change now) ∧ (next now).Guarantees rules d held writes (change now)

theorem Script.Guarantees.later {d : Discipline R M σ} {held : List (R × M)} {writes : List W}
    {seen now : σ} {script : Script R M W σ} (h : script.Guarantees rules d held writes seen)
    (hrely : d.Rely held seen now) : script.Guarantees rules d held writes now := by
  cases script with
  | commit => exact fun after hafter hinv => h after (d.trans hrely hafter) hinv
  | rollback => trivial
  | lock resource mode next => exact fun after hafter hinv => h after (d.trans hrely hafter) hinv
  | statement write next => exact fun after hafter hinv => h after (d.trans hrely hafter) hinv
  | outside change next => exact fun after hafter hinv => h after (d.trans hrely hafter) hinv

/-- The committed state keeps the invariant, and every transaction still does what it guarantees. -/
structure Server.Sound (rules : Rules M W σ) (d : Discipline R M σ) (server : Server R M W σ) : Prop where
  inv : d.Inv server.committed
  exclusive : server.Exclusive rules
  guarantees : ∀ id transaction, server.transactions.lookup id = some transaction →
    transaction.script.Guarantees rules d transaction.locks transaction.writes server.committed

/-- What may happen to a server in which all keep to the discipline. -/
def Op.Keeps (rules : Rules M W σ) (d : Discipline R M σ) : Op R M W σ → Prop
  | .start _ script => ∀ now, d.Inv now → script.Guarantees rules d [] [] now
  | .advance _ => True
  | .abort _ => True
  | .elsewhere change => ∀ now, d.Inv now → d.Inv (change now) ∧ ∀ held, d.Rely held now (change now)

namespace Server

variable [DecidableEq R] {d : Discipline R M σ} {server : Server R M W σ}

omit [DecidableEq R] in
theorem Sound.drop (h : server.Sound rules d) (id : Nat) : (server.drop id).Sound rules d where
  inv := h.inv
  exclusive := h.exclusive.drop id
  guarantees id' transaction hl := by
    rw [lookup_drop] at hl
    split at hl
    next => simp at hl
    next => exact h.guarantees id' transaction hl

omit [DecidableEq R] in
/-- A transaction goes on as the committed state changes in a way its locks allow. -/
theorem Sound.put (h : server.Sound rules d) {id : Nat} {transaction : Transaction R M W σ} {after : σ}
    (hallows : d.Allows rules transaction.locks server.committed after)
    (hexclusive : (server.put id transaction).Exclusive rules)
    (hnew : transaction.script.Guarantees rules d transaction.locks transaction.writes after) :
    ({ server.put id transaction with committed := after } : Server R M W σ).Sound rules d where
  inv := hallows.1
  exclusive := hexclusive
  guarantees id' held hl := by
    have hlookup := hl
    change (server.put id transaction).transactions.lookup id' = some held at hl
    rw [lookup_put] at hl
    split at hl
    next =>
      cases hl
      exact hnew
    next hne =>
      have hcompatible : Compatible rules transaction.locks held.locks :=
        hexclusive id id' transaction held (Ne.symm hne) (by rw [lookup_put, if_pos rfl]) hlookup
      exact (h.guarantees id' held hl).later (hallows.2 held.locks hcompatible)

omit [DecidableEq R] in
theorem Sound.allows_same (h : server.Sound rules d) (held : List (R × M)) :
    d.Allows rules held server.committed server.committed :=
  ⟨h.inv, fun others _ => d.refl others server.committed⟩

theorem Sound.advance (h : server.Sound rules d) (id : Nat) :
    (server.advance rules id).Sound rules d ∧
      d.Rely [] server.committed (server.advance rules id).committed := by
  have hexclusive := h.exclusive.advance id
  have hnone : ∀ held : List (R × M), Compatible rules held [] :=
    fun _ _ _ _ _ hmem => absurd hmem List.not_mem_nil
  unfold Server.advance at hexclusive ⊢
  split at hexclusive
  next => exact ⟨h, d.refl _ _⟩
  next transaction hl =>
    have hscript := h.guarantees id transaction hl
    split at hexclusive
    next heq =>
      rw [heq] at hscript
      have hallows := hscript server.committed (d.refl _ _) h.inv
      refine ⟨⟨hallows.1, hexclusive, fun id' held hl' => ?_⟩, hallows.2 [] (hnone _)⟩
      change (server.drop id).transactions.lookup id' = some held at hl'
      rw [lookup_drop] at hl'
      split at hl'
      next => simp at hl'
      next hne =>
        have hcompatible := h.exclusive id id' transaction held (Ne.symm hne) hl hl'
        exact (h.guarantees id' held hl').later (hallows.2 held.locks hcompatible)
    next => exact ⟨h.drop id, d.refl _ _⟩
    next resource mode next heq =>
      rw [heq] at hscript
      split at hexclusive
      next hgrants =>
        rw [if_pos hgrants]
        exact ⟨h.put (h.allows_same _) hexclusive (hscript server.committed (d.refl _ _) h.inv),
          d.refl _ _⟩
      next hrefused =>
        rw [if_neg hrefused]
        exact ⟨h, d.refl _ _⟩
    next write next heq =>
      rw [heq] at hscript
      exact ⟨h.put (h.allows_same _) hexclusive (hscript server.committed (d.refl _ _) h.inv),
        d.refl _ _⟩
    next change next heq =>
      rw [heq] at hscript
      obtain ⟨hallows, hnext⟩ := hscript server.committed (d.refl _ _) h.inv
      exact ⟨h.put hallows hexclusive hnext, hallows.2 [] (hnone _)⟩

theorem Sound.step (h : server.Sound rules d) {op : Op R M W σ} (hop : op.Keeps rules d) :
    (server.step rules op).2.Sound rules d ∧
      d.Rely [] server.committed (server.step rules op).2.committed := by
  cases op with
  | start id script =>
    show Server.Sound rules d (if id ∈ server.transactions then server else
      server.put id ⟨script, [], []⟩) ∧ d.Rely [] server.committed (if id ∈ server.transactions then
        server else server.put id ⟨script, [], []⟩).committed
    split
    next => exact ⟨h, d.refl _ _⟩
    next =>
      refine ⟨h.put (h.allows_same _) (h.exclusive.put ?_) (hop _ h.inv), d.refl _ _⟩
      exact fun _ _ _ _ _ _ _ hheld => absurd hheld List.not_mem_nil
  | advance id => exact h.advance id
  | abort id => exact ⟨h.drop id, d.refl _ _⟩
  | elsewhere change =>
    obtain ⟨hinv, hrely⟩ := hop server.committed h.inv
    exact ⟨⟨hinv, h.exclusive, fun id transaction hl =>
      (h.guarantees id transaction hl).later (hrely _)⟩, hrely []⟩

omit [DecidableEq R] in
theorem sound_start {committed : σ} (hinv : d.Inv committed) :
    Server.Sound rules d (⟨committed, ∅⟩ : Server R M W σ) :=
  ⟨hinv, fun _ _ _ _ _ hl => by simp at hl, fun _ _ hl => by simp at hl⟩

/-- Where all keep to the discipline, every run keeps the invariant, and changes the committed state as
anybody may count on. -/
theorem Sound.run (h : server.Sound rules d) {ops : List (Op R M W σ)}
    (hops : ∀ op ∈ ops, op.Keeps rules d) :
    (final (Server.step rules) server ops).Sound rules d ∧
      d.Rely [] server.committed (final (Server.step rules) server ops).committed := by
  induction ops generalizing server with
  | nil => exact ⟨h, d.refl _ _⟩
  | cons op ops ih =>
    obtain ⟨hsound, hstep⟩ := h.step (hops op (List.mem_cons_self ..))
    obtain ⟨hfinal, hrely⟩ := ih hsound fun op hmem => hops op (List.mem_cons_of_mem _ hmem)
    exact ⟨hfinal, d.trans hstep hrely⟩

end Server

end ReadCommitted
