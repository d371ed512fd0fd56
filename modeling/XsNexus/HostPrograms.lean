import Mathlib.Tactic

namespace HostPrograms

/-- A program that calls its host and goes on with the answers. -/
inductive Program (Op : Type) (Answer : Op → Type) (α : Type)
  | done (result : α)
  | call (op : Op) (next : Answer op → Program Op Answer α)

variable {Op : Type} {Answer : Op → Type} {Host Outcome α β : Type}

namespace Program

def bind (program : Program Op Answer α) (next : α → Program Op Answer β) : Program Op Answer β :=
  match program with
  | done result => next result
  | call op answered => call op fun answer => (answered answer).bind next

instance : Monad (Program Op Answer) where
  pure := done
  bind := bind

@[simp] theorem pure_eq (result : α) : (pure result : Program Op Answer α) = done result := rfl

@[simp] theorem bind_eq (program : Program Op Answer α) (next : α → Program Op Answer β) :
    program >>= next = program.bind next := rfl

@[simp] theorem bind_done (result : α) (next : α → Program Op Answer β) :
    (done result).bind next = next result := rfl

@[simp] theorem bind_call (op : Op) (answered : Answer op → Program Op Answer α)
    (next : α → Program Op Answer β) :
    (call op answered).bind next = call op fun answer => (answered answer).bind next := rfl

/-- A run against a host that carries out each call with the next outcome, up to a crash where the
outcomes end. -/
def exec (perform : (op : Op) → Outcome → Host → Answer op × Host) (program : Program Op Answer α)
    (outcomes : List Outcome) (host : Host) : Option α × Host :=
  match program, outcomes with
  | done result, _ => (some result, host)
  | call _ _, [] => (none, host)
  | call op next, outcome :: outcomes =>
    exec perform (next (perform op outcome host).1) outcomes (perform op outcome host).2

/-- A run against a host that carries out each call with the same outcome. -/
def complete (perform : (op : Op) → Outcome → Host → Answer op × Host) (outcome : Outcome)
    (program : Program Op Answer α) (host : Host) : α × Host :=
  match program with
  | done result => (result, host)
  | call op next =>
    complete perform outcome (next (perform op outcome host).1) (perform op outcome host).2

/-- Whatever the answers, the calls are allowed ones. -/
def Only (Allowed : Op → Prop) : Program Op Answer α → Prop
  | done _ => True
  | call op next => Allowed op ∧ ∀ answer, (next answer).Only Allowed

/-- Whatever the answers, the calls are allowed ones and the result satisfies `Post`. -/
def Yields (Allowed : Op → Prop) (Post : α → Prop) : Program Op Answer α → Prop
  | done result => Post result
  | call op next => Allowed op ∧ ∀ answer, (next answer).Yields Allowed Post

section Runs

variable {perform : (op : Op) → Outcome → Host → Answer op × Host} {Allowed : Op → Prop}

theorem complete_bind (outcome : Outcome) (program : Program Op Answer α)
    (next : α → Program Op Answer β) (host : Host) :
    (program.bind next).complete perform outcome host =
      (next (program.complete perform outcome host).1).complete perform outcome
        (program.complete perform outcome host).2 := by
  induction program generalizing host with
  | done result => rfl
  | call op answered ih => exact ih _ _

/-- A complete run is one of the runs. -/
theorem exists_exec_of_complete {outcome : Outcome} {program : Program Op Answer α} {host after : Host}
    {result : α} (h : program.complete perform outcome host = (result, after)) :
    ∃ outcomes, program.exec perform outcomes host = (some result, after) := by
  induction program generalizing host with
  | done result' =>
    cases h
    exact ⟨[], rfl⟩
  | call op next ih =>
    obtain ⟨outcomes, hrun⟩ := ih _ h
    exact ⟨outcome :: outcomes, hrun⟩

theorem Only.mono {Allowed' : Op → Prop} {program : Program Op Answer α} (h : program.Only Allowed)
    (himp : ∀ op, Allowed op → Allowed' op) : program.Only Allowed' := by
  induction program with
  | done result => trivial
  | call op next ih => exact ⟨himp op h.1, fun answer => ih answer (h.2 answer)⟩

theorem Only.bind {program : Program Op Answer α} {next : α → Program Op Answer β}
    (h : program.Only Allowed) (hnext : ∀ result, (next result).Only Allowed) :
    (program.bind next).Only Allowed := by
  induction program with
  | done result => exact hnext result
  | call op answered ih => exact ⟨h.1, fun answer => ih answer (h.2 answer)⟩

theorem Only.yields_bind {Post : β → Prop} {program : Program Op Answer α}
    {next : α → Program Op Answer β} (h : program.Only Allowed)
    (hnext : ∀ result, (next result).Yields Allowed Post) :
    (program.bind next).Yields Allowed Post := by
  induction program with
  | done result => exact hnext result
  | call op answered ih => exact ⟨h.1, fun answer => ih answer (h.2 answer)⟩

/-- A run of two programs crashes in the first one or goes on with the second. -/
theorem exec_bind (perform : (op : Op) → Outcome → Host → Answer op × Host) (program : Program Op Answer α)
    (next : α → Program Op Answer β) (outcomes : List Outcome) (host : Host) :
    (∃ crashed, program.exec perform outcomes host = (none, crashed) ∧
      (program.bind next).exec perform outcomes host = (none, crashed)) ∨
    ∃ result after rest, program.exec perform outcomes host = (some result, after) ∧
      (program.bind next).exec perform outcomes host = (next result).exec perform rest after := by
  induction program generalizing outcomes host with
  | done result => exact .inr ⟨result, host, outcomes, rfl, rfl⟩
  | call op answered ih =>
    cases outcomes with
    | nil => exact .inl ⟨host, rfl, rfl⟩
    | cons outcome outcomes => exact ih _ outcomes _

/-- What every allowed call keeps, a run of allowed calls keeps. -/
theorem Only.exec {program : Program Op Answer α} (h : program.Only Allowed) {inv : Host → Prop}
    (hstep : ∀ {op}, Allowed op → ∀ outcome {host}, inv host → inv (perform op outcome host).2)
    (outcomes : List Outcome) {host : Host} (hinv : inv host) :
    inv (program.exec perform outcomes host).2 := by
  induction program generalizing outcomes host with
  | done result => exact hinv
  | call op next ih =>
    cases outcomes with
    | nil => exact hinv
    | cons outcome outcomes => exact ih _ (h.2 _) outcomes (hstep h.1 outcome hinv)

end Runs

section Keeps

variable {perform : (op : Op) → Outcome → Host → Answer op × Host}

/-- Whatever the outcomes, the host satisfies `Safe` before each call and `Post` with the result at
the end. -/
def Keeps (perform : (op : Op) → Outcome → Host → Answer op × Host) (Safe : Host → Prop)
    (Post : α → Host → Prop) (program : Program Op Answer α) (host : Host) : Prop :=
  match program with
  | done result => Post result host
  | call op next => Safe host ∧
      ∀ outcome, Keeps perform Safe Post (next (perform op outcome host).1) (perform op outcome host).2

variable {Safe : Host → Prop} {Post : α → Host → Prop} {program : Program Op Answer α} {host : Host}

/-- A run that crashes leaves a safe host, one that ends satisfies the postcondition. -/
theorem exec_of_keeps (h : program.Keeps perform Safe Post host) (outcomes : List Outcome) :
    match exec perform program outcomes host with
    | (none, crashed) => Safe crashed
    | (some result, after) => Post result after := by
  induction program generalizing outcomes host with
  | done result => exact h
  | call op next ih =>
    cases outcomes with
    | nil => exact h.1
    | cons outcome outcomes => exact ih _ (h.2 outcome) outcomes

theorem Only.keeps {Allowed : Op → Prop} {inv : Host → Prop} (h : program.Only Allowed)
    (hstep : ∀ {op}, Allowed op → ∀ outcome {host}, inv host → inv (perform op outcome host).2)
    (hinv : inv host) : program.Keeps perform inv (fun _ => inv) host := by
  induction program generalizing host with
  | done result => exact hinv
  | call op next ih => exact ⟨hinv, fun outcome => ih _ (h.2 _) (hstep h.1 outcome hinv)⟩

theorem Yields.keeps {Allowed : Op → Prop} {inv : Host → Prop} {Result : α → Prop}
    (h : program.Yields Allowed Result)
    (hstep : ∀ {op}, Allowed op → ∀ outcome {host}, inv host → inv (perform op outcome host).2)
    (hinv : inv host) :
    program.Keeps perform inv (fun result host => Result result ∧ inv host) host := by
  induction program generalizing host with
  | done result => exact ⟨h, hinv⟩
  | call op next ih => exact ⟨hinv, fun outcome => ih _ (h.2 _) (hstep h.1 outcome hinv)⟩

theorem Keeps.mono {Post' : α → Host → Prop} (h : program.Keeps perform Safe Post host)
    (himp : ∀ result host, Post result host → Post' result host) :
    program.Keeps perform Safe Post' host := by
  induction program generalizing host with
  | done result => exact himp result host h
  | call op next ih => exact ⟨h.1, fun outcome => ih _ (h.2 outcome)⟩

theorem Keeps.bind {next : α → Program Op Answer β} {Post' : β → Host → Prop}
    (h : program.Keeps perform Safe (fun result host => (next result).Keeps perform Safe Post' host)
      host) : (program.bind next).Keeps perform Safe Post' host := by
  induction program generalizing host with
  | done result => exact h
  | call op answered ih => exact ⟨h.1, fun outcome => ih _ (h.2 outcome)⟩

end Keeps

end Program

end HostPrograms
