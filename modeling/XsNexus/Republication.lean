import XsNexus.Transactions
import XsNexus.ControllerSteps

namespace XsNexus

open ByteCodec Checks FiniteMap ReadCommitted Runs

/-- The tables that a configuration is assembled from, and the configurations themselves. -/
structure SameTables (db db' : Database) : Prop where
  networks : db'.networks = db.networks
  nodes : db'.nodes = db.nodes
  configurationVersions : db'.configurationVersions = db.configurationVersions
  candidateAdvertisements : db'.candidateAdvertisements = db.candidateAdvertisements
  nodeGroupMemberships : db'.nodeGroupMemberships = db.nodeGroupMemberships
  aclRules : db'.aclRules = db.aclRules
  subnetRoutes : db'.subnetRoutes = db.subnetRoutes

theorem SameTables.refl (db : Database) : SameTables db db := ⟨rfl, rfl, rfl, rfl, rfl, rfl, rfl⟩

theorem SameTables.symm {db db' : Database} (h : SameTables db db') : SameTables db' db :=
  ⟨h.networks.symm, h.nodes.symm, h.configurationVersions.symm, h.candidateAdvertisements.symm,
    h.nodeGroupMemberships.symm, h.aclRules.symm, h.subnetRoutes.symm⟩

theorem SameTables.trans {db db' db'' : Database} (h : SameTables db db') (h' : SameTables db' db'') :
    SameTables db db'' :=
  ⟨h'.networks.trans h.networks, h'.nodes.trans h.nodes,
    h'.configurationVersions.trans h.configurationVersions,
    h'.candidateAdvertisements.trans h.candidateAdvertisements,
    h'.nodeGroupMemberships.trans h.nodeGroupMemberships, h'.aclRules.trans h.aclRules,
    h'.subnetRoutes.trans h.subnetRoutes⟩

/-- What else there is in the data base. -/
theorem SameTables.eq {db db' : Database} (h : SameTables db db') :
    ∃ tokens leases advertisements serial, db' = { db with
      enrollmentTokens := tokens
      ipLeases := leases
      subnetRouteAdvertisements := advertisements
      credentialSerial := serial } := by
  cases db
  cases db'
  obtain ⟨hnetworks, hnodes, hversions, hcandidates, hmemberships, hrules, hroutes⟩ := h
  dsimp only at hnetworks hnodes hversions hcandidates hmemberships hrules hroutes
  subst hnetworks hnodes hversions hcandidates hmemberships hrules hroutes
  exact ⟨_, _, _, _, rfl⟩

theorem SameTables.writeRow {db db' : Database} (h : SameTables db db') (write : RowWrite) :
    SameTables (db.writeRow write) (db'.writeRow write) := by
  obtain ⟨tokens, leases, advertisements, serial, rfl⟩ := h.eq
  cases write <;> exact ⟨rfl, rfl, rfl, rfl, rfl, rfl, rfl⟩

theorem SameTables.view {db db' : Database} (h : SameTables db db') (writes : List RowWrite) :
    SameTables (lockRules.view db writes) (lockRules.view db' writes) := by
  induction writes generalizing db db' with
  | nil => exact h
  | cons write writes ih => exact ih (h.writeRow write)

theorem view_append (db : Database) (writes later : List RowWrite) :
    lockRules.view db (writes ++ later) = lockRules.view (lockRules.view db writes) later :=
  List.foldl_append

/-- What the row of a network says of its last configuration. -/
def NetworkRow.metadata (p : Platform) (network : NetworkRow) : ConfigurationMetadata :=
  ⟨UInt64.ofNat network.configVersion, UInt64.ofNat network.policyVersion,
    p.formats.ipv4NetText network.addressPool⟩

/-- The committed configurations of a network, in the order of their commits. -/
def configurationRows (db : Database) (networkId : Uuid) : List ConfigurationVersionRow :=
  db.configurationVersions.filter fun row => row.networkId = networkId

/-- The configurations of the network are numbered from 1 to its version without a gap, and the last one
is what the tables give, as the clocks of some transaction that published read. -/
def UpToDate (p : Platform) (state : AppState) (networkId : Uuid) (moments : Times → Prop)
    (db : Database) : Prop :=
  ∃ network row times payload, db.network networkId = some network ∧
    (configurationRows db networkId).map ConfigurationVersionRow.version =
      List.range' 1 network.configVersion ∧
    (configurationRows db networkId).getLast? = some row ∧ moments times ∧
    assembleConfiguration p state db networkId (network.metadata p) times = .ok payload ∧
    p.configurationPayloadText payload = some row.payload

theorem UpToDate.of_sameTables {p : Platform} {state : AppState} {networkId : Uuid}
    {moments : Times → Prop} {db db' : Database} (h : UpToDate p state networkId moments db)
    (hsame : SameTables db db') : UpToDate p state networkId moments db' := by
  obtain ⟨tokens, leases, advertisements, serial, rfl⟩ := hsame.eq
  exact h

theorem SameTables.configurationRows {db db' : Database} (h : SameTables db db') (networkId : Uuid) :
    configurationRows db' networkId = configurationRows db networkId := by
  unfold XsNexus.configurationRows
  rw [h.configurationVersions]

theorem SameTables.network {db db' : Database} (h : SameTables db db') (networkId : Uuid) :
    db'.network networkId = db.network networkId := by
  unfold Database.network
  rw [h.networks]

theorem SameTables.loadConfigurationNodes {db db' : Database} (h : SameTables db db') (p : Platform)
    (networkId : Uuid) (now : Int) :
    loadConfigurationNodes p db' networkId now = loadConfigurationNodes p db networkId now := by
  obtain ⟨tokens, leases, advertisements, serial, rfl⟩ := h.eq
  rfl

/-- All tokens are tokens of the network, or from before there was the network. -/
def OwnTokens (networkId : Uuid) (foreign : Block 32 → Prop) (db : Database) : Prop :=
  ∀ row ∈ db.enrollmentTokens, row.networkId = networkId ∨ foreign row.tokenHash

/-- The locks under which a transaction counts the configurations of the network. -/
def CountsOn (networkId : Uuid) (held : List (Lockable × LockMode)) : Prop :=
  (.network networkId, .noKeyUpdate) ∈ held ∨ (.network networkId, .update) ∈ held

theorem CountsOn.cons {networkId : Uuid} {held : List (Lockable × LockMode)}
    (h : CountsOn networkId held) (lock : Lockable × LockMode) : CountsOn networkId (lock :: held) :=
  h.imp (List.mem_cons_of_mem _) (List.mem_cons_of_mem _)

/-- No two transactions count the configurations of one network. -/
theorem CountsOn.alone {networkId : Uuid} {held others : List (Lockable × LockMode)}
    (h : CountsOn networkId held) (hcompatible : Compatible lockRules held others) :
    ¬CountsOn networkId others := by
  intro hother
  rcases h with h | h <;> rcases hother with hother | hother <;>
    exact absurd (hcompatible _ _ _ h hother) (by decide)

/-- What the transactions on one network keep to: the configurations are only added to, and the tables
stay as they are while one of them counts the configurations. -/
def publicationDiscipline (p : Platform) (state : AppState) (networkId : Uuid)
    (foreign : Block 32 → Prop) (moments : Times → Prop) : Discipline Lockable LockMode Database where
  Inv db := UpToDate p state networkId moments db ∧ OwnTokens networkId foreign db
  Rely held db db' := configurationRows db networkId <+: configurationRows db' networkId ∧
    (CountsOn networkId held → SameTables db db')
  refl _ now := ⟨List.prefix_rfl, fun _ => SameTables.refl now⟩
  trans h h' := ⟨h.1.trans h'.1, fun hcounts => (h.2 hcounts).trans (h'.2 hcounts)⟩

/-- What is known of a transaction between two statements, by its locks, its writes and the committed
state. -/
abbrev Assertion := List (Lockable × LockMode) → List RowWrite → Database → Prop

/-- The others do not disturb it. -/
structure Steady (d : Discipline Lockable LockMode Database) (known : Assertion) : Prop where
  later : ∀ {held writes seen now}, known held writes seen → d.Rely held seen now → d.Inv now →
    known held writes now
  locked : ∀ {held writes seen} lock, known held writes seen → known (lock :: held) writes seen

/-- What is known under a lock that is held. -/
theorem Steady.withLock {d : Discipline Lockable LockMode Database} {known : Assertion}
    (h : Steady d known) {lock : Lockable × LockMode} :
    Steady d fun held writes seen => lock ∈ held ∧ known held writes seen where
  later := fun ⟨hlock, hknown⟩ hrely hinv => ⟨hlock, h.later hknown hrely hinv⟩
  locked := fun other ⟨hlock, hknown⟩ => ⟨List.mem_cons_of_mem _ hlock, h.locked other hknown⟩

/-- From what is known before, the part of a transaction comes to its results and what is known then. -/
def Leads {α : Type} (d : Discipline Lockable LockMode Database) (known : Assertion) (x : Tx α)
    (post : α → Assertion) : Prop :=
  ∀ next : α → TxScript, (∀ a held writes seen, post a held writes seen →
    (next a).Guarantees lockRules d held writes seen) →
    ∀ held writes seen, known held writes seen → (x next).Guarantees lockRules d held writes seen

namespace Leads

open Tx

variable {α β γ : Type} {d : Discipline Lockable LockMode Database} {known known' : Assertion}
  {post : β → Assertion}

theorem pure {a : β} (h : ∀ held writes seen, known held writes seen → post a held writes seen) :
    Leads d known (Pure.pure a) post :=
  fun _ hnext held writes seen hknown => hnext a held writes seen (h held writes seen hknown)

theorem bind {x : Tx α} {f : α → Tx β} {mid : α → Assertion} (h : Leads d known x mid)
    (hf : ∀ a, Leads d (mid a) (f a) post) : Leads d known (x >>= f) post :=
  fun next hnext => h _ fun a held writes seen hmid => hf a next hnext held writes seen hmid

theorem weaken {x : Tx β} (known' : Assertion) (h : Leads d known' x post)
    (himp : ∀ {held writes seen}, known held writes seen → known' held writes seen) :
    Leads d known x post :=
  fun next hnext held writes seen hknown => h next hnext held writes seen (himp hknown)

/-- What holds of no transaction in particular can be taken out of what is known. -/
theorem fact {x : Tx β} {holds : Prop}
    (himp : ∀ {held writes seen}, known held writes seen → holds) (h : holds → Leads d known x post) :
    Leads d known x post :=
  fun next hnext held writes seen hknown => h (himp hknown) next hnext held writes seen hknown

theorem choose {x : Tx β} {known : γ → Assertion} (h : ∀ c, Leads d (known c) x post) :
    Leads d (fun held writes seen => ∃ c, known c held writes seen) x post :=
  fun next hnext held writes seen ⟨c, hknown⟩ => h c next hnext held writes seen hknown

theorem refuse : Leads d known (refuse : Tx β) post := fun _ _ _ _ _ _ => trivial

theorem required {result : Except ApiError β}
    (h : ∀ a, result = .ok a → ∀ held writes seen, known held writes seen → post a held writes seen) :
    Leads d known (Tx.require result) post := by
  intro next hnext held writes seen hknown
  unfold Tx.require
  split
  next => trivial
  next a => exact hnext a held writes seen (h a rfl held writes seen hknown)

theorem require {result : Except ApiError α} {f : α → Tx β}
    (hf : ∀ a, result = .ok a → Leads d known (f a) post) :
    Leads d known (Tx.require result >>= f) post := by
  intro next hnext held writes seen hknown
  show Script.Guarantees lockRules d held writes seen (Tx.require result fun a => f a next)
  unfold Tx.require
  split
  next => trivial
  next a => exact hf a rfl next hnext held writes seen hknown

theorem lockRow {target : Lockable} {mode : LockMode} (hsteady : Steady d known) :
    Leads d known (Tx.lockRow target mode) fun _ held writes seen =>
      (target, mode) ∈ held ∧ known held writes seen :=
  fun _ hnext _ _ _ hknown _ hrely hinv => hnext () _ _ _
    ⟨List.mem_cons_self .., hsteady.locked _ (hsteady.later hknown hrely hinv)⟩

theorem locked {target : Lockable} {mode : LockMode} {f : Unit → Tx β} (hsteady : Steady d known)
    (hf : Leads d known (f ()) post) : Leads d known (Tx.lockRow target mode >>= f) post :=
  bind (lockRow hsteady) fun _ => weaken known hf fun h => h.2

theorem lockRows {targets : List Lockable} {mode : LockMode} (hsteady : Steady d known) :
    Leads d known (lockRows targets mode) fun _ => known := by
  induction targets with
  | nil => exact pure fun _ _ _ h => h
  | cons target targets ih => exact locked hsteady ih

theorem select {read : Database → α} {f : α → Tx β} (holds : α → Prop) (hsteady : Steady d known)
    (hread : ∀ held writes seen, known held writes seen → d.Inv seen →
      holds (read (lockRules.view seen writes)))
    (hf : ∀ a, holds a → Leads d known (f a) post) : Leads d known (select read >>= f) post := by
  intro next hnext held writes seen hknown now hrely hinv
  have hnow := hsteady.later hknown hrely hinv
  have hwrites : writes ++ [] = writes := List.append_nil writes
  show Script.Guarantees lockRules d held (writes ++ []) now _
  rw [hwrites]
  exact hf _ (hread held writes now hnow hinv) next hnext held writes now hnow

theorem selected {read : Database → α} {f : α → Tx β} (hsteady : Steady d known)
    (hf : ∀ a, Leads d known (f a) post) : Leads d known (Tx.select read >>= f) post :=
  select (fun _ => True) hsteady (fun _ _ _ _ _ => trivial) fun a _ => hf a

theorem selecting {read : Database → β} (hsteady : Steady d known) :
    Leads d known (Tx.select read) fun _ => known :=
  selected hsteady fun _ => pure fun _ _ _ h => h

theorem lockedRow {target : Lockable} {mode : LockMode} (hsteady : Steady d known) :
    Leads d known (Tx.lockRow target mode) fun _ => known :=
  locked hsteady (pure fun _ _ _ h => h)

theorem execute {writes : Database → List RowWrite} {f : Unit → Tx β} (hsteady : Steady d known)
    (hwrites : ∀ held done seen, known held done seen → d.Inv seen →
      known' held (done ++ writes (lockRules.view seen done)) seen)
    (hf : Leads d known' (f ()) post) : Leads d known (execute writes >>= f) post := by
  intro next hnext held done seen hknown now hrely hinv
  exact hf next hnext _ _ _ (hwrites held done now (hsteady.later hknown hrely hinv) hinv)

theorem executed {writes : Database → List RowWrite} (hsteady : Steady d known)
    (hwrites : ∀ held done seen, known held done seen → d.Inv seen →
      known' held (done ++ writes (lockRules.view seen done)) seen) :
    Leads d known (Tx.execute writes) fun _ => known' :=
  execute hsteady hwrites (pure fun _ _ _ h => h)

theorem executeReturning {run : Database → Except ApiError (α × List RowWrite)} {f : α → Tx β}
    {mid : α → Assertion} (hsteady : Steady d known)
    (hrun : ∀ held done seen a writes, known held done seen → d.Inv seen →
      run (lockRules.view seen done) = .ok (a, writes) → mid a held (done ++ writes) seen)
    (hf : ∀ a, Leads d (mid a) (f a) post) : Leads d known (executeReturning run >>= f) post := by
  intro next hnext held done seen hknown now hrely hinv
  have hnow := hsteady.later hknown hrely hinv
  dsimp only
  cases hresult : run (lockRules.view now done) with
  | error e => exact trivial
  | ok result =>
    obtain ⟨a, writes⟩ := result
    exact hf a next hnext _ _ _ (hrun held done now a writes hnow hinv hresult)

theorem executedReturning {run : Database → Except ApiError (β × List RowWrite)}
    (hsteady : Steady d known)
    (hrun : ∀ held done seen a writes, known held done seen → d.Inv seen →
      run (lockRules.view seen done) = .ok (a, writes) → post a held (done ++ writes) seen) :
    Leads d known (Tx.executeReturning run) post :=
  executeReturning hsteady hrun fun _ => pure fun _ _ _ h => h

theorem forM {l : List α} {f : α → Tx PUnit} (hf : ∀ a, Leads d known (f a) fun _ => known) :
    Leads d known (l.forM f) fun _ => known := by
  induction l with
  | nil => exact pure fun _ _ _ h => h
  | cons a l ih => exact bind (hf a) fun _ => ih

/-- A row that is found and locked, and what the tables say of it. -/
theorem selectForUpdate {find : Database → Option α} {target : α → Lockable} {e : ApiError}
    {f : α → Tx β} (holds : α → Prop) (hsteady : Steady d known)
    (hfind : ∀ held writes seen, known held writes seen → d.Inv seen → ∀ row,
      find (lockRules.view seen writes) = some row → holds row)
    (hf : ∀ row, holds row → Leads d (fun held writes seen =>
      (target row, .update) ∈ held ∧ known held writes seen) (f row) post) :
    Leads d known (Tx.selectForUpdate find target >>= fun found =>
      Tx.require (okOr e found) >>= f) post := by
  intro next hnext held writes seen hknown now hrely hinv
  have hrest : ∀ found held' now', (∀ row, found = some row → holds row ∧
      (target row, .update) ∈ held' ∧ known held' writes now') →
      Script.Guarantees lockRules d held' writes now'
        ((Tx.require (okOr e found) >>= f) next) := by
    intro found held' now' hfound
    cases found with
    | none => exact trivial
    | some row =>
      obtain ⟨hholds, hrow⟩ := hfound row rfl
      exact hf row hholds next hnext held' writes now' hrow
  have hnow := hsteady.later hknown hrely hinv
  have hwrites : writes ++ [] = writes := List.append_nil writes
  show Script.Guarantees lockRules d held (writes ++ []) now _
  rw [hwrites]
  dsimp only
  cases hfound : find (lockRules.view now writes) with
  | none => exact trivial
  | some row =>
    intro locked hlocked hinvLocked again hagain hinvAgain
    have hbefore := hsteady.locked (target row, .update) (hsteady.later hnow hlocked hinvLocked)
    have hafter := hsteady.later hbefore hagain hinvAgain
    rw [hwrites]
    refine hrest _ _ _ fun stored hfilter => ?_
    obtain ⟨hstored, hsame⟩ := Option.filter_eq_some_iff.mp hfilter
    have htarget : target stored = target row := of_decide_eq_true hsame
    exact ⟨hfind _ writes again hafter hinvAgain stored hstored,
      by rw [htarget]; exact List.mem_cons_self .., hafter⟩

theorem selectedForUpdate {find : Database → Option β} {target : β → Lockable}
    (hsteady : Steady d known) :
    Leads d known (Tx.selectForUpdate find target) fun _ => known := by
  refine selected hsteady fun found => ?_
  cases found with
  | none => exact pure fun _ _ _ h => h
  | some row => exact locked hsteady (selecting hsteady)

/-- What is changed outside of the transaction -/
theorem outside {change : Database → Database} {read : Database → β} (hsteady : Steady d known)
    (hchange : ∀ now, d.Inv now → d.Inv (change now) ∧ ∀ held, d.Rely held now (change now)) :
    Leads d known (fun next => .outside change fun db => next (read db)) fun _ => known := by
  intro next hnext held writes seen hknown now hrely hinv
  obtain ⟨hkept, hrelied⟩ := hchange now hinv
  have hnow := hsteady.later (hsteady.later hknown hrely hinv) (hrelied held) hkept
  exact ⟨⟨hkept, fun others _ => hrelied others⟩, hnext _ held writes _ hnow⟩

/-- The whole of a transaction -/
theorem run {x : Tx Unit} {post : Unit → Assertion} (h : Leads d known x post)
    (hpost : ∀ held writes seen, post () held writes seen →
      Script.Guarantees lockRules d held writes seen .commit) {now : Database} (hknown : known [] [] now) :
    x.run.Guarantees lockRules d [] [] now :=
  h _ (fun _ => hpost) [] [] now hknown

end Leads

-- from here on the rules are used, and a script is never run to see what it guarantees
attribute [irreducible] Leads

end XsNexus
