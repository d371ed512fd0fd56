import XsNexus.Transactions

namespace XsNexus

open ByteCodec Checks FiniteMap ReadCommitted Relation Runs

abbrev Locks := List (Lockable × LockMode)

/-- The order in which most transactions take their locks. -/
def Lockable.rank : Lockable → Nat
  | .token _ => 0
  | .advisory _ => 1
  | .node _ => 2
  | .candidateAdvertisement _ => 3
  | .subnetRouteAdvertisement _ => 3
  | .network _ => 4

/-- A row of the nodes or of the advertisements. -/
def Lockable.IsNodeRow : Lockable → Prop
  | .node _ => True
  | .candidateAdvertisement _ => True
  | .subnetRouteAdvertisement _ => True
  | _ => False

/-- Of the rows of networks only this one is locked, and never in the mode `share`. -/
def Single (networkId : Uuid) (held : Locks) : Prop :=
  ∀ lock ∈ held, ∀ id, lock.1 = .network id → id = networkId ∧ lock.2 ≠ .share

/-- The lock may be asked for: it is held already, or comes after all held; the row of the network is
locked, from where on the rows of the nodes are free to lock; or it is a further lock on that row. -/
def AllowedLock (held : Locks) (target : Lockable) (mode : LockMode) : Prop :=
  (target, .update) ∈ held ∨
  ((∀ lock ∈ held, lock.1.rank < target.rank) ∧
    ∀ networkId, target = .network networkId → mode = .update → (.advisory networkId, .update) ∈ held) ∨
  (target.IsNodeRow ∧ ∃ networkId, (.network networkId, .update) ∈ held) ∨
  ∃ networkId, target = .network networkId ∧ (mode = .keyShare ∨ mode = .noKeyUpdate) ∧
    Single networkId held ∧
    (mode = .noKeyUpdate → (target, .keyShare) ∈ held → (.advisory networkId, .update) ∈ held)

/-- A transaction that has the row of its network locked against all others is kept waiting for a row
of the nodes or the advertisements. -/
def Obstructed (server : DatabaseServer) : Prop :=
  ∃ id id' transaction target mode next networkId, server.WaitsFor lockRules id id' ∧
    server.transactions.lookup id = some transaction ∧
    transaction.script = .lock target mode next ∧ target.IsNodeRow ∧
    (.network networkId, .update) ∈ transaction.locks

/-- The rank of the lock a transaction asks for. -/
def wantedRank (server : DatabaseServer) (id : Nat) : Nat :=
  match server.transactions.lookup id with
  | none => 0
  | some transaction =>
    match transaction.script with
    | .lock target _ _ => target.rank
    | _ => 0

theorem wantedRank_eq {server : DatabaseServer} {id : Nat}
    {transaction : ReadCommitted.Transaction Lockable LockMode RowWrite Database} {target : Lockable}
    {mode : LockMode} {next : TxScript} (hl : server.transactions.lookup id = some transaction)
    (hscript : transaction.script = .lock target mode next) : wantedRank server id = target.rank := by
  unfold wantedRank
  rw [hl]
  dsimp only
  rw [hscript]

/-- Whoever waits for a transaction that waits itself waits for a lock of a lower rank. -/
theorem waitsFor_rises {server : DatabaseServer} (hordered : server.Ordered AllowedLock)
    (hexclusive : server.Exclusive lockRules) (hfree : ¬Obstructed server) {id id' id'' : Nat}
    (h : server.WaitsFor lockRules id id') (h' : server.WaitsFor lockRules id' id'') :
    wantedRank server id < wantedRank server id' := by
  have hwaits := h'
  obtain ⟨hne, first, second, target, mode, next, held, hfirst, hsecond, hscript, hheld, hconflict⟩ := h
  obtain ⟨hne', second', third, target', mode', next', held', hsecond', hthird, hscript', hheld',
    hconflict'⟩ := h'
  cases hsecond.symm.trans hsecond'
  rw [wantedRank_eq hfirst hscript, wantedRank_eq hsecond hscript']
  have hfirstAllowed := hordered id first hfirst
  rw [hscript] at hfirstAllowed
  have hsecondAllowed := hordered id' second hsecond
  rw [hscript'] at hsecondAllowed
  have hcompatible := hexclusive id id' first second hne hfirst hsecond
  have hcompatible' := hexclusive id' id'' second third hne' hsecond hthird
  rcases hsecondAllowed.1 with hown | ⟨hstrict, _⟩ | ⟨hrow, networkId, hnetwork⟩ |
    ⟨networkId, rfl, hmode, hsingle, hadvisory⟩
  · -- what is locked against all others nobody else holds
    have hnone := hcompatible' target' .update held' hown hheld'
    simp [lockRules, LockMode.conflicts] at hnone
  · exact hstrict (target, held) hheld
  · exact absurd ⟨id', id'', second, target', mode', next', networkId, hwaits, hsecond, hscript', hrow,
      hnetwork⟩ hfree
  · by_cases hsame : target = .network networkId
    · subst hsame
      exfalso
      have hthirdHeld := hcompatible' (.network networkId) held held' hheld hheld'
      have hshare := (hsingle _ hheld networkId rfl).2
      cases held with
      | update => simp [lockRules, LockMode.conflicts] at hthirdHeld
      | share => exact hshare rfl
      | noKeyUpdate =>
        have hkey : held' = .keyShare := by simpa [lockRules, LockMode.conflicts] using hthirdHeld
        subst hkey
        rcases hmode with rfl | rfl
        · simp [lockRules, LockMode.conflicts] at hconflict'
        · simp [lockRules, LockMode.conflicts] at hconflict'
      | keyShare =>
        have hall : mode = .update := by
          cases mode with
          | update => rfl
          | keyShare => simp [lockRules, LockMode.conflicts] at hconflict
          | share => simp [lockRules, LockMode.conflicts] at hconflict
          | noKeyUpdate => simp [lockRules, LockMode.conflicts] at hconflict
        have hadvisoryFirst : (Lockable.advisory networkId, LockMode.update) ∈ first.locks := by
          rcases hfirstAllowed.1 with hown | ⟨_, hadvisory⟩ | ⟨hrow, _⟩ | ⟨_, _, hmode, _⟩
          · have hnone := hcompatible (.network networkId) .update .keyShare hown hheld
            simp [lockRules, LockMode.conflicts] at hnone
          · exact hadvisory networkId rfl hall
          · exact hrow.elim
          · rw [hall] at hmode
            simp at hmode
        rcases hmode with rfl | rfl
        · have hupdate : held' = .update := by simpa [lockRules, LockMode.conflicts] using hconflict'
          subst hupdate
          simp [lockRules, LockMode.conflicts] at hthirdHeld
        · have hnone := hcompatible (.advisory networkId) .update .update hadvisoryFirst
            (hadvisory rfl hheld)
          simp [lockRules, LockMode.conflicts] at hnone
    · have hlower : target.rank < 4 := by
        cases target with
        | network id => exact absurd (congrArg Lockable.network (hsingle _ hheld id rfl).1) hsame
        | token _ => exact (by decide : 0 < 4)
        | advisory _ => exact (by decide : 1 < 4)
        | node _ => exact (by decide : 2 < 4)
        | candidateAdvertisement _ => exact (by decide : 3 < 4)
        | subnetRouteAdvertisement _ => exact (by decide : 3 < 4)
      exact hlower

/-- Under these locks the part of a transaction keeps to the order, and leaves results and locks such
as `post` says. -/
def Takes {α : Type} (held : Locks) (x : Tx α) (post : α → Locks → Prop) : Prop :=
  ∀ next : α → TxScript, (∀ a after, post a after → (next a).Ordered AllowedLock after) →
    (x next).Ordered AllowedLock held

namespace Takes

open Tx

variable {α β : Type} {held : Locks} {post : β → Locks → Prop}

theorem pure {a : β} (h : post a held) : Takes held (Pure.pure a) post :=
  fun _ hnext => hnext a held h

theorem bind {x : Tx α} {f : α → Tx β} {mid : α → Locks → Prop} (h : Takes held x mid)
    (hf : ∀ {a after}, mid a after → Takes after (f a) post) : Takes held (x >>= f) post :=
  fun next hnext => h _ fun _ _ hmid => hf hmid next hnext

theorem refuse : Takes held (refuse : Tx β) post := fun _ _ => trivial

theorem required {result : Except ApiError β} (h : ∀ a, result = .ok a → post a held) :
    Takes held (Tx.require result) post := by
  intro next hnext
  unfold Tx.require
  split
  next => trivial
  next a => exact hnext a held (h a rfl)

theorem require {result : Except ApiError α} {f : α → Tx β}
    (hf : ∀ a, result = .ok a → Takes held (f a) post) : Takes held (Tx.require result >>= f) post := by
  intro next hnext
  show Script.Ordered _ held (Tx.require result fun a => f a next)
  unfold Tx.require
  split
  next => trivial
  next a => exact hf a rfl next hnext

theorem select {read : Database → α} {f : α → Tx β} (hf : ∀ db, Takes held (f (read db)) post) :
    Takes held (select read >>= f) post :=
  fun next hnext db => hf db next hnext

theorem execute {writes : Database → List RowWrite} {f : Unit → Tx β} (hf : Takes held (f ()) post) :
    Takes held (execute writes >>= f) post :=
  fun next hnext _ => hf next hnext

theorem executeReturning {run : Database → Except ApiError (α × List RowWrite)} {f : α → Tx β}
    (hf : ∀ a, Takes held (f a) post) : Takes held (executeReturning run >>= f) post := by
  intro next hnext db
  dsimp only
  split
  next => trivial
  next a _ _ => exact hf a next hnext

theorem executedReturning {run : Database → Except ApiError (β × List RowWrite)}
    (h : ∀ a, post a held) : Takes held (Tx.executeReturning run) post := by
  intro next hnext db
  dsimp only
  split
  next => trivial
  next a _ _ => exact hnext a held (h a)

theorem lockRow {target : Lockable} {mode : LockMode} {f : Unit → Tx β}
    (h : AllowedLock held target mode) (hf : Takes ((target, mode) :: held) (f ()) post) :
    Takes held (lockRow target mode >>= f) post :=
  fun next hnext => ⟨h, hf next hnext⟩

theorem selectedForUpdate {find : Database → Option β} {target : β → Lockable}
    {post : Option β → Locks → Prop} (hnone : post none held)
    (hfound : ∀ db row, find db = some row → AllowedLock held (target row) .update ∧
      ∀ db', post ((find db').filter fun again => target again = target row)
        ((target row, .update) :: held)) :
    Takes held (Tx.selectForUpdate find target) post := by
  intro next hnext db
  dsimp only
  cases hfind : find db with
  | none => exact hnext none held hnone
  | some row =>
    obtain ⟨hallowed, hagain⟩ := hfound db row hfind
    exact ⟨hallowed, fun db' => hnext _ _ (hagain db')⟩

/-- A row of which a transaction goes on only if it has found and locked it. -/
theorem selectForUpdate {find : Database → Option α} {target : α → Lockable} {e : ApiError}
    {f : α → Tx β}
    (h : ∀ db row, find db = some row → AllowedLock held (target row) .update ∧
      Takes ((target row, .update) :: held) (f row) post) :
    Takes held (Tx.selectForUpdate find target >>= fun found => Tx.require (okOr e found) >>= f)
      post := by
  have hselected : Takes held (Tx.selectForUpdate find target) fun found after =>
      ∀ row, found = some row → Takes after (f row) post := by
    refine Takes.selectedForUpdate (fun _ hnone => by simp at hnone) fun db row hfind => ?_
    obtain ⟨hallowed, _⟩ := h db row hfind
    refine ⟨hallowed, fun db' again hagain => ?_⟩
    obtain ⟨hfind', hsame⟩ := Option.filter_eq_some_iff.mp hagain
    rw [← of_decide_eq_true hsame]
    exact (h db' again hfind').2
  exact Takes.bind hselected fun hafter =>
    Takes.require fun row hrow => hafter row (okOr_ok.mp hrow)

theorem lockRows {targets : List Lockable} {mode : LockMode} {inv : Locks → Prop} (h : inv held)
    (hlock : ∀ held target, inv held → target ∈ targets →
      AllowedLock held target mode ∧ inv ((target, mode) :: held)) :
    Takes held (lockRows targets mode) fun _ after => inv after := by
  induction targets generalizing held with
  | nil => exact Takes.pure h
  | cons target targets ih =>
    obtain ⟨hallowed, hinv⟩ := hlock held target h (List.mem_cons_self ..)
    exact Takes.lockRow hallowed
      (ih hinv fun held other hheld hm => hlock held other hheld (List.mem_cons_of_mem _ hm))

theorem forM {l : List α} {f : α → Tx PUnit} {inv : Locks → Prop} (h : inv held)
    (hf : ∀ a held, inv held → Takes held (f a) fun _ after => inv after) :
    Takes held (l.forM f) fun _ after => inv after := by
  induction l generalizing held with
  | nil => exact Takes.pure h
  | cons a l ih => exact Takes.bind (hf a held h) fun hafter => ih hafter

end Takes

/-- The transaction has begun with the advisory lock of the network. -/
def Begun (networkId : Uuid) (held : Locks) : Prop :=
  (.advisory networkId, .update) ∈ held ∧ ∀ lock ∈ held, lock.1.rank ≤ 1

/-- The transaction may publish: the row of the network is its to count on. -/
def Publishable (networkId : Uuid) (held : Locks) : Prop :=
  Single networkId held ∧
    ((.network networkId, .keyShare) ∈ held → (.advisory networkId, .update) ∈ held)

/-- The transaction has the row of the network locked against all others. -/
def Owns (networkId : Uuid) (held : Locks) : Prop :=
  (.network networkId, .update) ∈ held ∧ (.advisory networkId, .update) ∈ held ∧ Single networkId held

theorem Single.cons {networkId : Uuid} {held : Locks} (h : Single networkId held) {target : Lockable}
    {mode : LockMode} (htarget : ∀ id, target = .network id → id = networkId ∧ mode ≠ .share) :
    Single networkId ((target, mode) :: held) := by
  intro lock hmem id heq
  rcases List.mem_cons.mp hmem with rfl | hmem
  · exact htarget id heq
  · exact h lock hmem id heq

theorem Begun.single {networkId : Uuid} {held : Locks} (h : Begun networkId held) :
    Single networkId held := by
  intro lock hmem id heq
  have hrank := h.2 lock hmem
  rw [heq] at hrank
  exact absurd hrank (by decide : ¬4 ≤ 1)

theorem Owns.publishable {networkId : Uuid} {held : Locks} (h : Owns networkId held) :
    Publishable networkId held :=
  ⟨h.2.2, fun _ => h.2.1⟩

theorem Owns.cons {networkId : Uuid} {held : Locks} (h : Owns networkId held) {target : Lockable}
    {mode : LockMode} (htarget : ∀ id, target = .network id → id = networkId ∧ mode ≠ .share) :
    Owns networkId ((target, mode) :: held) :=
  ⟨List.mem_cons_of_mem _ h.1, List.mem_cons_of_mem _ h.2.1, h.2.2.cons htarget⟩

theorem Owns.allows {networkId : Uuid} {held : Locks} (h : Owns networkId held) {target : Lockable}
    (hrow : target.IsNodeRow) (mode : LockMode) : AllowedLock held target mode :=
  Or.inr (Or.inr (Or.inl ⟨hrow, networkId, h.1⟩))

namespace Takes

open Transactions

variable {held : Locks} {networkId : Uuid}

/-- A further lock on the row of the network. -/
theorem allowed_network (h : Publishable networkId held) {mode : LockMode}
    (hmode : mode = .keyShare ∨ mode = .noKeyUpdate) :
    AllowedLock held (.network networkId) mode :=
  Or.inr (Or.inr (Or.inr ⟨networkId, rfl, hmode, h.1, fun _ => h.2⟩))

theorem allowed_keyShare (h : Single networkId held) :
    AllowedLock held (.network networkId) .keyShare :=
  Or.inr (Or.inr (Or.inr ⟨networkId, rfl, Or.inl rfl, h, fun heq => by simp at heq⟩))

theorem single_network (h : Single networkId held) {mode : LockMode} (hmode : mode ≠ .share) :
    Single networkId ((.network networkId, mode) :: held) :=
  h.cons fun _ heq => ⟨(Lockable.network.inj heq).symm, hmode⟩

theorem appendAudit (h : Single networkId held) :
    Takes held (Transactions.appendAudit networkId) fun _ _ => True :=
  fun _ hnext => ⟨allowed_keyShare h, hnext () _ trivial⟩

theorem loadConfigurationNodes {p : Platform} {now : Int} :
    Takes held (Transactions.loadConfigurationNodes p networkId now) fun _ after => after = held :=
  Takes.select fun _ => Takes.select fun _ => Takes.required fun _ _ => rfl

theorem nextConfigurationMetadata {p : Platform} (h : Publishable networkId held) :
    Takes held (Transactions.nextConfigurationMetadata p networkId) fun _ after =>
      Single networkId after := by
  have hcounted := single_network h.1 (by decide : LockMode.noKeyUpdate ≠ .share)
  exact Takes.lockRow (allowed_network h (Or.inr rfl)) (Takes.executedReturning fun _ => hcounted)

theorem persistConfiguration {row : ConfigurationVersionRow} (h : Single row.networkId held) :
    Takes held (Transactions.persistConfiguration row) fun _ after => Single row.networkId after := by
  have hreferred := single_network h (by decide : LockMode.keyShare ≠ .share)
  exact Takes.lockRow (allowed_keyShare h) (Takes.executedReturning fun _ => hreferred)

theorem publishConfiguration {p : Platform} {state : AppState} {times : Times}
    (h : Publishable networkId held) :
    Takes held (Transactions.publishConfiguration p state networkId times) fun _ after =>
      Single networkId after :=
  Takes.bind (nextConfigurationMetadata h) fun hcounted =>
    Takes.bind loadConfigurationNodes fun heq => by
      subst heq
      exact Takes.select fun _ => Takes.select fun _ => Takes.require fun _ _ => Takes.require
        fun _ _ => persistConfiguration hcounted

/-- What all publications end with. -/
theorem published {p : Platform} {state : AppState} {times : Times} (h : Publishable networkId held) :
    Takes held (do
      Transactions.publishConfiguration p state networkId times
      Transactions.appendAudit networkId) fun _ _ => True :=
  Takes.bind (publishConfiguration h) fun hsingle => appendAudit hsingle

theorem lockNetwork {β : Type} {f : Unit → Tx β} {post : β → Locks → Prop}
    (h : ∀ lock ∈ held, lock.1.rank < 1)
    (hf : ∀ after, Begun networkId after → Takes after (f ()) post) :
    Takes held (Transactions.lockNetwork networkId >>= f) post := by
  refine Takes.lockRow (Or.inr (Or.inl ⟨h, fun _ heq => by simp at heq⟩)) (hf _ ⟨?_, ?_⟩)
  · exact List.mem_cons_self ..
  · intro lock hmem
    rcases List.mem_cons.mp hmem with rfl | hmem
    · exact le_refl 1
    · exact (h lock hmem).le

/-- The row of the network, locked against all others. -/
theorem selectNetwork {β : Type} {f : NetworkRow → Tx β} {post : β → Locks → Prop} {e : ApiError}
    (h : Begun networkId held)
    (hf : ∀ network after, Owns networkId after → Takes after (f network) post) :
    Takes held (Tx.selectForUpdate (fun db => db.network networkId)
      (fun network => .network network.id) >>= fun found => Tx.require (okOr e found) >>= f) post := by
  refine Takes.selectForUpdate fun db network hfound => ?_
  have hid : network.id = networkId := by simpa using List.find?_some hfound
  rw [hid]
  refine ⟨Or.inr (Or.inl ⟨fun lock hmem => ?_, fun id heq _ => ?_⟩), hf network _ ⟨?_, ?_, ?_⟩⟩
  · have hrank := h.2 lock hmem
    show lock.1.rank < 4
    omega
  · cases heq
    exact h.1
  · exact List.mem_cons_self ..
  · exact List.mem_cons_of_mem _ h.1
  · exact single_network h.single (by decide)

/-- The row of a node, with nothing locked but what comes before it. -/
theorem selectNode {α β : Type} {find : Database → Option α} {id : α → Uuid} {f : α → Tx β}
    {post : β → Locks → Prop} {e : ApiError} (h : ∀ lock ∈ held, lock.1.rank ≤ 1)
    (hf : ∀ row, Takes ((.node (id row), .update) :: held) (f row) post) :
    Takes held (Tx.selectForUpdate find (fun row => .node (id row)) >>= fun found =>
      Tx.require (okOr e found) >>= f) post := by
  refine Takes.selectForUpdate fun db row _ => ⟨Or.inr (Or.inl ⟨fun lock hmem => ?_, ?_⟩), hf row⟩
  · have hrank := h lock hmem
    show lock.1.rank < 2
    omega
  · exact fun _ heq => by simp at heq

/-- A row of the nodes, with the row of the network locked. -/
theorem selectOwnedNode {α β : Type} {find : Database → Option α} {id : α → Uuid} {f : α → Tx β}
    {post : β → Locks → Prop} {e : ApiError} (h : Owns networkId held)
    (hf : ∀ row after, Owns networkId after → Takes after (f row) post) :
    Takes held (Tx.selectForUpdate find (fun row => .node (id row)) >>= fun found =>
      Tx.require (okOr e found) >>= f) post :=
  Takes.selectForUpdate fun _ row _ =>
    ⟨h.allows (by trivial) .update, hf row _ (h.cons fun _ heq => by simp at heq)⟩

/-- Nothing of the row of a network is locked. -/
theorem publishable_of_rank (h : ∀ lock ∈ held, lock.1.rank < 4) : Publishable networkId held := by
  have hnone : ∀ lock ∈ held, ∀ id, lock.1 ≠ .network id := by
    intro lock hmem id heq
    have hrank := h lock hmem
    rw [heq] at hrank
    exact lt_irrefl 4 hrank
  exact ⟨fun lock hmem id heq => absurd heq (hnone lock hmem id),
    fun hmem => absurd rfl (hnone _ hmem networkId)⟩

theorem revokeNode (p : Platform) (state : AppState) (networkId : Uuid) (nodeIdBase64 : String)
    (ipCooldownSeconds : UInt64) (times : Times) :
    Takes [] (Transactions.revokeNode p state networkId nodeIdBase64 ipCooldownSeconds times)
      fun _ _ => True := by
  unfold Transactions.revokeNode
  split
  next => exact Takes.refuse
  next =>
    refine Takes.require fun nodeId _ => Takes.lockNetwork (fun _ hmem => by simp at hmem)
      fun begun hbegun => Takes.selectNode hbegun.2 fun node => Takes.execute (Takes.execute
        (Takes.published (publishable_of_rank fun lock hmem => ?_)))
    rcases List.mem_cons.mp hmem with rfl | hmem
    · exact (by decide : 2 < 4)
    · have hrank := hbegun.2 lock hmem
      omega

theorem replaceNodeUpdateChannel (p : Platform) (state : AppState) (networkId : Uuid)
    (nodeIdBase64 : String) (request : ReplaceNodeUpdateChannelRequest) (times : Times) :
    Takes [] (Transactions.replaceNodeUpdateChannel p state networkId nodeIdBase64 request times)
      fun _ _ => True := by
  unfold Transactions.replaceNodeUpdateChannel
  split
  next => exact Takes.refuse
  next =>
    refine Takes.require fun nodeId _ => Takes.lockNetwork (fun _ hmem => by simp at hmem)
      fun begun hbegun => Takes.selectNetwork hbegun fun network owned howned => ?_
    split
    next => exact Takes.refuse
    next =>
      exact Takes.selectOwnedNode howned fun node after hafter =>
        Takes.execute (Takes.published hafter.publishable)

theorem insertMembership {row : GroupMembershipRow} (h : Owns networkId held) :
    Takes held (Transactions.insertMembership row) fun _ after => Owns networkId after :=
  Takes.execute fun _ hnext =>
    ⟨h.allows (by trivial) .keyShare, hnext () _ (h.cons fun _ heq => by simp at heq)⟩

theorem insertGroup {ids : Map String Uuid} {group : AclGroupRequest} (h : Owns networkId held) :
    Takes held (Transactions.insertGroup networkId ids group) fun _ after => Owns networkId after := by
  have hreferred : Owns networkId ((.network networkId, .keyShare) :: held) :=
    h.cons fun _ heq => ⟨(Lockable.network.inj heq).symm, by decide⟩
  exact Takes.lockRow (allowed_keyShare h.2.2) (Takes.require fun rows _ =>
    Takes.forM hreferred fun row held hheld => insertMembership hheld)

theorem insertRule {rule : AclRule} (h : Owns networkId held) :
    Takes held (Transactions.insertRule networkId rule) fun _ after => Owns networkId after :=
  Takes.execute fun _ hnext => ⟨allowed_keyShare h.2.2,
    hnext () _ (h.cons fun _ heq => ⟨(Lockable.network.inj heq).symm, by decide⟩)⟩

theorem persistAclPolicy {groups : List AclGroupRequest} {rules : List AclRule}
    {ids : Map String Uuid} {policyVersion : UInt64} (h : Owns networkId held) :
    Takes held (Transactions.persistAclPolicy networkId groups rules ids policyVersion)
      fun _ after => Owns networkId after := by
  refine Takes.execute (Takes.execute (Takes.bind (Takes.forM h fun group held hheld =>
    insertGroup hheld) fun hgroups => Takes.bind (Takes.forM hgroups fun rule held hheld =>
      insertRule hheld) fun hrules => ?_))
  split
  next => exact Takes.refuse
  next => exact fun _ hnext _ => hnext () _ hrules

theorem replaceAclPolicy (p : Platform) (state : AppState) (networkId : Uuid)
    (request : ReplaceAclPolicyRequest) (times : Times) :
    Takes [] (Transactions.replaceAclPolicy p state networkId request times) fun _ _ => True := by
  unfold Transactions.replaceAclPolicy
  split
  next => exact Takes.refuse
  next =>
    refine Takes.require fun groups _ => Takes.lockNetwork (fun _ hmem => by simp at hmem)
      fun begun hbegun => Takes.selectNetwork hbegun fun network owned howned => ?_
    split
    next => exact Takes.refuse
    next =>
      refine Takes.select fun _ => Takes.select fun _ => Takes.require fun _ _ =>
        Takes.require fun groupsByNode _ => ?_
      split
      next => exact Takes.refuse
      next =>
        exact Takes.require fun _ _ => Takes.bind (persistAclPolicy howned) fun hafter =>
          Takes.published hafter.publishable

theorem loadValidSubnetSuggestions {p : Platform} {now : Int} (h : Owns networkId held) :
    Takes held (Transactions.loadValidSubnetSuggestions p networkId now)
      fun _ after => Owns networkId after := by
  refine Takes.select fun db => Takes.bind (Takes.lockRows h fun held target hheld hmem => ?_)
    fun hlocked => Takes.select fun _ => Takes.require fun _ _ => Takes.pure hlocked
  obtain ⟨row, _, htarget⟩ := List.mem_flatMap.mp hmem
  rcases List.mem_cons.mp htarget with rfl | htarget
  · exact ⟨hheld.allows (by trivial) .share, hheld.cons fun _ heq => by simp at heq⟩
  · cases List.mem_singleton.mp htarget
    exact ⟨hheld.allows (by trivial) .share, hheld.cons fun _ heq => by simp at heq⟩

theorem prepareSubnetRoutes {p : Platform} {addressPool : String}
    {routes : List SubnetRouteApprovalRequest} {now : Int} (h : Owns networkId held) :
    Takes held (Transactions.prepareSubnetRoutes p networkId addressPool routes now)
      fun _ after => Owns networkId after :=
  Takes.select fun _ => Takes.bind (loadValidSubnetSuggestions h) fun hlocked =>
    Takes.require fun _ _ => Takes.require fun _ _ => Takes.pure hlocked

theorem insertSubnetRoute {row : SubnetRouteRow} (h : Owns row.networkId held) :
    Takes held (Transactions.insertSubnetRoute row) fun _ after => Owns row.networkId after := by
  have hreferred : Owns row.networkId ((.network row.networkId, .keyShare) :: held) :=
    h.cons fun _ heq => ⟨(Lockable.network.inj heq).symm, by decide⟩
  exact Takes.executeReturning fun _ => Takes.lockRow (allowed_keyShare h.2.2) fun _ hnext =>
    ⟨hreferred.allows (by trivial) .keyShare, hnext () _ (hreferred.cons fun _ heq => by simp at heq)⟩

theorem persistSubnetRoutes {routes : List PersistedSubnetRoute} (h : Owns networkId held) :
    Takes held (Transactions.persistSubnetRoutes networkId routes)
      fun _ after => Owns networkId after := by
  refine Takes.execute ?_
  generalize hrows : routes.map (subnetRouteRow networkId) = rows
  have hall : ∀ row ∈ rows, row.networkId = networkId := by
    intro row hmem
    rw [← hrows] at hmem
    obtain ⟨route, _, rfl⟩ := List.mem_map.mp hmem
    rfl
  clear hrows
  induction rows generalizing held with
  | nil => exact Takes.pure h
  | cons row rows ih =>
    have hid := hall row (List.mem_cons_self ..)
    refine Takes.bind (insertSubnetRoute (by rw [hid]; exact h)) fun hafter => ?_
    rw [hid] at hafter
    exact ih hafter fun other hmem => hall other (List.mem_cons_of_mem _ hmem)

theorem replaceSubnetRoutes (p : Platform) (state : AppState) (networkId : Uuid)
    (request : ReplaceSubnetRoutesRequest) (times : Times) :
    Takes [] (Transactions.replaceSubnetRoutes p state networkId request times) fun _ _ => True := by
  unfold Transactions.replaceSubnetRoutes
  split
  next => exact Takes.refuse
  next =>
    refine Takes.lockNetwork (fun _ hmem => by simp at hmem)
      fun begun hbegun => Takes.selectNetwork hbegun fun network owned howned => ?_
    split
    next => exact Takes.refuse
    next =>
      exact Takes.bind (prepareSubnetRoutes howned) fun hprepared =>
        Takes.bind loadConfigurationNodes fun heq => by
          subst heq
          exact Takes.select fun _ => Takes.require fun _ _ => Takes.require fun _ _ =>
            Takes.bind (persistSubnetRoutes hprepared) fun hafter =>
              Takes.published hafter.publishable

theorem persistNode {row : NodeRow} {issuedAt now : Int}
    (h : Single row.networkId held) (hadvisory : (.advisory row.networkId, .update) ∈ held) :
    Takes held (Transactions.persistNode row issuedAt now) fun _ after =>
      Publishable row.networkId after := by
  have hfirst := single_network h (by decide : LockMode.keyShare ≠ .share)
  have hsecond := single_network hfirst (by decide : LockMode.keyShare ≠ .share)
  exact Takes.lockRow (allowed_keyShare h) (Takes.executeReturning fun _ =>
    Takes.lockRow (allowed_keyShare hfirst) fun _ hnext _ => hnext () _ ⟨hsecond, fun _ =>
      List.mem_cons_of_mem _ (List.mem_cons_of_mem _ hadvisory)⟩)

theorem issueCredential {p : Platform} {state : AppState} {token : EnrollmentTokenRow}
    {identityPublicKey : Block 32} {virtualIp : Ipv4Addr} {utcNow : Int} :
    Takes held (Transactions.issueCredential p state token identityPublicKey virtualIp utcNow)
      fun _ after => after = held := by
  intro next hnext db
  have hrest : Takes held (do
      let result ← Tx.require (XsNexus.issueCredential p state
        { Database.empty with credentialSerial := db.credentialSerial } token identityPublicKey
        virtualIp utcNow)
      Pure.pure result.1) fun _ after => after = held :=
    Takes.require fun _ _ => Takes.pure rfl
  exact hrest next hnext

theorem enrollNode (p : Platform) (state : AppState) (request : EnrollRequest) (databaseId : Uuid)
    (times : Times) :
    Takes [] (Transactions.enrollNode p state request databaseId times) fun _ _ => True := by
  unfold Transactions.enrollNode
  refine Takes.require fun enrollment _ => Takes.selectForUpdate fun db token _ => ⟨?_, ?_⟩
  · exact Or.inr (Or.inl ⟨fun _ hmem => by simp at hmem, fun _ heq => by simp at heq⟩)
  · split
    next => exact Takes.refuse
    next =>
      refine Takes.lockNetwork (fun lock hmem => ?_) fun begun hbegun => Takes.select fun db' => ?_
      · cases List.mem_singleton.mp hmem
        exact (by decide : 0 < 1)
      · split
        next => exact Takes.refuse
        next =>
          exact Takes.select fun _ => Takes.require fun network _ => Takes.select fun _ =>
            Takes.require fun virtualIp _ =>
              Takes.bind Takes.issueCredential fun heq => by
                subst heq
                exact Takes.bind (persistNode hbegun.single hbegun.1) fun hpersisted =>
                  Takes.executeReturning fun _ => Takes.published hpersisted

/-- The locks of an advertisement: the row of its node against all others, and none of a network. -/
def Advertising (databaseId : Uuid) (held : Locks) : Prop :=
  (.node databaseId, .update) ∈ held ∧ ∀ lock ∈ held, lock.1.rank < 4

theorem advertisementIsDuplicate {rows : Database → List AdvertisementRow} {target : Uuid → Lockable}
    {databaseId : Uuid} {generation : UInt64} {payload : Bytes} {signature : Block 64}
    (h : AllowedLock held (target databaseId) .update) :
    Takes held (Transactions.advertisementIsDuplicate rows target databaseId generation payload
      signature) fun _ after => after = held ∨ after = (target databaseId, .update) :: held := by
  have hselected : Takes held (Tx.selectForUpdate
      (fun db => (rows db).find? fun row => row.nodeId = databaseId) fun row => target row.nodeId)
      fun _ after => after = held ∨ after = (target databaseId, .update) :: held := by
    refine Takes.selectedForUpdate (Or.inl rfl) fun db row hfind => ?_
    have hid : row.nodeId = databaseId := by simpa using List.find?_some hfind
    rw [hid]
    exact ⟨h, fun _ => Or.inr rfl⟩
  exact Takes.bind hselected fun hafter => Takes.select fun _ => Takes.required fun _ _ => hafter

theorem upsertAdvertisement {rows : Database → List AdvertisementRow} {target : Uuid → Lockable}
    {references : List Lockable} {write : AdvertisementRow → RowWrite} {row : AdvertisementRow}
    {inv : Locks → Prop} (hallowed : AllowedLock held (target row.nodeId) .update)
    (hstored : inv ((target row.nodeId, .update) :: held))
    (hnew : Takes held (Tx.lockRows references .keyShare) fun _ after => inv after) :
    Takes held (Transactions.upsertAdvertisement rows target references write row)
      fun _ after => inv after := by
  refine Takes.select fun db => ?_
  split
  next => exact Takes.lockRow hallowed fun _ hnext _ => hnext () _ hstored
  next => exact Takes.bind hnew fun hafter _ hnext _ => hnext () _ hafter

/-- The locks an advertisement has as it comes to store its row. -/
def Checked (target : Lockable) (databaseId : Uuid) (held : Locks) : Prop :=
  held = [(.node databaseId, .update)] ∨ held = [(target, .update), (.node databaseId, .update)]

theorem Checked.advertising {target : Lockable} {databaseId : Uuid} (hrank : target.rank = 3)
    (h : Checked target databaseId held) : Advertising databaseId held := by
  have hnode : (Lockable.node databaseId).rank < 4 := (by decide : 2 < 4)
  have htarget : target.rank < 4 := by omega
  rcases h with rfl | rfl
  · exact ⟨List.mem_cons_self .., fun lock hmem => by cases List.mem_singleton.mp hmem; exact hnode⟩
  · refine ⟨List.mem_cons_of_mem _ (List.mem_cons_self ..), fun lock hmem => ?_⟩
    rcases List.mem_cons.mp hmem with rfl | hmem
    · exact htarget
    · cases List.mem_singleton.mp hmem
      exact hnode

theorem Advertising.cons {databaseId : Uuid} (h : Advertising databaseId held) {target : Lockable}
    (hrank : target.rank = 3) : Advertising databaseId ((target, .update) :: held) := by
  refine ⟨List.mem_cons_of_mem _ h.1, fun lock hmem => ?_⟩
  rcases List.mem_cons.mp hmem with rfl | hmem
  · show target.rank < 4
    omega
  · exact h.2 lock hmem

theorem Checked.allows {target : Lockable} {databaseId : Uuid} (hrank : target.rank = 3)
    (h : Checked target databaseId held) : AllowedLock held target .update := by
  rcases h with rfl | rfl
  · refine Or.inr (Or.inl ⟨fun lock hmem => ?_, fun id heq => ?_⟩)
    · cases List.mem_singleton.mp hmem
      show 2 < target.rank
      omega
    · rw [heq] at hrank
      exact absurd hrank (by decide : ¬4 = 3)
  · exact Or.inl (List.mem_cons_self ..)

/-- The lock that the foreign key to the node of an advertisement takes is one it has already. -/
theorem Advertising.refers {databaseId : Uuid} (h : Advertising databaseId held) :
    AllowedLock held (.node databaseId) .keyShare ∧
      Advertising databaseId ((.node databaseId, .keyShare) :: held) := by
  refine ⟨Or.inl h.1, List.mem_cons_of_mem _ h.1, fun lock hmem => ?_⟩
  rcases List.mem_cons.mp hmem with rfl | hmem
  · exact (by decide : 2 < 4)
  · exact h.2 lock hmem

theorem advertiseCandidates (p : Platform) (state : AppState) (authenticated : AuthenticatedNode)
    (advertisement : CandidateAdvertisement) (signatureBase64 : String) (times : Times) :
    Takes [] (Transactions.advertiseCandidates p state authenticated advertisement signatureBase64
      times) fun _ _ => True := by
  unfold Transactions.advertiseCandidates
  refine Takes.require fun _ _ => Takes.require fun payload _ => ?_
  split
  next => exact Takes.refuse
  next =>
    refine Takes.require fun signature _ => Takes.selectNode (fun _ hmem => by simp at hmem)
      fun node => Takes.require fun verifyingKey _ => ?_
    split
    next => exact Takes.refuse
    next =>
      have hrank : (Lockable.candidateAdvertisement node.id).rank = 3 := rfl
      have hnode : Checked (.candidateAdvertisement node.id) node.id [(.node node.id, .update)] :=
        Or.inl rfl
      refine Takes.bind (advertisementIsDuplicate (hnode.allows hrank)) fun hafter => ?_
      have hchecked : Checked (.candidateAdvertisement node.id) node.id _ := hafter
      split
      next => exact Takes.refuse
      next =>
        have hadvertising := hchecked.advertising hrank
        refine Takes.bind (Takes.upsertAdvertisement
          (hchecked.allows hrank) (hadvertising.cons hrank) ?_) fun hstored =>
            Takes.published (publishable_of_rank hstored.2)
        exact Takes.lockRow hadvertising.refers.1 (Takes.pure hadvertising.refers.2)

theorem advertiseSubnetRoutes (p : Platform) (authenticated : AuthenticatedNode)
    (advertisement : SubnetRouteAdvertisement) (signatureBase64 : String) (times : Times) :
    Takes [] (Transactions.advertiseSubnetRoutes p authenticated advertisement signatureBase64 times)
      fun _ _ => True := by
  unfold Transactions.advertiseSubnetRoutes
  refine Takes.require fun payload _ => ?_
  split
  next => exact Takes.refuse
  next =>
    refine Takes.require fun signature _ => Takes.selectNode (fun _ hmem => by simp at hmem)
      fun joined => Takes.require fun _ _ => Takes.require fun verifyingKey _ => ?_
    split
    next => exact Takes.refuse
    next =>
      have hrank : (Lockable.subnetRouteAdvertisement joined.1.id).rank = 3 := rfl
      have hnode : Checked (.subnetRouteAdvertisement joined.1.id) joined.1.id
        [(.node joined.1.id, .update)] := Or.inl rfl
      refine Takes.bind (advertisementIsDuplicate (hnode.allows hrank)) fun hafter => ?_
      have hchecked : Checked (.subnetRouteAdvertisement joined.1.id) joined.1.id _ := hafter
      split
      next => exact Takes.refuse
      next =>
        have hadvertising := hchecked.advertising hrank
        have hpublishable : Publishable authenticated.networkId _ :=
          publishable_of_rank hadvertising.refers.2.2
        refine Takes.bind (Takes.upsertAdvertisement
          (hchecked.allows hrank) (publishable_of_rank (hadvertising.cons hrank).2).1 ?_)
            fun hstored => Takes.appendAudit hstored
        exact Takes.lockRow hadvertising.refers.1 (Takes.lockRow (allowed_keyShare hpublishable.1)
          (Takes.pure (single_network hpublishable.1 (by decide))))

end Takes

end XsNexus
