import XsNexus.Republication

namespace XsNexus

open ByteCodec Checks FiniteMap ReadCommitted Runs

section

variable {networkId : Uuid} {foreign : Block 32 → Prop}

/-- Where a write leaves a token, it is one of those that were there. -/
def RowWrite.KeepsTokens (networkId : Uuid) (foreign : Block 32 → Prop) : RowWrite → Prop
  | .token row => row.networkId = networkId ∨ foreign row.tokenHash
  | _ => True

/-- A write that leaves the networks and the configurations as they are. -/
def RowWrite.Harmless (networkId : Uuid) (foreign : Block 32 → Prop) : RowWrite → Prop
  | .network _ => False
  | .configurationVersion _ => False
  | write => write.KeepsTokens networkId foreign

/-- A write to the row of the network that leaves the version of its configuration as it is. -/
def RowWrite.KeepsVersion (networkId : Uuid) (version : Nat) : RowWrite → Prop
  | .network row => row.id = networkId ∧ row.configVersion = version
  | _ => False

theorem RowWrite.Harmless.keepsTokens {write : RowWrite} (h : write.Harmless networkId foreign) :
    write.KeepsTokens networkId foreign := by
  cases write with
  | token row => exact h
  | _ => trivial

theorem RowWrite.KeepsVersion.keepsTokens {write : RowWrite} {version : Nat}
    (h : write.KeepsVersion networkId version) : write.KeepsTokens networkId foreign := by
  cases write with
  | token row => exact h.elim
  | _ => trivial

theorem OwnTokens.writeRow {db : Database} (h : OwnTokens networkId foreign db) {write : RowWrite}
    (hwrite : write.KeepsTokens networkId foreign) :
    OwnTokens networkId foreign (db.writeRow write) := by
  cases write with
  | token row =>
    intro stored hstored
    obtain ⟨before, hbefore, rfl⟩ := List.mem_map.mp hstored
    split
    next => exact hwrite
    next => exact h before hbefore
  | _ => exact h

theorem OwnTokens.view {db : Database} (h : OwnTokens networkId foreign db) {writes : List RowWrite}
    (hwrites : ∀ write ∈ writes, write.KeepsTokens networkId foreign) :
    OwnTokens networkId foreign (lockRules.view db writes) := by
  induction writes generalizing db with
  | nil => exact h
  | cons write writes ih =>
    exact ih (h.writeRow (hwrites write (List.mem_cons_self ..)))
      fun later hmem => hwrites later (List.mem_cons_of_mem _ hmem)

/-- The row of the network after an update that keeps its id -/
theorem network_updateNetwork {db : Database} {network : NetworkRow} {change : NetworkRow → NetworkRow}
    (hfound : db.network networkId = some network) (hid : (change network).id = networkId) :
    (db.updateNetwork networkId change).network networkId = some (change network) := by
  unfold Database.network at hfound ⊢
  unfold Database.updateNetwork
  dsimp only
  generalize db.networks = rows at hfound ⊢
  induction rows with
  | nil => simp at hfound
  | cons stored rows ih =>
    rw [List.map_cons, List.find?_cons]
    rw [List.find?_cons] at hfound
    by_cases hstored : stored.id = networkId
    · simp only [hstored, decide_true] at hfound
      cases hfound
      simp [hstored, hid]
    · simp only [hstored, decide_false, ↓reduceIte] at hfound ⊢
      exact ih hfound

theorem writeRow_prepared {db : Database} {version : Nat} {write : RowWrite}
    (h : write.Harmless networkId foreign ∨ write.KeepsVersion networkId version)
    (hversion : (db.network networkId).map NetworkRow.configVersion = some version) :
    (db.writeRow write).configurationVersions = db.configurationVersions ∧
      ((db.writeRow write).network networkId).map NetworkRow.configVersion = some version := by
  cases write with
  | network row =>
    obtain ⟨rfl, hrow⟩ : row.id = networkId ∧ row.configVersion = version := h.resolve_left id
    obtain ⟨network, hfound, _⟩ := Option.map_eq_some_iff.mp hversion
    have hupdated : (db.updateNetwork row.id fun _ => row).network row.id = some row :=
      network_updateNetwork hfound rfl
    refine ⟨rfl, ?_⟩
    show ((db.updateNetwork row.id fun _ => row).network row.id).map NetworkRow.configVersion = _
    rw [hupdated, Option.map_some, hrow]
  | configurationVersion row => exact (h.elim id id).elim
  | _ => exact ⟨rfl, hversion⟩

/-- What the writes before a publication leave: the configurations, and the version of the last one. -/
theorem view_prepared {db : Database} {version : Nat} {writes : List RowWrite}
    (h : ∀ write ∈ writes, write.Harmless networkId foreign ∨ write.KeepsVersion networkId version)
    (hversion : (db.network networkId).map NetworkRow.configVersion = some version) :
    (lockRules.view db writes).configurationVersions = db.configurationVersions ∧
      ((lockRules.view db writes).network networkId).map NetworkRow.configVersion = some version := by
  induction writes generalizing db with
  | nil => exact ⟨rfl, hversion⟩
  | cons write writes ih =>
    obtain ⟨hversions, hwritten⟩ := writeRow_prepared (h write (List.mem_cons_self ..)) hversion
    obtain ⟨hlater, hcounted⟩ :=
      ih (fun later hmem => h later (List.mem_cons_of_mem _ hmem)) hwritten
    exact ⟨hlater.trans hversions, hcounted⟩

/-- A transaction that has not published: under the lock on the row of its network it may have written
that row. -/
def Prepared (networkId : Uuid) (foreign : Block 32 → Prop) : Assertion := fun held writes seen =>
  ∀ write ∈ writes, write.Harmless networkId foreign ∨
    (CountsOn networkId held ∧ ∃ network, seen.network networkId = some network ∧
      write.KeepsVersion networkId network.configVersion)

/-- A transaction that counts the configurations: since `base` is committed nothing has changed, and it
sees the tables of `tables`. -/
structure Frozen (networkId : Uuid) (foreign : Block 32 → Prop) (base tables : Database)
    (held : List (Lockable × LockMode)) (writes : List RowWrite) (seen : Database) : Prop where
  counts : CountsOn networkId held
  base : SameTables base seen
  tables : SameTables tables (lockRules.view seen writes)
  tokens : ∀ write ∈ writes, write.KeepsTokens networkId foreign

variable {p : Platform} {state : AppState} {moments : Times → Prop}

theorem prepared_steady :
    Steady (publicationDiscipline p state networkId foreign moments) (Prepared networkId foreign) where
  later h hrely _ write hmem := by
    rcases h write hmem with hharmless | ⟨hcounts, network, hfound, hkeeps⟩
    · exact Or.inl hharmless
    · have hsame := (hrely.2 hcounts).network networkId
      exact Or.inr ⟨hcounts, network, hsame.trans hfound, hkeeps⟩
  locked lock h write hmem :=
    (h write hmem).imp id fun ⟨hcounts, hnetwork⟩ => ⟨hcounts.cons lock, hnetwork⟩

theorem frozen_steady {base tables : Database} :
    Steady (publicationDiscipline p state networkId foreign moments)
      (Frozen networkId foreign base tables) where
  later h hrely _ := by
    have hsame := hrely.2 h.counts
    exact ⟨h.counts, h.base.trans hsame, h.tables.trans (hsame.view _), h.tokens⟩
  locked lock h := ⟨h.counts.cons lock, h.base, h.tables, h.tokens⟩

theorem Prepared.append {held : List (Lockable × LockMode)} {writes later : List RowWrite}
    {seen : Database} (h : Prepared networkId foreign held writes seen)
    (hlater : ∀ write ∈ later, write.Harmless networkId foreign) :
    Prepared networkId foreign held (writes ++ later) seen := by
  intro write hmem
  rcases List.mem_append.mp hmem with hmem | hmem
  · exact h write hmem
  · exact Or.inl (hlater write hmem)

theorem Prepared.keepsTokens {held : List (Lockable × LockMode)} {writes : List RowWrite}
    {seen : Database} (h : Prepared networkId foreign held writes seen) :
    ∀ write ∈ writes, write.KeepsTokens networkId foreign := by
  intro write hmem
  rcases h write hmem with hharmless | ⟨_, _, _, hkeeps⟩
  · exact hharmless.keepsTokens
  · exact hkeeps.keepsTokens

/-- What a transaction that has not published sees of its network and the configurations. -/
theorem Prepared.view {held : List (Lockable × LockMode)} {writes : List RowWrite} {seen : Database}
    (h : Prepared networkId foreign held writes seen) {network : NetworkRow}
    (hfound : seen.network networkId = some network) :
    (lockRules.view seen writes).configurationVersions = seen.configurationVersions ∧
      ∃ viewed, (lockRules.view seen writes).network networkId = some viewed ∧
        viewed.configVersion = network.configVersion := by
  have hversion : (seen.network networkId).map NetworkRow.configVersion =
      some network.configVersion := by
    rw [hfound]
    rfl
  have hall : ∀ write ∈ writes, write.Harmless networkId foreign ∨
      write.KeepsVersion networkId network.configVersion := by
    intro write hmem
    rcases h write hmem with hharmless | ⟨_, other, hother, hkeeps⟩
    · exact Or.inl hharmless
    · cases hfound.symm.trans hother
      exact Or.inr hkeeps
  obtain ⟨hversions, hviewed⟩ := view_prepared hall hversion
  obtain ⟨viewed, hviewed, hsame⟩ := Option.map_eq_some_iff.mp hviewed
  exact ⟨hversions, viewed, hviewed, hsame⟩

/-- The tables of a transaction that has counted the configurations, against those committed. -/
structure Counted (p : Platform) (state : AppState) (networkId : Uuid) (moments : Times → Prop)
    (base tables : Database) (before network : NetworkRow) : Prop where
  upToDate : UpToDate p state networkId moments base
  stored : base.network networkId = some before
  found : tables.network networkId = some network
  next : network.configVersion = before.configVersion + 1
  bounded : network.configVersion < bigintLimit
  versions : tables.configurationVersions = base.configurationVersions

/-- A transaction that has published. -/
def Published (p : Platform) (state : AppState) (networkId : Uuid) (foreign : Block 32 → Prop)
    (moments : Times → Prop) : Assertion := fun held writes seen =>
  ∃ base tables, Frozen networkId foreign base tables held writes seen ∧
    UpToDate p state networkId moments tables ∧
    configurationRows base networkId <+: configurationRows tables networkId

theorem published_steady :
    Steady (publicationDiscipline p state networkId foreign moments)
      (Published p state networkId foreign moments) where
  later := fun ⟨base, tables, hfrozen, hpublished⟩ hrely hinv =>
    ⟨base, tables, frozen_steady.later hfrozen hrely hinv, hpublished⟩
  locked := fun lock ⟨base, tables, hfrozen, hpublished⟩ =>
    ⟨base, tables, ⟨hfrozen.counts.cons lock, hfrozen.base, hfrozen.tables, hfrozen.tokens⟩,
      hpublished⟩

theorem leads_nextConfigurationMetadata :
    Leads (publicationDiscipline p state networkId foreign moments) (Prepared networkId foreign)
      (Transactions.nextConfigurationMetadata p networkId) fun metadata held writes seen =>
        ∃ base tables before network, metadata = network.metadata p ∧
          Counted p state networkId moments base tables before network ∧
          Frozen networkId foreign base tables held writes seen := by
  refine Leads.bind (Leads.lockRow prepared_steady) fun _ => ?_
  refine Leads.executedReturning prepared_steady.withLock fun held done seen metadata writes hknown
    hinv hrun => ?_
  obtain ⟨hlock, hprepared⟩ := hknown
  obtain ⟨⟨network, row, times, payload, hfound, hrows⟩, htokens⟩ := hinv
  obtain ⟨hversions, viewed, hviewed, hsame⟩ := hprepared.view hfound
  obtain ⟨⟨counted, counting⟩, hcounted, hrun⟩ := bind_ok.mp hrun
  obtain ⟨viewed', hviewed', hbounded, rfl, _⟩ := nextConfigurationMetadata_ok.mp hcounted
  obtain ⟨again, hagain, hrun⟩ := bind_ok.mp hrun
  cases hviewed.symm.trans hviewed'
  cases hviewed.symm.trans (okOr_ok.mp hagain)
  cases hrun
  have hid : viewed.id = networkId := by simpa using List.find?_some hviewed
  refine ⟨seen, _, network, { viewed with configVersion := viewed.configVersion + 1 }, rfl,
    ⟨⟨network, row, times, payload, hfound, hrows⟩, hfound, ?_, ?_, hbounded, ?_⟩,
    ⟨Or.inl hlock, SameTables.refl _, SameTables.refl _, ?_⟩⟩
  · rw [view_append]
    show ((lockRules.view seen done).updateNetwork viewed.id _).network networkId = _
    rw [hid]
    exact network_updateNetwork hviewed rfl
  · show viewed.configVersion + 1 = network.configVersion + 1
    rw [hsame]
  · rw [view_append]
    exact hversions
  · intro write hmem
    rcases List.mem_append.mp hmem with hmem | hmem
    · exact hprepared.keepsTokens write hmem
    · cases List.mem_singleton.mp hmem
      trivial

theorem leads_loadConfigurationNodes {base tables : Database} {now : Int} :
    Leads (publicationDiscipline p state networkId foreign moments)
      (Frozen networkId foreign base tables) (Transactions.loadConfigurationNodes p networkId now)
      fun nodes held writes seen => loadConfigurationNodes p tables networkId now = .ok nodes ∧
        Frozen networkId foreign base tables held writes seen := by
  refine Leads.select (SameTables tables) frozen_steady (fun _ _ _ h _ => h.tables) fun rows hrows => ?_
  refine Leads.select (fun memberships => memberships = tables.nodeGroupMemberships) frozen_steady
    (fun _ _ _ h _ => h.tables.nodeGroupMemberships) fun memberships hmemberships => ?_
  refine Leads.required fun nodes hnodes held writes seen hknown => ⟨?_, hknown⟩
  have hsame : SameTables tables { rows with nodeGroupMemberships := memberships } :=
    { hrows with nodeGroupMemberships := hmemberships }
  rwa [hsame.loadConfigurationNodes] at hnodes

/-- With one more configuration the network is up to date. -/
theorem Counted.upToDate_next {base tables : Database} {before network : NetworkRow}
    (h : Counted p state networkId moments base tables before network) {times : Times}
    (hmoment : moments times) {payload : ConfigurationPayload} {row : ConfigurationVersionRow}
    (hassembled : assembleConfiguration p state tables networkId (network.metadata p) times =
      .ok payload)
    (htext : p.configurationPayloadText payload = some row.payload) (hid : row.networkId = networkId)
    (hversion : row.version = network.configVersion) :
    let published := { tables with configurationVersions := tables.configurationVersions ++ [row] }
    UpToDate p state networkId moments published ∧
      configurationRows base networkId <+: configurationRows published networkId := by
  intro published
  have hrows : configurationRows published networkId = configurationRows base networkId ++ [row] := by
    show (tables.configurationVersions ++ [row]).filter _ = _
    rw [List.filter_append, h.versions, List.filter_singleton]
    simp [hid, configurationRows]
  obtain ⟨stored, _, _, _, hstored, hversions, _⟩ := h.upToDate
  cases h.stored.symm.trans hstored
  refine ⟨⟨network, row, times, payload, h.found, ?_, ?_, hmoment, hassembled, htext⟩, ?_⟩
  · rw [hrows, List.map_append, hversions, h.next, List.range'_1_concat]
    simp [hversion, h.next, Nat.add_comm]
  · rw [hrows]
    exact List.getLast?_concat
  · rw [hrows]
    exact List.prefix_append _ _

theorem leads_publishConfiguration {times : Times} (hmoment : moments times) :
    Leads (publicationDiscipline p state networkId foreign moments) (Prepared networkId foreign)
      (Transactions.publishConfiguration p state networkId times)
      fun _ => Published p state networkId foreign moments := by
  refine Leads.bind leads_nextConfigurationMetadata fun metadata => ?_
  refine Leads.choose fun base => Leads.choose fun tables => Leads.choose fun before =>
    Leads.choose fun network => ?_
  refine Leads.fact And.left fun hmetadata => ?_
  refine Leads.fact (fun h => h.2.1) fun hcounted => ?_
  subst hmetadata
  refine Leads.weaken (Frozen networkId foreign base tables) ?_ fun h => h.2.2
  refine Leads.bind leads_loadConfigurationNodes fun nodes => Leads.fact And.left fun hnodes => ?_
  refine Leads.weaken (Frozen networkId foreign base tables) ?_ And.right
  refine Leads.select (fun policies => policies = loadAclPolicies p tables networkId) frozen_steady
    (fun _ _ _ h _ => ?_) fun policies hpolicies => ?_
  · obtain ⟨_, _, _, _, heq⟩ := h.tables.eq
    rw [heq]
    rfl
  refine Leads.select (fun routes => routes = loadSubnetRoutes p tables networkId) frozen_steady
    (fun _ _ _ h _ => ?_) fun subnetRoutes hroutes => ?_
  · obtain ⟨_, _, _, _, heq⟩ := h.tables.eq
    rw [heq]
    rfl
  refine Leads.require fun _ _ => Leads.require fun encoded hencoded => ?_
  obtain ⟨bytes, signature, keyId⟩ := encoded
  obtain ⟨htext, _, _, _⟩ := encodeConfiguration_ok.mp hencoded
  refine Leads.locked frozen_steady (Leads.executedReturning frozen_steady
    fun held done seen _ writes hfrozen _ hrun => ?_)
  obtain ⟨_, _, hrun⟩ := bind_ok.mp hrun
  cases hrun
  let row : ConfigurationVersionRow :=
    ⟨networkId, (network.metadata p).version.toNat, bytes, signature, keyId⟩
  have hid : row.networkId = networkId := rfl
  have hversion : row.version = network.configVersion := by
    have hbounded := hcounted.bounded
    unfold bigintLimit at hbounded
    exact UInt64.toNat_ofNat_of_lt' (by
      show network.configVersion < 2 ^ 64
      omega)
  have hassembled : assembleConfiguration p state tables networkId (network.metadata p) times = .ok _ :=
    bind_ok.mpr ⟨nodes, hnodes, rfl⟩
  rw [hpolicies, hroutes] at htext
  obtain ⟨hupToDate, hprefix⟩ := hcounted.upToDate_next hmoment hassembled htext hid hversion
  refine ⟨base, _, ⟨hfrozen.counts, hfrozen.base, ?_, ?_⟩, hupToDate, hprefix⟩
  · rw [view_append]
    exact hfrozen.tables.writeRow (.configurationVersion _)
  · intro write hmem
    rcases List.mem_append.mp hmem with hmem | hmem
    · exact hfrozen.tokens write hmem
    · cases List.mem_singleton.mp hmem
      trivial

end

end XsNexus
