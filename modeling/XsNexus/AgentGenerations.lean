import XsNexus.HonestAdvertisements
import XsNexus.PersistedCounters

namespace XsNexus

open ByteCodec Checks PersistedCounters

/-- Where `maintain_data_plane` is: between two calls, with an advertisement that it has taken or stored, or
past its last call. -/
inductive MaintenanceStage
  | idle
  | candidatesTaken (advertisement : CandidateAdvertisement)
  | candidatesStored (advertisement : CandidateAdvertisement)
  | routesTaken (advertisement : SubnetRouteAdvertisement)
  | routesStored (advertisement : SubnetRouteAdvertisement)
  | ended

/-- What the two tasks of a running agent share, and what only its maintenance has. -/
structure AgentProcess where
  candidates : CandidateManager
  routes : SubnetRouteDiscovery
  state : NodeState
  maintenance : MaintenanceStage
  candidateChannel : Option CandidateAdvertisement
  routeChannel : Option SubnetRouteAdvertisement

/-- The state file of an agent, its process while it runs and what has reached its control connections. -/
structure AgentHost where
  file : NodeState
  process : Option AgentProcess
  sentCandidates : List CandidateAdvertisement
  sentRoutes : List SubnetRouteAdvertisement

def AgentProcess.start (file : NodeState) (candidates : CandidateManager) (routes : SubnetRouteDiscovery) :
    AgentProcess where
  candidates := candidates
  routes := routes
  state := file
  maintenance := .idle
  candidateChannel := none
  routeChannel := none

/-- What the data plane does with its candidates between two advertisements. -/
inductive CandidateMove (c : Crypto) (manager : CandidateManager) : CandidateManager → Prop
  | forceRefresh (instantNow : Int) : CandidateMove c manager (manager.forceRefresh instantNow)
  | refresh (port : Option UInt16) (messages : Option (List AddressMessage)) (current : NodeState)
      (utcNow : Int) (reads : Nat → DiscoveryReads) (instantNow : Int) :
      CandidateMove c manager (manager.refresh c port messages current utcNow reads instantNow).2
  | handleDiscoveryResponse (source : SocketAddr) (datagram : Bytes) (utcNow : Int) :
      CandidateMove c manager (manager.handleDiscoveryResponse c source datagram utcNow).2

/-- One step of a host: a start or crash, a step of the maintenance task or one of the control task. The times
are any. -/
inductive AgentStep (c : Crypto) (f : Formats) (host : AgentHost) : AgentHost → Prop
  | start (identity : SigningKey) (interfaceName : String) (instantNow : Int) (candidates : CandidateManager)
      (routes : SubnetRouteDiscovery) (hdown : host.process = none)
      (hcandidates : CandidateManager.new c f host.file identity instantNow = .ok candidates)
      (hroutes : SubnetRouteDiscovery.new f host.file interfaceName instantNow = .ok routes) :
      AgentStep c f host { host with process := some (.start host.file candidates routes) }
  | crash : AgentStep c f host { host with process := none }
  | moveCandidates (process : AgentProcess) (candidates : CandidateManager) (hup : host.process = some process)
      (hidle : process.maintenance = .idle) (hmove : CandidateMove c process.candidates candidates) :
      AgentStep c f host { host with process := some { process with candidates := candidates } }
  | takeCandidates (process : AgentProcess) (now : Int) (advertisement : CandidateAdvertisement)
      (candidates : CandidateManager) (hup : host.process = some process) (hidle : process.maintenance = .idle)
      (htake : process.candidates.takeAdvertisement now = (some advertisement, candidates)) :
      AgentStep c f host { host with process := some { process with
        candidates := candidates
        maintenance := .candidatesTaken advertisement } }
  | storeCandidates (process : AgentProcess) (advertisement : CandidateAdvertisement)
      (hup : host.process = some process) (htaken : process.maintenance = .candidatesTaken advertisement) :
      AgentStep c f host { host with
        file := { process.state with candidateGeneration := advertisement.generation }
        process := some { process with
          state := { process.state with candidateGeneration := advertisement.generation }
          maintenance := .candidatesStored advertisement } }
  | storeCandidatesFails (process : AgentProcess) (advertisement : CandidateAdvertisement)
      (hup : host.process = some process) (htaken : process.maintenance = .candidatesTaken advertisement) :
      AgentStep c f host { host with process := some { process with
        state := { process.state with candidateGeneration := advertisement.generation }
        maintenance := .ended } }
  | offerCandidates (process : AgentProcess) (advertisement : CandidateAdvertisement)
      (hup : host.process = some process) (hstored : process.maintenance = .candidatesStored advertisement) :
      AgentStep c f host { host with process := some { process with
        candidateChannel := some advertisement
        maintenance := .idle } }
  | refreshRoutes (process : AgentProcess) (links : Option (List LinkMessage))
      (messages : Option (List RouteMessage)) (now instantNow : Int) (advertisement : SubnetRouteAdvertisement)
      (routes : SubnetRouteDiscovery) (hup : host.process = some process) (hidle : process.maintenance = .idle)
      (hrefresh : process.routes.refresh f links messages now instantNow = .ok (advertisement, routes)) :
      AgentStep c f host { host with process := some { process with
        routes := routes
        maintenance := .routesTaken advertisement } }
  | storeRoutes (process : AgentProcess) (advertisement : SubnetRouteAdvertisement)
      (hup : host.process = some process) (htaken : process.maintenance = .routesTaken advertisement) :
      AgentStep c f host { host with
        file := { process.state with subnetRouteGeneration := advertisement.generation }
        process := some { process with
          state := { process.state with subnetRouteGeneration := advertisement.generation }
          maintenance := .routesStored advertisement } }
  | storeRoutesFails (process : AgentProcess) (advertisement : SubnetRouteAdvertisement)
      (hup : host.process = some process) (htaken : process.maintenance = .routesTaken advertisement) :
      AgentStep c f host { host with process := some { process with
        state := { process.state with subnetRouteGeneration := advertisement.generation }
        maintenance := .ended } }
  | offerRoutes (process : AgentProcess) (advertisement : SubnetRouteAdvertisement)
      (hup : host.process = some process) (hstored : process.maintenance = .routesStored advertisement) :
      AgentStep c f host { host with process := some { process with
        routeChannel := some advertisement
        maintenance := .idle } }
  | maintenanceFails (process : AgentProcess) (hup : host.process = some process) :
      AgentStep c f host { host with process := some { process with maintenance := .ended } }
  | applyConfiguration (process : AgentProcess) (configuration : SignedConfiguration) (identity : SigningKey)
      (state : NodeState) (hup : host.process = some process)
      (happlied : process.state.applyConfiguration c f configuration identity = (.ok true, state)) :
      AgentStep c f host { host with file := state, process := some { process with state := state } }
  | applyConfigurationFails (process : AgentProcess) (configuration : SignedConfiguration)
      (identity : SigningKey) (state : NodeState) (hup : host.process = some process)
      (happlied : process.state.applyConfiguration c f configuration identity = (.ok true, state)) :
      AgentStep c f host { host with process := some { process with state := state } }
  | sendCandidates (process : AgentProcess) (advertisement : CandidateAdvertisement)
      (hup : host.process = some process) (hoffered : process.candidateChannel = some advertisement) :
      AgentStep c f host { host with sentCandidates := host.sentCandidates ++ [advertisement] }
  | sendRoutes (process : AgentProcess) (advertisement : SubnetRouteAdvertisement)
      (hup : host.process = some process) (hoffered : process.routeChannel = some advertisement) :
      AgentStep c f host { host with sentRoutes := host.sentRoutes ++ [advertisement] }

/-- What comes of a host that has sent nothing, with whatever state file. -/
def AgentRun (c : Crypto) (f : Formats) (file : NodeState) (host : AgentHost) : Prop :=
  Relation.ReflTransGen (AgentStep c f) ⟨file, none, [], []⟩ host

def candidateNumber (advertisement : CandidateAdvertisement) : Nat := advertisement.generation.toNat

def routeNumber (advertisement : SubnetRouteAdvertisement) : Nat := advertisement.generation.toNat

def topGeneration : Nat := 2 ^ 64 - 1

def MaintenanceStage.candidates : MaintenanceStage → Stage CandidateAdvertisement
  | .candidatesTaken advertisement => .taken advertisement
  | .candidatesStored advertisement => .stored advertisement
  | _ => .idle

def MaintenanceStage.routes : MaintenanceStage → Stage SubnetRouteAdvertisement
  | .routesTaken advertisement => .taken advertisement
  | .routesStored advertisement => .stored advertisement
  | _ => .idle

/-- The host as the counter of its candidate advertisements -/
def AgentHost.candidateCounter (host : AgentHost) : Machine CandidateAdvertisement where
  disk := host.file.candidateGeneration.toNat
  memory := host.process.map fun process => {
    counter := process.candidates.generation.toNat
    shared := process.state.candidateGeneration.toNat
    stage := process.maintenance.candidates
    offered := process.candidateChannel }
  sent := host.sentCandidates

/-- The host as the counter of its route advertisements -/
def AgentHost.routeCounter (host : AgentHost) : Machine SubnetRouteAdvertisement where
  disk := host.file.subnetRouteGeneration.toNat
  memory := host.process.map fun process => {
    counter := process.routes.generation.toNat
    shared := process.state.subnetRouteGeneration.toNat
    stage := process.maintenance.routes
    offered := process.routeChannel }
  sent := host.sentRoutes

section Steps

variable {c : Crypto} {f : Formats}

theorem generation_of_new {state : NodeState} {identity : SigningKey} {instantNow : Int}
    {manager : CandidateManager} (h : CandidateManager.new c f state identity instantNow = .ok manager) :
    manager.generation = state.candidateGeneration := by
  obtain ⟨_, _, h⟩ := bind_ok.mp h
  split at h
  next => simp at h
  next =>
    obtain ⟨_, _, h⟩ := bind_ok.mp h
    obtain ⟨_, _, h⟩ := bind_ok.mp h
    cases h
    rfl

theorem generation_of_newRoutes {state : NodeState} {interfaceName : String} {instantNow : Int}
    {routes : SubnetRouteDiscovery} (h : SubnetRouteDiscovery.new f state interfaceName instantNow = .ok routes) :
    routes.generation = state.subnetRouteGeneration := by
  unfold SubnetRouteDiscovery.new at h
  split at h
  next => simp at h
  next =>
    cases h
    rfl

theorem sendRequests_generation (manager : CandidateManager) (targets : List (SocketAddr × DiscoveryReads)) :
    (manager.sendRequests c targets).2.generation = manager.generation := by
  induction targets generalizing manager with
  | nil => rfl
  | cons target targets ih =>
    obtain ⟨endpoint, reads⟩ := target
    unfold CandidateManager.sendRequests
    split
    next =>
      split
      next => rfl
      next =>
        dsimp only
        rw [ih]
        split <;> rfl
    next => rfl

theorem CandidateMove.generation {manager candidates : CandidateManager}
    (h : CandidateMove c manager candidates) : candidates.generation = manager.generation := by
  cases h with
  | forceRefresh instantNow => rfl
  | refresh port messages current utcNow reads instantNow =>
    unfold CandidateManager.refresh
    split
    next port messages =>
      dsimp only
      split
      next heq =>
        have hsent := congrArg (fun result => result.2.generation) heq
        rw [sendRequests_generation] at hsent
        exact hsent.symm
      next heq =>
        have hsent := congrArg (fun result => result.2.generation) heq
        rw [sendRequests_generation] at hsent
        exact hsent.symm
    next => rfl
  | handleDiscoveryResponse source datagram utcNow =>
    unfold CandidateManager.handleDiscoveryResponse
    dsimp only
    split
    next => rfl
    next => split <;> rfl

/-- The next generation is above the last one, wherever the clock is. -/
theorem le_nextGeneration (generation clock : UInt64) :
    min (generation.toNat + 1) topGeneration ≤
      (max (MachineWords.u64SaturatingAdd generation 1) clock).toNat := by
  have hsum : (MachineWords.u64SaturatingAdd generation 1).toNat = min (generation.toNat + 1) (2 ^ 64 - 1) :=
    MachineWords.toNat_u64SaturatingAdd generation 1
  have htop : topGeneration = 2 ^ 64 - 1 := rfl
  have hmax : max (MachineWords.u64SaturatingAdd generation 1) clock =
      if MachineWords.u64SaturatingAdd generation 1 ≤ clock then clock
      else MachineWords.u64SaturatingAdd generation 1 := rfl
  rw [hmax]
  split
  next hle =>
    have hclock := UInt64.le_iff_toNat_le.mp hle
    omega
  next => omega

theorem takeAdvertisement_above {manager manager' : CandidateManager} {now : Int}
    {advertisement : CandidateAdvertisement}
    (h : manager.takeAdvertisement now = (some advertisement, manager')) :
    manager'.generation = advertisement.generation ∧
      Above candidateNumber topGeneration manager.generation.toNat advertisement := by
  unfold CandidateManager.takeAdvertisement at h
  split at h
  next => simp at h
  next =>
    cases h
    refine ⟨rfl, ?_⟩
    have hnext := le_nextGeneration manager.generation (CandidateManager.clockGeneration now)
    have hlt := manager.generation.toNat_lt
    unfold Above candidateNumber topGeneration at *
    dsimp only
    omega

theorem refresh_above {routes routes' : SubnetRouteDiscovery} {links : Option (List LinkMessage)}
    {messages : Option (List RouteMessage)} {now instantNow : Int} {advertisement : SubnetRouteAdvertisement}
    (h : routes.refresh f links messages now instantNow = .ok (advertisement, routes')) :
    routes'.generation = advertisement.generation ∧
      Above routeNumber topGeneration routes.generation.toNat advertisement := by
  obtain ⟨_, _, h⟩ := bind_ok.mp h
  obtain ⟨_, _, h⟩ := bind_ok.mp h
  obtain ⟨_, _, h⟩ := bind_ok.mp h
  cases h
  refine ⟨rfl, ?_⟩
  have hnext := le_nextGeneration routes.generation (CandidateManager.clockGeneration now)
  have hlt := routes.generation.toNat_lt
  unfold Above routeNumber topGeneration at *
  dsimp only
  omega

theorem applyConfiguration_generations {state state' : NodeState} {configuration : SignedConfiguration}
    {identity : SigningKey} (h : state.applyConfiguration c f configuration identity = (.ok true, state')) :
    state'.candidateGeneration = state.candidateGeneration ∧
      state'.subnetRouteGeneration = state.subnetRouteGeneration := by
  unfold NodeState.applyConfiguration at h
  split at h
  next => simp at h
  next =>
    split at h
    next => simp at h
    next =>
      split at h
      next => simp at h
      next =>
        cases h
        exact ⟨rfl, rfl⟩

/-- Every step of a host is one of the counter of its candidates. -/
theorem candidateCounter_step {host host' : AgentHost} (h : AgentStep c f host host') :
    Step candidateNumber topGeneration host.candidateCounter host'.candidateCounter := by
  obtain ⟨file, process, sentCandidates, sentRoutes⟩ := host
  cases h with
  | start identity interfaceName instantNow candidates routes hdown hcandidates hroutes =>
    cases hdown
    simp only [AgentHost.candidateCounter, AgentProcess.start, Option.map_some, Option.map_none,
      generation_of_new hcandidates]
    exact .start _ _
  | crash => exact .crash _ _ _
  | moveCandidates process candidates hup hidle hmove =>
    cases hup
    simp only [AgentHost.candidateCounter, Option.map_some, hmove.generation]
    exact .stay _
  | takeCandidates process now advertisement candidates hup hidle htake =>
    cases hup
    obtain ⟨hgeneration, habove⟩ := takeAdvertisement_above htake
    simp only [AgentHost.candidateCounter, Option.map_some, hidle, hgeneration]
    exact .take _ _ _ _ _ _ habove
  | storeCandidates process advertisement hup htaken =>
    cases hup
    simp only [AgentHost.candidateCounter, Option.map_some, htaken]
    exact .store _ _ _ _ _ _
  | storeCandidatesFails process advertisement hup htaken =>
    cases hup
    simp only [AgentHost.candidateCounter, Option.map_some, htaken]
    exact .fail _ _ _ _ _ _
  | offerCandidates process advertisement hup hstored =>
    cases hup
    simp only [AgentHost.candidateCounter, Option.map_some, hstored]
    exact .offer _ _ _ _ _ _
  | refreshRoutes process links messages now instantNow advertisement routes hup hidle hrefresh =>
    cases hup
    simp only [AgentHost.candidateCounter, Option.map_some, hidle]
    exact .stay _
  | storeRoutes process advertisement hup htaken =>
    cases hup
    simp only [AgentHost.candidateCounter, Option.map_some, htaken]
    exact .write _ _ _ _ _ _
  | storeRoutesFails process advertisement hup htaken =>
    cases hup
    simp only [AgentHost.candidateCounter, Option.map_some, htaken]
    exact .stay _
  | offerRoutes process advertisement hup hstored =>
    cases hup
    simp only [AgentHost.candidateCounter, Option.map_some, hstored]
    exact .stay _
  | maintenanceFails process hup =>
    cases hup
    exact .drop _ _ _ _ _ _
  | applyConfiguration process configuration identity state hup happlied =>
    cases hup
    obtain ⟨hgeneration, _⟩ := applyConfiguration_generations happlied
    simp only [AgentHost.candidateCounter, Option.map_some, hgeneration]
    exact .write _ _ _ _ _ _
  | applyConfigurationFails process configuration identity state hup happlied =>
    cases hup
    obtain ⟨hgeneration, _⟩ := applyConfiguration_generations happlied
    simp only [AgentHost.candidateCounter, Option.map_some, hgeneration]
    exact .stay _
  | sendCandidates process advertisement hup hoffered =>
    cases hup
    simp only [AgentHost.candidateCounter, Option.map_some, hoffered]
    exact .send _ _ _ _ _ _
  | sendRoutes process advertisement hup hoffered =>
    cases hup
    exact .stay _

/-- Every step of a host is one of the counter of its routes. -/
theorem routeCounter_step {host host' : AgentHost} (h : AgentStep c f host host') :
    Step routeNumber topGeneration host.routeCounter host'.routeCounter := by
  obtain ⟨file, process, sentCandidates, sentRoutes⟩ := host
  cases h with
  | start identity interfaceName instantNow candidates routes hdown hcandidates hroutes =>
    cases hdown
    simp only [AgentHost.routeCounter, AgentProcess.start, Option.map_some, Option.map_none,
      generation_of_newRoutes hroutes]
    exact .start _ _
  | crash => exact .crash _ _ _
  | moveCandidates process candidates hup hidle hmove =>
    cases hup
    exact .stay _
  | takeCandidates process now advertisement candidates hup hidle htake =>
    cases hup
    simp only [AgentHost.routeCounter, Option.map_some, hidle]
    exact .stay _
  | storeCandidates process advertisement hup htaken =>
    cases hup
    simp only [AgentHost.routeCounter, Option.map_some, htaken]
    exact .write _ _ _ _ _ _
  | storeCandidatesFails process advertisement hup htaken =>
    cases hup
    simp only [AgentHost.routeCounter, Option.map_some, htaken]
    exact .stay _
  | offerCandidates process advertisement hup hstored =>
    cases hup
    simp only [AgentHost.routeCounter, Option.map_some, hstored]
    exact .stay _
  | refreshRoutes process links messages now instantNow advertisement routes hup hidle hrefresh =>
    cases hup
    obtain ⟨hgeneration, habove⟩ := refresh_above hrefresh
    simp only [AgentHost.routeCounter, Option.map_some, hidle, hgeneration]
    exact .take _ _ _ _ _ _ habove
  | storeRoutes process advertisement hup htaken =>
    cases hup
    simp only [AgentHost.routeCounter, Option.map_some, htaken]
    exact .store _ _ _ _ _ _
  | storeRoutesFails process advertisement hup htaken =>
    cases hup
    simp only [AgentHost.routeCounter, Option.map_some, htaken]
    exact .fail _ _ _ _ _ _
  | offerRoutes process advertisement hup hstored =>
    cases hup
    simp only [AgentHost.routeCounter, Option.map_some, hstored]
    exact .offer _ _ _ _ _ _
  | maintenanceFails process hup =>
    cases hup
    exact .drop _ _ _ _ _ _
  | applyConfiguration process configuration identity state hup happlied =>
    cases hup
    obtain ⟨_, hgeneration⟩ := applyConfiguration_generations happlied
    simp only [AgentHost.routeCounter, Option.map_some, hgeneration]
    exact .write _ _ _ _ _ _
  | applyConfigurationFails process configuration identity state hup happlied =>
    cases hup
    obtain ⟨_, hgeneration⟩ := applyConfiguration_generations happlied
    simp only [AgentHost.routeCounter, Option.map_some, hgeneration]
    exact .stay _
  | sendCandidates process advertisement hup hoffered =>
    cases hup
    exact .stay _
  | sendRoutes process advertisement hup hoffered =>
    cases hup
    simp only [AgentHost.routeCounter, Option.map_some, hoffered]
    exact .send _ _ _ _ _ _

/-- The candidate advertisements of a run have larger and larger generations, or are the last one again. -/
theorem candidates_increase {file : NodeState} {host : AgentHost} (h : AgentRun c f file host)
    (hbound : ∀ advertisement ∈ host.sentCandidates, advertisement.generation.toNat < 2 ^ 63) :
    host.sentCandidates.Pairwise fun earlier later => earlier ≠ later → earlier.generation < later.generation := by
  have hrun := h.lift AgentHost.candidateCounter fun _ _ => candidateCounter_step
  refine (increasing_of_run hrun fun advertisement hsent => ?_).imp fun hlt hne => UInt64.lt_iff_toNat_lt.mpr (hlt hne)
  exact (hbound advertisement hsent).trans (by decide)

/-- The route advertisements of a run have larger and larger generations, or are the last one again. -/
theorem routes_increase {file : NodeState} {host : AgentHost} (h : AgentRun c f file host)
    (hbound : ∀ advertisement ∈ host.sentRoutes, advertisement.generation.toNat < 2 ^ 63) :
    host.sentRoutes.Pairwise fun earlier later => earlier ≠ later → earlier.generation < later.generation := by
  have hrun := h.lift AgentHost.routeCounter fun _ _ => routeCounter_step
  refine (increasing_of_run hrun fun advertisement hsent => ?_).imp fun hlt hne => UInt64.lt_iff_toNat_lt.mpr (hlt hne)
  exact (hbound advertisement hsent).trans (by decide)

end Steps

/-- What the controller has stored of a node after some of its advertisements have come, with those of the
other nodes in between. -/
inductive StoredAfter {α : Type} (row : α → AdvertisementRow) (databaseId : Uuid) :
    List α → List AdvertisementRow → Prop
  | none (rows : List AdvertisementRow) (h : ∀ stored ∈ rows, stored.nodeId ≠ databaseId) :
      StoredAfter row databaseId [] rows
  | other (received : List α) (rows : List AdvertisementRow) (stored : AdvertisementRow)
      (h : StoredAfter row databaseId received rows) (hnode : stored.nodeId ≠ databaseId) :
      StoredAfter row databaseId received (upsertAdvertisement rows stored)
  | refused (received : List α) (rows : List AdvertisementRow) (a : α)
      (h : StoredAfter row databaseId received rows) : StoredAfter row databaseId (received ++ [a]) rows
  | accepted (received : List α) (rows : List AdvertisementRow) (a : α)
      (h : StoredAfter row databaseId received rows)
      (hnew : advertisementIsDuplicate rows databaseId (row a).generation (row a).payload (row a).signature =
        .ok false) :
      StoredAfter row databaseId (received ++ [a]) (upsertAdvertisement rows (row a))

theorem StoredAfter.stored {α : Type} {row : α → AdvertisementRow} {databaseId : Uuid} {received : List α}
    {rows : List AdvertisementRow} (h : StoredAfter row databaseId received rows) :
    ∀ stored ∈ rows, stored.nodeId = databaseId → ∃ a ∈ received, stored = row a := by
  induction h with
  | none rows h => exact fun stored hstored hnode => absurd hnode (h stored hstored)
  | other received rows added h hnode ih =>
    intro stored hstored hid
    rcases mem_upsertAdvertisement hstored with rfl | hold
    · exact absurd hid hnode
    · exact ih stored hold hid
  | refused received rows a h ih =>
    intro stored hstored hid
    obtain ⟨b, hb, hrow⟩ := ih stored hstored hid
    exact ⟨b, List.mem_append_left _ hb, hrow⟩
  | accepted received rows a h hnew ih =>
    intro stored hstored hid
    rcases mem_upsertAdvertisement hstored with rfl | hold
    · exact ⟨a, List.mem_append_right _ List.mem_cons_self, rfl⟩
    · obtain ⟨b, hb, hrow⟩ := ih stored hold hid
      exact ⟨b, List.mem_append_left _ hb, hrow⟩

/-- What has come in order is never taken for stale. -/
theorem StoredAfter.fresh {α : Type} {row : α → AdvertisementRow} {databaseId : Uuid} {received : List α}
    {rows : List AdvertisementRow} (h : StoredAfter row databaseId received rows) {a : α}
    (hordered : (received ++ [a]).Pairwise fun earlier later =>
      earlier ≠ later → (row earlier).generation < (row later).generation) :
    advertisementIsDuplicate rows databaseId (row a).generation (row a).payload (row a).signature ≠
      .error .conflict := by
  unfold advertisementIsDuplicate
  split
  next => simp
  next current hcurrent =>
    have hid : current.nodeId = databaseId := by simpa using List.find?_some hcurrent
    obtain ⟨b, hb, rfl⟩ := h.stored current (List.mem_of_find?_eq_some hcurrent) hid
    by_cases hsame : b = a
    · rw [hsame]
      simp
    · have hlt := (List.pairwise_append.mp hordered).2.2 b hb a List.mem_cons_self hsame
      rw [UInt64.lt_iff_toNat_lt] at hlt
      have hnot : ¬(row b).generation ≥ (row a).generation := by
        rw [ge_iff_le, UInt64.le_iff_toNat_le]
        omega
      simp [hnot]

/-- The row that the controller stores for a candidate advertisement of the node. -/
def candidateRow (p : Platform) (identity : SigningKey) (databaseId : Uuid)
    (advertisement : CandidateAdvertisement) : AdvertisementRow :=
  let payload := (p.candidateAdvertisementText advertisement).getD []
  { nodeId := databaseId
    networkId := advertisement.networkId
    generation := advertisement.generation
    payload := payload
    signature := p.crypto.sign identity (candidateAdvertisementDomain ++ payload)
    expiresAt := timestamptz advertisement.expiresAt }

/-- The row that the controller stores for a route advertisement of the node. -/
def routeRow (p : Platform) (identity : SigningKey) (databaseId : Uuid)
    (advertisement : SubnetRouteAdvertisement) : AdvertisementRow :=
  let payload := (p.subnetRouteAdvertisementText advertisement).getD []
  { nodeId := databaseId
    networkId := advertisement.networkId
    generation := advertisement.generation
    payload := payload
    signature := p.crypto.sign identity (subnetRouteAdvertisementDomain ++ payload)
    expiresAt := timestamptz advertisement.expiresAt }

/-- Crashes, clocks that jump and the writes of the control task never make an agent use a generation twice or
a smaller one later, so the controller takes nothing of it for stale. -/
theorem advertisement_generations_increase {p : Platform} (identity : SigningKey) {file : NodeState}
    {host : AgentHost} (h : AgentRun p.crypto p.formats file host)
    (hcandidates : ∀ advertisement ∈ host.sentCandidates, advertisement.generation.toNat < 2 ^ 63)
    (hroutes : ∀ advertisement ∈ host.sentRoutes, advertisement.generation.toNat < 2 ^ 63) :
    (host.sentCandidates.Pairwise fun earlier later =>
        earlier ≠ later → earlier.generation < later.generation) ∧
      (host.sentRoutes.Pairwise fun earlier later => earlier ≠ later → earlier.generation < later.generation) ∧
      (∀ databaseId received advertisement rows, (received ++ [advertisement]).Sublist host.sentCandidates →
        StoredAfter (candidateRow p identity databaseId) databaseId received rows →
        advertisementIsDuplicate rows databaseId advertisement.generation
          (candidateRow p identity databaseId advertisement).payload
          (candidateRow p identity databaseId advertisement).signature ≠ .error .conflict) ∧
      ∀ databaseId received advertisement rows, (received ++ [advertisement]).Sublist host.sentRoutes →
        StoredAfter (routeRow p identity databaseId) databaseId received rows →
        advertisementIsDuplicate rows databaseId advertisement.generation
          (routeRow p identity databaseId advertisement).payload
          (routeRow p identity databaseId advertisement).signature ≠ .error .conflict := by
  have hcandidatesIncrease := candidates_increase h hcandidates
  have hroutesIncrease := routes_increase h hroutes
  refine ⟨hcandidatesIncrease, hroutesIncrease, ?_, ?_⟩
  · intro databaseId received advertisement rows hsublist hstored
    exact hstored.fresh (hcandidatesIncrease.sublist hsublist)
  · intro databaseId received advertisement rows hsublist hstored
    exact hstored.fresh (hroutesIncrease.sublist hsublist)

/-- An agent that starts, advertises its candidates once and is killed. -/
theorem advertised_once {c : Crypto} {f : Formats} {file start : NodeState} {host : AgentHost}
    (h : AgentRun c f start host) (hfile : host.file = file) (hdown : host.process = none)
    {identity : SigningKey} {interfaceName : String} {instantNow now : Int} {candidates : CandidateManager}
    {routes : SubnetRouteDiscovery}
    (hcandidates : CandidateManager.new c f file identity instantNow = .ok candidates)
    (hroutes : SubnetRouteDiscovery.new f file interfaceName instantNow = .ok routes)
    {advertisement : CandidateAdvertisement} {candidates' : CandidateManager}
    (htake : candidates.takeAdvertisement now = (some advertisement, candidates')) :
    AgentRun c f start ⟨{ file with candidateGeneration := advertisement.generation }, none,
      host.sentCandidates ++ [advertisement], host.sentRoutes⟩ := by
  obtain ⟨_, _, sentCandidates, sentRoutes⟩ := host
  cases hfile
  cases hdown
  have hstarted := h.tail (.start identity interfaceName instantNow candidates routes rfl hcandidates hroutes)
  have htaken := hstarted.tail (.takeCandidates _ now advertisement candidates' rfl rfl htake)
  have hstored := htaken.tail (.storeCandidates _ advertisement rfl rfl)
  have hoffered := hstored.tail (.offerCandidates _ advertisement rfl rfl)
  have hsent := hoffered.tail (.sendCandidates _ advertisement rfl rfl)
  exact hsent.tail .crash

/-- What the sample agent takes when it starts with a generation at a time. -/
def sampleTaken (generation : UInt64) (now : Int) : Option CandidateAdvertisement :=
  match CandidateManager.new .transparent sampleFormats { sampleNodeState with candidateGeneration := generation }
      sampleIdentityKey 0, SubnetRouteDiscovery.new sampleFormats
      { sampleNodeState with candidateGeneration := generation } "xsn0" 0 with
  | .ok candidates, .ok _ => (candidates.takeAdvertisement now).1
  | _, _ => none

theorem sampleTaken_run {generation : UInt64} {now : Int} {advertisement : CandidateAdvertisement}
    (h : sampleTaken generation now = some advertisement) {host : AgentHost}
    (hrun : AgentRun .transparent sampleFormats sampleNodeState host)
    (hfile : host.file = { sampleNodeState with candidateGeneration := generation }) (hdown : host.process = none) :
    AgentRun .transparent sampleFormats sampleNodeState
      ⟨{ sampleNodeState with candidateGeneration := advertisement.generation }, none,
        host.sentCandidates ++ [advertisement], host.sentRoutes⟩ := by
  unfold sampleTaken at h
  split at h
  next candidates routes hcandidates hroutes =>
    exact advertised_once hrun hfile hdown hcandidates hroutes (Prod.ext h rfl)
  next => simp at h

/-- After a crash the clock has gone back by three years. -/
theorem sampleTaken_twice : ∃ first second, sampleTaken 0 (seconds 1700000300) = some first ∧
    sampleTaken first.generation (seconds 1600000000) = some second ∧ first ≠ second ∧
    first.generation.toNat < 2 ^ 63 ∧ second.generation.toNat < 2 ^ 63 := by
  have hrun : (match sampleTaken 0 (seconds 1700000300) with
      | none => false
      | some first =>
        match sampleTaken first.generation (seconds 1600000000) with
        | none => false
        | some second => decide (first ≠ second ∧ first.generation.toNat < 2 ^ 63 ∧
            second.generation.toNat < 2 ^ 63)) = true := by decide +kernel
  split at hrun
  next => simp at hrun
  next first hfirst =>
    split at hrun
    next => simp at hrun
    next second hsecond =>
      obtain ⟨hne, hsmall, hsmall'⟩ := of_decide_eq_true hrun
      exact ⟨first, second, hfirst, hsecond, hne, hsmall, hsmall'⟩

theorem advertisement_generations_sample :
    ∃ first second, sampleTaken 0 (seconds 1700000300) = some first ∧
      sampleTaken first.generation (seconds 1600000000) = some second ∧ first.generation < second.generation := by
  obtain ⟨first, second, hfirst, hsecond, hne, hsmall, hsmall'⟩ := sampleTaken_twice
  have hstart : AgentRun samplePlatform.crypto sampleFormats sampleNodeState ⟨sampleNodeState, none, [], []⟩ :=
    Relation.ReflTransGen.refl
  have hrun := sampleTaken_run hsecond (sampleTaken_run hfirst hstart rfl rfl) rfl rfl
  have hbound : ∀ advertisement ∈ [first, second], advertisement.generation.toNat < 2 ^ 63 := by
    intro advertisement hsent
    rcases List.mem_cons.mp hsent with rfl | hsent
    · exact hsmall
    · rw [List.mem_singleton.mp hsent]
      exact hsmall'
  obtain ⟨hincrease, _⟩ := @advertisement_generations_increase { samplePlatform with formats := sampleFormats }
    sampleIdentityKey _ _ hrun hbound (by simp)
  exact ⟨first, second, hfirst, hsecond, List.rel_of_pairwise_cons hincrease List.mem_cons_self hne⟩

end XsNexus
