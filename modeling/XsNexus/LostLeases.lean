import XsNexus.ApplicableConfiguration
import XsNexus.PeerUpkeep
import XsNexus.RelayUpkeep
import XsNexus.Runs

namespace XsNexus

open ByteCodec Checks FiniteMap MachineWords Runs

inductive RelayManagerOp
  | wrap (endpoint : SocketAddr) (destinationNodeId : Block 16) (payload : Bytes) (now : UInt64)
      (utcNow : Int)
  | handleDatagram (source : SocketAddr) (datagram : Bytes) (now : Nat) (unixNow : UInt64)
  | authenticateActivity (endpoint : SocketAddr) (now : Nat)
  | maintain (now : Nat) (unixNow : UInt64) (reads : SocketAddr → RelayReads)
  | applyConfiguration (state : NodeState) (now : Nat) (utcNow : Int)

inductive RelayManagerOutput
  | wrapped (outcome : Except AgentError (Option Bytes))
  | inbound (inbound : RelayInbound)
  | done
  | maintained (outcome : Except AgentError RelayMaintenance)
  | applied (outcome : Except AgentError (List SocketAddr))

def RelayManagerOutput.failedEndpoints : RelayManagerOutput → List SocketAddr
  | .maintained (.ok maintenance) => maintenance.failedEndpoints
  | .applied (.ok failed) => failed
  | _ => []

instance : DecidableEq RelayManager := fun left right =>
  decidable_of_iff (left.networkId = right.networkId ∧ left.nodeId = right.nodeId ∧
    left.credential = right.credential ∧ left.identity = right.identity ∧
    left.clients.entries = right.clients.entries) (by
  obtain ⟨_, _, _, _, _⟩ := left
  obtain ⟨_, _, _, _, _⟩ := right
  simp [AList.ext_iff])

namespace RelayManager

def step (c : Crypto) (f : Formats) (manager : RelayManager) : RelayManagerOp → RelayManagerOutput × RelayManager
  | .wrap endpoint destinationNodeId payload now utcNow =>
    Prod.map .wrapped id (manager.wrap endpoint destinationNodeId payload now utcNow)
  | .handleDatagram source datagram now unixNow =>
    Prod.map .inbound id (manager.handleDatagram c source datagram now unixNow)
  | .authenticateActivity endpoint now => (.done, manager.authenticateActivity endpoint now)
  | .maintain now unixNow reads =>
    Prod.map .maintained id (manager.maintain c now unixNow reads)
  | .applyConfiguration state now utcNow =>
    Prod.map .applied id (manager.applyConfiguration c f state now utcNow)

def leased (manager : RelayManager) (endpoint : SocketAddr) : Bool :=
  (manager.clients.lookup endpoint).any fun client => client.lease.isSome

/-- The lease of the relay at the endpoint is there before the operation and gone after it. -/
def Loses (c : Crypto) (f : Formats) (manager : RelayManager) (op : RelayManagerOp) (endpoint : SocketAddr) :
    Prop :=
  manager.leased endpoint = true ∧ (manager.step c f op).2.leased endpoint = false

/-- The next call of `maintain` names the endpoint, once there is one. -/
def ReportedNext (c : Crypto) (f : Formats) (endpoint : SocketAddr) :
    RelayManager → List RelayManagerOp → Prop
  | _, [] => True
  | manager, op :: ops =>
    match op with
    | .maintain .. => endpoint ∈ (manager.step c f op).1.failedEndpoints
    | _ => ReportedNext c f endpoint (manager.step c f op).2 ops

/-- Every lease lost on the way is reported, by the operation that lost it or by the next `maintain`. -/
def LossesReported (c : Crypto) (f : Formats) : RelayManager → List RelayManagerOp → Prop
  | _, [] => True
  | manager, op :: ops =>
    (∀ endpoint, manager.Loses c f op endpoint →
      endpoint ∈ (manager.step c f op).1.failedEndpoints ∨
        ReportedNext c f endpoint (manager.step c f op).2 ops) ∧
      LossesReported c f (manager.step c f op).2 ops

/-- Nothing is sent through a relay whose lease or whose place in the configuration has expired, and
maintenance has its random numbers and sequence numbers. -/
def NoticesExpiry (manager : RelayManager) : RelayManagerOp → Prop
  | .wrap endpoint _ _ now utcNow =>
    ∀ client lease, manager.clients.lookup (normalizeEndpoint endpoint) = some client →
      client.lease = some lease → now < lease.expiresAt ∧ utcNow < client.configExpiresAt
  | .maintain _ _ reads =>
    ∀ endpoint client, manager.clients.lookup endpoint = some client →
      (∃ requestId, (reads endpoint).requestId = some requestId ∧ requestId ≠ zeros 16) ∧
        ∀ lease, client.lease = some lease → lease.nextSequence ≠ u64Max
  | _ => True

instance (manager : RelayManager) : (op : RelayManagerOp) → Decidable (manager.NoticesExpiry op)
  | .wrap endpoint _ _ now utcNow =>
    decidable_of_iff (((manager.clients.lookup (normalizeEndpoint endpoint)).all fun client =>
      client.lease.all fun lease => decide (now < lease.expiresAt ∧ utcNow < client.configExpiresAt)) =
        true) (by
      simp only [NoticesExpiry, Option.all_eq_true, decide_eq_true_eq]
      exact ⟨fun h client lease hc hl => h client hc lease hl,
        fun h client hc lease hl => h client lease hc hl⟩)
  | .maintain _ _ reads =>
    decidable_of_iff (∀ entry ∈ manager.clients.entries,
      (∃ requestId ∈ (reads entry.1).requestId, requestId ≠ zeros 16) ∧
        ∀ lease ∈ entry.2.lease, lease.nextSequence ≠ u64Max) (by
      constructor
      · intro h endpoint client hl
        exact h ⟨endpoint, client⟩ (lookup_eq_some.mp hl)
      · intro h entry hm
        exact h entry.1 entry.2 (lookup_eq_some.mpr hm))
  | .handleDatagram .. => isTrue trivial
  | .authenticateActivity .. => isTrue trivial
  | .applyConfiguration .. => isTrue trivial

instance (c : Crypto) (f : Formats) (manager : RelayManager) (op : RelayManagerOp) (endpoint : SocketAddr) :
    Decidable (manager.Loses c f op endpoint) :=
  inferInstanceAs (Decidable (_ ∧ _))

/-- Every relay is filed under its own endpoint. -/
def Keyed (manager : RelayManager) : Prop :=
  ∀ endpoint client, manager.clients.lookup endpoint = some client → client.endpoint = endpoint

end RelayManager

namespace RelayClient

theorem maintainPending_keeps (client : RelayClient) (now : Nat) :
    (client.maintainPending now).2.lease = client.lease ∧
      (client.maintainPending now).2.endpoint = client.endpoint := by
  unfold maintainPending
  split
  next => exact ⟨rfl, rfl⟩
  next =>
    split
    next => exact ⟨rfl, rfl⟩
    next =>
      dsimp only
      split
      next => exact ⟨rfl, rfl⟩
      next => exact ⟨rfl, rfl⟩

theorem beginRegistration_keeps {c : Crypto} {manager : RelayManager} {client client' : RelayClient}
    {now : Nat} {unixNow : UInt64} {requestId : Option (Block 16)} {encoded : Option Bytes}
    (h : client.beginRegistration c manager now unixNow requestId = .ok (encoded, client')) :
    client'.lease = client.lease ∧ client'.endpoint = client.endpoint := by
  unfold beginRegistration at h
  split at h
  next =>
    cases h
    exact ⟨rfl, rfl⟩
  next =>
    obtain ⟨_, _, h⟩ := bind_ok.mp h
    cases h
    exact ⟨rfl, rfl⟩

theorem maintainRegistration_keeps (c : Crypto) (manager : RelayManager) (client : RelayClient)
    (now : Nat) (unixNow : UInt64) (requestId : Option (Block 16)) :
    (client.maintainRegistration c manager now unixNow requestId).2.lease = client.lease ∧
      (client.maintainRegistration c manager now unixNow requestId).2.endpoint = client.endpoint := by
  unfold maintainRegistration
  split
  next =>
    split
    next => exact ⟨rfl, rfl⟩
    next h => exact beginRegistration_keeps h
  next => exact ⟨rfl, rfl⟩

theorem maintainKeepalive_keeps (manager : RelayManager) (client : RelayClient) (now : Nat) :
    (client.maintainKeepalive manager now).2.lease.isSome = client.lease.isSome ∧
      (client.maintainKeepalive manager now).2.endpoint = client.endpoint := by
  unfold maintainKeepalive
  split
  next => exact ⟨rfl, rfl⟩
  next hlease =>
    split
    next =>
      split
      next => exact ⟨rfl, rfl⟩
      next => exact ⟨by rw [hlease]; rfl, rfl⟩
    next => exact ⟨rfl, rfl⟩

/-- One round over a relay: its endpoint stays, failures are only added, and a lease that is gone
afterwards is among them. -/
theorem maintain_spec (c : Crypto) (manager : RelayManager) (now : Nat) (unixNow : UInt64)
    (reads : RelayReads) (client : RelayClient) (progress : RelayMaintenance) :
    (client.maintain c manager now unixNow reads progress).2.endpoint = client.endpoint ∧
      ∀ reached, (client.maintain c manager now unixNow reads progress).1 = .ok reached →
        progress.failedEndpoints ⊆ reached.failedEndpoints ∧
        (client.lease.isSome = true →
          (client.maintain c manager now unixNow reads progress).2.lease.isSome = false →
            client.endpoint ∈ reached.failedEndpoints) := by
  unfold maintain
  split
  next =>
    refine ⟨rfl, fun reached h => ?_⟩
    cases h
    refine ⟨List.subset_append_left _ _, fun hlease _ => ?_⟩
    rw [if_pos hlease]
    exact List.mem_append_right _ List.mem_cons_self
  next =>
    obtain ⟨client1, h1⟩ : ∃ client1 : RelayClient, client1 = (if client.leaseLost now unixNow then
      { client with lease := none, pending := none, nextRegistrationAt := now } else client) := ⟨_, rfl⟩
    have hkept : client1.endpoint = client.endpoint ∧
        (client.leaseLost now unixNow = false → client1.lease = client.lease) := by
      rw [h1]
      split
      next hlost => exact ⟨rfl, fun hnot => absurd (hlost.symm.trans hnot) (by decide)⟩
      next => exact ⟨rfl, fun _ => rfl⟩
    dsimp only
    rw [← h1]
    obtain ⟨hpl, hpe⟩ := maintainPending_keeps client1 now
    obtain ⟨hrl, hre⟩ := maintainRegistration_keeps c manager (client1.maintainPending now).2 now
      unixNow reads.requestId
    split
    next e registered heq =>
      rw [heq] at hre
      refine ⟨hre.trans (hpe.trans hkept.1), fun reached h => ?_⟩
      simp at h
    next registered client2 heq =>
      rw [heq] at hrl hre
      obtain ⟨hkl, hke⟩ := maintainKeepalive_keeps manager client2 now
      split
      next e client3 heq =>
        rw [heq] at hke
        refine ⟨hke.trans (hre.trans (hpe.trans hkept.1)), fun reached h => ?_⟩
        simp at h
      next kept client3 heq =>
        rw [heq] at hkl hke
        refine ⟨hke.trans (hre.trans (hpe.trans hkept.1)), fun reached h => ?_⟩
        cases h
        refine ⟨List.subset_append_left _ _, fun hlease hgone => ?_⟩
        by_cases hlost : client.leaseLost now unixNow = true
        · rw [if_pos hlost]
          exact List.mem_append_right _ List.mem_cons_self
        · have hsame := hkept.2 (Bool.eq_false_iff.mpr hlost)
          have hstill : client3.lease.isSome = true := by
            rw [hkl, hrl, hpl, hsame, hlease]
          rw [hstill] at hgone
          simp at hgone

/-- With a request identifier and a sequence number to spare, a round over a relay comes to its end. -/
theorem maintain_ok (c : Crypto) (manager : RelayManager) (now : Nat) (unixNow : UInt64)
    {reads : RelayReads} {client : RelayClient} (progress : RelayMaintenance)
    (hid : ∃ requestId, reads.requestId = some requestId ∧ requestId ≠ zeros 16)
    (hsequence : ∀ lease, client.lease = some lease → lease.nextSequence ≠ u64Max) :
    ∃ reached, (client.maintain c manager now unixNow reads progress).1 = .ok reached := by
  unfold maintain
  split
  next => exact ⟨_, rfl⟩
  next =>
    obtain ⟨client1, h1⟩ : ∃ client1 : RelayClient, client1 = (if client.leaseLost now unixNow then
      { client with lease := none, pending := none, nextRegistrationAt := now } else client) := ⟨_, rfl⟩
    have hkept : ∀ lease, client1.lease = some lease → lease.nextSequence ≠ u64Max := by
      rw [h1]
      split
      next => simp
      next => exact hsequence
    dsimp only
    rw [← h1]
    obtain ⟨hpl, _⟩ := maintainPending_keeps client1 now
    obtain ⟨hrl, _⟩ := maintainRegistration_keeps c manager (client1.maintainPending now).2 now
      unixNow reads.requestId
    split
    next e client2 heq =>
      exfalso
      obtain ⟨requestId, hread, hne⟩ := hid
      unfold maintainRegistration at heq
      split at heq
      next =>
        split at heq
        next herror =>
          unfold beginRegistration at herror
          split at herror
          next => simp at herror
          next =>
            rw [hread, drawRequestId, if_neg hne] at herror
            simp [bind, Except.bind] at herror
        next => simp at heq
      next => simp at heq
    next registered client2 heq =>
      rw [heq] at hrl
      split
      next e client3 heq =>
        exfalso
        unfold maintainKeepalive at heq
        split at heq
        next => simp at heq
        next lease hlease =>
          split at heq
          next =>
            split at heq
            next hmax =>
              have hlt : lease.nextSequence.toNat < 2 ^ 64 := lease.nextSequence.toNat_lt
              have hne := hkept lease (by rw [← hpl, ← hrl, hlease])
              unfold u64CheckedAdd at hmax
              split at hmax
              next => simp at hmax
              next hover =>
                apply hne
                apply UInt64.toNat_inj.mp
                have hone : (1 : UInt64).toNat = 1 := by decide
                have hlast : u64Max.toNat = 2 ^ 64 - 1 := by decide
                omega
            next => simp at heq
          next => simp at heq
      next => exact ⟨_, rfl⟩

end RelayClient

namespace RelayManager

theorem leased_iff {manager : RelayManager} {endpoint : SocketAddr} :
    manager.leased endpoint = true ↔
      ∃ client, manager.clients.lookup endpoint = some client ∧ client.lease.isSome = true := by
  unfold leased
  rw [Option.any_eq_true]

theorem Keyed.putClient {manager : RelayManager} (hk : manager.Keyed) {endpoint : SocketAddr}
    {client client' : RelayClient} (hl : manager.clients.lookup endpoint = some client)
    (he : client'.endpoint = client.endpoint) : (manager.putClient endpoint client').Keyed := by
  intro other after h
  unfold RelayManager.putClient at h
  dsimp only at h
  rw [lookup_insert_eq] at h
  split at h
  next heq =>
    cases Option.some.inj h
    rw [he, hk endpoint client hl, heq]
  next => exact hk other after h

theorem leased_putClient {manager : RelayManager} {endpoint other : SocketAddr}
    {client client' : RelayClient} (hl : manager.clients.lookup endpoint = some client)
    (hkeeps : client.lease.isSome = true → client'.lease.isSome = true)
    (h : manager.leased other = true) : (manager.putClient endpoint client').leased other = true := by
  obtain ⟨before, hb, hlease⟩ := leased_iff.mp h
  apply leased_iff.mpr
  unfold putClient
  dsimp only
  rw [lookup_insert_eq]
  by_cases heq : other = endpoint
  · subst heq
    cases hl.symm.trans hb
    exact ⟨client', if_pos rfl, hkeeps hlease⟩
  · exact ⟨before, by rw [if_neg heq, hb], hlease⟩

theorem handleRegisterResponse_keeps (c : Crypto) (manager : RelayManager) (client : RelayClient)
    (datagram : Bytes) (now : Nat) (unixNow : UInt64) :
    (manager.handleRegisterResponse c client datagram now unixNow).endpoint = client.endpoint ∧
      (client.lease.isSome = true →
        (manager.handleRegisterResponse c client datagram now unixNow).lease.isSome = true) := by
  unfold handleRegisterResponse
  split
  next => exact ⟨rfl, fun h => h⟩
  next =>
    split
    next => exact ⟨rfl, fun h => h⟩
    next => exact ⟨rfl, fun _ => rfl⟩

theorem handleKeepaliveResponse_keeps (c : Crypto) (manager : RelayManager) (client : RelayClient)
    (datagram : Bytes) (now : Nat) (unixNow : UInt64) :
    (manager.handleKeepaliveResponse c client datagram now unixNow).endpoint = client.endpoint ∧
      (client.lease.isSome = true →
        (manager.handleKeepaliveResponse c client datagram now unixNow).lease.isSome = true) := by
  unfold handleKeepaliveResponse
  split
  next => exact ⟨rfl, fun h => h⟩
  next =>
    split
    next => exact ⟨rfl, fun h => h⟩
    next => exact ⟨rfl, fun _ => rfl⟩

/-- What a datagram does to the relays: nothing, or one relay is rewritten and keeps its lease. -/
theorem handleDatagram_cases (c : Crypto) (manager : RelayManager) (source : SocketAddr)
    (datagram : Bytes) (now : Nat) (unixNow : UInt64) :
    (manager.handleDatagram c source datagram now unixNow).2 = manager ∨
    ∃ client client', manager.clients.lookup (normalizeEndpoint source) = some client ∧
      (manager.handleDatagram c source datagram now unixNow).2 =
        manager.putClient (normalizeEndpoint source) client' ∧
      client'.endpoint = client.endpoint ∧
      (client.lease.isSome = true → client'.lease.isSome = true) := by
  unfold handleDatagram
  split
  next => exact Or.inl rfl
  next client hl =>
    split
    next =>
      obtain ⟨he, hkeeps⟩ := handleRegisterResponse_keeps c manager client datagram now unixNow
      exact Or.inr ⟨client, _, hl, rfl, he, hkeeps⟩
    next =>
      split
      next =>
        obtain ⟨he, hkeeps⟩ := handleKeepaliveResponse_keeps c manager client datagram now unixNow
        exact Or.inr ⟨client, _, hl, rfl, he, hkeeps⟩
      next =>
        split
        next => exact Or.inl rfl
        next => exact Or.inl rfl

theorem authenticateActivity_cases (manager : RelayManager) (endpoint : SocketAddr) (now : Nat) :
    manager.authenticateActivity endpoint now = manager ∨
    ∃ client client', manager.clients.lookup (normalizeEndpoint endpoint) = some client ∧
      manager.authenticateActivity endpoint now =
        manager.putClient (normalizeEndpoint endpoint) client' ∧
      client'.endpoint = client.endpoint ∧
      (client.lease.isSome = true → client'.lease.isSome = true) := by
  unfold authenticateActivity
  split
  next => exact Or.inl rfl
  next client hl =>
    refine Or.inr ⟨client, _, hl, rfl, rfl, fun h => ?_⟩
    rw [Option.isSome_map]
    exact h

/-- Sending rewrites at most the lease of its relay; only an expired one goes. -/
theorem wrap_cases (manager : RelayManager) (endpoint : SocketAddr) (destinationNodeId : Block 16)
    (payload : Bytes) (now : UInt64) (utcNow : Int) :
    (manager.wrap endpoint destinationNodeId payload now utcNow).2 = manager ∨
    ∃ client lease client', manager.clients.lookup (normalizeEndpoint endpoint) = some client ∧
      client.lease = some lease ∧
      (manager.wrap endpoint destinationNodeId payload now utcNow).2 =
        manager.putClient (normalizeEndpoint endpoint) client' ∧
      client'.endpoint = client.endpoint ∧
      (client'.lease.isSome = true ∨ lease.expiresAt ≤ now ∨ client.configExpiresAt ≤ utcNow) := by
  unfold wrap
  split
  next => exact Or.inl rfl
  next client hl =>
    split
    next => exact Or.inl rfl
    next lease hlease =>
      split
      next hexpired => exact Or.inr ⟨client, lease, _, hl, hlease, rfl, rfl, Or.inr hexpired⟩
      next =>
        split
        next => exact Or.inl rfl
        next => exact Or.inr ⟨client, lease, _, hl, hlease, rfl, rfl, Or.inl rfl⟩

theorem lookup_insertRelayClients {c : Crypto} {f : Formats} {relays : List ConfigurationRelay}
    {now : Nat} {utcNow : Int} {progress reached : Map SocketAddr RelayClient × List (Block 16)}
    (h : relays.foldlM (insertRelayClient c f now utcNow) progress = .ok reached)
    {endpoint : SocketAddr} {client : RelayClient} (hl : reached.1.lookup endpoint = some client) :
    progress.1.lookup endpoint = some client ∨ ∃ relay ∈ relays,
      endpoint = normalizeEndpoint relay.endpoint ∧ client.endpoint = endpoint ∧
        client.relayId ≠ zeros 16 ∧ client.lease = none ∧ client.pending = none := by
  induction relays generalizing progress with
  | nil =>
    cases h
    exact Or.inl hl
  | cons relay relays ih =>
    rw [List.foldlM_cons] at h
    obtain ⟨middle, hstep, hrest⟩ := bind_ok.mp h
    rcases ih hrest with hmiddle | ⟨other, hmem, hother⟩
    · obtain ⟨relayId, _, hstep⟩ := bind_ok.mp hstep
      obtain ⟨key, _, hstep⟩ := bind_ok.mp hstep
      obtain ⟨hguard, hstep⟩ := guard_ok.mp hstep
      cases hstep
      simp only [not_or] at hguard
      dsimp only at hmiddle
      rw [lookup_insert_eq] at hmiddle
      split at hmiddle
      next heq =>
        cases Option.some.inj hmiddle
        exact Or.inr ⟨relay, List.mem_cons_self, heq, heq.symm, hguard.1, rfl, rfl⟩
      next => exact Or.inl hmiddle
    · exact Or.inr ⟨other, List.mem_cons_of_mem _ hmem, hother⟩

/-- Every client of a configuration is one of its relays, under its own endpoint, and holds nothing. -/
theorem mem_relayClients {c : Crypto} {f : Formats} {relays : List ConfigurationRelay} {now : Nat}
    {utcNow : Int} {clients : Map SocketAddr RelayClient}
    (h : relayClients c f relays now utcNow = .ok clients) {endpoint : SocketAddr}
    {client : RelayClient} (hl : clients.lookup endpoint = some client) :
    ∃ relay ∈ relays, endpoint = normalizeEndpoint relay.endpoint ∧ client.endpoint = endpoint ∧
      client.relayId ≠ zeros 16 ∧ client.lease = none ∧ client.pending = none := by
  obtain ⟨_, h⟩ := guard_ok.mp h
  obtain ⟨reached, hfold, h⟩ := bind_ok.mp h
  cases h
  exact (lookup_insertRelayClients hfold hl).resolve_left (by simp)

theorem keyed_relayClients {c : Crypto} {f : Formats} {relays : List ConfigurationRelay} {now : Nat}
    {utcNow : Int} {clients : Map SocketAddr RelayClient}
    (h : relayClients c f relays now utcNow = .ok clients) {endpoint : SocketAddr}
    {client : RelayClient} (hl : clients.lookup endpoint = some client) :
    client.endpoint = endpoint := by
  obtain ⟨_, _, _, hkey, _⟩ := mem_relayClients h hl
  exact hkey

theorem keyed_new {c : Crypto} {f : Formats} {state : NodeState} {networkId nodeId : Block 16}
    {credential : Block 200} {identity : SigningKey} {now : Nat} {utcNow : Int}
    {manager : RelayManager}
    (h : RelayManager.new c f state networkId nodeId credential identity now utcNow = .ok manager) :
    manager.Keyed := by
  obtain ⟨clients, hclients, h⟩ := bind_ok.mp h
  cases h
  intro endpoint client hl
  exact keyed_relayClients hclients hl

theorem keepLease_endpoint (client : RelayClient) (existing : Option RelayClient) :
    (keepLease client existing).endpoint = client.endpoint := by
  unfold keepLease
  split
  next => rfl
  next => split <;> rfl

theorem Keyed.maintain {manager : RelayManager} (hk : manager.Keyed) (c : Crypto) (now : Nat)
    (unixNow : UInt64) (reads : SocketAddr → RelayReads) :
    (manager.maintain c now unixNow reads).2.Keyed := by
  intro endpoint client h
  obtain ⟨before, hb, hw⟩ := lookup_visit h
  have hkey := hk endpoint before hb
  rcases hw with rfl | ⟨reached, rfl⟩
  · exact hkey
  · rw [(RelayClient.maintain_spec c manager now unixNow (reads endpoint) before reached).1, hkey]

theorem Keyed.applyConfiguration {manager : RelayManager} (hk : manager.Keyed) (c : Crypto)
    (f : Formats) (state : NodeState) (now : Nat) (utcNow : Int) :
    (manager.applyConfiguration c f state now utcNow).2.Keyed := by
  unfold RelayManager.applyConfiguration
  split
  next => exact hk
  next desired hdesired =>
    intro endpoint client h
    dsimp only at h
    rw [lookup_mapWithKey, Option.map_eq_some_iff] at h
    obtain ⟨wanted, hw, rfl⟩ := h
    rw [keepLease_endpoint]
    exact keyed_relayClients hdesired hw

theorem Keyed.step {manager : RelayManager} (hk : manager.Keyed) (c : Crypto) (f : Formats)
    (op : RelayManagerOp) : (manager.step c f op).2.Keyed := by
  cases op with
  | wrap endpoint destinationNodeId payload now utcNow =>
    rcases wrap_cases manager endpoint destinationNodeId payload now utcNow with
      h | ⟨client, lease, client', hl, _, h, he, _⟩
    · show (manager.wrap endpoint destinationNodeId payload now utcNow).2.Keyed
      rw [h]
      exact hk
    · show (manager.wrap endpoint destinationNodeId payload now utcNow).2.Keyed
      rw [h]
      exact hk.putClient hl he
  | handleDatagram source datagram now unixNow =>
    rcases handleDatagram_cases c manager source datagram now unixNow with
      h | ⟨client, client', hl, h, he, _⟩
    · show (manager.handleDatagram c source datagram now unixNow).2.Keyed
      rw [h]
      exact hk
    · show (manager.handleDatagram c source datagram now unixNow).2.Keyed
      rw [h]
      exact hk.putClient hl he
  | authenticateActivity endpoint now =>
    rcases authenticateActivity_cases manager endpoint now with h | ⟨client, client', hl, h, he, _⟩
    · show (manager.authenticateActivity endpoint now).Keyed
      rw [h]
      exact hk
    · show (manager.authenticateActivity endpoint now).Keyed
      rw [h]
      exact hk.putClient hl he
  | maintain now unixNow reads => exact hk.maintain c now unixNow reads
  | applyConfiguration state now utcNow => exact hk.applyConfiguration c f state now utcNow

theorem not_loses_of_leased {c : Crypto} {f : Formats} {manager : RelayManager} {op : RelayManagerOp}
    {endpoint : SocketAddr}
    (h : manager.leased endpoint = true → (manager.step c f op).2.leased endpoint = true) :
    ¬manager.Loses c f op endpoint := by
  rintro ⟨hbefore, hafter⟩
  rw [h hbefore] at hafter
  simp at hafter

theorem maintain_reports {c : Crypto} {manager : RelayManager} (hk : manager.Keyed) {now : Nat}
    {unixNow : UInt64} {reads : SocketAddr → RelayReads} {maintenance : RelayMaintenance}
    (h : (manager.maintain c now unixNow reads).1 = .ok maintenance) {endpoint : SocketAddr}
    (hbefore : manager.leased endpoint = true)
    (hafter : (manager.maintain c now unixNow reads).2.leased endpoint = false) :
    endpoint ∈ maintenance.failedEndpoints := by
  obtain ⟨before, hb, hlease⟩ := leased_iff.mp hbefore
  have hmem : endpoint ∈ (manager.maintain c now unixNow reads).2.clients :=
    mem_visit.mpr (mem_iff_lookup.mpr ⟨before, hb⟩)
  obtain ⟨after, ha⟩ := mem_iff_lookup.mp hmem
  have hgone : after.lease.isSome = false := by
    unfold leased at hafter
    rw [ha, Option.any_some] at hafter
    exact hafter
  obtain ⟨visited, progress, reached, hv, hbody, _, hgrows⟩ := @lookup_visit_ok _ _ _ _ _ _
    (fun earlier later : RelayMaintenance => earlier.failedEndpoints ⊆ later.failedEndpoints)
    (fun _ => List.Subset.refl _) (fun h1 h2 => List.Subset.trans h1 h2) (by
      intro relay client before after client' hbody
      have hspec := RelayClient.maintain_spec c manager now unixNow (reads relay) client before
      exact (hspec.2 after (by rw [hbody])).1) _ _ _ h _ _ ha
  cases hb.symm.trans hv
  have hspec := RelayClient.maintain_spec c manager now unixNow (reads endpoint) before progress
  rw [hbody] at hspec
  have hreported := (hspec.2 reached rfl).2 hlease hgone
  rw [hk endpoint before hb] at hreported
  exact hgrows hreported

theorem maintain_ok {c : Crypto} {manager : RelayManager} {now : Nat} {unixNow : UInt64}
    {reads : SocketAddr → RelayReads} (h : manager.NoticesExpiry (.maintain now unixNow reads)) :
    ∃ maintenance, (manager.maintain c now unixNow reads).1 = .ok maintenance := by
  have hloop : ∀ (entries : List (Sigma fun _ : SocketAddr => RelayClient)) (progress : RelayMaintenance),
      (∀ entry ∈ entries, manager.clients.lookup entry.1 = some entry.2) →
      ∃ maintenance, (visitEntries (fun endpoint client progress =>
        client.maintain c manager now unixNow (reads endpoint) progress) entries progress).1 =
          .ok maintenance := by
    intro entries
    induction entries with
    | nil => exact fun progress _ => ⟨progress, rfl⟩
    | cons entry entries ih =>
      intro progress hentries
      have hlookup := hentries entry List.mem_cons_self
      obtain ⟨hid, hsequence⟩ := h entry.1 entry.2 hlookup
      obtain ⟨reached, hreached⟩ := RelayClient.maintain_ok c manager now unixNow progress hid hsequence
      obtain ⟨maintenance, hrest⟩ := ih reached fun e he => hentries e (List.mem_cons_of_mem _ he)
      refine ⟨maintenance, ?_⟩
      unfold visitEntries
      split
      next e client heq =>
        rw [heq] at hreached
        simp at hreached
      next reached' client heq =>
        rw [heq] at hreached
        cases hreached
        exact hrest
  exact hloop manager.clients.entries ⟨[], []⟩ fun entry he => lookup_eq_some.mpr he

theorem mem_failedEndpoints {previous desired : Map SocketAddr RelayClient} {endpoint : SocketAddr}
    {existing : RelayClient} (hl : previous.lookup endpoint = some existing)
    (hlease : existing.lease.isSome = true) (hkey : existing.endpoint = endpoint)
    (hgone : ∀ client, desired.lookup endpoint = some client → sameRelay existing client = false) :
    endpoint ∈ failedEndpoints previous desired := by
  unfold failedEndpoints
  apply List.mem_append.mpr
  cases hd : desired.lookup endpoint with
  | some client =>
    refine Or.inl (List.mem_filterMap.mpr ⟨⟨endpoint, client⟩, lookup_eq_some.mp hd, ?_⟩)
    have hnot := hgone client hd
    simp [hl, hnot, hlease]
  | none =>
    refine Or.inr (List.mem_filterMap.mpr ⟨⟨endpoint, existing⟩, lookup_eq_some.mp ?_, ?_⟩)
    · have hnot : endpoint ∉ desired.keys := fun hm => by
        obtain ⟨client, hc⟩ := mem_iff_lookup.mp (AList.mem_keys.mp hm)
        rw [hd] at hc
        simp at hc
      rw [lookup_eraseAll, if_neg hnot, hl]
    · simp [hlease, hkey]

theorem applyConfiguration_reports {c : Crypto} {f : Formats} {manager : RelayManager}
    (hk : manager.Keyed) {state : NodeState} {now : Nat} {utcNow : Int} {endpoint : SocketAddr}
    (hloses : manager.Loses c f (.applyConfiguration state now utcNow) endpoint) :
    endpoint ∈ (manager.step c f (.applyConfiguration state now utcNow)).1.failedEndpoints := by
  obtain ⟨hbefore, hafter⟩ := hloses
  obtain ⟨existing, hl, hlease⟩ := leased_iff.mp hbefore
  have hgone : (manager.applyConfiguration c f state now utcNow).2.leased endpoint = false := hafter
  show endpoint ∈ (RelayManagerOutput.applied
    (manager.applyConfiguration c f state now utcNow).1).failedEndpoints
  unfold RelayManager.applyConfiguration at hgone ⊢
  split at hgone
  next e herror =>
    rw [hbefore] at hgone
    simp at hgone
  next desired hdesired =>
    refine mem_failedEndpoints hl hlease (hk endpoint existing hl) fun client hc => ?_
    cases hsame : sameRelay existing client with
    | false => rfl
    | true =>
      unfold leased at hgone
      dsimp only at hgone
      rw [lookup_mapWithKey, hc, hl, Option.map_some, Option.any_some, keepLease, if_pos hsame,
        hlease] at hgone
      simp at hgone

/-- A step that notices expiry names every lease it loses. -/
theorem step_reports {c : Crypto} {f : Formats} {manager : RelayManager} (hk : manager.Keyed)
    {op : RelayManagerOp} (hcond : manager.NoticesExpiry op) {endpoint : SocketAddr}
    (hloses : manager.Loses c f op endpoint) :
    endpoint ∈ (manager.step c f op).1.failedEndpoints := by
  cases op with
  | wrap relay destinationNodeId payload now utcNow =>
    refine absurd hloses (not_loses_of_leased fun hleased => ?_)
    show (manager.wrap relay destinationNodeId payload now utcNow).2.leased endpoint = true
    rcases wrap_cases manager relay destinationNodeId payload now utcNow with
      h | ⟨client, lease, client', hl, hlease, h, _, hkept⟩
    · rw [h]
      exact hleased
    · obtain ⟨hlease', hconfig⟩ := hcond client lease hl hlease
      have hsome : client'.lease.isSome = true := by
        rcases hkept with hsome | hover | hover
        · exact hsome
        · exact absurd hlease' (UInt64.not_lt.mpr hover)
        · omega
      rw [h]
      exact leased_putClient hl (fun _ => hsome) hleased
  | handleDatagram source datagram now unixNow =>
    refine absurd hloses (not_loses_of_leased fun hleased => ?_)
    show (manager.handleDatagram c source datagram now unixNow).2.leased endpoint = true
    rcases handleDatagram_cases c manager source datagram now unixNow with
      h | ⟨client, client', hl, h, _, hkeeps⟩
    · rw [h]
      exact hleased
    · rw [h]
      exact leased_putClient hl hkeeps hleased
  | authenticateActivity relay now =>
    refine absurd hloses (not_loses_of_leased fun hleased => ?_)
    show (manager.authenticateActivity relay now).leased endpoint = true
    rcases authenticateActivity_cases manager relay now with h | ⟨client, client', hl, h, _, hkeeps⟩
    · rw [h]
      exact hleased
    · rw [h]
      exact leased_putClient hl hkeeps hleased
  | maintain now unixNow reads =>
    obtain ⟨maintenance, hok⟩ := maintain_ok (c := c) hcond
    have hreported := maintain_reports hk hok hloses.1 hloses.2
    show endpoint ∈ (RelayManagerOutput.maintained (manager.maintain c now unixNow reads).1).failedEndpoints
    rw [hok]
    exact hreported
  | applyConfiguration state now utcNow => exact applyConfiguration_reports hk hloses

theorem lossesReported_along {c : Crypto} {f : Formats} {manager : RelayManager} (hk : manager.Keyed)
    {ops : List RelayManagerOp} (hcond : Along (step c f) NoticesExpiry manager ops) :
    manager.LossesReported c f ops := by
  induction ops generalizing manager with
  | nil => trivial
  | cons op ops ih =>
    refine ⟨fun endpoint hloses => Or.inl (step_reports hk hcond.1 hloses), ?_⟩
    exact ih (hk.step c f op) hcond.2

end RelayManager

/-- A peer on the failed relay leaves it for another of its candidates, where it has one. -/
theorem Peer.failRelayPath_chooses {peer : Peer} {endpoint : SocketAddr}
    (hactive : peer.activeEndpoint = some endpoint) (now : Nat) :
    ∃ next : Option EndpointCandidate,
      (peer.failRelayPath endpoint now).activeEndpoint = next.map EndpointCandidate.endpoint ∧
      (∀ candidate, next = some candidate →
        candidate ∈ peer.candidates ∧ candidate.endpoint ≠ endpoint) ∧
      ((∃ candidate ∈ peer.candidates, candidate.endpoint ≠ endpoint) → next.isSome = true) := by
  obtain ⟨other, hother⟩ : ∃ other : EndpointCandidate → Bool,
    other = fun candidate => decide (candidate.endpoint ≠ endpoint) := ⟨_, rfl⟩
  obtain ⟨nextIndex, hindex⟩ : ∃ nextIndex, nextIndex =
      ((peer.candidates.findIdx? fun candidate => candidate.endpoint = endpoint).map
        fun index => usizeSaturatingAdd index 1).getD 0 := ⟨_, rfl⟩
  refine ⟨((peer.candidates.drop nextIndex).find? other).or (peer.candidates.find? other),
    ?_, ?_, ?_⟩
  · unfold Peer.failRelayPath
    rw [if_neg (not_not.mpr hactive), hindex, hother]
    dsimp only
    split
    next => rfl
    next => rfl
  · intro candidate hc
    rw [Option.or_eq_some_iff] at hc
    rcases hc with hc | ⟨_, hc⟩
    · have hp := List.find?_some hc
      rw [hother] at hp
      exact ⟨List.mem_of_mem_drop (List.mem_of_find?_eq_some hc), of_decide_eq_true hp⟩
    · have hp := List.find?_some hc
      rw [hother] at hp
      exact ⟨List.mem_of_find?_eq_some hc, of_decide_eq_true hp⟩
  · rintro ⟨candidate, hm, hne⟩
    rw [Option.isSome_or, Bool.or_eq_true]
    refine Or.inr (List.find?_isSome.mpr ⟨candidate, hm, ?_⟩)
    rw [hother]
    exact decide_eq_true hne

theorem Peer.failRelayPath_moves {peer : Peer} {endpoint : SocketAddr}
    (hactive : peer.activeEndpoint = some endpoint) (now : Nat) :
    (peer.failRelayPath endpoint now).activeEndpoint ≠ some endpoint ∧
      ((∃ candidate ∈ peer.candidates, candidate.endpoint ≠ endpoint) →
        ∃ candidate ∈ peer.candidates,
          (peer.failRelayPath endpoint now).activeEndpoint = some candidate.endpoint) := by
  obtain ⟨next, hafter, hmem, hsome⟩ := Peer.failRelayPath_chooses hactive now
  rw [hafter]
  constructor
  · intro heq
    obtain ⟨candidate, hc, he⟩ := Option.map_eq_some_iff.mp heq
    exact (hmem candidate hc).2 he
  · intro hother
    obtain ⟨chosen, hchosen⟩ := Option.isSome_iff_exists.mp (hsome hother)
    exact ⟨chosen, (hmem chosen hchosen).1, by rw [hchosen, Option.map_some]⟩

/-- Where every send notices in time that its lease has expired, each lost lease is reported, and a
report moves every peer that uses the relay. -/
theorem lost_leases_reported {c : Crypto} {f : Formats} {state : NodeState}
    {networkId nodeId : Block 16} {credential : Block 200} {identity : SigningKey} {now : Nat}
    {utcNow : Int} {manager : RelayManager}
    (hnew : RelayManager.new c f state networkId nodeId credential identity now utcNow = .ok manager)
    {ops : List RelayManagerOp}
    (hcond : Along (RelayManager.step c f) RelayManager.NoticesExpiry manager ops) :
    manager.LossesReported c f ops ∧
      ∀ (endpoint : SocketAddr) (peer : Peer) (instant : Nat), peer.activeEndpoint = some endpoint →
        (peer.failRelayPath endpoint instant).activeEndpoint ≠ some endpoint ∧
          ((∃ candidate ∈ peer.candidates, candidate.endpoint ≠ endpoint) →
            ∃ candidate ∈ peer.candidates,
              (peer.failRelayPath endpoint instant).activeEndpoint = some candidate.endpoint) :=
  ⟨RelayManager.lossesReported_along (RelayManager.keyed_new hnew) hcond,
    fun _ _ instant hactive => Peer.failRelayPath_moves hactive instant⟩

def sampleRelayEndpoint : SocketAddr := .v4 ⟨.new 198 51 100 7, 7777⟩

def sampleRelayManager : RelayManager where
  networkId := fill 16 21
  nodeId := nodeId .transparent sampleIdentityKey.seed
  credential := sampleCredential sampleIdentityKey (.new 100 88 0 10)
  identity := sampleIdentityKey
  clients := AList.singleton sampleRelayEndpoint {
    relayId := fill 16 31
    endpoint := sampleRelayEndpoint
    verifyingKey := ⟨fill 32 32⟩
    priority := 100
    configExpiresAt := 1700003700 * 10 ^ 9
    lease := none
    pending := none
    nextRegistrationAt := 0
    failures := 0 }

theorem sampleRelayManager_new :
    RelayManager.new .transparent sampleFormats sampleNodeState (fill 16 21)
      (nodeId .transparent sampleIdentityKey.seed)
      (sampleCredential sampleIdentityKey (.new 100 88 0 10)) sampleIdentityKey 0
      (1700000200 * 10 ^ 9) = .ok sampleRelayManager := by
  decide +kernel

/-- Maintenance at a second of the monotonic clock, which the Unix clock is 1700000200 seconds ahead
of. -/
def sampleMaintain (second : Nat) : RelayManagerOp :=
  .maintain (durationFromSecs second) (UInt64.ofNat (1700000200 + second)) fun _ =>
    ⟨(1700000200 + second) * 10 ^ 9, some (fill 16 51)⟩

/-- The relay grants its lease until second 120. -/
def sampleLeaseGrant : RelayManagerOp :=
  .handleDatagram sampleRelayEndpoint (signRelayRegisterResponse .transparent {
    networkId := fill 16 21
    nodeId := nodeId .transparent sampleIdentityKey.seed
    relayId := fill 16 31
    requestId := fill 16 51
    leaseId := fill 16 61
    expiresAt := 1700000320 } ⟨fill 32 32⟩).val (durationFromSecs 1) 1700000201

def sampleWrap (second : Nat) : RelayManagerOp :=
  .wrap sampleRelayEndpoint (fill 16 1) [] (UInt64.ofNat (1700000200 + second))
    ((1700000200 + second) * 10 ^ 9)

/-- Maintenance finds the lease expired before anything is sent through it again. -/
theorem lost_leases_reported_sample :
    sampleRelayManager.LossesReported .transparent sampleFormats
        [sampleMaintain 0, sampleLeaseGrant, sampleWrap 60, sampleMaintain 130, sampleWrap 140] :=
  (lost_leases_reported sampleRelayManager_new (by decide +kernel)).1

/-- A send drops the expired lease in silence, and maintenance then has nothing to report. -/
theorem wrap_loses_lease_silently :
    ¬sampleRelayManager.LossesReported .transparent sampleFormats
      [sampleMaintain 0, sampleLeaseGrant, sampleWrap 130, sampleMaintain 131] := by
  rintro ⟨_, _, ⟨hreported, _⟩⟩
  have hloses : RelayManager.Loses .transparent sampleFormats
      (final (RelayManager.step .transparent sampleFormats) sampleRelayManager
        [sampleMaintain 0, sampleLeaseGrant]) (sampleWrap 130) sampleRelayEndpoint := by
    decide +kernel
  rcases hreported sampleRelayEndpoint hloses with hnow | hnext
  · revert hnow
    decide +kernel
  · have hmember : sampleRelayEndpoint ∈ (RelayManager.step .transparent sampleFormats
        (final (RelayManager.step .transparent sampleFormats) sampleRelayManager
          [sampleMaintain 0, sampleLeaseGrant, sampleWrap 130]) (sampleMaintain 131)).1.failedEndpoints :=
      hnext
    revert hmember
    decide +kernel

end XsNexus
