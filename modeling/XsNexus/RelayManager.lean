import XsNexus.NodeState

namespace XsNexus

open ByteCodec FiniteMap MachineWords

def maxRelays : Nat := 16

def relayCandidatePriorityMax : UInt32 := 9999

/-- `base.saturating_sub(u32::try_from(index).unwrap_or(u32::MAX))` -/
def indexedPriority (base : UInt32) (index : Nat) : UInt32 :=
  u32SaturatingSub base (if index < 2 ^ 32 then UInt32.ofNat index else u32Max)

structure RelayLease where
  leaseId : Block 16
  expiresAt : UInt64
  nextSequence : UInt64
  lastKeepaliveAt : Nat
  lastAuthenticatedActivity : Nat
deriving DecidableEq

structure PendingRegistration where
  requestId : Block 16
  encoded : Bytes
  lastSent : Nat
  attempts : UInt8
deriving DecidableEq

structure RelayClient where
  relayId : Block 16
  endpoint : SocketAddr
  verifyingKey : VerifyingKey
  priority : UInt32
  configExpiresAt : Int
  lease : Option RelayLease
  pending : Option PendingRegistration
  nextRegistrationAt : Nat
  failures : UInt8
deriving DecidableEq

structure RelayManager where
  networkId : Block 16
  nodeId : Block 16
  credential : Block 200
  identity : SigningKey
  clients : Map SocketAddr RelayClient

section

local instance relayIdLawful : LawfulBEq (Block 16) := inferInstance

/-- The body of the loop of `relay_clients`. -/
def insertRelayClient (c : Crypto) (f : Formats) (now : Nat) (utcNow : Int)
    (progress : Map SocketAddr RelayClient × List (Block 16)) (relay : ConfigurationRelay) :
    Except AgentError (Map SocketAddr RelayClient × List (Block 16)) := do
  let relayId ← decodeFixed f 16 relay.relayIdBase64
  let key ← verifyingKey c f relay.identityPublicKeyBase64
  let endpoint := normalizeEndpoint relay.endpoint
  if relayId = zeros 16 ∨ relay.priority = 0 ∨ relay.expiresAt ≤ utcNow ∨ relayId ∈ progress.2 ∨
      endpoint ∈ progress.1 then
    .error .controllerTrust
  else
    .ok (progress.1.insert endpoint {
      relayId := relayId
      endpoint := endpoint
      verifyingKey := key
      priority := relay.priority
      configExpiresAt := relay.expiresAt
      lease := none
      pending := none
      nextRegistrationAt := now
      failures := 0 }, relayId :: progress.2)

end

def relayClients (c : Crypto) (f : Formats) (relays : List ConfigurationRelay) (now : Nat)
    (utcNow : Int) : Except AgentError (Map SocketAddr RelayClient) :=
  if relays.length > maxRelays then .error .controllerTrust
  else do
    let progress ← relays.foldlM (insertRelayClient c f now utcNow) (∅, [])
    .ok progress.1

def RelayClient.precedes (left right : RelayClient) : Prop :=
  left.priority > right.priority ∨
    (left.priority = right.priority ∧ ¬right.relayId.val < left.relayId.val)

instance (left right : RelayClient) : Decidable (left.precedes right) :=
  inferInstanceAs (Decidable (_ ∨ _))

namespace RelayManager

def new (c : Crypto) (f : Formats) (state : NodeState) (networkId nodeId : Block 16)
    (credential : Block 200) (identity : SigningKey) (now : Nat) (utcNow : Int) :
    Except AgentError RelayManager := do
  let clients ← relayClients c f state.configurationPayload.relays now utcNow
  .ok ⟨networkId, nodeId, credential, identity, clients⟩

def sameRelay (existing client : RelayClient) : Bool :=
  decide (existing.relayId = client.relayId ∧ existing.verifyingKey = client.verifyingKey)

/-- The client of a new configuration with what is kept of the client in its place. -/
def keepLease (client : RelayClient) : Option RelayClient → RelayClient
  | none => client
  | some existing =>
    if sameRelay existing client then
      { client with
        lease := existing.lease
        pending := existing.pending
        nextRegistrationAt := existing.nextRegistrationAt
        failures := existing.failures }
    else client

/-- The endpoints of `previous` whose relay held a lease and is not the one of `desired`. -/
def failedEndpoints (previous desired : Map SocketAddr RelayClient) : List SocketAddr :=
  let replaced := desired.entries.filterMap fun entry => do
    let existing ← previous.lookup entry.1
    if !sameRelay existing entry.2 ∧ existing.lease.isSome then some entry.1 else none
  let dropped := (eraseAll previous desired.keys).entries.filterMap fun entry =>
    if entry.2.lease.isSome then some entry.2.endpoint else none
  replaced ++ dropped

def applyConfiguration (c : Crypto) (f : Formats) (manager : RelayManager) (state : NodeState)
    (now : Nat) (utcNow : Int) : Except AgentError (List SocketAddr) × RelayManager :=
  match relayClients c f state.configurationPayload.relays now utcNow with
  | .error e => (.error e, manager)
  | .ok desired =>
    (.ok (failedEndpoints manager.clients desired), { manager with
      clients := mapWithKey (fun endpoint client =>
        keepLease client (manager.clients.lookup endpoint)) desired })

def candidates (manager : RelayManager) : List EndpointCandidate :=
  let clients := (manager.clients.entries.map Sigma.snd).insertionSort RelayClient.precedes
  (clients.take maxRelays).zipIdx.map fun (client, index) => {
    kind := .relay
    endpoint := client.endpoint
    priority := indexedPriority relayCandidatePriorityMax index
    expiresAt := client.configExpiresAt }

end RelayManager

end XsNexus
