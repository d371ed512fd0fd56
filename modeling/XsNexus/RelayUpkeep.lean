import XsNexus.MapLoops
import XsNexus.RelayFrame
import XsNexus.RelayManager

namespace XsNexus

open ByteCodec FiniteMap MachineWords

def registrationMaxAttempts : UInt8 := 6

def registrationRetryInterval : Nat := durationFromMillis 500

def registrationBackoffBase : Nat := durationFromSecs 2

def registrationBackoffMax : Nat := durationFromSecs 60

def leaseRenewalMarginSeconds : Nat := 30

def relayKeepaliveInterval : Nat := durationFromSecs 15

def relayFailureTimeout : Nat := durationFromSecs 45

structure RelayMaintenance where
  outbound : List (SocketAddr × Bytes)
  failedEndpoints : List SocketAddr
deriving DecidableEq

inductive RelayInbound
  | notRelay
  | consumed
  | data (sourceNodeId : Block 16) (payload : Bytes)
deriving DecidableEq

/-- What the maintenance of one relay reads of the UTC clock and of the random generator. -/
structure RelayReads where
  utcNow : Int
  requestId : Option (Block 16)
deriving DecidableEq

namespace RelayClient

def maintainPending (client : RelayClient) (now : Nat) : List (SocketAddr × Bytes) × RelayClient :=
  match client.pending with
  | none => ([], client)
  | some pending =>
    if saturatingDurationSince now pending.lastSent < registrationRetryInterval then ([], client)
    else if pending.attempts ≥ registrationMaxAttempts then
      let failures := u8SaturatingAdd client.failures 1
      let exponent := min (failures.toNat - 1) 6
      let delay := min (registrationBackoffBase * 2 ^ exponent) registrationBackoffMax
      ([], { client with
        pending := none
        failures := failures
        nextRegistrationAt := now + delay })
    else
      ([(client.endpoint, pending.encoded)], { client with
        pending := some { pending with
          attempts := u8SaturatingAdd pending.attempts 1
          lastSent := now } })

def registrationDue (client : RelayClient) (now : Nat) (unixNow : UInt64) : Bool :=
  decide (now ≥ client.nextRegistrationAt) && client.lease.all fun lease =>
    decide (lease.expiresAt.toNat - unixNow.toNat ≤ leaseRenewalMarginSeconds)

/-- A request identifier of the random generator, which is never zero. -/
def drawRequestId (requestId : Option (Block 16)) : Except AgentError (Block 16) :=
  match requestId with
  | none => .error .dataPlane
  | some requestId => if requestId = zeros 16 then .error .dataPlane else .ok requestId

def beginRegistration (c : Crypto) (manager : RelayManager) (client : RelayClient) (now : Nat)
    (unixNow : UInt64) (requestId : Option (Block 16)) :
    Except AgentError (Option Bytes × RelayClient) :=
  if client.pending.isSome ∨ now < client.nextRegistrationAt then .ok (none, client)
  else do
    let requestId ← drawRequestId requestId
    let encoded := (signRelayRegisterRequest c {
      networkId := manager.networkId
      nodeId := manager.nodeId
      relayId := client.relayId
      requestId := requestId
      clientTime := unixNow
      credential := manager.credential } manager.identity).val
    .ok (some encoded, { client with pending := some ⟨requestId, encoded, now, 1⟩ })

/-- The lease is over, or nothing authentic has come through it for too long. -/
def leaseLost (client : RelayClient) (now : Nat) (unixNow : UInt64) : Bool :=
  client.lease.any fun lease => lease.expiresAt ≤ unixNow ∨
    saturatingDurationSince now lease.lastAuthenticatedActivity ≥ relayFailureTimeout

def maintainRegistration (c : Crypto) (manager : RelayManager) (client : RelayClient) (now : Nat)
    (unixNow : UInt64) (requestId : Option (Block 16)) :
    Except AgentError (List (SocketAddr × Bytes)) × RelayClient :=
  if client.pending.isNone ∧ client.registrationDue now unixNow then
    match client.beginRegistration c manager now unixNow requestId with
    | .error e => (.error e, client)
    | .ok (encoded, client) =>
      (.ok (encoded.toList.map fun encoded => (client.endpoint, encoded)), client)
  else (.ok [], client)

def maintainKeepalive (manager : RelayManager) (client : RelayClient) (now : Nat) :
    Except AgentError (List (SocketAddr × Bytes)) × RelayClient :=
  match client.lease with
  | none => (.ok [], client)
  | some lease =>
    if saturatingDurationSince now lease.lastKeepaliveAt ≥ relayKeepaliveInterval then
      match u64CheckedAdd lease.nextSequence 1 with
      | none => (.error .dataPlane, client)
      | some next =>
        (.ok [(client.endpoint, (encodeRelayKeepalive manager.networkId client.relayId manager.nodeId
          lease.leaseId lease.nextSequence).val)], { client with
            lease := some { lease with nextSequence := next, lastKeepaliveAt := now } })
    else (.ok [], client)

/-- The body of the loop of `maintain`. -/
def maintain (c : Crypto) (manager : RelayManager) (now : Nat) (unixNow : UInt64) (reads : RelayReads)
    (client : RelayClient) (progress : RelayMaintenance) :
    Except AgentError RelayMaintenance × RelayClient :=
  if client.configExpiresAt ≤ reads.utcNow then
    (.ok { progress with
      failedEndpoints := progress.failedEndpoints ++
        if client.lease.isSome then [client.endpoint] else [] },
      { client with lease := none, pending := none })
  else
    let lost := client.leaseLost now unixNow
    let failedEndpoints := progress.failedEndpoints ++ if lost then [client.endpoint] else []
    let client : RelayClient :=
      if lost then { client with lease := none, pending := none, nextRegistrationAt := now }
      else client
    let (resent, client) := client.maintainPending now
    match client.maintainRegistration c manager now unixNow reads.requestId with
    | (.error e, client) => (.error e, client)
    | (.ok registered, client) =>
      match client.maintainKeepalive manager now with
      | (.error e, client) => (.error e, client)
      | (.ok kept, client) =>
        (.ok ⟨progress.outbound ++ resent ++ registered ++ kept, failedEndpoints⟩, client)

end RelayClient

namespace RelayManager

def isRelay (manager : RelayManager) (endpoint : SocketAddr) : Bool :=
  (manager.clients.lookup (normalizeEndpoint endpoint)).isSome

def putClient (manager : RelayManager) (endpoint : SocketAddr) (client : RelayClient) : RelayManager :=
  { manager with clients := manager.clients.insert endpoint client }

def wrap (manager : RelayManager) (endpoint : SocketAddr) (destinationNodeId : Block 16)
    (payload : Bytes) (now : UInt64) (utcNow : Int) :
    Except AgentError (Option Bytes) × RelayManager :=
  match manager.clients.lookup (normalizeEndpoint endpoint) with
  | none => (.ok none, manager)
  | some client =>
    match client.lease with
    | none => (.ok none, manager)
    | some lease =>
      if lease.expiresAt ≤ now ∨ client.configExpiresAt ≤ utcNow then
        (.ok none, manager.putClient (normalizeEndpoint endpoint) { client with lease := none })
      else
        match u64CheckedAdd lease.nextSequence 1 with
        | none => (.error .dataPlane, manager)
        | some next =>
          let encoded := encodeRelayFrame {
            networkId := manager.networkId
            relayId := client.relayId
            sourceNodeId := manager.nodeId
            destinationNodeId := destinationNodeId
            leaseId := lease.leaseId
            sequence := lease.nextSequence
            payload := payload }
          (match encoded with
            | none => .error .dataPlane
            | some encoded => .ok (some encoded),
            manager.putClient (normalizeEndpoint endpoint)
              { client with lease := some { lease with nextSequence := next } })

def handleRegisterResponse (c : Crypto) (manager : RelayManager) (client : RelayClient)
    (datagram : Bytes) (now : Nat) (unixNow : UInt64) : RelayClient :=
  match client.pending with
  | none => client
  | some pending =>
    match verifyRelayRegisterResponse c datagram client.verifyingKey manager.networkId manager.nodeId
        client.relayId pending.requestId unixNow with
    | none => client
    | some response => { client with
        lease := some {
          leaseId := response.leaseId
          expiresAt := response.expiresAt
          nextSequence := 0
          lastKeepaliveAt := now
          lastAuthenticatedActivity := now }
        pending := none
        failures := 0
        nextRegistrationAt := now }

def handleKeepaliveResponse (c : Crypto) (manager : RelayManager) (client : RelayClient)
    (datagram : Bytes) (now : Nat) (unixNow : UInt64) : RelayClient :=
  match client.lease with
  | none => client
  | some lease =>
    match verifyRelayKeepaliveResponse c datagram client.verifyingKey manager.networkId client.relayId
        manager.nodeId lease.leaseId unixNow with
    | none => client
    | some _ => { client with lease := some { lease with lastAuthenticatedActivity := now } }

def handleRelayData (manager : RelayManager) (client : RelayClient) (datagram : Bytes)
    (unixNow : UInt64) : RelayInbound :=
  match client.lease with
  | none => .consumed
  | some lease =>
    if lease.expiresAt ≤ unixNow then .consumed
    else
      match parseRelayFrame datagram with
      | none => .consumed
      | some frame =>
        if frame.networkId ≠ manager.networkId ∨ frame.relayId ≠ client.relayId ∨
            frame.destinationNodeId ≠ manager.nodeId then
          .consumed
        else .data frame.sourceNodeId frame.payload

def handleDatagram (c : Crypto) (manager : RelayManager) (source : SocketAddr) (datagram : Bytes)
    (now : Nat) (unixNow : UInt64) : RelayInbound × RelayManager :=
  match manager.clients.lookup (normalizeEndpoint source) with
  | none => (.notRelay, manager)
  | some client =>
    if datagram[5]? = some relayRegisterResponseType then
      (.consumed, manager.putClient (normalizeEndpoint source)
        (manager.handleRegisterResponse c client datagram now unixNow))
    else if datagram[5]? = some relayKeepaliveResponseType then
      (.consumed, manager.putClient (normalizeEndpoint source)
        (manager.handleKeepaliveResponse c client datagram now unixNow))
    else if datagram[5]? = some relayDataType then
      (manager.handleRelayData client datagram unixNow, manager)
    else (.consumed, manager)

def authenticateActivity (manager : RelayManager) (endpoint : SocketAddr) (now : Nat) : RelayManager :=
  match manager.clients.lookup (normalizeEndpoint endpoint) with
  | none => manager
  | some client => manager.putClient (normalizeEndpoint endpoint) { client with
      lease := client.lease.map fun lease => { lease with lastAuthenticatedActivity := now } }

def maintain (c : Crypto) (manager : RelayManager) (now : Nat) (unixNow : UInt64)
    (reads : SocketAddr → RelayReads) : Except AgentError RelayMaintenance × RelayManager :=
  let visited := visit (fun endpoint client progress =>
    client.maintain c manager now unixNow (reads endpoint) progress) manager.clients ⟨[], []⟩
  (visited.1, { manager with clients := visited.2 })

end RelayManager

end XsNexus
