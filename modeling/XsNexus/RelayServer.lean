import XsNexus.Clock
import XsNexus.FifoMap
import XsNexus.RelayFrame
import XsNexus.ReplayWindow
import XsNexus.Runs

namespace XsNexus

open ByteCodec FifoMap FiniteMap MachineWords

def requestReplayTtl : Nat := durationFromSecs 300

def sourceWindow : Nat := durationFromSecs 60

def trafficWindow : Nat := durationFromSecs 1

def maxFlushPerTick : Nat := 256

structure NodeKey where
  networkId : Block 16
  nodeId : Block 16
deriving DecidableEq

structure RequestKey where
  node : NodeKey
  requestId : Block 16
deriving DecidableEq

structure QueuedDatagram where
  bytes : Bytes
  enqueuedAt : Nat
deriving DecidableEq

structure TrafficBudget where
  windowStarted : Nat
  packets : UInt32
  bytes : UInt64
deriving DecidableEq

structure Lease where
  node : NodeKey
  endpoint : SocketAddr
  expiresAt : UInt64
  lastActivity : Nat
  replay : ReplayWindow
  traffic : TrafficBudget
  queue : List QueuedDatagram
  queuedBytes : Nat
  queueScheduled : Bool
deriving DecidableEq

structure CachedRegistration where
  endpoint : SocketAddr
  expires : Nat
  response : Block 168
deriving DecidableEq

structure SourceBudget where
  windowStarted : Nat
  requests : UInt16
deriving DecidableEq

/-- The settings a server is built from, within the limits `RelayConfig::from_env` enforces. -/
structure RelayConfig where
  relayId : Block 16
  controllerCredentialKey : VerifyingKey
  identityKey : SigningKey
  leaseTtlSeconds : UInt64
  idleTimeoutSeconds : UInt64
  maxLeases : Nat
  registrationRequestsPerMinute : UInt16
  packetsPerLeasePerSecond : UInt32
  bytesPerLeasePerSecond : UInt64
  queuePacketsPerNode : Nat
  queueBytesPerNode : Nat
  relayId_ne : relayId ≠ zeros 16
  leaseTtlSeconds_bounds : 30 ≤ leaseTtlSeconds ∧ leaseTtlSeconds ≤ 300
  idleTimeoutSeconds_bounds : 15 ≤ idleTimeoutSeconds ∧ idleTimeoutSeconds ≤ leaseTtlSeconds
  maxLeases_bounds : 1 ≤ maxLeases ∧ maxLeases ≤ 65536
  registrationRequestsPerMinute_bounds :
    1 ≤ registrationRequestsPerMinute ∧ registrationRequestsPerMinute ≤ 600
  packetsPerLeasePerSecond_bounds :
    1 ≤ packetsPerLeasePerSecond ∧ packetsPerLeasePerSecond ≤ 1000000
  bytesPerLeasePerSecond_bounds :
    1500 ≤ bytesPerLeasePerSecond ∧ bytesPerLeasePerSecond ≤ 10 * 1024 * 1024 * 1024
  queuePacketsPerNode_bounds : 1 ≤ queuePacketsPerNode ∧ queuePacketsPerNode ≤ 1024
  queueBytesPerNode_bounds : relayMaxFrameLength ≤ queueBytesPerNode ∧
    queueBytesPerNode ≤ 64 * 1024 * 1024 ∧ queuePacketsPerNode ≤ queueBytesPerNode

structure RelayServer where
  config : RelayConfig
  nodes : Map NodeKey (Block 16)
  leases : Map (Block 16) Lease
  activeQueues : List (Block 16)
  registrations : Map RequestKey CachedRegistration
  registrationOrder : List RequestKey
  sourceBudgets : Map IpAddr SourceBudget
  sourceOrder : List IpAddr

/-- Why a datagram is dropped: the counter of the metrics it adds to. -/
inductive RelayDrop
  | invalid | authentication | replay | rateLimit | destination | queue
deriving DecidableEq

/-- What `try_send_to` reports. -/
inductive SendOutcome
  | sent (length : Nat)
  | wouldBlock
  | failed
deriving DecidableEq

inductive RegistrationOutcome
  | rejected
  | retry (response : Block 168)
  | accepted (leaseId : Block 16) (response : Block 168)
deriving DecidableEq

/-- A datagram handed to the socket from a lease's queue. -/
structure Forward where
  leaseId : Block 16
  endpoint : SocketAddr
  bytes : Bytes
deriving DecidableEq

def leaseMatches (lease : Lease) (networkId nodeId : Block 16) (endpoint : SocketAddr)
    (now : UInt64) : Bool :=
  lease.node.networkId == networkId && lease.node.nodeId == nodeId && lease.endpoint == endpoint &&
    decide (lease.expiresAt > now)

namespace TrafficBudget

def new (now : Nat) : TrafficBudget := ⟨now, 0, 0⟩

def canAccept (budget : TrafficBudget) (now bytes : Nat) (packetLimit : UInt32)
    (byteLimit : UInt64) : Bool :=
  if saturatingDurationSince now budget.windowStarted ≥ trafficWindow then
    (u64TryFrom bytes).any fun bytes => decide (bytes ≤ byteLimit)
  else
    decide (budget.packets < packetLimit) &&
      (u64TryFrom bytes).any fun bytes => decide (u64SaturatingAdd budget.bytes bytes ≤ byteLimit)

def commit (budget : TrafficBudget) (now bytes : Nat) : TrafficBudget :=
  let budget :=
    if saturatingDurationSince now budget.windowStarted ≥ trafficWindow then
      { windowStarted := now, packets := 0, bytes := 0 }
    else budget
  { budget with
    packets := u32SaturatingAdd budget.packets 1
    bytes := u64SaturatingAdd budget.bytes ((u64TryFrom bytes).getD u64Max) }

end TrafficBudget

namespace RelayServer

def new (config : RelayConfig) : RelayServer where
  config := config
  nodes := ∅
  leases := ∅
  activeQueues := []
  registrations := ∅
  registrationOrder := []
  sourceBudgets := ∅
  sourceOrder := []

def idleTimeout (s : RelayServer) : Nat := durationFromSecs s.config.idleTimeoutSeconds.toNat

/-- `draws` are the results of `getrandom::fill`, an error where there is none. -/
def newLeaseId (s : RelayServer) (draws : List (Option (Block 16))) : Option (Block 16) :=
  (draws.take 8).findSome? fun draw =>
    draw.filter fun leaseId => decide (leaseId ≠ zeros 16 ∧ leaseId ∉ s.leases)

def maxRegistrations (s : RelayServer) : Nat := max (usizeSaturatingMul s.config.maxLeases 4) 16

def cacheRegistration (s : RelayServer) (request : RequestKey) (endpoint : SocketAddr)
    (response : Block 168) (now : Nat) : RelayServer :=
  let (order, registrations) := evictOldest s.maxRegistrations s.registrationOrder s.registrations
  let cached := { endpoint := endpoint, expires := now + requestReplayTtl, response := response }
  { s with
    registrationOrder := order ++ [request]
    registrations := registrations.insert request cached }

def allowRegistrationSource (s : RelayServer) (source : IpAddr) (now : Nat) : Bool × RelayServer :=
  match s.sourceBudgets.lookup source with
  | some budget =>
    if saturatingDurationSince now budget.windowStarted ≥ sourceWindow then
      (true, { s with sourceBudgets := s.sourceBudgets.insert source ⟨now, 1⟩ })
    else if budget.requests ≥ s.config.registrationRequestsPerMinute then (false, s)
    else
      let budget := { budget with requests := u16SaturatingAdd budget.requests 1 }
      (true, { s with sourceBudgets := s.sourceBudgets.insert source budget })
  | none =>
    let maximum := min (max s.config.maxLeases 64) 4096
    let (order, budgets) := evictOldest maximum s.sourceOrder s.sourceBudgets
    (true, { s with sourceOrder := order ++ [source], sourceBudgets := budgets.insert source ⟨now, 1⟩ })

/-- The lease the node had is removed with its queue; its id may stay in `activeQueues`. -/
def insertLease (s : RelayServer) (leaseId : Block 16) (lease : Lease) : RelayServer :=
  let leases := match s.nodes.lookup lease.node with
    | some previous => s.leases.erase previous
    | none => s.leases
  { s with nodes := s.nodes.insert lease.node leaseId, leases := leases.insert leaseId lease }

def handleRegistration (c : Crypto) (s : RelayServer) (clock : Clock)
    (draws : List (Option (Block 16))) (datagram : Bytes) (source : SocketAddr) :
    RegistrationOutcome × RelayServer :=
  if datagram.length ≠ relayRegisterRequestLength then (.rejected, s)
  else
    match s.allowRegistrationSource source.ip clock.instant with
    | (false, s) => (.rejected, s)
    | (true, s) =>
      let now := clock.unixTime
      match verifyRelayRegisterRequest c datagram s.config.controllerCredentialKey now with
      | none => (.rejected, s)
      | some verified =>
        if verified.request.relayId ≠ s.config.relayId then (.rejected, s)
        else
          let node : NodeKey := ⟨verified.request.networkId, verified.request.nodeId⟩
          let requestKey : RequestKey := ⟨node, verified.request.requestId⟩
          match s.registrations.lookup requestKey with
          | some cached =>
            if cached.endpoint = source ∧ cached.expires > clock.instant then
              (.retry cached.response, s)
            else (.rejected, s)
          | none =>
            if size s.leases ≥ s.config.maxLeases ∧ node ∉ s.nodes then (.rejected, s)
            else
              match s.newLeaseId draws with
              | none => (.rejected, s)
              | some leaseId =>
                let expiresAt :=
                  min (u64SaturatingAdd now s.config.leaseTtlSeconds) verified.credential.notAfter
                if expiresAt ≤ now then (.rejected, s)
                else
                  let s := s.insertLease leaseId {
                    node := node
                    endpoint := source
                    expiresAt := expiresAt
                    lastActivity := clock.instant
                    replay := ReplayWindow.new
                    traffic := TrafficBudget.new clock.instant
                    queue := []
                    queuedBytes := 0
                    queueScheduled := false }
                  let response := signRelayRegisterResponse c {
                    networkId := node.networkId
                    nodeId := node.nodeId
                    relayId := s.config.relayId
                    requestId := requestKey.requestId
                    leaseId := leaseId
                    expiresAt := expiresAt } s.config.identityKey
                  (.accepted leaseId response,
                    s.cacheRegistration requestKey source response clock.instant)

/-- Writes back a lease held by `get_mut`. -/
def putLease (s : RelayServer) (leaseId : Block 16) (lease : Lease) : RelayServer :=
  { s with leases := s.leases.insert leaseId lease }

/-- The end of `handle_data`: the datagram joins the queue of the destination's lease. -/
def enqueue (s : RelayServer) (leaseId : Block 16) (lease : Lease) (datagram : Bytes) (now : Nat) :
    RelayServer :=
  let queued := { lease with
    queuedBytes := usizeSaturatingAdd lease.queuedBytes datagram.length
    queue := lease.queue ++ [⟨datagram, now⟩] }
  if !lease.queueScheduled then
    { s.putLease leaseId { queued with queueScheduled := true } with
      activeQueues := s.activeQueues ++ [leaseId] }
  else s.putLease leaseId queued

/-- On success the id of the lease the datagram is queued under. -/
def handleData (s : RelayServer) (clock : Clock) (datagram : Bytes) (source : SocketAddr) :
    Except RelayDrop (Block 16) × RelayServer :=
  match parseRelayFrame datagram with
  | none => (.error .invalid, s)
  | some frame =>
    if frame.relayId ≠ s.config.relayId then (.error .authentication, s)
    else
      match s.leases.lookup frame.leaseId with
      | none => (.error .authentication, s)
      | some sourceLease =>
        if !leaseMatches sourceLease frame.networkId frame.sourceNodeId source clock.unixTime then
          (.error .authentication, s)
        else if (sourceLease.replay.precheck frame.sequence).isNone then (.error .replay, s)
        else if !sourceLease.traffic.canAccept clock.instant datagram.length
            s.config.packetsPerLeasePerSecond s.config.bytesPerLeasePerSecond then
          (.error .rateLimit, s)
        else
          match s.nodes.lookup ⟨frame.networkId, frame.destinationNodeId⟩ with
          | none => (.error .destination, s)
          | some destinationLeaseId =>
            match s.leases.lookup destinationLeaseId with
            | none => (.error .destination, s)
            | some destinationLease =>
              if destinationLease.expiresAt ≤ clock.unixTime ∨
                  destinationLease.queue.length ≥ s.config.queuePacketsPerNode ∨
                  usizeSaturatingAdd destinationLease.queuedBytes datagram.length >
                    s.config.queueBytesPerNode then
                (.error .queue, s)
              else
                match sourceLease.replay.commit frame.sequence with
                | (none, replay) =>
                  (.error .replay, s.putLease frame.leaseId { sourceLease with replay := replay })
                | (some (), replay) =>
                  let s := s.putLease frame.leaseId { sourceLease with
                    replay := replay
                    traffic := sourceLease.traffic.commit clock.instant datagram.length
                    lastActivity := clock.instant }
                  match s.leases.lookup destinationLeaseId with
                  | none => (.error .destination, s)
                  | some destinationLease =>
                    (.ok destinationLeaseId,
                      s.enqueue destinationLeaseId destinationLease datagram clock.instant)

/-- On success the response sent back. -/
def handleKeepalive (c : Crypto) (s : RelayServer) (clock : Clock) (datagram : Bytes)
    (source : SocketAddr) : Except RelayDrop (Block 152) × RelayServer :=
  match parseRelayKeepalive datagram with
  | none => (.error .invalid, s)
  | some frame =>
    if frame.relayId ≠ s.config.relayId then (.error .authentication, s)
    else
      match s.leases.lookup frame.leaseId with
      | none => (.error .authentication, s)
      | some lease =>
        if !leaseMatches lease frame.networkId frame.sourceNodeId source clock.unixTime then
          (.error .authentication, s)
        else if (lease.replay.precheck frame.sequence).isNone then (.error .replay, s)
        else if !lease.traffic.canAccept clock.instant datagram.length
            s.config.packetsPerLeasePerSecond s.config.bytesPerLeasePerSecond then
          (.error .rateLimit, s)
        else
          match lease.replay.commit frame.sequence with
          | (none, replay) => (.error .replay, s.putLease frame.leaseId { lease with replay := replay })
          | (some (), replay) =>
            (.ok (signRelayKeepaliveResponse c {
                networkId := frame.networkId
                relayId := s.config.relayId
                nodeId := frame.sourceNodeId
                leaseId := frame.leaseId
                serverTime := clock.unixTime } s.config.identityKey),
              s.putLease frame.leaseId { lease with
                replay := replay
                traffic := lease.traffic.commit clock.instant datagram.length
                lastActivity := clock.instant })

/-- The lease without the head of its queue. -/
def popQueue (lease : Lease) : Lease :=
  match lease.queue with
  | [] => lease
  | datagram :: queue =>
    { lease with queue := queue, queuedBytes := lease.queuedBytes - datagram.bytes.length }

/-- After a send attempt: the lease leaves the schedule or goes to its end. -/
def reschedule (s : RelayServer) (leaseId : Block 16) (lease : Lease) : RelayServer :=
  if lease.queue.isEmpty then s.putLease leaseId { lease with queueScheduled := false }
  else { s.putLease leaseId lease with activeQueues := s.activeQueues ++ [leaseId] }

/-- One turn of the loop of `flush_queues`; `none` is its return, which leaves the server as it
was. -/
def flushOne (s : RelayServer) (send : SendOutcome) : Option (Option Forward × RelayServer) :=
  match s.activeQueues with
  | [] => none
  | leaseId :: rest =>
    let popped := { s with activeQueues := rest }
    match s.leases.lookup leaseId with
    | none => some (none, popped)
    | some lease =>
      match lease.queue with
      | [] => some (none, popped.putLease leaseId { lease with queueScheduled := false })
      | datagram :: _ =>
        match send with
        | .wouldBlock => none
        | .sent _ =>
          some (some ⟨leaseId, lease.endpoint, datagram.bytes⟩,
            popped.reschedule leaseId (popQueue lease))
        | .failed => some (none, popped.reschedule leaseId (popQueue lease))

def flushLoop : Nat → (Nat → SendOutcome) → RelayServer → List Forward × RelayServer
  | 0, _, s => ([], s)
  | remaining + 1, send, s =>
    match s.flushOne (send 0) with
    | none => ([], s)
    | some (forward, s) =>
      let (forwards, s) := flushLoop remaining (fun attempt => send (attempt + 1)) s
      (forward.toList ++ forwards, s)

def flushQueues (send : Nat → SendOutcome) (s : RelayServer) : List Forward × RelayServer :=
  flushLoop maxFlushPerTick send s

def leaseExpired (s : RelayServer) (clock : Clock) (lease : Lease) : Bool :=
  decide (lease.expiresAt ≤ clock.unixTime) ||
    decide (saturatingDurationSince clock.instant lease.lastActivity ≥ s.idleTimeout)

def removeExpired (s : RelayServer) (leaseId : Block 16) (node : NodeKey) : RelayServer :=
  { s with
    leases := s.leases.erase leaseId
    nodes := if s.nodes.lookup node = some leaseId then s.nodes.erase node else s.nodes }

def cleanup (s : RelayServer) (clock : Clock) : RelayServer :=
  let expired := s.leases.entries.filterMap fun entry =>
    if s.leaseExpired clock entry.2 then some (entry.1, entry.2.node) else none
  let s := expired.foldl (fun s entry => s.removeExpired entry.1 entry.2) s
  let (order, registrations) :=
    pruneFront (fun cached => decide (cached.expires > clock.instant)) s.registrationOrder
      s.registrations
  { s with registrationOrder := order, registrations := registrations }

end RelayServer

/-- One call of the server's loop. -/
inductive RelayOp
  | registration (clock : Clock) (draws : List (Option (Block 16))) (datagram : Bytes)
    (source : SocketAddr)
  | data (clock : Clock) (datagram : Bytes) (source : SocketAddr)
  | keepalive (clock : Clock) (datagram : Bytes) (source : SocketAddr)
  | flushQueues (send : Nat → SendOutcome)
  | cleanup (clock : Clock)

inductive RelayOutput
  | registration (outcome : RegistrationOutcome)
  | data (outcome : Except RelayDrop (Block 16))
  | keepalive (outcome : Except RelayDrop (Block 152))
  | forwards (sent : List Forward)
  | cleaned

def RelayServer.apply (c : Crypto) (s : RelayServer) : RelayOp → RelayOutput × RelayServer
  | .registration clock draws datagram source =>
    (s.handleRegistration c clock draws datagram source).map .registration id
  | .data clock datagram source => (s.handleData clock datagram source).map .data id
  | .keepalive clock datagram source => (s.handleKeepalive c clock datagram source).map .keepalive id
  | .flushQueues send => (s.flushQueues send).map .forwards id
  | .cleanup clock => (.cleaned, s.cleanup clock)

end XsNexus
