import XsNexus.Peer
import XsNexus.Text

namespace XsNexus

open ByteCodec

/-- The prefix type of the `ipnet` crate; host bits of the address are kept. -/
structure Ipv4Net where
  addr : Ipv4Addr
  prefixLen : Nat
  prefixLen_le : prefixLen ≤ 32
deriving DecidableEq

namespace Ipv4Net

theorem le_16 : 16 ≤ 32 := by decide

theorem le_24 : 24 ≤ 32 := by decide

def hostmask (net : Ipv4Net) : BitVec 32 := BitVec.allOnes 32 >>> net.prefixLen

def network (net : Ipv4Net) : Ipv4Addr := ⟨net.addr.bits &&& ~~~net.hostmask⟩

def broadcast (net : Ipv4Net) : Ipv4Addr := ⟨net.addr.bits ||| net.hostmask⟩

def contains (net : Ipv4Net) (address : Ipv4Addr) : Bool :=
  decide (net.network.bits ≤ address.bits ∧ address.bits ≤ net.broadcast.bits)

end Ipv4Net

inductive UpdateChannel
  | stable | testing | development
deriving DecidableEq

inductive SubnetRouteMode
  | routed | nat
deriving DecidableEq

inductive AclAction
  | allow | deny
deriving DecidableEq

inductive AclProtocol
  | any | tcp | udp | icmp
deriving DecidableEq

inductive AclSelector
  | any
  | node (nodeIdBase64 : String)
  | group (name : String)
  | tag (name : String)
  | subnet (cidr : String)
deriving DecidableEq

structure PortRange where
  start : UInt16
  «end» : UInt16
deriving DecidableEq

structure AclRule where
  id : String
  priority : UInt32
  action : AclAction
  sources : List AclSelector
  destinations : List AclSelector
  protocol : AclProtocol
  destinationPorts : List PortRange
deriving DecidableEq

structure ConfigurationNode where
  nodeIdBase64 : String
  identityPublicKeyBase64 : String
  virtualIp : String
  directEndpoints : List String
  candidates : List EndpointCandidate
  credentialSerial : UInt64
  credentialNotAfter : Int
  roleBitmap : UInt32
  groups : List String
  tags : List String
  updateChannel : Option UpdateChannel
deriving DecidableEq

structure ConfigurationSubnetRoute where
  routeId : String
  subnetPrefix : String
  gatewayNodeIdBase64 : String
  mode : SubnetRouteMode
  interfaceName : String
  priority : UInt32
deriving DecidableEq

structure ConfigurationRelay where
  relayIdBase64 : String
  endpoint : SocketAddr
  identityPublicKeyBase64 : String
  priority : UInt32
  expiresAt : Int
deriving DecidableEq

structure ConfigurationPayload where
  schemaVersion : UInt8
  networkId : Block 16
  version : UInt64
  policyVersion : UInt64
  generatedAt : Int
  addressPool : String
  discoveryEndpoints : List SocketAddr
  nodes : List ConfigurationNode
  relays : List ConfigurationRelay
  policies : List AclRule
  subnetRoutes : List ConfigurationSubnetRoute
deriving DecidableEq

structure SignedConfiguration where
  version : UInt64
  payloadBase64 : String
  signatureBase64 : String
  signerKeyId : UInt32
deriving DecidableEq

/-- The text formats the program takes from other crates. -/
structure Formats where
  base64Encode : Bytes → String
  base64Decode : String → Option Bytes
  ipv4Net : String → Option Ipv4Net
  ipv4NetText : Ipv4Net → String
  configurationPayload : Bytes → Option ConfigurationPayload

end XsNexus
