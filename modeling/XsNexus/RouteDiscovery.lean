import XsNexus.Advertisements
import XsNexus.CandidateDiscovery
import XsNexus.SortedSet

namespace XsNexus

open ByteCodec FiniteMap

def subnetAdvertisementLifetime : Int := minutes 10

def subnetRefreshInterval : Int := minutes 4

structure SubnetRouteDiscovery where
  networkId : Uuid
  nodeIdBase64 : String
  addressPool : String
  projectInterfaceName : String
  generation : UInt64
  nextRefresh : Int

/-- A link, as Netlink lists it, with its names. -/
structure LinkMessage where
  index : UInt32
  ifNames : List String

inductive RouteProtocol
  | kernel | other
deriving DecidableEq

inductive RouteScope
  | link | other
deriving DecidableEq

inductive RouteAttribute
  | destination (address : Ipv4Addr)
  | oif (index : UInt32)
  | table (table : UInt32)
  | other
deriving DecidableEq

structure RouteMessage where
  destinationPrefixLength : UInt8
  protocol : RouteProtocol
  scope : RouteScope
  table : UInt8
  attributes : List RouteAttribute
deriving DecidableEq

def RouteMessage.routeTable (route : RouteMessage) : UInt32 :=
  (route.attributes.findSome? fun
    | .table table => some table
    | _ => none).getD route.table.toUInt32

def RouteMessage.destination (route : RouteMessage) : Option Ipv4Addr :=
  route.attributes.findSome? fun
    | .destination address => some address
    | _ => none

def RouteMessage.outputInterface (route : RouteMessage) : Option UInt32 :=
  route.attributes.findSome? fun
    | .oif index => some index
    | _ => none

def suggestibleInterface (name projectInterfaceName : String) : Bool :=
  decide (name ≠ projectInterfaceName) &&
    ["lo", "docker", "br-", "veth", "cni", "flannel", "virbr", "podman", "tailscale", "zt"].all
      fun start => !start.toList.isPrefixOf name.toList

/-- `is_private` -/
def Ipv4Addr.isPrivate (a : Ipv4Addr) : Bool :=
  decide (a.firstOctet = 10) || decide (a.bits.toNat / 2 ^ 20 = 172 * 16 + 1) ||
    decide (a.bits.toNat / 2 ^ 16 = 192 * 256 + 168)

/-- The names of the interfaces, the last one listed of an index -/
def interfaceNames (links : List LinkMessage) : Map UInt32 String :=
  links.foldl (fun names link =>
    match link.ifNames.head? with
    | none => names
    | some name => names.insert link.index name) ∅

/-- The body of the loop over the routes: an error, no suggestion, or one. -/
def suggestRoute (f : Formats) (addressPool projectInterfaceName : String) (names : Map UInt32 String)
    (route : RouteMessage) : Except AgentError (Option SubnetRouteSuggestion) :=
  if route.destinationPrefixLength = 0 ∨ route.protocol ≠ .kernel ∨ route.scope ≠ .link ∨
      route.routeTable ≠ 254 then
    .ok none
  else
    match route.destination, route.outputInterface with
    | some destination, some outputInterface =>
      match names.lookup outputInterface with
      | none => .ok none
      | some interfaceName =>
        if !suggestibleInterface interfaceName projectInterfaceName then .ok none
        else if h : route.destinationPrefixLength.toNat ≤ 32 then
          let net : Ipv4Net := ⟨destination, route.destinationPrefixLength.toNat, h⟩
          match validateSubnetRouteSuggestion f (f.ipv4NetText net) interfaceName addressPool with
          | .error _ => .ok none
          | .ok _ =>
            if !net.network.isPrivate then .ok none
            else .ok (some ⟨f.ipv4NetText net, interfaceName⟩)
        else .error .network
    | _, _ => .ok none

def collectSuggestions (f : Formats) (addressPool projectInterfaceName : String)
    (links : List LinkMessage) (routes : List RouteMessage) :
    Except AgentError (List SubnetRouteSuggestion) :=
  routes.foldlM (fun suggestions route => do
    match ← suggestRoute f addressPool projectInterfaceName (interfaceNames links) route with
    | none => .ok suggestions
    | some suggestion => .ok (SortedSet.insert suggestionLt suggestion suggestions)) []

namespace SubnetRouteDiscovery

def new (f : Formats) (state : NodeState) (projectInterfaceName : String) (instantNow : Int) :
    Except AgentError SubnetRouteDiscovery :=
  match f.ipv4Net state.configurationPayload.addressPool with
  | none => .error .controllerTrust
  | some _ =>
    .ok {
      networkId := state.networkId
      nodeIdBase64 := state.nodeIdBase64
      addressPool := state.configurationPayload.addressPool
      projectInterfaceName := projectInterfaceName
      generation := state.subnetRouteGeneration
      nextRefresh := instantNow }

/-- `none` for the links or routes stands for a failed call. -/
def refresh (f : Formats) (discovery : SubnetRouteDiscovery) (links : Option (List LinkMessage))
    (routes : Option (List RouteMessage)) (now instantNow : Int) :
    Except AgentError (SubnetRouteAdvertisement × SubnetRouteDiscovery) := do
  let links ← Checks.okOr .network links
  let routes ← Checks.okOr .network routes
  let suggestions ← collectSuggestions f discovery.addressPool discovery.projectInterfaceName links routes
  let generation := max (MachineWords.u64SaturatingAdd discovery.generation 1)
    (CandidateManager.clockGeneration now)
  .ok ({
    schemaVersion := 1
    networkId := discovery.networkId
    nodeIdBase64 := discovery.nodeIdBase64
    generation := generation
    generatedAt := now
    expiresAt := now + subnetAdvertisementLifetime
    suggestions := suggestions },
    { discovery with generation := generation, nextRefresh := instantNow + subnetRefreshInterval })

end SubnetRouteDiscovery

/-- The discoveries that come of the state of a node. -/
inductive ReachableRoutes (f : Formats) (state : NodeState) : SubnetRouteDiscovery → Prop
  | new {projectInterfaceName : String} {instantNow : Int} {discovery : SubnetRouteDiscovery}
      (hs : SubnetRouteDiscovery.new f state projectInterfaceName instantNow = .ok discovery) :
      ReachableRoutes f state discovery
  | refresh {discovery discovery' : SubnetRouteDiscovery} {links : Option (List LinkMessage)}
      {routes : Option (List RouteMessage)} {now instantNow : Int}
      {advertisement : SubnetRouteAdvertisement} (h : ReachableRoutes f state discovery)
      (hs : discovery.refresh f links routes now instantNow = .ok (advertisement, discovery')) :
      ReachableRoutes f state discovery'

end XsNexus
