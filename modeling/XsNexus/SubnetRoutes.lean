import XsNexus.Configuration
import XsNexus.FiniteMap

namespace XsNexus

open FiniteMap

def maxSubnetRoutes : Nat := 256

def maxRouteIdLength : Nat := 64

def maxInterfaceNameLength : Nat := 15

inductive SubnetRouteValidationError
  | routeCount | invalidRoute | invalidGateway | duplicateRoute | routeOrder | overlappingRoute
  | virtualPoolOverlap
deriving DecidableEq

structure CompiledSubnetRoute where
  routeId : String
  subnetPrefix : Ipv4Net
  gatewayNodeIdBase64 : String
  gatewayVirtualIp : Ipv4Addr
  mode : SubnetRouteMode
  interfaceName : String
  priority : UInt32
deriving DecidableEq

structure SubnetRoutePolicy where
  routes : List CompiledSubnetRoute
  gatewayNodes : Map String ConfigurationNode

def networksOverlap (left right : Ipv4Net) : Bool :=
  left.contains right.network || right.contains left.network

/-- The constant prefixes no subnet may touch. -/
def reservedPrefixes : List Ipv4Net :=
  [⟨.new 0 0 0 0, 8, by omega⟩, ⟨.new 127 0 0 0, 8, by omega⟩, ⟨.new 169 254 0 0, 16, by omega⟩,
    ⟨.new 224 0 0 0, 4, by omega⟩, ⟨.new 240 0 0 0, 4, by omega⟩]

def safeSubnetPrefix (net : Ipv4Net) : Bool :=
  decide (1 ≤ net.prefixLen ∧ net.prefixLen ≤ 30) &&
    reservedPrefixes.all fun reserved => !networksOverlap net reserved

/-- Lowercase letters and digits, and punctuation after the first byte. -/
def isLowercaseName (text : ByteCodec.Bytes) : Bool :=
  text.zipIdx.all fun (byte, index) =>
    isAsciiLowercase byte || isAsciiDigit byte || (decide (index > 0) && isNamePunctuation byte)

def validRouteId (value : String) : Bool :=
  decide (utf8 value ≠ [] ∧ (utf8 value).length ≤ maxRouteIdLength) && isLowercaseName (utf8 value)

def validInterfaceName (value : String) : Bool :=
  decide (utf8 value ≠ [] ∧ (utf8 value).length ≤ maxInterfaceNameLength) &&
    (utf8 value).all fun byte => isAsciiAlphanumeric byte || isNamePunctuation byte

def validateSubnetRouteSuggestion (f : Formats) (subnetPrefix interfaceName addressPool : String) :
    Except SubnetRouteValidationError Ipv4Net :=
  match f.ipv4Net subnetPrefix with
  | none => .error .invalidRoute
  | some net =>
    match f.ipv4Net addressPool with
    | none => .error .virtualPoolOverlap
    | some pool =>
      if subnetPrefix ≠ f.ipv4NetText net ∨ !safeSubnetPrefix net ∨
          !validInterfaceName interfaceName then
        .error .invalidRoute
      else if networksOverlap net pool then .error .virtualPoolOverlap
      else .ok net

def outOfRouteOrder (previous current : CompiledSubnetRoute) : Bool :=
  decide (previous.subnetPrefix.network.bits > current.subnetPrefix.network.bits ∨
    (previous.subnetPrefix.network = current.subnetPrefix.network ∧
      previous.subnetPrefix.prefixLen > current.subnetPrefix.prefixLen) ∨
    (previous.subnetPrefix = current.subnetPrefix ∧ previous.priority < current.priority) ∨
    (previous.subnetPrefix = current.subnetPrefix ∧ previous.priority = current.priority ∧
      ¬strLt previous.routeId current.routeId))

def checkRoutePair (left right : CompiledSubnetRoute) : Except SubnetRouteValidationError Unit :=
  if left.routeId = right.routeId then .error .duplicateRoute
  else if left.subnetPrefix = right.subnetPrefix then
    if left.priority = right.priority then .error .overlappingRoute else .ok ()
  else if networksOverlap left.subnetPrefix right.subnetPrefix then .error .overlappingRoute
  else .ok ()

def checkRoutePairs : List CompiledSubnetRoute → Except SubnetRouteValidationError Unit
  | [] => .ok ()
  | left :: rest => do
    rest.forM (checkRoutePair left)
    checkRoutePairs rest

def validateOrderAndOverlap (routes : List CompiledSubnetRoute) :
    Except SubnetRouteValidationError Unit :=
  if (routes.zip routes.tail).any fun (previous, current) => outOfRouteOrder previous current then
    .error .routeOrder
  else checkRoutePairs routes

namespace SubnetRoutePolicy

def insertGatewayNode (nodes : Map String ConfigurationNode) (node : ConfigurationNode) :
    Except SubnetRouteValidationError (Map String ConfigurationNode) :=
  if node.nodeIdBase64 ∈ nodes then .error .invalidGateway
  else .ok (nodes.insert node.nodeIdBase64 node)

/-- The body of the loop over the routes of `compile`. -/
def compileRoute (f : Formats) (virtualPool : Ipv4Net) (gatewayNodes : Map String ConfigurationNode)
    (progress : List String × List CompiledSubnetRoute) (route : ConfigurationSubnetRoute) :
    Except SubnetRouteValidationError (List String × List CompiledSubnetRoute) :=
  let (routeIds, compiled) := progress
  if !validRouteId route.routeId ∨ route.routeId ∈ routeIds ∨ route.priority = 0 ∨
      !validInterfaceName route.interfaceName then
    .error .invalidRoute
  else
    match f.ipv4Net route.subnetPrefix with
    | none => .error .invalidRoute
    | some net =>
      if route.subnetPrefix ≠ f.ipv4NetText net ∨ !safeSubnetPrefix net then .error .invalidRoute
      else if networksOverlap net virtualPool then .error .virtualPoolOverlap
      else
        match gatewayNodes.lookup route.gatewayNodeIdBase64 with
        | none => .error .invalidGateway
        | some gateway =>
          match parseIpv4Addr gateway.virtualIp with
          | none => .error .invalidGateway
          | some gatewayVirtualIp =>
            .ok (route.routeId :: routeIds, compiled ++ [{
              routeId := route.routeId
              subnetPrefix := net
              gatewayNodeIdBase64 := route.gatewayNodeIdBase64
              gatewayVirtualIp := gatewayVirtualIp
              mode := route.mode
              interfaceName := route.interfaceName
              priority := route.priority }])

def compile (f : Formats) (configuration : ConfigurationPayload) :
    Except SubnetRouteValidationError SubnetRoutePolicy :=
  if configuration.subnetRoutes.length > maxSubnetRoutes then .error .routeCount
  else
    match f.ipv4Net configuration.addressPool with
    | none => .error .virtualPoolOverlap
    | some virtualPool => do
      let gatewayNodes ← configuration.nodes.foldlM insertGatewayNode ∅
      let (_, compiled) ←
        configuration.subnetRoutes.foldlM (compileRoute f virtualPool gatewayNodes) ([], [])
      validateOrderAndOverlap compiled
      .ok ⟨compiled, gatewayNodes⟩

def containsPrefix (policy : SubnetRoutePolicy) (net : Ipv4Net) : Bool :=
  policy.routes.any fun route => route.subnetPrefix = net

def gatewayAvailable (policy : SubnetRoutePolicy) (nodeIdBase64 : String) (now : Int) : Bool :=
  (policy.gatewayNodes.lookup nodeIdBase64).any fun node =>
    !node.directEndpoints.isEmpty ||
      node.candidates.any fun candidate => candidate.kind ≠ .relay ∧ candidate.expiresAt > now

def resolveDestination (policy : SubnetRoutePolicy) (destination : Ipv4Addr) (now : Int) :
    Option CompiledSubnetRoute :=
  (policy.routes.filter fun route => route.subnetPrefix.contains destination).find? fun route =>
    policy.gatewayAvailable route.gatewayNodeIdBase64 now

def sourceOwnedByGateway (policy : SubnetRoutePolicy) (source : Ipv4Addr)
    (gatewayNodeIdBase64 : String) : Bool :=
  policy.routes.any fun route =>
    route.gatewayNodeIdBase64 = gatewayNodeIdBase64 ∧ route.subnetPrefix.contains source

def permitsRoutedSession (policy : SubnetRoutePolicy) (localNodeIdBase64 peerNodeIdBase64 : String) :
    Bool :=
  policy.routes.any fun route => route.gatewayNodeIdBase64 = localNodeIdBase64 ∨
    route.gatewayNodeIdBase64 = peerNodeIdBase64

def localGatewayRoute (policy : SubnetRoutePolicy) (localNodeIdBase64 : String)
    (destination : Ipv4Addr) : Option CompiledSubnetRoute :=
  policy.routes.find? fun route =>
    route.gatewayNodeIdBase64 = localNodeIdBase64 ∧ route.subnetPrefix.contains destination

end SubnetRoutePolicy

end XsNexus
