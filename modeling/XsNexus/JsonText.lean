import XsNexus.Database

/-! The JSON that `serde_json::to_vec` writes for the records of the controller. -/

namespace XsNexus

open ByteCodec

namespace Json

def digits (n : Nat) : Bytes := (Nat.toDigits 10 n).map fun ch => UInt8.ofNat ch.toNat

def padded (width n : Nat) : Bytes :=
  List.replicate (width - (digits n).length) 48 ++ digits n

def hexByte (n : Nat) : UInt8 := UInt8.ofNat (hexDigit n).toNat

def escape (b : UInt8) : Bytes :=
  if b = 34 ∨ b = 92 then [92, b]
  else if b = 8 then utf8 "\\b"
  else if b = 9 then utf8 "\\t"
  else if b = 10 then utf8 "\\n"
  else if b = 12 then utf8 "\\f"
  else if b = 13 then utf8 "\\r"
  else if b < 32 then utf8 "\\u00" ++ [hexByte (b.toNat / 16), hexByte (b.toNat % 16)]
  else [b]

def quoted (bytes : Bytes) : Bytes := [34] ++ bytes.flatMap escape ++ [34]

def string (text : String) : Bytes := quoted (utf8 text)

/-- The items with commas between them. -/
def separated : List Bytes → Bytes
  | [] => []
  | [item] => item
  | item :: next :: items => item ++ [44] ++ separated (next :: items)

def list (items : List Bytes) : Bytes := [91] ++ separated items ++ [93]

def member (key : String) (value : Bytes) : Bytes := string key ++ [58] ++ value

def object (members : List Bytes) : Bytes := [123] ++ separated members ++ [125]

/-- `Uuid` with its hyphens -/
def uuid (id : Uuid) : Bytes :=
  let text := id.val.map fun b => [hexByte (b.toNat / 16), hexByte (b.toNat % 16)]
  let part (start count : Nat) : Bytes := ((text.drop start).take count).flatten
  quoted (part 0 4 ++ [45] ++ part 4 2 ++ [45] ++ part 6 2 ++ [45] ++ part 8 2 ++ [45] ++ part 10 6)

/-- Year, month and day of a day counted from 1970-01-01. -/
def civilFromDays (days : Int) : Int × Nat × Nat :=
  let shifted := days + 719468
  let era := shifted / 146097
  let dayOfEra := (shifted % 146097).toNat
  let yearOfEra := (dayOfEra - dayOfEra / 1460 + dayOfEra / 36524 - dayOfEra / 146096) / 365
  let dayOfYear := dayOfEra - (365 * yearOfEra + yearOfEra / 4 - yearOfEra / 100)
  let shiftedMonth := (5 * dayOfYear + 2) / 153
  let day := dayOfYear - (153 * shiftedMonth + 2) / 5 + 1
  let month := if shiftedMonth < 10 then shiftedMonth + 3 else shiftedMonth - 9
  (yearOfEra + era * 400 + (if month ≤ 2 then 1 else 0), month, day)

def year (y : Int) : Bytes :=
  if 0 ≤ y ∧ y ≤ 9999 then padded 4 y.toNat
  else (if y < 0 then [45] else [43]) ++ padded 4 y.natAbs

def fraction (nanos : Nat) : Bytes :=
  if nanos = 0 then []
  else if nanos % 10 ^ 6 = 0 then [46] ++ padded 3 (nanos / 10 ^ 6)
  else if nanos % 10 ^ 3 = 0 then [46] ++ padded 6 (nanos / 10 ^ 3)
  else [46] ++ padded 9 nanos

/-- `DateTime<Utc>` in RFC 3339 form -/
def dateTime (t : Int) : Bytes :=
  let secs := t / 10 ^ 9
  let date := civilFromDays (secs / 86400)
  let ofDay := (secs % 86400).toNat
  quoted (year date.1 ++ [45] ++ padded 2 date.2.1 ++ [45] ++ padded 2 date.2.2 ++ [84] ++
    padded 2 (ofDay / 3600) ++ [58] ++ padded 2 (ofDay / 60 % 60) ++ [58] ++ padded 2 (ofDay % 60) ++
    fraction (t % 10 ^ 9).toNat ++ [90])

def ipv4 (address : Ipv4Addr) : Bytes := utf8 address.text

def segments (address : Ipv6Addr) : List Nat :=
  (List.range 8).map fun i => address.bits.toNat / 2 ^ (16 * (7 - i)) % 2 ^ 16

def segmentText (segment : Nat) : Bytes :=
  (Nat.toDigits 16 segment).map fun ch => UInt8.ofNat ch.toNat

def colonSeparated : List Nat → Bytes
  | [] => []
  | [segment] => segmentText segment
  | segment :: next :: rest => segmentText segment ++ [58] ++ colonSeparated (next :: rest)

/-- The first of the longest runs of zero segments, as its start and its length. -/
def longestZeros (segments : List Nat) : Nat × Nat :=
  (List.range 8).foldl (fun best start =>
    let length := ((segments.drop start).takeWhile fun segment => segment = 0).length
    if best.2 < length then (start, length) else best) (0, 0)

def ipv6 (address : Ipv6Addr) : Bytes :=
  match address.toIpv4Mapped with
  | some mapped => utf8 "::ffff:" ++ ipv4 mapped
  | none =>
    let parts := segments address
    let zeros := longestZeros parts
    if zeros.2 > 1 then
      colonSeparated (parts.take zeros.1) ++ [58, 58] ++ colonSeparated (parts.drop (zeros.1 + zeros.2))
    else colonSeparated parts

def socketAddr (endpoint : SocketAddr) : Bytes :=
  match endpoint with
  | .v4 e => quoted (ipv4 e.ip ++ [58] ++ digits e.port.toNat)
  | .v6 e =>
    let scope := if e.scopeId = 0 then [] else [37] ++ digits e.scopeId.toNat
    quoted ([91] ++ ipv6 e.ip ++ scope ++ [93, 58] ++ digits e.port.toNat)

def candidateKind : EndpointCandidateKind → Bytes
  | .localAddress => string "local"
  | .publicIpv6 => string "public_ipv6"
  | .mapped => string "mapped"
  | .static => string "static"
  | .relay => string "relay"

def endpointCandidate (candidate : EndpointCandidate) : Bytes :=
  object [member "kind" (candidateKind candidate.kind),
    member "endpoint" (socketAddr candidate.endpoint),
    member "priority" (digits candidate.priority.toNat),
    member "expires_at" (dateTime candidate.expiresAt)]

def candidateAdvertisement (advertisement : CandidateAdvertisement) : Bytes :=
  object [member "schema_version" (digits advertisement.schemaVersion.toNat),
    member "network_id" (uuid advertisement.networkId),
    member "node_id_base64" (string advertisement.nodeIdBase64),
    member "generation" (digits advertisement.generation.toNat),
    member "generated_at" (dateTime advertisement.generatedAt),
    member "expires_at" (dateTime advertisement.expiresAt),
    member "candidates" (list (advertisement.candidates.map endpointCandidate))]

def subnetRouteSuggestion (suggestion : SubnetRouteSuggestion) : Bytes :=
  object [member "prefix" (string suggestion.subnetPrefix),
    member "interface_name" (string suggestion.interfaceName)]

def subnetRouteAdvertisement (advertisement : SubnetRouteAdvertisement) : Bytes :=
  object [member "schema_version" (digits advertisement.schemaVersion.toNat),
    member "network_id" (uuid advertisement.networkId),
    member "node_id_base64" (string advertisement.nodeIdBase64),
    member "generation" (digits advertisement.generation.toNat),
    member "generated_at" (dateTime advertisement.generatedAt),
    member "expires_at" (dateTime advertisement.expiresAt),
    member "suggestions" (list (advertisement.suggestions.map subnetRouteSuggestion))]

def updateChannel : UpdateChannel → Bytes
  | .stable => string "stable"
  | .testing => string "testing"
  | .development => string "development"

def configurationNode (node : ConfigurationNode) : Bytes :=
  object ([member "node_id_base64" (string node.nodeIdBase64),
    member "identity_public_key_base64" (string node.identityPublicKeyBase64),
    member "virtual_ip" (string node.virtualIp),
    member "direct_endpoints" (list (node.directEndpoints.map string)),
    member "candidates" (list (node.candidates.map endpointCandidate)),
    member "credential_serial" (digits node.credentialSerial.toNat),
    member "credential_not_after" (dateTime node.credentialNotAfter),
    member "role_bitmap" (digits node.roleBitmap.toNat),
    member "groups" (list (node.groups.map string)),
    member "tags" (list (node.tags.map string))] ++
    (node.updateChannel.map fun channel => member "update_channel" (updateChannel channel)).toList)

def configurationRelay (relay : ConfigurationRelay) : Bytes :=
  object [member "relay_id_base64" (string relay.relayIdBase64),
    member "endpoint" (socketAddr relay.endpoint),
    member "identity_public_key_base64" (string relay.identityPublicKeyBase64),
    member "priority" (digits relay.priority.toNat),
    member "expires_at" (dateTime relay.expiresAt)]

def aclAction : AclAction → Bytes
  | .allow => string "allow"
  | .deny => string "deny"

def aclProtocol : AclProtocol → Bytes
  | .any => string "any"
  | .tcp => string "tcp"
  | .udp => string "udp"
  | .icmp => string "icmp"

def aclSelector : AclSelector → Bytes
  | .any => object [member "type" (string "any")]
  | .node nodeIdBase64 =>
    object [member "type" (string "node"), member "node_id_base64" (string nodeIdBase64)]
  | .group name => object [member "type" (string "group"), member "name" (string name)]
  | .tag name => object [member "type" (string "tag"), member "name" (string name)]
  | .subnet cidr => object [member "type" (string "subnet"), member "cidr" (string cidr)]

def portRange (range : PortRange) : Bytes :=
  object [member "start" (digits range.start.toNat), member "end" (digits range.end.toNat)]

def aclRule (rule : AclRule) : Bytes :=
  object [member "id" (string rule.id),
    member "priority" (digits rule.priority.toNat),
    member "action" (aclAction rule.action),
    member "sources" (list (rule.sources.map aclSelector)),
    member "destinations" (list (rule.destinations.map aclSelector)),
    member "protocol" (aclProtocol rule.protocol),
    member "destination_ports" (list (rule.destinationPorts.map portRange))]

def subnetRouteMode : SubnetRouteMode → Bytes
  | .routed => string "routed"
  | .nat => string "nat"

def configurationSubnetRoute (route : ConfigurationSubnetRoute) : Bytes :=
  object [member "route_id" (string route.routeId),
    member "prefix" (string route.subnetPrefix),
    member "gateway_node_id_base64" (string route.gatewayNodeIdBase64),
    member "mode" (subnetRouteMode route.mode),
    member "interface_name" (string route.interfaceName),
    member "priority" (digits route.priority.toNat)]

def configurationPayload (payload : ConfigurationPayload) : Bytes :=
  object [member "schema_version" (digits payload.schemaVersion.toNat),
    member "network_id" (uuid payload.networkId),
    member "version" (digits payload.version.toNat),
    member "policy_version" (digits payload.policyVersion.toNat),
    member "generated_at" (dateTime payload.generatedAt),
    member "address_pool" (string payload.addressPool),
    member "discovery_endpoints" (list (payload.discoveryEndpoints.map socketAddr)),
    member "nodes" (list (payload.nodes.map configurationNode)),
    member "relays" (list (payload.relays.map configurationRelay)),
    member "policies" (list (payload.policies.map aclRule)),
    member "subnet_routes" (list (payload.subnetRoutes.map configurationSubnetRoute))]

end Json

example : Json.dateTime 1700000000123000000 = utf8 "\"2023-11-14T22:13:20.123Z\"" := by
  decide +kernel

example : Json.socketAddr (.v6 ⟨⟨0xfe800000000000000000000000000001⟩, 4000, 0, 2⟩) =
    utf8 "\"[fe80::1%2]:4000\"" := by decide +kernel

end XsNexus
