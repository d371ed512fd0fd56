import XsNexus.Checks
import XsNexus.SubnetRoutes

namespace XsNexus

open FiniteMap

def maxRules : Nat := 4096

def maxSelectorsPerSide : Nat := 32

def maxPortRanges : Nat := 64

def maxNameLength : Nat := 64

def maxTagLength : Nat := 63

inductive AclValidationError
  | policyVersion | ruleCount | ruleOrder | duplicateRule | invalidRule | invalidSelector
  | invalidPortRange | duplicateNode
deriving DecidableEq

inductive AclSubjectKind
  | node (nodeIdBase64 : String) (groups tags : List String)
  | subnet (cidr : String)
deriving DecidableEq

structure AclSubject where
  kind : AclSubjectKind
deriving DecidableEq

inductive AclDecisionReason
  | ruleMatch | defaultDeny | unknownSource | unknownDestination
deriving DecidableEq

structure AclDecision where
  allowed : Bool
  matchedRuleId : Option String
  reason : AclDecisionReason
deriving DecidableEq

structure AclPolicy where
  rules : List AclRule
  subjects : Map Ipv4Addr AclSubject
  subnetSubjects : List (Ipv4Net × AclSubject)

def validAclName (value : String) : Bool :=
  decide (utf8 value ≠ [] ∧ (utf8 value).length ≤ maxNameLength) && isLowercaseName (utf8 value)

/-- A lowercase letter first; then letters, digits and `- _ . : /`. -/
def validTag (value : String) : Bool :=
  let bytes := utf8 value
  decide (bytes ≠ [] ∧ bytes.length ≤ maxTagLength) && bytes.head?.any isAsciiLowercase &&
    bytes.all fun byte =>
      isAsciiLowercase byte || isAsciiDigit byte || decide (byte ∈ utf8 "-_.:/")

def validNodeIdSelector (value : String) : Bool :=
  decide (utf8 value ≠ [] ∧ (utf8 value).length ≤ maxNameLength) &&
    (utf8 value).all fun byte => isAsciiAlphanumeric byte || decide (byte ∈ utf8 "_-")

def strictlyAscending (values : List String) : Bool :=
  (values.zip values.tail).all fun (left, right) => strLt left right

def canonicalGroupSet (values : List String) : Bool :=
  decide (values.length ≤ maxSelectorsPerSide) && values.all validAclName && strictlyAscending values

def canonicalTagSet (values : List String) : Bool :=
  decide (values.length ≤ maxSelectorsPerSide) && values.all validTag && strictlyAscending values

/-- The key under which `validate_selectors` remembers a selector. -/
def selectorKey (f : Formats) (subnetRoutes : SubnetRoutePolicy) : AclSelector → Option String
  | .any => some "any"
  | .node nodeIdBase64 =>
    if validNodeIdSelector nodeIdBase64 then some ("node:" ++ nodeIdBase64) else none
  | .group name => if validAclName name then some ("group:" ++ name) else none
  | .tag name => if validTag name then some ("tag:" ++ name) else none
  | .subnet cidr => do
    let net ← f.ipv4Net cidr
    if cidr ≠ f.ipv4NetText net ∨ !subnetRoutes.containsPrefix net then none
    else some ("subnet:" ++ cidr)

def checkSelector (f : Formats) (subnetRoutes : SubnetRoutePolicy) (canonical : List String)
    (selector : AclSelector) : Except AclValidationError (List String) :=
  match selectorKey f subnetRoutes selector with
  | none => .error .invalidSelector
  | some key => if key ∈ canonical then .error .invalidSelector else .ok (key :: canonical)

def validateSelectors (f : Formats) (subnetRoutes : SubnetRoutePolicy) (selectors : List AclSelector) :
    Except AclValidationError Unit :=
  if selectors.count .any > 0 ∧ selectors.length ≠ 1 then .error .invalidSelector
  else do
    let _ ← selectors.foldlM (checkSelector f subnetRoutes) []
    .ok ()

def checkPortRange (previousEnd : Option UInt16) (range : PortRange) :
    Except AclValidationError (Option UInt16) :=
  if range.start = 0 ∨ range.start > range.end ∨ previousEnd.any (fun last => last ≥ range.start) then
    .error .invalidPortRange
  else .ok (some range.end)

def validateRule (f : Formats) (rule : AclRule) (subnetRoutes : SubnetRoutePolicy) :
    Except AclValidationError Unit :=
  if rule.priority = 0 ∨ !validAclName rule.id ∨ rule.sources = [] ∨
      rule.sources.length > maxSelectorsPerSide ∨ rule.destinations = [] ∨
      rule.destinations.length > maxSelectorsPerSide ∨
      rule.destinationPorts.length > maxPortRanges ∨
      (rule.destinationPorts ≠ [] ∧ ¬(rule.protocol = .tcp ∨ rule.protocol = .udp)) then
    .error .invalidRule
  else do
    validateSelectors f subnetRoutes rule.sources
    validateSelectors f subnetRoutes rule.destinations
    let _ ← rule.destinationPorts.foldlM checkPortRange none
    .ok ()

def selectorMatches (subject : AclSubject) (selector : AclSelector) : Bool :=
  match selector, subject.kind with
  | .any, _ => true
  | .node nodeIdBase64, .node subjectNodeId _ _ => decide (nodeIdBase64 = subjectNodeId)
  | .group name, .node _ groups _ => decide (name ∈ groups)
  | .tag name, .node _ _ tags => decide (name ∈ tags)
  | .subnet cidr, .subnet subjectCidr => decide (cidr = subjectCidr)
  | _, _ => false

def selectorsMatch (selectors : List AclSelector) (subject : AclSubject) : Bool :=
  selectors.any (selectorMatches subject)

def protocolMatches (rule packet : AclProtocol) : Bool :=
  match rule, packet with
  | .any, _ => true
  | .tcp, .tcp => true
  | .udp, .udp => true
  | .icmp, .icmp => true
  | _, _ => false

def PortRange.contains (range : PortRange) (port : UInt16) : Bool :=
  decide (range.start ≤ port ∧ port ≤ range.end)

def portMatches (rule : AclRule) (destinationPort : Option UInt16) : Bool :=
  rule.destinationPorts.isEmpty || destinationPort.any fun port =>
    rule.destinationPorts.any fun range => range.contains port

def denied (reason : AclDecisionReason) : AclDecision := ⟨false, none, reason⟩

namespace AclPolicy

def subject (policy : AclPolicy) (address : Ipv4Addr) : Option AclSubject :=
  (policy.subjects.lookup address).or
    ((policy.subnetSubjects.find? fun entry => entry.1.contains address).map Prod.snd)

def evaluate (policy : AclPolicy) (source destination : Ipv4Addr) (protocol : AclProtocol)
    (destinationPort : Option UInt16) : AclDecision :=
  match policy.subject source, policy.subject destination with
  | none, _ => denied .unknownSource
  | some _, none => denied .unknownDestination
  | some sourceSubject, some destinationSubject =>
    let matching := policy.rules.find? fun rule =>
      selectorsMatch rule.sources sourceSubject &&
        selectorsMatch rule.destinations destinationSubject &&
        protocolMatches rule.protocol protocol && portMatches rule destinationPort
    match matching with
    | some rule => ⟨decide (rule.action = .allow), some rule.id, .ruleMatch⟩
    | none => denied .defaultDeny

def insertSubject (subjects : Map Ipv4Addr AclSubject) (node : ConfigurationNode) :
    Except AclValidationError (Map Ipv4Addr AclSubject) :=
  match parseIpv4Addr node.virtualIp with
  | none => .error .duplicateNode
  | some virtualIp =>
    if !canonicalGroupSet node.groups ∨ !canonicalTagSet node.tags ∨ virtualIp ∈ subjects then
      .error .duplicateNode
    else .ok (subjects.insert virtualIp ⟨.node node.nodeIdBase64 node.groups node.tags⟩)

def insertSubnetSubject (f : Formats) (subjects : List (Ipv4Net × AclSubject))
    (route : ConfigurationSubnetRoute) : Except AclValidationError (List (Ipv4Net × AclSubject)) :=
  match f.ipv4Net route.subnetPrefix with
  | none => .error .invalidSelector
  | some net =>
    if net ∈ subjects.map Prod.fst then .ok subjects
    else .ok (subjects ++ [(net, ⟨.subnet route.subnetPrefix⟩)])

/-- The body of the loop over the rules of `compile`. -/
def checkRule (f : Formats) (subnetRoutes : SubnetRoutePolicy)
    (progress : Option AclRule × List String) (rule : AclRule) :
    Except AclValidationError (Option AclRule × List String) :=
  let (previous, ruleIds) := progress
  if previous.any fun previous => previous.priority < rule.priority ∨
      (previous.priority = rule.priority ∧ ¬strLt previous.id rule.id) then
    .error .ruleOrder
  else if rule.id ∈ ruleIds then .error .duplicateRule
  else do
    validateRule f rule subnetRoutes
    .ok (some rule, rule.id :: ruleIds)

def compile (f : Formats) (configuration : ConfigurationPayload) :
    Except AclValidationError AclPolicy :=
  if configuration.policyVersion = 0 then .error .policyVersion
  else if configuration.policies.length > maxRules then .error .ruleCount
  else do
    let subjects ← configuration.nodes.foldlM insertSubject ∅
    let subnetRoutes ←
      (SubnetRoutePolicy.compile f configuration).mapError fun _ => .invalidSelector
    let subnetSubjects ← configuration.subnetRoutes.foldlM (insertSubnetSubject f) []
    let _ ← configuration.policies.foldlM (checkRule f subnetRoutes) (none, [])
    .ok ⟨configuration.policies, subjects, subnetSubjects⟩

theorem subnetRoutes_of_compile {f : Formats} {configuration : ConfigurationPayload}
    {policy : AclPolicy} (h : compile f configuration = .ok policy) :
    ∃ routes, SubnetRoutePolicy.compile f configuration = .ok routes := by
  obtain ⟨_, h⟩ := Checks.guard_ok.mp h
  obtain ⟨_, h⟩ := Checks.guard_ok.mp h
  obtain ⟨subjects, _, h⟩ := Checks.bind_ok.mp h
  obtain ⟨routes, hroutes, _⟩ := Checks.bind_ok.mp h
  exact ⟨routes, Checks.mapError_ok.mp hroutes⟩

end AclPolicy

end XsNexus
