import XsNexus.HostPrograms
import XsNexus.NetworkPlan
import XsNexus.RouteDiscovery

namespace XsNexus

open ByteCodec FiniteMap HostPrograms HostPrograms.Program

namespace LinuxNetwork

structure GatewayRoute where
  subnetPrefix : Ipv4Net
  interfaceName : String
  mode : SubnetRouteMode
deriving DecidableEq

structure ForwardingRecord where
  interfaceName : String
  previousValue : UInt8
deriving DecidableEq

structure NetworkManifest where
  schemaVersion : UInt8
  interfaceName : String
  interfaceIndex : UInt32
  mtu : UInt16
  virtualIp : Ipv4Addr
  addressPool : Ipv4Net
  subnetRoutes : List Ipv4Net
  gatewayRoutes : List GatewayRoute
  forwarding : List ForwardingRecord
  natTableName : Option String
deriving DecidableEq

structure TunNetwork where
  plan : NetworkPlan
  interfaceIndex : UInt32
  subnetRoutes : List Ipv4Net
  gatewayRoutes : List GatewayRoute
  forwarding : List ForwardingRecord
  natTableName : Option String
deriving DecidableEq

def tableName (projectInterfaceName : String) : String := "xs_nexus_" ++ projectInterfaceName

/-- The calls that read or change the host. The ones to nftables include their connection. -/
inductive HostOp
  | findLink (name : String)
  | ensureRouteAvailable (addressPool : Ipv4Net)
  | openDevice (name : String)
  | configureLink
  | closeDevice
  | waitForLinkRemoval
  | deleteRoutes
  | forwardingValue (interfaceName : String)
  | setForwarding (interfaceName : String) (value : UInt8)
  | forwardingPathExists (interfaceName : String)
  | createTable (name : String)
  | createChain (name : String)
  | createNatRule (name : String) (projectInterfaceName : String) (route : GatewayRoute)
  | deleteTable (name : String)
  | manifestExists
  | readManifest
  | writeManifest (manifest : NetworkManifest)
  | removeManifest

def HostOp.Answer : HostOp → Type
  | findLink _ => Except AgentError Bool
  | ensureRouteAvailable _ => Except AgentError Unit
  | openDevice _ => Except AgentError Unit
  | configureLink => Except AgentError UInt32
  | closeDevice => Unit
  | waitForLinkRemoval => Bool
  | deleteRoutes => Bool
  | forwardingValue _ => Except AgentError UInt8
  | setForwarding _ _ => Except AgentError Unit
  | forwardingPathExists _ => Bool
  | createTable _ => Except AgentError Unit
  | createChain _ => Except AgentError Unit
  | createNatRule _ _ _ => Except AgentError Unit
  | deleteTable _ => Except AgentError Unit
  | manifestExists => Bool
  | readManifest => Except AgentError NetworkManifest
  | writeManifest _ => Except AgentError Unit
  | removeManifest => Except AgentError Unit

abbrev HostProgram := Program HostOp HostOp.Answer

def findLink (name : String) : HostProgram (Except AgentError Bool) := .call (.findLink name) .done

def ensureRouteAvailable (addressPool : Ipv4Net) : HostProgram (Except AgentError Unit) :=
  .call (.ensureRouteAvailable addressPool) .done

def openDevice (name : String) : HostProgram (Except AgentError Unit) := .call (.openDevice name) .done

def createTable (name : String) : HostProgram (Except AgentError Unit) := .call (.createTable name) .done

def createChain (name : String) : HostProgram (Except AgentError Unit) := .call (.createChain name) .done

def createNatRule (name projectInterfaceName : String) (route : GatewayRoute) :
    HostProgram (Except AgentError Unit) := .call (.createNatRule name projectInterfaceName route) .done

def deleteTable (name : String) : HostProgram (Except AgentError Unit) := .call (.deleteTable name) .done

def readManifest : HostProgram (Except AgentError NetworkManifest) := .call .readManifest .done

def removeManifest : HostProgram (Except AgentError Unit) := .call .removeManifest .done

/-- `?` -/
def andThen {α β : Type} (program : HostProgram (Except AgentError α))
    (next : α → HostProgram (Except AgentError β)) : HostProgram (Except AgentError β) :=
  program.bind fun
    | .ok result => next result
    | .error error => .done (.error error)

/-- Every write is tried. -/
def setAll : List (String × UInt8) → HostProgram Bool
  | [] => .done true
  | (interfaceName, value) :: writes => .call (.setForwarding interfaceName value) fun (answer : Except AgentError Unit) =>
    (setAll writes).bind fun written => .done (answer.toBool && written)

/-- The writes up to the first that fails. -/
def setUpTo : List (String × UInt8) → HostProgram (Except AgentError Unit)
  | [] => .done (.ok ())
  | (interfaceName, value) :: writes => .call (.setForwarding interfaceName value) fun
    | .ok _ => setUpTo writes
    | .error error => .done (.error error)

def disabled (records : List ForwardingRecord) : List (String × UInt8) :=
  records.map fun record => (record.interfaceName, 0)

def previous (records : List ForwardingRecord) : List (String × UInt8) :=
  records.map fun record => (record.interfaceName, record.previousValue)

def checked (done : Bool) : Except AgentError Unit := if done then .ok () else .error .network

def restoreForwarding (records : List ForwardingRecord) : HostProgram (Except AgentError Unit) :=
  (setAll (previous records)).bind fun restored => .done (checked restored)

def createNatRules (name projectInterfaceName : String) :
    List GatewayRoute → HostProgram (Except AgentError Unit)
  | [] => .done (.ok ())
  | route :: routes => andThen (createNatRule name projectInterfaceName route) fun _ =>
    createNatRules name projectInterfaceName routes

def createNatTable (name projectInterfaceName : String) (natRoutes : List GatewayRoute) :
    HostProgram (Except AgentError Unit) :=
  andThen (createTable name) fun _ =>
    (andThen (createChain name) fun _ =>
      createNatRules name projectInterfaceName natRoutes).bind fun
      | .ok _ => .done (.ok ())
      | .error error => .call (.deleteTable name) fun _ => .done (.error error)

def replaceNatTable (name projectInterfaceName : String) (previouslyOwned : Bool)
    (routes : List GatewayRoute) : HostProgram (Except AgentError Unit) :=
  let natRoutes := routes.filter fun route => route.mode = .nat
  let create := if natRoutes = [] then .done (.ok ())
    else createNatTable name projectInterfaceName natRoutes
  if previouslyOwned then andThen (deleteTable name) fun _ => create else create

def replaceNamed (name : Option String) (projectInterfaceName : String) (previouslyOwned : Bool)
    (routes : List GatewayRoute) : HostProgram (Except AgentError Unit) :=
  match name with
  | none => .done (.ok ())
  | some name => replaceNatTable name projectInterfaceName previouslyOwned routes

section

local instance gatewayLawful : LawfulBEq (Ipv4Net × String) := inferInstance

/-- The body of the loop over the routes of the kernel, with the pairs found so far. -/
def findGatewayRoute (interfaceNames : Map UInt32 String) (desired found : List (Ipv4Net × String))
    (route : RouteMessage) : Except AgentError (List (Ipv4Net × String)) :=
  if route.destinationPrefixLength = 0 ∨ route.protocol ≠ .kernel ∨ route.scope ≠ .link ∨
      route.routeTable ≠ 254 then
    .ok found
  else
    match route.destination, route.outputInterface with
    | some destination, some outputInterface =>
      match interfaceNames.lookup outputInterface with
      | none => .ok found
      | some interfaceName =>
        if h : route.destinationPrefixLength.toNat ≤ 32 then
          let net : Ipv4Net := ⟨destination, route.destinationPrefixLength.toNat, h⟩
          if (net, interfaceName) ∈ desired ∧ (net, interfaceName) ∉ found then
            .ok ((net, interfaceName) :: found)
          else .ok found
        else .error .network
    | _, _ => .ok found

end

/-- `none` for the links or the routes stands for a failed call. -/
def validateGatewayRoutes (links : Option (List LinkMessage)) (kernelRoutes : Option (List RouteMessage))
    (routes : List GatewayRoute) (projectInterfaceName : String) : Except AgentError Unit :=
  if routes = [] then .ok ()
  else
    match links with
    | none => .error .network
    | some links =>
      let names := interfaceNames links
      if routes.any fun route => route.interfaceName = projectInterfaceName ||
          !names.entries.any fun entry => entry.2 = route.interfaceName then
        .error .network
      else
        match kernelRoutes with
        | none => .error .network
        | some kernelRoutes => do
          let desired := (routes.map fun route => (route.subnetPrefix, route.interfaceName)).dedup
          let found ← kernelRoutes.foldlM (findGatewayRoute names desired) []
          if found.length ≠ desired.length then .error .network else .ok ()

namespace NetworkManifest

/-- The plan that a manifest was written for. -/
def matchesPlan (manifest : NetworkManifest) (plan : NetworkPlan) : Bool :=
  decide (1 ≤ manifest.schemaVersion ∧ manifest.schemaVersion ≤ 3) &&
    decide (manifest.interfaceName = plan.interfaceName) && decide (manifest.mtu = plan.mtu) &&
    decide (manifest.virtualIp = plan.virtualIp) && decide (manifest.addressPool = plan.addressPool)

end NetworkManifest

/-- The records whose interface has a forwarding file. -/
def activeRecords : List ForwardingRecord → HostProgram (List ForwardingRecord)
  | [] => .done []
  | record :: records => .call (.forwardingPathExists record.interfaceName) fun (present : Bool) =>
    (activeRecords records).bind fun active => .done (if present then record :: active else active)

/-- The deletion of a table that may have no name. -/
def deleteNatTable : Option String → HostProgram Bool
  | none => .done true
  | some name => (deleteTable name).bind fun answer => .done answer.toBool

/-- Turns forwarding off for the records, deletes the table and restores the records. -/
def cleanup (records : List ForwardingRecord) (natTableName : Option String) : HostProgram Bool :=
  (setAll (disabled records)).bind fun turnedOff =>
    (deleteNatTable natTableName).bind fun deleted =>
      (setAll (previous records)).bind fun restored => .done (turnedOff && deleted && restored)

def cleanupManifestGateway (manifest : NetworkManifest) : HostProgram (Except AgentError Unit) :=
  (activeRecords manifest.forwarding).bind fun active =>
    (cleanup active manifest.natTableName).bind fun cleaned => .done (checked cleaned)

def recoverStale (plan : NetworkPlan) : HostProgram (Except AgentError Unit) :=
  andThen (findLink plan.interfaceName) fun active =>
    if active then .done (.error .network)
    else .call .manifestExists fun (present : Bool) =>
      if !present then .done (.ok ())
      else andThen readManifest fun manifest =>
        if !manifest.matchesPlan plan then .done (.error .network)
        else andThen (cleanupManifestGateway manifest) fun _ => removeManifest

namespace TunNetwork

def manifest (network : TunNetwork) : NetworkManifest where
  schemaVersion := 3
  interfaceName := network.plan.interfaceName
  interfaceIndex := network.interfaceIndex
  mtu := network.plan.mtu
  virtualIp := network.plan.virtualIp
  addressPool := network.plan.addressPool
  subnetRoutes := network.subnetRoutes
  gatewayRoutes := network.gatewayRoutes
  forwarding := network.forwarding
  natTableName := network.natTableName

/-- The device is closed with an error. -/
def abandon (error : AgentError) : HostProgram (Except AgentError TunNetwork) :=
  .call .closeDevice fun _ => .done (.error error)

def create (plan : NetworkPlan) : HostProgram (Except AgentError TunNetwork) :=
  andThen (recoverStale plan) fun _ =>
    andThen (findLink plan.interfaceName) fun active =>
      if active then .done (.error .network)
      else andThen (ensureRouteAvailable plan.addressPool) fun _ =>
        andThen (openDevice plan.interfaceName) fun _ =>
          .call .configureLink fun
            | .error error => abandon error
            | .ok interfaceIndex =>
              let network : TunNetwork := ⟨plan, interfaceIndex, [], [], [], none⟩
              .call (.writeManifest network.manifest) fun
                | .error _ => abandon .network
                | .ok _ => .done (.ok network)

/-- Whether every record can be read back as turned on. -/
def allTurnedOn : List ForwardingRecord → HostProgram (Except AgentError Unit)
  | [] => .done (.ok ())
  | record :: records => .call (.forwardingValue record.interfaceName) fun (answer : Except AgentError UInt8) =>
    if answer.toOption = some 1 then allTurnedOn records else .done (.error .network)

/-- The values of the interfaces that have no record yet are recorded. -/
def recordForwarding (records : List ForwardingRecord) :
    List String → HostProgram (List ForwardingRecord × Except AgentError Unit)
  | [] => .done (records, .ok ())
  | interfaceName :: interfaceNames =>
    if records.any fun record => record.interfaceName = interfaceName then
      recordForwarding records interfaceNames
    else .call (.forwardingValue interfaceName) fun
      | .error error => .done (records, .error error)
      | .ok value => recordForwarding (records ++ [⟨interfaceName, value⟩]) interfaceNames

def desiredInterfaces (network : TunNetwork) (desired : List GatewayRoute) : List String :=
  if desired = [] then []
  else (network.plan.interfaceName :: desired.map fun route => route.interfaceName).dedup

def sortRecords (records : List ForwardingRecord) : List ForwardingRecord :=
  records.insertionSort fun left right => ¬strLt right.interfaceName left.interfaceName

/-- The changes to the host after the manifest has been written, with what is left to restore. -/
def applyGateway (network : TunNetwork) (previousTable desiredTable : Option String)
    (order : List String) (desired : List GatewayRoute) : HostProgram (Except AgentError Unit × TunNetwork) :=
  (setUpTo (disabled network.forwarding)).bind fun
    | .error error => .done (.error error, network)
    | .ok _ =>
      (replaceNamed (previousTable.or desiredTable) network.plan.interfaceName previousTable.isSome
          desired).bind fun
        | .error error => .done (.error error, network)
        | .ok _ =>
          let network := { network with natTableName := desiredTable }
          (setUpTo (order.map fun interfaceName => (interfaceName, 1))).bind fun
            | .error error => .done (.error error, network)
            | .ok _ =>
              (restoreForwarding
                (network.forwarding.filter fun record => record.interfaceName ∉ order)).bind fun
                | .error error => .done (.error error, network)
                | .ok _ =>
                  let network := { network with
                    forwarding := network.forwarding.filter fun record => record.interfaceName ∈ order }
                  .call (.writeManifest network.manifest) fun answer => .done (answer, network)

/-- The set of the desired interfaces is iterated in any order. -/
def reconcileGatewayRoutes (network : TunNetwork) (links : Option (List LinkMessage))
    (kernelRoutes : Option (List RouteMessage)) (order : List String) (desired : List GatewayRoute) :
    HostProgram (Except AgentError Unit × TunNetwork) :=
  match validateGatewayRoutes links kernelRoutes desired network.plan.interfaceName with
  | .error error => .done (.error error, network)
  | .ok _ =>
    if desired = network.gatewayRoutes then
      (allTurnedOn network.forwarding).bind fun result => .done (result, network)
    else
      (recordForwarding network.forwarding order).bind fun
        | (records, .error error) => .done (.error error, { network with forwarding := records })
        | (records, .ok _) =>
          let desiredTable := if desired.any fun route => route.mode = .nat then
            some (tableName network.plan.interfaceName) else none
          let named := { network with
            forwarding := sortRecords records
            natTableName := network.natTableName.or desiredTable
            gatewayRoutes := desired }
          .call (.writeManifest named.manifest) fun
            | .error error => .done (.error error, named)
            | .ok _ => named.applyGateway network.natTableName desiredTable order desired

def shutdown (network : TunNetwork) : HostProgram (Except AgentError Unit) :=
  (cleanup network.forwarding network.natTableName).bind fun cleaned =>
    .call .deleteRoutes fun (routesRemoved : Bool) =>
      .call .closeDevice fun _ =>
        .call .waitForLinkRemoval fun (interfaceRemoved : Bool) =>
          removeManifest.bind fun manifestRemoved =>
            .done (checked (cleaned && routesRemoved && interfaceRemoved && manifestRemoved.toBool))

end TunNetwork

/-- The device of the agent, with the forwarding value it came with and the one it has. -/
structure TunDevice where
  name : String
  initial : UInt8
  value : UInt8

inductive TableOwner
  | project | foreign
deriving DecidableEq

structure LinuxHost where
  forwarding : String → Option UInt8
  tun : Option TunDevice
  tables : String → Option TableOwner
  manifest : Option NetworkManifest

/-- Whether a call fails, and what the host comes up with for one that does not. -/
structure HostOutcome where
  fails : Bool
  value : UInt8
  interfaceIndex : UInt32

namespace LinuxHost

def forwardingOf (host : LinuxHost) (name : String) : Option UInt8 :=
  match host.tun with
  | none => host.forwarding name
  | some tun => if tun.name = name then some tun.value else host.forwarding name

def writeForwarding (host : LinuxHost) (name : String) (value : UInt8) : LinuxHost :=
  match host.tun with
  | none => { host with forwarding := Function.update host.forwarding name (some value) }
  | some tun =>
    if tun.name = name then { host with tun := some { tun with value := value } }
    else { host with forwarding := Function.update host.forwarding name (some value) }

end LinuxHost

/-- A call carried out by the host: it fails without effect where the outcome says so, and where what
it needs is not there or in the way. -/
def perform (op : HostOp) (outcome : HostOutcome) (host : LinuxHost) : op.Answer × LinuxHost :=
  match op with
  | .findLink name =>
    if outcome.fails then (.error .network, host) else (.ok (host.forwardingOf name).isSome, host)
  | .ensureRouteAvailable _ => if outcome.fails then (.error .network, host) else (.ok (), host)
  | .openDevice name =>
    if outcome.fails ∨ (host.forwardingOf name).isSome ∨ host.tun.isSome then (.error .network, host)
    else (.ok (), { host with tun := some ⟨name, outcome.value, outcome.value⟩ })
  | .configureLink =>
    if outcome.fails then (.error .network, host) else (.ok outcome.interfaceIndex, host)
  | .closeDevice => ((), { host with tun := none })
  | .waitForLinkRemoval => (!outcome.fails, host)
  | .deleteRoutes => (!outcome.fails, host)
  | .forwardingValue interfaceName =>
    match host.forwardingOf interfaceName with
    | none => (.error .network, host)
    | some value =>
      if outcome.fails ∨ value > 1 then (.error .network, host) else (.ok value, host)
  | .setForwarding interfaceName value =>
    if outcome.fails ∨ value > 1 ∨ host.forwardingOf interfaceName = none then (.error .network, host)
    else (.ok (), host.writeForwarding interfaceName value)
  | .forwardingPathExists interfaceName => ((host.forwardingOf interfaceName).isSome, host)
  | .createTable name =>
    if outcome.fails ∨ (host.tables name).isSome then (.error .network, host)
    else (.ok (), { host with tables := Function.update host.tables name (some .project) })
  | .createChain _ => if outcome.fails then (.error .network, host) else (.ok (), host)
  | .createNatRule _ _ _ => if outcome.fails then (.error .network, host) else (.ok (), host)
  | .deleteTable name =>
    if outcome.fails then (.error .network, host)
    else (.ok (), { host with tables := Function.update host.tables name none })
  | .manifestExists => (host.manifest.isSome, host)
  | .readManifest =>
    match host.manifest with
    | none => (.error .state, host)
    | some manifest => if outcome.fails then (.error .state, host) else (.ok manifest, host)
  | .writeManifest manifest =>
    if outcome.fails then (.error .state, host) else (.ok (), { host with manifest := some manifest })
  | .removeManifest =>
    if outcome.fails then (.error .network, host) else (.ok (), { host with manifest := none })

/-- The end of the process closes its device. -/
def LinuxHost.crashed (host : LinuxHost) : LinuxHost := { host with tun := none }

inductive Command
  | create (plan : NetworkPlan)
  | reconcile (links : Option (List LinkMessage)) (kernelRoutes : Option (List RouteMessage))
      (order : List String) (desired : List GatewayRoute)
  | shutdown
  | recoverStale (plan : NetworkPlan)

/-- What a command runs on the host with a network or without one, if it can; the network it leaves. -/
def Command.program (command : Command) (agent : Option TunNetwork) :
    Option (HostProgram (Except AgentError Unit × Option TunNetwork)) :=
  match command, agent with
  | .create plan, none => some ((TunNetwork.create plan).bind fun
    | .ok network => .done (.ok (), some network)
    | .error error => .done (.error error, none))
  | .reconcile links kernelRoutes order desired, some network =>
    if order.Perm (network.desiredInterfaces desired) then
      some ((network.reconcileGatewayRoutes links kernelRoutes order desired).bind fun answer =>
        .done (answer.1, some answer.2))
    else none
  | .shutdown, some network => some (network.shutdown.bind fun result => .done (result, none))
  | .recoverStale plan, none => some ((LinuxNetwork.recoverStale plan).bind fun result => .done (result, none))
  | _, _ => none

/-- The runs of commands on a host, each with any outcomes of its calls that the condition allows, and
a crash wherever the outcomes end. -/
inductive Run (Allowed : TunNetwork → LinuxHost → Command → List HostOutcome → Prop) (before : LinuxHost) :
    Option TunNetwork → LinuxHost → Prop
  | start : Run Allowed before none before
  | next {agent agent' : Option TunNetwork} {host host' : LinuxHost} {command : Command}
      {program : HostProgram (Except AgentError Unit × Option TunNetwork)}
      {outcomes : List HostOutcome} {result : Except AgentError Unit} (run : Run Allowed before agent host)
      (hprogram : command.program agent = some program)
      (hallowed : ∀ network ∈ agent, Allowed network host command outcomes)
      (hexec : program.exec perform outcomes host = (some (result, agent'), host')) :
      Run Allowed before agent' host'
  | crash {agent : Option TunNetwork} {host host' : LinuxHost} {command : Command}
      {program : HostProgram (Except AgentError Unit × Option TunNetwork)}
      {outcomes : List HostOutcome} (run : Run Allowed before agent host)
      (hprogram : command.program agent = some program)
      (hallowed : ∀ network ∈ agent, Allowed network host command outcomes)
      (hexec : program.exec perform outcomes host = (none, host')) :
      Run Allowed before none host'.crashed

end LinuxNetwork

end XsNexus
