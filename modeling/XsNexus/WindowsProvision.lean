import XsNexus.HostPrograms
import XsNexus.WindowsRoutes

namespace XsNexus

namespace WindowsRouteManager

open HostPrograms HostPrograms.Program

inductive DadState
  | invalid | tentative | duplicate | deprecated | preferred
  | unknown (value : Int)
deriving DecidableEq

abbrev IpHelperError := UInt32

inductive Change
  | create | delete
deriving DecidableEq

/-- The calls of a `HostNetworkBackend`. -/
inductive HostOp
  | route (change : Change) (key : RouteKey)
  | address (change : Change) (interfaceLuid : UInt64) (address : Ipv4Addr) (prefixLength : UInt8)
  | dadState (interfaceLuid : UInt64) (address : Ipv4Addr) (prefixLength : UInt8)
  | waitDadPoll

def HostOp.Answer : HostOp → Type
  | route _ _ => Except IpHelperError Unit
  | address _ _ _ _ => Except IpHelperError Unit
  | dadState _ _ _ => Except IpHelperError DadState
  | waitDadPoll => Unit

abbrev HostProgram := Program HostOp HostOp.Answer

inductive ExecuteError
  | add (route : RouteKey) (source : IpHelperError)
      (compensationFailures : List (RouteKey × IpHelperError))
  | remove (route : RouteKey) (source : IpHelperError)
      (restoreFailures : List (RouteKey × IpHelperError))

inductive ProvisionError
  | addressCreate (source : IpHelperError)
  | dadQuery (source : IpHelperError) (addressCleanup : Option IpHelperError)
  | dadRejected (state : DadState) (addressCleanup : Option IpHelperError)
  | dadTimeout (addressCleanup : Option IpHelperError)
  | routes (source : ExecuteError) (addressCleanup : Option IpHelperError)

/-- Every change is tried; the failures in order. -/
def changeAll (change : Change) : List RouteKey → HostProgram (List (RouteKey × IpHelperError))
  | [] => .done []
  | route :: routes => .call (.route change route) fun
    | .ok _ => changeAll change routes
    | .error error => (changeAll change routes).bind fun failures => .done ((route, error) :: failures)

/-- The changes up to the first that fails; the ones before it are then undone in reverse order. -/
def changeOrUndo (change undo : Change) (changed : List RouteKey) : List RouteKey →
    HostProgram (Option (RouteKey × IpHelperError × List (RouteKey × IpHelperError)))
  | [] => .done none
  | route :: routes => .call (.route change route) fun
    | .ok _ => changeOrUndo change undo (changed ++ [route]) routes
    | .error source =>
      (changeAll undo changed.reverse).bind fun failures => .done (some (route, source, failures))

def executePlan (plan : ReconcilePlan) : HostProgram (Except ExecuteError Unit) :=
  (changeOrUndo .create .delete [] plan.additions).bind fun
    | some (route, source, failures) => .done (.error (.add route source failures))
    | none => (changeOrUndo .delete .create [] plan.removals).bind fun
      | some (route, source, failures) => .done (.error (.remove route source failures))
      | none => .done (.ok ())

/-- The error of a call, if it failed. -/
def err : Except IpHelperError Unit → Option IpHelperError
  | .ok _ => none
  | .error error => some error

section Provision

variable (interfaceLuid : UInt64) (address : Ipv4Addr) (prefixLength : UInt8)

/-- A failure, with what the cleanup of the address came to. -/
def cleanAddress (failure : Option IpHelperError → ProvisionError) :
    HostProgram (Except ProvisionError Unit) :=
  .call (.address .delete interfaceLuid address prefixLength) fun answer =>
    .done (.error (failure (err answer)))

/-- The loop over the polls that are left. -/
def pollDad (routes : ReconcilePlan) : Nat → HostProgram (Except ProvisionError Unit)
  | 0 => cleanAddress interfaceLuid address prefixLength .dadTimeout
  | polls + 1 => .call (.dadState interfaceLuid address prefixLength) fun
    | .ok .preferred => (executePlan routes).bind fun
      | .ok _ => .done (.ok ())
      | .error source => cleanAddress interfaceLuid address prefixLength (.routes source)
    | .ok .tentative =>
      if polls = 0 then cleanAddress interfaceLuid address prefixLength .dadTimeout
      else .call .waitDadPoll fun _ => pollDad routes polls
    | .ok state => cleanAddress interfaceLuid address prefixLength (.dadRejected state)
    | .error source => cleanAddress interfaceLuid address prefixLength (.dadQuery source)

def provisionNetwork (maximumDadPolls : Nat) (routes : ReconcilePlan) :
    HostProgram (Except ProvisionError Unit) :=
  .call (.address .create interfaceLuid address prefixLength) fun
    | .error error => .done (.error (.addressCreate error))
    | .ok _ => pollDad interfaceLuid address prefixLength routes maximumDadPolls

end Provision

structure RecoveryError where
  routeFailures : List (RouteKey × IpHelperError)
  addressFailure : Option IpHelperError

/-- The deletion of the address, if the plan has it. -/
def recoverAddress (manifest : NetworkManifest) (plan : RecoveryPlan) :
    HostProgram (Option IpHelperError) :=
  if plan.deleteAddress then
    .call (.address .delete manifest.interfaceLuid manifest.address manifest.prefixLength) fun answer =>
      .done (err answer)
  else .done none

def executeRecovery (manifest : NetworkManifest) (plan : RecoveryPlan) :
    HostProgram (Except RecoveryError Unit) :=
  (changeAll .delete plan.routes.reverse).bind fun routeFailures =>
    (recoverAddress manifest plan).bind fun addressFailure =>
      if routeFailures = [] ∧ addressFailure = none then .done (.ok ())
      else .done (.error ⟨routeFailures, addressFailure⟩)

/-- The rows of the system and the addresses of its interfaces. -/
structure RouteHost where
  rows : List ForwardRow
  addresses : List (UInt64 × Ipv4Addr)

/-- What a call meets: an error of the system, or the state of the detection of duplicates. -/
structure HostOutcome where
  error : Option IpHelperError
  dad : DadState

/-- The entry of the table that a row for a route stands for: its prefix, interface and next hop. -/
def sameEntry (row : ForwardRow) (route : RouteKey) : Bool :=
  decide (row.destination = (routeRow route).destination) &&
    decide (row.destinationPrefixLength = (routeRow route).destinationPrefixLength) &&
    decide (row.interfaceLuid = route.interfaceLuid) && decide (row.nextHop = some route.nextHop)

/-- `address_row` takes no other arguments. -/
def addressRowValid (interfaceLuid : UInt64) (address : Ipv4Addr) (prefixLength : UInt8) : Bool :=
  decide (interfaceLuid ≠ 0) && decide (1 ≤ prefixLength.toNat ∧ prefixLength.toNat ≤ 30) &&
    !address.isUnspecified

def objectAlreadyExists : IpHelperError := 5010

def notFound : IpHelperError := 1168

def invalidParameter : IpHelperError := 87

/-- `IpHelperBackend` on the system: an entry is created where there is none and deleted where there
is one, or the call fails and changes nothing. -/
def perform (op : HostOp) (outcome : HostOutcome) (host : RouteHost) : op.Answer × RouteHost :=
  match op, outcome.error with
  | .route _ _, some error => (.error error, host)
  | .route .create route, none =>
    if host.rows.any fun row => sameEntry row route then (.error objectAlreadyExists, host)
    else (.ok (), { host with rows := host.rows ++ [routeRow route] })
  | .route .delete route, none =>
    if host.rows.any fun row => sameEntry row route then
      (.ok (), { host with rows := host.rows.filter fun row => !sameEntry row route })
    else (.error notFound, host)
  | .address change interfaceLuid address prefixLength, error =>
    if !addressRowValid interfaceLuid address prefixLength then (.error invalidParameter, host)
    else
      match change, error with
      | _, some error => (.error error, host)
      | .create, none =>
        if (interfaceLuid, address) ∈ host.addresses then (.error objectAlreadyExists, host)
        else (.ok (), { host with addresses := (interfaceLuid, address) :: host.addresses })
      | .delete, none =>
        if (interfaceLuid, address) ∈ host.addresses then
          (.ok (), { host with addresses := host.addresses.filter (· ≠ (interfaceLuid, address)) })
        else (.error notFound, host)
  | .dadState interfaceLuid address prefixLength, error =>
    if !addressRowValid interfaceLuid address prefixLength then (.error invalidParameter, host)
    else
      match error with
      | some error => (.error error, host)
      | none =>
        if (interfaceLuid, address) ∈ host.addresses then (.ok outcome.dad, host)
        else (.error notFound, host)
  | .waitDadPoll, _ => ((), host)

def exactAddressPresent (host : RouteHost) (interfaceLuid : UInt64) (address : Ipv4Addr)
    (prefixLength : UInt8) : Except IpHelperError Bool :=
  if !addressRowValid interfaceLuid address prefixLength then .error invalidParameter
  else .ok (decide ((interfaceLuid, address) ∈ host.addresses))

/-- The routes that the preparation of a network records, in the order it records them. -/
def preparedRoutes (interfaceLuid : UInt64) (desiredPrefixes : List Ipv4Net) :
    Except RoutePlanError (List RouteKey) := do
  let routes ← desiredPrefixes.mapM fun net => RouteKey.project net interfaceLuid
  .ok (routes.insertionSort fun left right =>
    toLex (left.subnetPrefix.network.bits.toNat, left.subnetPrefix.prefixLen) ≤
      toLex (right.subnetPrefix.network.bits.toNat, right.subnetPrefix.prefixLen))

end WindowsRouteManager

end XsNexus
