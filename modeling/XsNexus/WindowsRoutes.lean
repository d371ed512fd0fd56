import XsNexus.Checks
import XsNexus.SubnetRoutes

namespace XsNexus

open Checks

def Ipv4Addr.isLinkLocal (a : Ipv4Addr) : Bool := decide (a.bits.toNat / 2 ^ 16 = 169 * 256 + 254)

namespace WindowsRouteManager

def maxSystemRoutes : Nat := 4096

def projectRouteMetric : UInt32 := 32

structure RouteKey where
  subnetPrefix : Ipv4Net
  interfaceLuid : UInt64
  nextHop : Ipv4Addr
  metric : UInt32
deriving DecidableEq

inductive RoutePlanError
  | routeTableLimit | unsafeRoute | duplicateRoute | foreignOverlap | ownershipDrift
deriving DecidableEq

structure SystemRoute where
  key : RouteKey
  projectOwned : Bool
deriving DecidableEq

structure ReconcilePlan where
  additions : List RouteKey
  compensation : List RouteKey
  removals : List RouteKey
deriving DecidableEq

def overlaps (left right : Ipv4Net) : Bool := networksOverlap left right

def reserved (net : Ipv4Net) : Bool := reservedPrefixes.any (overlaps net)

/-- For a length that `Ipv4Net::new` takes. -/
def safeHostAddress (address : Ipv4Addr) (prefixLen : UInt8) : Bool :=
  if h : prefixLen.toNat ≤ 32 then
    let net : Ipv4Net := ⟨address, prefixLen.toNat, h⟩
    decide (address ≠ net.network) && decide (address ≠ net.broadcast) && !address.isUnspecified &&
      !address.isLoopback && !address.isLinkLocal && !address.isMulticast
  else false

namespace RouteKey

def project (net : Ipv4Net) (interfaceLuid : UInt64) : Except RoutePlanError RouteKey :=
  if interfaceLuid = 0 ∨ ¬(1 ≤ net.prefixLen ∧ net.prefixLen ≤ 30) ∨ net.network ≠ net.addr ∨
      reserved net then
    .error .unsafeRoute
  else
    .ok {
      subnetPrefix := net
      interfaceLuid := interfaceLuid
      nextHop := .UNSPECIFIED
      metric := projectRouteMetric }

def isProjectShape (route : RouteKey) (expectedLuid : UInt64) : Bool :=
  decide (route.interfaceLuid = expectedLuid) && decide (route.nextHop = .UNSPECIFIED) &&
    decide (route.metric = projectRouteMetric) &&
    decide (project route.subnetPrefix expectedLuid = .ok route)

/-- The key of a desired route. -/
def ofPrefix (interfaceLuid : UInt64) (net : Ipv4Net) : RouteKey where
  subnetPrefix := net
  interfaceLuid := interfaceLuid
  nextHop := .UNSPECIFIED
  metric := projectRouteMetric

theorem project_ok {net : Ipv4Net} {interfaceLuid : UInt64} {key : RouteKey} :
    project net interfaceLuid = .ok key ↔
      (interfaceLuid ≠ 0 ∧ (1 ≤ net.prefixLen ∧ net.prefixLen ≤ 30) ∧ net.network = net.addr ∧
        ¬reserved net) ∧ key = ofPrefix interfaceLuid net := by
  unfold project
  rw [guard_ok]
  simp only [not_or, not_not, Except.ok.injEq, ne_eq]
  exact and_congr Iff.rfl eq_comm

theorem mapM_project {interfaceLuid : UInt64} {desired : List Ipv4Net} {keys : List RouteKey}
    (h : (desired.mapM fun net => project net interfaceLuid) = .ok keys) :
    keys = desired.map (ofPrefix interfaceLuid) ∧ ∀ net ∈ desired, interfaceLuid ≠ 0 ∧
      (1 ≤ net.prefixLen ∧ net.prefixLen ≤ 30) ∧ net.network = net.addr ∧ ¬reserved net := by
  have hall := mapM_ok.mp h
  clear h
  induction hall with
  | nil => simp
  | cons hkey _ ih =>
    obtain ⟨hgood, rfl⟩ := project_ok.mp hkey
    exact ⟨by rw [List.map_cons, ih.1], List.forall_mem_cons.mpr ⟨hgood, ih.2⟩⟩

end RouteKey

/-- `route_order`, compared as a tuple -/
def routeOrder (route : RouteKey) : Nat ×ₗ Nat ×ₗ Nat ×ₗ Nat :=
  toLex (route.subnetPrefix.network.bits.toNat, toLex (route.subnetPrefix.prefixLen,
    toLex (route.interfaceLuid.toNat, route.metric.toNat)))

/-- `sort_by_key(route_order)` -/
def sortRoutes (routes : List RouteKey) : List RouteKey :=
  routes.insertionSort fun left right => routeOrder left ≤ routeOrder right

def requireUnique (routes : List RouteKey) : Except RoutePlanError Unit :=
  if routes.Nodup then .ok () else .error .duplicateRoute

/-- The system has the route, and as one of the project the first time. -/
def stillOwned (system : List SystemRoute) (route : RouteKey) : Bool :=
  match system.find? fun entry => entry.key = route with
  | none => false
  | some entry => entry.projectOwned

def planReconcile (interfaceLuid : UInt64) (desired : List Ipv4Net) (owned : List RouteKey)
    (system : List SystemRoute) : Except RoutePlanError ReconcilePlan :=
  if system.length > maxSystemRoutes then .error .routeTableLimit
  else do
    let desired ← desired.mapM fun net => RouteKey.project net interfaceLuid
    requireUnique desired
    requireUnique owned
    if owned.any fun route => !route.isProjectShape interfaceLuid || !stillOwned system route then
      .error .ownershipDrift
    else if desired.any fun wanted => system.any fun existing =>
        !existing.projectOwned && overlaps existing.key.subnetPrefix wanted.subnetPrefix then
      .error .foreignOverlap
    else
      let additions := sortRoutes (desired.filter (· ∉ owned))
      .ok {
        additions := additions
        compensation := additions.reverse
        removals := sortRoutes (owned.filter (· ∉ desired)) }

inductive ManifestState
  | preparing | active
deriving DecidableEq

structure NetworkManifest where
  schemaVersion : UInt8
  state : ManifestState
  interfaceLuid : UInt64
  address : Ipv4Addr
  prefixLength : UInt8
  routes : List RouteKey
deriving DecidableEq

inductive ManifestError
  | size | unsafeAddress | schema | unsafeRoute | duplicateRoute | routeOrder | ownershipDrift
deriving DecidableEq

namespace NetworkManifest

/-- The body of the loop over the routes, with the order of the route before and the routes so far. -/
def validateRoute (interfaceLuid : UInt64)
    (progress : Option (Nat ×ₗ Nat ×ₗ Nat ×ₗ Nat) × List RouteKey) (route : RouteKey) :
    Except ManifestError (Option (Nat ×ₗ Nat ×ₗ Nat ×ₗ Nat) × List RouteKey) :=
  if !route.isProjectShape interfaceLuid then .error .unsafeRoute
  else if route ∈ progress.2 then .error .duplicateRoute
  else if progress.1.any fun value => value ≥ routeOrder route then .error .routeOrder
  else .ok (some (routeOrder route), route :: progress.2)

def validate (manifest : NetworkManifest) : Except ManifestError Unit :=
  if manifest.schemaVersion ≠ 1 then .error .schema
  else if manifest.interfaceLuid = 0 ∨
      ¬(1 ≤ manifest.prefixLength.toNat ∧ manifest.prefixLength.toNat ≤ 30) ∨
      !safeHostAddress manifest.address manifest.prefixLength then
    .error .unsafeAddress
  else do
    let _ ← manifest.routes.foldlM (validateRoute manifest.interfaceLuid) (none, [])
    .ok ()

def new (state : ManifestState) (interfaceLuid : UInt64) (address : Ipv4Addr) (prefixLength : UInt8)
    (routes : List RouteKey) : Except ManifestError NetworkManifest := do
  let manifest : NetworkManifest := ⟨1, state, interfaceLuid, address, prefixLength, routes⟩
  manifest.validate
  .ok manifest

end NetworkManifest

structure RecoveryPlan where
  routes : List RouteKey
  deleteAddress : Bool
deriving DecidableEq

/-- The body of the loop over the recorded routes. -/
def recoverRoute (system : List SystemRoute) (recorded : RouteKey) :
    Except ManifestError (List RouteKey) :=
  (system.filter fun current => overlaps current.key.subnetPrefix recorded.subnetPrefix).mapM
    fun current =>
      if current.key = recorded ∧ current.projectOwned then .ok recorded else .error .ownershipDrift

/-- Drops what equals the last route kept. -/
def dedupAfter (last : RouteKey) : List RouteKey → List RouteKey
  | [] => []
  | route :: routes =>
    if route = last then dedupAfter last routes else route :: dedupAfter route routes

/-- `dedup` -/
def dedupNeighbours : List RouteKey → List RouteKey
  | [] => []
  | route :: routes => route :: dedupAfter route routes

def planRecovery (manifest : NetworkManifest) (system : List SystemRoute) (exactAddressPresent : Bool) :
    Except ManifestError RecoveryPlan := do
  manifest.validate
  if system.length > maxSystemRoutes then .error .size
  else
    let routes ← manifest.routes.mapM (recoverRoute system)
    .ok {
      routes := dedupNeighbours (sortRoutes routes.flatten)
      deleteAddress := exactAddressPresent }

/-- A row of the table of IP Helper; `none` for an address that is not of IPv4. -/
structure ForwardRow where
  interfaceLuid : UInt64
  destination : Option Ipv4Addr
  destinationPrefixLength : UInt8
  nextHop : Option Ipv4Addr
  sitePrefixLength : UInt8
  metric : UInt32
  netMgmt : Bool
  manualOrigin : Bool
deriving DecidableEq

/-- `none` stands for a malformed row. -/
def systemRoute (row : ForwardRow) : Option SystemRoute :=
  match row.destination, row.nextHop with
  | some address, some nextHop =>
    if h : row.destinationPrefixLength.toNat ≤ 32 then
      let net : Ipv4Net := ⟨address, row.destinationPrefixLength.toNat, h⟩
      if net.addr ≠ net.network then none
      else some {
        key := ⟨net, row.interfaceLuid, nextHop, row.metric⟩
        projectOwned := decide (nextHop = .UNSPECIFIED) &&
          decide (row.sitePrefixLength.toNat = net.prefixLen) &&
          decide (row.metric = projectRouteMetric) && row.netMgmt && row.manualOrigin }
    else none
  | _, _ => none

/-- Of the rows that the system answers with; `none` stands for an error. -/
def snapshotRoutes (rows : List ForwardRow) : Option (List SystemRoute) :=
  if rows.length > maxSystemRoutes then none else rows.mapM systemRoute

/-- `route_row` -/
def routeRow (route : RouteKey) : ForwardRow where
  interfaceLuid := route.interfaceLuid
  destination := some route.subnetPrefix.network
  destinationPrefixLength := UInt8.ofNat route.subnetPrefix.prefixLen
  nextHop := some route.nextHop
  sitePrefixLength := UInt8.ofNat route.subnetPrefix.prefixLen
  metric := route.metric
  netMgmt := true
  manualOrigin := true

end WindowsRouteManager

end XsNexus
