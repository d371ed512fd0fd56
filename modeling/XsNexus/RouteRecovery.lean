import XsNexus.WindowsProvision

namespace XsNexus

open Checks HostPrograms HostPrograms.Program

namespace WindowsRouteManager

theorem snapshotRoutes_some {rows : List ForwardRow} {system : List SystemRoute} :
    snapshotRoutes rows = some system ↔ rows.length ≤ maxSystemRoutes ∧
      List.Forall₂ (fun row route => systemRoute row = some route) rows system := by
  have hmap : rows.mapM systemRoute = some system ↔
      List.Forall₂ (fun row route => systemRoute row = some route) rows system := by
    induction rows generalizing system with
    | nil =>
      rw [List.mapM_nil, List.forall₂_nil_left_iff]
      constructor
      · intro h
        cases h
        rfl
      · rintro rfl
        rfl
    | cons row rows ih =>
      rw [List.mapM_cons, List.forall₂_cons_left_iff]
      constructor
      · intro h
        obtain ⟨route, hroute, h⟩ := Option.bind_eq_some_iff.mp h
        obtain ⟨rest, hrest, h⟩ := Option.bind_eq_some_iff.mp h
        cases h
        exact ⟨route, rest, hroute, ih.mp hrest, rfl⟩
      · rintro ⟨route, rest, hroute, hrest, rfl⟩
        exact Option.bind_eq_some_iff.mpr ⟨route, hroute,
          Option.bind_eq_some_iff.mpr ⟨rest, ih.mpr hrest, rfl⟩⟩
  unfold snapshotRoutes
  by_cases hbounded : rows.length > maxSystemRoutes
  · rw [if_pos hbounded]
    have hnot : ¬rows.length ≤ maxSystemRoutes := Nat.not_le_of_gt hbounded
    simp [hnot]
  · rw [if_neg hbounded, hmap]
    simp [Nat.le_of_not_gt hbounded]

/-- What a route of a snapshot says of its row. -/
structure Read (row : ForwardRow) (route : SystemRoute) : Prop where
  destination : row.destination = some route.key.subnetPrefix.addr
  length : row.destinationPrefixLength.toNat = route.key.subnetPrefix.prefixLen
  canonical : route.key.subnetPrefix.network = route.key.subnetPrefix.addr
  luid : row.interfaceLuid = route.key.interfaceLuid
  nextHop : row.nextHop = some route.key.nextHop
  owned : route.projectOwned → route.key.nextHop = .UNSPECIFIED ∧ route.key.metric = projectRouteMetric

theorem systemRoute_read {row : ForwardRow} {route : SystemRoute} (h : systemRoute row = some route) :
    Read row route := by
  unfold systemRoute at h
  split at h
  next address nextHop haddress hnext =>
    split at h
    next hle =>
      dsimp only at h
      split at h
      next => cases h
      next hcanonical =>
        cases h
        refine ⟨haddress, rfl, (not_not.mp hcanonical).symm, rfl, hnext, ?_⟩
        intro howned
        simp only [Bool.and_eq_true, decide_eq_true_eq] at howned
        exact ⟨howned.1.1.1.1, howned.1.1.2⟩
    next => cases h
  next => cases h

/-- A key of the project, without host bits. -/
def Canonical (interfaceLuid : UInt64) (key : RouteKey) : Prop :=
  key = .ofPrefix interfaceLuid key.subnetPrefix ∧ key.subnetPrefix.network = key.subnetPrefix.addr

theorem toNat_prefixLen (net : Ipv4Net) : (UInt8.ofNat net.prefixLen).toNat = net.prefixLen := by
  have hle := net.prefixLen_le
  rw [UInt8.toNat_ofNat']
  omega

theorem Ipv4Net.ext_of {net net' : Ipv4Net} (haddr : net.addr = net'.addr)
    (hlength : net.prefixLen = net'.prefixLen) : net = net' := by
  cases net
  cases net'
  simp_all

section Rows

variable {interfaceLuid : UInt64}

theorem sameEntry_iff {row : ForwardRow} {route : SystemRoute} {key : RouteKey}
    (hread : Read row route) (hkey : Canonical interfaceLuid key) :
    sameEntry row key ↔ route.key.subnetPrefix = key.subnetPrefix ∧
      route.key.interfaceLuid = key.interfaceLuid ∧ route.key.nextHop = key.nextHop := by
  unfold sameEntry routeRow
  simp only [Bool.and_eq_true, decide_eq_true_eq, hread.destination, hread.luid, hread.nextHop,
    Option.some.injEq, hkey.2]
  constructor
  · rintro ⟨⟨⟨haddr, hlength⟩, hluid⟩, hnext⟩
    refine ⟨Ipv4Net.ext_of haddr ?_, hluid, hnext⟩
    rw [← hread.length, hlength, toNat_prefixLen]
  · rintro ⟨hnet, hluid, hnext⟩
    refine ⟨⟨⟨by rw [hnet], ?_⟩, hluid⟩, hnext⟩
    rw [← UInt8.toNat_inj, hread.length, toNat_prefixLen, hnet]

theorem systemRoute_routeRow {key : RouteKey} (hkey : Canonical interfaceLuid key) :
    systemRoute (routeRow key) = some ⟨key, true⟩ := by
  obtain ⟨hshape, hcanonical⟩ := hkey
  have hle : (UInt8.ofNat key.subnetPrefix.prefixLen).toNat ≤ 32 := by
    rw [toNat_prefixLen]
    exact key.subnetPrefix.prefixLen_le
  have hnet : (⟨key.subnetPrefix.network, (UInt8.ofNat key.subnetPrefix.prefixLen).toNat, hle⟩ : Ipv4Net) =
      key.subnetPrefix := Ipv4Net.ext_of hcanonical (toNat_prefixLen _)
  have hnext : key.nextHop = .UNSPECIFIED := by rw [hshape]; rfl
  have hmetric : key.metric = projectRouteMetric := by rw [hshape]; rfl
  unfold systemRoute routeRow
  simp only [dif_pos hle, hnet]
  rw [if_neg (not_not.mpr rfl)]
  have howned : (decide (key.nextHop = Ipv4Addr.UNSPECIFIED) &&
      decide True && decide (key.metric = projectRouteMetric) && true && true) = true := by
    simp [hnext, hmetric]
  rw [howned]

theorem read_routeRow {key : RouteKey} (hkey : Canonical interfaceLuid key) :
    Read (routeRow key) ⟨key, true⟩ := systemRoute_read (systemRoute_routeRow hkey)

theorem sameEntry_routeRow {key key' : RouteKey} (hkey : Canonical interfaceLuid key)
    (hkey' : Canonical interfaceLuid key') : sameEntry (routeRow key) key' ↔ key = key' := by
  rw [sameEntry_iff (read_routeRow hkey) hkey']
  constructor
  · rintro ⟨hnet, -, -⟩
    rw [hkey.1, hkey'.1, hnet]
  · rintro rfl
    exact ⟨rfl, rfl, rfl⟩

end Rows

theorem overlaps_self (net : Ipv4Net) : overlaps net net := by
  have hle : net.network.bits ≤ net.broadcast.bits := by
    rw [BitVec.le_def]
    have : (net.addr.bits &&& ~~~net.hostmask).toNat ≤ net.addr.bits.toNat := by
      rw [BitVec.toNat_and]
      exact Nat.and_le_left
    have : net.addr.bits.toNat ≤ (net.addr.bits ||| net.hostmask).toNat := by
      rw [BitVec.toNat_or]
      exact Nat.left_le_or
    show (net.addr.bits &&& ~~~net.hostmask).toNat ≤ (net.addr.bits ||| net.hostmask).toNat
    omega
  have hself : net.contains net.network := by
    simpa [Ipv4Net.contains] using hle
  simp [overlaps, networksOverlap, hself]

theorem overlaps_comm (net net' : Ipv4Net) : overlaps net net' = overlaps net' net :=
  Bool.or_comm _ _

/-- What a call does to the rows. -/
theorem perform_rows (op : HostOp) (outcome : HostOutcome) (host : RouteHost) :
    (perform op outcome host).2.rows = host.rows ∨
      (∃ route, op = .route .create route ∧ (∀ row ∈ host.rows, ¬sameEntry row route) ∧
        (perform op outcome host).2.rows = host.rows ++ [routeRow route]) ∨
      ∃ route, op = .route .delete route ∧
        (perform op outcome host).2.rows = host.rows.filter fun row => !sameEntry row route := by
  obtain ⟨error, dad⟩ := outcome
  cases op with
  | route change route =>
    cases error with
    | some error => exact Or.inl (by cases change <;> rfl)
    | none =>
      by_cases hpresent : host.rows.any fun row => sameEntry row route
      · cases change with
        | create => exact Or.inl (by simp only [perform, if_pos hpresent])
        | delete => exact Or.inr (Or.inr ⟨route, rfl, by simp only [perform, if_pos hpresent]⟩)
      · cases change with
        | create =>
          refine Or.inr (Or.inl ⟨route, rfl, ?_, by simp only [perform, if_neg hpresent]⟩)
          intro row hrow hsame
          exact hpresent (List.any_eq_true.mpr ⟨row, hrow, hsame⟩)
        | delete => exact Or.inl (by simp only [perform, if_neg hpresent])
  | address change interfaceLuid address prefixLength =>
    refine Or.inl ?_
    unfold perform
    cases change <;> cases error <;> dsimp only <;> split <;> try rfl
    all_goals split <;> rfl
  | dadState interfaceLuid address prefixLength =>
    refine Or.inl ?_
    unfold perform
    cases error <;> dsimp only <;> split <;> try rfl
    split <;> rfl
  | waitDadPoll => exact Or.inl rfl

/-- A change to a route is one to a route of the list. -/
def Touches (routes : List RouteKey) : HostOp → Prop
  | .route _ route => route ∈ routes
  | _ => True

section Only

variable {routes : List RouteKey} {interfaceLuid : UInt64} {address : Ipv4Addr} {prefixLength : UInt8}

theorem changeAll_only (change : Change) {changed : List RouteKey} (h : ∀ route ∈ changed, route ∈ routes) :
    (changeAll change changed).Only (Touches routes) := by
  induction changed with
  | nil => trivial
  | cons route changed ih =>
    obtain ⟨hroute, hrest⟩ := List.forall_mem_cons.mp h
    refine ⟨hroute, ?_⟩
    rintro (error | _)
    · exact (ih hrest).bind fun _ => trivial
    · exact ih hrest

theorem changeOrUndo_only (change undo : Change) {changed rest : List RouteKey}
    (hchanged : ∀ route ∈ changed, route ∈ routes) (hrest : ∀ route ∈ rest, route ∈ routes) :
    (changeOrUndo change undo changed rest).Only (Touches routes) := by
  induction rest generalizing changed with
  | nil => trivial
  | cons route rest ih =>
    obtain ⟨hroute, hrest⟩ := List.forall_mem_cons.mp hrest
    refine ⟨hroute, ?_⟩
    rintro (error | _)
    · refine (changeAll_only undo fun route h => ?_).bind fun _ => trivial
      exact hchanged route (List.mem_reverse.mp h)
    · refine ih (fun route h => ?_) hrest
      rcases List.mem_append.mp h with hold | hnew
      · exact hchanged route hold
      · rw [List.mem_singleton.mp hnew]
        exact hroute

theorem executePlan_only {plan : ReconcilePlan} (hadd : ∀ route ∈ plan.additions, route ∈ routes)
    (hremove : ∀ route ∈ plan.removals, route ∈ routes) :
    (executePlan plan).Only (Touches routes) := by
  refine (changeOrUndo_only .create .delete (by simp) hadd).bind ?_
  rintro (_ | ⟨route, source, failures⟩)
  · refine (changeOrUndo_only .delete .create (by simp) hremove).bind ?_
    rintro (_ | ⟨route, source, failures⟩)
    · trivial
    · trivial
  · trivial

theorem cleanAddress_only (failure : Option IpHelperError → ProvisionError) :
    (cleanAddress interfaceLuid address prefixLength failure).Only (Touches routes) :=
  ⟨trivial, fun _ => trivial⟩

theorem pollDad_only {plan : ReconcilePlan} (hplan : (executePlan plan).Only (Touches routes)) (polls : Nat) :
    (pollDad interfaceLuid address prefixLength plan polls).Only (Touches routes) := by
  induction polls with
  | zero => exact cleanAddress_only _
  | succ polls ih =>
    refine ⟨trivial, ?_⟩
    rintro (error | state)
    · exact cleanAddress_only _
    · cases state with
      | preferred =>
        refine hplan.bind ?_
        rintro (source | _)
        · exact cleanAddress_only _
        · trivial
      | tentative =>
        dsimp only
        split
        next => exact cleanAddress_only _
        next => exact ⟨trivial, fun _ => ih⟩
      | invalid => exact cleanAddress_only _
      | duplicate => exact cleanAddress_only _
      | deprecated => exact cleanAddress_only _
      | unknown value => exact cleanAddress_only _

theorem provisionNetwork_only {plan : ReconcilePlan} (hplan : (executePlan plan).Only (Touches routes))
    (maximumDadPolls : Nat) :
    (provisionNetwork interfaceLuid address prefixLength maximumDadPolls plan).Only (Touches routes) := by
  refine ⟨trivial, ?_⟩
  rintro (error | _)
  · trivial
  · exact pollDad_only hplan maximumDadPolls

theorem executeRecovery_only (manifest : NetworkManifest) {plan : RecoveryPlan}
    (h : ∀ route ∈ plan.routes, route ∈ routes) :
    (executeRecovery manifest plan).Only (Touches routes) := by
  refine (changeAll_only .delete fun route hroute => h route (List.mem_reverse.mp hroute)).bind ?_
  intro failures
  have haddress : (recoverAddress manifest plan).Only (Touches routes) := by
    unfold recoverAddress
    split
    next => exact ⟨trivial, fun _ => trivial⟩
    next => trivial
  refine haddress.bind fun failure => ?_
  split
  next => trivial
  next => trivial

end Only

/-- A row that stands for none of the routes stays. -/
theorem perform_mem {routes : List RouteKey} {op : HostOp} (h : Touches routes op) (outcome : HostOutcome)
    {host : RouteHost} {row : ForwardRow} (hother : ∀ route ∈ routes, ¬sameEntry row route)
    (hrow : row ∈ host.rows) : row ∈ (perform op outcome host).2.rows := by
  rcases perform_rows op outcome host with hsame | ⟨route, rfl, -, hcreated⟩ | ⟨route, rfl, hdeleted⟩
  · rw [hsame]
    exact hrow
  · rw [hcreated]
    exact List.mem_append_left _ hrow
  · rw [hdeleted]
    refine List.mem_filter.mpr ⟨hrow, ?_⟩
    simpa using hother route h

/-- The rows of before, and behind them those of some of the routes. -/
def Between (before : List ForwardRow) (routes : List RouteKey) (host : RouteHost) : Prop :=
  ∃ created : List RouteKey, created.Nodup ∧ (∀ route ∈ created, route ∈ routes) ∧
    host.rows = before ++ created.map routeRow

section Between

variable {before : List ForwardRow} {routes : List RouteKey} {interfaceLuid : UInt64}

theorem filter_routeRow (hroutes : ∀ route ∈ routes, Canonical interfaceLuid route)
    (hbefore : ∀ row ∈ before, ∀ route ∈ routes, ¬sameEntry row route) {created : List RouteKey}
    (hcreated : ∀ route ∈ created, route ∈ routes) {route : RouteKey} (hroute : route ∈ routes) :
    ((before ++ created.map routeRow).filter fun row => !sameEntry row route) =
      before ++ (created.filter (· ≠ route)).map routeRow := by
  rw [List.filter_append, List.filter_map]
  congr 1
  · refine List.filter_eq_self.mpr fun row hrow => ?_
    simpa using hbefore row hrow route hroute
  · refine congrArg (List.map routeRow) (List.filter_congr fun key hkey => ?_)
    have hsame := sameEntry_routeRow (hroutes key (hcreated key hkey)) (hroutes route hroute)
    by_cases heq : key = route
    · simp [heq, (sameEntry_routeRow (hroutes route hroute) (hroutes route hroute)).mpr rfl]
    · have hnot : sameEntry (routeRow key) route = false := by
        simpa using mt hsame.mp heq
      simp [heq, hnot]

theorem perform_between (hroutes : ∀ route ∈ routes, Canonical interfaceLuid route)
    (hbefore : ∀ row ∈ before, ∀ route ∈ routes, ¬sameEntry row route) {op : HostOp}
    (hop : Touches routes op) (outcome : HostOutcome) {host : RouteHost}
    (h : Between before routes host) : Between before routes (perform op outcome host).2 := by
  obtain ⟨created, hnodup, hcreated, hrows⟩ := h
  rcases perform_rows op outcome host with hsame | ⟨route, rfl, habsent, hadd⟩ | ⟨route, rfl, hdelete⟩
  · exact ⟨created, hnodup, hcreated, hsame.trans hrows⟩
  · have hfresh : route ∉ created := by
      intro hmem
      have hrow : routeRow route ∈ host.rows := by
        rw [hrows]
        exact List.mem_append_right _ (List.mem_map_of_mem hmem)
      exact habsent _ hrow ((sameEntry_routeRow (hroutes route hop) (hroutes route hop)).mpr rfl)
    refine ⟨created ++ [route], ?_, ?_, ?_⟩
    · exact hnodup.append (List.nodup_singleton _) (List.disjoint_singleton.mpr hfresh)
    · intro key hkey
      rcases List.mem_append.mp hkey with hold | hnew
      · exact hcreated key hold
      · rw [List.mem_singleton.mp hnew]
        exact hop
    · rw [hadd, hrows, List.map_append, List.append_assoc]
      rfl
  · refine ⟨created.filter (· ≠ route), hnodup.filter _, ?_, ?_⟩
    · intro key hkey
      exact hcreated key (List.mem_filter.mp hkey).1
    · rw [hdelete, hrows, filter_routeRow hroutes hbefore hcreated hop]

end Between

theorem dedupAfter_of_nodup {last : RouteKey} {routes : List RouteKey} (h : (last :: routes).Nodup) :
    dedupAfter last routes = routes := by
  induction routes generalizing last with
  | nil => rfl
  | cons route routes ih =>
    obtain ⟨hlast, hrest⟩ := List.nodup_cons.mp h
    have hne : route ≠ last := by
      rintro rfl
      exact hlast List.mem_cons_self
    unfold dedupAfter
    rw [if_neg hne, ih hrest]

theorem dedupNeighbours_of_nodup {routes : List RouteKey} (h : routes.Nodup) :
    dedupNeighbours routes = routes := by
  cases routes with
  | nil => rfl
  | cons route routes => exact congrArg (route :: ·) (dedupAfter_of_nodup h)

/-- The host is as it was, once the recovery of the manifest has run and no call of it failed. -/
def Recovers (manifest : NetworkManifest) (before : List ForwardRow) (crashed : RouteHost) : Prop :=
  ∃ system addressPresent plan, snapshotRoutes crashed.rows = some system ∧
    exactAddressPresent crashed manifest.interfaceLuid manifest.address manifest.prefixLength =
      .ok addressPresent ∧
    planRecovery manifest system addressPresent = .ok plan ∧
    ∀ dad, ∃ after, (executeRecovery manifest plan).complete perform ⟨none, dad⟩ crashed = (.ok (), after) ∧
      after.rows = before ∧ (manifest.interfaceLuid, manifest.address) ∉ after.addresses

section Recovery

variable {before : List ForwardRow} {routes : List RouteKey} {interfaceLuid : UInt64}

theorem changeAll_delete (hroutes : ∀ route ∈ routes, Canonical interfaceLuid route)
    (hbefore : ∀ row ∈ before, ∀ route ∈ routes, ¬sameEntry row route) (dad : DadState)
    {deleted created : List RouteKey} (hnodup : deleted.Nodup)
    (hdeleted : ∀ route ∈ deleted, route ∈ created) (hcreated : ∀ route ∈ created, route ∈ routes)
    {host : RouteHost} (hrows : host.rows = before ++ created.map routeRow) :
    ∃ after, (changeAll .delete deleted).complete perform ⟨none, dad⟩ host = ([], after) ∧
      after.rows = before ++ (created.filter (· ∉ deleted)).map routeRow ∧
      after.addresses = host.addresses := by
  induction deleted generalizing created host with
  | nil =>
    refine ⟨host, rfl, ?_, rfl⟩
    rw [hrows]
    simp
  | cons route deleted ih =>
    obtain ⟨hfirst, hnodup⟩ := List.nodup_cons.mp hnodup
    obtain ⟨hmem, hdeleted⟩ := List.forall_mem_cons.mp hdeleted
    have hroute := hcreated route hmem
    have hpresent : (host.rows.any fun row => sameEntry row route) = true := by
      refine List.any_eq_true.mpr ⟨routeRow route, ?_, ?_⟩
      · rw [hrows]
        exact List.mem_append_right _ (List.mem_map_of_mem hmem)
      · exact (sameEntry_routeRow (hroutes route hroute) (hroutes route hroute)).mpr rfl
    have hstep : perform (.route .delete route) ⟨none, dad⟩ host =
        (.ok (), { host with rows := host.rows.filter fun row => !sameEntry row route }) := by
      simp only [perform, if_pos hpresent]
    have hleft : ∀ key ∈ deleted, key ∈ created.filter (· ≠ route) := by
      intro key hkey
      have hne : key ≠ route := fun heq => hfirst (heq ▸ hkey)
      exact List.mem_filter.mpr ⟨hdeleted key hkey, by simpa using hne⟩
    have hafter : host.rows.filter (fun row => !sameEntry row route) =
        before ++ (created.filter (· ≠ route)).map routeRow := by
      rw [hrows, filter_routeRow hroutes hbefore hcreated hroute]
    obtain ⟨after, hrun, hafter, haddresses⟩ := ih hnodup hleft
      (fun key hkey => hcreated key (List.mem_filter.mp hkey).1)
      (show ({ host with rows := host.rows.filter fun row => !sameEntry row route } : RouteHost).rows = _
        from hafter)
    refine ⟨after, ?_, ?_, haddresses⟩
    · show ((changeAll .delete (route :: deleted)).complete perform ⟨none, dad⟩ host) = _
      unfold changeAll complete
      rw [hstep]
      exact hrun
    · rw [hafter, List.filter_filter]
      refine congrArg (fun keys => before ++ List.map routeRow keys) (List.filter_congr fun key _ => ?_)
      simp [not_or, Bool.and_comm]

theorem recoverRoute_between (hapart : ∀ a ∈ routes, ∀ b ∈ routes,
      overlaps a.subnetPrefix b.subnetPrefix → a = b)
    {system : List SystemRoute} {recorded : RouteKey} (hrecorded : recorded ∈ routes)
    (hclear : ∀ existing ∈ system, ¬overlaps existing.key.subnetPrefix recorded.subnetPrefix)
    {created : List RouteKey} (hnodup : created.Nodup) (hcreated : ∀ route ∈ created, route ∈ routes) :
    recoverRoute (system ++ created.map fun key => ⟨key, true⟩) recorded =
      .ok (if recorded ∈ created then [recorded] else []) := by
  have hsystem : system.filter (fun current => overlaps current.key.subnetPrefix recorded.subnetPrefix) =
      [] := by
    refine List.filter_eq_nil_iff.mpr fun existing hexisting => ?_
    simpa using hclear existing hexisting
  have hown : (created.map fun key => (⟨key, true⟩ : SystemRoute)).filter
      (fun current => overlaps current.key.subnetPrefix recorded.subnetPrefix) =
      (created.filter (· = recorded)).map fun key => ⟨key, true⟩ := by
    rw [List.filter_map]
    refine congrArg (List.map _) (List.filter_congr fun key hkey => ?_)
    by_cases heq : key = recorded
    · subst heq
      simpa using overlaps_self key.subnetPrefix
    · have hnot : ¬overlaps key.subnetPrefix recorded.subnetPrefix := fun h =>
        heq (hapart key (hcreated key hkey) recorded hrecorded h)
      simpa [heq] using hnot
  unfold recoverRoute
  rw [List.filter_append, hsystem, hown, List.nil_append, List.filter_eq]
  by_cases hmem : recorded ∈ created
  · rw [List.count_eq_one_of_mem hnodup hmem, if_pos hmem]
    exact mapM_ok.mpr (List.Forall₂.cons (if_pos ⟨rfl, rfl⟩) List.Forall₂.nil)
  · rw [List.count_eq_zero_of_not_mem hmem, if_neg hmem]
    rfl

theorem flatten_recorded (routes created : List RouteKey) :
    (routes.map fun recorded => if recorded ∈ created then [recorded] else []).flatten =
      routes.filter (· ∈ created) := by
  induction routes with
  | nil => rfl
  | cons route routes ih =>
    rw [List.map_cons, List.flatten_cons, ih]
    by_cases hmem : route ∈ created
    · rw [if_pos hmem, List.filter_cons_of_pos (by simpa using hmem)]
      rfl
    · rw [if_neg hmem, List.filter_cons_of_neg (by simpa using hmem)]
      rfl

/-- The address is gone, whether it was there or not. -/
theorem recoverAddress_complete {manifest : NetworkManifest}
    (hvalid : addressRowValid manifest.interfaceLuid manifest.address manifest.prefixLength)
    {plan : RecoveryPlan} {host : RouteHost}
    (hplan : plan.deleteAddress = decide ((manifest.interfaceLuid, manifest.address) ∈ host.addresses))
    (dad : DadState) : ∃ after, (recoverAddress manifest plan).complete perform ⟨none, dad⟩ host =
      (none, after) ∧ after.rows = host.rows ∧
        (manifest.interfaceLuid, manifest.address) ∉ after.addresses := by
  unfold recoverAddress
  rw [hplan]
  by_cases hpresent : (manifest.interfaceLuid, manifest.address) ∈ host.addresses
  · rw [if_pos (by simpa using hpresent)]
    obtain ⟨after, heq⟩ : ∃ after : RouteHost, after = { host with
        addresses := host.addresses.filter (· ≠ (manifest.interfaceLuid, manifest.address)) } := ⟨_, rfl⟩
    have hstep : perform (.address .delete manifest.interfaceLuid manifest.address manifest.prefixLength)
        ⟨none, dad⟩ host = (.ok (), after) := by
      rw [heq]
      simp [perform, hvalid, hpresent]
    refine ⟨after, ?_, by rw [heq], by simp [heq]⟩
    unfold complete
    rw [hstep]
    rfl
  · rw [if_neg (by simpa using hpresent)]
    exact ⟨host, rfl, rfl, hpresent⟩

theorem recovers_of_between {manifest : NetworkManifest} (hvalidate : manifest.validate = .ok ())
    (hvalid : addressRowValid manifest.interfaceLuid manifest.address manifest.prefixLength)
    (hroutes : ∀ route ∈ manifest.routes, Canonical interfaceLuid route) (hnodup : manifest.routes.Nodup)
    (hapart : ∀ a ∈ manifest.routes, ∀ b ∈ manifest.routes,
      overlaps a.subnetPrefix b.subnetPrefix → a = b)
    {system : List SystemRoute}
    (hsystem : List.Forall₂ (fun row route => systemRoute row = some route) before system)
    (hclear : ∀ existing ∈ system, ∀ route ∈ manifest.routes,
      ¬overlaps existing.key.subnetPrefix route.subnetPrefix)
    (hbefore : ∀ row ∈ before, ∀ route ∈ manifest.routes, ¬sameEntry row route)
    {host : RouteHost} (hbetween : Between before manifest.routes host)
    (hroom : host.rows.length ≤ maxSystemRoutes) : Recovers manifest before host := by
  obtain ⟨created, hcreatedNodup, hcreated, hrows⟩ := hbetween
  have hsnapshot : snapshotRoutes host.rows =
      some (system ++ created.map fun key => ⟨key, true⟩) := by
    refine snapshotRoutes_some.mpr ⟨hroom, ?_⟩
    rw [hrows]
    refine List.rel_append hsystem (List.forall₂_map_left_iff.mpr (List.forall₂_map_right_iff.mpr
      (List.forall₂_same.mpr fun key hkey => ?_)))
    exact systemRoute_routeRow (hroutes key (hcreated key hkey))
  have hlength : (system ++ created.map fun key => (⟨key, true⟩ : SystemRoute)).length ≤
      maxSystemRoutes := by
    have hsame := (snapshotRoutes_some.mp hsnapshot).2.length_eq
    omega
  have hrecover : manifest.routes.mapM (recoverRoute (system ++ created.map fun key => ⟨key, true⟩)) =
      .ok (manifest.routes.map fun recorded => if recorded ∈ created then [recorded] else []) := by
    refine mapM_ok.mpr (List.forall₂_map_right_iff.mpr (List.forall₂_same.mpr fun route hroute => ?_))
    exact recoverRoute_between hapart hroute (fun existing h => hclear existing h route hroute)
      hcreatedNodup hcreated
  obtain ⟨found, hfound⟩ : ∃ found, found = sortRoutes (manifest.routes.filter (· ∈ created)) :=
    ⟨_, rfl⟩
  have hperm : found.Perm (manifest.routes.filter (· ∈ created)) := by
    rw [hfound]
    exact List.perm_insertionSort _ _
  have hfoundNodup : found.Nodup := hperm.nodup_iff.mpr (hnodup.filter _)
  have hmem : ∀ route, route ∈ found ↔ route ∈ created := by
    intro route
    rw [hperm.mem_iff, List.mem_filter, decide_eq_true_eq]
    exact ⟨fun h => h.2, fun h => ⟨hcreated route h, h⟩⟩
  have hplan : planRecovery manifest (system ++ created.map fun key => ⟨key, true⟩)
      (decide ((manifest.interfaceLuid, manifest.address) ∈ host.addresses)) =
      .ok ⟨found, decide ((manifest.interfaceLuid, manifest.address) ∈ host.addresses)⟩ := by
    refine bind_ok.mpr ⟨(), hvalidate, ?_⟩
    rw [if_neg (Nat.not_lt.mpr hlength)]
    refine bind_ok.mpr ⟨_, hrecover, ?_⟩
    rw [flatten_recorded, ← hfound, dedupNeighbours_of_nodup hfoundNodup]
  refine ⟨_, _, _, hsnapshot, ?_, hplan, ?_⟩
  · unfold exactAddressPresent
    simp [hvalid]
  · intro dad
    obtain ⟨middle, hmiddle, hmiddleRows, hmiddleAddresses⟩ := changeAll_delete hroutes hbefore dad
      (List.nodup_reverse.mpr hfoundNodup)
      (fun route h => (hmem route).mp (List.mem_reverse.mp h)) hcreated hrows
    have hnone : created.filter (· ∉ found.reverse) = [] := by
      refine List.filter_eq_nil_iff.mpr fun route hroute => ?_
      simpa using (hmem route).mpr hroute
    rw [hnone, List.map_nil, List.append_nil] at hmiddleRows
    have hdelete : (RecoveryPlan.mk found
        (decide ((manifest.interfaceLuid, manifest.address) ∈ host.addresses))).deleteAddress =
        decide ((manifest.interfaceLuid, manifest.address) ∈ middle.addresses) := by
      rw [hmiddleAddresses]
    obtain ⟨after, hafter, hafterRows, hgone⟩ := recoverAddress_complete hvalid hdelete dad
    refine ⟨after, ?_, hafterRows.trans hmiddleRows, hgone⟩
    unfold executeRecovery
    rw [complete_bind, hmiddle, complete_bind, hafter]
    rfl

end Recovery

end WindowsRouteManager

end XsNexus
