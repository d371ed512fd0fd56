import XsNexus.LinuxCalls

namespace XsNexus

open ByteCodec FiniteMap HostPrograms HostPrograms.Program

namespace LinuxNetwork

/-- The name, if any, is not the one of a foreign table. -/
def NotForeign (before : LinuxHost) (name : Option String) : Prop :=
  ∀ table ∈ name, before.tables table ≠ some .foreign

/-- Calls that neither delete a foreign table nor record its name. -/
def SparesForeign (before : LinuxHost) : HostOp → Prop
  | .deleteTable name => before.tables name ≠ some .foreign
  | .writeManifest manifest => NotForeign before manifest.natTableName
  | _ => True

/-- The foreign tables are those of the host before, and the manifest names none of them. -/
structure ForeignSpared (before host : LinuxHost) : Prop where
  tables : ∀ name, host.tables name = some .foreign ↔ before.tables name = some .foreign
  manifest : ∀ manifest ∈ host.manifest, NotForeign before manifest.natTableName

section Calls

variable {before : LinuxHost}

theorem NotForeign.or {first second : Option String} (hfirst : NotForeign before first)
    (hsecond : NotForeign before second) : NotForeign before (first.or second) := by
  cases first with
  | none => exact hsecond
  | some table => exact hfirst

theorem perform_spares {op : HostOp} (hop : SparesForeign before op) (outcome : HostOutcome)
    {host : LinuxHost} (h : ForeignSpared before host) :
    ForeignSpared before (perform op outcome host).2 := by
  cases op with
  | createTable name =>
    rcases perform_createTable outcome host name with hrun | ⟨hnone, hrun⟩
    · rw [hrun]
      exact h
    · rw [hrun]
      refine ⟨fun table => ?_, h.manifest⟩
      by_cases hsame : table = name
      · subst hsame
        have hbefore := (h.tables table).not.mp (by rw [hnone]; simp)
        simp [hbefore]
      · simpa [Function.update_of_ne hsame] using h.tables table
  | deleteTable name =>
    rcases perform_deleteTable outcome host name with hrun | ⟨_, hrun⟩
    · rw [hrun]
      exact h
    · rw [hrun]
      refine ⟨fun table => ?_, h.manifest⟩
      by_cases hsame : table = name
      · subst hsame
        have hkept : before.tables table ≠ some .foreign := hop
        simp [hkept]
      · simpa [Function.update_of_ne hsame] using h.tables table
  | writeManifest manifest =>
    rcases perform_writeManifest outcome host manifest with hrun | hrun
    · rw [hrun]
      exact h
    · rw [hrun]
      refine ⟨h.tables, fun written hwritten => ?_⟩
      cases hwritten
      exact hop
  | removeManifest =>
    rcases perform_removeManifest outcome host with hrun | ⟨_, hrun⟩
    · rw [hrun]
      exact h
    · rw [hrun]
      exact ⟨h.tables, fun _ hnone => nomatch hnone⟩
  | setForwarding name value =>
    rcases perform_setForwarding outcome host name value with hrun | ⟨_, _, _, hrun⟩
    · rw [hrun]
      exact h
    · rw [hrun]
      exact ⟨by simpa using h.tables, by simpa using h.manifest⟩
  | openDevice name =>
    rcases perform_openDevice outcome host name with hrun | ⟨_, _, hrun⟩
    · rw [hrun]
      exact h
    · rw [hrun]
      exact ⟨h.tables, h.manifest⟩
  | closeDevice => exact ⟨h.tables, h.manifest⟩
  | _ =>
    rw [perform_reads]
    · exact h
    · trivial

end Calls

section Programs

variable {before : LinuxHost}

theorem setAll_spares (writes : List (String × UInt8)) : (setAll writes).Only (SparesForeign before) := by
  induction writes with
  | nil => trivial
  | cons write writes ih => exact ⟨trivial, fun answer => ih.bind fun written => trivial⟩

theorem setUpTo_spares (writes : List (String × UInt8)) : (setUpTo writes).Only (SparesForeign before) := by
  induction writes with
  | nil => trivial
  | cons write writes ih =>
    refine ⟨trivial, fun answer => ?_⟩
    cases answer with
    | ok done => exact ih
    | error error => trivial

theorem createNatRules_spares (name project : String) (routes : List GatewayRoute) :
    (createNatRules name project routes).Only (SparesForeign before) := by
  induction routes with
  | nil => trivial
  | cons route routes ih => exact andThen_only ⟨trivial, fun answer => trivial⟩ fun done => ih

theorem createNatTable_spares {name : String} (hname : before.tables name ≠ some .foreign)
    (project : String) (routes : List GatewayRoute) :
    (createNatTable name project routes).Only (SparesForeign before) := by
  refine andThen_only ⟨trivial, fun answer => trivial⟩ fun done => ?_
  have hchain : (createChain name).Only (SparesForeign before) := ⟨trivial, fun answer => trivial⟩
  have hfilled := andThen_only hchain fun _ => createNatRules_spares name project routes
  refine hfilled.bind fun answer => ?_
  cases answer with
  | ok done => trivial
  | error error => exact ⟨hname, fun answer => trivial⟩

theorem replaceNamed_spares {name : Option String} (hname : NotForeign before name) (project : String)
    (previouslyOwned : Bool) (routes : List GatewayRoute) :
    (replaceNamed name project previouslyOwned routes).Only (SparesForeign before) := by
  cases name with
  | none => trivial
  | some name =>
    have hname : before.tables name ≠ some .foreign := hname name rfl
    have hcreate : (if (routes.filter fun route => route.mode = .nat) = [] then .done (.ok ())
        else createNatTable name project (routes.filter fun route => route.mode = .nat) :
          HostProgram (Except AgentError Unit)).Only (SparesForeign before) := by
      split
      next => trivial
      next => exact createNatTable_spares hname project _
    show (replaceNatTable name project previouslyOwned routes).Only (SparesForeign before)
    unfold replaceNatTable
    split
    next => exact andThen_only ⟨hname, fun answer => trivial⟩ fun done => hcreate
    next => exact hcreate

theorem activeRecords_spares (records : List ForwardingRecord) :
    (activeRecords records).Only (SparesForeign before) := by
  induction records with
  | nil => trivial
  | cons record records ih => exact ⟨trivial, fun answer => ih.bind fun active => trivial⟩

theorem cleanup_spares (records : List ForwardingRecord) {name : Option String}
    (hname : NotForeign before name) : (cleanup records name).Only (SparesForeign before) := by
  have hdelete : (deleteNatTable name).Only (SparesForeign before) := by
    cases name with
    | none => trivial
    | some name => exact ⟨hname name rfl, fun answer => trivial⟩
  exact (setAll_spares _).bind fun turnedOff => hdelete.bind fun deleted =>
    (setAll_spares _).bind fun restored => trivial

theorem allTurnedOn_spares (records : List ForwardingRecord) :
    (TunNetwork.allTurnedOn records).Only (SparesForeign before) := by
  induction records with
  | nil => trivial
  | cons record records ih =>
    refine ⟨trivial, fun answer => ?_⟩
    show Only _ (if answer.toOption = some 1 then TunNetwork.allTurnedOn records else _)
    split
    next => exact ih
    next => trivial

theorem recordForwarding_spares (records : List ForwardingRecord) (names : List String) :
    (TunNetwork.recordForwarding records names).Only (SparesForeign before) := by
  induction names generalizing records with
  | nil => trivial
  | cons name names ih =>
    unfold TunNetwork.recordForwarding
    split
    next => exact ih records
    next =>
      refine ⟨trivial, fun answer => ?_⟩
      cases answer with
      | ok value => exact ih _
      | error error => trivial

end Programs

section Commands

variable {before host : LinuxHost}

/-- The table that a network names is its own, and not a foreign one. -/
def NamesOwn (before : LinuxHost) (network : TunNetwork) : Prop :=
  ∀ table ∈ network.natTableName,
    table = tableName network.plan.interfaceName ∧ before.tables table ≠ some .foreign

theorem NamesOwn.notForeign {network : TunNetwork} (h : NamesOwn before network) :
    NotForeign before network.natTableName := fun table htable => (h table htable).2

/-- Calls that spare the foreign tables keep them spared. -/
theorem keeps_of_spares {α : Type} {program : HostProgram α} (h : program.Only (SparesForeign before))
    (hhost : ForeignSpared before host) :
    program.Keeps perform (ForeignSpared before) (fun _ => ForeignSpared before) host :=
  h.keeps (fun hop outcome _ => perform_spares hop outcome) hhost

theorem cleanupManifestGateway_spares {manifest : NetworkManifest}
    (h : NotForeign before manifest.natTableName) :
    (cleanupManifestGateway manifest).Only (SparesForeign before) :=
  (activeRecords_spares _).bind fun _ => (cleanup_spares _ h).bind fun _ => trivial

theorem recoverStale_keeps (plan : NetworkPlan) (h : ForeignSpared before host) :
    (recoverStale plan).Keeps perform (ForeignSpared before) (fun _ => ForeignSpared before) host := by
  have hfind : (findLink plan.interfaceName).Only (SparesForeign before) := ⟨trivial, fun answer => trivial⟩
  refine keeps_andThen ((keeps_of_spares hfind h).mono fun answer host h => ?_)
  cases answer with
  | error error => exact h
  | ok active =>
    cases active with
    | true => exact h
    | false =>
      refine ⟨h, fun outcome => ?_⟩
      by_cases hpresent : host.manifest.isSome = true
      · show HostPrograms.Program.Keeps perform _ _ (if !host.manifest.isSome then _ else _) host
        rw [hpresent]
        refine keeps_andThen ⟨h, fun outcome => ?_⟩
        rcases perform_readManifest outcome host with hread | ⟨manifest, hmanifest, hread⟩
        · rw [hread]
          exact h
        · rw [hread]
          show HostPrograms.Program.Keeps perform _ _ (if !manifest.matchesPlan plan then _ else _) host
          split
          next => exact h
          next =>
            have hclean := cleanupManifestGateway_spares (h.manifest manifest hmanifest)
            refine keeps_of_spares (andThen_only hclean fun done => ?_) h
            exact ⟨trivial, fun answer => trivial⟩
      · show HostPrograms.Program.Keeps perform _ _ (if !host.manifest.isSome then _ else _) host
        rw [Bool.not_eq_true] at hpresent
        rw [hpresent]
        exact h

theorem create_keeps (plan : NetworkPlan) (h : ForeignSpared before host) :
    (TunNetwork.create plan).Keeps perform (ForeignSpared before)
      (fun answer host => (∀ network, answer = .ok network → network.natTableName = none) ∧
        ForeignSpared before host) host := by
  refine keeps_andThen ((recoverStale_keeps plan h).mono fun answer host h => ?_)
  cases answer with
  | error error => exact ⟨fun network hok => (nomatch hok), h⟩
  | ok done =>
    have hstep : ∀ {op : HostOp}, SparesForeign before op → ∀ outcome {host}, ForeignSpared before host →
        ForeignSpared before (perform op outcome host).2 := fun hop outcome _ => perform_spares hop outcome
    refine Yields.keeps ?_ hstep h
    refine andThen_yields ⟨trivial, fun answer => trivial⟩ (fun active => ?_) fun _ _ hok => nomatch hok
    split
    next => exact fun network hok => nomatch hok
    next =>
      refine andThen_yields ⟨trivial, fun answer => trivial⟩ (fun free => ?_) fun _ _ hok => nomatch hok
      refine andThen_yields ⟨trivial, fun answer => trivial⟩ (fun opened => ?_) fun _ _ hok => nomatch hok
      refine ⟨trivial, fun answer => ?_⟩
      cases answer with
      | error error => exact ⟨trivial, fun answer network hok => nomatch hok⟩
      | ok interfaceIndex =>
        refine ⟨fun table hnone => (nomatch hnone), fun answer => ?_⟩
        cases answer with
        | error error => exact ⟨trivial, fun answer network hok => nomatch hok⟩
        | ok written =>
          intro network hok
          cases hok
          rfl

theorem applyGateway_yields {network : TunNetwork} {previousTable desiredTable : Option String}
    (hnetwork : NamesOwn before network) (hreplaced : NotForeign before (previousTable.or desiredTable))
    (hdesired : NamesOwn before { network with natTableName := desiredTable }) (order : List String)
    (desired : List GatewayRoute) :
    (network.applyGateway previousTable desiredTable order desired).Yields (SparesForeign before)
      fun answer => NamesOwn before answer.2 := by
  unfold TunNetwork.applyGateway
  refine (setUpTo_spares _).yields_bind fun answer => ?_
  cases answer with
  | error error => exact hnetwork
  | ok done =>
    refine (replaceNamed_spares hreplaced _ _ _).yields_bind fun answer => ?_
    cases answer with
    | error error => exact hnetwork
    | ok done =>
      refine (setUpTo_spares _).yields_bind fun answer => ?_
      cases answer with
      | error error => exact hdesired
      | ok done =>
        have hrestore : ∀ records, (restoreForwarding records).Only (SparesForeign before) :=
          fun records => (setAll_spares _).bind fun restored => trivial
        refine (hrestore _).yields_bind fun answer => ?_
        cases answer with
        | error error => exact hdesired
        | ok done => exact ⟨hdesired.notForeign, fun answer => hdesired⟩

/-- A reconciliation gets to record the name of its table, which is the one of a foreign table. -/
def NamesForeign (network : TunNetwork) (host : LinuxHost) (command : Command)
    (outcomes : List HostOutcome) : Prop :=
  match command with
  | .reconcile links kernelRoutes order desired =>
    validateGatewayRoutes links kernelRoutes desired network.plan.interfaceName = .ok () ∧
      desired ≠ network.gatewayRoutes ∧ network.natTableName = none ∧
      (desired.any fun route => route.mode = .nat) ∧
      host.tables (tableName network.plan.interfaceName) = some .foreign ∧
      ∃ records, ((TunNetwork.recordForwarding network.forwarding order).exec perform outcomes host).1 =
        some (records, .ok ())
  | _ => False

/-- What a command leaves. -/
def LeavesSpared {α : Type} (before : LinuxHost) (network : α → Option TunNetwork) :
    Option α × LinuxHost → Prop
  | (none, crashed) => ForeignSpared before crashed
  | (some result, after) => (∀ left ∈ network result, NamesOwn before left) ∧ ForeignSpared before after

theorem reconcile_spares {network : TunNetwork} (hnetwork : NamesOwn before network)
    (hhost : ForeignSpared before host) {links : Option (List LinkMessage)}
    {kernelRoutes : Option (List RouteMessage)} {order : List String} {desired : List GatewayRoute}
    {outcomes : List HostOutcome}
    (hnames : ¬NamesForeign network host (.reconcile links kernelRoutes order desired) outcomes) :
    LeavesSpared before (fun answer => some answer.2)
      ((network.reconcileGatewayRoutes links kernelRoutes order desired).exec perform outcomes host) := by
  unfold TunNetwork.reconcileGatewayRoutes
  cases hvalid : validateGatewayRoutes links kernelRoutes desired network.plan.interfaceName with
  | error error => exact ⟨fun left hleft => Option.some.inj hleft ▸ hnetwork, hhost⟩
  | ok valid =>
    have hstep : ∀ {op : HostOp}, SparesForeign before op → ∀ outcome {host}, ForeignSpared before host →
        ForeignSpared before (perform op outcome host).2 := fun hop outcome _ => perform_spares hop outcome
    have hend : ∀ {program : HostProgram (Except AgentError Unit × TunNetwork)} {outcomes host},
        program.Yields (SparesForeign before) (fun answer => NamesOwn before answer.2) →
        ForeignSpared before host →
        LeavesSpared before (fun answer => some answer.2) (program.exec perform outcomes host) := by
      intro program outcomes host hyields hhost
      have hleaves := exec_of_keeps (hyields.keeps hstep hhost) outcomes
      revert hleaves
      cases program.exec perform outcomes host with
      | mk result after =>
        cases result with
        | none => exact id
        | some answer => exact fun h => ⟨fun left hleft => Option.some.inj hleft ▸ h.1, h.2⟩
    show LeavesSpared before _ (exec perform (if desired = network.gatewayRoutes then _ else _) outcomes host)
    by_cases hsame : desired = network.gatewayRoutes
    · rw [if_pos hsame]
      exact hend ((allTurnedOn_spares _).yields_bind fun result => hnetwork) hhost
    · rw [if_neg hsame]
      have hrecorded := (recordForwarding_spares network.forwarding order).exec hstep outcomes hhost
      rcases exec_bind perform (TunNetwork.recordForwarding network.forwarding order) _ outcomes
        host with ⟨crashed, hrecord, hrun⟩ | ⟨⟨records, answer⟩, after, rest, hrecord, hrun⟩
      · rw [hrun]
        rw [hrecord] at hrecorded
        exact hrecorded
      · rw [hrun]
        rw [hrecord] at hrecorded
        cases answer with
        | error error => exact ⟨fun left hleft => Option.some.inj hleft ▸ hnetwork, hrecorded⟩
        | ok done =>
          obtain ⟨desiredTable, hdesiredTable⟩ : ∃ desiredTable, desiredTable =
              (if desired.any fun route => route.mode = .nat then
                some (tableName network.plan.interfaceName) else none) := ⟨_, rfl⟩
          have hdesired : ∀ table ∈ desiredTable,
              table = tableName network.plan.interfaceName ∧ before.tables table ≠ some .foreign := by
            intro table htable
            by_cases hnat : (desired.any fun route => route.mode = .nat) = true
            · rw [hdesiredTable, if_pos hnat] at htable
              cases htable
              refine ⟨rfl, fun hforeign => ?_⟩
              cases hnamed : network.natTableName with
              | none =>
                have hnow := (hhost.tables _).mpr hforeign
                exact hnames ⟨hvalid, hsame, hnamed, hnat, hnow, records, by rw [hrecord]⟩
              | some own =>
                obtain ⟨rfl, hown⟩ := hnetwork own hnamed
                exact hown hforeign
            · rw [hdesiredTable, if_neg hnat] at htable
              exact nomatch htable
          have hreplaced : NotForeign before (network.natTableName.or desiredTable) :=
            hnetwork.notForeign.or fun table htable => (hdesired table htable).2
          have hnamed : ∀ table ∈ network.natTableName.or desiredTable,
              table = tableName network.plan.interfaceName ∧ before.tables table ≠ some .foreign := by
            intro table htable
            refine ⟨?_, hreplaced table htable⟩
            cases hown : network.natTableName with
            | none =>
              rw [hown] at htable
              exact (hdesired table htable).1
            | some own =>
              rw [hown] at htable
              have heq : own = table := Option.some.inj htable
              exact heq ▸ (hnetwork own hown).1
          subst hdesiredTable
          refine hend ⟨hreplaced, fun answer => ?_⟩ hrecorded
          cases answer with
          | error error => exact hnamed
          | ok written =>
            show (TunNetwork.applyGateway _ _ _ order desired).Yields _ _
            refine applyGateway_yields ?_ hreplaced ?_ order desired
            · exact hnamed
            · exact hdesired

theorem command_spares {agent : Option TunNetwork} (hagent : ∀ network ∈ agent, NamesOwn before network)
    (hhost : ForeignSpared before host) {command : Command}
    {program : HostProgram (Except AgentError Unit × Option TunNetwork)} {outcomes : List HostOutcome}
    (hprogram : command.program agent = some program)
    (hallowed : ∀ network ∈ agent, ¬NamesForeign network host command outcomes) :
    LeavesSpared before Prod.snd (program.exec perform outcomes host) := by
  have hkept : ∀ {α : Type} {first : HostProgram α} {after : α → Except AgentError Unit × Option TunNetwork},
      (∀ result, (after result).2 = none) →
      first.Keeps perform (ForeignSpared before) (fun _ => ForeignSpared before) host →
      LeavesSpared before Prod.snd ((first.bind fun result => .done (after result)).exec perform outcomes
        host) := by
    intro α first after hnone hkeeps
    rcases exec_bind perform first (fun result => .done (after result)) outcomes host with
      ⟨crashed, hfirst, hrun⟩ | ⟨result, left, rest, hfirst, hrun⟩
    · have hsafe := exec_of_keeps hkeeps outcomes
      rw [hfirst] at hsafe
      rw [hrun]
      exact hsafe
    · have hsafe := exec_of_keeps hkeeps outcomes
      rw [hfirst] at hsafe
      rw [hrun]
      refine ⟨fun network hnetwork => ?_, hsafe⟩
      have hnobody := hnone result
      rw [hnobody] at hnetwork
      exact nomatch hnetwork
  cases command with
  | create plan =>
    cases agent with
    | some network => exact nomatch hprogram
    | none =>
      cases hprogram
      have hkeeps := create_keeps plan hhost
      rcases exec_bind perform (TunNetwork.create plan) _ outcomes host with
        ⟨crashed, hfirst, hrun⟩ | ⟨result, left, rest, hfirst, hrun⟩
      · have hsafe := exec_of_keeps hkeeps outcomes
        rw [hfirst] at hsafe
        rw [hrun]
        exact hsafe
      · have hsafe := exec_of_keeps hkeeps outcomes
        rw [hfirst] at hsafe
        rw [hrun]
        cases result with
        | error error => exact ⟨fun network hnetwork => (nomatch hnetwork), hsafe.2⟩
        | ok created =>
          refine ⟨fun network hnetwork table htable => ?_, hsafe.2⟩
          cases hnetwork
          rw [hsafe.1 created rfl] at htable
          exact nomatch htable
  | reconcile links kernelRoutes order desired =>
    cases agent with
    | none => exact nomatch hprogram
    | some network =>
      have hspares := reconcile_spares (hagent network rfl) hhost (hallowed network rfl)
      have hprogram : (if order.Perm (network.desiredInterfaces desired) then
          some ((network.reconcileGatewayRoutes links kernelRoutes order desired).bind fun answer =>
            (.done (answer.1, some answer.2) : HostProgram (Except AgentError Unit × Option TunNetwork)))
          else none) = some program := hprogram
      split at hprogram
      next =>
        cases hprogram
        rcases exec_bind perform (network.reconcileGatewayRoutes links kernelRoutes order desired) _ outcomes
          host with ⟨crashed, hfirst, hrun⟩ | ⟨answer, left, rest, hfirst, hrun⟩
        · rw [hfirst] at hspares
          rw [hrun]
          exact hspares
        · rw [hfirst] at hspares
          rw [hrun]
          exact hspares
      next => exact nomatch hprogram
  | shutdown =>
    cases agent with
    | none => exact nomatch hprogram
    | some network =>
      cases hprogram
      refine hkept (fun result => rfl) ?_
      refine keeps_of_spares ?_ hhost
      refine (cleanup_spares _ (hagent network rfl).notForeign).bind fun cleaned => ?_
      exact ⟨trivial, fun removed => ⟨trivial, fun closed => ⟨trivial, fun gone =>
        ⟨trivial, fun answer => trivial⟩⟩⟩⟩
  | recoverStale plan =>
    cases agent with
    | some network => exact nomatch hprogram
    | none =>
      cases hprogram
      exact hkept (fun result => rfl) (recoverStale_keeps plan hhost)

theorem run_spares {agent : Option TunNetwork}
    (run : Run (fun network host command outcomes => ¬NamesForeign network host command outcomes) before agent
      host)
    (hstart : ∀ manifest ∈ before.manifest, NotForeign before manifest.natTableName) :
    (∀ network ∈ agent, NamesOwn before network) ∧ ForeignSpared before host := by
  induction run with
  | start => exact ⟨fun network hnone => (nomatch hnone), fun name => Iff.rfl, hstart⟩
  | next run hprogram hallowed hexec ih =>
    have hspares := command_spares ih.1 ih.2 hprogram hallowed
    rw [hexec] at hspares
    exact hspares
  | crash run hprogram hallowed hexec ih =>
    have hspares := command_spares ih.1 ih.2 hprogram hallowed
    rw [hexec] at hspares
    exact ⟨fun network hnone => (nomatch hnone), hspares.tables, hspares.manifest⟩

/-- A table that is not of the agent stays, whatever fails. -/
theorem foreign_table_kept {agent : Option TunNetwork}
    (run : Run (fun network host command outcomes => ¬NamesForeign network host command outcomes) before agent
      host)
    (hstart : ∀ manifest ∈ before.manifest, NotForeign before manifest.natTableName) {name : String}
    (hforeign : before.tables name = some .foreign) : host.tables name = some .foreign :=
  ((run_spares run hstart).2.tables name).mpr hforeign

end Commands

section Samples

def gatewayPlan : NetworkPlan := ⟨"xs0", 1280, .new 100 88 0 16, ⟨.new 100 88 0 0, 16, Ipv4Net.le_16⟩⟩

def gatewayTo (mode : SubnetRouteMode) : List GatewayRoute :=
  [⟨⟨.new 192 168 50 0, 24, by omega⟩, "lan0", mode⟩]

def gatewayLinks : List LinkMessage := [⟨2, ["lan0"]⟩, ⟨3, ["xs0"]⟩]

def gatewayKernelRoutes : List RouteMessage :=
  [⟨24, .kernel, .link, 254, [.destination (.new 192 168 50 0), .oif 2]⟩]

/-- A host whose nftables have a table with the name of the project's. -/
def foreignHost : LinuxHost where
  forwarding name := if name = "lan0" then some 0 else none
  tun := none
  tables name := if name = "xs_nexus_xs0" then some .foreign else none
  manifest := none

def carriedOut : List HostOutcome := List.replicate 16 ⟨false, 0, 3⟩

def runCommand (command : Command) (state : Option TunNetwork × LinuxHost) : Option TunNetwork × LinuxHost :=
  match command.program state.1 with
  | none => state
  | some program =>
    match program.exec perform carriedOut state.2 with
    | (some (_, agent), host) => (agent, host)
    | (none, host) => (none, host.crashed)

def reconcileTo (mode : SubnetRouteMode) : Command :=
  .reconcile (some gatewayLinks) (some gatewayKernelRoutes) ["xs0", "lan0"] (gatewayTo mode)

theorem run_runCommand {Allowed : TunNetwork → LinuxHost → Command → List HostOutcome → Prop}
    {before host : LinuxHost} {agent : Option TunNetwork} (run : Run Allowed before agent host)
    {command : Command} (hallowed : ∀ network ∈ agent, Allowed network host command carriedOut) :
    Run Allowed before (runCommand command (agent, host)).1 (runCommand command (agent, host)).2 := by
  unfold runCommand
  cases hprogram : command.program agent with
  | none => simpa only [hprogram] using run
  | some program =>
    cases hexec : program.exec perform carriedOut host with
    | mk answer left =>
      cases answer with
      | none => simpa only [hprogram, hexec] using run.crash hprogram hallowed hexec
      | some answer =>
        obtain ⟨result, agent'⟩ := answer
        simpa only [hprogram, hexec] using run.next hprogram hallowed hexec

/-- The host after a reconciliation to a route behind the agent and a shutdown. -/
def afterGateway (mode : SubnetRouteMode) : Option TunNetwork × LinuxHost :=
  runCommand .shutdown (runCommand (reconcileTo mode) (runCommand (.create gatewayPlan) (none, foreignHost)))

theorem run_afterGateway {Allowed : TunNetwork → LinuxHost → Command → List HostOutcome → Prop}
    {mode : SubnetRouteMode} (hreconcile : ∀ network host, Allowed network host (reconcileTo mode) carriedOut)
    (hshutdown : ∀ network host, Allowed network host .shutdown carriedOut) :
    Run Allowed foreignHost (afterGateway mode).1 (afterGateway mode).2 := by
  have hstart : Run Allowed foreignHost none foreignHost := .start
  have created : Run Allowed foreignHost (runCommand (.create gatewayPlan) (none, foreignHost)).1 _ :=
    run_runCommand hstart fun network hnone => nomatch hnone
  have reconciled := run_runCommand created fun network _ => hreconcile network _
  exact run_runCommand reconciled fun network _ => hshutdown network _

/-- The failed creation of the table leaves its name recorded, so the shutdown deletes the foreign one. -/
theorem foreign_table_deleted : ¬∀ (agent : Option TunNetwork) (host : LinuxHost),
    Run (fun _ _ _ _ => True) foreignHost agent host → host.tables "xs_nexus_xs0" = some .foreign := by
  intro h
  have hrun : Run (fun _ _ _ _ => True) foreignHost (afterGateway .nat).1 (afterGateway .nat).2 :=
    run_afterGateway (fun _ _ => trivial) fun _ _ => trivial
  have hgone : (afterGateway .nat).2.tables "xs_nexus_xs0" = none := by decide +kernel
  have hkept := h _ _ hrun
  exact nomatch hgone.symm.trans hkept

theorem foreign_table_kept_routed :
    (afterGateway .routed).2.tables "xs_nexus_xs0" = some .foreign := by
  have hrouted : ∀ network host, ¬NamesForeign network host (reconcileTo .routed) carriedOut :=
    fun network host hnames => absurd hnames.2.2.2.1 (by decide)
  have hrun : Run (fun network host command outcomes => ¬NamesForeign network host command outcomes)
      foreignHost (afterGateway .routed).1 (afterGateway .routed).2 :=
    run_afterGateway hrouted fun _ _ h => h
  exact foreign_table_kept hrun (fun manifest hnone => (nomatch hnone)) rfl

end Samples

end LinuxNetwork

end XsNexus
