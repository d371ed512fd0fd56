import XsNexus.RelayReplays
import XsNexus.RelaySequences

namespace XsNexus

open ByteCodec FiniteMap MachineWords Runs

/-- Under one lease the frames of a manager are numbered upwards, so no number is used twice; and a
relay that receives them in order drops none as a replay while the numbers do not run too far ahead of
those it has taken. -/
theorem relay_sequences_never_reused {c : Crypto} {f : Formats} {state : NodeState}
    {networkId nodeId : Block 16} {credential : Block 200} {identity : SigningKey} {now : Nat}
    {utcNow : Int} {manager : RelayManager}
    (hnew : RelayManager.new c f state networkId nodeId credential identity now utcNow = .ok manager)
    {ops : List RelayManagerOp} {requestOf : Block 16 × Block 16 → Block 16}
    (hgranted : Along (RelayManager.step c f) (RelayManager.Granted c requestOf) manager ops)
    (hdraws : (RelayManager.requestIds c f manager ops).Nodup) :
    ((RelayManager.framesIn (trace (RelayManager.step c f) manager ops)).map RelayFrame.count).Nodup ∧
    ((RelayManager.framesIn (trace (RelayManager.step c f) manager ops)).Pairwise fun earlier later =>
      earlier.relayId = later.relayId → earlier.leaseId = later.leaseId →
        earlier.sequence < later.sequence) ∧
    ∀ (config : RelayConfig) (received : List RelayOp) (op : RelayOp) (frame : RelayFrame),
      receivedFrame op = some frame →
      (receivedSince frame.leaseId (trace (RelayServer.apply c) (RelayServer.new config) received) ++
        [frame]).Sublist ((RelayManager.framesIn (trace (RelayManager.step c f) manager ops)).filter
          fun sent => sent.relayId = config.relayId) →
      WithinAdvance (takenSince frame.leaseId
        (trace (RelayServer.apply c) (RelayServer.new config) received)) frame.sequence →
      ¬((final (RelayServer.apply c) (RelayServer.new config) received).apply c op).1.ReplayDropped := by
  have hrises := RelayManager.frames_rise hnew hgranted hdraws
  refine ⟨?_, hrises, fun config received op frame hframe hdelivered hwithin => ?_⟩
  · refine List.pairwise_map.mpr (hrises.imp fun {earlier later} hrise hsame => ?_)
    obtain ⟨hlease, hsequence⟩ := Prod.mk.inj hsame
    obtain ⟨hrelay, hlease⟩ := Prod.mk.inj hlease
    have hless := UInt64.lt_iff_toNat_lt.mp (hrise hrelay hlease)
    omega
  · refine not_replayDropped c config received hframe (fun earlier hearlier => ?_) hwithin
    have hpairs := (hrises.filter fun sent => sent.relayId = config.relayId).sublist hdelivered
    have hsent : ∀ sent ∈ receivedSince frame.leaseId
        (trace (RelayServer.apply c) (RelayServer.new config) received) ++ [frame],
        sent.relayId = config.relayId := by
      intro sent hmem
      exact of_decide_eq_true (List.mem_filter.mp (hdelivered.subset hmem)).2
    have hrelay := hsent earlier (List.mem_append_left _ hearlier)
    have hrelay' := hsent frame (List.mem_append_right _ List.mem_cons_self)
    have hlease : earlier.leaseId = frame.leaseId := of_decide_eq_true (List.mem_filter.mp hearlier).2
    exact (List.pairwise_append.mp hpairs).2.2 earlier hearlier frame List.mem_cons_self
      (hrelay.trans hrelay'.symm) hlease

/-- A frame of the sample lease, to a node the relay does not know. -/
def sampleNumbered (sequence : UInt64) : RelayFrame where
  networkId := fill 16 21
  relayId := fill 16 31
  sourceNodeId := nodeId .transparent sampleIdentityKey.seed
  destinationNodeId := fill 16 1
  leaseId := fill 16 61
  sequence := sequence
  payload := finishFrame.payload

def sampleNumberedBytes (sequence : UInt64) : Bytes :=
  (sampleNumbered sequence).header ++ (sampleNumbered sequence).payload

/-- The manager sends one frame through its lease. -/
def sampleNumberedSend : RelayManagerOp :=
  .wrap sampleRelayEndpoint (fill 16 1) finishFrame.payload 1700000201 (1700000201 * 10 ^ 9)

/-- Maintenance when a keepalive is due. -/
def sampleKeepalive : RelayManagerOp :=
  .maintain (durationFromSecs 16) 1700000216 fun _ => ⟨1700000216 * 10 ^ 9, some (fill 16 52)⟩

def sampleSequenceConfig : RelayConfig :=
  { sampleRelayConfig with relayId := fill 16 31, relayId_ne := by decide }

/-- The relay grants the lease of the sample. -/
def sampleSequenceGrant : RelayOp :=
  .registration ⟨0, 1700000201⟩ [some (fill 16 61)] (signRelayRegisterRequest .transparent {
    networkId := fill 16 21
    nodeId := nodeId .transparent sampleIdentityKey.seed
    relayId := fill 16 31
    requestId := fill 16 51
    clientTime := 1700000200
    credential := sampleCredential sampleIdentityKey (.new 100 88 0 10) } sampleIdentityKey).val
    sampleEndpoint

def sampleNumberedReceipt (sequence : UInt64) : RelayOp :=
  .data ⟨0, 1700000201⟩ (sampleNumberedBytes sequence) sampleEndpoint

/-- Two frames and a keepalive through the lease, the relay receives the first two. -/
theorem relay_sequences_never_reused_sample :
    let history := trace (RelayManager.step .transparent sampleFormats) sampleRelayManager
      [sampleMaintain 0, sampleLeaseGrant, sampleNumberedSend, sampleNumberedSend, sampleKeepalive]
    ((RelayManager.framesIn history).map fun frame => frame.sequence) = [0, 1, 2] ∧
      ((RelayManager.framesIn history).map RelayFrame.count).Nodup ∧
      ¬((final (RelayServer.apply .transparent) (RelayServer.new sampleSequenceConfig)
        [sampleSequenceGrant, sampleNumberedReceipt 0]).apply .transparent
          (sampleNumberedReceipt 1)).1.ReplayDropped := by
  intro history
  have hall := @relay_sequences_never_reused .transparent sampleFormats sampleNodeState _ _ _ _ _ _
    sampleRelayManager sampleRelayManager_new
    [sampleMaintain 0, sampleLeaseGrant, sampleNumberedSend, sampleNumberedSend, sampleKeepalive]
    (fun _ => fill 16 51) (by decide +kernel) (by decide +kernel)
  exact ⟨by decide +kernel, hall.1, hall.2.2 sampleSequenceConfig
    [sampleSequenceGrant, sampleNumberedReceipt 0] (sampleNumberedReceipt 1) (sampleNumbered 1)
    (by decide +kernel) (by decide +kernel) (Or.inl (by decide))⟩

theorem sampleNumbered_bounded (sequence : UInt64) : (sampleNumbered sequence).Bounded where
  networkId := by show fill 16 21 ≠ zeros 16; decide
  relayId := by show fill 16 31 ≠ zeros 16; decide
  sourceNodeId := by show nodeId .transparent sampleIdentityKey.seed ≠ zeros 16; decide +kernel
  destinationNodeId := by show fill 16 1 ≠ zeros 16; decide
  forwards := by show nodeId .transparent sampleIdentityKey.seed ≠ fill 16 1; decide +kernel
  leaseId := by show fill 16 61 ≠ zeros 16; decide
  carries := by show finishFrame.payload.isEmpty = false; decide +kernel
  short := by show finishFrame.payload.length ≤ _; decide +kernel
  routed := by
    have hsame : validateRelayPayload (sampleNumbered sequence) = validateRelayPayload (sampleNumbered 0) :=
      rfl
    rw [hsame]
    decide +kernel

theorem encode_sampleNumbered (sequence : UInt64) :
    encodeRelayFrame (sampleNumbered sequence) = some (sampleNumberedBytes sequence) :=
  encodeRelayFrame_eq_some_iff.mpr ⟨sampleNumbered_bounded sequence, rfl⟩

theorem parse_sampleNumberedBytes (sequence : UInt64) :
    parseRelayFrame (sampleNumberedBytes sequence) = some (sampleNumbered sequence) :=
  parseRelayFrame_header (sampleNumbered_bounded sequence)

theorem length_sampleNumberedBytes (sequence : UInt64) :
    (sampleNumberedBytes sequence).length = (sampleNumberedBytes 0).length := by
  unfold sampleNumberedBytes
  rw [List.length_append, List.length_append, RelayFrame.length_header, RelayFrame.length_header]
  rfl

/-- The relay of the sample, with a lease under which the manager has counted so far. -/
def sampleCountingClient (sequence : UInt64) : RelayClient where
  relayId := fill 16 31
  endpoint := sampleRelayEndpoint
  verifyingKey := ⟨fill 32 32⟩
  priority := 100
  configExpiresAt := 1700003700 * 10 ^ 9
  lease := some ⟨fill 16 61, 1700000320, sequence, durationFromSecs 1, durationFromSecs 1⟩
  pending := none
  nextRegistrationAt := durationFromSecs 1
  failures := 0

def sampleCounting (sequence : UInt64) : RelayManager :=
  { sampleRelayManager with
    clients := AList.singleton sampleRelayEndpoint (sampleCountingClient sequence) }

/-- The lease is granted under the one request drawn, and nothing was sent before. -/
theorem sampleCounting_start :
    final (RelayManager.step .transparent sampleFormats) sampleRelayManager
        [sampleMaintain 0, sampleLeaseGrant] = sampleCounting 0 ∧
      Along (RelayManager.step .transparent sampleFormats)
        (RelayManager.Granted .transparent fun _ => fill 16 51) sampleRelayManager
        [sampleMaintain 0, sampleLeaseGrant] ∧
      RelayManager.framesIn (trace (RelayManager.step .transparent sampleFormats)
        sampleRelayManager [sampleMaintain 0, sampleLeaseGrant]) = [] ∧
      (RelayManager.requestIds .transparent sampleFormats sampleRelayManager
        [sampleMaintain 0, sampleLeaseGrant]).Nodup := by
  refine ⟨?_, ?_, ?_, ?_⟩ <;> decide +kernel

theorem sampleCounting_step {sequence next : UInt64} (hnext : u64CheckedAdd sequence 1 = some next) :
    (sampleCounting sequence).step .transparent sampleFormats sampleNumberedSend =
      (.wrapped (.ok (some (sampleNumberedBytes sequence))), sampleCounting next) := by
  have hendpoint : normalizeEndpoint sampleRelayEndpoint = sampleRelayEndpoint := rfl
  have hlookup : (sampleCounting sequence).clients.lookup (normalizeEndpoint sampleRelayEndpoint) =
      some (sampleCountingClient sequence) := by
    rw [hendpoint]
    exact AList.lookup_insert ∅
  have hlive : ¬((1700000320 : UInt64) ≤ 1700000201 ∨
      (1700003700 * 10 ^ 9 : Int) ≤ 1700000201 * 10 ^ 9) := by decide
  have hwrap : (sampleCounting sequence).wrap sampleRelayEndpoint (fill 16 1) finishFrame.payload 1700000201
      (1700000201 * 10 ^ 9) = _ := RelayManager.wrap_numbered hlookup rfl hlive hnext
        (encode_sampleNumbered sequence)
  have hafter : (sampleCounting sequence).putClient (normalizeEndpoint sampleRelayEndpoint)
      (sampleCountingClient next) = sampleCounting next := by
    rw [hendpoint]
    unfold RelayManager.putClient sampleCounting
    rw [AList.insert_singleton_eq]
  show Prod.map RelayManagerOutput.wrapped id ((sampleCounting sequence).wrap sampleRelayEndpoint
    (fill 16 1) finishFrame.payload 1700000201 (1700000201 * 10 ^ 9)) = _
  rw [hwrap]
  exact congrArg (Prod.mk _) hafter

theorem ofNat_succ_checked {count : Nat} (h : count + 1 < 2 ^ 64) :
    u64CheckedAdd (UInt64.ofNat count) 1 = some (UInt64.ofNat (count + 1)) := by
  have hone : (1 : UInt64).toNat = 1 := rfl
  unfold u64CheckedAdd
  rw [UInt64.toNat_ofNat', Nat.mod_eq_of_lt (by omega), hone, if_pos h, UInt64.ofNat_add]
  rfl

/-- So many sends count so many numbers. -/
theorem sampleCounting_run (count start : Nat) (h : start + count < 2 ^ 64) :
    RelayManager.framesIn (trace (RelayManager.step .transparent sampleFormats)
        (sampleCounting (UInt64.ofNat start)) (List.replicate count sampleNumberedSend)) =
      (List.range count).map fun index => sampleNumbered (UInt64.ofNat (start + index)) := by
  induction count generalizing start with
  | zero => rfl
  | succ count ih =>
    have hstep := sampleCounting_step (@ofNat_succ_checked start (by omega))
    have hframes : (RelayManagerOutput.wrapped
        (.ok (some (sampleNumberedBytes (UInt64.ofNat start))))).sentFrames =
          [sampleNumbered (UInt64.ofNat start)] := by
      simp only [RelayManagerOutput.sentFrames, relayFrameOf_encode (encode_sampleNumbered _),
        Option.toList_some]
    have hrest := ih (start + 1) (by omega)
    unfold RelayManager.framesIn at hrest ⊢
    rw [List.replicate_succ, trace, hstep, List.flatMap_cons, hframes, hrest, List.range_succ_eq_map]
    simp [Nat.add_assoc, Nat.add_comm 1]

theorem sends_granted (requestOf : Block 16 × Block 16 → Block 16) (manager : RelayManager) (count : Nat) :
    Along (RelayManager.step .transparent sampleFormats)
      (RelayManager.Granted .transparent requestOf) manager (List.replicate count sampleNumberedSend) := by
  induction count generalizing manager with
  | zero => trivial
  | succ count ih => exact ⟨trivial, ih _⟩

theorem sends_draw_nothing (manager : RelayManager) (count : Nat) :
    RelayManager.requestIds .transparent sampleFormats manager
      (List.replicate count sampleNumberedSend) = [] := by
  induction count generalizing manager with
  | zero => rfl
  | succ count ih =>
    rw [List.replicate_succ, RelayManager.requestIds, ih, List.append_nil]
    exact List.filterMap_eq_nil_iff.mpr fun _ _ => rfl

/-- The relay when it has granted the lease. -/
def sampleHolding : RelayServer :=
  final (RelayServer.apply .transparent) (RelayServer.new sampleSequenceConfig) [sampleSequenceGrant]

theorem sampleHolding_lease : (∃ lease, sampleHolding.leases.lookup (fill 16 61) = some lease ∧
    lease.replay = .new ∧ leaseMatches lease (fill 16 21) (nodeId .transparent sampleIdentityKey.seed)
      sampleEndpoint 1700000201 = true ∧
    lease.traffic.canAccept 0 (sampleNumberedBytes 0).length
      sampleHolding.config.packetsPerLeasePerSecond sampleHolding.config.bytesPerLeasePerSecond = true) ∧
    fill 16 31 = sampleHolding.config.relayId ∧
    sampleHolding.nodes.lookup ⟨fill 16 21, fill 16 1⟩ = none ∧
    receivedSince (fill 16 61) (trace (RelayServer.apply .transparent)
      (RelayServer.new sampleSequenceConfig) [sampleSequenceGrant]) = [] := by
  have hany : ((sampleHolding.leases.lookup (fill 16 61)).any fun lease =>
      decide (lease.replay = .new ∧ leaseMatches lease (fill 16 21)
        (nodeId .transparent sampleIdentityKey.seed) sampleEndpoint 1700000201 = true ∧
        lease.traffic.canAccept 0 (sampleNumberedBytes 0).length
          sampleHolding.config.packetsPerLeasePerSecond
          sampleHolding.config.bytesPerLeasePerSecond = true)) = true := by
    decide +kernel
  obtain ⟨lease, hl, hlease⟩ := (Option.any_eq_true _ _).mp hany
  exact ⟨⟨lease, hl, of_decide_eq_true hlease⟩, by decide +kernel, by decide +kernel, by decide +kernel⟩

theorem precheck_new (count : Nat) (h : count < 2 ^ 64) :
    ReplayWindow.new.precheck (UInt64.ofNat count) = if count ≤ 2 ^ 20 then some () else none := by
  have hmax : maxSequenceAdvance.toNat = 2 ^ 20 := by decide
  have hcount : (UInt64.ofNat count).toNat = count := by
    rw [UInt64.toNat_ofNat', Nat.mod_eq_of_lt h]
  show (if UInt64.ofNat count > maxSequenceAdvance then none else some ()) = _
  by_cases hle : count ≤ 2 ^ 20
  · rw [if_pos hle, if_neg]
    refine UInt64.not_lt.mpr (UInt64.le_iff_toNat_le.mpr ?_)
    omega
  · rw [if_neg hle, if_pos]
    refine UInt64.lt_iff_toNat_lt.mpr ?_
    omega

theorem sampleHolding_apply {count : Nat} (h : count < 2 ^ 64) :
    sampleHolding.apply .transparent (sampleNumberedReceipt (UInt64.ofNat count)) =
      (.data (.error (if count ≤ 2 ^ 20 then .destination else .replay)), sampleHolding) := by
  obtain ⟨⟨lease, hl, hnew, hmatches, hbudget⟩, hrelay, hnode, _⟩ := sampleHolding_lease
  have hwindow : lease.replay.precheck (UInt64.ofNat count) = if count ≤ 2 ^ 20 then some () else none :=
    hnew ▸ precheck_new count h
  have hparse := parse_sampleNumberedBytes (UInt64.ofNat count)
  have hdata : sampleHolding.handleData ⟨0, 1700000201⟩ (sampleNumberedBytes (UInt64.ofNat count))
      sampleEndpoint =
        (.error (if count ≤ 2 ^ 20 then .destination else .replay), sampleHolding) := by
    by_cases hle : count ≤ 2 ^ 20
    · rw [if_pos hle] at hwindow ⊢
      rw [← length_sampleNumberedBytes (UInt64.ofNat count)] at hbudget
      exact RelayServer.handleData_unknown hparse hrelay hl hmatches hwindow hbudget hnode
    · rw [if_neg hle] at hwindow ⊢
      exact RelayServer.handleData_ahead hparse hrelay hl hmatches hwindow
  exact RelayServer.apply_of_data hdata

/-- The relay refuses the frames for their destination, and its window stays where it is. -/
theorem sampleHolding_refuses (count : Nat) (h : count ≤ 2 ^ 20 + 1) :
    final (RelayServer.apply .transparent) (RelayServer.new sampleSequenceConfig)
        (sampleSequenceGrant :: (List.range count).map fun index =>
          sampleNumberedReceipt (UInt64.ofNat index)) = sampleHolding ∧
      receivedSince (fill 16 61) (trace (RelayServer.apply .transparent)
        (RelayServer.new sampleSequenceConfig) (sampleSequenceGrant :: (List.range count).map fun index =>
          sampleNumberedReceipt (UInt64.ofNat index))) =
        (List.range count).map fun index => sampleNumbered (UInt64.ofNat index) := by
  induction count with
  | zero => exact ⟨rfl, sampleHolding_lease.2.2.2⟩
  | succ count ih =>
    obtain ⟨hfinal, hreceived⟩ := ih (by omega)
    have happly := @sampleHolding_apply count (by omega)
    have hframe : receivedFrame (sampleNumberedReceipt (UInt64.ofNat count)) =
        some (sampleNumbered (UInt64.ofNat count)) := parse_sampleNumberedBytes (UInt64.ofNat count)
    rw [List.range_succ, List.map_append, List.map_append, ← List.cons_append, final_append, trace_append,
      hfinal]
    refine ⟨?_, ?_⟩
    · show (sampleHolding.apply .transparent (sampleNumberedReceipt (UInt64.ofNat count))).2 = _
      rw [happly]
    · show receivedSince _ (_ ++ [(sampleNumberedReceipt (UInt64.ofNat count),
        (sampleHolding.apply .transparent (sampleNumberedReceipt (UInt64.ofNat count))).1)]) = _
      rw [receivedSince_append, hreceived, happly, if_neg (by simp [grantedLease]), hframe]
      rfl

/-- Every frame of the manager reaches the relay, in order; the last one is dropped as a replay. -/
theorem relay_window_left_behind :
    RelayManager.new .transparent sampleFormats sampleNodeState (fill 16 21)
        (nodeId .transparent sampleIdentityKey.seed)
        (sampleCredential sampleIdentityKey (.new 100 88 0 10)) sampleIdentityKey 0
        (1700000200 * 10 ^ 9) = .ok sampleRelayManager ∧
      ∃ (ops : List RelayManagerOp) (received : List RelayOp) (op : RelayOp) (frame : RelayFrame),
        Along (RelayManager.step .transparent sampleFormats)
          (RelayManager.Granted .transparent fun _ => fill 16 51) sampleRelayManager ops ∧
        (RelayManager.requestIds .transparent sampleFormats sampleRelayManager ops).Nodup ∧
        receivedFrame op = some frame ∧
        receivedSince frame.leaseId (trace (RelayServer.apply .transparent)
            (RelayServer.new sampleSequenceConfig) received) ++ [frame] =
          RelayManager.framesIn (trace (RelayManager.step .transparent sampleFormats)
            sampleRelayManager ops) ∧
        ((final (RelayServer.apply .transparent) (RelayServer.new sampleSequenceConfig)
          received).apply .transparent op).1.ReplayDropped := by
  -- one number more than the window may advance at once
  obtain ⟨count, hcount⟩ : ∃ count, count = 2 ^ 20 + 1 := ⟨_, rfl⟩
  obtain ⟨hfinal, hreceived⟩ := sampleHolding_refuses count (by omega)
  obtain ⟨hstart, hgranted, hnone, hdrawn⟩ := sampleCounting_start
  refine ⟨sampleRelayManager_new, [sampleMaintain 0, sampleLeaseGrant] ++
    List.replicate (count + 1) sampleNumberedSend, sampleSequenceGrant :: (List.range count).map fun index =>
      sampleNumberedReceipt (UInt64.ofNat index), sampleNumberedReceipt (UInt64.ofNat count),
    sampleNumbered (UInt64.ofNat count), ?_, ?_, parse_sampleNumberedBytes _, ?_, ?_⟩
  · exact along_append.mpr ⟨hgranted, sends_granted _ _ _⟩
  · rw [RelayManager.requestIds_append, sends_draw_nothing, List.append_nil]
    exact hdrawn
  · have hrun := sampleCounting_run (count + 1) 0 (by omega)
    unfold RelayManager.framesIn at hnone hrun ⊢
    rw [trace_append, List.flatMap_append, hnone, hstart, List.nil_append]
    show receivedSince (fill 16 61) _ ++ _ = _
    rw [hreceived]
    refine Eq.trans ?_ hrun.symm
    rw [List.range_succ, List.map_append]
    simp
  · rw [hfinal, sampleHolding_apply (by omega), if_neg (by omega)]
    trivial

end XsNexus
