import XsNexus.RelayForwarding

namespace XsNexus

open ByteCodec FiniteMap MachineWords Runs

/-- The frame a call of the server brings. -/
def receivedFrame : RelayOp → Option RelayFrame
  | .data _ datagram _ => parseRelayFrame datagram
  | .keepalive _ datagram _ => parseRelayKeepalive datagram
  | _ => none

/-- The frame a call brings and the server takes. -/
def takenFrame : RelayOp × RelayOutput → Option RelayFrame
  | (.data _ datagram _, .data (.ok _)) => parseRelayFrame datagram
  | (.keepalive _ datagram _, .keepalive (.ok _)) => parseRelayKeepalive datagram
  | _ => none

def RelayOutput.ReplayDropped : RelayOutput → Prop
  | .data (.error .replay) => True
  | .keepalive (.error .replay) => True
  | _ => False

theorem replayDropped_data {outcome : Except RelayDrop (Block 16)} :
    (RelayOutput.data outcome).ReplayDropped ↔ outcome = .error .replay := by
  cases outcome with
  | ok leaseId => simp [RelayOutput.ReplayDropped]
  | error drop => cases drop <;> simp [RelayOutput.ReplayDropped]

theorem replayDropped_keepalive {outcome : Except RelayDrop (Block 152)} :
    (RelayOutput.keepalive outcome).ReplayDropped ↔ outcome = .error .replay := by
  cases outcome with
  | ok response => simp [RelayOutput.ReplayDropped]
  | error drop => cases drop <;> simp [RelayOutput.ReplayDropped]

/-- The frames that name a lease and have come in since it was granted. -/
def receivedSince (leaseId : Block 16) (history : List (RelayOp × RelayOutput)) : List RelayFrame :=
  ((sinceGrant leaseId history).filterMap fun event => receivedFrame event.1).filter fun frame =>
    frame.leaseId = leaseId

def takenSince (leaseId : Block 16) (history : List (RelayOp × RelayOutput)) : List RelayFrame :=
  ((sinceGrant leaseId history).filterMap takenFrame).filter fun frame => frame.leaseId = leaseId

/-- The number is not too far above those that have been taken, or above zero. -/
def WithinAdvance (taken : List RelayFrame) (sequence : UInt64) : Prop :=
  sequence ≤ maxSequenceAdvance ∨
    ∃ frame ∈ taken, sequence.toNat ≤ frame.sequence.toNat + maxSequenceAdvance.toNat

/-- The window stands at the highest number taken. -/
def WindowAt (window : ReplayWindow) (taken : List RelayFrame) : Prop :=
  (window.highest = none → taken = []) ∧ ∀ highest, window.highest = some highest →
    (∃ frame ∈ taken, frame.sequence = highest) ∧ ∀ frame ∈ taken, frame.sequence ≤ highest

theorem windowAt_new : WindowAt .new [] :=
  ⟨fun _ => rfl, fun _ h => by cases h⟩

theorem ReplayWindow.highest_commit {w w' : ReplayWindow} {sequence : UInt64}
    (h : w.commit sequence = (some (), w')) :
    (w.highest = none ∧ w'.highest = some sequence) ∨
      ∃ highest, w.highest = some highest ∧
        w'.highest = some (if sequence > highest then sequence else highest) := by
  unfold ReplayWindow.commit at h
  split at h
  next => cases h
  next =>
    split at h
    next hnone =>
      cases h
      exact .inl ⟨hnone, rfl⟩
    next highest hsome =>
      refine .inr ⟨highest, hsome, ?_⟩
      split at h
      next habove =>
        cases h
        rw [if_pos habove]
      next hbelow =>
        cases h
        rw [if_neg hbelow]

theorem WindowAt.commit {window window' : ReplayWindow} {taken : List RelayFrame} {frame : RelayFrame}
    (h : WindowAt window taken) (hcommit : window.commit frame.sequence = (some (), window')) :
    WindowAt window' (taken ++ [frame]) := by
  rcases ReplayWindow.highest_commit hcommit with ⟨hnone, hafter⟩ | ⟨highest, hsome, hafter⟩
  · rw [h.1 hnone]
    refine ⟨fun habsent => ?_, fun highest hhighest => ?_⟩
    · rw [hafter] at habsent
      cases habsent
    · cases hafter.symm.trans hhighest
      refine ⟨⟨frame, List.mem_singleton_self frame, rfl⟩, fun other hother => ?_⟩
      rw [List.mem_singleton.mp hother]
      exact UInt64.le_refl _
  · obtain ⟨⟨top, htop, hequal⟩, hbelow⟩ := h.2 highest hsome
    refine ⟨fun habsent => ?_, fun highest' hhighest => ?_⟩
    · rw [hafter] at habsent
      cases habsent
    · cases hafter.symm.trans hhighest
      by_cases habove : frame.sequence > highest
      · rw [if_pos habove]
        refine ⟨⟨frame, List.mem_append_right _ (List.mem_singleton_self frame), rfl⟩, fun other hother => ?_⟩
        rcases List.mem_append.mp hother with hold | hnew
        · exact UInt64.le_trans (hbelow other hold) (UInt64.le_of_lt habove)
        · rw [List.mem_singleton.mp hnew]
          exact UInt64.le_refl _
      · rw [if_neg habove]
        refine ⟨⟨top, List.mem_append_left _ htop, hequal⟩, fun other hother => ?_⟩
        rcases List.mem_append.mp hother with hold | hnew
        · exact hbelow other hold
        · rw [List.mem_singleton.mp hnew]
          exact UInt64.not_lt.mp habove

/-- A number above all that have been taken, and not too far, is not one of a replay. -/
theorem WindowAt.precheck {window : ReplayWindow} {taken : List RelayFrame} {sequence : UInt64}
    (h : WindowAt window taken) (hrises : ∀ frame ∈ taken, frame.sequence < sequence)
    (hwithin : WithinAdvance taken sequence) : window.precheck sequence = some () := by
  unfold ReplayWindow.precheck
  split
  next hnone =>
    have hempty := h.1 hnone
    rcases hwithin with hstart | ⟨frame, hmem, _⟩
    · rw [if_neg (UInt64.not_lt.mpr hstart)]
    · rw [hempty] at hmem
      cases hmem
  next highest hsome =>
    obtain ⟨⟨top, htop, hequal⟩, hbelow⟩ := h.2 highest hsome
    have habove : sequence > highest := hequal ▸ hrises top htop
    have hsub := UInt64.toNat_sub_of_le sequence highest (UInt64.le_of_lt habove)
    have hnear : sequence.toNat - highest.toNat ≤ maxSequenceAdvance.toNat := by
      rcases hwithin with hstart | ⟨frame, hmem, hle⟩
      · have hle := UInt64.le_iff_toNat_le.mp hstart
        omega
      · have hbelow' := UInt64.le_iff_toNat_le.mp (hbelow frame hmem)
        omega
    rw [if_pos habove, if_neg]
    exact UInt64.not_lt.mpr (UInt64.le_iff_toNat_le.mpr (hsub ▸ hnear))

/-- What a call does to the windows: a lease is new, or has taken the frame of the call, or is as it
was. -/
inductive WindowStep (s : RelayServer) (event : RelayOp × RelayOutput) (leaseId : Block 16)
    (after : Lease) : Prop
  | granted (hgrant : grantedLease event = some leaseId) (hnew : after.replay = .new)
  | taken (before : Lease) (frame : RelayFrame) (hgrant : grantedLease event ≠ some leaseId)
      (hlookup : s.leases.lookup leaseId = some before) (htaken : takenFrame event = some frame)
      (hlease : frame.leaseId = leaseId)
      (hcommit : before.replay.commit frame.sequence = (some (), after.replay))
  | kept (before : Lease) (hgrant : grantedLease event ≠ some leaseId)
      (hlookup : s.leases.lookup leaseId = some before)
      (hother : ∀ frame, takenFrame event = some frame → frame.leaseId ≠ leaseId)
      (hsame : after.replay = before.replay)

variable {c : Crypto} {s s' : RelayServer} {event : RelayOp × RelayOutput}

theorem Keeps.windowStep (h : Keeps s s') (hgrant : grantedLease event = none)
    (htaken : takenFrame event = none) {leaseId : Block 16} {after : Lease}
    (hl : s'.leases.lookup leaseId = some after) : WindowStep s event leaseId after := by
  obtain ⟨before, hbefore, _, _, hreplay, _⟩ := h leaseId after hl
  refine .kept before ?_ hbefore ?_ hreplay
  · rw [hgrant]
    simp
  · rw [htaken]
    simp

theorem Commits.windowStep {frame : RelayFrame} {extra : Block 16 → List QueuedDatagram}
    (h : Commits s s' frame.leaseId frame.sequence extra) (hgrant : grantedLease event = none)
    (htaken : takenFrame event = some frame) {leaseId : Block 16} {after : Lease}
    (hl : s'.leases.lookup leaseId = some after) : WindowStep s event leaseId after := by
  obtain ⟨lease, replay, hlease, hcommit, hrest⟩ := h
  obtain ⟨before, hbefore, _, _, hreplay, _⟩ := hrest leaseId after hl
  have hnot : grantedLease event ≠ some leaseId := by
    rw [hgrant]
    simp
  by_cases hsame : leaseId = frame.leaseId
  · rw [if_pos hsame] at hreplay
    subst hsame
    cases hlease.symm.trans hbefore
    exact .taken lease frame hnot hbefore htaken rfl (hreplay ▸ hcommit)
  · rw [if_neg hsame] at hreplay
    refine .kept before hnot hbefore (fun other hother => ?_) hreplay
    cases htaken.symm.trans hother
    exact Ne.symm hsame

theorem RelayServer.apply_windowStep (c : Crypto) (s : RelayServer) (op : RelayOp) {leaseId : Block 16}
    {after : Lease} (hl : (s.apply c op).2.leases.lookup leaseId = some after) :
    WindowStep s (op, (s.apply c op).1) leaseId after := by
  cases op with
  | registration clock draws datagram source =>
    obtain ⟨outcome, s', hout⟩ : ∃ outcome s', s.handleRegistration c clock draws datagram source =
      (outcome, s') := ⟨_, _, rfl⟩
    simp only [RelayServer.apply, hout, Prod.map, id] at hl ⊢
    obtain ⟨budgets, order, hcase⟩ := handleRegistration_cases hout
    have hkeeps : Keeps s (s.withSources budgets order) := Keeps.refl s
    rcases hcase with ⟨rfl, rfl⟩ | ⟨_, _, _, _, _, _, rfl, rfl⟩ | ⟨granted, response, rfl, hg⟩
    · exact hkeeps.windowStep rfl rfl hl
    · exact hkeeps.windowStep rfl rfl hl
    · obtain ⟨verified, lease, _, _, _, _, hfresh, _, _, rfl⟩ := hg
      have hl' : ((s.withSources budgets order).insertLease granted lease).leases.lookup leaseId =
        some after := hl
      rw [lookup_insertLease] at hl'
      split at hl'
      next hsame =>
        cases hl'
        exact .granted (by rw [hsame]; rfl) hfresh.replay
      next hother =>
        split at hl'
        next => simp at hl'
        next =>
          refine .kept after ?_ hl' (by simp [takenFrame]) rfl
          simp only [grantedLease, ne_eq, Option.some.injEq]
          exact fun heq => hother heq.symm
  | data clock datagram source =>
    obtain ⟨outcome, s', hout⟩ : ∃ outcome s', s.handleData clock datagram source = (outcome, s') :=
      ⟨_, _, rfl⟩
    simp only [RelayServer.apply, hout, Prod.map, id] at hl ⊢
    rcases handleData_cases hout with ⟨drop, rfl, rfl⟩ | ⟨destination, rfl, hq⟩
    · exact (Keeps.refl _).windowStep rfl rfl hl
    · obtain ⟨frame, lease, hauth, _, hcommits⟩ := hq.commits
      have htaken : takenFrame (.data clock datagram source, .data (.ok destination)) = some frame :=
        hauth.1
      exact hcommits.windowStep rfl htaken hl
  | keepalive clock datagram source =>
    obtain ⟨outcome, s', hout⟩ : ∃ outcome s', s.handleKeepalive c clock datagram source =
      (outcome, s') := ⟨_, _, rfl⟩
    simp only [RelayServer.apply, hout, Prod.map, id] at hl ⊢
    rcases handleKeepalive_outcome hout with ⟨drop, rfl, rfl⟩ |
      ⟨response, frame, lease, replay, traffic, rfl, hparse, hlease, _, hcommit, rfl⟩
    · exact (Keeps.refl _).windowStep rfl rfl hl
    · have htaken : takenFrame (.keepalive clock datagram source, .keepalive (.ok response)) =
          some frame := hparse
      exact (commits_refreshLease hlease hcommit traffic clock.instant).windowStep rfl htaken hl
  | flushQueues send =>
    exact (flushLoop_keeps maxFlushPerTick send s).windowStep rfl rfl hl
  | cleanup clock => exact (cleanup_keeps s clock).windowStep rfl rfl hl

theorem takenSince_append (leaseId : Block 16) (history : List (RelayOp × RelayOutput))
    (event : RelayOp × RelayOutput) : takenSince leaseId (history ++ [event]) =
      if grantedLease event = some leaseId then []
      else takenSince leaseId history ++
        (takenFrame event).toList.filter fun frame => frame.leaseId = leaseId := by
  unfold takenSince
  rw [sinceGrant_append]
  split
  next => rfl
  next =>
    rw [List.filterMap_append, List.filter_append]
    cases htaken : takenFrame event with
    | none => simp [htaken]
    | some frame => simp [htaken]

theorem receivedSince_append (leaseId : Block 16) (history : List (RelayOp × RelayOutput))
    (event : RelayOp × RelayOutput) : receivedSince leaseId (history ++ [event]) =
      if grantedLease event = some leaseId then []
      else receivedSince leaseId history ++
        (receivedFrame event.1).toList.filter fun frame => frame.leaseId = leaseId := by
  unfold receivedSince
  rw [sinceGrant_append]
  split
  next => rfl
  next =>
    rw [List.filterMap_append, List.filter_append]
    cases hreceived : receivedFrame event.1 with
    | none => simp [hreceived]
    | some frame => simp [hreceived]

/-- The windows of a run stand at the highest number taken since the grant. -/
theorem windows_run (c : Crypto) (config : RelayConfig) (ops : List RelayOp) :
    ∀ leaseId lease, (final (RelayServer.apply c) (RelayServer.new config) ops).leases.lookup leaseId =
      some lease → WindowAt lease.replay
        (takenSince leaseId (trace (RelayServer.apply c) (RelayServer.new config) ops)) := by
  refine run_invariant (P := fun (s : RelayServer) history => ∀ leaseId lease,
    s.leases.lookup leaseId = some lease → WindowAt lease.replay (takenSince leaseId history)) ?_ ops ?_
  · intro s history op h leaseId after hl
    rw [takenSince_append]
    cases s.apply_windowStep c op hl with
    | granted hgrant hnew =>
      rw [if_pos hgrant, hnew]
      exact windowAt_new
    | taken before frame hgrant hlookup htaken hlease hcommit =>
      rw [if_neg hgrant, htaken]
      simp only [Option.toList_some, List.filter_cons, hlease, decide_true, if_true, List.filter_nil]
      exact (h leaseId before hlookup).commit hcommit
    | kept before hgrant hlookup hother hsame =>
      have hnone : ((takenFrame (op, (s.apply c op).1)).toList.filter
          fun frame => frame.leaseId = leaseId) = [] := by
        rw [List.filter_eq_nil_iff]
        intro frame hframe
        rw [Option.mem_toList] at hframe
        simpa using hother frame hframe
      rw [if_neg hgrant, hnone, List.append_nil, hsame]
      exact h leaseId before hlookup
  · intro leaseId lease hl
    simp [RelayServer.new] at hl

/-- What a server takes it has received. -/
theorem mem_receivedSince {leaseId : Block 16} {history : List (RelayOp × RelayOutput)}
    {frame : RelayFrame} (h : frame ∈ takenSince leaseId history) :
    frame ∈ receivedSince leaseId history := by
  obtain ⟨hmem, hlease⟩ := List.mem_filter.mp h
  obtain ⟨event, hevent, htaken⟩ := List.mem_filterMap.mp hmem
  refine List.mem_filter.mpr ⟨List.mem_filterMap.mpr ⟨event, hevent, ?_⟩, hlease⟩
  unfold takenFrame at htaken
  split at htaken
  next => exact htaken
  next => exact htaken
  next => cases htaken

/-- A frame is dropped as a replay by the window of its lease. -/
theorem RelayServer.handleData_replay {clock : Clock} {datagram : Bytes} {source : SocketAddr}
    (h : (s.handleData clock datagram source).1 = .error .replay) :
    ∃ frame lease, parseRelayFrame datagram = some frame ∧
      s.leases.lookup frame.leaseId = some lease ∧ lease.replay.precheck frame.sequence = none := by
  unfold RelayServer.handleData at h
  split at h
  next => cases h
  next frame hframe =>
    split at h
    next => cases h
    next =>
      split at h
      next => cases h
      next lease hlease =>
        refine ⟨frame, lease, hframe, hlease, ?_⟩
        split at h
        next => cases h
        next =>
          split at h
          next hprecheck => simpa using hprecheck
          next hprecheck =>
            have hpre : lease.replay.precheck frame.sequence = some () := by
              cases hp : lease.replay.precheck frame.sequence with
              | none => simp [hp] at hprecheck
              | some u => rfl
            obtain ⟨replay, hcommit⟩ := ReplayWindow.commit_succeeds hpre
            rw [hcommit] at h
            exfalso
            split at h
            next => cases h
            next =>
              split at h
              next => cases h
              next =>
                split at h
                next => cases h
                next =>
                  split at h
                  next => cases h
                  next =>
                    dsimp only at h
                    split at h <;> cases h

theorem RelayServer.handleKeepalive_replay {clock : Clock} {datagram : Bytes} {source : SocketAddr}
    (h : (s.handleKeepalive c clock datagram source).1 = .error .replay) :
    ∃ frame lease, parseRelayKeepalive datagram = some frame ∧
      s.leases.lookup frame.leaseId = some lease ∧ lease.replay.precheck frame.sequence = none := by
  unfold RelayServer.handleKeepalive at h
  split at h
  next => cases h
  next frame hframe =>
    split at h
    next => cases h
    next =>
      split at h
      next => cases h
      next lease hlease =>
        refine ⟨frame, lease, hframe, hlease, ?_⟩
        split at h
        next => cases h
        next =>
          split at h
          next hprecheck => simpa using hprecheck
          next hprecheck =>
            have hpre : lease.replay.precheck frame.sequence = some () := by
              cases hp : lease.replay.precheck frame.sequence with
              | none => simp [hp] at hprecheck
              | some u => rfl
            obtain ⟨replay, hcommit⟩ := ReplayWindow.commit_succeeds hpre
            rw [hcommit] at h
            exfalso
            split at h
            next => cases h
            next => cases h

theorem RelayServer.apply_of_data {clock : Clock} {datagram : Bytes} {source : SocketAddr}
    {outcome : Except RelayDrop (Block 16)}
    (h : s.handleData clock datagram source = (outcome, s')) :
    s.apply c (.data clock datagram source) = (.data outcome, s') := by
  show Prod.map RelayOutput.data id (s.handleData clock datagram source) = _
  rw [h]
  rfl

/-- A frame that could pass but for its destination leaves the server, and the window, as they are. -/
theorem RelayServer.handleData_unknown {clock : Clock} {datagram : Bytes} {source : SocketAddr}
    {frame : RelayFrame} {lease : Lease} (hparse : parseRelayFrame datagram = some frame)
    (hrelay : frame.relayId = s.config.relayId) (hl : s.leases.lookup frame.leaseId = some lease)
    (hmatches : leaseMatches lease frame.networkId frame.sourceNodeId source clock.unixTime = true)
    (hwindow : lease.replay.precheck frame.sequence = some ())
    (hbudget : lease.traffic.canAccept clock.instant datagram.length
      s.config.packetsPerLeasePerSecond s.config.bytesPerLeasePerSecond = true)
    (hnode : s.nodes.lookup ⟨frame.networkId, frame.destinationNodeId⟩ = none) :
    s.handleData clock datagram source = (.error .destination, s) := by
  unfold RelayServer.handleData
  rw [hparse]
  dsimp only
  rw [if_neg (not_not.mpr hrelay), hl]
  dsimp only
  rw [hmatches, hwindow, hbudget, hnode]
  rfl

theorem RelayServer.handleData_ahead {clock : Clock} {datagram : Bytes} {source : SocketAddr}
    {frame : RelayFrame} {lease : Lease} (hparse : parseRelayFrame datagram = some frame)
    (hrelay : frame.relayId = s.config.relayId) (hl : s.leases.lookup frame.leaseId = some lease)
    (hmatches : leaseMatches lease frame.networkId frame.sourceNodeId source clock.unixTime = true)
    (hwindow : lease.replay.precheck frame.sequence = none) :
    s.handleData clock datagram source = (.error .replay, s) := by
  unfold RelayServer.handleData
  rw [hparse]
  dsimp only
  rw [if_neg (not_not.mpr hrelay), hl]
  dsimp only
  rw [hmatches, hwindow]
  rfl

/-- A frame above those its lease has brought, and not too far above, is not dropped as a replay. -/
theorem not_replayDropped (c : Crypto) (config : RelayConfig) (received : List RelayOp) {op : RelayOp}
    {frame : RelayFrame} (hframe : receivedFrame op = some frame)
    (hrises : ∀ earlier ∈ receivedSince frame.leaseId
      (trace (RelayServer.apply c) (RelayServer.new config) received), earlier.sequence < frame.sequence)
    (hwithin : WithinAdvance (takenSince frame.leaseId
      (trace (RelayServer.apply c) (RelayServer.new config) received)) frame.sequence) :
    ¬((final (RelayServer.apply c) (RelayServer.new config) received).apply c op).1.ReplayDropped := by
  intro hdropped
  have hchecks : ∀ lease, (final (RelayServer.apply c) (RelayServer.new config) received).leases.lookup
      frame.leaseId = some lease → lease.replay.precheck frame.sequence ≠ none := by
    intro lease hl hnone
    have hwindow := windows_run c config received frame.leaseId lease hl
    have hsome := hwindow.precheck (fun earlier hmem => hrises earlier (mem_receivedSince hmem)) hwithin
    rw [hnone] at hsome
    cases hsome
  cases op with
  | data clock datagram source =>
    obtain ⟨other, lease, hparse, hl, hnone⟩ :=
      RelayServer.handleData_replay (replayDropped_data.mp hdropped)
    cases hframe.symm.trans hparse
    exact hchecks lease hl hnone
  | keepalive clock datagram source =>
    obtain ⟨other, lease, hparse, hl, hnone⟩ :=
      RelayServer.handleKeepalive_replay (replayDropped_keepalive.mp hdropped)
    cases hframe.symm.trans hparse
    exact hchecks lease hl hnone
  | _ => cases hframe

end XsNexus
