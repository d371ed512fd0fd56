import XsNexus.MapTotals
import XsNexus.DataPlaneRuns

namespace XsNexus

open ByteCodec Checks FiniteMap MachineWords Relation Runs

theorem u64SaturatingAdd_comm (a b : UInt64) : u64SaturatingAdd a b = u64SaturatingAdd b a := by
  unfold u64SaturatingAdd
  rw [Nat.add_comm]

theorem u64SaturatingAdd_assoc (a b d : UInt64) :
    u64SaturatingAdd (u64SaturatingAdd a b) d = u64SaturatingAdd a (u64SaturatingAdd b d) := by
  refine UInt64.toNat_inj.mp ?_
  simp only [toNat_u64SaturatingAdd]
  omega

theorem u64SaturatingAdd_zero (a : UInt64) : u64SaturatingAdd a 0 = a := by
  have hlt : a.toNat < 2 ^ 64 := a.toNat_lt
  refine UInt64.toNat_inj.mp ?_
  rw [toNat_u64SaturatingAdd, show (0 : UInt64).toNat = 0 from rfl]
  omega

theorem u64SaturatingAdd_le_left (d : UInt64) {a b : UInt64} (h : a ≤ b) :
    u64SaturatingAdd d a ≤ u64SaturatingAdd d b := by
  have hle : a.toNat ≤ b.toNat := h
  refine UInt64.le_iff_toNat_le.mpr ?_
  rw [toNat_u64SaturatingAdd, toNat_u64SaturatingAdd]
  omega

theorem le_u64SaturatingAdd (a b : UInt64) : a ≤ u64SaturatingAdd a b := by
  have hlt : a.toNat < 2 ^ 64 := a.toNat_lt
  refine UInt64.le_iff_toNat_le.mpr ?_
  rw [toNat_u64SaturatingAdd]
  omega

namespace TelemetryCounters

def saturatingAdd (left right : TelemetryCounters) : TelemetryCounters where
  txBytes := u64SaturatingAdd left.txBytes right.txBytes
  rxBytes := u64SaturatingAdd left.rxBytes right.rxBytes
  handshakeAttempts := u64SaturatingAdd left.handshakeAttempts right.handshakeAttempts
  handshakeSuccesses := u64SaturatingAdd left.handshakeSuccesses right.handshakeSuccesses
  latencySamples := u64SaturatingAdd left.latencySamples right.latencySamples
  latencyMicroseconds := u64SaturatingAdd left.latencyMicroseconds right.latencyMicroseconds

/-- No counter of the first is beyond that of the second. -/
structure Within (left right : TelemetryCounters) : Prop where
  txBytes : left.txBytes ≤ right.txBytes
  rxBytes : left.rxBytes ≤ right.rxBytes
  handshakeAttempts : left.handshakeAttempts ≤ right.handshakeAttempts
  handshakeSuccesses : left.handshakeSuccesses ≤ right.handshakeSuccesses
  latencySamples : left.latencySamples ≤ right.latencySamples
  latencyMicroseconds : left.latencyMicroseconds ≤ right.latencyMicroseconds

theorem saturatingAdd_comm (left right : TelemetryCounters) :
    left.saturatingAdd right = right.saturatingAdd left := by
  simp only [saturatingAdd, u64SaturatingAdd_comm left.txBytes, u64SaturatingAdd_comm left.rxBytes,
    u64SaturatingAdd_comm left.handshakeAttempts, u64SaturatingAdd_comm left.handshakeSuccesses,
    u64SaturatingAdd_comm left.latencySamples, u64SaturatingAdd_comm left.latencyMicroseconds]

theorem saturatingAdd_assoc (left middle right : TelemetryCounters) :
    (left.saturatingAdd middle).saturatingAdd right =
      left.saturatingAdd (middle.saturatingAdd right) := by
  simp only [saturatingAdd, u64SaturatingAdd_assoc]

theorem saturatingAdd_zero (counters : TelemetryCounters) : counters.saturatingAdd zero = counters := by
  simp only [saturatingAdd, zero, u64SaturatingAdd_zero]

instance : Add TelemetryCounters := ⟨saturatingAdd⟩

instance : Zero TelemetryCounters := ⟨zero⟩

/-- Sums of counters saturate, and come out the same in whatever order they are taken. -/
instance : AddCommMonoid TelemetryCounters where
  add_assoc := saturatingAdd_assoc
  add_comm := saturatingAdd_comm
  add_zero := saturatingAdd_zero
  zero_add counters := (saturatingAdd_comm zero counters).trans (saturatingAdd_zero counters)
  nsmul := nsmulRec

instance : LE TelemetryCounters := ⟨Within⟩

theorem le_refl (counters : TelemetryCounters) : counters ≤ counters :=
  ⟨UInt64.le_refl _, UInt64.le_refl _, UInt64.le_refl _, UInt64.le_refl _, UInt64.le_refl _,
    UInt64.le_refl _⟩

theorem le_trans {left middle right : TelemetryCounters} (h : left ≤ middle) (h' : middle ≤ right) :
    left ≤ right :=
  ⟨UInt64.le_trans h.txBytes h'.txBytes, UInt64.le_trans h.rxBytes h'.rxBytes,
    UInt64.le_trans h.handshakeAttempts h'.handshakeAttempts,
    UInt64.le_trans h.handshakeSuccesses h'.handshakeSuccesses,
    UInt64.le_trans h.latencySamples h'.latencySamples,
    UInt64.le_trans h.latencyMicroseconds h'.latencyMicroseconds⟩

theorem le_antisymm {left right : TelemetryCounters} (h : left ≤ right) (h' : right ≤ left) :
    left = right := by
  have htx := UInt64.le_antisymm h.txBytes h'.txBytes
  have hrx := UInt64.le_antisymm h.rxBytes h'.rxBytes
  have hattempts := UInt64.le_antisymm h.handshakeAttempts h'.handshakeAttempts
  have hsuccesses := UInt64.le_antisymm h.handshakeSuccesses h'.handshakeSuccesses
  have hsamples := UInt64.le_antisymm h.latencySamples h'.latencySamples
  have hmicroseconds := UInt64.le_antisymm h.latencyMicroseconds h'.latencyMicroseconds
  cases left
  cases right
  exact mk.injEq .. ▸ ⟨htx, hrx, hattempts, hsuccesses, hsamples, hmicroseconds⟩

instance : PartialOrder TelemetryCounters where
  le_refl := le_refl
  le_trans _ _ _ := le_trans
  le_antisymm _ _ := le_antisymm

theorem add_le_add_left {left right : TelemetryCounters} (h : left ≤ right)
    (other : TelemetryCounters) : other + left ≤ other + right :=
  ⟨u64SaturatingAdd_le_left _ h.txBytes, u64SaturatingAdd_le_left _ h.rxBytes,
    u64SaturatingAdd_le_left _ h.handshakeAttempts, u64SaturatingAdd_le_left _ h.handshakeSuccesses,
    u64SaturatingAdd_le_left _ h.latencySamples, u64SaturatingAdd_le_left _ h.latencyMicroseconds⟩

instance : IsOrderedAddMonoid TelemetryCounters where
  add_le_add_left left right h other := by
    rw [add_comm left other, add_comm right other]
    exact add_le_add_left h other

theorem zero_le (counters : TelemetryCounters) : 0 ≤ counters :=
  ⟨UInt64.zero_le, UInt64.zero_le, UInt64.zero_le, UInt64.zero_le, UInt64.zero_le, UInt64.zero_le⟩

end TelemetryCounters

/-- What a peer counts of the published totals. -/
def Peer.telemetry (peer : Peer) : TelemetryCounters where
  txBytes := peer.txBytesTotal
  rxBytes := peer.rxBytesTotal
  handshakeAttempts := peer.handshakeAttemptsTotal
  handshakeSuccesses := peer.handshakeSuccessesTotal
  latencySamples := peer.latencySamplesTotal
  latencyMicroseconds := peer.latencyMicrosecondsTotal

/-- The totals of `synchronize_status`. -/
def UdpDataPlane.telemetryTotals (dp : UdpDataPlane) : TelemetryCounters :=
  (dp.peersByVirtualIp.entries.map Sigma.snd).foldl TelemetryCounters.addPeer dp.retiredTelemetry

theorem foldl_addPeer (counters : TelemetryCounters) (peers : List Peer) :
    peers.foldl TelemetryCounters.addPeer counters = counters + (peers.map Peer.telemetry).sum := by
  induction peers generalizing counters with
  | nil => exact (add_zero counters).symm
  | cons peer peers ih =>
    have hpeer : counters.addPeer peer = counters + peer.telemetry := rfl
    rw [List.foldl_cons, ih, hpeer, List.map_cons, List.sum_cons, add_assoc]

/-- The peers of a hash map come in any order. -/
theorem telemetryTotals_perm (dp : UdpDataPlane) {peers : List Peer}
    (h : peers.Perm (dp.peersByVirtualIp.entries.map Sigma.snd)) :
    peers.foldl TelemetryCounters.addPeer dp.retiredTelemetry = dp.telemetryTotals := by
  rw [UdpDataPlane.telemetryTotals, foldl_addPeer, foldl_addPeer, (h.map Peer.telemetry).sum_eq]

theorem telemetryTotals_eq (dp : UdpDataPlane) :
    dp.telemetryTotals =
      dp.retiredTelemetry + total (fun _ peer => peer.telemetry) dp.peersByVirtualIp := by
  rw [UdpDataPlane.telemetryTotals, foldl_addPeer, List.map_map]
  rfl

end XsNexus
