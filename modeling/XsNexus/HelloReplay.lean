import XsNexus.PathAuthentication
import XsNexus.PeerRuns

namespace XsNexus

open ByteCodec MachineWords Runs

def helloClientTime (encoded : Bytes) : Option UInt64 :=
  (field (encoded.drop commonHeaderLength) 112 8).map u64FromBe

/-- The `not_after` of the credential in a `ClientHello`. -/
def helloCredentialExpiry (encoded : Bytes) : Option UInt64 := do
  let credential ← field (encoded.drop commonHeaderLength) 122 200
  let notAfter ← field credential.val 88 8
  some (u64FromBe notAfter)

/-- The `ClientHello` for which a call starts a server handshake: it answers, and not from the
pending one. -/
def startedHello (c : Crypto) (material : LocalMaterial) (peer : Peer) : PeerOp → Option Bytes
  | .datagram source packet now allowRoutedData _ reads =>
    if packet[5]? = some clientHelloType ∧ peer.cachedServerHello (c.sha256 packet) = none ∧
        (peer.processDatagram c material source packet now allowRoutedData reads).1.outbound ≠ [] then
      some packet
    else none
  | _ => none

/-- The step of a peer with the request it accepts as its output. -/
def helloStep (c : Crypto) (material : LocalMaterial) (peer : Peer) (op : PeerOp) :
    Option Bytes × Peer :=
  (startedHello c material peer op, (peer.apply c material op).2)

/-- The requests a run starts server handshakes for, in order. -/
def startedHellos (c : Crypto) (material : LocalMaterial) (peer : Peer) (ops : List PeerOp) :
    List Bytes :=
  (trace (helloStep c material) peer ops).filterMap Prod.snd

/-- The Unix second of a monotonic instant. -/
def unixSecond (offset now : Nat) : Nat := (offset + now) / 10 ^ 9

/-- The clocks go forward together: no Unix reading lies before the instant its call started at. -/
structure HelloClocks (offset : Nat) (ops : List PeerOp) : Prop where
  monotone : (ops.filterMap PeerOp.instant).Pairwise (· ≤ ·)
  together : ∀ source packet now allowRoutedData throughRelay reads unixTime,
    .datagram source packet now allowRoutedData throughRelay reads ∈ ops →
    reads.unixTime = some unixTime → unixSecond offset now ≤ unixTime.toNat

/-- A new request that verifies is stamped before the second it arrives in, or its credential runs
out first, and there is room for it in the cache. -/
def HelloCovered (c : Crypto) (material : LocalMaterial) (offset : Nat) (peer : Peer) (op : PeerOp) :
    Prop :=
  ∀ source packet now allowRoutedData throughRelay reads unixTime parsed,
    op = .datagram source packet now allowRoutedData throughRelay reads →
    peer.cachedServerHello (c.sha256 packet) = none →
    (∀ known ∈ (peer.pruneClientHelloCache now).recentClientHellos, known.1 ≠ c.sha256 packet) →
    reads.unixTime = some unixTime →
    parseClientHello c packet (context material peer) material.controllerVerifyingKey unixTime =
      some parsed →
    ((∀ time, helloClientTime packet = some time → time.toNat < unixSecond offset now) ∨
      (∀ time, helloCredentialExpiry packet = some time →
        time.toNat ≤ unixSecond offset now + 300)) ∧
    (peer.pruneClientHelloCache now).recentClientHellos.length < maxRecentClientHellos

/-- From five minutes after the given second on, the request does not verify. -/
def Stale (c : Crypto) (material : LocalMaterial) (packet : Bytes) (second : Nat) : Prop :=
  ∀ (ctx : HandshakeContext) (unixTime : UInt64), second + 300 ≤ unixTime.toNat →
    parseClientHello c packet ctx material.controllerVerifyingKey unixTime = none

theorem verifyCredential_notAfter {c : Crypto} {credential : Bytes} {key : VerifyingKey}
    {now : UInt64} {verified : VerifiedCredential}
    (h : verifyCredential c credential key now = some verified) :
    ∃ notAfter, field credential 88 8 = some notAfter ∧ now < u64FromBe notAfter := by
  obtain ⟨bytes, hb, h⟩ := Option.bind_eq_some_iff.mp h
  split at h
  next => simp at h
  next =>
    obtain ⟨_, _, h⟩ := Option.bind_eq_some_iff.mp h
    obtain ⟨_, _, h⟩ := Option.bind_eq_some_iff.mp h
    obtain ⟨_, _, h⟩ := Option.bind_eq_some_iff.mp h
    obtain ⟨_, _, h⟩ := Option.bind_eq_some_iff.mp h
    obtain ⟨_, _, h⟩ := Option.bind_eq_some_iff.mp h
    obtain ⟨_, _, h⟩ := Option.bind_eq_some_iff.mp h
    obtain ⟨notAfter, ha, h⟩ := Option.bind_eq_some_iff.mp h
    obtain ⟨_, _, h⟩ := Option.bind_eq_some_iff.mp h
    obtain ⟨_, _, h⟩ := Option.bind_eq_some_iff.mp h
    obtain ⟨_, _, h⟩ := Option.bind_eq_some_iff.mp h
    dsimp only at h
    split at h
    next => simp at h
    next hguard =>
      simp only [not_or] at hguard
      rw [array_eq_some hb] at ha
      exact ⟨notAfter, ha, UInt64.not_le.mp hguard.2.2.2.2.1⟩

/-- What a verified request says of the time it verifies at. -/
theorem parseClientHello_times {c : Crypto} {encoded : Bytes} {ctx : HandshakeContext}
    {key : VerifyingKey} {now : UInt64} {parsed : ParsedClientHello}
    (h : parseClientHello c encoded ctx key now = some parsed) :
    (∃ time, helloClientTime encoded = some time ∧ now.toNat ≤ time.toNat + 300) ∧
      ∃ time, helloCredentialExpiry encoded = some time ∧ now.toNat < time.toNat := by
  obtain ⟨messageId, _, h⟩ := Option.bind_eq_some_iff.mp h
  dsimp only at h
  obtain ⟨networkId, _, h⟩ := Option.bind_eq_some_iff.mp h
  obtain ⟨sourceNodeId, _, h⟩ := Option.bind_eq_some_iff.mp h
  obtain ⟨destinationNodeId, _, h⟩ := Option.bind_eq_some_iff.mp h
  obtain ⟨clientNonce, _, h⟩ := Option.bind_eq_some_iff.mp h
  obtain ⟨ephemeralPublicKey, _, h⟩ := Option.bind_eq_some_iff.mp h
  obtain ⟨clientTime, ht, h⟩ := Option.bind_eq_some_iff.mp h
  obtain ⟨encodedCredentialLength, _, h⟩ := Option.bind_eq_some_iff.mp h
  obtain ⟨credential, hcredential, h⟩ := Option.bind_eq_some_iff.mp h
  obtain ⟨suite, _, h⟩ := Option.bind_eq_some_iff.mp h
  split at h
  next => simp at h
  next hguard =>
    simp only [not_or] at hguard
    obtain ⟨verified, hv, _⟩ := Option.bind_eq_some_iff.mp h
    obtain ⟨checked, hv, _⟩ := Option.bind_eq_some_iff.mp hv
    obtain ⟨notAfter, ha, hlt⟩ := verifyCredential_notAfter hv
    refine ⟨⟨u64FromBe clientTime, ?_, ?_⟩, u64FromBe notAfter, ?_, UInt64.lt_iff_toNat_lt.mp hlt⟩
    · rw [helloClientTime, ht]
      rfl
    · have hfresh := UInt64.le_iff_toNat_le.mp (UInt64.not_lt.mp hguard.2.2.2.2.2.2.2.2)
      have h300 : maxClockSkewSeconds.toNat = 300 := by decide
      rw [toNat_u64AbsDiff] at hfresh
      omega
    · rw [helloCredentialExpiry, hcredential, Option.bind_eq_bind, Option.bind_some, ha]
      rfl

theorem stale_of_times {packet : Bytes} {second : Nat}
    (h : (∀ time, helloClientTime packet = some time → time.toNat < second) ∨
      (∀ time, helloCredentialExpiry packet = some time → time.toNat ≤ second + 300))
    (c : Crypto) (material : LocalMaterial) : Stale c material packet second := by
  intro ctx unixTime hlater
  by_contra hsome
  obtain ⟨parsed, hparsed⟩ := Option.ne_none_iff_exists'.mp hsome
  obtain ⟨⟨time, ht, hfresh⟩, expiry, he, hvalid⟩ := parseClientHello_times hparsed
  rcases h with hbefore | hexpires
  · have hlt := hbefore time ht
    omega
  · have hle := hexpires expiry he
    omega

namespace Peer

theorem mem_pruneClientHelloCache {peer : Peer} {hash : Block 32} {seen now : Nat}
    (h : (hash, seen) ∈ peer.recentClientHellos) (hlive : now < seen + clientHelloCacheLifetime) :
    (hash, seen) ∈ (peer.pruneClientHelloCache now).recentClientHellos := by
  have hkeep : ∀ entries : List (Block 32 × Nat), (hash, seen) ∈ entries →
      (hash, seen) ∈ entries.dropWhile fun entry =>
        decide (saturatingDurationSince now entry.2 ≥ clientHelloCacheLifetime) := by
    intro entries hm
    induction entries with
    | nil => exact hm
    | cons entry entries ih =>
      rw [List.dropWhile_cons]
      split
      next hexpired =>
        rcases List.mem_cons.mp hm with heq | hm
        · subst heq
          have hge := of_decide_eq_true hexpired
          have hpos : 0 < clientHelloCacheLifetime := by decide
          unfold saturatingDurationSince at hge
          dsimp only at hge
          omega
        · exact ih hm
      next => exact hm
  exact hkeep _ h

theorem rememberClientHello_of_room {peer : Peer} (hash : Block 32) (now : Nat)
    (h : peer.recentClientHellos.length < maxRecentClientHellos) :
    (peer.rememberClientHello hash now).recentClientHellos =
      peer.recentClientHellos ++ [(hash, now)] := by
  rw [rememberClientHello]
  dsimp only
  rw [if_neg (Nat.not_le.mpr h)]

/-- Only a `ClientHello` gets an entry in the cache of requests. -/
theorem processDatagram_keeps_hellos {c : Crypto} {material : LocalMaterial} {peer peer' : Peer}
    {source : SocketAddr} {packet : Bytes} {now : Nat} {allowRoutedData : Bool} {reads : DatagramReads}
    {result : ProcessResult}
    (h : peer.processDatagram c material source packet now allowRoutedData reads = (result, peer'))
    (hother : packet[5]? ≠ some clientHelloType) :
    peer'.recentClientHellos = peer.recentClientHellos := by
  rcases processDatagram_cases h with ⟨htype, _⟩ | ⟨_, h⟩ | ⟨_, h⟩ | ⟨_, h⟩ | ⟨_, h | ⟨_, hp⟩⟩
  · exact absurd htype hother
  · rcases handleServerHello_cases h with ⟨_, _, _, hp⟩ | ⟨_, _, _, _, _, _, _, hp⟩ |
      ⟨_, _, _, hp | ⟨_, hp⟩⟩ | ⟨_, _, _, hp⟩
    · rw [hp]
    · rw [hp]
    · rw [hp]
      rfl
    · rw [hp]
    · rw [hp]
  · rcases handleClientFinish_cases h with ⟨_, _, _, _, _, _, _, hp⟩ | ⟨_, _, _, hp⟩ | ⟨_, _, hp⟩
    · rw [hp]
      exact installSession_recentClientHellos ..
    · rw [hp]
      rfl
    · rw [hp]
  · rcases handleServerFinish_cases h with ⟨_, _, _, _, _, _, hp⟩ | ⟨_, _, _, hp⟩ | ⟨_, _, hp⟩
    · rw [hp]
      exact installSession_recentClientHellos ..
    · rw [hp]
      rfl
    · rw [hp]
  · rcases handleData_cases h with ⟨_, _, hp⟩ | ⟨_, _, _, _, hp⟩ |
      ⟨_, _, _, _, _, _, hp | ⟨pending, _, _, _, hp⟩, _⟩
    · rw [hp]
    · rw [hp]
    · rw [hp]
    · rw [hp, completePathProbe]
      dsimp only
      split <;> rfl
  · rw [hp]

/-- What one call does to the cache of requests: nothing, a pruning, or the entry of the request it
starts a handshake for. -/
theorem apply_hellos (c : Crypto) (material : LocalMaterial) (peer : Peer) (op : PeerOp) :
    (startedHello c material peer op = none ∧
      ((peer.apply c material op).2.recentClientHellos = peer.recentClientHellos ∨
        ∃ now, op.instant = some now ∧ (peer.apply c material op).2.recentClientHellos =
          (peer.pruneClientHelloCache now).recentClientHellos)) ∨
    ∃ source packet now allowRoutedData throughRelay reads unixTime parsed,
      op = .datagram source packet now allowRoutedData throughRelay reads ∧
      startedHello c material peer op = some packet ∧
      peer.cachedServerHello (c.sha256 packet) = none ∧
      (∀ known ∈ (peer.pruneClientHelloCache now).recentClientHellos, known.1 ≠ c.sha256 packet) ∧
      reads.unixTime = some unixTime ∧
      parseClientHello c packet (context material peer) material.controllerVerifyingKey unixTime =
        some parsed ∧
      (peer.apply c material op).2.recentClientHellos =
        ((peer.pruneClientHelloCache now).rememberClientHello (c.sha256 packet)
          now).recentClientHellos := by
  cases op with
  | maintain now counters reads =>
    exact Or.inl ⟨rfl, Or.inr ⟨now, rfl, (maintain_keepsQueue ..).recentClientHellos⟩⟩
  | forwardTun packet routedPacket now reads =>
    exact Or.inl ⟨rfl, Or.inl (forwardTun_remembers ..).recentClientHellos⟩
  | startManualPathProbe now reads =>
    exact Or.inl ⟨rfl, Or.inl (startManualPathProbe_keepsQueue ..).recentClientHellos⟩
  | manualPathProbeUnsent => exact Or.inl ⟨rfl, Or.inl rfl⟩
  | pruneExpiredCandidates now =>
    exact Or.inl ⟨rfl, Or.inl (pruneExpiredCandidates_keepsQueue ..).recentClientHellos⟩
  | applyConfiguration candidates policyChanged now =>
    exact Or.inl ⟨rfl, Or.inl (applyConfiguration_keepsQueue ..).1.recentClientHellos⟩
  | failRelayPath failedEndpoint now =>
    exact Or.inl ⟨rfl, Or.inl (failRelayPath_keepsQueue ..).recentClientHellos⟩
  | datagram source packet now allowRoutedData throughRelay reads =>
    have hreceive := (receive_keepsQueue c material peer source packet now allowRoutedData
      throughRelay reads).recentClientHellos
    obtain ⟨result, peer', h⟩ : ∃ result peer',
      peer.processDatagram c material source packet now allowRoutedData reads = (result, peer') :=
        ⟨_, _, rfl⟩
    have happly : (peer.apply c material
        (.datagram source packet now allowRoutedData throughRelay reads)).2.recentClientHellos =
        peer'.recentClientHellos := by
      rw [h] at hreceive
      exact hreceive
    rw [happly]
    by_cases htype : packet[5]? = some clientHelloType
    · have hh : peer.handleClientHello c material packet now reads = (result, peer') := by
        rw [← h, processDatagram, htype]
        simp
      rcases handleClientHello_cases hh with ⟨encoded, hcached, hr, hp⟩ | ⟨hcached, hr, hp⟩ |
        ⟨machine, hcached, hunknown, haccept, hr, hp⟩
      · refine Or.inl ⟨?_, Or.inl (by rw [hp])⟩
        rw [startedHello, if_neg]
        rw [hcached]
        simp
      · refine Or.inl ⟨?_, Or.inr ⟨now, rfl, by rw [hp]⟩⟩
        rw [startedHello, if_neg]
        rw [h, hr]
        simp [ProcessResult.empty]
      · obtain ⟨unixTime, parsed, hclock, hparsed⟩ := acceptClientHello_parses haccept
        refine Or.inr ⟨source, packet, now, allowRoutedData, throughRelay, reads, unixTime, parsed, rfl, ?_,
          hcached, hunknown, hclock, hparsed, ?_⟩
        · rw [startedHello, if_pos]
          refine ⟨htype, hcached, ?_⟩
          rw [h, hr]
          simp
        · rw [hp]
          rfl
    · refine Or.inl ⟨?_, Or.inl (processDatagram_keeps_hellos h htype)⟩
      rw [startedHello, if_neg]
      exact fun hstart => htype hstart.1

end Peer

theorem unixSecond_add {offset now later : Nat} (h : now + clientHelloCacheLifetime ≤ later) :
    unixSecond offset now + 300 ≤ unixSecond offset later := by
  unfold unixSecond clientHelloCacheLifetime durationFromSecs at *
  omega

/-- Every request that started a handshake is still cached, or too old to verify once more. -/
structure HelloInvariant (c : Crypto) (material : LocalMaterial) (offset : Nat) (peer : Peer)
    (history : List (PeerOp × Option Bytes)) : Prop where
  nodup : (history.filterMap Prod.snd).Nodup
  started : ∀ op packet, (op, some packet) ∈ history → ∃ now,
    Stale c material packet (unixSecond offset now) ∧
      ((c.sha256 packet, now) ∈ peer.recentClientHellos ∨
        ∃ later ∈ (history.map Prod.fst).filterMap PeerOp.instant,
          now + clientHelloCacheLifetime ≤ later)

theorem helloInvariant_start (c : Crypto) (material : LocalMaterial) (offset : Nat) (peer : Peer) :
    HelloInvariant c material offset peer [] := by
  refine ⟨List.nodup_nil, ?_⟩
  intro op packet hm
  simp at hm

/-- A call that starts no handshake may prune the cache and nothing else. -/
theorem HelloInvariant.quiet {c : Crypto} {material : LocalMaterial} {offset : Nat}
    {peer peer' : Peer} {history : List (PeerOp × Option Bytes)}
    (hi : HelloInvariant c material offset peer history) {op : PeerOp}
    (h : peer'.recentClientHellos = peer.recentClientHellos ∨
      ∃ now, op.instant = some now ∧
        peer'.recentClientHellos = (peer.pruneClientHelloCache now).recentClientHellos) :
    HelloInvariant c material offset peer' (history ++ [(op, none)]) := by
  refine ⟨?_, ?_⟩
  · rw [List.filterMap_append]
    simpa using hi.nodup
  · intro op₀ packet hm
    rcases List.mem_append.mp hm with hm | hm
    · obtain ⟨now, hstale, hkept⟩ := hi.started op₀ packet hm
      refine ⟨now, hstale, ?_⟩
      rw [List.map_append, List.filterMap_append]
      rcases hkept with hcached | ⟨later, hl, hle⟩
      · rcases h with hsame | ⟨pruned, hinstant, hpruned⟩
        · rw [hsame]
          exact Or.inl hcached
        · by_cases hlive : pruned < now + clientHelloCacheLifetime
          · rw [hpruned]
            exact Or.inl (Peer.mem_pruneClientHelloCache hcached hlive)
          · refine Or.inr ⟨pruned, List.mem_append_right _ ?_, Nat.not_lt.mp hlive⟩
            simp [hinstant]
      · exact Or.inr ⟨later, List.mem_append_left _ hl, hle⟩
    · simp at hm

/-- A request that started a handshake before is either refused as known or too old. -/
theorem HelloInvariant.fresh {c : Crypto} {material : LocalMaterial} {offset : Nat} {peer : Peer}
    {history : List (PeerOp × Option Bytes)} (hi : HelloInvariant c material offset peer history)
    {packet : Bytes} {now : Nat} {unixTime : UInt64} {parsed : ParsedClientHello}
    (hlast : ∀ earlier ∈ (history.map Prod.fst).filterMap PeerOp.instant, earlier ≤ now)
    (htogether : unixSecond offset now ≤ unixTime.toNat)
    (hunknown : ∀ known ∈ (peer.pruneClientHelloCache now).recentClientHellos,
      known.1 ≠ c.sha256 packet)
    (hparsed : parseClientHello c packet (context material peer) material.controllerVerifyingKey
      unixTime = some parsed) : packet ∉ history.filterMap Prod.snd := by
  intro hm
  obtain ⟨⟨op, output⟩, hevent, heq⟩ := List.mem_filterMap.mp hm
  have heq' : output = some packet := heq
  subst heq'
  obtain ⟨first, hstale, hkept⟩ := hi.started op packet hevent
  have hexpired : first + clientHelloCacheLifetime ≤ now := by
    rcases hkept with hcached | ⟨later, hl, hle⟩
    · by_contra hlive
      exact hunknown _ (Peer.mem_pruneClientHelloCache hcached (Nat.not_le.mp hlive)) rfl
    · have hlater := hlast later hl
      omega
  have hsecond : unixSecond offset first + 300 ≤ unixSecond offset now := unixSecond_add hexpired
  have hnone := hstale (context material peer) unixTime (by omega)
  rw [hnone] at hparsed
  simp at hparsed

theorem HelloInvariant.step {c : Crypto} {material : LocalMaterial} {offset : Nat} {peer : Peer}
    {history : List (PeerOp × Option Bytes)} (hi : HelloInvariant c material offset peer history)
    {op : PeerOp} (clocks : HelloClocks offset (history.map Prod.fst ++ [op]))
    (covered : HelloCovered c material offset peer op) :
    HelloInvariant c material offset (helloStep c material peer op).2
      (history ++ [(op, (helloStep c material peer op).1)]) := by
  rcases Peer.apply_hellos c material peer op with ⟨hnone, hkept⟩ |
    ⟨source, packet, now, allowRoutedData, throughRelay, reads, unixTime, parsed, hop, hstarted,
      hcached, hunknown, hclock, hparsed, hafter⟩
  · simp only [helloStep, hnone]
    exact hi.quiet hkept
  · simp only [helloStep, hstarted]
    have hinstant : op.instant = some now := by
      rw [hop]
      rfl
    have hlast : ∀ earlier ∈ (history.map Prod.fst).filterMap PeerOp.instant, earlier ≤ now := by
      intro earlier hm
      have hmono := clocks.monotone
      rw [List.filterMap_append] at hmono
      exact (List.pairwise_append.mp hmono).2.2 earlier hm now (by simp [hinstant])
    have htogether : unixSecond offset now ≤ unixTime.toNat := by
      refine clocks.together source packet now allowRoutedData throughRelay reads unixTime ?_ hclock
      rw [← hop]
      exact List.mem_append_right _ (List.mem_singleton_self op)
    have hfresh := hi.fresh hlast htogether hunknown hparsed
    obtain ⟨htimes, hroom⟩ := covered source packet now allowRoutedData throughRelay reads unixTime
      parsed hop hcached hunknown hclock hparsed
    rw [Peer.rememberClientHello_of_room _ _ hroom] at hafter
    refine ⟨?_, ?_⟩
    · rw [List.filterMap_append]
      refine List.nodup_append.mpr ⟨hi.nodup, by simp, ?_⟩
      intro earlier he other ho heq
      have hother : other = packet := by simpa using ho
      rw [heq, hother] at he
      exact hfresh he
    · intro op₀ packet₀ hm
      rw [hafter]
      rcases List.mem_append.mp hm with hm | hm
      · obtain ⟨first, hstale, hkept⟩ := hi.started op₀ packet₀ hm
        refine ⟨first, hstale, ?_⟩
        rw [List.map_append, List.filterMap_append]
        rcases hkept with hin | ⟨later, hl, hle⟩
        · by_cases hlive : now < first + clientHelloCacheLifetime
          · exact Or.inl (List.mem_append_left _ (Peer.mem_pruneClientHelloCache hin hlive))
          · refine Or.inr ⟨now, List.mem_append_right _ ?_, Nat.not_lt.mp hlive⟩
            simp [hinstant]
        · exact Or.inr ⟨later, List.mem_append_left _ hl, hle⟩
      · have hpacket : packet₀ = packet := by
          have heq := (Prod.mk.inj (List.mem_singleton.mp hm)).2
          exact Option.some.inj heq
        subst hpacket
        refine ⟨now, stale_of_times htimes c material, Or.inl ?_⟩
        exact List.mem_append_right _ (List.mem_singleton_self _)

theorem HelloClocks.prefix {offset : Nat} {ops later : List PeerOp}
    (h : HelloClocks offset (ops ++ later)) : HelloClocks offset ops := by
  refine ⟨?_, ?_⟩
  · have hmono := h.monotone
    rw [List.filterMap_append] at hmono
    exact (List.pairwise_append.mp hmono).1
  · intro source packet now allowRoutedData throughRelay reads unixTime hm hclock
    exact h.together source packet now allowRoutedData throughRelay reads unixTime
      (List.mem_append_left _ hm) hclock

/-- While every new request is behind the clock and finds room in the cache, no `ClientHello` starts
two server handshakes; one that starts none is answered from the pending handshake at most. -/
theorem client_hellos_start_once (c : Crypto) (material : LocalMaterial) (peer : Peer)
    (ops : List PeerOp) (offset : Nat) (clocks : HelloClocks offset ops)
    (covered : Along (helloStep c material) (HelloCovered c material offset) peer ops) :
    (startedHellos c material peer ops).Nodup ∧
    ∀ source packet now allowRoutedData throughRelay reads,
      let reached := final (helloStep c material) peer ops
      packet[5]? = some clientHelloType →
      startedHello c material reached
        (.datagram source packet now allowRoutedData throughRelay reads) = none →
      (reached.processDatagram c material source packet now allowRoutedData reads).1.outbound =
        (reached.cachedServerHello (c.sha256 packet)).toList := by
  refine ⟨?_, ?_⟩
  · have hrun := run_preserves (P := fun peer history =>
      HelloClocks offset (history.map Prod.fst) → HelloInvariant c material offset peer history)
      (by
        intro peer history op h hcovered hclocks
        rw [List.map_append] at hclocks
        exact (h hclocks.prefix).step hclocks hcovered)
      ops (fun _ => helloInvariant_start c material offset peer) covered
    rw [List.nil_append, trace_inputs] at hrun
    exact (hrun clocks).nodup
  · intro source packet now allowRoutedData throughRelay reads reached htype hnone
    obtain ⟨result, peer', h⟩ : ∃ result peer',
      reached.processDatagram c material source packet now allowRoutedData reads = (result, peer') :=
        ⟨_, _, rfl⟩
    cases hcached : reached.cachedServerHello (c.sha256 packet) with
    | some encoded =>
      simp only [Peer.processDatagram, htype, if_true, Peer.handleClientHello, hcached,
        Option.toList_some]
    | none =>
      by_contra hanswers
      rw [startedHello, if_pos ⟨htype, hcached, hanswers⟩] at hnone
      simp at hnone

def samplePeerHello (clientTime : UInt64) : Bytes :=
  (ClientHelloSent.start .transparent {
    context := samplePeerContext
    credential := sampleCredential sampleIdentityKey samplePeer.virtualIp
    ephemeralPrivateKey := ⟨fill 32 7⟩
    clientNonce := fill 32 4
    messageId := 5
    clientTime := clientTime } sampleIdentityKey).elim [] ClientHelloSent.encoded

def sampleHelloOp (clientTime : UInt64) (now : Nat) (unixTime : UInt64) : PeerOp :=
  .datagram sampleEndpoint (samplePeerHello clientTime) now false false
    ⟨some (fill 32 3), some (fill 32 8), some (fill 16 9), some unixTime, some unixTime, now⟩

/-- The ticks after which a `ServerHello` without an answer is given up. -/
def sampleTicks : List PeerOp :=
  (List.range 6).map fun tick => .maintain (durationFromMillis (300 * (tick + 1))) ⟨32, 0⟩
    ⟨⟨none, none, none, none⟩, ⟨none, none⟩, ⟨none, none, none, none⟩⟩

/-- A request that is given up and delivered again so many seconds after it came first. -/
def deliveredTwice (clientTime : UInt64) (seconds : Nat) : List PeerOp :=
  sampleHelloOp clientTime 0 1700000100 ::
    (sampleTicks ++ [sampleHelloOp clientTime (seconds * 10 ^ 9) (1700000100 + UInt64.ofNat seconds)])

theorem deliveredTwice_clocks (clientTime : UInt64) {seconds : Nat} (h : seconds ∈ [200, 300]) :
    HelloClocks (1700000100 * 10 ^ 9) (deliveredTwice clientTime seconds) := by
  have hinstants : (deliveredTwice clientTime seconds).filterMap PeerOp.instant = 0 ::
      ((List.range 6).map (fun tick => durationFromMillis (300 * (tick + 1))) ++
        [seconds * 10 ^ 9]) := rfl
  have hordered : ∀ seconds ∈ [200, 300], (0 ::
      ((List.range 6).map (fun tick => durationFromMillis (300 * (tick + 1))) ++
        [seconds * 10 ^ 9])).Pairwise (· ≤ ·) := by decide
  have htogether : ∀ seconds ∈ [200, 300], unixSecond (1700000100 * 10 ^ 9) (seconds * 10 ^ 9) ≤
      (1700000100 + UInt64.ofNat seconds).toNat := by decide
  refine ⟨?_, ?_⟩
  · rw [hinstants]
    exact hordered seconds h
  · intro source packet now allowRoutedData throughRelay reads unixTime hm hclock
    rcases List.mem_cons.mp hm with heq | hm
    · cases heq
      cases hclock
      decide
    · rcases List.mem_append.mp hm with hm | hm
      · obtain ⟨tick, _, heq⟩ := List.mem_map.mp hm
        simp at heq
      · cases List.mem_singleton.mp hm
        cases hclock
        exact htogether seconds h

theorem sampleTicks_covered (peer : Peer) :
    Along (helloStep .transparent sampleMaterial)
      (HelloCovered .transparent sampleMaterial (1700000100 * 10 ^ 9)) peer sampleTicks := by
  refine along_iff.mpr fun earlier op hearlier => ?_
  obtain ⟨tick, _, hop⟩ := List.mem_map.mp
    (hearlier.subset (List.mem_append_right earlier (List.mem_singleton_self op)))
  intro source packet now allowRoutedData throughRelay reads unixTime parsed heq
  exact nomatch hop.trans heq

theorem deliveredTwice_known :
    helloClientTime (samplePeerHello 1700000050) = some 1700000050 ∧
      (parseClientHello .transparent (samplePeerHello 1700000050) (context sampleMaterial samplePeer)
        sampleMaterial.controllerVerifyingKey 1700000300).isSome = true ∧
      ((final (helloStep .transparent sampleMaterial) samplePeer
        (sampleHelloOp 1700000050 0 1700000100 :: sampleTicks)).pruneClientHelloCache
          (200 * 10 ^ 9)).recentClientHellos.length = 1 ∧
      startedHellos .transparent sampleMaterial samplePeer (deliveredTwice 1700000050 200) =
        [samplePeerHello 1700000050] := by
  refine ⟨?_, ?_, ?_, ?_⟩ <;> decide +kernel

/-- The request verifies at its second delivery too; it is the cache that knows it. -/
theorem client_hellos_start_once_aged :
    (parseClientHello .transparent (samplePeerHello 1700000050) (context sampleMaterial samplePeer)
        sampleMaterial.controllerVerifyingKey 1700000300).isSome = true ∧
      startedHellos .transparent sampleMaterial samplePeer (deliveredTwice 1700000050 200) =
        [samplePeerHello 1700000050] ∧
      (startedHellos .transparent sampleMaterial samplePeer (deliveredTwice 1700000050 200)).Nodup := by
  obtain ⟨hstamp, hverifies, hlength, hstarted⟩ := deliveredTwice_known
  refine ⟨hverifies, hstarted, ?_⟩
  refine (client_hellos_start_once .transparent sampleMaterial samplePeer _ _
    (deliveredTwice_clocks 1700000050 (by decide)) ⟨?_, along_append.mpr
      ⟨sampleTicks_covered _, ?_, trivial⟩⟩).1
  · intro source packet now allowRoutedData throughRelay reads unixTime parsed hop _ _ _ _
    cases hop
    refine ⟨Or.inl fun time htime => ?_, by decide⟩
    cases htime.symm.trans hstamp
    decide
  · intro source packet now allowRoutedData throughRelay reads unixTime parsed hop _ _ _ _
    cases hop
    refine ⟨Or.inl fun time htime => ?_, lt_of_eq_of_lt hlength (by decide)⟩
    cases htime.symm.trans hstamp
    decide

/-- The cache entry of a request stamped with the very second it arrives in is gone in the same
instant in which its stamp is still just young enough. -/
theorem client_hello_started_twice : ¬ ∀ (c : Crypto) (material : LocalMaterial) (peer : Peer)
    (ops : List PeerOp) (offset : Nat), HelloClocks offset ops →
      (startedHellos c material peer ops).Nodup := by
  intro h
  have hnodup := h .transparent sampleMaterial samplePeer (deliveredTwice 1700000100 300) _
    (deliveredTwice_clocks 1700000100 (by decide))
  have htwice : startedHellos .transparent sampleMaterial samplePeer (deliveredTwice 1700000100 300) =
      [samplePeerHello 1700000100, samplePeerHello 1700000100] := by
    decide +kernel
  rw [htwice] at hnodup
  simp at hnodup

end XsNexus
