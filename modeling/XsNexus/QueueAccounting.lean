import XsNexus.PathUpgrades
import XsNexus.QueuedPackets

namespace XsNexus

open ByteCodec MachineWords

/-- What a session seals of a packet of the queue. -/
def Sealable (sender : DataSender) (packet : QueuedPacket) : Bool :=
  decide (packet.encoded.length ≤ maxEncryptedPayloadLength) &&
    if packet.routed then (validateIpv4Packet packet.encoded).isSome
    else (validateIpv4 packet.encoded sender.sourceVirtualIp sender.destinationVirtualIp).isSome

section Sealing

variable {c : Crypto} {sender : DataSender} {packet : QueuedPacket}

theorem intoDataPlane_nextSequence {session : EstablishedSession} {receiver : DataReceiver}
    (h : session.intoDataPlane c = some (sender, receiver)) : sender.nextSequence = 0 := by
  unfold EstablishedSession.intoDataPlane DataSender.new at h
  simp only [Option.bind_eq_bind, Option.bind_eq_some_iff] at h
  obtain ⟨sender', ⟨sending, _, hs⟩, receiver', _, h⟩ := h
  cases Option.some.inj hs
  cases Option.some.inj h
  rfl

theorem validateIpv4Packet_length {bytes : Bytes} {addresses : Ipv4Addr × Ipv4Addr}
    (h : validateIpv4Packet bytes = some addresses) : bytes ≠ [] := by
  rintro rfl
  simp [validateIpv4Packet] at h

theorem sealPacket_data (hencrypt : ∀ key nonce aad plaintext,
      plaintext.length ≤ maxEncryptedPayloadLength → (c.encrypt key nonce aad plaintext).isSome)
    {plaintext : Bytes} (hne : plaintext ≠ []) (hlength : plaintext.length ≤ maxEncryptedPayloadLength)
    (hnext : sender.nextSequence.toNat + 1 < 2 ^ 64) :
    ∃ encoded, sender.sealPacket c .data .ackEliciting 0 plaintext =
      (some encoded, { sender with nextSequence := sender.nextSequence + 1 }) := by
  have hmax : sender.nextSequence ≠ u64Max := by
    intro hsame
    have hword : u64Max.toNat = 2 ^ 64 - 1 := by decide
    rw [hsame, hword] at hnext
    omega
  have hflags : validFlags .data .ackEliciting = true := by decide
  have hguard : ¬((!validFlags .data .ackEliciting) = true ∨
      plaintext.length > maxEncryptedPayloadLength ∨ sender.nextSequence = u64Max) := by
    rw [hflags]
    rintro (hno | hlong | hlast)
    · exact absurd hno (by decide)
    · omega
    · exact hmax hlast
  have hpayload : validatePayload .data plaintext = some () := by
    unfold validatePayload
    dsimp only
    rw [List.isEmpty_eq_false_iff.mpr hne]
    rfl
  have hshort : ¬plaintext.length ≥ 2 ^ 16 := by
    have hbound : maxEncryptedPayloadLength < 2 ^ 16 := by decide
    omega
  have hsum : u64CheckedAdd sender.nextSequence 1 = some (sender.nextSequence + 1) := if_pos hnext
  unfold DataSender.sealPacket
  rw [if_neg hguard, hpayload]
  dsimp only
  rw [if_neg hshort]
  obtain ⟨⟨ciphertext, tag⟩, hsealed⟩ := Option.isSome_iff_exists.mp
    (hencrypt sender.epoch.key (packetNonce sender.epoch.nonceSalt sender.nextSequence)
      (sender.header .data .ackEliciting 0 (UInt16.ofNat plaintext.length)).encode plaintext hlength)
  rw [hsealed, hsum]
  exact ⟨_, rfl⟩

def sealOne (c : Crypto) (sender : DataSender) (packet : QueuedPacket) : Option Bytes × DataSender :=
  if packet.routed then sender.sealRoutedIpv4 c .ackEliciting 0 packet.encoded
  else sender.sealIpv4 c .ackEliciting 0 packet.encoded

theorem sealOne_sealable (hencrypt : ∀ key nonce aad plaintext,
      plaintext.length ≤ maxEncryptedPayloadLength → (c.encrypt key nonce aad plaintext).isSome)
    (hnext : sender.nextSequence.toNat + 1 < 2 ^ 64) :
    (Sealable sender packet = true → ∃ encoded, sealOne c sender packet =
        (some encoded, { sender with nextSequence := sender.nextSequence + 1 })) ∧
      (Sealable sender packet = false → sealOne c sender packet = (none, sender)) := by
  have hlong : ¬packet.encoded.length ≤ maxEncryptedPayloadLength →
      sender.sealPacket c .data .ackEliciting 0 packet.encoded = (none, sender) := by
    intro hlong
    unfold DataSender.sealPacket
    rw [if_pos (Or.inr (Or.inl (by omega)))]
  unfold Sealable sealOne
  rw [Bool.and_eq_true, decide_eq_true_eq, Bool.and_eq_false_iff, decide_eq_false_iff_not]
  split
  next =>
    unfold DataSender.sealRoutedIpv4
    cases haddresses : validateIpv4Packet packet.encoded with
    | none => exact ⟨fun h => absurd h.2 (by decide), fun _ => rfl⟩
    | some addresses =>
      refine ⟨fun h => ?_, fun h => ?_⟩
      · exact sealPacket_data hencrypt (validateIpv4Packet_length haddresses) h.1 hnext
      · rcases h with h | h
        · exact hlong h
        · exact absurd h (by simp)
  next =>
    unfold DataSender.sealIpv4
    cases haddresses : validateIpv4 packet.encoded sender.sourceVirtualIp sender.destinationVirtualIp with
    | none => exact ⟨fun h => absurd h.2 (by decide), fun _ => rfl⟩
    | some addresses =>
      obtain ⟨found, hfound, _⟩ := Option.bind_eq_some_iff.mp haddresses
      refine ⟨fun h => ?_, fun h => ?_⟩
      · exact sealPacket_data hencrypt (validateIpv4Packet_length hfound) h.1 hnext
      · rcases h with h | h
        · exact hlong h
        · exact absurd h (by simp)

/-- The queue is sealed in its order, one sequence after the other, without the packets that the session
does not seal. -/
theorem sealQueued_order (hencrypt : ∀ key nonce aad plaintext,
      plaintext.length ≤ maxEncryptedPayloadLength → (c.encrypt key nonce aad plaintext).isSome)
    {packets : List QueuedPacket} {n : Nat} (hstart : sender.nextSequence = UInt64.ofNat n)
    (hnext : n + packets.length < 2 ^ 64) :
    (sealQueued c packets sender).1.map some = (packets.filter (Sealable sender)).mapIdx fun i packet =>
      (sealOne c { sender with nextSequence := UInt64.ofNat (n + i) } packet).1 := by
  induction packets generalizing sender n with
  | nil => rfl
  | cons packet packets ih =>
    rw [List.length_cons] at hnext
    have hword : sender.nextSequence.toNat = n := by
      rw [hstart, UInt64.toNat_ofNat', Nat.mod_eq_of_lt (by omega)]
    obtain ⟨hsealed, hrefused⟩ := @sealOne_sealable c sender packet hencrypt (by omega)
    have hunfold : (sealQueued c (packet :: packets) sender).1 = (sealOne c sender packet).1.toList ++
        (sealQueued c packets (sealOne c sender packet).2).1 := rfl
    rw [hunfold, List.filter_cons, List.map_append]
    cases hsealable : Sealable sender packet with
    | true =>
      obtain ⟨encoded, hone⟩ := hsealed hsealable
      have hfirst : { sender with nextSequence := UInt64.ofNat (n + 0) } = sender := by
        rw [Nat.add_zero, ← hstart]
      have hrest := @ih { sender with nextSequence := sender.nextSequence + 1 } (n + 1)
        (by rw [hstart, UInt64.ofNat_add]; rfl) (by omega)
      rw [if_pos rfl, List.mapIdx_cons, hfirst, hone]
      dsimp only
      rw [hrest]
      show some encoded :: _ = some encoded :: _
      congr 1
      show (packets.filter (Sealable sender)).mapIdx _ = _
      congr 1
      funext i packet
      rw [Nat.add_assoc, Nat.add_comm 1 i]
    | false =>
      rw [hrefused hsealable, if_neg Bool.false_ne_true]
      exact ih hstart (by omega)

end Sealing

namespace Peer

variable {c : Crypto} {material : LocalMaterial} {peer : Peer}

def accepts (peer : Peer) : PeerOp → List QueuedPacket
  | .forwardTun packet routed _ _ =>
    if peer.state.isEstablished = false ∧ peer.activeEndpoint ≠ none ∧
        (peer.queuePacket packet routed).1 then
      [⟨packet, routed⟩]
    else []
  | _ => []

def installs (c : Crypto) (peer : Peer) : PeerOp → Option DataSender
  | .datagram _ packet _ _ _ _ =>
    (peer.finishedSession c packet).bind fun session => (session.intoDataPlane c).map Prod.fst
  | _ => none

def takes (c : Crypto) (material : LocalMaterial) (peer : Peer) (op : PeerOp) : List QueuedPacket :=
  let offered := peer.queuedPackets ++ peer.accepts op
  offered.take (offered.length - (peer.apply c material op).2.queuedPackets.length)

structure QueueSound (peer : Peer) : Prop where
  bytes : peer.queuedBytes = (peer.queuedPackets.map fun packet => packet.encoded.length).sum
  packets : peer.queuedPackets.length ≤ maxQueuedPacketsPerPeer
  limit : peer.queuedBytes ≤ maxQueuedBytesPerPeer
  session : peer.state.isEstablished = true → peer.queuedPackets = []

theorem QueueSound.kept {peer' : Peer} (hi : QueueSound peer) (h : QueueKept peer peer') :
    QueueSound peer' := by
  rcases h with ⟨hpackets, hbytes, hsession⟩ | ⟨hpackets, hbytes⟩
  · refine ⟨?_, ?_, ?_, fun hh => ?_⟩
    · rw [hbytes, hpackets, hi.bytes]
    · rw [hpackets]
      exact hi.packets
    · rw [hbytes]
      exact hi.limit
    · rw [hpackets]
      exact hi.session (hsession hh)
  · refine ⟨?_, ?_, ?_, fun _ => hpackets⟩
    · rw [hbytes, hpackets]
      rfl
    · rw [hpackets]
      exact Nat.zero_le _
    · rw [hbytes]
      exact Nat.zero_le _

theorem QueueSound.accepted {queued : Peer} {packet : Bytes} {routed : Bool} (hi : QueueSound peer)
    (hnone : peer.state.isEstablished = false)
    (h : peer.queuePacket packet routed = (true, queued)) : QueueSound queued := by
  obtain ⟨hroom, hbytes, rfl⟩ := queuePacket_accepted h
  have hexact : usizeSaturatingAdd peer.queuedBytes packet.length = peer.queuedBytes + packet.length :=
    usizeSaturatingAdd_of_le hbytes (by decide)
  refine ⟨?_, ?_, hbytes, fun hh => absurd (hnone.symm.trans hh) (by decide)⟩
  · show usizeSaturatingAdd peer.queuedBytes packet.length = _
    rw [hexact, List.map_append, List.sum_append, hi.bytes]
    simp
  · show (peer.queuedPackets ++ _).length ≤ _
    rw [List.length_append]
    exact hroom

/-- No datagram but the last of a handshake touches the queue, other than to empty it. -/
theorem processDatagram_keepsQueue {peer' : Peer} {source : SocketAddr} {datagram : Bytes} {now : Nat}
    {allowRoutedData : Bool} {reads : DatagramReads} {result : ProcessResult}
    (h : peer.processDatagram c material source datagram now allowRoutedData reads = (result, peer'))
    (hfinished : peer.finishedSession c datagram = none) : QueueKept peer peer' := by
  have hsession := fun hh => processDatagram_unfinished h hfinished hh
  have hkept : peer'.queuedPackets = peer.queuedPackets → peer'.queuedBytes = peer.queuedBytes →
      QueueKept peer peer' := fun hpackets hbytes => Or.inl ⟨hpackets, hbytes, hsession⟩
  have hsame : peer' = peer → QueueKept peer peer' := by
    rintro rfl
    exact Or.inl ⟨rfl, rfl, id⟩
  have hcleared : peer' = peer.clearQueue → QueueKept peer peer' := by
    rintro rfl
    exact Or.inr ⟨rfl, rfl⟩
  rcases processDatagram_cases h with ⟨_, hh⟩ | ⟨_, hh⟩ | ⟨htype, hh⟩ | ⟨htype, hh⟩ | ⟨_, hh⟩
  · rcases handleClientHello_cases hh with ⟨_, _, _, hp⟩ | ⟨_, _, hp⟩ | ⟨_, _, _, _, _, hp⟩
    · exact hsame hp
    · exact hkept (by rw [hp]; rfl) (by rw [hp]; rfl)
    · exact hkept (by rw [hp]; rfl) (by rw [hp]; rfl)
  · rcases handleServerHello_cases hh with ⟨_, _, _, hp⟩ | ⟨_, _, _, _, _, _, _, hp⟩ |
      ⟨_, _, _, hp | ⟨_, hp⟩⟩ | ⟨_, _, _, hp⟩
    · exact hsame hp
    · exact hkept (by rw [hp]) (by rw [hp])
    · exact hcleared hp
    · exact hkept (by rw [hp]) (by rw [hp])
    · exact hsame hp
  · rcases handleClientFinish_cases hh with ⟨_, session, _, hs, ha, _⟩ | ⟨_, _, _, hp⟩ | ⟨_, _, hp⟩
    · have hfinish : peer.finishedSession c datagram = some session := by
        unfold finishedSession
        rw [hs]
        dsimp only
        rw [if_pos htype, ha]
        rfl
      rw [hfinish] at hfinished
      cases hfinished
    · exact hcleared hp
    · exact hsame hp
  · rcases handleServerFinish_cases hh with ⟨_, session, hs, ha, _⟩ | ⟨_, _, _, hp⟩ | ⟨_, _, hp⟩
    · have hfinish : peer.finishedSession c datagram = some session := by
        unfold finishedSession
        rw [hs]
        dsimp only
        rw [if_pos htype, ha]
      rw [hfinish] at hfinished
      cases hfinished
    · exact hcleared hp
    · exact hsame hp
  · rcases hh with hh | ⟨_, hp⟩
    · rcases handleData_cases hh with ⟨_, _, hp⟩ | ⟨_, _, _, _, hp⟩ |
        ⟨_, _, _, _, _, _, hp | ⟨pending, _, _, _, hp⟩, _⟩
      · exact hsame hp
      · exact hsame hp
      · exact hkept (by rw [hp]) (by rw [hp])
      · have hprobed : peer'.queuedPackets = peer.queuedPackets ∧
            peer'.queuedBytes = peer.queuedBytes := by
          rw [hp]
          unfold completePathProbe
          dsimp only
          split <;> exact ⟨rfl, rfl⟩
        exact hkept hprobed.1 hprobed.2
    · exact hsame hp

/-- What a call does to the queue: nothing, a packet more, the whole of it sealed or the whole of it gone. -/
theorem apply_queueStep (c : Crypto) (material : LocalMaterial) (peer : Peer) (op : PeerOp) :
    (peer.installs c op = none ∧ peer.accepts op = [] ∧ QueueKept peer (peer.apply c material op).2) ∨
    (peer.installs c op = none ∧ peer.state.isEstablished = false ∧
      ∃ packet routed now reads queued, op = .forwardTun packet routed now reads ∧
        peer.accepts op = [⟨packet, routed⟩] ∧ peer.queuePacket packet routed = (true, queued) ∧
        QueueKept queued (peer.apply c material op).2) ∨
    (peer.accepts op = [] ∧ (peer.apply c material op).2.queuedPackets = [] ∧
      (peer.apply c material op).2.queuedBytes = 0 ∧ ∃ sender source packet now allowRoutedData throughRelay reads,
        op = .datagram source packet now allowRoutedData throughRelay reads ∧
        peer.installs c op = some sender ∧ sender.nextSequence = 0 ∧
        (peer.processDatagram c material source packet now allowRoutedData reads).1.outbound =
          peer.finishAnswer c packet ++ (sealQueued c peer.queuedPackets sender).1) := by
  cases op with
  | datagram source packet now allowRoutedData throughRelay reads =>
    have hreceive := (receive_keepsQueue c material peer source packet now allowRoutedData
      throughRelay reads).queue
    cases hfinished : peer.finishedSession c packet with
    | none =>
      refine Or.inl ⟨?_, rfl, QueueKept.trans ?_ hreceive⟩
      · simp [installs, hfinished]
      · exact processDatagram_keepsQueue Prod.mk.eta.symm hfinished
    | some session =>
      obtain ⟨houtbound, hafter⟩ :=
        processDatagram_finishes material hfinished source now allowRoutedData reads
      rcases installSession_cases (Prod.mk.eta (p :=
          { peer with state := .idle }.installSession c session reads.instant)).symm with
        ⟨hnone, _, hp⟩ | ⟨sender, receiver, sealing, established, hplane, hsealed, _, _, _, hp⟩
      · refine Or.inl ⟨?_, rfl, QueueKept.trans (Or.inr ?_) hreceive⟩
        · simp [installs, hfinished, hnone]
        · rw [hafter, hp]
          exact ⟨rfl, rfl⟩
      · have hempty : QueueKept { peer with queuedPackets := [], queuedBytes := 0 }
            (peer.apply c material (.datagram source packet now allowRoutedData throughRelay reads)).2 := by
          refine QueueKept.trans (Or.inr ?_) hreceive
          rw [hafter, hp]
          exact ⟨rfl, rfl⟩
        have hgone : ∀ {after : Peer}, QueueKept { peer with queuedPackets := [], queuedBytes := 0 } after →
            after.queuedPackets = [] ∧ after.queuedBytes = 0 := by
          rintro after (⟨hpackets, hbytes, _⟩ | hnothing)
          · exact ⟨hpackets, hbytes⟩
          · exact hnothing
        obtain ⟨hpackets, hbytes⟩ := hgone hempty
        refine Or.inr (Or.inr ⟨rfl, hpackets, hbytes, sender, source, packet, now, allowRoutedData,
          throughRelay, reads, rfl, ?_, intoDataPlane_nextSequence hplane, ?_⟩)
        · simp [installs, hfinished, hplane]
        · rw [houtbound]
          exact congrArg (fun sealed => _ ++ sealed) (congrArg Prod.fst hsealed.symm)
  | maintain now counters reads =>
    refine Or.inl ⟨rfl, rfl, ?_⟩
    exact QueueKept.trans (Or.inl ⟨rfl, rfl, id⟩)
      (maintain_keepsQueue c material peer now counters reads).queue
  | forwardTun packet routed now reads =>
    rcases forwardTun_keepsQueue c material peer packet routed now reads with
      ⟨hrefused, hkeeps⟩ | ⟨hnone, hendpoint, queued, hqueue, hkeeps⟩
    · exact Or.inl ⟨rfl, if_neg hrefused, hkeeps.queue⟩
    · have haccepted : (peer.queuePacket packet routed).1 = true := by rw [hqueue]
      exact Or.inr (Or.inl ⟨rfl, hnone, packet, routed, now, reads, queued, rfl,
        if_pos ⟨hnone, hendpoint, haccepted⟩, hqueue, hkeeps.queue⟩)
  | startManualPathProbe now reads =>
    exact Or.inl ⟨rfl, rfl, (startManualPathProbe_keepsQueue c peer now reads).queue⟩
  | manualPathProbeUnsent => exact Or.inl ⟨rfl, rfl, Or.inl ⟨rfl, rfl, id⟩⟩
  | pruneExpiredCandidates now => exact Or.inl ⟨rfl, rfl, (pruneExpiredCandidates_keepsQueue peer now).queue⟩
  | applyConfiguration candidates policyChanged now =>
    exact Or.inl ⟨rfl, rfl, (applyConfiguration_keepsQueue peer candidates policyChanged now).1.queue⟩
  | failRelayPath failedEndpoint now =>
    exact Or.inl ⟨rfl, rfl, (failRelayPath_keepsQueue peer failedEndpoint now).queue⟩

theorem apply_conserves (c : Crypto) (material : LocalMaterial) (peer : Peer) (op : PeerOp) :
    peer.queuedPackets ++ peer.accepts op =
      peer.takes c material op ++ (peer.apply c material op).2.queuedPackets := by
  have hend : ∀ {offered after : List QueuedPacket}, after = offered ∨ after = [] →
      offered = offered.take (offered.length - after.length) ++ after := by
    rintro offered after (rfl | rfl)
    · simp
    · simp
  refine hend ?_
  rcases apply_queueStep c material peer op with ⟨_, haccepts, hkept⟩ |
    ⟨_, _, packet, routed, now, reads, queued, _, haccepts, hqueue, hkept⟩ | ⟨_, hempty, _⟩
  · rw [haccepts, List.append_nil]
    exact hkept.imp (fun h => h.1) (fun h => h.1)
  · rw [haccepts]
    obtain ⟨_, _, rfl⟩ := queuePacket_accepted hqueue
    exact hkept.imp (fun h => h.1) (fun h => h.1)
  · exact Or.inr hempty

theorem QueueSound.apply (hi : QueueSound peer) (c : Crypto) (material : LocalMaterial) (op : PeerOp) :
    QueueSound (peer.apply c material op).2 := by
  rcases apply_queueStep c material peer op with ⟨_, _, hkept⟩ |
    ⟨_, hnone, packet, routed, now, reads, queued, _, _, hqueue, hkept⟩ | ⟨_, hempty, hbytes, _⟩
  · exact hi.kept hkept
  · exact (hi.accepted hnone hqueue).kept hkept
  · refine ⟨?_, ?_, ?_, fun _ => hempty⟩
    · rw [hempty, hbytes]
      rfl
    · rw [hempty]
      exact Nat.zero_le _
    · rw [hbytes]
      exact Nat.zero_le _

/-- What becomes of the packets that a call takes from the queue: `install_session` seals them in their
order, the ones that the session does not take left out, or `clear_queue` discards them. -/
def TakenUp (c : Crypto) (material : LocalMaterial) (peer : Peer) (op : PeerOp) : Prop :=
  (∃ sender result, peer.installs c op = some sender ∧ (peer.apply c material op).1 = .processed result ∧
      peer.takes c material op = peer.queuedPackets ∧
      (peer.apply c material op).2.queuedPackets = [] ∧
      ∃ answer, answer.length ≤ 1 ∧
        result.outbound = answer ++ (sealQueued c peer.queuedPackets sender).1 ∧
        (sealQueued c peer.queuedPackets sender).1.map some =
          (peer.queuedPackets.filter (Sealable sender)).mapIdx fun i packet =>
            (sealOne c { sender with nextSequence := UInt64.ofNat i } packet).1) ∨
    (peer.installs c op = none ∧
      (peer.takes c material op = [] ∨
        ((peer.apply c material op).2.queuedPackets = [] ∧ (peer.apply c material op).2.queuedBytes = 0)))

theorem length_finishAnswer (c : Crypto) (peer : Peer) (datagram : Bytes) :
    (peer.finishAnswer c datagram).length ≤ 1 := by
  unfold finishAnswer
  split
  next pending _ => cases Option.map Prod.snd (pending.machine.acceptClientFinish c datagram) <;> simp
  next => exact Nat.zero_le _

theorem apply_takenUp (hencrypt : ∀ key nonce aad plaintext,
      plaintext.length ≤ maxEncryptedPayloadLength → (c.encrypt key nonce aad plaintext).isSome)
    (hi : QueueSound peer) (op : PeerOp) : TakenUp c material peer op := by
  have hconserves := apply_conserves c material peer op
  have hsame : ∀ {taken after : List QueuedPacket}, after = taken ++ after → taken = [] := by
    intro taken after h
    exact List.self_eq_append_left.mp h
  rcases apply_queueStep c material peer op with ⟨hnone, haccepts, hkept⟩ |
    ⟨hnone, _, packet, routed, now, reads, queued, _, haccepts, hqueue, hkept⟩ |
    ⟨haccepts, hempty, hbytes, sender, source, packet, now, allowRoutedData, throughRelay, reads, rfl,
      hinstalls, hnext, houtbound⟩
  · refine Or.inr ⟨hnone, ?_⟩
    rcases hkept with ⟨hpackets, _⟩ | hgone
    · rw [haccepts, List.append_nil, hpackets] at hconserves
      exact Or.inl (hsame hconserves)
    · exact Or.inr hgone
  · refine Or.inr ⟨hnone, ?_⟩
    obtain ⟨_, _, rfl⟩ := queuePacket_accepted hqueue
    rcases hkept with ⟨hpackets, _⟩ | hgone
    · rw [haccepts, hpackets] at hconserves
      exact Or.inl (hsame hconserves)
    · exact Or.inr hgone
  · rw [haccepts, List.append_nil, hempty, List.append_nil] at hconserves
    have hresult := receive_result c material peer source packet now allowRoutedData throughRelay reads
    refine Or.inl ⟨sender, (peer.receive c material source packet now allowRoutedData throughRelay reads).1,
      hinstalls, rfl, hconserves.symm, hempty, peer.finishAnswer c packet,
      length_finishAnswer c peer packet, ?_, ?_⟩
    · exact (congrArg ProcessResult.outbound hresult).trans houtbound
    · have hpackets : peer.queuedPackets.length ≤ 32 := hi.packets
      have horder := @sealQueued_order c sender hencrypt peer.queuedPackets 0 hnext (by omega)
      simpa only [Nat.zero_add] using horder

theorem newPeer_queueSound (nodeId : Block 16) (nodeIdBase64 : String) (virtualIp : Ipv4Addr)
    (candidates : List EndpointCandidate) (now : Nat) :
    QueueSound (newPeer nodeId nodeIdBase64 virtualIp candidates now) :=
  ⟨rfl, Nat.zero_le _, Nat.zero_le _, fun _ => rfl⟩

/-- In every run of a peer its queue is accounted for, is within its limits and is empty in a session.
What has been accepted is what has been taken from the queue and what is left of it, in one order, and
what a step takes goes through `install_session` or is discarded. -/
theorem handshake_queue_conserved (c : Crypto) (material : LocalMaterial)
    (hencrypt : ∀ key nonce aad plaintext,
      plaintext.length ≤ maxEncryptedPayloadLength → (c.encrypt key nonce aad plaintext).isSome)
    (nodeId : Block 16) (nodeIdBase64 : String) (virtualIp : Ipv4Addr)
    (candidates : List EndpointCandidate) (start : Nat) (ops : List PeerOp) :
    let peer := newPeer nodeId nodeIdBase64 virtualIp candidates start
    let last := Runs.final (apply c material) peer ops
    QueueSound last ∧
      Runs.collect (apply c material) accepts peer ops =
        Runs.collect (apply c material) (takes c material) peer ops ++ last.queuedPackets ∧
      ∀ op, TakenUp c material last op := by
  intro peer last
  have hsound : QueueSound last := @Runs.run_keeps _ _ _ (apply c material) (fun _ _ => True) QueueSound
    (fun peer op hi _ => hi.apply c material op) peer ops
    (newPeer_queueSound nodeId nodeIdBase64 virtualIp candidates start) (Runs.along_true _ _ _)
  refine ⟨hsound, ?_, fun op => apply_takenUp hencrypt hsound op⟩
  exact Runs.collect_conserves (apply_conserves c material) peer ops

/-- A datagram to the sample peer that its header ends before the packet does. -/
def samplePaddedPacket : Bytes :=
  [0x45, 0, 0, 28, 0, 0, 0, 0, 64, 17, 0, 0, 100, 127, 0, 3, 100, 127, 0, 2,
    0, 53, 0, 53, 0, 8, 0, 0, 0]

/-- A packet comes from the TUN while the peer waits for the `ClientFinish` of the sample handshake. -/
def sampleQueueing (packet : Bytes) : Option (List PeerOp × PeerOp) :=
  match sampleRemoteHandshake (fill 16 9) with
  | some ([hello, finish], _) =>
    some ([hello, .forwardTun packet false 0 ⟨none, none, none, none⟩], finish)
  | _ => none

def sampleQueueingPeer : Peer :=
  newPeer samplePeer.nodeId samplePeer.nodeIdBase64 samplePeer.virtualIp sampleProbedCandidates 0

theorem handshake_queue_conserved_sample :
    ∃ ops finish, sampleQueueing samplePaddedPacket = some (ops, finish) ∧
      let last := Runs.final (apply .transparent sampleMaterial) sampleQueueingPeer ops
      last.queuedPackets = [⟨samplePaddedPacket, false⟩] ∧ QueueSound last ∧
        TakenUp .transparent sampleMaterial last finish := by
  have hrun : ((sampleQueueing samplePaddedPacket).any fun (ops, _) =>
      decide ((Runs.final (apply .transparent sampleMaterial) sampleQueueingPeer ops).queuedPackets =
        [⟨samplePaddedPacket, false⟩])) = true := by
    decide +kernel
  obtain ⟨⟨ops, finish⟩, hops, hqueued⟩ := (Option.any_eq_true _ _).mp hrun
  obtain ⟨hsound, _, htaken⟩ := handshake_queue_conserved .transparent sampleMaterial
    (fun _ _ _ _ _ => rfl) samplePeer.nodeId samplePeer.nodeIdBase64 samplePeer.virtualIp
    sampleProbedCandidates 0 ops
  exact ⟨ops, finish, hops, of_decide_eq_true hqueued, hsound, htaken finish⟩

/-- The packet is accepted, and the session that the peer installs neither seals nor discards it: it takes
it from the queue and drops it. -/
theorem queued_packet_dropped :
    ((ipv4Flow samplePaddedPacket).isSome ∧ samplePaddedPacket.length ≤ maxEncryptedPayloadLength) ∧
    ∃ ops finish sender, sampleQueueing samplePaddedPacket = some (ops, finish) ∧
      let last := Runs.final (apply .transparent sampleMaterial) sampleQueueingPeer ops
      (Runs.collect (apply .transparent sampleMaterial) accepts sampleQueueingPeer ops).length = 1 ∧
        last.queuedPackets.length = 1 ∧ last.installs .transparent finish = some sender ∧
        (sealQueued .transparent last.queuedPackets sender).1 = [] ∧
        (last.apply .transparent sampleMaterial finish).2.queuedPackets = [] ∧
        (last.apply .transparent sampleMaterial finish).2.state.isEstablished = true := by
  have hrun : ((sampleQueueing samplePaddedPacket).any fun (ops, finish) =>
      let last := Runs.final (apply .transparent sampleMaterial) sampleQueueingPeer ops
      (last.installs .transparent finish).any fun sender =>
        decide ((Runs.collect (apply .transparent sampleMaterial) accepts sampleQueueingPeer ops).length = 1 ∧
          last.queuedPackets.length = 1 ∧ (sealQueued .transparent last.queuedPackets sender).1.length = 0 ∧
          (last.apply .transparent sampleMaterial finish).2.queuedPackets.length = 0 ∧
          (last.apply .transparent sampleMaterial finish).2.state.isEstablished = true)) = true := by
    decide +kernel
  obtain ⟨⟨ops, finish⟩, hops, hrun⟩ := (Option.any_eq_true _ _).mp hrun
  obtain ⟨sender, hinstalls, hdropped⟩ := (Option.any_eq_true _ _).mp hrun
  obtain ⟨haccepted, hqueued, hsealed, hempty, hsession⟩ := of_decide_eq_true hdropped
  exact ⟨by decide +kernel, ops, finish, sender, hops, haccepted, hqueued, hinstalls,
    List.length_eq_zero_iff.mp hsealed, List.length_eq_zero_iff.mp hempty, hsession⟩

end Peer

end XsNexus
