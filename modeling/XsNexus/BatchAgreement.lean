import XsNexus.PacketBatches

namespace XsNexus

open ByteCodec ByteMemory

namespace XsnetClient

open WindowsXsnet (IsBatch IsPacket Chain offsetAt lengthAt packetAt batchPackets descriptorsOf encodeBatch
  batchLength abiMaxPackets abiMinPacketSize abiMaxPacketSize)

theorem leBytes_take {payload : Bytes} {offset length : Nat} (h : offset + length ≤ payload.length) :
    leBytes length (leNat ((payload.drop offset).take length)) = (payload.drop offset).take length := by
  have hlength : ((payload.drop offset).take length).length = length := by
    rw [List.length_take, List.length_drop]
    omega
  have hsame := leBytes_leNat ((payload.drop offset).take length)
  rwa [hlength] at hsame

/-- The descriptors and the data of a chain are those of its packets. -/
theorem chain_layout {payload : Bytes} {maximum remaining position expected last : Nat}
    (h : Chain payload payload.length maximum remaining position expected last)
    (hdescriptors : 8 + (position + remaining) * 8 ≤ payload.length) :
    (payload.drop (8 + position * 8)).take (remaining * 8) =
        descriptorsOf expected ((List.range' position remaining).map (packetAt payload)) ∧
      expected ≤ last ∧ (payload.drop expected).take (last - expected) =
        ((List.range' position remaining).map (packetAt payload)).flatten := by
  induction remaining generalizing position expected with
  | zero =>
    obtain rfl : last = expected := h
    simp [descriptorsOf]
  | succ remaining ih =>
    obtain ⟨⟨hoffset, _, _, hfits⟩, hrest⟩ := h
    obtain ⟨hlater, hle, hdata⟩ := ih hrest (by omega)
    have hlength := length_packetAt (show offsetAt payload position + lengthAt payload position ≤
      payload.length by omega)
    have hfirst : leBytes 4 expected = (payload.drop (8 + position * 8)).take 4 := by
      rw [← hoffset]
      exact leBytes_take (by omega)
    have hsecond : leBytes 4 (packetAt payload position).length =
        (payload.drop (8 + position * 8 + 4)).take 4 := by
      rw [hlength]
      exact leBytes_take (by omega)
    have hpacket : packetAt payload position = (payload.drop expected).take (lengthAt payload position) := by
      rw [packetAt, hoffset]
    rw [List.range'_succ, List.map_cons, List.flatten_cons, descriptorsOf, hfirst, hsecond, hlength, ← hlater,
      ← hdata]
    refine ⟨?_, by omega, ?_⟩
    · rw [show (remaining + 1) * 8 = 4 + 4 + remaining * 8 by omega, List.take_add, List.take_add,
        List.drop_drop, List.drop_drop, show 8 + position * 8 + (4 + 4) = 8 + (position + 1) * 8 by omega]
    · rw [hpacket, show last - expected =
        lengthAt payload position + (last - (expected + lengthAt payload position)) by omega, List.take_add,
        List.drop_drop]

/-- A batch is the encoding of its packets. -/
theorem encodeBatch_batchPackets {payload : Bytes} {maximum count : Nat}
    (h : IsBatch payload payload.length maximum count) : encodeBatch (batchPackets payload count) = payload := by
  have hfits := h.fits
  obtain ⟨hdescriptors, hle, hdata⟩ := chain_layout h.chain (by omega)
  have hcount : leBytes 2 count = payload.take 2 := by
    rw [← h.count_eq, ← List.drop_zero (l := payload)]
    exact leBytes_take (by omega)
  have hpadding : leBytes 2 0 = (payload.drop 2).take 2 := by
    rw [← h.padding_eq]
    exact leBytes_take (by omega)
  have hlength : leBytes 4 (count * 8) = (payload.drop 4).take 4 := by
    rw [← h.descriptors_eq]
    exact leBytes_take (by omega)
  have hall : (payload.drop (8 + count * 8)).take (payload.length - (8 + count * 8)) =
      payload.drop (8 + count * 8) := List.take_of_length_le (by rw [List.length_drop])
  rw [hall, ← List.range_eq_range'] at hdata
  rw [← List.range_eq_range'] at hdescriptors
  have hpackets : (batchPackets payload count).length = count := by
    rw [batchPackets, List.length_map, List.length_range]
  have hsplit : payload = payload.take 2 ++ (payload.drop 2).take 2 ++ (payload.drop 4).take 4 ++
      (payload.drop 8).take (count * 8) ++ payload.drop (8 + count * 8) := by
    have hwhole := List.take_append_drop (2 + 2 + 4 + count * 8) payload
    rw [List.take_add, List.take_add, List.take_add] at hwhole
    exact hwhole.symm
  have hdescriptors : (payload.drop 8).take (count * 8) =
      descriptorsOf (8 + count * 8) (batchPackets payload count) := hdescriptors
  have hdata : payload.drop (8 + count * 8) = (batchPackets payload count).flatten := hdata
  rw [encodeBatch, hpackets, hcount, hpadding, hlength, ← hdescriptors, ← hdata, ← hsplit]

theorem IsValidBatch.validated {payload : Bytes} {mtu : UInt32} {maximumPackets : UInt16} {count : Nat}
    (h : IsValidBatch payload mtu maximumPackets count) :
    ∀ packet ∈ batchPackets payload count, validateIpv4 packet mtu = some (.ok ()) := by
  intro packet hpacket
  obtain ⟨result, hresult, ⟨_, hno⟩ | ⟨rfl, _⟩⟩ := validateIpv4_spec packet mtu
  · exact absurd (h.2.2 packet hpacket) hno
  · exact hresult

/-- No batch is longer than the payload limit. -/
theorem IsValidBatch.limit {payload : Bytes} {mtu : UInt32} {maximumPackets : UInt16} {count : Nat}
    (h : IsValidBatch payload mtu maximumPackets count) : payload.length ≤ 8 + 64 * 8 + 64 * 9000 := by
  have hlimited : count ≤ 64 := h.1.limited
  have hpackets : (batchPackets payload count).length = count := by
    rw [batchPackets, List.length_map, List.length_range]
  have hflat := @WindowsXsnet.flatten_length_le (batchPackets payload count) 9000 fun packet hpacket =>
    (h.2.2 packet hpacket).maximum.trans (min_le_right _ _)
  have hlength := WindowsXsnet.length_encodeBatch (batchPackets payload count)
  rw [encodeBatch_batchPackets h.1, batchLength, hpackets] at hlength
  rw [hpackets] at hflat
  omega

/-- A queue without packets takes the valid batches. -/
theorem validateBatch_spec {queue : WindowsXsnet.PacketQueue} (hvalid : queue.valid = true)
    (hempty : queue.count = 0) {payload : Bytes} (hlength : payload.length < 2 ^ 32) :
    ∃ status count, queue.validateBatch (some payload) (UInt32.ofNat payload.length) = some (status, count) ∧
      (status = .ok ↔ ∃ count, IsValidBatch payload queue.mtu 64 count) := by
  have hqueue := hvalid
  simp only [WindowsXsnet.PacketQueue.valid, Bool.and_eq_true, decide_eq_true_eq] at hqueue
  obtain ⟨⟨⟨hminimum, hmaximum⟩, _⟩, _⟩ := hqueue
  have hmtu : min queue.mtu.toNat maxPacketSize = queue.mtu.toNat := min_eq_left hmaximum
  have hsize : (UInt32.ofNat payload.length).toNat = payload.length := by
    rw [UInt32.toNat_ofNat', Nat.mod_eq_of_lt hlength]
  have hno : (!queue.valid) = false := by rw [hvalid]; rfl
  unfold WindowsXsnet.PacketQueue.validateBatch IsValidBatch
  dsimp only
  rw [hno, if_neg Bool.false_ne_true, hmtu]
  rcases @WindowsXsnet.validatePacketBatchForMtu_spec payload (UInt32.ofNat payload.length) queue.mtu
    (Nat.le_of_eq hsize) hminimum hmaximum with ⟨hbad, hnone⟩ | ⟨count, hgood, hbatch⟩
  · rw [hbad, Option.bind_eq_bind, Option.bind_some]
    refine ⟨_, _, rfl, iff_of_false (by simp) ?_⟩
    rintro ⟨count, hbatch, _⟩
    rw [← hsize] at hbatch
    exact hnone count hbatch
  · rw [hsize] at hbatch
    have hfits := hbatch.fits
    have hlimited : count.toNat ≤ 64 := hbatch.limited
    have hunique : ∀ other, IsBatch payload payload.length queue.mtu.toNat other → other = count.toNat :=
      fun other hother => hother.count_eq.symm.trans hbatch.count_eq
    have hzero : (0 : UInt16).toNat = 0 := rfl
    have hspec := @WindowsXsnet.Sound.validatePackets_spec payload queue.mtu count.toNat 0
      (by rw [hzero]; omega) (by rw [hzero]; omega) fun index hfirst hlast =>
        (hbatch.chain.within (by omega) hlast).2.2
    rw [hzero, ← List.range_eq_range'] at hspec
    obtain ⟨status, hstatus, hiff⟩ := hspec
    have haccepts : status = .ok ↔ ∃ count, IsBatch payload payload.length queue.mtu.toNat count ∧
        count ≤ (64 : UInt16).toNat ∧
        ∀ packet ∈ batchPackets payload count, IsPacket queue.mtu.toNat packet := by
      refine hiff.trans ⟨fun hpackets => ⟨count.toNat, hbatch, hlimited, hpackets⟩, ?_⟩
      rintro ⟨other, hother, _, hpackets⟩
      rw [hunique other hother] at hpackets
      exact hpackets
    have hroom : ¬count.toNat > abiMaxPackets - queue.count.toNat := by
      rw [hempty]
      exact Nat.not_lt.mpr hlimited
    rw [hgood, Option.bind_eq_bind, Option.bind_some]
    dsimp only
    rw [hstatus, Option.bind_eq_bind, Option.bind_some]
    by_cases hok : status = .ok
    · rw [if_neg (not_not.mpr hok), if_neg hroom]
      exact ⟨_, _, rfl, iff_of_true rfl (haccepts.mp hok)⟩
    · rw [if_pos hok]
      exact ⟨_, _, rfl, iff_of_false (by simp) fun hsome => hok (haccepts.mpr hsome)⟩

/-- The driver's queue and the client's decoder take the same batches, the decoder undoes the encoder, and
what it takes is the encoding of what it answers. -/
theorem packet_batches_agree {mtu : UInt32} (hminimum : minPacketSize ≤ mtu.toNat)
    (hmaximum : mtu.toNat ≤ maxPacketSize) :
    (∀ (queue : WindowsXsnet.PacketQueue) (payload : Bytes), queue.valid = true → queue.mtu = mtu →
      queue.count = 0 → payload.length < 2 ^ 32 →
      ∃ status count, queue.validateBatch (some payload) (UInt32.ofNat payload.length) =
          some (status, count) ∧
        (status = .ok ↔ ∃ packets, decodePacketBatch payload mtu 64 = some (.ok packets))) ∧
    (∀ payload : Bytes, 2 ^ 32 ≤ payload.length →
      decodePacketBatch payload mtu 64 = some (.error .invalidResponse)) ∧
    (∀ packets : List Bytes, packets ≠ [] → packets.length ≤ maxPackets →
      (∀ packet ∈ packets, validateIpv4 packet mtu = some (.ok ())) → batchLength packets ≤ maxPayload →
      ∃ payload, encodePacketBatch packets mtu = some (.ok payload) ∧
        decodePacketBatch payload mtu 64 = some (.ok packets)) ∧
    (∀ (payload : Bytes) (packets : List Bytes), decodePacketBatch payload mtu 64 = some (.ok packets) →
      encodePacketBatch packets mtu = some (.ok payload)) := by
  have haccepts : ∀ payload : Bytes, (∃ packets, decodePacketBatch payload mtu 64 = some (.ok packets)) ↔
      ∃ count, IsValidBatch payload mtu 64 count := by
    intro payload
    rcases decodePacketBatch_spec payload mtu 64 with ⟨hbad, hnone⟩ | ⟨count, hgood, hbatch⟩
    · refine iff_of_false ?_ (fun ⟨count, hbatch⟩ => hnone count hbatch)
      rintro ⟨packets, hpackets⟩
      rw [hbad] at hpackets
      cases Option.some.inj hpackets
    · exact iff_of_true ⟨_, hgood⟩ ⟨count, hbatch⟩
  refine ⟨?_, ?_, ?_, ?_⟩
  · intro queue payload hvalid hmtu hempty hlength
    subst hmtu
    obtain ⟨status, count, hvalidated, hiff⟩ := validateBatch_spec hvalid hempty hlength
    exact ⟨status, count, hvalidated, hiff.trans (haccepts payload).symm⟩
  · intro payload hlong
    rcases decodePacketBatch_spec payload mtu 64 with ⟨hbad, _⟩ | ⟨count, _, hbatch⟩
    · exact hbad
    · have hlimit := hbatch.limit
      omega
  · intro packets hpositive hlimited hpackets hlimit
    refine ⟨encodeBatch packets, encodePacketBatch_spec hpositive hlimited hpackets hlimit, ?_⟩
    have hvalid : ∀ packet ∈ packets, IsPacket (min mtu.toNat maxPacketSize) packet := by
      intro packet hpacket
      obtain ⟨result, hresult, ⟨⟨error, rfl⟩, _⟩ | ⟨_, hvalid⟩⟩ := validateIpv4_spec packet mtu
      · cases Option.some.inj (hresult.symm.trans (hpackets packet hpacket))
      · exact hvalid
    obtain ⟨hbatch, hread⟩ := @WindowsXsnet.encodeBatch_isBatch packets (min mtu.toNat maxPacketSize) []
      (List.length_pos_iff.mpr hpositive) hlimited (min_le_right _ _)
      fun packet hpacket => ⟨(hvalid packet hpacket).minimum, (hvalid packet hpacket).maximum⟩
    rw [List.append_nil, ← WindowsXsnet.length_encodeBatch] at hbatch
    rw [List.append_nil] at hread
    rcases decodePacketBatch_spec (encodeBatch packets) mtu 64 with ⟨_, hnone⟩ | ⟨count, hgood, hother⟩
    · refine absurd ⟨hbatch, hlimited, ?_⟩ (hnone packets.length)
      rw [hread]
      exact hvalid
    · have hsame : count = packets.length := hother.1.count_eq.symm.trans hbatch.count_eq
      rw [hgood, hsame, hread]
  · intro payload packets hdecoded
    rcases decodePacketBatch_spec payload mtu 64 with ⟨hbad, _⟩ | ⟨count, hgood, hbatch⟩
    · rw [hbad] at hdecoded
      cases Option.some.inj hdecoded
    · rw [hgood] at hdecoded
      cases Option.some.inj hdecoded
      have hsame := encodeBatch_batchPackets hbatch.1
      have hcount : (batchPackets payload count).length = count := by
        rw [batchPackets, List.length_map, List.length_range]
      have hpositive := hbatch.1.positive
      have hlimit := hbatch.limit
      have hlength : (encodeBatch (batchPackets payload count)).length =
          batchLength (batchPackets payload count) := WindowsXsnet.length_encodeBatch _
      rw [hsame] at hlength
      have hencoded := @encodePacketBatch_spec (batchPackets payload count) mtu
        (by
          intro hnil
          rw [hnil, List.length_nil] at hcount
          omega)
        (by
          rw [hcount]
          exact hbatch.1.limited) hbatch.validated
        (by
          unfold maxPayload
          omega)
      rw [hencoded, hsame]

def sampleEmptyQueue : WindowsXsnet.PacketQueue where
  slots := List.replicate abiMaxPackets WindowsXsnet.PacketSlot.zeroed
  slots_length := List.length_replicate
  mtu := 1400
  head := 0
  count := 0

def sampleHeader : Bytes := [0x45, 0, 0, 20, 0, 0, 0, 0, 64, 17, 0, 0, 100, 127, 0, 3, 100, 127, 0, 2]

theorem packet_batches_agree_sample :
    (∃ status count, sampleEmptyQueue.validateBatch (some (encodeBatch [sampleHeader, sampleHeader]))
        (UInt32.ofNat (encodeBatch [sampleHeader, sampleHeader]).length) = some (status, count) ∧
      (status = .ok ↔ ∃ packets,
        decodePacketBatch (encodeBatch [sampleHeader, sampleHeader]) 1400 64 = some (.ok packets))) ∧
    (∃ payload, encodePacketBatch [sampleHeader, sampleHeader] 1400 = some (.ok payload) ∧
      decodePacketBatch payload 1400 64 = some (.ok [sampleHeader, sampleHeader])) ∧
    (decodePacketBatch (encodeBatch [sampleHeader, sampleHeader]) 1400 64 =
        some (.ok [sampleHeader, sampleHeader]) ∧
      encodePacketBatch [sampleHeader, sampleHeader] 1400 =
        some (.ok (encodeBatch [sampleHeader, sampleHeader]))) := by
  obtain ⟨hagree, _, hround, hcanonical⟩ :=
    @packet_batches_agree 1400 (show 20 ≤ 1400 by omega) (show 1400 ≤ 9000 by omega)
  have hvalid : validateIpv4 sampleHeader 1400 = some (.ok ()) := by decide +kernel
  have hdecoded : decodePacketBatch (encodeBatch [sampleHeader, sampleHeader]) 1400 64 =
      some (.ok [sampleHeader, sampleHeader]) := by
    decide +kernel
  refine ⟨hagree sampleEmptyQueue _ (by decide) rfl rfl (by decide +kernel), ?_, hdecoded, hcanonical _ _ hdecoded⟩
  exact hround _ (by simp) (by decide) (by simp [hvalid]) (by decide)

end XsnetClient

end XsNexus
