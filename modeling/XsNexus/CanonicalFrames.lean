import XsNexus.ByteSlices
import XsNexus.RelayFrame

namespace XsNexus

open ByteCodec

namespace DataHeader

/-- No byte of a header goes unread. -/
theorem encode_of_parse {encoded : Bytes} {header : DataHeader} (h : parse encoded = some header) :
    header.encode = encoded.take dataHeaderLength := by
  unfold parse at h
  split at h
  next => simp at h
  next hstart =>
    simp only [not_or, not_not] at hstart
    obtain ⟨hlong, hmagic, hversion⟩ := hstart
    obtain ⟨headerLength, hlength, h⟩ := Option.bind_eq_some_iff.mp h
    split at h
    next => simp at h
    next hreserved =>
      simp only [not_or, not_not] at hreserved
      obtain ⟨hheader, hzeros⟩ := hreserved
      obtain ⟨typeByte, htype, h⟩ := Option.bind_eq_some_iff.mp h
      obtain ⟨packetType, hpacket, h⟩ := Option.bind_eq_some_iff.mp h
      obtain ⟨flags, hflags, h⟩ := Option.bind_eq_some_iff.mp h
      dsimp only at h
      split at h
      next => simp at h
      next =>
        obtain ⟨payloadLength, hpayload, h⟩ := Option.bind_eq_some_iff.mp h
        obtain ⟨networkId, hnetwork, h⟩ := Option.bind_eq_some_iff.mp h
        obtain ⟨sourceNodeId, hsource, h⟩ := Option.bind_eq_some_iff.mp h
        obtain ⟨destinationNodeId, hdestination, h⟩ := Option.bind_eq_some_iff.mp h
        obtain ⟨sessionId, hsession, h⟩ := Option.bind_eq_some_iff.mp h
        obtain ⟨keyEpoch, hepoch, h⟩ := Option.bind_eq_some_iff.mp h
        obtain ⟨sequence, hsequence, h⟩ := Option.bind_eq_some_iff.mp h
        obtain ⟨pathId, hpath, h⟩ := Option.bind_eq_some_iff.mp h
        cases Option.some.inj h
        have hbytes : slice encoded 4 6 = [version, packetType.toByte] := by
          rw [PacketType.toByte_of_tryFrom hpacket]
          exact slice_pair hversion htype
        unfold encode
        rw [← hheader, ← hmagic, ← hbytes, ← hzeros]
        simp only [u16ToBe_fromBe, u32ToBe_fromBe, u64ToBe_fromBe, field_eq_some hlength,
          field_eq_some hflags, field_eq_some hpayload, field_eq_some hnetwork, field_eq_some hsource,
          field_eq_some hdestination, field_eq_some hsession, field_eq_some hepoch,
          field_eq_some hsequence, field_eq_some hpath, Nat.reduceAdd]
        simp (disch := omega) only [slice_append_slice]
        exact take_slice encoded 96

/-- Headers with valid flags and the first 96 bytes that parse are the same thing. -/
theorem header_canonical :
    (∀ (header : DataHeader) (rest : Bytes), validFlags header.packetType header.flags = true →
        parse (header.encode ++ rest) = some header) ∧
      (∀ (encoded : Bytes) (header : DataHeader), parse encoded = some header →
        header.encode = encoded.take dataHeaderLength) ∧
      ∀ (encoded other : Bytes) (header : DataHeader), parse encoded = some header →
        parse other = some header → encoded.take dataHeaderLength = other.take dataHeaderLength := by
  refine ⟨fun header rest hflags => parse_encode header hflags rest,
    fun _ _ h => encode_of_parse h, ?_⟩
  intro encoded other header h hother
  rw [← encode_of_parse h, ← encode_of_parse hother]

def closeHeader : DataHeader :=
  ⟨.close, .control, 2, fill 16 1, fill 16 2, fill 16 3, fill 16 4, 5, 6, 7⟩

theorem header_canonical_close :
    parse (closeHeader.encode ++ [8, 9]) = some closeHeader ∧
      closeHeader.encode = (closeHeader.encode ++ [8, 9]).take dataHeaderLength ∧
      (closeHeader.encode ++ [8, 9]).take dataHeaderLength =
        (closeHeader.encode ++ [10]).take dataHeaderLength := by
  have hflags : validFlags closeHeader.packetType closeHeader.flags = true := by decide
  have hparse := header_canonical.1 closeHeader [8, 9] hflags
  have hother := header_canonical.1 closeHeader [10] hflags
  exact ⟨hparse, header_canonical.2.1 _ _ hparse, header_canonical.2.2 _ _ _ hparse hother⟩

end DataHeader

/-- The sixteen bytes every relay message starts with are those `encode_common` writes. -/
theorem encodeCommon_of_validCommon {encoded : Bytes} {messageType : UInt8} {headerLength : Nat}
    {payloadLength : Block 2} (h : validCommon encoded messageType headerLength = true)
    (hlength : field encoded 10 2 = some payloadLength) :
    (encodeCommon messageType headerLength (u16FromBe payloadLength)).val = slice encoded 0 16 := by
  unfold validCommon at h
  simp only [Bool.and_eq_true, beq_iff_eq] at h
  obtain ⟨⟨⟨⟨⟨⟨_, hmagic⟩, hversion⟩, htype⟩, hflags⟩, hheader⟩, hreserved⟩ := h
  obtain ⟨header, hfield, hvalue⟩ := Option.map_eq_some_iff.mp hheader
  have hround : u16ToBe (UInt16.ofNat headerLength) = header := by
    rw [← hvalue, UInt16.ofNat_toNat, u16ToBe_fromBe]
  have hzero : (u16ToBe 0).val = (zeros 2).val := by decide
  have hbytes : slice encoded 4 6 = [relayVersion, messageType] := slice_pair hversion htype
  show relayMagic ++ [relayVersion, messageType] ++ (u16ToBe 0).val ++
    (u16ToBe (UInt16.ofNat headerLength)).val ++ (u16ToBe (u16FromBe payloadLength)).val ++
    (zeros 4).val = _
  rw [hround, hzero, ← hmagic, ← hbytes, ← hflags, ← hreserved]
  simp only [u16ToBe_fromBe, field_eq_some hfield, field_eq_some hlength, Nat.reduceAdd]
  simp (disch := omega) only [slice_append_slice]

/-- What stands behind the common bytes does not matter to `valid_common`. -/
theorem validCommon_encodeCommon {headerLength : Nat} (h : headerLength < 2 ^ 16) (messageType : UInt8)
    (payloadLength : UInt16) (rest : Bytes) :
    validCommon ((encodeCommon messageType headerLength payloadLength).val ++ rest) messageType
        headerLength = true ∧
      field ((encodeCommon messageType headerLength payloadLength).val ++ rest) 10 2 =
        some (u16ToBe payloadLength) := by
  have hround : (UInt16.ofNat headerLength).toNat = headerLength := by
    rw [UInt16.toNat_ofNat', Nat.mod_eq_of_lt h]
  have hzero : (u16ToBe 0).val = (zeros 2).val := by decide
  unfold validCommon encodeCommon
  simp only [List.append_assoc, relayMagic, field_append_right, field_append_left, slice_append_right,
    Block.length_val, List.length_cons, List.length_nil, Nat.reduceLeDiff, Nat.reduceSub,
    Nat.reduceAdd]
  simp [slice, hround, hzero, commonHeaderLength]
  omega

/-- The identifiers and the length that both sides of a frame check. -/
structure RelayFrame.Bounded (frame : RelayFrame) : Prop where
  networkId : frame.networkId ≠ zeros 16
  relayId : frame.relayId ≠ zeros 16
  sourceNodeId : frame.sourceNodeId ≠ zeros 16
  destinationNodeId : frame.destinationNodeId ≠ zeros 16
  forwards : frame.sourceNodeId ≠ frame.destinationNodeId
  leaseId : frame.leaseId ≠ zeros 16
  carries : frame.payload.isEmpty = false
  short : frame.payload.length ≤ relayMaxFrameLength - relayFrameHeaderLength
  routed : validateRelayPayload frame = some ()

/-- The bytes of a frame before its payload. -/
def RelayFrame.header (frame : RelayFrame) : Bytes :=
  (encodeCommon relayDataType relayFrameHeaderLength (UInt16.ofNat frame.payload.length)).val ++
    frame.networkId.val ++ frame.relayId.val ++ frame.sourceNodeId.val ++
    frame.destinationNodeId.val ++ frame.leaseId.val ++ (u64ToBe frame.sequence).val

theorem RelayFrame.length_header (frame : RelayFrame) : frame.header.length = 104 := by
  unfold RelayFrame.header
  simp

theorem encodeRelayFrame_eq_some_iff {frame : RelayFrame} {encoded : Bytes} :
    encodeRelayFrame frame = some encoded ↔
      frame.Bounded ∧ encoded = frame.header ++ frame.payload := by
  unfold encodeRelayFrame
  constructor
  · intro h
    split at h
    next => simp at h
    next hguard =>
      simp only [not_or, not_lt, Bool.not_eq_true] at hguard
      obtain ⟨hnetwork, hrelay, hsource, hdestination, hforwards, hlease, hcarries, hshort⟩ := hguard
      obtain ⟨_, hrouted, h⟩ := Option.bind_eq_some_iff.mp h
      split at h
      next => simp at h
      next =>
        exact ⟨⟨hnetwork, hrelay, hsource, hdestination, hforwards, hlease, hcarries, hshort, hrouted⟩,
          (Option.some.inj h).symm⟩
  · rintro ⟨hbounded, rfl⟩
    have hfits : ¬frame.payload.length ≥ 2 ^ 16 := by
      have hshort := hbounded.short
      unfold relayMaxFrameLength relayFrameHeaderLength at hshort
      omega
    rw [if_neg, hbounded.routed, Option.bind_eq_bind, Option.bind_some, if_neg hfits]
    · rfl
    · simp only [not_or, not_lt, Bool.not_eq_true]
      exact ⟨hbounded.networkId, hbounded.relayId, hbounded.sourceNodeId, hbounded.destinationNodeId,
        hbounded.forwards, hbounded.leaseId, hbounded.carries, hbounded.short⟩

theorem parseRelayFrame_header {frame : RelayFrame} (h : frame.Bounded) :
    parseRelayFrame (frame.header ++ frame.payload) = some frame := by
  have hshort := h.short
  unfold relayMaxFrameLength relayFrameHeaderLength at hshort
  have hlength : (frame.header ++ frame.payload).length =
      relayFrameHeaderLength + frame.payload.length := by
    rw [List.length_append, RelayFrame.length_header]
    rfl
  have hround : (UInt16.ofNat frame.payload.length).toNat = frame.payload.length := by
    rw [UInt16.toNat_ofNat', Nat.mod_eq_of_lt (by omega)]
  have hdrop : (frame.header ++ frame.payload).drop 104 = frame.payload :=
    List.drop_left' frame.length_header
  obtain ⟨rest, hrest⟩ : ∃ rest, frame.header ++ frame.payload = (encodeCommon relayDataType
      relayFrameHeaderLength (UInt16.ofNat frame.payload.length)).val ++ rest ∧
      rest = frame.networkId.val ++ (frame.relayId.val ++ (frame.sourceNodeId.val ++
        (frame.destinationNodeId.val ++ (frame.leaseId.val ++ ((u64ToBe frame.sequence).val ++
          frame.payload))))) := by
    unfold RelayFrame.header
    simp only [List.append_assoc]
    exact ⟨_, rfl, rfl⟩
  obtain ⟨hcommon, hlengthField⟩ := validCommon_encodeCommon
    (show relayFrameHeaderLength < 2 ^ 16 by decide) relayDataType
    (UInt16.ofNat frame.payload.length) rest
  rw [← hrest.1] at hcommon hlengthField
  have hstart : ¬((frame.header ++ frame.payload).length < relayFrameHeaderLength ∨
      (frame.header ++ frame.payload).length > relayMaxFrameLength ∨
      (!validCommon (frame.header ++ frame.payload) relayDataType relayFrameHeaderLength) = true) := by
    rw [hlength, hcommon]
    unfold relayMaxFrameLength relayFrameHeaderLength
    simp only [Bool.not_true, Bool.false_eq_true, or_false]
    omega
  have hsame : ¬(frame.header ++ frame.payload).length ≠
      relayFrameHeaderLength + (u16FromBe (u16ToBe (UInt16.ofNat frame.payload.length))).toNat := by
    rw [u16FromBe_toBe, hround, hlength]
    exact not_not.mpr rfl
  unfold parseRelayFrame
  rw [if_neg hstart, hlengthField, Option.bind_eq_bind, Option.bind_some, if_neg hsame, hdrop, hrest.1,
    hrest.2]
  simp only [field_append_right, field_append_left, Block.length_val, Nat.reduceLeDiff, Nat.reduceSub,
    Option.bind_eq_bind, Option.bind_some, u64FromBe_toBe]
  rw [if_neg, h.routed, Option.bind_some]
  simp only [not_or, Bool.not_eq_true]
  exact ⟨h.networkId, h.relayId, h.sourceNodeId, h.destinationNodeId, h.forwards, h.leaseId, h.carries⟩

theorem header_of_parseRelayFrame {encoded : Bytes} {frame : RelayFrame}
    (h : parseRelayFrame encoded = some frame) :
    frame.Bounded ∧ encoded = frame.header ++ frame.payload := by
  unfold parseRelayFrame at h
  split at h
  next => simp at h
  next hstart =>
    simp only [not_or, not_lt, Bool.not_eq_true', Bool.not_eq_false] at hstart
    obtain ⟨_, hmax, hcommon⟩ := hstart
    obtain ⟨payloadLength, hlength, h⟩ := Option.bind_eq_some_iff.mp h
    dsimp only at h
    split at h
    next => simp at h
    next hsame =>
      obtain ⟨networkId, hnetwork, h⟩ := Option.bind_eq_some_iff.mp h
      obtain ⟨relayId, hrelay, h⟩ := Option.bind_eq_some_iff.mp h
      obtain ⟨sourceNodeId, hsource, h⟩ := Option.bind_eq_some_iff.mp h
      obtain ⟨destinationNodeId, hdestination, h⟩ := Option.bind_eq_some_iff.mp h
      obtain ⟨leaseId, hlease, h⟩ := Option.bind_eq_some_iff.mp h
      obtain ⟨sequence, hsequence, h⟩ := Option.bind_eq_some_iff.mp h
      split at h
      next => simp at h
      next hguard =>
        obtain ⟨_, hrouted, h⟩ := Option.bind_eq_some_iff.mp h
        cases Option.some.inj h
        simp only [not_or, Bool.not_eq_true] at hguard
        have hlengths : (encoded.drop 104).length = (u16FromBe payloadLength).toNat := by
          rw [List.length_drop]
          have hsame := not_not.mp hsame
          unfold relayFrameHeaderLength at hsame
          omega
        refine ⟨⟨hguard.1, hguard.2.1, hguard.2.2.1, hguard.2.2.2.1, hguard.2.2.2.2.1,
          hguard.2.2.2.2.2.1, hguard.2.2.2.2.2.2, ?_, hrouted⟩, ?_⟩
        · rw [List.length_drop]
          unfold relayFrameHeaderLength
          omega
        · unfold RelayFrame.header
          rw [hlengths, UInt16.ofNat_toNat, encodeCommon_of_validCommon hcommon hlength]
          simp only [u64ToBe_fromBe, field_eq_some hnetwork, field_eq_some hrelay,
            field_eq_some hsource, field_eq_some hdestination, field_eq_some hlease,
            field_eq_some hsequence, Nat.reduceAdd]
          simp (disch := omega) only [slice_append_slice]
          exact (slice_append_drop encoded 104).symm

/-- The frame a keepalive is read as. -/
def keepaliveFrame (networkId relayId nodeId leaseId : Block 16) (sequence : UInt64) : RelayFrame :=
  ⟨networkId, relayId, nodeId, zeros 16, leaseId, sequence, []⟩

theorem parseRelayKeepalive_encode {networkId relayId nodeId leaseId : Block 16}
    (hnetwork : networkId ≠ zeros 16) (hrelay : relayId ≠ zeros 16) (hnode : nodeId ≠ zeros 16)
    (hlease : leaseId ≠ zeros 16) (sequence : UInt64) :
    parseRelayKeepalive (encodeRelayKeepalive networkId relayId nodeId leaseId sequence).val =
      some (keepaliveFrame networkId relayId nodeId leaseId sequence) := by
  obtain ⟨rest, hrest⟩ : ∃ rest, (encodeRelayKeepalive networkId relayId nodeId leaseId sequence).val =
      (encodeCommon relayKeepaliveType relayFrameHeaderLength 0).val ++ rest ∧
      rest = networkId.val ++ (relayId.val ++ (nodeId.val ++ ((zeros 16).val ++ (leaseId.val ++
        (u64ToBe sequence).val)))) := by
    unfold encodeRelayKeepalive
    simp only [List.append_assoc]
    exact ⟨_, rfl, rfl⟩
  obtain ⟨hcommon, hlengthField⟩ := validCommon_encodeCommon
    (show relayFrameHeaderLength < 2 ^ 16 by decide) relayKeepaliveType 0 rest
  rw [← hrest.1] at hcommon hlengthField
  have hzero : slice (encodeRelayKeepalive networkId relayId nodeId leaseId sequence).val 10 12 =
      (zeros 2).val := by
    have hvalue := field_eq_some hlengthField
    rw [← hvalue]
    decide
  have hempty : slice (encodeRelayKeepalive networkId relayId nodeId leaseId sequence).val 64 80 =
      (zeros 16).val := by
    rw [hrest.1, hrest.2]
    simp only [slice_append_right, Block.length_val, Nat.reduceLeDiff, Nat.reduceSub]
    simp [slice]
  have hlast : (u64ToBe sequence).val = (u64ToBe sequence).val ++ [] := (List.append_nil _).symm
  unfold parseRelayKeepalive validZeroPayloadMessage
  rw [if_neg, hempty, hrest.1, hrest.2, hlast]
  · simp only [field_append_right, field_append_left, Block.length_val, Nat.reduceLeDiff,
      Nat.reduceSub, Option.bind_eq_bind, Option.bind_some, u64FromBe_toBe]
    rw [if_neg]
    · rfl
    · simp only [not_or, not_not]
      exact ⟨hnetwork, hrelay, hnode, hlease, trivial⟩
  · rw [hcommon, hzero, Block.length_val]
    simp [relayFrameHeaderLength]

theorem encode_of_parseRelayKeepalive {encoded : Bytes} {frame : RelayFrame}
    (h : parseRelayKeepalive encoded = some frame) :
    (frame.networkId ≠ zeros 16 ∧ frame.relayId ≠ zeros 16 ∧ frame.sourceNodeId ≠ zeros 16 ∧
        frame.leaseId ≠ zeros 16) ∧
      frame = keepaliveFrame frame.networkId frame.relayId frame.sourceNodeId frame.leaseId
        frame.sequence ∧
      (encodeRelayKeepalive frame.networkId frame.relayId frame.sourceNodeId frame.leaseId
        frame.sequence).val = encoded := by
  unfold parseRelayKeepalive at h
  split at h
  next => simp at h
  next hstart =>
    simp only [not_or, not_not, Bool.not_eq_true', Bool.not_eq_false] at hstart
    obtain ⟨hlong, hstart⟩ := hstart
    unfold validZeroPayloadMessage at hstart
    obtain ⟨hcommon, hzero⟩ := Bool.and_eq_true_iff.mp hstart
    obtain ⟨networkId, hnetwork, h⟩ := Option.bind_eq_some_iff.mp h
    obtain ⟨relayId, hrelay, h⟩ := Option.bind_eq_some_iff.mp h
    obtain ⟨nodeId, hnode, h⟩ := Option.bind_eq_some_iff.mp h
    obtain ⟨leaseId, hlease, h⟩ := Option.bind_eq_some_iff.mp h
    obtain ⟨sequence, hsequence, h⟩ := Option.bind_eq_some_iff.mp h
    dsimp only at h
    split at h
    next => simp at h
    next hguard =>
      cases Option.some.inj h
      simp only [not_or, not_not] at hguard
      obtain ⟨hnetwork', hrelay', hnode', hlease', hempty⟩ := hguard
      have hfield : field encoded 10 2 = some (u16ToBe 0) := by
        have hbytes : slice encoded 10 (10 + 2) = (u16ToBe 0).val := by
          rw [eq_of_beq hzero]
          decide
        unfold field
        rw [hbytes]
        exact array_of_length (Block.length_val _)
      refine ⟨⟨hnetwork', hrelay', hnode', hlease'⟩, rfl, ?_⟩
      have hheader := encodeCommon_of_validCommon hcommon hfield
      rw [u16FromBe_toBe] at hheader
      unfold encodeRelayKeepalive
      simp only [hheader, u64ToBe_fromBe, field_eq_some hnetwork, field_eq_some hrelay,
        field_eq_some hnode, field_eq_some hlease, field_eq_some hsequence, Nat.reduceAdd, ← hempty]
      simp (disch := omega) only [slice_append_slice]
      rw [take_slice]
      unfold relayFrameHeaderLength at hlong
      exact List.take_of_length_le (Nat.le_of_eq hlong)

/-- Relay frames, and keepalives, are the byte strings that parse as them. -/
theorem relay_frames_canonical :
    (∀ (frame : RelayFrame) (encoded : Bytes), encodeRelayFrame frame = some encoded →
        parseRelayFrame encoded = some frame ∧ encoded.length ≤ 1500) ∧
      (∀ (encoded : Bytes) (frame : RelayFrame), parseRelayFrame encoded = some frame →
        encodeRelayFrame frame = some encoded) ∧
      (∀ (networkId relayId nodeId leaseId : Block 16) (sequence : UInt64), networkId ≠ zeros 16 →
        relayId ≠ zeros 16 → nodeId ≠ zeros 16 → leaseId ≠ zeros 16 →
        parseRelayKeepalive (encodeRelayKeepalive networkId relayId nodeId leaseId sequence).val =
            some ⟨networkId, relayId, nodeId, zeros 16, leaseId, sequence, []⟩ ∧
          (encodeRelayKeepalive networkId relayId nodeId leaseId sequence).val.length ≤ 1500) ∧
      ∀ (encoded : Bytes) (frame : RelayFrame), parseRelayKeepalive encoded = some frame →
        (frame.networkId ≠ zeros 16 ∧ frame.relayId ≠ zeros 16 ∧ frame.sourceNodeId ≠ zeros 16 ∧
            frame.leaseId ≠ zeros 16) ∧
          frame.destinationNodeId = zeros 16 ∧ frame.payload = [] ∧
          (encodeRelayKeepalive frame.networkId frame.relayId frame.sourceNodeId frame.leaseId
            frame.sequence).val = encoded := by
  refine ⟨?_, ?_, ?_, ?_⟩
  · intro frame encoded h
    obtain ⟨hbounded, rfl⟩ := encodeRelayFrame_eq_some_iff.mp h
    refine ⟨parseRelayFrame_header hbounded, ?_⟩
    have hshort := hbounded.short
    unfold relayMaxFrameLength relayFrameHeaderLength at hshort
    rw [List.length_append, RelayFrame.length_header]
    omega
  · intro encoded frame h
    exact encodeRelayFrame_eq_some_iff.mpr (header_of_parseRelayFrame h)
  · intro networkId relayId nodeId leaseId sequence hnetwork hrelay hnode hlease
    refine ⟨parseRelayKeepalive_encode hnetwork hrelay hnode hlease sequence, ?_⟩
    rw [Block.length_val]
    omega
  · intro encoded frame h
    obtain ⟨hids, hframe, hencoded⟩ := encode_of_parseRelayKeepalive h
    refine ⟨hids, ?_, ?_, hencoded⟩
    · rw [hframe]
      rfl
    · rw [hframe]
      rfl

/-- A frame around a client finish. -/
def finishFrame : RelayFrame where
  networkId := fill 16 1
  relayId := fill 16 2
  sourceNodeId := fill 16 3
  destinationNodeId := fill 16 4
  leaseId := fill 16 5
  sequence := 6
  payload := magic ++ [1, clientFinishType, 0, 0] ++ (u32ToBe (UInt32.ofNat finishBodyLength)).val ++
    List.replicate (4 + finishBodyLength) 7

theorem relay_frames_canonical_sample :
    (∃ encoded, encodeRelayFrame finishFrame = some encoded ∧
        parseRelayFrame encoded = some finishFrame ∧ encoded.length ≤ 1500) ∧
      (∃ encoded, parseRelayFrame encoded = some finishFrame ∧
        encodeRelayFrame finishFrame = some encoded) ∧
      ∃ encoded frame, parseRelayKeepalive encoded = some frame ∧ encoded.length ≤ 1500 ∧
        (encodeRelayKeepalive frame.networkId frame.relayId frame.sourceNodeId frame.leaseId
          frame.sequence).val = encoded := by
  have hencoded : encodeRelayFrame finishFrame = some (finishFrame.header ++ finishFrame.payload) := by
    decide +kernel
  have hround := relay_frames_canonical.1 finishFrame _ hencoded
  have hkeepalive := relay_frames_canonical.2.2.1 (fill 16 1) (fill 16 2) (fill 16 3) (fill 16 5) 6
    (by decide) (by decide) (by decide) (by decide)
  exact ⟨⟨_, hencoded, hround⟩, ⟨_, hround.1, relay_frames_canonical.2.1 _ _ hround.1⟩, _, _,
    hkeepalive.1, hkeepalive.2, (relay_frames_canonical.2.2.2 _ _ hkeepalive.1).2.2.2⟩

end XsNexus
