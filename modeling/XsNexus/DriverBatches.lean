import XsNexus.DriverQueue

namespace XsNexus

open ByteCodec ByteMemory

namespace WindowsXsnet

theorem u16Checked_of_lt (value : Nat) (h : value < 2 ^ 16) :
    ∃ word, u16Checked value = some word ∧ word.toNat = value :=
  ⟨_, if_pos h, by rw [UInt16.toNat_ofNat', Nat.mod_eq_of_lt h]⟩

theorem u16_pos {word : UInt16} (h : word ≠ 0) : 0 < word.toNat := by
  rcases Nat.eq_zero_or_pos word.toNat with hzero | hpositive
  · exact absurd (UInt16.toNat_inj.mp (hzero.trans rfl)) h
  · exact hpositive

theorem u32Checked_of_lt (value : Nat) (h : value < 2 ^ 32) :
    ∃ word, u32Checked value = some word ∧ word.toNat = value :=
  ⟨_, if_pos h, by rw [UInt32.toNat_ofNat', Nat.mod_eq_of_lt h]⟩

theorem u32CheckedSub_of_le (a b : UInt32) (h : b.toNat ≤ a.toNat) :
    ∃ word, u32CheckedSub a b = some word ∧ word.toNat = a.toNat - b.toNat :=
  ⟨_, if_pos (UInt32.le_iff_toNat_le.mpr h), UInt32.toNat_sub_of_le _ _ (UInt32.le_iff_toNat_le.mpr h)⟩

theorem leNat_take_lt {bytes : Bytes} {offset length : Nat} (h : offset + length ≤ bytes.length) :
    leNat ((bytes.drop offset).take length) < 256 ^ length := by
  have hlt := leNat_lt ((bytes.drop offset).take length)
  have hlength : ((bytes.drop offset).take length).length = length := by
    rw [List.length_take, List.length_drop]
    omega
  rw [hlength] at hlt
  exact hlt

theorem readU16_of_le (bytes : Bytes) (offset : Nat) (h : offset + 2 ≤ bytes.length) :
    ∃ word, readU16 bytes offset = some word ∧ word.toNat = leNat ((bytes.drop offset).take 2) := by
  have hlt : leNat ((bytes.drop offset).take 2) < 2 ^ 16 := leNat_take_lt h
  refine ⟨_, by rw [readU16, load_eq h, Option.map_some], ?_⟩
  rw [UInt16.toNat_ofNat', Nat.mod_eq_of_lt hlt]

theorem readU32_of_le (bytes : Bytes) (offset : Nat) (h : offset + 4 ≤ bytes.length) :
    ∃ word, readU32 bytes offset = some word ∧ word.toNat = leNat ((bytes.drop offset).take 4) := by
  have hlt : leNat ((bytes.drop offset).take 4) < 2 ^ 32 := leNat_take_lt h
  refine ⟨_, by rw [readU32, load_eq h, Option.map_some], ?_⟩
  rw [UInt32.toNat_ofNat', Nat.mod_eq_of_lt hlt]

/-- The offset that the descriptor of a packet holds -/
def offsetAt (payload : Bytes) (position : Nat) : Nat := leNat ((payload.drop (8 + position * 8)).take 4)

def lengthAt (payload : Bytes) (position : Nat) : Nat :=
  leNat ((payload.drop (8 + position * 8 + 4)).take 4)

def packetAt (payload : Bytes) (position : Nat) : Bytes :=
  (payload.drop (offsetAt payload position)).take (lengthAt payload position)

/-- The packets of a batch -/
def batchPackets (payload : Bytes) (count : Nat) : List Bytes := (List.range count).map (packetAt payload)

theorem readDescriptor_of_le (payload : Bytes) (packetIndex : UInt16)
    (h : 8 + packetIndex.toNat * 8 + 8 ≤ payload.length) :
    ∃ packetOffset packetLength, readDescriptor payload packetIndex = some (packetOffset, packetLength) ∧
      packetOffset.toNat = offsetAt payload packetIndex.toNat ∧
      packetLength.toNat = lengthAt payload packetIndex.toNat := by
  have hindex := packetIndex.toNat_lt
  obtain ⟨position, hposition, hvalue⟩ := u32Checked_of_lt (packetIndex.toNat * 8) (by omega)
  obtain ⟨packetOffset, hoffset, hoffsetValue⟩ :=
    readU32_of_le payload (8 + position.toNat) (by omega)
  obtain ⟨packetLength, hlength, hlengthValue⟩ :=
    readU32_of_le payload (8 + position.toNat + 4) (by omega)
  refine ⟨packetOffset, packetLength, ?_, ?_, ?_⟩
  · simp [readDescriptor, hposition, hoffset, hlength]
  · rw [hoffsetValue, hvalue, offsetAt]
  · rw [hlengthValue, hvalue, lengthAt]

/-- From the packet at an index on, the packets stand one behind the other, up to an end. -/
def Chain (payload : Bytes) (payloadLength maximum : Nat) : Nat → Nat → Nat → Nat → Prop
  | 0, _, expected, last => last = expected
  | remaining + 1, position, expected, last =>
    (offsetAt payload position = expected ∧ abiMinPacketSize ≤ lengthAt payload position ∧
        lengthAt payload position ≤ maximum ∧ expected + lengthAt payload position ≤ payloadLength) ∧
      Chain payload payloadLength maximum remaining (position + 1)
        (expected + lengthAt payload position) last

theorem Chain.unique {payload : Bytes} {payloadLength maximum remaining position expected last other : Nat}
    (h : Chain payload payloadLength maximum remaining position expected last)
    (hother : Chain payload payloadLength maximum remaining position expected other) : last = other := by
  induction remaining generalizing position expected with
  | zero => exact h.trans hother.symm
  | succ remaining ih => exact ih h.2 hother.2

/-- Every packet of a chain lies within the payload. -/
theorem Chain.within {payload : Bytes} {payloadLength maximum remaining position expected last : Nat}
    (h : Chain payload payloadLength maximum remaining position expected last) {index : Nat}
    (hfirst : position ≤ index) (hlast : index < position + remaining) :
    abiMinPacketSize ≤ lengthAt payload index ∧ lengthAt payload index ≤ maximum ∧
      offsetAt payload index + lengthAt payload index ≤ payloadLength := by
  induction remaining generalizing position expected with
  | zero => omega
  | succ remaining ih =>
    obtain ⟨⟨hoffset, hminimum, hmaximum, hfits⟩, hrest⟩ := h
    by_cases heq : index = position
    · rw [heq, hoffset]
      exact ⟨hminimum, hmaximum, hfits⟩
    · exact ih hrest (by omega) (by omega)

theorem validateDescriptors_spec {payload : Bytes} {payloadLength : UInt32} (maximum : UInt32)
    (hbacked : payloadLength.toNat ≤ payload.length) (remaining : Nat) (packetIndex : UInt16)
    (expected : UInt32) (hindex : packetIndex.toNat + remaining < 2 ^ 16)
    (hdescriptors : 8 + (packetIndex.toNat + remaining) * 8 ≤ payloadLength.toNat)
    (hexpected : expected.toNat ≤ payloadLength.toNat) :
    validateDescriptors payload payloadLength maximum remaining packetIndex expected =
        some (.error .badBatch) ∧
      (∀ last, ¬Chain payload payloadLength.toNat maximum.toNat remaining packetIndex.toNat expected.toNat
        last) ∨
    ∃ last, validateDescriptors payload payloadLength maximum remaining packetIndex expected =
        some (.ok last) ∧
      Chain payload payloadLength.toNat maximum.toNat remaining packetIndex.toNat expected.toNat
        last.toNat := by
  induction remaining generalizing packetIndex expected with
  | zero => exact Or.inr ⟨expected, rfl, rfl⟩
  | succ remaining ih =>
    obtain ⟨packetOffset, packetLength, hread, hoffset, hlength⟩ :=
      readDescriptor_of_le payload packetIndex (by omega)
    have hbounded := payloadLength.toNat_lt
    have hequal : packetOffset = expected ↔ offsetAt payload packetIndex.toNat = expected.toNat := by
      rw [← hoffset, UInt32.toNat_inj]
    simp only [validateDescriptors, hread, Option.bind_eq_bind, Option.bind_some, Chain]
    split
    next hbad =>
      refine Or.inl ⟨rfl, fun last hchain => ?_⟩
      obtain ⟨⟨hfirst, hminimum, hmaximum, _⟩, _⟩ := hchain
      rcases hbad with hne | hshort | hlong
      · exact hne (hequal.mpr hfirst)
      · omega
      · have hgt := UInt32.lt_iff_toNat_lt.mp hlong
        omega
    next hgood =>
      obtain ⟨hfirst, hminimum, hmaximum⟩ := by simpa only [not_or, not_not, not_lt, gt_iff_lt] using hgood
      have hmaximum := UInt32.le_iff_toNat_le.mp (UInt32.not_lt.mp hmaximum)
      rw [hequal] at hfirst
      obtain ⟨room, hroom, hroomValue⟩ :=
        u32CheckedSub_of_le payloadLength packetOffset (by omega)
      rw [hroom, Option.bind_some]
      split
      next hlong =>
        refine Or.inl ⟨rfl, fun last hchain => ?_⟩
        have hgt := UInt32.lt_iff_toNat_lt.mp hlong
        have hfits := hchain.1.2.2.2
        omega
      next hshort =>
        have hfits := UInt32.le_iff_toNat_le.mp (UInt32.not_lt.mp hshort)
        obtain ⟨next, hnext, hnextValue⟩ :=
          u32Checked_of_lt (packetOffset.toNat + packetLength.toNat) (by omega)
        obtain ⟨index, hindexWord, hindexValue⟩ :=
          u16Checked_of_lt (packetIndex.toNat + 1) (by omega)
        rw [hnext, Option.bind_some, hindexWord, Option.bind_some]
        have hnextLength : expected.toNat + lengthAt payload packetIndex.toNat = next.toNat := by omega
        have hrest := ih index next (by omega) (by omega) (by omega)
        rw [hnextLength]
        rw [hindexValue] at hrest
        rcases hrest with ⟨hbad, hnone⟩ | ⟨last, hlast, hchain⟩
        · exact Or.inl ⟨hbad, fun last hchain => hnone last hchain.2⟩
        · exact Or.inr ⟨last, hlast, ⟨hfirst, by omega, by omega, by omega⟩, hchain⟩

/-- The payload is a batch of the given number of packets. -/
structure IsBatch (payload : Bytes) (payloadLength maximum count : Nat) : Prop where
  count_eq : leNat (payload.take 2) = count
  padding_eq : leNat ((payload.drop 2).take 2) = 0
  descriptors_eq : leNat ((payload.drop 4).take 4) = count * 8
  positive : 0 < count
  limited : count ≤ abiMaxPackets
  fits : 8 + count * 8 ≤ payloadLength
  chain : Chain payload payloadLength maximum count 0 (8 + count * 8) payloadLength

theorem validatePacketBatchForMtu_spec {payload : Bytes} {payloadLength maximum : UInt32}
    (hbacked : payloadLength.toNat ≤ payload.length) (hminimum : abiMinPacketSize ≤ maximum.toNat)
    (hmaximum : maximum.toNat ≤ abiMaxPacketSize) :
    validatePacketBatchForMtu (some payload) payloadLength maximum = some (.badBatch, none) ∧
      (∀ count, ¬IsBatch payload payloadLength.toNat maximum.toNat count) ∨
    ∃ count : UInt16, validatePacketBatchForMtu (some payload) payloadLength maximum =
        some (.valid, some count) ∧
      IsBatch payload payloadLength.toNat maximum.toNat count.toNat := by
  have hbounds : ¬(maximum.toNat < abiMinPacketSize ∨ maximum.toNat > abiMaxPacketSize) := by omega
  have height : (8 : UInt32).toNat = 8 := rfl
  simp only [validatePacketBatchForMtu, if_neg hbounds]
  split
  next hshort =>
    refine Or.inl ⟨rfl, fun count hbatch => ?_⟩
    have hlt := UInt32.lt_iff_toNat_lt.mp hshort
    have hfits := hbatch.fits
    omega
  next hlong =>
    have hle := UInt32.le_iff_toNat_le.mp (UInt32.not_lt.mp hlong)
    obtain ⟨count, hcount, hcountValue⟩ := readU16_of_le payload 0 (by omega)
    obtain ⟨padding, hpadding, hpaddingValue⟩ := readU16_of_le payload 2 (by omega)
    rw [List.drop_zero] at hcountValue
    simp only [hcount, hpadding, Option.bind_eq_bind, Option.bind_some]
    split
    next hbad =>
      refine Or.inl ⟨rfl, fun other hbatch => ?_⟩
      have hsame := hbatch.count_eq
      have hpositive := hbatch.positive
      have hlimited := hbatch.limited
      rcases hbad with hzero | hmany | hpad
      · rw [hzero] at hcountValue
        have hnone : (0 : UInt16).toNat = 0 := rfl
        omega
      · omega
      · refine hpad (UInt16.toNat_inj.mp ?_)
        rw [hpaddingValue, hbatch.padding_eq]
        rfl
    next hgood =>
      obtain ⟨hpositive, hlimited, hpad⟩ := by simpa only [not_or, not_not, not_lt, gt_iff_lt] using hgood
      have hcountPositive := u16_pos hpositive
      have hlimited : count.toNat ≤ 64 := hlimited
      obtain ⟨descriptorLength, hdescriptor, hdescriptorValue⟩ :=
        readU32_of_le payload 4 (by omega)
      obtain ⟨descriptors, hdescriptors, hdescriptorsValue⟩ :=
        u32Checked_of_lt (count.toNat * 8) (by omega)
      obtain ⟨room, hroom, hroomValue⟩ := u32CheckedSub_of_le payloadLength 8 (by omega)
      simp only [hdescriptor, hdescriptors, hroom, Option.bind_some]
      split
      next hbad =>
        refine Or.inl ⟨rfl, fun other hbatch => ?_⟩
        have hsame := hbatch.count_eq
        have hlengths := hbatch.descriptors_eq
        have hfits := hbatch.fits
        rcases hbad with hne | hlong
        · exact hne (UInt32.toNat_inj.mp (by omega))
        · have hgt := UInt32.lt_iff_toNat_lt.mp hlong
          omega
      next hgood =>
        obtain ⟨hequal, hfits⟩ := by simpa only [not_or, not_not, not_lt, gt_iff_lt] using hgood
        have hequal := UInt32.toNat_inj.mpr hequal
        have hfits := UInt32.le_iff_toNat_le.mp (UInt32.not_lt.mp hfits)
        obtain ⟨expected, hexpected, hexpectedValue⟩ :=
          u32Checked_of_lt (8 + descriptorLength.toNat) (by omega)
        have hzero : (0 : UInt16).toNat = 0 := rfl
        have hstart : expected.toNat = 8 + count.toNat * 8 := by omega
        have hspec := validateDescriptors_spec maximum hbacked count.toNat 0 expected (by omega) (by omega) (by omega)
        rw [hzero, hstart] at hspec
        rw [hexpected, Option.bind_some]
        rcases hspec with ⟨hbad, hnone⟩ | ⟨last, hlast, hchain⟩
        · rw [hbad]
          refine Or.inl ⟨rfl, fun other hbatch => ?_⟩
          have hsame : other = count.toNat := by rw [hcountValue, hbatch.count_eq]
          rw [hsame] at hbatch
          exact hnone _ hbatch.chain
        · simp only [hlast, Option.bind_some]
          split
          next hne =>
            refine Or.inl ⟨rfl, fun other hbatch => ?_⟩
            have hsame : other = count.toNat := by rw [hcountValue, hbatch.count_eq]
            have hother := hbatch.chain
            rw [hsame] at hother
            exact hne (UInt32.toNat_inj.mp (hchain.unique hother))
          next heq =>
            rw [not_not] at heq
            refine Or.inr ⟨count, rfl, hcountValue.symm, ?_, ?_, hcountPositive, hlimited, by omega, ?_⟩
            · rw [← hpaddingValue, hpad]
              rfl
            · omega
            · rw [heq] at hchain
              exact hchain

/-- A valid packet of IPv4 -/
structure IsPacket (mtu : Nat) (packet : Bytes) : Prop where
  minimum : abiMinPacketSize ≤ packet.length
  maximum : packet.length ≤ mtu
  header : ∃ first : UInt8, packet[0]? = some first ∧ first >>> 4 = 4 ∧
    abiMinPacketSize ≤ (first &&& 0x0f).toNat * 4 ∧ (first &&& 0x0f).toNat * 4 ≤ packet.length
  total : beNat ((packet.drop 2).take 2) = packet.length

theorem readBeU16_of_le (bytes : Bytes) (offset : Nat) (h : offset + 2 ≤ bytes.length) :
    ∃ word, readBeU16 bytes offset = some word ∧ word.toNat = beNat ((bytes.drop offset).take 2) := by
  have hlt := beNat_lt ((bytes.drop offset).take 2)
  have hlength : ((bytes.drop offset).take 2).length = 2 := by
    rw [List.length_take, List.length_drop]
    omega
  rw [hlength] at hlt
  have hlt : beNat ((bytes.drop offset).take 2) < 2 ^ 16 := hlt
  refine ⟨_, by rw [readBeU16, load_eq h, Option.map_some], ?_⟩
  rw [UInt16.toNat_ofNat', Nat.mod_eq_of_lt hlt]

theorem validateIpv4Packet_spec {packet : Bytes} {packetLength : UInt32} (mtu : UInt32)
    (hbacked : packetLength.toNat ≤ packet.length) :
    ∃ status, validateIpv4Packet packet packetLength mtu = some status ∧
      (status = .ok ↔ IsPacket mtu.toNat (packet.take packetLength.toNat)) := by
  have htaken : (packet.take packetLength.toNat).length = packetLength.toNat := by
    rw [List.length_take]
    omega
  unfold validateIpv4Packet
  split
  next hbad =>
    refine ⟨_, rfl, ?_⟩
    simp only [reduceCtorEq, false_iff]
    intro hpacket
    have hminimum := hpacket.minimum
    have hmaximum := hpacket.maximum
    rw [htaken] at hminimum hmaximum
    rcases hbad with hshort | hlong
    · omega
    · have hgt := UInt32.lt_iff_toNat_lt.mp hlong
      omega
  next hgood =>
    obtain ⟨hminimum, hmaximum⟩ := by simpa only [not_or, not_lt, gt_iff_lt] using hgood
    have hmaximum := UInt32.le_iff_toNat_le.mp (UInt32.not_lt.mp hmaximum)
    have hlong : 20 ≤ packetLength.toNat := hminimum
    obtain ⟨first, hfirst⟩ : ∃ first, packet[0]? = some first :=
      ⟨_, List.getElem?_eq_getElem (by omega)⟩
    have hnibble : (first &&& 0x0f : UInt8).toNat < 256 := (first &&& 0x0f).toNat_lt
    obtain ⟨headerLength, hheader, hheaderValue⟩ :=
      u32Checked_of_lt ((first &&& 0x0f : UInt8).toNat * 4) (by omega)
    obtain ⟨total, htotal, htotalValue⟩ := readBeU16_of_le packet 2 (by omega)
    have htakenFirst : (packet.take packetLength.toNat)[0]? = some first := by
      rw [List.getElem?_take_of_lt (by omega), hfirst]
    have htakenTotal : ((packet.take packetLength.toNat).drop 2).take 2 = (packet.drop 2).take 2 := by
      rw [List.drop_take, List.take_take, Nat.min_eq_left (by omega)]
    simp only [hfirst, hheader, htotal, Option.bind_eq_bind, Option.bind_some]
    split
    next hbad =>
      refine ⟨_, rfl, ?_⟩
      simp only [reduceCtorEq, false_iff]
      intro hpacket
      obtain ⟨other, hother, hversion, hlower, hupper⟩ := hpacket.header
      have hsum := hpacket.total
      cases Option.some.inj (htakenFirst.symm.trans hother)
      rw [htakenTotal, htaken] at hsum
      rw [htaken] at hupper
      rcases hbad with hne | hshort | hlong | hne
      · exact hne hversion
      · omega
      · have hgt := UInt32.lt_iff_toNat_lt.mp hlong
        omega
      · omega
    next hgood =>
      obtain ⟨hversion, hlower, hupper, hsum⟩ := by
        simpa only [not_or, not_lt, not_not, gt_iff_lt, ne_eq] using hgood
      have hupper := UInt32.le_iff_toNat_le.mp (UInt32.not_lt.mp hupper)
      refine ⟨_, rfl, iff_of_true rfl ⟨?_, ?_, ⟨first, htakenFirst, hversion, ?_, ?_⟩, ?_⟩⟩
      · rw [htaken]
        exact hminimum
      · rw [htaken]
        exact hmaximum
      · omega
      · rw [htaken]
        omega
      · rw [htakenTotal, htaken]
        omega

def descriptorsOf : Nat → List Bytes → Bytes
  | _, [] => []
  | offset, packet :: packets =>
    leBytes 4 offset ++ leBytes 4 packet.length ++ descriptorsOf (offset + packet.length) packets

/-- The batch of some packets -/
def encodeBatch (packets : List Bytes) : Bytes :=
  leBytes 2 packets.length ++ leBytes 2 0 ++ leBytes 4 (packets.length * 8) ++
    descriptorsOf (8 + packets.length * 8) packets ++ packets.flatten

def batchLength (packets : List Bytes) : Nat := 8 + packets.length * 8 + packets.flatten.length

@[simp] theorem length_descriptorsOf (offset : Nat) (packets : List Bytes) :
    (descriptorsOf offset packets).length = packets.length * 8 := by
  induction packets generalizing offset with
  | nil => rfl
  | cons packet packets ih =>
    simp only [descriptorsOf, List.length_append, length_leBytes, ih, List.length_cons]
    omega

theorem length_encodeBatch (packets : List Bytes) : (encodeBatch packets).length = batchLength packets := by
  simp only [encodeBatch, batchLength, List.length_append, length_leBytes, length_descriptorsOf]

theorem descriptorsOf_append (offset : Nat) (packets more : List Bytes) :
    descriptorsOf offset (packets ++ more) =
      descriptorsOf offset packets ++ descriptorsOf (offset + packets.flatten.length) more := by
  induction packets generalizing offset with
  | nil => rfl
  | cons packet packets ih =>
    simp only [List.cons_append, descriptorsOf, ih, List.append_assoc, List.flatten_cons,
      List.length_append, Nat.add_assoc]

theorem take_drop_append {bytes first middle last : Bytes} {offset : Nat}
    (h : bytes.drop offset = first ++ middle ++ last) :
    (bytes.drop offset).take first.length = first ∧
      (bytes.drop (offset + first.length)).take middle.length = middle ∧
      bytes.drop (offset + first.length + middle.length) = last := by
  refine ⟨?_, ?_, ?_⟩
  · rw [h, List.append_assoc, List.take_left]
  · rw [← List.drop_drop, h, List.append_assoc, List.drop_left, List.take_left]
  · rw [Nat.add_assoc, ← List.drop_drop, h, ← List.length_append, List.drop_left]

/-- Where descriptors and data of some packets stand in a payload, the packets are read back. -/
theorem packetAt_layout {payload : Bytes} {packets : List Bytes} {position offset : Nat}
    {behind rest : Bytes} (maximum : Nat)
    (hdescriptors : payload.drop (8 + position * 8) = descriptorsOf offset packets ++ behind)
    (hdata : payload.drop offset = packets.flatten ++ rest)
    (hsize : offset + packets.flatten.length < 2 ^ 32)
    (hpackets : ∀ packet ∈ packets, abiMinPacketSize ≤ packet.length ∧ packet.length ≤ maximum) :
    (List.range' position packets.length).map (packetAt payload) = packets ∧
      Chain payload (offset + packets.flatten.length) maximum packets.length position offset
        (offset + packets.flatten.length) := by
  induction packets generalizing position offset with
  | nil => exact ⟨rfl, rfl⟩
  | cons packet packets ih =>
    obtain ⟨⟨hminimum, hmaximum⟩, hrest⟩ := List.forall_mem_cons.mp hpackets
    rw [List.flatten_cons, List.length_append] at hsize
    have hsplit : payload.drop (8 + position * 8) = leBytes 4 offset ++ leBytes 4 packet.length ++
        (descriptorsOf (offset + packet.length) packets ++ behind) := by
      rw [hdescriptors, descriptorsOf, List.append_assoc]
    obtain ⟨hoffset, hlength, hnext⟩ := take_drop_append hsplit
    simp only [length_leBytes] at hoffset hlength hnext
    have hoffsetAt : offsetAt payload position = offset := by
      rw [offsetAt, hoffset]
      exact leNat_leBytes (show offset < 2 ^ 32 by omega)
    have hlengthAt : lengthAt payload position = packet.length := by
      rw [lengthAt, hlength]
      exact leNat_leBytes (show packet.length < 2 ^ 32 by omega)
    have hpacket : packetAt payload position = packet := by
      rw [packetAt, hoffsetAt, hlengthAt, hdata, List.flatten_cons, List.append_assoc, List.take_left]
    have hbehind : payload.drop (8 + (position + 1) * 8) =
        descriptorsOf (offset + packet.length) packets ++ behind := by
      rw [← hnext]
      congr 1
      omega
    have hfollowing : payload.drop (offset + packet.length) = packets.flatten ++ rest := by
      rw [← List.drop_drop, hdata, List.flatten_cons, List.append_assoc, List.drop_left]
    obtain ⟨hread, hchain⟩ := ih hbehind hfollowing (by omega) hrest
    rw [List.length_cons, List.flatten_cons, List.length_append, ← Nat.add_assoc]
    refine ⟨?_, ⟨hoffsetAt, by omega, by omega, by omega⟩, ?_⟩
    · rw [List.range'_succ, List.map_cons, hpacket, hread]
    · rw [hlengthAt]
      exact hchain

theorem flatten_length_le {packets : List Bytes} {maximum : Nat}
    (h : ∀ packet ∈ packets, packet.length ≤ maximum) :
    packets.flatten.length ≤ packets.length * maximum := by
  induction packets with
  | nil => simp
  | cons packet packets ih =>
    obtain ⟨hpacket, hrest⟩ := List.forall_mem_cons.mp h
    have htail := ih hrest
    rw [List.flatten_cons, List.length_append, List.length_cons, Nat.succ_mul]
    omega

/-- A memory that begins with the batch of some packets holds a batch, of these packets. -/
theorem encodeBatch_isBatch {packets : List Bytes} {maximum : Nat} (behind : Bytes)
    (hpositive : 0 < packets.length) (hlimited : packets.length ≤ abiMaxPackets)
    (hmaximum : maximum ≤ abiMaxPacketSize)
    (hpackets : ∀ packet ∈ packets, abiMinPacketSize ≤ packet.length ∧ packet.length ≤ maximum) :
    IsBatch (encodeBatch packets ++ behind) (batchLength packets) maximum packets.length ∧
      batchPackets (encodeBatch packets ++ behind) packets.length = packets := by
  have hlimited' : packets.length ≤ 64 := hlimited
  have hmaximum' : maximum ≤ 9000 := hmaximum
  have hflat := flatten_length_le fun packet hpacket => (hpackets packet hpacket).2
  have hbound : packets.length * maximum ≤ 64 * 9000 := Nat.mul_le_mul hlimited' hmaximum'
  have hfront : (encodeBatch packets ++ behind).drop 0 = leBytes 2 packets.length ++ leBytes 2 0 ++
      (leBytes 4 (packets.length * 8) ++ descriptorsOf (8 + packets.length * 8) packets ++
        (packets.flatten ++ behind)) := by
    simp only [encodeBatch, List.drop_zero, List.append_assoc]
  obtain ⟨hcount, hpadding, hlater⟩ := take_drop_append hfront
  simp only [length_leBytes, List.drop_zero, Nat.zero_add] at hcount hpadding hlater
  obtain ⟨hlength, _, hdata⟩ := take_drop_append hlater
  have hdescriptors : (encodeBatch packets ++ behind).drop (8 + 0 * 8) =
      descriptorsOf (8 + packets.length * 8) packets ++ (packets.flatten ++ behind) := by
    rw [show 8 + 0 * 8 = 2 + 2 + 4 from rfl, ← List.drop_drop, hlater, List.append_assoc]
    exact List.drop_left' (length_leBytes 4 _)
  rw [length_leBytes] at hlength
  rw [length_leBytes, length_descriptorsOf] at hdata
  obtain ⟨hread, hchain⟩ := packetAt_layout maximum hdescriptors hdata (by omega) hpackets
  refine ⟨⟨?_, ?_, ?_, hpositive, hlimited, Nat.le_add_right _ _, hchain⟩, ?_⟩
  · rw [hcount]
    exact leNat_leBytes (show packets.length < 2 ^ 16 by omega)
  · rw [hpadding]
    exact leNat_leBytes (show 0 < 2 ^ 16 by omega)
  · rw [hlength]
    exact leNat_leBytes (show packets.length * 8 < 2 ^ 32 by omega)
  · rw [batchPackets, List.range_eq_range', hread]

end WindowsXsnet

end XsNexus
