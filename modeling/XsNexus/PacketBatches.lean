import XsNexus.DriverQueueSteps
import XsNexus.MachineWords

namespace XsNexus

open ByteCodec ByteMemory MachineWords

namespace XsnetClient

open WindowsXsnet (IsBatch IsPacket Chain offsetAt lengthAt packetAt batchPackets descriptorsOf encodeBatch
  batchLength abiMaxPackets abiMinPacketSize abiMaxPacketSize)

def maxPayload : Nat := 1048576

def maxPackets : Nat := 64

def minPacketSize : Nat := 20

def maxPacketSize : Nat := 9000

inductive ClientError
  | invalidPacket | invalidResponse
deriving DecidableEq

def readU16 (bytes : Bytes) (offset : Nat) : Option UInt16 :=
  (load bytes offset 2).map fun word => UInt16.ofNat (leNat word)

def readU32 (bytes : Bytes) (offset : Nat) : Option UInt32 :=
  (load bytes offset 4).map fun word => UInt32.ofNat (leNat word)

/-- `none` is a panic, here and below. -/
def writeU16 (bytes : Bytes) (offset : Nat) (value : UInt16) : Option Bytes :=
  store bytes offset (leBytes 2 value.toNat)

def writeU32 (bytes : Bytes) (offset : Nat) (value : UInt32) : Option Bytes :=
  store bytes offset (leBytes 4 value.toNat)

def validateIpv4 (packet : Bytes) (mtu : UInt32) : Option (Except ClientError Unit) :=
  if packet.length < minPacketSize ∨ packet.length > mtu.toNat ∨ packet.length > maxPacketSize then
    some (.error .invalidPacket)
  else do
    let first : UInt8 ← packet[0]?
    if first >>> 4 ≠ 4 then some (.error .invalidPacket)
    else
      let headerLength := (first &&& 0x0f).toNat * 4
      let totalLength := beNat (← load packet 2 2)
      if headerLength < minPacketSize ∨ headerLength > packet.length ∨ totalLength ≠ packet.length then
        some (.error .invalidPacket)
      else some (.ok ())

/-- The fold of `encode_packet_batch` over the packets -/
def packetBytes (mtu : UInt32) : List Bytes → Nat → Option (Except ClientError Nat)
  | [], total => some (.ok total)
  | packet :: packets, total => do
    match ← validateIpv4 packet mtu with
    | .error error => some (.error error)
    | .ok () =>
      match usizeCheckedAdd total packet.length with
      | none => some (.error .invalidPacket)
      | some total => packetBytes mtu packets total

/-- The loop of `encode_packet_batch` -/
def writePackets : List Bytes → Nat → Nat → Bytes → Option (Except ClientError Bytes)
  | [], _, _, payload => some (.ok payload)
  | packet :: packets, packetIndex, packetOffset, payload =>
    let descriptorOffset := 8 + packetIndex * 8
    if packetOffset ≥ 2 ^ 32 ∨ packet.length ≥ 2 ^ 32 then some (.error .invalidPacket)
    else do
      let payload ← writeU32 payload descriptorOffset (UInt32.ofNat packetOffset)
      let payload ← writeU32 payload (descriptorOffset + 4) (UInt32.ofNat packet.length)
      let payload ← store payload packetOffset packet
      writePackets packets (packetIndex + 1) (packetOffset + packet.length) payload

def encodePacketBatch (packets : List Bytes) (mtu : UInt32) : Option (Except ClientError Bytes) :=
  if packets = [] ∨ packets.length > maxPackets then some (.error .invalidPacket)
  else do
    let descriptorBytes := packets.length * 8
    match ← packetBytes mtu packets 0 with
    | .error error => some (.error error)
    | .ok bytes =>
      match (usizeCheckedAdd 8 descriptorBytes).bind fun value => usizeCheckedAdd value bytes with
      | none => some (.error .invalidPacket)
      | some total =>
        if total > maxPayload then some (.error .invalidPacket)
        else
          let payload := List.replicate total (0 : UInt8)
          if packets.length ≥ 2 ^ 16 ∨ descriptorBytes ≥ 2 ^ 32 then some (.error .invalidPacket)
          else do
            let payload ← writeU16 payload 0 (UInt16.ofNat packets.length)
            let payload ← writeU32 payload 4 (UInt32.ofNat descriptorBytes)
            writePackets packets 0 (8 + descriptorBytes) payload

/-- The loop of `decode_packet_batch`: the packets, and the offset expected behind them. -/
def readPackets (payload : Bytes) (mtu : UInt32) :
    Nat → Nat → Nat → List Bytes → Option (Except ClientError (List Bytes × Nat))
  | 0, _, expectedOffset, packets => some (.ok (packets, expectedOffset))
  | remaining + 1, packetIndex, expectedOffset, packets =>
    let descriptorOffset := 8 + packetIndex * 8
    match readU32 payload descriptorOffset, readU32 payload (descriptorOffset + 4) with
    | some packetOffset, some packetLength =>
      match usizeCheckedAdd packetOffset.toNat packetLength.toNat with
      | none => some (.error .invalidResponse)
      | some packetEnd =>
        if packetOffset.toNat ≠ expectedOffset ∨ packetEnd > payload.length then
          some (.error .invalidResponse)
        else do
          let packet ← load payload packetOffset.toNat packetLength.toNat
          match ← validateIpv4 packet mtu with
          | .error _ => some (.error .invalidResponse)
          | .ok () => readPackets payload mtu remaining (packetIndex + 1) packetEnd (packets ++ [packet])
    | _, _ => some (.error .invalidResponse)

def decodePacketBatch (payload : Bytes) (mtu : UInt32) (maximumPackets : UInt16) :
    Option (Except ClientError (List Bytes)) :=
  match readU16 payload 0, readU32 payload 4 with
  | some packetCount, some descriptorBytes =>
    if packetCount.toNat = 0 ∨ packetCount.toNat > maximumPackets.toNat ∨ packetCount.toNat > maxPackets ∨
        readU16 payload 2 ≠ some 0 ∨ descriptorBytes.toNat ≠ packetCount.toNat * 8 ∨
        8 + descriptorBytes.toNat > payload.length then
      some (.error .invalidResponse)
    else do
      match ← readPackets payload mtu packetCount.toNat 0 (8 + descriptorBytes.toNat) [] with
      | .error error => some (.error error)
      | .ok (packets, expectedOffset) =>
        if expectedOffset ≠ payload.length then some (.error .invalidResponse) else some (.ok packets)
  | _, _ => some (.error .invalidResponse)

theorem validateIpv4_spec (packet : Bytes) (mtu : UInt32) :
    ∃ result, validateIpv4 packet mtu = some result ∧
      ((∃ error, result = .error error) ∧ ¬IsPacket (min mtu.toNat maxPacketSize) packet ∨
        result = .ok () ∧ IsPacket (min mtu.toNat maxPacketSize) packet) := by
  unfold validateIpv4
  split
  next hbad =>
    refine ⟨_, rfl, Or.inl ⟨⟨_, rfl⟩, fun hpacket => ?_⟩⟩
    have hminimum : minPacketSize ≤ packet.length := hpacket.minimum
    have hmaximum := le_min_iff.mp hpacket.maximum
    omega
  next hgood =>
    rw [not_or, not_or, not_lt, not_lt, not_lt] at hgood
    obtain ⟨hminimum, hmtu, hmaximum⟩ := hgood
    have hlong : 20 ≤ packet.length := hminimum
    obtain ⟨first, hfirst⟩ : ∃ first, packet[0]? = some first :=
      ⟨_, List.getElem?_eq_getElem (by omega)⟩
    have hload := @load_eq _ packet 2 2 (by omega)
    simp only [hfirst, hload, Option.bind_eq_bind, Option.bind_some]
    split
    next hversion =>
      refine ⟨_, rfl, Or.inl ⟨⟨_, rfl⟩, fun hpacket => ?_⟩⟩
      obtain ⟨other, hother, hsame, _⟩ := hpacket.header
      cases Option.some.inj (hfirst.symm.trans hother)
      exact hversion hsame
    next hversion =>
      rw [not_not] at hversion
      split
      next hbad =>
        refine ⟨_, rfl, Or.inl ⟨⟨_, rfl⟩, fun hpacket => ?_⟩⟩
        obtain ⟨other, hother, _, hlower, hupper⟩ := hpacket.header
        cases Option.some.inj (hfirst.symm.trans hother)
        have htotal := hpacket.total
        have hlower : minPacketSize ≤ (first &&& 0x0f).toNat * 4 := hlower
        omega
      next hgood =>
        rw [not_or, not_or, not_lt, not_lt, not_not] at hgood
        exact ⟨_, rfl, Or.inr ⟨rfl, hminimum, le_min hmtu hmaximum,
          ⟨first, hfirst, hversion, hgood.1, hgood.2.1⟩, hgood.2.2⟩⟩

theorem readU32_of_le (payload : Bytes) (offset : Nat) (h : offset + 4 ≤ payload.length) :
    ∃ word, readU32 payload offset = some word ∧ word.toNat = leNat ((payload.drop offset).take 4) :=
  WindowsXsnet.readU32_of_le payload offset h

theorem usizeCheckedAdd_of_lt {a b : Nat} (h : a + b < 2 ^ 64) : usizeCheckedAdd a b = some (a + b) := by
  have hmax : usizeMax = 2 ^ 64 - 1 := rfl
  exact if_pos (by omega)

theorem length_packetAt {payload : Bytes} {position : Nat}
    (h : offsetAt payload position + lengthAt payload position ≤ payload.length) :
    (packetAt payload position).length = lengthAt payload position := by
  rw [packetAt, List.length_take, List.length_drop]
  omega

/-- The packets of a chain, all of them valid ones -/
def ValidChain (payload : Bytes) (mtu : UInt32) (remaining position expected last : Nat) : Prop :=
  Chain payload payload.length (min mtu.toNat maxPacketSize) remaining position expected last ∧
    ∀ packet ∈ (List.range' position remaining).map (packetAt payload),
      IsPacket (min mtu.toNat maxPacketSize) packet

theorem validChain_succ {payload : Bytes} {mtu : UInt32} {remaining position expected last : Nat} :
    ValidChain payload mtu (remaining + 1) position expected last ↔
      (offsetAt payload position = expected ∧ expected + lengthAt payload position ≤ payload.length) ∧
        IsPacket (min mtu.toNat maxPacketSize) (packetAt payload position) ∧
        ValidChain payload mtu remaining (position + 1) (expected + lengthAt payload position) last := by
  simp only [ValidChain, Chain, List.range'_succ, List.map_cons, List.forall_mem_cons]
  constructor
  · rintro ⟨⟨⟨hoffset, _, _, hfits⟩, hchain⟩, hpacket, hpackets⟩
    exact ⟨⟨hoffset, hfits⟩, hpacket, hchain, hpackets⟩
  rintro ⟨⟨hoffset, hfits⟩, hpacket, hchain, hpackets⟩
  have hlength := length_packetAt (show offsetAt payload position + lengthAt payload position ≤
    payload.length by omega)
  have hminimum := hpacket.minimum
  have hmaximum := hpacket.maximum
  rw [hlength] at hminimum hmaximum
  exact ⟨⟨⟨hoffset, hminimum, hmaximum, hfits⟩, hchain⟩, hpacket, hpackets⟩

theorem readPackets_spec {payload : Bytes} {mtu : UInt32} {remaining packetIndex expected : Nat}
    (packets : List Bytes) (h : 8 + (packetIndex + remaining) * 8 ≤ payload.length) :
    (readPackets payload mtu remaining packetIndex expected packets = some (.error .invalidResponse) ∧
      ∀ last, ¬ValidChain payload mtu remaining packetIndex expected last) ∨
    ∃ last, readPackets payload mtu remaining packetIndex expected packets =
        some (.ok (packets ++ (List.range' packetIndex remaining).map (packetAt payload), last)) ∧
      ValidChain payload mtu remaining packetIndex expected last := by
  induction remaining generalizing packetIndex expected packets with
  | zero =>
    refine Or.inr ⟨expected, ?_, rfl, ?_⟩
    · simp [readPackets]
    · simp
  | succ remaining ih =>
    obtain ⟨packetOffset, hoffset, hoffsetValue⟩ :=
      readU32_of_le payload (8 + packetIndex * 8) (by omega)
    obtain ⟨packetLength, hlength, hlengthValue⟩ :=
      readU32_of_le payload (8 + packetIndex * 8 + 4) (by omega)
    have hoffsetAt : offsetAt payload packetIndex = packetOffset.toNat := hoffsetValue.symm
    have hlengthAt : lengthAt payload packetIndex = packetLength.toNat := hlengthValue.symm
    have hoffsetLt := packetOffset.toNat_lt
    have hlengthLt := packetLength.toNat_lt
    simp only [readPackets, hoffset, hlength, usizeCheckedAdd_of_lt
      (show packetOffset.toNat + packetLength.toNat < 2 ^ 64 by omega), validChain_succ, hoffsetAt, hlengthAt]
    split
    next hbad =>
      refine Or.inl ⟨rfl, fun last hchain => ?_⟩
      omega
    next hgood =>
      rw [not_or, not_not, not_lt] at hgood
      obtain ⟨hexpected, hfits⟩ := hgood
      have hload := load_eq hfits
      rw [← hoffsetAt, ← hlengthAt] at hload
      rw [← hoffsetAt, ← hlengthAt, hload, Option.bind_eq_bind, Option.bind_some]
      obtain ⟨result, hresult, ⟨⟨error, rfl⟩, hpacket⟩ | ⟨rfl, hpacket⟩⟩ :=
        validateIpv4_spec (packetAt payload packetIndex) mtu
      · have hunfold : (payload.drop (offsetAt payload packetIndex)).take (lengthAt payload packetIndex) =
            packetAt payload packetIndex := rfl
        rw [hunfold, hresult]
        exact Or.inl ⟨rfl, fun last hchain => hpacket hchain.2.1⟩
      · have hunfold : (payload.drop (offsetAt payload packetIndex)).take (lengthAt payload packetIndex) =
            packetAt payload packetIndex := rfl
        rw [hunfold, hresult, Option.bind_eq_bind, Option.bind_some]
        have hrest := @ih (packetIndex + 1) (expected + lengthAt payload packetIndex)
          (packets ++ [packetAt payload packetIndex]) (by omega)
        rw [hoffsetAt, hexpected]
        rw [List.append_assoc, List.singleton_append, ← List.map_cons, ← List.range'_succ] at hrest
        rcases hrest with ⟨hbad, hnone⟩ | ⟨last, hlast, hchain⟩
        · exact Or.inl ⟨hbad, fun last hchain => hnone last hchain.2.2⟩
        · exact Or.inr ⟨last, hlast, ⟨rfl, by omega⟩, hpacket, hchain⟩

/-- A batch of at most so many packets, all of them valid ones -/
def IsValidBatch (payload : Bytes) (mtu : UInt32) (maximumPackets : UInt16) (count : Nat) : Prop :=
  IsBatch payload payload.length (min mtu.toNat maxPacketSize) count ∧ count ≤ maximumPackets.toNat ∧
    ∀ packet ∈ batchPackets payload count, IsPacket (min mtu.toNat maxPacketSize) packet

/-- The decoder answers every payload, with the packets of the valid batches. -/
theorem decodePacketBatch_spec (payload : Bytes) (mtu : UInt32) (maximumPackets : UInt16) :
    (decodePacketBatch payload mtu maximumPackets = some (.error .invalidResponse) ∧
      ∀ count, ¬IsValidBatch payload mtu maximumPackets count) ∨
    ∃ count, decodePacketBatch payload mtu maximumPackets = some (.ok (batchPackets payload count)) ∧
      IsValidBatch payload mtu maximumPackets count := by
  by_cases hshort : payload.length < 8
  · refine Or.inl ⟨?_, fun count hbatch => ?_⟩
    · have hnone : readU32 payload 4 = none := by
        rw [readU32, load, if_neg (by omega), Option.map_none]
      unfold decodePacketBatch
      rw [hnone]
      split
      next heq => cases heq
      next => rfl
    · have hfits := hbatch.1.fits
      omega
  · obtain ⟨count, hcount, hcountValue⟩ := WindowsXsnet.readU16_of_le payload 0 (by omega)
    obtain ⟨padding, hpadding, hpaddingValue⟩ := WindowsXsnet.readU16_of_le payload 2 (by omega)
    obtain ⟨descriptorBytes, hdescriptor, hdescriptorValue⟩ := readU32_of_le payload 4 (by omega)
    have hcount : readU16 payload 0 = some count := hcount
    have hpadding : readU16 payload 2 = some padding := hpadding
    rw [List.drop_zero] at hcountValue
    have hsame : ∀ other, IsValidBatch payload mtu maximumPackets other → other = count.toNat :=
      fun other hbatch => by rw [hcountValue, hbatch.1.count_eq]
    unfold decodePacketBatch
    rw [hcount, hdescriptor, hpadding]
    dsimp only
    split
    next hbad =>
      refine Or.inl ⟨rfl, fun other hbatch => ?_⟩
      obtain rfl := hsame other hbatch
      have hpositive := hbatch.1.positive
      have hlimited : count.toNat ≤ 64 := hbatch.1.limited
      have hdescriptors := hbatch.1.descriptors_eq
      have hfits := hbatch.1.fits
      have hmany := hbatch.2.1
      rcases hbad with hzero | hmore | hlong | hpad | hne | hbeyond
      · omega
      · omega
      · exact absurd hlong (by unfold maxPackets; omega)
      · refine hpad (congrArg some (UInt16.toNat_inj.mp ?_))
        rw [hpaddingValue, hbatch.1.padding_eq]
        rfl
      · omega
      · omega
    next hgood =>
      simp only [not_or, not_lt, not_not] at hgood
      obtain ⟨hpositive, hmany, hlimited, hpad, hequal, hfits⟩ := hgood
      have hlimited : count.toNat ≤ 64 := hlimited
      rcases @readPackets_spec payload mtu count.toNat 0 (8 + descriptorBytes.toNat) [] (by omega) with
        ⟨hbad, hnone⟩ | ⟨last, hread, hchain, hpackets⟩
      · rw [hbad]
        refine Or.inl ⟨rfl, fun other hbatch => ?_⟩
        obtain rfl := hsame other hbatch
        refine hnone payload.length ⟨?_, ?_⟩
        · rw [hequal]
          exact hbatch.1.chain
        · rw [← List.range_eq_range']
          exact hbatch.2.2
      · rw [hread, Option.bind_eq_bind, Option.bind_some]
        dsimp only
        rw [List.nil_append, ← List.range_eq_range']
        rw [← List.range_eq_range'] at hpackets
        rw [hequal] at hchain
        split
        next hne =>
          refine Or.inl ⟨rfl, fun other hbatch => ?_⟩
          obtain rfl := hsame other hbatch
          exact hne (hchain.unique hbatch.1.chain)
        next heq =>
          rw [not_not] at heq
          rw [heq] at hchain
          refine Or.inr ⟨count.toNat, rfl, ⟨hcountValue.symm, ?_, ?_, by omega, hlimited, by omega, hchain⟩,
            hmany, hpackets⟩
          · rw [← hpaddingValue, Option.some.inj hpad]
            rfl
          · omega

theorem packetBytes_spec {mtu : UInt32} {packets : List Bytes} {total : Nat}
    (hpackets : ∀ packet ∈ packets, validateIpv4 packet mtu = some (.ok ()))
    (h : total + packets.flatten.length < 2 ^ 64) :
    packetBytes mtu packets total = some (.ok (total + packets.flatten.length)) := by
  induction packets generalizing total with
  | nil => rfl
  | cons packet packets ih =>
    obtain ⟨hpacket, hrest⟩ := List.forall_mem_cons.mp hpackets
    rw [List.flatten_cons, List.length_append] at h ⊢
    rw [packetBytes, hpacket, Option.bind_eq_bind, Option.bind_some]
    dsimp only
    rw [usizeCheckedAdd_of_lt (by omega)]
    dsimp only
    rw [ih hrest (by omega), Nat.add_assoc]

/-- The descriptors are written to the room behind the ones before them, the packets behind the data. -/
theorem writePackets_spec {packets : List Bytes} {packetIndex packetOffset : Nat}
    {front junk data room : Bytes} (hfront : front.length = 8 + packetIndex * 8)
    (hjunk : junk.length = packets.length * 8)
    (hoffset : (front ++ junk ++ data).length = packetOffset)
    (hroom : room.length = packets.flatten.length)
    (hsize : packetOffset + packets.flatten.length < 2 ^ 32) :
    writePackets packets packetIndex packetOffset (front ++ junk ++ data ++ room) =
      some (.ok (front ++ descriptorsOf packetOffset packets ++ data ++ packets.flatten)) := by
  induction packets generalizing packetIndex packetOffset front junk data room with
  | nil =>
    obtain rfl : junk = [] := List.length_eq_zero_iff.mp (by simpa using hjunk)
    obtain rfl : room = [] := List.length_eq_zero_iff.mp (by simpa using hroom)
    simp [writePackets, descriptorsOf]
  | cons packet packets ih =>
    rw [List.flatten_cons, List.length_append] at hroom hsize
    rw [List.length_cons] at hjunk
    obtain ⟨first, second, third, rfl, hfirst, hsecond, hthird⟩ := WindowsXsnet.Sound.split_room hjunk
    have hwords : (UInt32.ofNat packetOffset).toNat = packetOffset ∧
        (UInt32.ofNat packet.length).toNat = packet.length := by
      constructor
      · rw [UInt32.toNat_ofNat', Nat.mod_eq_of_lt (by omega)]
      · rw [UInt32.toNat_ofNat', Nat.mod_eq_of_lt (by omega)]
    have hstoreOffset := store_append front first (leBytes 4 packetOffset)
      (second ++ third ++ data ++ room) (by simp [hfirst])
    have hstoreLength := store_append (front ++ leBytes 4 packetOffset) second
      (leBytes 4 packet.length) (third ++ data ++ room) (by simp [hsecond])
    have hstorePacket := store_append
      (front ++ leBytes 4 packetOffset ++ leBytes 4 packet.length ++ third ++ data)
      (room.take packet.length) packet (room.drop packet.length) (by rw [List.length_take]; omega)
    have hmiddle : (front ++ leBytes 4 packetOffset).length = 8 + packetIndex * 8 + 4 := by
      rw [List.length_append, length_leBytes, hfront]
    have hend : (front ++ leBytes 4 packetOffset ++ leBytes 4 packet.length ++ third ++ data).length =
        packetOffset := by
      simp only [List.length_append, length_leBytes, hfirst, hsecond] at hoffset ⊢
      omega
    rw [hfront] at hstoreOffset
    rw [hmiddle] at hstoreLength
    rw [hend] at hstorePacket
    have hshift : front ++ leBytes 4 packetOffset ++ (second ++ third ++ data ++ room) =
        front ++ leBytes 4 packetOffset ++ second ++ (third ++ data ++ room) := by
      simp only [List.append_assoc]
    have hopen : front ++ leBytes 4 packetOffset ++ leBytes 4 packet.length ++ (third ++ data ++ room) =
        front ++ leBytes 4 packetOffset ++ leBytes 4 packet.length ++ third ++ data ++
          room.take packet.length ++ room.drop packet.length := by
      rw [List.append_assoc _ (List.take _ _), List.take_append_drop]
      simp only [List.append_assoc]
    have hnext : front ++ leBytes 4 packetOffset ++ leBytes 4 packet.length ++ third ++ data ++ packet ++
          room.drop packet.length =
        front ++ leBytes 4 packetOffset ++ leBytes 4 packet.length ++ third ++ (data ++ packet) ++
          room.drop packet.length := by
      simp only [List.append_assoc]
    have hrest := @ih (packetIndex + 1) (packetOffset + packet.length)
      (front ++ leBytes 4 packetOffset ++ leBytes 4 packet.length) third (data ++ packet)
      (room.drop packet.length) (by
        simp only [List.length_append, length_leBytes, hfront]
        omega) hthird (by
        rw [← List.append_assoc, List.length_append, hend]) (by
        rw [List.length_drop]
        omega) (by omega)
    have hguard : ¬(packetOffset ≥ 2 ^ 32 ∨ packet.length ≥ 2 ^ 32) := by omega
    have hbefore : front ++ (first ++ second ++ third) ++ data ++ room =
        front ++ first ++ (second ++ third ++ data ++ room) := by
      simp only [List.append_assoc]
    have hafter : front ++ leBytes 4 packetOffset ++ leBytes 4 packet.length ++
          descriptorsOf (packetOffset + packet.length) packets ++ (data ++ packet) ++ packets.flatten =
        front ++ descriptorsOf packetOffset (packet :: packets) ++ data ++ (packet :: packets).flatten := by
      simp only [descriptorsOf, List.flatten_cons, List.append_assoc]
    rw [← hafter, ← hrest, writePackets, if_neg hguard]
    simp only [writeU32, hwords, Option.bind_eq_bind]
    rw [hbefore, hstoreOffset, Option.bind_some, hshift, hstoreLength, Option.bind_some, hopen, hstorePacket,
      Option.bind_some, hnext]

/-- Valid packets within the payload limit are encoded as a batch. -/
theorem encodePacketBatch_spec {packets : List Bytes} {mtu : UInt32} (hpositive : packets ≠ [])
    (hlimited : packets.length ≤ maxPackets)
    (hpackets : ∀ packet ∈ packets, validateIpv4 packet mtu = some (.ok ()))
    (hlimit : batchLength packets ≤ maxPayload) :
    encodePacketBatch packets mtu = some (.ok (encodeBatch packets)) := by
  have hlimited' : packets.length ≤ 64 := hlimited
  have hlimit' : 8 + packets.length * 8 + packets.flatten.length ≤ 1048576 := hlimit
  have hcounted : ¬(packets = [] ∨ packets.length > maxPackets) :=
    not_or.mpr ⟨hpositive, Nat.not_lt.mpr hlimited⟩
  have hbytes := @packetBytes_spec mtu packets 0 hpackets (by omega)
  have hguard : ¬(packets.length ≥ 2 ^ 16 ∨ packets.length * 8 ≥ 2 ^ 32) := by omega
  have hcount : (UInt16.ofNat packets.length).toNat = packets.length := by
    rw [UInt16.toNat_ofNat', Nat.mod_eq_of_lt (by omega)]
  have hdescriptor : (UInt32.ofNat (packets.length * 8)).toNat = packets.length * 8 := by
    rw [UInt32.toNat_ofNat', Nat.mod_eq_of_lt (by omega)]
  rw [encodePacketBatch, if_neg hcounted, hbytes]
  simp only [Option.bind_eq_bind, Option.bind_some, Nat.zero_add]
  rw [usizeCheckedAdd_of_lt (by omega), Option.bind_some, usizeCheckedAdd_of_lt (by omega)]
  dsimp only
  have hfits : ¬8 + packets.length * 8 + packets.flatten.length > maxPayload := Nat.not_lt.mpr hlimit
  rw [if_neg hfits, if_neg hguard]
  obtain ⟨room, hroom⟩ : ∃ room, room = List.replicate (packets.length * 8) (0 : UInt8) ++
    List.replicate packets.flatten.length 0 := ⟨_, rfl⟩
  have hzeros : List.replicate (8 + packets.length * 8 + packets.flatten.length) (0 : UInt8) =
      [] ++ List.replicate 2 0 ++ (List.replicate 2 0 ++ List.replicate 4 0 ++ room) := by
    rw [Nat.add_assoc, List.replicate_add, List.replicate_add, ← hroom]
    rfl
  have hfirst := store_append [] (List.replicate 2 0) (leBytes 2 packets.length)
    (List.replicate 2 0 ++ List.replicate 4 0 ++ room) (by simp)
  have hsecond := store_append (leBytes 2 packets.length ++ List.replicate 2 0) (List.replicate 4 0)
    (leBytes 4 (packets.length * 8)) room (by simp)
  have hshift : [] ++ leBytes 2 packets.length ++ (List.replicate 2 0 ++ List.replicate 4 0 ++ room) =
      leBytes 2 packets.length ++ List.replicate 2 0 ++ List.replicate 4 0 ++ room := by
    simp only [List.nil_append, List.append_assoc]
  have hlength : (leBytes 2 packets.length ++ List.replicate 2 (0 : UInt8)).length = 4 := by simp
  have hwritten := @writePackets_spec packets 0 (8 + packets.length * 8)
    (leBytes 2 packets.length ++ List.replicate 2 0 ++ leBytes 4 (packets.length * 8))
    (List.replicate (packets.length * 8) 0) [] (List.replicate packets.flatten.length 0)
    (by simp) List.length_replicate
    (by simp only [List.length_append, length_leBytes, List.length_replicate, List.length_nil]; omega)
    List.length_replicate (by omega)
  rw [List.append_nil, List.append_assoc _ (List.replicate _ _), ← hroom] at hwritten
  rw [List.length_nil] at hfirst
  rw [hlength] at hsecond
  rw [writeU16, hcount, hzeros, hfirst, Option.bind_some, writeU32, hdescriptor, hshift, hsecond,
    Option.bind_some, hwritten, List.append_nil]
  rfl

end XsnetClient

end XsNexus
