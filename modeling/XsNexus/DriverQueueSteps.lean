import XsNexus.DriverBatches

namespace XsNexus

open ByteCodec ByteMemory RingBuffers

namespace WindowsXsnet

def PacketSlot.packet (slot : PacketSlot) : Bytes := slot.bytes.val.take slot.length.toNat

/-- The packets of the queue, the oldest first. -/
def PacketQueue.packets (queue : PacketQueue) : List Bytes :=
  (contents queue.slots queue.head.toNat queue.count.toNat).map PacketSlot.packet

/-- A slot with a valid packet -/
structure Filled (mtu : UInt32) (slot : PacketSlot) : Prop where
  within : slot.length.toNat ≤ abiMaxPacketSize
  packet : IsPacket mtu.toNat slot.packet

/-- What every call keeps of a queue. -/
structure Sound (queue : PacketQueue) : Prop where
  minimum : abiMinPacketSize ≤ queue.mtu.toNat
  maximum : queue.mtu.toNat ≤ abiMaxPacketSize
  head_lt : queue.head.toNat < abiMaxPackets
  count_le : queue.count.toNat ≤ abiMaxPackets
  filled : ∀ slot ∈ contents queue.slots queue.head.toNat queue.count.toNat, Filled queue.mtu slot

theorem Filled.length_packet {mtu : UInt32} {slot : PacketSlot} (h : Filled mtu slot) :
    slot.packet.length = slot.length.toNat := by
  have hwithin := h.within
  rw [PacketSlot.packet, List.length_take, slot.bytes.property]
  omega

theorem Filled.load {mtu : UInt32} {slot : PacketSlot} (h : Filled mtu slot) :
    load slot.bytes.val 0 slot.length.toNat = some slot.packet := by
  have hwithin := h.within
  rw [load_eq (by rw [slot.bytes.property]; omega), List.drop_zero, PacketSlot.packet]

theorem index_eq (queue : PacketQueue) (offset : UInt16) :
    ∃ word, queue.index offset = some word ∧
      word.toNat = (queue.head.toNat + offset.toNat) % abiMaxPackets := by
  have hlt : (queue.head.toNat + offset.toNat) % abiMaxPackets < 64 := Nat.mod_lt _ (by decide)
  exact u16Checked_of_lt _ (by omega)

theorem copyPacket_spec (bytes : Block abiMaxPacketSize) (packet : Bytes)
    (h : packet.length ≤ abiMaxPacketSize) :
    ∃ copied, copyPacket bytes packet = some copied ∧ copied.val.take packet.length = packet :=
  ⟨_, dif_pos h, List.take_left⟩

theorem setSlot_eq (queue : PacketQueue) {slotIndex : UInt16} (slot : PacketSlot)
    (h : slotIndex.toNat < abiMaxPackets) :
    ∃ after, queue.setSlot slotIndex slot = some after ∧ after.slots = queue.slots.set slotIndex.toNat slot ∧
      after.mtu = queue.mtu ∧ after.head = queue.head ∧ after.count = queue.count :=
  ⟨_, if_pos h, rfl, rfl, rfl, rfl⟩

/-- The longest prefix of the packets that a batch of the capacity can hold -/
structure Longest (capacity maximum : Nat) (packets : List Bytes) (count : Nat) : Prop where
  positive : 0 < count
  within : count ≤ packets.length
  limited : count ≤ maximum
  fits : batchLength (packets.take count) ≤ capacity
  longest : ∀ other ≤ packets.length, other ≤ maximum → batchLength (packets.take other) ≤ capacity →
    other ≤ count

theorem batchLength_take_mono (packets : List Bytes) {first second : Nat} (h : first ≤ second) :
    batchLength (packets.take first) ≤ batchLength (packets.take second) := by
  have hsub : (packets.take first).Sublist (packets.take second) := List.take_sublist_take_left h
  have hlength := hsub.length_le
  have hflat := hsub.flatten.length_le
  unfold batchLength
  omega

/-- A batch that a queue with some packets takes -/
structure Pushable (mtu : UInt32) (packets : List Bytes) (payload : Bytes) (payloadLength : UInt32)
    (count : UInt16) : Prop where
  batch : validatePacketBatchForMtu payload payloadLength mtu = some (.valid, some count)
  valid : ∀ packet ∈ batchPackets payload count.toNat, IsPacket mtu.toNat packet
  room : packets.length + count.toNat ≤ abiMaxPackets

namespace Sound

variable {queue : PacketQueue}

theorem valid (h : Sound queue) : queue.valid = true := by
  simp only [PacketQueue.valid, Bool.and_eq_true, decide_eq_true_eq]
  exact ⟨⟨⟨h.minimum, h.maximum⟩, h.head_lt⟩, h.count_le⟩

theorem length_packets (h : Sound queue) : queue.packets.length = queue.count.toNat := by
  have hcount := h.count_le
  rw [PacketQueue.packets, List.length_map, length_contents (by rw [queue.slots_length]; exact hcount)]

theorem isPacket (h : Sound queue) : ∀ packet ∈ queue.packets, IsPacket queue.mtu.toNat packet := by
  intro packet hpacket
  obtain ⟨slot, hslot, rfl⟩ := List.mem_map.mp hpacket
  exact (h.filled slot hslot).packet

/-- The slot of a packet of the queue. -/
theorem slot_at (h : Sound queue) (offset : UInt16) (hoffset : offset.toNat < queue.count.toNat) :
    ∃ word slot, queue.index offset = some word ∧ word.toNat < abiMaxPackets ∧
      word.toNat = (queue.head.toNat + offset.toNat) % queue.slots.length ∧
      queue.slots[word.toNat]? = some slot ∧ queue.packets[offset.toNat]? = some slot.packet ∧
      Filled queue.mtu slot := by
  obtain ⟨word, hword, hvalue⟩ := index_eq queue offset
  have hcount : queue.count.toNat ≤ queue.slots.length := by
    rw [queue.slots_length]
    exact h.count_le
  have hlt : word.toNat < abiMaxPackets := by
    rw [hvalue]
    exact Nat.mod_lt _ (by decide)
  rw [← queue.slots_length] at hvalue
  have hcontents := getElem?_contents queue.head.toNat hoffset hcount
  obtain ⟨slot, hget⟩ : ∃ slot, queue.slots[word.toNat]? = some slot :=
    ⟨_, List.getElem?_eq_getElem (by rw [queue.slots_length]; exact hlt)⟩
  rw [← hvalue, hget] at hcontents
  refine ⟨word, slot, hword, hlt, hvalue, hget, ?_, h.filled _ (List.mem_of_getElem? hcontents)⟩
  rw [PacketQueue.packets, List.getElem?_map, hcontents, Option.map_some]

theorem push_ok (h : Sound queue) {bytes : Bytes} {length : UInt32}
    (hbacked : length.toNat ≤ bytes.length)
    (hpacket : IsPacket queue.mtu.toNat (bytes.take length.toNat))
    (hroom : queue.packets.length < abiMaxPackets) :
    ∃ after, queue.push (some bytes) length = some (.ok, after) ∧ Sound after ∧ after.mtu = queue.mtu ∧
      after.packets = queue.packets ++ [bytes.take length.toNat] := by
  rw [h.length_packets] at hroom
  have hcount : queue.count.toNat < 64 := hroom
  have hmaximum : queue.mtu.toNat ≤ 9000 := h.maximum
  have hlength : length.toNat ≤ 9000 := by
    have hle := hpacket.maximum
    rw [List.length_take] at hle
    omega
  obtain ⟨status, hstatus, hiff⟩ := validateIpv4Packet_spec queue.mtu hbacked
  obtain rfl := hiff.mpr hpacket
  obtain ⟨tail, htail, htailValue⟩ := index_eq queue queue.count
  have htailLt : tail.toNat < abiMaxPackets := by
    rw [htailValue]
    exact Nat.mod_lt _ (by decide)
  obtain ⟨slot, hslot⟩ : ∃ slot, queue.slots[tail.toNat]? = some slot :=
    ⟨_, List.getElem?_eq_getElem (by rw [queue.slots_length]; exact htailLt)⟩
  have hload : load bytes 0 length.toNat = some (bytes.take length.toNat) := by
    rw [load_eq (by omega), List.drop_zero]
  have htaken : (bytes.take length.toNat).length = length.toNat := by
    rw [List.length_take]
    omega
  obtain ⟨copied, hcopied, hcopiedValue⟩ :=
    copyPacket_spec slot.bytes (bytes.take length.toNat) (by rw [htaken]; exact hlength)
  rw [htaken] at hcopiedValue
  obtain ⟨count, hcountWord, hcountValue⟩ := u16Checked_of_lt (queue.count.toNat + 1) (by omega)
  obtain ⟨pushed, hpushed, hslots, hmtu, hhead, _⟩ :=
    setSlot_eq queue ⟨length, copied⟩ htailLt
  rw [← queue.slots_length] at htailValue
  have hcontents : contents pushed.slots queue.head.toNat (queue.count.toNat + 1) =
      contents queue.slots queue.head.toNat queue.count.toNat ++ [⟨length, copied⟩] := by
    rw [hslots, htailValue]
    exact contents_push _ (by rw [queue.slots_length]; exact hroom)
  refine ⟨{ pushed with count := count }, ?_, ⟨?_, ?_, ?_, ?_, ?_⟩, hmtu, ?_⟩
  · have hfree : queue.count.toNat ≠ abiMaxPackets := by omega
    simp [PacketQueue.push, h.valid, hstatus, hfree, htail, hslot, hload, hcopied, hcountWord, hpushed]
  · exact hmtu ▸ h.minimum
  · exact hmtu ▸ h.maximum
  · exact hhead ▸ h.head_lt
  · show count.toNat ≤ 64
    omega
  · intro other hother
    have hother : other ∈ contents pushed.slots pushed.head.toNat count.toNat := hother
    rw [hhead, hcountValue, hcontents] at hother
    show Filled pushed.mtu other
    rw [hmtu]
    rcases List.mem_append.mp hother with hold | hnew
    · exact h.filled other hold
    · rw [List.mem_singleton.mp hnew]
      exact ⟨hlength, by rw [PacketSlot.packet, hcopiedValue]; exact hpacket⟩
  · show (contents pushed.slots pushed.head.toNat count.toNat).map PacketSlot.packet = _
    rw [hhead, hcountValue, hcontents, List.map_append, List.map_singleton, PacketSlot.packet, hcopiedValue]
    rfl

theorem push_refused (h : Sound queue) {bytes : Bytes} {length : UInt32}
    (hbacked : length.toNat ≤ bytes.length)
    (hrefused : ¬(IsPacket queue.mtu.toNat (bytes.take length.toNat) ∧ queue.packets.length < abiMaxPackets)) :
    ∃ status, queue.push (some bytes) length = some (status, queue) ∧ status ≠ .ok := by
  obtain ⟨status, hstatus, hiff⟩ := validateIpv4Packet_spec queue.mtu hbacked
  by_cases hok : status = .ok
  · have hfull : queue.count.toNat = abiMaxPackets := by
      by_contra hne
      refine hrefused ⟨hiff.mp hok, ?_⟩
      have hle := h.count_le
      rw [h.length_packets]
      omega
    exact ⟨.full, by simp [PacketQueue.push, h.valid, hstatus, hok, hfull], by simp⟩
  · exact ⟨.badPacket, by simp [PacketQueue.push, h.valid, hstatus, hok], by simp⟩

/-- A slot of the packets taken can be zeroed. -/
theorem contents_zeroed {slots : List PacketSlot} {position taken count : Nat} (head : Nat)
    (hslots : slots.length = abiMaxPackets) (hposition : position < taken) (htaken : taken ≤ count)
    (hcount : count ≤ abiMaxPackets) :
    contents (slots.set ((head + position) % abiMaxPackets) .zeroed) ((head + taken) % abiMaxPackets)
        (count - taken) =
      contents slots ((head + taken) % abiMaxPackets) (count - taken) := by
  have hlimit : count ≤ 64 := hcount
  have hlength : slots.length = 64 := hslots
  have hsame : (head + position) % 64 = ((head + taken) % 64 + (64 - taken + position)) % slots.length := by
    rw [hlength]
    omega
  have hmax : abiMaxPackets = 64 := rfl
  rw [hmax, hsame]
  exact contents_set_free _ (by omega) (by omega)

theorem zeroPackets_spec (queue : PacketQueue) {remaining : Nat} (packetIndex : UInt16)
    (zeroed : PacketQueue) {taken : Nat} (hindex : packetIndex.toNat + remaining = taken) (htaken : taken ≤ queue.count.toNat)
    (hcount : queue.count.toNat ≤ abiMaxPackets) (hhead : zeroed.head = queue.head)
    (hmtu : zeroed.mtu = queue.mtu)
    (hkept : contents zeroed.slots ((queue.head.toNat + taken) % abiMaxPackets) (queue.count.toNat - taken) =
      contents queue.slots ((queue.head.toNat + taken) % abiMaxPackets) (queue.count.toNat - taken)) :
    ∃ after, PacketQueue.zeroPackets remaining packetIndex zeroed = some after ∧ after.mtu = queue.mtu ∧
      contents after.slots ((queue.head.toNat + taken) % abiMaxPackets) (queue.count.toNat - taken) =
        contents queue.slots ((queue.head.toNat + taken) % abiMaxPackets) (queue.count.toNat - taken) := by
  induction remaining generalizing packetIndex zeroed with
  | zero => exact ⟨zeroed, rfl, hmtu, hkept⟩
  | succ remaining ih =>
    have hlimit : queue.count.toNat ≤ 64 := hcount
    obtain ⟨word, hword, hvalue⟩ := index_eq zeroed packetIndex
    have hlt : word.toNat < abiMaxPackets := by
      rw [hvalue]
      exact Nat.mod_lt _ (by decide)
    obtain ⟨after, hafter, hslots, hafterMtu, hafterHead, _⟩ := setSlot_eq zeroed .zeroed hlt
    obtain ⟨next, hnext, hnextValue⟩ := u16Checked_of_lt (packetIndex.toNat + 1) (by omega)
    have hstep : contents after.slots ((queue.head.toNat + taken) % abiMaxPackets) (queue.count.toNat - taken) =
        contents queue.slots ((queue.head.toNat + taken) % abiMaxPackets) (queue.count.toNat - taken) := by
      rw [hslots, hvalue, hhead, contents_zeroed _ zeroed.slots_length (by omega) htaken hcount]
      exact hkept
    obtain ⟨final, hfinal, hrest⟩ := ih next after (by omega)
      (hafterHead.trans hhead) (hafterMtu.trans hmtu) hstep
    refine ⟨final, ?_, hrest⟩
    simp [PacketQueue.zeroPackets, hword, hafter, hnext, hfinal]

/-- The queue without its first packets. -/
theorem dropped (h : Sound queue) (after : PacketQueue) {taken : Nat} (htaken : taken ≤ queue.count.toNat)
    (hmtu : after.mtu = queue.mtu) (hhead : after.head.toNat = (queue.head.toNat + taken) % abiMaxPackets)
    (hcount : after.count.toNat = queue.count.toNat - taken)
    (hkept : contents after.slots ((queue.head.toNat + taken) % abiMaxPackets) (queue.count.toNat - taken) =
      contents queue.slots ((queue.head.toNat + taken) % abiMaxPackets) (queue.count.toNat - taken)) :
    Sound after ∧ after.packets = queue.packets.drop taken := by
  have hle := h.count_le
  have hdrop : contents after.slots after.head.toNat after.count.toNat =
      (contents queue.slots queue.head.toNat queue.count.toNat).drop taken := by
    rw [hhead, hcount, hkept, ← queue.slots_length]
    exact contents_drop htaken (by rw [queue.slots_length]; exact hle)
  refine ⟨⟨hmtu ▸ h.minimum, hmtu ▸ h.maximum, ?_, by omega, fun slot hslot => ?_⟩, ?_⟩
  · rw [hhead]
    exact Nat.mod_lt _ (by decide)
  · rw [hdrop] at hslot
    rw [hmtu]
    exact h.filled slot (List.mem_of_mem_drop hslot)
  · rw [PacketQueue.packets, hdrop, List.map_drop, PacketQueue.packets]

theorem pop_spec (h : Sound queue) {memory : Bytes} {capacity : UInt32}
    (hbacked : capacity.toNat ≤ memory.length) :
    (∃ status, queue.pop (some memory) capacity true = some (status, none, queue) ∧ status ≠ .ok ∧
      ∀ packet rest, queue.packets = packet :: rest → capacity.toNat < packet.length) ∨
    ∃ packet rest length after, queue.packets = packet :: rest ∧ packet.length ≤ capacity.toNat ∧
      length.toNat = packet.length ∧
      queue.pop (some memory) capacity true =
        some (.ok, some (packet ++ memory.drop packet.length, length), after) ∧
      Sound after ∧ after.mtu = queue.mtu ∧ after.packets = rest := by
  have hlength := h.length_packets
  have hle : queue.count.toNat ≤ 64 := h.count_le
  have hhead : queue.head.toNat < 64 := h.head_lt
  by_cases hzero : queue.count = 0
  · refine Or.inl ⟨.empty, by simp [PacketQueue.pop, h.valid, hzero], by simp, ?_⟩
    intro packet rest hpackets
    rw [hpackets, hzero] at hlength
    exact absurd hlength (by simp)
  · have hpositive := u16_pos hzero
    obtain ⟨word, slot, _, hlt, hvalue, hslot, hpacket, hfilled⟩ := h.slot_at 0 hpositive
    have hword : word = queue.head := by
      refine UInt16.toNat_inj.mp ?_
      rw [hvalue, queue.slots_length]
      exact Nat.mod_eq_of_lt hhead
    rw [hword] at hslot hlt
    obtain ⟨packet, rest, hpackets⟩ : ∃ packet rest, queue.packets = packet :: rest :=
      List.exists_cons_of_length_pos (by omega)
    have hfirst : packet = slot.packet := by
      rw [hpackets] at hpacket
      exact Option.some.inj hpacket
    have hsize := hfilled.length_packet
    by_cases hsmall : capacity < slot.length
    · refine Or.inl ⟨.bufferTooSmall, by simp [PacketQueue.pop, h.valid, hzero, hslot, hsmall], by simp, ?_⟩
      intro other others hother
      have hgt := UInt32.lt_iff_toNat_lt.mp hsmall
      rw [hpackets] at hother
      rw [← (List.cons.inj hother).1, hfirst]
      omega
    · have hfits := UInt32.le_iff_toNat_le.mp (UInt32.not_lt.mp hsmall)
      obtain ⟨popped, hpopped, hslots, hmtu, _, _⟩ := setSlot_eq queue .zeroed hlt
      obtain ⟨head, hheadWord, hheadValue⟩ := index_eq queue 1
      obtain ⟨count, hcountWord, hcountValue⟩ := u16Checked_of_lt (queue.count.toNat - 1) (by omega)
      have hstore : store memory 0 slot.packet = some (slot.packet ++ memory.drop slot.packet.length) := by
        rw [store, if_pos (by omega), List.take_zero, List.nil_append, Nat.zero_add]
      have hfirstSlot : (queue.head.toNat + 0) % abiMaxPackets = queue.head.toNat := Nat.mod_eq_of_lt hhead
      have hkept : contents popped.slots ((queue.head.toNat + 1) % abiMaxPackets) (queue.count.toNat - 1) =
          contents queue.slots ((queue.head.toNat + 1) % abiMaxPackets) (queue.count.toNat - 1) := by
        have hfree := contents_zeroed queue.head.toNat queue.slots_length Nat.one_pos hpositive h.count_le
        rw [hfirstSlot] at hfree
        rw [hslots]
        exact hfree
      obtain ⟨hsound, hafter⟩ := h.dropped { popped with head := head, count := count }
        hpositive hmtu hheadValue hcountValue hkept
      rw [hfirst] at hpackets
      refine Or.inr ⟨slot.packet, rest, slot.length, _, hpackets, by omega, by omega, ?_, hsound, hmtu, ?_⟩
      · simp [PacketQueue.pop, h.valid, hzero, hslot, hsmall, hfilled.load, hstore, hpopped, hheadWord,
          hcountWord]
      · rw [hafter, hpackets]
        rfl

theorem flatten_take_lt (h : Sound queue) (taken : Nat) : (queue.packets.take taken).flatten.length < 600000 := by
  have hcount : queue.packets.length ≤ 64 := h.length_packets ▸ h.count_le
  have hmaximum : queue.mtu.toNat ≤ 9000 := h.maximum
  have hflat := flatten_length_le fun packet (hpacket : packet ∈ queue.packets.take taken) =>
    (h.isPacket packet (List.mem_of_mem_take hpacket)).maximum
  have htaken : (queue.packets.take taken).length ≤ 64 := by
    rw [List.length_take]
    omega
  have hbound := Nat.mul_le_mul htaken hmaximum
  omega

/-- The loop selects packets as long as there are some and they fit. -/
theorem measurePackets_spec (h : Sound queue) (capacity : UInt32) (maximum : UInt16) (turns : Nat)
    (selected : UInt16) (bytes : UInt32) (hturns : selected.toNat + turns = queue.count.toNat)
    (hmaximum : selected.toNat ≤ maximum.toNat)
    (hbytes : bytes.toNat = (queue.packets.take selected.toNat).flatten.length)
    (hfits : selected.toNat = 0 ∨ batchLength (queue.packets.take selected.toNat) ≤ capacity.toNat) :
    ∃ count total, queue.measurePackets capacity maximum turns selected bytes = some (count, total) ∧
      count.toNat ≤ queue.count.toNat ∧ count.toNat ≤ maximum.toNat ∧
      total.toNat = (queue.packets.take count.toNat).flatten.length ∧
      (count.toNat = 0 ∨ batchLength (queue.packets.take count.toNat) ≤ capacity.toNat) ∧
      (count.toNat = queue.count.toNat ∨ count.toNat = maximum.toNat ∨
        capacity.toNat < batchLength (queue.packets.take (count.toNat + 1))) := by
  induction turns generalizing selected bytes with
  | zero => exact ⟨selected, bytes, rfl, by omega, hmaximum, hbytes, hfits, by omega⟩
  | succ turns ih =>
    have hlength := h.length_packets
    have hcount : queue.count.toNat ≤ 64 := h.count_le
    unfold PacketQueue.measurePackets
    by_cases hmore : selected < queue.count ∧ selected < maximum
    · have hless := UInt16.lt_iff_toNat_lt.mp hmore.1
      have hallowed := UInt16.lt_iff_toNat_lt.mp hmore.2
      obtain ⟨word, slot, hword, _, _, hslot, hpacket, hfilled⟩ := h.slot_at selected hless
      have hsize := hfilled.length_packet
      have htake : queue.packets.take (selected.toNat + 1) =
          queue.packets.take selected.toNat ++ [slot.packet] := by
        rw [List.take_add_one, hpacket, Option.toList_some]
      have hflat := h.flatten_take_lt (selected.toNat + 1)
      have htotal : (queue.packets.take (selected.toNat + 1)).flatten.length =
          bytes.toNat + slot.length.toNat := by
        rw [htake, List.flatten_append, List.length_append, hbytes, List.flatten_singleton, hsize]
      have hbatch : batchLength (queue.packets.take (selected.toNat + 1)) =
          8 + (selected.toNat + 1) * 8 + bytes.toNat + slot.length.toNat := by
        rw [batchLength, htotal, List.length_take, Nat.min_eq_left (by omega)]
        omega
      obtain ⟨candidates, hcandidates, hcandidatesValue⟩ := u32Checked_of_lt (selected.toNat + 1) (by omega)
      obtain ⟨length, hlengthWord, hlengthValue⟩ :=
        u32Checked_of_lt (8 + candidates.toNat * 8 + bytes.toNat + slot.length.toNat) (by omega)
      simp only [if_pos hmore, hword, hcandidates, hslot, hlengthWord, Option.bind_eq_bind, Option.bind_some]
      split
      next hlong =>
        have hgt := UInt32.lt_iff_toNat_lt.mp hlong
        exact ⟨selected, bytes, rfl, by omega, hmaximum, hbytes, hfits, by omega⟩
      next hshort =>
        have hle := UInt32.le_iff_toNat_le.mp (UInt32.not_lt.mp hshort)
        obtain ⟨total, htotalWord, htotalValue⟩ :=
          u32Checked_of_lt (bytes.toNat + slot.length.toNat) (by omega)
        obtain ⟨next, hnext, hnextValue⟩ := u16Checked_of_lt (selected.toNat + 1) (by omega)
        rw [htotalWord, Option.bind_some, hnext, Option.bind_some]
        refine ih next total (by omega) (by omega) ?_ (Or.inr ?_)
        · rw [hnextValue, htotal, htotalValue]
        · rw [hnextValue, hbatch]
          omega
    · rw [if_neg hmore]
      refine ⟨selected, bytes, rfl, by omega, hmaximum, hbytes, hfits, ?_⟩
      by_cases hless : selected < queue.count
      · have hdone : ¬selected < maximum := fun hlt => hmore ⟨hless, hlt⟩
        have hge := UInt16.le_iff_toNat_le.mp (UInt16.not_lt.mp hdone)
        omega
      · have hge := UInt16.le_iff_toNat_le.mp (UInt16.not_lt.mp hless)
        omega

theorem measureBatch_spec (h : Sound queue) (capacity : UInt32) (maximum : UInt16) (outputs : Bool) :
    (∃ status, queue.measureBatch capacity maximum outputs = some (status, none) ∧ status ≠ .ok ∧
      ¬(outputs = true ∧ maximum.toNat ≤ abiMaxPackets ∧
        ∃ count, Longest capacity.toNat maximum.toNat queue.packets count)) ∨
    ∃ length count, queue.measureBatch capacity maximum outputs = some (.ok, some (length, count)) ∧
      outputs = true ∧ maximum.toNat ≤ abiMaxPackets ∧
      length.toNat = batchLength (queue.packets.take count.toNat) ∧
      Longest capacity.toNat maximum.toNat queue.packets count.toNat := by
  have hlength := h.length_packets
  have hcountLe : queue.count.toNat ≤ 64 := h.count_le
  by_cases harguments : outputs = true ∧ maximum ≠ 0 ∧ maximum.toNat ≤ abiMaxPackets
  · obtain ⟨rfl, hmaximum, hlimit⟩ := harguments
    have hpositive := u16_pos hmaximum
    have hnot : ¬maximum.toNat > abiMaxPackets := by omega
    by_cases hempty : queue.count = 0
    · refine Or.inl ⟨.empty, by simp [PacketQueue.measureBatch, h.valid, hmaximum, hnot, hempty], by simp, ?_⟩
      rintro ⟨_, _, count, hlongest⟩
      have hfirst := hlongest.positive
      have hwithin := hlongest.within
      rw [hlength, hempty] at hwithin
      have hzero : (0 : UInt16).toNat = 0 := rfl
      omega
    · obtain ⟨count, total, hmeasured, hcount, hmax, htotal, hfits, hend⟩ := h.measurePackets_spec capacity
        maximum queue.count.toNat 0 0 (Nat.zero_add _) (Nat.zero_le _) rfl (Or.inl rfl)
      have hsome := u16_pos hempty
      have hlongest : ∀ other ≤ queue.packets.length, other ≤ maximum.toNat →
          batchLength (queue.packets.take other) ≤ capacity.toNat → other ≤ count.toNat := by
        intro other hwithin hother hotherFits
        by_contra hgt
        have hmono := batchLength_take_mono queue.packets (show count.toNat + 1 ≤ other by omega)
        omega
      by_cases hnone : count = 0
      · refine Or.inl ⟨.bufferTooSmall, ?_, by simp, ?_⟩
        · simp [PacketQueue.measureBatch, h.valid, hmaximum, hnot, hempty, hmeasured, hnone]
        · rintro ⟨_, _, other, hother⟩
          have hle := hlongest other hother.within hother.limited hother.fits
          have hfirst := hother.positive
          rw [hnone] at hle
          have hzero : (0 : UInt16).toNat = 0 := rfl
          omega
      · have hcountPositive : 0 < count.toNat := by
          rcases Nat.eq_zero_or_pos count.toNat with hzero | hpos
          · exact absurd (UInt16.toNat_inj.mp (hzero.trans rfl)) hnone
          · exact hpos
        have hflat := h.flatten_take_lt count.toNat
        have hbatch : batchLength (queue.packets.take count.toNat) = 8 + count.toNat * 8 + total.toNat := by
          rw [batchLength, htotal, List.length_take, Nat.min_eq_left (by omega)]
        obtain ⟨length, hlengthWord, hlengthValue⟩ :=
          u32Checked_of_lt (8 + count.toNat * 8 + total.toNat) (by omega)
        refine Or.inr ⟨length, count, ?_, rfl, hlimit, by omega,
          ⟨hcountPositive, by omega, hmax, by omega, hlongest⟩⟩
        simp [PacketQueue.measureBatch, h.valid, hmaximum, hnot, hempty, hmeasured, hnone, hlengthWord]
  · refine Or.inl ⟨.invalidArgument, ?_, by simp, ?_⟩
    · refine if_pos ?_
      simp only [Bool.or_eq_true, Bool.not_eq_true', decide_eq_true_eq]
      by_contra hall
      simp only [not_or, Bool.not_eq_false, not_lt, gt_iff_lt] at hall
      exact harguments ⟨hall.1.1.2, hall.1.2, hall.2⟩
    · rintro ⟨houtputs, hlimit, count, hlongest⟩
      refine harguments ⟨houtputs, ?_, hlimit⟩
      rintro rfl
      have hfirst := hlongest.positive
      have hlast := hlongest.limited
      have hzero : (0 : UInt16).toNat = 0 := rfl
      omega

theorem split_room {junk : Bytes} {remaining : Nat} (h : junk.length = (remaining + 1) * 8) :
    ∃ first second third : Bytes, junk = first ++ second ++ third ∧ first.length = 4 ∧ second.length = 4 ∧
      third.length = remaining * 8 := by
  refine ⟨junk.take 4, (junk.drop 4).take 4, junk.drop 8, ?_, ?_, ?_, ?_⟩
  · rw [List.append_assoc, show junk.drop 8 = (junk.drop 4).drop 4 by rw [List.drop_drop],
      List.take_append_drop, List.take_append_drop]
  · rw [List.length_take]
    omega
  · rw [List.length_take, List.length_drop]
    omega
  · rw [List.length_drop]
    omega

/-- The descriptors and the data of the first packets are written, with room between them for the other
descriptors. -/
theorem writePackets_spec (h : Sound queue) {total remaining : Nat} (packetIndex : UInt16)
    (dataOffset : UInt32) (header junk memory : Bytes) (hindex : packetIndex.toNat + remaining = total)
    (htotal : total ≤ queue.count.toNat) (hheader : header.length = 8)
    (hjunk : junk.length = remaining * 8)
    (hmemory : batchLength (queue.packets.take total) ≤ memory.length)
    (hoffset : dataOffset.toNat = 8 + total * 8 + (queue.packets.take packetIndex.toNat).flatten.length) :
    queue.writePackets remaining packetIndex dataOffset
        (header ++ descriptorsOf (8 + total * 8) (queue.packets.take packetIndex.toNat) ++ junk ++
          (queue.packets.take packetIndex.toNat).flatten ++ memory.drop dataOffset.toNat) =
      some (header ++ descriptorsOf (8 + total * 8) (queue.packets.take total) ++
        (queue.packets.take total).flatten ++ memory.drop (batchLength (queue.packets.take total))) := by
  have hlength := h.length_packets
  have hcount : queue.count.toNat ≤ 64 := h.count_le
  have hwhole : (queue.packets.take total).length = total := by
    rw [List.length_take]
    omega
  induction remaining generalizing packetIndex dataOffset junk with
  | zero =>
    obtain rfl : junk = [] := List.length_eq_zero_iff.mp (by omega)
    have hlast : packetIndex.toNat = total := by omega
    rw [hlast] at hoffset
    rw [hlast, hoffset, List.append_nil, PacketQueue.writePackets, batchLength, hwhole]
  | succ remaining ih =>
    obtain ⟨word, slot, hword, _, _, hslot, hpacket, hfilled⟩ :=
      h.slot_at packetIndex (by omega)
    have hsize := hfilled.length_packet
    have htake : queue.packets.take (packetIndex.toNat + 1) =
        queue.packets.take packetIndex.toNat ++ [slot.packet] := by
      rw [List.take_add_one, hpacket, Option.toList_some]
    have hdone : (queue.packets.take packetIndex.toNat).length = packetIndex.toNat := by
      rw [List.length_take]
      omega
    have hflat := h.flatten_take_lt (packetIndex.toNat + 1)
    have hsum : (queue.packets.take (packetIndex.toNat + 1)).flatten.length =
        (queue.packets.take packetIndex.toNat).flatten.length + slot.packet.length := by
      rw [htake, List.flatten_append, List.length_append, List.flatten_singleton]
    have hroom := batchLength_take_mono queue.packets (show packetIndex.toNat + 1 ≤ total by omega)
    obtain ⟨first, second, third, rfl, hfirst, hsecond, hthird⟩ := split_room hjunk
    obtain ⟨front, hfront⟩ : ∃ front, front =
        header ++ descriptorsOf (8 + total * 8) (queue.packets.take packetIndex.toNat) := ⟨_, rfl⟩
    obtain ⟨data, hdata⟩ : ∃ data, data = (queue.packets.take packetIndex.toNat).flatten := ⟨_, rfl⟩
    have hfrontLength : front.length = 8 + packetIndex.toNat * 8 := by
      rw [hfront, List.length_append, hheader, length_descriptorsOf, hdone]
    have hlate : slot.packet.length ≤ (memory.drop dataOffset.toNat).length := by
      have hnext : (queue.packets.take (packetIndex.toNat + 1)).length = packetIndex.toNat + 1 := by
        rw [List.length_take]
        omega
      have hlonger : (queue.packets.take (packetIndex.toNat + 1)).flatten.length ≤
          (queue.packets.take total).flatten.length :=
        (List.take_sublist_take_left (by omega)).flatten.length_le
      rw [batchLength, hwhole] at hmemory
      rw [List.length_drop]
      omega
    obtain ⟨descriptor, hdescriptor, hdescriptorValue⟩ :=
      u32Checked_of_lt (packetIndex.toNat * 8) (by omega)
    have hstart : 8 + descriptor.toNat = front.length := by omega
    have hstoreOffset := store_append front first (leBytes 4 dataOffset.toNat)
      (second ++ third ++ data ++ memory.drop dataOffset.toNat) (by simp [hfirst])
    have hstoreLength := store_append (front ++ leBytes 4 dataOffset.toNat) second
      (leBytes 4 slot.length.toNat) (third ++ data ++ memory.drop dataOffset.toNat)
      (by simp [hsecond])
    have hstorePacket := store_append
      (front ++ leBytes 4 dataOffset.toNat ++ leBytes 4 slot.length.toNat ++ third ++ data)
      ((memory.drop dataOffset.toNat).take slot.packet.length) slot.packet
      ((memory.drop dataOffset.toNat).drop slot.packet.length) (by rw [List.length_take]; omega)
    have hmiddle : (front ++ leBytes 4 dataOffset.toNat).length = 8 + descriptor.toNat + 4 := by
      rw [List.length_append, length_leBytes, hstart]
    have hend : (front ++ leBytes 4 dataOffset.toNat ++ leBytes 4 slot.length.toNat ++ third ++ data).length =
        dataOffset.toNat := by
      simp only [List.length_append, length_leBytes, hfrontLength, hthird, hdata, hoffset]
      omega
    rw [← hstart] at hstoreOffset
    rw [hmiddle] at hstoreLength
    rw [hend] at hstorePacket
    obtain ⟨nextOffset, hnextOffset, hnextOffsetValue⟩ :=
      u32Checked_of_lt (dataOffset.toNat + slot.length.toNat) (by omega)
    obtain ⟨next, hnext, hnextValue⟩ := u16Checked_of_lt (packetIndex.toNat + 1) (by omega)
    have hrest := ih next nextOffset third (by omega) hthird (by
      rw [hnextValue, hsum, hnextOffsetValue, hoffset, hsize, Nat.add_assoc])
    rw [← hrest, PacketQueue.writePackets]
    simp only [hword, hdescriptor, hslot, hnextOffset, hnext, hfilled.load, Option.bind_eq_bind,
      Option.bind_some, writeU32]
    have hbefore : header ++ descriptorsOf (8 + total * 8) (queue.packets.take packetIndex.toNat) ++
          (first ++ second ++ third) ++ (queue.packets.take packetIndex.toNat).flatten ++
          memory.drop dataOffset.toNat =
        front ++ first ++ (second ++ third ++ data ++ memory.drop dataOffset.toNat) := by
      rw [hfront, hdata]
      simp only [List.append_assoc]
    have hshift : front ++ leBytes 4 dataOffset.toNat ++
          (second ++ third ++ data ++ memory.drop dataOffset.toNat) =
        front ++ leBytes 4 dataOffset.toNat ++ second ++
          (third ++ data ++ memory.drop dataOffset.toNat) := by
      simp only [List.append_assoc]
    have hopen : front ++ leBytes 4 dataOffset.toNat ++ leBytes 4 slot.length.toNat ++
          (third ++ data ++ memory.drop dataOffset.toNat) =
        front ++ leBytes 4 dataOffset.toNat ++ leBytes 4 slot.length.toNat ++ third ++ data ++
          (memory.drop dataOffset.toNat).take slot.packet.length ++
          (memory.drop dataOffset.toNat).drop slot.packet.length := by
      rw [List.append_assoc _ (List.take _ _), List.take_append_drop]
      simp only [List.append_assoc]
    have hafter : header ++ descriptorsOf (8 + total * 8) (queue.packets.take next.toNat) ++ third ++
          (queue.packets.take next.toNat).flatten ++ memory.drop nextOffset.toNat =
        front ++ leBytes 4 dataOffset.toNat ++ leBytes 4 slot.length.toNat ++ third ++ data ++ slot.packet ++
          (memory.drop dataOffset.toNat).drop slot.packet.length := by
      rw [hnextValue, htake, descriptorsOf_append, hnextOffsetValue, List.drop_drop, hsize, hfront, hdata,
        ← hoffset, List.flatten_append, List.flatten_singleton]
      simp only [descriptorsOf, hsize, List.append_assoc, List.append_nil]
    rw [hbefore, hstoreOffset, Option.bind_some, hshift, hstoreLength, Option.bind_some, hopen, hstorePacket,
      Option.bind_some, hafter]

/-- The header of a batch is written to the front of a memory. -/
theorem writeHeader_spec (memory : Bytes) (count padding : UInt16) (descriptorLength : UInt32)
    (h : 8 ≤ memory.length) :
    ∃ first second, writeU16 memory 0 count = some first ∧ writeU16 first 2 padding = some second ∧
      writeU32 second 4 descriptorLength = some (leBytes 2 count.toNat ++ leBytes 2 padding.toNat ++
        leBytes 4 descriptorLength.toNat ++ memory.drop 8) := by
  have hfirst : writeU16 memory 0 count = some (leBytes 2 count.toNat ++ memory.drop 2) := by
    rw [writeU16, store, length_leBytes, if_pos (by omega), List.take_zero, List.nil_append]
  have hsecond := store_append (leBytes 2 count.toNat) ((memory.drop 2).take 2) (leBytes 2 padding.toNat)
    (memory.drop 4) (by
      rw [List.length_take, List.length_drop, length_leBytes]
      omega)
  have hthird := store_append (leBytes 2 count.toNat ++ leBytes 2 padding.toNat) ((memory.drop 4).take 4)
    (leBytes 4 descriptorLength.toNat) (memory.drop 8) (by
      rw [List.length_take, List.length_drop, length_leBytes]
      omega)
  rw [List.append_assoc, show memory.drop 4 = (memory.drop 2).drop 2 by rw [List.drop_drop],
    List.take_append_drop, length_leBytes] at hsecond
  rw [List.append_assoc _ (List.take _ _), show memory.drop 8 = (memory.drop 4).drop 4 by rw [List.drop_drop],
    List.take_append_drop, List.length_append, length_leBytes, length_leBytes] at hthird
  rw [List.drop_drop] at hsecond hthird
  exact ⟨_, _, hfirst, hsecond, hthird⟩

theorem popBatch_spec (h : Sound queue) {memory : Bytes} {capacity : UInt32} (maximum : UInt16)
    (outputs : Bool) (hbacked : capacity.toNat ≤ memory.length) :
    (∃ status, queue.popBatch (some memory) capacity maximum outputs = some (status, none, queue) ∧
      status ≠ .ok ∧ queue.measureBatch capacity maximum outputs = some (status, none) ∧
      ¬(outputs = true ∧ maximum.toNat ≤ abiMaxPackets ∧
        ∃ count, Longest capacity.toNat maximum.toNat queue.packets count)) ∨
    ∃ length count after, queue.popBatch (some memory) capacity maximum outputs =
        some (.ok, some (encodeBatch (queue.packets.take count.toNat) ++
          memory.drop (batchLength (queue.packets.take count.toNat)), length, count), after) ∧
      queue.measureBatch capacity maximum outputs = some (.ok, some (length, count)) ∧
      outputs = true ∧ maximum.toNat ≤ abiMaxPackets ∧
      length.toNat = batchLength (queue.packets.take count.toNat) ∧
      Longest capacity.toNat maximum.toNat queue.packets count.toNat ∧
      Sound after ∧ after.mtu = queue.mtu ∧ after.packets = queue.packets.drop count.toNat := by
  rcases h.measureBatch_spec capacity maximum outputs with
    ⟨status, hmeasured, hstatus, hnone⟩ | ⟨length, count, hmeasured, houtputs, hlimit, hlengthValue, hlongest⟩
  · refine Or.inl ⟨status, ?_, hstatus, hmeasured, hnone⟩
    cases houtputs : outputs with
    | false =>
      rw [houtputs] at hmeasured
      have hinvalid : queue.measureBatch capacity maximum false = some (.invalidArgument, none) := by
        simp [PacketQueue.measureBatch]
      rw [hinvalid] at hmeasured
      cases Option.some.inj hmeasured
      rfl
    | true =>
      rw [houtputs] at hmeasured
      simp [PacketQueue.popBatch, hmeasured]
  · refine Or.inr ⟨length, count, ?_⟩
    have hpackets := h.length_packets
    have hcountLe : queue.count.toNat ≤ 64 := h.count_le
    have hwithin := hlongest.within
    have hfits := hlongest.fits
    have htaken : (queue.packets.take count.toNat).length = count.toNat := by
      rw [List.length_take]
      omega
    have hbatch : 8 + count.toNat * 8 ≤ memory.length := by
      have hlong : 8 + count.toNat * 8 ≤ batchLength (queue.packets.take count.toNat) := by
        rw [batchLength, htaken]
        omega
      omega
    obtain ⟨descriptorLength, hdescriptor, hdescriptorValue⟩ := u32Checked_of_lt (count.toNat * 8) (by omega)
    obtain ⟨dataOffset, hoffset, hoffsetValue⟩ := u32Checked_of_lt (8 + count.toNat * 8) (by omega)
    obtain ⟨first, second, hfirst, hsecond, hthird⟩ := writeHeader_spec memory count 0 descriptorLength
      (by omega)
    have hjunk : ((memory.drop 8).take (count.toNat * 8)).length = count.toNat * 8 := by
      rw [List.length_take, List.length_drop]
      omega
    have hwritten := h.writePackets_spec 0 dataOffset (leBytes 2 count.toNat ++
        leBytes 2 (0 : UInt16).toNat ++ leBytes 4 descriptorLength.toNat) _ memory
      (Nat.zero_add count.toNat) (by omega) (by simp) hjunk (by omega) hoffsetValue
    have hstart : leBytes 2 count.toNat ++ leBytes 2 (0 : UInt16).toNat ++ leBytes 4 descriptorLength.toNat ++
          descriptorsOf (8 + count.toNat * 8) (queue.packets.take (0 : UInt16).toNat) ++
          (memory.drop 8).take (count.toNat * 8) ++ (queue.packets.take (0 : UInt16).toNat).flatten ++
          memory.drop dataOffset.toNat =
        leBytes 2 count.toNat ++ leBytes 2 (0 : UInt16).toNat ++ leBytes 4 descriptorLength.toNat ++
          memory.drop 8 := by
      rw [hoffsetValue, ← List.drop_drop]
      simp only [UInt16.toNat_zero, List.take_zero, descriptorsOf, List.flatten_nil, List.append_nil,
        List.append_assoc, List.take_append_drop]
    have hencoded : leBytes 2 count.toNat ++ leBytes 2 (0 : UInt16).toNat ++ leBytes 4 descriptorLength.toNat ++
          descriptorsOf (8 + count.toNat * 8) (queue.packets.take count.toNat) ++
          (queue.packets.take count.toNat).flatten =
        encodeBatch (queue.packets.take count.toNat) := by
      rw [encodeBatch, htaken, hdescriptorValue]
      rfl
    rw [hstart, hencoded] at hwritten
    obtain ⟨zeroed, hzeroed, hmtu, hkept⟩ := zeroPackets_spec queue 0 queue
      (Nat.zero_add count.toNat) (by omega) h.count_le rfl rfl rfl
    obtain ⟨head, hhead, hheadValue⟩ := index_eq queue count
    obtain ⟨left, hleft, hleftValue⟩ := u16Checked_of_lt (queue.count.toNat - count.toNat) (by omega)
    obtain ⟨hsound, hafter⟩ := h.dropped { zeroed with head := head, count := left }
      (by omega) hmtu hheadValue hleftValue hkept
    refine ⟨_, ?_, hmeasured, houtputs, hlimit, hlengthValue, hlongest, hsound, hmtu, hafter⟩
    rw [houtputs] at hmeasured ⊢
    simp only [PacketQueue.popBatch, Bool.not_true, Bool.false_eq_true, if_false, Option.bind_eq_bind,
      hmeasured, Option.bind_some, hfirst, hsecond, hdescriptor, hthird, hoffset, hwritten, hzeroed, hhead,
      hleft]

/-- The loop of a validation passes when every packet of the batch is a valid one. -/
theorem validatePackets_spec {payload : Bytes} (mtu : UInt32) {remaining : Nat} (packetIndex : UInt16)
    (hdescriptors : 8 + (packetIndex.toNat + remaining) * 8 ≤ payload.length)
    (hindex : packetIndex.toNat + remaining < 2 ^ 16)
    (hwithin : ∀ index, packetIndex.toNat ≤ index → index < packetIndex.toNat + remaining →
      offsetAt payload index + lengthAt payload index ≤ payload.length) :
    ∃ status, PacketQueue.validatePackets payload mtu remaining packetIndex = some status ∧
      (status = .ok ↔ ∀ packet ∈ (List.range' packetIndex.toNat remaining).map (packetAt payload),
        IsPacket mtu.toNat packet) := by
  induction remaining generalizing packetIndex with
  | zero => exact ⟨.ok, rfl, by simp⟩
  | succ remaining ih =>
    obtain ⟨packetOffset, packetLength, hread, hoffset, hlength⟩ :=
      readDescriptor_of_le payload packetIndex (by omega)
    have hfits := hwithin packetIndex.toNat (Nat.le_refl _) (by omega)
    obtain ⟨status, hstatus, hiff⟩ := validateIpv4Packet_spec mtu (show packetLength.toNat ≤
      (payload.drop packetOffset.toNat).length by rw [List.length_drop]; omega)
    have hpacket : (payload.drop packetOffset.toNat).take packetLength.toNat =
        packetAt payload packetIndex.toNat := by
      rw [packetAt, hoffset, hlength]
    rw [hpacket] at hiff
    obtain ⟨next, hnext, hnextValue⟩ := u16Checked_of_lt (packetIndex.toNat + 1) (by omega)
    simp only [List.range'_succ, List.map_cons, List.forall_mem_cons, ← hiff]
    by_cases hok : status = .ok
    · obtain ⟨final, hfinal, hrest⟩ := ih next (by omega) (by omega)
        fun index hle hlt => hwithin index (by omega) (by omega)
      refine ⟨final, ?_, ?_⟩
      · simp [PacketQueue.validatePackets, hread, hstatus, hok, hnext, hfinal]
      · rw [hrest, hnextValue]
        simp [hok]
    · refine ⟨.badPacket, ?_, ?_⟩
      · simp [PacketQueue.validatePackets, hread, hstatus, hok]
      · simp [hok]

/-- The loop of a push takes the packets of a batch whose packets are valid. -/
theorem pushPackets_spec {payload : Bytes} {remaining : Nat} (packetIndex : UInt16) (h : Sound queue)
    (hdescriptors : 8 + (packetIndex.toNat + remaining) * 8 ≤ payload.length)
    (hwithin : ∀ index, packetIndex.toNat ≤ index → index < packetIndex.toNat + remaining →
      offsetAt payload index + lengthAt payload index ≤ payload.length)
    (hpackets : ∀ packet ∈ (List.range' packetIndex.toNat remaining).map (packetAt payload),
      IsPacket queue.mtu.toNat packet)
    (hindex : packetIndex.toNat + remaining < 2 ^ 16)
    (hroom : queue.packets.length + remaining ≤ abiMaxPackets) :
    ∃ after, PacketQueue.pushPackets payload remaining packetIndex queue = some (.ok, after) ∧ Sound after ∧
      after.mtu = queue.mtu ∧ after.packets =
        queue.packets ++ (List.range' packetIndex.toNat remaining).map (packetAt payload) := by
  induction remaining generalizing packetIndex queue with
  | zero => exact ⟨queue, rfl, h, rfl, by simp⟩
  | succ remaining ih =>
    obtain ⟨packetOffset, packetLength, hread, hoffset, hlength⟩ :=
      readDescriptor_of_le payload packetIndex (by omega)
    have hfits := hwithin packetIndex.toNat (Nat.le_refl _) (by omega)
    have hpacket : (payload.drop packetOffset.toNat).take packetLength.toNat =
        packetAt payload packetIndex.toNat := by
      rw [packetAt, hoffset, hlength]
    rw [List.range'_succ, List.map_cons, List.forall_mem_cons] at hpackets
    obtain ⟨middle, hpush, hsound, hmtu, hmiddle⟩ := h.push_ok
      (show packetLength.toNat ≤ (payload.drop packetOffset.toNat).length by rw [List.length_drop]; omega)
      (by rw [hpacket]; exact hpackets.1) (by omega)
    obtain ⟨next, hnext, hnextValue⟩ := u16Checked_of_lt (packetIndex.toNat + 1) (by omega)
    have hlonger : middle.packets.length = queue.packets.length + 1 := by
      rw [hmiddle, List.length_append, List.length_singleton]
    obtain ⟨after, hafter, hafterSound, hafterMtu, hafterPackets⟩ := ih next hsound
      (by omega) (fun index hle hlt => hwithin index (by omega) (by omega))
      (by rw [hnextValue, hmtu]; exact hpackets.2) (by omega) (by omega)
    refine ⟨after, ?_, hafterSound, hafterMtu.trans hmtu, ?_⟩
    · simp [PacketQueue.pushPackets, hread, hpush, hnext, hafter]
    · rw [hafterPackets, hmiddle, hpacket, hnextValue, List.append_assoc, List.range'_succ, List.map_cons,
        List.singleton_append]

theorem pushBatch_spec (h : Sound queue) {payload : Bytes} {payloadLength : UInt32}
    (hbacked : payloadLength.toNat ≤ payload.length) :
    (∃ status, queue.pushBatch (some payload) payloadLength true = some (status, some 0, queue) ∧
      status ≠ .ok ∧ ∀ count, ¬Pushable queue.mtu queue.packets payload payloadLength count) ∨
    ∃ count after, Pushable queue.mtu queue.packets payload payloadLength count ∧
      queue.pushBatch (some payload) payloadLength true = some (.ok, some count, after) ∧ Sound after ∧
      after.mtu = queue.mtu ∧ after.packets = queue.packets ++ batchPackets payload count.toNat := by
  rcases validatePacketBatchForMtu_spec hbacked h.minimum h.maximum with
    ⟨hbad, _⟩ | ⟨count, hvalid, hbatch⟩
  · refine Or.inl ⟨.badPacket, ?_, by simp, fun count hpushable => ?_⟩
    · simp [PacketQueue.pushBatch, PacketQueue.validateBatch, h.valid, hbad]
    · have hsame := hbad.symm.trans hpushable.batch
      simp at hsame
  · have hzero : (0 : UInt16).toNat = 0 := rfl
    have hlimited : count.toNat ≤ 64 := hbatch.limited
    have hfits := hbatch.fits
    have hcountLe : queue.count.toNat ≤ 64 := h.count_le
    have hlength := h.length_packets
    have hmax : abiMaxPackets = 64 := rfl
    have hwithin : ∀ index, (0 : UInt16).toNat ≤ index → index < (0 : UInt16).toNat + count.toNat →
        offsetAt payload index + lengthAt payload index ≤ payload.length := by
      intro index hle hlt
      have hinside := (hbatch.chain.within (Nat.zero_le index) (by omega)).2.2
      omega
    obtain ⟨status, hstatus, hiff⟩ := validatePackets_spec queue.mtu 0 (by omega) (by omega) hwithin
    have hread : (List.range' (0 : UInt16).toNat count.toNat).map (packetAt payload) =
        batchPackets payload count.toNat := by
      rw [batchPackets, List.range_eq_range', hzero]
    rw [hread] at hiff
    have hsame : ∀ other, Pushable queue.mtu queue.packets payload payloadLength other → other = count := by
      intro other hpushable
      have heq := hvalid.symm.trans hpushable.batch
      simpa using heq.symm
    by_cases hok : status = .ok
    · by_cases hroom : queue.packets.length + count.toNat ≤ abiMaxPackets
      · obtain ⟨after, hafter, hsound, hmtu, hpackets⟩ := pushPackets_spec 0 h (by omega) hwithin
          (by rw [hread]; exact hiff.mp hok) (by omega) hroom
        rw [hread] at hpackets
        have hfree : ¬count.toNat > abiMaxPackets - queue.count.toNat := by omega
        refine Or.inr ⟨count, after, ⟨hvalid, hiff.mp hok, hroom⟩, ?_, hsound, hmtu, hpackets⟩
        simp [PacketQueue.pushBatch, PacketQueue.validateBatch, h.valid, hvalid, hstatus, hok, hfree, hafter]
      · have hfull : count.toNat > abiMaxPackets - queue.count.toNat := by omega
        refine Or.inl ⟨.full, ?_, by simp, fun other hpushable => hroom ?_⟩
        · simp [PacketQueue.pushBatch, PacketQueue.validateBatch, h.valid, hvalid, hstatus, hok, hfull]
        · rw [← hsame other hpushable]
          exact hpushable.room
    · refine Or.inl ⟨.badPacket, ?_, by simp, fun other hpushable => hok (hiff.mpr ?_)⟩
      · simp [PacketQueue.pushBatch, PacketQueue.validateBatch, h.valid, hvalid, hstatus, hok]
      · rw [← hsame other hpushable]
        exact hpushable.valid

end Sound

end WindowsXsnet

end XsNexus
