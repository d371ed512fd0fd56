import XsNexus.ByteSlices
import XsNexus.CandidateDiscovery
import XsNexus.CredentialLayout

namespace XsNexus

open ByteCodec MachineWords

/-- `encode_endpoint`, into 24 zero bytes -/
def encodeEndpoint (endpoint : SocketAddr) : Option (Block 24) :=
  if !validObservedEndpoint endpoint then none else some (encodeObservedEndpoint endpoint)

/-- An endpoint as its address and its port name it -/
def SocketAddr.unscoped : SocketAddr → SocketAddr
  | v4 e => .v4 e
  | v6 e => .v6 ⟨e.ip, e.port, 0, 0⟩

theorem SocketAddr.ip_unscoped (endpoint : SocketAddr) : endpoint.unscoped.ip = endpoint.ip := by
  cases endpoint <;> rfl

theorem SocketAddr.port_unscoped (endpoint : SocketAddr) : endpoint.unscoped.port = endpoint.port := by
  cases endpoint <;> rfl

theorem validObservedEndpoint_unscoped (endpoint : SocketAddr) :
    validObservedEndpoint endpoint.unscoped = validObservedEndpoint endpoint := by
  unfold validObservedEndpoint
  rw [endpoint.ip_unscoped, endpoint.port_unscoped]

theorem octets_fromOctets (block : Block 4) : (Ipv4Addr.fromOctets block).octets = block := by
  apply Subtype.ext
  show beBytes 4 (BitVec.ofNat 32 (beNat block.val)).toNat = block.val
  rw [BitVec.toNat_ofNat]
  exact beBytes_beNat_mod block (by norm_num)

/-- What is decoded from the bytes of an endpoint is its address and its port. -/
theorem decode_encodeObservedEndpoint (endpoint : SocketAddr) :
    decodeObservedEndpoint (encodeObservedEndpoint endpoint) = some endpoint.unscoped := by
  cases endpoint with
  | v4 e =>
    have hbytes : (encodeObservedEndpoint (.v4 e)).val =
        [4, 0, 0, 0] ++ (e.ip.octets.val ++ ((zeros 12).val ++ ((u16ToBe e.port).val ++ (zeros 2).val))) := by
      unfold encodeObservedEndpoint
      simp only [List.append_assoc]
      rfl
    have hport : field (encodeObservedEndpoint (.v4 e)).val 20 2 = some (u16ToBe e.port) := by
      rw [hbytes]
      simp (disch := simp) only [field_append_right, field_append_left, Block.length_val, List.length_cons,
        List.length_nil, Nat.reduceAdd, Nat.reduceSub]
    have haddress : field (encodeObservedEndpoint (.v4 e)).val 4 4 = some e.ip.octets := by
      rw [hbytes]
      simp (disch := simp) only [field_append_right, field_append_left, List.length_cons, List.length_nil,
        Nat.reduceAdd, Nat.reduceSub]
    have hpadding : field (encodeObservedEndpoint (.v4 e)).val 8 12 = some (zeros 12) := by
      rw [hbytes]
      simp (disch := simp) only [field_append_right, field_append_left, Block.length_val, List.length_cons,
        List.length_nil, Nat.reduceAdd, Nat.reduceSub]
    have hback : field (encodeObservedEndpoint (.v4 e)).val 22 2 = some (zeros 2) := by
      rw [hbytes]
      simp (disch := simp) only [field_append_right, field_self, Block.length_val, List.length_cons,
        List.length_nil, Nat.reduceAdd, Nat.reduceSub]
    have hreserved : slice (encodeObservedEndpoint (.v4 e)).val 1 4 = (zeros 3).val ∧
        slice (encodeObservedEndpoint (.v4 e)).val 22 24 = (zeros 2).val ∧
        slice (encodeObservedEndpoint (.v4 e)).val 8 20 = (zeros 12).val := by
      refine ⟨?_, (field_eq_some hback).symm, (field_eq_some hpadding).symm⟩
      rw [hbytes]
      rfl
    have hkind : (encodeObservedEndpoint (.v4 e)).val.head? = some 4 := by
      rw [hbytes]
      rfl
    unfold decodeObservedEndpoint
    rw [hreserved.1, hreserved.2.1, hreserved.2.2, hport, haddress, hkind]
    simp only [ne_eq, not_true_eq_false, or_self, if_false, Option.bind_eq_bind, Option.bind_some, and_self,
      if_true, u16FromBe_toBe, fromOctets_octets]
    rfl
  | v6 e =>
    have hlt := e.ip.bits.isLt
    have hbytes : (encodeObservedEndpoint (.v6 e)).val =
        [6, 0, 0, 0] ++ (beBytes 16 e.ip.bits.toNat ++ ((u16ToBe e.port).val ++ (zeros 2).val)) := by
      unfold encodeObservedEndpoint
      simp only [List.append_assoc]
      rfl
    have hport : field (encodeObservedEndpoint (.v6 e)).val 20 2 = some (u16ToBe e.port) := by
      rw [hbytes]
      simp (disch := simp) only [field_append_right, field_append_left, length_beBytes, List.length_cons,
        List.length_nil, Nat.reduceAdd, Nat.reduceSub]
    have haddress : slice (encodeObservedEndpoint (.v6 e)).val 4 20 = beBytes 16 e.ip.bits.toNat := by
      rw [hbytes, slice_append_right (by simp)]
      simp [slice]
    have hback : field (encodeObservedEndpoint (.v6 e)).val 22 2 = some (zeros 2) := by
      rw [hbytes]
      simp (disch := simp) only [field_append_right, field_self, Block.length_val, length_beBytes,
        List.length_cons, List.length_nil, Nat.reduceAdd, Nat.reduceSub]
    have hreserved : slice (encodeObservedEndpoint (.v6 e)).val 1 4 = (zeros 3).val ∧
        slice (encodeObservedEndpoint (.v6 e)).val 22 24 = (zeros 2).val := by
      refine ⟨?_, (field_eq_some hback).symm⟩
      rw [hbytes]
      rfl
    have hkind : (encodeObservedEndpoint (.v6 e)).val.head? = some 6 := by
      rw [hbytes]
      rfl
    have hvalue : BitVec.ofNat 128 (beNat (beBytes 16 e.ip.bits.toNat)) = e.ip.bits := by
      rw [beNat_beBytes, Nat.mod_eq_of_lt (by omega), BitVec.ofNat_toNat, BitVec.setWidth_eq]
    unfold decodeObservedEndpoint
    rw [hreserved.1, hreserved.2, hport, hkind, haddress, hvalue]
    simp only [ne_eq, not_true_eq_false, or_self, if_false, Option.bind_eq_bind, Option.bind_some,
      u16FromBe_toBe]
    rfl

/-- Every byte of an endpoint is read. -/
theorem encode_decodeObservedEndpoint {encoded : Block 24} {endpoint : SocketAddr}
    (h : decodeObservedEndpoint encoded = some endpoint) : encodeObservedEndpoint endpoint = encoded := by
  unfold decodeObservedEndpoint at h
  split at h
  next => simp at h
  next hreserved =>
    simp only [not_or, not_not] at hreserved
    obtain ⟨hfront, hback⟩ := hreserved
    obtain ⟨port, hport, h⟩ := Option.bind_eq_some_iff.mp h
    have hkind : ∀ {kind : UInt8}, encoded.val.head? = some kind → slice encoded.val 0 4 = [kind, 0, 0, 0] := by
      intro kind hkind
      rw [List.head?_eq_getElem?] at hkind
      rw [slice_cons hkind (by omega), hfront]
      rfl
    have hback : [0, 0] = slice encoded.val 22 24 := hback.symm
    have hwhole : slice encoded.val 0 24 = encoded.val := by
      rw [take_slice, List.take_of_length_le (Nat.le_of_eq encoded.property)]
    split at h
    next hv4 =>
      obtain ⟨octets, hoctets, h⟩ := Option.bind_eq_some_iff.mp h
      cases Option.some.inj h
      apply Subtype.ext
      show [4, 0, 0, 0] ++ (Ipv4Addr.fromOctets octets).octets.val ++ (zeros 12).val ++
        (u16ToBe (u16FromBe port)).val ++ [0, 0] = encoded.val
      rw [octets_fromOctets, u16ToBe_fromBe, ← hkind hv4.1, ← hv4.2, hback, field_eq_some hoctets,
        field_eq_some hport]
      simp (disch := omega) only [Nat.reduceAdd, slice_append_slice]
      exact hwhole
    next =>
      split at h
      next hv6 =>
        cases Option.some.inj h
        apply Subtype.ext
        show [6, 0, 0, 0] ++ beBytes 16 (BitVec.ofNat 128 (beNat (slice encoded.val 4 20))).toNat ++
          (u16ToBe (u16FromBe port)).val ++ [0, 0] = encoded.val
        have haddress : beBytes 16 (BitVec.ofNat 128 (beNat (slice encoded.val 4 20))).toNat =
            slice encoded.val 4 20 := by
          rw [BitVec.toNat_ofNat]
          exact beBytes_beNat_mod ⟨slice encoded.val 4 20, length_slice _ (by simp)⟩ (by norm_num)
        rw [haddress, u16ToBe_fromBe, ← hkind hv6, hback, field_eq_some hport]
        simp (disch := omega) only [Nat.reduceAdd, slice_append_slice]
        exact hwhole
      next => simp at h

theorem validDiscoveryHeader_encode (packetType : UInt8) {length : UInt16} {rest : Bytes}
    (h : 12 + rest.length = length.toNat) :
    validDiscoveryHeader ((encodeDiscoveryHeader packetType length).val ++ rest) packetType length.toNat =
      true := by
  have htotal : ((encodeDiscoveryHeader packetType length).val ++ rest).length = length.toNat := by
    rw [List.length_append, Block.length_val, h]
  unfold validDiscoveryHeader
  rw [htotal]
  unfold encodeDiscoveryHeader
  simp only [List.append_assoc, discoveryMagic, field_append_right, field_append_left, slice_append_right,
    Block.length_val, List.length_cons, List.length_nil, Nat.reduceLeDiff, Nat.reduceSub, Nat.reduceAdd]
  simp [slice]

theorem encodeDiscoveryHeader_of_valid {encoded : Bytes} {packetType : UInt8} {length : UInt16}
    (h : validDiscoveryHeader encoded packetType length.toNat = true) :
    (encodeDiscoveryHeader packetType length).val = slice encoded 0 12 := by
  unfold validDiscoveryHeader at h
  simp only [Bool.and_eq_true, beq_iff_eq] at h
  obtain ⟨⟨⟨⟨⟨⟨_, hmagic⟩, hversion⟩, htype⟩, hflags⟩, hlength⟩, hreserved⟩ := h
  obtain ⟨block, hfield, hvalue⟩ := Option.map_eq_some_iff.mp hlength
  have hround : u16ToBe length = block := by
    rw [← UInt16.toNat_inj.mp hvalue, u16ToBe_fromBe]
  have hbytes : slice encoded 4 6 = [1, packetType] := slice_pair hversion htype
  show discoveryMagic ++ [1, packetType] ++ (zeros 2).val ++ (u16ToBe length).val ++ (zeros 2).val = _
  rw [hround, ← hbytes, field_eq_some hfield]
  nth_rewrite 1 [← hflags]
  rw [← hreserved, ← hmagic]
  simp (disch := omega) only [Nat.reduceAdd, slice_append_slice]

end XsNexus
