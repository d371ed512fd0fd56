import XsNexus.DataSession
import XsNexus.Runs

namespace XsNexus

open ByteCodec MachineWords Runs

inductive SenderOp
  | sealIpv4 (flags : DataFlags) (pathId : UInt32) (packet : Bytes)
  | sealRoutedIpv4 (flags : DataFlags) (pathId : UInt32) (packet : Bytes)
  | sealControl (packetType : PacketType) (flags : DataFlags) (pathId : UInt32) (payload : Bytes)
  | rotateEpoch (nextEpoch : UInt32)
deriving DecidableEq

inductive SenderOutput
  | datagram (encoded : Bytes)
  | rotated
deriving DecidableEq

/-- `none` is the error of the call. -/
def DataSender.apply (c : Crypto) (s : DataSender) : SenderOp → Option SenderOutput × DataSender
  | .sealIpv4 flags pathId packet => (s.sealIpv4 c flags pathId packet).map (·.map .datagram) id
  | .sealRoutedIpv4 flags pathId packet =>
    (s.sealRoutedIpv4 c flags pathId packet).map (·.map .datagram) id
  | .sealControl packetType flags pathId payload =>
    (s.sealControl c packetType flags pathId payload).map (·.map .datagram) id
  | .rotateEpoch nextEpoch => (s.rotateEpoch c nextEpoch).map (·.map fun _ => .rotated) id

def sealedDatagram (event : SenderOp × Option SenderOutput) : Option Bytes :=
  match event.2 with
  | some (.datagram encoded) => some encoded
  | _ => none

/-- The datagrams a run of the sender returned, in order. -/
def sealedDatagrams (c : Crypto) (s : DataSender) (ops : List SenderOp) : List Bytes :=
  (trace (DataSender.apply c) s ops).filterMap sealedDatagram

def sealedHeaders (datagrams : List Bytes) : List DataHeader := datagrams.filterMap DataHeader.parse

def sequencesIn (epoch : UInt32) (headers : List DataHeader) : List Nat :=
  (headers.filter fun header => header.keyEpoch = epoch).map fun header => header.sequence.toNat

def packetBefore (a b : DataHeader) : Prop :=
  a.keyEpoch < b.keyEpoch ∨ a.keyEpoch = b.keyEpoch ∧ a.sequence < b.sequence

/-- The datagram is the sealing of some plaintext under the keys of the epoch in its header, with
that epoch's salt and the sequence in its header as the nonce. -/
def SealedUnder (c : Crypto) (secret : Block 32) (datagram : Bytes) (header : DataHeader) : Prop :=
  ∃ epoch plaintext ciphertext tag, ∃ nonce : Block 12,
    deriveEpoch c secret header.keyEpoch = some epoch ∧
    nonce.val = epoch.nonceSalt.val ++ beBytes 8 header.sequence.toNat ∧
    c.encrypt epoch.key nonce header.encode plaintext = some (ciphertext, tag) ∧
    datagram = header.encode ++ ciphertext ++ tag.val

/-- What a successful sealing does: one datagram under the present epoch and sequence, and the
sequence advances. -/
def Seals (c : Crypto) (s : DataSender) (datagram : Bytes) (s' : DataSender) : Prop :=
  ∃ packetType flags pathId plaintext ciphertext tag next,
    let header := s.header packetType flags pathId (UInt16.ofNat plaintext.length)
    validFlags packetType flags = true ∧
    c.encrypt s.epoch.key (packetNonce s.epoch.nonceSalt s.nextSequence) header.encode plaintext =
      some (ciphertext, tag) ∧
    u64CheckedAdd s.nextSequence 1 = some next ∧
    datagram = header.encode ++ ciphertext ++ tag.val ∧
    s' = { s with nextSequence := next }

def Rotates (c : Crypto) (s s' : DataSender) : Prop :=
  ∃ nextEpoch epoch, u32CheckedAdd s.epoch.epoch 1 = some nextEpoch ∧
    deriveEpoch c s.directionSecret nextEpoch = some epoch ∧
    s' = { s with epoch := epoch, nextSequence := 0 }

/-- A failing call leaves the sender as it was. -/
def SealOutcome (c : Crypto) (s : DataSender) (outcome : Option Bytes × DataSender) : Prop :=
  outcome = (none, s) ∨ ∃ datagram, outcome.1 = some datagram ∧ Seals c s datagram outcome.2

theorem sealPacket_outcome (c : Crypto) (s : DataSender) (packetType : PacketType)
    (flags : DataFlags) (pathId : UInt32) (plaintext : Bytes) :
    SealOutcome c s (s.sealPacket c packetType flags pathId plaintext) := by
  unfold DataSender.sealPacket
  split
  next => exact Or.inl rfl
  next hguard =>
    split
    next => exact Or.inl rfl
    next =>
      split
      next => exact Or.inl rfl
      next =>
        simp only
        split
        next => exact Or.inl rfl
        next ciphertext tag hencrypt =>
          split
          next => exact Or.inl rfl
          next next hadd =>
            have hflags : validFlags packetType flags = true := by
              cases hv : validFlags packetType flags with
              | true => rfl
              | false => simp [hv] at hguard
            exact Or.inr ⟨_, rfl, packetType, flags, pathId, plaintext, ciphertext, tag, next,
              hflags, hencrypt, hadd, rfl, rfl⟩

theorem sealIpv4_outcome (c : Crypto) (s : DataSender) (flags : DataFlags) (pathId : UInt32)
    (packet : Bytes) : SealOutcome c s (s.sealIpv4 c flags pathId packet) := by
  unfold DataSender.sealIpv4
  split
  next => exact Or.inl rfl
  next => exact sealPacket_outcome ..

theorem sealRoutedIpv4_outcome (c : Crypto) (s : DataSender) (flags : DataFlags) (pathId : UInt32)
    (packet : Bytes) : SealOutcome c s (s.sealRoutedIpv4 c flags pathId packet) := by
  unfold DataSender.sealRoutedIpv4
  split
  next => exact Or.inl rfl
  next => exact sealPacket_outcome ..

theorem sealControl_outcome (c : Crypto) (s : DataSender) (packetType : PacketType)
    (flags : DataFlags) (pathId : UInt32) (payload : Bytes) :
    SealOutcome c s (s.sealControl c packetType flags pathId payload) := by
  unfold DataSender.sealControl
  split
  next => exact Or.inl rfl
  next =>
    split
    next => exact Or.inl rfl
    next => exact sealPacket_outcome ..

theorem rotateEpoch_outcome (c : Crypto) (s : DataSender) (nextEpoch : UInt32) :
    s.rotateEpoch c nextEpoch = (none, s) ∨
      ∃ s', s.rotateEpoch c nextEpoch = (some (), s') ∧ Rotates c s s' := by
  unfold DataSender.rotateEpoch
  split
  next => exact Or.inl rfl
  next hadd =>
    split
    next => exact Or.inl rfl
    next epoch hd => exact Or.inr ⟨_, rfl, nextEpoch, epoch, not_not.mp hadd, hd, rfl⟩

/-- What a call of the sender can do: fail and change nothing, seal one datagram, or rotate. -/
inductive SenderStep (c : Crypto) (s : DataSender) : Option SenderOutput × DataSender → Prop
  | failed : SenderStep c s (none, s)
  | sealed (datagram : Bytes) (s' : DataSender) (h : Seals c s datagram s') :
      SenderStep c s (some (.datagram datagram), s')
  | rotated (s' : DataSender) (h : Rotates c s s') : SenderStep c s (some .rotated, s')

theorem SealOutcome.senderStep {c : Crypto} {s : DataSender} {outcome : Option Bytes × DataSender}
    (h : SealOutcome c s outcome) : SenderStep c s (outcome.map (·.map .datagram) id) := by
  obtain ⟨result, s'⟩ := outcome
  obtain h | ⟨datagram, hr, hs⟩ := h
  · cases h
    exact SenderStep.failed
  · cases hr
    exact SenderStep.sealed datagram s' hs

theorem DataSender.apply_step (c : Crypto) (s : DataSender) (op : SenderOp) :
    SenderStep c s (s.apply c op) := by
  cases op with
  | sealIpv4 flags pathId packet => exact (sealIpv4_outcome c s flags pathId packet).senderStep
  | sealRoutedIpv4 flags pathId packet =>
    exact (sealRoutedIpv4_outcome c s flags pathId packet).senderStep
  | sealControl packetType flags pathId payload =>
    exact (sealControl_outcome c s packetType flags pathId payload).senderStep
  | rotateEpoch nextEpoch =>
    obtain h | ⟨s', h, hr⟩ := rotateEpoch_outcome c s nextEpoch
    · rw [DataSender.apply, h]
      exact SenderStep.failed
    · rw [DataSender.apply, h]
      exact SenderStep.rotated s' hr

/-- The headers under the present epoch are those of the sequences below the next one, and no
header is of a later epoch. -/
structure NonceInvariant (c : Crypto) (secret : Block 32) (s : DataSender)
    (datagrams : List Bytes) : Prop where
  secret_eq : s.directionSecret = secret
  derived : deriveEpoch c secret s.epoch.epoch = some s.epoch
  sealed : ∀ datagram ∈ datagrams, ∃ header,
    DataHeader.parse datagram = some header ∧ SealedUnder c secret datagram header
  ordered : (sealedHeaders datagrams).Pairwise packetBefore
  past : ∀ header ∈ sealedHeaders datagrams, header.keyEpoch.toNat ≤ s.epoch.epoch.toNat
  current : sequencesIn s.epoch.epoch (sealedHeaders datagrams) = List.range s.nextSequence.toNat
  gapless : ∀ epoch, ∃ n, sequencesIn epoch (sealedHeaders datagrams) = List.range n

theorem nonceInvariant_new {c : Crypto} {secret : Block 32}
    {networkId sourceNodeId destinationNodeId sessionId : Block 16}
    {sourceVirtualIp destinationVirtualIp : Ipv4Addr} {s : DataSender}
    (h : DataSender.new c secret networkId sourceNodeId destinationNodeId sessionId
      sourceVirtualIp destinationVirtualIp = some s) : NonceInvariant c secret s [] := by
  obtain ⟨epoch, hd, h⟩ := Option.bind_eq_some_iff.mp h
  cases Option.some.inj h
  refine ⟨rfl, ?_, by simp, by simp [sealedHeaders], by simp [sealedHeaders], rfl, fun _ => ⟨0, rfl⟩⟩
  have he := (deriveEpoch_eq_some hd).1
  rw [he]
  exact hd

theorem sequencesIn_append_self (epoch : UInt32) (headers : List DataHeader) {header : DataHeader}
    (h : header.keyEpoch = epoch) : sequencesIn epoch (headers ++ [header]) =
      sequencesIn epoch headers ++ [header.sequence.toNat] := by
  simp [sequencesIn, h]

theorem sequencesIn_append_other {epoch : UInt32} (headers : List DataHeader) {header : DataHeader}
    (h : header.keyEpoch ≠ epoch) :
    sequencesIn epoch (headers ++ [header]) = sequencesIn epoch headers := by
  simp [sequencesIn, h]

theorem mem_sequencesIn {epoch : UInt32} {headers : List DataHeader} {header : DataHeader}
    (hm : header ∈ headers) (he : header.keyEpoch = epoch) :
    header.sequence.toNat ∈ sequencesIn epoch headers :=
  List.mem_map.mpr ⟨header, List.mem_filter.mpr ⟨hm, by simpa using he⟩, rfl⟩

theorem sequencesIn_eq_nil {epoch : UInt32} {headers : List DataHeader}
    (h : ∀ header ∈ headers, header.keyEpoch ≠ epoch) : sequencesIn epoch headers = [] := by
  have hf : headers.filter (fun header => header.keyEpoch = epoch) = [] :=
    List.filter_eq_nil_iff.mpr fun header hm => by simpa using h header hm
  simp [sequencesIn, hf]

theorem sealedHeaders_append {datagrams : List Bytes} {datagram : Bytes} {header : DataHeader}
    (h : DataHeader.parse datagram = some header) :
    sealedHeaders (datagrams ++ [datagram]) = sealedHeaders datagrams ++ [header] := by
  simp [sealedHeaders, h]

theorem Seals.spec {c : Crypto} {s s' : DataSender} {datagram : Bytes} (h : Seals c s datagram s')
    (hd : deriveEpoch c s.directionSecret s.epoch.epoch = some s.epoch) :
    ∃ header, DataHeader.parse datagram = some header ∧ header.keyEpoch = s.epoch.epoch ∧
      header.sequence = s.nextSequence ∧ SealedUnder c s.directionSecret datagram header ∧
      s'.directionSecret = s.directionSecret ∧ s'.epoch = s.epoch ∧
      s'.nextSequence.toNat = s.nextSequence.toNat + 1 := by
  obtain ⟨packetType, flags, pathId, plaintext, ciphertext, tag, next, hf, henc, hadd, hdat, hs⟩ := h
  subst hdat hs
  refine ⟨s.header packetType flags pathId (UInt16.ofNat plaintext.length), ?_, rfl, rfl, ?_, rfl, rfl,
    u64CheckedAdd_eq_some hadd⟩
  · rw [List.append_assoc]
    exact DataHeader.parse_encode _ hf _
  · exact ⟨s.epoch, plaintext, ciphertext, tag, _, hd, rfl, henc, rfl⟩

theorem NonceInvariant.seals {c : Crypto} {secret : Block 32} {s s' : DataSender}
    {datagrams : List Bytes} {datagram : Bytes} (hi : NonceInvariant c secret s datagrams)
    (h : Seals c s datagram s') : NonceInvariant c secret s' (datagrams ++ [datagram]) := by
  obtain ⟨header, hparse, hepoch, hseq, hsealed, hsecret, hcipher, hnext⟩ :=
    h.spec (by rw [hi.secret_eq]; exact hi.derived)
  rw [hi.secret_eq] at hsealed hsecret
  have hheaders : sealedHeaders (datagrams ++ [datagram]) = sealedHeaders datagrams ++ [header] :=
    sealedHeaders_append hparse
  have hcurrent : sequencesIn s.epoch.epoch (sealedHeaders (datagrams ++ [datagram])) =
      List.range (s.nextSequence.toNat + 1) := by
    rw [hheaders, sequencesIn_append_self _ _ hepoch, hi.current, hseq, List.range_succ]
  refine ⟨hsecret, by rw [hcipher]; exact hi.derived, ?_, ?_, ?_, by rw [hcipher, hnext, hcurrent], ?_⟩
  · intro d hd
    rcases List.mem_append.mp hd with hd | hd
    · exact hi.sealed d hd
    · cases List.mem_singleton.mp hd
      exact ⟨header, hparse, hsealed⟩
  · rw [hheaders]
    refine List.pairwise_append.mpr ⟨hi.ordered, List.pairwise_singleton _ _, ?_⟩
    intro earlier hm last hlast
    cases List.mem_singleton.mp hlast
    have hle := hi.past earlier hm
    rcases Nat.lt_or_eq_of_le hle with hlt | heq
    · refine Or.inl (UInt32.lt_iff_toNat_lt.mpr ?_)
      rw [hepoch]
      exact hlt
    · have he := UInt32.toNat_inj.mp heq
      have hmem := mem_sequencesIn hm he
      rw [hi.current, List.mem_range] at hmem
      refine Or.inr ⟨he.trans hepoch.symm, UInt64.lt_iff_toNat_lt.mpr ?_⟩
      rw [hseq]
      exact hmem
  · rw [hheaders]
    intro other hm
    rcases List.mem_append.mp hm with hm | hm
    · rw [hcipher]
      exact hi.past other hm
    · cases List.mem_singleton.mp hm
      rw [hepoch, hcipher]
  · intro epoch
    by_cases he : header.keyEpoch = epoch
    · refine ⟨s.nextSequence.toNat + 1, ?_⟩
      rw [← he, hepoch]
      exact hcurrent
    · rw [hheaders, sequencesIn_append_other _ he]
      exact hi.gapless epoch

theorem NonceInvariant.rotates {c : Crypto} {secret : Block 32} {s s' : DataSender}
    {datagrams : List Bytes} (hi : NonceInvariant c secret s datagrams) (h : Rotates c s s') :
    NonceInvariant c secret s' datagrams := by
  obtain ⟨nextEpoch, epoch, hadd, hd, hs⟩ := h
  subst hs
  have hsum := u32CheckedAdd_eq_some hadd
  have hepoch := (deriveEpoch_eq_some hd).1
  have hlater : ∀ header ∈ sealedHeaders datagrams, header.keyEpoch.toNat < epoch.epoch.toNat := by
    intro header hm
    rw [hepoch, hsum]
    exact Nat.lt_succ_of_le (hi.past header hm)
  refine ⟨hi.secret_eq, ?_, hi.sealed, hi.ordered, fun header hm => Nat.le_of_lt (hlater header hm), ?_,
    hi.gapless⟩
  · rw [hepoch, ← hi.secret_eq]
    exact hd
  · refine sequencesIn_eq_nil fun header hm heq => ?_
    have hlt := hlater header hm
    rw [heq] at hlt
    exact Nat.lt_irrefl _ hlt

theorem NonceInvariant.apply {c : Crypto} {secret : Block 32} {s : DataSender}
    {datagrams : List Bytes} (hi : NonceInvariant c secret s datagrams) (op : SenderOp) :
    NonceInvariant c secret (s.apply c op).2
      (datagrams ++ (sealedDatagram (op, (s.apply c op).1)).toList) := by
  have hstep := DataSender.apply_step c s op
  generalize s.apply c op = outcome at hstep ⊢
  cases hstep with
  | failed => simpa [sealedDatagram] using hi
  | sealed datagram _ h => exact hi.seals h
  | rotated _ h => simpa [sealedDatagram] using hi.rotates h

theorem nonceInvariant_run {c : Crypto} {secret : Block 32} {s : DataSender}
    (hi : NonceInvariant c secret s []) (ops : List SenderOp) :
    NonceInvariant c secret (final (DataSender.apply c) s ops) (sealedDatagrams c s ops) := by
  refine run_invariant (P := fun s history =>
    NonceInvariant c secret s (history.filterMap sealedDatagram)) ?_ ops hi
  intro s history op h
  have hstep := h.apply op
  cases hd : sealedDatagram (op, (s.apply c op).1) with
  | none => simpa [List.filterMap_append, hd] using hstep
  | some datagram => simpa [List.filterMap_append, hd] using hstep

theorem DataSender.apply_eq_none {c : Crypto} {s s' : DataSender} {op : SenderOp}
    (h : s.apply c op = (none, s')) : s' = s := by
  have hstep := DataSender.apply_step c s op
  rw [h] at hstep
  cases hstep
  rfl

/-- The headers of a run count up from zero within each epoch and never step back, every datagram
is sealed under the nonce its header names, and a failing call changes nothing. -/
theorem sealed_nonces_strictly_increase (c : Crypto) (secret : Block 32)
    (networkId sourceNodeId destinationNodeId sessionId : Block 16)
    (sourceVirtualIp destinationVirtualIp : Ipv4Addr) (s : DataSender)
    (h : DataSender.new c secret networkId sourceNodeId destinationNodeId sessionId
      sourceVirtualIp destinationVirtualIp = some s) (ops : List SenderOp) :
    (∀ datagram ∈ sealedDatagrams c s ops, ∃ header,
      DataHeader.parse datagram = some header ∧ SealedUnder c secret datagram header) ∧
    (sealedHeaders (sealedDatagrams c s ops)).Pairwise packetBefore ∧
    ((sealedHeaders (sealedDatagrams c s ops)).map fun header =>
      (header.keyEpoch, header.sequence)).Nodup ∧
    (∀ epoch, ∃ n, sequencesIn epoch (sealedHeaders (sealedDatagrams c s ops)) = List.range n) ∧
    ∀ op s', (final (DataSender.apply c) s ops).apply c op = (none, s') →
      s' = final (DataSender.apply c) s ops := by
  have hi := nonceInvariant_run (nonceInvariant_new h) ops
  refine ⟨hi.sealed, hi.ordered, ?_, hi.gapless, fun op s' hnone => DataSender.apply_eq_none hnone⟩
  refine List.pairwise_map.mpr (hi.ordered.imp ?_)
  intro a b hab heq
  obtain ⟨hepoch, hseq⟩ := Prod.mk.inj heq
  rcases hab with hlt | ⟨_, hlt⟩
  · rw [hepoch] at hlt
    exact UInt32.lt_irrefl _ hlt
  · rw [hseq] at hlt
    exact UInt64.lt_irrefl _ hlt

theorem sealed_nonces_strictly_increase_keepalives : ∃ s,
    DataSender.new .transparent (zeros 32) (zeros 16) (zeros 16) (zeros 16) (zeros 16)
      .UNSPECIFIED .BROADCAST = some s ∧
    (sealedHeaders (sealedDatagrams .transparent s [.sealControl .keepalive .NONE 0 [],
      .sealControl .keepalive .NONE 0 [], .rotateEpoch 1, .sealControl .keepalive .NONE 0 []])).Pairwise
        packetBefore :=
  ⟨_, rfl, (sealed_nonces_strictly_increase _ _ _ _ _ _ _ _ _ rfl _).2.1⟩

end XsNexus
