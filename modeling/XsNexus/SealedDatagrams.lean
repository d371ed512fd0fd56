import XsNexus.Delivery
import XsNexus.Nonces
import XsNexus.PeerMessages

namespace XsNexus

open ByteCodec MachineWords

/-- An AEAD opens what it has sealed, and seals a plaintext in as many bytes. -/
structure AeadCorrect (c : Crypto) : Prop where
  opens : ∀ {key nonce aad plaintext ciphertext tag},
    c.encrypt key nonce aad plaintext = some (ciphertext, tag) →
      c.decrypt key nonce aad ciphertext tag = some plaintext
  length : ∀ {key nonce aad plaintext ciphertext tag},
    c.encrypt key nonce aad plaintext = some (ciphertext, tag) → ciphertext.length = plaintext.length

/-- The datagram is the sealing of the plaintext under the header. -/
structure SealedAs (c : Crypto) (secret : Block 32) (datagram : Bytes) (header : DataHeader)
    (plaintext : Bytes) : Prop where
  flags : validFlags header.packetType header.flags = true
  payload : validatePayload header.packetType plaintext = some ()
  bound : plaintext.length ≤ maxEncryptedPayloadLength
  length : header.payloadLength.toNat = plaintext.length
  sealed : ∃ epoch ciphertext tag, deriveEpoch c secret header.keyEpoch = some epoch ∧
    c.encrypt epoch.key (packetNonce epoch.nonceSalt header.sequence) header.encode plaintext =
      some (ciphertext, tag) ∧
    datagram = header.encode ++ ciphertext ++ tag.val

/-- The sender holds the keys of its epoch. -/
def DataSender.Keyed (c : Crypto) (s : DataSender) : Prop :=
  deriveEpoch c s.directionSecret s.epoch.epoch = some s.epoch

/-- The keys are those of the epoch they stand under; the window may have moved on. -/
def EpochCipher.KeyedBy (c : Crypto) (secret : Block 32) (state : EpochCipher) : Prop :=
  ∃ replay, deriveEpoch c secret state.epoch = some { state with replay := replay }

/-- A call that seals: it fails and leaves the sender, or returns one datagram and the sequence
advances. -/
def SealsOnly (c : Crypto) (s : DataSender) (packetType : PacketType) (plaintext : Bytes)
    (outcome : Option Bytes × DataSender) : Prop :=
  outcome = (none, s) ∨ ∃ datagram flags pathId next, outcome.1 = some datagram ∧
    SealedAs c s.directionSecret datagram
      (s.header packetType flags pathId (UInt16.ofNat plaintext.length)) plaintext ∧
    u64CheckedAdd s.nextSequence 1 = some next ∧ outcome.2 = { s with nextSequence := next }

section Sealing

variable {c : Crypto} {s : DataSender}

theorem sealPacket_sealsOnly (hkeyed : s.Keyed c) (packetType : PacketType) (flags : DataFlags)
    (pathId : UInt32) (plaintext : Bytes) :
    SealsOnly c s packetType plaintext (s.sealPacket c packetType flags pathId plaintext) := by
  unfold DataSender.sealPacket
  split
  next => exact Or.inl rfl
  next hguard =>
    simp only [not_or, Bool.not_eq_true', Bool.not_eq_false, not_lt] at hguard
    split
    next => exact Or.inl rfl
    next hpayload =>
      split
      next => exact Or.inl rfl
      next hfits =>
        dsimp only
        split
        next => exact Or.inl rfl
        next ciphertext tag hencrypt =>
          split
          next => exact Or.inl rfl
          next next hadd =>
            refine Or.inr ⟨_, flags, pathId, next, rfl, ⟨hguard.1, hpayload, hguard.2.1, ?_, ?_⟩,
              hadd, rfl⟩
            · show (UInt16.ofNat plaintext.length).toNat = plaintext.length
              rw [UInt16.toNat_ofNat']
              omega
            · exact ⟨s.epoch, ciphertext, tag, hkeyed, hencrypt, rfl⟩

theorem sealIpv4_sealsOnly (hkeyed : s.Keyed c) (flags : DataFlags) (pathId : UInt32)
    (packet : Bytes) : SealsOnly c s .data packet (s.sealIpv4 c flags pathId packet) := by
  unfold DataSender.sealIpv4
  split
  next => exact Or.inl rfl
  next => exact sealPacket_sealsOnly hkeyed ..

theorem sealRoutedIpv4_sealsOnly (hkeyed : s.Keyed c) (flags : DataFlags) (pathId : UInt32)
    (packet : Bytes) : SealsOnly c s .data packet (s.sealRoutedIpv4 c flags pathId packet) := by
  unfold DataSender.sealRoutedIpv4
  split
  next => exact Or.inl rfl
  next => exact sealPacket_sealsOnly hkeyed ..

theorem sealControl_sealsOnly (hkeyed : s.Keyed c) (packetType : PacketType) (flags : DataFlags)
    (pathId : UInt32) (payload : Bytes) :
    SealsOnly c s packetType payload (s.sealControl c packetType flags pathId payload) := by
  unfold DataSender.sealControl
  split
  next => exact Or.inl rfl
  next =>
    split
    next => exact Or.inl rfl
    next => exact sealPacket_sealsOnly hkeyed ..

end Sealing

section Opening

variable {c : Crypto} {secret : Block 32} {datagram plaintext : Bytes} {header : DataHeader}

theorem SealedAs.parse (h : SealedAs c secret datagram header plaintext) :
    DataHeader.parse datagram = some header := by
  obtain ⟨_, ciphertext, tag, _, _, rfl⟩ := h.sealed
  rw [List.append_assoc]
  exact DataHeader.parse_encode header h.flags _

theorem SealedAs.datagramLength (h : SealedAs c secret datagram header plaintext)
    (haead : AeadCorrect c) :
    datagram.length = dataHeaderLength + header.payloadLength.toNat + dataTagLength := by
  obtain ⟨_, ciphertext, tag, _, hencrypt, rfl⟩ := h.sealed
  rw [List.length_append, List.length_append, DataHeader.length_encode, haead.length hencrypt,
    h.length, Block.length_val]
  rfl

/-- The packet as the other side finds it. -/
def openedAs (header : DataHeader) (plaintext : Bytes) : OpenedPacket where
  packetType := header.packetType
  flags := header.flags
  keyEpoch := header.keyEpoch
  sequence := header.sequence
  pathId := header.pathId
  plaintext := plaintext

/-- The addresses of a packet of data are those the receiver asks for. -/
def Addressed (r : DataReceiver) (header : DataHeader) (plaintext : Bytes) (routed : Bool) : Prop :=
  header.packetType = .data →
    if routed then ∃ addresses, validateIpv4Packet plaintext = some addresses
    else validateIpv4 plaintext r.sourceVirtualIp r.destinationVirtualIp = some ()

instance (r : DataReceiver) (header : DataHeader) (plaintext : Bytes) (routed : Bool) :
    Decidable (Addressed r header plaintext routed) :=
  decidable_of_iff (header.packetType = .data →
      if routed then (validateIpv4Packet plaintext).isSome = true
      else validateIpv4 plaintext r.sourceVirtualIp r.destinationVirtualIp = some ()) (by
    simp only [Addressed, Option.isSome_iff_exists])

/-- What one epoch makes of a sealed datagram: it opens to what was sealed, unless the window or the
addresses stop it. -/
theorem openInEpoch_sealed (haead : AeadCorrect c) (r : DataReceiver) {state : EpochCipher}
    (hkeyed : state.KeyedBy c secret) (hepoch : header.keyEpoch = state.epoch)
    (h : SealedAs c secret datagram header plaintext) (routed : Bool) :
    r.openInEpoch c state header datagram routed =
      if state.replay.precheck header.sequence = some () ∧ Addressed r header plaintext routed then
        (some (openedAs header plaintext),
          { state with replay := (state.replay.commit header.sequence).2 })
      else (none, state) := by
  obtain ⟨epoch, ciphertext, tag, hderive, hencrypt, hdatagram⟩ := h.sealed
  obtain ⟨replay, hstate⟩ := hkeyed
  rw [hepoch, hstate] at hderive
  cases Option.some.inj hderive
  have hlength := haead.length hencrypt
  have hhead : datagram.take dataHeaderLength = header.encode := by
    rw [hdatagram, List.append_assoc, List.take_left' (DataHeader.length_encode header)]
  have hmiddle : slice datagram dataHeaderLength (dataHeaderLength + header.payloadLength.toNat) =
      ciphertext := by
    rw [hdatagram, List.append_assoc,
      slice_append_right (Nat.le_of_eq (DataHeader.length_encode header)),
      DataHeader.length_encode, Nat.sub_self, Nat.add_sub_cancel_left]
    unfold slice
    rw [List.take_left' (by rw [h.length, hlength]), List.drop_zero]
  have htail : datagram.drop (dataHeaderLength + header.payloadLength.toNat) = tag.val := by
    rw [hdatagram]
    exact List.drop_left' (by rw [List.length_append, DataHeader.length_encode, h.length, hlength])
  have htag : array 16 tag.val = some tag := array_of_length tag.property
  have hopens := haead.opens hencrypt
  unfold DataReceiver.openInEpoch dataTagLength
  dsimp only at hopens ⊢
  rw [hhead, hmiddle, htail]
  cases hprecheck : state.replay.precheck header.sequence with
  | none => simp
  | some admitted =>
    obtain ⟨window, hcommit⟩ := ReplayWindow.commit_succeeds hprecheck
    simp only [htag, hopens, h.payload, hcommit, Option.bind_eq_bind, Option.bind_some, true_and]
    by_cases hdata : header.packetType = .data
    · cases routed with
      | true =>
        cases hip : validateIpv4Packet plaintext with
        | none => simp [hdata, Addressed, hip]
        | some addresses => simp [hdata, Addressed, hip, openedAs]
      | false =>
        cases hip : validateIpv4 plaintext r.sourceVirtualIp r.destinationVirtualIp with
        | none => simp [hdata, Addressed, hip]
        | some valid => simp [hdata, Addressed, hip, openedAs]
    · simp [hdata, Addressed, openedAs]

/-- A receiver without its windows: its epochs and whom it serves. -/
def DataReceiver.windowless (r : DataReceiver) : DataReceiver :=
  { r with
    current := { r.current with replay := ReplayWindow.new }
    previous := r.previous.map fun previous => { previous with replay := ReplayWindow.new } }

theorem DataReceiver.of_windowless {r r' : DataReceiver} (h : r'.windowless = r.windowless) :
    r'.directionSecret = r.directionSecret ∧ r'.current.epoch = r.current.epoch ∧
      ∀ state, r'.previous = some state →
        ∃ old, r.previous = some old ∧ old.epoch = state.epoch := by
  refine ⟨?_, ?_, fun state hstate => ?_⟩
  · show r'.windowless.directionSecret = r.directionSecret
    rw [h]
    rfl
  · show r'.windowless.current.epoch = r.current.epoch
    rw [h]
    rfl
  · have hprevious : (r'.previous.map fun state => { state with replay := ReplayWindow.new }) =
        r.previous.map fun state => { state with replay := ReplayWindow.new } :=
      congrArg (fun other : DataReceiver => other.previous) h
    rw [hstate, Option.map_some] at hprevious
    obtain ⟨old, hold, heq⟩ := Option.map_eq_some_iff.mp hprevious.symm
    refine ⟨old, hold, ?_⟩
    show ({ old with replay := ReplayWindow.new } : EpochCipher).epoch = state.epoch
    rw [heq]

structure DataReceiver.Keyed (c : Crypto) (r : DataReceiver) : Prop where
  current : r.current.KeyedBy c r.directionSecret
  previous : ∀ state, r.previous = some state → state.KeyedBy c r.directionSecret

theorem openInEpoch_windowless (c : Crypto) (r : DataReceiver) (state : EpochCipher)
    (header : DataHeader) (encoded : Bytes) (routed : Bool) :
    ∃ replay, (r.openInEpoch c state header encoded routed).2 = { state with replay := replay } := by
  rcases openInEpoch_cases (Eq.refl (r.openInEpoch c state header encoded routed)) with
    ⟨_, hstate⟩ | ⟨_, replay, _, _, _, _, hstate⟩
  · exact ⟨state.replay, hstate⟩
  · exact ⟨replay, hstate⟩

theorem openWithRoutedAddresses_windowless (c : Crypto) (r : DataReceiver) (encoded : Bytes)
    (routed : Bool) :
    (r.openWithRoutedAddresses c encoded routed).2.windowless = r.windowless := by
  unfold DataReceiver.openWithRoutedAddresses
  split
  next => rfl
  next =>
    split
    next => rfl
    next header _ =>
      dsimp only
      split
      next => rfl
      next =>
        split
        next =>
          obtain ⟨replay, hstate⟩ := openInEpoch_windowless c r r.current header encoded routed
          dsimp only
          rw [hstate]
          rfl
        next =>
          split
          next hnone => rfl
          next previous hprevious =>
            split
            next =>
              obtain ⟨replay, hstate⟩ := openInEpoch_windowless c r previous header encoded routed
              dsimp only
              rw [hstate]
              unfold DataReceiver.windowless
              rw [hprevious]
              rfl
            next => rfl

/-- What a receiver opens of a sealed datagram is what was sealed, under an epoch it holds. -/
theorem opened_of_sealed (haead : AeadCorrect c) {r r' : DataReceiver} (hkeyed : r.Keyed c)
    (h : SealedAs c r.directionSecret datagram header plaintext) {routed : Bool}
    {opened : OpenedPacket}
    (hopen : r.openWithRoutedAddresses c datagram routed = (some opened, r')) :
    opened = openedAs header plaintext ∧
      (header.keyEpoch = r.current.epoch ∨
        ∃ previous, r.previous = some previous ∧ previous.epoch = header.keyEpoch) := by
  unfold DataReceiver.openWithRoutedAddresses at hopen
  split at hopen
  next => simp at hopen
  next =>
    rw [h.parse] at hopen
    dsimp only at hopen
    split at hopen
    next => simp at hopen
    next =>
      split at hopen
      next hcurrent =>
        rw [openInEpoch_sealed haead r hkeyed.current hcurrent h routed] at hopen
        split at hopen
        next =>
          cases hopen
          exact ⟨rfl, Or.inl hcurrent⟩
        next => simp at hopen
      next =>
        split at hopen
        next => simp at hopen
        next previous hprevious =>
          split at hopen
          next hepoch =>
            rw [openInEpoch_sealed haead r (hkeyed.previous previous hprevious) hepoch.symm h routed]
              at hopen
            split at hopen
            next =>
              cases hopen
              exact ⟨rfl, Or.inr ⟨previous, hprevious, hepoch⟩⟩
            next => simp at hopen
          next => simp at hopen

theorem EpochCipher.keyedBy_replay (state : EpochCipher) (replay : ReplayWindow) :
    EpochCipher.KeyedBy c secret { state with replay := replay } ↔ state.KeyedBy c secret :=
  Iff.rfl

theorem DataReceiver.Keyed.of_windowless {r r' : DataReceiver} (h : r.Keyed c)
    (hsame : r'.windowless = r.windowless) : r'.Keyed c := by
  have hsecret := (DataReceiver.of_windowless hsame).1
  have hcurrent : ({ r'.current with replay := ReplayWindow.new } : EpochCipher) =
      { r.current with replay := ReplayWindow.new } :=
    congrArg (fun other : DataReceiver => other.current) hsame
  have hprevious : (r'.previous.map fun state => { state with replay := ReplayWindow.new }) =
      r.previous.map fun state => { state with replay := ReplayWindow.new } :=
    congrArg (fun other : DataReceiver => other.previous) hsame
  refine ⟨?_, fun state hstate => ?_⟩
  · rw [hsecret, ← EpochCipher.keyedBy_replay _ ReplayWindow.new, hcurrent]
    exact h.current
  · rw [hstate, Option.map_some] at hprevious
    obtain ⟨old, hold, heq⟩ := Option.map_eq_some_iff.mp hprevious.symm
    rw [hsecret, ← EpochCipher.keyedBy_replay _ ReplayWindow.new, ← heq]
    exact h.previous old hold

theorem openDatagram_windowless (c : Crypto) (r : DataReceiver) (datagram : Bytes)
    (allowRoutedData : Bool) :
    (openDatagram c r datagram allowRoutedData).2.windowless = r.windowless := by
  have hfirst := openWithRoutedAddresses_windowless c r datagram false
  unfold openDatagram DataReceiver.openPacket
  split
  next opened r' hopen =>
    rw [hopen] at hfirst
    exact hfirst
  next r' hopen =>
    rw [hopen] at hfirst
    split
    next => exact (openWithRoutedAddresses_windowless c r' datagram true).trans hfirst
    next => exact hfirst

theorem openDatagram_sealed (haead : AeadCorrect c) {r r' : DataReceiver} (hkeyed : r.Keyed c)
    (h : SealedAs c r.directionSecret datagram header plaintext) {allowRoutedData : Bool}
    {opened : OpenedPacket} (hopen : openDatagram c r datagram allowRoutedData = (some opened, r')) :
    opened = openedAs header plaintext := by
  have hfirst := openWithRoutedAddresses_windowless c r datagram false
  unfold openDatagram at hopen
  split at hopen
  next opened' r1 hopen1 =>
    cases hopen
    exact (opened_of_sealed haead hkeyed h hopen1).1
  next r1 hopen1 =>
    unfold DataReceiver.openPacket at hopen1
    rw [hopen1] at hfirst
    split at hopen
    next =>
      rw [← (DataReceiver.of_windowless hfirst).1] at h
      exact (opened_of_sealed haead (hkeyed.of_windowless hfirst) h hopen).1
    next => simp at hopen

end Opening

end XsNexus
