import XsNexus.DriverBatches
import XsNexus.DriverSession

namespace XsNexus

open ByteCodec ByteMemory

namespace WindowsXsnet

theorem readU64_of_le (bytes : Bytes) (offset : Nat) (h : offset + 8 ≤ bytes.length) :
    ∃ word, readU64 bytes offset = some word := by
  rw [readU64, load_eq h]
  exact ⟨_, rfl⟩

/-- The sequence that the header of a message holds. -/
def MessageBuffer.sequence (buffer : MessageBuffer) : Option UInt64 :=
  buffer.memory.bind fun bytes => readU64 bytes 24

/-- A view of the message that a buffer holds. -/
structure ViewOf (buffer : MessageBuffer) (maximum : UInt32) (view : MessageView) : Prop where
  backed : view.payloadLength.toNat ≤ view.payload.length
  sequence : buffer.sequence = some view.sequence
  limit : view.payloadLength ≤ maximum

/-- A validation ends, and writes a view where the message is valid. -/
def Validated (buffer : MessageBuffer) (maximum : UInt32)
    (answer : Option (ValidationStatus × Option MessageView)) : Prop :=
  (∃ status, answer = some (status, none) ∧ status ≠ .valid) ∨
    ∃ view, answer = some (.valid, some view) ∧ ViewOf buffer maximum view

theorem Validated.invalid {buffer : MessageBuffer} {maximum : UInt32} {status : ValidationStatus}
    (h : status ≠ .valid) : Validated buffer maximum (some (status, none)) := Or.inl ⟨status, rfl, h⟩

theorem validateMessage_spec (buffer : MessageBuffer) (expectedType : MessageType) (maximum : UInt32) :
    Validated buffer maximum (validateMessage buffer expectedType maximum) := by
  unfold validateMessage
  cases hmemory : buffer.memory with
  | none => exact .invalid (by simp)
  | some bytes =>
    dsimp only
    by_cases hmaximum : maximum > abiMaxPayload
    · rw [if_pos hmaximum]
      exact .invalid (by simp)
    rw [if_neg hmaximum]
    by_cases hshort : buffer.length.toNat < abiHeaderSize.toNat
    · rw [if_pos hshort]
      exact .invalid (by simp)
    rw [if_neg hshort]
    have hheader : abiHeaderSize.toNat = 32 := rfl
    have hbacked := buffer.backed bytes hmemory
    obtain ⟨magic, hmagic, _⟩ := readU32_of_le bytes 0 (by omega)
    obtain ⟨version, hversion, _⟩ := readU16_of_le bytes 4 (by omega)
    obtain ⟨size, hsize, _⟩ := readU16_of_le bytes 6 (by omega)
    obtain ⟨reserved, hreserved, _⟩ := readU32_of_le bytes 20 (by omega)
    obtain ⟨type, htype, _⟩ := readU32_of_le bytes 8 (by omega)
    obtain ⟨flags, hflags, _⟩ := readU32_of_le bytes 12 (by omega)
    obtain ⟨payloadLength, hpayloadLength, _⟩ := readU32_of_le bytes 16 (by omega)
    obtain ⟨sequence, hsequence⟩ := readU64_of_le bytes 24 (by omega)
    rw [hmagic, hversion, hsize, hreserved, htype, hflags, hpayloadLength, hsequence]
    dsimp only [Option.bind_eq_bind, Option.bind_some]
    split
    next => exact .invalid (by simp)
    split
    next => exact .invalid (by simp)
    split
    next => exact .invalid (by simp)
    split
    next => exact .invalid (by simp)
    split
    next => exact .invalid (by simp)
    split
    next => exact .invalid (by simp)
    next hlimit =>
      split
      next => exact .invalid (by simp)
      next htotal =>
        split
        next => exact .invalid (by simp)
        next =>
          refine Or.inr ⟨_, rfl, ?_, ?_, UInt32.not_lt.mp hlimit⟩
          · show payloadLength.toNat ≤ (bytes.drop abiHeaderSize.toNat).length
            rw [List.length_drop]
            omega
          · rw [MessageBuffer.sequence, hmemory, Option.bind_some, hsequence]

namespace Session

variable {session : Session} {view : MessageView}

/-- What an accepted message makes of a session, its sequence apart. -/
inductive Handled (session : Session) : Session → Prop
  | hello (capabilities : UInt32) (hstate : session.state = .opened) (hcapabilities : capabilities ≠ 0) :
    Handled session { session with
      negotiatedCapabilities := capabilities
      state := .negotiated }
  | attach (mtu : UInt32) (transmitQueueDepth receiveQueueDepth : UInt16)
      (hstate : session.state = .negotiated)
      (hmtu : sessionMinMtu.toNat ≤ mtu.toNat ∧ mtu.toNat ≤ abiMaxPacketSize)
      (htransmit : 0 < transmitQueueDepth.toNat ∧ transmitQueueDepth.toNat ≤ sessionMaxQueueDepth.toNat)
      (hreceive : 0 < receiveQueueDepth.toNat ∧ receiveQueueDepth.toNat ≤ sessionMaxQueueDepth.toNat) :
    Handled session { session with
      mtu := mtu
      transmitQueueDepth := transmitQueueDepth
      receiveQueueDepth := receiveQueueDepth
      state := .attached }
  | setLink (up : Bool) (hstate : session.state = .attached ∨ session.state = .linkUp) :
    Handled session { session with state := if up then .linkUp else .attached }
  | batch (hstate : session.state = .linkUp) : Handled session session
  | detach (hstate : session.state = .negotiated ∨ session.state = .attached ∨ session.state = .linkUp) :
    Handled session { session with
      mtu := 0
      transmitQueueDepth := 0
      receiveQueueDepth := 0
      state := .negotiated }

/-- A handler answers, and changes the session only where it accepts the message. -/
def Answered (session : Session) (answer : Option (SessionStatus × Session)) : Prop :=
  ∃ status next, answer = some (status, next) ∧
    (status ≠ .ok ∧ next = session ∨ status = .ok ∧ Handled session next)

theorem Answered.refused {status : SessionStatus} (h : status ≠ .ok) :
    Answered session (some (status, session)) := ⟨status, session, rfl, Or.inl ⟨h, rfl⟩⟩

theorem Handled.answered {next : Session} (h : Handled session next) :
    Answered session (some (.ok, next)) := ⟨.ok, next, rfl, Or.inr ⟨rfl, h⟩⟩

theorem processHello_answered (h : 16 ≤ view.payload.length) :
    Answered session (session.processHello view) := by
  obtain ⟨minimum, hminimum, _⟩ := readU16_of_le view.payload 0 (by omega)
  obtain ⟨maximum, hmaximum, _⟩ := readU16_of_le view.payload 2 (by omega)
  obtain ⟨requested, hrequested, _⟩ := readU32_of_le view.payload 4 (by omega)
  obtain ⟨first, hfirst, _⟩ := readU32_of_le view.payload 8 (by omega)
  obtain ⟨second, hsecond, _⟩ := readU32_of_le view.payload 12 (by omega)
  unfold processHello
  split
  next => exact .refused (by simp)
  next hstate =>
    rw [hminimum, hmaximum, hrequested, hfirst, hsecond]
    dsimp only [Option.bind_eq_bind, Option.bind_some]
    split
    next => exact .refused (by simp)
    split
    next => exact .refused (by simp)
    split
    next => exact .refused (by simp)
    next hcapabilities =>
      rw [not_or] at hcapabilities
      exact (Handled.hello _ (not_not.mp hstate) hcapabilities.1).answered

theorem processAttach_answered (h : 16 ≤ view.payload.length) :
    Answered session (session.processAttach view) := by
  obtain ⟨mtu, hmtu, _⟩ := readU32_of_le view.payload 0 (by omega)
  obtain ⟨transmit, htransmit, _⟩ := readU16_of_le view.payload 4 (by omega)
  obtain ⟨receive, hreceive, _⟩ := readU16_of_le view.payload 6 (by omega)
  obtain ⟨capabilities, hcapabilities, _⟩ := readU32_of_le view.payload 8 (by omega)
  obtain ⟨reserved, hreserved, _⟩ := readU32_of_le view.payload 12 (by omega)
  unfold processAttach
  split
  next => exact .refused (by simp)
  next hstate =>
    rw [hmtu, htransmit, hreceive, hcapabilities, hreserved]
    dsimp only [Option.bind_eq_bind, Option.bind_some]
    split
    next => exact .refused (by simp)
    split
    next => exact .refused (by simp)
    next hsize =>
      split
      next => exact .refused (by simp)
      next hdepth =>
        split
        next => exact .refused (by simp)
        next =>
          simp only [not_or, UInt32.not_lt, UInt16.not_lt, gt_iff_lt, not_lt] at hsize hdepth
          obtain ⟨hnone, hmany, hnone', hmany'⟩ := hdepth
          exact (Handled.attach mtu transmit receive (not_not.mp hstate)
            ⟨UInt32.le_iff_toNat_le.mp hsize.1, hsize.2⟩
            ⟨u16_pos hnone, UInt16.le_iff_toNat_le.mp hmany⟩
            ⟨u16_pos hnone', UInt16.le_iff_toNat_le.mp hmany'⟩).answered

theorem processSetLink_answered (h : 8 ≤ view.payload.length) :
    Answered session (session.processSetLink view) := by
  obtain ⟨linkUp, hlinkUp, _⟩ := readU32_of_le view.payload 0 (by omega)
  obtain ⟨reserved, hreserved, _⟩ := readU32_of_le view.payload 4 (by omega)
  unfold processSetLink
  split
  next => exact .refused (by simp)
  next hstate =>
    have hattached : session.state = .attached ∨ session.state = .linkUp := by
      by_cases hattached : session.state = .attached
      · exact Or.inl hattached
      · exact Or.inr (not_not.mp fun hlink => hstate ⟨hattached, hlink⟩)
    rw [hlinkUp, hreserved]
    dsimp only [Option.bind_eq_bind, Option.bind_some]
    split
    next => exact .refused (by simp)
    next =>
      have hhandled := Handled.setLink (decide (linkUp = 1)) hattached
      simp only [decide_eq_true_eq] at hhandled
      exact hhandled.answered

theorem processDetach_answered : Answered session (some session.processDetach) := by
  unfold processDetach
  split
  next => exact .refused (by simp)
  next hstate =>
    refine (Handled.detach ?_).answered
    by_cases hnegotiated : session.state = .negotiated
    · exact Or.inl hnegotiated
    by_cases hattached : session.state = .attached
    · exact Or.inr (Or.inl hattached)
    · exact Or.inr (Or.inr (not_not.mp fun hlink => hstate ⟨hnegotiated, hattached, hlink⟩))

theorem validatePacketBatchForMtu_total {payload : Bytes} {payloadLength : UInt32} (mtu : UInt32)
    (hbacked : payloadLength.toNat ≤ payload.length) :
    ∃ result, validatePacketBatchForMtu (some payload) payloadLength mtu = some result := by
  by_cases hmtu : mtu.toNat < abiMinPacketSize ∨ mtu.toNat > abiMaxPacketSize
  · exact ⟨_, if_pos hmtu⟩
  · rw [not_or, not_lt, not_lt] at hmtu
    rcases validatePacketBatchForMtu_spec hbacked hmtu.1 hmtu.2 with ⟨hbad, _⟩ | ⟨count, hgood, _⟩
    · exact ⟨_, hbad⟩
    · exact ⟨_, hgood⟩

/-- A message whose payload has the length of its type is answered. -/
theorem dispatch_answered {messageType : MessageType} {maximum : UInt32}
    (hmaximum : maximumPayloadLength messageType = some maximum)
    (hbacked : view.payloadLength.toNat ≤ view.payload.length)
    (hlength : view.payloadLength = maximum ∨ messageType = .txBatch ∨ messageType = .rxBatch) :
    ∃ status validation next, session.dispatch messageType view = some (status, validation, next) ∧
      (status ≠ .ok ∧ next = session ∨ status = .ok ∧ Handled session next) := by
  have hfrom : ∀ {answer : Option (SessionStatus × Session)}, Answered session answer →
      ∃ (status : SessionStatus) (validation : Option ValidationStatus) (next : Session),
        answer.map (fun reply => (reply.1, none, reply.2)) = some (status, validation, next) ∧
          (status ≠ .ok ∧ next = session ∨ status = .ok ∧ Handled session next) := by
    rintro answer ⟨status, next, rfl, hanswer⟩
    exact ⟨status, none, next, rfl, hanswer⟩
  cases messageType with
  | hello =>
    cases Option.some.inj hmaximum
    have hlong : view.payloadLength = 16 := hlength.resolve_right (by simp)
    rw [hlong] at hbacked
    exact hfrom (processHello_answered hbacked)
  | attach =>
    cases Option.some.inj hmaximum
    have hlong : view.payloadLength = 16 := hlength.resolve_right (by simp)
    rw [hlong] at hbacked
    exact hfrom (processAttach_answered hbacked)
  | setLink =>
    cases Option.some.inj hmaximum
    have hlong : view.payloadLength = 8 := hlength.resolve_right (by simp)
    rw [hlong] at hbacked
    exact hfrom (processSetLink_answered hbacked)
  | txBatch =>
    refine ⟨_, _, _, rfl, ?_⟩
    unfold processTransmitRequest
    split
    next => exact Or.inl ⟨by simp, rfl⟩
    next hstate =>
      split
      next => exact Or.inl ⟨by simp, rfl⟩
      next => exact Or.inr ⟨rfl, .batch (not_not.mp hstate)⟩
  | rxBatch =>
    simp only [dispatch, processPacketBatch]
    split
    next => exact ⟨_, _, _, rfl, Or.inl ⟨by simp, rfl⟩⟩
    next hstate =>
      obtain ⟨result, hresult⟩ := validatePacketBatchForMtu_total session.mtu hbacked
      rw [hresult, Option.bind_eq_bind, Option.bind_some]
      split
      next => exact ⟨_, _, _, rfl, Or.inl ⟨by simp, rfl⟩⟩
      next => exact ⟨_, _, _, rfl, Or.inr ⟨rfl, .batch (not_not.mp hstate)⟩⟩
  | detach => exact hfrom processDetach_answered
  | other value => cases hmaximum

/-- A call of `process` answers: it changes nothing, or accepts the next message of its owner. -/
theorem process_answered (session : Session) (ownerCookie : UInt64) (messageType : MessageType)
    (buffer : MessageBuffer) (validationStatus : Bool) :
    ∃ status validation next,
      session.process ownerCookie messageType buffer validationStatus = some (status, validation, next) ∧
      (status ≠ .ok ∧ next = session ∨
        status = .ok ∧ ownerCookie = session.ownerCookie ∧ session.state ≠ .closed ∧
          ∃ sequence handled, buffer.sequence = some sequence ∧ session.lastSequence < sequence ∧
            sequence.toNat < 2 ^ 64 - 1 ∧ Handled session handled ∧
            next = { handled with lastSequence := sequence }) := by
  unfold process
  split
  next => exact ⟨_, _, _, rfl, Or.inl ⟨by simp, rfl⟩⟩
  split
  next => exact ⟨_, _, _, rfl, Or.inl ⟨by simp, rfl⟩⟩
  next howner =>
    rw [not_or, not_not] at howner
    split
    next => exact ⟨_, _, _, rfl, Or.inl ⟨by simp, rfl⟩⟩
    next maximum hmaximum =>
      rcases validateMessage_spec buffer messageType maximum with ⟨status, hbad, hinvalid⟩ | ⟨view, hgood, hview⟩
      · rw [hbad, Option.bind_eq_bind, Option.bind_some]
        split
        next heq => simp at heq
        next => exact ⟨_, _, _, rfl, Or.inl ⟨by simp, rfl⟩⟩
      · rw [hgood, Option.bind_eq_bind, Option.bind_some]
        dsimp only
        split
        next => exact ⟨_, _, _, rfl, Or.inl ⟨by simp, rfl⟩⟩
        next hlength =>
          split
          next hsequence => exact ⟨_, _, _, rfl, Or.inl ⟨hsequence, rfl⟩⟩
          next hsequence =>
            have hfits : view.payloadLength = maximum ∨ messageType = .txBatch ∨ messageType = .rxBatch := by
              by_contra hno
              rw [not_or, not_or] at hno
              exact hlength hno
            obtain ⟨status, validation, next, hdispatch, hanswer⟩ :=
              @dispatch_answered session view messageType maximum hmaximum hview.backed hfits
            rw [hdispatch, Option.bind_eq_bind, Option.bind_some]
            dsimp only
            rcases hanswer with ⟨hrefused, rfl⟩ | ⟨rfl, hhandled⟩
            · rw [if_neg hrefused]
              exact ⟨_, _, _, rfl, Or.inl ⟨hrefused, rfl⟩⟩
            · rw [if_pos rfl]
              have hnext : ¬(view.sequence = UInt64.ofNat (2 ^ 64 - 1) ∨
                  view.sequence ≤ session.lastSequence) := by
                intro hold
                exact hsequence (by rw [validateSequence, if_pos hold]; simp)
              rw [not_or, UInt64.not_le] at hnext
              refine ⟨_, _, _, rfl, Or.inr ⟨rfl, howner.2.symm, howner.1, view.sequence, next, hview.sequence,
                hnext.2, ?_, hhandled, rfl⟩⟩
              have hlt := view.sequence.toNat_lt
              have hne : view.sequence.toNat ≠ 2 ^ 64 - 1 := fun hlast =>
                hnext.1 (UInt64.toNat_inj.mp (hlast.trans (by decide)))
              omega

end Session

end WindowsXsnet

end XsNexus
