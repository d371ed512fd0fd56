import XsNexus.DriverAbi

namespace XsNexus

open ByteCodec ByteMemory

namespace WindowsXsnet

def abiMagic : UInt32 := 0x314E5358

def abiVersion : UInt16 := 1

def abiHeaderSize : UInt16 := 32

def abiMaxPayload : UInt32 := 1048576

def abiHelloPayloadSize : UInt32 := 16

def abiAttachPayloadSize : UInt32 := 16

def abiSetLinkPayloadSize : UInt32 := 8

def capabilityIpv4 : UInt32 := 1

def sessionMinMtu : UInt32 := 1280

def sessionMaxQueueDepth : UInt16 := 64

def sessionDriverCapabilities : UInt32 := capabilityIpv4

/-- An integer that is none of the enumerators is `other`. -/
inductive MessageType
  | hello | attach | setLink | txBatch | rxBatch | detach
  | other (value : UInt32)
deriving DecidableEq

def MessageType.value : MessageType → UInt32
  | hello => 1
  | attach => 2
  | setLink => 3
  | txBatch => 4
  | rxBatch => 5
  | detach => 6
  | other value => value

structure MessageView where
  payload : Bytes
  payloadLength : UInt32
  sequence : UInt64

/-- A pointer with the `size_t` a caller gives for it: null, or to at least that many bytes. -/
structure MessageBuffer where
  memory : Option Bytes
  length : UInt64
  backed : ∀ bytes, memory = some bytes → length.toNat ≤ bytes.length

def readU64 (bytes : Bytes) (offset : Nat) : Option UInt64 :=
  (load bytes offset 8).map fun word => UInt64.ofNat (leNat word)

/-- The status, and the view that is written where the message is valid. -/
def validateMessage (buffer : MessageBuffer) (expectedType : MessageType) (maximumPayloadLength : UInt32) :
    Option (ValidationStatus × Option MessageView) :=
  match buffer.memory with
  | none => some (.invalidArgument, none)
  | some bytes =>
    if maximumPayloadLength > abiMaxPayload then some (.invalidArgument, none)
    else if buffer.length.toNat < abiHeaderSize.toNat then some (.truncated, none)
    else do
      if (← readU32 bytes 0) ≠ abiMagic then some (.badMagic, none)
      else if (← readU16 bytes 4) ≠ abiVersion then some (.unsupportedVersion, none)
      else if (← readU16 bytes 6) ≠ abiHeaderSize ∨ (← readU32 bytes 20) ≠ 0 then some (.badHeader, none)
      else if (← readU32 bytes 8) ≠ expectedType.value then some (.badType, none)
      else if (← readU32 bytes 12) ≠ 0 then some (.badFlags, none)
      else
        let payloadLength ← readU32 bytes 16
        if payloadLength > maximumPayloadLength then some (.badLength, none)
        else if abiHeaderSize.toNat + payloadLength.toNat ≠ buffer.length.toNat then some (.badLength, none)
        else
          let sequence ← readU64 bytes 24
          if sequence = 0 then some (.badSequence, none)
          else some (.valid, some ⟨bytes.drop abiHeaderSize.toNat, payloadLength, sequence⟩)

inductive SessionState
  | closed | opened | negotiated | attached | linkUp
deriving DecidableEq

inductive SessionStatus
  | ok | invalidArgument | badOwner | badState | badMessage | badSequence | badVersionRange
  | badCapabilities | badMtu | badQueueDepth
deriving DecidableEq

structure Session where
  ownerCookie : UInt64
  lastSequence : UInt64
  negotiatedCapabilities : UInt32
  mtu : UInt32
  transmitQueueDepth : UInt16
  receiveQueueDepth : UInt16
  state : SessionState
deriving DecidableEq

namespace Session

/-- `reset_session` and `XsnetSessionInitialize` write every field. -/
def reset : Session where
  ownerCookie := 0
  lastSequence := 0
  negotiatedCapabilities := 0
  mtu := 0
  transmitQueueDepth := 0
  receiveQueueDepth := 0
  state := .closed

def validateSequence (session : Session) (view : MessageView) : SessionStatus :=
  if view.sequence = UInt64.ofNat (2 ^ 64 - 1) ∨ view.sequence ≤ session.lastSequence then .badSequence
  else .ok

def processHello (session : Session) (view : MessageView) : Option (SessionStatus × Session) :=
  if session.state ≠ .opened then some (.badState, session)
  else do
    let minimumVersion ← readU16 view.payload 0
    let maximumVersion ← readU16 view.payload 2
    let requestedCapabilities ← readU32 view.payload 4
    if (← readU32 view.payload 8) ≠ 0 ∨ (← readU32 view.payload 12) ≠ 0 then some (.badMessage, session)
    else if minimumVersion > maximumVersion ∨ minimumVersion > abiVersion ∨ maximumVersion < abiVersion then
      some (.badVersionRange, session)
    else if requestedCapabilities &&& capabilityIpv4 = 0 ∨
        requestedCapabilities &&& ~~~sessionDriverCapabilities ≠ 0 then
      some (.badCapabilities, session)
    else some (.ok, { session with
      negotiatedCapabilities := requestedCapabilities &&& sessionDriverCapabilities
      state := .negotiated })

def processAttach (session : Session) (view : MessageView) : Option (SessionStatus × Session) :=
  if session.state ≠ .negotiated then some (.badState, session)
  else do
    let mtu ← readU32 view.payload 0
    let transmitQueueDepth ← readU16 view.payload 4
    let receiveQueueDepth ← readU16 view.payload 6
    let capabilities ← readU32 view.payload 8
    if (← readU32 view.payload 12) ≠ 0 then some (.badMessage, session)
    else if mtu < sessionMinMtu ∨ mtu.toNat > abiMaxPacketSize then some (.badMtu, session)
    else if transmitQueueDepth = 0 ∨ transmitQueueDepth > sessionMaxQueueDepth ∨
        receiveQueueDepth = 0 ∨ receiveQueueDepth > sessionMaxQueueDepth then
      some (.badQueueDepth, session)
    else if capabilities ≠ session.negotiatedCapabilities then some (.badCapabilities, session)
    else some (.ok, { session with
      mtu := mtu
      transmitQueueDepth := transmitQueueDepth
      receiveQueueDepth := receiveQueueDepth
      state := .attached })

def processSetLink (session : Session) (view : MessageView) : Option (SessionStatus × Session) :=
  if session.state ≠ .attached ∧ session.state ≠ .linkUp then some (.badState, session)
  else do
    let linkUp ← readU32 view.payload 0
    if linkUp > 1 ∨ (← readU32 view.payload 4) ≠ 0 then some (.badMessage, session)
    else some (.ok, { session with state := if linkUp = 1 then .linkUp else .attached })

/-- The status, and what is written to `validation_status`, `none` where nothing is. -/
def processPacketBatch (session : Session) (view : MessageView) :
    Option (SessionStatus × Option ValidationStatus) :=
  if session.state ≠ .linkUp then some (.badState, none)
  else do
    let (validation, _) ← validatePacketBatchForMtu (some view.payload) view.payloadLength session.mtu
    if validation ≠ .valid then some (.badMessage, some validation) else some (.ok, some validation)

def processTransmitRequest (session : Session) (view : MessageView) : SessionStatus :=
  if session.state ≠ .linkUp then .badState
  else if view.payloadLength ≠ 0 then .badMessage
  else .ok

def processDetach (session : Session) : SessionStatus × Session :=
  if session.state ≠ .negotiated ∧ session.state ≠ .attached ∧ session.state ≠ .linkUp then
    (.badState, session)
  else (.ok, { session with
    mtu := 0
    transmitQueueDepth := 0
    receiveQueueDepth := 0
    state := .negotiated })

/-- `XsnetSessionOpen`; the pointer to the session is not null, here and below. -/
def openSession (session : Session) (ownerCookie : UInt64) : SessionStatus × Session :=
  if ownerCookie = 0 then (.invalidArgument, session)
  else if session.state ≠ .closed then (.badState, session)
  else (.ok, { session with
    ownerCookie := ownerCookie
    state := .opened })

/-- `XsnetSessionClose` -/
def close (session : Session) (ownerCookie : UInt64) : SessionStatus × Session :=
  if ownerCookie = 0 then (.invalidArgument, session)
  else if session.state = .closed ∨ session.ownerCookie ≠ ownerCookie then (.badOwner, session)
  else (.ok, reset)

/-- The first switch of `XsnetSessionProcess` -/
def maximumPayloadLength : MessageType → Option UInt32
  | .hello => some abiHelloPayloadSize
  | .attach => some abiAttachPayloadSize
  | .setLink => some abiSetLinkPayloadSize
  | .txBatch => some 0
  | .rxBatch => some abiMaxPayload
  | .detach => some 0
  | .other _ => none

/-- The second switch of `XsnetSessionProcess`, with what a handler writes to `validation_status`. -/
def dispatch (session : Session) (messageType : MessageType) (view : MessageView) :
    Option (SessionStatus × Option ValidationStatus × Session) :=
  match messageType with
  | .hello => (session.processHello view).map fun (status, next) => (status, none, next)
  | .attach => (session.processAttach view).map fun (status, next) => (status, none, next)
  | .setLink => (session.processSetLink view).map fun (status, next) => (status, none, next)
  | .txBatch => some (session.processTransmitRequest view, none, session)
  | .rxBatch => (session.processPacketBatch view).map fun (status, validation) => (status, validation, session)
  | .detach => some ((session.processDetach).1, none, (session.processDetach).2)
  | .other _ => some (.badMessage, none, session)

/-- `XsnetSessionProcess`: the status, what is written to `validation_status`, and the session.
`validationStatus` tells whether that pointer is not null. -/
def process (session : Session) (ownerCookie : UInt64) (messageType : MessageType) (buffer : MessageBuffer)
    (validationStatus : Bool) : Option (SessionStatus × Option ValidationStatus × Session) :=
  if ownerCookie = 0 ∨ validationStatus = false then some (.invalidArgument, none, session)
  else if session.state = .closed ∨ session.ownerCookie ≠ ownerCookie then
    some (.badOwner, some .invalidArgument, session)
  else
    match maximumPayloadLength messageType with
    | none => some (.badMessage, some .invalidArgument, session)
    | some maximum => do
      match ← validateMessage buffer messageType maximum with
      | (.valid, some view) =>
        if view.payloadLength ≠ maximum ∧ messageType ≠ .txBatch ∧ messageType ≠ .rxBatch then
          some (.badMessage, some .valid, session)
        else if session.validateSequence view ≠ .ok then
          some (session.validateSequence view, some .valid, session)
        else
          let (status, validation, next) ← session.dispatch messageType view
          let validation := validation.getD .valid
          if status = .ok then some (status, some validation, { next with lastSequence := view.sequence })
          else some (status, some validation, next)
      | (validation, _) => some (.badMessage, some validation, session)

end Session

end WindowsXsnet

end XsNexus
