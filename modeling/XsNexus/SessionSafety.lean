import XsNexus.SessionAnswers

namespace XsNexus

open ByteCodec ByteMemory

namespace WindowsXsnet

/-- The calls on a session -/
inductive SessionCall
  | openSession (ownerCookie : UInt64)
  | close (ownerCookie : UInt64)
  | process (ownerCookie : UInt64) (messageType : MessageType) (buffer : MessageBuffer)
      (validationStatus : Bool)

def Session.apply (session : Session) : SessionCall → Option (SessionStatus × Session)
  | .openSession ownerCookie => some (session.openSession ownerCookie)
  | .close ownerCookie => some (session.close ownerCookie)
  | .process ownerCookie messageType buffer validationStatus =>
    (session.process ownerCookie messageType buffer validationStatus).map
      fun (status, _, next) => (status, next)

/-- A session with the owners and the sequences of the messages it has accepted: of all, and of those since
it was last opened or closed. -/
structure Conversation where
  session : Session
  history : List (UInt64 × UInt64)
  accepted : List (UInt64 × UInt64)

namespace Conversation

/-- The conversation with a new session -/
def new : Conversation := ⟨.reset, [], []⟩

/-- `none` where a call reads beyond its memory. -/
def step (conversation : Conversation) (call : SessionCall) : Option Conversation := do
  let (status, next) ← conversation.session.apply call
  match call, status with
  | .openSession _, .ok => some { conversation with session := next, accepted := [] }
  | .close _, .ok => some { conversation with session := next, accepted := [] }
  | .process ownerCookie _ buffer _, .ok =>
    let message ← buffer.sequence.map fun sequence => (ownerCookie, sequence)
    some ⟨next, conversation.history ++ [message], conversation.accepted ++ [message]⟩
  | _, _ => some { conversation with session := next }

def run (conversation : Conversation) (calls : List SessionCall) : Option Conversation :=
  calls.foldlM step conversation

end Conversation

/-- The fields of a session go with its state. -/
structure Session.Sound (session : Session) : Prop where
  owner : session.ownerCookie ≠ 0 ↔ session.state ≠ .closed
  capabilities : session.negotiatedCapabilities ≠ 0 ↔
    session.state = .negotiated ∨ session.state = .attached ∨ session.state = .linkUp
  limits : session.state = .attached ∨ session.state = .linkUp →
    (sessionMinMtu.toNat ≤ session.mtu.toNat ∧ session.mtu.toNat ≤ abiMaxPacketSize) ∧
      (0 < session.transmitQueueDepth.toNat ∧
        session.transmitQueueDepth.toNat ≤ sessionMaxQueueDepth.toNat) ∧
      (0 < session.receiveQueueDepth.toNat ∧ session.receiveQueueDepth.toNat ≤ sessionMaxQueueDepth.toNat)
  zeroed : ¬(session.state = .attached ∨ session.state = .linkUp) →
    session.mtu = 0 ∧ session.transmitQueueDepth = 0 ∧ session.receiveQueueDepth = 0

namespace Session

variable {session after : Session}

theorem reset_sound : reset.Sound := by
  refine ⟨?_, ?_, ?_, fun _ => ⟨rfl, rfl, rfl⟩⟩
  · simp [reset]
  · simp [reset]
  · simp [reset]

theorem openSession_answered (session : Session) (ownerCookie : UInt64) :
    (∃ status, session.openSession ownerCookie = (status, session) ∧ status ≠ .ok) ∨
    (session.openSession ownerCookie = (.ok, { session with
      ownerCookie := ownerCookie
      state := .opened }) ∧ ownerCookie ≠ 0 ∧ session.state = .closed) := by
  unfold Session.openSession
  split
  next => exact Or.inl ⟨_, rfl, by simp⟩
  next howner =>
    split
    next => exact Or.inl ⟨_, rfl, by simp⟩
    next hstate => exact Or.inr ⟨rfl, howner, not_not.mp hstate⟩

theorem close_answered (session : Session) (ownerCookie : UInt64) :
    (∃ status, session.close ownerCookie = (status, session) ∧ status ≠ .ok) ∨
    session.close ownerCookie = (.ok, reset) := by
  unfold Session.close
  split
  next => exact Or.inl ⟨_, rfl, by simp⟩
  split
  next => exact Or.inl ⟨_, rfl, by simp⟩
  next => exact Or.inr rfl

theorem Sound.opened (h : session.Sound) {ownerCookie : UInt64} (howner : ownerCookie ≠ 0)
    (hclosed : session.state = .closed) :
    ({ session with ownerCookie := ownerCookie, state := .opened } : Session).Sound := by
  refine ⟨by simp [howner], ?_, by simp, fun _ => h.zeroed (by simp [hclosed])⟩
  have hnone := h.capabilities
  simp only [hclosed, reduceCtorEq, or_self, iff_false, not_not] at hnone
  simp [hnone]

theorem Handled.state (h : Handled session after) :
    session.state ≠ .closed ∧ after.state ≠ .closed ∧ after.ownerCookie = session.ownerCookie := by
  cases h with
  | hello capabilities hstate hcapabilities => exact ⟨by simp [hstate], by simp, rfl⟩
  | attach mtu transmit receive hstate hmtu htransmit hreceive => exact ⟨by simp [hstate], by simp, rfl⟩
  | setLink up hstate =>
    refine ⟨?_, ?_, rfl⟩
    · rcases hstate with hstate | hstate <;> simp [hstate]
    · cases up <;> simp
  | batch hstate => exact ⟨by simp [hstate], by simp [hstate], rfl⟩
  | detach hstate =>
    refine ⟨?_, by simp, rfl⟩
    rcases hstate with hstate | hstate | hstate <;> simp [hstate]

theorem Sound.handled (h : session.Sound) (hhandled : Handled session after) (sequence : UInt64) :
    ({ after with lastSequence := sequence } : Session).Sound := by
  have hstates := hhandled.state
  have howner : after.ownerCookie ≠ 0 ↔ after.state ≠ .closed := by
    rw [hstates.2.2]
    exact iff_of_true (h.owner.mpr hstates.1) hstates.2.1
  cases hhandled with
  | hello capabilities hstate hcapabilities =>
    refine ⟨howner, by simpa using hcapabilities, by simp, fun _ => h.zeroed (by simp [hstate])⟩
  | attach mtu transmit receive hstate hmtu htransmit hreceive =>
    have hcapable := h.capabilities.mpr (Or.inl hstate)
    exact ⟨howner, by simpa using hcapable, fun _ => ⟨hmtu, htransmit, hreceive⟩, by simp⟩
  | setLink up hstate =>
    have hcapable := h.capabilities.mpr (Or.inr hstate)
    have hlimits := h.limits hstate
    cases up with
    | true => exact ⟨howner, by simpa using hcapable, fun _ => hlimits, by simp⟩
    | false => exact ⟨howner, by simpa using hcapable, fun _ => hlimits, by simp⟩
  | batch hstate => exact ⟨howner, h.capabilities, h.limits, h.zeroed⟩
  | detach hstate =>
    have hcapable := h.capabilities.mpr hstate
    exact ⟨howner, by simpa using hcapable, by simp, fun _ => ⟨rfl, rfl, rfl⟩⟩

end Session

namespace Conversation

/-- The messages accepted since the session was opened are of its owner, in the order of their sequences. -/
structure Sound (conversation : Conversation) : Prop where
  session : conversation.session.Sound
  owners : ∀ message ∈ conversation.accepted, message.1 = conversation.session.ownerCookie
  increasing : (conversation.accepted.map Prod.snd).Pairwise (· < ·)
  bounded : ∀ message ∈ conversation.accepted, message.2.toNat < 2 ^ 64 - 1
  last : ∀ message ∈ conversation.accepted, message.2 ≤ conversation.session.lastSequence

variable {conversation : Conversation}

theorem new_sound : new.Sound := ⟨Session.reset_sound, by simp [new], by simp [new], by simp [new], by simp [new]⟩

theorem step_refused {call : SessionCall} {status : SessionStatus}
    (h : conversation.session.apply call = some (status, conversation.session)) (hstatus : status ≠ .ok) :
    conversation.step call = some conversation := by
  unfold step
  rw [h, Option.bind_eq_bind, Option.bind_some]
  cases status with
  | ok => exact absurd rfl hstatus
  | _ => cases call <;> rfl

/-- What a call answers: it changes nothing, opens or closes the session, or accepts a message. -/
theorem apply_cases (session : Session) (call : SessionCall) :
    (∃ status, session.apply call = some (status, session) ∧ status ≠ .ok) ∨
    (∃ ownerCookie, call = .openSession ownerCookie ∧ ownerCookie ≠ 0 ∧ session.state = .closed ∧
      session.apply call = some (.ok, { session with ownerCookie := ownerCookie, state := .opened })) ∨
    (∃ ownerCookie, call = .close ownerCookie ∧ session.apply call = some (.ok, .reset)) ∨
    ∃ ownerCookie messageType buffer validationStatus sequence handled,
      call = .process ownerCookie messageType buffer validationStatus ∧
        ownerCookie = session.ownerCookie ∧ session.state ≠ .closed ∧ buffer.sequence = some sequence ∧
        session.lastSequence < sequence ∧ sequence.toNat < 2 ^ 64 - 1 ∧ session.Handled handled ∧
        session.apply call = some (.ok, { handled with lastSequence := sequence }) := by
  cases call with
  | openSession ownerCookie =>
    rcases session.openSession_answered ownerCookie with ⟨status, hrefused, hstatus⟩ | ⟨hopened, howner, hclosed⟩
    · exact Or.inl ⟨status, congrArg some hrefused, hstatus⟩
    · exact Or.inr (Or.inl ⟨ownerCookie, rfl, howner, hclosed, congrArg some hopened⟩)
  | close ownerCookie =>
    rcases session.close_answered ownerCookie with ⟨status, hrefused, hstatus⟩ | hclosed
    · exact Or.inl ⟨status, congrArg some hrefused, hstatus⟩
    · exact Or.inr (Or.inr (Or.inl ⟨ownerCookie, rfl, congrArg some hclosed⟩))
  | process ownerCookie messageType buffer validationStatus =>
    obtain ⟨status, validation, next, hprocess, hanswer⟩ :=
      session.process_answered ownerCookie messageType buffer validationStatus
    have happly : session.apply (.process ownerCookie messageType buffer validationStatus) =
        some (status, next) := by
      rw [Session.apply, hprocess]
      rfl
    rcases hanswer with ⟨hstatus, rfl⟩ |
      ⟨rfl, howner, hstate, sequence, handled, hsequence, hlast, hbound, hhandled, rfl⟩
    · exact Or.inl ⟨status, happly, hstatus⟩
    · exact Or.inr (Or.inr (Or.inr ⟨ownerCookie, messageType, buffer, validationStatus, sequence, handled, rfl,
        howner, hstate, hsequence, hlast, hbound, hhandled, happly⟩))

/-- Every call answers, and what it makes of a sound conversation is sound. -/
theorem Sound.step (h : conversation.Sound) (call : SessionCall) :
    ∃ next, conversation.step call = some next ∧ next.Sound := by
  rcases apply_cases conversation.session call with ⟨status, hrefused, hstatus⟩ |
    ⟨ownerCookie, rfl, howner, hclosed, hopened⟩ | ⟨ownerCookie, rfl, hclosed⟩ |
    ⟨ownerCookie, messageType, buffer, validationStatus, sequence, handled, rfl, howner, _, hsequence, hlast,
      hbound, hhandled, haccepted⟩
  · exact ⟨conversation, step_refused hrefused hstatus, h⟩
  · refine ⟨_, by rw [Conversation.step, hopened]; rfl, h.session.opened howner hclosed, ?_, ?_, ?_, ?_⟩
    · simp
    · simp
    · simp
    · simp
  · refine ⟨_, by rw [Conversation.step, hclosed]; rfl, Session.reset_sound, ?_, ?_, ?_, ?_⟩
    · simp
    · simp
    · simp
    · simp
  · refine ⟨_, by rw [Conversation.step, haccepted, Option.bind_eq_bind, Option.bind_some]; simp [hsequence]; rfl,
      h.session.handled hhandled sequence, ?_, ?_, ?_, ?_⟩
    · intro message hmessage
      rcases List.mem_append.mp hmessage with hold | hnew
      · exact (h.owners message hold).trans hhandled.state.2.2.symm
      · rw [List.mem_singleton.mp hnew]
        exact howner.trans hhandled.state.2.2.symm
    · rw [List.map_append, List.pairwise_append]
      refine ⟨h.increasing, by simp, fun first hfirst second hsecond => ?_⟩
      obtain ⟨message, hmessage, rfl⟩ := List.mem_map.mp hfirst
      rw [List.map_singleton, List.mem_singleton] at hsecond
      rw [hsecond]
      exact UInt64.lt_of_le_of_lt (h.last message hmessage) hlast
    · intro message hmessage
      rcases List.mem_append.mp hmessage with hold | hnew
      · exact h.bounded message hold
      · rw [List.mem_singleton.mp hnew]
        exact hbound
    · intro message hmessage
      rcases List.mem_append.mp hmessage with hold | hnew
      · exact UInt64.le_of_lt (UInt64.lt_of_le_of_lt (h.last message hold) hlast)
      · rw [List.mem_singleton.mp hnew]
        exact UInt64.le_refl _

theorem Sound.run (h : conversation.Sound) (calls : List SessionCall) :
    ∃ last, conversation.run calls = some last ∧ last.Sound := by
  induction calls generalizing conversation with
  | nil => exact ⟨conversation, rfl, h⟩
  | cons call calls ih =>
    obtain ⟨next, hnext, hsound⟩ := h.step call
    obtain ⟨last, hlast, hlastSound⟩ := ih hsound
    refine ⟨last, ?_, hlastSound⟩
    rw [Conversation.run, List.foldlM_cons, hnext, Option.bind_eq_bind, Option.bind_some]
    exact hlast

/-- Every run of calls leaves a sound session, in which a call that is not accepted changes nothing and no
message of another owner is accepted. -/
theorem session_machine_safe (calls : List SessionCall) :
    ∃ last, new.run calls = some last ∧ last.Sound ∧
      ∀ call, ∃ status next, last.session.apply call = some (status, next) ∧
        (status ≠ .ok → next = last.session) ∧
        ∀ ownerCookie messageType buffer validationStatus,
          call = .process ownerCookie messageType buffer validationStatus → status = .ok →
            ownerCookie = last.session.ownerCookie ∧ last.session.state ≠ .closed := by
  obtain ⟨last, hlast, hsound⟩ := new_sound.run calls
  refine ⟨last, hlast, hsound, fun call => ?_⟩
  rcases apply_cases last.session call with ⟨status, hrefused, hstatus⟩ |
    ⟨ownerCookie, rfl, _, _, hopened⟩ | ⟨ownerCookie, rfl, hclosed⟩ |
    ⟨ownerCookie, messageType, buffer, validationStatus, sequence, handled, rfl, howner, hstate, _, _, _, _,
      haccepted⟩
  · exact ⟨status, _, hrefused, fun _ => rfl, fun _ _ _ _ _ hok => absurd hok hstatus⟩
  · exact ⟨.ok, _, hopened, fun hno => absurd rfl hno, fun _ _ _ _ hcall => by cases hcall⟩
  · exact ⟨.ok, _, hclosed, fun hno => absurd rfl hno, fun _ _ _ _ hcall => by cases hcall⟩
  · refine ⟨.ok, _, haccepted, fun hno => absurd rfl hno, fun owner _ _ _ hcall _ => ?_⟩
    cases hcall
    exact ⟨howner, hstate⟩

/-- A `HELLO` for the version and the capability of the driver -/
def sampleHello (sequence : UInt8) : MessageBuffer where
  memory := some ([0x58, 0x53, 0x4e, 0x31, 1, 0, 32, 0, 1, 0, 0, 0, 0, 0, 0, 0, 16, 0, 0, 0, 0, 0, 0, 0,
    sequence, 0, 0, 0, 0, 0, 0, 0] ++ [1, 0, 1, 0, 1, 0, 0, 0, 0, 0, 0, 0, 0, 0, 0, 0])
  length := 48
  backed := by
    intro bytes h
    rw [← Option.some.inj h]
    exact Nat.le_refl 48

/-- An owner closes its session and opens another one. -/
def sampleReopened : List SessionCall := [
  .openSession 7, .process 7 .hello (sampleHello 5) true, .close 7,
  .openSession 7, .process 7 .hello (sampleHello 1) true]

/-- The sequences of one owner start again with its next session. -/
theorem sequences_restart : ¬∀ calls last, new.run calls = some last → ∀ owner : UInt64,
    ((last.history.filter fun message => message.1 == owner).map Prod.snd).Pairwise (· < ·) := by
  intro h
  have hrun : (new.run sampleReopened).map Conversation.history = some [(7, 5), (7, 1)] := by
    decide +kernel
  obtain ⟨last, hlast, hhistory⟩ := Option.map_eq_some_iff.mp hrun
  have hincreasing := h sampleReopened last hlast 7
  rw [hhistory] at hincreasing
  exact absurd hincreasing (by decide)

end Conversation

end WindowsXsnet

end XsNexus
