import XsNexus.CanonicalFrames
import XsNexus.GrantCounters
import XsNexus.LostLeases

namespace XsNexus

open ByteCodec FiniteMap GrantCounters MachineWords Runs

/-- The frame of a datagram that a relay takes for data or for a keepalive. -/
def relayFrameOf (datagram : Bytes) : Option RelayFrame :=
  if datagram[5]? = some relayDataType then parseRelayFrame datagram
  else if datagram[5]? = some relayKeepaliveType then parseRelayKeepalive datagram
  else none

/-- The frames among the datagrams of a call. -/
def RelayManagerOutput.sentFrames : RelayManagerOutput → List RelayFrame
  | .wrapped (.ok (some datagram)) => (relayFrameOf datagram).toList
  | .maintained (.ok maintenance) => maintenance.outbound.filterMap fun sent => relayFrameOf sent.2
  | _ => []

/-- The lease a frame belongs to, and its number under it. -/
def RelayFrame.count (frame : RelayFrame) : (Block 16 × Block 16) × Nat :=
  ((frame.relayId, frame.leaseId), frame.sequence.toNat)

def RelayClient.holder (client : RelayClient) : Holder (Block 16) (Block 16 × Block 16) where
  pending := client.pending.map PendingRegistration.requestId
  lease := client.lease.map fun lease => ((client.relayId, lease.leaseId), lease.nextSequence.toNat)

/-- The stored request is one, so that it is no frame of a lease. -/
def RelayClient.Asks (client : RelayClient) : Prop :=
  ∀ pending, client.pending = some pending → pending.encoded[5]? = some relayRegisterRequestType

namespace RelayManager

def holder (manager : RelayManager) (endpoint : SocketAddr) : Holder (Block 16) (Block 16 × Block 16) :=
  ((manager.clients.lookup endpoint).map RelayClient.holder).getD .empty

def Asks (manager : RelayManager) : Prop :=
  ∀ endpoint client, manager.clients.lookup endpoint = some client → client.Asks

/-- The request identifier that a call draws for the relay at an endpoint. -/
def drawn (manager : RelayManager) : RelayManagerOp → SocketAddr → Option (Block 16)
  | .maintain _ _ reads, endpoint =>
    if endpoint ∈ manager.clients then (reads endpoint).requestId else none
  | _, _ => none

/-- The request identifiers a run draws. -/
def requestIds (c : Crypto) (f : Formats) : RelayManager → List RelayManagerOp → List (Block 16)
  | _, [] => []
  | manager, op :: ops =>
    manager.clients.keys.filterMap (manager.drawn op) ++ requestIds c f (manager.step c f op).2 ops

/-- The lease a relay grants is the one of the request it answers. -/
def Granted (c : Crypto) (requestOf : Block 16 × Block 16 → Block 16) (manager : RelayManager) :
    RelayManagerOp → Prop
  | .handleDatagram source datagram _ unixNow =>
    ∀ client ∈ manager.clients.lookup (normalizeEndpoint source), ∀ pending ∈ client.pending,
      ∀ response ∈ verifyRelayRegisterResponse c datagram client.verifyingKey manager.networkId
        manager.nodeId client.relayId pending.requestId unixNow,
        requestOf (client.relayId, response.leaseId) = pending.requestId
  | _ => True

instance (c : Crypto) (requestOf : Block 16 × Block 16 → Block 16) (manager : RelayManager) :
    (op : RelayManagerOp) → Decidable (manager.Granted c requestOf op)
  | .handleDatagram .. => by
    unfold Granted
    infer_instance
  | .wrap .. => isTrue trivial
  | .authenticateActivity .. => isTrue trivial
  | .maintain .. => isTrue trivial
  | .applyConfiguration .. => isTrue trivial

end RelayManager

theorem encodeRelayKeepalive_inj {networkId relayId nodeId leaseId networkId' relayId' nodeId' leaseId' :
    Block 16} {sequence sequence' : UInt64}
    (h : (encodeRelayKeepalive networkId relayId nodeId leaseId sequence).val =
      (encodeRelayKeepalive networkId' relayId' nodeId' leaseId' sequence').val) :
    networkId = networkId' ∧ relayId = relayId' ∧ nodeId = nodeId' ∧ leaseId = leaseId' ∧
      sequence = sequence' := by
  unfold encodeRelayKeepalive at h
  obtain ⟨h, hsequence⟩ := List.append_inj' h (by simp)
  obtain ⟨h, hlease⟩ := List.append_inj' h (by simp)
  obtain ⟨h, _⟩ := List.append_inj' h (by simp)
  obtain ⟨h, hnode⟩ := List.append_inj' h (by simp)
  obtain ⟨h, hrelay⟩ := List.append_inj' h (by simp)
  obtain ⟨_, hnetwork⟩ := List.append_inj' h (by simp)
  refine ⟨Subtype.ext hnetwork, Subtype.ext hrelay, Subtype.ext hnode, Subtype.ext hlease, ?_⟩
  have hsame : u64ToBe sequence = u64ToBe sequence' := Subtype.ext hsequence
  rw [← u64FromBe_toBe sequence, hsame, u64FromBe_toBe]

theorem relayFrameOf_keepalive {networkId relayId nodeId leaseId : Block 16} {sequence : UInt64}
    {frame : RelayFrame}
    (h : relayFrameOf (encodeRelayKeepalive networkId relayId nodeId leaseId sequence).val = some frame) :
    frame.count = ((relayId, leaseId), sequence.toNat) := by
  have hparse : parseRelayKeepalive (encodeRelayKeepalive networkId relayId nodeId leaseId sequence).val =
      some frame := h
  obtain ⟨_, hframe, hencoded⟩ := encode_of_parseRelayKeepalive hparse
  obtain ⟨_, hrelay, _, hlease, hsequence⟩ := encodeRelayKeepalive_inj hencoded
  unfold RelayFrame.count
  rw [hrelay, hlease, hsequence]

theorem relayFrameOf_encode {frame : RelayFrame} {datagram : Bytes}
    (h : encodeRelayFrame frame = some datagram) : relayFrameOf datagram = some frame := by
  obtain ⟨hbounded, rfl⟩ := encodeRelayFrame_eq_some_iff.mp h
  have htype : (frame.header ++ frame.payload)[5]? = some relayDataType := by
    unfold RelayFrame.header
    simp only [List.append_assoc]
    rw [List.getElem?_append_left (by rw [Block.length_val]; decide)]
    rfl
  rw [relayFrameOf, if_pos htype]
  exact parseRelayFrame_header hbounded

theorem relayFrameOf_request {datagram : Bytes} (h : datagram[5]? = some relayRegisterRequestType) :
    relayFrameOf datagram = none := by
  unfold relayFrameOf
  rw [h, if_neg (by decide), if_neg (by decide)]

namespace RelayClient

variable {c : Crypto} {manager : RelayManager} {client : RelayClient} {now : Nat} {unixNow : UInt64}
  {requestOf : Block 16 × Block 16 → Block 16}

/-- What is sent of a relay's own: nothing that it would take for a frame. -/
def Silent (sent : List (SocketAddr × Bytes)) : Prop := ∀ datagram ∈ sent, relayFrameOf datagram.2 = none

theorem filterMap_silent {sent : List (SocketAddr × Bytes)} (h : Silent sent) :
    (sent.filterMap fun datagram => relayFrameOf datagram.2) = [] := by
  rw [List.filterMap_eq_nil_iff]
  exact h

theorem maintainPending_holder (h : client.Asks) (now : Nat) :
    Silent (client.maintainPending now).1 ∧ (client.maintainPending now).2.Asks ∧
      (client.maintainPending now).2.holder.lease = client.holder.lease ∧
      ((client.maintainPending now).2.holder.pending = none ∨
        (client.maintainPending now).2.holder.pending = client.holder.pending) := by
  unfold maintainPending
  split
  next => exact ⟨by simp [Silent], h, rfl, .inr rfl⟩
  next pending hpending =>
    split
    next => exact ⟨by simp [Silent], h, rfl, .inr rfl⟩
    next =>
      split
      next => exact ⟨by simp [Silent], by simp [Asks], rfl, .inl rfl⟩
      next =>
        refine ⟨fun datagram hdatagram => ?_, fun sent hsent => ?_, rfl, .inr ?_⟩
        · rw [List.mem_singleton.mp hdatagram]
          exact relayFrameOf_request (h pending hpending)
        · cases hsent
          exact h pending hpending
        · unfold holder
          rw [hpending]
          rfl

theorem maintainRegistration_holder (h : client.Asks) (requestId : Option (Block 16)) :
    (∀ sent, (client.maintainRegistration c manager now unixNow requestId).1 = .ok sent → Silent sent) ∧
      (client.maintainRegistration c manager now unixNow requestId).2.Asks ∧
      (client.maintainRegistration c manager now unixNow requestId).2.holder.lease =
        client.holder.lease ∧
      ((client.maintainRegistration c manager now unixNow requestId).2.holder.pending =
          client.holder.pending ∨
        ∃ request, requestId = some request ∧
          (client.maintainRegistration c manager now unixNow requestId).2.holder.pending =
            some request) := by
  unfold maintainRegistration
  split
  next hdue =>
    unfold beginRegistration
    split
    next => exact ⟨by simp, h, rfl, .inl rfl⟩
    next encoded begun hbegun =>
      split at hbegun
      next =>
        cases hbegun
        exact ⟨by simp [Silent], h, rfl, .inl rfl⟩
      next =>
        obtain ⟨request, hrequest, hbegun⟩ := Checks.bind_ok.mp hbegun
        cases hbegun
        refine ⟨fun sent hsent => ?_, fun pending hpending => ?_, rfl, .inr ⟨request, ?_, rfl⟩⟩
        · cases hsent
          intro datagram hdatagram
          rw [List.mem_singleton.mp hdatagram]
          exact relayFrameOf_request rfl
        · cases hpending
          rfl
        · unfold drawRequestId at hrequest
          split at hrequest
          next => simp at hrequest
          next =>
            split at hrequest
            next => simp at hrequest
            next =>
              cases hrequest
              rfl
  next => exact ⟨by simp [Silent], h, rfl, .inl rfl⟩

/-- A round of keepalives counts by one under the lease, or does nothing. -/
theorem maintainKeepalive_holder (h : client.Asks) (manager : RelayManager) (now : Nat) :
    (client.maintainKeepalive manager now).2.Asks ∧
      (client.maintainKeepalive manager now).2.holder.pending = client.holder.pending ∧
      ∃ frame : Option RelayFrame,
        (∀ sent, (client.maintainKeepalive manager now).1 = .ok sent →
          (sent.filterMap fun datagram => relayFrameOf datagram.2) = frame.toList) ∧
        ((frame = none ∧
            (client.maintainKeepalive manager now).2.holder.lease = client.holder.lease) ∨
          ∃ grant count, client.holder.lease = some (grant, count) ∧
            (client.maintainKeepalive manager now).2.holder.lease = some (grant, count + 1) ∧
            ∀ sent, frame = some sent → sent.count = (grant, count)) := by
  unfold maintainKeepalive
  split
  next => exact ⟨h, rfl, none, by simp, .inl ⟨rfl, rfl⟩⟩
  next lease hlease =>
    split
    next =>
      split
      next => exact ⟨h, rfl, none, by simp, .inl ⟨rfl, rfl⟩⟩
      next next hnext =>
        have hcount := u64CheckedAdd_eq_some hnext
        refine ⟨h, rfl, relayFrameOf (encodeRelayKeepalive manager.networkId client.relayId
          manager.nodeId lease.leaseId lease.nextSequence).val, fun sent hsent => ?_,
          .inr ⟨(client.relayId, lease.leaseId), lease.nextSequence.toNat, ?_, ?_, fun frame hframe => ?_⟩⟩
        · cases hsent
          cases hframe : relayFrameOf (encodeRelayKeepalive manager.networkId client.relayId
            manager.nodeId lease.leaseId lease.nextSequence).val with
          | none => simp [hframe]
          | some frame => simp [hframe]
        · unfold holder
          rw [hlease]
          rfl
        · show some ((client.relayId, lease.leaseId), next.toNat) = _
          rw [hcount]
          rfl
        · exact relayFrameOf_keepalive hframe
    next => exact ⟨h, rfl, none, by simp, .inl ⟨rfl, rfl⟩⟩

/-- What a round over a relay sends is added to what the rounds before it have sent. -/
theorem maintain_progress (c : Crypto) (manager : RelayManager) (now : Nat) (unixNow : UInt64)
    (reads : RelayReads) (client : RelayClient) (progress : RelayMaintenance) :
    client.maintain c manager now unixNow reads progress =
      match client.maintain c manager now unixNow reads ⟨[], []⟩ with
      | (.error error, after) => (.error error, after)
      | (.ok own, after) => (.ok ⟨progress.outbound ++ own.outbound,
          progress.failedEndpoints ++ own.failedEndpoints⟩, after) := by
  unfold maintain
  split
  next => simp
  next =>
    dsimp only
    split
    next => rfl
    next =>
      split
      next => rfl
      next => simp

/-- The frame that a round over a relay sends. -/
def keepaliveSent (c : Crypto) (manager : RelayManager) (now : Nat) (unixNow : UInt64)
    (reads : RelayReads) (client : RelayClient) : Option RelayFrame :=
  match (client.maintain c manager now unixNow reads ⟨[], []⟩).1 with
  | .error _ => none
  | .ok own => (own.outbound.filterMap fun sent => relayFrameOf sent.2).head?

/-- One round over a relay: it sends at most one frame, and is a move of its place. -/
theorem maintain_moves (h : client.Asks) (reads : RelayReads) :
    (client.maintain c manager now unixNow reads ⟨[], []⟩).2.Asks ∧
      Moves requestOf reads.requestId client.holder
        ((client.keepaliveSent c manager now unixNow reads).map RelayFrame.count)
        (client.maintain c manager now unixNow reads ⟨[], []⟩).2.holder ∧
      ∀ own, (client.maintain c manager now unixNow reads ⟨[], []⟩).1 = .ok own →
        (own.outbound.filterMap fun sent => relayFrameOf sent.2) =
          (client.keepaliveSent c manager now unixNow reads).toList := by
  unfold keepaliveSent maintain
  split
  next =>
    refine ⟨by simp [Asks], ⟨.inl rfl, .inl rfl, by simp⟩, fun own hown => ?_⟩
    cases hown
    rfl
  next =>
    obtain ⟨client1, h1⟩ : ∃ client1 : RelayClient, client1 = (if client.leaseLost now unixNow then
      { client with lease := none, pending := none, nextRegistrationAt := now } else client) := ⟨_, rfl⟩
    have hfirst : client1.Asks ∧ (client1.holder.lease = none ∨
        client1.holder.lease = client.holder.lease) ∧
        (client1.holder.pending = none ∨ client1.holder.pending = client.holder.pending) := by
      rw [h1]
      split
      next => exact ⟨by simp [Asks], .inl rfl, .inl rfl⟩
      next => exact ⟨h, .inr rfl, .inr rfl⟩
    dsimp only
    rw [← h1]
    obtain ⟨hasks1, hlease1, hpending1⟩ := hfirst
    obtain ⟨hsilent, hasks2, hlease2, hpending2⟩ := maintainPending_holder hasks1 now
    obtain ⟨hsilent3, hasks3, hlease3, hpending3⟩ := @maintainRegistration_holder c manager
      (client1.maintainPending now).2 now unixNow hasks2 reads.requestId
    -- until the keepalive the place has only lost its lease or its request, or drawn a new one
    have hlease : ∀ {client3 : RelayClient},
        client3.holder.lease = (client1.maintainPending now).2.holder.lease →
          client3.holder.lease = none ∨ client3.holder.lease = client.holder.lease := by
      intro client3 hsame
      rw [hsame, hlease2]
      exact hlease1
    have hpending : ∀ {client3 : RelayClient},
        (client3.holder.pending = (client1.maintainPending now).2.holder.pending ∨
          ∃ request, reads.requestId = some request ∧ client3.holder.pending = some request) →
        client3.holder.pending = none ∨ client3.holder.pending = client.holder.pending ∨
          ∃ request, reads.requestId = some request ∧ client3.holder.pending = some request := by
      rintro client3 (hsame | hdrawn)
      · rw [hsame]
        rcases hpending2 with hnone | hsame2
        · exact .inl hnone
        · rw [hsame2]
          rcases hpending1 with hnone | hsame1
          · exact .inl hnone
          · exact .inr (.inl hsame1)
      · exact .inr (.inr hdrawn)
    split
    next error client3 heq =>
      rw [heq] at hasks3 hlease3 hpending3
      exact ⟨hasks3, .of_count (hpending hpending3) (.inl ⟨rfl, hlease hlease3⟩), by simp⟩
    next registered client3 heq =>
      rw [heq] at hsilent3 hasks3 hlease3 hpending3
      obtain ⟨hasks4, hpending4, frame, hframes, hlease4⟩ := maintainKeepalive_holder hasks3 manager now
      have hmoves : ∀ sent : Option RelayFrame, (∀ event, sent = some event → frame = some event) →
          Moves requestOf reads.requestId client.holder (sent.map RelayFrame.count)
            (client3.maintainKeepalive manager now).2.holder := by
        intro sent hsent
        refine .of_count (hpending4.symm ▸ hpending hpending3) ?_
        rcases hlease4 with ⟨hnone, hsame⟩ | ⟨grant, count, hbefore, hafter, hcount⟩
        · refine .inl ⟨?_, hsame.symm ▸ hlease hlease3⟩
          cases sent with
          | none => rfl
          | some event => simp [hnone] at hsent
        · rcases hlease hlease3 with hnone | hheld
          · rw [hnone] at hbefore
            cases hbefore
          · refine .inr ⟨grant, count, hheld ▸ hbefore, hafter, fun event hevent => ?_⟩
            obtain ⟨sent', hsome, rfl⟩ := Option.map_eq_some_iff.mp hevent
            exact hcount sent' (hsent sent' hsome)
      split
      next error client4 heq4 =>
        rw [heq4] at hasks4 hmoves
        exact ⟨hasks4, hmoves none (by simp), by simp⟩
      next kept client4 heq4 =>
        rw [heq4] at hasks4 hmoves hframes
        have hown : ([] ++ (client1.maintainPending now).1 ++ registered ++ kept).filterMap
            (fun sent : SocketAddr × Bytes => relayFrameOf sent.2) = frame.toList := by
          rw [List.nil_append, List.filterMap_append, List.filterMap_append, filterMap_silent hsilent,
            filterMap_silent (hsilent3 registered rfl), hframes kept rfl]
          rfl
        have hhead : frame.toList.head? = frame := by cases frame <;> rfl
        dsimp only
        rw [hown, hhead]
        refine ⟨hasks4, hmoves frame fun _ h => h, fun own hsome => ?_⟩
        cases hsome
        exact hown

end RelayClient

namespace RelayManager

variable {c : Crypto} {f : Formats} {manager : RelayManager} {requestOf : Block 16 × Block 16 → Block 16}

theorem holder_eq {endpoint : SocketAddr} {client : RelayClient}
    (h : manager.clients.lookup endpoint = some client) : manager.holder endpoint = client.holder := by
  unfold holder
  rw [h]
  rfl

theorem holder_putClient (manager : RelayManager) (endpoint : SocketAddr) (client : RelayClient)
    (other : SocketAddr) : (manager.putClient endpoint client).holder other =
      if other = endpoint then client.holder else manager.holder other := by
  unfold holder putClient
  dsimp only
  rw [lookup_insert_eq]
  split
  next => rfl
  next => rfl

/-- A call that keeps the requests, and is a step of the places. -/
structure Counts (requestOf : Block 16 × Block 16 → Block 16) (manager : RelayManager)
    (drawn : SocketAddr → Option (Block 16)) (sent : List RelayFrame) (after : RelayManager) : Prop where
  asks : after.Asks
  step : Step requestOf manager.holder drawn (sent.map RelayFrame.count) after.holder

theorem Counts.refl (h : manager.Asks) : Counts requestOf manager (fun _ => none) [] manager :=
  ⟨h, ⟨⟨[], fun _ => none, List.nodup_nil, rfl, fun _ => .refl requestOf _⟩⟩⟩

/-- A call that rewrites one relay. -/
theorem Counts.putClient (h : manager.Asks) {endpoint : SocketAddr} {client client' : RelayClient}
    (hl : manager.clients.lookup endpoint = some client) {sent : Option RelayFrame}
    (hmoves : Moves requestOf none client.holder (sent.map RelayFrame.count) client'.holder)
    (hasks : client'.Asks) :
    Counts requestOf manager (fun _ => none) sent.toList (manager.putClient endpoint client') where
  asks other held hheld := by
    unfold RelayManager.putClient at hheld
    rw [lookup_insert_eq] at hheld
    split at hheld
    next =>
      cases hheld
      exact hasks
    next => exact h other held hheld
  step := by
    refine ⟨⟨[endpoint], fun other => if other = endpoint then sent.map RelayFrame.count else none,
      List.nodup_singleton _, ?_, fun other => ?_⟩⟩
    · cases sent <;> simp
    · dsimp only
      rw [holder_putClient]
      by_cases heq : other = endpoint
      · rw [if_pos heq, if_pos heq, heq, holder_eq hl]
        exact hmoves
      · rw [if_neg heq, if_neg heq]
        exact .refl requestOf _

theorem wrap_counts (h : manager.Asks) (endpoint : SocketAddr) (destinationNodeId : Block 16)
    (payload : Bytes) (now : UInt64) (utcNow : Int) :
    Counts requestOf manager (fun _ => none)
      (RelayManagerOutput.wrapped (manager.wrap endpoint destinationNodeId payload now utcNow).1).sentFrames
      (manager.wrap endpoint destinationNodeId payload now utcNow).2 := by
  unfold wrap
  split
  next => exact .refl h
  next client hl =>
    have hasks := h _ client hl
    split
    next => exact .refl h
    next lease hlease =>
      have hheld : client.holder.lease =
          some ((client.relayId, lease.leaseId), lease.nextSequence.toNat) := by
        unfold RelayClient.holder
        rw [hlease]
        rfl
      split
      next =>
        have hdrop : Moves requestOf none client.holder ((none : Option RelayFrame).map RelayFrame.count)
            ({ client with lease := none } : RelayClient).holder :=
          .of_count (.inr (.inl rfl)) (.inl ⟨rfl, .inl rfl⟩)
        exact .putClient h hl hdrop hasks
      next =>
        split
        next => exact .refl h
        next next hnext =>
          have hcount := u64CheckedAdd_eq_some hnext
          have hcounted : ({ client with lease := some { lease with nextSequence := next } } :
              RelayClient).holder.lease =
                some ((client.relayId, lease.leaseId), lease.nextSequence.toNat + 1) := by
            show some ((client.relayId, lease.leaseId), next.toNat) = _
            rw [hcount]
            rfl
          have hmoves : ∀ frame : Option RelayFrame,
              (∀ sent, frame = some sent →
                sent.count = ((client.relayId, lease.leaseId), lease.nextSequence.toNat)) →
              Moves requestOf none client.holder (frame.map RelayFrame.count)
                ({ client with lease := some { lease with nextSequence := next } } :
                  RelayClient).holder := by
            intro frame hframe
            refine .of_count (.inr (.inl rfl)) (.inr ⟨_, _, hheld, hcounted, fun event hevent => ?_⟩)
            obtain ⟨sent, hsent, rfl⟩ := Option.map_eq_some_iff.mp hevent
            exact hframe sent hsent
          dsimp only
          cases hencoded : encodeRelayFrame {
            networkId := manager.networkId
            relayId := client.relayId
            sourceNodeId := manager.nodeId
            destinationNodeId := destinationNodeId
            leaseId := lease.leaseId
            sequence := lease.nextSequence
            payload := payload } with
          | none => exact .putClient h hl (hmoves none (by simp)) hasks
          | some datagram =>
            have hframe := relayFrameOf_encode hencoded
            dsimp only [RelayManagerOutput.sentFrames]
            rw [hframe]
            refine .putClient h hl (hmoves _ fun sent hsent => ?_) hasks
            cases hsent
            rfl

/-- Through a lease that is alive and has a number left, the next number goes. -/
theorem wrap_numbered {endpoint : SocketAddr} {client : RelayClient} {lease : RelayLease} {next : UInt64}
    {now : UInt64} {utcNow : Int}
    (hl : manager.clients.lookup (normalizeEndpoint endpoint) = some client)
    (hlease : client.lease = some lease)
    (hlive : ¬(lease.expiresAt ≤ now ∨ client.configExpiresAt ≤ utcNow))
    (hnext : u64CheckedAdd lease.nextSequence 1 = some next) {destinationNodeId : Block 16}
    {payload datagram : Bytes}
    (hencoded : encodeRelayFrame ⟨manager.networkId, client.relayId, manager.nodeId, destinationNodeId,
      lease.leaseId, lease.nextSequence, payload⟩ = some datagram) :
    manager.wrap endpoint destinationNodeId payload now utcNow =
      (.ok (some datagram), manager.putClient (normalizeEndpoint endpoint)
        { client with lease := some { lease with nextSequence := next } }) := by
  unfold wrap
  rw [hl]
  dsimp only
  rw [hlease]
  dsimp only
  rw [if_neg hlive, hnext]
  dsimp only
  rw [hencoded]

/-- The grant a response brings answers the request of its place; anything else leaves the counts. -/
theorem handleDatagram_counts (h : manager.Asks) {source : SocketAddr} {datagram : Bytes} {now : Nat}
    {unixNow : UInt64}
    (hgranted : manager.Granted c requestOf (.handleDatagram source datagram now unixNow)) :
    Counts requestOf manager (fun _ => none) []
      (manager.handleDatagram c source datagram now unixNow).2 := by
  unfold handleDatagram
  split
  next => exact .refl h
  next client hl =>
    have hasks := h _ client hl
    have hsame : ∀ client' : RelayClient, client'.Asks → client'.holder = client.holder →
        Counts requestOf manager (fun _ => none) []
          (manager.putClient (normalizeEndpoint source) client') := by
      intro client' hasks' hholder
      have hmoves : Moves requestOf none client.holder ((none : Option RelayFrame).map RelayFrame.count)
          client'.holder := hholder ▸ .refl requestOf _
      exact .putClient h hl hmoves hasks'
    split
    next =>
      unfold handleRegisterResponse
      split
      next => exact hsame client hasks rfl
      next pending hpending =>
        split
        next => exact hsame client hasks rfl
        next response hresponse =>
          have hrequest : requestOf (client.relayId, response.leaseId) = pending.requestId :=
            hgranted client hl pending hpending response hresponse
          have hasked : client.holder.pending =
              some (requestOf (client.relayId, response.leaseId)) := by
            unfold RelayClient.holder
            rw [hpending, hrequest]
            rfl
          have hmoves : Moves requestOf none client.holder
              ((none : Option RelayFrame).map RelayFrame.count) ({ client with
                lease := some ⟨response.leaseId, response.expiresAt, 0, now, now⟩
                pending := none
                failures := 0
                nextRegistrationAt := now } : RelayClient).holder :=
            ⟨.inl rfl, .inr (.inr ⟨_, hasked, rfl, rfl⟩), by simp⟩
          exact .putClient h hl hmoves (by simp [RelayClient.Asks])
    next =>
      split
      next =>
        unfold handleKeepaliveResponse
        split
        next => exact hsame client hasks rfl
        next lease hlease =>
          split
          next => exact hsame client hasks rfl
          next =>
            refine hsame _ hasks ?_
            unfold RelayClient.holder
            rw [hlease]
            rfl
      next =>
        split
        next => exact .refl h
        next => exact .refl h

theorem authenticateActivity_counts (h : manager.Asks) (endpoint : SocketAddr) (now : Nat) :
    Counts requestOf manager (fun _ => none) [] (manager.authenticateActivity endpoint now) := by
  unfold authenticateActivity
  split
  next => exact .refl h
  next client hl =>
    have hmoves : Moves requestOf none client.holder ((none : Option RelayFrame).map RelayFrame.count)
        ({ client with lease := client.lease.map fun lease =>
          { lease with lastAuthenticatedActivity := now } } : RelayClient).holder := by
      refine .of_count (.inr (.inl rfl)) (.inl ⟨rfl, .inr ?_⟩)
      unfold RelayClient.holder
      rw [Option.map_map]
      rfl
    exact .putClient h hl hmoves (h _ client hl)

theorem applyConfiguration_counts (h : manager.Asks) (state : NodeState) (now : Nat) (utcNow : Int) :
    Counts requestOf manager (fun _ => none) [] (manager.applyConfiguration c f state now utcNow).2 := by
  unfold applyConfiguration
  split
  next => exact .refl h
  next desired hdesired =>
    have hblank : ∀ endpoint client, desired.lookup endpoint = some client →
        client.lease = none ∧ client.pending = none := by
      intro endpoint client hl
      obtain ⟨_, _, _, _, _, hlease, hpending⟩ := mem_relayClients hdesired hl
      exact ⟨hlease, hpending⟩
    refine ⟨fun endpoint client hl => ?_, ⟨[], fun _ => none, List.nodup_nil, rfl, fun endpoint => ?_⟩⟩
    · rw [lookup_mapWithKey, Option.map_eq_some_iff] at hl
      obtain ⟨wanted, hwanted, rfl⟩ := hl
      have hnone := (hblank endpoint wanted hwanted).2
      unfold keepLease
      split
      next => simp [RelayClient.Asks, hnone]
      next existing hexisting =>
        split
        next => exact h endpoint existing hexisting
        next => simp [RelayClient.Asks, hnone]
    · have hafter : RelayManager.holder { manager with clients := mapWithKey (fun endpoint client =>
          keepLease client (manager.clients.lookup endpoint)) desired } endpoint = .empty ∨
          RelayManager.holder { manager with clients := mapWithKey (fun endpoint client =>
            keepLease client (manager.clients.lookup endpoint)) desired } endpoint =
              manager.holder endpoint := by
        unfold holder
        dsimp only
        rw [lookup_mapWithKey]
        cases hl : desired.lookup endpoint with
        | none => exact .inl rfl
        | some wanted =>
          obtain ⟨hlease, hpending⟩ := hblank endpoint wanted hl
          have hempty : wanted.holder = .empty := by
            unfold RelayClient.holder
            rw [hlease, hpending]
            rfl
          show (keepLease wanted (manager.clients.lookup endpoint)).holder = _ ∨
            (keepLease wanted (manager.clients.lookup endpoint)).holder = _
          cases manager.clients.lookup endpoint with
          | none => exact .inl hempty
          | some existing =>
            unfold keepLease
            dsimp only
            split
            next hsame =>
              have hid := (of_decide_eq_true hsame).1
              refine .inr ?_
              unfold RelayClient.holder
              rw [← hid]
              rfl
            next => exact .inl hempty
      rcases hafter with hempty | hsame
      · rw [hempty]
        exact .of_count (.inl rfl) (.inl ⟨rfl, .inl rfl⟩)
      · rw [hsame]
        exact .refl requestOf _

theorem sent_visitEntries {now : Nat} {unixNow : UInt64} {reads : SocketAddr → RelayReads}
    {entries : List (Sigma fun _ : SocketAddr => RelayClient)} {progress final : RelayMaintenance}
    (hasks : ∀ entry ∈ entries, entry.2.Asks)
    (h : (visitEntries (fun endpoint client progress =>
      client.maintain c manager now unixNow (reads endpoint) progress) entries progress).1 = .ok final) :
    (final.outbound.filterMap fun sent => relayFrameOf sent.2) =
      (progress.outbound.filterMap fun sent => relayFrameOf sent.2) ++
        entries.filterMap fun entry => entry.2.keepaliveSent c manager now unixNow (reads entry.1) := by
  induction entries generalizing progress with
  | nil =>
    cases h
    simp
  | cons entry entries ih =>
    have hmoves := (@RelayClient.maintain_moves c manager entry.2 now unixNow (fun _ => zeros 16)
      (hasks entry List.mem_cons_self) (reads entry.1)).2.2
    unfold visitEntries at h
    rw [RelayClient.maintain_progress] at h
    cases hown : entry.2.maintain c manager now unixNow (reads entry.1) ⟨[], []⟩ with
    | mk result after =>
      rw [hown] at h hmoves
      cases result with
      | error error => simp at h
      | ok own =>
        have hrest := ih (fun entry hmem => hasks entry (List.mem_cons_of_mem _ hmem)) h
        rw [hrest, List.filterMap_append, hmoves own rfl, List.filterMap_cons]
        cases entry.2.keepaliveSent c manager now unixNow (reads entry.1) <;> simp

theorem maintain_snd (c : Crypto) (manager : RelayManager) (now : Nat) (unixNow : UInt64)
    (reads : RelayReads) (client : RelayClient) (progress : RelayMaintenance) :
    (client.maintain c manager now unixNow reads progress).2 =
      (client.maintain c manager now unixNow reads ⟨[], []⟩).2 := by
  rw [RelayClient.maintain_progress]
  split
  next heq => rw [heq]
  next heq => rw [heq]

/-- A relay that maintenance has visited, or has not. -/
theorem lookup_maintain {now : Nat} {unixNow : UInt64} {reads : SocketAddr → RelayReads}
    {endpoint : SocketAddr} {after : RelayClient}
    (h : (manager.maintain c now unixNow reads).2.clients.lookup endpoint = some after) :
    ∃ client, manager.clients.lookup endpoint = some client ∧
      (after = client ∨
        after = (client.maintain c manager now unixNow (reads endpoint) ⟨[], []⟩).2) := by
  obtain ⟨client, hl, hvisited⟩ := lookup_visit h
  refine ⟨client, hl, hvisited.imp id ?_⟩
  rintro ⟨reached, rfl⟩
  exact maintain_snd c manager now unixNow (reads endpoint) client reached

theorem lookup_maintain_ok {now : Nat} {unixNow : UInt64} {reads : SocketAddr → RelayReads}
    {final : RelayMaintenance} (hok : (manager.maintain c now unixNow reads).1 = .ok final)
    {endpoint : SocketAddr} {after : RelayClient}
    (h : (manager.maintain c now unixNow reads).2.clients.lookup endpoint = some after) :
    ∃ client, manager.clients.lookup endpoint = some client ∧
      after = (client.maintain c manager now unixNow (reads endpoint) ⟨[], []⟩).2 := by
  obtain ⟨client, reached, _, hl, hbody, _⟩ := @lookup_visit_ok _ _ _ _ _ _
    (fun _ _ : RelayMaintenance => True) (fun _ => trivial) (fun _ _ => trivial) (fun _ => trivial)
    _ _ _ hok _ _ h
  refine ⟨client, hl, ?_⟩
  rw [← maintain_snd c manager now unixNow (reads endpoint) client reached, hbody]

/-- Maintenance: every relay makes its move, and what they send is on its way when none has failed. -/
theorem maintain_counts (h : manager.Asks) (now : Nat) (unixNow : UInt64)
    (reads : SocketAddr → RelayReads) :
    Counts requestOf manager (manager.drawn (.maintain now unixNow reads))
      (RelayManagerOutput.maintained (manager.maintain c now unixNow reads).1).sentFrames
      (manager.maintain c now unixNow reads).2 := by
  let after : RelayManager := (manager.maintain c now unixNow reads).2
  have hmoves : ∀ endpoint client, manager.clients.lookup endpoint = some client →
      (client.maintain c manager now unixNow (reads endpoint) ⟨[], []⟩).2.Asks ∧
        Moves requestOf (manager.drawn (.maintain now unixNow reads) endpoint) client.holder
          ((client.keepaliveSent c manager now unixNow (reads endpoint)).map RelayFrame.count)
          (client.maintain c manager now unixNow (reads endpoint) ⟨[], []⟩).2.holder := by
    intro endpoint client hl
    obtain ⟨hasks, hmove, _⟩ := @RelayClient.maintain_moves c manager client now unixNow requestOf
      (h endpoint client hl) (reads endpoint)
    have hdrawn : manager.drawn (.maintain now unixNow reads) endpoint = (reads endpoint).requestId :=
      if_pos (mem_iff_lookup.mpr ⟨client, hl⟩)
    exact ⟨hasks, hdrawn ▸ hmove⟩
  have hstays : ∀ (drawn : Option (Block 16)) (place : Holder (Block 16) (Block 16 × Block 16)),
      Moves requestOf drawn place none place :=
    fun drawn place => .of_count (.inr (.inl rfl)) (.inl ⟨rfl, .inr rfl⟩)
  have hmissing : ∀ endpoint, after.clients.lookup endpoint = none →
      manager.clients.lookup endpoint = none ∧ manager.holder endpoint = .empty ∧
        after.holder endpoint = .empty := by
    intro endpoint hl
    have hnone : manager.clients.lookup endpoint = none := by
      rw [AList.lookup_eq_none] at hl ⊢
      exact fun hmem => hl (mem_visit.mpr hmem)
    unfold holder
    rw [hl, hnone]
    exact ⟨rfl, rfl, rfl⟩
  refine ⟨fun endpoint held hl => ?_, ?_⟩
  · obtain ⟨client, hbefore, hafter⟩ := lookup_maintain hl
    rcases hafter with rfl | rfl
    · exact h endpoint _ hbefore
    · exact (hmoves endpoint client hbefore).1
  · cases hresult : (manager.maintain c now unixNow reads).1 with
    | error error =>
      refine ⟨⟨[], fun _ => none, List.nodup_nil, rfl, fun endpoint => ?_⟩⟩
      cases hl : after.clients.lookup endpoint with
      | none =>
        obtain ⟨_, hbefore, hafter⟩ := hmissing endpoint hl
        rw [hbefore, show (manager.maintain c now unixNow reads).2.holder endpoint = _ from hafter]
        exact hstays _ _
      | some held =>
        obtain ⟨client, hbefore, hafter⟩ := lookup_maintain hl
        rw [holder_eq hbefore, show (manager.maintain c now unixNow reads).2.holder endpoint = _ from
          holder_eq hl]
        rcases hafter with rfl | rfl
        · exact hstays _ _
        · exact (hmoves endpoint client hbefore).2.quiet
    | ok final =>
      refine ⟨⟨manager.clients.keys, fun endpoint => (manager.clients.lookup endpoint).bind fun client =>
        (client.keepaliveSent c manager now unixNow (reads endpoint)).map RelayFrame.count,
        manager.clients.keys_nodup, ?_, fun endpoint => ?_⟩⟩
      · have hsent := sent_visitEntries (fun entry hmem => h entry.1 entry.2 (lookup_eq_some.mpr hmem))
          hresult
        show (final.outbound.filterMap fun sent => relayFrameOf sent.2).map RelayFrame.count = _
        rw [hsent, List.filterMap_nil, List.nil_append, List.map_filterMap]
        show _ = (manager.clients.entries.map Sigma.fst).filterMap _
        rw [List.filterMap_map]
        refine List.filterMap_congr fun entry hmem => ?_
        show _ = (manager.clients.lookup entry.1).bind _
        rw [lookup_eq_some.mpr hmem]
        rfl
      · dsimp only
        cases hl : after.clients.lookup endpoint with
        | none =>
          obtain ⟨hnone, hbefore, hafter⟩ := hmissing endpoint hl
          rw [hnone, hbefore, show (manager.maintain c now unixNow reads).2.holder endpoint = _ from hafter]
          exact hstays _ _
        | some held =>
          obtain ⟨client, hbefore, hafter⟩ := lookup_maintain_ok hresult hl
          rw [holder_eq hbefore, show (manager.maintain c now unixNow reads).2.holder endpoint = _ from
            holder_eq hl, hbefore, hafter]
          exact (hmoves endpoint client hbefore).2

/-- A call of the manager is a step of its places. -/
theorem step_counts (h : manager.Asks) (op : RelayManagerOp) (hgranted : manager.Granted c requestOf op) :
    Counts requestOf manager (manager.drawn op) (manager.step c f op).1.sentFrames
      (manager.step c f op).2 := by
  cases op with
  | wrap endpoint destinationNodeId payload now utcNow =>
    exact wrap_counts h endpoint destinationNodeId payload now utcNow
  | handleDatagram source datagram now unixNow => exact handleDatagram_counts h hgranted
  | authenticateActivity endpoint now => exact authenticateActivity_counts h endpoint now
  | maintain now unixNow reads => exact maintain_counts h now unixNow reads
  | applyConfiguration state now utcNow => exact applyConfiguration_counts h state now utcNow

theorem counts_new {state : NodeState} {networkId nodeId : Block 16} {credential : Block 200}
    {identity : SigningKey} {now : Nat} {utcNow : Int}
    (h : RelayManager.new c f state networkId nodeId credential identity now utcNow = .ok manager) :
    manager.Asks ∧ manager.holder = fun _ => .empty := by
  obtain ⟨clients, hclients, h⟩ := Checks.bind_ok.mp h
  cases h
  refine ⟨fun endpoint client hl => ?_, funext fun endpoint => ?_⟩
  · obtain ⟨_, _, _, _, _, _, hpending⟩ := mem_relayClients hclients hl
    simp [RelayClient.Asks, hpending]
  · unfold holder
    dsimp only
    cases hl : clients.lookup endpoint with
    | none => rfl
    | some client =>
      obtain ⟨_, _, _, _, _, hlease, hpending⟩ := mem_relayClients hclients hl
      simp [RelayClient.holder, Holder.empty, hlease, hpending]

/-- The frames of a run. -/
def framesIn (history : List (RelayManagerOp × RelayManagerOutput)) : List RelayFrame :=
  history.flatMap fun event => event.2.sentFrames

theorem mem_of_drawn {op : RelayManagerOp} {endpoint : SocketAddr} {request : Block 16}
    (h : manager.drawn op endpoint = some request) : endpoint ∈ manager.clients.keys := by
  cases op with
  | maintain now unixNow reads =>
    by_cases hmem : endpoint ∈ manager.clients
    · exact hmem
    · rw [show manager.drawn (.maintain now unixNow reads) endpoint = none from if_neg hmem] at h
      cases h
  | _ => cases h

/-- Request identifiers that are drawn once are new ones at each step. -/
theorem fresh_drawn {op : RelayManagerOp} {used : Set (Block 16)}
    (hdraws : (manager.clients.keys.filterMap (manager.drawn op)).Nodup)
    (hfresh : ∀ request ∈ manager.clients.keys.filterMap (manager.drawn op), request ∉ used) :
    GrantCounters.Fresh used (manager.drawn op)
      (used ∪ {request | request ∈ manager.clients.keys.filterMap (manager.drawn op)}) where
  notUsed endpoint request h := by
    have hmem : request ∈ manager.clients.keys.filterMap (manager.drawn op) :=
      List.mem_filterMap.mpr ⟨endpoint, mem_of_drawn h, h⟩
    exact ⟨hfresh request hmem, .inr hmem⟩
  distinct endpoint other request h h' := by
    by_contra hne
    have hapart := List.pairwise_filterMap.mp hdraws
    have hsymm : Std.Symm fun endpoint other => ∀ request, manager.drawn op endpoint = some request →
        ∀ request', manager.drawn op other = some request' → request ≠ request' :=
      ⟨fun _ _ happly request hrequest request' hrequest' =>
        (happly request' hrequest' request hrequest).symm⟩
    exact hapart.forall (mem_of_drawn h) (mem_of_drawn h') hne request h request h' rfl
  kept := Set.subset_union_left

theorem requestIds_append (c : Crypto) (f : Formats) (manager : RelayManager)
    (ops ops' : List RelayManagerOp) : requestIds c f manager (ops ++ ops') =
      requestIds c f manager ops ++ requestIds c f (final (step c f) manager ops) ops' := by
  induction ops generalizing manager with
  | nil => rfl
  | cons op ops ih =>
    rw [List.cons_append, requestIds, ih, requestIds, List.append_assoc]
    rfl

/-- From any place of a run on, the counts under each lease rise. -/
theorem rises_run {ops : List RelayManagerOp} {used : Set (Block 16)} {spent : Set (Block 16 × Block 16)}
    {sent : List ((Block 16 × Block 16) × Nat)} (hasks : manager.Asks)
    (h : Invariant requestOf manager.holder used spent sent)
    (hgranted : Along (step c f) (Granted c requestOf) manager ops)
    (hdraws : (requestIds c f manager ops).Nodup)
    (hfresh : ∀ request ∈ requestIds c f manager ops, request ∉ used) :
    Rises (sent ++ (framesIn (trace (step c f) manager ops)).map RelayFrame.count) := by
  induction ops generalizing manager used spent sent with
  | nil =>
    rw [trace, framesIn, List.flatMap_nil, List.map_nil, List.append_nil]
    exact h.rises
  | cons op ops ih =>
    obtain ⟨hnow, hlater⟩ := hgranted
    obtain ⟨hdrawsNow, hdrawsLater, happart⟩ := List.nodup_append.mp hdraws
    have hcounts := @step_counts c f manager requestOf hasks op hnow
    have hinvariant := h.step (fresh_drawn hdrawsNow fun request hmem =>
      hfresh request (List.mem_append_left _ hmem)) hcounts.step
    have hrest := ih hcounts.asks hinvariant hlater hdrawsLater fun request hmem => by
      rintro (hused | hdrawn)
      · exact hfresh request (List.mem_append_right _ hmem) hused
      · exact happart request hdrawn request hmem rfl
    rw [List.append_assoc, ← List.map_append] at hrest
    exact hrest

/-- Under one lease a manager counts up: no frame carries a number that another one has had. -/
theorem frames_rise {state : NodeState} {networkId nodeId : Block 16} {credential : Block 200}
    {identity : SigningKey} {now : Nat} {utcNow : Int}
    (h : RelayManager.new c f state networkId nodeId credential identity now utcNow = .ok manager)
    {ops : List RelayManagerOp} (hgranted : Along (step c f) (Granted c requestOf) manager ops)
    (hdraws : (requestIds c f manager ops).Nodup) :
    (framesIn (trace (step c f) manager ops)).Pairwise fun earlier later =>
      earlier.relayId = later.relayId → earlier.leaseId = later.leaseId →
        earlier.sequence < later.sequence := by
  obtain ⟨hasks, hempty⟩ := counts_new h
  have hstart : Invariant requestOf manager.holder ∅ ∅ [] := by
    rw [hempty]
    exact invariant_empty requestOf
  have hrises := rises_run hasks hstart hgranted hdraws fun _ _ => Set.notMem_empty _
  refine (List.pairwise_map.mp hrises).imp fun hcount hrelay hlease => ?_
  exact UInt64.lt_iff_toNat_lt.mpr (hcount (Prod.ext hrelay hlease))

end RelayManager

end XsNexus
