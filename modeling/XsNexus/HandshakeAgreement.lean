import Mathlib.Data.Set.Function
import XsNexus.HandshakeLayout
import XsNexus.KeyLockstep

namespace XsNexus

open ByteCodec MachineWords

/-- What is given to the primitives: hashed, expanded to 32 bytes, sealed and opened. -/
structure PrimitiveCalls where
  hashed : Set Bytes
  expanded : Set (Block 32 × Bytes)
  sealed : Set (Block 32 × Block 12 × Bytes × Bytes)
  opened : Set (Block 32 × Block 12 × Bytes)

/-- HKDF-Expand fails only for outputs of more than 255 hashes. -/
def HkdfExpands (c : Crypto) : Prop :=
  ∀ (prk : Block 32) (info : Bytes) (length : Nat), length ≤ 255 * 32 →
    ∃ output, c.hkdfExpand prk info length = some output

/-- SHA-256 and HKDF are injective on what they are given, and the AEAD opens only what was sealed
under the same key, nonce and associated data. -/
structure Ideal (c : Crypto) (calls : PrimitiveCalls) : Prop where
  expands : HkdfExpands c
  sha256 : Set.InjOn c.sha256 calls.hashed
  hkdf : Set.InjOn (fun input : Block 32 × Bytes => c.hkdfExpand input.1 input.2 32) calls.expanded
  aead : ∀ key nonce aad plaintext, (key, nonce, aad, plaintext) ∈ calls.sealed →
    ∀ key' nonce' aad', (key', nonce', aad') ∈ calls.opened →
      ∀ ciphertext tag plaintext', c.encrypt key nonce aad plaintext = some (ciphertext, tag) →
        c.decrypt key' nonce' aad' ciphertext tag = some plaintext' →
          key' = key ∧ nonce' = nonce ∧ aad' = aad ∧ plaintext' = plaintext

/-- The calls of a client that checks the hellos and seals its finish. -/
structure ClientFinishSent.Within (machine : ClientFinishSent) (calls : PrimitiveCalls) : Prop where
  hashed : helloTranscriptDomain ++ (machine.clientHello ++ machine.serverHello) ∈ calls.hashed
  expanded : (machine.keys.handshakePrk,
    clientHandshakeKeyDomain ++ machine.keys.helloTranscriptHash.val) ∈ calls.expanded
  sealed : (machine.keys.clientKey, finishNonce machine.keys.clientNonceSalt,
    finishAad clientFinishType machine.messageId machine.sessionId,
    machine.keys.helloTranscriptHash.val) ∈ calls.sealed

/-- The calls of a server that checks the hellos and opens a finish. -/
structure ServerHelloSent.Within (machine : ServerHelloSent) (calls : PrimitiveCalls) : Prop where
  hashed : helloTranscriptDomain ++ (machine.clientHello ++ machine.encoded) ∈ calls.hashed
  expanded : (machine.keys.handshakePrk,
    clientHandshakeKeyDomain ++ machine.keys.helloTranscriptHash.val) ∈ calls.expanded
  opened : (machine.keys.clientKey, finishNonce machine.keys.clientNonceSalt,
    finishAad clientFinishType machine.messageId machine.sessionId) ∈ calls.opened

theorem transcriptHash_pair (c : Crypto) (domain first second : Bytes) :
    transcriptHash c domain [first, second] = c.sha256 (domain ++ (first ++ second)) := by
  unfold transcriptHash
  simp

theorem deriveHandshakeKeys_eq_some {c : Crypto} {sharedSecret : Block 32} {networkId : Block 16}
    {clientNonce serverNonce helloTranscriptHash : Block 32} {keys : HandshakeKeys}
    (h : deriveHandshakeKeys c sharedSecret networkId clientNonce serverNonce helloTranscriptHash =
      some keys) :
    keys.helloTranscriptHash = helloTranscriptHash ∧
      c.hkdfExpand keys.handshakePrk (clientHandshakeKeyDomain ++ keys.helloTranscriptHash.val) 32 =
        some keys.clientKey := by
  obtain ⟨clientKey, hclient, h⟩ := Option.bind_eq_some_iff.mp h
  obtain ⟨serverKey, _, h⟩ := Option.bind_eq_some_iff.mp h
  obtain ⟨clientNonceSalt, _, h⟩ := Option.bind_eq_some_iff.mp h
  obtain ⟨serverNonceSalt, _, h⟩ := Option.bind_eq_some_iff.mp h
  cases Option.some.inj h
  exact ⟨rfl, hclient⟩

section Machines

variable {c : Crypto}

theorem acceptServerHello_eq_some {machine : ClientHelloSent} {serverHello : Bytes}
    {controllerVerifyingKey : VerifyingKey} {now : UInt64} {finishing : ClientFinishSent}
    (h : machine.acceptServerHello c serverHello controllerVerifyingKey now = some finishing) :
    (∃ parsed, parseServerHello c serverHello machine.context machine.encoded machine.clientNonce
        controllerVerifyingKey now = some parsed) ∧
      finishing.context = machine.context ∧ finishing.clientHello = machine.encoded ∧
      finishing.serverHello = serverHello ∧
      finishing.keys.helloTranscriptHash =
        c.sha256 (helloTranscriptDomain ++ (machine.encoded ++ serverHello)) ∧
      c.hkdfExpand finishing.keys.handshakePrk
          (clientHandshakeKeyDomain ++ finishing.keys.helloTranscriptHash.val) 32 =
        some finishing.keys.clientKey ∧
      ∃ ciphertext tag, c.encrypt finishing.keys.clientKey
          (finishNonce finishing.keys.clientNonceSalt)
          (finishAad clientFinishType finishing.messageId finishing.sessionId)
          finishing.keys.helloTranscriptHash.val = some (ciphertext, tag) ∧
        finishing.encoded = finishAad clientFinishType finishing.messageId finishing.sessionId ++
          ciphertext ++ tag.val := by
  obtain ⟨parsed, hparsed, h⟩ := Option.bind_eq_some_iff.mp h
  dsimp only at h
  obtain ⟨sharedSecret, _, h⟩ := Option.bind_eq_some_iff.mp h
  obtain ⟨keys, hkeys, h⟩ := Option.bind_eq_some_iff.mp h
  obtain ⟨clientFinish, hfinish, h⟩ := Option.bind_eq_some_iff.mp h
  obtain ⟨hhash, hexpand⟩ := deriveHandshakeKeys_eq_some hkeys
  rw [encodeFinish_eq, Option.map_eq_some_iff] at hfinish
  obtain ⟨⟨ciphertext, tag⟩, hencrypt, hencoded⟩ := hfinish
  rw [transcriptHash_pair] at hhash
  cases Option.some.inj h
  exact ⟨⟨parsed, hparsed⟩, rfl, rfl, rfl, hhash, hexpand, ciphertext, tag, hencrypt, hencoded.symm⟩

theorem acceptClientFinish_eq_some {machine : ServerHelloSent} {clientFinish serverFinish : Bytes}
    {session : EstablishedSession}
    (h : machine.acceptClientFinish c clientFinish = some (session, serverFinish)) :
    decodeFinish c clientFinish clientFinishType machine.messageId machine.sessionId
        machine.keys.clientKey machine.keys.clientNonceSalt =
      some machine.keys.helloTranscriptHash ∧
    establishedSession c .server machine.context machine.sessionId machine.keys.handshakePrk
        (transcriptHash c fullTranscriptDomain
          [machine.clientHello, machine.encoded, clientFinish, serverFinish]) = some session := by
  obtain ⟨plaintext, hdecode, h⟩ := Option.bind_eq_some_iff.mp h
  split at h
  next => simp at h
  next hsame =>
    obtain ⟨finish, _, h⟩ := Option.bind_eq_some_iff.mp h
    dsimp only at h
    obtain ⟨session', hsession, h⟩ := Option.bind_eq_some_iff.mp h
    cases Option.some.inj h
    rw [not_not.mp hsame] at hdecode
    exact ⟨hdecode, hsession⟩

theorem acceptServerFinish_eq_some {machine : ClientFinishSent} {serverFinish : Bytes}
    {session : EstablishedSession}
    (h : machine.acceptServerFinish c serverFinish = some session) :
    establishedSession c .client machine.context machine.sessionId machine.keys.handshakePrk
      (transcriptHash c fullTranscriptDomain
        [machine.clientHello, machine.serverHello, machine.encoded, serverFinish]) =
      some session := by
  obtain ⟨plaintext, _, h⟩ := Option.bind_eq_some_iff.mp h
  split at h
  next => simp at h
  next => exact h

/-- A finish that the server opens was made with the keys the server has. -/
theorem finish_agrees {calls : PrimitiveCalls} (hideal : Ideal c calls) {machine : ClientFinishSent}
    (hwithin : machine.Within calls) {answer : ServerHelloSent} (hwithin' : answer.Within calls)
    {ciphertext : Bytes} {tag : Block 16}
    (hencrypt : c.encrypt machine.keys.clientKey (finishNonce machine.keys.clientNonceSalt)
      (finishAad clientFinishType machine.messageId machine.sessionId)
      machine.keys.helloTranscriptHash.val = some (ciphertext, tag))
    (hdecode : decodeFinish c (finishAad clientFinishType machine.messageId machine.sessionId ++
      ciphertext ++ tag.val) clientFinishType answer.messageId answer.sessionId
      answer.keys.clientKey answer.keys.clientNonceSalt = some answer.keys.helloTranscriptHash) :
    machine.sessionId = answer.sessionId ∧ answer.keys.clientKey = machine.keys.clientKey ∧
      answer.keys.helloTranscriptHash = machine.keys.helloTranscriptHash := by
  have hlength : ciphertext.length = 32 := by
    have htotal := decodeFinish_length hdecode
    rw [List.length_append, List.length_append, length_finishAad, Block.length_val] at htotal
    unfold commonHeaderLength finishBodyLength at htotal
    omega
  rw [decodeFinish_append c _ _ _ _ _ _ _ hlength] at hdecode
  split at hdecode
  next hsame =>
    obtain ⟨plaintext, hopens, harray⟩ := Option.bind_eq_some_iff.mp hdecode
    have hopened := hwithin'.opened
    rw [← hsame.1, ← hsame.2] at hopened
    obtain ⟨hkey, _, _, hplaintext⟩ := hideal.aead _ _ _ _ hwithin.sealed _ _ _ hopened _ _ _
      hencrypt hopens
    refine ⟨hsame.2, hkey, Subtype.ext ?_⟩
    rw [array_eq_some harray, hplaintext]
  next => simp at hdecode

theorem establishedSession_eq_some {role : SessionRole} {context : HandshakeContext}
    {sessionId : Block 16} {handshakePrk fullTranscriptHash : Block 32} {session : EstablishedSession}
    (h : establishedSession c role context sessionId handshakePrk fullTranscriptHash = some session) :
    session.role = role ∧ session.context = context ∧ session.sessionId = sessionId := by
  unfold establishedSession at h
  obtain ⟨clientToServerSecret, _, h⟩ := Option.bind_eq_some_iff.mp h
  obtain ⟨serverToClientSecret, _, h⟩ := Option.bind_eq_some_iff.mp h
  cases Option.some.inj h
  exact ⟨rfl, rfl, rfl⟩

/-- The same secrets come out on both sides of swapped contexts. -/
theorem establishedSession_agree {client server : HandshakeContext} {sessionId : Block 16}
    {handshakePrk fullTranscriptHash : Block 32} {clientSession serverSession : EstablishedSession}
    (hnetwork : client.networkId = server.networkId) (hlocal : client.localNodeId = server.peerNodeId)
    (hpeer : client.peerNodeId = server.localNodeId)
    (haddress : client.localVirtualIp = server.peerVirtualIp)
    (haddress' : client.peerVirtualIp = server.localVirtualIp)
    (hclient : establishedSession c .client client sessionId handshakePrk fullTranscriptHash =
      some clientSession)
    (hserver : establishedSession c .server server sessionId handshakePrk fullTranscriptHash =
      some serverSession) : Agree clientSession serverSession := by
  unfold establishedSession at hclient hserver
  dsimp only at hclient hserver
  rw [hnetwork, hlocal, hpeer] at hclient
  obtain ⟨clientToServer, hcs, hclient⟩ := Option.bind_eq_some_iff.mp hclient
  obtain ⟨serverToClient, hsc, hclient⟩ := Option.bind_eq_some_iff.mp hclient
  rw [hcs, Option.bind_eq_bind, Option.bind_some, hsc, Option.bind_some] at hserver
  cases Option.some.inj hclient
  cases Option.some.inj hserver
  exact ⟨by simp, rfl, rfl, rfl, hnetwork, hlocal, hpeer, haddress, haddress'⟩

end Machines

/-- A receiver of the datagrams a sender seals. -/
structure DataSender.Meets (s : DataSender) (r : DataReceiver) : Prop where
  directionSecret : r.directionSecret = s.directionSecret
  epoch : r.current = s.epoch
  networkId : r.networkId = s.networkId
  sourceNodeId : r.sourceNodeId = s.sourceNodeId
  destinationNodeId : r.destinationNodeId = s.destinationNodeId
  sessionId : r.sessionId = s.sessionId
  sourceVirtualIp : r.sourceVirtualIp = s.sourceVirtualIp
  destinationVirtualIp : r.destinationVirtualIp = s.destinationVirtualIp

theorem intoDataPlane_eq (c : Crypto) (session : EstablishedSession) :
    session.intoDataPlane c =
      (DataSender.new c session.sendSecret session.context.networkId session.context.localNodeId
        session.context.peerNodeId session.sessionId session.context.localVirtualIp
        session.context.peerVirtualIp).bind fun sender =>
      (DataReceiver.new c session.receiveSecret session.context.networkId session.context.peerNodeId
        session.context.localNodeId session.sessionId session.context.peerVirtualIp
        session.context.localVirtualIp).map fun receiver => (sender, receiver) := by
  unfold EstablishedSession.intoDataPlane EstablishedSession.sendSecret
    EstablishedSession.receiveSecret
  cases session.role with
  | client =>
    dsimp only [Option.bind_eq_bind]
    congr 1
    funext sender
    cases DataReceiver.new c session.serverToClientSecret _ _ _ _ _ _ <;> rfl
  | server =>
    dsimp only [Option.bind_eq_bind]
    congr 1
    funext sender
    cases DataReceiver.new c session.clientToServerSecret _ _ _ _ _ _ <;> rfl

theorem deriveEpoch_succeeds {c : Crypto} (hexpands : HkdfExpands c) (secret : Block 32)
    (epoch : UInt32) : ∃ state, deriveEpoch c secret epoch = some state := by
  obtain ⟨key, hkey⟩ := hexpands secret (trafficKeyDomain ++ (u32ToBe epoch).val) 32 (by decide)
  obtain ⟨salt, hsalt⟩ := hexpands secret (nonceSaltDomain ++ (u32ToBe epoch).val) 4 (by decide)
  unfold deriveEpoch hkdfExpand
  dsimp only
  rw [hkey, hsalt]
  exact ⟨_, rfl⟩

theorem intoDataPlane_succeeds {c : Crypto} (hexpands : HkdfExpands c)
    (session : EstablishedSession) :
    ∃ sender receiver, session.intoDataPlane c = some (sender, receiver) := by
  obtain ⟨sending, hsending⟩ := deriveEpoch_succeeds hexpands session.sendSecret 0
  obtain ⟨receiving, hreceiving⟩ := deriveEpoch_succeeds hexpands session.receiveSecret 0
  rw [intoDataPlane_eq]
  unfold DataSender.new DataReceiver.new
  rw [hsending, hreceiving]
  exact ⟨_, _, rfl⟩

/-- Agreeing sessions turn into senders and receivers that meet. -/
theorem Agree.meets {c : Crypto} {left right : EstablishedSession} (h : Agree left right)
    {sender : DataSender} {receiver : DataReceiver}
    (hleft : left.intoDataPlane c = some (sender, receiver)) :
    ∃ sender' receiver', right.intoDataPlane c = some (sender', receiver') ∧
      sender.Meets receiver' ∧ sender'.Meets receiver := by
  have hsend := h.secret
  have hreceive := h.symm.secret
  rw [intoDataPlane_eq] at hleft ⊢
  obtain ⟨s, hs, hleft⟩ := Option.bind_eq_some_iff.mp hleft
  obtain ⟨r, hr, hpair⟩ := Option.map_eq_some_iff.mp hleft
  obtain ⟨sending, hsending, hs⟩ := Option.bind_eq_some_iff.mp hs
  obtain ⟨receiving, hreceiving, hr⟩ := Option.bind_eq_some_iff.mp hr
  cases Option.some.inj hs
  cases Option.some.inj hr
  cases hpair
  unfold DataSender.new DataReceiver.new
  rw [hsend, ← hreceive, hsending, hreceiving]
  refine ⟨_, _, rfl, ?_, ?_⟩
  · exact ⟨rfl, rfl, h.networkId.symm, h.nodeId.symm, h.peerNodeId.symm, h.sessionId.symm,
      h.virtualIp.symm, h.peerVirtualIp.symm⟩
  · exact ⟨rfl, rfl, h.networkId, h.peerNodeId, h.nodeId, h.sessionId, h.peerVirtualIp, h.virtualIp⟩

/-- If the server accepts the finish of a client and the client the finish of the server, both have
had the same handshake, whatever the network has delivered before. -/
theorem accepted_finishes_agree {c : Crypto} {calls : PrimitiveCalls} (hideal : Ideal c calls)
    {clientParameters : ClientHandshakeParameters} {clientKey : SigningKey} {hello : ClientHelloSent}
    (hhello : ClientHelloSent.start c clientParameters clientKey = some hello)
    {clientHello : Bytes} {serverParameters : ServerHandshakeParameters} {serverKey : SigningKey}
    {controllerKey : VerifyingKey} {now : UInt64} {answer : ServerHelloSent}
    (hanswer : ServerHelloSent.accept c clientHello serverParameters serverKey controllerKey now =
      some answer)
    {serverHello : Bytes} {controllerKey' : VerifyingKey} {now' : UInt64}
    {finishing : ClientFinishSent}
    (hfinishing : hello.acceptServerHello c serverHello controllerKey' now' = some finishing)
    {serverFinish : Bytes} {serverSession clientSession : EstablishedSession}
    (hserver : answer.acceptClientFinish c finishing.encoded = some (serverSession, serverFinish))
    (hclient : finishing.acceptServerFinish c serverFinish = some clientSession)
    (hwithin : finishing.Within calls) (hwithin' : answer.Within calls) :
    finishing.clientHello = answer.clientHello ∧ finishing.serverHello = answer.encoded ∧
      Agree clientSession serverSession ∧
      (clientSession.context = clientParameters.context ∧
        serverSession.context = serverParameters.context ∧
        clientSession.sessionId = serverParameters.sessionId) ∧
      ∃ sender receiver sender' receiver',
        clientSession.intoDataPlane c = some (sender, receiver) ∧
        serverSession.intoDataPlane c = some (sender', receiver') ∧
        sender.Meets receiver' ∧ sender'.Meets receiver := by
  obtain ⟨⟨_, hlocalCredential, _⟩, hmachine⟩ := (start_eq_some_iff ..).mp hhello
  obtain ⟨⟨_, hlocalCredential', _⟩, parsed, sharedSecret, keys, hparsed, _, hkeys, hanswered⟩ :=
    (accept_eq_some_iff ..).mp hanswer
  obtain ⟨⟨parsed', hparsed'⟩, hcontext, hown, htheirs, hhash, hexpand, ciphertext, tag, hencrypt,
    hencoded⟩ := acceptServerHello_eq_some hfinishing
  obtain ⟨hdecode, hserverSession⟩ := acceptClientFinish_eq_some hserver
  have hclientSession := acceptServerFinish_eq_some hclient
  rw [hencoded] at hdecode
  obtain ⟨hsession, hkey, hsameHash⟩ := finish_agrees hideal hwithin hwithin' hencrypt hdecode
  obtain ⟨hhash', hexpand'⟩ := deriveHandshakeKeys_eq_some hkeys
  rw [transcriptHash_pair] at hhash'
  subst hanswered hmachine
  dsimp only at *
  -- the two hellos are told apart in the transcript by their fixed lengths
  have hhellos : clientHelloSigned c clientParameters clientKey ++ serverHello = clientHello ++
      serverHelloSigned c serverParameters serverKey clientHello parsed := by
    have hhashed := hwithin.hashed
    rw [hown, htheirs] at hhashed
    have hequal := hideal.sha256 hhashed hwithin'.hashed (by
      rw [← hhash, ← hhash', hsameHash])
    exact List.append_cancel_left hequal
  obtain ⟨hlength, hnetwork, hsource, hdestination, credential, verified, hcredential, hverified⟩ :=
    parseClientHello_eq_some hparsed
  obtain ⟨hclientHello, hserverHello⟩ := List.append_inj hhellos (by
    rw [length_clientHelloSigned, hlength])
  subst hclientHello hserverHello
  -- what each side has read of the other's hello is what the other has written
  have hclientBody := clientHelloBody clientParameters
    (clientParameters.ephemeralPrivateKey.publicKey c) (c.sign clientKey (clientAuthDomain ++
      clientHelloUnsigned clientParameters (clientParameters.ephemeralPrivateKey.publicKey c)))
  change ClientHelloBody _ _ _ ((clientHelloSigned c clientParameters clientKey).drop
    commonHeaderLength) at hclientBody
  have hpeerAddress : serverParameters.context.peerVirtualIp =
      clientParameters.context.localVirtualIp := by
    rw [hclientBody.credential] at hcredential
    cases Option.some.inj hcredential
    exact credential_address hlocalCredential hverified
  have hnode : clientParameters.context.localNodeId = serverParameters.context.peerNodeId :=
    Option.some.inj (hclientBody.sourceNodeId.symm.trans hsource)
  have hpeer : clientParameters.context.peerNodeId = serverParameters.context.localNodeId :=
    Option.some.inj (hclientBody.destinationNodeId.symm.trans hdestination)
  have hsameNetwork : clientParameters.context.networkId = serverParameters.context.networkId :=
    Option.some.inj (hclientBody.networkId.symm.trans hnetwork)
  have haddress : clientParameters.context.peerVirtualIp =
      serverParameters.context.localVirtualIp := by
    obtain ⟨_, _, _, credential', verified', hcredential', hverified'⟩ :=
      parseServerHello_eq_some hparsed'
    have hserverBody := serverHelloBody serverParameters parsed.messageId parsed.clientNonce
      (serverParameters.ephemeralPrivateKey.publicKey c)
      (c.sha256 (clientHelloSigned c clientParameters clientKey))
      (c.sign serverKey (serverAuthDomain ++
        (c.sha256 (clientHelloSigned c clientParameters clientKey)).val ++
        serverHelloUnsigned serverParameters parsed.messageId parsed.clientNonce
          (serverParameters.ephemeralPrivateKey.publicKey c)
          (c.sha256 (clientHelloSigned c clientParameters clientKey))))
    change ServerHelloBody _ _ _ _ _ ((serverHelloSigned c serverParameters serverKey
      (clientHelloSigned c clientParameters clientKey) parsed).drop commonHeaderLength) at hserverBody
    rw [hserverBody.credential] at hcredential'
    cases Option.some.inj hcredential'
    exact credential_address hlocalCredential' hverified'
  have hprk : finishing.keys.handshakePrk = keys.handshakePrk := by
    have hinput := hideal.hkdf hwithin.expanded hwithin'.expanded (by
      show c.hkdfExpand finishing.keys.handshakePrk _ 32 = c.hkdfExpand keys.handshakePrk _ 32
      rw [hexpand, hexpand', hkey])
    exact congrArg Prod.fst hinput
  rw [hown, htheirs, hsession, hprk, hcontext] at hclientSession
  have hagree := establishedSession_agree hsameNetwork hnode hpeer hpeerAddress.symm haddress
    hclientSession hserverSession
  obtain ⟨_, hcontext', hid⟩ := establishedSession_eq_some hclientSession
  obtain ⟨_, hcontext'', _⟩ := establishedSession_eq_some hserverSession
  obtain ⟨sender, receiver, hinto⟩ := intoDataPlane_succeeds hideal.expands clientSession
  obtain ⟨sender', receiver', hinto', hmeets⟩ := hagree.meets hinto
  exact ⟨hown, htheirs, hagree, ⟨hcontext', hcontext'', hid⟩, sender, receiver, sender', receiver',
    hinto, hinto', hmeets⟩

/-- The whole handshake of the sample peers. -/
def sampleHandshake : Option (ClientHelloSent × ServerHelloSent × ClientFinishSent × Bytes ×
    EstablishedSession × EstablishedSession) := do
  let hello ← sampleHello
  let answer ← sampleAnswer hello.encoded
  let finishing ← hello.acceptServerHello .transparent answer.encoded
    sampleMaterial.controllerVerifyingKey 1700000100
  let (serverSession, serverFinish) ← answer.acceptClientFinish .transparent finishing.encoded
  let clientSession ← finishing.acceptServerFinish .transparent serverFinish
  some (hello, answer, finishing, serverFinish, clientSession, serverSession)

/-- All calls of the sample handshake. -/
def sampleCalls (finishing : ClientFinishSent) : PrimitiveCalls where
  hashed := {helloTranscriptDomain ++ (finishing.clientHello ++ finishing.serverHello)}
  expanded := {(finishing.keys.handshakePrk,
    clientHandshakeKeyDomain ++ finishing.keys.helloTranscriptHash.val)}
  sealed := {(finishing.keys.clientKey, finishNonce finishing.keys.clientNonceSalt,
    finishAad clientFinishType finishing.messageId finishing.sessionId,
    finishing.keys.helloTranscriptHash.val)}
  opened := {(finishing.keys.clientKey, finishNonce finishing.keys.clientNonceSalt,
    finishAad clientFinishType finishing.messageId finishing.sessionId)}

theorem sampleCalls_ideal (finishing : ClientFinishSent) :
    Ideal .transparent (sampleCalls finishing) where
  expands _ _ _ _ := ⟨_, rfl⟩
  sha256 := Set.injOn_singleton ..
  hkdf := Set.injOn_singleton ..
  aead := by
    intro key nonce aad plaintext hsealed key' nonce' aad' hopened ciphertext tag plaintext' hencrypt
      hdecrypt
    cases hsealed
    cases hopened
    have hopens := aeadCorrect_transparent.opens hencrypt
    exact ⟨rfl, rfl, rfl, Option.some.inj (hdecrypt.symm.trans hopens)⟩

theorem accepted_finishes_agree_sample : ∃ hello answer finishing serverFinish clientSession
    serverSession, sampleHandshake = some (hello, answer, finishing, serverFinish, clientSession,
      serverSession) ∧
    finishing.clientHello = answer.clientHello ∧ finishing.serverHello = answer.encoded ∧
      Agree clientSession serverSession := by
  have hrun : (sampleHandshake.any fun (_, answer, finishing, _, _, _) =>
      decide (finishing.clientHello = answer.clientHello ∧ finishing.serverHello = answer.encoded ∧
        finishing.keys = answer.keys ∧ finishing.messageId = answer.messageId ∧
        finishing.sessionId = answer.sessionId)) = true := by decide +kernel
  obtain ⟨⟨hello, answer, finishing, serverFinish, clientSession, serverSession⟩, hsample, hsame⟩ :=
    (Option.any_eq_true _ _).mp hrun
  obtain ⟨hclientHello, hserverHello, hkeys, hmessage, hsession⟩ := of_decide_eq_true hsame
  have hwithin : finishing.Within (sampleCalls finishing) := ⟨rfl, rfl, rfl⟩
  have hwithin' : answer.Within (sampleCalls finishing) := by
    constructor
    · rw [← hclientHello, ← hserverHello]
      rfl
    · rw [← hkeys]
      rfl
    · rw [← hkeys, ← hmessage, ← hsession]
      rfl
  have hhandshake := hsample
  obtain ⟨hello', hhello, hhandshake⟩ := Option.bind_eq_some_iff.mp hhandshake
  obtain ⟨answer', hanswer, hhandshake⟩ := Option.bind_eq_some_iff.mp hhandshake
  obtain ⟨finishing', hfinishing, hhandshake⟩ := Option.bind_eq_some_iff.mp hhandshake
  obtain ⟨⟨serverSession', serverFinish'⟩, hserver, hhandshake⟩ :=
    Option.bind_eq_some_iff.mp hhandshake
  obtain ⟨clientSession', hclient, hhandshake⟩ := Option.bind_eq_some_iff.mp hhandshake
  cases Option.some.inj hhandshake
  obtain ⟨hsameHello, hsameAnswer, hagree, _⟩ := accepted_finishes_agree
    (sampleCalls_ideal finishing) hhello hanswer hfinishing hserver hclient hwithin hwithin'
  exact ⟨_, _, _, _, _, _, hsample, hsameHello, hsameAnswer, hagree⟩

end XsNexus
