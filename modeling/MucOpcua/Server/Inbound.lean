import MucOpcua.Server.Served

/-!
# From a message to the request it carries

Plain chunks, unwrapped chunks and assembled requests reach the dispatcher through different code,
but all of them are accepted by their identifiers and SequenceNumber, decoded and served.
-/

namespace MucOpcua

variable {ω σ : Type} (cfg : ServerConfig ω σ)
variable {reader : BinaryReader} (s : Server ω σ) (msg : List UInt8)

/-! ## What a message brings -/

/-- The content of a chunk; `request` is missing when its type cannot be decoded. -/
structure Inbound where
  channelId : UInt32
  tokenId : UInt32
  sequenceNumber : UInt32
  requestId : UInt32
  request : Option (NodeId × List UInt8)
  opn : Option OpnHeader
  deriving DecidableEq

def typeAndBody (bytes : List UInt8) (reader : BinaryReader) : Option (NodeId × List UInt8) :=
  match binaryReadNodeid reader with
  | .error _ _ => none
  | .ok typeId reader => some (typeId, bytes.drop reader.position)

def PlaintextPrologue.inbound (p : PlaintextPrologue) (request : Option (NodeId × List UInt8)) :
    Inbound :=
  ⟨p.channelId, p.tokenId, p.sequenceNumber, p.requestId, request, p.opn⟩

def plaintextInbound (msg : List UInt8) (isOpn : Bool) : Option Inbound :=
  match readPlaintextPrologue isOpn ((BinaryReader.init msg).seek 8) with
  | .error _ _ => none
  | .ok prologue reader => some (prologue.inbound (typeAndBody msg reader))

def SecureRequest.inbound (req : SecureRequest) : Inbound :=
  ⟨req.channelId, req.tokenId, req.sequenceNumber, req.requestId,
    typeAndBody req.plain (BinaryReader.init req.plain), req.opn⟩

def assembledInbound (ca : ChunkAssembler) (msg : List UInt8) : Option Inbound :=
  if msg.length ≤ uascSymmetricHeaderSize then none
  else
    match ca.append (msg.drop uascSymmetricHeaderSize),
        readPlaintextPrologue false ((BinaryReader.init msg).seek 8) with
    | some ca, .ok prologue _ =>
      some (prologue.inbound (typeAndBody ca.bytes (BinaryReader.init ca.bytes)))
    | _, _ => none

/-- The content of an OPN or MSG chunk that is not part of a split request, with the policy the
channel has when it is accepted. -/
def chunkInbound (channel : SecureChannel) (msg : List UInt8) (isOpn : Bool) :
    Option (SecurityPolicy × Inbound) :=
  match cfg.cryptoAdapter with
  | none => (plaintextInbound msg isOpn).map fun m => (channel.policy, m)
  | some crypto =>
    if isOpn then (secureUnwrapOpn crypto msg).map fun r => (r.1, r.2.inbound)
    else if channel.policy = .none then
      (plaintextInbound msg false).map fun m => (channel.policy, m)
    else (secureUnwrapMsg crypto channel msg).map fun req => (channel.policy, req.inbound)

def messageInbound (s : Server ω σ) (msg : List UInt8) : Option (SecurityPolicy × Inbound) :=
  if s.conn.tcpConn.state = .closed then none
  else
    match parseMessageHeader msg with
    | .error _ => none
    | .ok header =>
      if header.messageType = .msg ∧ header.chunkType = .intermediate then none
      else if header.messageType = .msg ∧ header.chunkType = .final ∧ s.chunkAssembly.isActive then
        (assembledInbound s.chunkAssembly msg).map fun m => (s.channel.policy, m)
      else if header.messageType = .clo then none
      else if header.messageType ≠ .opn ∧ header.messageType ≠ .msg then none
      else chunkInbound cfg s.channel msg (header.messageType = .opn)

/-! ## What is done with it -/

/-- A channel takes a chunk: a MSG chunk is addressed to it and the SequenceNumber is in order. -/
structure Accepts (channel : SecureChannel) (m : Inbound) : Prop where
  binding : m.opn = none → m.channelId = channel.channelId ∧ m.tokenId = channel.tokenId
  sequence : channel.sequence.Accepts m.sequenceNumber

def SecureChannel.accepted (channel : SecureChannel) (m : Inbound) (inLast : UInt32) :
    SecureChannel :=
  { channel with sequence := ⟨m.sequenceNumber, true⟩, inLastSequenceNumber := inLast }

/-- A chunk is refused and the connection aborted, or it is accepted; then its request is served
unless it cannot be decoded. -/
inductive Route (s : Server ω σ) (m : Inbound) (s' : Server ω σ) : Prop where
  | refused (h : ¬ Accepts s.channel m) (hs : s' = abortConnection cfg s)
  | undecodable (inLast : UInt32) (h : Accepts s.channel m) (hreq : m.request = none)
      (hs : s' = s.setChannel (s.channel.accepted m inLast))
  | served (inLast : UInt32) (typeId : NodeId) (body : List UInt8) (h : Accepts s.channel m)
      (hreq : m.request = some (typeId, body))
      (hs : Served (s.setChannel (s.channel.accepted m inLast)) typeId body m.opn s')
      (hopn : OpnAnswered typeId m.opn s')

structure Unanswered (s s' : Server ω σ) : Prop where
  clientHandle : s'.conn.clientHandle = s.conn.clientHandle ∨ s'.conn.clientHandle = none
  peers : s'.peers = s.peers
  channelClientCert : s'.channelClientCert = s.channelClientCert
  channel : s'.channel = { s.channel with outSequenceNumber := s'.channel.outSequenceNumber } ∨
    s'.channel.isOpen = false
  trace : s'.trace = s.trace

theorem Unanswered.of_quiet {s s' : Server ω σ} (h : Quiet s s') : Unanswered s s' :=
  ⟨h.clientHandle,h.peers,h.channelClientCert,.inl h.channel,h.trace⟩

theorem acceptInboundChunk_of_accepts {s : Server ω σ} {m : Inbound} (h : Accepts s.channel m) :
    acceptInboundChunk s m.opn.isSome m.channelId m.tokenId m.sequenceNumber =
      some (s.setChannel (s.channel.accepted m s.channel.inLastSequenceNumber)) := by
  unfold acceptInboundChunk
  rw [if_neg,sequenceValidate_of_accepts h.sequence]
  · rfl
  · rintro ⟨hopn,hids⟩
    obtain ⟨hid,htoken⟩ := h.binding (by simpa using hopn)
    exact hids.elim (· hid) (· htoken)

theorem acceptInboundChunk_of_not_accepts {s : Server ω σ} {m : Inbound}
    (h : ¬ Accepts s.channel m) :
    acceptInboundChunk s m.opn.isSome m.channelId m.tokenId m.sequenceNumber = none := by
  unfold acceptInboundChunk
  split
  · rfl
  rename_i hids
  rw [sequenceValidate_of_not_accepts]
  intro hsequence
  refine h ⟨fun hopn => ?_,hsequence⟩
  simpa [hopn] using hids

/-! ## Unwrapped chunks -/

theorem typeAndBody_none {bytes : List UInt8} (h : typeAndBody bytes reader = none) :
    ∃ status reader', binaryReadNodeid reader = .error status reader' := by
  unfold typeAndBody at h
  split at h
  · exact ⟨_,_,‹_›⟩
  · cases h

theorem typeAndBody_some {bytes : List UInt8} {typeId : NodeId}
    {body : List UInt8} (h : typeAndBody bytes reader = some (typeId, body)) :
    ∃ reader', binaryReadNodeid reader = .ok typeId reader' ∧
      body = bytes.drop reader'.position := by
  unfold typeAndBody at h
  split at h
  · cases h
  · cases h
    exact ⟨_,‹_›,rfl⟩

section Secure

variable {crypto : CryptoAdapter ω} {s : Server ω σ} {req : SecureRequest}

theorem handleSecureRequest_refused (h : ¬ Accepts s.channel req.inbound) :
    handleSecureRequest cfg crypto s req = abortConnection cfg s := by
  have hrefuse := acceptInboundChunk_of_not_accepts h
  simp only [SecureRequest.inbound] at hrefuse
  rw [handleSecureRequest,hrefuse]

theorem handleSecureRequest_undecodable (h : Accepts s.channel req.inbound)
    (hreq : req.inbound.request = none) :
    handleSecureRequest cfg crypto s req =
      s.setChannel (s.channel.accepted req.inbound req.sequenceNumber) := by
  have haccept := acceptInboundChunk_of_accepts h
  obtain ⟨status,reader,hread⟩ := typeAndBody_none hreq
  simp only [SecureRequest.inbound] at haccept
  rw [handleSecureRequest,haccept]
  simp only [hread]
  rfl

theorem handleSecureRequest_request (h : Accepts s.channel req.inbound) {typeId : NodeId}
    {body : List UInt8} (hreq : req.inbound.request = some (typeId, body)) :
    handleSecureRequest cfg crypto s req = serveSecure cfg crypto
      (s.setChannel (s.channel.accepted req.inbound req.sequenceNumber)) typeId body req := by
  have haccept := acceptInboundChunk_of_accepts h
  obtain ⟨reader,hread,rfl⟩ := typeAndBody_some hreq
  simp only [SecureRequest.inbound] at haccept
  rw [handleSecureRequest,haccept]
  simp only [hread]
  rfl

end Secure

theorem handleSecureRequest_route (crypto : CryptoAdapter ω) (s : Server ω σ)
    (req : SecureRequest) : Route cfg s req.inbound (handleSecureRequest cfg crypto s req) := by
  by_cases h : Accepts s.channel req.inbound
  · cases hreq : req.inbound.request with
    | none => exact .undecodable _ h hreq (handleSecureRequest_undecodable cfg h hreq)
    | some r =>
      rw [handleSecureRequest_request cfg h hreq]
      exact .served _ r.1 r.2 h hreq (serveSecure_served ..)
        (serveSecure_opnAnswered cfg crypto _ _ _ _)
  · exact .refused h (handleSecureRequest_refused cfg h)

/-! ## Chunks in cleartext -/

theorem readPlaintextPrologue_opn {isOpn : Bool} {reader' : BinaryReader}
    {prologue : PlaintextPrologue} (h : readPlaintextPrologue isOpn reader = .ok prologue reader') :
    prologue.opn.isSome = isOpn := by
  obtain ⟨channelId,r₁,-,h⟩ := Sticky.ok_of_bind h
  obtain ⟨⟨tokenId,opn⟩,r₂,hsecurity,h⟩ := Sticky.ok_of_bind h
  obtain ⟨sequenceNumber,r₃,-,h⟩ := Sticky.ok_of_bind h
  obtain ⟨requestId,r₄,-,h⟩ := Sticky.ok_of_bind h
  cases h
  cases isOpn with
  | true =>
    obtain ⟨securityPolicy,r₅,-,hsecurity⟩ := Sticky.ok_of_bind hsecurity
    obtain ⟨clientCert,r₆,-,hsecurity⟩ := Sticky.ok_of_bind hsecurity
    obtain ⟨thumbprint,r₇,-,hsecurity⟩ := Sticky.ok_of_bind hsecurity
    cases hsecurity
    rfl
  | false =>
    obtain ⟨token,r₅,-,hsecurity⟩ := Sticky.ok_of_bind hsecurity
    cases hsecurity
    rfl

section Plaintext

variable {s : Server ω σ} {msg : List UInt8} {isOpn : Bool} {prologue : PlaintextPrologue}
  {reader : BinaryReader}

theorem handleDataChunkPlaintext_refused
    (hread : readPlaintextPrologue isOpn ((BinaryReader.init msg).seek 8) = .ok prologue reader)
    (h : ¬ Accepts s.channel (prologue.inbound (typeAndBody msg reader))) :
    handleDataChunkPlaintext cfg s msg isOpn = abortConnection cfg s := by
  have hrefuse := acceptInboundChunk_of_not_accepts h
  simp only [PlaintextPrologue.inbound,readPlaintextPrologue_opn hread] at hrefuse
  simp only [handleDataChunkPlaintext,hread,hrefuse]

theorem handleDataChunkPlaintext_undecodable
    (hread : readPlaintextPrologue isOpn ((BinaryReader.init msg).seek 8) = .ok prologue reader)
    (h : Accepts s.channel (prologue.inbound (typeAndBody msg reader)))
    (hreq : typeAndBody msg reader = none) :
    handleDataChunkPlaintext cfg s msg isOpn = s.setChannel (s.channel.accepted
      (prologue.inbound (typeAndBody msg reader)) s.channel.inLastSequenceNumber) := by
  have haccept := acceptInboundChunk_of_accepts h
  obtain ⟨status,reader',hnode⟩ := typeAndBody_none hreq
  simp only [PlaintextPrologue.inbound,readPlaintextPrologue_opn hread] at haccept
  simp only [handleDataChunkPlaintext,hread,haccept,hnode]
  rfl

theorem handleDataChunkPlaintext_request
    (hread : readPlaintextPrologue isOpn ((BinaryReader.init msg).seek 8) = .ok prologue reader)
    (h : Accepts s.channel (prologue.inbound (typeAndBody msg reader))) {typeId : NodeId}
    {body : List UInt8} (hreq : typeAndBody msg reader = some (typeId, body)) :
    handleDataChunkPlaintext cfg s msg isOpn = servePlaintext cfg
      (s.setChannel (s.channel.accepted (prologue.inbound (typeAndBody msg reader))
        s.channel.inLastSequenceNumber)) typeId body prologue.requestId prologue.opn := by
  have haccept := acceptInboundChunk_of_accepts h
  obtain ⟨reader',hnode,rfl⟩ := typeAndBody_some hreq
  simp only [PlaintextPrologue.inbound,readPlaintextPrologue_opn hread] at haccept
  simp only [handleDataChunkPlaintext,hread,haccept,hnode]
  rfl

end Plaintext

theorem handleDataChunkPlaintext_route (isOpn : Bool) :
    match plaintextInbound msg isOpn with
    | none => handleDataChunkPlaintext cfg s msg isOpn = s
    | some m => Route cfg s m (handleDataChunkPlaintext cfg s msg isOpn) := by
  unfold plaintextInbound
  cases hread : readPlaintextPrologue isOpn ((BinaryReader.init msg).seek 8) with
  | error status reader => simp only [handleDataChunkPlaintext,hread]
  | ok prologue reader =>
    dsimp only
    by_cases h : Accepts s.channel (prologue.inbound (typeAndBody msg reader))
    · cases hreq : typeAndBody msg reader with
      | none =>
        rw [hreq] at h
        exact .undecodable _ h rfl
          (hreq ▸ handleDataChunkPlaintext_undecodable cfg hread (hreq ▸ h) hreq)
      | some r =>
        rw [handleDataChunkPlaintext_request cfg hread h hreq]
        rw [hreq] at h ⊢
        exact .served _ r.1 r.2 h rfl (servePlaintext_served ..)
          (servePlaintext_opnAnswered cfg _ _ _ _ _)
    · exact .refused h (handleDataChunkPlaintext_refused cfg hread h)

/-! ## Split requests -/

theorem processMessageMultiChunkFinal_route (assembled : List UInt8) {prologue : PlaintextPrologue}
    (hread : readPlaintextPrologue false ((BinaryReader.init msg).seek 8) = .ok prologue reader) :
    ∃ u, Route cfg s (prologue.inbound (typeAndBody assembled (BinaryReader.init assembled))) u ∧
      processMessageMultiChunkFinal cfg s msg assembled = u.resetAssembly := by
  have hopn := readPlaintextPrologue_opn hread
  have hnone : prologue.opn = none := by simpa using hopn
  unfold processMessageMultiChunkFinal
  rw [hread]
  dsimp only
  by_cases h : Accepts s.channel
      (prologue.inbound (typeAndBody assembled (BinaryReader.init assembled)))
  · have haccept := acceptInboundChunk_of_accepts h
    simp only [PlaintextPrologue.inbound,hopn] at haccept
    rw [haccept]
    dsimp only
    split
    · next hnode =>
      exact ⟨_,.undecodable _ h (by simp [PlaintextPrologue.inbound,typeAndBody,hnode]) rfl,rfl⟩
    rename_i typeId reader' hnode
    refine ⟨_,.served s.channel.inLastSequenceNumber typeId (assembled.drop reader'.position) h (by
        simp [PlaintextPrologue.inbound,typeAndBody,hnode]) ?_ ?_,rfl⟩
    · simp only [PlaintextPrologue.inbound,hnone]
      exact servePlaintext_served ..
    · simp only [PlaintextPrologue.inbound,hnone]
      exact nofun
  · have hrefuse := acceptInboundChunk_of_not_accepts h
    simp only [PlaintextPrologue.inbound,hopn] at hrefuse
    rw [hrefuse]
    exact ⟨_,.refused h rfl,rfl⟩

theorem processMessageFinalChunk_route :
    match assembledInbound s.chunkAssembly msg with
    | none => processMessageFinalChunk cfg s msg = s.resetAssembly
    | some m => ∃ ca u, Route cfg { s with chunkAssembly := ca } m u ∧
        processMessageFinalChunk cfg s msg = u.resetAssembly := by
  unfold processMessageFinalChunk assembledInbound
  by_cases hlen : msg.length ≤ uascSymmetricHeaderSize
  · simp only [if_pos hlen]
  simp only [if_neg hlen]
  cases happend : s.chunkAssembly.append (msg.drop uascSymmetricHeaderSize) with
  | none => rfl
  | some ca =>
    cases hread : readPlaintextPrologue false ((BinaryReader.init msg).seek 8) with
    | error status reader => simp only [processMessageMultiChunkFinal,hread,Server.resetAssembly]
    | ok prologue reader =>
      exact ⟨ca,processMessageMultiChunkFinal_route cfg { s with chunkAssembly := ca } msg ca.bytes
        hread⟩

theorem processMessageOpnOrMsg_route (isOpn : Bool) :
    match chunkInbound cfg s.channel msg isOpn with
    | none => processMessageOpnOrMsg cfg s msg isOpn = s
    | some (policy, m) => Route cfg (s.setChannel { s.channel with policy }) m
        (processMessageOpnOrMsg cfg s msg isOpn) := by
  have hplain (isOpn : Bool) : match (plaintextInbound msg isOpn).map fun m => (s.channel.policy, m)
      with
      | none => handleDataChunkPlaintext cfg s msg isOpn = s
      | some (policy, m) => Route cfg (s.setChannel { s.channel with policy }) m
          (handleDataChunkPlaintext cfg s msg isOpn) := by
    have h := handleDataChunkPlaintext_route cfg s msg isOpn
    cases hm : plaintextInbound msg isOpn <;> rw [hm] at h <;> exact h
  unfold processMessageOpnOrMsg chunkInbound
  cases cfg.cryptoAdapter with
  | none => exact hplain isOpn
  | some crypto =>
    unfold handleDataChunkSecure
    cases isOpn with
    | true =>
      cases hunwrap : secureUnwrapOpn crypto msg with
      | none => simp [hunwrap]
      | some r => simpa [hunwrap] using handleSecureRequest_route cfg crypto _ r.2
    | false =>
      by_cases hpolicy : s.channel.policy = .none
      · simpa [hpolicy] using hplain false
      cases hunwrap : secureUnwrapMsg crypto s.channel msg with
      | none => simp [hunwrap,hpolicy]
      | some req =>
        simp only [hunwrap,hpolicy]
        exact handleSecureRequest_route cfg crypto s req

/-! ## One message -/

/-- The assembler is no part of what `Unanswered` relates. -/
theorem Unanswered.assembly {s s' : Server ω σ} {ca : ChunkAssembler}
    (h : Unanswered { s with chunkAssembly := ca } s') (ca' : ChunkAssembler) :
    Unanswered s { s' with chunkAssembly := ca' } :=
  ⟨h.clientHandle,h.peers,h.channelClientCert,h.channel,h.trace⟩

theorem processMessageHello_unanswered : Unanswered s (processMessageHello cfg s msg) := by
  unfold processMessageHello
  split
  · next tcpConn _ =>
    have h := sendChunk_quiet cfg { s with conn := { s.conn with tcpConn } } (ackMessage tcpConn)
    exact ⟨h.clientHandle,h.peers,h.channelClientCert,.inl h.channel,h.trace⟩
  · exact .of_quiet (abortConnection_quiet cfg s)

theorem processMessageRefused_unanswered (fault : HeaderFault) :
    Unanswered s (processMessageRefused cfg s fault) := by
  have hreset (u : Server ω σ) (h : Quiet s u) : Unanswered s u.resetAssembly :=
    (Unanswered.of_quiet h).assembly ChunkAssembler.idle
  unfold processMessageRefused
  split
  · exact hreset _ (sendTcpErrorChunk_acts cfg s _).quiet
  · exact hreset s (Quiet.refl s)

theorem processMessageMultiChunkContinuation_unanswered :
    Unanswered s (processMessageMultiChunkContinuation cfg s msg) := by
  unfold processMessageMultiChunkContinuation
  split
  · exact .of_quiet (sendTcpErrorChunk_acts cfg s _).quiet
  split
  · exact (Unanswered.of_quiet (sendTcpErrorChunk_acts cfg
      { s with chunkAssembly := ChunkAssembler.idle } _).quiet).assembly _
  · exact (Unanswered.of_quiet (Quiet.refl s)).assembly _

theorem processMessageClose_unanswered : Unanswered s (processMessageClose cfg s) :=
  ⟨.inr rfl,rfl,rfl,.inr (closed_isOpen s.channel),rfl⟩

theorem secureUnwrapOpn_opn {crypto : CryptoAdapter ω} {msg : List UInt8}
    {policy : SecurityPolicy} {req : SecureRequest}
    (h : secureUnwrapOpn crypto msg = some (policy, req)) : req.opn.isSome = true := by
  unfold secureUnwrapOpn at h
  split at h
  · cases h
    rfl
  · cases h

theorem messageInbound_policy {s : Server ω σ} {msg : List UInt8} {policy : SecurityPolicy}
    {m : Inbound} (h : messageInbound cfg s msg = some (policy, m)) (hopn : m.opn = none) :
    policy = s.channel.policy := by
  have hmap {r : Option Inbound} (hr : r.map (fun m => (s.channel.policy, m)) = some (policy, m)) :
      policy = s.channel.policy := by
    obtain ⟨m',-,heq⟩ := Option.map_eq_some_iff.mp hr
    exact (congrArg Prod.fst heq).symm
  unfold messageInbound at h
  split at h
  · cases h
  split at h
  · cases h
  split at h
  · cases h
  split at h
  · exact hmap h
  split at h
  · cases h
  split at h
  · cases h
  unfold chunkInbound at h
  split at h
  · exact hmap h
  split at h
  · obtain ⟨⟨policy',req⟩,hunwrap,heq⟩ := Option.map_eq_some_iff.mp h
    cases heq
    have hsome := secureUnwrapOpn_opn hunwrap
    rw [show req.opn = none from hopn] at hsome
    cases hsome
  split at h
  · exact hmap h
  · obtain ⟨req,-,heq⟩ := Option.map_eq_some_iff.mp h
    exact (congrArg Prod.fst heq).symm

theorem processMessage_cases :
    match messageInbound cfg s msg with
    | none => Unanswered s (processMessage cfg s msg)
    | some (policy, m) => ∃ ca u,
        Route cfg ({ s with chunkAssembly := ca }.setChannel { s.channel with policy }) m u ∧
        processMessage cfg s msg =
          { u with chunkAssembly := (processMessage cfg s msg).chunkAssembly } := by
  unfold processMessage messageInbound
  by_cases hclosed : s.conn.tcpConn.state = .closed
  · simp only [if_pos hclosed]
    exact processMessageHello_unanswered cfg s msg
  simp only [if_neg hclosed]
  cases hparse : parseMessageHeader msg with
  | error fault => exact processMessageRefused_unanswered cfg s fault
  | ok header =>
    by_cases hmore : header.messageType = .msg ∧ header.chunkType = .intermediate
    · simp only [if_pos hmore]
      exact processMessageMultiChunkContinuation_unanswered cfg s msg
    simp only [if_neg hmore]
    by_cases hfinal : header.messageType = .msg ∧ header.chunkType = .final ∧
        s.chunkAssembly.isActive = true
    · simp only [if_pos hfinal]
      have h := processMessageFinalChunk_route cfg s msg
      cases hm : assembledInbound s.chunkAssembly msg with
      | none =>
        rw [hm] at h
        simp only [h]
        exact (Unanswered.of_quiet (Quiet.refl s)).assembly _
      | some m =>
        rw [hm] at h
        obtain ⟨ca,u,hroute,heq⟩ := h
        refine ⟨ca,u,hroute,?_⟩
        rw [heq]
        rfl
    · simp only [if_neg hfinal]
      by_cases hclo : header.messageType = .clo
      · simp only [if_pos hclo]
        exact processMessageClose_unanswered cfg s
      simp only [if_neg hclo]
      by_cases hother : header.messageType ≠ .opn ∧ header.messageType ≠ .msg
      · simp only [if_pos hother]
        exact .of_quiet (Quiet.refl s)
      simp only [if_neg hother]
      have h := processMessageOpnOrMsg_route cfg s msg (header.messageType = .opn)
      cases hm : chunkInbound cfg s.channel msg (header.messageType = .opn) with
      | none =>
        rw [hm] at h
        rw [h]
        exact .of_quiet (Quiet.refl s)
      | some r =>
        rw [hm] at h
        exact ⟨s.chunkAssembly,_,h,rfl⟩

instance (channel : SecureChannel) (m : Inbound) : Decidable (Accepts channel m) :=
  decidable_of_iff ((m.opn = none → m.channelId = channel.channelId ∧ m.tokenId = channel.tokenId) ∧
      channel.sequence.Accepts m.sequenceNumber)
    ⟨fun h => ⟨h.1, h.2⟩, fun h => ⟨h.binding, h.sequence⟩⟩

/-- The call of `mu_service_dispatch` that what a message brings leads to, if any. -/
def Inbound.dispatched (channel : SecureChannel) (m : Inbound) : Option (UInt32 × List UInt8) :=
  if Accepts channel m then
    m.request.bind fun (typeId, body) => (ns0Numeric? typeId).map fun id => (id, body)
  else none

theorem processMessage_dispatches : dispatches (processMessage cfg s msg).log = dispatches s.log ++
      ((messageInbound cfg s msg).bind fun r => r.2.dispatched s.channel).toList := by
  have hcases := processMessage_cases cfg s msg
  cases hm : messageInbound cfg s msg with
  | none =>
    rw [hm] at hcases
    rw [← dispatches_trace,hcases.trace,dispatches_trace]
    simp
  | some r =>
    rw [hm] at hcases
    obtain ⟨ca,u,hroute,heq⟩ := hcases
    rw [heq,Option.bind_some,Inbound.dispatched]
    cases hroute with
    | refused hnot hu =>
      rw [if_neg fun h => hnot ⟨h.binding,h.sequence⟩,hu]
      simp [abortConnection,Server.setChannel]
    | undecodable inLast h hnone hu =>
      rw [hnone,hu]
      simp [Server.setChannel]
    | served inLast typeId body h hrequest hserved _ =>
      rw [if_pos ⟨h.binding,h.sequence⟩,hrequest]
      exact hserved.dispatches

end MucOpcua
