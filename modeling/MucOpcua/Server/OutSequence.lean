import MucOpcua.Security.SymRoundTrip
import MucOpcua.Server.Connections

/-!
# SequenceNumbers of sent chunks

Every send takes the next outbound number of the channel before it calls a framing function.
-/

namespace MucOpcua

variable {ω σ : Type}

def Server.sent (s : Server ω σ) : List (List UInt8) :=
  s.log.filterMap fun event => match event with
    | .sent bytes => some bytes
    | _ => none

def FrameCall.chunk (s : Server ω σ) (call : FrameCall ω) : Option (List UInt8) :=
  match call.frame s with
  | .error _ => none
  | .ok (sendBuffer, total) => some (sendBuffer.val.take total)

inductive Outgoing where
  /-- a framing call with this number, and the chunk that was sent -/
  | chunk (number : UInt32) (bytes : Option (List UInt8))
  /-- an ACK or ERR message, which has no number -/
  | tcp (bytes : List UInt8)
  /-- the channel is closed -/
  | closed
  deriving DecidableEq

namespace Outgoing

def bytes : Outgoing → Option (List UInt8)
  | .chunk _ bytes => bytes
  | .tcp bytes => some bytes
  | .closed => none

def number? : Outgoing → Option UInt32
  | .chunk number _ => some number
  | _ => none

def sentNumber? : Outgoing → Option UInt32
  | .chunk number (some _) => some number
  | _ => none

def Framed : Outgoing → Prop
  | .chunk _ bytes => bytes.isSome
  | _ => True

def untilClosed (es : List Outgoing) : List Outgoing := es.takeWhile (· ≠ .closed)

end Outgoing

variable (cfg : ServerConfig ω σ)

/-- The framing calls, TCP messages and closings on the way between two states. In between, nothing
is sent and no number is taken. -/
inductive Outbound : Server ω σ → List Outgoing → Server ω σ → Prop where
  | refl (s : Server ω σ) : Outbound s [] s
  | kept {s u t : Server ω σ} {es : List Outgoing}
      (hout : u.channel.outSequenceNumber = s.channel.outSequenceNumber) (hsent : u.sent = s.sent)
      (h : Outbound u es t) : Outbound s es t
  | chunk {s t : Server ω σ} {es : List Outgoing} (call : FrameCall ω)
      (h : Outbound (call.send cfg s) es t) :
      Outbound s (.chunk s.nextOut.channel.outSequenceNumber (call.chunk s.nextOut) :: es) t
  | tcp {s t : Server ω σ} {es : List Outgoing} (message : List UInt8)
      (hmessage : (∃ tcpConn, message = ackMessage tcpConn) ∨
        ∃ code, message = tcpErrorMessage code [])
      (h : Outbound (sendChunk cfg s message) es t) :
      Outbound s (.tcp ((s.sendBuffer.patch 0 message).val.take message.length) :: es) t
  | closed {s t : Server ω σ} {es : List Outgoing} (hopen : s.channel.isOpen = true)
      (h : Outbound (s.setChannel s.channel.init) es t) : Outbound s (.closed :: es) t

def Traced (s t : Server ω σ) : Prop := ∃ es, Outbound cfg s es t

theorem sendBufferChunk_sent (s : Server ω σ) (total : Nat) :
    (sendBufferChunk cfg s total).sent = s.sent ++ [s.sendBuffer.val.take total] ∧
      (sendBufferChunk cfg s total).channel = s.channel := by
  unfold sendBufferChunk
  dsimp only
  split <;> simp [Server.sent,Server.record,abortConnection]

variable {cfg} {s t u : Server ω σ} {es : List Outgoing}

theorem FrameCall.send_sent (call : FrameCall ω) :
    (call.send cfg s).sent = s.sent ++ (call.chunk s.nextOut).toList ∧
      (call.send cfg s).channel = s.nextOut.channel := by
  unfold FrameCall.send FrameCall.chunk
  cases call.frame s.nextOut with
  | error status => exact ⟨(List.append_nil _).symm,rfl⟩
  | ok framed => exact sendBufferChunk_sent cfg _ _

namespace Outbound

theorem sent (h : Outbound cfg s es t) : t.sent = s.sent ++ es.filterMap Outgoing.bytes := by
  induction h with
  | refl s => simp
  | kept hout hsent h ih => rw [ih,hsent]
  | @chunk s t es call h ih =>
    rw [ih,call.send_sent.1]
    cases call.chunk s.nextOut <;> simp [List.filterMap_cons,Outgoing.bytes]
  | tcp message hmessage h ih =>
    rw [ih,sendChunk,(sendBufferChunk_sent cfg _ _).1]
    simp [Outgoing.bytes,Server.sent]
  | closed hopen h ih => exact ih

theorem numbers (h : Outbound cfg s es t) :
    List.IsChain (fun a b => b = a + 1) (s.channel.outSequenceNumber ::
      (Outgoing.untilClosed es).filterMap Outgoing.number?) := by
  induction h with
  | refl s => exact .singleton _
  | kept hout hsent h ih => rwa [← hout]
  | chunk call h ih =>
    rw [call.send_sent.2] at ih
    exact List.isChain_cons_cons.mpr ⟨rfl,ih⟩
  | tcp message hmessage h ih =>
    rw [sendChunk,(sendBufferChunk_sent cfg _ _).2] at ih
    exact ih
  | closed hopen h ih => exact .singleton _

theorem trans {es' : List Outgoing} (h : Outbound cfg s es t) (h' : Outbound cfg t es' u) :
    Outbound cfg s (es ++ es') u := by
  induction h with
  | refl s => exact h'
  | kept hout hsent h ih => exact .kept hout hsent (ih h')
  | chunk call h ih => exact .chunk call (ih h')
  | tcp message hmessage h ih => exact .tcp message hmessage (ih h')
  | closed hopen h ih => exact .closed hopen (ih h')

end Outbound

theorem Outgoing.sentNumbers_eq (h : ∀ e ∈ es, e.Framed) :
    es.filterMap Outgoing.sentNumber? = es.filterMap Outgoing.number? := by
  refine List.filterMap_congr fun e he => ?_
  cases e with
  | chunk number bytes =>
    obtain ⟨sent,rfl⟩ := Option.isSome_iff_exists.mp (h _ he)
    rfl
  | tcp | closed => rfl

namespace Traced

theorem refl (s : Server ω σ) : Traced cfg s s := ⟨[],.refl s⟩

theorem trans (h : Traced cfg s t) (h' : Traced cfg t u) : Traced cfg s u := by
  obtain ⟨es,h⟩ := h
  obtain ⟨es',h'⟩ := h'
  exact ⟨es ++ es',h.trans h'⟩

theorem kept (hout : t.channel.outSequenceNumber = s.channel.outSequenceNumber)
    (hsent : t.sent = s.sent) : Traced cfg s t := ⟨[],.kept hout hsent (.refl t)⟩

theorem after (h : Traced cfg u t)
    (hout : u.channel.outSequenceNumber = s.channel.outSequenceNumber) (hsent : u.sent = s.sent) :
    Traced cfg s t := (kept hout hsent).trans h

theorem acts (h : Traced cfg s t) (hacts : Acts cfg t u) : Traced cfg s u := by
  induction hacts with
  | refl => exact h
  | tail _ hlast ih =>
    refine ih.trans ?_
    cases hlast with
    | update | abort => exact .kept rfl rfl
    | chunk call => exact ⟨_,.chunk call (.refl _)⟩
    | tcp message hmessage => exact ⟨_,.tcp message hmessage (.refl _)⟩

theorem of_acts (h : Acts cfg s t) : Traced cfg s t := (refl s).acts h

theorem closed (cfg : ServerConfig ω σ) (s : Server ω σ) :
    Traced cfg s (s.setChannel s.channel.closed) := by
  unfold SecureChannel.closed secureChannelClose
  cases hopen : s.channel.isOpen with
  | false => exact .kept rfl rfl
  | true => exact ⟨_,.closed hopen (.refl _)⟩

end Traced

/-! ## Requests and messages -/

variable (cfg)

theorem closeIfRejected_traced (s : Server ω σ) (isOpn : Bool) (reply : Except BadStatus Nat) :
    Traced cfg s (closeIfRejected s isOpn reply) := by
  unfold closeIfRejected
  split
  · split
    · exact .closed cfg s
    · exact .refl s
  · exact .refl s

theorem secureChannelOpen_out {c c' : SecureChannel} {uri : MuString} {mode : MessageSecurityMode}
    {lifetime : UInt32} {entropy : EntropyAdapter ω} {world world' : ω}
    (h : secureChannelOpen c uri mode lifetime entropy world = (.ok c', world')) :
    c'.outSequenceNumber = c.outSequenceNumber := by
  unfold secureChannelOpen at h
  split at h
  · cases h
  split at h
  · cases h
    rfl
  · split at h <;> cases h
    rfl

theorem completeOpenSecureChannel_traced (s : Server ω σ) (slot : Server.Slot)
    (requestHandle : UInt32) (clientNonce : MuString) :
    Traced cfg s (completeOpenSecureChannel cfg s slot requestHandle clientNonce).2 := by
  unfold completeOpenSecureChannel
  split
  · exact .refl s
  split
  · exact .kept rfl rfl
  rename_i serverNonce world _
  have hworld : Traced cfg s { s with world } := .kept rfl rfl
  have hrespond := hworld.acts (respond_acts cfg { s with world } slot (encodeOscSecurityToken cfg
    s.returnDiagnostics requestHandle s.channel serverNonce.nonce))
  dsimp only
  split <;> rename_i h <;> rw [h] at hrespond
  · exact hrespond
  · exact hrespond.trans (.kept (deriveChannelKeys_rekeyed ..).outSequenceNumber rfl)

theorem grantSecureChannel_traced (s : Server ω σ) (request : OpenRequest) :
    Traced cfg s (grantSecureChannel cfg s request).2 := by
  unfold grantSecureChannel
  split
  · exact .kept rfl rfl
  rename_i channel world hopened
  have hout : channel.outSequenceNumber = s.channel.outSequenceNumber :=
    secureChannelOpen_out hopened
  unfold grantUniqueId ensureUniqueSecureChannelId
  split
  · exact .kept hout rfl
  split
  · next h =>
    split at h
    · cases h
    · cases h
      exact .kept hout rfl
  · exact (Traced.closed cfg _).after hout rfl

theorem handleOpenSecureChannel_traced (s : Server ω σ) (body : List UInt8) (slot : Server.Slot) :
    Traced cfg s (handleOpenSecureChannel cfg s body slot).2 := by
  unfold handleOpenSecureChannel
  split
  · exact .refl s
  dsimp only
  split
  · exact .kept rfl rfl
  split
  · exact .kept rfl rfl
  rename_i request _
  have hgrant := (grantSecureChannel_traced cfg
    { s with world := (cfg.timeAdapter.getTime s.world).2 } request).after (s := s) rfl rfl
  split <;> rename_i h <;> rw [h] at hgrant
  · exact hgrant
  · exact hgrant.trans (completeOpenSecureChannel_traced cfg _ slot _ _)

theorem handleCloseSecureChannel_traced (s : Server ω σ) (body : List UInt8)
    (slot : Server.Slot) : Traced cfg s (handleCloseSecureChannel cfg s body slot).2 := by
  unfold handleCloseSecureChannel
  split
  · exact .refl s
  split
  · exact .refl s
  rename_i channel hclose
  have hclosed : s.channel.closed = channel := by
    rw [SecureChannel.closed,hclose]
  have htraced := Traced.closed cfg s
  rw [hclosed] at htraced
  exact htraced.acts (respond_acts cfg _ slot _)

theorem acceptInboundChunk_traced {isOpn : Bool} {channelId tokenId number : UInt32}
    (h : acceptInboundChunk s isOpn channelId tokenId number = some t) : Traced cfg s t := by
  unfold acceptInboundChunk at h
  split at h
  · cases h
  · split at h <;> cases h
    exact .kept rfl rfl

theorem callHandler_traced (s : Server ω σ) (requestId : UInt32) (body : List UInt8)
    (slot : Server.Slot) : Traced cfg s (callHandler cfg s requestId body slot).2 := by
  have hlogged : ({ s with returnDiagnostics := readReturnDiagnosticsFromRequest body }.record
      (.handled requestId s.activeSession s.channelClientCert.val)).sent = s.sent := by
    simp [Server.sent,Server.record]
  unfold callHandler
  split
  · exact (handleOpenSecureChannel_traced cfg _ body slot).after rfl hlogged
  split
  · exact (handleCloseSecureChannel_traced cfg _ body slot).after rfl hlogged
  · exact (Traced.of_acts (runHandler_acts cfg slot _ _)).after rfl hlogged

theorem serviceDispatch_traced (s : Server ω σ) (requestId : UInt32) (body : List UInt8)
    (slot : Server.Slot) : Traced cfg s (serviceDispatch cfg s requestId body slot).2 := by
  have hbegin : Traced cfg s (s.beginDispatch requestId body) :=
    .kept rfl (by simp [Server.sent,Server.beginDispatch,Server.record])
  have hbind := hbegin.acts (bindSession_acts cfg _ body)
  unfold serviceDispatch
  dsimp only
  split
  · exact hbegin
  split
  · exact hbegin
  split
  · split <;> rename_i h <;> rw [h] at hbind
    · exact hbind
    · exact hbind.trans (callHandler_traced cfg _ requestId body slot)
  · exact hbegin.trans (callHandler_traced cfg _ requestId body slot)

theorem dispatchRequest_traced (s : Server ω σ) (typeId : NodeId) (body : List UInt8)
    (slot : Server.Slot) (opn : Option OpnHeader) :
    Traced cfg s (dispatchRequest cfg s typeId body slot opn).2 := by
  unfold dispatchRequest
  split
  · exact .refl s
  rename_i id _
  cases opn with
  | none => exact serviceDispatch_traced cfg s id body slot
  | some opn =>
    have h := (serviceDispatch_traced cfg (s.setOpnPending opn) id body slot).after (s := s) rfl rfl
    refine h.trans ?_
    dsimp only
    generalize serviceDispatch cfg (s.setOpnPending opn) id body slot = run
    obtain ⟨reply,t⟩ := run
    cases reply with
    | error status => exact .kept rfl rfl
    | ok length =>
      unfold Server.recordOpened
      dsimp only
      split
      · exact .kept rfl (by simp [Server.sent,Server.record,Server.clearOpnPending])
      · exact .kept rfl rfl

theorem servePlaintext_traced (s : Server ω σ) (typeId : NodeId) (body : List UInt8)
    (requestId : UInt32) (opn : Option OpnHeader) :
    Traced cfg s (servePlaintext cfg s typeId body requestId opn) := by
  unfold servePlaintext
  dsimp only
  split
  · exact .refl s
  have hdispatch := (dispatchRequest_traced cfg { s with currentRequestId := requestId } typeId
    body (.inPlace (plaintextOffset opn.isSome)) opn).after (s := s) rfl rfl
  exact (hdispatch.acts (answerInPlace_acts cfg ..)).trans (closeIfRejected_traced cfg ..)

theorem handleSecureRequest_traced (crypto : CryptoAdapter ω) (s : Server ω σ)
    (req : SecureRequest) : Traced cfg s (handleSecureRequest cfg crypto s req) := by
  have hserve (t : Server ω σ) (typeId : NodeId) (body : List UInt8) :
      Traced cfg t (serveSecure cfg crypto t typeId body req) := by
    have hdispatch := (dispatchRequest_traced cfg { t with currentRequestId := req.requestId } typeId
      body .scratch req.opn).after (s := t) rfl rfl
    unfold serveSecure
    dsimp only
    generalize dispatchRequest cfg { t with currentRequestId := req.requestId } typeId body .scratch
      req.opn = run at hdispatch ⊢
    obtain ⟨reply,u⟩ := run
    have hfault := hdispatch.acts (faultOrBody_acts cfg u .scratch reply)
    split <;> rename_i h <;> rw [h] at hfault
    · exact hfault
    · exact hfault
    · exact (hfault.acts (sendSecure_acts cfg crypto _ req _)).trans
        (closeIfRejected_traced cfg _ _ _)
  unfold handleSecureRequest
  split
  · exact .kept rfl rfl
  rename_i u haccept
  have hu := acceptInboundChunk_traced cfg haccept
  split
  · exact hu.trans (.kept rfl rfl)
  · exact hu.trans ((hserve _ _ _).after rfl rfl)

theorem handleDataChunkPlaintext_traced (s : Server ω σ) (msg : List UInt8) (isOpn : Bool) :
    Traced cfg s (handleDataChunkPlaintext cfg s msg isOpn) := by
  unfold handleDataChunkPlaintext
  split
  · exact .refl s
  split
  · exact .kept rfl rfl
  rename_i u haccept
  have hu := acceptInboundChunk_traced cfg haccept
  split
  · exact hu
  · exact hu.trans (servePlaintext_traced cfg ..)

theorem processMessageFinalChunk_traced (s : Server ω σ) (msg : List UInt8) :
    Traced cfg s (processMessageFinalChunk cfg s msg) := by
  unfold processMessageFinalChunk
  split
  · exact .kept rfl rfl
  split
  · exact .kept rfl rfl
  unfold processMessageMultiChunkFinal
  split
  · exact .kept rfl rfl
  split
  · exact .kept rfl rfl
  rename_i u haccept
  have hu := (acceptInboundChunk_traced cfg haccept).after (s := s) rfl rfl
  split
  · exact hu.trans (.kept rfl rfl)
  · exact (hu.trans (servePlaintext_traced cfg ..)).trans (.kept rfl rfl)

theorem processMessageOpnOrMsg_traced (s : Server ω σ) (msg : List UInt8) (isOpn : Bool) :
    Traced cfg s (processMessageOpnOrMsg cfg s msg isOpn) := by
  unfold processMessageOpnOrMsg handleDataChunkSecure
  split
  · split
    · split
      · exact .refl s
      · exact (handleSecureRequest_traced cfg _ _ _).after rfl rfl
    · split
      · exact handleDataChunkPlaintext_traced cfg s msg false
      · split
        · exact .refl s
        · exact handleSecureRequest_traced cfg _ s _
  · exact handleDataChunkPlaintext_traced cfg s msg isOpn

theorem processMessage_traced (s : Server ω σ) (msg : List UInt8) :
    Traced cfg s (processMessage cfg s msg) := by
  unfold processMessage
  split
  · unfold processMessageHello
    split
    · next tcpConn _ => exact Traced.after ⟨_,.tcp _ (.inl ⟨tcpConn,rfl⟩) (.refl _)⟩ rfl rfl
    · exact .kept rfl rfl
  split
  · unfold processMessageRefused
    split
    · exact (Traced.of_acts (sendTcpErrorChunk_acts cfg s _)).trans (.kept rfl rfl)
    · exact .kept rfl rfl
  split
  · unfold processMessageMultiChunkContinuation
    split
    · exact .of_acts (sendTcpErrorChunk_acts cfg s _)
    split
    · exact (Traced.of_acts (sendTcpErrorChunk_acts cfg _ _)).after rfl rfl
    · exact .kept rfl rfl
  · split
    · exact processMessageFinalChunk_traced cfg s msg
    · split
      · exact (Traced.closed cfg s).trans (.kept rfl rfl)
      · split
        · exact .refl s
        · exact processMessageOpnOrMsg_traced cfg s msg _

/-! ## Runs -/

inductive Turn (ω σ : Type) where
  | message (msg : List UInt8)
  /-- an asynchronous Publish response -/
  | emit (requestId : UInt32) (body : List UInt8)
  | disconnect
  /-- the server turns to other connections -/
  | elsewhere (shared : Shared ω σ) (peers : List Connection)

namespace Turn

def step (s : Server ω σ) : Turn ω σ → Server ω σ
  | .message msg => processMessage cfg s msg
  | .emit requestId body => (serverEmitMessage cfg s requestId body).2
  | .disconnect => abortConnection cfg s
  | .elsewhere shared peers => { shared with log := s.log, conn := s.conn, peers }

def run (s : Server ω σ) (turns : List (Turn ω σ)) : Server ω σ := turns.foldl (step cfg) s

theorem step_traced (s : Server ω σ) (turn : Turn ω σ) : Traced cfg s (turn.step cfg s) := by
  cases turn with
  | message msg => exact processMessage_traced cfg s msg
  | emit requestId body => exact .of_acts (serverEmitMessage_acts cfg s requestId body)
  | disconnect | elsewhere => exact .kept rfl rfl

theorem run_traced (s : Server ω σ) (turns : List (Turn ω σ)) : Traced cfg s (run cfg s turns) := by
  induction turns generalizing s with
  | nil => exact .refl s
  | cons turn turns ih => exact (step_traced cfg s turn).trans (ih _)

end Turn

/-! ## A failed wrap -/

namespace Sample

def shortMac : CryptoAdapter Unit :=
  { echoCrypto with
    hmacSha256 := fun _ data =>
      if 64 < data.length then .error Status.badInternalError else .ok (Vector.replicate 32 0) }

abbrev shortMacConfig : ServerConfig Unit Unit := bareConfig (some shortMac)

def signedServer : Server Unit Unit :=
  { bareShared with conn := bareConnection .basic256Sha256 .sign, peers := [] }

structure Signs (s : Server Unit Unit) : Prop where
  policy : s.channel.policy = .basic256Sha256
  mode : s.channel.mode = .sign
  keysValid : s.channel.keysValid = true

theorem emit_outbound {s : Server Unit Unit} (h : Signs s) (body : List UInt8)
    (hbody : body.length ≤ 64) :
    let t := Turn.step shortMacConfig s (.emit 1 body)
    Signs t ∧ t.channel.outSequenceNumber = s.channel.outSequenceNumber + 1 ∧
      ∃ bytes, bytes.isSome = decide (body.length ≤ 40) ∧
        Outbound shortMacConfig s [.chunk (s.channel.outSequenceNumber + 1) bytes] t := by
  have hmode : s.channel.mode ≠ .none := by simp [h.mode]
  have hemit := serverEmitMessage_wrapped shortMacConfig rfl hmode h.keysValid 1 body
  generalize hcall : FrameCall.wrapped shortMac ⟨0,0,0,1,[],none⟩ body = call at hemit
  have hchannel : (call.send shortMacConfig s).channel = s.nextOut.channel := call.send_sent.2
  have hchunk : (call.chunk s.nextOut).isSome = decide (body.length ≤ 40) := by
    have hroom : 8192 ≤ s.nextOut.sendBuffer.val.length := s.sendBuffer.property
    have hmac (key data : List UInt8) (hdata : data.length = 24 + body.length) :
        shortMac.hmacSha256 key data = if body.length ≤ 40 then .ok (Vector.replicate 32 0)
          else .error Status.badInternalError := by
      simp only [shortMac]
      split <;> split <;> first | rfl | omega
    rw [← hcall]
    simp only [FrameCall.chunk,FrameCall.frame,wrapResponse,wrapWithServerKeys,
      show s.nextOut.channel.policy = .basic256Sha256 from h.policy,
      show s.nextOut.channel.mode = .sign from h.mode,symChunkWrap]
    rw [if_neg (by decide),if_neg (by simp [symHeaderSize,symSigLen]; omega),
      hmac _ _ (by simp [symChunkHeader,ascii]; omega)]
    by_cases hshort : body.length ≤ 40 <;>
      simp [hshort,bind,Except.bind,Except.map,pure,Except.pure]
  dsimp only [Turn.step]
  rw [hemit]
  exact ⟨⟨hchannel ▸ h.policy,hchannel ▸ h.mode,hchannel ▸ h.keysValid⟩,hchannel ▸ rfl,_,hchunk,
    .chunk _ (.refl _)⟩

theorem emit_short_short {s : Server Unit Unit} (h : Signs s)
    (hout : s.channel.outSequenceNumber = 5) :
    ∃ chunk₁ chunk₂, Outbound shortMacConfig s [.chunk 6 (some chunk₁), .chunk 7 (some chunk₂)]
      (Turn.run shortMacConfig s [.emit 1 [0], .emit 1 [0]]) := by
  obtain ⟨h₁,hout₁,bytes₁,hbytes₁,hfirst⟩ := emit_outbound h [0] (by decide)
  obtain ⟨-,-,bytes₂,hbytes₂,hsecond⟩ := emit_outbound h₁ [0] (by decide)
  obtain ⟨chunk₁,rfl⟩ := Option.isSome_iff_exists.mp hbytes₁
  obtain ⟨chunk₂,rfl⟩ := Option.isSome_iff_exists.mp hbytes₂
  rw [hout₁] at hsecond
  have hrun := hfirst.trans hsecond
  rw [hout] at hrun
  exact ⟨chunk₁,chunk₂,hrun⟩

theorem emit_short_long_short {s : Server Unit Unit} (h : Signs s)
    (hout : s.channel.outSequenceNumber = 5) :
    ∃ chunk₁ chunk₃,
      Outbound shortMacConfig s [.chunk 6 (some chunk₁), .chunk 7 none, .chunk 8 (some chunk₃)]
        (Turn.run shortMacConfig s [.emit 1 [0], .emit 1 (List.replicate 64 0), .emit 1 [0]]) := by
  obtain ⟨h₁,hout₁,bytes₁,hbytes₁,hfirst⟩ := emit_outbound h [0] (by decide)
  obtain ⟨h₂,hout₂,bytes₂,hbytes₂,hsecond⟩ :=
    emit_outbound h₁ (List.replicate 64 0) (by decide)
  obtain ⟨-,-,bytes₃,hbytes₃,hthird⟩ := emit_outbound h₂ [0] (by decide)
  obtain ⟨chunk₁,rfl⟩ := Option.isSome_iff_exists.mp hbytes₁
  obtain rfl : bytes₂ = none := by simpa using hbytes₂
  obtain ⟨chunk₃,rfl⟩ := Option.isSome_iff_exists.mp hbytes₃
  rw [hout₂,hout₁] at hthird
  rw [hout₁] at hsecond
  have hrun := hfirst.trans (hsecond.trans hthird)
  rw [hout] at hrun
  exact ⟨chunk₁,chunk₃,hrun⟩

theorem signedServer_signs : Signs signedServer := ⟨rfl,rfl,rfl⟩

end Sample

end MucOpcua
