import MucOpcua.Server.ProcessMessage

/-!
# What sending and handling leave alone

`Frame` relates two states of which the second has the same assembler, certificate, peers and TCP
state; the connection may only have lost its handle. `Quiet` adds that the channel is the same up to
the outbound SequenceNumber and that nothing but sends were logged. What a function does to send or
to answer is a sequence of acts, and each act is quiet; only the secure channel services do more.
-/

namespace MucOpcua

variable {ω σ : Type}

def Event.isSent : Event → Bool
  | .sent _ => true
  | _ => false

def Server.trace (s : Server ω σ) : List Event := s.log.filter fun event => event.isSent = false

structure Frame (s s' : Server ω σ) : Prop where
  tcpConn : s'.conn.tcpConn = s.conn.tcpConn
  clientHandle : s'.conn.clientHandle = s.conn.clientHandle ∨ s'.conn.clientHandle = none
  chunkAssembly : s'.chunkAssembly = s.chunkAssembly
  channelClientCert : s'.channelClientCert = s.channelClientCert
  pendingPolicy : s'.opnPendingSecurityPolicy = s.opnPendingSecurityPolicy
  pendingCert : s'.opnPendingClientCert = s.opnPendingClientCert
  peers : s'.peers = s.peers

structure Quiet (s s' : Server ω σ) : Prop extends Frame s s' where
  channel : s'.channel = { s.channel with outSequenceNumber := s'.channel.outSequenceNumber }
  trace : s'.trace = s.trace

namespace Frame

theorem refl (s : Server ω σ) : Frame s s := ⟨rfl,.inl rfl,rfl,rfl,rfl,rfl,rfl⟩

theorem trans {s t u : Server ω σ} (h : Frame s t) (h' : Frame t u) : Frame s u where
  tcpConn := h'.tcpConn.trans h.tcpConn
  clientHandle := by
    rcases h'.clientHandle with hkept | hnone
    · rw [hkept]
      exact h.clientHandle
    · exact .inr hnone
  chunkAssembly := h'.chunkAssembly.trans h.chunkAssembly
  channelClientCert := h'.channelClientCert.trans h.channelClientCert
  pendingPolicy := h'.pendingPolicy.trans h.pendingPolicy
  pendingCert := h'.pendingCert.trans h.pendingCert
  peers := h'.peers.trans h.peers

end Frame

namespace Quiet

theorem refl (s : Server ω σ) : Quiet s s := ⟨Frame.refl s,rfl,rfl⟩

theorem update (s : Server ω σ) (world : ω) (sendBuffer : Buffer.Sized UInt8 (minChunkSize ≤ ·))
    (scratch : Buffer.Sized UInt8 (· = secureRespMax)) (sessions : List Session)
    (activeSession : Option Nat) (returnDiagnostics currentRequestId : UInt32)
    (diag : DiagnosticsSummary) (app : σ) :
    Quiet s { s with world, sendBuffer, scratch, sessions, activeSession, returnDiagnostics,
                     currentRequestId, diag, app } :=
  ⟨⟨rfl,.inl rfl,rfl,rfl,rfl,rfl,rfl⟩,rfl,rfl⟩

theorem trans {s t u : Server ω σ} (h : Quiet s t) (h' : Quiet t u) : Quiet s u where
  toFrame := h.toFrame.trans h'.toFrame
  channel := by rw [h'.channel,h.channel]
  trace := h'.trace.trans h.trace

theorem isOpen {s s' : Server ω σ} (h : Quiet s s') : s'.channel.isOpen = s.channel.isOpen := by
  rw [h.channel]

theorem policy {s s' : Server ω σ} (h : Quiet s s') : s'.channel.policy = s.channel.policy := by
  rw [h.channel]

theorem mode {s s' : Server ω σ} (h : Quiet s s') : s'.channel.mode = s.channel.mode := by
  rw [h.channel]

end Quiet

/-! ## Framing -/

inductive FrameCall (ω : Type) where
  | symmetric (requestId : UInt32) (bodyLength : Nat)
  | asymmetricNone (requestId : UInt32) (bodyLength : Nat)
  | wrapped (crypto : CryptoAdapter ω) (req : SecureRequest) (body : List UInt8)

namespace FrameCall

def frame (s : Server ω σ) : FrameCall ω →
    Except BadStatus (Buffer.Sized UInt8 (minChunkSize ≤ ·) × Nat)
  | .symmetric requestId bodyLength =>
    uascFinalizeSymmetric s.sendBuffer s.channel.channelId s.channel.tokenId
      s.channel.outSequenceNumber requestId bodyLength
  | .asymmetricNone requestId bodyLength =>
    uascFinalizeAsymmetricNone s.sendBuffer s.channel.channelId s.channel.outSequenceNumber
      requestId bodyLength
  | .wrapped crypto req body =>
    (wrapResponse crypto s req body).map fun chunk => (s.sendBuffer.patch 0 chunk, chunk.length)

def send (cfg : ServerConfig ω σ) (s : Server ω σ) (call : FrameCall ω) : Server ω σ :=
  match call.frame s.nextOut with
  | .error _ => s.nextOut
  | .ok (sendBuffer, total) => sendBufferChunk cfg { s.nextOut with sendBuffer } total

end FrameCall

/-! ## Sending -/

variable (cfg : ServerConfig ω σ)

theorem abortConnection_quiet (s : Server ω σ) : Quiet s (abortConnection cfg s) :=
  ⟨⟨rfl,.inr rfl,rfl,rfl,rfl,rfl,rfl⟩,rfl,rfl⟩

theorem nextOut_quiet (s : Server ω σ) : Quiet s s.nextOut :=
  ⟨⟨rfl,.inl rfl,rfl,rfl,rfl,rfl,rfl⟩,rfl,rfl⟩

theorem sendBufferChunk_quiet (s : Server ω σ) (total : Nat) :
    Quiet s (sendBufferChunk cfg s total) := by
  have hsent : Quiet s { s.record (.sent (s.sendBuffer.val.take total)) with
      world := (cfg.tcpAdapter.write s.world s.conn.clientHandle
        (s.sendBuffer.val.take total)).2.2 } := by
    refine ⟨⟨rfl,.inl rfl,rfl,rfl,rfl,rfl,rfl⟩,rfl,?_⟩
    simp [Server.trace,Server.record,Event.isSent]
  unfold sendBufferChunk
  dsimp only
  split
  · exact hsent.trans (abortConnection_quiet cfg _)
  · exact hsent

theorem sendChunk_quiet (s : Server ω σ) (chunk : List UInt8) : Quiet s (sendChunk cfg s chunk) :=
  (Quiet.update s ..).trans (sendBufferChunk_quiet cfg _ _)

theorem FrameCall.send_quiet (s : Server ω σ) (call : FrameCall ω) : Quiet s (call.send cfg s) := by
  unfold FrameCall.send
  split
  · exact nextOut_quiet s
  · exact (nextOut_quiet s).trans ((Quiet.update s.nextOut ..).trans (sendBufferChunk_quiet cfg _ _))

/-! ## Acts -/

inductive Act (s : Server ω σ) : Server ω σ → Prop where
  | update (world : ω) (sendBuffer : Buffer.Sized UInt8 (minChunkSize ≤ ·))
      (scratch : Buffer.Sized UInt8 (· = secureRespMax)) (sessions : List Session)
      (activeSession : Option Nat) (returnDiagnostics currentRequestId : UInt32)
      (diag : DiagnosticsSummary) (app : σ) :
      Act s { s with world, sendBuffer, scratch, sessions, activeSession, returnDiagnostics,
                     currentRequestId, diag, app }
  | abort : Act s (abortConnection cfg s)
  | chunk (call : FrameCall ω) : Act s (call.send cfg s)
  /-- an ACK or ERR message -/
  | tcp (message : List UInt8) (h : (∃ tcpConn, message = ackMessage tcpConn) ∨
      ∃ code, message = tcpErrorMessage code []) : Act s (sendChunk cfg s message)

abbrev Acts : Server ω σ → Server ω σ → Prop := Relation.ReflTransGen (Act cfg)

theorem Acts.chunk (s : Server ω σ) (call : FrameCall ω) : Acts cfg s (call.send cfg s) :=
  .single (.chunk call)

variable {cfg} {s t : Server ω σ}

theorem Acts.update (s : Server ω σ) (world : ω)
    (sendBuffer : Buffer.Sized UInt8 (minChunkSize ≤ ·))
    (scratch : Buffer.Sized UInt8 (· = secureRespMax)) (sessions : List Session)
    (activeSession : Option Nat) (returnDiagnostics currentRequestId : UInt32)
    (diag : DiagnosticsSummary) (app : σ) :
    Acts cfg s { s with world, sendBuffer, scratch, sessions, activeSession, returnDiagnostics,
                        currentRequestId, diag, app } := .single (.update ..)

theorem Act.quiet (h : Act cfg s t) : Quiet s t := by
  cases h with
  | update => exact Quiet.update s ..
  | abort => exact abortConnection_quiet cfg s
  | chunk call => exact call.send_quiet cfg s
  | tcp message => exact sendChunk_quiet cfg s message

theorem Acts.quiet (h : Acts cfg s t) : Quiet s t := by
  induction h with
  | refl => exact Quiet.refl s
  | tail _ hlast ih => exact ih.trans hlast.quiet

variable (cfg)

theorem sendTcpErrorChunk_acts (s : Server ω σ) (code : StatusCode) :
    Acts cfg s (sendTcpErrorChunk cfg s code) := .single (.tcp _ (.inr ⟨code,rfl⟩))

theorem sendPlaintext_acts (s : Server ω σ) (requestId : UInt32) (length : Nat) :
    Acts cfg s (sendPlaintext cfg s requestId length).2 := by
  have hsend := Acts.chunk cfg s (.symmetric requestId length)
  simp only [FrameCall.send,FrameCall.frame] at hsend
  unfold sendPlaintext
  dsimp only
  split <;> next h => rwa [h] at hsend

theorem serverEmitMessage_wrapped {crypto : CryptoAdapter ω}
    (hcrypto : cfg.cryptoAdapter = some crypto)
    {s : Server ω σ} (hmode : s.channel.mode ≠ .none) (hkeys : s.channel.keysValid = true)
    (requestId : UInt32) (body : List UInt8) : (serverEmitMessage cfg s requestId body).2 =
      FrameCall.send cfg s (.wrapped crypto ⟨0, 0, 0, requestId, [], none⟩ body) := by
  simp only [serverEmitMessage,if_pos hmode,hcrypto,hkeys,FrameCall.send,FrameCall.frame,
    wrapResponse]
  cases wrapWithServerKeys crypto s.nextOut.channel requestId body
    s.nextOut.sendBuffer.val.length <;> rfl

theorem serverEmitMessage_acts (s : Server ω σ) (requestId : UInt32) (body : List UInt8) :
    Acts cfg s (serverEmitMessage cfg s requestId body).2 := by
  by_cases hmode : s.channel.mode = .none
  · unfold serverEmitMessage
    rw [if_neg (not_not.mpr hmode)]
    split
    · exact .refl
    · exact (Acts.update s ..).trans (sendPlaintext_acts cfg _ _ _)
  · cases hcrypto : cfg.cryptoAdapter with
    | none => simp only [serverEmitMessage,if_pos hmode,hcrypto,Relation.ReflTransGen.refl]
    | some crypto =>
      cases hkeys : s.channel.keysValid with
      | false => simp only [serverEmitMessage,if_pos hmode,hcrypto,hkeys,Relation.ReflTransGen.refl]
      | true =>
        rw [serverEmitMessage_wrapped cfg hcrypto hmode hkeys]
        exact Acts.chunk cfg s _

/-! ## Answering -/

theorem patchRegion_acts (s : Server ω σ) (slot : Server.Slot) (pos : Nat) (bytes : List UInt8) :
    Acts cfg s (s.patchRegion slot pos bytes) := by
  cases slot with
  | inPlace offset | scratch => exact Acts.update s ..

theorem respond_acts (s : Server ω σ) (slot : Server.Slot) (encode : RespondM ω Unit) :
    Acts cfg s (s.respond slot encode).2 := by
  unfold Server.respond
  split
  · exact (patchRegion_acts cfg s slot 0 _).trans (Acts.update _ ..)
  · exact (patchRegion_acts cfg s slot 0 _).trans (Acts.update _ ..)

theorem faultOrBody_acts (s : Server ω σ) (slot : Server.Slot) (reply : Except BadStatus Nat) :
    Acts cfg s (faultOrBody cfg s slot reply).2 := by
  cases reply with
  | ok length => exact .refl
  | error status => exact respond_acts cfg s slot _

theorem answerInPlace_acts (s : Server ω σ) (isOpn : Bool) (requestId : UInt32)
    (reply : Except BadStatus Nat) : Acts cfg s (answerInPlace cfg s isOpn requestId reply) := by
  have hfault := faultOrBody_acts cfg s (.inPlace (plaintextOffset isOpn)) reply
  unfold answerInPlace
  split
  · next h => rwa [h] at hfault
  · next h => rwa [h] at hfault
  · next h =>
      rw [h] at hfault
      split
      · exact hfault.trans (Acts.chunk cfg _ (.asymmetricNone _ _))
      · exact hfault.trans (sendPlaintext_acts cfg _ _ _)

theorem sendSecure_acts (crypto : CryptoAdapter ω) (s : Server ω σ) (req : SecureRequest)
    (length : Nat) : Acts cfg s (sendSecure cfg crypto s req length) := by
  have hsend := Acts.chunk cfg s (.wrapped crypto req (s.nextOut.scratch.val.take length))
  simp only [FrameCall.send,FrameCall.frame] at hsend
  unfold sendSecure
  dsimp only
  split <;> next h => rwa [h] at hsend

theorem runHandler_acts (slot : Server.Slot) (run : HandlerRun ω σ) (s : Server ω σ) :
    Acts cfg s (runHandler cfg slot run s).2 := by
  induction run generalizing s with
  | done result length final => exact Acts.update s ..
  | write offset bytes next ih => exact (patchRegion_acts cfg s slot offset bytes).trans (ih _)
  | emit world requestId body next ih =>
    exact (Acts.update s ..).trans ((serverEmitMessage_acts cfg _ requestId body).trans (ih _ _ _))

theorem bindSession_acts (s : Server ω σ) (body : List UInt8) :
    Acts cfg s (bindSession cfg s body).2 := by
  have hreject (security : Bool) : Acts cfg s (s.rejectRequest security) := Acts.update s ..
  unfold bindSession
  dsimp only
  split
  · exact hreject _
  · split
    · exact hreject _
    · split
      · exact hreject _
      · split
        · exact hreject _
        · exact Acts.update s ..

end MucOpcua
