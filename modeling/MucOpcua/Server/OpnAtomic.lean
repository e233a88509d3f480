import MucOpcua.Server.Connections
import MucOpcua.Server.PlainChunk

/-!
# A rejected OPN chunk

The policy of an OPN chunk is stored in the channel before the chunk is accepted and decoded.
-/

namespace MucOpcua

variable {ω σ : Type} (cfg : ServerConfig ω σ)

structure SameSecurity (c c' : SecureChannel) : Prop where
  policy : c'.policy = c.policy
  mode : c'.mode = c.mode
  channelId : c'.channelId = c.channelId
  tokenId : c'.tokenId = c.tokenId
  clientKeys : c'.clientKeys = c.clientKeys
  serverKeys : c'.serverKeys = c.serverKeys

def Server.Closed (s : Server ω σ) : Prop :=
  s.conn.clientHandle = none ∨ s.channel.isOpen = false

def opnReply (s : Server ω σ) (policy : SecurityPolicy) (m : Inbound) (typeId : NodeId)
    (body : List UInt8) : Except BadStatus Nat :=
  let channel := { s.channel with policy }
  let start (inLast : UInt32) : Server ω σ :=
    { s.setChannel (channel.accepted m inLast) with currentRequestId := m.requestId }
  match cfg.cryptoAdapter with
  | some _ => (dispatchRequest cfg (start m.sequenceNumber) typeId body .scratch m.opn).1
  | none => (dispatchRequest cfg (start channel.inLastSequenceNumber) typeId body
      (.inPlace (plaintextOffset true)) m.opn).1

/-- An OPN chunk is accepted: it is unwrapped, its number is in order, its request is decoded and
the service's result is Good. -/
def OpnAccepted (s : Server ω σ) (msg : List UInt8) : Prop :=
  ∃ policy m typeId body length, chunkInbound cfg s.channel msg true = some (policy, m) ∧
    Accepts s.channel m ∧ m.request = some (typeId, body) ∧
    opnReply cfg s policy m typeId body = .ok length

/-- The chunk is unwrapped under another policy than the channel's and its number is in order, but
its request cannot be decoded. -/
def LeavesPolicy (s : Server ω σ) (msg : List UInt8) : Prop :=
  ∃ crypto policy req, cfg.cryptoAdapter = some crypto ∧
    secureUnwrapOpn crypto msg = some (policy, req) ∧ Accepts s.channel req.inbound ∧
    req.inbound.request = none ∧ policy ≠ s.channel.policy

/-! ## One OPN chunk -/

theorem processMessage_opn {s : Server ω σ} {msg : List UInt8} {header : MessageHeader}
    (hstate : s.conn.tcpConn.state ≠ .closed) (hparse : parseMessageHeader msg = .ok header)
    (hopn : header.messageType = .opn) :
    processMessage cfg s msg = processMessageOpnOrMsg cfg s msg true := by
  simp [processMessage,hstate,hparse,hopn]

variable {cfg} {s : Server ω σ} {msg : List UInt8}

theorem plaintextOpn_atomic (hcrypto : cfg.cryptoAdapter = none) (h : ¬ OpnAccepted cfg s msg) :
    (handleDataChunkPlaintext cfg s msg true).Closed ∨
      SameSecurity s.channel (handleDataChunkPlaintext cfg s msg true).channel := by
  cases hread : readPlaintextPrologue true ((BinaryReader.init msg).seek 8) with
  | error status reader =>
    simp only [handleDataChunkPlaintext,hread]
    exact .inr ⟨rfl,rfl,rfl,rfl,rfl,rfl⟩
  | ok prologue reader =>
    have hinbound : chunkInbound cfg s.channel msg true =
        some (s.channel.policy, prologue.inbound (typeAndBody msg reader)) := by
      simp only [chunkInbound,hcrypto,plaintextInbound,hread,Option.map_some]
    by_cases haccept : Accepts s.channel (prologue.inbound (typeAndBody msg reader))
    · cases hreq : typeAndBody msg reader with
      | none =>
        rw [handleDataChunkPlaintext_undecodable cfg hread haccept hreq]
        exact .inr ⟨rfl,rfl,rfl,rfl,rfl,rfl⟩
      | some r =>
        rw [handleDataChunkPlaintext_request cfg hread haccept hreq]
        cases hreply : opnReply cfg s s.channel.policy
            (prologue.inbound (typeAndBody msg reader)) r.1 r.2 with
        | ok length => exact (h ⟨_,_,r.1,r.2,length,hinbound,haccept,hreq,hreply⟩).elim
        | error status =>
          simp only [opnReply,hcrypto] at hreply
          exact .inl (.inr (servePlaintext_rejected cfg _ (readPlaintextPrologue_opn hread) hreply))
    · rw [handleDataChunkPlaintext_refused cfg hread haccept]
      exact .inl (.inl rfl)

theorem secureOpn_rejected {crypto : CryptoAdapter ω} {policy : SecurityPolicy}
    {req : SecureRequest} (hcrypto : cfg.cryptoAdapter = some crypto)
    (hunwrap : secureUnwrapOpn crypto msg = some (policy, req)) (h : ¬ OpnAccepted cfg s msg) :
    let s' := handleSecureRequest cfg crypto (s.setChannel { s.channel with policy }) req
    s'.Closed ∨ (Accepts s.channel req.inbound ∧ req.inbound.request = none ∧
      s' = s.setChannel ({ s.channel with policy }.accepted req.inbound req.sequenceNumber)) := by
  have hinbound : chunkInbound cfg s.channel msg true = some (policy, req.inbound) := by
    simp [chunkInbound,hcrypto,hunwrap]
  by_cases haccept : Accepts s.channel req.inbound
  · have haccept' : Accepts (s.setChannel { s.channel with policy }).channel req.inbound :=
      ⟨haccept.binding,haccept.sequence⟩
    cases hreq : req.inbound.request with
    | none =>
      exact .inr ⟨haccept,rfl,handleSecureRequest_undecodable cfg haccept' hreq⟩
    | some r =>
      rw [handleSecureRequest_request cfg haccept' hreq]
      cases hreply : opnReply cfg s policy req.inbound r.1 r.2 with
      | ok length => exact (h ⟨_,_,r.1,r.2,length,hinbound,haccept,hreq,hreply⟩).elim
      | error status =>
        simp only [opnReply,hcrypto] at hreply
        exact .inl (.inr (serveSecure_rejected cfg crypto _ (secureUnwrapOpn_opn hunwrap) hreply))
  · have hrefused : ¬ Accepts (s.setChannel { s.channel with policy }).channel req.inbound :=
      fun h' => haccept ⟨h'.binding,h'.sequence⟩
    rw [handleSecureRequest_refused cfg hrefused]
    exact .inl (.inl rfl)

/-- A rejected OPN chunk closes the connection or its channel, or leaves the channel's security as
it was, unless it is of the one kind that leaves its policy behind. -/
theorem rejectedOpn_atomic_iff {header : MessageHeader} (hup : s.conn.clientHandle.isSome = true)
    (hstate : s.conn.tcpConn.state ≠ .closed) (hparse : parseMessageHeader msg = .ok header)
    (hopn : header.messageType = .opn) (hopen : s.channel.isOpen = true) :
    (¬ OpnAccepted cfg s msg → (processMessage cfg s msg).Closed ∨
      SameSecurity s.channel (processMessage cfg s msg).channel) ↔ ¬ LeavesPolicy cfg s msg := by
  rw [processMessage_opn cfg hstate hparse hopn,processMessageOpnOrMsg]
  constructor
  · rintro h ⟨crypto,policy,req,hcrypto,hunwrap,haccept,hreq,hne⟩
    have hrejected : ¬ OpnAccepted cfg s msg := by
      rintro ⟨_,_,typeId,body,length,hinbound,-,hrequest,-⟩
      simp only [chunkInbound,hcrypto,hunwrap] at hinbound
      cases hinbound
      rw [hreq] at hrequest
      cases hrequest
    have haccept' : Accepts (s.setChannel { s.channel with policy }).channel req.inbound :=
      ⟨haccept.binding,haccept.sequence⟩
    have hlater := h hrejected
    simp only [hcrypto,handleDataChunkSecure,hunwrap,
      handleSecureRequest_undecodable cfg haccept' hreq] at hlater
    rcases hlater with (hdown | hclosed) | hsame
    · have hdown' : s.conn.clientHandle = none := hdown
      rw [hdown'] at hup
      cases hup
    · have hclosed' : s.channel.isOpen = false := hclosed
      rw [hclosed'] at hopen
      cases hopen
    · exact hne hsame.policy
  · intro hleaves hrejected
    cases hcrypto : cfg.cryptoAdapter with
    | none => exact plaintextOpn_atomic hcrypto hrejected
    | some crypto =>
      simp only [handleDataChunkSecure]
      cases hunwrap : secureUnwrapOpn crypto msg with
      | none => exact .inr ⟨rfl,rfl,rfl,rfl,rfl,rfl⟩
      | some r =>
        obtain ⟨policy,req⟩ := r
        rcases secureOpn_rejected hcrypto hunwrap hrejected with hclosed | ⟨haccept,hreq,heq⟩
        · exact .inl hclosed
        have hpolicy : policy = s.channel.policy := by
          by_contra hne
          exact hleaves ⟨crypto,policy,req,hcrypto,hunwrap,haccept,hreq,hne⟩
        simp only [heq]
        exact .inr ⟨hpolicy,rfl,rfl,rfl,rfl,rfl⟩

/-! ## A downgraded channel -/

def securedServer : Server Unit Unit where
  toShared := bareShared
  conn := bareConnection .basic256Sha256 .signAndEncrypt
  peers := []

def typelessOpn : List UInt8 := opnChunk securityPolicyNoneUri [] 1 6 9 [0xff]

/-- Of a policy that no server knows. -/
def unknownOpn : List UInt8 := opnChunk [0x78] [] 1 6 9 [0xff]

theorem rejectedOpn_atomic_iff_unknown :
    let cfg := bareConfig (some refusingCrypto)
    ¬ OpnAccepted cfg securedServer unknownOpn ∧ ¬ LeavesPolicy cfg securedServer unknownOpn ∧
      ((processMessage cfg securedServer unknownOpn).Closed ∨
        SameSecurity securedServer.channel
          (processMessage cfg securedServer unknownOpn).channel) := by
  intro cfg
  have hparse : parseMessageHeader unknownOpn = .ok ⟨.opn,.final,34,1⟩ := by decide +kernel
  have hunwrap : (secureUnwrapOpn refusingCrypto unknownOpn).isSome = false := by decide +kernel
  have hinbound : (chunkInbound cfg securedServer.channel unknownOpn true).isSome = false := by
    decide +kernel
  have hrejected : ¬ OpnAccepted cfg securedServer unknownOpn := by
    rintro ⟨policy,m,typeId,body,length,hsome,-⟩
    rw [hsome] at hinbound
    cases hinbound
  have hkeeps : ¬ LeavesPolicy cfg securedServer unknownOpn := by
    rintro ⟨crypto,policy,req,⟨⟩,hsome,-⟩
    rw [hsome] at hunwrap
    cases hunwrap
  exact ⟨hrejected,hkeeps,(rejectedOpn_atomic_iff rfl (by decide) hparse rfl rfl).mpr hkeeps
    hrejected⟩

/-- The chunk is not accepted, yet it leaves the channel open under policy None. -/
theorem typelessOpn_leaves_policy :
    let cfg := bareConfig (some refusingCrypto)
    let s' := processMessage cfg securedServer typelessOpn
    ¬ OpnAccepted cfg securedServer typelessOpn ∧ ¬ s'.Closed ∧
      securedServer.channel.policy = .basic256Sha256 ∧ s'.channel.policy = .none ∧
      s'.channel.mode = .signAndEncrypt ∧ ¬ SameSecurity securedServer.channel s'.channel := by
  intro cfg s'
  have hrequest : (chunkInbound cfg securedServer.channel typelessOpn true).map (·.2.request) =
      some none := by decide +kernel
  have hopen : s'.conn.clientHandle = some 1 ∧ s'.channel.isOpen = true := by decide +kernel
  have hpolicy : s'.channel.policy = .none := by decide +kernel
  have hmode : s'.channel.mode = .signAndEncrypt := by decide +kernel
  refine ⟨?_,?_,rfl,hpolicy,hmode,fun hsame => ?_⟩
  · rintro ⟨policy,m,typeId,body,length,hinbound,-,hreq,-⟩
    rw [hinbound,Option.map_some,hreq] at hrequest
    cases hrequest
  · rintro (hdown | hclosed)
    · rw [hopen.1] at hdown
      cases hdown
    · rw [hopen.2] at hclosed
      cases hclosed
  · have hkept := hsame.policy
    cases hkept

end MucOpcua
