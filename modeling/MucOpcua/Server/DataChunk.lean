import MucOpcua.Server.Dispatch

/-!
# OPN and MSG chunks

The two handlers of `data_chunk.c`. Without security the response body is built in place in the send
buffer; on the secured path it is built in the scratch buffer and then wrapped.
-/

namespace MucOpcua

variable {ω σ : Type} (cfg : ServerConfig ω σ)

/-! ## Requests -/

/-- What the header of an OPN chunk brings along: the policy's URI and the sender's certificate. -/
structure OpnHeader where
  securityPolicy : MuString
  clientCert : MuString
  deriving DecidableEq

/-- The part of a certificate that is kept: nothing if it is missing or too long. -/
def keptClientCert (cert : MuString) : { cert : List UInt8 // cert.length ≤ maxClientCertSize } :=
  if h : cert.bytes.length ≤ maxClientCertSize then ⟨cert.bytes, h⟩ else ⟨[], Nat.zero_le _⟩

/-- `mu_service_dispatch_set_opn_security_policy` and `mu_service_dispatch_set_opn_client_cert`. -/
def Server.setOpnPending (s : Server ω σ) (opn : OpnHeader) : Server ω σ :=
  { s with
    opnPendingSecurityPolicy := opn.securityPolicy
    opnPendingClientCert := opn.clientCert
    channelClientCert := keptClientCert opn.clientCert }

def Server.clearOpnPending (s : Server ω σ) : Server ω σ :=
  { s with opnPendingSecurityPolicy := MuString.null, opnPendingClientCert := MuString.null }

def Server.recordOpened (s : Server ω σ) (typeId : UInt32) (opn : OpnHeader)
    (reply : Except BadStatus Nat) : Server ω σ :=
  match reply with
  | .ok _ =>
    if typeId = idOpenSecureChannelRequest then s.record (.opened opn.clientCert.bytes) else s
  | .error _ => s

/-- The dispatch of a decoded request; `opn` is there for an OPN chunk. -/
def dispatchRequest (s : Server ω σ) (typeId : NodeId) (body : List UInt8) (slot : Server.Slot)
    (opn : Option OpnHeader) : Except BadStatus Nat × Server ω σ :=
  match ns0Numeric? typeId with
  | none => (.error Status.badDecodingError, s)
  | some id =>
    match opn with
    | none => serviceDispatch cfg s id body slot
    | some opn =>
      let (reply, s) := serviceDispatch cfg (s.setOpnPending opn) id body slot
      (reply, s.clearOpnPending.recordOpened id opn reply)

def faultOrBody (s : Server ω σ) (slot : Server.Slot) (reply : Except BadStatus Nat) :
    Except BadStatus Nat × Server ω σ :=
  match reply with
  | .ok length => (.ok length, s)
  | .error status =>
    s.respond slot (writeServiceFault cfg.timeAdapter s.returnDiagnostics 0 status.val)

/-- `opn_rejected && is_open`: a refused OPN closes the channel. -/
def closeIfRejected (s : Server ω σ) (isOpn : Bool) (reply : Except BadStatus Nat) : Server ω σ :=
  match isOpn, reply with
  | true, .error _ => if s.channel.isOpen then s.setChannel s.channel.closed else s
  | _, _ => s

/-! ## Without security -/

structure PlaintextPrologue where
  channelId : UInt32
  tokenId : UInt32
  sequenceNumber : UInt32
  requestId : UInt32
  opn : Option OpnHeader

/-- The security header: policy, certificate and thumbprint of an OPN chunk, the token of a MSG
chunk. -/
def readSecurityHeader (isOpn : Bool) : ReadM (UInt32 × Option OpnHeader) :=
  if isOpn then do
    let securityPolicy ← binaryReadString
    let clientCert ← binaryReadBytestring
    let _receiverThumbprint ← binaryReadBytestring
    return (0, some { securityPolicy, clientCert })
  else do
    let tokenId ← binaryReadUint32
    return (tokenId, none)

def readPlaintextPrologue (isOpn : Bool) : ReadM PlaintextPrologue := do
  let channelId ← binaryReadUint32
  let (tokenId, opn) ← readSecurityHeader isOpn
  let sequenceNumber ← binaryReadUint32
  let requestId ← binaryReadUint32
  return { channelId, tokenId, sequenceNumber, requestId, opn }

def sendPlaintextOpn (s : Server ω σ) (requestId : UInt32) (bodyLength : Nat) : Server ω σ :=
  let s := s.nextOut
  match uascFinalizeAsymmetricNone s.sendBuffer s.channel.channelId s.channel.outSequenceNumber
      requestId bodyLength with
  | .error _ => s
  | .ok (sendBuffer, total) => sendBufferChunk cfg { s with sendBuffer } total

def plaintextOffset (isOpn : Bool) : Nat :=
  if isOpn then uascAsymmetricNoneHeaderSize else uascSymmetricHeaderSize

/-- Send the response that lies in the send buffer, or a ServiceFault in its place. -/
def answerInPlace (s : Server ω σ) (isOpn : Bool) (requestId : UInt32)
    (reply : Except BadStatus Nat) : Server ω σ :=
  match faultOrBody cfg s (.inPlace (plaintextOffset isOpn)) reply with
  | (.error _, s) => s
  | (.ok 0, s) => s
  | (.ok length, s) =>
    if isOpn then sendPlaintextOpn cfg s requestId length
    else (sendPlaintext cfg s requestId length).2

def servePlaintext (s : Server ω σ) (typeId : NodeId) (body : List UInt8) (requestId : UInt32)
    (opn : Option OpnHeader) : Server ω σ :=
  let offset := plaintextOffset opn.isSome
  if s.sendBuffer.val.length ≤ offset then s
  else
    let s := { s with currentRequestId := requestId }
    let (reply, s) := dispatchRequest cfg s typeId body (.inPlace offset) opn
    closeIfRejected (answerInPlace cfg s opn.isSome requestId reply) opn.isSome reply

def handleDataChunkPlaintext (s : Server ω σ) (msg : List UInt8) (isOpn : Bool) : Server ω σ :=
  match readPlaintextPrologue isOpn ((BinaryReader.init msg).seek 8) with
  | .error _ _ => s
  | .ok prologue reader =>
    match acceptInboundChunk s isOpn prologue.channelId prologue.tokenId
        prologue.sequenceNumber with
    | none => abortConnection cfg s
    | some s =>
      match binaryReadNodeid reader with
      | .error _ _ => s
      | .ok typeId reader =>
        servePlaintext cfg s typeId (msg.drop reader.position) prologue.requestId prologue.opn

/-! ## With security -/

structure SecureRequest where
  channelId : UInt32
  tokenId : UInt32
  sequenceNumber : UInt32
  requestId : UInt32
  plain : List UInt8
  opn : Option OpnHeader
  deriving DecidableEq

/-- The header `secure_unwrap_opn` reads itself. -/
def readOpnPolicy : ReadM MuString := do
  let _headerChannelId ← binaryReadUint32
  binaryReadString

/-- `secure_unwrap_opn`, with the policy it stores in the channel. -/
def secureUnwrapOpn (crypto : CryptoAdapter ω) (msg : List UInt8) :
    Option (SecurityPolicy × SecureRequest) :=
  match readOpnPolicy.result ((BinaryReader.init msg).seek 8),
      asymChunkUnwrap crypto msg secureOpnReqMax with
  | .ok securityPolicy, .ok (plain, info) =>
    some (info.policy,
      { channelId := info.secureChannelId
        tokenId := 0
        sequenceNumber := info.sequenceNumber
        requestId := info.requestId
        plain
        opn := some ⟨securityPolicy, MuString.ofBytes info.senderCert⟩ })
  | _, _ => none

/-- The unwrapping a channel selects for its MSG chunks, under the client keys. -/
def unwrapWithClientKeys (crypto : CryptoAdapter ω) (channel : SecureChannel)
    (msg : List UInt8) : Except BadStatus (List UInt8 × SymChunkInfo) × List UInt8 :=
  if securityPolicySymMode channel.policy = .aeadChacha20Poly1305 then
    symChunkUnwrapAead crypto channel.clientKeys msg channel.inLastSequenceNumber
  else symChunkUnwrap crypto channel.mode channel.clientKeys msg

def secureUnwrapMsg (crypto : CryptoAdapter ω) (channel : SecureChannel) (msg : List UInt8) :
    Option SecureRequest :=
  if channel.keysValid then
    match (unwrapWithClientKeys crypto channel msg).1 with
    | .error _ => none
    | .ok (plain, info) =>
      some
        { channelId := info.secureChannelId
          tokenId := info.tokenId
          sequenceNumber := info.sequenceNumber
          requestId := info.requestId
          plain
          opn := none }
  else none

/-- Wrap a response body: asymmetrically for an OPN chunk, else under the server keys. -/
def wrapResponse (crypto : CryptoAdapter ω) (s : Server ω σ) (req : SecureRequest)
    (body : List UInt8) : Except BadStatus (List UInt8) :=
  match req.opn with
  | some opn =>
    asymChunkWrap crypto
      { policy := s.channel.policy
        secureChannelId := s.channel.channelId
        sequenceNumber := s.channel.outSequenceNumber
        requestId := req.requestId
        receiverCert := opn.clientCert.bytes
        body
        outCap := s.sendBuffer.val.length }
  | none => wrapWithServerKeys crypto s.channel req.requestId body s.sendBuffer.val.length

def sendSecure (crypto : CryptoAdapter ω) (s : Server ω σ) (req : SecureRequest) (length : Nat) :
    Server ω σ :=
  let s := s.nextOut
  match wrapResponse crypto s req (s.scratch.val.take length) with
  | .error _ => s
  | .ok chunk => sendChunk cfg s chunk

def serveSecure (crypto : CryptoAdapter ω) (s : Server ω σ) (typeId : NodeId) (body : List UInt8)
    (req : SecureRequest) : Server ω σ :=
  let s := { s with currentRequestId := req.requestId }
  let (reply, s) := dispatchRequest cfg s typeId body .scratch req.opn
  match faultOrBody cfg s .scratch reply with
  | (.error _, s) => s
  | (.ok 0, s) => s
  | (.ok length, s) =>
    closeIfRejected (sendSecure cfg crypto s req length) req.opn.isSome reply

/-- `handle_data_chunk_secure` after unwrapping. -/
def handleSecureRequest (crypto : CryptoAdapter ω) (s : Server ω σ) (req : SecureRequest) :
    Server ω σ :=
  match acceptInboundChunk s req.opn.isSome req.channelId req.tokenId req.sequenceNumber with
  | none => abortConnection cfg s
  | some s =>
    let s := s.setChannel { s.channel with inLastSequenceNumber := req.sequenceNumber }
    match binaryReadNodeid (BinaryReader.init req.plain) with
    | .error _ _ => s
    | .ok typeId reader =>
      serveSecure cfg crypto s typeId (req.plain.drop reader.position) req

def handleDataChunkSecure (crypto : CryptoAdapter ω) (s : Server ω σ) (msg : List UInt8)
    (isOpn : Bool) : Server ω σ :=
  if isOpn then
    match secureUnwrapOpn crypto msg with
    | none => s
    | some (policy, req) =>
      handleSecureRequest cfg crypto (s.setChannel { s.channel with policy }) req
  else if s.channel.policy = .none then handleDataChunkPlaintext cfg s msg false
  else
    match secureUnwrapMsg crypto s.channel msg with
    | none => s
    | some req => handleSecureRequest cfg crypto s req

end MucOpcua
