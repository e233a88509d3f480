import MucOpcua.Server.State

/-!
# Sending, the HELLO exchange and the acceptance of chunks

`tcp_connection.c` and the helpers of `data_chunk.c` that every path shares.
-/

namespace MucOpcua

variable {ω σ : Type} (cfg : ServerConfig ω σ)

/-! ## Sending -/

/-- `abort_connection`; also how a half-sent chunk ends the connection. -/
def abortConnection (s : Server ω σ) : Server ω σ :=
  { s with
    world := cfg.tcpAdapter.closeConnection s.world s.conn.clientHandle
    conn := { s.conn with clientHandle := none } }

def sendBufferChunk (s : Server ω σ) (total : Nat) : Server ω σ :=
  let bytes := s.sendBuffer.val.take total
  let (status, bytesWritten, world) := cfg.tcpAdapter.write s.world s.conn.clientHandle bytes
  let s := { s.record (.sent bytes) with world }
  if status ≠ Status.good ∨ bytesWritten ≠ total then abortConnection cfg s else s

/-- `mu_tcp_create_error_message`; its callers give it a buffer that is large enough. -/
def tcpErrorMessage (errorCode : StatusCode) (reason : List UInt8) : List UInt8 :=
  ascii "ERRF" ++ lePutU32 (UInt32.ofNat (16 + reason.length)) ++ lePutU32 errorCode ++
    lePutU32 (UInt32.ofNat reason.length) ++ reason

def sendTcpErrorChunk (s : Server ω σ) (errorCode : StatusCode) : Server ω σ :=
  let message := tcpErrorMessage errorCode []
  sendBufferChunk cfg { s with sendBuffer := s.sendBuffer.patch 0 message } message.length

/-- Protect a message with the channel's server keys, under its last outbound SequenceNumber. -/
def wrapWithServerKeys (crypto : CryptoAdapter ω) (channel : SecureChannel) (requestId : UInt32)
    (body : List UInt8) (outCap : Nat) : Except BadStatus (List UInt8) :=
  if securityPolicySymMode channel.policy = .aeadChacha20Poly1305 then
    symChunkWrapAead crypto channel.serverKeys (ascii "MSG") channel.channelId channel.tokenId
      channel.outSequenceNumber (channel.outSequenceNumber - 1) requestId body outCap
  else
    symChunkWrap crypto channel.mode channel.serverKeys (ascii "MSG") channel.channelId
      channel.tokenId channel.outSequenceNumber requestId body outCap

def sendChunk (s : Server ω σ) (chunk : List UInt8) : Server ω σ :=
  sendBufferChunk cfg { s with sendBuffer := s.sendBuffer.patch 0 chunk } chunk.length

/-- Frame what lies in the send buffer as a chunk without security and send it. The sequence
number is used up also when the chunk does not fit. -/
def sendPlaintext (s : Server ω σ) (requestId : UInt32) (bodyLength : Nat) :
    StatusCode × Server ω σ :=
  let s := s.nextOut
  match uascFinalizeSymmetric s.sendBuffer s.channel.channelId s.channel.tokenId
      s.channel.outSequenceNumber requestId bodyLength with
  | .error status => (status.val, s)
  | .ok (sendBuffer, total) => (Status.good, sendBufferChunk cfg { s with sendBuffer } total)

/-- `mu_server_emit_message` of the active connection. -/
def serverEmitMessage (s : Server ω σ) (requestId : UInt32) (body : List UInt8) :
    StatusCode × Server ω σ :=
  if s.channel.mode ≠ .none then
    match cfg.cryptoAdapter, s.channel.keysValid with
    | some crypto, true =>
      let s := s.nextOut
      match wrapWithServerKeys crypto s.channel requestId body s.sendBuffer.val.length with
      | .error status => (status.val, s)
      | .ok chunk => (Status.good, sendChunk cfg s chunk)
    | _, _ => (Status.badSecurityChecksFailed.val, s)
  else if s.sendBuffer.val.length < uascSymmetricHeaderSize + body.length then
    (Status.badResponseTooLarge.val, s)
  else
    sendPlaintext cfg { s with sendBuffer := s.sendBuffer.patch uascSymmetricHeaderSize body }
      requestId body.length

/-! ## Accepting a chunk -/

/-- `accept_inbound_chunk`; a refused chunk changes nothing. -/
def acceptInboundChunk (s : Server ω σ) (isOpn : Bool)
    (channelId tokenId sequenceNumber : UInt32) : Option (Server ω σ) :=
  if isOpn = false ∧ (channelId ≠ s.channel.channelId ∨ tokenId ≠ s.channel.tokenId) then none
  else
    match sequenceValidate s.channel.sequence sequenceNumber with
    | .error _ => none
    | .ok sequence => some (s.setChannel { s.channel with sequence })

/-- `is_ns0_numeric_nodeid`, with the number. -/
def ns0Numeric? (node : NodeId) : Option UInt32 :=
  match node.identifier with
  | .numeric id => if node.namespaceIndex = 0 then some id else none
  | _ => none

/-! ## HELLO -/

structure HelloMessage where
  messageSize : Int32
  protocolVersion : UInt32
  receiveBufferSize : UInt32
  sendBufferSize : UInt32
  maxMessageSize : UInt32
  maxChunkCount : UInt32
  endpointUrl : MuString

/-- The reads of `mu_tcp_process_hello`; the size is checked before the rest is read. -/
def readHello (length : Nat) : ReadM HelloMessage := do
  let messageSize ← binaryReadInt32
  if (length : Int) < messageSize.toInt then throw Status.badTcpMessageTooLarge
  let protocolVersion ← binaryReadUint32
  let receiveBufferSize ← binaryReadUint32
  let sendBufferSize ← binaryReadUint32
  let maxMessageSize ← binaryReadUint32
  let maxChunkCount ← binaryReadUint32
  let endpointUrl ← binaryReadString
  return { messageSize, protocolVersion, receiveBufferSize, sendBufferSize, maxMessageSize,
           maxChunkCount, endpointUrl }

def negotiateLimit (client server : UInt32) : UInt32 :=
  let limit := if client < server then client else server
  if limit = 0 then server else limit

def negotiate (hello : HelloMessage) (sendBufferSize : Nat) : TcpConnection :=
  let receiveLimit := UInt32.ofNat cfg.receiveBufferSize
  let sendLimit := UInt32.ofNat sendBufferSize
  { state := .established
    receiveBufferSize :=
      if hello.receiveBufferSize < sendLimit then hello.receiveBufferSize else sendLimit
    sendBufferSize :=
      if hello.sendBufferSize < receiveLimit then hello.sendBufferSize else receiveLimit
    maxMessageSize := negotiateLimit hello.maxMessageSize cfg.maxMessageSize
    maxChunkCount := negotiateLimit hello.maxChunkCount cfg.maxChunkCount
    protocolVersion := hello.protocolVersion }

def ackMessage (connection : TcpConnection) : List UInt8 :=
  ascii "ACKF" ++ lePutU32 28 ++ lePutU32 0 ++ lePutU32 connection.sendBufferSize ++
    lePutU32 connection.receiveBufferSize ++ lePutU32 connection.maxMessageSize ++
    lePutU32 connection.maxChunkCount

def tcpProcessHello (message : List UInt8) (sendBufferSize : Nat) :
    Except BadStatus TcpConnection := do
  if message.length < 8 then throw Status.badTcpMessageTooLarge
  if message.take 4 ≠ ascii "HELF" then throw Status.badTcpMessageTypeInvalid
  let hello ← (readHello message.length).result ((BinaryReader.init message).seek 4)
  if 4096 ≤ hello.endpointUrl.length then throw Status.badTcpEndpointUrlInvalid
  if hello.receiveBufferSize.toNat < minChunkSize ∨ hello.sendBufferSize.toNat < minChunkSize then
    throw Status.badTcpNotEnoughResources
  return negotiate cfg hello sendBufferSize

def processMessageHello (s : Server ω σ) (msg : List UInt8) : Server ω σ :=
  match tcpProcessHello cfg msg s.sendBuffer.val.length with
  | .ok tcpConn => sendChunk cfg { s with conn := { s.conn with tcpConn } } (ackMessage tcpConn)
  | .error _ => abortConnection cfg s

end MucOpcua
