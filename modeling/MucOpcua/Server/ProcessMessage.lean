import MucOpcua.Server.DataChunk
import MucOpcua.Server.Receive

/-!
# Processing a message

`process_message.c`: what one complete message does to the server.
-/

namespace MucOpcua

variable {ω σ : Type} (cfg : ServerConfig ω σ)

/-! ## Split requests -/

def processMessageMultiChunkContinuation (s : Server ω σ) (msg : List UInt8) : Server ω σ :=
  if msg.length ≤ uascSymmetricHeaderSize then
    sendTcpErrorChunk cfg s Status.badTcpInternalError.val
  else
    match s.chunkAssembly.activate.append (msg.drop uascSymmetricHeaderSize) with
    | none =>
      sendTcpErrorChunk cfg { s with chunkAssembly := ChunkAssembler.idle }
        Status.badTcpInternalError.val
    | some chunkAssembly => { s with chunkAssembly }

def Server.resetAssembly (s : Server ω σ) : Server ω σ :=
  { s with chunkAssembly := ChunkAssembler.idle }

/-- The final chunk once its body is appended: `process_message` from the reads of its header to
`process_message_multi_chunk_final_dispatch`. -/
def processMessageMultiChunkFinal (s : Server ω σ) (msg assembled : List UInt8) : Server ω σ :=
  match readPlaintextPrologue false ((BinaryReader.init msg).seek 8) with
  | .error _ _ => s.resetAssembly
  | .ok prologue _ =>
    match acceptInboundChunk s false prologue.channelId prologue.tokenId
        prologue.sequenceNumber with
    | none => abortConnection cfg s.resetAssembly
    | some s =>
      match binaryReadNodeid (BinaryReader.init assembled) with
      | .error _ _ => s.resetAssembly
      | .ok typeId reader =>
        (servePlaintext cfg s typeId (assembled.drop reader.position) prologue.requestId
          none).resetAssembly

def processMessageFinalChunk (s : Server ω σ) (msg : List UInt8) : Server ω σ :=
  if msg.length ≤ uascSymmetricHeaderSize then s.resetAssembly
  else
    match s.chunkAssembly.append (msg.drop uascSymmetricHeaderSize) with
    | none => s.resetAssembly
    | some chunkAssembly =>
      processMessageMultiChunkFinal cfg { s with chunkAssembly } msg chunkAssembly.bytes

/-! ## One message -/

def processMessageOpnOrMsg (s : Server ω σ) (msg : List UInt8) (isOpn : Bool) : Server ω σ :=
  match cfg.cryptoAdapter with
  | some crypto => handleDataChunkSecure cfg crypto s msg isOpn
  | none => handleDataChunkPlaintext cfg s msg isOpn

def processMessageRefused (s : Server ω σ) (fault : HeaderFault) : Server ω σ :=
  if fault.chunkByte = 0x43 then (sendTcpErrorChunk cfg s fault.status.val).resetAssembly
  else s.resetAssembly

def processMessageClose (s : Server ω σ) : Server ω σ :=
  abortConnection cfg (s.setChannel s.channel.closed)

def processMessage (s : Server ω σ) (msg : List UInt8) : Server ω σ :=
  if s.conn.tcpConn.state = .closed then processMessageHello cfg s msg
  else
    match parseMessageHeader msg with
    | .error fault => processMessageRefused cfg s fault
    | .ok header =>
      if header.messageType = .msg ∧ header.chunkType = .intermediate then
        processMessageMultiChunkContinuation cfg s msg
      else if header.messageType = .msg ∧ header.chunkType = .final ∧ s.chunkAssembly.isActive then
        processMessageFinalChunk cfg s msg
      else if header.messageType = .clo then processMessageClose cfg s
      else if header.messageType ≠ .opn ∧ header.messageType ≠ .msg then s
      else processMessageOpnOrMsg cfg s msg (header.messageType = .opn)

end MucOpcua
