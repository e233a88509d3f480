import MucOpcua.Encoding.BinaryReader
import MucOpcua.Encoding.BinaryWriter

/-!
# Message chunks

`message_chunk.c` and `uasc.c`: the header of a received chunk, the buffer in which the chunks of
one request are put together, and the headers of the chunks the server sends. The build has
`MUC_OPCUA_CU_MULTI_CHUNK`.
-/

namespace MucOpcua

def ascii (s : String) : List UInt8 := s.toList.map fun c => c.toNat.toUInt8

def BinaryReader.seek (r : BinaryReader) (position : Nat) : BinaryReader := { r with position }

/-! ## The header of a received chunk -/

inductive MessageType where
  | hel | ack | err | opn | clo | msg
  deriving DecidableEq, Repr

def MessageType.bytes : MessageType → List UInt8
  | .hel => ascii "HEL"
  | .ack => ascii "ACK"
  | .err => ascii "ERR"
  | .opn => ascii "OPN"
  | .clo => ascii "CLO"
  | .msg => ascii "MSG"

def MessageType.ofBytes (bytes : List UInt8) : Option MessageType :=
  [.hel, .ack, .err, .opn, .clo, .msg].find? fun t => t.bytes = bytes

/-- The IsFinal byte: `C`, `F` or `A`. -/
inductive ChunkType where
  | intermediate | final | abort
  deriving DecidableEq, Repr

def ChunkType.ofByte (b : UInt8) : Option ChunkType :=
  if b = 0x43 then some .intermediate
  else if b = 0x46 then some .final
  else if b = 0x41 then some .abort
  else none

structure MessageHeader where
  messageType : MessageType
  chunkType : ChunkType
  messageSize : UInt32
  secureChannelId : UInt32
  deriving DecidableEq, Repr

/-- A refused header. The caller still looks at the IsFinal byte, which is stored before the first
check that reads it; it is 0 when there is no complete header. -/
structure HeaderFault where
  status : BadStatus
  chunkByte : UInt8
  deriving DecidableEq

def uascSymmetricHeaderSize : Nat := 24
def uascAsymmetricNoneHeaderSize : Nat := 79

/-- An abort chunk never passes: its body is the reason, and that is what it is refused with. -/
def abortChunkStatus (buffer : List UInt8) (header : MessageHeader) : BadStatus :=
  if header.messageType = .opn then Status.badTcpInternalError
  else if header.messageSize.toNat < uascSymmetricHeaderSize + 4 then Status.badTcpInternalError
  else
    match binaryReadStatuscode ((BinaryReader.init buffer).seek uascSymmetricHeaderSize) with
    | .error status _ => status
    | .ok abortStatus _ =>
      if h : abortStatus = Status.good then Status.badTcpInternalError else ⟨abortStatus, h⟩

def parseMessageHeader (buffer : List UInt8) : Except HeaderFault MessageHeader :=
  if buffer.length < 8 then .error ⟨Status.badTcpInternalError, 0⟩
  else
    let chunkByte := buffer.getD 3 0
    match MessageType.ofBytes (buffer.take 3), ChunkType.ofByte chunkByte with
    | some messageType, some chunkType =>
      let messageSize := leGetU32 (buffer.drop 4)
      if messageSize < 8 then .error ⟨Status.badTcpInternalError, chunkByte⟩
      else if buffer.length < messageSize.toNat then
        .error ⟨Status.badTcpMessageTooLarge, chunkByte⟩
      else if chunkType = .intermediate ∧ messageType ≠ .msg then
        .error ⟨Status.badTcpInternalError, chunkByte⟩
      else if messageType = .hel ∨ messageType = .ack ∨ messageType = .err then
        .ok ⟨messageType, chunkType, messageSize, 0⟩
      else if buffer.length < 12 then .error ⟨Status.badTcpInternalError, chunkByte⟩
      else if messageSize < 12 then .error ⟨Status.badTcpInternalError, chunkByte⟩
      else
        let header : MessageHeader :=
          ⟨messageType, chunkType, messageSize, leGetU32 (buffer.drop 8)⟩
        if chunkType = .abort then .error ⟨abortChunkStatus buffer header, chunkByte⟩
        else .ok header
    | _, _ => .error ⟨Status.badTcpMessageTypeInvalid, chunkByte⟩

/-! ## The chunk assembler -/

def chunkAssemblyBufferSize : Nat := 8192

/-- `mu_chunk_assembler_t`: `bytes` are the first `length` cells of its buffer, the only ones that
are read. -/
structure ChunkAssembler where
  isActive : Bool
  bytes : List UInt8
  bounded : bytes.length ≤ chunkAssemblyBufferSize

namespace ChunkAssembler

/-- `mu_chunk_assembler_init`, and what `mu_chunk_assembler_reset` leaves of any assembler. -/
def idle : ChunkAssembler := ⟨false, [], Nat.zero_le _⟩

def activate (ca : ChunkAssembler) : ChunkAssembler :=
  if ca.isActive then ca else ⟨true, [], Nat.zero_le _⟩

def append (ca : ChunkAssembler) (body : List UInt8) : Option ChunkAssembler :=
  if h : ca.bytes.length + body.length ≤ chunkAssemblyBufferSize then
    some ⟨ca.isActive, ca.bytes ++ body, by simpa using h⟩
  else none

@[simp] theorem activate_isActive (ca : ChunkAssembler) : ca.activate.isActive = true := by
  unfold activate
  split
  · assumption
  · rfl

theorem append_isActive {ca ca' : ChunkAssembler} {body : List UInt8}
    (h : ca.append body = some ca') : ca'.isActive = ca.isActive := by
  unfold append at h
  split at h
  · cases h
    rfl
  · cases h

end ChunkAssembler

/-! ## The header of a sent chunk -/

variable {p : Nat → Prop}

def uascFinalizeSymmetric (buffer : Buffer.Sized UInt8 p) (secureChannelId tokenId sequenceNumber
    requestId : UInt32) (bodyLength : Nat) : Except BadStatus (Buffer.Sized UInt8 p × Nat) :=
  let total := uascSymmetricHeaderSize + bodyLength
  if buffer.val.length < total then .error Status.badResponseTooLarge
  else
    .ok (buffer.patch 0
      (ascii "MSGF" ++ lePutU32 (UInt32.ofNat total) ++ lePutU32 secureChannelId ++
        lePutU32 tokenId ++ lePutU32 sequenceNumber ++ lePutU32 requestId), total)

def securityPolicyNoneUri : List UInt8 := ascii "http://opcfoundation.org/UA/SecurityPolicy#None"

def uascFinalizeAsymmetricNone (buffer : Buffer.Sized UInt8 p) (secureChannelId sequenceNumber
    requestId : UInt32) (bodyLength : Nat) : Except BadStatus (Buffer.Sized UInt8 p × Nat) :=
  let total := uascAsymmetricNoneHeaderSize + bodyLength
  if buffer.val.length < total then .error Status.badResponseTooLarge
  else
    .ok (buffer.patch 0
      (ascii "OPNF" ++ lePutU32 (UInt32.ofNat total) ++ lePutU32 secureChannelId ++
        lePutU32 (UInt32.ofNat securityPolicyNoneUri.length) ++ securityPolicyNoneUri ++
        lePutU32 0xFFFFFFFF ++ lePutU32 0xFFFFFFFF ++ lePutU32 sequenceNumber ++
        lePutU32 requestId), total)

end MucOpcua
