import MucOpcua.Encoding.RoundTrip
import MucOpcua.Server.Inbound

/-!
# Chunks as a client sends them

The bytes of a MSG chunk without security, and what the server's parsers make of them.
-/

namespace MucOpcua

structure ChunkHeader where
  channelId : UInt32
  tokenId : UInt32
  sequenceNumber : UInt32
  requestId : UInt32
  deriving DecidableEq

def ChunkType.byte : ChunkType → UInt8
  | .intermediate => 0x43
  | .final => 0x46
  | .abort => 0x41

def plainChunk (chunkType : ChunkType) (h : ChunkHeader) (body : List UInt8) : List UInt8 :=
  ascii "MSG" ++ [chunkType.byte] ++
    (lePutU32 (UInt32.ofNat (uascSymmetricHeaderSize + body.length)) ++
      (lePutU32 h.channelId ++ (lePutU32 h.tokenId ++ (lePutU32 h.sequenceNumber ++
        (lePutU32 h.requestId ++ body)))))

/-- An OPN chunk under a policy without protection; there is no receiver thumbprint. -/
def opnChunk (policyUri clientCert : List UInt8) (channelId sequenceNumber requestId : UInt32)
    (body : List UInt8) : List UInt8 :=
  let text (bytes : List UInt8) := lePutU32 (UInt32.ofNat bytes.length) ++ bytes
  let content := lePutU32 channelId ++ text policyUri ++ text clientCert ++ lePutU32 0xFFFFFFFF ++
    lePutU32 sequenceNumber ++ lePutU32 requestId ++ body
  ascii "OPNF" ++ lePutU32 (UInt32.ofNat (8 + content.length)) ++ content

section

variable (chunkType : ChunkType) (h : ChunkHeader) (body : List UInt8)

@[simp] theorem plainChunk_length :
    (plainChunk chunkType h body).length = uascSymmetricHeaderSize + body.length := by
  have hascii : (ascii "MSG").length = 3 := rfl
  simp only [plainChunk,List.length_append,List.length_singleton,length_lePutU32,
    uascSymmetricHeaderSize]
  omega

theorem plainChunk_drop_header :
    (plainChunk chunkType h body).drop 8 = lePutU32 h.channelId ++ (lePutU32 h.tokenId ++
      (lePutU32 h.sequenceNumber ++ (lePutU32 h.requestId ++ body))) := rfl

@[simp] theorem plainChunk_body :
    (plainChunk chunkType h body).drop uascSymmetricHeaderSize = body := rfl

theorem parseMessageHeader_plainChunk (htype : chunkType ≠ .abort)
    (hsize : uascSymmetricHeaderSize + body.length < 2 ^ 32) :
    parseMessageHeader (plainChunk chunkType h body) =
      .ok ⟨.msg, chunkType, UInt32.ofNat (uascSymmetricHeaderSize + body.length), h.channelId⟩ := by
  have hkind : MessageType.ofBytes ((plainChunk chunkType h body).take 3) = some .msg := rfl
  have hbyte : ChunkType.ofByte ((plainChunk chunkType h body).getD 3 0) = some chunkType := by
    cases chunkType <;> rfl
  have hmessageSize : leGetU32 ((plainChunk chunkType h body).drop 4) =
      UInt32.ofNat (uascSymmetricHeaderSize + body.length) := leGetU32_lePutU32 ..
  have hchannel : leGetU32 ((plainChunk chunkType h body).drop 8) = h.channelId :=
    leGetU32_lePutU32 ..
  have htoNat : (UInt32.ofNat (uascSymmetricHeaderSize + body.length)).toNat =
      uascSymmetricHeaderSize + body.length := UInt32.toNat_ofNat_of_lt' hsize
  have hlt (n : UInt32) (hn : n.toNat ≤ 24) :
      ¬ UInt32.ofNat (uascSymmetricHeaderSize + body.length) < n := by
    rw [UInt32.lt_iff_toNat_lt,htoNat]
    unfold uascSymmetricHeaderSize
    omega
  unfold parseMessageHeader
  rw [if_neg (by simp [uascSymmetricHeaderSize]; omega)]
  simp only [hkind,hbyte,hmessageSize,hchannel]
  rw [if_neg (hlt 8 (by decide)),if_neg (by rw [plainChunk_length]; omega),if_neg (by simp),
    if_neg (by simp),if_neg (by simp [uascSymmetricHeaderSize]; omega),
    if_neg (hlt 12 (by decide)),if_neg htype]

theorem binaryReadUint32_seek {bytes rest : List UInt8} {position : Nat} {value : UInt32}
    (h : bytes.drop position = lePutU32 value ++ rest) :
    binaryReadUint32 ((BinaryReader.init bytes).seek position) =
      .ok value ((BinaryReader.init bytes).seek (position + 4)) := by
  have hread : Reads Wire.uint32 (lePutU32 value) value := by
    refine Reads.fixed rfl fun tail => ?_
    exact leGetU32_lePutU32 value tail
  exact binaryReadUint32_refines.reads_at rfl rfl hread h

theorem readPlaintextPrologue_plainChunk :
    readPlaintextPrologue false ((BinaryReader.init (plainChunk chunkType h body)).seek 8) =
      .ok ⟨h.channelId, h.tokenId, h.sequenceNumber, h.requestId, none⟩
        ((BinaryReader.init (plainChunk chunkType h body)).seek uascSymmetricHeaderSize) := by
  have hchannel := binaryReadUint32_seek (plainChunk_drop_header chunkType h body)
  have htoken : binaryReadUint32 ((BinaryReader.init (plainChunk chunkType h body)).seek 12) = _ :=
    binaryReadUint32_seek rfl
  have hsequence :
      binaryReadUint32 ((BinaryReader.init (plainChunk chunkType h body)).seek 16) = _ :=
    binaryReadUint32_seek rfl
  have hrequest :
      binaryReadUint32 ((BinaryReader.init (plainChunk chunkType h body)).seek 20) = _ :=
    binaryReadUint32_seek rfl
  have hsecurity :
      readSecurityHeader false ((BinaryReader.init (plainChunk chunkType h body)).seek 12) = _ :=
    Sticky.bind_ok htoken _
  exact (Sticky.bind_ok hchannel _).trans ((Sticky.bind_ok hsecurity _).trans
    ((Sticky.bind_ok hsequence _).trans (Sticky.bind_ok hrequest _)))

theorem typeAndBody_seek (bytes : List UInt8) (position : Nat) :
    typeAndBody bytes ((BinaryReader.init bytes).seek position) =
      typeAndBody (bytes.drop position) (BinaryReader.init (bytes.drop position)) := by
  have hat := binaryReadNodeid_refines ((BinaryReader.init bytes).seek position) bytes rfl rfl
  have hstart := binaryReadNodeid_refines (BinaryReader.init (bytes.drop position))
    (bytes.drop position) rfl rfl
  have hrest : ((BinaryReader.init bytes).seek position).rest = bytes.drop position := rfl
  have hrest' : (BinaryReader.init (bytes.drop position)).rest = bytes.drop position := rfl
  rw [hrest] at hat
  rw [hrest'] at hstart
  unfold typeAndBody
  cases hwire : Wire.nodeid (bytes.drop position) with
  | done typeId n =>
    rw [hwire] at hat hstart
    rw [hat,hstart]
    simp [BinaryReader.seek,BinaryReader.init]
  | trip status | refuse status =>
    rw [hwire] at hat hstart
    obtain ⟨_,hat,-⟩ := hat
    obtain ⟨_,hstart,-⟩ := hstart
    rw [hat,hstart]

end

end MucOpcua
