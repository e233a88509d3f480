import MucOpcua.Encoding.BinaryReader

/-!
# Decoders of the structured types

The reading halves of `binary_nodeid.c`, `binary_extension_object.c`, `binary_variant.c` and
`binary_datavalue.c`, with `MUC_OPCUA_CU_EXTENDED_NODEIDS` and `MUC_OPCUA_CU_DATA_ACCESS` on.
-/

namespace MucOpcua

/-- Compile-time ceiling and heap of a build. `calloc n stride` says whether the allocation
succeeds; a build without `MUC_OPCUA_ALLOW_HEAP` is one where it never does. -/
structure CodecProfile where
  maxArrayLength : Nat
  calloc : Nat → Nat → Bool

/-! ## NodeIds -/

def binaryReadNodeid : ReadM NodeId := do
  let encodingMask ← binaryReadByte
  match (encodingMask &&& 0x0F).toNat with
  | 0x00 =>
    let id ← binaryReadByte
    return ⟨0, .numeric id.toUInt32⟩
  | 0x01 =>
    let ns ← binaryReadByte
    let id ← binaryReadUint16
    return ⟨ns.toUInt16, .numeric id.toUInt32⟩
  | 0x02 =>
    let ns ← binaryReadUint16
    let id ← binaryReadUint32
    return ⟨ns, .numeric id⟩
  | 0x03 =>
    let ns ← binaryReadUint16
    let s ← binaryReadString
    return ⟨ns, .string s⟩
  | 0x04 =>
    let ns ← binaryReadUint16
    let bytes ← readMany binaryReadByte 16
    return ⟨ns, .guid bytes⟩
  | 0x05 =>
    let ns ← binaryReadUint16
    let opaqueLen := (← binaryReadInt32).toInt
    if h : opaqueLen < 0 ∨ 16 < opaqueLen then
      throw Status.badDecodingError
    else
      let data ← readMany binaryReadByte opaqueLen.toNat
      return ⟨ns, .opaqueId ⟨data.val, NodeIdentifier.length_le h data⟩⟩
  | _ => throw Status.badDecodingError

/-- Peeks at the encoding byte before the shared NodeId decoder consumes it, so the test for an
exhausted reader is its own and not `ensure_bytes`. -/
def binaryReadExpandedNodeid : ReadM ExpandedNodeId := do
  let reader ← get
  if reader.buffer.isNone ∨ reader.length ≤ reader.position then
    throw Status.badDecodingError
  else
    let encodingMask := reader.rest.getD 0 0
    let nodeId ← binaryReadNodeid
    let namespaceUri ← readIf (encodingMask &&& 0x80 ≠ 0) binaryReadString MuString.null
    let serverIndex ← readIf (encodingMask &&& 0x40 ≠ 0) binaryReadUint32 0
    return { nodeId, namespaceUri, serverIndex }

/-- What `identifier.numeric` reads as, whatever the tag of the identifier. `stale` are the bytes of
the union before the decoder wrote to it; a short ByteString leaves some of them. -/
def NodeId.numericMember (stale : List UInt8) (node : NodeId) : UInt32 :=
  match node.identifier with
  | .numeric id => id
  | .string s => (Int32.ofInt s.length).toUInt32
  | .guid bytes => leGetU32 bytes.val
  | .opaqueId data => leGetU32 (data.val ++ stale.drop data.val.length)
  | .unknown _ => leGetU32 stale

/-! ## ExtensionObjects -/

def binaryReadExtensionObjectHeader : ReadM (NodeId × Nat) := do
  let typeId ← binaryReadNodeid
  let encodingMask ← binaryReadByte
  if encodingMask = 0x00 then
    return (typeId, 0)
  else if encodingMask = 0x01 ∨ encodingMask = 0x02 then
    let len := (← binaryReadInt32).toInt
    if len < 0 then
      throw Status.badDecodingError
    else
      return (typeId, len.toNat)
  else
    throw Status.badDecodingError

/-- `decoder` is the caller's function pointer, NULL allowed; it works on a reader of its own over
the body's bytes and its failure is copied to the outer reader. -/
def binaryReadExtensionObjectBody (length : Nat) (decoder : Option (ReadM Unit)) : ReadM Unit := do
  match decoder with
  | none => throw Status.badInternalError
  | some decode =>
    let reader ← get
    if h : reader.status ≠ Status.good then
      throw ⟨reader.status, h⟩
    else if reader.buffer.isNone then
      throw Status.badInternalError
    else if reader.length < reader.position ∨ reader.length - reader.position < length then
      readerFail Status.badDecodingError
    else
      match decode (BinaryReader.init (reader.rest.take length)) with
      | .error status _ => readerFail status
      | .ok _ bodyReader =>
        if h : bodyReader.status ≠ Status.good then
          readerFail ⟨bodyReader.status, h⟩
        else if bodyReader.position ≠ length then
          readerFail Status.badDecodingError
        else
          set (reader.advance length)

def binarySkipExtensionObject : ReadM Unit := do
  let (_, length) ← binaryReadExtensionObjectHeader
  let reader ← get
  if reader.length < reader.position ∨ reader.length - reader.position < length then
    readerFail Status.badDecodingError
  else
    set (reader.advance length)

/-! ## Variants -/

def readScalarValue : (type : BuiltinType) → ReadM type.Carrier
  | .boolean => binaryReadBoolean
  | .sbyte => binaryReadSbyte
  | .byte => binaryReadByte
  | .int16 => binaryReadInt16
  | .uint16 => binaryReadUint16
  | .int32 => binaryReadInt32
  | .uint32 => binaryReadUint32
  | .int64 => binaryReadInt64
  | .uint64 => binaryReadUint64
  | .float => binaryReadFloat
  | .double => binaryReadDouble
  | .string => binaryReadString
  | .byteString => binaryReadBytestring
  | .dateTime => binaryReadInt64
  | .statusCode => binaryReadStatuscode
  | .nodeId => binaryReadNodeid
  | .qualifiedName => binaryReadQualifiedName
  | .localizedText => binaryReadLocalizedText
  | .null | .guid | .xmlElement | .expandedNodeId | .extensionObject | .dataValue | .variant
  | .diagnosticInfo | .reserved _ => throw Status.badDecodingError

def readVariantElements (profile : CodecProfile) (type : BuiltinType) (length : Nat) :
    ReadM { es : List type.Carrier // es.length = length } := do
  let stride := elementSize type
  if stride = 0 then
    throw Status.badDecodingError
  else
    let reader ← get
    if reader.length < reader.position ∨ reader.length - reader.position < length then
      throw Status.badDecodingError
    else if sizeMax / stride < length then
      throw Status.badDecodingError
    else if profile.calloc length stride = false then
      throw Status.badOutOfMemory
    else
      readMany (readScalarValue type) length

/-- The dimensions are consumed and dropped: the variant has no field for them. -/
def readVariantDimensions : ReadM Unit := do
  let dimCount := (← binaryReadInt32).toInt
  if dimCount < -1 then
    throw Status.badDecodingError
  else
    let _ ← readMany binaryReadInt32 dimCount.toNat
    return

/-- The decoder does not touch `ext_encoding_id`; it is zero here, as in a zeroed variant. -/
def binaryReadVariant (profile : CodecProfile) : ReadM Variant := do
  let encodingMask ← binaryReadByte
  let type := BuiltinType.ofByte (encodingMask &&& 0x3F)
  let isArray := encodingMask &&& 0x80 ≠ 0
  let hasDimensions := encodingMask &&& 0x40 ≠ 0
  if hasDimensions ∧ ¬ isArray then
    throw Status.badDecodingError
  else if type = .null then
    return ⟨.null, .scalar (), 0⟩
  else if isArray then
    let length := (← binaryReadInt32).toInt
    if length < -1 then
      throw Status.badDecodingError
    else if (profile.maxArrayLength : Int) < length then
      throw Status.badEncodingLimitsExceeded
    else
      let elements ← readIf (0 < length)
        (some <$> readVariantElements profile type length.toNat) none
      readIf hasDimensions readVariantDimensions ()
      return ⟨type, .array length elements, 0⟩
  else
    let v ← readScalarValue type
    return ⟨type, .scalar v, 0⟩

/-! ## DataValues -/

def readOptional {α : Type} (present : Prop) [Decidable present] (decode : ReadM α) :
    ReadM (Option α) :=
  readIf present (some <$> decode) none

def binaryReadDatavalue (profile : CodecProfile) : ReadM DataValue := do
  let encodingMask ← binaryReadByte
  let value ← readOptional (encodingMask &&& 0x01 ≠ 0) (binaryReadVariant profile)
  let status ← readOptional (encodingMask &&& 0x02 ≠ 0) binaryReadStatuscode
  let sourceTimestamp ← readOptional (encodingMask &&& 0x04 ≠ 0) binaryReadInt64
  let sourcePicoseconds ← readOptional (encodingMask &&& 0x10 ≠ 0) binaryReadUint16
  let serverTimestamp ← readOptional (encodingMask &&& 0x08 ≠ 0) binaryReadInt64
  let serverPicoseconds ← readOptional (encodingMask &&& 0x20 ≠ 0) binaryReadUint16
  return { value, status, sourceTimestamp, sourcePicoseconds, serverTimestamp, serverPicoseconds }

end MucOpcua
