import MucOpcua.Encoding.BinaryWriter

/-!
# Encoders of the structured types

The writing halves of `binary_nodeid.c`, `binary_extension_object.c`, `binary_variant.c` and
`binary_datavalue.c`, and the structure writers of `binary_writer.c`.
-/

namespace MucOpcua

def writeMany {α : Type} (encode : α → WriteM Unit) : List α → WriteM Unit
  | [] => pure ()
  | x :: xs => do
    encode x
    writeMany encode xs

/-! ## NodeIds -/

def binaryWriteNodeid (value : Option NodeId) : WriteM Unit :=
  match value with
  | none => throw Status.badEncodingError
  | some node =>
    match node.identifier with
    | .numeric id =>
      if node.namespaceIndex = 0 ∧ id ≤ 255 then do
        binaryWriteByte 0x00
        binaryWriteByte id.toUInt8
      else if node.namespaceIndex ≤ 255 ∧ id ≤ 65535 then do
        binaryWriteByte 0x01
        binaryWriteByte node.namespaceIndex.toUInt8
        binaryWriteUint16 id.toUInt16
      else do
        binaryWriteByte 0x02
        binaryWriteUint16 node.namespaceIndex
        binaryWriteUint32 id
    | .string s => do
      binaryWriteByte 0x03
      binaryWriteUint16 node.namespaceIndex
      binaryWriteString (some s)
    | .guid bytes => do
      binaryWriteByte 0x04
      binaryWriteUint16 node.namespaceIndex
      writeMany binaryWriteByte bytes.val
    | .opaqueId data => do
      binaryWriteByte 0x05
      binaryWriteUint16 node.namespaceIndex
      binaryWriteInt32 (Int32.ofNat data.val.length)
      writeMany binaryWriteByte data.val
    | .unknown _ => throw Status.badEncodingError

def nodeidFormat (node : NodeId) : Option UInt8 :=
  match node.identifier with
  | .numeric id =>
    if node.namespaceIndex = 0 ∧ id ≤ 255 then some 0x00
    else if node.namespaceIndex ≤ 255 ∧ id ≤ 65535 then some 0x01
    else some 0x02
  | .string _ => some 0x03
  | .guid _ => some 0x04
  | .opaqueId _ => some 0x05
  | .unknown _ => none

def writeExpandedIdentifier (format : UInt8) (node : NodeId) : WriteM Unit :=
  match format.toNat, node.identifier with
  | 0x00, .numeric id => binaryWriteByte id.toUInt8
  | 0x01, .numeric id => do
    binaryWriteByte node.namespaceIndex.toUInt8
    binaryWriteUint16 id.toUInt16
  | 0x02, .numeric id => do
    binaryWriteUint16 node.namespaceIndex
    binaryWriteUint32 id
  | 0x03, .string s => do
    binaryWriteUint16 node.namespaceIndex
    binaryWriteString (some s)
  | 0x04, .guid bytes => do
    binaryWriteUint16 node.namespaceIndex
    writeMany binaryWriteByte bytes.val
  | 0x05, .opaqueId data => do
    binaryWriteUint16 node.namespaceIndex
    binaryWriteInt32 (Int32.ofNat data.val.length)
    writeMany binaryWriteByte data.val
  | _, _ => pure ()

def expandedNodeidMask (format : UInt8) (value : ExpandedNodeId) : UInt8 :=
  format ||| (if 0 ≤ value.namespaceUri.length ∧ value.namespaceUri.data.isSome then 0x80 else 0)
    ||| (if value.serverIndex ≠ 0 then 0x40 else 0)

def binaryWriteExpandedNodeid (value : Option ExpandedNodeId) : WriteM Unit :=
  match value with
  | none => throw Status.badEncodingError
  | some expanded =>
    match nodeidFormat expanded.nodeId with
    | none => throw Status.badEncodingError
    | some format => do
      let mask := expandedNodeidMask format expanded
      binaryWriteByte mask
      writeExpandedIdentifier (mask &&& 0x0F) expanded.nodeId
      writeIf (mask &&& 0x80 ≠ 0) (binaryWriteString (some expanded.namespaceUri))
      writeIf (mask &&& 0x40 ≠ 0) (binaryWriteUint32 expanded.serverIndex)

/-! ## ExtensionObjects -/

def binaryWriteExtensionObjectHeader (typeId : Option NodeId) (length : Nat) : WriteM Unit := do
  binaryWriteNodeid typeId
  if length = 0 then
    binaryWriteByte 0x00
  else
    binaryWriteByte 0x01
    binaryWriteInt32 (Int32.ofNat length)

/-- The structure writers fill a local buffer with the body, looking at no result on the way. -/
def encodeBody (size : Nat) (fields : List (WriteM Unit)) : BinaryWriter :=
  Sticky.runAll (fun field : WriteM Unit => field) fields
    (BinaryWriter.init (List.replicate size 0))

/-- Then they copy it out behind an ExtensionObject header with the exact body length. -/
def writeEncodedBody (encodingId : UInt32) (body : BinaryWriter) : WriteM Unit := do
  if h : body.status ≠ Status.good then
    throw ⟨body.status, h⟩
  else
    binaryWriteExtensionObjectHeader (some ⟨0, .numeric encodingId⟩) body.position
    writeBlock body.written Status.badOutOfMemory

def argumentBody (arg : Argument) : BinaryWriter :=
  encodeBody 256 [binaryWriteString (some arg.name), binaryWriteNodeid (some arg.dataType),
    binaryWriteInt32 arg.valueRank, binaryWriteInt32 (-1),
    binaryWriteLocalizedText (some arg.description)]

def diagnosticsSummaryBody (diag : DiagnosticsSummary) : BinaryWriter :=
  encodeBody 48 (diag.counters.val.map binaryWriteUint32)

def serverStatusBody (status : ServerStatus) : BinaryWriter :=
  encodeBody 256 [binaryWriteInt64 status.startTime, binaryWriteInt64 status.currentTime,
    binaryWriteInt32 status.state, binaryWriteString (some status.productUri),
    binaryWriteString (some status.manufacturerName), binaryWriteString (some status.productName),
    binaryWriteString (some status.softwareVersion), binaryWriteString (some status.buildNumber),
    binaryWriteInt64 status.buildDate, binaryWriteUint32 0, binaryWriteByte 0]

def binaryWriteArgument (arg : Option Argument) : WriteM Unit :=
  match arg with
  | none => throw Status.badInternalError
  | some arg => writeEncodedBody 298 (argumentBody arg)

def binaryWriteServerDiagnosticsSummary (diag : Option DiagnosticsSummary) : WriteM Unit :=
  match diag with
  | none => throw Status.badInternalError
  | some diag => writeEncodedBody 861 (diagnosticsSummaryBody diag)

def binaryWriteServerStatus (status : Option ServerStatus) : WriteM Unit :=
  match status with
  | none => throw Status.badInternalError
  | some status => writeEncodedBody 864 (serverStatusBody status)

/-! ## Variants -/

def ExtensionStruct.toArgument : ExtensionStruct → Option Argument
  | .argument a => some a
  | _ => none

def ExtensionStruct.toDiagnosticsSummary : ExtensionStruct → Option DiagnosticsSummary
  | .diagnosticsSummary d => some d
  | _ => none

def ExtensionStruct.toServerStatus : ExtensionStruct → Option ServerStatus
  | .serverStatus s => some s
  | _ => none

def writeScalarValue : (type : BuiltinType) → type.Carrier → WriteM Unit
  | .boolean, v => binaryWriteBoolean v
  | .sbyte, v => binaryWriteSbyte v
  | .byte, v => binaryWriteByte v
  | .int16, v => binaryWriteInt16 v
  | .uint16, v => binaryWriteUint16 v
  | .int32, v => binaryWriteInt32 v
  | .uint32, v => binaryWriteUint32 v
  | .int64, v => binaryWriteInt64 v
  | .uint64, v => binaryWriteUint64 v
  | .float, v => binaryWriteFloat v
  | .double, v => binaryWriteDouble v
  | .string, v => binaryWriteString (some v)
  | .byteString, v => binaryWriteBytestring (some v)
  | .dateTime, v => binaryWriteInt64 v
  | .statusCode, v => binaryWriteStatuscode v
  | .nodeId, v => binaryWriteNodeid (some v)
  | .qualifiedName, v => binaryWriteQualifiedName (some v)
  | .localizedText, v => binaryWriteLocalizedText (some v)
  | .null, _ | .guid, _ | .xmlElement, _ | .expandedNodeId, _ | .extensionObject, _
  | .dataValue, _ | .variant, _ | .diagnosticInfo, _ | .reserved _, _ =>
    throw Status.badEncodingError

/-- The elements of an array whose pointer is not NULL. ExtensionObject arrays hold Arguments. -/
def writeArrayElements : (type : BuiltinType) → List type.Carrier → WriteM Unit
  | .extensionObject, es =>
    writeMany (fun e : ExtensionStruct => binaryWriteArgument e.toArgument) es
  | type, es =>
    if elementSize type = 0 then throw Status.badEncodingError
    else writeMany (writeScalarValue type) es

def writeScalarVariant (extEncodingId : UInt32) : (type : BuiltinType) → type.Carrier → WriteM Unit
  | .extensionObject, v =>
    if extEncodingId = 861 then
      binaryWriteServerDiagnosticsSummary (ExtensionStruct.toDiagnosticsSummary v)
    else if extEncodingId = 864 then
      binaryWriteServerStatus (ExtensionStruct.toServerStatus v)
    else
      writeScalarValue .extensionObject v
  | type, v => writeScalarValue type v

def binaryWriteVariant (value : Option Variant) : WriteM Unit :=
  match value with
  | none => throw Status.badEncodingError
  | some variant => do
    binaryWriteByte (variant.type.toByte ||| (if variant.value.isArray then 0x80 else 0))
    if variant.type = .null then
      return
    else
      match variant.value with
      | .array length elements =>
        binaryWriteInt32 (Int32.ofInt length)
        match elements with
        | none => return
        | some es => writeIf (0 ≤ length) (writeArrayElements variant.type es.val)
      | .scalar v => writeScalarVariant variant.extEncodingId variant.type v

/-! ## DataValues -/

def datavalueMask (value : DataValue) : UInt8 :=
  (if value.value.isSome then 0x01 else 0) ||| (if value.status.isSome then 0x02 else 0) |||
    (if value.sourceTimestamp.isSome then 0x04 else 0) |||
    (if value.sourcePicoseconds.isSome then 0x10 else 0) |||
    (if value.serverTimestamp.isSome then 0x08 else 0) |||
    (if value.serverPicoseconds.isSome then 0x20 else 0)

def writeOptional {α : Type} (encode : α → WriteM Unit) : Option α → WriteM Unit
  | none => pure ()
  | some a => encode a

def binaryWriteDatavalue (value : Option DataValue) : WriteM Unit :=
  match value with
  | none => throw Status.badEncodingError
  | some value => do
    binaryWriteByte (datavalueMask value)
    writeOptional (fun v => binaryWriteVariant (some v)) value.value
    writeOptional binaryWriteStatuscode value.status
    writeOptional binaryWriteInt64 value.sourceTimestamp
    writeOptional binaryWriteUint16 value.sourcePicoseconds
    writeOptional binaryWriteInt64 value.serverTimestamp
    writeOptional binaryWriteUint16 value.serverPicoseconds

end MucOpcua
