import MucOpcua.Encoding.BinaryDecode

/-!
# What the bytes say

The decoders again, without a cursor: each is a function of the bytes that lie ahead, which tells
how many of them belong to the value, or how the decoder reports that there is no value. A failure
is either a `trip`, kept in the reader's status, or a `refuse`, told to the caller alone.
-/

namespace MucOpcua

inductive Outcome (α : Type) where
  | done (value : α) (used : Nat)
  | trip (status : BadStatus)
  | refuse (status : BadStatus)

def Wire (α : Type) := List UInt8 → Outcome α

namespace Wire

variable {α β : Type}

protected def pure (a : α) : Wire α := fun _ => .done a 0

protected def bind (w : Wire α) (f : α → Wire β) : Wire β := fun src =>
  match w src with
  | .done a n =>
    match f a (src.drop n) with
    | .done b k => .done b (n + k)
    | .trip s => .trip s
    | .refuse s => .refuse s
  | .trip s => .trip s
  | .refuse s => .refuse s

instance : Monad Wire where
  pure := Wire.pure
  bind := Wire.bind

def refuse (s : BadStatus) : Wire α := fun _ => .refuse s

def peek : Wire (List UInt8) := fun src => .done src 0

def fixed (width : Nat) (decode : List UInt8 → α) : Wire α := fun src =>
  if width ≤ src.length then .done (decode src) width else .trip Status.badDecodingError

def take (n : Nat) : Wire (List UInt8) := fun src =>
  if n ≤ src.length then .done (src.take n) n else .trip Status.badDecodingError

def many (w : Wire α) : (n : Nat) → Wire { xs : List α // xs.length = n }
  | 0 => pure ⟨[], rfl⟩
  | n + 1 => do
    let x ← w
    let xs ← many w n
    pure ⟨x :: xs.val, by simp [xs.property]⟩

def when (present : Prop) [Decidable present] (w : Wire α) (absent : α) : Wire α :=
  if present then w else pure absent

def optional (present : Prop) [Decidable present] (w : Wire α) : Wire (Option α) :=
  when present (some <$> w) none

def boolean : Wire Bool := fixed 1 fun src => src.getD 0 0 ≠ 0
def sbyte : Wire Int8 := fixed 1 fun src => (src.getD 0 0).toInt8
def byte : Wire UInt8 := fixed 1 fun src => src.getD 0 0
def int16 : Wire Int16 := fixed 2 fun src => (leGetU16 src).toInt16
def uint16 : Wire UInt16 := fixed 2 leGetU16
def int32 : Wire Int32 := fixed 4 fun src => (leGetU32 src).toInt32
def uint32 : Wire UInt32 := fixed 4 leGetU32
def int64 : Wire Int64 := fixed 8 fun src => (leGetU64 src).toInt64
def uint64 : Wire UInt64 := fixed 8 leGetU64

def string : Wire MuString := do
  let length := (← int32).toInt
  if length = -1 then
    pure MuString.null
  else if length < 0 then
    refuse Status.badDecodingError
  else if (maxEncodedStringLength : Int) < length then
    refuse Status.badEncodingLimitsExceeded
  else
    let bytes ← take length.toNat
    pure (MuString.ofBytes bytes)

def localizedText : Wire LocalizedText := do
  let mask ← byte
  let locale ← when (mask &&& 0x01 ≠ 0) string MuString.null
  let text ← when (mask &&& 0x02 ≠ 0) string MuString.null
  pure { locale, text }

def qualifiedName : Wire QualifiedName := do
  let namespaceIndex ← uint16
  let name ← string
  pure { namespaceIndex, name }

def range : Wire Range := do
  let low ← uint64
  let high ← uint64
  pure { low, high }

def euInformation : Wire EuInformation := do
  let namespaceUri ← string
  let unitId ← int32
  let displayName ← localizedText
  let description ← localizedText
  pure { namespaceUri, unitId, displayName, description }

def usernameIdentityToken : Wire UserNameIdentityToken := do
  let policyId ← string
  let username ← string
  let password ← string
  let encryptionAlgorithm ← string
  pure { policyId, username, password, encryptionAlgorithm }

def certificateIdentityToken : Wire CertificateIdentityToken := do
  let policyId ← string
  let certificateData ← string
  pure { policyId, certificateData }

def nodeid : Wire NodeId := do
  let encodingMask ← byte
  match (encodingMask &&& 0x0F).toNat with
  | 0x00 =>
    let id ← byte
    pure ⟨0, .numeric id.toUInt32⟩
  | 0x01 =>
    let ns ← byte
    let id ← uint16
    pure ⟨ns.toUInt16, .numeric id.toUInt32⟩
  | 0x02 =>
    let ns ← uint16
    let id ← uint32
    pure ⟨ns, .numeric id⟩
  | 0x03 =>
    let ns ← uint16
    let s ← string
    pure ⟨ns, .string s⟩
  | 0x04 =>
    let ns ← uint16
    let bytes ← many byte 16
    pure ⟨ns, .guid bytes⟩
  | 0x05 =>
    let ns ← uint16
    let opaqueLen := (← int32).toInt
    if h : opaqueLen < 0 ∨ 16 < opaqueLen then
      refuse Status.badDecodingError
    else
      let data ← many byte opaqueLen.toNat
      pure ⟨ns, .opaqueId ⟨data.val, NodeIdentifier.length_le h data⟩⟩
  | _ => refuse Status.badDecodingError

def expandedNodeid : Wire ExpandedNodeId := do
  let src ← peek
  if src = [] then
    refuse Status.badDecodingError
  else
    let encodingMask := src.getD 0 0
    let nodeId ← nodeid
    let namespaceUri ← when (encodingMask &&& 0x80 ≠ 0) string MuString.null
    let serverIndex ← when (encodingMask &&& 0x40 ≠ 0) uint32 0
    pure { nodeId, namespaceUri, serverIndex }

def extensionObjectHeader : Wire (NodeId × Nat) := do
  let typeId ← nodeid
  let encodingMask ← byte
  if encodingMask = 0x00 then
    pure (typeId, 0)
  else if encodingMask = 0x01 ∨ encodingMask = 0x02 then
    let len := (← int32).toInt
    if len < 0 then refuse Status.badDecodingError else pure (typeId, len.toNat)
  else
    refuse Status.badDecodingError

def scalarValue : (type : BuiltinType) → Wire type.Carrier
  | .boolean => boolean
  | .sbyte => sbyte
  | .byte => byte
  | .int16 => int16
  | .uint16 => uint16
  | .int32 => int32
  | .uint32 | .float | .statusCode => uint32
  | .int64 | .dateTime => int64
  | .uint64 | .double => uint64
  | .string | .byteString => string
  | .nodeId => nodeid
  | .qualifiedName => qualifiedName
  | .localizedText => localizedText
  | .null | .guid | .xmlElement | .expandedNodeId | .extensionObject | .dataValue | .variant
  | .diagnosticInfo | .reserved _ => refuse Status.badDecodingError

def variantElements (profile : CodecProfile) (type : BuiltinType) (length : Nat) :
    Wire { es : List type.Carrier // es.length = length } := do
  if elementSize type = 0 then
    refuse Status.badDecodingError
  else
    let src ← peek
    if src.length < length ∨ sizeMax / elementSize type < length then
      refuse Status.badDecodingError
    else if profile.calloc length (elementSize type) = false then
      refuse Status.badOutOfMemory
    else
      many (scalarValue type) length

def variantDimensions : Wire Unit := do
  let dimCount := (← int32).toInt
  if dimCount < -1 then
    refuse Status.badDecodingError
  else
    let _ ← many int32 dimCount.toNat
    pure ()

def variant (profile : CodecProfile) : Wire Variant := do
  let encodingMask ← byte
  let type := BuiltinType.ofByte (encodingMask &&& 0x3F)
  let isArray := encodingMask &&& 0x80 ≠ 0
  let hasDimensions := encodingMask &&& 0x40 ≠ 0
  if hasDimensions ∧ ¬ isArray then
    refuse Status.badDecodingError
  else if type = .null then
    pure ⟨.null, .scalar (), 0⟩
  else if isArray then
    let length := (← int32).toInt
    if length < -1 then
      refuse Status.badDecodingError
    else if (profile.maxArrayLength : Int) < length then
      refuse Status.badEncodingLimitsExceeded
    else
      let elements ← when (0 < length) (some <$> variantElements profile type length.toNat) none
      when hasDimensions variantDimensions ()
      pure ⟨type, .array length elements, 0⟩
  else
    let v ← scalarValue type
    pure ⟨type, .scalar v, 0⟩

def datavalue (profile : CodecProfile) : Wire DataValue := do
  let encodingMask ← byte
  let value ← optional (encodingMask &&& 0x01 ≠ 0) (variant profile)
  let status ← optional (encodingMask &&& 0x02 ≠ 0) uint32
  let sourceTimestamp ← optional (encodingMask &&& 0x04 ≠ 0) int64
  let sourcePicoseconds ← optional (encodingMask &&& 0x10 ≠ 0) uint16
  let serverTimestamp ← optional (encodingMask &&& 0x08 ≠ 0) int64
  let serverPicoseconds ← optional (encodingMask &&& 0x20 ≠ 0) uint16
  pure { value, status, sourceTimestamp, sourcePicoseconds, serverTimestamp, serverPicoseconds }

end Wire

end MucOpcua
