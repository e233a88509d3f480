import MucOpcua.Lib.Sticky
import MucOpcua.Encoding.Types

/-!
# Binary reader

`binary_le.h`, `binary_reader.c` and `binary_string.c`: the cursor over a received buffer and the
decoders of the fixed-width types and of strings.
-/

namespace MucOpcua

/-! ## Little-endian fields -/

def leGetU16 (src : List UInt8) : UInt16 :=
  (src.getD 0 0).toUInt16 ||| ((src.getD 1 0).toUInt16 <<< 8)

def leGetU32 (src : List UInt8) : UInt32 :=
  (src.getD 0 0).toUInt32 ||| ((src.getD 1 0).toUInt32 <<< 8) |||
    ((src.getD 2 0).toUInt32 <<< 16) ||| ((src.getD 3 0).toUInt32 <<< 24)

def leGetU64 (src : List UInt8) : UInt64 :=
  (src.getD 0 0).toUInt64 ||| ((src.getD 1 0).toUInt64 <<< 8) |||
    ((src.getD 2 0).toUInt64 <<< 16) ||| ((src.getD 3 0).toUInt64 <<< 24) |||
    ((src.getD 4 0).toUInt64 <<< 32) ||| ((src.getD 5 0).toUInt64 <<< 40) |||
    ((src.getD 6 0).toUInt64 <<< 48) ||| ((src.getD 7 0).toUInt64 <<< 56)

/-- `SIZE_MAX` of a 64-bit build. -/
def sizeMax : Nat := 2 ^ 64 - 1

/-! ## The reader -/

/-- `mu_binary_reader_t`. The buffer pointer may be NULL; if it is not, `length` bytes are there. -/
structure BinaryReader where
  buffer : Option (List UInt8)
  length : Nat
  position : Nat
  status : StatusCode
  sized : ∀ b ∈ buffer, b.length = length
  deriving DecidableEq

namespace BinaryReader

/-- `mu_binary_reader_init` over a buffer that is not NULL. -/
def init (buffer : List UInt8) : BinaryReader :=
  ⟨some buffer, buffer.length, 0, Status.good, MuString.sized_some buffer⟩

/-- What the cursor points at, `buffer + position`. -/
def rest (r : BinaryReader) : List UInt8 := (r.buffer.getD []).drop r.position

def advance (r : BinaryReader) (n : Nat) : BinaryReader := { r with position := r.position + n }

def trip (r : BinaryReader) (s : BadStatus) : BinaryReader := { r with status := s.val }

variable (r : BinaryReader) (n : Nat)

@[simp] theorem advance_status : (r.advance n).status = r.status := rfl

@[simp] theorem advance_buffer : (r.advance n).buffer = r.buffer := rfl

@[simp] theorem advance_length : (r.advance n).length = r.length := rfl

@[simp] theorem advance_position : (r.advance n).position = r.position + n := rfl

@[simp] theorem trip_status (s : BadStatus) : (r.trip s).status = s.val := rfl

theorem advance_advance (m n : Nat) : (r.advance m).advance n = r.advance (m + n) := by
  simp [advance,Nat.add_assoc]

@[simp] theorem advance_zero : r.advance 0 = r := rfl

end BinaryReader

abbrev ReadM := EStateM BadStatus BinaryReader

def readerFail {α : Type} (status : BadStatus) : ReadM α := do
  modify (·.trip status)
  throw status

def ensureBytes (count : Nat) : ReadM Unit := do
  let reader ← get
  if reader.status = Status.good ∧ reader.buffer.isSome ∧ reader.position ≤ reader.length ∧
      count ≤ reader.length - reader.position then
    return
  else if h : reader.status ≠ Status.good then
    throw ⟨reader.status, h⟩
  else if reader.buffer.isNone then
    readerFail Status.badInternalError
  else
    readerFail Status.badDecodingError

/-- The shape all fixed-width decoders share: check the space, decode at the cursor, advance. -/
def readFixed {α : Type} (width : Nat) (decode : List UInt8 → α) : ReadM α := do
  ensureBytes width
  let reader ← get
  set (reader.advance width)
  return decode reader.rest

def binaryReadBoolean : ReadM Bool := readFixed 1 fun src => src.getD 0 0 ≠ 0
def binaryReadSbyte : ReadM Int8 := readFixed 1 fun src => (src.getD 0 0).toInt8
def binaryReadByte : ReadM UInt8 := readFixed 1 fun src => src.getD 0 0
def binaryReadInt16 : ReadM Int16 := readFixed 2 fun src => (leGetU16 src).toInt16
def binaryReadUint16 : ReadM UInt16 := readFixed 2 leGetU16
def binaryReadInt32 : ReadM Int32 := readFixed 4 fun src => (leGetU32 src).toInt32
def binaryReadUint32 : ReadM UInt32 := readFixed 4 leGetU32
def binaryReadInt64 : ReadM Int64 := readFixed 8 fun src => (leGetU64 src).toInt64
def binaryReadUint64 : ReadM UInt64 := readFixed 8 leGetU64

def binaryReadFloat : ReadM UInt32 := binaryReadUint32
def binaryReadDouble : ReadM UInt64 := binaryReadUint64
def binaryReadStatuscode : ReadM StatusCode := binaryReadUint32

/-- Unlike the other fixed-width decoders this one also checks what it decoded, after advancing. -/
def binaryReadArrayLength : ReadM Int32 := do
  ensureBytes 4
  let reader ← get
  let decodedLength := (leGetU32 reader.rest).toInt32
  let reader := reader.advance 4
  set reader
  if decodedLength.toInt < -1 ∨
      (0 < decodedLength.toInt ∧ sizeMax - reader.position < decodedLength.toInt.toNat) then
    readerFail Status.badDecodingError
  else
    return decodedLength

/-! ## Strings -/

def ensureStringPayload (length : Int) : ReadM Unit := do
  let reader ← get
  if length ≤ 0 then
    return
  else if reader.length < reader.position then
    readerFail Status.badDecodingError
  else if reader.length - reader.position < length.toNat then
    readerFail Status.badDecodingError
  else
    return

def binaryReadString : ReadM MuString := do
  let length := (← binaryReadInt32).toInt
  if length = -1 then
    return MuString.null
  else if length < 0 then
    throw Status.badDecodingError
  else if (maxEncodedStringLength : Int) < length then
    throw Status.badEncodingLimitsExceeded
  else
    ensureStringPayload length
    let reader ← get
    set (reader.advance length.toNat)
    return MuString.ofBytes (reader.rest.take length.toNat)

def binaryReadBytestring : ReadM MuString := binaryReadString

/-! ## Structures made of fixed-width fields and strings -/

def readerStatus : ReadM Unit := do
  let reader ← get
  if h : reader.status ≠ Status.good then throw ⟨reader.status, h⟩

def binaryReadUsernameIdentityToken : ReadM UserNameIdentityToken := do
  readerStatus
  let policyId ← binaryReadString
  let username ← binaryReadString
  let password ← binaryReadBytestring
  let encryptionAlgorithm ← binaryReadString
  return { policyId, username, password, encryptionAlgorithm }

def binaryReadCertificateIdentityToken : ReadM CertificateIdentityToken := do
  readerStatus
  let policyId ← binaryReadString
  let certificateData ← binaryReadBytestring
  return { policyId, certificateData }

def binaryReadRange : ReadM Range := do
  let low ← binaryReadDouble
  let high ← binaryReadDouble
  return { low, high }

/-- Decode a field when its mask bit is set, and give it its default otherwise. -/
def readIf {α : Type} (present : Prop) [Decidable present] (decode : ReadM α) (absent : α) :
    ReadM α :=
  if present then decode else pure absent

def binaryReadLocalizedText : ReadM LocalizedText := do
  let mask ← binaryReadByte
  let locale ← readIf (mask &&& 0x01 ≠ 0) binaryReadString MuString.null
  let text ← readIf (mask &&& 0x02 ≠ 0) binaryReadString MuString.null
  return { locale, text }

def binaryReadEuInformation : ReadM EuInformation := do
  let namespaceUri ← binaryReadString
  let unitId ← binaryReadInt32
  let displayName ← binaryReadLocalizedText
  let description ← binaryReadLocalizedText
  return { namespaceUri, unitId, displayName, description }

def binaryReadQualifiedName : ReadM QualifiedName := do
  let namespaceIndex ← binaryReadUint16
  let name ← binaryReadString
  return { namespaceIndex, name }

/-- A counted loop of one decoder, as the identifier, array and dimension loops use it. -/
def readMany {α : Type} (decode : ReadM α) : (n : Nat) → ReadM { xs : List α // xs.length = n }
  | 0 => return ⟨[], rfl⟩
  | n + 1 => do
    let x ← decode
    let xs ← readMany decode n
    return ⟨x :: xs.val, by simp [xs.property]⟩

end MucOpcua
