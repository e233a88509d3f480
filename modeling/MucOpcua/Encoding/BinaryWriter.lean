import MucOpcua.Lib.Buffer
import MucOpcua.Lib.Sticky
import MucOpcua.Encoding.Types

/-!
# Binary writer

The writing halves of `binary_le.h`, `binary_writer.c` and `binary_string.c`. A pointer argument
that the code compares with NULL is an `Option`.
-/

namespace MucOpcua

/-! ## Little-endian fields -/

def lePutU16 (value : UInt16) : List UInt8 :=
  [(value &&& 0xFF).toUInt8, ((value >>> 8) &&& 0xFF).toUInt8]

def lePutU32 (value : UInt32) : List UInt8 :=
  [(value &&& 0xFF).toUInt8, ((value >>> 8) &&& 0xFF).toUInt8,
    ((value >>> 16) &&& 0xFF).toUInt8, ((value >>> 24) &&& 0xFF).toUInt8]

def lePutU64 (value : UInt64) : List UInt8 :=
  [(value &&& 0xFF).toUInt8, ((value >>> 8) &&& 0xFF).toUInt8,
    ((value >>> 16) &&& 0xFF).toUInt8, ((value >>> 24) &&& 0xFF).toUInt8,
    ((value >>> 32) &&& 0xFF).toUInt8, ((value >>> 40) &&& 0xFF).toUInt8,
    ((value >>> 48) &&& 0xFF).toUInt8, ((value >>> 56) &&& 0xFF).toUInt8]

/-! ## The writer -/

/-- `mu_binary_writer_t`. The buffer pointer may be NULL; if it is not, `length` bytes are there. -/
structure BinaryWriter where
  buffer : Option (List UInt8)
  length : Nat
  position : Nat
  status : StatusCode
  sized : ∀ b ∈ buffer, b.length = length

instance : DecidableEq BinaryWriter := fun v w =>
  decidable_of_iff (v.buffer = w.buffer ∧ v.length = w.length ∧ v.position = w.position ∧
      v.status = w.status) (by cases v; cases w; simp)

namespace BinaryWriter

/-- `mu_binary_writer_init` over a buffer that is not NULL. -/
def init (buffer : List UInt8) : BinaryWriter :=
  ⟨some buffer, buffer.length, 0, Status.good, MuString.sized_some buffer⟩

def put (w : BinaryWriter) (bs : List UInt8) : BinaryWriter :=
  { w with
    buffer := w.buffer.map fun b => Buffer.overwrite b w.position bs
    position := w.position + bs.length
    sized := by
      intro b hb
      obtain ⟨b', hb', rfl⟩ := Option.map_eq_some_iff.mp hb
      simpa using w.sized b' hb' }

def trip (w : BinaryWriter) (s : BadStatus) : BinaryWriter := { w with status := s.val }

def written (w : BinaryWriter) : List UInt8 := (w.buffer.getD []).take w.position

variable (w : BinaryWriter) (bs : List UInt8)

@[simp] theorem put_status : (w.put bs).status = w.status := rfl

@[simp] theorem put_length : (w.put bs).length = w.length := rfl

@[simp] theorem put_position : (w.put bs).position = w.position + bs.length := rfl

@[simp] theorem put_buffer_isSome : (w.put bs).buffer.isSome = w.buffer.isSome := by simp [put]

@[simp] theorem trip_status (s : BadStatus) : (w.trip s).status = s.val := rfl

@[simp] theorem put_nil : w.put [] = w := by
  simp [put]

theorem put_append (xs ys : List UInt8) : w.put (xs ++ ys) = (w.put xs).put ys := by
  simp [put,Buffer.overwrite_append,Nat.add_assoc,Function.comp_def]

end BinaryWriter

abbrev WriteM := EStateM BadStatus BinaryWriter

def writerFail (status : BadStatus) : WriteM Unit := do
  modify (·.trip status)
  throw status

def ensureSpace (count : Nat) : WriteM Unit := do
  let writer ← get
  if writer.status = Status.good ∧ writer.buffer.isSome ∧ writer.position ≤ writer.length ∧
      count ≤ writer.length - writer.position then
    return
  else if h : writer.status ≠ Status.good then
    throw ⟨writer.status, h⟩
  else if writer.buffer.isNone then
    writerFail Status.badInternalError
  else
    writerFail Status.badEncodingError

/-- The shape all fixed-width encoders share: check the space, store, advance. -/
def writeFixed (bytes : List UInt8) : WriteM Unit := do
  ensureSpace bytes.length
  modify (·.put bytes)

def booleanByte (value : Bool) : UInt8 := if value then 1 else 0

def binaryWriteBoolean (value : Bool) : WriteM Unit := writeFixed [booleanByte value]
def binaryWriteSbyte (value : Int8) : WriteM Unit := writeFixed [value.toUInt8]
def binaryWriteByte (value : UInt8) : WriteM Unit := writeFixed [value]
def binaryWriteUint16 (value : UInt16) : WriteM Unit := writeFixed (lePutU16 value)
def binaryWriteUint32 (value : UInt32) : WriteM Unit := writeFixed (lePutU32 value)
def binaryWriteUint64 (value : UInt64) : WriteM Unit := writeFixed (lePutU64 value)
def binaryWriteInt16 (value : Int16) : WriteM Unit := binaryWriteUint16 value.toUInt16
def binaryWriteInt32 (value : Int32) : WriteM Unit := binaryWriteUint32 value.toUInt32
def binaryWriteInt64 (value : Int64) : WriteM Unit := binaryWriteUint64 value.toUInt64
def binaryWriteFloat (value : UInt32) : WriteM Unit := binaryWriteUint32 value
def binaryWriteDouble (value : UInt64) : WriteM Unit := binaryWriteUint64 value
def binaryWriteStatuscode (value : StatusCode) : WriteM Unit := binaryWriteUint32 value

def writeIf (present : Prop) [Decidable present] (encode : WriteM Unit) : WriteM Unit :=
  if present then encode else pure ()

/-! ## Strings -/

/-- `mu_checked_memcpy_off` to the writer's cursor: a block that does not fit is not copied, and
nothing but the result says so. -/
def writeBlock (block : List UInt8) (overflow : BadStatus) : WriteM Unit := do
  let writer ← get
  if writer.length < writer.position ∨ writer.length - writer.position < block.length then
    throw overflow
  else
    set (writer.put block)

def binaryWriteString (value : Option MuString) : WriteM Unit :=
  match value with
  | none => binaryWriteInt32 (-1)
  | some s =>
    if s.length = -1 then
      binaryWriteInt32 (-1)
    else if s.length < 0 then
      throw Status.badEncodingError
    else if (maxEncodedStringLength : Int) < s.length then
      throw Status.badEncodingLimitsExceeded
    else do
      binaryWriteInt32 (Int32.ofInt s.length)
      writeIf (0 < s.length) (writeBlock s.bytes Status.badEncodingError)

def binaryWriteBytestring (value : Option MuString) : WriteM Unit := binaryWriteString value

/-! ## Structures made of fixed-width fields and strings -/

def binaryWriteRange (value : Option Range) : WriteM Unit :=
  match value with
  | none => throw Status.badInternalError
  | some range => do
    binaryWriteDouble range.low
    binaryWriteDouble range.high

/-- The encoding mask of a LocalizedText: bit 0 for the locale, bit 1 for the text. -/
def localizedTextMask (value : LocalizedText) : UInt8 :=
  (if 0 ≤ value.locale.length then 0x01 else 0) ||| (if 0 ≤ value.text.length then 0x02 else 0)

def binaryWriteLocalizedText (value : Option LocalizedText) : WriteM Unit :=
  match value with
  | none => throw Status.badInternalError
  | some text => do
    let mask := localizedTextMask text
    binaryWriteByte mask
    writeIf (mask &&& 0x01 ≠ 0) (binaryWriteString (some text.locale))
    writeIf (mask &&& 0x02 ≠ 0) (binaryWriteString (some text.text))

def binaryWriteEuInformation (value : Option EuInformation) : WriteM Unit :=
  match value with
  | none => throw Status.badInternalError
  | some eu => do
    binaryWriteString (some eu.namespaceUri)
    binaryWriteInt32 eu.unitId
    binaryWriteLocalizedText (some eu.displayName)
    binaryWriteLocalizedText (some eu.description)

def binaryWriteQualifiedName (value : Option QualifiedName) : WriteM Unit :=
  match value with
  | none => throw Status.badEncodingError
  | some name => do
    binaryWriteUint16 name.namespaceIndex
    binaryWriteString (some name.name)

end MucOpcua
