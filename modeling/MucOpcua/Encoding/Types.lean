import MucOpcua.Status

/-!
# Built-in types

The value types of `types.h`. A C pointer with a length is carried together with the facts that
make it valid, so a string that claims more bytes than it points to cannot be built. Floats are
kept as their bit patterns: the codec only copies them.
-/

namespace MucOpcua

def maxEncodedStringLength : Nat := 4096

/-- `mu_string_t` and `mu_bytestring_t`: an int32 length and a pointer that may be NULL. -/
structure MuString where
  length : Int
  data : Option (List UInt8)
  sized : ∀ d ∈ data, d.length = length.toNat
  present : 0 < length → data.isSome
  deriving DecidableEq

namespace MuString

def null : MuString := ⟨-1, none, by simp, by simp⟩

/-- The string of a zeroed structure: no data, but not the null string. -/
def zero : MuString := ⟨0, none, by simp, by simp⟩

def ofBytes (bs : List UInt8) : MuString := ⟨bs.length, some bs, by simp, by simp⟩

theorem sized_some (bs : List UInt8) : ∀ d ∈ some bs, d.length = bs.length := by
  simp

def bytes (s : MuString) : List UInt8 := s.data.getD []

theorem bytes_length (s : MuString) : s.bytes.length = s.length.toNat := by
  cases hd : s.data with
  | none =>
    have hzero : ¬ 0 < s.length := fun hpos => by simpa [hd] using s.present hpos
    simp only [bytes,hd,Option.getD_none,List.length_nil]
    omega
  | some d => simpa only [bytes,hd,Option.getD_some] using s.sized d (by simp [hd])

theorem length_bytes {s : MuString} (h : 0 ≤ s.length) : (s.bytes.length : Int) = s.length := by
  rw [bytes_length,Int.toNat_of_nonneg h]

end MuString

/-- The identifier union of `mu_nodeid_t` with its tag. `unknown` stands for a tag outside the
enumeration, which the encoders refuse. -/
inductive NodeIdentifier where
  | numeric (id : UInt32)
  | string (s : MuString)
  | guid (bytes : { bs : List UInt8 // bs.length = 16 })
  | opaqueId (data : { bs : List UInt8 // bs.length ≤ 16 })
  | unknown (identifierType : UInt32)
  deriving DecidableEq

theorem NodeIdentifier.length_le {n : Int} (h : ¬ (n < 0 ∨ 16 < n))
    (data : { bs : List UInt8 // bs.length = n.toNat }) : data.val.length ≤ 16 := by
  have := data.property
  omega

structure NodeId where
  namespaceIndex : UInt16
  identifier : NodeIdentifier
  deriving DecidableEq

def NodeId.null : NodeId := ⟨0, .numeric 0⟩

structure ExpandedNodeId where
  nodeId : NodeId
  namespaceUri : MuString
  serverIndex : UInt32
  deriving DecidableEq

structure QualifiedName where
  namespaceIndex : UInt16
  name : MuString
  deriving DecidableEq

structure LocalizedText where
  locale : MuString
  text : MuString
  deriving DecidableEq

structure Range where
  low : UInt64
  high : UInt64
  deriving DecidableEq

structure EuInformation where
  namespaceUri : MuString
  unitId : Int32
  displayName : LocalizedText
  description : LocalizedText
  deriving DecidableEq

structure UserNameIdentityToken where
  policyId : MuString
  username : MuString
  password : MuString
  encryptionAlgorithm : MuString
  deriving DecidableEq

structure CertificateIdentityToken where
  policyId : MuString
  certificateData : MuString
  deriving DecidableEq

structure Argument where
  name : MuString
  dataType : NodeId
  valueRank : Int32
  description : LocalizedText
  deriving DecidableEq

/-- `mu_diagnostics_summary_t`: twelve UInt32 counters, in the order of the structure. -/
structure DiagnosticsSummary where
  counters : { cs : List UInt32 // cs.length = 12 }
  deriving DecidableEq

theorem DiagnosticsSummary.length_zero : (List.replicate 12 (0 : UInt32)).length = 12 := rfl

structure ServerStatus where
  startTime : Int64
  currentTime : Int64
  state : Int32
  productUri : MuString
  manufacturerName : MuString
  productName : MuString
  softwareVersion : MuString
  buildNumber : MuString
  buildDate : Int64
  deriving DecidableEq

/-- `mu_builtin_type_t`. The decoder casts any six-bit number to the enumeration; `reserved` keeps
those that name no built-in type. -/
inductive BuiltinType where
  | null | boolean | sbyte | byte | int16 | uint16 | int32 | uint32 | int64 | uint64
  | float | double | string | dateTime | guid | byteString | xmlElement | nodeId
  | expandedNodeId | statusCode | qualifiedName | localizedText | extensionObject
  | dataValue | variant | diagnosticInfo
  | reserved (code : UInt8)
  deriving DecidableEq

namespace BuiltinType

/-- The cast of the decoder, `(mu_builtin_type_t)type`. -/
def ofByte (b : UInt8) : BuiltinType :=
  match b.toNat with
  | 0 => .null | 1 => .boolean | 2 => .sbyte | 3 => .byte | 4 => .int16 | 5 => .uint16
  | 6 => .int32 | 7 => .uint32 | 8 => .int64 | 9 => .uint64 | 10 => .float | 11 => .double
  | 12 => .string | 13 => .dateTime | 14 => .guid | 15 => .byteString | 16 => .xmlElement
  | 17 => .nodeId | 18 => .expandedNodeId | 19 => .statusCode | 20 => .qualifiedName
  | 21 => .localizedText | 22 => .extensionObject | 23 => .dataValue | 24 => .variant
  | 25 => .diagnosticInfo
  | _ => .reserved b

/-- The cast of the encoder, `(opcua_byte_t)variant->type`. -/
def toByte : BuiltinType → UInt8
  | .null => 0 | .boolean => 1 | .sbyte => 2 | .byte => 3 | .int16 => 4 | .uint16 => 5
  | .int32 => 6 | .uint32 => 7 | .int64 => 8 | .uint64 => 9 | .float => 10 | .double => 11
  | .string => 12 | .dateTime => 13 | .guid => 14 | .byteString => 15 | .xmlElement => 16
  | .nodeId => 17 | .expandedNodeId => 18 | .statusCode => 19 | .qualifiedName => 20
  | .localizedText => 21 | .extensionObject => 22 | .dataValue => 23 | .variant => 24
  | .diagnosticInfo => 25
  | .reserved code => code

end BuiltinType

/-- In-memory stride of an array element, zero for a type without one. The sizes are those of a
64-bit build. -/
def elementSize : BuiltinType → Nat
  | .boolean | .sbyte | .byte => 1
  | .int16 | .uint16 => 2
  | .int32 | .uint32 | .float | .statusCode => 4
  | .int64 | .uint64 | .double | .dateTime => 8
  | .string | .byteString => 16
  | .qualifiedName => 24
  | .nodeId | .localizedText => 32
  | _ => 0

/-- What the `value.array` pointer of an ExtensionObject variant refers to. `other` is a NULL
pointer or a structure the encoder has no writer for. -/
inductive ExtensionStruct where
  | argument (a : Argument)
  | diagnosticsSummary (d : DiagnosticsSummary)
  | serverStatus (s : ServerStatus)
  | other
  deriving DecidableEq

def BuiltinType.Carrier : BuiltinType → Type
  | .boolean => Bool
  | .sbyte => Int8
  | .byte => UInt8
  | .int16 => Int16
  | .uint16 => UInt16
  | .int32 => Int32
  | .uint32 | .statusCode | .float => UInt32
  | .int64 | .dateTime => Int64
  | .uint64 | .double => UInt64
  | .string | .byteString => MuString
  | .nodeId => NodeId
  | .qualifiedName => QualifiedName
  | .localizedText => LocalizedText
  | .extensionObject => ExtensionStruct
  | _ => Unit

/-- The value union of `mu_variant_t`: one value, or a pointer to `array_length` elements. -/
inductive VariantValue (type : BuiltinType) where
  | scalar (v : type.Carrier)
  | array (length : Int) (elements : Option { es : List type.Carrier // es.length = length.toNat })

structure Variant where
  type : BuiltinType
  value : VariantValue type
  extEncodingId : UInt32

/-- `memset(&value, 0, sizeof(value))`. -/
def Variant.zero : Variant := ⟨.null, .scalar (), 0⟩

def VariantValue.isArray {type : BuiltinType} : VariantValue type → Bool
  | .scalar _ => false
  | .array _ _ => true

/-- `mu_datavalue_t`; an optional field is present exactly when its `has_` flag is set. -/
structure DataValue where
  value : Option Variant
  status : Option StatusCode
  sourceTimestamp : Option Int64
  sourcePicoseconds : Option UInt16
  serverTimestamp : Option Int64
  serverPicoseconds : Option UInt16

end MucOpcua
