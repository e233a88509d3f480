import MucOpcua.Core.MessageChunk
import MucOpcua.Services.ServiceHeader

/-!
# Event filters

The EventFilter half of `filter_reader.c` and the compact where clause of `event_filter.h`.
-/

namespace MucOpcua

/-! ## The compact where clause -/

/-- `MU_INTERN_MAX_WHERE_ELEMENTS`, `MU_INTERN_MAX_WHERE_OPERANDS` and
`MU_INTERN_WHERE_BLOB_BYTES`, in the range of the fields that count them. -/
structure FilterCapacities where
  maxWhereElements : Nat
  maxWhereOperands : Nat
  whereBlobBytes : Nat
  elements_lt : maxWhereElements < 2 ^ 8
  operands_lt : maxWhereOperands < 2 ^ 8
  blob_lt : whereBlobBytes < 2 ^ 16

def FilterCapacities.default : FilterCapacities :=
  ⟨8, 16, 64, by decide, by decide, by decide⟩

inductive WhereOperandKind where
  | element | literal | attribute | unsupported
  deriving DecidableEq, Repr

/-- `mu_where_operand_t`; `num` holds the 64 bits of the union. -/
structure WhereOperand where
  kind : WhereOperandKind
  field : UInt8
  litType : UInt8
  blobOff : UInt16
  blobLen : UInt16
  elementIndex : UInt32
  nodeidNs : UInt16
  num : UInt64
  deriving DecidableEq

def WhereOperand.zero : WhereOperand := ⟨.element, 0, 0, 0, 0, 0, 0, 0⟩

structure WhereElement where
  op : UInt8
  operandBase : UInt8
  operandCount : UInt8
  deriving DecidableEq

/-- `mu_where_clause_t`. A clause without elements matches every event. -/
structure WhereClause where
  elements : List WhereElement
  operands : List WhereOperand
  blob : List UInt8
  elementCount : UInt8
  operandCount : UInt8
  blobLen : UInt16
  deriving DecidableEq

def WhereClause.empty : WhereClause := ⟨[], [], [], 0, 0, 0⟩

/-! ## Event fields -/

/-- The names of the table in `mu_event_field_from_name`, in the order of `mu_event_field_t`. -/
def eventFieldNames : List (List UInt8) :=
  [ascii "EventId", ascii "EventType", ascii "SourceNode", ascii "SourceName", ascii "Time",
    ascii "ReceiveTime", ascii "LocalTime", ascii "Message", ascii "Severity", ascii "Status",
    ascii "ActionTimeStamp", ascii "ServerId", ascii "ClientAuditEntryId", ascii "ClientUserId",
    ascii "AttributeId", ascii "OldValue", ascii "NewValue", ascii "SecureChannelId",
    ascii "SessionId"]

/-- `mu_event_field_from_name`; 0xFF is `MU_EVENT_FIELD_NONE`. -/
def eventFieldFromName (name : MuString) : UInt8 :=
  if name.data.isNone ∨ name.length ≤ 0 then 0xFF
  else
    match eventFieldNames.findIdx? (· = name.bytes) with
    | some i => UInt8.ofNat i
    | none => 0xFF

/-- The loop over the BrowsePath in `read_simple_attribute_fields`: the last name. -/
def readBrowsePath : Nat → MuString → ReadM MuString
  | 0, lastName => return lastName
  | n + 1, _ => do
    let _namespaceIndex ← binaryReadUint16
    let name ← binaryReadString
    readBrowsePath n name

def readSimpleAttributeFields : ReadM MuString := do
  let _typeDef ← binaryReadNodeid
  let bpCount := (← binaryReadInt32).toInt
  if bpCount < 0 then throw Status.badDecodingError
  let lastName ← readBrowsePath bpCount.toNat MuString.null
  let _attributeId ← binaryReadUint32
  let _indexRange ← binaryReadString
  readerStatus
  return lastName

/-! ## Literals -/

def doubleOfFloat (bits : UInt32) : UInt64 :=
  let sign := (bits >>> 31).toUInt64 <<< 63
  let exponent := (bits >>> 23) &&& 0xFF
  let fraction := bits &&& 0x7FFFFF
  if exponent = 0xFF then
    let quiet : UInt64 := if fraction = 0 then 0 else 0x8000000000000
    sign ||| (0x7FF0000000000000 : UInt64) ||| quiet ||| (fraction.toUInt64 <<< 29)
  else if exponent ≠ 0 then
    sign ||| ((exponent.toUInt64 + 896) <<< 52) ||| (fraction.toUInt64 <<< 29)
  else if fraction = 0 then sign
  else
    let top := fraction.toNat.log2
    sign ||| (UInt64.ofNat (top + 874) <<< 52) |||
      (UInt64.ofNat ((fraction.toNat - 2 ^ top) * 2 ^ (52 - top)))

/-- `where_blob_append`: the place of the payload, or nothing if it does not fit. -/
def whereBlobAppend (caps : FilterCapacities) (clause : WhereClause) (payload : MuString) :
    Option (UInt16 × UInt16 × WhereClause) :=
  let len := payload.length.toNat
  if caps.whereBlobBytes < clause.blobLen.toNat + len then none
  else
    some (clause.blobLen, UInt16.ofNat len,
      { clause with
        blob := clause.blob ++ payload.bytes
        blobLen := clause.blobLen + UInt16.ofNat len })

def WhereOperand.number (type : BuiltinType) (bits : UInt64) : WhereOperand :=
  { WhereOperand.zero with kind := .literal, litType := type.toByte, num := bits }

/-- A literal whose payload goes to the blob; the flag says whether it fitted. -/
def blobOperand (caps : FilterCapacities) (clause : WhereClause) (out : WhereOperand)
    (payload : MuString) : Bool × WhereOperand × WhereClause :=
  match whereBlobAppend caps clause payload with
  | none => (false, out, clause)
  | some (blobOff, blobLen, clause) => (true, { out with blobOff, blobLen }, clause)

def literalToOperand (caps : FilterCapacities) (clause : WhereClause) (value : Variant) :
    Bool × WhereOperand × WhereClause :=
  let out := { WhereOperand.zero with kind := .literal, litType := value.type.toByte }
  let number (bits : UInt64) := (true, WhereOperand.number value.type bits, clause)
  match value.type, value.value with
  | .boolean, .scalar v => number (Bool.toUInt64 v)
  | .sbyte, .scalar v => number (Int8.toInt64 v).toUInt64
  | .byte, .scalar v => number (UInt8.toUInt64 v)
  | .int16, .scalar v => number (Int16.toInt64 v).toUInt64
  | .uint16, .scalar v => number (UInt16.toUInt64 v)
  | .int32, .scalar v => number (Int32.toInt64 v).toUInt64
  | .uint32, .scalar v => number (UInt32.toUInt64 v)
  | .int64, .scalar v => number (Int64.toUInt64 v)
  | .uint64, .scalar v => number v
  | .dateTime, .scalar v => number (Int64.toUInt64 v)
  | .statusCode, .scalar v => number (UInt32.toUInt64 v)
  | .float, .scalar v => number (doubleOfFloat v)
  | .double, .scalar v => number v
  | .string, .scalar v => blobOperand caps clause out v
  | .byteString, .scalar v => blobOperand caps clause out v
  | .nodeId, .scalar v =>
    let out := { out with nodeidNs := NodeId.namespaceIndex v }
    match NodeId.identifier v with
    | .numeric id => (true, { out with num := id.toUInt64 }, clause)
    | .string id => blobOperand caps clause out id
    | _ => (true, { out with kind := .unsupported }, clause)
  | _, _ => (true, { out with kind := .unsupported }, clause)

/-! ## Decoding a where clause -/

def idElementOperand : UInt32 := 594
def idLiteralOperand : UInt32 := 597
def idSimpleAttributeOperand : UInt32 := 603

def ensureReaderBytesRemaining (length : Nat) : ReadM Unit := do
  let reader ← get
  if 0 < length ∧ (reader.length < reader.position ∨ reader.length - reader.position < length) then
    throw Status.badDecodingError

def skipExtensionObjectBody (length : Nat) : ReadM Unit := do
  ensureReaderBytesRemaining length
  modify (·.advance length)

/-- `decode_where_operand`: the operand, the clause with its payload and whether the clause is
rejected. -/
def decodeWhereOperand (caps : FilterCapacities) (profile : CodecProfile) (clause : WhereClause)
    (reject : Bool) : ReadM (WhereOperand × WhereClause × Bool) := do
  let (extId, extLen) ← binaryReadExtensionObjectHeader
  if extId = numericNodeId idElementOperand then
    let elementIndex ← binaryReadUint32
    return ({ WhereOperand.zero with kind := .element, elementIndex }, clause, reject)
  else if extId = numericNodeId idLiteralOperand then
    let value ← binaryReadVariant profile
    readerStatus
    if value.value.isArray then
      return ({ WhereOperand.zero with kind := .unsupported }, clause, true)
    else
      match literalToOperand caps clause value with
      | (true, out, clause) => return (out, clause, reject)
      | (false, out, clause) => return ({ out with kind := .unsupported }, clause, true)
  else if extId = numericNodeId idSimpleAttributeOperand then
    let lastName ← readSimpleAttributeFields
    readerStatus
    return ({ WhereOperand.zero with kind := .attribute, field := eventFieldFromName lastName },
      clause, reject)
  else
    skipExtensionObjectBody extLen
    return ({ WhereOperand.zero with kind := .unsupported }, clause, true)

def whereOperatorSupported (op : UInt32) : Bool := op ≤ 11 ∨ op = 14

/-- The locals of `decode_where_clause`. -/
structure WhereDecoder where
  clause : WhereClause
  filterResult : StatusCode
  reject : Bool
  overflow : Bool
  opIndex : Nat

def WhereDecoder.storeOperand (caps : FilterCapacities) (d : WhereDecoder) (storeEl : Bool)
    (operand : WhereOperand) : WhereDecoder :=
  if storeEl ∧ d.opIndex < caps.maxWhereOperands then
    { d with
      clause := { d.clause with operands := d.clause.operands ++ [operand] }
      opIndex := d.opIndex + 1 }
  else { d with overflow := true, opIndex := d.opIndex + 1 }

/-- The inner loop of `decode_where_clause`. -/
def decodeWhereOperands (caps : FilterCapacities) (profile : CodecProfile) (storeEl : Bool) :
    Nat → WhereDecoder → ReadM WhereDecoder
  | 0, d => return d
  | n + 1, d => do
    let (operand, clause, reject) ← decodeWhereOperand caps profile d.clause d.reject
    decodeWhereOperands caps profile storeEl n
      (({ d with clause, reject } : WhereDecoder).storeOperand caps storeEl operand)

def WhereDecoder.checkOperator (d : WhereDecoder) (op : UInt32) : WhereDecoder :=
  if whereOperatorSupported op then d
  else
    { d with
      reject := true
      filterResult := if d.filterResult = Status.good
        then Status.badFilterOperatorUnsupported.val else d.filterResult }

def WhereDecoder.storeElement (d : WhereDecoder) (storeEl : Bool) (op : UInt32) (argCount : Nat) :
    WhereDecoder :=
  if storeEl then
    { d with
      clause := { d.clause with
        elements := d.clause.elements ++
          [⟨op.toUInt8, UInt8.ofNat d.opIndex, UInt8.ofNat argCount⟩] } }
  else d

/-- The outer loop of `decode_where_clause`, from element `i` on. -/
def decodeWhereElements (caps : FilterCapacities) (profile : CodecProfile) :
    Nat → Nat → WhereDecoder → ReadM WhereDecoder
  | 0, _, d => return d
  | n + 1, i, d => do
    let op ← binaryReadUint32
    let argCount := (← binaryReadInt32).toInt
    if argCount < 0 then throw Status.badDecodingError
    let d := d.checkOperator op
    let storeEl := !d.overflow && decide (i < caps.maxWhereElements)
    let d ← decodeWhereOperands caps profile storeEl argCount.toNat
      (d.storeElement storeEl op argCount.toNat)
    decodeWhereElements caps profile n (i + 1) d

/-- The end of `decode_where_clause`. The clause is left empty if anything was wrong with it, but
only operators and capacities set the filter result. -/
def WhereDecoder.finish (d : WhereDecoder) (elementCount : Nat) : WhereClause × StatusCode :=
  let filterResult := if d.overflow ∧ d.filterResult = Status.good
    then Status.badTooManyOperations.val else d.filterResult
  if d.reject ∨ d.overflow ∨ filterResult ≠ Status.good then
    ({ d.clause with elementCount := 0, operandCount := 0, blobLen := 0 }, filterResult)
  else
    ({ d.clause with
        elementCount := UInt8.ofNat elementCount
        operandCount := UInt8.ofNat d.opIndex }, filterResult)

/-- The locals of `decode_where_clause` at the start of its loop. -/
def WhereDecoder.start (caps : FilterCapacities) (filterResult : StatusCode) (elementCount : Nat) :
    WhereDecoder :=
  ⟨WhereClause.empty, filterResult, false, decide (caps.maxWhereElements < elementCount), 0⟩

def decodeWhereClause (caps : FilterCapacities) (profile : CodecProfile)
    (filterResult : StatusCode) : ReadM (WhereClause × StatusCode) := do
  let elementCount := (← binaryReadInt32).toInt
  if elementCount < 0 then throw Status.badDecodingError
  let d ← decodeWhereElements caps profile elementCount.toNat 0
    (.start caps filterResult elementCount.toNat)
  readerStatus
  return d.finish elementCount.toNat

/-! ## The filter -/

/-- What `read_event_filter_body` leaves in the create body. -/
structure EventFilterBody where
  selectClauses : List UInt8
  whereClause : WhereClause
  filterResult : StatusCode
  deriving DecidableEq

def readSelectClauses : Nat → Nat → List UInt8 → ReadM (List UInt8)
  | 0, _, clauses => return clauses
  | n + 1, i, clauses => do
    let lastName ← readSimpleAttributeFields
    readSelectClauses n (i + 1)
      (if i < 8 then clauses ++ [eventFieldFromName lastName] else clauses)

def readEventFilterBody (caps : FilterCapacities) (profile : CodecProfile) :
    ReadM EventFilterBody := do
  let selectCount := (← binaryReadInt32).toInt
  if selectCount < 0 then throw Status.badDecodingError
  if 100 < selectCount then throw Status.badEventFilterInvalid
  let selectClauses ← readSelectClauses selectCount.toNat 0 []
  let (whereClause, filterResult) ← decodeWhereClause caps profile Status.good
  return { selectClauses, whereClause, filterResult }

end MucOpcua
