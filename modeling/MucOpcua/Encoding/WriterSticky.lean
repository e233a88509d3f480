import MucOpcua.Encoding.Script

/-!
# Which write failures stick

The leaves of every encoder, and from them the discipline of a sequence of encoder calls: a
fixed-width field that does not fit is kept in the writer's status, while a string or a structure
body that does not fit and a value that cannot be encoded are only told to the caller.
-/

namespace MucOpcua

open Sticky

/-! ## The leaves of each encoder -/

def stringLeaves (value : Option MuString) : List Leaf :=
  match value with
  | none => [.field (lePutU32 (-1 : Int32).toUInt32)]
  | some s =>
    if s.length = -1 then [.field (lePutU32 (-1 : Int32).toUInt32)]
    else if s.length < 0 then [.refusal Status.badEncodingError]
    else if (maxEncodedStringLength : Int) < s.length then
      [.refusal Status.badEncodingLimitsExceeded]
    else
      .field (lePutU32 (Int32.ofInt s.length).toUInt32) ::
        if 0 < s.length then [.block s.bytes Status.badEncodingError] else []

theorem binaryWriteString_emits (value : Option MuString) :
    Emits (binaryWriteString value) (stringLeaves value) := by
  cases value with
  | none => exact writeFixed_emits _
  | some s =>
    refine Emits.ite (fun _ => writeFixed_emits _) fun _ => ?_
    refine Emits.ite (fun _ => Emits.throw _) fun _ => ?_
    refine Emits.ite (fun _ => Emits.throw _) fun _ => ?_
    exact (writeFixed_emits _).bind ((writeBlock_emits _ _).writeIf _)

def rangeLeaves : Option Range → List Leaf
  | none => [.refusal Status.badInternalError]
  | some range => [.field (lePutU64 range.low), .field (lePutU64 range.high)]

theorem binaryWriteRange_emits (value : Option Range) :
    Emits (binaryWriteRange value) (rangeLeaves value) := by
  cases value with
  | none => exact Emits.throw _
  | some range => exact (writeFixed_emits _).bind (writeFixed_emits _)

def localizedTextLeaves : Option LocalizedText → List Leaf
  | none => [.refusal Status.badInternalError]
  | some text =>
    .field [localizedTextMask text] ::
      ((if localizedTextMask text &&& 0x01 ≠ 0 then stringLeaves (some text.locale) else []) ++
        if localizedTextMask text &&& 0x02 ≠ 0 then stringLeaves (some text.text) else [])

theorem binaryWriteLocalizedText_emits (value : Option LocalizedText) :
    Emits (binaryWriteLocalizedText value) (localizedTextLeaves value) := by
  cases value with
  | none => exact Emits.throw _
  | some text =>
    exact (writeFixed_emits _).bind <|
      ((binaryWriteString_emits _).writeIf _).bind ((binaryWriteString_emits _).writeIf _)

def euInformationLeaves : Option EuInformation → List Leaf
  | none => [.refusal Status.badInternalError]
  | some eu =>
    stringLeaves (some eu.namespaceUri) ++ (.field (lePutU32 eu.unitId.toUInt32) ::
      (localizedTextLeaves (some eu.displayName) ++ localizedTextLeaves (some eu.description)))

theorem binaryWriteEuInformation_emits (value : Option EuInformation) :
    Emits (binaryWriteEuInformation value) (euInformationLeaves value) := by
  cases value with
  | none => exact Emits.throw _
  | some eu =>
    exact (binaryWriteString_emits _).bind <| (writeFixed_emits _).bind <|
      (binaryWriteLocalizedText_emits _).bind (binaryWriteLocalizedText_emits _)

def qualifiedNameLeaves : Option QualifiedName → List Leaf
  | none => [.refusal Status.badEncodingError]
  | some name => .field (lePutU16 name.namespaceIndex) :: stringLeaves (some name.name)

theorem binaryWriteQualifiedName_emits (value : Option QualifiedName) :
    Emits (binaryWriteQualifiedName value) (qualifiedNameLeaves value) := by
  cases value with
  | none => exact Emits.throw _
  | some name => exact (writeFixed_emits _).bind (binaryWriteString_emits _)

def byteLeaves (bs : List UInt8) : List Leaf := bs.flatMap fun b => [.field [b]]

theorem writeMany_byte_emits (bs : List UInt8) :
    Emits (writeMany binaryWriteByte bs) (byteLeaves bs) :=
  Emits.writeMany (fun _ => writeFixed_emits _) bs

def nodeidLeaves : Option NodeId → List Leaf
  | none => [.refusal Status.badEncodingError]
  | some node =>
    match node.identifier with
    | .numeric id =>
      if node.namespaceIndex = 0 ∧ id ≤ 255 then [.field [0x00], .field [id.toUInt8]]
      else if node.namespaceIndex ≤ 255 ∧ id ≤ 65535 then
        [.field [0x01], .field [node.namespaceIndex.toUInt8], .field (lePutU16 id.toUInt16)]
      else [.field [0x02], .field (lePutU16 node.namespaceIndex), .field (lePutU32 id)]
    | .string s =>
      .field [0x03] :: .field (lePutU16 node.namespaceIndex) :: stringLeaves (some s)
    | .guid bytes =>
      .field [0x04] :: .field (lePutU16 node.namespaceIndex) :: byteLeaves bytes.val
    | .opaqueId data =>
      .field [0x05] :: .field (lePutU16 node.namespaceIndex) ::
        .field (lePutU32 (Int32.ofNat data.val.length).toUInt32) :: byteLeaves data.val
    | .unknown _ => [.refusal Status.badEncodingError]

theorem binaryWriteNodeid_emits (value : Option NodeId) :
    Emits (binaryWriteNodeid value) (nodeidLeaves value) := by
  cases value with
  | none => exact Emits.throw _
  | some node =>
    obtain ⟨ns,identifier⟩ := node
    cases identifier with
    | numeric id =>
      refine Emits.ite (fun _ => (writeFixed_emits _).bind (writeFixed_emits _)) fun _ => ?_
      exact Emits.ite
        (fun _ => (writeFixed_emits _).bind ((writeFixed_emits _).bind (writeFixed_emits _)))
        fun _ => (writeFixed_emits _).bind ((writeFixed_emits _).bind (writeFixed_emits _))
    | string s =>
      exact (writeFixed_emits _).bind ((writeFixed_emits _).bind (binaryWriteString_emits _))
    | guid bytes =>
      exact (writeFixed_emits _).bind ((writeFixed_emits _).bind (writeMany_byte_emits _))
    | opaqueId data =>
      exact (writeFixed_emits _).bind <| (writeFixed_emits _).bind <|
        (writeFixed_emits _).bind (writeMany_byte_emits _)
    | unknown t => exact Emits.throw _

def expandedNodeidLeaves : Option ExpandedNodeId → List Leaf
  | none => [.refusal Status.badEncodingError]
  | some expanded =>
    match nodeidFormat expanded.nodeId with
    | none => [.refusal Status.badEncodingError]
    | some format =>
      .field [expandedNodeidMask format expanded] ::
        ((nodeidLeaves (some expanded.nodeId)).tail ++
          ((if expandedNodeidMask format expanded &&& 0x80 ≠ 0 then
              stringLeaves (some expanded.namespaceUri) else []) ++
            if expandedNodeidMask format expanded &&& 0x40 ≠ 0 then
              [.field (lePutU32 expanded.serverIndex)] else []))

variable {format : UInt8}

theorem expandedNodeidMask_format (h : format ∈ [0, 1, 2, 3, 4, 5])
    (value : ExpandedNodeId) : expandedNodeidMask format value &&& 0x0F = format := by
  unfold expandedNodeidMask
  simp only [List.mem_cons,List.not_mem_nil,or_false] at h
  rcases h with rfl | rfl | rfl | rfl | rfl | rfl <;> split <;> split <;> decide

theorem nodeidFormat_mem {node : NodeId} (h : nodeidFormat node = some format) :
    format ∈ [0, 1, 2, 3, 4, 5] := by
  unfold nodeidFormat at h
  split at h
  · split at h
    · simp_all
    · split at h <;> simp_all
  all_goals simp_all

theorem writeExpandedIdentifier_emits {node : NodeId} (h : nodeidFormat node = some format) :
    Emits (writeExpandedIdentifier format node) (nodeidLeaves (some node)).tail := by
  obtain ⟨ns,identifier⟩ := node
  cases identifier with
  | numeric id =>
    simp only [nodeidFormat] at h
    simp only [nodeidLeaves]
    split at h
    · next htwo =>
      obtain rfl : 0x00 = format := by simpa using h
      rw [if_pos htwo]
      exact writeFixed_emits _
    rename_i htwo
    rw [if_neg htwo]
    split at h
    · next hfour =>
      obtain rfl : 0x01 = format := by simpa using h
      rw [if_pos hfour]
      exact (writeFixed_emits _).bind (writeFixed_emits _)
    rename_i hfour
    obtain rfl : 0x02 = format := by simpa using h
    rw [if_neg hfour]
    exact (writeFixed_emits _).bind (writeFixed_emits _)
  | string s =>
    obtain rfl : 0x03 = format := by simpa [nodeidFormat] using h
    exact (writeFixed_emits _).bind (binaryWriteString_emits _)
  | guid bytes =>
    obtain rfl : 0x04 = format := by simpa [nodeidFormat] using h
    exact (writeFixed_emits _).bind (writeMany_byte_emits _)
  | opaqueId data =>
    obtain rfl : 0x05 = format := by simpa [nodeidFormat] using h
    exact (writeFixed_emits _).bind <| (writeFixed_emits _).bind (writeMany_byte_emits _)
  | unknown t => simp [nodeidFormat] at h

theorem binaryWriteExpandedNodeid_emits (value : Option ExpandedNodeId) :
    Emits (binaryWriteExpandedNodeid value) (expandedNodeidLeaves value) := by
  cases value with
  | none => exact Emits.throw _
  | some expanded =>
    simp only [binaryWriteExpandedNodeid,expandedNodeidLeaves]
    cases hformat : nodeidFormat expanded.nodeId with
    | none => exact Emits.throw _
    | some format =>
      have hmask := expandedNodeidMask_format (nodeidFormat_mem hformat) expanded
      refine (writeFixed_emits _).bind ?_
      rw [hmask]
      exact (writeExpandedIdentifier_emits hformat).bind <|
        ((binaryWriteString_emits _).writeIf _).bind ((writeFixed_emits _).writeIf _)

def extensionObjectHeaderLeaves (typeId : Option NodeId) (length : Nat) : List Leaf :=
  nodeidLeaves typeId ++
    if length = 0 then [.field [0x00]]
    else [.field [0x01], .field (lePutU32 (Int32.ofNat length).toUInt32)]

theorem binaryWriteExtensionObjectHeader_emits (typeId : Option NodeId) (length : Nat) :
    Emits (binaryWriteExtensionObjectHeader typeId length)
      (extensionObjectHeaderLeaves typeId length) :=
  (binaryWriteNodeid_emits typeId).bind <|
    Emits.ite (fun _ => writeFixed_emits _) fun _ => (writeFixed_emits _).bind (writeFixed_emits _)

def encodedBodyLeaves (encodingId : UInt32) (body : BinaryWriter) : List Leaf :=
  if h : body.status ≠ Status.good then [.refusal ⟨body.status, h⟩]
  else
    extensionObjectHeaderLeaves (some ⟨0, .numeric encodingId⟩) body.position ++
      [.block body.written Status.badOutOfMemory]

theorem writeEncodedBody_emits (encodingId : UInt32) (body : BinaryWriter) :
    Emits (writeEncodedBody encodingId body) (encodedBodyLeaves encodingId body) := by
  unfold writeEncodedBody encodedBodyLeaves
  split
  · exact Emits.throw _
  · exact (binaryWriteExtensionObjectHeader_emits _ _).bind (writeBlock_emits _ _)

def structLeaves {α : Type} (encodingId : UInt32) (body : α → BinaryWriter) :
    Option α → List Leaf
  | none => [.refusal Status.badInternalError]
  | some a => encodedBodyLeaves encodingId (body a)

theorem binaryWriteArgument_emits (arg : Option Argument) :
    Emits (binaryWriteArgument arg) (structLeaves 298 argumentBody arg) := by
  cases arg with
  | none => exact Emits.throw _
  | some arg => exact writeEncodedBody_emits _ _

theorem binaryWriteServerDiagnosticsSummary_emits (diag : Option DiagnosticsSummary) :
    Emits (binaryWriteServerDiagnosticsSummary diag)
      (structLeaves 861 diagnosticsSummaryBody diag) := by
  cases diag with
  | none => exact Emits.throw _
  | some diag => exact writeEncodedBody_emits _ _

theorem binaryWriteServerStatus_emits (status : Option ServerStatus) :
    Emits (binaryWriteServerStatus status) (structLeaves 864 serverStatusBody status) := by
  cases status with
  | none => exact Emits.throw _
  | some status => exact writeEncodedBody_emits _ _

def scalarValueLeaves : (type : BuiltinType) → type.Carrier → List Leaf
  | .boolean, v => [.field [booleanByte v]]
  | .sbyte, v => [.field [Int8.toUInt8 v]]
  | .byte, v => [.field [v]]
  | .int16, v => [.field (lePutU16 (Int16.toUInt16 v))]
  | .uint16, v => [.field (lePutU16 v)]
  | .int32, v => [.field (lePutU32 (Int32.toUInt32 v))]
  | .uint32, v | .float, v | .statusCode, v => [.field (lePutU32 v)]
  | .int64, v | .dateTime, v => [.field (lePutU64 (Int64.toUInt64 v))]
  | .uint64, v | .double, v => [.field (lePutU64 v)]
  | .string, v | .byteString, v => stringLeaves (some v)
  | .nodeId, v => nodeidLeaves (some v)
  | .qualifiedName, v => qualifiedNameLeaves (some v)
  | .localizedText, v => localizedTextLeaves (some v)
  | .null, _ | .guid, _ | .xmlElement, _ | .expandedNodeId, _ | .extensionObject, _
  | .dataValue, _ | .variant, _ | .diagnosticInfo, _ | .reserved _, _ =>
    [.refusal Status.badEncodingError]

theorem writeScalarValue_emits (type : BuiltinType) (v : type.Carrier) :
    Emits (writeScalarValue type v) (scalarValueLeaves type v) := by
  cases type with
  | string | byteString => exact binaryWriteString_emits (some v)
  | nodeId => exact binaryWriteNodeid_emits (some v)
  | qualifiedName => exact binaryWriteQualifiedName_emits (some v)
  | localizedText => exact binaryWriteLocalizedText_emits (some v)
  | boolean | sbyte | byte | int16 | uint16 | int32 | uint32 | int64 | uint64 | float | double
  | dateTime | statusCode => exact writeFixed_emits _
  | null | guid | xmlElement | expandedNodeId | extensionObject | dataValue | variant
  | diagnosticInfo | reserved => exact Emits.throw _

def arrayElementLeaves : (type : BuiltinType) → List type.Carrier → List Leaf
  | .extensionObject, es =>
    es.flatMap fun e : ExtensionStruct => structLeaves 298 argumentBody e.toArgument
  | type, es =>
    if elementSize type = 0 then [.refusal Status.badEncodingError]
    else es.flatMap (scalarValueLeaves type)

theorem writeArrayElements_emits (type : BuiltinType) (es : List type.Carrier) :
    Emits (writeArrayElements type es) (arrayElementLeaves type es) := by
  by_cases hext : type = .extensionObject
  · subst hext
    exact Emits.writeMany (fun e : ExtensionStruct => binaryWriteArgument_emits e.toArgument) es
  rw [writeArrayElements.eq_2 _ _ fun _ h _ => hext h,
    arrayElementLeaves.eq_2 _ _ fun _ h _ => hext h]
  exact Emits.ite (fun _ => Emits.throw _) fun _ => Emits.writeMany (writeScalarValue_emits type) es

def scalarVariantLeaves (extEncodingId : UInt32) : (type : BuiltinType) → type.Carrier → List Leaf
  | .extensionObject, v =>
    if extEncodingId = 861 then
      structLeaves 861 diagnosticsSummaryBody (ExtensionStruct.toDiagnosticsSummary v)
    else if extEncodingId = 864 then
      structLeaves 864 serverStatusBody (ExtensionStruct.toServerStatus v)
    else scalarValueLeaves .extensionObject v
  | type, v => scalarValueLeaves type v

theorem writeScalarVariant_emits (extEncodingId : UInt32) (type : BuiltinType) (v : type.Carrier) :
    Emits (writeScalarVariant extEncodingId type v) (scalarVariantLeaves extEncodingId type v) := by
  by_cases hext : type = .extensionObject
  · subst hext
    exact Emits.ite (fun _ => binaryWriteServerDiagnosticsSummary_emits _) fun _ =>
      Emits.ite (fun _ => binaryWriteServerStatus_emits _) fun _ => writeScalarValue_emits _ _
  rw [writeScalarVariant.eq_2 _ _ _ fun _ h _ => hext h,
    scalarVariantLeaves.eq_2 _ _ _ fun _ h _ => hext h]
  exact writeScalarValue_emits type v

def variantValueLeaves (variant : Variant) : List Leaf :=
  match variant.value with
  | .array length elements =>
    .field (lePutU32 (Int32.ofInt length).toUInt32) ::
      match elements with
      | none => []
      | some es => if 0 ≤ length then arrayElementLeaves variant.type es.val else []
  | .scalar v => scalarVariantLeaves variant.extEncodingId variant.type v

def variantLeaves : Option Variant → List Leaf
  | none => [.refusal Status.badEncodingError]
  | some variant =>
    .field [variant.type.toByte ||| (if variant.value.isArray then 0x80 else 0)] ::
      if variant.type = .null then [] else variantValueLeaves variant

theorem binaryWriteVariant_emits (value : Option Variant) :
    Emits (binaryWriteVariant value) (variantLeaves value) := by
  cases value with
  | none => exact Emits.throw _
  | some variant =>
    refine (writeFixed_emits _).bind (Emits.ite (fun _ => Emits.pure) fun _ => ?_)
    obtain ⟨type,value,ext⟩ := variant
    cases value with
    | scalar v => exact writeScalarVariant_emits ext type v
    | array length elements =>
      refine (writeFixed_emits _).bind ?_
      cases elements with
      | none => exact Emits.pure
      | some es => exact (writeArrayElements_emits type es.val).writeIf _

def datavalueLeaves : Option DataValue → List Leaf
  | none => [.refusal Status.badEncodingError]
  | some value =>
    .field [datavalueMask value] ::
      (value.value.elim [] (fun v => variantLeaves (some v)) ++
        (value.status.elim [] (fun s => [.field (lePutU32 s)]) ++
          (value.sourceTimestamp.elim [] (fun t => [.field (lePutU64 t.toUInt64)]) ++
            (value.sourcePicoseconds.elim [] (fun p => [.field (lePutU16 p)]) ++
              (value.serverTimestamp.elim [] (fun t => [.field (lePutU64 t.toUInt64)]) ++
                value.serverPicoseconds.elim [] fun p => [.field (lePutU16 p)])))))

theorem binaryWriteDatavalue_emits (value : Option DataValue) :
    Emits (binaryWriteDatavalue value) (datavalueLeaves value) := by
  cases value with
  | none => exact Emits.throw _
  | some value =>
    exact (writeFixed_emits _).bind <|
      (Emits.writeOptional (fun v => binaryWriteVariant_emits (some v)) _).bind <|
      (Emits.writeOptional (fun _ => writeFixed_emits _) _).bind <|
      (Emits.writeOptional (fun _ => writeFixed_emits _) _).bind <|
      (Emits.writeOptional (fun _ => writeFixed_emits _) _).bind <|
      (Emits.writeOptional (fun _ => writeFixed_emits _) _).bind <|
      Emits.writeOptional (fun _ => writeFixed_emits _) _

/-! ## A tripped writer stays as it is -/

def WriteM.Inert (m : WriteM Unit) : Prop :=
  ∀ w : BinaryWriter, w.status ≠ Status.good → InertAt m w

theorem WriteM.Inert.bind {m : WriteM Unit} (h : m.Inert) (f : Unit → WriteM Unit) :
    WriteM.Inert (m >>= f) :=
  fun w hw => (h w hw).bind f

theorem WriteM.Inert.throw (s : BadStatus) : WriteM.Inert (throw s) :=
  fun w _ => InertAt.throw s w

theorem WriteM.Inert.ite {c : Prop} [Decidable c] {m m' : WriteM Unit} (h : m.Inert)
    (h' : m'.Inert) : WriteM.Inert (if c then m else m') := by
  split
  · exact h
  · exact h'

theorem writeFixed_inert (bs : List UInt8) : (writeFixed bs).Inert := by
  intro w hw
  refine InertAt.bind ⟨⟨w.status,hw⟩,?_⟩ _
  rw [ensureSpace,get_bind,if_neg (fun h => hw h.1),dif_pos hw]
  rfl

theorem binaryWriteString_inert (value : Option MuString) : (binaryWriteString value).Inert := by
  cases value with
  | none => exact writeFixed_inert _
  | some s =>
    exact WriteM.Inert.ite (writeFixed_inert _) <| WriteM.Inert.ite (WriteM.Inert.throw _) <|
      WriteM.Inert.ite (WriteM.Inert.throw _) ((writeFixed_inert _).bind _)

theorem binaryWriteNodeid_inert (value : Option NodeId) : (binaryWriteNodeid value).Inert := by
  cases value with
  | none => exact WriteM.Inert.throw _
  | some node =>
    obtain ⟨ns,identifier⟩ := node
    cases identifier with
    | numeric id =>
      exact WriteM.Inert.ite ((writeFixed_inert _).bind _) <|
        WriteM.Inert.ite ((writeFixed_inert _).bind _) ((writeFixed_inert _).bind _)
    | string | guid | opaqueId => exact (writeFixed_inert _).bind _
    | unknown t => exact WriteM.Inert.throw _

theorem writeEncodedBody_inert (encodingId : UInt32) (body : BinaryWriter) :
    (writeEncodedBody encodingId body).Inert := by
  unfold writeEncodedBody
  split
  · exact WriteM.Inert.throw _
  · exact ((binaryWriteNodeid_inert _).bind _).bind _

/-! ## The operations -/

inductive WriteOp where
  | boolean (v : Bool) | sbyte (v : Int8) | byte (v : UInt8)
  | int16 (v : Int16) | uint16 (v : UInt16) | int32 (v : Int32) | uint32 (v : UInt32)
  | int64 (v : Int64) | uint64 (v : UInt64) | float (v : UInt32) | double (v : UInt64)
  | statuscode (v : StatusCode)
  | string (v : Option MuString) | bytestring (v : Option MuString)
  | nodeid (v : Option NodeId) | expandedNodeid (v : Option ExpandedNodeId)
  | qualifiedName (v : Option QualifiedName)
  | variant (v : Option Variant) | datavalue (v : Option DataValue)
  | extensionObjectHeader (typeId : Option NodeId) (length : Nat)
  | argument (v : Option Argument) | serverDiagnosticsSummary (v : Option DiagnosticsSummary)
  | serverStatus (v : Option ServerStatus)
  | range (v : Option Range) | localizedText (v : Option LocalizedText)
  | euInformation (v : Option EuInformation)

def WriteOp.run : WriteOp → WriteM Unit
  | .boolean v => binaryWriteBoolean v
  | .sbyte v => binaryWriteSbyte v
  | .byte v => binaryWriteByte v
  | .int16 v => binaryWriteInt16 v
  | .uint16 v => binaryWriteUint16 v
  | .int32 v => binaryWriteInt32 v
  | .uint32 v => binaryWriteUint32 v
  | .int64 v => binaryWriteInt64 v
  | .uint64 v => binaryWriteUint64 v
  | .float v => binaryWriteFloat v
  | .double v => binaryWriteDouble v
  | .statuscode v => binaryWriteStatuscode v
  | .string v => binaryWriteString v
  | .bytestring v => binaryWriteBytestring v
  | .nodeid v => binaryWriteNodeid v
  | .expandedNodeid v => binaryWriteExpandedNodeid v
  | .qualifiedName v => binaryWriteQualifiedName v
  | .variant v => binaryWriteVariant v
  | .datavalue v => binaryWriteDatavalue v
  | .extensionObjectHeader typeId length => binaryWriteExtensionObjectHeader typeId length
  | .argument v => binaryWriteArgument v
  | .serverDiagnosticsSummary v => binaryWriteServerDiagnosticsSummary v
  | .serverStatus v => binaryWriteServerStatus v
  | .range v => binaryWriteRange v
  | .localizedText v => binaryWriteLocalizedText v
  | .euInformation v => binaryWriteEuInformation v

def WriteOp.leaves : WriteOp → List Leaf
  | .boolean v => [.field [booleanByte v]]
  | .sbyte v => [.field [v.toUInt8]]
  | .byte v => [.field [v]]
  | .int16 v => [.field (lePutU16 v.toUInt16)]
  | .uint16 v => [.field (lePutU16 v)]
  | .int32 v => [.field (lePutU32 v.toUInt32)]
  | .uint32 v | .float v | .statuscode v => [.field (lePutU32 v)]
  | .int64 v => [.field (lePutU64 v.toUInt64)]
  | .uint64 v | .double v => [.field (lePutU64 v)]
  | .string v | .bytestring v => stringLeaves v
  | .nodeid v => nodeidLeaves v
  | .expandedNodeid v => expandedNodeidLeaves v
  | .qualifiedName v => qualifiedNameLeaves v
  | .variant v => variantLeaves v
  | .datavalue v => datavalueLeaves v
  | .extensionObjectHeader typeId length => extensionObjectHeaderLeaves typeId length
  | .argument v => structLeaves 298 argumentBody v
  | .serverDiagnosticsSummary v => structLeaves 861 diagnosticsSummaryBody v
  | .serverStatus v => structLeaves 864 serverStatusBody v
  | .range v => rangeLeaves v
  | .localizedText v => localizedTextLeaves v
  | .euInformation v => euInformationLeaves v

theorem WriteOp.run_emits (op : WriteOp) : Emits op.run op.leaves := by
  cases op with
  | string v | bytestring v => exact binaryWriteString_emits v
  | nodeid v => exact binaryWriteNodeid_emits v
  | expandedNodeid v => exact binaryWriteExpandedNodeid_emits v
  | qualifiedName v => exact binaryWriteQualifiedName_emits v
  | variant v => exact binaryWriteVariant_emits v
  | datavalue v => exact binaryWriteDatavalue_emits v
  | extensionObjectHeader typeId length => exact binaryWriteExtensionObjectHeader_emits typeId length
  | argument v => exact binaryWriteArgument_emits v
  | serverDiagnosticsSummary v => exact binaryWriteServerDiagnosticsSummary_emits v
  | serverStatus v => exact binaryWriteServerStatus_emits v
  | range v => exact binaryWriteRange_emits v
  | localizedText v => exact binaryWriteLocalizedText_emits v
  | euInformation v => exact binaryWriteEuInformation_emits v
  | boolean | sbyte | byte | int16 | uint16 | int32 | uint32 | int64 | uint64 | float | double
  | statuscode => exact writeFixed_emits _

theorem WriteOp.run_inert (op : WriteOp) : WriteM.Inert op.run := by
  cases op with
  | string v | bytestring v => exact binaryWriteString_inert v
  | nodeid v => exact binaryWriteNodeid_inert v
  | extensionObjectHeader typeId length => exact (binaryWriteNodeid_inert typeId).bind _
  | expandedNodeid v =>
    cases v with
    | none => exact WriteM.Inert.throw _
    | some v =>
      simp only [WriteOp.run,binaryWriteExpandedNodeid]
      cases nodeidFormat v.nodeId with
      | none => exact WriteM.Inert.throw _
      | some format => exact (writeFixed_inert _).bind _
  | qualifiedName v | variant v | datavalue v | range v | localizedText v =>
    cases v with
    | none => exact WriteM.Inert.throw _
    | some v => exact (writeFixed_inert _).bind _
  | euInformation v =>
    cases v with
    | none => exact WriteM.Inert.throw _
    | some v => exact (binaryWriteString_inert _).bind _
  | argument v | serverDiagnosticsSummary v | serverStatus v =>
    cases v with
    | none => exact WriteM.Inert.throw _
    | some v => exact writeEncodedBody_inert _ _
  | boolean | sbyte | byte | int16 | uint16 | int32 | uint32 | int64 | uint64 | float | double
  | statuscode => exact writeFixed_inert _

/-! ## Call sequences -/

/-- Once a call of the sequence fails, the writer's status stays bad, and every later call fails
and leaves the buffer and the position as they were. -/
def StickyWrites (ops : List WriteOp) (w : BinaryWriter) : Prop :=
  Law (fun w => w.status ≠ Status.good) (fun w => (w.buffer, w.position)) WriteOp.run ops w

/-- The first call that fails, if there is one, fails on a fixed-width field that does not fit: no
call before it or at it refuses a value or meets a string or structure body too long for the space
left. -/
def OnlyFieldOverflow : BinaryWriter → List WriteOp → Prop
  | _, [] => True
  | w, op :: ops =>
    match w.scan op.leaves with
    | .done bs => OnlyFieldOverflow (w.put bs) ops
    | .trip _ => True
    | .refuse _ => False

theorem firstFailureTrips_iff_onlyFieldOverflow (ops : List WriteOp) {w : BinaryWriter}
    (hw : w.status = Status.good) :
    FirstFailureTrips (fun w => w.status ≠ Status.good) WriteOp.run ops w ↔
      OnlyFieldOverflow w ops := by
  induction ops generalizing w with
  | nil => simp [FirstFailureTrips,OnlyFieldOverflow]
  | cons op ops ih =>
    have hop := op.run_emits w hw
    cases hscan : w.scan op.leaves with
    | done bs =>
      rw [hscan] at hop
      simp only [FirstFailureTrips,OnlyFieldOverflow,hscan,show op.run w = _ from hop]
      exact ih hw
    | trip s =>
      rw [hscan] at hop
      obtain ⟨w',hres,hstatus⟩ := hop
      simp only [FirstFailureTrips,OnlyFieldOverflow,hscan,hres,hstatus]
      exact iff_true_intro s.property
    | refuse s =>
      rw [hscan] at hop
      obtain ⟨w',hres,hstatus⟩ := hop
      simp [FirstFailureTrips,OnlyFieldOverflow,hscan,hres,hstatus]

/-- A sequence of encoder calls obeys the sticky discipline exactly when the writer was tripped
already or its first failure, if any, is a fixed-width field that does not fit. -/
theorem stickyWrites_iff_onlyFieldOverflow (ops : List WriteOp) (w : BinaryWriter) :
    StickyWrites ops w ↔ w.status ≠ Status.good ∨ OnlyFieldOverflow w ops := by
  have hinert : ∀ (op : WriteOp) (s : BinaryWriter), s.status ≠ Status.good →
      InertAt op.run s := fun op s hs => op.run_inert s hs
  by_cases hw : w.status = Status.good
  · rw [StickyWrites,law_iff_firstFailureTrips hinert,
      firstFailureTrips_iff_onlyFieldOverflow ops hw]
    simp [hw]
  · exact iff_of_true (law_of_tripped hinert ops hw) (Or.inl hw)

/-- A string of three bytes into a buffer of six: the length is written, the payload does not fit,
and the writer, still in good state, takes the next byte right behind the length. -/
theorem string_overflow_not_sticky :
    ¬ StickyWrites [.string (some (MuString.ofBytes [0x61, 0x62, 0x63])), .byte 0x07]
      (BinaryWriter.init [0, 0, 0, 0, 0, 0]) := by
  intro law
  have hstring := law [] (.string (some (MuString.ofBytes [0x61,0x62,0x63]))) [.byte 0x07] rfl
    (by decide +kernel)
  exact hstring.1 (by decide +kernel)

end MucOpcua
