import MucOpcua.Subscription.EventFilter

/-!
# What an accepted where clause holds

The ContentFilter of a request is read a second time without capacities: `readContentFilter` gives
the elements that were sent.
-/

namespace MucOpcua

open Sticky

/-! ## The filter as it was sent -/

structure SimpleAttributeOperand where
  typeDefinitionId : NodeId
  browsePath : List QualifiedName
  attributeId : UInt32
  indexRange : MuString

def SimpleAttributeOperand.lastName (operand : SimpleAttributeOperand) : MuString :=
  (operand.browsePath.getLast?.map (·.name)).getD MuString.null

inductive FilterOperand where
  | element (index : UInt32)
  | literal (value : Variant)
  | simpleAttribute (operand : SimpleAttributeOperand)
  /-- an operand of another type, whose body is skipped -/
  | other (typeId : NodeId) (length : Nat)

structure ContentFilterElement where
  operator : UInt32
  operands : List FilterOperand

def readSimpleAttributeOperand : ReadM SimpleAttributeOperand := do
  let typeDefinitionId ← binaryReadNodeid
  let count := (← binaryReadInt32).toInt
  if count < 0 then throw Status.badDecodingError
  let browsePath ← readMany binaryReadQualifiedName count.toNat
  let attributeId ← binaryReadUint32
  let indexRange ← binaryReadString
  readerStatus
  return { typeDefinitionId, browsePath := browsePath.val, attributeId, indexRange }

def readFilterOperand (profile : CodecProfile) : ReadM FilterOperand := do
  let (typeId, length) ← binaryReadExtensionObjectHeader
  if typeId = numericNodeId idElementOperand then
    return .element (← binaryReadUint32)
  else if typeId = numericNodeId idLiteralOperand then
    let value ← binaryReadVariant profile
    readerStatus
    return .literal value
  else if typeId = numericNodeId idSimpleAttributeOperand then
    let operand ← readSimpleAttributeOperand
    readerStatus
    return .simpleAttribute operand
  else
    skipExtensionObjectBody length
    return .other typeId length

def readContentFilterElement (profile : CodecProfile) : ReadM ContentFilterElement := do
  let operator ← binaryReadUint32
  let count := (← binaryReadInt32).toInt
  if count < 0 then throw Status.badDecodingError
  let operands ← readMany (readFilterOperand profile) count.toNat
  return { operator, operands := operands.val }

def readContentFilter (profile : CodecProfile) : ReadM (List ContentFilterElement) := do
  let count := (← binaryReadInt32).toInt
  if count < 0 then throw Status.badDecodingError
  let elements ← readMany (readContentFilterElement profile) count.toNat
  readerStatus
  return elements.val

def readSentWhereClause (profile : CodecProfile) : ReadM (List ContentFilterElement) := do
  let selectCount := (← binaryReadInt32).toInt
  if selectCount < 0 then throw Status.badDecodingError
  if 100 < selectCount then throw Status.badEventFilterInvalid
  let _selectClauses ← readMany readSimpleAttributeOperand selectCount.toNat
  readContentFilter profile

/-! ## Decoding is reading and then compacting -/

def compactOperand (caps : FilterCapacities) (clause : WhereClause) (reject : Bool) :
    FilterOperand → WhereOperand × WhereClause × Bool
  | .element elementIndex =>
    ({ WhereOperand.zero with kind := .element, elementIndex }, clause, reject)
  | .literal value =>
    if value.value.isArray then
      ({ WhereOperand.zero with kind := .unsupported }, clause, true)
    else
      match literalToOperand caps clause value with
      | (true, out, clause) => (out, clause, reject)
      | (false, out, clause) => ({ out with kind := .unsupported }, clause, true)
  | .simpleAttribute operand =>
    ({ WhereOperand.zero with
        kind := .attribute, field := eventFieldFromName operand.lastName }, clause, reject)
  | .other _ _ => ({ WhereOperand.zero with kind := .unsupported }, clause, true)

def WhereDecoder.compactOperand (caps : FilterCapacities) (storeEl : Bool) (d : WhereDecoder)
    (operand : FilterOperand) : WhereDecoder :=
  let (out, clause, reject) := MucOpcua.compactOperand caps d.clause d.reject operand
  ({ d with clause, reject } : WhereDecoder).storeOperand caps storeEl out

def WhereDecoder.compactElement (caps : FilterCapacities) (i : Nat) (d : WhereDecoder)
    (e : ContentFilterElement) : WhereDecoder :=
  let d := d.checkOperator e.operator
  let storeEl := !d.overflow && decide (i < caps.maxWhereElements)
  e.operands.foldl (WhereDecoder.compactOperand caps storeEl)
    (d.storeElement storeEl e.operator e.operands.length)

def WhereDecoder.compactElements (caps : FilterCapacities) :
    Nat → WhereDecoder → List ContentFilterElement → WhereDecoder
  | _, d, [] => d
  | i, d, e :: es => compactElements caps (i + 1) (d.compactElement caps i e) es

def compactClause (caps : FilterCapacities) (filterResult : StatusCode)
    (es : List ContentFilterElement) : WhereClause × StatusCode :=
  (WhereDecoder.compactElements caps 0 (.start caps filterResult es.length) es).finish es.length

section Reads

variable (caps : FilterCapacities) (profile : CodecProfile)

theorem readBrowsePath_eq (n : Nat) (lastName : MuString) :
    readBrowsePath n lastName = (fun names => ((names.val.getLast?.map
      (·.name)).getD lastName : MuString)) <$> readMany binaryReadQualifiedName n := by
  induction n generalizing lastName with
  | zero => simp [readBrowsePath,readMany]
  | succ n ih =>
    simp only [readBrowsePath,readMany,binaryReadQualifiedName,ih,map_eq_pure_bind,bind_assoc,
      pure_bind]
    refine bind_congr fun namespaceIndex => bind_congr fun name => bind_congr fun names => ?_
    rw [List.getLast?_cons]
    cases names.val.getLast? <;> rfl

theorem readSimpleAttributeFields_eq :
    readSimpleAttributeFields = SimpleAttributeOperand.lastName <$> readSimpleAttributeOperand := by
  simp only [readSimpleAttributeFields,readSimpleAttributeOperand,readBrowsePath_eq,
    map_eq_pure_bind,bind_assoc]
  refine bind_congr fun typeDef => bind_congr fun count => ?_
  split
  · rfl
  · simp only [bind_assoc]
    rfl

theorem decodeWhereOperand_eq (clause : WhereClause) (reject : Bool) :
    decodeWhereOperand caps profile clause reject =
      compactOperand caps clause reject <$> readFilterOperand profile := by
  simp only [decodeWhereOperand,readFilterOperand,readSimpleAttributeFields_eq,map_eq_pure_bind,
    bind_assoc]
  refine bind_congr fun header => ?_
  split
  · simp only [bind_assoc,pure_bind,compactOperand]
  split
  · simp only [bind_assoc,pure_bind]
    refine bind_congr fun value => bind_congr fun _ => ?_
    simp only [compactOperand]
    split
    · rfl
    · rcases literalToOperand caps clause value with ⟨_ | _,out,clause'⟩ <;> rfl
  · split
    · simp only [bind_assoc,pure_bind,compactOperand]
    · simp only [bind_assoc,pure_bind,compactOperand]

theorem decodeWhereOperands_eq (storeEl : Bool) (n : Nat) (d : WhereDecoder) :
    decodeWhereOperands caps profile storeEl n d =
      (fun operands => operands.val.foldl (WhereDecoder.compactOperand caps storeEl) d) <$>
        readMany (readFilterOperand profile) n := by
  induction n generalizing d with
  | zero => simp [decodeWhereOperands,readMany]
  | succ n ih =>
    simp only [decodeWhereOperands,readMany,decodeWhereOperand_eq,ih,map_eq_pure_bind,bind_assoc]
    rfl

theorem decodeWhereElements_eq (n i : Nat) (d : WhereDecoder) :
    decodeWhereElements caps profile n i d =
      (fun elements => d.compactElements caps i elements.val) <$>
        readMany (readContentFilterElement profile) n := by
  induction n generalizing i d with
  | zero => simp [decodeWhereElements,readMany,WhereDecoder.compactElements]
  | succ n ih =>
    simp only [decodeWhereElements,readMany,readContentFilterElement,decodeWhereOperands_eq,ih,
      map_eq_pure_bind,bind_assoc,pure_bind]
    refine bind_congr fun operator => bind_congr fun count => ?_
    split
    · rfl
    simp only [bind_assoc]
    refine bind_congr fun operands => bind_congr fun elements => ?_
    rw [WhereDecoder.compactElements,WhereDecoder.compactElement,operands.property]

theorem decodeWhereClause_eq (filterResult : StatusCode) :
    decodeWhereClause caps profile filterResult =
      compactClause caps filterResult <$> readContentFilter profile := by
  simp only [decodeWhereClause,readContentFilter,decodeWhereElements_eq,map_eq_pure_bind,
    bind_assoc]
  refine bind_congr fun count => ?_
  split
  · rfl
  simp only [bind_assoc,pure_bind]
  refine bind_congr fun elements => bind_congr fun _ => ?_
  rw [compactClause,elements.property]

theorem readSelectClauses_eq (n i : Nat) (clauses : List UInt8) :
    readSelectClauses n i clauses = (fun operands => clauses ++ (operands.val.take (8 - i)).map
      fun operand => eventFieldFromName operand.lastName) <$>
        readMany readSimpleAttributeOperand n := by
  induction n generalizing i clauses with
  | zero => simp [readSelectClauses,readMany]
  | succ n ih =>
    simp only [readSelectClauses,readMany,readSimpleAttributeFields_eq,map_eq_pure_bind,
      bind_assoc,pure_bind,ih]
    refine bind_congr fun operand => bind_congr fun operands => ?_
    split
    · next hroom =>
      obtain ⟨room,hroom⟩ : ∃ room, 8 - i = room + 1 := ⟨7 - i,by omega⟩
      simp [hroom,show 8 - (i + 1) = room by omega]
    · next hfull => simp [show 8 - i = 0 by omega,show 8 - (i + 1) = 0 by omega]

theorem readEventFilterBody_whereClause :
    (fun body => (body.whereClause, body.filterResult)) <$> readEventFilterBody caps profile =
      compactClause caps Status.good <$> readSentWhereClause profile := by
  simp only [readEventFilterBody,readSentWhereClause,decodeWhereClause_eq,map_eq_pure_bind,
    bind_assoc]
  refine bind_congr fun count => ?_
  split
  · rfl
  split
  · rfl
  · simp only [pure_bind,readSelectClauses_eq,map_eq_pure_bind,bind_assoc]

theorem readEventFilterBody_compact {r r' : BinaryReader} {body : EventFilterBody}
    (hbody : readEventFilterBody caps profile r = .ok body r') :
    ∃ es, readSentWhereClause profile r = .ok es r' ∧
      body.whereClause = (compactClause caps Status.good es).1 ∧
      body.filterResult = (compactClause caps Status.good es).2 := by
  have hsame := congrFun (readEventFilterBody_whereClause caps profile) r
  simp only [map_eq_pure_bind] at hsame
  rw [Sticky.bind_ok hbody] at hsame
  obtain ⟨es,r'',hsent,hcompact⟩ := Sticky.ok_of_bind hsame.symm
  obtain ⟨hpair,rfl⟩ := EStateM.Result.ok.inj hcompact
  exact ⟨es,hsent,(congrArg Prod.fst hpair).symm,(congrArg Prod.snd hpair).symm⟩

end Reads

/-! ## Contents -/

/-- What an operand stands for: another element, a literal with its type, or an event field. -/
inductive OperandContent where
  | element (index : UInt32)
  | number (type : UInt8) (bits : UInt64)
  | text (type : UInt8) (payload : List UInt8)
  | numericNodeId (namespaceIndex : UInt16) (id : UInt32)
  | stringNodeId (namespaceIndex : UInt16) (id : List UInt8)
  | eventField (field : UInt8)
  deriving DecidableEq

def BuiltinType.isNumber (type : BuiltinType) : Bool :=
  type ∈ [.boolean, .sbyte, .byte, .int16, .uint16, .int32, .uint32, .int64, .uint64, .dateTime,
    .statusCode, .float, .double]

/-- `read_literal` of the evaluator: the literal a stored operand stands for. -/
def WhereClause.readLiteral (clause : WhereClause) (operand : WhereOperand) :
    Option OperandContent :=
  let type := BuiltinType.ofByte operand.litType
  let inBlob := 0 < operand.blobLen.toNat ∧
    operand.blobOff.toNat + operand.blobLen.toNat ≤ clause.blobLen.toNat
  let payload := (clause.blob.drop operand.blobOff.toNat).take operand.blobLen.toNat
  if type.isNumber then some (.number operand.litType operand.num)
  else if type = .string ∨ type = .byteString then
    some (.text operand.litType (if inBlob then payload else []))
  else if type = .nodeId then
    some (if inBlob then .stringNodeId operand.nodeidNs payload
      else .numericNodeId operand.nodeidNs operand.num.toUInt32)
  else none

def WhereClause.operandContent (clause : WhereClause) (operand : WhereOperand) :
    Option OperandContent :=
  match operand.kind with
  | .element => some (.element operand.elementIndex)
  | .literal => clause.readLiteral operand
  | .attribute => some (.eventField operand.field)
  | .unsupported => none

/-- The content of a literal that was sent, if the compact form can express it. A null string is
not the empty one. -/
def Variant.content (value : Variant) : Option OperandContent :=
  let number (bits : UInt64) := some (OperandContent.number value.type.toByte bits)
  match value.type, value.value with
  | .boolean, .scalar v => number (Bool.toUInt64 v)
  | .sbyte, .scalar v => number (Int8.toInt64 v).toUInt64
  | .byte, .scalar v => number (UInt8.toUInt64 v)
  | .int16, .scalar v => number (Int16.toInt64 v).toUInt64
  | .uint16, .scalar v => number (UInt16.toUInt64 v)
  | .int32, .scalar v => number (Int32.toInt64 v).toUInt64
  | .uint32, .scalar v => number (UInt32.toUInt64 v)
  | .int64, .scalar v => number (Int64.toUInt64 v)
  | .uint64, .scalar v => number v
  | .dateTime, .scalar v => number (Int64.toUInt64 v)
  | .statusCode, .scalar v => number (UInt32.toUInt64 v)
  | .float, .scalar v => number (doubleOfFloat v)
  | .double, .scalar v => number v
  | .string, .scalar v =>
    if MuString.length v < 0 then none else some (.text value.type.toByte (MuString.bytes v))
  | .byteString, .scalar v =>
    if MuString.length v < 0 then none else some (.text value.type.toByte (MuString.bytes v))
  | .nodeId, .scalar v =>
    match NodeId.identifier v with
    | .numeric id => some (.numericNodeId (NodeId.namespaceIndex v) id)
    | .string id =>
      if id.length ≤ 0 then none else some (.stringNodeId (NodeId.namespaceIndex v) id.bytes)
    | _ => none
  | _, _ => none

def FilterOperand.content : FilterOperand → Option OperandContent
  | .element index => some (.element index)
  | .literal value => value.content
  | .simpleAttribute operand => some (.eventField (eventFieldFromName operand.lastName))
  | .other _ _ => none

def FilterOperand.payload : FilterOperand → List UInt8
  | .literal ⟨.string, .scalar v, _⟩ => MuString.bytes v
  | .literal ⟨.byteString, .scalar v, _⟩ => MuString.bytes v
  | .literal ⟨.nodeId, .scalar ⟨_, .string id⟩, _⟩ => id.bytes
  | _ => []

def WhereClause.storedElements (clause : WhereClause) : List (Nat × List (Option OperandContent)) :=
  (clause.elements.take clause.elementCount.toNat).map fun e =>
    (e.op.toNat, ((clause.operands.drop e.operandBase.toNat).take e.operandCount.toNat).map
      clause.operandContent)

def ContentFilterElement.contents (e : ContentFilterElement) :
    Nat × List (Option OperandContent) :=
  (e.operator.toNat, e.operands.map FilterOperand.content)

def WhereClause.StoresExactly (clause : WhereClause) (es : List ContentFilterElement) : Prop :=
  clause.storedElements = es.map ContentFilterElement.contents ∧
    ∀ e ∈ es, ∀ operand ∈ e.operands, operand.content.isSome = true

/-! ## The blob -/

def WhereClause.extend (clause : WhereClause) (payload : List UInt8) : WhereClause :=
  { clause with
    blob := clause.blob ++ payload
    blobLen := clause.blobLen + UInt16.ofNat payload.length }

@[simp] theorem WhereClause.extend_nil (clause : WhereClause) : clause.extend [] = clause := by
  simp [WhereClause.extend]

structure WhereClause.BlobFits (caps : FilterCapacities) (clause : WhereClause) : Prop where
  len : clause.blobLen.toNat = clause.blob.length
  le : clause.blob.length ≤ caps.whereBlobBytes

def WhereClause.Places (clause : WhereClause) (operand : WhereOperand) : Prop :=
  operand.blobOff.toNat + operand.blobLen.toNat ≤ clause.blob.length

variable {caps : FilterCapacities} {clause : WhereClause}

theorem WhereClause.BlobFits.extend (h : clause.BlobFits caps) {payload : List UInt8}
    (hfit : clause.blob.length + payload.length ≤ caps.whereBlobBytes) :
    (clause.extend payload).BlobFits caps := by
  have hcap := caps.blob_lt
  constructor
  · simp only [WhereClause.extend,List.length_append,UInt16.toNat_add,UInt16.toNat_ofNat',h.len]
    omega
  · simpa [WhereClause.extend] using hfit

theorem WhereClause.Places.extend {operand : WhereOperand} (h : clause.Places operand)
    (payload : List UInt8) : (clause.extend payload).Places operand := by
  simp only [WhereClause.Places,WhereClause.extend,List.length_append] at h ⊢
  omega

private theorem inBlob_payload {clause' : WhereClause} {blobOff blobLen : UInt16}
    {bytes : List UInt8} (hlen : blobLen.toNat = bytes.length)
    (hslice : (clause'.blob.drop blobOff.toNat).take blobLen.toNat = bytes)
    (hin : blobOff.toNat + blobLen.toNat ≤ clause'.blobLen.toNat) :
    (if 0 < blobLen.toNat ∧ blobOff.toNat + blobLen.toNat ≤ clause'.blobLen.toNat
      then (clause'.blob.drop blobOff.toNat).take blobLen.toNat else []) = bytes := by
  by_cases hpos : 0 < blobLen.toNat
  · rw [if_pos ⟨hpos,hin⟩,hslice]
  · rw [if_neg fun h => hpos h.1]
    exact (List.eq_nil_of_length_eq_zero (by omega)).symm

section

variable (h : clause.BlobFits caps)
include h

theorem WhereClause.operandContent_extend {payload : List UInt8}
    (hfit : clause.blob.length + payload.length ≤ caps.whereBlobBytes) {operand : WhereOperand}
    (hplace : clause.Places operand) :
    (clause.extend payload).operandContent operand = clause.operandContent operand := by
  have hlen := (h.extend hfit).len
  have hdrop : ((clause.blob ++ payload).drop operand.blobOff.toNat).take operand.blobLen.toNat =
      (clause.blob.drop operand.blobOff.toNat).take operand.blobLen.toNat := by
    unfold WhereClause.Places at hplace
    rw [List.drop_append_of_le_length (by omega),
      List.take_append_of_le_length (by rw [List.length_drop]; omega)]
  have hwas : operand.blobOff.toNat + operand.blobLen.toNat ≤ clause.blobLen.toNat := by
    rw [h.len]
    exact hplace
  have hnow : operand.blobOff.toNat + operand.blobLen.toNat ≤
      (clause.extend payload).blobLen.toNat := by
    rw [hlen]
    exact hplace.extend payload
  unfold WhereClause.operandContent WhereClause.readLiteral
  simp only [hnow,hwas]
  simp only [WhereClause.extend,hdrop]

theorem blobOperand_fits (out : WhereOperand) (payload : MuString)
    (hfit : clause.blob.length + payload.bytes.length ≤ caps.whereBlobBytes) :
    blobOperand caps clause out payload = (true, { out with
        blobOff := clause.blobLen, blobLen := UInt16.ofNat payload.bytes.length },
        clause.extend payload.bytes) := by
  have hroom : ¬ caps.whereBlobBytes < clause.blobLen.toNat + payload.length.toNat := by
    rw [h.len,← payload.bytes_length]
    omega
  simp only [blobOperand,whereBlobAppend,if_neg hroom,payload.bytes_length,WhereClause.extend]

theorem blobOperand_full (out : WhereOperand) (payload : MuString)
    (hfull : caps.whereBlobBytes < clause.blob.length + payload.bytes.length) :
    (blobOperand caps clause out payload).1 = false := by
  have hroom : caps.whereBlobBytes < clause.blobLen.toNat + payload.length.toNat := by
    rw [h.len,← payload.bytes_length]
    exact hfull
  simp only [blobOperand,whereBlobAppend,if_pos hroom]

/-! ## One operand -/

/-- What becomes of an operand: it is kept and its payload is in the blob, or the clause is
rejected. `none` of the contents is claimed for an operand the compact form cannot express. -/
structure Kept (caps : FilterCapacities) (clause : WhereClause) (operand : FilterOperand)
    (out : WhereOperand) (clause' : WhereClause) : Prop where
  fits : clause.blob.length + operand.payload.length ≤ caps.whereBlobBytes
  clause_eq : clause' = clause.extend operand.payload
  places : clause'.Places out
  content : ∀ c, operand.content = some c → clause'.operandContent out = some c

variable {out : WhereOperand}

theorem Kept.of_no_payload {operand : FilterOperand}
    (hpayload : operand.payload = []) (hzero : out.blobOff = 0 ∧ out.blobLen = 0)
    (hcontent : ∀ c, operand.content = some c → clause.operandContent out = some c) :
    Kept caps clause operand out clause where
  fits := by simpa [hpayload] using h.le
  clause_eq := by simp [hpayload]
  places := by simp [WhereClause.Places,hzero]
  content := hcontent

theorem Kept.of_payload {operand : FilterOperand}
    (hfit : clause.blob.length + operand.payload.length ≤ caps.whereBlobBytes)
    (hoff : out.blobOff = clause.blobLen) (hlen : out.blobLen = UInt16.ofNat operand.payload.length)
    (hcontent : ∀ c, operand.content = some c → out.blobLen.toNat = operand.payload.length →
      (((clause.extend operand.payload).blob.drop out.blobOff.toNat).take out.blobLen.toNat =
        operand.payload) → (clause.extend operand.payload).Places out →
      (clause.extend operand.payload).operandContent out = some c) :
    Kept caps clause operand out (clause.extend operand.payload) := by
  have hcap := caps.blob_lt
  have hlen' : out.blobLen.toNat = operand.payload.length := by
    rw [hlen,UInt16.toNat_ofNat']
    omega
  have hoff' : out.blobOff.toNat = clause.blob.length := by rw [hoff,h.len]
  have hplaces : (clause.extend operand.payload).Places out := by
    simp [WhereClause.Places,WhereClause.extend,hlen',hoff']
  refine ⟨hfit,rfl,hplaces,fun c hc => hcontent c hc hlen' ?_ hplaces⟩
  rw [hoff',hlen']
  simp [WhereClause.extend]

def LiteralStored (caps : FilterCapacities) (clause : WhereClause) (value : Variant)
    (r : Bool × WhereOperand × WhereClause) : Prop :=
  (r.1 = true ∧ Kept caps clause (.literal value) r.2.1 r.2.2) ∨
    (r.1 = false ∧ caps.whereBlobBytes <
      clause.blob.length + (FilterOperand.literal value).payload.length)

variable {value : Variant}

theorem blobOperand_stored
    {payload : MuString} (hpayload : (FilterOperand.literal value).payload = payload.bytes)
    (hcontent : ∀ (c : OperandContent) (clause' : WhereClause) (blobOff blobLen : UInt16),
      value.content = some c → blobLen.toNat = payload.bytes.length →
      (clause'.blob.drop blobOff.toNat).take blobLen.toNat = payload.bytes →
      blobOff.toNat + blobLen.toNat ≤ clause'.blobLen.toNat →
      clause'.operandContent { out with blobOff, blobLen } = some c) :
    LiteralStored caps clause value (blobOperand caps clause out payload) := by
  by_cases hfit : clause.blob.length + payload.bytes.length ≤ caps.whereBlobBytes
  · rw [blobOperand_fits h out payload hfit]
    refine .inl ⟨rfl,?_⟩
    rw [← hpayload] at hfit hcontent ⊢
    refine Kept.of_payload h hfit rfl rfl fun c hc hlen hslice hplaces => ?_
    refine hcontent c _ _ _ hc hlen hslice ?_
    rw [(h.extend hfit).len]
    exact hplaces
  · refine .inr ⟨blobOperand_full h out payload (by omega),?_⟩
    rw [hpayload]
    omega

theorem number_stored {bits : UInt64} (hpayload : (FilterOperand.literal value).payload = [])
    (htype : (BuiltinType.ofByte value.type.toByte).isNumber = true)
    (hcontent : value.content = some (.number value.type.toByte bits)) :
    LiteralStored caps clause value (true, WhereOperand.number value.type bits, clause) := by
  refine .inl ⟨rfl,Kept.of_no_payload h hpayload ⟨rfl,rfl⟩ fun c hc => ?_⟩
  rw [FilterOperand.content,hcontent] at hc
  cases hc
  simp [WhereClause.operandContent,WhereClause.readLiteral,WhereOperand.number,htype]

/-- What `read_literal` finds in the blob. -/
theorem literalToOperand_stored (hscalar : value.value.isArray = false) :
    LiteralStored caps clause value (literalToOperand caps clause value) := by
  have hnone (out : WhereOperand) (hpayload : (FilterOperand.literal value).payload = [])
      (hzero : out.blobOff = 0 ∧ out.blobLen = 0) (hcontent : value.content = none) :
      LiteralStored caps clause value (true, out, clause) := by
    refine .inl ⟨rfl,Kept.of_no_payload h hpayload hzero fun c hc => ?_⟩
    rw [FilterOperand.content,hcontent] at hc
    cases hc
  obtain ⟨type,value,ext⟩ := value
  cases value with
  | array length elements => cases hscalar
  | scalar v =>
    cases type
    case string =>
      refine blobOperand_stored h rfl fun c clause' blobOff blobLen hc hlen hslice hin => ?_
      obtain ⟨-,hsome⟩ := Option.ite_none_left_eq_some.mp hc
      cases hsome
      exact congrArg (fun bytes => some (OperandContent.text 12 bytes))
        (inBlob_payload hlen hslice hin)
    case byteString =>
      refine blobOperand_stored h rfl fun c clause' blobOff blobLen hc hlen hslice hin => ?_
      obtain ⟨-,hsome⟩ := Option.ite_none_left_eq_some.mp hc
      cases hsome
      exact congrArg (fun bytes => some (OperandContent.text 15 bytes))
        (inBlob_payload hlen hslice hin)
    case nodeId =>
      obtain ⟨ns,identifier⟩ : NodeId := v
      cases identifier with
      | numeric id =>
        refine .inl ⟨rfl,Kept.of_no_payload h rfl ⟨rfl,rfl⟩ fun c hc => ?_⟩
        cases hc
        have hid : id.toUInt64.toUInt32 = id := by simp
        exact congrArg (fun id => some (OperandContent.numericNodeId ns id)) hid
      | string id =>
        refine blobOperand_stored h rfl fun c clause' blobOff blobLen hc hlen hslice hin => ?_
        obtain ⟨hpos,hsome⟩ := Option.ite_none_left_eq_some.mp hc
        cases hsome
        have hpos' : 0 < blobLen.toNat := by
          rw [hlen,id.bytes_length]
          omega
        have hcontent : (if 0 < blobLen.toNat ∧ blobOff.toNat + blobLen.toNat ≤ clause'.blobLen.toNat
            then OperandContent.stringNodeId ns
              ((clause'.blob.drop blobOff.toNat).take blobLen.toNat)
            else .numericNodeId ns 0) = .stringNodeId ns id.bytes := by
          rw [if_pos ⟨hpos',hin⟩,hslice]
        exact congrArg some hcontent
      | guid bytes | opaqueId data | unknown identifierType => exact hnone _ rfl ⟨rfl,rfl⟩ rfl
    case boolean => exact number_stored h rfl rfl rfl
    case null => exact hnone _ rfl ⟨rfl,rfl⟩ rfl
    all_goals first
      | exact number_stored h rfl rfl rfl
      | exact hnone _ rfl ⟨rfl,rfl⟩ rfl

theorem compactOperand_stored (reject : Bool) (operand : FilterOperand) :
    ((compactOperand caps clause reject operand).2.2 = reject ∧
      Kept caps clause operand (compactOperand caps clause reject operand).1
        (compactOperand caps clause reject operand).2.1) ∨
    ((compactOperand caps clause reject operand).2.2 = true ∧ (operand.content = none ∨
        caps.whereBlobBytes < clause.blob.length + operand.payload.length)) := by
  have hno (out : WhereOperand) (hpayload : operand.payload = [])
      (hzero : out.blobOff = 0 ∧ out.blobLen = 0)
      (hcontent : clause.operandContent out = operand.content) :
      Kept caps clause operand out clause :=
    Kept.of_no_payload h hpayload hzero fun c hc => hcontent.trans hc
  cases operand with
  | element index | simpleAttribute operand => exact .inl ⟨rfl,hno _ rfl ⟨rfl,rfl⟩ rfl⟩
  | other typeId length => exact .inr ⟨rfl,.inl rfl⟩
  | literal value =>
    by_cases hscalar : value.value.isArray = true
    · have heq : compactOperand caps clause reject (.literal value) =
          ({ WhereOperand.zero with kind := .unsupported }, clause, true) := if_pos hscalar
      rw [heq]
      refine .inr ⟨rfl,.inl ?_⟩
      obtain ⟨type,value,ext⟩ := value
      cases value with
      | scalar v => cases hscalar
      | array length elements => cases type <;> rfl
    · have heq : compactOperand caps clause reject (.literal value) = _ := if_neg hscalar
      rw [heq]
      have hstored := literalToOperand_stored h (by simpa using hscalar)
      rcases hliteral : literalToOperand caps clause value with ⟨fitted,out,clause'⟩
      rw [hliteral] at hstored
      rcases hstored with ⟨hfit,hkept⟩ | ⟨hfull,hlarge⟩
      · cases hfit
        exact .inl ⟨rfl,hkept⟩
      · cases hfull
        exact .inr ⟨rfl,.inr hlarge⟩

end

theorem compactOperand_reject (caps : FilterCapacities) (clause : WhereClause)
    (operand : FilterOperand) : (compactOperand caps clause true operand).2.2 = true := by
  cases operand with
  | element index => rfl
  | simpleAttribute operand => rfl
  | other typeId length => rfl
  | literal value =>
    by_cases hscalar : value.value.isArray = true
    · have heq : compactOperand caps clause true (.literal value) =
          ({ WhereOperand.zero with kind := .unsupported }, clause, true) := if_pos hscalar
      rw [heq]
    have heq : compactOperand caps clause true (.literal value) = _ := if_neg hscalar
    rw [heq]
    rcases literalToOperand caps clause value with ⟨_ | _,out,clause'⟩ <;> rfl

end MucOpcua
