import MucOpcua.Encoding.Refusal

/-!
# UADP network messages

`uadp_encoder.c`: one DataSetMessage with Variant fields, behind the headers of a NetworkMessage.
-/

namespace MucOpcua

open Sticky

variable {buffer : List UInt8} {field : Variant} {fields : List Variant} {n : Nat}
  {r : BinaryReader} {w : BinaryWriter}

/-! ## The code -/

def pubsubMaxFields : Nat := 8

def uadpSupportedNetworkFlags : UInt8 := 0x01 ||| 0x10 ||| 0x40 ||| 0x80

def uadpPublisherIdUint32 : UInt8 := 0x02

def uadpExtendedFlags1SecurityHeader : UInt8 := 0x10

def uadpDatasetFlagsValidVariant : UInt8 := 0x01

structure DatasetWriter where
  dataSetWriterId : UInt16
  fields : List Variant

/-- `mu_pubsub_received_message_t` after a decoder that returned Good. -/
structure ReceivedMessage where
  publisherId : UInt32
  dataSetWriterId : UInt16
  fields : List Variant

def uadpVariantEncodingIsUnsupported (encodingMask : UInt8) : Bool :=
  if encodingMask &&& 0xC0 ≠ 0 then true
  else
    match BuiltinType.ofByte (encodingMask &&& 0x3F) with
    | .guid | .xmlElement | .expandedNodeId | .extensionObject | .dataValue | .variant
    | .diagnosticInfo => true
    | _ => false

def pubsubPatchU16 (buffer : List UInt8) (offset : Nat) (value : UInt16) : List UInt8 :=
  Buffer.overwrite buffer offset (lePutU16 value)

/-- `mu_encode_uadp_network_message`: the buffer afterwards and `bytes_written`. No result of a
write is looked at. -/
def encodeUadpNetworkMessage (publisherId : UInt32) (writer : DatasetWriter)
    (buffer : List UInt8) : Except BadStatus (List UInt8 × Nat) :=
  if pubsubMaxFields < writer.fields.length then .error Status.badTooManyOperations
  else if writer.fields.any (·.value.isArray) then .error Status.badNotSupported
  else
    let binary := runAll WriteOp.run
      [.byte uadpSupportedNetworkFlags, .byte uadpPublisherIdUint32, .uint32 publisherId, .byte 1,
        .uint16 writer.dataSetWriterId] (BinaryWriter.init buffer)
    let messageSizeOffset := binary.position
    let binary := runAll WriteOp.run [.uint16 0] binary
    let messageStart := binary.position
    let binary := runAll WriteOp.run
      (.byte uadpDatasetFlagsValidVariant :: writer.fields.map fun field => .variant (some field))
      binary
    if h : binary.status ≠ Status.good then .error ⟨binary.status, h⟩
    else
      let messageSize := binary.position - messageStart
      if 0xFFFF < messageSize then .error Status.badEncodingLimitsExceeded
      else
        .ok (pubsubPatchU16 (binary.buffer.getD []) messageSizeOffset (UInt16.ofNat messageSize),
          binary.position)

def orDecodingError {α : Type} :
    EStateM.Result BadStatus BinaryReader α → Except BadStatus (α × BinaryReader)
  | .ok a reader => .ok (a, reader)
  | .error _ _ => .error Status.badDecodingError

/-- The loop over the fields, with room for `left` more of them. -/
def decodeUadpFields (profile : CodecProfile) :
    (left : Nat) → BinaryReader → Except BadStatus (List Variant × BinaryReader)
  | 0, reader =>
    if reader.position < reader.length then .error Status.badTooManyOperations
    else .ok ([], reader)
  | left + 1, reader =>
    if reader.position < reader.length then
      if uadpVariantEncodingIsUnsupported (reader.rest.getD 0 0) then .error Status.badNotSupported
      else do
        let (field, reader) ← orDecodingError (binaryReadVariant profile reader)
        let (fields, reader) ← decodeUadpFields profile left reader
        return (field :: fields, reader)
    else .ok ([], reader)

/-- `mu_decode_uadp_network_message` behind the headers, which say how long the rest has to be. -/
def decodeUadpDataSet (profile : CodecProfile) (payload : List UInt8) (fieldCapacity : Nat) :
    Except BadStatus (List Variant) := do
  let (dataSetFlags1, reader) ← orDecodingError (binaryReadByte (BinaryReader.init payload))
  if dataSetFlags1 ≠ uadpDatasetFlagsValidVariant then throw Status.badNotSupported
  else
    let (fields, reader) ← decodeUadpFields profile (min fieldCapacity pubsubMaxFields) reader
    if reader.position ≠ reader.length then throw Status.badDecodingError
    else return fields

def decodeUadpNetworkMessage (profile : CodecProfile) (buffer : List UInt8)
    (fieldCapacity : Nat) : Except BadStatus ReceivedMessage := do
  let (flags, binary) ← orDecodingError (binaryReadByte (BinaryReader.init buffer))
  if flags ≠ uadpSupportedNetworkFlags then throw Status.badNotSupported
  else
    let (extendedFlags1, binary) ← orDecodingError (binaryReadByte binary)
    if extendedFlags1 &&& uadpExtendedFlags1SecurityHeader ≠ 0 then throw Status.badNotSupported
    else if extendedFlags1 ≠ uadpPublisherIdUint32 then throw Status.badNotSupported
    else
      let (publisherId, binary) ← orDecodingError (binaryReadUint32 binary)
      let (payloadCount, binary) ← orDecodingError (binaryReadByte binary)
      if payloadCount ≠ 1 then throw Status.badNotSupported
      else
        let (dataSetWriterId, binary) ← orDecodingError (binaryReadUint16 binary)
        let (dataSetMessageSize, binary) ← orDecodingError (binaryReadUint16 binary)
        if dataSetMessageSize.toNat ≠ binary.length - binary.position then
          throw Status.badDecodingError
        else
          let fields ← decodeUadpDataSet profile
            (Buffer.slice buffer binary.position dataSetMessageSize.toNat) fieldCapacity
          if binary.position + dataSetMessageSize.toNat ≠ binary.length then
            throw Status.badDecodingError
          else return ⟨publisherId, dataSetWriterId, fields⟩

/-! ## What the encoder writes -/

def Variant.Plain (field : Variant) : Prop :=
  field.value.isArray = false ∧ (field.type = .null ∨ elementSize field.type ≠ 0)

theorem Variant.Plain.exists_scalar (h : field.Plain) : ∃ type v ext,
    field = ⟨type, .scalar v, ext⟩ ∧ (type = .null ∨ elementSize type ≠ 0) := by
  obtain ⟨type,value,ext⟩ := field
  cases value with
  | array length elements => cases h.1
  | scalar v => exact ⟨type,v,ext,rfl,h.2⟩

theorem Variant.plain_canon : field.canon.Plain ↔ field.Plain := by
  obtain ⟨type,value,ext⟩ := field
  cases value <;> exact Iff.rfl

def fieldLeaves (fields : List Variant) : List Leaf :=
  fields.flatMap fun field => variantLeaves (some field)

theorem fieldLeaves_cons (field : Variant) (fields : List Variant) :
    fieldLeaves (field :: fields) = variantLeaves (some field) ++ fieldLeaves fields := rfl

theorem variantLeaves_plain {type : BuiltinType} {ext : UInt32}
    (h : type = .null ∨ elementSize type ≠ 0) (v : type.Carrier) :
    variantLeaves (some ⟨type, .scalar v, ext⟩) =
      .field [type.toByte] :: if type = .null then [] else scalarValueLeaves type v := by
  by_cases hnull : type = .null
  · subst hnull
    simp [variantLeaves,VariantValue.isArray]
  have hsize : elementSize type ≠ 0 := h.resolve_left hnull
  have hext : type ≠ .extensionObject := by
    rintro rfl
    exact hsize rfl
  have hvalue : variantValueLeaves ⟨type,.scalar v,ext⟩ = scalarValueLeaves type v := by
    simp only [variantValueLeaves]
    rw [scalarVariantLeaves.eq_2 _ _ _ fun _ h _ => hext h]
  simp [variantLeaves,VariantValue.isArray,hvalue]

theorem variantLeaves_canon (h : field.Plain) :
    SameOrRefused (variantLeaves (some field)) (variantLeaves (some field.canon)) := by
  obtain ⟨type,v,ext,rfl,htype⟩ := h.exists_scalar
  have hcanon : Variant.canon ⟨type,.scalar v,ext⟩ = ⟨type,.scalar (type.canon v),0⟩ := rfl
  rw [hcanon,variantLeaves_plain htype,variantLeaves_plain htype]
  refine SameOrRefused.cons _ ?_
  split
  · exact .inl rfl
  · exact scalarValueLeaves_canon type v

theorem StopsShort.plain (h : field.Plain) :
    StopsShort (binaryWriteVariant (some field)) (variantLeaves (some field)) := by
  obtain ⟨type,v,ext,rfl,htype⟩ := h.exists_scalar
  have hbyte : (type.toByte ||| if (VariantValue.scalar v : VariantValue type).isArray = true
      then 0x80 else 0) = type.toByte := by simp [VariantValue.isArray]
  have hwrite : binaryWriteVariant (some ⟨type,.scalar v,ext⟩) =
      (do MucOpcua.writeFixed [type.toByte]
          if type = .null then Pure.pure () else writeScalarVariant ext type v) := by
    simp only [binaryWriteVariant,hbyte]
    rfl
  rw [hwrite,variantLeaves_plain htype]
  refine StopsShort.cons _ (StopsShort.ite (fun _ => StopsShort.pure) fun hnull => ?_)
  have hsize : elementSize type ≠ 0 := htype.resolve_left hnull
  have hext : type ≠ .extensionObject := by
    rintro rfl
    exact hsize rfl
  rw [writeScalarVariant.eq_2 _ _ _ fun _ h _ => hext h]
  exact StopsShort.scalarValue type v

theorem good_of_runAll {ops : List WriteOp}
    (h : (runAll WriteOp.run ops w).status = Status.good) : w.status = Status.good := by
  by_contra hbad
  have hinert : ∀ (op : WriteOp) (s : BinaryWriter), s.status ≠ Status.good → InertAt op.run s :=
    fun op s hs => op.run_inert s hs
  rw [runAll_of_tripped hinert ops hbad] at h
  exact hbad h

theorem runAll_fixed {ops : List WriteOp} (fields : List (List UInt8))
    (hops : ops.map WriteOp.run = fields.map writeFixed)
    (hgood : (runAll WriteOp.run ops w).status = Status.good) :
    runAll WriteOp.run ops w = w.put fields.flatten ∧
      (fields ≠ [] → w.position + fields.flatten.length ≤ w.length) := by
  induction ops generalizing fields w with
  | nil =>
    obtain rfl : fields = [] := by simpa using hops.symm
    simp
  | cons op ops ih =>
    match fields, hops with
    | bs :: fields, hops =>
      obtain ⟨hop,hops⟩ := List.cons.inj hops
      rw [runAll_cons] at hgood ⊢
      have hnext : (runAll WriteOp.run [op] w).status = Status.good := good_of_runAll hgood
      have hw : w.status = Status.good := good_of_runAll hnext
      rw [runAll_cons] at hnext
      rw [hop] at hgood hnext ⊢
      cases hrun : writeFixed bs w with
      | error s w' =>
        rw [hrun] at hnext
        exact absurd hnext ((writeFixed_emits_map bs).tripped_of_fields hw hrun)
      | ok _ w' =>
        obtain ⟨cs,hcs,rfl,hfit⟩ := (writeFixed_emits bs).put_of_ok hw hrun
        obtain rfl : bs = cs := by simpa [leafBytes,Leaf.bytes] using hcs
        rw [hrun,stateAfter_ok] at hgood
        obtain ⟨hrest,hfit'⟩ := ih fields hops hgood
        refine ⟨?_,fun _ => ?_⟩
        · rw [stateAfter_ok,hrest,List.flatten_cons,BinaryWriter.put_append]
        · have hfirst := hfit (by simp)
          simp only [BinaryWriter.put_position,BinaryWriter.put_length] at hfit'
          rw [List.flatten_cons,List.length_append]
          by_cases hnil : fields = []
          · subst hnil
            simpa using hfirst
          · have := hfit' hnil
            omega

theorem runAll_fields (hplain : ∀ field ∈ fields, field.Plain)
    (hgood : (runAll WriteOp.run (fields.map fun field => .variant (some field)) w).status =
      Status.good) (hroom : w.position ≤ w.length) :
    ∃ bs, runAll WriteOp.run (fields.map fun field => .variant (some field)) w = w.put bs ∧
      w.position + bs.length ≤ w.length ∧
      KeptBytes (fieldLeaves fields) (fieldLeaves (fields.map Variant.canon)) bs := by
  induction fields generalizing w with
  | nil => exact ⟨[],by simp,by simpa using hroom,KeptBytes.nil⟩
  | cons field fields ih =>
    rw [List.map_cons,runAll_cons] at hgood ⊢
    have hfield : field.Plain := hplain field List.mem_cons_self
    have hcanon := variantLeaves_canon hfield
    have hnext : (runAll WriteOp.run [.variant (some field)] w).status = Status.good :=
      good_of_runAll hgood
    have hw : w.status = Status.good := good_of_runAll hnext
    rw [runAll_cons] at hnext
    -- the field itself, complete or stopped short
    obtain ⟨bs,hput,hfit,hbs⟩ : ∃ bs,
        stateAfter (WriteOp.run (.variant (some field)) w) = w.put bs ∧
        w.position + bs.length ≤ w.length ∧
        KeptBytes (variantLeaves (some field)) (variantLeaves (some field.canon)) bs := by
      cases hrun : WriteOp.run (.variant (some field)) w with
      | ok _ w' =>
        obtain ⟨bs,hbs,rfl,hfit⟩ := (binaryWriteVariant_emits (some field)).put_of_ok hw hrun
        refine ⟨bs,rfl,hfit ?_,hcanon.kept hbs⟩
        simp [variantLeaves]
      | error s w' =>
        rw [hrun] at hnext
        obtain ⟨xs,leaf,ys,bs,hsplit,hbs,hleaf,rfl,hfit⟩ :=
          StopsShort.plain hfield w s w' hw hrun hnext
        have hshort (cs : List UInt8) (hcs : leafBytes (variantLeaves (some field.canon)) = some cs) :
            bs.length < cs.length := hcanon.length_lt hsplit hbs hleaf hcs
        refine ⟨bs,rfl,?_,fun cs hcs => (hshort cs hcs).le,.inr hshort⟩
        by_cases hxs : xs = []
        · subst hxs
          obtain rfl : [] = bs := by simpa [leafBytes] using hbs
          simpa using hroom
        · exact hfit hxs
    rw [hput] at hgood ⊢
    obtain ⟨bs',hput',hfit',hbs'⟩ :=
      ih (fun field hmem => hplain field (List.mem_cons_of_mem _ hmem)) hgood (by simpa using hfit)
    simp only [BinaryWriter.put_position,BinaryWriter.put_length] at hfit'
    refine ⟨bs ++ bs',by rw [hput',BinaryWriter.put_append],?_,hbs.append hbs'⟩
    rw [List.length_append]
    omega

theorem runAll_fields_of_fits {bytes : List UInt8}
    (hbytes : leafBytes (fieldLeaves fields) = some bytes)
    (hw : w.status = Status.good) (hbuf : w.buffer.isSome = true)
    (hfit : w.position + bytes.length ≤ w.length) :
    runAll WriteOp.run (fields.map fun field => .variant (some field)) w = w.put bytes := by
  induction fields generalizing w bytes with
  | nil =>
    obtain rfl : [] = bytes := by simpa [fieldLeaves,leafBytes] using hbytes
    simp
  | cons field fields ih =>
    obtain ⟨front,back,hfront,hback,rfl⟩ := leafBytes_split hbytes
    rw [List.length_append] at hfit
    have hrun : WriteOp.run (.variant (some field)) w = .ok () (w.put front) :=
      (binaryWriteVariant_emits (some field)).ok_of_fits hfront hw hbuf (by omega)
    rw [List.map_cons,runAll_cons,hrun,stateAfter_ok,BinaryWriter.put_append]
    refine ih hback hw (by simpa using hbuf) ?_
    simp only [BinaryWriter.put_position,BinaryWriter.put_length]
    omega

def uadpHeader (publisherId : UInt32) (dataSetWriterId : UInt16) : List UInt8 :=
  [uadpSupportedNetworkFlags] ++ ([uadpPublisherIdUint32] ++ (lePutU32 publisherId ++
    ([1] ++ lePutU16 dataSetWriterId)))

@[simp] theorem length_uadpHeader (publisherId : UInt32) (dataSetWriterId : UInt16) :
    (uadpHeader publisherId dataSetWriterId).length = 9 := rfl

theorem take_patch {front field patch back : List UInt8}
    (hn : n = (front ++ field ++ back).length) (hfit : n ≤ buffer.length)
    (hpatch : patch.length = field.length) :
    (Buffer.overwrite (Buffer.overwrite buffer 0 (front ++ field ++ back)) front.length patch).take
      n = front ++ patch ++ back := by
  have htake := Buffer.take_overwrite_zero (hn ▸ hfit) 0
  rw [Nat.add_zero,← hn] at htake
  have hsplit : Buffer.overwrite buffer 0 (front ++ field ++ back) =
      front ++ field ++ (back ++ (Buffer.overwrite buffer 0 (front ++ field ++ back)).drop n) := by
    conv_lhs => rw [← List.take_append_drop n (Buffer.overwrite buffer 0 _),htake]
    simp [Buffer.slice]
  rw [hsplit,Buffer.overwrite_append_middle hpatch,← List.append_assoc]
  apply List.take_left'
  simp only [List.length_append] at hn ⊢
  omega

section

variable {publisherId : UInt32} {writer : DatasetWriter} {buffer out : List UInt8} {n : Nat}

theorem fields_le_of_encodeUadp
    (hrun : encodeUadpNetworkMessage publisherId writer buffer = .ok (out, n)) :
    writer.fields.length ≤ pubsubMaxFields := by
  by_contra hmany
  rw [encodeUadpNetworkMessage,if_pos (Nat.lt_of_not_le hmany)] at hrun
  cases hrun

theorem put_inj {w : BinaryWriter} {bs bytes : List UInt8} (hbuf : w.buffer.isSome = true)
    (hfit : w.position + bs.length ≤ w.length) (hfit' : w.position + bytes.length ≤ w.length)
    (h : w.put bs = w.put bytes) : bs = bytes := by
  calc bs = emitted _ (w.put bs) := (emitted_put hbuf fun _ => hfit).symm
    _ = emitted _ (w.put bytes) := by rw [h]
    _ = bytes := emitted_put hbuf fun _ => hfit'

theorem encodeUadp_bytes (hplain : ∀ field ∈ writer.fields, field.Plain)
    (hrun : encodeUadpNetworkMessage publisherId writer buffer = .ok (out, n)) :
    ∃ bs, out.take n = uadpHeader publisherId writer.dataSetWriterId ++
        lePutU16 (UInt16.ofNat (1 + bs.length)) ++ uadpDatasetFlagsValidVariant :: bs ∧
      1 + bs.length ≤ 0xFFFF ∧ 12 + bs.length ≤ buffer.length ∧
      KeptBytes (fieldLeaves writer.fields) (fieldLeaves (writer.fields.map Variant.canon)) bs ∧
      ∀ bytes, leafBytes (fieldLeaves writer.fields) = some bytes →
        12 + bytes.length ≤ buffer.length → bs = bytes := by
  unfold encodeUadpNetworkMessage at hrun
  split at hrun
  · cases hrun
  split at hrun
  · cases hrun
  dsimp only at hrun
  split at hrun
  · cases hrun
  next hstatus =>
  rw [not_not] at hstatus
  -- the three groups of calls, each good since the last is
  generalize hsecond : runAll WriteOp.run [.uint16 0] _ = w₂ at hrun hstatus
  have hgood₂ : w₂.status = Status.good := good_of_runAll hstatus
  rw [← hsecond] at hgood₂
  generalize hfirst : runAll WriteOp.run _ (BinaryWriter.init buffer) = w₁ at hrun hsecond hgood₂
  have hgood₁ : w₁.status = Status.good := good_of_runAll hgood₂
  rw [← hfirst] at hgood₁
  obtain ⟨hput₁,-⟩ := runAll_fixed [[uadpSupportedNetworkFlags],[uadpPublisherIdUint32],
    lePutU32 publisherId,[1],lePutU16 writer.dataSetWriterId] rfl hgood₁
  obtain ⟨hput₂,-⟩ := runAll_fixed [lePutU16 0] rfl hgood₂
  have hw₁ : w₁ = (BinaryWriter.init buffer).put (uadpHeader publisherId writer.dataSetWriterId) :=
    hfirst.symm.trans hput₁
  have hw₂ : w₂ = w₁.put (lePutU16 0) := hsecond.symm.trans hput₂
  rw [runAll_cons] at hrun hstatus
  have hflag : (runAll WriteOp.run [.byte uadpDatasetFlagsValidVariant] w₂).status = Status.good :=
    good_of_runAll hstatus
  obtain ⟨hput₃,hfit₃⟩ := runAll_fixed [[uadpDatasetFlagsValidVariant]] rfl hflag
  have hw₃ : stateAfter (WriteOp.run (.byte uadpDatasetFlagsValidVariant) w₂) =
      w₂.put [uadpDatasetFlagsValidVariant] := hput₃
  rw [hw₃] at hrun hstatus
  obtain ⟨bs,hw₄,hfit₄,hkept⟩ := runAll_fields hplain hstatus (by simpa using hfit₃)
  -- all that was written, and where the cursor was on the way
  have hall : ((w₂.put [uadpDatasetFlagsValidVariant]).put bs) = (BinaryWriter.init buffer).put
      (uadpHeader publisherId writer.dataSetWriterId ++ lePutU16 0 ++
        uadpDatasetFlagsValidVariant :: bs) := by
    rw [hw₂,hw₁,← BinaryWriter.put_append,← BinaryWriter.put_append,← BinaryWriter.put_append]
    simp
  have hoffset : w₁.position = 9 := by rw [hw₁]; rfl
  have hstart : w₂.position = 11 := by rw [hw₂,hw₁]; rfl
  have hlength : w₂.length = buffer.length := by rw [hw₂,hw₁]; rfl
  have hposition : (w₂.put [uadpDatasetFlagsValidVariant]).position = 12 := by simp [hstart]
  have hroom : (w₂.put [uadpDatasetFlagsValidVariant]).length = buffer.length := hlength
  have hbuf : (w₂.put [uadpDatasetFlagsValidVariant]).buffer.isSome = true := by rw [hw₂,hw₁]; rfl
  rw [hposition,hroom] at hfit₄
  have hcomplete (bytes : List UInt8) (hbytes : leafBytes (fieldLeaves writer.fields) = some bytes)
      (hfit : 12 + bytes.length ≤ buffer.length) : bs = bytes := by
    rw [← hposition,← hroom] at hfit hfit₄
    have hput := runAll_fields_of_fits hbytes (good_of_runAll hstatus) hbuf hfit
    exact put_inj hbuf hfit₄ hfit (hw₄.symm.trans hput)
  have hend : ((BinaryWriter.init buffer).put (uadpHeader publisherId writer.dataSetWriterId ++
      lePutU16 0 ++ uadpDatasetFlagsValidVariant :: bs)).position = 12 + bs.length := by
    simp [BinaryWriter.init]
    omega
  have hmessage : 12 + bs.length - 11 = 1 + bs.length := by omega
  rw [hw₄,hall,hoffset,hstart,hend,hmessage] at hrun
  by_cases hsize : 0xFFFF < 1 + bs.length
  · rw [if_pos hsize] at hrun
    cases hrun
  rw [if_neg hsize] at hrun
  obtain ⟨rfl,rfl⟩ := Prod.mk.inj (Except.ok.inj hrun)
  refine ⟨bs,?_,by omega,by omega,hkept,hcomplete⟩
  refine take_patch ?_ (by omega) rfl
  simp [lePutU16]
  omega

end

/-! ## What the decoder makes of it -/

section

variable {profile : CodecProfile} {mask : UInt8}

theorem Wire.variantRest_scalar (hmask : mask &&& 0xC0 = 0) : Wire.variantRest profile mask =
      if BuiltinType.ofByte (mask &&& 0x3F) = .null then Pure.pure ⟨.null, .scalar (), 0⟩
      else Wire.scalarValue (BuiltinType.ofByte (mask &&& 0x3F)) >>= fun v =>
        Pure.pure ⟨BuiltinType.ofByte (mask &&& 0x3F), .scalar v, 0⟩ := by
  have hbits : ∀ b : BitVec 8, b &&& 0xC0 = 0 → b &&& 0x80 = 0 ∧ b &&& 0x40 = 0 := by decide
  obtain ⟨harray,hdims⟩ := hbits mask.toBitVec (congrArg UInt8.toBitVec hmask)
  have harray' : mask &&& 0x80 = 0 := UInt8.toBitVec_inj.mp harray
  have hdims' : mask &&& 0x40 = 0 := UInt8.toBitVec_inj.mp hdims
  unfold Wire.variantRest
  simp only [harray',hdims',ne_eq,not_true_eq_false,false_and,if_false]

theorem elementSize_of_scalarValue {type : BuiltinType} {src : List UInt8} {v : type.Carrier}
    (h : Wire.scalarValue type src = .done v n) : elementSize type ≠ 0 := by
  cases type with
  | null | guid | xmlElement | expandedNodeId | extensionObject | dataValue | variant
  | diagnosticInfo | reserved => simp [Wire.scalarValue,Wire.refuse] at h
  | boolean | sbyte | byte | int16 | uint16 | int32 | uint32 | float | statusCode | int64 | dateTime
  | uint64 | double | string | byteString | nodeId | qualifiedName | localizedText =>
    simp [elementSize]

variable {rest : List UInt8}

theorem compact_field
    (hmask : mask &&& 0xC0 = 0) (h : Wire.variant profile (mask :: rest) = .done field n) :
    field.Plain ∧ n ≤ rest.length + 1 ∧
      ∃ cs, leafBytes (variantLeaves (some field)) = some cs ∧ cs.length ≤ n := by
  rw [Wire.variant_eq] at h
  obtain ⟨mask',k,m,hbyte,hrest,rfl⟩ := Wire.done_of_bind h
  have hmask' : Outcome.done mask 1 = .done mask' k := hbyte
  cases hmask'
  rw [List.drop_one,Wire.variantRest_scalar hmask] at hrest
  generalize BuiltinType.ofByte (mask &&& 0x3F) = type at hrest
  by_cases hnull : type = .null
  · rw [if_pos hnull] at hrest
    have hpure : Outcome.done (Variant.mk .null (.scalar ()) 0) 0 = .done field m := hrest
    cases hpure
    exact ⟨⟨rfl,.inl rfl⟩,by omega,[0],by simp [variantLeaves,leafBytes,Leaf.bytes,
      BuiltinType.toByte,VariantValue.isArray],by simp⟩
  rw [if_neg hnull] at hrest
  obtain ⟨v,k,m',hvalue,hpure,rfl⟩ := Wire.done_of_bind hrest
  have hpure' : Outcome.done (Variant.mk type (.scalar v) 0) 0 = .done field m' := hpure
  cases hpure'
  have hsize := elementSize_of_scalarValue hvalue
  obtain ⟨hk,cs,hcs,hlen⟩ := Compact.scalarValue type rest v k hvalue
  rw [List.length_take_of_le hk] at hlen
  refine ⟨⟨rfl,.inr hsize⟩,by omega,type.toByte :: cs,?_,by simp only [List.length_cons]; omega⟩
  rw [variantLeaves_plain (.inr hsize),if_neg hnull,leafBytes,hcs]
  rfl

theorem uadpVariantEncodingIsUnsupported_mask
    (h : uadpVariantEncodingIsUnsupported mask = false) : mask &&& 0xC0 = 0 := by
  unfold uadpVariantEncodingIsUnsupported at h
  by_contra hmask
  simp [hmask] at h

structure FieldsRead (left : Nat) (r r' : BinaryReader) (fields : List Variant) : Prop where
  plain : ∀ field ∈ fields, field.Plain
  count : fields.length ≤ left
  length : r'.length = r.length
  compact : ∃ cs, leafBytes (fieldLeaves fields) = some cs ∧ r.position + cs.length ≤ r'.position

theorem FieldsRead.nil (left : Nat) (r : BinaryReader) : FieldsRead left r r [] :=
  ⟨by simp,Nat.zero_le _,rfl,[],rfl,by simp⟩

theorem ok_of_orDecodingError {α : Type} {result : EStateM.Result BadStatus BinaryReader α}
    {a : α} (h : orDecodingError result = .ok (a, r)) : result = .ok a r := by
  cases result with
  | ok b r' =>
    cases h
    rfl
  | error s r' => cases h

theorem decodeUadpFields_ok {left : Nat} {r' : BinaryReader}
    (hbuffer : r.buffer = some buffer) (hgood : r.status = Status.good)
    (h : decodeUadpFields profile left r = .ok (fields, r')) : FieldsRead left r r' fields := by
  induction left generalizing r fields with
  | zero =>
    rw [decodeUadpFields] at h
    split at h
    · cases h
    · cases h
      exact FieldsRead.nil 0 _
  | succ left ih =>
    rw [decodeUadpFields] at h
    split at h
    next hmore =>
      split at h
      · cases h
      next hsupported =>
        obtain ⟨⟨field,r₁⟩,hread,h⟩ := ok_of_except_bind h
        obtain ⟨⟨fields',r₂⟩,hrest,h⟩ := ok_of_except_bind h
        cases h
        obtain ⟨n,hwire,rfl⟩ := (binaryReadVariant_refines profile).done_of_ok_at hbuffer hgood
          (ok_of_orDecodingError hread)
        have hnext : FieldsRead left (r.advance n) r' fields' := ih hbuffer hgood hrest
        -- the encoding byte is there, and was looked at
        have hlen := BinaryReader.length_rest hbuffer
        match hahead : r.rest with
        | [] =>
          rw [hahead,List.length_nil] at hlen
          omega
        | mask :: rest =>
          rw [hahead] at hwire hsupported
          have hmask := uadpVariantEncodingIsUnsupported_mask (Bool.eq_false_of_not_eq_true
            hsupported)
          obtain ⟨hplain,-,cs,hcs,hle⟩ := compact_field hmask hwire
          obtain ⟨ds,hds,hle'⟩ := hnext.compact
          refine ⟨List.forall_mem_cons.mpr ⟨hplain,hnext.plain⟩,?_,hnext.length,cs ++ ds,?_,?_⟩
          · exact Nat.succ_le_succ hnext.count
          · rw [fieldLeaves_cons,leafBytes_append,hcs,hds]
            rfl
          · have hpos : (r.advance n).position = r.position + n := rfl
            rw [List.length_append]
            omega
    · cases h
      exact FieldsRead.nil _ _

theorem Decodes.plain (h : field.Plain) :
    Decodes (Wire.variant profile) (variantLeaves (some field)) field.canon := by
  obtain ⟨type,v,ext,rfl,htype⟩ := h.exists_scalar
  rcases htype with rfl | hsize
  · exact Decodes.nullVariant v
  · exact Decodes.scalarVariant hsize v

theorem plain_mask (h : field.Plain) {bs : List UInt8}
    (hbs : leafBytes (variantLeaves (some field)) = some bs) :
    ∃ mask rest, bs = mask :: rest ∧ uadpVariantEncodingIsUnsupported mask = false := by
  obtain ⟨type,v,ext,rfl,htype⟩ := h.exists_scalar
  rw [variantLeaves_plain htype,leafBytes,Leaf.bytes] at hbs
  obtain ⟨rest,-,rfl⟩ := Option.map_eq_some_iff.mp hbs
  refine ⟨type.toByte,rest,rfl,?_⟩
  cases type <;> first | decide | simp [elementSize] at htype

theorem decodeUadpFields_complete {left : Nat} {bs : List UInt8}
    (hbuffer : r.buffer = some buffer) (hgood : r.status = Status.good)
    (hplain : ∀ field ∈ fields, field.Plain) (hroom : fields.length ≤ left)
    (hbytes : leafBytes (fieldLeaves fields) = some bs) (hrest : r.rest = bs) :
    decodeUadpFields profile left r = .ok (fields.map Variant.canon, r.advance bs.length) := by
  induction fields generalizing left r bs with
  | nil =>
    obtain rfl : [] = bs := by simpa [fieldLeaves,leafBytes] using hbytes
    have hend : ¬ r.position < r.length := by
      have hlen := BinaryReader.length_rest hbuffer
      rw [hrest,List.length_nil] at hlen
      omega
    cases left <;> simp [decodeUadpFields,hend]
  | cons field fields ih =>
    obtain ⟨front,back,hfront,hback,rfl⟩ := leafBytes_split hbytes
    obtain ⟨hfield,hfields⟩ := List.forall_mem_cons.mp hplain
    obtain ⟨mask,rest,rfl,hsupported⟩ := plain_mask hfield hfront
    have hread : binaryReadVariant profile r = .ok field.canon (r.advance (mask :: rest).length) :=
      (binaryReadVariant_refines profile).reads_at hbuffer hgood (Decodes.plain hfield _ hfront)
        hrest
    have hmore : r.position < r.length := by
      have hlen := BinaryReader.length_rest hbuffer
      rw [hrest,List.length_append,List.length_cons] at hlen
      omega
    obtain ⟨left,rfl⟩ : ∃ k, left = k + 1 := Nat.exists_eq_add_one.mpr (Nat.zero_lt_of_lt hroom)
    have hnext : decodeUadpFields profile left (r.advance (mask :: rest).length) =
        .ok (fields.map Variant.canon, (r.advance (mask :: rest).length).advance back.length) := by
      refine ih hbuffer hgood hfields (Nat.le_of_succ_le_succ hroom) hback ?_
      rw [BinaryReader.rest_advance,hrest,List.drop_left]
    rw [decodeUadpFields,if_pos hmore,hrest,if_neg (by simp [hsupported])]
    simp only [hread,orDecodingError,bind,Except.bind,hnext]
    rw [BinaryReader.advance_advance,← List.length_append]
    rfl

theorem binaryReadByte_next {b : UInt8}
    (hbuffer : r.buffer = some buffer) (hgood : r.status = Status.good)
    (hrest : r.rest = [b] ++ rest) :
    binaryReadByte r = .ok b (r.advance 1) ∧ (r.advance 1).rest = rest :=
  binaryReadByte_refines.reads_next (Decodes.byte b _ rfl) hbuffer hgood hrest

theorem binaryReadUint16_next {v : UInt16}
    (hbuffer : r.buffer = some buffer) (hgood : r.status = Status.good)
    (hrest : r.rest = lePutU16 v ++ rest) :
    binaryReadUint16 r = .ok v (r.advance 2) ∧ (r.advance 2).rest = rest :=
  binaryReadUint16_refines.reads_next (Decodes.uint16 v _ rfl) hbuffer hgood hrest

theorem decodeUadp_framed (publisherId : UInt32) (dataSetWriterId size : UInt16)
    (payload : List UInt8) (capacity : Nat) (hsize : size.toNat = payload.length) :
    decodeUadpNetworkMessage profile
        (uadpHeader publisherId dataSetWriterId ++ lePutU16 size ++ payload) capacity =
      (decodeUadpDataSet profile payload capacity).map fun fields =>
        ⟨publisherId, dataSetWriterId, fields⟩ := by
  generalize hmessage : uadpHeader publisherId dataSetWriterId ++ lePutU16 size ++ payload = message
  have hlength : message.length = 11 + payload.length := by
    rw [← hmessage]
    simp [lePutU16]
    omega
  have hstart : (BinaryReader.init message).rest = [uadpSupportedNetworkFlags] ++
      ([uadpPublisherIdUint32] ++ (lePutU32 publisherId ++ ([1] ++ (lePutU16 dataSetWriterId ++
        (lePutU16 size ++ payload))))) := by
    rw [← hmessage]
    rfl
  obtain ⟨hflags,hrest₁⟩ := binaryReadByte_next rfl rfl hstart
  obtain ⟨hextended,hrest₂⟩ := binaryReadByte_next rfl rfl hrest₁
  obtain ⟨hpublisher,hrest₃⟩ : binaryReadUint32 _ = .ok publisherId (BinaryReader.advance _ 4) ∧
      (BinaryReader.advance _ 4).rest = _ :=
    binaryReadUint32_refines.reads_next (Decodes.uint32 _ _ rfl) rfl rfl hrest₂
  obtain ⟨hcount,hrest₄⟩ := binaryReadByte_next rfl rfl hrest₃
  obtain ⟨hwriter,hrest₅⟩ := binaryReadUint16_next rfl rfl hrest₄
  obtain ⟨hmessageSize,-⟩ := binaryReadUint16_next rfl rfl hrest₅
  have hpayload : Buffer.slice message 11 size.toNat = payload := by
    rw [← hmessage,hsize]
    exact List.take_length
  unfold decodeUadpNetworkMessage
  simp only [hflags,hextended,hpublisher,hcount,hwriter,hmessageSize,orDecodingError,bind,
    Except.bind]
  generalize hbinary : BinaryReader.advance _ 2 = binary
  have hend : binary.length = message.length ∧ binary.position = 11 := by
    rw [← hbinary]
    exact ⟨rfl,rfl⟩
  have hsize' : ¬ size.toNat ≠ 11 + payload.length - 11 := by omega
  have hend' : ¬ 11 + size.toNat ≠ 11 + payload.length := by omega
  rw [hend.1,hend.2,hlength,hpayload,if_neg hsize']
  cases decodeUadpDataSet profile payload capacity with
  | error s => rfl
  | ok fields => exact if_neg hend'

theorem decodeUadpDataSet_eq (bs : List UInt8) (capacity : Nat) :
    decodeUadpDataSet profile (uadpDatasetFlagsValidVariant :: bs) capacity =
      (decodeUadpFields profile (min capacity pubsubMaxFields)
        ((BinaryReader.init (uadpDatasetFlagsValidVariant :: bs)).advance 1)).bind
          fun (fields, reader) => if reader.position ≠ reader.length
            then .error Status.badDecodingError else .ok fields := by
  have hstart : (BinaryReader.init (uadpDatasetFlagsValidVariant :: bs)).rest =
      [uadpDatasetFlagsValidVariant] ++ bs := rfl
  obtain ⟨hflags,-⟩ := binaryReadByte_next rfl rfl hstart
  rfl

end

/-! ## Round trip -/

/-- All fields can be encoded, are of types that the decoder takes, and fit: into the buffer with
the headers, and into the storage of the receiver. -/
structure UadpCarries (writer : DatasetWriter) (room capacity : Nat) : Prop where
  plain : ∀ field ∈ writer.fields, field.Plain
  fits : ∃ bytes, leafBytes (fieldLeaves writer.fields) = some bytes ∧ 12 + bytes.length ≤ room
  stored : writer.fields.length ≤ capacity

section

variable {profile : CodecProfile} {capacity : Nat}

theorem dataSet_of_decodeUadp {message : ReceivedMessage}
    (h : decodeUadpNetworkMessage profile buffer capacity = .ok message) :
    ∃ payload, decodeUadpDataSet profile payload capacity = .ok message.fields := by
  obtain ⟨⟨flags,r₁⟩,-,h⟩ := ok_of_except_bind h
  dsimp only at h
  split at h
  · cases h
  obtain ⟨⟨extended,r₂⟩,-,h⟩ := ok_of_except_bind h
  split at h
  · cases h
  split at h
  · cases h
  obtain ⟨⟨publisherId,r₃⟩,-,h⟩ := ok_of_except_bind h
  obtain ⟨⟨count,r₄⟩,-,h⟩ := ok_of_except_bind h
  split at h
  · cases h
  obtain ⟨⟨writerId,r₅⟩,-,h⟩ := ok_of_except_bind h
  obtain ⟨⟨size,r₆⟩,-,h⟩ := ok_of_except_bind h
  split at h
  · cases h
  obtain ⟨fields,hfields,h⟩ := ok_of_except_bind h
  split at h
  · cases h
  · cases h
    exact ⟨_,hfields⟩

theorem plain_of_dataSet {payload : List UInt8}
    (h : decodeUadpDataSet profile payload capacity = .ok fields) :
    (∀ field ∈ fields, field.Plain) ∧ fields.length ≤ capacity := by
  obtain ⟨⟨flags,r₁⟩,hflags,h⟩ := ok_of_except_bind h
  dsimp only at h
  split at h
  · cases h
  obtain ⟨⟨fields',r₂⟩,hfields,h⟩ := ok_of_except_bind h
  split at h
  · cases h
  cases h
  obtain ⟨n,-,rfl⟩ := binaryReadByte_refines.done_of_ok_at rfl rfl (ok_of_orDecodingError hflags)
  have hread := decodeUadpFields_ok rfl rfl hfields
  exact ⟨hread.plain,hread.count.trans (Nat.min_le_left _ _)⟩

end

/-- A message that was encoded is decoded to the same ids and fields exactly if its fields are such
that it can carry them. -/
theorem uadp_round_trip_iff (profile : CodecProfile) (publisherId : UInt32)
    (writer : DatasetWriter) (buffer out : List UInt8) (n capacity : Nat)
    (hrun : encodeUadpNetworkMessage publisherId writer buffer = .ok (out, n)) :
    decodeUadpNetworkMessage profile (out.take n) capacity =
        .ok ⟨publisherId, writer.dataSetWriterId, writer.fields.map Variant.canon⟩ ↔
      UadpCarries writer buffer.length capacity := by
  -- the DataSetMessage of a message whose fields are plain
  have hdataSet {bs : List UInt8} (hsize : 1 + bs.length ≤ 0xFFFF)
      (hout : out.take n = uadpHeader publisherId writer.dataSetWriterId ++
        lePutU16 (UInt16.ofNat (1 + bs.length)) ++ uadpDatasetFlagsValidVariant :: bs) :
      decodeUadpNetworkMessage profile (out.take n) capacity =
        (decodeUadpDataSet profile (uadpDatasetFlagsValidVariant :: bs) capacity).map fun fields =>
          ⟨publisherId,writer.dataSetWriterId,fields⟩ := by
    rw [hout]
    refine decodeUadp_framed _ _ _ _ _ ?_
    rw [UInt16.toNat_ofNat',List.length_cons,Nat.add_comm,Nat.mod_eq_of_lt (by omega)]
  constructor
  · intro hdecode
    obtain ⟨payload,hpayload⟩ := dataSet_of_decodeUadp hdecode
    obtain ⟨hcanon,hcount⟩ := plain_of_dataSet hpayload
    rw [List.length_map] at hcount
    have hplain : ∀ field ∈ writer.fields, field.Plain := fun field hfield =>
      Variant.plain_canon.mp (hcanon _ (List.mem_map_of_mem hfield))
    obtain ⟨bs,hout,hsize,hfit,hkept,-⟩ := encodeUadp_bytes hplain hrun
    rw [hdataSet hsize hout,decodeUadpDataSet_eq] at hdecode
    cases hfields : decodeUadpFields profile (min capacity pubsubMaxFields)
        ((BinaryReader.init (uadpDatasetFlagsValidVariant :: bs)).advance 1) with
    | error s =>
      rw [hfields] at hdecode
      cases hdecode
    | ok result =>
      obtain ⟨fields,r⟩ := result
      rw [hfields] at hdecode
      simp only [Except.bind] at hdecode
      split at hdecode
      · cases hdecode
      next hend =>
        cases hdecode
        have hread := decodeUadpFields_ok rfl rfl hfields
        obtain ⟨cs,hcs,hle⟩ := hread.compact
        -- the decoder has used all bytes, and so many are needed
        have hlength : r.length = bs.length + 1 := hread.length
        have hall : cs.length ≤ bs.length := by
          rw [not_not] at hend
          simp only [BinaryReader.advance_position] at hle
          omega
        rcases hkept.2 with hbytes | hshort
        · exact ⟨hplain,⟨bs,hbytes,hfit⟩,hcount⟩
        · have := hshort cs hcs
          omega
  · intro hcarries
    obtain ⟨bytes,hbytes,hroom⟩ := hcarries.fits
    obtain ⟨bs,hout,hsize,hfit,-,hcomplete⟩ := encodeUadp_bytes hcarries.plain hrun
    obtain rfl := hcomplete bytes hbytes hroom
    have hcount : writer.fields.length ≤ min capacity pubsubMaxFields :=
      Nat.le_min.mpr ⟨hcarries.stored,fields_le_of_encodeUadp hrun⟩
    rw [hdataSet hsize hout,decodeUadpDataSet_eq,
      decodeUadpFields_complete rfl rfl hcarries.plain hcount hbytes rfl]
    simp [Except.bind,Except.map,BinaryReader.init,Nat.add_comm]

namespace Sample

def stringWriter : DatasetWriter := ⟨2, [⟨.string, .scalar (MuString.ofBytes [0x61, 0x62, 0x63]), 0⟩]⟩

def twoFields : DatasetWriter := ⟨2, stringWriter.fields ++ [⟨.boolean, .scalar true, 0⟩]⟩

def twoFieldsMessage : List UInt8 :=
  [0xD1, 0x02, 0x07, 0, 0, 0, 0x01, 0x02, 0, 0x0B, 0, 0x01, 0x0C, 3, 0, 0, 0, 0x61, 0x62, 0x63,
    0x01, 0x01]

end Sample

open Sample in
/-- A String and a Boolean. -/
theorem uadp_round_trip_two :
    decodeUadpNetworkMessage ⟨512, fun _ _ => false⟩ twoFieldsMessage 2 =
      .ok ⟨7, 2, twoFields.fields⟩ :=
  (uadp_round_trip_iff ⟨512,fun _ _ => false⟩ 7 twoFields (List.replicate 22 0) twoFieldsMessage
    22 2 rfl).mpr
    ⟨by simp [twoFields,stringWriter,Variant.Plain,VariantValue.isArray,elementSize],
      ⟨twoFieldsMessage.drop 12,rfl,by simp [twoFieldsMessage]⟩,by simp [twoFields,stringWriter]⟩

open Sample in
/-- The characters of a String do not fit behind its length: the encoder returns Good, and the
decoder refuses what it wrote. -/
theorem uadp_string_cut : encodeUadpNetworkMessage 7 stringWriter (List.replicate 17 0) =
        .ok ([0xD1, 0x02, 0x07, 0, 0, 0, 0x01, 0x02, 0, 0x06, 0, 0x01, 0x0C, 0x03, 0, 0, 0], 17) ∧
      decodeUadpNetworkMessage ⟨512, fun _ _ => false⟩
        [0xD1, 0x02, 0x07, 0, 0, 0, 0x01, 0x02, 0, 0x06, 0, 0x01, 0x0C, 0x03, 0, 0, 0] 1 =
        .error Status.badDecodingError :=
  ⟨rfl,rfl⟩

end MucOpcua
