import MucOpcua.Encoding.NodeidRoundTrip

/-!
# DataValues read back

`binary_variant.c` and `binary_datavalue.c`: a DataValue that was encoded is decoded to the same
DataValue.
-/

namespace MucOpcua

variable {α β : Type}
variable {bs : List UInt8} {profile : CodecProfile} {type : BuiltinType} {w : Wire α}

/-! ## Canonical values -/

def QualifiedName.canon (name : QualifiedName) : QualifiedName :=
  { name with name := name.name.canon }

def LocalizedText.canon (text : LocalizedText) : LocalizedText :=
  ⟨text.locale.canon, text.text.canon⟩

def BuiltinType.canon : (type : BuiltinType) → type.Carrier → type.Carrier
  | .string, v | .byteString, v => MuString.canon v
  | .nodeId, v => NodeId.canon v
  | .qualifiedName, v => QualifiedName.canon v
  | .localizedText, v => LocalizedText.canon v
  | _, v => v

def VariantValue.canon {type : BuiltinType} : VariantValue type → VariantValue type
  | .scalar v => .scalar (type.canon v)
  | .array length elements =>
    .array length (if 0 < length then
      elements.map fun es => ⟨es.val.map type.canon, by simpa using es.property⟩ else none)

/-- `ext_encoding_id` selects a structure writer for ExtensionObjects and is no part of any other
value. -/
def Variant.canon (variant : Variant) : Variant := ⟨variant.type, variant.value.canon, 0⟩

def DataValue.canon (value : DataValue) : DataValue :=
  { value with value := value.value.map Variant.canon }

/-! ## Which values are covered -/

/-- A scalar or an array of a type that has an element size, with the array pointer set where there
are elements, their number within the limit of the build and the length field an int32. -/
def Variant.Supported (profile : CodecProfile) (variant : Variant) : Prop :=
  match variant.value with
  | .scalar _ => variant.type = .null ∨ elementSize variant.type ≠ 0
  | .array length elements =>
    elementSize variant.type ≠ 0 ∧ -2 ^ 31 ≤ length ∧ length ≤ profile.maxArrayLength ∧
      (0 < length → elements.isSome)

def DataValue.Supported (profile : CodecProfile) (value : DataValue) : Prop :=
  ∀ variant, value.value = some variant → variant.Supported profile

def Variant.Readable (profile : CodecProfile) (variant : Variant) : Prop :=
  match variant.value with
  | .scalar _ => True
  | .array length _ =>
    -1 ≤ length ∧ (0 < length → profile.calloc length.toNat (elementSize variant.type) = true)

def DataValue.Readable (profile : CodecProfile) (value : DataValue) : Prop :=
  ∀ variant, value.value = some variant → variant.Readable profile

/-! ## Scalars -/

theorem Decodes.qualifiedName (name : QualifiedName) :
    Decodes Wire.qualifiedName (qualifiedNameLeaves (some name)) name.canon :=
  (Decodes.uint16 name.namespaceIndex).bind <|
    (Decodes.string name.name).bind_pure fun s => QualifiedName.mk name.namespaceIndex s

theorem localizedTextMask_flags (text : LocalizedText) :
    (localizedTextMask text &&& 0x01 ≠ 0 ↔ 0 ≤ text.locale.length) ∧
    (localizedTextMask text &&& 0x02 ≠ 0 ↔ 0 ≤ text.text.length) := by
  unfold localizedTextMask
  by_cases hlocale : 0 ≤ text.locale.length <;> by_cases htext : 0 ≤ text.text.length <;>
    simp only [hlocale,htext] <;> decide

theorem MuString.canon_of_neg {s : MuString} (h : ¬ 0 ≤ s.length) : s.canon = MuString.null := by
  simp [MuString.canon,show s.length < 0 by omega]

theorem Decodes.localizedText (text : LocalizedText) :
    Decodes Wire.localizedText (localizedTextLeaves (some text)) text.canon := by
  obtain ⟨hlocale,htext⟩ := localizedTextMask_flags text
  refine (Decodes.byte (localizedTextMask text)).bind ?_
  refine Decodes.bind (Decodes.when Iff.rfl (fun _ => Decodes.string text.locale) fun hno => ?_) ?_
  · exact (MuString.canon_of_neg fun h => hno (hlocale.mpr h)).symm
  · refine Decodes.bind_pure (Decodes.when Iff.rfl (fun _ => Decodes.string text.text)
      fun hno => ?_) fun text' => LocalizedText.mk text.locale.canon text'
    exact (MuString.canon_of_neg fun h => hno (htext.mpr h)).symm

theorem Decodes.scalarValue (type : BuiltinType) (v : type.Carrier) :
    Decodes (Wire.scalarValue type) (scalarValueLeaves type v) (type.canon v) := by
  cases type with
  | boolean => exact Decodes.boolean v
  | sbyte => exact Decodes.sbyte v
  | byte => exact Decodes.byte v
  | int16 => exact Decodes.int16 v
  | uint16 => exact Decodes.uint16 v
  | int32 => exact Decodes.int32 v
  | uint32 | float | statusCode => exact Decodes.uint32 v
  | int64 | dateTime => exact Decodes.int64 v
  | uint64 | double => exact Decodes.uint64 v
  | string | byteString => exact Decodes.string v
  | nodeId => exact Decodes.nodeid v
  | qualifiedName => exact Decodes.qualifiedName v
  | localizedText => exact Decodes.localizedText v
  | null | guid | xmlElement | expandedNodeId | extensionObject | dataValue | variant
  | diagnosticInfo | reserved => exact Decodes.refusal _ _ _ _

/-! ## Arrays -/

theorem scalarValueLeaves_ne_nil {v : type.Carrier}
    (hbs : leafBytes (scalarValueLeaves type v) = some bs) : bs ≠ [] := by
  rintro rfl
  have hempty := Decodes.scalarValue type v [] hbs []
  cases type <;> nomatch hempty

theorem length_le_of_leafBytes {es : List type.Carrier}
    (hbs : leafBytes (es.flatMap (scalarValueLeaves type)) = some bs) : es.length ≤ bs.length := by
  induction es generalizing bs with
  | nil => simp
  | cons e es ih =>
    obtain ⟨front,back,hfront,hback,rfl⟩ := leafBytes_split hbs
    have hpos : 0 < front.length := List.length_pos_iff.mpr (scalarValueLeaves_ne_nil hfront)
    have := ih hback
    simp only [List.length_cons,List.length_append]
    omega

theorem elementSize_le (type : BuiltinType) : elementSize type ≤ 32 := by
  cases type <;> simp [elementSize]

def Refuses (w : Wire α) (bs : List UInt8) : Prop := ∀ tail, ∃ s, w (bs ++ tail) = .refuse s

theorem Refuses.after {f : α → Wire β} {xs ys : List UInt8} {a : α}
    (hw : Reads w xs a) (hf : Refuses (f a) ys) : Refuses (w >>= f) (xs ++ ys) := by
  intro tail
  obtain ⟨s,hs⟩ := hf tail
  refine ⟨s,?_⟩
  show Wire.bind w f _ = _
  rw [Wire.bind,List.append_assoc,hw]
  simp only [List.drop_left,hs]

theorem Refuses.bind {xs : List UInt8} (hw : Refuses w xs) (f : α → Wire β)
    (ys : List UInt8) : Refuses (w >>= f) (xs ++ ys) := by
  intro tail
  obtain ⟨s,hs⟩ := hw (ys ++ tail)
  refine ⟨s,?_⟩
  show Wire.bind w f _ = _
  rw [Wire.bind,List.append_assoc,hs]

theorem Refuses.map (hw : Refuses w bs) (f : α → β) : Refuses (f <$> w) bs := by
  have h := hw.bind (fun a => Pure.pure (f a)) []
  rwa [List.append_nil] at h

theorem not_sizeMax_div_lt {n : Nat} (hsize : elementSize type ≠ 0)
    (hn : n < 2 ^ 31) : ¬ sizeMax / elementSize type < n := by
  have hle := elementSize_le type
  have hdiv : sizeMax / 32 ≤ sizeMax / elementSize type :=
    Nat.div_le_div_left hle (Nat.pos_of_ne_zero hsize)
  have hbig : 2 ^ 31 ≤ sizeMax / 32 := by decide
  omega

section

variable {profile : CodecProfile} {type : BuiltinType} {es : List type.Carrier} {n : Nat}

theorem Decodes.variantElements (hsize : elementSize type ≠ 0) (hn : es.length = n)
    (hfits : n < 2 ^ 31) (hheap : profile.calloc n (elementSize type) = true) :
    Decodes (Wire.variantElements profile type n) (es.flatMap (scalarValueLeaves type))
      ⟨es.map type.canon, by simpa using hn⟩ := by
  intro bs hbs
  have hlen := length_le_of_leafBytes hbs
  unfold Wire.variantElements
  rw [if_neg hsize]
  refine Reads.peek_bind fun tail => ?_
  have hroom : ¬ ((bs ++ tail).length < n ∨ sizeMax / elementSize type < n) := by
    rintro (hshort | hbig)
    · simp only [List.length_append] at hshort
      omega
    · exact not_sizeMax_div_lt hsize hfits hbig
  rw [if_neg hroom,if_neg (by simp [hheap])]
  exact Decodes.many (Decodes.scalarValue type) es n hn bs hbs tail

theorem refuses_variantElements (hsize : elementSize type ≠ 0)
    (hheap : profile.calloc n (elementSize type) = false) (bs : List UInt8) :
    Refuses (Wire.variantElements profile type n) bs := by
  intro tail
  unfold Wire.variantElements
  rw [if_neg hsize]
  show ∃ s, Wire.bind Wire.peek _ _ = _
  simp only [Wire.bind,Wire.peek]
  by_cases hroom : (bs ++ tail).length < n ∨ sizeMax / elementSize type < n
  · exact ⟨_,by rw [if_pos hroom]; rfl⟩
  · exact ⟨_,by rw [if_neg hroom,if_pos hheap]; rfl⟩

end

/-! ## Variants -/

theorem variantMask_fields (h : type = .null ∨ elementSize type ≠ 0) (isArray : Bool) :
    let mask := type.toByte ||| (if isArray then 0x80 else 0)
    BuiltinType.ofByte (mask &&& 0x3F) = type ∧ (mask &&& 0x80 ≠ 0 ↔ isArray = true) ∧
      ¬ mask &&& 0x40 ≠ 0 := by
  cases type <;> simp only [elementSize,reduceCtorEq,ne_eq,not_true_eq_false,or_false] at h <;>
    cases isArray <;> decide

/-- What the decoder does behind an encoding byte with this type, with and without the array bit;
there are no dimensions. -/
def Wire.variantBody (profile : CodecProfile) (type : BuiltinType) (isArray : Bool) :
    Wire Variant :=
  if isArray then do
    let length := (← int32).toInt
    if length < -1 then
      refuse Status.badDecodingError
    else if (profile.maxArrayLength : Int) < length then
      refuse Status.badEncodingLimitsExceeded
    else
      let elements ← when (0 < length) (some <$> variantElements profile type length.toNat) none
      when False variantDimensions ()
      pure ⟨type, .array length elements, 0⟩
  else do
    let v ← scalarValue type
    pure ⟨type, .scalar v, 0⟩

def Wire.variantRest (profile : CodecProfile) (encodingMask : UInt8) : Wire Variant :=
  let type := BuiltinType.ofByte (encodingMask &&& 0x3F)
  let isArray := encodingMask &&& 0x80 ≠ 0
  let hasDimensions := encodingMask &&& 0x40 ≠ 0
  if hasDimensions ∧ ¬ isArray then
    refuse Status.badDecodingError
  else if type = .null then
    pure ⟨.null, .scalar (), 0⟩
  else if isArray then do
    let length := (← int32).toInt
    if length < -1 then
      refuse Status.badDecodingError
    else if (profile.maxArrayLength : Int) < length then
      refuse Status.badEncodingLimitsExceeded
    else
      let elements ← when (0 < length) (some <$> variantElements profile type length.toNat) none
      when hasDimensions variantDimensions ()
      pure ⟨type, .array length elements, 0⟩
  else do
    let v ← scalarValue type
    pure ⟨type, .scalar v, 0⟩

theorem Wire.variant_eq (profile : CodecProfile) :
    Wire.variant profile = Wire.byte >>= Wire.variantRest profile := rfl

theorem Wire.variantRest_eq (profile : CodecProfile)
    (hsize : elementSize type ≠ 0) (isArray : Bool) :
    Wire.variantRest profile (type.toByte ||| (if isArray then 0x80 else 0)) =
      Wire.variantBody profile type isArray := by
  obtain ⟨htype,harray,hdims⟩ := variantMask_fields (.inr hsize) isArray
  have hnull : type ≠ .null := by
    rintro rfl
    exact hsize rfl
  generalize (type.toByte ||| (if isArray then 0x80 else 0)) = mask at htype harray hdims ⊢
  subst htype
  unfold Wire.variantRest Wire.variantBody
  rw [if_neg fun hbad => hdims hbad.1,if_neg hnull]
  have hwhen : Wire.when (mask &&& 0x40 ≠ 0) Wire.variantDimensions () =
      Wire.when False Wire.variantDimensions () := by
    rw [Wire.when,if_neg hdims,Wire.when,if_false]
  simp only [harray,hwhen]

section

variable {profile : CodecProfile} {type : BuiltinType} {ext : UInt32} {length : Int}
  {elements : Option { es : List type.Carrier // es.length = length.toNat }}

theorem variantLeaves_eq (hsize : elementSize type ≠ 0) (value : VariantValue type) :
    variantLeaves (some ⟨type, value, ext⟩) =
      [.field [type.toByte ||| (if value.isArray then 0x80 else 0)]] ++
        variantValueLeaves ⟨type, value, ext⟩ := by
  have hnull : type ≠ .null := by
    rintro rfl
    exact hsize rfl
  simp [variantLeaves,hnull]

theorem Decodes.scalarVariant (hsize : elementSize type ≠ 0) (v : type.Carrier) :
    Decodes (Wire.variant profile) (variantLeaves (some ⟨type, .scalar v, ext⟩))
      ⟨type, .scalar (type.canon v), 0⟩ := by
  have hext : type ≠ .extensionObject := by
    rintro rfl
    exact hsize rfl
  rw [variantLeaves_eq hsize,Wire.variant_eq]
  refine (Decodes.byte _).bind ?_
  rw [Wire.variantRest_eq profile hsize]
  have hleaves : variantValueLeaves ⟨type,.scalar v,ext⟩ = scalarValueLeaves type v := by
    simp only [variantValueLeaves]
    rw [scalarVariantLeaves.eq_2 _ _ _ fun _ h _ => hext h]
  rw [hleaves]
  exact (Decodes.scalarValue type v).bind_pure fun v => Variant.mk type (.scalar v) 0

theorem Decodes.nullVariant (v : BuiltinType.null.Carrier) :
    Decodes (Wire.variant profile) (variantLeaves (some ⟨.null, .scalar v, ext⟩))
      ⟨.null, .scalar v, 0⟩ := by
  have hrest : Wire.variantRest profile 0x00 = Pure.pure ⟨.null,.scalar v,0⟩ := rfl
  have hleaves : variantLeaves (some ⟨.null,.scalar v,ext⟩) = [.field [0x00]] := by
    simp [variantLeaves,BuiltinType.toByte,VariantValue.isArray]
  rw [hleaves]
  exact (Decodes.byte 0x00).bind (f := Wire.variantRest profile)
    (hrest ▸ Decodes.pure (Variant.mk .null (.scalar v) 0))

theorem arrayLeaves_eq (hsize : elementSize type ≠ 0) (hptr : 0 < length → elements.isSome = true) :
    variantValueLeaves ⟨type, .array length elements, ext⟩ =
      [.field (lePutU32 (Int32.ofInt length).toUInt32)] ++
        (if 0 < length then (elements.elim [] fun es => es.val.flatMap (scalarValueLeaves type))
          else []) := by
  have hext : type ≠ .extensionObject := by
    rintro rfl
    exact hsize rfl
  have helements (es : List type.Carrier) :
      arrayElementLeaves type es = es.flatMap (scalarValueLeaves type) := by
    rw [arrayElementLeaves.eq_2 _ _ fun _ h _ => hext h,if_neg hsize]
  cases elements with
  | none => simp [variantValueLeaves]
  | some es =>
    by_cases hpos : 0 < length
    · have hnonneg : 0 ≤ length := by omega
      simp [variantValueLeaves,hpos,hnonneg,helements]
    · have hnil : es.val = [] := List.length_eq_zero_iff.mp (by rw [es.property]; omega)
      simp [variantValueLeaves,helements,hnil]

theorem Decodes.arrayVariant (hsize : elementSize type ≠ 0)
    (hmax : profile.maxArrayLength < 2 ^ 31) (hlow : -1 ≤ length)
    (hhigh : length ≤ profile.maxArrayLength) (hptr : 0 < length → elements.isSome = true)
    (hheap : 0 < length → profile.calloc length.toNat (elementSize type) = true) :
    Decodes (Wire.variant profile) (variantLeaves (some ⟨type, .array length elements, ext⟩))
      (Variant.mk type (.array length elements) ext).canon := by
  rw [variantLeaves_eq hsize,Wire.variant_eq,arrayLeaves_eq hsize hptr]
  refine (Decodes.byte _).bind ?_
  rw [Wire.variantRest_eq profile hsize]
  have hlen : (Int32.ofInt length).toInt = length := toInt_ofInt_of_fits (by omega) (by omega)
  refine (Decodes.int32 (Int32.ofInt length)).bind ?_
  generalize (Int32.ofInt length).toInt = decoded at hlen ⊢
  subst hlen
  rw [if_neg (by omega),if_neg (by omega)]
  have helements : Decodes
      (Wire.when (0 < decoded) (some <$> Wire.variantElements profile type decoded.toNat) none)
      (if 0 < decoded then elements.elim [] fun es => es.val.flatMap (scalarValueLeaves type)
        else [])
      (if 0 < decoded then
        elements.map fun es => ⟨es.val.map type.canon,by simpa using es.property⟩ else none) := by
    by_cases hpos : 0 < decoded
    · obtain ⟨es,rfl⟩ := Option.isSome_iff_exists.mp (hptr hpos)
      simp only [Wire.when,if_pos hpos]
      exact (Decodes.variantElements hsize es.property (by omega) (hheap hpos)).map some
    · simp only [Wire.when,if_neg hpos]
      exact Decodes.pure none
  have hall := helements.bind (f := fun elements => Wire.when False Wire.variantDimensions () >>=
    fun _ => Pure.pure (Variant.mk type (.array decoded elements) 0))
    ((Decodes.pure ()).bind_pure fun _ => Variant.mk type (.array decoded _) 0)
  rw [List.append_nil] at hall
  exact hall

theorem refuses_arrayVariant (hsize : elementSize type ≠ 0)
    (hmax : profile.maxArrayLength < 2 ^ 31) (hint : -2 ^ 31 ≤ length)
    (hhigh : length ≤ profile.maxArrayLength) (hptr : 0 < length → elements.isSome = true)
    (hno : ¬ (-1 ≤ length ∧ (0 < length → profile.calloc length.toNat (elementSize type) = true)))
    (hbs : leafBytes (variantLeaves (some ⟨type, .array length elements, ext⟩)) = some bs) :
    Refuses (Wire.variant profile) bs := by
  rw [variantLeaves_eq hsize,arrayLeaves_eq hsize hptr] at hbs
  obtain ⟨rest,hrest,rfl⟩ := Option.map_eq_some_iff.mp hbs
  obtain ⟨tail,-,rfl⟩ := Option.map_eq_some_iff.mp hrest
  rw [Wire.variant_eq]
  refine Refuses.after (Decodes.byte _ _ rfl) ?_
  rw [Wire.variantRest_eq profile hsize]
  have hlen : (Int32.ofInt length).toInt = length := toInt_ofInt_of_fits (by omega) (by omega)
  refine Refuses.after (Decodes.int32 (Int32.ofInt length) _ rfl) ?_
  rw [hlen]
  by_cases hlow : length < -1
  · rw [if_pos hlow]
    exact fun _ => ⟨_,rfl⟩
  rw [if_neg hlow,if_neg (by omega)]
  have hpos : 0 < length := by
    by_contra hpos
    exact hno ⟨by omega,fun h => absurd h hpos⟩
  have hheap : profile.calloc length.toNat (elementSize type) = false := by
    cases hcalloc : profile.calloc length.toNat (elementSize type) with
    | false => rfl
    | true => exact absurd ⟨by omega,fun _ => hcalloc⟩ hno
  have helements := (refuses_variantElements hsize hheap tail).map some
  rw [Wire.when,if_pos hpos]
  have hall := helements.bind (fun elements => Wire.when False Wire.variantDimensions () >>=
    fun _ => Pure.pure (Variant.mk type (.array length elements) 0)) []
  rwa [List.append_nil] at hall

end

theorem Decodes.variant (hmax : profile.maxArrayLength < 2 ^ 31)
    {variant : Variant} (hsupported : variant.Supported profile)
    (hreadable : variant.Readable profile) :
    Decodes (Wire.variant profile) (variantLeaves (some variant)) variant.canon := by
  obtain ⟨type,value,ext⟩ := variant
  cases value with
  | scalar v =>
    rcases hsupported with rfl | hsize
    · exact Decodes.nullVariant v
    · exact Decodes.scalarVariant hsize v
  | array length elements =>
    obtain ⟨hsize,-,hhigh,hptr⟩ := hsupported
    obtain ⟨hlow,hheap⟩ := hreadable
    exact Decodes.arrayVariant hsize hmax hlow hhigh hptr hheap

theorem refuses_variant (hmax : profile.maxArrayLength < 2 ^ 31)
    {variant : Variant} (hsupported : variant.Supported profile)
    (hunreadable : ¬ variant.Readable profile)
    (hbs : leafBytes (variantLeaves (some variant)) = some bs) :
    Refuses (Wire.variant profile) bs := by
  obtain ⟨type,value,ext⟩ := variant
  cases value with
  | scalar v => exact absurd trivial hunreadable
  | array length elements =>
    obtain ⟨hsize,hint,hhigh,hptr⟩ := hsupported
    exact refuses_arrayVariant hsize hmax hint hhigh hptr hunreadable hbs

/-! ## DataValues -/

theorem datavalueMask_flags (value : DataValue) :
    (datavalueMask value &&& 0x01 ≠ 0 ↔ value.value.isSome) ∧
    (datavalueMask value &&& 0x02 ≠ 0 ↔ value.status.isSome) ∧
    (datavalueMask value &&& 0x04 ≠ 0 ↔ value.sourceTimestamp.isSome) ∧
    (datavalueMask value &&& 0x10 ≠ 0 ↔ value.sourcePicoseconds.isSome) ∧
    (datavalueMask value &&& 0x08 ≠ 0 ↔ value.serverTimestamp.isSome) ∧
    (datavalueMask value &&& 0x20 ≠ 0 ↔ value.serverPicoseconds.isSome) := by
  unfold datavalueMask
  cases value.value.isSome <;> cases value.status.isSome <;>
    cases value.sourceTimestamp.isSome <;> cases value.sourcePicoseconds.isSome <;>
    cases value.serverTimestamp.isSome <;> cases value.serverPicoseconds.isSome <;> decide

theorem Decodes.optional {leaves : α → List Leaf} {canon : α → α} {p : Prop}
    [Decidable p] {v : Option α} (hp : p ↔ v.isSome)
    (h : ∀ a, v = some a → Decodes w (leaves a) (canon a)) :
    Decodes (Wire.optional p w) (v.elim [] leaves) (v.map canon) := by
  cases v with
  | none =>
    rw [Wire.optional,Wire.when,if_neg (by simpa using hp)]
    exact Decodes.pure none
  | some a =>
    rw [Wire.optional,Wire.when,if_pos (by simpa using hp)]
    exact (h a rfl).map some

theorem Decodes.optionalField {leaves : α → List Leaf} {p : Prop} [Decidable p]
    {v : Option α} (hp : p ↔ v.isSome) (h : ∀ a, Decodes w (leaves a) a) :
    Decodes (Wire.optional p w) (v.elim [] leaves) v := by
  have hread := Decodes.optional hp fun a _ => (h (id a))
  rwa [Option.map_id_fun] at hread

theorem Decodes.datavalue (hmax : profile.maxArrayLength < 2 ^ 31)
    {value : DataValue} (hsupported : value.Supported profile)
    (hreadable : value.Readable profile) :
    Decodes (Wire.datavalue profile) (datavalueLeaves (some value)) value.canon := by
  obtain ⟨hvalue,hstatus,hsource,hsourcePico,hserver,hserverPico⟩ := datavalueMask_flags value
  refine (Decodes.byte (datavalueMask value)).bind ?_
  refine Decodes.bind (Decodes.optional hvalue fun variant hvariant =>
    Decodes.variant hmax (hsupported variant hvariant) (hreadable variant hvariant)) ?_
  refine Decodes.bind (Decodes.optionalField hstatus Decodes.uint32) ?_
  refine Decodes.bind (Decodes.optionalField hsource Decodes.int64) ?_
  refine Decodes.bind (Decodes.optionalField hsourcePico Decodes.uint16) ?_
  refine Decodes.bind (Decodes.optionalField hserver Decodes.int64) ?_
  exact (Decodes.optionalField hserverPico Decodes.uint16).bind_pure fun serverPicoseconds =>
    DataValue.mk (value.value.map Variant.canon) value.status value.sourceTimestamp
      value.sourcePicoseconds value.serverTimestamp serverPicoseconds

theorem refuses_datavalue (hmax : profile.maxArrayLength < 2 ^ 31)
    {value : DataValue} (hsupported : value.Supported profile)
    (hunreadable : ¬ value.Readable profile)
    (hbs : leafBytes (datavalueLeaves (some value)) = some bs) :
    Refuses (Wire.datavalue profile) bs := by
  obtain ⟨variant,hvariant,hno⟩ : ∃ variant, value.value = some variant ∧
      ¬ variant.Readable profile := by
    simpa [DataValue.Readable] using hunreadable
  have hflag := (datavalueMask_flags value).1
  simp only [datavalueLeaves,hvariant] at hbs
  obtain ⟨rest,hrest,rfl⟩ := Option.map_eq_some_iff.mp hbs
  obtain ⟨front,back,hfront,-,rfl⟩ := leafBytes_split hrest
  refine Refuses.after (Decodes.byte _ _ rfl) ?_
  have hfirst : Refuses (Wire.optional (datavalueMask value &&& 0x01 ≠ 0) (Wire.variant profile))
      front := by
    rw [Wire.optional,Wire.when,if_pos (hflag.mpr (by simp [hvariant]))]
    exact (refuses_variant hmax (hsupported variant hvariant) hno hfront).map some
  exact hfirst.bind _ back

/-! ## Round trips of the code -/

theorem Refines.not_ok_of_refuses {m : ReadM α} (hm : Refines m w)
    (h : Refuses w bs) (a : α) : ¬ ReadsBack m bs a := by
  rintro ⟨r,hok,-⟩
  obtain ⟨n,hdone,-⟩ := hm.done_of_ok hok
  obtain ⟨s,hs⟩ := h []
  rw [List.append_nil,hdone] at hs
  nomatch hs

/-- An encoded DataValue is read back from exactly its bytes if, and only if, its array, where it
has one, has a length of at least -1 and elements the heap can hold. -/
theorem datavalue_codec (profile : CodecProfile) (hmax : profile.maxArrayLength < 2 ^ 31)
    (value : DataValue) (hsupported : value.Supported profile) (w w' : BinaryWriter)
    (hbuf : w.buffer.isSome = true) (hrun : binaryWriteDatavalue (some value) w = .ok () w') :
    ReadsBack (binaryReadDatavalue profile) (emitted w w') value.canon ↔ value.Readable profile := by
  have hbytes := (binaryWriteDatavalue_emits (some value)).emitted_of_ok
    (WriteOp.run_inert (.datavalue (some value))) hbuf hrun
  constructor
  · intro hback
    by_contra hunreadable
    exact (binaryReadDatavalue_refines profile).not_ok_of_refuses
      (refuses_datavalue hmax hsupported hunreadable hbytes) _ hback
  · intro hreadable
    exact (binaryReadDatavalue_refines profile).readsBack
      (Decodes.datavalue hmax hsupported hreadable _ hbytes)

def twoStrings : DataValue :=
  ⟨some ⟨.string, .array 2 (some ⟨([.ofBytes [0x61], .ofBytes [0x62, 0x63]] : List MuString), rfl⟩),
    0⟩, some 0, none, none, none, none⟩

def twoStringsEncoding : List UInt8 :=
  [0x03, 0x8C, 2, 0, 0, 0, 1, 0, 0, 0, 0x61, 2, 0, 0, 0, 0x62, 0x63, 0, 0, 0, 0]

theorem twoStrings_supported (h : 2 ≤ profile.maxArrayLength) :
    twoStrings.Supported profile := by
  intro variant hvariant
  obtain rfl : _ = variant := Option.some.inj hvariant
  exact ⟨by decide,by decide,by exact_mod_cast h,fun _ => rfl⟩

theorem datavalue_codec_twoStrings :
    ReadsBack (binaryReadDatavalue ⟨512, fun _ _ => true⟩) twoStringsEncoding
      twoStrings.canon := by
  refine (datavalue_codec ⟨512,fun _ _ => true⟩ (by decide) twoStrings
    (twoStrings_supported (by decide)) (BinaryWriter.init (List.replicate 21 0))
    ((BinaryWriter.init (List.replicate 21 0)).put twoStringsEncoding) rfl rfl).mpr ?_
  intro variant hvariant
  obtain rfl : _ = variant := Option.some.inj hvariant
  exact ⟨by decide,fun _ => rfl⟩

/-- A build without a heap encodes the array and cannot read it back. -/
theorem noHeap_array_not_read_back : twoStrings.Supported ⟨512, fun _ _ => false⟩ ∧
    binaryWriteDatavalue (some twoStrings) (BinaryWriter.init (List.replicate 21 0)) =
      .ok () ((BinaryWriter.init (List.replicate 21 0)).put twoStringsEncoding) ∧
    binaryReadDatavalue ⟨512, fun _ _ => false⟩ (BinaryReader.init twoStringsEncoding) =
      .error Status.badOutOfMemory ((BinaryReader.init twoStringsEncoding).advance 6) :=
  ⟨twoStrings_supported (by decide),rfl,rfl⟩

end MucOpcua
