import MucOpcua.Encoding.RoundTrip

/-!
# NodeIds read back

Both directions of `binary_nodeid.c`: what the encoders write is decoded to the same NodeId, and
what the plain decoder accepts is compared with the encodings of OPC-10000-6 §5.2.2.9.
-/

namespace MucOpcua

variable {α β : Type}
variable {P : List UInt8 → α → Prop} {format : UInt8} {node : NodeId} {w : Wire α}

/-! ## Canonical NodeIds -/

def NodeIdentifier.canon : NodeIdentifier → NodeIdentifier
  | .string s => .string s.canon
  | identifier => identifier

def NodeId.canon (node : NodeId) : NodeId := { node with identifier := node.identifier.canon }

def ExpandedNodeId.canon (expanded : ExpandedNodeId) : ExpandedNodeId :=
  { expanded with nodeId := expanded.nodeId.canon, namespaceUri := expanded.namespaceUri.canon }

/-! ## What the encoders write is read back -/

def Wire.nodeidBody (encodingMask : UInt8) : Wire NodeId :=
  match (encodingMask &&& 0x0F).toNat with
  | 0x00 => do
    let id ← byte
    pure ⟨0, .numeric id.toUInt32⟩
  | 0x01 => do
    let ns ← byte
    let id ← uint16
    pure ⟨ns.toUInt16, .numeric id.toUInt32⟩
  | 0x02 => do
    let ns ← uint16
    let id ← uint32
    pure ⟨ns, .numeric id⟩
  | 0x03 => do
    let ns ← uint16
    let s ← string
    pure ⟨ns, .string s⟩
  | 0x04 => do
    let ns ← uint16
    let bytes ← many byte 16
    pure ⟨ns, .guid bytes⟩
  | 0x05 => do
    let ns ← uint16
    let opaqueLen := (← int32).toInt
    if h : opaqueLen < 0 ∨ 16 < opaqueLen then
      refuse Status.badDecodingError
    else
      let data ← many byte opaqueLen.toNat
      pure ⟨ns, .opaqueId ⟨data.val, NodeIdentifier.length_le h data⟩⟩
  | _ => refuse Status.badDecodingError

theorem nodeidLeaves_eq (h : nodeidFormat node = some format) :
    nodeidLeaves (some node) = .field [format] :: (nodeidLeaves (some node)).tail := by
  obtain ⟨ns,identifier⟩ := node
  cases identifier with
  | numeric id =>
    simp only [nodeidFormat] at h
    simp only [nodeidLeaves]
    by_cases htwo : ns = 0 ∧ id ≤ 255
    · rw [if_pos htwo] at h ⊢
      simp_all
    rw [if_neg htwo] at h ⊢
    by_cases hfour : ns ≤ 255 ∧ id ≤ 65535
    · rw [if_pos hfour] at h ⊢
      simp_all
    · rw [if_neg hfour] at h ⊢
      simp_all
  | string s | guid bytes | opaqueId data => simp_all [nodeidFormat,nodeidLeaves]
  | unknown t => simp [nodeidFormat] at h

theorem Decodes.manyByte (bs : List UInt8) (n : Nat) (hn : bs.length = n) :
    Decodes (Wire.many Wire.byte n) (byteLeaves bs) ⟨bs, hn⟩ := by
  have h := Decodes.many (fun b => Decodes.byte (id b)) bs n hn
  simp only [List.map_id_fun] at h
  exact h

theorem Decodes.nodeidBody {mask : UInt8}
    (hformat : nodeidFormat node = some format) (hmask : mask &&& 0x0F = format) :
    Decodes (Wire.nodeidBody mask) (nodeidLeaves (some node)).tail node.canon := by
  unfold Wire.nodeidBody
  obtain ⟨ns,identifier⟩ := node
  cases identifier with
  | numeric id =>
    simp only [nodeidFormat] at hformat
    simp only [nodeidLeaves]
    by_cases htwo : ns = 0 ∧ id ≤ 255
    · rw [if_pos htwo] at hformat ⊢
      obtain ⟨rfl,hid⟩ := htwo
      obtain rfl : 0x00 = format := by simpa using hformat
      rw [hmask]
      have hid' : id.toUInt8.toUInt32 = id := by
        rw [UInt32.toUInt32_toUInt8]
        grind
      have hread := (Decodes.byte id.toUInt8).bind_pure fun id =>
        (⟨0,.numeric id.toUInt32⟩ : NodeId)
      rw [hid'] at hread
      exact hread
    · rw [if_neg htwo] at hformat ⊢
      by_cases hfour : ns ≤ 255 ∧ id ≤ 65535
      · rw [if_pos hfour] at hformat ⊢
        obtain ⟨hns,hid⟩ := hfour
        obtain rfl : 0x01 = format := by simpa using hformat
        rw [hmask]
        have hns' : ns.toUInt8.toUInt16 = ns := by
          rw [UInt16.toUInt16_toUInt8]
          grind
        have hid' : id.toUInt16.toUInt32 = id := by
          rw [UInt32.toUInt32_toUInt16]
          grind
        have hcanon : (NodeId.mk ns (.numeric id)).canon =
            ⟨ns.toUInt8.toUInt16,.numeric id.toUInt16.toUInt32⟩ := by
          rw [hns',hid']
          rfl
        rw [hcanon]
        refine (Decodes.byte ns.toUInt8).bind ?_
        exact (Decodes.uint16 id.toUInt16).bind_pure
          fun id => NodeId.mk ns.toUInt8.toUInt16 (.numeric id.toUInt32)
      · rw [if_neg hfour] at hformat ⊢
        obtain rfl : 0x02 = format := by simpa using hformat
        rw [hmask]
        refine (Decodes.uint16 ns).bind ?_
        exact (Decodes.uint32 id).bind_pure fun id => NodeId.mk ns (.numeric id)
  | string s =>
    obtain rfl : 0x03 = format := by simpa [nodeidFormat] using hformat
    rw [hmask]
    refine (Decodes.uint16 ns).bind ?_
    exact (Decodes.string s).bind_pure fun s => NodeId.mk ns (.string s)
  | guid bytes =>
    obtain rfl : 0x04 = format := by simpa [nodeidFormat] using hformat
    rw [hmask]
    refine (Decodes.uint16 ns).bind ?_
    exact (Decodes.manyByte bytes.val 16 bytes.property).bind_pure
      fun bytes => NodeId.mk ns (.guid bytes)
  | opaqueId data =>
    obtain rfl : 0x05 = format := by simpa [nodeidFormat] using hformat
    rw [hmask]
    have hlen : (Int32.ofNat data.val.length).toInt = data.val.length := by
      exact toInt_ofInt_of_fits (n := data.val.length) (by omega) (by omega)
    refine (Decodes.uint16 ns).bind ((Decodes.int32 (Int32.ofNat data.val.length)).bind ?_)
    rw [dif_neg (by rw [hlen]; have := data.property; omega)]
    have hread := (Decodes.manyByte data.val (Int32.ofNat data.val.length).toInt.toNat
      (by rw [hlen]; rfl)).bind_pure fun bytes => NodeId.mk ns (.opaqueId ⟨bytes.val,by
        omega⟩)
    exact hread
  | unknown t => simp [nodeidFormat] at hformat

theorem Decodes.nodeid (node : NodeId) :
    Decodes Wire.nodeid (nodeidLeaves (some node)) node.canon := by
  cases hformat : nodeidFormat node with
  | none =>
    obtain ⟨ns,identifier⟩ := node
    cases identifier with
    | numeric id =>
      simp only [nodeidFormat] at hformat
      split at hformat
      · simp at hformat
      · split at hformat <;> simp at hformat
    | string s | guid bytes | opaqueId data => simp [nodeidFormat] at hformat
    | unknown t => exact Decodes.refusal _ _ _ _
  | some format =>
    have hlow : format &&& 0x0F = format := by
      have hmem := nodeidFormat_mem hformat
      simp only [List.mem_cons,List.not_mem_nil,or_false] at hmem
      rcases hmem with rfl | rfl | rfl | rfl | rfl | rfl <;> decide
    rw [nodeidLeaves_eq hformat]
    exact (Decodes.byte format).bind (Decodes.nodeidBody hformat hlow)

theorem expandedNodeidMask_flags (h : format ∈ [0, 1, 2, 3, 4, 5]) (value : ExpandedNodeId) :
    (expandedNodeidMask format value &&& 0x80 ≠ 0 ↔
      0 ≤ value.namespaceUri.length ∧ value.namespaceUri.data.isSome) ∧
    (expandedNodeidMask format value &&& 0x40 ≠ 0 ↔ value.serverIndex ≠ 0) := by
  unfold expandedNodeidMask
  simp only [List.mem_cons,List.not_mem_nil,or_false] at h
  rcases h with rfl | rfl | rfl | rfl | rfl | rfl <;>
    by_cases huri : 0 ≤ value.namespaceUri.length ∧ value.namespaceUri.data.isSome <;>
    by_cases hindex : value.serverIndex ≠ 0 <;>
    simp only [huri,hindex,ne_eq] <;> decide

theorem Decodes.expandedNodeid (expanded : ExpandedNodeId)
    (huri : 0 ≤ expanded.namespaceUri.length → expanded.namespaceUri.data.isSome) :
    Decodes Wire.expandedNodeid (expandedNodeidLeaves (some expanded)) expanded.canon := by
  simp only [expandedNodeidLeaves]
  cases hformat : nodeidFormat expanded.nodeId with
  | none => exact Decodes.refusal _ _ _ _
  | some format =>
    have hmem := nodeidFormat_mem hformat
    obtain ⟨hflagUri,hflagIndex⟩ := expandedNodeidMask_flags hmem expanded
    have hlow := expandedNodeidMask_format hmem expanded
    dsimp only
    generalize expandedNodeidMask format expanded = mask at hflagUri hflagIndex hlow ⊢
    -- Behind the peek the decoder is a sequence of decoders, each with its own leaves.
    have hbody : Decodes (Wire.nodeid >>= fun nodeId =>
        Wire.when (mask &&& 0x80 ≠ 0) Wire.string MuString.null >>= fun namespaceUri =>
        Wire.when (mask &&& 0x40 ≠ 0) Wire.uint32 0 >>= fun serverIndex =>
        Pure.pure ⟨nodeId,namespaceUri,serverIndex⟩)
        ((.field [mask] :: (nodeidLeaves (some expanded.nodeId)).tail) ++
          ((if mask &&& 0x80 ≠ 0 then stringLeaves (some expanded.namespaceUri) else []) ++
            if mask &&& 0x40 ≠ 0 then [.field (lePutU32 expanded.serverIndex)] else []))
        expanded.canon := by
      refine Decodes.bind ((Decodes.byte mask).bind (Decodes.nodeidBody hformat hlow)) ?_
      have hstring : Decodes (Wire.when (mask &&& 0x80 ≠ 0) Wire.string MuString.null)
          (if mask &&& 0x80 ≠ 0 then stringLeaves (some expanded.namespaceUri) else [])
          expanded.namespaceUri.canon := by
        refine Decodes.when Iff.rfl (fun _ => Decodes.string _) fun hno => ?_
        have hneg : expanded.namespaceUri.length < 0 := by
          by_contra hpos
          exact hno (hflagUri.mpr ⟨by omega,huri (by omega)⟩)
        simp [MuString.canon,hneg]
      refine hstring.bind ?_
      refine Decodes.bind_pure (Decodes.when Iff.rfl (fun _ => Decodes.uint32 _) fun hno => ?_)
        fun serverIndex => ExpandedNodeId.mk _ _ serverIndex
      by_contra hne
      exact hno (hflagIndex.mpr fun hzero => hne hzero.symm)
    intro bs hbs
    have hread := hbody bs hbs
    obtain ⟨rest,rfl⟩ : ∃ rest, bs = mask :: rest := by
      simp only [leafBytes,Leaf.bytes,Option.bind_some,Option.map_eq_some_iff] at hbs
      obtain ⟨rest,-,rfl⟩ := hbs
      exact ⟨rest,rfl⟩
    refine Reads.peek_bind fun tail => ?_
    exact hread tail

/-! ## What the plain decoder accepts -/

theorem Wire.done_of_bind {α β : Type} {w : Wire α} {f : α → Wire β} {src : List UInt8} {b : β}
    {n : Nat} (h : (w >>= f) src = .done b n) :
    ∃ a k m, w src = .done a k ∧ f a (src.drop k) = .done b m ∧ n = k + m := by
  have hbind : Wire.bind w f src = .done b n := h
  unfold Wire.bind at hbind
  cases hfirst : w src with
  | done a k =>
    simp only [hfirst] at hbind
    cases hsecond : f a (src.drop k) with
    | done c m =>
      simp only [hsecond] at hbind
      obtain ⟨rfl,rfl⟩ := hbind
      exact ⟨a,k,m,rfl,hsecond,rfl⟩
    | trip s | refuse s => simp [hsecond] at hbind
  | trip s | refuse s => simp [hfirst] at hbind

/-- `P bs a` holds of the bytes a decoder uses and the value it gives. -/
def Consumes (w : Wire α) (P : List UInt8 → α → Prop) : Prop :=
  ∀ src a n, w src = .done a n → n ≤ src.length ∧ P (src.take n) a

theorem Consumes.bind {f : α → Wire β}
    {Q : α → List UInt8 → β → Prop} (hw : Consumes w P) (hf : ∀ a, Consumes (f a) (Q a)) :
    Consumes (w >>= f) fun bs b => ∃ a xs ys, bs = xs ++ ys ∧ P xs a ∧ Q a ys b := by
  intro src b n h
  obtain ⟨a,k,m,hfirst,hsecond,rfl⟩ := Wire.done_of_bind h
  obtain ⟨hk,hP⟩ := hw src a k hfirst
  obtain ⟨hm,hQ⟩ := hf a (src.drop k) b m hsecond
  rw [List.length_drop] at hm
  exact ⟨by omega,a,src.take k,(src.drop k).take m,by rw [List.take_add],hP,hQ⟩

theorem Consumes.bind_pure (hw : Consumes w P)
    (f : α → β) : Consumes (w >>= fun a => Pure.pure (f a)) fun bs b => ∃ a, b = f a ∧ P bs a := by
  intro src b n h
  have hpure : ∀ a, Consumes (Pure.pure (f a)) fun bs b => bs = [] ∧ b = f a := by
    intro a src b n h
    have hdone : Outcome.done (f a) 0 = .done b n := h
    obtain ⟨rfl,rfl⟩ := hdone
    simp
  obtain ⟨hn,a,xs,ys,hsplit,hP,rfl,rfl⟩ := hw.bind hpure src b n h
  rw [List.append_nil] at hsplit
  exact ⟨hn,a,rfl,by rwa [hsplit]⟩

theorem Consumes.refuse (s : BadStatus) (P : List UInt8 → α → Prop) :
    Consumes (Wire.refuse s) P := by
  intro src a n h
  simp [Wire.refuse] at h

theorem Consumes.mono {Q : List UInt8 → α → Prop} (h : Consumes w P)
    (hPQ : ∀ bs a, P bs a → Q bs a) : Consumes w Q :=
  fun src a n hw => ⟨(h src a n hw).1,hPQ _ _ (h src a n hw).2⟩

theorem Consumes.fixed {width : Nat} {decode : List UInt8 → α}
    (h : ∀ src, width ≤ src.length → P (src.take width) (decode src)) :
    Consumes (Wire.fixed width decode) P := by
  intro src a n hdone
  unfold Wire.fixed at hdone
  by_cases hlen : width ≤ src.length
  · rw [if_pos hlen] at hdone
    obtain ⟨rfl,rfl⟩ := hdone
    exact ⟨hlen,h src hlen⟩
  · simp [hlen] at hdone

theorem Consumes.byte : Consumes Wire.byte fun bs b => bs = [b] := by
  apply Consumes.fixed
  rintro (_ | ⟨x,rest⟩) hlen
  · simp at hlen
  · simp

theorem Consumes.uint16 : Consumes Wire.uint16 fun bs v => bs = lePutU16 v :=
  Consumes.fixed fun _ hlen => (lePutU16_leGetU16 hlen).symm

theorem Consumes.uint32 : Consumes Wire.uint32 fun bs v => bs = lePutU32 v :=
  Consumes.fixed fun _ hlen => (lePutU32_leGetU32 hlen).symm

theorem Consumes.int32 : Consumes Wire.int32 fun bs v => bs = lePutU32 v.toUInt32 :=
  Consumes.fixed fun _ hlen => (lePutU32_leGetU32 hlen).symm

theorem Consumes.take (k : Nat) : Consumes (Wire.take k) fun bs v => bs = v ∧ v.length = k := by
  intro src a n hdone
  unfold Wire.take at hdone
  by_cases hlen : k ≤ src.length
  · rw [if_pos hlen] at hdone
    obtain ⟨rfl,rfl⟩ := hdone
    exact ⟨hlen,rfl,by simp [hlen]⟩
  · simp [hlen] at hdone

theorem Consumes.manyByte (n : Nat) : Consumes (Wire.many Wire.byte n) fun bs v => bs = v.val := by
  induction n with
  | zero =>
    intro src v n h
    have hdone : Outcome.done _ 0 = .done v n := h
    obtain ⟨rfl,rfl⟩ := hdone
    simp
  | succ k ih =>
    refine (Consumes.byte.bind fun x => ih.bind_pure fun xs => _).mono ?_
    rintro bs v ⟨x,xs,ys,rfl,rfl,zs,rfl,rfl⟩
    rfl

/-- The encodings of a String (OPC-10000-6 §5.2.2.4): the Int32 length -1, or a length and as many
bytes. -/
inductive StringEncoding : List UInt8 → MuString → Prop where
  | null : StringEncoding (lePutU32 (-1 : Int32).toUInt32) MuString.null
  | bytes (data : List UInt8) (hlen : data.length < 2 ^ 31) :
    StringEncoding (lePutU32 (Int32.ofInt data.length).toUInt32 ++ data) (MuString.ofBytes data)

/-- What may follow the encoding byte of a plain NodeId (OPC-10000-6 §5.2.2.9), by format. -/
inductive NodeidBody : UInt8 → List UInt8 → NodeId → Prop where
  | twoByte (id : UInt8) : NodeidBody 0x00 [id] ⟨0, .numeric id.toUInt32⟩
  | fourByte (ns : UInt8) (id : UInt16) :
    NodeidBody 0x01 ([ns] ++ lePutU16 id) ⟨ns.toUInt16, .numeric id.toUInt32⟩
  | numeric (ns : UInt16) (id : UInt32) :
    NodeidBody 0x02 (lePutU16 ns ++ lePutU32 id) ⟨ns, .numeric id⟩
  | string (ns : UInt16) {bs : List UInt8} {s : MuString} (h : StringEncoding bs s) :
    NodeidBody 0x03 (lePutU16 ns ++ bs) ⟨ns, .string s⟩
  | guid (ns : UInt16) (bytes : { bs : List UInt8 // bs.length = 16 }) :
    NodeidBody 0x04 (lePutU16 ns ++ bytes.val) ⟨ns, .guid bytes⟩
  | opaqueId (ns : UInt16) (data : { bs : List UInt8 // bs.length ≤ 16 }) :
    NodeidBody 0x05 (lePutU16 ns ++ (lePutU32 (Int32.ofInt data.val.length).toUInt32 ++ data.val))
      ⟨ns, .opaqueId data⟩

def NodeidEncoding (bs : List UInt8) : Prop :=
  ∃ format body node, bs = format :: body ∧ NodeidBody format body node

theorem int32_eq_ofInt {v : Int32} {n : Int} (h : v.toInt = n) : v = Int32.ofInt n := by
  rw [← h,Int32.ofInt_toInt]

theorem Consumes.string :
    Consumes Wire.string fun bs s => StringEncoding bs s ∧ s.length ≤ maxEncodedStringLength := by
  intro src s n h
  have hbody : ∀ v : Int32, Consumes (if v.toInt = -1 then Pure.pure MuString.null
        else if v.toInt < 0 then Wire.refuse Status.badDecodingError
        else if (maxEncodedStringLength : Int) < v.toInt then
          Wire.refuse Status.badEncodingLimitsExceeded
        else Wire.take v.toInt.toNat >>= fun bytes => Pure.pure (MuString.ofBytes bytes))
      fun bs s => StringEncoding (lePutU32 v.toUInt32 ++ bs) s ∧
        s.length ≤ maxEncodedStringLength := by
    intro v
    by_cases hnull : v.toInt = -1
    · rw [int32_eq_ofInt hnull]
      intro src s n h
      have hdone : Outcome.done MuString.null 0 = .done s n := h
      obtain ⟨rfl,rfl⟩ := hdone
      refine ⟨by simp,?_,by decide⟩
      exact StringEncoding.null
    rw [if_neg hnull]
    by_cases hneg : v.toInt < 0
    · rw [if_pos hneg]
      exact Consumes.refuse _ _
    rw [if_neg hneg]
    by_cases hlong : (maxEncodedStringLength : Int) < v.toInt
    · rw [if_pos hlong]
      exact Consumes.refuse _ _
    rw [if_neg hlong]
    refine ((Consumes.take v.toInt.toNat).bind_pure MuString.ofBytes).mono ?_
    rintro bs s ⟨data,rfl,rfl,hlen⟩
    have hv : v.toInt = bs.length := by omega
    have hmax : (maxEncodedStringLength : Int) = 4096 := rfl
    rw [int32_eq_ofInt hv]
    refine ⟨StringEncoding.bytes bs (by omega),?_⟩
    show (bs.length : Int) ≤ _
    omega
  obtain ⟨hn,v,xs,ys,hsplit,rfl,hys⟩ := Consumes.int32.bind hbody src s n h
  exact ⟨hn,by rwa [hsplit]⟩

def NodeId.ShortString (node : NodeId) : Prop :=
  ∀ s, node.identifier = .string s → s.length ≤ maxEncodedStringLength

theorem Consumes.nodeidBody (mask : UInt8) : Consumes (Wire.nodeidBody mask) fun bs node =>
      NodeidBody (mask &&& 0x0F) bs node ∧ node.ShortString := by
  unfold Wire.nodeidBody
  generalize hformat : mask &&& 0x0F = format
  have hcode : ∀ k : UInt8, format.toNat = k.toNat → format = k := fun k => UInt8.toNat_inj.mp
  split
  · next h =>
    obtain rfl := hcode 0x00 h
    refine (Consumes.byte.bind_pure fun id => NodeId.mk 0 (.numeric id.toUInt32)).mono ?_
    rintro bs node ⟨id,rfl,rfl⟩
    exact ⟨NodeidBody.twoByte id,by simp [NodeId.ShortString]⟩
  · next h =>
    obtain rfl := hcode 0x01 h
    refine (Consumes.byte.bind fun ns => Consumes.uint16.bind_pure
      fun id => NodeId.mk ns.toUInt16 (.numeric id.toUInt32)).mono ?_
    rintro bs node ⟨ns,xs,ys,rfl,rfl,id,rfl,rfl⟩
    exact ⟨NodeidBody.fourByte ns id,by simp [NodeId.ShortString]⟩
  · next h =>
    obtain rfl := hcode 0x02 h
    refine (Consumes.uint16.bind fun ns => Consumes.uint32.bind_pure
      fun id => NodeId.mk ns (.numeric id)).mono ?_
    rintro bs node ⟨ns,xs,ys,rfl,rfl,id,rfl,rfl⟩
    exact ⟨NodeidBody.numeric ns id,by simp [NodeId.ShortString]⟩
  · next h =>
    obtain rfl := hcode 0x03 h
    refine (Consumes.uint16.bind fun ns => Consumes.string.bind_pure
      fun s => NodeId.mk ns (.string s)).mono ?_
    rintro bs node ⟨ns,xs,ys,rfl,rfl,s,rfl,hs,hshort⟩
    refine ⟨NodeidBody.string ns hs,?_⟩
    intro s' hs'
    obtain rfl : s = s' := by simpa using hs'
    exact hshort
  · next h =>
    obtain rfl := hcode 0x04 h
    refine (Consumes.uint16.bind fun ns => (Consumes.manyByte 16).bind_pure
      fun bytes => NodeId.mk ns (.guid bytes)).mono ?_
    rintro bs node ⟨ns,xs,ys,rfl,rfl,bytes,rfl,rfl⟩
    exact ⟨NodeidBody.guid ns bytes,by simp [NodeId.ShortString]⟩
  · next h =>
    obtain rfl := hcode 0x05 h
    have hdata : ∀ (ns : UInt16) (v : Int32), Consumes
        (if h : v.toInt < 0 ∨ 16 < v.toInt then Wire.refuse Status.badDecodingError
          else Wire.many Wire.byte v.toInt.toNat >>= fun data => Pure.pure (NodeId.mk ns
            (.opaqueId ⟨data.val,NodeIdentifier.length_le h data⟩)))
        fun bs node => NodeidBody 0x05 (lePutU16 ns ++ (lePutU32 v.toUInt32 ++ bs)) node ∧
          node.ShortString := by
      intro ns v
      by_cases hrange : v.toInt < 0 ∨ 16 < v.toInt
      · rw [dif_pos hrange]
        exact Consumes.refuse _ _
      rw [dif_neg hrange]
      refine ((Consumes.manyByte v.toInt.toNat).bind_pure fun data => NodeId.mk ns
        (.opaqueId ⟨data.val,NodeIdentifier.length_le hrange data⟩)).mono ?_
      rintro bs node ⟨data,rfl,rfl⟩
      have hv : v.toInt = data.val.length := by omega
      refine ⟨?_,by simp [NodeId.ShortString]⟩
      have hbody := NodeidBody.opaqueId ns ⟨data.val,by omega⟩
      rwa [← int32_eq_ofInt hv] at hbody
    refine (Consumes.uint16.bind fun ns => Consumes.int32.bind fun v => hdata ns v).mono ?_
    rintro bs node ⟨ns,xs,ys,rfl,rfl,v,xs',ys',rfl,rfl,hnode⟩
    exact hnode
  · exact Consumes.refuse _ _

theorem Consumes.nodeid : Consumes Wire.nodeid fun bs node =>
      ∃ mask body, bs = mask :: body ∧ NodeidBody (mask &&& 0x0F) body node ∧ node.ShortString := by
  refine (Consumes.byte.bind Consumes.nodeidBody).mono ?_
  rintro bs node ⟨mask,xs,body,rfl,rfl,hbody,hshort⟩
  exact ⟨mask,body,rfl,hbody,hshort⟩

/-! ## Encoding it again -/

theorem leafBytes_byteLeaves (bs : List UInt8) : leafBytes (byteLeaves bs) = some bs := by
  induction bs with
  | nil => rfl
  | cons b bs ih =>
    show leafBytes ([.field [b]] ++ byteLeaves bs) = _
    rw [leafBytes_append,ih]
    rfl

variable {bs : List UInt8}

theorem StringEncoding.canon {s : MuString} (h : StringEncoding bs s) : s.canon = s := by
  cases h with
  | null => rfl
  | bytes data hlen =>
    have hnonneg : ¬ (data.length : Int) < 0 := by omega
    simp [MuString.canon,MuString.ofBytes,MuString.bytes,hnonneg]

theorem StringEncoding.leafBytes_eq {s : MuString} (h : StringEncoding bs s)
    (hshort : s.length ≤ maxEncodedStringLength) : leafBytes (stringLeaves (some s)) = some bs := by
  cases h with
  | null => rfl
  | bytes data hlen =>
    have hlength : (MuString.ofBytes data).length = data.length := rfl
    simp only [stringLeaves]
    rw [if_neg (by omega),if_neg (by omega),if_neg (by omega)]
    by_cases hpos : 0 < (MuString.ofBytes data).length
    · rw [if_pos hpos]
      simp [leafBytes,Leaf.bytes,MuString.bytes,MuString.ofBytes]
    obtain rfl : data = [] := List.length_eq_zero_iff.mp (by omega)
    simp [leafBytes,Leaf.bytes,MuString.ofBytes]

variable {body : List UInt8}

theorem NodeidBody.reencode (h : NodeidBody format body node) (hshort : node.ShortString) :
    ∃ bs, leafBytes (nodeidLeaves (some node)) = some bs ∧ bs.length ≤ body.length + 1 ∧
      node.canon = node := by
  have hnumeric : ∀ (ns : UInt16) (id : UInt32) (k : Nat),
      (¬ (ns = 0 ∧ id ≤ 255) → 3 ≤ k) → (¬ (ns ≤ 255 ∧ id ≤ 65535) → 6 ≤ k) → 1 ≤ k →
      ∃ bs, leafBytes (nodeidLeaves (some ⟨ns,.numeric id⟩)) = some bs ∧ bs.length ≤ k + 1 := by
    intro ns id k hfour hfull hone
    simp only [nodeidLeaves]
    by_cases htwo : ns = 0 ∧ id ≤ 255
    · rw [if_pos htwo]
      exact ⟨_,rfl,by simpa using hone⟩
    rw [if_neg htwo]
    by_cases hfits : ns ≤ 255 ∧ id ≤ 65535
    · rw [if_pos hfits]
      exact ⟨_,rfl,by simpa using hfour htwo⟩
    · rw [if_neg hfits]
      exact ⟨_,rfl,by simpa using hfull hfits⟩
  cases h with
  | twoByte id =>
    have hid : id.toUInt32 ≤ 255 := by
      rw [UInt32.le_iff_toNat_le]
      have := id.toNat_lt
      simp
      omega
    obtain ⟨bs,hbs,hlen⟩ := hnumeric 0 id.toUInt32 1 (fun h => absurd ⟨rfl,hid⟩ h)
      (fun h => absurd ⟨by decide,UInt32.le_trans hid (by decide)⟩ h) (by omega)
    exact ⟨bs,hbs,by simpa using hlen,rfl⟩
  | fourByte ns id =>
    have hns : ns.toUInt16 ≤ 255 := by
      rw [UInt16.le_iff_toNat_le]
      have := ns.toNat_lt
      simp
      omega
    have hid : id.toUInt32 ≤ 65535 := by
      rw [UInt32.le_iff_toNat_le]
      have := id.toNat_lt
      simp
      omega
    obtain ⟨bs,hbs,hlen⟩ := hnumeric ns.toUInt16 id.toUInt32 3 (fun _ => by omega)
      (fun h => absurd ⟨hns,hid⟩ h) (by omega)
    exact ⟨bs,hbs,by simpa using hlen,rfl⟩
  | numeric ns id =>
    obtain ⟨bs,hbs,hlen⟩ := hnumeric ns id 6 (fun _ => by omega) (fun _ => by omega) (by omega)
    exact ⟨bs,hbs,by simpa using hlen,rfl⟩
  | string ns hs =>
    have hbytes := hs.leafBytes_eq (hshort _ rfl)
    refine ⟨_,by simp only [nodeidLeaves,leafBytes,hbytes]; rfl,by simp,?_⟩
    simp [NodeId.canon,NodeIdentifier.canon,hs.canon]
  | guid ns bytes | opaqueId ns data =>
    refine ⟨_,by simp only [nodeidLeaves,leafBytes,leafBytes_byteLeaves]; rfl,by simp,rfl⟩

theorem NodeidBody.format_mem (h : NodeidBody format body node) : format ∈ [0, 1, 2, 3, 4, 5] := by
  cases h <;> decide

/-- The bytes a plain NodeId was read from are a valid encoding exactly when no bit above the
format is set in the encoding byte. -/
theorem nodeidEncoding_iff {mask : UInt8} (h : NodeidBody (mask &&& 0x0F) body node) :
    NodeidEncoding (mask :: body) ↔ mask &&& 0xF0 = 0 := by
  have hsplit : mask &&& 0x0F = mask ↔ mask &&& 0xF0 = 0 := by
    have hbits : ∀ b : BitVec 8, b &&& 0x0F = b ↔ b &&& 0xF0 = 0 := by decide
    have := hbits mask.toBitVec
    constructor
    · intro hlow
      exact UInt8.toBitVec_inj.mp (this.mp (congrArg UInt8.toBitVec hlow))
    · intro hhigh
      exact UInt8.toBitVec_inj.mp (this.mpr (congrArg UInt8.toBitVec hhigh))
  constructor
  · rintro ⟨format,body',node',heq,hbody⟩
    obtain ⟨rfl,rfl⟩ : mask = format ∧ body = body' := by simpa using heq
    have hmem := hbody.format_mem
    simp only [List.mem_cons,List.not_mem_nil,or_false] at hmem
    rcases hmem with rfl | rfl | rfl | rfl | rfl | rfl <;> decide
  · intro hclean
    exact ⟨mask,body,node,rfl,by rwa [hsplit.mpr hclean] at h⟩

/-! ## Round trips of the code -/

def ReadsBack (m : ReadM α) (bs : List UInt8) (a : α) : Prop :=
  ∃ r, m (BinaryReader.init bs) = .ok a r ∧ r.position = bs.length

theorem Refines.readsBack {m : ReadM α} (hm : Refines m w) {a : α}
    (h : Reads w bs a) : ReadsBack m bs a :=
  ⟨_,hm.reads_init h,by simp [BinaryReader.init]⟩

theorem Refines.done_of_ok {m : ReadM α} (hm : Refines m w) {src : List UInt8} {a : α}
    {r : BinaryReader} (h : m (BinaryReader.init src) = .ok a r) :
    ∃ n, w src = .done a n ∧ r = (BinaryReader.init src).advance n :=
  hm.done_of_ok_at rfl rfl h

/-- The decoded NodeId is accepted by the encoder in any buffer as large as what was read, and is
decoded from there again. -/
def ReencodesTo (node : NodeId) (size : Nat) : Prop :=
  ∀ buffer : List UInt8, size ≤ buffer.length →
    ∃ w, binaryWriteNodeid (some node) (BinaryWriter.init buffer) = .ok () w ∧
      ReadsBack binaryReadNodeid w.written node

/-- NodeIds and ExpandedNodeIds survive encoding and decoding. The plain decoder's input survives
decoding and encoding, and was a valid encoding exactly when the encoding byte carries no bit
beside its format. -/
theorem nodeid_codec (src : List UInt8) :
    (∀ (node : NodeId) (w w' : BinaryWriter), w.buffer.isSome = true →
      binaryWriteNodeid (some node) w = .ok () w' →
      ReadsBack binaryReadNodeid (emitted w w') node.canon) ∧
    (∀ (expanded : ExpandedNodeId) (w w' : BinaryWriter),
      (0 ≤ expanded.namespaceUri.length → expanded.namespaceUri.data.isSome) →
      w.buffer.isSome = true → binaryWriteExpandedNodeid (some expanded) w = .ok () w' →
      ReadsBack binaryReadExpandedNodeid (emitted w w') expanded.canon) ∧
    (∀ (node : NodeId) (r : BinaryReader), binaryReadNodeid (BinaryReader.init src) = .ok node r →
      (ReencodesTo node r.position ∧ NodeidEncoding (src.take r.position) ↔
        src.getD 0 0 &&& 0xF0 = 0)) := by
  refine ⟨?_,?_,?_⟩
  · intro node w w' hbuf hrun
    have hbytes := (binaryWriteNodeid_emits (some node)).emitted_of_ok
      (binaryWriteNodeid_inert _) hbuf hrun
    exact binaryReadNodeid_refines.readsBack (Decodes.nodeid node _ hbytes)
  · intro expanded w w' huri hbuf hrun
    have hbytes := (binaryWriteExpandedNodeid_emits (some expanded)).emitted_of_ok
      (WriteOp.run_inert (.expandedNodeid (some expanded))) hbuf hrun
    exact binaryReadExpandedNodeid_refines.readsBack (Decodes.expandedNodeid expanded huri _ hbytes)
  · intro node r hrun
    obtain ⟨n,hdone,rfl⟩ := binaryReadNodeid_refines.done_of_ok hrun
    obtain ⟨hn,mask,body,hbytes,hbody,hshort⟩ := Consumes.nodeid src node n hdone
    have hlen : body.length + 1 = n := by
      have := congrArg List.length hbytes
      simp only [List.length_take,List.length_cons] at this
      omega
    have hfirst : src.getD 0 0 = mask := by
      cases src with
      | nil => simp at hbytes
      | cons b src =>
        cases n with
        | zero => simp at hbytes
        | succ n => simpa using (List.cons.inj hbytes).1
    have hpos : ((BinaryReader.init src).advance n).position = n := by simp [BinaryReader.init]
    rw [hpos,hbytes,hfirst,nodeidEncoding_iff hbody,and_iff_right]
    intro buffer hsize
    obtain ⟨bs,hbs,hle,hcanon⟩ := hbody.reencode hshort
    have hok := (binaryWriteNodeid_emits (some node)).ok_of_fits hbs
      (w := BinaryWriter.init buffer) rfl rfl (by simp [BinaryWriter.init]; omega)
    refine ⟨_,hok,?_⟩
    have hwritten : ((BinaryWriter.init buffer).put bs).written = bs :=
      emitted_put (w := BinaryWriter.init buffer) rfl fun _ => by simp [BinaryWriter.init]; omega
    have hread := Decodes.nodeid node bs hbs
    rw [hcanon] at hread
    rw [hwritten]
    exact binaryReadNodeid_refines.readsBack hread

def expandedFive : ExpandedNodeId := ⟨⟨0, .numeric 5⟩, MuString.ofBytes [0x75], 3⟩

theorem nodeid_codec_twoByte : ReadsBack binaryReadNodeid [0x00, 0x05] ⟨0, .numeric 5⟩ ∧
      ReadsBack binaryReadExpandedNodeid [0xC0, 0x05, 1, 0, 0, 0, 0x75, 3, 0, 0, 0] expandedFive ∧
      ReencodesTo ⟨0, .numeric 5⟩ 2 ∧ NodeidEncoding [0x00, 0x05] := by
  obtain ⟨hplain,hexpanded,haccepted⟩ := nodeid_codec [0x00,0x05]
  exact ⟨hplain ⟨0,.numeric 5⟩ (BinaryWriter.init [0,0])
      ((BinaryWriter.init [0,0]).put [0x00,0x05]) rfl rfl,
    hexpanded expandedFive (BinaryWriter.init (List.replicate 11 0))
      ((BinaryWriter.init (List.replicate 11 0)).put [0xC0,0x05,1,0,0,0,0x75,3,0,0,0])
      (fun _ => rfl) rfl rfl,
    (haccepted ⟨0,.numeric 5⟩ ((BinaryReader.init [0x00,0x05]).advance 2)
      rfl).mpr rfl⟩

/-- An encoding byte that announces a NamespaceUri is taken for a two-byte NodeId; the URI is left
in the stream for whatever is decoded next. -/
theorem nodeid_flag_accepted : binaryReadNodeid (BinaryReader.init [0x80, 0x05]) =
      .ok ⟨0, .numeric 5⟩ ((BinaryReader.init [0x80, 0x05]).advance 2) ∧
    ¬ NodeidEncoding [0x80, 0x05] := by
  refine ⟨rfl,fun hvalid => ?_⟩
  have hbody : NodeidBody (0x80 &&& 0x0F) [0x05] ⟨0,.numeric 5⟩ := NodeidBody.twoByte 0x05
  exact absurd ((nodeidEncoding_iff hbody).mp hvalid) (by decide)

end MucOpcua
