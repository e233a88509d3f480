import MucOpcua.Encoding.Wire

/-!
# The reader implements the wire decoders

`Refines m w` relates a decoder of the code to its description over the bytes ahead: same value and
same advance on success, and on failure the same status, kept in the reader exactly when the
description trips.
-/

namespace MucOpcua

open Sticky

variable {α β : Type}
variable {b : List UInt8} {m : ReadM α} {r : BinaryReader} {w : Wire α}

namespace BinaryReader

theorem rest_advance (r : BinaryReader) (n : Nat) : (r.advance n).rest = r.rest.drop n := by
  simp [rest]

theorem length_rest (hb : r.buffer = some b) : r.rest.length = r.length - r.position := by
  have hlen := r.sized b (by simp [hb])
  simp [rest,hb,hlen]

end BinaryReader

/-- How a call from `r` may end, given what the description says of the bytes ahead of `r`. -/
def Matches (r : BinaryReader) (result : EStateM.Result BadStatus BinaryReader α) :
    Outcome α → Prop
  | .done a n => result = .ok a (r.advance n)
  | .trip s => ∃ r', result = .error s r' ∧ r'.status = s.val
  | .refuse s => ∃ r', result = .error s r' ∧ r'.status = Status.good

def Refines (m : ReadM α) (w : Wire α) : Prop :=
  ∀ (r : BinaryReader) (b : List UInt8), r.buffer = some b → r.status = Status.good →
    Matches r (m r) (w r.rest)

theorem Refines.pure (a : α) : Refines (pure a) (pure a) := fun _ _ _ _ => rfl

theorem Refines.throw (s : BadStatus) : Refines (throw s : ReadM α) (Wire.refuse s) :=
  fun r _ _ hr => ⟨r,rfl,hr⟩

theorem Refines.bind {f : α → ReadM β} {g : α → Wire β}
    (hm : Refines m w) (hf : ∀ a, Refines (f a) (g a)) : Refines (m >>= f) (w >>= g) := by
  intro r b hb hr
  have hfirst := hm r b hb hr
  show Matches r _ (Wire.bind w g r.rest)
  cases hw : w r.rest with
  | done a n =>
    rw [hw] at hfirst
    have hsecond := hf a (r.advance n) b hb hr
    rw [BinaryReader.rest_advance] at hsecond
    rw [bind_ok hfirst]
    cases hg : g a (r.rest.drop n) with
    | done c k =>
      simpa only [Wire.bind,hw,hg,Matches,BinaryReader.advance_advance] using hsecond
    | trip s | refuse s =>
      simpa only [Wire.bind,hw,hg,Matches] using hsecond
  | trip s | refuse s =>
    rw [hw] at hfirst
    obtain ⟨r',hres,hstatus⟩ := hfirst
    simp only [Wire.bind,hw]
    exact ⟨r',bind_error hres f,hstatus⟩

theorem Refines.map (hm : Refines m w) (f : α → β) : Refines (f <$> m) (f <$> w) := by
  exact hm.bind fun a => Refines.pure (f a)

theorem Refines.ite {c : Prop} [Decidable c] {m' : ReadM α} {w' : Wire α}
    (ht : c → Refines m w) (he : ¬ c → Refines m' w') :
    Refines (if c then m else m') (if c then w else w') := by
  split
  · exact ht ‹_›
  · exact he ‹_›

theorem Refines.done_of_ok_at (hm : Refines m w)
    {r' : BinaryReader} {buffer : List UInt8} {a : α} (hbuffer : r.buffer = some buffer)
    (hgood : r.status = Status.good) (h : m r = .ok a r') :
    ∃ n, w r.rest = .done a n ∧ r' = r.advance n := by
  have hmatch := hm r buffer hbuffer hgood
  cases hw : w r.rest with
  | done b n =>
    rw [hw,h] at hmatch
    have hok : EStateM.Result.ok a r' = .ok b (r.advance n) := hmatch
    cases hok
    exact ⟨n,rfl,rfl⟩
  | trip s | refuse s =>
    rw [hw,h] at hmatch
    obtain ⟨r'',herr,-⟩ := hmatch
    cases herr

theorem Wire.peek_bind (f : List UInt8 → Wire β) (src : List UInt8) :
    (Wire.peek >>= f) src = f src src := by
  show Wire.bind Wire.peek f src = _
  simp only [Wire.bind,Wire.peek,List.drop_zero]
  cases f src src <;> simp

theorem Refines.get_bind {f : BinaryReader → ReadM β} {g : List UInt8 → Wire β}
    (h : ∀ (r : BinaryReader) (b : List UInt8), r.buffer = some b → r.status = Status.good →
      Matches r (f r r) (g r.rest r.rest)) : Refines (get >>= f) (Wire.peek >>= g) := by
  intro r b hb hr
  rw [Wire.peek_bind]
  exact h r b hb hr

theorem Refines.many (hm : Refines m w) (n : Nat) : Refines (readMany m n) (Wire.many w n) := by
  induction n with
  | zero => exact Refines.pure _
  | succ n ih => exact hm.bind fun _ => ih.bind fun _ => Refines.pure _

theorem Refines.readIf (hm : Refines m w) (p : Prop) [Decidable p]
    (absent : α) : Refines (readIf p m absent) (Wire.when p w absent) :=
  Refines.ite (fun _ => hm) fun _ => Refines.pure absent

theorem Refines.optional (hm : Refines m w) (p : Prop) [Decidable p] :
    Refines (readOptional p m) (Wire.optional p w) :=
  (hm.map some).readIf p none

/-! ## Fixed-width fields and strings -/

theorem ensureBytes_ok {n : Nat} (hb : r.buffer = some b)
    (hr : r.status = Status.good) (hn : 0 < n) (hfit : n ≤ r.rest.length) :
    ensureBytes n r = .ok () r := by
  rw [BinaryReader.length_rest hb] at hfit
  have hpos : r.position ≤ r.length := by omega
  rw [ensureBytes,get_bind,if_pos ⟨hr,by simp [hb],hpos,hfit⟩]
  rfl

theorem ensureBytes_short {n : Nat} (hb : r.buffer = some b)
    (hr : r.status = Status.good) (hshort : r.rest.length < n) :
    ensureBytes n r = .error Status.badDecodingError (r.trip Status.badDecodingError) := by
  rw [BinaryReader.length_rest hb] at hshort
  rw [ensureBytes,get_bind,if_neg (by omega),dif_neg (by simpa using hr),if_neg (by simp [hb])]
  rfl

theorem readFixed_refines {n : Nat} (hn : 0 < n) (decode : List UInt8 → α) :
    Refines (readFixed n decode) (Wire.fixed n decode) := by
  intro r b hb hr
  by_cases hfit : n ≤ r.rest.length
  · rw [Wire.fixed,if_pos hfit,readFixed,bind_ok (ensureBytes_ok hb hr hn hfit)]
    rfl
  have hshort : r.rest.length < n := by omega
  rw [Wire.fixed,if_neg hfit,readFixed,bind_error (ensureBytes_short hb hr hshort)]
  exact ⟨_,rfl,rfl⟩

theorem binaryReadBoolean_refines : Refines binaryReadBoolean Wire.boolean :=
  readFixed_refines (by decide) _

theorem binaryReadSbyte_refines : Refines binaryReadSbyte Wire.sbyte :=
  readFixed_refines (by decide) _

theorem binaryReadByte_refines : Refines binaryReadByte Wire.byte :=
  readFixed_refines (by decide) _

theorem binaryReadInt16_refines : Refines binaryReadInt16 Wire.int16 :=
  readFixed_refines (by decide) _

theorem binaryReadUint16_refines : Refines binaryReadUint16 Wire.uint16 :=
  readFixed_refines (by decide) _

theorem binaryReadInt32_refines : Refines binaryReadInt32 Wire.int32 :=
  readFixed_refines (by decide) _

theorem binaryReadUint32_refines : Refines binaryReadUint32 Wire.uint32 :=
  readFixed_refines (by decide) _

theorem binaryReadInt64_refines : Refines binaryReadInt64 Wire.int64 :=
  readFixed_refines (by decide) _

theorem binaryReadUint64_refines : Refines binaryReadUint64 Wire.uint64 :=
  readFixed_refines (by decide) _

theorem ensureStringPayload_ok {n : Int} (hb : r.buffer = some b) (hfit : n.toNat ≤ r.rest.length) :
    ensureStringPayload n r = .ok () r := by
  rw [BinaryReader.length_rest hb] at hfit
  rw [ensureStringPayload,get_bind]
  by_cases hn : n ≤ 0
  · rw [if_pos hn]
    rfl
  · rw [if_neg hn,if_neg (by omega),if_neg (by omega)]
    rfl

theorem ensureStringPayload_short {n : Int}
    (hb : r.buffer = some b) (hshort : r.rest.length < n.toNat) :
    ensureStringPayload n r = .error Status.badDecodingError (r.trip Status.badDecodingError) := by
  rw [BinaryReader.length_rest hb] at hshort
  rw [ensureStringPayload,get_bind,if_neg (by omega)]
  split <;> rfl

theorem stringPayload_refines (n : Int) : Refines (do
      ensureStringPayload n
      let reader ← get
      set (reader.advance n.toNat)
      return MuString.ofBytes (reader.rest.take n.toNat))
    (do
      let bytes ← Wire.take n.toNat
      pure (MuString.ofBytes bytes)) := by
  intro r b hb hr
  show Matches r _ (Wire.bind (Wire.take n.toNat) _ r.rest)
  by_cases hfit : n.toNat ≤ r.rest.length
  · rw [bind_ok (ensureStringPayload_ok hb hfit)]
    simp only [Wire.bind,Wire.take,if_pos hfit]
    rfl
  rw [bind_error (ensureStringPayload_short hb (by omega))]
  simp only [Wire.bind,Wire.take,if_neg hfit]
  exact ⟨_,rfl,rfl⟩

theorem binaryReadString_refines : Refines binaryReadString Wire.string := by
  refine binaryReadInt32_refines.bind fun length => ?_
  refine Refines.ite (fun _ => Refines.pure _) fun _ => ?_
  refine Refines.ite (fun _ => Refines.throw _) fun _ => ?_
  refine Refines.ite (fun _ => Refines.throw _) fun _ => ?_
  exact stringPayload_refines length.toInt

/-! ## Structured types -/

theorem binaryReadLocalizedText_refines : Refines binaryReadLocalizedText Wire.localizedText :=
  binaryReadByte_refines.bind fun _ =>
    (binaryReadString_refines.readIf _ _).bind fun _ =>
      (binaryReadString_refines.readIf _ _).bind fun _ => Refines.pure _

theorem binaryReadQualifiedName_refines : Refines binaryReadQualifiedName Wire.qualifiedName :=
  binaryReadUint16_refines.bind fun _ => binaryReadString_refines.bind fun _ => Refines.pure _

theorem binaryReadRange_refines : Refines binaryReadRange Wire.range :=
  binaryReadUint64_refines.bind fun _ => binaryReadUint64_refines.bind fun _ => Refines.pure _

theorem binaryReadEuInformation_refines : Refines binaryReadEuInformation Wire.euInformation :=
  binaryReadString_refines.bind fun _ => binaryReadInt32_refines.bind fun _ =>
    binaryReadLocalizedText_refines.bind fun _ =>
      binaryReadLocalizedText_refines.bind fun _ => Refines.pure _

theorem readerStatus_ok (hr : r.status = Status.good) : readerStatus r = .ok () r := by
  rw [readerStatus,get_bind,dif_neg (by simpa using hr)]
  rfl

theorem Refines.readerStatus_bind (hm : Refines m w) : Refines (readerStatus >>= fun _ => m) w := by
  intro r b hb hr
  rw [bind_ok (readerStatus_ok hr)]
  exact hm r b hb hr

theorem binaryReadUsernameIdentityToken_refines :
    Refines binaryReadUsernameIdentityToken Wire.usernameIdentityToken :=
  Refines.readerStatus_bind <| binaryReadString_refines.bind fun _ =>
    binaryReadString_refines.bind fun _ => binaryReadString_refines.bind fun _ =>
      binaryReadString_refines.bind fun _ => Refines.pure _

theorem binaryReadCertificateIdentityToken_refines :
    Refines binaryReadCertificateIdentityToken Wire.certificateIdentityToken :=
  Refines.readerStatus_bind <| binaryReadString_refines.bind fun _ =>
    binaryReadString_refines.bind fun _ => Refines.pure _

theorem binaryReadNodeid_refines : Refines binaryReadNodeid Wire.nodeid := by
  refine binaryReadByte_refines.bind fun mask => ?_
  generalize (mask &&& 0x0F).toNat = format
  match format with
  | 0 => exact binaryReadByte_refines.bind fun _ => Refines.pure _
  | 1 => exact binaryReadByte_refines.bind fun _ => binaryReadUint16_refines.bind fun _ =>
      Refines.pure _
  | 2 => exact binaryReadUint16_refines.bind fun _ => binaryReadUint32_refines.bind fun _ =>
      Refines.pure _
  | 3 => exact binaryReadUint16_refines.bind fun _ => binaryReadString_refines.bind fun _ =>
      Refines.pure _
  | 4 => exact binaryReadUint16_refines.bind fun _ => (binaryReadByte_refines.many 16).bind fun _ =>
      Refines.pure _
  | 5 =>
    refine binaryReadUint16_refines.bind fun _ => binaryReadInt32_refines.bind fun len => ?_
    by_cases hlen : len.toInt < 0 ∨ 16 < len.toInt
    · simp only [dif_pos hlen]
      exact Refines.throw _
    · simp only [dif_neg hlen]
      exact (binaryReadByte_refines.many _).bind fun _ => Refines.pure _
  | _ + 6 => exact Refines.throw _

theorem binaryReadExpandedNodeid_refines :
    Refines binaryReadExpandedNodeid Wire.expandedNodeid := by
  refine Refines.get_bind fun r b hb hr => ?_
  have hlen := BinaryReader.length_rest hb
  by_cases hempty : r.rest = []
  · have hend : r.length ≤ r.position := by rw [hempty,List.length_nil] at hlen; omega
    simp only [if_pos hempty,if_pos (Or.inr hend)]
    exact Refines.throw _ r b hb hr
  have hmore : ¬ (r.buffer.isNone ∨ r.length ≤ r.position) := by
    have := List.length_pos_of_ne_nil hempty
    simp only [hb,Option.isNone_some,Bool.false_eq_true,false_or]
    omega
  simp only [if_neg hempty,if_neg hmore]
  exact (binaryReadNodeid_refines.bind fun _ =>
    (binaryReadString_refines.readIf _ _).bind fun _ =>
      (binaryReadUint32_refines.readIf _ _).bind fun _ => Refines.pure _) r b hb hr

theorem binaryReadExtensionObjectHeader_refines :
    Refines binaryReadExtensionObjectHeader Wire.extensionObjectHeader := by
  refine binaryReadNodeid_refines.bind fun typeId => binaryReadByte_refines.bind fun mask => ?_
  refine Refines.ite (fun _ => Refines.pure _) fun _ => ?_
  refine Refines.ite (fun _ => ?_) fun _ => Refines.throw _
  exact binaryReadInt32_refines.bind fun len =>
    Refines.ite (fun _ => Refines.throw _) fun _ => Refines.pure _

theorem readScalarValue_refines (type : BuiltinType) :
    Refines (readScalarValue type) (Wire.scalarValue type) := by
  cases type with
  | boolean => exact binaryReadBoolean_refines
  | sbyte => exact binaryReadSbyte_refines
  | byte => exact binaryReadByte_refines
  | int16 => exact binaryReadInt16_refines
  | uint16 => exact binaryReadUint16_refines
  | int32 => exact binaryReadInt32_refines
  | uint32 | float | statusCode => exact binaryReadUint32_refines
  | int64 | dateTime => exact binaryReadInt64_refines
  | uint64 | double => exact binaryReadUint64_refines
  | string | byteString => exact binaryReadString_refines
  | nodeId => exact binaryReadNodeid_refines
  | qualifiedName => exact binaryReadQualifiedName_refines
  | localizedText => exact binaryReadLocalizedText_refines
  | null | guid | xmlElement | expandedNodeId | extensionObject | dataValue | variant
  | diagnosticInfo | reserved => exact Refines.throw _

variable (profile : CodecProfile)

theorem readVariantElements_refines (type : BuiltinType) (length : Nat)
    (hlength : 0 < length) : Refines (readVariantElements profile type length)
      (Wire.variantElements profile type length) := by
  refine Refines.ite (fun _ => Refines.throw _) fun _ => Refines.get_bind fun r b hb hr => ?_
  have hlen := BinaryReader.length_rest hb
  by_cases hroom : r.rest.length < length
  · have hcode : r.length < r.position ∨ r.length - r.position < length := by omega
    simp only [if_pos (Or.inl hroom),if_pos hcode]
    exact Refines.throw _ r b hb hr
  have hcode : ¬ (r.length < r.position ∨ r.length - r.position < length) := by omega
  simp only [hroom,false_or,if_neg hcode]
  exact Refines.ite (fun _ => Refines.throw _) (fun _ => Refines.ite (fun _ => Refines.throw _)
    fun _ => (readScalarValue_refines type).many length) r b hb hr

theorem readVariantDimensions_refines : Refines readVariantDimensions Wire.variantDimensions :=
  binaryReadInt32_refines.bind fun _ => Refines.ite (fun _ => Refines.throw _) fun _ =>
    (binaryReadInt32_refines.many _).bind fun _ => Refines.pure _

theorem binaryReadVariant_refines : Refines (binaryReadVariant profile) (Wire.variant profile) := by
  refine binaryReadByte_refines.bind fun mask => ?_
  refine Refines.ite (fun _ => Refines.throw _) fun _ => ?_
  refine Refines.ite (fun _ => Refines.pure _) fun _ => ?_
  refine Refines.ite (fun _ => ?_) fun _ =>
    (readScalarValue_refines _).bind fun _ => Refines.pure _
  refine binaryReadInt32_refines.bind fun length => ?_
  refine Refines.ite (fun _ => Refines.throw _) fun _ => ?_
  refine Refines.ite (fun _ => Refines.throw _) fun _ => ?_
  refine Refines.bind (Refines.ite (fun hpos => ?_) fun _ => Refines.pure none) fun _ => ?_
  · exact (readVariantElements_refines profile _ _ (by omega)).map some
  · exact (readVariantDimensions_refines.readIf _ ()).bind fun _ => Refines.pure _

theorem binaryReadDatavalue_refines :
    Refines (binaryReadDatavalue profile) (Wire.datavalue profile) :=
  binaryReadByte_refines.bind fun _ =>
    ((binaryReadVariant_refines profile).optional _).bind fun _ =>
      (binaryReadUint32_refines.optional _).bind fun _ =>
        (binaryReadInt64_refines.optional _).bind fun _ =>
          (binaryReadUint16_refines.optional _).bind fun _ =>
            (binaryReadInt64_refines.optional _).bind fun _ =>
              (binaryReadUint16_refines.optional _).bind fun _ => Refines.pure _

end MucOpcua
