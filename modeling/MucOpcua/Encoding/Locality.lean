import MucOpcua.Encoding.NodeidRoundTrip

/-!
# What a decoder does not look at

A decoder is local if the bytes that it uses decide what it returns: it finds the same value in
these bytes whatever follows them, the end of the buffer included.
-/

namespace MucOpcua

open Sticky

variable {α β : Type}
variable {a : α} {bs src tail : List UInt8} {least length : Nat} {m : ReadM α} {r : BinaryReader}
  {w : Wire α}

/-! ## Descriptions over the bytes ahead -/

def Wire.Local (w : Wire α) : Prop := Consumes w (Reads w)

namespace Wire.Local

theorem pure (a : α) : Wire.Local (Pure.pure a) := by
  intro src b n h
  have hdone : Outcome.done a 0 = .done b n := h
  cases hdone
  exact ⟨Nat.zero_le _,Reads.pure a⟩

theorem refuse (s : BadStatus) : Wire.Local (Wire.refuse s : Wire α) := Consumes.refuse s _

theorem bind {f : α → Wire β} (hw : Wire.Local w) (hf : ∀ a, Wire.Local (f a)) :
    Wire.Local (w >>= f) := by
  refine Consumes.mono (Consumes.bind hw hf) ?_
  rintro bs b ⟨a,xs,ys,rfl,hxs,hys⟩
  exact hxs.bind hys

theorem map (hw : Wire.Local w) (f : α → β) : Wire.Local (f <$> w) :=
  hw.bind fun a => Local.pure (f a)

theorem ite {c : Prop} [Decidable c] {w' : Wire α} (ht : c → Wire.Local w)
    (he : ¬ c → Wire.Local w') : Wire.Local (if c then w else w') := by
  split
  · exact ht ‹_›
  · exact he ‹_›

theorem when (hw : Wire.Local w) (p : Prop) [Decidable p] (absent : α) :
    Wire.Local (Wire.when p w absent) :=
  Local.ite (fun _ => hw) fun _ => Local.pure absent

theorem optional (hw : Wire.Local w) (p : Prop) [Decidable p] : Wire.Local (Wire.optional p w) :=
  (hw.map some).when p none

theorem many (hw : Wire.Local w) (n : Nat) : Wire.Local (Wire.many w n) := by
  induction n with
  | zero => exact Local.pure _
  | succ n ih => exact hw.bind fun _ => ih.bind fun _ => Local.pure _

theorem fixed {width : Nat} {decode : List UInt8 → α}
    (h : ∀ src tail, width ≤ src.length → decode (src.take width ++ tail) = decode src) :
    Wire.Local (Wire.fixed width decode) := by
  apply Consumes.fixed
  intro src hlen
  apply Reads.fixed
  · simp [hlen]
  · intro tail
    exact h src tail hlen

theorem take (n : Nat) : Wire.Local (Wire.take n) := by
  refine (Consumes.take n).mono ?_
  rintro bs a ⟨rfl,rfl⟩
  exact Reads.take bs

end Wire.Local

/-! ### Fixed-width fields -/

theorem getD_take_append {width i : Nat} (hlen : width ≤ src.length)
    (hi : i < width) : (src.take width ++ tail).getD i 0 = src.getD i 0 := by
  have hfirst : i < (src.take width).length := by simp; omega
  rw [List.getD_append _ _ _ _ hfirst]
  simp [hi]

theorem leGetU16_take_append (hlen : 2 ≤ src.length) :
    leGetU16 (src.take 2 ++ tail) = leGetU16 src := by
  simp only [leGetU16,getD_take_append hlen,Nat.reduceLT]

theorem leGetU32_take_append (hlen : 4 ≤ src.length) :
    leGetU32 (src.take 4 ++ tail) = leGetU32 src := by
  simp only [leGetU32,getD_take_append hlen,Nat.reduceLT]

theorem leGetU64_take_append (hlen : 8 ≤ src.length) :
    leGetU64 (src.take 8 ++ tail) = leGetU64 src := by
  simp only [leGetU64,getD_take_append hlen,Nat.reduceLT]

namespace Wire.Local

theorem boolean : Wire.Local Wire.boolean :=
  fixed fun _ _ hlen => by rw [getD_take_append hlen (by decide)]

theorem sbyte : Wire.Local Wire.sbyte :=
  fixed fun _ _ hlen => by rw [getD_take_append hlen (by decide)]

theorem byte : Wire.Local Wire.byte := fixed fun _ _ hlen => getD_take_append hlen (by decide)

theorem int16 : Wire.Local Wire.int16 := fixed fun _ _ hlen => by rw [leGetU16_take_append hlen]

theorem uint16 : Wire.Local Wire.uint16 := fixed fun _ _ hlen => leGetU16_take_append hlen

theorem int32 : Wire.Local Wire.int32 := fixed fun _ _ hlen => by rw [leGetU32_take_append hlen]

theorem uint32 : Wire.Local Wire.uint32 := fixed fun _ _ hlen => leGetU32_take_append hlen

theorem int64 : Wire.Local Wire.int64 := fixed fun _ _ hlen => by rw [leGetU64_take_append hlen]

theorem uint64 : Wire.Local Wire.uint64 := fixed fun _ _ hlen => leGetU64_take_append hlen

/-! ### Structured types -/

theorem stringBody (length : Int) : Wire.Local (if length = -1 then Pure.pure MuString.null
    else if length < 0 then Wire.refuse Status.badDecodingError
    else if (maxEncodedStringLength : Int) < length then
      Wire.refuse Status.badEncodingLimitsExceeded
    else do
      let bytes ← Wire.take length.toNat
      Pure.pure (MuString.ofBytes bytes)) := by
  apply Local.ite
  · intro _
    exact Local.pure _
  intro _
  apply Local.ite
  · intro _
    exact Local.refuse _
  intro _
  apply Local.ite
  · intro _
    exact Local.refuse _
  intro _
  exact (Local.take _).bind fun _ => Local.pure _

theorem string : Wire.Local Wire.string := int32.bind fun length => stringBody length.toInt

theorem localizedText : Wire.Local Wire.localizedText :=
  byte.bind fun _ => (string.when _ _).bind fun _ => (string.when _ _).bind fun _ => Local.pure _

theorem qualifiedName : Wire.Local Wire.qualifiedName :=
  uint16.bind fun _ => string.bind fun _ => Local.pure _

theorem nodeidBody (mask : UInt8) : Wire.Local (Wire.nodeidBody mask) := by
  unfold Wire.nodeidBody
  generalize (mask &&& 0x0F).toNat = format
  match format with
  | 0 => exact byte.bind fun _ => Local.pure _
  | 1 => exact byte.bind fun _ => uint16.bind fun _ => Local.pure _
  | 2 => exact uint16.bind fun _ => uint32.bind fun _ => Local.pure _
  | 3 => exact uint16.bind fun _ => string.bind fun _ => Local.pure _
  | 4 => exact uint16.bind fun _ => (byte.many 16).bind fun _ => Local.pure _
  | 5 =>
    refine uint16.bind fun _ => int32.bind fun len => ?_
    by_cases hlen : len.toInt < 0 ∨ 16 < len.toInt
    · simp only [dif_pos hlen]
      exact Local.refuse _
    · simp only [dif_neg hlen]
      exact (byte.many _).bind fun _ => Local.pure _
  | _ + 6 => exact Local.refuse _

theorem nodeid : Wire.Local Wire.nodeid := byte.bind nodeidBody

theorem extensionObjectHeader : Wire.Local Wire.extensionObjectHeader := by
  refine nodeid.bind fun typeId => byte.bind fun mask => ?_
  refine Local.ite (fun _ => Local.pure _) fun _ => ?_
  refine Local.ite (fun _ => ?_) fun _ => Local.refuse _
  exact int32.bind fun len => Local.ite (fun _ => Local.refuse _) fun _ => Local.pure _

theorem scalarValue (type : BuiltinType) : Wire.Local (Wire.scalarValue type) := by
  cases type with
  | boolean => exact boolean
  | sbyte => exact sbyte
  | byte => exact byte
  | int16 => exact int16
  | uint16 => exact uint16
  | int32 => exact int32
  | uint32 | float | statusCode => exact uint32
  | int64 | dateTime => exact int64
  | uint64 | double => exact uint64
  | string | byteString => exact string
  | nodeId => exact nodeid
  | qualifiedName => exact qualifiedName
  | localizedText => exact localizedText
  | null | guid | xmlElement | expandedNodeId | extensionObject | dataValue | variant
  | diagnosticInfo | reserved => exact Local.refuse _

end Wire.Local

/-! ### Variants

The elements of an array are read only if as many bytes remain as there are elements. Each element
takes at least one byte, so the bytes that were used pass the same test. -/

/-- Success takes at least `least` bytes. -/
def Wire.AtLeast (least : Nat) (w : Wire α) : Prop := Consumes w fun bs _ => least ≤ bs.length

namespace Wire.AtLeast

variable {k l : Nat}

theorem ofLocal (hw : Wire.Local w) : Wire.AtLeast 0 w :=
  Consumes.mono hw fun _ _ _ => Nat.zero_le _

theorem fixed {width : Nat} {decode : List UInt8 → α} (hwidth : k ≤ width) :
    Wire.AtLeast k (Wire.fixed width decode) :=
  Consumes.fixed fun src hlen => by simp; omega

theorem bind {f : α → Wire β} (hw : Wire.AtLeast k w)
    (hf : ∀ a, Wire.AtLeast l (f a)) : Wire.AtLeast (k + l) (w >>= f) := by
  refine Consumes.mono (Consumes.bind hw hf) ?_
  rintro bs b ⟨a,xs,ys,rfl,hxs,hys⟩
  simp only [List.length_append]
  omega

theorem bindLocal {f : α → Wire β} (hw : Wire.AtLeast k w)
    (hf : ∀ a, Wire.Local (f a)) : Wire.AtLeast k (w >>= f) :=
  hw.bind fun a => ofLocal (hf a)

theorem many (hw : Wire.AtLeast 1 w) (n : Nat) : Wire.AtLeast n (Wire.many w n) := by
  induction n with
  | zero => exact ofLocal (Local.pure _)
  | succ n ih =>
    have hmany : Wire.AtLeast (1 + n) (Wire.many w (n + 1)) :=
      hw.bind fun _ => ih.bindLocal fun _ => Local.pure _
    rwa [Nat.add_comm 1 n] at hmany

theorem scalarValue (type : BuiltinType) : Wire.AtLeast 1 (Wire.scalarValue type) := by
  cases type with
  | boolean | sbyte | byte | int16 | uint16 | int32 | uint32 | float | statusCode | int64
  | dateTime | uint64 | double => exact fixed (by decide)
  | string | byteString =>
    exact bindLocal (fixed (by decide)) fun length => Local.stringBody length.toInt
  | nodeId => exact bindLocal (fixed (by decide)) Local.nodeidBody
  | qualifiedName =>
    exact bindLocal (fixed (by decide)) fun _ => Local.string.bind fun _ => Local.pure _
  | localizedText =>
    exact bindLocal (fixed (by decide)) fun _ => (Local.string.when _ _).bind fun _ =>
      (Local.string.when _ _).bind fun _ => Local.pure _
  | null | guid | xmlElement | expandedNodeId | extensionObject | dataValue | variant
  | diagnosticInfo | reserved => exact Consumes.refuse _ _

end Wire.AtLeast

namespace Wire.Local

variable (profile : CodecProfile)

theorem variantElements (type : BuiltinType) (length : Nat) :
    Wire.Local (Wire.variantElements profile type length) := by
  refine Local.ite (fun _ => Local.refuse _) fun _ => ?_
  intro src es n h
  rw [Wire.peek_bind] at h
  by_cases hroom : src.length < length ∨ sizeMax / elementSize type < length
  · simp [if_pos hroom,Wire.refuse] at h
  by_cases halloc : profile.calloc length (elementSize type) = false
  · simp [if_neg hroom,if_pos halloc,Wire.refuse] at h
  rw [if_neg hroom,if_neg halloc] at h
  obtain ⟨hn,hreads⟩ := (scalarValue type).many length src es n h
  have hbytes := ((AtLeast.scalarValue type).many length src es n h).2
  refine ⟨hn,fun tail => ?_⟩
  have hroom' : ¬ ((src.take n ++ tail).length < length ∨ sizeMax / elementSize type < length) := by
    simp only [List.length_append]
    omega
  rw [Wire.peek_bind,if_neg hroom',if_neg halloc]
  exact hreads tail

theorem variantDimensions : Wire.Local Wire.variantDimensions :=
  int32.bind fun _ => Local.ite (fun _ => Local.refuse _) fun _ =>
    (int32.many _).bind fun _ => Local.pure _

theorem variant : Wire.Local (Wire.variant profile) := by
  refine byte.bind fun mask => ?_
  refine Local.ite (fun _ => Local.refuse _) fun _ => ?_
  refine Local.ite (fun _ => Local.pure _) fun _ => ?_
  refine Local.ite (fun _ => ?_) fun _ => (scalarValue _).bind fun _ => Local.pure _
  refine int32.bind fun length => ?_
  refine Local.ite (fun _ => Local.refuse _) fun _ => ?_
  refine Local.ite (fun _ => Local.refuse _) fun _ => ?_
  exact (((variantElements profile _ _).map some).when _ _).bind fun _ =>
    (variantDimensions.when _ _).bind fun _ => Local.pure _

theorem datavalue : Wire.Local (Wire.datavalue profile) :=
  byte.bind fun _ => ((variant profile).optional _).bind fun _ =>
    (uint32.optional _).bind fun _ => (int64.optional _).bind fun _ =>
      (uint16.optional _).bind fun _ => (int64.optional _).bind fun _ =>
        (uint16.optional _).bind fun _ => Local.pure _

end Wire.Local

/-! ## Decoders of the code -/

def BinaryReader.Open (r : BinaryReader) : Prop := r.buffer.isSome = true ∧ r.status = Status.good

theorem BinaryReader.Open.advance (h : r.Open) (n : Nat) : (r.advance n).Open := h

theorem BinaryReader.Open.length_rest (hopen : r.Open) : r.rest.length = r.length - r.position := by
  obtain ⟨buffer,hbuffer⟩ := Option.isSome_iff_exists.mp hopen.1
  exact BinaryReader.length_rest hbuffer

theorem BinaryReader.advance_inj {m n : Nat} : r.advance m = r.advance n ↔ m = n := by
  constructor
  · intro h
    have hposition := congrArg BinaryReader.position h
    simp only [BinaryReader.advance_position] at hposition
    omega
  · intro h
    rw [h]

theorem BinaryReader.open_init (bytes : List UInt8) : (BinaryReader.init bytes).Open := ⟨rfl,rfl⟩

/-- The decoder finds `a` in the bytes `bs`, whatever follows them, and stops at their end. -/
def Takes (m : ReadM α) (bs : List UInt8) (a : α) : Prop :=
  ∀ (r : BinaryReader) (rest : List UInt8), r.Open → r.rest = bs ++ rest →
    m r = .ok a (r.advance bs.length)

def Local (m : ReadM α) : Prop :=
  ∀ (r r' : BinaryReader) (a : α), r.Open → m r = .ok a r' →
    ∃ bs rest, r.rest = bs ++ rest ∧ r' = r.advance bs.length ∧ Takes m bs a

theorem Refines.takes_iff (hm : Refines m w) : Takes m bs a ↔ Reads w bs a := by
  constructor
  · intro h tail
    have hrun := h (BinaryReader.init (bs ++ tail)) tail (BinaryReader.open_init _) rfl
    obtain ⟨n,hdone,hadvance⟩ := hm.done_of_ok hrun
    rw [hdone,BinaryReader.advance_inj.mp hadvance]
  · intro h r rest hopen hrest
    obtain ⟨buffer,hbuffer⟩ := Option.isSome_iff_exists.mp hopen.1
    exact hm.reads_at hbuffer hopen.2 h hrest

theorem Refines.toLocal (hm : Refines m w) (hw : Wire.Local w) : Local m := by
  intro r r' a hopen h
  obtain ⟨buffer,hbuffer⟩ := Option.isSome_iff_exists.mp hopen.1
  obtain ⟨n,hdone,rfl⟩ := hm.done_of_ok_at hbuffer hopen.2 h
  obtain ⟨hn,hreads⟩ := hw r.rest a n hdone
  have hlen : (r.rest.take n).length = n := List.length_take_of_le hn
  exact ⟨r.rest.take n,r.rest.drop n,(List.take_append_drop n _).symm,by rw [hlen],
    hm.takes_iff.mpr hreads⟩

theorem Takes.pure (a : α) : Takes (Pure.pure a : ReadM α) [] a := fun _ _ _ _ => rfl

theorem Takes.map (h : Takes m bs a) (f : α → β) : Takes (f <$> m) bs (f a) := by
  intro r rest hopen hrest
  rw [map_eq_pure_bind,bind_ok (h r rest hopen hrest)]
  rfl

theorem Takes.bind {f : α → ReadM β} {xs ys : List UInt8} {b : β}
    (hm : Takes m xs a) (hf : Takes (f a) ys b) : Takes (m >>= f) (xs ++ ys) b := by
  intro r rest hopen hrest
  have hfirst := hm r (ys ++ rest) hopen (by rw [hrest,List.append_assoc])
  have hnext : (r.advance xs.length).rest = ys ++ rest := by
    rw [BinaryReader.rest_advance,hrest,List.append_assoc,List.drop_left]
  rw [bind_ok hfirst,hf _ rest (hopen.advance _) hnext,BinaryReader.advance_advance,
    List.length_append]

theorem Takes.unique {xs xs' ys ys' : List UInt8} {a' : α}
    (hopen : r.Open) (h : Takes m xs a) (h' : Takes m xs' a') (hrest : r.rest = xs ++ ys)
    (hrest' : r.rest = xs' ++ ys') : xs = xs' ∧ ys = ys' ∧ a = a' := by
  have hrun := h r ys hopen hrest
  rw [h' r ys' hopen hrest'] at hrun
  injection hrun with ha hadvance
  have hlen : xs.length = xs'.length := (BinaryReader.advance_inj.mp hadvance).symm
  have hsplit := List.append_inj (hrest.symm.trans hrest') hlen
  exact ⟨hsplit.1,hsplit.2,ha.symm⟩

namespace Local

theorem pure (a : α) : Local (Pure.pure a : ReadM α) := by
  intro r r' b hopen h
  cases h
  exact ⟨[],r.rest,rfl,rfl,Takes.pure a⟩

theorem throw (s : BadStatus) : Local (throw s : ReadM α) := by
  intro r r' a hopen h
  cases h

theorem bind {f : α → ReadM β} (hm : Local m) (hf : ∀ a, Local (f a)) : Local (m >>= f) := by
  intro r r'' b hopen h
  obtain ⟨a,r',hfirst,hsecond⟩ := ok_of_bind h
  obtain ⟨xs,rest,hrest,rfl,htakes⟩ := hm r r' a hopen hfirst
  obtain ⟨ys,rest',hrest',rfl,htakes'⟩ := hf a _ r'' b (hopen.advance _) hsecond
  rw [BinaryReader.rest_advance,hrest,List.drop_left] at hrest'
  refine ⟨xs ++ ys,rest',?_,?_,htakes.bind htakes'⟩
  · rw [hrest,hrest',List.append_assoc]
  · rw [BinaryReader.advance_advance,List.length_append]

theorem map (hm : Local m) (f : α → β) : Local (f <$> m) := by
  exact hm.bind fun a => Local.pure (f a)

theorem many (hm : Local m) (n : Nat) : Local (readMany m n) := by
  induction n with
  | zero => exact Local.pure _
  | succ n ih => exact hm.bind fun _ => ih.bind fun _ => Local.pure _

theorem readerStatus_bind (hm : Local m) : Local (readerStatus >>= fun _ => m) := by
  intro r r' a hopen h
  rw [bind_ok (readerStatus_ok hopen.2)] at h
  obtain ⟨bs,rest,hrest,rfl,htakes⟩ := hm r r' a hopen h
  refine ⟨bs,rest,hrest,rfl,fun s rest' hopen' hrest' => ?_⟩
  rw [bind_ok (readerStatus_ok hopen'.2)]
  exact htakes s rest' hopen' hrest'

end Local

theorem Takes.run_init (h : Takes m bs a) :
    m (BinaryReader.init bs) = .ok a ((BinaryReader.init bs).advance bs.length) :=
  h _ [] (BinaryReader.open_init bs) (List.append_nil bs).symm

theorem Local.takes_of_run (hm : Local m)
    (h : m (BinaryReader.init bs) = .ok a ((BinaryReader.init bs).advance bs.length)) :
    Takes m bs a := by
  obtain ⟨xs,rest,hrest,hadvance,htakes⟩ := hm _ _ a (BinaryReader.open_init bs) h
  have hsplit : bs ++ [] = xs ++ rest := (List.append_nil bs).trans hrest
  obtain ⟨rfl,-⟩ := List.append_inj hsplit (BinaryReader.advance_inj.mp hadvance)
  exact htakes

theorem Takes.of_map {f : α → β} {b : β} (hm : Local m)
    (h : Takes (f <$> m) bs b) : ∃ a, Takes m bs a ∧ f a = b := by
  have hrun := h.run_init
  obtain ⟨a,r',hfirst,hpure⟩ := ok_of_bind hrun
  injection (hpure : EStateM.Result.ok (f a) r' = .ok b _) with hvalue hadvance
  rw [hadvance] at hfirst
  exact ⟨a,hm.takes_of_run hfirst,hvalue⟩

/-- A test whether `least` bytes remain, which does not move the reader. -/
def Guards (least : Nat) (guard : ReadM Unit) : Prop :=
  ∀ r : BinaryReader, r.Open →
    (least ≤ r.rest.length → guard r = .ok () r) ∧ ∀ r', guard r = .ok () r' → r' = r

theorem Guards.of_run {guard : ReadM Unit} {s : BadStatus} (h : ∀ r : BinaryReader, r.Open →
      ∃ r', guard r = if least ≤ r.rest.length then .ok () r else .error s r') :
    Guards least guard := by
  intro r hopen
  obtain ⟨r',hrun⟩ := h r hopen
  rw [hrun]
  constructor
  · intro hlen
    exact if_pos hlen
  · intro r₁ hok
    split at hok
    · cases hok
      rfl
    · cases hok

section

variable {guard : ReadM Unit} (hguard : Guards least guard)
include hguard

theorem Guards.run_of_bind {r' : BinaryReader} (hopen : r.Open)
    (h : (guard >>= fun _ => m) r = .ok a r') : m r = .ok a r' := by
  obtain ⟨_,r₁,hfirst,hsecond⟩ := ok_of_bind h
  rwa [(hguard r hopen).2 r₁ hfirst] at hsecond

theorem Guards.takes_of_bind (hm : Local m) (h : Takes (guard >>= fun _ => m) bs a) :
    Takes m bs a :=
  hm.takes_of_run (hguard.run_of_bind (BinaryReader.open_init bs) h.run_init)

theorem Guards.takes_bind (hlen : least ≤ bs.length) (h : Takes m bs a) :
    Takes (guard >>= fun _ => m) bs a := by
  intro r rest hopen hrest
  have hroom : least ≤ r.rest.length := by
    rw [hrest,List.length_append]
    omega
  rw [bind_ok ((hguard r hopen).1 hroom)]
  exact h r rest hopen hrest

theorem Guards.isLocal (hm : Local m)
    (hleast : ∀ bs a, Takes m bs a → least ≤ bs.length) : Local (guard >>= fun _ => m) := by
  intro r r' a hopen h
  obtain ⟨bs,rest,hrest,hadvance,htakes⟩ := hm r r' a hopen (hguard.run_of_bind hopen h)
  exact ⟨bs,rest,hrest,hadvance,hguard.takes_bind (hleast bs a htakes) htakes⟩

end

/-! ## Length-prefixed bodies -/

/-- A decoder of an object with a header and a body either fails at `r`, or what it returns is in
the header and a body of the declared length, and it stops at the end of that body. -/
def Confined (header : ReadM (NodeId × Nat)) (decode : ReadM α) (r : BinaryReader) : Prop :=
  ∀ a r', decode r = .ok a r' →
    ∃ typeId head body rest, r.rest = head ++ body ++ rest ∧
      Takes header head (typeId, body.length) ∧ r' = r.advance (head ++ body).length ∧
        Takes decode (head ++ body) a

section Confined

variable {header : ReadM (NodeId × Nat)} {body : NodeId × Nat → ReadM α} {r : BinaryReader}

theorem not_confined_of_run {decode : ReadM α} {typeId : NodeId} {n k : Nat}
    (hopen : r.Open) (hheader : header r = .ok (typeId, length) (r.advance n))
    (hdecode : decode r = .ok a (r.advance k)) (hk : k ≠ n + length) :
    ¬ Confined header decode r := by
  intro h
  obtain ⟨typeId',head,body,rest,hrest,hhead,hadvance,-⟩ := h a _ hdecode
  rw [hhead r (body ++ rest) hopen (by rw [hrest,List.append_assoc])] at hheader
  injection hheader with htype hn
  have hlength : body.length = length := congrArg Prod.snd htype
  have hhead : head.length = n := BinaryReader.advance_inj.mp hn
  have hend : k = (head ++ body).length := BinaryReader.advance_inj.mp hadvance
  rw [List.length_append] at hend
  omega

theorem confined_bind_iff (hheader : Local header) (hbody : ∀ h, Local (body h)) (hopen : r.Open) :
    Confined header (header >>= body) r ↔
      ∀ head typeId length content rest a, r.rest = head ++ content ++ rest →
        Takes header head (typeId, length) → Takes (body (typeId, length)) content a →
          content.length = length := by
  constructor
  · intro h head typeId length content rest a hrest hhead hcontent
    have hrun := (hhead.bind hcontent) r rest hopen hrest
    obtain ⟨typeId',head',body',rest',hrest',hhead',hadvance,-⟩ := h a _ hrun
    rw [List.append_assoc] at hrest hrest'
    obtain ⟨rfl,-,htype⟩ := hhead.unique hopen hhead' hrest hrest'
    have hlen := BinaryReader.advance_inj.mp hadvance
    simp only [List.length_append] at hlen
    have hlength : length = body'.length := congrArg Prod.snd htype
    omega
  · intro h a r'' hrun
    obtain ⟨⟨typeId,length⟩,r',hfirst,hsecond⟩ := ok_of_bind hrun
    obtain ⟨head,rest,hrest,rfl,hhead⟩ := hheader r r' _ hopen hfirst
    obtain ⟨content,rest',hrest',rfl,hcontent⟩ :=
      hbody (typeId, length) _ r'' a (hopen.advance _) hsecond
    rw [BinaryReader.rest_advance,hrest,List.drop_left] at hrest'
    have hsplit : r.rest = head ++ content ++ rest' := by rw [hrest,hrest',List.append_assoc]
    have hlen := h head typeId length content rest' a hsplit hhead hcontent
    refine ⟨typeId,head,content,rest',hsplit,by rw [hlen]; exact hhead,?_,hhead.bind hcontent⟩
    rw [BinaryReader.advance_advance,List.length_append]

/-- The bytes behind the header that spell a value in the format of the object's type, if there are
any, number what `fits` allows for the declared length. -/
def BodyFits (header : Wire (NodeId × Nat)) (format : NodeId → Wire β) (fits : Nat → Nat → Prop)
    (r : BinaryReader) : Prop :=
  ∀ head typeId length content rest value, r.rest = head ++ content ++ rest →
    Reads header head (typeId, length) → Reads (format typeId) content value →
      fits content.length length

theorem confined_iff_bodyFits {wire : Wire (NodeId × Nat)} {format : NodeId → Wire β}
    {fits : Nat → Nat → Prop} (hheader : Refines header wire) (hlocal : Wire.Local wire)
    (hbody : ∀ h, Local (body h))
    (hwrong : ∀ typeId length content,
      (∃ a, Takes (body (typeId, length)) content a ∧ content.length ≠ length) ↔
        ∃ value, Reads (format typeId) content value ∧ ¬ fits content.length length)
    (hopen : r.Open) : Confined header (header >>= body) r ↔ BodyFits wire format fits r := by
  rw [confined_bind_iff (hheader.toLocal hlocal) hbody hopen]
  constructor
  · intro h head typeId length content rest value hrest hhead hvalue
    by_contra hfits
    obtain ⟨a,hcontent,hlen⟩ := (hwrong typeId length content).mpr ⟨value,hvalue,hfits⟩
    exact hlen (h head typeId length content rest a hrest (hheader.takes_iff.mpr hhead) hcontent)
  · intro h head typeId length content rest a hrest hhead hcontent
    by_contra hlen
    obtain ⟨value,hvalue,hfits⟩ := (hwrong typeId length content).mp ⟨a,hcontent,hlen⟩
    exact hfits (h head typeId length content rest value hrest (hheader.takes_iff.mp hhead) hvalue)

end Confined

/-! ### Bodies of known length -/

/-- A local decoder that goes past `length` bytes whenever it succeeds. -/
structure Exact (length : Nat) (m : ReadM α) : Prop where
  isLocal : Local m
  length_eq : ∀ bs a, Takes m bs a → bs.length = length

namespace Exact

theorem map (hm : Exact length m) (f : α → β) : Exact length (f <$> m) where
  isLocal := hm.isLocal.map f
  length_eq := by
    intro bs b h
    obtain ⟨a,ha,-⟩ := h.of_map hm.isLocal
    exact hm.length_eq bs a ha

theorem ite {c : Prop} [Decidable c] {m' : ReadM α} (ht : c → Exact length m)
    (he : ¬ c → Exact length m') : Exact length (if c then m else m') := by
  split
  · exact ht ‹_›
  · exact he ‹_›

theorem of_run (hrun : ∀ r r' a, r.Open → m r = .ok a r' →
      ∃ bs rest, r.rest = bs ++ rest ∧ bs.length = length ∧ r' = r.advance length ∧ Takes m bs a) :
    Exact length m where
  isLocal := by
    intro r r' a hopen h
    obtain ⟨bs,rest,hrest,hlen,rfl,htakes⟩ := hrun r r' a hopen h
    exact ⟨bs,rest,hrest,by rw [hlen],htakes⟩
  length_eq := by
    intro bs a h
    obtain ⟨xs,rest,-,hlen,hadvance,-⟩ := hrun _ _ a (BinaryReader.open_init bs) h.run_init
    exact BinaryReader.advance_inj.mp hadvance

theorem throw (length : Nat) (s : BadStatus) : Exact length (throw s : ReadM α) := by
  apply of_run
  intro r r' a hopen h
  cases h

theorem pure (a : α) : Exact 0 (Pure.pure a : ReadM α) := by
  apply of_run
  intro r r' b hopen h
  cases h
  exact ⟨[],r.rest,rfl,rfl,rfl,Takes.pure a⟩

theorem guard {guard : ReadM Unit} (hm : Exact length m)
    (hguard : Guards length guard) : Exact length (guard >>= fun _ => m) where
  isLocal :=
    hguard.isLocal hm.isLocal fun bs a h => (hm.length_eq bs a h).ge
  length_eq := by
    intro bs a h
    exact hm.length_eq bs a (hguard.takes_of_bind hm.isLocal h)

theorem advance (length : Nat) (hm : ∀ r : BinaryReader, r.Open → m r =
      if length ≤ r.rest.length then .ok a (r.advance length)
      else .error Status.badDecodingError r) : Exact length m := by
  apply of_run
  intro r r' b hopen h
  rw [hm r hopen] at h
  split at h
  · rename_i hlen
    cases h
    have htake : (r.rest.take length).length = length := List.length_take_of_le hlen
    refine ⟨r.rest.take length,r.rest.drop length,(List.take_append_drop _ _).symm,htake,rfl,
      fun s rest' hopen' hrest' => ?_⟩
    have hroom : length ≤ s.rest.length := by
      rw [hrest',List.length_append]
      omega
    rw [hm s hopen',if_pos hroom,htake]
  · cases h

end Exact

theorem confined_of_exact {header : ReadM (NodeId × Nat)} {body : NodeId × Nat → ReadM α}
    (hheader : Local header) (hbody : ∀ h, Exact h.2 (body h))
    (hopen : r.Open) : Confined header (header >>= body) r := by
  rw [confined_bind_iff hheader (fun h => (hbody h).isLocal) hopen]
  intro head typeId length content rest a _ _ hcontent
  exact (hbody (typeId, length)).length_eq content a hcontent

end MucOpcua
