import MucOpcua.Encoding.ReaderRefines

/-!
# Which read failures stick

Callers chain decoder calls on one reader and look at its status once at the end.
-/

namespace MucOpcua

open Sticky

variable {α β : Type}
variable {m : ReadM α} {r : BinaryReader} (n : Nat) (profile : CodecProfile)

/-! ## A tripped reader stays as it is -/

def ReadM.Inert (m : ReadM α) : Prop := ∀ r : BinaryReader, r.status ≠ Status.good → InertAt m r

theorem ReadM.Inert.bind (h : m.Inert) (f : α → ReadM β) : ReadM.Inert (m >>= f) :=
  fun r hr => (h r hr).bind f

theorem ensureBytes_inert : (ensureBytes n).Inert := by
  intro r hr
  refine ⟨⟨r.status,hr⟩,?_⟩
  rw [ensureBytes,get_bind,if_neg (fun h => hr h.1),dif_pos hr]
  rfl

theorem readFixed_inert (decode : List UInt8 → α) : (readFixed n decode).Inert :=
  (ensureBytes_inert n).bind _

theorem readerStatus_inert : readerStatus.Inert := by
  intro r hr
  refine ⟨⟨r.status,hr⟩,?_⟩
  rw [readerStatus,get_bind,dif_pos hr]
  rfl

theorem binaryReadString_inert : binaryReadString.Inert := (readFixed_inert 4 _).bind _

theorem binaryReadNodeid_inert : binaryReadNodeid.Inert := (readFixed_inert 1 _).bind _

theorem binaryReadExpandedNodeid_inert : binaryReadExpandedNodeid.Inert := by
  intro r hr
  rw [InertAt,binaryReadExpandedNodeid,get_bind]
  split
  · exact InertAt.throw _ r
  · exact (binaryReadNodeid_inert.bind _) r hr

theorem binaryReadExtensionObjectBody_inert (length : Nat) (decoder : Option (ReadM Unit)) :
    (binaryReadExtensionObjectBody length decoder).Inert := by
  intro r hr
  cases decoder with
  | none => exact InertAt.throw _ r
  | some decode =>
    refine ⟨⟨r.status,hr⟩,?_⟩
    rw [binaryReadExtensionObjectBody,get_bind,dif_pos hr]
    rfl

/-! ## A reader without a buffer -/

/-- On a NULL buffer the decoder trips the reader with `Bad_InternalError`. -/
def ReadM.TripsOnNull (m : ReadM α) : Prop :=
  ∀ r : BinaryReader, r.buffer = none → r.status = Status.good →
    Matches r (m r) (.trip Status.badInternalError)

theorem ReadM.TripsOnNull.bind (h : m.TripsOnNull) (f : α → ReadM β) :
    ReadM.TripsOnNull (m >>= f) := by
  intro r hb hr
  obtain ⟨r',hres,hstatus⟩ := h r hb hr
  exact ⟨r',bind_error hres f,hstatus⟩

theorem ensureBytes_tripsOnNull : (ensureBytes n).TripsOnNull := by
  intro r hb hr
  refine ⟨r.trip Status.badInternalError,?_,rfl⟩
  rw [ensureBytes,get_bind,if_neg (by simp [hb]),dif_neg (by simpa using hr),if_pos (by simp [hb])]
  rfl

theorem readFixed_tripsOnNull (decode : List UInt8 → α) : (readFixed n decode).TripsOnNull :=
  (ensureBytes_tripsOnNull n).bind _

theorem readerStatus_bind_tripsOnNull (h : m.TripsOnNull) :
    ReadM.TripsOnNull (readerStatus >>= fun _ => m) := by
  intro r hb hr
  rw [bind_ok (readerStatus_ok hr)]
  exact h r hb hr

/-! ## The operations -/

inductive ReadOp where
  | boolean | sbyte | byte | int16 | uint16 | int32 | uint32 | int64 | uint64
  | float | double | statuscode | arrayLength | string | bytestring
  | nodeid | expandedNodeid | qualifiedName | variant | datavalue
  | extensionObjectHeader
  | extensionObjectBody (length : Nat) (decoder : Option (ReadM Unit))
  | localizedText | range | euInformation | usernameIdentityToken | certificateIdentityToken

def dropValue (m : ReadM α) : ReadM Unit := do
  let _ ← m
  return

def ReadOp.run (profile : CodecProfile) : ReadOp → ReadM Unit
  | .boolean => dropValue binaryReadBoolean
  | .sbyte => dropValue binaryReadSbyte
  | .byte => dropValue binaryReadByte
  | .int16 => dropValue binaryReadInt16
  | .uint16 => dropValue binaryReadUint16
  | .int32 => dropValue binaryReadInt32
  | .uint32 => dropValue binaryReadUint32
  | .int64 => dropValue binaryReadInt64
  | .uint64 => dropValue binaryReadUint64
  | .float => dropValue binaryReadFloat
  | .double => dropValue binaryReadDouble
  | .statuscode => dropValue binaryReadStatuscode
  | .arrayLength => dropValue binaryReadArrayLength
  | .string => dropValue binaryReadString
  | .bytestring => dropValue binaryReadBytestring
  | .nodeid => dropValue binaryReadNodeid
  | .expandedNodeid => dropValue binaryReadExpandedNodeid
  | .qualifiedName => dropValue binaryReadQualifiedName
  | .variant => dropValue (binaryReadVariant profile)
  | .datavalue => dropValue (binaryReadDatavalue profile)
  | .extensionObjectHeader => dropValue binaryReadExtensionObjectHeader
  | .extensionObjectBody length decoder => binaryReadExtensionObjectBody length decoder
  | .localizedText => dropValue binaryReadLocalizedText
  | .range => dropValue binaryReadRange
  | .euInformation => dropValue binaryReadEuInformation
  | .usernameIdentityToken => dropValue binaryReadUsernameIdentityToken
  | .certificateIdentityToken => dropValue binaryReadCertificateIdentityToken

theorem ReadOp.run_inert (op : ReadOp) : (op.run profile).Inert := by
  cases op with
  | expandedNodeid => exact binaryReadExpandedNodeid_inert.bind _
  | extensionObjectBody length decoder => exact binaryReadExtensionObjectBody_inert length decoder
  | usernameIdentityToken | certificateIdentityToken => exact (readerStatus_inert.bind _).bind _
  | arrayLength => exact ((ensureBytes_inert 4).bind _).bind _
  | string | bytestring => exact binaryReadString_inert.bind _
  | nodeid => exact binaryReadNodeid_inert.bind _
  | extensionObjectHeader => exact (binaryReadNodeid_inert.bind _).bind _
  | euInformation => exact (binaryReadString_inert.bind _).bind _
  | boolean | sbyte | byte | int16 | uint16 | int32 | uint32 | int64 | uint64 | float | double
  | statuscode => exact (readFixed_inert _ _).bind _
  | qualifiedName | variant | datavalue | localizedText | range =>
    exact ((readFixed_inert _ _).bind _).bind _

/-! ## How an operation ends -/

def Outcome.void : Outcome α → Outcome Unit
  | .done _ n => .done () n
  | .trip s => .trip s
  | .refuse s => .refuse s

def arrayLengthOutcome (r : BinaryReader) : Outcome Unit :=
  if r.rest.length < 4 then
    .trip Status.badDecodingError
  else
    let decodedLength := (leGetU32 r.rest).toInt32.toInt
    if decodedLength < -1 ∨
        (0 < decodedLength ∧ sizeMax - (r.advance 4).position < decodedLength.toNat) then
      .trip Status.badDecodingError
    else
      .done () 4

def extensionObjectBodyOutcome (r : BinaryReader) (length : Nat) :
    Option (ReadM Unit) → Outcome Unit
  | none => .refuse Status.badInternalError
  | some decode =>
    if r.length < r.position ∨ r.length - r.position < length then
      .trip Status.badDecodingError
    else
      match decode (BinaryReader.init (r.rest.take length)) with
      | .error status _ => .trip status
      | .ok _ bodyReader =>
        if h : bodyReader.status ≠ Status.good then .trip ⟨bodyReader.status, h⟩
        else if bodyReader.position ≠ length then .trip Status.badDecodingError
        else .done () length

def ReadOp.outcomeNull : ReadOp → Outcome Unit
  | .expandedNodeid => .refuse Status.badDecodingError
  | .extensionObjectBody _ _ => .refuse Status.badInternalError
  | _ => .trip Status.badInternalError

def ReadOp.outcomeBytes (profile : CodecProfile) (r : BinaryReader) : ReadOp → Outcome Unit
  | .boolean => (Wire.boolean r.rest).void
  | .sbyte => (Wire.sbyte r.rest).void
  | .byte => (Wire.byte r.rest).void
  | .int16 => (Wire.int16 r.rest).void
  | .uint16 => (Wire.uint16 r.rest).void
  | .int32 => (Wire.int32 r.rest).void
  | .uint32 | .float | .statuscode => (Wire.uint32 r.rest).void
  | .int64 => (Wire.int64 r.rest).void
  | .uint64 | .double => (Wire.uint64 r.rest).void
  | .arrayLength => arrayLengthOutcome r
  | .string | .bytestring => (Wire.string r.rest).void
  | .nodeid => (Wire.nodeid r.rest).void
  | .expandedNodeid => (Wire.expandedNodeid r.rest).void
  | .qualifiedName => (Wire.qualifiedName r.rest).void
  | .variant => (Wire.variant profile r.rest).void
  | .datavalue => (Wire.datavalue profile r.rest).void
  | .extensionObjectHeader => (Wire.extensionObjectHeader r.rest).void
  | .extensionObjectBody length decoder => extensionObjectBodyOutcome r length decoder
  | .localizedText => (Wire.localizedText r.rest).void
  | .range => (Wire.range r.rest).void
  | .euInformation => (Wire.euInformation r.rest).void
  | .usernameIdentityToken => (Wire.usernameIdentityToken r.rest).void
  | .certificateIdentityToken => (Wire.certificateIdentityToken r.rest).void

def ReadOp.outcome (profile : CodecProfile) (r : BinaryReader) (op : ReadOp) : Outcome Unit :=
  match r.buffer with
  | none => op.outcomeNull
  | some _ => op.outcomeBytes profile r

variable {b : List UInt8}

theorem Refines.matches_dropValue {w : Wire α} (h : Refines m w)
    (hb : r.buffer = some b) (hr : r.status = Status.good) :
    Matches r (dropValue m r) (w r.rest).void := by
  have hm := (h.bind fun _ => Refines.pure ()) r b hb hr
  have hvoid : (w >>= fun _ => Pure.pure ()) r.rest = (w r.rest).void := by
    show Wire.bind w _ r.rest = _
    unfold Wire.bind
    cases w r.rest <;> rfl
  rwa [hvoid] at hm

theorem binaryReadArrayLength_matches (hb : r.buffer = some b) (hr : r.status = Status.good) :
    Matches r (dropValue binaryReadArrayLength r) (arrayLengthOutcome r) := by
  unfold arrayLengthOutcome
  by_cases hshort : r.rest.length < 4
  · rw [if_pos hshort]
    exact ⟨_,bind_error (bind_error (ensureBytes_short hb hr hshort) _) _,rfl⟩
  rw [if_neg hshort]
  have hok := ensureBytes_ok (n := 4) hb hr (by decide) (by omega)
  dsimp only
  split
  · next hbad =>
    refine ⟨(r.advance 4).trip Status.badDecodingError,bind_error ?_ _,rfl⟩
    rw [binaryReadArrayLength,bind_ok hok,get_bind]
    rw [if_pos hbad]
    rfl
  · next hgood =>
    refine bind_ok (a := (leGetU32 r.rest).toInt32) ?_ _
    rw [binaryReadArrayLength,bind_ok hok,get_bind]
    rw [if_neg hgood]
    rfl

theorem binaryReadExtensionObjectBody_matches
    (hb : r.buffer = some b) (hr : r.status = Status.good) (length : Nat)
    (decoder : Option (ReadM Unit)) :
    Matches r (binaryReadExtensionObjectBody length decoder r)
      (extensionObjectBodyOutcome r length decoder) := by
  cases decoder with
  | none => exact ⟨r,rfl,hr⟩
  | some decode =>
    rw [binaryReadExtensionObjectBody,get_bind,dif_neg (by simpa using hr),if_neg (by simp [hb]),
      extensionObjectBodyOutcome]
    by_cases hroom : r.length < r.position ∨ r.length - r.position < length
    · rw [if_pos hroom,if_pos hroom]
      exact ⟨_,rfl,rfl⟩
    rw [if_neg hroom,if_neg hroom]
    cases hbody : decode (BinaryReader.init (r.rest.take length)) with
    | error status _ => exact ⟨_,rfl,rfl⟩
    | ok _ bodyReader =>
      dsimp only
      by_cases hstatus : bodyReader.status ≠ Status.good
      · rw [dif_pos hstatus,dif_pos hstatus]
        exact ⟨_,rfl,rfl⟩
      rw [dif_neg hstatus,dif_neg hstatus]
      by_cases hend : bodyReader.position ≠ length
      · rw [if_pos hend,if_pos hend]
        exact ⟨_,rfl,rfl⟩
      · rw [if_neg hend,if_neg hend]
        rfl

theorem ReadOp.run_matches_null (op : ReadOp) (hb : r.buffer = none) (hr : r.status = Status.good) :
    Matches r (op.run profile r) op.outcomeNull := by
  cases op with
  | expandedNodeid =>
    refine ⟨r,bind_error ?_ _,hr⟩
    rw [binaryReadExpandedNodeid,get_bind,if_pos (Or.inl (by simp [hb]))]
    rfl
  | extensionObjectBody length decoder =>
    cases decoder with
    | none => exact ⟨r,rfl,hr⟩
    | some decode =>
      refine ⟨r,?_,hr⟩
      rw [ReadOp.run,binaryReadExtensionObjectBody,get_bind,dif_neg (by simpa using hr),
        if_pos (by simp [hb])]
      rfl
  | usernameIdentityToken | certificateIdentityToken =>
    exact (readerStatus_bind_tripsOnNull (((readFixed_tripsOnNull _ _).bind _).bind _)).bind _
      r hb hr
  | arrayLength => exact ((ensureBytes_tripsOnNull 4).bind _).bind _ r hb hr
  | boolean | sbyte | byte | int16 | uint16 | int32 | uint32 | int64 | uint64 | float | double
  | statuscode => exact (readFixed_tripsOnNull _ _).bind _ r hb hr
  | string | bytestring | nodeid | qualifiedName | variant | datavalue | localizedText | range =>
    exact ((readFixed_tripsOnNull _ _).bind _).bind _ r hb hr
  | extensionObjectHeader | euInformation =>
    exact (((readFixed_tripsOnNull _ _).bind _).bind _).bind _ r hb hr

theorem ReadOp.run_matches (op : ReadOp)
    (hr : r.status = Status.good) : Matches r (op.run profile r) (op.outcome profile r) := by
  unfold ReadOp.outcome
  cases hb : r.buffer with
  | none => exact op.run_matches_null profile hb hr
  | some b =>
    cases op with
    | boolean => exact binaryReadBoolean_refines.matches_dropValue hb hr
    | sbyte => exact binaryReadSbyte_refines.matches_dropValue hb hr
    | byte => exact binaryReadByte_refines.matches_dropValue hb hr
    | int16 => exact binaryReadInt16_refines.matches_dropValue hb hr
    | uint16 => exact binaryReadUint16_refines.matches_dropValue hb hr
    | int32 => exact binaryReadInt32_refines.matches_dropValue hb hr
    | uint32 | float | statuscode => exact binaryReadUint32_refines.matches_dropValue hb hr
    | int64 => exact binaryReadInt64_refines.matches_dropValue hb hr
    | uint64 | double => exact binaryReadUint64_refines.matches_dropValue hb hr
    | arrayLength => exact binaryReadArrayLength_matches hb hr
    | string | bytestring => exact binaryReadString_refines.matches_dropValue hb hr
    | nodeid => exact binaryReadNodeid_refines.matches_dropValue hb hr
    | expandedNodeid => exact binaryReadExpandedNodeid_refines.matches_dropValue hb hr
    | qualifiedName => exact binaryReadQualifiedName_refines.matches_dropValue hb hr
    | variant => exact (binaryReadVariant_refines profile).matches_dropValue hb hr
    | datavalue => exact (binaryReadDatavalue_refines profile).matches_dropValue hb hr
    | extensionObjectHeader =>
      exact binaryReadExtensionObjectHeader_refines.matches_dropValue hb hr
    | extensionObjectBody length decoder =>
      exact binaryReadExtensionObjectBody_matches hb hr length decoder
    | localizedText => exact binaryReadLocalizedText_refines.matches_dropValue hb hr
    | range => exact binaryReadRange_refines.matches_dropValue hb hr
    | euInformation => exact binaryReadEuInformation_refines.matches_dropValue hb hr
    | usernameIdentityToken =>
      exact binaryReadUsernameIdentityToken_refines.matches_dropValue hb hr
    | certificateIdentityToken =>
      exact binaryReadCertificateIdentityToken_refines.matches_dropValue hb hr

/-! ## Call sequences -/

/-- Once a call of the sequence fails, the reader's status stays bad, and every later call fails
and leaves the position where it was. -/
def StickyReads (profile : CodecProfile) (ops : List ReadOp) (r : BinaryReader) : Prop :=
  Law (fun r => r.status ≠ Status.good) BinaryReader.position (ReadOp.run profile) ops r

/-- No call of the sequence meets contents it refuses while the reader is in good state. The
sequence is followed over the bytes up to its first failure. -/
def NoRefusal (profile : CodecProfile) : BinaryReader → List ReadOp → Prop
  | _, [] => True
  | r, op :: ops =>
    match op.outcome profile r with
    | .done _ n => NoRefusal profile (r.advance n) ops
    | .trip _ => True
    | .refuse _ => False

theorem firstFailureTrips_iff_noRefusal (ops : List ReadOp) (hr : r.status = Status.good) :
    FirstFailureTrips (fun r => r.status ≠ Status.good) (ReadOp.run profile) ops r ↔
      NoRefusal profile r ops := by
  induction ops generalizing r with
  | nil => simp [FirstFailureTrips,NoRefusal]
  | cons op ops ih =>
    have hop := op.run_matches profile hr
    cases hout : op.outcome profile r with
    | done u n =>
      rw [hout] at hop
      simp only [FirstFailureTrips,NoRefusal,hout,show op.run profile r = _ from hop]
      exact ih hr
    | trip s =>
      rw [hout] at hop
      obtain ⟨r',hres,hstatus⟩ := hop
      simp only [FirstFailureTrips,NoRefusal,hout,hres,hstatus]
      exact iff_true_intro s.property
    | refuse s =>
      rw [hout] at hop
      obtain ⟨r',hres,hstatus⟩ := hop
      simp [FirstFailureTrips,NoRefusal,hout,hres,hstatus]

/-- A sequence of decoder calls obeys the sticky discipline exactly when the reader was tripped
already or no call of it meets contents it refuses before the first failure. -/
theorem stickyReads_iff_noRefusal (profile : CodecProfile) (ops : List ReadOp) (r : BinaryReader) :
    StickyReads profile ops r ↔ r.status ≠ Status.good ∨ NoRefusal profile r ops := by
  have hinert : ∀ (op : ReadOp) (s : BinaryReader), s.status ≠ Status.good →
      InertAt (op.run profile) s := fun op s hs => op.run_inert profile s hs
  by_cases hr : r.status = Status.good
  · rw [StickyReads,law_iff_firstFailureTrips hinert,firstFailureTrips_iff_noRefusal profile ops hr]
    simp [hr]
  · exact iff_of_true (law_of_tripped hinert ops hr) (Or.inl hr)

/-- An unknown NodeId format is refused and forgotten: the reader over `0F 07` is still in good
state after the NodeId call, and the next call reads on. -/
theorem nodeid_refusal_not_sticky :
    ¬ StickyReads ⟨8192, fun _ _ => true⟩ [.nodeid, .byte] (BinaryReader.init [0x0F, 0x07]) := by
  intro law
  have hnode := law [] .nodeid [.byte] rfl (by decide +kernel)
  exact hnode.1 (by decide +kernel)

end MucOpcua
