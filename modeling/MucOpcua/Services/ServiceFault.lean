import MucOpcua.Services.ServiceHeader

/-!
# A ServiceFault always fits

The encoder of a ServiceFault writes fixed-width fields only, 32 bytes at most.
-/

namespace MucOpcua

theorem scan_fields {length pos : Nat} (fields : List (List UInt8))
    (hfit : pos + fields.flatten.length ≤ length) :
    scan true length pos (fields.map Leaf.field) = .done fields.flatten := by
  induction fields generalizing pos with
  | nil => rfl
  | cons bs fields ih =>
    simp only [List.flatten_cons,List.length_append] at hfit
    rw [List.map_cons,scan,if_neg (by simp),if_pos (by omega),ih (by omega)]
    rfl

variable {w : BinaryWriter}

theorem Emits.ok_of_fields {m : WriteM Unit} {fields : List (List UInt8)}
    (h : Emits m (fields.map Leaf.field)) (hw : w.status = Status.good)
    (hbuf : w.buffer.isSome = true) (hfit : w.position + fields.flatten.length ≤ w.length) :
    m w = .ok () (w.put fields.flatten) := by
  have hmatch := h w hw
  rw [BinaryWriter.scan,hbuf,scan_fields fields hfit] at hmatch
  exact hmatch

/-! ## The fields -/

def serviceDiagnosticsFields (header : ResponseHeader) : List (List UInt8) :=
  if header.returnDiagnostics &&& 0x20 ≠ 0 then [[0x20], lePutU32 header.serviceResult]
  else [[0x00]]

def responseHeaderFields (header : ResponseHeader) : List (List UInt8) :=
  lePutU64 header.timestamp.toUInt64 :: lePutU32 header.requestHandle ::
    lePutU32 header.serviceResult ::
    (serviceDiagnosticsFields header ++ [lePutU32 (-1 : Int32).toUInt32, [0x00], [0x00], [0x00]])

variable (header : ResponseHeader)

theorem writeServiceDiagnostics_emits :
    Emits (writeServiceDiagnostics header) ((serviceDiagnosticsFields header).map Leaf.field) := by
  unfold writeServiceDiagnostics serviceDiagnosticsFields
  split
  · exact (writeFixed_emits _).bind (writeFixed_emits _)
  · exact writeFixed_emits _

theorem responseHeaderEncode_emits :
    Emits (responseHeaderEncode header) ((responseHeaderFields header).map Leaf.field) := by
  have hext : Emits (binaryWriteExtensionObjectHeader (some (numericNodeId 0)) 0)
      ([[0x00],[0x00],[0x00]].map Leaf.field) := binaryWriteExtensionObjectHeader_emits _ _
  have hfields := (writeFixed_emits (lePutU64 header.timestamp.toUInt64)).bind <|
    (writeFixed_emits (lePutU32 header.requestHandle)).bind <|
    (writeFixed_emits (lePutU32 header.serviceResult)).bind <|
    (writeServiceDiagnostics_emits header).bind <|
    (writeFixed_emits (lePutU32 (-1 : Int32).toUInt32)).bind hext
  rw [responseHeaderFields,List.map_cons,List.map_cons,List.map_cons,List.map_append]
  exact hfields

theorem responseHeaderFields_length : (responseHeaderFields header).flatten.length ≤ 28 := by
  have hdiagnostics : (serviceDiagnosticsFields header).flatten.length ≤ 5 := by
    unfold serviceDiagnosticsFields
    split <;> simp [lePutU32]
  simp only [responseHeaderFields,List.flatten_cons,List.flatten_append,List.length_append]
  simp only [lePutU64,lePutU32,List.length_cons,List.length_nil,List.flatten_nil]
  omega

/-! ## The encoder -/

variable {ω : Type}

theorem RespondM.put_ok {encode : WriteM Unit} {w' : BinaryWriter} (h : encode w = .ok () w')
    (world : ω) : RespondM.put encode (w, world) = .ok () (w', world) := by
  simp only [RespondM.put,h]

theorem writeResponsePrefix_ok (time : TimeAdapter ω)
    (returnDiagnostics responseTypeId requestHandle : UInt32) (serviceResult : StatusCode)
    {typeFields : List (List UInt8)}
    (htype : Emits (binaryWriteNodeid (some (numericNodeId responseTypeId)))
      (typeFields.map Leaf.field))
    (hfour : typeFields.flatten.length = 4) (hw : w.status = Status.good)
    (hbuf : w.buffer.isSome = true) (hfit : w.position + 32 ≤ w.length) (world : ω) :
    ∃ bytes world', bytes ≠ [] ∧ bytes.length ≤ 32 ∧
      writeResponsePrefix time returnDiagnostics responseTypeId requestHandle serviceResult
        (w, world) = .ok () (w.put bytes, world') := by
  let header : ResponseHeader :=
    ⟨(time.getTime world).1,requestHandle,serviceResult,returnDiagnostics⟩
  have hnode := htype.ok_of_fields hw hbuf (by omega)
  have hlen := responseHeaderFields_length header
  have hroom : w.position + typeFields.flatten.length +
      (responseHeaderFields header).flatten.length ≤ w.length := by omega
  have hheader := (responseHeaderEncode_emits header).ok_of_fields
    (w := w.put typeFields.flatten) hw (by simpa using hbuf) hroom
  rw [← BinaryWriter.put_append] at hheader
  refine ⟨typeFields.flatten ++ (responseHeaderFields header).flatten,
    (time.getTime world).2,?_,?_,?_⟩
  · intro hnil
    rw [(List.append_eq_nil_iff.mp hnil).1] at hfour
    cases hfour
  · rw [List.length_append]
    omega
  · exact (Sticky.bind_ok (RespondM.put_ok hnode world) _).trans (RespondM.put_ok hheader _)

theorem writeServiceFault_ok (time : TimeAdapter ω) (returnDiagnostics requestHandle : UInt32)
    (serviceResult : StatusCode) (hw : w.status = Status.good)
    (hbuf : w.buffer.isSome = true) (hfit : w.position + 32 ≤ w.length) (world : ω) :
    ∃ bytes world', bytes ≠ [] ∧
      writeServiceFault time returnDiagnostics requestHandle serviceResult (w, world) =
        .ok () (w.put bytes, world') := by
  have htype : Emits (binaryWriteNodeid (some (numericNodeId idServiceFault)))
      ([[0x01],[0x00],lePutU16 397].map Leaf.field) := binaryWriteNodeid_emits _
  obtain ⟨bytes,world',hne,-,hrun⟩ := writeResponsePrefix_ok time returnDiagnostics
    idServiceFault requestHandle serviceResult htype rfl hw hbuf hfit world
  exact ⟨bytes,world',hne,hrun⟩

end MucOpcua
