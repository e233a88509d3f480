import MucOpcua.Encoding.Locality
import MucOpcua.History.HistoryUpdate
import MucOpcua.Query.ContentFilter
import MucOpcua.Subscription.ItemRequests
import MucOpcua.Subscription.WhereClauseStored

/-!
# ExtensionObject bodies

Where the services decode the body of an ExtensionObject on the reader of the request, and how far
they read.
-/

namespace MucOpcua

open Sticky

variable {α β ω κ : Type}
variable {r : BinaryReader} (profile : CodecProfile) (stale : List UInt8) (typeId : NodeId)

/-! ## Formats -/

namespace Wire

def simpleAttributeOperand : Wire SimpleAttributeOperand := do
  let typeDefinitionId ← nodeid
  let count := (← int32).toInt
  if count < 0 then
    refuse Status.badDecodingError
  else
    let browsePath ← many qualifiedName count.toNat
    let attributeId ← uint32
    let indexRange ← string
    pure { typeDefinitionId, browsePath := browsePath.val, attributeId, indexRange }

def whereOperand (profile : CodecProfile) (typeId : NodeId) : Wire FilterOperand :=
  if typeId = numericNodeId idElementOperand then .element <$> uint32
  else if typeId = numericNodeId idLiteralOperand then .literal <$> variant profile
  else if typeId = numericNodeId idSimpleAttributeOperand then
    .simpleAttribute <$> simpleAttributeOperand
  else refuse Status.badNotSupported

def queryOperand (profile : CodecProfile) (stale : List UInt8) (typeId : NodeId) :
    Wire Query.FilterOperand :=
  if typeId.numericMember stale = 594 then .element <$> uint32
  else if typeId.numericMember stale = 597 then .literal <$> variant profile
  else refuse Status.badNotSupported

def detailsHeader : Wire (NodeId × Nat) := do
  let typeId ← nodeid
  let encodingMask ← byte
  if encodingMask &&& 0x01 = 0 then
    refuse Status.badNotSupported
  else
    let length := (← int32).toInt
    if length < 0 then refuse Status.badDecodingError else pure (typeId, length.toNat)

def updateDataDetails (profile : CodecProfile) : Wire UpdateDataDetails := do
  let nodeId ← nodeid
  let performInsertReplace ← uint32
  let numVals := (← int32).toInt
  if numVals < 0 then
    pure ⟨nodeId, performInsertReplace, [], Nat.zero_le maxHistoryUpdateValuesPerDetail⟩
  else if h : (maxHistoryUpdateValuesPerDetail : Int) < numVals then
    refuse Status.badTooManyOperations
  else
    let values ← many (datavalue profile) numVals.toNat
    pure ⟨nodeId, performInsertReplace, values.val.map .ofDatavalue,
      UpdateDataDetails.length_le h values⟩

def deleteRawModifiedDetails : Wire DeleteRawModifiedDetails := do
  let nodeId ← nodeid
  let isDeleteModified ← boolean
  let startTime ← int64
  let endTime ← int64
  pure { nodeId, isDeleteModified, startTime, endTime }

def details (profile : CodecProfile) (stale : List UInt8) (typeId : NodeId) :
    Wire HistoryUpdateItem :=
  if typeId.numericMember stale = idUpdateDataDetails then .data <$> updateDataDetails profile
  else if typeId.numericMember stale = idDeleteRawModifiedDetails then
    .deleteRaw <$> deleteRawModifiedDetails
  else refuse Status.badHistoryOperationUnsupported

namespace Local

theorem simpleAttributeOperand : Wire.Local Wire.simpleAttributeOperand :=
  nodeid.bind fun _ => int32.bind fun _ => Local.ite (fun _ => Local.refuse _) fun _ =>
    (qualifiedName.many _).bind fun _ => uint32.bind fun _ => string.bind fun _ => Local.pure _

theorem detailsHeader : Wire.Local Wire.detailsHeader :=
  nodeid.bind fun _ => byte.bind fun _ => Local.ite (fun _ => Local.refuse _) fun _ =>
    int32.bind fun _ => Local.ite (fun _ => Local.refuse _) fun _ => Local.pure _

theorem updateDataDetails : Wire.Local (Wire.updateDataDetails profile) := by
  refine nodeid.bind fun _ => uint32.bind fun _ => int32.bind fun numVals => ?_
  refine Local.ite (fun _ => Local.pure _) fun _ => ?_
  split
  · exact Local.refuse _
  · exact ((datavalue profile).many _).bind fun _ => Local.pure _

theorem deleteRawModifiedDetails : Wire.Local Wire.deleteRawModifiedDetails :=
  nodeid.bind fun _ => boolean.bind fun _ => int64.bind fun _ => int64.bind fun _ => Local.pure _

end Local

end Wire

theorem readSimpleAttributeOperand_refines :
    Refines readSimpleAttributeOperand Wire.simpleAttributeOperand := by
  refine binaryReadNodeid_refines.bind fun _ => binaryReadInt32_refines.bind fun count => ?_
  by_cases hcount : count.toInt < 0
  · simp only [if_pos hcount]
    exact Refines.throw _
  simp only [if_neg hcount]
  exact (binaryReadQualifiedName_refines.many _).bind fun _ =>
    binaryReadUint32_refines.bind fun _ => binaryReadString_refines.bind fun _ =>
      Refines.readerStatus_bind (Refines.pure _)

theorem readDetailsHeader_refines : Refines readDetailsHeader Wire.detailsHeader := by
  refine binaryReadNodeid_refines.bind fun _ => binaryReadByte_refines.bind fun mask => ?_
  by_cases hmask : mask &&& 0x01 = 0
  · simp only [if_pos hmask]
    exact Refines.throw _
  simp only [if_neg hmask]
  refine binaryReadInt32_refines.bind fun length => ?_
  by_cases hlength : length.toInt < 0
  · simp only [if_pos hlength]
    exact Refines.throw _
  · simp only [if_neg hlength]
    exact Refines.pure _

theorem readUpdateDataDetails_refines :
    Refines (readUpdateDataDetails profile) (Wire.updateDataDetails profile) := by
  refine binaryReadNodeid_refines.bind fun _ => binaryReadUint32_refines.bind fun _ =>
    binaryReadInt32_refines.bind fun numVals => ?_
  refine Refines.ite (fun _ => Refines.pure _) fun _ => ?_
  by_cases hmany : (maxHistoryUpdateValuesPerDetail : Int) < numVals.toInt
  · simp only [dif_pos hmany]
    exact Refines.throw _
  · simp only [dif_neg hmany]
    exact ((binaryReadDatavalue_refines profile).many _).bind fun _ => Refines.pure _

theorem readDeleteRawModifiedDetails_refines :
    Refines readDeleteRawModifiedDetails Wire.deleteRawModifiedDetails :=
  binaryReadNodeid_refines.bind fun _ => binaryReadBoolean_refines.bind fun _ =>
    binaryReadInt64_refines.bind fun _ => binaryReadInt64_refines.bind fun _ => Refines.pure _

/-! ## Skipping -/

section Skipping

variable {r : BinaryReader} {length : Nat}

theorem ensureReaderBytesRemaining_run (hopen : r.Open) : ensureReaderBytesRemaining length r =
      if length ≤ r.rest.length then .ok () r else .error Status.badDecodingError r := by
  have hrest := hopen.length_rest
  rw [ensureReaderBytesRemaining,get_bind]
  by_cases hlen : length ≤ r.rest.length
  · rw [if_pos hlen,if_neg (by omega)]
    rfl
  · rw [if_neg hlen,if_pos (by omega)]
    rfl

theorem guards_ensureReaderBytesRemaining (length : Nat) :
    Guards length (ensureReaderBytesRemaining length) :=
  Guards.of_run fun r hopen => ⟨r,ensureReaderBytesRemaining_run hopen⟩

theorem guards_ensureFilterBytes (hpos : 0 < length) :
    Guards length (ensureFilterBytes length) := by
  apply Guards.of_run
  intro r hopen
  have hrest := hopen.length_rest
  refine ⟨r,?_⟩
  rw [ensureFilterBytes,get_bind]
  by_cases hlen : length ≤ r.rest.length
  · rw [if_pos hlen,if_neg (by omega)]
    rfl
  · rw [if_neg hlen,if_pos (by omega)]
    rfl

theorem Exact.skipExtensionObjectBody (length : Nat) :
    Exact length (skipExtensionObjectBody length) := by
  apply Exact.advance length
  intro r hopen
  show (ensureReaderBytesRemaining length >>= _) r = _
  have hensure : ensureReaderBytesRemaining length r = _ := ensureReaderBytesRemaining_run hopen
  by_cases hlen : length ≤ r.rest.length
  · rw [if_pos hlen] at hensure ⊢
    rw [bind_ok hensure]
    rfl
  · rw [if_neg hlen] at hensure ⊢
    exact bind_error hensure _

end Skipping

/-! ## Operands -/

def whereOperandBody (profile : CodecProfile) : NodeId × Nat → ReadM FilterOperand
  | (typeId, length) =>
    if typeId = numericNodeId idElementOperand then do
      return .element (← binaryReadUint32)
    else if typeId = numericNodeId idLiteralOperand then do
      let value ← binaryReadVariant profile
      readerStatus
      return .literal value
    else if typeId = numericNodeId idSimpleAttributeOperand then do
      let operand ← readSimpleAttributeOperand
      readerStatus
      return .simpleAttribute operand
    else do
      skipExtensionObjectBody length
      return .other typeId length

/-- A body that the code reads in its format, or whose length it respects. -/
inductive Follows (length : Nat) (m : ReadM α) (w : Wire α) : Prop where
  | format (hm : Refines m w) (hw : Wire.Local w)
  | exact (hm : Exact length m) (hw : ∀ bs a, ¬ Reads w bs a)

theorem Wire.not_reads_refuse (s : BadStatus) (bs : List UInt8) (a : α) :
    ¬ Reads (Wire.refuse s) bs a := by
  intro h
  have hdone := h []
  cases hdone

namespace Follows

variable {length : Nat} {m : ReadM α} {w : Wire α}

theorem isLocal (h : Follows length m w) : Local m := by
  cases h with
  | format hm hw => exact hm.toLocal hw
  | exact hm hw => exact hm.isLocal

theorem wrong_iff (h : Follows length m w) (content : List UInt8) :
    (∃ a, Takes m content a ∧ content.length ≠ length) ↔
      ∃ a, Reads w content a ∧ ¬ content.length = length := by
  cases h with
  | format hm hw => simp only [hm.takes_iff]
  | exact hm hw =>
    constructor
    · rintro ⟨a,ha,hlen⟩
      exact absurd (hm.length_eq content a ha) hlen
    · rintro ⟨a,ha,-⟩
      exact absurd ha (hw content a)

theorem ite {c : Prop} [Decidable c] {m' : ReadM α} {w' : Wire α} (ht : Follows length m w)
    (he : Follows length m' w') : Follows length (if c then m else m') (if c then w else w') := by
  split
  · exact ht
  · exact he

end Follows

theorem whereOperandBody_follows (length : Nat) :
    Follows length (whereOperandBody profile (typeId, length))
      (Wire.whereOperand profile typeId) := by
  apply Follows.ite
  · exact .format (binaryReadUint32_refines.map _) (Wire.Local.uint32.map _)
  apply Follows.ite
  · exact .format ((binaryReadVariant_refines profile).bind fun _ =>
      Refines.readerStatus_bind (Refines.pure _)) ((Wire.Local.variant profile).map _)
  apply Follows.ite
  · exact .format (readSimpleAttributeOperand_refines.bind fun _ =>
      Refines.readerStatus_bind (Refines.pure _)) (Wire.Local.simpleAttributeOperand.map _)
  · exact .exact ((Exact.skipExtensionObjectBody length).map _) (Wire.not_reads_refuse _)

theorem filterOperandBody_follows (length : Nat) :
    Follows length (Query.filterOperandBody profile (typeId.numericMember stale) length)
      (Wire.queryOperand profile stale typeId) := by
  apply Follows.ite
  · exact .format (binaryReadUint32_refines.map _) (Wire.Local.uint32.map _)
  apply Follows.ite
  · exact .format ((binaryReadVariant_refines profile).map _) ((Wire.Local.variant profile).map _)
  refine .exact ?_ (Wire.not_reads_refuse _)
  apply Exact.ite
  · intro hpos
    apply Exact.advance
    intro r hopen
    have hrest := hopen.length_rest
    rw [get_bind]
    by_cases hlen : length ≤ r.rest.length
    · rw [if_pos hlen,if_neg (by omega)]
      rfl
    · rw [if_neg hlen,if_pos (by omega)]
      rfl
  · intro _
    exact Exact.throw _ _

theorem confined_map_iff {body : NodeId × Nat → ReadM α}
    {format : NodeId → Wire α} (f : α → β) (hopen : r.Open)
    (hbody : ∀ typeId length, Follows length (body (typeId, length)) (format typeId)) :
    Confined binaryReadExtensionObjectHeader (f <$> (binaryReadExtensionObjectHeader >>= body)) r ↔
      BodyFits Wire.extensionObjectHeader format (· = ·) r := by
  have hlocal : ∀ h, Local (body h) := fun h => (hbody h.1 h.2).isLocal
  have hshape : f <$> (binaryReadExtensionObjectHeader >>= body) =
      binaryReadExtensionObjectHeader >>= fun h => f <$> body h := by
    simp only [map_eq_pure_bind,bind_assoc]
  rw [hshape]
  apply confined_iff_bodyFits binaryReadExtensionObjectHeader_refines
    Wire.Local.extensionObjectHeader (fun h => (hlocal h).map f) _ hopen
  intro typeId length content
  rw [← (hbody typeId length).wrong_iff content]
  constructor
  · rintro ⟨b,hb,hlen⟩
    obtain ⟨a,ha,-⟩ := hb.of_map (hlocal _)
    exact ⟨a,ha,hlen⟩
  · rintro ⟨a,ha,hlen⟩
    exact ⟨f a,ha.map f,hlen⟩

theorem whereOperand_confined_iff (caps : FilterCapacities) (profile : CodecProfile)
    (clause : WhereClause) (reject : Bool) (hopen : r.Open) :
    Confined binaryReadExtensionObjectHeader (decodeWhereOperand caps profile clause reject) r ↔
      BodyFits Wire.extensionObjectHeader (Wire.whereOperand profile) (· = ·) r := by
  rw [decodeWhereOperand_eq]
  exact confined_map_iff _ hopen (whereOperandBody_follows profile)

theorem queryOperand_confined_iff (hopen : r.Open) :
    Confined binaryReadExtensionObjectHeader (Query.filterOperandDecode profile stale) r ↔
      BodyFits Wire.extensionObjectHeader (Wire.queryOperand profile stale) (· = ·) r := by
  have hshape : Query.filterOperandDecode profile stale =
      id <$> (binaryReadExtensionObjectHeader >>= fun h : NodeId × Nat =>
        Query.filterOperandBody profile (h.1.numericMember stale) h.2) := (id_map _).symm
  rw [hshape]
  exact confined_map_iff id hopen fun typeId length =>
    filterOperandBody_follows profile stale typeId length

/-! ## Details of HistoryUpdate -/

section Padded

variable {m : ReadM α} {r r' : BinaryReader} {length : Nat} {a : α}

theorem skipRemaining_run (hopen : r.Open) (used : Nat) :
    skipRemaining r.position length (r.advance used) =
      if length ≤ used then .ok () (r.advance used)
      else if length ≤ r.rest.length then .ok () (r.advance length)
      else .error Status.badDecodingError (r.advance used) := by
  have hrest := hopen.length_rest
  have hread : (r.advance used).position - r.position = used := by simp
  rw [skipRemaining,get_bind]
  by_cases hused : length ≤ used
  · rw [if_pos hused,if_neg (by omega)]
    rfl
  rw [if_neg hused,if_pos (by omega),hread]
  by_cases hlen : length ≤ r.rest.length
  · rw [if_pos hlen,if_neg (by simp; omega)]
    show EStateM.Result.ok () ((r.advance used).advance (length - used)) = _
    rw [BinaryReader.advance_advance,Nat.add_sub_cancel' (by omega)]
  · rw [if_neg hlen,if_pos (by simp; omega)]
    rfl

theorem readPadded_run (hopen : r.Open) {content rest : List UInt8} (hrest : r.rest = content ++ rest)
    (hm : Takes m content a) :
    readPadded length m r =
      if length ≤ content.length then .ok a (r.advance content.length)
      else if length ≤ r.rest.length then .ok a (r.advance length)
      else .error Status.badDecodingError (r.advance content.length) := by
  have hskip : skipRemaining r.position length (r.advance content.length) = _ :=
    skipRemaining_run hopen content.length
  show (m >>= fun a => skipRemaining r.position length >>= fun _ => pure a) r = _
  rw [bind_ok (hm r rest hopen hrest)]
  by_cases hused : length ≤ content.length
  · rw [if_pos hused] at hskip ⊢
    rw [bind_ok hskip]
    rfl
  rw [if_neg hused] at hskip ⊢
  by_cases hlen : length ≤ r.rest.length
  · rw [if_pos hlen] at hskip ⊢
    rw [bind_ok hskip]
    rfl
  · rw [if_neg hlen] at hskip ⊢
    exact bind_error hskip _

theorem content_of_readPadded (hm : Local m) (hopen : r.Open) (h : readPadded length m r = .ok a r') :
    ∃ content rest, r.rest = content ++ rest ∧ Takes m content a ∧
      (length ≤ content.length ∧ r' = r.advance content.length ∨
        content.length < length ∧ length ≤ r.rest.length ∧ r' = r.advance length) := by
  obtain ⟨b,r₁,hfirst,hsecond⟩ := ok_of_bind
    (show (m >>= fun a => skipRemaining r.position length >>= fun _ => pure a) r = .ok a r' from h)
  obtain ⟨content,rest,hrest,rfl,htakes⟩ := hm r r₁ b hopen hfirst
  rw [readPadded_run hopen hrest htakes] at h
  split at h
  · rename_i hused
    cases h
    exact ⟨content,rest,hrest,htakes,.inl ⟨hused,rfl⟩⟩
  split at h
  · rename_i hused hlen
    cases h
    exact ⟨content,rest,hrest,htakes,.inr ⟨by omega,hlen,rfl⟩⟩
  · cases h

theorem Local.readPadded (hm : Local m) (length : Nat) : Local (readPadded length m) := by
  intro r r' a hopen h
  obtain ⟨content,rest,hrest,htakes,⟨hused,rfl⟩ | ⟨hused,hlen,rfl⟩⟩ :=
    content_of_readPadded hm hopen h
  · refine ⟨content,rest,hrest,rfl,fun s rest' hopen' hrest' => ?_⟩
    rw [readPadded_run hopen' hrest' htakes,if_pos hused]
  have htake : (r.rest.take length).length = length := List.length_take_of_le hlen
  have hcontent : r.rest.take length = content ++ rest.take (length - content.length) := by
    rw [hrest,List.take_append,List.take_of_length_le (by omega)]
  refine ⟨r.rest.take length,r.rest.drop length,(List.take_append_drop _ _).symm,
    by rw [htake],fun s rest' hopen' hrest' => ?_⟩
  have hroom : length ≤ s.rest.length := by
    rw [hrest',List.length_append]
    omega
  rw [hcontent,List.append_assoc] at hrest'
  rw [readPadded_run hopen' hrest' htakes,if_neg (by omega),if_pos hroom,htake]

theorem readPadded_wrong_iff {w : Wire α} (hm : Refines m w) (hw : Wire.Local w)
    (length : Nat) (content : List UInt8) :
    (∃ a, Takes (readPadded length m) content a ∧ content.length ≠ length) ↔
      ∃ a, Reads w content a ∧ ¬ content.length ≤ length := by
  have hlocal := hm.toLocal hw
  constructor
  · rintro ⟨a,htakes,hlen⟩
    obtain ⟨fields,rest,hrest,hfields,⟨hused,hadvance⟩ | ⟨-,-,hadvance⟩⟩ :=
      content_of_readPadded hlocal (BinaryReader.open_init content) htakes.run_init
    · have hsame : content.length = fields.length := BinaryReader.advance_inj.mp hadvance
      have hsplit : content ++ [] = fields ++ rest := (List.append_nil content).trans hrest
      obtain ⟨rfl,-⟩ := List.append_inj hsplit hsame
      exact ⟨a,hm.takes_iff.mp hfields,by omega⟩
    · exact absurd (BinaryReader.advance_inj.mp hadvance) hlen
  · rintro ⟨a,hreads,hlen⟩
    refine ⟨a,fun r rest hopen hrest => ?_,by omega⟩
    rw [readPadded_run hopen hrest (hm.takes_iff.mpr hreads),if_pos (by omega)]

end Padded

theorem readDetails_refines : Refines (readDetails profile (typeId.numericMember stale))
      (Wire.details profile stale typeId) := by
  apply Refines.ite
  · intro _
    exact (readUpdateDataDetails_refines profile).map _
  intro _
  apply Refines.ite
  · intro _
    exact readDeleteRawModifiedDetails_refines.map _
  · intro _
    exact Refines.throw _

theorem Wire.Local.details : Wire.Local (Wire.details profile stale typeId) := by
  apply Wire.Local.ite
  · intro _
    exact (Wire.Local.updateDataDetails profile).map _
  intro _
  apply Wire.Local.ite
  · intro _
    exact Wire.Local.deleteRawModifiedDetails.map _
  · intro _
    exact Wire.Local.refuse _

theorem historyUpdateItem_confined_iff (hopen : r.Open) :
    Confined readDetailsHeader (decodeHistoryUpdateItem profile stale) r ↔
      BodyFits Wire.detailsHeader (Wire.details profile stale) (· ≤ ·) r := by
  have hrefines := readDetails_refines profile stale
  have hlocal := Wire.Local.details profile stale
  have hbody : ∀ h : NodeId × Nat,
      Local (readPadded h.2 (readDetails profile (h.1.numericMember stale))) :=
    fun h => ((hrefines h.1).toLocal (hlocal h.1)).readPadded h.2
  exact confined_iff_bodyFits readDetailsHeader_refines Wire.Local.detailsHeader hbody
    (fun typeId length content =>
      readPadded_wrong_iff (hrefines typeId) (hlocal typeId) length content) hopen

/-! ## Filters of monitored items -/

section Filters

variable {m : ReadM α} {r r' : BinaryReader} {length : Nat} {a : α}

theorem readExactly_run (h : m r = .ok a r') : readExactly length m r =
      if r'.position ≠ r.position + length then .error Status.badDecodingError r'
      else .ok a r' := by
  rw [readExactly,get_bind,bind_ok h,get_bind]
  split <;> rfl

theorem readExactly_exact_of (hm : ∀ r r' a, r.Open → m r = .ok a r' →
      ∃ bs rest, r.rest = bs ++ rest ∧ r' = r.advance bs.length ∧
        (bs.length = length → Takes m bs a)) : Exact length (readExactly length m) := by
  apply Exact.of_run
  intro r r'' a hopen h
  obtain ⟨b,r',hfirst,-⟩ := ok_of_bind
    (show (m >>= fun a => get >>= fun s => _) r = .ok a r'' from h)
  obtain ⟨bs,rest,hrest,rfl,htakes⟩ := hm r r' b hopen hfirst
  rw [readExactly_run hfirst] at h
  split at h
  · cases h
  rename_i hposition
  cases h
  have hlen : bs.length = length := by
    simp only [BinaryReader.advance_position] at hposition
    omega
  refine ⟨bs,rest,hrest,hlen,by rw [hlen],fun s rest' hopen' hrest' => ?_⟩
  rw [readExactly_run (htakes hlen s rest' hopen' hrest'),if_neg (by simp [hlen])]

theorem readExactly_exact (hm : Local m) (length : Nat) : Exact length (readExactly length m) := by
  apply readExactly_exact_of
  intro r r' a hopen h
  obtain ⟨bs,rest,hrest,hadvance,htakes⟩ := hm r r' a hopen h
  exact ⟨bs,rest,hrest,hadvance,fun _ => htakes⟩

theorem readExactly_ensure_exact (hm : Local m) (hpos : 0 < length) :
    Exact length (readExactly length (ensureFilterBytes length >>= fun _ => m)) := by
  apply readExactly_exact_of
  intro r r'' a hopen h
  have hguard := guards_ensureFilterBytes hpos
  obtain ⟨bs,rest,hrest,hadvance,htakes⟩ := hm r r'' a hopen (hguard.run_of_bind hopen h)
  exact ⟨bs,rest,hrest,hadvance,fun hlen => hguard.takes_bind hlen.ge htakes⟩

end Filters

theorem readDatachangeFilterBody_exact (double : DoubleOps) (length : Nat) (filter : FilterBody) :
    Exact length (readExactly length (readDatachangeFilterBody double length filter)) := by
  unfold readDatachangeFilterBody
  by_cases hzero : length = 0
  · simp only [if_pos hzero]
    exact readExactly_exact (Local.pure _) length
  by_cases hsize : length ≠ 16
  · simp only [if_neg hzero,if_pos hsize]
    exact readExactly_exact (Local.throw _) length
  simp only [if_neg hzero,if_neg hsize]
  apply readExactly_ensure_exact _ (Nat.pos_of_ne_zero hzero)
  exact (binaryReadUint32_refines.toLocal .uint32).bind fun _ =>
    (binaryReadUint32_refines.toLocal .uint32).bind fun _ =>
      (binaryReadUint64_refines.toLocal .uint64).bind fun _ => Local.pure _

theorem readAggregateFilterBody_exact (cfg : EngineConfig ω κ) (length : Nat)
    (filter : FilterBody) :
    Exact length (readExactly length (readAggregateFilterBody cfg length filter)) := by
  unfold readAggregateFilterBody
  by_cases hzero : length = 0
  · simp only [if_pos hzero]
    exact readExactly_exact (Local.pure _) length
  simp only [if_neg hzero]
  apply readExactly_ensure_exact _ (Nat.pos_of_ne_zero hzero)
  have hbyte := binaryReadByte_refines.toLocal .byte
  have hboolean := binaryReadBoolean_refines.toLocal .boolean
  refine (binaryReadInt64_refines.toLocal .int64).bind fun _ =>
    (binaryReadNodeid_refines.toLocal .nodeid).bind fun aggregateType =>
      (binaryReadUint64_refines.toLocal .uint64).bind fun _ => hboolean.bind fun _ =>
        hboolean.bind fun _ => hbyte.bind fun _ => hbyte.bind fun _ => hboolean.bind fun _ => ?_
  split
  · split
    · exact Local.pure _
    · split <;> exact Local.pure _
  · exact Local.pure _

theorem readSimpleAttributeOperand_local : Local readSimpleAttributeOperand :=
  readSimpleAttributeOperand_refines.toLocal .simpleAttributeOperand

theorem readFilterOperand_local : Local (readFilterOperand profile) := by
  exact (binaryReadExtensionObjectHeader_refines.toLocal .extensionObjectHeader).bind
    fun h => (whereOperandBody_follows profile h.1 h.2).isLocal

theorem readCounted_local {m : ReadM α} {f : List α → ReadM β} (hm : Local m)
    (hf : ∀ items, Local (f items)) :
    Local (do
      let count := (← binaryReadInt32).toInt
      if count < 0 then throw Status.badDecodingError
      let items ← readMany m count.toNat
      f items.val) := by
  refine (binaryReadInt32_refines.toLocal .int32).bind fun count => ?_
  by_cases hcount : count.toInt < 0
  · simp only [if_pos hcount]
    exact Local.throw _
  · simp only [if_neg hcount]
    exact (hm.many _).bind fun items => hf items.val

theorem readContentFilter_local : Local (readContentFilter profile) := by
  have helement : Local (readContentFilterElement profile) :=
    (binaryReadUint32_refines.toLocal .uint32).bind fun operator =>
      readCounted_local (readFilterOperand_local profile) fun operands =>
        Local.pure (ContentFilterElement.mk operator operands)
  exact readCounted_local helement fun elements => Local.readerStatus_bind (Local.pure elements)

theorem readEventFilterBody_local (caps : FilterCapacities) (profile : CodecProfile) :
    Local (readEventFilterBody caps profile) := by
  refine (binaryReadInt32_refines.toLocal .int32).bind fun count => ?_
  by_cases hneg : count.toInt < 0
  · simp only [if_pos hneg]
    exact Local.throw _
  by_cases hmany : 100 < count.toInt
  · simp only [if_neg hneg,if_pos hmany]
    exact Local.throw _
  simp only [if_neg hneg,if_neg hmany]
  rw [readSelectClauses_eq,decodeWhereClause_eq]
  exact ((readSimpleAttributeOperand_local.many _).map _).bind fun _ =>
    ((readContentFilter_local profile).map _).bind fun _ => Local.pure _

theorem createFilter_confined (cfg : EngineConfig ω κ) (filter : FilterBody) (hopen : r.Open) :
    Confined binaryReadExtensionObjectHeader (readCreateFilter cfg filter) r := by
  apply confined_of_exact
    (binaryReadExtensionObjectHeader_refines.toLocal .extensionObjectHeader) _ hopen
  rintro ⟨filterType,filterLength⟩
  apply Exact.guard _ (guards_ensureReaderBytesRemaining filterLength)
  apply Exact.ite
  · intro _
    exact readDatachangeFilterBody_exact _ _ _
  intro _
  apply Exact.ite
  · intro _
    exact readAggregateFilterBody_exact _ _ _
  intro _
  apply Exact.ite
  · intro _
    exact (readExactly_exact (readEventFilterBody_local _ _) filterLength).map _
  intro _
  apply Exact.ite
  · intro hnull
    obtain ⟨-,rfl⟩ : filterType = numericNodeId 0 ∧ filterLength = 0 := by
      simpa [isNullExtensionObjectType] using hnull
    exact Exact.pure filter
  · intro _
    exact (Exact.skipExtensionObjectBody filterLength).map _

theorem modifyFilter_confined (cfg : EngineConfig ω κ) (filter : FilterBody) (hopen : r.Open) :
    Confined binaryReadExtensionObjectHeader (readModifyItemFilter cfg filter) r := by
  apply confined_of_exact
    (binaryReadExtensionObjectHeader_refines.toLocal .extensionObjectHeader) _ hopen
  rintro ⟨filterType,filterLength⟩
  apply Exact.guard _ (guards_ensureReaderBytesRemaining filterLength)
  apply Exact.ite
  · intro _
    exact (readDatachangeFilterBody_exact _ filterLength _).map _
  intro _
  apply Exact.ite
  · intro _
    exact (readAggregateFilterBody_exact cfg filterLength filter).map _
  · intro _
    exact (Exact.skipExtensionObjectBody filterLength).map _

/-! ## Every object -/

/-- The ExtensionObjects that a service decodes where they lie in the request. -/
inductive DecodedObject where
  | historyUpdateDetails
  | queryOperand
  | whereOperand
  | createFilter
  | modifyFilter
  deriving DecidableEq, Repr

namespace DecodedObject

/-- The decoder of the object either fails at `r` or stays within the header and the body. -/
def IsConfined (cfg : EngineConfig ω κ) (stale : List UInt8) (r : BinaryReader) :
    DecodedObject → Prop
  | historyUpdateDetails =>
    Confined readDetailsHeader (decodeHistoryUpdateItem cfg.profile stale) r
  | queryOperand =>
    Confined binaryReadExtensionObjectHeader (Query.filterOperandDecode cfg.profile stale) r
  | whereOperand => ∀ clause reject, Confined binaryReadExtensionObjectHeader
      (decodeWhereOperand cfg.filterCaps cfg.profile clause reject) r
  | createFilter =>
    ∀ filter, Confined binaryReadExtensionObjectHeader (readCreateFilter cfg filter) r
  | modifyFilter =>
    ∀ filter, Confined binaryReadExtensionObjectHeader (readModifyItemFilter cfg filter) r

/-- The fields of the object end where its body does. Details of HistoryUpdate may end earlier, and
nothing is asked of a filter. -/
def FieldsFit (profile : CodecProfile) (stale : List UInt8) (r : BinaryReader) :
    DecodedObject → Prop
  | historyUpdateDetails => BodyFits Wire.detailsHeader (Wire.details profile stale) (· ≤ ·) r
  | queryOperand =>
    BodyFits Wire.extensionObjectHeader (Wire.queryOperand profile stale) (· = ·) r
  | whereOperand => BodyFits Wire.extensionObjectHeader (Wire.whereOperand profile) (· = ·) r
  | createFilter | modifyFilter => True

/-- At every place of every request. -/
theorem isConfined_iff (object : DecodedObject) (cfg : EngineConfig ω κ) (stale : List UInt8)
    (request : List UInt8) (position : Nat) :
    object.IsConfined cfg stale ((BinaryReader.init request).advance position) ↔
      object.FieldsFit cfg.profile stale ((BinaryReader.init request).advance position) := by
  have hopen : ((BinaryReader.init request).advance position).Open :=
    (BinaryReader.open_init request).advance position
  cases object with
  | historyUpdateDetails => exact historyUpdateItem_confined_iff cfg.profile stale hopen
  | queryOperand => exact queryOperand_confined_iff cfg.profile stale hopen
  | whereOperand =>
    have hoperand := fun clause reject =>
      whereOperand_confined_iff cfg.filterCaps cfg.profile clause reject hopen
    constructor
    · intro h
      exact (hoperand WhereClause.empty false).mp (h _ _)
    · intro h clause reject
      exact (hoperand clause reject).mpr h
  | createFilter =>
    simp only [FieldsFit,iff_true]
    intro filter
    exact createFilter_confined cfg filter hopen
  | modifyFilter =>
    simp only [FieldsFit,iff_true]
    intro filter
    exact modifyFilter_confined cfg filter hopen

end DecodedObject

namespace Sample

def emptyElementOperand (index : UInt8) : List UInt8 :=
  [0x01, 0x00, 0x52, 0x02, 0x01, 0, 0, 0, 0] ++ [index, 0, 0, 0]

def emptyDeleteDetails (node : UInt8) : List UInt8 :=
  [0x01, 0x00, 0xB0, 0x02, 0x01, 0, 0, 0, 0] ++
    [0x00, node, 0, 0, 0, 0, 0, 0, 0, 0, 0, 0, 0, 0, 0, 0, 0, 0, 0]

end Sample

open Sample in
/-- The element index of an operand without a body is taken from the bytes behind it, and so are the
fields of HistoryUpdate details without a body. -/
theorem bodies_read_outside : (∃ operand operand' clause clause' r r',
      decodeWhereOperand .default ⟨8, fun _ _ => true⟩ WhereClause.empty false
        (BinaryReader.init (emptyElementOperand 1)) = .ok (operand, clause, false) r ∧
      decodeWhereOperand .default ⟨8, fun _ _ => true⟩ WhereClause.empty false
        (BinaryReader.init (emptyElementOperand 2)) = .ok (operand', clause', false) r' ∧
      operand.elementIndex = 1 ∧ operand'.elementIndex = 2) ∧
    ¬ Confined binaryReadExtensionObjectHeader
      (decodeWhereOperand .default ⟨8, fun _ _ => true⟩ WhereClause.empty false)
      (BinaryReader.init (emptyElementOperand 1)) ∧
    ¬ Confined binaryReadExtensionObjectHeader (Query.filterOperandDecode ⟨8, fun _ _ => true⟩ [])
      (BinaryReader.init (emptyElementOperand 1)) ∧
    ¬ Confined readDetailsHeader (decodeHistoryUpdateItem ⟨8, fun _ _ => true⟩ [])
      (BinaryReader.init (emptyDeleteDetails 5)) := by
  refine ⟨⟨_,_,_,_,_,_,rfl,rfl,rfl,rfl⟩,?_,?_,?_⟩
  · exact not_confined_of_run (n := 9) (k := 13) (BinaryReader.open_init _) rfl rfl (by decide)
  · exact not_confined_of_run (n := 9) (k := 13) (BinaryReader.open_init _) rfl rfl (by decide)
  · exact not_confined_of_run (n := 9) (k := 28) (BinaryReader.open_init _) rfl rfl (by decide)

end MucOpcua
