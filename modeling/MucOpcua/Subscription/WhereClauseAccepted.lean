import MucOpcua.Subscription.WhereClauseStored

/-!
# When a where clause is accepted as it was sent

`Tracks` follows the decoder through the operands of a clause and `Placed` through its elements:
what is in the blob, which operands are kept and why the clause was rejected.
-/

namespace MucOpcua

variable {caps : FilterCapacities}
variable {storeEl : Bool}

/-! ## All operands -/

/-- What the decoder holds after the elements `els` and the operands `os`, where `total` elements are
announced. -/
structure Tracks (caps : FilterCapacities) (total : Nat) (els : List WhereElement)
    (d : WhereDecoder) (os : List FilterOperand) : Prop where
  elements : d.reject = false → d.clause.elements = els
  opIndex : d.opIndex = os.length
  overflow : d.overflow = true ↔ caps.maxWhereElements < total ∨ caps.maxWhereOperands < os.length
  blobFits : d.reject = false → d.clause.BlobFits caps
  blob : d.reject = false → d.clause.blob = os.flatMap FilterOperand.payload
  places : d.reject = false → ∀ out ∈ d.clause.operands, d.clause.Places out
  contents : d.reject = false → d.overflow = false → (∀ o ∈ os, o.content.isSome = true) →
    d.clause.operands.map d.clause.operandContent = os.map FilterOperand.content
  rejected : d.reject = true → d.filterResult ≠ Status.good ∨ (∃ o ∈ os, o.content = none) ∨
    caps.whereBlobBytes < (os.flatMap FilterOperand.payload).length

section Store

variable (d : WhereDecoder) (storeEl : Bool) (operand : WhereOperand)

@[simp] theorem WhereDecoder.storeOperand_opIndex :
    (d.storeOperand caps storeEl operand).opIndex = d.opIndex + 1 := by
  unfold WhereDecoder.storeOperand
  split <;> rfl

@[simp] theorem WhereDecoder.storeOperand_reject :
    (d.storeOperand caps storeEl operand).reject = d.reject := by
  unfold WhereDecoder.storeOperand
  split <;> rfl

@[simp] theorem WhereDecoder.storeOperand_filterResult :
    (d.storeOperand caps storeEl operand).filterResult = d.filterResult := by
  unfold WhereDecoder.storeOperand
  split <;> rfl

theorem WhereDecoder.storeOperand_overflow : (d.storeOperand caps storeEl operand).overflow = true ↔
      d.overflow = true ∨ storeEl = false ∨ caps.maxWhereOperands ≤ d.opIndex := by
  unfold WhereDecoder.storeOperand
  split
  next h =>
    simp [h.1]
    omega
  next h =>
    cases storeEl <;> simp_all

theorem WhereDecoder.storeOperand_clause :
    (d.storeOperand caps storeEl operand).clause = { d.clause with
      operands := d.clause.operands ++
        if storeEl ∧ d.opIndex < caps.maxWhereOperands then [operand] else [] } := by
  unfold WhereDecoder.storeOperand
  split
  · rfl
  · simp

end Store

theorem WhereDecoder.compactOperand_eq (d : WhereDecoder) (storeEl : Bool) (operand : FilterOperand) :
    d.compactOperand caps storeEl operand = ({ d with
        clause := (MucOpcua.compactOperand caps d.clause d.reject operand).2.1
        reject := (MucOpcua.compactOperand caps d.clause d.reject operand).2.2 } :
          WhereDecoder).storeOperand caps storeEl
            (MucOpcua.compactOperand caps d.clause d.reject operand).1 := rfl

theorem WhereDecoder.compactOperand_overflow (d : WhereDecoder) (storeEl : Bool)
    (operand : FilterOperand) : (d.compactOperand caps storeEl operand).overflow = true ↔
      d.overflow = true ∨ storeEl = false ∨ caps.maxWhereOperands ≤ d.opIndex :=
  WhereDecoder.storeOperand_overflow _ storeEl _

variable {total : Nat} {els : List WhereElement} {d : WhereDecoder} {os : List FilterOperand}

theorem WhereDecoder.compactOperand_space {operand : FilterOperand}
    (hroom : (d.compactOperand caps storeEl operand).overflow = false) :
    d.overflow = false ∧ storeEl = true ∧ d.opIndex < caps.maxWhereOperands := by
  have hspace : ¬ (d.overflow = true ∨ storeEl = false ∨ caps.maxWhereOperands ≤ d.opIndex) := by
    rw [← d.compactOperand_overflow storeEl operand,hroom]
    exact Bool.false_ne_true
  simpa only [not_or,Bool.not_eq_true,Bool.not_eq_false,Nat.not_le] using hspace

section

variable (h : Tracks caps total els d os)
include h

theorem Tracks.overflow_operand (hlost : storeEl = false → d.overflow = true)
    (hstored : storeEl = true → total ≤ caps.maxWhereElements) (operand : FilterOperand) :
    (d.compactOperand caps storeEl operand).overflow = true ↔
      caps.maxWhereElements < total ∨ caps.maxWhereOperands < (os ++ [operand]).length := by
  rw [WhereDecoder.compactOperand_overflow,h.opIndex,List.length_append,List.length_singleton]
  cases storeEl with
  | false =>
    have hover := h.overflow.mp (hlost rfl)
    constructor
    · intro _
      omega
    · intro _
      exact .inr (.inl rfl)
  | true =>
    rw [h.overflow]
    simp only [Bool.true_eq_false,false_or]
    omega

theorem Tracks.kept {operand : FilterOperand}
    (hok : (d.compactOperand caps storeEl operand).reject = false) :
    d.reject = false ∧ Kept caps d.clause operand (compactOperand caps d.clause d.reject operand).1
      (compactOperand caps d.clause d.reject operand).2.1 := by
  rw [WhereDecoder.compactOperand_eq,WhereDecoder.storeOperand_reject] at hok
  have hreject : d.reject = false := by
    by_contra hr
    rw [Bool.not_eq_false] at hr
    rw [hr,compactOperand_reject] at hok
    cases hok
  rcases compactOperand_stored (h.blobFits hreject) d.reject operand with ⟨-,hk⟩ | ⟨ht,-⟩
  · exact ⟨hreject,hk⟩
  · rw [ht] at hok
    cases hok

theorem Tracks.clause_operand
    {operand : FilterOperand} (hok : (d.compactOperand caps storeEl operand).reject = false) :
    (d.compactOperand caps storeEl operand).clause = { d.clause.extend operand.payload with
        operands := d.clause.operands ++ if storeEl ∧ d.opIndex < caps.maxWhereOperands
          then [(compactOperand caps d.clause d.reject operand).1] else [] } := by
  rw [WhereDecoder.compactOperand_eq,WhereDecoder.storeOperand_clause]
  simp only [(h.kept hok).2.clause_eq,WhereClause.extend]

theorem Tracks.rejected_operand
    {operand : FilterOperand} (hrejected : (d.compactOperand caps storeEl operand).reject = true) :
    d.filterResult ≠ Status.good ∨ (∃ o ∈ os ++ [operand], o.content = none) ∨
      caps.whereBlobBytes < ((os ++ [operand]).flatMap FilterOperand.payload).length := by
  have hlen : ((os ++ [operand]).flatMap FilterOperand.payload).length =
      (os.flatMap FilterOperand.payload).length + operand.payload.length := by simp
  cases hreject : d.reject with
  | true =>
    rcases h.rejected hreject with hfilter | ⟨o,ho,hnone⟩ | hfull
    · exact .inl hfilter
    · exact .inr (.inl ⟨o,List.mem_append_left _ ho,hnone⟩)
    · exact .inr (.inr (by omega))
  | false =>
    rw [WhereDecoder.compactOperand_eq,WhereDecoder.storeOperand_reject] at hrejected
    rcases compactOperand_stored (h.blobFits hreject) d.reject operand with
      ⟨hsame,-⟩ | ⟨-,hnone | hfull⟩
    · rw [hsame,hreject] at hrejected
      cases hrejected
    · exact .inr (.inl ⟨operand,by simp,hnone⟩)
    · rw [h.blob hreject] at hfull
      exact .inr (.inr (by omega))

theorem Tracks.contents_operand
    {operand : FilterOperand} (hok : (d.compactOperand caps storeEl operand).reject = false)
    (hroom : (d.compactOperand caps storeEl operand).overflow = false)
    (hcontents : ∀ o ∈ os ++ [operand], o.content.isSome = true) :
    (d.compactOperand caps storeEl operand).clause.operands.map
        (d.compactOperand caps storeEl operand).clause.operandContent =
      (os ++ [operand]).map FilterOperand.content := by
  obtain ⟨hreject,hk⟩ := h.kept hok
  have hspace := WhereDecoder.compactOperand_space hroom
  obtain ⟨c,hc⟩ := Option.isSome_iff_exists.mp (hcontents operand (by simp))
  rw [h.clause_operand hok,if_pos hspace.2]
  change (d.clause.operands ++ _).map (d.clause.extend operand.payload).operandContent = _
  rw [List.map_append,List.map_append,List.map_singleton,List.map_singleton,hc,
    ← hk.clause_eq,hk.content c hc,hk.clause_eq,
    ← h.contents hreject hspace.1 fun o ho => hcontents o (List.mem_append_left _ ho)]
  refine congrArg (· ++ _) (List.map_congr_left fun out hout => ?_)
  exact WhereClause.operandContent_extend (h.blobFits hreject) hk.fits (h.places hreject out hout)

theorem Tracks.operand (hlost : storeEl = false → d.overflow = true)
    (hstored : storeEl = true → total ≤ caps.maxWhereElements) (operand : FilterOperand) :
    Tracks caps total els (d.compactOperand caps storeEl operand) (os ++ [operand]) where
  elements hok := by
    rw [h.clause_operand hok]
    exact h.elements (h.kept hok).1
  opIndex := by
    rw [WhereDecoder.compactOperand_eq,WhereDecoder.storeOperand_opIndex,List.length_append]
    exact congrArg (· + 1) h.opIndex
  overflow := h.overflow_operand hlost hstored operand
  blobFits hok := by
    obtain ⟨hreject,hk⟩ := h.kept hok
    have hfits := (h.blobFits hreject).extend hk.fits
    rw [h.clause_operand hok]
    exact ⟨hfits.len,hfits.le⟩
  blob hok := by
    rw [h.clause_operand hok,List.flatMap_append,List.flatMap_singleton,← h.blob (h.kept hok).1]
    rfl
  places hok out hout := by
    obtain ⟨hreject,hk⟩ := h.kept hok
    rw [h.clause_operand hok] at hout ⊢
    rcases List.mem_append.mp hout with hold | hnew
    · exact (h.places hreject out hold).extend operand.payload
    have hplaces : (d.clause.extend operand.payload).Places
        (compactOperand caps d.clause d.reject operand).1 := hk.clause_eq ▸ hk.places
    by_cases hroom : storeEl = true ∧ d.opIndex < caps.maxWhereOperands
    · rw [if_pos hroom] at hnew
      rw [List.mem_singleton.mp hnew]
      exact hplaces
    · rw [if_neg hroom] at hnew
      cases hnew
  contents := h.contents_operand
  rejected hrejected := by
    rw [WhereDecoder.compactOperand_eq,WhereDecoder.storeOperand_filterResult]
    exact h.rejected_operand hrejected

end

theorem Tracks.operands (h : Tracks caps total els d os)
    (hlost : storeEl = false → d.overflow = true)
    (hstored : storeEl = true → total ≤ caps.maxWhereElements) (operands : List FilterOperand) :
    Tracks caps total els (operands.foldl (WhereDecoder.compactOperand caps storeEl) d)
      (os ++ operands) := by
  induction operands generalizing d os with
  | nil => simpa using h
  | cons operand operands ih =>
    have hnext := h.operand hlost hstored operand
    rw [List.append_cons]
    refine ih hnext fun hfalse => ?_
    exact (WhereDecoder.compactOperand_overflow d storeEl operand).mpr (.inl (hlost hfalse))

/-! ## All elements -/

/-- The stored elements of a clause whose first operand goes to place `base`. -/
def placedElements : Nat → List ContentFilterElement → List WhereElement
  | _, [] => []
  | base, e :: es =>
    ⟨e.operator.toUInt8, UInt8.ofNat base, UInt8.ofNat e.operands.length⟩ ::
      placedElements (base + e.operands.length) es

theorem placedElements_concat (base : Nat) (es : List ContentFilterElement)
    (e : ContentFilterElement) :
    placedElements base (es ++ [e]) = placedElements base es ++
      [⟨e.operator.toUInt8, UInt8.ofNat (base + (es.flatMap (·.operands)).length),
        UInt8.ofNat e.operands.length⟩] := by
  induction es generalizing base with
  | nil => simp [placedElements]
  | cons first es ih =>
    simp only [List.cons_append,placedElements,ih,List.flatMap_cons,List.length_append,
      Nat.add_assoc]

theorem placedElements_length (base : Nat) (es : List ContentFilterElement) :
    (placedElements base es).length = es.length := by
  induction es generalizing base with
  | nil => rfl
  | cons e es ih => simp [placedElements,ih]

/-- What the decoder holds after the elements `es`. -/
structure Placed (caps : FilterCapacities) (total : Nat) (d : WhereDecoder)
    (es : List ContentFilterElement) : Prop where
  tracks : ∃ els, Tracks caps total els d (es.flatMap (·.operands)) ∧
    (d.overflow = false → els = placedElements 0 es)
  operators : d.filterResult = Status.good ↔ ∀ e ∈ es, whereOperatorSupported e.operator = true

theorem Tracks.checkOperator (h : Tracks caps total els d os) (op : UInt32) :
    Tracks caps total els (d.checkOperator op) os := by
  unfold WhereDecoder.checkOperator
  split
  · exact h
  refine ⟨nofun,h.opIndex,h.overflow,nofun,nofun,nofun,nofun,fun _ => .inl ?_⟩
  dsimp only
  split
  · decide
  · assumption

theorem WhereDecoder.checkOperator_filterResult (d : WhereDecoder) (op : UInt32) :
    (d.checkOperator op).filterResult = Status.good ↔
      d.filterResult = Status.good ∧ whereOperatorSupported op = true := by
  unfold WhereDecoder.checkOperator
  split
  next hsupported => simp [hsupported]
  next hsupported =>
    simp only [hsupported]
    split
    next hgood => simp [hgood]; decide
    next hbad => simp [hbad]

theorem WhereDecoder.checkOperator_overflow (d : WhereDecoder) (op : UInt32) :
    (d.checkOperator op).overflow = d.overflow := by
  unfold WhereDecoder.checkOperator
  split <;> rfl

theorem WhereDecoder.storeElement_of_true (d : WhereDecoder) (op : UInt32) (argCount : Nat) :
    (d.storeElement true op argCount).clause.elements = d.clause.elements ++
      [⟨op.toUInt8, UInt8.ofNat d.opIndex, UInt8.ofNat argCount⟩] := rfl

theorem WhereDecoder.storeElement_of_false (d : WhereDecoder) (op : UInt32) (argCount : Nat) :
    d.storeElement false op argCount = d := rfl

theorem WhereDecoder.storeElement_filterResult (d : WhereDecoder) (storeEl : Bool) (op : UInt32)
    (argCount : Nat) : (d.storeElement storeEl op argCount).filterResult = d.filterResult := by
  unfold WhereDecoder.storeElement
  split <;> rfl

theorem Tracks.storeElement (h : Tracks caps total els d os) (op : UInt32) (argCount : Nat) :
    Tracks caps total (els ++ [⟨op.toUInt8, UInt8.ofNat os.length, UInt8.ofNat argCount⟩])
      (d.storeElement true op argCount) os where
  elements hok := by
    rw [WhereDecoder.storeElement_of_true,h.opIndex]
    exact congrArg (· ++ _) (h.elements hok)
  opIndex := h.opIndex
  overflow := h.overflow
  blobFits hok := ⟨(h.blobFits hok).len,(h.blobFits hok).le⟩
  blob := h.blob
  places := h.places
  contents := h.contents
  rejected := h.rejected

theorem foldl_compactOperand_filterResult (storeEl : Bool) (operands : List FilterOperand)
    (d : WhereDecoder) :
    (operands.foldl (WhereDecoder.compactOperand caps storeEl) d).filterResult =
      d.filterResult := by
  induction operands generalizing d with
  | nil => rfl
  | cons operand operands ih =>
    rw [List.foldl_cons,ih,WhereDecoder.compactOperand_eq,WhereDecoder.storeOperand_filterResult]

theorem foldl_compactOperand_overflow (storeEl : Bool) (operands : List FilterOperand)
    (hover : d.overflow = true) :
    (operands.foldl (WhereDecoder.compactOperand caps storeEl) d).overflow = true := by
  induction operands generalizing d with
  | nil => exact hover
  | cons operand operands ih =>
    exact ih ((WhereDecoder.compactOperand_overflow d storeEl operand).mpr (.inl hover))

theorem Placed.element {es : List ContentFilterElement} (h : Placed caps total d es)
    (hindex : es.length < total) (e : ContentFilterElement) :
    Placed caps total (d.compactElement caps es.length e) (es ++ [e]) := by
  obtain ⟨⟨els,htracks,hels⟩,hops⟩ := h
  have hchecked := htracks.checkOperator e.operator
  have hover := WhereDecoder.checkOperator_overflow d e.operator
  have hflat : (es ++ [e]).flatMap (·.operands) = es.flatMap (·.operands) ++ e.operands := by simp
  constructor
  · rw [hflat]
    unfold WhereDecoder.compactElement
    cases hwas : d.overflow with
    | true =>
      rw [hwas] at hover
      have hlost : (!(d.checkOperator e.operator).overflow &&
          decide (es.length < caps.maxWhereElements)) = false := by rw [hover]; rfl
      simp only [hlost,WhereDecoder.storeElement_of_false]
      refine ⟨els,hchecked.operands (fun _ => hover) (fun h => nomatch (h : false = true))
        e.operands,fun hfalse => ?_⟩
      rw [foldl_compactOperand_overflow false e.operands hover] at hfalse
      cases hfalse
    | false =>
      rw [hwas] at hover
      have hwithin : total ≤ caps.maxWhereElements := by
        have := htracks.overflow
        rw [hwas] at this
        simp only [Bool.false_eq_true,false_iff] at this
        omega
      have hstored : (!(d.checkOperator e.operator).overflow &&
          decide (es.length < caps.maxWhereElements)) = true := by
        rw [hover,decide_eq_true (by omega)]
        rfl
      simp only [hstored]
      refine ⟨_,(hchecked.storeElement e.operator e.operands.length).operands
        (fun h => nomatch (h : true = false)) (fun _ => hwithin) e.operands,fun _ => ?_⟩
      rw [placedElements_concat,hels hwas,Nat.zero_add]
  · unfold WhereDecoder.compactElement
    simp only [foldl_compactOperand_filterResult]
    rw [WhereDecoder.storeElement_filterResult,WhereDecoder.checkOperator_filterResult,hops]
    simp [or_imp,forall_and]

theorem Placed.elements {done : List ContentFilterElement} (h : Placed caps total d done)
    (es : List ContentFilterElement) (htotal : total = done.length + es.length) :
    Placed caps total (d.compactElements caps done.length es) (done ++ es) := by
  induction es generalizing d done with
  | nil => simpa [WhereDecoder.compactElements] using h
  | cons e es ih =>
    rw [List.length_cons] at htotal
    have hnext := h.element (by omega) e
    have := ih hnext (by rw [List.length_append,List.length_singleton]; omega)
    rw [List.length_append] at this
    rw [List.append_cons]
    exact this

theorem Placed.start (caps : FilterCapacities) (total : Nat) :
    Placed caps total (.start caps Status.good total) [] where
  tracks := ⟨[],⟨fun _ => rfl,rfl,by simp [WhereDecoder.start],fun _ => ⟨rfl,Nat.zero_le _⟩,
    fun _ => rfl,nofun,fun _ _ _ => rfl,nofun⟩,fun _ => rfl⟩
  operators := by simp [WhereDecoder.start]

/-! ## The whole clause -/

/-- The operators are those of the facet, and elements and operands are not too many. These are the
reasons for which the filter result is not Good. -/
def WithinFacet (caps : FilterCapacities) (es : List ContentFilterElement) : Prop :=
  (∀ e ∈ es, whereOperatorSupported e.operator = true) ∧ es.length ≤ caps.maxWhereElements ∧
    (es.flatMap (·.operands)).length ≤ caps.maxWhereOperands

def Storable (caps : FilterCapacities) (es : List ContentFilterElement) : Prop :=
  (∀ e ∈ es, ∀ operand ∈ e.operands, operand.content.isSome = true) ∧
    ((es.flatMap (·.operands)).flatMap FilterOperand.payload).length ≤ caps.whereBlobBytes

instance (caps : FilterCapacities) (es : List ContentFilterElement) :
    Decidable (WithinFacet caps es) := inferInstanceAs (Decidable (_ ∧ _))

instance (caps : FilterCapacities) (es : List ContentFilterElement) :
    Decidable (Storable caps es) := inferInstanceAs (Decidable (_ ∧ _))

theorem placedElements_map {β : Type} {f : WhereOperand → β} {g : FilterOperand → β} {cs : List β}
    {operands : List WhereOperand} (es : List ContentFilterElement) (base : Nat)
    (hcontents : operands.map f = cs ++ (es.flatMap (·.operands)).map g)
    (hbase : cs.length = base) (hbound : base + (es.flatMap (·.operands)).length < 2 ^ 8)
    (hops : ∀ e ∈ es, whereOperatorSupported e.operator = true) :
    (placedElements base es).map (fun e => (e.op.toNat,
      ((operands.drop e.operandBase.toNat).take e.operandCount.toNat).map f)) =
      es.map fun e => (e.operator.toNat, e.operands.map g) := by
  induction es generalizing base cs with
  | nil => rfl
  | cons e es ih =>
    rw [List.flatMap_cons,List.length_append] at hbound
    rw [List.flatMap_cons,List.map_append] at hcontents
    have hop : e.operator.toUInt8.toNat = e.operator.toNat := by
      have hsupported := hops e (by simp)
      simp only [whereOperatorSupported,decide_eq_true_eq,UInt32.ext_iff] at hsupported
      simp only [UInt32.toNat_toUInt8]
      rcases hsupported with hle | heq
      · have : e.operator.toNat ≤ 11 := hle
        omega
      · have : e.operator.toNat = 14 := heq
        omega
    have hhead : ((operands.drop base).take e.operands.length).map f = e.operands.map g := by
      rw [List.map_take,List.map_drop,hcontents,← hbase,List.drop_left]
      exact List.take_left' (by simp)
    have htail := ih (base + e.operands.length) (hcontents.trans (List.append_assoc ..).symm)
      (by simp [hbase]) (by omega) fun e he => hops e (List.mem_cons_of_mem _ he)
    rw [placedElements,List.map_cons,List.map_cons,htail,← hhead]
    simp only [hop,UInt8.toNat_ofNat']
    rw [Nat.mod_eq_of_lt (by omega),Nat.mod_eq_of_lt (by omega)]

variable {es : List ContentFilterElement}

theorem compactElements_placed (caps : FilterCapacities) (es : List ContentFilterElement) :
    Placed caps es.length
      (WhereDecoder.compactElements caps 0 (.start caps Status.good es.length) es) es :=
  (Placed.start caps es.length).elements es (by simp)

theorem Placed.withinFacet_iff (h : Placed caps es.length d es) :
    d.overflow = false ∧ d.filterResult = Status.good ↔ WithinFacet caps es := by
  obtain ⟨els,htracks,-⟩ := h.tracks
  have hover : d.overflow = false ↔ es.length ≤ caps.maxWhereElements ∧
      (es.flatMap (·.operands)).length ≤ caps.maxWhereOperands := by
    rw [← Bool.not_eq_true,htracks.overflow]
    omega
  rw [hover,h.operators]
  exact and_comm

theorem compactClause_good_iff :
    (compactClause caps Status.good es).2 = Status.good ↔ WithinFacet caps es := by
  rw [← (compactElements_placed caps es).withinFacet_iff,compactClause,WhereDecoder.finish]
  generalize WhereDecoder.compactElements caps 0 _ es = d
  cases hover : d.overflow with
  | false => simp only [Bool.false_eq_true,false_and,if_false,apply_ite Prod.snd,ite_self,
      true_and]
  | true =>
    by_cases hgood : d.filterResult = Status.good
    · simp [hgood]
      decide
    · simp [hgood]

theorem compactClause_of_withinFacet (hwithin : WithinFacet caps es) :
    (compactClause caps Status.good es).1 =
      if (WhereDecoder.compactElements caps 0 (.start caps Status.good es.length) es).reject
      then { (WhereDecoder.compactElements caps 0 (.start caps Status.good es.length) es).clause with
        elementCount := 0, operandCount := 0, blobLen := 0 }
      else { (WhereDecoder.compactElements caps 0 (.start caps Status.good es.length) es).clause with
        elementCount := UInt8.ofNat es.length
        operandCount := UInt8.ofNat (es.flatMap (·.operands)).length } := by
  have hplaced := compactElements_placed caps es
  obtain ⟨hover,hgood⟩ := hplaced.withinFacet_iff.mpr hwithin
  obtain ⟨els,htracks,-⟩ := hplaced.tracks
  simp only [compactClause,WhereDecoder.finish,hover,hgood,htracks.opIndex,Bool.false_eq_true,
    false_and,if_false,ne_eq,not_true_eq_false,or_false,apply_ite Prod.fst]

theorem Placed.storedElements (h : Placed caps es.length d es) (hwithin : WithinFacet caps es)
    (hreject : d.reject = false)
    (hcontents : ∀ e ∈ es, ∀ operand ∈ e.operands, operand.content.isSome = true)
    (operandCount : UInt8) :
    ({ d.clause with elementCount := UInt8.ofNat es.length, operandCount } :
      WhereClause).storedElements = es.map ContentFilterElement.contents := by
  obtain ⟨els,htracks,hels⟩ := h.tracks
  obtain ⟨hover,-⟩ := h.withinFacet_iff.mpr hwithin
  obtain ⟨hops,hcount,hoperands⟩ := hwithin
  have helements := caps.elements_lt
  have hbound := caps.operands_lt
  have hstored := htracks.contents hreject hover fun o ho => by
    obtain ⟨e,he,ho⟩ := List.mem_flatMap.mp ho
    exact hcontents e he o ho
  unfold WhereClause.storedElements
  rw [htracks.elements hreject,hels hover,UInt8.toNat_ofNat',Nat.mod_eq_of_lt (by omega),
    List.take_of_length_le (Nat.le_of_eq (placedElements_length 0 es))]
  exact placedElements_map es 0 (hstored.trans (List.nil_append _).symm) rfl (by omega) hops

/-- Within the facet, the clause is stored as sent exactly if every operand has a compact form and
the payloads fit. -/
theorem compactClause_storesExactly_iff (hes : es ≠ []) (hwithin : WithinFacet caps es) :
    ((compactClause caps Status.good es).1.StoresExactly es ∧
      (compactClause caps Status.good es).1.elementCount ≠ 0) ↔ Storable caps es := by
  have hplaced := compactElements_placed caps es
  obtain ⟨els,htracks,-⟩ := hplaced.tracks
  rw [compactClause_of_withinFacet hwithin]
  cases hreject : (WhereDecoder.compactElements caps 0
      (.start caps Status.good es.length) es).reject with
  | true =>
    simp only [if_true,ne_eq,not_true_eq_false,and_false,false_iff]
    rintro ⟨hcontents,hfits⟩
    rcases htracks.rejected hreject with hbad | ⟨o,ho,hnone⟩ | hfull
    · exact hbad (hplaced.withinFacet_iff.mpr hwithin).2
    · obtain ⟨e,he,ho⟩ := List.mem_flatMap.mp ho
      have hsome := hcontents e he o ho
      rw [hnone] at hsome
      cases hsome
    · omega
  | false =>
    simp only [Bool.false_eq_true,if_false]
    constructor
    · rintro ⟨⟨-,hcontents⟩,-⟩
      refine ⟨hcontents,?_⟩
      rw [← htracks.blob hreject]
      exact (htracks.blobFits hreject).le
    · rintro ⟨hcontents,-⟩
      refine ⟨⟨hplaced.storedElements hwithin hreject hcontents _,hcontents⟩,fun hzero => ?_⟩
      have helements := caps.elements_lt
      have hlen := congrArg UInt8.toNat hzero
      rw [UInt8.toNat_ofNat',Nat.mod_eq_of_lt (by have := hwithin.2.1; omega)] at hlen
      exact hes (List.eq_nil_of_length_eq_zero hlen)

/-- An EventFilter that decodes, and whose where clause has elements, is refused or stored with
exactly the elements sent, if and only if its operands are storable or the filter result is not Good
for its operators or its size. -/
theorem whereClause_accepted_as_sent {profile : CodecProfile} {r r' : BinaryReader}
    {body : EventFilterBody} (hbody : readEventFilterBody caps profile r = .ok body r') :
    ∃ es, readSentWhereClause profile r = .ok es r' ∧ (es ≠ [] → ((body.filterResult = Status.good →
          body.whereClause.StoresExactly es ∧ body.whereClause.elementCount ≠ 0) ↔
        Storable caps es ∨ ¬ WithinFacet caps es)) := by
  obtain ⟨es,hsent,hclause,hresult⟩ := readEventFilterBody_compact caps profile hbody
  refine ⟨es,hsent,fun hes => ?_⟩
  rw [hclause,hresult]
  by_cases hwithin : WithinFacet caps es
  · rw [or_iff_left (not_not_intro hwithin),← compactClause_storesExactly_iff hes hwithin,
      compactClause_good_iff,imp_iff_right hwithin]
  · exact iff_of_true (fun hgood => absurd (compactClause_good_iff.mp hgood) hwithin) (.inr hwithin)

/-- The element `Equals(Severity, literal)` behind no select clauses. -/
def severityEquals (literal : List UInt8) : List UInt8 :=
  [0, 0, 0, 0] ++ [1, 0, 0, 0] ++ [0, 0, 0, 0] ++ [2, 0, 0, 0] ++
    -- SimpleAttributeOperand: no type, the path "Severity", attribute 13, no range
    [0x01, 0x00, 0x5B, 0x02, 0x01, 28, 0, 0, 0] ++ [0x00, 0x00] ++ [1, 0, 0, 0] ++ [0, 0] ++
    [8, 0, 0, 0, 0x53, 0x65, 0x76, 0x65, 0x72, 0x69, 0x74, 0x79] ++ [13, 0, 0, 0] ++
    [0xFF, 0xFF, 0xFF, 0xFF] ++
    [0x01, 0x00, 0x55, 0x02, 0x01, UInt8.ofNat literal.length, 0, 0, 0] ++ literal

theorem whereClause_accepted_as_sent_uint16 :
    ∃ body r' es, readEventFilterBody .default ⟨8, fun _ _ => true⟩
        (BinaryReader.init (severityEquals [0x05, 0xF4, 0x01])) = .ok body r' ∧
      readSentWhereClause ⟨8, fun _ _ => true⟩
        (BinaryReader.init (severityEquals [0x05, 0xF4, 0x01])) = .ok es r' ∧
      body.filterResult = Status.good ∧ body.whereClause.StoresExactly es ∧
      body.whereClause.elementCount ≠ 0 := by
  refine ⟨_,_,_,rfl,rfl,rfl,?_⟩
  obtain ⟨es,hsent,hiff⟩ := whereClause_accepted_as_sent
    (show readEventFilterBody .default ⟨8,fun _ _ => true⟩
      (BinaryReader.init (severityEquals [0x05,0xF4,0x01])) = .ok _ _ from rfl)
  obtain ⟨rfl,-⟩ := EStateM.Result.ok.inj hsent
  refine (hiff (by simp)).mpr (.inl ?_) rfl
  decide +kernel

/-- An array literal empties the clause, and the filter is accepted: it now matches every event. -/
theorem arrayLiteral_matches_all :
    ∃ body r' es, readEventFilterBody .default ⟨8, fun _ _ => true⟩
        (BinaryReader.init (severityEquals [0x85, 0, 0, 0, 0])) = .ok body r' ∧
      readSentWhereClause ⟨8, fun _ _ => true⟩
        (BinaryReader.init (severityEquals [0x85, 0, 0, 0, 0])) = .ok es r' ∧
      es.length = 1 ∧ body.filterResult = Status.good ∧ body.whereClause.elementCount = 0 ∧
      ¬ body.whereClause.StoresExactly es := by
  refine ⟨_,_,_,rfl,rfl,rfl,rfl,rfl,?_⟩
  intro h
  have := congrArg List.length h.1
  exact absurd this (by decide)

end MucOpcua
