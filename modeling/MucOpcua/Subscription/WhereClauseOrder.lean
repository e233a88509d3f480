import MucOpcua.Subscription.WhereClauseAccepted
import MucOpcua.Subscription.WhereClauseEval

/-!
# The order of where clause elements

If every element names later elements only, the evaluation of a where clause never enters an element
twice on one path, comes to the result of the recursion without a depth limit, and evaluates no more
elements than the clause has when it is unfolded to a tree.
-/

namespace MucOpcua

variable {el : WhereElement} {index : Nat}

/-! ## What an element asks for -/

def WhereOperand.ref (op : WhereOperand) : Option UInt32 :=
  if op.kind = .element then some op.elementIndex else none

def WhereClause.children (clause : WhereClause) (el : WhereElement) : List UInt32 :=
  (clause.operandsOf el).filterMap WhereOperand.ref

section

variable (double : DoubleOps) (clause : WhereClause) (fields : EventFields)

theorem resolveOperand_asks (op : WhereOperand) :
    (resolveOperand clause fields op).AsksWithin ([op].filterMap WhereOperand.ref) := by
  unfold resolveOperand
  cases hkind : op.kind with
  | element =>
    have href : [op].filterMap WhereOperand.ref = [op.elementIndex] ++ [] := by
      simp [WhereOperand.ref,hkind]
    rw [href]
    exact (Interact.AsksWithin.question op.elementIndex).bind fun _ => .pure _ _
  | _ => exact .pure _ _

theorem operandTruthy_asks (op : WhereOperand) :
    (operandTruthy clause fields op).AsksWithin ([op].filterMap WhereOperand.ref) := by
  unfold operandTruthy
  by_cases hkind : op.kind = .element
  · have href : [op].filterMap WhereOperand.ref = [op.elementIndex] := by
      simp [WhereOperand.ref,hkind]
    rw [if_pos hkind,href]
    exact .question op.elementIndex
  rw [if_neg hkind,← List.append_nil ([op].filterMap WhereOperand.ref)]
  refine (resolveOperand_asks clause fields op).bind fun value => ?_
  cases value <;> exact .pure _ _

theorem comparePlan_asks (test : Option Ordering → Bool) (a b : WhereOperand) :
    (comparePlan double clause fields test a b).AsksWithin ([a, b].filterMap WhereOperand.ref) := by
  rw [show [a,b] = [a] ++ ([b] ++ []) from rfl,List.filterMap_append,List.filterMap_append]
  exact (resolveOperand_asks clause fields a).bind fun _ =>
    (resolveOperand_asks clause fields b).bind fun _ => .pure _ _

theorem inListPlan_asks (x : EvalValue) (ops : List WhereOperand) :
    (inListPlan double clause fields x ops).AsksWithin (ops.filterMap WhereOperand.ref) := by
  induction ops with
  | nil => exact .pure _ _
  | cons op ops ih =>
    rw [show op :: ops = [op] ++ ops from rfl,List.filterMap_append]
    refine (resolveOperand_asks clause fields op).bind fun y => ?_
    split
    · exact .pure _ _
    · exact ih

/-- A plan for the first `k` operands, if the element has so many. -/
theorem WhereClause.guarded_asks (k : Nat) {m : ElementPlan Bool}
    (hm : m.AsksWithin (((List.range k).map (clause.operand el)).filterMap WhereOperand.ref)) :
    (if k ≤ el.operandCount.toNat then m else pure false).AsksWithin (clause.children el) := by
  split
  next hn => exact hm.mono (((List.range_sublist.mpr hn).map _).filterMap _)
  next => exact .pure _ _

theorem WhereClause.operandsOf_eq_cons (h : 1 ≤ el.operandCount.toNat) :
    clause.operandsOf el = clause.operand el 0 :: (clause.operandsOf el).drop 1 := by
  obtain ⟨n,hn⟩ := Nat.exists_eq_add_of_le' h
  unfold WhereClause.operandsOf
  rw [hn,List.range_succ_eq_map]
  rfl

theorem elementPlan_asks (el : WhereElement) :
    (elementPlan double clause fields el).AsksWithin (clause.children el) := by
  -- an element looks at one, two, three or all of its operands
  have hone {α : Type} {m : ElementPlan α} {f : α → ElementPlan Bool} {a : WhereOperand}
      (hm : m.AsksWithin ([a].filterMap WhereOperand.ref)) (hf : ∀ value, (f value).AsksWithin []) :
      (m >>= f).AsksWithin ([a].filterMap WhereOperand.ref) := by
    have hbind := hm.bind hf
    rwa [List.append_nil] at hbind
  have htwo {α : Type} {m : ElementPlan α} {f : α → ElementPlan Bool} {a b : WhereOperand}
      (hm : m.AsksWithin ([a].filterMap WhereOperand.ref))
      (hf : ∀ value, (f value).AsksWithin ([b].filterMap WhereOperand.ref)) :
      (m >>= f).AsksWithin ([a,b].filterMap WhereOperand.ref) := by
    have hbind := hm.bind hf
    rwa [← List.filterMap_append] at hbind
  unfold elementPlan
  simp only
  split
  case h_5 | h_6 | h_7 | h_8 | h_9 =>
    exact clause.guarded_asks 2 (comparePlan_asks double clause fields _ _ _)
  · refine clause.guarded_asks 2 (htwo (operandTruthy_asks clause fields _) fun value => ?_)
    cases value
    · exact .pure _ _
    · exact operandTruthy_asks clause fields _
  · refine clause.guarded_asks 2 (htwo (operandTruthy_asks clause fields _) fun value => ?_)
    cases value
    · exact operandTruthy_asks clause fields _
    · exact .pure _ _
  · exact clause.guarded_asks 1 (hone (operandTruthy_asks clause fields _) fun value => .pure _ _)
  · refine clause.guarded_asks 1 (hone (resolveOperand_asks clause fields _) fun value => ?_)
    cases value <;> exact .pure _ _
  · refine clause.guarded_asks 3 (.mono ((resolveOperand_asks clause fields _).bind fun x =>
      (resolveOperand_asks clause fields _).bind fun lo =>
        hone (resolveOperand_asks clause fields _) fun hi => .pure _ _) ?_)
    rw [← List.filterMap_append,← List.filterMap_append]
    exact List.Sublist.refl _
  · split
    next hn =>
      refine (Interact.AsksWithin.bind (resolveOperand_asks clause fields _) fun x =>
        inListPlan_asks double clause fields x _).mono ?_
      rw [← List.filterMap_append,List.singleton_append,
        ← clause.operandsOf_eq_cons (Nat.le_of_succ_le hn)]
      exact List.Sublist.refl _
    next => exact .pure _ _
  · refine clause.guarded_asks 2 (htwo (resolveOperand_asks clause fields _) fun a =>
      hone (resolveOperand_asks clause fields _) fun b => ?_)
    split <;> exact .pure _ _
  · refine clause.guarded_asks 1 (hone (resolveOperand_asks clause fields _) fun b => ?_)
    split <;> exact .pure _ _
  · exact .pure _ _

/-! ## The calls of an evaluation -/

/-- How many elements `eval_element` is called for, itself included. -/
def evaluations : (room index : Nat) → Nat
  | 0, _ => 1
  | room + 1, index =>
    match clause.element? index with
    | none => 1
    | some el => 1 + (((elementPlan double clause fields el).asked fun q =>
        evalElement double clause fields room q.toNat).map fun q => evaluations room q.toNat).sum

/-- No element is entered that is being evaluated. `stack` has those that are. -/
def EntersFresh : (room : Nat) → (stack : List Nat) → (index : Nat) → Prop
  | 0, stack, index => index ∉ stack
  | room + 1, stack, index => index ∉ stack ∧ ∀ el ∈ clause.element? index,
    ∀ q ∈ (elementPlan double clause fields el).asked fun q =>
      evalElement double clause fields room q.toNat, EntersFresh room (index :: stack) q.toNat

/-- The recursion of `eval_element` without the test of the depth, as far as `n` nested calls
go. -/
def evalUncut : (n index : Nat) → Option Bool
  | 0, _ => none
  | n + 1, index =>
    match clause.element? index with
    | none => some false
    | some el => (elementPlan double clause fields el).runOption fun q => evalUncut n q.toNat

end

namespace WhereClause

/-- The number of nodes of the tree below an element, down to a depth of `n`. -/
def unfoldedNodes (clause : WhereClause) : (n index : Nat) → Nat
  | 0, _ => 1
  | n + 1, index =>
    match clause.element? index with
    | none => 1
    | some el => 1 + ((clause.children el).map fun q => clause.unfoldedNodes n q.toNat).sum

def Ordered (clause : WhereClause) : Prop :=
  ∀ i, ∀ el ∈ clause.element? i, ∀ q ∈ clause.children el,
    i < q.toNat ∧ q.toNat < clause.elementCount.toNat

/-- The elements below an element are nested at most `n` deep, itself included. -/
def Shallow (clause : WhereClause) : (n index : Nat) → Prop
  | 0, _ => False
  | n + 1, index => ∀ el ∈ clause.element? index, ∀ q ∈ clause.children el,
    clause.Shallow n q.toNat

/-- The evaluation never enters an element that is being evaluated, comes to the result of the
recursion without depth limit, and evaluates no more elements than the clause has as a tree. -/
structure EvaluatesInOrder (double : DoubleOps) (clause : WhereClause) (fields : EventFields) :
    Prop where
  fresh : EntersFresh double clause fields (whereMaxDepth + 1) [] 0
  uncut : ∃ n, evalUncut double clause fields n 0 = some (whereClauseEval double clause fields)
  bounded : evaluations double clause fields (whereMaxDepth + 1) 0 ≤
    clause.unfoldedNodes clause.elementCount.toNat 0

end WhereClause

section

variable {double : DoubleOps} {clause : WhereClause} {fields : EventFields}

theorem WhereClause.lt_of_element {i : Nat} (h : clause.element? i = some el) :
    i < clause.elementCount.toNat := by
  by_contra hge
  rw [WhereClause.element?,if_neg hge] at h
  cases h

theorem evalElement_of_evalUncut {n room : Nat} {b : Bool} (hroom : n ≤ room)
    (h : evalUncut double clause fields n index = some b) :
    evalElement double clause fields room index = b := by
  induction n generalizing room index b with
  | zero => cases h
  | succ n ih =>
    obtain ⟨room,rfl⟩ := Nat.exists_eq_add_of_le' (Nat.le_of_add_left_le hroom)
    have hroom : n ≤ room := Nat.le_of_succ_le_succ hroom
    rw [evalUncut] at h
    rw [evalElement]
    cases hel : clause.element? index with
    | none =>
      rw [hel] at h
      exact Option.some.inj h
    | some el =>
      rw [hel] at h
      exact Interact.run_of_runOption (fun q x hq => ih hroom hq) h

theorem exists_evalUncut {n : Nat} (hshallow : clause.Shallow n index) :
    (evalUncut double clause fields n index).isSome = true := by
  induction n generalizing index with
  | zero => exact hshallow.elim
  | succ n ih =>
    rw [evalUncut]
    cases hel : clause.element? index with
    | none => rfl
    | some el =>
      have hanswered : ∀ q ∈ (elementPlan double clause fields el).asked fun q =>
          (evalUncut double clause fields n q.toNat).getD false,
          (evalUncut double clause fields n q.toNat).isSome = true := by
        intro q hq
        exact ih (hshallow el hel q ((elementPlan_asks double clause fields el _).subset hq))
      simp only
      rw [Interact.runOption_eq_run (fun q x hq => by rw [hq,Option.getD_some]) _ hanswered]
      rfl

theorem entersFresh_of_ordered (hordered : clause.Ordered) (room : Nat) {stack : List Nat}
    (hstack : ∀ j ∈ stack, j < index) : EntersFresh double clause fields room stack index := by
  have hnot : index ∉ stack := fun hmem => Nat.lt_irrefl index (hstack index hmem)
  induction room generalizing stack index with
  | zero => exact hnot
  | succ room ih =>
    refine ⟨hnot,fun el hel q hq => ?_⟩
    have hchild := (elementPlan_asks double clause fields el _).subset hq
    obtain ⟨hlater,-⟩ := hordered index el hel q hchild
    have hstack' : ∀ j ∈ index :: stack, j < q.toNat := by
      intro j hj
      rcases List.mem_cons.mp hj with rfl | hj
      · exact hlater
      · exact Nat.lt_trans (hstack j hj) hlater
    exact ih hstack' fun hmem => Nat.lt_irrefl _ (hstack' _ hmem)

theorem evaluations_le_unfoldedNodes (hordered : clause.Ordered) (room : Nat) {n : Nat}
    (hindex : index < clause.elementCount.toNat) (hn : clause.elementCount.toNat ≤ index + n) :
    evaluations double clause fields room index ≤ clause.unfoldedNodes n index := by
  induction room generalizing n index with
  | zero =>
    rw [evaluations]
    cases n with
    | zero => omega
    | succ n =>
      rw [WhereClause.unfoldedNodes]
      split <;> omega
  | succ room ih =>
    cases n with
    | zero => omega
    | succ n =>
      rw [evaluations,WhereClause.unfoldedNodes]
      cases hel : clause.element? index with
      | none => exact Nat.le_refl _
      | some el =>
        have hasks := elementPlan_asks double clause fields el fun q =>
          evalElement double clause fields room q.toNat
        refine Nat.add_le_add_left (le_trans (List.sum_le_sum fun q hq => ?_)
          ((hasks.map _).sum_le_sum fun _ _ => Nat.zero_le _)) 1
        obtain ⟨hlater,hinside⟩ := hordered index el hel q (hasks.subset hq)
        exact ih hinside (by omega)

theorem WhereClause.Ordered.evaluatesInOrder (hordered : clause.Ordered)
    (hcount : clause.elementCount ≠ 0) (hshallow : clause.Shallow (whereMaxDepth + 1) 0) :
    clause.EvaluatesInOrder double fields := by
  have hpos : 0 < clause.elementCount.toNat := Nat.pos_of_ne_zero fun hzero =>
    hcount (UInt8.toNat_inj.mp hzero)
  have hsome : (evalUncut double clause fields (whereMaxDepth + 1) 0).isSome = true :=
    exists_evalUncut hshallow
  obtain ⟨b,hb⟩ := Option.isSome_iff_exists.mp hsome
  refine ⟨entersFresh_of_ordered hordered _ nofun,⟨whereMaxDepth + 1,?_⟩,
    evaluations_le_unfoldedNodes hordered _ hpos (by omega)⟩
  rw [whereClauseEval,if_neg hcount,evalElement_of_evalUncut le_rfl hb]
  exact hb

end

/-! ## The order that was sent -/

def FilterOperand.ref : FilterOperand → Option UInt32
  | .element index => some index
  | _ => none

theorem mem_filterMap_ref {operands : List FilterOperand} {q : UInt32} :
    q ∈ operands.filterMap FilterOperand.ref ↔ FilterOperand.element q ∈ operands := by
  constructor
  · intro h
    obtain ⟨operand,hmem,href⟩ := List.mem_filterMap.mp h
    cases operand with
    | element index =>
      obtain rfl := Option.some.inj href
      exact hmem
    | _ => cases href
  · exact fun h => List.mem_filterMap.mpr ⟨_,h,rfl⟩

def SentOrdered (es : List ContentFilterElement) : Prop :=
  ∀ (i : Nat) (e : ContentFilterElement), es[i]? = some e →
    ∀ q : UInt32, FilterOperand.element q ∈ e.operands → i < q.toNat ∧ q.toNat < es.length

/-- Below an element that was sent, elements are nested at most `n` deep. -/
def SentShallow (es : List ContentFilterElement) : (n index : Nat) → Prop
  | 0, _ => False
  | n + 1, index => ∀ e, es[index]? = some e → ∀ q : UInt32, FilterOperand.element q ∈ e.operands →
    SentShallow es n q.toNat

/-- Elements in order are nested at most as deep as there are elements. -/
theorem SentOrdered.shallow {es : List ContentFilterElement} (h : SentOrdered es) {n : Nat}
    (hindex : index < es.length) (hn : es.length ≤ index + n) : SentShallow es n index := by
  induction n generalizing index with
  | zero => omega
  | succ n ih =>
    intro e he q hq
    obtain ⟨hlater,hinside⟩ := h index e he q hq
    exact ih hinside (by omega)

section

variable {caps : FilterCapacities}

theorem literalToOperand_kind (caps : FilterCapacities) (clause : WhereClause) (value : Variant) :
    (literalToOperand caps clause value).2.1.kind ≠ .element := by
  have hblob (out : WhereOperand) (hout : out.kind ≠ .element) (payload : MuString) :
      (blobOperand caps clause out payload).2.1.kind ≠ .element := by
    unfold blobOperand
    split <;> exact hout
  unfold literalToOperand
  split <;> first
    | exact hblob _ (by simp) _
    | (split <;> first | exact hblob _ (by simp) _ | simp)
    | simp [WhereOperand.number]

variable (clause : WhereClause)

theorem compactOperand_ref (reject : Bool) (operand : FilterOperand) :
    (compactOperand caps clause reject operand).1.ref = operand.ref := by
  cases operand with
  | element index => rfl
  | simpleAttribute operand => rfl
  | other typeId length => rfl
  | literal value =>
    have hkind := literalToOperand_kind caps clause value
    unfold compactOperand
    simp only
    split
    · rfl
    split
    next heq =>
      rw [heq] at hkind
      exact if_neg hkind
    next => rfl

theorem literalToOperand_operands (value : Variant) :
    (literalToOperand caps clause value).2.2.operands = clause.operands := by
  have hblob (out : WhereOperand) (payload : MuString) :
      (blobOperand caps clause out payload).2.2.operands = clause.operands := by
    unfold blobOperand whereBlobAppend
    by_cases hfull : caps.whereBlobBytes < clause.blobLen.toNat + payload.length.toNat
    · simp only [if_pos hfull]
    · simp only [if_neg hfull]
  unfold literalToOperand
  split <;> first
    | exact hblob _ _
    | rfl
    | (split <;> first | exact hblob _ _ | rfl)

theorem compactOperand_operands (reject : Bool) (operand : FilterOperand) :
    (compactOperand caps clause reject operand).2.1.operands = clause.operands := by
  cases operand with
  | element index => rfl
  | simpleAttribute operand => rfl
  | other typeId length => rfl
  | literal value =>
    have hoperands : (literalToOperand caps clause value).2.2.operands = clause.operands :=
      literalToOperand_operands clause value
    unfold compactOperand
    simp only
    split
    · rfl
    split
    next heq =>
      rw [heq] at hoperands
      exact hoperands
    next heq =>
      rw [heq] at hoperands
      exact hoperands

def RefsKept (d : WhereDecoder) (os : List FilterOperand) : Prop :=
  d.overflow = false → d.clause.operands.map WhereOperand.ref = os.map FilterOperand.ref

variable {d : WhereDecoder} {os : List FilterOperand}

theorem RefsKept.operand (h : RefsKept d os) (storeEl : Bool) (operand : FilterOperand) :
    RefsKept (d.compactOperand caps storeEl operand) (os ++ [operand]) := by
  intro hroom
  have hspace := WhereDecoder.compactOperand_space hroom
  rw [WhereDecoder.compactOperand_eq,WhereDecoder.storeOperand_clause]
  simp only [if_pos hspace.2,compactOperand_operands,List.map_append,List.map_cons,List.map_nil,
    compactOperand_ref,h hspace.1]

theorem RefsKept.operands (h : RefsKept d os) (storeEl : Bool) (operands : List FilterOperand) :
    RefsKept (operands.foldl (WhereDecoder.compactOperand caps storeEl) d) (os ++ operands) := by
  induction operands generalizing d os with
  | nil => simpa using h
  | cons operand operands ih =>
    rw [List.append_cons]
    exact ih (h.operand storeEl operand)

theorem RefsKept.element (h : RefsKept d os) (i : Nat) (e : ContentFilterElement) :
    RefsKept (d.compactElement caps i e) (os ++ e.operands) := by
  have hchecked : RefsKept (d.checkOperator e.operator) os := by
    unfold WhereDecoder.checkOperator
    split <;> exact h
  have hstored (storeEl : Bool) : RefsKept ((d.checkOperator e.operator).storeElement storeEl
      e.operator e.operands.length) os := by
    unfold WhereDecoder.storeElement
    split <;> exact hchecked
  exact (hstored _).operands _ e.operands

theorem RefsKept.elements (h : RefsKept d os) (i : Nat) (es : List ContentFilterElement) :
    RefsKept (d.compactElements caps i es) (os ++ es.flatMap (·.operands)) := by
  induction es generalizing d os i with
  | nil => simpa [WhereDecoder.compactElements] using h
  | cons e es ih =>
    rw [List.flatMap_cons,← List.append_assoc]
    exact ih (h.element i e) (i + 1)

end

theorem WhereClause.operandsOf_eq {clause : WhereClause}
    (h : el.operandCount.toNat ≤ clause.operands.length - el.operandBase.toNat) :
    clause.operandsOf el =
      (clause.operands.drop el.operandBase.toNat).take el.operandCount.toNat := by
  apply List.ext_getElem
  · rw [WhereClause.operandsOf,List.length_map,List.length_range,List.length_take,
      List.length_drop]
    omega
  · intro j hj hj'
    rw [List.length_take] at hj'
    have hlt : el.operandBase.toNat + j < clause.operands.length := by omega
    simp only [WhereClause.operandsOf,WhereClause.operand,List.getElem_map,List.getElem_range,
      List.getElem_take,List.getElem_drop,List.getElem?_eq_getElem hlt,Option.getD_some]

section

variable {caps : FilterCapacities} {es : List ContentFilterElement}

theorem placedElements_operandCount (base : Nat) (es : List ContentFilterElement) :
    (placedElements base es).map WhereElement.operandCount =
      es.map fun e => UInt8.ofNat e.operands.length := by
  induction es generalizing base with
  | nil => rfl
  | cons e es ih => simp only [placedElements,List.map_cons,ih]

theorem WhereClause.children_placed {clause : WhereClause}
    (helements : clause.elements = placedElements 0 es)
    (hoperands : clause.operands.map WhereOperand.ref =
      [] ++ (es.flatMap (·.operands)).map FilterOperand.ref)
    (hwithin : WithinFacet caps es) (i : Nat) :
    (clause.elements[i]?).map clause.children =
      (es[i]?).map fun e => e.operands.filterMap FilterOperand.ref := by
  have hbound := caps.operands_lt
  have hslices := congrArg (·[i]?) (placedElements_map es 0 hoperands rfl
    (by have := hwithin.2.2; omega) hwithin.1)
  simp only [List.getElem?_map] at hslices
  rw [helements]
  cases hel : (placedElements 0 es)[i]? with
  | none =>
    rw [hel] at hslices
    rw [Option.map_eq_none_iff.mp hslices.symm]
    rfl
  | some el =>
    rw [hel] at hslices
    obtain ⟨e,he,hpair⟩ := Option.map_eq_some_iff.mp hslices.symm
    obtain ⟨-,hrefs⟩ := Prod.mk.inj hpair
    have hcount : el.operandCount.toNat = e.operands.length := by
      have hplaced := congrArg (·[i]?) (placedElements_operandCount 0 es)
      simp only [List.getElem?_map,hel,he,Option.map_some,Option.some.injEq] at hplaced
      have hmem := List.mem_of_getElem? he
      have hle : e.operands.length ≤ (es.flatMap (·.operands)).length := by
        rw [List.length_flatMap]
        exact List.le_sum_of_mem (List.mem_map_of_mem hmem)
      rw [hplaced,UInt8.toNat_ofNat',Nat.mod_eq_of_lt (by have := hwithin.2.2; omega)]
    have hlength : el.operandCount.toNat ≤ clause.operands.length - el.operandBase.toNat := by
      have hlen := congrArg List.length hrefs
      rw [List.length_map,List.length_map,List.length_take,List.length_drop] at hlen
      omega
    rw [he,Option.map_some,Option.map_some,WhereClause.children,clause.operandsOf_eq hlength]
    have hfilter {α : Type} (f : α → Option UInt32) (l : List α) :
        l.filterMap f = (l.map f).filterMap id := by
      rw [List.filterMap_map]
      rfl
    rw [hfilter WhereOperand.ref,hfilter FilterOperand.ref,hrefs]

theorem compactClause_children (hwithin : WithinFacet caps es)
    (hcount : (compactClause caps Status.good es).1.elementCount ≠ 0) :
    (compactClause caps Status.good es).1.elementCount.toNat = es.length ∧ ∀ i : Nat,
      ((compactClause caps Status.good es).1.element? i).map
          (compactClause caps Status.good es).1.children =
        (es[i]?).map fun e => e.operands.filterMap FilterOperand.ref := by
  have hplaced := compactElements_placed caps es
  have hstart : RefsKept (.start caps Status.good es.length) [] := fun _ => rfl
  have hrefs : RefsKept (WhereDecoder.compactElements caps 0 (.start caps Status.good es.length) es)
      ([] ++ es.flatMap (·.operands)) := hstart.elements 0 es
  obtain ⟨hover,-⟩ := hplaced.withinFacet_iff.mpr hwithin
  obtain ⟨els,htracks,hels⟩ := hplaced.tracks
  rw [compactClause_of_withinFacet hwithin] at hcount ⊢
  cases hreject : (WhereDecoder.compactElements caps 0
      (.start caps Status.good es.length) es).reject with
  | true =>
    rw [hreject] at hcount
    exact absurd rfl hcount
  | false =>
    generalize WhereDecoder.compactElements caps 0 (.start caps Status.good es.length) es = d at *
    have helements := caps.elements_lt
    have hlen : (UInt8.ofNat es.length).toNat = es.length := by
      rw [UInt8.toNat_ofNat',Nat.mod_eq_of_lt (by have := hwithin.2.1; omega)]
    simp only [Bool.false_eq_true,if_false]
    refine ⟨hlen,fun i => ?_⟩
    have hchildren : (d.clause.elements[i]?).map (WhereClause.children { d.clause with
        elementCount := UInt8.ofNat es.length
        operandCount := UInt8.ofNat (es.flatMap (·.operands)).length }) =
        (es[i]?).map fun e => e.operands.filterMap FilterOperand.ref :=
      WhereClause.children_placed ((htracks.elements hreject).trans (hels hover)) (hrefs hover)
        hwithin i
    unfold WhereClause.element?
    simp only [hlen]
    split
    next => exact hchildren
    next hge =>
      rw [List.getElem?_eq_none (by omega)]
      rfl

theorem compactClause_ordered_iff (hwithin : WithinFacet caps es)
    (hcount : (compactClause caps Status.good es).1.elementCount ≠ 0) :
    (compactClause caps Status.good es).1.Ordered ↔ SentOrdered es := by
  obtain ⟨hlength,hchildren⟩ := compactClause_children hwithin hcount
  unfold WhereClause.Ordered SentOrdered
  rw [hlength]
  constructor
  · intro hordered i e he q hq
    have hi := hchildren i
    rw [he] at hi
    obtain ⟨el,hel,hrefs⟩ := Option.map_eq_some_iff.mp hi
    exact hordered i el hel q (hrefs ▸ mem_filterMap_ref.mpr hq)
  · intro hordered i el hel q hq
    have hi := hchildren i
    rw [hel] at hi
    obtain ⟨e,he,hrefs⟩ := Option.map_eq_some_iff.mp hi.symm
    exact hordered i e he q (mem_filterMap_ref.mp (hrefs.symm ▸ hq))

theorem compactClause_shallow (hwithin : WithinFacet caps es)
    (hcount : (compactClause caps Status.good es).1.elementCount ≠ 0) {n : Nat}
    (h : SentShallow es n index) : (compactClause caps Status.good es).1.Shallow n index := by
  induction n generalizing index with
  | zero => exact h.elim
  | succ n ih =>
    intro el hel q hq
    have hi := (compactClause_children hwithin hcount).2 index
    rw [hel] at hi
    obtain ⟨e,he,hrefs⟩ := Option.map_eq_some_iff.mp hi.symm
    exact ih (h e he q (mem_filterMap_ref.mp (hrefs.symm ▸ hq)))

/-- An accepted where clause whose elements were sent in order has them in order, and is evaluated
in order for every event, as long as they are nested no deeper than the depth limit. One that is
stored as it was sent has its elements in order only if they were sent so. -/
theorem whereClause_inOrder (double : DoubleOps) {profile : CodecProfile} {r r' : BinaryReader}
    {body : EventFilterBody} (hbody : readEventFilterBody caps profile r = .ok body r')
    (hgood : body.filterResult = Status.good) :
    ∃ es, readSentWhereClause profile r = .ok es r' ∧
      (SentOrdered es → body.whereClause.Ordered ∧
        (SentShallow es (whereMaxDepth + 1) 0 → body.whereClause.elementCount ≠ 0 →
          ∀ fields, body.whereClause.EvaluatesInOrder double fields)) ∧
      (Storable caps es → body.whereClause.Ordered → SentOrdered es) := by
  obtain ⟨es,hsent,hclause,hresult⟩ := readEventFilterBody_compact caps profile hbody
  have hwithin : WithinFacet caps es := compactClause_good_iff.mp (hresult.symm.trans hgood)
  refine ⟨es,hsent,fun hordered => ⟨?_,fun hshallow hcount fields => ?_⟩,fun hstorable h => ?_⟩
  · rw [hclause]
    by_cases hcount : (compactClause caps Status.good es).1.elementCount = 0
    · intro i el hel
      have hlt := WhereClause.lt_of_element hel
      rw [hcount] at hlt
      exact absurd hlt (Nat.not_lt_zero i)
    · exact (compactClause_ordered_iff hwithin hcount).mpr hordered
  · rw [hclause] at hcount ⊢
    exact ((compactClause_ordered_iff hwithin hcount).mpr hordered).evaluatesInOrder hcount
      (compactClause_shallow hwithin hcount hshallow)
  · rw [hclause] at h
    by_cases hes : es = []
    · intro i e he
      rw [hes,List.getElem?_nil] at he
      cases he
    · have hcount := ((compactClause_storesExactly_iff hes hwithin).mpr hstorable).2
      exact (compactClause_ordered_iff hwithin hcount).mp h

end

namespace Sample

/-- A filter without select clauses, whose first element is the negation of the element `index`; the
second one is false. -/
def notElement (index : UInt8) : List UInt8 :=
  [0, 0, 0, 0] ++ [2, 0, 0, 0] ++
    [7, 0, 0, 0] ++ [1, 0, 0, 0] ++ [0x01, 0x00, 0x52, 0x02, 0x01, 4, 0, 0, 0] ++ [index, 0, 0, 0] ++
    [1, 0, 0, 0] ++ [0, 0, 0, 0]

def eventFields : EventFields :=
  ⟨MuString.null, NodeId.null, NodeId.null, MuString.null, 0, 0, MuString.null, 0⟩

end Sample

open Sample in
/-- A negation of the element behind it. -/
theorem whereClause_inOrder_not :
    ∃ body r', readEventFilterBody .default ⟨8, fun _ _ => true⟩
        (BinaryReader.init (notElement 1)) = .ok body r' ∧
      body.whereClause.elementCount = 2 ∧ body.whereClause.Ordered ∧
      ∀ fields, body.whereClause.EvaluatesInOrder binary64 fields := by
  refine ⟨_,_,rfl,rfl,?_⟩
  obtain ⟨es,hsent,hinOrder,-⟩ := whereClause_inOrder binary64
    (show readEventFilterBody .default ⟨8,fun _ _ => true⟩
      (BinaryReader.init (notElement 1)) = .ok _ _ from rfl) rfl
  have hes : es = [⟨7,[.element 1]⟩,⟨1,[]⟩] :=
    (EStateM.Result.ok.inj (hsent.symm.trans rfl)).1
  have hordered : SentOrdered es := by
    subst hes
    rintro (_ | _ | i) e he q hq
    · obtain rfl := Option.some.inj he
      obtain rfl := FilterOperand.element.inj (List.mem_singleton.mp hq)
      decide
    · obtain rfl := Option.some.inj he
      cases hq
    · cases he
  obtain ⟨hclause,heval⟩ := hinOrder hordered
  exact ⟨hclause,heval (hordered.shallow (by rw [hes]; decide) (by rw [hes]; decide)) (by decide)⟩

open Sample in
/-- An element that negates itself is accepted. Its evaluation enters it again, and without the test
of the depth it would not end. -/
theorem whereClause_enters_itself :
    ∃ body r', readEventFilterBody .default ⟨8, fun _ _ => true⟩
        (BinaryReader.init (notElement 0)) = .ok body r' ∧
      body.filterResult = Status.good ∧ body.whereClause.elementCount = 2 ∧
      ¬ EntersFresh binary64 body.whereClause eventFields (whereMaxDepth + 1) [] 0 ∧
      ∀ n, evalUncut binary64 body.whereClause eventFields n 0 = none := by
  refine ⟨_,_,rfl,rfl,rfl,?_,?_⟩
  · rintro ⟨-,hcalls⟩
    exact (hcalls _ rfl 0 (by decide)).1 (by decide)
  · intro n
    induction n with
    | zero => rfl
    | succ n ih =>
      change Option.bind (evalUncut binary64 _ eventFields n 0) _ = none
      rw [ih]
      rfl

end MucOpcua
