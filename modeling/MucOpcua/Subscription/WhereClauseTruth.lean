import MucOpcua.Subscription.WhereClauseOrder

/-!
# The logic of where clauses

Three-valued logic over a stored clause, and the evaluation as the variant of it in which an element
that cannot be evaluated counts as false.
-/

namespace MucOpcua

/-! ## Values and truth values -/

/-- The value of an operand; an integer is the number it stands for, whatever its type. -/
inductive FilterValue where
  | null
  | int (i : Int)
  | double (d : UInt64)
  | string (bytes : List UInt8)
  | nodeId (id : NodeId)

namespace FilterValue

def ofEval : EvalValue → FilterValue
  | .null => .null
  | .int i => .int i.toInt
  | .double d => .double d
  | .string bytes => .string bytes
  | .nodeId id => .nodeId id

def compareInts (x y : Int) : Ordering := if x < y then .lt else if y < x then .gt else .eq

/-- A NaN is neither below, equal to nor above anything. -/
def compareNumbers (x y : UInt64) : Option Ordering :=
  if Binary64.isNaN x ∨ Binary64.isNaN y then none
  else some (compareInts (Binary64.units x) (Binary64.units y))

/-- Nothing if an operand is null or the two cannot be compared. -/
def compare : FilterValue → FilterValue → Option Ordering
  | .int x, .int y => some (compareInts x y)
  | .int x, .double y => compareNumbers (Binary64.ofInt x) y
  | .double x, .int y => compareNumbers x (Binary64.ofInt y)
  | .double x, .double y => compareNumbers x y
  | .string x, .string y => some (compareBytes x y)
  | .nodeId x, .nodeId y => if nodeidEqual x y then some .eq else none
  | _, _ => none

/-- NodeIds have no order, but they are the same or not. -/
def equals : FilterValue → FilterValue → Option Bool
  | .nodeId x, .nodeId y => some (nodeidEqual x y)
  | a, b => (compare a b).map (· = .eq)

end FilterValue

def EvalValue.Orderly : EvalValue → Prop
  | .double d => Binary64.isNaN d = false
  | _ => True

namespace FilterValue

theorem compareNumbers_eq {x y : UInt64} (hx : Binary64.isNaN x = false)
    (hy : Binary64.isNaN y = false) : compareNumbers x y = some (compareDoubles binary64 x y) := by
  simp [compareNumbers,compareDoubles,compareInts,binary64,Binary64.lt,hx,hy]

theorem compare_ofEval {a b : EvalValue} (ha : a.Orderly) (hb : b.Orderly) :
    compare (ofEval a) (ofEval b) = valueCompare binary64 a b := by
  cases a with
  | int x =>
    cases b with
    | int y => simp only [ofEval,compare,compareInts,valueCompare,Int64.lt_iff_toInt_lt]
    | double y => exact compareNumbers_eq (Binary64.isNaN_ofInt _) hb
    | _ => rfl
  | double x =>
    cases b with
    | int y => exact compareNumbers_eq ha (Binary64.isNaN_ofInt _)
    | double y => exact compareNumbers_eq ha hb
    | _ => rfl
  | _ => cases b <;> rfl

theorem equals_ofEval {a b : EvalValue} (ha : a.Orderly) (hb : b.Orderly) :
    (equals (ofEval a) (ofEval b)).getD false =
      decide (valueCompare binary64 a b = some .eq) := by
  have hmap (order : Option Ordering) :
      (order.map fun c => decide (c = .eq)).getD false = decide (order = some .eq) := by
    cases order <;> simp
  cases a with
  | nodeId x =>
    cases b with
    | nodeId y => by_cases hsame : nodeidEqual x y = true <;> simp [ofEval,equals,valueCompare]
    | _ => exact hmap none
  | _ =>
    rw [← compare_ofEval ha hb,← hmap]
    cases b <;> rfl

end FilterValue

namespace Truth

/-- The tables of three-valued logic; nothing stands for null. -/
protected def and : Option Bool → Option Bool → Option Bool
  | some false, _ | _, some false => some false
  | some true, some true => some true
  | _, _ => none

protected def or : Option Bool → Option Bool → Option Bool
  | some true, _ | _, some true => some true
  | some false, some false => some false
  | _, _ => none

/-- A null truth value counts as false. -/
def orFalse (t : Option Bool) : Option Bool :=
  some (t.getD false)

@[simp] theorem orFalse_getD (t : Option Bool) : (orFalse t).getD false = t.getD false := rfl

@[simp] theorem and_getD (a b : Option Bool) :
    (Truth.and a b).getD false = (a.getD false && b.getD false) := by
  rcases a with _ | _ | _ <;> rcases b with _ | _ | _ <;> rfl

@[simp] theorem or_getD (a b : Option Bool) :
    (Truth.or a b).getD false = (a.getD false || b.getD false) := by
  rcases a with _ | _ | _ <;> rcases b with _ | _ | _ <;> rfl

end Truth

/-! ## The meaning of a clause -/

section

variable (clause : WhereClause) (fields : EventFields)

section Element

variable (settle : Option Bool → Option Bool) (child : UInt32 → Option Bool)

def operandValue (op : WhereOperand) : FilterValue :=
  match op.kind with
  | .attribute => .ofEval (readEventField fields op.field)
  | .literal =>
    if BuiltinType.ofByte op.litType = .uint64 then .int op.num.toNat
    else .ofEval (readLiteralValue clause op)
  | .element => (child op.elementIndex).elim .null fun b => .int (if b then 1 else 0)
  | .unsupported => .null

def operandTruth (op : WhereOperand) : Option Bool :=
  if op.kind = .element then child op.elementIndex
  else
    match operandValue clause fields child op with
    | .int i => some (i ≠ 0)
    | _ => none

/-- The truth value of an element, where `child` has those of the elements it names and `settle` is
what is made of the truth value of an operand. -/
def elementTruth (el : WhereElement) : Option Bool :=
  let value (j : Nat) := operandValue clause fields child (clause.operand el j)
  let truth (j : Nat) := settle (operandTruth clause fields child (clause.operand el j))
  let order (i j : Nat) := (value i).compare (value j)
  match el.op.toNat with
  | 10 => Truth.and (truth 0) (truth 1)
  | 11 => Truth.or (truth 0) (truth 1)
  | 7 => (truth 0).map (!·)
  | 1 => some (match value 0 with | .null => true | _ => false)
  | 0 => (value 0).equals (value 1)
  | 2 => (order 0 1).map (· = .gt)
  | 3 => (order 0 1).map (· = .lt)
  | 4 => (order 0 1).map (· ≠ .lt)
  | 5 => (order 0 1).map (· ≠ .gt)
  | 8 => Truth.and ((order 0 1).map (· ≠ .lt)) ((order 0 2).map (· ≠ .gt))
  | 9 => ((clause.operandsOf el).drop 1).foldr
      (fun op => Truth.or ((value 0).equals (operandValue clause fields child op)))
      (some false)
  | 6 =>
    match value 0, value 1 with
    | .string s, .string pattern => some (likeMatch pattern s)
    | _, _ => none
  | 14 => (FilterValue.ofEval (readEventField fields 1)).equals (value 0)
  | _ => none

end Element

/-- The truth value of an element, looking so many elements deep. -/
def WhereClause.truth (settle : Option Bool → Option Bool) : (depth index : Nat) → Option Bool
  | 0, _ => settle none
  | depth + 1, index => settle ((clause.element? index).bind fun el =>
      elementTruth clause fields settle (fun q => truth settle depth q.toNat) el)

/-! ## What is evaluated -/

def WhereElement.arity (el : WhereElement) : Nat :=
  match el.op.toNat with
  | 1 | 7 | 14 => 1
  | 0 | 2 | 3 | 4 | 5 | 6 | 9 | 10 | 11 => 2
  | 8 => 3
  | _ => 0

/-- An integer literal fits the `opcua_int64_t` it is compared as, and no literal is a NaN. -/
def WhereOperand.Small (op : WhereOperand) : Prop :=
  op.kind = .literal →
    (BuiltinType.ofByte op.litType = .uint64 → op.num.toNat < 2 ^ 63) ∧
    (BuiltinType.ofByte op.litType = .float ∨ BuiltinType.ofByte op.litType = .double →
      Binary64.isNaN op.num = false)

instance (op : WhereOperand) : Decidable op.Small :=
  inferInstanceAs (Decidable (_ → _ ∧ _))

/-- The elements have the operands that their operators need. -/
def WhereClause.WellFormed : Prop :=
  clause.elementCount ≠ 0 ∧ ∀ i < clause.elementCount.toNat, ∀ el ∈ clause.element? i,
    el.arity ≤ el.operandCount.toNat ∧ ∀ op ∈ clause.operandsOf el, op.Small

instance : Decidable clause.WellFormed :=
  inferInstanceAs (Decidable (_ ∧ _))

instance : Decidable clause.Ordered :=
  decidable_of_iff (∀ i < clause.elementCount.toNat, ∀ el ∈ clause.element? i,
      (clause.children el).all fun q => i < q.toNat ∧ q.toNat < clause.elementCount.toNat) <| by
    simp only [List.all_eq_true, decide_eq_true_eq]
    exact ⟨fun h i el hel => h i (WhereClause.lt_of_element hel) el hel, fun h i _ => h i⟩

variable {clause fields} {op : WhereOperand} (answer : UInt32 → Bool)

theorem readLiteralValue_orderly (hkind : op.kind = .literal) (h : op.Small) :
    (readLiteralValue clause op).Orderly := by
  unfold readLiteralValue
  split
  · next type bits hread =>
    have hnumber : type = op.litType ∧ bits = op.num := by
      unfold WhereClause.readLiteral at hread
      dsimp only at hread
      split at hread
      · cases hread
        exact ⟨rfl,rfl⟩
      repeat' split at hread
      all_goals cases hread
    rw [hnumber.1,hnumber.2]
    split
    · next htype => exact (h hkind).2 htype
    · trivial
  all_goals trivial

theorem readEventField_orderly (field : UInt8) : (readEventField fields field).Orderly := by
  unfold readEventField valueStringOrNull valueNodeidOrNull
  repeat' split
  all_goals trivial

theorem resolveOperand_orderly (h : op.Small) :
    ((resolveOperand clause fields op).run answer).Orderly := by
  unfold resolveOperand
  split
  · exact readEventField_orderly op.field
  · next hkind => exact readLiteralValue_orderly hkind h
  · trivial
  · trivial

theorem operandValue_eq (h : op.Small) : operandValue clause fields (fun q => some (answer q)) op =
      .ofEval ((resolveOperand clause fields op).run answer) := by
  unfold operandValue resolveOperand
  cases hkind : op.kind with
  | element =>
    show FilterValue.int _ = .int _
    cases answer op.elementIndex <;> rfl
  | literal =>
    by_cases htype : BuiltinType.ofByte op.litType = .uint64
    · have hsmall := (h hkind).1 htype
      have hnumber : readLiteralValue clause op = .int op.num.toInt64 := by
        simp [readLiteralValue,WhereClause.readLiteral,htype,BuiltinType.isNumber]
      simp only [if_pos htype,hnumber]
      have hint : op.num.toBitVec.toInt = op.num.toNat :=
        BitVec.toInt_eq_toNat_of_lt (by rw [UInt64.toNat_toBitVec]; omega)
      exact congrArg FilterValue.int hint.symm
    · simp only [if_neg htype]
      rfl
  | _ => rfl

theorem operandTruth_eq (h : op.Small) :
    (operandTruth clause fields (fun q => some (answer q)) op).getD false =
      (operandTruthy clause fields op).run answer := by
  unfold operandTruth operandTruthy
  by_cases hkind : op.kind = .element
  · rw [if_pos hkind,if_pos hkind]
    rfl
  rw [if_neg hkind,if_neg hkind,operandValue_eq answer h,Interact.run_bind]
  cases (resolveOperand clause fields op).run answer with
  | int i =>
    show decide (i.toInt ≠ 0) = decide (i ≠ 0)
    rw [decide_eq_decide,ne_eq,ne_eq,← Int64.toInt_inj]
    rfl
  | _ => rfl

theorem inListPlan_eq {x : EvalValue} (hx : x.Orderly) (ops : List WhereOperand)
    (h : ∀ op ∈ ops, op.Small) :
    (ops.foldr (fun op => Truth.or ((FilterValue.ofEval x).equals
      (operandValue clause fields (fun q => some (answer q)) op))) (some false)).getD false =
        (inListPlan binary64 clause fields x ops).run answer := by
  induction ops with
  | nil => rfl
  | cons op ops ih =>
    obtain ⟨hop,hops⟩ := List.forall_mem_cons.mp h
    rw [List.foldr_cons,Truth.or_getD,operandValue_eq answer hop,
      FilterValue.equals_ofEval hx (resolveOperand_orderly answer hop),ih hops,inListPlan,
      Interact.run_bind]
    split
    · next hsame => simp [hsame,Interact.run]
    · next hother => simp [hother]

theorem comparePlan_eq {test : Ordering → Bool} {plan : Option Ordering → Bool}
    (htest : ∀ c, (Option.map test c).getD false = plan c) {a b : WhereOperand} (ha : a.Small)
    (hb : b.Small) :
    (((operandValue clause fields (fun q => some (answer q)) a).compare
      (operandValue clause fields (fun q => some (answer q)) b)).map test).getD false =
        (comparePlan binary64 clause fields plan a b).run answer := by
  rw [operandValue_eq answer ha,operandValue_eq answer hb,
    FilterValue.compare_ofEval (resolveOperand_orderly answer ha) (resolveOperand_orderly answer hb),
    htest,comparePlan,Interact.run_bind,Interact.run_bind]
  rfl

/-- An element holds exactly if it is true where one that cannot be evaluated is false. -/
theorem elementPlan_eq {el : WhereElement} (harity : el.arity ≤ el.operandCount.toNat)
    (hsmall : ∀ op ∈ clause.operandsOf el, op.Small) :
    (elementTruth clause fields Truth.orFalse (fun q => some (answer q)) el).getD false =
      (elementPlan binary64 clause fields el).run answer := by
  have hop (j : Nat) (hj : j < el.arity) : (clause.operand el j).Small :=
    hsmall _ (List.mem_map_of_mem (List.mem_range.mpr (hj.trans_le harity)))
  have horderly (j : Nat) (hj : j < el.arity) :
      ((resolveOperand clause fields (clause.operand el j)).run answer).Orderly :=
    resolveOperand_orderly answer (hop j hj)
  unfold elementTruth
  unfold WhereElement.arity at harity hop horderly
  split
  case h_14 =>
    have hplan : elementPlan binary64 clause fields el = pure false := by
      unfold elementPlan
      dsimp only
      split
      case h_14 => rfl
      all_goals contradiction
    rw [hplan]
    rfl
  all_goals
    rename_i hcode
    unfold elementPlan
    simp only [hcode] at harity hop horderly ⊢
    rw [if_pos harity]
  case h_1 | h_2 =>
    rw [Interact.run_bind]
    simp only [Truth.and_getD,Truth.or_getD,Truth.orFalse_getD,
      operandTruth_eq answer (hop 0 (by decide)),operandTruth_eq answer (hop 1 (by decide))]
    cases (operandTruthy clause fields (clause.operand el 0)).run answer <;> rfl
  case h_3 =>
    rw [Interact.run_bind,← operandTruth_eq answer (hop 0 (by decide))]
    rfl
  case h_4 =>
    rw [operandValue_eq answer (hop 0 (by decide)),Interact.run_bind]
    cases (resolveOperand clause fields (clause.operand el 0)).run answer <;> rfl
  case h_5 =>
    rw [operandValue_eq answer (hop 0 (by decide)),operandValue_eq answer (hop 1 (by decide)),
      FilterValue.equals_ofEval (horderly 0 (by decide)) (horderly 1 (by decide)),comparePlan,
      Interact.run_bind,Interact.run_bind]
    rfl
  case h_6 | h_7 | h_8 | h_9 =>
    apply comparePlan_eq answer _ (hop 0 (by decide)) (hop 1 (by decide))
    rintro (_ | _ | _ | _) <;> rfl
  case h_10 =>
    simp only [operandValue_eq answer (hop 0 (by decide)),
      operandValue_eq answer (hop 1 (by decide)),operandValue_eq answer (hop 2 (by decide)),
      FilterValue.compare_ofEval (horderly 0 (by decide)) (horderly 1 (by decide)),
      FilterValue.compare_ofEval (horderly 0 (by decide)) (horderly 2 (by decide)),
      Interact.run_bind]
    generalize (resolveOperand clause fields (clause.operand el 0)).run answer = x
    rcases valueCompare binary64 x _ with _ | _ | _ | _ <;>
      rcases valueCompare binary64 x _ with _ | _ | _ | _ <;> rfl
  case h_11 =>
    rw [operandValue_eq answer (hop 0 (by decide)),Interact.run_bind]
    exact inListPlan_eq answer (horderly 0 (by decide)) _ fun op hmem =>
      hsmall op (List.mem_of_mem_drop hmem)
  case h_12 =>
    rw [operandValue_eq answer (hop 0 (by decide)),operandValue_eq answer (hop 1 (by decide)),
      Interact.run_bind,Interact.run_bind]
    cases (resolveOperand clause fields (clause.operand el 0)).run answer <;>
      cases (resolveOperand clause fields (clause.operand el 1)).run answer <;> rfl
  case h_13 =>
    rw [operandValue_eq answer (hop 0 (by decide)),Interact.run_bind]
    have htype : readEventField fields 1 = valueNodeidOrNull fields.eventType := rfl
    rw [htype,valueNodeidOrNull]
    split <;> cases (resolveOperand clause fields (clause.operand el 0)).run answer <;> rfl

theorem truth_eq_evalElement (h : clause.WellFormed) (depth index : Nat) :
    clause.truth fields Truth.orFalse depth index =
      some (evalElement binary64 clause fields depth index) := by
  induction depth generalizing index with
  | zero => rfl
  | succ depth ih =>
    unfold WhereClause.truth evalElement
    simp only [ih]
    cases hel : clause.element? index with
    | none => rfl
    | some el =>
      obtain ⟨harity,hsmall⟩ := h.2 index (WhereClause.lt_of_element hel) el hel
      exact congrArg some (elementPlan_eq _ harity hsmall)

/-- A clause holds exactly if its first element is true, where an operand or element without a truth
value, or nested too deep, is false. -/
theorem whereClause_true_iff (h : clause.WellFormed) :
    whereClauseEval binary64 clause fields = true ↔
      clause.truth fields Truth.orFalse (whereMaxDepth + 1) 0 = some true := by
  rw [truth_eq_evalElement h,whereClauseEval,if_neg h.1,Option.some_inj]

end

namespace Sample

def elementOperand (index : UInt32) : WhereOperand := ⟨.element, 0, 0, 0, 0, index, 0, 0⟩

def sourceNameOperand : WhereOperand := ⟨.attribute, 3, 0, 0, 0, 0, 0, 0⟩

/-- It is not so that the SourceName is the SourceName. -/
def notSame : WhereClause :=
  ⟨[⟨7, 0, 1⟩, ⟨0, 1, 2⟩], [elementOperand 1, sourceNameOperand, sourceNameOperand], [], 2, 3, 0⟩

/-- Nine negations of the SourceName's being null. -/
def nested : WhereClause :=
  ⟨(List.range 9).map (⟨7, .ofNat ·, 1⟩) ++ [⟨1, 9, 1⟩],
    (List.range 9).map (fun i => elementOperand (.ofNat (i + 1))) ++ [sourceNameOperand],
    [], 10, 10, 0⟩

end Sample

open Sample in
theorem whereClause_true_iff_notSame :
    notSame.WellFormed ∧ whereClauseEval binary64 notSame eventFields = true ∧
      notSame.truth eventFields Truth.orFalse 9 0 = some true :=
  have heval : whereClauseEval binary64 notSame eventFields = true := by decide
  ⟨by decide,heval,(whereClause_true_iff (by decide)).mp heval⟩

open Sample in
set_option maxRecDepth 4000 in
/-- A clause whose first element is null in three-valued logic is true of an event without a
SourceName, and so is one whose first element is false and that is nested too deep. -/
theorem whereClause_true_of_not_true :
    notSame.WellFormed ∧ notSame.Ordered ∧ nested.WellFormed ∧ nested.Ordered ∧
      (∀ depth, notSame.truth eventFields id (depth + 2) 0 = none) ∧
      whereClauseEval binary64 notSame eventFields = true ∧
      (∀ depth, nested.truth eventFields id (depth + 10) 0 = some false) ∧
      whereClauseEval binary64 nested eventFields = true := by
  exact ⟨by decide,by decide,by decide,by decide,fun _ => rfl,by decide,fun _ => rfl,by decide⟩

end MucOpcua
