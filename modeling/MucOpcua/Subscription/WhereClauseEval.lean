import MucOpcua.AddressSpace.Lookup
import MucOpcua.Subscription.Types
import MucOpcua.Subscription.WhereClauseStored

/-!
# Evaluating a where clause

`event_filter.c`: an event passes the filter if the first element of the where clause is true for
it.
-/

namespace MucOpcua

/-! ## Values -/

/-- `mu_event_fields_t`, as far as the evaluator reads it. -/
structure EventFields where
  eventId : MuString
  eventType : NodeId
  sourceNode : NodeId
  sourceName : MuString
  time : Int64
  receiveTime : Int64
  message : MuString
  severity : UInt16

inductive EvalValue where
  | null
  | int (i : Int64)
  | double (d : UInt64)
  | string (bytes : List UInt8)
  | nodeId (id : NodeId)

def valueStringOrNull (s : MuString) : EvalValue :=
  if s.data.isSome ∧ 0 < s.length then .string s.bytes else .null

def valueNodeidOrNull (id : NodeId) : EvalValue := if id = NodeId.null then .null else .nodeId id

/-- `read_event_field`; the numbers are those of `mu_event_field_t`. -/
def readEventField (fields : EventFields) (field : UInt8) : EvalValue :=
  match field.toNat with
  | 0 => valueStringOrNull fields.eventId
  | 1 => valueNodeidOrNull fields.eventType
  | 2 => valueNodeidOrNull fields.sourceNode
  | 3 => valueStringOrNull fields.sourceName
  | 4 => .int fields.time
  | 5 => .int fields.receiveTime
  | 7 => valueStringOrNull fields.message
  | 8 => .int fields.severity.toUInt64.toInt64
  | _ => .null

/-- What `read_literal` makes of a stored literal. -/
def readLiteralValue (clause : WhereClause) (operand : WhereOperand) : EvalValue :=
  match clause.readLiteral operand with
  | some (.number type bits) =>
    if BuiltinType.ofByte type = .float ∨ BuiltinType.ofByte type = .double then .double bits
    else .int bits.toInt64
  | some (.text _ payload) => .string payload
  | some (.numericNodeId namespaceIndex id) => .nodeId ⟨namespaceIndex, .numeric id⟩
  | some (.stringNodeId namespaceIndex payload) =>
    .nodeId ⟨namespaceIndex, .string (MuString.ofBytes payload)⟩
  | _ => .null

/-- `memcmp` over the common length, then the lengths. -/
def compareBytes : List UInt8 → List UInt8 → Ordering
  | [], [] => .eq
  | [], _ :: _ => .lt
  | _ :: _, [] => .gt
  | a :: as, b :: bs => if a < b then .lt else if b < a then .gt else compareBytes as bs

def compareDoubles (double : DoubleOps) (a b : UInt64) : Ordering :=
  if double.lt a b then .lt else if double.lt b a then .gt else .eq

/-- `value_compare`; nothing if the values cannot be compared. -/
def valueCompare (double : DoubleOps) (a b : EvalValue) : Option Ordering :=
  match a, b with
  | .int x, .int y => some (if x < y then .lt else if y < x then .gt else .eq)
  | .int x, .double y => some (compareDoubles double (double.ofInt x.toInt) y)
  | .double x, .int y => some (compareDoubles double x (double.ofInt y.toInt))
  | .double x, .double y => some (compareDoubles double x y)
  | .string x, .string y => some (compareBytes x y)
  | .nodeId x, .nodeId y => if nodeidEqual x y then some .eq else none
  | _, _ => none

/-! ## Patterns -/

/-- The loop over a bracket of `like_match`: whether the character is in the set, and the pattern
from the closing bracket on. -/
def likeSet (c : UInt8) : List UInt8 → Bool × List UInt8
  | [] => (false, [])
  | lo :: pattern =>
    if lo = 0x5D then (false, lo :: pattern)
    else
      match pattern with
      | dash :: hi :: rest =>
        if dash = 0x2D ∧ hi ≠ 0x5D then
          let (matched, rest) := likeSet c rest
          (matched || decide (lo ≤ c ∧ c ≤ hi), rest)
        else
          let (matched, rest) := likeSet c (dash :: hi :: rest)
          (matched || decide (c = lo), rest)
      | short =>
        let (matched, rest) := likeSet c short
        (matched || decide (c = lo), rest)

theorem likeSet_suffix (c : UInt8) (pattern : List UInt8) : (likeSet c pattern).2 <:+ pattern := by
  fun_induction likeSet c pattern with
  | case1 | case2 => exact List.suffix_refl _
  | case3 lo _ dash hi _ _ _ _ heq ih =>
    rw [heq] at ih
    exact ih.trans ⟨[lo,dash,hi],rfl⟩
  | case4 lo _ _ _ _ _ _ _ heq ih | case5 lo _ _ _ _ _ heq ih =>
    rw [heq] at ih
    exact ih.trans (List.suffix_cons lo _)

/-- The pattern in a bracket, without the `^` that negates the set. -/
def likeSetBody (pattern : List UInt8) : List UInt8 :=
  if pattern.head? = some 0x5E then pattern.drop 1 else pattern

theorem likeSet_drop_suffix (c : UInt8) (pattern : List UInt8) :
    (likeSet c (likeSetBody pattern)).2.drop 1 <:+ pattern := by
  refine ((List.drop_suffix 1 _).trans (likeSet_suffix c _)).trans ?_
  unfold likeSetBody
  split
  · exact List.drop_suffix 1 _
  · exact List.suffix_refl _

/-- `like_match`: the escapes are `%` for any run, `_` for one character, brackets for a set and a
backslash in front of a character that stands for itself. -/
def likeMatch (pattern s : List UInt8) : Bool :=
  match pattern with
  | [] => s.isEmpty
  | pc :: rest =>
    if pc = 0x25 then
      let rest' := rest.dropWhile (· = 0x25)
      if rest'.isEmpty then true else s.tails.any fun suffix => likeMatch rest' suffix
    else
      match s with
      | [] => false
      | c :: cs =>
        if pc = 0x5F then likeMatch rest cs
        else if pc = 0x5B then
          let negate := decide (rest.head? = some 0x5E)
          if (likeSet c (likeSetBody rest)).1 = negate then false
          else likeMatch ((likeSet c (likeSetBody rest)).2.drop 1) cs
        else if pc = 0x5C ∧ rest ≠ [] then
          if rest.head? = some c then likeMatch (rest.drop 1) cs else false
        else if c = pc then likeMatch rest cs
        else false
termination_by pattern.length
decreasing_by
  · have hlength := (List.dropWhile_suffix (· = (0x25 : UInt8)) : _ <:+ rest).length_le
    simp only [List.length_cons]
    omega
  · simp
  · have hlength := (likeSet_drop_suffix c rest).length_le
    simp only [List.length_cons]
    omega
  · simp only [List.length_drop, List.length_cons]
    omega
  · simp

/-! ## Elements -/

/-- The evaluation of one element: it asks for other elements by index. -/
abbrev ElementPlan := Interact UInt32 fun _ => Bool

def whereMaxDepth : Nat := 8

namespace WhereClause

/-- `filter->elements[element_index]` below `element_count`. -/
def element? (clause : WhereClause) (index : Nat) : Option WhereElement :=
  if index < clause.elementCount.toNat then clause.elements[index]? else none

/-- `filter->operands[el->operand_base + j]`; a cell that was not written is zero. -/
def operand (clause : WhereClause) (el : WhereElement) (j : Nat) : WhereOperand :=
  (clause.operands[el.operandBase.toNat + j]?).getD WhereOperand.zero

def operandsOf (clause : WhereClause) (el : WhereElement) : List WhereOperand :=
  (List.range el.operandCount.toNat).map (clause.operand el)

end WhereClause

section

variable (double : DoubleOps) (clause : WhereClause) (fields : EventFields)

def resolveOperand (op : WhereOperand) : ElementPlan EvalValue :=
  match op.kind with
  | .attribute => pure (readEventField fields op.field)
  | .literal => pure (readLiteralValue clause op)
  | .element => do
    let value ← Interact.question op.elementIndex
    pure (.int (if value then 1 else 0))
  | .unsupported => pure .null

def operandTruthy (op : WhereOperand) : ElementPlan Bool :=
  if op.kind = .element then Interact.question op.elementIndex
  else do
    match ← resolveOperand clause fields op with
    | .int i => pure (i ≠ 0)
    | _ => pure false

/-- `MU_OP_EQUALS` and the order operators: both operands, then a test of their comparison. -/
def comparePlan (test : Option Ordering → Bool) (a b : WhereOperand) : ElementPlan Bool := do
  let a ← resolveOperand clause fields a
  let b ← resolveOperand clause fields b
  pure (test (valueCompare double a b))

/-- The loop of `MU_OP_INLIST`. -/
def inListPlan (x : EvalValue) : List WhereOperand → ElementPlan Bool
  | [] => pure false
  | op :: ops => do
    let y ← resolveOperand clause fields op
    if valueCompare double x y = some .eq then pure true else inListPlan x ops

/-- The switch of `eval_element`. -/
def elementPlan (el : WhereElement) : ElementPlan Bool :=
  let op (j : Nat) := clause.operand el j
  let n := el.operandCount.toNat
  match el.op.toNat with
  | 10 => if 2 ≤ n then do
      if ← operandTruthy clause fields (op 0) then operandTruthy clause fields (op 1) else pure false
    else pure false
  | 11 => if 2 ≤ n then do
      if ← operandTruthy clause fields (op 0) then pure true else operandTruthy clause fields (op 1)
    else pure false
  | 7 => if 1 ≤ n then do
      let value ← operandTruthy clause fields (op 0)
      pure !value
    else pure false
  | 1 => if 1 ≤ n then do
      match ← resolveOperand clause fields (op 0) with
      | .null => pure true
      | _ => pure false
    else pure false
  | 0 => if 2 ≤ n then comparePlan double clause fields (· = some .eq) (op 0) (op 1) else pure false
  | 2 => if 2 ≤ n then comparePlan double clause fields (· = some .gt) (op 0) (op 1) else pure false
  | 3 => if 2 ≤ n then comparePlan double clause fields (· = some .lt) (op 0) (op 1) else pure false
  | 4 => if 2 ≤ n then
      comparePlan double clause fields (fun c => c = some .gt ∨ c = some .eq) (op 0) (op 1)
    else pure false
  | 5 => if 2 ≤ n then
      comparePlan double clause fields (fun c => c = some .lt ∨ c = some .eq) (op 0) (op 1)
    else pure false
  | 8 => if 3 ≤ n then do
      let x ← resolveOperand clause fields (op 0)
      let lo ← resolveOperand clause fields (op 1)
      let hi ← resolveOperand clause fields (op 2)
      let cl := valueCompare double x lo
      let ch := valueCompare double x hi
      pure ((cl = some .gt ∨ cl = some .eq) ∧ (ch = some .lt ∨ ch = some .eq))
    else pure false
  | 9 => if 2 ≤ n then do
      let x ← resolveOperand clause fields (op 0)
      inListPlan double clause fields x ((clause.operandsOf el).drop 1)
    else pure false
  | 6 => if 2 ≤ n then do
      let a ← resolveOperand clause fields (op 0)
      let b ← resolveOperand clause fields (op 1)
      match a, b with
      | .string s, .string pattern => pure (likeMatch pattern s)
      | _, _ => pure false
    else pure false
  | 14 => if 1 ≤ n then do
      let b ← resolveOperand clause fields (op 0)
      match readEventField fields 1, b with
      | .nodeId a, .nodeId b => pure (nodeidEqual a b)
      | _, _ => pure false
    else pure false
  | _ => pure false

/-- `eval_element` with `room` calls left until the depth is more than `MU_WHERE_MAX_DEPTH`. -/
def evalElement : (room index : Nat) → Bool
  | 0, _ => false
  | room + 1, index =>
    match clause.element? index with
    | none => false
    | some el => (elementPlan double clause fields el).run fun q => evalElement room q.toNat

/-- `mu_where_clause_eval` with a filter that is not NULL. -/
def whereClauseEval : Bool :=
  if clause.elementCount = 0 then true
  else evalElement double clause fields (whereMaxDepth + 1) 0

end

end MucOpcua
