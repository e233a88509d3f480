import MucOpcua.History.Memstore
import MucOpcua.Subscription.Sampling

/-!
# HistoryRead

`history_handler.c`: the raw points that the adapter delivers for a node, and the aggregates that
`compute_history_aggregate` forms of them.
-/

namespace MucOpcua

/-! ## Aggregates -/

/-- The binary64 operations of the aggregates, on bit patterns. `ofArray` is what the numeric member
of the value union reads as when the union holds an array pointer. -/
structure AggregateOps extends DoubleOps where
  add : UInt64 → UInt64 → UInt64
  sqrt : UInt64 → UInt64
  eq : UInt64 → UInt64 → Bool
  ofArray : Variant → UInt64

def aggregateStatusIsBad (status : StatusCode) : Bool := status &&& 0xC0000000 = 0x80000000

/-- The types that the switch of `variant_numeric_to_double_hist` knows. -/
def BuiltinType.isNumeric : BuiltinType → Bool
  | .sbyte | .byte | .int16 | .uint16 | .int32 | .uint32 | .int64 | .uint64 | .float | .double => true
  | _ => false

/-- `variant_numeric_to_double_hist`, which does not look at `is_array`. -/
def variantNumericToDoubleHist (double : AggregateOps) (value : Variant) : Option UInt64 :=
  if value.value.isArray then
    if value.type.isNumeric then some (double.ofArray value) else none
  else variantNumericToDouble double.toDoubleOps value

def usableValue (double : AggregateOps) (point : HistoricalDataPoint) : Option UInt64 :=
  if aggregateStatusIsBad point.status then none else variantNumericToDoubleHist double point.value

/-- The points that the loops of the aggregates take up, with their values as doubles. -/
def usableValues (double : AggregateOps) (points : List HistoricalDataPoint) :
    List (UInt64 × Variant) :=
  points.filterMap fun point => (usableValue double point).map fun val => (val, point.value)

namespace AggregateType

def interpolative : UInt32 := 2341
def average : UInt32 := 2342
def timeAverage : UInt32 := 2343
def total : UInt32 := 2344
def minimum : UInt32 := 2346
def maximum : UInt32 := 2347
def minimumActualTime : UInt32 := 2348
def maximumActualTime : UInt32 := 2349
def range : UInt32 := 2350
def annotationCount : UInt32 := 2351
def count : UInt32 := 2352
def numberOfTransitions : UInt32 := 2355
def start : UInt32 := 2357
def end_ : UInt32 := 2358
def delta : UInt32 := 2359
def durationGood : UInt32 := 2360
def durationBad : UInt32 := 2361
def percentGood : UInt32 := 2362
def percentBad : UInt32 := 2363
def worstQuality : UInt32 := 2364
def timeAverage2 : UInt32 := 11285
def minimum2 : UInt32 := 11286
def maximum2 : UInt32 := 11287
def range2 : UInt32 := 11288
def worstQuality2 : UInt32 := 11292
def total2 : UInt32 := 11304
def minimumActualTime2 : UInt32 := 11305
def maximumActualTime2 : UInt32 := 11306
def durationInStateZero : UInt32 := 11307
def durationInStateNonZero : UInt32 := 11308
def standardDeviationSample : UInt32 := 11426
def standardDeviationPopulation : UInt32 := 11427
def varianceSample : UInt32 := 11428
def variancePopulation : UInt32 := 11429
def startBound : UInt32 := 11505
def endBound : UInt32 := 11506
def deltaBounds : UInt32 := 11507

end AggregateType

abbrev AggregateResult := Variant × StatusCode

namespace AggregateResult

def ofDouble (d : UInt64) (found : Bool) : AggregateResult :=
  (⟨.double, .scalar d, 0⟩, if found then Status.good else Status.badNoData.val)

def ofCount (count : Nat) : AggregateResult := (⟨.int64, .scalar (Int64.ofNat count), 0⟩, Status.good)

def ofValue : Option Variant → AggregateResult
  | some value => (value, Status.good)
  | none => (Variant.zero, Status.badNoData.val)

end AggregateResult

open AggregateResult

/-! The loops of the aggregates. -/

def averageAggregate (double : AggregateOps) (vals : List (UInt64 × Variant)) : AggregateResult :=
  let sum := vals.foldl (fun sum val => double.add sum val.1) 0
  let count := vals.length
  ofDouble (if 0 < count then double.div sum (double.ofInt count) else 0) (0 < count)

def totalAggregate (double : AggregateOps) (vals : List (UInt64 × Variant)) : AggregateResult :=
  ofDouble (vals.foldl (fun total val => double.add total val.1) 0) (!vals.isEmpty)

def extremum (before : UInt64 → UInt64 → Bool) (vals : List (UInt64 × Variant)) :
    Option (UInt64 × Variant) :=
  vals.foldl (fun best val => match best with
    | none => some val
    | some kept => if before val.1 kept.1 then some val else best) none

def extremumDouble (before : UInt64 → UInt64 → Bool) (vals : List (UInt64 × Variant)) :
    AggregateResult :=
  match extremum before vals with
  | some (val, _) => ofDouble val true
  | none => ofDouble 0 false

def deltaAggregate (double : AggregateOps) (vals : List (UInt64 × Variant)) : AggregateResult :=
  match vals.head?, vals.getLast? with
  | some first, some last => ofDouble (double.sub last.1 first.1) true
  | _, _ => ofDouble 0 false

def rangeAggregate (double : AggregateOps) (vals : List (UInt64 × Variant)) : AggregateResult :=
  match extremum double.lt vals, extremum (fun a b => double.lt b a) vals with
  | some least, some greatest => ofDouble (double.sub greatest.1 least.1) true
  | _, _ => ofDouble 0 false

def worstQualityAggregate : List HistoricalDataPoint → AggregateResult
  | [] => (⟨.statusCode, .scalar (0 : UInt32), 0⟩, Status.good)
  | point :: points =>
    let worst := points.foldl (fun worst point =>
      if worst &&& 0xC0000000 < point.status &&& 0xC0000000 then point.status else worst) point.status
    (⟨.statusCode, .scalar worst, 0⟩, Status.good)

def durationAggregate (double : AggregateOps) (inState : HistoricalDataPoint → Bool)
    (points : List HistoricalDataPoint) : AggregateResult :=
  let duration := (points.zip points.tail).foldl (fun (duration : UInt64) (previous, point) =>
    if inState point ∧ inState previous ∧ previous.sourceTimestamp < point.sourceTimestamp then
      duration + (point.sourceTimestamp - previous.sourceTimestamp).toUInt64
    else duration) 0
  ofDouble (double.ofInt duration.toNat) true

/-- The literal `100.0`. -/
def hundred : UInt64 := 0x4059000000000000

def percentAggregate (double : AggregateOps) (counted : HistoricalDataPoint → Bool)
    (points : List HistoricalDataPoint) : AggregateResult :=
  ofDouble (if 0 < points.length then
    double.div (double.mul (double.ofInt (points.countP counted)) hundred)
      (double.ofInt points.length) else 0) true

def transitionsAggregate (double : AggregateOps) (vals : List (UInt64 × Variant)) :
    AggregateResult :=
  let (transitions, _) := vals.foldl (fun (transitions, lastWasZero) val =>
    let isZero := double.eq val.1 0
    if lastWasZero = some !isZero then (transitions + 1, some isZero) else (transitions, some isZero))
    ((0, none) : Nat × Option Bool)
  ofCount transitions

def deviations (double : AggregateOps) (vals : List (UInt64 × Variant)) : Nat × UInt64 × UInt64 :=
  vals.foldl (fun (count, mean, m2) val =>
    let delta := double.sub val.1 mean
    let mean := double.add mean (double.div delta (double.ofInt (count + 1 : Nat)))
    (count + 1, mean, double.add m2 (double.mul delta (double.sub val.1 mean)))) (0, 0, 0)

/-- `less` is 1 for a sample and 0 for a population. -/
def varianceAggregate (double : AggregateOps) (less : Nat) (root : UInt64 → UInt64)
    (vals : List (UInt64 × Variant)) : AggregateResult :=
  let (count, _, m2) := deviations double vals
  ofDouble (if less < count then root (double.div m2 (double.ofInt (count - less : Nat))) else 0)
    (less < count)

open AggregateType in
/-- `compute_history_aggregate`, which always returns Good. -/
def computeHistoryAggregate (double : AggregateOps) (points : List HistoricalDataPoint)
    (aggregateType : UInt32) : AggregateResult :=
  let vals := usableValues double points
  let bad (point : HistoricalDataPoint) := aggregateStatusIsBad point.status
  let zero (point : HistoricalDataPoint) := (usableValue double point).map (double.eq · 0)
  if points.isEmpty then (Variant.zero, Status.badNoData.val)
  else if aggregateType = average then averageAggregate double vals
  else if aggregateType = minimum then ofValue ((extremum double.lt vals).map Prod.snd)
  else if aggregateType = maximum then
    ofValue ((extremum (fun a b => double.lt b a) vals).map Prod.snd)
  else if aggregateType = count then ofCount vals.length
  else if aggregateType = start ∨ aggregateType = startBound then
    ofValue (vals.head?.map Prod.snd)
  else if aggregateType = end_ ∨ aggregateType = endBound then
    ofValue (vals.getLast?.map Prod.snd)
  else if aggregateType = delta ∨ aggregateType = deltaBounds then deltaAggregate double vals
  else if aggregateType = range ∨ aggregateType = range2 then rangeAggregate double vals
  else if aggregateType = timeAverage ∨ aggregateType = timeAverage2 then
    averageAggregate double vals
  else if aggregateType = total ∨ aggregateType = total2 then totalAggregate double vals
  else if aggregateType = minimum2 then extremumDouble double.lt vals
  else if aggregateType = maximum2 then extremumDouble (fun a b => double.lt b a) vals
  else if aggregateType = worstQuality ∨ aggregateType = worstQuality2 then
    worstQualityAggregate points
  else if aggregateType = durationGood then
    durationAggregate double (fun point => !bad point) points
  else if aggregateType = durationBad then durationAggregate double bad points
  else if aggregateType = durationInStateZero then
    durationAggregate double (fun point => zero point = some true) points
  else if aggregateType = durationInStateNonZero then
    durationAggregate double (fun point => zero point = some false) points
  else if aggregateType = percentGood then
    percentAggregate double (fun point => !bad point) points
  else if aggregateType = percentBad then percentAggregate double bad points
  else if aggregateType = minimumActualTime ∨ aggregateType = minimumActualTime2 then
    ofValue ((extremum double.lt vals).map Prod.snd)
  else if aggregateType = maximumActualTime ∨ aggregateType = maximumActualTime2 then
    ofValue ((extremum (fun a b => double.lt b a) vals).map Prod.snd)
  else if aggregateType = numberOfTransitions then transitionsAggregate double vals
  else if aggregateType = standardDeviationSample then varianceAggregate double 1 double.sqrt vals
  else if aggregateType = varianceSample then varianceAggregate double 1 id vals
  else if aggregateType = standardDeviationPopulation then
    varianceAggregate double 0 double.sqrt vals
  else if aggregateType = variancePopulation then varianceAggregate double 0 id vals
  else if aggregateType = interpolative then
    ofValue ((points.filter fun point => !bad point).getLast?.map HistoricalDataPoint.value)
  else if aggregateType = annotationCount then ofCount vals.length
  else (Variant.zero, Status.badHistoryOperationUnsupported.val)

/-! ## The service -/

/-- `read_raw_modified` of an adapter: node, `is_read_modified`, times, `num_values_per_node`,
`return_bounds`, continuation point, whether one is wanted, and the size of the page. -/
abbrev ReadRawModified :=
  NodeId → Bool → Int64 → Int64 → UInt32 → Bool → Option (List UInt8) → Bool → Nat → RawRead

def memstoreAdapter (s : Memstore) : ReadRawModified :=
  fun _ _ startTime endTime numValuesPerNode _ cpIn wantsCp maxDataPoints =>
    memstoreReadRawModified s startTime endTime numValuesPerNode cpIn wantsCp maxDataPoints

structure ReadRawModifiedDetails where
  isReadModified : Bool
  startTime : Int64
  endTime : Int64
  numValuesPerNode : UInt32
  returnBounds : Bool

structure ReadProcessedDetails where
  startTime : Int64
  endTime : Int64
  processingInterval : UInt64
  aggregateTypes : List UInt32

inductive HistoryReadDetails where
  | rawModified (details : ReadRawModifiedDetails)
  | processed (details : ReadProcessedDetails)

/-- `mu_history_read_value_id_t`, as far as the handler uses it. -/
structure HistoryReadValueId where
  nodeId : NodeId
  continuationPoint : Option (List UInt8)

structure HistoryReadRequest where
  details : HistoryReadDetails
  nodesToRead : List HistoryReadValueId

structure HistoryReadResult where
  statusCode : StatusCode
  continuationPoint : Option (List UInt8)
  dataValues : List DataValue

def maxHistoryDataPoints : Nat := 10

/-- `MU_MAX_HISTORY_READ_CONTINUATION_POINT_LENGTH`. -/
def maxContinuationPointLength : Nat := 32

def HistoricalDataPoint.toDataValue (point : HistoricalDataPoint) : DataValue :=
  ⟨some point.value, some point.status, some point.sourceTimestamp, none, some point.serverTimestamp,
    none⟩

/-- One round of the loop of `handle_history_read`. -/
def historyReadNode (double : AggregateOps) (readRawModified : Option ReadRawModified)
    (details : HistoryReadDetails) (node : HistoryReadValueId) : HistoryReadResult :=
  match readRawModified with
  | none => ⟨Status.badHistoryOperationUnsupported.val, none, []⟩
  | some read =>
    match details with
    | .rawModified d =>
      let raw := read node.nodeId d.isReadModified d.startTime d.endTime d.numValuesPerNode
        d.returnBounds node.continuationPoint true maxHistoryDataPoints
      if raw.status = Status.good then
        ⟨raw.status,
          if 0 < raw.cpOut.length ∧ raw.cpOut.length ≤ maxContinuationPointLength then some raw.cpOut
          else none,
          raw.dataPoints.map HistoricalDataPoint.toDataValue⟩
      else ⟨raw.status, none, []⟩
    | .processed d =>
      let raw := read node.nodeId false d.startTime d.endTime 0 false none false maxHistoryDataPoints
      if raw.status = Status.good then
        let (value, status) := computeHistoryAggregate double raw.dataPoints
          (d.aggregateTypes.headD AggregateType.average)
        ⟨raw.status, none, [⟨some value, some status, none, none, none, none⟩]⟩
      else ⟨raw.status, none, []⟩

/-- The results of `handle_history_read`. -/
def handleHistoryRead (double : AggregateOps) (readRawModified : Option ReadRawModified)
    (req : HistoryReadRequest) : List HistoryReadResult :=
  req.nodesToRead.map (historyReadNode double readRawModified req.details)

end MucOpcua
