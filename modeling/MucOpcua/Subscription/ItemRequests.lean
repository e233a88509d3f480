import MucOpcua.Subscription.Table

/-!
# What a request says about a monitored item

`filter_reader.c` without the event filter, the decoders of `subscription_helpers.c` and
`monitored_items.c`, and what is made of a decoded request: the checks on a new item and the
configuration of its slot.
-/

namespace MucOpcua

variable {ω κ : Type}

/-! ## Intervals -/

/-- `publishing_interval_bits_to_ms`: from 50 to 60000 ms. -/
def publishingIntervalBitsToMs (bits : UInt64) : UInt32 :=
  if bits &&& 0x8000000000000000 ≠ 0 ∨ bits < 0x4049000000000000 then 50
  else if 0x40ed4c0000000000 < bits then 60000
  else
    let exponent := (bits >>> 52) &&& 0x7FF
    let mantissa := 0x0010000000000000 ||| (bits &&& 0x000FFFFFFFFFFFFF)
    let unbiased := exponent - 1023
    if 52 ≤ unbiased then (mantissa <<< (unbiased - 52)).toUInt32
    else (mantissa >>> (52 - unbiased)).toUInt32

/-- `publishing_interval_ms_to_bits`; the loop finds the place of the leading bit. -/
def publishingIntervalMsToBits (intervalMs : UInt32) : UInt64 :=
  let exponent := UInt64.ofNat intervalMs.toNat.log2
  let leading : UInt64 := 1 <<< exponent
  let fraction := (intervalMs.toUInt64 - leading) <<< (52 - exponent)
  ((exponent + 1023) <<< 52) ||| fraction

/-! ## Filters -/

/-- The filter fields of `mu_monitored_item_create_body_t`. -/
structure FilterBody where
  trigger : UInt8
  deadbandType : UInt8
  deadbandValue : UInt64
  filterResult : StatusCode
  hasDatachangeFilter : Bool
  hasAggregate : Bool
  aggregateType : UInt32
  processingInterval : UInt64
  selectClauses : List UInt8
  whereClause : WhereClause

/-- The defaults; what an event filter would fill in is what the stack holds. -/
def FilterBody.start (leftover : EventFilterBody) : FilterBody where
  trigger := datachangeTriggerStatusValue
  deadbandType := deadbandTypeNone
  deadbandValue := 0
  filterResult := Status.good
  hasDatachangeFilter := false
  hasAggregate := false
  aggregateType := 0
  processingInterval := 0
  selectClauses := leftover.selectClauses
  whereClause := leftover.whereClause

/-- `is_datachange_filter_binary_type`, `is_aggregate_filter_binary_type`,
`is_event_filter_binary_type` and `is_null_extension_object_type`. -/
def isDatachangeFilterBinaryType (typeId : NodeId) : Bool := typeId = numericNodeId 724
def isAggregateFilterBinaryType (typeId : NodeId) : Bool := typeId = numericNodeId 730
def isEventFilterBinaryType (typeId : NodeId) : Bool := typeId = numericNodeId 727
def isNullExtensionObjectType (typeId : NodeId) (length : Nat) : Bool :=
  typeId = numericNodeId 0 ∧ length = 0

def isKnownMonitoringFilterBinaryType (typeId : NodeId) (length : Nat) : Bool :=
  isNullExtensionObjectType typeId length || isDatachangeFilterBinaryType typeId ||
    isAggregateFilterBinaryType typeId || isEventFilterBinaryType typeId

def FilterBody.setDatachangeTriggerFromWire (filter : FilterBody) (trigger : UInt32) : FilterBody :=
  if trigger = 0 then { filter with trigger := datachangeTriggerStatus }
  else if trigger = 1 then { filter with trigger := datachangeTriggerStatusValue }
  else if trigger = 2 then { filter with trigger := datachangeTriggerStatusValueTimestamp }
  else { filter with filterResult := Status.badMonitoredItemFilterInvalid.val }

/-- The deadband of a data change filter; a percentage is from 0.0 to 100.0. -/
def FilterBody.setDeadband (double : DoubleOps) (filter : FilterBody) (deadbandType : UInt32)
    (deadbandValue : UInt64) : FilterBody :=
  if deadbandType = 0 then { filter with deadbandType := deadbandTypeNone, deadbandValue := 0 }
  else if deadbandType = 1 then { filter with deadbandType := deadbandTypeAbsolute, deadbandValue }
  else if deadbandType = 2 then
    { filter with
      deadbandType := deadbandTypePercent
      deadbandValue
      filterResult :=
        if filter.filterResult = Status.good ∧
            (double.lt deadbandValue 0 ∨ double.lt 0x4059000000000000 deadbandValue) then
          Status.badDeadbandFilterInvalid.val
        else filter.filterResult }
  else { filter with filterResult := Status.badMonitoredItemFilterInvalid.val }

def ensureFilterBytes (filterLength : Nat) : ReadM Unit := do
  let reader ← get
  if reader.length < reader.position ∨ reader.length - reader.position < filterLength then
    throw Status.badDecodingError

def readDatachangeFilterBody (double : DoubleOps) (filterLength : Nat) (filter : FilterBody) :
    ReadM FilterBody :=
  if filterLength = 0 then pure filter
  else if filterLength ≠ 16 then throw Status.badDecodingError
  else do
    ensureFilterBytes filterLength
    let trigger ← binaryReadUint32
    let deadbandType ← binaryReadUint32
    let deadbandValue ← binaryReadDouble
    return (filter.setDatachangeTriggerFromWire trigger).setDeadband double deadbandType
      deadbandValue

/-- `read_aggregate_filter_body`; the start time and the configuration are not used. -/
def readAggregateFilterBody (cfg : EngineConfig ω κ) (filterLength : Nat) (filter : FilterBody) :
    ReadM FilterBody :=
  if filterLength = 0 then
    pure { filter with filterResult := Status.badDecodingError.val }
  else do
    ensureFilterBytes filterLength
    let _ ← binaryReadInt64
    let aggregateType ← binaryReadNodeid
    let processingInterval ← binaryReadDouble
    let _ ← binaryReadBoolean
    let _ ← binaryReadBoolean
    let _ ← binaryReadByte
    let _ ← binaryReadByte
    let _ ← binaryReadBoolean
    let filter := { filter with hasAggregate := true, processingInterval }
    match aggregateType with
    | ⟨0, .numeric aggregateType⟩ =>
      let filter := { filter with aggregateType }
      if cfg.aggregateTypeSupported aggregateType = false then
        return { filter with filterResult := Status.badMonitoredItemFilterUnsupported.val }
      else if cfg.double.le processingInterval 0 then
        return { filter with filterResult := Status.badFilterNotAllowed.val }
      else return filter
    | _ => return { filter with filterResult := Status.badMonitoredItemFilterUnsupported.val }

def readExactly {α : Type} (length : Nat) (decode : ReadM α) : ReadM α := do
  let start := (← get).position
  let a ← decode
  if (← get).position ≠ start + length then throw Status.badDecodingError
  return a

def readCreateFilter (cfg : EngineConfig ω κ) (filter : FilterBody) : ReadM FilterBody := do
  let (filterType, filterLength) ← binaryReadExtensionObjectHeader
  ensureReaderBytesRemaining filterLength
  if isDatachangeFilterBinaryType filterType then
    readExactly filterLength (readDatachangeFilterBody cfg.double filterLength
      { filter with hasDatachangeFilter := true })
  else if isAggregateFilterBinaryType filterType then
    readExactly filterLength (readAggregateFilterBody cfg filterLength filter)
  else if isEventFilterBinaryType filterType then
    let event ← readExactly filterLength (readEventFilterBody cfg.filterCaps cfg.profile)
    return { filter with
      selectClauses := event.selectClauses
      whereClause := event.whereClause
      filterResult := event.filterResult }
  else if isNullExtensionObjectType filterType filterLength then return filter
  else
    skipExtensionObjectBody filterLength
    return { filter with filterResult := Status.badMonitoredItemFilterUnsupported.val }

/-- What `read_modify_item_filter` finds out. -/
structure ModifyFilter where
  filter : FilterBody
  filterResult : StatusCode
  hasDatachangeFilter : Bool
  hasAggregateFilter : Bool

def readModifyItemFilter (cfg : EngineConfig ω κ) (filter : FilterBody) : ReadM ModifyFilter := do
  let (filterType, filterLength) ← binaryReadExtensionObjectHeader
  ensureReaderBytesRemaining filterLength
  if isDatachangeFilterBinaryType filterType then
    let filter ← readExactly filterLength (readDatachangeFilterBody cfg.double filterLength
      { filter with hasDatachangeFilter := true })
    return ⟨filter, filter.filterResult, true, false⟩
  else if isAggregateFilterBinaryType filterType then
    let filter ← readExactly filterLength (readAggregateFilterBody cfg filterLength filter)
    return ⟨filter, filter.filterResult, false, true⟩
  else
    skipExtensionObjectBody filterLength
    return ⟨filter,
      if isKnownMonitoringFilterBinaryType filterType filterLength then Status.good
      else Status.badMonitoredItemFilterUnsupported.val, false, false⟩

/-! ## New items -/

structure CreateBody where
  nodeId : NodeId
  attributeId : UInt32
  monitoringMode : UInt32
  clientHandle : UInt32
  samplingIntervalBits : UInt64
  indexRangeStart : Int32
  indexRangeEnd : Int32
  filter : FilterBody
  queueSize : UInt32
  discardOldest : Bool

/-- The IndexRange of a request: -1 is none and -2 one that does not parse. -/
def requestedIndexRange (indexRange : MuString) : Int32 × Int32 :=
  if 0 < indexRange.length then (parseNumericRange indexRange).getD (-2, -1) else (-1, -1)

def readMonitoredItemCreateBody (cfg : EngineConfig ω κ) (leftover : EventFilterBody) :
    ReadM CreateBody := do
  let nodeId ← binaryReadNodeid
  let attributeId ← binaryReadUint32
  let indexRange ← binaryReadString
  let (indexRangeStart, indexRangeEnd) := requestedIndexRange indexRange
  let _ ← binaryReadUint16
  let _ ← binaryReadString
  let monitoringMode ← binaryReadUint32
  let clientHandle ← binaryReadUint32
  let samplingIntervalBits ← binaryReadUint64
  let filter ← readCreateFilter cfg (FilterBody.start leftover)
  let queueSize ← binaryReadUint32
  let discardOldest ← binaryReadBoolean
  return { nodeId, attributeId, monitoringMode, clientHandle, samplingIntervalBits,
           indexRangeStart, indexRangeEnd, filter, queueSize, discardOldest }

def isNumericVariantType : BuiltinType → Bool
  | .sbyte | .byte | .int16 | .uint16 | .int32 | .uint32 | .int64 | .uint64 | .float | .double =>
    true
  | _ => false

def monitoredNodeHasNumericStaticValue (node : Node ω) : Bool :=
  match node.value with
  | some (.constant ⟨type, .scalar _, _⟩) => isNumericVariantType type
  | some (.constant ⟨_, .array .., _⟩) => false
  | _ => true

def validateCreateItemFilter (cfg : EngineConfig ω κ) (world : ω) (body : CreateBody)
    (node : Node ω) : StatusCode :=
  let filter := body.filter
  if filter.filterResult ≠ Status.good then filter.filterResult
  else if filter.hasDatachangeFilter ∧ body.attributeId ≠ 13 then Status.badFilterNotAllowed.val
  else if filter.deadbandType = deadbandTypeAbsolute ∧
      monitoredNodeHasNumericStaticValue node = false then
    Status.badMonitoredItemFilterUnsupported.val
  else if filter.deadbandType = deadbandTypePercent ∧ cfg.eurangeSpan world node = none then
    Status.badDeadbandFilterInvalid.val
  else if filter.hasAggregate ∧ monitoredNodeHasNumericStaticValue node = false then
    Status.badFilterNotAllowed.val
  else Status.good

/-- `resolve_and_validate_create_item`: the node, or the result that is written for the item. -/
def resolveAndValidateCreateItem (cfg : EngineConfig ω κ) (world : ω) (body : CreateBody) :
    Except StatusCode (Node ω) :=
  match cfg.resolveNode world body.nodeId with
  | none => .error Status.badNodeIdUnknown.val
  | some node =>
    if body.indexRangeStart = -2 then .error Status.badIndexRangeInvalid.val
    else if validateCreateItemFilter cfg world body node ≠ Status.good then
      .error (validateCreateItemFilter cfg world body node)
    else if body.attributeId ≠ 13 ∧ body.attributeId ≠ 12 then
      .error Status.badAttributeIdInvalid.val
    else .ok node

/-- `copy_monitored_node_id`: a String identifier is cut to `MU_MAX_MONITORED_STRING` bytes. -/
def copyMonitoredNodeId (nodeId : NodeId) : NodeId :=
  match nodeId.identifier with
  | .string s =>
    if h : 0 < s.length then ⟨nodeId.namespaceIndex, .string (MuString.ofBytes (s.bytes.take 32))⟩
    else ⟨nodeId.namespaceIndex, .string ⟨s.length, none, by simp, fun hpos => absurd hpos h⟩⟩
  | _ => nodeId

def AggregateState.configured (cfg : EngineConfig ω κ) (state : AggregateState κ)
    (filter : FilterBody) (nowMs : UInt64) : AggregateState κ :=
  { state with
    aggregateType := filter.aggregateType
    processingInterval := filter.processingInterval
    lastCalculation := nowMs
    sampleCount := 0
    accumulator := cfg.zeroAccumulator }

/-- The fields `configure_monitored_item` sets before the first value is read. -/
def MonitoredItem.configured (cfg : EngineConfig ω κ) (world : ω) (item : MonitoredItem ω κ)
    (body : CreateBody) (node : Node ω) (sub : Subscription) (timestampsToReturn : UInt32)
    (nowMs : UInt64) : MonitoredItem ω κ :=
  let filter := body.filter
  let samplingIntervalMs :=
    if body.samplingIntervalBits &&& 0x8000000000000000 ≠ 0 then sub.publishingIntervalMs
    else publishingIntervalBitsToMs body.samplingIntervalBits
  { item with
    nodeId := copyMonitoredNodeId body.nodeId
    resolvedNode := some node
    attributeId := body.attributeId
    indexRangeStart := if 0 ≤ body.indexRangeStart.toInt then body.indexRangeStart else -1
    indexRangeEnd := body.indexRangeEnd
    clientHandle := body.clientHandle
    monitoringMode := body.monitoringMode.toUInt8
    timestampsToReturn := timestampsToReturn.toUInt8
    samplingIntervalMs
    nextSampleMs := nowMs + samplingIntervalMs.toUInt64
    hasValue := false
    pending := false
    selectClauses := filter.selectClauses
    whereClause := filter.whereClause
    trigger := filter.trigger
    deadbandType := filter.deadbandType
    deadbandValue := filter.deadbandValue
    deadbandSpan :=
      if filter.deadbandType = deadbandTypePercent then (cfg.eurangeSpan world node).getD 0 else 0
    queue := { item.queue with
      size := clampQueueSize cfg.caps body.queueSize.toNat
      head := 0
      tail := 0
      count := 0
      discardOldest := body.discardOldest
      overflow := false }
    hasAggregate := filter.hasAggregate
    aggregateState :=
      if filter.hasAggregate then item.aggregateState.configured cfg filter nowMs
      else item.aggregateState }

/-- The first value of a configured item, read under the NodeId of the request. -/
def MonitoredItem.readFirstValue (item : MonitoredItem ω κ) (body : CreateBody) (node : Node ω)
    (world : ω) : MonitoredItem ω κ × ω :=
  match node.value with
  | none => (item, world)
  | some source =>
    if body.attributeId = 12 then (item, world)
    else
      let (read, world) := valueSourceRead source world body.nodeId
      let (lastStatus, lastValue) := item.applyIndexRange read
      ({ item with
        lastStatus
        lastValue
        hasValue := decide (lastStatus = Status.good)
        pending := decide (lastStatus = Status.good) }, world)

def configureMonitoredItem (cfg : EngineConfig ω κ) (world : ω) (item : MonitoredItem ω κ)
    (body : CreateBody) (node : Node ω) (sub : Subscription) (timestampsToReturn : UInt32)
    (nowMs : UInt64) : MonitoredItem ω κ × ω :=
  (item.configured cfg world body node sub timestampsToReturn nowMs).readFirstValue body node world

/-! ## Changes of an item -/

structure ModifyBody where
  monitoredItemId : UInt32
  clientHandle : UInt32
  samplingIntervalBits : UInt64
  filter : ModifyFilter
  queueSize : UInt32
  discardOldest : Bool

/-- The reads at the head of the loop of `handle_modify_monitored_items`. The clauses of an event
filter are not looked at. -/
def readModifyBody (cfg : EngineConfig ω κ) : ReadM ModifyBody := do
  let monitoredItemId ← binaryReadUint32
  let clientHandle ← binaryReadUint32
  let samplingIntervalBits ← binaryReadUint64
  let filter ← readModifyItemFilter cfg (FilterBody.start ⟨[], WhereClause.empty, Status.good⟩)
  let queueSize ← binaryReadUint32
  let discardOldest ← binaryReadBoolean
  return { monitoredItemId, clientHandle, samplingIntervalBits, filter, queueSize, discardOldest }

/-- `apply_modify_item_filters` where the time is known. -/
def MonitoredItem.applyModifyItemFilters (cfg : EngineConfig ω κ) (item : MonitoredItem ω κ)
    (modify : ModifyFilter) (nowMs : UInt64) : MonitoredItem ω κ :=
  let item :=
    if modify.hasDatachangeFilter then
      { item with
        trigger := modify.filter.trigger
        deadbandType := modify.filter.deadbandType
        deadbandValue := modify.filter.deadbandValue }
    else item
  if modify.hasAggregateFilter then
    { item with
      hasAggregate := true
      aggregateState := item.aggregateState.configured cfg modify.filter nowMs }
  else item

/-- The fields `apply_modify_item_fields` sets before the filters. -/
def MonitoredItem.applyModifyItemFields (cfg : EngineConfig ω κ) (item : MonitoredItem ω κ)
    (body : ModifyBody) (timestampsToReturn : UInt32) : MonitoredItem ω κ :=
  { item with
    samplingIntervalMs := publishingIntervalBitsToMs body.samplingIntervalBits
    clientHandle := body.clientHandle
    timestampsToReturn := timestampsToReturn.toUInt8
    queue := { item.queue with
      size := clampQueueSize cfg.caps body.queueSize.toNat
      discardOldest := body.discardOldest } }

end MucOpcua
