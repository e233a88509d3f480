import MucOpcua.AddressSpace.Lookup
import MucOpcua.Lib.Slotwise
import MucOpcua.Subscription.MonitorQueue

/-!
# Sampling

The rest of `subscription_monitor.c`, the IndexRange functions of `read_attribute.c`, the head of
`monitored_item_publish_aggregate` and the sampling loop of `mu_subscriptions_tick`: how the values
of monitored items come into their queues.
-/

namespace MucOpcua

variable {ω κ : Type}

/-! ## Values -/

def valueSourceRead (source : ValueSource ω) (world : ω) (nodeId : NodeId) :
    (StatusCode × Variant) × ω :=
  match source with
  | .constant ⟨.string, .scalar v, ext⟩ =>
    -- `MU_MAX_STRING_VALUE_LENGTH` bounds a single String only
    if 64 < MuString.length v then ((Status.badEncodingLimitsExceeded.val, Variant.zero), world)
    else ((Status.good, ⟨.string, .scalar v, ext⟩), world)
  | .constant value => ((Status.good, value), world)
  | .callback none => ((Status.badInternalError.val, Variant.zero), world)
  | .callback (some read) => read world nodeId

/-- Whether `variant_elem_size` knows the type. -/
def variantElemSizeKnown : BuiltinType → Bool
  | .boolean | .sbyte | .byte | .int16 | .uint16 | .int32 | .uint32 | .int64 | .uint64 | .float
  | .double | .string | .dateTime | .byteString | .nodeId | .expandedNodeId | .statusCode
  | .qualifiedName | .localizedText => true
  | _ => false

/-- `apply_numeric_index_range`; -1 as the end asks for one element. The array pointer of a value is
not NULL if there are elements. -/
def applyNumericIndexRange (value : Variant) (first last : Int32) : StatusCode × Variant :=
  match value with
  | ⟨type, .array length (some elements), ext⟩ =>
    if length ≤ 0 then (Status.good, value)
    else if first.toInt < 0 ∨ length ≤ first.toInt then (Status.badIndexRangeNoData.val, value)
    else if variantElemSizeKnown type = false then (Status.badInternalError.val, value)
    else if last = -1 then
      match elements.val[first.toInt.toNat]? with
      | some element => (Status.good, ⟨type, .scalar element, ext⟩)
      | none => (Status.good, value)
    else
      let last := if length ≤ last.toInt then length - 1 else last.toInt
      let slice := (elements.val.drop first.toInt.toNat).take (last - first.toInt + 1).toNat
      (Status.good, ⟨type, .array slice.length (some ⟨slice, by simp⟩), ext⟩)
  | _ => (Status.good, value)

/-- `parse_decimal_run` on the characters that are left. -/
def parseDecimalRun (chars : List UInt8) : Option (Int32 × List UInt8) :=
  let isDigit (c : UInt8) : Bool := 48 ≤ c ∧ c ≤ 57
  match chars with
  | [] => none
  | c :: _ =>
    if isDigit c then
      some ((chars.takeWhile isDigit).foldl (fun n c => n * 10 + (c - 48).toInt8.toInt32) 0,
        chars.dropWhile isDigit)
    else none

def parseNumericRange (range : MuString) : Option (Int32 × Int32) := do
  let (first, rest) ← parseDecimalRun range.bytes
  let (last, rest) ← match rest with
    | 58 :: rest => parseDecimalRun rest -- a colon
    | rest => some (-1, rest)
  if rest ≠ [] then none
  else if last ≠ -1 ∧ last ≤ first then none
  else some (first, last)

def scalarEqual (α : Type) [DecidableEq α] (x y : α) : Bool := decide (x = y)

/-- `variant_scalar_equal`; Float and Double are compared bit by bit. -/
def variantScalarEqual (a b : Variant) : Bool :=
  match a, b with
  | ⟨.boolean, .scalar x, _⟩, ⟨.boolean, .scalar y, _⟩ => scalarEqual Bool x y
  | ⟨.sbyte, .scalar x, _⟩, ⟨.sbyte, .scalar y, _⟩ => scalarEqual Int8 x y
  | ⟨.byte, .scalar x, _⟩, ⟨.byte, .scalar y, _⟩ => scalarEqual UInt8 x y
  | ⟨.int16, .scalar x, _⟩, ⟨.int16, .scalar y, _⟩ => scalarEqual Int16 x y
  | ⟨.uint16, .scalar x, _⟩, ⟨.uint16, .scalar y, _⟩ => scalarEqual UInt16 x y
  | ⟨.int32, .scalar x, _⟩, ⟨.int32, .scalar y, _⟩ => scalarEqual Int32 x y
  | ⟨.uint32, .scalar x, _⟩, ⟨.uint32, .scalar y, _⟩ => scalarEqual UInt32 x y
  | ⟨.int64, .scalar x, _⟩, ⟨.int64, .scalar y, _⟩ => scalarEqual Int64 x y
  | ⟨.uint64, .scalar x, _⟩, ⟨.uint64, .scalar y, _⟩ => scalarEqual UInt64 x y
  | ⟨.float, .scalar x, _⟩, ⟨.float, .scalar y, _⟩ => scalarEqual UInt32 x y
  | ⟨.double, .scalar x, _⟩, ⟨.double, .scalar y, _⟩ => scalarEqual UInt64 x y
  | ⟨.dateTime, .scalar x, _⟩, ⟨.dateTime, .scalar y, _⟩ => scalarEqual Int64 x y
  | _, _ => false

def variantNumericToDouble (double : DoubleOps) (value : Variant) : Option UInt64 :=
  match value with
  | ⟨.sbyte, .scalar v, _⟩ => some (double.ofInt (Int8.toInt v))
  | ⟨.byte, .scalar v, _⟩ => some (double.ofInt (UInt8.toNat v))
  | ⟨.int16, .scalar v, _⟩ => some (double.ofInt (Int16.toInt v))
  | ⟨.uint16, .scalar v, _⟩ => some (double.ofInt (UInt16.toNat v))
  | ⟨.int32, .scalar v, _⟩ => some (double.ofInt (Int32.toInt v))
  | ⟨.uint32, .scalar v, _⟩ => some (double.ofInt (UInt32.toNat v))
  | ⟨.int64, .scalar v, _⟩ => some (double.ofInt (Int64.toInt v))
  | ⟨.uint64, .scalar v, _⟩ => some (double.ofInt (UInt64.toNat v))
  | ⟨.float, .scalar v, _⟩ => some (doubleOfFloat v)
  | ⟨.double, .scalar v, _⟩ => some v
  | _ => none

namespace MonitoredItem

variable (cfg : EngineConfig ω κ)

/-! ## Reports -/

def recordReported (item : MonitoredItem ω κ) (cur : Variant) : MonitoredItem ω κ :=
  { item with
    lastReportedNumeric := (variantNumericToDouble cfg.double cur).getD item.lastReportedNumeric
    hasReported := true }

def enqueueReport (item : MonitoredItem ω κ) (cur : Variant) (status : StatusCode) :
    MonitoredItem ω κ :=
  let queue := item.queue.enqueue cfg.caps cur status
  { item.recordReported cfg cur with queue, pending := decide (0 < queue.count) }

def preparePendingQueue (item : MonitoredItem ω κ) : MonitoredItem ω κ :=
  if item.pending ∧ item.queue.count = 0 ∧ item.hasValue then
    item.enqueueReport cfg item.lastValue item.lastStatus
  else if item.hasValue ∧ item.hasReported = false then item.recordReported cfg item.lastValue
  else item

/-- `monitored_item_change_reportable`; 100.0 is `0x4059000000000000`. -/
def changeReportable (item : MonitoredItem ω κ) (cur : Variant) (status : StatusCode) : Bool :=
  if item.hasReported = false ∨ status ≠ item.lastStatus then true
  else
    match variantNumericToDouble cfg.double cur,
        variantNumericToDouble cfg.double item.lastValue with
    | some numeric, some _ =>
      let diff := cfg.double.sub numeric item.lastReportedNumeric
      let diff := if cfg.double.lt diff 0 then cfg.double.neg diff else diff
      if item.deadbandType = deadbandTypeAbsolute then cfg.double.le item.deadbandValue diff
      else if item.deadbandType = deadbandTypePercent then
        cfg.double.le
          (cfg.double.mul (cfg.double.div item.deadbandValue 0x4059000000000000)
            item.deadbandSpan) diff
      else cfg.double.lt 0 diff
    | _, _ => true

def sampleChanged (item : MonitoredItem ω κ) (cur : Variant) (status : StatusCode) : Bool :=
  if item.trigger = datachangeTriggerStatus then status ≠ item.lastStatus
  else status ≠ item.lastStatus ∨ variantScalarEqual cur item.lastValue = false

def applyIndexRange (item : MonitoredItem ω κ) (read : StatusCode × Variant) :
    StatusCode × Variant :=
  if read.1 = Status.good ∧ 0 ≤ item.indexRangeStart.toInt then
    applyNumericIndexRange read.2 item.indexRangeStart item.indexRangeEnd
  else read

/-- `read_monitored_item_value`. -/
def readValue (item : MonitoredItem ω κ) (world : ω) : (StatusCode × Variant) × ω :=
  match item.resolvedNode.bind Node.value with
  | none => ((Status.badNodeIdUnknown.val, Variant.zero), world)
  | some source =>
    let (read, world) := valueSourceRead source world item.nodeId
    (item.applyIndexRange read, world)

/-! ## The sample timer -/

def addIntervals (interval : UInt64) : Nat → UInt64 → UInt64
  | 0, time => time
  | n + 1, time =>
    if 0xFFFFFFFFFFFFFFFF - interval < time then 0xFFFFFFFFFFFFFFFF
    else addIntervals interval n (time + interval)

/-- How many intervals are in `elapsed`, at most the given number. -/
def elapsedSteps (interval : UInt64) : Nat → UInt64 → Nat
  | 0, _ => 0
  | n + 1, elapsed =>
    if interval ≤ elapsed then elapsedSteps interval n (elapsed - interval) + 1 else 0

def advanceSampleTimer (item : MonitoredItem ω κ) (nowMs : UInt64) : MonitoredItem ω κ :=
  let interval := if item.samplingIntervalMs = 0 then 1 else item.samplingIntervalMs.toUInt64
  if item.nextSampleMs ≤ nowMs then
    let steps := elapsedSteps interval 10 (nowMs - item.nextSampleMs)
    { item with nextSampleMs := addIntervals interval (steps + 1) item.nextSampleMs }
  else item

/-! ## Aggregates -/

def publishAggregate (item : MonitoredItem ω κ) (nowMs : UInt64) : MonitoredItem ω κ :=
  let (status, value) :=
    if item.aggregateState.sampleCount = 0 then
      if item.hasValue then (item.lastStatus, item.lastValue)
      else (Status.badNoData.val, Variant.zero)
    else cfg.aggregateValue item.aggregateState nowMs
  let item := item.enqueueReport cfg value status
  { item with
    aggregateState := { item.aggregateState with
      sampleCount := 0, accumulator := cfg.zeroAccumulator, lastCalculation := nowMs } }

/-! ## One sample -/

def hasReport (item : MonitoredItem ω κ) : Bool := item.pending ∨ 0 < item.queue.count

def tickAggregate (item : MonitoredItem ω κ) (nowMs : UInt64) : MonitoredItem ω κ :=
  if item.hasAggregate ∧ cfg.double.le item.aggregateState.processingInterval
      (cfg.double.ofInt (nowMs - item.aggregateState.lastCalculation).toNat) then
    item.publishAggregate cfg nowMs
  else item

/-- A first value that was not reported yet goes to the queue before the next one. -/
def prepareSample (item : MonitoredItem ω κ) : MonitoredItem ω κ :=
  if item.hasValue ∧ (item.hasReported = false ∨ (item.pending ∧ item.queue.count = 0)) then
    item.preparePendingQueue cfg
  else item

/-- A value is queued if it is the first, or if it changed in a way to be reported. -/
def storeSample (item : MonitoredItem ω κ) (cur : Variant) (status : StatusCode) :
    MonitoredItem ω κ :=
  if item.hasValue = false then
    enqueueReport cfg { item with lastValue := cur, lastStatus := status, hasValue := true } cur
      status
  else if item.sampleChanged cur status ∧ item.changeReportable cfg cur status then
    enqueueReport cfg { item with lastValue := cur, lastStatus := status } cur status
  else item

/-- What is made of a value that was read for an item without an aggregate. -/
def takeSample (item : MonitoredItem ω κ) (cur : Variant) (status : StatusCode) :
    MonitoredItem ω κ :=
  (item.prepareSample cfg).storeSample cfg cur status

/-- What is made of a value that was read for an item with an aggregate. -/
def accumulateSample (item : MonitoredItem ω κ) (cur : Variant) (status : StatusCode) :
    MonitoredItem ω κ :=
  { item with
    aggregateState :=
      if status = Status.good then
        cfg.accumulateAggregate item.aggregateState item.lastStatus cur
      else item.aggregateState
    lastValue := cur
    lastStatus := status
    hasValue := true }

/-- A due sample: read the value and let the aggregate or the queue have it. -/
def readSample (item : MonitoredItem ω κ) (nowMs : UInt64) (world : ω) : MonitoredItem ω κ × ω :=
  let ((status, cur), world) := item.readValue world
  let item :=
    if item.hasAggregate then item.accumulateSample cfg cur status
    else item.takeSample cfg cur status
  (item.advanceSampleTimer nowMs, world)

/-- The body of the sampling loop of `mu_subscriptions_tick` for an item in use, with its bit. -/
def sample (item : MonitoredItem ω κ) (nowMs : UInt64) (world : ω) : ItemSlot ω κ × ω :=
  let reportable := item.hasReport
  if item.monitoringMode = monitoringModeDisabled then (⟨some item, reportable⟩, world)
  else
    let item := item.tickAggregate cfg nowMs
    let reportable := reportable || item.hasReport
    if nowMs < item.nextSampleMs ∨ item.attributeId = 12 then (⟨some item, reportable⟩, world)
    else
      let (item, world) := item.readSample cfg nowMs world
      (⟨some item, reportable || item.hasReport⟩, world)

end MonitoredItem

/-- The sampling loop of `mu_subscriptions_tick`: it ends when as many items in use were seen as
`active_monitored_items_count` says. All bits are cleared before. -/
def sampleItems (cfg : EngineConfig ω κ) (nowMs : UInt64) :
    Nat → List (ItemSlot ω κ) → ω → List (ItemSlot ω κ) × ω
  | _, [], world => ([], world)
  | 0, slots, world => (slots.map fun slot => { slot with reportable := false }, world)
  | active + 1, slot :: slots, world =>
    match slot.item with
    | none =>
      let (rest, world) := sampleItems cfg nowMs (active + 1) slots world
      (⟨none, false⟩ :: rest, world)
    | some item =>
      let (slot, world) := item.sample cfg nowMs world
      let (rest, world) := sampleItems cfg nowMs active slots world
      (slot :: rest, world)

def signalSemanticChange (slots : List (ItemSlot ω κ)) (nodeId : NodeId) : List (ItemSlot ω κ) :=
  slots.map fun slot =>
    { slot with
      item := slot.item.map fun item =>
        if item.attributeId = 13 ∧ nodeidEqual item.nodeId nodeId then
          { item with semanticsChanged := true, pending := true }
        else item }

/-! ## What sampling leaves of an item -/

def MonitorQueue.Enqueues (caps : EngineCapacities) : MonitorQueue → MonitorQueue → Prop :=
  Relation.ReflTransGen fun q q' => ∃ cur status, q' = q.enqueue caps cur status

/-- What an item keeps of the request it was created by. -/
def MonitoredItem.fixed (item : MonitoredItem ω κ) :
    (NodeId × UInt32) × (Int32 × Int32) × List UInt8 :=
  ((item.nodeId, item.attributeId), (item.indexRangeStart, item.indexRangeEnd), item.selectClauses)

theorem MonitoredItem.fixed_eq {item item' : MonitoredItem ω κ} (hnode : item'.nodeId = item.nodeId)
    (hattribute : item'.attributeId = item.attributeId)
    (hfirst : item'.indexRangeStart = item.indexRangeStart)
    (hlast : item'.indexRangeEnd = item.indexRangeEnd)
    (hselect : item'.selectClauses = item.selectClauses) : item'.fixed = item.fixed := by
  unfold fixed
  rw [hnode,hattribute,hfirst,hlast,hselect]

structure MonitoredItem.Sampled (caps : EngineCapacities) (item item' : MonitoredItem ω κ) :
    Prop where
  uid : item'.uid = item.uid
  monitoredItemId : item'.monitoredItemId = item.monitoredItemId
  subscriptionId : item'.subscriptionId = item.subscriptionId
  fixed : item'.fixed = item.fixed
  queue : item.queue.Enqueues caps item'.queue

namespace MonitoredItem

variable {cfg : EngineConfig ω κ} {item : MonitoredItem ω κ}

theorem Sampled.refl (item : MonitoredItem ω κ) : item.Sampled cfg.caps item :=
  ⟨rfl,rfl,rfl,fixed_eq rfl rfl rfl rfl rfl,.refl⟩

theorem Sampled.trans {item₁ item₂ : MonitoredItem ω κ} (h : item.Sampled cfg.caps item₁)
    (h' : item₁.Sampled cfg.caps item₂) : item.Sampled cfg.caps item₂ :=
  ⟨h'.uid.trans h.uid,h'.monitoredItemId.trans h.monitoredItemId,
    h'.subscriptionId.trans h.subscriptionId,
    h'.fixed.trans h.fixed,h.queue.trans h'.queue⟩

variable (cur : Variant) (status : StatusCode)

theorem enqueueReport_sampled : item.Sampled cfg.caps (item.enqueueReport cfg cur status) :=
  ⟨rfl,rfl,rfl,fixed_eq rfl rfl rfl rfl rfl,.single ⟨cur,status,rfl⟩⟩

theorem recordReported_sampled : item.Sampled cfg.caps (item.recordReported cfg cur) :=
  ⟨rfl,rfl,rfl,fixed_eq rfl rfl rfl rfl rfl,.refl⟩

theorem preparePendingQueue_sampled : item.Sampled cfg.caps (item.preparePendingQueue cfg) := by
  unfold preparePendingQueue
  split
  · exact enqueueReport_sampled _ _
  split
  · exact recordReported_sampled _
  · exact Sampled.refl item

variable (nowMs : UInt64)

theorem advanceSampleTimer_sampled : item.Sampled cfg.caps (item.advanceSampleTimer nowMs) := by
  unfold advanceSampleTimer
  dsimp only
  split
  · exact ⟨rfl,rfl,rfl,fixed_eq rfl rfl rfl rfl rfl,.refl⟩
  · exact Sampled.refl item

theorem tickAggregate_sampled : item.Sampled cfg.caps (item.tickAggregate cfg nowMs) := by
  unfold tickAggregate
  split
  · exact ⟨rfl,rfl,rfl,fixed_eq rfl rfl rfl rfl rfl,.single ⟨_,_,rfl⟩⟩
  · exact Sampled.refl item

theorem prepareSample_sampled : item.Sampled cfg.caps (item.prepareSample cfg) := by
  unfold prepareSample
  split
  · exact preparePendingQueue_sampled
  · exact Sampled.refl item

theorem storeSample_sampled : item.Sampled cfg.caps (item.storeSample cfg cur status) := by
  unfold storeSample
  split
  · exact ⟨rfl,rfl,rfl,fixed_eq rfl rfl rfl rfl rfl,.single ⟨cur,status,rfl⟩⟩
  split
  · exact ⟨rfl,rfl,rfl,fixed_eq rfl rfl rfl rfl rfl,.single ⟨cur,status,rfl⟩⟩
  · exact Sampled.refl item

theorem takeSample_sampled : item.Sampled cfg.caps (item.takeSample cfg cur status) :=
  prepareSample_sampled.trans (storeSample_sampled cur status)

theorem readSample_sampled (world : ω) :
    item.Sampled cfg.caps (item.readSample cfg nowMs world).1 := by
  refine Sampled.trans ?_ (advanceSampleTimer_sampled nowMs)
  split
  · exact ⟨rfl,rfl,rfl,fixed_eq rfl rfl rfl rfl rfl,.refl⟩
  · exact takeSample_sampled _ _

theorem sample_sampled (cfg : EngineConfig ω κ) (item : MonitoredItem ω κ) (nowMs : UInt64)
    (world : ω) :
    ∃ item', (item.sample cfg nowMs world).1.item = some item' ∧ item.Sampled cfg.caps item' := by
  unfold sample
  dsimp only
  split
  · exact ⟨item,rfl,Sampled.refl item⟩
  split
  · exact ⟨_,rfl,tickAggregate_sampled nowMs⟩
  · exact ⟨_,rfl,(tickAggregate_sampled nowMs).trans (readSample_sampled nowMs world)⟩

end MonitoredItem

def SlotsSampled (caps : EngineCapacities) : List (ItemSlot ω κ) → List (ItemSlot ω κ) → Prop :=
  Slotwise fun slot slot' => Option.Rel (MonitoredItem.Sampled caps) slot.item slot'.item

theorem sampled_rel_refl {caps : EngineCapacities} (item : Option (MonitoredItem ω κ)) :
    Option.Rel (MonitoredItem.Sampled caps) item item := by
  cases item with
  | none => exact .none
  | some item => exact .some ⟨rfl,rfl,rfl,MonitoredItem.fixed_eq rfl rfl rfl rfl rfl,.refl⟩

theorem sampleItems_sampled (cfg : EngineConfig ω κ) (nowMs : UInt64) (active : Nat)
    (slots : List (ItemSlot ω κ)) (world : ω) :
    SlotsSampled cfg.caps slots (sampleItems cfg nowMs active slots world).1 := by
  induction slots generalizing active world with
  | nil => cases active <;> exact .nil
  | cons slot slots ih =>
    cases active with
    | zero =>
      rw [sampleItems.eq_2 _ _ _ _ (by simp)]
      dsimp only
      exact Slotwise.map fun slot _ => sampled_rel_refl slot.item
    | succ active =>
      rw [sampleItems]
      cases hitem : slot.item with
      | none =>
        refine .cons ?_ (ih _ _)
        rw [hitem]
        exact .none
      | some item =>
        refine .cons ?_ (ih _ _)
        obtain ⟨item',hitem',hsampled⟩ := MonitoredItem.sample_sampled cfg item nowMs world
        rw [hitem,hitem']
        exact .some hsampled

theorem signalSemanticChange_sampled (cfg : EngineConfig ω κ) (slots : List (ItemSlot ω κ))
    (nodeId : NodeId) : SlotsSampled cfg.caps slots (signalSemanticChange slots nodeId) := by
  refine Slotwise.map fun slot _ => ?_
  cases hitem : slot.item with
  | none => exact .none
  | some item =>
    rw [Option.map_some]
    split
    · exact .some ⟨rfl,rfl,rfl,MonitoredItem.fixed_eq rfl rfl rfl rfl rfl,.refl⟩
    · exact .some ⟨rfl,rfl,rfl,MonitoredItem.fixed_eq rfl rfl rfl rfl rfl,.refl⟩

end MucOpcua
