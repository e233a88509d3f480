import MucOpcua.Subscription.Services

/-!
# The services on monitored items

The handlers of `monitored_items.c` and `triggering.c`.
-/

namespace MucOpcua

variable {ω κ : Type}

def writeMonitoredItemCreateResult (result : StatusCode) (monitoredItemId samplingIntervalMs : UInt32)
    (revisedQueueSize : Nat) : WriteM Unit := do
  binaryWriteStatuscode result
  binaryWriteUint32 monitoredItemId
  binaryWriteUint64
    (if result = Status.good then publishingIntervalMsToBits samplingIntervalMs else 0)
  binaryWriteUint32 (UInt32.ofNat revisedQueueSize)
  binaryWriteExtensionObjectHeader (some (numericNodeId 0)) 0

def writeMonitoredItemModifyResult (result : StatusCode) (revisedSamplingIntervalMs : UInt32)
    (revisedQueueSize : Nat) : WriteM Unit := do
  binaryWriteStatuscode result
  binaryWriteUint64
    (if result = Status.good then publishingIntervalMsToBits revisedSamplingIntervalMs else 0)
  binaryWriteUint32 (UInt32.ofNat revisedQueueSize)
  binaryWriteExtensionObjectHeader (some (numericNodeId 0)) 0

/-! ## CreateMonitoredItems -/

/-- What CreateMonitoredItems takes from its request for every item. -/
structure ItemContext where
  subscriptionId : UInt32
  sub : Subscription
  timestampsToReturn : UInt32
  nowMs : UInt64

/-- `mu_monitored_item_alloc` and `configure_monitored_item`. -/
def Engine.allocateItem (cfg : EngineConfig ω κ) (context : ItemContext) (body : CreateBody)
    (node : Node ω) (e : Engine ω κ) : Except BadStatus (MonitoredItem ω κ) × Engine ω κ :=
  match e.subs.monitoredItemAlloc cfg context.subscriptionId with
  | (.error status, subs) => (.error status, { e with subs })
  | (.ok (index, item), subs) =>
    let (item, world) := configureMonitoredItem cfg e.world item body node context.sub
      context.timestampsToReturn context.nowMs
    (.ok item, { e with world, subs := subs.setItem index (some item) })

def allocateAndWriteCreateItem (cfg : EngineConfig ω κ) (context : ItemContext) (body : CreateBody)
    (node : Node ω) : ServiceM ω κ Unit := do
  match ← ServiceM.engine (modifyGet fun e => e.allocateItem cfg context body node) with
  | .error status => ServiceM.put (writeMonitoredItemCreateResult status.val 0 0 0)
  | .ok item =>
    ServiceM.put (writeMonitoredItemCreateResult Status.good item.monitoredItemId
      item.samplingIntervalMs item.queue.size)

/-- The loop of `handle_create_monitored_items`. The result of a request that is refused is written
without a look at the status. -/
def createItems (cfg : EngineConfig ω κ) (context : ItemContext) : Nat → ServiceM ω κ Unit
  | 0 => pure ()
  | n + 1 => do
    let e ← ServiceM.engine get
    let body ← ServiceM.read (readMonitoredItemCreateBody cfg (cfg.leftover e.world n))
    match resolveAndValidateCreateItem cfg e.world body with
    | .error status =>
      ServiceM.unchecked (ServiceM.put (writeMonitoredItemCreateResult status 0 0 0))
    | .ok node => allocateAndWriteCreateItem cfg context body node
    createItems cfg context n

structure ItemsHeader where
  subscriptionId : UInt32
  timestampsToReturn : UInt32
  count : Int32

def readItemsHeader : ReadM ItemsHeader := do
  let subscriptionId ← binaryReadUint32
  let timestampsToReturn ← binaryReadUint32
  let count ← binaryReadInt32
  return { subscriptionId, timestampsToReturn, count }

/-- The checks of the two handlers behind the timestamps: the subscription of the items. -/
def checkItems (caller : Caller) (header : ItemsHeader) : ServiceM ω κ Subscription := do
  ServiceM.refuseIf (maxSubscriptionOperations < header.count.toInt.toNat)
    Status.badTooManyOperations
  let subs ← ServiceM.getSubs
  let sub ← ServiceM.check <|
    match (subs.subscriptionFind caller.sessionId header.subscriptionId).bind subs.subscription? with
    | none => .error Status.badSubscriptionIdInvalid
    | some sub => .ok sub
  ServiceM.refuseIf (header.count.toInt ≤ 0) Status.badNothingToDo
  return sub

def handleCreateMonitoredItems (cfg : EngineConfig ω κ) (caller : Caller) : ServiceM ω κ Nat := do
  let req ← ServiceM.read requestHeaderDecode
  let header ← ServiceM.read readItemsHeader
  ServiceM.refuseIf (3 < header.timestampsToReturn) Status.badTimestampsToReturnInvalid
  let sub ← checkItems caller header
  respondPrefix cfg caller 754 req.requestHandle Status.good
  ServiceM.put (binaryWriteInt32 header.count)
  let nowMs ← ServiceM.engine (tickMs cfg)
  createItems cfg ⟨header.subscriptionId, sub, header.timestampsToReturn, nowMs⟩
    header.count.toInt.toNat
  ServiceM.put (binaryWriteInt32 0)
  ServiceM.finish

/-! ## ModifyMonitoredItems -/

/-- The result of one entry: the status, the revised sampling interval and queue size. -/
structure ModifyResult where
  result : StatusCode
  revisedSamplingIntervalMs : UInt32
  revisedQueueSize : Nat

/-- The time `apply_modify_item_filters` reads if there is an aggregate filter. -/
def Engine.tickIf (cfg : EngineConfig ω κ) (present : Bool) (e : Engine ω κ) :
    UInt64 × Engine ω κ :=
  if present then
    let (now, world) := cfg.timeAdapter.getTickMs e.world
    (now, { e with world })
  else (0, e)

/-- `apply_modify_item_fields` with its filters. -/
def Engine.modifyItem (cfg : EngineConfig ω κ) (header : ItemsHeader) (body : ModifyBody)
    (e : Engine ω κ) : ModifyResult × Engine ω κ :=
  match e.subs.findMonitoredItem header.subscriptionId body.monitoredItemId with
  | none => (⟨Status.badMonitoredItemIdInvalid.val, 0, 1⟩, e)
  | some index =>
    match e.subs.item? index with
    | none => (⟨Status.badMonitoredItemIdInvalid.val, 0, 1⟩, e)
    | some item =>
      if body.filter.filterResult ≠ Status.good then (⟨body.filter.filterResult, 0, 1⟩, e)
      else if (body.filter.hasDatachangeFilter ∨ body.filter.hasAggregateFilter) ∧
          item.attributeId ≠ 13 then
        (⟨Status.badFilterNotAllowed.val, 0, 1⟩, e)
      else
        let item := item.applyModifyItemFields cfg body header.timestampsToReturn
        let (nowMs, e) := e.tickIf cfg body.filter.hasAggregateFilter
        (⟨Status.good, item.samplingIntervalMs, item.queue.size⟩,
          { e with
            subs := e.subs.setItem index
              (some (item.applyModifyItemFilters cfg body.filter nowMs)) })

/-- The loop of `handle_modify_monitored_items`. -/
def modifyItems (cfg : EngineConfig ω κ) (header : ItemsHeader) : Nat → ServiceM ω κ Unit
  | 0 => pure ()
  | n + 1 => do
    let body ← ServiceM.read (readModifyBody cfg)
    let r ← ServiceM.engine (modifyGet fun e => e.modifyItem cfg header body)
    ServiceM.put (writeMonitoredItemModifyResult r.result r.revisedSamplingIntervalMs
      r.revisedQueueSize)
    modifyItems cfg header n

/-- `handle_modify_monitored_items`; the timestamps are not checked. -/
def handleModifyMonitoredItems (cfg : EngineConfig ω κ) (caller : Caller) : ServiceM ω κ Nat := do
  let req ← ServiceM.read requestHeaderDecode
  let header ← ServiceM.read readItemsHeader
  let _ ← checkItems caller header
  respondPrefix cfg caller 766 req.requestHandle Status.good
  ServiceM.put (binaryWriteInt32 header.count)
  modifyItems cfg header header.count.toInt.toNat
  ServiceM.put (binaryWriteInt32 0)
  ServiceM.finish

/-! ## SetMonitoringMode and DeleteMonitoredItems -/

def MonitoredItem.readOnEnable (cfg : EngineConfig ω κ) (item : MonitoredItem ω κ) (world : ω) :
    MonitoredItem ω κ × ω :=
  let ((status, cur), world) := item.readValue world
  if status = Status.good then
    let (nowMs, world) := cfg.timeAdapter.getTickMs world
    ({ item with
      lastValue := cur
      lastStatus := Status.good
      hasValue := true
      pending := true
      nextSampleMs := nowMs + item.samplingIntervalMs.toUInt64 }, world)
  else ({ item with lastStatus := status }, world)

def MonitoredItem.setMonitoringMode (cfg : EngineConfig ω κ) (item : MonitoredItem ω κ)
    (mode : UInt8) (world : ω) : MonitoredItem ω κ × ω :=
  let next := { item with monitoringMode := mode }
  if item.monitoringMode = monitoringModeDisabled ∧
      (mode = monitoringModeSampling ∨ mode = monitoringModeReporting) ∧
      item.attributeId ≠ 12 then
    next.readOnEnable cfg world
  else (next, world)

/-- `set_monitoring_mode_result` on the engine. -/
def Engine.setMonitoringMode (cfg : EngineConfig ω κ) (subscriptionId mode monitoredItemId : UInt32)
    (e : Engine ω κ) : StatusCode × Engine ω κ :=
  match e.subs.findMonitoredItem subscriptionId monitoredItemId with
  | none => (Status.badMonitoredItemIdInvalid.val, e)
  | some index =>
    match e.subs.item? index with
    | none => (Status.badMonitoredItemIdInvalid.val, e)
    | some item =>
      let (item, world) := item.setMonitoringMode cfg mode.toUInt8 e.world
      (Status.good, { e with world, subs := e.subs.setItem index (some item) })

def setMonitoringModeResult (cfg : EngineConfig ω κ) (subscriptionId mode monitoredItemId : UInt32) :
    PublishM ω κ StatusCode :=
  modifyGet fun e => e.setMonitoringMode cfg subscriptionId mode monitoredItemId

def handleSetMonitoringMode (cfg : EngineConfig ω κ) (caller : Caller) : ServiceM ω κ Nat := do
  let req ← ServiceM.read requestHeaderDecode
  let subscriptionId ← ServiceM.read binaryReadUint32
  let monitoringMode ← ServiceM.read binaryReadUint32
  driveSubscriptionIdStatusArray cfg caller 772 req.requestHandle (some subscriptionId)
    (setMonitoringModeResult cfg subscriptionId monitoringMode)

def deleteMonitoredItemResult (subscriptionId monitoredItemId : UInt32) :
    PublishM ω κ StatusCode :=
  modifyGet fun e =>
    match e.subs.monitoredItemDelete subscriptionId monitoredItemId with
    | (.ok (), subs) => (Status.good, { e with subs })
    | (.error status, subs) => (status.val, { e with subs })

def handleDeleteMonitoredItems (cfg : EngineConfig ω κ) (caller : Caller) : ServiceM ω κ Nat := do
  let req ← ServiceM.read requestHeaderDecode
  let subscriptionId ← ServiceM.read binaryReadUint32
  driveSubscriptionIdStatusArray cfg caller 784 req.requestHandle (some subscriptionId)
    (deleteMonitoredItemResult subscriptionId)

/-! ## SetTriggering -/

/-- `ensure_array_items_min_remaining` for UInt32 items. -/
def ensureUint32ItemsRemaining (count : Int) : ReadM Unit := do
  let reader ← get
  if 0 < count ∧ (reader.length < reader.position ∨
      (reader.length - reader.position) / 4 < count.toNat) then
    throw Status.badDecodingError

def readSetTriggeringUint32Array : ReadM (List UInt32) := do
  let decodedCount := (← binaryReadInt32).toInt
  if decodedCount < -1 then throw Status.badDecodingError
  if maxSubscriptionOperations < decodedCount.toNat then throw Status.badTooManyOperations
  ensureUint32ItemsRemaining decodedCount
  return (← readMany binaryReadUint32 decodedCount.toNat).val

def linkAll (link : UInt32 → Subs ω κ → StatusCode × Subs ω κ) :
    List UInt32 → Subs ω κ → List StatusCode × Subs ω κ
  | [], subs => ([], subs)
  | id :: ids, subs =>
    let (status, subs) := link id subs
    let (results, subs) := linkAll link ids subs
    (status :: results, subs)

/-- The results of one of the lists of SetTriggering, without diagnostics. -/
def writeLinkResults (results : List StatusCode) : WriteM Unit := do
  binaryWriteInt32 (Int32.ofNat results.length)
  writeMany binaryWriteStatuscode results
  binaryWriteInt32 0

def handleSetTriggering (cfg : EngineConfig ω κ) (caller : Caller) : ServiceM ω κ Nat := do
  let req ← ServiceM.read requestHeaderDecode
  let subscriptionId ← ServiceM.read binaryReadUint32
  let triggeringItemId ← ServiceM.read binaryReadUint32
  let linksToAdd ← ServiceM.read readSetTriggeringUint32Array
  let linksToRemove ← ServiceM.read readSetTriggeringUint32Array
  ServiceM.refuseIf (maxSubscriptionOperations < linksToAdd.length + linksToRemove.length)
    Status.badTooManyOperations
  let subs ← ServiceM.getSubs
  ServiceM.refuseIf (subs.subscriptionFind caller.sessionId subscriptionId = none)
    Status.badSubscriptionIdInvalid
  ServiceM.refuseIf (linksToAdd = [] ∧ linksToRemove = []) Status.badNothingToDo
  let added ← ServiceM.subs (linkAll
    (fun id subs => subs.addTriggerLink cfg.caps subscriptionId triggeringItemId id) linksToAdd)
  let removed ← ServiceM.subs (linkAll
    (fun id subs => subs.removeTriggerLink subscriptionId triggeringItemId id) linksToRemove)
  respondPrefix cfg caller 778 req.requestHandle Status.good
  ServiceM.put (writeLinkResults added)
  ServiceM.put (writeLinkResults removed)
  ServiceM.finish

end MucOpcua
