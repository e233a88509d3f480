import MucOpcua.Lib.Binary64Arith
import MucOpcua.Lib.Interact
import MucOpcua.Services.Session
import MucOpcua.Subscription.EventFilter

/-!
# The subscription engine's data

`subscription.h`: subscriptions, monitored items and parked Publish requests, each in a table of
fixed size. A slot that is not in use is `none`. What the platform supplies, binary64 arithmetic,
value sources, the address space and the aggregates, is a parameter. The history is not in the
source: it numbers what is created and records which parked requests were answered, with what, and
which messages were acknowledged.
-/

namespace MucOpcua

/-- `MU_INTERN_*` of `capacities.h`. The queue's indices and its count are bytes. -/
structure EngineCapacities where
  maxSubscriptions : Nat
  maxMonitoredItems : Nat
  maxPublishRequests : Nat
  queueDepth : Nat
  maxTriggerLinks : Nat
  queueDepth_pos : 1 ≤ queueDepth
  queueDepth_le : queueDepth ≤ 255
  maxTriggerLinks_le : maxTriggerLinks ≤ 255

/-- `MU_PUBLISH_BODY_BYTES`, `MU_RETRANSMIT_BYTES`, `MU_MAX_PUBLISH_ACKS`,
`MU_DISPATCH_MAX_SUBSCRIPTION_OPERATIONS` and `MU_MAX_EVENT_QUEUE_SIZE`. -/
def publishBodyBytes : Nat := 512
def retransmitBytes : Nat := 256
def maxPublishAcks : Nat := 4
def maxSubscriptionOperations : Nat := 32
def maxEventQueueSize : Nat := 8

/-! ## Values and nodes -/

/-- `mu_value_source_t`; `none` of a callback is a NULL function. -/
inductive ValueSource (ω : Type) where
  | constant (value : Variant)
  | callback (read : Option (ω → NodeId → (StatusCode × Variant) × ω))

/-- `mu_node_t` as far as monitoring uses it. -/
structure Node (ω : Type) where
  value : Option (ValueSource ω)

/-- `mu_event_notification_t`; the reference into the audit pool is what the server resolves. -/
structure EventNotification where
  eventType : NodeId
  eventId : MuString
  time : Int64
  message : MuString
  severity : UInt16
  auditRef : Option (UInt8 × UInt32)
  deriving DecidableEq

/-! ## Monitored items -/

/-- `mu_monitoring_mode_t`, `mu_datachange_trigger_t` and `mu_deadband_type_t` as the bytes an item
keeps: a request may put any byte there. -/
def monitoringModeDisabled : UInt8 := 0
def monitoringModeSampling : UInt8 := 1
def monitoringModeReporting : UInt8 := 2
def datachangeTriggerStatus : UInt8 := 0
def datachangeTriggerStatusValue : UInt8 := 1
def datachangeTriggerStatusValueTimestamp : UInt8 := 2
def deadbandTypeNone : UInt8 := 0
def deadbandTypeAbsolute : UInt8 := 1
def deadbandTypePercent : UInt8 := 2

/-- `mu_aggregate_state_t`; the accumulators are the platform's. -/
structure AggregateState (κ : Type) where
  processingInterval : UInt64
  lastCalculation : UInt64
  accumulator : κ
  aggregateType : UInt32
  sampleCount : UInt32

/-- A queued value; `tag` counts the reports of its item. -/
structure QueueEntry where
  value : Variant
  status : StatusCode
  tag : Nat

def QueueEntry.zero : QueueEntry := ⟨Variant.zero, Status.good, 0⟩

/-- The queue fields of `mu_monitored_item_t`. The indices are as the source has them: nothing keeps
them below `size`. `enqueued` belongs to the history. -/
structure MonitorQueue where
  size : Nat
  cells : List QueueEntry
  head : Nat
  tail : Nat
  count : Nat
  discardOldest : Bool
  overflow : Bool
  enqueued : Nat

/-- `mu_monitored_item_t`; `uid` belongs to the history. -/
structure MonitoredItem (ω κ : Type) where
  nextSampleMs : UInt64
  deadbandValue : UInt64
  lastReportedNumeric : UInt64
  deadbandSpan : UInt64
  aggregateState : AggregateState κ
  resolvedNode : Option (Node ω)
  lastValue : Variant
  nodeId : NodeId
  monitoredItemId : UInt32
  subscriptionId : UInt32
  clientHandle : UInt32
  attributeId : UInt32
  samplingIntervalMs : UInt32
  indexRangeStart : Int32
  indexRangeEnd : Int32
  lastStatus : StatusCode
  triggeredItems : List UInt32
  queue : MonitorQueue
  monitoringMode : UInt8
  trigger : UInt8
  timestampsToReturn : UInt8
  hasValue : Bool
  pending : Bool
  semanticsChanged : Bool
  deadbandType : UInt8
  hasReported : Bool
  hasAggregate : Bool
  selectClauses : List UInt8
  whereClause : WhereClause
  uid : Nat

/-- A slot of `monitored_items` with its bit of `reportable_bitmap`. -/
structure ItemSlot (ω κ : Type) where
  item : Option (MonitoredItem ω κ)
  reportable : Bool

/-! ## Subscriptions and requests -/

/-- `mu_retransmit_slot_t` while it is valid. -/
structure RetainedMessage where
  sequenceNumber : UInt32
  publishTime : Int64
  message : { bytes : List UInt8 // bytes.length ≤ retransmitBytes }
  deriving DecidableEq

/-- `mu_subscription_t`; `uid` belongs to the history. -/
structure Subscription where
  nextPublishMs : UInt64
  retransmit : Option RetainedMessage
  subscriptionId : UInt32
  sessionId : UInt32
  publishingIntervalMs : UInt32
  maxKeepAliveCount : UInt32
  lifetimeCount : UInt32
  maxNotificationsPerPublish : UInt32
  sequenceNumber : UInt32
  keepAliveCounter : UInt32
  lifetimeCounter : UInt32
  priority : UInt8
  publishingEnabled : Bool
  moreNotifications : Bool
  resendDataPending : Bool
  eventQueue : List EventNotification
  uid : Nat
  deriving DecidableEq

/-- `mu_publish_request_t`; `uid` belongs to the history. -/
structure PublishRequest where
  sessionId : UInt32
  requestHandle : UInt32
  requestId : UInt32
  enqueuedMs : UInt64
  timeoutHint : UInt32
  ackResults : { results : List StatusCode // results.length ≤ maxPublishAcks }
  uid : Nat
  deriving DecidableEq

/-! ## History -/

/-- What a parked request was answered with. A NotificationMessage comes with the subscription it is
for and the entries it delivers, each as its item and its tag. -/
inductive Answer where
  | fault (status : StatusCode)
  | notification (uid : Nat) (message : List UInt8) (delivered : List (Nat × Nat))
  deriving DecidableEq

/-- The active connection, as the engine sees it: the channel, the sessions at that time, and the
diagnostics the last request asked for. -/
structure Link where
  channelId : UInt32
  sessions : List Session
  returnDiagnostics : UInt32
  deriving DecidableEq

inductive Record where
  /-- a parked request was answered on the connection `link` -/
  | answered (request : PublishRequest) (link : Link) (answer : Answer)
  /-- a Publish request acknowledged a message of the subscription `uid` -/
  | acknowledged (uid : Nat) (sequenceNumber : UInt32)
  deriving DecidableEq

/-- `nextUid` is greater than every number given out so far. -/
structure History where
  nextUid : Nat
  records : List Record
  deriving DecidableEq

/-- `mu_subscriptions_t`. -/
structure Subs (ω κ : Type) where
  subscriptions : List (Option Subscription)
  monitoredItems : List (ItemSlot ω κ)
  publishQueue : List (Option PublishRequest)
  nextSubscriptionId : UInt32
  nextMonitoredItemId : UInt32
  activeMonitoredItemsCount : UInt32
  history : History

structure Engine (ω κ : Type) where
  world : ω
  subs : Subs ω κ
  diag : DiagnosticsSummary

/-! ## The platform -/

structure DoubleOps where
  ofInt : Int → UInt64
  sub : UInt64 → UInt64 → UInt64
  mul : UInt64 → UInt64 → UInt64
  div : UInt64 → UInt64 → UInt64
  neg : UInt64 → UInt64
  lt : UInt64 → UInt64 → Bool
  le : UInt64 → UInt64 → Bool

/-- The doubles of C: IEEE 754 binary64, rounding to nearest. -/
def binary64 : DoubleOps where
  ofInt := Binary64.ofInt
  sub := Binary64.sub
  mul := Binary64.mul
  div := Binary64.div
  neg := Binary64.neg
  lt := Binary64.lt
  le := Binary64.le

/-- `mu_audit_payload_t`. -/
structure AuditPayload where
  sequence : UInt32
  eventId : MuString
  sourceNode : NodeId
  status : Bool
  actionTimestamp : Int64
  sessionId : NodeId
  attributeId : UInt32
  oldValue : Variant
  newValue : Variant
  serverId : MuString
  clientUserId : MuString
  clientAuditEntryId : MuString
  secureChannelId : MuString

/-- What the engine takes from the platform and from the rest of the server. `leftover` is what the
stack holds where the entry of a request is decoded to that has so many behind it. The audit pool is
empty in a build without auditing. -/
structure EngineConfig (ω κ : Type) where
  caps : EngineCapacities
  filterCaps : FilterCapacities
  profile : CodecProfile
  double : DoubleOps
  timeAdapter : TimeAdapter ω
  zeroAccumulator : κ
  accumulateAggregate : AggregateState κ → StatusCode → Variant → AggregateState κ
  aggregateValue : AggregateState κ → UInt64 → StatusCode × Variant
  aggregateTypeSupported : UInt32 → Bool
  resolveNode : ω → NodeId → Option (Node ω)
  eurangeSpan : ω → Node ω → Option UInt64
  sameUser : ω → Session → Session → Bool
  auditPool : ω → List AuditPayload
  whereClauseEval : WhereClause → EventNotification → Bool
  leftover : ω → Nat → EventFilterBody

end MucOpcua
