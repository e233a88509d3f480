import MucOpcua.Subscription.ItemRequests
import MucOpcua.Subscription.Publish

/-!
# The services on subscriptions

`subscription_crud.c`, `drive_subscription_id_status_array` and `transfer_handler.c`.
-/

namespace MucOpcua

variable {ω κ : Type}

/-! ## Handlers -/

structure Work (ω κ : Type) where
  engine : Engine ω κ
  reader : BinaryReader
  writer : BinaryWriter

abbrev ServiceM (ω κ : Type) :=
  ExceptT BadStatus (StateT (Work ω κ) (Interact (Ask ω) Ask.Answer))

/-- The client's side of a call: the dispatcher has bound the active session to the channel. -/
structure Caller extends Link where
  session : Session
  requestId : UInt32
  session_mem : session ∈ sessions
  activated : session.state = .activated
  bound : session.secureChannelId = channelId

/-- `server->active_session->session_id`. -/
def Caller.sessionId (caller : Caller) : UInt32 := caller.session.sessionId

namespace ServiceM

variable {α : Type}

def read (decode : ReadM α) : ServiceM ω κ α :=
  ExceptT.mk <| modifyGet fun work =>
    match decode work.reader with
    | .ok a reader => (.ok a, { work with reader })
    | .error status reader => (.error status, { work with reader })

def encoded (encode : RespondM ω α) (work : Work ω κ) : Except BadStatus α × Work ω κ :=
  match encode (work.writer, work.engine.world) with
  | .ok a (writer, world) => (.ok a, { work with writer, engine := { work.engine with world } })
  | .error status (writer, world) =>
    (.error status, { work with writer, engine := { work.engine with world } })

/-- Encode a part of the response; the bytes go to the server's buffer. -/
def respond (encode : RespondM ω α) : ServiceM ω κ α :=
  ExceptT.mk do
    let work ← get
    let (result, work') := encoded encode work
    set work'
    StateT.lift (Interact.question (Ask.write work.writer.position
      (work'.writer.written.drop work.writer.position)))
    return result

def put (encode : WriteM Unit) : ServiceM ω κ Unit := respond (RespondM.put encode)

def unchecked (m : ServiceM ω κ Unit) : ServiceM ω κ Unit :=
  ExceptT.mk do
    let _ ← m.run
    return .ok ()

def engine (m : PublishM ω κ α) : ServiceM ω κ α :=
  ExceptT.mk fun work => do
    let (a, engine) ← m work.engine
    return (.ok a, { work with engine })

def subs (f : Subs ω κ → α × Subs ω κ) : ServiceM ω κ α :=
  engine <| modifyGet fun e =>
    let (a, subs) := f e.subs
    (a, { e with subs })

def getSubs : ServiceM ω κ (Subs ω κ) := subs fun s => (s, s)

def check (result : Except BadStatus α) : ServiceM ω κ α := ExceptT.mk (pure result)

def refuseIf (c : Prop) [Decidable c] (status : BadStatus) : ServiceM ω κ Unit :=
  check (if c then .error status else .ok ())

def finish : ServiceM ω κ Nat := ExceptT.mk do return .ok (← get).writer.position

end ServiceM

def tickMs (cfg : EngineConfig ω κ) : PublishM ω κ UInt64 :=
  modifyGet fun e =>
    let (now, world) := cfg.timeAdapter.getTickMs e.world
    (now, { e with world })

/-- `write_response_prefix` with the service's result. -/
def respondPrefix (cfg : EngineConfig ω κ) (caller : Caller) (responseTypeId requestHandle : UInt32)
    (result : StatusCode) : ServiceM ω κ Unit :=
  ServiceM.respond
    (writeResponsePrefix cfg.timeAdapter caller.returnDiagnostics responseTypeId requestHandle
      result)

/-! ## Diagnostics -/

def DiagnosticsSummary.modify (diag : DiagnosticsSummary) (index : Nat) (f : UInt32 → UInt32) :
    DiagnosticsSummary :=
  ⟨⟨diag.counters.val.modify index f, by simpa using diag.counters.property⟩⟩

def DiagnosticsSummary.subscriptionCreated (diag : DiagnosticsSummary) : DiagnosticsSummary :=
  (diag.modify 8 (· + 1)).modify 7 (· + 1)

def DiagnosticsSummary.subscriptionClosed (diag : DiagnosticsSummary) : DiagnosticsSummary :=
  diag.modify 7 fun count => if 0 < count then count - 1 else count

/-- `mu_subscription_delete` and the count of it. -/
def Engine.subscriptionDelete (e : Engine ω κ) (sessionId subscriptionId : UInt32) :
    StatusCode × Engine ω κ :=
  match e.subs.subscriptionDelete sessionId subscriptionId with
  | (.ok (), subs) => (Status.good, { e with subs, diag := e.diag.subscriptionClosed })
  | (.error status, subs) => (status.val, { e with subs })

/-! ## Lists of ids -/

/-- The loop of `drive_subscription_id_status_array`. -/
def driveIds (itemResult : UInt32 → PublishM ω κ StatusCode) : Nat → ServiceM ω κ Unit
  | 0 => pure ()
  | n + 1 => do
    let id ← ServiceM.read binaryReadUint32
    let result ← ServiceM.engine (itemResult id)
    ServiceM.put (binaryWriteStatuscode result)
    driveIds itemResult n

/-- `drive_subscription_id_status_array`; `validate` is the subscription the ids belong to. -/
def driveSubscriptionIdStatusArray (cfg : EngineConfig ω κ) (caller : Caller)
    (responseTypeId requestHandle : UInt32) (validate : Option UInt32)
    (itemResult : UInt32 → PublishM ω κ StatusCode) : ServiceM ω κ Nat := do
  let count ← ServiceM.read binaryReadInt32
  ServiceM.refuseIf (maxSubscriptionOperations < count.toInt.toNat) Status.badTooManyOperations
  let subs ← ServiceM.getSubs
  ServiceM.refuseIf (validate.any fun id => (subs.subscriptionFind caller.sessionId id).isNone)
    Status.badSubscriptionIdInvalid
  ServiceM.refuseIf (count.toInt ≤ 0) Status.badNothingToDo
  respondPrefix cfg caller responseTypeId requestHandle Status.good
  ServiceM.put (binaryWriteInt32 count)
  driveIds itemResult count.toInt.toNat
  ServiceM.put (binaryWriteInt32 0)
  ServiceM.finish

/-! ## Creating and modifying -/

/-- The parameters CreateSubscription and ModifySubscription have in common. -/
structure RequestedParameters where
  intervalBits : UInt64
  lifetimeCount : UInt32
  maxKeepAliveCount : UInt32
  maxNotificationsPerPublish : UInt32

def readRequestedParameters : ReadM RequestedParameters := do
  let intervalBits ← binaryReadUint64
  let lifetimeCount ← binaryReadUint32
  let maxKeepAliveCount ← binaryReadUint32
  let maxNotificationsPerPublish ← binaryReadUint32
  return { intervalBits, lifetimeCount, maxKeepAliveCount, maxNotificationsPerPublish }

def RequestedParameters.withPriority (p : RequestedParameters) (priority : UInt8) :
    Subs.SubscriptionParameters where
  publishingIntervalMs := publishingIntervalBitsToMs p.intervalBits
  requestedLifetimeCount := p.lifetimeCount
  requestedMaxKeepAliveCount := p.maxKeepAliveCount
  maxNotificationsPerPublish := p.maxNotificationsPerPublish
  priority := priority

def writeRevisedParameters (sub : Subscription) : WriteM Unit := do
  binaryWriteUint64 (publishingIntervalMsToBits sub.publishingIntervalMs)
  binaryWriteUint32 sub.lifetimeCount
  binaryWriteUint32 sub.maxKeepAliveCount

def handleCreateSubscription (cfg : EngineConfig ω κ) (caller : Caller) : ServiceM ω κ Nat := do
  let req ← ServiceM.read requestHeaderDecode
  let p ← ServiceM.read readRequestedParameters
  let publishingEnabled ← ServiceM.read binaryReadBoolean
  let priority ← ServiceM.read binaryReadByte
  let nowMs ← ServiceM.engine (tickMs cfg)
  let created ← ServiceM.subs fun subs =>
    subs.subscriptionCreate caller.sessionId (p.withPriority priority) publishingEnabled nowMs
  let sub ← ServiceM.check created
  ServiceM.engine (modify fun e => { e with diag := e.diag.subscriptionCreated })
  respondPrefix cfg caller 790 req.requestHandle Status.good
  ServiceM.put (binaryWriteUint32 sub.subscriptionId)
  ServiceM.put (writeRevisedParameters sub)
  ServiceM.finish

def Subs.subscriptionModify (sessionId subscriptionId : UInt32) (p : Subs.SubscriptionParameters)
    (subs : Subs ω κ) : Except BadStatus Subscription × Subs ω κ :=
  match subs.subscriptionFind sessionId subscriptionId with
  | none => (.error Status.badSubscriptionIdInvalid, subs)
  | some index =>
    match subs.subscription? index with
    | none => (.error Status.badSubscriptionIdInvalid, subs)
    | some sub =>
      let sub := Subs.applyParameters sub p
      (.ok sub, subs.setSubscription index (some sub))

def handleModifySubscription (cfg : EngineConfig ω κ) (caller : Caller) : ServiceM ω κ Nat := do
  let req ← ServiceM.read requestHeaderDecode
  let subscriptionId ← ServiceM.read binaryReadUint32
  let p ← ServiceM.read readRequestedParameters
  let priority ← ServiceM.read binaryReadByte
  let modified ← ServiceM.subs fun subs =>
    subs.subscriptionModify caller.sessionId subscriptionId (p.withPriority priority)
  let sub ← ServiceM.check modified
  respondPrefix cfg caller 796 req.requestHandle Status.good
  ServiceM.put (writeRevisedParameters sub)
  ServiceM.finish

/-! ## Publishing mode and deletion -/

/-- `set_publishing_mode_result` on the tables. -/
def Subs.setPublishingMode (sessionId : UInt32) (publishingEnabled : Bool) (subscriptionId : UInt32)
    (subs : Subs ω κ) : StatusCode × Subs ω κ :=
  match subs.subscriptionFind sessionId subscriptionId with
  | none => (Status.badSubscriptionIdInvalid.val, subs)
  | some index =>
    match subs.subscription? index with
    | none => (Status.badSubscriptionIdInvalid.val, subs)
    | some sub =>
      let sub := { sub with publishingEnabled }
      if publishingEnabled then
        (Status.good, subs.setSubscription index
          (some { sub with lifetimeCounter := 0, moreNotifications := false }))
      else
        (Status.good, (subs.setSubscription index (some sub)).publishRequestQueueClear sessionId)

def setPublishingModeResult (caller : Caller) (publishingEnabled : Bool) (subscriptionId : UInt32) :
    PublishM ω κ StatusCode :=
  modifyGet fun e =>
    let (status, subs) := e.subs.setPublishingMode caller.sessionId publishingEnabled subscriptionId
    (status, { e with subs })

def handleSetPublishingMode (cfg : EngineConfig ω κ) (caller : Caller) : ServiceM ω κ Nat := do
  let req ← ServiceM.read requestHeaderDecode
  let publishingEnabled ← ServiceM.read binaryReadBoolean
  driveSubscriptionIdStatusArray cfg caller 802 req.requestHandle none
    (setPublishingModeResult caller publishingEnabled)

/-- The StatusChange `delete_subscription_result` sends first. -/
def notifyDeletion (cfg : EngineConfig ω κ) (caller : Caller) (subscriptionId : UInt32) :
    PublishM ω κ Unit := do
  let subs := (← get).subs
  match subs.subscriptionFind caller.sessionId subscriptionId with
  | none => pure ()
  | some index =>
    match subs.subscription? index with
    | none => pure ()
    | some sub =>
      issueStatusChangeNotification cfg caller.toLink index sub Status.badTimeout.val

def Subs.clearIfUnsubscribed (sessionId : UInt32) (subs : Subs ω κ) : Subs ω κ :=
  if subs.countForSession sessionId = 0 then subs.publishRequestQueueClear sessionId else subs

def deleteSubscriptionResult (cfg : EngineConfig ω κ) (caller : Caller) (subscriptionId : UInt32) :
    PublishM ω κ StatusCode := do
  notifyDeletion cfg caller subscriptionId
  modifyGet fun e =>
    let (status, e) := e.subscriptionDelete caller.sessionId subscriptionId
    (status, { e with subs := e.subs.clearIfUnsubscribed caller.sessionId })

def handleDeleteSubscriptions (cfg : EngineConfig ω κ) (caller : Caller) : ServiceM ω κ Nat := do
  let req ← ServiceM.read requestHeaderDecode
  driveSubscriptionIdStatusArray cfg caller 850 req.requestHandle none
    (deleteSubscriptionResult cfg caller)

/-! ## Publish and Republish -/

def readAcknowledgements (caller : Caller) : Nat → ServiceM ω κ (List StatusCode)
  | 0 => return []
  | n + 1 => do
    let subscriptionId ← ServiceM.read binaryReadUint32
    let sequenceNumber ← ServiceM.read binaryReadUint32
    let result ← ServiceM.subs fun subs =>
      subs.acknowledge caller.sessionId subscriptionId sequenceNumber
    return result :: (← readAcknowledgements caller n)

/-- Park a request; if there is no slot left, the oldest request of the session makes room. -/
def parkRequest (cfg : EngineConfig ω κ) (caller : Caller) (req : RequestHeader)
    (ackResults : { results : List StatusCode // results.length ≤ maxPublishAcks }) :
    PublishM ω κ (Except BadStatus Unit) := do
  let nowMs ← tickMs cfg
  let enqueue : PublishM ω κ (Except BadStatus Unit) := modifyGet fun e =>
    let (result, subs) := e.subs.publishRequestEnqueue caller.sessionId caller.requestId
      req.requestHandle nowMs req.timeoutHint ackResults
    (result, { e with subs })
  match ← enqueue with
  | .ok () => return .ok ()
  | .error status =>
    if ← publishRequestEvictOldest cfg caller.toLink caller.sessionId then enqueue
    else return .error status

/-- `handle_publish`; a parked request has no response yet. -/
def handlePublish (cfg : EngineConfig ω κ) (caller : Caller) : ServiceM ω κ Nat := do
  let req ← ServiceM.read requestHeaderDecode
  let ackCount ← ServiceM.read binaryReadInt32
  ServiceM.refuseIf (maxPublishAcks < ackCount.toInt.toNat) Status.badTooManyOperations
  let results ← readAcknowledgements caller ackCount.toInt.toNat
  let subs ← ServiceM.getSubs
  ServiceM.refuseIf (subs.countForSession caller.sessionId = 0) Status.badNoSubscription
  let parked ← ServiceM.engine
    (parkRequest cfg caller req ⟨results.take maxPublishAcks, List.length_take_le _ _⟩)
  ServiceM.check parked
  return 0

def handleRepublish (cfg : EngineConfig ω κ) (caller : Caller) : ServiceM ω κ Nat := do
  let req ← ServiceM.read requestHeaderDecode
  let subscriptionId ← ServiceM.read binaryReadUint32
  let sequenceNumber ← ServiceM.read binaryReadUint32
  let subs ← ServiceM.getSubs
  let message ← ServiceM.check (subs.republish caller.sessionId subscriptionId sequenceNumber)
  respondPrefix cfg caller 835 req.requestHandle Status.good
  ServiceM.put (writeBlock message Status.badResponseTooLarge)
  ServiceM.finish

/-! ## Transfer -/

def Subs.resetReported (subscriptionId : UInt32) (subs : Subs ω κ) : Subs ω κ :=
  subs.mapItems fun item =>
    some (if item.subscriptionId = subscriptionId then { item with hasReported := false } else item)

/-- The subscription in a slot goes over to a session, its items with their values as they are if
the request asks for that. -/
def Subs.handOver (sessionId : UInt32) (sendInitial : Bool) (index : Nat) (subscriptionId : UInt32)
    (subs : Subs ω κ) : Subs ω κ :=
  let subs := if sendInitial then subs.resetReported subscriptionId else subs
  match subs.subscription? index with
  | none => subs
  | some sub => subs.transfer index sub sessionId

/-- What TransferSubscriptions does with a subscription of another session. -/
def moveSubscription (cfg : EngineConfig ω κ) (caller : Caller) (sendInitial : Bool) (index : Nat)
    (sub : Subscription) : PublishM ω κ Unit := do
  issueStatusChangeNotification cfg caller.toLink index sub Status.goodSubscriptionTransferred
  modify fun e =>
    { e with subs := e.subs.handOver caller.sessionId sendInitial index sub.subscriptionId }

/-- Whether the owner of a subscription and the caller are the same user; a subscription whose
session is gone may be taken by anybody. -/
def mayTransfer (cfg : EngineConfig ω κ) (caller : Caller) (world : ω) (sub : Subscription) : Bool :=
  match findOwner caller.sessions sub.sessionId with
  | none => true
  | some owner => cfg.sameUser world owner caller.session

/-- The body of the loop of `handle_transfer_subscriptions`: the status, and the number of the
message that can be republished. -/
def transferSubscription (cfg : EngineConfig ω κ) (caller : Caller) (sendInitial : Bool)
    (subscriptionId : UInt32) : PublishM ω κ (StatusCode × Option UInt32) := do
  let e ← get
  match e.subs.subscriptionFindAny subscriptionId with
  | none => return (Status.badSubscriptionIdInvalid.val, none)
  | some index =>
    match e.subs.subscription? index with
    | none => return (Status.badSubscriptionIdInvalid.val, none)
    | some sub =>
      if sub.sessionId = caller.sessionId then return (Status.badNothingToDo.val, none)
      else if mayTransfer cfg caller e.world sub then
        moveSubscription cfg caller sendInitial index sub
        return (Status.good, sub.retransmit.map RetainedMessage.sequenceNumber)
      else return (Status.badUserAccessDenied.val, none)

def writeTransferResult (status : StatusCode) (available : Option UInt32) : WriteM Unit := do
  binaryWriteUint32 status
  match available with
  | none => binaryWriteInt32 0
  | some sequenceNumber =>
    binaryWriteInt32 1
    binaryWriteUint32 sequenceNumber

def transferAll (cfg : EngineConfig ω κ) (caller : Caller) (sendInitial : Bool) :
    List UInt32 → ServiceM ω κ Unit
  | [] => pure ()
  | id :: ids => do
    let (status, available) ← ServiceM.engine (transferSubscription cfg caller sendInitial id)
    ServiceM.put (writeTransferResult status available)
    transferAll cfg caller sendInitial ids

/-- `handle_transfer_subscriptions`; the ids behind the sixteenth are not read. -/
def handleTransferSubscriptions (cfg : EngineConfig ω κ) (caller : Caller) : ServiceM ω κ Nat := do
  let req ← ServiceM.read requestHeaderDecode
  let subscriptionCount ← ServiceM.read binaryReadInt32
  if subscriptionCount.toInt < 0 then
    ServiceM.unchecked (respondPrefix cfg caller 844 req.requestHandle Status.badDecodingError.val)
    throw Status.badDecodingError
  else if subscriptionCount = 0 then
    respondPrefix cfg caller 844 req.requestHandle Status.badNothingToDo.val
    ServiceM.put (binaryWriteInt32 0)
    ServiceM.put (binaryWriteInt32 0)
    ServiceM.finish
  else
    let count := min subscriptionCount.toInt.toNat 16
    let ids ← ServiceM.read (readMany binaryReadUint32 count)
    let sendInitial ← ServiceM.read binaryReadByte
    respondPrefix cfg caller 844 req.requestHandle Status.good
    ServiceM.put (binaryWriteInt32 (Int32.ofNat count))
    transferAll cfg caller (sendInitial ≠ 0) ids.val
    ServiceM.put (binaryWriteInt32 0)
    ServiceM.finish

end MucOpcua
