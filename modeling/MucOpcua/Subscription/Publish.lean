import MucOpcua.Server.State
import MucOpcua.Subscription.Notification

/-!
# Publishing

The half of `publish_due.c` that answers parked Publish requests. A response goes out through
`mu_server_emit_message`, which is a question to the server: it is answered with the status and
with what the platform is afterwards. A request counts as answered when that status is Good.
-/

namespace MucOpcua

variable {ω κ : Type}

/-! ## What the engine asks -/

inductive Ask (ω : Type) where
  /-- `mu_server_emit_message` on the active connection -/
  | emit (world : ω) (requestId : UInt32) (body : List UInt8)
  /-- the connections of the server -/
  | connections
  /-- bytes of the response that is being built, stored at an offset -/
  | write (offset : Nat) (bytes : List UInt8)

abbrev Ask.Answer : Ask ω → Type
  | .emit .. => StatusCode × ω
  | .connections => List Connection
  | .write .. => Unit

abbrev PublishM (ω κ : Type) := StateT (Engine ω κ) (Interact (Ask ω) Ask.Answer)

def emitMessage (requestId : UInt32) (body : List UInt8) : PublishM ω κ StatusCode := do
  let e ← get
  let answer ← StateT.lift (Interact.question (Ask.emit e.world requestId body))
  set { e with world := answer.2 }
  return answer.1

def answerRequest (link : Link) (request : PublishRequest) (body : List UInt8) (answer : Answer) :
    PublishM ω κ StatusCode := do
  let status ← emitMessage request.requestId body
  if status = Status.good then
    modify fun e => { e with subs := e.subs.log (.answered request link answer) }
  return status

@[irreducible] def encodeResponse {α : Type} (encode : RespondM ω α) :
    PublishM ω κ (Except BadStatus (α × List UInt8)) :=
  modifyGet fun e =>
    match encode (BinaryWriter.init (List.replicate publishBodyBytes 0), e.world) with
    | .ok a (writer, world) => (.ok (a, writer.written), { e with world })
    | .error status (_, world) => (.error status, { e with world })

def emitFault (cfg : EngineConfig ω κ) (link : Link) (request : PublishRequest)
    (status : BadStatus) : PublishM ω κ Unit := do
  match ← encodeResponse (writeServiceFault cfg.timeAdapter link.returnDiagnostics
      request.requestHandle status.val) with
  | .ok (_, body) => let _ ← answerRequest link request body (.fault status.val)
  | .error _ => pure ()

/-! ## Parked requests -/

def dequeueRequest (sessionId : UInt32) : PublishM ω κ (Option PublishRequest) :=
  modifyGet fun e =>
    match e.subs.publishRequestDequeue sessionId with
    | some (request, subs) => (some request, { e with subs })
    | none => (none, e)

def PublishRequest.expired (request : PublishRequest) (nowMs : UInt64) : Bool :=
  request.timeoutHint ≠ 0 ∧ request.enqueuedMs ≤ nowMs ∧
    request.timeoutHint.toUInt64 < nowMs - request.enqueuedMs

def publishRequestDequeueValid (cfg : EngineConfig ω κ) (link : Link) (sessionId : UInt32)
    (nowMs : UInt64) : PublishM ω κ (Option PublishRequest) := do
  match ← dequeueRequest sessionId with
  | none => return none
  | some request =>
    if request.expired nowMs then
      emitFault cfg link request Status.badTimeout
      return none
    return some request

def publishRequestEvictOldest (cfg : EngineConfig ω κ) (link : Link) (sessionId : UInt32) :
    PublishM ω κ Bool := do
  match ← dequeueRequest sessionId with
  | none => return false
  | some request =>
    emitFault cfg link request Status.badTooManyPublishRequests
    return true

/-! ## Notifications -/

namespace Subscription

/-- `current_sequence_number`: the number is not 0 afterwards. -/
def currentSequenceNumber (sub : Subscription) : Subscription :=
  { sub with sequenceNumber := if sub.sequenceNumber = 0 then 1 else sub.sequenceNumber }

def advanceSequenceNumber (sub : Subscription) : Subscription :=
  currentSequenceNumber { sub with sequenceNumber := sub.sequenceNumber + 1 }

/-- The loop of `advance_publish_timer`, at most `safety` rounds more. -/
def advanceTimer (interval nowMs : UInt64) : Nat → UInt64 → UInt64
  | 0, nextPublishMs => nextPublishMs
  | safety + 1, nextPublishMs =>
    if 0xFFFFFFFFFFFFFFFF - interval < nextPublishMs then 0xFFFFFFFFFFFFFFFF
    else if nextPublishMs + interval ≤ nowMs then
      advanceTimer interval nowMs safety (nextPublishMs + interval)
    else nextPublishMs + interval

/-- `advance_publish_timer`: the time of the next publish. -/
def advancePublishTimer (sub : Subscription) (nowMs : UInt64) : UInt64 :=
  let interval := if sub.publishingIntervalMs = 0 then 1 else sub.publishingIntervalMs.toUInt64
  advanceTimer interval nowMs 100 sub.nextPublishMs

end Subscription

structure PublishResponse where
  body : List UInt8
  messageStart : Nat
  messageEnd : Nat
  publishTime : Int64
  deriving DecidableEq

namespace PublishResponse

def message (response : PublishResponse) : List UInt8 :=
  (response.body.drop response.messageStart).take (response.messageEnd - response.messageStart)

/-- `message_end >= message_start && message_end <= body_length`. -/
def InBody (response : PublishResponse) : Prop :=
  response.messageStart ≤ response.messageEnd ∧ response.messageEnd ≤ response.body.length

instance (response : PublishResponse) : Decidable response.InBody :=
  inferInstanceAs (Decidable (_ ∧ _))

end PublishResponse

def publishResponseOversizeStatus (status : StatusCode) : Bool :=
  status = Status.badEncodingError.val ∨ status = Status.badOutOfMemory.val ∨
    status = Status.badResponseTooLarge.val

/-- `emit_publish_response_too_large_fault` where the status calls for it. -/
def emitPublishResponseTooLargeFault (cfg : EngineConfig ω κ) (link : Link)
    (request : PublishRequest) (status : StatusCode) : PublishM ω κ Unit :=
  if publishResponseOversizeStatus status then
    emitFault cfg link request Status.badResponseTooLarge
  else pure ()

def publishTimeNow (cfg : EngineConfig ω κ) : PublishM ω κ Int64 :=
  modifyGet fun e =>
    let (now, world) := cfg.timeAdapter.getTime e.world
    (now, { e with world })

def NotificationContent.delivered (caps : EngineCapacities) (subs : Subs ω κ) (sub : Subscription) :
    NotificationContent → List (Nat × Nat)
  | .data reportCount =>
    (subs.entriesToReport caps sub reportCount).map fun report => (report.1.uid, report.2.tag)
  | _ => []

/-- The sequence `publish_response_encode_and_emit` and `issue_status_change_notification` share:
build the response to a request under the subscription's number and emit it. The result is the
response if it went out. -/
def emitNotification (cfg : EngineConfig ω κ) (link : Link) (sub : Subscription)
    (request : PublishRequest) (content : NotificationContent) :
    PublishM ω κ (Option PublishResponse) := do
  let publishTime ← publishTimeNow cfg
  let subs := (← get).subs
  match ← encodeResponse
      (buildPublishResponse cfg subs sub request sub.sequenceNumber content publishTime) with
  | .error status =>
    emitPublishResponseTooLargeFault cfg link request status.val
    return none
  | .ok ((messageStart, messageEnd), body) =>
    let response : PublishResponse := ⟨body, messageStart, messageEnd, publishTime⟩
    let status ← answerRequest link request body
      (.notification sub.uid response.message (content.delivered cfg.caps subs sub))
    if status = Status.good then return some response
    emitPublishResponseTooLargeFault cfg link request status
    return none

def setSubscription (index : Nat) (sub : Subscription) : PublishM ω κ Unit :=
  modify fun e => { e with subs := e.subs.setSubscription index (some sub) }

/-- Answer a request that was taken for a subscription: the number is not 0 from then on, and the
rest is done if the message went out. -/
def notifyRequest (cfg : EngineConfig ω κ) (link : Link) (index : Nat) (sub : Subscription)
    (request : PublishRequest) (content : NotificationContent)
    (sent : PublishResponse → PublishM ω κ Unit) : PublishM ω κ Unit := do
  let sub := sub.currentSequenceNumber
  setSubscription index sub
  match ← emitNotification cfg link sub request content with
  | none => pure ()
  | some response => sent response

def Subscription.statusChanged (sub : Subscription) (response : PublishResponse) : Subscription :=
  let sub :=
    if response.InBody then
      Subs.storeRetransmit sub sub.sequenceNumber response.publishTime response.message
    else sub
  sub.advanceSequenceNumber

/-- `issue_status_change_notification` for the subscription in a slot. The status is not Good. -/
def issueStatusChangeNotification (cfg : EngineConfig ω κ) (link : Link) (index : Nat)
    (sub : Subscription) (status : StatusCode) : PublishM ω κ Unit := do
  match ← dequeueRequest sub.sessionId with
  | none => pure ()
  | some request =>
    notifyRequest cfg link index sub request (.statusChange status) fun response =>
      setSubscription index (sub.currentSequenceNumber.statusChanged response)

def Subscription.reported (sub : Subscription) (hasEvents : Bool) (response : PublishResponse) :
    Subscription :=
  let sub := { sub with
    eventQueue := if hasEvents then [] else sub.eventQueue
    keepAliveCounter := 0
    lifetimeCounter := 0 }
  let sub :=
    if response.InBody then
      Subs.storeRetransmit sub sub.sequenceNumber response.publishTime response.message
    else { sub with retransmit := none }
  sub.advanceSequenceNumber

/-- The branch of `publish_response_encode_and_emit` with data. -/
def publishData (cfg : EngineConfig ω κ) (link : Link) (index : Nat) (sub : Subscription)
    (prepared : Prepared) (nowMs : UInt64) : PublishM ω κ Unit := do
  match ← publishRequestDequeueValid cfg link sub.sessionId nowMs with
  | none => pure ()
  | some request =>
    notifyRequest cfg link index sub request (.data prepared.reportCount) fun response => do
      modify fun e => { e with subs := e.subs.clearReportedItems sub cfg.caps prepared.reportCount }
      setSubscription index (sub.currentSequenceNumber.reported prepared.hasEvents response)

def Subscription.keptAlive (sub : Subscription) : Subscription :=
  { sub with keepAliveCounter := 0, lifetimeCounter := 0 }

/-- The end of the branch of `publish_response_encode_and_emit` without data. -/
def sendKeepAlive (cfg : EngineConfig ω κ) (link : Link) (index : Nat) (sub : Subscription)
    (nowMs : UInt64) : PublishM ω κ Unit := do
  match ← publishRequestDequeueValid cfg link sub.sessionId nowMs with
  | none => pure ()
  | some request =>
    notifyRequest cfg link index sub request .keepAlive fun _ =>
      setSubscription index sub.currentSequenceNumber.keptAlive

/-- The branch of `publish_response_encode_and_emit` without data. -/
def publishKeepAlive (cfg : EngineConfig ω κ) (link : Link) (index : Nat) (sub : Subscription)
    (nowMs : UInt64) : PublishM ω κ Unit := do
  let sub := { sub with keepAliveCounter := sub.keepAliveCounter + 1 }
  setSubscription index sub
  if sub.keepAliveCounter < sub.maxKeepAliveCount then pure ()
  else sendKeepAlive cfg link index sub nowMs

def publishResponseEncodeAndEmit (cfg : EngineConfig ω κ) (link : Link) (index : Nat)
    (sub : Subscription) (prepared : Prepared) (nowMs : UInt64) : PublishM ω κ Unit :=
  if prepared.hasData then publishData cfg link index sub prepared nowMs
  else publishKeepAlive cfg link index sub nowMs

/-! ## The tick -/

/-- The session `select_publish_subscription` finds for a subscription. -/
def findOwner (sessions : List Session) (sessionId : UInt32) : Option Session :=
  sessions.find? fun session => session.state ≠ .closed ∧ session.sessionId = sessionId

/-- `select_publish_subscription`: the connection that becomes active. -/
def selectPublishSubscription (sessions : List Session) (conns : List Connection)
    (sub : Subscription) : Option Connection := do
  let session ← findOwner sessions sub.sessionId
  conns.find? fun conn =>
    conn.clientHandle.isSome ∧ conn.secureChannel.channelId = session.secureChannelId

/-- A subscription whose turn is over: the timer and the lifetime move on. -/
def Subscription.turned (sub : Subscription) (nowMs : UInt64) : Subscription :=
  { sub with
    nextPublishMs := sub.advancePublishTimer nowMs
    lifetimeCounter := sub.lifetimeCounter + 1 }

def endTurn (cfg : EngineConfig ω κ) (link : Link) (index : Nat) (nowMs : UInt64) :
    PublishM ω κ Unit := do
  match (← get).subs.subscription? index with
  | none => pure ()
  | some sub =>
    let sub := sub.turned nowMs
    setSubscription index sub
    if sub.lifetimeCount ≤ sub.lifetimeCounter then
      issueStatusChangeNotification cfg link index sub Status.badTimeout.val
      modify fun e =>
        { e with subs := (e.subs.subscriptionDelete sub.sessionId sub.subscriptionId).2 }

def publishSubscription (cfg : EngineConfig ω κ) (link : Link) (index : Nat) (sub : Subscription)
    (nowMs : UInt64) : PublishM ω κ Unit := do
  let prepared ← modifyGet fun e => e.preparePublishNotificationData cfg index sub
  match (← get).subs.subscription? index with
  | none => pure ()
  | some sub => publishResponseEncodeAndEmit cfg link index sub prepared nowMs
  endTurn cfg link index nowMs

/-- One round of the loop of `publish_due`. -/
def publishTurn (cfg : EngineConfig ω κ) (sessions : List Session) (returnDiagnostics : UInt32)
    (nowMs : UInt64) (index : Nat) : PublishM ω κ Unit := do
  match (← get).subs.subscription? index with
  | none => pure ()
  | some sub =>
    if nowMs < sub.nextPublishMs then pure ()
    else
      let conns ← StateT.lift (Interact.question Ask.connections)
      match selectPublishSubscription sessions conns sub with
      | none => pure ()
      | some conn =>
        publishSubscription cfg ⟨conn.secureChannel.channelId, sessions, returnDiagnostics⟩
          index sub nowMs

def publishDue (cfg : EngineConfig ω κ) (sessions : List Session) (returnDiagnostics : UInt32)
    (nowMs : UInt64) : PublishM ω κ Unit :=
  (List.range cfg.caps.maxSubscriptions).forM
    (publishTurn cfg sessions returnDiagnostics nowMs)

/-- The sampling half of `mu_subscriptions_tick`. -/
def Engine.sampleAll (cfg : EngineConfig ω κ) (nowMs : UInt64) (e : Engine ω κ) : Engine ω κ :=
  let (monitoredItems, world) := sampleItems cfg nowMs e.subs.activeMonitoredItemsCount.toNat
    e.subs.monitoredItems e.world
  { e with world, subs := { e.subs with monitoredItems } }

def subscriptionsTick (cfg : EngineConfig ω κ) (sessions : List Session)
    (returnDiagnostics : UInt32) (nowMs : UInt64) : PublishM ω κ Unit := do
  modify fun e => e.sampleAll cfg nowMs
  publishDue cfg sessions returnDiagnostics nowMs

end MucOpcua
