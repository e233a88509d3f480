import MucOpcua.Subscription.Report

/-!
# Publish responses

`notification.c` and the encoding half of `publish_due.c`: the NotificationMessage with its data
changes, events or status change, and the Publish response around it.
-/

namespace MucOpcua

variable {ω κ : Type}

/-! ## Patching -/

def BinaryWriter.patch (w : BinaryWriter) (position : Nat) (bytes : List UInt8) : BinaryWriter :=
  { w with
    buffer := w.buffer.map fun b => Buffer.overwrite b position bytes
    sized := by
      intro b hb
      obtain ⟨b', hb', rfl⟩ := Option.map_eq_some_iff.mp hb
      simpa using w.sized b' hb' }

def backpatchInt32 (position : Nat) (value : Int32) : WriteM Unit :=
  modify fun w => w.patch position (lePutU32 value.toUInt32)

/-- `w->position`. -/
def writerPosition : RespondM ω Nat := do return (← get).1.position

/-- The end of an ExtensionObject body: its length goes to where it was left open. -/
def backpatchLength (lengthPosition bodyStart : Nat) : RespondM ω Unit := do
  let bodyEnd ← writerPosition
  if 0x7FFFFFFF < bodyEnd - bodyStart then throw Status.badResponseTooLarge
  else RespondM.put (backpatchInt32 lengthPosition (Int32.ofNat (bodyEnd - bodyStart)))

/-- An ExtensionObject in the way `write_data_change_notification` and
`write_status_change_notification` put it together: the type, the encoding, a length that is left
open, and the body. -/
def writeObject (typeId : UInt32) (body : RespondM ω Unit) : RespondM ω Unit := do
  RespondM.put (binaryWriteNodeid (some (numericNodeId typeId)))
  RespondM.put (binaryWriteByte 1)
  let lengthPosition ← writerPosition
  RespondM.put (binaryWriteInt32 0)
  let bodyStart ← writerPosition
  body
  backpatchLength lengthPosition bodyStart

/-! ## Data changes -/

/-- `datavalue_apply_timestamps` on the value `write_dcn_item_value` builds. The SemanticsChanged bit
is 0x4000; the modes of `mu_timestamps_to_return_t` are Source, Server and Both. -/
def notifiedValue (item : MonitoredItem ω κ) (entry : QueueEntry) (now : Int64) : DataValue :=
  let status := if item.semanticsChanged then entry.status ||| 0x4000 else entry.status
  { value := some entry.value
    status := if status ≠ Status.good then some status else none
    sourceTimestamp :=
      if item.timestampsToReturn = 0 ∨ item.timestampsToReturn = 2 then some now else none
    sourcePicoseconds := none
    serverTimestamp :=
      if item.timestampsToReturn = 1 ∨ item.timestampsToReturn = 2 then some now else none
    serverPicoseconds := none }

def writeDcnItemValue (now : Int64) (report : MonitoredItem ω κ × QueueEntry) : WriteM Unit := do
  binaryWriteUint32 report.1.clientHandle
  binaryWriteDatavalue (some (notifiedValue report.1 report.2 now))

/-- `write_data_change_notification`; the clock is read behind the number of items. -/
def writeDataChangeNotification (cfg : EngineConfig ω κ) (subs : Subs ω κ) (sub : Subscription)
    (reportCount : Nat) : RespondM ω Unit :=
  writeObject 811 do
    RespondM.put (binaryWriteInt32 (Int32.ofNat reportCount))
    let now ← resolveTimestamp cfg.timeAdapter
    RespondM.put (writeMany (writeDcnItemValue now) (subs.entriesToReport cfg.caps sub reportCount))
    RespondM.put (binaryWriteInt32 0)

/-! ## Status changes -/

def writeStatusChangeNotification (status : StatusCode) : RespondM ω Unit :=
  writeObject 820 do
    RespondM.put (binaryWriteStatuscode status)
    RespondM.put (binaryWriteByte 0)

/-! ## Events -/

def Subs.eventItems (subs : Subs ω κ) (sub : Subscription) : List (MonitoredItem ω κ) :=
  subs.items.filterMap fun slot => slot.filter fun item =>
    item.inSubscription sub ∧ item.attributeId = 12 ∧ item.monitoringMode = monitoringModeReporting

def auditStrVariant (s : MuString) : Variant :=
  if s.length < 0 then Variant.zero else ⟨.string, .scalar s, 0⟩

def resolveAuditPayload (pool : List AuditPayload) (event : EventNotification) :
    Option AuditPayload := do
  let (index, sequence) ← event.auditRef
  let payload ← pool[index.toNat]?
  if payload.sequence = sequence then some payload else none

def resolveAuditField (payload : Option AuditPayload) (field : UInt8) : Variant :=
  match payload with
  | none => Variant.zero
  | some payload =>
    match field.toNat with
    | 9 => ⟨.boolean, .scalar payload.status, 0⟩
    | 10 => ⟨.dateTime, .scalar payload.actionTimestamp, 0⟩
    | 11 => auditStrVariant payload.serverId
    | 12 => auditStrVariant payload.clientAuditEntryId
    | 13 => auditStrVariant payload.clientUserId
    | 17 => auditStrVariant payload.secureChannelId
    | 14 => ⟨.uint32, .scalar payload.attributeId, 0⟩
    | 15 => payload.oldValue
    | 16 => payload.newValue
    | 18 => ⟨.nodeId, .scalar payload.sessionId, 0⟩
    | _ => Variant.zero

/-- `mu_event_notification_resolve_field`. -/
def eventNotificationResolveField (pool : List AuditPayload) (event : EventNotification)
    (field : UInt8) : Variant :=
  let auditPayload := resolveAuditPayload pool event
  match field.toNat, auditPayload with
  | 0, some payload => ⟨.byteString, .scalar payload.eventId, 0⟩
  | 0, none => ⟨.byteString, .scalar event.eventId, 0⟩
  | 1, _ => ⟨.nodeId, .scalar event.eventType, 0⟩
  | 2, some payload => ⟨.nodeId, .scalar payload.sourceNode, 0⟩
  | 3, some _ => ⟨.string, .scalar (MuString.ofBytes (ascii "Server")), 0⟩
  | 4, _ => ⟨.dateTime, .scalar event.time, 0⟩
  | 5, some payload => ⟨.dateTime, .scalar payload.actionTimestamp, 0⟩
  | 7, _ => ⟨.localizedText, .scalar ⟨MuString.null, event.message⟩, 0⟩
  | 8, _ => ⟨.uint16, .scalar event.severity, 0⟩
  | _, _ => resolveAuditField auditPayload field

def writeEventFields (cfg : EngineConfig ω κ) (world : ω)
    (report : MonitoredItem ω κ × EventNotification) : WriteM Unit := do
  binaryWriteUint32 report.1.clientHandle
  binaryWriteInt32 (Int32.ofNat report.1.selectClauses.length)
  writeMany (fun field => binaryWriteVariant
    (some (eventNotificationResolveField (cfg.auditPool world) report.2 field)))
    report.1.selectClauses

/-- The body of an EventNotificationList; the array's length is known after filtering. -/
def writeEventFieldLists (cfg : EngineConfig ω κ) (world : ω)
    (reports : List (MonitoredItem ω κ × EventNotification)) : WriteM Unit := do
  let countPosition := (← get).position
  binaryWriteInt32 0
  writeMany (writeEventFields cfg world) reports
  backpatchInt32 countPosition (Int32.ofNat reports.length)

def writeEventNotificationList (cfg : EngineConfig ω κ) (subs : Subs ω κ) (sub : Subscription)
    (world : ω) : WriteM Unit :=
  let items := subs.eventItems sub
  if items = [] then binaryWriteExtensionObjectHeader (some (numericNodeId 914)) 0
  else
    let reports := items.flatMap fun item =>
      (sub.eventQueue.filter (cfg.whereClauseEval item.whereClause)).map (item, ·)
    match writeEventFieldLists cfg world reports (BinaryWriter.init (List.replicate 1024 0)) with
    | .error status _ => throw status
    | .ok _ body => do
      binaryWriteExtensionObjectHeader (some (numericNodeId 914)) body.position
      writeBlock body.written Status.badOutOfMemory

/-! ## The response -/

inductive NotificationContent where
  | keepAlive
  | statusChange (status : StatusCode)
  | data (reportCount : Nat)
  deriving DecidableEq

/-- `write_publish_response_prefix`; 829 is the type of a Publish response. -/
def writePublishResponsePrefix (requestHandle : UInt32) : WriteM Unit := do
  binaryWriteNodeid (some (numericNodeId 829))
  responseHeaderEncode
    { timestamp := 0, requestHandle, serviceResult := Status.good, returnDiagnostics := 0 }

/-- `write_publish_response_header` up to the NotificationMessage. -/
def writePublishResponseHeader (sub : Subscription) (requestHandle : UInt32)
    (content : NotificationContent) : WriteM Unit := do
  writePublishResponsePrefix requestHandle
  binaryWriteUint32 sub.subscriptionId
  binaryWriteInt32 0
  binaryWriteBoolean <| match content with
    | .data _ => sub.moreNotifications
    | _ => false

def notificationDataCount (sub : Subscription) : NotificationContent → Int32
  | .keepAlive => 0
  | .statusChange _ => 1
  | .data reportCount =>
    (if 0 < reportCount then 1 else 0) + (if 0 < sub.eventQueue.length then 1 else 0)

def writePublishResponseResults (request : PublishRequest) : WriteM Unit := do
  binaryWriteInt32 (Int32.ofNat request.ackResults.val.length)
  writeMany binaryWriteStatuscode request.ackResults.val
  binaryWriteInt32 0

/-- The events of a subscription, if there are any; their fields are resolved as they are now. -/
def writeQueuedEvents (cfg : EngineConfig ω κ) (subs : Subs ω κ) (sub : Subscription) :
    RespondM ω Unit := fun (writer, world) =>
  RespondM.put (writeIf (0 < sub.eventQueue.length)
    (writeEventNotificationList cfg subs sub world)) (writer, world)

def writeNotificationData (cfg : EngineConfig ω κ) (subs : Subs ω κ) (sub : Subscription) :
    NotificationContent → RespondM ω Unit
  | .keepAlive => pure ()
  | .statusChange status => writeStatusChangeNotification status
  | .data reportCount => do
    if 0 < reportCount then writeDataChangeNotification cfg subs sub reportCount
    writeQueuedEvents cfg subs sub

/-- What a NotificationMessage starts with: its number, the time and how much it carries. -/
def writeNotificationHeader (sub : Subscription) (sequenceNumber : UInt32) (publishTime : Int64)
    (content : NotificationContent) : WriteM Unit := do
  binaryWriteUint32 sequenceNumber
  binaryWriteInt64 publishTime
  binaryWriteInt32 (notificationDataCount sub content)

/-- `build_publish_response`: where the NotificationMessage starts and ends. -/
def buildPublishResponse (cfg : EngineConfig ω κ) (subs : Subs ω κ) (sub : Subscription)
    (request : PublishRequest) (sequenceNumber : UInt32) (content : NotificationContent)
    (publishTime : Int64) : RespondM ω (Nat × Nat) := do
  RespondM.put (writePublishResponseHeader sub request.requestHandle content)
  let messageStart ← writerPosition
  RespondM.put (writeNotificationHeader sub sequenceNumber publishTime content)
  writeNotificationData cfg subs sub content
  let messageEnd ← writerPosition
  RespondM.put (writePublishResponseResults request)
  return (messageStart, messageEnd)

end MucOpcua
