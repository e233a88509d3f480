import MucOpcua.Subscription.Sampling

/-!
# The tables of the engine

`tick.c` without its tick, `retransmit.c`, `publish_request_dequeue` of `publish_due.c`, the trigger
links of `subscription_aggregate.c` and `find_monitored_item`: looking up, taking up and releasing
slots.
-/

namespace MucOpcua

variable {ω κ : Type}
variable {index : Nat} {sessionId : UInt32}

/-! ## Slots -/

def freeSlot {α : Type} (slots : List (Option α)) : Option Nat := slots.findIdx? Option.isNone

def findSlot {α : Type} (p : α → Bool) (slots : List (Option α)) : Option Nat :=
  slots.findIdx? fun slot => slot.any p

namespace Subs

variable (subs : Subs ω κ)

def subscription? (index : Nat) : Option Subscription := subs.subscriptions[index]?.join

def setSubscription (index : Nat) (sub : Option Subscription) : Subs ω κ :=
  { subs with subscriptions := subs.subscriptions.set index sub }

def items : List (Option (MonitoredItem ω κ)) := subs.monitoredItems.map ItemSlot.item

def item? (index : Nat) : Option (MonitoredItem ω κ) := subs.items[index]?.join

def setItem (index : Nat) (item : Option (MonitoredItem ω κ)) : Subs ω κ :=
  { subs with
    monitoredItems := subs.monitoredItems.modify index fun slot => { slot with item } }

def mapItems (f : MonitoredItem ω κ → Option (MonitoredItem ω κ)) : Subs ω κ :=
  { subs with
    monitoredItems := subs.monitoredItems.map fun slot => { slot with item := slot.item.bind f } }

def log (record : Record) : Subs ω κ :=
  { subs with history := { subs.history with records := subs.history.records ++ [record] } }

/-! ## Identifiers -/

/-- The loop `allocate_subscription_id` and `allocate_monitored_item_id` share: an id that is not in
use, or 0, and the id to try next. -/
def allocateId (inUse : UInt32 → Bool) : Nat → UInt32 → UInt32 × UInt32
  | 0, next => (0, next)
  | n + 1, next =>
    let id := if next = 0 then 1 else next
    let next := if id + 1 = 0 then 1 else id + 1
    if inUse id then allocateId inUse n next else (id, next)

/-- `subscription_id_in_use` and `monitored_item_id_in_use`. -/
def subscriptionIdInUse (id : UInt32) : Bool :=
  subs.subscriptions.any fun slot => slot.any fun sub => sub.subscriptionId = id

def monitoredItemIdInUse (id : UInt32) : Bool :=
  subs.items.any fun slot => slot.any fun item => item.monitoredItemId = id

/-! ## Subscriptions -/

def subscriptionFind (sessionId subscriptionId : UInt32) : Option Nat :=
  findSlot (fun sub => sub.sessionId = sessionId ∧ sub.subscriptionId = subscriptionId)
    subs.subscriptions

def subscriptionFindAny (subscriptionId : UInt32) : Option Nat :=
  findSlot (fun sub => sub.subscriptionId = subscriptionId) subs.subscriptions

def countForSession (sessionId : UInt32) : Nat :=
  subs.subscriptions.countP fun slot => slot.any fun sub => sub.sessionId = sessionId

/-- `revise_subscription_counts`: the lifetime count and the keep-alive count. -/
def reviseSubscriptionCounts (requestedLifetimeCount requestedMaxKeepAliveCount : UInt32) :
    UInt32 × UInt32 :=
  let keepAlive := if requestedMaxKeepAliveCount = 0 then 1 else requestedMaxKeepAliveCount
  let keepAlive := if 0xFFFFFFFF / 3 < keepAlive then 0xFFFFFFFF / 3 else keepAlive
  let minLifetime := keepAlive * 3
  (if requestedLifetimeCount < minLifetime then minLifetime else requestedLifetimeCount, keepAlive)

structure SubscriptionParameters where
  publishingIntervalMs : UInt32
  requestedLifetimeCount : UInt32
  requestedMaxKeepAliveCount : UInt32
  maxNotificationsPerPublish : UInt32
  priority : UInt8

def applyParameters (sub : Subscription) (p : SubscriptionParameters) : Subscription :=
  let (lifetimeCount, maxKeepAliveCount) :=
    reviseSubscriptionCounts p.requestedLifetimeCount p.requestedMaxKeepAliveCount
  { sub with
    publishingIntervalMs := p.publishingIntervalMs
    maxKeepAliveCount
    lifetimeCount
    maxNotificationsPerPublish := p.maxNotificationsPerPublish
    priority := p.priority }

/-- A slot as `mu_subscription_create` fills it before the parameters are applied. -/
def newSubscription (sessionId subscriptionId : UInt32) (publishingEnabled : Bool)
    (nextPublishMs : UInt64) (uid : Nat) : Subscription where
  nextPublishMs := nextPublishMs
  retransmit := none
  subscriptionId := subscriptionId
  sessionId := sessionId
  publishingIntervalMs := 0
  maxKeepAliveCount := 0
  lifetimeCount := 0
  maxNotificationsPerPublish := 0
  sequenceNumber := 1
  keepAliveCounter := 0
  lifetimeCounter := 0
  priority := 0
  publishingEnabled := publishingEnabled
  moreNotifications := false
  resendDataPending := false
  eventQueue := []
  uid := uid

def subscriptionCreate (sessionId : UInt32) (p : SubscriptionParameters)
    (publishingEnabled : Bool) (nowMs : UInt64) : Except BadStatus Subscription × Subs ω κ :=
  match freeSlot subs.subscriptions with
  | none => (.error Status.badTooManySubscriptions, subs)
  | some index =>
    let (subscriptionId, nextSubscriptionId) := allocateId subs.subscriptionIdInUse
      (subs.subscriptions.length + 1) subs.nextSubscriptionId
    let subs := { subs with nextSubscriptionId }
    if subscriptionId = 0 then (.error Status.badTooManySubscriptions, subs)
    else
      let uid := subs.history.nextUid
      let sub := applyParameters
        (newSubscription sessionId subscriptionId publishingEnabled
          (nowMs + p.publishingIntervalMs.toUInt64) uid) p
      (.ok sub, { subs.setSubscription index (some sub) with
        history := { subs.history with nextUid := uid + 1 } })

/-! ## Monitored items -/

/-- Release the items with a property; the count is not let below zero. -/
def releaseItems (p : MonitoredItem ω κ → Bool) : Subs ω κ :=
  { subs.mapItems (fun item => if p item then none else some item) with
    activeMonitoredItemsCount :=
      let released := subs.items.countP fun slot => slot.any p
      UInt32.ofNat (subs.activeMonitoredItemsCount.toNat - released) }

def subscriptionDelete (sessionId subscriptionId : UInt32) :
    Except BadStatus Unit × Subs ω κ :=
  match subs.subscriptionFind sessionId subscriptionId with
  | none => (.error Status.badSubscriptionIdInvalid, subs)
  | some index =>
    (.ok (), (subs.releaseItems fun item => item.subscriptionId = subscriptionId).setSubscription
      index none)

/-- `memset(slot, 0, sizeof(*slot))` and what `mu_monitored_item_alloc` fills in. -/
def newItem (cfg : EngineConfig ω κ) (subscriptionId monitoredItemId : UInt32) (uid : Nat) :
    MonitoredItem ω κ where
  nextSampleMs := 0
  deadbandValue := 0
  lastReportedNumeric := 0
  deadbandSpan := 0
  aggregateState := ⟨0, 0, cfg.zeroAccumulator, 0, 0⟩
  resolvedNode := none
  lastValue := Variant.zero
  nodeId := ⟨0, .numeric 0⟩
  monitoredItemId := monitoredItemId
  subscriptionId := subscriptionId
  clientHandle := 0
  attributeId := 0
  samplingIntervalMs := 0
  indexRangeStart := -1
  indexRangeEnd := 0
  lastStatus := Status.good
  triggeredItems := []
  queue := ⟨0, List.replicate cfg.caps.queueDepth QueueEntry.zero, 0, 0, 0, false, false, 0⟩
  monitoringMode := 0
  trigger := 0
  timestampsToReturn := 0
  hasValue := false
  pending := false
  semanticsChanged := false
  deadbandType := 0
  hasReported := false
  hasAggregate := false
  selectClauses := []
  whereClause := WhereClause.empty
  uid := uid

/-- `mu_monitored_item_alloc`: the slot that was taken up. -/
def monitoredItemAlloc (cfg : EngineConfig ω κ) (subscriptionId : UInt32) :
    Except BadStatus (Nat × MonitoredItem ω κ) × Subs ω κ :=
  match freeSlot subs.items with
  | none => (.error Status.badTooManyMonitoredItems, subs)
  | some index =>
    let (monitoredItemId, nextMonitoredItemId) := allocateId subs.monitoredItemIdInUse
      (subs.monitoredItems.length + 1) subs.nextMonitoredItemId
    let subs := { subs with nextMonitoredItemId }
    if monitoredItemId = 0 then (.error Status.badTooManyMonitoredItems, subs)
    else
      let uid := subs.history.nextUid
      let item := newItem cfg subscriptionId monitoredItemId uid
      (.ok (index, item), { subs.setItem index (some item) with
        activeMonitoredItemsCount := subs.activeMonitoredItemsCount + 1
        history := { subs.history with nextUid := uid + 1 } })

def findMonitoredItemInSubscription (subscriptionId monitoredItemId : UInt32) : Option Nat :=
  findSlot (fun item : MonitoredItem ω κ => item.subscriptionId = subscriptionId ∧
    item.monitoredItemId = monitoredItemId) subs.items

def monitoredItemDelete (subscriptionId monitoredItemId : UInt32) :
    Except BadStatus Unit × Subs ω κ :=
  match subs.findMonitoredItemInSubscription subscriptionId monitoredItemId with
  | none => (.error Status.badMonitoredItemIdInvalid, subs)
  | some index =>
    (.ok (), { subs.setItem index none with
      activeMonitoredItemsCount :=
        UInt32.ofNat (subs.activeMonitoredItemsCount.toNat - 1) })

/-- The loop of `find_monitored_item`, from the slot `index` on; it gives up after as many items in
use as the count says. -/
def findActiveItem (p : MonitoredItem ω κ → Bool) :
    Nat → Nat → List (Option (MonitoredItem ω κ)) → Option Nat
  | _, _, [] => none
  | _, 0, _ => none
  | index, active + 1, none :: slots => findActiveItem p (index + 1) (active + 1) slots
  | index, active + 1, some item :: slots =>
    if p item then some index else findActiveItem p (index + 1) active slots

def findMonitoredItem (subscriptionId monitoredItemId : UInt32) : Option Nat :=
  findActiveItem (fun item => item.subscriptionId = subscriptionId ∧
    item.monitoredItemId = monitoredItemId) 0 subs.activeMonitoredItemsCount.toNat subs.items

/-! ## Trigger links -/

def addTriggerLink (caps : EngineCapacities) (subscriptionId triggeringItemId linkedItemId : UInt32) :
    StatusCode × Subs ω κ :=
  match subs.findMonitoredItemInSubscription subscriptionId triggeringItemId,
      subs.findMonitoredItemInSubscription subscriptionId linkedItemId with
  | some index, some _ =>
    match subs.item? index with
    | none => (Status.badMonitoredItemIdInvalid.val, subs)
    | some item =>
      if linkedItemId ∈ item.triggeredItems then (Status.good, subs)
      else if caps.maxTriggerLinks ≤ item.triggeredItems.length then
        (Status.badTooManyOperations.val, subs)
      else
        (Status.good, subs.setItem index
          (some { item with triggeredItems := item.triggeredItems ++ [linkedItemId] }))
  | _, _ => (Status.badMonitoredItemIdInvalid.val, subs)

def removeTriggerLink (subscriptionId triggeringItemId linkedItemId : UInt32) :
    StatusCode × Subs ω κ :=
  match subs.findMonitoredItemInSubscription subscriptionId triggeringItemId,
      subs.findMonitoredItemInSubscription subscriptionId linkedItemId with
  | some index, some _ =>
    match subs.item? index with
    | none => (Status.badMonitoredItemIdInvalid.val, subs)
    | some item =>
      if linkedItemId ∈ item.triggeredItems then
        (Status.good, subs.setItem index
          (some { item with triggeredItems := item.triggeredItems.erase linkedItemId }))
      else (Status.badMonitoredItemIdInvalid.val, subs)
  | _, _ => (Status.badMonitoredItemIdInvalid.val, subs)

/-! ## Publish requests -/

def publishRequestQueueClear (sessionId : UInt32) : Subs ω κ :=
  { subs with
    publishQueue := subs.publishQueue.map fun slot =>
      slot.filter fun request => request.sessionId ≠ sessionId }

/-- `mu_publish_request_enqueue`, with what `handle_publish` stores in the slot it is given. -/
def publishRequestEnqueue (sessionId requestId requestHandle : UInt32) (nowMs : UInt64)
    (timeoutHint : UInt32)
    (ackResults : { results : List StatusCode // results.length ≤ maxPublishAcks }) :
    Except BadStatus Unit × Subs ω κ :=
  match freeSlot subs.publishQueue with
  | none => (.error Status.badTooManyPublishRequests, subs)
  | some index =>
    let uid := subs.history.nextUid
    (.ok (), { subs with
      publishQueue := subs.publishQueue.set index
        (some ⟨sessionId, requestHandle, requestId, nowMs, timeoutHint, ackResults, uid⟩)
      history := { subs.history with nextUid := uid + 1 } })

/-- The scan of `publish_request_dequeue` from the slot `index` on: the earliest request of the
session, the first slot of several. -/
def oldestRequest (sessionId : UInt32) :
    Nat → List (Option PublishRequest) → Option (Nat × UInt64) → Option (Nat × UInt64)
  | _, [], best => best
  | index, slot :: slots, best =>
    oldestRequest sessionId (index + 1) slots <|
      match slot with
      | none => best
      | some request =>
        if request.sessionId ≠ sessionId then best
        else
          match best with
          | none => some (index, request.enqueuedMs)
          | some (_, bestEnqueued) =>
            if request.enqueuedMs < bestEnqueued then some (index, request.enqueuedMs) else best

def publishRequestDequeue (sessionId : UInt32) : Option (PublishRequest × Subs ω κ) := do
  let (index, _) ← oldestRequest sessionId 0 subs.publishQueue none
  let request ← subs.publishQueue[index]?.join
  return (request, { subs with publishQueue := subs.publishQueue.set index none })

/-! ## Retransmission -/

def storeRetransmit (sub : Subscription) (sequenceNumber : UInt32) (publishTime : Int64)
    (body : List UInt8) : Subscription :=
  { sub with
    retransmit :=
      if h : body.length ≤ retransmitBytes then some ⟨sequenceNumber, publishTime, ⟨body, h⟩⟩
      else none }

def holdsMessage (sub : Subscription) (sequenceNumber : UInt32) : Bool :=
  sub.retransmit.any fun retained => retained.sequenceNumber = sequenceNumber

def acknowledge (sessionId subscriptionId sequenceNumber : UInt32) : StatusCode × Subs ω κ :=
  match subs.subscriptionFind sessionId subscriptionId with
  | none => (Status.badSubscriptionIdInvalid.val, subs)
  | some index =>
    match subs.subscription? index with
    | none => (Status.badSubscriptionIdInvalid.val, subs)
    | some sub =>
      let subs := subs.log (.acknowledged sub.uid sequenceNumber)
      if holdsMessage sub sequenceNumber then
        (Status.good, subs.setSubscription index (some { sub with retransmit := none }))
      else (Status.badSequenceNumberUnknown.val, subs)

def republish (sessionId subscriptionId sequenceNumber : UInt32) :
    Except BadStatus (List UInt8) :=
  match subs.subscriptionFind sessionId subscriptionId with
  | none => .error Status.badSubscriptionIdInvalid
  | some index =>
    match (subs.subscription? index).bind Subscription.retransmit with
    | none => .error Status.badMessageNotAvailable
    | some retained =>
      if retained.sequenceNumber = sequenceNumber then .ok retained.message.val
      else .error Status.badMessageNotAvailable

/-! ## Transfer, resend and events -/

/-- `mu_subscription_transfer` of a subscription in use. -/
def transfer (index : Nat) (sub : Subscription) (newSessionId : UInt32) : Subs ω κ :=
  let subs := subs.setSubscription index (some { sub with sessionId := newSessionId })
  if sub.sessionId ≠ newSessionId ∧ subs.countForSession sub.sessionId = 0 then
    subs.publishRequestQueueClear sub.sessionId
  else subs

def requestResendData (sessionId subscriptionId : UInt32) : StatusCode × Subs ω κ :=
  match subs.subscriptionFind sessionId subscriptionId with
  | none => (Status.badSubscriptionIdInvalid.val, subs)
  | some index =>
    (Status.good, { subs with
      subscriptions := subs.subscriptions.modify index
        (Option.map fun sub => { sub with resendDataPending := true }) })

/-- `mu_server_trigger_event`: every subscription queues the event, the oldest of eight makes
room. -/
def triggerEvent (event : EventNotification) : Subs ω κ :=
  { subs with
    subscriptions := subs.subscriptions.map <| Option.map fun sub =>
      let queued :=
        if maxEventQueueSize ≤ sub.eventQueue.length then sub.eventQueue.drop 1 else sub.eventQueue
      { sub with eventQueue := queued ++ [event] } }

/-- `mu_subscriptions_init`. -/
def init (caps : EngineCapacities) (history : History) : Subs ω κ where
  subscriptions := List.replicate caps.maxSubscriptions none
  monitoredItems := List.replicate caps.maxMonitoredItems ⟨none, false⟩
  publishQueue := List.replicate caps.maxPublishRequests none
  nextSubscriptionId := 1
  nextMonitoredItemId := 1
  activeMonitoredItemsCount := 0
  history := history

end Subs

/-! ## The order of parked requests -/

/-- The order of `publish_request_dequeue`, for slots with their times: the time decides, and among
equal times the slot. -/
def EarlierSlot (a b : Nat × UInt64) : Prop := a.2 < b.2 ∨ a.2 = b.2 ∧ a.1 < b.1

theorem EarlierSlot.irrefl (a : Nat × UInt64) : ¬ EarlierSlot a a := by
  unfold EarlierSlot
  grind

theorem EarlierSlot.asymm {a b : Nat × UInt64} (h : EarlierSlot a b) : ¬ EarlierSlot b a := by
  unfold EarlierSlot at h ⊢
  grind

theorem EarlierSlot.not_trans {a b c : Nat × UInt64} (h : ¬ EarlierSlot a b)
    (h' : ¬ EarlierSlot b c) : ¬ EarlierSlot a c := by
  unfold EarlierSlot at h h' ⊢
  grind

theorem EarlierSlot.of_not {a b : Nat × UInt64} (h : ¬ EarlierSlot b a) (hne : a.1 ≠ b.1) :
    EarlierSlot a b := by
  unfold EarlierSlot at h ⊢
  grind

/-! ## What the searches find -/

theorem freeSlot_some {α : Type} {slots : List (Option α)}
    (h : freeSlot slots = some index) : slots[index]? = some none := by
  obtain ⟨hlt,hfree,-⟩ := List.findIdx?_eq_some_iff_getElem.mp h
  rw [List.getElem?_eq_getElem hlt,Option.isNone_iff_eq_none.mp hfree]

theorem findSlot_some {α : Type} {p : α → Bool} {slots : List (Option α)}
    (h : findSlot p slots = some index) : ∃ a, slots[index]? = some (some a) ∧ p a = true := by
  obtain ⟨hlt,hfound,-⟩ := List.findIdx?_eq_some_iff_getElem.mp h
  cases hslot : slots[index] with
  | none => simp [hslot] at hfound
  | some a => exact ⟨a,by rw [List.getElem?_eq_getElem hlt,hslot],by simpa [hslot] using hfound⟩

theorem findActiveItem_some {p : MonitoredItem ω κ → Bool}
    {slots : List (Option (MonitoredItem ω κ))} {first active : Nat}
    (h : Subs.findActiveItem p first active slots = some index) :
    ∃ i item, index = first + i ∧ slots[i]? = some (some item) ∧ p item = true := by
  induction slots generalizing first active with
  | nil => cases active <;> cases h
  | cons slot slots ih =>
    cases active with
    | zero => cases slot <;> cases h
    | succ active =>
      cases slot with
      | none =>
        obtain ⟨i,item,hindex,hslot,hp⟩ := ih h
        exact ⟨i + 1,item,by omega,hslot,hp⟩
      | some item =>
        rw [Subs.findActiveItem] at h
        split at h
        · next hp =>
          cases h
          exact ⟨0,item,rfl,rfl,hp⟩
        · obtain ⟨i,item',hindex,hslot,hp⟩ := ih h
          exact ⟨i + 1,item',by omega,hslot,hp⟩

namespace Subs

variable {s : Subs ω κ} {subscriptionId : UInt32}

theorem findMonitoredItem_some {monitoredItemId : UInt32}
    (h : s.findMonitoredItem subscriptionId monitoredItemId = some index) :
    ∃ item, s.items[index]? = some (some item) ∧ item.subscriptionId = subscriptionId ∧
      item.monitoredItemId = monitoredItemId := by
  obtain ⟨i,item,hindex,hslot,hp⟩ := findActiveItem_some h
  rw [Nat.zero_add] at hindex
  exact ⟨item,hindex ▸ hslot,of_decide_eq_true hp⟩

theorem allocateId_unused (inUse : UInt32 → Bool) (n : Nat) (next : UInt32)
    (h : (allocateId inUse n next).1 ≠ 0) : inUse (allocateId inUse n next).1 = false := by
  induction n generalizing next with
  | zero => exact absurd rfl h
  | succ n ih =>
    unfold allocateId at h ⊢
    generalize (if next = 0 then 1 else next) = id at h ⊢
    by_cases hused : inUse id = true
    · rw [if_pos hused] at h ⊢
      exact ih _ h
    · rw [if_neg hused]
      exact Bool.eq_false_iff.mpr hused

theorem subscription?_eq_some {sub : Subscription} :
    s.subscription? index = some sub ↔ s.subscriptions[index]? = some (some sub) :=
  Option.join_eq_some_iff

theorem item?_eq_some {item : MonitoredItem ω κ} :
    s.item? index = some item ↔ s.items[index]? = some (some item) :=
  Option.join_eq_some_iff

theorem items_setItem (index : Nat) (item : Option (MonitoredItem ω κ)) :
    (s.setItem index item).items = s.items.set index item := by
  simp only [items,setItem]
  apply List.ext_getElem?
  intro i
  by_cases hi : index = i
  · subst hi
    cases hslot : s.monitoredItems[index]? with
    | none => simp [List.getElem?_eq_none_iff.mp hslot]
    | some slot => simp [(List.getElem?_eq_some_iff.mp hslot).1]
  · simp [hi]

theorem findMonitoredItemInSubscription_some {monitoredItemId : UInt32}
    (h : s.findMonitoredItemInSubscription subscriptionId monitoredItemId = some index) :
    ∃ item, s.item? index = some item ∧ item.subscriptionId = subscriptionId ∧
      item.monitoredItemId = monitoredItemId := by
  obtain ⟨item,hslot,hp⟩ := findSlot_some h
  exact ⟨item,item?_eq_some.mpr hslot,of_decide_eq_true hp⟩

def inUse (s : Subs ω κ) (subscriptionId monitoredItemId : UInt32) : Bool :=
  (s.findMonitoredItemInSubscription subscriptionId monitoredItemId).isSome

/-- At most one item has other links, all of them distinct and to items of the subscription if they
were before. -/
def Relinked (s s' : Subs ω κ) : Prop :=
  s' = s ∨ ∃ index item links, s.item? index = some item ∧
    s' = s.setItem index (some { item with triggeredItems := links }) ∧
    (item.triggeredItems.Nodup → links.Nodup) ∧
    ∀ id ∈ links, id ∈ item.triggeredItems ∨ s.inUse item.subscriptionId id = true

theorem addTriggerLink_relinked (caps : EngineCapacities)
    (subscriptionId triggeringItemId linkedItemId : UInt32) (s : Subs ω κ) :
    Relinked s (s.addTriggerLink caps subscriptionId triggeringItemId linkedItemId).2 := by
  unfold addTriggerLink
  split
  · next index _ hindex hlinked =>
    obtain ⟨item,hitem,rfl,-⟩ := findMonitoredItemInSubscription_some hindex
    rw [hitem]
    dsimp only
    split
    · exact .inl rfl
    rename_i hnew
    split
    · exact .inl rfl
    refine .inr ⟨index,item,_,hitem,rfl,fun h => ?_,fun id hid => ?_⟩
    · exact h.append (List.nodup_singleton _) (List.disjoint_singleton.mpr hnew)
    · rcases List.mem_append.mp hid with hid | hid
      · exact .inl hid
      · rw [List.mem_singleton.mp hid,inUse,hlinked]
        exact .inr rfl
  · exact .inl rfl

theorem removeTriggerLink_relinked (subscriptionId triggeringItemId linkedItemId : UInt32)
    (s : Subs ω κ) :
    Relinked s (s.removeTriggerLink subscriptionId triggeringItemId linkedItemId).2 := by
  unfold removeTriggerLink
  split
  · split
    · exact .inl rfl
    · next item hitem =>
      split
      · exact .inr ⟨_,item,_,hitem,rfl,fun h => h.erase _,
          fun _ hid => .inl (List.mem_of_mem_erase hid)⟩
      · exact .inl rfl
  · exact .inl rfl

theorem subscription?_setSubscription {sub : Subscription}
    (h : s.subscription? index = some sub) (slot : Option Subscription) :
    (s.setSubscription index slot).subscription? index = slot := by
  obtain ⟨hlt,-⟩ := List.getElem?_eq_some_iff.mp (subscription?_eq_some.mp h)
  show (s.subscriptions.set index slot)[index]?.join = slot
  rw [List.getElem?_set_self hlt]
  rfl

theorem subscription?_setSubscription_ne {index' : Nat} (h : index ≠ index')
    (slot : Option Subscription) :
    (s.setSubscription index slot).subscription? index' = s.subscription? index' := by
  show (s.subscriptions.set index slot)[index']?.join = _
  rw [List.getElem?_set_ne h]
  rfl

theorem subscriptionFind_some (h : s.subscriptionFind sessionId subscriptionId = some index) :
    ∃ sub, s.subscription? index = some sub ∧ sub.sessionId = sessionId ∧
      sub.subscriptionId = subscriptionId := by
  obtain ⟨sub,hsub,hp⟩ := findSlot_some h
  exact ⟨sub,subscription?_eq_some.mpr hsub,of_decide_eq_true hp⟩

theorem subscriptionFindAny_some (h : s.subscriptionFindAny subscriptionId = some index) :
    ∃ sub, s.subscription? index = some sub ∧ sub.subscriptionId = subscriptionId := by
  obtain ⟨sub,hsub,hp⟩ := findSlot_some h
  exact ⟨sub,subscription?_eq_some.mpr hsub,of_decide_eq_true hp⟩

/-- The candidate of the scan behind the slot `index`. -/
def nextOldest (sessionId : UInt32) (index : Nat) (slot : Option PublishRequest)
    (best : Option (Nat × UInt64)) : Option (Nat × UInt64) :=
  match slot with
  | none => best
  | some request =>
    if request.sessionId ≠ sessionId then best
    else
      match best with
      | none => some (index, request.enqueuedMs)
      | some (_, bestEnqueued) =>
        if request.enqueuedMs < bestEnqueued then some (index, request.enqueuedMs) else best

theorem oldestRequest_cons (sessionId : UInt32) (index : Nat) (slot : Option PublishRequest)
    (slots : List (Option PublishRequest)) (best : Option (Nat × UInt64)) :
    oldestRequest sessionId index (slot :: slots) best =
      oldestRequest sessionId (index + 1) slots (nextOldest sessionId index slot best) := rfl

variable {best : Option (Nat × UInt64)}

theorem nextOldest_earliest (sessionId : UInt32) (slot : Option PublishRequest)
    (hbest : ∀ b ∈ best, b.1 < index) :
    (∀ b ∈ nextOldest sessionId index slot best, b.1 < index + 1) ∧
      (∀ b ∈ best, ∃ b' ∈ nextOldest sessionId index slot best, ¬ EarlierSlot b b') ∧
      ∀ request, slot = some request → request.sessionId = sessionId →
        ∃ b' ∈ nextOldest sessionId index slot best,
          ¬ EarlierSlot (index, request.enqueuedMs) b' := by
  cases slot with
  | none =>
    exact ⟨fun b hb => Nat.lt_succ_of_lt (hbest b hb),
      fun b hb => ⟨b,hb,EarlierSlot.irrefl b⟩,nofun⟩
  | some request =>
    by_cases hsession : request.sessionId = sessionId
    · cases best with
      | none => simp [nextOldest,EarlierSlot.irrefl]
      | some b =>
        have hb := hbest b rfl
        by_cases hlt : request.enqueuedMs < b.2
        · have hlater : ¬ EarlierSlot b (index, request.enqueuedMs) := by
            unfold EarlierSlot
            grind
          simp [nextOldest,hsession,hlt,hlater,EarlierSlot.irrefl]
        have hlater : ¬ EarlierSlot (index, request.enqueuedMs) b := by
          unfold EarlierSlot
          grind
        simp [nextOldest,hlt,hlater,EarlierSlot.irrefl]
        omega
    · simp only [nextOldest,ne_eq,hsession]
      refine ⟨fun b hb => Nat.lt_succ_of_lt (hbest b hb),
        fun b hb => ⟨b,hb,EarlierSlot.irrefl b⟩,?_⟩
      rintro _ ⟨⟩ hsession'
      exact absurd hsession' hsession

theorem oldestRequest_earliest {slots : List (Option PublishRequest)}
    {first : Nat} {found : Nat × UInt64}
    (h : oldestRequest sessionId first slots best = some found) (hbest : ∀ b ∈ best, b.1 < first) :
    (∀ b ∈ best, ¬ EarlierSlot b found) ∧ ∀ (i : Nat) (request : PublishRequest),
      slots[i]? = some (some request) → request.sessionId = sessionId →
        ¬ EarlierSlot (first + i, request.enqueuedMs) found := by
  induction slots generalizing first best with
  | nil =>
    cases h
    refine ⟨fun b hb => ?_,fun _ _ hslot => nomatch hslot⟩
    cases hb
    exact EarlierSlot.irrefl found
  | cons slot slots ih =>
    obtain ⟨hnext,hold,hhead⟩ := nextOldest_earliest sessionId slot hbest
    obtain ⟨hfound,hrest⟩ := ih h hnext
    refine ⟨fun b hb => ?_,fun i request hslot hsession => ?_⟩
    · obtain ⟨b',hb',hle⟩ := hold b hb
      exact EarlierSlot.not_trans hle (hfound b' hb')
    · cases i with
      | zero =>
        obtain ⟨b',hb',hle⟩ := hhead request (Option.some.inj hslot) hsession
        exact EarlierSlot.not_trans hle (hfound b' hb')
      | succ i =>
        have htail := hrest i request hslot hsession
        rwa [Nat.add_right_comm] at htail

theorem oldestRequest_some {slots : List (Option PublishRequest)}
    {first : Nat} {found : Nat × UInt64}
    (h : oldestRequest sessionId first slots best = some found) :
    best = some found ∨ ∃ i request, found = (first + i, request.enqueuedMs) ∧
      slots[i]? = some (some request) ∧ request.sessionId = sessionId := by
  induction slots generalizing first best with
  | nil => exact .inl h
  | cons slot slots ih =>
    rw [oldestRequest_cons] at h
    rcases ih h with hbest | ⟨i,request,rfl,hslot,hsession⟩
    · unfold nextOldest at hbest
      split at hbest
      · exact .inl hbest
      rename_i request
      split at hbest
      · exact .inl hbest
      rename_i hsession
      have hhead (hfirst : some (first, request.enqueuedMs) = some found) :
          ∃ i request', found = (first + i, request'.enqueuedMs) ∧
            (some request :: slots)[i]? = some (some request') ∧
            request'.sessionId = sessionId :=
        ⟨0,request,(Option.some.inj hfirst).symm,rfl,not_not.mp hsession⟩
      split at hbest
      · exact .inr (hhead hbest)
      split at hbest
      · exact .inr (hhead hbest)
      · exact .inl hbest
    · exact .inr ⟨i + 1,request,by rw [Nat.add_right_comm]; rfl,hslot,hsession⟩

def dropRequest (s : Subs ω κ) (i : Nat) : Subs ω κ :=
  { s with publishQueue := s.publishQueue.set i none }

theorem publishRequestDequeue_some {request : PublishRequest} {s' : Subs ω κ}
    (h : s.publishRequestDequeue sessionId = some (request, s')) :
    ∃ i, s.publishQueue[i]? = some (some request) ∧ request.sessionId = sessionId ∧
      s' = s.dropRequest i ∧
      oldestRequest sessionId 0 s.publishQueue none = some (i, request.enqueuedMs) ∧
      ∀ (j : Nat) (request' : PublishRequest), j ≠ i →
        s.publishQueue[j]? = some (some request') → request'.sessionId = sessionId →
          EarlierSlot (i, request.enqueuedMs) (j, request'.enqueuedMs) := by
  obtain ⟨found,holdest,h⟩ := Option.bind_eq_some_iff.mp h
  obtain ⟨request',hslot,h⟩ := Option.bind_eq_some_iff.mp h
  obtain ⟨rfl,rfl⟩ := Prod.mk.inj (Option.some.inj h)
  have hearliest := (oldestRequest_earliest holdest nofun).2
  rcases oldestRequest_some holdest with hnone | ⟨i,request,rfl,hrequest,hsession⟩
  · cases hnone
  simp only [Nat.zero_add] at hslot hearliest holdest
  rw [hrequest] at hslot
  cases hslot
  refine ⟨i,hrequest,hsession,by rw [Nat.zero_add]; rfl,holdest,
    fun j request' hne hj hsession' => ?_⟩
  exact EarlierSlot.of_not (hearliest j request' hj hsession') (Ne.symm hne)

end Subs

end MucOpcua
