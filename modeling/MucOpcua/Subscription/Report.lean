import MucOpcua.Subscription.Table

/-!
# Which queued values a publish reports

`deadband.c`: the passes over the reportable items that count, that encode and that clear.
-/

namespace MucOpcua

variable {ω κ : Type}

/-! ## The items of a pass -/

namespace MonitoredItem

/-- `monitored_item_in_subscription` of an item in use. -/
def inSubscription (item : MonitoredItem ω κ) (sub : Subscription) : Bool :=
  item.subscriptionId = sub.subscriptionId

def reportable (sub : Subscription) (item : MonitoredItem ω κ) : Bool :=
  item.inSubscription sub ∧ item.hasReport ∧ item.monitoringMode = monitoringModeReporting

def reportsByTrigger (items : List (Option (MonitoredItem ω κ))) (sub : Subscription)
    (linked : MonitoredItem ω κ) : Bool :=
  linked.inSubscription sub ∧ linked.monitoringMode = monitoringModeSampling ∧
    linked.queue.count ≠ 0 ∧
    items.any fun slot => slot.any fun triggering =>
      triggering.reportable sub ∧ linked.monitoredItemId ∈ triggering.triggeredItems

end MonitoredItem

namespace ItemSlot

/-- The item of a slot that a pass visits: its bit is set and the pass is about it. -/
def visited (which : MonitoredItem ω κ → Bool) (slot : ItemSlot ω κ) :
    Option (MonitoredItem ω κ) :=
  if slot.reportable then slot.item.filter which else none

end ItemSlot

/-! ## Counting -/

/-- `count_queue_entries`: the count, and whether the limit was not in the way. A limit of 0 is
none. -/
def countQueueEntries (maxNotifications : Nat) : Nat → Nat → Nat × Bool
  | count, 0 => (count, true)
  | count, queueCount + 1 =>
    if maxNotifications ≠ 0 ∧ maxNotifications ≤ count then (count, false)
    else countQueueEntries maxNotifications (count + 1) queueCount

/-- One pass of `count_reportable_items`. -/
def countPass (maxNotifications : Nat) (which : MonitoredItem ω κ → Bool) :
    List (ItemSlot ω κ) → Nat → Nat × Bool
  | [], count => (count, true)
  | slot :: slots, count =>
    match slot.visited which with
    | none => countPass maxNotifications which slots count
    | some item =>
      match countQueueEntries maxNotifications count item.queue.count with
      | (count, false) => (count, false)
      | (count, true) => countPass maxNotifications which slots count

namespace Subs

variable (subs : Subs ω κ) (sub : Subscription)

def triggered : MonitoredItem ω κ → Bool := MonitoredItem.reportsByTrigger subs.items sub

/-- `count_reportable_items`: the report count, and `more_notifications`. -/
def countReportableItems : Nat × Bool :=
  let maxNotifications := sub.maxNotificationsPerPublish.toNat
  match countPass maxNotifications (MonitoredItem.reportable sub) subs.monitoredItems 0 with
  | (count, false) => (count, true)
  | (count, true) =>
    match countPass maxNotifications (subs.triggered sub) subs.monitoredItems count with
    | (count, unlimited) => (count, !unlimited)

end Subs

/-! ## Encoding -/

/-- The entries of an item that the encoder takes: from the head on, with the item's queue size as
it is. -/
def MonitoredItem.entriesToEncode (caps : EngineCapacities) (item : MonitoredItem ω κ)
    (limit : Nat) : List QueueEntry :=
  Ring.contents QueueEntry.zero item.queue.cells (clampQueueSize caps item.queue.size)
    item.queue.head (min item.queue.count limit)

/-- One pass of `write_data_change_notification`: what it encodes, and what is left of the limit. -/
def encodePass (caps : EngineCapacities) (which : MonitoredItem ω κ → Bool) :
    List (ItemSlot ω κ) → Nat → List (MonitoredItem ω κ × QueueEntry) × Nat
  | [], remaining => ([], remaining)
  | slot :: slots, remaining =>
    match slot.visited which with
    | none => encodePass caps which slots remaining
    | some item =>
      let entries := item.entriesToEncode caps remaining
      let (rest, remaining) := encodePass caps which slots (remaining - entries.length)
      (entries.map (item, ·) ++ rest, remaining)

/-- The entries `write_data_change_notification` encodes, with their items. -/
def Subs.entriesToReport (caps : EngineCapacities) (subs : Subs ω κ) (sub : Subscription)
    (reportCount : Nat) : List (MonitoredItem ω κ × QueueEntry) :=
  let (reported, remaining) :=
    encodePass caps (MonitoredItem.reportable sub) subs.monitoredItems reportCount
  reported ++ (encodePass caps (subs.triggered sub) subs.monitoredItems remaining).1

/-! ## Clearing -/

/-- `monitored_item_drain_reported_entries`, and the bit of the slot after it. -/
def MonitoredItem.drainReportedEntries (caps : EngineCapacities) (item : MonitoredItem ω κ)
    (remaining : Nat) : ItemSlot ω κ × Nat :=
  let (queue, remaining) := item.queue.drain caps remaining
  (⟨some { item with queue, pending := decide (queue.count ≠ 0) }, decide (queue.count ≠ 0)⟩,
    remaining)

/-- One pass of `clear_reported_items`. It stops at the limit; the marks say what it is about. -/
def clearPass (caps : EngineCapacities) :
    List (ItemSlot ω κ × Bool) → Nat → List (ItemSlot ω κ) × Nat
  | [], remaining => ([], remaining)
  | (slot, marked) :: slots, remaining =>
    match if 0 < remaining then slot.visited fun _ => marked else none with
    | none =>
      let (rest, remaining) := clearPass caps slots remaining
      (slot :: rest, remaining)
    | some item =>
      let (slot, remaining) := item.drainReportedEntries caps remaining
      let (rest, remaining) := clearPass caps slots remaining
      (slot :: rest, remaining)

def markSlots (which : MonitoredItem ω κ → Bool) (slots : List (ItemSlot ω κ)) :
    List (ItemSlot ω κ × Bool) :=
  slots.map fun slot => (slot, slot.item.any which)

namespace Subs

variable (subs : Subs ω κ) (sub : Subscription)

def clearSemanticsChangedForReported : Subs ω κ :=
  { subs with
    monitoredItems := subs.monitoredItems.map fun slot =>
      if slot.reportable then
        { slot with
          item := slot.item.map fun item =>
            if item.inSubscription sub then { item with semanticsChanged := false } else item }
      else slot }

/-- `clear_reported_items`. Which items are triggered is decided before anything is drained; whether
an item is reportable depends on that item alone. -/
def clearReportedItems (caps : EngineCapacities) (reportCount : Nat) : Subs ω κ :=
  let subs := subs.clearSemanticsChangedForReported sub
  let triggeredItems := subs.monitoredItems.map fun slot => slot.item.any (subs.triggered sub)
  let (slots, remaining) :=
    clearPass caps (markSlots (MonitoredItem.reportable sub) subs.monitoredItems) reportCount
  { subs with monitoredItems := (clearPass caps (slots.zip triggeredItems) remaining).1 }

/-! ## Preparing -/

def prepareReportableQueues (cfg : EngineConfig ω κ) : Subs ω κ :=
  subs.mapItems fun item =>
    if item.inSubscription sub ∧ item.monitoringMode ≠ monitoringModeDisabled then
      some (item.preparePendingQueue cfg)
    else some item

end Subs

/-- `cur.type = MU_TYPE_NULL`; the rest of the variant stays. -/
def Variant.asNull (value : Variant) : Variant :=
  match value.value with
  | .scalar _ => ⟨.null, .scalar (), value.extEncodingId⟩
  | .array length elements =>
    ⟨.null, .array length (elements.map fun es =>
      ⟨es.val.map fun _ => (), (List.length_map _).trans es.property⟩), value.extEncodingId⟩

/-- The body of the loop of `enqueue_resend_data`. -/
def MonitoredItem.resend (cfg : EngineConfig ω κ) (item : MonitoredItem ω κ) (world : ω) :
    MonitoredItem ω κ × ω :=
  let ((status, cur), world) := item.readValue world
  let (item, cur) :=
    if status = Status.good then
      ({ item with lastValue := cur, lastStatus := status, hasValue := true }, cur)
    else if item.hasValue then ({ item with lastStatus := status }, item.lastValue)
    else ({ item with lastValue := cur.asNull, lastStatus := status, hasValue := true }, cur.asNull)
  (item.enqueueReport cfg cur status, world)

/-- The loop of `enqueue_resend_data`. -/
def resendItems (cfg : EngineConfig ω κ) (sub : Subscription) :
    List (ItemSlot ω κ) → ω → List (ItemSlot ω κ) × ω
  | [], world => ([], world)
  | slot :: slots, world =>
    match slot.item.filter fun item =>
        item.inSubscription sub ∧ item.monitoringMode = monitoringModeReporting with
    | none =>
      let (rest, world) := resendItems cfg sub slots world
      (slot :: rest, world)
    | some item =>
      let (item, world) := item.resend cfg world
      let (rest, world) := resendItems cfg sub slots world
      (⟨some item, true⟩ :: rest, world)

/-- What `prepare_publish_notification_data` finds out. -/
structure Prepared where
  reportCount : Nat
  hasData : Bool
  hasEvents : Bool
  deriving DecidableEq

/-- `enqueue_resend_data`; the latch is in the subscription. -/
def Engine.enqueueResendData (cfg : EngineConfig ω κ) (e : Engine ω κ) (sub : Subscription) :
    Engine ω κ :=
  if sub.resendDataPending then
    let (monitoredItems, world) := resendItems cfg sub e.subs.monitoredItems e.world
    { e with world, subs := { e.subs with monitoredItems } }
  else e

/-- `prepare_publish_notification_data` for the subscription in a slot. -/
def Engine.preparePublishNotificationData (cfg : EngineConfig ω κ) (e : Engine ω κ) (index : Nat)
    (sub : Subscription) : Prepared × Engine ω κ :=
  let hasEvents := decide (0 < sub.eventQueue.length)
  if sub.publishingEnabled then
    let e := { e with subs := e.subs.prepareReportableQueues sub cfg }
    let e := e.enqueueResendData cfg sub
    let (reportCount, moreNotifications) := e.subs.countReportableItems sub
    (⟨reportCount, 0 < reportCount ∨ hasEvents, hasEvents⟩,
      { e with
        subs := e.subs.setSubscription index
          (some { sub with moreNotifications, resendDataPending := false }) })
  else (⟨0, false, hasEvents⟩, e)

/-! ## What preparing leaves of the items -/

theorem MonitoredItem.resend_sampled {cfg : EngineConfig ω κ} {item : MonitoredItem ω κ}
    (world : ω) : item.Sampled cfg.caps (item.resend cfg world).1 := by
  unfold MonitoredItem.resend
  dsimp only
  split
  · exact ⟨rfl,rfl,rfl,MonitoredItem.fixed_eq rfl rfl rfl rfl rfl,.single ⟨_,_,rfl⟩⟩
  split
  · exact ⟨rfl,rfl,rfl,MonitoredItem.fixed_eq rfl rfl rfl rfl rfl,.single ⟨_,_,rfl⟩⟩
  · exact ⟨rfl,rfl,rfl,MonitoredItem.fixed_eq rfl rfl rfl rfl rfl,.single ⟨_,_,rfl⟩⟩

theorem resendItems_sampled (cfg : EngineConfig ω κ) (sub : Subscription)
    (slots : List (ItemSlot ω κ)) (world : ω) :
    SlotsSampled cfg.caps slots (resendItems cfg sub slots world).1 := by
  induction slots generalizing world with
  | nil => exact .nil
  | cons slot slots ih =>
    rw [resendItems]
    split
    · exact .cons (sampled_rel_refl slot.item) (ih _)
    rename_i item hitem
    refine .cons ?_ (ih _)
    rw [(Option.filter_eq_some_iff.mp hitem).1]
    exact .some (MonitoredItem.resend_sampled world)

end MucOpcua
