import MucOpcua.Lib.Ring
import MucOpcua.Subscription.Types

/-!
# The queue of a monitored item

The queue functions of `subscription_monitor.c` and `monitored_item_drain_reported_entries` of
`deadband.c`.
-/

namespace MucOpcua

variable {ω κ : Type}

/-! ## The functions of the source -/

def clampQueueSize (caps : EngineCapacities) (queueSize : Nat) : Nat :=
  if queueSize = 0 then 1 else if caps.queueDepth < queueSize then caps.queueDepth else queueSize

/-- `monitored_item_queue_next` and `monitored_item_queue_previous`. -/
def monitoredItemQueueNext (index queueSize : Nat) : Nat := Ring.next queueSize index
def monitoredItemQueuePrevious (index queueSize : Nat) : Nat := Ring.previous queueSize index

/-- The status bits `MU_STATUSCODE_INFOTYPE_DATAVALUE_OVERFLOW`. -/
def QueueEntry.overflowed (entry : QueueEntry) : QueueEntry :=
  { entry with status := entry.status ||| 0x480 }

namespace MonitorQueue

/-- `monitored_item_effective_queue_size`; the size it returns is the one it stores. -/
def effectiveSize (caps : EngineCapacities) (q : MonitorQueue) : MonitorQueue :=
  let size := clampQueueSize caps q.size
  { q with
    size
    head := if size ≤ q.head then 0 else q.head
    tail := if size ≤ q.tail then 0 else q.tail
    count := if size < q.count then size else q.count }

def markOverflow (q : MonitorQueue) (index : Nat) : MonitorQueue :=
  { q with cells := q.cells.modify index QueueEntry.overflowed, overflow := true }

/-- The three branches of `monitored_item_enqueue_report`, with the queue size in effect. -/
def store (q : MonitorQueue) (entry : QueueEntry) : MonitorQueue :=
  if q.count < q.size then
    { q with
      cells := q.cells.set q.tail entry
      tail := monitoredItemQueueNext q.tail q.size
      count := q.count + 1 }
  else if q.discardOldest then
    let head := monitoredItemQueueNext q.head q.size
    markOverflow
      { q with head, cells := q.cells.set q.tail entry, tail := monitoredItemQueueNext q.tail q.size }
      head
  else
    let newest := monitoredItemQueuePrevious q.tail q.size
    markOverflow { q with cells := q.cells.set newest entry } newest

/-- What `monitored_item_enqueue_report` does to the queue. -/
def enqueue (caps : EngineCapacities) (q : MonitorQueue) (cur : Variant) (status : StatusCode) :
    MonitorQueue :=
  { (q.effectiveSize caps).store ⟨cur, status, q.enqueued⟩ with enqueued := q.enqueued + 1 }

/-- The loop of `monitored_item_drain_reported_entries`: the head, the count and what is left of the
limit. -/
def drainLoop (size : Nat) : Nat → Nat → Nat → Nat × Nat × Nat
  | head, 0, remaining => (head, 0, remaining)
  | head, count + 1, 0 => (head, count + 1, 0)
  | head, count + 1, remaining + 1 =>
    drainLoop size (monitoredItemQueueNext head size) count remaining

/-- What `monitored_item_drain_reported_entries` does to the queue, and what is left of the limit. -/
def drain (caps : EngineCapacities) (q : MonitorQueue) (remaining : Nat) : MonitorQueue × Nat :=
  let q := q.effectiveSize caps
  let r := drainLoop q.size q.head q.count remaining
  (if r.2.1 = 0 then { q with head := 0, tail := 0, count := 0, overflow := false }
    else { q with head := r.1, count := r.2.1 }, r.2.2)

/-! ## The ring -/

def entries (q : MonitorQueue) : List QueueEntry :=
  Ring.contents QueueEntry.zero q.cells q.size q.head q.count

structure RingOk (caps : EngineCapacities) (q : MonitorQueue) : Prop where
  cells_length : q.cells.length = caps.queueDepth
  size_pos : 1 ≤ q.size
  size_le : q.size ≤ caps.queueDepth
  head_lt : q.head < q.size
  tail_eq : q.tail = Ring.advance q.size q.head q.count
  count_le : q.count ≤ q.size
  empty : q.count = 0 → q.head = 0

structure Ok (caps : EngineCapacities) (q : MonitorQueue) : Prop extends RingOk caps q where
  tags_lt : ∀ entry ∈ q.entries, entry.tag < q.enqueued
  tags_sorted : (q.entries.map QueueEntry.tag).Pairwise (· < ·)

end MonitorQueue

theorem clampQueueSize_of_le {caps : EngineCapacities} {size : Nat} (hpos : 1 ≤ size)
    (hle : size ≤ caps.queueDepth) : clampQueueSize caps size = size := by
  unfold clampQueueSize
  rw [if_neg (by omega),if_neg (by omega)]

theorem clampQueueSize_pos (caps : EngineCapacities) (size : Nat) :
    1 ≤ clampQueueSize caps size := by
  have := caps.queueDepth_pos
  unfold clampQueueSize
  split
  · omega
  · split <;> omega

theorem clampQueueSize_le (caps : EngineCapacities) (size : Nat) :
    clampQueueSize caps size ≤ caps.queueDepth := by
  have := caps.queueDepth_pos
  unfold clampQueueSize
  split
  · omega
  · split <;> omega

namespace MonitorQueue

variable {caps : EngineCapacities} {q : MonitorQueue}

@[simp] theorem entries_length (q : MonitorQueue) : q.entries.length = q.count :=
  Ring.contents_length ..

theorem RingOk.effectiveSize (h : q.RingOk caps) : q.effectiveSize caps = q := by
  have htail : q.tail < q.size := by
    rw [h.tail_eq]
    exact Ring.advance_lt h.head_lt _
  have hcount := h.count_le
  have hhead := h.head_lt
  unfold MonitorQueue.effectiveSize
  simp only [clampQueueSize_of_le h.size_pos h.size_le]
  rw [if_neg (by omega),if_neg (by omega),if_neg (by omega)]

theorem drainLoop_eq (size head count remaining : Nat) : drainLoop size head count remaining =
      (Ring.advance size head (min count remaining), count - remaining, remaining - count) := by
  induction count generalizing head remaining with
  | zero => simp [drainLoop]
  | succ count ih =>
    cases remaining with
    | zero => simp [drainLoop]
    | succ remaining =>
      rw [drainLoop,ih,Nat.add_min_add_right,Nat.add_sub_add_right,Nat.add_sub_add_right]
      rfl

/-! ## What enqueueing does -/

/-- A bounded queue takes one more entry: at the end if there is room, else in the place of the
oldest or of the newest one. -/
def boundedEnqueue (size : Nat) (discardOldest : Bool) (queued : List QueueEntry)
    (entry : QueueEntry) : List QueueEntry :=
  if queued.length < size then queued ++ [entry]
  else if discardOldest then (queued.drop 1 ++ [entry]).modify 0 QueueEntry.overflowed
  else queued.take (queued.length - 1) ++ [entry.overflowed]

private theorem RingOk.tail_of_full (h : q.RingOk caps) (hfull : ¬ q.count < q.size) :
    q.tail = q.head := by
  have hcount : q.count = q.size := Nat.le_antisymm h.count_le (Nat.not_lt.mp hfull)
  rw [h.tail_eq,hcount,Ring.advance_size h.head_lt]

section

variable (h : q.RingOk caps)
include h

theorem RingOk.store (entry : QueueEntry) : (q.store entry).RingOk caps := by
  obtain ⟨hlen,hpos,hsize,hhead,htail,hcount,hempty⟩ := h
  unfold MonitorQueue.store monitoredItemQueueNext
  split
  · next hroom =>
    refine ⟨by simpa using hlen,hpos,hsize,hhead,?_,hroom,by simp⟩
    rw [Ring.advance_add,← htail]
    rfl
  rename_i hfull
  have hfull' : q.count = q.size := by omega
  split
  · refine ⟨by simpa [markOverflow] using hlen,hpos,hsize,Ring.next_lt hhead,?_,hcount,?_⟩
    -- both indices move on by one
    · show Ring.next q.size q.tail = Ring.advance q.size (Ring.next q.size q.head) q.count
      rw [htail,hfull',Ring.advance_size hhead,Ring.advance_size (Ring.next_lt hhead)]
    · show q.count = 0 → _
      omega
  · exact ⟨by simpa [markOverflow] using hlen,hpos,hsize,hhead,htail,hcount,hempty⟩

/-- On a ring, `monitored_item_enqueue_report` stores as a bounded queue does. -/
theorem RingOk.store_entries (entry : QueueEntry) :
    (q.store entry).entries = boundedEnqueue q.size q.discardOldest q.entries entry := by
  have htail := h.tail_of_full
  obtain ⟨hlen,hpos,hsize,hhead,htail_eq,hcount,-⟩ := h
  have hcells : q.size ≤ q.cells.length := hlen ▸ hsize
  unfold MonitorQueue.store boundedEnqueue
  rw [entries_length]
  split
  · next hroom =>
    simp only [htail_eq]
    exact Ring.contents_push hhead hroom hcells entry
  rename_i hfull
  have hfull' : q.count = q.size := by omega
  split
  · simp only [entries,markOverflow,monitoredItemQueueNext,htail hfull,hfull']
    rw [Ring.contents_modify_head _ (Ring.next_lt hhead) (Nat.le_refl _) (by simpa using hcells),
      Ring.contents_pushFull hhead hcells]
  obtain ⟨n,hn⟩ : ∃ n, q.count = n + 1 := ⟨q.count - 1,by omega⟩
  have hnewest : monitoredItemQueuePrevious q.tail q.size = Ring.advance q.size q.head n := by
    rw [htail_eq,hn]
    exact Ring.previous_advance hhead
  have hset (cells : List QueueEntry) (i : Nat) :
      (cells.set i entry).modify i QueueEntry.overflowed = cells.set i entry.overflowed := by
    apply List.ext_getElem?
    intro j
    by_cases hj : i = j <;> simp [List.getElem?_set,hj]
  simp only [entries,markOverflow,hnewest,hn,Nat.add_sub_cancel]
  rw [hset,Ring.contents_replaceLast hhead (by omega) hcells]

theorem RingOk.enqueue_entries (cur : Variant) (status : StatusCode) :
    (q.enqueue caps cur status).entries =
      boundedEnqueue q.size q.discardOldest q.entries ⟨cur, status, q.enqueued⟩ := by
  rw [← h.store_entries,enqueue,h.effectiveSize]
  rfl

/-! ## What draining does -/

theorem RingOk.drain_entries (remaining : Nat) :
    (q.drain caps remaining).1.entries = q.entries.drop remaining := by
  simp only [MonitorQueue.drain,h.effectiveSize,drainLoop_eq]
  split
  · rw [List.drop_of_length_le (by rw [entries_length]; omega)]
    rfl
  · have hmin : min q.count remaining = remaining := by omega
    rw [entries,entries,hmin,Ring.contents_drop _ _ (by omega)]

theorem RingOk.drain (remaining : Nat) : (q.drain caps remaining).1.RingOk caps := by
  simp only [MonitorQueue.drain,h.effectiveSize,drainLoop_eq]
  obtain ⟨hlen,hpos,hsize,hhead,htail,hcount,-⟩ := h
  split
  · exact ⟨hlen,hpos,hsize,hpos,rfl,Nat.zero_le _,fun _ => rfl⟩
  rename_i hleft
  have hmin : min q.count remaining = remaining := by omega
  refine ⟨hlen,hpos,hsize,Ring.advance_lt hhead _,?_,by dsimp only; omega,fun h => absurd h hleft⟩
  rw [← Ring.advance_add,hmin,Nat.add_sub_of_le (by omega),htail]

end

theorem drain_enqueued (q : MonitorQueue) (remaining : Nat) :
    (q.drain caps remaining).1.enqueued = q.enqueued := by
  unfold MonitorQueue.drain
  dsimp only
  split <;> rfl

end MonitorQueue

end MucOpcua
