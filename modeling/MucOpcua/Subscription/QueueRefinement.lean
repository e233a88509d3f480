import MucOpcua.Attribute.IndexRange
import MucOpcua.Lib.Run
import MucOpcua.Subscription.Engine

/-!
# The queue of a monitored item against a bounded queue

While the size of an item's queue stays the same, the ring simulates a bounded queue of that size.
-/

namespace MucOpcua

variable {ω κ : Type}
variable {size : Nat}

namespace MonitorQueue

variable {caps : EngineCapacities}

/-! ## Operations -/

inductive Op where
  | report (value : Variant) (status : StatusCode)
  | drain (limit : Nat)

/-- The entries that the loop of `monitored_item_drain_reported_entries` takes off the queue. -/
def drainPassed (cells : List QueueEntry) (size : Nat) : Nat → Nat → Nat → List QueueEntry
  | _, 0, _ => []
  | _, _ + 1, 0 => []
  | head, count + 1, remaining + 1 =>
    cells.getD head QueueEntry.zero ::
      drainPassed cells size (monitoredItemQueueNext head size) count remaining

def apply (caps : EngineCapacities) (q : MonitorQueue) : Op → MonitorQueue × List QueueEntry
  | .report value status => (q.enqueue caps value status, [])
  | .drain limit =>
    let sized := q.effectiveSize caps
    ((q.drain caps limit).1, drainPassed sized.cells sized.size sized.head sized.count limit)

/-- A queue without entries, as `configure_monitored_item` leaves it. -/
def fresh (cells : List QueueEntry) (size : Nat) (discardOldest : Bool) : MonitorQueue where
  size
  cells
  head := 0
  tail := 0
  count := 0
  discardOldest
  overflow := false
  enqueued := 0

theorem drainPassed_eq (cells : List QueueEntry) (size head count remaining : Nat) :
    drainPassed cells size head count remaining =
      (Ring.contents QueueEntry.zero cells size head count).take remaining := by
  induction count generalizing head remaining with
  | zero => simp [drainPassed]
  | succ count ih =>
    cases remaining with
    | zero => simp [drainPassed]
    | succ remaining =>
      rw [drainPassed,ih,Ring.contents_succ]
      rfl

/-! ## The bounded queue -/

structure Bounded where
  queued : List QueueEntry
  offered : Nat

def Bounded.apply (size : Nat) (discardOldest : Bool) (b : Bounded) :
    Op → Bounded × List QueueEntry
  | .report value status =>
    (⟨boundedEnqueue size discardOldest b.queued ⟨value, status, b.offered⟩, b.offered + 1⟩, [])
  | .drain limit => (⟨b.queued.drop limit, b.offered⟩, b.queued.take limit)

structure Represents (caps : EngineCapacities) (size : Nat) (discardOldest : Bool)
    (q : MonitorQueue) (b : Bounded) : Prop where
  ring : q.RingOk caps
  size_eq : q.size = size
  policy_eq : q.discardOldest = discardOldest
  entries_eq : q.entries = b.queued
  offered_eq : q.enqueued = b.offered

theorem store_size (q : MonitorQueue) (entry : QueueEntry) : (q.store entry).size = q.size := by
  unfold store markOverflow
  split
  · rfl
  · split <;> rfl

theorem store_discardOldest (q : MonitorQueue) (entry : QueueEntry) :
    (q.store entry).discardOldest = q.discardOldest := by
  unfold store markOverflow
  split
  · rfl
  · split <;> rfl

variable {discardOldest : Bool}

theorem Represents.report {q : MonitorQueue} {b : Bounded}
    (h : Represents caps size discardOldest q b) (value : Variant) (status : StatusCode) :
    Represents caps size discardOldest (q.enqueue caps value status)
      (b.apply size discardOldest (.report value status)).1 := by
  have hstore := h.ring.store ⟨value,status,q.enqueued⟩
  have hqueue : q.enqueue caps value status =
      { q.store ⟨value,status,q.enqueued⟩ with enqueued := q.enqueued + 1 } := by
    rw [enqueue,h.ring.effectiveSize]
  constructor
  · rw [hqueue]
    exact ⟨hstore.cells_length,hstore.size_pos,hstore.size_le,hstore.head_lt,hstore.tail_eq,
      hstore.count_le,hstore.empty⟩
  · rw [hqueue,← h.size_eq]
    exact store_size q _
  · rw [hqueue,← h.policy_eq]
    exact store_discardOldest q _
  · rw [h.ring.enqueue_entries,h.size_eq,h.policy_eq,h.entries_eq,h.offered_eq]
    rfl
  · rw [hqueue,Bounded.apply,← h.offered_eq]

theorem Represents.drain {q : MonitorQueue} {b : Bounded}
    (h : Represents caps size discardOldest q b) (limit : Nat) :
    Represents caps size discardOldest (q.drain caps limit).1
      (b.apply size discardOldest (.drain limit)).1 := by
  have hkept : (q.drain caps limit).1.size = q.size ∧
      (q.drain caps limit).1.discardOldest = q.discardOldest := by
    simp only [MonitorQueue.drain,h.ring.effectiveSize]
    split <;> exact ⟨rfl,rfl⟩
  constructor
  · exact h.ring.drain limit
  · exact hkept.1.trans h.size_eq
  · exact hkept.2.trans h.policy_eq
  · rw [h.ring.drain_entries,h.entries_eq]
    rfl
  · rw [drain_enqueued,h.offered_eq]
    rfl

theorem Represents.apply {q : MonitorQueue} {b : Bounded}
    (h : Represents caps size discardOldest q b) (op : Op) :
    Represents caps size discardOldest (q.apply caps op).1 (b.apply size discardOldest op).1 ∧
      (q.apply caps op).2 = (b.apply size discardOldest op).2 := by
  cases op with
  | report value status => exact ⟨h.report value status,rfl⟩
  | drain limit =>
    refine ⟨h.drain limit,?_⟩
    have hpassed : (q.apply caps (.drain limit)).2 = q.entries.take limit := by
      simp only [MonitorQueue.apply,h.ring.effectiveSize,drainPassed_eq]
      rfl
    rw [hpassed,h.entries_eq]
    rfl

theorem represents_fresh {cells : List QueueEntry} (discardOldest : Bool)
    (hcells : cells.length = caps.queueDepth) (hpos : 1 ≤ size) (hle : size ≤ caps.queueDepth) :
    Represents caps size discardOldest (fresh cells size discardOldest) ⟨[], 0⟩ where
  ring := ⟨hcells,hpos,hle,hpos,rfl,Nat.zero_le _,fun _ => rfl⟩
  size_eq := rfl
  policy_eq := rfl
  entries_eq := rfl
  offered_eq := rfl

theorem represents_run {cells : List QueueEntry} (discardOldest : Bool)
    (hcells : cells.length = caps.queueDepth) (hpos : 1 ≤ size) (hle : size ≤ caps.queueDepth)
    (ops : List Op) :
    Represents caps size discardOldest
        (Run.outputs (MonitorQueue.apply caps) (fresh cells size discardOldest) ops).1
        (Run.outputs (Bounded.apply size discardOldest) ⟨[], 0⟩ ops).1 ∧
      (Run.outputs (MonitorQueue.apply caps) (fresh cells size discardOldest) ops).2 =
        (Run.outputs (Bounded.apply size discardOldest) ⟨[], 0⟩ ops).2 :=
  Run.outputs_simulates (fun _ _ op h => h.apply op)
    (represents_fresh discardOldest hcells hpos hle) ops

/-- Which entry bears the overflow bits in a queue of more than one place: the oldest one left if
the oldest was discarded, else the new one, and none if there was room. -/
theorem boundedEnqueue_cases (hsize : 1 < size) (discardOldest : Bool)
    (queued : List QueueEntry) (entry : QueueEntry) :
    (queued.length < size ∧ boundedEnqueue size discardOldest queued entry = queued ++ [entry]) ∨
    (size ≤ queued.length ∧ discardOldest = true ∧ ∃ oldest second rest,
      queued = oldest :: second :: rest ∧
      boundedEnqueue size discardOldest queued entry = second.overflowed :: rest ++ [entry]) ∨
    (size ≤ queued.length ∧ discardOldest = false ∧
      boundedEnqueue size discardOldest queued entry = queued.dropLast ++ [entry.overflowed]) := by
  by_cases hroom : queued.length < size
  · exact Or.inl ⟨hroom,if_pos hroom⟩
  have hfull : size ≤ queued.length := Nat.not_lt.mp hroom
  cases discardOldest with
  | true =>
    obtain ⟨oldest,second,rest,rfl⟩ : ∃ oldest second rest, queued = oldest :: second :: rest := by
      match queued, hfull with
      | [], h => exact absurd h (by simp; omega)
      | [_], h => exact absurd h (by simp; omega)
      | oldest :: second :: rest, _ => exact ⟨oldest,second,rest,rfl⟩
    refine Or.inr (Or.inl ⟨hfull,rfl,oldest,second,rest,rfl,?_⟩)
    rw [boundedEnqueue,if_neg hroom]
    rfl
  | false =>
    refine Or.inr (Or.inr ⟨hfull,rfl,?_⟩)
    rw [boundedEnqueue,if_neg hroom,List.dropLast_eq_take]
    rfl

def resized (size : Nat) (discardOldest : Bool) (queued : List QueueEntry) : List QueueEntry :=
  if discardOldest then queued.drop (queued.length - size) else queued.take size

structure Resizes (before after : MonitorQueue) : Prop where
  entries_eq : after.entries = resized after.size after.discardOldest before.entries
  head_lt : after.head < after.size
  tail_lt : after.tail < after.size
  count_le : after.count ≤ after.size

theorem resized_of_le {queued : List QueueEntry} (h : queued.length ≤ size)
    (discardOldest : Bool) : resized size discardOldest queued = queued := by
  cases discardOldest with
  | true => simp [resized,Nat.sub_eq_zero_of_le h]
  | false => simp [resized,List.take_of_length_le h]

def numberedCells (depth : Nat) : List QueueEntry :=
  (List.range depth).map fun i => ⟨Variant.zero, Status.good, i⟩

theorem contents_numberedCells {depth head : Nat} (hsize : size ≤ depth) (hhead : head < size)
    (count : Nat) :
    (Ring.contents QueueEntry.zero (numberedCells depth) size head count).map QueueEntry.tag =
      Ring.walk size head count := by
  rw [Ring.contents,Ring.walk_eq_map,List.map_map,List.map_map]
  apply List.map_congr_left
  intro k _
  have hlt : Ring.advance size head k < depth := (Ring.advance_lt hhead k).trans_le hsize
  simp [numberedCells,hlt]

variable {q : MonitorQueue}

/-- Changing the size in place is right for every content of the cells exactly if the size stays the
same, or the entries end before the end of both rings. -/
theorem RingOk.resizes_iff (h : q.RingOk caps) (hle : size ≤ caps.queueDepth)
    (hpos : 1 ≤ size) (discardOldest : Bool) :
    (∀ cells : List QueueEntry, cells.length = caps.queueDepth →
      Resizes { q with cells } { q with cells, size, discardOldest }) ↔
      size = q.size ∨ (q.head + q.count ≤ q.size ∧ q.head + q.count < size) := by
  have hhead := h.head_lt
  have hcount := h.count_le
  have htail : q.tail = (q.head + q.count) % q.size := by
    rw [h.tail_eq,Ring.advance_eq_mod hhead]
  constructor
  · intro hall
    obtain ⟨hentries,hhead',htail',hcount'⟩ := hall (numberedCells caps.queueDepth)
      (by simp [numberedCells])
    dsimp only at hhead' htail' hcount'
    rw [resized_of_le (by simpa using hcount')] at hentries
    have hwalk : Ring.walk size q.head q.count = Ring.walk q.size q.head q.count := by
      rw [← contents_numberedCells hle hhead' q.count,
        ← contents_numberedCells h.size_le hhead q.count]
      exact congrArg (List.map QueueEntry.tag) hentries
    rcases Nat.lt_trichotomy size q.size with hlt | heq | hgt
    · have hend := Ring.le_of_walk_eq hhead' hlt hwalk
      rw [Nat.mod_eq_of_lt (by omega)] at htail
      exact Or.inr (by omega)
    · exact Or.inl heq
    · have hend := Ring.le_of_walk_eq hhead hgt hwalk.symm
      exact Or.inr (by omega)
  · intro hcond cells _
    have hfits : q.count ≤ size := by omega
    have htail' : q.tail ≤ q.head + q.count := htail ▸ Nat.mod_le _ _
    have htail'' : q.tail < q.size := htail ▸ Nat.mod_lt _ (by omega)
    refine ⟨?_,by dsimp only; omega,by dsimp only; omega,hfits⟩
    rw [resized_of_le (by simpa using hfits)]
    rcases hcond with rfl | ⟨hend,hend'⟩
    · rfl
    · exact congrArg (List.map _) (Ring.walk_congr_size hend'.le hend)

end MonitorQueue

/-- ModifyMonitoredItems on an item of any queue contents. -/
theorem applyModifyItemFields_resizes_iff (cfg : EngineConfig ω κ) (item : MonitoredItem ω κ)
    (body : ModifyBody) (timestampsToReturn : UInt32) (hring : item.queue.RingOk cfg.caps) :
    (∀ cells : List QueueEntry, cells.length = cfg.caps.queueDepth →
      let before := { item with queue := { item.queue with cells } }
      MonitorQueue.Resizes before.queue
        (before.applyModifyItemFields cfg body timestampsToReturn).queue) ↔
      clampQueueSize cfg.caps body.queueSize.toNat = item.queue.size ∨
        (item.queue.head + item.queue.count ≤ item.queue.size ∧
          item.queue.head + item.queue.count < clampQueueSize cfg.caps body.queueSize.toNat) :=
  hring.resizes_iff (clampQueueSize_le cfg.caps _) (clampQueueSize_pos cfg.caps _)
    body.discardOldest

namespace Sample

def fullItem : MonitoredItem Unit Unit :=
  { item with
    queue := ⟨2, [⟨Variant.zero, 0, 0⟩, ⟨Variant.zero, 0, 1⟩], 0, 0, 2, true, false, 2⟩ }

def shrink : ModifyBody where
  monitoredItemId := 1
  clientHandle := 0
  samplingIntervalBits := 0
  filter := ⟨FilterBody.start ⟨[], WhereClause.empty, Status.good⟩, Status.good, false, false⟩
  queueSize := 1
  discardOldest := true

theorem fullItem_ring : fullItem.queue.RingOk config.caps :=
  ⟨rfl,by decide,by decide,by decide,rfl,by decide,by decide⟩

def oneItem : MonitoredItem Unit Unit :=
  { item with queue := { fullItem.queue with size := 1, count := 1 } }

theorem oneItem_ring : oneItem.queue.RingOk config.caps :=
  ⟨rfl,by decide,by decide,by decide,rfl,by decide,by decide⟩

def grow : ModifyBody := { shrink with queueSize := 2 }

end Sample

/-- A full queue of one entry grows to two places. -/
theorem applyModifyItemFields_resizes_grown : Sample.oneItem.queue.RingOk Sample.config.caps ∧
      (Sample.oneItem.applyModifyItemFields Sample.config Sample.grow 0).queue.size = 2 ∧
      ∀ cells : List QueueEntry, cells.length = Sample.config.caps.queueDepth →
        let before := { Sample.oneItem with queue := { Sample.oneItem.queue with cells } }
        MonitorQueue.Resizes before.queue
          (before.applyModifyItemFields Sample.config Sample.grow 0).queue :=
  ⟨Sample.oneItem_ring,rfl,
    (applyModifyItemFields_resizes_iff Sample.config Sample.oneItem Sample.grow 0
      Sample.oneItem_ring).mpr (by decide)⟩

/-- After a full queue of two was cut to one place, two entries are still counted, and the next use
of the queue keeps the older one although the oldest is to be discarded. -/
theorem applyModifyItemFields_keeps_surplus : Sample.fullItem.queue.RingOk Sample.config.caps ∧
      (Sample.fullItem.applyModifyItemFields Sample.config Sample.shrink 0).queue.size = 1 ∧
      (Sample.fullItem.applyModifyItemFields Sample.config Sample.shrink 0).queue.count = 2 ∧
      ¬ MonitorQueue.Resizes Sample.fullItem.queue
        (Sample.fullItem.applyModifyItemFields Sample.config Sample.shrink 0).queue ∧
      (((Sample.fullItem.applyModifyItemFields Sample.config Sample.shrink 0).queue.effectiveSize
        Sample.config.caps).entries.map QueueEntry.tag = [0]) := by
  refine ⟨Sample.fullItem_ring,rfl,rfl,?_,rfl⟩
  intro h
  exact absurd h.count_le (by decide)

end MucOpcua
