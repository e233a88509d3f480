import MucOpcua.Subscription.ServiceMoves

/-!
# The queues over a run

A queue stays a ring while sampling, publishing and the services take turns, as long as only empty
queues are resized.
-/

namespace MucOpcua

variable {ω κ : Type} {caps : EngineCapacities}

namespace MonitorQueue

variable {q q' : MonitorQueue}

theorem RingOk.enqueues (h : q.RingOk caps) (henqueues : q.Enqueues caps q') : q'.RingOk caps := by
  induction henqueues with
  | refl => exact h
  | tail _ hlast ih =>
    obtain ⟨cur,status,rfl⟩ := hlast
    rw [enqueue,ih.effectiveSize]
    obtain ⟨hcells,hpos,hle,hhead,htail,hcount,hempty⟩ := ih.store ⟨cur,status,_⟩
    exact ⟨hcells,hpos,hle,hhead,htail,hcount,hempty⟩

theorem RingOk.resize (h : q.RingOk caps) {queueSize : Nat} (discardOldest : Bool)
    (hresize : q.count = 0 ∨ clampQueueSize caps queueSize = q.size) :
    { q with size := clampQueueSize caps queueSize, discardOldest }.RingOk caps := by
  obtain ⟨hcells,hpos,hle,hhead,htail,hcount,hempty⟩ := h
  rcases hresize with hnone | hsize
  -- An empty queue starts at the first cell, which every size has.
  · have hzero := hempty hnone
    refine ⟨hcells,clampQueueSize_pos _ _,clampQueueSize_le _ _,?_,?_,?_,fun _ => hzero⟩
    · exact hzero ▸ clampQueueSize_pos caps queueSize
    · rw [hnone] at htail
      simp only [htail,hnone,hzero]
      rfl
    · exact hnone ▸ Nat.zero_le _
  · rw [hsize]
    exact ⟨hcells,hpos,hle,hhead,htail,hcount,hempty⟩

end MonitorQueue

/-- A queue that holds entries keeps its size. -/
def Allowed.sized : Allowed where
  resize q size := q.count = 0 ∨ size = q.size
  route _ _ := True
  resize_again := by
    rintro q size size' _ (h | rfl) (h' | rfl) <;> simp [*]
  route_bound _ := trivial

/-! ## The slots -/

theorem Subs.item?_eq_slot {s : Subs ω κ} {i : Nat} {item : MonitoredItem ω κ} :
    s.item? i = some item ↔
      ∃ slot, s.monitoredItems[i]? = some slot ∧ slot.item = some item := by
  rw [Subs.item?_eq_some,Subs.items,List.getElem?_map,Option.map_eq_some_iff]

theorem Subs.init_item? (caps : EngineCapacities) (history : History) (i : Nat) :
    (Subs.init caps history : Subs ω κ).item? i = none := by
  rw [Option.eq_none_iff_forall_ne_some]
  intro item hitem
  obtain ⟨slot,hslot,hitem⟩ := Subs.item?_eq_slot.mp hitem
  rw [(List.mem_replicate.mp (List.mem_of_getElem? hslot)).2] at hitem
  cases hitem

/-- What taking reports from its queue leaves of an item. -/
structure ItemCleared (caps : EngineCapacities) (item item' : MonitoredItem ω κ) : Prop where
  uid : item'.uid = item.uid
  fixed : item'.fixed = item.fixed
  ring : item.queue.RingOk caps → item'.queue.RingOk caps

theorem ItemCleared.refl (item : MonitoredItem ω κ) : ItemCleared caps item item :=
  ⟨rfl,rfl,id⟩

theorem ItemCleared.trans {item item₁ item₂ : MonitoredItem ω κ} (h : ItemCleared caps item item₁)
    (h' : ItemCleared caps item₁ item₂) : ItemCleared caps item item₂ :=
  ⟨h'.uid.trans h.uid,h'.fixed.trans h.fixed,h'.ring ∘ h.ring⟩

def SlotCleared (caps : EngineCapacities) (slot slot' : ItemSlot ω κ) : Prop :=
  ∀ item', slot'.item = some item' → ∃ item, slot.item = some item ∧ ItemCleared caps item item'

theorem SlotCleared.refl (slot : ItemSlot ω κ) : SlotCleared caps slot slot :=
  fun item hitem => ⟨item,hitem,.refl item⟩

theorem SlotCleared.trans {slot slot₁ slot₂ : ItemSlot ω κ} (h : SlotCleared caps slot slot₁)
    (h' : SlotCleared caps slot₁ slot₂) : SlotCleared caps slot slot₂ := by
  intro item₂ hitem₂
  obtain ⟨item₁,hitem₁,hcleared'⟩ := h' item₂ hitem₂
  obtain ⟨item,hitem,hcleared⟩ := h item₁ hitem₁
  exact ⟨item,hitem,hcleared.trans hcleared'⟩

theorem clearPass_cleared (marked : List (ItemSlot ω κ × Bool)) (remaining : Nat) :
    Slotwise (SlotCleared caps) (marked.map Prod.fst) (clearPass caps marked remaining).1 := by
  induction marked generalizing remaining with
  | nil => exact .nil
  | cons slot rest ih =>
    unfold clearPass
    split
    · exact .cons (.refl _) (ih _)
    · next item hfound =>
      refine .cons (fun item' hitem' => ?_) (ih _)
      have hitem : slot.1.item = some item := by
        unfold ItemSlot.visited at hfound
        aesop
      cases hitem'
      exact ⟨item,hitem,rfl,MonitoredItem.fixed_eq rfl rfl rfl rfl rfl,
        fun hring => hring.drain remaining⟩

theorem clearReportedItems_cleared {s : Subs ω κ} (sub : Subscription) (reportCount : Nat)
    {i : Nat} {slot' : ItemSlot ω κ}
    (hslot' : (s.clearReportedItems sub caps reportCount).monitoredItems[i]? = some slot') :
    ∃ slot, s.monitoredItems[i]? = some slot ∧ SlotCleared caps slot slot' := by
  obtain ⟨slot₂,hslot₂,hsecond⟩ := (clearPass_cleared _ _).before hslot'
  obtain ⟨zipped,hzipped,rfl⟩ := Option.map_eq_some_iff.mp ((List.getElem?_map ..).symm.trans hslot₂)
  obtain ⟨slot₁,hslot₁,hfirst⟩ :=
    (clearPass_cleared _ _).before (List.getElem?_zip_eq_some.mp hzipped).1
  rw [markSlots,List.map_map,List.getElem?_map] at hslot₁
  obtain ⟨slot₀,hslot₀,rfl⟩ := Option.map_eq_some_iff.mp hslot₁
  obtain ⟨slot,hslot,rfl⟩ := Option.map_eq_some_iff.mp ((List.getElem?_map ..).symm.trans hslot₀)
  refine ⟨slot,hslot,SlotCleared.trans (fun item' hitem' => ?_) (hfirst.trans hsecond)⟩
  dsimp only [Function.comp_apply] at hitem'
  split at hitem'
  · obtain ⟨item,hitem,rfl⟩ := Option.map_eq_some_iff.mp hitem'
    refine ⟨item,hitem,?_⟩
    split
    · exact ⟨rfl,MonitoredItem.fixed_eq rfl rfl rfl rfl rfl,id⟩
    · exact .refl item
  · exact ⟨item',hitem',.refl item'⟩

/-- An item was in its slot before the move, or it is new. -/
theorem Move.item_before {cfg : EngineConfig ω κ} {A : Allowed} {s s' : Subs ω κ}
    (hmove : Move cfg A s s') {i : Nat} {item' : MonitoredItem ω κ}
    (hitem' : s'.item? i = some item') :
    (∃ item, s.item? i = some item ∧
      (ItemCleared cfg.caps item item' ∨ ItemMove cfg.caps A item item')) ∨
    item'.uid = s.history.nextUid ∧ item'.queue.Ok cfg.caps ∧
      s'.history.nextUid = s.history.nextUid + 1 := by
  cases hmove with
  | counters | drop | park | fault | acknowledge | createSubscription | subscriptions =>
    exact .inl ⟨item',hitem',.inl (.refl item')⟩
  | restart =>
    cases (Subs.init_item? ..).symm.trans hitem'
  | notify j request link index sub sub' message delivered slots _ _ _ _ hdelivers =>
    rcases hdelivers with ⟨-,rfl⟩ | ⟨reportCount,-,rfl⟩
    · exact .inl ⟨item',hitem',.inl (.refl item')⟩
    · obtain ⟨slot',hslot',hitem'⟩ := Subs.item?_eq_slot.mp hitem'
      obtain ⟨slot,hslot,hcleared⟩ := clearReportedItems_cleared sub reportCount hslot'
      obtain ⟨item,hitem,hcleared⟩ := hcleared item' hitem'
      exact .inl ⟨item,Subs.item?_eq_slot.mpr ⟨slot,hslot,hitem⟩,.inl hcleared⟩
  | items slots hslots =>
    obtain ⟨slot',hslot',hitem'⟩ := Subs.item?_eq_slot.mp hitem'
    -- The slot was freed, or its item was there before the move.
    obtain ⟨slot,hslot,hmoved⟩ := hslots.before hslot'
    rcases hmoved with hnone | hmoved
    · rw [hnone] at hitem'
      cases hitem'
    rw [hitem'] at hmoved
    generalize hfound : slot.item = found at hmoved
    cases hmoved with
    | some hmoved => exact .inl ⟨_,Subs.item?_eq_slot.mpr ⟨slot,hslot,hfound⟩,.inr hmoved⟩
  | createItem index item hfree huid hqueue =>
    obtain ⟨slot',hslot',hitem'⟩ := Subs.item?_eq_slot.mp hitem'
    rw [Subs.setItem,List.getElem?_modify] at hslot'
    obtain ⟨slot,hslot,rfl⟩ := Option.map_eq_some_iff.mp hslot'
    split at hitem'
    · cases hitem'
      exact .inr ⟨huid,hqueue,rfl⟩
    · exact .inl ⟨item',Subs.item?_eq_slot.mpr ⟨slot,hslot,hitem'⟩,.inl (.refl item')⟩

/-! ## Runs -/

def Rings (caps : EngineCapacities) (s : Subs ω κ) : Prop :=
  ∀ i item, s.item? i = some item → item.queue.RingOk caps

theorem Rings.move {cfg : EngineConfig ω κ} {s s' : Subs ω κ} (h : Rings cfg.caps s)
    (hmove : Move cfg Allowed.sized s s') : Rings cfg.caps s' := by
  intro i item' hitem'
  rcases hmove.item_before hitem' with ⟨item,hitem,hcleared | hmoved⟩ | ⟨-,hqueue,-⟩
  · exact hcleared.ring (h i item hitem)
  · rcases hmoved.queue with hqueue | ⟨queueSize,discardOldest,hresize,hqueue⟩
    · exact (h i item hitem).enqueues hqueue
    · rw [hqueue]
      exact (h i item hitem).resize discardOldest hresize
  · exact hqueue.toRingOk

/-- In a run in which no request resizes a queue that holds entries, the queue of every item is a
ring of a size up to the depth: head, tail and count never leave it. -/
theorem queues_stay_rings {cfg : EngineConfig ω κ} {e : Engine ω κ}
    (h : Engine.ReachableIf cfg (fun e input => input.Permitted cfg Allowed.sized e) e) {i : Nat}
    {item : MonitoredItem ω κ} (hitem : e.subs.item? i = some item) :
    item.queue.RingOk cfg.caps := by
  have hrings : Rings cfg.caps e.subs :=
    Engine.ReachableIf.of_moves h (fun i item hitem => by cases (Subs.init_item? ..).symm.trans hitem)
      (fun _ _ hc => hc) fun s s' hs hmove => Rings.move hs hmove
  exact hrings i item hitem

namespace Sample

/-- A node whose value is the NodeId that it is read under. -/
def sensor : Node Unit :=
  ⟨some (.callback (some fun world nodeId => ((Status.good, ⟨.nodeId, .scalar nodeId, 0⟩), world)))⟩

def knowing : EngineConfig Unit Unit := { config with resolveNode := fun _ _ => some sensor }

/-- What a request says about an item with a queue for two values. -/
def itemBytes (nodeId : List UInt8) (attributeId : UInt8) (filter : List UInt8) : List UInt8 :=
  nodeId ++ [attributeId, 0, 0, 0] ++ List.replicate 4 255 ++ [0, 0] ++ List.replicate 4 255 ++
    [2] ++ List.replicate 15 0 ++ filter ++ [2, 0, 0, 0, 1]

/-- A request for an item in the subscription 1. -/
def createItem (item : List UInt8) : EngineInput Unit :=
  call true .createMonitoredItems ([1, 0, 0, 0, 0, 0, 0, 0, 1, 0, 0, 0] ++ item)

def withItem (item : List UInt8) (inputs : List (EngineInput Unit)) : Engine Unit Unit :=
  (Engine.start knowing () start.diag).runWith knowing answer
    ([create true, createItem item] ++ inputs)

theorem withItem_reachable (item : List UInt8) (inputs : List (EngineInput Unit)) :
    Engine.Reachable knowing (withItem item inputs) :=
  Engine.reachableIf_runWith answer (.start () _) (Engine.runMeets_true answer _ _)

/-- The request as the server reads it. -/
def bodyOf (item : List UInt8) : Option CreateBody :=
  match readMonitoredItemCreateBody knowing (knowing.leftover () 0) (.init item) with
  | .ok body _ => some body
  | .error .. => none

def valueItem : List UInt8 := itemBytes [0, 5] 13 [0, 0, 0]

end Sample

theorem created_queue_is_ring :
    ∃ item, (Sample.withItem Sample.valueItem [.sample 1000]).subs.item? 0 =
        some item ∧ item.queue.count = 2 ∧ item.queue.RingOk Sample.knowing.caps := by
  have hrun : Engine.ReachableIf Sample.knowing
      (fun e input => input.Permitted Sample.knowing Allowed.sized e)
      (Sample.withItem Sample.valueItem [.sample 1000]) :=
    Engine.reachableIf_runWith Sample.answer (.start () _) ⟨trivial,trivial,trivial,trivial⟩
  have hcount : ((Sample.withItem Sample.valueItem [.sample 1000]).subs.item? 0).map
      (·.queue.count) = some 2 := by decide +kernel
  obtain ⟨item,hitem,hcount⟩ := Option.map_eq_some_iff.mp hcount
  exact ⟨item,hitem,hcount,queues_stay_rings hrun hitem⟩

end MucOpcua
