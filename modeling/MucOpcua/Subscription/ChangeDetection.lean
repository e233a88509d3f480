import MucOpcua.Subscription.Engine

/-!
# Changes of integer values

Which samples of a data item without a deadband come into its queue, over whole sequences of samples
and publishes.
-/

namespace MucOpcua

variable {ω κ : Type}

/-! ## Integer samples -/

def Variant.integer? (value : Variant) : Option Int :=
  match value with
  | ⟨.sbyte, .scalar v, _⟩ => some (Int8.toInt v)
  | ⟨.byte, .scalar v, _⟩ => some (UInt8.toNat v)
  | ⟨.int16, .scalar v, _⟩ => some (Int16.toInt v)
  | ⟨.uint16, .scalar v, _⟩ => some (UInt16.toNat v)
  | ⟨.int32, .scalar v, _⟩ => some (Int32.toInt v)
  | ⟨.uint32, .scalar v, _⟩ => some (UInt32.toNat v)
  | ⟨.int64, .scalar v, _⟩ => some (Int64.toInt v)
  | ⟨.uint64, .scalar v, _⟩ => some (UInt64.toNat v)
  | _ => none

structure IntegerValue where
  variant : Variant
  integer : Int
  is_integer : variant.integer? = some integer

theorem Variant.numericToDouble_integer {double : DoubleOps} {value : Variant} {n : Int}
    (h : value.integer? = some n) : variantNumericToDouble double value = some (double.ofInt n) := by
  unfold Variant.integer? at h
  split at h <;> first | (cases h; rfl) | cases h

theorem Variant.integer_eq_of_scalarEqual {a b : Variant} {m n : Int} (ha : a.integer? = some m)
    (hb : b.integer? = some n) (h : variantScalarEqual a b = true) : m = n := by
  have hsame : a.integer? = b.integer? := by
    unfold variantScalarEqual at h
    split at h <;>
      first
      | rfl
      | cases h
      | (simp only [scalarEqual,decide_eq_true_eq] at h
         subst h
         rfl)
  rw [ha,hb] at hsame
  exact Option.some.inj hsame

/-! ## Runs of an item -/

/-- What happens to an item that is neither modified nor flagged nor asked to resend. -/
inductive ItemEvent where
  /-- a sample that is due and has Good status -/
  | sample (nowMs : UInt64) (value : IntegerValue)
  /-- a publish that takes up to so many entries of the item -/
  | publish (remaining : Nat)

namespace MonitoredItem

variable (cfg : EngineConfig ω κ)

/-- The integer enqueued last, where `value` is what a call had to enqueue. -/
def lastEnqueued (before after : MonitoredItem ω κ) (value : Variant) (last : Option Int) :
    Option Int :=
  if after.queue.enqueued = before.queue.enqueued then last else value.integer?

/-- `clear_reported_items` for one item. -/
def drained (item : MonitoredItem ω κ) (remaining : Nat) : MonitoredItem ω κ :=
  (item.drainReportedEntries cfg.caps remaining).1.item.getD item

/-- Of the samples of a run exactly those are enqueued that are not the integer enqueued last. A
value that was read when the item was created is enqueued before the next sample or publish. -/
def ChangesReported : MonitoredItem ω κ → Option Int → List ItemEvent → Prop
  | _, _, [] => True
  | item, last, .sample nowMs value :: events =>
    let prepared := item.prepareSample cfg
    let last := lastEnqueued item prepared item.lastValue last
    let stored := prepared.storeSample cfg value.variant Status.good
    (stored.queue.enqueued ≠ prepared.queue.enqueued ↔ last ≠ some value.integer) ∧
      ChangesReported (stored.advanceSampleTimer nowMs)
        (lastEnqueued prepared stored value.variant last) events
  | item, last, .publish remaining :: events =>
    let prepared := item.preparePendingQueue cfg
    ChangesReported (prepared.drained cfg remaining)
      (lastEnqueued item prepared item.lastValue last) events

end MonitoredItem

def sampledIntegers : List ItemEvent → List Int
  | [] => []
  | .sample _ value :: events => value.integer :: sampledIntegers events
  | .publish _ :: events => sampledIntegers events

def DoubleOps.Separates (double : DoubleOps) : Prop :=
  ∀ a b : Int,
    let diff := double.sub (double.ofInt a) (double.ofInt b)
    double.lt 0 (if double.lt diff 0 then double.neg diff else diff) = true ↔
      double.ofInt a ≠ double.ofInt b

theorem binary64_separates : binary64.Separates := fun a b =>
  (Binary64.lt_zero_abs _).trans (Binary64.sub_ofInt a b)

def DoubleOps.Tells (double : DoubleOps) (a b : Int) : Prop :=
  a ≠ b → double.ofInt a ≠ double.ofInt b

/-- Integers up to 2^53 are told apart. -/
theorem binary64_tells {a b : Int} (ha : a.natAbs ≤ 2 ^ 53) (hb : b.natAbs ≤ 2 ^ 53) :
    binary64.Tells a b := Binary64.ofInt_ne ha hb

namespace MonitoredItem

/-- A data item as it was created, with trigger StatusValue and neither deadband nor aggregate, and
the integer that was read for it. -/
structure Created (item : MonitoredItem ω κ) (first : Option Int) : Prop where
  trigger : item.trigger = datachangeTriggerStatusValue
  deadbandType : item.deadbandType = deadbandTypeNone
  hasAggregate : item.hasAggregate = false
  hasReported : item.hasReported = false
  count : item.queue.count = 0
  hasValue : item.hasValue = first.isSome
  pending : item.pending = first.isSome
  lastStatus : first.isSome → item.lastStatus = Status.good
  lastValue : ∀ n, first = some n → item.lastValue.integer? = some n

/-- The integer `n` was enqueued last. -/
structure Steady (cfg : EngineConfig ω κ) (item : MonitoredItem ω κ) (n : Int) : Prop where
  trigger : item.trigger = datachangeTriggerStatusValue
  deadbandType : item.deadbandType = deadbandTypeNone
  hasReported : item.hasReported = true
  hasValue : item.hasValue = true
  lastStatus : item.lastStatus = Status.good
  lastValue : item.lastValue.integer? = some n
  lastReportedNumeric : item.lastReportedNumeric = cfg.double.ofInt n
  pending : item.pending = decide (item.queue.count ≠ 0)

variable {cfg : EngineConfig ω κ} {item : MonitoredItem ω κ} {n : Int} {first : Option Int}

theorem prepareSample_of_steady (h : item.Steady cfg n) : item.prepareSample cfg = item := by
  simp [prepareSample,h.hasReported,h.pending]

theorem preparePendingQueue_of_steady (h : item.Steady cfg n) :
    item.preparePendingQueue cfg = item := by
  by_cases hcount : item.queue.count = 0 <;>
    simp [preparePendingQueue,h.hasReported,h.pending,hcount]

/-- Enqueueing the last value makes an item steady. -/
theorem steady_enqueueReport (cfg : EngineConfig ω κ) (item : MonitoredItem ω κ)
    (htrigger : item.trigger = datachangeTriggerStatusValue)
    (hdeadband : item.deadbandType = deadbandTypeNone) (hvalue : item.hasValue = true)
    (hstatus : item.lastStatus = Status.good) (hlast : item.lastValue.integer? = some n)
    (status : StatusCode) : (item.enqueueReport cfg item.lastValue status).Steady cfg n := by
  refine ⟨htrigger,hdeadband,rfl,hvalue,hstatus,hlast,?_,?_⟩
  · show (variantNumericToDouble cfg.double item.lastValue).getD _ = _
    rw [Variant.numericToDouble_integer hlast]
    rfl
  · show decide (0 < _) = _
    simp only [Nat.pos_iff_ne_zero]
    rfl

section

variable (h : item.Steady cfg n)
include h

theorem Steady.advanceSampleTimer (nowMs : UInt64) :
    (item.advanceSampleTimer nowMs).Steady cfg n := by
  unfold MonitoredItem.advanceSampleTimer
  dsimp only
  split
  · exact ⟨h.1,h.2,h.3,h.4,h.5,h.6,h.7,h.8⟩
  · exact h

theorem Steady.drained (remaining : Nat) : (item.drained cfg remaining).Steady cfg n :=
  ⟨h.1,h.2,h.3,h.4,h.5,h.6,h.7,rfl⟩

/-- A sample of a steady item is enqueued if its double is another one. -/
theorem Steady.storeSample_eq (hdouble : cfg.double.Separates) (value : IntegerValue) :
    item.storeSample cfg value.variant Status.good =
      if cfg.double.ofInt value.integer ≠ cfg.double.ofInt n then
        enqueueReport cfg { item with lastValue := value.variant, lastStatus := Status.good }
          value.variant Status.good
      else item := by
  have hreportable : item.changeReportable cfg value.variant Status.good = true ↔
      cfg.double.ofInt value.integer ≠ cfg.double.ofInt n := by
    have htest := hdouble value.integer n
    unfold changeReportable
    rw [if_neg (by simp [h.hasReported,h.lastStatus]),
      Variant.numericToDouble_integer value.is_integer,Variant.numericToDouble_integer h.lastValue,
      h.lastReportedNumeric]
    dsimp only
    rwa [if_neg (by rw [h.deadbandType]; decide),if_neg (by rw [h.deadbandType]; decide)]
  have hvalue : ¬ item.hasValue = false := by simp [h.hasValue]
  unfold storeSample
  rw [if_neg hvalue]
  by_cases hapart : cfg.double.ofInt value.integer ≠ cfg.double.ofInt n
  · -- another double is another integer
    have hdiffers : variantScalarEqual value.variant item.lastValue = false := by
      by_contra hequal
      rw [Bool.not_eq_false] at hequal
      rw [Variant.integer_eq_of_scalarEqual value.is_integer h.lastValue hequal] at hapart
      exact hapart rfl
    have hchanged : item.sampleChanged value.variant Status.good = true := by
      unfold sampleChanged
      rw [if_neg (by rw [h.trigger]; decide),hdiffers]
      simp
    rw [if_pos hapart,if_pos ⟨hchanged,hreportable.mpr hapart⟩]
  · rw [if_neg hapart,if_neg fun hboth => hapart (hreportable.mp hboth.2)]

theorem Steady.changesReported_iff (hdouble : cfg.double.Separates) (events : List ItemEvent) :
    item.ChangesReported cfg (some n) events ↔
      (n :: sampledIntegers events).IsChain cfg.double.Tells := by
  induction events generalizing item n with
  | nil => exact ⟨fun _ => .singleton n,fun _ => trivial⟩
  | cons event events ih =>
    cases event with
    | publish remaining =>
      simp only [ChangesReported,preparePendingQueue_of_steady h,lastEnqueued]
      exact ih (h.drained remaining)
    | sample nowMs value =>
      simp only [ChangesReported,prepareSample_of_steady h,lastEnqueued,sampledIntegers,
        List.isChain_cons_cons,h.storeSample_eq hdouble value]
      by_cases hapart : cfg.double.ofInt value.integer ≠ cfg.double.ofInt n
      · have hne : n ≠ value.integer := fun heq => hapart (by rw [heq])
        have hsteady := steady_enqueueReport cfg
          { item with lastValue := value.variant, lastStatus := Status.good } h.trigger
          h.deadbandType h.hasValue rfl value.is_integer Status.good
        have henqueued : (enqueueReport cfg
            { item with lastValue := value.variant, lastStatus := Status.good } value.variant
            Status.good).queue.enqueued ≠ item.queue.enqueued := Nat.succ_ne_self _
        rw [if_pos hapart,if_neg henqueued,value.is_integer]
        refine and_congr ?_ (ih (hsteady.advanceSampleTimer nowMs))
        simp [DoubleOps.Tells,hne,Ne.symm hapart,henqueued]
      · rw [if_neg hapart,if_pos rfl]
        -- not enqueued, which is right if it is the same integer
        by_cases heq : n = value.integer
        · subst heq
          refine and_congr ?_ (ih (h.advanceSampleTimer nowMs))
          simp [DoubleOps.Tells]
        have htells : ¬ cfg.double.Tells n value.integer :=
          fun htells => htells heq (not_not.mp hapart).symm
        simp [heq,htells]

end

/-! ## From the creation on -/

theorem Created.prepared_of_some (cfg : EngineConfig ω κ) (h : item.Created (some n)) :
    item.prepareSample cfg = item.preparePendingQueue cfg ∧
      item.preparePendingQueue cfg = item.enqueueReport cfg item.lastValue item.lastStatus := by
  have hvalue : item.hasValue = true := h.hasValue
  have hpending : item.pending = true := h.pending
  simp [prepareSample,preparePendingQueue,hvalue,hpending,h.count]

theorem Created.steady (cfg : EngineConfig ω κ) (h : item.Created (some n)) :
    (item.enqueueReport cfg item.lastValue item.lastStatus).Steady cfg n :=
  steady_enqueueReport cfg item h.trigger h.deadbandType h.hasValue (h.lastStatus rfl)
    (h.lastValue n rfl) _

theorem Created.unprepared_of_none (cfg : EngineConfig ω κ) (h : item.Created none) :
    item.prepareSample cfg = item ∧ item.preparePendingQueue cfg = item := by
  have hvalue : item.hasValue = false := h.hasValue
  simp [prepareSample,preparePendingQueue,hvalue]

theorem Created.drained (h : item.Created none) (remaining : Nat) :
    (item.drained cfg remaining).Created none := by
  have hcount : (item.queue.drain cfg.caps remaining).1.count = 0 := by
    simp [MonitorQueue.drain,MonitorQueue.effectiveSize,h.count,MonitorQueue.drainLoop]
  refine ⟨h.trigger,h.deadbandType,h.hasAggregate,h.hasReported,hcount,h.hasValue,?_,
    h.lastStatus,h.lastValue⟩
  show decide ((item.queue.drain cfg.caps remaining).1.count ≠ 0) = false
  rw [hcount]
  rfl

/-- The value read at the creation is enqueued before anything else. -/
theorem Created.changesReported_some (h : item.Created (some n)) (events : List ItemEvent) :
    item.ChangesReported cfg none events ↔
      (item.enqueueReport cfg item.lastValue item.lastStatus).ChangesReported cfg (some n)
        events := by
  obtain ⟨hsample,hpublish⟩ := h.prepared_of_some cfg
  have hsteady := h.steady cfg
  have hlast : lastEnqueued item (item.enqueueReport cfg item.lastValue item.lastStatus)
      item.lastValue none = some n :=
    (if_neg (Nat.succ_ne_self _)).trans (h.lastValue n rfl)
  cases events with
  | nil => exact Iff.rfl
  | cons event events =>
    cases event with
    | sample nowMs value =>
      simp only [ChangesReported,hsample,hpublish,hlast,prepareSample_of_steady hsteady]
      simp only [lastEnqueued,if_true]
    | publish remaining =>
      simp only [ChangesReported,hpublish,hlast,preparePendingQueue_of_steady hsteady]
      simp only [lastEnqueued,if_true]

theorem Created.changesReported_none (h : item.Created none) (hdouble : cfg.double.Separates)
    (events : List ItemEvent) :
    item.ChangesReported cfg none events ↔ (sampledIntegers events).IsChain cfg.double.Tells := by
  induction events generalizing item with
  | nil => exact ⟨fun _ => .nil,fun _ => trivial⟩
  | cons event events ih =>
    obtain ⟨hsample,hpublish⟩ := h.unprepared_of_none cfg
    cases event with
    | publish remaining =>
      simp only [ChangesReported,hpublish,lastEnqueued]
      exact ih (h.drained remaining)
    | sample nowMs value =>
      have hvalue : item.hasValue = false := h.hasValue
      have hsteady := steady_enqueueReport cfg
        { item with lastValue := value.variant, lastStatus := Status.good, hasValue := true }
        h.trigger h.deadbandType rfl rfl value.is_integer Status.good
      have henqueued : (enqueueReport cfg { item with
          lastValue := value.variant, lastStatus := Status.good, hasValue := true } value.variant
          Status.good).queue.enqueued ≠ item.queue.enqueued := Nat.succ_ne_self _
      simp only [ChangesReported,hsample,lastEnqueued,if_true,storeSample,hvalue,
        if_neg henqueued,value.is_integer]
      refine Iff.trans (and_iff_right ?_)
        ((hsteady.advanceSampleTimer nowMs).changesReported_iff hdouble events)
      exact ⟨fun _ => nofun,fun _ => henqueued⟩

/-- A request for a data item without a filter gets such an item, with the value that was read. -/
theorem Created.of_configure {world : ω} {body : CreateBody} {node : Node ω} {sub : Subscription}
    {timestampsToReturn : UInt32} {nowMs : UInt64}
    (htrigger : body.filter.trigger = datachangeTriggerStatusValue)
    (hdeadband : body.filter.deadbandType = deadbandTypeNone)
    (haggregate : body.filter.hasAggregate = false) (hreported : item.hasReported = false)
    (hfirst : match node.value with
      | none => first = none
      | some source => body.attributeId ≠ 12 ∧
        let read := (item.configured cfg world body node sub timestampsToReturn nowMs).applyIndexRange
          (valueSourceRead source world body.nodeId).1
        if read.1 = Status.good then first.isSome ∧ read.2.integer? = first else first = none) :
    (configureMonitoredItem cfg world item body node sub timestampsToReturn nowMs).1.Created
      first := by
  unfold configureMonitoredItem readFirstValue
  generalize node.value = value at hfirst ⊢
  cases value with
  | none =>
    dsimp only at hfirst ⊢
    subst hfirst
    exact ⟨htrigger,hdeadband,haggregate,hreported,rfl,rfl,rfl,nofun,nofun⟩
  | some source =>
    dsimp only at hfirst ⊢
    obtain ⟨hattribute,hread⟩ := hfirst
    rw [if_neg hattribute]
    split at hread
    · next hgood =>
      obtain ⟨hsome,hvalue⟩ := hread
      refine ⟨htrigger,hdeadband,haggregate,hreported,rfl,?_,?_,fun _ => hgood,fun n hn => ?_⟩
      · exact (decide_eq_true hgood).trans hsome.symm
      · exact (decide_eq_true hgood).trans hsome.symm
      · exact hvalue.trans hn
    · next hbad =>
      subst hread
      exact ⟨htrigger,hdeadband,haggregate,hreported,rfl,decide_eq_false hbad,decide_eq_false hbad,
        nofun,nofun⟩

/-- Of the integer samples of a data item without a deadband exactly the changes are enqueued, if
and only if no two different integers in a row are one double. -/
theorem integer_changes_reported_iff (hcreated : item.Created first)
    (hdouble : cfg.double = binary64) (events : List ItemEvent) :
    item.ChangesReported cfg none events ↔
      (first.toList ++ sampledIntegers events).IsChain binary64.Tells := by
  have hseparates : cfg.double.Separates := hdouble ▸ binary64_separates
  rw [← hdouble]
  cases first with
  | none => exact hcreated.changesReported_none hseparates events
  | some n =>
    exact (hcreated.changesReported_some events).trans
      ((hcreated.steady cfg).changesReported_iff hseparates events)

end MonitoredItem

/-! ## Integers above 2^53 -/

namespace Sample

def counterConfig : EngineConfig Unit Unit := { config with double := binary64 }

def counterRequest : CreateBody where
  nodeId := numericNodeId 1000
  attributeId := 13
  monitoringMode := 2
  clientHandle := 0
  samplingIntervalBits := 0
  indexRangeStart := -1
  indexRangeEnd := -1
  filter := FilterBody.start ⟨[], WhereClause.empty, Status.good⟩
  queueSize := 1
  discardOldest := true

def counterItem : MonitoredItem Unit Unit :=
  (configureMonitoredItem counterConfig () (Subs.newItem counterConfig 1 1 0) counterRequest ⟨none⟩
    (Subs.newSubscription 1 1 true 0 0) 0 0).1

def counted (n : UInt64) : IntegerValue := ⟨⟨.uint64, .scalar n, 0⟩, n.toNat, rfl⟩

/-- 2^53 and 2^53 + 1 are one double, so the change from one to the other is not reported. -/
theorem counter_change_lost : ¬ counterItem.ChangesReported counterConfig none
    [.sample 0 (counted 9007199254740992), .publish 1, .sample 1 (counted 9007199254740993)] := by
  intro h
  have hlost := h.2.1
  revert hlost
  decide +kernel

theorem counterItem_created : counterItem.Created none :=
  .of_configure rfl rfl rfl rfl rfl

theorem counter_changes_reported : counterItem.ChangesReported counterConfig none
    [.sample 0 (counted 7), .publish 1, .sample 1 (counted 8), .sample 2 (counted 8)] := by
  refine (MonitoredItem.integer_changes_reported_iff counterItem_created rfl _).mpr ?_
  show List.IsChain binary64.Tells [7,8,8]
  refine .cons_cons ?_ (.cons_cons ?_ (.singleton _)) <;>
    exact binary64_tells (by decide) (by decide)

end Sample

end MucOpcua
