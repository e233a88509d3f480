import MucOpcua.Subscription.Ledger

/-!
# The services in the ledger

However far a service gets with a request, what it does are entries of the ledger, and so is a step
of the engine.
-/

namespace MucOpcua

open Interact

variable {ω κ α : Type}
variable (sessionId subscriptionId : UInt32)

/-! ## Services -/

section Services

open ServiceM (Along)

variable {P : Ledger.Rules} {cfg : EngineConfig ω κ} {s s' : Subs ω κ}
  {diag : DiagnosticsSummary} {caller : Caller}

structure ItemsOnly (s s' : Subs ω κ) : Prop where
  subscriptions : s'.subscriptions = s.subscriptions
  publishQueue : s'.publishQueue = s.publishQueue
  records : s'.history.records = s.history.records
  nextUid : s.history.nextUid ≤ s'.history.nextUid

theorem ItemsOnly.run (h : ItemsOnly s s') (diag : DiagnosticsSummary) :
    Ledger.Run P (s.ledger diag) (s'.ledger diag) := by
  have hledger : s'.ledger diag = { s.ledger diag with nextUid := s'.history.nextUid } := by
    simp only [Subs.ledger,h.subscriptions,h.publishQueue,h.records]
  rw [hledger]
  exact .single (.number _ h.nextUid)

theorem ItemsOnly.refl (s : Subs ω κ) : ItemsOnly s s := ⟨rfl,rfl,rfl,Nat.le_refl _⟩

theorem subscriptionModify_ledger (p : Subs.SubscriptionParameters) :
    (s.subscriptionModify sessionId subscriptionId p).2.ledger diag = s.ledger diag := by
  unfold Subs.subscriptionModify
  split
  · rfl
  split
  · rfl
  · next sub hsub => exact Subs.ledger_setSubscription_same hsub rfl

theorem acknowledge_ledger (sequenceNumber : UInt32) :
    (s.acknowledge sessionId subscriptionId sequenceNumber).2.ledger diag = s.ledger diag := by
  unfold Subs.acknowledge
  split
  · rfl
  rename_i index _
  split
  · rfl
  rename_i sub hsub
  split
  · have hsub' : (s.log (.acknowledged sub.uid sequenceNumber)).subscription? index = some sub :=
      hsub
    exact (Subs.ledger_setSubscription_same hsub' (by rfl)).trans
      (Subs.ledger_log_acknowledged s diag _ _)
  · exact Subs.ledger_log_acknowledged s diag _ _

theorem publishRequestQueueClear_run (s : Subs ω κ) (diag : DiagnosticsSummary)
    (sessionId : UInt32) :
    Ledger.Run P (s.ledger diag) ((s.publishRequestQueueClear sessionId).ledger diag) := by
  refine .single (.drop _ (Slotwise.map fun slot _ => ?_))
  cases slot with
  | none => exact .inl rfl
  | some request =>
    rw [Option.filter_some]
    split
    · exact .inl rfl
    · exact .inr rfl

theorem setPublishingMode_run (publishingEnabled : Bool)
    (s : Subs ω κ) (diag : DiagnosticsSummary) : Ledger.Run P (s.ledger diag)
      ((s.setPublishingMode sessionId publishingEnabled subscriptionId).2.ledger diag) := by
  unfold Subs.setPublishingMode
  split
  · exact .refl
  rename_i index _
  split
  · exact .refl
  rename_i sub hsub
  split
  · dsimp only
    rw [Subs.ledger_setSubscription_same hsub]
    rfl
  have hcleared := publishRequestQueueClear_run (P := P)
    (s.setSubscription index (some { sub with publishingEnabled })) diag sessionId
  rw [Subs.ledger_setSubscription_same hsub] at hcleared
  · exact hcleared
  · rfl

/-! ### Creating and deleting -/

theorem subscriptionCreate_cases (s : Subs ω κ) (sessionId : UInt32)
    (p : Subs.SubscriptionParameters) (publishingEnabled : Bool) (nowMs : UInt64) :
    (∃ status s', s.subscriptionCreate sessionId p publishingEnabled nowMs = (.error status, s') ∧
        ∀ diag, s'.ledger diag = s.ledger diag) ∨
      ∃ index sub s', s.subscriptionCreate sessionId p publishingEnabled nowMs = (.ok sub, s') ∧
        ∀ diag, (s.ledger diag).owners[index]? = some none ∧ s'.ledger diag =
          { (s.ledger diag).setOwner index (some sessionId) with
            nextUid := (s.ledger diag).nextUid + 1 } := by
  unfold Subs.subscriptionCreate
  split
  · exact .inl ⟨_,_,rfl,fun _ => rfl⟩
  rename_i index hfree
  dsimp only
  split
  · exact .inl ⟨_,_,rfl,fun _ => rfl⟩
  refine .inr ⟨index,_,_,rfl,fun diag => ⟨?_,?_⟩⟩
  · show (s.subscriptions.map _)[index]? = _
    rw [List.getElem?_map,freeSlot_some hfree]
    rfl
  · simp only [Subs.ledger,Subs.setSubscription,List.map_set]
    rfl

theorem handleCreateSubscription_run (caller : Caller) :
    Along Subs.ledger (Ledger.Step P) (handleCreateSubscription cfg caller) := by
  refine .bind (.read _) fun req => .bind (.read _) fun p => .bind (.read _) fun enabled =>
    .bind (.read _) fun priority => .bind (.tickMs _) fun nowMs => ?_
  intro work
  rw [ensures_exceptBind]
  show Ensures (ServiceM.engine _).run work _
  rw [ServiceM.ensures_run_engine,ensures_modifyGet]
  dsimp only
  rcases subscriptionCreate_cases work.engine.subs caller.sessionId (p.withPriority priority)
    enabled nowMs with ⟨status,s',hcreate,hledger⟩ | ⟨index,sub,s',hcreate,hentry⟩
  · rw [hcreate]
    rw [ensures_exceptBind,ServiceM.ensures_run_check]
    rw [hledger]
  rw [hcreate]
  rw [ensures_exceptBind,ServiceM.ensures_run_check]
  dsimp only
  rw [ensures_exceptBind,ServiceM.ensures_run_engine,ensures_modify]
  -- the subscription is there and counted; the response makes no entry
  obtain ⟨hfree,hset⟩ := hentry work.engine.diag
  have hcreated := Ledger.Step.create (P := P) index caller.sessionId hfree
  have hrest : Along Subs.ledger (Ledger.Step P) (do
      respondPrefix cfg caller 790 req.requestHandle Status.good
      ServiceM.put (binaryWriteUint32 sub.subscriptionId)
      ServiceM.put (writeRevisedParameters sub)
      ServiceM.finish : ServiceM ω κ Nat) :=
    .bind (.respondPrefix _ _ _ _ _) fun _ => .bind (.put _) fun _ => .bind (.put _) fun _ =>
      .finish
  have hcounted : s'.ledger work.engine.diag.subscriptionCreated =
      { (work.engine.subs.ledger work.engine.diag).setOwner index (some caller.sessionId) with
        nextUid := (work.engine.subs.ledger work.engine.diag).nextUid + 1
        subscriptionCount :=
          (work.engine.subs.ledger work.engine.diag).subscriptionCount + 1 } := by
    rw [Subs.ledger_counters s' work.engine.diag,hset]
    simp [Subs.ledger,Ledger.setOwner]
  refine (hrest _).mono fun _ work' h => .head hcreated ?_
  rw [← hcounted]
  exact h

theorem engineSubscriptionDelete_cases (e : Engine ω κ) (sessionId subscriptionId : UInt32) :
    (∃ status, e.subscriptionDelete sessionId subscriptionId = (status, e)) ∨
      ∃ index s', e.subscriptionDelete sessionId subscriptionId =
          (Status.good, { e with subs := s', diag := e.diag.subscriptionClosed }) ∧
        (e.subs.ledger e.diag).owners[index]? = some (some sessionId) ∧
        s'.ledger e.diag.subscriptionClosed =
          ((e.subs.ledger e.diag).setOwner index none).subscriptionClosed := by
  unfold Engine.subscriptionDelete
  rcases subscriptionDelete_cases e.subs sessionId subscriptionId with
    ⟨status,hdelete⟩ | ⟨index,s',hdelete,hentry⟩
  · exact .inl ⟨status.val,by rw [hdelete]⟩
  obtain ⟨howner,hset⟩ := hentry e.diag
  refine .inr ⟨index,s',by rw [hdelete],howner,?_⟩
  rw [Subs.ledger_counters s' e.diag,hset,DiagnosticsSummary.subscriptionClosed_currentSessionCount,
    DiagnosticsSummary.subscriptionClosed_currentSubscriptionCount]
  rfl

theorem clearIfUnsubscribed_run (s : Subs ω κ) (diag : DiagnosticsSummary) (sessionId : UInt32) :
    Ledger.Run P (s.ledger diag) ((s.clearIfUnsubscribed sessionId).ledger diag) := by
  unfold Subs.clearIfUnsubscribed
  split
  · exact publishRequestQueueClear_run s diag sessionId
  · exact .refl

theorem deleteSubscriptionResult_run (caller : Caller) (subscriptionId : UInt32) :
    PublishM.Along Subs.ledger (Ledger.Step P)
      (deleteSubscriptionResult cfg caller subscriptionId) := by
  intro e
  unfold deleteSubscriptionResult
  rw [ensures_bind]
  have hnotify : Ensures (notifyDeletion cfg caller subscriptionId) e fun _ e' =>
      Ledger.Run P (e.subs.ledger e.diag) (e'.subs.ledger e'.diag) := by
    unfold notifyDeletion
    rw [ensures_bind,ensures_get]
    dsimp only
    split
    · exact .refl
    rename_i index hfind
    obtain ⟨sub,hsub,-,-⟩ := Subs.subscriptionFind_some hfind
    rw [hsub]
    exact (issueStatusChangeNotification_run hsub).mono fun _ _ h => h.run
  refine hnotify.mono fun _ e₁ h => ?_
  rw [ensures_modifyGet]
  refine h.trans ?_
  rcases engineSubscriptionDelete_cases e₁ caller.sessionId subscriptionId with
    ⟨status,hdelete⟩ | ⟨index,s',hdelete,howner,hset⟩
  · rw [hdelete]
    exact clearIfUnsubscribed_run e₁.subs e₁.diag caller.sessionId
  rw [hdelete]
  dsimp only
  rw [Subs.ledger_clearIfUnsubscribed,hset]
  exact .single (.delete index caller.sessionId howner)

/-! ### Parking -/

/-- The slot in which `handle_publish` parks a request: the first free one, where the oldest request
of the session makes room if there is none. -/
def parkingSlot (sessionId : UInt32) (queue : List (Option PublishRequest)) : Option Nat :=
  (freeSlot queue).or
    ((Subs.oldestRequest sessionId 0 queue none).bind fun found => freeSlot (queue.set found.1 none))

def Ledger.Rules.MayPark (P : Ledger.Rules) (sessionId : UInt32)
    (queue : List (Option PublishRequest)) (nowMs : UInt64) : Prop :=
  ∀ i request l, parkingSlot sessionId queue = some i → request.sessionId = sessionId →
    request.enqueuedMs = nowMs → l.parked[i]? = some none →
    (∀ (j : Nat) (request' : PublishRequest), l.parked[j]? = some (some request') →
      queue[j]? = some (some request')) → P.park l i request

theorem publishRequestEnqueue_run (requestId requestHandle : UInt32)
    (nowMs : UInt64) (timeoutHint : UInt32)
    (ackResults : { results : List StatusCode // results.length ≤ maxPublishAcks })
    (howner : some sessionId ∈ (s.ledger diag).owners)
    (hpark : ∀ i request, freeSlot s.publishQueue = some i → request.sessionId = sessionId →
      request.enqueuedMs = nowMs → P.park (s.ledger diag) i request) :
    Ledger.Run P (s.ledger diag) ((s.publishRequestEnqueue sessionId requestId requestHandle nowMs
      timeoutHint ackResults).2.ledger diag) := by
  unfold Subs.publishRequestEnqueue
  split
  · exact .refl
  · next index hfree =>
    exact .single (.park index _ (freeSlot_some hfree) rfl howner (hpark index _ hfree rfl rfl))

theorem parkRequest_run (req : RequestHeader)
    (ackResults : { results : List StatusCode // results.length ≤ maxPublishAcks })
    {e : Engine ω κ} (howner : some caller.sessionId ∈ (e.subs.ledger e.diag).owners)
    (hpark : P.MayPark caller.sessionId e.subs.publishQueue (cfg.timeAdapter.getTickMs e.world).1) :
    Ensures (parkRequest cfg caller req ackResults) e fun _ e' =>
      Ledger.Run P (e.subs.ledger e.diag) (e'.subs.ledger e'.diag) := by
  unfold parkRequest tickMs
  rw [ensures_bind,ensures_modifyGet]
  generalize cfg.timeAdapter.getTickMs e.world = tick at hpark ⊢
  obtain ⟨nowMs,world⟩ := tick
  rw [ensures_bind,ensures_modifyGet]
  cases hfree : freeSlot e.subs.publishQueue with
  | some index =>
    have hrun := publishRequestEnqueue_run (P := P) caller.sessionId caller.requestId
      req.requestHandle nowMs req.timeoutHint ackResults howner fun i request hi hsession htime => by
        refine hpark i request _ ?_ hsession htime (freeSlot_some hi) fun _ _ h => h
        rw [parkingSlot,hi]
        rfl
    simp only [Subs.publishRequestEnqueue,hfree] at hrun ⊢
    exact hrun
  | none =>
    simp only [Subs.publishRequestEnqueue,hfree]
    rw [ensures_bind]
    refine (publishRequestEvictOldest_spec cfg caller.toLink caller.sessionId _).mono
      fun evicted e₂ ⟨hdiag,h⟩ => ?_
    rcases h with ⟨rfl,hsubs⟩ | ⟨request,i,rfl,htaken,hsubs⟩
    · rw [if_neg Bool.false_ne_true,ensures_pure,hsubs,hdiag]
    -- the oldest request made room
    have hevicted : Ledger.Run P (e.subs.ledger e.diag) (e₂.subs.ledger e₂.diag) := by
      rw [hdiag]
      rcases hsubs with hsubs | hsubs
      · rw [hsubs]
        exact dropRequest_run e.subs e.diag i
      · rw [hsubs,Subs.ledger_log_answered]
        exact htaken.answer_run
    have hqueue : e₂.subs.publishQueue = e.subs.publishQueue.set i none := by
      rcases hsubs with hsubs | hsubs <;> rw [hsubs] <;> rfl
    have howner₂ : some caller.sessionId ∈ (e₂.subs.ledger e₂.diag).owners := by
      rcases hsubs with hsubs | hsubs <;> rw [hsubs] <;> exact howner
    refine hevicted.trans (publishRequestEnqueue_run _ _ _ _ _ _ howner₂
      fun j request' hj hsession htime => ?_)
    refine hpark j request' _ ?_ hsession htime (freeSlot_some hj) fun k request'' hk => ?_
    · rw [parkingSlot,hfree,Option.none_or,htaken.found,Option.bind_some,← hqueue,hj]
    · have hk' : (e.subs.publishQueue.set i none)[k]? = some (some request'') := by
        rw [← hqueue]
        exact hk
      exact ((Slotwise.set_cases hk').resolve_left fun h => nomatch h.2).2

theorem readAcknowledgements_kept (n : Nat) (work : Work ω κ) :
    Ensures (readAcknowledgements caller n : ServiceM ω κ (List StatusCode)).run work
      fun _ work' => work'.engine.world = work.engine.world ∧ work'.engine.diag = work.engine.diag ∧
        ∀ diag, work'.engine.subs.ledger diag = work.engine.subs.ledger diag := by
  induction n generalizing work with
  | zero => exact ⟨rfl,rfl,fun _ => rfl⟩
  | succ n ih =>
    refine ServiceM.ensures_read_bind (fun _ _ _ => ⟨rfl,rfl,fun _ => rfl⟩) fun id reader _ => ?_
    refine ServiceM.ensures_read_bind (fun _ _ _ => ⟨rfl,rfl,fun _ => rfl⟩)
      fun sequenceNumber reader' _ => ?_
    rw [ensures_exceptBind]
    show Ensures (ServiceM.engine _).run _ _
    rw [ServiceM.ensures_run_engine,ensures_modifyGet]
    dsimp only
    rw [ensures_exceptBind]
    refine (ih _).mono fun result work' ⟨hworld,hdiag,hledger⟩ => ?_
    have hkept : work'.engine.world = work.engine.world ∧ work'.engine.diag = work.engine.diag ∧
        ∀ diag, work'.engine.subs.ledger diag = work.engine.subs.ledger diag :=
      ⟨hworld,hdiag,fun diag => (hledger diag).trans (acknowledge_ledger _ _ _)⟩
    cases result <;> exact hkept

theorem handlePublish_run {work : Work ω κ}
    (hpark : P.MayPark caller.sessionId work.engine.subs.publishQueue
      (cfg.timeAdapter.getTickMs work.engine.world).1) :
    Ensures (handlePublish cfg caller).run work fun _ work' =>
      Ledger.Run P (work.engine.subs.ledger work.engine.diag)
        (work'.engine.subs.ledger work'.engine.diag) := by
  refine ServiceM.ensures_read_bind (fun _ _ _ => .refl) fun req reader _ => ?_
  refine ServiceM.ensures_read_bind (fun _ _ _ => .refl) fun ackCount reader' _ => ?_
  rw [ensures_exceptBind]
  show Ensures (ServiceM.check _).run _ _
  rw [ServiceM.ensures_run_check]
  split
  · rw [ensures_exceptBind]
    refine (readAcknowledgements_kept _ _).mono fun result work₁ ⟨hworld,hdiag,hledger⟩ => ?_
    have hsame : work₁.engine.subs.ledger work₁.engine.diag =
        work.engine.subs.ledger work.engine.diag := by
      rw [hdiag]
      exact hledger _
    cases result with
    | error status =>
      rw [hsame]
    | ok results =>
      dsimp only
      rw [ensures_exceptBind,ServiceM.ensures_run_getSubs]
      dsimp only
      rw [ensures_exceptBind]
      show Ensures (ServiceM.check _).run _ _
      rw [ServiceM.ensures_run_check]
      by_cases hnone : work₁.engine.subs.countForSession caller.sessionId = 0
      · rw [if_pos hnone]
        rw [hsame]
      rw [if_neg hnone]
      rw [ensures_exceptBind,ServiceM.ensures_run_engine]
      have hqueue : work₁.engine.subs.publishQueue = work.engine.subs.publishQueue :=
        congrArg Ledger.parked hsame
      refine (parkRequest_run _ _ (Subs.owner_mem_iff.mpr hnone) (P := P) (by
        rw [hqueue,hworld]
        exact hpark)).mono fun parked e₂ h => ?_
      rw [hsame] at h
      dsimp only
      cases parked <;> exact h
  · exact .refl

/-! ### Transfer -/

theorem transfer_eq_clear {index : Nat} {sub : Subscription} (h : s.subscription? index = some sub)
    (newSessionId : UInt32) : s.transfer index sub newSessionId =
      (s.setSubscription index (some { sub with sessionId := newSessionId })).clearIfUnsubscribed
        sub.sessionId := by
  have hsub := Subs.subscription?_setSubscription h (some { sub with sessionId := newSessionId })
  unfold Subs.transfer Subs.clearIfUnsubscribed
  generalize s.setSubscription index (some { sub with sessionId := newSessionId }) = s₁ at hsub ⊢
  by_cases hcount : s₁.countForSession sub.sessionId = 0
  · have hne : sub.sessionId ≠ newSessionId := by
      intro heq
      rw [heq,Subs.countForSession,List.countP_eq_zero] at hcount
      exact hcount _ (List.mem_of_getElem? (Subs.subscription?_eq_some.mp hsub)) (by simp)
    rw [if_pos ⟨hne,hcount⟩,if_pos hcount]
  · rw [if_neg (fun h => hcount h.2),if_neg hcount]

theorem handOver_run (sendInitial : Bool) (index : Nat)
    (s : Subs ω κ) (diag : DiagnosticsSummary) : Ledger.Run P (s.ledger diag)
      ((s.handOver sessionId sendInitial index subscriptionId).ledger diag) := by
  have hreset : (if sendInitial then s.resetReported subscriptionId else s).ledger diag =
      s.ledger diag := by
    split <;> rfl
  unfold Subs.handOver
  dsimp only
  generalize (if sendInitial then s.resetReported subscriptionId else s) = s₁ at hreset ⊢
  rw [← hreset]
  split
  · exact .refl
  rename_i sub hsub
  rw [transfer_eq_clear hsub,Subs.ledger_clearIfUnsubscribed,Subs.ledger_setSubscription]
  exact .single (.transfer index sub.sessionId sessionId (Subs.ledger_owner hsub diag))

theorem transferSubscription_run (caller : Caller) (sendInitial : Bool) (subscriptionId : UInt32) :
    PublishM.Along Subs.ledger (Ledger.Step P)
      (transferSubscription cfg caller sendInitial subscriptionId) := by
  intro e
  unfold transferSubscription
  rw [ensures_bind,ensures_get]
  split
  · exact .refl
  rename_i index hfind
  obtain ⟨sub,hsub,-⟩ := Subs.subscriptionFindAny_some hfind
  rw [hsub]
  dsimp only
  split
  · exact .refl
  split
  · unfold moveSubscription
    rw [ensures_bind,ensures_bind]
    refine (issueStatusChangeNotification_run (P := P) hsub).mono fun _ e₁ h => ?_
    exact h.run.trans (handOver_run _ _ sendInitial index e₁.subs e₁.diag)
  · exact .refl

theorem transferAll_run (caller : Caller) (sendInitial : Bool) (ids : List UInt32) :
    Along Subs.ledger (Ledger.Step P) (transferAll cfg caller sendInitial ids) := by
  induction ids with
  | nil => exact .pure ()
  | cons id ids ih =>
    exact .bind (.engine (transferSubscription_run caller sendInitial id)) fun _ =>
      .bind (.put _) fun _ => ih

theorem handleTransferSubscriptions_run (caller : Caller) :
    Along Subs.ledger (Ledger.Step P) (handleTransferSubscriptions cfg caller) := by
  refine .bind (.read _) fun _ => .bind (.read _) fun _ => ?_
  split
  · exact .bind (.unchecked (.respondPrefix _ _ _ _ _)) fun _ => .check _
  split
  · exact .bind (.respondPrefix _ _ _ _ _) fun _ => .bind (.put _) fun _ =>
      .bind (.put _) fun _ => .finish
  exact .bind (.read _) fun _ => .bind (.read _) fun _ => .bind (.respondPrefix _ _ _ _ _)
    fun _ => .bind (.put _) fun _ => .bind (transferAll_run caller _ _) fun _ =>
      .bind (.put _) fun _ => .finish

/-! ### Items -/

theorem allocateItem_items (context : ItemContext) (body : CreateBody) (node : Node ω)
    (e : Engine ω κ) : ItemsOnly e.subs (e.allocateItem cfg context body node).2.subs ∧
      (e.allocateItem cfg context body node).2.diag = e.diag := by
  obtain ⟨hdiag,next,hsame | ⟨index,-,id,hset⟩⟩ := allocateItem_cases cfg context body node e
  · rw [hsame]
    exact ⟨⟨rfl,rfl,rfl,Nat.le_refl _⟩,hdiag⟩
  · rw [hset]
    exact ⟨⟨rfl,rfl,rfl,Nat.le_succ _⟩,hdiag⟩

theorem engineSetMonitoringMode_items (mode monitoredItemId : UInt32) (e : Engine ω κ) :
    ItemsOnly e.subs (e.setMonitoringMode cfg subscriptionId mode monitoredItemId).2.subs ∧
      (e.setMonitoringMode cfg subscriptionId mode monitoredItemId).2.diag = e.diag := by
  unfold Engine.setMonitoringMode
  split
  · exact ⟨.refl _,rfl⟩
  split
  · exact ⟨.refl _,rfl⟩
  · exact ⟨⟨rfl,rfl,rfl,Nat.le_refl _⟩,rfl⟩

theorem monitoredItemDelete_items (s : Subs ω κ) (subscriptionId monitoredItemId : UInt32) :
    ItemsOnly s (s.monitoredItemDelete subscriptionId monitoredItemId).2 := by
  unfold Subs.monitoredItemDelete
  split
  · exact .refl s
  · exact ⟨rfl,rfl,rfl,Nat.le_refl _⟩

theorem Subs.Relinked.itemsOnly {s s' : Subs ω κ} (h : s.Relinked s') : ItemsOnly s s' := by
  rcases h with rfl | ⟨index,item,links,-,rfl,-,-⟩
  · exact .refl _
  · exact ⟨rfl,rfl,rfl,Nat.le_refl _⟩

theorem linkAll_run {link : UInt32 → Subs ω κ → StatusCode × Subs ω κ}
    (h : ∀ id s, ItemsOnly s (link id s).2) (ids : List UInt32) (s : Subs ω κ)
    (diag : DiagnosticsSummary) :
    Ledger.Run P (s.ledger diag) ((linkAll link ids s).2.ledger diag) := by
  induction ids generalizing s with
  | nil => exact .refl
  | cons id ids ih => exact ((h id s).run diag).trans (ih _)

theorem modifyItem_items (header : ItemsHeader) (body : ModifyBody) (e : Engine ω κ) :
    ItemsOnly e.subs (e.modifyItem cfg header body).2.subs ∧
      (e.modifyItem cfg header body).2.diag = e.diag := by
  refine ⟨?_,?_⟩
  · rcases modifyItem_cases cfg header body e with
      hsame | ⟨index,item,item',-,-,-,-,-,-,-,-,hset⟩
    · rw [hsame]
      exact .refl _
    · rw [hset]
      exact ⟨rfl,rfl,rfl,Nat.le_refl _⟩
  · have htick (present : Bool) : (e.tickIf cfg present).2.diag = e.diag := by
      unfold Engine.tickIf
      split <;> rfl
    unfold Engine.modifyItem
    split
    · rfl
    split
    · rfl
    split
    · rfl
    split
    · rfl
    · exact htick _

theorem ItemsOnly.along {f : Engine ω κ → α × Engine ω κ}
    (h : ∀ e, ItemsOnly e.subs (f e).2.subs ∧ (f e).2.diag = e.diag) :
    PublishM.Along Subs.ledger (Ledger.Step P) (modifyGet f) := by
  intro e
  obtain ⟨hitems,hdiag⟩ := h e
  show Ledger.Run P (e.subs.ledger e.diag) ((f e).2.subs.ledger (f e).2.diag)
  rw [hdiag]
  exact hitems.run e.diag

theorem modifyItems_run (header : ItemsHeader) (n : Nat) :
    Along Subs.ledger (Ledger.Step P) (modifyItems cfg header n) := by
  induction n with
  | zero => exact .pure ()
  | succ n ih =>
    exact .bind (.read _) fun body => .bind (.engine (ItemsOnly.along (modifyItem_items header body)))
      fun _ => .bind (.put _) fun _ => ih

theorem handleModifyMonitoredItems_run (caller : Caller) :
    Along Subs.ledger (Ledger.Step P) (handleModifyMonitoredItems cfg caller) :=
  .bind (.read _) fun _ => .bind (.read _) fun _ => .bind (checkItems_along _) fun _ =>
    .bind (.respondPrefix _ _ _ _ _) fun _ => .bind (.put _) fun _ =>
      .bind (modifyItems_run _ _) fun _ => .bind (.put _) fun _ => .finish

/-! ### All services -/

theorem handle_run (service : Service) {work : Work ω κ}
    (hpark : service = .publish → P.MayPark caller.sessionId work.engine.subs.publishQueue
      (cfg.timeAdapter.getTickMs work.engine.world).1) :
    Ensures (service.handle cfg caller).run work fun _ work' =>
      Ledger.Run P (work.engine.subs.ledger work.engine.diag)
        (work'.engine.subs.ledger work'.engine.diag) := by
  have halong (h : Along Subs.ledger (Ledger.Step P) (service.handle cfg caller)) := h work
  cases service with
  | createSubscription => exact halong (handleCreateSubscription_run caller)
  | modifySubscription =>
    refine halong (handleModifySubscription_along fun _ _ s diag => ?_)
    rw [subscriptionModify_ledger]
  | setPublishingMode =>
    exact halong (handleSetPublishingMode_along fun _ _ s diag => setPublishingMode_run _ _ _ s diag)
  | deleteSubscriptions =>
    exact halong (handleDeleteSubscriptions_along (deleteSubscriptionResult_run caller))
  | publish => exact handlePublish_run (hpark rfl)
  | republish => exact halong handleRepublish_along
  | transferSubscriptions => exact halong (handleTransferSubscriptions_run caller)
  | createMonitoredItems =>
    exact halong (handleCreateMonitoredItems_along fun context body node =>
      ItemsOnly.along (allocateItem_items context body node))
  | modifyMonitoredItems => exact halong (handleModifyMonitoredItems_run caller)
  | setMonitoringMode =>
    exact halong (handleSetMonitoringMode_along fun subscriptionId mode id =>
      ItemsOnly.along (engineSetMonitoringMode_items subscriptionId mode id))
  | deleteMonitoredItems =>
    exact halong (handleDeleteMonitoredItems_along fun subscriptionId id s diag =>
      (monitoredItemDelete_items s subscriptionId id).run diag)
  | setTriggering =>
    exact halong (handleSetTriggering_along
      (fun _ _ ids s diag => linkAll_run
        (fun id s => (s.addTriggerLink_relinked _ _ _ id).itemsOnly) ids s diag)
      (fun _ _ ids s diag => linkAll_run
        (fun id s => (s.removeTriggerLink_relinked _ _ id).itemsOnly) ids s diag))

end Services

/-! ## Steps -/

/-- What the rules allow of an input. A restart and what other parts of the server do to the
counters are no entries. -/
def EngineInput.Entered (cfg : EngineConfig ω κ) (P : Ledger.Rules) (e : Engine ω κ) :
    EngineInput ω → Prop
  | .call caller service _ _ => service = .publish →
      P.MayPark caller.sessionId e.subs.publishQueue (cfg.timeAdapter.getTickMs e.world).1
  | .turn _ _ nowMs index => ∀ sub, e.subs.subscription? index = some sub →
      ¬ nowMs < sub.nextPublishMs → ¬ sub.Outlives →
        ∀ l, (e.subs.ledger e.diag).Thins l → P.remove l sub.sessionId false
  | .sessionClosed sessionId => ∀ l, l.parked = e.subs.publishQueue → P.remove l sessionId true
  | .restart | .elsewhere .. => False
  | _ => True

namespace Engine

variable {P : Ledger.Rules} {cfg : EngineConfig ω κ}

theorem closeSession_run (e : Engine ω κ)
    (hremove : ∀ l, l.parked = e.subs.publishQueue → P.remove l sessionId true) :
    Ledger.Run P (e.subs.ledger e.diag)
        ((e.closeSession cfg sessionId).subs.ledger (e.closeSession cfg sessionId).diag) ∧
      (e.closeSession cfg sessionId).subs.publishQueue = e.subs.publishQueue := by
  unfold closeSession
  generalize List.range cfg.caps.maxSubscriptions = indices
  induction indices generalizing e with
  | nil => exact ⟨.refl,rfl⟩
  | cons index indices ih =>
    rw [List.foldl_cons]
    cases hsub : e.subs.subscription? index with
    | none => exact ih e hremove
    | some sub =>
      dsimp only
      by_cases hsession : sub.sessionId = sessionId
      · rw [if_pos hsession]
        rcases engineSubscriptionDelete_cases e sessionId sub.subscriptionId with
          ⟨status,hdelete⟩ | ⟨index',s',hdelete,howner,hset⟩
        · rw [hdelete]
          exact ih e hremove
        have hparked : s'.publishQueue = e.subs.publishQueue := congrArg Ledger.parked hset
        have hentry := Ledger.Step.remove (P := P) index' sessionId true howner (hremove _ rfl)
        rw [← hset] at hentry
        rw [hdelete]
        obtain ⟨hrun,hqueue⟩ := ih { e with subs := s', diag := e.diag.subscriptionClosed }
          fun l hl => hremove l (hl.trans hparked)
        exact ⟨.head hentry hrun,hqueue.trans hparked⟩
      · rw [if_neg hsession]
        exact ih e hremove

theorem triggerEvent_ledger (event : EventNotification) (s : Subs ω κ)
    (diag : DiagnosticsSummary) : (s.triggerEvent event).ledger diag = s.ledger diag := by
  have howners : (s.triggerEvent event).subscriptions.map (Option.map Subscription.sessionId) =
      s.subscriptions.map (Option.map Subscription.sessionId) := by
    simp only [Subs.triggerEvent,List.map_map]
    apply List.map_congr_left
    intro slot _
    cases slot <;> rfl
  simp only [Subs.ledger,howners]
  rfl

theorem requestResendData_ledger (s : Subs ω κ) (diag : DiagnosticsSummary) :
    (s.requestResendData sessionId subscriptionId).2.ledger diag = s.ledger diag := by
  unfold Subs.requestResendData
  split
  · rfl
  rename_i index _
  have howners : (s.subscriptions.modify index
      (Option.map fun sub => { sub with resendDataPending := true })).map
        (Option.map Subscription.sessionId) =
      s.subscriptions.map (Option.map Subscription.sessionId) := by
    apply List.ext_getElem?
    intro i
    rw [List.getElem?_map,List.getElem?_map,List.getElem?_modify]
    cases s.subscriptions[i]? with
    | none => rfl
    | some slot => by_cases hi : index = i <;> cases slot <;> simp [hi]
  simp only [Subs.ledger,howners]

theorem Step.entries {e e' : Engine ω κ} {input : EngineInput ω} (h : Step cfg e input e')
    (hentered : input.Entered cfg P e) :
    Ledger.Run P (e.subs.ledger e.diag) (e'.subs.ledger e'.diag) := by
  cases input with
  | call caller service body room =>
    obtain ⟨result,work,hleads,rfl⟩ := h
    have hrun : Ensures (service.handle cfg caller).run (Work.start e body room) fun _ work' =>
        Ledger.Run P (e.subs.ledger e.diag) (work'.engine.subs.ledger work'.engine.diag) :=
      handle_run service hentered
    exact always_iff_leads.mp hrun _ hleads
  | sample nowMs | semanticChange nodeId =>
    cases h
    exact .refl
  | turn sessions returnDiagnostics nowMs index =>
    exact always_iff_leads.mp (publishTurn_run hentered) _ h
  | sessionClosed sessionId =>
    cases h
    exact (closeSession_run sessionId e hentered).1
  | event event =>
    cases h
    rw [triggerEvent_ledger]
  | resendData sessionId subscriptionId =>
    cases h
    rw [requestResendData_ledger]
  | restart | elsewhere world diag => exact hentered.elim

end Engine

end MucOpcua
