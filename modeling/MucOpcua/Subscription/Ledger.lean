import MucOpcua.Subscription.Routing

/-!
# The ledger of the engine

What the engine keeps of subscriptions and Publish requests without what is published: the owner of
each subscription, the requests that are parked and those that were answered, and the counts of the
diagnostics.
-/

namespace MucOpcua

open Interact

variable {ω κ : Type}

/-! ## Counters -/

namespace DiagnosticsSummary

variable (diag : DiagnosticsSummary)

def currentSessionCount : UInt32 := diag.counters.val[1]?.getD 0

def currentSubscriptionCount : UInt32 := diag.counters.val[7]?.getD 0

theorem getD_modify (i j : Nat) (f : UInt32 → UInt32) (hj : j < 12) :
    (diag.modify i f).counters.val[j]?.getD 0 =
      if i = j then f (diag.counters.val[j]?.getD 0) else diag.counters.val[j]?.getD 0 := by
  have hlt : j < diag.counters.val.length := by
    rw [diag.counters.property]
    exact hj
  simp only [modify,List.getElem?_modify,List.getElem?_eq_getElem hlt]
  split <;> rfl

@[simp] theorem subscriptionCreated_currentSubscriptionCount :
    diag.subscriptionCreated.currentSubscriptionCount = diag.currentSubscriptionCount + 1 := by
  simp [subscriptionCreated,currentSubscriptionCount,getD_modify]

@[simp] theorem subscriptionCreated_currentSessionCount :
    diag.subscriptionCreated.currentSessionCount = diag.currentSessionCount := by
  simp [subscriptionCreated,currentSessionCount,getD_modify]

@[simp] theorem subscriptionClosed_currentSubscriptionCount :
    diag.subscriptionClosed.currentSubscriptionCount =
      if 0 < diag.currentSubscriptionCount then diag.currentSubscriptionCount - 1
      else diag.currentSubscriptionCount :=
  (getD_modify diag 7 7 _ (by decide)).trans (if_pos rfl)

@[simp] theorem subscriptionClosed_currentSessionCount :
    diag.subscriptionClosed.currentSessionCount = diag.currentSessionCount := by
  simp [subscriptionClosed,currentSessionCount,getD_modify]

end DiagnosticsSummary

/-! ## Entries -/

structure Ledger where
  /-- the session that owns the subscription in each slot -/
  owners : List (Option UInt32)
  parked : List (Option PublishRequest)
  /-- the requests that were answered, in the order of the answers -/
  answered : List PublishRequest
  nextUid : Nat
  sessionCount : UInt32
  subscriptionCount : UInt32

namespace Ledger

/-- What a run may do: park a request in a slot, and remove a subscription of a session without a
look at the session's requests, with or without the count of it. -/
structure Rules where
  park : Ledger → Nat → PublishRequest → Prop
  remove : Ledger → UInt32 → (counted : Bool) → Prop

variable (l : Ledger)

def clearIfUnowned (sessionId : UInt32) : Ledger :=
  if some sessionId ∈ l.owners then l
  else { l with
    parked := l.parked.map fun slot => slot.filter fun request => request.sessionId ≠ sessionId }

def subscriptionClosed : Ledger :=
  { l with
    subscriptionCount :=
      if 0 < l.subscriptionCount then l.subscriptionCount - 1 else l.subscriptionCount }

def setOwner (index : Nat) (owner : Option UInt32) : Ledger :=
  { l with owners := l.owners.set index owner }

inductive Step (P : Rules) (l : Ledger) : Ledger → Prop where
  | number (nextUid : Nat) (h : l.nextUid ≤ nextUid) : Step P l { l with nextUid }
  | drop (parked : List (Option PublishRequest))
      (h : Slotwise (fun slot slot' => slot' = slot ∨ slot' = none) l.parked parked) :
      Step P l { l with parked }
  | answer (i : Nat) (request : PublishRequest) (hparked : l.parked[i]? = some (some request))
      (holdest : ∀ (j : Nat) (request' : PublishRequest), j ≠ i →
        l.parked[j]? = some (some request') → request'.sessionId = request.sessionId →
          EarlierSlot (i, request.enqueuedMs) (j, request'.enqueuedMs)) :
      Step P l { l with parked := l.parked.set i none, answered := l.answered ++ [request] }
  | park (i : Nat) (request : PublishRequest) (hfree : l.parked[i]? = some none)
      (huid : request.uid = l.nextUid) (howner : some request.sessionId ∈ l.owners)
      (hpark : P.park l i request) :
      Step P l { l with parked := l.parked.set i (some request), nextUid := l.nextUid + 1 }
  | create (index : Nat) (sessionId : UInt32) (hfree : l.owners[index]? = some none) :
      Step P l { l.setOwner index (some sessionId) with
        nextUid := l.nextUid + 1, subscriptionCount := l.subscriptionCount + 1 }
  | delete (index : Nat) (sessionId : UInt32) (howner : l.owners[index]? = some (some sessionId)) :
      Step P l ((l.setOwner index none).subscriptionClosed.clearIfUnowned sessionId)
  | transfer (index : Nat) (sessionId newSessionId : UInt32)
      (howner : l.owners[index]? = some (some sessionId)) :
      Step P l ((l.setOwner index (some newSessionId)).clearIfUnowned sessionId)
  | remove (index : Nat) (sessionId : UInt32) (counted : Bool)
      (howner : l.owners[index]? = some (some sessionId))
      (hremove : P.remove l sessionId counted) :
      Step P l (if counted then (l.setOwner index none).subscriptionClosed
        else l.setOwner index none)

abbrev Run (P : Rules) : Ledger → Ledger → Prop := Relation.ReflTransGen (Step P)

end Ledger

/-! ## The tables in the ledger -/

def Subs.ledger (s : Subs ω κ) (diag : DiagnosticsSummary) : Ledger where
  owners := s.subscriptions.map (Option.map Subscription.sessionId)
  parked := s.publishQueue
  answered := (answersOf s.history.records).map Prod.fst
  nextUid := s.history.nextUid
  sessionCount := diag.currentSessionCount
  subscriptionCount := diag.currentSubscriptionCount

section Tables

variable {P : Ledger.Rules} {s s' : Subs ω κ} {diag : DiagnosticsSummary} {index : Nat}
  {sub sub' : Subscription}

theorem Subs.ledger_owner (h : s.subscription? index = some sub) (diag : DiagnosticsSummary) :
    (s.ledger diag).owners[index]? = some (some sub.sessionId) := by
  show (s.subscriptions.map _)[index]? = _
  rw [List.getElem?_map,Subs.subscription?_eq_some.mp h,Option.map_some,Option.map_some]

theorem Subs.owner_mem_iff {sessionId : UInt32} :
    some sessionId ∈ (s.ledger diag).owners ↔ s.countForSession sessionId ≠ 0 := by
  show some sessionId ∈ s.subscriptions.map _ ↔ _
  rw [Subs.countForSession,← Nat.pos_iff_ne_zero,List.countP_pos_iff]
  simp only [List.mem_map,Option.map_eq_some_iff,Option.any_eq_true,decide_eq_true_eq]

theorem Subs.ledger_setSubscription (s : Subs ω κ) (diag : DiagnosticsSummary) (index : Nat)
    (slot : Option Subscription) : (s.setSubscription index slot).ledger diag =
      (s.ledger diag).setOwner index (slot.map Subscription.sessionId) := by
  simp only [Subs.ledger,Subs.setSubscription,Ledger.setOwner,List.map_set]

theorem Subs.ledger_setSubscription_same (h : s.subscription? index = some sub)
    (hsession : sub'.sessionId = sub.sessionId) :
    (s.setSubscription index (some sub')).ledger diag = s.ledger diag := by
  have howner := Subs.ledger_owner h diag
  obtain ⟨hlt,hget⟩ := List.getElem?_eq_some_iff.mp howner
  rw [Subs.ledger_setSubscription,Option.map_some,hsession,← hget,Ledger.setOwner,
    List.set_getElem_self]

theorem Subs.ledger_counters (s : Subs ω κ) (diag diag' : DiagnosticsSummary) :
    s.ledger diag' = { s.ledger diag with
      sessionCount := diag'.currentSessionCount
      subscriptionCount := diag'.currentSubscriptionCount } := rfl

theorem Subs.ledger_log_answered (s : Subs ω κ) (diag : DiagnosticsSummary)
    (request : PublishRequest) (link : Link) (answer : Answer) :
    (s.log (.answered request link answer)).ledger diag =
      { s.ledger diag with answered := (s.ledger diag).answered ++ [request] } := by
  simp [Subs.ledger,Subs.log,answersOf,Record.answer?]

theorem Subs.ledger_log_acknowledged (s : Subs ω κ) (diag : DiagnosticsSummary) (uid : Nat)
    (sequenceNumber : UInt32) :
    (s.log (.acknowledged uid sequenceNumber)).ledger diag = s.ledger diag := by
  simp [Subs.ledger,Subs.log,answersOf,Record.answer?]

theorem Subs.ledger_clearIfUnsubscribed (s : Subs ω κ) (diag : DiagnosticsSummary)
    (sessionId : UInt32) :
    (s.clearIfUnsubscribed sessionId).ledger diag = (s.ledger diag).clearIfUnowned sessionId := by
  unfold Subs.clearIfUnsubscribed Ledger.clearIfUnowned
  by_cases h : s.countForSession sessionId = 0
  · rw [if_pos h,if_neg (fun hmem => Subs.owner_mem_iff.mp hmem h)]
    rfl
  · rw [if_neg h,if_pos (Subs.owner_mem_iff.mpr h)]

end Tables

/-! ## Publishing -/

section Publishing

variable {P : Ledger.Rules} {cfg : EngineConfig ω κ} {s s' : Subs ω κ} {diag : DiagnosticsSummary}
  {link : Link} {index i : Nat} {sub : Subscription} {request : PublishRequest}
  {content : NotificationContent} {delivered : List (Nat × Nat)} {slots : List (ItemSlot ω κ)}
  {sent : PublishResponse → Subscription}

theorem dropRequest_run (s : Subs ω κ) (diag : DiagnosticsSummary) (i : Nat) :
    Ledger.Run P (s.ledger diag) ((s.dropRequest i).ledger diag) :=
  .single (.drop _ (Slotwise.set (fun _ => .inl rfl) fun _ _ => .inr rfl))

theorem Taken.answer_run {sessionId : UInt32} (h : Taken s sessionId request i) :
    Ledger.Run P (s.ledger diag) { s.ledger diag with
      parked := s.publishQueue.set i none
      answered := (s.ledger diag).answered ++ [request] } := by
  refine .single (.answer i request h.parked fun j request' hne hj hsession => ?_)
  exact h.oldest j request' hne hj (hsession.trans h.session)

theorem Subs.ledger_taken (h : s.subscription? index = some sub) (diag : DiagnosticsSummary)
    (i : Nat) : (s.taken i index sub).ledger diag = (s.dropRequest i).ledger diag :=
  Subs.ledger_setSubscription_same (s := s.dropRequest i) h rfl

theorem Answered.run (h : Answered link s index sub content delivered slots sent s')
    (hsub : s.subscription? index = some sub) (hsent : ∀ response, sub.Published (sent response)) :
    Ledger.Run P (s.ledger diag) (s'.ledger diag) := by
  cases h with
  | nothing => exact .refl
  | dropped request i => exact dropRequest_run s diag i
  | expired request i status htaken =>
    rw [Subs.ledger_log_answered]
    exact htaken.answer_run
  | taken request i =>
    rw [Subs.ledger_taken hsub]
    exact dropRequest_run s diag i
  | fault request i status htaken =>
    rw [Subs.ledger_log_answered,Subs.ledger_taken hsub]
    exact htaken.answer_run
  | notified request i response htaken =>
    have hsub' : ({ (s.taken i index sub).log (.answered request link
        (.notification sub.uid response.message delivered)) with monitoredItems := slots } :
          Subs ω κ).subscription? index = some sub.currentSequenceNumber :=
      Subs.subscription?_setSubscription (s := s.dropRequest i) hsub _
    rw [Subs.ledger_setSubscription_same hsub' (hsent response).sessionId]
    show Ledger.Run P (s.ledger diag) (((s.taken i index sub).log _).ledger diag)
    rw [Subs.ledger_log_answered,Subs.ledger_taken hsub]
    exact htaken.answer_run

/-! ### The turn of a subscription -/

structure Ledger.Thins (l l' : Ledger) : Prop where
  owners : l'.owners = l.owners
  parked : ∀ request, some request ∈ l'.parked → some request ∈ l.parked

theorem SlotKept.of_setSubscription {sub' : Subscription} (h : s.subscription? index = some sub)
    (hpublished : sub.Published sub') :
    SlotKept index sub s (s.setSubscription index (some sub')) :=
  ⟨⟨sub',Subs.subscription?_setSubscription h _,hpublished⟩,
    fun _ hne => Subs.subscription?_setSubscription_ne (Ne.symm hne) _,List.length_set,
    fun _ h => h⟩

theorem SlotKept.trans {s₁ s₂ : Subs ω κ} {sub₁ : Subscription} (h : SlotKept index sub s s₁)
    (hsub₁ : s₁.subscription? index = some sub₁) (h' : SlotKept index sub₁ s₁ s₂) :
    SlotKept index sub s s₂ := by
  obtain ⟨sub',hsub',hpublished⟩ := h.here
  rw [hsub₁] at hsub'
  cases hsub'
  obtain ⟨sub₂,hsub₂,hpublished₂⟩ := h'.here
  exact ⟨⟨sub₂,hsub₂,hpublished.trans hpublished₂⟩,
    fun index' hne => (h'.elsewhere index' hne).trans (h.elsewhere index' hne),
    h'.length.trans h.length,fun request hr => h.queue request (h'.queue request hr)⟩

theorem SlotKept.thins (h : SlotKept index sub s s') (hsub : s.subscription? index = some sub)
    (diag diag' : DiagnosticsSummary) : (s.ledger diag).Thins (s'.ledger diag') := by
  refine ⟨?_,h.queue⟩
  obtain ⟨sub',hsub',hpublished⟩ := h.here
  show s'.subscriptions.map _ = s.subscriptions.map _
  apply List.ext_getElem?
  intro i
  rw [List.getElem?_map,List.getElem?_map]
  by_cases hi : i = index
  · rw [hi,Subs.subscription?_eq_some.mp hsub,Subs.subscription?_eq_some.mp hsub']
    simp [hpublished.sessionId]
  have hjoin : s'.subscriptions[i]?.join = s.subscriptions[i]?.join := h.elsewhere i hi
  by_cases hlt : i < s.subscriptions.length
  · have hlt' : i < s'.subscriptions.length := by rwa [h.length]
    rw [List.getElem?_eq_getElem hlt,List.getElem?_eq_getElem hlt'] at hjoin ⊢
    exact congrArg (fun slot => some (Option.map Subscription.sessionId slot)) hjoin
  · have hlength := h.length
    rw [List.getElem?_eq_none (by omega),List.getElem?_eq_none (by omega)]

structure PublishedRun (P : Ledger.Rules) (index : Nat) (sub : Subscription) (e e' : Engine ω κ) :
    Prop where
  run : Ledger.Run P (e.subs.ledger e.diag) (e'.subs.ledger e'.diag)
  kept : SlotKept index sub e.subs e'.subs

variable {e : Engine ω κ} {nowMs : UInt64}

theorem Answered.publishedRun {m : PublishM ω κ Unit}
    (h : Ensures m e fun _ e' => e'.diag = e.diag ∧
      Answered link e.subs index sub content delivered slots sent e'.subs)
    (hsub : e.subs.subscription? index = some sub)
    (hsent : ∀ response, sub.Published (sent response)) :
    Ensures m e fun _ e' => PublishedRun P index sub e e' := by
  refine h.mono fun _ e' ⟨hsame,hanswered⟩ => ?_
  refine ⟨?_,hanswered.kept hsub hsent⟩
  rw [hsame]
  exact hanswered.run hsub hsent

theorem issueStatusChangeNotification_run {status : StatusCode}
    (hsub : e.subs.subscription? index = some sub) :
    Ensures (issueStatusChangeNotification cfg link index sub status) e fun _ e' =>
      PublishedRun P index sub e e' :=
  Answered.publishedRun (issueStatusChangeNotification_answered cfg link index sub status e) hsub
    statusChanged_published

theorem sendKeepAlive_run (hsub : e.subs.subscription? index = some sub) :
    Ensures (sendKeepAlive cfg link index sub nowMs) e fun _ e' => PublishedRun P index sub e e' :=
  Answered.publishedRun (sendKeepAlive_answered cfg link index sub nowMs e) hsub
    fun _ => keptAlive_published

theorem publishResponseEncodeAndEmit_run {prepared : Prepared}
    (hsub : e.subs.subscription? index = some sub) :
    Ensures (publishResponseEncodeAndEmit cfg link index sub prepared nowMs) e fun _ e' =>
      PublishedRun P index sub e e' := by
  unfold publishResponseEncodeAndEmit
  split
  · exact Answered.publishedRun (publishData_answered cfg link index sub prepared nowMs e) hsub
      (reported_published _)
  unfold publishKeepAlive setSubscription
  rw [ensures_bind,ensures_modify]
  -- the counter moves on whether there is a request or not
  have hcounted : sub.Published { sub with keepAliveCounter := sub.keepAliveCounter + 1 } :=
    ⟨rfl,rfl,rfl,.inl rfl⟩
  have hkept := SlotKept.of_setSubscription hsub hcounted
  have hledger : (e.subs.setSubscription index
      (some { sub with keepAliveCounter := sub.keepAliveCounter + 1 })).ledger e.diag =
        e.subs.ledger e.diag := Subs.ledger_setSubscription_same hsub hcounted.sessionId
  have hsub₁ := Subs.subscription?_setSubscription hsub
    (some { sub with keepAliveCounter := sub.keepAliveCounter + 1 })
  split
  · refine ⟨?_,hkept⟩
    rw [hledger]
  refine (sendKeepAlive_run (P := P) hsub₁).mono fun _ e' h => ⟨?_,hkept.trans hsub₁ h.kept⟩
  rw [← hledger]
  exact h.run

theorem preparePublishNotificationData_kept (cfg : EngineConfig ω κ)
    (hsub : e.subs.subscription? index = some sub) :
    SlotKept index sub e.subs (e.preparePublishNotificationData cfg index sub).2.subs ∧
      (e.preparePublishNotificationData cfg index sub).2.diag = e.diag ∧
      ∀ diag, (e.preparePublishNotificationData cfg index sub).2.subs.ledger diag =
        e.subs.ledger diag := by
  unfold Engine.preparePublishNotificationData
  dsimp only
  split
  · -- the items alone change before the subscription does
    have hitems : ∃ slots world, Engine.enqueueResendData cfg
        { e with subs := e.subs.prepareReportableQueues sub cfg } sub =
          { e with world, subs := { e.subs with monitoredItems := slots } } := by
      unfold Engine.enqueueResendData
      split <;> exact ⟨_,_,rfl⟩
    obtain ⟨slots,world,hitems⟩ := hitems
    rw [hitems]
    have hsub₁ : ({ e.subs with monitoredItems := slots } : Subs ω κ).subscription? index =
      some sub := hsub
    refine ⟨?_,rfl,fun diag => Subs.ledger_setSubscription_same hsub₁ rfl⟩
    have hsame : sub.Published { sub with
        moreNotifications :=
          (Subs.countReportableItems { e.subs with monitoredItems := slots } sub).2
        resendDataPending := false } := ⟨rfl,rfl,rfl,.inl rfl⟩
    have hkept := SlotKept.of_setSubscription hsub₁ hsame
    exact ⟨hkept.here,hkept.elsewhere,hkept.length,hkept.queue⟩
  · exact ⟨⟨⟨sub,hsub,.refl sub⟩,fun _ _ => rfl,rfl,fun _ h => h⟩,rfl,fun _ => rfl⟩

theorem subscriptionDelete_cases (s : Subs ω κ) (sessionId subscriptionId : UInt32) :
    (∃ status, s.subscriptionDelete sessionId subscriptionId = (.error status, s)) ∨
      ∃ index s', s.subscriptionDelete sessionId subscriptionId = (.ok (), s') ∧
        ∀ diag, (s.ledger diag).owners[index]? = some (some sessionId) ∧
          s'.ledger diag = (s.ledger diag).setOwner index none := by
  unfold Subs.subscriptionDelete
  split
  · exact .inl ⟨_,rfl⟩
  rename_i index hfind
  obtain ⟨sub,hsub,rfl,-⟩ := Subs.subscriptionFind_some hfind
  refine .inr ⟨index,_,rfl,fun diag => ⟨Subs.ledger_owner hsub diag,?_⟩⟩
  rw [Subs.ledger_setSubscription]
  rfl

def Subscription.Outlives (sub : Subscription) : Prop :=
  sub.lifetimeCounter + 1 < sub.lifetimeCount ∧ 1 < sub.lifetimeCount

instance (sub : Subscription) : Decidable sub.Outlives := inferInstanceAs (Decidable (_ ∧ _))

theorem Subscription.Published.outlives {sub sub' : Subscription} (h : sub.Published sub')
    (hlong : sub.Outlives) : ¬ sub'.lifetimeCount ≤ sub'.lifetimeCounter + 1 := by
  obtain ⟨hcounter,hcount⟩ := hlong
  rw [h.lifetimeCount,UInt32.not_le]
  rcases h.lifetimeCounter with hsame | hzero
  · rwa [hsame]
  · rwa [hzero]

theorem endTurn_run {e₁ : Engine ω κ} (hsub : e.subs.subscription? index = some sub)
    (hkept : SlotKept index sub e.subs e₁.subs)
    (hremove : ¬ sub.Outlives → ∀ l, (e.subs.ledger e.diag).Thins l →
      P.remove l sub.sessionId false) :
    Ensures (endTurn cfg link index nowMs) e₁ fun _ e' =>
      Ledger.Run P (e₁.subs.ledger e₁.diag) (e'.subs.ledger e'.diag) := by
  unfold endTurn setSubscription
  rw [ensures_bind,ensures_get]
  obtain ⟨sub₁,hsub₁,hpublished⟩ := hkept.here
  rw [hsub₁]
  rw [ensures_bind,ensures_modify]
  obtain ⟨nextPublishMs,lifetimeCounter,hturned⟩ := sub₁.exists_turned nowMs
  have hcounter : lifetimeCounter = sub₁.lifetimeCounter + 1 :=
    (congrArg Subscription.lifetimeCounter hturned).symm
  rw [hturned]
  have hledger : (e₁.subs.setSubscription index
      (some { sub₁ with nextPublishMs, lifetimeCounter })).ledger e₁.diag =
        e₁.subs.ledger e₁.diag := Subs.ledger_setSubscription_same hsub₁ rfl
  split
  · next hexpired =>
    have hshort : ¬ sub.Outlives := fun hlong =>
      hpublished.outlives hlong (by rwa [hcounter] at hexpired)
    have hsub₂ := Subs.subscription?_setSubscription hsub₁
      (some { sub₁ with nextPublishMs, lifetimeCounter })
    rw [ensures_bind]
    refine (issueStatusChangeNotification_run (P := P) hsub₂).mono fun _ e₂ h => ?_
    rw [ensures_modify]
    have hrun := h.run
    rw [hledger] at hrun
    refine hrun.trans ?_
    -- what is left of the requests was there before the turn
    have hthins₁ := hkept.thins hsub e.diag e₁.diag
    have hthins₂ := h.kept.thins hsub₂ e₁.diag e₂.diag
    rw [hledger] at hthins₂
    have hthins : (e.subs.ledger e.diag).Thins (e₂.subs.ledger e₂.diag) :=
      ⟨hthins₂.owners.trans hthins₁.owners,
        fun request hr => hthins₁.parked request (hthins₂.parked request hr)⟩
    rcases subscriptionDelete_cases e₂.subs sub₁.sessionId sub₁.subscriptionId with
      ⟨status,hnone⟩ | ⟨index',s',hsome,hentry⟩
    · rw [hnone]
    rw [hsome]
    obtain ⟨howner,hset⟩ := hentry e₂.diag
    rw [hset]
    rw [hpublished.sessionId] at howner
    exact .single (.remove index' sub.sessionId false howner (hremove hshort _ hthins))
  · rw [ensures_pure,hledger]

theorem publishSubscription_run (hsub : e.subs.subscription? index = some sub)
    (hremove : ¬ sub.Outlives → ∀ l, (e.subs.ledger e.diag).Thins l →
      P.remove l sub.sessionId false) :
    Ensures (publishSubscription cfg link index sub nowMs) e fun _ e' =>
      Ledger.Run P (e.subs.ledger e.diag) (e'.subs.ledger e'.diag) := by
  unfold publishSubscription
  rw [ensures_bind,ensures_modifyGet]
  obtain ⟨hkept,hdiag,hledger⟩ := preparePublishNotificationData_kept cfg hsub
  obtain ⟨sub₁,hsub₁,-⟩ := hkept.here
  rw [ensures_bind,ensures_get]
  rw [hsub₁]
  rw [ensures_bind]
  refine (publishResponseEncodeAndEmit_run (P := P) hsub₁).mono fun _ e₂ h => ?_
  have hrun := h.run
  rw [hdiag,hledger] at hrun
  exact (endTurn_run hsub (hkept.trans hsub₁ h.kept) hremove).mono fun _ _ h' => hrun.trans h'

theorem publishTurn_run {sessions : List Session} {returnDiagnostics : UInt32}
    (hremove : ∀ sub, e.subs.subscription? index = some sub → ¬ nowMs < sub.nextPublishMs →
      ¬ sub.Outlives → ∀ l, (e.subs.ledger e.diag).Thins l → P.remove l sub.sessionId false) :
    Ensures (publishTurn cfg sessions returnDiagnostics nowMs index) e fun _ e' =>
      Ledger.Run P (e.subs.ledger e.diag) (e'.subs.ledger e'.diag) := by
  unfold publishTurn
  rw [ensures_bind,ensures_get]
  split
  · exact .refl
  rename_i sub hsub
  split
  · exact .refl
  rename_i hdue
  rw [ensures_bind,ensures_question]
  intro conns
  split
  · exact .refl
  · exact publishSubscription_run hsub (hremove sub hsub hdue)

end Publishing

end MucOpcua
