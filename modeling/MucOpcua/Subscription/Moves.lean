import MucOpcua.Subscription.Engine
import MucOpcua.Subscription.ResponseBytes

/-!
# What can happen to the tables

Whatever the engine does to its tables is a sequence of moves: a request is parked, dropped or
answered, a message is acknowledged, a subscription or an item comes, changes or goes. An invariant
of the tables is then an invariant of the moves. `Allowed` leaves open which queues are resized and
which requests are answered on which connection.
-/

namespace MucOpcua

open Interact

variable {ω κ : Type}
variable {response : PublishResponse} {sub' : Subscription} (sub : Subscription)

/-! ## Moves -/

def BoundTo (link : Link) (sessionId : UInt32) : Prop :=
  ∃ session ∈ link.sessions, session.state ≠ .closed ∧ session.sessionId = sessionId ∧
    session.secureChannelId = link.channelId

structure Allowed where
  /-- the queue may be given the size -/
  resize : MonitorQueue → Nat → Prop
  /-- the request may be answered on the connection -/
  route : PublishRequest → Link → Prop
  /-- a resize does not spoil another one -/
  resize_again : ∀ {q size size' discardOldest}, resize q size → resize q size' →
    resize { q with size := size, discardOldest := discardOldest } size'
  /-- a session may be answered on its own connection -/
  route_bound : ∀ {request link}, BoundTo link request.sessionId → route request link

def Allowed.all : Allowed :=
  ⟨fun _ _ => True, fun _ _ => True, fun _ _ => trivial, fun _ => trivial⟩

structure ItemMove (caps : EngineCapacities) (A : Allowed) (item item' : MonitoredItem ω κ) :
    Prop where
  uid : item'.uid = item.uid
  monitoredItemId : item'.monitoredItemId = item.monitoredItemId
  subscriptionId : item'.subscriptionId = item.subscriptionId
  fixed : item'.fixed = item.fixed
  queue : item.queue.Enqueues caps item'.queue ∨
    ∃ queueSize discardOldest, A.resize item.queue (clampQueueSize caps queueSize) ∧
      item'.queue = { item.queue with size := clampQueueSize caps queueSize, discardOldest }

def SlotMove (caps : EngineCapacities) (A : Allowed) (slot slot' : ItemSlot ω κ) : Prop :=
  slot'.item = none ∨ Option.Rel (ItemMove caps A) slot.item slot'.item

def Subscription.number (sub : Subscription) : UInt32 :=
  if sub.sequenceNumber = 0 then 1 else sub.sequenceNumber

/-- The number behind `n`. -/
def nextNumber (n : UInt32) : UInt32 := if n + 1 = 0 then 1 else n + 1

/-- The subscription is the same, and so is what it will send and can send again. -/
structure SameMessages (sub sub' : Subscription) : Prop where
  uid : sub'.uid = sub.uid
  subscriptionId : sub'.subscriptionId = sub.subscriptionId
  number : sub'.number = sub.number
  retransmit : sub'.retransmit = sub.retransmit

def SubscriptionMove (slot slot' : Option Subscription) : Prop :=
  slot' = none ∨ Option.Rel SameMessages slot slot'

structure Notified (sub : Subscription) (message : List UInt8) (sub' : Subscription) : Prop where
  uid : sub'.uid = sub.uid
  subscriptionId : sub'.subscriptionId = sub.subscriptionId
  number : messageNumber message = sub.number
  next : sub'.number = if carriesData message then nextNumber sub.number else sub.number
  keepAlive : carriesData message = false → sub'.retransmit = sub.retransmit
  data : carriesData message = true → ∃ publishTime,
    sub'.retransmit = (Subs.storeRetransmit sub sub.number publishTime message).retransmit

def Delivers (caps : EngineCapacities) (s : Subs ω κ) (sub : Subscription)
    (delivered : List (Nat × Nat)) (slots : List (ItemSlot ω κ)) : Prop :=
  (delivered = [] ∧ slots = s.monitoredItems) ∨
    ∃ reportCount, delivered = NotificationContent.delivered caps s sub (.data reportCount) ∧
      slots = (s.clearReportedItems sub caps reportCount).monitoredItems

def Subs.nextUid (s : Subs ω κ) : Subs ω κ :=
  { s with history := { s.history with nextUid := s.history.nextUid + 1 } }

inductive Move (cfg : EngineConfig ω κ) (A : Allowed) (s : Subs ω κ) : Subs ω κ → Prop where
  | counters (nextSubscriptionId nextMonitoredItemId activeMonitoredItemsCount : UInt32) :
      Move cfg A s { s with nextSubscriptionId, nextMonitoredItemId, activeMonitoredItemsCount }
  | drop (queue : List (Option PublishRequest))
      (h : Slotwise (fun slot slot' => slot' = slot ∨ slot' = none) s.publishQueue queue) :
      Move cfg A s { s with publishQueue := queue }
  | park (i : Nat) (request : PublishRequest) (hfree : s.publishQueue[i]? = some none)
      (huid : request.uid = s.history.nextUid) :
      Move cfg A s { s.nextUid with publishQueue := s.publishQueue.set i (some request) }
  | fault (i : Nat) (request : PublishRequest) (link : Link) (status : StatusCode)
      (hrequest : s.publishQueue[i]? = some (some request)) (hroute : A.route request link) :
      Move cfg A s ((s.dropRequest i).log (.answered request link (.fault status)))
  | notify (i : Nat) (request : PublishRequest) (link : Link) (index : Nat)
      (sub sub' : Subscription) (message : List UInt8) (delivered : List (Nat × Nat))
      (slots : List (ItemSlot ω κ)) (hrequest : s.publishQueue[i]? = some (some request))
      (hroute : A.route request link) (hsub : s.subscription? index = some sub)
      (hnotified : Notified sub message sub') (hdelivers : Delivers cfg.caps s sub delivered slots) :
      Move cfg A s
        ((({ s.dropRequest i with monitoredItems := slots } : Subs ω κ).log
          (.answered request link (.notification sub.uid message delivered))).setSubscription index
            (some sub'))
  | acknowledge (index : Nat) (sub : Subscription) (sequenceNumber : UInt32)
      (hsub : s.subscription? index = some sub) :
      Move cfg A s ((s.log (.acknowledged sub.uid sequenceNumber)).setSubscription index
        (some { sub with
          retransmit := if Subs.holdsMessage sub sequenceNumber then none else sub.retransmit }))
  | createSubscription (index : Nat) (sub : Subscription)
      (hfree : s.subscriptions[index]? = some none) (huid : sub.uid = s.history.nextUid)
      (hid : s.subscriptionIdInUse sub.subscriptionId = false) (hnumber : sub.sequenceNumber = 1)
      (hretransmit : sub.retransmit = none) :
      Move cfg A s (s.nextUid.setSubscription index (some sub))
  | subscriptions (slots : List (Option Subscription))
      (h : Slotwise SubscriptionMove s.subscriptions slots) :
      Move cfg A s { s with subscriptions := slots }
  | items (slots : List (ItemSlot ω κ)) (h : Slotwise (SlotMove cfg.caps A) s.monitoredItems slots) :
      Move cfg A s { s with monitoredItems := slots }
  | createItem (index : Nat) (item : MonitoredItem ω κ)
      (hfree : s.items[index]? = some none) (huid : item.uid = s.history.nextUid)
      (hqueue : item.queue.Ok cfg.caps) :
      Move cfg A s (s.nextUid.setItem index (some item))
  | restart : Move cfg A s (Subs.init cfg.caps s.history)

abbrev Moved (cfg : EngineConfig ω κ) (A : Allowed) : Subs ω κ → Subs ω κ → Prop :=
  Relation.ReflTransGen (Move cfg A)

/-! ## Changes of the tables as moves -/

theorem SameMessages.refl : SameMessages sub sub := ⟨rfl,rfl,rfl,rfl⟩

theorem SubscriptionMove.refl (slot : Option Subscription) : SubscriptionMove slot slot := by
  cases slot with
  | none => exact .inl rfl
  | some sub => exact .inr (.some (SameMessages.refl sub))

variable {caps : EngineCapacities} {A : Allowed}

theorem ItemMove.of_sampled {item item' : MonitoredItem ω κ}
    (h : item.Sampled caps item') : ItemMove caps A item item' :=
  ⟨h.uid,h.monitoredItemId,h.subscriptionId,h.fixed,.inl h.queue⟩

theorem ItemMove.refl (item : MonitoredItem ω κ) : ItemMove caps A item item :=
  ⟨rfl,rfl,rfl,rfl,.inl .refl⟩

theorem SlotMove.refl (slot : ItemSlot ω κ) : SlotMove caps A slot slot := by
  cases hitem : slot.item with
  | none => exact .inl hitem
  | some item =>
    right
    rw [hitem]
    exact .some (ItemMove.refl item)

section Changes

variable {cfg : EngineConfig ω κ} {A : Allowed} {s : Subs ω κ}

theorem Move.of_setSubscription {index : Nat} {sub : Subscription}
    (hsub : s.subscription? index = some sub) (h : SameMessages sub sub') :
    Move cfg A s (s.setSubscription index (some sub')) := by
  refine .subscriptions _ (Slotwise.set SubscriptionMove.refl fun slot hslot => ?_)
  rw [Subs.subscription?_eq_some.mp hsub] at hslot
  cases hslot
  exact .inr (.some h)

theorem Move.of_setItem {index : Nat} {item item' : MonitoredItem ω κ}
    (hitem : s.item? index = some item) (h : ItemMove cfg.caps A item item') :
    Move cfg A s (s.setItem index (some item')) := by
  refine .items _ (Slotwise.modify SlotMove.refl fun slot hslot => ?_)
  have hmap := Subs.item?_eq_some.mp hitem
  rw [Subs.items,List.getElem?_map,hslot] at hmap
  right
  rw [Option.some.inj hmap]
  exact .some h

theorem Move.of_mapItems {f : MonitoredItem ω κ → Option (MonitoredItem ω κ)}
    (h : ∀ item item', f item = some item' → ItemMove cfg.caps A item item') :
    Move cfg A s (s.mapItems f) := by
  refine .items _ (Slotwise.map fun slot _ => ?_)
  cases hitem : slot.item with
  | none => exact .inl (by simp)
  | some item =>
    cases hf : f item with
    | none => exact .inl (by simp [hf])
    | some item' =>
      right
      simp only [Option.bind_some,hf,hitem]
      exact .some (h item item' hf)

theorem Move.of_sampled {slots : List (ItemSlot ω κ)}
    (h : SlotsSampled cfg.caps s.monitoredItems slots) :
    Move cfg A s { s with monitoredItems := slots } :=
  .items _ (h.mono fun _ _ hslot =>
    .inr (Slotwise.rel_mono hslot fun _ _ hsampled => ItemMove.of_sampled hsampled))

end Changes

/-! ## Taking a request -/

structure Taken (s : Subs ω κ) (sessionId : UInt32) (request : PublishRequest) (i : Nat) : Prop where
  parked : s.publishQueue[i]? = some (some request)
  session : request.sessionId = sessionId
  found : Subs.oldestRequest sessionId 0 s.publishQueue none = some (i, request.enqueuedMs)
  oldest : ∀ (j : Nat) (request' : PublishRequest), j ≠ i →
    s.publishQueue[j]? = some (some request') → request'.sessionId = sessionId →
      EarlierSlot (i, request.enqueuedMs) (j, request'.enqueuedMs)

def MayAnswer (A : Allowed) (s : Subs ω κ) (sessionId : UInt32) (link : Link) : Prop :=
  ∀ request, some request ∈ s.publishQueue → request.sessionId = sessionId → A.route request link

theorem MayAnswer.route {s : Subs ω κ} {sessionId : UInt32} {link : Link}
    {request : PublishRequest} {i : Nat} (h : MayAnswer A s sessionId link)
    (htaken : Taken s sessionId request i) : A.route request link :=
  h request (List.mem_of_getElem? htaken.parked) htaken.session

theorem dequeueRequest_spec (sessionId : UInt32) (e : Engine ω κ) :
    Ensures (dequeueRequest sessionId) e fun result e' =>
      match result with
      | none => e' = e
      | some request => ∃ i, Taken e.subs sessionId request i ∧
          e' = { e with subs := e.subs.dropRequest i } := by
  unfold dequeueRequest
  rw [ensures_modifyGet]
  cases hdequeue : e.subs.publishRequestDequeue sessionId with
  | none => rfl
  | some taken =>
    obtain ⟨request,subs⟩ := taken
    obtain ⟨i,hparked,hsession,rfl,hfound,holdest⟩ :=
      Subs.publishRequestDequeue_some hdequeue
    exact ⟨i,⟨hparked,hsession,hfound,holdest⟩,rfl⟩

/-! ## Answering a request -/

theorem emitMessage_spec (requestId : UInt32) (body : List UInt8) (e : Engine ω κ) :
    Ensures (emitMessage requestId body) e fun _ e' => e'.diag = e.diag ∧ e'.subs = e.subs :=
  fun _ => ⟨rfl,rfl⟩

theorem answerRequest_spec (link : Link) (request : PublishRequest) (body : List UInt8)
    (answer : Answer) (e : Engine ω κ) :
    Ensures (answerRequest link request body answer) e fun status e' => e'.diag = e.diag ∧ e'.subs =
        if status = Status.good then e.subs.log (.answered request link answer) else e.subs := by
  unfold answerRequest
  rw [ensures_bind]
  refine (emitMessage_spec request.requestId body e).mono fun status e₁ ⟨hdiag,hsubs⟩ => ?_
  dsimp only
  split
  · next hgood =>
    rw [ensures_bind,ensures_modify,ensures_pure,if_pos hgood,hsubs]
    exact ⟨hdiag,rfl⟩
  rename_i hbad
  rw [ensures_pure,if_neg hbad]
  exact ⟨hdiag,hsubs⟩

theorem encodeResponse_spec {α : Type} (encode : RespondM ω α) (e : Engine ω κ) :
    Ensures (encodeResponse encode) e fun result e' => (e'.diag = e.diag ∧ e'.subs = e.subs) ∧
      ∀ a body, result = .ok (a, body) → ∃ w w' : BinaryWriter, ∃ world',
        w.Writable ∧ encode (w, e.world) = .ok a (w', world') ∧ body = w'.written := by
  unfold encodeResponse
  rw [ensures_modifyGet]
  have hwritable : (BinaryWriter.init (List.replicate publishBodyBytes 0)).Writable := by
    refine ⟨rfl,rfl,Nat.zero_le _,?_⟩
    show (List.replicate publishBodyBytes (0 : UInt8)).length ≤ _
    rw [List.length_replicate]
    decide
  generalize BinaryWriter.init (List.replicate publishBodyBytes 0) = w at hwritable ⊢
  cases hrun : encode (w, e.world) with
  | ok a result =>
    obtain ⟨w',world'⟩ := result
    refine ⟨⟨rfl,rfl⟩,?_⟩
    rintro a' body ⟨⟩
    exact ⟨w,w',world',hwritable,hrun,rfl⟩
  | error status result => exact ⟨⟨rfl,rfl⟩,fun _ _ h => nomatch h⟩

theorem emitFault_spec (cfg : EngineConfig ω κ) (link : Link) (request : PublishRequest)
    (status : BadStatus) (e : Engine ω κ) :
    Ensures (emitFault cfg link request status) e fun _ e' => e'.diag = e.diag ∧
      (e'.subs = e.subs ∨ e'.subs = e.subs.log (.answered request link (.fault status.val))) := by
  unfold emitFault
  rw [ensures_bind]
  refine Ensures.mono (encodeResponse_spec _ e) ?_
  rintro result e₁ ⟨⟨hdiag₁,hsubs₁⟩,-⟩
  cases result with
  | error _ => exact ⟨hdiag₁,.inl hsubs₁⟩
  | ok encoded =>
    dsimp only
    rw [ensures_bind]
    refine (answerRequest_spec link request encoded.2 _ e₁).mono fun status' e₂ ⟨hdiag₂,hsubs₂⟩ => ?_
    refine ⟨hdiag₂.trans hdiag₁,?_⟩
    rw [hsubs₂,hsubs₁]
    split
    · exact .inr rfl
    · exact .inl rfl

theorem emitPublishResponseTooLargeFault_spec (cfg : EngineConfig ω κ) (link : Link)
    (request : PublishRequest) (status : StatusCode) (e : Engine ω κ) :
    Ensures (emitPublishResponseTooLargeFault cfg link request status) e fun _ e' =>
      e'.diag = e.diag ∧ (e'.subs = e.subs ∨
        ∃ status, e'.subs = e.subs.log (.answered request link (.fault status))) := by
  unfold emitPublishResponseTooLargeFault
  split
  · exact (emitFault_spec cfg link request _ e).mono
      fun _ _ h => ⟨h.1,h.2.imp_right fun h => ⟨_,h⟩⟩
  · exact ⟨rfl,.inl rfl⟩

theorem emitNotification_spec (cfg : EngineConfig ω κ) (link : Link) (sub : Subscription)
    (request : PublishRequest) (content : NotificationContent) (e : Engine ω κ) :
    Ensures (emitNotification cfg link sub request content) e fun result e' => e'.diag = e.diag ∧
      match result with
      | none => e'.subs = e.subs ∨
          ∃ status, e'.subs = e.subs.log (.answered request link (.fault status))
      | some response => response.Carries sub content ∧
          e'.subs = e.subs.log (.answered request link (.notification sub.uid response.message
            (content.delivered cfg.caps e.subs sub))) := by
  unfold emitNotification
  rw [ensures_bind]
  have htime : Ensures (publishTimeNow cfg) e fun _ e₁ => e₁.diag = e.diag ∧ e₁.subs = e.subs :=
    ⟨rfl,rfl⟩
  refine htime.mono fun publishTime e₁ ⟨hdiag₁,hsubs₁⟩ => ?_
  rw [ensures_bind,ensures_get,ensures_bind]
  refine (encodeResponse_spec _ e₁).mono fun result e₂ ⟨⟨hdiag₂,hsubs₂⟩,hencoded⟩ => ?_
  rw [hdiag₁] at hdiag₂
  rw [hsubs₁] at hsubs₂
  cases result with
  | error status =>
    dsimp only
    rw [ensures_bind]
    refine (emitPublishResponseTooLargeFault_spec cfg link request status.val e₂).mono
      fun _ e₃ h => ?_
    rwa [← hsubs₂,← hdiag₂]
  | ok encoded =>
    obtain ⟨⟨messageStart,messageEnd⟩,body⟩ := encoded
    obtain ⟨w,w',world',hwritable,hrun,rfl⟩ := hencoded _ _ rfl
    dsimp only
    rw [ensures_bind]
    refine (answerRequest_spec link request _ _ e₂).mono fun status e₃ ⟨hdiag₃,hsubs₃⟩ => ?_
    rw [hdiag₂] at hdiag₃
    split
    · next hgood =>
      rw [if_pos hgood,hsubs₂,hsubs₁] at hsubs₃
      exact ⟨hdiag₃,buildPublishResponse_carries hwritable hrun,hsubs₃⟩
    rename_i hbad
    rw [if_neg hbad,hsubs₂] at hsubs₃
    rw [ensures_bind]
    refine (emitPublishResponseTooLargeFault_spec cfg link request status e₃).mono fun _ e₄ h => ?_
    rwa [← hsubs₃,← hdiag₃]

/-! ## Numbers of messages -/

namespace Subscription

theorem currentSequenceNumber_same : SameMessages sub sub.currentSequenceNumber := by
  refine ⟨rfl,rfl,?_,rfl⟩
  unfold number currentSequenceNumber
  dsimp only
  split
  · rfl
  · rfl

variable (nowMs : UInt64)

theorem exists_turned : ∃ nextPublishMs lifetimeCounter,
    sub.turned nowMs = { sub with nextPublishMs, lifetimeCounter } :=
  ⟨_,_,rfl⟩

theorem turned_same : SameMessages sub (sub.turned nowMs) := by
  obtain ⟨nextPublishMs,lifetimeCounter,hturned⟩ := sub.exists_turned nowMs
  rw [hturned]
  exact ⟨rfl,rfl,rfl,rfl⟩

theorem turned_sessionId : (sub.turned nowMs).sessionId = sub.sessionId := by
  obtain ⟨nextPublishMs,lifetimeCounter,hturned⟩ := sub.exists_turned nowMs
  rw [hturned]

theorem advanceSequenceNumber_number :
    sub.advanceSequenceNumber.number = nextNumber sub.sequenceNumber := by
  rw [advanceSequenceNumber,(currentSequenceNumber_same _).number]
  rfl

end Subscription

theorem Notified.of_advance {sub : Subscription}
    {content : NotificationContent} (hcarries : response.Carries sub.currentSequenceNumber content)
    (hcontent : (notificationDataCount sub.currentSequenceNumber content).toUInt32 ≠ 0)
    (huid : sub'.uid = sub.uid) (hid : sub'.subscriptionId = sub.subscriptionId)
    (hnumber : sub'.sequenceNumber = sub.number)
    (hretransmit : sub'.retransmit = (Subs.storeRetransmit sub sub.number response.publishTime
      response.message).retransmit) : Notified sub response.message sub'.advanceSequenceNumber := by
  have hdata : carriesData response.message = true := by
    rw [hcarries.data]
    exact decide_eq_true hcontent
  refine ⟨huid,hid,hcarries.number,?_,fun h => ?_,fun _ => ⟨response.publishTime,hretransmit⟩⟩
  · rw [Subscription.advanceSequenceNumber_number,hnumber,if_pos hdata]
  · rw [hdata] at h
    cases h

theorem Notified.of_keepAlive {sub : Subscription}
    (hcarries : response.Carries sub.currentSequenceNumber .keepAlive) (h : SameMessages sub sub') :
    Notified sub response.message sub' := by
  have hdata : carriesData response.message = false := hcarries.data
  refine ⟨h.uid,h.subscriptionId,hcarries.number,?_,fun _ => h.retransmit,fun h => ?_⟩
  · rw [h.number,hdata]
    rfl
  · rw [hdata] at h
    cases h

/-! ## The state in which a message is built -/

def Subs.taken (s : Subs ω κ) (i index : Nat) (sub : Subscription) : Subs ω κ :=
  (s.dropRequest i).setSubscription index (some sub.currentSequenceNumber)

section Answering

variable {cfg : EngineConfig ω κ} {A : Allowed} {s : Subs ω κ} {i index : Nat} {sub : Subscription}
  {request : PublishRequest} {link : Link}

theorem Move.of_dropRequest (s : Subs ω κ) (i : Nat) : Move cfg A s (s.dropRequest i) :=
  .drop _ (Slotwise.set (fun _ => .inl rfl) fun _ _ => .inr rfl)

theorem moved_taken (hsub : s.subscription? index = some sub) :
    Moved cfg A s (s.taken i index sub) := by
  have hsub' : (s.dropRequest i).subscription? index = some sub := hsub
  exact .tail (.single (Move.of_dropRequest s i))
    (Move.of_setSubscription hsub' sub.currentSequenceNumber_same)

theorem moved_taken_fault (hparked : s.publishQueue[i]? = some (some request))
    (hroute : A.route request link) (hsub : s.subscription? index = some sub) (status : StatusCode) :
    Moved cfg A s ((s.taken i index sub).log (.answered request link (.fault status))) := by
  have hsub' : ((s.dropRequest i).log (.answered request link (.fault status))).subscription? index =
      some sub := hsub
  exact .tail (.single (Move.fault i request link status hparked hroute))
    (Move.of_setSubscription hsub' sub.currentSequenceNumber_same)

theorem moved_notified (hparked : s.publishQueue[i]? = some (some request))
    (hroute : A.route request link) (hsub : s.subscription? index = some sub)
    {message : List UInt8} (hnotified : Notified sub message sub')
    {delivered : List (Nat × Nat)} {slots : List (ItemSlot ω κ)}
    (hdelivers : Delivers cfg.caps s sub delivered slots) :
    Moved cfg A s (({ (s.taken i index sub).log (.answered request link
          (.notification sub.uid message delivered)) with monitoredItems := slots } :
        Subs ω κ).setSubscription index (some sub')) := by
  have h : Moved cfg A s _ := .single (.notify i request link index sub sub' message delivered slots
    hparked hroute hsub hnotified hdelivers)
  simpa only [Subs.taken,Subs.setSubscription,Subs.log,List.set_set] using h

end Answering

/-! ## Publishing -/

/-- What publishing in a slot can do: nothing, drop or refuse an expired request, take a request in
vain, refuse it, or send a message. -/
inductive Answered (link : Link) (s : Subs ω κ) (index : Nat) (sub : Subscription)
    (content : NotificationContent) (delivered : List (Nat × Nat)) (slots : List (ItemSlot ω κ))
    (sent : PublishResponse → Subscription) : Subs ω κ → Prop where
  | nothing : Answered link s index sub content delivered slots sent s
  | dropped (request : PublishRequest) (i : Nat) (htaken : Taken s sub.sessionId request i) :
      Answered link s index sub content delivered slots sent (s.dropRequest i)
  | expired (request : PublishRequest) (i : Nat) (status : StatusCode)
      (htaken : Taken s sub.sessionId request i) :
      Answered link s index sub content delivered slots sent
        ((s.dropRequest i).log (.answered request link (.fault status)))
  | taken (request : PublishRequest) (i : Nat) (htaken : Taken s sub.sessionId request i) :
      Answered link s index sub content delivered slots sent (s.taken i index sub)
  | fault (request : PublishRequest) (i : Nat) (status : StatusCode)
      (htaken : Taken s sub.sessionId request i) :
      Answered link s index sub content delivered slots sent
        ((s.taken i index sub).log (.answered request link (.fault status)))
  | notified (request : PublishRequest) (i : Nat) (response : PublishResponse)
      (htaken : Taken s sub.sessionId request i)
      (hcarries : response.Carries sub.currentSequenceNumber content) :
      Answered link s index sub content delivered slots sent
        (({ (s.taken i index sub).log (.answered request link
            (.notification sub.uid response.message delivered)) with monitoredItems := slots } :
          Subs ω κ).setSubscription index (some (sent response)))

section Publishing

variable {cfg : EngineConfig ω κ} {A : Allowed} {link : Link} {s s' : Subs ω κ} {index : Nat}
  {sub : Subscription} {content : NotificationContent} {delivered : List (Nat × Nat)}
  {slots : List (ItemSlot ω κ)} {sent : PublishResponse → Subscription}

theorem Answered.moved (h : Answered link s index sub content delivered slots sent s')
    (hsub : s.subscription? index = some sub) (hmay : MayAnswer A s sub.sessionId link)
    (hdelivers : Delivers cfg.caps s sub delivered slots)
    (hsent : ∀ response : PublishResponse, response.Carries sub.currentSequenceNumber content →
      Notified sub response.message (sent response)) : Moved cfg A s s' := by
  cases h with
  | nothing => exact .refl
  | dropped request i htaken => exact .single (Move.of_dropRequest s i)
  | expired request i status htaken =>
    exact .single (Move.fault i request link status htaken.parked (hmay.route htaken))
  | taken request i htaken => exact moved_taken hsub
  | fault request i status htaken =>
    exact moved_taken_fault htaken.parked (hmay.route htaken) hsub status
  | notified request i response htaken hcarries =>
    exact moved_notified htaken.parked (hmay.route htaken) hsub (hsent response hcarries) hdelivers

/-- What publishing leaves of a subscription: a message may start its lifetime again. -/
structure Subscription.Published (sub sub' : Subscription) : Prop where
  sessionId : sub'.sessionId = sub.sessionId
  subscriptionId : sub'.subscriptionId = sub.subscriptionId
  lifetimeCount : sub'.lifetimeCount = sub.lifetimeCount
  lifetimeCounter : sub'.lifetimeCounter = sub.lifetimeCounter ∨ sub'.lifetimeCounter = 0

theorem Subscription.Published.refl (sub : Subscription) : sub.Published sub :=
  ⟨rfl,rfl,rfl,.inl rfl⟩

theorem Subscription.Published.trans {sub sub₁ sub₂ : Subscription} (h : sub.Published sub₁)
    (h' : sub₁.Published sub₂) : sub.Published sub₂ :=
  ⟨h'.sessionId.trans h.sessionId,h'.subscriptionId.trans h.subscriptionId,
    h'.lifetimeCount.trans h.lifetimeCount,by
      rcases h'.lifetimeCounter with hsame | hzero
      · rw [hsame]
        exact h.lifetimeCounter
      · exact .inr hzero⟩

structure SlotKept (index : Nat) (sub : Subscription) (s s' : Subs ω κ) : Prop where
  here : ∃ sub', s'.subscription? index = some sub' ∧ sub.Published sub'
  elsewhere : ∀ index', index' ≠ index → s'.subscription? index' = s.subscription? index'
  length : s'.subscriptions.length = s.subscriptions.length
  queue : ∀ request, some request ∈ s'.publishQueue → some request ∈ s.publishQueue

theorem mem_dropRequest {request : PublishRequest} {i : Nat}
    (h : some request ∈ (s.dropRequest i).publishQueue) : some request ∈ s.publishQueue := by
  rcases List.mem_or_eq_of_mem_set h with h | h
  · exact h
  · cases h

theorem taken_kept (hsub : s.subscription? index = some sub) (i : Nat) :
    SlotKept index sub s (s.taken i index sub) := by
  refine ⟨⟨sub.currentSequenceNumber,?_,rfl,rfl,rfl,.inl rfl⟩,fun index' hne => ?_,
    List.length_set,fun _ h => mem_dropRequest h⟩
  · exact Subs.subscription?_setSubscription (s := s.dropRequest i) hsub _
  · exact Subs.subscription?_setSubscription_ne (Ne.symm hne) _

theorem Answered.kept (h : Answered link s index sub content delivered slots sent s')
    (hsub : s.subscription? index = some sub)
    (hsent : ∀ response, sub.Published (sent response)) : SlotKept index sub s s' := by
  have hsame : SlotKept index sub s s := ⟨⟨sub,hsub,.refl sub⟩,fun _ _ => rfl,rfl,fun _ h => h⟩
  cases h with
  | nothing => exact hsame
  | dropped request i
  | expired request i => exact ⟨hsame.here,hsame.elsewhere,rfl,fun _ h => mem_dropRequest h⟩
  | taken request i => exact taken_kept hsub i
  | fault request i =>
    have htaken := taken_kept hsub i
    exact ⟨htaken.here,htaken.elsewhere,htaken.length,htaken.queue⟩
  | notified request i response =>
    have htaken := taken_kept hsub i
    obtain ⟨sub₁,hsub₁,-⟩ := htaken.here
    refine ⟨⟨sent response,?_,hsent response⟩,fun index' hne => ?_,
      List.length_set.trans htaken.length,htaken.queue⟩
    · exact Subs.subscription?_setSubscription
        (s := { (s.taken i index sub).log (.answered request link
          (.notification sub.uid response.message delivered)) with monitoredItems := slots })
        hsub₁ _
    · rw [← htaken.elsewhere index' hne]
      exact Subs.subscription?_setSubscription_ne (Ne.symm hne) _

theorem SlotKept.session (h : SlotKept index sub s s')
    (hsub' : s'.subscription? index = some sub') : sub'.sessionId = sub.sessionId := by
  obtain ⟨sub₁,hsub₁,hpublished⟩ := h.here
  rw [hsub₁] at hsub'
  cases hsub'
  exact hpublished.sessionId

theorem notifyRequest_answered {request : PublishRequest} {i : Nat} {e : Engine ω κ}
    (htaken : Taken s sub.sessionId request i) (hs : e.subs = s.dropRequest i)
    (hdelivered : delivered = content.delivered cfg.caps s sub)
    {rest : PublishResponse → PublishM ω κ Unit}
    (hrest : ∀ response e, e.subs.monitoredItems = s.monitoredItems →
      Ensures (rest response) e fun _ e' => e'.diag = e.diag ∧ e'.subs =
        ({ e.subs with monitoredItems := slots } : Subs ω κ).setSubscription index
          (some (sent response))) :
    Ensures (notifyRequest cfg link index sub request content rest) e fun _ e' =>
      e'.diag = e.diag ∧ Answered link s index sub content delivered slots sent e'.subs := by
  unfold notifyRequest setSubscription
  dsimp only
  rw [ensures_bind,ensures_modify,ensures_bind,hs]
  refine (emitNotification_spec cfg link sub.currentSequenceNumber request content _).mono
    fun result e₁ ⟨hdiag,hemit⟩ => ?_
  cases result with
  | none =>
    dsimp only
    rw [ensures_pure]
    refine ⟨hdiag,?_⟩
    rcases hemit with hsubs | ⟨status,hsubs⟩
    · rw [hsubs]
      exact .taken request i htaken
    · rw [hsubs]
      exact .fault request i status htaken
  | some response =>
    obtain ⟨hcarries,hsubs⟩ := hemit
    refine (hrest response e₁ (by rw [hsubs]; rfl)).mono fun _ e₂ ⟨hdiag₂,h⟩ => ?_
    refine ⟨hdiag₂.trans hdiag,?_⟩
    rw [h,hsubs,hdelivered]
    -- what is delivered depends on the items and on the subscription's id alone
    cases content <;> exact .notified request i response htaken hcarries

theorem issueStatusChangeNotification_answered (cfg : EngineConfig ω κ) (link : Link) (index : Nat)
    (sub : Subscription) (status : StatusCode) (e : Engine ω κ) :
    Ensures (issueStatusChangeNotification cfg link index sub status) e fun _ e' =>
      e'.diag = e.diag ∧ Answered link e.subs index sub (.statusChange status) []
        e.subs.monitoredItems sub.currentSequenceNumber.statusChanged e'.subs := by
  unfold issueStatusChangeNotification
  rw [ensures_bind]
  refine (dequeueRequest_spec sub.sessionId e).mono fun result e₁ hdequeue => ?_
  cases result with
  | none =>
    cases hdequeue
    exact ⟨rfl,.nothing⟩
  | some request =>
    obtain ⟨i,htaken,rfl⟩ := hdequeue
    refine notifyRequest_answered htaken rfl rfl fun response e₂ hitems => ?_
    rw [← hitems]
    exact ⟨rfl,rfl⟩

theorem publishRequestDequeueValid_spec (cfg : EngineConfig ω κ) (link : Link) (sessionId : UInt32)
    (nowMs : UInt64) (e : Engine ω κ) :
    Ensures (publishRequestDequeueValid cfg link sessionId nowMs) e fun result e' =>
      match result with
      | none => e'.diag = e.diag ∧ (e'.subs = e.subs ∨
          ∃ request i, Taken e.subs sessionId request i ∧ (e'.subs = e.subs.dropRequest i ∨
            e'.subs = (e.subs.dropRequest i).log
              (.answered request link (.fault Status.badTimeout.val))))
      | some request => ∃ i, Taken e.subs sessionId request i ∧
          e' = { e with subs := e.subs.dropRequest i } := by
  unfold publishRequestDequeueValid
  rw [ensures_bind]
  refine (dequeueRequest_spec sessionId e).mono fun result e₁ hdequeue => ?_
  cases result with
  | none =>
    cases hdequeue
    exact ⟨rfl,.inl rfl⟩
  | some request =>
    obtain ⟨i,htaken,rfl⟩ := hdequeue
    dsimp only
    split
    · rw [ensures_bind]
      refine (emitFault_spec cfg link request Status.badTimeout _).mono fun _ e₂ ⟨hdiag,h⟩ => ?_
      exact ⟨hdiag,.inr ⟨request,i,htaken,h⟩⟩
    · exact ⟨i,htaken,rfl⟩

variable {status : StatusCode}

private theorem Answered.of_refused
    (h : s' = s ∨ ∃ request i, Taken s sub.sessionId request i ∧ (s' = s.dropRequest i ∨
      s' = (s.dropRequest i).log (.answered request link (.fault status)))) :
    Answered link s index sub content delivered slots sent s' := by
  rcases h with rfl | ⟨request,i,htaken,rfl | rfl⟩
  · exact .nothing
  · exact .dropped request i htaken
  · exact .expired request i status htaken

theorem publishData_answered (cfg : EngineConfig ω κ) (link : Link) (index : Nat)
    (sub : Subscription) (prepared : Prepared) (nowMs : UInt64) (e : Engine ω κ) :
    Ensures (publishData cfg link index sub prepared nowMs) e fun _ e' =>
      e'.diag = e.diag ∧ Answered link e.subs index sub (.data prepared.reportCount)
        (NotificationContent.delivered cfg.caps e.subs sub (.data prepared.reportCount))
        (e.subs.clearReportedItems sub cfg.caps prepared.reportCount).monitoredItems
        (sub.currentSequenceNumber.reported prepared.hasEvents) e'.subs := by
  unfold publishData
  rw [ensures_bind]
  refine (publishRequestDequeueValid_spec cfg link sub.sessionId nowMs e).mono
    fun result e₁ hdequeue => ?_
  cases result with
  | none => exact ⟨hdequeue.1,.of_refused hdequeue.2⟩
  | some request =>
    obtain ⟨i,htaken,rfl⟩ := hdequeue
    refine notifyRequest_answered htaken rfl rfl fun response e₂ hitems => ?_
    unfold setSubscription
    rw [ensures_bind,ensures_modify]
    -- clearing looks at the items alone
    have hclear : e₂.subs.clearReportedItems sub cfg.caps prepared.reportCount =
        { e₂.subs with monitoredItems :=
          (e.subs.clearReportedItems sub cfg.caps prepared.reportCount).monitoredItems } := by
      simp only [Subs.clearReportedItems,Subs.clearSemanticsChangedForReported,Subs.triggered,
        Subs.items,hitems]
    rw [hclear]
    exact ⟨rfl,rfl⟩

theorem sendKeepAlive_answered (cfg : EngineConfig ω κ) (link : Link) (index : Nat)
    (sub : Subscription) (nowMs : UInt64) (e : Engine ω κ) :
    Ensures (sendKeepAlive cfg link index sub nowMs) e fun _ e' =>
      e'.diag = e.diag ∧ Answered link e.subs index sub .keepAlive [] e.subs.monitoredItems
        (fun _ => sub.currentSequenceNumber.keptAlive) e'.subs := by
  unfold sendKeepAlive
  rw [ensures_bind]
  refine (publishRequestDequeueValid_spec cfg link sub.sessionId nowMs e).mono
    fun result e₁ hdequeue => ?_
  cases result with
  | none => exact ⟨hdequeue.1,.of_refused hdequeue.2⟩
  | some request =>
    obtain ⟨i,htaken,rfl⟩ := hdequeue
    refine notifyRequest_answered htaken rfl rfl fun response e₂ hitems => ?_
    rw [← hitems]
    exact ⟨rfl,rfl⟩

/-! ## The turn of a subscription -/

variable {e : Engine ω κ} {nowMs : UInt64}

theorem statusChanged_notified
    (h : response.Carries sub.currentSequenceNumber (.statusChange status)) :
    Notified sub response.message (sub.currentSequenceNumber.statusChanged response) := by
  unfold Subscription.statusChanged
  dsimp only
  rw [if_pos h.inBody]
  exact Notified.of_advance h (show (1 : Int32).toUInt32 ≠ 0 by decide) rfl rfl rfl rfl

theorem reported_notified {reportCount : Nat} {hasEvents : Bool}
    (hdata : 0 < reportCount ∨ 0 < sub.eventQueue.length)
    (h : response.Carries sub.currentSequenceNumber (.data reportCount)) :
    Notified sub response.message (sub.currentSequenceNumber.reported hasEvents response) := by
  have hcount :
      (notificationDataCount sub.currentSequenceNumber (.data reportCount)).toUInt32 ≠ 0 := by
    show ((if 0 < reportCount then 1 else 0) +
      (if 0 < sub.eventQueue.length then 1 else 0) : Int32).toUInt32 ≠ 0
    by_cases hreports : 0 < reportCount
    · rw [if_pos hreports]
      split <;> decide
    · rw [if_neg hreports,if_pos (hdata.resolve_left hreports)]
      decide
  unfold Subscription.reported
  dsimp only
  rw [if_pos h.inBody]
  exact Notified.of_advance h hcount rfl rfl rfl rfl

theorem keptAlive_notified (h : response.Carries sub.currentSequenceNumber .keepAlive) :
    Notified sub response.message sub.currentSequenceNumber.keptAlive :=
  Notified.of_keepAlive h ⟨rfl,rfl,sub.currentSequenceNumber_same.number,rfl⟩

theorem reported_published (hasEvents : Bool) (response : PublishResponse) :
    sub.Published (sub.currentSequenceNumber.reported hasEvents response) := by
  unfold Subscription.reported
  dsimp only
  split <;> exact ⟨rfl,rfl,rfl,.inr rfl⟩

theorem statusChanged_published (response : PublishResponse) :
    sub.Published (sub.currentSequenceNumber.statusChanged response) := by
  unfold Subscription.statusChanged
  dsimp only
  split <;> exact ⟨rfl,rfl,rfl,.inl rfl⟩

theorem keptAlive_published : sub.Published sub.currentSequenceNumber.keptAlive :=
  ⟨rfl,rfl,rfl,.inr rfl⟩

structure TurnMoved (cfg : EngineConfig ω κ) (A : Allowed) (index : Nat) (sessionId : UInt32)
    (s s' : Subs ω κ) : Prop where
  moved : Moved cfg A s s'
  session : ∀ sub', s'.subscription? index = some sub' → sub'.sessionId = sessionId

theorem issueStatusChangeNotification_moved
    (hsub : e.subs.subscription? index = some sub) (hmay : MayAnswer A e.subs sub.sessionId link) :
    Ensures (issueStatusChangeNotification cfg link index sub status) e fun _ e' =>
      TurnMoved cfg A index sub.sessionId e.subs e'.subs :=
  (issueStatusChangeNotification_answered cfg link index sub status e).mono fun _ _ ⟨_,h⟩ =>
    ⟨h.moved hsub hmay (.inl ⟨rfl,rfl⟩) fun _ => statusChanged_notified,
      fun _ => (h.kept hsub statusChanged_published).session⟩

theorem publishKeepAlive_moved (hsub : e.subs.subscription? index = some sub)
    (hmay : MayAnswer A e.subs sub.sessionId link) :
    Ensures (publishKeepAlive cfg link index sub nowMs) e fun _ e' =>
      TurnMoved cfg A index sub.sessionId e.subs e'.subs := by
  unfold publishKeepAlive setSubscription
  dsimp only
  rw [ensures_bind,ensures_modify]
  -- the counter moves on whether there is a request or not
  have hcounted : Move cfg A e.subs (e.subs.setSubscription index
      (some { sub with keepAliveCounter := sub.keepAliveCounter + 1 })) :=
    Move.of_setSubscription hsub ⟨rfl,rfl,rfl,rfl⟩
  have hsub₁ := Subs.subscription?_setSubscription hsub
    (some { sub with keepAliveCounter := sub.keepAliveCounter + 1 })
  split
  · refine ⟨.single hcounted,fun sub' hsub' => ?_⟩
    rw [hsub₁] at hsub'
    cases hsub'
    rfl
  refine (sendKeepAlive_answered cfg link index _ nowMs _).mono fun _ e' ⟨_,h⟩ => ?_
  exact ⟨.head hcounted (h.moved hsub₁ hmay (.inl ⟨rfl,rfl⟩) fun _ => keptAlive_notified),
    fun _ => (h.kept hsub₁ fun _ => keptAlive_published).session⟩

theorem publishResponseEncodeAndEmit_moved {prepared : Prepared}
    (hsub : e.subs.subscription? index = some sub) (hmay : MayAnswer A e.subs sub.sessionId link)
    (hdata : prepared.hasData = true → 0 < prepared.reportCount ∨ 0 < sub.eventQueue.length) :
    Ensures (publishResponseEncodeAndEmit cfg link index sub prepared nowMs) e fun _ e' =>
      TurnMoved cfg A index sub.sessionId e.subs e'.subs := by
  unfold publishResponseEncodeAndEmit
  split
  · next hhas =>
    refine (publishData_answered cfg link index sub prepared nowMs e).mono fun _ e' ⟨_,h⟩ => ?_
    exact ⟨h.moved hsub hmay (.inr ⟨prepared.reportCount,rfl,rfl⟩)
        fun _ => reported_notified (hdata hhas),
      fun _ => (h.kept hsub (reported_published _)).session⟩
  · exact publishKeepAlive_moved hsub hmay

theorem Move.of_deleteSubscription (s : Subs ω κ) (index : Nat) :
    Move cfg A s (s.setSubscription index none) :=
  .subscriptions _ (Slotwise.set SubscriptionMove.refl fun _ _ => .inl rfl)

theorem releaseItems_moved (s : Subs ω κ) (p : MonitoredItem ω κ → Bool) :
    Moved cfg A s (s.releaseItems p) := by
  have hrelease : Move cfg A s (s.mapItems fun item => if p item then none else some item) := by
    refine Move.of_mapItems fun item item' h => ?_
    split at h
    · cases h
    · cases h
      exact ItemMove.refl item
  exact .tail (.single hrelease) (.counters _ _ _)

theorem subscriptionDelete_moved (s : Subs ω κ) (sessionId subscriptionId : UInt32) :
    Moved cfg A s (s.subscriptionDelete sessionId subscriptionId).2 := by
  unfold Subs.subscriptionDelete
  split
  · exact .refl
  · exact .tail (releaseItems_moved s _) (Move.of_deleteSubscription _ _)

theorem endTurn_moved {sessionId : UInt32}
    (hsession : ∀ sub, e.subs.subscription? index = some sub → sub.sessionId = sessionId)
    (hmay : ∀ s : Subs ω κ, MayAnswer A s sessionId link) :
    Ensures (endTurn cfg link index nowMs) e fun _ e' => Moved cfg A e.subs e'.subs := by
  unfold endTurn setSubscription
  rw [ensures_bind,ensures_get]
  split
  · exact .refl
  rename_i sub hsub
  have hsame := sub.turned_same nowMs
  have hsession₁ : (sub.turned nowMs).sessionId = sessionId := by
    rw [sub.turned_sessionId nowMs,hsession sub hsub]
  generalize sub.turned nowMs = sub₁ at hsame hsession₁ ⊢
  obtain rfl := hsession₁
  dsimp only
  rw [ensures_bind,ensures_modify]
  have hturned : Move cfg A e.subs (e.subs.setSubscription index (some sub₁)) :=
    Move.of_setSubscription hsub hsame
  split
  · rw [ensures_bind]
    refine Ensures.mono (issueStatusChangeNotification_moved (A := A)
      (Subs.subscription?_setSubscription hsub _) (hmay _)) fun _ e' h => ?_
    rw [ensures_modify]
    exact (Relation.ReflTransGen.head hturned h.moved).trans (subscriptionDelete_moved _ _ _)
  · exact .single hturned

theorem prepareReportableQueues_moved (s : Subs ω κ) (sub : Subscription) :
    Move cfg A s (s.prepareReportableQueues sub cfg) := by
  refine Move.of_mapItems fun item item' h => ?_
  split at h
  · cases h
    exact ItemMove.of_sampled MonitoredItem.preparePendingQueue_sampled
  · cases h
    exact ItemMove.refl item

theorem enqueueResendData_moved (cfg : EngineConfig ω κ) (e : Engine ω κ) (sub : Subscription) :
    Moved cfg A e.subs (e.enqueueResendData cfg sub).subs := by
  unfold Engine.enqueueResendData
  split
  · exact .single (Move.of_sampled (resendItems_sampled cfg sub _ _))
  · exact .refl

theorem enqueueResendData_subscriptions (cfg : EngineConfig ω κ) (e : Engine ω κ)
    (sub : Subscription) :
    (e.enqueueResendData cfg sub).subs.subscriptions = e.subs.subscriptions := by
  unfold Engine.enqueueResendData
  split <;> rfl

theorem preparePublishNotificationData_moved (cfg : EngineConfig ω κ)
    (hsub : e.subs.subscription? index = some sub) :
    Moved cfg A e.subs (e.preparePublishNotificationData cfg index sub).2.subs ∧
      ∃ sub', (e.preparePublishNotificationData cfg index sub).2.subs.subscription? index =
          some sub' ∧ sub'.sessionId = sub.sessionId ∧
        ((e.preparePublishNotificationData cfg index sub).1.hasData = true →
          0 < (e.preparePublishNotificationData cfg index sub).1.reportCount ∨
            0 < sub'.eventQueue.length) := by
  unfold Engine.preparePublishNotificationData
  dsimp only
  split
  · have hprepared : Move cfg A e.subs (e.subs.prepareReportableQueues sub cfg) :=
      prepareReportableQueues_moved e.subs sub
    have hresent := enqueueResendData_moved (A := A) cfg
      { e with subs := e.subs.prepareReportableQueues sub cfg } sub
    have hsame := enqueueResendData_subscriptions cfg
      { e with subs := e.subs.prepareReportableQueues sub cfg } sub
    generalize Engine.enqueueResendData cfg
      { e with subs := e.subs.prepareReportableQueues sub cfg } sub = e₁ at hresent hsame ⊢
    have hsub₁ : e₁.subs.subscription? index = some sub := by
      rw [Subs.subscription?,hsame]
      exact hsub
    generalize e₁.subs.countReportableItems sub = counted
    refine ⟨(Relation.ReflTransGen.head hprepared hresent).tail
      (Move.of_setSubscription hsub₁ ⟨rfl,rfl,rfl,rfl⟩),_,
      Subs.subscription?_setSubscription hsub₁ _,rfl,fun h => ?_⟩
    simpa using h
  · exact ⟨.refl,sub,hsub,rfl,fun h => nomatch h⟩

theorem publishSubscription_moved (hsub : e.subs.subscription? index = some sub)
    (hmay : ∀ s : Subs ω κ, MayAnswer A s sub.sessionId link) :
    Ensures (publishSubscription cfg link index sub nowMs) e fun _ e' =>
      Moved cfg A e.subs e'.subs := by
  unfold publishSubscription
  rw [ensures_bind,ensures_modifyGet]
  obtain ⟨hprepared,sub₁,hsub₁,hsession,hdata⟩ :=
    preparePublishNotificationData_moved (A := A) cfg hsub
  generalize e.preparePublishNotificationData cfg index sub = r at hprepared hsub₁ hdata ⊢
  rw [ensures_bind,ensures_get]
  dsimp only
  rw [hsub₁]
  dsimp only
  rw [ensures_bind]
  refine Ensures.mono (publishResponseEncodeAndEmit_moved (A := A) hsub₁
    (hsession.symm ▸ hmay _) hdata) fun _ e₂ h => ?_
  refine Ensures.mono (endTurn_moved (A := A) h.session (hsession.symm ▸ hmay)) fun _ e₃ h' => ?_
  exact (hprepared.trans h.moved).trans h'

theorem publishTurn_moved {sessions : List Session} {returnDiagnostics : UInt32} :
    Ensures (publishTurn cfg sessions returnDiagnostics nowMs index) e fun _ e' =>
      Moved cfg A e.subs e'.subs := by
  unfold publishTurn
  rw [ensures_bind,ensures_get]
  split
  · exact .refl
  rename_i sub hsub
  split
  · exact .refl
  rw [ensures_bind,ensures_question]
  intro conns
  split
  · exact .refl
  rename_i conn hselect
  obtain ⟨session,howner,hconn⟩ := Option.bind_eq_some_iff.mp hselect
  have hbound := List.find?_some hconn
  have hopen := List.find?_some howner
  simp only [decide_eq_true_eq] at hbound hopen
  refine publishSubscription_moved hsub fun s request _ hsession => A.route_bound ?_
  exact ⟨session,List.mem_of_find?_eq_some howner,hopen.1,hopen.2.trans hsession.symm,
    hbound.2.symm⟩

end Publishing

end MucOpcua
