import MucOpcua.Subscription.Moves

/-!
# The services as moves

What a handler does to the tables is a sequence of moves, however far it gets.
-/

namespace MucOpcua

open Interact

variable {ω κ α β : Type}
variable {Q : Except BadStatus α → Work ω κ → Prop} {f : α → ServiceM ω κ β} {index : Nat}
  {m : ServiceM ω κ α} {sub : Subscription} (encode : RespondM ω α) (caller : Caller)
  (sessionId subscriptionId : UInt32) (sendInitial : Bool) (e : Engine ω κ)

/-! ## Handlers in general -/

/-- All a program does to what is seen of the tables and the counters are steps of `R`. -/
def PublishM.Along {T : Type} (view : Subs ω κ → DiagnosticsSummary → T) (R : T → T → Prop)
    (m : PublishM ω κ α) : Prop :=
  Moves (fun e : Engine ω κ => view e.subs e.diag) R m

namespace ServiceM

variable {work : Work ω κ}

@[simp] theorem ensures_run_check (result : Except BadStatus α) :
    Ensures (check result : ServiceM ω κ α).run work Q ↔ Q result work := Iff.rfl

@[simp] theorem ensures_run_getSubs {Q : Except BadStatus (Subs ω κ) → Work ω κ → Prop} :
    Ensures (getSubs : ServiceM ω κ (Subs ω κ)).run work Q ↔ Q (.ok work.engine.subs) work := Iff.rfl

theorem ensures_run_engine {m : PublishM ω κ α} : Ensures (engine m).run work Q ↔
      Ensures m work.engine fun a e => Q (.ok a) { work with engine := e } :=
  always_bind

theorem ensures_run_respond {encode : RespondM ω α} :
    Ensures (respond encode).run work Q ↔ Q (encoded encode work).1 (encoded encode work).2 :=
  ⟨fun h => h (),fun h _ => h⟩

theorem ensures_run_read {decode : ReadM α} : Ensures (read decode).run work Q ↔
      match decode work.reader with
      | .ok a reader => Q (.ok a) { work with reader }
      | .error status reader => Q (.error status) { work with reader } := by
  refine Iff.trans (ensures_modifyGet _) ?_
  cases decode work.reader <;> exact Iff.rfl

theorem ensures_read_bind {Q : Except BadStatus β → Work ω κ → Prop} {decode : ReadM α}
    (herror : ∀ status reader, decode work.reader = .error status reader →
      Q (.error status) { work with reader })
    (hok : ∀ a reader, decode work.reader = .ok a reader →
      Ensures (f a).run { work with reader } Q) : Ensures (read decode >>= f).run work Q := by
  rw [ensures_exceptBind,ensures_run_read]
  cases hread : decode work.reader with
  | error status reader => exact herror status reader hread
  | ok a reader => exact hok a reader hread

theorem encoded_engine_subs (work : Work ω κ) :
    (encoded encode work).2.engine.subs = work.engine.subs := by
  unfold encoded
  split <;> rfl

theorem encoded_engine_diag (work : Work ω κ) :
    (encoded encode work).2.engine.diag = work.engine.diag := by
  unfold encoded
  split <;> rfl

theorem encoded_reader (work : Work ω κ) : (encoded encode work).2.reader = work.reader := by
  unfold encoded
  split <;> rfl

def Keeps (m : ServiceM ω κ α) : Prop :=
  ∀ work, Ensures m.run work fun _ work' =>
    work'.engine.subs = work.engine.subs ∧ work'.reader = work.reader

theorem Keeps.respond : (respond encode : ServiceM ω κ α).Keeps :=
  fun work => ensures_run_respond.mpr ⟨encoded_engine_subs encode work,encoded_reader encode work⟩

theorem Keeps.check (result : Except BadStatus α) : (check result : ServiceM ω κ α).Keeps :=
  fun _ => ⟨rfl,rfl⟩

theorem Keeps.getSubs : (getSubs : ServiceM ω κ (Subs ω κ)).Keeps := fun _ => ⟨rfl,rfl⟩

theorem Keeps.bind (hm : m.Keeps) (hf : ∀ a, (f a).Keeps) : (m >>= f).Keeps := by
  intro work
  refine ensures_exceptBind.mpr ((hm work).mono fun result work₁ h₁ => ?_)
  cases result with
  | error status => exact h₁
  | ok a =>
    exact (hf a work₁).mono fun _ work₂ h₂ => ⟨h₂.1.trans h₁.1,h₂.2.trans h₁.2⟩

theorem ensures_keeps_bind {Q : Except BadStatus β → Work ω κ → Prop} (hm : m.Keeps)
    (herror : ∀ status work', work'.engine.subs = work.engine.subs → Q (.error status) work')
    (hrest : ∀ a work', work'.engine.subs = work.engine.subs → work'.reader = work.reader →
      Ensures (f a).run work' Q) : Ensures (m >>= f).run work Q := by
  refine ensures_exceptBind.mpr ((hm work).mono fun result work₁ h₁ => ?_)
  cases result with
  | error status => exact herror status work₁ h₁.1
  | ok a => exact hrest a work₁ h₁.1 h₁.2

def Along {T : Type} (view : Subs ω κ → DiagnosticsSummary → T) (R : T → T → Prop)
    (m : ServiceM ω κ α) : Prop :=
  Moves (fun work : Work ω κ => view work.engine.subs work.engine.diag) R m.run

namespace Along

variable {T : Type} {view : Subs ω κ → DiagnosticsSummary → T} {R : T → T → Prop}

theorem pure (a : α) : Along view R (Pure.pure a : ServiceM ω κ α) := Moves.pure _

theorem bind (hm : Along view R m) (hf : ∀ a, Along view R (f a)) : Along view R (m >>= f) :=
  Moves.exceptBind hm hf

theorem read (decode : ReadM α) : Along view R (ServiceM.read decode) := by
  refine Moves.modifyGet fun work => ?_
  split <;> exact .refl

theorem respond : Along view R (ServiceM.respond encode) := by
  intro work answer
  show Relation.ReflTransGen R (view work.engine.subs work.engine.diag)
    (view (ServiceM.encoded encode work).2.engine.subs (ServiceM.encoded encode work).2.engine.diag)
  rw [ServiceM.encoded_engine_subs,ServiceM.encoded_engine_diag]

theorem put (encode : WriteM Unit) : Along view R (ServiceM.put encode) := respond _

theorem unchecked {m : ServiceM ω κ Unit} (h : Along view R m) :
    Along view R (ServiceM.unchecked m) :=
  Moves.bind h fun _ => Moves.pure _

theorem engine {m : PublishM ω κ α} (h : PublishM.Along view R m) :
    Along view R (ServiceM.engine m) := by
  intro work
  exact always_bind.mpr (h work.engine)

theorem subs {f : Subs ω κ → α × Subs ω κ}
    (h : ∀ s diag, Relation.ReflTransGen R (view s diag) (view (f s).2 diag)) :
    Along view R (ServiceM.subs f) :=
  engine fun e => h e.subs e.diag

theorem getSubs : Along view R (ServiceM.getSubs : ServiceM ω κ (Subs ω κ)) :=
  subs fun _ _ => .refl

theorem check (result : Except BadStatus α) :
    Along view R (ServiceM.check result : ServiceM ω κ α) :=
  Moves.pure _

theorem refuseIf (c : Prop) [Decidable c] (status : BadStatus) :
    Along view R (ServiceM.refuseIf c status : ServiceM ω κ Unit) :=
  check _

theorem finish : Along view R (ServiceM.finish : ServiceM ω κ Nat) := fun _ => .refl

theorem respondPrefix (cfg : EngineConfig ω κ) (caller : Caller)
    (responseTypeId requestHandle : UInt32) (result : StatusCode) :
    Along view R (MucOpcua.respondPrefix cfg caller responseTypeId requestHandle result) :=
  respond _

theorem tickMs (cfg : EngineConfig ω κ) : Along view R (ServiceM.engine (MucOpcua.tickMs cfg)) :=
  engine fun _ => .refl

end Along

end ServiceM

def Serves (cfg : EngineConfig ω κ) (A : Allowed) (m : ServiceM ω κ α) : Prop :=
  ServiceM.Along (fun s _ => s) (Move cfg A) m

/-! ## Handlers along a relation

What a handler does are steps of a relation if what it calls on the tables are. -/

section Handlers

open ServiceM (Along)

variable {T : Type} {view : Subs ω κ → DiagnosticsSummary → T} {R : T → T → Prop}
  {cfg : EngineConfig ω κ} {caller : Caller}

theorem driveIds_along {itemResult : UInt32 → PublishM ω κ StatusCode}
    (h : ∀ id, PublishM.Along view R (itemResult id)) (n : Nat) :
    Along view R (driveIds itemResult n) := by
  induction n with
  | zero => exact .pure ()
  | succ n ih =>
    exact .bind (.read _) fun id => .bind (.engine (h id)) fun _ => .bind (.put _) fun _ => ih

theorem driveSubscriptionIdStatusArray_along {responseTypeId requestHandle : UInt32}
    {validate : Option UInt32} {itemResult : UInt32 → PublishM ω κ StatusCode}
    (h : ∀ id, PublishM.Along view R (itemResult id)) :
    Along view R (driveSubscriptionIdStatusArray cfg caller responseTypeId requestHandle validate
      itemResult) :=
  .bind (.read _) fun _ => .bind (.refuseIf _ _) fun _ => .bind .getSubs fun _ =>
    .bind (.refuseIf _ _) fun _ => .bind (.refuseIf _ _) fun _ =>
      .bind (.respondPrefix _ _ _ _ _) fun _ => .bind (.put _) fun _ =>
        .bind (driveIds_along h _) fun _ => .bind (.put _) fun _ => .finish

theorem handleModifySubscription_along
    (h : ∀ subscriptionId p s diag, Relation.ReflTransGen R (view s diag)
      (view (s.subscriptionModify caller.sessionId subscriptionId p).2 diag)) :
    Along view R (handleModifySubscription cfg caller) :=
  .bind (.read _) fun _ => .bind (.read _) fun _ => .bind (.read _) fun _ =>
    .bind (.read _) fun _ => .bind (.subs fun s => h _ _ s) fun _ =>
      .bind (.check _) fun _ => .bind (.respondPrefix _ _ _ _ _) fun _ => .bind (.put _) fun _ =>
        .finish

theorem handleSetPublishingMode_along
    (h : ∀ publishingEnabled subscriptionId s diag, Relation.ReflTransGen R (view s diag)
      (view (s.setPublishingMode caller.sessionId publishingEnabled subscriptionId).2 diag)) :
    Along view R (handleSetPublishingMode cfg caller) :=
  .bind (.read _) fun _ => .bind (.read _) fun publishingEnabled =>
    driveSubscriptionIdStatusArray_along fun id e => h publishingEnabled id e.subs e.diag

theorem handleDeleteSubscriptions_along
    (h : ∀ id, PublishM.Along view R (deleteSubscriptionResult cfg caller id)) :
    Along view R (handleDeleteSubscriptions cfg caller) :=
  .bind (.read _) fun _ => driveSubscriptionIdStatusArray_along h

theorem readAcknowledgements_along
    (h : ∀ subscriptionId sequenceNumber s diag, Relation.ReflTransGen R (view s diag)
      (view (s.acknowledge caller.sessionId subscriptionId sequenceNumber).2 diag)) (n : Nat) :
    Along view R (readAcknowledgements caller n : ServiceM ω κ (List StatusCode)) := by
  induction n with
  | zero => exact .pure []
  | succ n ih =>
    exact .bind (.read _) fun _ => .bind (.read _) fun _ => .bind (.subs fun s => h _ _ s) fun _ =>
      .bind ih fun _ => .pure _

theorem handleRepublish_along : Along view R (handleRepublish cfg caller) :=
  .bind (.read _) fun _ => .bind (.read _) fun _ => .bind (.read _) fun _ => .bind .getSubs fun _ =>
    .bind (.check _) fun _ => .bind (.respondPrefix _ _ _ _ _) fun _ => .bind (.put _) fun _ =>
      .finish

theorem createItems_along {context : ItemContext} (h : ∀ body node, PublishM.Along view R
      (modifyGet fun e : Engine ω κ => e.allocateItem cfg context body node)) (n : Nat) :
    Along view R (createItems cfg context n) := by
  induction n with
  | zero => exact .pure ()
  | succ n ih =>
    refine .bind (.engine fun _ => .refl) fun e => .bind (.read _) fun body => ?_
    split
    · exact .bind (.unchecked (.put _)) fun _ => ih
    rename_i node _
    refine .bind (.bind (.engine (h body node)) fun result => ?_) fun _ => ih
    cases result <;> exact .put _

theorem checkItems_along (header : ItemsHeader) :
    Along view R (checkItems caller header : ServiceM ω κ Subscription) :=
  .bind (.refuseIf _ _) fun _ => .bind .getSubs fun _ => .bind (.check _) fun _ =>
    .bind (.refuseIf _ _) fun _ => .pure _

theorem handleCreateMonitoredItems_along (h : ∀ context body node, PublishM.Along view R
      (modifyGet fun e : Engine ω κ => e.allocateItem cfg context body node)) :
    Along view R (handleCreateMonitoredItems cfg caller) :=
  .bind (.read _) fun _ => .bind (.read _) fun _ => .bind (.refuseIf _ _) fun _ =>
    .bind (checkItems_along _) fun _ => .bind (.respondPrefix _ _ _ _ _) fun _ =>
      .bind (.put _) fun _ => .bind (.tickMs _) fun _ =>
        .bind (createItems_along (h _) _) fun _ => .bind (.put _) fun _ => .finish

theorem handleSetMonitoringMode_along
    (h : ∀ subscriptionId mode monitoredItemId, PublishM.Along view R
      (setMonitoringModeResult cfg subscriptionId mode monitoredItemId)) :
    Along view R (handleSetMonitoringMode cfg caller) :=
  .bind (.read _) fun _ => .bind (.read _) fun _ => .bind (.read _) fun _ =>
    driveSubscriptionIdStatusArray_along fun id => h _ _ id

theorem handleDeleteMonitoredItems_along
    (h : ∀ subscriptionId monitoredItemId s diag, Relation.ReflTransGen R (view s diag)
      (view (s.monitoredItemDelete subscriptionId monitoredItemId).2 diag)) :
    Along view R (handleDeleteMonitoredItems cfg caller) := by
  refine .bind (.read _) fun _ => .bind (.read _) fun subscriptionId =>
    driveSubscriptionIdStatusArray_along fun id e => ?_
  have hdelete := h subscriptionId id e.subs e.diag
  unfold deleteMonitoredItemResult
  rw [ensures_modifyGet]
  generalize e.subs.monitoredItemDelete subscriptionId id = r at hdelete ⊢
  obtain ⟨result,subs⟩ := r
  cases result <;> exact hdelete

theorem handleSetTriggering_along
    (hadd : ∀ subscriptionId triggeringItemId ids s diag, Relation.ReflTransGen R (view s diag)
      (view (linkAll (fun id s => Subs.addTriggerLink s cfg.caps subscriptionId triggeringItemId id)
        ids s).2 diag))
    (hremove : ∀ subscriptionId triggeringItemId ids s diag, Relation.ReflTransGen R (view s diag)
      (view (linkAll (fun id s => Subs.removeTriggerLink s subscriptionId triggeringItemId id)
        ids s).2 diag)) : Along view R (handleSetTriggering cfg caller) :=
  .bind (.read _) fun _ => .bind (.read _) fun _ => .bind (.read _) fun _ =>
    .bind (.read _) fun _ => .bind (.read _) fun _ => .bind (.refuseIf _ _) fun _ =>
      .bind .getSubs fun _ => .bind (.refuseIf _ _) fun _ => .bind (.refuseIf _ _) fun _ =>
        .bind (.subs fun s => hadd _ _ _ s) fun _ => .bind (.subs fun s => hremove _ _ _ s)
          fun _ => .bind (.respondPrefix _ _ _ _ _) fun _ => .bind (.put _) fun _ =>
            .bind (.put _) fun _ => .finish

end Handlers

/-! ## The tables -/

section Tables

variable {cfg : EngineConfig ω κ} {A : Allowed} {s : Subs ω κ}

theorem Subs.setSubscription_self
    (h : s.subscription? index = some sub) : s.setSubscription index (some sub) = s := by
  obtain ⟨hlt,hget⟩ := List.getElem?_eq_some_iff.mp (Subs.subscription?_eq_some.mp h)
  have hset : s.subscriptions.set index (some sub) = s.subscriptions := by
    rw [← hget]
    exact List.set_getElem_self hlt
  unfold Subs.setSubscription
  rw [hset]

theorem publishRequestQueueClear_moved (s : Subs ω κ) (sessionId : UInt32) :
    Move cfg A s (s.publishRequestQueueClear sessionId) := by
  refine .drop _ (Slotwise.map fun slot _ => ?_)
  cases slot with
  | none => exact .inl rfl
  | some request =>
    rw [Option.filter_some]
    split
    · exact .inl rfl
    · exact .inr rfl

theorem clearIfUnsubscribed_moved (s : Subs ω κ) (sessionId : UInt32) :
    Moved cfg A s (s.clearIfUnsubscribed sessionId) := by
  unfold Subs.clearIfUnsubscribed
  split
  · exact .single (publishRequestQueueClear_moved s sessionId)
  · exact .refl

theorem subscriptionCreate_moved (s : Subs ω κ) (sessionId : UInt32)
    (p : Subs.SubscriptionParameters) (publishingEnabled : Bool) (nowMs : UInt64) :
    Moved cfg A s (s.subscriptionCreate sessionId p publishingEnabled nowMs).2 := by
  unfold Subs.subscriptionCreate
  split
  · exact .refl
  rename_i index hfree
  dsimp only
  have hunused := Subs.allocateId_unused s.subscriptionIdInUse (s.subscriptions.length + 1)
    s.nextSubscriptionId
  generalize Subs.allocateId s.subscriptionIdInUse (s.subscriptions.length + 1)
    s.nextSubscriptionId = allocated at hunused ⊢
  have hcounter : Move cfg A s { s with nextSubscriptionId := allocated.2 } := .counters _ _ _
  have hfree' : ({ s with nextSubscriptionId := allocated.2 } : Subs ω κ).subscriptions[index]? =
      some none := freeSlot_some hfree
  split
  · exact .single hcounter
  rename_i hid
  refine .head hcounter (.single ?_)
  exact Move.createSubscription index _ hfree' rfl (hunused hid) rfl rfl

theorem subscriptionModify_moved (p : Subs.SubscriptionParameters) (s : Subs ω κ) :
    Moved cfg A s (s.subscriptionModify sessionId subscriptionId p).2 := by
  unfold Subs.subscriptionModify
  split
  · exact .refl
  split
  · exact .refl
  · next sub hsub => exact .single (Move.of_setSubscription hsub ⟨rfl,rfl,rfl,rfl⟩)

theorem setPublishingMode_moved (publishingEnabled : Bool) (s : Subs ω κ) :
    Moved cfg A s (s.setPublishingMode sessionId publishingEnabled subscriptionId).2 := by
  unfold Subs.setPublishingMode
  split
  · exact .refl
  rename_i index _
  split
  · exact .refl
  rename_i sub hsub
  have hmode : Move cfg A s (s.setSubscription index
      (some { sub with publishingEnabled := publishingEnabled })) :=
    Move.of_setSubscription hsub ⟨rfl,rfl,rfl,rfl⟩
  split
  · exact .single (Move.of_setSubscription hsub ⟨rfl,rfl,rfl,rfl⟩)
  · exact .head hmode (.single (publishRequestQueueClear_moved _ _))

theorem acknowledge_moved (sequenceNumber : UInt32) (s : Subs ω κ) :
    Moved cfg A s (s.acknowledge sessionId subscriptionId sequenceNumber).2 := by
  unfold Subs.acknowledge
  split
  · exact .refl
  rename_i index _
  split
  · exact .refl
  rename_i sub hsub
  have hmove : Move cfg A s _ := Move.acknowledge index sub sequenceNumber hsub
  split
  · next hholds =>
    rw [if_pos hholds] at hmove
    exact .single hmove
  rename_i hholds
  rw [if_neg hholds] at hmove
  have hself : (s.log (.acknowledged sub.uid sequenceNumber)).setSubscription index (some sub) =
      s.log (.acknowledged sub.uid sequenceNumber) := Subs.setSubscription_self hsub
  rw [hself] at hmove
  exact .single hmove

theorem publishRequestEnqueue_moved (s : Subs ω κ) (sessionId requestId requestHandle : UInt32)
    (nowMs : UInt64) (timeoutHint : UInt32)
    (ackResults : { results : List StatusCode // results.length ≤ maxPublishAcks }) :
    Moved cfg A s (s.publishRequestEnqueue sessionId requestId requestHandle nowMs timeoutHint
      ackResults).2 := by
  unfold Subs.publishRequestEnqueue
  split
  · exact .refl
  · next index hfree => exact .single (.park index _ (freeSlot_some hfree) rfl)

theorem transfer_moved (s : Subs ω κ)
    (hsub : s.subscription? index = some sub) (newSessionId : UInt32) :
    Moved cfg A s (s.transfer index sub newSessionId) := by
  have hmoved : Move cfg A s
      (s.setSubscription index (some { sub with sessionId := newSessionId })) :=
    Move.of_setSubscription hsub ⟨rfl,rfl,rfl,rfl⟩
  unfold Subs.transfer
  dsimp only
  split
  · exact .tail (.single hmoved) (publishRequestQueueClear_moved _ _)
  · exact .single hmoved

theorem resetReported_moved (s : Subs ω κ) : Move cfg A s (s.resetReported subscriptionId) := by
  refine Move.of_mapItems fun item item' h => ?_
  cases h
  split
  · exact ⟨rfl,rfl,rfl,MonitoredItem.fixed_eq rfl rfl rfl rfl rfl,.inl .refl⟩
  · exact ItemMove.refl item

theorem monitoredItemDelete_moved (s : Subs ω κ) (subscriptionId monitoredItemId : UInt32) :
    Moved cfg A s (s.monitoredItemDelete subscriptionId monitoredItemId).2 := by
  unfold Subs.monitoredItemDelete
  split
  · exact .refl
  rename_i index _
  have hreleased : Move cfg A s (s.setItem index none) :=
    .items _ (Slotwise.modify SlotMove.refl fun _ _ => .inl rfl)
  exact .tail (.single hreleased) (.counters _ _ _)

theorem Subs.Relinked.moved {s' : Subs ω κ} (h : s.Relinked s') : Moved cfg A s s' := by
  rcases h with rfl | ⟨index,item,links,hitem,rfl,-,-⟩
  · exact .refl
  · exact .single (Move.of_setItem hitem
      ⟨rfl,rfl,rfl,MonitoredItem.fixed_eq rfl rfl rfl rfl rfl,.inl .refl⟩)

theorem linkAll_moved {link : UInt32 → Subs ω κ → StatusCode × Subs ω κ}
    (h : ∀ id s, Moved cfg A s (link id s).2) (ids : List UInt32) (s : Subs ω κ) :
    Moved cfg A s (linkAll link ids s).2 := by
  induction ids generalizing s with
  | nil => exact .refl
  | cons id ids ih => exact (h id s).trans (ih _)

end Tables

/-! ## The services on subscriptions -/

section Subscriptions

variable {cfg : EngineConfig ω κ} {A : Allowed}

theorem Caller.boundTo : BoundTo caller.toLink caller.sessionId :=
  ⟨caller.session,caller.session_mem,by rw [caller.activated]; decide,rfl,caller.bound⟩

theorem Caller.mayAnswer (s : Subs ω κ) : MayAnswer A s caller.sessionId caller.toLink := by
  intro request _ hsession
  apply A.route_bound
  rw [hsession]
  exact caller.boundTo

theorem handleCreateSubscription_serves : Serves cfg A (handleCreateSubscription cfg caller) :=
  .bind (.read _) fun _ => .bind (.read _) fun _ => .bind (.read _) fun _ =>
    .bind (.read _) fun _ => .bind (.tickMs _) fun _ =>
      .bind (.subs fun s _ => subscriptionCreate_moved s _ _ _ _) fun _ =>
        .bind (.check _) fun _ => .bind (.engine fun _ => .refl) fun _ =>
          .bind (.respondPrefix _ _ _ _ _) fun _ => .bind (.put _) fun _ =>
            .bind (.put _) fun _ => .finish

theorem engineSubscriptionDelete_moved (sessionId subscriptionId : UInt32) :
    Moved cfg A e.subs (e.subscriptionDelete sessionId subscriptionId).2.subs := by
  have h : Moved cfg A e.subs (e.subs.subscriptionDelete sessionId subscriptionId).2 :=
    subscriptionDelete_moved e.subs sessionId subscriptionId
  unfold Engine.subscriptionDelete
  split
  · next hdelete =>
    rw [hdelete] at h
    exact h
  rename_i hdelete
  rw [hdelete] at h
  exact h

theorem notifyDeletion_moved : Ensures (notifyDeletion cfg caller subscriptionId) e fun _ e' =>
      Moved cfg A e.subs e'.subs := by
  unfold notifyDeletion
  rw [ensures_bind,ensures_get]
  dsimp only
  split
  · exact .refl
  rename_i index hfind
  obtain ⟨sub,hsub,hsession,-⟩ := Subs.subscriptionFind_some hfind
  rw [hsub]
  refine Ensures.mono (issueStatusChangeNotification_moved (A := A) hsub ?_) fun _ _ h => h.moved
  rw [hsession]
  exact caller.mayAnswer _

theorem deleteSubscriptionResult_moved :
    Ensures (deleteSubscriptionResult cfg caller subscriptionId) e fun _ e' =>
      Moved cfg A e.subs e'.subs := by
  unfold deleteSubscriptionResult
  rw [ensures_bind]
  refine (notifyDeletion_moved (A := A) caller subscriptionId e).mono fun _ e₁ h => ?_
  exact (h.trans (engineSubscriptionDelete_moved e₁ _ _)).trans (clearIfUnsubscribed_moved _ _)

theorem publishRequestEvictOldest_spec (cfg : EngineConfig ω κ) (link : Link) (sessionId : UInt32)
    (e : Engine ω κ) :
    Ensures (publishRequestEvictOldest cfg link sessionId) e fun evicted e' =>
      e'.diag = e.diag ∧ ((evicted = false ∧ e'.subs = e.subs) ∨
        ∃ request i, evicted = true ∧ Taken e.subs sessionId request i ∧
          (e'.subs = e.subs.dropRequest i ∨ e'.subs = (e.subs.dropRequest i).log
              (.answered request link (.fault Status.badTooManyPublishRequests.val)))) := by
  unfold publishRequestEvictOldest
  rw [ensures_bind]
  refine (dequeueRequest_spec sessionId e).mono fun result e₁ hdequeue => ?_
  cases result with
  | none =>
    cases hdequeue
    exact ⟨rfl,.inl ⟨rfl,rfl⟩⟩
  | some request =>
    obtain ⟨i,htaken,rfl⟩ := hdequeue
    rw [ensures_bind]
    refine (emitFault_spec cfg link request _ _).mono fun _ e₂ ⟨hdiag,h⟩ => ?_
    exact ⟨hdiag,.inr ⟨request,i,rfl,htaken,h⟩⟩

theorem publishRequestEvictOldest_moved :
    Ensures (publishRequestEvictOldest cfg caller.toLink caller.sessionId) e fun _ e' =>
      Moved cfg A e.subs e'.subs := by
  refine (publishRequestEvictOldest_spec cfg caller.toLink caller.sessionId e).mono
    fun _ e' ⟨_,h⟩ => ?_
  rcases h with ⟨-,hsubs⟩ | ⟨request,i,-,htaken,hsubs | hsubs⟩
  · rw [hsubs]
  · rw [hsubs]
    exact .single (Move.of_dropRequest e.subs i)
  · rw [hsubs]
    exact .single (Move.fault i request _ _ htaken.parked ((caller.mayAnswer _).route htaken))

theorem parkRequest_moved (req : RequestHeader)
    (ackResults : { results : List StatusCode // results.length ≤ maxPublishAcks })
    (e : Engine ω κ) :
    Ensures (parkRequest cfg caller req ackResults) e fun _ e' => Moved cfg A e.subs e'.subs := by
  unfold parkRequest
  rw [ensures_bind]
  have htick : Ensures (tickMs cfg) e fun _ e₁ => e₁.subs = e.subs := rfl
  refine htick.mono fun nowMs e₁ h₁ => ?_
  rw [← h₁]
  have henqueue (e : Engine ω κ) : Moved cfg A e.subs (e.subs.publishRequestEnqueue caller.sessionId
      caller.requestId req.requestHandle nowMs req.timeoutHint ackResults).2 :=
    publishRequestEnqueue_moved e.subs _ _ _ _ _ _
  rw [ensures_bind,ensures_modifyGet]
  split
  · exact henqueue e₁
  rw [ensures_bind]
  refine (publishRequestEvictOldest_moved (A := A) caller _).mono fun evicted e₂ h₂ => ?_
  split
  · rw [ensures_modifyGet]
    exact ((henqueue e₁).trans h₂).trans (henqueue e₂)
  · exact (henqueue e₁).trans h₂

theorem handlePublish_serves : Serves cfg A (handlePublish cfg caller) :=
  .bind (.read _) fun _ => .bind (.read _) fun _ => .bind (.refuseIf _ _) fun _ =>
    .bind (readAcknowledgements_along (fun _ _ s _ => acknowledge_moved _ _ _ s) _) fun _ =>
      .bind .getSubs fun _ => .bind (.refuseIf _ _) fun _ =>
        .bind (.engine fun e => parkRequest_moved caller _ _ e) fun _ => .bind (.check _) fun _ =>
          .pure _

end Subscriptions

/-! ## Transfer -/

section Transfer

variable {cfg : EngineConfig ω κ} {A : Allowed}

/-- The subscription in a slot went over to a session; the others stay with theirs. -/
structure TransferredTo (sessionId : UInt32) (index : Nat) (sub : Subscription)
    (s s' : Subs ω κ) : Prop where
  here : ∃ sub', s'.subscription? index = some sub' ∧ sub'.sessionId = sessionId ∧
    sub'.subscriptionId = sub.subscriptionId
  elsewhere : ∀ index', index' ≠ index → s'.subscription? index' = s.subscription? index'
  queue : ∀ request, some request ∈ s'.publishQueue → some request ∈ s.publishQueue

theorem mem_publishRequestQueueClear {s : Subs ω κ} {sessionId : UInt32} {request : PublishRequest}
    (h : some request ∈ (s.publishRequestQueueClear sessionId).publishQueue) :
    some request ∈ s.publishQueue := by
  obtain ⟨slot,hslot,hfilter⟩ := List.mem_map.mp h
  rw [(Option.filter_eq_some_iff.mp hfilter).1] at hslot
  exact hslot

theorem transfer_transferredTo {s : Subs ω κ}
    (hsub : s.subscription? index = some sub) (newSessionId : UInt32) :
    TransferredTo newSessionId index sub s (s.transfer index sub newSessionId) := by
  have hset : TransferredTo newSessionId index sub s
      (s.setSubscription index (some { sub with sessionId := newSessionId })) :=
    ⟨⟨_,Subs.subscription?_setSubscription hsub _,rfl,rfl⟩,
      fun _ hne => Subs.subscription?_setSubscription_ne (Ne.symm hne) _,fun _ h => h⟩
  unfold Subs.transfer
  dsimp only
  split
  · exact ⟨hset.here,hset.elsewhere,fun _ h => mem_publishRequestQueueClear h⟩
  · exact hset

theorem moveSubscription_answered (index : Nat) (sub : Subscription) (e : Engine ω κ) :
    Ensures (moveSubscription cfg caller sendInitial index sub) e fun _ e' => ∃ s₁,
      Answered caller.toLink e.subs index sub (.statusChange Status.goodSubscriptionTransferred) []
        e.subs.monitoredItems sub.currentSequenceNumber.statusChanged s₁ ∧
      e'.subs = s₁.handOver caller.sessionId sendInitial index sub.subscriptionId := by
  unfold moveSubscription
  rw [ensures_bind]
  exact (issueStatusChangeNotification_answered cfg caller.toLink index sub _ e).mono
    fun _ e₁ h => ⟨e₁.subs,h.2,rfl⟩

theorem resetIf_subscription? (subscriptionId : UInt32) (s : Subs ω κ) (index : Nat) :
    (if sendInitial then s.resetReported subscriptionId else s).subscription? index =
      s.subscription? index := by
  split <;> rfl

theorem handOver_transferredTo {s s₁ : Subs ω κ} (h : SlotKept index sub s s₁) :
    TransferredTo sessionId index sub s
      (s₁.handOver sessionId sendInitial index sub.subscriptionId) := by
  obtain ⟨sub₁,hsub₁,hpublished⟩ := h.here
  have hreset := resetIf_subscription? sendInitial sub.subscriptionId s₁
  have hqueue : (if sendInitial then s₁.resetReported sub.subscriptionId else s₁).publishQueue =
      s₁.publishQueue := by
    split <;> rfl
  unfold Subs.handOver
  dsimp only
  generalize (if sendInitial then s₁.resetReported sub.subscriptionId else s₁) = s₂
    at hreset hqueue ⊢
  have hsub₂ : s₂.subscription? index = some sub₁ := (hreset index).trans hsub₁
  rw [hsub₂]
  obtain ⟨⟨sub',hsub',hsession',hid'⟩,helse,hmem⟩ :=
    transfer_transferredTo hsub₂ sessionId
  refine ⟨⟨sub',hsub',hsession',hid'.trans hpublished.subscriptionId⟩,fun index' hne => ?_,
    fun request hr => ?_⟩
  · rw [helse index' hne,hreset index',h.elsewhere index' hne]
  · apply h.queue
    rw [← hqueue]
    exact hmem request hr

theorem handOver_moved (index : Nat)
    (s : Subs ω κ) : Moved cfg A s (s.handOver sessionId sendInitial index subscriptionId) := by
  have hreset : Moved cfg A s (if sendInitial then s.resetReported subscriptionId else s) := by
    split
    · exact .single (resetReported_moved _ s)
    · exact .refl
  unfold Subs.handOver
  dsimp only
  split
  · exact hreset
  · next hsub => exact hreset.trans (transfer_moved _ hsub _)

/-- What the transfer of one id can do: nothing if the result is bad, and else the subscription with
the id goes over to the caller. -/
inductive TransferOutcome (cfg : EngineConfig ω κ) (caller : Caller) (subscriptionId : UInt32)
    (e : Engine ω κ) : StatusCode × Option UInt32 → Engine ω κ → Prop where
  | refused (status : BadStatus) :
      TransferOutcome cfg caller subscriptionId e (status.val, none) e
  | transferred (index : Nat) (sub : Subscription) (e' : Engine ω κ)
      (hsub : e.subs.subscription? index = some sub) (hid : sub.subscriptionId = subscriptionId)
      (hfind : e.subs.subscriptionFindAny subscriptionId = some index)
      (hother : sub.sessionId ≠ caller.sessionId) (hmay : mayTransfer cfg caller e.world sub = true)
      (hto : TransferredTo caller.sessionId index sub e.subs e'.subs)
      (hmoved : ∀ A, MayAnswer A e.subs sub.sessionId caller.toLink → Moved cfg A e.subs e'.subs) :
      TransferOutcome cfg caller subscriptionId e
        (Status.good, sub.retransmit.map RetainedMessage.sequenceNumber) e'

theorem transferSubscription_outcome (subscriptionId : UInt32) (e : Engine ω κ) :
    Ensures (transferSubscription cfg caller sendInitial subscriptionId) e fun result e' =>
      TransferOutcome cfg caller subscriptionId e result e' := by
  unfold transferSubscription
  rw [ensures_bind,ensures_get]
  split
  · exact .refused Status.badSubscriptionIdInvalid
  rename_i index hfind
  obtain ⟨sub,hsub,hid⟩ := Subs.subscriptionFindAny_some hfind
  rw [hsub]
  dsimp only
  split
  · exact .refused Status.badNothingToDo
  rename_i hother
  split
  · next hmay =>
    rw [ensures_bind]
    refine (moveSubscription_answered caller sendInitial index sub e).mono
      fun _ e₁ ⟨s₁,hanswered,hs₁⟩ => ?_
    refine .transferred index sub e₁ hsub hid hfind hother hmay ?_ fun A hmayA => ?_
    · rw [hs₁]
      exact handOver_transferredTo _ sendInitial (hanswered.kept hsub statusChanged_published)
    · rw [hs₁]
      exact (hanswered.moved hsub hmayA (.inl ⟨rfl,rfl⟩) fun _ => statusChanged_notified).trans
        (handOver_moved _ _ sendInitial index s₁)
  · exact .refused Status.badUserAccessDenied

/-- What is allowed of a TransferSubscriptions request for some ids: a subscription of another
session is refused, or the parked requests of its owner may be answered on the caller's connection. -/
def MayTransferAll (cfg : EngineConfig ω κ) (A : Allowed) (caller : Caller) (ids : List UInt32)
    (s : Subs ω κ) : Prop :=
  ∀ index sub, s.subscription? index = some sub → sub.subscriptionId ∈ ids →
    sub.sessionId ≠ caller.sessionId → (∀ world, mayTransfer cfg caller world sub = false) ∨
      MayAnswer A s sub.sessionId caller.toLink

theorem TransferOutcome.mayTransferAll {caller : Caller} {subscriptionId : UInt32}
    {ids : List UInt32} {e e' : Engine ω κ} {result : StatusCode × Option UInt32}
    (h : TransferOutcome cfg caller subscriptionId e result e')
    (hmay : MayTransferAll cfg A caller ids e.subs) : MayTransferAll cfg A caller ids e'.subs := by
  cases h with
  | refused => exact hmay
  | transferred index sub _ _ _ _ _ _ hto =>
    intro index' sub' hsub' hid' hother'
    by_cases hindex : index' = index
    · -- the one that went over is the caller's now
      obtain ⟨sub₁,hsub₁,hsession₁,-⟩ := hto.here
      rw [hindex,hsub₁] at hsub'
      cases hsub'
      exact absurd hsession₁ hother'
    rw [hto.elsewhere index' hindex] at hsub'
    refine (hmay index' sub' hsub' hid' hother').imp_right fun hanswer request hr => ?_
    exact hanswer request (hto.queue request hr)

theorem TransferOutcome.moved {caller : Caller} {subscriptionId : UInt32} {ids : List UInt32}
    {e e' : Engine ω κ} {result : StatusCode × Option UInt32}
    (h : TransferOutcome cfg caller subscriptionId e result e') (hmem : subscriptionId ∈ ids)
    (hmay : MayTransferAll cfg A caller ids e.subs) : Moved cfg A e.subs e'.subs := by
  cases h with
  | refused => exact .refl
  | transferred index sub _ hsub hid _ hother hallowed _ hmoved =>
    apply hmoved
    rcases hmay index sub hsub (hid ▸ hmem) hother with hrefused | hanswer
    · rw [hrefused] at hallowed
      cases hallowed
    · exact hanswer

theorem transferAll_moved (ids all : List UInt32) (hids : ids ⊆ all) (work : Work ω κ)
    (hmay : MayTransferAll cfg A caller all work.engine.subs) :
    Ensures (transferAll cfg caller sendInitial ids).run work fun _ work' =>
      Moved cfg A work.engine.subs work'.engine.subs := by
  induction ids generalizing work with
  | nil => exact .refl
  | cons id ids ih =>
    rw [transferAll,ensures_exceptBind,ServiceM.ensures_run_engine]
    refine (transferSubscription_outcome caller sendInitial id work.engine).mono
      fun result e₁ houtcome => ?_
    have hmoved := houtcome.moved (hids List.mem_cons_self) hmay
    have hmay₁ := houtcome.mayTransferAll hmay
    refine ServiceM.ensures_keeps_bind (.respond _) ?_ fun _ work₁ hsubs _ => ?_
    · intro status work₁ hsubs
      rw [hsubs]
      exact hmoved
    · have hrest := ih (fun id hid => hids (List.mem_cons_of_mem _ hid)) work₁ (by rwa [hsubs])
      refine hrest.mono fun _ work₂ h => ?_
      rw [hsubs] at h
      exact hmoved.trans h

end Transfer

/-! ## The services on monitored items -/

section Items

variable {cfg : EngineConfig ω κ} {A : Allowed}

theorem readFirstValue_kept (item : MonitoredItem ω κ) (body : CreateBody) (node : Node ω)
    (world : ω) : (item.readFirstValue body node world).1.uid = item.uid ∧
      (item.readFirstValue body node world).1.queue = item.queue := by
  unfold MonitoredItem.readFirstValue
  split
  · exact ⟨rfl,rfl⟩
  · split <;> exact ⟨rfl,rfl⟩

theorem configureMonitoredItem_ok (cfg : EngineConfig ω κ) (world : ω)
    (subscriptionId monitoredItemId : UInt32) (uid : Nat)
    (body : CreateBody) (node : Node ω) (sub : Subscription) (timestampsToReturn : UInt32)
    (nowMs : UInt64) :
    (configureMonitoredItem cfg world (Subs.newItem cfg subscriptionId monitoredItemId uid) body node
      sub timestampsToReturn nowMs).1.uid = uid ∧
    (configureMonitoredItem cfg world (Subs.newItem cfg subscriptionId monitoredItemId uid) body node
      sub timestampsToReturn nowMs).1.queue.Ok cfg.caps := by
  have hkept := readFirstValue_kept ((Subs.newItem cfg subscriptionId monitoredItemId uid).configured
    cfg world body node sub timestampsToReturn nowMs) body node world
  refine ⟨hkept.1,?_⟩
  unfold configureMonitoredItem
  rw [hkept.2]
  exact ⟨⟨List.length_replicate,clampQueueSize_pos _ _,clampQueueSize_le _ _,
    clampQueueSize_pos _ _,rfl,Nat.zero_le _,fun _ => rfl⟩,fun _ h => (nomatch h),.nil⟩

/-- CreateMonitoredItems leaves the tables as they are, up to a counter, or takes up a free slot. -/
theorem allocateItem_cases (cfg : EngineConfig ω κ) (context : ItemContext) (body : CreateBody)
    (node : Node ω) (e : Engine ω κ) :
    (e.allocateItem cfg context body node).2.diag = e.diag ∧ ∃ nextMonitoredItemId,
      (e.allocateItem cfg context body node).2.subs = { e.subs with nextMonitoredItemId } ∨
      ∃ index, e.subs.items[index]? = some none ∧ ∃ id,
        (e.allocateItem cfg context body node).2.subs = ({ e.subs with
              nextMonitoredItemId
              activeMonitoredItemsCount := e.subs.activeMonitoredItemsCount + 1 } :
            Subs ω κ).nextUid.setItem index (some (configureMonitoredItem cfg e.world
              (Subs.newItem cfg context.subscriptionId id e.subs.history.nextUid) body node
              context.sub context.timestampsToReturn context.nowMs).1) := by
  unfold Engine.allocateItem Subs.monitoredItemAlloc
  cases hfree : freeSlot e.subs.items with
  | none => exact ⟨rfl,_,.inl rfl⟩
  | some index =>
    dsimp only
    generalize Subs.allocateId e.subs.monitoredItemIdInUse (e.subs.monitoredItems.length + 1)
      e.subs.nextMonitoredItemId = allocated
    by_cases hid : allocated.1 = 0
    · rw [if_pos hid]
      exact ⟨rfl,allocated.2,.inl rfl⟩
    rw [if_neg hid]
    refine ⟨rfl,allocated.2,.inr ⟨index,freeSlot_some hfree,allocated.1,?_⟩⟩
    -- the slot is filled twice
    simp only [Subs.setItem,List.modify_modify_eq]
    rfl

theorem allocateItem_moved (context : ItemContext) (body : CreateBody) (node : Node ω)
    (e : Engine ω κ) : Moved cfg A e.subs (e.allocateItem cfg context body node).2.subs := by
  obtain ⟨-,next,hsame | ⟨index,hfree,id,hset⟩⟩ := allocateItem_cases cfg context body node e
  · rw [hsame]
    exact .single (.counters _ _ _)
  rw [hset]
  obtain ⟨huid,hqueue⟩ := configureMonitoredItem_ok cfg e.world context.subscriptionId id
    e.subs.history.nextUid body node context.sub context.timestampsToReturn context.nowMs
  refine .head (.counters e.subs.nextSubscriptionId next (e.subs.activeMonitoredItemsCount + 1))
    (.single ?_)
  exact .createItem index _ hfree huid hqueue

theorem setMonitoringMode_kept (item : MonitoredItem ω κ) (mode : UInt8) (world : ω) :
    ItemMove cfg.caps A item (item.setMonitoringMode cfg mode world).1 := by
  unfold MonitoredItem.setMonitoringMode
  split
  · unfold MonitoredItem.readOnEnable
    dsimp only
    split <;> exact ⟨rfl,rfl,rfl,MonitoredItem.fixed_eq rfl rfl rfl rfl rfl,.inl .refl⟩
  · exact ⟨rfl,rfl,rfl,MonitoredItem.fixed_eq rfl rfl rfl rfl rfl,.inl .refl⟩

theorem engineSetMonitoringMode_moved (mode monitoredItemId : UInt32) (e : Engine ω κ) :
    Moved cfg A e.subs (e.setMonitoringMode cfg subscriptionId mode monitoredItemId).2.subs := by
  unfold Engine.setMonitoringMode
  split
  · exact .refl
  split
  · exact .refl
  · next item hitem => exact .single (Move.of_setItem hitem (setMonitoringMode_kept item _ _))

theorem handleSetTriggering_serves : Serves cfg A (handleSetTriggering cfg caller) :=
  handleSetTriggering_along
    (fun _ _ ids s _ => linkAll_moved (fun id s => (s.addTriggerLink_relinked _ _ _ id).moved) ids s)
    (fun _ _ ids s _ => linkAll_moved (fun id s => (s.removeTriggerLink_relinked _ _ id).moved) ids s)

/-! ### ModifyMonitoredItems -/

def MayModifyAll (cfg : EngineConfig ω κ) (A : Allowed) (subscriptionId : UInt32)
    (entries : List ModifyBody) (s : Subs ω κ) : Prop :=
  ∀ body ∈ entries, ∀ (index : Nat) (item : MonitoredItem ω κ),
    s.items[index]? = some (some item) → item.subscriptionId = subscriptionId →
    item.monitoredItemId = body.monitoredItemId →
      A.resize item.queue (clampQueueSize cfg.caps body.queueSize.toNat)

theorem applyModifyItemFilters_kept (cfg : EngineConfig ω κ) (item : MonitoredItem ω κ)
    (modify : ModifyFilter) (nowMs : UInt64) :
    (item.applyModifyItemFilters cfg modify nowMs).uid = item.uid ∧
      (item.applyModifyItemFilters cfg modify nowMs).monitoredItemId = item.monitoredItemId ∧
      (item.applyModifyItemFilters cfg modify nowMs).subscriptionId = item.subscriptionId ∧
      (item.applyModifyItemFilters cfg modify nowMs).fixed = item.fixed ∧
      (item.applyModifyItemFilters cfg modify nowMs).queue = item.queue := by
  unfold MonitoredItem.applyModifyItemFilters
  split <;> split <;> exact ⟨rfl,rfl,rfl,MonitoredItem.fixed_eq rfl rfl rfl rfl rfl,rfl⟩

theorem modifyItem_cases (cfg : EngineConfig ω κ) (header : ItemsHeader) (body : ModifyBody)
    (e : Engine ω κ) :
    (e.modifyItem cfg header body).2.subs = e.subs ∨ ∃ index item item',
      e.subs.items[index]? = some (some item) ∧ item.subscriptionId = header.subscriptionId ∧
      item.monitoredItemId = body.monitoredItemId ∧ item'.uid = item.uid ∧
      item'.monitoredItemId = item.monitoredItemId ∧ item'.subscriptionId = item.subscriptionId ∧
      item'.fixed = item.fixed ∧ item'.queue = { item.queue with
        size := clampQueueSize cfg.caps body.queueSize.toNat, discardOldest := body.discardOldest } ∧
      (e.modifyItem cfg header body).2.subs = e.subs.setItem index (some item') := by
  unfold Engine.modifyItem
  split
  · exact .inl rfl
  rename_i index hfind
  obtain ⟨item,hitem,hsubscription,hid⟩ := Subs.findMonitoredItem_some hfind
  rw [Subs.item?_eq_some.mpr hitem]
  dsimp only
  split
  · exact .inl rfl
  split
  · exact .inl rfl
  have hsubs (present : Bool) : (e.tickIf cfg present).2.subs = e.subs := by
    unfold Engine.tickIf
    split <;> rfl
  obtain ⟨huid,hid',hsubscription',hfixed,hqueue⟩ := applyModifyItemFilters_kept cfg
    (item.applyModifyItemFields cfg body header.timestampsToReturn) body.filter
    (e.tickIf cfg body.filter.hasAggregateFilter).1
  refine .inr ⟨index,item,_,hitem,hsubscription,hid,huid,hid',hsubscription',hfixed,hqueue,?_⟩
  rw [hsubs]

theorem modifyItem_moved {header : ItemsHeader} {entries : List ModifyBody} {body : ModifyBody}
    {e : Engine ω κ} (hbody : body ∈ entries)
    (hmay : MayModifyAll cfg A header.subscriptionId entries e.subs) :
    Moved cfg A e.subs (e.modifyItem cfg header body).2.subs ∧
      MayModifyAll cfg A header.subscriptionId entries (e.modifyItem cfg header body).2.subs := by
  rcases modifyItem_cases cfg header body e with
    hsame | ⟨index,item,item',hitem,hsubscription,hid,huid,hid',hsubscription',hfixed,hqueue,hset⟩
  · rw [hsame]
    exact ⟨.refl,hmay⟩
  have hresize := hmay body hbody index item hitem hsubscription hid
  rw [hset]
  refine ⟨.single (Move.of_setItem (Subs.item?_eq_some.mpr hitem)
    ⟨huid,hid',hsubscription',hfixed,.inr ⟨_,_,hresize,hqueue⟩⟩),?_⟩
  intro body' hbody' index₁ item₁ hitem₁ hsubscription₁ hid₁
  rw [Subs.items_setItem] at hitem₁
  rcases Slotwise.set_cases hitem₁ with ⟨rfl,hresized⟩ | ⟨-,hitem₁⟩
  · -- the item that was resized may be resized again
    cases hresized
    rw [hqueue]
    refine A.resize_again hresize (hmay body' hbody' _ item hitem hsubscription ?_)
    rw [← hid',hid₁]
  · exact hmay body' hbody' index₁ item₁ hitem₁ hsubscription₁ hid₁

/-- The entries the loop of `handle_modify_monitored_items` can read. -/
def modifyEntries (cfg : EngineConfig ω κ) : Nat → BinaryReader → List ModifyBody
  | 0, _ => []
  | n + 1, reader =>
    match readModifyBody cfg reader with
    | .ok body reader => body :: modifyEntries cfg n reader
    | .error _ _ => []

theorem modifyItems_moved (header : ItemsHeader) (n : Nat) (all : List ModifyBody)
    (work : Work ω κ) (hall : modifyEntries cfg n work.reader ⊆ all)
    (hmay : MayModifyAll cfg A header.subscriptionId all work.engine.subs) :
    Ensures (modifyItems cfg header n).run work fun _ work' =>
      Moved cfg A work.engine.subs work'.engine.subs := by
  induction n generalizing work with
  | zero => exact .refl
  | succ n ih =>
    rw [modifyEntries] at hall
    refine ServiceM.ensures_read_bind (fun _ _ _ => .refl) fun body reader hread => ?_
    rw [hread] at hall
    rw [ensures_exceptBind,ServiceM.ensures_run_engine,ensures_modifyGet]
    obtain ⟨hmoved,hmay₁⟩ := modifyItem_moved (hall List.mem_cons_self) hmay
    refine ServiceM.ensures_keeps_bind (.respond _) ?_ fun _ work₁ hsubs hreader => ?_
    · intro status work₁ hsubs
      rw [hsubs]
      exact hmoved
    · have hrest := ih work₁ (by rw [hreader]; exact fun b hb => hall (List.mem_cons_of_mem _ hb))
        (by rwa [hsubs])
      refine hrest.mono fun _ work₂ h => ?_
      rw [hsubs] at h
      exact hmoved.trans h

end Items

/-! ## What a request is allowed -/

section Requests

variable {cfg : EngineConfig ω κ} {A : Allowed}

def modifyRequest (cfg : EngineConfig ω κ) (body : List UInt8) :
    Option (UInt32 × List ModifyBody) :=
  match (do let _ ← requestHeaderDecode; readItemsHeader) (BinaryReader.init body) with
  | .ok header reader =>
    some (header.subscriptionId, modifyEntries cfg header.count.toInt.toNat reader)
  | .error _ _ => none

def transferRequest (body : List UInt8) : List UInt32 :=
  match (do
      let _ ← requestHeaderDecode
      let count ← binaryReadInt32
      if count.toInt < 0 then return []
      else return (← readMany binaryReadUint32 (min count.toInt.toNat 16)).val)
      (BinaryReader.init body) with
  | .ok ids _ => ids
  | .error _ _ => []

def Permits (cfg : EngineConfig ω κ) (A : Allowed) (caller : Caller) (body : List UInt8)
    (s : Subs ω κ) : Service → Prop
  | .modifyMonitoredItems => ∀ subscriptionId entries,
      modifyRequest cfg body = some (subscriptionId, entries) →
        MayModifyAll cfg A subscriptionId entries s
  | .transferSubscriptions => MayTransferAll cfg A caller (transferRequest body) s
  | _ => True

theorem ensures_moved_bind {s : Subs ω κ} {work : Work ω κ} (hm : m.Keeps)
    (hs : work.engine.subs = s)
    (hrest : ∀ a work', work'.engine.subs = s → work'.reader = work.reader →
      Ensures (f a).run work' fun _ w => Moved cfg A s w.engine.subs) :
    Ensures (m >>= f).run work fun _ w => Moved cfg A s w.engine.subs := by
  subst hs
  refine ServiceM.ensures_keeps_bind hm (fun _ work' h => ?_) hrest
  rw [h]

theorem Serves.ensures (h : Serves cfg A m) {s : Subs ω κ} {work : Work ω κ}
    (hs : Moved cfg A s work.engine.subs) :
    Ensures m.run work fun _ work' => Moved cfg A s work'.engine.subs :=
  (h work).mono fun _ _ hmoved => hs.trans hmoved

theorem checkItems_keeps (header : ItemsHeader) :
    (checkItems caller header : ServiceM ω κ Subscription).Keeps :=
  .bind (.check _) fun _ => .bind .getSubs fun _ => .bind (.check _) fun _ =>
    .bind (.check _) fun _ => fun _ => ⟨rfl,rfl⟩

theorem handleModifyMonitoredItems_moved (body : List UInt8) (work : Work ω κ)
    (hwork : work.reader = BinaryReader.init body)
    (hmay : Permits cfg A caller body work.engine.subs .modifyMonitoredItems) :
    Ensures (handleModifyMonitoredItems cfg caller).run work fun _ work' =>
      Moved cfg A work.engine.subs work'.engine.subs := by
  refine ServiceM.ensures_read_bind (fun _ _ _ => .refl) fun req reader hreq => ?_
  refine ServiceM.ensures_read_bind (fun _ _ _ => .refl) fun header reader' hheader => ?_
  have hrequest : modifyRequest cfg body =
      some (header.subscriptionId, modifyEntries cfg header.count.toInt.toNat reader') := by
    unfold modifyRequest
    rw [← hwork]
    simp only [bind,EStateM.bind,hreq,hheader]
  -- the checks and the head of the response leave the tables
  refine ensures_moved_bind (checkItems_keeps caller header) rfl fun _ work₁ hsubs₁ hreader₁ => ?_
  refine ensures_moved_bind (.respond _) hsubs₁ fun _ work₂ hsubs₂ hreader₂ => ?_
  refine ensures_moved_bind (.respond _) hsubs₂ fun _ work₃ hsubs hreader₃ => ?_
  have hreader : work₃.reader = reader' := hreader₃.trans (hreader₂.trans hreader₁)
  rw [ensures_exceptBind]
  refine (modifyItems_moved header header.count.toInt.toNat _ work₃
    (by rw [hreader]; exact fun _ h => h) (by rw [hsubs]; exact hmay _ _ hrequest)).mono
    fun result work₄ hmoved => ?_
  rw [hsubs] at hmoved
  cases result with
  | error status => exact hmoved
  | ok _ => exact Serves.ensures (.bind (.put _) fun _ => .finish) hmoved

theorem handleTransferSubscriptions_moved (body : List UInt8) (work : Work ω κ)
    (hwork : work.reader = BinaryReader.init body)
    (hmay : Permits cfg A caller body work.engine.subs .transferSubscriptions) :
    Ensures (handleTransferSubscriptions cfg caller).run work fun _ work' =>
      Moved cfg A work.engine.subs work'.engine.subs := by
  refine ServiceM.ensures_read_bind (fun _ _ _ => .refl) fun req reader hreq => ?_
  refine ServiceM.ensures_read_bind (fun _ _ _ => .refl) fun count reader' hcount => ?_
  split
  · exact Serves.ensures (.bind (.unchecked (.respondPrefix _ _ _ _ _)) fun _ => .check _) .refl
  next hnonneg =>
  split
  · exact Serves.ensures (.bind (.respondPrefix _ _ _ _ _) fun _ => .bind (.put _) fun _ =>
      .bind (.put _) fun _ => .finish) .refl
  refine ServiceM.ensures_read_bind (fun _ _ _ => .refl) fun ids reader'' hids => ?_
  have hrequest : transferRequest body = ids.val := by
    unfold transferRequest
    rw [← hwork]
    simp only [bind,EStateM.bind,hreq,hcount,if_neg hnonneg,hids,Pure.pure,EStateM.pure]
  refine ServiceM.ensures_read_bind (fun _ _ _ => .refl) fun sendInitial reader₃ _ => ?_
  refine ensures_moved_bind (.respond _) rfl fun _ work₁ hsubs₁ _ => ?_
  refine ensures_moved_bind (.respond _) hsubs₁ fun _ work₂ hsubs _ => ?_
  have hmay₂ : MayTransferAll cfg A caller ids.val work₂.engine.subs := by
    rw [hsubs,← hrequest]
    exact hmay
  rw [ensures_exceptBind]
  refine (transferAll_moved caller _ ids.val ids.val (fun _ h => h) work₂ hmay₂).mono
    fun result work₃ hmoved => ?_
  rw [hsubs] at hmoved
  cases result with
  | error status => exact hmoved
  | ok _ => exact Serves.ensures (.bind (.put _) fun _ => .finish) hmoved

theorem handle_moved (service : Service) (body : List UInt8) (work : Work ω κ)
    (hwork : work.reader = BinaryReader.init body)
    (hmay : Permits cfg A caller body work.engine.subs service) :
    Ensures (service.handle cfg caller).run work fun _ work' =>
      Moved cfg A work.engine.subs work'.engine.subs := by
  cases service with
  | transferSubscriptions => exact handleTransferSubscriptions_moved caller body work hwork hmay
  | modifyMonitoredItems => exact handleModifyMonitoredItems_moved caller body work hwork hmay
  | createSubscription => exact handleCreateSubscription_serves caller work
  | publish => exact handlePublish_serves caller work
  | modifySubscription =>
    refine Serves.ensures (handleModifySubscription_along fun _ _ s _ => ?_) .refl
    exact subscriptionModify_moved _ _ _ s
  | setPublishingMode =>
    refine Serves.ensures (handleSetPublishingMode_along fun _ _ s _ => ?_) .refl
    exact setPublishingMode_moved _ _ _ s
  | deleteSubscriptions =>
    refine Serves.ensures (handleDeleteSubscriptions_along fun id e => ?_) .refl
    exact deleteSubscriptionResult_moved caller id e
  | republish => exact Serves.ensures handleRepublish_along .refl
  | createMonitoredItems =>
    refine Serves.ensures (handleCreateMonitoredItems_along fun _ _ _ e => ?_) .refl
    exact allocateItem_moved _ _ _ e
  | setMonitoringMode =>
    refine Serves.ensures (handleSetMonitoringMode_along fun _ _ id e => ?_) .refl
    exact engineSetMonitoringMode_moved _ _ id e
  | deleteMonitoredItems =>
    refine Serves.ensures (handleDeleteMonitoredItems_along fun _ _ s _ => ?_) .refl
    exact monitoredItemDelete_moved s _ _
  | setTriggering => exact handleSetTriggering_serves caller work

end Requests

/-! ## Steps as moves -/

def EngineInput.Permitted (cfg : EngineConfig ω κ) (A : Allowed) (e : Engine ω κ) :
    EngineInput ω → Prop
  | .call caller service body _ => Permits cfg A caller body e.subs service
  | _ => True

namespace Engine

variable {cfg : EngineConfig ω κ} {A : Allowed}

theorem closeSession_moved : Moved cfg A e.subs (e.closeSession cfg sessionId).subs := by
  unfold closeSession
  generalize List.range cfg.caps.maxSubscriptions = indices
  induction indices generalizing e with
  | nil => exact .refl
  | cons index indices ih =>
    rw [List.foldl_cons]
    refine Relation.ReflTransGen.trans ?_ (ih _)
    split
    · exact .refl
    split
    · exact engineSubscriptionDelete_moved e _ _
    · exact .refl

theorem triggerEvent_moved (event : EventNotification) (s : Subs ω κ) :
    Move cfg A s (s.triggerEvent event) := by
  refine .subscriptions _ (Slotwise.map fun slot _ => ?_)
  cases slot with
  | none => exact .inl rfl
  | some sub => exact .inr (.some ⟨rfl,rfl,rfl,rfl⟩)

theorem requestResendData_moved (s : Subs ω κ) :
    Moved cfg A s (s.requestResendData sessionId subscriptionId).2 := by
  unfold Subs.requestResendData
  split
  · exact .refl
  refine .single (.subscriptions _ (Slotwise.modify SubscriptionMove.refl fun slot _ => ?_))
  cases slot with
  | none => exact .inl rfl
  | some sub => exact .inr (.some ⟨rfl,rfl,rfl,rfl⟩)

theorem Step.moved {e e' : Engine ω κ} {input : EngineInput ω} (h : Step cfg e input e')
    (hmay : input.Permitted cfg A e) : Moved cfg A e.subs e'.subs := by
  cases input with
  | call caller service body room =>
    obtain ⟨result,work,hleads,rfl⟩ := h
    exact always_iff_leads.mp
      (handle_moved caller service body (Work.start e body room) rfl hmay) _ hleads
  | sample nowMs =>
    cases h
    exact .single (Move.of_sampled (sampleItems_sampled cfg nowMs _ _ _))
  | turn sessions returnDiagnostics nowMs index =>
    exact always_iff_leads.mp publishTurn_moved _ h
  | sessionClosed sessionId =>
    cases h
    exact closeSession_moved sessionId e
  | event event =>
    cases h
    exact .single (triggerEvent_moved event e.subs)
  | semanticChange nodeId =>
    cases h
    exact .single (Move.of_sampled (signalSemanticChange_sampled cfg _ nodeId))
  | resendData sessionId subscriptionId =>
    cases h
    exact requestResendData_moved sessionId subscriptionId e.subs
  | restart =>
    cases h
    exact .single .restart
  | elsewhere world diag =>
    cases h
    exact .refl

theorem ReachableIf.of_moves {C : Engine ω κ → EngineInput ω → Prop} {Inv : Subs ω κ → Prop}
    {e : Engine ω κ} (h : ReachableIf cfg C e) (hstart : Inv (Subs.init cfg.caps ⟨0, []⟩))
    (hpermitted : ∀ e input, C e input → input.Permitted cfg A e)
    (hmove : ∀ s s', Inv s → Move cfg A s s' → Inv s') : Inv e.subs := by
  refine ReachableIf.induct (fun e => Inv e.subs) h (fun _ _ => hstart)
    fun e input e' hinv hc hstep => ?_
  have hmoved := Step.moved hstep (hpermitted e input hc)
  generalize e'.subs = s' at hmoved ⊢
  induction hmoved with
  | refl => exact hinv
  | tail _ hlast ih => exact hmove _ _ ih hlast

end Engine

end MucOpcua
