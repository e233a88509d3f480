import MucOpcua.Subscription.SequenceNumbers

/-!
# Where parked requests are answered

A parked Publish request leaves its slot when it is answered, so it is answered once.
-/

namespace MucOpcua

variable {ω κ : Type}

/-! ## Answers in the history -/

def Record.answer? : Record → Option (PublishRequest × Link)
  | .answered request link _ => some (request, link)
  | .acknowledged .. => none

def answersOf (records : List Record) : List (PublishRequest × Link) :=
  records.filterMap Record.answer?

theorem answersOf_append (records records' : List Record) :
    answersOf (records ++ records') = answersOf records ++ answersOf records' :=
  List.filterMap_append

/-! ## What a move does to requests -/

inductive RequestMove (A : Allowed) (s s' : Subs ω κ) : Prop where
  | keep (hqueue : ∀ (i : Nat) (request : PublishRequest), s'.publishQueue[i]? = some (some request) →
        s.publishQueue[i]? = some (some request))
      (hnext : s.history.nextUid ≤ s'.history.nextUid)
      (hanswers : answersOf s'.history.records = answersOf s.history.records)
  | park (i : Nat) (request : PublishRequest) (huid : request.uid = s.history.nextUid)
      (hqueue : s'.publishQueue = s.publishQueue.set i (some request))
      (hnext : s'.history.nextUid = s.history.nextUid + 1)
      (hanswers : answersOf s'.history.records = answersOf s.history.records)
  | answer (i : Nat) (request : PublishRequest) (link : Link)
      (hparked : s.publishQueue[i]? = some (some request)) (hroute : A.route request link)
      (hqueue : s'.publishQueue = s.publishQueue.set i none)
      (hnext : s'.history.nextUid = s.history.nextUid)
      (hanswers : answersOf s'.history.records = answersOf s.history.records ++ [(request, link)])

theorem Move.requestMove {cfg : EngineConfig ω κ} {A : Allowed} {s s' : Subs ω κ}
    (h : Move cfg A s s') : RequestMove A s s' := by
  cases h with
  | counters | subscriptions | items => exact .keep (fun _ _ h => h) (Nat.le_refl _) rfl
  | createSubscription | createItem => exact .keep (fun _ _ h => h) (Nat.le_succ _) rfl
  | drop queue hqueue =>
    refine .keep (fun i request hrequest => ?_) (Nat.le_refl _) rfl
    obtain ⟨slot,hslot,hkept⟩ := hqueue.before hrequest
    rcases hkept with rfl | hnone
    · exact hslot
    · cases hnone
  | park i request hfree huid => exact .park i request huid rfl rfl rfl
  | fault i request link status hrequest hroute
  | notify i request link index sub sub' message delivered slots hrequest hroute =>
    exact .answer i request link hrequest hroute rfl rfl (answersOf_append _ _)
  | acknowledge =>
    refine .keep (fun _ _ h => h) (Nat.le_refl _) ?_
    exact (answersOf_append _ _).trans (List.append_nil _)
  | restart =>
    refine .keep (fun i request hrequest => ?_) (Nat.le_refl _) rfl
    have hnone : (List.replicate cfg.caps.maxPublishRequests (none : Option PublishRequest))[i]? =
      some (some request) := hrequest
    rw [List.getElem?_replicate] at hnone
    split at hnone <;> cases hnone

/-! ## The invariant -/

/-- The requests are told apart by their numbers, a parked one is not answered yet, and the others
were answered where they may be. -/
structure Routed (A : Allowed) (s : Subs ω κ) : Prop where
  parked : ∀ (i : Nat) (request : PublishRequest), s.publishQueue[i]? = some (some request) →
    request.uid < s.history.nextUid ∧
      ∀ answered ∈ answersOf s.history.records, answered.1.uid ≠ request.uid
  slots : ∀ (i j : Nat) (request request' : PublishRequest),
    s.publishQueue[i]? = some (some request) →
    s.publishQueue[j]? = some (some request') → request.uid = request'.uid → i = j
  answered : ∀ answered ∈ answersOf s.history.records, answered.1.uid < s.history.nextUid ∧
    A.route answered.1 answered.2
  once : ((answersOf s.history.records).map fun answered => answered.1.uid).Nodup

theorem Routed.start (A : Allowed) (caps : EngineCapacities) :
    Routed A (Subs.init caps ⟨0, []⟩ : Subs ω κ) := by
  have hnone (i : Nat) (request : PublishRequest) :
      (Subs.init caps ⟨0,[]⟩ : Subs ω κ).publishQueue[i]? ≠ some (some request) := by
    intro h
    have h' : (List.replicate caps.maxPublishRequests (none : Option PublishRequest))[i]? =
      some (some request) := h
    rw [List.getElem?_replicate] at h'
    split at h' <;> cases h'
  exact ⟨fun i request h => absurd h (hnone i request),
    fun i _ request _ h => absurd h (hnone i request),fun _ h => (nomatch h),List.nodup_nil⟩

theorem Routed.move {A : Allowed} {s s' : Subs ω κ} (h : Routed A s) (hmove : RequestMove A s s') :
    Routed A s' := by
  cases hmove with
  | keep hqueue hnext hanswers =>
    refine ⟨?_,?_,?_,by rw [hanswers]; exact h.once⟩
    · intro i request hi
      obtain ⟨hlt,hnew⟩ := h.parked i request (hqueue i request hi)
      rw [hanswers]
      exact ⟨hlt.trans_le hnext,hnew⟩
    · intro i j request request' hi hj
      exact h.slots i j request request' (hqueue i request hi) (hqueue j request' hj)
    · intro answered hanswered
      rw [hanswers] at hanswered
      exact (h.answered answered hanswered).imp_left fun hlt => hlt.trans_le hnext
  | park i request huid hqueue hnext hanswers =>
    -- a slot holds the request that is parked, or what it held
    have hslot (j : Nat) (request' : PublishRequest)
        (hj : s'.publishQueue[j]? = some (some request')) :
        (j = i ∧ request' = request) ∨ (j ≠ i ∧ s.publishQueue[j]? = some (some request')) := by
      rw [hqueue] at hj
      exact (Slotwise.set_cases hj).imp_left (And.imp_right Option.some.inj)
    refine ⟨?_,?_,?_,by rw [hanswers]; exact h.once⟩
    · intro j request' hj
      rw [hanswers,hnext]
      rcases hslot j request' hj with ⟨-,rfl⟩ | ⟨-,hold⟩
      · rw [huid]
        exact ⟨Nat.lt_succ_self _,fun answered hmem => Nat.ne_of_lt (h.answered answered hmem).1⟩
      · exact (h.parked j request' hold).imp_left fun hlt => hlt.trans (Nat.lt_succ_self _)
    · intro j k request₁ request₂ hj hk heq
      rcases hslot j request₁ hj with ⟨rfl,rfl⟩ | ⟨hji,hold₁⟩ <;>
        rcases hslot k request₂ hk with ⟨rfl,rfl⟩ | ⟨hki,hold₂⟩
      · rfl
      · exact absurd (h.parked k request₂ hold₂).1 (by omega)
      · exact absurd (h.parked j request₁ hold₁).1 (by omega)
      · exact h.slots j k request₁ request₂ hold₁ hold₂ heq
    · intro answered hanswered
      rw [hanswers] at hanswered
      rw [hnext]
      exact (h.answered answered hanswered).imp_left fun hlt => hlt.trans (Nat.lt_succ_self _)
  | answer i request link hparked hroute hqueue hnext hanswers =>
    obtain ⟨hlt,hnew⟩ := h.parked i request hparked
    -- what is parked still was parked in another slot
    have hslot (j : Nat) (request' : PublishRequest)
        (hj : s'.publishQueue[j]? = some (some request')) :
        j ≠ i ∧ s.publishQueue[j]? = some (some request') := by
      rw [hqueue] at hj
      exact (Slotwise.set_cases hj).resolve_left fun h => nomatch h.2
    refine ⟨?_,?_,?_,?_⟩
    · intro j request' hj
      obtain ⟨hji,hold⟩ := hslot j request' hj
      obtain ⟨hlt',hnew'⟩ := h.parked j request' hold
      rw [hanswers,hnext]
      refine ⟨hlt',fun answered hanswered => ?_⟩
      rcases List.mem_append.mp hanswered with hmem | hmem
      · exact hnew' answered hmem
      · rw [List.mem_singleton.mp hmem]
        exact fun heq => hji (h.slots j i request' request hold hparked heq.symm)
    · intro j k request₁ request₂ hj hk
      exact h.slots j k request₁ request₂ (hslot j request₁ hj).2 (hslot k request₂ hk).2
    · intro answered hanswered
      rw [hanswers] at hanswered
      rw [hnext]
      rcases List.mem_append.mp hanswered with hmem | hmem
      · exact h.answered answered hmem
      · rw [List.mem_singleton.mp hmem]
        exact ⟨hlt,hroute⟩
    · rw [hanswers,List.map_append,List.nodup_append]
      refine ⟨h.once,List.nodup_singleton _,?_⟩
      intro uid huid uid' huid'
      obtain ⟨answered,hmem,rfl⟩ := List.mem_map.mp huid
      rw [List.map_singleton,List.mem_singleton] at huid'
      rw [huid']
      exact hnew answered hmem

/-! ## Runs -/

def Allowed.bound : Allowed :=
  ⟨fun _ _ => True, fun request link => BoundTo link request.sessionId, fun _ _ => trivial, id⟩

/-- A request does not take over a subscription from a session with requests parked that is not
bound to the channel of the caller, and a session that ends has no requests parked: the id that a
parked request names is not given to another session. -/
def EngineInput.LeavesParked (cfg : EngineConfig ω κ) (e : Engine ω κ) : EngineInput ω → Prop
  | .call caller .transferSubscriptions body _ =>
    MayTransferAll cfg Allowed.bound caller (transferRequest body) e.subs
  | .sessionClosed sessionId =>
    ∀ slot ∈ e.subs.publishQueue, ∀ request ∈ slot, request.sessionId ≠ sessionId
  | _ => True

theorem EngineInput.LeavesParked.permitted {cfg : EngineConfig ω κ} {e : Engine ω κ}
    {input : EngineInput ω} (h : input.LeavesParked cfg e) :
    input.Permitted cfg Allowed.bound e := by
  cases input with
  | call caller service body room =>
    cases service with
    | modifyMonitoredItems => exact fun _ _ _ _ _ _ _ _ _ _ => trivial
    | transferSubscriptions => exact h
    | _ => exact trivial
  | _ => exact trivial

/-- In a run without such requests every answer goes to a connection whose channel the session that
sent the request is bound to, and no request is answered twice. -/
theorem answered_on_own_connection {cfg : EngineConfig ω κ} {e : Engine ω κ}
    (h : Engine.ReachableIf cfg (fun e input => input.LeavesParked cfg e) e) :
    (∀ request link answer, .answered request link answer ∈ e.subs.history.records →
        BoundTo link request.sessionId) ∧
      ((answersOf e.subs.history.records).map fun answered => answered.1.uid).Nodup := by
  have hrouted : Routed Allowed.bound e.subs :=
    Engine.ReachableIf.of_moves h (Routed.start _ _) (fun _ _ hleaves => hleaves.permitted)
      fun s s' hs hmove => hs.move hmove.requestMove
  refine ⟨fun request link answer hmem => ?_,hrouted.once⟩
  exact (hrouted.answered (request, link) (List.mem_filterMap.mpr ⟨_,hmem,rfl⟩)).2

namespace Sample

/-- Two clients get a keep-alive each. -/
def twoClients : List (EngineInput Unit) :=
  [create true, create false, publish true, publish false, tick,
    .turn [session 1, session 2] 0 60000 1]

end Sample

/-- One of the clients leaves after its keep-alive. -/
theorem keepAlives_on_own_connections :
    let e := Sample.after (Sample.twoClients ++ [.sessionClosed 1])
    (answersOf e.subs.history.records).map
        (fun answered => (answered.1.sessionId, answered.2.channelId)) = [(1, 1), (2, 2)] ∧
      (∀ request link answer, .answered request link answer ∈ e.subs.history.records →
        BoundTo link request.sessionId) ∧
      ((answersOf e.subs.history.records).map fun answered => answered.1.uid).Nodup := by
  have hserved : Engine.ReachableIf Sample.config
      (fun e input => input.LeavesParked Sample.config e) (Sample.after Sample.twoClients) :=
    Engine.reachableIf_runWith Sample.answer (.start () _)
      ⟨trivial,trivial,trivial,trivial,trivial,trivial,trivial⟩
  have hidle : ∀ slot ∈ (Sample.after Sample.twoClients).subs.publishQueue, ∀ request ∈ slot,
      request.sessionId ≠ 1 := by decide +kernel
  exact ⟨by decide +kernel,answered_on_own_connection
    (Sample.reachableIf_append Sample.twoClients (.sessionClosed 1) hserved hidle)⟩

/-- In every run a Publish request is answered at most once, whatever subscription is transferred,
and a parked one was not answered. -/
theorem publish_answered_once {cfg : EngineConfig ω κ} {e : Engine ω κ}
    (h : Engine.Reachable cfg e) :
    ((answersOf e.subs.history.records).map fun answered => answered.1.uid).Nodup ∧
      ∀ (i : Nat) (request : PublishRequest), e.subs.publishQueue[i]? = some (some request) →
        ∀ answered ∈ answersOf e.subs.history.records, answered.1.uid ≠ request.uid := by
  have hrouted : Routed Allowed.all e.subs :=
    Engine.ReachableIf.of_moves h (Routed.start _ _) (fun e input _ => input.permitted_all cfg e)
      fun s s' hs hmove => hs.move hmove.requestMove
  exact ⟨hrouted.once,fun i request hi => (hrouted.parked i request hi).2⟩

/-- A keep-alive answers the first of two requests, once. -/
theorem keepAlive_answered_once :
    let e := Sample.after [Sample.create true, Sample.publish true, Sample.publish true, Sample.tick]
    (answersOf e.subs.history.records).map (fun answered => answered.1.uid) = [1] ∧
      e.subs.publishQueue.map (Option.map PublishRequest.uid) = [none, some 2] ∧
      ((answersOf e.subs.history.records).map fun answered => answered.1.uid).Nodup ∧
      ∀ (i : Nat) (request : PublishRequest), e.subs.publishQueue[i]? = some (some request) →
        ∀ answered ∈ answersOf e.subs.history.records, answered.1.uid ≠ request.uid :=
  ⟨by decide +kernel,by decide +kernel,publish_answered_once (Sample.reachable_after _)⟩

/-- The first client's request is answered on the connection of the second one, which takes the
subscription over. -/
theorem transfer_answers_elsewhere :
    ∃ e, Engine.Reachable Sample.config e ∧ ∃ request link answer,
      .answered request link answer ∈ e.subs.history.records ∧ ¬ BoundTo link request.sessionId := by
  refine ⟨_,Sample.reachable_after
    [Sample.create true,Sample.publish true,Sample.transfer false],?_⟩
  have hrecord : ∃ record ∈ (Sample.after [Sample.create true,Sample.publish true,
      Sample.transfer false]).subs.history.records, (match record with
        | .answered request link _ => decide (request.sessionId = 1 ∧
            link = (Sample.caller false).toLink)
        | .acknowledged .. => false) = true := by
    simp only [Sample.after,Engine.runWith,List.foldl,Engine.stepWith,Service.handle,
      handleTransferSubscriptions]
    unfold transferAll
    simp only [transferSubscription,moveSubscription,issueStatusChangeNotification,notifyRequest,
      emitNotification]
    rw [encodeResponse_eq_front]
    decide +kernel
  obtain ⟨record,hmem,hrecord⟩ := hrecord
  cases record with
  | acknowledged => cases hrecord
  | answered request link answer =>
    obtain ⟨hsession,hlink⟩ := of_decide_eq_true hrecord
    refine ⟨request,link,answer,hmem,?_⟩
    rintro ⟨session,hmem',-,hid,hchannel⟩
    rw [hsession] at hid
    rw [hlink] at hmem' hchannel
    -- the session 1 is bound to the channel 1
    rcases List.mem_pair.mp hmem' with rfl | rfl
    · exact absurd hchannel (by decide)
    · exact absurd hid (by decide)

end MucOpcua
