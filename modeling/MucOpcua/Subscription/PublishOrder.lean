import MucOpcua.Subscription.LedgerServices

/-!
# The order of answers

`publish_request_dequeue` finds the oldest request of a session by the time at which it was parked,
and among equal times by its slot; `mu_publish_request_enqueue` takes the first free slot.
-/

namespace MucOpcua

variable {ω κ : Type}
variable {i : Nat} {request : PublishRequest}

/-! ## The invariant -/

namespace Ledger

/-- The parked requests of a session are taken in the order of their numbers, and come behind those
that were answered. -/
structure Ordered (l : Ledger) : Prop where
  parked : ∀ (i : Nat) (request : PublishRequest), l.parked[i]? = some (some request) →
    request.uid < l.nextUid
  answered : ∀ request ∈ l.answered, request.uid < l.nextUid
  slots : ∀ (i j : Nat) (a b : PublishRequest), l.parked[i]? = some (some a) →
    l.parked[j]? = some (some b) → a.sessionId = b.sessionId →
      EarlierSlot (i, a.enqueuedMs) (j, b.enqueuedMs) → a.uid < b.uid
  behind : ∀ a ∈ l.answered, ∀ (j : Nat) (b : PublishRequest), l.parked[j]? = some (some b) →
    a.sessionId = b.sessionId → a.uid < b.uid
  inOrder : l.answered.Pairwise fun a b => a.sessionId = b.sessionId → a.uid < b.uid

def Rules.behind : Rules where
  park l i request := ∀ (j : Nat) (request' : PublishRequest),
    l.parked[j]? = some (some request') → request'.sessionId = request.sessionId →
      EarlierSlot (j, request'.enqueuedMs) (i, request.enqueuedMs)
  remove _ _ _ := True

variable {l l' : Ledger}

theorem Ordered.of_fewer (h : l.Ordered)
    (hparked : ∀ (i : Nat) (request : PublishRequest), l'.parked[i]? = some (some request) →
      l.parked[i]? = some (some request))
    (hanswered : l'.answered = l.answered) (hnext : l.nextUid ≤ l'.nextUid) : l'.Ordered where
  parked i request hi := (h.parked i request (hparked i request hi)).trans_le hnext
  answered request hmem := by
    rw [hanswered] at hmem
    exact (h.answered request hmem).trans_le hnext
  slots i j a b ha hb := h.slots i j a b (hparked i a ha) (hparked j b hb)
  behind a hmem j b hb := by
    rw [hanswered] at hmem
    exact h.behind a hmem j b (hparked j b hb)
  inOrder := by
    rw [hanswered]
    exact h.inOrder

theorem clearIfUnowned_parked {sessionId : UInt32}
    (h : (l.clearIfUnowned sessionId).parked[i]? = some (some request)) :
    l.parked[i]? = some (some request) := by
  unfold clearIfUnowned at h
  split at h
  · exact h
  rw [List.getElem?_map] at h
  obtain ⟨slot,hslot,hfilter⟩ := Option.map_eq_some_iff.mp h
  rw [hslot,(Option.filter_eq_some_iff.mp hfilter).1]

theorem clearIfUnowned_answered (l : Ledger) (sessionId : UInt32) :
    (l.clearIfUnowned sessionId).answered = l.answered ∧
      (l.clearIfUnowned sessionId).nextUid = l.nextUid := by
  unfold clearIfUnowned
  split <;> exact ⟨rfl,rfl⟩

theorem parked_of_set_none {j : Nat} (h : (l.parked.set i none)[j]? = some (some request)) :
    j ≠ i ∧ l.parked[j]? = some (some request) :=
  (Slotwise.set_cases h).resolve_left fun h => nomatch h.2

theorem parked_of_set_some {j : Nat} {request' : PublishRequest}
    (h : (l.parked.set i (some request))[j]? = some (some request')) :
    (j = i ∧ request' = request) ∨ (j ≠ i ∧ l.parked[j]? = some (some request')) :=
  (Slotwise.set_cases h).imp_left (And.imp_right Option.some.inj)

theorem Ordered.answer (h : l.Ordered) (hparked : l.parked[i]? = some (some request))
    (holdest : ∀ (j : Nat) (request' : PublishRequest), j ≠ i →
      l.parked[j]? = some (some request') → request'.sessionId = request.sessionId →
        EarlierSlot (i, request.enqueuedMs) (j, request'.enqueuedMs)) :
    Ordered { l with
      parked := l.parked.set i none, answered := l.answered ++ [request] } where
  parked j request' hj := h.parked j request' (parked_of_set_none hj).2
  answered request' hmem := by
    rcases List.mem_append.mp hmem with hmem | hmem
    · exact h.answered request' hmem
    · rw [List.mem_singleton.mp hmem]
      exact h.parked i request hparked
  slots j k a b ha hb := h.slots j k a b (parked_of_set_none ha).2 (parked_of_set_none hb).2
  behind a hmem j b hb hsession := by
    obtain ⟨hji,hj⟩ := parked_of_set_none hb
    rcases List.mem_append.mp hmem with hmem | hmem
    · exact h.behind a hmem j b hj hsession
    · rw [List.mem_singleton.mp hmem] at hsession ⊢
      exact h.slots i j request b hparked hj hsession (holdest j b hji hj hsession.symm)
  inOrder := by
    refine List.pairwise_append.mpr ⟨h.inOrder,List.pairwise_singleton _ _,?_⟩
    intro a ha b hb hsession
    rw [List.mem_singleton.mp hb] at hsession ⊢
    exact h.behind a ha i request hparked hsession

theorem Ordered.park (h : l.Ordered)
    (huid : request.uid = l.nextUid) (hpark : Rules.behind.park l i request) :
    Ordered { l with
      parked := l.parked.set i (some request), nextUid := l.nextUid + 1 } where
  parked j request' hj := by
    rcases parked_of_set_some hj with ⟨-,rfl⟩ | ⟨-,hold⟩
    · exact huid ▸ Nat.lt_succ_self _
    · exact (h.parked j request' hold).trans (Nat.lt_succ_self _)
  answered request' hmem := (h.answered request' hmem).trans (Nat.lt_succ_self _)
  slots j k a b ha hb hsession hearlier := by
    rcases parked_of_set_some ha with ⟨rfl,rfl⟩ | ⟨-,hold⟩ <;>
      rcases parked_of_set_some hb with ⟨rfl,rfl⟩ | ⟨-,hold'⟩
    · exact absurd hearlier (EarlierSlot.irrefl _)
    · exact absurd hearlier (hpark k b hold' hsession.symm).asymm
    · rw [huid]
      exact h.parked j a hold
    · exact h.slots j k a b hold hold' hsession hearlier
  behind a hmem j b hb hsession := by
    rcases parked_of_set_some hb with ⟨-,rfl⟩ | ⟨-,hold⟩
    · rw [huid]
      exact h.answered a hmem
    · exact h.behind a hmem j b hold hsession
  inOrder := h.inOrder

theorem Ordered.step (h : l.Ordered) (hstep : Step Rules.behind l l') : l'.Ordered := by
  cases hstep with
  | number nextUid hnext => exact h.of_fewer (fun _ _ hi => hi) rfl hnext
  | drop parked hdrop =>
    refine h.of_fewer (fun i request hi => ?_) rfl (Nat.le_refl _)
    obtain ⟨slot,hslot,hkept⟩ := hdrop.before hi
    rcases hkept with rfl | hnone
    · exact hslot
    · cases hnone
  | answer i request hparked holdest => exact h.answer hparked holdest
  | park i request hfree huid howner hpark => exact h.park huid hpark
  | create index sessionId hfree => exact h.of_fewer (fun _ _ hi => hi) rfl (Nat.le_succ _)
  | delete index sessionId howner =>
    obtain ⟨hanswered,hnext⟩ :=
      clearIfUnowned_answered (l.setOwner index none).subscriptionClosed sessionId
    exact h.of_fewer (fun _ _ hi => (clearIfUnowned_parked hi :)) hanswered (Nat.le_of_eq hnext.symm)
  | transfer index sessionId newSessionId howner =>
    obtain ⟨hanswered,hnext⟩ :=
      clearIfUnowned_answered (l.setOwner index (some newSessionId)) sessionId
    exact h.of_fewer (fun _ _ hi => (clearIfUnowned_parked hi :)) hanswered (Nat.le_of_eq hnext.symm)
  | remove index sessionId counted howner =>
    cases counted <;> exact h.of_fewer (fun _ _ hi => hi) rfl (Nat.le_refl _)

theorem Ordered.run (h : l.Ordered) (hrun : Run Rules.behind l l') : l'.Ordered := by
  induction hrun with
  | refl => exact h
  | tail _ hlast ih => exact ih.step hlast

end Ledger

/-! ## Runs -/

/-- A Publish request comes behind the requests of its session that stay parked: it is later than
they are, or it is of the same time and parked in a slot behind them. -/
def EngineInput.ParksBehind (cfg : EngineConfig ω κ) (e : Engine ω κ) : EngineInput ω → Prop
  | .call caller .publish _ _ => ∀ i, parkingSlot caller.sessionId e.subs.publishQueue = some i →
      ∀ (j : Nat) (request : PublishRequest), j ≠ i →
        e.subs.publishQueue[j]? = some (some request) → request.sessionId = caller.sessionId →
          EarlierSlot (j, request.enqueuedMs) (i, (cfg.timeAdapter.getTickMs e.world).1)
  | _ => True

theorem EngineInput.ParksBehind.mayPark {cfg : EngineConfig ω κ} {e : Engine ω κ} {caller : Caller}
    {body : List UInt8} {room : Nat}
    (h : (EngineInput.call caller .publish body room).ParksBehind cfg e) :
    Ledger.Rules.behind.MayPark caller.sessionId e.subs.publishQueue
      (cfg.timeAdapter.getTickMs e.world).1 := by
  intro i request l hslot hsession htime hfree hparked j request' hj hsession'
  rw [htime]
  refine h i hslot j request' ?_ (hparked j request' hj) (hsession'.trans hsession)
  rintro rfl
  rw [hfree] at hj
  cases hj

/-- In a run whose Publish requests come behind those that are parked, the requests of a session are
answered in the order in which they came, which is the order of their numbers; what is still parked
came after all that was answered. -/
theorem answers_in_order {cfg : EngineConfig ω κ} {e : Engine ω κ}
    (h : Engine.ReachableIf cfg (fun e input => input.ParksBehind cfg e) e) :
    ((answersOf e.subs.history.records).map Prod.fst).Pairwise
        (fun a b => a.sessionId = b.sessionId → a.uid < b.uid) ∧
      ∀ a ∈ (answersOf e.subs.history.records).map Prod.fst, ∀ b,
        some b ∈ e.subs.publishQueue → a.sessionId = b.sessionId → a.uid < b.uid := by
  have hnone (n i : Nat) (request : PublishRequest) :
      (List.replicate n (none : Option PublishRequest))[i]? ≠ some (some request) := by
    rw [List.getElem?_replicate]
    split <;> nofun
  have hordered : (e.subs.ledger e.diag).Ordered := by
    refine Engine.ReachableIf.induct (fun e => (e.subs.ledger e.diag).Ordered) h
      (fun world diag => ?_) fun e input e' hinv hc hstep => ?_
    · exact ⟨fun i request hi => absurd hi (hnone _ i request),nofun,
        fun i _ a _ hi => absurd hi (hnone _ i a),nofun,.nil⟩
    · cases input with
      | call caller service body room =>
        refine hinv.run (Engine.Step.entries hstep fun hpublish => ?_)
        subst hpublish
        exact hc.mayPark
      | restart =>
        cases hstep
        exact hinv.of_fewer (fun i request hi => absurd hi (hnone _ i request)) rfl (Nat.le_refl _)
      | elsewhere world diag =>
        cases hstep
        exact hinv.of_fewer (fun _ _ hi => hi) rfl (Nat.le_refl _)
      | turn => exact hinv.run (Engine.Step.entries hstep fun _ _ _ _ _ _ => trivial)
      | sessionClosed => exact hinv.run (Engine.Step.entries hstep fun _ _ => trivial)
      | _ => exact hinv.run (Engine.Step.entries hstep trivial)
  refine ⟨hordered.inOrder,fun a ha b hb => ?_⟩
  obtain ⟨j,hj⟩ := List.getElem?_of_mem hb
  exact hordered.behind a ha j b hj

/-- Two requests of one millisecond, in the slots 0 and 1. -/
theorem two_answers_in_order :
    ((answersOf (Sample.after [Sample.create true, Sample.publish true, Sample.publish true,
        Sample.tick, Sample.tick]).subs.history.records).map fun answered => answered.1.uid) =
          [1, 2] ∧
      ((answersOf (Sample.after [Sample.create true, Sample.publish true, Sample.publish true,
        Sample.tick, Sample.tick]).subs.history.records).map Prod.fst).Pairwise
          (fun a b => a.sessionId = b.sessionId → a.uid < b.uid) := by
  have hfirst : (Sample.after [Sample.create true]).subs.publishQueue = [none,none] := by
    decide +kernel
  have hsecond : (Sample.after [Sample.create true,Sample.publish true]).subs.publishQueue =
      [some ⟨1,0,7,0,0,⟨[],by decide⟩,1⟩,none] := by
    decide +kernel
  have hcreated := Sample.reachableIf_append (C := fun e input => input.ParksBehind Sample.config e)
    [] (Sample.create true) (.start () _) trivial
  have hparked := Sample.reachableIf_append [Sample.create true] (Sample.publish true) hcreated
    fun i _ j request _ hj => by
      rw [hfirst] at hj
      match j with
      | 0 | 1 => cases hj
  have hparked' := Sample.reachableIf_append [Sample.create true,Sample.publish true]
    (Sample.publish true) hparked fun i hi j request hne hj _ => by
      rw [hsecond] at hi hj
      have hslot : i = 1 := (Option.some.inj hi).symm
      match j with
      | 0 =>
        cases hj
        rw [hslot]
        exact .inr ⟨rfl,Nat.zero_lt_one⟩
      | 1 => cases hj
  have hticked := Sample.reachableIf_append
    [Sample.create true,Sample.publish true,Sample.publish true] Sample.tick hparked' trivial
  have hanswered : Engine.ReachableIf _ _ (Sample.after [Sample.create true,Sample.publish true,
      Sample.publish true,Sample.tick,Sample.tick]) :=
    Sample.reachableIf_append [Sample.create true,Sample.publish true,Sample.publish true,
      Sample.tick] Sample.tick hticked trivial
  exact ⟨by decide +kernel,(answers_in_order hanswered).1⟩

def Record.publishResponse? : Record → Option PublishRequest
  | .answered request _ (.notification ..) => some request
  | _ => none

/-- The third request takes the slot of the first one and overtakes the second one, which came
before it in the same millisecond. -/
theorem reused_slot_overtakes :
    ∃ e, Engine.Reachable Sample.config e ∧
      (e.subs.history.records.filterMap Record.publishResponse?).map
        (fun request => (request.sessionId, request.uid)) = [(1, 1), (1, 3), (1, 2)] :=
  ⟨_,Sample.reachable_after [Sample.create true,Sample.publish true,Sample.publish true,
    Sample.tick,Sample.publish true,Sample.tick,Sample.tick],by decide +kernel⟩

end MucOpcua
