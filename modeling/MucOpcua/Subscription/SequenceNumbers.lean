import MucOpcua.Subscription.ServiceMoves

/-!
# The numbers of NotificationMessages

In every run the messages with data of a subscription are numbered from 1 on, with 1 behind
4294967295, and a keep-alive has the number of the next message with data.
-/

namespace MucOpcua

variable {ω κ : Type}
variable {s s' : Subs ω κ}

/-! ## The messages of a subscription -/

def Record.message? (uid : Nat) : Record → Option (List UInt8)
  | .answered _ _ (.notification uid' message _) => if uid' = uid then some message else none
  | _ => none

def messagesOf (uid : Nat) (records : List Record) : List (List UInt8) :=
  records.filterMap (Record.message? uid)

theorem messagesOf_append (uid : Nat) (records records' : List Record) :
    messagesOf uid (records ++ records') = messagesOf uid records ++ messagesOf uid records' :=
  List.filterMap_append

theorem messagesOf_notification (uid uid' : Nat) (request : PublishRequest) (link : Link)
    (message : List UInt8) (delivered : List (Nat × Nat)) :
    messagesOf uid [.answered request link (.notification uid' message delivered)] =
      if uid' = uid then [message] else [] := by
  by_cases h : uid' = uid <;> simp [messagesOf,Record.message?,h]

/-- The number of the message with data behind `n` others. -/
def nthNumber (n : Nat) : UInt32 := UInt32.ofNat (n % 4294967295 + 1)

theorem nthNumber_toNat (n : Nat) : (nthNumber n).toNat = n % 4294967295 + 1 := by
  exact UInt32.toNat_ofNat_of_lt (by show _ < 4294967296; omega)

theorem nthNumber_ne_zero (n : Nat) : nthNumber n ≠ 0 := by
  intro h
  have htoNat := nthNumber_toNat n
  rw [h] at htoNat
  exact absurd htoNat (by show 0 ≠ _; omega)

theorem nextNumber_nthNumber (n : Nat) : nextNumber (nthNumber n) = nthNumber (n + 1) := by
  have hn := nthNumber_toNat n
  have hsum : (nthNumber n + 1).toNat = (n % 4294967295 + 2) % 4294967296 := by
    rw [UInt32.toNat_add,hn]
    rfl
  unfold nextNumber
  apply UInt32.toNat_inj.mp
  rw [nthNumber_toNat]
  -- the counter wraps exactly where the remainder does
  by_cases hlast : n % 4294967295 = 4294967294
  · have hzero : nthNumber n + 1 = 0 := by
      apply UInt32.toNat_inj.mp
      rw [hsum,hlast]
      rfl
    rw [if_pos hzero]
    show 1 = _
    omega
  · have hne : nthNumber n + 1 ≠ 0 := by
      intro h
      rw [h] at hsum
      have hsum' : 0 = (n % 4294967295 + 2) % 4294967296 := hsum
      omega
    rw [if_neg hne]
    omega

/-! ## What a move does to subscriptions and messages -/

def Record.Quiet : Record → Prop
  | .answered _ _ (.fault _) => True
  | _ => False

inductive MessageMove (s s' : Subs ω κ) : Prop where
  | quiet (new : List Record) (hnew : ∀ record ∈ new, record.Quiet)
      (hrecords : s'.history.records = s.history.records ++ new)
      (hnext : s.history.nextUid ≤ s'.history.nextUid)
      (hsubs : ∀ index sub', s'.subscription? index = some sub' →
        ∃ sub, s.subscription? index = some sub ∧ SameMessages sub sub')
  | notify (index : Nat) (sub sub' : Subscription) (request : PublishRequest) (link : Link)
      (message : List UInt8) (delivered : List (Nat × Nat))
      (hsub : s.subscription? index = some sub) (hnotified : Notified sub message sub')
      (hnext : s'.history.nextUid = s.history.nextUid)
      (hrecords : s'.history.records = s.history.records ++
        [.answered request link (.notification sub.uid message delivered)])
      (hsub' : s'.subscription? index = some sub')
      (helse : ∀ index', index' ≠ index → s'.subscription? index' = s.subscription? index')
  | acknowledge (index : Nat) (sub sub' : Subscription) (sequenceNumber : UInt32)
      (hsub : s.subscription? index = some sub) (huid : sub'.uid = sub.uid)
      (hid : sub'.subscriptionId = sub.subscriptionId) (hnumber : sub'.number = sub.number)
      (hretransmit : sub'.retransmit =
        if Subs.holdsMessage sub sequenceNumber then none else sub.retransmit)
      (hnext : s'.history.nextUid = s.history.nextUid)
      (hrecords : s'.history.records = s.history.records ++ [.acknowledged sub.uid sequenceNumber])
      (hsub' : s'.subscription? index = some sub')
      (helse : ∀ index', index' ≠ index → s'.subscription? index' = s.subscription? index')
  | create (index : Nat) (sub : Subscription) (huid : sub.uid = s.history.nextUid)
      (hid : s.subscriptionIdInUse sub.subscriptionId = false)
      (hnumber : sub.sequenceNumber = 1) (hretransmit : sub.retransmit = none)
      (hnext : s'.history.nextUid = s.history.nextUid + 1)
      (hrecords : s'.history.records = s.history.records)
      (hsub' : s'.subscription? index = some sub)
      (helse : ∀ index', index' ≠ index → s'.subscription? index' = s.subscription? index')

theorem Subs.subscription?_replaced {index i : Nat} {sub' sub₁ : Subscription}
    (hsub' : s'.subscription? index = some sub')
    (helse : ∀ index', index' ≠ index → s'.subscription? index' = s.subscription? index')
    (h₁ : s'.subscription? i = some sub₁) :
    i = index ∧ sub₁ = sub' ∨ i ≠ index ∧ s.subscription? i = some sub₁ := by
  by_cases hi : i = index
  · rw [hi,hsub'] at h₁
    exact .inl ⟨hi,(Option.some.inj h₁).symm⟩
  · exact .inr ⟨hi,helse i hi ▸ h₁⟩

section Inversion

variable {cfg : EngineConfig ω κ} {A : Allowed} {s s' : Subs ω κ}

private theorem MessageMove.of_same (new : List Record) (hnew : ∀ record ∈ new, record.Quiet)
    (hrecords : s'.history.records = s.history.records ++ new)
    (hnext : s.history.nextUid ≤ s'.history.nextUid) (hsubs : s'.subscriptions = s.subscriptions) :
    MessageMove s s' := by
  refine .quiet new hnew hrecords hnext fun index sub' hsub' => ⟨sub',?_,SameMessages.refl sub'⟩
  rw [Subs.subscription?,← hsubs]
  exact hsub'

theorem Move.messageMove (h : Move cfg A s s') : MessageMove s s' := by
  cases h with
  | counters | drop | items =>
    exact .of_same [] (fun _ h => nomatch h) (List.append_nil _).symm (Nat.le_refl _) rfl
  | park | createItem =>
    exact .of_same [] (fun _ h => nomatch h) (List.append_nil _).symm (Nat.le_succ _) rfl
  | fault i request link status =>
    refine .of_same [.answered request link (.fault status)] ?_ rfl (Nat.le_refl _) rfl
    intro record hrecord
    rw [List.mem_singleton.mp hrecord]
    exact trivial
  | notify i request link index sub sub' message delivered slots _ _ hsub hnotified =>
    exact .notify index sub sub' request link message delivered hsub hnotified rfl rfl
      (Subs.subscription?_setSubscription
        (s := ({ s.dropRequest i with monitoredItems := slots } : Subs ω κ).log _) hsub _)
      fun _ hne => Subs.subscription?_setSubscription_ne (Ne.symm hne) _
  | acknowledge index sub sequenceNumber hsub =>
    exact .acknowledge index sub { sub with
        retransmit := if Subs.holdsMessage sub sequenceNumber then none else sub.retransmit }
      sequenceNumber hsub rfl rfl rfl rfl rfl rfl
      (Subs.subscription?_setSubscription (s := s.log _) hsub _)
      fun _ hne => Subs.subscription?_setSubscription_ne (Ne.symm hne) _
  | createSubscription index sub hfree huid hid hnumber hretransmit =>
    refine .create index sub huid hid hnumber hretransmit rfl rfl ?_
      fun _ hne => Subs.subscription?_setSubscription_ne (Ne.symm hne) _
    obtain ⟨hlt,-⟩ := List.getElem?_eq_some_iff.mp hfree
    show (s.subscriptions.set index (some sub))[index]?.join = some sub
    rw [List.getElem?_set_self hlt]
    rfl
  | subscriptions slots hslots =>
    refine .quiet [] (fun _ h => nomatch h) (List.append_nil _).symm (Nat.le_refl _) ?_
    intro index sub' hsub'
    obtain ⟨slot,hslot,hmove⟩ := hslots.before (Subs.subscription?_eq_some.mp hsub')
    rcases hmove with hnone | hrel
    · cases hnone
    · cases hrel with
      | some hsame => exact ⟨_,Subs.subscription?_eq_some.mpr hslot,hsame⟩
  | restart =>
    refine .quiet [] (fun _ h => nomatch h) (List.append_nil _).symm (Nat.le_refl _) ?_
    intro index sub' hsub'
    have hnone : (Subs.init cfg.caps s.history : Subs ω κ).subscription? index = none := by
      show (List.replicate cfg.caps.maxSubscriptions none)[index]?.join = none
      rw [List.getElem?_replicate]
      split <;> rfl
    rw [hnone] at hsub'
    cases hsub'

end Inversion

/-! ## Subscriptions that are told apart -/

/-- The subscriptions in use have numbers of their own, and so have their ids; no message is of a
subscription that is still to come. -/
structure Distinct (s : Subs ω κ) : Prop where
  fresh : ∀ index sub, s.subscription? index = some sub → sub.uid < s.history.nextUid
  uids : ∀ i j sub sub', s.subscription? i = some sub → s.subscription? j = some sub' →
    sub.uid = sub'.uid → i = j
  ids : ∀ i j sub sub', s.subscription? i = some sub → s.subscription? j = some sub' →
    sub.subscriptionId = sub'.subscriptionId → i = j
  unborn : ∀ uid, s.history.nextUid ≤ uid → messagesOf uid s.history.records = []

theorem Subs.subscriptionIdInUse_eq_false {id : UInt32} {index : Nat}
    {sub : Subscription} (h : s.subscriptionIdInUse id = false)
    (hsub : s.subscription? index = some sub) : sub.subscriptionId ≠ id := by
  have hmem := List.mem_of_getElem? (Subs.subscription?_eq_some.mp hsub)
  have hnot := List.any_eq_false.mp h _ hmem
  simpa using hnot

theorem messagesOf_quiet {uid : Nat} {records : List Record} (h : ∀ record ∈ records, record.Quiet) :
    messagesOf uid records = [] := by
  apply List.filterMap_eq_nil_iff.mpr
  intro record hrecord
  have hquiet := h record hrecord
  cases record with
  | acknowledged => exact absurd hquiet id
  | answered request link answer =>
    cases answer with
    | fault => rfl
    | notification => exact absurd hquiet id

/-- Nothing new, and the numbers of every slot in use are the old ones. -/
private theorem Distinct.of_back (h : Distinct s)
    (hback : ∀ i sub₁, s'.subscription? i = some sub₁ → ∃ sub₀, s.subscription? i = some sub₀ ∧
      sub₁.uid = sub₀.uid ∧ sub₁.subscriptionId = sub₀.subscriptionId)
    (hnext : s.history.nextUid ≤ s'.history.nextUid)
    (hunborn : ∀ uid, s.history.nextUid ≤ uid → messagesOf uid s'.history.records = []) :
    Distinct s' := by
  refine ⟨?_,?_,?_,fun uid huid => hunborn uid (hnext.trans huid)⟩
  · intro i sub₁ h₁
    obtain ⟨sub₀,h₀,huid₀,-⟩ := hback i sub₁ h₁
    rw [huid₀]
    exact (h.fresh i sub₀ h₀).trans_le hnext
  · intro i j sub₁ sub₂ h₁ h₂ heq
    obtain ⟨sub₁',h₁',huid₁,-⟩ := hback i sub₁ h₁
    obtain ⟨sub₂',h₂',huid₂,-⟩ := hback j sub₂ h₂
    exact h.uids i j sub₁' sub₂' h₁' h₂' (by rw [← huid₁,← huid₂,heq])
  · intro i j sub₁ sub₂ h₁ h₂ heq
    obtain ⟨sub₁',h₁',-,hid₁⟩ := hback i sub₁ h₁
    obtain ⟨sub₂',h₂',-,hid₂⟩ := hback j sub₂ h₂
    exact h.ids i j sub₁' sub₂' h₁' h₂' (by rw [← hid₁,← hid₂,heq])

theorem Distinct.move (h : Distinct s) (hmove : MessageMove s s') : Distinct s' := by
  cases hmove with
  | quiet new hnew hrecords hnext hsubs =>
    refine h.of_back (fun i sub₁ h₁ => ?_) hnext fun uid huid => ?_
    · obtain ⟨sub₀,h₀,hsame⟩ := hsubs i sub₁ h₁
      exact ⟨sub₀,h₀,hsame.uid,hsame.subscriptionId⟩
    · rw [hrecords,messagesOf_append,messagesOf_quiet hnew,List.append_nil]
      exact h.unborn uid huid
  | notify index sub sub' request link message delivered hsub hnotified hnext hrecords hsub' helse =>
    refine h.of_back (fun i sub₁ h₁ => ?_) hnext.ge fun uid huid => ?_
    · rcases Subs.subscription?_replaced hsub' helse h₁ with ⟨rfl,rfl⟩ | ⟨-,h₁⟩
      · exact ⟨sub,hsub,hnotified.uid,hnotified.subscriptionId⟩
      · exact ⟨sub₁,h₁,rfl,rfl⟩
    · rw [hrecords,messagesOf_append,h.unborn uid huid,messagesOf_notification]
      exact if_neg (Nat.ne_of_lt ((h.fresh index sub hsub).trans_le huid))
  | acknowledge index sub sub' sequenceNumber hsub huid hid _ _ hnext hrecords hsub' helse =>
    refine h.of_back (fun i sub₁ h₁ => ?_) hnext.ge fun uid huid => ?_
    · rcases Subs.subscription?_replaced hsub' helse h₁ with ⟨rfl,rfl⟩ | ⟨-,h₁⟩
      · exact ⟨sub,hsub,huid,hid⟩
      · exact ⟨sub₁,h₁,rfl,rfl⟩
    · rw [hrecords,messagesOf_append,h.unborn uid huid]
      rfl
  | create index sub huid hid _ _ hnext hrecords hsub' helse =>
    have hback {i : Nat} {sub₁ : Subscription} (h₁ : s'.subscription? i = some sub₁) :=
      Subs.subscription?_replaced hsub' helse h₁
    refine ⟨?_,?_,?_,?_⟩
    · intro i sub₁ h₁
      rw [hnext]
      rcases hback h₁ with ⟨-,rfl⟩ | ⟨-,h₁⟩
      · rw [huid]
        exact Nat.lt_succ_self _
      · exact (h.fresh i sub₁ h₁).trans (Nat.lt_succ_self _)
    · intro i j sub₁ sub₂ h₁ h₂ heq
      rcases hback h₁ with ⟨rfl,rfl⟩ | ⟨-,h₁⟩ <;> rcases hback h₂ with ⟨rfl,rfl⟩ | ⟨-,h₂⟩
      · rfl
      · exact absurd (h.fresh j sub₂ h₂) (by omega)
      · exact absurd (h.fresh i sub₁ h₁) (by omega)
      · exact h.uids i j sub₁ sub₂ h₁ h₂ heq
    · intro i j sub₁ sub₂ h₁ h₂ heq
      rcases hback h₁ with ⟨rfl,rfl⟩ | ⟨-,h₁⟩ <;> rcases hback h₂ with ⟨rfl,rfl⟩ | ⟨-,h₂⟩
      · rfl
      · exact absurd heq.symm (Subs.subscriptionIdInUse_eq_false hid h₂)
      · exact absurd heq (Subs.subscriptionIdInUse_eq_false hid h₁)
      · exact h.ids i j sub₁ sub₂ h₁ h₂ heq
    · intro uid hle
      rw [hrecords]
      exact h.unborn uid (by omega)

theorem Subs.init_subscription? (caps : EngineCapacities) (history : History) (index : Nat) :
    (Subs.init caps history : Subs ω κ).subscription? index = none := by
  show (List.replicate caps.maxSubscriptions none)[index]?.join = none
  rw [List.getElem?_replicate]
  split <;> rfl

theorem Distinct.start (caps : EngineCapacities) :
    Distinct (Subs.init caps ⟨0, []⟩ : Subs ω κ) := by
  refine ⟨?_,?_,?_,fun _ _ => rfl⟩
  · intro index sub h
    rw [Subs.init_subscription?] at h
    cases h
  · intro i j sub sub' h
    rw [Subs.init_subscription?] at h
    cases h
  · intro i j sub sub' h
    rw [Subs.init_subscription?] at h
    cases h

/-! ## Numbering -/

structure Numbered (s : Subs ω κ) : Prop extends Distinct s where
  next : ∀ index sub, s.subscription? index = some sub →
    sub.number = nthNumber ((messagesOf sub.uid s.history.records).countP carriesData)
  numbered : ∀ (uid i : Nat) (message : List UInt8),
    (messagesOf uid s.history.records)[i]? = some message →
    messageNumber message =
      nthNumber (((messagesOf uid s.history.records).take i).countP carriesData)

private theorem numbered_append {messages : List (List UInt8)} {message : List UInt8}
    (h : ∀ (i : Nat) m, messages[i]? = some m →
      messageNumber m = nthNumber ((messages.take i).countP carriesData))
    (hmessage : messageNumber message = nthNumber (messages.countP carriesData)) (i : Nat)
    (m : List UInt8) (hm : (messages ++ [message])[i]? = some m) :
    messageNumber m = nthNumber (((messages ++ [message]).take i).countP carriesData) := by
  by_cases hi : i < messages.length
  · rw [List.getElem?_append_left hi] at hm
    rw [List.take_append_of_le_length (Nat.le_of_lt hi)]
    exact h i m hm
  rw [List.getElem?_append_right (Nat.le_of_not_lt hi)] at hm
  have hzero : i - messages.length = 0 := by
    by_contra hne
    rw [List.getElem?_eq_none (by simp; omega)] at hm
    cases hm
  rw [hzero] at hm
  cases hm
  have hi' : i = messages.length := by omega
  rw [hi',List.take_left]
  exact hmessage

theorem Numbered.move (h : Numbered s) (hmove : MessageMove s s') : Numbered s' := by
  refine ⟨h.toDistinct.move hmove,?_,?_⟩
  · intro i sub₁ h₁
    cases hmove with
    | quiet new hnew hrecords hnext hsubs =>
      obtain ⟨sub₀,h₀,hsame⟩ := hsubs i sub₁ h₁
      rw [hsame.number,hsame.uid,hrecords,messagesOf_append,messagesOf_quiet hnew,List.append_nil]
      exact h.next i sub₀ h₀
    | notify index sub sub' request link message delivered hsub hnotified hnext hrecords hsub'
        helse =>
      rw [hrecords,messagesOf_append,messagesOf_notification,List.countP_append]
      rcases Subs.subscription?_replaced hsub' helse h₁ with ⟨rfl,rfl⟩ | ⟨hi,h₁⟩
      · rw [if_pos hnotified.uid.symm,hnotified.next,hnotified.uid,h.next i sub hsub,
          List.countP_singleton]
        split
        · exact nextNumber_nthNumber _
        · rfl
      · rw [if_neg fun heq => hi (h.uids _ _ _ _ h₁ hsub heq.symm)]
        exact h.next i sub₁ h₁
    | acknowledge index sub sub' sequenceNumber hsub huid hid hnumber _ hnext hrecords hsub' helse =>
      have hnone (uid : Nat) : messagesOf uid [.acknowledged sub.uid sequenceNumber] = [] := rfl
      rw [hrecords,messagesOf_append,hnone,List.append_nil]
      rcases Subs.subscription?_replaced hsub' helse h₁ with ⟨rfl,rfl⟩ | ⟨-,h₁⟩
      · rw [hnumber,huid]
        exact h.next i sub hsub
      · exact h.next i sub₁ h₁
    | create index sub huid hid hnumber hretransmit hnext hrecords hsub' helse =>
      rw [hrecords]
      rcases Subs.subscription?_replaced hsub' helse h₁ with ⟨rfl,rfl⟩ | ⟨-,h₁⟩
      · rw [h.unborn _ huid.ge,Subscription.number,hnumber]
        rfl
      · exact h.next i sub₁ h₁
  · intro uid i m hm
    cases hmove with
    | quiet new hnew hrecords hnext hsubs =>
      rw [hrecords,messagesOf_append,messagesOf_quiet hnew,List.append_nil] at hm ⊢
      exact h.numbered uid i m hm
    | notify index sub sub' request link message delivered hsub hnotified hnext hrecords hsub'
        helse =>
      rw [hrecords,messagesOf_append,messagesOf_notification] at hm ⊢
      by_cases huid : sub.uid = uid
      · rw [if_pos huid] at hm ⊢
        refine numbered_append (h.numbered uid) ?_ i m hm
        rw [hnotified.number,← huid]
        exact h.next index sub hsub
      · rw [if_neg huid,List.append_nil] at hm ⊢
        exact h.numbered uid i m hm
    | acknowledge index sub sub' sequenceNumber hsub huid hid hnumber _ hnext hrecords hsub' helse =>
      have hnone : messagesOf uid [.acknowledged sub.uid sequenceNumber] = [] := rfl
      rw [hrecords,messagesOf_append,hnone,List.append_nil] at hm ⊢
      exact h.numbered uid i m hm
    | create index sub huid hid hnumber hretransmit hnext hrecords hsub' helse =>
      rw [hrecords] at hm ⊢
      exact h.numbered uid i m hm

theorem EngineInput.permitted_all (cfg : EngineConfig ω κ) (e : Engine ω κ)
    (input : EngineInput ω) : input.Permitted cfg Allowed.all e := by
  cases input with
  | call caller service body room =>
    cases service with
    | modifyMonitoredItems => exact fun _ _ _ _ _ _ _ _ _ _ => trivial
    | transferSubscriptions => exact fun _ _ _ _ _ => .inr fun _ _ _ => trivial
    | _ => exact trivial
  | _ => exact trivial

theorem Engine.Reachable.numbered {cfg : EngineConfig ω κ} {e : Engine ω κ}
    (h : Engine.Reachable cfg e) : Numbered e.subs := by
  refine Engine.ReachableIf.of_moves (A := Allowed.all) h ?_
    (fun e input _ => input.permitted_all cfg e) fun s s' hs hmove => hs.move hmove.messageMove
  refine ⟨Distinct.start cfg.caps,?_,fun _ _ _ h => nomatch h⟩
  intro index sub hsub
  rw [Subs.init_subscription?] at hsub
  cases hsub

/-- In every run the messages of a subscription are numbered 1, 2, 3, … over those with data, with 1
behind 4294967295 and never 0; a message without data has the number of the next one with data. -/
theorem sequenceNumbers_consecutive {cfg : EngineConfig ω κ} {e : Engine ω κ}
    (h : Engine.Reachable cfg e) (uid i : Nat) (message : List UInt8)
    (hmessage : (messagesOf uid e.subs.history.records)[i]? = some message) :
    messageNumber message =
        nthNumber (((messagesOf uid e.subs.history.records).take i).countP carriesData) ∧
      messageNumber message ≠ 0 := by
  have hnumber := h.numbered.numbered uid i message hmessage
  refine ⟨hnumber,?_⟩
  rw [hnumber]
  exact nthNumber_ne_zero _

namespace Sample

def kept : Engine Unit Unit := after [create true, publish true, tick, publish true, tick]

end Sample

open Sample in
/-- The second message of a subscription is numbered by what the first one carries. -/
theorem second_keepAlive_number :
    ∃ first second, messagesOf 0 kept.subs.history.records = [first, second] ∧
      messageNumber second = nthNumber ([first].countP carriesData) ∧ messageNumber second ≠ 0 := by
  have hreach : Engine.Reachable config kept := reachable_after _
  have hlength : (messagesOf 0 kept.subs.history.records).length = 2 := by decide +kernel
  have hnumbers := sequenceNumbers_consecutive hreach 0 1
  obtain ⟨first,second,hmessages⟩ := List.length_eq_two.mp hlength
  rw [hmessages] at hnumbers
  exact ⟨first,second,hmessages,hnumbers second rfl⟩

end MucOpcua
