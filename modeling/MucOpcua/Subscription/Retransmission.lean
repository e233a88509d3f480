import MucOpcua.Subscription.SequenceNumbers

/-!
# Messages that can be sent again

A subscription keeps one message. Republish returns the last message with data if it fitted in the
slot and was not acknowledged since.
-/

namespace MucOpcua

open Interact

variable {ω κ : Type}
variable {message : List UInt8}

/-! ## What the history says of the slot -/

def retain (uid : Nat) (held : Option (List UInt8)) : Record → Option (List UInt8)
  | .answered _ _ (.notification uid' message _) =>
    if uid' = uid ∧ carriesData message = true then
      if message.length ≤ retransmitBytes then some message else none
    else held
  | .answered _ _ (.fault _) => held
  | .acknowledged uid' sequenceNumber =>
    if uid' = uid ∧ held.map messageNumber = some sequenceNumber then none else held

def retained (uid : Nat) (records : List Record) : Option (List UInt8) :=
  records.foldl (retain uid) none

theorem retained_append (uid : Nat) (records : List Record) (record : Record) :
    retained uid (records ++ [record]) = retain uid (retained uid records) record := by
  simp [retained]

theorem retained_append_quiet (uid : Nat) (records : List Record) {new : List Record}
    (h : ∀ record ∈ new, record.Quiet) : retained uid (records ++ new) = retained uid records := by
  induction new generalizing records with
  | nil => rw [List.append_nil]
  | cons record new ih =>
    have hquiet := h record List.mem_cons_self
    rw [List.append_cons,ih _ fun record' hmem => h record' (List.mem_cons_of_mem _ hmem),
      retained_append]
    cases record with
    | acknowledged => exact absurd hquiet id
    | answered request link answer =>
      cases answer with
      | fault => rfl
      | notification => exact absurd hquiet id

def IsLatest (uid : Nat) (records : List Record) (message : List UInt8) : Prop :=
  ∃ before request link delivered after,
    records = before ++ .answered request link (.notification uid message delivered) :: after ∧
    carriesData message = true ∧
    (∀ message' ∈ messagesOf uid after, carriesData message' = false) ∧
    .acknowledged uid (messageNumber message) ∉ after

def Record.IsData (uid : Nat) (record : Record) : Prop :=
  ∃ message, record.message? uid = some message ∧ carriesData message = true

theorem not_isLatest_nil (uid : Nat) (message : List UInt8) : ¬ IsLatest uid [] message := by
  rintro ⟨before,_,_,_,after,hsplit,-⟩
  exact absurd hsplit.symm (by simp)

variable {uid : Nat}

theorem Record.message?_eq_some {record : Record}
    (h : record.message? uid = some message) : ∃ request link delivered,
      record = .answered request link (.notification uid message delivered) := by
  cases record with
  | acknowledged => cases h
  | answered request link answer =>
    cases answer with
    | fault => cases h
    | notification uid' message' delivered =>
      by_cases huid : uid' = uid
      · rw [Record.message?,if_pos huid] at h
        cases h
        exact ⟨request,link,delivered,by rw [huid]⟩
      · rw [Record.message?,if_neg huid] at h
        cases h

variable {records : List Record}

theorem mem_messagesOf_concat {record : Record} : message ∈ messagesOf uid (records ++ [record]) ↔
    message ∈ messagesOf uid records ∨ record.message? uid = some message := by
  simp [messagesOf]

theorem isLatest_append {record : Record} : IsLatest uid (records ++ [record]) message ↔
      (record.message? uid = some message ∧ carriesData message = true) ∨
        (IsLatest uid records message ∧ ¬ record.IsData uid ∧
          record ≠ .acknowledged uid (messageNumber message)) := by
  constructor
  · rintro ⟨before,request,link,delivered,after,hsplit,hdata,hlater,hack⟩
    rcases List.eq_nil_or_concat after with rfl | ⟨after',last,rfl⟩
    · obtain ⟨-,hlast⟩ := List.append_inj' hsplit rfl
      left
      rw [List.singleton_inj.mp hlast]
      exact ⟨if_pos rfl,hdata⟩
    rw [List.concat_eq_append,← List.cons_append,← List.append_assoc] at hsplit
    obtain ⟨hrecords,hlast⟩ := List.append_inj' hsplit rfl
    cases List.singleton_inj.mp hlast
    rw [List.concat_eq_append] at hlater hack
    refine .inr ⟨⟨before,request,link,delivered,after',hrecords,hdata,?_,?_⟩,?_,?_⟩
    · exact fun message' hmem => hlater message' (mem_messagesOf_concat.mpr (.inl hmem))
    · exact fun hmem => hack (List.mem_append_left _ hmem)
    · rintro ⟨message',hmessage',hdata'⟩
      rw [hlater message' (mem_messagesOf_concat.mpr (.inr hmessage'))] at hdata'
      cases hdata'
    · intro heq
      exact hack (List.mem_append_right _ (List.mem_singleton.mpr heq.symm))
  · rintro (⟨hmessage,hdata⟩ | ⟨hlatest,hquiet,hack⟩)
    · obtain ⟨request,link,delivered,rfl⟩ := Record.message?_eq_some hmessage
      exact ⟨records,request,link,delivered,[],rfl,hdata,fun _ h => (nomatch h),fun h => nomatch h⟩
    · obtain ⟨before,request,link,delivered,after,hsplit,hdata,hlater,hnot⟩ := hlatest
      refine ⟨before,request,link,delivered,after ++ [record],?_,hdata,?_,?_⟩
      · rw [hsplit,List.append_assoc,List.cons_append]
      · intro message' hmem
        rcases mem_messagesOf_concat.mp hmem with hold | hmessage'
        · exact hlater message' hold
        by_contra hne
        exact hquiet ⟨message',hmessage',by simpa using hne⟩
      · intro hmem
        rcases List.mem_append.mp hmem with hold | hnew
        · exact hnot hold
        · exact hack (List.mem_singleton.mp hnew).symm

/-! ## The slot after one more record -/

section Retain

variable {uid : Nat} {held : Option (List UInt8)} {record : Record}

theorem retain_data (h : record.message? uid = some message) (hdata : carriesData message = true) :
    retain uid held record = if message.length ≤ retransmitBytes then some message else none := by
  obtain ⟨request,link,delivered,rfl⟩ := Record.message?_eq_some h
  exact if_pos ⟨rfl,hdata⟩

theorem retain_acknowledged (sequenceNumber : UInt32) :
    retain uid held (.acknowledged uid sequenceNumber) =
      if held.map messageNumber = some sequenceNumber then none else held := by
  by_cases hnumber : held.map messageNumber = some sequenceNumber
  · rw [if_pos hnumber]
    exact if_pos ⟨rfl,hnumber⟩
  · rw [if_neg hnumber]
    exact if_neg fun h => hnumber h.2

theorem retain_other (hdata : ¬ record.IsData uid)
    (hack : ∀ sequenceNumber, record ≠ .acknowledged uid sequenceNumber) :
    retain uid held record = held := by
  cases record with
  | acknowledged uid' sequenceNumber =>
    refine if_neg ?_
    rintro ⟨rfl,-⟩
    exact hack sequenceNumber rfl
  | answered request link answer =>
    cases answer with
    | fault => rfl
    | notification uid' message' delivered =>
      refine if_neg ?_
      rintro ⟨huid,hcarries⟩
      exact hdata ⟨message',if_pos huid,hcarries⟩

end Retain

theorem retained_eq_some : retained uid records = some message ↔
      IsLatest uid records message ∧ message.length ≤ retransmitBytes := by
  induction records using List.reverseRecOn generalizing message with
  | nil =>
    constructor
    · intro h
      cases h
    · exact fun h => absurd h.1 (not_isLatest_nil uid message)
  | append_singleton records record ih =>
    rw [retained_append,isLatest_append]
    by_cases hdata : record.IsData uid
    · obtain ⟨message',hmessage',hcarries⟩ := hdata
      rw [retain_data hmessage' hcarries,hmessage']
      constructor
      · intro h
        split at h
        · next hfits =>
          cases h
          exact ⟨.inl ⟨rfl,hcarries⟩,hfits⟩
        · cases h
      · rintro ⟨⟨h,-⟩ | ⟨-,hquiet,-⟩,hfits⟩
        · cases h
          exact if_pos hfits
        · exact absurd ⟨message',hmessage',hcarries⟩ hquiet
    -- the record is no message with data: what was the latest stays so if it is not acknowledged
    rw [or_iff_right fun h => hdata ⟨message,h⟩,and_iff_right hdata]
    by_cases hack : ∃ sequenceNumber, record = .acknowledged uid sequenceNumber
    · obtain ⟨sequenceNumber,rfl⟩ := hack
      rw [retain_acknowledged]
      constructor
      · intro h
        split at h
        · cases h
        rename_i hheld
        obtain ⟨hlatest,hfits⟩ := ih.mp h
        refine ⟨⟨hlatest,fun heq => hheld ?_⟩,hfits⟩
        rw [h,(Record.acknowledged.inj heq).2]
        rfl
      · rintro ⟨⟨hlatest,hne⟩,hfits⟩
        have hheld := ih.mpr ⟨hlatest,hfits⟩
        rw [hheld,if_neg]
        intro heq
        exact hne (by rw [Option.some.inj heq])
    · rw [retain_other hdata fun sequenceNumber heq => hack ⟨sequenceNumber,heq⟩,ih]
      exact ⟨fun h => ⟨⟨h.1,fun heq => hack ⟨_,heq⟩⟩,h.2⟩,fun h => ⟨h.1.1,h.2⟩⟩

theorem retained_of_no_messages
    (h : messagesOf uid records = []) : retained uid records = none := by
  rw [Option.eq_none_iff_forall_ne_some]
  intro message hheld
  obtain ⟨⟨before,request,link,delivered,after,hsplit,-⟩,-⟩ := retained_eq_some.mp hheld
  have hmem : message ∈ messagesOf uid records :=
    List.mem_filterMap.mpr ⟨.answered request link (.notification uid message delivered),
      by rw [hsplit]; simp,if_pos rfl⟩
  rw [h] at hmem
  cases hmem

/-! ## The slot in a run -/

structure Retains (s : Subs ω κ) : Prop extends Distinct s where
  holds : ∀ index sub, s.subscription? index = some sub →
    (sub.retransmit.map fun kept => kept.message.val) = retained sub.uid s.history.records
  number : ∀ index sub kept, s.subscription? index = some sub → sub.retransmit = some kept →
    kept.sequenceNumber = messageNumber kept.message.val

theorem holdsMessage_iff {sub : Subscription} (sequenceNumber : UInt32)
    (h : ∀ kept, sub.retransmit = some kept → kept.sequenceNumber = messageNumber kept.message.val) :
    Subs.holdsMessage sub sequenceNumber = true ↔
      (sub.retransmit.map fun kept => kept.message.val).map messageNumber =
        some sequenceNumber := by
  unfold Subs.holdsMessage
  cases hkept : sub.retransmit with
  | none => simp
  | some kept => simp [h kept hkept]

theorem storeRetransmit_kept (sub : Subscription) (n : UInt32) (publishTime : Int64)
    (message : List UInt8) :
    ((Subs.storeRetransmit sub n publishTime message).retransmit.map fun kept => kept.message.val) =
        (if message.length ≤ retransmitBytes then some message else none) ∧
      ∀ kept, (Subs.storeRetransmit sub n publishTime message).retransmit = some kept →
        kept.sequenceNumber = n ∧ kept.message.val = message := by
  unfold Subs.storeRetransmit
  dsimp only
  split
  · refine ⟨rfl,fun kept hkept => ?_⟩
    cases hkept
    exact ⟨rfl,rfl⟩
  · exact ⟨rfl,fun _ h => nomatch h⟩

theorem Retains.move {s s' : Subs ω κ} (h : Retains s) (hmove : MessageMove s s') : Retains s' := by
  suffices hslot : ∀ index sub, s'.subscription? index = some sub →
      (sub.retransmit.map fun kept => kept.message.val) = retained sub.uid s'.history.records ∧
        ∀ kept, sub.retransmit = some kept → kept.sequenceNumber = messageNumber kept.message.val from
    ⟨h.toDistinct.move hmove,fun index sub hsub => (hslot index sub hsub).1,
      fun index sub kept hsub => (hslot index sub hsub).2 kept⟩
  have hbefore (index : Nat) (sub : Subscription) (hsub : s.subscription? index = some sub) :=
    And.intro (h.holds index sub hsub) fun kept => h.number index sub kept hsub
  intro index₁ sub₁ h₁
  cases hmove with
  | quiet new hnew hrecords hnext hsubs =>
    obtain ⟨sub₀,h₀,hsame⟩ := hsubs index₁ sub₁ h₁
    rw [hsame.retransmit,hsame.uid,hrecords,retained_append_quiet _ _ hnew]
    exact hbefore index₁ sub₀ h₀
  | notify index sub sub' request link message delivered hsub hnotified hnext hrecords hsub' helse =>
    have hanswer (n : UInt32) : Record.answered request link
        (.notification sub.uid message delivered) ≠ .acknowledged sub₁.uid n := by
      rintro ⟨⟩
    rw [hrecords,retained_append]
    rcases Subs.subscription?_replaced hsub' helse h₁ with ⟨rfl,rfl⟩ | ⟨hi,h₁⟩
    · have hmessage : Record.message? sub₁.uid
          (.answered request link (.notification sub.uid message delivered)) = some message :=
        if_pos hnotified.uid.symm
      cases hdata : carriesData message with
      | true =>
        obtain ⟨publishTime,hstored⟩ := hnotified.data hdata
        obtain ⟨hmap,hnumber⟩ := storeRetransmit_kept sub sub.number publishTime message
        rw [retain_data hmessage hdata,hstored]
        refine ⟨hmap,fun kept hkept => ?_⟩
        obtain ⟨hseq,hval⟩ := hnumber kept hkept
        rw [hseq,hval,hnotified.number]
      | false =>
        rw [retain_other _ hanswer,hnotified.keepAlive hdata,hnotified.uid]
        · exact hbefore index₁ sub hsub
        · rintro ⟨message',hmessage',hdata'⟩
          rw [hmessage] at hmessage'
          cases hmessage'
          rw [hdata] at hdata'
          cases hdata'
    · have hne : sub.uid ≠ sub₁.uid := fun heq => hi (h.uids _ _ _ _ h₁ hsub heq.symm)
      rw [retain_other _ hanswer]
      · exact hbefore index₁ sub₁ h₁
      · rintro ⟨message',hmessage',-⟩
        rw [Record.message?,if_neg hne] at hmessage'
        cases hmessage'
  | acknowledge index sub sub' sequenceNumber hsub huid hid hnumber hretransmit hnext hrecords hsub'
      helse =>
    rw [hrecords,retained_append]
    rcases Subs.subscription?_replaced hsub' helse h₁ with ⟨rfl,rfl⟩ | ⟨hi,h₁⟩
    · obtain ⟨hmap,hkept⟩ := hbefore index₁ sub hsub
      have hiff := holdsMessage_iff sequenceNumber hkept
      rw [huid,retain_acknowledged,hretransmit,← hmap]
      by_cases hholds : Subs.holdsMessage sub sequenceNumber = true
      · rw [if_pos hholds,if_pos (hiff.mp hholds)]
        exact ⟨rfl,by rintro _ ⟨⟩⟩
      · rw [if_neg hholds,if_neg fun heq => hholds (hiff.mpr heq)]
        exact ⟨rfl,hkept⟩
    · have hne : sub.uid ≠ sub₁.uid := fun heq => hi (h.uids _ _ _ _ h₁ hsub heq.symm)
      rw [retain_other (by rintro ⟨_,h,-⟩; cases h)
        fun n heq => hne (Record.acknowledged.inj heq).1]
      exact hbefore index₁ sub₁ h₁
  | create index sub huid hid hnumber hretransmit hnext hrecords hsub' helse =>
    rw [hrecords]
    rcases Subs.subscription?_replaced hsub' helse h₁ with ⟨rfl,rfl⟩ | ⟨-,h₁⟩
    · rw [hretransmit,retained_of_no_messages (h.unborn _ huid.ge)]
      exact ⟨rfl,by rintro _ ⟨⟩⟩
    · exact hbefore index₁ sub₁ h₁

theorem Engine.Reachable.retains {cfg : EngineConfig ω κ} {e : Engine ω κ}
    (h : Engine.Reachable cfg e) : Retains e.subs := by
  refine Engine.ReachableIf.of_moves (A := Allowed.all) h ?_
    (fun e input _ => input.permitted_all cfg e) fun s s' hs hmove => hs.move hmove.messageMove
  refine ⟨Distinct.start cfg.caps,?_,?_⟩
  · intro index sub hsub
    rw [Subs.init_subscription?] at hsub
    cases hsub
  · intro index sub kept hsub
    rw [Subs.init_subscription?] at hsub
    cases hsub

/-! ## Republish -/

/-- The session can have the message sent again: it is the latest of its subscription, and it
fitted in the slot. -/
def Republishable (s : Subs ω κ) (sessionId subscriptionId sequenceNumber : UInt32)
    (message : List UInt8) : Prop :=
  ∃ index sub, s.subscription? index = some sub ∧ sub.sessionId = sessionId ∧
    sub.subscriptionId = subscriptionId ∧ IsLatest sub.uid s.history.records message ∧
    messageNumber message = sequenceNumber ∧ message.length ≤ retransmitBytes

theorem Distinct.subscriptionFind {s : Subs ω κ} (h : Distinct s) {index : Nat} {sub : Subscription}
    (hsub : s.subscription? index = some sub) :
    s.subscriptionFind sub.sessionId sub.subscriptionId = some index := by
  cases hfind : s.subscriptionFind sub.sessionId sub.subscriptionId with
  | none =>
    have hnone := List.findIdx?_eq_none_iff.mp hfind _
      (List.mem_of_getElem? (Subs.subscription?_eq_some.mp hsub))
    simp at hnone
  | some index' =>
    obtain ⟨sub',hsub',-,hid⟩ := Subs.subscriptionFind_some hfind
    rw [h.ids index' index sub' sub hsub' hsub hid]

/-- In every run the subscriptions in use have ids of their own, so that a session finds each of its
subscriptions under its id. -/
theorem subscription_found_by_id {cfg : EngineConfig ω κ} {e : Engine ω κ}
    (h : Engine.Reachable cfg e) {index : Nat} {sub : Subscription}
    (hsub : e.subs.subscription? index = some sub) :
    e.subs.subscriptionFind sub.sessionId sub.subscriptionId = some index ∧
      ∀ index' sub', e.subs.subscription? index' = some sub' →
        sub'.subscriptionId = sub.subscriptionId → index' = index :=
  ⟨h.numbered.toDistinct.subscriptionFind hsub,fun index' sub' hsub' =>
    h.numbered.toDistinct.ids index' index sub' sub hsub' hsub⟩

theorem second_subscription_found : let e := Sample.after [Sample.create true, Sample.create false]
    ∃ sub, e.subs.subscription? 1 = some sub ∧
      e.subs.subscriptionFind sub.sessionId sub.subscriptionId = some 1 := by
  intro e
  have hsome : (e.subs.subscription? 1).isSome = true := by decide +kernel
  obtain ⟨sub,hsub⟩ := Option.isSome_iff_exists.mp hsome
  exact ⟨sub,hsub,(subscription_found_by_id (Sample.reachable_after _) hsub).1⟩

theorem republish_ok_iff {s : Subs ω κ} (h : Retains s)
    {sessionId subscriptionId sequenceNumber : UInt32} :
    s.republish sessionId subscriptionId sequenceNumber = .ok message ↔
      Republishable s sessionId subscriptionId sequenceNumber message := by
  constructor
  · intro hok
    unfold Subs.republish at hok
    split at hok
    · cases hok
    rename_i index hfind
    obtain ⟨sub,hsub,hsession,hid⟩ := Subs.subscriptionFind_some hfind
    rw [hsub,Option.bind_some] at hok
    split at hok
    · cases hok
    rename_i kept hkept
    split at hok
    · next hnumber =>
      cases hok
      have hheld := h.holds index sub hsub
      rw [hkept,Option.map_some] at hheld
      obtain ⟨hlatest,hfits⟩ := retained_eq_some.mp hheld.symm
      refine ⟨index,sub,hsub,hsession,hid,hlatest,?_,hfits⟩
      rw [← h.number index sub kept hsub hkept,hnumber]
    · cases hok
  · rintro ⟨index,sub,hsub,rfl,rfl,hlatest,rfl,hfits⟩
    have hheld := h.holds index sub hsub
    rw [retained_eq_some.mpr ⟨hlatest,hfits⟩] at hheld
    obtain ⟨kept,hkept,hval⟩ := Option.map_eq_some_iff.mp hheld
    unfold Subs.republish
    rw [h.toDistinct.subscriptionFind hsub]
    simp only [hsub,Option.bind_some,hkept,h.number index sub kept hsub hkept,hval,if_true]

/-! ## The service -/

def republishRequest (body : List UInt8) : Option (UInt32 × UInt32) :=
  match (do
      let _ ← requestHeaderDecode
      let subscriptionId ← binaryReadUint32
      let sequenceNumber ← binaryReadUint32
      return (subscriptionId, sequenceNumber)) (BinaryReader.init body) with
  | .ok request _ => some request
  | .error _ _ => none

theorem writeResponsePrefix_put (time : TimeAdapter ω)
    (returnDiagnostics responseTypeId requestHandle : UInt32) (serviceResult : StatusCode)
    {w w' : BinaryWriter} (hw : w.status = Status.good) {world world' : ω}
    (h : writeResponsePrefix time returnDiagnostics responseTypeId requestHandle serviceResult
      (w, world) = .ok () (w', world')) : ∃ bytes, w' = w.put bytes := by
  have hput (encode : WriteM Unit) (leaves : List Leaf) (hemits : Emits encode leaves)
      (w w' : BinaryWriter) (hw : w.status = Status.good) (world world' : ω)
      (h : RespondM.put encode (w, world) = .ok () (w', world')) : ∃ bytes, w' = w.put bytes := by
    have hmatch := hemits w hw
    cases hscan : w.scan leaves with
    | done bytes =>
      rw [hscan] at hmatch
      rw [RespondM.put_ok hmatch] at h
      cases h
      exact ⟨bytes,rfl⟩
    | trip s | refuse s =>
      rw [hscan] at hmatch
      obtain ⟨w'',hrun,-⟩ := hmatch
      simp only [RespondM.put,hrun] at h
      cases h
  obtain ⟨⟨⟩,⟨w₁,world₁⟩,hnode,h⟩ := Sticky.ok_of_bind h
  obtain ⟨bytes₁,rfl⟩ := hput _ _ (binaryWriteNodeid_emits _) w w₁ hw world world₁ hnode
  obtain ⟨timestamp,⟨w₂,world₂⟩,htime,h⟩ := Sticky.ok_of_bind h
  cases htime
  obtain ⟨bytes₂,rfl⟩ := hput _ _ (responseHeaderEncode_emits _) (w.put bytes₁) w' hw _ world' h
  exact ⟨bytes₁ ++ bytes₂,(BinaryWriter.put_append w bytes₁ bytes₂).symm⟩

theorem writeBlock_run (block : List UInt8) (overflow : BadStatus) (w : BinaryWriter) :
    writeBlock block overflow w =
      if w.length < w.position ∨ w.length - w.position < block.length then .error overflow w
      else .ok () (w.put block) := by
  unfold writeBlock
  rw [Sticky.bind_ok (rfl : (get : WriteM BinaryWriter) w = .ok w w)]
  split <;> rfl

def respondMessage (cfg : EngineConfig ω κ) (caller : Caller) (requestHandle : UInt32)
    (message : List UInt8) : ServiceM ω κ Nat := do
  respondPrefix cfg caller 835 requestHandle Status.good
  ServiceM.put (writeBlock message Status.badResponseTooLarge)
  ServiceM.finish

theorem respondMessage_outcome (cfg : EngineConfig ω κ) (caller : Caller) (requestHandle : UInt32)
    (message : List UInt8) (work : Work ω κ) (hw : work.writer.status = Status.good)
    (hbuf : work.writer.buffer.isSome = true) :
    Ensures (respondMessage cfg caller requestHandle message).run work fun result work' =>
      (∀ length, result = .ok length →
        message <:+ work'.writer.written ∧ length = work'.writer.written.length) ∧
      (work.writer.position + 32 + message.length ≤ work.writer.length →
        ∃ length, result = .ok length) := by
  unfold respondMessage respondPrefix ServiceM.put
  rw [ensures_exceptBind,ServiceM.ensures_run_respond]
  have hroom (hfit : work.writer.position + 32 + message.length ≤ work.writer.length) :=
    writeResponsePrefix_ok cfg.timeAdapter caller.returnDiagnostics 835 requestHandle Status.good
      (show Emits _ ([[0x01],[0x00],lePutU16 835].map Leaf.field) from binaryWriteNodeid_emits _) rfl
      hw hbuf (by omega) work.engine.world
  unfold ServiceM.encoded
  cases hstart : writeResponsePrefix cfg.timeAdapter caller.returnDiagnostics 835 requestHandle
      Status.good (work.writer, work.engine.world) with
  | error status final =>
    refine ⟨fun _ h => (nomatch h),fun hfit => ?_⟩
    obtain ⟨bytes,world',-,-,hok⟩ := hroom hfit
    rw [hstart] at hok
    cases hok
  | ok _ final =>
    obtain ⟨w₁,world₁⟩ := final
    obtain ⟨bytes,rfl⟩ := writeResponsePrefix_put _ _ _ _ _ hw hstart
    dsimp only
    rw [ensures_exceptBind,ServiceM.ensures_run_respond]
    unfold ServiceM.encoded RespondM.put
    dsimp only
    rw [writeBlock_run]
    by_cases hsmall : (work.writer.put bytes).length < (work.writer.put bytes).position ∨
        (work.writer.put bytes).length - (work.writer.put bytes).position < message.length
    · rw [if_pos hsmall]
      refine ⟨fun _ h => (nomatch h),fun hfit => ?_⟩
      obtain ⟨bytes',world',-,hshort,hok⟩ := hroom hfit
      rw [hstart] at hok
      have hposition : (work.writer.put bytes).position = (work.writer.put bytes').position :=
        congrArg BinaryWriter.position (Prod.mk.inj (EStateM.Result.ok.inj hok).2).1
      simp only [BinaryWriter.put_length,BinaryWriter.put_position] at hsmall hposition
      omega
    · rw [if_neg hsmall]
      simp only [BinaryWriter.put_length,BinaryWriter.put_position] at hsmall
      have hwritten : ((work.writer.put bytes).put message).written =
          (work.writer.put bytes).written ++ message :=
        BinaryWriter.written_put (by simpa using hbuf)
          (by simp only [BinaryWriter.put_length,BinaryWriter.put_position]; omega)
      refine ⟨?_,fun _ => ⟨_,rfl⟩⟩
      rintro length ⟨⟩
      refine ⟨?_,?_⟩
      · show message <:+ ((work.writer.put bytes).put message).written
        rw [hwritten]
        exact List.suffix_append _ _
      · show ((work.writer.put bytes).put message).position =
          ((work.writer.put bytes).put message).written.length
        have hsome : ((work.writer.put bytes).put message).buffer.isSome = true := by simpa using hbuf
        obtain ⟨b,hb⟩ := Option.isSome_iff_exists.mp hsome
        have hlength := ((work.writer.put bytes).put message).sized b hb
        simp only [BinaryWriter.written,hb,Option.getD_some,List.length_take,hlength,
          BinaryWriter.put_length,BinaryWriter.put_position]
        omega

theorem handleRepublish_outcome (cfg : EngineConfig ω κ) (caller : Caller) (e : Engine ω κ)
    (body : List UInt8) (room : Nat) :
    Ensures (handleRepublish cfg caller).run (Work.start e body room) fun result work' =>
      (∀ length, result = .ok length → ∃ subscriptionId sequenceNumber message,
        republishRequest body = some (subscriptionId, sequenceNumber) ∧
        e.subs.republish caller.sessionId subscriptionId sequenceNumber = .ok message ∧
        message <:+ work'.writer.written ∧ length = work'.writer.written.length) ∧
      (∀ subscriptionId sequenceNumber message,
        republishRequest body = some (subscriptionId, sequenceNumber) →
        e.subs.republish caller.sessionId subscriptionId sequenceNumber = .ok message →
        32 + message.length ≤ room → ∃ length, result = .ok length) := by
  unfold handleRepublish
  -- a request that is not decoded asks for nothing
  refine ServiceM.ensures_read_bind (fun status reader hread => ?_) fun req reader₁ hread₁ => ?_
  · replace hread : requestHeaderDecode (BinaryReader.init body) = .error status reader := hread
    refine ⟨fun _ h => (nomatch h),fun _ _ _ h => ?_⟩
    rw [republishRequest,Sticky.bind_error hread] at h
    cases h
  replace hread₁ : requestHeaderDecode (BinaryReader.init body) = .ok req reader₁ := hread₁
  refine ServiceM.ensures_read_bind (fun status reader hread => ?_) fun id reader₂ hread₂ => ?_
  · refine ⟨fun _ h => (nomatch h),fun _ _ _ h => ?_⟩
    rw [republishRequest,Sticky.bind_ok hread₁,Sticky.bind_error hread] at h
    cases h
  refine ServiceM.ensures_read_bind (fun status reader hread => ?_) fun n reader₃ hread₃ => ?_
  · refine ⟨fun _ h => (nomatch h),fun _ _ _ h => ?_⟩
    rw [republishRequest,Sticky.bind_ok hread₁,Sticky.bind_ok hread₂,Sticky.bind_error hread] at h
    cases h
  have hrequest : republishRequest body = some (id, n) := by
    unfold republishRequest
    rw [Sticky.bind_ok hread₁,Sticky.bind_ok hread₂,Sticky.bind_ok hread₃]
    rfl
  rw [ensures_exceptBind,ServiceM.ensures_run_getSubs]
  show Ensures (ServiceM.check (e.subs.republish caller.sessionId id n) >>= fun message =>
    respondMessage cfg caller req.requestHandle message).run _ _
  rw [ensures_exceptBind,ServiceM.ensures_run_check]
  cases hrepublish : e.subs.republish caller.sessionId id n with
  | error status =>
    refine ⟨fun _ h => (nomatch h),fun id' n' message h hok => ?_⟩
    rw [hrequest] at h
    cases h
    rw [hrepublish] at hok
    cases hok
  | ok message =>
    refine (respondMessage_outcome cfg caller req.requestHandle message _ rfl rfl).mono
      fun result work' ⟨hwritten,hroom⟩ => ⟨fun length hlength => ?_,fun id' n' message' h hok hfit =>
        hroom ?_⟩
    · exact ⟨id,n,message,hrequest,hrepublish,hwritten length hlength⟩
    · rw [hrequest] at h
      cases h
      rw [hrepublish] at hok
      cases hok
      show 0 + 32 + message.length ≤ (List.replicate room (0 : UInt8)).length
      rw [List.length_replicate]
      omega

/-- In every run a Good Republish response ends in the last message with data of the subscription,
which has the number, was not acknowledged since and fitted in the slot; such a message is returned
if the response has room for it. -/
theorem republish_returns_latest {cfg : EngineConfig ω κ} {e : Engine ω κ}
    (h : Engine.Reachable cfg e) (caller : Caller) (body : List UInt8) (room : Nat) :
    Ensures (handleRepublish cfg caller).run (Work.start e body room) fun result work' =>
      (∀ length, result = .ok length → ∃ subscriptionId sequenceNumber message,
        republishRequest body = some (subscriptionId, sequenceNumber) ∧
        Republishable e.subs caller.sessionId subscriptionId sequenceNumber message ∧
        message <:+ work'.writer.written ∧ length = work'.writer.written.length) ∧
      (∀ subscriptionId sequenceNumber message,
        republishRequest body = some (subscriptionId, sequenceNumber) →
        Republishable e.subs caller.sessionId subscriptionId sequenceNumber message →
        32 + message.length ≤ room → ∃ length, result = .ok length) := by
  simpa only [republish_ok_iff h.retains] using handleRepublish_outcome cfg caller e body room

/-! ## Two transfers -/

namespace Sample

def transferMessage (n : UInt8) : List UInt8 :=
  [n, 0, 0, 0] ++ List.replicate 8 0 ++
    [1, 0, 0, 0, 1, 0, 0x34, 3, 1, 5, 0, 0, 0, 0, 0, 0x2d, 0, 0]

def transferred (sessionId : UInt32) (n : UInt8) : Subscription where
  nextPublishMs := 50
  retransmit := some ⟨n.toUInt32, 0, ⟨transferMessage n, by simp [transferMessage, retransmitBytes]⟩⟩
  subscriptionId := 1
  sessionId := sessionId
  publishingIntervalMs := 50
  maxKeepAliveCount := 1
  lifetimeCount := 3
  maxNotificationsPerPublish := 0
  sequenceNumber := n.toUInt32 + 1
  keepAliveCounter := 0
  lifetimeCounter := 0
  priority := 0
  publishingEnabled := true
  moreNotifications := false
  resendDataPending := false
  eventQueue := []
  uid := 0

def transferRecord (owner : Bool) (requestUid : Nat) (n : UInt8) : Record :=
  .answered ⟨if owner then 1 else 2, 0, 7, 0, 0, ⟨[], by decide⟩, requestUid⟩ (caller !owner).toLink
    (.notification 0 (transferMessage n) [])

def withSubscription (sub : Subscription) (nextUid : Nat) (records : List Record) :
    Engine Unit Unit :=
  { start with
    subs := { start.subs with
      subscriptions := [some sub, none], nextSubscriptionId := 2, history := ⟨nextUid, records⟩ }
    diag := ⟨⟨[0, 0, 0, 0, 0, 0, 0, 1, 1, 0, 0, 0], rfl⟩⟩ }

def handedOver : Engine Unit Unit := withSubscription (transferred 2 1) 2 [transferRecord true 1 1]

def handedBack : Engine Unit Unit :=
  withSubscription (transferred 1 2) 3 [transferRecord true 1 1, transferRecord false 2 2]

theorem transfer_agrees :
    agrees ((after [create true, publish true]).stepWith config answer (transfer false)) handedOver =
        true ∧
      agrees ((handedOver.stepWith config answer (publish false)).stepWith config answer
        (transfer true)) handedBack = true := by
  unfold transfer call
  simp only [Engine.stepWith,Service.handle]
  unfold handleTransferSubscriptions transferAll
  unfold transferSubscription moveSubscription issueStatusChangeNotification notifyRequest
  unfold emitNotification encodeResponse buildPublishResponse writePublishResponseHeader
  unfold writePublishResponsePrefix writeNotificationHeader writeNotificationData
  unfold writePublishResponseResults writeStatusChangeNotification writeObject backpatchLength
  unfold backpatchInt32 binaryWriteNodeid responseHeaderEncode writeServiceDiagnostics
  unfold binaryWriteExtensionObjectHeader binaryWriteBoolean binaryWriteInt64 binaryWriteStatuscode
  unfold binaryWriteNodeid binaryWriteInt32
  unfold binaryWriteByte binaryWriteUint16 binaryWriteUint32 binaryWriteUint64
  rw [writeFixed_eq_splice,BinaryWriter.patch_eq_splice]
  decide +kernel

theorem reachable_handedOver : Engine.Reachable config handedOver := by
  have h := (reachable_after [create true,publish true]).stepWith answer (transfer false)
  rwa [eq_of_agrees transfer_agrees.1] at h

theorem reachable_handedBack : Engine.Reachable config handedBack := by
  have h := (reachable_handedOver.stepWith answer (publish false)).stepWith answer (transfer true)
  rwa [eq_of_agrees transfer_agrees.2] at h

def acknowledged : Engine Unit Unit :=
  let e := withSubscription { transferred 1 2 with retransmit := none } 4
    [transferRecord true 1 1, transferRecord false 2 2, .acknowledged 0 2]
  { e with subs := { e.subs with
    publishQueue := [some ⟨1, 0, 7, 0, 0, ⟨[Status.good], by decide⟩, 3⟩, none] } }

theorem reachable_acknowledged : Engine.Reachable config acknowledged := by
  have h := reachable_handedBack.stepWith answer (acknowledge true 2)
  rwa [eq_of_agrees (by decide +kernel :
    agrees (handedBack.stepWith config answer (acknowledge true 2)) acknowledged = true)] at h

end Sample

/-- The message that told the first client of the transfer can be sent again to the second one. -/
theorem republish_after_transfer :
    Republishable Sample.handedOver.subs 2 1 1 (Sample.transferMessage 1) ∧ ∀ room,
    Ensures (handleRepublish Sample.config (Sample.caller false)).run
        (Work.start Sample.handedOver (Sample.requestHeader ++ [1, 0, 0, 0, 1, 0, 0, 0]) room)
        fun result work' =>
      (∀ length, result = .ok length → ∃ subscriptionId sequenceNumber message,
        republishRequest (Sample.requestHeader ++ [1, 0, 0, 0, 1, 0, 0, 0]) =
          some (subscriptionId, sequenceNumber) ∧
        Republishable Sample.handedOver.subs (Sample.caller false).sessionId subscriptionId
          sequenceNumber message ∧
        message <:+ work'.writer.written ∧ length = work'.writer.written.length) ∧
      (∀ subscriptionId sequenceNumber message,
        republishRequest (Sample.requestHeader ++ [1, 0, 0, 0, 1, 0, 0, 0]) =
          some (subscriptionId, sequenceNumber) →
        Republishable Sample.handedOver.subs (Sample.caller false).sessionId subscriptionId
          sequenceNumber message →
        32 + message.length ≤ room → ∃ length, result = .ok length) := by
  constructor
  · refine ⟨0,Sample.transferred 2 1,rfl,rfl,rfl,?_,by decide,by decide⟩
    exact ⟨[],_,_,_,[],rfl,by decide,fun _ h => (nomatch h),fun h => nomatch h⟩
  · exact fun room => republish_returns_latest Sample.reachable_handedOver (Sample.caller false)
      (Sample.requestHeader ++ [1,0,0,0,1,0,0,0]) room

/-- Two messages go out and the second is acknowledged. The first is the most recent one that is not
acknowledged, and it fitted in the slot, but it is gone. -/
theorem unacknowledged_message_gone :
    ∃ e : Engine Unit Unit, Engine.Reachable Sample.config e ∧ ∃ sub,
      e.subs.subscription? 0 = some sub ∧ sub.sessionId = 1 ∧ sub.subscriptionId = 1 ∧
      messagesOf sub.uid e.subs.history.records =
        [Sample.transferMessage 1, Sample.transferMessage 2] ∧
      carriesData (Sample.transferMessage 1) = true ∧
      messageNumber (Sample.transferMessage 1) = 1 ∧
      (Sample.transferMessage 1).length ≤ retransmitBytes ∧
      .acknowledged sub.uid 1 ∉ e.subs.history.records ∧
      .acknowledged sub.uid 2 ∈ e.subs.history.records ∧
      messageNumber (Sample.transferMessage 2) = 2 ∧
      e.subs.republish 1 1 1 = .error Status.badMessageNotAvailable :=
  ⟨Sample.acknowledged,Sample.reachable_acknowledged,_,rfl,rfl,rfl,rfl,by decide,by decide,
    by decide,by decide,by decide,by decide,rfl⟩

end MucOpcua
