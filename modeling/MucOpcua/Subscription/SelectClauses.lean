import MucOpcua.Subscription.ChangeDetection
import MucOpcua.Subscription.QueueRuns
import MucOpcua.Subscription.SequenceNumbers
import MucOpcua.Subscription.WhereClauseStored

/-!
# The fields of an event

What an item with an EventFilter sends for an event, against the select clauses that were sent.
-/

namespace MucOpcua

open Sticky

variable {ω κ : Type} {cfg : EngineConfig ω κ} {item : MonitoredItem ω κ}

/-! ## Clauses as sent -/

/-- The select clauses at the head of an EventFilter body. -/
def readSentSelectClauses : ReadM (List SimpleAttributeOperand) := do
  let selectCount ← binaryReadInt32
  return (← readMany readSimpleAttributeOperand selectCount.toInt.toNat).val

theorem readEventFilterBody_selectClauses {caps : FilterCapacities} {profile : CodecProfile}
    {r r₁ r₂ : BinaryReader} {filter : EventFilterBody} {clauses : List SimpleAttributeOperand}
    (hfilter : readEventFilterBody caps profile r = .ok filter r₁)
    (hsent : readSentSelectClauses r = .ok clauses r₂) :
    filter.selectClauses =
      (clauses.take 8).map fun clause => eventFieldFromName clause.lastName := by
  obtain ⟨count,r',hcount,hfilter⟩ := ok_of_bind hfilter
  obtain ⟨count',r'',hcount',hsent⟩ := ok_of_bind hsent
  rw [hcount] at hcount'
  cases hcount'
  obtain ⟨sent,r₃,hmany,hsent⟩ := ok_of_bind hsent
  cases hsent
  dsimp only at hfilter
  split at hfilter
  · cases hfilter
  split at hfilter
  · cases hfilter
  rw [readSelectClauses_eq,map_eq_pure_bind,bind_assoc,bind_ok hmany,pure_bind] at hfilter
  obtain ⟨_,_,_,hfilter⟩ := ok_of_bind hfilter
  cases hfilter
  rfl

/-! ## Clauses as meant -/

/-- The fields of an event by their names. -/
def EventNotification.named (pool : List AuditPayload) (event : EventNotification) :
    List (List UInt8 × Variant) :=
  let audit (value : AuditPayload → Variant) : Variant :=
    ((resolveAuditPayload pool event).map value).getD Variant.zero
  let eventId := ((resolveAuditPayload pool event).map AuditPayload.eventId).getD event.eventId
  [(ascii "EventId", ⟨.byteString, .scalar eventId, 0⟩),
    (ascii "EventType", ⟨.nodeId, .scalar event.eventType, 0⟩),
    (ascii "SourceNode", audit fun payload => ⟨.nodeId, .scalar payload.sourceNode, 0⟩),
    (ascii "SourceName", audit fun _ => ⟨.string, .scalar (MuString.ofBytes (ascii "Server")), 0⟩),
    (ascii "Time", ⟨.dateTime, .scalar event.time, 0⟩),
    (ascii "ReceiveTime", audit fun payload => ⟨.dateTime, .scalar payload.actionTimestamp, 0⟩),
    (ascii "LocalTime", Variant.zero),
    (ascii "Message", ⟨.localizedText, .scalar ⟨MuString.null, event.message⟩, 0⟩),
    (ascii "Severity", ⟨.uint16, .scalar event.severity, 0⟩),
    (ascii "Status", audit fun payload => ⟨.boolean, .scalar payload.status, 0⟩),
    (ascii "ActionTimeStamp", audit fun payload => ⟨.dateTime, .scalar payload.actionTimestamp, 0⟩),
    (ascii "ServerId", audit fun payload => auditStrVariant payload.serverId),
    (ascii "ClientAuditEntryId", audit fun payload => auditStrVariant payload.clientAuditEntryId),
    (ascii "ClientUserId", audit fun payload => auditStrVariant payload.clientUserId),
    (ascii "AttributeId", audit fun payload => ⟨.uint32, .scalar payload.attributeId, 0⟩),
    (ascii "OldValue", audit AuditPayload.oldValue),
    (ascii "NewValue", audit AuditPayload.newValue),
    (ascii "SecureChannelId", audit fun payload => auditStrVariant payload.secureChannelId),
    (ascii "SessionId", audit fun payload => ⟨.nodeId, .scalar payload.sessionId, 0⟩)]

/-- The operand asks for the Value of a field of the event itself, as a whole. -/
def SimpleAttributeOperand.Plain (clause : SimpleAttributeOperand) : Prop :=
  clause.browsePath.map (·.namespaceIndex) = [0] ∧ clause.attributeId = 13 ∧
    clause.indexRange.length ≤ 0

instance (clause : SimpleAttributeOperand) : Decidable clause.Plain :=
  inferInstanceAs (Decidable (_ ∧ _))

/-- The value that a clause selects, Null if it is not of the supported form or names no field. -/
def SimpleAttributeOperand.selected (clause : SimpleAttributeOperand) (pool : List AuditPayload)
    (event : EventNotification) : Variant :=
  if clause.Plain then
    (((event.named pool).find? (·.1 = clause.lastName.bytes)).map Prod.snd).getD Variant.zero
  else Variant.zero

theorem find?_eq_findIdx? {α β : Type} [DecidableEq α] (table : List (α × β)) (a : α) :
    (table.find? (·.1 = a)).map Prod.snd =
      ((table.map Prod.fst).findIdx? (· = a)).bind fun i => (table[i]?).map Prod.snd := by
  induction table with
  | nil => rfl
  | cons entry table ih =>
    rw [List.find?_cons,List.map_cons,List.findIdx?_cons]
    by_cases h : entry.1 = a
    · simp [h]
    · simp [h,ih,Option.bind_map]

theorem resolveField_named (pool : List AuditPayload) (event : EventNotification) (name : MuString) :
    eventNotificationResolveField pool event (eventFieldFromName name) =
      (((event.named pool).find? (·.1 = name.bytes)).map Prod.snd).getD Variant.zero := by
  have hnames : (event.named pool).map Prod.fst = eventFieldNames := rfl
  have hnone : eventNotificationResolveField pool event 0xFF = Variant.zero := by
    cases hpayload : resolveAuditPayload pool event <;>
      simp [eventNotificationResolveField,resolveAuditField,hpayload]
  have hvalues : ∀ i < 19, ((event.named pool)[i]?).map Prod.snd =
      some (eventNotificationResolveField pool event (UInt8.ofNat i)) := by
    intro i hi
    cases hpayload : resolveAuditPayload pool event <;> interval_cases i <;>
      simp [EventNotification.named,eventNotificationResolveField,resolveAuditField,hpayload]
  rw [find?_eq_findIdx?,hnames]
  unfold eventFieldFromName
  split
  · next hempty =>
    have hbytes : name.bytes = [] := by
      apply List.eq_nil_of_length_eq_zero
      rw [name.bytes_length]
      rcases hempty with hnull | hle
      · cases hd : name.data with
        | none => rw [← name.bytes_length,MuString.bytes,hd]; rfl
        | some d => rw [hd] at hnull; cases hnull
      · omega
    rw [hbytes,hnone]
    rfl
  · split
    · next i hfound =>
      have hi : i < 19 := (List.findIdx?_eq_some_iff_getElem.mp hfound).1
      rw [hfound,Option.bind_some,hvalues i hi]
      rfl
    · next hfound =>
      rw [hfound,hnone]
      rfl

/-! ## Fields as written -/

namespace MonitoredItem

/-- The EventFields that go out for an event. -/
def eventFields (cfg : EngineConfig ω κ) (world : ω) (item : MonitoredItem ω κ)
    (event : EventNotification) : List Variant :=
  item.selectClauses.map (eventNotificationResolveField (cfg.auditPool world) event)

theorem writeEventFields_eq (world : ω) (event : EventNotification) :
    writeEventFields cfg world (item, event) = (do
      binaryWriteUint32 item.clientHandle
      binaryWriteInt32 (Int32.ofNat (item.eventFields cfg world event).length)
      writeMany (fun value => binaryWriteVariant (some value))
        (item.eventFields cfg world event)) := by
  have hmany (fields : List UInt8) : writeMany (fun value => binaryWriteVariant (some value))
        (fields.map (eventNotificationResolveField (cfg.auditPool world) event)) =
      writeMany (fun field => binaryWriteVariant
        (some (eventNotificationResolveField (cfg.auditPool world) event field))) fields := by
    induction fields with
    | nil => rfl
    | cons field fields ih => simp only [List.map_cons,writeMany,ih]
  rw [writeEventFields,eventFields,List.length_map,hmany]

/-- The item has the NodeId, the attribute, the range and the select clauses of the request. -/
def CreatedBy (item : MonitoredItem ω κ) (body : CreateBody) : Prop :=
  item.fixed = ((copyMonitoredNodeId body.nodeId, body.attributeId),
    (if 0 ≤ body.indexRangeStart.toInt then body.indexRangeStart else -1, body.indexRangeEnd),
    body.filter.selectClauses)

instance (item : MonitoredItem ω κ) (body : CreateBody) : Decidable (item.CreatedBy body) :=
  inferInstanceAs (Decidable (_ = _))

theorem CreatedBy.of_configure (world : ω) (body : CreateBody) (node : Node ω) (sub : Subscription)
    (timestampsToReturn : UInt32) (nowMs : UInt64) :
    (configureMonitoredItem cfg world item body node sub timestampsToReturn nowMs).1.CreatedBy
      body := by
  have hread :
      (configureMonitoredItem cfg world item body node sub timestampsToReturn nowMs).1.fixed =
        (item.configured cfg world body node sub timestampsToReturn nowMs).fixed := by
    unfold configureMonitoredItem readFirstValue
    split
    · rfl
    split
    · rfl
    · exact fixed_eq rfl rfl rfl rfl rfl
  exact hread

end MonitoredItem

/-! ## Items over a run -/

theorem Move.nextUid_le {A : Allowed} {s s' : Subs ω κ} (hmove : Move cfg A s s') :
    s.history.nextUid ≤ s'.history.nextUid := by
  cases hmove with
  | park | createSubscription | createItem => exact Nat.le_succ _
  | _ => exact Nat.le_refl _

namespace Engine

variable {e e' : Engine ω κ}

theorem Reachable.item_uid_lt (h : Reachable cfg e) {i : Nat} (hitem : e.subs.item? i = some item) :
    item.uid < e.subs.history.nextUid := by
  let Below (s : Subs ω κ) : Prop :=
    ∀ i item, s.item? i = some item → item.uid < s.history.nextUid
  have hall : Below e.subs := by
    refine ReachableIf.of_moves (A := Allowed.all) h
      (fun i item hitem => by cases (Subs.init_item? ..).symm.trans hitem)
      (fun e input _ => input.permitted_all cfg e) fun s s' hs hmove i item' hitem' => ?_
    have hle := hmove.nextUid_le
    rcases hmove.item_before hitem' with ⟨item,hitem,hcleared | hmoved⟩ | ⟨huid,-,hnext⟩
    · rw [hcleared.uid]
      exact (hs i item hitem).trans_le hle
    · rw [hmoved.uid]
      exact (hs i item hitem).trans_le hle
    · omega
  exact hall i item hitem

theorem steps_moved (h : Relation.ReflTransGen (StepIf cfg fun _ _ => True) e e') :
    Moved cfg Allowed.all e.subs e'.subs := by
  induction h with
  | refl => exact .refl
  | tail _ hlast ih =>
    obtain ⟨input,-,hstep⟩ := hlast
    exact ih.trans (Step.moved hstep (input.permitted_all cfg _))

/-- An item keeps what its request fixed as long as it is there. -/
theorem item_fixed (hreach : Reachable cfg e)
    (hrun : Relation.ReflTransGen (StepIf cfg fun _ _ => True) e e') {i : Nat}
    {item' : MonitoredItem ω κ} (hitem : e.subs.item? i = some item)
    (hitem' : e'.subs.item? i = some item') (huid : item'.uid = item.uid) :
    item'.fixed = item.fixed := by
  have hlt := hreach.item_uid_lt hitem
  have hmoved := steps_moved hrun
  -- What is in the slot is the item with its fixed part, or a later item.
  suffices hall : item.uid < e'.subs.history.nextUid ∧ ∀ item', e'.subs.item? i = some item' →
      item'.uid = item.uid → item'.fixed = item.fixed from hall.2 item' hitem' huid
  clear hitem'
  generalize e'.subs = s' at hmoved ⊢
  induction hmoved with
  | refl =>
    refine ⟨hlt,fun item' hitem' _ => ?_⟩
    rw [Option.some.inj (hitem'.symm.trans hitem)]
  | tail _ hmove ih =>
    refine ⟨ih.1.trans_le hmove.nextUid_le,fun item₂ hitem₂ huid₂ => ?_⟩
    rcases hmove.item_before hitem₂ with ⟨item₁,hitem₁,hcleared | hmoved⟩ | ⟨hnew,-,-⟩
    · exact hcleared.fixed.trans (ih.2 item₁ hitem₁ (hcleared.uid.symm.trans huid₂))
    · exact hmoved.fixed.trans (ih.2 item₁ hitem₁ (hmoved.uid.symm.trans huid₂))
    · have := ih.1
      omega

end Engine

/-- The clause is of the supported form, or no field has the name at the end of its path. -/
def SimpleAttributeOperand.Told (clause : SimpleAttributeOperand) : Prop :=
  clause.Plain ∨ eventFieldFromName clause.lastName = 0xFF

theorem SimpleAttributeOperand.Told.resolve {clause : SimpleAttributeOperand} (h : clause.Told)
    (pool : List AuditPayload) (event : EventNotification) :
    eventNotificationResolveField pool event (eventFieldFromName clause.lastName) =
      clause.selected pool event := by
  unfold selected
  split
  · exact resolveField_named pool event clause.lastName
  · next hplain =>
    rw [h.resolve_left hplain]
    cases hpayload : resolveAuditPayload pool event <;>
      simp [eventNotificationResolveField,resolveAuditField,hpayload]

namespace Sample

/-- A select clause for the field of the name. -/
def selectClause (name : String) : List UInt8 :=
  [0, 0, 1, 0, 0, 0, 0, 0, UInt8.ofNat name.length, 0, 0, 0] ++ ascii name ++
    [13, 0, 0, 0, 255, 255, 255, 255]

/-- The body of an EventFilter with the clauses, and no where clause. -/
def filterBody (clauses : List (List UInt8)) : List UInt8 :=
  [UInt8.ofNat clauses.length, 0, 0, 0] ++ clauses.flatten ++ [0, 0, 0, 0]

/-- What is left of the clauses, in the filter and as they were sent. -/
def keptClauses (clauses : List (List UInt8)) : Option (List UInt8 × List UInt8) :=
  match readEventFilterBody config.filterCaps config.profile (.init (filterBody clauses)),
      readSentSelectClauses (.init (filterBody clauses)) with
  | .ok filter _, .ok clauses _ =>
    some (filter.selectClauses, clauses.map fun clause => eventFieldFromName clause.lastName)
  | _, _ => none

def eventFilter : List UInt8 :=
  filterBody [selectClause "Severity", selectClause "Message", selectClause "Colour"]

/-- A request for the events of the Server object. -/
def eventItem : List UInt8 :=
  itemBytes [1, 0, 205, 8] 12
    ([1, 0, 215, 2, 1, UInt8.ofNat eventFilter.length, 0, 0, 0] ++ eventFilter)

/-- A new item is as its request says, and it is there after a sample. -/
def createdAndKept (request : List UInt8) : Bool :=
  match bodyOf request, (withItem request []).subs.item? 0,
      (withItem request [.sample 1000]).subs.item? 0 with
  | some body, some item, some item' => item.CreatedBy body ∧ item'.uid = item.uid
  | _, _, _ => false

theorem item_of_createdAndKept {request : List UInt8} (h : createdAndKept request = true) :
    ∃ body item item', bodyOf request = some body ∧
      (withItem request []).subs.item? 0 = some item ∧ item.CreatedBy body ∧
      (withItem request [.sample 1000]).subs.item? 0 = some item' ∧ item'.uid = item.uid := by
  unfold createdAndKept at h
  split at h
  · next body item item' hbody hitem hitem' =>
    obtain ⟨hcreated,huid⟩ := of_decide_eq_true h
    exact ⟨body,item,item',hbody,hitem,hcreated,hitem',huid⟩
  · cases h

theorem withItem_sampled (request : List UInt8) :
    Relation.ReflTransGen (Engine.StepIf knowing fun _ _ => True) (withItem request [])
      (withItem request [.sample 1000]) :=
  .single ⟨.sample 1000,trivial,rfl⟩

end Sample

end MucOpcua
