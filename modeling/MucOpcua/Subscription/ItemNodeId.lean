import MucOpcua.Attribute.ReadCache
import MucOpcua.Subscription.SelectClauses

/-!
# The NodeId of a monitored item

An item keeps a copy of the NodeId it was created for. The value source is asked for the copy, and a
change of semantics is compared with it.
-/

namespace MucOpcua

variable {ω κ : Type} {cfg : EngineConfig ω κ} {item : MonitoredItem ω κ}

/-- The copy has room for 32 bytes of a String identifier. -/
def NodeId.Copied (nodeId : NodeId) : Prop := ∀ s, nodeId.identifier = .string s → s.length ≤ 32

theorem nodeidEqual_copyMonitoredNodeId {nodeId : NodeId} (h : nodeId.Copied) (other : NodeId) :
    nodeidEqual (copyMonitoredNodeId nodeId) other = nodeidEqual nodeId other := by
  obtain ⟨ns,identifier⟩ := nodeId
  cases identifier with
  | string s =>
    have hshort : s.bytes.take 32 = s.bytes :=
      List.take_of_length_le (by rw [s.bytes_length]; have := h s rfl; omega)
    unfold copyMonitoredNodeId
    dsimp only
    split
    · next hpos =>
      have hdata : s.data = some s.bytes := by
        obtain ⟨d,hd⟩ := Option.isSome_iff_exists.mp (s.present hpos)
        simp [MuString.bytes,hd]
      have hlength : (s.bytes.length : Int) = s.length := MuString.length_bytes (by omega)
      cases hother : other.identifier <;>
        simp [nodeidEqual,hother,hshort,MuString.ofBytes,hdata,hlength]
    · next hpos =>
      have hle : s.length ≤ 0 := by omega
      cases hother : other.identifier <;> simp [nodeidEqual,hother,hle]
  | _ => rfl

theorem sameNode_copyMonitoredNodeId {nodeId : NodeId} (h : nodeId.Copied) :
    SameNode (copyMonitoredNodeId nodeId) nodeId := by
  cases hid : nodeId.identifier with
  | string s =>
    right
    rw [nodeidEqual_copyMonitoredNodeId h]
    simp [nodeidEqual,hid]
  | _ =>
    left
    simp [copyMonitoredNodeId,hid]

/-- The value source is asked for `nodeId`, and `nodeId` is what a change of semantics of the Value
is compared with. -/
structure MonitoredItem.StandsFor (item : MonitoredItem ω κ) (attributeId : UInt32)
    (nodeId : NodeId) : Prop where
  read : ∃ asked, SameNode asked nodeId ∧ ∀ source, item.resolvedNode.bind Node.value = some source →
    ∀ world, item.readValue world = (item.applyIndexRange (valueSourceRead source world asked).1,
      (valueSourceRead source world asked).2)
  signal : ∀ (slots : List (ItemSlot ω κ)) (i : Nat) (reportable : Bool) (other : NodeId),
    slots[i]? = some ⟨some item, reportable⟩ →
      (signalSemanticChange slots other)[i]? =
        some ⟨some (if attributeId = 13 ∧ nodeidEqual nodeId other then
          { item with semanticsChanged := true, pending := true } else item), reportable⟩

/-- A monitored item stands for the NodeId of its request as long as it is there. -/
theorem monitoredItem_standsFor {body : CreateBody} (h : body.nodeId.Copied) {e e' : Engine ω κ}
    (hreach : Engine.Reachable cfg e) {i : Nat} (hitem : e.subs.item? i = some item)
    (hcreated : item.CreatedBy body)
    (hrun : Relation.ReflTransGen (Engine.StepIf cfg fun _ _ => True) e e')
    {item' : MonitoredItem ω κ} (hitem' : e'.subs.item? i = some item')
    (huid : item'.uid = item.uid) : item'.StandsFor body.attributeId body.nodeId := by
  have hfixed := (Engine.item_fixed hreach hrun hitem hitem' huid).trans hcreated
  have hcopy : item'.nodeId = copyMonitoredNodeId body.nodeId := congrArg (·.1.1) hfixed
  have hattribute : item'.attributeId = body.attributeId := congrArg (·.1.2) hfixed
  refine ⟨⟨copyMonitoredNodeId body.nodeId,sameNode_copyMonitoredNodeId h,?_⟩,?_⟩
  · intro source hsource world
    simp only [MonitoredItem.readValue,hsource,hcopy]
  intro slots i reportable other hslot
  simp only [signalSemanticChange,List.getElem?_map,hslot,Option.map_some,hcopy,hattribute,
    nodeidEqual_copyMonitoredNodeId h]

namespace Sample

/-- The item that a request gets on a server that knows every node. -/
def itemFor (body : CreateBody) : Option (MonitoredItem Unit Unit) :=
  match resolveAndValidateCreateItem { config with resolveNode := fun _ _ => some ⟨none⟩ } ()
    body with
  | .ok node => some (configureMonitoredItem config () (Subs.newItem config 1 1 0) body node
      (Subs.newSubscription 1 1 true 0 0) 0 0).1
  | .error _ => none

def longName : CreateBody :=
  { counterRequest with nodeId := ⟨1, .string (MuString.ofBytes (List.replicate 33 0x61))⟩ }

def eventRequest : CreateBody := { counterRequest with attributeId := 12 }

/-- A longer name is cut, and items for events are not flagged. -/
theorem nodeId_not_kept :
    ((itemFor longName).map fun item => nodeidEqual item.nodeId longName.nodeId) = some false ∧
    ((itemFor eventRequest).map fun item =>
      (signalSemanticChange [⟨some item, false⟩] eventRequest.nodeId).map fun slot =>
        slot.item.map MonitoredItem.semanticsChanged) = some [some false] := by
  decide +kernel

def abc : NodeId := ⟨1, .string (MuString.ofBytes [97, 98, 99])⟩

def namedItem : List UInt8 := itemBytes [3, 1, 0, 3, 0, 0, 0, 97, 98, 99] 13 [0, 0, 0]

theorem namedItem_standsFor :
    ∃ item, (withItem namedItem [.sample 1000]).subs.item? 0 = some item ∧ item.StandsFor 13 abc := by
  obtain ⟨body,item,item',hbody,hitem,hcreated,hitem',huid⟩ :=
    @item_of_createdAndKept namedItem (by decide +kernel)
  have hrequest : (bodyOf namedItem).map (fun body => (body.attributeId, body.nodeId)) =
      some (13, abc) := by decide +kernel
  rw [hbody] at hrequest
  obtain ⟨hattribute,hnode⟩ := Prod.mk.inj (Option.some.inj hrequest)
  refine ⟨item',hitem',?_⟩
  rw [← hattribute,← hnode]
  refine monitoredItem_standsFor ?_ (withItem_reachable namedItem []) hitem hcreated
    (withItem_sampled namedItem) hitem' huid
  rw [hnode]
  rintro s ⟨⟩
  decide

end Sample

end MucOpcua
