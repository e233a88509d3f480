import MucOpcua.Subscription.ChangeDetection
import MucOpcua.Subscription.ServiceMoves

/-!
# Trigger links

A link is the id of an item that another item of the subscription keeps. What becomes of the links
when items come and go.
-/

namespace MucOpcua

variable {ω κ : Type} {cfg : EngineConfig ω κ}

namespace Subs

variable {s s' : Subs ω κ}

theorem inUse_iff {subscriptionId monitoredItemId : UInt32} :
    s.inUse subscriptionId monitoredItemId = true ↔ ∃ item, some item ∈ s.items ∧
      item.subscriptionId = subscriptionId ∧ item.monitoredItemId = monitoredItemId := by
  rw [inUse,findMonitoredItemInSubscription,findSlot,List.findIdx?_isSome,List.any_eq_true]
  constructor
  · rintro ⟨slot,hmem,hp⟩
    cases slot with
    | none => cases hp
    | some item => exact ⟨item,hmem,of_decide_eq_true hp⟩
  · rintro ⟨item,hmem,hp⟩
    exact ⟨some item,hmem,decide_eq_true hp⟩

/-! ## Calls -/

/-- The same item, with the same links. -/
def SameLinks (item item' : MonitoredItem ω κ) : Prop :=
  item'.subscriptionId = item.subscriptionId ∧ item'.monitoredItemId = item.monitoredItemId ∧
    item'.triggeredItems = item.triggeredItems

/-- What the services do to the items. An item is deleted only if `P` allows it, and everything
that leaves the links of the items alone is a step. -/
inductive ItemStep (cfg : EngineConfig ω κ) (P : Subs ω κ → UInt32 → UInt32 → Prop) (s : Subs ω κ) :
    Subs ω κ → Prop where
  | create (world : ω) (diag : DiagnosticsSummary) (context : ItemContext) (body : CreateBody)
      (node : Node ω) :
      ItemStep cfg P s (Engine.allocateItem cfg context body node ⟨world, s, diag⟩).2.subs
  | addLink (subscriptionId triggeringItemId linkedItemId : UInt32) :
      ItemStep cfg P s (s.addTriggerLink cfg.caps subscriptionId triggeringItemId linkedItemId).2
  | removeLink (subscriptionId triggeringItemId linkedItemId : UInt32) :
      ItemStep cfg P s (s.removeTriggerLink subscriptionId triggeringItemId linkedItemId).2
  | delete (subscriptionId monitoredItemId : UInt32) (h : P s subscriptionId monitoredItemId) :
      ItemStep cfg P s (s.monitoredItemDelete subscriptionId monitoredItemId).2
  | deleteSubscription (sessionId subscriptionId : UInt32) :
      ItemStep cfg P s (s.subscriptionDelete sessionId subscriptionId).2
  | other (s' : Subs ω κ) (h : Slotwise (Option.Rel SameLinks) s.items s'.items) :
      ItemStep cfg P s s'

/-- No other item of the subscription has a link to the item. -/
def Unlinked (s : Subs ω κ) (subscriptionId monitoredItemId : UInt32) : Prop :=
  ∀ index item, s.item? index = some item → item.subscriptionId = subscriptionId →
    s.findMonitoredItemInSubscription subscriptionId monitoredItemId ≠ some index →
      monitoredItemId ∉ item.triggeredItems

/-! ## Links -/

structure Linked (s : Subs ω κ) : Prop where
  named : ∀ item, some item ∈ s.items → ∀ id ∈ item.triggeredItems,
    s.inUse item.subscriptionId id = true
  distinct : ∀ item, some item ∈ s.items → item.triggeredItems.Nodup

/-- The links are in order, and there is room for one more wherever there should be. -/
structure LinksOk (caps : EngineCapacities) (s : Subs ω κ) : Prop extends Linked s where
  added : ∀ subscriptionId triggeringItemId linkedItemId index item,
    s.findMonitoredItemInSubscription subscriptionId triggeringItemId = some index →
    s.item? index = some item → s.inUse subscriptionId linkedItemId = true →
    item.triggeredItems.countP (s.inUse subscriptionId) < caps.maxTriggerLinks →
      (s.addTriggerLink caps subscriptionId triggeringItemId linkedItemId).1 = Status.good

theorem Linked.linksOk (h : Linked s) (caps : EngineCapacities) : LinksOk caps s := by
  refine ⟨h,fun subscriptionId triggeringItemId linkedItemId index item hindex hitem hlinked
    hroom => ?_⟩
  obtain ⟨item',hitem',rfl,-⟩ := findMonitoredItemInSubscription_some hindex
  rw [hitem] at hitem'
  cases hitem'
  obtain ⟨index',hindex'⟩ := Option.isSome_iff_exists.mp hlinked
  rw [List.countP_eq_length.mpr (h.named item (List.mem_of_getElem? (item?_eq_some.mp hitem)))]
    at hroom
  rw [addTriggerLink,hindex,hindex']
  dsimp only
  rw [hitem]
  dsimp only
  split
  · rfl
  · rw [if_neg (by omega)]

/-- What a step can do to a slot. An item that goes must have no links to it left. -/
inductive SlotLinks (s s' : Subs ω κ) :
    Option (MonitoredItem ω κ) → Option (MonitoredItem ω κ) → Prop where
  | free : SlotLinks s s' none none
  | new (item : MonitoredItem ω κ) (h : item.triggeredItems = []) : SlotLinks s s' none (some item)
  | kept (item item' : MonitoredItem ω κ) (hsub : item'.subscriptionId = item.subscriptionId)
      (hid : item'.monitoredItemId = item.monitoredItemId)
      (hnodup : item.triggeredItems.Nodup → item'.triggeredItems.Nodup)
      (hlinks : ∀ id ∈ item'.triggeredItems,
        id ∈ item.triggeredItems ∨ s.inUse item.subscriptionId id = true) :
      SlotLinks s s' (some item) (some item')
  | gone (item : MonitoredItem ω κ)
      (h : ∀ (i : Nat) item', s'.items[i]? = some (some item') →
        item'.subscriptionId = item.subscriptionId → item.monitoredItemId ∉ item'.triggeredItems) :
      SlotLinks s s' (some item) none

theorem SlotLinks.refl (slot : Option (MonitoredItem ω κ)) : SlotLinks s s' slot slot := by
  cases slot with
  | none => exact .free
  | some item => exact .kept item item rfl rfl (fun h => h) fun _ h => .inl h

theorem Linked.of_slots (h : Linked s) (hslots : Slotwise (SlotLinks s s') s.items s'.items) :
    Linked s' := by
  constructor
  · intro item' hmem' id hlink
    obtain ⟨i,hi⟩ := List.mem_iff_getElem?.mp hmem'
    obtain ⟨slot,hslot,hlinks⟩ := hslots.before hi
    cases hlinks with
    | new _ hnone =>
      rw [hnone] at hlink
      cases hlink
    | kept item _ hsub _ _ hlinks =>
      have huse := (hlinks id hlink).elim (h.named item (List.mem_of_getElem? hslot) id) fun h => h
      -- the item that the link names is still there
      obtain ⟨named,hnamed,hsub₁,hid₁⟩ := inUse_iff.mp huse
      obtain ⟨j,hj⟩ := List.mem_iff_getElem?.mp hnamed
      obtain ⟨slot',hslot',hlinks'⟩ := hslots.after hj
      cases hlinks' with
      | kept _ named' hsub₂ hid₂ =>
        exact inUse_iff.mpr ⟨named',List.mem_of_getElem? hslot',by rw [hsub₂,hsub₁,hsub],
          hid₂.trans hid₁⟩
      | gone _ hfree => exact absurd (hid₁ ▸ hlink) (hfree i item' hi (hsub.trans hsub₁.symm))
  · intro item' hmem'
    obtain ⟨i,hi⟩ := List.mem_iff_getElem?.mp hmem'
    obtain ⟨slot,hslot,hlinks⟩ := hslots.before hi
    cases hlinks with
    | new _ hnone =>
      rw [hnone]
      exact .nil
    | kept item _ _ _ hnodup => exact hnodup (h.distinct item (List.mem_of_getElem? hslot))

theorem Linked.relinked (h : Linked s) (hlinks : s.Relinked s') : Linked s' := by
  rcases hlinks with rfl | ⟨index,item,links,hitem,rfl,hnodup,hnamed⟩
  · exact h
  refine h.of_slots ?_
  rw [items_setItem]
  refine Slotwise.set SlotLinks.refl fun slot hslot => ?_
  cases (item?_eq_some.mp hitem).symm.trans hslot
  exact .kept item _ rfl rfl hnodup hnamed

theorem Linked.step (h : Linked s) (hstep : ItemStep cfg Unlinked s s') : Linked s' := by
  cases hstep with
  | create world diag context body node =>
    obtain ⟨-,next,hsame | ⟨index,hfree,id,hset⟩⟩ :=
      allocateItem_cases cfg context body node ⟨world,s,diag⟩
    · rw [hsame]
      exact ⟨h.named,h.distinct⟩
    refine h.of_slots ?_
    rw [hset,items_setItem]
    refine Slotwise.set SlotLinks.refl fun slot hslot => ?_
    cases hfree.symm.trans hslot
    refine .new _ ?_
    unfold configureMonitoredItem MonitoredItem.readFirstValue
    repeat' split
    all_goals rfl
  | addLink => exact h.relinked (addTriggerLink_relinked _ _ _ _ _)
  | removeLink => exact h.relinked (removeTriggerLink_relinked _ _ _ _)
  | delete subscriptionId monitoredItemId hunlinked =>
    unfold Subs.monitoredItemDelete
    split
    · exact h
    rename_i index hindex
    obtain ⟨gone,hgone,hsub,hid⟩ := findMonitoredItemInSubscription_some hindex
    suffices hlinked : Linked (s.setItem index none) from ⟨hlinked.named,hlinked.distinct⟩
    refine h.of_slots ?_
    rw [items_setItem]
    refine Slotwise.set SlotLinks.refl fun slot hslot => ?_
    cases (item?_eq_some.mp hgone).symm.trans hslot
    refine .gone gone fun i item' hi hsame => ?_
    rw [items_setItem] at hi
    obtain ⟨hne,hi⟩ := (Slotwise.set_cases hi).resolve_left fun h => nomatch h.2
    rw [hid]
    refine hunlinked i item' (item?_eq_some.mpr hi) (hsame.trans hsub) ?_
    rw [hindex]
    exact fun h => hne (Option.some.inj h).symm
  | deleteSubscription sessionId subscriptionId =>
    unfold Subs.subscriptionDelete
    split
    · exact h
    suffices hlinked : Linked (s.releaseItems fun item => item.subscriptionId = subscriptionId) from
      ⟨hlinked.named,hlinked.distinct⟩
    have hitems : (s.releaseItems fun item => item.subscriptionId = subscriptionId).items =
        s.items.map fun slot =>
          slot.bind fun item => if item.subscriptionId = subscriptionId then none else some item := by
      simp [releaseItems,mapItems,items]
    refine h.of_slots ?_
    rw [hitems]
    refine Slotwise.map fun slot hslot => ?_
    cases slot with
    | none => exact .free
    | some item =>
      rw [Option.bind_some]
      split
      · next hsub =>
        refine .gone item fun i item' hi hsame => ?_
        rw [hitems,List.getElem?_map] at hi
        obtain ⟨slot',-,hkept⟩ := Option.map_eq_some_iff.mp hi
        obtain ⟨item₁,-,hkept⟩ := Option.bind_eq_some_iff.mp hkept
        obtain ⟨hother,hitem⟩ := Option.ite_none_left_eq_some.mp hkept
        cases hitem
        exact absurd (hsame.trans hsub) hother
      · exact .refl _
  | other s' hother =>
    refine h.of_slots (hother.mono fun slot slot' hrel => ?_)
    cases hrel with
    | none => exact .free
    | some hsame =>
      obtain ⟨hsub,hid,hlinks⟩ := hsame
      exact .kept _ _ hsub hid (fun h => hlinks ▸ h) fun id hlink => .inl (hlinks ▸ hlink)

/-- If no item is deleted while another one has a link to it, the links are in order in every run. -/
theorem linksOk_of_unlinked (history : History)
    (hrun : Relation.ReflTransGen (ItemStep cfg Unlinked) (Subs.init cfg.caps history) s) :
    LinksOk cfg.caps s := by
  suffices Linked s from this.linksOk _
  induction hrun with
  | refl =>
    have hfree (item : MonitoredItem ω κ) :
        some item ∉ (Subs.init cfg.caps history : Subs ω κ).items := by
      simp [Subs.init,items]
    exact ⟨fun item hmem => absurd hmem (hfree item),fun item hmem => absurd hmem (hfree item)⟩
  | tail _ hstep ih => exact ih.step hstep

end Subs

namespace Sample

def createdItem (s : Subs Unit Unit) : Subs Unit Unit :=
  (Engine.allocateItem config ⟨1, Subs.newSubscription 1 1 true 0 0, 0, 0⟩ counterRequest ⟨none⟩
    ⟨(), s, start.diag⟩).2.subs

/-- Two items, with a link from the first one to the second. -/
def linkedItems : Subs Unit Unit :=
  ((createdItem (createdItem start.subs)).addTriggerLink config.caps 1 1 2).2

theorem linkedItems_reached (P : Subs Unit Unit → UInt32 → UInt32 → Prop) :
    Relation.ReflTransGen (Subs.ItemStep config P) start.subs linkedItems :=
  .tail (.tail (.tail .refl (.create _ _ _ _ _)) (.create _ _ _ _ _)) (.addLink 1 1 2)

/-- The second item is deleted, and the link to it stays. -/
theorem link_dangles : ∃ s, Relation.ReflTransGen (Subs.ItemStep config fun _ _ _ => True)
    start.subs s ∧
    ¬ s.LinksOk config.caps := by
  refine ⟨_,.tail (linkedItems_reached _) (.delete 1 2 trivial),fun h => ?_⟩
  have hdangling : ((linkedItems.monitoredItemDelete 1 2).2.item? 0).map (fun item =>
      (item.triggeredItems,
        (linkedItems.monitoredItemDelete 1 2).2.inUse item.subscriptionId 2)) =
          some ([2], false) := by
    decide +kernel
  obtain ⟨item,hitem,hpair⟩ := Option.map_eq_some_iff.mp hdangling
  obtain ⟨hlinks,hgone⟩ := Prod.mk.inj hpair
  have hnamed := h.named item (List.mem_of_getElem? (Subs.item?_eq_some.mp hitem)) 2
    (by rw [hlinks]; exact List.mem_singleton_self 2)
  rw [hgone] at hnamed
  cases hnamed

theorem linkedItems_linksOk : linkedItems.inUse 1 2 = true ∧ linkedItems.LinksOk config.caps :=
  ⟨by decide +kernel,Subs.linksOk_of_unlinked ⟨0,[]⟩ (linkedItems_reached _)⟩

end Sample

end MucOpcua
