import MucOpcua.NodeManagement.DynamicSpace

/-!
# What deletion leaves behind

The dynamic references after a DeleteNodes and a DeleteReferences item that was answered Good.
-/

namespace MucOpcua

variable {α : Type} {entries : List α} {x : α} {j : Nat}

/-! ## Removal by swapping -/

theorem perm_swapRemove (h : entries[j]? = some x) : (x :: swapRemove entries j).Perm entries := by
  rcases List.eq_nil_or_concat entries with rfl | ⟨front,last,rfl⟩
  · cases h
  rw [List.concat_eq_append] at h ⊢
  have hlast : (front ++ [last]).getLast? = some last := by simp
  simp only [swapRemove,hlast]
  rcases Nat.lt_or_ge j front.length with hj | hj
  · rw [List.getElem?_append_left hj] at h
    obtain ⟨-,rfl⟩ := List.getElem?_eq_some_iff.mp h
    rw [List.set_append_left _ _ hj,List.dropLast_concat]
    calc (front[j] :: front.set j last).Perm (front[j] :: last :: front.eraseIdx j) :=
          (List.set_perm_cons_eraseIdx hj last).cons _
      _ |>.Perm (last :: front[j] :: front.eraseIdx j) := .swap ..
      _ |>.Perm (last :: front) := (List.getElem_cons_eraseIdx_perm hj).cons _
      _ |>.Perm (front ++ [last]) := (List.perm_append_singleton last front).symm
  · rw [List.getElem?_append_right hj] at h
    obtain ⟨hlt,rfl⟩ := List.getElem?_eq_some_iff.mp h
    obtain rfl : j = front.length := by
      rw [List.length_singleton] at hlt
      omega
    simpa using (List.perm_append_singleton last front).symm

theorem take_swapRemove (h : entries[j]? = some x) :
    (swapRemove entries j).take j = entries.take j := by
  obtain ⟨hj,-⟩ := List.getElem?_eq_some_iff.mp h
  unfold swapRemove
  split
  · rfl
  · rw [List.dropLast_eq_take,List.take_take,List.length_set,Nat.min_eq_left (by omega),
      List.take_set_of_le (Nat.le_refl j)]

def DynamicReference.Touches (dyn : DynamicReference) (nodeId : NodeId) : Prop :=
  nodeidEqual dyn.sourceNodeId nodeId ∨ nodeidEqual dyn.ref.targetId nodeId

theorem removeReferences_untouched {nodeId : NodeId} {references : List DynamicReference}
    (fuel j : Nat) (hfuel : references.length ≤ fuel + j)
    (hseen : ∀ dyn ∈ references.take j, ¬ dyn.Touches nodeId) :
    ∀ dyn ∈ removeReferences nodeId fuel j references, ¬ dyn.Touches nodeId := by
  -- what was passed over stays in its place, and the rest is still to come
  induction fuel generalizing j references with
  | zero => rwa [List.take_of_length_le (by omega)] at hseen
  | succ fuel ih =>
    unfold removeReferences
    split
    · next hj => rwa [List.take_of_length_le (List.getElem?_eq_none_iff.mp hj)] at hseen
    rename_i dyn hj
    split
    · have hlength := (perm_swapRemove hj).length_eq
      rw [List.length_cons] at hlength
      exact ih j (by omega) (by rwa [take_swapRemove hj])
    rename_i hother
    refine ih (j + 1) (by omega) ?_
    rw [List.take_add_one,hj]
    exact List.forall_mem_append.mpr ⟨hseen,List.forall_mem_singleton.mpr hother⟩

/-! ## What the items ask for -/

/-- If the item is answered Good, the node is no longer a source, nor a target if this was asked
for, and a node added under its id has no references. -/
def NodeDeleted (item : DeleteNodesItem) (space : DynamicSpace) : Prop :=
  (deleteNodesItem item space).1 = Status.good →
    let after := (deleteNodesItem item space).2
    (∀ dyn ∈ after.references, nodeidEqual dyn.sourceNodeId item.nodeId = false) ∧
      (item.deleteTargetReferences = true →
        ∀ dyn ∈ after.references, nodeidEqual dyn.ref.targetId item.nodeId = false) ∧
      ∀ cfg added, ∀ dyn ∈ (addNodesItem cfg added after).2.references,
        nodeidEqual dyn.sourceNodeId item.nodeId = false

structure DeleteReferencesItem extends AddReferencesItem where
  deleteBidirectional : Bool

def AddReferencesItem.opposite (item : AddReferencesItem) : AddReferencesItem :=
  ⟨item.targetNodeId, item.referenceTypeId, !item.isForward, item.sourceNodeId⟩

def ReferenceDeleted (item : DeleteReferencesItem) (space : DynamicSpace) : Prop :=
  (deleteReferencesItem item.toAddReferencesItem space).1 = Status.good →
    let after := (deleteReferencesItem item.toAddReferencesItem space).2
    (∀ dyn ∈ after.references, item.names dyn = false) ∧
      (item.deleteBidirectional = true → ∀ dyn ∈ after.references, item.opposite.names dyn = false)

theorem nodeDeleted_iff (item : DeleteNodesItem) (space : DynamicSpace) : NodeDeleted item space ↔
      (hasNode space.nodes item.nodeId = true → item.deleteTargetReferences = true ∨
        ∀ dyn ∈ space.references, nodeidEqual dyn.sourceNodeId item.nodeId = false) := by
  unfold NodeDeleted deleteNodesItem
  cases hfind : space.nodes.findIdx? fun node => nodeidEqual node.nodeId item.nodeId with
  | none =>
    have hno : hasNode space.nodes item.nodeId = false := by
      simpa [hasNode] using List.findIdx?_eq_none_iff.mp hfind
    simp [hno,Status.badNodeIdUnknown.property]
  | some j =>
    have hyes : hasNode space.nodes item.nodeId = true := by
      rw [hasNode,← List.findIdx?_isSome,hfind]
      rfl
    simp only [hyes,true_implies,addNodesItem_references]
    cases item.deleteTargetReferences with
    | false =>
      simp only [Bool.false_eq_true,false_implies,true_and,false_or]
      exact ⟨fun h => h.1,fun h => ⟨h,fun _ _ => h⟩⟩
    | true =>
      have hclean : ∀ dyn ∈ removeReferences item.nodeId space.references.length 0 space.references,
          ¬ dyn.Touches item.nodeId :=
        removeReferences_untouched _ 0 (Nat.le_refl _) (by simp)
      have hsource dyn hdyn := eq_false_of_ne_true fun h => hclean dyn hdyn (.inl h)
      have htarget dyn hdyn := eq_false_of_ne_true fun h => hclean dyn hdyn (.inr h)
      simp only [true_or,iff_true,true_implies]
      exact ⟨hsource,htarget,fun _ _ => hsource⟩

theorem referenceDeleted_iff (item : DeleteReferencesItem) (space : DynamicSpace) :
    ReferenceDeleted item space ↔
      space.references.countP item.names = 0 ∨ (space.references.countP item.names = 1 ∧
        (item.deleteBidirectional = true → space.references.countP item.opposite.names = 0)) := by
  rw [ReferenceDeleted,deleteReferencesItem]
  dsimp only
  split
  · rename_i hfind
    have hno : space.references.countP item.names = 0 := List.countP_eq_zero.mpr
      (by simpa [AddReferencesItem.names] using List.findIdx?_eq_none_iff.mp hfind)
    simp [hno,Status.badNotFound.property]
  · rename_i j hfind
    obtain ⟨hj,hnames,-⟩ : ∃ h, item.names (space.references[j]) = true ∧ _ :=
      List.findIdx?_eq_some_iff_getElem.mp hfind
    have hperm := perm_swapRemove (List.getElem?_eq_getElem hj)
    have hnamed := hperm.countP_eq item.names
    have hopposite := hperm.countP_eq item.opposite.names
    rw [List.countP_cons_of_pos hnames] at hnamed
    have hno : item.opposite.names space.references[j] = false := by
      simp only [AddReferencesItem.names,Bool.and_eq_true,beq_iff_eq] at hnames
      simp [AddReferencesItem.names,AddReferencesItem.opposite,hnames.2]
    rw [List.countP_cons_of_neg (by simp [hno])] at hopposite
    simp only [← hnamed,← hopposite]
    simp

/-- A DeleteNodes item that is answered Good leaves no references of the node exactly if it asks for
the target references or the node has none. A DeleteReferences item does so exactly if the table has
the reference once and, where both directions are to be deleted, not in the other direction. -/
theorem deletion_complete_iff (space : DynamicSpace) : (∀ item, NodeDeleted item space ↔
      (hasNode space.nodes item.nodeId = true → item.deleteTargetReferences = true ∨
        ∀ dyn ∈ space.references, nodeidEqual dyn.sourceNodeId item.nodeId = false)) ∧
    ∀ item, ReferenceDeleted item space ↔
      space.references.countP item.names = 0 ∨ (space.references.countP item.names = 1 ∧
        (item.deleteBidirectional = true → space.references.countP item.opposite.names = 0)) :=
  ⟨fun item => nodeDeleted_iff item space,fun item => referenceDeleted_iff item space⟩

def Sample.toObjects : AddReferencesItem := ⟨⟨1, .numeric 1000⟩, ns0 35, true, ns0 85⟩

open Sample in
/-- The reference of a deleted node stays and is that of the next node under its id; a reference
that was added twice, and the one in the other direction, stay as well. -/
theorem deletion_incomplete :
    ¬ NodeDeleted ⟨⟨1, .numeric 1000⟩, false⟩ (addReferencesProcess nodeConfig [toObjects]
        (addNodesProcess nodeConfig [autoItem] ⟨[], []⟩).2).2 ∧
      ¬ ReferenceDeleted ⟨toObjects, false⟩
        (addReferencesProcess nodeConfig [toObjects, toObjects] ⟨[], []⟩).2 ∧
      ¬ ReferenceDeleted ⟨toObjects, true⟩
        (addReferencesProcess nodeConfig [toObjects, toObjects.opposite] ⟨[], []⟩).2 := by
  refine ⟨fun h => ?_,fun h => ?_,fun h => ?_⟩
  · exact absurd (h (by decide)).1 (by decide)
  · exact absurd (h (by decide)).1 (by decide)
  · exact absurd ((h (by decide)).2 rfl) (by decide)

end MucOpcua
