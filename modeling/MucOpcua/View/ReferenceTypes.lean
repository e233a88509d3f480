import MucOpcua.AddressSpace.Lookup

/-!
# The hierarchy of reference types

`browse.c` knows the supertypes of some ReferenceTypes of namespace 0 from a table. The hierarchy
itself is the one of the standard, together with what the nodes of the server declare.
-/

namespace MucOpcua

variable {child parent : UInt32}

/-! ## Reference types -/

/-- `ref_type_supertype`: the immediate supertype of a well-known ReferenceType, or 0. -/
def refTypeSupertype (id : UInt32) : UInt32 :=
  match id.toNat with
  | 32 | 33 => 31
  | 34 | 35 | 36 => 33
  | 37 | 38 | 39 | 40 => 32
  | 44 | 45 => 34
  | 46 | 47 => 44
  | 48 => 36
  | _ => 0

/-- The loop of `ref_type_is_subtype_of`. -/
def refTypeClimbs (parent : UInt32) : Nat → UInt32 → Bool
  | 0, _ => false
  | guard + 1, child =>
    if child = 0 then false
    else if refTypeSupertype child = parent then true
    else refTypeClimbs parent guard (refTypeSupertype child)

def refTypeIsSubtypeOf (child parent : NodeId) : Bool :=
  nodeidEqual child parent ||
    match child, parent with
    | ⟨0, .numeric c⟩, ⟨0, .numeric p⟩ => refTypeClimbs p 64 c
    | _, _ => false

def Supertype (child parent : UInt32) : Prop := child ≠ 0 ∧ refTypeSupertype child = parent

theorem refTypeSupertype_lt {id : UInt32} (h : id ≠ 0) :
    (refTypeSupertype id).toNat < id.toNat := by
  have hpos : 0 < id.toNat := by
    have : id.toNat ≠ 0 := fun hzero => h (UInt32.toNat_inj.mp hzero)
    omega
  unfold refTypeSupertype
  split <;> simp_all

theorem refTypeSupertype_of_large {id : UInt32} (h : 48 < id.toNat) : refTypeSupertype id = 0 := by
  unfold refTypeSupertype
  split <;> first | rfl | omega

theorem transGen_supertype_iff : Relation.TransGen Supertype child parent ↔ child ≠ 0 ∧
      (refTypeSupertype child = parent ∨
        Relation.TransGen Supertype (refTypeSupertype child) parent) := by
  rw [Relation.TransGen.head'_iff]
  constructor
  · rintro ⟨above,⟨hne,rfl⟩,hrest⟩
    rcases Relation.reflTransGen_iff_eq_or_transGen.mp hrest with heq | hrest
    · exact ⟨hne,.inl heq.symm⟩
    · exact ⟨hne,.inr hrest⟩
  · rintro ⟨hne,rfl | hrest⟩
    · exact ⟨_,⟨hne,rfl⟩,.refl⟩
    · exact ⟨_,⟨hne,rfl⟩,hrest.to_reflTransGen⟩

theorem transGen_of_refTypeClimbs {guard : Nat}
    (h : refTypeClimbs parent guard child = true) : Relation.TransGen Supertype child parent := by
  induction guard generalizing child with
  | zero => cases h
  | succ guard ih =>
    rw [transGen_supertype_iff]
    unfold refTypeClimbs at h
    split at h
    · cases h
    rename_i hne
    split at h
    · next heq => exact ⟨hne,.inl heq⟩
    · exact ⟨hne,.inr (ih h)⟩

theorem refTypeClimbs_of_transGen {guard : Nat}
    (hguard : child.toNat < guard) (h : Relation.TransGen Supertype child parent) :
    refTypeClimbs parent guard child = true := by
  induction guard generalizing child with
  | zero => omega
  | succ guard ih =>
    obtain ⟨hne,hstep⟩ := transGen_supertype_iff.mp h
    unfold refTypeClimbs
    rw [if_neg hne]
    by_cases heq : refTypeSupertype child = parent
    · rw [if_pos heq]
    rw [if_neg heq]
    have hlt := refTypeSupertype_lt hne
    exact ih (by omega) (hstep.resolve_left heq)

theorem refTypeClimbs_iff :
    refTypeClimbs parent 64 child = true ↔ Relation.TransGen Supertype child parent := by
  refine ⟨transGen_of_refTypeClimbs,fun h => ?_⟩
  by_cases hsmall : child.toNat < 64
  · exact refTypeClimbs_of_transGen hsmall h
  obtain ⟨hne,hstep⟩ := transGen_supertype_iff.mp h
  have hzero : refTypeSupertype child = 0 := refTypeSupertype_of_large (by omega)
  rw [hzero] at hstep
  rcases hstep with rfl | hrest
  · simp [refTypeClimbs,hne,hzero]
  · exact absurd rfl (transGen_supertype_iff.mp hrest).1

theorem refTypeIsSubtypeOf_iff {child parent : NodeId} :
    refTypeIsSubtypeOf child parent = true ↔ nodeidEqual child parent = true ∨
      ∃ c p, child = ⟨0, .numeric c⟩ ∧ parent = ⟨0, .numeric p⟩ ∧
        Relation.TransGen Supertype c p := by
  unfold refTypeIsSubtypeOf
  rw [Bool.or_eq_true]
  refine or_congr Iff.rfl ?_
  split
  · rw [refTypeClimbs_iff]
    constructor
    · intro h
      exact ⟨_,_,rfl,rfl,h⟩
    · rintro ⟨c,p,hc,hp,h⟩
      cases hc
      cases hp
      exact h
  · next hother =>
    constructor
    · intro h
      cases h
    · rintro ⟨c,p,hc,hp,-⟩
      exact absurd hp (hother c p hc)

/-! ## The hierarchy -/

structure DynamicReference where
  sourceNodeId : NodeId
  ref : Reference
  deriving DecidableEq

/-- The references of a node that is found under the NodeId: its own, and those added to it. -/
def nodeReferences (dynRefs : List DynamicReference) (nodeId : NodeId) (node : AddressNode) :
    List Reference :=
  node.references ++
    (dynRefs.filter fun dyn => nodeidEqual dyn.sourceNodeId nodeId).map (·.ref)

/-- Subtypes and their supertypes among the ReferenceTypes of namespace 0. -/
def standardSubtypes : List (UInt32 × UInt32) :=
  [(32, 31), (33, 31), (34, 33), (35, 33), (36, 33), (37, 32), (38, 32), (39, 32), (40, 32),
    (41, 32), (44, 34), (45, 34), (46, 44), (47, 44), (48, 36), (49, 47)]

/-- The types that the table is about. -/
def knownTypes : List UInt32 := [31, 32, 33, 34, 35, 36, 37, 38, 39, 40, 44, 45, 46, 47, 48]

theorem mem_standardSubtypes {c : UInt32} (h : refTypeSupertype c ≠ 0) :
    (c, refTypeSupertype c) ∈ standardSubtypes := by
  have hsmall : c.toNat < 49 := by
    by_contra hlarge
    exact h (refTypeSupertype_of_large (by omega))
  have hall : ∀ k < 49, refTypeSupertype (UInt32.ofNat k) ≠ 0 →
      (UInt32.ofNat k, refTypeSupertype (UInt32.ofNat k)) ∈ standardSubtypes := by decide +kernel
  have hc : UInt32.ofNat c.toNat = c := UInt32.ofNat_toNat
  rw [← hc] at h ⊢
  exact hall c.toNat hsmall h

theorem known_supertype {c : UInt32} (h : c ∈ knownTypes) (hne : refTypeSupertype c ≠ 0) :
    c ≠ 0 ∧ refTypeSupertype c ∈ knownTypes := by
  have hall : knownTypes.all (fun c => refTypeSupertype c = 0 ∨
      c ≠ 0 ∧ refTypeSupertype c ∈ knownTypes) = true := by decide +kernel
  exact (of_decide_eq_true (List.all_eq_true.mp hall c h)).resolve_left hne

theorem supertype_of_mem {c p : UInt32} (h : c ∈ knownTypes) (hmem : (c, p) ∈ standardSubtypes) :
    refTypeSupertype c = p ∧ p ≠ 0 := by
  have hall : standardSubtypes.all (fun entry => entry.1 ∉ knownTypes ∨
      refTypeSupertype entry.1 = entry.2 ∧ entry.2 ≠ 0) = true := by decide +kernel
  exact (of_decide_eq_true (List.all_eq_true.mp hall (c, p) hmem)).resolve_left (not_not_intro h)

section

variable (resolve : NodeId → Option AddressNode) (dynRefs : List DynamicReference)

/-- A HasSubtype reference goes from the parent to the child, or back. -/
def Declares (child parent : NodeId) : Prop :=
  (∃ node, resolve parent = some node ∧
    ⟨⟨0, .numeric 45⟩, child, true⟩ ∈ nodeReferences dynRefs parent node) ∨
  ∃ node, resolve child = some node ∧
    ⟨⟨0, .numeric 45⟩, parent, false⟩ ∈ nodeReferences dynRefs child node

def ImmediateSubtype (child parent : NodeId) : Prop :=
  Declares resolve dynRefs child parent ∨
    ∃ c p, child = ⟨0, .numeric c⟩ ∧ parent = ⟨0, .numeric p⟩ ∧ (c, p) ∈ standardSubtypes

/-- A type is a subtype of itself and of every type above it. -/
def SubtypeOf (child parent : NodeId) : Prop :=
  nodeidEqual child parent = true ∨
    Relation.TransGen (ImmediateSubtype resolve dynRefs) child parent

open Classical in
noncomputable def subtypeOf (child parent : NodeId) : Bool :=
  decide (SubtypeOf resolve dynRefs child parent)

/-- The nodes declare no other supertype of a type that the table knows. -/
def KeepsStandard : Prop :=
  ∀ c parent, c ∈ knownTypes → Declares resolve dynRefs ⟨0, .numeric c⟩ parent →
    refTypeSupertype c ≠ 0 ∧ parent = ⟨0, .numeric (refTypeSupertype c)⟩

/-- The table knows the type, or it is not below the other one. -/
def TypeTold (child parent : NodeId) : Prop :=
  (∃ c, child = ⟨0, .numeric c⟩ ∧ c ∈ knownTypes) ∨
    ¬ Relation.TransGen (ImmediateSubtype resolve dynRefs) child parent

end

section

variable {resolve : NodeId → Option AddressNode} {dynRefs : List DynamicReference}

theorem immediateSubtype_of_transGen {c p : UInt32} (h : Relation.TransGen Supertype c p)
    (hp : p ≠ 0) : Relation.TransGen (ImmediateSubtype resolve dynRefs) ⟨0, .numeric c⟩
      ⟨0, .numeric p⟩ := by
  have hstep {c p : UInt32} (h : Supertype c p) (hp : p ≠ 0) :
      ImmediateSubtype resolve dynRefs ⟨0,.numeric c⟩ ⟨0,.numeric p⟩ := by
    obtain ⟨-,rfl⟩ := h
    exact .inr ⟨c,_,rfl,rfl,mem_standardSubtypes hp⟩
  induction h with
  | single h => exact .single (hstep h hp)
  | tail _ hlast ih => exact (ih hlast.1).tail (hstep hlast hp)

theorem transGen_of_immediateSubtype (hstandard : KeepsStandard resolve dynRefs) {c : UInt32}
    (hknown : c ∈ knownTypes) {parent : NodeId}
    (h : Relation.TransGen (ImmediateSubtype resolve dynRefs) ⟨0, .numeric c⟩ parent) :
    ∃ p, parent = ⟨0, .numeric p⟩ ∧ p ∈ knownTypes ∧ Relation.TransGen Supertype c p := by
  have hstep {c : UInt32} (hknown : c ∈ knownTypes) {parent : NodeId}
      (h : ImmediateSubtype resolve dynRefs ⟨0,.numeric c⟩ parent) :
      ∃ p, parent = ⟨0,.numeric p⟩ ∧ p ∈ knownTypes ∧ Supertype c p := by
    rcases h with hdeclared | ⟨c',p,hc,rfl,hmem⟩
    · obtain ⟨hsuper,rfl⟩ := hstandard c parent hknown hdeclared
      obtain ⟨hne,hp⟩ := known_supertype hknown hsuper
      exact ⟨_,rfl,hp,hne,rfl⟩
    · cases hc
      obtain ⟨rfl,hsuper⟩ := supertype_of_mem hknown hmem
      obtain ⟨hne,hp⟩ := known_supertype hknown hsuper
      exact ⟨_,rfl,hp,hne,rfl⟩
  induction h with
  | single h =>
    obtain ⟨p,rfl,hp,hsuper⟩ := hstep hknown h
    exact ⟨p,rfl,hp,.single hsuper⟩
  | tail _ hlast ih =>
    obtain ⟨b,rfl,hb,hchain⟩ := ih
    obtain ⟨p,rfl,hp,hsuper⟩ := hstep hb hlast
    exact ⟨p,rfl,hp,hchain.tail hsuper⟩

theorem subtypeOf_iff {child parent : NodeId} :
    subtypeOf resolve dynRefs child parent = true ↔ SubtypeOf resolve dynRefs child parent := by
  simp [subtypeOf]

/-- The table says what the hierarchy says about types that it knows. -/
theorem refTypeIsSubtypeOf_eq (hstandard : KeepsStandard resolve dynRefs) {child parent : NodeId}
    (hparent : parent ≠ NodeId.null) (htold : TypeTold resolve dynRefs child parent) :
    refTypeIsSubtypeOf child parent = subtypeOf resolve dynRefs child parent := by
  rw [Bool.eq_iff_iff,refTypeIsSubtypeOf_iff,subtypeOf_iff,SubtypeOf]
  refine or_congr Iff.rfl ⟨?_,fun h => ?_⟩
  · rintro ⟨c,p,rfl,rfl,hchain⟩
    exact immediateSubtype_of_transGen hchain fun hp => hparent (by rw [hp]; rfl)
  · obtain ⟨c,rfl,hknown⟩ := htold.resolve_right (not_not_intro h)
    obtain ⟨p,rfl,-,hchain⟩ := transGen_of_immediateSubtype hstandard hknown h
    exact ⟨c,p,rfl,rfl,hchain⟩

end

end MucOpcua
