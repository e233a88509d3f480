import Mathlib

/-!
# Tables that change slot by slot

`Slotwise R t t'` says that `t'` has the slots of `t`, each changed along `R`.
-/

def Slotwise {α : Type} (R : α → α → Prop) : List α → List α → Prop := List.Forall₂ R

namespace Slotwise

variable {α : Type} {R : α → α → Prop} {t t' : List α}

theorem refl (hrefl : ∀ a, R a a) (t : List α) : Slotwise R t t :=
  List.forall₂_same.mpr fun a _ => hrefl a

theorem map {f : α → α} (h : ∀ a ∈ t, R a (f a)) : Slotwise R t (t.map f) :=
  List.forall₂_map_right_iff.mpr (List.forall₂_same.mpr h)

variable {i : Nat}

theorem modify (hrefl : ∀ a, R a a) {f : α → α}
    (h : ∀ a, t[i]? = some a → R a (f a)) : Slotwise R t (t.modify i f) := by
  induction t generalizing i with
  | nil => cases i <;> exact .nil
  | cons a t ih =>
    cases i with
    | zero => exact .cons (h a rfl) (refl hrefl t)
    | succ i => exact .cons (hrefl a) (ih h)

theorem set (hrefl : ∀ a, R a a) {b : α} (h : ∀ a, t[i]? = some a → R a b) :
    Slotwise R t (t.set i b) := by
  induction t generalizing i with
  | nil => exact .nil
  | cons a t ih =>
    cases i with
    | zero => exact .cons (h a rfl) (refl hrefl t)
    | succ i => exact .cons (hrefl a) (ih h)

theorem mono {R' : α → α → Prop} (h : Slotwise R t t') (himp : ∀ a b, R a b → R' a b) :
    Slotwise R' t t' :=
  List.Forall₂.imp himp h

theorem rel_mono {R' : α → α → Prop} {a b : Option α} (h : Option.Rel R a b)
    (himp : ∀ a b, R a b → R' a b) : Option.Rel R' a b := by
  cases h with
  | none => exact .none
  | some hab => exact .some (himp _ _ hab)

theorem before (h : Slotwise R t t') {b : α} (hb : t'[i]? = some b) :
    ∃ a, t[i]? = some a ∧ R a b := by
  induction h generalizing i with
  | nil => cases hb
  | cons hab _ ih =>
    cases i with
    | zero =>
      cases hb
      exact ⟨_,rfl,hab⟩
    | succ i => exact ih hb

theorem length_eq (h : Slotwise R t t') : t'.length = t.length := (List.Forall₂.length_eq h).symm

theorem after (h : Slotwise R t t') {a : α} (ha : t[i]? = some a) :
    ∃ b, t'[i]? = some b ∧ R a b :=
  before (R := flip R) (List.Forall₂.flip h) ha

theorem countP_eq (h : Slotwise R t t') {p : α → Bool} (hp : ∀ a b, R a b → p b = p a) :
    t'.countP p = t.countP p := by
  induction h with
  | nil => rfl
  | cons hab _ ih => rw [List.countP_cons,List.countP_cons,ih,hp _ _ hab]

/-- A slot of a table with one slot set. -/
theorem set_cases {j : Nat} {a b : α} (h : (t.set i b)[j]? = some a) :
    j = i ∧ a = b ∨ j ≠ i ∧ t[j]? = some a := by
  rw [List.getElem?_set] at h
  by_cases hij : i = j
  · rw [if_pos hij] at h
    split at h
    · exact .inl ⟨hij.symm,(Option.some.inj h).symm⟩
    · cases h
  · exact .inr ⟨Ne.symm hij,by rwa [if_neg hij] at h⟩

theorem countP_set {a b : α} (ha : t[i]? = some a) (p : α → Bool) :
    (t.set i b).countP p + (if p a then 1 else 0) = t.countP p + if p b then 1 else 0 := by
  obtain ⟨hlt,rfl⟩ := List.getElem?_eq_some_iff.mp ha
  have hpos : (if p t[i] then 1 else 0) ≤ t.countP p := by
    split
    · next hp => exact List.countP_pos_iff.mpr ⟨t[i],List.getElem_mem hlt,hp⟩
    · exact Nat.zero_le _
  rw [List.countP_set hlt]
  omega

end Slotwise
