import Mathlib

/-!
# One resource for many clients

Clients that each expect a resource of their own are given the same one.
-/

namespace Exclusive

variable {ι α : Type} {idle a b : α} {own : ι → α} {i : ι}

def Owned (idle : α) (own : ι → α) (a : α) : Prop :=
  ∃ j, own j = a ∧ ∀ k, k ≠ j → own k = idle

theorem Owned.start (i : ι) : Owned idle (fun _ : ι => idle) idle := ⟨i,rfl,fun _ _ => rfl⟩

theorem Owned.own_eq (h : Owned idle own a) (hothers : ∀ k, k ≠ i → own k = idle) : own i = a := by
  classical
  obtain ⟨j,hj,hidle⟩ := h
  by_cases hij : i = j
  · rw [hij,hj]
  · rw [hidle i hij,← hj,hothers j (Ne.symm hij)]

theorem Owned.update [DecidableEq ι] (hothers : ∀ k, k ≠ i → own k = idle) (b : α) :
    Owned idle (Function.update own i b) b := by
  refine ⟨i,Function.update_self ..,fun k hk => ?_⟩
  rw [Function.update_of_ne hk]
  exact hothers k hk

end Exclusive
