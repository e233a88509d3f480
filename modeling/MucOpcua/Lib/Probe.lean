import Mathlib

/-!
# Probing for an unused value

Candidates are tried in turn until one is not in use. If more different candidates are tried than
there are values in use, one of them is found.
-/

namespace Probe

variable {α : Type}

/-- Try `rounds` candidates, the first of them that of number `i`. -/
def probe (candidate : Nat → α) (used : α → Bool) : Nat → Nat → Option α
  | 0, _ => none
  | rounds + 1, i =>
    if used (candidate i) then probe candidate used rounds (i + 1) else some (candidate i)

variable {candidate : Nat → α} {used : α → Bool}

theorem probe_eq_some {rounds i : Nat} {x : α} (h : probe candidate used rounds i = some x) :
    used x = false ∧ ∃ j, i ≤ j ∧ j < i + rounds ∧ x = candidate j := by
  induction rounds generalizing i with
  | zero => cases h
  | succ rounds ih =>
    cases hused : used (candidate i) with
    | true =>
      rw [probe,hused] at h
      obtain ⟨hfree,j,hlow,hhigh,rfl⟩ := ih h
      exact ⟨hfree,j,by omega,by omega,rfl⟩
    | false =>
      rw [probe,hused] at h
      cases h
      exact ⟨hused,i,Nat.le_refl i,by omega,rfl⟩

theorem used_of_probe_eq_none {rounds i : Nat} (h : probe candidate used rounds i = none) {j : Nat}
    (hlow : i ≤ j) (hhigh : j < i + rounds) : used (candidate j) = true := by
  induction rounds generalizing i with
  | zero => omega
  | succ rounds ih =>
    cases hused : used (candidate i) with
    | true =>
      rw [probe,hused] at h
      rcases Nat.eq_or_lt_of_le hlow with rfl | hlt
      · exact hused
      · exact ih h hlt (by omega)
    | false =>
      rw [probe,hused] at h
      cases h

theorem probe_add {rounds i n : Nat} (h : ∀ j, i ≤ j → j < i + n → used (candidate j) = true) :
    probe candidate used (n + rounds) i = probe candidate used rounds (i + n) := by
  induction n generalizing i with
  | zero => rw [Nat.zero_add,Nat.add_zero]
  | succ n ih =>
    rw [Nat.add_right_comm,probe,h i (Nat.le_refl i) (by omega),if_pos rfl,
      ih fun j hlow hhigh => h j (by omega) (by omega),Nat.add_right_comm,Nat.add_assoc]

theorem exists_probe_eq_some [DecidableEq α] {rounds : Nat} {taken : List α} (indices : Finset Nat)
    (htaken : ∀ x, used x = true → x ∈ taken) (hrange : ∀ i ∈ indices, i < rounds)
    (hinj : ∀ i ∈ indices, ∀ j ∈ indices, candidate i = candidate j → i = j)
    (hcard : taken.length < indices.card) : ∃ x, probe candidate used rounds 0 = some x := by
  by_contra hnone
  have hprobe : probe candidate used rounds 0 = none := by
    cases h : probe candidate used rounds 0 with
    | none => rfl
    | some x => exact absurd ⟨x,h⟩ hnone
  have hsub : indices.image candidate ⊆ taken.toFinset := by
    intro x hx
    obtain ⟨i,hi,rfl⟩ := Finset.mem_image.mp hx
    have hlt := hrange i hi
    exact List.mem_toFinset.mpr (htaken _ (used_of_probe_eq_none hprobe (Nat.zero_le i) (by omega)))
  have himage : (indices.image candidate).card = indices.card :=
    Finset.card_image_of_injOn fun i hi j hj h => hinj i hi j hj h
  have hle := Finset.card_le_card hsub
  have hlength := taken.toFinset_card_le
  omega

end Probe
