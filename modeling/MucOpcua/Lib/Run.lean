import Mathlib

/-!
# Runs of a transition system

A system is a step function on states and inputs. `AllSteps P` says of a run that `P` holds of every
state it passes and the input taken there. What one step preserves, every run preserves. A system
with outputs simulates another if related states give the same outputs and stay related.
-/

namespace Run

variable {σ ι : Type} {step : σ → ι → σ}

def AllSteps (step : σ → ι → σ) (P : σ → ι → Prop) : σ → List ι → Prop
  | _, [] => True
  | s, x :: xs => P s x ∧ AllSteps step P (step s x) xs

/-- If every step that meets `C` keeps the invariant and has `Q`, then so does every run. -/
theorem AllSteps.of_invariant {Inv : σ → Prop} {C Q : σ → ι → Prop}
    (hstep : ∀ s x, Inv s → C s x → Q s x ∧ Inv (step s x)) {s : σ} {xs : List ι} (hs : Inv s)
    (h : AllSteps step C s xs) : AllSteps step Q s xs := by
  induction xs generalizing s with
  | nil => trivial
  | cons x xs ih =>
    obtain ⟨hx,hxs⟩ := h
    obtain ⟨hq,hinv⟩ := hstep s x hs hx
    exact ⟨hq,ih hinv hxs⟩

/-! ## Runs with outputs -/

variable {τ ο : Type}

def outputs (step : σ → ι → σ × List ο) : σ → List ι → σ × List ο
  | s, [] => (s, [])
  | s, x :: xs =>
    let rest := outputs step (step s x).1 xs
    (rest.1, (step s x).2 ++ rest.2)

theorem outputs_simulates {step : σ → ι → σ × List ο} {spec : τ → ι → τ × List ο} {R : σ → τ → Prop}
    (hstep : ∀ s t x, R s t → R (step s x).1 (spec t x).1 ∧ (step s x).2 = (spec t x).2)
    {s : σ} {t : τ} (h : R s t) (xs : List ι) :
    R (outputs step s xs).1 (outputs spec t xs).1 ∧
      (outputs step s xs).2 = (outputs spec t xs).2 := by
  induction xs generalizing s t with
  | nil => exact ⟨h,rfl⟩
  | cons x xs ih =>
    obtain ⟨hrel,hout⟩ := hstep s t x h
    obtain ⟨hrest,houts⟩ := ih hrel
    exact ⟨hrest,by rw [outputs,outputs,hout,houts]⟩

end Run
