import Mathlib

/-!
# Sticky failure

A family of fallible operations shares one state, and a predicate `tripped` on that state says that
an earlier operation failed.
-/

namespace Sticky

variable {ε σ α β γ ω : Type}
variable {m : EStateM ε σ α} {s' : σ}

def stateAfter : EStateM.Result ε σ α → σ
  | .ok _ s => s
  | .error _ s => s

def failed : EStateM.Result ε σ α → Bool
  | .ok _ _ => false
  | .error _ _ => true

@[simp] theorem stateAfter_ok (a : α) (s : σ) :
    stateAfter (.ok a s : EStateM.Result ε σ α) = s := rfl

@[simp] theorem stateAfter_error (e : ε) (s : σ) :
    stateAfter (.error e s : EStateM.Result ε σ α) = s := rfl

@[simp] theorem failed_ok (a : α) (s : σ) : failed (.ok a s : EStateM.Result ε σ α) = false := rfl

@[simp] theorem failed_error (e : ε) (s : σ) :
    failed (.error e s : EStateM.Result ε σ α) = true := rfl

theorem bind_ok {s : σ} {a : α} (h : m s = .ok a s')
    (f : α → EStateM ε σ β) : (m >>= f) s = f a s' := by
  show EStateM.bind m f s = _
  simp only [EStateM.bind,h]

theorem bind_error {s : σ} {e : ε} (h : m s = .error e s')
    (f : α → EStateM ε σ β) : (m >>= f) s = .error e s' := by
  show EStateM.bind m f s = _
  simp only [EStateM.bind,h]

theorem ok_of_bind {f : α → EStateM ε σ β} {s s'' : σ} {b : β}
    (h : (m >>= f) s = .ok b s'') : ∃ a s', m s = .ok a s' ∧ f a s' = .ok b s'' := by
  cases hm : m s with
  | ok a s' =>
    rw [bind_ok hm] at h
    exact ⟨a,s',rfl,h⟩
  | error e s' =>
    rw [bind_error hm] at h
    cases h

theorem ok_of_except_bind {x : Except ε α} {f : α → Except ε β} {b : β}
    (h : (x >>= f) = .ok b) : ∃ a, x = .ok a ∧ f a = .ok b := by
  cases x with
  | error e => cases h
  | ok a => exact ⟨a,rfl,h⟩

theorem get_bind (f : σ → EStateM ε σ α) (s : σ) : (get >>= f) s = f s s := rfl

/-- The operation fails in `s` and leaves `s` alone. -/
def InertAt (m : EStateM ε σ α) (s : σ) : Prop := ∃ e, m s = .error e s

theorem InertAt.bind {s : σ} (h : InertAt m s) (f : α → EStateM ε σ β) : InertAt (m >>= f) s := by
  obtain ⟨e,he⟩ := h
  exact ⟨e,bind_error he f⟩

theorem InertAt.throw (e : ε) (s : σ) : InertAt (throw e : EStateM ε σ α) s := ⟨e,rfl⟩

def runAll (run : ω → EStateM ε σ Unit) (ops : List ω) (s : σ) : σ :=
  ops.foldl (fun s op => stateAfter (run op s)) s

@[simp] theorem runAll_nil (run : ω → EStateM ε σ Unit) (s : σ) : runAll run [] s = s := rfl

@[simp] theorem runAll_cons (run : ω → EStateM ε σ Unit) (op : ω) (ops : List ω) (s : σ) :
    runAll run (op :: ops) s = runAll run ops (stateAfter (run op s)) := rfl

/-- After a call that fails the state stays tripped, and every later call fails and leaves what
`obs` sees of the state as it found it. -/
def Law (tripped : σ → Prop) (obs : σ → γ) (run : ω → EStateM ε σ Unit) (ops : List ω) (s : σ) :
    Prop :=
  ∀ before op later, ops = before ++ op :: later → failed (run op (runAll run before s)) = true →
    tripped (runAll run (before ++ [op]) s) ∧
    ∀ mid next rest, later = mid ++ next :: rest →
      failed (run next (runAll run (before ++ op :: mid) s)) = true ∧
      tripped (runAll run (before ++ op :: mid ++ [next]) s) ∧
      obs (runAll run (before ++ op :: mid ++ [next]) s) = obs (runAll run (before ++ op :: mid) s)

def FirstFailureTrips (tripped : σ → Prop) (run : ω → EStateM ε σ Unit) : List ω → σ → Prop
  | [], _ => True
  | op :: ops, s =>
    match run op s with
    | .ok _ s' => FirstFailureTrips tripped run ops s'
    | .error _ s' => tripped s'

section Inert

variable {tripped : σ → Prop} {obs : σ → γ} {run : ω → EStateM ε σ Unit}
  (hinert : ∀ op s, tripped s → InertAt (run op) s)
include hinert

variable (ops : List ω)

theorem runAll_of_tripped {s : σ} (hs : tripped s) : runAll run ops s = s := by
  induction ops with
  | nil => rfl
  | cons op ops ih =>
    obtain ⟨e,he⟩ := hinert op s hs
    rw [runAll_cons,he,stateAfter_error,ih]

theorem law_of_tripped {s : σ} (hs : tripped s) : Law tripped obs run ops s := by
  intro before op later _ _
  simp only [runAll_of_tripped hinert _ hs]
  refine ⟨hs,fun _ next _ _ => ⟨?_,hs,trivial⟩⟩
  obtain ⟨e,he⟩ := hinert next s hs
  rw [he,failed_error]

theorem law_cons_error {op : ω} {ops : List ω} {s : σ} {e : ε}
    (h : run op s = .error e s') : Law tripped obs run (op :: ops) s ↔ tripped s' := by
  constructor
  · intro law
    have hop := (law [] op ops rfl (by simp [h])).1
    simpa [h] using hop
  · intro hs' before op' later hsplit _
    -- every state after the first call is `s'`, so the split point does not matter
    have hafter : ∀ xs : List ω, runAll run (op :: xs) s = s' := fun xs => by
      rw [runAll_cons,h,stateAfter_error,runAll_of_tripped hinert xs hs']
    have hstay : ∀ xs : List ω, runAll run (before ++ op' :: xs) s = s' := by
      intro xs
      cases before with
      | nil =>
        obtain ⟨rfl,-⟩ : op = op' ∧ ops = later := by simpa using hsplit
        exact hafter xs
      | cons b before =>
        obtain ⟨rfl,-⟩ : op = b ∧ ops = before ++ op' :: later := by simpa using hsplit
        exact hafter (before ++ op' :: xs)
    refine ⟨by rw [hstay []]; exact hs',fun mid next _ _ => ?_⟩
    obtain ⟨e',he'⟩ := hinert next s' hs'
    rw [List.append_assoc,List.cons_append,hstay mid,hstay (mid ++ [next]),he']
    exact ⟨rfl,hs',rfl⟩

omit hinert in
theorem law_cons_ok {op : ω} {ops : List ω} {s : σ}
    (h : run op s = .ok () s') : Law tripped obs run (op :: ops) s ↔ Law tripped obs run ops s' := by
  constructor
  · intro law before op' later hsplit hfail
    have hstep := law (op :: before) op' later (by simp [hsplit])
    simp only [List.cons_append,runAll_cons,h,stateAfter_ok] at hstep
    simpa using hstep hfail
  · intro law before op' later hsplit hfail
    cases before with
    | nil =>
      obtain ⟨rfl,-⟩ : op = op' ∧ ops = later := by simpa using hsplit
      simp [h] at hfail
    | cons b before =>
      obtain ⟨rfl,hrest⟩ : op = b ∧ ops = before ++ op' :: later := by simpa using hsplit
      simp only [List.cons_append,runAll_cons,h,stateAfter_ok] at hfail ⊢
      exact law before op' later hrest hfail

/-- For operations that are inert on a tripped state the law of a call sequence is decided by its
first failure. -/
theorem law_iff_firstFailureTrips (s : σ) :
    Law tripped obs run ops s ↔ FirstFailureTrips tripped run ops s := by
  induction ops generalizing s with
  | nil => simp [Law,FirstFailureTrips]
  | cons op ops ih =>
    cases h : run op s with
    | ok _ s' =>
      rw [FirstFailureTrips,h]
      exact (law_cons_ok h).trans (ih s')
    | error e s' =>
      rw [FirstFailureTrips,h]
      exact law_cons_error hinert h

end Inert

end Sticky
