import Mathlib

/-!
# Programs that ask their environment

A program is done with a result, or it puts a question and goes on with whatever answer it gets.
`Always P` says that `P` holds of the result for all answers, and `Leads m a` that some answers
lead to the result `a`. `Ensures` is the postcondition of a program with a state, and `Moves` says
of such a program that all it does to its state is a sequence of steps of a relation.
-/

/-- Programs with questions `ι`, where `ο q` are the answers to `q`. -/
inductive Interact (ι : Type) (ο : ι → Type) (α : Type) where
  | done (a : α)
  | ask (q : ι) (next : ο q → Interact ι ο α)

namespace Interact

variable {ι : Type} {ο : ι → Type} {α β γ S T : Type}

protected def bind : Interact ι ο α → (α → Interact ι ο β) → Interact ι ο β
  | done a, f => f a
  | ask q next, f => ask q fun answer => (next answer).bind f

instance : Monad (Interact ι ο) where
  pure := done
  bind := Interact.bind

def question (q : ι) : Interact ι ο (ο q) := ask q done

@[simp] theorem done_bind (a : α) (f : α → Interact ι ο β) : done a >>= f = f a := rfl

@[simp] theorem pure_eq_done (a : α) : (pure a : Interact ι ο α) = done a := rfl

private theorem bind_done (m : Interact ι ο α) : m.bind done = m := by
  induction m with
  | done a => rfl
  | ask q next ih =>
    exact congrArg (ask q) (funext ih)

private theorem bind_bind (m : Interact ι ο α) (f : α → Interact ι ο β)
    (g : β → Interact ι ο γ) : (m.bind f).bind g = m.bind fun a => (f a).bind g := by
  induction m with
  | done a => rfl
  | ask q next ih =>
    exact congrArg (ask q) (funext ih)

instance : LawfulMonad (Interact ι ο) :=
  LawfulMonad.mk' _ bind_done (fun _ _ => rfl) bind_bind

/-! ## All results -/

def Always (P : α → Prop) : Interact ι ο α → Prop
  | done a => P a
  | ask _ next => ∀ answer, (next answer).Always P

inductive Leads : Interact ι ο α → α → Prop where
  | done (a : α) : Leads (.done a) a
  | ask {q : ι} {next : ο q → Interact ι ο α} {a : α} (answer : ο q) (h : Leads (next answer) a) :
      Leads (.ask q next) a

variable {P Q : α → Prop}

@[simp] theorem always_done (a : α) : (done a : Interact ι ο α).Always P ↔ P a := Iff.rfl

variable {m : Interact ι ο α}

theorem always_iff_leads : m.Always P ↔ ∀ a, m.Leads a → P a := by
  constructor
  · intro h a hlead
    induction hlead with
    | done a => exact h
    | ask answer _ ih => exact ih (h answer)
  · intro h
    induction m with
    | done a => exact h a (.done a)
    | ask q next ih => exact fun answer => ih answer fun a hlead => h a (.ask answer hlead)

variable {f : α → Interact ι ο β}

theorem always_bind {P : β → Prop} : (m >>= f).Always P ↔ m.Always fun a => (f a).Always P := by
  induction m with
  | done a => exact Iff.rfl
  | ask q next ih => exact forall_congr' ih

theorem leads_bind {b : β} : (m >>= f).Leads b ↔ ∃ a, m.Leads a ∧ (f a).Leads b := by
  constructor
  · intro h
    induction m with
    | done a => exact ⟨a,.done a,h⟩
    | ask q next ih =>
      cases h with
      | ask answer h =>
        obtain ⟨a,ha,hb⟩ := ih answer h
        exact ⟨a,.ask answer ha,hb⟩
  · rintro ⟨a,ha,hb⟩
    induction ha with
    | done a => exact hb
    | ask answer _ ih => exact .ask answer (ih hb)

theorem Always.mono (h : m.Always P) (himp : ∀ a, P a → Q a) : m.Always Q := by
  induction m with
  | done a => exact himp a h
  | ask q next ih => exact fun answer => ih answer (h answer)

def run (answer : (q : ι) → ο q) : Interact ι ο α → α
  | done a => a
  | ask q next => (next (answer q)).run answer

@[simp] theorem run_bind (answer : (q : ι) → ο q) (m : Interact ι ο α) (f : α → Interact ι ο β) :
    (m >>= f).run answer = (f (m.run answer)).run answer := by
  induction m with
  | done a => rfl
  | ask q next ih => exact ih (answer q)

theorem leads_run (answer : (q : ι) → ο q) (m : Interact ι ο α) : m.Leads (m.run answer) := by
  induction m with
  | done a => exact .done a
  | ask q next ih => exact .ask (answer q) (ih (answer q))

/-! ## Questions -/

def asked (answer : (q : ι) → ο q) : Interact ι ο α → List ι
  | done _ => []
  | ask q next => q :: (next (answer q)).asked answer

def runOption (answer : (q : ι) → Option (ο q)) : Interact ι ο α → Option α
  | done a => some a
  | ask q next => (answer q).bind fun x => (next x).runOption answer

@[simp] theorem asked_bind (answer : (q : ι) → ο q) (m : Interact ι ο α) (f : α → Interact ι ο β) :
    (m >>= f).asked answer = m.asked answer ++ (f (m.run answer)).asked answer := by
  induction m with
  | done a => rfl
  | ask q next ih => exact congrArg (q :: ·) (ih (answer q))

theorem run_of_runOption {answer : (q : ι) → Option (ο q)} {answer' : (q : ι) → ο q}
    (hsame : ∀ q x, answer q = some x → answer' q = x) {a : α}
    (h : m.runOption answer = some a) : m.run answer' = a := by
  induction m with
  | done b => exact Option.some.inj h
  | ask q next ih =>
    obtain ⟨x,hx,hnext⟩ := Option.bind_eq_some_iff.mp h
    rw [run,hsame q x hx]
    exact ih x hnext

theorem runOption_eq_run {answer : (q : ι) → Option (ο q)} {answer' : (q : ι) → ο q}
    (hsame : ∀ q x, answer q = some x → answer' q = x) (m : Interact ι ο α)
    (h : ∀ q ∈ m.asked answer', (answer q).isSome = true) :
    m.runOption answer = some (m.run answer') := by
  induction m with
  | done a => rfl
  | ask q next ih =>
    obtain ⟨hq,hnext⟩ := List.forall_mem_cons.mp h
    obtain ⟨x,hx⟩ := Option.isSome_iff_exists.mp hq
    rw [runOption,hx,← hsame q x hx]
    exact ih (answer' q) hnext

/-- Whatever the answers, the program puts no other questions than `qs`, in their order. -/
def AsksWithin (m : Interact ι ο α) (qs : List ι) : Prop :=
  ∀ answer : (q : ι) → ο q, (m.asked answer).Sublist qs

theorem AsksWithin.pure (a : α) (qs : List ι) : AsksWithin (pure a : Interact ι ο α) qs :=
  fun _ => List.nil_sublist qs

theorem AsksWithin.question (q : ι) : AsksWithin (question q : Interact ι ο (ο q)) [q] :=
  fun _ => List.Sublist.refl [q]

theorem AsksWithin.bind {qs qs' : List ι}
    (hm : m.AsksWithin qs) (hf : ∀ a, (f a).AsksWithin qs') : (m >>= f).AsksWithin (qs ++ qs') := by
  intro answer
  rw [asked_bind]
  exact (hm answer).append (hf (m.run answer) answer)

theorem AsksWithin.mono {qs qs' : List ι} (hm : m.AsksWithin qs)
    (h : qs.Sublist qs') : m.AsksWithin qs' := fun answer => (hm answer).trans h

/-! ## Programs with a state -/

/-- Started in `s`, the program ends with a result and a state of which `Q` holds. -/
def Ensures (m : StateT S (Interact ι ο) α) (s : S) (Q : α → S → Prop) : Prop :=
  (m s).Always fun r => Q r.1 r.2

section State

variable {s : S} {Q : α → S → Prop} {m : StateT S (Interact ι ο) α}

theorem Ensures.mono {Q' : α → S → Prop} (h : Ensures m s Q) (himp : ∀ a s', Q a s' → Q' a s') :
    Ensures m s Q' :=
  Always.mono h fun r => himp r.1 r.2

@[simp] theorem ensures_pure (a : α) : Ensures (pure a : StateT S (Interact ι ο) α) s Q ↔ Q a s :=
  Iff.rfl

theorem ensures_bind {f : α → StateT S (Interact ι ο) β} {Q : β → S → Prop} :
    Ensures (m >>= f) s Q ↔ Ensures m s fun a s' => Ensures (f a) s' Q :=
  always_bind

@[simp] theorem ensures_get {Q : S → S → Prop} :
    Ensures (get : StateT S (Interact ι ο) S) s Q ↔ Q s s := Iff.rfl

@[simp] theorem ensures_modify {Q : PUnit → S → Prop} (f : S → S) :
    Ensures (modify f : StateT S (Interact ι ο) PUnit) s Q ↔ Q ⟨⟩ (f s) := Iff.rfl

@[simp] theorem ensures_modifyGet (f : S → α × S) :
    Ensures (modifyGet f : StateT S (Interact ι ο) α) s Q ↔ Q (f s).1 (f s).2 := Iff.rfl

@[simp] theorem ensures_question {q : ι} {Q : ο q → S → Prop} :
    Ensures (StateT.lift (question q)) s Q ↔ ∀ answer, Q answer s := Iff.rfl

theorem ensures_exceptBind {ε : Type} {m : ExceptT ε (StateT S (Interact ι ο)) α}
    {f : α → ExceptT ε (StateT S (Interact ι ο)) β} {Q : Except ε β → S → Prop} :
    Ensures (m >>= f).run s Q ↔ Ensures m.run s fun result s' =>
      match result with
      | .ok a => Ensures (f a).run s' Q
      | .error e => Q (.error e) s' := by
  refine ensures_bind.trans ⟨fun h => h.mono fun result s' hresult => ?_,
    fun h => h.mono fun result s' hresult => ?_⟩
  · cases result <;> exact hresult
  · cases result <;> exact hresult

end State

/-! ## Programs as sequences of steps -/

/-- All the program does to a part of its state is a sequence of steps of `R`. -/
def Moves (view : S → T) (R : T → T → Prop) (m : StateT S (Interact ι ο) α) : Prop :=
  ∀ s, Ensures m s fun _ s' => Relation.ReflTransGen R (view s) (view s')

section Steps

variable {view : S → T} {R : T → T → Prop} {m : StateT S (Interact ι ο) α}

theorem Moves.pure (a : α) : Moves view R (pure a : StateT S (Interact ι ο) α) :=
  fun _ => Relation.ReflTransGen.refl

theorem Moves.modifyGet {f : S → α × S} (h : ∀ s, Relation.ReflTransGen R (view s) (view (f s).2)) :
    Moves view R (modifyGet f : StateT S (Interact ι ο) α) := h

theorem Moves.bind {f : α → StateT S (Interact ι ο) β} (hm : Moves view R m)
    (hf : ∀ a, Moves view R (f a)) : Moves view R (m >>= f) := by
  intro s
  rw [ensures_bind]
  exact (hm s).mono fun a s' hs => (hf a s').mono fun _ _ hs' => hs.trans hs'

theorem Moves.exceptBind {ε : Type} {m : ExceptT ε (StateT S (Interact ι ο)) α}
    {f : α → ExceptT ε (StateT S (Interact ι ο)) β} (hm : Moves view R m.run)
    (hf : ∀ a, Moves view R (f a).run) : Moves view R (m >>= f).run := by
  refine Moves.bind hm fun result => ?_
  cases result with
  | ok a => exact hf a
  | error e => exact Moves.pure _

end Steps

end Interact
