import MucOpcua.Core.Sequence

/-!
# Replayed sequence numbers

A validator is offered arbitrary numbers. Those it accepts form a chain: each is the successor of
the one before, or falls from the last 1024 numbers to the first 1024.
-/

namespace MucOpcua

variable {n : UInt32} {v : SequenceValidator}

/-! ## One number -/

/-- `mu_sequence_validate` with the validator it leaves. -/
def sequenceStep (v : SequenceValidator) (sequenceNumber : UInt32) :
    Except BadStatus Unit × SequenceValidator :=
  match sequenceValidate v sequenceNumber with
  | .ok v => (.ok (), v)
  | .error status => (.error status, v)

/-- The one number that is accepted in every state, once the first has been seen. -/
def SequenceValidator.expected (v : SequenceValidator) : UInt32 := v.lastSequenceNumber + 1

def SequenceFollows (last next : UInt32) : Prop :=
  next = last + 1 ∨ (4294966271 < last ∧ next < 1024)

theorem SequenceValidator.accepts_of_initialized {last : UInt32} :
    (SequenceValidator.mk last true).Accepts n ↔ SequenceFollows last n := by
  simp [SequenceValidator.Accepts,SequenceFollows]

theorem sequenceStep_of_accepts (h : v.Accepts n) : sequenceStep v n = (.ok (), ⟨n, true⟩) := by
  simp [sequenceStep,sequenceValidate_of_accepts h]

theorem sequenceStep_of_not_accepts (h : ¬ v.Accepts n) :
    sequenceStep v n = (.error Status.badSecurityChecksFailed, v) := by
  simp [sequenceStep,sequenceValidate_of_not_accepts h]

/-! ## A run -/

def SequenceValidator.offered (v : SequenceValidator) (numbers : List UInt32) :
    SequenceValidator :=
  numbers.foldl (fun v n => (sequenceStep v n).2) v

def SequenceValidator.accepted (v : SequenceValidator) : List UInt32 → List UInt32
  | [] => []
  | n :: rest =>
    match sequenceStep v n with
    | (.ok (), v) => n :: v.accepted rest
    | (.error _, v) => v.accepted rest

theorem SequenceValidator.accepted_cons_of_accepts (h : v.Accepts n) (rest : List UInt32) :
    v.accepted (n :: rest) = n :: (SequenceValidator.mk n true).accepted rest := by
  simp [SequenceValidator.accepted,sequenceStep_of_accepts h]

theorem SequenceValidator.accepted_cons_of_not_accepts (h : ¬ v.Accepts n) (rest : List UInt32) :
    v.accepted (n :: rest) = v.accepted rest := by
  simp [SequenceValidator.accepted,sequenceStep_of_not_accepts h]

theorem SequenceValidator.accepted_chain (last : UInt32) (numbers : List UInt32) :
    (last :: (SequenceValidator.mk last true).accepted numbers).IsChain SequenceFollows := by
  induction numbers generalizing last with
  | nil => simp [SequenceValidator.accepted]
  | cons n rest ih =>
    by_cases h : (SequenceValidator.mk last true).Accepts n
    · rw [accepted_cons_of_accepts h,List.isChain_cons_cons]
      exact ⟨accepts_of_initialized.mp h,ih n⟩
    · rw [accepted_cons_of_not_accepts h]
      exact ih last

theorem SequenceValidator.accepted_init_chain (numbers : List UInt32) :
    (SequenceValidator.init.accepted numbers).IsChain SequenceFollows := by
  cases numbers with
  | nil => simp [SequenceValidator.accepted]
  | cons n rest =>
    -- The first number is accepted whatever it is.
    exact accepted_chain n rest

/-! ## Distance between acceptances -/

theorem SequenceFollows.drift {last next : UInt32} (h : SequenceFollows last next) :
    next.toNat = last.toNat + 1 ∨ next.toNat + 4294965250 ≤ last.toNat + 1 := by
  rcases h with hnext | ⟨hhigh,hlow⟩
  · have hvalue : next.toNat = (last.toNat + 1) % 4294967296 := by
      simp [hnext]
    omega
  have hhigh' : 4294966271 < last.toNat := by simpa [UInt32.lt_iff_toNat_lt] using hhigh
  have hlow' : next.toNat < 1024 := by simpa [UInt32.lt_iff_toNat_lt] using hlow
  omega

theorem drift_of_chain {numbers : List UInt32} (hchain : numbers.IsChain SequenceFollows) (i k : Nat)
    (hk : i + k < numbers.length) :
    numbers[i + k].toNat = numbers[i].toNat + k ∨
      numbers[i + k].toNat + 4294965250 ≤ numbers[i].toNat + k := by
  induction k with
  | zero => simp
  | succ k ih =>
    have hstep : SequenceFollows numbers[i + k] numbers[i + k + 1] :=
      List.isChain_iff_getElem.mp hchain (i + k) hk
    have hbefore := ih (by omega)
    have hdrift := hstep.drift
    simp only [← Nat.add_assoc]
    omega

/-- Anti-replay: the same number is accepted again only after 4294965248 others, accepted numbers
follow one another, and a refused number leaves the expected one as it was. -/
theorem accepted_replay_distance (numbers : List UInt32) :
    (∀ i j, i < j → ∀ hj : j < (SequenceValidator.init.accepted numbers).length,
      ∀ hi : i < (SequenceValidator.init.accepted numbers).length,
      (SequenceValidator.init.accepted numbers)[i] = (SequenceValidator.init.accepted numbers)[j] →
      4294965248 ≤ j - i - 1) ∧
    (∀ i, ∀ h : i + 1 < (SequenceValidator.init.accepted numbers).length,
      (SequenceValidator.init.accepted numbers)[i + 1] =
          (SequenceValidator.init.accepted numbers)[i] + 1 ∨
        (4294966271 < (SequenceValidator.init.accepted numbers)[i] ∧
          (SequenceValidator.init.accepted numbers)[i + 1] < 1024)) ∧
    (∀ before n after, numbers = before ++ n :: after →
      (sequenceStep (SequenceValidator.init.offered before) n).1 ≠ .ok () →
      SequenceValidator.init.offered (before ++ [n]) = SequenceValidator.init.offered before ∧
      (SequenceValidator.init.offered (before ++ [n])).expected =
        (SequenceValidator.init.offered before).expected) := by
  have hchain := SequenceValidator.accepted_init_chain numbers
  refine ⟨?_,?_,?_⟩
  · intro i j hij hj hi hsame
    obtain ⟨k,rfl⟩ : ∃ k, j = i + k := ⟨j - i,by omega⟩
    have hdrift := drift_of_chain hchain i k hj
    rw [← hsame] at hdrift
    omega
  · intro i h
    exact List.isChain_iff_getElem.mp hchain i h
  · intro before n after _ hrefused
    have hnot : ¬ (SequenceValidator.init.offered before).Accepts n := by
      intro haccepts
      exact hrefused (by rw [sequenceStep_of_accepts haccepts])
    have hkept : SequenceValidator.init.offered (before ++ [n]) =
        SequenceValidator.init.offered before := by
      simp only [SequenceValidator.offered,List.foldl_append]
      exact congrArg Prod.snd (sequenceStep_of_not_accepts hnot)
    exact ⟨hkept,by rw [hkept]⟩

end MucOpcua
