import MucOpcua.Status

/-!
# Inbound sequence numbers

`sequence.c`: a connection's chunks carry consecutive SequenceNumbers, with one wrap-around window.
-/

namespace MucOpcua

structure SequenceValidator where
  lastSequenceNumber : UInt32
  isInitialized : Bool
  deriving DecidableEq

def SequenceValidator.init : SequenceValidator := ⟨0, false⟩

/-- The numbers `mu_sequence_validate` accepts. -/
def SequenceValidator.Accepts (v : SequenceValidator) (sequenceNumber : UInt32) : Prop :=
  v.isInitialized = false ∨ sequenceNumber = v.lastSequenceNumber + 1 ∨
    (4294966271 < v.lastSequenceNumber ∧ sequenceNumber < 1024)

instance (v : SequenceValidator) (sequenceNumber : UInt32) :
    Decidable (v.Accepts sequenceNumber) :=
  inferInstanceAs (Decidable (_ ∨ _ ∨ _))

def sequenceValidate (v : SequenceValidator) (sequenceNumber : UInt32) :
    Except BadStatus SequenceValidator :=
  if v.isInitialized = false then .ok ⟨sequenceNumber, true⟩
  else if sequenceNumber = v.lastSequenceNumber + 1 then
    .ok { v with lastSequenceNumber := sequenceNumber }
  else if 4294966271 < v.lastSequenceNumber ∧ sequenceNumber < 1024 then
    .ok { v with lastSequenceNumber := sequenceNumber }
  else .error Status.badSecurityChecksFailed

theorem sequenceValidate_of_accepts {v : SequenceValidator} {n : UInt32} (h : v.Accepts n) :
    sequenceValidate v n = .ok ⟨n, true⟩ := by
  unfold sequenceValidate
  cases hinit : v.isInitialized with
  | false => simp
  | true =>
    rcases h with hfresh | hnext | hwrap
    · simp [hinit] at hfresh
    · simp [hnext]
    by_cases hnext : n = v.lastSequenceNumber + 1
    · simp [hnext]
    · simp [hwrap]

theorem sequenceValidate_of_not_accepts {v : SequenceValidator} {n : UInt32} (h : ¬ v.Accepts n) :
    sequenceValidate v n = .error Status.badSecurityChecksFailed := by
  rw [SequenceValidator.Accepts,not_or,not_or] at h
  obtain ⟨hinit,hnext,hwrap⟩ := h
  rw [sequenceValidate,if_neg hinit,if_neg hnext,if_neg hwrap]

end MucOpcua
