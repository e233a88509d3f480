import Mathlib

/-!
# Decimal numerals

A numeral is a run of ASCII digits of any length, with its value as a natural number.
-/

namespace Decimal

def isDigit (c : UInt8) : Bool := 48 ≤ c ∧ c ≤ 57

def digitValue (c : UInt8) : Nat := c.toNat - 48

def value (digits : List UInt8) : Nat := digits.foldl (fun n c => n * 10 + digitValue c) 0

def IsNumeral (digits : List UInt8) : Prop := digits ≠ [] ∧ ∀ c ∈ digits, isDigit c = true

/-- The text is a numeral with the value `first`, or it is two numerals with the separator between
them. -/
def Denotes (separator : UInt8) (text : List UInt8) (first : Nat) (last : Option Nat) : Prop :=
  ∃ digits, IsNumeral digits ∧ value digits = first ∧
    match last with
    | none => text = digits
    | some last => ∃ digits', IsNumeral digits' ∧ value digits' = last ∧
        text = digits ++ separator :: digits'

def range? (separator : UInt8) (text : List UInt8) : Option (Nat × Option Nat) :=
  let digits := text.takeWhile isDigit
  if digits = [] then none
  else
    match text.dropWhile isDigit with
    | [] => some (value digits, none)
    | c :: rest =>
      if c = separator ∧ rest ≠ [] ∧ rest.all isDigit then some (value digits, some (value rest))
      else none

section

variable {separator : UInt8} {text digits rest : List UInt8}

theorem takeWhile_numeral (h : ∀ c ∈ digits, isDigit c = true) (c : UInt8)
    (hc : isDigit c = false) : (digits ++ c :: rest).takeWhile isDigit = digits := by
  rw [List.takeWhile_append_of_pos h,List.takeWhile_cons_of_neg (by simp [hc]),List.append_nil]

theorem dropWhile_numeral (h : ∀ c ∈ digits, isDigit c = true) (c : UInt8)
    (hc : isDigit c = false) : (digits ++ c :: rest).dropWhile isDigit = c :: rest := by
  rw [List.dropWhile_append_of_pos h,List.dropWhile_cons_of_neg (by simp [hc])]

theorem denotes_iff (hseparator : isDigit separator = false) {first : Nat} {last : Option Nat} :
    Denotes separator text first last ↔ range? separator text = some (first, last) := by
  constructor
  · rintro ⟨digits,⟨hne,hdigits⟩,rfl,htext⟩
    cases last with
    | none =>
      subst htext
      have htake : text.takeWhile isDigit = text := List.takeWhile_eq_self_iff.mpr hdigits
      have hdrop : text.dropWhile isDigit = [] := List.dropWhile_eq_nil_iff.mpr hdigits
      simp only [range?,htake,hdrop,if_neg hne]
    | some last =>
      obtain ⟨digits',⟨hne',hdigits'⟩,rfl,rfl⟩ := htext
      simp only [range?,takeWhile_numeral hdigits _ hseparator,
        dropWhile_numeral hdigits _ hseparator,if_neg hne]
      exact if_pos ⟨trivial,hne',List.all_eq_true.mpr hdigits'⟩
  · intro h
    have hsplit := List.takeWhile_append_dropWhile (p := isDigit) (l := text)
    have hdigits (c : UInt8) (hc : c ∈ text.takeWhile isDigit) : isDigit c = true :=
      List.mem_takeWhile_imp hc
    unfold range? at h
    dsimp only at h
    split at h
    · cases h
    rename_i hne
    split at h
    · next hdrop =>
      cases h
      rw [hdrop,List.append_nil] at hsplit
      exact ⟨_,⟨hne,hdigits⟩,rfl,hsplit.symm⟩
    rename_i c rest hdrop
    split at h
    · next hrest =>
      cases h
      rw [hdrop,hrest.1] at hsplit
      exact ⟨_,⟨hne,hdigits⟩,rfl,rest,⟨hrest.2.1,List.all_eq_true.mp hrest.2.2⟩,rfl,hsplit.symm⟩
    · cases h

end

end Decimal
