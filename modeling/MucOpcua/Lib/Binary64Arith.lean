import MucOpcua.Lib.Binary64

/-!
# Binary64 arithmetic

Arithmetic of IEEE 754 doubles on their words, rounding to nearest with ties to even. A finite value
is an integer in units of the smallest subnormal, so an exact result is an integer or a quotient of
integers, and only `round` loses anything.
-/

namespace Binary64

variable {a b word : UInt64}

def isNaN (word : UInt64) : Bool := exponent word = 2047 ∧ fraction word ≠ 0

def isInfinite (word : UInt64) : Bool := exponent word = 2047 ∧ fraction word = 0

/-- A value in units of the smallest subnormal; the infinities lie beyond all finite ones. -/
def units (word : UInt64) : Int :=
  if Negative word then -(magnitude word : Int) else magnitude word

def unit : Nat := 2 ^ unitExponent

def signed (negative : Bool) (bits : Nat) : UInt64 :=
  UInt64.ofNat (if negative then 2 ^ 63 + bits else bits)

def infinityBits : Nat := 2047 * 2 ^ 52

def nan : UInt64 := 0x7FF8000000000000

/-- The bits of the double nearest to a quotient. A carry out of the fraction goes to the exponent,
and what is too large for a finite one becomes infinity. -/
def round (num den : Nat) : Nat :=
  let shift := (num / den).log2 - 52
  let step := den * 2 ^ shift
  let kept := num / step
  let rest := num % step
  let up := if step < 2 * rest ∨ step = 2 * rest ∧ kept % 2 = 1 then 1 else 0
  min (shift * 2 ^ 52 + kept + up) infinityBits

/-! ## Operations -/

def ofInt (n : Int) : UInt64 := signed (n < 0) (round (n.natAbs * unit) 1)

/-- The sign bit is the highest one, so that adding it flips it. -/
def neg (word : UInt64) : UInt64 := word + 0x8000000000000000

def lt (a b : UInt64) : Bool := isNaN a = false ∧ isNaN b = false ∧ units a < units b

def le (a b : UInt64) : Bool := isNaN a = false ∧ isNaN b = false ∧ units a ≤ units b

def sub (a b : UInt64) : UInt64 :=
  if isNaN a ∨ isNaN b then nan
  else if isInfinite a then if a = b then nan else a
  else if isInfinite b then neg b
  else
    let diff := units a - units b
    if diff = 0 ∧ Negative a ∧ ¬ Negative b then a
    else signed (diff < 0) (round diff.natAbs 1)

def mul (a b : UInt64) : UInt64 :=
  let negative : Bool := ¬ (Negative a ↔ Negative b)
  if isNaN a ∨ isNaN b then nan
  else if isInfinite a ∨ isInfinite b then
    if units a = 0 ∨ units b = 0 then nan else signed negative infinityBits
  else signed negative (round (magnitude a * magnitude b) unit)

def div (a b : UInt64) : UInt64 :=
  let negative : Bool := ¬ (Negative a ↔ Negative b)
  if isNaN a ∨ isNaN b then nan
  else if isInfinite a then if isInfinite b then nan else signed negative infinityBits
  else if isInfinite b then signed negative 0
  else if units b = 0 then if units a = 0 then nan else signed negative infinityBits
  else signed negative (round (magnitude a * unit) (magnitude b))

/-! ## Words of a sign and bits -/

section

variable {negative : Bool} {bits : Nat}

theorem toNat_signed (hbits : bits ≤ infinityBits) :
    (signed negative bits).toNat = if negative then 2 ^ 63 + bits else bits := by
  have hlt : bits < 2 ^ 63 := lt_of_le_of_lt hbits (by decide)
  rw [signed,UInt64.toNat_ofNat',Nat.mod_eq_of_lt (by split <;> omega)]

theorem fields_signed (hbits : bits ≤ infinityBits) :
    exponent (signed negative bits) = bits / 2 ^ 52 ∧
      fraction (signed negative bits) = bits % 2 ^ 52 ∧
      (Negative (signed negative bits) ↔ negative = true) := by
  have hlt : bits ≤ 2047 * 2 ^ 52 := hbits
  rw [exponent,fraction,Negative,toNat_signed hbits]
  cases negative <;> simp <;> omega

theorem isNaN_signed (hbits : bits ≤ infinityBits) : isNaN (signed negative bits) = false := by
  obtain ⟨hexponent,hfraction,-⟩ := @fields_signed negative _ hbits
  have hlt : bits ≤ 2047 * 2 ^ 52 := hbits
  rw [isNaN,hexponent,hfraction,decide_eq_false_iff_not]
  omega

theorem magnitude_eq_zero_iff : magnitude word = 0 ↔ exponent word = 0 ∧ fraction word = 0 := by
  unfold magnitude
  split
  · next h => simp [h]
  · next h => simp [h]

theorem units_signed_eq_zero (hbits : bits ≤ infinityBits) :
    units (signed negative bits) = 0 ↔ bits = 0 := by
  obtain ⟨hexponent,hfraction,-⟩ := @fields_signed negative _ hbits
  have hunits : units (signed negative bits) = 0 ↔ magnitude (signed negative bits) = 0 := by
    unfold units
    split <;> omega
  rw [hunits,magnitude_eq_zero_iff,hexponent,hfraction]
  omega

end

theorem round_le (num den : Nat) : round num den ≤ infinityBits := Nat.min_le_right _ _

theorem two_pow_shift_le {m : Nat} (hm : m ≠ 0) : 2 ^ (m.log2 - 52) ≤ m :=
  (Nat.pow_le_pow_right (by decide) (Nat.sub_le _ _)).trans (Nat.log2_self_le hm)

theorem round_one_eq_zero_iff {m : Nat} : round m 1 = 0 ↔ m = 0 := by
  constructor
  · intro h
    by_contra hm
    have hkept : 1 ≤ m / 2 ^ (m.log2 - 52) :=
      (Nat.one_le_div_iff (Nat.two_pow_pos _)).mpr (two_pow_shift_le hm)
    simp only [round,Nat.div_one,Nat.one_mul] at h
    have hinf : 0 < infinityBits := by decide
    omega
  · rintro rfl
    decide

theorem neg_fields (word : UInt64) : exponent (neg word) = exponent word ∧
    fraction (neg word) = fraction word ∧ (Negative (neg word) ↔ ¬ Negative word) := by
  have hlt := word.toNat_lt
  have hsum : (neg word).toNat = (word.toNat + 2 ^ 63) % 2 ^ 64 := UInt64.toNat_add _ _
  rw [exponent,exponent,fraction,fraction,Negative,Negative,hsum]
  omega

theorem isNaN_neg (word : UInt64) : isNaN (neg word) = isNaN word := by
  obtain ⟨hexponent,hfraction,-⟩ := neg_fields word
  rw [isNaN,hexponent,hfraction,isNaN]

theorem units_neg (word : UInt64) : units (neg word) = -units word := by
  obtain ⟨hexponent,hfraction,hsign⟩ := neg_fields word
  have hmagnitude : magnitude (neg word) = magnitude word := by
    rw [magnitude,hexponent,hfraction,magnitude]
  unfold units
  rw [hmagnitude]
  by_cases h : Negative word <;> simp [hsign,h]

/-- The test whether an absolute value is positive. -/
theorem lt_zero_abs (word : UInt64) :
    lt 0 (if lt word 0 then neg word else word) = true ↔ isNaN word = false ∧ units word ≠ 0 := by
  have hzero : isNaN 0 = false ∧ units 0 = 0 := by decide
  cases hnan : isNaN word with
  | true => simp [lt,hnan]
  | false =>
    by_cases hneg : units word < 0
    · have hpos : lt word 0 = true := by simp [lt,hnan,hzero,hneg]
      rw [if_pos hpos]
      simp only [lt,isNaN_neg,hnan,units_neg,hzero,decide_eq_true_eq,true_and]
      omega
    · have hnot : lt word 0 = false := by simp [lt,hnan,hzero,hneg]
      rw [hnot,if_neg Bool.false_ne_true]
      simp only [lt,hnan,hzero,decide_eq_true_eq,true_and]
      omega

theorem units_inj (h : units a = units b) (hne : units a ≠ 0) : a = b := by
  have hsign : Negative a ↔ Negative b := by
    unfold units at h hne
    split at h <;> split at h <;> simp_all
  have hmagnitude : magnitude a = magnitude b := by
    unfold units at h
    by_cases hneg : Negative a <;> simp only [hneg,hsign.mp,← hsign,if_true,if_false] at h <;> omega
  have hexponent : exponent a = exponent b := by
    rcases Nat.lt_trichotomy (exponent a) (exponent b) with hlt | heq | hlt
    · exact absurd hmagnitude (magnitude_lt_of_exponent_lt hlt).ne
    · exact heq
    · exact absurd hmagnitude.symm (magnitude_lt_of_exponent_lt hlt).ne
  have hfraction : fraction a = fraction b := by
    unfold magnitude at hmagnitude
    rw [hexponent] at hmagnitude
    split at hmagnitude
    · exact hmagnitude
    · have := Nat.eq_of_mul_eq_mul_right (Nat.two_pow_pos _) hmagnitude
      omega
  apply UInt64.toNat_inj.mp
  have ha := a.toNat_lt
  have hb := b.toNat_lt
  unfold exponent at hexponent
  unfold fraction at hfraction
  unfold Negative at hsign
  omega

/-! ## Integers -/

theorem isNaN_ofInt (n : Int) : isNaN (ofInt n) = false := isNaN_signed (round_le _ _)

theorem units_ofInt_eq_zero {n : Int} : units (ofInt n) = 0 ↔ n = 0 := by
  have hunit : unit ≠ 0 := (Nat.two_pow_pos _).ne'
  rw [ofInt,units_signed_eq_zero (round_le _ _),round_one_eq_zero_iff,Nat.mul_eq_zero,
    or_iff_left hunit,Int.natAbs_eq_zero]

theorem units_ofInt_inj {m n : Int} : units (ofInt m) = units (ofInt n) ↔ ofInt m = ofInt n := by
  refine ⟨fun h => ?_,fun h => by rw [h]⟩
  by_cases hzero : units (ofInt m) = 0
  · have hm := units_ofInt_eq_zero.mp hzero
    have hn := units_ofInt_eq_zero.mp (h.symm.trans hzero)
    rw [hm,hn]
  · exact units_inj h hzero

theorem units_ne_zero_of_isInfinite (h : isInfinite word = true) : units word ≠ 0 := by
  obtain ⟨hexponent,-⟩ := of_decide_eq_true h
  have hmagnitude : magnitude word ≠ 0 := fun hzero => by
    have := (magnitude_eq_zero_iff.mp hzero).1
    omega
  unfold units
  split <;> omega

theorem isNaN_of_isInfinite (h : isInfinite word = true) : isNaN word = false := by
  obtain ⟨-,hfraction⟩ := of_decide_eq_true h
  simp [isNaN,hfraction]

/-- The difference of the doubles of two integers is a number other than 0 exactly if they are
different doubles. -/
theorem sub_ofInt (m n : Int) :
    (isNaN (sub (ofInt m) (ofInt n)) = false ∧ units (sub (ofInt m) (ofInt n)) ≠ 0) ↔
      ofInt m ≠ ofInt n := by
  unfold sub
  rw [if_neg (by simp [isNaN_ofInt])]
  by_cases hm : isInfinite (ofInt m) = true
  · rw [if_pos hm]
    by_cases hsame : ofInt m = ofInt n
    · rw [if_pos hsame]
      exact ⟨fun h => absurd h.1 (by decide),fun h => absurd hsame h⟩
    · rw [if_neg hsame]
      exact ⟨fun _ => hsame,fun _ => ⟨isNaN_of_isInfinite hm,units_ne_zero_of_isInfinite hm⟩⟩
  rw [if_neg hm]
  by_cases hn : isInfinite (ofInt n) = true
  · rw [if_pos hn,isNaN_neg,units_neg]
    exact ⟨fun _ hsame => hm (hsame ▸ hn),
      fun _ => ⟨isNaN_of_isInfinite hn,neg_ne_zero.mpr (units_ne_zero_of_isInfinite hn)⟩⟩
  rw [if_neg hn]
  dsimp only
  rw [ne_eq (ofInt m),← units_ofInt_inj]
  split
  · next hzero =>
    -- a negative integer is no negative zero
    obtain ⟨hdiff,hneg,hpos⟩ := hzero
    have hle : units (ofInt m) ≤ 0 := by
      rw [units,if_pos hneg]
      omega
    have hge : 0 ≤ units (ofInt n) := by
      rw [units,if_neg hpos]
      omega
    have hsame : ofInt m = ofInt n := units_ofInt_inj.mp (by omega)
    exact absurd (hsame ▸ hneg) hpos
  · rw [isNaN_signed (round_le _ _),ne_eq,units_signed_eq_zero (round_le _ _),
      round_one_eq_zero_iff,Int.natAbs_eq_zero]
    simp only [true_and]
    omega

theorem units_signed_normal {negative : Bool} {shift kept : Nat} (hlow : 2 ^ 52 ≤ kept)
    (hhigh : kept < 2 ^ 53) (hshift : shift < 2046) :
    units (signed negative (shift * 2 ^ 52 + kept)) =
      if negative then -((kept * 2 ^ shift : Nat) : Int) else (kept * 2 ^ shift : Nat) := by
  have hbits : shift * 2 ^ 52 + kept ≤ infinityBits := by
    show _ ≤ 2047 * 2 ^ 52
    omega
  obtain ⟨hexponent,hfraction,hsign⟩ := @fields_signed negative _ hbits
  have hmagnitude : magnitude (signed negative (shift * 2 ^ 52 + kept)) = kept * 2 ^ shift := by
    rw [magnitude,hexponent,hfraction,if_neg (by omega)]
    congr 2 <;> omega
  rw [units,hmagnitude]
  cases negative with
  | false => exact if_neg fun h => Bool.false_ne_true (hsign.mp h)
  | true => exact if_pos (hsign.mpr rfl)

theorem round_exact {shift kept : Nat} (hlow : 2 ^ 52 ≤ kept) (hhigh : kept < 2 ^ 53)
    (hshift : shift < 2046) : round (kept * 2 ^ shift) 1 = shift * 2 ^ 52 + kept := by
  have hpow : 0 < 2 ^ shift := Nat.two_pow_pos _
  have hlog : (kept * 2 ^ shift).log2 = 52 + shift := by
    refine (Nat.log2_eq_iff (Nat.mul_ne_zero (by omega) hpow.ne')).mpr ⟨?_,?_⟩
    · rw [Nat.pow_add]
      exact Nat.mul_le_mul_right _ hlow
    · rw [show 52 + shift + 1 = 53 + shift by omega,Nat.pow_add]
      exact Nat.mul_lt_mul_of_pos_right hhigh hpow
  have hkept : kept * 2 ^ shift / 2 ^ shift = kept := Nat.mul_div_cancel _ hpow
  have hrest : kept * 2 ^ shift % 2 ^ shift = 0 := Nat.mul_mod_left _ _
  have hinf : shift * 2 ^ 52 + kept ≤ infinityBits := by
    show _ ≤ 2047 * 2 ^ 52
    omega
  simp only [round,Nat.div_one,Nat.one_mul,hlog,Nat.add_sub_cancel_left,hkept,hrest]
  rw [if_neg (by omega),Nat.add_zero,Nat.min_eq_left hinf]

/-- Integers up to `2 ^ 53` are doubles. -/
theorem units_ofInt {n : Int} (h : n.natAbs ≤ 2 ^ 53) : units (ofInt n) = n * unit := by
  by_cases hzero : n = 0
  · subst hzero
    rw [units_ofInt_eq_zero.mpr rfl,Int.zero_mul]
  have hpos : n.natAbs ≠ 0 := Int.natAbs_ne_zero.mpr hzero
  obtain ⟨kept,shift,hunits,hlow,hhigh,hshift⟩ : ∃ kept shift, n.natAbs * unit = kept * 2 ^ shift ∧
      2 ^ 52 ≤ kept ∧ kept < 2 ^ 53 ∧ shift < 2046 := by
    rw [unit,unitExponent]
    rcases Nat.lt_or_eq_of_le h with hlt | heq
    · have hlog : n.natAbs.log2 < 53 := (Nat.log2_lt hpos).mpr hlt
      have hself := Nat.log2_self_le hpos
      have hnext := Nat.lt_log2_self (n := n.natAbs)
      generalize n.natAbs.log2 = l at hlog hself hnext
      have hsplit : 2 ^ 52 = 2 ^ l * 2 ^ (52 - l) := by
        rw [← Nat.pow_add]
        congr 1
        omega
      refine ⟨n.natAbs * 2 ^ (52 - l),1022 + l,?_,?_,?_,by omega⟩
      · rw [Nat.mul_assoc,← Nat.pow_add]
        congr 2
        omega
      · rw [hsplit]
        exact Nat.mul_le_mul_right _ hself
      · have hdouble : 2 ^ 53 = 2 ^ (l + 1) * 2 ^ (52 - l) := by
          rw [← Nat.pow_add]
          congr 1
          omega
        rw [hdouble]
        exact Nat.mul_lt_mul_of_pos_right hnext (Nat.two_pow_pos _)
    · refine ⟨2 ^ 52,1074 + 1,?_,by omega,by omega,by omega⟩
      rw [heq,Nat.pow_succ 2 1074]
      generalize 2 ^ 1074 = u
      omega
  rw [ofInt,hunits,round_exact hlow hhigh hshift,units_signed_normal hlow hhigh hshift,← hunits]
  by_cases hneg : n < 0
  · rw [if_pos (decide_eq_true hneg)]
    push_cast
    rw [abs_of_neg hneg]
    ring
  · rw [if_neg (by simpa using hneg)]
    push_cast
    rw [abs_of_nonneg (by omega)]

theorem ofInt_ne {m n : Int} (hm : m.natAbs ≤ 2 ^ 53) (hn : n.natAbs ≤ 2 ^ 53) (hne : m ≠ n) :
    ofInt m ≠ ofInt n := by
  intro hsame
  have hunits : m * unit = n * unit := by rw [← units_ofInt hm,← units_ofInt hn,hsame]
  have hunit : (unit : Int) ≠ 0 := by exact_mod_cast (Nat.two_pow_pos _).ne'
  exact hne (Int.eq_of_mul_eq_mul_right hunit hunits)

end Binary64
