import Mathlib

/-!
# Binary64 words and the reals they stand for

The value of a 64-bit word as an IEEE 754 double. A finite magnitude is a whole number of smallest
subnormals, so the order of values is the order of natural numbers, and the integer part of a value
is a quotient of natural numbers.
-/

namespace Binary64

variable {a b word : UInt64} {x : EReal}

/-! ## Fields -/

def exponent (word : UInt64) : Nat := word.toNat / 2 ^ 52 % 2 ^ 11

def fraction (word : UInt64) : Nat := word.toNat % 2 ^ 52

def Negative (word : UInt64) : Prop := 2 ^ 63 ≤ word.toNat

instance (word : UInt64) : Decidable (Negative word) := inferInstanceAs (Decidable (_ ≤ _))

/-- The smallest subnormal is `2 ^ -1074`. -/
@[irreducible]
def unitExponent : Nat := 1074

def magnitude (word : UInt64) : Nat :=
  if exponent word = 0 then fraction word else (2 ^ 52 + fraction word) * 2 ^ (exponent word - 1)

noncomputable def value (word : UInt64) : Option EReal :=
  if exponent word = 2047 then
    if fraction word = 0 then some (if Negative word then ⊥ else ⊤) else none
  else
    some (((if Negative word then -1 else 1) * ((magnitude word : ℝ) / 2 ^ unitExponent) : ℝ) :
      EReal)

theorem fraction_lt (word : UInt64) : fraction word < 2 ^ 52 :=
  Nat.mod_lt _ (by decide)

theorem toNat_of_not_negative (h : ¬ Negative word) :
    word.toNat = 2 ^ 52 * exponent word + fraction word := by
  have hlt : word.toNat < 2 ^ 63 := Nat.lt_of_not_le h
  have hexp : exponent word = word.toNat / 2 ^ 52 := Nat.mod_eq_of_lt (by omega)
  rw [hexp]
  exact (Nat.div_add_mod _ _).symm

theorem and_sign_bit_ne_zero (word : UInt64) : word &&& 0x8000000000000000 ≠ 0 ↔ Negative word := by
  have hlt : word.toNat < 2 ^ 64 := word.toNat_lt
  have hbit : word.toNat.testBit 63 = true ↔ Negative word := by
    rw [Nat.testBit_eq_decide_div_mod_eq,decide_eq_true_iff,Negative]
    omega
  have hand : (word &&& 0x8000000000000000).toNat = (word.toNat.testBit 63).toNat * 2 ^ 63 := by
    rw [← Nat.and_two_pow]
    rfl
  rw [ne_eq,← UInt64.toNat_inj,hand,← hbit]
  cases word.toNat.testBit 63 <;> simp

theorem toNat_shiftRight_and (word : UInt64) : ((word >>> 52) &&& 0x7FF).toNat = exponent word := by
  have hmask : (0x7FF : UInt64).toNat = 2 ^ 11 - 1 := rfl
  rw [UInt64.toNat_and,hmask,Nat.and_two_pow_sub_one_eq_mod,UInt64.toNat_shiftRight,
    Nat.shiftRight_eq_div_pow]
  rfl

theorem toNat_or_and (word : UInt64) :
    (0x0010000000000000 ||| (word &&& 0x000FFFFFFFFFFFFF)).toNat = 2 ^ 52 + fraction word := by
  have hmask : (0x000FFFFFFFFFFFFF : UInt64).toNat = 2 ^ 52 - 1 := rfl
  have hor := Nat.two_pow_add_eq_or_of_lt (fraction_lt word) 1
  rw [UInt64.toNat_or,UInt64.toNat_and,hmask,Nat.and_two_pow_sub_one_eq_mod]
  simpa [fraction] using hor.symm

/-! ## Order -/

theorem magnitude_lt_of_exponent_lt (h : exponent a < exponent b) : magnitude a < magnitude b := by
  have ha := fraction_lt a
  have hb : magnitude b = (2 ^ 52 + fraction b) * 2 ^ (exponent b - 1) := if_neg (by omega)
  -- The larger exponent alone is worth more than all that the smaller one can hold.
  have hlow : 2 ^ 52 * 2 ^ (exponent b - 1) ≤ magnitude b := by
    rw [hb]
    exact Nat.mul_le_mul_right _ (by omega)
  apply lt_of_lt_of_le _ hlow
  by_cases hzero : exponent a = 0
  · have hone : 1 ≤ 2 ^ (exponent b - 1) := Nat.one_le_two_pow
    rw [magnitude,if_pos hzero]
    nlinarith
  have hpow : 2 ^ exponent a ≤ 2 ^ (exponent b - 1) :=
    Nat.pow_le_pow_right (by decide) (by omega)
  have hsucc : 2 ^ exponent a = 2 * 2 ^ (exponent a - 1) := by
    rw [← Nat.pow_succ',Nat.succ_eq_add_one,Nat.sub_add_cancel (by omega)]
  have hpos : 0 < 2 ^ (exponent a - 1) := Nat.two_pow_pos _
  rw [magnitude,if_neg hzero]
  calc (2 ^ 52 + fraction a) * 2 ^ (exponent a - 1)
      < 2 ^ 53 * 2 ^ (exponent a - 1) := Nat.mul_lt_mul_of_pos_right (by omega) hpos
    _ = 2 ^ 52 * 2 ^ exponent a := by rw [hsucc]; ring
    _ ≤ 2 ^ 52 * 2 ^ (exponent b - 1) := Nat.mul_le_mul_left _ hpow

theorem magnitude_mono (hb : ¬ Negative b) (hab : a ≤ b) : magnitude a ≤ magnitude b := by
  have hle : a.toNat ≤ b.toNat := UInt64.le_iff_toNat_le.mp hab
  have ha : ¬ Negative a := fun h => hb (le_trans h hle)
  have hfb := fraction_lt b
  rw [toNat_of_not_negative ha,toNat_of_not_negative hb] at hle
  by_cases hexp : exponent a < exponent b
  · exact (magnitude_lt_of_exponent_lt hexp).le
  have hsame : exponent a = exponent b := by omega
  have hfrac : fraction a ≤ fraction b := by omega
  rw [magnitude,magnitude,hsame]
  split
  · exact hfrac
  · exact Nat.mul_le_mul_right _ (by omega)

theorem value_of_finite (hsign : ¬ Negative word) (h : exponent word ≠ 2047) :
    value word = some (((magnitude word : ℝ) / 2 ^ unitExponent : ℝ) : EReal) := by
  simp [value,h,hsign]

theorem value_nonpos (hsign : Negative word) (hx : value word = some x) : x ≤ 0 := by
  unfold value at hx
  split at hx
  · split at hx
    · rw [Option.some.injEq] at hx
      simp [← hx]
    · cases hx
  rw [Option.some.injEq] at hx
  rw [← hx]
  apply EReal.coe_nonpos.mpr
  have hpos : (0 : ℝ) ≤ (magnitude word : ℝ) / 2 ^ unitExponent := by positivity
  linarith

theorem exponent_lt (word : UInt64) : exponent word < 2048 := Nat.mod_lt _ (by decide)

theorem value_mono {y : EReal} (hb : ¬ Negative b) (hab : a ≤ b)
    (hx : value a = some x) (hy : value b = some y) : x ≤ y := by
  have ha : ¬ Negative a := fun h => hb (le_trans h (UInt64.le_iff_toNat_le.mp hab))
  by_cases hbexp : exponent b = 2047
  · unfold value at hy
    rw [if_pos hbexp] at hy
    split at hy
    · rw [Option.some.injEq] at hy
      simp [← hy]
    · cases hy
  · -- A word below a finite one is finite.
    have hle : a.toNat ≤ b.toNat := UInt64.le_iff_toNat_le.mp hab
    rw [toNat_of_not_negative ha,toNat_of_not_negative hb] at hle
    have haexp : exponent a ≠ 2047 := by
      have := fraction_lt b
      have := exponent_lt b
      omega
    rw [value_of_finite ha haexp,Option.some.injEq] at hx
    rw [value_of_finite hb hbexp,Option.some.injEq] at hy
    rw [← hx,← hy]
    have hmag : (magnitude a : ℝ) ≤ magnitude b := by exact_mod_cast magnitude_mono hb hab
    gcongr

/-! ## Integer part -/

/-- `n` is the integer part of a value that is not negative. -/
def IsFloor (n : Nat) (x : EReal) : Prop := ((n : ℝ) : EReal) ≤ x ∧ x < (((n : ℝ) + 1 : ℝ) : EReal)

theorem IsFloor.mono {m n : Nat} {y : EReal} (hm : IsFloor m x) (hn : IsFloor n y)
    (hxy : x ≤ y) : m ≤ n := by
  have hlt := lt_of_le_of_lt (le_trans hm.1 hxy) hn.2
  exact Nat.lt_succ_iff.mp (by exact_mod_cast hlt)

theorem isFloor_magnitude (m : Nat) :
    IsFloor (m / 2 ^ unitExponent) (((m : ℝ) / 2 ^ unitExponent : ℝ) : EReal) := by
  have hpos : (0 : ℝ) < 2 ^ unitExponent := by positivity
  constructor
  · rw [EReal.coe_le_coe_iff,le_div_iff₀ hpos]
    exact_mod_cast Nat.div_mul_le_self m (2 ^ unitExponent)
  · rw [EReal.coe_lt_coe_iff,div_lt_iff₀ hpos]
    have hlt := Nat.lt_mul_of_div_lt (Nat.lt_succ_self (m / 2 ^ unitExponent)) (Nat.two_pow_pos _)
    exact_mod_cast hlt

def integerPart (word : UInt64) : Nat := magnitude word / 2 ^ unitExponent

theorem integerPart_mono (hb : ¬ Negative b) (hab : a ≤ b) : integerPart a ≤ integerPart b :=
  Nat.div_le_div_right (magnitude_mono hb hab)

theorem isFloor_integerPart (hsign : ¬ Negative word)
    (hfinite : exponent word ≠ 2047) (hx : value word = some x) : IsFloor (integerPart word) x := by
  rw [value_of_finite hsign hfinite,Option.some.injEq] at hx
  rw [← hx]
  exact isFloor_magnitude (magnitude word)

theorem two_pow_unitExponent (hlow : 1 ≤ exponent word) (hhigh : exponent word ≤ 1075) :
    2 ^ unitExponent = 2 ^ (1075 - exponent word) * 2 ^ (exponent word - 1) := by
  have hsum : unitExponent = 1075 - exponent word + (exponent word - 1) := by
    rw [unitExponent]
    omega
  rw [← Nat.pow_add,← hsum]

theorem integerPart_eq (hlow : 1 ≤ exponent word) (hhigh : exponent word ≤ 1075) :
    integerPart word = (2 ^ 52 + fraction word) / 2 ^ (1075 - exponent word) := by
  rw [integerPart,magnitude,if_neg (by omega),two_pow_unitExponent hlow hhigh]
  exact Nat.mul_div_mul_right _ _ (Nat.two_pow_pos _)

theorem value_of_multiple {n : Nat} (hsign : ¬ Negative word)
    (hlow : 1 ≤ exponent word) (hhigh : exponent word ≤ 1075)
    (hn : 2 ^ 52 + fraction word = n * 2 ^ (1075 - exponent word)) :
    value word = some ((n : ℝ) : EReal) := by
  have hmag : magnitude word = n * 2 ^ unitExponent := by
    rw [magnitude,if_neg (by omega),hn,two_pow_unitExponent hlow hhigh,Nat.mul_assoc]
  have hcancel : ((n * 2 ^ unitExponent : Nat) : ℝ) / 2 ^ unitExponent = n := by
    push_cast
    exact mul_div_cancel_right₀ _ (by positivity)
  rw [value_of_finite hsign (by omega),hmag,hcancel]

/-! ## Clamping words -/

def clamp (lo hi word : UInt64) : UInt64 :=
  if Negative word ∨ word < lo then lo else if hi < word then hi else word

theorem clamp_mem {lo hi : UInt64} (hbounds : lo ≤ hi) (word : UInt64) :
    lo ≤ clamp lo hi word ∧ clamp lo hi word ≤ hi := by
  unfold clamp
  split
  · exact ⟨UInt64.le_refl lo,hbounds⟩
  rename_i hlow
  split
  · exact ⟨hbounds,UInt64.le_refl hi⟩
  · next hhigh =>
    exact ⟨UInt64.not_lt.mp (not_or.mp hlow).2,UInt64.not_lt.mp hhigh⟩

theorem clamp_mono {lo hi : UInt64} (hbounds : lo ≤ hi) (hb : ¬ Negative b) (hab : a ≤ b) :
    clamp lo hi a ≤ clamp lo hi b := by
  have ha : ¬ Negative a := fun h => hb (le_trans h (UInt64.le_iff_toNat_le.mp hab))
  by_cases hlow : a < lo
  · have hclamp : clamp lo hi a = lo := if_pos (Or.inr hlow)
    rw [hclamp]
    exact (clamp_mem hbounds b).1
  by_cases hhigh : hi < b
  · have hblow : ¬ b < lo := UInt64.not_lt.mpr (UInt64.le_trans hbounds (UInt64.le_of_lt hhigh))
    have hclamp : clamp lo hi b = hi := by
      rw [clamp,if_neg (not_or.mpr ⟨hb,hblow⟩),if_pos hhigh]
    rw [hclamp]
    exact (clamp_mem hbounds a).2
  have hblow : ¬ b < lo := UInt64.not_lt.mpr (UInt64.le_trans (UInt64.not_lt.mp hlow) hab)
  have hahigh : ¬ hi < a := UInt64.not_lt.mpr (UInt64.le_trans hab (UInt64.not_lt.mp hhigh))
  rw [clamp,clamp,if_neg (not_or.mpr ⟨ha,hlow⟩),if_neg hahigh,if_neg (not_or.mpr ⟨hb,hblow⟩),
    if_neg hhigh]
  exact hab

theorem value_clamp {lo hi : UInt64} {l h : EReal} (hbounds : lo ≤ hi)
    (hhi : ¬ Negative hi) (hl : value lo = some l) (hh : value hi = some h) (hl0 : 0 ≤ l)
    (hx : value word = some x) : value (clamp lo hi word) = some (max l (min x h)) := by
  have hlo : ¬ Negative lo := fun hneg => hhi (le_trans hneg (UInt64.le_iff_toNat_le.mp hbounds))
  have hlh : l ≤ h := value_mono hhi hbounds hl hh
  unfold clamp
  by_cases hsign : Negative word
  · have hx0 : x ≤ 0 := value_nonpos hsign hx
    rw [if_pos (Or.inl hsign),hl,max_eq_left (le_trans (min_le_left _ _) (le_trans hx0 hl0))]
  by_cases hlow : word < lo
  · have hxl : x ≤ l := value_mono hlo (UInt64.le_of_lt hlow) hx hl
    rw [if_pos (Or.inr hlow),hl,max_eq_left (le_trans (min_le_left _ _) hxl)]
  rw [if_neg (not_or.mpr ⟨hsign,hlow⟩)]
  have hlx : l ≤ x := value_mono hsign (UInt64.not_lt.mp hlow) hl hx
  by_cases hhigh : hi < word
  · have hhx : h ≤ x := value_mono hsign (UInt64.le_of_lt hhigh) hh hx
    rw [if_pos hhigh,hh,min_eq_right hhx,max_eq_right hlh]
  · have hxh : x ≤ h := value_mono hhi (UInt64.not_lt.mp hhigh) hx hh
    rw [if_neg hhigh,hx,min_eq_left hxh,max_eq_right hlx]

end Binary64
