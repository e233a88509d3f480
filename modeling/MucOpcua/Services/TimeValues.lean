import MucOpcua.Lib.Binary64
import MucOpcua.Services.SessionTable
import MucOpcua.Subscription.ItemRequests

/-!
# Arithmetic on Durations and DateTimes

Durations are doubles that the server reads with integer operations only: each conversion is the
integer part of the value clamped to the bounds it is used with.
-/

namespace MucOpcua

open Binary64

variable {bits : UInt64}

/-! ## Durations -/

theorem shifted_significand {shift : UInt64} (hlow : 1023 ≤ exponent bits)
    (hhigh : exponent bits ≤ 1054) (hshift : shift.toNat = 1075 - exponent bits) :
    ((0x0010000000000000 ||| (bits &&& 0x000FFFFFFFFFFFFF)) >>> shift).toUInt32.toNat =
      integerPart bits := by
  have hfrac := fraction_lt bits
  have hmod : shift.toNat % 64 = 1075 - exponent bits := by omega
  rw [integerPart_eq (by omega) (by omega),UInt64.toNat_toUInt32,UInt64.toNat_shiftRight,hmod,
    Nat.shiftRight_eq_div_pow,toNat_or_and]
  -- At least 21 of the 53 bits are shifted out, so the rest fits 32 bits.
  apply Nat.mod_eq_of_lt
  have hpow : 2 ^ 21 ≤ 2 ^ (1075 - exponent bits) := Nat.pow_le_pow_right (by decide) (by omega)
  apply Nat.div_lt_of_lt_mul
  nlinarith

theorem not_negative_of_le {hi : UInt64} (hhi : bits ≤ hi) (hsign : ¬ Negative hi) :
    ¬ Negative bits :=
  fun h => hsign (le_trans h (UInt64.le_iff_toNat_le.mp hhi))

theorem exponent_mem_of_between {lo hi : UInt64} (hlo : lo ≤ bits) (hhi : bits ≤ hi)
    (hsign : ¬ Negative hi) : exponent lo ≤ exponent bits ∧ exponent bits ≤ exponent hi := by
  have hlo' : lo.toNat ≤ bits.toNat := UInt64.le_iff_toNat_le.mp hlo
  have hhi' : bits.toNat ≤ hi.toNat := UInt64.le_iff_toNat_le.mp hhi
  have hlt : hi.toNat < 2 ^ 63 := Nat.lt_of_not_le hsign
  unfold exponent
  omega

theorem durationBitsToMs_toNat (hlow : 1023 ≤ exponent bits)
    (hhigh : exponent bits ≤ 1054) : (durationBitsToMs bits).toNat = integerPart bits := by
  have hexp : ((bits >>> 52) &&& 0x7FF).toUInt32.toNat = exponent bits := by
    rw [UInt64.toNat_toUInt32,toNat_shiftRight_and]
    exact Nat.mod_eq_of_lt (by omega)
  have hunbiased : (((bits >>> 52) &&& 0x7FF).toUInt32 - 1023).toNat = exponent bits - 1023 := by
    have hle : (1023 : UInt32) ≤ ((bits >>> 52) &&& 0x7FF).toUInt32 := by
      rw [UInt32.le_iff_toNat_le,hexp]
      exact hlow
    rw [UInt32.toNat_sub_of_le _ _ hle,hexp]
    rfl
  have hsmall : ¬ (52 : UInt32) ≤ ((bits >>> 52) &&& 0x7FF).toUInt32 - 1023 := by
    rw [UInt32.le_iff_toNat_le]
    change ¬ 52 ≤ _
    omega
  unfold durationBitsToMs
  rw [if_neg hsmall]
  apply shifted_significand hlow hhigh
  rw [UInt32.toNat_toUInt64,UInt32.toNat_sub_of_le _ _ (UInt32.le_of_lt (UInt32.not_le.mp hsmall))]
  change 52 - _ = _
  omega

def sessionTimeoutMinBits : UInt64 := 0x40c3880000000000

def sessionTimeoutMaxBits : UInt64 := 0x414b774000000000

theorem clampTimeoutBits_eq (bits : UInt64) :
    clampTimeoutBits bits = clamp sessionTimeoutMinBits sessionTimeoutMaxBits bits := by
  have hcond := and_sign_bit_ne_zero bits
  by_cases hsign : Negative bits
  · rw [clampTimeoutBits,if_pos (hcond.mpr hsign),clamp,if_pos (Or.inl hsign)]
    rfl
  rw [clampTimeoutBits,if_neg (mt hcond.mp hsign),clamp]
  simp only [hsign,false_or]
  rfl

theorem value_sessionTimeoutMinBits : value sessionTimeoutMinBits = some ((10000 : ℝ) : EReal) := by
  have h := @value_of_multiple sessionTimeoutMinBits 10000 (by decide) (by decide) (by decide)
    (by decide)
  exact_mod_cast h

theorem value_sessionTimeoutMaxBits :
    value sessionTimeoutMaxBits = some ((3600000 : ℝ) : EReal) := by
  have h := @value_of_multiple sessionTimeoutMaxBits 3600000 (by decide) (by decide) (by decide)
    (by decide)
  exact_mod_cast h

/-! ## Publishing intervals -/

/-- `MU_PUBLISHING_INTERVAL_MIN_BITS` and `MU_PUBLISHING_INTERVAL_MAX_BITS`. -/
def publishingIntervalMinBits : UInt64 := 0x4049000000000000

def publishingIntervalMaxBits : UInt64 := 0x40ed4c0000000000

theorem value_publishingIntervalMinBits :
    value publishingIntervalMinBits = some ((50 : ℝ) : EReal) := by
  have h := @value_of_multiple publishingIntervalMinBits 50 (by decide) (by decide) (by decide)
    (by decide)
  exact_mod_cast h

theorem value_publishingIntervalMaxBits :
    value publishingIntervalMaxBits = some ((60000 : ℝ) : EReal) := by
  have h := @value_of_multiple publishingIntervalMaxBits 60000 (by decide) (by decide) (by decide)
    (by decide)
  exact_mod_cast h

theorem publishingIntervalBitsToMs_of_between
    (hlo : publishingIntervalMinBits ≤ bits) (hhi : bits ≤ publishingIntervalMaxBits) :
    (publishingIntervalBitsToMs bits).toNat = integerPart bits := by
  have hsign := not_negative_of_le hhi (by decide)
  obtain ⟨hlow,hhigh⟩ := exponent_mem_of_between hlo hhi (by decide)
  have hlow' : 1028 ≤ exponent bits := hlow
  have hhigh' : exponent bits ≤ 1038 := hhigh
  have hexp := toNat_shiftRight_and bits
  have hunbiased : (((bits >>> 52) &&& 0x7FF) - 1023).toNat = exponent bits - 1023 := by
    have hle : (1023 : UInt64) ≤ (bits >>> 52) &&& 0x7FF := by
      rw [UInt64.le_iff_toNat_le]
      change 1023 ≤ _
      omega
    rw [UInt64.toNat_sub_of_le _ _ hle,hexp]
    rfl
  have hsmall : ¬ (52 : UInt64) ≤ ((bits >>> 52) &&& 0x7FF) - 1023 := by
    rw [UInt64.le_iff_toNat_le]
    change ¬ 52 ≤ _
    omega
  have hmin : ¬ (bits &&& 0x8000000000000000 ≠ 0 ∨ bits < 0x4049000000000000) :=
    not_or.mpr ⟨mt (and_sign_bit_ne_zero bits).mp hsign,UInt64.not_lt.mpr hlo⟩
  have hmax : ¬ (0x40ed4c0000000000 : UInt64) < bits := UInt64.not_lt.mpr hhi
  unfold publishingIntervalBitsToMs
  rw [if_neg hmin,if_neg hmax]
  simp only [if_neg hsmall]
  apply shifted_significand (by omega) (by omega)
  rw [UInt64.toNat_sub_of_le _ _ (UInt64.le_of_lt (UInt64.not_le.mp hsmall))]
  change 52 - _ = _
  omega

theorem publishingIntervalBitsToMs_toNat (bits : UInt64) : (publishingIntervalBitsToMs bits).toNat =
      integerPart (clamp publishingIntervalMinBits publishingIntervalMaxBits bits) := by
  have hcond : (bits &&& 0x8000000000000000 ≠ 0 ∨ bits < publishingIntervalMinBits) ↔
      (Negative bits ∨ bits < publishingIntervalMinBits) :=
    or_congr (and_sign_bit_ne_zero bits) Iff.rfl
  by_cases hlow : Negative bits ∨ bits < publishingIntervalMinBits
  · have hcode : publishingIntervalBitsToMs bits = 50 := if_pos (hcond.mpr hlow)
    rw [hcode,clamp,if_pos hlow,integerPart_eq (by decide) (by decide)]
    decide
  by_cases hhigh : publishingIntervalMaxBits < bits
  · have hcode : publishingIntervalBitsToMs bits = 60000 :=
      (if_neg (mt hcond.mp hlow)).trans (if_pos hhigh)
    rw [hcode,clamp,if_neg hlow,if_pos hhigh,integerPart_eq (by decide) (by decide)]
    decide
  have hclamp : clamp publishingIntervalMinBits publishingIntervalMaxBits bits = bits := by
    rw [clamp,if_neg hlow,if_neg hhigh]
  rw [hclamp]
  exact publishingIntervalBitsToMs_of_between (UInt64.not_lt.mp (not_or.mp hlow).2)
    (UInt64.not_lt.mp hhigh)

theorem publishingIntervalMsToBits_toNat {n : UInt32} (hlow : 50 ≤ n) (hhigh : n ≤ 60000) :
    (publishingIntervalMsToBits n).toNat = 2 ^ 52 * (n.toNat.log2 + 1023) +
      (n.toNat - 2 ^ n.toNat.log2) * 2 ^ (52 - n.toNat.log2) := by
  have hn0 : n.toNat ≠ 0 := by
    have : 50 ≤ n.toNat := UInt32.le_iff_toNat_le.mp hlow
    omega
  have hn : n.toNat ≤ 60000 := UInt32.le_iff_toNat_le.mp hhigh
  have hk : n.toNat.log2 < 16 := (Nat.log2_lt hn0).mpr (by omega)
  have hle : 2 ^ n.toNat.log2 ≤ n.toNat := Nat.log2_self_le hn0
  have hlt : n.toNat < 2 ^ (n.toNat.log2 + 1) := Nat.lt_log2_self
  generalize hkdef : n.toNat.log2 = k at *
  have hfrac : (n.toNat - 2 ^ k) * 2 ^ (52 - k) < 2 ^ 52 := by
    have hsplit : 2 ^ 52 = 2 ^ k * 2 ^ (52 - k) := by
      rw [← Nat.pow_add]
      congr 1
      omega
    rw [hsplit]
    apply Nat.mul_lt_mul_of_pos_right _ (Nat.two_pow_pos _)
    omega
  have hexp : (UInt64.ofNat k).toNat = k := by
    exact Nat.mod_eq_of_lt (by omega)
  have hlead : ((1 : UInt64) <<< UInt64.ofNat k).toNat = 2 ^ k := by
    have hpow : 2 ^ k < 2 ^ 64 := Nat.pow_lt_pow_right (by decide) (by omega)
    rw [UInt64.toNat_shiftLeft,hexp,Nat.mod_eq_of_lt (by omega : k < 64),Nat.shiftLeft_eq]
    simpa using hpow
  have hrest : ((n.toUInt64 - (1 : UInt64) <<< UInt64.ofNat k) <<<
      (52 - UInt64.ofNat k)).toNat = (n.toNat - 2 ^ k) * 2 ^ (52 - k) := by
    have hsub : (1 : UInt64) <<< UInt64.ofNat k ≤ n.toUInt64 := by
      rw [UInt64.le_iff_toNat_le,hlead,UInt32.toNat_toUInt64]
      exact hle
    have hshift : (52 - UInt64.ofNat k : UInt64).toNat = 52 - k := by
      have hle52 : UInt64.ofNat k ≤ 52 := by
        rw [UInt64.le_iff_toNat_le,hexp]
        change k ≤ 52
        omega
      rw [UInt64.toNat_sub_of_le _ _ hle52,hexp]
      rfl
    rw [UInt64.toNat_shiftLeft,UInt64.toNat_sub_of_le _ _ hsub,UInt32.toNat_toUInt64,hlead,
      hshift,Nat.mod_eq_of_lt (by omega : 52 - k < 64),Nat.shiftLeft_eq]
    exact Nat.mod_eq_of_lt (by omega)
  have hhead : ((UInt64.ofNat k + 1023) <<< 52).toNat = 2 ^ 52 * (k + 1023) := by
    have hsum : (UInt64.ofNat k + 1023).toNat = k + 1023 := by
      rw [UInt64.toNat_add,hexp]
      exact Nat.mod_eq_of_lt (by change k + 1023 < _; omega)
    rw [UInt64.toNat_shiftLeft,hsum,Nat.mul_comm]
    change ((k + 1023) <<< 52) % 2 ^ 64 = _
    rw [Nat.shiftLeft_eq]
    exact Nat.mod_eq_of_lt (by omega)
  rw [publishingIntervalMsToBits,hkdef,UInt64.toNat_or,hhead,hrest]
  exact (Nat.two_pow_add_eq_or_of_lt hfrac (k + 1023)).symm

theorem publishingInterval_roundtrip {n : UInt32} (hlow : 50 ≤ n) (hhigh : n ≤ 60000) :
    publishingIntervalBitsToMs (publishingIntervalMsToBits n) = n := by
  have hbits := publishingIntervalMsToBits_toNat hlow hhigh
  have hn50 : 50 ≤ n.toNat := UInt32.le_iff_toNat_le.mp hlow
  have hn : n.toNat ≤ 60000 := UInt32.le_iff_toNat_le.mp hhigh
  have hn0 : n.toNat ≠ 0 := by omega
  have hk : n.toNat.log2 < 16 := (Nat.log2_lt hn0).mpr (by omega)
  have hle : 2 ^ n.toNat.log2 ≤ n.toNat := Nat.log2_self_le hn0
  have hlt : n.toNat < 2 ^ (n.toNat.log2 + 1) := Nat.lt_log2_self
  apply UInt32.toNat_inj.mp
  generalize publishingIntervalMsToBits n = bits at *
  generalize n.toNat.log2 = k at *
  -- Eleven places of the leading bit; in each the word is linear in the interval.
  have hfields : exponent bits = k + 1023 ∧ 2 ^ 52 + fraction bits = n.toNat * 2 ^ (52 - k) ∧
      publishingIntervalMinBits.toNat ≤ bits.toNat ∧
      bits.toNat ≤ publishingIntervalMaxBits.toNat := by
    have hmin : publishingIntervalMinBits.toNat = 0x4049000000000000 := rfl
    have hmax : publishingIntervalMaxBits.toNat = 0x40ed4c0000000000 := rfl
    rw [exponent,fraction]
    interval_cases k <;> omega
  obtain ⟨hexp,hfrac,hmin,hmax⟩ := hfields
  rw [publishingIntervalBitsToMs_of_between (UInt64.le_iff_toNat_le.mpr hmin)
    (UInt64.le_iff_toNat_le.mpr hmax),integerPart_eq (by omega) (by omega),hfrac,hexp]
  have hshift : 1075 - (k + 1023) = 52 - k := by omega
  rw [hshift]
  exact Nat.mul_div_cancel _ (Nat.two_pow_pos _)

/-! ## Main results on Durations -/

theorem isFloor_publishingIntervalBitsToMs {x : EReal} (hx : value bits = some x) :
    IsFloor (publishingIntervalBitsToMs bits).toNat
      (max ((50 : ℝ) : EReal) (min x ((60000 : ℝ) : EReal))) := by
  have hbounds : publishingIntervalMinBits ≤ publishingIntervalMaxBits := by decide
  have hclamp := value_clamp hbounds (by decide) value_publishingIntervalMinBits
    value_publishingIntervalMaxBits (by exact_mod_cast (by norm_num : (0 : ℝ) ≤ 50)) hx
  obtain ⟨hlo,hhi⟩ := clamp_mem hbounds bits
  rw [publishingIntervalBitsToMs_toNat]
  generalize clamp publishingIntervalMinBits publishingIntervalMaxBits bits = word at *
  have hsign := not_negative_of_le hhi (by decide)
  have hexp : exponent word ≤ 1038 := (exponent_mem_of_between hlo hhi (by decide)).2
  exact isFloor_integerPart hsign (by omega) hclamp

theorem publishingIntervalBitsToMs_mem (bits : UInt64) :
    50 ≤ publishingIntervalBitsToMs bits ∧ publishingIntervalBitsToMs bits ≤ 60000 := by
  have hbounds : publishingIntervalMinBits ≤ publishingIntervalMaxBits := by decide
  obtain ⟨hlo,hhi⟩ := clamp_mem hbounds bits
  have hmin := integerPart_mono (not_negative_of_le hhi (by decide)) hlo
  have hmax := integerPart_mono (by decide) hhi
  rw [integerPart_eq (by decide) (by decide)] at hmin
  rw [@integerPart_eq publishingIntervalMaxBits (by decide) (by decide)] at hmax
  rw [UInt32.le_iff_toNat_le,UInt32.le_iff_toNat_le,publishingIntervalBitsToMs_toNat]
  exact ⟨hmin,hmax⟩

theorem isFloor_durationBitsToMs (bits : UInt64) :
    ∃ y, value (clampTimeoutBits bits) = some y ∧
      IsFloor (durationBitsToMs (clampTimeoutBits bits)).toNat y ∧
      10000 ≤ durationBitsToMs (clampTimeoutBits bits) ∧
      durationBitsToMs (clampTimeoutBits bits) ≤ 3600000 := by
  rw [clampTimeoutBits_eq]
  obtain ⟨hlo,hhi⟩ := clamp_mem (by decide : sessionTimeoutMinBits ≤ sessionTimeoutMaxBits) bits
  generalize clamp sessionTimeoutMinBits sessionTimeoutMaxBits bits = revised at *
  have hsign := not_negative_of_le hhi (by decide)
  obtain ⟨hlow,hhigh⟩ := exponent_mem_of_between hlo hhi (by decide)
  have hlow' : 1036 ≤ exponent revised := hlow
  have hhigh' : exponent revised ≤ 1044 := hhigh
  have hfinite : exponent revised ≠ 2047 := by omega
  have hms := durationBitsToMs_toNat (by omega : 1023 ≤ exponent revised) (by omega)
  have hmin := integerPart_mono hsign hlo
  have hmax := integerPart_mono (by decide) hhi
  rw [integerPart_eq (by decide) (by decide),← hms] at hmin
  rw [@integerPart_eq sessionTimeoutMaxBits (by decide) (by decide),← hms] at hmax
  refine ⟨_,value_of_finite hsign hfinite,?_,UInt32.le_iff_toNat_le.mpr hmin,
    UInt32.le_iff_toNat_le.mpr hmax⟩
  rw [hms]
  exact isFloor_integerPart hsign hfinite (value_of_finite hsign hfinite)

theorem value_clampTimeoutBits {x : EReal} (hx : value bits = some x) :
    value (clampTimeoutBits bits) =
      some (max ((10000 : ℝ) : EReal) (min x ((3600000 : ℝ) : EReal))) := by
  rw [clampTimeoutBits_eq]
  exact value_clamp (by decide) (by decide) value_sessionTimeoutMinBits
    value_sessionTimeoutMaxBits (by exact_mod_cast (by norm_num : (0 : ℝ) ≤ 10000)) hx

/-- The integer-only conversions of Durations, for every 64-bit word.  A NaN denotes no number;
it is treated as a bound, and the results that need no value hold for it too. -/
theorem duration_conversions :
    (∀ bits, 50 ≤ publishingIntervalBitsToMs bits ∧ publishingIntervalBitsToMs bits ≤ 60000) ∧
    (∀ bits x, value bits = some x → ((50 : ℝ) : EReal) ≤ x → x ≤ ((60000 : ℝ) : EReal) →
      IsFloor (publishingIntervalBitsToMs bits).toNat x) ∧
    (∀ a b, ¬ Negative b → a ≤ b → publishingIntervalBitsToMs a ≤ publishingIntervalBitsToMs b) ∧
    (∀ a b x y, value a = some x → value b = some y → x ≤ y →
      publishingIntervalBitsToMs a ≤ publishingIntervalBitsToMs b) ∧
    (∀ n, 50 ≤ n → n ≤ 60000 → publishingIntervalBitsToMs (publishingIntervalMsToBits n) = n) ∧
    (∀ bits x, value bits = some x → IsFloor (durationBitsToMs (clampTimeoutBits bits)).toNat
        (max ((10000 : ℝ) : EReal) (min x ((3600000 : ℝ) : EReal))) ∧
      value (clampTimeoutBits bits) =
        some (max ((10000 : ℝ) : EReal) (min x ((3600000 : ℝ) : EReal)))) ∧
    (∀ session bits sessionId authToken channelId created,
      sessionCreateWithIdentifiers session bits sessionId authToken channelId = .ok created →
      ∃ y, value (clampTimeoutBits bits) = some y ∧
        IsFloor created.revisedSessionTimeoutMs.toNat y ∧
        10000 ≤ created.revisedSessionTimeoutMs ∧ created.revisedSessionTimeoutMs ≤ 3600000) := by
  refine ⟨publishingIntervalBitsToMs_mem,?_,?_,?_,?_,?_,?_⟩
  · intro bits x hx hlow hhigh
    have hfloor := isFloor_publishingIntervalBitsToMs hx
    rwa [min_eq_left hhigh,max_eq_right hlow] at hfloor
  · intro a b hb hab
    rw [UInt32.le_iff_toNat_le,publishingIntervalBitsToMs_toNat,publishingIntervalBitsToMs_toNat]
    have hbounds : publishingIntervalMinBits ≤ publishingIntervalMaxBits := by decide
    exact integerPart_mono (not_negative_of_le (clamp_mem hbounds b).2 (by decide))
      (clamp_mono hbounds hb hab)
  · intro a b x y hx hy hxy
    apply (isFloor_publishingIntervalBitsToMs hx).mono (isFloor_publishingIntervalBitsToMs hy)
    exact max_le_max_left _ (min_le_min_right _ hxy)
  · intro n hlow hhigh
    exact publishingInterval_roundtrip hlow hhigh
  · intro bits x hx
    obtain ⟨y,hy,hfloor,-⟩ := isFloor_durationBitsToMs bits
    have hclamp := value_clampTimeoutBits hx
    rw [hclamp,Option.some.injEq] at hy
    rw [hy]
    exact ⟨hfloor,hclamp.trans (by rw [hy])⟩
  · intro session bits sessionId authToken channelId created hcreate
    unfold sessionCreateWithIdentifiers at hcreate
    split at hcreate
    · cases hcreate
    · cases hcreate
      exact isFloor_durationBitsToMs bits

/-! ## Clock skew -/

theorem toInt_eq_toNat_toUInt64 (x : Int64) :
    x.toInt = if 2 * x.toUInt64.toNat < 2 ^ 64 then (x.toUInt64.toNat : Int)
      else x.toUInt64.toNat - 2 ^ 64 :=
  BitVec.toInt_eq_toNat_cond x.toBitVec

/-- The absolute value of a difference, exact for every 64-bit difference: the one that has no
64-bit negation is read as unsigned. -/
theorem toNat_abs_toUInt64 (diff : Int64) :
    (if diff < 0 then -diff else diff).toUInt64.toNat = diff.toInt.natAbs := by
  have hlow := Int64.le_toInt diff
  have hnonneg : diff < 0 ↔ diff.toInt < 0 := Int64.lt_iff_toInt_lt
  by_cases hsign : diff.toInt < 0
  · have hneg : (-diff).toInt = (-diff.toInt).bmod (2 ^ 64) := Int64.toInt_neg diff
    have hcond := toInt_eq_toNat_toUInt64 (-diff)
    have hlt : (-diff).toUInt64.toNat < 2 ^ 64 := (-diff).toUInt64.toNat_lt
    rw [if_pos (hnonneg.mpr hsign)]
    rw [hneg,Int.bmod_def] at hcond
    split at hcond <;> split at hcond <;> omega
  · have hcond := toInt_eq_toNat_toUInt64 diff
    have hlt : diff.toUInt64.toNat < 2 ^ 64 := diff.toUInt64.toNat_lt
    rw [if_neg (mt hnonneg.mp hsign)]
    split at hcond <;> omega

theorem opnTimeSyncAllows_eq_true {serverTime clientTime : Int64} {maxSkewNs : UInt64}
    (hserver : serverTime ≠ 0) (hclient : clientTime ≠ 0) :
    opnTimeSyncAllows serverTime clientTime maxSkewNs = true ↔
      (serverTime - clientTime).toInt.natAbs * 100 ≤ maxSkewNs.toNat := by
  have habs := toNat_abs_toUInt64 (serverTime - clientTime)
  have hskew : maxSkewNs.toNat < 2 ^ 64 := maxSkewNs.toNat_lt
  rw [opnTimeSyncAllows,if_neg (not_or.mpr ⟨hserver,hclient⟩),← habs]
  simp only
  generalize (if serverTime - clientTime < 0 then -(serverTime - clientTime)
    else serverTime - clientTime).toUInt64 = ticks
  have hbound : (18446744073709551615 / 100 : UInt64) < ticks ↔ 184467440737095516 < ticks.toNat := by
    rfl
  by_cases hlarge : 184467440737095516 < ticks.toNat
  · rw [if_pos (hbound.mpr hlarge)]
    simp only [Bool.false_eq_true,false_iff]
    omega
  have hmul : (ticks * 100).toNat = ticks.toNat * 100 := by
    rw [UInt64.toNat_mul]
    exact Nat.mod_eq_of_lt (by change _ * 100 < _; omega)
  rw [if_neg (mt hbound.mp hlarge),decide_eq_true_iff,UInt64.le_iff_toNat_le,hmul]

/-- The wrapped difference is the true one up to `2 ^ 63` ticks; beyond, it is what is missing to
`2 ^ 64`. -/
theorem natAbs_toInt_sub (a b : Int64) :
    (a - b).toInt.natAbs = if (a.toInt - b.toInt).natAbs ≤ 2 ^ 63
      then (a.toInt - b.toInt).natAbs else 2 ^ 64 - (a.toInt - b.toInt).natAbs := by
  have ha := Int64.le_toInt a
  have ha' := Int64.toInt_lt a
  have hb := Int64.le_toInt b
  have hb' := Int64.toInt_lt b
  have hsub : (a - b).toInt = (a.toInt - b.toInt).bmod (2 ^ 64) := Int64.toInt_sub a b
  rw [hsub,Int.bmod_def]
  split <;> split <;> omega

/-- The skew check agrees with the mathematical difference exactly when the difference fits the
64-bit type, or the wrapped one is refused all the same. -/
theorem opnTimeSyncAllows_exact_iff (serverTime clientTime : Int64) (maxSkewNs : UInt64)
    (hserver : serverTime ≠ 0) (hclient : clientTime ≠ 0) :
    (opnTimeSyncAllows serverTime clientTime maxSkewNs = true ↔
        |serverTime.toInt - clientTime.toInt| * 100 ≤ maxSkewNs.toNat) ↔
      (|serverTime.toInt - clientTime.toInt| ≤ 2 ^ 63 ∨
        (maxSkewNs.toNat : Int) < (2 ^ 64 - |serverTime.toInt - clientTime.toInt|) * 100) := by
  have hskew : maxSkewNs.toNat < 2 ^ 64 := maxSkewNs.toNat_lt
  rw [opnTimeSyncAllows_eq_true hserver hclient,natAbs_toInt_sub,Int.abs_eq_natAbs]
  generalize (serverTime.toInt - clientTime.toInt).natAbs = distance
  by_cases hfits : distance ≤ 2 ^ 63
  · rw [if_pos hfits]
    omega
  · rw [if_neg hfits]
    omega

theorem opnTimeSyncAllows_exact_near : (opnTimeSyncAllows 1000 900 10000 = true ↔
        |(1000 : Int64).toInt - (900 : Int64).toInt| * 100 ≤ (10000 : UInt64).toNat) :=
  (opnTimeSyncAllows_exact_iff 1000 900 10000 (by decide) (by decide)).mpr (by decide)

/-- A client at the far end of the time axis passes for one tick away. -/
theorem opnTimeSyncAllows_wrapped :
    opnTimeSyncAllows 9223372036854775807 (-9223372036854775808) 100 = true ∧
      ¬ |(9223372036854775807 : Int64).toInt - (-9223372036854775808 : Int64).toInt| * 100 ≤
        (100 : UInt64).toNat := by
  decide

end MucOpcua
