import MucOpcua.Lib.Decimal
import MucOpcua.Subscription.ItemRequests

/-!
# IndexRange on Read and for monitored items

`apply_index_range` and the range a monitored item keeps. The numbers of a range are read into 32
bits, and -1 stands for a range without an end.
-/

namespace MucOpcua

variable {ω κ : Type}

/-! ## The source -/

/-- `apply_index_range`. -/
def applyReadIndexRange (indexRange : MuString) (value : Variant) : StatusCode × Variant :=
  if indexRange.length ≤ 0 then (Status.good, value)
  else
    match value.value with
    | .scalar _ => (Status.good, value)
    | .array length _ =>
      if length ≤ 0 then (Status.good, value)
      else
        match parseNumericRange indexRange with
        | none => (Status.badIndexRangeInvalid.val, value)
        | some (first, last) => applyNumericIndexRange value first last

/-- What `configure_monitored_item` keeps of a range that was not refused. -/
def MonitoredItem.StoresRange (item : MonitoredItem ω κ) (indexRange : MuString) : Prop :=
  (requestedIndexRange indexRange).1 ≠ -2 ∧
    item.indexRangeStart = (if 0 ≤ (requestedIndexRange indexRange).1.toInt then
      (requestedIndexRange indexRange).1 else -1) ∧
    item.indexRangeEnd = (requestedIndexRange indexRange).2

theorem MonitoredItem.configured_storesRange {cfg : EngineConfig ω κ} {world : ω}
    {item : MonitoredItem ω κ} {body : CreateBody} {node : Node ω} {sub : Subscription}
    {timestampsToReturn : UInt32} {nowMs : UInt64} {indexRange : MuString}
    (hbody : requestedIndexRange indexRange = (body.indexRangeStart, body.indexRangeEnd))
    (haccepted : resolveAndValidateCreateItem cfg world body = .ok node) :
    (item.configured cfg world body node sub timestampsToReturn nowMs).StoresRange indexRange := by
  unfold StoresRange
  rw [hbody]
  refine ⟨fun hrefused => ?_,rfl,rfl⟩
  unfold resolveAndValidateCreateItem at haccepted
  split at haccepted
  · cases haccepted
  · rw [if_pos hrefused] at haccepted
    cases haccepted

theorem MonitoredItem.StoresRange.sample {cfg : EngineConfig ω κ} {item : MonitoredItem ω κ}
    {indexRange : MuString} (h : item.StoresRange indexRange) (nowMs : UInt64) (world : ω) :
    ∃ item', (item.sample cfg nowMs world).1.item = some item' ∧ item'.StoresRange indexRange := by
  obtain ⟨item',hitem',hsampled⟩ := MonitoredItem.sample_sampled cfg item nowMs world
  obtain ⟨hstart,hend⟩ := Prod.mk.inj (Prod.mk.inj (Prod.mk.inj hsampled.fixed).2).1
  exact ⟨item',hitem',h.1,hstart.trans h.2.1,hend.trans h.2.2⟩

/-! ## The law -/

def rangeSeparator : UInt8 := 58

theorem sized_elements (type : BuiltinType) (elements : List type.Carrier) :
    elements.length = (elements.length : Int).toNat := by
  simp

def arrayVariant (type : BuiltinType) (elements : List type.Carrier) (ext : UInt32) : Variant :=
  ⟨type, .array elements.length (some ⟨elements, sized_elements type elements⟩), ext⟩

structure RangeLaw (text : List UInt8) (type : BuiltinType) (elements : List type.Carrier)
    (ext : UInt32) (outcome : StatusCode × Variant) : Prop where
  /-- a number within the array selects that element -/
  element : ∀ n element, Decimal.Denotes rangeSeparator text n none →
    elements[n]? = some element → outcome = (Status.good, ⟨type, .scalar element, ext⟩)
  /-- two numbers select what lies between them, up to the end of the array -/
  slice : ∀ a b, Decimal.Denotes rangeSeparator text a (some b) → a < b → a < elements.length →
    outcome = (Status.good, arrayVariant type
      ((elements.drop a).take (min b (elements.length - 1) - a + 1)) ext)
  /-- everything else is an error -/
  error : (∀ n, Decimal.Denotes rangeSeparator text n none → elements.length ≤ n) →
    (∀ a b, Decimal.Denotes rangeSeparator text a (some b) → b ≤ a ∨ elements.length ≤ a) →
    outcome.1 ≠ Status.good

def selection (first : Int) (last : Option Int) (length : Nat) : Option (Nat × Option Nat) :=
  match last with
  | none => if 0 ≤ first ∧ first < length then some (first.toNat, none) else none
  | some last =>
    if first < last ∧ 0 ≤ first ∧ first < length then
      some (first.toNat, some (min last (length - 1)).toNat)
    else none

def select (type : BuiltinType) (elements : List type.Carrier) (ext : UInt32) :
    Nat × Option Nat → Option Variant
  | (n, none) => elements[n]?.map fun element => ⟨type, .scalar element, ext⟩
  | (a, some b) => some (arrayVariant type ((elements.drop a).take (b - a + 1)) ext)

def lawfulValue (text : List UInt8) (type : BuiltinType) (elements : List type.Carrier)
    (ext : UInt32) : Option Variant := do
  let (first, last) ← Decimal.range? rangeSeparator text
  let selected ← selection first (last.map Int.ofNat) elements.length
  select type elements ext selected

def RangeOutcome (value : Option Variant) (outcome : StatusCode × Variant) : Prop :=
  match value with
  | some value => outcome = (Status.good, value)
  | none => outcome.1 ≠ Status.good

theorem RangeOutcome.unique {value value' : Option Variant} {outcome : StatusCode × Variant}
    (h : RangeOutcome value outcome) (h' : RangeOutcome value' outcome) : value = value' := by
  cases value with
  | none =>
    cases value' with
    | none => rfl
    | some v => exact absurd (congrArg Prod.fst h') h
  | some v =>
    cases value' with
    | none => exact absurd (congrArg Prod.fst h) h'
    | some v' => rw [(Prod.mk.inj (h.symm.trans h')).2]

section Law

variable {text : List UInt8} {type : BuiltinType} {elements : List type.Carrier} {ext : UInt32}

theorem denotes_iff_range? {first : Nat} {last : Option Nat} :
    Decimal.Denotes rangeSeparator text first last ↔
      Decimal.range? rangeSeparator text = some (first, last) :=
  Decimal.denotes_iff rfl

theorem selection_number (n length : Nat) :
    selection n none length = if n < length then some (n, none) else none := by
  simp [selection]

theorem selection_pair (a b length : Nat) : selection a (some (b : Int)) length =
      if a < b ∧ a < length then some (a, some (min b (length - 1))) else none := by
  simp only [selection]
  by_cases h : a < b ∧ a < length
  · rw [if_pos h,if_pos (by omega)]
    simp only [Option.some.injEq,Prod.mk.injEq]
    omega
  · rw [if_neg h,if_neg (by omega)]

theorem lawfulValue_number {n : Nat} (h : Decimal.range? rangeSeparator text = some (n, none)) :
    lawfulValue text type elements ext =
      elements[n]?.map fun element => ⟨type, .scalar element, ext⟩ := by
  simp only [lawfulValue,h,Option.bind_eq_bind,Option.bind_some,Option.map_none]
  rw [selection_number]
  split
  · rfl
  rename_i hout
  rw [List.getElem?_eq_none (Nat.le_of_not_lt hout)]
  rfl

theorem lawfulValue_pair {a b : Nat} (h : Decimal.range? rangeSeparator text = some (a, some b)) :
    lawfulValue text type elements ext =
      if a < b ∧ a < elements.length then
        some (arrayVariant type ((elements.drop a).take (min b (elements.length - 1) - a + 1)) ext)
      else none := by
  simp only [lawfulValue,h,Option.bind_eq_bind,Option.bind_some,Option.map_some,
    Int.ofNat_eq_natCast]
  rw [selection_pair]
  split <;> rfl

theorem lawfulValue_beyond {a : Nat} {b : Option Nat}
    (h : Decimal.range? rangeSeparator text = some (a, b)) (hle : elements.length ≤ a) :
    lawfulValue text type elements ext = none := by
  cases b with
  | none => rw [lawfulValue_number h,List.getElem?_eq_none hle]; rfl
  | some b => rw [lawfulValue_pair h]; exact if_neg (by omega)

theorem rangeLaw_iff_range? {outcome : StatusCode × Variant} :
    RangeLaw text type elements ext outcome ↔
      (∀ n, Decimal.range? rangeSeparator text = some (n, none) → ∀ element,
        elements[n]? = some element → outcome = (Status.good, ⟨type, .scalar element, ext⟩)) ∧
      (∀ a b, Decimal.range? rangeSeparator text = some (a, some b) → a < b → a < elements.length →
        outcome = (Status.good, arrayVariant type
          ((elements.drop a).take (min b (elements.length - 1) - a + 1)) ext)) ∧
      ((∀ n, Decimal.range? rangeSeparator text = some (n, none) → elements.length ≤ n) →
        (∀ a b, Decimal.range? rangeSeparator text = some (a, some b) →
          b ≤ a ∨ elements.length ≤ a) → outcome.1 ≠ Status.good) := by
  simp only [← denotes_iff_range?]
  exact ⟨fun ⟨h,h',h''⟩ => ⟨fun n hn element => h n element hn,h',h''⟩,
    fun ⟨h,h',h''⟩ => ⟨fun n element hn => h n hn element,h',h''⟩⟩

theorem rangeLaw_iff {outcome : StatusCode × Variant} : RangeLaw text type elements ext outcome ↔
      RangeOutcome (lawfulValue text type elements ext) outcome := by
  rw [rangeLaw_iff_range?]
  cases hrange : Decimal.range? rangeSeparator text with
  | none => simp [lawfulValue,hrange,RangeOutcome]
  | some range =>
    obtain ⟨first,last⟩ := range
    cases last with
    | none =>
      rw [lawfulValue_number hrange]
      cases helement : elements[first]? with
      | none =>
        have hout := List.getElem?_eq_none_iff.mp helement
        simp [RangeOutcome,hout]
      | some element =>
        obtain ⟨hin,rfl⟩ := List.getElem?_eq_some_iff.mp helement
        simp [RangeOutcome,hin]
    | some last =>
      rw [lawfulValue_pair hrange]
      by_cases hin : first < last ∧ first < elements.length
      · simp [RangeOutcome,hin]
      · have hout : last ≤ first ∨ elements.length ≤ first := by omega
        simp only [RangeOutcome,if_neg hin]
        simpa [hout] using fun _ hlt hlt' => absurd ⟨hlt,hlt'⟩ hin

end Law

/-! ## What the code reads -/

def int32 (n : Nat) : Int := (Int32.ofNat n).toInt

def rangeEnd (last : Int32) : Option Int := if last = -1 then none else some last.toInt

def int32End (last : Option Nat) : Option Int := last.bind fun n => rangeEnd (Int32.ofNat n)

theorem int32_of_lt {n : Nat} (h : n < 2 ^ 31) : int32 n = n := Int32.toInt_ofNat_of_lt h

theorem int32_eq (n : Nat) :
    int32 n = if n % 2 ^ 32 < 2 ^ 31 then (n % 2 ^ 32 : Int) else n % 2 ^ 32 - 2 ^ 32 := by
  rw [int32,Int32.toInt_ofNat',Int.bmod_def]
  norm_num
  split <;> split <;> omega

theorem int32End_some (b : Nat) :
    int32End (some b) = if b % 2 ^ 32 = 2 ^ 32 - 1 then none else some (int32 b) := by
  have hmark : Int32.ofNat b = -1 ↔ b % 2 ^ 32 = 2 ^ 32 - 1 := by
    rw [← Int32.toInt_inj]
    have heq := int32_eq b
    unfold int32 at heq
    rw [heq]
    show _ = (-1 : Int) ↔ _
    split <;> omega
  simp only [int32End,rangeEnd,Option.bind_some,hmark,int32]

theorem ofNat_ne_neg_one {n : Nat} (h : n < 2 ^ 31) : Int32.ofNat n ≠ -1 := by
  intro heq
  have hread := int32_of_lt h
  rw [int32,heq] at hread
  have : (-1 : Int32).toInt = -1 := by decide
  omega

theorem int32End_of_lt {last : Option Nat} (h : ∀ n ∈ last, n < 2 ^ 31) :
    int32End last = last.map Int.ofNat := by
  cases last with
  | none => rfl
  | some n =>
    show rangeEnd (Int32.ofNat n) = _
    rw [rangeEnd,if_neg (ofNat_ne_neg_one (h n rfl))]
    exact congrArg some (int32_of_lt (h n rfl))

theorem foldl_digits (digits : List UInt8) (h : ∀ c ∈ digits, Decimal.isDigit c = true) :
    digits.foldl (fun n c => n * 10 + (c - 48).toInt8.toInt32) (0 : Int32) =
      Int32.ofNat (Decimal.value digits) := by
  have hdigit (c : UInt8) (hc : Decimal.isDigit c = true) :
      (c - 48).toInt8.toInt32 = Int32.ofNat (Decimal.digitValue c) := by
    obtain ⟨hlow,hhigh⟩ : 48 ≤ c ∧ c ≤ 57 := of_decide_eq_true hc
    have hlow' : 48 ≤ c.toNat := hlow
    have hhigh' : c.toNat ≤ 57 := hhigh
    obtain ⟨k,hk,rfl⟩ : ∃ k, k < 10 ∧ c = UInt8.ofNat (48 + k) :=
      ⟨c.toNat - 48,by omega,by
        apply UInt8.toNat_inj.mp
        rw [UInt8.toNat_ofNat']
        omega⟩
    interval_cases k <;> rfl
  have hfold (digits : List UInt8) (h : ∀ c ∈ digits, Decimal.isDigit c = true) (n : Nat) :
      digits.foldl (fun n c => n * 10 + (c - 48).toInt8.toInt32) (Int32.ofNat n) =
        Int32.ofNat (digits.foldl (fun n c => n * 10 + Decimal.digitValue c) n) := by
    induction digits generalizing n with
    | nil => rfl
    | cons c digits ih =>
      rw [List.foldl_cons,List.foldl_cons,hdigit c (h c List.mem_cons_self),
        ← ih fun c' hc' => h c' (List.mem_cons_of_mem _ hc')]
      rw [Int32.ofNat_add,Int32.ofNat_mul]
      rfl
  exact hfold digits h 0

theorem parseDecimalRun_eq (text : List UInt8) : parseDecimalRun text =
      if text.takeWhile Decimal.isDigit = [] then none
      else some (Int32.ofNat (Decimal.value (text.takeWhile Decimal.isDigit)),
        text.dropWhile Decimal.isDigit) := by
  have hfold := foldl_digits (text.takeWhile Decimal.isDigit) fun c hc => List.mem_takeWhile_imp hc
  cases text with
  | nil => rfl
  | cons c rest =>
    by_cases hc : Decimal.isDigit c = true
    · rw [← hfold,if_neg (by rw [List.takeWhile_cons_of_pos hc]; exact List.cons_ne_nil _ _)]
      exact if_pos hc
    · rw [if_pos (List.takeWhile_cons_of_neg hc)]
      exact if_neg hc

theorem parseNumericRange_eq (indexRange : MuString) : parseNumericRange indexRange =
      (Decimal.range? rangeSeparator indexRange.bytes).bind fun (first, last) =>
        if ∃ l ∈ int32End last, l ≤ int32 first then none
        else some (Int32.ofNat first, (last.map Int32.ofNat).getD (-1)) := by
  unfold parseNumericRange Decimal.range?
  generalize indexRange.bytes = text
  rw [parseDecimalRun_eq]
  by_cases hdigits : text.takeWhile Decimal.isDigit = []
  · simp [hdigits]
  simp only [if_neg hdigits,Option.bind_eq_bind,Option.bind_some]
  cases hrest : text.dropWhile Decimal.isDigit with
  | nil => simp [int32End]
  | cons c rest =>
    dsimp only
    by_cases hc : c = rangeSeparator
    · subst hc
      show ((parseDecimalRun rest).bind _) = _
      rw [parseDecimalRun_eq]
      by_cases hdigits' : rest.takeWhile Decimal.isDigit = []
      · have hnot : ¬ (rest ≠ [] ∧ rest.all Decimal.isDigit = true) := by
          rintro ⟨hne,hall⟩
          rw [List.takeWhile_eq_self_iff.mpr (List.all_eq_true.mp hall)] at hdigits'
          exact hne hdigits'
        rw [if_pos hdigits',if_neg fun h => hnot h.2]
        rfl
      rw [if_neg hdigits',Option.bind_some]
      by_cases hall : rest.all Decimal.isDigit = true
      · have htake : rest.takeWhile Decimal.isDigit = rest :=
          List.takeWhile_eq_self_iff.mpr (List.all_eq_true.mp hall)
        have hdrop : rest.dropWhile Decimal.isDigit = [] :=
          List.dropWhile_eq_nil_iff.mpr (List.all_eq_true.mp hall)
        rw [htake] at hdigits' ⊢
        have hrange : rangeSeparator = rangeSeparator ∧ rest ≠ [] ∧
            rest.all Decimal.isDigit = true := ⟨rfl,hdigits',hall⟩
        rw [hdrop,if_pos hrange]
        dsimp only [int32End,Option.bind_some,Option.map_some,Option.getD_some]
        unfold rangeEnd
        by_cases hnone : Int32.ofNat (Decimal.value rest) = -1
        · simp [hnone]
        · simp [Int32.le_iff_toInt_le,int32]
      · have hdrop : rest.dropWhile Decimal.isDigit ≠ [] := fun hnil =>
          hall (List.all_eq_true.mpr (List.dropWhile_eq_nil_iff.mp hnil))
        rw [if_pos hdrop,if_neg fun h => hall h.2.2]
        rfl
    · have hother : ¬ (c = rangeSeparator ∧ rest ≠ [] ∧ rest.all Decimal.isDigit = true) :=
        fun h => hc h.1
      rw [if_neg hother]
      have hcolon : c ≠ 58 := hc
      split
      · next heq => exact absurd (List.cons.inj heq).1 hcolon
      · rfl

/-! ## What the code selects -/

def readableValue (text : List UInt8) (type : BuiltinType) (elements : List type.Carrier)
    (ext : UInt32) : Option Variant := do
  let (first, last) ← Decimal.range? rangeSeparator text
  let selected ← selection (int32 first) (int32End last) elements.length
  if variantElemSizeKnown type then select type elements ext selected else none

variable {type : BuiltinType} {elements : List type.Carrier}

theorem applyNumericIndexRange_outcome
    {ext : UInt32} (hne : 0 < elements.length) {first last : Int32}
    (horder : ¬ ∃ l ∈ rangeEnd last, l ≤ first.toInt) :
    RangeOutcome ((selection first.toInt (rangeEnd last) elements.length).bind fun selected =>
        if variantElemSizeKnown type then select type elements ext selected else none)
      (applyNumericIndexRange (arrayVariant type elements ext) first last) := by
  unfold applyNumericIndexRange arrayVariant
  dsimp only
  rw [if_neg (by omega)]
  by_cases hin : first.toInt < 0 ∨ (elements.length : Int) ≤ first.toInt
  · have hselect : selection first.toInt (rangeEnd last) elements.length = none := by
      unfold selection
      split <;> exact if_neg (by omega)
    rw [if_pos hin,hselect]
    exact Status.badIndexRangeNoData.property
  have hlt : first.toInt.toNat < elements.length := by omega
  rw [if_neg hin]
  by_cases hknown : variantElemSizeKnown type = true
  · rw [if_neg (by rw [hknown]; exact nofun)]
    simp only [hknown]
    unfold rangeEnd at horder ⊢
    by_cases hone : last = -1
    · rw [if_pos hone,if_pos hone]
      have helement := List.getElem?_eq_getElem hlt
      simp only [selection,if_pos (show 0 ≤ first.toInt ∧ first.toInt < elements.length by omega),
        Option.bind_some,select,helement]
      rfl
    rw [if_neg hone] at horder ⊢
    rw [if_neg hone]
    have hbehind : first.toInt < last.toInt := by
      by_contra hle
      exact horder ⟨_,rfl,Int.not_lt.mp hle⟩
    have hmin : (if (elements.length : Int) ≤ last.toInt then (elements.length : Int) - 1
        else last.toInt) = min last.toInt (elements.length - 1) := by
      split <;> omega
    simp only [selection,if_pos (show first.toInt < last.toInt ∧ 0 ≤ first.toInt ∧
        first.toInt < elements.length by omega)]
    have hcount : (min last.toInt (elements.length - 1) - first.toInt + 1).toNat =
        (min last.toInt (elements.length - 1)).toNat - first.toInt.toNat + 1 := by omega
    show (_, arrayVariant type (List.take ((if (elements.length : Int) ≤ last.toInt then
      (elements.length : Int) - 1 else last.toInt) - first.toInt + 1).toNat _) ext) = _
    rw [hmin,hcount]
  · rw [if_pos (by simpa using hknown)]
    have hnone : ((selection first.toInt (rangeEnd last) elements.length).bind fun selected =>
        if variantElemSizeKnown type then select type elements ext selected else none) = none := by
      simp [hknown]
    rw [hnone]
    exact Status.badInternalError.property

theorem MuString.bytes_ne_nil {s : MuString} : s.bytes ≠ [] ↔ 0 < s.length := by
  rw [← List.length_pos_iff,s.bytes_length]
  omega

theorem rangeEnd_int32End (last : Option Nat) :
    rangeEnd ((last.map Int32.ofNat).getD (-1)) = int32End last := by
  cases last <;> rfl

section Outcomes

variable {indexRange : MuString} {type : BuiltinType} {elements : List type.Carrier} {ext : UInt32}

theorem applyNumericIndexRange_read {first : Nat} {last : Option Nat} (hne : 0 < elements.length)
    (hrange : Decimal.range? rangeSeparator indexRange.bytes = some (first, last))
    (horder : ¬ ∃ l ∈ int32End last, l ≤ int32 first) :
    RangeOutcome (readableValue indexRange.bytes type elements ext)
      (applyNumericIndexRange (arrayVariant type elements ext) (Int32.ofNat first)
        ((last.map Int32.ofNat).getD (-1))) := by
  rw [← rangeEnd_int32End] at horder
  simp only [readableValue,hrange,Option.bind_eq_bind,Option.bind_some]
  rw [← rangeEnd_int32End]
  exact applyNumericIndexRange_outcome hne horder

theorem applyReadIndexRange_outcome (hgiven : indexRange.bytes ≠ []) (hne : 0 < elements.length) :
    RangeOutcome (readableValue indexRange.bytes type elements ext)
      (applyReadIndexRange indexRange (arrayVariant type elements ext)) := by
  have hlength := MuString.bytes_ne_nil.mp hgiven
  unfold applyReadIndexRange
  rw [if_neg (by omega)]
  show RangeOutcome _ (if (elements.length : Int) ≤ 0 then _ else _)
  rw [if_neg (by omega),parseNumericRange_eq]
  cases hrange : Decimal.range? rangeSeparator indexRange.bytes with
  | none =>
    simp only [readableValue,hrange]
    exact Status.badIndexRangeInvalid.property
  | some range =>
    obtain ⟨first,last⟩ := range
    rw [Option.bind_some]
    dsimp only
    by_cases horder : ∃ l ∈ int32End last, l ≤ int32 first
    · have hnone : readableValue indexRange.bytes type elements ext = none := by
        obtain ⟨l,hl,hle⟩ := horder
        simp only [readableValue,hrange,Option.bind_eq_bind,Option.bind_some,
          Option.mem_def.mp hl,selection]
        rw [if_neg (by omega),Option.bind_none]
      rw [if_pos horder,hnone]
      exact Status.badIndexRangeInvalid.property
    · rw [if_neg horder]
      exact applyNumericIndexRange_read hne hrange horder

theorem MonitoredItem.StoresRange.read {item : MonitoredItem ω κ} (h : item.StoresRange indexRange)
    (hgiven : indexRange.bytes ≠ []) :
    ∃ first last, Decimal.range? rangeSeparator indexRange.bytes = some (first, last) ∧
      (¬ ∃ l ∈ int32End last, l ≤ int32 first) ∧ Int32.ofNat first ≠ -2 ∧
      item.indexRangeStart = (if 0 ≤ int32 first then Int32.ofNat first else -1) ∧
      item.indexRangeEnd = (last.map Int32.ofNat).getD (-1) := by
  obtain ⟨haccepted,hstart,hend⟩ := h
  have hrequested : requestedIndexRange indexRange = (parseNumericRange indexRange).getD (-2, -1) :=
    if_pos (MuString.bytes_ne_nil.mp hgiven)
  rw [hrequested,parseNumericRange_eq] at haccepted hstart hend
  cases hrange : Decimal.range? rangeSeparator indexRange.bytes with
  | none =>
    rw [hrange] at haccepted
    exact absurd rfl haccepted
  | some range =>
    obtain ⟨first,last⟩ := range
    simp only [hrange,Option.bind_some] at haccepted hstart hend
    by_cases horder : ∃ l ∈ int32End last, l ≤ int32 first
    · rw [if_pos horder] at haccepted
      exact absurd rfl haccepted
    · rw [if_neg horder] at haccepted hstart hend
      exact ⟨first,last,rfl,horder,haccepted,hstart,hend⟩

end Outcomes

/-! ## Where the code keeps to the law -/

/-- A number beyond the array that is left beyond it modulo `2 ^ 32` and is not read as negative,
except as -2, the mark of a refused range. -/
def StaysBeyond (type : BuiltinType) (length n : Nat) : Prop :=
  (variantElemSizeKnown type = true → length ≤ n % 2 ^ 32) ∧
    (n % 2 ^ 32 < 2 ^ 31 ∨ n % 2 ^ 32 = 2 ^ 32 - 2)

@[mk_iff]
structure NumbersFit (type : BuiltinType) (length first : Nat) (last : Option Nat) : Prop where
  /-- what is selected has elements of a known size -/
  sized : first < length → (∀ b ∈ last, first < b) → variantElemSizeKnown type = true
  /-- an end behind a start within the array is small, or is left at the end of the array or behind -/
  within : first < length → ∀ b ∈ last, first < b → b < 2 ^ 31 ∨
    first < b % 2 ^ 32 ∧ length - 1 ≤ b % 2 ^ 32 ∧ b % 2 ^ 32 < 2 ^ 31
  /-- a start beyond the array stays there, or the end is read as one that is not behind it -/
  beyond : length ≤ first → StaysBeyond type length first ∨ ∃ b ∈ last, b % 2 ^ 32 ≠ 2 ^ 32 - 1 ∧
    (b + 2 ^ 31) % 2 ^ 32 ≤ (first + 2 ^ 31) % 2 ^ 32

/-- A range is given, there are elements to select from, and the numbers fit. -/
structure ReadRightly (text : List UInt8) (type : BuiltinType) (length : Nat) : Prop where
  given : text ≠ []
  nonempty : 0 < length
  numbers : ∀ first last, Decimal.Denotes rangeSeparator text first last →
    NumbersFit type length first last

theorem NumbersFit.of_small {type : BuiltinType} {length first : Nat} {last : Option Nat}
    (hknown : variantElemSizeKnown type = true) (hfirst : first < 2 ^ 31)
    (hlast : ∀ b ∈ last, b < 2 ^ 31) : NumbersFit type length first last := by
  refine ⟨fun _ _ => hknown,fun _ b hb _ => .inl (hlast b hb),fun hout => .inl ?_⟩
  rw [StaysBeyond,Nat.mod_eq_of_lt (by omega)]
  exact ⟨fun _ => hout,.inl hfirst⟩

/-- The readings select what the numbers select, and a start that is read as negative is refused. -/
def ReadAlike (type : BuiltinType) (length first : Nat) (last : Option Nat) : Prop :=
  (if variantElemSizeKnown type then
      selection (int32 first) (int32End last) length = selection first (last.map Int.ofNat) length
    else selection first (last.map Int.ofNat) length = none) ∧
  (int32 first < 0 → int32 first = -2 ∨ ∃ l ∈ int32End last, l ≤ int32 first)

theorem readAlike_iff {type : BuiltinType} {length first : Nat} {last : Option Nat}
    (hpos : 0 < length)
    (hlength : length < 2 ^ 31) :
    ReadAlike type length first last ↔ NumbersFit type length first last := by
  have hfirst := int32_eq first
  rw [numbersFit_iff]
  unfold ReadAlike StaysBeyond
  generalize int32 first = x at *
  cases last with
  | none =>
    simp only [int32End,Option.bind_none,Option.map_none,selection,Option.mem_def,reduceCtorEq,
      false_and,exists_false,or_false,IsEmpty.forall_iff,implies_true,true_and,forall_const]
    by_cases hknown : variantElemSizeKnown type = true
    · simp only [hknown,if_true,implies_true,true_and,forall_const]
      split at hfirst <;> split_ifs <;> simp <;> omega
    · simp only [hknown,Bool.false_eq_true,if_false,false_implies,true_and]
      split at hfirst <;> split_ifs <;> simp <;> omega
  | some b =>
    have hlast := int32_eq b
    rw [int32End_some]
    generalize int32 b = y at *
    simp only [Option.map_some,selection,Option.mem_def,Int.ofNat_eq_natCast,Option.some.injEq,
      forall_eq',exists_eq_left']
    by_cases hend : b % 2 ^ 32 = 2 ^ 32 - 1
    · simp only [hend,if_true,reduceCtorEq,false_and,exists_false,or_false]
      by_cases hknown : variantElemSizeKnown type = true
      · simp only [hknown,if_true,implies_true,true_and,forall_const]
        split at hfirst <;> split_ifs <;> simp <;> omega
      · simp only [hknown,Bool.false_eq_true,if_false,false_implies,true_and]
        split at hfirst <;> split_ifs <;> simp <;> omega
    · simp only [hend,if_false,Option.some.injEq,exists_eq_left']
      by_cases hknown : variantElemSizeKnown type = true
      · simp only [hknown,if_true,implies_true,true_and,forall_const]
        split at hfirst <;> split at hlast <;> split_ifs <;> simp <;> omega
      · simp only [hknown,Bool.false_eq_true,if_false,false_implies,true_and]
        split at hfirst <;> split at hlast <;> split_ifs <;> simp <;> omega

theorem select_inj {ext : UInt32} {a : Nat}
    {b b' : Option Nat} {value : Variant} (ha : a < elements.length)
    (hb : ∀ x ∈ b, a ≤ x ∧ x < elements.length) (hb' : ∀ x ∈ b', a ≤ x ∧ x < elements.length)
    (h : select type elements ext (a, b) = some value)
    (h' : select type elements ext (a, b') = some value) : b = b' := by
  have hscalar : select type elements ext (a, none) = some ⟨type,.scalar elements[a],ext⟩ := by
    simp [select]
  have hmixed (x : Nat) (hone : select type elements ext (a, none) = some value)
      (hmany : select type elements ext (a, some x) = some value) : False := by
    rw [hscalar] at hone
    cases hone
    have hkind := congrArg (fun v : Variant => v.value.isArray) (Option.some.inj hmany)
    cases hkind
  cases b with
  | none =>
    cases b' with
    | none => rfl
    | some x => exact (hmixed x h h').elim
  | some x =>
    cases b' with
    | none => exact (hmixed x h' h).elim
    | some y =>
      obtain ⟨hax,hx⟩ := hb x rfl
      obtain ⟨hay,hy⟩ := hb' y rfl
      have heq := (Option.some.inj h).trans (Option.some.inj h').symm
      simp only [arrayVariant,Variant.mk.injEq,heq_eq_eq,VariantValue.array.injEq] at heq
      obtain ⟨-,⟨hlengths,-⟩,-⟩ := heq
      simp only [List.length_take,List.length_drop] at hlengths
      congr 1
      omega

theorem selection_some {first : Int} {last : Option Int} {length a : Nat} {b : Option Nat}
    (h : selection first last length = some (a, b)) :
    0 ≤ first ∧ a = first.toNat ∧ a < length ∧ ∀ x ∈ b, a ≤ x ∧ x < length := by
  unfold selection at h
  split at h
  · split at h
    · cases h
      exact ⟨by omega,rfl,by omega,fun _ hx => nomatch hx⟩
    · cases h
  split at h
  · cases h
    refine ⟨by omega,rfl,by omega,?_⟩
    rintro x ⟨⟩
    omega
  · cases h

theorem select_isSome (ext : UInt32) {first : Int} {last : Option Int} {selected : Nat × Option Nat}
    (h : selection first last elements.length = some selected) :
    ∃ value, select type elements ext selected = some value := by
  obtain ⟨a,b⟩ := selected
  obtain ⟨-,-,hlt,-⟩ := selection_some h
  cases b with
  | none => exact ⟨_,by simp [select,List.getElem?_eq_getElem hlt]; rfl⟩
  | some b => exact ⟨_,rfl⟩

section Readings

variable {text : List UInt8} {type : BuiltinType} {elements : List type.Carrier} {ext : UInt32}
  {first : Nat} {last : Option Nat}

theorem bind_select_eq_none {first : Int} {last : Option Int} :
    (selection first last elements.length).bind (select type elements ext) = none ↔
      selection first last elements.length = none := by
  cases h : selection first last elements.length with
  | none => simp
  | some selected =>
    obtain ⟨value,hvalue⟩ := select_isSome ext h
    simp [hvalue]

theorem lawful_eq_readable_iff (hlength : elements.length < 2 ^ 31)
    (hrange : Decimal.range? rangeSeparator text = some (first, last)) :
    lawfulValue text type elements ext = readableValue text type elements ext ↔
      if variantElemSizeKnown type then
        selection (int32 first) (int32End last) elements.length =
          selection first (last.map Int.ofNat) elements.length
      else selection first (last.map Int.ofNat) elements.length = none := by
  simp only [lawfulValue,readableValue,hrange,Option.bind_eq_bind,Option.bind_some]
  by_cases hknown : variantElemSizeKnown type = true
  · simp only [hknown,if_true]
    refine ⟨fun heq => ?_,fun heq => by rw [heq]⟩
    cases hlaw : selection first (last.map Int.ofNat) elements.length with
    | none =>
      rw [hlaw,Option.bind_none] at heq
      exact bind_select_eq_none.mp heq.symm
    | some selected =>
      obtain ⟨value,hvalue⟩ := select_isSome ext hlaw
      rw [hlaw,Option.bind_some,hvalue] at heq
      obtain ⟨selected',hread,hvalue'⟩ := Option.bind_eq_some_iff.mp heq.symm
      obtain ⟨a,b⟩ := selected
      obtain ⟨-,ha,hlt,hb⟩ := selection_some hlaw
      obtain ⟨-,ha',-,hb'⟩ := selection_some hread
      -- a start within the array is read as it is
      rw [Int.toNat_natCast] at ha
      rw [int32_of_lt (by omega),Int.toNat_natCast,← ha] at ha'
      subst ha'
      rw [hread,select_inj hlt hb hb' hvalue hvalue']
  · simp only [if_neg hknown,Option.bind_fun_none]
    exact bind_select_eq_none

end Readings

def Sample.item : MonitoredItem Unit Unit where
  nextSampleMs := 0
  deadbandValue := 0
  lastReportedNumeric := 0
  deadbandSpan := 0
  aggregateState := ⟨0, 0, (), 0, 0⟩
  resolvedNode := none
  lastValue := Variant.zero
  nodeId := ⟨0, .numeric 1⟩
  monitoredItemId := 1
  subscriptionId := 1
  clientHandle := 0
  attributeId := 13
  samplingIntervalMs := 0
  indexRangeStart := -1
  indexRangeEnd := -1
  lastStatus := Status.good
  triggeredItems := []
  queue := ⟨1, [QueueEntry.zero], 0, 0, 0, true, false, 0⟩
  monitoringMode := monitoringModeReporting
  trigger := datachangeTriggerStatusValue
  timestampsToReturn := 0
  hasValue := false
  pending := false
  semanticsChanged := false
  deadbandType := deadbandTypeNone
  hasReported := false
  hasAggregate := false
  selectClauses := []
  whereClause := ⟨[], [], [], 0, 0, 0⟩
  uid := 0

instance : Nonempty (MonitoredItem Unit Unit) := ⟨Sample.item⟩

end MucOpcua
