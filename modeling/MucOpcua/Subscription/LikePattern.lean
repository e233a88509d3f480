import MucOpcua.Subscription.WhereClauseEval

/-!
# The language of a Like pattern

`like_match` against the grammar of its patterns.
-/

namespace MucOpcua

/-! ## Patterns -/

inductive LikeItem where
  | run
  | one
  | oneOf (ranges : List (UInt8 × UInt8))
  | noneOf (ranges : List (UInt8 × UInt8))
  | byte (c : UInt8)

def InRanges (ranges : List (UInt8 × UInt8)) (c : UInt8) : Prop :=
  ∃ range ∈ ranges, range.1 ≤ c ∧ c ≤ range.2

instance (ranges : List (UInt8 × UInt8)) (c : UInt8) : Decidable (InRanges ranges c) :=
  inferInstanceAs (Decidable (∃ range ∈ ranges, _))

def byteLanguage (P : UInt8 → Prop) : Language UInt8 := {w | ∃ c, w = [c] ∧ P c}

def LikeItem.language : LikeItem → Language UInt8
  | .run => {_w | True}
  | .one => byteLanguage fun _ => True
  | .oneOf ranges => byteLanguage (InRanges ranges)
  | .noneOf ranges => byteLanguage fun c => ¬ InRanges ranges c
  | .byte b => byteLanguage (· = b)

/-- A set behind its bracket: the ranges in it and the pattern that follows. A byte stands for
itself unless a dash and another byte of the set come behind it. -/
inductive LikeSet : List UInt8 → List (UInt8 × UInt8) → List UInt8 → Prop where
  | unclosed : LikeSet [] [] []
  | closed (rest : List UInt8) : LikeSet (0x5D :: rest) [] rest
  | range {lo hi : UInt8} {pattern rest : List UInt8} {ranges : List (UInt8 × UInt8)}
      (hlo : lo ≠ 0x5D) (hhi : hi ≠ 0x5D) (h : LikeSet pattern ranges rest) :
      LikeSet (lo :: 0x2D :: hi :: pattern) ((lo, hi) :: ranges) rest
  | byte {c : UInt8} {pattern rest : List UInt8} {ranges : List (UInt8 × UInt8)}
      (hc : c ≠ 0x5D) (hdash : ∀ hi pattern', pattern = 0x2D :: hi :: pattern' → hi = 0x5D)
      (h : LikeSet pattern ranges rest) : LikeSet (c :: pattern) ((c, c) :: ranges) rest

inductive LikePattern : List UInt8 → List LikeItem → Prop where
  | nil : LikePattern [] []
  | run {pattern : List UInt8} {items : List LikeItem} (h : LikePattern pattern items) :
      LikePattern (0x25 :: pattern) (.run :: items)
  | one {pattern : List UInt8} {items : List LikeItem} (h : LikePattern pattern items) :
      LikePattern (0x5F :: pattern) (.one :: items)
  | oneOf {pattern rest : List UInt8} {ranges : List (UInt8 × UInt8)} {items : List LikeItem}
      (hset : LikeSet pattern ranges rest) (hplain : pattern.head? ≠ some 0x5E)
      (h : LikePattern rest items) : LikePattern (0x5B :: pattern) (.oneOf ranges :: items)
  | noneOf {pattern rest : List UInt8} {ranges : List (UInt8 × UInt8)} {items : List LikeItem}
      (hset : LikeSet pattern ranges rest) (h : LikePattern rest items) :
      LikePattern (0x5B :: 0x5E :: pattern) (.noneOf ranges :: items)
  | escaped {c : UInt8} {pattern : List UInt8} {items : List LikeItem}
      (h : LikePattern pattern items) : LikePattern (0x5C :: c :: pattern) (.byte c :: items)
  | byte {c : UInt8} {pattern : List UInt8} {items : List LikeItem}
      (hrun : c ≠ 0x25) (hone : c ≠ 0x5F) (hset : c ≠ 0x5B) (hescape : c = 0x5C → pattern = [])
      (h : LikePattern pattern items) : LikePattern (c :: pattern) (.byte c :: items)

def likeLanguage (pattern : List UInt8) : Language UInt8 :=
  {s | ∃ items, LikePattern pattern items ∧ s ∈ (items.map LikeItem.language).prod}

/-! ## Every pattern has its items -/

variable {pattern : List UInt8}

theorem LikeSet.length_le {rest : List UInt8} {ranges : List (UInt8 × UInt8)}
    (h : LikeSet pattern ranges rest) : rest.length ≤ pattern.length := by
  induction h with
  | unclosed => simp
  | closed rest => simp
  | range _ _ _ ih => simp; omega
  | byte _ _ _ ih => simp; omega

theorem exists_likeSet (n : Nat) (pattern : List UInt8) (hn : pattern.length ≤ n) :
    ∃ ranges rest, LikeSet pattern ranges rest := by
  induction n generalizing pattern with
  | zero =>
    obtain rfl : pattern = [] := List.length_eq_zero_iff.mp (by omega)
    exact ⟨_,_,.unclosed⟩
  | succ n ih =>
    cases pattern with
    | nil => exact ⟨_,_,.unclosed⟩
    | cons c pattern =>
      simp only [List.length_cons] at hn
      by_cases hc : c = 0x5D
      · subst hc
        exact ⟨_,_,.closed pattern⟩
      by_cases hdash : ∀ hi pattern', pattern = 0x2D :: hi :: pattern' → hi = 0x5D
      · obtain ⟨ranges,rest,h⟩ := ih pattern (by omega)
        exact ⟨_,_,.byte hc hdash h⟩
      push Not at hdash
      obtain ⟨hi,pattern',rfl,hhi⟩ := hdash
      simp only [List.length_cons] at hn
      obtain ⟨ranges,rest,h⟩ := ih pattern' (by omega)
      exact ⟨_,_,.range hc hhi h⟩

theorem exists_likePattern (n : Nat) (pattern : List UInt8) (hn : pattern.length ≤ n) :
    ∃ items, LikePattern pattern items := by
  induction n generalizing pattern with
  | zero =>
    obtain rfl : pattern = [] := List.length_eq_zero_iff.mp (by omega)
    exact ⟨_,.nil⟩
  | succ n ih =>
    cases pattern with
    | nil => exact ⟨_,.nil⟩
    | cons c pattern =>
      simp only [List.length_cons] at hn
      obtain ⟨items,h⟩ := ih pattern (by omega)
      by_cases hrun : c = 0x25
      · exact ⟨_,hrun ▸ LikePattern.run h⟩
      by_cases hone : c = 0x5F
      · exact ⟨_,hone ▸ LikePattern.one h⟩
      by_cases hset : c = 0x5B
      · subst hset
        by_cases hplain : pattern.head? = some 0x5E
        · obtain ⟨body,rfl⟩ := List.head?_eq_some_iff.mp hplain
          simp only [List.length_cons] at hn
          obtain ⟨ranges,rest,hbody⟩ := exists_likeSet n body (by omega)
          obtain ⟨items,h⟩ := ih rest (by have := hbody.length_le; omega)
          exact ⟨_,.noneOf hbody h⟩
        obtain ⟨ranges,rest,hbody⟩ := exists_likeSet n pattern (by omega)
        obtain ⟨items,h⟩ := ih rest (by have := hbody.length_le; omega)
        exact ⟨_,.oneOf hbody hplain h⟩
      by_cases hescape : c = 0x5C → pattern = []
      · exact ⟨_,.byte hrun hone hset hescape h⟩
      push Not at hescape
      obtain ⟨rfl,hne⟩ := hescape
      cases pattern with
      | nil => exact absurd rfl hne
      | cons c pattern =>
        simp only [List.length_cons] at hn
        obtain ⟨items,h⟩ := ih pattern (by omega)
        exact ⟨_,.escaped h⟩

/-! ## Matching -/

theorem inRanges_cons (range : UInt8 × UInt8) (ranges : List (UInt8 × UInt8)) (c : UInt8) :
    decide (InRanges (range :: ranges) c) =
      (decide (InRanges ranges c) || decide (range.1 ≤ c ∧ c ≤ range.2)) := by
  rw [Bool.eq_iff_iff]
  simp only [Bool.or_eq_true,decide_eq_true_eq]
  simp only [InRanges,List.mem_cons,exists_eq_or_imp]
  exact or_comm

theorem likeSet_byte (c : UInt8) {b : UInt8} (hb : b ≠ 0x5D)
    (hdash : ∀ hi pattern', pattern = 0x2D :: hi :: pattern' → hi = 0x5D) :
    likeSet c (b :: pattern) =
      ((likeSet c pattern).1 || decide (c = b), (likeSet c pattern).2) := by
  match pattern with
  | [] | [_] =>
    rw [likeSet.eq_def]
    simp only [if_neg hb]
  | dash :: hi :: pattern =>
    have hnot : ¬ (dash = 0x2D ∧ hi ≠ 0x5D) := by
      rintro ⟨rfl,hhi⟩
      exact hhi (hdash hi pattern rfl)
    rw [likeSet.eq_def]
    simp only [if_neg hb,if_neg hnot]

theorem likeSet_eq (c : UInt8) {rest : List UInt8} {ranges : List (UInt8 × UInt8)}
    (h : LikeSet pattern ranges rest) :
    (likeSet c pattern).1 = decide (InRanges ranges c) ∧ (likeSet c pattern).2.drop 1 = rest := by
  induction h with
  | unclosed => simp [likeSet,InRanges]
  | closed rest =>
    rw [likeSet.eq_def]
    simp [InRanges]
  | range hlo hhi _ ih =>
    rw [likeSet.eq_def]
    simp only [if_neg hlo,ne_eq,hhi,not_false_eq_true,and_self,if_true,inRanges_cons,ih]
  | @byte b pattern rest ranges hb hdash _ ih =>
    have hself : b ≤ c ∧ c ≤ b ↔ c = b :=
      ⟨fun h => UInt8.le_antisymm h.2 h.1,fun h => h ▸ ⟨UInt8.le_refl _,UInt8.le_refl _⟩⟩
    rw [likeSet_byte c hb hdash]
    simp only [inRanges_cons,hself,ih,and_self]

theorem likeMatch_run_eq (pattern s : List UInt8) : likeMatch (0x25 :: pattern) s = true ↔
      pattern.dropWhile (· = 0x25) = [] ∨
        ∃ t, t <:+ s ∧ likeMatch (pattern.dropWhile (· = 0x25)) t = true := by
  rw [likeMatch.eq_def]
  simp only [if_true,List.isEmpty_iff]
  split
  · next hrest => exact ⟨fun _ => .inl hrest,fun _ => rfl⟩
  · next hrest => simp only [hrest,false_or,List.any_eq_true,List.mem_tails]

/-- A run in front of a pattern matches if the pattern matches the end of the string. -/
theorem likeMatch_run (pattern s : List UInt8) :
    likeMatch (0x25 :: pattern) s = true ↔ ∃ t, t <:+ s ∧ likeMatch pattern t = true := by
  rw [likeMatch_run_eq]
  cases pattern with
  | nil =>
    simp only [List.dropWhile_nil,true_or,true_iff]
    exact ⟨[],List.nil_suffix,by simp [likeMatch]⟩
  | cons c pattern =>
    by_cases hc : c = 0x25
    · subst hc
      simp only [likeMatch_run_eq]
      constructor
      · exact fun h => ⟨s,List.suffix_refl s,h⟩
      · rintro ⟨t,ht,h | ⟨u,hu,h⟩⟩
        · exact .inl h
        · exact .inr ⟨u,hu.trans ht,h⟩
    · simp [hc]

theorem nil_mem_byteLanguage_mul {P : UInt8 → Prop} {L : Language UInt8} :
    [] ∉ byteLanguage P * L := by
  rintro ⟨_,⟨c,rfl,-⟩,cs,-,hnil⟩
  cases hnil

theorem cons_mem_byteLanguage_mul {P : UInt8 → Prop} {L : Language UInt8} {c : UInt8}
    {cs : List UInt8} : c :: cs ∈ byteLanguage P * L ↔ P c ∧ cs ∈ L := by
  constructor
  · rintro ⟨_,⟨c,rfl,hc⟩,cs,hcs,⟨⟩⟩
    exact ⟨hc,hcs⟩
  · rintro ⟨hc,hcs⟩
    exact ⟨[c],⟨c,rfl,hc⟩,cs,hcs,rfl⟩

theorem likeMatch_items {items : List LikeItem} (h : LikePattern pattern items) (s : List UInt8) :
    likeMatch pattern s = true ↔ s ∈ (items.map LikeItem.language).prod := by
  induction h generalizing s with
  | nil => simp [likeMatch]
  | @run pattern items h ih =>
    rw [likeMatch_run,List.map_cons,List.prod_cons]
    simp only [ih]
    constructor
    · rintro ⟨t,⟨u,rfl⟩,ht⟩
      exact ⟨u,trivial,t,ht,rfl⟩
    · rintro ⟨u,-,t,ht,rfl⟩
      exact ⟨t,List.suffix_append u t,ht⟩
  | one h ih =>
    cases s with
    | nil => simpa [likeMatch,LikeItem.language] using nil_mem_byteLanguage_mul
    | cons c cs =>
      rw [likeMatch.eq_def]
      simp [LikeItem.language,cons_mem_byteLanguage_mul,ih]
  | @oneOf pattern rest ranges items hset hplain h ih =>
    cases s with
    | nil => simpa [likeMatch,LikeItem.language] using nil_mem_byteLanguage_mul
    | cons c cs =>
      obtain ⟨hin,hrest⟩ := likeSet_eq c hset
      rw [likeMatch.eq_def]
      simp [likeSetBody,hplain,hin,hrest,LikeItem.language,cons_mem_byteLanguage_mul,← ih]
  | @noneOf pattern rest ranges items hset h ih =>
    cases s with
    | nil => simpa [likeMatch,LikeItem.language] using nil_mem_byteLanguage_mul
    | cons c cs =>
      obtain ⟨hin,hrest⟩ := likeSet_eq c hset
      rw [likeMatch.eq_def]
      simp [likeSetBody,hin,hrest,LikeItem.language,cons_mem_byteLanguage_mul,← ih]
  | @escaped b pattern items h ih =>
    cases s with
    | nil => simpa [likeMatch,LikeItem.language] using nil_mem_byteLanguage_mul
    | cons c cs =>
      rw [likeMatch.eq_def]
      simp [LikeItem.language,cons_mem_byteLanguage_mul,← ih,@eq_comm _ b c]
  | @byte b pattern items hrun hone hset hescape h ih =>
    cases s with
    | nil => simpa [likeMatch,hrun,LikeItem.language] using nil_mem_byteLanguage_mul
    | cons c cs =>
      have hplain : ¬ (b = 0x5C ∧ pattern ≠ []) := fun h => h.2 (hescape h.1)
      rw [likeMatch.eq_def]
      simp only [if_neg hrun,if_neg hone,if_neg hset,if_neg hplain]
      simp [LikeItem.language,cons_mem_byteLanguage_mul,← ih]

/-- `like_match` accepts the language of the pattern. -/
theorem likeMatch_iff (pattern s : List UInt8) :
    likeMatch pattern s = true ↔ s ∈ likeLanguage pattern := by
  constructor
  · intro hmatch
    obtain ⟨items,h⟩ := exists_likePattern pattern.length pattern (Nat.le_refl _)
    exact ⟨items,h,(likeMatch_items h s).mp hmatch⟩
  · rintro ⟨items,h,hs⟩
    exact (likeMatch_items h s).mpr hs

/-! ## What matching costs -/

/-- The pattern positions that `like_match` and the calls it makes look at, each of them once in
a call: behind a run also the one that ends it, and the tails of the string up to the first that
matches. -/
def likeExamined (pattern s : List UInt8) : Nat :=
  match pattern with
  | [] => 0
  | pc :: rest =>
    if pc = 0x25 then
      let rest' := rest.dropWhile (· = 0x25)
      if rest'.isEmpty then rest.length + 1
      else (rest.length + 1 - rest'.length) + 1 + s.tails.foldr
        (fun suffix later =>
          likeExamined rest' suffix + if likeMatch rest' suffix then 0 else later) 0
    else
      match s with
      | [] => 1
      | c :: cs =>
        if pc = 0x5F then 1 + likeExamined rest cs
        else if pc = 0x5B then
          let rest' := (likeSet c (likeSetBody rest)).2.drop 1
          (rest.length + 1 - rest'.length) +
            if (likeSet c (likeSetBody rest)).1 = decide (rest.head? = some 0x5E) then 0
            else likeExamined rest' cs
        else if pc = 0x5C ∧ rest ≠ [] then
          2 + if rest.head? = some c then likeExamined (rest.drop 1) cs else 0
        else 1 + if c = pc then likeExamined rest cs else 0
termination_by pattern.length
decreasing_by
  all_goals
    grind [List.dropWhile_suffix, List.IsSuffix.length_le, likeSet_drop_suffix, List.drop_suffix]

theorem foldr_examined_le {tails : List (List UInt8)} {cost : List UInt8 → Nat} {bound : Nat}
    (stop : List UInt8 → Bool) (h : ∀ t ∈ tails, cost t ≤ bound) :
    tails.foldr (fun t later => cost t + if stop t then 0 else later) 0 ≤ tails.length * bound := by
  induction tails with
  | nil => simp
  | cons t tails ih =>
    have hhead := h t (by simp)
    have htail := ih fun u hu => h u (by simp [hu])
    rw [List.foldr_cons, List.length_cons, Nat.add_mul]
    split <;> omega

theorem examined_step {pattern rest : List UInt8} {n n' k e : Nat} (hn : n' ≤ n)
    (hk : k + rest.length ≤ pattern.length) (hrest : rest <:+ pattern)
    (he : e ≤ rest.length * (n' + 2) ^ rest.count 0x25) :
    k + e ≤ pattern.length * (n + 2) ^ pattern.count 0x25 := by
  have hpow : (n' + 2) ^ rest.count 0x25 ≤ (n + 2) ^ pattern.count 0x25 :=
    Nat.le_trans (Nat.pow_le_pow_left (by omega) _)
      (Nat.pow_le_pow_right (by omega) (hrest.sublist.count_le _))
  calc k + e ≤ k * (n + 2) ^ pattern.count 0x25 + rest.length * (n + 2) ^ pattern.count 0x25 :=
        Nat.add_le_add (Nat.le_mul_of_pos_right k (Nat.pow_pos (by omega)))
          (Nat.le_trans he (Nat.mul_le_mul_left _ hpow))
    _ ≤ pattern.length * (n + 2) ^ pattern.count 0x25 := by
        rw [← Nat.add_mul]
        exact Nat.mul_le_mul_right _ hk

/-- Every run tries the rest of the pattern at each of the `n + 1` places of the string. -/
theorem likeExamined_le (pattern s : List UInt8) :
    likeExamined pattern s ≤ pattern.length * (s.length + 2) ^ pattern.count 0x25 := by
  fun_induction likeExamined pattern s with
  | case1 => simp
  | case2 => exact Nat.le_mul_of_pos_right _ (Nat.pow_pos (by omega))
  | case4 => exact Nat.mul_pos (by simp) (Nat.pow_pos (by omega))
  | case3 s rest rest' hne ih =>
    have hsuffix : rest' <:+ rest := List.dropWhile_suffix _
    have hlength := hsuffix.length_le
    have hpos : 0 < rest'.length := by simpa [List.length_pos_iff] using hne
    have htails := foldr_examined_le (likeMatch rest') fun t ht => (ih t).trans
      (Nat.mul_le_mul_left rest'.length (Nat.pow_le_pow_left (Nat.add_le_add_right
        ((List.mem_tails t s).mp ht).length_le 2) (rest'.count 0x25)))
    rw [List.length_tails] at htails
    have hpow := Nat.pow_le_pow_right (show 0 < s.length + 2 by omega)
      (hsuffix.sublist.count_le (0x25 : UInt8))
    rw [List.count_cons_self,List.length_cons,Nat.pow_succ]
    generalize (s.length + 2) ^ rest.count 0x25 = tried at hpow ⊢
    calc _ ≤ (rest.length + 1) * tried + (s.length + 1) * ((rest.length + 1) * tried) :=
          Nat.add_le_add (Nat.le_trans (by omega) (Nat.le_mul_of_pos_right _
            (Nat.lt_of_lt_of_le (Nat.pow_pos (by omega)) hpow)))
            (htails.trans (Nat.mul_le_mul_left _ (Nat.mul_le_mul (by omega) hpow)))
      _ = (s.length + 1 + 1) * ((rest.length + 1) * tried) := by
          rw [Nat.succ_mul (s.length + 1),Nat.add_comm]
      _ = _ := by rw [Nat.mul_comm,Nat.mul_assoc]
  | case5 rest c cs _ ih =>
    exact examined_step (Nat.le_succ _) (by simp; omega) (List.suffix_cons _ _) ih
  | case6 rest c cs rest' _ _ ih =>
    have hsuffix : rest' <:+ rest := likeSet_drop_suffix c rest
    have hlength := hsuffix.length_le
    refine examined_step (Nat.le_succ _) (by simp; omega) (hsuffix.trans (List.suffix_cons _ _)) ?_
    split
    · exact Nat.zero_le _
    · exact ih
  | case7 pc rest _ c cs _ _ hescape ih =>
    have hlength := List.length_pos_iff.mpr hescape.2
    refine examined_step (Nat.le_succ _) (by simp; omega)
      ((List.drop_suffix 1 rest).trans (List.suffix_cons _ _)) ?_
    split
    · exact ih
    · exact Nat.zero_le _
  | case8 pc rest _ c cs _ _ _ ih =>
    refine examined_step (Nat.le_succ _) (by simp; omega) (List.suffix_cons _ _) ?_
    split
    · exact ih
    · exact Nat.zero_le _

theorem likeExamined_exceeds :
    (6 + 1) * (14 + 1) * (6 + 1) <
      likeExamined [0x25, 0x61, 0x25, 0x61, 0x25, 0x62] (List.replicate 14 0x61) := by
  simp [likeExamined, likeMatch, List.replicate, List.tails, List.dropWhile]

end MucOpcua
