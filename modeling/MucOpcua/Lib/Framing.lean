import Mathlib

/-!
# Cutting a stream into frames

A format looks at the bytes received so far and says whether they start with a whole frame, need
more bytes or can never start one.
-/

namespace Framing

variable {α σ : Type}
variable {bs : List α} {s : σ}

inductive Look where
  | more
  | bad
  | frame (size : Nat)
  deriving DecidableEq

structure Format (α : Type) where
  look : List α → Look
  frame_pos : ∀ {bs n}, look bs = .frame n → 0 < n
  frame_le : ∀ {bs n}, look bs = .frame n → n ≤ bs.length
  bad_append : ∀ {bs}, look bs = .bad → ∀ cs, look (bs ++ cs) = .bad
  frame_append : ∀ {bs n}, look bs = .frame n → ∀ cs, look (bs ++ cs) = .frame n

namespace Format

def cut (f : Format α) (bs : List α) : List (List α) :=
  match _h : f.look bs with
  | .more => []
  | .bad => []
  | .frame n => bs.take n :: cut f (bs.drop n)
termination_by bs.length
decreasing_by
  have hpos := f.frame_pos _h
  have hle := f.frame_le _h
  simp only [List.length_drop]
  omega

variable {f : Format α}

theorem cut_more (h : f.look bs = .more) : f.cut bs = [] := by
  unfold cut
  split <;> simp_all

theorem cut_bad (h : f.look bs = .bad) : f.cut bs = [] := by
  unfold cut
  split <;> simp_all

theorem cut_frame {n : Nat} (h : f.look bs = .frame n) :
    f.cut bs = bs.take n :: f.cut (bs.drop n) := by
  rw [cut]
  split <;> simp_all

end Format

structure Consumer (α σ : Type) where
  step : σ → List α → σ
  live : σ → Bool
  refuse : σ → σ

/-- A receiver between two arrivals: waiting with unconsumed bytes, or down for good. -/
inductive Link (α σ : Type) where
  | up (state : σ) (pending : List α)
  | down (state : σ)

def Link.state : Link α σ → σ
  | .up s _ => s
  | .down s => s

section Receive

variable (f : Format α) (c : Consumer α σ)

def drain (s : σ) (bs : List α) : Link α σ :=
  match _h : f.look bs with
  | .more => .up s bs
  | .bad => .down (c.refuse s)
  | .frame n =>
    if c.live (c.step s (bs.take n)) then
      drain (c.step s (bs.take n)) (bs.drop n)
    else
      .down (c.step s (bs.take n))
termination_by bs.length
decreasing_by
  have hpos := f.frame_pos _h
  have hle := f.frame_le _h
  simp only [List.length_drop]
  omega

def absorb : Link α σ → List α → Link α σ
  | .up s pending, piece => drain f c s (pending ++ piece)
  | .down s, _ => .down s

variable {f c}

theorem drain_more (h : f.look bs = .more) : drain f c s bs = .up s bs := by
  unfold drain
  split <;> simp_all

theorem drain_bad (h : f.look bs = .bad) : drain f c s bs = .down (c.refuse s) := by
  unfold drain
  split <;> simp_all

theorem drain_frame {n : Nat} (h : f.look bs = .frame n) : drain f c s bs =
      if c.live (c.step s (bs.take n)) then
        drain f c (c.step s (bs.take n)) (bs.drop n)
      else
        .down (c.step s (bs.take n)) := by
  rw [drain]
  split <;> simp_all

/-- Whatever `drain` leaves pending is not yet a frame, so it needs more bytes. -/
theorem drain_up_look {t : σ} {pending : List α}
    (h : drain f c s bs = .up t pending) : f.look pending = .more := by
  induction hn : bs.length using Nat.strongRecOn generalizing s bs with
  | ind len ih =>
    cases hlook : f.look bs with
    | more =>
      rw [drain_more hlook] at h
      cases h
      exact hlook
    | bad =>
      rw [drain_bad hlook] at h
      cases h
    | frame n =>
      have hpos := f.frame_pos hlook
      have hle := f.frame_le hlook
      rw [drain_frame hlook] at h
      split at h
      · apply ih (bs.drop n).length _ h rfl
        simp only [List.length_drop]
        omega
      · cases h

theorem drain_append (s : σ) (xs ys : List α) :
    drain f c s (xs ++ ys) = absorb f c (drain f c s xs) ys := by
  induction hn : xs.length using Nat.strongRecOn generalizing s xs with
  | ind len ih =>
    cases hlook : f.look xs with
    | more => rw [drain_more hlook,absorb]
    | bad => rw [drain_bad hlook,drain_bad (f.bad_append hlook ys),absorb]
    | frame n =>
      have hpos := f.frame_pos hlook
      have hle := f.frame_le hlook
      have htake : (xs ++ ys).take n = xs.take n := List.take_append_of_le_length hle
      have hdrop : (xs ++ ys).drop n = xs.drop n ++ ys := List.drop_append_of_le_length hle
      rw [drain_frame hlook,drain_frame (f.frame_append hlook ys),htake,hdrop]
      split
      · apply ih (xs.drop n).length _ _ _ rfl
        simp only [List.length_drop]
        omega
      · rfl

end Receive

/-! ## What a consumer is handed -/

def handed (c : Consumer α σ) (s : σ) : List (List α) → List (List α)
  | [] => []
  | fr :: frs => fr :: if c.live (c.step s fr) then handed c (c.step s fr) frs else []

theorem handed_of_live {c : Consumer α σ} (h : ∀ s fr, c.live (c.step s fr) = true) (s : σ)
    (frs : List (List α)) : handed c s frs = frs := by
  induction frs generalizing s with
  | nil => rfl
  | cons fr frs ih => rw [handed,if_pos (h s fr),ih]

def Consumer.logging (c : Consumer α σ) : Consumer α (σ × List (List α)) where
  step p fr := (c.step p.1 fr, p.2 ++ [fr])
  live p := c.live p.1
  refuse p := (c.refuse p.1, p.2)

theorem drain_logging_log (f : Format α) (c : Consumer α σ) (s : σ) (log : List (List α))
    (bs : List α) : (drain f c.logging (s, log) bs).state.2 = log ++ handed c s (f.cut bs) := by
  induction hn : bs.length using Nat.strongRecOn generalizing s log bs with
  | ind len ih =>
    cases hlook : f.look bs with
    | more => simp [drain_more hlook,Format.cut_more hlook,Link.state,handed]
    | bad => simp [drain_bad hlook,Format.cut_bad hlook,Link.state,handed,Consumer.logging]
    | frame n =>
      have hpos := f.frame_pos hlook
      have hle := f.frame_le hlook
      rw [drain_frame hlook,Format.cut_frame hlook,handed]
      by_cases hlive : c.live (c.step s (bs.take n)) = true
      · have hlen : (bs.drop n).length < len := by
          simp only [List.length_drop]
          omega
        have hlog : c.logging.live (c.logging.step (s, log) (bs.take n)) = true := hlive
        rw [if_pos hlive,if_pos hlog]
        show (drain f c.logging (c.step s (bs.take n), log ++ [bs.take n]) _).state.2 = _
        rw [ih _ hlen _ _ _ rfl,List.append_assoc,List.singleton_append]
      · have hlog : ¬ c.logging.live (c.logging.step (s, log) (bs.take n)) = true := hlive
        rw [if_neg hlive,if_neg hlog]
        rfl

end Framing
