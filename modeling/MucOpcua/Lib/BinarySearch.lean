import Mathlib

/-!
# Binary search for a key

Search in a list sorted by a numeric key, over the half-open interval from `lo` to `hi`.
-/

namespace BinarySearch

variable {α : Type} (key : α → Nat)

/-- `fuel` bounds the number of rounds; the length of the interval is enough. -/
def search (xs : List α) (k : Nat) : Nat → Nat → Nat → Option α
  | 0, _, _ => none
  | fuel + 1, lo, hi =>
    if lo < hi then
      let mid := lo + (hi - lo) / 2
      match xs[mid]? with
      | none => none
      | some x =>
        if key x = k then some x
        else if key x < k then search xs k fuel (mid + 1) hi
        else search xs k fuel lo mid
    else none

variable {key}

/-- An element with the key is found while its index lies in the interval: on a sorted list smaller
keys lie in front of it and larger ones behind it. -/
theorem search_complete {xs : List α} (hsorted : xs.Pairwise (key · < key ·))
    {fuel lo hi i : Nat} (hi_lt : i < xs.length) (hlo : lo ≤ i) (hhi : i < hi)
    (hlen : hi ≤ xs.length) (hfuel : hi - lo ≤ fuel) :
    search key xs (key xs[i]) fuel lo hi = some xs[i] := by
  have hbelow : ∀ j (hj : j < xs.length), i < j → key xs[i] < key xs[j] := fun j hj hij =>
    List.pairwise_iff_getElem.mp hsorted i j hi_lt hj hij
  have habove : ∀ j (hj : j < xs.length), j < i → key xs[j] < key xs[i] := fun j hj hji =>
    List.pairwise_iff_getElem.mp hsorted j i hj hi_lt hji
  induction fuel generalizing lo hi with
  | zero => omega
  | succ fuel ih =>
    have hlt : lo < hi := by omega
    have hmid : lo + (hi - lo) / 2 < xs.length := by omega
    rw [search,if_pos hlt]
    simp only [List.getElem?_eq_getElem hmid]
    rcases Nat.lt_trichotomy i (lo + (hi - lo) / 2) with hleft | hhit | hright
    · have hkey := hbelow _ hmid hleft
      rw [if_neg (by omega),if_neg (by omega)]
      exact ih (by omega) (by omega) (by omega) (by omega)
    · subst hhit
      rw [if_pos rfl]
    have hkey := habove _ hmid hright
    rw [if_neg (by omega),if_pos hkey]
    exact ih (by omega) (by omega) (by omega) (by omega)

end BinarySearch
