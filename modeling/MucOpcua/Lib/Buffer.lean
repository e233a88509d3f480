import Mathlib

/-!
# Fixed-size buffers

A buffer is a list whose length never changes. `overwrite` copies a block into it, as `memcpy` does,
and `slice` reads a block back; cells outside the buffer are not written.
-/

namespace Buffer

variable {α : Type}
variable {buf src : List α} {n : Nat}

/-- Copy `src` over the cells of `buf` that start at `pos`. -/
def overwrite (buf : List α) (pos : Nat) (src : List α) : List α :=
  buf.mapIdx fun i b => if i < pos then b else src.getD (i - pos) b

/-- `overwrite` by recursion, for evaluation. -/
def splice : List α → Nat → List α → List α
  | [], _, _ => []
  | b :: bs, 0, [] => b :: bs
  | _ :: bs, 0, x :: xs => x :: splice bs 0 xs
  | b :: bs, n + 1, xs => b :: splice bs n xs

/-- The `n` cells that start at `pos`. -/
def slice (buf : List α) (pos n : Nat) : List α := (buf.drop pos).take n

@[simp] theorem length_overwrite (buf : List α) (pos : Nat) (src : List α) :
    (overwrite buf pos src).length = buf.length := by
  simp [overwrite]

theorem getElem?_overwrite (buf : List α) (pos : Nat) (src : List α) (i : Nat) :
    (overwrite buf pos src)[i]? =
      buf[i]?.map fun b => if i < pos then b else src.getD (i - pos) b := by
  simp [overwrite]

@[simp] theorem overwrite_nil (buf : List α) (pos : Nat) : overwrite buf pos [] = buf := by
  apply List.ext_getElem?
  simp [getElem?_overwrite]

theorem overwrite_singleton (buf : List α) (pos : Nat) (x : α) :
    overwrite buf pos [x] = buf.set pos x := by
  apply List.ext_getElem?
  intro i
  rw [getElem?_overwrite,List.getElem?_set]
  by_cases hi : pos = i
  · subst hi
    by_cases hin : pos < buf.length <;> simp [hin]
  have hout (b : α) : (if i < pos then b else [x].getD (i - pos) b) = b := by
    split
    · rfl
    · exact List.getD_eq_default _ _ (by simp only [List.length_singleton]; omega)
  simp only [hi,hout,if_false,Option.map_id']

theorem overwrite_append_middle {xs ys : List α} (h : src.length = ys.length) (zs : List α) :
    overwrite (xs ++ ys ++ zs) xs.length src = xs ++ src ++ zs := by
  apply List.ext_getElem?
  intro i
  rw [getElem?_overwrite,List.append_assoc,List.append_assoc]
  by_cases hi : i < xs.length
  · rw [List.getElem?_append_left hi,List.getElem?_append_left hi]
    simp [hi]
  have hle : xs.length ≤ i := Nat.not_lt.mp hi
  rw [List.getElem?_append_right hle,List.getElem?_append_right hle]
  by_cases hin : i - xs.length < ys.length
  · rw [List.getElem?_append_left hin,List.getElem?_append_left (by omega)]
    simp [hi,hin,h]
  have hbehind : ys.length ≤ i - xs.length := Nat.not_lt.mp hin
  rw [List.getElem?_append_right hbehind,List.getElem?_append_right (h ▸ hbehind),h]
  have hout (b : α) : src.getD (i - xs.length) b = b := List.getD_eq_default _ _ (by omega)
  simp only [hi,hout,if_false,Option.map_id']

theorem overwrite_append (buf : List α) (pos : Nat) (xs ys : List α) :
    overwrite buf pos (xs ++ ys) = overwrite (overwrite buf pos xs) (pos + xs.length) ys := by
  apply List.ext_getElem?
  intro i
  simp only [getElem?_overwrite,Option.map_map]
  congr 1
  funext b
  simp only [Function.comp_apply]
  by_cases hlow : i < pos
  · rw [if_pos hlow,if_pos (by omega),if_pos hlow]
  rw [if_neg hlow]
  by_cases hmid : i < pos + xs.length
  · rw [if_pos hmid,if_neg hlow,List.getD_append _ _ _ _ (by omega)]
  · rw [if_neg hmid,if_neg hlow,List.getD_append_right _ _ _ _ (by omega),
      List.getD_eq_default xs _ (by omega),Nat.sub_sub]

theorem overwrite_eq_splice (buf : List α) (pos : Nat) (src : List α) :
    overwrite buf pos src = splice buf pos src := by
  induction buf generalizing pos src with
  | nil => cases pos <;> rfl
  | cons b bs ih =>
    cases pos with
    | zero =>
      cases src with
      | nil => simp [splice]
      | cons x xs =>
        rw [splice,← ih]
        simp [overwrite]
    | succ n =>
      rw [splice,← ih]
      simp [overwrite]

variable {pos : Nat}

theorem length_slice (h : pos + n ≤ buf.length) : (slice buf pos n).length = n := by
  simp only [slice,List.length_take,List.length_drop]
  omega

theorem getElem?_slice {i : Nat} (h : i < n) : (slice buf pos n)[i]? = buf[pos + i]? := by
  simp [slice,h]

theorem slice_overwrite_self (h : pos + src.length ≤ buf.length) :
    slice (overwrite buf pos src) pos src.length = src := by
  apply List.ext_getElem?
  intro i
  by_cases hi : i < src.length
  · rw [getElem?_slice hi,getElem?_overwrite,List.getElem?_eq_getElem (by omega : pos + i < _),
      Option.map_some,if_neg (by omega),Nat.add_sub_cancel_left,List.getElem?_eq_getElem hi,
      List.getD_eq_getElem _ _ hi]
  have hlen : (slice (overwrite buf pos src) pos src.length).length = src.length :=
    length_slice (by simpa using h)
  rw [List.getElem?_eq_none (by omega),List.getElem?_eq_none (by omega)]

theorem slice_drop (buf : List α) (pos n k : Nat) :
    (slice buf pos n).drop k = slice buf (pos + k) (n - k) := by
  simp [slice,List.drop_take]

theorem slice_take {k : Nat} (h : k ≤ n) : (slice buf pos n).take k = slice buf pos k := by
  simp [slice,List.take_take,Nat.min_eq_left h]

theorem drop_overwrite_of_le {k : Nat}
    (h : pos + src.length ≤ k) : (overwrite buf pos src).drop k = buf.drop k := by
  apply List.ext_getElem?
  intro i
  have hkeep : (fun b => if k + i < pos then b else src.getD (k + i - pos) b) = id := by
    funext b
    rw [List.getD_eq_default _ _ (by omega),ite_self,id]
  rw [List.getElem?_drop,List.getElem?_drop,getElem?_overwrite,hkeep,Option.map_id,id]

theorem slice_overwrite_of_le {pos' : Nat} (h : pos + src.length ≤ pos') :
    slice (overwrite buf pos src) pos' n = slice buf pos' n := by
  rw [slice,slice,drop_overwrite_of_le h]

theorem slice_overwrite_of_ge {pos' : Nat} (h : pos' + n ≤ pos) :
    slice (overwrite buf pos src) pos' n = slice buf pos' n := by
  apply List.ext_getElem?
  intro i
  simp only [slice,List.getElem?_take,List.getElem?_drop]
  split
  · next hi =>
      have hkeep : (fun b => if pos' + i < pos then b else src.getD (pos' + i - pos) b) = id := by
        funext b
        rw [if_pos (by omega),id]
      rw [getElem?_overwrite,hkeep,Option.map_id,id]
  · rfl

theorem slice_add (buf : List α) (pos m n : Nat) :
    slice buf pos (m + n) = slice buf pos m ++ slice buf (pos + m) n := by
  simp [slice,List.take_add]

theorem slice_overwrite_append (h : pos + n + src.length ≤ buf.length) :
    slice (overwrite buf (pos + n) src) pos (n + src.length) = slice buf pos n ++ src := by
  rw [slice_add,slice_overwrite_of_ge (Nat.le_refl _),slice_overwrite_self h]

theorem take_overwrite_zero (h : src.length ≤ buf.length) (n : Nat) :
    (overwrite buf 0 src).take (src.length + n) = src ++ slice buf src.length n := by
  have hfront : slice (overwrite buf 0 src) 0 src.length = src :=
    slice_overwrite_self (by rwa [Nat.zero_add])
  have hrest : slice (overwrite buf 0 src) src.length n = slice buf src.length n :=
    slice_overwrite_of_le (Nat.le_of_eq (Nat.zero_add _))
  have hsplit := slice_add (overwrite buf 0 src) 0 src.length n
  rw [hfront,Nat.zero_add,hrest] at hsplit
  exact hsplit

/-! ## Buffers of a known size -/

/-- A buffer whose size satisfies `p`. -/
abbrev Sized (α : Type) (p : Nat → Prop) := { buf : List α // p buf.length }

def Sized.patch {p : Nat → Prop} (buf : Sized α p) (pos : Nat) (src : List α) : Sized α p :=
  ⟨overwrite buf.val pos src, (length_overwrite buf.val pos src).symm ▸ buf.property⟩

@[simp] theorem Sized.patch_val {p : Nat → Prop} (buf : Sized α p) (pos : Nat) (src : List α) :
    (buf.patch pos src).val = overwrite buf.val pos src := rfl

end Buffer
