import Mathlib

/-!
# Ring buffers

A ring keeps its elements in the first `size` cells of an array, from a head cell on and past the
last cell round to the first.
-/

namespace Ring

variable {α β : Type}
variable {count head i n size : Nat}

/-- The cell behind `i`. -/
def next (size i : Nat) : Nat := if size ≤ i + 1 then 0 else i + 1

/-- The cell before `i`. -/
def previous (size i : Nat) : Nat := if i = 0 then size - 1 else i - 1

/-- The cells passed from `i` on in `n` steps. -/
def walk (size : Nat) : Nat → Nat → List Nat
  | _, 0 => []
  | i, n + 1 => i :: walk size (next size i) n

/-- The cell reached from `i` after `n` steps. -/
def advance (size : Nat) : Nat → Nat → Nat
  | i, 0 => i
  | i, n + 1 => advance size (next size i) n

/-! ## Walks -/

@[simp] theorem walk_zero (size i : Nat) : walk size i 0 = [] := rfl

@[simp] theorem advance_zero (size i : Nat) : advance size i 0 = i := rfl

@[simp] theorem walk_length (size i n : Nat) : (walk size i n).length = n := by
  induction n generalizing i with
  | zero => rfl
  | succ n ih => rw [walk,List.length_cons,ih]

theorem walk_add (size i m n : Nat) :
    walk size i (m + n) = walk size i m ++ walk size (advance size i m) n := by
  induction m generalizing i with
  | zero => rw [Nat.zero_add]; rfl
  | succ m ih => rw [Nat.succ_add,walk,ih]; rfl

theorem advance_add (size i m n : Nat) :
    advance size i (m + n) = advance size (advance size i m) n := by
  induction m generalizing i with
  | zero => rw [Nat.zero_add]; rfl
  | succ m ih => rw [Nat.succ_add,advance,ih]; rfl

theorem next_lt (hi : i < size) : next size i < size := by
  unfold next
  split <;> omega

theorem advance_lt (hi : i < size) (n : Nat) : advance size i n < size := by
  induction n generalizing i with
  | zero => exact hi
  | succ n ih => exact ih (next_lt hi)

theorem next_eq_mod (hi : i < size) : next size i = (i + 1) % size := by
  unfold next
  split
  · rw [show i + 1 = size by omega,Nat.mod_self]
  · exact (Nat.mod_eq_of_lt (by omega)).symm

theorem advance_eq_mod (hi : i < size) (n : Nat) : advance size i n = (i + n) % size := by
  induction n generalizing i with
  | zero => exact (Nat.mod_eq_of_lt hi).symm
  | succ n ih =>
    rw [advance,ih (next_lt hi),next_eq_mod hi,Nat.mod_add_mod,Nat.add_assoc,Nat.add_comm 1]

theorem walk_eq_map (n : Nat) : walk size i n = (List.range n).map (advance size i) := by
  induction n with
  | zero => rfl
  | succ n ih => rw [walk_add,ih,List.range_succ,List.map_append]; rfl

theorem advance_size (hi : i < size) : advance size i size = i := by
  rw [advance_eq_mod hi,Nat.add_mod_right,Nat.mod_eq_of_lt hi]

theorem advance_inj {m : Nat} (hi : i < size) (hm : m < size) (hn : n < size)
    (h : advance size i m = advance size i n) : m = n := by
  rw [advance_eq_mod hi,advance_eq_mod hi] at h
  have hmod : m % size = n % size := Nat.ModEq.add_left_cancel' i h
  rwa [Nat.mod_eq_of_lt hm,Nat.mod_eq_of_lt hn] at hmod

theorem advance_notMem_walk (hi : i < size) (hn : n < size) : advance size i n ∉ walk size i n := by
  rw [walk_eq_map]
  intro hmem
  obtain ⟨m,hm,heq⟩ := List.mem_map.mp hmem
  have hlt := List.mem_range.mp hm
  have := advance_inj hi (by omega) hn heq
  omega

theorem previous_advance (hi : i < size) :
    previous size (advance size i (n + 1)) = advance size i n := by
  have hlt := advance_lt hi n
  rw [advance_add]
  show previous size (next size (advance size i n)) = _
  unfold previous next
  split <;> split <;> omega

theorem advance_of_lt (h : i + n < size) : advance size i n = i + n := by
  rw [advance_eq_mod (by omega),Nat.mod_eq_of_lt h]

theorem walk_congr_size {size' : Nat} (h : i + n ≤ size) (h' : i + n ≤ size') :
    walk size i n = walk size' i n := by
  rw [walk_eq_map,walk_eq_map]
  apply List.map_congr_left
  intro k hk
  have hlt := List.mem_range.mp hk
  rw [advance_of_lt (by omega),advance_of_lt (by omega)]

theorem le_of_walk_eq {size' : Nat} (hi : i < size) (hlt : size < size')
    (h : walk size i n = walk size' i n) : i + n ≤ size := by
  by_contra hlong
  -- The step past the last cell of the smaller ring leads to two different cells.
  have hmem : size - i < n := by omega
  have hstep : advance size i (size - i) = advance size' i (size - i) := by
    rw [walk_eq_map,walk_eq_map] at h
    exact List.map_inj_left.mp h _ (List.mem_range.mpr hmem)
  rw [advance_eq_mod hi,advance_of_lt (by omega),Nat.add_sub_of_le hi.le,Nat.mod_self] at hstep
  omega

/-! ## Contents -/

/-- What a reader finds that starts at `head` and takes `count` steps. -/
def contents (d : α) (cells : List α) (size head count : Nat) : List α :=
  (walk size head count).map fun i => cells.getD i d

variable (d : α) (cells : List α)

@[simp] theorem contents_length (size head count : Nat) :
    (contents d cells size head count).length = count := by
  simp [contents]

@[simp] theorem contents_zero (size head : Nat) : contents d cells size head 0 = [] := rfl

theorem contents_add (size head m n : Nat) : contents d cells size head (m + n) =
      contents d cells size head m ++ contents d cells size (advance size head m) n := by
  simp only [contents,walk_add,List.map_append]

theorem contents_succ (size head n : Nat) : contents d cells size head (n + 1) =
      cells.getD head d :: contents d cells size (next size head) n := rfl

theorem contents_drop (h : n ≤ count) : (contents d cells size head count).drop n =
      contents d cells size (advance size head n) (count - n) := by
  obtain ⟨rest,rfl⟩ := Nat.exists_eq_add_of_le h
  rw [contents_add,List.drop_left' (contents_length ..),Nat.add_sub_cancel_left]

theorem contents_take (h : n ≤ count) :
    (contents d cells size head count).take n = contents d cells size head n := by
  obtain ⟨rest,rfl⟩ := Nat.exists_eq_add_of_le h
  rw [contents_add,List.take_left' (contents_length ..)]

variable {d cells}

theorem contents_set_of_notMem {j : Nat} (x : α) (h : j ∉ walk size head count) :
    contents d (cells.set j x) size head count = contents d cells size head count := by
  apply List.map_congr_left
  intro i hi
  have hne : j ≠ i := by
    rintro rfl
    exact h hi
  simp only [List.getD_eq_getElem?_getD,List.getElem?_set_ne hne]

theorem contents_push (hhead : head < size) (hcount : count < size)
    (hcells : size ≤ cells.length) (x : α) :
    contents d (cells.set (advance size head count) x) size head (count + 1) =
      contents d cells size head count ++ [x] := by
  rw [contents_add,contents_set_of_notMem x (advance_notMem_walk hhead hcount)]
  have hlt : advance size head count < cells.length := (advance_lt hhead count).trans_le hcells
  simp [contents,walk,List.getElem?_set_self hlt]

theorem contents_pushFull (hhead : head < size) (hcells : size ≤ cells.length) (x : α) :
    contents d (cells.set head x) size (next size head) size =
      (contents d cells size head size).drop 1 ++ [x] := by
  obtain ⟨n,rfl⟩ : ∃ n, size = n + 1 := ⟨size - 1,by omega⟩
  have hback : advance (n + 1) (next (n + 1) head) n = head := by
    rw [show advance (n + 1) (next (n + 1) head) n = advance (n + 1) head (n + 1) from rfl,
      advance_size hhead]
  have hpush := contents_push (d := d) (next_lt hhead) (Nat.lt_succ_self n) hcells x
  rw [hback] at hpush
  rw [hpush,contents_succ,List.drop_one,List.tail_cons]

theorem contents_replaceLast (hhead : head < size) (hcount : count < size)
    (hcells : size ≤ cells.length) (x : α) :
    contents d (cells.set (advance size head count) x) size head (count + 1) =
      (contents d cells size head (count + 1)).take count ++ [x] := by
  rw [contents_push hhead hcount hcells,contents_take d cells (Nat.le_succ count)]

theorem notMem_walk_next (hi : i < size) (hn : n < size) : i ∉ walk size (next size i) n := by
  rw [walk_eq_map]
  intro hmem
  obtain ⟨m,hm,heq⟩ := List.mem_map.mp hmem
  have hlt := List.mem_range.mp hm
  have := advance_inj (m := m + 1) (n := 0) hi (by omega) (by omega) heq
  omega

theorem contents_modify_head (f : α → α) (hhead : head < size)
    (hcount : count ≤ size) (hcells : size ≤ cells.length) :
    contents d (cells.modify head f) size head count =
      (contents d cells size head count).modify 0 f := by
  cases count with
  | zero => rfl
  | succ n =>
    have hlt : head < cells.length := hhead.trans_le hcells
    rw [List.modify_eq_set_get f hlt,contents_succ,contents_succ,
      contents_set_of_notMem _ (notMem_walk_next hhead hcount)]
    simp [List.getElem?_set_self hlt,List.getElem?_eq_getElem hlt]

end Ring
