import MucOpcua.Encoding.BinaryEncode

/-!
# What an encoder emits

The encoders again, without a buffer: each value is a list of leaves to be written in order. A
`field` that does not fit trips the writer, a `block` that does not fit and a `refusal` are told to
the caller alone. `scan` follows the leaves through the space that is left and says how the call
ends; `Emits` relates an encoder of the code to its leaves and is closed under sequencing.
-/

namespace MucOpcua

open Sticky

inductive Leaf where
  | field (bytes : List UInt8)
  | block (bytes : List UInt8) (overflow : BadStatus)
  | refusal (status : BadStatus)

inductive WriteOutcome where
  | done (bytes : List UInt8)
  | trip (status : BadStatus)
  | refuse (status : BadStatus)

namespace WriteOutcome

def prepend (bs : List UInt8) : WriteOutcome → WriteOutcome
  | .done bytes => .done (bs ++ bytes)
  | .trip s => .trip s
  | .refuse s => .refuse s

def andThen (o : WriteOutcome) (next : List UInt8 → WriteOutcome) : WriteOutcome :=
  match o with
  | .done bs => (next bs).prepend bs
  | .trip s => .trip s
  | .refuse s => .refuse s

@[simp] theorem prepend_nil (o : WriteOutcome) : o.prepend [] = o := by cases o <;> rfl

theorem prepend_andThen (bs : List UInt8) (o : WriteOutcome) (next : List UInt8 → WriteOutcome) :
    (o.prepend bs).andThen next = (o.andThen fun cs => next (bs ++ cs)).prepend bs := by
  cases o with
  | done cs => cases h : next (bs ++ cs) <;> simp [prepend,andThen,h]
  | trip s => rfl
  | refuse s => rfl

end WriteOutcome

/-- Follow leaves from a cursor at `pos` in a buffer of `length` bytes; `hasBuffer` is false for a
NULL buffer. -/
def scan (hasBuffer : Bool) (length : Nat) : Nat → List Leaf → WriteOutcome
  | _, [] => .done []
  | pos, .field bs :: leaves =>
    if hasBuffer = false then .trip Status.badInternalError
    else if pos + bs.length ≤ length then
      (scan hasBuffer length (pos + bs.length) leaves).prepend bs
    else .trip Status.badEncodingError
  | pos, .block bs overflow :: leaves =>
    if pos + bs.length ≤ length then (scan hasBuffer length (pos + bs.length) leaves).prepend bs
    else .refuse overflow
  | _, .refusal s :: _ => .refuse s

theorem scan_append (hasBuffer : Bool) (length pos : Nat) (xs ys : List Leaf) :
    scan hasBuffer length pos (xs ++ ys) = (scan hasBuffer length pos xs).andThen fun bs =>
        scan hasBuffer length (pos + bs.length) ys := by
  induction xs generalizing pos with
  | nil => simp [scan,WriteOutcome.andThen]
  | cons leaf xs ih =>
    cases leaf with
    | refusal s => rfl
    | field bs =>
      simp only [List.cons_append,scan]
      split
      · rfl
      split
      · simp only [ih,WriteOutcome.prepend_andThen,List.length_append,Nat.add_assoc]
      · rfl
    | block bs overflow =>
      simp only [List.cons_append,scan]
      split
      · simp only [ih,WriteOutcome.prepend_andThen,List.length_append,Nat.add_assoc]
      · rfl

/-- How a call from `w` may end, given what the scan of its leaves says. -/
def MatchesWrite (w : BinaryWriter) (result : EStateM.Result BadStatus BinaryWriter Unit) :
    WriteOutcome → Prop
  | .done bs => result = .ok () (w.put bs)
  | .trip s => ∃ w', result = .error s w' ∧ w'.status = s.val
  | .refuse s => ∃ w', result = .error s w' ∧ w'.status = Status.good

def BinaryWriter.scan (w : BinaryWriter) (leaves : List Leaf) : WriteOutcome :=
  MucOpcua.scan w.buffer.isSome w.length w.position leaves

def Emits (m : WriteM Unit) (leaves : List Leaf) : Prop :=
  ∀ w : BinaryWriter, w.status = Status.good → MatchesWrite w (m w) (w.scan leaves)

theorem Emits.pure : Emits (pure ()) [] := by
  intro w _
  show _ = _
  rw [BinaryWriter.put_nil]
  rfl

theorem Emits.throw (s : BadStatus) : Emits (throw s) [.refusal s] :=
  fun w hw => ⟨w,rfl,hw⟩

theorem Emits.bind {m m' : WriteM Unit} {xs ys : List Leaf} (hm : Emits m xs)
    (hm' : Emits m' ys) : Emits (m >>= fun _ => m') (xs ++ ys) := by
  intro w hw
  have hfirst := hm w hw
  rw [BinaryWriter.scan,scan_append]
  unfold BinaryWriter.scan at hfirst
  cases hscan : scan w.buffer.isSome w.length w.position xs with
  | done bs =>
    rw [hscan] at hfirst
    have hsecond := hm' (w.put bs) hw
    simp only [BinaryWriter.scan,BinaryWriter.put_buffer_isSome,BinaryWriter.put_length,
      BinaryWriter.put_position] at hsecond
    rw [bind_ok hfirst]
    simp only [WriteOutcome.andThen]
    cases hrest : scan w.buffer.isSome w.length (w.position + bs.length) ys with
    | done cs =>
      rw [hrest] at hsecond
      simpa only [WriteOutcome.prepend,MatchesWrite,BinaryWriter.put_append] using hsecond
    | trip s | refuse s =>
      rw [hrest] at hsecond
      exact hsecond
  | trip s | refuse s =>
    rw [hscan] at hfirst
    obtain ⟨w',hres,hstatus⟩ := hfirst
    exact ⟨w',bind_error hres _,hstatus⟩

theorem Emits.ite {c : Prop} [Decidable c] {m m' : WriteM Unit} {xs ys : List Leaf}
    (ht : c → Emits m xs) (he : ¬ c → Emits m' ys) :
    Emits (if c then m else m') (if c then xs else ys) := by
  split
  · exact ht ‹_›
  · exact he ‹_›

theorem Emits.writeIf {m : WriteM Unit} {xs : List Leaf} (hm : Emits m xs) (c : Prop)
    [Decidable c] : Emits (writeIf c m) (if c then xs else []) :=
  Emits.ite (fun _ => hm) fun _ => Emits.pure

theorem Emits.writeMany {α : Type} {encode : α → WriteM Unit} {leaves : α → List Leaf}
    (h : ∀ a, Emits (encode a) (leaves a)) (xs : List α) :
    Emits (writeMany encode xs) (xs.flatMap leaves) := by
  induction xs with
  | nil => exact Emits.pure
  | cons x xs ih => exact (h x).bind ih

theorem Emits.writeOptional {α : Type} {encode : α → WriteM Unit} {leaves : α → List Leaf}
    (h : ∀ a, Emits (encode a) (leaves a)) (v : Option α) :
    Emits (writeOptional encode v) (v.elim [] leaves) := by
  cases v with
  | none => exact Emits.pure
  | some a => exact h a

/-! ## Leaves of the code -/

theorem writeFixed_emits (bs : List UInt8) : Emits (writeFixed bs) [.field bs] := by
  intro w hw
  simp only [BinaryWriter.scan,scan,WriteOutcome.prepend,List.append_nil]
  by_cases hbuf : w.buffer.isSome = false
  · rw [if_pos hbuf]
    refine ⟨w.trip Status.badInternalError,bind_error ?_ _,rfl⟩
    rw [ensureSpace,get_bind,if_neg (by simp [hbuf]),dif_neg (by simpa using hw),
      if_pos (by simpa using hbuf)]
    rfl
  rw [if_neg hbuf]
  by_cases hfit : w.position + bs.length ≤ w.length
  · rw [if_pos hfit]
    have hok : ensureSpace bs.length w = .ok () w := by
      rw [ensureSpace,get_bind,if_pos
        ⟨hw,by simpa [Option.isSome_iff_ne_none] using hbuf,by omega,by omega⟩]
      rfl
    exact bind_ok hok _
  rw [if_neg hfit]
  refine ⟨w.trip Status.badEncodingError,bind_error ?_ _,rfl⟩
  rw [ensureSpace,get_bind,if_neg (by omega),dif_neg (by simpa using hw),
    if_neg (by simpa using hbuf)]
  rfl

theorem writeBlock_emits (bs : List UInt8) (overflow : BadStatus) :
    Emits (writeBlock bs overflow) [.block bs overflow] := by
  intro w hw
  simp only [BinaryWriter.scan,scan,WriteOutcome.prepend,List.append_nil]
  by_cases hfit : w.position + bs.length ≤ w.length
  · rw [if_pos hfit,writeBlock,get_bind,if_neg (by omega)]
    rfl
  · rw [if_neg hfit,writeBlock,get_bind,if_pos (by omega)]
    exact ⟨w,rfl,hw⟩

end MucOpcua
