import MucOpcua.Encoding.LittleEndian
import MucOpcua.Encoding.ReaderRefines
import MucOpcua.Encoding.WriterSticky

/-!
# Decoding what was encoded

`Reads w bs a` says that a wire decoder finds `a` in the bytes `bs`, whatever follows them, and uses
exactly these bytes.
-/

namespace MucOpcua

variable {α β : Type}
variable {a : α} {bs : List UInt8} {leaves : List Leaf} {w : Wire α}

/-! ## Reading a piece in front of anything -/

def Reads (w : Wire α) (bs : List UInt8) (a : α) : Prop :=
  ∀ tail, w (bs ++ tail) = .done a bs.length

theorem Reads.pure (a : α) : Reads (pure a) [] a := fun _ => rfl

theorem Reads.bind {f : α → Wire β} {xs ys : List UInt8} {b : β}
    (hw : Reads w xs a) (hf : Reads (f a) ys b) : Reads (w >>= f) (xs ++ ys) b := by
  intro tail
  show Wire.bind w f _ = _
  rw [Wire.bind,List.append_assoc,hw]
  simp only [List.drop_left,hf tail,List.length_append]

theorem Reads.fixed {width : Nat} {decode : List UInt8 → α}
    (hlen : bs.length = width) (hdecode : ∀ tail, decode (bs ++ tail) = a) :
    Reads (Wire.fixed width decode) bs a := by
  intro tail
  rw [Wire.fixed,if_pos (by simp [← hlen]),hdecode,hlen]

theorem Reads.take (bs : List UInt8) : Reads (Wire.take bs.length) bs bs := by
  intro tail
  rw [Wire.take,if_pos (by simp),List.take_left]

theorem Reads.peek_bind {f : List UInt8 → Wire β} {b : β}
    (h : ∀ tail, f (bs ++ tail) (bs ++ tail) = .done b bs.length) :
    Reads (Wire.peek >>= f) bs b := by
  intro tail
  show Wire.bind Wire.peek f _ = _
  simp only [Wire.bind,Wire.peek,List.drop_zero,h tail,Nat.zero_add]

theorem Refines.reads_at {m : ReadM α} (hm : Refines m w) {r : BinaryReader}
    {buffer rest : List UInt8} (hbuffer : r.buffer = some buffer)
    (hgood : r.status = Status.good) (hread : Reads w bs a) (hrest : r.rest = bs ++ rest) :
    m r = .ok a (r.advance bs.length) := by
  have hmatch := hm r buffer hbuffer hgood
  rw [hrest,hread rest] at hmatch
  exact hmatch

theorem Refines.reads_next {m : ReadM α} (hm : Refines m w)
    {r : BinaryReader} {buffer rest : List UInt8} (hread : Reads w bs a)
    (hbuffer : r.buffer = some buffer) (hgood : r.status = Status.good)
    (hrest : r.rest = bs ++ rest) :
    m r = .ok a (r.advance bs.length) ∧ (r.advance bs.length).rest = rest := by
  refine ⟨hm.reads_at hbuffer hgood hread hrest,?_⟩
  rw [BinaryReader.rest_advance,hrest,List.drop_left]

theorem Refines.reads_init {m : ReadM α} (hm : Refines m w) (h : Reads w bs a) :
    m (BinaryReader.init bs) = .ok a ((BinaryReader.init bs).advance bs.length) :=
  hm.reads_at rfl rfl h (List.append_nil bs).symm

/-! ## The bytes of leaves -/

def Leaf.bytes : Leaf → Option (List UInt8)
  | .field bs => some bs
  | .block bs _ => some bs
  | .refusal _ => none

def leafBytes : List Leaf → Option (List UInt8)
  | [] => some []
  | leaf :: leaves => leaf.bytes.bind fun bs => (leafBytes leaves).map (bs ++ ·)

theorem leafBytes_append (xs ys : List Leaf) :
    leafBytes (xs ++ ys) = (leafBytes xs).bind fun bs => (leafBytes ys).map (bs ++ ·) := by
  induction xs with
  | nil => simp [leafBytes]
  | cons leaf xs ih =>
    cases hleaf : leaf.bytes with
    | none => simp [leafBytes,hleaf]
    | some bs =>
      rw [List.cons_append,leafBytes,hleaf,ih,leafBytes,hleaf]
      cases leafBytes xs with
      | none => rfl
      | some cs =>
        cases leafBytes ys with
        | none => rfl
        | some ds => simp

theorem leafBytes_split {xs ys : List Leaf} {bs : List UInt8} (h : leafBytes (xs ++ ys) = some bs) :
    ∃ front back, leafBytes xs = some front ∧ leafBytes ys = some back ∧ bs = front ++ back := by
  rw [leafBytes_append,Option.bind_eq_some_iff] at h
  obtain ⟨front,hfront,hrest⟩ := h
  obtain ⟨back,hback,rfl⟩ := Option.map_eq_some_iff.mp hrest
  exact ⟨front,back,hfront,hback,rfl⟩

theorem scan_done {hasBuffer : Bool} {length pos : Nat}
    (h : scan hasBuffer length pos leaves = .done bs) :
    leafBytes leaves = some bs ∧ (leaves ≠ [] → pos + bs.length ≤ length) := by
  induction leaves generalizing pos bs with
  | nil =>
    simp only [scan,WriteOutcome.done.injEq] at h
    simp [leafBytes,← h]
  | cons leaf leaves ih =>
    -- Every leaf that is accepted fits, and the rest starts behind it.
    have hstep (head : List UInt8) (hleaf : leaf.bytes = some head)
      (hfit : pos + head.length ≤ length)
        (hprepend : (scan hasBuffer length (pos + head.length) leaves).prepend head = .done bs) :
        leafBytes (leaf :: leaves) = some bs ∧ pos + bs.length ≤ length := by
      cases hscan : scan hasBuffer length (pos + head.length) leaves with
      | done tail =>
        rw [hscan] at hprepend
        obtain rfl : head ++ tail = bs := by simpa [WriteOutcome.prepend] using hprepend
        obtain ⟨hbytes,hle⟩ := ih hscan
        refine ⟨by simp [leafBytes,hleaf,hbytes],?_⟩
        by_cases hnil : leaves = []
        · subst hnil
          obtain rfl : [] = tail := by simpa [leafBytes] using hbytes
          simpa using hfit
        have := hle hnil
        simp only [List.length_append]
        omega
      | trip s | refuse s => simp [hscan,WriteOutcome.prepend] at hprepend
    cases leaf with
    | refusal s => simp [scan] at h
    | field head =>
      simp only [scan] at h
      by_cases hbuf : hasBuffer = false
      · simp [hbuf] at h
      rw [if_neg hbuf] at h
      by_cases hfit : pos + head.length ≤ length
      · rw [if_pos hfit] at h
        exact (hstep head rfl hfit h).imp_right fun hle _ => hle
      · simp [hfit] at h
    | block head overflow =>
      simp only [scan] at h
      by_cases hfit : pos + head.length ≤ length
      · rw [if_pos hfit] at h
        exact (hstep head rfl hfit h).imp_right fun hle _ => hle
      · simp [hfit] at h

theorem scan_of_fits {length pos : Nat}
    (hbytes : leafBytes leaves = some bs) (hfit : pos + bs.length ≤ length) :
    scan true length pos leaves = .done bs := by
  induction leaves generalizing pos bs with
  | nil =>
    obtain rfl : [] = bs := by simpa [leafBytes] using hbytes
    rfl
  | cons leaf leaves ih =>
    simp only [leafBytes,Option.bind_eq_some_iff,Option.map_eq_some_iff] at hbytes
    obtain ⟨head,hleaf,tail,htail,rfl⟩ := hbytes
    rw [List.length_append] at hfit
    have hrest : scan true length (pos + head.length) leaves = .done tail := ih htail (by omega)
    cases leaf with
    | refusal s => simp [Leaf.bytes] at hleaf
    | field bs =>
      obtain rfl : bs = head := by simpa [Leaf.bytes] using hleaf
      rw [scan,if_neg (by simp),if_pos (by omega),hrest]
      rfl
    | block bs overflow =>
      obtain rfl : bs = head := by simpa [Leaf.bytes] using hleaf
      rw [scan,if_pos (by omega),hrest]
      rfl

/-! ## Encoders as bytes -/

def emitted (w w' : BinaryWriter) : List UInt8 := w'.written.drop w.position

theorem emitted_put {w : BinaryWriter} (hbuf : w.buffer.isSome = true)
    (hfit : bs ≠ [] → w.position + bs.length ≤ w.length) : emitted w (w.put bs) = bs := by
  obtain ⟨b,hb⟩ := Option.isSome_iff_exists.mp hbuf
  have hlen : b.length = w.length := w.sized b (by simp [hb])
  by_cases hnil : bs = []
  · subst hnil
    simp [emitted,BinaryWriter.written]
  have hslice : Buffer.slice (Buffer.overwrite b w.position bs) w.position bs.length = bs :=
    Buffer.slice_overwrite_self (by rw [hlen]; exact hfit hnil)
  simp only [emitted,BinaryWriter.written,BinaryWriter.put,hb,List.drop_take,Nat.add_sub_cancel_left]
  exact hslice

theorem BinaryWriter.written_put {w : BinaryWriter} {bytes : List UInt8}
    (hbuf : w.buffer.isSome = true) (hfit : w.position + bytes.length ≤ w.length) :
    (w.put bytes).written = w.written ++ bytes := by
  obtain ⟨b,hb⟩ := Option.isSome_iff_exists.mp hbuf
  have hlength := w.sized b hb
  simp only [BinaryWriter.written,BinaryWriter.put,hb,Option.map_some,Option.getD_some]
  rw [List.take_add]
  have hfront : Buffer.slice (Buffer.overwrite b w.position bytes) 0 w.position =
      Buffer.slice b 0 w.position := Buffer.slice_overwrite_of_ge (by omega)
  have hback : Buffer.slice (Buffer.overwrite b w.position bytes) w.position bytes.length = bytes :=
    Buffer.slice_overwrite_self (by omega)
  simp only [Buffer.slice,List.drop_zero] at hfront hback
  rw [hfront,hback]

variable {m : WriteM Unit}

theorem Emits.put_of_ok (h : Emits m leaves)
    {w w' : BinaryWriter} (hw : w.status = Status.good) (hrun : m w = .ok () w') :
    ∃ bs, leafBytes leaves = some bs ∧ w' = w.put bs ∧
      (leaves ≠ [] → w.position + bs.length ≤ w.length) := by
  have hmatch := h w hw
  unfold BinaryWriter.scan at hmatch
  cases hscan : scan w.buffer.isSome w.length w.position leaves with
  | trip s | refuse s =>
    rw [hscan] at hmatch
    obtain ⟨w'',herr,_⟩ := hmatch
    simp [herr] at hrun
  | done bs =>
    rw [hscan] at hmatch
    obtain ⟨hbytes,hfit⟩ := scan_done hscan
    have hok : m w = .ok () (w.put bs) := hmatch
    rw [hrun] at hok
    exact ⟨bs,hbytes,by simpa using hok,hfit⟩

theorem Emits.emitted_of_ok (h : Emits m leaves)
    (hinert : WriteM.Inert m) {w w' : BinaryWriter} (hbuf : w.buffer.isSome = true)
    (hrun : m w = .ok () w') : leafBytes leaves = some (emitted w w') := by
  have hw : w.status = Status.good := by
    by_contra hbad
    obtain ⟨s,hs⟩ := hinert w hbad
    simp [hs] at hrun
  obtain ⟨bs,hbytes,hput,hfit⟩ := h.put_of_ok hw hrun
  rw [hbytes,hput,emitted_put hbuf]
  intro hne
  apply hfit
  rintro rfl
  exact hne (by simpa [leafBytes] using hbytes.symm)

theorem Emits.ok_of_fits (h : Emits m leaves)
    (hbytes : leafBytes leaves = some bs) {w : BinaryWriter}
    (hw : w.status = Status.good) (hbuf : w.buffer.isSome = true)
    (hfit : w.position + bs.length ≤ w.length) : m w = .ok () (w.put bs) := by
  have hmatch := h w hw
  rw [BinaryWriter.scan,hbuf,scan_of_fits hbytes hfit] at hmatch
  exact hmatch

/-! ## Reading leaves back -/

def Decodes (w : Wire α) (leaves : List Leaf) (a : α) : Prop :=
  ∀ bs, leafBytes leaves = some bs → Reads w bs a

theorem Decodes.pure (a : α) : Decodes (pure a) [] a := by
  intro bs hbs
  obtain rfl : [] = bs := by simpa [leafBytes] using hbs
  exact Reads.pure a

theorem Decodes.bind {f : α → Wire β} {xs ys : List Leaf} {b : β}
    (hw : Decodes w xs a) (hf : Decodes (f a) ys b) : Decodes (w >>= f) (xs ++ ys) b := by
  intro bs hbs
  obtain ⟨front,back,hfront,hback,rfl⟩ := leafBytes_split hbs
  exact (hw front hfront).bind (hf back hback)

theorem Decodes.bind_pure (h : Decodes w leaves a)
    (f : α → β) : Decodes (w >>= fun a => Pure.pure (f a)) leaves (f a) := by
  have hbind := h.bind (f := fun a => Pure.pure (f a)) (Decodes.pure (f a))
  rwa [List.append_nil] at hbind

theorem Decodes.map (h : Decodes w leaves a) (f : α → β) : Decodes (f <$> w) leaves (f a) :=
  h.bind_pure f

theorem Decodes.refusal (w : Wire α) (s : BadStatus) (leaves : List Leaf) (a : α) :
    Decodes w (.refusal s :: leaves) a := by
  intro bs hbs
  simp [leafBytes,Leaf.bytes] at hbs

theorem Decodes.field {width : Nat} {decode : List UInt8 → α}
    (hlen : bs.length = width) (hdecode : ∀ tail, decode (bs ++ tail) = a) :
    Decodes (Wire.fixed width decode) [.field bs] a := by
  intro cs hcs
  obtain rfl : bs = cs := by simpa [leafBytes,Leaf.bytes] using hcs
  exact Reads.fixed hlen hdecode

theorem Decodes.when {absent : α} {p q : Prop} [Decidable p]
    [Decidable q] (hpq : p ↔ q) (hp : p → Decodes w leaves a) (hn : ¬ p → absent = a) :
    Decodes (Wire.when p w absent) (if q then leaves else []) a := by
  by_cases h : p
  · rw [Wire.when,if_pos h,if_pos (hpq.mp h)]
    exact hp h
  · rw [Wire.when,if_neg h,if_neg (fun hq => h (hpq.mpr hq)),hn h]
    exact Decodes.pure a

theorem Decodes.many {leaves : α → List Leaf} {canon : α → α}
    (h : ∀ a, Decodes w (leaves a) (canon a)) (xs : List α) (n : Nat) (hn : xs.length = n) :
    Decodes (Wire.many w n) (xs.flatMap leaves) ⟨xs.map canon, by simpa using hn⟩ := by
  induction xs generalizing n with
  | nil =>
    subst hn
    exact Decodes.pure _
  | cons x xs ih =>
    subst hn
    have hrest := (ih xs.length rfl).bind_pure fun ys =>
      (⟨canon x :: ys.val,by simp [ys.property]⟩ : { zs : List α // zs.length = xs.length + 1 })
    exact (h x).bind hrest

/-! ## Fixed-width fields and strings -/

theorem Decodes.boolean (v : Bool) : Decodes Wire.boolean [.field [booleanByte v]] v :=
  Decodes.field rfl fun _ => by cases v <;> rfl

theorem Decodes.sbyte (v : Int8) : Decodes Wire.sbyte [.field [v.toUInt8]] v :=
  Decodes.field rfl fun _ => by simp

theorem Decodes.byte (v : UInt8) : Decodes Wire.byte [.field [v]] v :=
  Decodes.field rfl fun _ => by simp

theorem Decodes.uint16 (v : UInt16) : Decodes Wire.uint16 [.field (lePutU16 v)] v :=
  Decodes.field rfl fun tail => leGetU16_lePutU16 v tail

theorem Decodes.int16 (v : Int16) : Decodes Wire.int16 [.field (lePutU16 v.toUInt16)] v :=
  Decodes.field rfl fun tail => by rw [leGetU16_lePutU16]; rfl

theorem Decodes.uint32 (v : UInt32) : Decodes Wire.uint32 [.field (lePutU32 v)] v :=
  Decodes.field rfl fun tail => leGetU32_lePutU32 v tail

theorem Decodes.int32 (v : Int32) : Decodes Wire.int32 [.field (lePutU32 v.toUInt32)] v :=
  Decodes.field rfl fun tail => by rw [leGetU32_lePutU32]; rfl

theorem Decodes.uint64 (v : UInt64) : Decodes Wire.uint64 [.field (lePutU64 v)] v :=
  Decodes.field rfl fun tail => leGetU64_lePutU64 v tail

theorem Decodes.int64 (v : Int64) : Decodes Wire.int64 [.field (lePutU64 v.toUInt64)] v :=
  Decodes.field rfl fun tail => by rw [leGetU64_lePutU64]; rfl

def MuString.canon (s : MuString) : MuString :=
  if s.length < 0 then MuString.null else MuString.ofBytes s.bytes

theorem toInt_ofInt_of_fits {n : Int} (hlow : -2 ^ 31 ≤ n) (hhigh : n < 2 ^ 31) :
    (Int32.ofInt n).toInt = n :=
  Int32.toInt_ofInt_of_le hlow hhigh

theorem Decodes.string (s : MuString) : Decodes Wire.string (stringLeaves (some s)) s.canon := by
  simp only [stringLeaves]
  by_cases hnull : s.length = -1
  · rw [if_pos hnull]
    have hcanon : s.canon = MuString.null := by simp [MuString.canon,hnull]
    rw [hcanon]
    exact (Decodes.int32 (-1)).bind (Decodes.pure MuString.null)
  rw [if_neg hnull]
  by_cases hneg : s.length < 0
  · rw [if_pos hneg]
    exact Decodes.refusal _ _ _ _
  rw [if_neg hneg]
  by_cases hlong : (maxEncodedStringLength : Int) < s.length
  · rw [if_pos hlong]
    exact Decodes.refusal _ _ _ _
  rw [if_neg hlong]
  have hmax : s.length ≤ 4096 := by
    have : (maxEncodedStringLength : Int) = 4096 := rfl
    omega
  have hlen : (Int32.ofInt s.length).toInt = s.length :=
    toInt_ofInt_of_fits (by omega) (by omega)
  have hbytes := MuString.length_bytes (s := s) (by omega)
  rw [← List.singleton_append]
  refine (Decodes.int32 (Int32.ofInt s.length)).bind ?_
  simp only [hlen]
  rw [if_neg hnull,if_neg hneg,if_neg hlong]
  have hcanon : s.canon = MuString.ofBytes s.bytes := by simp [MuString.canon,hneg]
  rw [hcanon]
  intro bs hbs
  have hcontent : bs = s.bytes := by
    by_cases hpos : 0 < s.length
    · simpa [hpos,leafBytes,Leaf.bytes] using hbs.symm
    · have hnil : s.bytes = [] := List.length_eq_zero_iff.mp (by omega)
      simpa [hpos,leafBytes,hnil] using hbs.symm
  have hcount : s.length.toNat = s.bytes.length := by omega
  rw [hcount,hcontent]
  have hread := (Reads.take s.bytes).bind (f := fun bytes => Pure.pure (MuString.ofBytes bytes))
    (Reads.pure _)
  rwa [List.append_nil] at hread

end MucOpcua
