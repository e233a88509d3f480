import MucOpcua.Encoding.DatavalueRoundTrip

/-!
# What is left of a value that was refused

An encoder that refuses a value after some of its fields were written leaves these behind, and the
writer, still in good state, goes on after them.
-/

namespace MucOpcua

open Sticky

variable {α β : Type}
variable {canonical leaves xs ys : List Leaf} {m : WriteM Unit} (bs : List UInt8)

/-! ## Where a refusing encoder stops -/

/-- A call that fails without tripping the writer has put the leaves in front of one that was
refused, or did not fit. -/
def StopsShort (m : WriteM Unit) (leaves : List Leaf) : Prop :=
  ∀ w s w', w.status = Status.good → m w = .error s w' → w'.status = Status.good →
    ∃ xs leaf ys bs, leaves = xs ++ leaf :: ys ∧ leafBytes xs = some bs ∧ leaf.bytes ≠ some [] ∧
      w' = w.put bs ∧ (xs ≠ [] → w.position + bs.length ≤ w.length)

theorem StopsShort.pure : StopsShort (pure ()) [] := by
  intro w s w' _ hrun _
  cases hrun

theorem StopsShort.throw (s : BadStatus) : StopsShort (throw s) [.refusal s] := by
  intro w s' w' _ hrun _
  cases hrun
  exact ⟨[],.refusal s,[],[],rfl,rfl,by simp [Leaf.bytes],by simp,by simp⟩

theorem scan_fields_ne_refuse {hasBuffer : Bool} {length pos : Nat} {fields : List (List UInt8)}
    (s : BadStatus) : scan hasBuffer length pos (fields.map .field) ≠ .refuse s := by
  induction fields generalizing pos with
  | nil => simp [scan]
  | cons bs fields ih =>
    rw [List.map_cons,scan]
    split
    · simp
    split
    · intro hrefuse
      cases hrest : scan hasBuffer length (pos + bs.length) (fields.map .field) with
      | done cs | trip s' => simp [hrest,WriteOutcome.prepend] at hrefuse
      | refuse s' =>
        rw [hrest] at hrefuse
        cases hrefuse
        exact ih hrest
    · simp

theorem Emits.tripped_of_fields {fields : List (List UInt8)}
    (h : Emits m (fields.map .field)) {w w' : BinaryWriter} {s : BadStatus}
    (hw : w.status = Status.good) (hrun : m w = .error s w') : w'.status ≠ Status.good := by
  intro hgood
  have hmatch := h w hw
  unfold BinaryWriter.scan at hmatch
  cases hscan : scan w.buffer.isSome w.length w.position (fields.map .field) with
  | done bs =>
    rw [hscan,hrun] at hmatch
    cases hmatch
  | refuse s' => exact absurd hscan (scan_fields_ne_refuse s')
  | trip s' =>
    rw [hscan,hrun] at hmatch
    obtain ⟨w'',hres,hstatus⟩ := hmatch
    cases hres
    rw [hgood] at hstatus
    exact absurd hstatus.symm s.property

theorem StopsShort.fields {fields : List (List UInt8)}
    (h : Emits m (fields.map .field)) : StopsShort m (fields.map .field) :=
  fun _ _ _ hw hrun hgood => absurd hgood (h.tripped_of_fields hw hrun)

theorem writeFixed_emits_map : Emits (writeFixed bs) ([bs].map .field) :=
  writeFixed_emits bs

theorem StopsShort.writeFixed : StopsShort (writeFixed bs) [.field bs] :=
  StopsShort.fields (writeFixed_emits_map bs)

theorem StopsShort.writeBlock {block : List UInt8} (hblock : block ≠ []) (overflow : BadStatus) :
    StopsShort (writeBlock block overflow) [.block block overflow] := by
  intro w s w' _ hrun _
  rw [MucOpcua.writeBlock,get_bind] at hrun
  split at hrun
  · cases hrun
    exact ⟨[],.block block overflow,[],[],rfl,rfl,by simpa [Leaf.bytes] using hblock,
      by simp,by simp⟩
  · cases hrun

theorem StopsShort.bind {m' : WriteM Unit} (hemits : Emits m xs)
    (hm : StopsShort m xs) (hm' : StopsShort m' ys) :
    StopsShort (m >>= fun _ => m') (xs ++ ys) := by
  intro w s w' hw hrun hgood
  cases hfirst : m w with
  | error s₁ w₁ =>
    rw [bind_error hfirst] at hrun
    cases hrun
    obtain ⟨front,leaf,back,bs,rfl,hbs,hleaf,hput,hfit⟩ := hm w s w' hw hfirst hgood
    exact ⟨front,leaf,back ++ ys,bs,by simp,hbs,hleaf,hput,hfit⟩
  | ok a w₁ =>
    rw [bind_ok hfirst] at hrun
    obtain ⟨bs,hbs,rfl,hfit⟩ := hemits.put_of_ok hw hfirst
    obtain ⟨front,leaf,back,cs,rfl,hcs,hleaf,rfl,hfit'⟩ := hm' (w.put bs) s w' hw hrun hgood
    refine ⟨xs ++ front,leaf,back,bs ++ cs,by simp,?_,hleaf,
      (BinaryWriter.put_append w bs cs).symm,?_⟩
    · rw [leafBytes_append,hbs,hcs]
      rfl
    · intro hne
      simp only [BinaryWriter.put_position,BinaryWriter.put_length] at hfit'
      rw [List.length_append]
      by_cases hfront : front = []
      · subst hfront
        obtain rfl : [] = cs := by simpa [leafBytes] using hcs
        have := hfit (by simpa using hne)
        simpa using this
      · have := hfit' hfront
        omega

theorem StopsShort.ite {c : Prop} [Decidable c] {m' : WriteM Unit}
    (ht : c → StopsShort m xs) (he : ¬ c → StopsShort m' ys) :
    StopsShort (if c then m else m') (if c then xs else ys) := by
  split
  · exact ht ‹_›
  · exact he ‹_›

theorem StopsShort.writeIf (c : Prop) [Decidable c]
    (hm : c → StopsShort m xs) : StopsShort (writeIf c m) (if c then xs else []) :=
  StopsShort.ite hm fun _ => StopsShort.pure

/-! ## The encoders of scalars -/

theorem StopsShort.string (s : MuString) :
    StopsShort (binaryWriteString (some s)) (stringLeaves (some s)) := by
  refine StopsShort.ite (fun _ => StopsShort.writeFixed _) fun _ => ?_
  refine StopsShort.ite (fun _ => StopsShort.throw _) fun _ => ?_
  refine StopsShort.ite (fun _ => StopsShort.throw _) fun _ => ?_
  refine StopsShort.bind (writeFixed_emits _) (StopsShort.writeFixed _) ?_
  refine StopsShort.writeIf _ fun hpos => StopsShort.writeBlock ?_ _
  intro hnil
  have hlen := MuString.length_bytes (show 0 ≤ s.length by omega)
  rw [hnil] at hlen
  simp at hlen
  omega

theorem byteLeaves_eq_map : byteLeaves bs = (bs.map fun b => [b]).map .field := by
  induction bs with
  | nil => rfl
  | cons b bs ih => simpa [byteLeaves] using ih

theorem StopsShort.manyByte : StopsShort (writeMany binaryWriteByte bs) (byteLeaves bs) := by
  have hemits := writeMany_byte_emits bs
  rw [byteLeaves_eq_map] at hemits ⊢
  exact StopsShort.fields hemits

theorem StopsShort.cons (hm : StopsShort m leaves) :
    StopsShort (MucOpcua.writeFixed bs >>= fun _ => m) (.field bs :: leaves) :=
  StopsShort.bind (writeFixed_emits bs) (StopsShort.writeFixed bs) hm

theorem StopsShort.nodeid (node : NodeId) :
    StopsShort (binaryWriteNodeid (some node)) (nodeidLeaves (some node)) := by
  obtain ⟨ns,identifier⟩ := node
  cases identifier with
  | numeric id =>
    refine StopsShort.ite (fun _ => (StopsShort.writeFixed _).cons _) fun _ => ?_
    exact StopsShort.ite (fun _ => ((StopsShort.writeFixed _).cons _).cons _)
      fun _ => ((StopsShort.writeFixed _).cons _).cons _
  | string s => exact ((StopsShort.string s).cons _).cons _
  | guid bytes => exact ((StopsShort.manyByte _).cons _).cons _
  | opaqueId data => exact (((StopsShort.manyByte _).cons _).cons _).cons _
  | unknown t => exact StopsShort.throw _

theorem StopsShort.localizedText (text : LocalizedText) :
    StopsShort (binaryWriteLocalizedText (some text)) (localizedTextLeaves (some text)) := by
  refine StopsShort.cons _ ?_
  exact StopsShort.bind ((binaryWriteString_emits _).writeIf _)
    (StopsShort.writeIf _ fun _ => StopsShort.string _)
    (StopsShort.writeIf _ fun _ => StopsShort.string _)

variable (type : BuiltinType)

theorem StopsShort.scalarValue (v : type.Carrier) :
    StopsShort (writeScalarValue type v) (scalarValueLeaves type v) := by
  cases type with
  | boolean | sbyte | byte | int16 | uint16 | int32 | uint32 | float | statusCode | int64 | dateTime
  | uint64 | double => exact StopsShort.writeFixed _
  | string | byteString => exact StopsShort.string v
  | nodeId => exact StopsShort.nodeid v
  | qualifiedName => exact (StopsShort.string _).cons _
  | localizedText => exact StopsShort.localizedText v
  | null | guid | xmlElement | expandedNodeId | extensionObject | dataValue | variant
  | diagnosticInfo | reserved => exact StopsShort.throw _

/-! ## Canonical values have the same leaves -/

def SameOrRefused (leaves canonical : List Leaf) : Prop :=
  canonical = leaves ∨ ∃ xs s bs, leaves = xs ++ [.refusal s] ∧ canonical = xs ++ [.field bs] ∧
    bs ≠ []

theorem SameOrRefused.cons (leaf : Leaf)
    (h : SameOrRefused leaves canonical) : SameOrRefused (leaf :: leaves) (leaf :: canonical) := by
  rcases h with rfl | ⟨xs,s,bs,rfl,rfl,hbs⟩
  · exact .inl rfl
  · exact .inr ⟨leaf :: xs,s,bs,rfl,rfl,hbs⟩

theorem MuString.canon_length {s : MuString} (h : 0 ≤ s.length) : s.canon.length = s.length := by
  have hneg : ¬ s.length < 0 := by omega
  rw [MuString.canon,if_neg hneg]
  exact MuString.length_bytes h

theorem stringLeaves_canon_of_nonneg {s : MuString} (h : 0 ≤ s.length) :
    stringLeaves (some s.canon) = stringLeaves (some s) := by
  have hneg : ¬ s.length < 0 := by omega
  have hbytes : s.canon.bytes = s.bytes := by
    rw [MuString.canon,if_neg hneg]
    rfl
  simp only [stringLeaves,MuString.canon_length h,hbytes]

theorem stringLeaves_canon (s : MuString) :
    SameOrRefused (stringLeaves (some s)) (stringLeaves (some s.canon)) := by
  by_cases hnonneg : 0 ≤ s.length
  · exact .inl (stringLeaves_canon_of_nonneg hnonneg)
  have hcanon : s.canon = MuString.null := MuString.canon_of_neg hnonneg
  by_cases hnull : s.length = -1
  · refine .inl ?_
    rw [hcanon]
    simp [stringLeaves,hnull,MuString.null]
  refine .inr ⟨[],Status.badEncodingError,lePutU32 (-1 : Int32).toUInt32,?_,?_,by decide⟩
  · have hneg : s.length < 0 := by omega
    simp [stringLeaves,hnull,hneg]
  · rw [hcanon]
    rfl

theorem localizedTextLeaves_canon (text : LocalizedText) :
    localizedTextLeaves (some text.canon) = localizedTextLeaves (some text) := by
  have hsign (s : MuString) : 0 ≤ s.canon.length ↔ 0 ≤ s.length := by
    by_cases h : 0 ≤ s.length
    · rw [MuString.canon_length h]
    · rw [MuString.canon_of_neg h]
      simp [h,MuString.null]
  have hmask : localizedTextMask text.canon = localizedTextMask text := by
    simp only [localizedTextMask,LocalizedText.canon,hsign]
  obtain ⟨hlocale,htext⟩ := localizedTextMask_flags text
  simp only [localizedTextLeaves,hmask]
  congr 2
  · split
    · exact stringLeaves_canon_of_nonneg (hlocale.mp ‹_›)
    · rfl
  · split
    · exact stringLeaves_canon_of_nonneg (htext.mp ‹_›)
    · rfl

theorem scalarValueLeaves_canon (v : type.Carrier) :
    SameOrRefused (scalarValueLeaves type v) (scalarValueLeaves type (type.canon v)) := by
  cases type with
  | string | byteString => exact stringLeaves_canon v
  | qualifiedName => exact (stringLeaves_canon _).cons _
  | localizedText => exact .inl (localizedTextLeaves_canon v)
  | nodeId =>
    obtain ⟨ns,identifier⟩ := v
    cases identifier with
    | string s => exact ((stringLeaves_canon s).cons _).cons _
    | numeric | guid | opaqueId | unknown => exact .inl rfl
  | boolean | sbyte | byte | int16 | uint16 | int32 | uint32 | float | statusCode | int64 | dateTime
  | uint64 | double | null | guid | xmlElement | expandedNodeId | extensionObject | dataValue
  | variant | diagnosticInfo | reserved => exact .inl rfl

theorem length_lt_of_leafBytes {leaf : Leaf} {bs cs : List UInt8}
    (hxs : leafBytes xs = some bs) (hleaf : leaf.bytes ≠ some [])
    (hall : leafBytes (xs ++ leaf :: ys) = some cs) : bs.length < cs.length := by
  rw [leafBytes_append,hxs,leafBytes] at hall
  cases hbytes : leaf.bytes with
  | none => simp [hbytes] at hall
  | some block =>
    obtain ⟨rest,hrest,rfl⟩ := Option.map_eq_some_iff.mp hall
    rw [hbytes] at hrest
    obtain ⟨back,-,rfl⟩ := Option.map_eq_some_iff.mp hrest
    have hpos : 0 < block.length := List.length_pos_iff.mpr fun h => hleaf (by rw [hbytes,h])
    simp only [List.length_append]
    omega

theorem SameOrRefused.length_lt {leaf : Leaf}
    {bs cs : List UInt8} (h : SameOrRefused leaves canonical) (hsplit : leaves = xs ++ leaf :: ys)
    (hxs : leafBytes xs = some bs) (hleaf : leaf.bytes ≠ some [])
    (hcanonical : leafBytes canonical = some cs) : bs.length < cs.length := by
  rcases h with rfl | ⟨front,s,field,hfront,rfl,hfield⟩
  · exact length_lt_of_leafBytes hxs hleaf (hsplit ▸ hcanonical)
  -- the leaf is the refusal, or one in front of it
  rw [hfront] at hsplit
  rcases List.eq_nil_or_concat ys with rfl | ⟨back,last,rfl⟩
  · obtain ⟨rfl,-⟩ := List.append_inj' hsplit rfl
    exact length_lt_of_leafBytes hxs (by simpa [Leaf.bytes] using hfield) hcanonical
  have hsplit' : front ++ [.refusal s] = (xs ++ leaf :: back) ++ [last] := by
    simpa using hsplit
  obtain ⟨rfl,-⟩ := List.append_inj' hsplit' rfl
  rw [List.append_assoc] at hcanonical
  exact length_lt_of_leafBytes hxs hleaf hcanonical

theorem SameOrRefused.eq_of_leafBytes {bs : List UInt8}
    (h : SameOrRefused leaves canonical) (hbs : leafBytes leaves = some bs) :
    canonical = leaves := by
  rcases h with heq | ⟨xs,s,field,rfl,-,-⟩
  · exact heq
  · rw [leafBytes_append] at hbs
    simp [leafBytes,Leaf.bytes] at hbs

/-! ## Complete or too short -/

def KeptBytes (leaves canonical : List Leaf) (bs : List UInt8) : Prop :=
  (∀ cs, leafBytes canonical = some cs → bs.length ≤ cs.length) ∧
    (leafBytes leaves = some bs ∨ ∀ cs, leafBytes canonical = some cs → bs.length < cs.length)

theorem KeptBytes.nil : KeptBytes [] [] [] := ⟨fun _ _ => Nat.zero_le _,.inl rfl⟩

theorem KeptBytes.append {xs' ys' : List Leaf} {bs cs : List UInt8} (hx : KeptBytes xs xs' bs)
    (hy : KeptBytes ys ys' cs) : KeptBytes (xs ++ ys) (xs' ++ ys') (bs ++ cs) := by
  refine ⟨fun ds hds => ?_,?_⟩
  · obtain ⟨front,back,hfront,hback,rfl⟩ := leafBytes_split hds
    have := hx.1 front hfront
    have := hy.1 back hback
    rw [List.length_append,List.length_append]
    omega
  · by_cases hall : leafBytes xs = some bs ∧ leafBytes ys = some cs
    · refine .inl ?_
      rw [leafBytes_append,hall.1,hall.2]
      rfl
    · refine .inr fun ds hds => ?_
      obtain ⟨front,back,hfront,hback,rfl⟩ := leafBytes_split hds
      have hfront' := hx.1 front hfront
      have hback' := hy.1 back hback
      rw [List.length_append,List.length_append]
      rcases hx.2 with hxs | hxs
      · have hys := hy.2.resolve_left fun hys => hall ⟨hxs,hys⟩
        have := hys back hback
        omega
      · have := hxs front hfront
        omega

theorem SameOrRefused.kept {bs : List UInt8}
    (h : SameOrRefused leaves canonical) (hbs : leafBytes leaves = some bs) :
    KeptBytes leaves canonical bs := by
  refine ⟨fun cs hcs => ?_,.inl hbs⟩
  rw [h.eq_of_leafBytes hbs,hbs] at hcs
  cases hcs
  exact Nat.le_refl _

/-! ## Decoders need as many bytes as encoders -/

def Compact (leaves : α → List Leaf) (w : Wire α) : Prop :=
  Consumes w fun bs v => ∃ cs, leafBytes (leaves v) = some cs ∧ cs.length ≤ bs.length

theorem Compact.fixed {width : Nat} {decode : List UInt8 → α} {field : α → List UInt8}
    (h : ∀ v, (field v).length = width) :
    Compact (fun v => [.field (field v)]) (Wire.fixed width decode) := by
  apply Consumes.fixed
  intro src hlen
  refine ⟨field (decode src),by simp [leafBytes,Leaf.bytes],?_⟩
  rw [h,List.length_take]
  omega

theorem Compact.string : Compact (fun s => stringLeaves (some s)) Wire.string :=
  Consumes.string.mono fun bs _ ⟨hs,hshort⟩ => ⟨bs,hs.leafBytes_eq hshort,Nat.le_refl _⟩

theorem Compact.nodeid : Compact (fun node => nodeidLeaves (some node)) Wire.nodeid := by
  refine Consumes.nodeid.mono ?_
  rintro bs node ⟨mask,body,rfl,hbody,hshort⟩
  obtain ⟨cs,hcs,hlen,-⟩ := hbody.reencode hshort
  exact ⟨cs,hcs,by simpa using hlen⟩

theorem Compact.qualifiedName :
    Compact (fun name => qualifiedNameLeaves (some name)) Wire.qualifiedName := by
  refine (Consumes.uint16.bind fun ns => Compact.string.bind_pure (QualifiedName.mk ns)).mono ?_
  rintro bs name ⟨ns,xs,ys,rfl,rfl,s,rfl,cs,hcs,hlen⟩
  refine ⟨lePutU16 ns ++ cs,?_,by simpa using hlen⟩
  simp only [qualifiedNameLeaves,leafBytes,hcs]
  rfl

theorem Consumes.textPart (c : Prop) [Decidable c] :
    Consumes (Wire.when c Wire.string MuString.null) fun bs s =>
      ∃ cs, leafBytes (if 0 ≤ s.length then stringLeaves (some s) else []) = some cs ∧
        cs.length ≤ bs.length := by
  unfold Wire.when
  split
  · refine Compact.string.mono ?_
    rintro bs s ⟨cs,hcs,hlen⟩
    by_cases hs : 0 ≤ s.length
    · rw [if_pos hs]
      exact ⟨cs,hcs,hlen⟩
    · rw [if_neg hs]
      exact ⟨[],rfl,Nat.zero_le _⟩
  · intro src s n hdone
    have hpure : Outcome.done MuString.null 0 = .done s n := hdone
    cases hpure
    exact ⟨Nat.zero_le _,[],rfl,Nat.zero_le _⟩

theorem Compact.localizedText :
    Compact (fun text => localizedTextLeaves (some text)) Wire.localizedText := by
  refine (Consumes.byte.bind fun mask => (Consumes.textPart (mask &&& 0x01 ≠ 0)).bind fun locale =>
    (Consumes.textPart (mask &&& 0x02 ≠ 0)).bind_pure (LocalizedText.mk locale)).mono ?_
  rintro bs text ⟨mask,xs,ys,rfl,rfl,locale,us,vs,rfl,⟨cs,hcs,hclen⟩,s,rfl,ds,hds,hdlen⟩
  obtain ⟨hlocale,htext⟩ := localizedTextMask_flags ⟨locale,s⟩
  refine ⟨localizedTextMask ⟨locale,s⟩ :: (cs ++ ds),?_,?_⟩
  · simp only [localizedTextLeaves,leafBytes,leafBytes_append,hlocale,htext,hcs,hds]
    rfl
  · simp only [List.length_cons,List.length_append]
    omega

theorem Compact.scalarValue : Compact (scalarValueLeaves type) (Wire.scalarValue type) := by
  cases type with
  | boolean | sbyte | byte | int16 | uint16 | int32 | uint32 | float | statusCode | int64 | dateTime
  | uint64 | double => exact Compact.fixed fun _ => rfl
  | string | byteString => exact Compact.string
  | nodeId => exact Compact.nodeid
  | qualifiedName => exact Compact.qualifiedName
  | localizedText => exact Compact.localizedText
  | null | guid | xmlElement | expandedNodeId | extensionObject | dataValue | variant
  | diagnosticInfo | reserved => exact Consumes.refuse _ _

end MucOpcua
