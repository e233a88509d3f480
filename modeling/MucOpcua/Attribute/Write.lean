import MucOpcua.Attribute.IndexRange

/-!
# The Write service

The loop of `handle_write` and `write_value_index_range`. A partial update copies the patch into the
array that was read and passes the result to the write callback.
-/

namespace MucOpcua

variable {ω : Type}

/-! ## Nodes -/

inductive NodeClass where
  | object | variable | method | objectType | variableType | referenceType | dataType | view | other
  deriving DecidableEq

/-- `mu_node_t` as far as Read and Write of values use it. -/
structure AttributeNode (ω : Type) where
  nodeId : NodeId
  nodeClass : NodeClass
  value : Option (ValueSource ω)

def writeAttributeIsValidForNode (nodeClass : NodeClass) (attributeId : UInt32) : Bool :=
  match attributeId.toNat with
  | 1 | 2 | 3 | 4 | 5 | 6 | 7 | 13 => true
  | 14 | 15 => nodeClass = .variable ∨ nodeClass = .variableType
  | 17 | 18 | 19 | 20 => nodeClass = .variable
  | 21 | 22 => nodeClass = .method
  | 12 => nodeClass = .object ∨ nodeClass = .view
  | 8 => nodeClass = .objectType ∨ nodeClass = .variableType ∨ nodeClass = .referenceType ∨
      nodeClass = .dataType
  | 9 | 10 => nodeClass = .referenceType
  | 11 => nodeClass = .view
  | _ => false

/-! ## Requests -/

structure WriteValue where
  nodeId : NodeId
  attributeId : UInt32
  indexRange : MuString
  value : DataValue

/-- What the service takes from the server. `statusCodeTimestamp` is whether a Write may set the
status and the timestamps. -/
structure AttributeConfig (ω : Type) where
  resolveNode : ω → NodeId → Option (AttributeNode ω)
  writeHandler : Option (ω → NodeId → UInt32 → DataValue → StatusCode × ω)
  statusCodeTimestamp : Bool

def attributeIdValue : UInt32 := 13

inductive WriteStep where
  /-- the result is known -/
  | refused (status : BadStatus)
  /-- the callback gets a value -/
  | call (value : DataValue)
  /-- bytes are copied to where no element is -/
  | overrun

/-! ## Partial updates -/

/-- `parse_write_index_range`: the first element and how many there are. -/
def parseWriteIndexRange (indexRange : MuString) (length : Int) : Option (Int32 × Int32) := do
  let (first, rest) ← parseDecimalRun indexRange.bytes
  let (last, rest) ← match rest with
    | 58 :: rest => parseDecimalRun rest -- a colon
    | rest => some (-1, rest)
  if rest ≠ [] ∨ (last ≠ -1 ∧ last ≤ first) ∨ length ≤ first.toInt then none
  else if last = -1 then some (first, 1)
  else if length ≤ last.toInt then none
  else some (first, last - first + 1)

/-- Whether `write_index_range_elem_size` knows the type; the types are those of
`variant_elem_size`. -/
def writeIndexRangeElemSizeKnown (type : BuiltinType) : Bool := variantElemSizeKnown type

/-- The two `memcpy` of `write_value_index_range`. -/
def mergeElements {α : Type} (current patch : List α) (first count : Int) : Option (List α) :=
  if 0 ≤ first ∧ 0 ≤ count ∧ first + count ≤ current.length then
    some (Buffer.overwrite current first.toNat patch)
  else none

/-- The part of `write_value_index_range` behind its checks of the value that was read. -/
def mergeRange (indexRange : MuString) (type : BuiltinType) (length : Int)
    (elements : Option { es : List type.Carrier // es.length = length.toNat }) (ext : UInt32)
    (value : DataValue) (patch : Variant) : WriteStep :=
  match patch with
  | ⟨_, .scalar _, _⟩ => .refused Status.badTypeMismatch
  | ⟨patchType, .array patchLength patchElements, _⟩ =>
    match parseWriteIndexRange indexRange length with
    | none => .refused Status.badIndexRangeInvalid
    | some (first, count) =>
      if h : patchType = type then
        if patchLength ≠ count.toInt then .refused Status.badIndexRangeDataMismatch
        else if writeIndexRangeElemSizeKnown type = false then .refused Status.badWriteNotSupported
        else
          match elements, patchElements with
          | some elements, some patchElements =>
            match mergeElements elements.val (h ▸ patchElements.val) first.toInt count.toInt with
            | some merged =>
              .call { value with value := some (arrayVariant type merged ext) }
            | none => .overrun
          | _, _ => .overrun
      else .refused Status.badTypeMismatch

/-- `write_value_index_range` up to the callback. -/
def writeValueIndexRange (node : AttributeNode ω) (w : WriteValue) (patch : Variant) (world : ω) :
    WriteStep × ω :=
  match node.value with
  | none => (.refused Status.badWriteNotSupported, world)
  | some source =>
    let ((status, current), world) := valueSourceRead source world node.nodeId
    if h : status ≠ Status.good then (.refused ⟨status, h⟩, world)
    else
      match current with
      | ⟨_, .scalar _, _⟩ => (.refused Status.badWriteNotSupported, world)
      | ⟨type, .array length elements, ext⟩ =>
        if length ≤ 0 then (.refused Status.badWriteNotSupported, world)
        else (mergeRange w.indexRange type length elements ext w.value patch, world)

/-! ## The loop -/

def writeStep (cfg : AttributeConfig ω) (w : WriteValue) (world : ω) : WriteStep × ω :=
  if w.nodeId = numericNodeId 0 then (.refused Status.badNodeIdInvalid, world)
  else
    match cfg.resolveNode world w.nodeId with
    | none => (.refused Status.badNodeIdUnknown, world)
    | some node =>
      if writeAttributeIsValidForNode node.nodeClass w.attributeId = false then
        (.refused Status.badAttributeIdInvalid, world)
      else if w.attributeId ≠ attributeIdValue then (.refused Status.badNotWritable, world)
      else if cfg.statusCodeTimestamp = false ∧ (w.value.status.isSome ∨
          w.value.sourceTimestamp.isSome ∨ w.value.sourcePicoseconds.isSome ∨
          w.value.serverTimestamp.isSome ∨ w.value.serverPicoseconds.isSome) then
        (.refused Status.badWriteNotSupported, world)
      else
        match w.value.value with
        | none => (.refused Status.badTypeMismatch, world)
        | some value =>
          if node.nodeClass ≠ .variable then (.refused Status.badNotWritable, world)
          else if 0 < w.indexRange.length then writeValueIndexRange node w value world
          else
            match node.value with
            | none => (.call w.value, world)
            | some source =>
              let ((status, current), world) := valueSourceRead source world node.nodeId
              if status = Status.good ∧ current.type ≠ value.type then
                (.refused Status.badTypeMismatch, world)
              else (.call w.value, world)

/-- What one round of the loop leaves: the result, and the values the callback got. -/
structure Written (ω : Type) where
  status : StatusCode
  calls : List DataValue
  world : ω

/-- One round of the loop of `handle_write`; there is no outcome if bytes are copied to where no
element is. -/
def writeOne (cfg : AttributeConfig ω) (w : WriteValue) (world : ω) : Option (Written ω) :=
  match writeStep cfg w world with
  | (.refused status, world) => some ⟨status.val, [], world⟩
  | (.overrun, _) => none
  | (.call value, world) =>
    match cfg.writeHandler with
    | none => some ⟨Status.badWriteNotSupported.val, [], world⟩
    | some handler =>
      let (status, world) := handler world w.nodeId w.attributeId value
      some ⟨status, [value], world⟩

/-! ## The law of partial updates -/

/-- The elements a range text selects of an array, over numbers of any size. -/
def SelectsElements (text : List UInt8) (length first count : Nat) : Prop :=
  (Decimal.Denotes rangeSeparator text first none ∧ first < length ∧ count = 1) ∨
    ∃ last, Decimal.Denotes rangeSeparator text first (some last) ∧ first < last ∧ last < length ∧
      count = last - first + 1

/-- The merged array is the patch in its range, and the current array elsewhere. -/
def IsPatched {α : Type} (current patch : List α) (first : Nat) (merged : List α) : Prop :=
  merged.length = current.length ∧
    ∀ i, merged[i]? = if first ≤ i ∧ i < first + patch.length then patch[i - first]? else current[i]?

/-- A Write with an IndexRange of the value of a variable that holds an array. The count of an
array is an int32, and its elements are there. -/
structure RangeWrite (ω : Type) where
  cfg : AttributeConfig ω
  w : WriteValue
  world : ω
  /-- the world after the array was read -/
  after : ω
  handler : ω → NodeId → UInt32 → DataValue → StatusCode × ω
  node : AttributeNode ω
  source : ValueSource ω
  type : BuiltinType
  elements : List type.Carrier
  ext : UInt32
  patch : Variant
  nodeId_ne : w.nodeId ≠ numericNodeId 0
  resolves : cfg.resolveNode world w.nodeId = some node
  isVariable : node.nodeClass = .variable
  isValue : w.attributeId = attributeIdValue
  plain : cfg.statusCodeTimestamp = false → w.value.status = none ∧ w.value.sourceTimestamp = none ∧
    w.value.sourcePicoseconds = none ∧ w.value.serverTimestamp = none ∧
    w.value.serverPicoseconds = none
  hasPatch : w.value.value = some patch
  given : 0 < w.indexRange.length
  hasSource : node.value = some source
  reads : valueSourceRead source world node.nodeId =
    ((Status.good, arrayVariant type elements ext), after)
  handles : cfg.writeHandler = some handler
  sized : elements.length < 2 ^ 31
  backed : ∀ length, patch.value = .array length none → length ≤ 0

namespace RangeWrite

variable (u : RangeWrite ω)

def called (merged : List u.type.Carrier) : Written ω :=
  let value := { u.w.value with value := some (arrayVariant u.type merged u.ext) }
  let (status, world) := u.handler u.after u.w.nodeId u.w.attributeId value
  ⟨status, [value], world⟩

structure Lawful (written : Option (Written ω)) : Prop where
  /-- a range within the array is patched by as many elements of its type -/
  accepted : ∀ first patched ext, u.patch = arrayVariant u.type patched ext →
    SelectsElements u.w.indexRange.bytes u.elements.length first patched.length →
    ∃ merged, IsPatched u.elements patched first merged ∧ written = some (u.called merged)
  /-- otherwise the callback is not called -/
  rejected : (∀ first patched ext, u.patch = arrayVariant u.type patched ext →
      ¬ SelectsElements u.w.indexRange.bytes u.elements.length first patched.length) →
    ∃ status : BadStatus, written = some ⟨status.val, [], u.after⟩

end RangeWrite

/-! ## What the code reads -/

/-- The start and the end of a range lie within an array as the parser checks it. -/
def InRange (first : Int) (last : Option Int) (length : Nat) : Prop :=
  first < length ∧ ∀ l ∈ last, first < l ∧ l < length

instance (first : Int) (last : Option Int) (length : Nat) :
    Decidable (InRange first last length) := by
  unfold InRange
  infer_instance

def countRead (first : Nat) (last : Option Nat) : Int32 :=
  match last with
  | none => 1
  | some last => if Int32.ofNat last = -1 then 1 else Int32.ofNat last - Int32.ofNat first + 1

def countSelected (first : Nat) (last : Option Nat) : Nat := (last.map (· - first + 1)).getD 1

/-- The start and the count of the two numbers of a range. -/
def rangeCount (length : Nat) (first last : Int32) : Option (Int32 × Int32) :=
  if (length : Int) ≤ first.toInt then none
  else if last = -1 then some (first, 1)
  else if (length : Int) ≤ last.toInt then none
  else some (first, last - first + 1)

/-- What both parsers read behind the first number. -/
def rangeTail (rest : List UInt8) : Option (Int32 × List UInt8) :=
  match rest with
  | 58 :: rest => parseDecimalRun rest -- a colon
  | rest => some (-1, rest)

theorem rangeTail_of_not_colon {rest : List UInt8} (h : ∀ behind, rest = 58 :: behind → False) :
    rangeTail rest = some (-1, rest) := by
  unfold rangeTail
  split
  · exact (h _ rfl).elim
  · rfl

theorem parseWriteIndexRange_eq (indexRange : MuString) (length : Nat) :
    parseWriteIndexRange indexRange length =
      (Decimal.range? rangeSeparator indexRange.bytes).bind fun (first, last) =>
        if InRange (int32 first) (int32End last) length then
          some (Int32.ofNat first, countRead first last)
        else none := by
  have hparse : parseWriteIndexRange indexRange length =
      (parseNumericRange indexRange).bind fun range => rangeCount length range.1 range.2 := by
    have htail (first last : Int32) (rest : List UInt8) :
        (if rest ≠ [] ∨ (last ≠ -1 ∧ last ≤ first) ∨ (length : Int) ≤ first.toInt then none
          else if last = -1 then some (first, 1)
          else if (length : Int) ≤ last.toInt then none
          else some (first, last - first + 1)) =
        (if rest ≠ [] then none
          else if last ≠ -1 ∧ last ≤ first then none
          else some (first, last)).bind fun range => rangeCount length range.1 range.2 := by
      by_cases hrest : rest ≠ []
      · rw [if_pos (Or.inl hrest),if_pos hrest]
        rfl
      rw [if_neg hrest]
      by_cases horder : last ≠ -1 ∧ last ≤ first
      · rw [if_pos (Or.inr (Or.inl horder)),if_pos horder]
        rfl
      · simp only [hrest,horder,false_or,if_false,Option.bind_some,rangeCount]
    have hwrite : parseWriteIndexRange indexRange length =
        (parseDecimalRun indexRange.bytes).bind fun (first, rest) =>
          (rangeTail rest).bind fun (last, rest) =>
            if rest ≠ [] ∨ (last ≠ -1 ∧ last ≤ first) ∨ (length : Int) ≤ first.toInt then none
            else if last = -1 then some (first, 1)
            else if (length : Int) ≤ last.toInt then none
            else some (first, last - first + 1) := by
      unfold parseWriteIndexRange
      simp only [Option.bind_eq_bind]
      congr 1
      funext range
      obtain ⟨first,rest⟩ := range
      dsimp only
      split
      · rfl
      · next hother =>
        rw [rangeTail_of_not_colon hother]
    have hread : parseNumericRange indexRange =
        (parseDecimalRun indexRange.bytes).bind fun (first, rest) =>
          (rangeTail rest).bind fun (last, rest) =>
            if rest ≠ [] then none
            else if last ≠ -1 ∧ last ≤ first then none
            else some (first, last) := by
      unfold parseNumericRange
      simp only [Option.bind_eq_bind]
      congr 1
      funext range
      obtain ⟨first,rest⟩ := range
      dsimp only
      split
      · rfl
      · next hother =>
        rw [rangeTail_of_not_colon hother]
    rw [hwrite,hread,Option.bind_assoc]
    congr 1
    funext range
    obtain ⟨first,rest⟩ := range
    dsimp only
    rw [Option.bind_assoc]
    congr 1
    funext range
    obtain ⟨last,rest⟩ := range
    exact htail first last rest
  rw [hparse,parseNumericRange_eq,Option.bind_assoc]
  congr 1
  funext range
  obtain ⟨first,last⟩ := range
  dsimp only
  by_cases horder : ∃ l ∈ int32End last, l ≤ int32 first
  · obtain ⟨l,hl,hle⟩ := horder
    rw [if_pos ⟨l,hl,hle⟩,if_neg fun h => absurd (h.2 l hl).1 (by omega)]
    rfl
  rw [if_neg horder,Option.bind_some,rangeCount]
  by_cases hlength : (length : Int) ≤ (Int32.ofNat first).toInt
  · rw [if_pos hlength,if_neg fun h => absurd h.1 (by unfold int32; omega)]
  rw [if_neg hlength]
  have hfirst : int32 first < length := Int.not_le.mp hlength
  cases last with
  | none =>
    have hin : InRange (int32 first) (int32End none) length := ⟨hfirst,by rintro _ ⟨⟩⟩
    rw [if_pos hin]
    rfl
  | some last =>
    simp only [Option.map_some,Option.getD_some,countRead]
    by_cases hone : Int32.ofNat last = -1
    · have hnone : int32End (some last) = none := if_pos hone
      rw [hnone,if_pos hone,if_pos hone,if_pos ⟨hfirst,by rintro _ ⟨⟩⟩]
    have hsome : int32End (some last) = some (Int32.ofNat last).toInt := if_neg hone
    rw [hsome] at horder ⊢
    rw [if_neg hone,if_neg hone]
    by_cases hlast : (length : Int) ≤ (Int32.ofNat last).toInt
    · rw [if_pos hlast,if_neg fun h => absurd (h.2 _ rfl).2 (by omega)]
    have hin : InRange (int32 first) (some (Int32.ofNat last).toInt) length := by
      refine ⟨hfirst,?_⟩
      rintro l ⟨⟩
      exact ⟨Int.not_le.mp fun hle => horder ⟨_,rfl,hle⟩,Int.not_le.mp hlast⟩
    rw [if_neg hlast,if_pos hin]

/-! ## What the code merges -/

def Fits (type : BuiltinType) (count : Int) (patch : Variant) : Prop :=
  patch.type = type ∧ ∃ length elements, patch.value = .array length elements ∧ length = count

section Merge

variable {indexRange : MuString} {type : BuiltinType} {elements : List type.Carrier}
  {patch : Variant} {first : Nat} {last : Option Nat} (ext : UInt32) (value : DataValue)

/-- `mergeRange` on an array whose elements are there. -/
abbrev mergeArray (indexRange : MuString) (type : BuiltinType) (elements : List type.Carrier)
    (ext : UInt32) (value : DataValue) (patch : Variant) : WriteStep :=
  mergeRange indexRange type elements.length (some ⟨elements, sized_elements type elements⟩) ext value
    patch

theorem mergeArray_refused
    (h : ∀ first last, Decimal.range? rangeSeparator indexRange.bytes = some (first, last) →
      writeIndexRangeElemSizeKnown type = true →
      InRange (int32 first) (int32End last) elements.length →
      ¬ Fits type (countRead first last).toInt patch) :
    ∃ status, mergeArray indexRange type elements ext value patch = .refused status := by
  obtain ⟨patchType,patchValue,patchExt⟩ := patch
  unfold mergeArray mergeRange
  cases patchValue with
  | scalar => exact ⟨_,rfl⟩
  | array patchLength patchElements =>
    rw [parseWriteIndexRange_eq]
    cases hrange : Decimal.range? rangeSeparator indexRange.bytes with
    | none => exact ⟨_,rfl⟩
    | some range =>
      obtain ⟨first,last⟩ := range
      rw [Option.bind_some]
      dsimp only
      by_cases hin : InRange (int32 first) (int32End last) elements.length
      · rw [if_pos hin]
        dsimp only
        split
        · next htype =>
          split
          · exact ⟨_,rfl⟩
          rename_i hcount
          split
          · exact ⟨_,rfl⟩
          rename_i hknown
          exact absurd ⟨htype,patchLength,patchElements,rfl,not_not.mp hcount⟩
            (h first last hrange (by simpa using hknown) hin)
        · exact ⟨_,rfl⟩
      · rw [if_neg hin]
        exact ⟨_,rfl⟩

theorem mergeArray_call {patched : List type.Carrier} {patchExt : UInt32}
    (hrange : Decimal.range? rangeSeparator indexRange.bytes = some (first, last))
    (hknown : writeIndexRangeElemSizeKnown type = true)
    (hin : InRange (int32 first) (int32End last) elements.length)
    (hcount : (patched.length : Int) = (countRead first last).toInt)
    (hfirst : int32 first = first) (hfit : first + patched.length ≤ elements.length) :
    mergeArray indexRange type elements ext value (arrayVariant type patched patchExt) =
      .call { value with
        value := some (arrayVariant type (Buffer.overwrite elements first patched) ext) } := by
  unfold mergeArray mergeRange arrayVariant
  rw [parseWriteIndexRange_eq,hrange,Option.bind_some]
  dsimp only
  rw [if_pos hin]
  dsimp only
  rw [dif_pos rfl,if_neg (not_not.mpr hcount),if_neg (by simp [hknown])]
  have hmerge : mergeElements elements patched (int32 first) (countRead first last).toInt =
      some (Buffer.overwrite elements first patched) := by
    unfold mergeElements
    rw [if_pos (by omega),hfirst,Int.toNat_natCast]
  show (match mergeElements elements patched (int32 first) (countRead first last).toInt with
    | some merged => WriteStep.call { value with value := some (arrayVariant type merged ext) }
    | none => .overrun) = _
  rw [hmerge]
  rfl

end Merge

theorem isPatched_overwrite {α : Type} {current patch : List α} {first : Nat}
    (h : first + patch.length ≤ current.length) :
    IsPatched current patch first (Buffer.overwrite current first patch) := by
  refine ⟨Buffer.length_overwrite _ _ _,fun i => ?_⟩
  rw [Buffer.getElem?_overwrite]
  by_cases hin : first ≤ i ∧ i < first + patch.length
  · rw [if_pos hin,List.getElem?_eq_getElem (show i < current.length by omega),Option.map_some,
      if_neg (by omega),List.getD_eq_getElem?_getD,
      List.getElem?_eq_getElem (show i - first < patch.length by omega),Option.getD_some]
  rw [if_neg hin]
  by_cases hlow : i < first
  · simp [hlow]
  · have houtside (b : α) : patch.getD (i - first) b = b := List.getD_eq_default _ _ (by omega)
    simp only [hlow,houtside,if_false,Option.map_id']

/-! ## Numbers within the array -/

theorem inRange_read {first : Nat} {last : Option Nat} {length : Nat} (hlength : length < 2 ^ 31)
    (h : InRange first (last.map Int.ofNat) length) :
    int32 first = first ∧ int32End last = last.map Int.ofNat ∧
      (countRead first last).toInt = countSelected first last := by
  obtain ⟨hfirst,hlast⟩ := h
  have hread : int32 first = first := int32_of_lt (by omega)
  refine ⟨hread,?_⟩
  cases last with
  | none => exact ⟨rfl,rfl⟩
  | some last =>
    obtain ⟨horder,hend⟩ := hlast last rfl
    have hsmall : last < 2 ^ 31 := by omega
    refine ⟨int32End_of_lt fun n hn => Option.some.inj hn ▸ hsmall,?_⟩
    show (if Int32.ofNat last = -1 then (1 : Int32) else _).toInt = _
    rw [if_neg (ofNat_ne_neg_one hsmall)]
    have hcount : Int32.ofNat last - Int32.ofNat first + 1 = Int32.ofNat (last - first + 1) := by
      obtain ⟨k,rfl⟩ : ∃ k, last = k + first := ⟨last - first,by omega⟩
      rw [Nat.add_sub_cancel,Int32.ofNat_add,Int32.ofNat_add,Int32.add_sub_cancel]
      rfl
    rw [hcount]
    exact int32_of_lt (by omega)

theorem selectsElements_iff {text : List UInt8} {length first count : Nat} :
    SelectsElements text length first count ↔
      ∃ last, Decimal.range? rangeSeparator text = some (first, last) ∧
        InRange first (last.map Int.ofNat) length ∧ count = countSelected first last := by
  unfold SelectsElements
  simp only [denotes_iff_range?]
  constructor
  · rintro (⟨hrange,hlt,rfl⟩ | ⟨last,hrange,horder,hlt,rfl⟩)
    · exact ⟨none,hrange,⟨by omega,fun _ h => nomatch h⟩,rfl⟩
    · refine ⟨some last,hrange,⟨by omega,?_⟩,rfl⟩
      rintro l ⟨⟩
      exact ⟨Int.ofNat_lt.mpr horder,Int.ofNat_lt.mpr hlt⟩
  · rintro ⟨last,hrange,⟨hlt,hlast⟩,hcount⟩
    cases last with
    | none => exact .inl ⟨hrange,by omega,hcount⟩
    | some last =>
      obtain ⟨horder,hend⟩ := hlast last rfl
      exact .inr ⟨last,hrange,by omega,by omega,hcount⟩

/-! ## Where the code keeps to the law -/

namespace RangeWrite

variable (u : RangeWrite ω)

/-- The numbers of the range fit a 32-bit integer. -/
def SmallNumbers : Prop :=
  ∀ first last, Decimal.Denotes rangeSeparator u.w.indexRange.bytes first last →
    first < 2 ^ 31 ∧ ∀ n ∈ last, n < 2 ^ 31

/-- Where elements are to be patched, their type has a known size. -/
def SizeKnown : Prop :=
  ∀ first patched ext, u.patch = arrayVariant u.type patched ext →
    SelectsElements u.w.indexRange.bytes u.elements.length first patched.length →
    writeIndexRangeElemSizeKnown u.type = true

theorem writeStep_eq :
    writeStep u.cfg u.w u.world = writeValueIndexRange u.node u.w u.patch u.world := by
  unfold writeStep
  rw [if_neg u.nodeId_ne,u.resolves]
  dsimp only
  rw [u.isVariable,u.isValue,if_neg (by decide),if_neg (not_not.mpr rfl),u.hasPatch]
  have hplain : ¬ (u.cfg.statusCodeTimestamp = false ∧ (u.w.value.status.isSome ∨
      u.w.value.sourceTimestamp.isSome ∨ u.w.value.sourcePicoseconds.isSome ∨
      u.w.value.serverTimestamp.isSome ∨ u.w.value.serverPicoseconds.isSome)) := by
    rintro ⟨hflag,hset⟩
    obtain ⟨h₁,h₂,h₃,h₄,h₅⟩ := u.plain hflag
    simp [h₁,h₂,h₃,h₄,h₅] at hset
  rw [if_neg hplain]
  dsimp only
  rw [if_neg (not_not.mpr rfl),if_pos u.given]

theorem writeOne_eq (hne : u.elements ≠ []) :
    writeOne u.cfg u.w u.world =
      match mergeArray u.w.indexRange u.type u.elements u.ext u.w.value u.patch with
      | .refused status => some ⟨status.val, [], u.after⟩
      | .overrun => none
      | .call value =>
        some ⟨(u.handler u.after u.w.nodeId u.w.attributeId value).1, [value],
          (u.handler u.after u.w.nodeId u.w.attributeId value).2⟩ := by
  have hlength : ¬ (u.elements.length : Int) ≤ 0 := by
    have := List.length_pos_iff.mpr hne
    omega
  have hrange : writeValueIndexRange u.node u.w u.patch u.world =
      (mergeArray u.w.indexRange u.type u.elements u.ext u.w.value u.patch, u.after) := by
    unfold writeValueIndexRange
    rw [u.hasSource]
    dsimp only
    rw [u.reads]
    exact if_neg hlength
  unfold writeOne
  rw [u.writeStep_eq,hrange,u.handles]
  cases mergeArray u.w.indexRange u.type u.elements u.ext u.w.value u.patch <;> rfl

theorem writeOne_empty (hempty : u.elements = []) :
    writeOne u.cfg u.w u.world = some ⟨Status.badWriteNotSupported.val, [], u.after⟩ := by
  have hlength : (u.elements.length : Int) ≤ 0 := by simp [hempty]
  have hrange : writeValueIndexRange u.node u.w u.patch u.world =
      (.refused Status.badWriteNotSupported, u.after) := by
    unfold writeValueIndexRange
    rw [u.hasSource]
    dsimp only
    rw [u.reads]
    exact if_pos hlength
  unfold writeOne
  rw [u.writeStep_eq,hrange]

theorem fits_array {n : Nat} (hfits : Fits u.type n u.patch) (hpos : 0 < n) :
    ∃ patched ext, u.patch = arrayVariant u.type patched ext ∧ patched.length = n := by
  have hbacked := u.backed
  revert hfits hbacked
  generalize u.type = type
  generalize u.patch = patch
  obtain ⟨patchType,patchValue,ext⟩ := patch
  rintro ⟨rfl,length,elements,hvalue,rfl⟩ hbacked
  cases elements with
  | none => exact absurd (hbacked _ hvalue) (by omega)
  | some elements =>
    obtain ⟨elements,hlength⟩ := elements
    rw [Int.toNat_natCast] at hlength
    subst hlength
    refine ⟨elements,ext,?_,rfl⟩
    rw [show patchValue = _ from hvalue]
    rfl

theorem countSelected_pos (first : Nat) (last : Option Nat) : 0 < countSelected first last := by
  cases last with
  | none => exact Nat.one_pos
  | some last => exact Nat.succ_pos _

end RangeWrite

/-- A Write of the byte 7 with a range, where the array `[0]` is read and every value is taken. -/
def Sample.rangeWrite (indexRange : MuString) (given : 0 < indexRange.length) : RangeWrite Unit where
  cfg := {
    resolveNode := fun _ _ => some ⟨⟨1, .numeric 1⟩, .variable,
      some (.callback
        (some fun world _ => ((Status.good, arrayVariant .byte [(0 : UInt8)] 0), world)))⟩
    writeHandler := some fun world _ _ _ => (Status.good, world)
    statusCodeTimestamp := false }
  w := ⟨⟨1, .numeric 1⟩, attributeIdValue, indexRange,
    ⟨some (arrayVariant .byte [(7 : UInt8)] 0), none, none, none, none, none⟩⟩
  world := ()
  after := ()
  handler := fun world _ _ _ => (Status.good, world)
  node := ⟨⟨1, .numeric 1⟩, .variable,
    some (.callback (some fun world _ => ((Status.good, arrayVariant .byte [(0 : UInt8)] 0), world)))⟩
  source := .callback (some fun world _ => ((Status.good, arrayVariant .byte [(0 : UInt8)] 0), world))
  type := .byte
  elements := [(0 : UInt8)]
  ext := 0
  patch := arrayVariant .byte [(7 : UInt8)] 0
  nodeId_ne := nofun
  resolves := rfl
  isVariable := rfl
  isValue := rfl
  plain := fun _ => ⟨rfl, rfl, rfl, rfl, rfl⟩
  hasPatch := rfl
  given := given
  hasSource := rfl
  reads := rfl
  handles := rfl
  sized := by decide
  backed := fun _ h => nomatch h

theorem Sample.rangeWrite_refuses {indexRange : MuString} {given : 0 < indexRange.length} {n : Nat}
    {written : Option (Written Unit)}
    (hrange : Decimal.range? rangeSeparator indexRange.bytes = some (n, none)) (hn : 1 ≤ n)
    (h : (Sample.rangeWrite indexRange given).Lawful written) :
    written.map (fun written => written.calls.length) = some 0 := by
  obtain ⟨status,hwritten⟩ := h.rejected fun first patched ext _ hselects => by
    obtain ⟨last,hrange',⟨hin,-⟩,-⟩ := selectsElements_iff.mp hselects
    replace hrange' : Decimal.range? rangeSeparator indexRange.bytes = some (first, last) := hrange'
    replace hin : (first : Int) < 1 := hin
    rw [hrange] at hrange'
    cases hrange'
    omega
  rw [hwritten]
  rfl

end MucOpcua
