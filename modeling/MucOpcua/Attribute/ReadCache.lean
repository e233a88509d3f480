import MucOpcua.Attribute.Write
import MucOpcua.Lib.Binary64Arith

/-!
# The Read service and its cache

`mu_read_cache_lookup`, `mu_read_cache_store` and the loop of `mu_read_process_with_user_index`.
-/

namespace MucOpcua

variable {ω : Type}
variable {maxAge : UInt64} {now : Int64}

/-! ## The cache -/

/-- A NodeId as it reads while `memory` is in the receive buffer: the bytes of a String are not
copied, they are at a place of the buffer. -/
def nodeIdIn (memory : List UInt8) (place : Nat) (nodeId : NodeId) : NodeId :=
  match nodeId.identifier with
  | .string s =>
    if 0 < s.length then
      ⟨nodeId.namespaceIndex, .string (.ofBytes ((memory.drop place).take s.length.toNat))⟩
    else nodeId
  | _ => nodeId

/-- `nodeId` as it was when it was stored. -/
structure ReadCacheEntry where
  nodeId : NodeId
  place : Nat
  variant : Variant
  readTime : Int64

/-- `mu_read_cache_t`; `MU_READ_CACHE_SLOTS` is 1, and the entry is there if it is valid. -/
structure ReadCache where
  entry : Option ReadCacheEntry
  hits : Nat
  misses : Nat

def maxAgeAlwaysCacheMs : Nat := 2147483647

/-- Whether a maxAge is at least `MU_MAXAGE_ALWAYS_CACHE_MS`. -/
def alwaysCache (maxAge : UInt64) : Bool :=
  Binary64.isNaN maxAge = false ∧ (maxAgeAlwaysCacheMs * Binary64.unit : Nat) ≤ Binary64.units maxAge

def maxAgeTicks (maxAge : UInt64) : Int64 :=
  if alwaysCache maxAge then 0
  else Int64.ofNat (Binary64.magnitude maxAge / Binary64.unit) * 10000

def readCacheLookup (cache : ReadCache) (memory : List UInt8) (nodeId : NodeId) (maxAge : UInt64)
    (now : Int64) : Option Variant × ReadCache :=
  let miss := (none, { cache with misses := cache.misses + 1 })
  if Binary64.lt 0 maxAge = false then miss
  else
    match cache.entry with
    | none => miss
    | some entry =>
      if nodeidEqual nodeId (nodeIdIn memory entry.place entry.nodeId) then
        let ageTicks := now - entry.readTime
        -- a clock that was set back counts as no time
        if ageTicks < 0 ∨ alwaysCache maxAge ∨ ageTicks ≤ maxAgeTicks maxAge then
          (some entry.variant, { cache with hits := cache.hits + 1 })
        else miss
      else miss

def readCacheStore (cache : ReadCache) (nodeId : NodeId) (place : Nat) (value : Variant)
    (readTime : Int64) : ReadCache :=
  { cache with entry := some ⟨nodeId, place, value, readTime⟩ }

/-! ## Read -/

/-- `mu_read_value_id_t`; data encodings are not looked at. `place` is where the bytes of a String
NodeId lie in the receive buffer. -/
structure ReadValueId where
  nodeId : NodeId
  place : Nat
  attributeId : UInt32
  indexRange : MuString

inductive ValueEvent where
  /-- the source of a node returned a value -/
  | sourced (nodeId : NodeId) (value : Variant) (time : Int64)
  /-- a Write to the node was Good -/
  | written (nodeId : NodeId)
  /-- Read returned a value -/
  | returned (read : ReadValueId) (maxAge : UInt64) (now : Int64) (value : Variant)

structure AttributeState (ω : Type) where
  world : ω
  cache : ReadCache
  history : List ValueEvent

def AttributeState.log (s : AttributeState ω) (event : ValueEvent) : AttributeState ω :=
  { s with history := s.history ++ [event] }

/-- `read_attribute` is given for the attributes other than the value. -/
structure ReadConfig (ω : Type) extends AttributeConfig ω where
  readAttribute : AttributeNode ω → UInt32 → StatusCode × Variant

def readValue (memory : List UInt8) (maxAge : UInt64) (now : Int64) (read : ReadValueId)
    (node : AttributeNode ω) (s : AttributeState ω) : (StatusCode × Variant) × AttributeState ω :=
  if node.nodeClass ≠ .variable then ((Status.badAttributeIdInvalid.val, Variant.zero), s)
  else
    match node.value with
    | none => ((Status.badNotReadable.val, Variant.zero), s)
    | some source =>
      match readCacheLookup s.cache memory read.nodeId maxAge now with
      | (some value, cache) => ((Status.good, value), { s with cache })
      | (none, cache) =>
        let ((status, value), world) := valueSourceRead source s.world node.nodeId
        if status = Status.good then
          ((status, value),
            { s with world, cache := readCacheStore cache read.nodeId read.place value now }.log
              (.sourced read.nodeId value now))
        else ((status, value), { s with world, cache })

def readResult (timestampsToReturn : UInt32) (now : Int64) (status : StatusCode) (value : Variant) :
    DataValue :=
  if status = Status.good then
    { value := some value, status := none
      -- Source, Server and Both are 0, 1 and 2
      sourceTimestamp := if timestampsToReturn = 0 ∨ timestampsToReturn = 2 then some now else none
      sourcePicoseconds := none
      serverTimestamp := if timestampsToReturn = 1 ∨ timestampsToReturn = 2 then some now else none
      serverPicoseconds := none }
  else ⟨none, some status, none, none, none, none⟩

def readOne (cfg : ReadConfig ω) (memory : List UInt8) (timestampsToReturn : UInt32)
    (maxAge : UInt64) (now : Int64) (read : ReadValueId) (s : AttributeState ω) :
    DataValue × AttributeState ω :=
  let bad (status : BadStatus) := (⟨none, some status.val, none, none, none, none⟩, s)
  if read.nodeId = numericNodeId 0 then bad Status.badNodeIdInvalid
  else
    match cfg.resolveNode s.world read.nodeId with
    | none => bad Status.badNodeIdUnknown
    | some node =>
      let ((status, value), s) :=
        if read.attributeId = attributeIdValue then readValue memory maxAge now read node s
        else (cfg.readAttribute node read.attributeId, s)
      let (status, value) :=
        if status = Status.good then applyReadIndexRange read.indexRange value else (status, value)
      (readResult timestampsToReturn now status value,
        if status = Status.good ∧ read.attributeId = attributeIdValue then
          s.log (.returned read maxAge now value)
        else s)

def readAll (cfg : ReadConfig ω) (memory : List UInt8) (timestampsToReturn : UInt32)
    (maxAge : UInt64) (now : Int64) : List ReadValueId → AttributeState ω →
    List DataValue × AttributeState ω
  | [], s => ([], s)
  | read :: reads, s =>
    let (result, s) := readOne cfg memory timestampsToReturn maxAge now read s
    let (results, s) := readAll cfg memory timestampsToReturn maxAge now reads s
    (result :: results, s)

/-- `mu_read_process_with_user_index`, for as many nodes as the decoder takes. -/
def readProcess (cfg : ReadConfig ω) (memory : List UInt8) (timestampsToReturn : UInt32)
    (maxAge : UInt64) (now : Int64) (reads : List ReadValueId) (s : AttributeState ω) :
    Except BadStatus (List DataValue) × AttributeState ω :=
  if 3 < timestampsToReturn then (.error Status.badTimestampsToReturnInvalid, s)
  else
    let (results, s) := readAll cfg memory timestampsToReturn maxAge now reads s
    (.ok results, s)

/-! ## Write -/

/-- The loop of `handle_write` over what it leaves. -/
def writeAll (cfg : ReadConfig ω) : List WriteValue → AttributeState ω → Option (AttributeState ω)
  | [], s => some s
  | w :: ws, s =>
    match writeOne cfg.toAttributeConfig w s.world with
    | none => none
    | some written =>
      let s := { s with world := written.world }
      writeAll cfg ws (if written.status = Status.good then s.log (.written w.nodeId) else s)

/-! ## Runs -/

inductive AttributeInput (ω : Type) where
  /-- `memory` is in the receive buffer, and what is read was decoded from it -/
  | read (memory : List UInt8) (timestampsToReturn : UInt32) (maxAge : UInt64) (now : Int64)
    (reads : List ReadValueId)
    (decoded : ∀ read ∈ reads, nodeIdIn memory read.place read.nodeId = read.nodeId)
  | write (ws : List WriteValue)
  /-- the values change by themselves -/
  | environment (world : ω)

def AttributeState.step (cfg : ReadConfig ω) (s : AttributeState ω) :
    AttributeInput ω → Option (AttributeState ω)
  | .read memory timestampsToReturn maxAge now reads _ =>
    some (readProcess cfg memory timestampsToReturn maxAge now reads s).2
  | .write ws => writeAll cfg ws s
  | .environment world => some { s with world }

def AttributeState.start (world : ω) : AttributeState ω := ⟨world, ⟨none, 0, 0⟩, []⟩

/-! ## Soundness -/

def SameNode (a b : NodeId) : Prop := a = b ∨ nodeidEqual a b = true

def YoungEnough (maxAge : UInt64) (now time : Int64) : Prop :=
  alwaysCache maxAge = true ∨ Binary64.isNaN maxAge = false ∧
    (now.toInt - time.toInt) * Binary64.unit ≤ 10000 * Binary64.units maxAge

def Supports (history : List ValueEvent) (id : NodeId) (maxAge : UInt64) (now : Int64)
    (value : Variant) : Prop :=
  ∃ before nodeId time after, history = before ++ .sourced nodeId value time :: after ∧
    SameNode id nodeId ∧ YoungEnough maxAge now time ∧ ∀ w, .written w ∈ after → ¬ SameNode id w

def ReadsSound (history : List ValueEvent) : Prop :=
  ∀ before read maxAge now result after,
    history = before ++ .returned read maxAge now result :: after →
    ∃ value, Supports before read.nodeId maxAge now value ∧
      applyReadIndexRange read.indexRange value = (Status.good, result)

def writtenSinceRead (history : List ValueEvent) : List NodeId :=
  history.foldl (fun ids event =>
    match event with
    | .sourced .. => []
    | .written id => ids ++ [id]
    | .returned .. => ids) []

variable (history : List ValueEvent)

@[simp] theorem writtenSinceRead_sourced (id : NodeId) (value : Variant) (time : Int64) :
    writtenSinceRead (history ++ [.sourced id value time]) = [] := by
  simp [writtenSinceRead]

@[simp] theorem writtenSinceRead_written (id : NodeId) :
    writtenSinceRead (history ++ [.written id]) = writtenSinceRead history ++ [id] := by
  simp [writtenSinceRead]

@[simp] theorem writtenSinceRead_returned (read : ReadValueId)
    (maxAge : UInt64) (now : Int64) (value : Variant) :
    writtenSinceRead (history ++ [.returned read maxAge now value]) = writtenSinceRead history := by
  simp [writtenSinceRead]

theorem readsSound_concat {history : List ValueEvent} {event : ValueEvent} (h : ReadsSound history)
    (hevent : ∀ read maxAge now result, event = .returned read maxAge now result →
      ∃ value, Supports history read.nodeId maxAge now value ∧
        applyReadIndexRange read.indexRange value = (Status.good, result)) :
    ReadsSound (history ++ [event]) := by
  intro before read maxAge now result after heq
  rcases List.eq_nil_or_concat after with rfl | ⟨after',last,rfl⟩
  · obtain ⟨rfl,hlast⟩ := List.append_inj' heq rfl
    exact hevent read maxAge now result (List.cons.inj hlast).1
  · rw [List.concat_eq_append,← List.cons_append,← List.append_assoc] at heq
    exact h before read maxAge now result after' (List.append_inj' heq rfl).1

/-! ## What the cache holds -/

def CacheBacked (s : AttributeState ω) : Prop :=
  ∀ entry ∈ s.cache.entry, ∃ before after,
    s.history = before ++ .sourced entry.nodeId entry.variant entry.readTime :: after ∧
      ∀ w, .written w ∈ after → w ∈ writtenSinceRead s.history

variable {s : AttributeState ω} {memory : List UInt8}

theorem cacheBacked_sourced {cache : ReadCache} (id : NodeId) (place : Nat) (value : Variant)
    (now : Int64) : CacheBacked ({ s with cache := readCacheStore cache id place value now }.log
      (.sourced id value now)) := by
  rintro entry ⟨⟩
  exact ⟨s.history,[],rfl,fun _ h => nomatch h⟩

variable {s' : AttributeState ω}

theorem CacheBacked.log {event : ValueEvent} (h : CacheBacked s)
    (hentry : s'.cache.entry = s.cache.entry) (hhistory : s'.history = s.history ++ [event])
    (hkept : ∀ w ∈ writtenSinceRead s.history, w ∈ writtenSinceRead (s.history ++ [event]))
    (hnew : ∀ w, event = .written w → w ∈ writtenSinceRead (s.history ++ [event])) :
    CacheBacked s' := by
  intro entry hmem
  rw [hentry] at hmem
  obtain ⟨before,after,heq,hwritten⟩ := h entry hmem
  refine ⟨before,after ++ [event],by rw [hhistory,heq]; simp,fun w hw => ?_⟩
  rw [hhistory]
  rcases List.mem_append.mp hw with hold | hnow
  · exact hkept w (hwritten w hold)
  · exact hnew w (List.mem_singleton.mp hnow).symm

theorem CacheBacked.frame (h : CacheBacked s)
    (hentry : s'.cache.entry = s.cache.entry) (hhistory : s'.history = s.history) :
    CacheBacked s' := by
  intro entry hmem
  rw [hentry] at hmem
  obtain ⟨before,after,heq,hwritten⟩ := h entry hmem
  exact ⟨before,after,by rw [hhistory,heq],by rw [hhistory]; exact hwritten⟩

/-! ## Looking up -/

theorem readCacheLookup_entry (cache : ReadCache) (nodeId : NodeId) (maxAge : UInt64)
    (now : Int64) : (readCacheLookup cache memory nodeId maxAge now).2.entry = cache.entry := by
  unfold readCacheLookup
  dsimp only
  split
  · rfl
  split
  · rfl
  split
  · split <;> rfl
  · rfl

def ClockFits (cache : ReadCache) (now : Int64) : Prop :=
  ∀ entry ∈ cache.entry, entry.readTime.toInt ≤ now.toInt ∧
    now.toInt - entry.readTime.toInt < 2 ^ 63

theorem units_of_positive {bits : UInt64} (h : Binary64.lt 0 bits = true) :
    Binary64.isNaN bits = false ∧ Binary64.units bits = Binary64.magnitude bits := by
  obtain ⟨-,hnan,hpos⟩ : _ ∧ _ ∧ Binary64.units 0 < Binary64.units bits := of_decide_eq_true h
  refine ⟨hnan,?_⟩
  rw [show Binary64.units 0 = 0 from rfl] at hpos
  unfold Binary64.units at hpos ⊢
  split at hpos
  · omega
  · next hsign => rw [if_neg hsign]

theorem maxAgeTicks_toInt (hpositive : Binary64.lt 0 maxAge = true)
    (halways : alwaysCache maxAge = false) :
    (maxAgeTicks maxAge).toInt = (Binary64.magnitude maxAge / Binary64.unit : Nat) * 10000 := by
  obtain ⟨hnan,hvalue⟩ := units_of_positive hpositive
  have hsmall : Binary64.magnitude maxAge / Binary64.unit < maxAgeAlwaysCacheMs := by
    refine (Nat.div_lt_iff_lt_mul (Nat.two_pow_pos _)).mpr ?_
    have hnot := of_decide_eq_false halways
    rw [hvalue] at hnot
    exact Nat.not_le.mp fun hle => hnot ⟨hnan,Int.ofNat_le.mpr hle⟩
  unfold maxAgeAlwaysCacheMs at hsmall
  unfold maxAgeTicks
  generalize Binary64.magnitude maxAge / Binary64.unit = n at hsmall
  rw [if_neg (by simp [halways]),Int64.toInt_mul,Int64.toInt_ofNat_of_lt (by omega)]
  have hten : (10000 : Int64).toInt = 10000 := rfl
  rw [hten]
  exact Int.bmod_eq_of_le (by omega) (by omega)

theorem admits_of_ticks {time : Int64}
    (hpositive : Binary64.lt 0 maxAge = true) (horder : time.toInt ≤ now.toInt)
    (hfits : now.toInt - time.toInt < 2 ^ 63)
    (hage : now - time < 0 ∨ alwaysCache maxAge = true ∨ now - time ≤ maxAgeTicks maxAge) :
    YoungEnough maxAge now time := by
  have hsub : (now - time).toInt = now.toInt - time.toInt := by
    rw [Int64.toInt_sub]
    exact Int.bmod_eq_of_le (by omega) (by omega)
  obtain ⟨hnan,hvalue⟩ := units_of_positive hpositive
  by_cases halways : alwaysCache maxAge = true
  · exact .inl halways
  refine .inr ⟨hnan,?_⟩
  rcases hage with hneg | hyes | hticks
  · have hneg' : (now - time).toInt < 0 := Int64.lt_iff_toInt_lt.mp hneg
    omega
  · exact absurd hyes halways
  have hle := Int64.le_iff_toInt_le.mp hticks
  rw [hsub,maxAgeTicks_toInt hpositive (by simpa using halways)] at hle
  have hfloor : ((Binary64.magnitude maxAge / Binary64.unit * Binary64.unit : Nat) : Int) ≤
      Binary64.magnitude maxAge := Int.ofNat_le.mpr (Nat.div_mul_le_self _ _)
  rw [hvalue]
  calc (now.toInt - time.toInt) * Binary64.unit
      ≤ ((Binary64.magnitude maxAge / Binary64.unit : Nat) * 10000) * Binary64.unit :=
        Int.mul_le_mul_of_nonneg_right hle (Int.natCast_nonneg _)
    _ = 10000 * ((Binary64.magnitude maxAge / Binary64.unit * Binary64.unit : Nat) : Int) := by
        rw [Int.natCast_mul,Int.mul_comm _ 10000,Int.mul_assoc]
    _ ≤ 10000 * Binary64.magnitude maxAge := Int.mul_le_mul_of_nonneg_left hfloor (by decide)

theorem readCacheLookup_some {cache : ReadCache} {nodeId : NodeId}
    {value : Variant} (hclock : ClockFits cache now)
    (hkept : Binary64.lt 0 maxAge = true → ∀ entry ∈ cache.entry,
      nodeIdIn memory entry.place entry.nodeId = entry.nodeId)
    (h : (readCacheLookup cache memory nodeId maxAge now).1 = some value) :
    Binary64.lt 0 maxAge = true ∧ ∃ entry ∈ cache.entry, entry.variant = value ∧
      nodeidEqual nodeId entry.nodeId = true ∧ YoungEnough maxAge now entry.readTime := by
  unfold readCacheLookup at h
  dsimp only at h
  split at h
  · cases h
  next hpositive =>
  have hpositive : Binary64.lt 0 maxAge = true := by simpa using hpositive
  refine ⟨hpositive,?_⟩
  split at h
  · cases h
  next entry hentry =>
  split at h
  · next hsame =>
    split at h
    · next hage =>
      obtain ⟨horder,hfits⟩ := hclock entry hentry
      rw [hkept hpositive entry hentry] at hsame
      exact ⟨entry,hentry,Option.some.inj h,hsame,admits_of_ticks hpositive horder hfits hage⟩
    · cases h
  · cases h

/-! ## Steps -/

/-- A Read may be served: the maxAge is a number that is not negative, the clock fits, the bytes of a
cached String NodeId are where they were, and no node it asks for was cached and then written. -/
structure ReadFits (s : AttributeState ω) (memory : List UInt8) (maxAge : UInt64) (now : Int64)
    (reads : List ReadValueId) : Prop where
  age : Binary64.isNaN maxAge = false ∧ 0 ≤ Binary64.units maxAge
  clock : ClockFits s.cache now
  kept : Binary64.lt 0 maxAge = true → ∀ entry ∈ s.cache.entry,
    nodeIdIn memory entry.place entry.nodeId = entry.nodeId
  unwritten : ∀ read ∈ reads, read.attributeId = attributeIdValue →
    Binary64.lt 0 maxAge = true →
    ∀ entry ∈ s.cache.entry, nodeidEqual read.nodeId entry.nodeId = true →
    ∀ w ∈ writtenSinceRead s.history, ¬ SameNode read.nodeId w

def CacheMoved (memory : List UInt8) (now : Int64) (s s' : AttributeState ω) : Prop :=
  s'.cache.entry = s.cache.entry ∧ writtenSinceRead s'.history = writtenSinceRead s.history ∨
    writtenSinceRead s'.history = [] ∧ ∀ entry ∈ s'.cache.entry, entry.readTime = now ∧
      nodeIdIn memory entry.place entry.nodeId = entry.nodeId

variable {reads : List ReadValueId} {read : ReadValueId}

theorem ReadFits.moved (h : ReadFits s memory maxAge now (read :: reads))
    (hmoved : CacheMoved memory now s s') : ReadFits s' memory maxAge now reads := by
  rcases hmoved with ⟨hentry,hwritten⟩ | ⟨hwritten,htime⟩
  · refine ⟨h.age,?_,?_,?_⟩
    · unfold ClockFits
      rw [hentry]
      exact h.clock
    · rw [hentry]
      exact h.kept
    · rw [hentry,hwritten]
      exact fun read' hread' => h.unwritten read' (List.mem_cons_of_mem _ hread')
  · refine ⟨h.age,fun entry hentry => ?_,fun _ entry hentry => (htime entry hentry).2,?_⟩
    · rw [(htime entry hentry).1]
      omega
    · rw [hwritten]
      exact fun _ _ _ _ _ _ _ _ hw => nomatch hw

theorem readValue_supports (node : AttributeNode ω) (hvalue : read.attributeId = attributeIdValue)
    (hdecoded : nodeIdIn memory read.place read.nodeId = read.nodeId)
    (hbacked : CacheBacked s) (hsound : ReadsSound s.history)
    (hfits : ReadFits s memory maxAge now (read :: reads)) :
    CacheBacked (readValue memory maxAge now read node s).2 ∧
      ReadsSound (readValue memory maxAge now read node s).2.history ∧
      CacheMoved memory now s (readValue memory maxAge now read node s).2 ∧
      ((readValue memory maxAge now read node s).1.1 = Status.good →
        Supports (readValue memory maxAge now read node s).2.history read.nodeId maxAge now
          (readValue memory maxAge now read node s).1.2) := by
  unfold readValue
  split
  · exact ⟨hbacked,hsound,.inl ⟨rfl,rfl⟩,fun h => absurd h Status.badAttributeIdInvalid.property⟩
  split
  · exact ⟨hbacked,hsound,.inl ⟨rfl,rfl⟩,fun h => absurd h Status.badNotReadable.property⟩
  next source _ =>
  have hentry := @readCacheLookup_entry memory s.cache read.nodeId maxAge now
  have hhit (value : Variant)
      (h : (readCacheLookup s.cache memory read.nodeId maxAge now).1 = some value) :=
    readCacheLookup_some hfits.clock hfits.kept h
  generalize readCacheLookup s.cache memory read.nodeId maxAge now = result at hentry hhit
  obtain ⟨hit,cache⟩ := result
  cases hit with
  | some value =>
    refine ⟨hbacked.frame hentry rfl,hsound,.inl ⟨hentry,rfl⟩,fun _ => ?_⟩
    obtain ⟨hpositive,entry,hmem,rfl,hsame,hadmits⟩ := hhit value rfl
    obtain ⟨before,after,hhistory,hwritten⟩ := hbacked entry hmem
    refine ⟨before,entry.nodeId,entry.readTime,after,hhistory,.inr hsame,hadmits,?_⟩
    exact fun w hw => hfits.unwritten read List.mem_cons_self hvalue hpositive entry hmem hsame w
      (hwritten w hw)
  | none =>
    dsimp only
    split
    · next hgood =>
      refine ⟨cacheBacked_sourced _ _ _ _,readsSound_concat hsound fun _ _ _ _ h => (nomatch h),
        .inr ⟨writtenSinceRead_sourced _ _ _ _,?_⟩,fun _ => ?_⟩
      · rintro entry ⟨⟩
        exact ⟨rfl,hdecoded⟩
      · refine ⟨s.history,read.nodeId,now,[],rfl,.inl rfl,.inr ⟨hfits.age.1,?_⟩,
          fun _ h => nomatch h⟩
        rw [Int.sub_self,Int.zero_mul]
        exact Int.mul_nonneg (by decide) hfits.age.2
    · next hbad =>
      exact ⟨hbacked.frame hentry rfl,hsound,.inl ⟨hentry,rfl⟩,fun h => absurd h hbad⟩

structure CacheInv (s : AttributeState ω) : Prop where
  backed : CacheBacked s
  sound : ReadsSound s.history

theorem CacheInv.start (world : ω) : CacheInv (AttributeState.start world) := by
  refine ⟨fun _ h => (nomatch h),fun before read maxAge now result after h => ?_⟩
  exact absurd h.symm (by simp [AttributeState.start])

variable {cfg : ReadConfig ω}

theorem CacheInv.readOne {timestampsToReturn : UInt32}
    (h : CacheInv s) (hdecoded : nodeIdIn memory read.place read.nodeId = read.nodeId)
    (hfits : ReadFits s memory maxAge now (read :: reads)) :
    CacheInv (readOne cfg memory timestampsToReturn maxAge now read s).2 ∧
      ReadFits (MucOpcua.readOne cfg memory timestampsToReturn maxAge now read s).2 memory maxAge now
        reads := by
  have hsame : ReadFits s memory maxAge now reads := hfits.moved (.inl ⟨rfl,rfl⟩)
  unfold MucOpcua.readOne
  split
  · exact ⟨h,hsame⟩
  split
  · exact ⟨h,hsame⟩
  next node _ =>
  by_cases hvalue : read.attributeId = attributeIdValue
  · rw [if_pos hvalue]
    obtain ⟨hbacked,hsound,hmoved,hsupports⟩ :=
      readValue_supports node hvalue hdecoded h.backed h.sound hfits
    generalize readValue memory maxAge now read node s = result at hbacked hsound hmoved hsupports
    obtain ⟨⟨status,value⟩,s'⟩ := result
    have hfits' := hfits.moved hmoved
    by_cases hgood : status = Status.good
    · simp only [if_pos hgood]
      cases hrange : applyReadIndexRange read.indexRange value with
      | mk status' value' =>
        dsimp only
        split
        · next hboth =>
          have hranged : applyReadIndexRange read.indexRange value = (Status.good, value') := by
            rw [hrange,hboth.1]
          refine ⟨⟨hbacked.log rfl rfl ?_ ?_,readsSound_concat hsound ?_⟩,?_⟩
          · rw [writtenSinceRead_returned]
            exact fun w hw => hw
          · exact fun _ h => nomatch h
          · rintro _ _ _ _ ⟨⟩
            exact ⟨value,hsupports hgood,hranged⟩
          · refine ⟨hfits'.age,hfits'.clock,hfits'.kept,?_⟩
            show ∀ read' ∈ reads, _ → _ → ∀ entry ∈ s'.cache.entry, _ →
              ∀ w ∈ writtenSinceRead (s'.history ++ [_]), _
            rw [writtenSinceRead_returned]
            exact hfits'.unwritten
        · exact ⟨⟨hbacked,hsound⟩,hfits'⟩
    · simp only [hgood,if_false]
      exact ⟨⟨hbacked,hsound⟩,hfits'⟩
  · simp only [hvalue,and_false]
    exact ⟨h,hsame⟩

theorem CacheInv.readAll {timestampsToReturn : UInt32} (h : CacheInv s)
    (hdecoded : ∀ read ∈ reads, nodeIdIn memory read.place read.nodeId = read.nodeId)
    (hfits : ReadFits s memory maxAge now reads) :
    CacheInv (readAll cfg memory timestampsToReturn maxAge now reads s).2 := by
  induction reads generalizing s with
  | nil => exact h
  | cons read reads ih =>
    obtain ⟨hone,hrest⟩ := h.readOne (hdecoded read List.mem_cons_self) hfits
    exact ih hone (fun other hother => hdecoded other (.tail _ hother)) hrest

theorem CacheInv.writeAll {ws : List WriteValue}
    (h : CacheInv s) (hstep : writeAll cfg ws s = some s') : CacheInv s' := by
  induction ws generalizing s with
  | nil =>
    cases hstep
    exact h
  | cons w ws ih =>
    unfold MucOpcua.writeAll at hstep
    split at hstep
    · cases hstep
    next written _ =>
    refine ih ?_ hstep
    split
    · refine ⟨h.backed.log rfl rfl ?_ ?_,readsSound_concat h.sound fun _ _ _ _ h => (nomatch h)⟩
      · rw [writtenSinceRead_written]
        exact fun w hw => List.mem_append_left _ hw
      · rintro w ⟨⟩
        rw [writtenSinceRead_written]
        exact List.mem_append_right _ List.mem_cons_self
    · exact ⟨h.backed.frame rfl rfl,h.sound⟩

/-! ## Runs -/

def AttributeInput.Fits (s : AttributeState ω) : AttributeInput ω → Prop
  | .read memory _ maxAge now reads _ => ReadFits s memory maxAge now reads
  | .write _ => True
  | .environment _ => True

inductive AttributeState.ReachableIf (cfg : ReadConfig ω)
    (C : AttributeState ω → AttributeInput ω → Prop) : AttributeState ω → Prop
  | start (world : ω) : ReachableIf cfg C (.start world)
  | step {s s' : AttributeState ω} (input : AttributeInput ω) :
      ReachableIf cfg C s → C s input → s.step cfg input = some s' → ReachableIf cfg C s'

theorem CacheInv.step {input : AttributeInput ω}
    (h : CacheInv s) (hfits : input.Fits s) (hstep : s.step cfg input = some s') : CacheInv s' := by
  cases input with
  | read memory timestampsToReturn maxAge now reads decoded =>
    cases hstep
    unfold readProcess
    split
    · exact h
    · exact h.readAll decoded hfits
  | write ws => exact h.writeAll hstep
  | environment world =>
    cases hstep
    exact ⟨h.backed.frame rfl rfl,h.sound⟩

namespace Sample

def variableId : NodeId := ⟨1, .numeric 1⟩

def byteSource : ValueSource UInt8 :=
  .callback (some fun world _ => ((Status.good, ⟨.byte, .scalar world, 0⟩), world))

def readConfig : ReadConfig UInt8 where
  resolveNode := fun _ id => some ⟨id, .variable, some byteSource⟩
  writeHandler := some fun _ _ _ _ => (Status.good, 9)
  statusCodeTimestamp := false
  readAttribute := fun _ _ => (Status.badAttributeIdInvalid.val, Variant.zero)

def readVariable : ReadValueId := ⟨variableId, 0, attributeIdValue, MuString.ofBytes []⟩

theorem readVariable_decoded :
    ∀ read ∈ [readVariable], nodeIdIn [] read.place read.nodeId = read.nodeId := by
  decide

def writeVariable : WriteValue :=
  ⟨variableId, attributeIdValue, MuString.ofBytes [],
    ⟨some ⟨.byte, .scalar (9 : UInt8), 0⟩, none, none, none, none, none⟩⟩

def second : UInt64 := 0x408F400000000000

def cachedState (world : UInt8) (hits : Nat) (events : List ValueEvent) : AttributeState UInt8 :=
  ⟨world, ⟨some ⟨variableId, 0, ⟨.byte, .scalar (5 : UInt8), 0⟩, 1⟩, hits, 1⟩,
    [.sourced variableId ⟨.byte, .scalar (5 : UInt8), 0⟩ 1,
      .returned readVariable 0 1 ⟨.byte, .scalar (5 : UInt8), 0⟩] ++ events⟩

theorem step_fresh : (AttributeState.start 5).step readConfig
      (.read [] 3 0 1 [readVariable] readVariable_decoded) =
    some (cachedState 5 0 []) := rfl

theorem step_cached (world : UInt8) (events : List ValueEvent) :
    (cachedState world 0 events).step readConfig
        (.read [] 3 second 2 [readVariable] readVariable_decoded) =
      some (cachedState world 1 (events ++
        [.returned readVariable second 2 ⟨.byte, .scalar (5 : UInt8), 0⟩])) := by
  have hpositive : Binary64.lt 0 second = true := by decide +kernel
  have hage : (2 : Int64) - 1 < 0 ∨ alwaysCache second = true ∨
      (2 : Int64) - 1 ≤ maxAgeTicks second := by decide +kernel
  have hlookup : readCacheLookup (cachedState world 0 events).cache [] variableId second 2 =
      (some ⟨.byte,.scalar (5 : UInt8),0⟩, (cachedState world 1 events).cache) := by
    unfold readCacheLookup
    rw [if_neg (by simp [hpositive])]
    exact (if_pos hage)
  have hvalue : readValue [] second 2 readVariable ⟨variableId,.variable,some byteSource⟩
      (cachedState world 0 events) =
        ((Status.good, ⟨.byte,.scalar (5 : UInt8),0⟩), cachedState world 1 events) := by
    unfold readValue
    dsimp only [readVariable]
    rw [hlookup]
    rfl
  have hone : (readOne readConfig [] 3 second 2 readVariable (cachedState world 0 events)).2 =
      (cachedState world 1 events).log
        (.returned readVariable second 2 ⟨.byte,.scalar (5 : UInt8),0⟩) := by
    unfold readOne
    dsimp only [readConfig]
    rw [show readVariable.nodeId = variableId from rfl,hvalue]
    rfl
  simp only [AttributeState.step,readProcess,readAll]
  rw [hone]
  simp [AttributeState.log,cachedState]

theorem step_write : (cachedState 5 0 []).step readConfig (.write [writeVariable]) =
    some (cachedState 9 0 [.written variableId]) := rfl

end Sample

end MucOpcua
