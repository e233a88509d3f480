import MucOpcua.Encoding.LittleEndian
import MucOpcua.Lib.Run

/-!
# The history store

`history_memstore.c`: at most `MU_MEMSTORE_MAX_POINTS` points in the order in which they were
inserted, no two with one source timestamp.
-/

namespace MucOpcua

structure HistoricalDataPoint where
  sourceTimestamp : Int64
  serverTimestamp : Int64
  status : StatusCode
  value : Variant

def memstoreMaxPoints : Nat := 64

/-- `mu_history_memstore_t`: the points below `count`. -/
structure Memstore where
  points : List HistoricalDataPoint
  bounded : points.length ≤ memstoreMaxPoints
  distinct : (points.map HistoricalDataPoint.sourceTimestamp).Nodup

def pointInRange (startTime endTime : Int64) (point : HistoricalDataPoint) : Bool :=
  decide (startTime ≤ point.sourceTimestamp ∧ point.sourceTimestamp ≤ endTime)

/-! ## Reading -/

/-- The loop of `mu_memstore_read_raw_modified` with room for `room` more points: the points that it
copies, and how many it looks at. -/
def scanPoints (startTime endTime : Int64) :
    (room : Nat) → List HistoricalDataPoint → List HistoricalDataPoint × Nat
  | 0, _ | _, [] => ([], 0)
  | room + 1, point :: points =>
    if pointInRange startTime endTime point then
      let (copied, scanned) := scanPoints startTime endTime room points
      (point :: copied, scanned + 1)
    else
      let (copied, scanned) := scanPoints startTime endTime (room + 1) points
      (copied, scanned + 1)

/-- What `read_raw_modified` of an adapter returns. `cpOut` has as many bytes as `cp_out_length`
says. -/
structure RawRead where
  status : StatusCode
  dataPoints : List HistoricalDataPoint
  cpOut : List UInt8

/-- `mu_memstore_read_raw_modified`, without the arguments that it does not look at. `wantsCp`:
neither `cp_out` nor `cp_out_length` is NULL. A `size_t` has eight bytes, least significant first. -/
def memstoreReadRawModified (s : Memstore) (startTime endTime : Int64) (numValuesPerNode : UInt32)
    (cpIn : Option (List UInt8)) (wantsCp : Bool) (maxDataPoints : Nat) : RawRead :=
  let skip := match cpIn with
    | some cp => if cp.length = 8 then (leGetU64 cp).toNat else 0
    | none => 0
  let perPage := if 0 < numValuesPerNode.toNat ∧ numValuesPerNode.toNat < maxDataPoints then
    numValuesPerNode.toNat else maxDataPoints
  let (copied, scanned) := scanPoints startTime endTime perPage (s.points.drop skip)
  let scan := skip + scanned
  let cpOut := if copied.length = perPage ∧ scan < s.points.length ∧ wantsCp = true then
    lePutU64 (UInt64.ofNat scan) else []
  ⟨Status.good, copied, cpOut⟩

theorem scanPoints_fst (startTime endTime : Int64) (room : Nat)
    (points : List HistoricalDataPoint) :
    (scanPoints startTime endTime room points).1 =
      (points.filter (pointInRange startTime endTime)).take room := by
  induction points generalizing room with
  | nil => cases room <;> simp [scanPoints]
  | cons point points ih =>
    cases room with
    | zero => simp [scanPoints]
    | succ room =>
      by_cases hin : pointInRange startTime endTime point = true
      · simp [scanPoints,hin,ih]
      · simp [scanPoints,hin,ih]

/-! ## Updates -/

namespace Memstore

def empty : Memstore := ⟨[], by simp, by simp⟩

/-- `find_timestamp`: the index of a point, if there is one with this timestamp. -/
def findTimestamp (s : Memstore) (sourceTimestamp : Int64) : Option Nat :=
  s.points.findIdx? fun point => point.sourceTimestamp = sourceTimestamp

theorem not_mem_of_findTimestamp {s : Memstore} {t : Int64} (h : s.findTimestamp t = none) :
    t ∉ s.points.map HistoricalDataPoint.sourceTimestamp := by
  intro hmem
  obtain ⟨point,hpoint,rfl⟩ := List.mem_map.mp hmem
  have hnone := List.findIdx?_eq_none_iff.mp h point hpoint
  simp at hnone

def append (s : Memstore) (point : HistoricalDataPoint)
    (hnew : s.findTimestamp point.sourceTimestamp = none)
    (hroom : s.points.length < memstoreMaxPoints) : Memstore where
  points := s.points ++ [point]
  bounded := by
    rw [List.length_append]
    exact hroom
  distinct := by
    rw [List.map_append, List.nodup_append]
    refine ⟨s.distinct, by simp, ?_⟩
    rintro t ht t' ht' rfl
    obtain rfl := List.mem_singleton.mp ht'
    exact not_mem_of_findTimestamp hnew ht

def overwrite (s : Memstore) (existing : Nat) (point : HistoricalDataPoint)
    (hfound : s.findTimestamp point.sourceTimestamp = some existing) : Memstore where
  points := s.points.set existing point
  bounded := by
    rw [List.length_set]
    exact s.bounded
  distinct := by
    obtain ⟨hlt, hsame, -⟩ := List.findIdx?_eq_some_iff_getElem.mp hfound
    have hsame : (s.points[existing]).sourceTimestamp = point.sourceTimestamp := by
      simpa using hsame
    have hmap : (s.points.set existing point).map HistoricalDataPoint.sourceTimestamp =
        s.points.map HistoricalDataPoint.sourceTimestamp := by
      have hlt : existing < (s.points.map HistoricalDataPoint.sourceTimestamp).length := by
        simpa using hlt
      have hget : point.sourceTimestamp =
          (s.points.map HistoricalDataPoint.sourceTimestamp)[existing] := by
        rw [List.getElem_map, hsame]
      rw [List.map_set, hget, List.set_getElem_self]
    rw [hmap]
    exact s.distinct

/-- One round of the loop of `mu_memstore_update_data`. -/
def update (s : Memstore) (performInsertReplace : UInt32) (point : HistoricalDataPoint) :
    Memstore × StatusCode :=
  if performInsertReplace = 1 then
    match h : s.findTimestamp point.sourceTimestamp with
    | some _ => (s, Status.badEntryExists.val)
    | none =>
      if hroom : s.points.length < memstoreMaxPoints then (s.append point h hroom, Status.good)
      else (s, Status.badOutOfMemory.val)
  else if performInsertReplace = 2 then
    match h : s.findTimestamp point.sourceTimestamp with
    | some existing => (s.overwrite existing point h, Status.good)
    | none => (s, Status.badNoEntryExists.val)
  else (s, Status.badInvalidArgument.val)

end Memstore

/-- `mu_memstore_update_data`: the store and the result of each point. -/
def memstoreUpdateData (s : Memstore) (performInsertReplace : UInt32) :
    List HistoricalDataPoint → Memstore × List StatusCode
  | [] => (s, [])
  | point :: points =>
    let (s, result) := s.update performInsertReplace point
    let (s, results) := memstoreUpdateData s performInsertReplace points
    (s, result :: results)

/-- `mu_memstore_delete_raw_modified`: the points outside the range move together. -/
def memstoreDeleteRawModified (s : Memstore) (startTime endTime : Int64) : Memstore where
  points := s.points.filter fun point => !pointInRange startTime endTime point
  bounded := (List.length_filter_le _ _).trans s.bounded
  distinct := s.distinct.sublist (List.filter_sublist.map _)

/-! ## The store as a map -/

/-- What the store is for: a map from source timestamps to points. -/
abbrev PointMap := Int64 → Option HistoricalDataPoint

noncomputable def PointMap.update (m : PointMap) (mode : UInt32) (point : HistoricalDataPoint) :
    PointMap × StatusCode :=
  let stored := Function.update m point.sourceTimestamp (some point)
  if mode = 1 then
    if (m point.sourceTimestamp).isSome then (m, Status.badEntryExists.val)
    else if {t | (m t).isSome}.ncard < memstoreMaxPoints then (stored, Status.good)
    else (m, Status.badOutOfMemory.val)
  else if mode = 2 then
    if (m point.sourceTimestamp).isSome then (stored, Status.good)
    else (m, Status.badNoEntryExists.val)
  else (m, Status.badInvalidArgument.val)

/-- A call of the adapter that changes the store. -/
inductive MemstoreCall where
  | update (mode : UInt32) (points : List HistoricalDataPoint)
  | delete (startTime endTime : Int64)

def Memstore.call (s : Memstore) : MemstoreCall → Memstore × List StatusCode
  | .update mode points => memstoreUpdateData s mode points
  | .delete startTime endTime => (memstoreDeleteRawModified s startTime endTime, [])

noncomputable def PointMap.call (m : PointMap) : MemstoreCall → PointMap × List StatusCode
  | .update mode points =>
    Run.outputs (fun m point => (m.update mode point).map id ([·])) m points
  | .delete startTime endTime => (fun t => if startTime ≤ t ∧ t ≤ endTime then none else m t, [])

namespace Memstore

variable {s s' : Memstore} {m : PointMap}

def Represents (s : Memstore) (m : PointMap) : Prop :=
  ∀ t point, m t = some point ↔ point ∈ s.points ∧ point.sourceTimestamp = t

theorem Represents.findTimestamp (h : s.Represents m) (t : Int64) :
    (s.findTimestamp t).isSome = (m t).isSome := by
  rw [Memstore.findTimestamp,List.findIdx?_isSome,Bool.eq_iff_iff,List.any_eq_true,
    Option.isSome_iff_exists]
  simp only [h t,decide_eq_true_eq]

theorem Represents.ncard (h : s.Represents m) : {t | (m t).isSome}.ncard = s.points.length := by
  have hset : {t | (m t).isSome} =
      ↑(s.points.map HistoricalDataPoint.sourceTimestamp).toFinset := by
    ext t
    simp [Option.isSome_iff_exists,h t]
  rw [hset,Set.ncard_coe_finset,List.toFinset_card_of_nodup s.distinct,List.length_map]

theorem Represents.put {point : HistoricalDataPoint} (h : s.Represents m)
    (hpoints : ∀ other, other ∈ s'.points ↔
      other = point ∨ other ∈ s.points ∧ other.sourceTimestamp ≠ point.sourceTimestamp) :
    s'.Represents (Function.update m point.sourceTimestamp (some point)) := by
  intro t other
  rw [hpoints]
  by_cases ht : t = point.sourceTimestamp
  · subst ht
    rw [Function.update_self]
    aesop
  · rw [Function.update_of_ne ht,h t other]
    aesop

theorem mem_overwrite {existing : Nat} {point other : HistoricalDataPoint}
    (hfound : s.findTimestamp point.sourceTimestamp = some existing) :
    other ∈ (s.overwrite existing point hfound).points ↔
      other = point ∨ other ∈ s.points ∧ other.sourceTimestamp ≠ point.sourceTimestamp := by
  obtain ⟨hlt,hsame,-⟩ := List.findIdx?_eq_some_iff_getElem.mp hfound
  have hpoint : point ∈ (s.overwrite existing point hfound).points := List.mem_set hlt point
  constructor
  · intro hother
    -- Timestamps stay distinct, so a point with the new one's timestamp is the new one.
    by_cases heq : other.sourceTimestamp = point.sourceTimestamp
    · exact .inl (List.inj_on_of_nodup_map (overwrite ..).distinct hother hpoint heq)
    · rcases List.mem_or_eq_of_mem_set hother with hmem | rfl
      · exact .inr ⟨hmem,heq⟩
      · exact .inl rfl
  · rintro (rfl | ⟨hmem,hne⟩)
    · exact hpoint
    obtain ⟨j,hj⟩ := List.mem_iff_getElem?.mp hmem
    refine List.mem_of_getElem? ((List.getElem?_set_ne ?_).trans hj)
    rintro rfl
    rw [List.getElem?_eq_getElem hlt] at hj
    cases hj
    exact hne (of_decide_eq_true hsame)

theorem Represents.update (h : s.Represents m) (mode : UInt32) (point : HistoricalDataPoint) :
    (s.update mode point).1.Represents (m.update mode point).1 ∧
      (s.update mode point).2 = (m.update mode point).2 := by
  have hfind := h.findTimestamp point.sourceTimestamp
  unfold Memstore.update PointMap.update
  rw [h.ncard]
  split
  · split
    · next hfound =>
      rw [hfound] at hfind
      simp [← hfind,h]
    · next hfound =>
      rw [hfound] at hfind
      simp only [← hfind]
      split
      -- Nothing was found, so no stored point gives way to the appended one.
      · refine ⟨h.put fun other => ?_,rfl⟩
        have hother (hmem : other ∈ s.points) : other.sourceTimestamp ≠ point.sourceTimestamp :=
          fun heq => not_mem_of_findTimestamp hfound (heq ▸ List.mem_map_of_mem hmem)
        simp only [append,List.mem_append,List.mem_singleton]
        tauto
      · exact ⟨h,rfl⟩
  split
  · split
    · next existing hfound =>
      rw [hfound] at hfind
      simp only [← hfind]
      exact ⟨h.put fun _ => mem_overwrite hfound,rfl⟩
    · next hfound =>
      rw [hfound] at hfind
      simp [← hfind,h]
  · exact ⟨h,rfl⟩

theorem Represents.call (h : s.Represents m) (call : MemstoreCall) :
    (s.call call).1.Represents (m.call call).1 ∧ (s.call call).2 = (m.call call).2 := by
  cases call with
  | update mode points =>
    have hloop : memstoreUpdateData s mode points =
        Run.outputs (fun s point => (s.update mode point).map id ([·])) s points := by
      clear h
      induction points generalizing s with
      | nil => rfl
      | cons point points ih =>
        rw [memstoreUpdateData,Run.outputs]
        simp [ih]
    rw [Memstore.call,hloop]
    refine Run.outputs_simulates (fun s m point h => ?_) h points
    obtain ⟨hrep,hresult⟩ := h.update mode point
    exact ⟨hrep,congrArg ([·]) hresult⟩
  | delete startTime endTime =>
    refine ⟨fun t point => ?_,rfl⟩
    show (if startTime ≤ t ∧ t ≤ endTime then none else m t) = some point ↔
      point ∈ s.points.filter _ ∧ point.sourceTimestamp = t
    rw [List.mem_filter,Bool.not_eq_true']
    constructor
    · intro hkept
      split at hkept
      · cases hkept
      · next hout =>
        obtain ⟨hmem,rfl⟩ := (h t point).mp hkept
        exact ⟨⟨hmem,decide_eq_false hout⟩,rfl⟩
    · rintro ⟨⟨hmem,hout⟩,rfl⟩
      rw [if_neg (of_decide_eq_false hout)]
      exact (h _ point).mpr ⟨hmem,rfl⟩

/-- Whatever calls were made of an empty store, it holds the points of the map that they make, and
each result is the one of the map. -/
theorem run_refines_pointMap (calls : List MemstoreCall) :
    let store := Run.outputs Memstore.call Memstore.empty calls
    let map := Run.outputs PointMap.call (fun _ => none) calls
    store.1.Represents map.1 ∧ store.2 = map.2 :=
  Run.outputs_simulates (fun _ _ call h => h.call call) (fun t point => by simp [empty]) calls

end Memstore

end MucOpcua
