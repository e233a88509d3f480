import MucOpcua.History.HistoryRead

/-!
# Processed reads

What Count, Start and End of a processed read say about the points of the store in the time range.
-/

namespace MucOpcua

/-- Arrays of a numeric type count as numeric. -/
def HistoricalDataPoint.usable (point : HistoricalDataPoint) : Bool :=
  !aggregateStatusIsBad point.status && point.value.type.isNumeric

namespace Memstore

def inRange (s : Memstore) (startTime endTime : Int64) : List HistoricalDataPoint :=
  s.points.filter (pointInRange startTime endTime)

def usableIn (s : Memstore) (startTime endTime : Int64) : List HistoricalDataPoint :=
  (s.inRange startTime endTime).filter HistoricalDataPoint.usable

end Memstore

/-- The head of a page, which should be the earliest point, or its last point, which should be the
latest. -/
inductive PageEnd where
  | first | last

def PageEnd.le : PageEnd → Int64 → Int64 → Prop
  | .first, a, b => a ≤ b
  | .last, a, b => b ≤ a

/-- A usable point that is the earliest of the range, or the latest. -/
def PageEnd.Extreme (side : PageEnd) (s : Memstore) (startTime endTime : Int64)
    (point : HistoricalDataPoint) : Prop :=
  point ∈ s.usableIn startTime endTime ∧
    ∀ q ∈ s.usableIn startTime endTime, side.le point.sourceTimestamp q.sourceTimestamp

/-- The first page has all that is usable, with the earliest point first and the latest last. -/
structure Memstore.FitsPage (s : Memstore) (startTime endTime : Int64) : Prop where
  behind : ∀ point ∈ (s.inRange startTime endTime).drop maxHistoryDataPoints, point.usable = false
  first : ∀ point ∈ (s.usableIn startTime endTime).head?,
    PageEnd.first.Extreme s startTime endTime point
  last : ∀ point ∈ (s.usableIn startTime endTime).getLast?,
    PageEnd.last.Extreme s startTime endTime point

def HistoricalDataPoint.layout (point : HistoricalDataPoint) : Int64 × StatusCode × BuiltinType :=
  (point.sourceTimestamp, point.status, point.value.type)

def Memstore.SameLayout (s s' : Memstore) : Prop :=
  s.points.map HistoricalDataPoint.layout = s'.points.map HistoricalDataPoint.layout

def HistoryReadResult.GoodValue (result : HistoryReadResult) (value : Variant) : Prop :=
  result.statusCode = Status.good ∧ ∃ dataValue, result.dataValues = [dataValue] ∧
    dataValue.status = some Status.good ∧ dataValue.value = some value

section

variable (double : AggregateOps) (s : Memstore) (startTime endTime : Int64) (interval : UInt64)
  (nodes : List HistoryReadValueId)

def readProcessed (aggregateType : UInt32) : List HistoryReadResult :=
  handleHistoryRead double (some (memstoreAdapter s))
    ⟨.processed ⟨startTime, endTime, interval, [aggregateType]⟩, nodes⟩

/-- A Good Count is the number of usable points in the range; Start and End are the values of the
earliest and the latest of them. -/
structure AggregatesRight : Prop where
  count : ∀ result ∈ readProcessed double s startTime endTime interval nodes AggregateType.count,
    ∀ value, result.GoodValue value →
      value = ⟨.int64, .scalar (Int64.ofNat (s.usableIn startTime endTime).length), 0⟩
  start : ∀ result ∈ readProcessed double s startTime endTime interval nodes AggregateType.start,
    ∀ point, PageEnd.first.Extreme s startTime endTime point → result.GoodValue point.value
  end_ : ∀ result ∈ readProcessed double s startTime endTime interval nodes AggregateType.end_,
    ∀ point, PageEnd.last.Extreme s startTime endTime point → result.GoodValue point.value

end

/-! ## Both ends of a page -/

namespace PageEnd

variable {side : PageEnd} {α β : Type}

def pick : PageEnd → List α → Option α
  | .first => List.head?
  | .last => List.getLast?

def aggregateType : PageEnd → UInt32
  | .first => AggregateType.start
  | .last => AggregateType.end_

theorem pick_map (f : α → β) (l : List α) : side.pick (l.map f) = (side.pick l).map f := by
  cases side with
  | first => exact List.head?_map
  | last => exact List.getLast?_map

theorem mem_of_pick {l : List α} {a : α} (h : side.pick l = some a) : a ∈ l := by
  cases side with
  | first => exact List.mem_of_mem_head? h
  | last => exact List.mem_of_mem_getLast? h

theorem exists_pick {l : List α} (h : l ≠ []) : ∃ a, side.pick l = some a := by
  cases side with
  | first => exact Option.isSome_iff_exists.mp (List.isSome_head?.mpr h)
  | last => exact ⟨_,List.getLast?_eq_some_getLast h⟩

theorem le_antisymm {x y : Int64} (h : side.le x y) (h' : side.le y x) : x = y := by
  cases side with
  | first => exact Int64.le_antisymm h h'
  | last => exact Int64.le_antisymm h' h

end PageEnd

/-! ## The page and its aggregates -/

theorem variantNumericToDouble_isSome (double : DoubleOps) {value : Variant}
    (h : value.value.isArray = false) :
    (variantNumericToDouble double value).isSome = value.type.isNumeric := by
  obtain ⟨type,union,ext⟩ := value
  cases union with
  | scalar v => cases type <;> rfl
  | array length elements => simp [VariantValue.isArray] at h

theorem usableValue_isSome (double : AggregateOps) (point : HistoricalDataPoint) :
    (usableValue double point).isSome = point.usable := by
  unfold usableValue HistoricalDataPoint.usable
  cases aggregateStatusIsBad point.status with
  | true => simp
  | false =>
    unfold variantNumericToDoubleHist
    cases harray : point.value.value.isArray with
    | true => cases point.value.type.isNumeric <;> simp
    | false => simp [variantNumericToDouble_isSome double.toDoubleOps harray]

theorem usableValues_values (double : AggregateOps) (points : List HistoricalDataPoint) :
    (usableValues double points).map Prod.snd =
      (points.filter HistoricalDataPoint.usable).map HistoricalDataPoint.value := by
  unfold usableValues
  induction points with
  | nil => rfl
  | cons point points ih =>
    have husable := usableValue_isSome double point
    cases hval : usableValue double point with
    | none =>
      have hunusable : ¬ point.usable = true := by simp [← husable,hval]
      rw [List.filterMap_cons,hval,List.filter_cons_of_neg hunusable]
      exact ih
    | some val =>
      have husable : point.usable = true := by simp [← husable,hval]
      rw [List.filterMap_cons,hval,List.filter_cons_of_pos husable]
      simp only [Option.map_some,List.map_cons,ih]

section

variable (double : AggregateOps) {points : List HistoricalDataPoint}

theorem computeHistoryAggregate_count (h : points ≠ []) :
    computeHistoryAggregate double points AggregateType.count =
      AggregateResult.ofCount (points.filter HistoricalDataPoint.usable).length := by
  have hlength : (usableValues double points).length =
      (points.filter HistoricalDataPoint.usable).length := by
    simpa using congrArg List.length (usableValues_values double points)
  have hnonempty : ¬ points.isEmpty = true := by simpa using h
  simp only [computeHistoryAggregate,if_neg hnonempty,hlength]
  rfl

theorem computeHistoryAggregate_end (side : PageEnd) (h : points ≠ []) :
    computeHistoryAggregate double points side.aggregateType = AggregateResult.ofValue
      ((side.pick (points.filter HistoricalDataPoint.usable)).map HistoricalDataPoint.value) := by
  have hpick : (side.pick (usableValues double points)).map Prod.snd =
      (side.pick (points.filter HistoricalDataPoint.usable)).map HistoricalDataPoint.value := by
    rw [← PageEnd.pick_map,← PageEnd.pick_map,usableValues_values]
  have hnonempty : ¬ points.isEmpty = true := by simpa using h
  rw [← hpick]
  cases side <;> simp only [computeHistoryAggregate,if_neg hnonempty] <;> rfl

end

section

variable (double : AggregateOps) (s : Memstore) (startTime endTime : Int64) (interval : UInt64)
  (nodes : List HistoryReadValueId)

theorem mem_readProcessed {aggregateType : UInt32} {result : HistoryReadResult} :
    result ∈ readProcessed double s startTime endTime interval nodes aggregateType ↔
      nodes ≠ [] ∧ ∃ aggregate : AggregateResult, aggregate = computeHistoryAggregate double
          ((s.inRange startTime endTime).take maxHistoryDataPoints) aggregateType ∧
        result = ⟨Status.good, none,
          [⟨some aggregate.1, some aggregate.2, none, none, none, none⟩]⟩ := by
  have hpage : (memstoreReadRawModified s startTime endTime 0 none false maxHistoryDataPoints) =
      ⟨Status.good,(s.inRange startTime endTime).take maxHistoryDataPoints,[]⟩ := by
    simp [memstoreReadRawModified,scanPoints_fst,Memstore.inRange]
  simp only [readProcessed,handleHistoryRead,List.mem_map,historyReadNode,memstoreAdapter,hpage]
  constructor
  · rintro ⟨node,hnode,rfl⟩
    exact ⟨List.ne_nil_of_mem hnode,_,rfl,rfl⟩
  · rintro ⟨hnodes,_,rfl,rfl⟩
    obtain ⟨node,hnode⟩ := List.exists_mem_of_ne_nil nodes hnodes
    exact ⟨node,hnode,rfl⟩

variable {double s startTime endTime interval nodes}

theorem goodValue_iff {aggregate : AggregateResult} {value : Variant} : HistoryReadResult.GoodValue
        ⟨Status.good, none, [⟨some aggregate.1, some aggregate.2, none, none, none, none⟩]⟩ value ↔
      aggregate = (value, Status.good) := by
  simp [HistoryReadResult.GoodValue,Prod.ext_iff,and_comm]

theorem ofValue_eq_good {found : Option Variant} {value : Variant} :
    AggregateResult.ofValue found = (value, Status.good) ↔ found = some value := by
  cases found with
  | none => simp [AggregateResult.ofValue,Status.badNoData,Status.good]
  | some v => simp [AggregateResult.ofValue]

end

namespace Memstore

variable {s s' : Memstore} {startTime endTime : Int64}

theorem usable_page
    (h : ∀ point ∈ (s.inRange startTime endTime).drop maxHistoryDataPoints, point.usable = false) :
    ((s.inRange startTime endTime).take maxHistoryDataPoints).filter HistoricalDataPoint.usable =
      s.usableIn startTime endTime := by
  have hbehind : ((s.inRange startTime endTime).drop maxHistoryDataPoints).filter
      HistoricalDataPoint.usable = [] := by
    rw [List.filter_eq_nil_iff]
    intro point hpoint
    simp [h point hpoint]
  conv_rhs => rw [usableIn,← List.take_append_drop maxHistoryDataPoints (s.inRange startTime endTime),
    List.filter_append,hbehind,List.append_nil]

theorem eq_of_sourceTimestamp_eq {p q : HistoricalDataPoint} (hp : p ∈ s.usableIn startTime endTime)
    (hq : q ∈ s.usableIn startTime endTime) (h : p.sourceTimestamp = q.sourceTimestamp) : p = q := by
  have hstore {point : HistoricalDataPoint} (hpoint : point ∈ s.usableIn startTime endTime) :
      point ∈ s.points := List.mem_of_mem_filter (List.mem_of_mem_filter hpoint)
  exact List.inj_on_of_nodup_map s.distinct (hstore hp) (hstore hq) h

theorem exists_extreme (side : PageEnd) (h : s.usableIn startTime endTime ≠ []) :
    ∃ point, side.Extreme s startTime endTime point := by
  let key (p : HistoricalDataPoint) : Int :=
    match side with
    | .first => p.sourceTimestamp.toInt
    | .last => -p.sourceTimestamp.toInt
  obtain ⟨point,hpoint⟩ := Option.ne_none_iff_exists'.mp (mt (List.argmin_eq_none (f := key)).mp h)
  refine ⟨point,List.argmin_mem hpoint,fun q hq => ?_⟩
  have hle : key point ≤ key q := List.le_of_mem_argmin (f := key) hq hpoint
  cases side with
  | first => exact Int64.le_iff_toInt_le.mpr hle
  | last => exact Int64.le_iff_toInt_le.mpr (Int.neg_le_neg_iff.mp hle)

theorem FitsPage.side (h : s.FitsPage startTime endTime) (side : PageEnd)
    {point : HistoricalDataPoint} (hpoint : side.pick (s.usableIn startTime endTime) = some point) :
    side.Extreme s startTime endTime point := by
  cases side with
  | first => exact h.first point hpoint
  | last => exact h.last point hpoint

/-! ## Stores with the same layout -/

theorem inRange_layout (h : s.SameLayout s') :
    (s.inRange startTime endTime).map HistoricalDataPoint.layout =
      (s'.inRange startTime endTime).map HistoricalDataPoint.layout := by
  have hfilter (s : Memstore) : (s.inRange startTime endTime).map HistoricalDataPoint.layout =
      (s.points.map HistoricalDataPoint.layout).filter
        fun layout => decide (startTime ≤ layout.1 ∧ layout.1 ≤ endTime) := by
    rw [List.filter_map]
    rfl
  rw [hfilter,hfilter,h]

theorem usableIn_layout (h : s.SameLayout s') :
    (s.usableIn startTime endTime).map HistoricalDataPoint.layout =
      (s'.usableIn startTime endTime).map HistoricalDataPoint.layout := by
  have hfilter (s : Memstore) : (s.usableIn startTime endTime).map HistoricalDataPoint.layout =
      ((s.inRange startTime endTime).map HistoricalDataPoint.layout).filter
        fun layout => !aggregateStatusIsBad layout.2.1 && layout.2.2.isNumeric := by
    rw [List.filter_map]
    rfl
  rw [hfilter,hfilter,inRange_layout h]

theorem FitsPage.of_sameLayout (hfits : s.FitsPage startTime endTime) (h : s.SameLayout s') :
    s'.FitsPage startTime endTime := by
  have husable : (s.usableIn startTime endTime).map HistoricalDataPoint.layout =
      (s'.usableIn startTime endTime).map HistoricalDataPoint.layout := usableIn_layout h
  have hsame {point : HistoricalDataPoint} (hpoint : point ∈ s'.usableIn startTime endTime) :
      ∃ q ∈ s.usableIn startTime endTime, q.layout = point.layout := by
    have hmem := List.mem_map_of_mem (f := HistoricalDataPoint.layout) hpoint
    rw [← husable] at hmem
    exact List.mem_map.mp hmem
  have htime {p q : HistoricalDataPoint} (heq : p.layout = q.layout) :
      p.sourceTimestamp = q.sourceTimestamp := congrArg Prod.fst heq
  have hside (side : PageEnd) (point : HistoricalDataPoint)
      (hpoint : side.pick (s'.usableIn startTime endTime) = some point) :
      side.Extreme s' startTime endTime point := by
    refine ⟨PageEnd.mem_of_pick hpoint,fun q hq => ?_⟩
    have hpick := side.pick_map HistoricalDataPoint.layout (s'.usableIn startTime endTime)
    rw [hpoint,← husable,PageEnd.pick_map] at hpick
    obtain ⟨point',hpoint',heq⟩ := Option.map_eq_some_iff.mp hpick
    obtain ⟨q',hq',heq'⟩ := hsame hq
    rw [← htime heq,← htime heq']
    exact (hfits.side side hpoint').2 q' hq'
  refine ⟨fun point hpoint => ?_,hside .first,hside .last⟩
  have hmem := List.mem_map_of_mem (f := HistoricalDataPoint.layout) hpoint
  rw [List.map_drop,← inRange_layout h,← List.map_drop] at hmem
  obtain ⟨q,hq,heq⟩ := List.mem_map.mp hmem
  have hunusable := hfits.behind q hq
  simp only [HistoricalDataPoint.layout,Prod.mk.injEq] at heq
  simpa only [HistoricalDataPoint.usable,heq.2.1,heq.2.2] using hunusable

end Memstore

def HistoricalDataPoint.relabel (t : Int64) (value : Variant) (point : HistoricalDataPoint) :
    HistoricalDataPoint :=
  if point.sourceTimestamp = t then { point with value := value } else point

theorem HistoricalDataPoint.relabel_sourceTimestamp (t : Int64) (value : Variant)
    (point : HistoricalDataPoint) :
    (point.relabel t value).sourceTimestamp = point.sourceTimestamp := by
  unfold HistoricalDataPoint.relabel
  split <;> rfl

theorem exists_other_value {type : BuiltinType} (h : type.isNumeric = true) (v : Variant) :
    ∃ v' : Variant, v'.type = type ∧ v' ≠ v := by
  have htwo : ∃ x y : type.Carrier, x ≠ y := by
    cases type with
    | sbyte => exact show ∃ x y : Int8, x ≠ y from ⟨0,1,by decide⟩
    | byte => exact show ∃ x y : UInt8, x ≠ y from ⟨0,1,by decide⟩
    | int16 => exact show ∃ x y : Int16, x ≠ y from ⟨0,1,by decide⟩
    | uint16 => exact show ∃ x y : UInt16, x ≠ y from ⟨0,1,by decide⟩
    | int32 => exact show ∃ x y : Int32, x ≠ y from ⟨0,1,by decide⟩
    | uint32 | float => exact show ∃ x y : UInt32, x ≠ y from ⟨0,1,by decide⟩
    | int64 => exact show ∃ x y : Int64, x ≠ y from ⟨0,1,by decide⟩
    | uint64 | double => exact show ∃ x y : UInt64, x ≠ y from ⟨0,1,by decide⟩
    | _ => cases h
  obtain ⟨x,y,hne⟩ := htwo
  by_cases hx : (⟨type,.scalar x,0⟩ : Variant) = v
  · refine ⟨⟨type,.scalar y,0⟩,rfl,fun hy => hne ?_⟩
    have hxy := hx.trans hy.symm
    simpa using hxy
  · exact ⟨⟨type,.scalar x,0⟩,rfl,hx⟩

namespace Memstore

variable {s : Memstore} {startTime endTime : Int64}

def relabel (s : Memstore) (t : Int64) (value : Variant) : Memstore where
  points := s.points.map (HistoricalDataPoint.relabel t value)
  bounded := by simpa using s.bounded
  distinct := by
    have htimes : HistoricalDataPoint.sourceTimestamp ∘ HistoricalDataPoint.relabel t value =
        HistoricalDataPoint.sourceTimestamp :=
      funext (HistoricalDataPoint.relabel_sourceTimestamp t value)
    rw [List.map_map, htimes]
    exact s.distinct

theorem exists_relabel {p e : HistoricalDataPoint} (hp : p ∈ s.usableIn startTime endTime)
    (hne : e.sourceTimestamp ≠ p.sourceTimestamp) :
    ∃ (s' : Memstore) (g : HistoricalDataPoint → HistoricalDataPoint), s.SameLayout s' ∧
      s'.usableIn startTime endTime = (s.usableIn startTime endTime).map g ∧ g e = e ∧
      (∀ q, (g q).sourceTimestamp = q.sourceTimestamp) ∧ (g p).value ≠ e.value := by
  have hstore : p ∈ s.points := List.mem_of_mem_filter (List.mem_of_mem_filter hp)
  have husable : p.usable = true := List.of_mem_filter hp
  obtain ⟨v,htype,hv⟩ := exists_other_value (Bool.and_eq_true_iff.mp husable).2 e.value
  have hlayout : ∀ q ∈ s.points, (q.relabel p.sourceTimestamp v).layout = q.layout := by
    intro q hq
    by_cases htime : q.sourceTimestamp = p.sourceTimestamp
    · obtain rfl := List.inj_on_of_nodup_map s.distinct hq hstore htime
      simp [HistoricalDataPoint.relabel,HistoricalDataPoint.layout,htype]
    · simp [HistoricalDataPoint.relabel,htime]
  have hrange : (s.relabel p.sourceTimestamp v).inRange startTime endTime =
      (s.inRange startTime endTime).map (HistoricalDataPoint.relabel p.sourceTimestamp v) := by
    unfold inRange relabel
    rw [List.filter_map]
    congr 2
    funext q
    simp only [Function.comp_apply,pointInRange,HistoricalDataPoint.relabel_sourceTimestamp]
  refine ⟨s.relabel p.sourceTimestamp v,HistoricalDataPoint.relabel p.sourceTimestamp v,?_,?_,
    if_neg hne,HistoricalDataPoint.relabel_sourceTimestamp _ _,?_⟩
  · unfold SameLayout relabel
    rw [List.map_map]
    exact List.map_congr_left fun q hq => (hlayout q hq).symm
  · unfold usableIn
    rw [hrange,List.filter_map]
    congr 1
    refine List.filter_congr fun q hq => ?_
    have hsame := hlayout q (List.mem_of_mem_filter hq)
    simp only [HistoricalDataPoint.layout,Prod.mk.injEq] at hsame
    simp only [Function.comp_apply,HistoricalDataPoint.usable,hsame.2.1,hsame.2.2]
  · simp only [HistoricalDataPoint.relabel]
    exact hv

end Memstore

/-! ## Right aggregates -/

section

variable {double : AggregateOps} {s : Memstore} {startTime endTime : Int64} {interval : UInt64}
  {nodes : List HistoryReadValueId}

theorem AggregatesRight.of_fitsPage (h : s.FitsPage startTime endTime) :
    AggregatesRight double s startTime endTime interval nodes := by
  have husable := Memstore.usable_page h.behind
  have hpage : s.usableIn startTime endTime ≠ [] →
      (s.inRange startTime endTime).take maxHistoryDataPoints ≠ [] := by
    rintro hne hnil
    rw [← husable,hnil] at hne
    exact hne rfl
  have hside (side : PageEnd) (result : HistoryReadResult) (hresult : result ∈
      readProcessed double s startTime endTime interval nodes side.aggregateType)
      (point : HistoricalDataPoint) (hpoint : side.Extreme s startTime endTime point) :
      result.GoodValue point.value := by
    obtain ⟨-,aggregate,rfl,rfl⟩ :=
      (mem_readProcessed double s startTime endTime interval nodes).mp hresult
    have hne := List.ne_nil_of_mem hpoint.1
    obtain ⟨picked,hpicked⟩ := side.exists_pick hne
    have hextreme := h.side side hpicked
    have hsame : picked = point := Memstore.eq_of_sourceTimestamp_eq hextreme.1 hpoint.1
      (PageEnd.le_antisymm (hextreme.2 point hpoint.1) (hpoint.2 picked hextreme.1))
    rw [goodValue_iff,computeHistoryAggregate_end double side (hpage hne),husable,hpicked,hsame]
    rfl
  refine ⟨fun result hresult value hvalue => ?_,hside .first,hside .last⟩
  obtain ⟨-,aggregate,haggregate,rfl⟩ :=
    (mem_readProcessed double s startTime endTime interval nodes).mp hresult
  rw [goodValue_iff] at hvalue
  by_cases hnil : (s.inRange startTime endTime).take maxHistoryDataPoints = []
  · rw [hnil,hvalue] at haggregate
    cases haggregate
  · rw [computeHistoryAggregate_count double hnil,husable,hvalue] at haggregate
    exact congrArg Prod.fst haggregate

theorem AggregatesRight.behind (h : AggregatesRight double s startTime endTime interval nodes)
    (hnodes : nodes ≠ []) :
    ∀ point ∈ (s.inRange startTime endTime).drop maxHistoryDataPoints, point.usable = false := by
  by_cases hnil : (s.inRange startTime endTime).take maxHistoryDataPoints = []
  · have hempty : s.inRange startTime endTime = [] := by
      simpa [maxHistoryDataPoints] using hnil
    simp [hempty]
  have hcount := h.count _ ((mem_readProcessed double s startTime endTime interval nodes).mpr
    ⟨hnodes,_,computeHistoryAggregate_count double hnil |>.symm,rfl⟩) _ (goodValue_iff.mpr rfl)
  have hsplit : (s.usableIn startTime endTime).length =
      (((s.inRange startTime endTime).take maxHistoryDataPoints).filter
        HistoricalDataPoint.usable).length +
      (((s.inRange startTime endTime).drop maxHistoryDataPoints).filter
        HistoricalDataPoint.usable).length := by
    rw [← List.length_append,← List.filter_append,List.take_append_drop,Memstore.usableIn]
  have hbound : (s.usableIn startTime endTime).length ≤ memstoreMaxPoints :=
    (List.length_filter_le _ _).trans ((List.length_filter_le _ _).trans s.bounded)
  have hsmall : memstoreMaxPoints < 2 ^ 63 := by decide
  simp only [Variant.mk.injEq,heq_eq_eq,true_and,and_true] at hcount
  have hint := congrArg Int64.toInt (VariantValue.scalar.inj hcount)
  rw [Int64.toInt_ofNat_of_lt (by omega),Int64.toInt_ofNat_of_lt (by omega)] at hint
  have hzero : (((s.inRange startTime endTime).drop maxHistoryDataPoints).filter
      HistoricalDataPoint.usable).length = 0 := by omega
  intro point hpoint
  have hnot := List.filter_eq_nil_iff.mp (List.length_eq_zero_iff.mp hzero) point hpoint
  simpa using hnot

theorem AggregatesRight.end_eq (h : AggregatesRight double s startTime endTime interval nodes)
    (hnodes : nodes ≠ []) (side : PageEnd) {picked point : HistoricalDataPoint}
    (hpicked : side.pick (s.usableIn startTime endTime) = some picked)
    (hpoint : side.Extreme s startTime endTime point) : picked.value = point.value := by
  have husable := Memstore.usable_page (h.behind hnodes)
  have hnil : (s.inRange startTime endTime).take maxHistoryDataPoints ≠ [] := by
    rintro hnil
    rw [← husable,hnil] at hpicked
    cases PageEnd.mem_of_pick hpicked
  have hright : ∀ result ∈ readProcessed double s startTime endTime interval nodes
      side.aggregateType, result.GoodValue point.value := by
    cases side with
    | first => exact fun result hresult => h.start result hresult point hpoint
    | last => exact fun result hresult => h.end_ result hresult point hpoint
  have hgood := hright _ ((mem_readProcessed double s startTime endTime interval nodes).mpr
    ⟨hnodes,_,(computeHistoryAggregate_end double side hnil).symm,rfl⟩)
  rw [goodValue_iff,ofValue_eq_good,husable,hpicked] at hgood
  exact Option.some.inj hgood

end

/-- For a store with given timestamps, statuses and types, Count, Start and End over a range are
right for all values of its points if, and only if, no node is read or the first page has all usable
points of the range, the earliest first and the latest last. -/
theorem aggregatesRight_iff (double : AggregateOps) (s : Memstore) (startTime endTime : Int64)
    (interval : UInt64) (nodes : List HistoryReadValueId) :
    (∀ s', s.SameLayout s' → AggregatesRight double s' startTime endTime interval nodes) ↔
      nodes = [] ∨ s.FitsPage startTime endTime := by
  constructor
  · intro hright
    by_cases hnodes : nodes = []
    · exact .inl hnodes
    have hside (side : PageEnd) (point : HistoricalDataPoint)
        (hpoint : side.pick (s.usableIn startTime endTime) = some point) :
        side.Extreme s startTime endTime point := by
      have hmem := PageEnd.mem_of_pick hpoint
      obtain ⟨e,he⟩ := Memstore.exists_extreme side (List.ne_nil_of_mem hmem)
      by_cases hsame : e.sourceTimestamp = point.sourceTimestamp
      · rwa [← Memstore.eq_of_sourceTimestamp_eq he.1 hmem hsame]
      -- with another value of the point, the aggregate is not the value of the right one
      obtain ⟨s',g,hlayout,husable,hkept,htime,hvalue⟩ := Memstore.exists_relabel hmem hsame
      have he' : side.Extreme s' startTime endTime e := by
        unfold PageEnd.Extreme
        rw [husable]
        refine ⟨List.mem_map.mpr ⟨e,he.1,hkept⟩,fun q hq => ?_⟩
        obtain ⟨q',hq',rfl⟩ := List.mem_map.mp hq
        rw [htime]
        exact he.2 q' hq'
      have hpick : side.pick (s'.usableIn startTime endTime) = some (g point) := by
        rw [husable,PageEnd.pick_map,hpoint,Option.map_some]
      exact absurd ((hright s' hlayout).end_eq hnodes side hpick he') hvalue
    exact .inr ⟨(hright s rfl).behind hnodes,hside .first,hside .last⟩
  · rintro (rfl | hfits) s' hlayout
    · refine ⟨?_,?_,?_⟩ <;>
      · intro result hresult
        exact absurd rfl ((mem_readProcessed double s' startTime endTime interval []).mp hresult).1
    · exact .of_fitsPage (hfits.of_sameLayout hlayout)

namespace Sample

def aggregateOps : AggregateOps :=
  ⟨⟨fun _ => 0, fun _ _ => 0, fun _ _ => 0, fun _ _ => 0, fun _ => 0, fun _ _ => false,
    fun _ _ => false⟩, fun _ _ => 0, fun _ => 0, fun _ _ => false, fun _ => 0⟩

def int32Point (t : Int64) (v : Int32) : HistoricalDataPoint :=
  ⟨t, t, Status.good, ⟨.int32, .scalar v, 0⟩⟩

def storeOf (points : List HistoricalDataPoint) : Memstore :=
  (memstoreUpdateData Memstore.empty 1 points).1

def processedAnswer (value : Variant) : HistoryReadResult :=
  ⟨Status.good, none, [⟨some value, some Status.good, none, none, none, none⟩]⟩

def historyNode : HistoryReadValueId := ⟨⟨1, .numeric 1⟩, none⟩

def elevenPoints : List HistoricalDataPoint :=
  [int32Point 1 0, int32Point 2 0, int32Point 3 0, int32Point 4 0, int32Point 5 0, int32Point 6 0,
    int32Point 7 0, int32Point 8 0, int32Point 9 0, int32Point 10 0, int32Point 11 0]

end Sample

open Sample in
/-- Count of eleven points is ten. And with the later of two points inserted first, Start is the
value of the later one and End that of the earlier one. -/
theorem processed_read_wrong : ((storeOf elevenPoints).usableIn 0 100).length = 11 ∧
      readProcessed aggregateOps (storeOf elevenPoints) 0 100 0 [historyNode] AggregateType.count =
        [processedAnswer ⟨.int64, .scalar (10 : Int64), 0⟩] ∧
      (storeOf [int32Point 2 7, int32Point 1 5]).usableIn 0 100 = [int32Point 2 7, int32Point 1 5] ∧
      readProcessed aggregateOps (storeOf [int32Point 2 7, int32Point 1 5]) 0 100 0 [historyNode]
        AggregateType.start = [processedAnswer ⟨.int32, .scalar (7 : Int32), 0⟩] ∧
      readProcessed aggregateOps (storeOf [int32Point 2 7, int32Point 1 5]) 0 100 0 [historyNode]
        AggregateType.end_ = [processedAnswer ⟨.int32, .scalar (5 : Int32), 0⟩] :=
  ⟨rfl,rfl,rfl,rfl,rfl⟩

end MucOpcua
