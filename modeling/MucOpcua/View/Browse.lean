import MucOpcua.Lib.Buffer
import MucOpcua.View.ReferenceTypes

/-!
# Browse

`browse.c` behind the table of supertypes, up to `mu_browse_process_with_user_index`.
-/

namespace MucOpcua

/-! ## The service -/

structure BrowseDescription where
  nodeId : NodeId
  browseDirection : UInt32
  referenceTypeId : NodeId
  includeSubtypes : Bool
  nodeClassMask : UInt32
  resultMask : UInt32

/-- `mu_browse_request_t`; timestamp and version of the view are not looked at. -/
structure BrowseRequest where
  viewId : NodeId
  requestedMaxReferencesPerNode : UInt32
  nodesToBrowse : List BrowseDescription

/-- `mu_reference_description_t`; the namespace index of the browse name stays 0. -/
structure ReferenceDescription where
  referenceTypeId : NodeId
  isForward : Bool
  nodeId : NodeId
  browseName : MuString
  displayName : MuString
  nodeClass : UInt32
  typeDefinition : NodeId
  deriving DecidableEq

/-- `mu_browse_result_t`; the pointer into the pool is an offset, or NULL. -/
structure BrowseResult where
  statusCode : StatusCode
  references : Option Nat
  numReferences : Nat
  deriving DecidableEq

def fillRefDesc (r : Reference) (target : AddressNode) (resultMask : UInt32) :
    ReferenceDescription where
  nodeId := target.nodeId
  referenceTypeId := if resultMask &&& 0x01 ≠ 0 then r.referenceTypeId else NodeId.null
  isForward := if resultMask &&& 0x02 ≠ 0 then r.isForward else false
  nodeClass := if resultMask &&& 0x04 ≠ 0 then target.nodeClass else 0
  browseName := if resultMask &&& 0x08 ≠ 0 then target.browseName else MuString.zero
  displayName := if resultMask &&& 0x10 ≠ 0 then target.displayName else MuString.zero
  typeDefinition := if resultMask &&& 0x20 ≠ 0 then target.typeDefinition else NodeId.null

def referenceTypeMatches (desc : BrowseDescription) (r : Reference) : Bool :=
  if nodeidEqual desc.referenceTypeId NodeId.null then true
  else if desc.includeSubtypes then refTypeIsSubtypeOf r.referenceTypeId desc.referenceTypeId
  else nodeidEqual desc.referenceTypeId r.referenceTypeId

def viewIdIsNull (viewId : NodeId) : Bool :=
  if viewId.namespaceIndex ≠ 0 then false
  else
    match viewId.identifier with
    | .numeric id => id == 0
    | .string s => s.length ≤ 0
    | _ => false

structure BrowseFill where
  refPool : List ReferenceDescription
  matchCount : Nat
  tooManyRefs : Bool

section

variable (resolve : NodeId → Option AddressNode)

/-- The body of the loops over references: `continue` goes on with the rest, `break` does not. -/
def browseReferences (desc : BrowseDescription) (maxPerNode : UInt32)
    (nodeRefsStart refsRemaining : Nat) : List Reference → BrowseFill → BrowseFill
  | [], fill => fill
  | r :: rest, fill =>
    if desc.browseDirection = 0 ∧ r.isForward = false then
      browseReferences desc maxPerNode nodeRefsStart refsRemaining rest fill
    else if desc.browseDirection = 1 ∧ r.isForward = true then
      browseReferences desc maxPerNode nodeRefsStart refsRemaining rest fill
    else if referenceTypeMatches desc r = false then
      browseReferences desc maxPerNode nodeRefsStart refsRemaining rest fill
    else
      match resolve r.targetId with
      | none => browseReferences desc maxPerNode nodeRefsStart refsRemaining rest fill
      | some target =>
        if desc.nodeClassMask ≠ 0 ∧ target.nodeClass &&& desc.nodeClassMask = 0 then
          browseReferences desc maxPerNode nodeRefsStart refsRemaining rest fill
        else if 0 < maxPerNode ∧ maxPerNode.toNat ≤ fill.matchCount then
          { fill with tooManyRefs := true }
        else if refsRemaining ≤ fill.matchCount then { fill with tooManyRefs := true }
        else
          browseReferences desc maxPerNode nodeRefsStart refsRemaining rest
            { fill with
              refPool := fill.refPool.set (nodeRefsStart + fill.matchCount)
                (fillRefDesc r target desc.resultMask)
              matchCount := fill.matchCount + 1 }

variable (dynRefs : List DynamicReference)

/-- One round of the loop over the nodes: the result, the pool and `refs_used`. -/
def browseNode (maxPerNode : UInt32) (desc : BrowseDescription)
    (refPool : List ReferenceDescription) (refsUsed : Nat) :
    BrowseResult × List ReferenceDescription × Nat :=
  if 2 < desc.browseDirection then
    (⟨Status.badBrowseDirectionInvalid.val, none, 0⟩, refPool, refsUsed)
  else
    match resolve desc.nodeId with
    | none => (⟨Status.badNodeIdUnknown.val, none, 0⟩, refPool, refsUsed)
    | some node =>
      let refsRemaining := refPool.length - refsUsed
      let fill := browseReferences resolve desc maxPerNode refsUsed refsRemaining node.references
        ⟨refPool, 0, false⟩
      -- the second loop passes over the references of other sources
      let fill := browseReferences resolve desc maxPerNode refsUsed refsRemaining
        ((dynRefs.filter fun dyn => nodeidEqual dyn.sourceNodeId desc.nodeId).map (·.ref)) fill
      let status := if fill.tooManyRefs then Status.badNoContinuationPoints.val else Status.good
      (⟨status, some refsUsed, fill.matchCount⟩, fill.refPool, refsUsed + fill.matchCount)

def browseNodes (maxPerNode : UInt32) : List BrowseDescription → List ReferenceDescription → Nat →
    List BrowseResult × List ReferenceDescription
  | [], refPool, _ => ([], refPool)
  | desc :: rest, refPool, refsUsed =>
    let (result, refPool, refsUsed) := browseNode resolve dynRefs maxPerNode desc refPool refsUsed
    let (results, refPool) := browseNodes maxPerNode rest refPool refsUsed
    (result :: results, refPool)

end

/-- `mu_browse_process_with_user_index`; the pool has `max_total_refs` entries. -/
def browseProcess (spaces : NodeSpaces) (dynRefs : List DynamicReference) (req : BrowseRequest)
    (maxResults : Nat) (refPool : List ReferenceDescription) :
    Except BadStatus (List BrowseResult × List ReferenceDescription) :=
  if maxResults < req.nodesToBrowse.length then .error Status.badInternalError
  else if viewIdIsNull req.viewId = false then
    .ok (req.nodesToBrowse.map fun _ => ⟨Status.badViewIdUnknown.val, none, 0⟩, refPool)
  else
    .ok (browseNodes (resolveNode spaces) dynRefs req.requestedMaxReferencesPerNode
      req.nodesToBrowse refPool 0)

/-! ## What Browse should answer -/

/-- `subtype` says what a subtype is. -/
def BrowseDescription.Selects (subtype : NodeId → NodeId → Bool) (desc : BrowseDescription)
    (r : Reference) (target : AddressNode) : Prop :=
  (desc.browseDirection = 2 ∨ r.isForward = decide (desc.browseDirection = 0)) ∧
  (desc.referenceTypeId = NodeId.null ∨
    if desc.includeSubtypes then subtype r.referenceTypeId desc.referenceTypeId = true
    else nodeidEqual desc.referenceTypeId r.referenceTypeId = true) ∧
  (desc.nodeClassMask = 0 ∨ target.nodeClass &&& desc.nodeClassMask ≠ 0)

instance (subtype : NodeId → NodeId → Bool) (desc : BrowseDescription) (r : Reference)
    (target : AddressNode) : Decidable (desc.Selects subtype r target) := by
  unfold BrowseDescription.Selects
  infer_instance

structure BrowseAnswer where
  statusCode : StatusCode
  references : List ReferenceDescription
  deriving DecidableEq

section

variable (subtype : NodeId → NodeId → Bool) (resolve : NodeId → Option AddressNode)

def described (desc : BrowseDescription) (r : Reference) : Option ReferenceDescription :=
  (resolve r.targetId).bind fun target =>
    if desc.Selects subtype r target then some (fillRefDesc r target desc.resultMask) else none

variable (dynRefs : List DynamicReference)

def browseSelection (desc : BrowseDescription) (node : AddressNode) : List ReferenceDescription :=
  (nodeReferences dynRefs desc.nodeId node).filterMap (described subtype resolve desc)

/-- How many references a node may take, if so many entries of the pool are left. -/
def browseBound (maxPerNode : UInt32) (left : Nat) : Nat :=
  if maxPerNode = 0 then left else min maxPerNode.toNat left

def browseAnswer (maxPerNode : UInt32) (desc : BrowseDescription) (left : Nat) : BrowseAnswer :=
  if 2 < desc.browseDirection then ⟨Status.badBrowseDirectionInvalid.val, []⟩
  else
    match resolve desc.nodeId with
    | none => ⟨Status.badNodeIdUnknown.val, []⟩
    | some node =>
      let selection := browseSelection subtype resolve dynRefs desc node
      let bound := browseBound maxPerNode left
      ⟨if selection.length ≤ bound then Status.good else Status.badNoContinuationPoints.val,
        selection.take bound⟩

/-- The answers for all nodes; each leaves less of the pool to those behind it. -/
def browseAnswers (maxPerNode : UInt32) : List BrowseDescription → Nat → List BrowseAnswer
  | [], _ => []
  | desc :: rest, left =>
    let answer := browseAnswer subtype resolve dynRefs maxPerNode desc left
    answer :: browseAnswers maxPerNode rest (left - answer.references.length)

end

def BrowseResult.answer (refPool : List ReferenceDescription) (result : BrowseResult) :
    BrowseAnswer :=
  ⟨result.statusCode, Buffer.slice refPool (result.references.getD 0) result.numReferences⟩

def BrowseResult.Owns (result : BrowseResult) (i : Nat) : Prop :=
  ∃ start ∈ result.references, start ≤ i ∧ i < start + result.numReferences

def BrowseResult.Apart (a b : BrowseResult) : Prop := ∀ i, a.Owns i → ¬ b.Owns i

/-! ## The loops -/

section

variable {resolve : NodeId → Option AddressNode} {dynRefs : List DynamicReference}
  {desc : BrowseDescription} {maxPerNode : UInt32}

theorem nodeidEqual_null {id : NodeId} : nodeidEqual id NodeId.null = true ↔ id = NodeId.null := by
  obtain ⟨ns,identifier⟩ := id
  cases identifier <;> simp [nodeidEqual,NodeId.null]

theorem referenceTypeMatches_iff {r : Reference} :
    referenceTypeMatches desc r = true ↔ desc.referenceTypeId = NodeId.null ∨
      if desc.includeSubtypes then refTypeIsSubtypeOf r.referenceTypeId desc.referenceTypeId = true
      else nodeidEqual desc.referenceTypeId r.referenceTypeId = true := by
  unfold referenceTypeMatches
  by_cases hnull : desc.referenceTypeId = NodeId.null
  · simp [hnull,nodeidEqual_null.mpr]
  have hany : ¬ nodeidEqual desc.referenceTypeId NodeId.null = true :=
    fun h => hnull (nodeidEqual_null.mp h)
  rw [if_neg hany]
  cases desc.includeSubtypes <;> simp [hnull]

theorem le_matchCount_iff {remaining matchCount : Nat} :
    browseBound maxPerNode remaining ≤ matchCount ↔
      (0 < maxPerNode ∧ maxPerNode.toNat ≤ matchCount) ∨ remaining ≤ matchCount := by
  unfold browseBound
  by_cases hzero : maxPerNode = 0
  · simp [hzero]
  have hpos : 0 < maxPerNode := UInt32.pos_iff_ne_zero.mpr hzero
  simp only [hzero,hpos,if_false,true_and]
  omega

theorem selects_iff (hdirection : ¬ 2 < desc.browseDirection) {r : Reference}
    {target : AddressNode} :
    desc.Selects refTypeIsSubtypeOf r target ↔ ¬ (desc.browseDirection = 0 ∧ r.isForward = false) ∧
      ¬ (desc.browseDirection = 1 ∧ r.isForward = true) ∧
      referenceTypeMatches desc r = true ∧
      ¬ (desc.nodeClassMask ≠ 0 ∧ target.nodeClass &&& desc.nodeClassMask = 0) := by
  have hdirs : desc.browseDirection = 0 ∨ desc.browseDirection = 1 ∨ desc.browseDirection = 2 := by
    simp only [UInt32.lt_iff_toNat_lt,← UInt32.toNat_inj] at hdirection ⊢
    simp at hdirection ⊢
    omega
  have hclass : ¬ (desc.nodeClassMask ≠ 0 ∧ target.nodeClass &&& desc.nodeClassMask = 0) ↔
      desc.nodeClassMask = 0 ∨ target.nodeClass &&& desc.nodeClassMask ≠ 0 := by
    rw [not_and_or,not_not]
  rw [referenceTypeMatches_iff,hclass,BrowseDescription.Selects]
  rcases hdirs with h | h | h <;> simp [h]

/-- One round of the loops: a reference that is not listed is passed over, one that is listed goes
into the pool, if there is room. -/
theorem browseReferences_cons (hdirection : ¬ 2 < desc.browseDirection) (start remaining : Nat)
    (r : Reference) (rest : List Reference) (fill : BrowseFill) :
    browseReferences resolve desc maxPerNode start remaining (r :: rest) fill =
      match described refTypeIsSubtypeOf resolve desc r with
      | none => browseReferences resolve desc maxPerNode start remaining rest fill
      | some d =>
        if browseBound maxPerNode remaining ≤ fill.matchCount then { fill with tooManyRefs := true }
        else browseReferences resolve desc maxPerNode start remaining rest { fill with
            refPool := fill.refPool.set (start + fill.matchCount) d
            matchCount := fill.matchCount + 1 } := by
  have hpass (hnot : ∀ target, ¬ desc.Selects refTypeIsSubtypeOf r target) :
      described refTypeIsSubtypeOf resolve desc r = none := by
    cases htarget : resolve r.targetId <;> simp [described,hnot]
  rw [browseReferences]
  by_cases hforward : desc.browseDirection = 0 ∧ r.isForward = false
  · rw [if_pos hforward,hpass fun target h => ((selects_iff hdirection).mp h).1 hforward]
  rw [if_neg hforward]
  by_cases hinverse : desc.browseDirection = 1 ∧ r.isForward = true
  · rw [if_pos hinverse,hpass fun target h => ((selects_iff hdirection).mp h).2.1 hinverse]
  rw [if_neg hinverse]
  cases htype : referenceTypeMatches desc r with
  | false =>
    have hnot (target : AddressNode) : ¬ desc.Selects refTypeIsSubtypeOf r target := by
      intro h
      have := ((selects_iff hdirection).mp h).2.2.1
      simp [htype] at this
    rw [if_pos rfl,hpass hnot]
  | true =>
    rw [if_neg (by simp)]
    cases htarget : resolve r.targetId with
    | none => simp [described,htarget]
    | some target =>
      have hselects : desc.Selects refTypeIsSubtypeOf r target ↔ _ := selects_iff hdirection
      by_cases hclass : desc.nodeClassMask ≠ 0 ∧ target.nodeClass &&& desc.nodeClassMask = 0
      · have hnot : ¬ desc.Selects refTypeIsSubtypeOf r target :=
          fun h => (hselects.mp h).2.2.2 hclass
        simp [described,htarget,hnot,hclass]
      have hyes : desc.Selects refTypeIsSubtypeOf r target :=
        hselects.mpr ⟨hforward,hinverse,htype,hclass⟩
      simp only [described,htarget,Option.bind_some,if_pos hyes,if_neg hclass]
      by_cases hmax : 0 < maxPerNode ∧ maxPerNode.toNat ≤ fill.matchCount
      · rw [if_pos hmax,if_pos (le_matchCount_iff.mpr (.inl hmax))]
      rw [if_neg hmax]
      by_cases hpool : remaining ≤ fill.matchCount
      · rw [if_pos hpool,if_pos (le_matchCount_iff.mpr (.inr hpool))]
      have hroom : ¬ browseBound maxPerNode remaining ≤ fill.matchCount := by
        rw [le_matchCount_iff]
        exact not_or_intro hmax hpool
      rw [if_neg hpool,if_neg hroom]

theorem browseReferences_eq (hdirection : ¬ 2 < desc.browseDirection) (start remaining : Nat)
    (refs : List Reference) (fill : BrowseFill) :
    browseReferences resolve desc maxPerNode start remaining refs fill =
      let found := refs.filterMap (described refTypeIsSubtypeOf resolve desc)
      let room := browseBound maxPerNode remaining - fill.matchCount
      ⟨Buffer.overwrite fill.refPool (start + fill.matchCount) (found.take room),
        fill.matchCount + (found.take room).length,
        fill.tooManyRefs || decide (room < found.length)⟩ := by
  induction refs generalizing fill with
  | nil => simp [browseReferences]
  | cons r rest ih =>
    rw [browseReferences_cons hdirection]
    cases hr : described refTypeIsSubtypeOf resolve desc r with
    | none => simp only [ih,List.filterMap_cons,hr]
    | some d =>
      simp only [List.filterMap_cons,hr]
      by_cases hfull : browseBound maxPerNode remaining ≤ fill.matchCount
      · simp [hfull]
      obtain ⟨room,hroom⟩ : ∃ room, browseBound maxPerNode remaining - fill.matchCount = room + 1 :=
        ⟨browseBound maxPerNode remaining - fill.matchCount - 1,by omega⟩
      have hless : browseBound maxPerNode remaining - (fill.matchCount + 1) = room := by omega
      rw [if_neg hfull,ih]
      simp only [hroom,hless,List.take_succ_cons,List.length_cons]
      refine congr (congrArg₂ _ ?_ ?_) ?_
      · rw [← Buffer.overwrite_singleton]
        exact (Buffer.overwrite_append _ _ [d] _).symm
      · omega
      · simp

theorem browseNode_eq (resolve : NodeId → Option AddressNode) (dynRefs : List DynamicReference)
    (maxPerNode : UInt32) (desc : BrowseDescription) (refPool : List ReferenceDescription)
    (refsUsed : Nat) :
    let answer := browseAnswer refTypeIsSubtypeOf resolve dynRefs maxPerNode desc
      (refPool.length - refsUsed)
    ∃ start, (∀ s ∈ start, s = refsUsed) ∧ (start = none → answer.references = []) ∧
      browseNode resolve dynRefs maxPerNode desc refPool refsUsed =
        (⟨answer.statusCode,start,answer.references.length⟩,
          Buffer.overwrite refPool refsUsed answer.references,
          refsUsed + answer.references.length) := by
  unfold browseAnswer browseNode
  by_cases hdirection : 2 < desc.browseDirection
  · exact ⟨none,by simp,by simp [hdirection],by simp [hdirection]⟩
  simp only [if_neg hdirection]
  cases hnode : resolve desc.nodeId with
  | none => exact ⟨none,by simp,by simp,by simp⟩
  | some node =>
    refine ⟨some refsUsed,by simp,by simp,?_⟩
    simp only [browseReferences_eq hdirection,browseSelection,nodeReferences,List.filterMap_append]
    generalize node.references.filterMap _ = own
    generalize List.filterMap _ _ = dynamic
    generalize browseBound maxPerNode _ = bound
    simp only [Nat.sub_zero,Nat.add_zero,Nat.zero_add,Bool.false_or]
    have htake : (own ++ dynamic).take bound =
        own.take bound ++ dynamic.take (bound - (own.take bound).length) := by
      rw [List.take_append,List.length_take]
      congr 2
      omega
    have hmany : (decide (bound < own.length) ||
        decide (bound - (own.take bound).length < dynamic.length)) =
          !decide ((own ++ dynamic).length ≤ bound) := by
      rw [Bool.eq_iff_iff]
      simp only [List.length_take,List.length_append,Bool.or_eq_true,decide_eq_true_eq,
        Bool.not_eq_true',decide_eq_false_iff_not]
      omega
    have hstatus : (if (!decide ((own ++ dynamic).length ≤ bound)) = true then
        Status.badNoContinuationPoints.val else Status.good) =
          if (own ++ dynamic).length ≤ bound then Status.good
          else Status.badNoContinuationPoints.val := by
      by_cases hfits : (own ++ dynamic).length ≤ bound
      · rw [decide_eq_true hfits,if_pos hfits]
        rfl
      · rw [decide_eq_false hfits,if_neg hfits]
        rfl
    rw [hmany,hstatus,htake,← Buffer.overwrite_append]
    simp only [List.length_append]

theorem length_browseAnswer_le (resolve : NodeId → Option AddressNode)
    (dynRefs : List DynamicReference) (maxPerNode : UInt32) (desc : BrowseDescription)
    (left : Nat) :
    (browseAnswer refTypeIsSubtypeOf resolve dynRefs maxPerNode desc left).references.length ≤
      left := by
  have hbound : browseBound maxPerNode left ≤ left := by
    unfold browseBound
    split <;> omega
  unfold browseAnswer
  split
  · exact Nat.zero_le _
  split
  · exact Nat.zero_le _
  · simp only [List.length_take]
    omega

/-- Browsing the nodes one after the other: earlier entries stay, the results are the answers read
from the pool as it is in the end, and no entry belongs to two of them. -/
theorem browseNodes_spec {descs : List BrowseDescription}
    {refPool refPool' : List ReferenceDescription} {refsUsed : Nat} {results : List BrowseResult}
    (hused : refsUsed ≤ refPool.length)
    (hrun : browseNodes resolve dynRefs maxPerNode descs refPool refsUsed = (results, refPool')) :
    (∀ pos n, pos + n ≤ refsUsed → Buffer.slice refPool' pos n = Buffer.slice refPool pos n) ∧
    results.map (·.answer refPool') =
      browseAnswers refTypeIsSubtypeOf resolve dynRefs maxPerNode descs (refPool.length - refsUsed) ∧
    (∀ result ∈ results, ∀ i, result.Owns i → refsUsed ≤ i) ∧
    results.Pairwise BrowseResult.Apart := by
  induction descs generalizing refPool refsUsed results with
  | nil =>
    cases hrun
    simp [browseAnswers]
  | cons desc rest ih =>
    obtain ⟨start,hstart,hnone,hnode⟩ :=
      browseNode_eq resolve dynRefs maxPerNode desc refPool refsUsed
    have hlen := length_browseAnswer_le resolve dynRefs maxPerNode desc (refPool.length - refsUsed)
    simp only [browseNodes,hnode,browseAnswers] at hrun ⊢
    generalize browseAnswer refTypeIsSubtypeOf resolve dynRefs maxPerNode desc
      (refPool.length - refsUsed) = answer
      at hnone hlen hrun ⊢
    -- the entries of this node, and the pool that the nodes behind it find
    have hroom : refsUsed + answer.references.length ≤ refPool.length := by omega
    cases htail : browseNodes resolve dynRefs maxPerNode rest
        (Buffer.overwrite refPool refsUsed answer.references)
        (refsUsed + answer.references.length) with
    | mk results' pool' =>
    rw [htail] at hrun
    cases hrun
    obtain ⟨hkept,hanswers,howns,hapart⟩ := ih (by simpa using hroom) htail
    have hown : Buffer.slice pool' (start.getD 0) answer.references.length = answer.references := by
      cases start with
      | none => simp [hnone rfl,Buffer.slice]
      | some s =>
        rw [Option.getD_some,hstart s rfl,hkept _ _ (Nat.le_refl _)]
        exact Buffer.slice_overwrite_self hroom
    refine ⟨?_,?_,?_,?_⟩
    · intro pos n hbefore
      rw [hkept pos n (by omega),Buffer.slice_overwrite_of_ge hbefore]
    · rw [List.map_cons,hanswers,Buffer.length_overwrite,Nat.sub_add_eq]
      simp only [BrowseResult.answer,hown]
    · intro result hresult i hi
      rcases List.mem_cons.mp hresult with rfl | hlater
      · obtain ⟨s,hs,hle,-⟩ := hi
        rw [← hstart s hs]
        exact hle
      · have := howns result hlater i hi
        omega
    · refine List.pairwise_cons.mpr ⟨?_,hapart⟩
      rintro result hlater i ⟨s,hs,-,hlt⟩ hi
      have hge := howns result hlater i hi
      rw [hstart s hs] at hlt
      exact absurd hlt (by simpa using hge)

end

/-- With what the table has for subtypes, Browse answers as specified. -/
theorem browse_tabled (spaces : NodeSpaces) (dynRefs : List DynamicReference)
    (req : BrowseRequest) (maxResults : Nat) (refPool : List ReferenceDescription)
    (hview : viewIdIsNull req.viewId = true) (hroom : req.nodesToBrowse.length ≤ maxResults) :
    ∃ results refPool', browseProcess spaces dynRefs req maxResults refPool =
        .ok (results, refPool') ∧
      results.map (·.answer refPool') = browseAnswers refTypeIsSubtypeOf (resolveNode spaces)
        dynRefs req.requestedMaxReferencesPerNode req.nodesToBrowse refPool.length ∧
      results.Pairwise BrowseResult.Apart := by
  cases hrun : browseNodes (resolveNode spaces) dynRefs req.requestedMaxReferencesPerNode
      req.nodesToBrowse refPool 0 with
  | mk results refPool' =>
    obtain ⟨-,hanswers,-,hapart⟩ := browseNodes_spec (Nat.zero_le _) hrun
    refine ⟨results,refPool',?_,hanswers,hapart⟩
    rw [browseProcess,if_neg (by omega),if_neg (by simp [hview]),hrun]

/-! ## The types concerned -/

/-- The table knows the types of the references that are asked for with subtypes, and the nodes
declare no other hierarchy of the types it knows. -/
structure TypesKnown (resolve : NodeId → Option AddressNode) (dynRefs : List DynamicReference)
    (descs : List BrowseDescription) : Prop where
  standard : KeepsStandard resolve dynRefs
  told : ∀ desc ∈ descs, desc.includeSubtypes = true → ∀ node, resolve desc.nodeId = some node →
    ∀ r ∈ nodeReferences dynRefs desc.nodeId node,
      TypeTold resolve dynRefs r.referenceTypeId desc.referenceTypeId

section

variable {resolve : NodeId → Option AddressNode} {dynRefs : List DynamicReference}

theorem described_congr {subtype subtype' : NodeId → NodeId → Bool} {desc : BrowseDescription}
    {r : Reference} (h : desc.referenceTypeId ≠ NodeId.null → desc.includeSubtypes = true →
      subtype r.referenceTypeId desc.referenceTypeId =
        subtype' r.referenceTypeId desc.referenceTypeId) :
    described subtype resolve desc r = described subtype' resolve desc r := by
  have hselects (target : AddressNode) :
      desc.Selects subtype r target ↔ desc.Selects subtype' r target := by
    unfold BrowseDescription.Selects
    by_cases hnull : desc.referenceTypeId = NodeId.null
    · simp only [hnull,true_or]
    by_cases hsubtypes : desc.includeSubtypes = true
    · rw [h hnull hsubtypes]
    · simp only [if_neg hsubtypes]
  unfold described
  congr 1
  funext target
  exact if_congr (hselects target) rfl rfl

theorem TypesKnown.browseAnswers_eq {descs : List BrowseDescription}
    (h : TypesKnown resolve dynRefs descs) (maxPerNode : UInt32) (left : Nat) :
    browseAnswers refTypeIsSubtypeOf resolve dynRefs maxPerNode descs left =
      browseAnswers (subtypeOf resolve dynRefs) resolve dynRefs maxPerNode descs left := by
  induction descs generalizing left with
  | nil => rfl
  | cons desc rest ih =>
    have hanswer (left : Nat) : browseAnswer refTypeIsSubtypeOf resolve dynRefs maxPerNode desc left =
        browseAnswer (subtypeOf resolve dynRefs) resolve dynRefs maxPerNode desc left := by
      unfold browseAnswer
      cases hnode : resolve desc.nodeId with
      | none => rfl
      | some node =>
        have hselection : browseSelection refTypeIsSubtypeOf resolve dynRefs desc node =
            browseSelection (subtypeOf resolve dynRefs) resolve dynRefs desc node := by
          refine List.filterMap_congr fun r hr => described_congr fun hnull hsubtypes => ?_
          exact refTypeIsSubtypeOf_eq h.standard hnull
            (h.told desc List.mem_cons_self hsubtypes node hnode r hr)
        simp only [hselection]
    have hrest := ih ⟨h.standard,fun desc hmem => h.told desc (List.mem_cons_of_mem _ hmem)⟩
    simp only [browseAnswers,hanswer,hrest]

end

namespace Sample

def ns0 (id : UInt32) : NodeId := ⟨0, .numeric id⟩

def object (id : UInt32) (name : List UInt8) (references : List Reference) : AddressNode where
  nodeId := ns0 id
  nodeClass := 1
  browseName := .ofBytes name
  displayName := .ofBytes name
  references := references
  typeDefinition := ns0 61

/-- The root with the folder below it, and the type of the reference between the two. -/
def rootSpace : AddressSpace :=
  ⟨1, [object 35 [0x4F] [⟨ns0 45, ns0 33, false⟩], object 84 [0x52] [⟨ns0 35, ns0 85, true⟩],
    object 85 [0x4F] []]⟩

def rootSpaces : NodeSpaces := ⟨none, none, none, rootSpace⟩

def browseRoot : BrowseRequest := ⟨NodeId.null, 0, [⟨ns0 84, 0, ns0 33, true, 0, 0⟩]⟩

def blankDescription : ReferenceDescription :=
  ⟨NodeId.null, false, NodeId.null, MuString.zero, MuString.zero, 0, NodeId.null⟩

theorem rootSpaces_typesKnown :
    TypesKnown (resolveNode rootSpaces) [] browseRoot.nodesToBrowse := by
  refine ⟨fun c parent hc hdeclares => ?_,fun desc hdesc _ node hnode r hr => .inl ⟨35,?_,by decide⟩⟩
  · rcases hdeclares with ⟨node,hnode,href⟩ | ⟨node,hnode,href⟩
    · have hmem : node ∈ rootSpace.nodes := mem_of_findBaseNode hnode
      rw [nodeReferences,List.filter_nil,List.map_nil,List.append_nil] at href
      fin_cases hmem <;> simp [object] at href
      cases href.1
    · have hall : knownTypes.all (fun c => (resolveNode rootSpaces (ns0 c)).all fun node =>
          node.references.all fun r => r.targetId = ns0 (refTypeSupertype c) ∧
            refTypeSupertype c ≠ 0) = true := by decide +kernel
      have hc := List.all_eq_true.mp hall c hc
      rw [show resolveNode rootSpaces (ns0 c) = some node from hnode] at hc
      rw [nodeReferences,List.filter_nil,List.map_nil,List.append_nil] at href
      obtain ⟨htarget,hne⟩ := of_decide_eq_true (List.all_eq_true.mp hc _ href)
      exact ⟨hne,htarget⟩
  · cases List.mem_singleton.mp hdesc
    have hroot : resolveNode rootSpaces (ns0 84) =
        some (object 84 [0x52] [⟨ns0 35,ns0 85,true⟩]) := by decide +kernel
    cases hroot.symm.trans hnode
    cases List.mem_singleton.mp hr
    rfl

/-- The group of certificate types of the application, with one of them. -/
def groupSpaces : NodeSpaces :=
  ⟨none, none, none, ⟨1, [object 12557 [0x43] [], object 15625 [0x47] [⟨ns0 49, ns0 12557, true⟩]]⟩⟩

def browseGroup : BrowseRequest := ⟨NodeId.null, 0, [⟨ns0 15625, 0, ns0 47, true, 0, 0⟩]⟩

end Sample

end MucOpcua
