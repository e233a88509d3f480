import MucOpcua.View.Browse

/-!
# TranslateBrowsePathsToNodeIds

The handler of `view_handler.c`. A path is walked one element at a time, and from each node the walk
follows the first reference that matches the element.
-/

namespace MucOpcua

/-- `browse_name_equals`. A node's own name has namespace index 0. -/
def browseNameEquals (nodeNamespaceIndex : UInt16) (nodeName : MuString)
    (targetNamespaceIndex : UInt16) (targetName : MuString) : Bool :=
  if nodeNamespaceIndex ≠ targetNamespaceIndex then false
  else if nodeName.length ≠ targetName.length then false
  else if nodeName.length ≤ 0 then nodeName.length == 0
  else nodeName.data == targetName.data

/-- `translate_path_element_t`. -/
structure TranslateElement where
  referenceTypeId : NodeId
  isInverse : Bool
  includeSubtypes : Bool
  targetNamespaceIndex : UInt16
  targetName : MuString

/-- `translate_path_request_t`. -/
structure TranslatePath where
  startingNode : NodeId
  elements : List TranslateElement

/-- One BrowsePathResult; every target has the remaining path index 0xFFFFFFFF. -/
structure BrowsePathResult where
  statusCode : StatusCode
  targets : List NodeId
  deriving DecidableEq

section

variable (find : NodeId → Option AddressNode)

def elementTarget (element : TranslateElement) (ref : Reference) : Option AddressNode :=
  let directionMatches := if element.isInverse then !ref.isForward else ref.isForward
  let typeMatches :=
    if element.includeSubtypes then refTypeIsSubtypeOf ref.referenceTypeId element.referenceTypeId
    else nodeidEqual ref.referenceTypeId element.referenceTypeId
  if directionMatches = false then none
  else if typeMatches = false then none
  else
    match find ref.targetId with
    | none => none
    | some target =>
      if browseNameEquals 0 target.browseName element.targetNamespaceIndex element.targetName then
        some target
      else none

/-- The loop over the references of a node stops at the first one that matches. -/
def nextNode (element : TranslateElement) (current : AddressNode) : Option AddressNode :=
  current.references.findSome? (elementTarget find element)

/-- The loop over the elements. `none` is a last element without a target name. -/
def walkElements : List TranslateElement → Option AddressNode → Option (Option AddressNode)
  | [], current => some current
  | element :: rest, current =>
    if rest.isEmpty ∧ (element.targetName.length ≤ 0 ∨ element.targetName.data = none) then none
    else walkElements rest (current.bind (nextNode find element))

def translatePath (path : TranslatePath) : BrowsePathResult :=
  match walkElements find path.elements (find path.startingNode) with
  | none => ⟨Status.badBrowseNameInvalid.val, []⟩
  | some none => ⟨Status.badNoMatch.val, []⟩
  | some (some node) => ⟨Status.good, [node.nodeId]⟩

end

def findUserNode (space : Option AddressSpace) (index : NodeIndex) (nodeId : NodeId) :
    Option AddressNode :=
  space.bind fun space => findNode space (some index) nodeId

/-- A request is refused as a whole if it has more paths or a path more elements than there is
room for. -/
def translateWithinLimits (paths : List TranslatePath) : Prop :=
  paths.length ≤ 16 ∧ ∀ path ∈ paths, path.elements.length ≤ 8

instance (paths : List TranslatePath) : Decidable (translateWithinLimits paths) := by
  unfold translateWithinLimits
  infer_instance

/-- `handle_translate_browse_paths`, on the paths of the request. -/
def handleTranslateBrowsePaths (space : Option AddressSpace) (index : NodeIndex)
    (paths : List TranslatePath) : Except BadStatus (List BrowsePathResult) :=
  if translateWithinLimits paths then .ok (paths.map (translatePath (findUserNode space index)))
  else .error Status.badTooManyOperations

/-! ## Chains -/

section

variable (subtype : NodeId → NodeId → Bool) (find : NodeId → Option AddressNode)

def TranslateElement.Matches (element : TranslateElement) (ref : Reference)
    (target : AddressNode) : Prop :=
  ref.isForward = !element.isInverse ∧
  (if element.includeSubtypes then subtype ref.referenceTypeId element.referenceTypeId = true
    else nodeidEqual ref.referenceTypeId element.referenceTypeId = true) ∧
  browseNameEquals 0 target.browseName element.targetNamespaceIndex element.targetName = true

/-- A node leads to a target by a reference that the element describes. -/
def Leads (element : TranslateElement) (node target : AddressNode) : Prop :=
  ∃ ref ∈ node.references, find ref.targetId = some target ∧ element.Matches subtype ref target

/-- A chain of references that matches the elements in order. -/
inductive Chain : AddressNode → List TranslateElement → AddressNode → Prop where
  | nil (node : AddressNode) : Chain node [] node
  | cons {element : TranslateElement} {rest : List TranslateElement}
      {node target last : AddressNode} (step : Leads subtype find element node target)
      (chain : Chain target rest last) : Chain node (element :: rest) last

def Continues (node : AddressNode) (elements : List TranslateElement) : Prop :=
  ∃ last, Chain subtype find node elements last

/-- The first reference of the node that the element describes leads to the target. -/
def FirstLeads (element : TranslateElement) (node target : AddressNode) : Prop :=
  ∃ before ref after, node.references = before ++ ref :: after ∧
    (∀ earlier ∈ before, ∀ other, find earlier.targetId = some other →
      ¬ element.Matches subtype earlier other) ∧
    find ref.targetId = some target ∧ element.Matches subtype ref target

/-- Where the elements can be matched from a node on, they can be matched through its first
matching reference, and the same holds where that leads. -/
def FirstMatchContinues : AddressNode → List TranslateElement → Prop
  | _, [] => True
  | node, element :: rest =>
    (∃ target, Leads subtype find element node target ∧ Continues subtype find target rest) →
      ∃ target, FirstLeads subtype find element node target ∧ Continues subtype find target rest ∧
        FirstMatchContinues target rest

def TranslatePath.Reaches (path : TranslatePath) (id : NodeId) : Prop :=
  ∃ start last, find path.startingNode = some start ∧
    Chain subtype find start path.elements last ∧ last.nodeId = id

end

/-- The hierarchy that the nodes of the space declare. -/
noncomputable def spaceSubtype (space : Option AddressSpace) (index : NodeIndex) :
    NodeId → NodeId → Bool :=
  subtypeOf (findUserNode space index) []

/-- The answer for a path is Good exactly if the path leads somewhere, and then it is a place where
the path leads. -/
def TranslatesRight (space : Option AddressSpace) (index : NodeIndex) (paths : List TranslatePath)
    (i : Nat) (path : TranslatePath) : Prop :=
  let answer := (handleTranslateBrowsePaths space index paths).toOption.bind (·[i]?)
  let Reaches := path.Reaches (spaceSubtype space index) (findUserNode space index)
  ((∃ result ∈ answer, result.statusCode = Status.good) ↔ ∃ id, Reaches id) ∧
  ∀ result ∈ answer, result.statusCode = Status.good → ∃ id, result.targets = [id] ∧ Reaches id

/-! ## The walk -/

section

variable {subtype : NodeId → NodeId → Bool} {find : NodeId → Option AddressNode}

theorem elementTarget_eq_some {element : TranslateElement} {ref : Reference}
    (hagree : element.includeSubtypes = true →
      refTypeIsSubtypeOf ref.referenceTypeId element.referenceTypeId =
        subtype ref.referenceTypeId element.referenceTypeId) {target : AddressNode} :
    elementTarget find element ref = some target ↔
      find ref.targetId = some target ∧ element.Matches subtype ref target := by
  have hdirection : (if element.isInverse then !ref.isForward else ref.isForward) = true ↔
      ref.isForward = !element.isInverse := by
    cases element.isInverse <;> cases ref.isForward <;> decide
  have htype : (if element.includeSubtypes then
      refTypeIsSubtypeOf ref.referenceTypeId element.referenceTypeId
      else nodeidEqual ref.referenceTypeId element.referenceTypeId) = true ↔
      if element.includeSubtypes then subtype ref.referenceTypeId element.referenceTypeId = true
      else nodeidEqual ref.referenceTypeId element.referenceTypeId = true := by
    split
    · next hsubtypes => rw [hagree hsubtypes]
    · exact Iff.rfl
  unfold elementTarget TranslateElement.Matches
  rw [← hdirection,← htype]
  generalize (if element.isInverse then !ref.isForward else ref.isForward) = direction
  generalize (if element.includeSubtypes then
      refTypeIsSubtypeOf ref.referenceTypeId element.referenceTypeId
      else nodeidEqual ref.referenceTypeId element.referenceTypeId) = type
  cases direction <;> cases type <;> simp
  cases find ref.targetId with
  | none => simp
  | some found =>
    simp only [Option.some.injEq]
    constructor
    · intro h
      split at h
      · next hname =>
        cases h
        exact ⟨rfl,hname⟩
      · cases h
    · rintro ⟨rfl,hname⟩
      rw [if_pos hname]

def walkFrom (find : NodeId → Option AddressNode) :
    List TranslateElement → AddressNode → Option AddressNode
  | [], node => some node
  | element :: rest, node => (nextNode find element node).bind (walkFrom find rest)

/-- The table says about the references of all nodes what `subtype` says. -/
def TableAgrees (subtype : NodeId → NodeId → Bool) (find : NodeId → Option AddressNode)
    (elements : List TranslateElement) : Prop :=
  ∀ element ∈ elements, element.includeSubtypes = true → ∀ id node, find id = some node →
    ∀ ref ∈ node.references, refTypeIsSubtypeOf ref.referenceTypeId element.referenceTypeId =
      subtype ref.referenceTypeId element.referenceTypeId

variable {element : TranslateElement} {elements : List TranslateElement}

theorem nextNode_eq_some (hagree : TableAgrees subtype find (element :: elements)) {id : NodeId}
    {node target : AddressNode} (hnode : find id = some node) :
    nextNode find element node = some target ↔ FirstLeads subtype find element node target := by
  have htarget {ref : Reference} (hmem : ref ∈ node.references) {target : AddressNode} :
      elementTarget find element ref = some target ↔
        find ref.targetId = some target ∧ element.Matches subtype ref target :=
    elementTarget_eq_some fun hsubtypes =>
      hagree element List.mem_cons_self hsubtypes id node hnode ref hmem
  rw [nextNode,List.findSome?_eq_some_iff]
  constructor
  · rintro ⟨before,ref,after,hrefs,href,hbefore⟩
    obtain ⟨hfound,hmatches⟩ := (htarget (by simp [hrefs])).mp href
    refine ⟨before,ref,after,hrefs,fun earlier hmem other hother hmatch => ?_,hfound,hmatches⟩
    have hsome := (htarget (by simp [hrefs,hmem])).mpr ⟨hother,hmatch⟩
    rw [hbefore earlier hmem] at hsome
    cases hsome
  · rintro ⟨before,ref,after,hrefs,hbefore,hfound,hmatches⟩
    refine ⟨before,ref,after,hrefs,(htarget (by simp [hrefs])).mpr ⟨hfound,hmatches⟩,?_⟩
    intro earlier hmem
    cases hother : elementTarget find element earlier with
    | none => rfl
    | some other =>
      obtain ⟨hfound',hmatch⟩ := (htarget (by simp [hrefs,hmem])).mp hother
      exact absurd hmatch (hbefore earlier hmem other hfound')

theorem FirstLeads.leads {node target : AddressNode}
    (h : FirstLeads subtype find element node target) : Leads subtype find element node target := by
  obtain ⟨before,ref,after,hrefs,-,hfound,hmatches⟩ := h
  exact ⟨ref,by simp [hrefs],hfound,hmatches⟩

theorem FirstLeads.found {node target : AddressNode}
    (h : FirstLeads subtype find element node target) : ∃ id, find id = some target := by
  obtain ⟨-,ref,-,-,-,hfound,-⟩ := h
  exact ⟨_,hfound⟩

theorem TableAgrees.rest (h : TableAgrees subtype find (element :: elements)) :
    TableAgrees subtype find elements :=
  fun element hmem => h element (List.mem_cons_of_mem _ hmem)

theorem walkElements_of_named
    (hnames : ∀ element ∈ elements, 0 < element.targetName.length) (current : Option AddressNode) :
    walkElements find elements current = some (current.bind (walkFrom find elements)) := by
  induction elements generalizing current with
  | nil => cases current <;> rfl
  | cons element rest ih =>
    have hname : 0 < element.targetName.length := hnames element List.mem_cons_self
    have hdata : element.targetName.data ≠ none := by
      have := element.targetName.present hname
      intro hnone
      simp [hnone] at this
    have hnot : ¬ (rest.isEmpty = true ∧
        (element.targetName.length ≤ 0 ∨ element.targetName.data = none)) := by
      rintro ⟨-,hle | hnone⟩
      · omega
      · exact hdata hnone
    rw [walkElements,if_neg hnot,ih fun e he => hnames e (List.mem_cons_of_mem _ he)]
    cases current <;> rfl

theorem chain_of_walkFrom (hagree : TableAgrees subtype find elements) {id : NodeId}
    {node last : AddressNode} (hnode : find id = some node)
    (h : walkFrom find elements node = some last) : Chain subtype find node elements last := by
  induction elements generalizing id node with
  | nil =>
    cases h
    exact .nil last
  | cons element rest ih =>
    obtain ⟨target,hnext,hrest⟩ := Option.bind_eq_some_iff.mp h
    have hfirst := (nextNode_eq_some hagree hnode).mp hnext
    obtain ⟨id',htarget⟩ := hfirst.found
    exact .cons hfirst.leads (ih hagree.rest htarget hrest)

theorem exists_walkFrom_iff (hagree : TableAgrees subtype find elements) {id : NodeId}
    {node : AddressNode} (hnode : find id = some node) :
    (∃ last, walkFrom find elements node = some last) ↔
      Continues subtype find node elements ∧ FirstMatchContinues subtype find node elements := by
  induction elements generalizing id node with
  | nil => exact ⟨fun _ => ⟨⟨node,.nil node⟩,trivial⟩,fun _ => ⟨node,rfl⟩⟩
  | cons element rest ih =>
    constructor
    · rintro ⟨last,h⟩
      obtain ⟨target,hnext,hrest⟩ := Option.bind_eq_some_iff.mp h
      have hfirst := (nextNode_eq_some hagree hnode).mp hnext
      obtain ⟨id',htarget⟩ := hfirst.found
      obtain ⟨hcontinues,hthere⟩ := (ih hagree.rest htarget).mp ⟨last,hrest⟩
      exact ⟨⟨last,chain_of_walkFrom hagree hnode h⟩,fun _ => ⟨target,hfirst,hcontinues,hthere⟩⟩
    · rintro ⟨⟨last,hchain⟩,hfirst⟩
      cases hchain with
      | cons step chain =>
        obtain ⟨target,hlead,hcontinues,hrest⟩ := hfirst ⟨_,step,last,chain⟩
        obtain ⟨id',htarget⟩ := hlead.found
        obtain ⟨end',hwalk⟩ := (ih hagree.rest htarget).mpr ⟨hcontinues,hrest⟩
        exact ⟨end',Option.bind_eq_some_iff.mpr
          ⟨target,(nextNode_eq_some hagree hnode).mpr hlead,hwalk⟩⟩

variable {path : TranslatePath}

theorem translatePath_of_named (hnames : ∀ element ∈ path.elements, 0 < element.targetName.length) :
    translatePath find path =
      match (find path.startingNode).bind (walkFrom find path.elements) with
      | none => ⟨Status.badNoMatch.val, []⟩
      | some node => ⟨Status.good, [node.nodeId]⟩ := by
  rw [translatePath,walkElements_of_named hnames]
  cases (find path.startingNode).bind (walkFrom find path.elements) <;> rfl

theorem reaches_of_translatePath (hagree : TableAgrees subtype find path.elements)
    (hnames : ∀ element ∈ path.elements, 0 < element.targetName.length)
    (hgood : (translatePath find path).statusCode = Status.good) :
    ∃ id, (translatePath find path).targets = [id] ∧ path.Reaches subtype find id := by
  rw [translatePath_of_named hnames] at hgood ⊢
  cases hwalk : (find path.startingNode).bind (walkFrom find path.elements) with
  | none =>
    rw [hwalk] at hgood
    exact absurd hgood (by decide)
  | some node =>
    obtain ⟨start,hstart,hrest⟩ := Option.bind_eq_some_iff.mp hwalk
    exact ⟨node.nodeId,rfl,start,node,hstart,chain_of_walkFrom hagree hstart hrest,rfl⟩

theorem translatePath_good_iff (hagree : TableAgrees subtype find path.elements)
    (hnames : ∀ element ∈ path.elements, 0 < element.targetName.length) :
    (translatePath find path).statusCode = Status.good ↔
      ∃ start, find path.startingNode = some start ∧
        Continues subtype find start path.elements ∧
        FirstMatchContinues subtype find start path.elements := by
  have hwalk : (translatePath find path).statusCode = Status.good ↔
      ∃ node, (find path.startingNode).bind (walkFrom find path.elements) = some node := by
    rw [translatePath_of_named hnames]
    cases (find path.startingNode).bind (walkFrom find path.elements) with
    | none => exact ⟨fun h => absurd h (by decide),fun ⟨_,h⟩ => nomatch h⟩
    | some node => exact ⟨fun _ => ⟨node,rfl⟩,fun _ => rfl⟩
  rw [hwalk]
  constructor
  · rintro ⟨node,h⟩
    obtain ⟨start,hstart,hrest⟩ := Option.bind_eq_some_iff.mp h
    exact ⟨start,hstart,(exists_walkFrom_iff hagree hstart).mp ⟨node,hrest⟩⟩
  · rintro ⟨start,hstart,hboth⟩
    obtain ⟨node,hrest⟩ := (exists_walkFrom_iff hagree hstart).mpr hboth
    exact ⟨node,Option.bind_eq_some_iff.mpr ⟨start,hstart,hrest⟩⟩

end

/-- The elements name their types, and the table knows the types of the references that are looked
at for subtypes; the nodes declare no other hierarchy of the types it knows. -/
structure PathTypesKnown (find : NodeId → Option AddressNode) (elements : List TranslateElement) :
    Prop where
  standard : KeepsStandard find []
  given : ∀ element ∈ elements, element.referenceTypeId ≠ NodeId.null
  told : ∀ element ∈ elements, element.includeSubtypes = true → ∀ id node, find id = some node →
    ∀ ref ∈ node.references, TypeTold find [] ref.referenceTypeId element.referenceTypeId

theorem PathTypesKnown.agrees {find : NodeId → Option AddressNode}
    {elements : List TranslateElement} (h : PathTypesKnown find elements) :
    TableAgrees (subtypeOf find []) find elements :=
  fun element hmem hsubtypes id node hnode ref href =>
    refTypeIsSubtypeOf_eq h.standard (h.given element hmem)
      (h.told element hmem hsubtypes id node hnode ref href)

/-- If a path leads somewhere, the request is within the limits and no first match leads away from
all chains. -/
def TranslateSucceeds (space : Option AddressSpace) (index : NodeIndex)
    (paths : List TranslatePath) (path : TranslatePath) : Prop :=
  ∀ start, findUserNode space index path.startingNode = some start →
    Continues (spaceSubtype space index) (findUserNode space index) start path.elements →
      translateWithinLimits paths ∧
        FirstMatchContinues (spaceSubtype space index) (findUserNode space index) start path.elements

namespace Sample

def componentTo (id : UInt32) : Reference := ⟨ns0 47, ns0 id, true⟩

def component (name : List UInt8) : TranslateElement :=
  ⟨ns0 47, false, false, 0, .ofBytes name⟩

/-- A node with two components of the same name, of which only the second has a component. -/
def twinSpace : AddressSpace :=
  ⟨2, [object 1 [0x72] [componentTo 2, componentTo 3], object 2 [0x78] [],
    object 3 [0x78] [componentTo 4], object 4 [0x79] []]⟩

def freshIndex : NodeIndex := ⟨8, [], false, none, 0⟩

def twinPath : TranslatePath := ⟨ns0 1, [component [0x78], component [0x79]]⟩

def childPath : TranslatePath := ⟨ns0 3, [component [0x79]]⟩

end Sample

namespace Sample

theorem component_matches (subtype : NodeId → NodeId → Bool) (id : UInt32) {name : List UInt8}
    {target : AddressNode} (hname : browseNameEquals 0 target.browseName 0 (.ofBytes name) = true) :
    (component name).Matches subtype (componentTo id) target :=
  ⟨rfl,by simp [component,componentTo,ns0,nodeidEqual],hname⟩

/-- Nothing in the space is a HasSubtype reference. -/
theorem twinSpace_typesKnown {elements : List TranslateElement}
    (h : ∀ element ∈ elements, element.referenceTypeId = ns0 47) :
    PathTypesKnown (findUserNode (some twinSpace) freshIndex) elements := by
  have hrefs {id : NodeId} {node : AddressNode}
      (hnode : findUserNode (some twinSpace) freshIndex id = some node) (ref : Reference)
      (href : ref ∈ node.references) : ref.referenceTypeId = ns0 47 := by
    have hall : twinSpace.nodes.all (fun node => node.references.all fun ref =>
        ref.referenceTypeId = ns0 47) = true := by decide
    have hmem : node ∈ twinSpace.nodes :=
      mem_of_findNode (show findNode twinSpace (some freshIndex) id = some node from hnode)
    exact of_decide_eq_true (List.all_eq_true.mp (List.all_eq_true.mp hall node hmem) ref href)
  refine ⟨fun c parent _ hdeclares => ?_,fun element hmem => ?_,
    fun element _ _ id node hnode ref href => .inl ⟨47,hrefs hnode ref href,by decide⟩⟩
  · rcases hdeclares with ⟨node,hnode,href⟩ | ⟨node,hnode,href⟩
    all_goals
      rw [nodeReferences,List.filter_nil,List.map_nil,List.append_nil] at href
      have hwrong : (⟨0,.numeric 45⟩ : NodeId) = ns0 47 := hrefs hnode _ href
      exact absurd hwrong (by decide)
  · rw [h element hmem]
    decide

end Sample

end MucOpcua
