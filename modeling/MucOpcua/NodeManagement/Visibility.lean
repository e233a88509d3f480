import MucOpcua.NodeManagement.DynamicSpace

/-!
# Dynamic nodes as seen by Read and Browse

AddNodes enters a node into the dynamic table. `handle_read` and `handle_browse` resolve NodeIds in
the configured address space, the runtime nodes of the base and the base address space, and the
dynamic table is none of these.
-/

namespace MucOpcua

/-! ## Read and Browse -/

structure ServerSpaces where
  config : NodeConfig
  index : NodeIndex

/-- The spaces that `handle_read` and `handle_browse` resolve NodeIds in. -/
def ServerSpaces.resolved (server : ServerSpaces) : NodeSpaces :=
  ⟨server.config.configured, some server.index, some server.config.runtime, server.config.base⟩

inductive CommonAttribute where
  | nodeId | nodeClass | browseName | displayName
  deriving DecidableEq

inductive CommonValue where
  | nodeId (value : NodeId)
  | int32 (value : UInt32)
  | qualifiedName (value : QualifiedName)
  | localizedText (value : LocalizedText)
  deriving DecidableEq

/-- `read_attribute` for these attributes. The namespace index of the browse name is taken from the
NodeId. -/
def readAttribute (node : AddressNode) : CommonAttribute → CommonValue
  | .nodeId => .nodeId node.nodeId
  | .nodeClass => .int32 node.nodeClass
  | .browseName => .qualifiedName ⟨node.nodeId.namespaceIndex, node.browseName⟩
  | .displayName => .localizedText ⟨MuString.null, node.displayName⟩

/-- One round of `mu_read_process_with_user_index` for these attributes. -/
def handleRead (server : ServerSpaces) (nodeId : NodeId) (attributeId : CommonAttribute) :
    Except BadStatus CommonValue :=
  if nodeId = NodeId.null then .error Status.badNodeIdInvalid
  else
    match resolveNode server.resolved nodeId with
    | none => .error Status.badNodeIdUnknown
    | some node => .ok (readAttribute node attributeId)

/-- `handle_browse` of one node without a limit of the client's: 8 results and a pool of 32. -/
def handleBrowse (server : ServerSpaces) (space : DynamicSpace) (desc : BrowseDescription) :
    BrowseAnswer :=
  let blank : ReferenceDescription :=
    ⟨NodeId.null, false, NodeId.null, MuString.zero, MuString.zero, 0, NodeId.null⟩
  match browseProcess server.resolved space.references ⟨NodeId.null, 0, [desc]⟩ 8
      (List.replicate 32 blank) with
  | .ok ([result], refPool) => result.answer refPool
  | .ok _ => ⟨Status.good, []⟩
  | .error status => ⟨status.val, []⟩

/-! ## Runs -/

inductive NodeEvent where
  | added (item : AddNodesItem) (nodeId : NodeId)
  | deleted (nodeId : NodeId)

structure NodeRun where
  space : DynamicSpace
  history : List NodeEvent

def goodResults {α β γ : Type} (items : List α) (results : Except BadStatus (List β))
    (event : α → β → Option γ) : List γ :=
  match results with
  | .error _ => []
  | .ok results => (items.zip results).filterMap fun (item, result) => event item result

/-- What a request adds and deletes, going by its results. -/
def NodeInput.events (cfg : NodeConfig) (space : DynamicSpace) : NodeInput → List NodeEvent
  | .addNodes items =>
    goodResults items (addNodesProcess cfg items space).1 fun item result =>
      if result.statusCode = Status.good then some (.added item result.addedNodeId) else none
  | .deleteNodes items =>
    goodResults items (deleteNodesProcess cfg items space).1 fun item status =>
      if status = Status.good then some (.deleted item.nodeId) else none
  | .addReferences _ | .deleteReferences _ => []

def NodeRun.step (cfg : NodeConfig) (run : NodeRun) (input : NodeInput) : NodeRun :=
  ⟨input.serve cfg run.space, run.history ++ input.events cfg run.space⟩

def NodeRun.of (cfg : NodeConfig) (inputs : List NodeInput) : NodeRun :=
  inputs.foldl (NodeRun.step cfg) ⟨⟨[], []⟩, []⟩

/-! ## Visibility -/

def Live (history : List NodeEvent) (item : AddNodesItem) (nodeId : NodeId) : Prop :=
  ∃ before after, history = before ++ .added item nodeId :: after ∧
    ∀ d, .deleted d ∈ after → nodeidEqual nodeId d = false

def Gone (history : List NodeEvent) (nodeId : NodeId) : Prop :=
  ∃ before after, history = before ++ .deleted nodeId :: after ∧
    ∀ item a, .added item a ∈ after → nodeidEqual a nodeId = false

def addedValue (item : AddNodesItem) (nodeId : NodeId) : CommonAttribute → CommonValue
  | .nodeId => .nodeId nodeId
  | .nodeClass => .int32 item.nodeClass
  | .browseName =>
    .qualifiedName ⟨item.browseName.namespaceIndex, dynamicStringCopy item.browseName.name⟩
  | .displayName =>
    let name := (addNodesItemDisplayName item).toOption.join.getD item.browseName.name
    .localizedText ⟨MuString.null, dynamicStringCopy name⟩

/-- A description that asks for the reference from the parent of an added node, or for one that was
added to it, with a class mask that its class matches. -/
def AsksFor (space : DynamicSpace) (item : AddNodesItem) (nodeId : NodeId)
    (desc : BrowseDescription) : Prop :=
  ¬ 2 < desc.browseDirection ∧ ∃ r : Reference,
    (desc.nodeId = item.parentNodeId ∧ r = ⟨item.referenceTypeId, nodeId, true⟩ ∨
      ∃ dyn ∈ space.references, nodeidEqual dyn.sourceNodeId desc.nodeId = true ∧
        nodeidEqual dyn.ref.targetId nodeId = true ∧ r = dyn.ref) ∧
    desc.Selects refTypeIsSubtypeOf r (dynamicNode item nodeId MuString.null)

structure Shown (server : ServerSpaces) (space : DynamicSpace) (item : AddNodesItem)
    (nodeId : NodeId) : Prop where
  read : ∀ attributeId,
    handleRead server nodeId attributeId = .ok (addedValue item nodeId attributeId)
  browsed : ∀ desc, desc.nodeId = nodeId →
    (handleBrowse server space desc).statusCode ≠ Status.badNodeIdUnknown.val
  listed : ∀ desc, AsksFor space item nodeId desc →
    ∃ d ∈ (handleBrowse server space desc).references, nodeidEqual d.nodeId nodeId = true

structure Hidden (server : ServerSpaces) (space : DynamicSpace) (nodeId : NodeId) : Prop where
  read : ∀ attributeId value, handleRead server nodeId attributeId ≠ .ok value
  browsed : ∀ desc, desc.nodeId = nodeId → ¬ 2 < desc.browseDirection →
    (handleBrowse server space desc).statusCode = Status.badNodeIdUnknown.val
  unlisted : ∀ desc, ∀ d ∈ (handleBrowse server space desc).references,
    nodeidEqual d.nodeId nodeId = false

def NodesVisible (server : ServerSpaces) (run : NodeRun) : Prop :=
  (∀ item nodeId, Live run.history item nodeId → Shown server run.space item nodeId) ∧
    ∀ nodeId, Gone run.history nodeId → Hidden server run.space nodeId

/-! ## Nodes that are there already

Read and Browse do not look at the dynamic nodes. What they say about an added node is right if the
server's own spaces have the same node below the same parent. -/

/-- What Browse lists of a node: the first 32 of its references that are asked for, as far as their
targets are in the spaces that ids are resolved in. -/
def browsable (server : ServerSpaces) (space : DynamicSpace) (desc : BrowseDescription)
    (node : AddressNode) : List ReferenceDescription :=
  (browseSelection refTypeIsSubtypeOf (resolveNode server.resolved) space.references desc node).take
    32

/-- An item that asks for the id of a node that the resolved spaces have, with the class and the
names it has there, below a parent of at most 32 references that refers to it. -/
structure AddNodesItem.There (server : ServerSpaces) (item : AddNodesItem) : Prop where
  named : ¬ item.Automatic
  node : ∃ node, resolveNode server.resolved (dynamicNodeidCopy item.requestedNewNodeId) = some node ∧
    ∀ attributeId, readAttribute node attributeId =
      addedValue item (dynamicNodeidCopy item.requestedNewNodeId) attributeId
  parent : ∃ parent, resolveNode server.resolved item.parentNodeId = some parent ∧
    parent.references.length ≤ 32 ∧
    ⟨item.referenceTypeId, dynamicNodeidCopy item.requestedNewNodeId, true⟩ ∈ parent.references

/-- A request that adds such nodes only. -/
def NodeInput.AddsThere (server : ServerSpaces) : NodeInput → Prop
  | .addNodes items => ∀ item ∈ items, item.There server
  | _ => False

theorem handleBrowse_eq (server : ServerSpaces) (space : DynamicSpace) (desc : BrowseDescription) :
    handleBrowse server space desc =
      browseAnswer refTypeIsSubtypeOf (resolveNode server.resolved) space.references 0 desc 32 := by
  unfold handleBrowse
  dsimp only
  generalize hpool : List.replicate 32 _ = refPool
  have hlen : refPool.length = 32 := by rw [← hpool,List.length_replicate]
  have hprocess : browseProcess server.resolved space.references ⟨NodeId.null,0,[desc]⟩ 8 refPool =
      .ok (browseNodes (resolveNode server.resolved) space.references 0 [desc] refPool 0) := rfl
  rw [hprocess]
  cases hrun : browseNodes (resolveNode server.resolved) space.references 0 [desc] refPool 0 with
  | mk results refPool' =>
    have hanswers := (browseNodes_spec (Nat.zero_le _) hrun).2.1
    rw [hlen] at hanswers
    match results, hanswers with
    | [result], hanswers => exact List.head_eq_of_cons_eq hanswers
    | [], hanswers => simp [browseAnswers] at hanswers
    | _ :: _ :: _, hanswers => simp [browseAnswers] at hanswers

section

variable {server : ServerSpaces} {space : DynamicSpace} {item : AddNodesItem} {nodeId : NodeId}
  {desc : BrowseDescription}

theorem handleBrowse_some {node : AddressNode} (hdirection : ¬ 2 < desc.browseDirection)
    (hnode : resolveNode server.resolved desc.nodeId = some node) :
    (handleBrowse server space desc).references = browsable server space desc node ∧
      (handleBrowse server space desc).statusCode ≠ Status.badNodeIdUnknown.val := by
  rw [handleBrowse_eq]
  simp only [browseAnswer,if_neg hdirection,hnode]
  refine ⟨rfl,?_⟩
  split <;> decide

theorem handleBrowse_direction (hdirection : 2 < desc.browseDirection) :
    handleBrowse server space desc = ⟨Status.badBrowseDirectionInvalid.val, []⟩ := by
  rw [handleBrowse_eq]
  simp [browseAnswer,hdirection]

theorem handleRead_ok_iff {attributeId : CommonAttribute} {value : CommonValue} :
    handleRead server nodeId attributeId = .ok value ↔ nodeId ≠ NodeId.null ∧
      ∃ node, resolveNode server.resolved nodeId = some node ∧
        readAttribute node attributeId = value := by
  unfold handleRead
  by_cases hnull : nodeId = NodeId.null
  · simp [hnull]
  · cases hnode : resolveNode server.resolved nodeId <;> simp [hnull]

/-! ### One added node -/

theorem AddNodesItem.There.notNull (h : item.There server) :
    dynamicNodeidCopy item.requestedNewNodeId ≠ NodeId.null := by
  intro hnull
  apply h.named
  have hidentifier := congrArg NodeId.identifier hnull
  unfold dynamicNodeidCopy at hidentifier
  split at hidentifier
  · cases hidentifier
  · exact hidentifier

theorem AddNodesItem.There.listed (h : item.There server) (hreferences : space.references = [])
    (hasks : AsksFor space item (dynamicNodeidCopy item.requestedNewNodeId) desc) :
    ∃ d ∈ (handleBrowse server space desc).references,
      nodeidEqual d.nodeId (dynamicNodeidCopy item.requestedNewNodeId) = true := by
  obtain ⟨hdirection,r,hr | ⟨dyn,hdyn,-⟩,hselects⟩ := hasks
  swap
  · rw [hreferences] at hdyn
    cases hdyn
  obtain ⟨hparent,rfl⟩ := hr
  obtain ⟨parent,hresolved,hfew,href⟩ := h.parent
  obtain ⟨node,hnode,hvalues⟩ := h.node
  have hclass : node.nodeClass = item.nodeClass := CommonValue.int32.inj (hvalues .nodeClass)
  have hid : node.nodeId = dynamicNodeidCopy item.requestedNewNodeId :=
    CommonValue.nodeId.inj (hvalues .nodeId)
  rw [← hparent] at hresolved
  rw [(handleBrowse_some hdirection hresolved).1]
  let r : Reference := ⟨item.referenceTypeId,dynamicNodeidCopy item.requestedNewNodeId,true⟩
  have hselects' : desc.Selects refTypeIsSubtypeOf r node := by
    simpa only [BrowseDescription.Selects,dynamicNode,hclass] using hselects
  have hdescribed : described refTypeIsSubtypeOf (resolveNode server.resolved) desc r =
      some (fillRefDesc r node desc.resultMask) := by
    simp only [described,r,hnode,Option.bind_some,if_pos hselects']
  have hall : nodeReferences space.references desc.nodeId parent = parent.references := by
    rw [nodeReferences,hreferences,List.filter_nil,List.map_nil,List.append_nil]
  refine ⟨fillRefDesc r node desc.resultMask,?_,?_⟩
  · rw [browsable,browseSelection,hall,
      List.take_of_length_le ((List.length_filterMap_le _ _).trans hfew)]
    exact List.mem_filterMap.mpr ⟨r,href,hdescribed⟩
  · rw [show (fillRefDesc r node desc.resultMask).nodeId = node.nodeId from rfl,hid]
    exact nodeidEqual_refl (dynamicNodeidCopy_known item.known)

theorem AddNodesItem.There.shown (h : item.There server) (hreferences : space.references = []) :
    Shown server space item (dynamicNodeidCopy item.requestedNewNodeId) := by
  obtain ⟨node,hnode,hvalues⟩ := h.node
  refine ⟨fun attributeId => ?_,fun desc hdesc => ?_,fun desc hasks => h.listed hreferences hasks⟩
  · exact handleRead_ok_iff.mpr ⟨h.notNull,node,hnode,hvalues attributeId⟩
  · by_cases hdirection : 2 < desc.browseDirection
    · rw [handleBrowse_direction hdirection]
      decide
    · rw [← hdesc] at hnode
      exact (handleBrowse_some hdirection hnode).2

/-! ### A run -/

theorem addNodesItem_named {cfg : NodeConfig} (hnamed : ¬ item.Automatic)
    (hgood : (addNodesItem cfg item space).1.statusCode = Status.good) :
    (addNodesItem cfg item space).1.addedNodeId = dynamicNodeidCopy item.requestedNewNodeId := by
  obtain ⟨hvalid,hroom,hconfigured,hdynamic⟩ := addNodesItem_good_iff.mp hgood
  obtain ⟨name,hadded⟩ := addNodesItem_good hvalid hroom hconfigured hdynamic
  rw [hadded,assignedNodeId_requested hnamed]
  rfl

theorem addNodesItems_added {cfg : NodeConfig} {items : List AddNodesItem}
    (hitems : ∀ item ∈ items, ¬ item.Automatic) :
    (addNodesItems cfg items space).2.references = space.references ∧
    ∀ item result, (item, result) ∈ items.zip (addNodesItems cfg items space).1 →
      result.statusCode = Status.good →
        item ∈ items ∧ result.addedNodeId = dynamicNodeidCopy item.requestedNewNodeId := by
  induction items generalizing space with
  | nil => exact ⟨rfl,fun _ _ h => nomatch h⟩
  | cons first rest ih =>
    obtain ⟨hreferences,hrest⟩ := @ih (addNodesItem cfg first space).2
      fun item hitem => hitems item (.tail _ hitem)
    refine ⟨hreferences.trans (addNodesItem_references ..),fun item result hpair hgood => ?_⟩
    rcases List.mem_cons.mp hpair with heq | hpair
    · cases heq
      exact ⟨.head _,addNodesItem_named (hitems _ (.head _)) hgood⟩
    · exact (hrest item result hpair hgood).imp_left (.tail _)

/-- What holds of a run of such requests: there are no dynamic references, and every event added a
node that is there. -/
def AddedThere (server : ServerSpaces) (run : NodeRun) : Prop :=
  run.space.references = [] ∧ ∀ event ∈ run.history, ∃ item : AddNodesItem,
    item.There server ∧ event = .added item (dynamicNodeidCopy item.requestedNewNodeId)

theorem AddedThere.step {run : NodeRun} {input : NodeInput} (h : AddedThere server run)
    (hinput : input.AddsThere server) : AddedThere server (run.step server.config input) := by
  cases input with
  | addNodes items =>
    obtain ⟨hreferences,hresults⟩ := @addNodesItems_added run.space server.config items
      fun item hitem => (hinput item hitem).named
    refine ⟨?_,fun event hevent => ?_⟩
    · exact nodeManagementGate_keeps (P := fun space => space.references = []) h.1
        (hreferences.trans h.1)
    rcases List.mem_append.mp hevent with hold | hnew
    · exact h.2 event hold
    simp only [NodeInput.events,addNodesProcess,nodeManagementGate] at hnew
    split at hnew
    · cases hnew
    split at hnew
    · cases hnew
    obtain ⟨⟨item,result⟩,hpair,hsome⟩ := List.mem_filterMap.mp hnew
    dsimp only at hsome
    split at hsome
    · next hgood =>
      obtain ⟨hitem,hid⟩ := hresults item result hpair hgood
      cases hsome
      exact ⟨item,hinput item hitem,by rw [hid]⟩
    · cases hsome
  | deleteNodes | addReferences | deleteReferences => exact hinput.elim

end

namespace Sample

/-- The Objects folder, as the base has it. -/
def folderItem : AddNodesItem :=
  { objectsItem with
    parentNodeId := ns0 84, browseName := ⟨0, .ofBytes [0x4F]⟩, known := fun _ h => nomatch h }

def baseServer : ServerSpaces := ⟨nodeConfig, ⟨0, [], false, none, 0⟩⟩

def addedId : NodeId := ⟨1, .numeric 1000⟩

def browseAll (nodeId : NodeId) : BrowseDescription := ⟨nodeId, 2, NodeId.null, true, 0, 0x3F⟩

def browseObjects : BrowseDescription := ⟨ns0 85, 0, ns0 35, false, 0, 0⟩

def oneAdded : NodeRun := NodeRun.of nodeConfig [.addNodes [autoItem]]

theorem oneAdded_history : oneAdded.history = [.added autoItem addedId] := rfl

theorem folderItem_there : folderItem.There baseServer where
  named := by decide
  node := ⟨object 85 [0x4F] [],by decide,fun attributeId => by cases attributeId <;> decide⟩
  parent := ⟨object 84 [0x52] [⟨ns0 35,ns0 85,true⟩],by decide,by decide,by decide⟩

end Sample

end MucOpcua
