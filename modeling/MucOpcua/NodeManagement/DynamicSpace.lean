import MucOpcua.Encoding.BinaryDecode
import MucOpcua.View.Translate

/-!
# The dynamic address space

AddNodes, DeleteNodes, AddReferences and DeleteReferences on the tables of dynamic nodes and
references.
-/

namespace MucOpcua

variable {maxLength : Nat} {nodeId : NodeId}

/-! ## Stored strings and ids -/

structure NodeLimits where
  maxDynamicNodes : Nat
  maxDynamicReferences : Nat
  browseNameLength : Nat
  displayNameLength : Nat
  stringNodeidLength : Nat
  referenceStringNodeidLength : Nat

def dynamicStringFits (name : MuString) (maxLength : Nat) : Bool :=
  name.length = -1 ∨ (0 ≤ name.length ∧ name.length.toNat ≤ maxLength)

/-- `mu_dynamic_string_copy`, into storage of the table's own. -/
def dynamicStringCopy (source : MuString) : MuString :=
  if source.length = -1 then MuString.null else MuString.ofBytes source.bytes

def dynamicNodeidCopy (source : NodeId) : NodeId :=
  match source.identifier with
  | .string s => ⟨source.namespaceIndex, .string (dynamicStringCopy s)⟩
  | _ => source

def dynamicStringNodeidFits (nodeId : NodeId) (maxLength : Nat) : Bool :=
  match nodeId.identifier with
  | .string s => dynamicStringFits s maxLength
  | _ => true

def NodeId.Known (nodeId : NodeId) : Prop := ∀ t, nodeId.identifier ≠ .unknown t

/-! ## The tables -/

/-- `mu_dynamic_address_space_t`: the entries in use. -/
structure DynamicSpace where
  nodes : List AddressNode
  references : List DynamicReference
  deriving DecidableEq

/-- The part of the server's configuration that NodeManagement looks at, and the other spaces that
`mu_resolve_node` finds nodes in: `runtime` is filled by `mu_base_runtime_init`. -/
structure NodeConfig where
  limits : NodeLimits
  allowNodeManagement : Bool
  configured : Option AddressSpace
  runtime : AddressSpace
  base : AddressSpace

/-- `mu_add_nodes_item_t` without the type definition, which is decoded and dropped. -/
structure AddNodesItem where
  parentNodeId : NodeId
  referenceTypeId : NodeId
  requestedNewNodeId : NodeId
  known : requestedNewNodeId.Known
  browseName : QualifiedName
  nodeClass : UInt32
  nodeAttributesTypeId : NodeId
  nodeAttributes : List UInt8

structure AddNodesResult where
  statusCode : StatusCode
  addedNodeId : NodeId
  deriving DecidableEq

def decodeLocalizedTextText : ReadM MuString := do
  let encodingMask ← binaryReadByte
  if encodingMask &&& 0xFC ≠ 0 then throw Status.badDecodingError
  if encodingMask &&& 0x01 ≠ 0 then
    let _ignoredLocale ← binaryReadString
  if encodingMask &&& 0x02 ≠ 0 then binaryReadString else return MuString.null

/-- `mu_add_nodes_item_display_name`: the name, if the attributes give one. -/
def addNodesItemDisplayName (item : AddNodesItem) : Except BadStatus (Option MuString) :=
  if item.nodeAttributes = [] then .ok none
  else if item.nodeAttributesTypeId ≠ ⟨0, .numeric 354⟩ then .ok none
  else
    let decode : ReadM (Option MuString) := do
      let specifiedAttributes ← binaryReadUint32
      if specifiedAttributes &&& 0x40 = 0 then return none
      let name ← decodeLocalizedTextText
      return some name
    match decode (BinaryReader.init item.nodeAttributes) with
    | .ok name _ => .ok name
    | .error status _ => .error status

def assignedNodeId (item : AddNodesItem) (space : DynamicSpace) : NodeId :=
  match item.requestedNewNodeId.identifier with
  | .numeric 0 => ⟨1, .numeric (1000 + UInt32.ofNat space.nodes.length)⟩
  | _ => item.requestedNewNodeId

def hasNode (nodes : List AddressNode) (nodeId : NodeId) : Bool :=
  nodes.any fun node => nodeidEqual node.nodeId nodeId

def dynamicNode (item : AddNodesItem) (nodeId : NodeId) (displayName : MuString) : AddressNode where
  nodeId := dynamicNodeidCopy nodeId
  nodeClass := item.nodeClass
  browseName := dynamicStringCopy item.browseName.name
  displayName := dynamicStringCopy displayName
  references := []
  typeDefinition := NodeId.null

section

variable (cfg : NodeConfig)

/-- One round of the loop of `mu_add_nodes_process`. -/
def addNodesItem (item : AddNodesItem) (space : DynamicSpace) : AddNodesResult × DynamicSpace :=
  let refuse (status : BadStatus) := ((⟨status.val, NodeId.null⟩ : AddNodesResult), space)
  if item.nodeClass = 0 then refuse Status.badNodeClassInvalid
  else if cfg.limits.maxDynamicNodes ≤ space.nodes.length then refuse Status.badOutOfMemory
  else if dynamicStringFits item.browseName.name cfg.limits.browseNameLength = false then
    refuse Status.badOutOfMemory
  else
    match addNodesItemDisplayName item with
    | .error status => refuse status
    | .ok name =>
      let displayName := name.getD item.browseName.name
      if dynamicStringFits displayName cfg.limits.displayNameLength = false then
        refuse Status.badOutOfMemory
      else
        let newId := assignedNodeId item space
        if dynamicStringNodeidFits newId cfg.limits.stringNodeidLength = false then
          refuse Status.badOutOfMemory
        else if hasNode ((cfg.configured.map (·.nodes)).getD []) newId ∨
            hasNode space.nodes newId then
          refuse Status.badNodeIdExists
        else
          let node := dynamicNode item newId displayName
          (⟨Status.good, node.nodeId⟩, { space with nodes := space.nodes ++ [node] })

/-- The loop of `mu_add_nodes_process`. -/
def addNodesItems : List AddNodesItem → DynamicSpace → List AddNodesResult × DynamicSpace
  | [], space => ([], space)
  | item :: rest, space =>
    let (result, space) := addNodesItem cfg item space
    let (results, space) := addNodesItems rest space
    (result :: results, space)

def nodeManagementGate {α : Type} (count : Nat) (space : DynamicSpace) (serve : α × DynamicSpace) :
    Except BadStatus α × DynamicSpace :=
  if cfg.allowNodeManagement = false then (.error Status.badUserAccessDenied, space)
  else if 8 < count then (.error Status.badTooManyOperations, space)
  else (.ok serve.1, serve.2)

def addNodesProcess (items : List AddNodesItem) (space : DynamicSpace) :
    Except BadStatus (List AddNodesResult) × DynamicSpace :=
  nodeManagementGate cfg items.length space (addNodesItems cfg items space)

/-! ## Deletion -/

def swapRemove {α : Type} (entries : List α) (j : Nat) : List α :=
  match entries.getLast? with
  | none => entries
  | some last => (entries.set j last).dropLast

/-- The loop over the references of a deleted node; an entry moved in is looked at in turn. -/
def removeReferences (nodeId : NodeId) : Nat → Nat → List DynamicReference → List DynamicReference
  | 0, _, references => references
  | fuel + 1, j, references =>
    match references[j]? with
    | none => references
    | some dyn =>
      if nodeidEqual dyn.sourceNodeId nodeId ∨ nodeidEqual dyn.ref.targetId nodeId then
        removeReferences nodeId fuel j (swapRemove references j)
      else removeReferences nodeId fuel (j + 1) references

structure DeleteNodesItem where
  nodeId : NodeId
  deleteTargetReferences : Bool

/-- One round of the loop of `mu_delete_nodes_process`. -/
def deleteNodesItem (item : DeleteNodesItem) (space : DynamicSpace) : StatusCode × DynamicSpace :=
  match space.nodes.findIdx? fun node => nodeidEqual node.nodeId item.nodeId with
  | none => (Status.badNodeIdUnknown.val, space)
  | some j =>
    let references :=
      if item.deleteTargetReferences then
        removeReferences item.nodeId space.references.length 0 space.references
      else space.references
    (Status.good, ⟨swapRemove space.nodes j, references⟩)

def deleteNodesItems : List DeleteNodesItem → DynamicSpace → List StatusCode × DynamicSpace
  | [], space => ([], space)
  | item :: rest, space =>
    let (result, space) := deleteNodesItem item space
    let (results, space) := deleteNodesItems rest space
    (result :: results, space)

def deleteNodesProcess (items : List DeleteNodesItem) (space : DynamicSpace) :
    Except BadStatus (List StatusCode) × DynamicSpace :=
  nodeManagementGate cfg items.length space (deleteNodesItems items space)

/-! ## References -/

/-- `mu_add_references_item_t`, without the server URI and the target's class, which are dropped. -/
structure AddReferencesItem where
  sourceNodeId : NodeId
  referenceTypeId : NodeId
  isForward : Bool
  targetNodeId : NodeId

/-- One round of the loop of `mu_add_references_process`. -/
def addReferencesItem (item : AddReferencesItem) (space : DynamicSpace) :
    StatusCode × DynamicSpace :=
  let fits (nodeId : NodeId) :=
    dynamicStringNodeidFits nodeId cfg.limits.referenceStringNodeidLength
  if cfg.limits.maxDynamicReferences ≤ space.references.length then
    (Status.badOutOfMemory.val, space)
  else if (fits item.sourceNodeId && fits item.referenceTypeId && fits item.targetNodeId) = false then
    (Status.badOutOfMemory.val, space)
  else
    let entry : DynamicReference :=
      ⟨dynamicNodeidCopy item.sourceNodeId,
        ⟨dynamicNodeidCopy item.referenceTypeId, dynamicNodeidCopy item.targetNodeId,
          item.isForward⟩⟩
    (Status.good, { space with references := space.references ++ [entry] })

def addReferencesItems : List AddReferencesItem → DynamicSpace → List StatusCode × DynamicSpace
  | [], space => ([], space)
  | item :: rest, space =>
    let (result, space) := addReferencesItem cfg item space
    let (results, space) := addReferencesItems rest space
    (result :: results, space)

def addReferencesProcess (items : List AddReferencesItem) (space : DynamicSpace) :
    Except BadStatus (List StatusCode) × DynamicSpace :=
  nodeManagementGate cfg items.length space (addReferencesItems cfg items space)

def AddReferencesItem.names (item : AddReferencesItem) (dyn : DynamicReference) : Bool :=
  nodeidEqual dyn.sourceNodeId item.sourceNodeId &&
    nodeidEqual dyn.ref.referenceTypeId item.referenceTypeId &&
    nodeidEqual dyn.ref.targetId item.targetNodeId && dyn.ref.isForward == item.isForward

/-- One round of the loop of `mu_delete_references_process`; whether to delete both directions is
not looked at. -/
def deleteReferencesItem (item : AddReferencesItem) (space : DynamicSpace) :
    StatusCode × DynamicSpace :=
  match space.references.findIdx? item.names with
  | none => (Status.badNotFound.val, space)
  | some j => (Status.good, { space with references := swapRemove space.references j })

def deleteReferencesItems : List AddReferencesItem → DynamicSpace → List StatusCode × DynamicSpace
  | [], space => ([], space)
  | item :: rest, space =>
    let (result, space) := deleteReferencesItem item space
    let (results, space) := deleteReferencesItems rest space
    (result :: results, space)

def deleteReferencesProcess (items : List AddReferencesItem) (space : DynamicSpace) :
    Except BadStatus (List StatusCode) × DynamicSpace :=
  nodeManagementGate cfg items.length space (deleteReferencesItems items space)

/-! ## Runs -/

inductive NodeInput where
  | addNodes (items : List AddNodesItem)
  | deleteNodes (items : List DeleteNodesItem)
  | addReferences (items : List AddReferencesItem)
  | deleteReferences (items : List AddReferencesItem)

def NodeInput.serve (space : DynamicSpace) : NodeInput → DynamicSpace
  | .addNodes items => (addNodesProcess cfg items space).2
  | .deleteNodes items => (deleteNodesProcess cfg items space).2
  | .addReferences items => (addReferencesProcess cfg items space).2
  | .deleteReferences items => (deleteReferencesProcess cfg items space).2

def spaceAfter (inputs : List NodeInput) : DynamicSpace :=
  inputs.foldl (NodeInput.serve cfg) ⟨[], []⟩

end

/-! ## Ids of new nodes -/

structure AddNodesItem.Validated (limits : NodeLimits) (item : AddNodesItem) : Prop where
  nodeClass : item.nodeClass ≠ 0
  browseName : dynamicStringFits item.browseName.name limits.browseNameLength = true
  displayName : ∃ name, addNodesItemDisplayName item = .ok name ∧
    dynamicStringFits (name.getD item.browseName.name) limits.displayNameLength = true
  nodeId : dynamicStringNodeidFits item.requestedNewNodeId limits.stringNodeidLength = true

def NodeConfig.configuredNodes (cfg : NodeConfig) : List AddressNode :=
  (cfg.configured.map (·.nodes)).getD []

/-- The nodes that the server brings itself. -/
def NodeConfig.ownNodes (cfg : NodeConfig) : List AddressNode := cfg.runtime.nodes ++ cfg.base.nodes

def NodeIdFresh (cfg : NodeConfig) (space : DynamicSpace) (nodeId : NodeId) : Prop :=
  hasNode cfg.configuredNodes nodeId = false ∧ hasNode cfg.ownNodes nodeId = false ∧
    hasNode space.nodes nodeId = false

/-- A validated item without a requested id gets a new one while there is room, and an id is only
given to a node if it is new and then belongs to this node alone. -/
def AddsFresh (cfg : NodeConfig) (space : DynamicSpace) (item : AddNodesItem) : Prop :=
  let result := (addNodesItem cfg item space).1
  let space' := (addNodesItem cfg item space).2
  (item.Validated cfg.limits → item.requestedNewNodeId = NodeId.null →
    space.nodes.length < cfg.limits.maxDynamicNodes →
      result.statusCode = Status.good ∧ NodeIdFresh cfg space result.addedNodeId) ∧
  (result.statusCode = Status.good → NodeIdFresh cfg space result.addedNodeId ∧
    (space'.nodes.filter fun node => nodeidEqual node.nodeId result.addedNodeId).length = 1)

/-- No id is asked for: the server makes one up. -/
def AddNodesItem.Automatic (item : AddNodesItem) : Prop :=
  item.requestedNewNodeId.identifier = .numeric 0

instance (item : AddNodesItem) : Decidable item.Automatic := inferInstanceAs (Decidable (_ = _))

/-- The ids that the server can make up. -/
def AutomaticId (cfg : NodeConfig) (nodeId : NodeId) : Prop :=
  ∃ n : UInt32, nodeId = ⟨1, .numeric n⟩ ∧ 1000 ≤ n.toNat ∧
    n.toNat < 1000 + cfg.limits.maxDynamicNodes

/-- No request deletes nodes, and the made-up ids are left to the server: neither the other spaces
nor the requests use them. -/
structure IdsApart (cfg : NodeConfig) (inputs : List NodeInput) : Prop where
  room : 1000 + cfg.limits.maxDynamicNodes ≤ 2 ^ 32
  spaces : ∀ node ∈ cfg.configuredNodes ++ cfg.ownNodes, ¬ AutomaticId cfg node.nodeId
  requested : ∀ items, .addNodes items ∈ inputs → ∀ item ∈ items, ¬ item.Automatic →
    ¬ AutomaticId cfg item.requestedNewNodeId
  kept : ∀ items, .deleteNodes items ∈ inputs → items = []

section

variable {cfg : NodeConfig} {space : DynamicSpace} {item : AddNodesItem}

theorem nodeidEqual_refl (h : nodeId.Known) : nodeidEqual nodeId nodeId = true := by
  obtain ⟨ns,identifier⟩ := nodeId
  cases identifier with
  | unknown t => exact absurd rfl (h t)
  | _ => simp [nodeidEqual]

theorem assignedNodeId_known : (assignedNodeId item space).Known := by
  unfold assignedNodeId
  split
  · exact fun _ h => nomatch h
  · exact item.known

theorem dynamicNodeidCopy_known (h : nodeId.Known) : (dynamicNodeidCopy nodeId).Known := by
  unfold dynamicNodeidCopy
  split
  · exact fun _ h => nomatch h
  · exact h

theorem dynamicStringCopy_same {s : MuString} (h : dynamicStringFits s maxLength = true) :
    (dynamicStringCopy s).length = s.length ∧
      (0 < s.length → (dynamicStringCopy s).data = s.data) := by
  have hcases : s.length = -1 ∨ 0 ≤ s.length := by
    simp only [dynamicStringFits,decide_eq_true_eq] at h
    exact h.imp_right And.left
  rcases hcases with hnull | hnonneg
  · rw [dynamicStringCopy,if_pos hnull]
    exact ⟨hnull.symm,fun hpos => by omega⟩
  rw [dynamicStringCopy,if_neg (by omega)]
  refine ⟨MuString.length_bytes hnonneg,fun hpos => ?_⟩
  obtain ⟨data,hdata⟩ := Option.isSome_iff_exists.mp (s.present hpos)
  simp [MuString.ofBytes,MuString.bytes,hdata]

theorem nodeidEqual_dynamicNodeidCopy {other : NodeId}
    (h : dynamicStringNodeidFits nodeId maxLength = true) :
    nodeidEqual other (dynamicNodeidCopy nodeId) = nodeidEqual other nodeId := by
  obtain ⟨ns,identifier⟩ := nodeId
  cases identifier with
  | string s =>
    obtain ⟨hlength,hdata⟩ := dynamicStringCopy_same h
    obtain ⟨ns',identifier'⟩ := other
    cases identifier' with
    | string t =>
      simp only [nodeidEqual,dynamicNodeidCopy,hlength]
      by_cases hsame : t.length = s.length
      · by_cases hpos : 0 < s.length
        · rw [hdata hpos]
        · have hle : t.length ≤ 0 := by omega
          rw [decide_eq_true hle]
          rfl
      have hdiffer : (t.length == s.length) = false := by simpa using hsame
      rw [hdiffer]
      rfl
    | _ => rfl
  | _ => rfl

theorem hasNode_dynamicNodeidCopy {nodes : List AddressNode}
    (h : dynamicStringNodeidFits nodeId maxLength = true) :
    hasNode nodes (dynamicNodeidCopy nodeId) = hasNode nodes nodeId := by
  simp only [hasNode,nodeidEqual_dynamicNodeidCopy h]

theorem assignedNodeId_fits (maxLength : Nat)
    (h : dynamicStringNodeidFits item.requestedNewNodeId maxLength = true) :
    dynamicStringNodeidFits (assignedNodeId item space) maxLength = true := by
  unfold assignedNodeId
  split
  · rfl
  · exact h

theorem requestedNodeId_fits (maxLength : Nat)
    (h : dynamicStringNodeidFits (assignedNodeId item space) maxLength = true) :
    dynamicStringNodeidFits item.requestedNewNodeId maxLength = true := by
  unfold assignedNodeId at h
  split at h
  · next hnumeric => simp [dynamicStringNodeidFits,hnumeric]
  · exact h

theorem addNodesItem_good (hvalid : item.Validated cfg.limits)
    (hroom : space.nodes.length < cfg.limits.maxDynamicNodes)
    (hconfigured : hasNode cfg.configuredNodes (assignedNodeId item space) = false)
    (hdynamic : hasNode space.nodes (assignedNodeId item space) = false) :
    ∃ name, addNodesItem cfg item space =
      let node := dynamicNode item (assignedNodeId item space) name
      (⟨Status.good,node.nodeId⟩, { space with nodes := space.nodes ++ [node] }) := by
  obtain ⟨hclass,hbrowse,⟨name,hname,hdisplay⟩,hid⟩ := hvalid
  have hfits : dynamicStringNodeidFits (assignedNodeId item space) cfg.limits.stringNodeidLength =
      true := assignedNodeId_fits _ hid
  rw [NodeConfig.configuredNodes] at hconfigured
  have hspare : ¬ cfg.limits.maxDynamicNodes ≤ space.nodes.length := by omega
  refine ⟨name.getD item.browseName.name,?_⟩
  simp [addNodesItem,hclass,hspare,hbrowse,hname,hdisplay,hfits,hconfigured,hdynamic]

theorem addNodesItem_good_iff : (addNodesItem cfg item space).1.statusCode = Status.good ↔
      item.Validated cfg.limits ∧ space.nodes.length < cfg.limits.maxDynamicNodes ∧
      hasNode cfg.configuredNodes (assignedNodeId item space) = false ∧
      hasNode space.nodes (assignedNodeId item space) = false := by
  constructor
  · intro h
    unfold addNodesItem at h
    dsimp only at h
    split at h
    · exact absurd h Status.badNodeClassInvalid.property
    next hclass =>
    split at h
    · exact absurd h Status.badOutOfMemory.property
    next hroom =>
    split at h
    · exact absurd h Status.badOutOfMemory.property
    next hbrowse =>
    split at h
    · next status _ => exact absurd h status.property
    next name hname =>
    split at h
    · exact absurd h Status.badOutOfMemory.property
    next hdisplay =>
    split at h
    · exact absurd h Status.badOutOfMemory.property
    next hfits =>
    split at h
    · exact absurd h Status.badNodeIdExists.property
    next hnew =>
    rw [Bool.not_eq_false] at hbrowse hdisplay hfits
    rw [not_or,Bool.not_eq_true,Bool.not_eq_true] at hnew
    exact ⟨⟨hclass,hbrowse,⟨name,hname,hdisplay⟩,requestedNodeId_fits _ hfits⟩,by omega,hnew⟩
  · rintro ⟨hvalid,hroom,hconfigured,hdynamic⟩
    obtain ⟨name,hitem⟩ := addNodesItem_good hvalid hroom hconfigured hdynamic
    rw [hitem]

theorem length_filter_dynamicNode (name : MuString)
    (hknown : nodeId.Known) (hfits : dynamicStringNodeidFits nodeId maxLength = true)
    (hnew : hasNode space.nodes nodeId = false) :
    ((space.nodes ++ [dynamicNode item nodeId name]).filter fun node =>
      nodeidEqual node.nodeId (dynamicNodeidCopy nodeId)).length = 1 := by
  have hold : (space.nodes.filter fun node =>
      nodeidEqual node.nodeId (dynamicNodeidCopy nodeId)) = [] := by
    rw [List.filter_eq_nil_iff]
    intro node hnode hequal
    rw [nodeidEqual_dynamicNodeidCopy hfits] at hequal
    have : hasNode space.nodes nodeId = true := List.any_eq_true.mpr ⟨node,hnode,hequal⟩
    rw [hnew] at this
    cases this
  have hself : nodeidEqual (dynamicNode item nodeId name).nodeId (dynamicNodeidCopy nodeId) = true :=
    nodeidEqual_refl (dynamicNodeidCopy_known hknown)
  rw [List.filter_append,hold]
  simp [hself]

theorem addNodesItem_refused (h : (addNodesItem cfg item space).1.statusCode ≠ Status.good) :
    (addNodesItem cfg item space).2 = space := by
  unfold addNodesItem at h ⊢
  dsimp only at h ⊢
  repeat' first | rfl | split
  all_goals simp_all

theorem addNodesItem_references (cfg : NodeConfig) (item : AddNodesItem) (space : DynamicSpace) :
    (addNodesItem cfg item space).2.references = space.references := by
  unfold addNodesItem
  dsimp only
  repeat' split
  all_goals rfl

theorem assignedNodeId_automatic (h : item.Automatic) :
    assignedNodeId item space = ⟨1, .numeric (1000 + UInt32.ofNat space.nodes.length)⟩ := by
  rw [AddNodesItem.Automatic] at h
  simp [assignedNodeId,h]

theorem assignedNodeId_requested (h : ¬ item.Automatic) :
    assignedNodeId item space = item.requestedNewNodeId := by
  unfold assignedNodeId
  split
  · next hzero => exact absurd hzero h
  · rfl

theorem automatic_toNat {count max : Nat} (hroom : 1000 + max ≤ 2 ^ 32) (h : count < max) :
    (1000 + UInt32.ofNat count).toNat = 1000 + count := by
  have hlt : count < UInt32.size := by
    rw [UInt32.size]
    omega
  rw [UInt32.toNat_add,UInt32.toNat_ofNat_of_lt' hlt,show (1000 : UInt32).toNat = 1000 from rfl]
  exact Nat.mod_eq_of_lt (by omega)

theorem automaticId_copy : AutomaticId cfg (dynamicNodeidCopy nodeId) ↔ AutomaticId cfg nodeId := by
  obtain ⟨ns,identifier⟩ := nodeId
  cases identifier with
  | string s => simp [AutomaticId,dynamicNodeidCopy]
  | _ => rfl

theorem hasNode_numeric {nodes : List AddressNode} {n : UInt32}
    (h : hasNode nodes ⟨1, .numeric n⟩ = true) :
    ∃ node ∈ nodes, node.nodeId = ⟨1, .numeric n⟩ := by
  obtain ⟨node,hnode,hequal⟩ := List.any_eq_true.mp h
  refine ⟨node,hnode,?_⟩
  generalize node.nodeId = id at hequal
  obtain ⟨ns,identifier⟩ := id
  cases identifier <;> simp_all [nodeidEqual]

/-! ### What a run keeps -/

/-- The made-up ids in use are those below the next one. -/
def AutomaticBelow (cfg : NodeConfig) (space : DynamicSpace) : Prop :=
  ∀ node ∈ space.nodes, ∀ n : UInt32, node.nodeId = ⟨1, .numeric n⟩ → 1000 ≤ n.toNat →
    n.toNat < 1000 + cfg.limits.maxDynamicNodes → n.toNat < 1000 + space.nodes.length

theorem AutomaticBelow.addNodesItem (h : AutomaticBelow cfg space)
    (hroom : 1000 + cfg.limits.maxDynamicNodes ≤ 2 ^ 32)
    (hitem : ¬ item.Automatic → ¬ AutomaticId cfg item.requestedNewNodeId) :
    AutomaticBelow cfg (addNodesItem cfg item space).2 := by
  by_cases hgood : (MucOpcua.addNodesItem cfg item space).1.statusCode = Status.good
  swap
  · rwa [addNodesItem_refused hgood]
  obtain ⟨hvalid,hspare,hconfigured,hdynamic⟩ := addNodesItem_good_iff.mp hgood
  obtain ⟨name,hadded⟩ := addNodesItem_good hvalid hspare hconfigured hdynamic
  rw [hadded]
  intro node hnode n hid hlow hhigh
  simp only [List.length_append,List.length_singleton]
  rcases List.mem_append.mp hnode with hold | hnew
  · have := h node hold n hid hlow hhigh
    omega
  rw [List.mem_singleton.mp hnew] at hid
  have hcopy : dynamicNodeidCopy (assignedNodeId item space) = ⟨1,.numeric n⟩ := hid
  by_cases hauto : item.Automatic
  · rw [assignedNodeId_automatic hauto] at hcopy
    have hn : 1000 + UInt32.ofNat space.nodes.length = n := by
      simpa [dynamicNodeidCopy] using hcopy
    have := automatic_toNat hroom hspare
    rw [hn] at this
    omega
  · rw [assignedNodeId_requested hauto] at hcopy
    exact absurd (automaticId_copy.mp ⟨n,hcopy,hlow,hhigh⟩) (hitem hauto)

theorem AutomaticBelow.addNodesItems {items : List AddNodesItem}
    (hroom : 1000 + cfg.limits.maxDynamicNodes ≤ 2 ^ 32)
    (hitems : ∀ item ∈ items, ¬ item.Automatic → ¬ AutomaticId cfg item.requestedNewNodeId)
    (h : AutomaticBelow cfg space) : AutomaticBelow cfg (addNodesItems cfg items space).2 := by
  induction items generalizing space with
  | nil => exact h
  | cons item rest ih =>
    exact ih (fun other hother => hitems other (.tail _ hother))
      (h.addNodesItem hroom (hitems item (.head _)))

theorem addReferencesItem_nodes (item : AddReferencesItem) :
    (addReferencesItem cfg item space).2.nodes = space.nodes := by
  unfold addReferencesItem
  dsimp only
  repeat' first | rfl | split

theorem addReferencesItems_nodes (items : List AddReferencesItem) :
    (addReferencesItems cfg items space).2.nodes = space.nodes := by
  induction items generalizing space with
  | nil => rfl
  | cons item rest ih => exact ih.trans (addReferencesItem_nodes item)

theorem deleteReferencesItem_nodes (item : AddReferencesItem) :
    (deleteReferencesItem item space).2.nodes = space.nodes := by
  unfold deleteReferencesItem
  split <;> rfl

theorem deleteReferencesItems_nodes (items : List AddReferencesItem) :
    (deleteReferencesItems items space).2.nodes = space.nodes := by
  induction items generalizing space with
  | nil => rfl
  | cons item rest ih => exact ih.trans (deleteReferencesItem_nodes item)

theorem nodeManagementGate_keeps {α : Type} {count : Nat} {serve : α × DynamicSpace}
    {P : DynamicSpace → Prop} (h : P space) (hserve : P serve.2) :
    P (nodeManagementGate cfg count space serve).2 := by
  unfold nodeManagementGate
  repeat' split
  all_goals assumption

theorem AutomaticBelow.of_nodes {space' : DynamicSpace} (h : AutomaticBelow cfg space)
    (hnodes : space'.nodes = space.nodes) : AutomaticBelow cfg space' := by
  rw [AutomaticBelow,hnodes]
  exact h

theorem AutomaticBelow.serve {input : NodeInput} (hapart : IdsApart cfg [input])
    (h : AutomaticBelow cfg space) : AutomaticBelow cfg (input.serve cfg space) := by
  cases input with
  | addNodes items =>
    exact nodeManagementGate_keeps h
      (h.addNodesItems hapart.room (hapart.requested items (List.mem_singleton.mpr rfl)))
  | deleteNodes items =>
    rw [hapart.kept items (List.mem_singleton.mpr rfl)]
    exact nodeManagementGate_keeps h h
  | addReferences items =>
    exact nodeManagementGate_keeps h (h.of_nodes (addReferencesItems_nodes items))
  | deleteReferences items =>
    exact nodeManagementGate_keeps h (h.of_nodes (deleteReferencesItems_nodes items))

theorem automaticBelow_after {inputs : List NodeInput} (hapart : IdsApart cfg inputs) :
    AutomaticBelow cfg (spaceAfter cfg inputs) := by
  refine List.foldlRecOn inputs _ (fun _ hnode => nomatch hnode) fun space h input hinput => ?_
  exact h.serve ⟨hapart.room,hapart.spaces,
    fun items hitems => hapart.requested items (List.mem_singleton.mp hitems ▸ hinput),
    fun items hitems => hapart.kept items (List.mem_singleton.mp hitems ▸ hinput)⟩

/-- A made-up id that the table has room for is new. -/
theorem AutomaticBelow.fresh (h : AutomaticBelow cfg space) {inputs : List NodeInput}
    (hapart : IdsApart cfg inputs) (hauto : item.Automatic)
    (hspare : space.nodes.length < cfg.limits.maxDynamicNodes) :
    NodeIdFresh cfg space (assignedNodeId item space) := by
  have hnext := automatic_toNat hapart.room hspare
  rw [assignedNodeId_automatic hauto]
  have hother (nodes : List AddressNode)
      (hnodes : ∀ node ∈ nodes, node ∈ cfg.configuredNodes ++ cfg.ownNodes) :
      hasNode nodes ⟨1,.numeric (1000 + UInt32.ofNat space.nodes.length)⟩ = false := by
    refine Bool.not_eq_true _ ▸ fun hhas => ?_
    obtain ⟨node,hnode,hid⟩ := hasNode_numeric hhas
    exact hapart.spaces node (hnodes node hnode) ⟨_,hid,by omega,by omega⟩
  refine ⟨hother _ fun node hnode => List.mem_append_left _ hnode,
    hother _ fun node hnode => List.mem_append_right _ hnode,?_⟩
  refine Bool.not_eq_true _ ▸ fun hhas => ?_
  obtain ⟨node,hnode,hid⟩ := hasNode_numeric hhas
  have := h node hnode _ hid (by omega) (by omega)
  omega

/-- An added node has the assigned id, which is then its alone. -/
theorem addNodesItem_alone (hgood : (addNodesItem cfg item space).1.statusCode = Status.good) :
    (NodeIdFresh cfg space (addNodesItem cfg item space).1.addedNodeId ↔
      hasNode cfg.ownNodes (assignedNodeId item space) = false) ∧
    ((addNodesItem cfg item space).2.nodes.filter fun node =>
      nodeidEqual node.nodeId (addNodesItem cfg item space).1.addedNodeId).length = 1 := by
  obtain ⟨hvalid,hroom,hconfigured,hdynamic⟩ := addNodesItem_good_iff.mp hgood
  obtain ⟨name,hitem⟩ := addNodesItem_good hvalid hroom hconfigured hdynamic
  have hfits : dynamicStringNodeidFits (assignedNodeId item space) cfg.limits.stringNodeidLength =
      true := assignedNodeId_fits _ hvalid.nodeId
  have hcopy : (addNodesItem cfg item space).1.addedNodeId =
      dynamicNodeidCopy (assignedNodeId item space) := by rw [hitem]; rfl
  rw [hcopy]
  refine ⟨?_,?_⟩
  · simp only [NodeIdFresh,hasNode_dynamicNodeidCopy hfits,hconfigured,hdynamic,true_and,and_true]
  · rw [hitem]
    exact length_filter_dynamicNode name assignedNodeId_known hfits hdynamic

end

/-- In every state of such a run, ids are given out right to an item that does not ask for the id of
a node of the server's own. -/
theorem addNodes_fresh {cfg : NodeConfig} {inputs : List NodeInput} {item : AddNodesItem}
    (hapart : IdsApart cfg inputs)
    (hitem : ¬ item.Automatic → hasNode cfg.ownNodes item.requestedNewNodeId = false) :
    AddsFresh cfg (spaceAfter cfg inputs) item := by
  have hbelow := automaticBelow_after hapart
  refine ⟨fun hvalid hrequest hroom => ?_,fun hgood => ?_⟩
  · have hfresh := hbelow.fresh hapart (congrArg NodeId.identifier hrequest : item.Automatic) hroom
    have hgood := addNodesItem_good_iff.mpr ⟨hvalid,hroom,hfresh.1,hfresh.2.2⟩
    exact ⟨hgood,(addNodesItem_alone hgood).1.mpr hfresh.2.1⟩
  · refine ⟨(addNodesItem_alone hgood).1.mpr ?_,(addNodesItem_alone hgood).2⟩
    by_cases hauto : item.Automatic
    · exact (hbelow.fresh hapart hauto (addNodesItem_good_iff.mp hgood).2.1).2.1
    · rw [assignedNodeId_requested hauto]
      exact hitem hauto

namespace Sample

def nodeConfig : NodeConfig :=
  ⟨⟨32, 64, 64, 64, 64, 64⟩, true, none, ⟨2, [object 2274 [0x44] []]⟩, rootSpace⟩

def autoItem : AddNodesItem where
  parentNodeId := ns0 85
  referenceTypeId := ns0 35
  requestedNewNodeId := NodeId.null
  known := fun _ h => nomatch h
  browseName := ⟨1, .ofBytes [0x61]⟩
  nodeClass := 1
  nodeAttributesTypeId := NodeId.null
  nodeAttributes := []

def objectsItem : AddNodesItem :=
  { autoItem with requestedNewNodeId := ns0 85, known := fun _ h => nomatch h }

theorem autoItem_validated : autoItem.Validated nodeConfig.limits :=
  ⟨by decide,by decide,⟨none,rfl,by decide⟩,rfl⟩

def pumpItem : AddNodesItem :=
  { autoItem with
    requestedNewNodeId := ⟨1, .string (.ofBytes [0x70])⟩, known := fun _ h => nomatch h }

theorem pumpRun_apart : IdsApart nodeConfig [.addNodes [autoItem, pumpItem, autoItem]] where
  room := by decide
  spaces := by
    intro node hnode hauto
    obtain ⟨n,hid,-⟩ := hauto
    have hns : ∀ node ∈ nodeConfig.configuredNodes ++ nodeConfig.ownNodes,
        node.nodeId.namespaceIndex ≠ 1 := by decide
    exact hns node hnode (by rw [hid])
  requested := by
    intro items hitems item hitem hasks hauto
    simp only [List.mem_singleton,NodeInput.addNodes.injEq] at hitems
    subst hitems
    obtain ⟨n,hid,-⟩ := hauto
    simp only [List.mem_cons,List.not_mem_nil,or_false] at hitem
    rcases hitem with rfl | rfl | rfl
    · exact hasks rfl
    · simp [pumpItem] at hid
    · exact hasks rfl
  kept := by simp

end Sample

open Sample in
/-- After three nodes, one of them with a String id of the client's choice, the server makes up its
third id. -/
theorem addNodes_fresh_fourth :
    (spaceAfter nodeConfig [.addNodes [autoItem, pumpItem, autoItem]]).nodes.map (·.nodeId) =
      [⟨1, .numeric 1000⟩, pumpItem.requestedNewNodeId, ⟨1, .numeric 1002⟩] ∧
    (addNodesItem nodeConfig autoItem
      (spaceAfter nodeConfig [.addNodes [autoItem, pumpItem, autoItem]])).1 =
        ⟨Status.good, ⟨1, .numeric 1003⟩⟩ ∧
    AddsFresh nodeConfig (spaceAfter nodeConfig [.addNodes [autoItem, pumpItem, autoItem]])
      autoItem :=
  ⟨by decide,by decide,addNodes_fresh pumpRun_apart fun h => absurd rfl h⟩

namespace Sample

def afterDeletion : DynamicSpace :=
  (deleteNodesProcess nodeConfig [⟨⟨1, .numeric 1000⟩, false⟩]
    (addNodesProcess nodeConfig [autoItem, autoItem] ⟨[], []⟩).2).2

end Sample

open Sample in
/-- The automatic id after a deletion is that of a node still there, and the item is refused. The id
of a base node is given to a dynamic one. -/
theorem assigned_id_in_use :
    (autoItem.Validated nodeConfig.limits ∧ autoItem.requestedNewNodeId = NodeId.null ∧
      afterDeletion.nodes.length < nodeConfig.limits.maxDynamicNodes ∧
      (addNodesItem nodeConfig autoItem afterDeletion).1 =
        ⟨Status.badNodeIdExists.val, NodeId.null⟩ ∧
      ¬ AddsFresh nodeConfig afterDeletion autoItem) ∧
    (addNodesItem nodeConfig objectsItem ⟨[], []⟩).1 = ⟨Status.good, ns0 85⟩ ∧
      hasNode nodeConfig.base.nodes (ns0 85) = true := by
  have hrefused : (addNodesItem nodeConfig autoItem afterDeletion).1 =
      ⟨Status.badNodeIdExists.val,NodeId.null⟩ := by decide
  have hroom : afterDeletion.nodes.length < nodeConfig.limits.maxDynamicNodes := by decide
  refine ⟨⟨autoItem_validated,rfl,hroom,hrefused,fun hfresh => ?_⟩,by decide,by decide⟩
  have hgood : (addNodesItem nodeConfig autoItem afterDeletion).1.statusCode = Status.good :=
    (hfresh.1 autoItem_validated rfl hroom).1
  rw [hrefused] at hgood
  exact absurd hgood Status.badNodeIdExists.property

end MucOpcua
