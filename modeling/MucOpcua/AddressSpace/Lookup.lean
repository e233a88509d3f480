import MucOpcua.Encoding.Types

/-!
# Node lookup

`node_id.c` and `mu_resolve_node`. The configured address space is searched through a sorted index
that is rebuilt when it was made for another space, the base address space by binary search with a
linear search behind it, every other space linearly.
-/

namespace MucOpcua

def nodeidEqual (a b : NodeId) : Bool :=
  a.namespaceIndex == b.namespaceIndex &&
    match a.identifier, b.identifier with
    | .numeric x, .numeric y => x == y
    | .string x, .string y => x.length == y.length && (x.length ≤ 0 || x.data == y.data)
    | .guid x, .guid y => x == y
    | .opaqueId x, .opaqueId y => x == y
    | _, _ => false

structure Reference where
  referenceTypeId : NodeId
  targetId : NodeId
  isForward : Bool
  deriving DecidableEq

/-- `mu_node_t`, as far as the View and NodeManagement services and Read of the attributes common
to all nodes use it. The class is whatever number the node was given. -/
structure AddressNode where
  nodeId : NodeId
  nodeClass : UInt32
  browseName : MuString
  displayName : MuString
  references : List Reference
  typeDefinition : NodeId
  deriving DecidableEq

/-- `mu_address_space_t`. The address is the structure's own, which an index remembers. -/
structure AddressSpace where
  address : Nat
  nodes : List AddressNode
  deriving DecidableEq

/-- `mu_nodeid_type_t`, as a number. -/
def NodeIdentifier.identifierType : NodeIdentifier → UInt32
  | .numeric _ => 0
  | .string _ => 1
  | .guid _ => 2
  | .opaqueId _ => 3
  | .unknown identifierType => identifierType

def nodeidCompareDirect (left right : NodeId) : Ordering :=
  (compare left.namespaceIndex right.namespaceIndex).then <|
  (compare left.identifier.identifierType right.identifier.identifierType).then <|
    match left.identifier, right.identifier with
    | .numeric x, .numeric y => compare x y
    | .string x, .string y =>
      (compare x.length y.length).then (if x.length ≤ 0 then .eq else compare x.bytes y.bytes)
    | .guid x, .guid y => compare x.val y.val
    | .opaqueId x, .opaqueId y =>
      (compare x.val.length y.val.length).then (compare x.val y.val)
    | _, _ => .eq

/-! ## The index -/

/-- `mu_address_space_index_t`; `capacity` is the size of the array `order`. -/
structure NodeIndex where
  capacity : Nat
  order : List Nat
  indexed : Bool
  builtFor : Option Nat
  builtCount : Nat
  deriving DecidableEq

/-- The inner loop of `mu_address_space_rebuild_index`: from the last entry on, those above the new
one move up. The order is held backwards. -/
def insertIndex (nodes : List AddressNode) (i : Nat) : List Nat → List Nat
  | [] => [i]
  | j :: order =>
    match nodes[j]?, nodes[i]? with
    | some previous, some current =>
      if nodeidCompareDirect previous.nodeId current.nodeId = .gt then
        j :: insertIndex nodes i order
      else i :: j :: order
    | _, _ => i :: j :: order

def rebuildIndex (space : AddressSpace) (index : NodeIndex) : NodeIndex :=
  let count := space.nodes.length
  if index.capacity < count ∨ 0xFFFF < count then
    { index with order := [], indexed := false, builtFor := some space.address, builtCount := count }
  else
    { index with
      order := ((List.range count).foldl (fun order i => insertIndex space.nodes i order) []).reverse
      indexed := true, builtFor := some space.address, builtCount := count }

def ensureIndex (space : AddressSpace) (index : NodeIndex) : NodeIndex :=
  if index.builtFor = some space.address ∧ index.builtCount = space.nodes.length then index
  else rebuildIndex space index

/-! ## Searching -/

def findNodeLinear (space : AddressSpace) (nodeId : NodeId) : Option AddressNode :=
  space.nodes.find? fun node => nodeidEqual node.nodeId nodeId

/-- The loop of `mu_address_space_find_node_indexed` and `_binary_direct`. Every round shortens the
interval, so its length is enough `fuel`. -/
def searchNodes (nodes : List AddressNode) (nodeId : NodeId) :
    Nat → Nat → Nat → Option AddressNode
  | 0, _, _ => none
  | fuel + 1, left, right =>
    if left < right then
      let mid := left + (right - left) / 2
      match nodes[mid]? with
      | none => none
      | some node =>
        match nodeidCompareDirect node.nodeId nodeId with
        | .lt => searchNodes nodes nodeId fuel (mid + 1) right
        | .gt => searchNodes nodes nodeId fuel left mid
        | .eq => some node
    else none

def findNodeIndexed (space : AddressSpace) (index : NodeIndex) (nodeId : NodeId) :
    Option AddressNode :=
  searchNodes (index.order.filterMap fun i => space.nodes[i]?) nodeId index.order.length 0
    index.order.length

/-- `mu_address_space_find_node` for a space other than the base address space. -/
def findNode (space : AddressSpace) (index : Option NodeIndex) (nodeId : NodeId) :
    Option AddressNode :=
  match index with
  | none => findNodeLinear space nodeId
  | some index =>
    let index := ensureIndex space index
    if index.indexed then findNodeIndexed space index nodeId else findNodeLinear space nodeId

/-- `mu_address_space_find_node` for the base address space, which has no index. -/
def findBaseNode (base : AddressSpace) (nodeId : NodeId) : Option AddressNode :=
  (searchNodes base.nodes nodeId base.nodes.length 0 base.nodes.length).or
    (findNodeLinear base nodeId)

/-- The spaces that `mu_resolve_node` looks into. -/
structure NodeSpaces where
  user : Option AddressSpace
  userIndex : Option NodeIndex
  dynamic : Option AddressSpace
  base : AddressSpace

def resolveNode (spaces : NodeSpaces) (nodeId : NodeId) : Option AddressNode :=
  (spaces.user.bind fun space => findNode space spaces.userIndex nodeId).or <|
    (spaces.dynamic.bind fun space => findNode space none nodeId).or <|
      findBaseNode spaces.base nodeId

/-! ## What is found -/

section

variable {nodes : List AddressNode} {space : AddressSpace} {nodeId : NodeId} {node : AddressNode}

theorem mem_of_searchNodes {fuel left right : Nat}
    (h : searchNodes nodes nodeId fuel left right = some node) : node ∈ nodes := by
  induction fuel generalizing left right with
  | zero => cases h
  | succ fuel ih =>
    unfold searchNodes at h
    split at h
    · dsimp only at h
      split at h
      · cases h
      · next found hfound =>
        split at h
        · exact ih h
        · exact ih h
        · cases h
          exact List.mem_of_getElem? hfound
    · cases h

theorem mem_of_findNode {index : Option NodeIndex} (h : findNode space index nodeId = some node) :
    node ∈ space.nodes := by
  unfold findNode at h
  split at h
  · exact List.mem_of_find?_eq_some h
  · dsimp only at h
    split at h
    · obtain ⟨i,-,hi⟩ := List.mem_filterMap.mp (mem_of_searchNodes h)
      exact List.mem_of_getElem? hi
    · exact List.mem_of_find?_eq_some h

theorem mem_of_findBaseNode (h : findBaseNode space nodeId = some node) : node ∈ space.nodes := by
  rcases Option.or_eq_some_iff.mp h with h | ⟨-,h⟩
  · exact mem_of_searchNodes h
  · exact List.mem_of_find?_eq_some h

end

end MucOpcua
