import MucOpcua.AddressSpace.Lookup
import MucOpcua.Encoding.LittleEndian

/-!
# Registered types

`complex_types.c`. A structure or an enumeration is kept with the NodeId it was registered under, and
found again by the namespace, the kind and the first four bytes of the identifier.
-/

namespace MucOpcua

/-- A `mu_nodeid_t` with the bytes of the union behind an identifier that does not fill it. -/
structure StoredNodeId where
  nodeId : NodeId
  behind : List UInt8
  deriving DecidableEq

/-- `identifier.numeric`, whatever the identifier is. A String begins with its length. -/
def StoredNodeId.numeric (id : StoredNodeId) : UInt32 :=
  match id.nodeId.identifier with
  | .numeric n => n
  | .string s => (Int32.ofInt s.length).toUInt32
  | .guid bytes => leGetU32 bytes.val
  | .opaqueId data => leGetU32 (data.val ++ id.behind)
  | .unknown _ => leGetU32 id.behind

def maxComplexTypes : Nat := 8

inductive TypeKind where
  | structureType
  | enumerationType
  deriving DecidableEq

/-- `complex_types` of the server: the ids and, by their addresses, the definitions. -/
abbrev ComplexTypes := TypeKind → List (StoredNodeId × Nat)

def registerType (kind : TypeKind) (server : ComplexTypes) (typeId : StoredNodeId)
    (definition : Nat) : StatusCode × ComplexTypes :=
  if maxComplexTypes ≤ (server kind).length then (Status.badOutOfMemory.val, server)
  else (Status.good, Function.update server kind (server kind ++ [(typeId, definition)]))

def registerStructureType := registerType .structureType

def registerEnumerationType := registerType .enumerationType

def StoredNodeId.agrees (stored typeId : StoredNodeId) : Bool :=
  stored.nodeId.namespaceIndex == typeId.nodeId.namespaceIndex &&
    stored.nodeId.identifier.identifierType == typeId.nodeId.identifier.identifierType &&
    stored.numeric == typeId.numeric

/-- A `typeId` that is not NULL. -/
def findDefinition (kind : TypeKind) (server : ComplexTypes) (typeId : StoredNodeId) : Option Nat :=
  ((server kind).find? fun type => type.1.agrees typeId).map Prod.snd

def findStructureDefinition := findDefinition .structureType

def findEnumDefinition := findDefinition .enumerationType

/-! ## Runs -/

structure Registration where
  kind : TypeKind
  typeId : StoredNodeId
  definition : Nat

def registered (calls : List Registration) : ComplexTypes :=
  calls.foldl (fun server call => (registerType call.kind server call.typeId call.definition).2)
    fun _ => []

/-! ## Lookups -/

theorem nodeidEqual_of_common {a b c : NodeId} (h : nodeidEqual a c = true)
    (h' : nodeidEqual b c = true) : nodeidEqual a b = true := by
  unfold nodeidEqual at *
  cases ha : a.identifier <;> cases hb : b.identifier <;> cases hc : c.identifier <;> simp_all
  grind

/-- What a lookup is to return. -/
structure Finds (types : List (StoredNodeId × Nat)) (typeId : StoredNodeId) (found : Option Nat) :
    Prop where
  equal : ∀ type ∈ types, nodeidEqual type.1.nodeId typeId.nodeId = true → found = some type.2
  none : (∀ type ∈ types, nodeidEqual type.1.nodeId typeId.nodeId = false) → found = none

/-- A registered NodeId that agrees with the one looked up is equal to it, unless an equal one was
registered before; and the equal ones agree. -/
structure Telling (types : List (StoredNodeId × Nat)) (typeId : StoredNodeId) : Prop where
  first : ∀ before type after, types = before ++ type :: after → type.1.agrees typeId = true →
    nodeidEqual type.1.nodeId typeId.nodeId = true ∨
      ∃ other ∈ before, nodeidEqual other.1.nodeId typeId.nodeId = true
  agrees : ∀ type ∈ types, nodeidEqual type.1.nodeId typeId.nodeId = true →
    type.1.agrees typeId = true

/-- It is enough that no registered NodeId agrees without being equal. -/
theorem Telling.of_agrees_iff {types : List (StoredNodeId × Nat)} {typeId : StoredNodeId}
    (h : ∀ type ∈ types, type.1.agrees typeId = nodeidEqual type.1.nodeId typeId.nodeId) :
    Telling types typeId where
  first _ type _ htypes hagrees :=
    .inl (h type (htypes ▸ List.mem_append_right _ List.mem_cons_self) ▸ hagrees)
  agrees type hmem hequal := h type hmem ▸ hequal

/-- A Numeric NodeId is always told from the others. -/
theorem Telling.of_numeric {types : List (StoredNodeId × Nat)} {typeId : StoredNodeId} {n : UInt32}
    (hkinds : ∀ type ∈ types, type.1.nodeId.identifier ≠ .unknown 0)
    (hnumeric : typeId.nodeId.identifier = .numeric n) : Telling types typeId := by
  refine .of_agrees_iff fun type hmem => ?_
  have hkind := hkinds type hmem
  unfold StoredNodeId.agrees nodeidEqual StoredNodeId.numeric
  rw [hnumeric]
  cases htype : type.1.nodeId.identifier with
  | unknown t =>
    have ht : t ≠ 0 := fun h => hkind (h ▸ htype)
    simp [NodeIdentifier.identifierType,ht]
  | _ => simp [NodeIdentifier.identifierType]

theorem Telling.equal_of_find {types : List (StoredNodeId × Nat)} {typeId : StoredNodeId}
    (h : Telling types typeId) {type : StoredNodeId × Nat}
    (hfind : types.find? (·.1.agrees typeId) = some type) :
    nodeidEqual type.1.nodeId typeId.nodeId = true := by
  obtain ⟨hagrees,before,after,htypes,hbefore⟩ := List.find?_eq_some_iff_append.mp hfind
  rcases h.first before type after htypes hagrees with hequal | ⟨other,hother,hequal⟩
  · exact hequal
  · have hmem : other ∈ types := htypes ▸ List.mem_append_left _ hother
    have hnot := hbefore other hother
    rw [h.agrees other hmem hequal] at hnot
    cases hnot

/-- A type is found again if the first four bytes of the identifier tell its NodeId from the others,
and only then if the definitions are different. -/
theorem findDefinition_right (calls : List Registration) (kind : TypeKind)
    (hdistinct : ∀ a ∈ registered calls kind, ∀ b ∈ registered calls kind,
      nodeidEqual a.1.nodeId b.1.nodeId = true → a = b) (typeId : StoredNodeId) :
    (Telling (registered calls kind) typeId →
      Finds (registered calls kind) typeId (findDefinition kind (registered calls) typeId)) ∧
    ((∀ a ∈ registered calls kind, ∀ b ∈ registered calls kind, a.2 = b.2 → a = b) →
      Finds (registered calls kind) typeId (findDefinition kind (registered calls) typeId) →
        Telling (registered calls kind) typeId) := by
  unfold findDefinition
  generalize registered calls kind = types at hdistinct ⊢
  constructor
  · intro htelling
    cases hfind : types.find? (·.1.agrees typeId) with
    | none =>
      refine ⟨fun type hmem hequal => ?_,fun _ => rfl⟩
      exact absurd (htelling.agrees type hmem hequal) (List.find?_eq_none.mp hfind type hmem)
    | some found =>
      have hequal := htelling.equal_of_find hfind
      have hmem := List.mem_of_find?_eq_some hfind
      refine ⟨fun type htype hsame => ?_,fun hnone => ?_⟩
      · rw [hdistinct type htype found hmem (nodeidEqual_of_common hsame hequal)]
        rfl
      · rw [hnone found hmem] at hequal
        cases hequal
  · intro hdefinitions hfinds
    have hfound (type : StoredNodeId × Nat) (htype : type ∈ types)
        (hequal : nodeidEqual type.1.nodeId typeId.nodeId = true) :
        types.find? (·.1.agrees typeId) = some type := by
      obtain ⟨found,hfind,hsame⟩ := Option.map_eq_some_iff.mp (hfinds.equal type htype hequal)
      rwa [hdefinitions found (List.mem_of_find?_eq_some hfind) type htype hsame] at hfind
    refine ⟨fun before type after htypes hagrees => ?_,fun type htype hequal => ?_⟩
    swap
    · have hagrees := List.find?_some (hfound type htype hequal)
      exact hagrees
    by_contra! hother
    obtain ⟨hnot,hbefore⟩ := hother
    -- The lookup stops at `type` or before it, so it cannot reach an equal one behind.
    have hstops : ∃ found, (before ++ [type]).find? (·.1.agrees typeId) = some found :=
      Option.isSome_iff_exists.mp (List.find?_isSome.mpr ⟨type,by simp,hagrees⟩)
    obtain ⟨found,hstop⟩ := hstops
    have hfind : types.find? (·.1.agrees typeId) = some found := by
      rw [htypes,List.append_cons,List.find?_append,hstop,Option.some_or]
    have hnever (other : StoredNodeId × Nat) (hmem : other ∈ types) :
        nodeidEqual other.1.nodeId typeId.nodeId = false := by
      rw [Bool.eq_false_iff]
      intro hequal
      have hsame := Option.some.inj ((hfound other hmem hequal).symm.trans hfind)
      subst hsame
      rcases List.mem_append.mp (List.mem_of_find?_eq_some hstop) with hmem' | hmem'
      · exact hbefore other hmem' hequal
      · rw [List.mem_singleton.mp hmem'] at hequal
        exact hnot hequal
    have hnone := hfinds.none hnever
    rw [hfind] at hnone
    cases hnone

namespace Sample

def namedType (name : UInt8) : StoredNodeId := ⟨⟨1, .string (MuString.ofBytes [name])⟩, []⟩

def namedTypes : List Registration :=
  [⟨.structureType, namedType 97, 1000⟩, ⟨.structureType, namedType 98, 2000⟩]

/-- Names of one length are taken for one another. -/
theorem namedType_mistaken :
    findStructureDefinition (registered namedTypes) (namedType 98) = some 1000 ∧
      findStructureDefinition (registered namedTypes) (namedType 99) = some 1000 := by
  decide +kernel

/-- Three types, of which no name is as long as another. -/
def toldTypes : List Registration :=
  [⟨.structureType, namedType 97, 1000⟩,
    ⟨.structureType, ⟨⟨1, .string (MuString.ofBytes [98, 98])⟩, []⟩, 2000⟩,
    ⟨.structureType, ⟨⟨1, .numeric 7⟩, []⟩, 3000⟩]

theorem toldType_found : Finds (registered toldTypes .structureType) (toldTypes[1]).typeId
    (findStructureDefinition (registered toldTypes) (toldTypes[1]).typeId) := by
  refine (findDefinition_right toldTypes .structureType ?_ _).1 (.of_agrees_iff ?_)
  · decide +kernel
  · decide +kernel

end Sample

end MucOpcua
