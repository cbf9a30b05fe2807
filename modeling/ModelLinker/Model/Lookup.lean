import ModelLinker.Model.Build
import ModelLinker.Text.Fold

/-!
Looking things up in a model: parts by index and by name, the fields and embedded structures of a
structure, and the ancestors of a role. Names are found without regard to case, and the first
declaration of a name counts.
-/

namespace ModelLinker

open Text (sameName)

namespace Model

variable (m : Model)

def struct? (id : StructId) : Option Struct := m.structs[id.index]?

def field? (id : FieldId) : Option Field := m.fields[id.index]?

def role? (id : RoleId) : Option Role := m.roles[id.index]?

/-- The indices of all structures. -/
def structIds : List StructId := (List.range m.structs.size).map StructId.mk

/-- The structures with their indices. -/
def indexedStructs : List (StructId × Struct) :=
  m.structs.toList.zipIdx.map fun (s, i) => (⟨i⟩, s)

/-- The fields of a structure with their indices. -/
def fieldsOf (id : StructId) : List (FieldId × Field) :=
  match m.struct? id with
  | none => []
  | some s => s.fields.filterMap fun f => (m.field? f).map fun field => (f, field)

/-- The structure that a field embeds: the owner of the field that its reference leads to. -/
def embedded? (f : Field) : Option StructId :=
  if f.type.isStruct then
    f.reference.bind fun r => (m.field? r.target).map Field.parent
  else none

/-- The structure-typed fields of a structure with the structures they embed. -/
def embeds (id : StructId) : List (FieldId × StructId) :=
  (m.fieldsOf id).filterMap fun (fid, f) => (m.embedded? f).map fun s => (fid, s)

def findStruct? (name : String) : Option StructId :=
  (m.structs.findIdx? fun s => sameName s.name name).map StructId.mk

def findField? (parent : StructId) (name : String) : Option FieldId :=
  ((m.fieldsOf parent).find? fun f => sameName f.2.name name).map (·.1)

def findRole? (name : String) : Option RoleId :=
  (m.roles.findIdx? fun r => sameName r.name name).map RoleId.mk

/-- The roles that are not reserved. -/
def declaredRoles : List RoleId :=
  (m.roles.toList.zipIdx.filter fun (r, _) => r.kind == .named).map fun (_, i) => ⟨i⟩

/-- Some role is not reserved. -/
def hasDeclaredRoles : Bool := m.roles.any fun r => r.kind == .named

def parentOf (id : RoleId) : Option RoleId := (m.role? id).bind Role.parent

/-- The chain of parents from a role on, with a bound on its length. -/
def parentChain : Nat → RoleId → List RoleId
  | 0, _ => []
  | n + 1, id =>
    match m.parentOf id with
    | none => []
    | some p => p :: parentChain n p

/-- The ancestors of a role, the nearest first. A chain that runs in a circle is cut after as many
steps as there are roles. -/
def ancestors (id : RoleId) : List RoleId := m.parentChain m.roles.size id

/-- The first role is an ancestor of the second. -/
def isAncestor (ancestor id : RoleId) : Bool := (m.ancestors id).contains ancestor

end Model

/-! ### operations -/

/-- One operation that roles can be granted. -/
structure Operation where
  kind : OperationKind
  pos : Pos
  roles : Option RoleMap

/-- The operations of a structure: searches, then updates and deletions, then the insertion. -/
def Struct.operations (s : Struct) : List Operation :=
  s.searches.map (fun x => ⟨.search x.kind, x.pos, x.roles⟩) ++
    s.updates.map (fun x => ⟨.update x.kind, x.pos, x.roles⟩) ++
    s.insert.toList.map (fun x => ⟨.insert, x.pos, x.roles⟩)

def Struct.joinIndex? (s : Struct) (path : String) : Option Nat :=
  s.joins.findIdx? fun j => sameName j.path path

end ModelLinker
