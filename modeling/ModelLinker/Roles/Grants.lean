import ModelLinker.Roles.Hierarchy

/-!
The roles granted to operations. The names of a role map are bound; a map must not name a role
twice, nor a role together with one of its ancestors; and once there are declared roles, an
operation without a map is reported.
-/

namespace ModelLinker

/-! ### binding -/

/-- The role that a map names. The role `none` cannot be granted. -/
def grantedRole (names : Namespace) (r : NameRef RoleId) : Except RoleProblem RoleId :=
  match names.role? r.name with
  | none => .error (.unknownRole r.name)
  | some id => if id = .none then .error .noneGranted else .ok id

/-- A name in a role map, bound if it can be granted. -/
def bindGrant (names : Namespace) (r : NameRef RoleId) : NameRef RoleId :=
  match grantedRole names r with
  | .ok id => r.bind id
  | .error _ => r

def RoleMap.bind (names : Namespace) (g : RoleMap) : RoleMap :=
  { g with roles := g.roles.map (bindGrant names) }

def RoleMap.nameProblems (names : Namespace) (g : RoleMap) : Diagnostics :=
  g.roles.flatMap fun r => match grantedRole names r with
    | .ok _ => []
    | .error p => [(Cause.roles p).at r.pos]

/-- A structure with the role maps of its operations bound. -/
def Struct.bindRoles (names : Namespace) (s : Struct) : Struct :=
  { s with
    searches := s.searches.map fun x => { x with roles := x.roles.map (RoleMap.bind names) }
    updates := s.updates.map fun x => { x with roles := x.roles.map (RoleMap.bind names) }
    insert := s.insert.map fun x => { x with roles := x.roles.map (RoleMap.bind names) } }

def bindRoleMaps (names : Namespace) (m : Model) : Model :=
  { m with structs := m.structs.map (Struct.bindRoles names) }

/-- The operations of all structures. -/
def Model.operations (m : Model) : List Operation :=
  m.structs.toList.flatMap Struct.operations

/-- What is wrong with the names of all role maps. -/
def grantNameProblems (names : Namespace) (m : Model) : Diagnostics :=
  m.operations.flatMap fun op => op.roles.toList.flatMap (RoleMap.nameProblems names)

/-! ### repeated and overlapping roles -/

/-- The names of a map that are bound, with the roles they stand for. -/
def RoleMap.entries (g : RoleMap) : List (RoleId × NameRef RoleId) :=
  g.roles.filterMap fun r => r.target.map fun id => (id, r)

/-- The first entry of every role, and the entries that repeat a role. -/
def splitRepeated : List (RoleId × NameRef RoleId) →
    List (RoleId × NameRef RoleId) × List (RoleId × NameRef RoleId) :=
  List.foldl (fun (first, again) e =>
    if first.any (·.1 == e.1) then (first, again ++ [e]) else (first ++ [e], again)) ([], [])

/-- One problem for every repeated entry. -/
def repeatProblems (again : List (RoleId × NameRef RoleId)) : Diagnostics :=
  again.map fun (_, r) => (Cause.roles (.duplicateGrant r.name)).at r.pos

def Model.roleName (m : Model) (id : RoleId) : String := ((m.role? id).map Role.name).getD ""

/-- One problem for every pair of an ancestor and a descendant, at the ancestor. -/
def overlapProblems (m : Model) (first : List (RoleId × NameRef RoleId)) : Diagnostics :=
  first.flatMap fun (ancestor, r) =>
    (first.filter fun (descendant, _) => m.isAncestor ancestor descendant).map
      fun (descendant, _) =>
        (Cause.roles (.overlappingGrant (m.roleName descendant) (m.roleName ancestor))).at r.pos

/-- What is wrong with the roles of a map, taken together. -/
def RoleMap.problems (m : Model) (g : RoleMap) : Diagnostics :=
  let (first, again) := splitRepeated g.entries
  repeatProblems again ++ overlapProblems m first

/-- What is wrong with all role maps. -/
def grantProblems (m : Model) : Diagnostics :=
  m.operations.flatMap fun op => op.roles.toList.flatMap (RoleMap.problems m)

/-- Once there are declared roles, operations without a role map are reported. -/
def reachabilityProblems (m : Model) : Diagnostics :=
  if m.hasDeclaredRoles then
    (m.operations.filter (·.roles.isNone)).map fun op =>
      (Cause.roles (.noRoles op.kind)).at op.pos
  else []

/-! ### all of it -/

/-- The model with its roles linked, and what is wrong with them. -/
def linkRoles (names : Namespace) (m : Model) : Model × Diagnostics :=
  let m₁ := bindParents names m
  let m₂ := breakParentCycles m₁
  let m₃ := rebuildChildren m₂
  let m₄ := bindRoleMaps names m₃
  (m₄,
    parentProblems names m ++ cycleProblems m₁ ++ grantNameProblems names m₃ ++
      grantProblems m₄ ++ reachabilityProblems m₄)

end ModelLinker
