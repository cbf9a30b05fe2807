import ModelLinker.Namespace
import ModelLinker.Roles.Cycles

/-!
The hierarchy of roles: every declared role is attached to its parent, or to `all` if it has none
or a wrong one; circles are cut; and every role lists its children.
-/

namespace ModelLinker

/-- The parent that a role names, if it can have children. -/
def declaredParent (names : Namespace) (r : Role) (parent : NameRef RoleId) :
    Except RoleProblem RoleId :=
  match names.role? parent.name with
  | none => .error (.unknownParent parent.name)
  | some p =>
    if p = .none ∨ p = .default then .error (.nestedUnderLeaf parent.name r.name) else .ok p

/-- A role attached to its parent. Reserved roles keep their places. -/
def Role.attach (names : Namespace) (r : Role) : Role :=
  if r.kind.isReserved then r
  else match r.parentName with
    | none => { r with parent := some .all }
    | some parent => match declaredParent names r parent with
      | .ok p => { r with parent := some p, parentName := some (parent.bind p) }
      | .error _ => { r with parent := some .all }

/-- What is wrong with the parent that a role names. -/
def Role.parentProblems (names : Namespace) (r : Role) : Diagnostics :=
  if r.kind.isReserved then []
  else match r.parentName with
    | none => []
    | some parent => match declaredParent names r parent with
      | .ok _ => []
      | .error p => [(Cause.roles p).at parent.pos]

/-- The model with every role attached to its parent. -/
def bindParents (names : Namespace) (m : Model) : Model :=
  { m with roles := m.roles.map (Role.attach names) }

/-- What is wrong with the parents that roles name. -/
def parentProblems (names : Namespace) (m : Model) : Diagnostics :=
  m.roles.toList.flatMap (Role.parentProblems names)

/-- The parents of all roles. -/
def Model.parentTable (m : Model) : Parents.Table :=
  m.roles.map fun r => r.parent.map RoleId.index

/-- The model with all circles among roles cut. -/
def breakParentCycles (m : Model) : Model :=
  let parents := (Parents.cutCircles RoleId.all.index m.parentTable).1
  { m with roles := m.roles.mapIdx fun i r => { r with parent := (parents.parent i).map .mk } }

/-- One problem for every circle, at the role where it is cut. -/
def cycleProblems (m : Model) : Diagnostics :=
  (Parents.cutCircles RoleId.all.index m.parentTable).2.flatMap fun i =>
    (m.role? ⟨i⟩).toList.map fun r => (Cause.roles (.parentCycle r.name)).at r.pos

/-- The roles whose parent is a given one. -/
def Model.childrenOf (m : Model) (id : RoleId) : List RoleId :=
  (m.roles.toList.zipIdx.filter fun (r, _) => r.parent = some id).map fun (_, i) => ⟨i⟩

/-- The model in which every role lists its children. -/
def rebuildChildren (m : Model) : Model :=
  { m with roles := m.roles.mapIdx fun i r => { r with children := m.childrenOf ⟨i⟩ } }

end ModelLinker
