import ModelLinker.Proofs.Kept

/-!
# Roles that link

A table of parents is cut nowhere exactly if no node of it is on a circle (`cutCircles_eq_nil`). So
if nothing is wrong with the roles of a model, each keeps the parent it names
(`bound_parentName`), and every name in a role map is bound to a role that can be granted
(`bound_grants`).
-/

namespace ModelLinker

open Text (sameName)

/-! ### circles -/

namespace Parents

variable {root : Nat}

theorem length_foldl_cut (ns : List Nat) (t : Table) (done : List Nat) :
    done.length ≤ (ns.foldl (cut root) (t, done)).2.length := by
  induction ns generalizing t done with
  | nil => simp
  | cons n rest ih =>
    rw [List.foldl_cons]
    simp only [cut]
    split
    · have := ih (t.setIfInBounds n (some root)) (done ++ [n])
      simp only [List.length_append, List.length_singleton] at this
      omega
    · exact ih t done

/-- As long as no node is on a circle the table is kept; the first one that is on a circle is cut
and stays among those cut. -/
theorem foldl_cut (ns : List Nat) (t : Table) (done : List Nat) :
    (ns.foldl (cut root) (t, done)).2 = done ↔ ∀ n ∈ ns, t.isOnCircle n = false := by
  induction ns generalizing t done with
  | nil => simp
  | cons n rest ih =>
    rw [List.foldl_cons]
    simp only [cut]
    cases hn : t.isOnCircle n with
    | false => simp [ih, hn]
    | true =>
      have hlen := @length_foldl_cut root rest (t.setIfInBounds n (some root)) (done ++ [n])
      constructor
      · intro heq
        rw [if_pos rfl] at heq
        rw [heq] at hlen
        simp only [List.length_append, List.length_singleton] at hlen
        omega
      · intro h
        rw [h n List.mem_cons_self] at hn
        cases hn

theorem foldl_cut_eq (ns : List Nat) (t : Table) (done : List Nat)
    (h : ∀ n ∈ ns, t.isOnCircle n = false) : ns.foldl (cut root) (t, done) = (t, done) := by
  induction ns with
  | nil => rfl
  | cons n rest ih =>
    simp only [List.mem_cons, forall_eq_or_imp] at h
    rw [List.foldl_cons, show cut root (t, done) n = (t, done) by simp [cut, h.1], ih h.2]

/-- Nothing is cut exactly if no node is on a circle. -/
theorem cutCircles_eq_nil {t : Table} :
    (cutCircles root t).2 = [] ↔ ∀ n < t.size, t.isOnCircle n = false := by
  simp [cutCircles, foldl_cut]

theorem cutCircles_of_noCircle {t : Table} (h : ∀ n < t.size, t.isOnCircle n = false) :
    cutCircles root t = (t, []) :=
  foldl_cut_eq _ t [] (by simpa using h)

/-- Only nodes of the table are cut. -/
theorem lt_of_mem_cut {ns done : List Nat} {t : Table} {i : Nat}
    (h : i ∈ (ns.foldl (cut root) (t, done)).2) : i ∈ done ∨ i ∈ ns := by
  induction ns generalizing t done with
  | nil => exact .inl h
  | cons n rest ih =>
    rw [List.foldl_cons] at h
    simp only [cut] at h
    split at h
    · rcases ih h with h | h
      · rcases List.mem_append.1 h with h | h
        · exact .inl h
        · exact .inr (by simp [List.mem_singleton.1 h])
      · exact .inr (List.mem_cons_of_mem n h)
    · rcases ih h with h | h
      · exact .inl h
      · exact .inr (List.mem_cons_of_mem n h)

end Parents

/-! ### parents -/

section Parent

variable {m : Model}

theorem parentTable_parent (m : Model) (id : RoleId) :
    m.parentTable.parent id.index = (m.parentOf id).map RoleId.index := by
  simp only [Model.parentTable, Parents.Table.parent, Array.getElem?_map, Model.parentOf,
    Model.role?]
  cases m.roles[id.index]? <;> rfl

/-- There is nothing wrong with circles exactly if there are none. -/
theorem isOk_cycleProblems :
    Diagnostics.isOk (cycleProblems m) = true ↔
      ∀ n < m.roles.size, m.parentTable.isOnCircle n = false := by
  have hsize : m.parentTable.size = m.roles.size := by simp [Model.parentTable]
  rw [← hsize, ← @Parents.cutCircles_eq_nil RoleId.all.index]
  constructor
  · intro h
    rw [List.eq_nil_iff_forall_not_mem]
    intro i hi
    -- a node that is cut is a role, and is reported
    have hlt : i < m.roles.size := by
      rcases Parents.lt_of_mem_cut hi with hi | hi
      · cases hi
      · simpa [hsize] using hi
    simp only [cycleProblems, Diagnostics.isOk_flatMap] at h
    have := h i hi
    simp [Model.role?, Array.getElem?_eq_getElem hlt, RoleProblem.severity] at this
  · intro h
    simp [cycleProblems, h]

theorem cycleProblems_eq_nil (h : Diagnostics.isOk (cycleProblems m) = true) :
    cycleProblems m = [] := by
  have hsize : m.parentTable.size = m.roles.size := by simp [Model.parentTable]
  have hcut := @Parents.cutCircles_of_noCircle RoleId.all.index m.parentTable
    (by rw [hsize]; exact isOk_cycleProblems.1 h)
  simp [cycleProblems, hcut]

/-- Without circles every role keeps its parent. -/
theorem breakParentCycles_of_isOk (h : Diagnostics.isOk (cycleProblems m) = true) :
    breakParentCycles m = m := by
  have hsize : m.parentTable.size = m.roles.size := by simp [Model.parentTable]
  have hcut := @Parents.cutCircles_of_noCircle RoleId.all.index m.parentTable
    (by rw [hsize]; exact isOk_cycleProblems.1 h)
  obtain ⟨structs, fields, enums, bitfields, roles⟩ := m
  simp only [breakParentCycles, hcut, Model.mk.injEq, true_and]
  apply Array.ext (by simp)
  intro i hi hi'
  have hp := parentTable_parent ⟨structs, fields, enums, bitfields, roles⟩ ⟨i⟩
  simp only [Model.parentOf, Model.role?, Array.getElem?_eq_getElem hi', Option.bind_some] at hp
  simp only [Array.getElem_mapIdx, hp, Option.map_map]
  have hid : (RoleId.mk ∘ RoleId.index) = id := rfl
  rw [hid, Option.map_id, id]

end Parent

/-! ### the parents that roles name -/

section Attach

variable {names : Namespace} {r : Role} {p : NameRef RoleId} {id : RoleId}

theorem attach_kind : (r.attach names).kind = r.kind := by
  unfold Role.attach
  split
  · rfl
  · split
    · rfl
    · split <;> rfl

theorem declaredParent_ok :
    declaredParent names r p = .ok id ↔
      names.role? p.name = some id ∧ id ≠ .none ∧ id ≠ .default := by
  unfold declaredParent
  grind

theorem isError_declaredParent {q : RoleProblem} (h : declaredParent names r p = .error q) :
    q.severity = .error := by
  unfold declaredParent at h
  grind [RoleProblem.severity]

theorem isOk_parentProblems (hr : r.kind.isReserved = false) (hp : r.parentName = some p) :
    Diagnostics.isOk (r.parentProblems names) = true ↔
      ∃ id, declaredParent names r p = .ok id := by
  unfold Role.parentProblems
  cases hd : declaredParent names r p with
  | ok id => simp [hr, hp, hd]
  | error q => simp [hr, hp, hd, isError_declaredParent hd]

/-! ### the roles that maps name -/

theorem grantedRole_ok :
    grantedRole names p = .ok id ↔ names.role? p.name = some id ∧ id ≠ .none := by
  unfold grantedRole
  grind

theorem isError_grantedRole {q : RoleProblem} (h : grantedRole names p = .error q) :
    q.severity = .error := by
  unfold grantedRole at h
  grind [RoleProblem.severity]

theorem isOk_nameProblems {g : RoleMap} :
    Diagnostics.isOk (g.nameProblems names) = true ↔
      ∀ r ∈ g.roles, ∃ id, grantedRole names r = .ok id := by
  simp only [RoleMap.nameProblems, Diagnostics.isOk_flatMap]
  refine forall₂_congr fun r _ => ?_
  cases hg : grantedRole names r with
  | ok id => simp
  | error q => simp [isError_grantedRole hg]

end Attach

/-! ### the roles of a linked model -/

namespace Model

variable (m : Model)

/-- No stage of linking roles finds an error. -/
structure RolesOk : Prop where
  parents : Diagnostics.isOk (parentProblems (Namespace.ofModel m) m.resolved) = true
  circles : Diagnostics.isOk (cycleProblems (bindParents (Namespace.ofModel m) m.resolved)) = true
  grants : Diagnostics.isOk (grantNameProblems (Namespace.ofModel m) m.resolved) = true

variable {m}

theorem rolesOk_of_isOk
    (h : Diagnostics.isOk (linkRoles (Namespace.ofModel m) m.resolved).2 = true) : m.RolesOk := by
  simp only [linkRoles, Diagnostics.isOk_append, Bool.and_eq_true] at h
  obtain ⟨⟨⟨⟨hp, hc⟩, hg⟩, _⟩, _⟩ := h
  exact ⟨hp, hc, hg⟩

/-- A role of a linked model is a role of the resolved one, attached to its parent. -/
theorem role?_bound (h : m.RolesOk) {id : RoleId} {r : Role} (hr : m.bound.role? id = some r) :
    ∃ r₀, m.resolved.role? id = some r₀ ∧
      r.parent = (r₀.attach (.ofModel m)).parent ∧
      r.parentName = (r₀.attach (.ofModel m)).parentName ∧ r.kind = r₀.kind := by
  have hb : m.bound.role? id =
      (m.resolved.role? id).map fun r₀ =>
        { r₀.attach (.ofModel m) with
          children := (bindParents (.ofModel m) m.resolved).childrenOf id } := by
    simp only [bound, linkRoles, breakParentCycles_of_isOk h.circles]
    simp [bindRoleMaps, rebuildChildren, bindParents, role?, Array.getElem?_mapIdx]
    rfl
  rw [hb, Option.map_eq_some_iff] at hr
  obtain ⟨r₀, hr₀, rfl⟩ := hr
  exact ⟨r₀, hr₀, rfl, rfl, attach_kind⟩

/-- A declared role that names a parent is bound to it, and it is its parent. -/
theorem bound_parentName (h : m.RolesOk) {id : RoleId} {r : Role}
    (hr : m.bound.role? id = some r) (hk : r.kind.isReserved = false) {p : NameRef RoleId}
    (hp : r.parentName = some p) :
    ∃ pid, (Namespace.ofModel m).role? p.name = some pid ∧ p.target = some pid ∧
      r.parent = some pid ∧ pid ≠ .none ∧ pid ≠ .default := by
  obtain ⟨r₀, hr₀, hparent, hname, hkind⟩ := role?_bound h hr
  have hok := h.parents
  simp only [parentProblems, Diagnostics.isOk_flatMap, Array.mem_toList_iff] at hok
  have hok := hok r₀ (Array.mem_of_getElem? hr₀)
  rw [hkind] at hk
  simp only [Role.attach, hk, Bool.false_eq_true, if_false] at hparent hname
  cases hp₀ : r₀.parentName with
  | none => simp [hp₀, hp] at hname
  | some p₀ =>
    obtain ⟨pid, hd⟩ := (isOk_parentProblems hk hp₀).1 hok
    simp only [hp₀, hd] at hparent hname
    rw [hp, Option.some.injEq] at hname
    subst hname
    obtain ⟨hn, hleaf⟩ := declaredParent_ok.1 hd
    exact ⟨pid, hn, rfl, hparent, hleaf⟩

end Model

/-! ### grants -/

/-- The names in the role maps of the operations of a structure. -/
def Struct.grants (s : Struct) : List (NameRef RoleId) :=
  s.operations.flatMap fun op => op.roles.toList.flatMap RoleMap.roles

theorem settled_grants : Struct.Settled Struct.grants where
  joins _ _ := rfl
  paths s := by
    simp [Struct.grants, Struct.operations, Struct.bindJoins, Function.comp_def]
  height _ _ := rfl
  unique s f := by
    simp [Struct.grants, Struct.operations, Function.comp_def]
  flags _ _ := rfl

theorem grants_bindRoles (names : Namespace) (s : Struct) :
    (s.bindRoles names).grants = s.grants.map (bindGrant names) := by
  have key : ∀ g : Option RoleMap,
      (g.map (RoleMap.bind names)).toList.flatMap RoleMap.roles =
        (g.toList.flatMap RoleMap.roles).map (bindGrant names) := by
    rintro (_ | g)
    · rfl
    · simp [RoleMap.bind]
  simp only [Struct.grants, Struct.operations, Struct.bindRoles, List.map_map, List.flatMap_append,
    List.flatMap_map, List.map_append, List.map_flatMap, Function.comp_def, key]
  cases s.insert with
  | none => simp
  | some i => simpa [← List.map_flatMap] using key i.roles

namespace Model

variable {m : Model}

/-- Every name in a role map is bound to a role of that name other than `none`. -/
theorem linked_grants (h : m.RolesOk) {id : StructId} {s : Struct}
    (hs : m.linked.struct? id = some s) {r : NameRef RoleId} (hr : r ∈ s.grants) :
    ∃ rid, (Namespace.ofModel m).role? r.name = some rid ∧ r.target = some rid ∧
      rid ≠ .none := by
  obtain ⟨b, hb, hgrants⟩ := struct?_of_map_eq (map_linked_bound settled_grants) hs
  simp only [bound, linkRoles, bindRoleMaps, struct?, Array.getElem?_map,
    Option.map_eq_some_iff] at hb
  obtain ⟨s₀, hs₀, rfl⟩ := hb
  rw [← hgrants, grants_bindRoles, List.mem_map] at hr
  obtain ⟨r₀, hr₀, rfl⟩ := hr
  have hok := h.grants
  simp only [grantNameProblems, operations, Diagnostics.isOk_flatMap, List.mem_flatMap,
    Array.mem_toList_iff] at hok
  simp only [Struct.grants, List.mem_flatMap] at hr₀
  obtain ⟨op, hop, g, hg, hr₀⟩ := hr₀
  have hg := isOk_nameProblems.1 (hok op ⟨s₀, Array.mem_of_getElem? hs₀, hop⟩ g hg)
  obtain ⟨rid, hrid⟩ := hg r₀ hr₀
  obtain ⟨hn, hne⟩ := grantedRole_ok.1 hrid
  rw [bindGrant, hrid]
  exact ⟨rid, hn, rfl, hne⟩

end Model

end ModelLinker
