import ModelLinker.Proofs.Binding.Roles
import ModelLinker.Proofs.Renumber.Basic
import ModelLinker.Proofs.Renumber.Names

/-!
# Linking the roles of models that are alike

Circles among roles are cut at their first members, which depends on the order; but a circle is an
error, so in a run that succeeds nothing is cut. Everything else about roles carries over to a model
with other numbers (`Model.Like.linkRoles`).
-/

namespace ModelLinker

/-- An operation with new numbers in its role map. -/
def Operation.rename (ρ : Renumbering) (op : Operation) : Operation :=
  { op with roles := op.roles.map (RoleMap.rename ρ) }

namespace Model.Like

variable {ρ : Renumbering} {m m' : Model} {names names' : Namespace}

/-! ### parents -/

/-- A role or the reason why there is none, with a new number. -/
def found (ρ : Renumbering) : Except RoleProblem RoleId → Except RoleProblem RoleId
  | .ok id => .ok (ρ.role id)
  | .error p => .error p

theorem role_eq_none {id : RoleId} : ρ.role id = .none ↔ id = .none := by
  rw [← @Renumbering.role_inj ρ id .none, Renumbering.role_none]

theorem role_eq_default {id : RoleId} : ρ.role id = .default ↔ id = .default := by
  rw [← @Renumbering.role_inj ρ id .default, Renumbering.role_default]

theorem declaredParent (hn : names.Like ρ names') {r r' : Role} (hr : r'.name = r.name)
    (p : NameRef RoleId) :
    declaredParent names' r' (p.rename ρ.role)
      = found ρ (ModelLinker.declaredParent names r p) := by
  simp only [ModelLinker.declaredParent, NameRef.rename_name, hn.role?, hr]
  cases names.role? p.name with
  | none => rfl
  | some id =>
    simp only [Option.map_some, role_eq_none, role_eq_default]
    split <;> rfl

theorem attach (hn : names.Like ρ names') {r r' : Role} (hr : r.Like ρ r') :
    (r.attach names).Like ρ (r'.attach names') := by
  unfold Role.attach
  cases hk : r.kind.isReserved with
  | true =>
    have hk' : r'.kind.isReserved = true := hr.kind ▸ hk
    simpa only [hk', if_true] using hr
  | false =>
    have hk' : r'.kind.isReserved = false := hr.kind ▸ hk
    simp only [hk', Bool.false_eq_true, if_false]
    cases hp : r.parentName with
    | none =>
      have hp' : r'.parentName = none := by rw [hr.parentName, hp, Option.map_none]
      simp only [hp']
      exact ⟨hr.name, hr.kind, rfl, congrArg some Renumbering.role_all.symm⟩
    | some p =>
      have hp' : r'.parentName = some (p.rename ρ.role) := by
        rw [hr.parentName, hp, Option.map_some]
      simp only [hp', declaredParent hn hr.name]
      cases ModelLinker.declaredParent names r p with
      | ok id => exact ⟨hr.name, hr.kind, rfl, rfl⟩
      | error q => exact ⟨hr.name, hr.kind, rfl, congrArg some Renumbering.role_all.symm⟩

theorem bindParents (h : m.Like ρ m') (hn : names.Like ρ names') :
    (bindParents names m).Like ρ (bindParents names' m') :=
  { h with
    roles := h.roles.map fun _ _ _ _ hr => attach hn hr }

theorem parentProblems (h : m.Like ρ m') (hn : names.Like ρ names') :
    (parentProblems names' m').Perm (ModelLinker.parentProblems names m) := by
  refine h.roles.flatMap_toList fun r r' _ _ hr => List.Perm.of_eq ?_
  unfold Role.parentProblems
  rw [hr.kind, hr.parentName]
  split
  · rfl
  · cases r.parentName with
    | none => rfl
    | some p =>
      simp only [Option.map_some, declaredParent hn hr.name]
      cases ModelLinker.declaredParent names r p <;> rfl

/-! ### circles -/

theorem isOnCircle (h : m.Like ρ m') (id : RoleId) :
    m'.parentTable.isOnCircle (ρ.role id).index = m.parentTable.isOnCircle id.index := by
  have hmeets : ∀ (steps : ℕ) (p : Option RoleId),
      m'.parentTable.meets (ρ.role id).index steps ((p.map ρ.role).map RoleId.index) =
        m.parentTable.meets id.index steps (p.map RoleId.index) := by
    intro steps
    induction steps with
    | zero => exact fun _ => rfl
    | succ n ih =>
      rintro (_ | q)
      · rfl
      · have hparent := ih (m.parentOf q)
        rw [← h.parentOf, ← parentTable_parent, ← parentTable_parent] at hparent
        have heq : ((ρ.role q).index == (ρ.role id).index) = (q.index == id.index) := by
          rw [Bool.eq_iff_iff, beq_iff_eq, beq_iff_eq]
          exact ρ.roles.injective.eq_iff
        simp only [Option.map_some, Parents.Table.meets, heq, hparent]
  have hsize : Array.size m'.parentTable = Array.size m.parentTable := by
    simp [Model.parentTable, h.roles.size]
  unfold Parents.Table.isOnCircle
  rw [hsize, parentTable_parent, parentTable_parent, h.parentOf]
  exact hmeets _ _

theorem isOk_cycleProblems (h : m.Like ρ m') (hok : Diagnostics.isOk (cycleProblems m) = true) :
    Diagnostics.isOk (cycleProblems m') = true := by
  rw [ModelLinker.isOk_cycleProblems] at hok ⊢
  intro n hn
  obtain ⟨⟨i⟩, hi⟩ := ρ.role_surjective ⟨n⟩
  have hi : (ρ.role ⟨i⟩).index = n := congrArg RoleId.index hi
  rw [← hi, h.isOnCircle ⟨i⟩]
  exact hok i (h.roles.lt_iff.1 (by rwa [← hi] at hn))

theorem rebuildChildren (h : m.Like ρ m') : (rebuildChildren m).Like ρ (rebuildChildren m') :=
  { h with
    roles := h.roles.mapIdx fun _ _ _ _ _ hr => { hr with } }

/-! ### ancestors -/

theorem isAncestor (h : m.Like ρ m') (a id : RoleId) :
    m'.isAncestor (ρ.role a) (ρ.role id) = m.isAncestor a id := by
  have hchain : ∀ (n : ℕ) (id : RoleId),
      m'.parentChain n (ρ.role id) = (m.parentChain n id).map ρ.role := by
    intro n
    induction n with
    | zero => exact fun _ => rfl
    | succ n ih =>
      intro id
      simp only [Model.parentChain, h.parentOf]
      cases m.parentOf id with
      | none => rfl
      | some p => simp [ih]
  rw [Bool.eq_iff_iff]
  simp [Model.isAncestor, Model.ancestors, h.roles.size, hchain]

theorem roleName (h : m.Like ρ m') (id : RoleId) : m'.roleName (ρ.role id) = m.roleName id := by
  unfold Model.roleName
  cases hr : m.role? id with
  | none => rw [show m'.role? (ρ.role id) = none from h.roles.none hr]
  | some r =>
    obtain ⟨r', hr', hlike⟩ := h.role? hr
    rw [hr', Option.map_some, Option.map_some, hlike.name]

theorem hasDeclaredRoles (h : m.Like ρ m') : m'.hasDeclaredRoles = m.hasDeclaredRoles := by
  rw [Bool.eq_iff_iff]
  simp only [Model.hasDeclaredRoles, Array.any_eq_true']
  constructor
  · rintro ⟨r', hr', hk⟩
    obtain ⟨j, hj⟩ := Array.mem_iff_getElem?.1 hr'
    obtain ⟨i, r, -, hr, hlike⟩ := h.roles.some' hj
    exact ⟨r, Array.mem_of_getElem? hr, hlike.kind ▸ hk⟩
  · rintro ⟨r, hr, hk⟩
    obtain ⟨i, hi⟩ := Array.mem_iff_getElem?.1 hr
    obtain ⟨r', hr', hlike⟩ := h.roles.some hi
    exact ⟨r', Array.mem_of_getElem? hr', by rw [hlike.kind]; exact hk⟩

/-! ### role maps -/

theorem grantedRole (hn : names.Like ρ names') (r : NameRef RoleId) :
    grantedRole names' (r.rename ρ.role) = found ρ (ModelLinker.grantedRole names r) := by
  simp only [ModelLinker.grantedRole, NameRef.rename_name, hn.role?]
  cases names.role? r.name with
  | none => rfl
  | some id =>
    simp only [Option.map_some, role_eq_none]
    split <;> rfl

theorem roleMap_bind (hn : names.Like ρ names') (g : RoleMap) :
    (g.rename ρ).bind names' = (g.bind names).rename ρ := by
  have hgrant : ∀ r, bindGrant names' (NameRef.rename ρ.role r) =
      (bindGrant names r).rename ρ.role := by
    intro r
    simp only [bindGrant, grantedRole hn]
    cases ModelLinker.grantedRole names r <;> rfl
  simp [RoleMap.bind, RoleMap.rename, hgrant]

theorem nameProblems (hn : names.Like ρ names') (g : RoleMap) :
    (g.rename ρ).nameProblems names' = g.nameProblems names := by
  simp only [RoleMap.nameProblems, RoleMap.rename, List.flatMap_map, grantedRole hn]
  congr
  funext r
  cases ModelLinker.grantedRole names r <;> rfl

theorem bindRoles (hn : names.Like ρ names') {s s' : Struct} (hs : s.Like ρ s') :
    (s.bindRoles names).Like ρ (s'.bindRoles names') := by
  have hmap : ∀ g : Option RoleMap, (g.map (RoleMap.rename ρ)).map (RoleMap.bind names') =
      (g.map (RoleMap.bind names)).map (RoleMap.rename ρ) := by
    intro g
    rw [Option.map_map, Option.map_map]
    exact congrArg (g.map ·) (funext fun g => roleMap_bind hn g)
  exact
    { hs with
      searches := by
        simp [Struct.bindRoles, hs.searches, Search.rename, ← hmap, Function.comp_def]
      updates := by
        simp [Struct.bindRoles, hs.updates, Update.rename, ← hmap, Function.comp_def]
      insert := by
        simp [Struct.bindRoles, hs.insert, Insert.rename, ← hmap, Function.comp_def] }

theorem bindRoleMaps (h : m.Like ρ m') (hn : names.Like ρ names') :
    (bindRoleMaps names m).Like ρ (bindRoleMaps names' m') :=
  { h with
    structs := h.structs.map fun _ _ _ _ hs => bindRoles hn hs }

/-! ### what is wrong with role maps -/

theorem operations_like {s s' : Struct} (hs : s.Like ρ s') :
    s'.operations = s.operations.map (Operation.rename ρ) := by
  simp only [Struct.operations, hs.searches, hs.updates, hs.insert, List.map_append, List.map_map,
    Option.toList_map]
  rfl

/-- What is found operation by operation is found in both models. -/
theorem operations_flatMap (h : m.Like ρ m') {f f' : Operation → Diagnostics}
    (hf : ∀ op, f' (op.rename ρ) = f op) :
    (m'.operations.flatMap f').Perm (m.operations.flatMap f) := by
  simp only [Model.operations, List.flatMap_assoc]
  refine h.structs.flatMap_toList fun s s' _ _ hs => List.Perm.of_eq ?_
  rw [operations_like hs, List.flatMap_map]
  exact congrArg (s.operations.flatMap ·) (funext hf)

theorem flatMap_roles (f f' : RoleMap → Diagnostics) (hf : ∀ g, f' (g.rename ρ) = f g)
    (op : Operation) :
    (op.rename ρ).roles.toList.flatMap f' = op.roles.toList.flatMap f := by
  cases hr : op.roles <;> simp [Operation.rename, hr, hf]

theorem grantNameProblems (h : m.Like ρ m') (hn : names.Like ρ names') :
    (grantNameProblems names' m').Perm (ModelLinker.grantNameProblems names m) :=
  h.operations_flatMap fun op => flatMap_roles _ _ (nameProblems hn) op

/-- An entry of a role map, with a new number. -/
def grant (ρ : Renumbering) (e : RoleId × NameRef RoleId) : RoleId × NameRef RoleId :=
  (ρ.role e.1, e.2.rename ρ.role)

theorem entries_rename (g : RoleMap) : (g.rename ρ).entries = g.entries.map (grant ρ) := by
  simp only [RoleMap.entries, RoleMap.rename, List.filterMap_map, List.map_filterMap]
  congr
  funext r
  cases hr : r.target <;> simp [hr, grant]

theorem splitRepeated_map (es : List (RoleId × NameRef RoleId)) :
    splitRepeated (es.map (grant ρ)) =
      ((splitRepeated es).1.map (grant ρ), (splitRepeated es).2.map (grant ρ)) := by
  have hany : ∀ (e : RoleId × NameRef RoleId) (first : List (RoleId × NameRef RoleId)),
      ((first.map (grant ρ)).any fun x => x.1 == (grant ρ e).1) =
        first.any fun x => x.1 == e.1 := by
    intro e first
    rw [Bool.eq_iff_iff]
    simp [grant]
  have key : ∀ (es first again : List (RoleId × NameRef RoleId)),
      (es.map (grant ρ)).foldl (fun (x : _ × _) e =>
          if x.1.any (·.1 == e.1) then (x.1, x.2 ++ [e]) else (x.1 ++ [e], x.2))
          (first.map (grant ρ), again.map (grant ρ)) =
        let split := es.foldl (fun (x : _ × _) e =>
          if x.1.any (·.1 == e.1) then (x.1, x.2 ++ [e]) else (x.1 ++ [e], x.2)) (first, again)
        (split.1.map (grant ρ), split.2.map (grant ρ)) := by
    intro es
    induction es with
    | nil => exact fun _ _ => rfl
    | cons e rest ih =>
      intro first again
      simp only [List.map_cons, List.foldl_cons, hany]
      split
      · have := ih first (again ++ [e])
        rwa [List.map_append] at this
      · have := ih (first ++ [e]) again
        rwa [List.map_append] at this
  exact key es [] []

theorem roleMap_problems (h : m.Like ρ m') (g : RoleMap) :
    (g.rename ρ).problems m' = g.problems m := by
  have hoverlap : ∀ first : List (RoleId × NameRef RoleId),
      overlapProblems m' (first.map (grant ρ)) = overlapProblems m first := by
    intro first
    simp only [overlapProblems, List.flatMap_map, List.filter_map, List.map_map]
    congr
    funext a
    simp only [grant, Function.comp_def, h.isAncestor, h.roleName, NameRef.rename_pos]
  have hrepeat : ∀ again : List (RoleId × NameRef RoleId),
      repeatProblems (again.map (grant ρ)) = repeatProblems again := by
    intro again
    simp [repeatProblems, grant, Function.comp_def]
  simp only [RoleMap.problems, entries_rename, splitRepeated_map, hoverlap, hrepeat]

theorem grantProblems (h : m.Like ρ m') :
    (grantProblems m').Perm (ModelLinker.grantProblems m) :=
  h.operations_flatMap fun op => flatMap_roles _ _ h.roleMap_problems op

theorem reachabilityProblems (h : m.Like ρ m') :
    (reachabilityProblems m').Perm (ModelLinker.reachabilityProblems m) := by
  have hflat : ∀ (ops : List Operation),
      ((ops.filter (·.roles.isNone)).map fun op => (Cause.roles (.noRoles op.kind)).at op.pos) =
        ops.flatMap fun op =>
          if op.roles.isNone then [(Cause.roles (.noRoles op.kind)).at op.pos] else [] := by
    intro ops
    induction ops with
    | nil => rfl
    | cons op rest ih => cases hr : op.roles <;> simp [hr, ih]
  simp only [ModelLinker.reachabilityProblems, h.hasDeclaredRoles, hflat]
  split
  · exact h.operations_flatMap fun op => by simp [Operation.rename]
  · exact .refl _

/-! ### all of it -/

/-- Roles link alike, if they link. -/
theorem linkRoles (h : m.Like ρ m') (hn : names.Like ρ names')
    (hok : Diagnostics.isOk (linkRoles names m).2 = true) :
    (linkRoles names m).1.Like ρ (ModelLinker.linkRoles names' m').1 ∧
      (ModelLinker.linkRoles names' m').2.Perm (ModelLinker.linkRoles names m).2 := by
  have hbind := h.bindParents hn
  have hcircles : Diagnostics.isOk (cycleProblems (ModelLinker.bindParents names m)) = true := by
    simp only [ModelLinker.linkRoles, Diagnostics.isOk_append, Bool.and_eq_true] at hok
    exact hok.1.1.1.2
  have hcircles' := hbind.isOk_cycleProblems hcircles
  have hmaps := hbind.rebuildChildren.bindRoleMaps hn
  simp only [ModelLinker.linkRoles, breakParentCycles_of_isOk hcircles,
    breakParentCycles_of_isOk hcircles', cycleProblems_eq_nil hcircles,
    cycleProblems_eq_nil hcircles']
  refine ⟨hmaps, ?_⟩
  refine ((((h.parentProblems hn).append_right _).append ?_).append ?_).append ?_
  · exact hbind.rebuildChildren.grantNameProblems hn
  · exact hmaps.grantProblems
  · exact hmaps.reachabilityProblems

end Model.Like

end ModelLinker
