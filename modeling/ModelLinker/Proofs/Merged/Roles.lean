import ModelLinker.Proofs.Merged.Queries
import ModelLinker.Proofs.Renumber.Roles
import ModelLinker.Proofs.Roles.Grants

/-!
# Linking the roles of a greater model

A role of the smaller model has the same ancestors in the greater one, because a chain of parents
that starts in the smaller model stays there. So a circle of the whole would be a circle of one of
its parts, and a role map in which no role lies above another stays such a map.
-/

namespace ModelLinker

open Relation

/-! ### names of roles -/

namespace Namespace.Within

variable {ρ : Renumbering} {names names' : Namespace}

theorem declaredParent (hn : names.Within ρ names') {r r' : Role} {p : NameRef RoleId}
    {id : RoleId} (hp : declaredParent names r p = .ok id) :
    declaredParent names' r' (p.rename ρ.role) = .ok (ρ.role id) := by
  obtain ⟨hid, hnone, hdefault⟩ := declaredParent_ok.1 hp
  exact declaredParent_ok.2 ⟨hn.role? hid, fun h => hnone (Model.Like.role_eq_none.1 h),
    fun h => hdefault (Model.Like.role_eq_default.1 h)⟩

theorem grantedRole (hn : names.Within ρ names') {r : NameRef RoleId} {id : RoleId}
    (hr : grantedRole names r = .ok id) :
    grantedRole names' (r.rename ρ.role) = .ok (ρ.role id) := by
  obtain ⟨hid, hnone⟩ := grantedRole_ok.1 hr
  exact grantedRole_ok.2 ⟨hn.role? hid, fun h => hnone (Model.Like.role_eq_none.1 h)⟩

theorem attach (hn : names.Within ρ names') {r r' : Role} (hr : r.Like ρ r')
    (hok : Diagnostics.isOk (r.parentProblems names) = true) :
    (r.attach names).Like ρ (r'.attach names') := by
  unfold Role.attach
  rw [hr.kind, hr.parentName]
  split
  · exact hr
  · rename_i hk
    rw [Bool.not_eq_true] at hk
    cases hp : r.parentName with
    | none => exact ⟨hr.name, rfl, rfl, congrArg some Renumbering.role_all.symm⟩
    | some p =>
      obtain ⟨id, hid⟩ := (isOk_parentProblems hk hp).1 hok
      simp only [Option.map_some, hid, hn.declaredParent hid]
      exact ⟨hr.name, rfl, rfl, rfl⟩

theorem parentProblems (hn : names.Within ρ names') {r r' : Role} (hr : r.Like ρ r')
    (hok : Diagnostics.isOk (r.parentProblems names) = true) : r'.parentProblems names' = [] := by
  unfold Role.parentProblems
  rw [hr.kind, hr.parentName]
  split
  · rfl
  · rename_i hk
    rw [Bool.not_eq_true] at hk
    cases hp : r.parentName with
    | none => rfl
    | some p =>
      obtain ⟨id, hid⟩ := (isOk_parentProblems hk hp).1 hok
      simp only [Option.map_some, hn.declaredParent hid]

/-! ### names in role maps -/

theorem roleMap_bind (hn : names.Within ρ names') {g : RoleMap}
    (hok : Diagnostics.isOk (g.nameProblems names) = true) :
    (g.rename ρ).bind names' = (g.bind names).rename ρ := by
  simp only [RoleMap.bind, RoleMap.rename, List.map_map, RoleMap.mk.injEq, true_and]
  refine List.map_congr_left fun r hr => ?_
  obtain ⟨id, hid⟩ := isOk_nameProblems.1 hok r hr
  simp only [Function.comp_apply, bindGrant, hid, hn.grantedRole hid]
  rfl

theorem nameProblems (hn : names.Within ρ names') {g : RoleMap}
    (hok : Diagnostics.isOk (g.nameProblems names) = true) :
    Diagnostics.isOk ((g.rename ρ).nameProblems names') = true := by
  rw [isOk_nameProblems] at hok ⊢
  intro r' hr'
  obtain ⟨r, hr, rfl⟩ := List.mem_map.1 hr'
  obtain ⟨id, hid⟩ := hok r hr
  exact ⟨_, hn.grantedRole hid⟩

/-- A structure whose role maps name roles that can be granted. -/
theorem bindRoles (hn : names.Within ρ names') {s s' : Struct} (hs : s.Within ρ s')
    (hok : Diagnostics.isOk (s.operations.flatMap fun op =>
      op.roles.toList.flatMap (RoleMap.nameProblems names)) = true) :
    (s.bindRoles names).Within ρ (s'.bindRoles names') := by
  have hmap : ∀ {g : Option RoleMap},
      (∀ x ∈ g.toList, Diagnostics.isOk (x.nameProblems names) = true) →
      (g.map (RoleMap.rename ρ)).map (RoleMap.bind names') =
        (g.map (RoleMap.bind names)).map (RoleMap.rename ρ) := by
    rintro (_ | g) hg
    · rfl
    · simp only [Option.map_some, hn.roleMap_bind (hg g (by simp))]
  have hsearches : s'.searches = s.searches.map (Search.rename ρ) := hs.searches
  have hupdates : s'.updates = s.updates.map (Update.rename ρ) := hs.updates
  have hinsert : s'.insert = s.insert.map (Insert.rename ρ) := hs.insert
  simp only [Struct.operations, List.flatMap_append, List.flatMap_map, Diagnostics.isOk_append,
    Bool.and_eq_true, Diagnostics.isOk_flatMap] at hok
  obtain ⟨⟨hok₁, hok₂⟩, hok₃⟩ := hok
  refine { hs with searches := ?_, updates := ?_, insert := ?_ }
  · simp only [Struct.bindRoles, hsearches, List.map_map]
    refine List.map_congr_left fun x hx => ?_
    simp only [Function.comp_apply, Search.rename, hmap (hok₁ x hx)]
  · simp only [Struct.bindRoles, hupdates, List.map_map]
    refine List.map_congr_left fun x hx => ?_
    simp only [Function.comp_apply, Update.rename, hmap (hok₂ x hx)]
  · simp only [Struct.bindRoles, hinsert, Option.map_map]
    cases hi : s.insert with
    | none => rfl
    | some x =>
      have hx := hmap (hok₃ x (by simp [hi]))
      simp only [Option.map_some, Function.comp_apply, Insert.rename, hx]

end Namespace.Within

/-- The operations of a structure in the greater model. -/
theorem Struct.Within.operations {ρ : Renumbering} {s s' : Struct} (h : s.Within ρ s') :
    s'.operations = s.operations.map (Operation.rename ρ) := by
  have hops := Model.Like.operations_like h
  exact hops

/-! ### circles -/

/-- The parent of a role is a role of the tree. -/
theorem Model.RoleTree.exists_parent {m : Model} (hm : m.RoleTree) {id p : RoleId}
    (hp : m.parentOf id = some p) :
    ∃ q, m.role? p = some q := by
  obtain ⟨r, hr, hrp⟩ := exists_role?_of_parentOf hp
  rcases eq_or_ne id .all with rfl | hne
  · obtain ⟨x, hx, hxp⟩ := hm.root
    rw [hr, Option.some.injEq] at hx
    rw [hx, hxp] at hrp
    cases hrp
  · obtain ⟨p', q, hp', hq⟩ := hm.parent hr hne
    rw [hrp, Option.some.injEq] at hp'
    exact ⟨q, hp' ▸ hq⟩

namespace Model.Within

variable {ρ : Renumbering} {m w : Model}

theorem parentOf (h : m.Within ρ w) {id : RoleId} {r : Role} (hr : m.role? id = some r) :
    w.parentOf (ρ.role id) = (m.parentOf id).map ρ.role := by
  obtain ⟨r', hr', hlike⟩ := h.role? hr
  simp [Model.parentOf, hr, hr', hlike.parent]

theorem roleName (h : m.Within ρ w) {id : RoleId} {r : Role} (hr : m.role? id = some r) :
    w.roleName (ρ.role id) = m.roleName id := by
  obtain ⟨r', hr', hlike⟩ := h.role? hr
  simp [Model.roleName, hr, hr', hlike.name]

/-- What lies above a role of the smaller model is a role of the smaller model. -/
theorem exists_under (h : m.Within ρ w)
    (hclosed : ∀ {id p}, m.Under id p → ∃ q, m.role? p = some q) {id : RoleId} {r : Role}
    (hr : m.role? id = some r) {a : RoleId} (ha : TransGen w.Under (ρ.role id) a) :
    ∃ b, a = ρ.role b ∧ TransGen m.Under id b := by
  have hstep : ∀ {id : RoleId} {r : Role} {a : RoleId}, m.role? id = some r →
      w.Under (ρ.role id) a → ∃ b, a = ρ.role b ∧ m.Under id b := by
    intro id r a hr ha
    rw [Under, h.parentOf hr, Option.map_eq_some_iff] at ha
    obtain ⟨b, hb, rfl⟩ := ha
    exact ⟨b, rfl, hb⟩
  induction ha with
  | single ha =>
    obtain ⟨b, rfl, hb⟩ := hstep hr ha
    exact ⟨b, rfl, .single hb⟩
  | tail _ ha ih =>
    obtain ⟨b, rfl, hb⟩ := ih
    obtain ⟨p, -, hp⟩ := TransGen.tail'_iff.1 hb
    obtain ⟨q, hq⟩ := hclosed hp
    obtain ⟨c, rfl, hc⟩ := hstep hq ha
    exact ⟨c, rfl, hb.tail hc⟩

/-! ### ancestors -/

section Trees

variable (h : m.Within ρ w) (hm : m.RoleTree) (hw : w.RoleTree)

include h hm hw

/-- A role has the same ancestors in both models. -/
theorem ancestors {id : RoleId} {r : Role} (hr : m.role? id = some r) :
    w.ancestors (ρ.role id) = (m.ancestors id).map ρ.role := by
  have hchain : ∀ (n : ℕ) {id : RoleId} {r : Role}, m.role? id = some r →
      w.parentChain n (ρ.role id) = (m.parentChain n id).map ρ.role := by
    intro n
    induction n with
    | zero => exact fun _ => rfl
    | succ n ih =>
      intro id r hr
      simp only [Model.parentChain, h.parentOf hr]
      cases hp : m.parentOf id with
      | none => rfl
      | some p =>
        obtain ⟨q, hq⟩ := hm.exists_parent hp
        simp only [Option.map_some, List.map_cons, ih hq]
  -- both chains end before the greater of the two bounds
  rw [← hw.uncut _ (Nat.le_max_right m.roles.size _), ← hm.uncut _ (Nat.le_max_left _ w.roles.size)]
  exact hchain _ hr

theorem isAncestor (a : RoleId) {id : RoleId} {r : Role} (hr : m.role? id = some r) :
    w.isAncestor (ρ.role a) (ρ.role id) = m.isAncestor a id := by
  rw [Bool.eq_iff_iff]
  simp [Model.isAncestor, h.ancestors hm hw hr]

theorem roleMap_problems {g : RoleMap} (hg : ∀ e ∈ g.entries, ∃ r, m.role? e.1 = some r) :
    (g.rename ρ).problems w = g.problems m := by
  have hrepeat : ∀ again : List (RoleId × NameRef RoleId),
      repeatProblems (again.map (Like.grant ρ)) = repeatProblems again := by
    intro again
    simp [repeatProblems, Like.grant, Function.comp_def]
  have hoverlap : ∀ {first : List (RoleId × NameRef RoleId)},
      (∀ e ∈ first, ∃ r, m.role? e.1 = some r) →
      overlapProblems w (first.map (Like.grant ρ)) = overlapProblems m first := by
    intro first hfirst
    simp only [overlapProblems, List.flatMap_map]
    refine List.flatMap_congr fun a ha => ?_
    obtain ⟨x, hx⟩ := hfirst a ha
    rw [List.filter_map, List.map_map, List.filter_congr fun d hd => ?_]
    · refine List.map_congr_left fun d hd => ?_
      obtain ⟨y, hy⟩ := hfirst d (List.mem_of_mem_filter hd)
      simp [Like.grant, h.roleName hx, h.roleName hy]
    · obtain ⟨y, hy⟩ := hfirst d hd
      exact h.isAncestor hm hw a.1 hy
  have hfirst : ∀ e ∈ (splitRepeated g.entries).1, ∃ r, m.role? e.1 = some r := fun e he =>
    hg e (List.mem_of_find?_eq_some ((g.split_entries.mem e).1 he))
  simp only [RoleMap.problems, Like.entries_rename, Like.splitRepeated_map, hoverlap hfirst,
    hrepeat]

end Trees

end Model.Within

/-! ### roles that are granted -/

/-- Operations without a role map are worth a warning, and no error. -/
theorem isOk_reachabilityProblems (m : Model) :
    Diagnostics.isOk (reachabilityProblems m) = true := by
  unfold reachabilityProblems
  split
  · rw [Diagnostics.isOk_iff_forall]
    intro d hd
    obtain ⟨op, -, rfl⟩ := List.mem_map.1 hd
    rfl
  · rfl

namespace Model

/-- The roles that role maps are bound to are roles of the model. -/
def GrantsExist (m : Model) : Prop :=
  ∀ s ∈ m.structs, ∀ op ∈ s.operations, ∀ g, op.roles = some g →
    ∀ e ∈ g.entries, ∃ r, m.role? e.1 = some r

theorem grantsExist_bound {m : Model} (hroles : m.RolesOk) : GrantsExist m.bound := by
  intro s hs op hop g hg e he
  obtain ⟨r, hr, he⟩ := List.mem_filterMap.1 he
  obtain ⟨id, hid, rfl⟩ := Option.map_eq_some_iff.1 he
  obtain ⟨k, hk⟩ := Array.mem_iff_getElem?.1 hs
  obtain ⟨x, hx, hgrants⟩ :=
    @struct?_of_map_eq _ _ _ _ (map_linked_bound settled_grants).symm ⟨k⟩ s hk
  obtain ⟨rid, hname, htarget, -⟩ := linked_grants hroles hx (hgrants ▸ mem_grants hop hg hr)
  rw [hid, Option.some.injEq] at htarget
  have hlt := index_lt_of_name hname
  obtain ⟨-, -, -, -, hsize⟩ := sizes_congr m.asDeclared_bound
  exact exists_role? (by rwa [hsize, htarget])

end Model

/-! ### the whole -/

namespace Model.Merges

variable {ι : Type} {ρ : ι → Renumbering} {m : ι → Model} {w : Model} {names : ι → Namespace}
  {names' : Namespace}

theorem isOk_parentProblems (h : Merges ρ m w) (hn : ∀ i, (names i).Within (ρ i) names')
    (hok : ∀ i, Diagnostics.isOk (parentProblems (names i) (m i)) = true) :
    Diagnostics.isOk (parentProblems names' w) = true :=
  h.roles.isOk_toList (fun i => (h.within i).roles)
    (fun i r r' _ hlike hr => by rw [(hn i).parentProblems hlike hr]; rfl) hok

theorem bindParents (h : Merges ρ m w) (hn : ∀ i, (names i).Within (ρ i) names')
    (hok : ∀ i, Diagnostics.isOk (parentProblems (names i) (m i)) = true) :
    Merges ρ (fun i => bindParents (names i) (m i)) (bindParents names' w) :=
  h.congr (fun i => bindParents_asDeclared _ _) (bindParents_asDeclared _ _) fun i =>
    { h.within i with
      owned := (h.within i).owned.congr (bindParents_asDeclared _ _)
      roles := (h.within i).roles.map fun r r' hmem hlike => by
        have hok := hok i
        rw [parentProblems, Diagnostics.isOk_flatMap] at hok
        exact (hn i).attach hlike (hok r (Array.mem_toList_iff.2 hmem)) }

/-- A circle of the whole is one of a part. -/
theorem isOk_cycleProblems (h : Merges ρ m w) (hm : ∀ i, (m i).Placed) (hw : w.Placed)
    (hok : ∀ i, Diagnostics.isOk (cycleProblems (m i)) = true) :
    Diagnostics.isOk (cycleProblems w) = true := by
  rw [hw.isOk_cycleProblems]
  intro id hcircle
  obtain ⟨p, hp, -⟩ := TransGen.head'_iff.1 hcircle
  obtain ⟨r', hr', -⟩ := exists_role?_of_parentOf hp
  obtain ⟨i, id, r, rfl, hr, -⟩ := h.role? hr'
  have hclosed : ∀ {id p}, (m i).Under id p → ∃ q, (m i).role? p = some q := fun hp =>
    exists_role? ((hm i).of_parentOf hp).1
  obtain ⟨b, hb, hcircle⟩ := (h.within i).exists_under hclosed hr hcircle
  obtain rfl := Renumbering.role_inj.1 hb
  exact (hm i).isOk_cycleProblems.1 (hok i) id hcircle

theorem rebuildChildren (h : Merges ρ m w) :
    Merges ρ (fun i => rebuildChildren (m i)) (rebuildChildren w) :=
  h.congr (fun _ => rebuildChildren_asDeclared _) (rebuildChildren_asDeclared _) fun i =>
    { h.within i with
      owned := (h.within i).owned.congr (rebuildChildren_asDeclared _)
      roles := (h.within i).roles.mapIdx fun _ _ _ _ hlike => { hlike with } }

/-- What is found operation by operation, and only in operations at fault. -/
theorem isOk_operations (h : Merges ρ m w) {f : ι → Operation → Diagnostics}
    {g : Operation → Diagnostics}
    (hfg : ∀ i, ∀ s ∈ (m i).structs, ∀ op ∈ s.operations, Diagnostics.isOk (f i op) = true →
      Diagnostics.isOk (g (op.rename (ρ i))) = true)
    (hok : ∀ i, Diagnostics.isOk ((m i).operations.flatMap (f i)) = true) :
    Diagnostics.isOk (w.operations.flatMap g) = true := by
  simp only [Model.operations, List.flatMap_assoc] at hok ⊢
  refine h.structs.isOk_toList (fun i => (h.within i).structs) (fun i s s' hs hlike hsok => ?_) hok
  rw [Diagnostics.isOk_flatMap] at hsok ⊢
  intro op' hop'
  rw [hlike.operations] at hop'
  obtain ⟨op, hop, rfl⟩ := List.mem_map.1 hop'
  exact hfg i s hs op hop (hsok op hop)

/-- The same for what is found role map by role map. -/
theorem isOk_roleMaps (h : Merges ρ m w) {f : ι → RoleMap → Diagnostics} {g : RoleMap → Diagnostics}
    (hfg : ∀ i, ∀ s ∈ (m i).structs, ∀ op ∈ s.operations, ∀ x, op.roles = some x →
      Diagnostics.isOk (f i x) = true → Diagnostics.isOk (g (x.rename (ρ i))) = true)
    (hok : ∀ i, Diagnostics.isOk ((m i).operations.flatMap fun op =>
      op.roles.toList.flatMap (f i)) = true) :
    Diagnostics.isOk (w.operations.flatMap fun op => op.roles.toList.flatMap g) = true := by
  refine h.isOk_operations (fun i s hs op hop hopok => ?_) hok
  cases hr : op.roles with
  | none => simp [Operation.rename, hr]
  | some x =>
    simp only [hr, Option.toList_some, List.flatMap_singleton] at hopok
    simpa [Operation.rename, hr] using hfg i s hs op hop x hr hopok

theorem isOk_grantNameProblems (h : Merges ρ m w) (hn : ∀ i, (names i).Within (ρ i) names')
    (hok : ∀ i, Diagnostics.isOk (grantNameProblems (names i) (m i)) = true) :
    Diagnostics.isOk (grantNameProblems names' w) = true :=
  h.isOk_roleMaps (fun i _ _ _ _ _ _ hx => (hn i).nameProblems hx) hok

theorem bindRoleMaps (h : Merges ρ m w) (hn : ∀ i, (names i).Within (ρ i) names')
    (hok : ∀ i, Diagnostics.isOk (grantNameProblems (names i) (m i)) = true) :
    Merges ρ (fun i => bindRoleMaps (names i) (m i)) (bindRoleMaps names' w) :=
  h.congr (fun _ => bindRoleMaps_asDeclared _ _) (bindRoleMaps_asDeclared _ _) fun i =>
    { h.within i with
      owned := (h.within i).owned.congr (bindRoleMaps_asDeclared _ _)
      structs := (h.within i).structs.map fun s s' hmem hlike => by
        have hok := hok i
        rw [grantNameProblems, Model.operations, List.flatMap_assoc, Diagnostics.isOk_flatMap] at hok
        exact (hn i).bindRoles hlike (hok s (Array.mem_toList_iff.2 hmem)) }

theorem isOk_grantProblems (h : Merges ρ m w) (hm : ∀ i, (m i).RoleTree) (hw : w.RoleTree)
    (hgrants : ∀ i, GrantsExist (m i))
    (hok : ∀ i, Diagnostics.isOk (grantProblems (m i)) = true) :
    Diagnostics.isOk (grantProblems w) = true := by
  refine h.isOk_roleMaps (fun i s hs op hop g hg hgok => ?_) hok
  rwa [(h.within i).roleMap_problems (hm i) hw (hgrants i s hs op hop g hg)]

/-- Linking roles takes the whole along with its parts, and finds no error in it if it finds none in
them. -/
theorem linkRoles (h : Merges ρ (fun i => (m i).resolved) w.resolved)
    (hn : ∀ i, (Namespace.ofModel (m i)).Within (ρ i) (Namespace.ofModel w))
    (hm : ∀ i, (m i).ReservedRoles) (hw : w.ReservedRoles)
    (hok : ∀ i, Diagnostics.isOk (linkRoles (Namespace.ofModel (m i)) (m i).resolved).2 = true) :
    Merges ρ (fun i => (m i).bound) w.bound ∧
      Diagnostics.isOk (linkRoles (Namespace.ofModel w) w.resolved).2 = true := by
  have hplaced : ∀ {m : Model}, m.ReservedRoles →
      (ModelLinker.bindParents (Namespace.ofModel m) m.resolved).Placed := fun hm =>
    placed_bindParents (hm.congr (resolved_roles _)) index_lt_of_name
  -- without circles no role is cut from its parent
  have hbound : ∀ {m : Model}, Diagnostics.isOk (cycleProblems
      (ModelLinker.bindParents (Namespace.ofModel m) m.resolved)) = true →
      m.bound = ModelLinker.bindRoleMaps (Namespace.ofModel m)
        (ModelLinker.rebuildChildren (ModelLinker.bindParents (Namespace.ofModel m) m.resolved)) := by
    intro m hcircles
    simp only [bound, ModelLinker.linkRoles, breakParentCycles_of_isOk hcircles]
  have hrolesOk := fun i => rolesOk_of_isOk (hok i)
  have h₁ := h.bindParents hn fun i => (hrolesOk i).parents
  have hcircles := h₁.isOk_cycleProblems (fun i => hplaced (hm i)) (hplaced hw)
    fun i => (hrolesOk i).circles
  have h₂ := h₁.rebuildChildren
  have h₃ : Merges ρ (fun i => (m i).bound) w.bound := by
    have hmaps := h₂.bindRoleMaps hn fun i => (hrolesOk i).grants
    simpa only [← hbound hcircles, ← hbound (hrolesOk _).circles] using hmaps
  refine ⟨h₃, ?_⟩
  have hgrants := h₃.isOk_grantProblems (fun i => (hm i).roleTree_bound) hw.roleTree_bound
    (fun i => grantsExist_bound (hrolesOk i)) fun i => by
      have hall := hok i
      simp only [ModelLinker.linkRoles, Diagnostics.isOk_append, Bool.and_eq_true] at hall
      exact hall.1.2
  have hparents := h.isOk_parentProblems hn fun i => (hrolesOk i).parents
  have hnames := h.isOk_grantNameProblems hn fun i => (hrolesOk i).grants
  simp only [ModelLinker.linkRoles, Diagnostics.isOk_append, Bool.and_eq_true]
  refine ⟨⟨⟨⟨hparents, hcircles⟩, ?_⟩, hgrants⟩, isOk_reachabilityProblems _⟩
  rw [breakParentCycles_of_isOk hcircles]
  exact hnames

end Model.Merges

end ModelLinker
