import ModelLinker.Proofs.Binding.Roles
import ModelLinker.Proofs.Roles.Ancestors
import ModelLinker.Proofs.Roles.Circles

/-!
# The tree of roles

Whatever parents the roles of a model name, once they are linked they form a tree under `all`
(`roleTree_linkRoles`): a name that no role can hang under counts for nothing, and a circle is cut.
`Model.RoleTree` says what this means for the parents, the ancestors and the children of every role.
-/

namespace ModelLinker

open Relation

namespace Model

/-- The reserved roles come first and stand where they always stand; all others are declared. -/
structure ReservedRoles (m : Model) : Prop where
  all : ∃ r, m.role? .all = some r ∧ r.kind = .root ∧ r.parent = none
  none : ∃ r, m.role? .none = some r ∧ r.kind = .sink ∧ r.parent = some .all
  default : ∃ r, m.role? .default = some r ∧ r.kind = .default ∧ r.parent = some .all
  named : ∀ {id r}, m.role? id = some r →
    r.kind = .named ∨ id = .all ∨ id = .none ∨ id = .default

/-- The roles of a model are a tree under `all`, with `none` and `default` as leaves. Its ancestors
list, the nearest first, all that lies above a role, and its children all that hangs under it. -/
structure RoleTree (m : Model) : Prop where
  root : ∃ r, m.role? .all = some r ∧ r.parent = none
  sink : ∃ r, m.role? .none = some r ∧ r.parent = some .all ∧ r.children = []
  start : ∃ r, m.role? .default = some r ∧ r.parent = some .all ∧ r.children = []
  parent : ∀ {id r}, m.role? id = some r → id ≠ .all →
    ∃ p q, r.parent = some p ∧ m.role? p = some q
  nearest : ∀ id, List.IsChain m.Under (id :: m.ancestors id)
  once : ∀ id, (id :: m.ancestors id).Nodup
  above : ∀ {id a}, a ∈ m.ancestors id ↔ TransGen m.Under id a
  top : ∀ {id r}, m.role? id = some r → id ≠ .all → (m.ancestors id).getLast? = some .all
  uncut : ∀ id {n}, m.roles.size ≤ n → m.parentChain n id = m.ancestors id
  ancestor : ∀ {a id}, m.isAncestor a id = true ↔ TransGen m.Under id a
  irrefl : ∀ id, m.isAncestor id id = false
  trans : ∀ {a b c}, m.isAncestor a b = true → m.isAncestor b c = true → m.isAncestor a c = true
  children : ∀ {id r}, m.role? id = some r →
    r.children.Pairwise (fun a b => a.index < b.index) ∧
      ∀ c, c ∈ r.children ↔ m.parentOf c = some id

variable {m : Model}

theorem index_lt_of_role? {id : RoleId} {r : Role} (h : m.role? id = some r) :
    id.index < m.roles.size :=
  (Array.getElem?_eq_some_iff.1 h).1

theorem exists_role? {id : RoleId} (h : id.index < m.roles.size) : ∃ r, m.role? id = some r :=
  ⟨_, Array.getElem?_eq_getElem h⟩

theorem parentOf_of_role? {id : RoleId} {r : Role} (h : m.role? id = some r) :
    m.parentOf id = r.parent := by
  rw [parentOf, h, Option.bind_some]

theorem exists_role?_of_parentOf {id p : RoleId} (h : m.parentOf id = some p) :
    ∃ r, m.role? id = some r ∧ r.parent = some p :=
  Option.bind_eq_some_iff.1 h

/-! ### where roles are placed -/

/-- Every role but `all` has a parent, and this is a role that can have children. -/
structure Placed (m : Model) : Prop where
  inside : 2 < m.roles.size
  all : m.parentOf .all = .none
  none : m.parentOf .none = some .all
  default : m.parentOf .default = some .all
  others : ∀ {id}, id.index < m.roles.size → id ≠ .all →
    ∃ p, m.parentOf id = some p ∧ p.index < m.roles.size ∧ p ≠ .none ∧ p ≠ .default

theorem Placed.of_parentOf (h : m.Placed) {p : RoleId} {id : RoleId} (hp : m.parentOf id = some p) :
    p.index < m.roles.size ∧ p ≠ .none ∧ p ≠ .default := by
  obtain ⟨r, hr, -⟩ := exists_role?_of_parentOf hp
  have hid : id ≠ .all := by
    rintro rfl
    exact absurd (h.all.symm.trans hp) (by simp)
  obtain ⟨q, hq, hplace⟩ := h.others (index_lt_of_role? hr) hid
  obtain rfl : p = q := Option.some.inj (hp.symm.trans hq)
  exact hplace

/-- Models of as many roles with the same parents. -/
theorem Placed.congr (h : m.Placed) {m' : Model} (hsize : m'.roles.size = m.roles.size)
    (hparent : m'.parentOf = m.parentOf) : m'.Placed := by
  obtain ⟨hinside, hall, hnone, hdefault, hothers⟩ := h
  refine ⟨by rwa [hsize], by rwa [hparent], by rwa [hparent], by rwa [hparent], ?_⟩
  intro id
  rw [hsize, hparent]
  exact hothers

/-! ### roles attached to their parents -/

section Attach

variable {names : Namespace}

theorem attach_of_reserved {r : Role} (h : r.kind ≠ .named) : r.attach names = r := by
  have hk : r.kind.isReserved = true := by
    cases hk : r.kind <;> simp_all [RoleKind.isReserved]
  rw [Role.attach, if_pos hk]

/-- A declared role gets a parent, if need be `all`. -/
theorem exists_parent_attach {r : Role} (h : r.kind = .named) :
    ∃ p, (r.attach names).parent = some p ∧ (p = .all ∨ ∃ n, names.role? n = some p) ∧
      p ≠ .none ∧ p ≠ .default := by
  have htop : (RoleId.all = .all ∨ ∃ n, names.role? n = some .all) ∧
      RoleId.all ≠ .none ∧ RoleId.all ≠ .default := ⟨.inl rfl, by decide, by decide⟩
  simp only [Role.attach, h, RoleKind.isReserved, Bool.false_eq_true, if_false]
  cases r.parentName with
  | none => exact ⟨.all, rfl, htop⟩
  | some q =>
    cases hd : declaredParent names r q with
    | ok p =>
      obtain ⟨hn, hplace⟩ := declaredParent_ok.1 hd
      exact ⟨p, by simp only [hd], .inr ⟨q.name, hn⟩, hplace⟩
    | error e => exact ⟨.all, by simp only [hd], htop⟩

theorem role?_bindParents (id : RoleId) :
    (bindParents names m).role? id = (m.role? id).map (Role.attach names) := by
  simp [bindParents, role?]

theorem placed_bindParents (h : m.ReservedRoles)
    (hnames : ∀ {n id}, names.role? n = some id → id.index < m.roles.size) :
    (bindParents names m).Placed := by
  have hsize : (bindParents names m).roles.size = m.roles.size := by simp [bindParents]
  have hreserved : ∀ {id r}, m.role? id = some r → r.kind ≠ .named →
      (bindParents names m).parentOf id = r.parent := by
    intro id r hr hk
    rw [parentOf, role?_bindParents, hr, Option.map_some, attach_of_reserved hk, Option.bind_some]
  obtain ⟨a, ha, hakind, haparent⟩ := h.all
  obtain ⟨n, hn, hnkind, hnparent⟩ := h.none
  obtain ⟨d, hd, hdkind, hdparent⟩ := h.default
  have hroot : RoleId.all.index < m.roles.size := index_lt_of_role? ha
  have hall := hreserved ha (by rw [hakind]; decide)
  have hnone := hreserved hn (by rw [hnkind]; decide)
  have hdefault := hreserved hd (by rw [hdkind]; decide)
  rw [haparent] at hall
  rw [hnparent] at hnone
  rw [hdparent] at hdefault
  refine ⟨hsize ▸ index_lt_of_role? hd, hall, hnone, hdefault, ?_⟩
  intro id hid hne
  rw [hsize] at hid ⊢
  obtain ⟨r, hr⟩ := exists_role? hid
  rcases h.named hr with hk | rfl | rfl | rfl
  · obtain ⟨p, hp, hplace, hleaves⟩ := @exists_parent_attach names r hk
    refine ⟨p, ?_, ?_, hleaves⟩
    · rw [parentOf, role?_bindParents, hr, Option.map_some, Option.bind_some, hp]
    · rcases hplace with rfl | ⟨n, hn⟩
      · exact hroot
      · exact hnames hn
  · exact absurd rfl hne
  · exact ⟨.all, hnone, hroot, by decide, by decide⟩
  · exact ⟨.all, hdefault, hroot, by decide, by decide⟩

end Attach

/-! ### circles -/

theorem rooted_parentTable (h : m.Placed) : m.parentTable.Rooted RoleId.all.index where
  inside := by
    have := h.inside
    simp only [parentTable, Array.size_map, RoleId.all]
    omega
  top := by rw [parentTable_parent, h.all, Option.map_none]
  range {n p} hp := by
    rw [parentTable_parent m ⟨n⟩, Option.map_eq_some_iff] at hp
    obtain ⟨q, hq, rfl⟩ := hp
    simpa [parentTable] using (h.of_parentOf hq).1

/-- The way upwards in the table is the way upwards among the roles. -/
theorem transGen_up_parentTable {a b : RoleId} :
    TransGen m.parentTable.Up a.index b.index ↔ TransGen m.Under a b := by
  have hup : ∀ {a b : RoleId}, m.parentTable.Up a.index b.index ↔ m.Under a b := by
    intro a b
    rw [Parents.Table.Up, parentTable_parent, Under, Option.map_eq_some_iff]
    constructor
    · rintro ⟨p, hp, heq⟩
      rw [hp]
      exact congrArg (fun i => some (RoleId.mk i)) heq
    · exact fun hp => ⟨b, hp, rfl⟩
  exact ⟨TransGen.lift RoleId.mk (fun a b => (@hup ⟨a⟩ ⟨b⟩).1) a.index b.index,
    TransGen.lift RoleId.index (fun a b => hup.2) a b⟩

/-- There is nothing wrong with circles exactly if no role is its own ancestor. -/
theorem Placed.isOk_cycleProblems (h : m.Placed) :
    Diagnostics.isOk (cycleProblems m) = true ↔ ∀ id, ¬ TransGen m.Under id id := by
  have hrooted := rooted_parentTable h
  rw [ModelLinker.isOk_cycleProblems]
  constructor
  · intro hok id hcircle
    obtain ⟨p, hp, -⟩ := TransGen.head'_iff.1 hcircle
    obtain ⟨r, hr, -⟩ := exists_role?_of_parentOf hp
    have hon := (Parents.isOnCircle_iff hrooted).2 (transGen_up_parentTable.2 hcircle)
    rw [hok _ (index_lt_of_role? hr)] at hon
    cases hon
  · intro hacyclic n _
    rw [Bool.eq_false_iff, Ne, Parents.isOnCircle_iff hrooted]
    exact fun hcircle => hacyclic ⟨n⟩ ((@transGen_up_parentTable m ⟨n⟩ ⟨n⟩).1 hcircle)

/-- Cutting circles leaves all roles in their places or under `all`, and no role above itself. -/
theorem placed_breakParentCycles (h : m.Placed) :
    (breakParentCycles m).Placed ∧ ∀ id, ¬ TransGen (breakParentCycles m).Under id id := by
  obtain ⟨hcut, hacyclic⟩ := Parents.cutCircles_spec (rooted_parentTable h)
  have hsize : (breakParentCycles m).roles.size = m.roles.size := by simp [breakParentCycles]
  have htable : Array.size m.parentTable = m.roles.size := by simp [parentTable]
  have hparent : ∀ id : RoleId, (breakParentCycles m).parentOf id =
      ((Parents.cutCircles RoleId.all.index m.parentTable).1.parent id.index).map .mk := by
    intro id
    rcases Nat.lt_or_ge id.index m.roles.size with hlt | hge
    · simp [breakParentCycles, parentOf, role?, hlt]
    · rw [Parents.parent_of_ge (hcut.size ▸ htable ▸ hge)]
      simp [breakParentCycles, parentOf, role?, hge]
  have hkeep : ∀ id, (breakParentCycles m).parentOf id = m.parentOf id ∨
      (breakParentCycles m).parentOf id = some .all := by
    intro id
    rw [hparent]
    rcases hcut.parent id.index with heq | ⟨heq, -⟩
    · left
      rw [heq, parentTable_parent, Option.map_map]
      exact congrFun Option.map_id _
    · right
      rw [heq]
      rfl
  have hroot : RoleId.all.index < m.roles.size := Nat.lt_trans (by decide) h.inside
  refine ⟨⟨hsize ▸ h.inside, ?_, ?_, ?_, ?_⟩, ?_⟩
  · rw [hparent, (hcut.rooted (rooted_parentTable h)).top, Option.map_none]
  · rcases hkeep .none with heq | heq
    · rw [heq, h.none]
    · exact heq
  · rcases hkeep .default with heq | heq
    · rw [heq, h.default]
    · exact heq
  · intro id hid hne
    rw [hsize] at hid ⊢
    rcases hkeep id with heq | heq
    · rw [heq]
      exact h.others hid hne
    · exact ⟨.all, heq, hroot, by decide, by decide⟩
  · intro id hcircle
    refine hacyclic id.index (TransGen.lift RoleId.index ?_ id id hcircle)
    intro a b hab
    rw [Under, hparent] at hab
    obtain ⟨i, hi, rfl⟩ := Option.map_eq_some_iff.1 hab
    exact hi

/-! ### children -/

theorem childrenOf_eq (id : RoleId) : m.childrenOf id =
    ((List.range m.roles.size).filter fun i => m.parentOf ⟨i⟩ = some id).map .mk := by
  have hparent : ∀ x ∈ m.roles.toList.zipIdx, decide (x.1.parent = some id) =
      decide (m.parentOf ⟨x.2⟩ = some id) := by
    rintro ⟨r, i⟩ hmem
    rw [List.mem_zipIdx_iff_getElem?] at hmem
    have hr : m.role? ⟨i⟩ = some r := by simpa [role?] using hmem
    simp only [parentOf_of_role? hr]
  have hnumbers : m.roles.toList.zipIdx.map Prod.snd = List.range m.roles.size := by
    simp [List.range_eq_range']
  rw [childrenOf, List.filter_congr hparent, ← hnumbers, List.filter_map, List.map_map]
  rfl

theorem mem_childrenOf {id c : RoleId} : c ∈ m.childrenOf id ↔ m.parentOf c = some id := by
  simp only [childrenOf_eq, List.mem_map, List.mem_filter, List.mem_range, decide_eq_true_eq]
  constructor
  · rintro ⟨i, ⟨-, hp⟩, rfl⟩
    exact hp
  · intro hp
    obtain ⟨r, hr, -⟩ := exists_role?_of_parentOf hp
    exact ⟨c.index, ⟨index_lt_of_role? hr, hp⟩, rfl⟩

theorem childrenOf_pairwise (id : RoleId) :
    (m.childrenOf id).Pairwise fun a b => a.index < b.index := by
  rw [childrenOf_eq, List.pairwise_map]
  exact List.pairwise_lt_range.filter _

/-! ### linked roles -/

section LinkRoles

variable {names : Namespace}

/-- What linking makes of a role: it is attached to its parent, or cut from it, and its children are
listed. -/
theorem role?_linkRoles (id : RoleId) :
    (linkRoles names m).1.role? id =
      ((breakParentCycles (bindParents names m)).role? id).map fun r =>
        { r with children := (breakParentCycles (bindParents names m)).childrenOf id } := by
  simp [linkRoles, bindRoleMaps, rebuildChildren, role?]

theorem parentOf_linkRoles :
    (linkRoles names m).1.parentOf = (breakParentCycles (bindParents names m)).parentOf := by
  funext id
  rw [parentOf, role?_linkRoles, Option.bind_map]
  rfl

theorem size_roles_linkRoles :
    (linkRoles names m).1.roles.size = (breakParentCycles (bindParents names m)).roles.size := by
  simp [linkRoles, bindRoleMaps, rebuildChildren]

theorem kind_linkRoles {id : RoleId} :
    ((linkRoles names m).1.role? id).map Role.kind = (m.role? id).map Role.kind := by
  rw [role?_linkRoles]
  simp [breakParentCycles, bindParents, role?, Function.comp_def, attach_kind]

/-- Nothing hangs under the reserved roles other than `all`. -/
theorem Placed.childrenOf_eq_nil (h : m.Placed) {id : RoleId} (hid : id = .none ∨ id = .default) :
    m.childrenOf id = [] := by
  rw [List.eq_nil_iff_forall_not_mem]
  intro c hc
  obtain ⟨-, hnone, hdefault⟩ := h.of_parentOf (mem_childrenOf.1 hc)
  rcases hid with rfl | rfl
  · exact hnone rfl
  · exact hdefault rfl

/-- The last ancestor is a role without a parent, and only `all` has none. -/
theorem Placed.getLast?_ancestors (h : m.Placed) (hacyclic : ∀ id, ¬ TransGen m.Under id id)
    {id : RoleId} (hid : id.index < m.roles.size) (hne : id ≠ .all) :
    (m.ancestors id).getLast? = some .all := by
  have hrange : ∀ {id p}, m.Under id p → p.index < m.roles.size := fun hp => (h.of_parentOf hp).1
  have hpos : 0 < m.roles.size := Nat.lt_trans (by decide) h.inside
  obtain ⟨p, hp, -⟩ := h.others hid hne
  obtain ⟨a, ha, htop⟩ := Model.getLast?_ancestors hacyclic hrange hpos hp
  obtain ⟨b, -, hb⟩ := TransGen.tail'_iff.1
    ((mem_ancestors hacyclic hrange hpos).1 (List.mem_of_getLast? ha))
  rcases eq_or_ne a .all with rfl | hne
  · exact ha
  · obtain ⟨q, hq, -⟩ := h.others (hrange hb) hne
    exact absurd (htop.symm.trans hq) (by simp)

/-- A model in which every role has a place and none is above itself has a tree of roles, if the
children of all roles are listed. -/
theorem roleTree_of_placed (h : m.Placed) (hacyclic : ∀ id, ¬ TransGen m.Under id id)
    (hchildren : ∀ {id r}, m.role? id = some r → r.children = m.childrenOf id) : m.RoleTree := by
  have hrange : ∀ {id p}, m.Under id p → p.index < m.roles.size := fun hp => (h.of_parentOf hp).1
  have hpos : 0 < m.roles.size := Nat.lt_trans (by decide) h.inside
  have hplace : ∀ {id : RoleId}, id.index < m.roles.size →
      ∃ r, m.role? id = some r ∧ r.parent = m.parentOf id := by
    intro id hid
    obtain ⟨r, hr⟩ := exists_role? hid
    exact ⟨r, hr, (parentOf_of_role? hr).symm⟩
  refine
    { root := ?_, sink := ?_, start := ?_, parent := ?_
      nearest := isChain_parentChain _
      once := nodup_parentChain hacyclic _
      above := mem_ancestors hacyclic hrange hpos
      top := fun hr hne => h.getLast?_ancestors hacyclic (index_lt_of_role? hr) hne
      uncut := fun id _ => parentChain_of_length_lt (length_ancestors_lt hacyclic hrange hpos id)
      ancestor := isAncestor_iff hacyclic hrange hpos
      irrefl := ?_, trans := ?_
      children := fun hr => ?_ }
  · obtain ⟨r, hr, hp⟩ := hplace hpos
    exact ⟨r, hr, hp.trans h.all⟩
  · obtain ⟨r, hr, hp⟩ := @hplace .none (Nat.lt_trans (by decide) h.inside)
    exact ⟨r, hr, hp.trans h.none, (hchildren hr).trans (h.childrenOf_eq_nil (.inl rfl))⟩
  · obtain ⟨r, hr, hp⟩ := @hplace .default h.inside
    exact ⟨r, hr, hp.trans h.default, (hchildren hr).trans (h.childrenOf_eq_nil (.inr rfl))⟩
  · intro id r hr hne
    obtain ⟨p, hp, hlt, -⟩ := h.others (index_lt_of_role? hr) hne
    obtain ⟨q, hq⟩ := exists_role? hlt
    exact ⟨p, q, (parentOf_of_role? hr).symm.trans hp, hq⟩
  · intro id
    rw [← Bool.not_eq_true, isAncestor_iff hacyclic hrange hpos]
    exact hacyclic id
  · intro a b c
    simp only [isAncestor_iff hacyclic hrange hpos]
    exact fun hab hbc => hbc.trans hab
  · rw [hchildren hr]
    exact ⟨childrenOf_pairwise _, fun _ => mem_childrenOf⟩

/-- Linking makes a tree of the roles of a model, if the names it goes by stand for roles. -/
theorem roleTree_linkRoles (h : m.ReservedRoles)
    (hnames : ∀ {n id}, names.role? n = some id → id.index < m.roles.size) :
    (linkRoles names m).1.RoleTree := by
  obtain ⟨hplaced, hacyclic⟩ := placed_breakParentCycles (placed_bindParents h hnames)
  refine roleTree_of_placed (hplaced.congr size_roles_linkRoles parentOf_linkRoles) ?_ ?_
  · have hunder : (linkRoles names m).1.Under = (breakParentCycles (bindParents names m)).Under := by
      funext id p
      rw [Under, parentOf_linkRoles, Under]
    rwa [hunder]
  · intro id r hr
    rw [role?_linkRoles, Option.map_eq_some_iff] at hr
    obtain ⟨q, -, rfl⟩ := hr
    -- listing children changes no parent
    simp only [childrenOf_eq, size_roles_linkRoles, parentOf_linkRoles]

/-- Linking leaves the reserved roles in their places. -/
theorem reservedRoles_linkRoles (h : m.ReservedRoles)
    (hnames : ∀ {n id}, names.role? n = some id → id.index < m.roles.size) :
    (linkRoles names m).1.ReservedRoles := by
  have htree := roleTree_linkRoles h hnames
  have hkind : ∀ {id r r₀}, (linkRoles names m).1.role? id = some r → m.role? id = some r₀ →
      r.kind = r₀.kind := by
    intro id r r₀ hr hr₀
    have heq := @kind_linkRoles m names id
    rw [hr, hr₀] at heq
    exact Option.some.inj heq
  obtain ⟨a, ha, hap⟩ := htree.root
  obtain ⟨n, hn, hnp, -⟩ := htree.sink
  obtain ⟨d, hd, hdp, -⟩ := htree.start
  obtain ⟨a₀, ha₀, hakind, -⟩ := h.all
  obtain ⟨n₀, hn₀, hnkind, -⟩ := h.none
  obtain ⟨d₀, hd₀, hdkind, -⟩ := h.default
  refine ⟨⟨a, ha, (hkind ha ha₀).trans hakind, hap⟩, ⟨n, hn, (hkind hn hn₀).trans hnkind, hnp⟩,
    ⟨d, hd, (hkind hd hd₀).trans hdkind, hdp⟩, ?_⟩
  intro id r hr
  have heq := @kind_linkRoles m names id
  rw [hr, Option.map_some] at heq
  obtain ⟨r₀, hr₀, hk⟩ := Option.map_eq_some_iff.1 heq.symm
  rw [← hk]
  exact h.named hr₀

end LinkRoles

end Model

end ModelLinker
