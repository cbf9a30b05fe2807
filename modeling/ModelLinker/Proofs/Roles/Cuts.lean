import ModelLinker.Proofs.Reported
import ModelLinker.Proofs.Roles.Hierarchy

/-!
# Where circles are cut

Nodes are gone through in ascending order, and a node that is then on a circle is cut. A cut leads
to the root, which is on no circle, so it opens the circle of its node and no other one, and makes
none. When a node has its turn its circle is therefore still closed exactly if the node is the lowest
one of it (`circle_iff_lowest`). So there is one cut for every circle, at its lowest node
(`cutTo_cutCircles`), and this is what is reported of the roles of a model, and all that is changed
(`Model.CirclesCut`).
-/

namespace ModelLinker

open List (Forall₂)
open Relation

/-! ### circles of a table -/

namespace Parents

variable {t t' : Table} {root : Nat}

/-- Two nodes are on one circle: each of them is above the other. -/
def Table.Around (t : Table) (a b : Nat) : Prop := TransGen t.Up a b ∧ TransGen t.Up b a

/-- The node is the lowest one of a circle. -/
def Table.Lowest (t : Table) (n : Nat) : Prop := t.Around n n ∧ ∀ k, t.Around n k → n ≤ k

/-- Some nodes are put under the root, and all others keep their parents. -/
structure Table.CutTo (root : Nat) (Cut : Nat → Prop) (t t' : Table) : Prop where
  size : t'.size = t.size
  cut : ∀ n, Cut n → t'.parent n = some root
  kept : ∀ n, ¬ Cut n → t'.parent n = t.parent n

/-- Every circle has a lowest node. -/
theorem exists_lowest {n : Nat} (h : TransGen t.Up n n) : ∃ k, t.Around n k ∧ t.Lowest k := by
  classical
  have hn : ∃ k, t.Around n k := ⟨n, h, h⟩
  obtain ⟨hup, hdown⟩ := Nat.find_spec hn
  refine ⟨Nat.find hn, ⟨hup, hdown⟩, ⟨hdown.trans hup, hdown.trans hup⟩, ?_⟩
  intro k hk
  exact Nat.find_min' hn ⟨hup.trans hk.1, hk.2.trans hdown⟩

/-- A table that gives the nodes of a circle the same parents has this circle as well. -/
theorem circle_congr {n : Nat} (h : TransGen t.Up n n)
    (hsame : ∀ k, t.Around n k → t'.parent k = t.parent k) : TransGen t'.Up n n := by
  have hway : ∀ b, TransGen t.Up n b → ReflTransGen t.Up b n → TransGen t'.Up n b := by
    intro b hup
    induction hup with
    | single hb => exact fun _ => .single ((hsame n ⟨h, h⟩).trans hb)
    | tail hup hb ih =>
      intro hdown
      have hclosed := TransGen.head' hb hdown
      exact (ih hclosed.to_reflTransGen).tail ((hsame _ ⟨hup, hclosed⟩).trans hb)
  exact hway n h .refl

namespace Table.CutTo

variable {Cut : Nat → Prop}

theorem rooted (h : CutTo root Cut t t') (hr : t.Rooted root) (hroot : ¬ Cut root) :
    t'.Rooted root where
  inside := h.size ▸ hr.inside
  top := (h.kept root hroot).trans hr.top
  range {n p} hp := by
    rw [h.size]
    by_cases hn : Cut n
    · obtain rfl := Option.some.inj ((h.cut n hn).symm.trans hp)
      exact hr.inside
    · exact hr.range ((h.kept n hn).symm.trans hp)

theorem congr {Cut' : Nat → Prop} (h : CutTo root Cut t t') (hsame : ∀ n, Cut' n ↔ Cut n) :
    CutTo root Cut' t t' :=
  ⟨h.size, fun n hn => h.cut n ((hsame n).1 hn), fun n hn => h.kept n (mt (hsame n).2 hn)⟩

/-- One more node is put under the root. -/
theorem put (h : CutTo root Cut t t') {n : Nat} (hn : n < t.size) :
    CutTo root (fun k => Cut k ∨ k = n) t (t'.setIfInBounds n (some root)) where
  size := by rw [Array.size_setIfInBounds, h.size]
  cut k hk := by
    rw [parent_setIfInBounds]
    rcases hk with hk | rfl
    · split
      · rfl
      · exact h.cut k hk
    · exact if_pos ⟨rfl, h.size.symm ▸ hn⟩
  kept k hk := by
    rw [parent_setIfInBounds, if_neg fun hkn => hk (.inr hkn.1.symm)]
    exact h.kept k fun hcut => hk (.inl hcut)

/-- A node that is cut is on no circle, because nothing leads on from the root. -/
theorem not_cut (h : CutTo root Cut t t') (hr : t.Rooted root) (hroot : ¬ Cut root) {n : Nat}
    (hn : TransGen t'.Up n n) : ¬ Cut n := by
  intro hcut
  obtain ⟨p, hp, hback⟩ := TransGen.head'_iff.1 hn
  obtain rfl := Option.some.inj ((h.cut n hcut).symm.trans hp)
  rcases ReflTransGen.cases_head hback with rfl | ⟨q, hq, -⟩
  · exact hroot hcut
  · exact absurd ((h.rooted hr hroot).top.symm.trans hq) (by simp)

/-- The circles that are left are those without a cut. -/
theorem circle_iff (h : CutTo root Cut t t') (hr : t.Rooted root) (hroot : ¬ Cut root) {n : Nat} :
    TransGen t'.Up n n ↔ TransGen t.Up n n ∧ ∀ k, t.Around n k → ¬ Cut k := by
  constructor
  · intro hn
    -- the way upwards from a node of a circle stays on the circle
    have hnext : ∀ {a b}, TransGen t'.Up a a → t.Up a b → t'.Up a b ∧ TransGen t'.Up b b := by
      intro a b ha hb
      have hup : t'.Up a b := (h.kept a (h.not_cut hr hroot ha)).trans hb
      obtain ⟨c, hc, hback⟩ := TransGen.head'_iff.1 ha
      obtain rfl := Option.some.inj (hup.symm.trans hc)
      exact ⟨hup, .tail' hback hup⟩
    have hway : ∀ k, TransGen t.Up n k → TransGen t'.Up k k := by
      intro k hk
      induction hk with
      | single hup => exact (hnext hn hup).2
      | tail _ hup ih => exact (hnext ih hup).2
    refine ⟨circle_congr hn fun k hk => ?_, fun k hk => h.not_cut hr hroot (hway k hk.1)⟩
    exact (h.kept k (h.not_cut hr hroot (hk.2.trans hk.1))).symm
  · rintro ⟨hn, hkept⟩
    exact circle_congr hn fun k hk => h.kept k (hkept k hk)

end Table.CutTo

/-- The root is on no circle. -/
theorem not_lowest_root (h : t.Rooted root) : ¬ t.Lowest root := by
  rintro ⟨⟨hroot, -⟩, -⟩
  obtain ⟨p, hp, -⟩ := TransGen.head'_iff.1 hroot
  exact absurd (h.top.symm.trans hp) (by simp)

theorem lt_of_lowest {n : Nat} (h : t.Lowest n) : n < t.size := by
  obtain ⟨p, hp, -⟩ := TransGen.head'_iff.1 h.1.1
  by_contra hge
  exact absurd ((parent_of_ge (Nat.le_of_not_lt hge)).symm.trans hp) (by simp)

/-- Once all circles with a lower node are cut there, a node is on a circle exactly if it is the
lowest one of it. -/
theorem circle_iff_lowest (h : t.Rooted root) {n : Nat}
    (hcut : t.CutTo root (fun k => k < n ∧ t.Lowest k) t') :
    TransGen t'.Up n n ↔ t.Lowest n := by
  rw [hcut.circle_iff h fun hroot => not_lowest_root h hroot.2]
  constructor
  · rintro ⟨hn, hkept⟩
    refine ⟨⟨hn, hn⟩, fun k hk => ?_⟩
    obtain ⟨l, hl, hlow⟩ := exists_lowest hn
    have hle : n ≤ l := by
      by_contra hlt
      exact hkept l hl ⟨by omega, hlow⟩
    exact hle.trans (hlow.2 k ⟨hl.2.trans hk.1, hk.2.trans hl.1⟩)
  · rintro ⟨⟨hn, -⟩, hlow⟩
    refine ⟨hn, fun k hk hcut => ?_⟩
    have := hlow k hk
    omega

/-- What is known after the turns of all nodes below a number. -/
structure Cutting (root : Nat) (t : Table) (n : Nat) (state : Table × List Nat) : Prop where
  table : t.CutTo root (fun k => k < n ∧ t.Lowest k) state.1
  mem : ∀ k, k ∈ state.2 ↔ k < n ∧ t.Lowest k
  ascending : state.2.Pairwise (· < ·)

theorem below_succ (t : Table) (n k : Nat) :
    (k < n + 1 ∧ t.Lowest k) ↔ (k < n ∧ t.Lowest k) ∨ (k = n ∧ t.Lowest n) := by
  rw [Nat.lt_succ_iff_lt_or_eq, or_and_right]
  refine or_congr_right ⟨?_, ?_⟩ <;> rintro ⟨rfl, h⟩ <;> exact ⟨rfl, h⟩

/-- A node that is not the lowest one of a circle changes nothing. -/
theorem Cutting.skip {n : Nat} {state : Table × List Nat} (hs : Cutting root t n state)
    (hn : ¬ t.Lowest n) : Cutting root t (n + 1) state := by
  have hturn : ∀ k, (k < n + 1 ∧ t.Lowest k) ↔ k < n ∧ t.Lowest k := fun k => by
    rw [below_succ, or_iff_left fun h => hn h.2]
  exact ⟨hs.table.congr hturn, fun k => (hs.mem k).trans (hturn k).symm, hs.ascending⟩

/-- The lowest node of a circle is put under the root, and recorded after all others. -/
theorem Cutting.put {n : Nat} {t' : Table} {done : List Nat} (hs : Cutting root t n (t', done))
    (hn : t.Lowest n) : Cutting root t (n + 1) (t'.setIfInBounds n (some root), done ++ [n]) := by
  have hturn : ∀ k, (k < n + 1 ∧ t.Lowest k) ↔ (k < n ∧ t.Lowest k) ∨ k = n := fun k => by
    rw [below_succ, and_iff_left hn]
  refine ⟨(hs.table.put (lt_of_lowest hn)).congr hturn, fun k => ?_, ?_⟩
  · rw [List.mem_append, List.mem_singleton, hs.mem, hturn]
  · rw [List.pairwise_append]
    refine ⟨hs.ascending, List.pairwise_singleton _ _, fun k hk l hl => ?_⟩
    rw [List.mem_singleton.1 hl]
    exact ((hs.mem k).1 hk).1

theorem Cutting.step (h : t.Rooted root) {n : Nat} {state : Table × List Nat}
    (hs : Cutting root t n state) : Cutting root t (n + 1) (cut root state n) := by
  obtain ⟨t', done⟩ := state
  have hrooted := hs.table.rooted h fun hroot => not_lowest_root h hroot.2
  have hlowest := circle_iff_lowest h hs.table
  rw [← isOnCircle_iff hrooted] at hlowest
  unfold cut
  dsimp only
  split
  · exact hs.put (hlowest.1 ‹_›)
  · exact hs.skip (mt hlowest.2 ‹_›)

theorem cutting_range (h : t.Rooted root) (n : Nat) :
    Cutting root t n ((List.range n).foldl (cut root) (t, [])) := by
  induction n with
  | zero => exact ⟨⟨rfl, fun _ hk => by omega, fun _ _ => rfl⟩, by simp, .nil⟩
  | succ n ih =>
    rw [List.range_succ, List.foldl_append]
    exact ih.step h

/-- The lowest node of every circle is put under the root, and nothing else is changed. -/
theorem cutTo_cutCircles (h : t.Rooted root) : t.CutTo root t.Lowest (cutCircles root t).1 := by
  obtain ⟨⟨hsize, hcut, hkept⟩, -, -⟩ := cutting_range h t.size
  exact ⟨hsize, fun n hn => hcut n ⟨lt_of_lowest hn, hn⟩, fun n hn => hkept n fun hcut => hn hcut.2⟩

/-- The nodes that are cut are the lowest ones of all circles. -/
theorem mem_cutCircles (h : t.Rooted root) {n : Nat} : n ∈ (cutCircles root t).2 ↔ t.Lowest n := by
  have hmem : n ∈ (cutCircles root t).2 ↔ n < t.size ∧ t.Lowest n := (cutting_range h t.size).mem n
  exact hmem.trans ⟨And.right, fun hn => ⟨lt_of_lowest hn, hn⟩⟩

end Parents

/-! ### circles of roles -/

namespace Model

/-- Two roles are on one circle: each of them is above the other. -/
def SameCircle (m : Model) (a b : RoleId) : Prop := TransGen m.Under a b ∧ TransGen m.Under b a

/-- The role is the first one of a circle. -/
def FirstOnCircle (m : Model) (id : RoleId) : Prop :=
  m.SameCircle id id ∧ ∀ k, m.SameCircle id k → id.index ≤ k.index

/-- Every circle of roles is reported once, in the order of the first roles, which are put under
`all`. All other roles are left alone, also those that are on a circle or lead to one. -/
structure CirclesCut (m : Model) : Prop where
  reported : (cycleProblems m).OneEach (fun i => m.FirstOnCircle ⟨i⟩) fun i d =>
    ∃ r, m.role? ⟨i⟩ = some r ∧ d = (Cause.roles (.parentCycle r.name)).at r.pos ∧ d.isError = true
  once : ∀ id, TransGen m.Under id id → ∃! k, m.SameCircle id k ∧ m.FirstOnCircle k
  cut : ∀ {id r}, m.role? id = some r → m.FirstOnCircle id →
    (breakParentCycles m).role? id = some { r with parent := some .all }
  kept : ∀ {id}, ¬ m.FirstOnCircle id → (breakParentCycles m).role? id = m.role? id
  leading : ∀ {id}, ¬ TransGen m.Under id id → (breakParentCycles m).role? id = m.role? id
  rest : breakParentCycles m = { m with roles := (breakParentCycles m).roles }
  circleless : (∀ id, ¬ TransGen m.Under id id) → cycleProblems m = [] ∧ breakParentCycles m = m

variable {m : Model}

theorem lowest_parentTable {id : RoleId} : m.parentTable.Lowest id.index ↔ m.FirstOnCircle id := by
  have haround : ∀ a b : RoleId, m.parentTable.Around a.index b.index ↔ m.SameCircle a b :=
    fun a b => and_congr transGen_up_parentTable transGen_up_parentTable
  refine and_congr (haround id id) ⟨fun h k hk => h k.index ((haround id k).2 hk), fun h k hk => ?_⟩
  exact h ⟨k⟩ ((haround id ⟨k⟩).1 hk)

theorem role?_breakParentCycles (m : Model) (id : RoleId) :
    (breakParentCycles m).role? id = (m.role? id).map fun r =>
      { r with
        parent := ((Parents.cutCircles RoleId.all.index m.parentTable).1.parent id.index).map .mk } := by
  simp [breakParentCycles, role?, Array.getElem?_mapIdx]

/-- One diagnostic for each of some numbers. -/
theorem forall₂_flatMap {f : Nat → Diagnostics} {Says : Nat → Diagnostic → Prop} {ns : List Nat}
    (h : ∀ n ∈ ns, ∃ d, f n = [d] ∧ Says n d) : Forall₂ Says ns (ns.flatMap f) := by
  induction ns with
  | nil => exact .nil
  | cons n rest ih =>
    obtain ⟨⟨d, hd, hsays⟩, hrest⟩ := List.forall_mem_cons.1 h
    rw [List.flatMap_cons, hd]
    exact .cons hsays (ih hrest)

/-- A circle has one first role. -/
theorem existsUnique_firstOnCircle {id : RoleId} (h : TransGen m.Under id id) :
    ∃! k, m.SameCircle id k ∧ m.FirstOnCircle k := by
  obtain ⟨k, hk, hlow⟩ := Parents.exists_lowest (transGen_up_parentTable.2 h)
  have hkid : m.SameCircle id ⟨k⟩ :=
    ⟨transGen_up_parentTable.1 hk.1, transGen_up_parentTable.1 hk.2⟩
  have hfirst : m.FirstOnCircle ⟨k⟩ := lowest_parentTable.1 hlow
  refine ⟨⟨k⟩, ⟨hkid, hfirst⟩, ?_⟩
  rintro l ⟨hl, hlfirst⟩
  have hle := hfirst.2 l ⟨hkid.2.trans hl.1, hl.2.trans hkid.1⟩
  have hge := hlfirst.2 ⟨k⟩ ⟨hl.2.trans hkid.1, hkid.2.trans hl.1⟩
  exact congrArg RoleId.mk (Nat.le_antisymm hge hle)

/-- If every role has its place all circles are cut as they should be. -/
theorem circlesCut_of_placed (h : m.Placed) : m.CirclesCut := by
  have hrooted := rooted_parentTable h
  have hcut := Parents.cutTo_cutCircles hrooted
  have hkept : ∀ {k}, ¬ m.FirstOnCircle k → (breakParentCycles m).role? k = m.role? k := by
    intro k hk
    rw [role?_breakParentCycles, hcut.kept _ (mt lowest_parentTable.1 hk), parentTable_parent,
      Option.map_map]
    cases hr : m.role? k with
    | none => rfl
    | some r =>
      have hback : (RoleId.mk ∘ RoleId.index) = id := rfl
      rw [parentOf_of_role? hr, hback, Option.map_id, Option.map_some, id]
  have hnodes : ∀ i, i ∈ (Parents.cutCircles RoleId.all.index m.parentTable).2 ↔
      m.FirstOnCircle ⟨i⟩ := fun i => (Parents.mem_cutCircles hrooted).trans lowest_parentTable
  refine ⟨⟨_, (Parents.cutting_range hrooted _).ascending, hnodes, forall₂_flatMap fun i hi => ?_⟩,
    fun _ => existsUnique_firstOnCircle, fun {id r} hr hid => ?_, hkept, fun hid => ?_, rfl, ?_⟩
  · obtain ⟨p, hp, -⟩ := TransGen.head'_iff.1 ((hnodes i).1 hi).1.1
    obtain ⟨r, hr, -⟩ := exists_role?_of_parentOf hp
    exact ⟨_, by rw [hr]; rfl, r, hr, rfl, rfl⟩
  · rw [role?_breakParentCycles, hcut.cut _ (lowest_parentTable.2 hid), hr]
    rfl
  · exact hkept fun hfirst => hid hfirst.1.1
  · intro hnone
    have hok := h.isOk_cycleProblems.2 hnone
    exact ⟨cycleProblems_eq_nil hok, breakParentCycles_of_isOk hok⟩

/-- Whatever parents the roles of a model name, every circle is cut once, at its first role, and
nothing else is. -/
theorem circlesCut_of_built {m : Model} (h : m.Built) :
    (bindParents (.ofModel m) m).CirclesCut ∧ (bindParents (.ofModel m) m.resolved).CirclesCut :=
  ⟨circlesCut_of_placed (placed_bindParents h.reservedRoles index_lt_of_name),
    circlesCut_of_placed
      (placed_bindParents (h.reservedRoles.congr m.resolved_roles) index_lt_of_name)⟩

/-- There are two circles, one of them with a role below it that leads to it. -/
theorem circlesCut_tangledRoles :
    tangledRoles.Built ∧
      (cycleProblems (bindParents (.ofModel tangledRoles) tangledRoles)).map (·.message) =
        ["role parent cycle: left", "role parent cycle: self"] ∧
      (bindParents (.ofModel tangledRoles) tangledRoles).CirclesCut ∧
      (bindParents (.ofModel tangledRoles) tangledRoles.resolved).CirclesCut :=
  ⟨built_tangledRoles, by rw [Namespace.ofModel_eq_scan]; decide +kernel,
    circlesCut_of_built built_tangledRoles⟩

end Model

end ModelLinker
