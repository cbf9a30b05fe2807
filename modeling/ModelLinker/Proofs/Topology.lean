import ModelLinker.Proofs.Binding.References
import ModelLinker.Proofs.Graph.Height

/-!
# The order of structures in a linked model

A run that finds no recursion leaves a model in which no structure embeds itself, not even through
others. `Model.OrderedBy` collects what its topology then says: heights are the lengths of longest
chains of embeddings, and the order lists all structures by height, so that each comes after those
it embeds.
-/

namespace ModelLinker

open Relation

namespace Model

/-- The first structure has a field that embeds the second one. -/
def Embeds (m : Model) (s t : StructId) : Prop := ∃ id, (id, t) ∈ m.embeds s

/-- So many embeddings one after another, from a structure on. -/
inductive EmbedChain (m : Model) : StructId → Nat → Prop where
  | nil {s} : EmbedChain m s 0
  | step {s t n} : m.Embeds s t → EmbedChain m t n → EmbedChain m s (n + 1)

/-- A topology that fits a model without recursion. -/
structure OrderedBy (m : Model) (t : Topology) : Prop where
  acyclic : ∀ s, ¬ TransGen m.Embeds s s
  complete : t.order.Perm m.structIds
  sorted : t.order.Pairwise fun a b =>
    t.height a < t.height b ∨ t.height a = t.height b ∧ a.index < b.index
  lower : ∀ {s e}, m.Embeds s e → t.height e < t.height s
  earlier : ∀ {s e}, m.Embeds s e → e ∈ m.structIds →
    ∃ i j, t.rank? e = some i ∧ t.rank? s = some j ∧ i < j
  longest : ∀ s, IsGreatest {n | m.EmbedChain s n} (t.height s)
  heights : ∀ {id s}, m.struct? id = some s → t.heights[id.index]? = some s.height
  again : Topology.ofModel m = t

variable {m : Model}

/-! ### embeddings as arrows -/

theorem embedded_eq (i : Nat) : m.embedded i = (m.embeds ⟨i⟩).map fun e => e.2.index := by
  simp only [embedded, successors, embeddings, structIds, List.getElem?_toArray, List.getElem?_map]
  rcases Nat.lt_or_ge i m.structs.size with hlt | hge
  · simp [List.getElem?_range hlt]
  · have hnot : (⟨i⟩ : StructId) ∉ m.structIds := by
      simp [mem_structIds, Nat.not_lt.2 hge]
    simp [hge, embeds, fieldsOf_of_not_mem hnot]

theorem arrow_iff {s t : StructId} :
    Graph.Arrow m.embedded s.index t.index ↔ m.Embeds s t := by
  simp only [Graph.Arrow, embedded_eq, List.mem_map, Embeds]
  constructor
  · rintro ⟨⟨id, u⟩, hmem, hu⟩
    obtain ⟨u⟩ := u
    obtain ⟨t⟩ := t
    obtain rfl : u = t := hu
    exact ⟨id, hmem⟩
  · rintro ⟨id, hmem⟩
    exact ⟨(id, t), hmem, rfl⟩

theorem embedded_of_ge {i : Nat} (h : m.structs.size ≤ i) : m.embedded i = [] := by
  have hnot : (⟨i⟩ : StructId) ∉ m.structIds := by
    simp [mem_structIds, Nat.not_lt.2 h]
  simp [embedded_eq, embeds, fieldsOf_of_not_mem hnot]

theorem reach_iff {s t : StructId} :
    ReflTransGen (Graph.Arrow m.embedded) s.index t.index ↔ ReflTransGen m.Embeds s t := by
  constructor
  · intro h
    exact ReflTransGen.lift StructId.mk (fun a b hab => (@arrow_iff m ⟨a⟩ ⟨b⟩).1 hab) _ _ h
  · intro h
    exact ReflTransGen.lift StructId.index (fun _ _ hab => arrow_iff.2 hab) _ _ h

theorem chain_iff {s : StructId} {n : Nat} :
    Graph.Chain m.embedded s.index n ↔ m.EmbedChain s n := by
  constructor
  · intro h
    obtain ⟨i, hi⟩ : ∃ i, s.index = i := ⟨_, rfl⟩
    rw [hi] at h
    induction h generalizing s with
    | nil => exact .nil
    | @step _ w _ harrow _ ih =>
      exact .step ((@arrow_iff m s ⟨w⟩).1 (hi ▸ harrow)) (@ih ⟨w⟩ rfl)
  · intro h
    induction h with
    | nil => exact .nil
    | step he _ ih => exact .step (arrow_iff.2 he) ih

/-! ### no recursion -/

theorem field?_of_mem_embeds {s t : StructId} {id : FieldId} (h : (id, t) ∈ m.embeds s) :
    ∃ f, m.field? id = some f ∧ (id, f) ∈ m.fieldsOf s := by
  obtain ⟨⟨id', f⟩, hmem, he⟩ := List.mem_filterMap.1 h
  obtain ⟨_, -, heq⟩ := Option.map_eq_some_iff.1 he
  obtain ⟨rfl, rfl⟩ := Prod.mk.inj heq
  exact ⟨f, field?_of_mem_fieldsOf hmem, hmem⟩

theorem mem_structIds_of_embeds {s t : StructId} (h : m.Embeds s t) : s ∈ m.structIds := by
  obtain ⟨id, hmem⟩ := h
  obtain ⟨f, -, hf⟩ := field?_of_mem_embeds hmem
  obtain ⟨st, hst, -⟩ := mem_fieldsOf.1 hf
  rw [mem_structIds]
  exact (struct?_eq_some.1 hst).1

/-- A structure of a model embeds structures of the model. -/
theorem mem_structIds_of_embedded (h : m.OwnersExist) {s t : StructId}
    (hst : m.Embeds s t) : t ∈ m.structIds := by
  obtain ⟨id, hmem⟩ := hst
  obtain ⟨e, -, he⟩ := List.mem_filterMap.1 hmem
  obtain ⟨t', ht', heq⟩ := Option.map_eq_some_iff.1 he
  obtain ⟨-, rfl⟩ := Prod.mk.inj heq
  obtain ⟨x, hx⟩ := exists_of_embedded? h ht'
  exact mem_structIds.2 (struct?_eq_some.1 hx).1

/-- Nothing is wrong with recursion exactly if no structure embeds itself. -/
theorem isOk_recursionProblems :
    Diagnostics.isOk (recursionProblems m) = true ↔ ∀ s, ¬ TransGen m.Embeds s s := by
  have hreach : ∀ {s t : StructId}, s ∈ m.structIds →
      (Graph.reaches m.embedded m.structs.size t.index s.index = true ↔
        ReflTransGen m.Embeds t s) := by
    intro s t hs
    rw [Graph.reaches_iff (fun _ hv => embedded_of_ge hv) (mem_structIds.1 hs), reach_iff]
  simp only [recursionProblems, Diagnostics.isOk_flatMap]
  constructor
  · intro h s hcircle
    obtain ⟨t, hst, hts⟩ := TransGen.head'_iff.1 hcircle
    have hs := mem_structIds_of_embeds hst
    obtain ⟨id, hmem⟩ := hst
    obtain ⟨f, hf, -⟩ := field?_of_mem_embeds hmem
    have := h s hs (id, t) hmem
    simp [(hreach hs).2 hts, hf] at this
  · intro h s hs e hmem
    rw [if_neg]
    · rfl
    · intro hr
      exact h s (.head' ⟨e.1, hmem⟩ ((hreach hs).1 hr))

/-- Numbers that get less with every embedding show that there is no recursion. -/
theorem isOk_recursionProblems_of_rank (rank : StructId → Nat)
    (h : ∀ s ∈ m.structIds, ∀ e ∈ m.embeds s, rank e.2 < rank s) :
    Diagnostics.isOk (recursionProblems m) = true := by
  have hlower : ∀ {s t}, TransGen m.Embeds s t → rank t < rank s := by
    intro s t hst
    induction hst with
    | single he =>
      obtain ⟨id, hmem⟩ := he
      exact h s (mem_structIds_of_embeds ⟨id, hmem⟩) (id, _) hmem
    | @tail t u _ he ih =>
      obtain ⟨id, hmem⟩ := he
      exact (h t (mem_structIds_of_embeds ⟨id, hmem⟩) (id, u) hmem).trans ih
  exact isOk_recursionProblems.2 fun s hs => Nat.lt_irrefl _ (hlower hs)

/-! ### heights and order -/

theorem order_perm : (Topology.ofModel m).order.Perm m.structIds :=
  Graph.byHeight_perm.map StructId.mk

section Order

variable (hacyclic : ∀ s, ¬ TransGen m.Embeds s s)

include hacyclic

theorem isHeight_embedded (i : Nat) :
    Graph.IsHeight m.embedded i ((Graph.visitAll m.embedded m.structs.size).height i) := by
  refine Graph.isHeight_visitAll ?_ (fun _ hv => embedded_of_ge hv) i
  intro v hv
  exact hacyclic ⟨v⟩
    (TransGen.lift StructId.mk (fun a b hab => (@arrow_iff m ⟨a⟩ ⟨b⟩).1 hab) _ _ hv)

theorem height_ofModel (s : StructId) :
    (Topology.ofModel m).height s =
      (Graph.visitAll m.embedded m.structs.size).height s.index := by
  simp only [Topology.height, Topology.ofModel, List.getElem?_map]
  rcases Nat.lt_or_ge s.index m.structs.size with hlt | hge
  · simp [List.getElem?_range hlt]
  · -- outside the model there are no chains
    have hzero := (isHeight_embedded hacyclic s.index).unique
      (Graph.isHeight_zero (embedded_of_ge hge))
    simp [hge, hzero]

theorem isGreatest_height (s : StructId) :
    IsGreatest {n | m.EmbedChain s n} ((Topology.ofModel m).height s) := by
  have h := isHeight_embedded hacyclic s.index
  simp only [Graph.IsHeight, chain_iff] at h
  rwa [height_ofModel hacyclic]

theorem height_lt {s e : StructId} (h : m.Embeds s e) :
    (Topology.ofModel m).height e < (Topology.ofModel m).height s :=
  (isGreatest_height hacyclic s).2 (EmbedChain.step h (isGreatest_height hacyclic e).1)

theorem order_sorted : (Topology.ofModel m).order.Pairwise fun a b =>
    (Topology.ofModel m).height a < (Topology.ofModel m).height b ∨
      (Topology.ofModel m).height a = (Topology.ofModel m).height b ∧ a.index < b.index := by
  simp only [height_ofModel hacyclic]
  exact List.pairwise_map.2 Graph.byHeight_pairwise

/-- In the order of heights a structure stands after those it embeds. -/
theorem rank_lt {s e : StructId} (h : m.Embeds s e) (he : e ∈ m.structIds) :
    ∃ i j, (Topology.ofModel m).rank? e = some i ∧ (Topology.ofModel m).rank? s = some j ∧
      i < j := by
  have hperm := @order_perm m
  have hrank : ∀ x ∈ m.structIds, ∃ i, (Topology.ofModel m).rank? x = some i ∧
      ∃ hi : i < (Topology.ofModel m).order.length, (Topology.ofModel m).order[i] = x := by
    intro x hx
    obtain ⟨i, hi⟩ : ∃ i, (Topology.ofModel m).rank? x = some i :=
      Option.isSome_iff_exists.1 (by simpa [Topology.rank?] using hperm.mem_iff.2 hx)
    obtain ⟨hlt, hx, -⟩ := List.findIdx?_eq_some_iff_getElem.1 hi
    exact ⟨i, hi, hlt, by simpa using hx⟩
  obtain ⟨i, hri, hi, hei⟩ := hrank e he
  obtain ⟨j, hrj, hj, hsj⟩ := hrank s (mem_structIds_of_embeds h)
  refine ⟨i, j, hri, hrj, ?_⟩
  have hlt := height_lt hacyclic h
  rcases Nat.lt_trichotomy i j with hij | hij | hij
  · exact hij
  · subst hij
    rw [hei] at hsj
    subst hsj
    omega
  · have := List.pairwise_iff_getElem.1 (order_sorted hacyclic) j i hj hi hij
    rw [hei, hsj] at this
    omega

end Order

/-! ### linked models -/

theorem SameFields.embeds {m m' : Model} (h : SameFields m m') : m'.embeds = m.embeds := by
  funext s
  simp only [Model.embeds, h.listed, h.embedded?]

theorem size_structs_congr {m m' : Model} (h : m'.asDeclared = m.asDeclared) :
    m'.structs.size = m.structs.size := by
  have := congrArg (fun m : Model => m.structs.size) h
  simpa [asDeclared] using this

theorem ofModel_congr {m m' : Model} (hsize : m'.structs.size = m.structs.size)
    (h : m'.embeds = m.embeds) : Topology.ofModel m' = Topology.ofModel m := by
  have hids : m'.structIds = m.structIds := by simp [structIds, hsize]
  have hemb : m'.embedded = m.embedded := by
    simp only [embedded, embeddings, hids, h]
  simp only [Topology.ofModel, hsize, hids, hemb, h]

theorem sameFields_of_bound (m : Model) : SameFields m.bound m.linked where
  fields := m.linked_fields
  listed := fieldsOf_congr
    (map_fields_of_asDeclared (asDeclared_linked.trans asDeclared_bound.symm)) m.linked_fields

theorem sameFields_of_joined (m : Model) : SameFields m.joined m.linked where
  fields := m.linked_fields
  listed := fieldsOf_congr
    (map_fields_of_asDeclared (asDeclared_linked.trans asDeclared_joined.symm)) m.linked_fields

theorem ofModel_linked (m : Model) : Topology.ofModel m.linked = m.topology :=
  ofModel_congr (size_structs_congr (asDeclared_linked.trans asDeclared_joined.symm))
    (sameFields_of_joined m).embeds

theorem heights_linked {id : StructId} {s : Struct} (hs : m.linked.struct? id = some s) :
    m.topology.heights[id.index]? = some s.height := by
  have hview : m.linked.structs.map Struct.height =
      (setHeights m.topology m.joined).structs.map Struct.height := by
    rw [linked, map_computeFlags (fun _ _ => rfl), marked,
      map_markUniqueSearches (fun _ _ => rfl)]
  obtain ⟨x, hx, heq⟩ := struct?_of_map_eq hview hs
  simp only [setHeights, struct?, Array.getElem?_mapIdx, Option.map_eq_some_iff] at hx
  obtain ⟨y, hy, rfl⟩ := hx
  have hlt : id.index < m.joined.structs.size := (Array.getElem?_eq_some_iff.1 hy).1
  have hlen : id.index < m.topology.heights.length := by
    simpa [topology, Topology.ofModel] using hlt
  rw [← heq]
  simp [Topology.height, List.getElem?_eq_getElem hlen]

/-- A model without recursion is ordered by its topology. -/
theorem linked_orderedBy (h : Diagnostics.isOk (recursionProblems m.bound) = true) :
    m.linked.OrderedBy m.topology := by
  have hacyclic : ∀ s, ¬ TransGen m.linked.Embeds s s := by
    have hembeds : m.linked.Embeds = m.bound.Embeds := by
      funext s t
      simp only [Embeds, (sameFields_of_bound m).embeds]
    rw [hembeds]
    exact isOk_recursionProblems.1 h
  rw [← ofModel_linked]
  exact
    { acyclic := hacyclic
      complete := order_perm
      sorted := order_sorted hacyclic
      lower := height_lt hacyclic
      earlier := rank_lt hacyclic
      longest := isGreatest_height hacyclic
      heights := fun hs => by
        rw [ofModel_linked]
        exact heights_linked hs
      again := rfl }

end Model

end ModelLinker
