import Mathlib.Data.List.Perm.Basic
import ModelLinker.Proofs.Graph.Generations
import ModelLinker.Proofs.Renumber.Sources
import ModelLinker.Proofs.Topology

/-!
# Recursion and order in any model

Nothing here asks for a linked model or for one without recursion. The fields that are reported as
recursive are those that embed a structure which leads back to their own one
(`recursionProblems_exact`). A topology always lists all structures by height, counts the embeddings
and gives one generation to all structures with the same root (`arranged_ofModel`).
-/

namespace ModelLinker

open Relation

/-! ### recursive fields -/

/-- The field embeds a structure that is the given one or leads to it. -/
def Model.LeadsBack (m : Model) (s : StructId) (f : Field) : Prop :=
  ∃ t, m.embedded? f = some t ∧ ReflTransGen m.Embeds t s

namespace Model

variable {m : Model}

open Classical in
/-- The reports about the fields of one structure. -/
theorem recursionProblems_of_struct {s : StructId} (hs : s ∈ m.structIds) :
    ((m.embeds s).flatMap fun e =>
      if Graph.reaches m.embedded m.structs.size e.2.index s.index then
        (m.field? e.1).toList.map fun f => Cause.recursion.at f.pos
      else []) =
      ((m.fieldsOf s).filter fun e => m.LeadsBack s e.2).map fun e => Cause.recursion.at e.2.pos := by
  have hreach : ∀ t : StructId, Graph.reaches m.embedded m.structs.size t.index s.index = true ↔
      ReflTransGen m.Embeds t s := fun t => by
    rw [Graph.reaches_iff (fun _ hv => embedded_of_ge hv) (mem_structIds.1 hs), reach_iff]
  have hfound : ∀ e ∈ m.fieldsOf s, m.field? e.1 = some e.2 := fun e he =>
    field?_of_mem_fieldsOf he
  rw [embeds]
  generalize m.fieldsOf s = fields at hfound
  induction fields with
  | nil => rfl
  | cons e rest ih =>
    have hrest := ih fun e he => hfound e (List.mem_cons_of_mem _ he)
    cases he : m.embedded? e.2 with
    | none =>
      have hnot : ¬ m.LeadsBack s e.2 := by simp [LeadsBack, he]
      rw [List.filterMap_cons_none (by simp [he]), hrest, List.filter_cons_of_neg (by simp [hnot])]
    | some t =>
      have hback : m.LeadsBack s e.2 ↔ ReflTransGen m.Embeds t s := by simp [LeadsBack, he]
      rw [List.filterMap_cons_some (by simp [he]; rfl), List.flatMap_cons, hrest]
      by_cases hpath : ReflTransGen m.Embeds t s
      · rw [if_pos ((hreach t).2 hpath), hfound e List.mem_cons_self,
          List.filter_cons_of_pos (by simp [hback, hpath])]
        rfl
      · rw [if_neg (mt (hreach t).1 hpath), List.filter_cons_of_neg (by simp [hback, hpath])]
        rfl

open Classical in
/-- The recursive fields are reported one by one, in the order of the structures and their fields,
and no other field is; so nothing is reported exactly if no structure embeds itself. -/
theorem recursionProblems_exact (m : Model) :
    (recursionProblems m = m.structIds.flatMap fun s =>
      ((m.fieldsOf s).filter fun e => m.LeadsBack s e.2).map fun e =>
        Cause.recursion.at e.2.pos) ∧
    (recursionProblems m = [] ↔ ∀ s, ¬ TransGen m.Embeds s s) := by
  have heq : recursionProblems m = m.structIds.flatMap fun s =>
      ((m.fieldsOf s).filter fun e => m.LeadsBack s e.2).map fun e => Cause.recursion.at e.2.pos := by
    rw [recursionProblems, List.flatMap_def, List.flatMap_def]
    exact congrArg List.flatten (List.map_congr_left fun s hs => recursionProblems_of_struct hs)
  refine ⟨heq, ?_⟩
  rw [← isOk_recursionProblems]
  exact ⟨fun h => by rw [h]; rfl, recursionProblems_eq_nil⟩

end Model

/-! ### the topology of any model -/

/-- The least structure that a structure can be reached from, by its index. -/
noncomputable def Model.root (m : Model) (s : StructId) : Nat :=
  sInf {i | ReflTransGen m.Embeds ⟨i⟩ s}

/-- The roots of all structures. -/
noncomputable def Model.roots (m : Model) : Finset Nat := (m.structIds.map m.root).toFinset

/-- The references of fields lead to fields. -/
def Model.TargetsExist (m : Model) : Prop :=
  ∀ f ∈ m.fields, ∀ r ∈ f.reference, (m.field? r.target).isSome

/-- A topology that fits a model, with recursion or without. -/
structure Model.Arranged (m : Model) (t : Topology) : Prop where
  /-- Visits that nothing bounds come to an end, in one way only, and its heights and generations
  are theirs. -/
  ended : ∃ w n, (∀ state, Graph.Walked m.embedded (List.range m.structs.size)
      (.start m.structs.size, 0) state ↔ state = (w, n)) ∧
    t.heights = (List.range m.structs.size).map w.height ∧ t.generations = w.generations.toList
  complete : t.order.Perm m.structIds
  sorted : t.order.Pairwise fun a b =>
    t.height a < t.height b ∨ t.height a = t.height b ∧ a.index < b.index
  bounded : ∀ s, t.height s ≤ m.structs.size
  /-- If every field is listed once, by its owner, all embeddings count. -/
  edges : m.Owned →
    t.edges = (m.fields.toList.filter fun f => f.type.isStruct && f.reference.isSome).length
  /-- The generation of a structure is the rank of its root among all roots. -/
  generation : ∀ s ∈ m.structIds,
    t.generation s = (m.roots.filter fun r => r ≤ m.root s).card
  shared : ∀ s ∈ m.structIds, ∀ s' ∈ m.structIds,
    t.generation s = t.generation s' ↔ m.root s = m.root s'
  ordered : ∀ s ∈ m.structIds, ∀ s' ∈ m.structIds,
    t.generation s < t.generation s' ↔ m.root s < m.root s'
  gapless : ∀ g, (∃ s ∈ m.structIds, t.generation s = g) ↔ 1 ≤ g ∧ g ≤ m.roots.card

namespace Model

variable {m : Model}

/-! ### roots -/

theorem root_eq (s : StructId) : m.root s = Graph.root m.embedded s.index := by
  simp only [root, Graph.root, ← reach_iff]

theorem root_lt {s : StructId} (hs : s ∈ m.structIds) : m.root s < m.structs.size :=
  Nat.lt_of_le_of_lt (Nat.sInf_le ReflTransGen.refl) (mem_structIds.1 hs)

theorem root_root (s : StructId) : m.root ⟨m.root s⟩ = m.root s := by
  rw [root_eq, root_eq, Graph.root_root]

theorem mem_roots {r : Nat} : r ∈ m.roots ↔ r < m.structs.size ∧ m.root ⟨r⟩ = r := by
  simp only [roots, List.mem_toFinset, List.mem_map]
  constructor
  · rintro ⟨s, hs, rfl⟩
    exact ⟨root_lt hs, root_root s⟩
  · rintro ⟨hlt, hroot⟩
    exact ⟨⟨r⟩, mem_structIds.2 hlt, hroot⟩

/-- How many structures below a number are roots. -/
noncomputable def rootsBelow (m : Model) (n : Nat) : Nat := Nat.count (fun r => m.root ⟨r⟩ = r) n

theorem card_roots_le {s : StructId} (hs : s ∈ m.structIds) :
    (m.roots.filter fun r => r ≤ m.root s).card = m.rootsBelow (m.root s) + 1 := by
  have hfilter : (m.roots.filter fun r => r ≤ m.root s) =
      (Finset.range (m.root s + 1)).filter fun r => m.root ⟨r⟩ = r := by
    ext r
    simp only [Finset.mem_filter, mem_roots, Finset.mem_range]
    have := root_lt hs
    constructor
    · rintro ⟨⟨-, hroot⟩, hle⟩
      exact ⟨by omega, hroot⟩
    · rintro ⟨hlt, hroot⟩
      exact ⟨⟨by omega, hroot⟩, by omega⟩
  rw [hfilter, ← Nat.count_eq_card_filter_range, Nat.count_succ, if_pos (root_root s), rootsBelow]

theorem card_roots (m : Model) : m.roots.card = m.rootsBelow m.structs.size := by
  rw [rootsBelow, Nat.count_eq_card_filter_range]
  refine congrArg Finset.card ?_
  ext r
  simp [mem_roots]

theorem rootsBelow_lt_iff (s s' : StructId) :
    m.rootsBelow (m.root s) < m.rootsBelow (m.root s') ↔ m.root s < m.root s' := by
  constructor
  · intro h
    by_contra hle
    exact absurd (Nat.count_monotone _ (Nat.le_of_not_lt hle)) (Nat.not_le.2 h)
  · exact Nat.count_strict_mono (root_root s)

/-- Counting goes up by one at a time. -/
theorem exists_root {n k : Nat} (h : n < m.rootsBelow k) :
    ∃ r < k, m.root ⟨r⟩ = r ∧ m.rootsBelow r = n := by
  induction k with
  | zero => simp [rootsBelow] at h
  | succ k ih =>
    by_cases hn : n < m.rootsBelow k
    · obtain ⟨r, hr, hroot, hcount⟩ := ih hn
      exact ⟨r, by omega, hroot, hcount⟩
    · have hsucc : m.rootsBelow (k + 1) = m.rootsBelow k + if m.root ⟨k⟩ = k then 1 else 0 :=
        Nat.count_succ _ k
      rw [hsucc] at h
      split at h
      · exact ⟨k, by omega, ‹_›, by omega⟩
      · omega

/-! ### heights and generations -/

theorem height_eq (s : StructId) :
    (Topology.ofModel m).height s =
      (Graph.visitAll m.embedded m.structs.size).height s.index := by
  simp only [Topology.height, Topology.ofModel, List.getElem?_map]
  rcases Nat.lt_or_ge s.index m.structs.size with hlt | hge
  · simp [List.getElem?_range hlt]
  · -- outside the model there is nothing to visit
    obtain ⟨_, h⟩ := Graph.surveyed_visitAll fun _ hv => embedded_of_ge (m := m) hv
    have hmark : (Graph.visitAll m.embedded m.structs.size).mark s.index = .done 0 := by
      have hsize := h.sized
      simp [Graph.Visits.mark, Array.getElem?_eq_none (hsize ▸ hge)]
    simp [Nat.not_lt.2 hge, Graph.Visits.height, hmark]

theorem generation_eq {s : StructId} (hs : s ∈ m.structIds) :
    (Topology.ofModel m).generation s = m.rootsBelow (m.root s) + 1 := by
  have h := Graph.generation_visitAll (fun _ hv => embedded_of_ge (m := m) hv) (mem_structIds.1 hs)
  simp only [Topology.generation, Topology.ofModel, Array.getElem?_toList, h, Option.getD_some,
    root_eq, rootsBelow]

/-! ### embeddings -/

theorem countP_eq_countP_range {α : Type} (p : α → Bool) (xs : List α) :
    xs.countP p = (List.range xs.length).countP fun i => xs[i]?.any p := by
  induction xs with
  | nil => rfl
  | cons x xs ih =>
    rw [List.countP_cons, ih, List.length_cons, List.range_succ_eq_map, List.countP_cons,
      List.countP_map]
    simp [Function.comp_def]

/-- Every field that embeds a structure is listed once, by its owner. -/
theorem edges_eq (hown : m.Owned) (href : m.TargetsExist) :
    (Topology.ofModel m).edges =
      (m.fields.toList.filter fun f => f.type.isStruct && f.reference.isSome).length := by
  let embedding : Field → Bool := fun f => f.type.isStruct && f.reference.isSome
  have hembedded : ∀ e ∈ m.structIds.flatMap m.fieldsOf,
      (m.embedded? e.2).isSome = (m.fields.toList[e.1.index]?).any embedding := by
    intro e he
    obtain ⟨s, -, he⟩ := List.mem_flatMap.1 he
    have hf := field?_of_mem_fieldsOf he
    have hlisted : m.fields.toList[e.1.index]? = some e.2 := by simpa [field?] using hf
    rw [hlisted, Option.any_some]
    cases hr : e.2.reference with
    | none => simp [embedded?, embedding, hr]
    | some r =>
      obtain ⟨g, hg⟩ := Option.isSome_iff_exists.1 (href _ (Array.mem_of_getElem? hf) r hr)
      cases hstruct : e.2.type.isStruct <;> simp [embedded?, embedding, hr, hg, hstruct]
  calc (Topology.ofModel m).edges
      = (m.structIds.flatMap m.embeds).length := rfl
    _ = (m.structIds.flatMap m.fieldsOf).countP fun e => (m.embedded? e.2).isSome := by
        have hembeds : m.embeds = fun s => (m.fieldsOf s).filterMap fun e =>
            (m.embedded? e.2).map fun t => (e.1, t) := rfl
        rw [hembeds, ← List.filterMap_flatMap, List.length_filterMap_eq_countP]
        simp only [Option.isSome_map]
    _ = (m.structIds.flatMap m.fieldsOf).countP fun e =>
          (m.fields.toList[e.1.index]?).any embedding := by
        exact List.countP_congr fun e he => by rw [hembedded e he]
    _ = (m.structIds.flatMap m.fieldNumbers).countP fun i => (m.fields.toList[i]?).any embedding := by
        have hnumbers : m.fieldNumbers = fun s => (m.fieldsOf s).map fun e => e.1.index := rfl
        rw [hnumbers, ← List.map_flatMap, List.countP_map]
        rfl
    _ = (List.range m.fields.toList.length).countP fun i =>
          (m.fields.toList[i]?).any embedding := hown.fieldNumbers_perm.countP_eq _
    _ = m.fields.toList.countP embedding := (countP_eq_countP_range _ _).symm
    _ = _ := List.countP_eq_length_filter

/-- The topology of a model whose references lead to fields, with recursion or without: the visits
come to an end, the order is by height, and structures share a generation if they share a root. -/
theorem arranged_ofModel (href : m.TargetsExist) : m.Arranged (Topology.ofModel m) where
  ended := by
    obtain ⟨n, hwalk⟩ := Graph.walked_visitAll m.embedded m.structs.size
    exact ⟨_, n, fun _ => ⟨fun h => h.unique hwalk, fun h => h ▸ hwalk⟩, rfl, rfl⟩
  complete := order_perm
  sorted := by
    simp only [height_eq]
    exact List.pairwise_map.2 Graph.byHeight_pairwise
  bounded s := by
    rw [height_eq]
    exact Graph.height_visitAll_le (fun _ hv => embedded_of_ge hv) s.index
  edges hown := edges_eq hown href
  generation s hs := by rw [generation_eq hs, card_roots_le hs]
  shared s hs s' hs' := by
    rw [generation_eq hs, generation_eq hs', Nat.add_right_cancel_iff]
    exact ⟨Nat.count_injective (root_root s) (root_root s'), fun h => by rw [h]⟩
  ordered s hs s' hs' := by
    rw [generation_eq hs, generation_eq hs', Nat.add_lt_add_iff_right, rootsBelow_lt_iff]
  gapless g := by
    rw [card_roots]
    constructor
    · rintro ⟨s, hs, rfl⟩
      rw [generation_eq hs]
      exact ⟨by omega, Nat.count_strict_mono (root_root s) (root_lt hs)⟩
    · rintro ⟨hpos, hle⟩
      obtain ⟨r, hr, hroot, hcount⟩ := @exists_root m (g - 1) m.structs.size (by omega)
      refine ⟨⟨r⟩, mem_structIds.2 hr, ?_⟩
      rw [generation_eq (mem_structIds.2 hr), hroot, hcount]
      omega

/-- Two structures that embed one another, and one that embeds them both and itself. -/
def ring : Model :=
  let pos := Pos.ofFile "ring"
  let key := fun s => Field.new "id" pos s (.plain .int)
  let embedding := fun name s target =>
    { Field.new name pos s (.struct (.unbound "id" pos)) with
      reference := some ⟨⟨s.index⟩, target, .none, .none⟩ }
  let structs := ["a", "b", "c"].foldl (fun m n => (m.addStruct (.new n pos)).1) empty
  [key ⟨0⟩, key ⟨1⟩, key ⟨2⟩, embedding "next" ⟨0⟩ ⟨1⟩, embedding "back" ⟨1⟩ ⟨0⟩,
    embedding "one" ⟨2⟩ ⟨1⟩, embedding "other" ⟨2⟩ ⟨0⟩, embedding "self" ⟨2⟩ ⟨2⟩].foldl
      (fun m f => (m.addField f).1) structs

theorem owned_ring : ring.Owned := by
  simp only [ring, List.foldl_cons, List.foldl_nil]
  iterate 8 refine Owned.addField ?_ ⟨_, rfl⟩
  iterate 3 refine Owned.addStruct ?_ rfl
  exact owned_empty

theorem arranged_ring :
    ring.Owned ∧ ring.TargetsExist ∧ ring.Embeds ⟨0⟩ ⟨1⟩ ∧ ring.Embeds ⟨1⟩ ⟨0⟩ ∧
      ring.Embeds ⟨2⟩ ⟨2⟩ ∧ ring.Arranged (Topology.ofModel ring) := by
  have href : ring.TargetsExist := by
    unfold TargetsExist
    decide +kernel
  exact ⟨owned_ring, href, ⟨⟨3⟩, by decide +kernel⟩, ⟨⟨4⟩, by decide +kernel⟩,
    ⟨⟨7⟩, by decide +kernel⟩, arranged_ofModel href⟩

example : (Topology.ofModel ring).generations = [1, 1, 2] := by decide +kernel

end Model

end ModelLinker
