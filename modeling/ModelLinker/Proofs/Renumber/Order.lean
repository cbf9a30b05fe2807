import ModelLinker.Proofs.Marks
import ModelLinker.Proofs.Renumber.Names

/-!
# Order, heights and marks of models that are alike

Embeddings lead from one structure to another in both models alike, so there is recursion in both or
in none, chains of embeddings have the same lengths, and the same structures have parts that may be
absent. The order of structures itself may differ, because structures of one height stand in the
order of their numbers.
-/

namespace ModelLinker

open Relation

namespace Model.Like

variable {ρ : Renumbering} {m m' : Model}

/-! ### chains of embeddings -/

theorem embedsTo (h : m.Like ρ m') {s t : StructId} :
    m'.Embeds (ρ.struct s) (ρ.struct t) ↔ m.Embeds s t := by
  simp only [Model.Embeds, h.embeds, List.mem_map]
  constructor
  · rintro ⟨_, e, hmem, heq⟩
    obtain ⟨-, ht⟩ := Prod.mk.inj heq
    obtain rfl := Renumbering.struct_inj.1 ht
    exact ⟨e.1, hmem⟩
  · rintro ⟨id, hmem⟩
    exact ⟨ρ.field id, (id, t), hmem, rfl⟩

theorem reaches (h : m.Like ρ m') {s t : StructId} :
    ReflTransGen m'.Embeds (ρ.struct s) (ρ.struct t) ↔ ReflTransGen m.Embeds s t := by
  constructor
  · intro hreach
    obtain ⟨u, hu⟩ : ∃ u, u = ρ.struct t := ⟨_, rfl⟩
    rw [← hu] at hreach
    induction hreach generalizing t with
    | refl =>
      obtain rfl := Renumbering.struct_inj.1 hu
      exact .refl
    | @tail v _ _ he ih =>
      obtain ⟨w, rfl⟩ := ρ.struct_surjective v
      subst hu
      exact (ih rfl).tail (h.embedsTo.1 he)
  · intro hreach
    exact ReflTransGen.lift ρ.struct (fun _ _ he => h.embedsTo.2 he) _ _ hreach

theorem embedChain (h : m.Like ρ m') {s : StructId} {n : ℕ} :
    m'.EmbedChain (ρ.struct s) n ↔ m.EmbedChain s n := by
  constructor
  · intro hchain
    obtain ⟨u, hu⟩ : ∃ u, u = ρ.struct s := ⟨_, rfl⟩
    rw [← hu] at hchain
    induction hchain generalizing s with
    | nil => exact .nil
    | @step _ t _ he _ ih =>
      obtain ⟨w, rfl⟩ := ρ.struct_surjective t
      subst hu
      exact .step (h.embedsTo.1 he) (ih rfl)
  · intro hchain
    induction hchain with
    | nil => exact .nil
    | step he _ ih => exact .step (h.embedsTo.2 he) ih

/-! ### recursion -/

theorem acyclic (h : m.Like ρ m') (ha : ∀ s, ¬ TransGen m.Embeds s s) (s : StructId) :
    ¬ TransGen m'.Embeds s s := by
  intro hcircle
  obtain ⟨s, rfl⟩ := ρ.struct_surjective s
  obtain ⟨t, hst, hts⟩ := TransGen.head'_iff.1 hcircle
  obtain ⟨t, rfl⟩ := ρ.struct_surjective t
  exact ha s (.head' (h.embedsTo.1 hst) (h.reaches.1 hts))

theorem isOk_recursion (h : m.Like ρ m')
    (hok : Diagnostics.isOk (recursionProblems m) = true) :
    Diagnostics.isOk (recursionProblems m') = true := by
  rw [isOk_recursionProblems] at hok ⊢
  exact h.acyclic hok

/-! ### heights -/

theorem height (h : m.Like ρ m') (ha : ∀ s, ¬ TransGen m.Embeds s s) (s : StructId) :
    (Topology.ofModel m').height (ρ.struct s) = (Topology.ofModel m).height s := by
  have hlongest := isGreatest_height (h.acyclic ha) (ρ.struct s)
  simp only [h.embedChain] at hlongest
  exact hlongest.unique (isGreatest_height ha s)

theorem setHeights (h : m.Like ρ m') (ha : ∀ s, ¬ TransGen m.Embeds s s) :
    (setHeights (Topology.ofModel m) m).Like ρ (setHeights (Topology.ofModel m') m') :=
  { h with
    structs := h.structs.mapIdx fun i _ _ _ _ hs => { hs with height := h.height ha ⟨i⟩ } }

/-! ### marks -/

theorem hasNullable (h : m.Like ρ m') {s : StructId} :
    m'.HasNullable (ρ.struct s) ↔ m.HasNullable s := by
  simp only [Model.HasNullable, h.fieldsOf, List.mem_map]
  constructor
  · rintro ⟨_, ⟨e, hmem, rfl⟩, hstruct, r', hr', source', hsource, hnull⟩
    obtain ⟨r, hr, rfl⟩ := Option.map_eq_some_iff.1 hr'
    rw [Reference.rename, h.field?] at hsource
    obtain ⟨source, hs, rfl⟩ := Option.map_eq_some_iff.1 hsource
    exact ⟨e, hmem, by simpa [entry] using hstruct, r, hr, source, hs, hnull⟩
  · rintro ⟨e, hmem, hstruct, r, hr, source, hsource, hnull⟩
    refine ⟨entry ρ e, ⟨e, hmem, rfl⟩, by simpa [entry] using hstruct, r.rename ρ, ?_,
      source.rename ρ, ?_, hnull⟩
    · simp [entry, hr]
    · simp [Reference.rename, h.field?, hsource]

theorem leadsToNullable (h : m.Like ρ m') {s : StructId} :
    m'.LeadsToNullable (ρ.struct s) ↔ m.LeadsToNullable s := by
  constructor
  · rintro ⟨t, hst, ht⟩
    obtain ⟨t, rfl⟩ := ρ.struct_surjective t
    exact ⟨t, h.reaches.1 hst, h.hasNullable.1 ht⟩
  · rintro ⟨t, hst, ht⟩
    exact ⟨ρ.struct t, h.reaches.2 hst, h.hasNullable.2 ht⟩

/-- Marks that are right in both models are the same. -/
theorem flags_eq (h : m.Like ρ m') {id : StructId} {s s' : Struct} (hs : m.MarkedAt id s)
    (hs' : m'.MarkedAt (ρ.struct id) s')
    (hsearches : s'.searches = s.searches.map (Search.rename ρ)) :
    s'.flags = s.flags := by
  have hnull : s'.flags.hasNullrefs = s.flags.hasNullrefs := by
    rw [Bool.eq_iff_iff, hs.nullrefs, hs'.nullrefs, h.leadsToNullable]
  have hqueue : s'.flags.hasQueue = s.flags.hasQueue := by
    rw [hs.queue, hs'.queue, hsearches, List.any_map]
    rfl
  have hiterator : s'.flags.hasIterator = s.flags.hasIterator := by
    rw [hs.iterator, hs'.iterator, hsearches, List.any_map]
    rfl
  have hblob : s'.flags.hasBlob = s.flags.hasBlob := by
    rw [hs.blob, hs'.blob, h.fieldsOf, List.any_map, Bool.eq_iff_iff]
    simp [entry]
  cases hf : s.flags
  cases hf' : s'.flags
  simp_all

end Model.Like

end ModelLinker
