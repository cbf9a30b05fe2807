import ModelLinker.Proofs.Binding.References
import ModelLinker.Proofs.Marks
import ModelLinker.Proofs.Merged.Fields

/-!
# Order, heights and marks in a greater model

Where every reference leads to fields of the smaller model, embeddings that start in the smaller
model stay there. So no structure of the whole embeds itself if none of a part does, chains of
embeddings have the same lengths, and they lead to the same structures with parts that may be absent.
-/

namespace ModelLinker

open Relation

namespace Model

/-- Every reference leads from a field of the model to a field of the model. -/
def ReferencesExist (m : Model) : Prop :=
  ∀ id f r, m.field? id = some f → f.reference = some r →
    (∃ g, m.field? r.source = some g) ∧ ∃ g, m.field? r.target = some g

theorem ReferencesOk.referencesExist {m : Model} (h : m.ReferencesOk) : m.ReferencesExist := by
  have hkey : ∀ {id f k r r' t}, m.field? id = some f → m.KeyOk id f k r' t →
      f.reference = some r →
        (∃ g, m.field? r.source = some g) ∧ ∃ g, m.field? r.target = some g := by
    intro id f k r r' t hf hkey hr
    obtain rfl : r = r' := Option.some.inj (hr.symm.trans hkey.reference)
    exact ⟨⟨f, hkey.source ▸ hf⟩, t, hkey.found⟩
  intro id f r hf hr
  cases hs : f.type.isStruct with
  | false =>
    obtain ⟨hiff, hkeys⟩ := h.plain hf hs
    obtain ⟨k, hk⟩ := Option.isSome_iff_exists.1 (hiff.1 (by simp [hr]))
    obtain ⟨r', t, hok⟩ := hkeys k hk
    exact hkey hf hok hr
  | true =>
    obtain ⟨x, hx⟩ := FieldType.exists_of_isStruct hs
    obtain ⟨-, gid, g, k, r', t, hsource⟩ := h.struct hf hx
    exact hkey (field?_of_mem_fieldsOf hsource.bound.listed) hsource.key (hsource.shared ▸ hr)

theorem ReferencesExist.congr {m m' : Model} (h : m.ReferencesExist) (hf : m'.fields = m.fields) :
    m'.ReferencesExist := by
  intro id f r
  simp only [field?, hf]
  exact h id f r

namespace Within

variable {ρ : Renumbering} {m w : Model}

open Model.Like (entry)

/-! ### embeddings -/

section Embeddings

variable (h : m.Within ρ w) (hrefs : m.ReferencesExist)

include h hrefs

theorem embeds {id : StructId} (hid : id ∈ m.structIds) :
    w.embeds (ρ.struct id) = (m.embeds id).map fun e => (ρ.field e.1, ρ.struct e.2) := by
  simp only [Model.embeds, h.fieldsOf hid, List.filterMap_map, List.map_filterMap]
  refine List.filterMap_congr fun e he => ?_
  have hembedded : w.embedded? (e.2.rename ρ) = (m.embedded? e.2).map ρ.struct := by
    unfold Model.embedded?
    rw [Field.rename_type, FieldType.rename_isStruct, Field.rename_reference]
    split
    · cases hr : e.2.reference with
      | none => rfl
      | some r =>
        obtain ⟨-, t, ht⟩ := hrefs _ _ r (field?_of_mem_fieldsOf he) hr
        simp [Reference.rename, ht, h.field? ht]
    · rfl
  simp only [Function.comp_apply, entry, hembedded]
  cases m.embedded? e.2 <;> rfl

theorem embeds_iff {s u : StructId} (hs : s ∈ m.structIds) :
    w.Embeds (ρ.struct s) u ↔ ∃ t, u = ρ.struct t ∧ m.Embeds s t := by
  simp only [Model.Embeds, h.embeds hrefs hs, List.mem_map, Prod.mk.injEq]
  constructor
  · rintro ⟨_, e, hmem, -, rfl⟩
    exact ⟨e.2, rfl, e.1, hmem⟩
  · rintro ⟨t, rfl, id, hmem⟩
    exact ⟨_, (id, t), hmem, rfl, rfl⟩

/-- What can be reached from a structure of the smaller model is reached there. -/
theorem reaches_iff {s u : StructId} (hs : s ∈ m.structIds) :
    ReflTransGen w.Embeds (ρ.struct s) u ↔ ∃ t ∈ m.structIds, u = ρ.struct t ∧
      ReflTransGen m.Embeds s t := by
  constructor
  · intro hreach
    induction hreach with
    | refl => exact ⟨s, hs, rfl, .refl⟩
    | tail _ he ih =>
      obtain ⟨t, ht, rfl, hst⟩ := ih
      obtain ⟨u, rfl, htu⟩ := (h.embeds_iff hrefs ht).1 he
      exact ⟨u, mem_structIds_of_embedded h.owned.ownersExist htu, rfl, hst.tail htu⟩
  · rintro ⟨t, -, rfl, hst⟩
    exact ReflTransGen.lift ρ.struct (fun a b hab =>
      (h.embeds_iff hrefs (mem_structIds_of_embeds hab)).2 ⟨b, rfl, hab⟩) _ _ hst

theorem embedChain_iff {s : StructId} (hs : s ∈ m.structIds) {n : ℕ} :
    w.EmbedChain (ρ.struct s) n ↔ m.EmbedChain s n := by
  induction n generalizing s with
  | zero => exact ⟨fun _ => .nil, fun _ => .nil⟩
  | succ n ih =>
    constructor
    · rintro (_ | ⟨he, hchain⟩)
      obtain ⟨t, rfl, hst⟩ := (h.embeds_iff hrefs hs).1 he
      have ht := mem_structIds_of_embedded h.owned.ownersExist hst
      exact .step hst ((ih ht).1 hchain)
    · rintro (_ | ⟨hst, hchain⟩)
      have ht := mem_structIds_of_embedded h.owned.ownersExist hst
      exact .step ((h.embeds_iff hrefs hs).2 ⟨_, rfl, hst⟩) ((ih ht).2 hchain)

/-! ### heights -/

theorem height (hm : ∀ s, ¬ TransGen m.Embeds s s) (hw : ∀ s, ¬ TransGen w.Embeds s s)
    {s : StructId} (hs : s ∈ m.structIds) :
    (Topology.ofModel w).height (ρ.struct s) = (Topology.ofModel m).height s := by
  have hlongest := isGreatest_height hw (ρ.struct s)
  simp only [h.embedChain_iff hrefs hs] at hlongest
  exact hlongest.unique (isGreatest_height hm s)

theorem setHeights (hm : ∀ s, ¬ TransGen m.Embeds s s) (hw : ∀ s, ¬ TransGen w.Embeds s s) :
    (setHeights (Topology.ofModel m) m).Within ρ (setHeights (Topology.ofModel w) w) :=
  { h with
    owned := h.owned.congr (setHeights_asDeclared _ _)
    structs := h.structs.mapIdx fun i s s' hs hlike => by
      have hid : (⟨i⟩ : StructId) ∈ m.structIds :=
        mem_structIds.2 (Array.getElem?_eq_some_iff.1 hs).1
      exact { hlike with height := h.height hrefs hm hw hid } }

/-! ### marks -/

theorem hasNullable_iff {s : StructId} (hs : s ∈ m.structIds) :
    w.HasNullable (ρ.struct s) ↔ m.HasNullable s := by
  simp only [Model.HasNullable, h.fieldsOf hs, List.mem_map]
  constructor
  · rintro ⟨_, ⟨e, hmem, rfl⟩, hstruct, r', hr', source', hsource', hnull⟩
    obtain ⟨r, hr, rfl⟩ := Option.map_eq_some_iff.1 hr'
    obtain ⟨⟨source, hsource⟩, -⟩ := hrefs _ _ r (field?_of_mem_fieldsOf hmem) hr
    rw [Reference.rename, h.field? hsource, Option.some.injEq] at hsource'
    subst hsource'
    exact ⟨e, hmem, by simpa [entry] using hstruct, r, hr, source, hsource, hnull⟩
  · rintro ⟨e, hmem, hstruct, r, hr, source, hsource, hnull⟩
    refine ⟨entry ρ e, ⟨e, hmem, rfl⟩, by simpa [entry] using hstruct, r.rename ρ, ?_,
      source.rename ρ, h.field? hsource, hnull⟩
    simp [entry, hr]

theorem leadsToNullable_iff {s : StructId} (hs : s ∈ m.structIds) :
    w.LeadsToNullable (ρ.struct s) ↔ m.LeadsToNullable s := by
  constructor
  · rintro ⟨u, hsu, hu⟩
    obtain ⟨t, ht, rfl, hst⟩ := (h.reaches_iff hrefs hs).1 hsu
    exact ⟨t, hst, (h.hasNullable_iff hrefs ht).1 hu⟩
  · rintro ⟨t, hst, ht⟩
    have hmem := mem_structIds_of_leadsToNullable ⟨t, .refl, ht⟩
    exact ⟨ρ.struct t, (h.reaches_iff hrefs hs).2 ⟨t, hmem, rfl, hst⟩,
      (h.hasNullable_iff hrefs hmem).2 ht⟩

/-- Marks that are right in both models are the same. -/
theorem flags_eq {id : StructId} (hid : id ∈ m.structIds) {s s' : Struct} (hs : m.MarkedAt id s)
    (hs' : w.MarkedAt (ρ.struct id) s')
    (hsearches : s'.searches = s.searches.map (Search.rename ρ)) : s'.flags = s.flags := by
  have hnull : s'.flags.hasNullrefs = s.flags.hasNullrefs := by
    rw [Bool.eq_iff_iff, hs.nullrefs, hs'.nullrefs, h.leadsToNullable_iff hrefs hid]
  have hqueue : s'.flags.hasQueue = s.flags.hasQueue := by
    rw [hs.queue, hs'.queue, hsearches, List.any_map]
    rfl
  have hiterator : s'.flags.hasIterator = s.flags.hasIterator := by
    rw [hs.iterator, hs'.iterator, hsearches, List.any_map]
    rfl
  have hblob : s'.flags.hasBlob = s.flags.hasBlob := by
    rw [hs.blob, hs'.blob, h.fieldsOf hid, List.any_map, Bool.eq_iff_iff]
    simp [entry]
  cases hf : s.flags
  cases hf' : s'.flags
  simp_all

/-- If all marks come out right in both models, the smaller one stays within the greater. -/
theorem computeFlags {order order' : List StructId}
    (hm : ∀ id s, (computeFlags order m).struct? id = some s → (computeFlags order m).MarkedAt id s)
    (hw : ∀ id s, (ModelLinker.computeFlags order' w).struct? id = some s →
      (ModelLinker.computeFlags order' w).MarkedAt id s) :
    (ModelLinker.computeFlags order m).Within ρ (ModelLinker.computeFlags order' w) := by
  have hs : ModelLinker.Within (Struct.Within ρ) ρ.structs
      (ModelLinker.computeFlags order m).structs (ModelLinker.computeFlags order' w).structs := by
    intro i x hx
    have hlt := (Array.getElem?_eq_some_iff.1 hx).1
    rw [size_computeFlags] at hlt
    have hs : m.struct? ⟨i⟩ = some m.structs[i] := Array.getElem?_eq_getElem hlt
    obtain ⟨fs, hx'⟩ := struct?_computeFlags order hs
    obtain rfl : { m.structs[i] with flags := fs } = x := Option.some.inj (hx'.symm.trans hx)
    obtain ⟨s', hs', hlike⟩ := h.struct? hs
    obtain ⟨fs', hy⟩ := struct?_computeFlags order' hs'
    have hmark := (sameFields_computeFlags order m).symm.markedAt (hm ⟨i⟩ _ hx)
    have hmark' := (sameFields_computeFlags order' w).symm.markedAt (hw _ _ hy)
    have hflags : fs' = fs := h.flags_eq hrefs (mem_structIds.2 hlt) hmark hmark' hlike.searches
    exact ⟨_, hy, { hlike with flags := hflags }⟩
  have howned := h.owned.congr (computeFlags_asDeclared order m)
  rw [computeFlags_eq order m] at howned ⊢
  rw [computeFlags_eq order' w]
  exact { h with owned := howned, structs := hs }

end Embeddings

end Within

/-! ### recursion in the whole -/

/-- A structure of the whole embeds itself only if one of a part does. -/
theorem Merges.acyclic {ι : Type} {ρ : ι → Renumbering} {m : ι → Model} {w : Model}
    (h : Merges ρ m w) (hrefs : ∀ i, (m i).ReferencesExist)
    (hm : ∀ i s, ¬ TransGen (m i).Embeds s s) (s : StructId) : ¬ TransGen w.Embeds s s := by
  intro hcircle
  obtain ⟨u, hsu, hus⟩ := TransGen.head'_iff.1 hcircle
  obtain ⟨i, s, hs, rfl⟩ := h.mem_structIds (mem_structIds_of_embeds hsu)
  obtain ⟨t, rfl, hst⟩ := ((h.within i).embeds_iff (hrefs i) hs).1 hsu
  have ht := mem_structIds_of_embedded (h.within i).owned.ownersExist hst
  obtain ⟨v, -, hv, hts⟩ := ((h.within i).reaches_iff (hrefs i) ht).1 hus
  obtain rfl := Renumbering.struct_inj.1 hv
  exact hm i s (.head' hst hts)

end Model

end ModelLinker
