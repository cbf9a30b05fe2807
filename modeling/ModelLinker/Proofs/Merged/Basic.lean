import ModelLinker.Proofs.Renumber.Basic
import ModelLinker.Proofs.Source.Entered

/-!
# Models that lie within a greater one

`Model.Within` says that a model lies within another one: every part of it is there under a new
number, which a `Renumbering` tells. Numbers that are no parts of the smaller model say nothing, so a
lookup is known in the greater model only where it finds something in the smaller one.
`Model.Merges` says that a model is made up of several others in this way. These may overlap: all of
them have the reserved roles in common.

A structure of the smaller model may be referred to by more fields in the greater one, so which
fields these are is left out.
-/

namespace ModelLinker

/-! ### arrays that lie within another one -/

/-- Every item of the first array is related to the item of the second one that the permutation
takes it to. -/
def Within {α β : Type} (R : α → β → Prop) (σ : Equiv.Perm ℕ) (xs : Array α) (ys : Array β) :
    Prop :=
  ∀ ⦃i x⦄, xs[i]? = some x → ∃ y, ys[σ i]? = some y ∧ R x y

namespace Within

variable {α β γ δ : Type} {R : α → β → Prop} {S : γ → δ → Prop} {σ : Equiv.Perm ℕ} {xs : Array α}
  {ys : Array β}

/-- The same change, made in both arrays. -/
theorem mapIdx (h : Within R σ xs ys) {f : ℕ → α → γ} {g : ℕ → β → δ}
    (hfg : ∀ i x y, xs[i]? = some x → R x y → S (f i x) (g (σ i) y)) :
    Within S σ (xs.mapIdx f) (ys.mapIdx g) := by
  intro i z hz
  rw [Array.getElem?_mapIdx, Option.map_eq_some_iff] at hz
  obtain ⟨x, hx, rfl⟩ := hz
  obtain ⟨y, hy, hr⟩ := h hx
  exact ⟨g (σ i) y, by rw [Array.getElem?_mapIdx, hy]; rfl, hfg i x y hx hr⟩

theorem map (h : Within R σ xs ys) {f : α → γ} {g : β → δ}
    (hfg : ∀ x y, x ∈ xs → R x y → S (f x) (g y)) : Within S σ (xs.map f) (ys.map g) := by
  intro i z hz
  rw [Array.getElem?_map, Option.map_eq_some_iff] at hz
  obtain ⟨x, hx, rfl⟩ := hz
  obtain ⟨y, hy, hr⟩ := h hx
  exact ⟨g y, by rw [Array.getElem?_map, hy]; rfl, hfg x y (Array.mem_of_getElem? hx) hr⟩

end Within

/-! ### arrays that are made up of others -/

section Covers

variable {ι α β : Type} {σ : ι → Equiv.Perm ℕ} {xs : ι → Array α} {ys : Array β}
  {R : ι → α → β → Prop}

/-- Every number below the last one is a new number of some part. -/
def Covers (σ : ι → Equiv.Perm ℕ) (size : ι → ℕ) (n : ℕ) : Prop :=
  ∀ k < n, ∃ i, ∃ j < size i, σ i j = k

/-- Every item of an array that is made up of others comes from one of these. -/
theorem Covers.some (hc : Covers σ (fun i => (xs i).size) ys.size)
    (h : ∀ i, Within (R i) (σ i) (xs i) ys) {k : ℕ} {y : β} (hy : ys[k]? = some y) :
    ∃ i j x, σ i j = k ∧ (xs i)[j]? = .some x ∧ R i x y := by
  obtain ⟨i, j, hj, rfl⟩ := hc k (Array.getElem?_eq_some_iff.1 hy).1
  have hx := Array.getElem?_eq_getElem hj
  obtain ⟨y', hy', hr⟩ := h i hx
  obtain rfl : y = y' := Option.some.inj (hy.symm.trans hy')
  exact ⟨i, j, _, rfl, hx, hr⟩

/-- Nothing is wrong with the items of an array that is made up of others, if nothing is wrong with
those of the others. -/
theorem Covers.isOk_zipIdx (hc : Covers σ (fun i => (xs i).size) ys.size)
    (h : ∀ i, Within (R i) (σ i) (xs i) ys) {f : ι → α × ℕ → Diagnostics} {g : β × ℕ → Diagnostics}
    (hfg : ∀ i j x y, (xs i)[j]? = .some x → R i x y → Diagnostics.isOk (f i (x, j)) = true →
      Diagnostics.isOk (g (y, σ i j)) = true)
    (hok : ∀ i, Diagnostics.isOk ((xs i).toList.zipIdx.flatMap (f i)) = true) :
    Diagnostics.isOk (ys.toList.zipIdx.flatMap g) = true := by
  simp only [Diagnostics.isOk_flatMap] at hok ⊢
  rintro ⟨y, k⟩ hy
  rw [List.mem_zipIdx_iff_getElem?, Array.getElem?_toList] at hy
  obtain ⟨i, j, x, rfl, hx, hr⟩ := hc.some h hy
  have hmem : (x, j) ∈ (xs i).toList.zipIdx := by
    rwa [List.mem_zipIdx_iff_getElem?, Array.getElem?_toList]
  exact hfg i j x y hx hr (hok i (x, j) hmem)

theorem Covers.isOk_toList (hc : Covers σ (fun i => (xs i).size) ys.size)
    (h : ∀ i, Within (R i) (σ i) (xs i) ys) {f : ι → α → Diagnostics} {g : β → Diagnostics}
    (hfg : ∀ i x y, x ∈ xs i → R i x y → Diagnostics.isOk (f i x) = true →
      Diagnostics.isOk (g y) = true)
    (hok : ∀ i, Diagnostics.isOk ((xs i).toList.flatMap (f i)) = true) :
    Diagnostics.isOk (ys.toList.flatMap g) = true := by
  simp only [Diagnostics.isOk_flatMap] at hok ⊢
  intro y hy
  obtain ⟨k, hk⟩ := Array.mem_iff_getElem?.1 (Array.mem_toList_iff.1 hy)
  obtain ⟨i, j, x, -, hx, hr⟩ := hc.some h hk
  have hmem := Array.mem_of_getElem? hx
  exact hfg i x y hmem hr (hok i x (Array.mem_toList_iff.2 hmem))

end Covers

/-! ### models that lie within another one -/

section

variable (ρ : Renumbering)

/-- The second structure is the first one with new numbers, whatever fields refer to it. -/
def Struct.Within (s s' : Struct) : Prop :=
  s.Like ρ { s' with referencedBy := s.referencedBy.map ρ.field }

/-- Every part of the first model, whose fields lie with their owners, is in the second one under a
new number. -/
structure Model.Within (m w : Model) : Prop where
  owned : m.Owned
  structs : ModelLinker.Within (Struct.Within ρ) ρ.structs m.structs w.structs
  fields : ModelLinker.Within (fun f f' => f' = f.rename ρ) ρ.fields m.fields w.fields
  enums : ModelLinker.Within (fun e e' => e' = e) ρ.enums m.enums w.enums
  bitfields : ModelLinker.Within (fun b b' => b' = b) ρ.bitfields m.bitfields w.bitfields
  roles : ModelLinker.Within (Role.Like ρ) ρ.roles m.roles w.roles

end

/-- The last model is made up of the others. -/
structure Model.Merges {ι : Type} (ρ : ι → Renumbering) (m : ι → Model) (w : Model) : Prop where
  within : ∀ i, (m i).Within (ρ i) w
  structs : Covers (fun i => (ρ i).structs) (fun i => (m i).structs.size) w.structs.size
  fields : Covers (fun i => (ρ i).fields) (fun i => (m i).fields.size) w.fields.size
  enums : Covers (fun i => (ρ i).enums) (fun i => (m i).enums.size) w.enums.size
  bitfields : Covers (fun i => (ρ i).bitfields) (fun i => (m i).bitfields.size) w.bitfields.size
  roles : Covers (fun i => (ρ i).roles) (fun i => (m i).roles.size) w.roles.size

namespace Model.Within

variable {ρ : Renumbering} {m w : Model}

open Model.Like (entry)

theorem struct? (h : m.Within ρ w) {id : StructId} {s : Struct} (hs : m.struct? id = some s) :
    ∃ s', w.struct? (ρ.struct id) = some s' ∧ s.Within ρ s' :=
  h.structs hs

theorem field? (h : m.Within ρ w) {id : FieldId} {f : Field} (hf : m.field? id = some f) :
    w.field? (ρ.field id) = some (f.rename ρ) := by
  obtain ⟨f', hf', rfl⟩ := h.fields hf
  exact hf'

theorem role? (h : m.Within ρ w) {id : RoleId} {r : Role} (hr : m.role? id = some r) :
    ∃ r', w.role? (ρ.role id) = some r' ∧ r.Like ρ r' :=
  h.roles hr

theorem fieldsOf (h : m.Within ρ w) {id : StructId} (hid : id ∈ m.structIds) :
    w.fieldsOf (ρ.struct id) = (m.fieldsOf id).map (entry ρ) := by
  obtain ⟨s, hs⟩ : ∃ s, m.struct? id = some s :=
    ⟨_, Array.getElem?_eq_getElem (mem_structIds.1 hid)⟩
  obtain ⟨s', hs', hlike⟩ := h.struct? hs
  have hfields : s'.fields = s.fields.map ρ.field := hlike.fields
  simp only [Model.fieldsOf, hs, hs', hfields, List.filterMap_map, List.map_filterMap]
  refine List.filterMap_congr fun f hf => ?_
  obtain ⟨g, hg, -⟩ := h.owned.own hs f hf
  simp only [Function.comp_apply, hg, h.field? hg]
  rfl

theorem embedded? (h : m.Within ρ w) {f : Field} {t : StructId} (ht : m.embedded? f = some t) :
    w.embedded? (f.rename ρ) = some (ρ.struct t) := by
  unfold Model.embedded? at ht
  split at ht
  · rename_i hstruct
    obtain ⟨r, hr, ht⟩ := Option.bind_eq_some_iff.1 ht
    obtain ⟨g, hg, rfl⟩ := Option.map_eq_some_iff.1 ht
    simp [Model.embedded?, hstruct, hr, Reference.rename, h.field? hg]
  · cases ht

/-- There are no more structures in the smaller model. -/
theorem size_structs_le (h : m.Within ρ w) : m.structs.size ≤ w.structs.size := by
  have hsub : (List.range m.structs.size).map ρ.structs ⊆ List.range w.structs.size := by
    intro j hj
    obtain ⟨i, hi, rfl⟩ := List.mem_map.1 hj
    obtain ⟨y, hy, -⟩ := h.structs (Array.getElem?_eq_getElem (List.mem_range.1 hi))
    exact List.mem_range.2 (Array.getElem?_eq_some_iff.1 hy).1
  have hnodup := List.Nodup.map ρ.structs.injective (List.nodup_range (n := m.structs.size))
  simpa using (List.subperm_of_subset hnodup hsub).length_le

end Model.Within

namespace Model

/-- As many parts of each kind are in models that were declared alike. -/
theorem sizes_congr {m m' : Model} (h : m'.asDeclared = m.asDeclared) :
    m'.structs.size = m.structs.size ∧ m'.fields.size = m.fields.size ∧
      m'.enums.size = m.enums.size ∧ m'.bitfields.size = m.bitfields.size ∧
      m'.roles.size = m.roles.size := by
  have hview : ∀ m : Model, m.asDeclared.structs.size = m.structs.size ∧
      m.asDeclared.fields.size = m.fields.size ∧ m.asDeclared.enums.size = m.enums.size ∧
      m.asDeclared.bitfields.size = m.bitfields.size ∧ m.asDeclared.roles.size = m.roles.size := by
    intro m
    simp [asDeclared]
  obtain ⟨hs, hf, he, hb, hr⟩ := hview m
  have hm' := hview m'
  rw [h, hs, hf, he, hb, hr] at hm'
  obtain ⟨hs', hf', he', hb', hr'⟩ := hm'
  exact ⟨hs'.symm, hf'.symm, he'.symm, hb'.symm, hr'.symm⟩

namespace Merges

variable {ι : Type} {ρ : ι → Renumbering} {m m' : ι → Model} {w w' : Model}

/-- A stage of linking adds no parts, so a model stays made up of others as long as these lie within
it. -/
theorem congr (h : Merges ρ m w) (hm : ∀ i, (m' i).asDeclared = (m i).asDeclared)
    (hw : w'.asDeclared = w.asDeclared) (hwithin : ∀ i, (m' i).Within (ρ i) w') :
    Merges ρ m' w' := by
  have hsizes := fun i => sizes_congr (hm i)
  obtain ⟨hs, hf, he, hb, hr⟩ := sizes_congr hw
  refine ⟨hwithin, ?_, ?_, ?_, ?_, ?_⟩
  · simpa only [hs, (hsizes _).1] using h.structs
  · simpa only [hf, (hsizes _).2.1] using h.fields
  · simpa only [he, (hsizes _).2.2.1] using h.enums
  · simpa only [hb, (hsizes _).2.2.2.1] using h.bitfields
  · simpa only [hr, (hsizes _).2.2.2.2] using h.roles

/-- Every structure of the whole comes from a part. -/
theorem struct? (h : Merges ρ m w) {id : StructId} {s' : Struct} (hs : w.struct? id = some s') :
    ∃ i sid s, (ρ i).struct sid = id ∧ (m i).struct? sid = some s ∧ s.Within (ρ i) s' := by
  obtain ⟨i, j, s, hj, hs, hlike⟩ := h.structs.some (fun i => (h.within i).structs) hs
  exact ⟨i, ⟨j⟩, s, congrArg StructId.mk hj, hs, hlike⟩

theorem mem_structIds (h : Merges ρ m w) {id : StructId} (hid : id ∈ w.structIds) :
    ∃ i, ∃ sid ∈ (m i).structIds, (ρ i).struct sid = id := by
  obtain ⟨i, j, hj, heq⟩ := h.structs id.index (Model.mem_structIds.1 hid)
  exact ⟨i, ⟨j⟩, Model.mem_structIds.2 hj, congrArg StructId.mk heq⟩

theorem role? (h : Merges ρ m w) {id : RoleId} {r' : Role} (hr : w.role? id = some r') :
    ∃ i rid r, (ρ i).role rid = id ∧ (m i).role? rid = some r ∧ r.Like (ρ i) r' := by
  obtain ⟨i, j, r, hj, hr, hlike⟩ := h.roles.some (fun i => (h.within i).roles) hr
  exact ⟨i, ⟨j⟩, r, congrArg RoleId.mk hj, hr, hlike⟩

end Merges

end Model

end ModelLinker
