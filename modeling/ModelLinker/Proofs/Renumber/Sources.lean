import Mathlib.Data.List.Flatten
import Mathlib.Data.List.Forall2
import Mathlib.Data.List.Nodup
import Mathlib.Logic.Equiv.Fintype
import ModelLinker.Proofs.Renumber.Declarations

/-!
# Documents in another order

Documents can be entered in another order, and the structures, enumerations, bit fields and roles of
a document can stand in another order. Then the models are alike, and the same is wrong with the
documents (`SourceSet.exists_like`).
-/

namespace ModelLinker

/-- The items of a list in another order, each with an item that is related to it in its place. -/
def ReorderedBy {α : Type} (R : α → α → Prop) (xs ys : List α) : Prop :=
  ∃ mid, xs.Perm mid ∧ List.Forall₂ R mid ys

namespace ReorderedBy

variable {α β : Type} {R : α → α → Prop} {xs ys : List α}

theorem exists_right (h : ReorderedBy R xs ys) {x : α} (hx : x ∈ xs) : ∃ y ∈ ys, R x y := by
  obtain ⟨mid, hperm, hinside⟩ := h
  replace hx := hperm.subset hx
  clear hperm
  induction hinside with
  | nil => simp at hx
  | cons hxy _ ih =>
    rcases List.mem_cons.1 hx with rfl | hx
    · exact ⟨_, List.mem_cons_self, hxy⟩
    · obtain ⟨y, hy, hxy⟩ := ih hx
      exact ⟨y, List.mem_cons_of_mem _ hy, hxy⟩

theorem imp {R' : α → α → Prop} (h : ReorderedBy R xs ys) (hR : ∀ x y, R x y → R' x y) :
    ReorderedBy R' xs ys := by
  obtain ⟨mid, hperm, hinside⟩ := h
  exact ⟨mid, hperm, hinside.imp hR⟩

theorem symm (h : ReorderedBy R xs ys) : ReorderedBy (flip R) ys xs := by
  obtain ⟨mid, hperm, hinside⟩ := h
  obtain ⟨mid', hinside', hperm'⟩ := List.perm_comp_forall₂ hperm hinside
  exact ⟨mid', hperm'.symm, hinside'.flip⟩

theorem exists_left (h : ReorderedBy R xs ys) {y : α} (hy : y ∈ ys) : ∃ x ∈ xs, R x y :=
  h.symm.exists_right hy

theorem map_perm (h : ReorderedBy R xs ys) {f : α → β} (hf : ∀ x y, R x y → f x = f y) :
    (xs.map f).Perm (ys.map f) := by
  obtain ⟨mid, hperm, hinside⟩ := h
  have hsame : mid.map f = ys.map f := by
    rw [← List.forall₂_eq_eq_eq, List.forall₂_map_left_iff, List.forall₂_map_right_iff]
    exact hinside.imp hf
  exact hsame ▸ hperm.map f

/-- What is collected from the items is the same in some order, if related items give the same in
some order. -/
theorem flatMap_perm {f : α → List β} (h : ReorderedBy R xs ys)
    (hf : ∀ x y, R x y → (f x).Perm (f y)) : (xs.flatMap f).Perm (ys.flatMap f) := by
  obtain ⟨mid, hperm, hinside⟩ := h
  refine (hperm.flatMap_right f).trans ?_
  clear hperm
  induction hinside with
  | nil => exact .nil
  | cons hxy _ ih => exact (hf _ _ hxy).append ih

end ReorderedBy

/-- The same declarations, with those of one kind in another order. -/
structure Decl.Document.Reordered (d d' : Decl.Document) : Prop where
  structs : d.structs.Perm d'.structs
  enums : d.enums.Perm d'.enums
  bitfields : d.bitfields.Perm d'.bitfields
  roles : d.roles.Perm d'.roles

/-- The same documents in another order, each with its declarations in another order. -/
def Reordered (docs docs' : List (String × Decl.Document)) : Prop :=
  ∃ mid, docs.Perm mid ∧
    List.Forall₂ (fun x y => y.1 = x.1 ∧ Decl.Document.Reordered x.2 y.2) mid docs'

namespace Reordered

variable {docs docs' : List (String × Decl.Document)}

theorem symm (h : Reordered docs docs') : Reordered docs' docs := by
  refine ReorderedBy.imp (ReorderedBy.symm h) fun x y hxy => ⟨hxy.1.symm, ?_⟩
  exact ⟨hxy.2.structs.symm, hxy.2.enums.symm, hxy.2.bitfields.symm, hxy.2.roles.symm⟩

/-- What is collected from the documents is the same in some order, if each document gives the same
in some order. -/
theorem flatMap {α : Type} {f : String × Decl.Document → List α} (h : Reordered docs docs')
    (hf : ∀ file d d', Decl.Document.Reordered d d' → (f (file, d)).Perm (f (file, d'))) :
    (docs.flatMap f).Perm (docs'.flatMap f) := by
  refine ReorderedBy.flatMap_perm h ?_
  rintro ⟨file, d⟩ ⟨file', d'⟩ ⟨rfl, hd⟩
  exact hf _ d d' hd

theorem declared (h : Reordered docs docs') : (Draft.declared docs).Perm (Draft.declared docs') :=
  h.flatMap fun _ _ _ hd => hd.structs.map _

theorem roles (h : Reordered docs docs') :
    (docs.flatMap fun x => (Source.roles x.1 none x.2.roles).1).Perm
      (docs'.flatMap fun x => (Source.roles x.1 none x.2.roles).1) :=
  h.flatMap fun _ _ _ hd => by
    simp only [Source.roles_eq]
    exact hd.roles.flatMap_right _

theorem problems (h : Reordered docs docs') :
    (docs.flatMap fun x => Source.documentProblems x.1 x.2).Perm
      (docs'.flatMap fun x => Source.documentProblems x.1 x.2) :=
  h.flatMap fun _ _ _ hd => by
    simp only [Source.documentProblems, Source.roles_eq]
    exact (hd.roles.flatMap_right _).append (hd.structs.flatMap_right _)

end Reordered

/-! ### numbers of fields -/

/-- Lists of as many numbers, none of them repeated, are taken to one another by a permutation. -/
theorem exists_perm_map {l l' : List ℕ} (h : l.Nodup) (h' : l'.Nodup)
    (hlen : l.length = l'.length) : ∃ τ : Equiv.Perm ℕ, l.map τ = l' := by
  obtain ⟨τ, hτ⟩ := Equiv.Perm.exists_extending_pair l.get (l'.get ∘ Fin.cast hlen)
    (List.nodup_iff_injective_get.1 h)
    ((List.nodup_iff_injective_get.1 h').comp (Fin.cast_injective hlen))
  refine ⟨τ, List.ext_getElem (by simp [hlen]) fun i hi hi' => ?_⟩
  rw [List.length_map] at hi
  rw [List.getElem_map]
  exact hτ ⟨i, hi⟩

/-- Blocks of equal lengths that make up the same list are equal. -/
theorem map_eq_of_flatMap_eq {ι α : Type} {g : α → α} {f f' : ι → List α} {xs : List ι}
    (hlen : ∀ x ∈ xs, (f x).length = (f' x).length)
    (h : (xs.flatMap f).map g = xs.flatMap f') : ∀ x ∈ xs, (f x).map g = f' x := by
  induction xs with
  | nil => simp
  | cons y rest ih =>
    obtain ⟨hy, hrest⟩ := List.forall_mem_cons.1 hlen
    rw [List.flatMap_cons, List.flatMap_cons, List.map_append] at h
    obtain ⟨hfirst, hothers⟩ := List.append_inj h (by rw [List.length_map, hy])
    exact List.forall_mem_cons.2 ⟨hfirst, ih hrest hothers⟩

/-- The numbers of the fields of a structure. -/
def Model.fieldNumbers (m : Model) (sid : StructId) : List ℕ := (m.fieldsOf sid).map (·.1.index)

theorem Model.nodup_structIds (m : Model) : m.structIds.Nodup :=
  List.nodup_range.map fun _ _ => StructId.mk.inj

namespace Model.Owned

variable {m m' : Model}

/-- A structure lists the fields that it has. -/
theorem fieldsOf_fst (h : m.Owned) {sid : StructId} {s : Struct} (hs : m.struct? sid = some s) :
    (m.fieldsOf sid).map (·.1) = s.fields := by
  have hall : ∀ id ∈ s.fields,
      ((m.field? id).map fun f => (id, f)).map (·.1) = some id := by
    intro id hid
    obtain ⟨f, hf, -⟩ := h.own hs id hid
    simp [hf]
  simp only [fieldsOf, hs, List.map_filterMap]
  rw [List.filterMap_congr hall, List.filterMap_some]

theorem fieldNumbers_eq (h : m.Owned) {sid : StructId} {s : Struct} (hs : m.struct? sid = some s) :
    m.fieldNumbers sid = s.fields.map FieldId.index := by
  rw [← h.fieldsOf_fst hs, List.map_map]
  rfl

/-- The number of a field of a structure leads back to the structure. -/
theorem owner_of_fieldNumbers (h : m.Owned) {sid : StructId} {i : ℕ} (hi : i ∈ m.fieldNumbers sid) :
    ∃ f, m.field? ⟨i⟩ = some f ∧ f.parent = sid := by
  obtain ⟨⟨⟨j⟩, f⟩, hf, rfl⟩ := List.mem_map.1 hi
  obtain ⟨s, hs, hid, -⟩ := mem_fieldsOf.1 hf
  exact h.own hs ⟨j⟩ hid

/-- Different structures list different fields, and each field once. -/
theorem nodup_fieldNumbers (h : m.Owned) {ids : List StructId} (hids : ids.Nodup) :
    (ids.flatMap m.fieldNumbers).Nodup := by
  refine List.nodup_flatMap.2 ⟨fun sid _ => ?_, ?_⟩
  · cases hs : m.struct? sid with
    | none => simp [Model.fieldNumbers, fieldsOf, hs]
    | some s =>
      rw [h.fieldNumbers_eq hs]
      exact (h.nodup hs).map fun a b => (by cases a; cases b; exact congrArg FieldId.mk)
  · refine hids.imp fun {a b} hne i hi hi' => hne ?_
    obtain ⟨f, hf, rfl⟩ := h.owner_of_fieldNumbers hi
    obtain ⟨g, hg, rfl⟩ := h.owner_of_fieldNumbers hi'
    rw [hf] at hg
    exact congrArg Field.parent (Option.some.inj hg)

/-- All structures together list every field once. -/
theorem fieldNumbers_perm (h : m.Owned) :
    (m.structIds.flatMap m.fieldNumbers).Perm (List.range m.fields.size) := by
  have hnodup := h.nodup_fieldNumbers m.nodup_structIds
  rw [List.perm_ext_iff_of_nodup hnodup List.nodup_range]
  intro i
  rw [List.mem_flatMap, List.mem_range]
  constructor
  · rintro ⟨sid, -, hi⟩
    obtain ⟨f, hf, -⟩ := h.owner_of_fieldNumbers hi
    exact (Array.getElem?_eq_some_iff.1 hf).1
  · intro hi
    have hf : m.field? ⟨i⟩ = some m.fields[i] := Array.getElem?_eq_getElem hi
    obtain ⟨s, hs, hid⟩ := h.owner hf
    exact ⟨m.fields[i].parent, mem_structIds.2 (struct?_eq_some.1 hs).1,
      List.mem_map_of_mem (f := fun e => e.1.index) (mem_fieldsOf.2 ⟨s, hs, hid, hf⟩)⟩

/-- If the structures of a model list as many fields as those that get their numbers in another one,
there are new numbers for the fields. -/
theorem exists_fields (h : m.Owned) (h' : m'.Owned) {σ : Equiv.Perm ℕ}
    (hlen : ∀ id ∈ m.structIds,
      (m.fieldsOf id).length = (m'.fieldsOf ⟨σ id.index⟩).length) :
    ∃ τ : Equiv.Perm ℕ,
      ∀ id ∈ m.structIds, (m.fieldNumbers id).map τ = m'.fieldNumbers ⟨σ id.index⟩ := by
  have hblocks : ∀ id ∈ m.structIds,
      (m.fieldNumbers id).length = (m'.fieldNumbers ⟨σ id.index⟩).length := fun id hid => by
    simpa [Model.fieldNumbers] using hlen id hid
  have hnodup' : (m.structIds.flatMap fun id => m'.fieldNumbers ⟨σ id.index⟩).Nodup := by
    have hinj : Function.Injective fun id : StructId => (⟨σ id.index⟩ : StructId) :=
      fun ⟨_⟩ ⟨_⟩ heq => congrArg StructId.mk (σ.injective (StructId.mk.inj heq))
    rw [← List.flatMap_map (fun id : StructId => (⟨σ id.index⟩ : StructId))]
    exact h'.nodup_fieldNumbers (m.nodup_structIds.map hinj)
  obtain ⟨τ, hτ⟩ := exists_perm_map (h.nodup_fieldNumbers m.nodup_structIds) hnodup' (by
    rw [List.length_flatMap, List.length_flatMap, List.map_congr_left hblocks])
  exact ⟨τ, map_eq_of_flatMap_eq hblocks hτ⟩

/-- If there are no other structures in the second model, there are no other fields either. -/
theorem fields_lt (h : m.Owned) (h' : m'.Owned) {σ τ : Equiv.Perm ℕ}
    (hids : m'.structIds.Perm (m.structIds.map fun id => ⟨σ id.index⟩))
    (hτ : ∀ id ∈ m.structIds, (m.fieldNumbers id).map τ = m'.fieldNumbers ⟨σ id.index⟩) (i : ℕ) :
    τ i < m'.fields.size ↔ i < m.fields.size := by
  have hall : ((m.structIds.flatMap m.fieldNumbers).map τ).Perm (List.range m'.fields.size) := by
    refine List.Perm.trans ?_ h'.fieldNumbers_perm
    rw [List.map_flatMap, List.flatMap_congr hτ]
    simpa only [List.flatMap_map] using (hids.flatMap_right m'.fieldNumbers).symm
  rw [← List.mem_range, ← hall.mem_iff, List.mem_map_of_injective τ.injective,
    h.fieldNumbers_perm.mem_iff, List.mem_range]

end Model.Owned

/-! ### the models of the documents -/

namespace Permuted

variable {α : Type} {σ : Equiv.Perm ℕ}

/-- Lists that are permutations of one another, as arrays. -/
theorem exists_of_perm {xs ys : Array α} (h : xs.toList.Perm ys.toList) :
    ∃ σ, Permuted (fun x y => y = x) σ xs ys := by
  obtain ⟨σ, hσ⟩ := exists_perm_getElem? h
  simp only [Array.getElem?_toList] at hσ
  exact ⟨σ, .of_some (fun i x hx => ⟨x, (hσ i).trans hx, rfl⟩) fun i hi => (hσ i).trans hi⟩

/-- The items are the same. -/
theorem getElem?_eq {xs ys : Array α} (h : Permuted (fun x y => y = x) σ xs ys) (i : ℕ) :
    ys[σ i]? = xs[i]? := by
  cases hx : xs[i]? with
  | none => exact h.none hx
  | some x =>
    obtain ⟨y, hy, rfl⟩ := h.some hx
    exact hy

theorem getElem?_shiftPerm {l l' : List α} (h : ∀ i, l'[σ i]? = l[i]?) (a : α) (i : ℕ) :
    (a :: l')[shiftPerm σ i]? = (a :: l)[i]? := by
  cases i with
  | zero => rfl
  | succ n => exact h n

end Permuted

namespace Draft.Holds

section

variable {d d' : Draft} {docs docs' : List (String × Decl.Document)} {ρ : Renumbering}
  (h : d.Holds docs) (h' : d'.Holds docs')
  (hσ : ∀ {i x}, (declared docs)[i]? = some x → (declared docs')[ρ.structs i]? = some x)

include h h' hσ

/-- The fields of a structure, but for their numbers. -/
theorem fieldsOf_snd {id : StructId} (hid : id ∈ d.model.structIds) :
    (d'.model.fieldsOf (ρ.struct id)).map (·.2) =
      ((d.model.fieldsOf id).map (·.2)).map (Field.rename ρ) := by
  obtain ⟨x, hx, -⟩ := h.lists.struct? (Model.struct?_eq_some.2 ⟨Model.mem_structIds.1 hid, rfl⟩)
  have hfields := h'.lists.fields (hσ hx)
  rw [show (d.model.fieldsOf id).map (·.2) = _ from h.lists.fields hx, List.map_filterMap]
  refine hfields.trans (List.filterMap_congr fun f _ => ?_)
  exact Source.field_rename id f

theorem exists_fields :
    ∃ τ : Equiv.Perm ℕ, ∀ id ∈ d.model.structIds,
      (d.model.fieldNumbers id).map τ = d'.model.fieldNumbers (ρ.struct id) := by
  refine h.sound.owned.exists_fields h'.sound.owned fun id hid => ?_
  have hlength := congrArg List.length (h.fieldsOf_snd h' hσ hid)
  rw [List.length_map, List.length_map, List.length_map] at hlength
  exact hlength.symm

variable (hτ : ∀ id ∈ d.model.structIds,
  (d.model.fieldNumbers id).map ρ.fields = d'.model.fieldNumbers (ρ.struct id))

include hτ

theorem struct_like {i : ℕ} {s : Struct} (hs : d.model.structs[i]? = some s) :
    ∃ s', d'.model.structs[ρ.structs i]? = some s' ∧ s.Like ρ s' := by
  obtain ⟨x, hx, hbody⟩ := @Draft.Lists.struct? _ _ h.lists ⟨i⟩ s hs
  have hx' := hσ hx
  have hlt : ρ.structs i < d'.model.structs.size := by
    rw [h'.lists.size]
    exact (List.getElem?_eq_some_iff.1 hx').1
  have hs' : d'.model.struct? (ρ.struct ⟨i⟩) = some d'.model.structs[ρ.structs i] :=
    Array.getElem?_eq_getElem hlt
  obtain ⟨y, hy, hbody'⟩ := h'.lists.struct? hs'
  obtain rfl : x = y := Option.some.inj (hx'.symm.trans hy)
  refine ⟨_, hs', Source.structBody_like hbody hbody' ?_⟩
  have hid : (⟨i⟩ : StructId) ∈ d.model.structIds :=
    Model.mem_structIds.2 (Array.getElem?_eq_some_iff.1 hs).1
  have hblock := hτ ⟨i⟩ hid
  rw [h.sound.owned.fieldNumbers_eq hs, h'.sound.owned.fieldNumbers_eq hs'] at hblock
  have hinj : Function.Injective FieldId.index := fun ⟨_⟩ ⟨_⟩ heq => congrArg FieldId.mk heq
  apply List.map_injective_iff.2 hinj
  rw [← hblock, List.map_map, List.map_map]
  rfl

theorem field_like {i : ℕ} {f : Field} (hf : d.model.fields[i]? = some f) :
    d'.model.fields[ρ.fields i]? = some (f.rename ρ) := by
  obtain ⟨s, hs, hid⟩ := @Model.Owned.owner _ h.sound.owned ⟨i⟩ f hf
  have hparent := Model.mem_structIds.2 (Model.struct?_eq_some.1 hs).1
  have hfst : (d'.model.fieldsOf (ρ.struct f.parent)).map (·.1) =
      ((d.model.fieldsOf f.parent).map (Model.Like.entry ρ)).map (·.1) := by
    have hinj : Function.Injective FieldId.index := fun ⟨_⟩ ⟨_⟩ heq => congrArg FieldId.mk heq
    apply List.map_injective_iff.2 hinj
    have hblock := hτ _ hparent
    simp only [Model.fieldNumbers, List.map_map] at hblock ⊢
    exact hblock.symm
  have hsnd : (d'.model.fieldsOf (ρ.struct f.parent)).map (·.2) =
      ((d.model.fieldsOf f.parent).map (Model.Like.entry ρ)).map (·.2) := by
    rw [h.fieldsOf_snd h' hσ hparent, List.map_map, List.map_map]
    rfl
  have hfields := (List.zip_of_prod hfst hsnd).trans (List.zip_of_prod rfl rfl).symm
  have hmem : (⟨i⟩, f) ∈ d.model.fieldsOf f.parent := Model.mem_fieldsOf.2 ⟨s, hs, hid, hf⟩
  have hmem' := List.mem_map_of_mem (f := Model.Like.entry ρ) hmem
  rw [← hfields] at hmem'
  exact Model.field?_of_mem_fieldsOf hmem'

end

section

variable {d d' : Draft} {docs docs' : List (String × Decl.Document)} (h : d.Holds docs)

include h

/-- Structures get the new numbers of their declarations. -/
theorem structIds_perm (h' : d'.Holds docs') {σ : Equiv.Perm ℕ}
    (hσ : Permuted (fun x y => y = x) σ (declared docs).toArray (declared docs').toArray) :
    d'.model.structIds.Perm (d.model.structIds.map fun id => ⟨σ id.index⟩) := by
  have hperm := hσ.range_perm.map StructId.mk
  rw [List.size_toArray, List.size_toArray, ← h.lists.size, ← h'.lists.size] at hperm
  simpa [Model.structIds, Function.comp_def] using hperm

/-- The reserved roles come before all others and keep their numbers. -/
theorem exists_roles (h' : d'.Holds docs') (hperm : Reordered docs docs') :
    ∃ κ : Equiv.Perm ℕ, κ 0 = 0 ∧ κ 1 = 1 ∧ κ 2 = 2 ∧
      ∀ i, d'.model.roles[κ i]? = d.model.roles[i]? := by
  obtain ⟨κ, hκ⟩ := exists_perm_getElem? hperm.roles
  refine ⟨shiftPerm (shiftPerm (shiftPerm κ)), rfl, rfl, rfl, fun i => ?_⟩
  rw [← Array.getElem?_toList, ← Array.getElem?_toList, h.roles, h'.roles]
  exact Permuted.getElem?_shiftPerm
    (Permuted.getElem?_shiftPerm (Permuted.getElem?_shiftPerm hκ _) _) _ i

/-- Roles have nothing in them that depends on the order. -/
theorem role_like {ρ : Renumbering} {r : Role} (hr : r ∈ d.model.roles.toList) : r.Like ρ r := by
  rw [h.roles, List.mem_append] at hr
  rcases hr with hr | hr
  · have hall : some RoleId.all = (some RoleId.all).map ρ.role := by
      rw [Option.map_some, Renumbering.role_all]
    simp only [Model.empty, List.mem_cons, List.not_mem_nil, or_false] at hr
    rcases hr with rfl | rfl | rfl
    · exact ⟨rfl, rfl, rfl, rfl⟩
    · exact ⟨rfl, rfl, rfl, hall⟩
    · exact ⟨rfl, rfl, rfl, hall⟩
  · obtain ⟨x, -, hr⟩ := List.mem_flatMap.1 hr
    exact Source.roles_like none x.2.roles r hr

end

end Draft.Holds

namespace SourceSet

/-- Reordered documents have models that are alike, and the same is wrong with them. -/
theorem exists_like {docs docs' : List (String × Decl.Document)} (h : Reordered docs docs') :
    ∃ ρ, (ofDocuments docs).model.Like ρ (ofDocuments docs').model ∧
      (ofDocuments docs').diagnostics.Perm (ofDocuments docs).diagnostics := by
  have hd := holds_ofDocuments docs
  have hd' := holds_ofDocuments docs'
  obtain ⟨σ, hperm⟩ := @Permuted.exists_of_perm _ (Draft.declared docs).toArray
    (Draft.declared docs').toArray h.declared
  have hσ : ∀ i, (Draft.declared docs')[σ i]? = (Draft.declared docs)[i]? := fun i => by
    simpa using hperm.getElem?_eq i
  obtain ⟨ε, hε⟩ : ∃ ε, Permuted (fun e e' => e' = e) ε (ofDocuments docs).model.enums
      (ofDocuments docs').model.enums := by
    refine Permuted.exists_of_perm ?_
    rw [model, model, hd.enums, hd'.enums]
    exact h.flatMap fun _ _ _ hx => hx.enums.map _
  obtain ⟨β, hβ⟩ : ∃ β, Permuted (fun b b' => b' = b) β (ofDocuments docs).model.bitfields
      (ofDocuments docs').model.bitfields := by
    refine Permuted.exists_of_perm ?_
    rw [model, model, hd.bitfields, hd'.bitfields]
    exact h.flatMap fun _ _ _ hx => hx.bitfields.map _
  obtain ⟨κ, hall, hnone, hdefault, hκ⟩ := hd.exists_roles hd' h
  let base : Renumbering :=
    { structs := σ, fields := .refl ℕ, enums := ε, bitfields := β, roles := κ, all := hall
      none := hnone, default := hdefault }
  have hforward : ∀ {i x}, (Draft.declared docs)[i]? = some x →
      (Draft.declared docs')[base.structs i]? = some x := fun {i x} hx => (hσ i).trans hx
  -- new numbers for fields come last, because they depend on those of structures
  obtain ⟨τ, hτ⟩ := hd.exists_fields hd' hforward
  have hlt := hd.sound.owned.fields_lt hd'.sound.owned (hd.structIds_perm hd' hperm) hτ
  let ρ : Renumbering := { base with fields := τ }
  refine ⟨ρ, ?_, ?_⟩
  · exact
      { structs := .of_some
          (fun i s hs => hd.struct_like (ρ := ρ) hd' hforward hτ hs) fun i hi => by
            rw [Array.getElem?_eq_none_iff] at hi ⊢
            rw [model, hd.lists.size] at hi
            rw [model, hd'.lists.size, ← List.getElem?_eq_none_iff]
            exact (hσ i).trans (List.getElem?_eq_none_iff.2 hi)
        fields := .of_some
          (fun i f hf => ⟨_, hd.field_like (ρ := ρ) hd' hforward hτ hf, rfl⟩) fun i hi => by
            rw [Array.getElem?_eq_none_iff, ← Nat.not_lt] at hi ⊢
            exact mt (hlt i).1 hi
        enums := hε
        bitfields := hβ
        roles := .of_some
          (fun i r hr => ⟨r, (hκ i).trans hr, hd.role_like (Array.mem_toList_iff.2
            (Array.mem_of_getElem? hr))⟩)
          fun i hi => (hκ i).trans hi }
  · rw [diagnostics, diagnostics, hd.problems, hd'.problems]
    exact h.problems.symm

end SourceSet

end ModelLinker
