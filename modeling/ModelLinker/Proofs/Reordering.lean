import ModelLinker.Proofs.Linked
import ModelLinker.Proofs.Renumber.Run
import ModelLinker.Proofs.Renumber.Sources

/-!
# Declaration order does not matter

Whether documents link, what is found wrong with them, and what every structure comes to do not
depend on the order of the documents, nor on the order of the declarations of one kind in a document
(`linkSources_reordered`). Only numbers, the short names of joins and the generations of the
topology do.
-/

namespace ModelLinker

open Text (sameName sameName_comm sameName_refl)

namespace Model

/-- The name of a field, after that of its structure. -/
def qualifiedName? (m : Model) (id : FieldId) : Option (String × String) :=
  (m.field? id).bind fun f => (m.struct? f.parent).map fun s => (s.name, f.name)

/-- The names of the fields of a structure, each with the field that its reference leads to. -/
def targets (m : Model) (id : StructId) : List (String × Option (Option (String × String))) :=
  (m.fieldsOf id).map fun e => (e.2.name, e.2.reference.map fun r => m.qualifiedName? r.target)

/-- Structures of two models that are the same but for numbers and short names. -/
structure SameStruct (m m' : Model) (id id' : StructId) (s s' : Struct) : Prop where
  name : s'.name = s.name
  height : s'.height = s.height
  flags : s'.flags = s.flags
  rowid : s'.rowid.map m'.qualifiedName? = s.rowid.map m.qualifiedName?
  targets : m'.targets id' = m.targets id
  joins : s'.joins.map Join.path = s.joins.map Join.path
  referencedBy : (s'.referencedBy.map m'.qualifiedName?).Perm (s.referencedBy.map m.qualifiedName?)
  searches : s'.searches.map (fun x => (x.name, x.kind, x.unique)) =
    s.searches.map fun x => (x.name, x.kind, x.unique)

/-- Two models have structures of the same names, and those of the same name are the same. -/
structure Agrees (m m' : Model) : Prop where
  left : ∀ id s, m.struct? id = some s →
    ∃ id' s', m'.struct? id' = some s' ∧ sameName s.name s'.name = true
  right : ∀ id' s', m'.struct? id' = some s' →
    ∃ id s, m.struct? id = some s ∧ sameName s.name s'.name = true
  same : ∀ id id' s s', m.struct? id = some s → m'.struct? id' = some s' →
    sameName s.name s'.name = true → SameStruct m m' id id' s s'

namespace Like

variable {ρ : Renumbering} {m m' : Model}

theorem qualifiedName? (h : m.Like ρ m') (id : FieldId) :
    m'.qualifiedName? (ρ.field id) = m.qualifiedName? id := by
  simp only [Model.qualifiedName?, h.field?]
  cases m.field? id with
  | none => rfl
  | some f =>
    simp only [Option.map_some, Option.bind_some, Field.rename_parent, Field.rename_name]
    cases hs : m.struct? f.parent with
    | none => rw [h.struct?_none hs]
    | some s =>
      obtain ⟨s', hs', hlike⟩ := h.struct? hs
      rw [hs', Option.map_some, Option.map_some, hlike.name]

theorem targets (h : m.Like ρ m') (id : StructId) : m'.targets (ρ.struct id) = m.targets id := by
  simp only [Model.targets, h.fieldsOf, List.map_map]
  refine List.map_congr_left fun e _ => ?_
  simp only [Function.comp_apply, entry, Field.rename_name, Field.rename_reference,
    Option.map_map, Prod.mk.injEq, true_and]
  congr 1
  funext r
  exact h.qualifiedName? r.target

theorem sameStruct (h : m.Like ρ m') {id : StructId} {s s' : Struct} (hs : s.Like ρ s') :
    SameStruct m m' id (ρ.struct id) s s' where
  name := hs.name
  height := hs.height
  flags := hs.flags
  rowid := by
    rw [hs.rowid, Option.map_map, show m'.qualifiedName? ∘ ρ.field = _ from funext h.qualifiedName?]
  targets := h.targets id
  joins := hs.joins
  referencedBy := by
    have hperm := hs.referencedBy.map m'.qualifiedName?
    rwa [List.map_map, show m'.qualifiedName? ∘ ρ.field = _ from funext h.qualifiedName?] at hperm
  searches := by
    rw [hs.searches, List.map_map]
    rfl

/-- Models that are alike agree, if no two structures of the second one have the same name. -/
theorem agrees (h : m.Like ρ m')
    (hunique : ∀ {id id' s s'}, m'.struct? id = some s → m'.struct? id' = some s' →
      sameName s.name s'.name = true → id = id') : Agrees m m' where
  left id s hs := by
    obtain ⟨s', hs', hlike⟩ := h.struct? hs
    exact ⟨_, s', hs', by rw [hlike.name, sameName_refl]⟩
  right id' s' hs' := by
    obtain ⟨i, s, -, hs, hlike⟩ := h.structs.some' hs'
    exact ⟨⟨i⟩, s, hs, by rw [hlike.name, sameName_refl]⟩
  same id id' s s' hs hs' hn := by
    obtain ⟨x, hx, hlike⟩ := h.struct? hs
    rw [← hlike.name] at hn
    obtain rfl := hunique hx hs' hn
    obtain rfl : x = s' := Option.some.inj (hx.symm.trans hs')
    exact h.sameStruct hlike

end Like

end Model

/-- Documents that link do so in every other order as well, and come to the same. -/
theorem exists_linkSources_of_reordered {docs docs' : List (String × Decl.Document)}
    (h : Reordered docs docs') {l : Linked} (hl : linkSources (.ofDocuments docs) = .ok l) :
    ∃ l', linkSources (.ofDocuments docs') = .ok l' ∧ l'.diagnostics.Perm l.diagnostics ∧
      l.model.Agrees l'.model := by
  obtain ⟨ρ, hlike, hseed⟩ := SourceSet.exists_like h
  obtain ⟨l', hl', hlinked, hperm⟩ := hlike.linkWith hseed hl
  exact ⟨l', hl', hperm, hlinked.agrees (Model.namesDistinct_of_linkWith hl').struct_unique⟩

/-- Whether documents link, and what they come to, is the same for all orders of the documents and
of their declarations. -/
theorem linkSources_reordered {docs docs' : List (String × Decl.Document)}
    (h : Reordered docs docs') :
    ((∃ l, linkSources (.ofDocuments docs) = .ok l) ↔
      ∃ l', linkSources (.ofDocuments docs') = .ok l') ∧
    ∀ l l', linkSources (.ofDocuments docs) = .ok l → linkSources (.ofDocuments docs') = .ok l' →
      l'.diagnostics.Perm l.diagnostics ∧ l.model.Agrees l'.model := by
  refine ⟨⟨?_, ?_⟩, ?_⟩
  · rintro ⟨l, hl⟩
    obtain ⟨l', hl', -⟩ := exists_linkSources_of_reordered h hl
    exact ⟨l', hl'⟩
  · rintro ⟨l', hl'⟩
    obtain ⟨l, hl, -⟩ := exists_linkSources_of_reordered h.symm hl'
    exact ⟨l, hl⟩
  · intro l l' hl hl'
    obtain ⟨k, hk, hsame⟩ := exists_linkSources_of_reordered h hl
    obtain rfl : k = l' := Except.ok.inj (hk.symm.trans hl')
    exact hsame

/-- The firm first, and the staff after it. -/
theorem staffSet_reordered :
    ∃ l l', linkSources staffSet = .ok l ∧
      linkSources (.ofDocuments [("firm", firmDocument), ("staff", staffDocument)]) = .ok l' ∧
      l'.diagnostics.Perm l.diagnostics ∧ l.model.Agrees l'.model := by
  have h : Reordered [("staff", staffDocument), ("firm", firmDocument)]
      [("firm", firmDocument), ("staff", staffDocument)] :=
    ⟨_, .swap _ _ _, .cons ⟨rfl, .refl _, .refl _, .refl _, .refl _⟩
      (.cons ⟨rfl, .refl _, .refl _, .refl _, .refl _⟩ .nil)⟩
  obtain ⟨l, hl, -⟩ := staffSet_links
  obtain ⟨l', hl'⟩ := (linkSources_reordered h).1.1 ⟨l, hl⟩
  exact ⟨l, l', hl, hl', (linkSources_reordered h).2 l l' hl hl'⟩

end ModelLinker
