import ModelLinker.Proofs.Binding.Bound

/-!
# References of a linked model

A field of a linked model has a reference exactly if it has a foreign key, and then the reference is
that key: its target is another field that tells rows apart and has the same type
(`Model.ReferencesOk`). A structure-typed field shares the reference of the local field that it is
bound to, and through it embeds the owner of the target.
-/

namespace ModelLinker

/-- Two types that a key can have at its two ends: they are the same, and stand for the same
enumeration or bit field. -/
inductive FieldType.SameKey : FieldType → FieldType → Prop where
  | plain (t : PlainType) : SameKey (.plain t) (.plain t)
  | enum {a b : NameRef EnumId} {e : EnumId} :
      a.target = some e → b.target = some e → SameKey (.enum a) (.enum b)
  | bitfield {a b : NameRef BitfieldId} {e : BitfieldId} :
      a.target = some e → b.target = some e → SameKey (.bitfield a) (.bitfield b)

theorem FieldType.exists_of_isStruct {t : FieldType} (h : t.isStruct = true) :
    ∃ x, t = .struct x := by
  cases t <;> simp_all [isStruct]

namespace Model

/-- A valid foreign key: its reference leads from its field to the bound target, another field that
tells rows apart, with a type that fits. -/
structure KeyOk (m : Model) (id : FieldId) (f : Field) (k : ForeignKey) (r : Reference)
    (t : Field) : Prop where
  reference : f.reference = some r
  source : r.source = id
  target : k.targetField.target = some r.target
  actions : r.onUpdate = k.onUpdate ∧ r.onDelete = k.onDelete
  other : r.target ≠ id
  found : m.field? r.target = some t
  unique : t.flags.rowid = true ∨ t.flags.unique = true
  sameKey : f.type.SameKey t.type

/-- A structure-typed field, bound to the local field that it goes through: it has that field's
reference, and embeds the owner of the target of that field's foreign key. -/
structure SourceOk (m : Model) (id : FieldId) (f : Field) (x : NameRef FieldId) (gid : FieldId)
    (g : Field) (k : ForeignKey) (r : Reference) (t : Field) : Prop where
  bound : m.BoundIn f.parent x gid g
  plain : g.type.isStruct = false
  foreign : g.foreign = some k
  key : m.KeyOk gid g k r t
  shared : f.reference = g.reference
  embeds : ∀ s, (id, f) ∈ m.fieldsOf s → (id, t.parent) ∈ m.embeds s
  owner : m.Owned → k.targetStruct.target = some t.parent

/-- All references of a model come from its foreign keys. -/
structure ReferencesOk (m : Model) : Prop where
  plain : ∀ {id f}, m.field? id = some f → f.type.isStruct = false →
    (f.reference.isSome ↔ f.foreign.isSome) ∧
      ∀ k, f.foreign = some k → ∃ r t, m.KeyOk id f k r t
  struct : ∀ {id f x}, m.field? id = some f → f.type = .struct x →
    f.foreign = none ∧ ∃ gid g k r t, m.SourceOk id f x gid g k r t

/-- No field has a reference. -/
def Unlinked (m : Model) : Prop := ∀ id f, m.field? id = some f → f.reference = none

variable {m : Model} {id : FieldId} {f : Field}

/-- A field without foreign key that is not structure-typed keeps the reference it had. -/
theorem walkable_reference_none (hun : m.Unlinked) (hf : m.walkable.field? id = some f)
    (hs : f.type.isStruct = false) (hk : f.foreign = none) : f.reference = none := by
  rw [field?_walkable, field?_keyed, field?_typed, Option.map_map, Option.map_map,
    Option.map_eq_some_iff] at hf
  obtain ⟨f₀, hf₀, rfl⟩ := hf
  simp only [Function.comp_apply] at hs hk ⊢
  rw [resolveStruct_isStruct] at hs
  rw [resolveStruct_of_not_isStruct hs] at hk ⊢
  unfold Field.resolveForeign at hk ⊢
  split at hk
  · exact hun id f₀ hf₀
  · cases hk

/-- The types at the two ends of a key, once they are bound. -/
theorem sameKey_of_keyCompatible (hb : m.FullyBound) {t : Field} (hf : m.field? id = some f)
    (h : f.type.keyCompatible t.type = true) : f.type.SameKey t.type := by
  cases hft : f.type with
  | plain a =>
    cases htt : t.type <;> simp [hft, htt, FieldType.keyCompatible] at h
    subst h
    exact .plain a
  | enum a =>
    cases htt : t.type <;> simp [hft, htt, FieldType.keyCompatible] at h
    obtain ⟨e, _, ha, -, -⟩ := hb.enums hf hft
    exact .enum ha (h ▸ ha)
  | bitfield a =>
    cases htt : t.type <;> simp [hft, htt, FieldType.keyCompatible] at h
    obtain ⟨e, _, ha, -, -⟩ := hb.bitfields hf hft
    exact .bitfield ha (h ▸ ha)
  | struct a => simp [hft, FieldType.keyCompatible] at h

/-- The foreign keys of a linked model. -/
theorem keyOk_linked (h : m.ResolveOk) (hb : m.linked.FullyBound)
    (hf : m.linked.field? id = some f) {k : ForeignKey} (hk : f.foreign = some k) :
    ∃ r t, m.linked.KeyOk id f k r t := by
  obtain ⟨s, tid, t, hkey⟩ := walkable_foreign h (field?_linked id ▸ hf) hk
  have ht : m.linked.field? tid = some t := (field?_linked tid).trans hkey.target
  refine ⟨_, t, hkey.reference, rfl, hkey.targetField, ⟨rfl, rfl⟩, hkey.other, ht, ?_,
    sameKey_of_keyCompatible hb hf hkey.compatible⟩
  simpa [Field.isUniqueKey] using hkey.unique

/-- The target of a key lies in the structure that the key names. -/
theorem owner_of_key (hb : m.FullyBound) (hown : m.Owned) (hf : m.field? id = some f)
    {k : ForeignKey} (hk : f.foreign = some k) {r : Reference} {t : Field}
    (hkey : m.KeyOk id f k r t) : k.targetStruct.target = some t.parent := by
  obtain ⟨s, _, tid, g, hs, _, _, hbound⟩ := hb.keys hf hk
  have htid : tid = r.target := by
    have := hbound.target
    rw [hkey.target, Option.some.injEq] at this
    exact this.symm
  subst htid
  obtain ⟨st, hst, hmem, hg⟩ := mem_fieldsOf.1 hbound.listed
  obtain ⟨g', hg', hparent⟩ := hown.own hst _ hmem
  rw [hkey.found, Option.some.injEq] at hg'
  subst hg'
  rw [hs, hparent]

/-- The references of a linked model. -/
theorem linked_referencesOk (h : m.ResolveOk) (hroles : m.RolesOk) (hread : m.KeysReadable)
    (hun : m.Unlinked) : m.linked.ReferencesOk := by
  have hb := linked_fullyBound h hroles hread
  refine ⟨?_, ?_⟩
  · intro id f hf hs
    refine ⟨?_, fun k hk => keyOk_linked h hb hf hk⟩
    cases hk : f.foreign with
    | none => simp [walkable_reference_none hun (field?_linked id ▸ hf) hs hk]
    | some k =>
      obtain ⟨r, t, hkey⟩ := keyOk_linked h hb hf hk
      simp [hkey.reference]
  · intro id f x hf hx
    have hs : f.type.isStruct = true := by
      rw [hx]
      rfl
    have hw := field?_linked id ▸ hf
    refine ⟨walkable_foreign_none h hw hs, ?_⟩
    obtain ⟨gid, g, -, htarget, hg, hplain, hforeign, hshared, -⟩ := walkable_struct h hread hw hx
    obtain ⟨k, hk⟩ := Option.isSome_iff_exists.1 hforeign
    have hg : m.linked.field? gid = some g := (field?_linked gid).trans hg
    obtain ⟨r, t, hkey⟩ := keyOk_linked h hb hg hk
    obtain ⟨gid', g', hbound, -⟩ := hb.sources hf hx
    have hgid : gid' = gid := by
      have := hbound.target
      rw [htarget, Option.some.injEq] at this
      exact this.symm
    subst hgid
    have hgg : g' = g := by
      have := field?_of_mem_fieldsOf hbound.listed
      rw [hg, Option.some.injEq] at this
      exact this.symm
    subst hgg
    refine ⟨gid', g', k, r, t, hbound, hplain, hk, hkey, hshared, ?_, ?_⟩
    · intro s hmem
      refine List.mem_filterMap.2 ⟨(id, f), hmem, ?_⟩
      simp [embedded?, hs, hshared, hkey.reference, hkey.found]
    · intro hown
      exact owner_of_key hb hown hg hk hkey

end Model

end ModelLinker
