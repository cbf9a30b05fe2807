import ModelLinker.Proofs.Declared
import ModelLinker.Proofs.Outcome

/-!
# The fields of a model whose references resolve

The stages of `resolve` that concern fields, and what an error-free run of each says about one
field: its type is bound (`typed_enum`, `typed_bitfield`), its foreign key is a reference to a
compatible key (`keyed_foreign`), and a structure-typed field shares the reference of its source
(`walkable_struct`).
-/

namespace ModelLinker

open Text (sameName)

namespace Model

variable (m : Model)

/-- The model once enumerations are numbered, rowids found and types bound. -/
def typed : Model :=
  resolveValueTypes (Namespace.ofModel m) (resolveRowids (numberEnums m))

/-- The model once its foreign keys are resolved as well. -/
def keyed : Model := resolveForeignKeys (Namespace.ofModel m) m.typed

/-- The model once its structure-typed fields are bound as well, so that paths can be walked. -/
def walkable : Model := resolveStructFields (Namespace.ofModel m) m.keyed

/-- No stage of resolving finds an error. -/
structure ResolveOk : Prop where
  rowids : Diagnostics.isOk (allRowidProblems (numberEnums m)) = true
  types : Diagnostics.isOk
    (valueTypeProblems (Namespace.ofModel m) (resolveRowids (numberEnums m))) = true
  keys : Diagnostics.isOk (foreignKeyProblems (Namespace.ofModel m) m.typed) = true
  sources : Diagnostics.isOk (structFieldProblems (Namespace.ofModel m) m.keyed) = true
  queries : Diagnostics.isOk (queryProblems (Namespace.ofModel m) m.walkable) = true

theorem resolved_eq : m.resolved = resolveQueries (Namespace.ofModel m) m.walkable := rfl

variable {m}

theorem resolveOk_of_isOk (h : Diagnostics.isOk (resolve (Namespace.ofModel m) m).2 = true) :
    m.ResolveOk := by
  simp only [resolve, Diagnostics.isOk_append, Bool.and_eq_true] at h
  obtain ⟨⟨⟨⟨⟨⟨⟨_, _⟩, hr⟩, ht⟩, hk⟩, hs⟩, _⟩, hq⟩ := h
  exact ⟨hr, ht, hk, hs, hq⟩

/-! ### names stay what they are -/

theorem asDeclared_typed : m.typed.asDeclared = m.asDeclared := by
  simp only [typed, resolveValueTypes_asDeclared, resolveRowids_asDeclared,
    numberEnums_asDeclared]

theorem asDeclared_keyed : m.keyed.asDeclared = m.asDeclared := by
  rw [keyed, resolveForeignKeys_asDeclared, asDeclared_typed]

theorem asDeclared_walkable : m.walkable.asDeclared = m.asDeclared := by
  rw [walkable, resolveStructFields_asDeclared, asDeclared_keyed]

/-! ### one field through the stages -/

theorem field?_typed (id : FieldId) :
    m.typed.field? id =
      (m.field? id).map fun f => { f with type := f.type.resolveValue (.ofModel m) } := by
  simp [typed, resolveValueTypes, resolveRowids, numberEnums, field?]

theorem field?_keyed (id : FieldId) :
    m.keyed.field? id =
      (m.typed.field? id).map fun f => f.resolveForeign (.ofModel m) m.typed id := by
  simp [keyed, resolveForeignKeys, field?]

theorem field?_walkable (id : FieldId) :
    m.walkable.field? id
      = (m.keyed.field? id).map fun f => f.resolveStruct (.ofModel m) m.keyed := by
  simp [walkable, resolveStructFields, field?]

end Model

section Stages

variable {names : Namespace} {m : Model} {id : FieldId} {f : Field}

theorem resolveForeign_type : (f.resolveForeign names m id).type = f.type := by
  unfold Field.resolveForeign
  split <;> rfl

theorem resolveStruct_type :
    (f.resolveStruct names m).type = f.type ∨
      ∃ r id, f.type = .struct r ∧ (f.resolveStruct names m).type = .struct (r.bind id) := by
  unfold Field.resolveStruct
  split
  · rename_i r hr
    split
    · exact .inr ⟨r, _, hr, rfl⟩
    · exact .inl rfl
  · exact .inl rfl

theorem resolveStruct_foreign : (f.resolveStruct names m).foreign = f.foreign := by
  unfold Field.resolveStruct
  split
  · split <;> rfl
  · rfl

theorem resolveStruct_of_not_isStruct (h : f.type.isStruct = false) :
    f.resolveStruct names m = f := by
  unfold Field.resolveStruct
  split
  · rename_i hr
    simp [FieldType.isStruct, hr] at h
  · rfl

theorem resolveStruct_isStruct : (f.resolveStruct names m).type.isStruct = f.type.isStruct := by
  rcases @resolveStruct_type names m f with h | ⟨r, g, hf, h⟩
  · rw [h]
  · rw [h, hf]
    rfl

end Stages

/-! ### named types -/

namespace Model

variable {m : Model} {id : FieldId} {f : Field}

theorem ResolveOk.valueProblems (h : m.ResolveOk) (hf : m.field? id = some f) :
    Diagnostics.isOk (f.type.valueProblems (.ofModel m)) = true := by
  have ht := h.types
  simp only [valueTypeProblems, resolveRowids, numberEnums, Diagnostics.isOk_flatMap,
    Array.mem_toList_iff] at ht
  exact ht f (Array.mem_of_getElem? hf)

theorem typed_enum (h : m.ResolveOk) (hf : m.typed.field? id = some f) {r : NameRef EnumId}
    (hr : f.type = .enum r) :
    ∃ e, r.target = some e ∧ (Namespace.ofModel m).enum? r.name = some e := by
  rw [field?_typed, Option.map_eq_some_iff] at hf
  obtain ⟨g, hg, rfl⟩ := hf
  have hv := h.valueProblems hg
  cases ht : g.type <;> simp only [ht, FieldType.resolveValue, reduceCtorEq,
    FieldType.enum.injEq] at hr
  subst hr
  rename_i r₀
  cases he : (Namespace.ofModel m).enum? r₀.name with
  | none => simp [FieldType.valueProblems, ht, he] at hv
  | some e => exact ⟨e, rfl, he⟩

theorem typed_bitfield (h : m.ResolveOk) (hf : m.typed.field? id = some f)
    {r : NameRef BitfieldId} (hr : f.type = .bitfield r) :
    ∃ b, r.target = some b ∧ (Namespace.ofModel m).bitfield? r.name = some b := by
  rw [field?_typed, Option.map_eq_some_iff] at hf
  obtain ⟨g, hg, rfl⟩ := hf
  have hv := h.valueProblems hg
  cases ht : g.type <;> simp only [ht, FieldType.resolveValue, reduceCtorEq,
    FieldType.bitfield.injEq] at hr
  subst hr
  rename_i r₀
  cases hb : (Namespace.ofModel m).bitfield? r₀.name with
  | none => simp [FieldType.valueProblems, ht, hb] at hv
  | some b => exact ⟨b, rfl, hb⟩

end Model

/-! ### foreign keys -/

theorem keyTarget_ok {names : Namespace} {m : Model} {k : ForeignKey}
    {t : (StructId × Struct) × (FieldId × Field)} (h : keyTarget names m k = .ok t) :
    names.struct? k.targetStruct.name = some t.1.1 ∧ m.struct? t.1.1 = some t.1.2 ∧
      names.field? t.1.1 k.targetField.name = some t.2.1 ∧ m.field? t.2.1 = some t.2.2 := by
  unfold keyTarget at h
  split at h
  · cases h
  · rename_i sid s hs
    split at h
    · cases h
    · rename_i target hf
      cases h
      obtain ⟨_, hn, hs⟩ := Option.bind_eq_some_iff.1 hs
      obtain ⟨_, hm, heq⟩ := Option.map_eq_some_iff.1 hs
      obtain ⟨rfl, rfl⟩ := Prod.mk.inj heq
      obtain ⟨_, hn', hf⟩ := Option.bind_eq_some_iff.1 hf
      obtain ⟨_, hm', rfl⟩ := Option.map_eq_some_iff.1 hf
      exact ⟨hn, hm, hn', hm'⟩

theorem keyProblem?_eq_none {id : FieldId} {f : Field} {s : Struct} {t : FieldId × Field}
    (h : keyProblem? id f s t = none) :
    t.1 ≠ id ∧ t.2.isUniqueKey = true ∧ f.type.keyCompatible t.2.type = true := by
  unfold keyProblem? at h
  grind

/-- A foreign key without a problem is bound to a field that tells rows apart and has a compatible
type, and is the reference of its field. -/
structure KeyBound (names : Namespace) (m : Model) (id : FieldId) (f : Field) (k : ForeignKey)
    (s : StructId) (tid : FieldId) (t : Field) : Prop where
  struct : names.struct? k.targetStruct.name = some s
  field : names.field? s k.targetField.name = some tid
  target : m.field? tid = some t
  targetStruct : k.targetStruct.target = some s
  targetField : k.targetField.target = some tid
  other : tid ≠ id
  unique : t.isUniqueKey = true
  compatible : f.type.keyCompatible t.type = true
  reference : f.reference = some ⟨id, tid, k.onUpdate, k.onDelete⟩

theorem keyBound_of_isOk {names : Namespace} {m : Model} {id : FieldId} {f : Field}
    (hok : Diagnostics.isOk (f.foreignProblems names m id) = true) {k : ForeignKey}
    (hk : (f.resolveForeign names m id).foreign = some k) :
    ∃ s tid t, KeyBound names m id (f.resolveForeign names m id) k s tid t := by
  cases hf : f.foreign with
  | none => simp [Field.resolveForeign, hf] at hk
  | some k₀ =>
    cases ht : keyTarget names m k₀ with
    | error p => simp [Field.foreignProblems, hf, resolveKey, ht] at hok
    | ok t =>
      obtain ⟨⟨sid, s⟩, tid, target⟩ := t
      obtain ⟨hs, -, hfd, htarget⟩ := keyTarget_ok ht
      cases hp : keyProblem? id f s (tid, target) with
      | some p => simp [Field.foreignProblems, hf, resolveKey, ht, hp] at hok
      | none =>
        obtain ⟨hne, hu, hc⟩ := keyProblem?_eq_none hp
        simp only [Field.resolveForeign, hf, resolveKey, ht, hp, Option.some.injEq] at hk
        subst hk
        refine ⟨sid, tid, target, ?_⟩
        simp only [Field.resolveForeign, hf, resolveKey, ht, hp]
        exact ⟨hs, hfd, htarget, rfl, rfl, hne, hu, hc, rfl⟩

/-- A structure cannot be a key. -/
theorem KeyBound.not_isStruct {names : Namespace} {m : Model} {id tid : FieldId} {f t : Field}
    {k : ForeignKey} {s : StructId} (h : KeyBound names m id f k s tid t) :
    f.type.isStruct = false ∧ t.type.isStruct = false := by
  have hc := h.compatible
  cases hf : f.type <;> cases ht : t.type <;>
    simp_all [FieldType.keyCompatible, FieldType.isStruct]

namespace Model

variable {m : Model} {id : FieldId} {f : Field}

theorem ResolveOk.foreignProblems (h : m.ResolveOk) (hf : m.typed.field? id = some f) :
    Diagnostics.isOk (f.foreignProblems (.ofModel m) m.typed id) = true := by
  have hk := h.keys
  rw [foreignKeyProblems, Diagnostics.isOk_flatMap] at hk
  exact hk (f, id.index) (List.mem_zipIdx_iff_getElem?.2 (by simpa [field?] using hf))

theorem keyed_foreign (h : m.ResolveOk) (hf : m.keyed.field? id = some f) {k : ForeignKey}
    (hk : f.foreign = some k) :
    ∃ s tid t, KeyBound (.ofModel m) m.typed id f k s tid t := by
  rw [field?_keyed, Option.map_eq_some_iff] at hf
  obtain ⟨g, hg, rfl⟩ := hf
  exact keyBound_of_isOk (h.foreignProblems hg) hk

/-! ### structure-typed fields -/

end Model

theorem structSource_ok {names : Namespace} {m : Model} {f : Field} {r : NameRef FieldId}
    {id : FieldId} {reference : Reference}
    (h : structSource names m f r = .ok (some (id, reference))) :
    ∃ g, names.field? f.parent r.name = some id ∧ m.field? id = some g ∧
      g.type.isStruct = false ∧ g.foreign.isSome = true ∧ g.reference = some reference := by
  unfold structSource at h
  split at h
  · cases h
  · rename_i hg
    obtain ⟨_, hn, hpair⟩ := Option.bind_eq_some_iff.1 hg
    obtain ⟨g, hm, heq⟩ := Option.map_eq_some_iff.1 hpair
    obtain ⟨rfl, rfl⟩ := Prod.mk.inj heq
    split at h
    · cases h
    · rename_i hstruct
      split at h
      · split at h <;> cases h
      · cases h
      · rename_i k ref hk hr
        simp only [Except.ok.injEq, Option.some.injEq, Prod.mk.injEq] at h
        obtain ⟨rfl, rfl⟩ := h
        exact ⟨g, hn, hm, by simpa using hstruct, by simp [hk], hr⟩

/-- The resolver passes over a structure-typed field in silence only if the foreign key of its
source was refused. -/
theorem structSource_silent {names : Namespace} {m : Model} {f : Field} {r : NameRef FieldId}
    (h : structSource names m f r = .ok none) :
    ∃ id g, m.field? id = some g ∧
      (g.malformedForeign = true ∨ g.foreign.isSome = true ∧ g.reference = none) := by
  unfold structSource at h
  split at h
  · cases h
  · rename_i hg
    obtain ⟨_, -, hpair⟩ := Option.bind_eq_some_iff.1 hg
    obtain ⟨g, hm, heq⟩ := Option.map_eq_some_iff.1 hpair
    obtain ⟨rfl, rfl⟩ := Prod.mk.inj heq
    refine ⟨_, g, hm, ?_⟩
    split at h
    · cases h
    · split at h
      · split at h
        · exact .inl ‹_›
        · cases h
      · rename_i k hk hr
        exact .inr ⟨by simp [hk], hr⟩
      · cases h

namespace Model

variable {m : Model} {id : FieldId} {f : Field}

/-- No foreign key of the model was refused when its documents were read. -/
def KeysReadable (m : Model) : Prop := ∀ id f, m.field? id = some f → f.malformedForeign = false

theorem KeysReadable.keyed (h : m.KeysReadable) : m.keyed.KeysReadable := by
  intro id f hf
  rw [field?_keyed, field?_typed, Option.map_map, Option.map_eq_some_iff] at hf
  obtain ⟨g, hg, rfl⟩ := hf
  have := h id g hg
  simp only [Function.comp_apply, Field.resolveForeign]
  split <;> exact this

theorem ResolveOk.structProblems (h : m.ResolveOk) (hf : m.keyed.field? id = some f) :
    Diagnostics.isOk (f.structProblems (.ofModel m) m.keyed) = true := by
  have hs := h.sources
  simp only [structFieldProblems, Diagnostics.isOk_flatMap, Array.mem_toList_iff] at hs
  exact hs f (Array.mem_of_getElem? hf)

/-- A structure-typed field is bound to a field of its structure with a foreign key, and shares
its reference. -/
theorem walkable_struct (h : m.ResolveOk) (hread : m.KeysReadable)
    (hf : m.walkable.field? id = some f) {r : NameRef FieldId} (hr : f.type = .struct r) :
    ∃ gid g, (Namespace.ofModel m).field? f.parent r.name = some gid ∧ r.target = some gid ∧
      m.walkable.field? gid = some g ∧ g.type.isStruct = false ∧ g.foreign.isSome = true ∧
      f.reference = g.reference ∧ g.reference.isSome = true := by
  rw [field?_walkable, Option.map_eq_some_iff] at hf
  obtain ⟨f₀, hf₀, rfl⟩ := hf
  have hok := h.structProblems hf₀
  cases ht : f₀.type with
  | struct r₀ =>
    cases hsrc : structSource (.ofModel m) m.keyed f₀ r₀ with
    | error p => simp [Field.structProblems, ht, hsrc] at hok
    | ok found =>
      cases found with
      | none =>
        obtain ⟨gid, g, hg, hbad | ⟨hsome, hnone⟩⟩ := structSource_silent hsrc
        · rw [hread.keyed gid g hg] at hbad
          cases hbad
        · obtain ⟨k, hk⟩ := Option.isSome_iff_exists.1 hsome
          obtain ⟨_, _, _, hb⟩ := keyed_foreign h hg hk
          rw [hb.reference] at hnone
          cases hnone
      | some found =>
        obtain ⟨gid, reference⟩ := found
        obtain ⟨g, hn, hg, hstruct, hkey, hrf⟩ := structSource_ok hsrc
        simp only [Field.resolveStruct, ht, hsrc, FieldType.struct.injEq] at hr ⊢
        subst hr
        refine ⟨gid, g, hn, rfl, ?_, hstruct, hkey, hrf.symm, by simp [hrf]⟩
        rw [field?_walkable, hg, Option.map_some, resolveStruct_of_not_isStruct hstruct]
  | _ => simp [Field.resolveStruct, ht] at hr

/-- A structure-typed field has no foreign key. -/
theorem walkable_foreign_none (h : m.ResolveOk) (hf : m.walkable.field? id = some f)
    (hs : f.type.isStruct = true) : f.foreign = none := by
  rw [field?_walkable, Option.map_eq_some_iff] at hf
  obtain ⟨f₀, hf₀, rfl⟩ := hf
  rw [resolveStruct_isStruct] at hs
  rw [resolveStruct_foreign]
  cases hk : f₀.foreign with
  | none => rfl
  | some k =>
    obtain ⟨_, _, _, hb⟩ := keyed_foreign h hf₀ hk
    rw [hb.not_isStruct.1] at hs
    cases hs

/-- The foreign key of a field after all stages. -/
theorem walkable_foreign (h : m.ResolveOk) (hf : m.walkable.field? id = some f) {k : ForeignKey}
    (hk : f.foreign = some k) :
    ∃ s tid t, KeyBound (.ofModel m) m.walkable id f k s tid t := by
  have hplain : f.type.isStruct = false := by
    cases hs : f.type.isStruct with
    | false => rfl
    | true =>
      rw [walkable_foreign_none h hf hs] at hk
      cases hk
  rw [field?_walkable, Option.map_eq_some_iff] at hf
  obtain ⟨f₀, hf₀, rfl⟩ := hf
  rw [resolveStruct_isStruct] at hplain
  rw [resolveStruct_of_not_isStruct hplain] at hk ⊢
  obtain ⟨s, tid, t, hb⟩ := keyed_foreign h hf₀ hk
  refine ⟨s, tid, ?_⟩
  -- the target keeps its type and its marks
  have ht : ∃ t', m.walkable.field? tid = some t' ∧ t'.type = t.type ∧ t'.flags = t.flags := by
    have hts := hb.not_isStruct.2
    rw [field?_walkable, field?_keyed, hb.target, Option.map_some, Option.map_some,
      resolveStruct_of_not_isStruct (by rw [resolveForeign_type]; exact hts)]
    refine ⟨_, rfl, resolveForeign_type, ?_⟩
    unfold Field.resolveForeign
    split <;> rfl
  obtain ⟨t', hm, htype, hflags⟩ := ht
  exact ⟨t', { hb with
    target := hm
    unique := by simpa [Field.isUniqueKey, hflags] using hb.unique
    compatible := by rw [htype]; exact hb.compatible }⟩

end Model

end ModelLinker
