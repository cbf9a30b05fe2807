import ModelLinker.Proofs.Renumber.Names

/-!
# Resolving the fields of models that are alike

Each stage of resolving that concerns fields and simple values turns models that are alike into
models that are alike, and finds the same wrong with both. Names have to stand for the same parts
(`Namespace.Like`); nothing else of the order matters, apart from the order of the fields that refer
to one structure.
-/

namespace ModelLinker

namespace Model.Like

variable {ρ : Renumbering} {m m' : Model} {names names' : Namespace}

/-! ### enumerations and bit fields -/

theorem numberEnums (h : m.Like ρ m') : (numberEnums m).Like ρ (numberEnums m') :=
  { h with
    enums := h.enums.map fun _ _ _ _ hr => by rw [hr] }

theorem enumProblems (h : m.Like ρ m') :
    (enumProblems m').Perm (ModelLinker.enumProblems m) :=
  h.enums.flatMap_toList fun _ _ _ _ hr => by rw [hr]

theorem bitfieldProblems (h : m.Like ρ m') :
    (bitfieldProblems m').Perm (ModelLinker.bitfieldProblems m) :=
  h.bitfields.flatMap_toList fun _ _ _ _ hr => by rw [hr]

/-! ### rowids -/

theorem rowidsOf (h : m.Like ρ m') (id : StructId) :
    m'.rowidsOf (ρ.struct id) = (m.rowidsOf id).map (entry ρ) := by
  simp only [Model.rowidsOf, h.fieldsOf, List.filter_map]
  rfl

theorem resolveRowids (h : m.Like ρ m') : (resolveRowids m).Like ρ (resolveRowids m') where
  structs := h.structs.mapIdx fun i s s' _ _ hs =>
    { hs with
      rowid := by
        have hrows : m'.rowidsOf ⟨ρ.structs i⟩ = (m.rowidsOf ⟨i⟩).map (entry ρ) := h.rowidsOf ⟨i⟩
        simp only [hrows, List.head?_map, Option.map_map]
        rfl }
  fields := h.fields
  enums := h.enums
  bitfields := h.bitfields
  roles := h.roles

theorem allRowidProblems (h : m.Like ρ m') :
    (allRowidProblems m').Perm (ModelLinker.allRowidProblems m) := by
  refine (h.structIds_perm.flatMap_right _).trans ?_
  rw [List.flatMap_map]
  refine List.Perm.of_eq (congrArg (m.structIds.flatMap ·) (funext fun id => ?_))
  rw [h.rowidsOf]
  refine withEarlier_map (entry ρ) rowidProblems rowidProblems (fun earlier e => ?_) [] _
  simp [rowidProblems, entry]
  rfl

/-! ### named types -/

theorem resolveValue_rename (hn : names.Like ρ names') (t : FieldType) :
    (t.rename ρ).resolveValue names' = (t.resolveValue names).rename ρ := by
  cases t with
  | plain t => rfl
  | enum r =>
    simp only [FieldType.rename, FieldType.resolveValue, NameRef.rename_name, hn.enum?]
    cases names.enum? r.name <;> rfl
  | bitfield r =>
    simp only [FieldType.rename, FieldType.resolveValue, NameRef.rename_name, hn.bitfield?]
    cases names.bitfield? r.name <;> rfl
  | struct r => rfl

theorem resolveValueTypes (h : m.Like ρ m') (hn : names.Like ρ names') :
    (resolveValueTypes names m).Like ρ (resolveValueTypes names' m') :=
  { h with
    fields := h.fields.map fun f f' _ _ hf => by
      subst hf
      simp only [Field.rename_type, resolveValue_rename hn]
      rfl }

theorem valueTypeProblems (h : m.Like ρ m') (hn : names.Like ρ names') :
    (valueTypeProblems names' m').Perm (ModelLinker.valueTypeProblems names m) := by
  refine h.fields.flatMap_toList fun f f' _ _ hf => List.Perm.of_eq ?_
  subst hf
  rw [Field.rename_type]
  cases f.type <;>
    simp [FieldType.rename, FieldType.valueProblems, hn.enum?, hn.bitfield?]

theorem validationProblems (h : m.Like ρ m') :
    (validationProblems m').Perm (ModelLinker.validationProblems m) := by
  refine h.fields.flatMap_toList fun f f' _ _ hf => List.Perm.of_eq ?_
  subst hf
  unfold Field.validationProblems
  rw [Field.rename_type]
  cases hf : f.type <;> rfl

/-! ### foreign keys -/

/-- What a foreign key comes to, with new numbers. -/
def outcome (ρ : Renumbering) :
    Except ResolveProblem (StructId × Reference) → Except ResolveProblem (StructId × Reference)
  | .ok (s, r) => .ok (ρ.struct s, r.rename ρ)
  | .error p => .error p

theorem keyProblem?_rename (id : FieldId) (f : Field) {s s' : Struct} (hs : s'.name = s.name)
    (t : FieldId × Field) :
    keyProblem? (ρ.field id) (f.rename ρ) s' (entry ρ t) = keyProblem? id f s t := by
  simp only [keyProblem?, entry, Renumbering.field_inj, Field.rename_name, hs,
    Field.rename_isUniqueKey, Field.rename_type, FieldType.rename_keyCompatible,
    FieldType.rename_name]

theorem resolveKey_rename (h : m.Like ρ m') (hn : names.Like ρ names') (id : FieldId) (f : Field)
    (k : ForeignKey) :
    resolveKey names' m' (ρ.field id) (f.rename ρ) (k.rename ρ) =
      ((resolveKey names m id f k).1.rename ρ, outcome ρ (resolveKey names m id f k).2) := by
  unfold resolveKey keyTarget
  simp only [ForeignKey.rename, NameRef.rename_name, hn.struct?]
  cases hs : names.struct? k.targetStruct.name with
  | none => rfl
  | some sid =>
    simp only [Option.map_some, Option.bind_some]
    cases hst : m.struct? sid with
    | none => simp only [h.struct?_none hst, Option.map_none]; rfl
    | some s =>
      obtain ⟨s', hst', hlike⟩ := h.struct? hst
      simp only [hst', Option.map_some, hn.field?]
      cases hfd : names.field? sid k.targetField.name with
      | none => rfl
      | some tid =>
        simp only [Option.map_some, Option.bind_some, h.field?]
        cases ht : m.field? tid with
        | none => rfl
        | some t =>
          have hp := @keyProblem?_rename ρ id f s s' hlike.name (tid, t)
          simp only [entry] at hp
          simp only [Option.map_some, hp]
          cases keyProblem? id f s (tid, t) <;> rfl

theorem resolveForeign_rename (h : m.Like ρ m') (hn : names.Like ρ names') (id : FieldId)
    (f : Field) :
    (f.rename ρ).resolveForeign names' m' (ρ.field id) =
      (f.resolveForeign names m id).rename ρ := by
  unfold Field.resolveForeign
  cases hk : f.foreign with
  | none => simp [hk]
  | some k =>
    simp only [Field.rename_foreign, hk, Option.map_some, h.resolveKey_rename hn]
    cases hr : (resolveKey names m id f k).2 with
    | ok x => simp [outcome, Field.rename]
    | error p => simp [outcome, Field.rename]

theorem foreignProblems_rename (h : m.Like ρ m') (hn : names.Like ρ names') (id : FieldId)
    (f : Field) :
    (f.rename ρ).foreignProblems names' m' (ρ.field id) = f.foreignProblems names m id := by
  unfold Field.foreignProblems
  cases hk : f.foreign with
  | none => simp [hk]
  | some k =>
    simp only [Field.rename_foreign, hk, Option.map_some, h.resolveKey_rename hn]
    cases hr : (resolveKey names m id f k).2 <;> simp [outcome, ForeignKey.rename]

theorem foreignKeyProblems (h : m.Like ρ m') (hn : names.Like ρ names') :
    (foreignKeyProblems names' m').Perm (ModelLinker.foreignKeyProblems names m) := by
  refine h.fields.flatMap_zipIdx fun i f f' _ _ hf => List.Perm.of_eq ?_
  subst hf
  exact h.foreignProblems_rename hn ⟨i⟩ f

/-- The valid keys of both models are the same up to their order. -/
theorem validKeys (h : m.Like ρ m') (hn : names.Like ρ names') :
    (validKeys names' m').Perm
      ((ModelLinker.validKeys names m).map fun x => (ρ.struct x.1, ρ.field x.2)) := by
  rw [ModelLinker.validKeys, ModelLinker.validKeys, List.map_filterMap,
    List.filterMap_eq_flatMap_toList, List.filterMap_eq_flatMap_toList]
  refine h.fields.flatMap_zipIdx fun i f f' _ _ hf => List.Perm.of_eq ?_
  subst hf
  cases hk : f.foreign with
  | none => simp [hk]
  | some k =>
    have hkey := h.resolveKey_rename hn ⟨i⟩ f k
    simp only [Field.rename_foreign, hk, Option.map_some, Option.bind_some]
    change (Option.toList (match (resolveKey names' m' (ρ.field ⟨i⟩) (f.rename ρ) (k.rename ρ)).2
      with | .ok (sid, _) => some (sid, ρ.field ⟨i⟩) | .error _ => none)) = _
    rw [hkey]
    cases hr : (resolveKey names m ⟨i⟩ f k).2 <;> simp [outcome]

theorem resolveForeignKeys (h : m.Like ρ m') (hn : names.Like ρ names') :
    (resolveForeignKeys names m).Like ρ (resolveForeignKeys names' m') where
  structs := h.structs.mapIdx fun i s s' _ _ hs =>
    { hs with
      referencedBy := by
        have hvalid := ((h.validKeys hn).filter fun x => x.1 = (⟨ρ.structs i⟩ : StructId)).map
          (·.2)
        have hmap : (((ModelLinker.validKeys names m).map fun x =>
              (ρ.struct x.1, ρ.field x.2)).filter fun x => x.1 = (⟨ρ.structs i⟩ : StructId)).map
              (·.2) =
            (((ModelLinker.validKeys names m).filter fun x => x.1 = (⟨i⟩ : StructId)).map
              (·.2)).map ρ.field := by
          have hid : ∀ x : StructId × FieldId,
              (ρ.struct x.1 = ⟨ρ.structs i⟩) = (x.1 = ⟨i⟩) := fun x =>
            propext (@Renumbering.struct_inj ρ x.1 ⟨i⟩)
          simp [List.filter_map, Function.comp_def, hid]
        rw [hmap] at hvalid
        simpa using hs.referencedBy.append hvalid }
  fields := h.fields.mapIdx fun i f f' _ _ hf => by
    subst hf
    exact h.resolveForeign_rename hn ⟨i⟩ f
  enums := h.enums
  bitfields := h.bitfields
  roles := h.roles

/-! ### structure-typed fields -/

/-- The source of a structure-typed field, with new numbers. -/
def source (ρ : Renumbering) :
    Except ResolveProblem (Option (FieldId × Reference)) →
      Except ResolveProblem (Option (FieldId × Reference))
  | .ok x => .ok (x.map fun e => (ρ.field e.1, e.2.rename ρ))
  | .error p => .error p

theorem structSource_rename (h : m.Like ρ m') (hn : names.Like ρ names') (f : Field)
    (r : NameRef FieldId) :
    structSource names' m' (f.rename ρ) (r.rename ρ.field) =
      source ρ (structSource names m f r) := by
  unfold structSource
  simp only [Field.rename_parent, NameRef.rename_name, hn.field?]
  cases hg : names.field? f.parent r.name with
  | none => rfl
  | some id =>
    simp only [Option.map_some, Option.bind_some, h.field?]
    cases hf : m.field? id with
    | none => rfl
    | some g =>
      simp only [Option.map_some, Field.rename_type, FieldType.rename_isStruct, Field.rename_name,
        Field.rename_foreign, Field.rename_reference, Field.rename_malformedForeign]
      cases g.type.isStruct with
      | true => rfl
      | false =>
        cases g.foreign with
        | none =>
          by_cases hm : g.malformedForeign = true
          · simp [source, hm]
          · simp [source, hm]
        | some k => cases g.reference <;> rfl

theorem resolveStruct_rename (h : m.Like ρ m') (hn : names.Like ρ names') (f : Field) :
    (f.rename ρ).resolveStruct names' m' = (f.resolveStruct names m).rename ρ := by
  unfold Field.resolveStruct
  cases ht : f.type with
  | struct r =>
    simp only [Field.rename_type, ht, FieldType.rename, h.structSource_rename hn]
    cases hs : structSource names m f r with
    | error p => rfl
    | ok x =>
      cases x with
      | none => rfl
      | some e => simp [source, Field.rename, FieldType.rename]
  | _ => simp [ht, FieldType.rename]

theorem resolveStructFields (h : m.Like ρ m') (hn : names.Like ρ names') :
    (resolveStructFields names m).Like ρ (resolveStructFields names' m') :=
  { h with
    fields := h.fields.map fun f f' _ _ hf => by
      subst hf
      exact h.resolveStruct_rename hn f }

theorem structFieldProblems (h : m.Like ρ m') (hn : names.Like ρ names') :
    (structFieldProblems names' m').Perm (ModelLinker.structFieldProblems names m) := by
  refine h.fields.flatMap_toList fun f f' _ _ hf => List.Perm.of_eq ?_
  subst hf
  unfold Field.structProblems
  cases ht : f.type with
  | struct r =>
    simp only [Field.rename_type, ht, FieldType.rename, h.structSource_rename hn]
    cases structSource names m f r <;> rfl
  | _ => simp [ht, FieldType.rename]

end Model.Like

end ModelLinker
