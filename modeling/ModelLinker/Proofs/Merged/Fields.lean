import ModelLinker.Proofs.Binding.Bound
import ModelLinker.Proofs.Merged.Names
import ModelLinker.Proofs.Renumber.Fields

/-!
# Resolving the fields of a greater model

Where nothing is wrong with the fields of the smaller model, each stage of resolving does the same
with them in the greater one. So the stages keep a model within another one, and find nothing wrong
with a model that is made up of models they find nothing wrong with.
-/

namespace ModelLinker

open Model.Like (entry)

section

variable {ρ : Renumbering} {m w : Model} {names names' : Namespace}

/-! ### named types -/

theorem Namespace.Within.resolveValue (hn : names.Within ρ names') {t : FieldType}
    (hok : Diagnostics.isOk (t.valueProblems names) = true) :
    (t.rename ρ).resolveValue names' = (t.resolveValue names).rename ρ := by
  cases t with
  | plain t => rfl
  | enum r =>
    cases he : names.enum? r.name with
    | none => simp [FieldType.valueProblems, he] at hok
    | some e =>
      simp only [FieldType.rename, FieldType.resolveValue, NameRef.rename_name, he, hn.enum? he]
      rfl
  | bitfield r =>
    cases hb : names.bitfield? r.name with
    | none => simp [FieldType.valueProblems, hb] at hok
    | some b =>
      simp only [FieldType.rename, FieldType.resolveValue, NameRef.rename_name, hb,
        hn.bitfield? hb]
      rfl
  | struct r => rfl

theorem Namespace.Within.valueProblems (hn : names.Within ρ names') {t : FieldType}
    (hok : Diagnostics.isOk (t.valueProblems names) = true) :
    (t.rename ρ).valueProblems names' = [] := by
  cases t with
  | plain t => rfl
  | enum r =>
    cases he : names.enum? r.name with
    | none => simp [FieldType.valueProblems, he] at hok
    | some e => simp [FieldType.rename, FieldType.valueProblems, hn.enum? he]
  | bitfield r =>
    cases hb : names.bitfield? r.name with
    | none => simp [FieldType.valueProblems, hb] at hok
    | some b => simp [FieldType.rename, FieldType.valueProblems, hn.bitfield? hb]
  | struct r => rfl

namespace Model.Within

/-! ### values and rowids -/

theorem numberEnums (h : m.Within ρ w) : (numberEnums m).Within ρ (numberEnums w) :=
  { h with
    owned := h.owned.congr (numberEnums_asDeclared m)
    enums := h.enums.map fun _ _ _ hr => by rw [hr] }

theorem rowidsOf (h : m.Within ρ w) {id : StructId} (hid : id ∈ m.structIds) :
    w.rowidsOf (ρ.struct id) = (m.rowidsOf id).map (entry ρ) := by
  simp only [Model.rowidsOf, h.fieldsOf hid, List.filter_map]
  rfl

theorem resolveRowids (h : m.Within ρ w) : (resolveRowids m).Within ρ (resolveRowids w) :=
  { h with
    owned := h.owned.congr (resolveRowids_asDeclared m)
    structs := h.structs.mapIdx fun i s s' hs hlike => by
      have hid : (⟨i⟩ : StructId) ∈ m.structIds :=
        mem_structIds.2 (Array.getElem?_eq_some_iff.1 hs).1
      have hrows : w.rowidsOf ⟨ρ.structs i⟩ = (m.rowidsOf ⟨i⟩).map (entry ρ) := h.rowidsOf hid
      refine { hlike with rowid := ?_ }
      simp only [hrows, List.head?_map, Option.map_map]
      rfl }

theorem rowidProblems (h : m.Within ρ w) {id : StructId} (hid : id ∈ m.structIds) :
    withEarlier rowidProblems [] (w.rowidsOf (ρ.struct id)) =
      withEarlier rowidProblems [] (m.rowidsOf id) := by
  rw [h.rowidsOf hid]
  refine withEarlier_map (entry ρ) ModelLinker.rowidProblems ModelLinker.rowidProblems
    (fun earlier e => ?_) [] _
  simp [ModelLinker.rowidProblems, entry]
  rfl

theorem resolveValueTypes (h : m.Within ρ w) (hn : names.Within ρ names')
    (hok : Diagnostics.isOk (valueTypeProblems names m) = true) :
    (resolveValueTypes names m).Within ρ (resolveValueTypes names' w) :=
  { h with
    owned := h.owned.congr (resolveValueTypes_asDeclared names m)
    fields := h.fields.map fun f f' hmem hf => by
      subst hf
      rw [valueTypeProblems, Diagnostics.isOk_flatMap] at hok
      simp only [Field.rename_type, hn.resolveValue (hok f (Array.mem_toList_iff.2 hmem))]
      rfl }

/-! ### foreign keys -/

theorem keyTarget (h : m.Within ρ w) (hn : names.Within ρ names') {k : ForeignKey} {s : StructId}
    {x : Struct} {t : FieldId × Field} (hk : keyTarget names m k = .ok ((s, x), t)) :
    ∃ x', x'.name = x.name ∧
      keyTarget names' w (k.rename ρ) = .ok ((ρ.struct s, x'), entry ρ t) := by
  obtain ⟨hs, hx, hf, ht⟩ := keyTarget_ok hk
  obtain ⟨x', hx', hlike⟩ := h.struct? hx
  refine ⟨x', hlike.name, ?_⟩
  have hs' := hn.struct? hs
  have hf' := hn.field? hf
  have ht' := h.field? ht
  simp only [ModelLinker.keyTarget, ForeignKey.rename, NameRef.rename_name, hs', hx',
    Option.bind_some, Option.map_some, hf', ht']
  rfl

theorem resolveKey (h : m.Within ρ w) (hn : names.Within ρ names') {id : FieldId} {f : Field}
    {k : ForeignKey} {x : StructId × Reference} (hk : (resolveKey names m id f k).2 = .ok x) :
    resolveKey names' w (ρ.field id) (f.rename ρ) (k.rename ρ) =
      ((resolveKey names m id f k).1.rename ρ, .ok (ρ.struct x.1, x.2.rename ρ)) := by
  unfold ModelLinker.resolveKey at hk ⊢
  cases ht : ModelLinker.keyTarget names m k with
  | error p => simp [ht] at hk
  | ok t =>
    obtain ⟨⟨s, y⟩, t⟩ := t
    obtain ⟨y', hname, ht'⟩ := h.keyTarget hn ht
    have hp := Like.keyProblem?_rename (ρ := ρ) id f hname t
    simp only [ht] at hk
    cases hkp : keyProblem? id f y t with
    | some p => simp [hkp] at hk
    | none =>
      simp only [hkp, Except.ok.injEq] at hk
      subst hk
      simp only [ht', hp, hkp]
      rfl

theorem exists_key {id : FieldId} {f : Field} {k : ForeignKey} (hk : f.foreign = some k)
    (hok : Diagnostics.isOk (f.foreignProblems names m id) = true) :
    ∃ x, (ModelLinker.resolveKey names m id f k).2 = .ok x := by
  unfold Field.foreignProblems at hok
  rw [hk] at hok
  cases hx : (ModelLinker.resolveKey names m id f k).2 with
  | ok x => exact ⟨x, rfl⟩
  | error p => simp [hx] at hok

theorem resolveForeign (h : m.Within ρ w) (hn : names.Within ρ names') {id : FieldId} {f : Field}
    (hok : Diagnostics.isOk (f.foreignProblems names m id) = true) :
    (f.rename ρ).resolveForeign names' w (ρ.field id) =
      (f.resolveForeign names m id).rename ρ := by
  unfold Field.resolveForeign
  cases hk : f.foreign with
  | none => simp [hk]
  | some k =>
    obtain ⟨x, hx⟩ := exists_key hk hok
    simp only [Field.rename_foreign, hk, Option.map_some, h.resolveKey hn hx, hx]
    rfl

theorem foreignProblems (h : m.Within ρ w) (hn : names.Within ρ names') {id : FieldId} {f : Field}
    (hok : Diagnostics.isOk (f.foreignProblems names m id) = true) :
    (f.rename ρ).foreignProblems names' w (ρ.field id) = [] := by
  unfold Field.foreignProblems
  cases hk : f.foreign with
  | none => simp [hk]
  | some k =>
    obtain ⟨x, hx⟩ := exists_key hk hok
    simp only [Field.rename_foreign, hk, Option.map_some, h.resolveKey hn hx]

theorem resolveForeignKeys (h : m.Within ρ w) (hn : names.Within ρ names')
    (hok : Diagnostics.isOk (foreignKeyProblems names m) = true) :
    (resolveForeignKeys names m).Within ρ (resolveForeignKeys names' w) :=
  { h with
    owned := h.owned.congr (resolveForeignKeys_asDeclared names m)
    structs := h.structs.mapIdx fun _ _ _ _ hlike => { hlike with referencedBy := .refl _ }
    fields := h.fields.mapIdx fun i f f' hf heq => by
      subst heq
      rw [foreignKeyProblems, Diagnostics.isOk_flatMap] at hok
      have hid := hok (f, i) (List.mem_zipIdx_iff_getElem?.2 (by simpa using hf))
      exact h.resolveForeign hn hid }

/-! ### structure-typed fields -/

theorem structSource (h : m.Within ρ w) (hn : names.Within ρ names') {f : Field}
    {r : NameRef FieldId} {x : Option (FieldId × Reference)}
    (hx : structSource names m f r = .ok x) :
    structSource names' w (f.rename ρ) (r.rename ρ.field) =
      .ok (x.map fun e => (ρ.field e.1, e.2.rename ρ)) := by
  unfold ModelLinker.structSource at hx ⊢
  cases hid : names.field? f.parent r.name with
  | none => simp [hid] at hx
  | some id =>
    cases hg : m.field? id with
    | none => simp [hid, hg] at hx
    | some g =>
      simp only [hid, hg, Option.bind_some, Option.map_some] at hx
      simp only [Field.rename_parent, NameRef.rename_name, hn.field? hid, h.field? hg,
        Option.bind_some, Option.map_some, Field.rename_type, FieldType.rename_isStruct,
        Field.rename_name, Field.rename_foreign, Field.rename_reference,
        Field.rename_malformedForeign]
      split at hx
      · cases hx
      · rename_i hplain
        rw [if_neg hplain]
        cases hk : g.foreign with
        | none =>
          simp only [hk] at hx
          split at hx
          · rename_i hbad
            cases hx
            simp [hbad]
          · cases hx
        | some k =>
          cases hr : g.reference <;> simp only [hk, hr, Except.ok.injEq] at hx <;> subst hx <;> rfl

theorem exists_source {f : Field} {r : NameRef FieldId} (hr : f.type = .struct r)
    (hok : Diagnostics.isOk (f.structProblems names m) = true) :
    ∃ x, ModelLinker.structSource names m f r = .ok x := by
  unfold Field.structProblems at hok
  rw [hr] at hok
  cases hx : ModelLinker.structSource names m f r with
  | ok x => exact ⟨x, rfl⟩
  | error p => simp [hx] at hok

theorem resolveSource (h : m.Within ρ w) (hn : names.Within ρ names') {f : Field}
    (hok : Diagnostics.isOk (f.structProblems names m) = true) :
    (f.rename ρ).resolveStruct names' w = (f.resolveStruct names m).rename ρ := by
  unfold Field.resolveStruct
  cases ht : f.type with
  | struct r =>
    obtain ⟨x, hx⟩ := exists_source ht hok
    simp only [Field.rename_type, ht, FieldType.rename, h.structSource hn hx, hx]
    cases x with
    | none => rfl
    | some e => simp [Field.rename, FieldType.rename]
  | _ => simp [ht, FieldType.rename]

theorem sourceProblems (h : m.Within ρ w) (hn : names.Within ρ names') {f : Field}
    (hok : Diagnostics.isOk (f.structProblems names m) = true) :
    (f.rename ρ).structProblems names' w = [] := by
  unfold Field.structProblems
  cases ht : f.type with
  | struct r =>
    obtain ⟨x, hx⟩ := exists_source ht hok
    simp only [Field.rename_type, ht, FieldType.rename, h.structSource hn hx]
  | _ => simp [ht, FieldType.rename]

theorem resolveStructFields (h : m.Within ρ w) (hn : names.Within ρ names')
    (hok : Diagnostics.isOk (structFieldProblems names m) = true) :
    (resolveStructFields names m).Within ρ (resolveStructFields names' w) :=
  { h with
    owned := h.owned.congr (resolveStructFields_asDeclared names m)
    fields := h.fields.map fun f f' hmem hf => by
      subst hf
      rw [structFieldProblems, Diagnostics.isOk_flatMap] at hok
      exact h.resolveSource hn (hok f (Array.mem_toList_iff.2 hmem)) }

end Model.Within

end

/-! ### what is wrong with the whole -/

namespace Model.Merges

variable {ι : Type} {ρ : ι → Renumbering} {m : ι → Model} {w : Model} {names : ι → Namespace}
  {names' : Namespace}

theorem isOk_enumProblems (h : Merges ρ m w)
    (hok : ∀ i, Diagnostics.isOk (enumProblems (m i)) = true) :
    Diagnostics.isOk (enumProblems w) = true :=
  h.enums.isOk_toList (fun i => (h.within i).enums) (fun _ _ _ _ heq hok => by rwa [heq]) hok

theorem isOk_bitfieldProblems (h : Merges ρ m w)
    (hok : ∀ i, Diagnostics.isOk (bitfieldProblems (m i)) = true) :
    Diagnostics.isOk (bitfieldProblems w) = true :=
  h.bitfields.isOk_toList (fun i => (h.within i).bitfields)
    (fun _ _ _ _ heq hok => by rwa [heq]) hok

theorem isOk_allRowidProblems (h : Merges ρ m w)
    (hok : ∀ i, Diagnostics.isOk (allRowidProblems (m i)) = true) :
    Diagnostics.isOk (allRowidProblems w) = true := by
  simp only [allRowidProblems, Diagnostics.isOk_flatMap] at hok ⊢
  intro id hid
  obtain ⟨i, sid, hsid, rfl⟩ := h.mem_structIds hid
  rw [(h.within i).rowidProblems hsid]
  exact hok i sid hsid

/-- What is found field by field, and only in fields at fault. -/
theorem isOk_fields (h : Merges ρ m w) {f : ι → Field → Diagnostics} {g : Field → Diagnostics}
    (hfg : ∀ i x, Diagnostics.isOk (f i x) = true → Diagnostics.isOk (g (x.rename (ρ i))) = true)
    (hok : ∀ i, Diagnostics.isOk ((m i).fields.toList.flatMap (f i)) = true) :
    Diagnostics.isOk (w.fields.toList.flatMap g) = true :=
  h.fields.isOk_toList (fun i => (h.within i).fields)
    (fun i x _ _ heq hx => heq ▸ hfg i x hx) hok

theorem isOk_valueTypeProblems (h : Merges ρ m w) (hn : ∀ i, (names i).Within (ρ i) names')
    (hok : ∀ i, Diagnostics.isOk (valueTypeProblems (names i) (m i)) = true) :
    Diagnostics.isOk (valueTypeProblems names' w) = true :=
  h.isOk_fields (fun i x hx => by rw [Field.rename_type, (hn i).valueProblems hx]; rfl) hok

theorem isOk_foreignKeyProblems (h : Merges ρ m w) (hn : ∀ i, (names i).Within (ρ i) names')
    (hok : ∀ i, Diagnostics.isOk (foreignKeyProblems (names i) (m i)) = true) :
    Diagnostics.isOk (foreignKeyProblems names' w) = true := by
  refine h.fields.isOk_zipIdx (fun i => (h.within i).fields) (fun i j x y _ heq hx => ?_) hok
  subst heq
  have hnil := (h.within i).foreignProblems (hn i) hx
  exact congrArg Diagnostics.isOk hnil

theorem isOk_structFieldProblems (h : Merges ρ m w) (hn : ∀ i, (names i).Within (ρ i) names')
    (hok : ∀ i, Diagnostics.isOk (structFieldProblems (names i) (m i)) = true) :
    Diagnostics.isOk (structFieldProblems names' w) = true :=
  h.isOk_fields (fun i x hx => by rw [(h.within i).sourceProblems (hn i) hx]; rfl) hok

theorem isOk_validationProblems (h : Merges ρ m w)
    (hok : ∀ i, Diagnostics.isOk (validationProblems (m i)) = true) :
    Diagnostics.isOk (validationProblems w) = true := by
  refine h.isOk_fields (fun i x hx => ?_) hok
  have heq : (x.rename (ρ i)).validationProblems = x.validationProblems := by
    unfold Field.validationProblems
    rw [Field.rename_type]
    cases ht : x.type <;> rfl
  rwa [heq]

end Model.Merges

end ModelLinker
