import ModelLinker.Proofs.Binding.References
import ModelLinker.Proofs.Reported

/-!
# Foreign keys, valid or faulty

A foreign key is valid if it names another field that tells rows apart and has a type that fits
(`Model.ValidKey`), and otherwise there is a first thing that is wrong with it (`Model.KeyFault`).
Resolving keys gives a reference to every field with a valid key and one error to every other key
(`Model.KeysSettled`), whether or not the model links, and lists in every structure the fields that
refer to it (`Model.BackLinked`).
-/

namespace ModelLinker

/-! ### valid keys and faulty ones -/

/-- The types that a key can have at its two ends: the same plain type, or the same enumeration or
bit field. -/
inductive FieldType.KeyFits : FieldType → FieldType → Prop where
  | plain (t : PlainType) : KeyFits (.plain t) (.plain t)
  | enum {a b : NameRef EnumId} : a.target = b.target → KeyFits (.enum a) (.enum b)
  | bitfield {a b : NameRef BitfieldId} : a.target = b.target → KeyFits (.bitfield a) (.bitfield b)

theorem FieldType.keyCompatible_iff {a b : FieldType} : a.keyCompatible b = true ↔ a.KeyFits b := by
  constructor
  · intro h
    cases a <;> cases b <;> simp only [keyCompatible, beq_iff_eq, Bool.false_eq_true] at h
    · subst h
      exact .plain _
    · exact .enum h
    · exact .bitfield h
  · rintro (_ | h | h)
    · simp [keyCompatible]
    · simp [keyCompatible, h]
    · simp [keyCompatible, h]

namespace Model

variable (m : Model)

/-- The key names the field `tid` of the structure `s`. It is not the field of the key, tells rows
apart, and has a type that fits. -/
structure ValidKey (id : FieldId) (f : Field) (k : ForeignKey) (s : StructId) (tid : FieldId)
    (t : Field) : Prop where
  struct : m.findStruct? k.targetStruct.name = some s
  field : m.findField? s k.targetField.name = some tid
  target : m.field? tid = some t
  other : tid ≠ id
  unique : t.flags.rowid = true ∨ t.flags.unique = true
  fits : f.type.KeyFits t.type

/-- The first thing that is wrong with a key. -/
inductive KeyFault (id : FieldId) (f : Field) (k : ForeignKey) : ResolveProblem → Prop where
  | unknownStruct : m.findStruct? k.targetStruct.name = none →
      KeyFault id f k (.unknownTargetStruct k.targetStruct.name)
  | unknownField {sid} : m.findStruct? k.targetStruct.name = some sid →
      m.findField? sid k.targetField.name = none →
      KeyFault id f k (.unknownTargetField k.targetStruct.name k.targetField.name)
  | self {sid} : m.findStruct? k.targetStruct.name = some sid →
      m.findField? sid k.targetField.name = some id → KeyFault id f k (.selfReference f.name)
  | notUnique {sid s tid t} : m.findStruct? k.targetStruct.name = some sid →
      m.struct? sid = some s → m.findField? sid k.targetField.name = some tid →
      m.field? tid = some t → tid ≠ id → ¬ (t.flags.rowid = true ∨ t.flags.unique = true) →
      KeyFault id f k (.targetNotUnique s.name t.name)
  | mismatch {sid tid t} : m.findStruct? k.targetStruct.name = some sid →
      m.findField? sid k.targetField.name = some tid → m.field? tid = some t → tid ≠ id →
      (t.flags.rowid = true ∨ t.flags.unique = true) → ¬ f.type.KeyFits t.type →
      KeyFault id f k (.targetTypeMismatch f.type.name t.type.name)

/-- A key as resolving leaves it: its two names are bound if both stand for something, and nothing
else is new. -/
inductive KeyBinding (k : ForeignKey) : ForeignKey → Prop where
  | bound {s tid} : m.findStruct? k.targetStruct.name = some s →
      m.findField? s k.targetField.name = some tid →
      KeyBinding k { k with
        targetStruct := k.targetStruct.bind s
        targetField := k.targetField.bind tid }
  | left : (∀ s tid, m.findStruct? k.targetStruct.name = some s →
      m.findField? s k.targetField.name ≠ some tid) → KeyBinding k k

/-- A field once its key is resolved: only the key and the reference are new. There is a reference
exactly if the key is valid, from the field to the target of the key. -/
structure FieldSettled (id : FieldId) (f f' : Field) : Prop where
  kept : f' = { f with foreign := f'.foreign, reference := f'.reference }
  keyless : f.foreign = none → f'.foreign = none
  key : ∀ {k}, f.foreign = some k → ∃ k', f'.foreign = some k' ∧ m.KeyBinding k k'
  reference : ∀ r, f'.reference = some r ↔
    ∃ k s tid t, f.foreign = some k ∧ m.ValidKey id f k s tid t ∧
      r = ⟨id, tid, k.onUpdate, k.onDelete⟩

/-- The field has a foreign key that is not valid. -/
def FaultyAt (n : Nat) : Prop :=
  ∃ f k, m.field? ⟨n⟩ = some f ∧ f.foreign = some k ∧ ¬ ∃ s tid t, m.ValidKey ⟨n⟩ f k s tid t

/-- The diagnostic is an error at the position of the field's key, and says what is wrong first. -/
def BlamesKey (n : Nat) (d : Diagnostic) : Prop :=
  ∃ f k p, m.field? ⟨n⟩ = some f ∧ f.foreign = some k ∧ m.KeyFault ⟨n⟩ f k p ∧
    d = (Cause.resolve p).at k.pos

/-- A structure once all keys are resolved: only the list of the fields that refer to it is new. It
has every field with a valid key to the structure, once and in the order of the fields. -/
structure StructSettled (sid : StructId) (s s' : Struct) : Prop where
  kept : s' = { s with referencedBy := s'.referencedBy }
  sorted : s'.referencedBy.Pairwise fun a b => a.index < b.index
  listed : ∀ id, id ∈ s'.referencedBy ↔
    ∃ f k tid t, m.field? id = some f ∧ f.foreign = some k ∧ m.ValidKey id f k sid tid t

/-- The model once all keys are resolved, and the diagnostics: one for each faulty key. -/
structure KeysSettled (m' : Model) (ds : Diagnostics) : Prop where
  fields : ∀ id, Option.Rel (m.FieldSettled id) (m.field? id) (m'.field? id)
  structs : ∀ sid, Option.Rel (m.StructSettled sid) (m.struct? sid) (m'.struct? sid)
  reported : ds.OneEach m.FaultyAt m.BlamesKey

/-- Every structure lists exactly the fields whose references lead to a field of its own, each once
and in the order of the fields. -/
def BackLinked : Prop :=
  ∀ {sid s}, m.struct? sid = some s →
    s.referencedBy.Pairwise (fun a b => a.index < b.index) ∧
      ∀ id, id ∈ s.referencedBy ↔
        ∃ f r, m.field? id = some f ∧ f.reference = some r ∧ r.target ∈ s.fields

end Model

/-! ### one key -/

section Key

variable {names : Namespace} {m : Model} {id tid : FieldId} {f t : Field} {k : ForeignKey}
  {s : StructId} {p : ResolveProblem}

/-- A valid key has no fault. -/
theorem Model.ValidKey.not_keyFault (h : m.ValidKey id f k s tid t) : ¬ m.KeyFault id f k p := by
  intro hfault
  cases hfault with
  | unknownStruct hs => simp [h.struct] at hs
  | unknownField hs hf =>
    obtain rfl := Option.some.inj (h.struct.symm.trans hs)
    simp [h.field] at hf
  | self hs hf =>
    obtain rfl := Option.some.inj (h.struct.symm.trans hs)
    exact h.other (Option.some.inj (h.field.symm.trans hf))
  | notUnique hs _ hf ht _ hunique =>
    obtain rfl := Option.some.inj (h.struct.symm.trans hs)
    obtain rfl := Option.some.inj (h.field.symm.trans hf)
    obtain rfl := Option.some.inj (h.target.symm.trans ht)
    exact hunique h.unique
  | mismatch hs hf ht _ _ hfits =>
    obtain rfl := Option.some.inj (h.struct.symm.trans hs)
    obtain rfl := Option.some.inj (h.field.symm.trans hf)
    obtain rfl := Option.some.inj (h.target.symm.trans ht)
    exact hfits h.fits

/-- The key of a field that is left without reference is not valid. -/
theorem Model.FieldSettled.not_validKey {f' : Field} (h : m.FieldSettled id f f')
    (hk : f.foreign = some k) (href : f'.reference = none) :
    ¬ ∃ s tid t, m.ValidKey id f k s tid t := by
  rintro ⟨s, tid, t, hvalid⟩
  have hset := (h.reference _).2 ⟨k, s, tid, t, hk, hvalid, rfl⟩
  rw [href] at hset
  cases hset

variable (hstruct : names.struct? = m.findStruct?) (hfield : names.field? = m.findField?)
include hstruct hfield

/-- A key whose names both stand for something is checked against its target. -/
theorem resolveKey_found {st : Struct} (hs : m.findStruct? k.targetStruct.name = some s)
    (hst : m.struct? s = some st) (hf : m.findField? s k.targetField.name = some tid)
    (ht : m.field? tid = some t) :
    resolveKey names m id f k =
      ({ k with
          targetStruct := k.targetStruct.bind s
          targetField := k.targetField.bind tid },
        (keyProblem? id f st (tid, t)).elim (.ok (s, ⟨id, tid, k.onUpdate, k.onDelete⟩))
          .error) := by
  simp only [resolveKey, keyTarget, hstruct, hfield, hs, hst, hf, ht, Option.bind_some,
    Option.map_some]
  cases keyProblem? id f st (tid, t) <;> rfl

/-- What a key comes to: bound as far as both names are known, and either valid or faulty. -/
theorem resolveKey_cases (id : FieldId) (f : Field) (k : ForeignKey) :
    m.KeyBinding k (resolveKey names m id f k).1 ∧
      ((∃ s tid t, m.ValidKey id f k s tid t ∧
          (resolveKey names m id f k).2 = .ok (s, ⟨id, tid, k.onUpdate, k.onDelete⟩)) ∨
        ∃ p, m.KeyFault id f k p ∧ (resolveKey names m id f k).2 = .error p) := by
  cases hs : m.findStruct? k.targetStruct.name with
  | none =>
    simp only [resolveKey, keyTarget, hstruct, hs, Option.bind_none]
    exact ⟨.left (by simp [hs]), .inr ⟨_, .unknownStruct hs, rfl⟩⟩
  | some s =>
    obtain ⟨st, hst⟩ := Model.struct?_of_findStruct? hs
    cases hf : m.findField? s k.targetField.name with
    | none =>
      simp only [resolveKey, keyTarget, hstruct, hfield, hs, hst, hf, Option.bind_some,
        Option.map_some, Option.bind_none]
      refine ⟨.left fun s' tid hs' => ?_, .inr ⟨_, .unknownField hs hf, rfl⟩⟩
      obtain rfl := Option.some.inj (hs.symm.trans hs')
      simp [hf]
    | some tid =>
      obtain ⟨t, ht⟩ := Model.field?_of_findField? hf
      rw [resolveKey_found hstruct hfield hs hst hf ht]
      refine ⟨.bound hs hf, ?_⟩
      have hunique : t.isUniqueKey = true ↔ t.flags.rowid = true ∨ t.flags.unique = true := by
        simp [Field.isUniqueKey]
      by_cases hself : tid = id
      · subst hself
        exact .inr ⟨_, .self hs hf, by simp [keyProblem?]⟩
      · by_cases hu : t.isUniqueKey = true
        · by_cases hc : f.type.keyCompatible t.type = true
          · exact .inl ⟨s, tid, t,
              ⟨hs, hf, ht, hself, hunique.1 hu, FieldType.keyCompatible_iff.1 hc⟩,
              by simp [keyProblem?, hself, hu, hc]⟩
          · refine .inr ⟨_, .mismatch hs hf ht hself (hunique.1 hu)
              fun h => hc (FieldType.keyCompatible_iff.2 h), by simp [keyProblem?, hself, hu, hc]⟩
        · exact .inr ⟨_, .notUnique hs hst hf ht hself fun h => hu (hunique.2 h),
            by simp [keyProblem?, hself, hu]⟩

theorem resolveKey_of_validKey (h : m.ValidKey id f k s tid t) :
    (resolveKey names m id f k).2 = .ok (s, ⟨id, tid, k.onUpdate, k.onDelete⟩) := by
  rcases (resolveKey_cases hstruct hfield id f k).2 with ⟨s', tid', t', h', heq⟩ | ⟨p, hfault, -⟩
  · obtain rfl := Option.some.inj (h.struct.symm.trans h'.struct)
    obtain rfl := Option.some.inj (h.field.symm.trans h'.field)
    exact heq
  · exact (h.not_keyFault hfault).elim

theorem validKey_of_resolveKey {r : Reference} (h : (resolveKey names m id f k).2 = .ok (s, r)) :
    ∃ tid t, m.ValidKey id f k s tid t ∧ r = ⟨id, tid, k.onUpdate, k.onDelete⟩ := by
  rcases (resolveKey_cases hstruct hfield id f k).2 with ⟨s', tid, t, hvalid, heq⟩ | ⟨p, -, heq⟩
  · rw [h, Except.ok.injEq, Prod.mk.injEq] at heq
    obtain ⟨rfl, rfl⟩ := heq
    exact ⟨tid, t, hvalid, rfl⟩
  · rw [h] at heq
    cases heq

/-! ### one field -/

/-- A field with its key resolved. -/
theorem fieldSettled_resolveForeign (href : f.reference = none) :
    m.FieldSettled id f (f.resolveForeign names m id) := by
  cases hk : f.foreign with
  | none =>
    have hself : f.resolveForeign names m id = f := by simp [Field.resolveForeign, hk]
    rw [hself]
    exact ⟨rfl, fun _ => hk, by simp [hk], by simp [hk, href]⟩
  | some k =>
    obtain ⟨hbinding, hcase⟩ := resolveKey_cases hstruct hfield id f k
    refine ⟨by simp [Field.resolveForeign, hk], by simp [hk], ?_, fun r => ?_⟩
    · rintro k' hk'
      obtain rfl := Option.some.inj (hk.symm.trans hk')
      exact ⟨_, by simp [Field.resolveForeign, hk], hbinding⟩
    · constructor
      · intro hr
        cases ho : (resolveKey names m id f k).2 with
        | error p => simp [Field.resolveForeign, hk, ho, href] at hr
        | ok x =>
          obtain ⟨s, r'⟩ := x
          obtain ⟨tid, t, hvalid, rfl⟩ := validKey_of_resolveKey hstruct hfield ho
          simp only [Field.resolveForeign, hk, ho, Option.some.injEq] at hr
          exact ⟨k, s, tid, t, hk, hvalid, hr.symm⟩
      · rintro ⟨k', s, tid, t, hk', hvalid, rfl⟩
        obtain rfl := Option.some.inj (hk.symm.trans hk')
        simp [Field.resolveForeign, hk, resolveKey_of_validKey hstruct hfield hvalid]

/-- A field with a faulty key gives one error, and every other field none. -/
theorem foreignProblems_cases (id : FieldId) (f : Field) :
    (∃ k p, f.foreign = some k ∧ m.KeyFault id f k p ∧
        f.foreignProblems names m id = [(Cause.resolve p).at k.pos]) ∨
      (∀ k, f.foreign = some k → ∃ s tid t, m.ValidKey id f k s tid t) ∧
        f.foreignProblems names m id = [] := by
  cases hk : f.foreign with
  | none => exact .inr ⟨by simp, by simp [Field.foreignProblems, hk]⟩
  | some k =>
    rcases (resolveKey_cases hstruct hfield id f k).2 with
      ⟨s, tid, t, hvalid, heq⟩ | ⟨p, hfault, heq⟩
    · refine .inr ⟨?_, by simp [Field.foreignProblems, hk, heq]⟩
      rintro k' hk'
      obtain rfl := Option.some.inj hk'
      exact ⟨s, tid, t, hvalid⟩
    · exact .inl ⟨k, p, rfl, hfault, by simp [Field.foreignProblems, hk, heq]⟩

end Key

/-! ### all keys -/

/-- The structure and the field of a valid key. -/
def keyEntry (names : Namespace) (m : Model) (e : Field × Nat) : Option (StructId × FieldId) :=
  e.1.foreign.bind fun k =>
    (resolveKey names m ⟨e.2⟩ e.1 k).2.toOption.map fun found => (found.1, ⟨e.2⟩)

section Entries

variable {names : Namespace} {m : Model}

theorem validKeys_eq_entries (names : Namespace) (m : Model) :
    validKeys names m = m.fields.toList.zipIdx.filterMap (keyEntry names m) := by
  rw [validKeys]
  refine List.filterMap_congr ?_
  rintro ⟨f, i⟩ -
  simp only [keyEntry]
  congr 1
  funext k
  cases (resolveKey names m ⟨i⟩ f k).2 <;> rfl

theorem keyEntry_eq_some {e : Field × Nat} {x : StructId × FieldId} :
    keyEntry names m e = some x ↔ x.2 = ⟨e.2⟩ ∧
      ∃ k r, e.1.foreign = some k ∧ (resolveKey names m ⟨e.2⟩ e.1 k).2 = .ok (x.1, r) := by
  obtain ⟨s, id⟩ := x
  simp only [keyEntry, Option.bind_eq_some_iff, Option.map_eq_some_iff, Prod.mk.injEq]
  constructor
  · rintro ⟨k, hk, ⟨s', r⟩, hr, rfl, rfl⟩
    refine ⟨rfl, k, r, hk, ?_⟩
    cases ho : (resolveKey names m ⟨e.2⟩ e.1 k).2 with
    | error p => simp [ho, Except.toOption] at hr
    | ok x => simpa [ho, Except.toOption] using hr
  · rintro ⟨rfl, k, r, hk, ho⟩
    exact ⟨k, hk, (s, r), by rw [ho]; rfl, rfl, rfl⟩

/-- The fields with valid keys, with the structures that these name. -/
theorem mem_validKeys (hstruct : names.struct? = m.findStruct?)
    (hfield : names.field? = m.findField?) {s : StructId} {id : FieldId} :
    (s, id) ∈ validKeys names m ↔
      ∃ f k tid t, m.field? id = some f ∧ f.foreign = some k ∧ m.ValidKey id f k s tid t := by
  obtain ⟨i⟩ := id
  simp only [validKeys_eq_entries, List.mem_filterMap, Prod.exists, List.mem_zipIdx_iff_getElem?,
    keyEntry_eq_some]
  constructor
  · rintro ⟨f, j, hf, hj, k, r, hk, ho⟩
    obtain rfl : i = j := congrArg FieldId.index hj
    obtain ⟨tid, t, hvalid, -⟩ := validKey_of_resolveKey hstruct hfield ho
    exact ⟨f, k, tid, t, by simpa [Model.field?] using hf, hk, hvalid⟩
  · rintro ⟨f, k, tid, t, hf, hk, hvalid⟩
    exact ⟨f, i, by simpa [Model.field?] using hf, rfl, k, _, hk,
      resolveKey_of_validKey hstruct hfield hvalid⟩

/-- Valid keys are found in the order of their fields. -/
theorem pairwise_validKeys (names : Namespace) (m : Model) :
    (validKeys names m).Pairwise fun a b => a.2.index < b.2.index := by
  have hlt : m.fields.toList.zipIdx.Pairwise fun a b => a.2 < b.2 := by
    rw [← List.pairwise_map (f := Prod.snd), List.zipIdx_map_snd]
    exact List.pairwise_lt_range'
  rw [validKeys_eq_entries, List.pairwise_filterMap]
  refine hlt.imp fun {a b} hab x hx y hy => ?_
  rw [(keyEntry_eq_some.1 hx).1, (keyEntry_eq_some.1 hy).1]
  exact hab

end Entries

/-- There is one error for every faulty key, and no other one. -/
theorem oneEach_foreignKeyProblems {names : Namespace} {m : Model}
    (hstruct : names.struct? = m.findStruct?) (hfield : names.field? = m.findField?) :
    (foreignKeyProblems names m).OneEach m.FaultyAt m.BlamesKey := by
  refine (Diagnostics.oneEach_zipIdx (P := fun n f => ∃ k, f.foreign = some k ∧
    ¬ ∃ s tid t, m.ValidKey ⟨n⟩ f k s tid t) fun {n f} hn => ?_).congr fun n => ?_
  · have hf : m.field? ⟨n⟩ = some f := by simpa [Model.field?] using hn
    rcases foreignProblems_cases hstruct hfield ⟨n⟩ f with ⟨k, p, hk, hfault, heq⟩ | ⟨hvalid, heq⟩
    · refine .inl ⟨⟨k, hk, ?_⟩, _, heq, f, k, p, hf, hk, hfault, rfl⟩
      rintro ⟨s, tid, t, hvalid⟩
      exact hvalid.not_keyFault hfault
    · refine .inr ⟨?_, heq⟩
      rintro ⟨k, hk, hnot⟩
      exact hnot (hvalid k hk)
  · simp [Model.FaultyAt, Model.field?]

/-- What resolving keys does to a model without references. -/
theorem keysSettled_resolveForeignKeys {names : Namespace} {m : Model}
    (hstruct : names.struct? = m.findStruct?) (hfield : names.field? = m.findField?)
    (hun : m.Unlinked) (hlist : ∀ s ∈ m.structs, s.referencedBy = []) :
    m.KeysSettled (resolveForeignKeys names m) (foreignKeyProblems names m) where
  fields id := by
    have heq : (resolveForeignKeys names m).field? id =
        (m.field? id).map fun f => f.resolveForeign names m id := by
      simp [resolveForeignKeys, Model.field?]
    rw [heq]
    cases hf : m.field? id with
    | none => exact .none
    | some f => exact .some (fieldSettled_resolveForeign hstruct hfield (hun id f hf))
  structs sid := by
    have heq : (resolveForeignKeys names m).struct? sid = (m.struct? sid).map fun s =>
        { s with referencedBy :=
            s.referencedBy ++ ((validKeys names m).filter fun e => e.1 = sid).map (·.2) } := by
      simp [resolveForeignKeys, Model.struct?]
    rw [heq]
    cases hs : m.struct? sid with
    | none => exact .none
    | some s =>
      refine .some ?_
      simp only [hlist s (Array.mem_of_getElem? hs), List.nil_append]
      refine ⟨rfl, ?_, fun id => ?_⟩
      · rw [List.pairwise_map]
        exact (pairwise_validKeys names m).filter _
      · rw [← mem_validKeys hstruct hfield]
        simp
  reported := oneEach_foreignKeyProblems hstruct hfield

namespace Model

variable {m m' : Model} {ds : Diagnostics}

/-- A field that a structure is found to have is its own, and lies in no other structure. -/
theorem Owned.parent_of_findField? (h : m.Owned) {sid : StructId} {s : Struct} {n : String}
    {tid : FieldId} (hs : m.struct? sid = some s) (ht : m.findField? sid n = some tid) :
    tid ∈ s.fields ∧ ∃ t, m.field? tid = some t ∧ t.parent = sid := by
  obtain ⟨_, hmem⟩ := mem_fieldsOf_of_findField? ht
  obtain ⟨s₁, hs₁, hid, -⟩ := mem_fieldsOf.1 hmem
  obtain rfl := Option.some.inj (hs.symm.trans hs₁)
  exact ⟨hid, h.own hs tid hid⟩

/-- If every field lies in one structure, the fields that a structure lists are those whose
references lead to it. -/
theorem KeysSettled.backLinked (h : m.KeysSettled m' ds) (hown : m.Owned) : m'.BackLinked := by
  intro sid s' hs'
  obtain ⟨s, hs, hsettled⟩ := exists_of_rel (h.structs sid) hs'
  have hfields : s'.fields = s.fields := by rw [hsettled.kept]
  refine ⟨hsettled.sorted, fun id => ?_⟩
  rw [hsettled.listed id, hfields]
  constructor
  · rintro ⟨f, k, tid, t, hf, hk, hvalid⟩
    obtain ⟨f', hf', hfield⟩ := exists_of_rel_left (h.fields id) hf
    refine ⟨f', ⟨id, tid, k.onUpdate, k.onDelete⟩, hf', ?_, ?_⟩
    · exact (hfield.reference _).2 ⟨k, sid, tid, t, hk, hvalid, rfl⟩
    · exact (hown.parent_of_findField? hs hvalid.field).1
  · rintro ⟨f', r, hf', hr, hmem⟩
    obtain ⟨f, hf, hfield⟩ := exists_of_rel (h.fields id) hf'
    obtain ⟨k, s₁, tid, t, hk, hvalid, rfl⟩ := (hfield.reference r).1 hr
    -- the target lies in the structure that the key names, and in no other one
    obtain ⟨x₁, hx₁⟩ := struct?_of_findStruct? hvalid.struct
    obtain ⟨-, t₁, ht₁, hparent₁⟩ := hown.parent_of_findField? hx₁ hvalid.field
    obtain ⟨t₂, ht₂, hparent₂⟩ := hown.own hs tid hmem
    obtain rfl := Option.some.inj (ht₁.symm.trans ht₂)
    obtain rfl := hparent₁.symm.trans hparent₂
    exact ⟨f, k, tid, t, hf, hk, hvalid⟩

end Model

/-! ### keys in a run -/

namespace Model

variable (m : Model)

theorem struct?_ofModel_typed : (Namespace.ofModel m).struct? = m.typed.findStruct? := by
  rw [← Namespace.ofModel_congr asDeclared_typed, Namespace.struct?_ofModel]

theorem field?_ofModel_typed : (Namespace.ofModel m).field? = m.typed.findField? := by
  rw [← Namespace.ofModel_congr asDeclared_typed, Namespace.field?_ofModel]

theorem oneEach_keyed : (foreignKeyProblems (.ofModel m) m.typed).OneEach m.typed.FaultyAt
    m.typed.BlamesKey :=
  oneEach_foreignKeyProblems m.struct?_ofModel_typed m.field?_ofModel_typed

variable {m}

theorem unlinked_typed (h : m.Unlinked) : m.typed.Unlinked := by
  intro id f hf
  rw [field?_typed, Option.map_eq_some_iff] at hf
  obtain ⟨f₀, hf₀, rfl⟩ := hf
  exact h id f₀ hf₀

theorem referencedBy_typed (h : ∀ s ∈ m.structs, s.referencedBy = []) :
    ∀ s ∈ m.typed.structs, s.referencedBy = [] := by
  intro s hs
  obtain ⟨i, hi⟩ := Array.mem_iff_getElem?.1 hs
  simp only [typed, resolveValueTypes, resolveRowids, numberEnums, Array.getElem?_mapIdx,
    Option.map_eq_some_iff] at hi
  obtain ⟨s₀, hs₀, rfl⟩ := hi
  exact h s₀ (Array.mem_of_getElem? hs₀)

/-- What a run does with the keys of a model without references. -/
theorem keysSettled_keyed (hun : m.Unlinked) (hlist : ∀ s ∈ m.structs, s.referencedBy = []) :
    m.typed.KeysSettled m.keyed (foreignKeyProblems (.ofModel m) m.typed) :=
  keysSettled_resolveForeignKeys m.struct?_ofModel_typed m.field?_ofModel_typed
    (unlinked_typed hun) (referencedBy_typed hlist)

/-- What a run does with the key of one field. -/
theorem fieldSettled_keyed (hun : m.Unlinked) {id : FieldId} {f : Field}
    (hf : m.typed.field? id = some f) :
    ∃ f', m.keyed.field? id = some f' ∧ m.typed.FieldSettled id f f' := by
  refine ⟨f.resolveForeign (.ofModel m) m.typed id, by rw [field?_keyed, hf, Option.map_some], ?_⟩
  exact fieldSettled_resolveForeign m.struct?_ofModel_typed m.field?_ofModel_typed
    (unlinked_typed hun id f hf)

end Model

/-! ### other keys -/

/-- What a key comes to depends on names, on the names of structures, and on the names, types and
marks of fields. -/
theorem resolveKey_congr {names names' : Namespace} {m m' : Model} {id : FieldId} {f f' : Field}
    {k : ForeignKey} (hstruct : names'.struct? = names.struct?)
    (hfield : names'.field? = names.field?)
    (hstructs : ∀ id, (m'.struct? id).map Struct.name = (m.struct? id).map Struct.name)
    (hfields : ∀ id, (m'.field? id).map (fun f => (f.name, f.type, f.flags)) =
      (m.field? id).map fun f => (f.name, f.type, f.flags))
    (hname : f'.name = f.name) (htype : f'.type = f.type) :
    resolveKey names' m' id f' k = resolveKey names m id f k := by
  have hproblem : ∀ {s s' : Struct} {t t' : Field} {tid : FieldId}, s'.name = s.name →
      (t'.name, t'.type, t'.flags) = (t.name, t.type, t.flags) →
      keyProblem? id f' s' (tid, t') = keyProblem? id f s (tid, t) := by
    intro s s' t t' tid hs ht
    simp only [Prod.mk.injEq] at ht
    simp only [keyProblem?, Field.isUniqueKey, hname, htype, hs, ht.1, ht.2.1, ht.2.2]
  simp only [resolveKey, keyTarget, hstruct, hfield]
  cases hs : names.struct? k.targetStruct.name with
  | none => rfl
  | some sid =>
    have hsid := hstructs sid
    cases hst : m.struct? sid with
    | none =>
      rw [hst, Option.map_none, Option.map_eq_none_iff] at hsid
      simp [hst, hsid]
    | some st =>
      rw [hst, Option.map_some, Option.map_eq_some_iff] at hsid
      obtain ⟨st', hst', hst''⟩ := hsid
      cases hf : names.field? sid k.targetField.name with
      | none => simp [hst, hst', hf]
      | some tid =>
        have htid := hfields tid
        cases ht : m.field? tid with
        | none =>
          rw [ht, Option.map_none, Option.map_eq_none_iff] at htid
          simp [hst, hst', hf, ht, htid]
        | some t =>
          rw [ht, Option.map_some, Option.map_eq_some_iff] at htid
          obtain ⟨t', ht', ht''⟩ := htid
          simp [hst, hst', hf, ht, ht', hproblem hst'' ht'']

/-- The model with other foreign keys. -/
def Model.withKeys (m : Model) (keys : FieldId → Option ForeignKey) : Model :=
  { m with fields := m.fields.mapIdx fun i f => { f with foreign := keys ⟨i⟩ } }

section WithKeys

variable (m : Model) (keys : FieldId → Option ForeignKey)

theorem field?_withKeys (id : FieldId) : (m.withKeys keys).field? id =
    (m.field? id).map fun f => { f with foreign := keys id } := by
  simp [Model.withKeys, Model.field?]

theorem findField?_withKeys : (m.withKeys keys).findField? = m.findField? := by
  funext s n
  have hfields : (m.withKeys keys).fieldsOf s =
      (m.fieldsOf s).map fun e => (e.1, { e.2 with foreign := keys e.1 }) := by
    simp only [Model.fieldsOf, field?_withKeys]
    rw [show (m.withKeys keys).struct? s = m.struct? s from rfl]
    cases m.struct? s with
    | none => rfl
    | some st => simp [List.map_filterMap, Function.comp_def]
  simp [Model.findField?, hfields, List.find?_map, Function.comp_def]

/-- What becomes of the key of a field does not depend on the keys of other fields. -/
theorem resolveForeign_withKeys (id : FieldId) (f : Field) :
    f.resolveForeign (.ofModel (m.withKeys keys)) (m.withKeys keys) id =
        f.resolveForeign (.ofModel m) m id ∧
      f.foreignProblems (.ofModel (m.withKeys keys)) (m.withKeys keys) id =
        f.foreignProblems (.ofModel m) m id := by
  have hresolve : ∀ k, resolveKey (.ofModel (m.withKeys keys)) (m.withKeys keys) id f k =
      resolveKey (.ofModel m) m id f k := by
    intro k
    refine resolveKey_congr ?_ ?_ (fun _ => rfl) (fun id => ?_) rfl rfl
    · rw [Namespace.struct?_ofModel, Namespace.struct?_ofModel]
      rfl
    · rw [Namespace.field?_ofModel, Namespace.field?_ofModel, findField?_withKeys]
    · simp [field?_withKeys, Function.comp_def]
  simp only [Field.resolveForeign, Field.foreignProblems, hresolve, and_self]

end WithKeys

end ModelLinker
