import ModelLinker.Proofs.Binding.ForeignKeys
import ModelLinker.Proofs.Linked
import ModelLinker.Proofs.Source.Targets

/-!
# Structure-typed fields, bound or blamed

A structure-typed field is bound if it names a field of its structure with a valid foreign key
(`Model.HasSource`). Otherwise it is left as it is, and either it is blamed itself
(`Model.SourceFault`) or the foreign key of its source was rejected before
(`Model.SourceRejected`), never both. A rejected key has left one error by then: when documents
were read, if its target is malformed, or else when foreign keys were resolved
(`SourceSet.SourcesSettled`).
-/

namespace ModelLinker

namespace Model

/-! ### sources -/

section Sources

variable (m : Model)

/-- The name of a structure-typed field is that of a field of its structure that is not
structure-typed itself. -/
structure SourceAt (f : Field) (r : NameRef FieldId) (gid : FieldId) (g : Field) : Prop where
  found : m.findField? f.parent r.name = some gid
  field : m.typed.field? gid = some g
  plain : g.type.isStruct = false

/-- The source has a valid foreign key. -/
def HasSource (f : Field) (r : NameRef FieldId) (gid : FieldId) : Prop :=
  ∃ g k s tid t, m.SourceAt f r gid g ∧ g.foreign = some k ∧ m.typed.ValidKey gid g k s tid t

/-- What is wrong with the name of a structure-typed field. -/
inductive SourceFault (f : Field) (r : NameRef FieldId) : ResolveProblem → Prop where
  | unknown : m.findField? f.parent r.name = none →
      SourceFault f r (.unknownStructSource r.name)
  | struct {gid g} : m.findField? f.parent r.name = some gid → m.typed.field? gid = some g →
      g.type.isStruct = true → SourceFault f r (.structSourceIsStruct g.name)
  | keyless {gid g} : m.SourceAt f r gid g → g.foreign = none → g.malformedForeign = false →
      SourceFault f r (.structSourceWithoutKey g.name)

/-- The source declares a foreign key that was rejected: either its target cannot be read, or it is
faulty. -/
def SourceRejected (f : Field) (r : NameRef FieldId) : Prop :=
  ∃ gid g, m.SourceAt f r gid g ∧
    (m.UnreadableAt gid.index ∧ ¬ m.typed.FaultyAt gid.index ∨
      ¬ m.UnreadableAt gid.index ∧ m.typed.FaultyAt gid.index)

/-- The field is structure-typed, and something is wrong with the name of its source. -/
def BlamedAt (n : Nat) : Prop :=
  ∃ f r q, m.field? ⟨n⟩ = some f ∧ f.type = .struct r ∧ m.SourceFault f r q

/-- The diagnostic is an error at the name of the source, and says what is wrong with it. -/
def BlamesSource (n : Nat) (d : Diagnostic) : Prop :=
  ∃ f r q, m.field? ⟨n⟩ = some f ∧ f.type = .struct r ∧ m.SourceFault f r q ∧
    d = (Cause.resolve q).at r.pos

/-- What becomes of a structure-typed field. With a source that has a valid key it is bound to it
and shares its reference. Otherwise it stays unbound and without reference, and either it is blamed
or the key of its source was rejected. -/
structure SourceSettled (id : FieldId) (f : Field) (r : NameRef FieldId) (f' : Field) : Prop where
  fresh : r.target = none ∧ f.reference = none
  bound : ∀ gid, m.HasSource f r gid → ∃ g ref, m.resolved.field? gid = some g ∧
    g.reference = some ref ∧ f' = { f with type := .struct (r.bind gid), reference := some ref }
  left : (¬ ∃ gid, m.HasSource f r gid) → f' = f
  outcome : (∃ gid, m.HasSource f r gid) ∧ ¬ m.BlamedAt id.index ∧ ¬ m.SourceRejected f r ∨
    (¬ ∃ gid, m.HasSource f r gid) ∧
      (m.BlamedAt id.index ∧ ¬ m.SourceRejected f r ∨
        ¬ m.BlamedAt id.index ∧ m.SourceRejected f r)

/-- Fields as they are made from documents: without reference, and with a key only if it could be
read and the field is not structure-typed. -/
structure Fresh : Prop where
  unlinked : m.Unlinked
  keyRead : ∀ {id f}, m.field? id = some f → f.KeyRead

end Sources

variable {m : Model} {f g : Field} {r : NameRef FieldId} {id gid : FieldId} {q : ResolveProblem}

/-! ### only one outcome -/

theorem SourceAt.unique {gid' : FieldId} {g' : Field} (h : m.SourceAt f r gid g)
    (h' : m.SourceAt f r gid' g') : gid' = gid ∧ g' = g := by
  obtain rfl := Option.some.inj (h'.found.symm.trans h.found)
  exact ⟨rfl, Option.some.inj (h'.field.symm.trans h.field)⟩

/-- Of a source that is not structure-typed nothing can be wrong but that it has no key. -/
theorem SourceFault.keyless_of_sourceAt (hq : m.SourceFault f r q) (h : m.SourceAt f r gid g) :
    g.foreign = none ∧ g.malformedForeign = false := by
  cases hq with
  | unknown hn => simp [h.found] at hn
  | struct hfound hfield hs =>
    obtain rfl := Option.some.inj (h.found.symm.trans hfound)
    obtain rfl := Option.some.inj (h.field.symm.trans hfield)
    rw [h.plain] at hs
    cases hs
  | keyless h' hk hm =>
    obtain ⟨rfl, rfl⟩ := h.unique h'
    exact ⟨hk, hm⟩

theorem field?_of_typed (h : m.typed.field? id = some f) :
    ∃ f₀, m.field? id = some f₀ ∧ f = { f₀ with type := f₀.type.resolveValue (.ofModel m) } := by
  rw [field?_typed, Option.map_eq_some_iff] at h
  obtain ⟨f₀, hf₀, rfl⟩ := h
  exact ⟨f₀, hf₀, rfl⟩

theorem isStruct_resolveValue (names : Namespace) (t : FieldType) :
    (t.resolveValue names).isStruct = t.isStruct := by
  cases t <;> rfl

theorem field?_of_keyed (h : m.keyed.field? id = some f) :
    ∃ f₀, m.field? id = some f₀ ∧ f.type.isStruct = f₀.type.isStruct := by
  rw [field?_keyed, Option.map_eq_some_iff] at h
  obtain ⟨f₁, hf₁, rfl⟩ := h
  obtain ⟨f₀, hf₀, rfl⟩ := field?_of_typed hf₁
  exact ⟨f₀, hf₀, by rw [resolveForeign_type, isStruct_resolveValue]⟩

/-- Binding types does not change which keys could be read. -/
theorem SourceAt.unreadableAt_iff (h : m.SourceAt f r gid g) :
    m.UnreadableAt gid.index ↔ g.malformedForeign = true := by
  obtain ⟨g₀, hg₀, rfl⟩ := field?_of_typed h.field
  have hplain := h.plain
  rw [isStruct_resolveValue] at hplain
  constructor
  · rintro ⟨g', hg', -, hm⟩
    obtain rfl := Option.some.inj (hg₀.symm.trans hg')
    exact hm
  · exact fun hm => ⟨g₀, hg₀, hplain, hm⟩

theorem SourceAt.faultyAt_iff (h : m.SourceAt f r gid g) :
    m.typed.FaultyAt gid.index ↔
      ∃ k, g.foreign = some k ∧ ¬ ∃ s tid t, m.typed.ValidKey gid g k s tid t := by
  constructor
  · rintro ⟨g', k, hg', hk, hnot⟩
    obtain rfl := Option.some.inj (h.field.symm.trans hg')
    exact ⟨k, hk, hnot⟩
  · rintro ⟨k, hk, hnot⟩
    exact ⟨g, k, h.field, hk, hnot⟩

theorem HasSource.not_sourceFault (h : m.HasSource f r gid) : ¬ m.SourceFault f r q := by
  rintro hq
  obtain ⟨g, k, s, tid, t, hsource, hk, -⟩ := h
  rw [(hq.keyless_of_sourceAt hsource).1] at hk
  cases hk

theorem HasSource.unique {gid' : FieldId} (h : m.HasSource f r gid) (h' : m.HasSource f r gid') :
    gid = gid' := by
  obtain ⟨_, _, _, _, _, hsource, -, -⟩ := h
  obtain ⟨_, _, _, _, _, hsource', -, -⟩ := h'
  exact (hsource'.unique hsource).1

theorem SourceRejected.not_sourceFault (h : m.SourceRejected f r) : ¬ m.SourceFault f r q := by
  rintro hq
  obtain ⟨gid, g, hsource, ⟨hbad, -⟩ | ⟨-, hbad⟩⟩ := h
  · rw [hsource.unreadableAt_iff, (hq.keyless_of_sourceAt hsource).2] at hbad
    cases hbad
  · obtain ⟨k, hk, -⟩ := hsource.faultyAt_iff.1 hbad
    rw [(hq.keyless_of_sourceAt hsource).1] at hk
    cases hk

namespace Fresh

variable (h : m.Fresh)
include h

/-- A key that could not be read is not there to be checked. -/
theorem foreign_none (hsource : m.SourceAt f r gid g) (hm : g.malformedForeign = true) :
    g.foreign = none := by
  obtain ⟨g₀, hg₀, rfl⟩ := field?_of_typed hsource.field
  exact (h.keyRead hg₀).keyless hm

theorem not_sourceRejected (hhas : m.HasSource f r gid) : ¬ m.SourceRejected f r := by
  obtain ⟨g, k, s, tid, t, hsource, hk, hvalid⟩ := hhas
  rintro ⟨gid', g', hsource', hbad⟩
  obtain ⟨rfl, rfl⟩ := hsource.unique hsource'
  rcases hbad with ⟨hbad, -⟩ | ⟨-, hbad⟩
  · rw [h.foreign_none hsource (hsource.unreadableAt_iff.1 hbad)] at hk
    cases hk
  · obtain ⟨k', hk', hnot⟩ := hsource.faultyAt_iff.1 hbad
    obtain rfl := Option.some.inj (hk.symm.trans hk')
    exact hnot ⟨s, tid, t, hvalid⟩

/-- A key that could not be read is rejected, and nothing else. -/
theorem sourceRejected_of_unreadable (hsource : m.SourceAt f r gid g)
    (hm : g.malformedForeign = true) : m.SourceRejected f r := by
  refine ⟨gid, g, hsource, .inl ⟨hsource.unreadableAt_iff.2 hm, fun hbad => ?_⟩⟩
  obtain ⟨k, hk, -⟩ := hsource.faultyAt_iff.1 hbad
  rw [h.foreign_none hsource hm] at hk
  cases hk

theorem sourceRejected_of_faulty (hsource : m.SourceAt f r gid g) {k : ForeignKey}
    (hk : g.foreign = some k) (hnot : ¬ ∃ s tid t, m.typed.ValidKey gid g k s tid t) :
    m.SourceRejected f r := by
  refine ⟨gid, g, hsource, .inr ⟨fun hbad => ?_, hsource.faultyAt_iff.2 ⟨k, hk, hnot⟩⟩⟩
  rw [h.foreign_none hsource (hsource.unreadableAt_iff.1 hbad)] at hk
  cases hk

/-! ### what the resolver does -/

/-- A structure-typed field has its source and the reference of that source, or something is wrong
with it, or the key of its source was rejected. -/
theorem structSource_cases (f : Field) (r : NameRef FieldId) :
    (∃ q, m.SourceFault f r q ∧ structSource (.ofModel m) m.keyed f r = .error q) ∨
      (∃ gid g ref, m.HasSource f r gid ∧ m.keyed.field? gid = some g ∧
        g.type.isStruct = false ∧ g.reference = some ref ∧
        structSource (.ofModel m) m.keyed f r = .ok (some (gid, ref))) ∨
      m.SourceRejected f r ∧ structSource (.ofModel m) m.keyed f r = .ok none := by
  cases hfound : m.findField? f.parent r.name with
  | none =>
    refine .inl ⟨_, .unknown hfound, ?_⟩
    simp [structSource, Namespace.field?_ofModel, hfound]
  | some gid =>
    obtain ⟨g, hg⟩ : ∃ g, m.typed.field? gid = some g := by
      rw [← Namespace.field?_ofModel, field?_ofModel_typed] at hfound
      exact field?_of_findField? hfound
    obtain ⟨g', hg', hsettled⟩ := fieldSettled_keyed h.unlinked hg
    have hname : g'.name = g.name := by rw [hsettled.kept]
    have htype : g'.type = g.type := by rw [hsettled.kept]
    have hmalformed : g'.malformedForeign = g.malformedForeign := by rw [hsettled.kept]
    simp only [structSource, Namespace.field?_ofModel, hfound, hg', Option.bind_some,
      Option.map_some, hname, htype, hmalformed]
    cases hs : g.type.isStruct with
    | true => exact .inl ⟨_, .struct hfound hg hs, by simp⟩
    | false =>
      have hsource : m.SourceAt f r gid g := ⟨hfound, hg, hs⟩
      cases hk : g.foreign with
      | none =>
        rw [hsettled.keyless hk]
        cases hm : g.malformedForeign with
        | true => exact .inr (.inr ⟨h.sourceRejected_of_unreadable hsource hm, by simp⟩)
        | false => exact .inl ⟨_, .keyless hsource hk hm, by simp⟩
      | some k =>
        obtain ⟨k', hk', -⟩ := hsettled.key hk
        rw [hk']
        cases href : g'.reference with
        | some ref =>
          obtain ⟨k₁, s, tid, t, hk₁, hvalid, -⟩ := (hsettled.reference ref).1 href
          exact .inr (.inl ⟨gid, g', ref, ⟨g, k₁, s, tid, t, hsource, hk₁, hvalid⟩, hg',
            htype ▸ hs, href, by simp⟩)
        | none =>
          have hnot := hsettled.not_validKey hk href
          exact .inr (.inr ⟨h.sourceRejected_of_faulty hsource hk hnot, by simp⟩)

/-- A structure-typed field comes to this stage as it was declared. -/
theorem field?_keyed_struct (hf : m.field? id = some f) (hr : f.type = .struct r) :
    m.keyed.field? id = some f := by
  have htype : f.type.resolveValue (.ofModel m) = f.type := by
    rw [hr]
    rfl
  have hkey : f.foreign = none := ((h.keyRead hf).struct hr).1
  rw [field?_keyed, field?_typed, hf, Option.map_some, Option.map_some, htype]
  show some (f.resolveForeign (.ofModel m) m.typed id) = some f
  simp only [Field.resolveForeign, hkey]

omit h in
theorem blamedAt_iff (hf : m.field? id = some f) (hr : f.type = .struct r) :
    m.BlamedAt id.index ↔ ∃ q, m.SourceFault f r q := by
  constructor
  · rintro ⟨f', r', q, hf', hr', hq⟩
    obtain rfl := Option.some.inj (hf.symm.trans hf')
    obtain rfl := FieldType.struct.inj (hr.symm.trans hr')
    exact ⟨q, hq⟩
  · rintro ⟨q, hq⟩
    exact ⟨f, r, q, hf, hr, hq⟩

/-- What is reported of the field is what is wrong with its name. -/
theorem structProblems_cases (hf : m.field? id = some f) (hr : f.type = .struct r) :
    m.BlamedAt id.index ∧ (∃ d, f.structProblems (.ofModel m) m.keyed = [d] ∧
        m.BlamesSource id.index d) ∨
      ¬ m.BlamedAt id.index ∧ f.structProblems (.ofModel m) m.keyed = [] := by
  rw [blamedAt_iff hf hr]
  simp only [Field.structProblems, hr]
  rcases h.structSource_cases f r with
    ⟨q, hq, heq⟩ | ⟨gid, g, ref, hhas, -, -, -, heq⟩ | ⟨hbad, heq⟩
  · rw [heq]
    exact .inl ⟨⟨q, hq⟩, _, rfl, f, r, q, hf, hr, hq, rfl⟩
  · rw [heq]
    exact .inr ⟨not_exists.2 fun q => hhas.not_sourceFault, rfl⟩
  · rw [heq]
    exact .inr ⟨not_exists.2 fun q => hbad.not_sourceFault, rfl⟩

/-- There is one error for every structure-typed field to blame, and no other one. -/
theorem oneEach_structFieldProblems :
    (structFieldProblems (.ofModel m) m.keyed).OneEach m.BlamedAt m.BlamesSource := by
  have hzip : structFieldProblems (.ofModel m) m.keyed =
      m.keyed.fields.toList.zipIdx.flatMap fun e => e.1.structProblems (.ofModel m) m.keyed := by
    rw [structFieldProblems]
    conv_lhs => rw [← List.zipIdx_map_fst 0 m.keyed.fields.toList]
    rw [List.flatMap_map]
  rw [hzip]
  refine (Diagnostics.oneEach_zipIdx (P := fun n _ => m.BlamedAt n) fun {n f'} hn => ?_).congr
    fun n => ?_
  · have hf' : m.keyed.field? ⟨n⟩ = some f' := by simpa [field?] using hn
    obtain ⟨f, hf, htype⟩ := field?_of_keyed hf'
    cases hs : f.type.isStruct with
    | true =>
      obtain ⟨r, hr⟩ := FieldType.exists_of_isStruct hs
      obtain rfl := Option.some.inj ((h.field?_keyed_struct hf hr).symm.trans hf')
      exact h.structProblems_cases hf hr
    | false =>
      refine .inr ⟨?_, ?_⟩
      · rintro ⟨g, r, q, hg, hr, -⟩
        obtain rfl := Option.some.inj (hf.symm.trans hg)
        rw [hr] at hs
        cases hs
      · rw [hs] at htype
        simp only [Field.structProblems]
        split
        · rename_i r hr
          rw [hr] at htype
          cases htype
        · rfl
  · constructor
    · rintro ⟨_, _, hbad⟩
      exact hbad
    · rintro ⟨f, r, q, hf, hr, hq⟩
      have := h.field?_keyed_struct hf hr
      exact ⟨f, by simpa [field?] using this, f, r, q, hf, hr, hq⟩

/-- A structure-typed field once everything is resolved. -/
theorem sourceSettled (hf : m.field? id = some f) (hr : f.type = .struct r) :
    ∃ f', m.resolved.field? id = some f' ∧ m.SourceSettled id f r f' := by
  have hresolved : ∀ id, m.resolved.field? id = m.walkable.field? id := fun _ => rfl
  refine ⟨f.resolveStruct (.ofModel m) m.keyed, ?_, ?_⟩
  · rw [hresolved, field?_walkable, h.field?_keyed_struct hf hr, Option.map_some]
  have hfresh : r.target = none ∧ f.reference = none :=
    ⟨((h.keyRead hf).struct hr).2, h.unlinked id f hf⟩
  have hblamed := blamedAt_iff hf hr
  simp only [Field.resolveStruct, hr]
  rcases h.structSource_cases f r with
    ⟨q, hq, heq⟩ | ⟨gid, g, ref, hhas, hg, hs, href, heq⟩ | ⟨hbad, heq⟩
  · have hnot : ¬ ∃ gid, m.HasSource f r gid :=
      not_exists.2 fun gid hhas => hhas.not_sourceFault hq
    rw [heq]
    exact ⟨hfresh, fun gid hhas => (hnot ⟨gid, hhas⟩).elim, fun _ => rfl,
      .inr ⟨hnot, .inl ⟨hblamed.2 ⟨q, hq⟩, fun hbad => hbad.not_sourceFault hq⟩⟩⟩
  · rw [heq]
    refine ⟨hfresh, fun gid' hhas' => ?_, fun hnot => (hnot ⟨gid, hhas⟩).elim,
      .inl ⟨⟨gid, hhas⟩, ?_, ?_⟩⟩
    · obtain rfl : gid' = gid := hhas'.unique hhas
      refine ⟨g, ref, ?_, href, rfl⟩
      rw [hresolved, field?_walkable, hg, Option.map_some, resolveStruct_of_not_isStruct hs]
    · rw [hblamed, not_exists]
      exact fun q => hhas.not_sourceFault
    · exact h.not_sourceRejected hhas
  · have hnot : ¬ ∃ gid, m.HasSource f r gid :=
      not_exists.2 fun gid hhas => h.not_sourceRejected hhas hbad
    rw [heq]
    refine ⟨hfresh, fun gid hhas => (hnot ⟨gid, hhas⟩).elim, fun _ => rfl,
      .inr ⟨hnot, .inr ⟨?_, hbad⟩⟩⟩
    rw [hblamed, not_exists]
    exact fun q => hbad.not_sourceFault

end Fresh

end Model

/-! ### documents -/

/-- In a run on documents every structure-typed field is bound or blamed once. There is one error of
its own stage for every field to blame. The error of a rejected key has come before: one for every
key that could not be read, and one for every faulty one. -/
structure SourceSet.SourcesSettled (set : SourceSet) : Prop where
  fields : ∀ {id f r}, set.model.field? id = some f → f.type = .struct r →
    ∃ f', set.model.resolved.field? id = some f' ∧ set.model.SourceSettled id f r f'
  blamed : (structFieldProblems (.ofModel set.model) set.model.keyed).OneEach set.model.BlamedAt
    set.model.BlamesSource
  unreadable : set.diagnostics.malformedTargets.OneEach set.model.UnreadableAt
    set.model.BlamesTarget
  faulty : (foreignKeyProblems (.ofModel set.model) set.model.typed).OneEach
    set.model.typed.FaultyAt set.model.typed.BlamesKey
  found : foreignKeyProblems (.ofModel set.model) set.model.typed ++
    structFieldProblems (.ofModel set.model) set.model.keyed <:+:
      (resolve (.ofModel set.model) set.model).2

theorem SourceSet.Reached.fresh {set : SourceSet} (h : set.Reached) : set.model.Fresh :=
  ⟨fun _ _ hf => h.sound.unlinked hf, fun hf => h.keysRead.fields hf⟩

/-- However documents were entered, and whether or not they link, every structure-typed field is
bound or blamed once. -/
theorem sources_settled {set : SourceSet} (h : set.Reached) : set.SourcesSettled where
  fields := h.fresh.sourceSettled
  blamed := h.fresh.oneEach_structFieldProblems
  unreadable := h.keysRead.reported
  faulty := set.model.oneEach_keyed
  found := by
    let m := set.model
    refine ⟨enumProblems (numberEnums m) ++ bitfieldProblems (numberEnums m) ++
        allRowidProblems (numberEnums m) ++
        valueTypeProblems (.ofModel m) (resolveRowids (numberEnums m)),
      validationProblems m.walkable ++ queryProblems (.ofModel m) m.walkable, ?_⟩
    simp only [resolve, List.append_assoc]
    rfl

/-- Fields with a valid key, one that cannot be read and a faulty one, and structure-typed fields
that go through these, through none, through one another and through a field without key. -/
def deedDocument : Decl.Document where
  structs := [
    { name := "deed", place := none, doc := none
      fields := [
        { Decl.Field.bare "id" (.plain .int) none with rowid := true },
        { Decl.Field.bare "kept" (.plain .int) none with
          references := some ⟨"deed.id", .cascade, .cascade⟩ },
        { Decl.Field.bare "torn" (.plain .int) none with
          references := some ⟨"deed", .cascade, .cascade⟩ },
        { Decl.Field.bare "lost" (.plain .int) none with
          references := some ⟨"deed.seal", .cascade, .cascade⟩ },
        .bare "whole" .struct (some "KEPT"),
        .bare "scrap" .struct (some "torn"),
        .bare "gap" .struct (some "lost"),
        .bare "rumour" .struct (some "nobody"),
        .bare "copy" .struct (some "whole"),
        .bare "blank" .struct (some "id")]
      searches := [], updates := [], deletes := [], insert := none, uniques := [] }]
  enums := []
  bitfields := []
  roles := []

/-- Of the structure-typed fields of a deed one is bound, two go through rejected keys, each of
which has one error, and the other three have one error each. -/
theorem sources_settled_deeds :
    let set := SourceSet.ofDocuments [("deeds", deedDocument)]
    set.SourcesSettled ∧ set.model.resolved.fields.toList.map (fun f => f.reference.isSome) =
        [false, true, false, false, true, false, false, false, false, false] ∧
      set.diagnostics.map Diagnostic.message = ["malformed reference target: deed"] ∧
      (foreignKeyProblems (.ofModel set.model) set.model.typed).map Diagnostic.message =
        ["unknown reference target field: deed.seal"] ∧
      (structFieldProblems (.ofModel set.model) set.model.keyed).map Diagnostic.message =
        ["unknown struct source field: nobody", "struct source field is itself a struct: whole",
          "struct source field has no foreign key: id"] := by
  refine ⟨sources_settled (SourceSet.reached_ofDocuments _), ?_, ?_, ?_, ?_⟩
  · simp only [Model.resolved, Namespace.ofModel_eq_scan]
    decide +kernel
  · decide +kernel
  · simp only [Model.typed, Namespace.ofModel_eq_scan]
    decide +kernel
  · simp only [Model.keyed, Model.typed, Namespace.ofModel_eq_scan]
    decide +kernel

end ModelLinker
