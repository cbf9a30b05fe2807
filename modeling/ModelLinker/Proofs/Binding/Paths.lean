import ModelLinker.Proofs.Binding.Fields

/-!
# Paths and local fields that resolve

`Model.Walks` says that a path can be walked from a structure with every segment bound to the field
it names, `Model.Leads` that a projection leads from one structure to another, and
`Model.BoundToPlain` that a name is bound to a field of the structure itself. The resolver finds
nothing wrong exactly with such names.
-/

namespace ModelLinker

open Text (sameName)

namespace Model

/-- The name is bound to a field of the structure, and the field has this name. -/
structure BoundIn (m : Model) (s : StructId) (r : NameRef FieldId) (id : FieldId) (f : Field) :
    Prop where
  target : r.target = some id
  listed : (id, f) ∈ m.fieldsOf s
  name : sameName f.name r.name = true

/-- The name is bound to a field of the structure that is not structure-typed. -/
def BoundToPlain (m : Model) (s : StructId) (r : NameRef FieldId) : Prop :=
  ∃ id f, m.BoundIn s r id f ∧ f.type.isStruct = false

/-- A path walked from a structure: every segment is bound to a field of the structure reached so
far, every one but the last steps into the structure it embeds, and the last one is not
structure-typed. -/
inductive Walks (m : Model) : StructId → List (NameRef FieldId) → Prop where
  | nil {s} : Walks m s []
  | last {s r id f} : m.BoundIn s r id f → f.type.isStruct = false → Walks m s [r]
  | step {s r id f t rest} : m.BoundIn s r id f → m.embedded? f = some t → rest ≠ [] →
      Walks m t rest → Walks m s (r :: rest)

/-- A chain of structure-typed fields from one structure to another: every segment is bound to a
field of the structure reached so far, and steps into the structure it embeds. -/
inductive Leads (m : Model) : StructId → List (NameRef FieldId) → StructId → Prop where
  | nil {s} : Leads m s [] s
  | step {s r id f t rest u} : m.BoundIn s r id f → m.embedded? f = some t → Leads m t rest u →
      Leads m s (r :: rest) u

/-- Two models with the same fields, and the same of them in every structure. -/
structure SameFields (m m' : Model) : Prop where
  fields : m'.fields = m.fields
  listed : m'.fieldsOf = m.fieldsOf

variable {m m' : Model}

theorem SameFields.symm (h : SameFields m m') : SameFields m' m := ⟨h.fields.symm, h.listed.symm⟩

theorem SameFields.embedded? (h : SameFields m m') : m'.embedded? = m.embedded? := by
  funext f
  simp only [Model.embedded?, field?, h.fields]

theorem SameFields.boundIn (h : SameFields m m') {s r id f} (hb : m.BoundIn s r id f) :
    m'.BoundIn s r id f :=
  ⟨hb.target, h.listed ▸ hb.listed, hb.name⟩

theorem SameFields.walks (h : SameFields m m') {s path} (hw : m.Walks s path) :
    m'.Walks s path := by
  induction hw with
  | nil => exact .nil
  | last hb hs => exact .last (h.boundIn hb) hs
  | step hb he hne _ ih => exact .step (h.boundIn hb) (h.embedded? ▸ he) hne ih

theorem SameFields.leads (h : SameFields m m') {s path u} (hl : m.Leads s path u) :
    m'.Leads s path u := by
  induction hl with
  | nil => exact .nil
  | step hb he _ ih => exact .step (h.boundIn hb) (h.embedded? ▸ he) ih

theorem SameFields.boundToPlain (h : SameFields m m') {s r} (hb : m.BoundToPlain s r) :
    m'.BoundToPlain s r := by
  obtain ⟨id, f, hb, hs⟩ := hb
  exact ⟨id, f, h.boundIn hb, hs⟩

/-- Every segment of a path that can be walked is bound to a field of its name. -/
theorem Walks.segments {s path} (h : m.Walks s path) :
    ∀ r ∈ path, ∃ id f, r.target = some id ∧ m.field? id = some f ∧
      sameName f.name r.name = true := by
  induction h with
  | nil => simp
  | last hb _ =>
    intro r hr
    rw [List.mem_singleton.1 hr]
    exact ⟨_, _, hb.target, field?_of_mem_fieldsOf hb.listed, hb.name⟩
  | step hb _ _ _ ih =>
    intro r hr
    rcases List.mem_cons.1 hr with rfl | hr
    · exact ⟨_, _, hb.target, field?_of_mem_fieldsOf hb.listed, hb.name⟩
    · exact ih r hr

end Model

/-! ### the resolver -/

section Resolver

variable {m : Model}

/-- A name that the index knows, once bound, is bound to the field it names. -/
theorem boundIn_bind {s : StructId} {r : NameRef FieldId} {id : FieldId}
    (h : (Namespace.ofModel m).field? s r.name = some id) :
    ∃ f, m.BoundIn s (r.bind id) id f := by
  obtain ⟨f, hf, hn⟩ := Namespace.field?_some h
  exact ⟨f, rfl, hf, hn⟩

theorem isStructField_of_listed {s : StructId} {r : NameRef FieldId} {id : FieldId} {f : Field}
    (h : m.BoundIn s r id f) : m.isStructField id = f.type.isStruct := by
  simp [Model.isStructField, Model.field?_of_mem_fieldsOf h.listed]

theorem step?_of_listed {s : StructId} {r : NameRef FieldId} {id : FieldId} {f : Field}
    (h : m.BoundIn s r id f) : m.step? id = m.embedded? f := by
  simp [Model.step?, Model.field?_of_mem_fieldsOf h.listed]

theorem walks_walkPath {use : PathUse} {dotted : String} {origin : StructId}
    {path : List (NameRef FieldId)}
    (h : Diagnostics.isOk (walkPath (.ofModel m) m use dotted origin path).2 = true) :
    m.Walks origin (walkPath (.ofModel m) m use dotted origin path).1 := by
  induction path generalizing origin with
  | nil => exact .nil
  | cons r rest ih =>
    unfold walkPath at h ⊢
    cases hn : (Namespace.ofModel m).field? origin r.name with
    | none => simp [hn] at h
    | some id =>
      obtain ⟨f, hb⟩ := boundIn_bind hn
      simp only [hn] at h ⊢
      split
      · rename_i hlast
        simp only [hlast, if_true] at h
        refine .last hb ?_
        cases hs : f.type.isStruct with
        | false => rfl
        | true => simp [isStructField_of_listed hb, hs] at h
      · rename_i hlast
        simp only [hlast] at h
        cases hstep : m.step? id with
        | none => simp [hstep] at h
        | some next =>
          simp only [hstep] at h ⊢
          refine .step hb (step?_of_listed hb ▸ hstep) ?_ (ih h)
          -- the walk keeps the number of segments
          intro hnil
          have := walkPath_asDeclared (.ofModel m) m use dotted next rest
          rw [hnil] at this
          simp_all

theorem leads_walkDistinct {origin u : StructId} {path path' : List (NameRef FieldId)}
    (h : walkDistinct (.ofModel m) m origin path = (path', .ok u)) : m.Leads origin path' u := by
  induction path generalizing origin path' with
  | nil =>
    simp only [walkDistinct, Prod.mk.injEq, Except.ok.injEq] at h
    obtain ⟨rfl, rfl⟩ := h
    exact .nil
  | cons r rest ih =>
    unfold walkDistinct at h
    cases hn : (Namespace.ofModel m).field? origin r.name with
    | none => simp [hn] at h
    | some id =>
      obtain ⟨f, hb⟩ := boundIn_bind hn
      simp only [hn] at h
      cases hstep : m.step? id with
      | none => simp [hstep] at h
      | some next =>
        simp only [hstep, Prod.mk.injEq] at h
        obtain ⟨rfl, hu⟩ := h
        exact .step hb (step?_of_listed hb ▸ hstep) (ih (Prod.ext rfl hu))

theorem isError_walkDistinct {names : Namespace} {origin : StructId} {problem : Diagnostic}
    {path path' : List (NameRef FieldId)}
    (h : walkDistinct names m origin path = (path', .error problem)) : problem.isError = true := by
  induction path generalizing origin path' with
  | nil => simp [walkDistinct] at h
  | cons r rest ih =>
    unfold walkDistinct at h
    split at h
    · simp only [Prod.mk.injEq, Except.error.injEq] at h
      rw [← h.2]
      rfl
    · split at h
      · simp only [Prod.mk.injEq, Except.error.injEq] at h
        rw [← h.2]
        rfl
      · rename_i next _
        simp only [Prod.mk.injEq] at h
        exact @ih next (walkDistinct names m next rest).1 (Prod.ext rfl h.2)

theorem leads_resolveDistinct {origin : StructId} {d : Distinct}
    (h : Diagnostics.isOk (resolveDistinct (.ofModel m) m origin d).2 = true) :
    ∃ u, (resolveDistinct (.ofModel m) m origin d).1.target = some u ∧
      m.Leads origin (resolveDistinct (.ofModel m) m origin d).1.path u := by
  unfold resolveDistinct at h ⊢
  split
  · rename_i path u hw
    exact ⟨u, rfl, leads_walkDistinct hw⟩
  · rename_i path problem hw
    simp [hw, isError_walkDistinct hw] at h

theorem boundToPlain_resolveLocal {use : LocalUse} {origin : StructId} {r : NameRef FieldId}
    (h : Diagnostics.isOk (resolveLocal (.ofModel m) m use origin r).2 = true) :
    m.BoundToPlain origin (resolveLocal (.ofModel m) m use origin r).1 := by
  unfold resolveLocal at h ⊢
  cases hn : (Namespace.ofModel m).field? origin r.name with
  | none => simp [hn] at h
  | some id =>
    obtain ⟨f, hb⟩ := boundIn_bind hn
    simp only [hn] at h ⊢
    cases hs : m.isStructField id with
    | true => simp [hs] at h
    | false => exact ⟨id, f, hb, isStructField_of_listed hb ▸ hs⟩

end Resolver

end ModelLinker
