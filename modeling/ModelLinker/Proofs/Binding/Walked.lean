import Mathlib.Tactic.ByContra
import ModelLinker.Proofs.Binding.Paths

/-!
# What the walker of paths accepts

A path is followed from the structure that it belongs to. Every segment but the last has to step
into the structure that the named field embeds, and the last has to name a field that is not
structure-typed (`Model.WellTyped`). Paths, projections and local fields differ in where they may
end. Each is bound if it is well typed, and otherwise there is one error, at the first segment that
fails (`Model.Walker`).
-/

namespace ModelLinker

namespace Model

/-! ### chains of fields -/

section Chains

variable (m : Model)

/-- The segment names a structure-typed field of the structure `s`, with a reference to a field of
the structure `t`. -/
def StepsInto (s : StructId) (r : NameRef FieldId) (id : FieldId) (t : StructId) : Prop :=
  m.findField? s r.name = some id ∧
    ∃ f k g, m.field? id = some f ∧ f.type.isStruct = true ∧ f.reference = some k ∧
      m.field? k.target = some g ∧ g.parent = t

/-- The segment names a field of the structure that is not structure-typed. -/
def NamesPlain (s : StructId) (r : NameRef FieldId) (id : FieldId) : Prop :=
  m.findField? s r.name = some id ∧ ∃ f, m.field? id = some f ∧ f.type.isStruct = false

/-- The segment names a structure-typed field of the structure. -/
def NamesStruct (s : StructId) (r : NameRef FieldId) (id : FieldId) : Prop :=
  m.findField? s r.name = some id ∧ ∃ f, m.field? id = some f ∧ f.type.isStruct = true

/-- The segments name these fields one after another, and each steps into the next structure. -/
inductive Follows : StructId → List (NameRef FieldId) → List FieldId → StructId → Prop where
  | nil {s} : Follows s [] [] s
  | step {s r id t rest ids u} : m.StepsInto s r id t → Follows t rest ids u →
      Follows s (r :: rest) (id :: ids) u

/-- The segments name these fields one after another, and each steps into the next structure but
the last, which names a field that is not structure-typed. -/
inductive WellTyped : StructId → List (NameRef FieldId) → List FieldId → Prop where
  | last {s r id} : m.NamesPlain s r id → WellTyped s [r] [id]
  | step {s r id t rest ids} : m.StepsInto s r id t → WellTyped t rest ids →
      WellTyped s (r :: rest) (id :: ids)

/-! ### segments that fail -/

/-- A segment of a path that fails, with the segments after it: how it is left, and the error. -/
inductive PathFault (use : PathUse) (dotted : String) (s : StructId) (r : NameRef FieldId)
    (rest : List (NameRef FieldId)) : NameRef FieldId → ResolveProblem → Prop where
  | unknown : m.findField? s r.name = none →
      PathFault use dotted s r rest r (.unknownPathField use dotted)
  | through {id} : m.findField? s r.name = some id → (∀ t, ¬ m.StepsInto s r id t) → rest ≠ [] →
      PathFault use dotted s r rest (r.bind id) (.pathThroughPlainField use dotted)
  | struct {id} : m.NamesStruct s r id → rest = [] →
      PathFault use dotted s r rest (r.bind id) (.pathToStruct use dotted)

/-- A segment of a projection that fails: how it is left, and the error. -/
inductive DistinctFault (s : StructId) (r : NameRef FieldId) :
    NameRef FieldId → ResolveProblem → Prop where
  | unknown : m.findField? s r.name = none → DistinctFault s r r (.unknownDistinctField r.name)
  | through {id} : m.findField? s r.name = some id → (∀ t, ¬ m.StepsInto s r id t) →
      DistinctFault s r (r.bind id) (.distinctThroughPlainField r.name)

/-- A local field that fails, and the error. -/
inductive LocalFault (use : LocalUse) (s : StructId) (r : NameRef FieldId) :
    ResolveProblem → Prop where
  | unknown : m.findField? s r.name = none → LocalFault use s r (.unknownLocalField use r.name)
  | struct {id} : m.NamesStruct s r id → LocalFault use s r (.localStructField use r.name)

end Chains

variable {m : Model} {s u : StructId} {r : NameRef FieldId} {id : FieldId}
  {path front : List (NameRef FieldId)} {ids : List FieldId}

/-- A field that a structure has is structure-typed or not. -/
theorem namesPlain_or_namesStruct (h : m.findField? s r.name = some id) :
    m.NamesPlain s r id ∨ m.NamesStruct s r id := by
  obtain ⟨f, hf⟩ := field?_of_findField? h
  cases hs : f.type.isStruct with
  | false => exact .inl ⟨h, f, hf, hs⟩
  | true => exact .inr ⟨h, f, hf, hs⟩

theorem stepsInto_iff_step? {t : StructId} (h : m.findField? s r.name = some id) :
    m.StepsInto s r id t ↔ m.step? id = some t := by
  obtain ⟨f, hf⟩ := field?_of_findField? h
  simp only [StepsInto, h, step?, hf, embedded?, Option.bind_some, true_and, Option.some.injEq]
  cases hs : f.type.isStruct with
  | false => simp [hs]
  | true => simp [hs, Option.bind_eq_some_iff]

/-- The segments of a path can be followed to the end, or there is a first one that does not step
anywhere. -/
theorem follows_or_stops (m : Model) (s : StructId) (path : List (NameRef FieldId)) :
    (∃ ids u, m.Follows s path ids u) ∨
      ∃ front ids u r rest, path = front ++ r :: rest ∧ m.Follows s front ids u ∧
        ∀ id t, ¬ m.StepsInto u r id t := by
  induction path generalizing s with
  | nil => exact .inl ⟨[], s, .nil⟩
  | cons r rest ih =>
    by_cases hstep : ∃ id t, m.StepsInto s r id t
    · obtain ⟨id, t, hstep⟩ := hstep
      rcases ih t with ⟨ids, u, hrest⟩ | ⟨front, ids, u, r', rest', rfl, hfront, hstop⟩
      · exact .inl ⟨id :: ids, u, .step hstep hrest⟩
      · exact .inr ⟨r :: front, id :: ids, u, r', rest', rfl, .step hstep hfront, hstop⟩
    · exact .inr ⟨[], [], s, r, rest, rfl, .nil, fun id t h => hstep ⟨id, t, h⟩⟩

theorem Follows.wellTyped_concat (h : m.Follows s front ids u) (hend : m.NamesPlain u r id) :
    m.WellTyped s (front ++ [r]) (ids ++ [id]) := by
  induction h with
  | nil => exact .last hend
  | step hstep _ ih => exact .step hstep (ih hend)

/-- A segment that steps nowhere fails. -/
theorem exists_distinctFault (hstop : ∀ id t, ¬ m.StepsInto u r id t) :
    ∃ r' q, m.DistinctFault u r r' q := by
  cases hfound : m.findField? u r.name with
  | none => exact ⟨r, _, .unknown hfound⟩
  | some id => exact ⟨r.bind id, _, .through hfound (hstop id)⟩

/-- A path is well typed, or there is a first segment that fails. -/
theorem wellTyped_or_fault (use : PathUse) (dotted : String) (hne : path ≠ []) :
    (∃ ids, m.WellTyped s path ids) ∨
      ∃ front ids u r rest r' q, path = front ++ r :: rest ∧ m.Follows s front ids u ∧
        m.PathFault use dotted u r rest r' q := by
  obtain ⟨front, last, rfl⟩ := (List.eq_nil_or_concat path).resolve_left hne
  rw [List.concat_eq_append]
  rcases m.follows_or_stops s front with ⟨ids, u, hfront⟩ | ⟨front, ids, u, r, rest, rfl, h, hstop⟩
  · cases hfound : m.findField? u last.name with
    | none => exact .inr ⟨front, ids, u, last, [], last, _, rfl, hfront, .unknown hfound⟩
    | some id =>
      rcases namesPlain_or_namesStruct hfound with hend | hstruct
      · exact .inl ⟨ids ++ [id], hfront.wellTyped_concat hend⟩
      · exact .inr ⟨front, ids, u, last, [], last.bind id, _, rfl, hfront, .struct hstruct rfl⟩
  · refine .inr ⟨front, ids, u, r, rest ++ [last], ?_⟩
    cases hfound : m.findField? u r.name with
    | none => exact ⟨r, _, by simp, h, .unknown hfound⟩
    | some id => exact ⟨r.bind id, _, by simp, h, .through hfound (hstop id) (by simp)⟩

end Model

/-! ### the walker -/

/-- The segments bound to these fields one by one. -/
def bindAll (path : List (NameRef FieldId)) (ids : List FieldId) : List (NameRef FieldId) :=
  List.zipWith NameRef.bind path ids

namespace Model

/-- What the walker makes of paths, projections and local fields. A path of one or more segments is
accepted exactly if it is well typed, and a projection exactly if all of its segments can be
followed; then every segment is bound to the field it names. Otherwise the first segment that
fails gives the only error: the segments before it are bound, and those after it, the target of
the projection and a local field that fails are left as they are. -/
structure Walker (names : Namespace) (m : Model) : Prop where
  path_accepts : ∀ use s p, p.segments ≠ [] →
    ((resolvePath names m use s p).2 = [] ↔ ∃ ids, m.WellTyped s p.segments ids)
  path_bound : ∀ use s p ids, m.WellTyped s p.segments ids →
    resolvePath names m use s p = ({ p with segments := bindAll p.segments ids }, [])
  path_fault : ∀ use s p, p.segments ≠ [] → (¬ ∃ ids, m.WellTyped s p.segments ids) →
    ∃ front ids u r rest r' q, p.segments = front ++ r :: rest ∧ m.Follows s front ids u ∧
      m.PathFault use p.dotted u r rest r' q ∧
      resolvePath names m use s p =
        ({ p with segments := bindAll front ids ++ r' :: rest }, [(Cause.resolve q).at r.pos])
  distinct_accepts : ∀ s d,
    ((resolveDistinct names m s d).2 = [] ↔ ∃ ids u, m.Follows s d.path ids u)
  distinct_bound : ∀ s d ids u, m.Follows s d.path ids u →
    resolveDistinct names m s d =
      ({ d with path := bindAll d.path ids, target := some u }, [])
  distinct_fault : ∀ s d, (¬ ∃ ids u, m.Follows s d.path ids u) →
    ∃ front ids u r rest r' q, d.path = front ++ r :: rest ∧ m.Follows s front ids u ∧
      m.DistinctFault u r r' q ∧
      resolveDistinct names m s d =
        ({ d with path := bindAll front ids ++ r' :: rest }, [(Cause.resolve q).at r.pos])
  local_accepts : ∀ use s r, ((resolveLocal names m use s r).2 = [] ↔ ∃ id, m.NamesPlain s r id)
  local_bound : ∀ use s r id, m.NamesPlain s r id → resolveLocal names m use s r = (r.bind id, [])
  local_fault : ∀ use s r, (¬ ∃ id, m.NamesPlain s r id) →
    ∃ q, m.LocalFault use s r q ∧
      resolveLocal names m use s r = (r, [(Cause.resolve q).at r.pos])

section Walk

variable {names : Namespace} {m : Model} {s u : StructId} {r r' : NameRef FieldId}
  {id : FieldId} {path front rest : List (NameRef FieldId)} {ids : List FieldId}
  {q : ResolveProblem} {use : PathUse} {dotted : String}

theorem isStructField_of_namesPlain (h : m.NamesPlain s r id) : m.isStructField id = false := by
  obtain ⟨-, f, hf, hs⟩ := h
  simp [isStructField, hf, hs]

theorem isStructField_of_namesStruct (h : m.NamesStruct s r id) : m.isStructField id = true := by
  obtain ⟨-, f, hf, hs⟩ := h
  simp [isStructField, hf, hs]

theorem step?_eq_none (h : m.findField? s r.name = some id) (hstop : ∀ t, ¬ m.StepsInto s r id t) :
    m.step? id = none :=
  Option.eq_none_iff_forall_ne_some.2 fun t ht => hstop t ((stepsInto_iff_step? h).2 ht)

variable (hnames : names.field? = m.findField?)
include hnames

/-- One step of the walk. -/
theorem walkPath_step {t : StructId} (h : m.StepsInto s r id t) (hrest : rest ≠ []) :
    walkPath names m use dotted s (r :: rest) =
      (r.bind id :: (walkPath names m use dotted t rest).1,
        (walkPath names m use dotted t rest).2) := by
  simp [walkPath, hnames, h.1, (stepsInto_iff_step? h.1).1 h, hrest]

theorem walkPath_of_wellTyped (h : m.WellTyped s path ids) :
    walkPath names m use dotted s path = (bindAll path ids, []) := by
  induction h with
  | last hend => simp [walkPath, hnames, hend.1, isStructField_of_namesPlain hend, bindAll]
  | step hstep hrest ih =>
    rw [walkPath_step hnames hstep (by cases hrest <;> simp), ih]
    rfl

theorem walkPath_of_fault (h : m.Follows s front ids u)
    (hfault : m.PathFault use dotted u r rest r' q) :
    walkPath names m use dotted s (front ++ r :: rest) =
      (bindAll front ids ++ r' :: rest, [(Cause.resolve q).at r.pos]) := by
  induction h with
  | nil =>
    cases hfault with
    | unknown hfound => simp [walkPath, hnames, hfound, bindAll]
    | through hfound hstop hrest =>
      simp [walkPath, hnames, hfound, step?_eq_none hfound hstop, hrest, bindAll]
    | struct hstruct hrest =>
      simp [walkPath, hnames, hstruct.1, isStructField_of_namesStruct hstruct, hrest, bindAll]
  | step hstep _ ih =>
    rw [List.cons_append, walkPath_step hnames hstep (by simp), ih hfault]
    rfl

theorem walkDistinct_of_follows (h : m.Follows s path ids u) :
    walkDistinct names m s path = (bindAll path ids, .ok u) := by
  induction h with
  | nil => rfl
  | step hstep _ ih =>
    simp [walkDistinct, hnames, hstep.1, (stepsInto_iff_step? hstep.1).1 hstep, ih, bindAll]

theorem walkDistinct_of_fault (h : m.Follows s front ids u) (hfault : m.DistinctFault u r r' q) :
    walkDistinct names m s (front ++ r :: rest) =
      (bindAll front ids ++ r' :: rest, .error ((Cause.resolve q).at r.pos)) := by
  induction h with
  | nil =>
    cases hfault with
    | unknown hfound => simp [walkDistinct, hnames, hfound, bindAll]
    | through hfound hstop =>
      simp [walkDistinct, hnames, hfound, step?_eq_none hfound hstop, bindAll]
  | step hstep _ ih =>
    simp [walkDistinct, hnames, hstep.1, (stepsInto_iff_step? hstep.1).1 hstep, ih hfault, bindAll]

theorem resolveLocal_of_namesPlain {use : LocalUse} (h : m.NamesPlain s r id) :
    resolveLocal names m use s r = (r.bind id, []) := by
  simp [resolveLocal, hnames, h.1, isStructField_of_namesPlain h]

theorem resolveLocal_of_fault {use : LocalUse} (h : m.LocalFault use s r q) :
    resolveLocal names m use s r = (r, [(Cause.resolve q).at r.pos]) := by
  cases h with
  | unknown hfound => simp [resolveLocal, hnames, hfound]
  | struct hstruct => simp [resolveLocal, hnames, hstruct.1, isStructField_of_namesStruct hstruct]

omit hnames in
theorem namesPlain_or_fault (use : LocalUse) (s : StructId) (r : NameRef FieldId) :
    (∃ id, m.NamesPlain s r id) ∨ ∃ q, m.LocalFault use s r q := by
  cases hfound : m.findField? s r.name with
  | none => exact .inr ⟨_, .unknown hfound⟩
  | some id =>
    rcases namesPlain_or_namesStruct hfound with hend | hstruct
    · exact .inl ⟨id, hend⟩
    · exact .inr ⟨_, .struct hstruct⟩

theorem resolvePath_of_wellTyped {p : FieldPath} (h : m.WellTyped s p.segments ids) :
    resolvePath names m use s p = ({ p with segments := bindAll p.segments ids }, []) := by
  rw [resolvePath, walkPath_of_wellTyped hnames h]

theorem exists_resolvePath_fault {p : FieldPath} (hne : p.segments ≠ [])
    (h : ¬ ∃ ids, m.WellTyped s p.segments ids) :
    ∃ front ids u r rest r' q, p.segments = front ++ r :: rest ∧ m.Follows s front ids u ∧
      m.PathFault use p.dotted u r rest r' q ∧
      resolvePath names m use s p =
        ({ p with segments := bindAll front ids ++ r' :: rest }, [(Cause.resolve q).at r.pos]) := by
  obtain ⟨front, ids, u, r, rest, r', q, heq, hfront, hfault⟩ :=
    (wellTyped_or_fault use p.dotted hne).resolve_left h
  refine ⟨front, ids, u, r, rest, r', q, heq, hfront, hfault, ?_⟩
  rw [resolvePath, heq, walkPath_of_fault hnames hfront hfault]

theorem resolveDistinct_of_follows {d : Distinct} (h : m.Follows s d.path ids u) :
    resolveDistinct names m s d =
      ({ d with path := bindAll d.path ids, target := some u }, []) := by
  rw [resolveDistinct, walkDistinct_of_follows hnames h]

theorem exists_resolveDistinct_fault {d : Distinct} (h : ¬ ∃ ids u, m.Follows s d.path ids u) :
    ∃ front ids u r rest r' q, d.path = front ++ r :: rest ∧ m.Follows s front ids u ∧
      m.DistinctFault u r r' q ∧
      resolveDistinct names m s d =
        ({ d with path := bindAll front ids ++ r' :: rest }, [(Cause.resolve q).at r.pos]) := by
  obtain ⟨front, ids, u, r, rest, heq, hfront, hstop⟩ :=
    (m.follows_or_stops s d.path).resolve_left h
  obtain ⟨r', q, hfault⟩ := exists_distinctFault hstop
  refine ⟨front, ids, u, r, rest, r', q, heq, hfront, hfault, ?_⟩
  rw [resolveDistinct, heq, walkDistinct_of_fault hnames hfront hfault]

/-- Names that stand for the fields of the model make the walker accept what it should. -/
theorem walker : m.Walker names where
  path_accepts use s p hne := by
    refine ⟨fun hnil => ?_, fun ⟨ids, h⟩ => by rw [resolvePath_of_wellTyped hnames h]⟩
    by_contra h
    obtain ⟨_, _, _, _, _, _, _, -, -, -, heq⟩ := exists_resolvePath_fault hnames hne h
    rw [heq] at hnil
    cases hnil
  path_bound _ _ _ _ h := resolvePath_of_wellTyped hnames h
  path_fault _ _ _ hne h := exists_resolvePath_fault hnames hne h
  distinct_accepts s d := by
    refine ⟨fun hnil => ?_, fun ⟨ids, u, h⟩ => by rw [resolveDistinct_of_follows hnames h]⟩
    by_contra h
    obtain ⟨_, _, _, _, _, _, _, -, -, -, heq⟩ := exists_resolveDistinct_fault hnames h
    rw [heq] at hnil
    cases hnil
  distinct_bound _ _ _ _ h := resolveDistinct_of_follows hnames h
  distinct_fault _ _ h := exists_resolveDistinct_fault hnames h
  local_accepts use s r := by
    refine ⟨fun hnil => ?_, fun ⟨id, h⟩ => by rw [resolveLocal_of_namesPlain hnames h]⟩
    by_contra h
    obtain ⟨q, hfault⟩ := (namesPlain_or_fault use s r).resolve_left h
    rw [resolveLocal_of_fault hnames hfault] at hnil
    cases hnil
  local_bound _ _ _ _ h := resolveLocal_of_namesPlain hnames h
  local_fault use s r h := by
    obtain ⟨q, hfault⟩ := (namesPlain_or_fault use s r).resolve_left h
    exact ⟨q, hfault, resolveLocal_of_fault hnames hfault⟩

end Walk

end Model

/-- The walker accepts exactly the well-typed chains of fields: in every model with its own names,
and so in a run once structure-typed fields are bound. -/
theorem walker_accepts_wellTyped (m : Model) :
    m.Walker (.ofModel m) ∧ m.walkable.Walker (.ofModel m) := by
  refine ⟨Model.walker (Namespace.field?_ofModel m), Model.walker ?_⟩
  rw [← Namespace.ofModel_congr Model.asDeclared_walkable, Namespace.field?_ofModel]

end ModelLinker
