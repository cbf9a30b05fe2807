import ModelLinker.Proofs.Merged.Fields
import ModelLinker.Proofs.Renumber.Queries

/-!
# Resolving the operations of a greater model

A path that can be walked in the smaller model is walked in the greater one through the same
structures, under new numbers. So operations and constraints that nothing is wrong with resolve in
both models alike.
-/

namespace ModelLinker

/-! ### lists of parts -/

section Resolve

variable {α : Type} {g : α → α} {f f' : α → α × Diagnostics}
  (h : ∀ x, Diagnostics.isOk (f x).2 = true → f' (g x) = renamed g (f x))

include h

/-- Parts that nothing is wrong with resolve alike, one by one. -/
theorem resolveAll_of_isOk {xs : List α} (hok : Diagnostics.isOk (resolveAll f xs).2 = true) :
    resolveAll f' (xs.map g) = renamed (List.map g) (resolveAll f xs) := by
  simp only [resolveAll, Diagnostics.isOk_flatMap] at hok
  have heach : ∀ x ∈ xs, f' (g x) = renamed g (f x) := fun x hx => h x (hok x hx)
  simp only [resolveAll, renamed, List.map_map, List.flatMap_map, Prod.mk.injEq]
  constructor
  · exact List.map_congr_left fun x hx => congrArg Prod.fst (heach x hx)
  · refine List.flatMap_congr fun x hx => ?_
    rw [heach x hx]
    rfl

theorem resolveOption_of_isOk {x : Option α}
    (hok : Diagnostics.isOk (resolveOption f x).2 = true) :
    resolveOption f' (x.map g) = renamed (Option.map g) (resolveOption f x) := by
  cases x with
  | none => rfl
  | some x =>
    simp only [resolveOption, Option.toList_some, List.flatMap_singleton] at hok
    simp [resolveOption, renamed, h x hok]

end Resolve

/-- The fields that names stand for are fields of the model. -/
def Namespace.FieldsExist (names : Namespace) (m : Model) : Prop :=
  ∀ {s n id}, names.field? s n = some id → ∃ f, m.field? id = some f

theorem Namespace.fieldsExist_ofModel {m m' : Model} (h : m'.asDeclared = m.asDeclared) :
    (ofModel m).FieldsExist m' := by
  intro s n id hid
  rw [← ofModel_congr h] at hid
  obtain ⟨f, hf, -⟩ := field?_some hid
  exact ⟨f, Model.field?_of_mem_fieldsOf hf⟩

namespace Model.Within

variable {ρ : Renumbering} {m w : Model} {names names' : Namespace}

theorem step? (h : m.Within ρ w) {id : FieldId} {t : StructId} (ht : m.step? id = some t) :
    w.step? (ρ.field id) = some (ρ.struct t) := by
  obtain ⟨f, hf, ht⟩ := Option.bind_eq_some_iff.1 ht
  exact Option.bind_eq_some_iff.2 ⟨_, h.field? hf, h.embedded? ht⟩

theorem isStructField (h : m.Within ρ w) {id : FieldId} {f : Field} (hf : m.field? id = some f) :
    w.isStructField (ρ.field id) = m.isStructField id := by
  simp [Model.isStructField, hf, h.field? hf]

section Paths

variable (h : m.Within ρ w) (hn : names.Within ρ names') (hex : names.FieldsExist m)

include h hn hex

/-! ### paths -/

theorem walkPath {use : PathUse} {dotted : String} {s : StructId} {path : List (NameRef FieldId)}
    (hok : Diagnostics.isOk (walkPath names m use dotted s path).2 = true) :
    walkPath names' w use dotted (ρ.struct s) (path.map (NameRef.rename ρ.field)) =
      renamed (List.map (NameRef.rename ρ.field))
        (ModelLinker.walkPath names m use dotted s path) := by
  induction path generalizing s with
  | nil => rfl
  | cons r rest ih =>
    unfold ModelLinker.walkPath at hok ⊢
    cases hid : names.field? s r.name with
    | none => simp [hid] at hok
    | some id =>
      obtain ⟨f, hf⟩ := hex hid
      simp only [hid] at hok
      simp only [List.map_cons, NameRef.rename_name, NameRef.rename_pos, hn.field? hid,
        List.isEmpty_map, h.isStructField hf]
      split
      · rfl
      · rename_i hlast
        rw [if_neg hlast] at hok
        cases hstep : m.step? id with
        | none => simp [hstep] at hok
        | some next =>
          simp only [hstep] at hok
          simp only [h.step? hstep, ih hok]
          rfl

theorem resolvePath {use : PathUse} {s : StructId} {p : FieldPath}
    (hok : Diagnostics.isOk (resolvePath names m use s p).2 = true) :
    resolvePath names' w use (ρ.struct s) (p.rename ρ) =
      renamed (FieldPath.rename ρ) (ModelLinker.resolvePath names m use s p) := by
  have hdotted : (p.rename ρ).dotted = p.dotted := by
    simp [FieldPath.dotted, FieldPath.dottedNames, FieldPath.rename, Function.comp_def]
  have hwalk := h.walkPath hn hex hok
  simp only [ModelLinker.resolvePath, hdotted]
  change ((fun x : List (NameRef FieldId) × Diagnostics =>
    ({ p.rename ρ with segments := x.1 }, x.2)) (ModelLinker.walkPath names' w use p.dotted
      (ρ.struct s) (p.segments.map (NameRef.rename ρ.field)))) = _
  rw [hwalk]
  rfl

omit hex in
theorem walkDistinct {s u : StructId} {path bound : List (NameRef FieldId)}
    (hok : walkDistinct names m s path = (bound, .ok u)) :
    walkDistinct names' w (ρ.struct s) (path.map (NameRef.rename ρ.field)) =
      (bound.map (NameRef.rename ρ.field), .ok (ρ.struct u)) := by
  induction path generalizing s bound with
  | nil =>
    obtain ⟨rfl, hu⟩ := Prod.mk.inj hok
    cases hu
    rfl
  | cons r rest ih =>
    unfold ModelLinker.walkDistinct at hok
    cases hid : names.field? s r.name with
    | none => simp [hid] at hok
    | some id =>
      cases hstep : m.step? id with
      | none => simp [hid, hstep] at hok
      | some next =>
        simp only [hid, hstep, Prod.mk.injEq] at hok
        obtain ⟨rfl, hu⟩ := hok
        have hrest := ih (Prod.ext rfl hu)
        simp only [List.map_cons, ModelLinker.walkDistinct, NameRef.rename_name, hn.field? hid,
          h.step? hstep, hrest]
        rfl

omit hex in
theorem resolveDistinct {s : StructId} {d : Distinct}
    (hok : Diagnostics.isOk (resolveDistinct names m s d).2 = true) :
    resolveDistinct names' w (ρ.struct s) (d.rename ρ) =
      renamed (Distinct.rename ρ) (ModelLinker.resolveDistinct names m s d) := by
  unfold ModelLinker.resolveDistinct at hok ⊢
  have hpath : (d.rename ρ).path = d.path.map (NameRef.rename ρ.field) := rfl
  rcases hwalk : ModelLinker.walkDistinct names m s d.path with ⟨path, problem | target⟩
  · simp [hwalk, isError_walkDistinct hwalk] at hok
  · rw [hpath, h.walkDistinct hn hwalk]
    rfl

theorem resolveLocal {use : LocalUse} {s : StructId} {r : NameRef FieldId}
    (hok : Diagnostics.isOk (resolveLocal names m use s r).2 = true) :
    resolveLocal names' w use (ρ.struct s) (r.rename ρ.field) =
      renamed (NameRef.rename ρ.field) (ModelLinker.resolveLocal names m use s r) := by
  unfold ModelLinker.resolveLocal at hok ⊢
  cases hid : names.field? s r.name with
  | none => simp [hid] at hok
  | some id =>
    obtain ⟨f, hf⟩ := hex hid
    simp only [NameRef.rename_name, hn.field? hid, h.isStructField hf]
    split <;> rfl

/-! ### operations -/

theorem resolveSearch {s : StructId} {x : Search}
    (hok : Diagnostics.isOk (resolveSearch names m s x).2 = true) :
    resolveSearch names' w (ρ.struct s) (x.rename ρ) =
      renamed (Search.rename ρ) (ModelLinker.resolveSearch names m s x) := by
  simp only [ModelLinker.resolveSearch, Diagnostics.isOk_append, Bool.and_eq_true] at hok
  obtain ⟨⟨⟨⟨hparams, horder⟩, haggregate⟩, hgroup⟩, hdistinct⟩ := hok
  simp only [ModelLinker.resolveSearch, Search.rename]
  rw [resolveAll_of_isOk (g := Predicate.rename ρ) (fun x hx => ?_) hparams,
    resolveAll_of_isOk (g := OrderTerm.rename ρ) (fun x hx => ?_) horder,
    resolveOption_of_isOk (g := Aggregate.rename ρ) (fun x hx => ?_) haggregate,
    resolveOption_of_isOk (g := FieldPath.rename ρ) (fun x hx => h.resolvePath hn hex hx) hgroup,
    resolveOption_of_isOk (g := Distinct.rename ρ) (fun x hx => h.resolveDistinct hn hx) hdistinct]
  · rfl
  · simp only [Aggregate.rename, h.resolvePath hn hex hx]
    rfl
  · simp only [OrderTerm.rename, h.resolvePath hn hex hx]
    rfl
  · simp only [Predicate.rename, h.resolvePath hn hex hx]
    rfl

theorem resolveUpdate {s : StructId} {u : Update}
    (hok : Diagnostics.isOk (resolveUpdate names m s u).2 = true) :
    resolveUpdate names' w (ρ.struct s) (u.rename ρ) =
      renamed (Update.rename ρ) (ModelLinker.resolveUpdate names m s u) := by
  have hempty : (u.rename ρ).emptyProblems = u.emptyProblems := by
    simp [Update.emptyProblems, Update.rename]
  simp only [ModelLinker.resolveUpdate, Diagnostics.isOk_append, Bool.and_eq_true] at hok
  obtain ⟨⟨-, hmodifies⟩, hconstraints⟩ := hok
  simp only [ModelLinker.resolveUpdate, hempty]
  simp only [Update.rename]
  rw [resolveAll_of_isOk (g := Modifier.rename ρ) (fun x hx => ?_) hmodifies,
    resolveAll_of_isOk (g := Condition.rename ρ) (fun x hx => ?_) hconstraints]
  · rfl
  · simp only [Condition.rename, h.resolveLocal hn hex hx]
    rfl
  · simp only [Modifier.rename, h.resolveLocal hn hex hx]
    rfl

theorem resolveUnique {s : StructId} {u : Unique}
    (hok : Diagnostics.isOk (resolveUnique names m s u).2 = true) :
    resolveUnique names' w (ρ.struct s) (u.rename ρ) =
      renamed (Unique.rename ρ) (ModelLinker.resolveUnique names m s u) := by
  simp only [ModelLinker.resolveUnique, Unique.rename]
  rw [resolveAll_of_isOk (g := NameRef.rename ρ.field) (fun r hr => h.resolveLocal hn hex hr) hok]
  rfl

/-- A structure whose operations resolve does so in the greater model as well, and to the same. -/
theorem resolveStruct {id : StructId} {s s' : Struct} (hs : s.Within ρ s')
    (hok : Diagnostics.isOk (ModelLinker.resolveStruct names m id s).2 = true) :
    (ModelLinker.resolveStruct names m id s).1.Within ρ
        (ModelLinker.resolveStruct names' w (ρ.struct id) s').1 ∧
      (ModelLinker.resolveStruct names' w (ρ.struct id) s').2 =
        (ModelLinker.resolveStruct names m id s).2 := by
  have hsearches : s'.searches = s.searches.map (Search.rename ρ) := hs.searches
  have hupdates : s'.updates = s.updates.map (Update.rename ρ) := hs.updates
  have huniques : s'.uniques = s.uniques.map (Unique.rename ρ) := hs.uniques
  simp only [ModelLinker.resolveStruct, Diagnostics.isOk_append, Bool.and_eq_true] at hok
  obtain ⟨⟨hok₁, hok₂⟩, hok₃⟩ := hok
  simp only [ModelLinker.resolveStruct, hsearches, hupdates, huniques]
  rw [resolveAll_of_isOk (fun _ => h.resolveSearch hn hex) hok₁,
    resolveAll_of_isOk (fun _ => h.resolveUpdate hn hex) hok₂,
    resolveAll_of_isOk (fun _ => h.resolveUnique hn hex) hok₃]
  exact ⟨{ hs with searches := rfl, updates := rfl, uniques := rfl }, rfl⟩

theorem resolveQueries (hok : Diagnostics.isOk (queryProblems names m) = true) :
    (resolveQueries names m).Within ρ (resolveQueries names' w) :=
  { h with
    owned := h.owned.congr (resolveQueries_asDeclared names m)
    structs := h.structs.mapIdx fun i s _ hs hlike => by
      rw [queryProblems, Diagnostics.isOk_flatMap] at hok
      have hsok := hok (⟨i⟩, s) (mem_indexedStructs.2 hs)
      exact (h.resolveStruct hn hex hlike hsok).1 }

end Paths

end Model.Within

/-! ### what is wrong with the whole -/

namespace Model.Merges

variable {ι : Type} {ρ : ι → Renumbering} {m : ι → Model} {w : Model} {names : ι → Namespace}
  {names' : Namespace}

theorem isOk_queryProblems (h : Merges ρ m w) (hn : ∀ i, (names i).Within (ρ i) names')
    (hex : ∀ i, (names i).FieldsExist (m i))
    (hok : ∀ i, Diagnostics.isOk (queryProblems (names i) (m i)) = true) :
    Diagnostics.isOk (queryProblems names' w) = true := by
  simp only [queryProblems, Diagnostics.isOk_flatMap] at hok ⊢
  rintro ⟨id, s'⟩ hs'
  obtain ⟨i, sid, s, rfl, hs, hlike⟩ := h.struct? (mem_indexedStructs.1 hs')
  have hsok := hok i (sid, s) (mem_indexedStructs.2 hs)
  rw [((h.within i).resolveStruct (hn i) (hex i) hlike hsok).2]
  exact hsok

theorem isOk_uniqueProblems (h : Merges ρ m w)
    (hok : ∀ i, Diagnostics.isOk (uniqueProblems (m i)) = true) :
    Diagnostics.isOk (uniqueProblems w) = true := by
  refine h.structs.isOk_toList (fun i => (h.within i).structs) (fun i s s' _ hlike hs => ?_) hok
  have huniques : s'.uniques = s.uniques.map (Unique.rename (ρ i)) := hlike.uniques
  rwa [huniques, Like.clashProblems_rename]

/-- Resolving takes the whole along with its parts, and finds nothing wrong with it if it finds
nothing wrong with them. -/
theorem resolve (h : Merges ρ m w) (hn : ∀ i, (Namespace.ofModel (m i)).Within (ρ i) (.ofModel w))
    (hok : ∀ i, Diagnostics.isOk (resolve (.ofModel (m i)) (m i)).2 = true) :
    Merges ρ (fun i => (m i).resolved) w.resolved ∧
      Diagnostics.isOk (resolve (.ofModel w) w).2 = true := by
  simp only [ModelLinker.resolve, Diagnostics.isOk_append, Bool.and_eq_true] at hok ⊢
  have hex : ∀ i, (Namespace.ofModel (m i)).FieldsExist (m i).walkable := fun i =>
    Namespace.fieldsExist_ofModel asDeclared_walkable
  have h₁ : Merges ρ (fun i => numberEnums (m i)) (numberEnums w) :=
    h.congr (fun i => numberEnums_asDeclared (m i)) (numberEnums_asDeclared w)
      fun i => (h.within i).numberEnums
  have h₂ : Merges ρ (fun i => resolveRowids (numberEnums (m i))) (resolveRowids (numberEnums w)) :=
    h₁.congr (fun i => resolveRowids_asDeclared _) (resolveRowids_asDeclared _)
      fun i => (h₁.within i).resolveRowids
  have h₃ : Merges ρ (fun i => (m i).typed) w.typed :=
    h₂.congr (fun i => resolveValueTypes_asDeclared _ _) (resolveValueTypes_asDeclared _ _)
      fun i => (h₂.within i).resolveValueTypes (hn i) (hok i).1.1.1.1.2
  have h₄ : Merges ρ (fun i => (m i).keyed) w.keyed :=
    h₃.congr (fun i => resolveForeignKeys_asDeclared _ _) (resolveForeignKeys_asDeclared _ _)
      fun i => (h₃.within i).resolveForeignKeys (hn i) (hok i).1.1.1.2
  have h₅ : Merges ρ (fun i => (m i).walkable) w.walkable :=
    h₄.congr (fun i => resolveStructFields_asDeclared _ _) (resolveStructFields_asDeclared _ _)
      fun i => (h₄.within i).resolveStructFields (hn i) (hok i).1.1.2
  refine ⟨h₅.congr (fun i => resolveQueries_asDeclared _ _) (resolveQueries_asDeclared _ _)
      fun i => (h₅.within i).resolveQueries (hn i) (hex i) (hok i).2, ?_⟩
  exact ⟨⟨⟨⟨⟨⟨⟨h₁.isOk_enumProblems fun i => (hok i).1.1.1.1.1.1.1,
    h₁.isOk_bitfieldProblems fun i => (hok i).1.1.1.1.1.1.2⟩,
    h₁.isOk_allRowidProblems fun i => (hok i).1.1.1.1.1.2⟩,
    h₂.isOk_valueTypeProblems hn fun i => (hok i).1.1.1.1.2⟩,
    h₃.isOk_foreignKeyProblems hn fun i => (hok i).1.1.1.2⟩,
    h₄.isOk_structFieldProblems hn fun i => (hok i).1.1.2⟩,
    h₅.isOk_validationProblems fun i => (hok i).1.2⟩,
    h₅.isOk_queryProblems hn hex fun i => (hok i).2⟩

end Model.Merges

end ModelLinker
