import ModelLinker.Proofs.Renumber.Fields

/-!
# Resolving the operations of models that are alike

A path walks through structures with new numbers to fields with new numbers; names that fail in one
model fail in the other at the same segment. Hence the operations and constraints of alike models
resolve to alike ones, with the same problems.
-/

namespace ModelLinker

/-- A part with new numbers, and the same problems. -/
def renamed {α : Type} (f : α → α) (x : α × Diagnostics) : α × Diagnostics := (f x.1, x.2)

section Resolve

variable {α : Type} {g : α → α} {f f' : α → α × Diagnostics}

theorem resolveAll_map (h : ∀ x, f' (g x) = renamed g (f x)) (xs : List α) :
    resolveAll f' (xs.map g) = renamed (List.map g) (resolveAll f xs) := by
  simp [resolveAll, renamed, h, List.flatMap_map, Function.comp_def]

theorem resolveOption_map (h : ∀ x, f' (g x) = renamed g (f x)) (x : Option α) :
    resolveOption f' (x.map g) = renamed (Option.map g) (resolveOption f x) := by
  cases x <;> simp [resolveOption, renamed, h]

end Resolve

namespace Model.Like

variable {ρ : Renumbering} {m m' : Model} {names names' : Namespace}

theorem step? (h : m.Like ρ m') (id : FieldId) :
    m'.step? (ρ.field id) = (m.step? id).map ρ.struct := by
  simp only [Model.step?, h.field?]
  cases m.field? id with
  | none => rfl
  | some f => exact h.embedded? f

theorem isStructField (h : m.Like ρ m') (id : FieldId) :
    m'.isStructField (ρ.field id) = m.isStructField id := by
  simp only [Model.isStructField, h.field?]
  cases m.field? id <;> simp

/-! ### paths -/

section Paths

variable (h : m.Like ρ m') (hn : names.Like ρ names')

include h hn

theorem walkPath (use : PathUse) (dotted : String) (s : StructId) (path : List (NameRef FieldId)) :
    walkPath names' m' use dotted (ρ.struct s) (path.map (NameRef.rename ρ.field)) =
      renamed (List.map (NameRef.rename ρ.field))
        (ModelLinker.walkPath names m use dotted s path) := by
  induction path generalizing s with
  | nil => rfl
  | cons r rest ih =>
    simp only [List.map_cons, ModelLinker.walkPath, NameRef.rename_name, NameRef.rename_pos,
      hn.field?, List.isEmpty_map]
    cases names.field? s r.name with
    | none => rfl
    | some id =>
      simp only [Option.map_some, h.isStructField, h.step?]
      split
      · rfl
      · cases m.step? id with
        | none => rfl
        | some next =>
          simp only [Option.map_some, ih next]
          rfl

theorem resolvePath (use : PathUse) (s : StructId) (p : FieldPath) :
    resolvePath names' m' use (ρ.struct s) (p.rename ρ) =
      renamed (FieldPath.rename ρ) (ModelLinker.resolvePath names m use s p) := by
  have hdotted : (p.rename ρ).dotted = p.dotted := by
    simp [FieldPath.dotted, FieldPath.dottedNames, FieldPath.rename, Function.comp_def]
  have hwalk := h.walkPath hn use p.dotted s p.segments
  simp only [ModelLinker.resolvePath, hdotted]
  change ((fun w : List (NameRef FieldId) × Diagnostics =>
    ({ p.rename ρ with segments := w.1 }, w.2)) (ModelLinker.walkPath names' m' use p.dotted
      (ρ.struct s) (p.segments.map (NameRef.rename ρ.field)))) = _
  rw [hwalk]
  rfl

theorem walkDistinct (s : StructId) (path : List (NameRef FieldId)) :
    walkDistinct names' m' (ρ.struct s) (path.map (NameRef.rename ρ.field)) =
      ((ModelLinker.walkDistinct names m s path).1.map (NameRef.rename ρ.field),
        (ModelLinker.walkDistinct names m s path).2.map ρ.struct) := by
  induction path generalizing s with
  | nil => rfl
  | cons r rest ih =>
    simp only [List.map_cons, ModelLinker.walkDistinct, NameRef.rename_name, NameRef.rename_pos,
      hn.field?]
    cases names.field? s r.name with
    | none => rfl
    | some id =>
      simp only [Option.map_some, h.step?]
      cases m.step? id with
      | none => rfl
      | some next =>
        simp only [Option.map_some, ih next]
        rfl

theorem resolveDistinct (s : StructId) (d : Distinct) :
    resolveDistinct names' m' (ρ.struct s) (d.rename ρ) =
      renamed (Distinct.rename ρ) (ModelLinker.resolveDistinct names m s d) := by
  simp only [ModelLinker.resolveDistinct]
  have hwalk := h.walkDistinct hn s d.path
  have hpath : (d.rename ρ).path = d.path.map (NameRef.rename ρ.field) := rfl
  rw [hpath, hwalk]
  rcases ModelLinker.walkDistinct names m s d.path with ⟨path, problem | target⟩ <;> rfl

theorem resolveLocal (use : LocalUse) (s : StructId) (r : NameRef FieldId) :
    resolveLocal names' m' use (ρ.struct s) (r.rename ρ.field) =
      renamed (NameRef.rename ρ.field) (ModelLinker.resolveLocal names m use s r) := by
  simp only [ModelLinker.resolveLocal, NameRef.rename_name, NameRef.rename_pos, hn.field?]
  cases names.field? s r.name with
  | none => rfl
  | some id =>
    simp only [Option.map_some, h.isStructField]
    split <;> rfl

/-! ### operations -/

theorem resolveSearch (s : StructId) (x : Search) :
    resolveSearch names' m' (ρ.struct s) (x.rename ρ) =
      renamed (Search.rename ρ) (ModelLinker.resolveSearch names m s x) := by
  have hpath := fun use p => h.resolvePath hn use s p
  have hdistinct := fun d => h.resolveDistinct hn s d
  simp only [ModelLinker.resolveSearch, Search.rename]
  rw [resolveAll_map (g := Predicate.rename ρ) (fun x => ?_),
    resolveAll_map (g := OrderTerm.rename ρ) (fun x => ?_),
    resolveOption_map (g := Aggregate.rename ρ) (fun x => ?_),
    resolveOption_map (g := FieldPath.rename ρ) (hpath .group),
    resolveOption_map (g := Distinct.rename ρ) hdistinct]
  · rfl
  · simp only [Aggregate.rename, hpath]
    rfl
  · simp only [OrderTerm.rename, hpath]
    rfl
  · simp only [Predicate.rename, hpath]
    rfl

theorem resolveUpdate (s : StructId) (u : Update) :
    resolveUpdate names' m' (ρ.struct s) (u.rename ρ) =
      renamed (Update.rename ρ) (ModelLinker.resolveUpdate names m s u) := by
  have hlocal := fun use r => h.resolveLocal hn use s r
  have hempty : (u.rename ρ).emptyProblems = u.emptyProblems := by
    simp [Update.emptyProblems, Update.rename]
  simp only [ModelLinker.resolveUpdate, hempty]
  simp only [Update.rename]
  rw [resolveAll_map (g := Modifier.rename ρ) (fun x => ?_),
    resolveAll_map (g := Condition.rename ρ) (fun x => ?_)]
  · rfl
  · simp only [Condition.rename, hlocal]
    rfl
  · simp only [Modifier.rename, hlocal]
    rfl

theorem resolveUnique (s : StructId) (u : Unique) :
    resolveUnique names' m' (ρ.struct s) (u.rename ρ) =
      renamed (Unique.rename ρ) (ModelLinker.resolveUnique names m s u) := by
  simp only [ModelLinker.resolveUnique, Unique.rename]
  rw [resolveAll_map (g := NameRef.rename ρ.field) (h.resolveLocal hn .unique s)]
  rfl

theorem resolveStruct (id : StructId) {s s' : Struct} (hs : s.Like ρ s') :
    (ModelLinker.resolveStruct names m id s).1.Like ρ
        (ModelLinker.resolveStruct names' m' (ρ.struct id) s').1 ∧
      (ModelLinker.resolveStruct names' m' (ρ.struct id) s').2 =
        (ModelLinker.resolveStruct names m id s).2 := by
  simp only [ModelLinker.resolveStruct, hs.searches, hs.updates, hs.uniques]
  rw [resolveAll_map (h.resolveSearch hn id), resolveAll_map (h.resolveUpdate hn id),
    resolveAll_map (h.resolveUnique hn id)]
  exact ⟨{ hs with searches := rfl, updates := rfl, uniques := rfl }, rfl⟩

theorem resolveQueries : (resolveQueries names m).Like ρ (resolveQueries names' m') :=
  { h with
    structs := h.structs.mapIdx fun i _ _ _ _ hs => (h.resolveStruct hn ⟨i⟩ hs).1 }

theorem queryProblems :
    (queryProblems names' m').Perm (ModelLinker.queryProblems names m) := by
  simp only [ModelLinker.queryProblems, Model.indexedStructs, List.flatMap_map]
  exact h.structs.flatMap_zipIdx fun i _ _ _ _ hs =>
    List.Perm.of_eq (h.resolveStruct hn ⟨i⟩ hs).2

end Paths

/-! ### uniqueness constraints -/

theorem boundFields?_rename (u : Unique) :
    (u.rename ρ).boundFields? = u.boundFields?.map (List.map ρ.field) := by
  simp only [Unique.boundFields?, Unique.rename, List.mapM_map]
  induction u.fields with
  | nil => rfl
  | cons r rest ih =>
    simp only [List.mapM_cons, Function.comp_apply, NameRef.rename_target]
    rw [ih]
    cases r.target with
    | none => rfl
    | some id => cases rest.mapM NameRef.target <;> rfl

theorem sameFields_map (a b : List FieldId) :
    sameFields (a.map ρ.field) (b.map ρ.field) = sameFields a b := by
  rw [Bool.eq_iff_iff]
  simp [sameFields]

theorem clashes_rename (u v : Unique) : (u.rename ρ).clashes (v.rename ρ) = u.clashes v := by
  have hlen : ∀ u : Unique, (u.rename ρ).fields.length = u.fields.length := fun u => by
    simp [Unique.rename]
  unfold Unique.clashes
  rw [hlen, hlen, boundFields?_rename, boundFields?_rename]
  cases u.boundFields? <;> cases v.boundFields? <;> simp [sameFields_map]

theorem clashProblems_rename (us : List Unique) :
    clashProblems (us.map (Unique.rename ρ)) = clashProblems us := by
  induction us with
  | nil => rfl
  | cons u rest ih =>
    have hfun : (fun v => u.clashes v) = fun v : Unique => (u.rename ρ).clashes (v.rename ρ) :=
      funext fun v => (clashes_rename u v).symm
    simp only [List.map_cons, clashProblems, ih, List.filter_map, List.map_map]
    rw [show u.clashes = fun v => u.clashes v from rfl, hfun]
    rfl

theorem uniqueProblems (h : m.Like ρ m') :
    (uniqueProblems m').Perm (ModelLinker.uniqueProblems m) := by
  refine h.structs.flatMap_toList fun s s' _ _ hs => List.Perm.of_eq ?_
  rw [hs.uniques, clashProblems_rename]

end Model.Like

end ModelLinker
