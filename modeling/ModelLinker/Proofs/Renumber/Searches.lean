import ModelLinker.Proofs.Renumber.Names

/-!
# The searches of models that are alike

Whether a search can match more than one row, and whether its parts go together, depends on what its
paths are bound to, and so it is the same in both models.
-/

namespace ModelLinker

section Rename

variable {ρ : Renumbering}

@[simp] theorem FieldPath.rename_field (p : FieldPath) :
    (p.rename ρ).field = p.field.map ρ.field := by
  simp only [FieldPath.field, FieldPath.rename, List.getLast?_map]
  cases p.segments.getLast? <;> simp

@[simp] theorem FieldPath.rename_isLocal (p : FieldPath) : (p.rename ρ).isLocal = p.isLocal := by
  simp [FieldPath.isLocal, FieldPath.rename]

theorem Search.boundFields_rename (x : Search) :
    (x.rename ρ).boundFields = x.boundFields.map ρ.field := by
  simp only [Search.boundFields, Search.rename, List.filter_map, List.filterMap_map,
    List.map_filterMap]
  simp [Function.comp_def, Predicate.rename]

theorem Unique.coveredBy_rename (u : Unique) (bound : List FieldId) :
    (u.rename ρ).coveredBy (bound.map ρ.field) = u.coveredBy bound := by
  simp only [Unique.coveredBy, Unique.rename, List.all_map]
  congr
  funext r
  simp only [Function.comp_apply, NameRef.rename_target]
  cases r.target with
  | none => rfl
  | some id =>
    rw [Bool.eq_iff_iff]
    simp

end Rename

namespace Model.Like

variable {ρ : Renumbering} {m m' : Model}

/-! ### unique searches -/

theorem isUniqueSearch (h : m.Like ρ m') {s s' : Struct} (hs : s.Like ρ s') (x : Search) :
    isUniqueSearch m' s' (x.rename ρ) = ModelLinker.isUniqueSearch m s x := by
  simp only [ModelLinker.isUniqueSearch, Search.boundFields_rename, hs.uniques, List.any_map,
    Function.comp_def, Unique.coveredBy_rename, h.field?, Option.any_map, Field.rename_isUniqueKey]

theorem markUniqueSearches (h : m.Like ρ m') :
    (markUniqueSearches m).Like ρ (markUniqueSearches m') :=
  { h with
    structs := h.structs.map fun s s' _ _ hs =>
      { hs with
        searches := by
          simp only [hs.searches, List.map_map]
          refine List.map_congr_left fun x _ => ?_
          simp only [Function.comp_apply, h.isUniqueSearch hs]
          rfl } }

/-! ### problems -/

theorem predicateProblems (x : Search) (p : Predicate) (f : Field) :
    (p.rename ρ).problems (x.rename ρ) (f.rename ρ) = p.problems x f := by
  simp [Predicate.problems, Predicate.rename, Search.rename]

theorem conditionProblems (h : m.Like ρ m') (x : Search) :
    (x.rename ρ).conditionProblems m' = x.conditionProblems m := by
  have hparams : (x.rename ρ).params = x.params.map (Predicate.rename ρ) := rfl
  have hrow : (x.rename ρ).rowProblems = x.rowProblems := rfl
  have hempty : (x.rename ρ).kind = .search ∧ (x.rename ρ).params = [] ↔
      x.kind = .search ∧ x.params = [] := by
    simp [Search.rename]
  have hproblems : ∀ p : Predicate,
      (((p.rename ρ).path.field.bind m'.field?).toList.flatMap
          ((p.rename ρ).problems (x.rename ρ))) =
        (p.path.field.bind m.field?).toList.flatMap (p.problems x) := by
    intro p
    have hpath : (p.rename ρ).path.field = p.path.field.map ρ.field := p.path.rename_field
    rw [hpath]
    cases p.path.field with
    | none => rfl
    | some id =>
      simp only [Option.map_some, Option.bind_some, h.field?]
      cases m.field? id with
      | none => rfl
      | some f => simp [predicateProblems]
  unfold Search.conditionProblems
  refine if_congr hempty rfl ?_
  rw [hrow, hparams, List.flatMap_map]
  exact congrArg (x.rowProblems ++ ·) (congrArg (x.params.flatMap ·) (funext hproblems))

theorem boundField? (h : m.Like ρ m') (p : FieldPath) :
    m'.boundField? (p.rename ρ) = (m.boundField? p).map (entry ρ) := by
  simp only [Model.boundField?, FieldPath.rename_field]
  cases p.field with
  | none => rfl
  | some id =>
    simp only [Option.map_some, Option.bind_some, h.field?]
    cases m.field? id <;> rfl

theorem groupedProblems (pos : Pos) (group aggregate : FieldId × Field) :
    groupedProblems pos (entry ρ group) (entry ρ aggregate) =
      ModelLinker.groupedProblems pos group aggregate := by
  simp [ModelLinker.groupedProblems, entry]
  rfl

theorem groupProblems (h : m.Like ρ m') (x : Search) :
    (x.rename ρ).groupProblems m' = x.groupProblems m := by
  have hgroup : (x.rename ρ).group = x.group.map (FieldPath.rename ρ) := rfl
  have haggregate : (x.rename ρ).aggregate = x.aggregate.map (Aggregate.rename ρ) := rfl
  simp only [Search.groupProblems, hgroup, haggregate]
  cases x.group with
  | none => cases x.aggregate <;> rfl
  | some g =>
    cases x.aggregate with
    | none => rfl
    | some a =>
      have hpath : (a.rename ρ).path = a.path.rename ρ := rfl
      simp only [Option.map_some, hpath, h.boundField?]
      cases m.boundField? g with
      | none => rfl
      | some group =>
        cases m.boundField? a.path with
        | none => rfl
        | some aggregate => exact groupedProblems g.pos group aggregate

theorem searchProblems (h : m.Like ρ m') :
    (searchProblems m').Perm (ModelLinker.searchProblems m) := by
  refine h.structs.flatMap_toList fun s s' _ _ hs => List.Perm.of_eq ?_
  simp only [hs.searches, List.flatMap_map, h.conditionProblems, h.groupProblems]

end Model.Like

end ModelLinker
