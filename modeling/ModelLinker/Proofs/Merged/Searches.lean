import ModelLinker.Proofs.Joins.Bound
import ModelLinker.Proofs.Merged.Fields
import ModelLinker.Proofs.Renumber.Searches

/-!
# The searches of a greater model

Where paths are bound to fields of the smaller model, its searches match as many rows in the greater
model, and the same is wrong with them.
-/

namespace ModelLinker

namespace Model

/-- The paths of searches are bound to fields of the model. -/
def PathsExist (m : Model) : Prop :=
  ∀ s ∈ m.structs, ∀ path ∈ s.paths, ∀ r ∈ path, ∀ id, r.target = some id →
    ∃ f, m.field? id = some f

theorem FullyBound.pathsExist {m : Model} (h : m.FullyBound) : m.PathsExist := by
  intro s hs path hpath r hr id hid
  obtain ⟨i, hi⟩ := Array.mem_iff_getElem?.1 hs
  obtain ⟨id', f, hid', hf, -⟩ := (@FullyBound.paths _ h ⟨i⟩ s hi path hpath).segments r hr
  rw [hid, Option.some.injEq] at hid'
  exact ⟨f, hid' ▸ hf⟩

/-- Models with the same fields and the same paths. -/
theorem PathsExist.congr {m m' : Model} (h : m.PathsExist) (hf : m'.fields = m.fields)
    (hs : m'.structs.map Struct.paths = m.structs.map Struct.paths) : m'.PathsExist := by
  intro s' hs' path hpath r hr id hid
  obtain ⟨i, hi⟩ := Array.mem_iff_getElem?.1 hs'
  obtain ⟨s, hi, heq⟩ := @struct?_of_map_eq _ _ _ _ hs ⟨i⟩ s' hi
  rw [field?, hf]
  exact h s (Array.mem_of_getElem? hi) path (heq ▸ hpath) r hr id hid

/-- The field at the end of a path is a field of the model. -/
theorem PathsExist.field {m : Model} (h : m.PathsExist) {s : Struct} (hs : s ∈ m.structs)
    {x : Search} (hx : x ∈ s.searches) {p : FieldPath} (hp : p ∈ x.fieldPaths) {id : FieldId}
    (hid : p.field = some id) : ∃ f, m.field? id = some f := by
  obtain ⟨r, hr, hid⟩ := Option.bind_eq_some_iff.1 hid
  have hpath : p ∈ s.fieldPaths := List.mem_flatMap.2 ⟨x, hx, hp⟩
  exact h s hs p.segments (segments_mem_paths hpath) r (List.mem_of_getLast? hr) id hid

end Model

theorem Predicate.path_mem {x : Search} {p : Predicate} (hp : p ∈ x.params) :
    p.path ∈ x.fieldPaths := by
  simp only [Search.fieldPaths, List.mem_append]
  exact .inl (.inl (.inl (List.mem_map_of_mem hp)))

namespace Model.Within

variable {ρ : Renumbering} {m w : Model}

open Model.Like (entry)

section Searches

variable (h : m.Within ρ w) (hpaths : m.PathsExist)

include h hpaths

/-! ### unique searches -/

theorem isUniqueSearch {s s' : Struct} (hs : s ∈ m.structs) (hlike : s.Within ρ s') {x : Search}
    (hx : x ∈ s.searches) :
    isUniqueSearch w s' (x.rename ρ) = ModelLinker.isUniqueSearch m s x := by
  have huniques : s'.uniques = s.uniques.map (Unique.rename ρ) := hlike.uniques
  have hkeys : ((x.boundFields.map ρ.field).any fun id => (w.field? id).any Field.isUniqueKey) =
      x.boundFields.any fun id => (m.field? id).any Field.isUniqueKey := by
    rw [List.any_map, Bool.eq_iff_iff, List.any_eq_true, List.any_eq_true]
    refine exists_congr fun id => and_congr_right fun hid => ?_
    obtain ⟨p, hp, hid⟩ := List.mem_filterMap.1 hid
    obtain ⟨f, hf⟩ := hpaths.field hs hx (Predicate.path_mem (List.mem_of_mem_filter hp)) hid
    simp [hf, h.field? hf]
  simp only [ModelLinker.isUniqueSearch, Search.boundFields_rename, hkeys, huniques, List.any_map,
    Function.comp_def, Unique.coveredBy_rename]

theorem markUniqueSearches : (markUniqueSearches m).Within ρ (markUniqueSearches w) :=
  { h with
    owned := h.owned.congr (markUniqueSearches_asDeclared m)
    structs := h.structs.map fun s s' hs hlike => by
      have hsearches : s'.searches = s.searches.map (Search.rename ρ) := hlike.searches
      refine { hlike with searches := ?_ }
      simp only [hsearches, List.map_map]
      refine List.map_congr_left fun x hx => ?_
      simp only [Function.comp_apply, h.isUniqueSearch hpaths hs hlike hx]
      rfl }

/-! ### problems -/

section Problems

variable {s : Struct} (hs : s ∈ m.structs) {x : Search} (hx : x ∈ s.searches)

include hs hx

theorem conditionProblems : (x.rename ρ).conditionProblems w = x.conditionProblems m := by
  have hparams : (x.rename ρ).params = x.params.map (Predicate.rename ρ) := rfl
  have hrow : (x.rename ρ).rowProblems = x.rowProblems := rfl
  have hempty : (x.rename ρ).kind = .search ∧ (x.rename ρ).params = [] ↔
      x.kind = .search ∧ x.params = [] := by
    simp [Search.rename]
  have hproblems : ∀ p ∈ x.params,
      ((p.rename ρ).path.field.bind w.field?).toList.flatMap ((p.rename ρ).problems (x.rename ρ)) =
        (p.path.field.bind m.field?).toList.flatMap (p.problems x) := by
    intro p hp
    have hpath : (p.rename ρ).path.field = p.path.field.map ρ.field := p.path.rename_field
    rw [hpath]
    cases hid : p.path.field with
    | none => rfl
    | some id =>
      obtain ⟨f, hf⟩ := hpaths.field hs hx (Predicate.path_mem hp) hid
      simp [hf, h.field? hf, Like.predicateProblems]
  unfold Search.conditionProblems
  refine if_congr hempty rfl ?_
  rw [hrow, hparams, List.flatMap_map]
  exact congrArg (x.rowProblems ++ ·) (List.flatMap_congr hproblems)

theorem boundField? {p : FieldPath} (hp : p ∈ x.fieldPaths) :
    w.boundField? (p.rename ρ) = (m.boundField? p).map (entry ρ) := by
  simp only [Model.boundField?, FieldPath.rename_field]
  cases hid : p.field with
  | none => rfl
  | some id =>
    obtain ⟨f, hf⟩ := hpaths.field hs hx hp hid
    simp only [Option.map_some, Option.bind_some, hf, h.field? hf]
    rfl

theorem groupProblems : (x.rename ρ).groupProblems w = x.groupProblems m := by
  have hgroup : (x.rename ρ).group = x.group.map (FieldPath.rename ρ) := rfl
  have haggregate : (x.rename ρ).aggregate = x.aggregate.map (Aggregate.rename ρ) := rfl
  simp only [Search.groupProblems, hgroup, haggregate]
  cases hg : x.group with
  | none => cases x.aggregate <;> rfl
  | some g =>
    cases ha : x.aggregate with
    | none => rfl
    | some a =>
      have hpath : (a.rename ρ).path = a.path.rename ρ := rfl
      have hgroup := h.boundField? hpaths hs hx (p := g) (by simp [Search.fieldPaths, hg])
      have haggregate := h.boundField? hpaths hs hx (p := a.path)
        (by simp [Search.fieldPaths, ha])
      simp only [Option.map_some, hpath, hgroup, haggregate]
      cases m.boundField? g with
      | none => rfl
      | some group =>
        cases m.boundField? a.path with
        | none => rfl
        | some aggregate => exact Like.groupedProblems g.pos group aggregate

end Problems

end Searches

end Model.Within

/-- Nothing is wrong with the searches of a whole if nothing is wrong with those of its parts. -/
theorem Model.Merges.isOk_searchProblems {ι : Type} {ρ : ι → Renumbering} {m : ι → Model} {w : Model}
    (h : Merges ρ m w) (hpaths : ∀ i, (m i).PathsExist)
    (hok : ∀ i, Diagnostics.isOk (searchProblems (m i)) = true) :
    Diagnostics.isOk (searchProblems w) = true := by
  refine h.structs.isOk_toList (fun i => (h.within i).structs) (fun i s s' hs hlike hsok => ?_) hok
  have hsearches : s'.searches = s.searches.map (Search.rename (ρ i)) := hlike.searches
  rw [Diagnostics.isOk_flatMap] at hsok ⊢
  intro x' hx'
  rw [hsearches] at hx'
  obtain ⟨x, hx, rfl⟩ := List.mem_map.1 hx'
  rw [(h.within i).conditionProblems (hpaths i) hs hx, (h.within i).groupProblems (hpaths i) hs hx]
  exact hsok x hx

end ModelLinker
