import ModelLinker.Proofs.Joins
import ModelLinker.Proofs.Renumber.Names

/-!
# The joins of models that are alike

The paths of the joins of a structure do not depend on the order of structures; their short names
do, because they are counted through the whole model. Whether the short names last depends on the
number of all joins only.
-/

namespace ModelLinker

namespace Model.Like

variable {ρ : Renumbering} {m m' : Model}

theorem joinPaths (h : m.Like ρ m') (room : ℕ) (before : Option String) (id : StructId) :
    m'.joinPaths room before (ρ.struct id) = m.joinPaths room before id := by
  induction room generalizing before id with
  | zero => rfl
  | succ room ih =>
    simp only [Model.joinPaths, h.embeds, List.flatMap_map]
    congr
    funext e
    simp only [h.field?]
    cases m.field? e.1 with
    | none => rfl
    | some f => simp [ih]

theorem joinPathsOf (h : m.Like ρ m') (id : StructId) :
    m'.joinPathsOf (ρ.struct id) = m.joinPathsOf id := by
  rw [Model.joinPathsOf, h.structs.size, h.joinPaths, Model.joinPathsOf]

theorem joinTotal (h : m.Like ρ m') : m'.joinTotal m'.structIds = m.joinTotal m.structIds := by
  unfold Model.joinTotal
  rw [(h.structIds_perm.flatMap_right m'.joinPathsOf).length_eq, List.flatMap_map]
  simp only [h.joinPathsOf]

theorem isOk_joins (h : m.Like ρ m') (hok : Diagnostics.isOk (assignJoins m).2.2 = true) :
    Diagnostics.isOk (assignJoins m').2.2 = true := by
  rw [isOk_joinsFrom] at hok ⊢
  rwa [h.joinTotal]

/-- The joins that a structure gets. -/
theorem joins_getElem? (hok : Diagnostics.isOk (assignJoins m).2.2 = true) {id : StructId}
    (hid : id ∈ m.structIds) :
    ∃ js, (joinsFrom m 0 m.structIds).1[id.index]? = some js ∧
      js.map Join.path = m.joinPathsOf id := by
  have hlt := Model.mem_structIds.1 hid
  have hpaths := congrArg (·[id.index]?) (joinsFrom_paths hok).2
  simp only [List.getElem?_map, Model.structIds, List.getElem?_range hlt, Option.map_some] at hpaths
  exact Option.map_eq_some_iff.1 hpaths

theorem setJoins (h : m.Like ρ m') (hok : Diagnostics.isOk (assignJoins m).2.2 = true) :
    (setJoins (joinsFrom m 0 m.structIds).1 m).Like ρ
      (setJoins (joinsFrom m' 0 m'.structIds).1 m') :=
  { h with
    structs := h.structs.mapIdx fun i s s' hs hs' hlike => by
      have hid : (⟨i⟩ : StructId) ∈ m.structIds :=
        Model.mem_structIds.2 (Array.getElem?_eq_some_iff.1 hs).1
      have hid' : (⟨ρ.structs i⟩ : StructId) ∈ m'.structIds :=
        Model.mem_structIds.2 (Array.getElem?_eq_some_iff.1 hs').1
      obtain ⟨js, hjs, hpaths⟩ := joins_getElem? hok hid
      obtain ⟨js', hjs', hpaths'⟩ := joins_getElem? (h.isOk_joins hok) hid'
      simp only [hjs, hjs']
      exact { hlike with
        joins := by rw [hpaths, hpaths']; exact h.joinPathsOf ⟨i⟩ } }

theorem joinIndex? {s s' : Struct} (hs : s.Like ρ s') (path : String) :
    s'.joinIndex? path = s.joinIndex? path := by
  have key : ∀ s : Struct, s.joinIndex? path =
      (s.joins.map Join.path).findIdx? fun p => Text.sameName p path := by
    intro s
    simp [Struct.joinIndex?, List.findIdx?_map, Function.comp_def]
  rw [key, key, hs.joins]

theorem bindJoin {s s' : Struct} (hs : s.Like ρ s') (p : FieldPath) :
    (p.rename ρ).bindJoin s' = (p.bindJoin s).rename ρ := by
  have hpath : (p.rename ρ).joinPath = p.joinPath := by
    simp only [FieldPath.joinPath, FieldPath.rename, ← List.map_dropLast]
    cases p.segments.dropLast <;> simp [FieldPath.dottedNames, Function.comp_def]
  have hindex : s'.joinIndex? = s.joinIndex? := funext (joinIndex? hs)
  unfold FieldPath.bindJoin
  rw [hpath, hindex]
  rfl

theorem bindJoins {s s' : Struct} (hs : s.Like ρ s') : s.bindJoins.Like ρ s'.bindJoins :=
  { hs with
    searches := by
      have hbind := fun p => bindJoin hs p
      simp only [Struct.bindJoins, hs.searches, List.map_map]
      refine List.map_congr_left fun x _ => ?_
      simp [Search.rename, Predicate.rename, OrderTerm.rename, Aggregate.rename, hbind,
        Function.comp_def] }

theorem assignJoins (h : m.Like ρ m') (hok : Diagnostics.isOk (assignJoins m).2.2 = true) :
    (assignJoins m).1.Like ρ (ModelLinker.assignJoins m').1 :=
  { h.setJoins hok with
    structs := (h.setJoins hok).structs.map fun _ _ _ _ hs => bindJoins hs }

/-- The problems are the same: there are none. -/
theorem joinProblems (h : m.Like ρ m')
    (hok : Diagnostics.isOk (ModelLinker.assignJoins m).2.2 = true) :
    (ModelLinker.assignJoins m').2.2 = (ModelLinker.assignJoins m).2.2 := by
  rw [(joinsFrom_paths hok).1, (joinsFrom_paths (h.isOk_joins hok)).1]

end Model.Like

end ModelLinker
