import ModelLinker.Proofs.Relinked.Filled

/-!
# The stages of linking on a filled model

On a filled model no stage changes anything but one, which resolves foreign keys: it lists the fields
that refer to a structure once more, after those listed before (`Model.Filled.resolveForeignKeys`).
-/

namespace ModelLinker

open Text (sameName)

/-! ### maps that change nothing -/

theorem list_map_eq_self {α : Type} {xs : List α} {f : α → α} (h : ∀ x ∈ xs, f x = x) :
    xs.map f = xs :=
  (List.map_congr_left h).trans (List.map_id' xs)

theorem option_map_eq_self {α : Type} {x : Option α} {f : α → α} (h : ∀ a ∈ x.toList, f a = a) :
    x.map f = x := by
  cases x with
  | none => rfl
  | some a => exact congrArg some (h a (by simp))

theorem zipIdx_toList_mapIdx {α β : Type} (xs : Array α) (f : Nat → α → β) :
    (xs.mapIdx f).toList.zipIdx = xs.toList.zipIdx.map fun e => (f e.2 e.1, e.2) := by
  apply List.ext_getElem?
  intro i
  simp [List.getElem?_zipIdx, Function.comp_def]

namespace Model

variable {m : Model}

theorem structs_mapIdx_eq_self {f : Nat → Struct → Struct}
    (h : ∀ {id s}, m.struct? id = some s → f id.index s = s) : m.structs.mapIdx f = m.structs :=
  array_mapIdx_eq_self fun {i s} hs => @h ⟨i⟩ s hs

theorem structs_map_eq_self {f : Struct → Struct}
    (h : ∀ {id s}, m.struct? id = some s → f s = s) : m.structs.map f = m.structs := by
  refine array_map_eq_self fun s hs => ?_
  obtain ⟨i, hi⟩ := Array.mem_iff_getElem?.1 hs
  exact @h ⟨i⟩ s hi

/-! ### more fields that refer -/

/-- The fields that refer to a structure: those whose foreign keys are bound to it. -/
def referring (m : Model) (id : StructId) : List FieldId :=
  (m.fields.toList.zipIdx.filter fun (f, _) =>
    f.foreign.any fun k => k.targetStruct.target == some id).map fun (_, i) => ⟨i⟩

/-- The model with other lists of the fields that refer to its structures. -/
def relist (m : Model) (list : StructId → List FieldId → List FieldId) : Model :=
  { m with structs := m.structs.mapIdx fun i s =>
      { s with referencedBy := list ⟨i⟩ s.referencedBy } }

/-- The model with more fields listed as referring to its structures. -/
def refer (m : Model) (refs : StructId → List FieldId) : Model :=
  m.relist fun id before => before ++ refs id

/-- The model with no fields listed as referring to its structures. -/
def unlisted (m : Model) : Model := m.relist fun _ _ => []

section Relist

variable (m : Model) (list : StructId → List FieldId → List FieldId)

theorem struct?_relist (id : StructId) : (m.relist list).struct? id =
    (m.struct? id).map fun s => { s with referencedBy := list id s.referencedBy } := by
  simp [relist, struct?]

theorem size_relist : (m.relist list).structs.size = m.structs.size := by
  simp [relist]

theorem map_relist {β : Type} {g : Struct → β}
    (h : ∀ s ids, g { s with referencedBy := ids } = g s) :
    (m.relist list).structs.map g = m.structs.map g :=
  map_mapIdx_of_eq fun _ s => h s _

theorem asDeclared_relist : (m.relist list).asDeclared = m.asDeclared := by
  rw [asDeclared, m.map_relist list fun _ _ => rfl]
  rfl

theorem sameFields_relist : SameFields m (m.relist list) where
  fields := rfl
  listed := fieldsOf_congr (map_fields_of_asDeclared (m.asDeclared_relist list)) rfl

theorem names_relist : Namespace.ofModel (m.relist list) = Namespace.ofModel m :=
  Namespace.ofModel_congr (m.asDeclared_relist list)

end Relist

end Model

/-! ### the fields that keys refer from -/

theorem targetStruct_of_resolveKey {names : Namespace} {m : Model} {id : FieldId} {f : Field}
    {k : ForeignKey} {s : StructId} {r : Reference}
    (h : (resolveKey names m id f k).2 = .ok (s, r)) :
    (resolveKey names m id f k).1.targetStruct.target = some s := by
  unfold resolveKey at h ⊢
  cases ht : keyTarget names m k with
  | error p => simp [ht] at h
  | ok t =>
    cases hp : keyProblem? id f t.1.2 t.2 with
    | some p => simp [ht, hp] at h
    | none =>
      simp only [ht, hp, Except.ok.injEq, Prod.mk.injEq] at h
      simp [NameRef.bind, h.1]

/-- If no key is faulty, the fields that resolving keys lists are those that refer then. -/
theorem validKeys_eq {names : Namespace} {m : Model}
    (h : Diagnostics.isOk (foreignKeyProblems names m) = true) (id : StructId) :
    ((validKeys names m).filter fun e => e.1 = id).map (·.2) =
      (resolveForeignKeys names m).referring id := by
  simp only [validKeys, Model.referring, resolveForeignKeys, zipIdx_toList_mapIdx,
    List.filter_filterMap, List.map_filterMap, List.filter_map, List.map_map]
  rw [← List.filterMap_eq_map, List.filterMap_filter]
  refine List.filterMap_congr ?_
  rintro ⟨f, i⟩ hmem
  have hok := (Diagnostics.isOk_flatMap _ _).1 h (f, i) hmem
  cases hk : f.foreign with
  | none => simp [Field.resolveForeign, hk]
  | some k =>
    cases ho : (resolveKey names m ⟨i⟩ f k).2 with
    | error p => simp [Field.foreignProblems, hk, ho] at hok
    | ok e =>
      obtain ⟨s, r⟩ := e
      have htarget := targetStruct_of_resolveKey ho
      by_cases hs : s = id <;> simp [Field.resolveForeign, hk, ho, htarget, hs]

/-! ### models with other lists -/

/-- What a structure has of its own fields, of names and of embeddings does not depend on which
fields refer to it. -/
theorem Struct.FilledIn.relist {m : Model} {id : StructId} {s : Struct} (h : s.FilledIn m id)
    (list : StructId → List FieldId → List FieldId) (ids : List FieldId) :
    Struct.FilledIn (m.relist list) id { s with referencedBy := ids } := by
  have hsame := m.sameFields_relist list
  have hsize := m.size_relist list
  refine ⟨?_, fun p hp => hsame.walks (h.paths p hp), fun d hd => ?_,
    fun r hr => hsame.boundToPlain (h.locals r hr), h.modifies, ?_, ?_, h.join, ?_,
    fun x hx => h.unique x hx, ?_⟩
  · simp only [Model.rowidsOf, hsame.listed]
    exact h.rowid
  · obtain ⟨u, hu, hl⟩ := h.distincts d hd
    exact ⟨u, hu, hsame.leads hl⟩
  · rw [m.names_relist]
    exact h.grants
  · rw [hsame.joinsFrom hsize, Model.structIds_congr hsize]
    exact h.joins
  · rw [Model.ofModel_congr hsize hsame.embeds]
    exact h.height
  · have hmarks := hsame.markedAt h.flags
    exact ⟨hmarks.queue, hmarks.iterator, hmarks.blob, hmarks.nullrefs⟩

namespace Model.Filled

variable {m : Model} {id : StructId} {s : Struct}

theorem relist (h : m.Filled) (list : StructId → List FieldId → List FieldId) :
    (m.relist list).Filled := by
  have hnames := m.names_relist list
  refine ⟨h.names.congr (m.asDeclared_relist list), h.enums, ?_, ?_, ?_, ?_, h.circles, h.children,
    fun hs => ?_⟩
  · rw [hnames]
    exact h.types
  · intro id f k hf hk
    obtain ⟨s, tid, t, hb⟩ := h.keys hf hk
    rw [hnames]
    exact ⟨s, tid, t, { hb with }⟩
  · rw [hnames]
    exact h.sources
  · rw [hnames]
    exact h.attached
  · rw [struct?_relist, Option.map_eq_some_iff] at hs
    obtain ⟨s, hs, rfl⟩ := hs
    exact (h.structs hs).relist list _

/-! ### values and fields -/

theorem numberEnums (h : m.Filled) : ModelLinker.numberEnums m = m := by
  rw [ModelLinker.numberEnums, array_map_eq_self h.enums]

theorem resolveRowids (h : m.Filled) : ModelLinker.resolveRowids m = m := by
  rw [ModelLinker.resolveRowids, structs_mapIdx_eq_self fun {id s} hs => ?_]
  rw [← (h.structs hs).rowid]

theorem resolveValueTypes (h : m.Filled) :
    ModelLinker.resolveValueTypes (.ofModel m) m = m := by
  rw [ModelLinker.resolveValueTypes, array_map_eq_self fun f hf => ?_]
  rw [h.types f hf]

theorem resolveStructFields (h : m.Filled) :
    ModelLinker.resolveStructFields (.ofModel m) m = m := by
  rw [ModelLinker.resolveStructFields, array_map_eq_self h.sources]

/-! ### foreign keys -/

/-- A bound key comes to the reference that its field has. -/
theorem resolveKey {id : FieldId} {f : Field} {k : ForeignKey} {s : StructId} {tid : FieldId}
    {t : Field} (hb : KeyBound (.ofModel m) m id f k s tid t) :
    ModelLinker.resolveKey (.ofModel m) m id f k =
      (k, .ok (s, ⟨id, tid, k.onUpdate, k.onDelete⟩)) := by
  obtain ⟨x, hx, -⟩ := Namespace.struct?_some hb.struct
  have htarget : keyTarget (.ofModel m) m k = .ok ((s, x), (tid, t)) := by
    simp [keyTarget, hb.struct, hx, hb.field, hb.target]
  have hproblem : keyProblem? id f x (tid, t) = none := by
    simp [keyProblem?, hb.other, hb.unique, hb.compatible]
  have hbound : { k with
      targetStruct := k.targetStruct.bind s, targetField := k.targetField.bind tid } = k := by
    rw [NameRef.bind, NameRef.bind, ← hb.targetStruct, ← hb.targetField]
  simp only [ModelLinker.resolveKey, htarget, hproblem, hbound]

theorem foreign (h : m.Filled) {id : FieldId} {f : Field} (hf : m.field? id = some f) :
    f.resolveForeign (.ofModel m) m id = f ∧ f.foreignProblems (.ofModel m) m id = [] := by
  cases hk : f.foreign with
  | none => simp [Field.resolveForeign, Field.foreignProblems, hk]
  | some k =>
    obtain ⟨s, tid, t, hb⟩ := h.keys hf hk
    simp only [Field.resolveForeign, Field.foreignProblems, hk, resolveKey hb, and_true]
    rw [← hk, ← hb.reference]

/-- Nothing is wrong with keys that are bound already. -/
theorem foreignKeyProblems (h : m.Filled) : ModelLinker.foreignKeyProblems (.ofModel m) m = [] := by
  refine List.flatMap_eq_nil_iff.2 ?_
  rintro ⟨f, i⟩ hmem
  exact (@foreign m h ⟨i⟩ f (by simpa [field?] using List.mem_zipIdx_iff_getElem?.1 hmem)).2

/-- The fields that refer to structures are listed once more. -/
theorem resolveForeignKeys (h : m.Filled) :
    ModelLinker.resolveForeignKeys (.ofModel m) m = m.refer m.referring := by
  have hfields : (m.fields.mapIdx fun i f => f.resolveForeign (.ofModel m) m ⟨i⟩) = m.fields :=
    array_mapIdx_eq_self fun {i f} hf => (@foreign m h ⟨i⟩ f hf).1
  have hrefs : ∀ id, ((validKeys (.ofModel m) m).filter fun e => e.1 = id).map (·.2) =
      m.referring id := by
    intro id
    rw [validKeys_eq (by rw [h.foreignKeyProblems]; rfl), referring, ModelLinker.resolveForeignKeys,
      hfields, referring]
  simp only [ModelLinker.resolveForeignKeys, hfields, hrefs, refer, Model.relist]

end Model.Filled

/-! ### paths and local fields -/

namespace Model

variable {m : Model} {s t u : StructId} {r : NameRef FieldId} {id : FieldId} {f : Field}

theorem BoundIn.lookup (h : m.NamesDistinct) (hb : m.BoundIn s r id f) :
    (Namespace.ofModel m).field? s r.name = some id := by
  rw [← Namespace.field?_congr hb.name]
  exact h.fields hb.listed

theorem BoundIn.bind (hb : m.BoundIn s r id f) : r.bind id = r := by
  rw [NameRef.bind, ← hb.target]

/-- A path that can be walked is bound already, and nothing is wrong with it. -/
theorem Walks.walkPath (h : m.NamesDistinct) {path : List (NameRef FieldId)} (hw : m.Walks s path)
    (use : PathUse) (dotted : String) :
    ModelLinker.walkPath (.ofModel m) m use dotted s path = (path, []) := by
  induction hw with
  | nil => rfl
  | last hb hs =>
    simp [ModelLinker.walkPath, hb.lookup h, hb.bind, isStructField_of_listed hb, hs]
  | step hb he hne _ ih =>
    simp [ModelLinker.walkPath, hb.lookup h, hb.bind, step?_of_listed hb, he, hne, ih]

theorem Leads.walkDistinct (h : m.NamesDistinct) {path : List (NameRef FieldId)}
    (hl : m.Leads s path u) :
    ModelLinker.walkDistinct (.ofModel m) m s path = (path, .ok u) := by
  induction hl with
  | nil => rfl
  | step hb he _ ih =>
    simp [ModelLinker.walkDistinct, hb.lookup h, hb.bind, step?_of_listed hb, he, ih]

theorem Leads.resolveDistinct (h : m.NamesDistinct) {d : Distinct} (hu : d.target = some u)
    (hl : m.Leads s d.path u) :
    ModelLinker.resolveDistinct (.ofModel m) m s d = (d, []) := by
  simp only [ModelLinker.resolveDistinct, hl.walkDistinct h, ← hu]

theorem BoundToPlain.resolveLocal (h : m.NamesDistinct) (hb : m.BoundToPlain s r)
    (use : LocalUse) : ModelLinker.resolveLocal (.ofModel m) m use s r = (r, []) := by
  obtain ⟨id, f, hb, hs⟩ := hb
  simp [ModelLinker.resolveLocal, hb.lookup h, hb.bind, isStructField_of_listed hb, hs]

end Model

/-- A list of parts that are resolved already. -/
theorem resolveAll_eq_self {α : Type} {f : α → α × Diagnostics} {xs : List α}
    (h : ∀ x ∈ xs, f x = (x, [])) : resolveAll f xs = (xs, []) := by
  have hparts : (xs.map fun x => (f x).1) = xs := list_map_eq_self fun x hx => by rw [h x hx]
  have hproblems : (xs.flatMap fun x => (f x).2) = [] :=
    List.flatMap_eq_nil_iff.2 fun x hx => by rw [h x hx]
  rw [resolveAll, hparts, hproblems]

theorem resolveOption_eq_self {α : Type} {f : α → α × Diagnostics} {x : Option α}
    (h : ∀ a ∈ x.toList, f a = (a, [])) : resolveOption f x = (x, []) := by
  cases x with
  | none => rfl
  | some a => simp [resolveOption, h a (by simp)]

namespace Model.Filled

variable {m : Model} {id : StructId} {s : Struct}

theorem resolveSearch (h : m.Filled) {x : Search} (hpaths : ∀ p ∈ x.paths, m.Walks id p)
    (hdistincts : ∀ d ∈ x.distinct.toList, ∃ u, d.target = some u ∧ m.Leads id d.path u) :
    ModelLinker.resolveSearch (.ofModel m) m id x = (x, []) := by
  have hpath : ∀ (p : FieldPath) use, p.segments ∈ x.paths →
      resolvePath (.ofModel m) m use id p = (p, []) := fun p use hp => by
    simp only [resolvePath, (hpaths _ hp).walkPath h.names]
  simp only [Search.paths, List.mem_append, List.mem_map] at hpath
  rw [ModelLinker.resolveSearch, resolveAll_eq_self fun y hy => ?_,
    resolveAll_eq_self fun y hy => ?_, resolveOption_eq_self fun y hy => ?_,
    resolveOption_eq_self fun y hy => ?_, resolveOption_eq_self fun y hy => ?_]
  · rfl
  · obtain ⟨u, hu, hl⟩ := hdistincts y hy
    exact hl.resolveDistinct h.names hu
  · exact hpath y .group (.inr ⟨y, hy, rfl⟩)
  · simp only [hpath y.path .aggregate (.inl (.inr ⟨y, hy, rfl⟩))]
  · simp only [hpath y.path .order (.inl (.inl (.inr ⟨y, hy, rfl⟩)))]
  · simp only [hpath y.path .search (.inl (.inl (.inl ⟨y, hy, rfl⟩)))]

theorem resolveUpdate (h : m.Filled) {u : Update} (hempty : u.emptyProblems = [])
    (hlocals : ∀ r ∈ u.locals, m.BoundToPlain id r) :
    ModelLinker.resolveUpdate (.ofModel m) m id u = (u, []) := by
  simp only [Update.locals, List.mem_append, List.mem_map] at hlocals
  rw [ModelLinker.resolveUpdate, resolveAll_eq_self fun y hy => ?_,
    resolveAll_eq_self fun y hy => ?_]
  · simp only [hempty, List.append_nil]
  · simp only [(hlocals y.field (.inr ⟨y, hy, rfl⟩)).resolveLocal h.names]
  · simp only [(hlocals y.field (.inl ⟨y, hy, rfl⟩)).resolveLocal h.names]

theorem resolveStruct (h : m.Filled) (hs : m.struct? id = some s) :
    ModelLinker.resolveStruct (.ofModel m) m id s = (s, []) := by
  have hslots := h.structs hs
  rw [ModelLinker.resolveStruct, resolveAll_eq_self fun x hx => ?_,
    resolveAll_eq_self fun u hu => ?_, resolveAll_eq_self fun u hu => ?_]
  · rfl
  · rw [ModelLinker.resolveUnique, resolveAll_eq_self fun r hr => ?_]
    exact (hslots.locals r (List.mem_append_right _
      (List.mem_flatMap.2 ⟨u, hu, hr⟩))).resolveLocal h.names .unique
  · exact h.resolveUpdate (hslots.modifies u hu) fun r hr => hslots.locals r
      (List.mem_append_left _ (List.mem_flatMap.2 ⟨u, hu, hr⟩))
  · exact h.resolveSearch (fun p hp => hslots.paths p (List.mem_flatMap.2 ⟨x, hx, hp⟩))
      fun d hd => hslots.distincts d (List.mem_flatMap.2 ⟨x, hx, hd⟩)

theorem resolveQueries (h : m.Filled) :
    ModelLinker.resolveQueries (.ofModel m) m = m ∧ queryProblems (.ofModel m) m = [] := by
  constructor
  · rw [ModelLinker.resolveQueries, structs_mapIdx_eq_self fun {id s} hs => ?_]
    rw [h.resolveStruct hs]
  · refine List.flatMap_eq_nil_iff.2 ?_
    rintro ⟨id, s⟩ hmem
    simp only [h.resolveStruct (mem_indexedStructs.1 hmem)]

end Model.Filled

/-! ### roles -/

theorem bindRoles_eq_self {names : Namespace} {s : Struct}
    (h : ∀ r ∈ s.grants, bindGrant names r = r) : s.bindRoles names = s := by
  have hmap : ∀ op ∈ s.operations, op.roles.map (RoleMap.bind names) = op.roles := by
    intro op hop
    refine option_map_eq_self fun g hg => ?_
    rw [RoleMap.bind, list_map_eq_self fun r hr => ?_]
    exact h r (List.mem_flatMap.2 ⟨op, hop, List.mem_flatMap.2 ⟨g, hg, hr⟩⟩)
  simp only [Struct.operations, List.mem_append, List.mem_map] at hmap
  rw [Struct.bindRoles, list_map_eq_self fun x hx => ?_, list_map_eq_self fun u hu => ?_,
    option_map_eq_self fun i hi => ?_]
  · rw [hmap _ (.inr ⟨i, hi, rfl⟩)]
  · rw [hmap _ (.inl (.inr ⟨u, hu, rfl⟩))]
  · rw [hmap _ (.inl (.inl ⟨x, hx, rfl⟩))]

namespace Model.Filled

variable {m : Model} {id : StructId} {s : Struct}

theorem bindParents (h : m.Filled) : ModelLinker.bindParents (.ofModel m) m = m := by
  rw [ModelLinker.bindParents, array_map_eq_self h.attached]

theorem rebuildChildren (h : m.Filled) : ModelLinker.rebuildChildren m = m := by
  have hroles : (m.roles.mapIdx fun i r => { r with children := m.childrenOf ⟨i⟩ }) = m.roles :=
    array_mapIdx_eq_self fun {i r} hr => by rw [← @children m h ⟨i⟩ r hr]
  rw [ModelLinker.rebuildChildren, hroles]

theorem bindRoleMaps (h : m.Filled) : ModelLinker.bindRoleMaps (.ofModel m) m = m := by
  rw [ModelLinker.bindRoleMaps, structs_map_eq_self fun {id s} hs => ?_]
  refine bindRoles_eq_self fun r hr => ?_
  obtain ⟨rid, hn, ht, hne⟩ := (h.structs hs).grants r hr
  simp only [bindGrant, grantedRole_ok.2 ⟨hn, hne⟩, NameRef.bind, ← ht]

/-! ### joins, heights and marks -/

theorem assignJoins (h : m.Filled) : (ModelLinker.assignJoins m).1 = m := by
  have hjoins : setJoins (joinsFrom m 0 m.structIds).1 m = m := by
    rw [setJoins, structs_mapIdx_eq_self fun {id s} hs => ?_]
    simp only [(h.structs hs).joins]
  have hpaths : ∀ {id s}, m.struct? id = some s → s.bindJoins = s := by
    intro id s hs
    have hpath : ∀ x ∈ s.searches, ∀ p ∈ x.fieldPaths, p.bindJoin s = p := by
      intro x hx p hp
      rw [FieldPath.bindJoin, ← (h.structs hs).join p (List.mem_flatMap.2 ⟨x, hx, hp⟩)]
    rw [Struct.bindJoins, list_map_eq_self fun x hx => ?_]
    have hpath := hpath x hx
    simp only [Search.fieldPaths, List.mem_append, List.mem_map] at hpath
    rw [list_map_eq_self fun y hy => ?_, list_map_eq_self fun y hy => ?_,
      option_map_eq_self fun y hy => ?_, option_map_eq_self fun y hy => ?_]
    · exact hpath y (.inr hy)
    · rw [hpath _ (.inl (.inr ⟨y, hy, rfl⟩))]
    · rw [hpath _ (.inl (.inl (.inr ⟨y, hy, rfl⟩)))]
    · rw [hpath _ (.inl (.inl (.inl ⟨y, hy, rfl⟩)))]
  simp only [ModelLinker.assignJoins, hjoins]
  rw [structs_map_eq_self hpaths]

theorem setHeights (h : m.Filled) : ModelLinker.setHeights (Topology.ofModel m) m = m := by
  rw [ModelLinker.setHeights, structs_mapIdx_eq_self fun {id s} hs => ?_]
  rw [← (h.structs hs).height]

theorem markUniqueSearches (h : m.Filled) : ModelLinker.markUniqueSearches m = m := by
  rw [ModelLinker.markUniqueSearches, structs_map_eq_self fun {id s} hs => ?_]
  rw [list_map_eq_self fun x hx => ?_]
  rw [← (h.structs hs).unique x hx]

/-- Marks that are right everywhere are what they would be set to. -/
theorem setFlags (h : m.Filled) (id : StructId) : ModelLinker.setFlags m id = m := by
  unfold ModelLinker.setFlags
  split
  · rfl
  · rename_i s hs
    have hright := @markedAt_flagsOf m id s fun t x _ hx => (h.structs hx).flags
    have hflags : m.flagsOf id s = s.flags := (h.structs hs).flags.flags_eq hright rfl
    have hstructs : m.structs.modify id.index (fun x => { x with flags := m.flagsOf id s }) =
        m.structs := by
      apply Array.ext (by simp)
      intro i _ hi
      rw [Array.getElem_modify]
      split
      · rename_i hid
        have hx : m.structs[i] = s := by
          rw [← Option.some.injEq, ← hs, struct?, hid, Array.getElem?_eq_getElem hi]
        rw [hx, hflags]
      · rfl
    rw [modifyStruct, hstructs]

theorem computeFlags (h : m.Filled) (order : List StructId) :
    ModelLinker.computeFlags order m = m := by
  unfold ModelLinker.computeFlags
  induction order with
  | nil => rfl
  | cons id rest ih => rw [List.foldl_cons, h.setFlags, ih]

end Model.Filled

end ModelLinker
