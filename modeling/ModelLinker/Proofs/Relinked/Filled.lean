import ModelLinker.Proofs.Joins.Bound
import ModelLinker.Proofs.Marks
import ModelLinker.Proofs.Roles.Hierarchy

/-!
# Filled models

A model is filled if every slot holds what linking would write there (`Model.Filled`).
-/

namespace ModelLinker

/-! ### parts that a stage has gone through -/

theorem numberItems_again (next : Int) (items : List EnumItem) :
    numberItems next (numberItems next items) = numberItems next items := by
  induction items generalizing next with
  | nil => rfl
  | cons i rest ih => simp [numberItems, ih]

section Again

variable {names : Namespace} {m : Model} {f : Field}

theorem resolveValue_again (t : FieldType) :
    (t.resolveValue names).resolveValue names = t.resolveValue names := by
  cases t with
  | enum r => cases h : names.enum? r.name <;> simp [FieldType.resolveValue, NameRef.resolve,
      NameRef.bind, h]
  | bitfield r => cases h : names.bitfield? r.name <;> simp [FieldType.resolveValue,
      NameRef.resolve, NameRef.bind, h]
  | _ => rfl

theorem resolveStruct_parent : (f.resolveStruct names m).parent = f.parent := by
  unfold Field.resolveStruct
  split
  · split <;> rfl
  · rfl

theorem resolveStruct_name : (f.resolveStruct names m).name = f.name := by
  unfold Field.resolveStruct
  split
  · split <;> rfl
  · rfl

/-- A source is not structure-typed, so that it is the same before and after structure-typed fields
are bound. -/
theorem structSource_resolveStructFields (f : Field) (r : NameRef FieldId) :
    structSource names (resolveStructFields names m) f r = structSource names m f r := by
  have hfield : ∀ id, (resolveStructFields names m).field? id =
      (m.field? id).map fun g => g.resolveStruct names m := fun id => by
    simp [resolveStructFields, Model.field?]
  unfold structSource
  cases names.field? f.parent r.name with
  | none => rfl
  | some id =>
    simp only [Option.bind_some, hfield]
    cases m.field? id with
    | none => rfl
    | some g =>
      cases hs : g.type.isStruct with
      | true => simp [resolveStruct_isStruct, resolveStruct_name, hs]
      | false => simp [resolveStruct_of_not_isStruct hs]

/-- A source is looked up by the owner of a field and the name that its type has. -/
theorem structSource_congr {f' : Field} {r r' : NameRef FieldId} (hparent : f'.parent = f.parent)
    (hname : r'.name = r.name) : structSource names m f' r' = structSource names m f r := by
  unfold structSource
  rw [hparent, hname]

theorem resolveStruct_eq_self
    (h : ∀ r id reference, f.type = .struct r →
      structSource names m f r = .ok (some (id, reference)) →
      r.target = some id ∧ f.reference = some reference) :
    f.resolveStruct names m = f := by
  unfold Field.resolveStruct
  split
  · rename_i r hr
    split
    · rename_i id reference hsource
      obtain ⟨htarget, hreference⟩ := h r id reference hr hsource
      have hbind : r.bind id = r := by rw [NameRef.bind, ← htarget]
      rw [hbind, ← hr, ← hreference]
    · rfl
  · rfl

theorem resolveStruct_again :
    (f.resolveStruct names m).resolveStruct names (resolveStructFields names m) =
      f.resolveStruct names m := by
  refine resolveStruct_eq_self fun r id reference hr hsource => ?_
  rw [structSource_resolveStructFields] at hsource
  cases ht : f.type with
  | struct r₀ =>
    have hname : r.name = r₀.name := by
      rcases @resolveStruct_type names m f with heq | ⟨r₁, id₁, heq, heq'⟩
      · rw [heq, ht, FieldType.struct.injEq] at hr
        rw [hr]
      · rw [ht, FieldType.struct.injEq] at heq
        rw [heq', FieldType.struct.injEq] at hr
        rw [← hr, heq]
        rfl
    rw [structSource_congr resolveStruct_parent hname] at hsource
    simp only [Field.resolveStruct, ht, hsource, FieldType.struct.injEq] at hr ⊢
    exact ⟨hr ▸ rfl, trivial⟩
  | _ => simp [Field.resolveStruct, ht] at hr

/-- Names alone say which parent is declared. -/
theorem declaredParent_congr {r r' : Role} {p p' : NameRef RoleId} (hr : r'.name = r.name)
    (hp : p'.name = p.name) : declaredParent names r' p' = declaredParent names r p := by
  unfold declaredParent
  rw [hr, hp]

theorem attach_again (r : Role) : (r.attach names).attach names = r.attach names := by
  unfold Role.attach
  cases hk : r.kind.isReserved with
  | true => simp [hk]
  | false =>
    cases hp : r.parentName with
    | none => simp [hk]
    | some p =>
      have hsame : ∀ r' p', r'.name = r.name → p'.name = p.name →
          declaredParent names r' p' = declaredParent names r p :=
        fun _ _ => declaredParent_congr
      cases hd : declaredParent names r p with
      | error e => simp [hk, hsame, hd]
      | ok id => simp [hk, hsame, hd, NameRef.bind]

end Again

/-! ### what it is to be filled -/

/-- Every slot of a structure holds what linking would write there, but for the list of the fields
that refer to it. -/
structure Struct.FilledIn (m : Model) (id : StructId) (s : Struct) : Prop where
  rowid : s.rowid = (m.rowidsOf id).head?.map (·.1)
  paths : ∀ p ∈ s.paths, m.Walks id p
  distincts : ∀ d ∈ s.distincts, ∃ u, d.target = some u ∧ m.Leads id d.path u
  locals : ∀ r ∈ s.locals, m.BoundToPlain id r
  modifies : ∀ u ∈ s.updates, u.emptyProblems = []
  grants : ∀ r ∈ s.grants, ∃ rid, (Namespace.ofModel m).role? r.name = some rid ∧
    r.target = some rid ∧ rid ≠ .none
  joins : (joinsFrom m 0 m.structIds).1[id.index]? = some s.joins
  join : ∀ p ∈ s.fieldPaths, p.join = p.joinPath.bind s.joinIndex?
  height : s.height = (Topology.ofModel m).height id
  unique : ∀ x ∈ s.searches, x.unique = isUniqueSearch m s x
  flags : m.MarkedAt id s

/-- Every slot of a model holds what linking would write there, but for the lists of fields that
refer to structures. -/
structure Model.Filled (m : Model) : Prop where
  names : m.NamesDistinct
  enums : ∀ e ∈ m.enums, e.number = e
  types : ∀ f ∈ m.fields, f.type.resolveValue (.ofModel m) = f.type
  keys : ∀ {id f k}, m.field? id = some f → f.foreign = some k →
    ∃ s tid t, KeyBound (.ofModel m) m id f k s tid t
  sources : ∀ f ∈ m.fields, f.resolveStruct (.ofModel m) m = f
  attached : ∀ r ∈ m.roles, r.attach (.ofModel m) = r
  circles : Diagnostics.isOk (cycleProblems m) = true
  children : ∀ {id r}, m.role? id = some r → r.children = m.childrenOf id
  structs : ∀ {id s}, m.struct? id = some s → s.FilledIn m id

/-! ### linked models are filled -/

namespace Model

variable {m m' : Model} {id : StructId} {s : Struct}

theorem rowidsOf_asDeclared (m : Model) (id : StructId) :
    m.asDeclared.rowidsOf id = (m.rowidsOf id).map fun e => (e.1, e.2.asDeclared) := by
  simp only [rowidsOf, fieldsOf_asDeclared, List.filter_map]
  rfl

/-- The rowid of a structure is among what is declared. -/
theorem rowid_congr (h : m'.asDeclared = m.asDeclared) (id : StructId) :
    (m'.rowidsOf id).head?.map (·.1) = (m.rowidsOf id).head?.map (·.1) := by
  have key : ∀ m : Model,
      (m.asDeclared.rowidsOf id).head?.map (·.1) = (m.rowidsOf id).head?.map (·.1) := by
    intro m
    rw [rowidsOf_asDeclared, List.head?_map, Option.map_map]
    rfl
  rw [← key, h, key]

theorem rowid_linked (hs : m.linked.struct? id = some s) :
    s.rowid = (m.linked.rowidsOf id).head?.map (·.1) := by
  have hsettled : Struct.Settled Struct.rowid :=
    ⟨fun _ _ => rfl, fun _ => rfl, fun _ _ => rfl, fun _ _ => rfl, fun _ _ => rfl⟩
  obtain ⟨y, hy, hview⟩ := struct?_walkable_of_linked hsettled (fun _ _ => rfl) hs
  have hrowid : y.rowid = ((numberEnums m).rowidsOf id).head?.map (·.1) := by
    simp only [walkable, resolveStructFields, keyed, resolveForeignKeys, typed, resolveValueTypes,
      resolveRowids, struct?, Array.getElem?_mapIdx, Option.map_map, Option.map_eq_some_iff] at hy
    obtain ⟨z, -, rfl⟩ := hy
    rfl
  rw [← hview]
  exact hrowid.trans (rowid_congr ((numberEnums_asDeclared m).trans asDeclared_linked.symm) id)

theorem emptyProblems_linked (h : m.ResolveOk) (hs : m.linked.struct? id = some s) :
    ∀ u ∈ s.updates, u.emptyProblems = [] := by
  have hsettled : Struct.Settled fun s => s.updates.flatMap Update.emptyProblems :=
    ⟨fun _ _ => rfl, fun _ => rfl, fun _ _ => rfl, fun _ _ => rfl, fun _ _ => rfl⟩
  have hroles : ∀ names (s : Struct), (s.bindRoles names).updates.flatMap Update.emptyProblems =
      s.updates.flatMap Update.emptyProblems := by
    intro names s
    apply flatMap_map_of_eq
    exact fun _ => rfl
  obtain ⟨y, hy, hview⟩ := struct?_walkable_of_linked hsettled hroles hs
  have hok := bound_walkable_struct h hy
  simp only [resolveStruct, resolveAll, Diagnostics.isOk_append, Bool.and_eq_true,
    Diagnostics.isOk_flatMap, resolveUpdate] at hok
  rw [← List.flatMap_eq_nil_iff, ← hview]
  simp only [resolveStruct, resolveAll, List.flatMap_map, List.flatMap_eq_nil_iff]
  intro u hu
  have hempty := (hok.1.2 u hu).1.1
  unfold Update.emptyProblems at hempty ⊢
  split at hempty
  · simp at hempty
  · rename_i hnot
    simpa [resolveUpdate, resolveAll] using hnot

theorem SameFields.collectJoins (h : SameFields m m') :
    ModelLinker.collectJoins m' = ModelLinker.collectJoins m := by
  funext room
  induction room with
  | zero => rfl
  | succ room ih =>
    funext before id state
    simp only [ModelLinker.collectJoins, h.embeds, field?, h.fields, ih]

theorem SameFields.joinsFrom (h : SameFields m m') (hsize : m'.structs.size = m.structs.size) :
    ModelLinker.joinsFrom m' = ModelLinker.joinsFrom m := by
  funext count ids
  induction ids generalizing count with
  | nil => rfl
  | cons id rest ih => simp only [ModelLinker.joinsFrom, h.collectJoins, hsize, ih]

theorem joins_linked (h : Diagnostics.isOk (assignJoins m.bound).2.2 = true)
    (hs : m.linked.struct? id = some s) :
    (ModelLinker.joinsFrom m.linked 0 m.linked.structIds).1[id.index]? = some s.joins := by
  have hview : m.linked.structs.map Struct.joins = m.joined.structs.map Struct.joins :=
    map_linked_joined (fun _ _ => rfl) (fun _ _ => rfl) (fun _ _ => rfl) m
  obtain ⟨x, hx, heq⟩ := struct?_of_map_eq hview hs
  rw [(sameFields_of_bound m).joinsFrom m.size_structs_linked,
    structIds_congr m.size_structs_linked, ← joins_assignJoins (isOk_assignJoins.1 h),
    List.getElem?_map, Array.getElem?_toList, ← heq]
  exact congrArg (Option.map Struct.joins) hx

theorem height_linked (hs : m.linked.struct? id = some s) :
    s.height = (Topology.ofModel m.linked).height id := by
  rw [ofModel_linked, Topology.height, heights_linked hs, Option.getD_some]

/-- Whether a search is unique can be seen from its conditions and the constraints of its
structure. -/
theorem unique_linked (hs : m.linked.struct? id = some s) :
    ∀ x ∈ s.searches, x.unique = isUniqueSearch m.linked s x := by
  have hview : m.linked.structs.map (fun s => (s.searches, s.uniques)) =
      m.marked.structs.map fun s => (s.searches, s.uniques) :=
    map_computeFlags (fun _ _ => rfl) _ _
  obtain ⟨y, hy, hsame⟩ := struct?_of_map_eq hview hs
  obtain ⟨hsearches, huniques⟩ := Prod.mk.inj hsame
  simp only [marked, markUniqueSearches, struct?, Array.getElem?_map, Option.map_eq_some_iff] at hy
  obtain ⟨z, -, rfl⟩ := hy
  have hfield : m.linked.field? = m.joined.field? := by
    funext id
    rw [field?, (sameFields_of_joined m).fields, field?]
  intro x hx
  rw [← hsearches, List.mem_map] at hx
  obtain ⟨x, -, rfl⟩ := hx
  simp only [isUniqueSearch, hfield, ← huniques]
  rfl

/-! ### roles -/

theorem parentTable_congr (hsize : m'.roles.size = m.roles.size)
    (hparent : m'.parentOf = m.parentOf) : m'.parentTable = m.parentTable := by
  apply Array.ext (by simp [parentTable, hsize])
  intro i hi hi'
  have hi : i < m'.roles.size := by simpa [parentTable] using hi
  have hi' : i < m.roles.size := by simpa [parentTable] using hi'
  have hsame := congrFun hparent ⟨i⟩
  simp only [parentOf, role?, Array.getElem?_eq_getElem hi, Array.getElem?_eq_getElem hi',
    Option.bind_some] at hsame
  simp only [parentTable, Array.getElem_map, hsame]

theorem childrenOf_congr (hsize : m'.roles.size = m.roles.size)
    (hparent : m'.parentOf = m.parentOf) : m'.childrenOf = m.childrenOf := by
  funext id
  rw [childrenOf_eq, childrenOf_eq, hsize, hparent]

theorem cycles_congr (hsize : m'.roles.size = m.roles.size) (hparent : m'.parentOf = m.parentOf) :
    Diagnostics.isOk (cycleProblems m') = Diagnostics.isOk (cycleProblems m) := by
  rw [Bool.eq_iff_iff, isOk_cycleProblems, isOk_cycleProblems, hsize,
    parentTable_congr hsize hparent]

theorem attach_children (names : Namespace) (r : Role) (children : List RoleId) :
    ({ r with children } : Role).attach names = { r.attach names with children } := by
  unfold Role.attach
  cases r.kind.isReserved with
  | true => rfl
  | false =>
    cases r.parentName with
    | none => rfl
    | some p =>
      have hsame : ∀ r', r'.name = r.name → declaredParent names r' p = declaredParent names r p :=
        fun r' hr => declaredParent_congr hr rfl
      cases hd : declaredParent names r p <;> simp [hsame, hd]

/-- Without circles a linked role is the role of before, attached to its parent. -/
theorem role?_linked (h : m.RolesOk) (id : RoleId) :
    m.linked.role? id = ((bindParents (.ofModel m) m.resolved).role? id).map fun r =>
      { r with children := (bindParents (.ofModel m) m.resolved).childrenOf id } := by
  have hbound : m.linked.role? id = (linkRoles (.ofModel m) m.resolved).1.role? id := by
    rw [role?, linked_roles]
    rfl
  rw [hbound, role?_linkRoles, breakParentCycles_of_isOk h.circles]

theorem parents_linked (h : m.RolesOk) :
    m.linked.roles.size = (bindParents (.ofModel m) m.resolved).roles.size ∧
      m.linked.parentOf = (bindParents (.ofModel m) m.resolved).parentOf := by
  constructor
  · rw [linked_roles]
    have := @size_roles_linkRoles m.resolved (.ofModel m)
    rwa [breakParentCycles_of_isOk h.circles] at this
  · funext id
    rw [parentOf, role?_linked h, Option.bind_map]
    rfl

/-! ### the whole model -/

/-- Structure-typed fields have the sources that they had when they were bound. -/
theorem sources_linked (m : Model) :
    ∀ f ∈ m.linked.fields, f.resolveStruct (.ofModel m.linked) m.linked = f := by
  intro f hf
  have hwalkable : Field.resolveStruct (.ofModel m.linked) m.linked =
      Field.resolveStruct (.ofModel m) m.walkable := by
    have hfield : m.linked.field? = m.walkable.field? := funext field?_linked
    funext f
    rw [names_linked]
    unfold Field.resolveStruct structSource
    rw [hfield]
  rw [linked_fields, walkable, resolveStructFields, Array.mem_map] at hf
  obtain ⟨f₀, -, rfl⟩ := hf
  rw [hwalkable]
  exact resolveStruct_again

theorem types_linked (m : Model) :
    ∀ f ∈ m.linked.fields, f.type.resolveValue (.ofModel m.linked) = f.type := by
  intro f hf
  cases hs : f.type.isStruct with
  | true =>
    obtain ⟨r, hr⟩ := FieldType.exists_of_isStruct hs
    rw [hr]
    rfl
  | false =>
    obtain ⟨i, hi⟩ := Array.mem_iff_getElem?.1 hf
    obtain ⟨g, hg, htype⟩ := @typed_of_linked m ⟨i⟩ f hi hs
    rw [field?_typed, Option.map_eq_some_iff] at hg
    obtain ⟨g₀, -, rfl⟩ := hg
    rw [names_linked, htype, resolveValue_again]

theorem keys_linked (h : m.ResolveOk) {id : FieldId} {f : Field} {k : ForeignKey}
    (hf : m.linked.field? id = some f) (hk : f.foreign = some k) :
    ∃ s tid t, KeyBound (.ofModel m.linked) m.linked id f k s tid t := by
  obtain ⟨s, tid, t, hb⟩ := walkable_foreign h (field?_linked id ▸ hf) hk
  rw [names_linked]
  exact ⟨s, tid, t, { hb with target := (field?_linked tid).trans hb.target }⟩

theorem Faultless.filledIn (h : m.Faultless) (hs : m.linked.struct? id = some s) :
    s.FilledIn m.linked id := by
  have hresolve := resolveOk_of_isOk h.resolve
  obtain ⟨hpaths, hdistincts, hlocals⟩ := linked_operations hresolve hs
  refine ⟨rowid_linked hs, hpaths, hdistincts, hlocals, emptyProblems_linked hresolve hs,
    fun r hr => ?_, joins_linked h.joins hs, fun p hp => join_linked hs hp, height_linked hs,
    unique_linked hs, linked_markedAt h.recursion hs⟩
  rw [names_linked]
  exact linked_grants (rolesOk_of_isOk h.roles) hs hr

/-- What a model without faults becomes is filled. -/
theorem Faultless.filled (h : m.Faultless) : m.linked.Filled := by
  have hresolve := resolveOk_of_isOk h.resolve
  have hroles := rolesOk_of_isOk h.roles
  obtain ⟨hsize, hparent⟩ := parents_linked hroles
  refine ⟨(Namespace.isOk_problems_iff.1 h.names).linked, ?_, m.types_linked,
    keys_linked hresolve, m.sources_linked, ?_, ?_, ?_, h.filledIn⟩
  · intro e he
    rw [linked_enums, numberEnums, Array.mem_map] at he
    obtain ⟨e₀, -, rfl⟩ := he
    simp only [Enumeration.number, numberItems_again]
  · intro r hr
    obtain ⟨i, hi⟩ := Array.mem_iff_getElem?.1 hr
    have hrole : m.linked.role? ⟨i⟩ = some r := hi
    rw [role?_linked hroles, role?_bindParents, Option.map_map, Option.map_eq_some_iff] at hrole
    obtain ⟨r₀, -, rfl⟩ := hrole
    simp only [Function.comp_apply, attach_children, names_linked, attach_again]
  · rw [cycles_congr hsize hparent]
    exact hroles.circles
  · intro id r hr
    rw [role?_linked hroles, Option.map_eq_some_iff] at hr
    obtain ⟨r₀, -, rfl⟩ := hr
    rw [childrenOf_congr hsize hparent]

end Model

end ModelLinker
