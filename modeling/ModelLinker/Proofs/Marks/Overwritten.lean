import ModelLinker.Proofs.Linked
import ModelLinker.Proofs.Marks
import ModelLinker.Proofs.Roles.Hierarchy

/-!
# Marks from before

A model can come with marks already, from an earlier run or from outside. No stage of linking looks
at them, and the stage that sets them reads a mark only after it has set it: a run does the same
whatever marks there are at its start (`linkRun_remark`). So a structure of a linked model is marked
as having absent parts exactly if its fields say so (`hasNullrefs_of_link`).
-/

namespace ModelLinker

open Relation

/-- The model with other marks. -/
def Model.remark (m : Model) (marks : StructId → StructFlags) : Model :=
  { m with structs := m.structs.mapIdx fun i s => { s with flags := marks ⟨i⟩ } }

/-! ### what does not look at marks -/

theorem map_eq_mapIdx {α β : Type} (f : α → β) (xs : Array α) :
    xs.map f = xs.mapIdx fun _ => f := by
  apply Array.ext (by simp)
  simp

section Lookups
variable (m : Model) (marks : StructId → StructFlags)

theorem remark_asDeclared : (m.remark marks).asDeclared = m.asDeclared := by
  simp only [Model.remark, Model.asDeclared]
  rw [map_mapIdx_of_eq]
  exact fun _ _ => rfl

@[simp] theorem struct?_remark (id : StructId) :
    (m.remark marks).struct? id = (m.struct? id).map fun s => { s with flags := marks id } := by
  simp [Model.remark, Model.struct?]

@[simp] theorem field?_remark : (m.remark marks).field? = m.field? := rfl

@[simp] theorem size_remark : (m.remark marks).structs.size = m.structs.size := by
  simp [Model.remark]

@[simp] theorem structIds_remark : (m.remark marks).structIds = m.structIds := by
  simp [Model.structIds]

@[simp] theorem fieldsOf_remark : (m.remark marks).fieldsOf = m.fieldsOf := by
  funext id
  simp only [Model.fieldsOf, struct?_remark, field?_remark]
  cases m.struct? id <;> rfl

@[simp] theorem embedded?_remark : (m.remark marks).embedded? = m.embedded? := rfl

@[simp] theorem embeds_remark : (m.remark marks).embeds = m.embeds := by
  funext id
  simp only [Model.embeds, fieldsOf_remark, embedded?_remark]

@[simp] theorem indexedStructs_remark : (m.remark marks).indexedStructs =
    m.indexedStructs.map fun e => (e.1, { e.2 with flags := marks e.1 }) := by
  simp only [Model.indexedStructs, Model.remark, Array.toList_mapIdx]
  apply List.ext_getElem (by simp)
  intro i h1 h2
  simp

theorem names_remark : Namespace.ofModel (m.remark marks) = Namespace.ofModel m :=
  Namespace.ofModel_congr (remark_asDeclared m marks)

variable (names : Namespace)

theorem names_problems_remark : names.problems (m.remark marks) = names.problems m := by
  have hpos : ∀ first place,
      (Namespace.earlier? (m.remark marks).structs first place).map Struct.pos =
        (Namespace.earlier? m.structs first place).map Struct.pos := by
    intro first place
    cases first with
    | none => rfl
    | some i =>
      by_cases hi : i = place <;> simp [Namespace.earlier?, hi, Model.remark, Function.comp_def]
  have hstruct : ∀ id s, names.structProblems (m.remark marks) id { s with flags := marks id } =
      names.structProblems m id s := by
    intro id s
    simp only [Namespace.structProblems, Namespace.fieldProblems, hpos, fieldsOf_remark]
  simp only [Namespace.problems, indexedStructs_remark, List.flatMap_map, hstruct]
  rfl

theorem resolveRowids_remark :
    resolveRowids (m.remark marks) = (resolveRowids m).remark marks := by
  simp only [resolveRowids, Model.rowidsOf, fieldsOf_remark]
  simp only [Model.remark, Array.mapIdx_mapIdx, Function.comp_def]

theorem allRowidProblems_remark : allRowidProblems (m.remark marks) = allRowidProblems m := by
  simp only [allRowidProblems, structIds_remark, Model.rowidsOf, fieldsOf_remark]

theorem resolveKey_remark (id : FieldId) (f : Field) (k : ForeignKey) :
    resolveKey names (m.remark marks) id f k = resolveKey names m id f k := by
  -- a key is bound to a structure, but only its name is looked at
  simp only [resolveKey, keyTarget, struct?_remark, field?_remark]
  cases hs : names.struct? k.targetStruct.name with
  | none => rfl
  | some sid =>
    cases hx : m.struct? sid with
    | none => simp [hx]
    | some s =>
      simp only [Option.bind_some, hx, Option.map_some]
      cases ht : (names.field? sid k.targetField.name).bind fun f =>
        (m.field? f).map fun x => (f, x) with
      | none => rfl
      | some target => rfl

theorem resolveForeignKeys_remark :
    resolveForeignKeys names (m.remark marks) = (resolveForeignKeys names m).remark marks := by
  have hvalid : validKeys names (m.remark marks) = validKeys names m := by
    simp only [validKeys, resolveKey_remark]
    rfl
  have hforeign : Field.resolveForeign names (m.remark marks) = Field.resolveForeign names m := by
    funext id f
    simp only [Field.resolveForeign, resolveKey_remark]
  simp only [resolveForeignKeys, hvalid, hforeign]
  simp only [Model.remark, Array.mapIdx_mapIdx, Function.comp_def]

theorem foreignKeyProblems_remark :
    foreignKeyProblems names (m.remark marks) = foreignKeyProblems names m := by
  have hforeign : Field.foreignProblems names (m.remark marks) = Field.foreignProblems names m := by
    funext id f
    simp only [Field.foreignProblems, resolveKey_remark]
  simp only [foreignKeyProblems, hforeign]
  rfl

theorem walkPath_remark (use : PathUse) (dotted : String) (origin : StructId)
    (path : List (NameRef FieldId)) :
    walkPath names (m.remark marks) use dotted origin path =
      walkPath names m use dotted origin path := by
  induction path generalizing origin with
  | nil => rfl
  | cons r rest ih => 
    simp only [walkPath, ih]
    rfl

theorem walkDistinct_remark (origin : StructId) (path : List (NameRef FieldId)) :
    walkDistinct names (m.remark marks) origin path = walkDistinct names m origin path := by
  induction path generalizing origin with
  | nil => rfl
  | cons r rest ih => 
    simp only [walkDistinct, ih]
    rfl

theorem resolveSearch_remark (origin : StructId) (x : Search) :
    resolveSearch names (m.remark marks) origin x = resolveSearch names m origin x := by
  have hpath : resolvePath names (m.remark marks) = resolvePath names m := by
    funext use origin p
    simp only [resolvePath, walkPath_remark]
  have hdistinct : resolveDistinct names (m.remark marks) = resolveDistinct names m := by
    funext origin d
    simp only [resolveDistinct, walkDistinct_remark]
  simp only [resolveSearch, hpath, hdistinct]

theorem resolveStruct_remark (id : StructId) (s : Struct) (fs : StructFlags) :
    resolveStruct names (m.remark marks) id { s with flags := fs } =
      ({ (resolveStruct names m id s).1 with flags := fs }, (resolveStruct names m id s).2) := by
  have hsearch : resolveSearch names (m.remark marks) id = resolveSearch names m id :=
    funext (resolveSearch_remark m marks names id)
  have hupdate : resolveUpdate names (m.remark marks) id = resolveUpdate names m id := rfl
  have hunique : resolveUnique names (m.remark marks) id = resolveUnique names m id := rfl
  simp only [resolveStruct, hsearch, hupdate, hunique]

theorem resolveQueries_remark :
    resolveQueries names (m.remark marks) = (resolveQueries names m).remark marks := by
  simp only [resolveQueries]
  simp only [Model.remark, Array.mapIdx_mapIdx, Function.comp_def]
  congr 2
  funext i s
  exact congrArg Prod.fst (resolveStruct_remark m marks names ⟨i⟩ s (marks ⟨i⟩))

theorem queryProblems_remark : queryProblems names (m.remark marks) = queryProblems names m := by
  simp only [queryProblems, indexedStructs_remark, List.flatMap_map, resolveStruct_remark]

theorem resolve_remark :
    resolve names (m.remark marks) = ((resolve names m).1.remark marks, (resolve names m).2) := by
  have hvalues : ∀ m : Model, resolveValueTypes names (m.remark marks) =
      (resolveValueTypes names m).remark marks := fun _ => rfl
  have hsources : ∀ m : Model, resolveStructFields names (m.remark marks) =
      (resolveStructFields names m).remark marks := fun _ => rfl
  have hnumber : numberEnums (m.remark marks) = (numberEnums m).remark marks := rfl
  simp only [resolve, hnumber, resolveRowids_remark, hvalues, resolveForeignKeys_remark, hsources,
    resolveQueries_remark, allRowidProblems_remark, foreignKeyProblems_remark,
    queryProblems_remark]
  rfl

/-- What is collected from structures without a look at their marks. -/
theorem flatMap_remark {β : Type} {g : Struct → List β}
    (hg : ∀ s fs, g { s with flags := fs } = g s) :
    (m.remark marks).structs.toList.flatMap g = m.structs.toList.flatMap g := by
  have hview := congrArg Array.toList (@map_mapIdx_of_eq _ _ g m.structs
    (fun i s => { s with flags := marks ⟨i⟩ }) fun i s => hg s _)
  simp only [Array.toList_map] at hview
  simp only [List.flatMap_def, Model.remark, hview]

theorem uniqueProblems_remark : uniqueProblems (m.remark marks) = uniqueProblems m :=
  flatMap_remark m marks fun _ _ => rfl

theorem operations_remark : (m.remark marks).operations = m.operations :=
  flatMap_remark m marks fun _ _ => rfl

theorem linkRoles_remark :
    linkRoles names (m.remark marks) =
      ((linkRoles names m).1.remark marks, (linkRoles names m).2) := by
  have hmaps : ∀ m : Model,
      bindRoleMaps names (m.remark marks) = (bindRoleMaps names m).remark marks := by
    intro m
    simp only [bindRoleMaps, Model.remark, map_eq_mapIdx, Array.mapIdx_mapIdx, Function.comp_def]
    rfl
  have hparents : ∀ m : Model,
      bindParents names (m.remark marks) = (bindParents names m).remark marks := fun _ => rfl
  have hcycles : ∀ m : Model,
      breakParentCycles (m.remark marks) = (breakParentCycles m).remark marks := fun _ => rfl
  have hchildren : ∀ m : Model,
      rebuildChildren (m.remark marks) = (rebuildChildren m).remark marks := fun _ => rfl
  have hgrants : ∀ m : Model, RoleMap.problems (m.remark marks) = RoleMap.problems m := by
    intro m
    have hchain : (m.remark marks).parentChain = m.parentChain := Model.parentChain_congr rfl
    funext g
    simp only [RoleMap.problems, overlapProblems, Model.isAncestor, Model.ancestors, hchain]
    rfl
  simp only [linkRoles, hmaps, hparents, hcycles, hchildren, grantNameProblems, grantProblems,
    reachabilityProblems, operations_remark, hgrants]
  rfl

theorem bindModel_remark (seed : Diagnostics) :
    bindModel seed (m.remark marks) =
      { bindModel seed m with model := (bindModel seed m).model.remark marks } := by
  simp only [bindModel, names_remark, names_problems_remark, resolve_remark, uniqueProblems_remark,
    linkRoles_remark]
  rfl

/-! ### order -/

theorem embedded_remark : (m.remark marks).embedded = m.embedded := by
  simp only [Model.embedded, Model.embeddings, structIds_remark, embeds_remark]

theorem recursionProblems_remark : recursionProblems (m.remark marks) = recursionProblems m := by
  simp only [recursionProblems, embedded_remark, structIds_remark, embeds_remark, size_remark]
  rfl

theorem collectJoins_remark (room : Nat) (before : Option String) (id : StructId)
    (state : JoinCount) :
    collectJoins (m.remark marks) room before id state = collectJoins m room before id state := by
  induction room generalizing before id state with
  | zero => rfl
  | succ room ih => 
    simp only [collectJoins, embeds_remark, field?_remark, ih]

theorem joinsFrom_remark (count : Nat) (ids : List StructId) :
    joinsFrom (m.remark marks) count ids = joinsFrom m count ids := by
  induction ids generalizing count with
  | nil => rfl
  | cons id rest ih => simp only [joinsFrom, collectJoins_remark, size_remark, ih]

theorem assignJoins_remark :
    assignJoins (m.remark marks) =
      ((assignJoins m).1.remark marks, (assignJoins m).2) := by
  simp only [assignJoins, joinsFrom_remark, structIds_remark]
  have hjoins : setJoins (joinsFrom m 0 m.structIds).1 (m.remark marks) =
      (setJoins (joinsFrom m 0 m.structIds).1 m).remark marks := by
    simp only [setJoins, Model.remark, Array.mapIdx_mapIdx, Function.comp_def]
    congr 2
    funext i s
    split <;> rfl
  simp only [hjoins]
  simp only [Model.remark, map_eq_mapIdx, Array.mapIdx_mapIdx, Function.comp_def]
  rfl

theorem setHeights_remark (t : Topology) :
    setHeights t (m.remark marks) = (setHeights t m).remark marks := by
  simp only [setHeights, Model.remark, Array.mapIdx_mapIdx, Function.comp_def]

theorem markUniqueSearches_remark :
    markUniqueSearches (m.remark marks) = (markUniqueSearches m).remark marks := by
  simp only [markUniqueSearches, Model.remark, map_eq_mapIdx, Array.mapIdx_mapIdx,
    Function.comp_def]
  rfl

theorem orderStructs_remark :
    orderStructs (m.remark marks) =
      { orderStructs m with model := (orderStructs m).model.remark marks } := by
  have htopology : ∀ m : Model, Topology.ofModel (m.remark marks) = Topology.ofModel m := fun m =>
    Model.ofModel_congr (size_remark m marks) (embeds_remark m marks)
  simp only [orderStructs, recursionProblems_remark, assignJoins_remark, htopology,
    setHeights_remark]
  split <;> rfl

theorem searchProblems_remark : searchProblems (m.remark marks) = searchProblems m :=
  flatMap_remark m marks fun _ _ => rfl

end Lookups

theorem sameFields_remark (m : Model) (marks : StructId → StructFlags) :
    Model.SameFields m (m.remark marks) := ⟨rfl, fieldsOf_remark m marks⟩

theorem computeFlags_remark {m : Model} {order : List StructId} {marks : StructId → StructFlags}
    (hall : ∀ id ∈ m.structIds, id ∈ order) (hself : ∀ id, ¬ m.Embeds id id)
    (hsorted : order.Pairwise fun a b => ¬ m.Embeds a b) :
    computeFlags order (m.remark marks) = computeFlags order m := by
  have hsame := sameFields_remark m marks
  have hstructs :
      (computeFlags order (m.remark marks)).structs = (computeFlags order m).structs := by
    apply Array.ext (by simp [size_computeFlags])
    intro i hi hi'
    have hlt : i < m.structs.size := by simpa [size_computeFlags] using hi'
    have hs : m.struct? ⟨i⟩ = some m.structs[i] := Array.getElem?_eq_getElem hlt
    obtain ⟨fs, hx⟩ := struct?_computeFlags order hs
    obtain ⟨fs', hx'⟩ := struct?_computeFlags order
      (show (m.remark marks).struct? ⟨i⟩ = _ by rw [struct?_remark, hs, Option.map_some])
    have hmark := (sameFields_computeFlags order m).symm.markedAt
      (computeFlags_markedAt hall hself hsorted hx)
    have hmark' := hsame.symm.markedAt ((sameFields_computeFlags order _).symm.markedAt
      (computeFlags_markedAt (by simpa using hall) (hsame.arrows ▸ hself)
        (hsame.arrows ▸ hsorted) hx'))
    obtain rfl : fs' = fs := hmark.flags_eq hmark' rfl
    have h1 : (computeFlags order m).structs[i]? = _ := hx
    have h2 : (computeFlags order (m.remark marks)).structs[i]? = _ := hx'
    rw [← Option.some.injEq, ← Array.getElem?_eq_getElem, ← Array.getElem?_eq_getElem, h1, h2]
  rw [computeFlags_eq order m, computeFlags_eq order (m.remark marks), hstructs]
  rfl

/-- A run does not see the marks that there are before it. -/
theorem linkRun_remark (seed : Diagnostics) (m : Model) (marks : StructId → StructFlags) :
    linkRun seed (m.remark marks) = linkRun seed m := by
  have hempty : (m.remark marks).structs.isEmpty = m.structs.isEmpty := by
    simp [Array.isEmpty]
  have hfinish : ∀ steps found,
      finishLinking steps ((markUniqueSearches (orderStructs m.bound).model).remark marks)
          (orderStructs m.bound).topology found =
        finishLinking steps (markUniqueSearches (orderStructs m.bound).model)
          (orderStructs m.bound).topology found := by
    intro steps found
    cases hrec : Diagnostics.isOk (recursionProblems m.bound) with
    | false => rw [orderStructs_of_not_isOk hrec]; rfl
    | true =>
      have hmodel : markUniqueSearches (orderStructs m.bound).model = m.marked :=
        congrArg markUniqueSearches (orderStructs_of_isOk hrec).1
      have htop : (orderStructs m.bound).topology = some m.topology :=
        (orderStructs_of_isOk hrec).2.1
      obtain ⟨hall, hself, hsorted⟩ := m.marked_sorted hrec
      rw [hmodel, htop]
      simp only [finishLinking, computeFlags_remark hall hself hsorted]
  simp only [linkRun_eq, hempty, bindModel_remark, orderStructs_remark, markUniqueSearches_remark,
    searchProblems_remark, bindModel_model, hfinish]

/-! ### parts that may be absent -/

namespace Model

/-- The structure has a structure-typed field that is bound to a nullable field with a foreign
key. -/
def HasNullableSource (m : Model) (s : StructId) : Prop :=
  ∃ e ∈ m.fieldsOf s, ∃ x gid g, e.2.type = .struct x ∧ x.target = some gid ∧
    m.field? gid = some g ∧ g.foreign.isSome = true ∧ g.flags.nullable = true

variable {m : Model}

/-- The reference that a structure-typed field shares starts at the field it is bound to. -/
theorem source_linked (h : m.ResolveOk) (hread : m.KeysReadable) {id : FieldId} {f : Field}
    (hf : m.linked.field? id = some f) {x : NameRef FieldId} (hx : f.type = .struct x) :
    ∃ gid g r, x.target = some gid ∧ m.linked.field? gid = some g ∧ g.foreign.isSome = true ∧
      f.reference = some r ∧ r.source = gid := by
  obtain ⟨gid, g, -, htarget, hg, -, hforeign, hshared, -⟩ :=
    walkable_struct h hread (field?_linked id ▸ hf) hx
  obtain ⟨k, hk⟩ := Option.isSome_iff_exists.1 hforeign
  obtain ⟨_, _, _, hkey⟩ := walkable_foreign h hg hk
  exact ⟨gid, g, _, htarget, (field?_linked gid).trans hg, hforeign,
    hshared.trans hkey.reference, rfl⟩

theorem hasNullable_linked (h : m.ResolveOk) (hread : m.KeysReadable) (s : StructId) :
    m.linked.HasNullable s ↔ m.linked.HasNullableSource s := by
  constructor
  · rintro ⟨e, hmem, hstruct, r, hr, source, hsource, hnull⟩
    obtain ⟨x, hx⟩ := FieldType.exists_of_isStruct hstruct
    obtain ⟨gid, g, r', htarget, hg, hforeign, hr', hgid⟩ :=
      source_linked h hread (field?_of_mem_fieldsOf hmem) hx
    obtain rfl : r = r' := Option.some.inj (hr.symm.trans hr')
    obtain rfl : source = g := Option.some.inj (hsource.symm.trans (hgid ▸ hg))
    exact ⟨e, hmem, x, gid, source, hx, htarget, hg, hforeign, hnull⟩
  · rintro ⟨e, hmem, x, gid, g, hx, htarget, hg, -, hnull⟩
    obtain ⟨gid', g', r, htarget', -, -, hr, hgid⟩ :=
      source_linked h hread (field?_of_mem_fieldsOf hmem) hx
    obtain rfl : gid = gid' := Option.some.inj (htarget.symm.trans htarget')
    refine ⟨e, hmem, ?_, r, hr, g, hgid ▸ hg, hnull⟩
    rw [hx]
    rfl

end Model

/-- A structure of a linked model is marked as having absent parts exactly if a chain of embeddings
leads from it to a structure-typed field with a nullable source. The source is the one that the
field refers through, and, where all foreign keys could be read, the one that its type names. Marks
from before the run do not matter. -/
theorem hasNullrefs_of_link :
    (∀ seed m l, linkWith seed m = .ok l → ∀ id s, l.model.struct? id = some s →
      (s.flags.hasNullrefs = true ↔
        ∃ t, ReflTransGen l.model.Embeds id t ∧ l.model.HasNullable t) ∧
      (m.KeysReadable → (s.flags.hasNullrefs = true ↔
        ∃ t, ReflTransGen l.model.Embeds id t ∧ l.model.HasNullableSource t))) ∧
    (∀ set l, SourceSet.Reached set → linkSources set = .ok l →
      ∀ id s, l.model.struct? id = some s → (s.flags.hasNullrefs = true ↔
        ∃ t, ReflTransGen l.model.Embeds id t ∧ l.model.HasNullableSource t)) ∧
    ∀ seed m marks, linkWith seed (Model.remark m marks) = linkWith seed m := by
  have key : ∀ {seed : Diagnostics} {m : Model} {l : Linked}, linkWith seed m = .ok l →
      ∀ {id s}, l.model.struct? id = some s →
      (s.flags.hasNullrefs = true ↔
        ∃ t, ReflTransGen l.model.Embeds id t ∧ l.model.HasNullable t) ∧
      (m.KeysReadable → (s.flags.hasNullrefs = true ↔
        ∃ t, ReflTransGen l.model.Embeds id t ∧ l.model.HasNullableSource t)) := by
    intro seed m l h id s hs
    obtain ⟨hresolve, -⟩ := Model.stagesOk_of_linkWith h
    rw [(Model.linked_of_linkWith h).1] at hs ⊢
    have hmark := (Model.linked_markedAt (faultless_of_linkWith h).2.recursion hs).nullrefs
    refine ⟨hmark, fun hread => hmark.trans ?_⟩
    simp only [Model.LeadsToNullable, Model.hasNullable_linked hresolve hread]
  refine ⟨fun seed m l h id s hs => key h hs, ?_, fun seed m marks => ?_⟩
  · intro set l hset h id s hs
    exact (key h hs).2 (Model.keysReadable_of_linkSources hset h)
  · simp only [linkWith, linkRun_remark]

/-- A structure with an identity and, if one is given, a field that embeds another structure of that
name through a key that may be nullable. -/
def relayStruct (name : String) (next : Option (String × Bool)) : Decl.Struct where
  name := name
  fields := { Decl.Field.bare "id" (.plain .int) none with rowid := true } ::
    next.toList.flatMap fun (target, nullable) =>
      [{ Decl.Field.bare (target ++ "_id") (.plain .int) none with
          references := some ⟨target ++ ".id", .cascade, .cascade⟩, nullable },
        .bare target .struct (some (target ++ "_id"))]
  searches := []
  updates := []
  deletes := []
  insert := none
  uniques := []
  place := none
  doc := none

/-- A parcel has a route, and the route may have a depot. -/
def relaySet : SourceSet := .ofDocuments [("relay",
  { structs := [relayStruct "parcel" (some ("route", false)),
      relayStruct "route" (some ("depot", true)), relayStruct "depot" none]
    enums := [], bitfields := [], roles := [] })]

theorem relaySet_links : ∃ l, linkSources relaySet = .ok l := by
  have hfaultless : relaySet.FaultlessBy (2 - ·.index) := by
    simp only [SourceSet.FaultlessBy, Model.bindingProblems, Model.marked, Model.topology,
      Model.joined, Model.bound, Model.resolved, Namespace.ofModel_eq_scan]
    decide +kernel
  exact hfaultless.links

/-- A parcel embeds a route, which has a nullable field, and a depot embeds nothing. -/
theorem relaySet_embeds :
    (⟨2⟩, ⟨1⟩) ∈ relaySet.model.bound.embeds ⟨0⟩ ∧ relaySet.model.bound.HasNullable ⟨1⟩ ∧
      relaySet.model.bound.embeds ⟨2⟩ = [] ∧ ¬ relaySet.model.bound.HasNullable ⟨2⟩ := by
  simp only [Model.bound, Model.resolved, Namespace.ofModel_eq_scan]
  decide +kernel

theorem relaySet_leadsToNullable :
    relaySet.model.linked.LeadsToNullable ⟨0⟩ ∧ ¬ relaySet.model.linked.LeadsToNullable ⟨2⟩ := by
  obtain ⟨hembeds, hnull, hlast, hnone⟩ := relaySet_embeds
  rw [(Model.sameFields_of_bound relaySet.model).leadsToNullable]
  refine ⟨⟨⟨1⟩, .single ⟨_, hembeds⟩, hnull⟩, fun h => ?_⟩
  rcases Model.leadsToNullable_iff.1 h with h | ⟨t, ⟨id, ht⟩, -⟩
  · exact hnone h
  · rw [hlast] at ht
    cases ht

/-- A parcel has absent parts, though only its route has a nullable field, and a depot has none. All
that is so if every mark was set before. -/
theorem hasNullrefs_of_relaySet :
    ∃ l, linkSources relaySet = .ok l ∧
      (∃ s, l.model.struct? ⟨0⟩ = some s ∧ s.flags.hasNullrefs = true ∧
        ∃ t, ReflTransGen l.model.Embeds ⟨0⟩ t ∧ l.model.HasNullableSource t) ∧
      (∃ s, l.model.struct? ⟨2⟩ = some s ∧ s.flags.hasNullrefs = false) ∧
      linkWith [] (relaySet.model.remark fun _ => ⟨true, true, true, true⟩) = .ok l := by
  obtain ⟨l, hset⟩ := relaySet_links
  have hrun : linkWith [] relaySet.model = .ok l := hset
  have hmodel := (Model.linked_of_linkWith hrun).1
  have hreached : relaySet.Reached := SourceSet.reached_ofDocuments _
  have hsize : l.model.structs.size = 3 := by
    rw [hmodel, Model.size_structs_congr Model.asDeclared_linked]
    rfl
  obtain ⟨hfirst, hlast⟩ := relaySet_leadsToNullable
  rw [← hmodel] at hfirst hlast
  obtain ⟨hmarks, hsets, hremark⟩ := hasNullrefs_of_link
  have hstruct : ∀ i (hi : i < l.model.structs.size),
      l.model.struct? ⟨i⟩ = some l.model.structs[i] := fun i hi => Array.getElem?_eq_getElem hi
  have h0 := hstruct 0 (by omega)
  have h2 := hstruct 2 (by omega)
  have hnull := (hmarks [] _ l hrun _ _ h0).1.2 hfirst
  refine ⟨l, hset, ⟨_, h0, hnull, (hsets _ l hreached hset _ _ h0).1 hnull⟩, ⟨_, h2, ?_⟩, ?_⟩
  · rw [← Bool.not_eq_true, (hmarks [] _ l hrun _ _ h2).1]
    exact hlast
  · rw [hremark, hrun]

end ModelLinker
