import ModelLinker.Proofs.Channels
import ModelLinker.Proofs.Relinked.Stages

/-!
# What is wrong with a linked model

Linking a linked model finds what it found before: the same warnings, in the same order
(`Model.Faultless.problems_linked`). Some stages look at declared data only, and some at data that
no later stage changes; others report errors alone, and neither run has any.
-/

namespace ModelLinker

open Diagnostics (isOk)

/-! ### stages that look at what is declared -/

section Declared

variable {m m' : Model} (names : Namespace)

theorem allRowidProblems_congr (h : m'.asDeclared = m.asDeclared) :
    allRowidProblems m' = allRowidProblems m := by
  have hrowid : ∀ (earlier : List (FieldId × Field)) (e : FieldId × Field),
      rowidProblems (earlier.map fun e => (e.1, e.2.asDeclared)) (e.1, e.2.asDeclared) =
        rowidProblems earlier e := by
    intro earlier e
    cases ht : e.2.type <;>
      simp [rowidProblems, Field.asDeclared, FieldType.asDeclared, ht]
  have key : ∀ m : Model, allRowidProblems m.asDeclared = allRowidProblems m := by
    intro m
    have hids : m.asDeclared.structIds = m.structIds := by simp [Model.structIds, Model.asDeclared]
    simp only [allRowidProblems, hids, Model.rowidsOf_asDeclared]
    congr 1
    funext id
    exact withEarlier_map _ _ _ hrowid [] _
  rw [← key, h, key]

theorem valueTypeProblems_congr (h : m'.asDeclared = m.asDeclared) :
    valueTypeProblems names m' = valueTypeProblems names m := by
  have key : ∀ m : Model, valueTypeProblems names m.asDeclared = valueTypeProblems names m := by
    intro m
    simp only [valueTypeProblems, Model.asDeclared, Array.toList_map, List.flatMap_map]
    congr 1
    funext f
    simp only [Field.asDeclared]
    cases f.type <;> rfl
  rw [← key, h, key]

theorem parentProblems_congr (h : m'.asDeclared = m.asDeclared) :
    parentProblems names m' = parentProblems names m := by
  have key : ∀ m : Model, parentProblems names m.asDeclared = parentProblems names m := by
    intro m
    simp only [parentProblems, Model.asDeclared, Array.toList_map, List.flatMap_map]
    congr 1
    funext r
    simp only [Role.parentProblems, Role.asDeclared]
    cases r.parentName <;> rfl
  rw [← key, h, key]

end Declared

/-! ### stages that look at fields, at embeddings and at roles -/

section Kept

variable {m m' : Model}

theorem recursionProblems_congr (h : Model.SameFields m m')
    (hsize : m'.structs.size = m.structs.size) : recursionProblems m' = recursionProblems m := by
  have hfield : m'.field? = m.field? := funext fun id => by
    rw [Model.field?, h.fields, Model.field?]
  have hembedded : m'.embedded = m.embedded := by
    rw [Model.embedded, Model.embeddings, Model.structIds_congr hsize, h.embeds]
    rfl
  unfold recursionProblems
  rw [hembedded, Model.structIds_congr hsize, hsize, h.embeds, hfield]

theorem joinProblems_congr (h : Model.SameFields m m')
    (hsize : m'.structs.size = m.structs.size) : (assignJoins m').2.2 = (assignJoins m).2.2 := by
  simp only [assignJoins, Model.structIds_congr hsize, h.joinsFrom hsize]

theorem uniqueProblems_congr
    (h : m'.structs.map Struct.uniques = m.structs.map Struct.uniques) :
    uniqueProblems m' = uniqueProblems m := by
  have key : ∀ m : Model, uniqueProblems m =
      (m.structs.map Struct.uniques).toList.flatMap clashProblems := fun m => by
    simp only [uniqueProblems, Array.toList_map, List.flatMap_map]
  rw [key, key, h]

theorem operations_congr
    (h : m'.structs.map Struct.operations = m.structs.map Struct.operations) :
    m'.operations = m.operations := by
  have key : ∀ m : Model, m.operations =
      (m.structs.map Struct.operations).toList.flatten := fun m => by
    simp only [Model.operations, Array.toList_map, List.flatMap_def]
  rw [key, key, h]

theorem grantProblems_congr (hroles : m'.roles = m.roles) (hops : m'.operations = m.operations) :
    grantProblems m' = grantProblems m := by
  have hmap : RoleMap.problems m' = RoleMap.problems m := by
    funext g
    simp only [RoleMap.problems, overlapProblems, Model.isAncestor, Model.ancestors,
      Model.parentChain_congr hroles, hroles, Model.roleName, Model.role?]
  rw [grantProblems, hops, hmap, grantProblems]

theorem reachabilityProblems_congr (hroles : m'.roles = m.roles)
    (hops : m'.operations = m.operations) : reachabilityProblems m' = reachabilityProblems m := by
  have hdeclared : m'.hasDeclaredRoles = m.hasDeclaredRoles := by
    rw [Model.hasDeclaredRoles, hroles, Model.hasDeclaredRoles]
  rw [reachabilityProblems, hdeclared, hops, reachabilityProblems]

theorem searchProblems_congr (hfields : m'.fields = m.fields)
    (hs : m'.structs.map Struct.searches = m.structs.map Struct.searches) :
    searchProblems m' = searchProblems m := by
  have key : ∀ m : Model, searchProblems m = (m.structs.map Struct.searches).toList.flatMap
      fun xs => xs.flatMap fun x => x.conditionProblems m ++ x.groupProblems m := fun m => by
    simp only [searchProblems, Array.toList_map, List.flatMap_map]
  have hfield : m'.field? = m.field? := funext fun id => by
    rw [Model.field?, hfields, Model.field?]
  have hsearch : ∀ x : Search, x.conditionProblems m' ++ x.groupProblems m' =
      x.conditionProblems m ++ x.groupProblems m := fun x => by
    unfold Search.conditionProblems Search.groupProblems Model.boundField?
    rw [hfield]
  simp only [key, hs, hsearch]

end Kept

/-! ### what a filled model has wrong -/

theorem grantNameProblems_eq_nil {names : Namespace} {m : Model}
    (h : isOk (grantNameProblems names m) = true) : grantNameProblems names m = [] := by
  simp only [grantNameProblems, Diagnostics.isOk_flatMap, isOk_nameProblems] at h
  simp only [grantNameProblems, RoleMap.nameProblems, List.flatMap_eq_nil_iff]
  intro op hop g hg r hr
  obtain ⟨id, hid⟩ := h op hop g hg r hr
  rw [hid]

theorem settled_operations : Struct.Settled Struct.operations where
  joins _ _ := rfl
  paths s := by simp [Struct.operations, Struct.bindJoins, Function.comp_def]
  height _ _ := rfl
  unique s f := by simp [Struct.operations, Function.comp_def]
  flags _ _ := rfl

namespace Model

variable {m : Model}

/-- What resolving references reports, apart from foreign keys and operations. -/
def referenceProblems (m : Model) : Diagnostics :=
  enumProblems m ++ bitfieldProblems m ++ allRowidProblems m ++ valueTypeProblems (.ofModel m) m ++
    structFieldProblems (.ofModel m) m ++ validationProblems m

/-- What there is to report on a model of which everything is bound. -/
def remainingProblems (m : Model) : Diagnostics :=
  m.referenceProblems ++ uniqueProblems m ++
    (parentProblems (.ofModel m) m ++ grantProblems m ++ reachabilityProblems m) ++
    (recursionProblems m ++ (assignJoins m).2.2) ++ searchProblems m

theorem referenceProblems_relist (m : Model) (list : StructId → List FieldId → List FieldId) :
    (m.relist list).referenceProblems = m.referenceProblems := by
  have hdeclared := m.asDeclared_relist list
  rw [referenceProblems, m.names_relist, allRowidProblems_congr hdeclared,
    valueTypeProblems_congr _ hdeclared]
  rfl

/-- It does not depend on which fields are listed as referring to structures. -/
theorem remainingProblems_relist (m : Model) (list : StructId → List FieldId → List FieldId) :
    (m.relist list).remainingProblems = m.remainingProblems := by
  have hfields := m.sameFields_relist list
  have hsize := m.size_relist list
  have hroles : (m.relist list).roles = m.roles := rfl
  have hops := operations_congr (m.map_relist list fun _ _ => rfl)
  rw [remainingProblems, m.names_relist, m.referenceProblems_relist,
    uniqueProblems_congr (m.map_relist _ fun _ _ => rfl),
    parentProblems_congr _ (m.asDeclared_relist list), grantProblems_congr hroles hops,
    reachabilityProblems_congr hroles hops, recursionProblems_congr hfields hsize,
    joinProblems_congr hfields hsize,
    searchProblems_congr hfields.fields (m.map_relist _ fun _ _ => rfl), remainingProblems]

namespace Filled

variable (h : m.Filled)

include h

theorem resolve : ModelLinker.resolve (.ofModel m) m =
    (m.refer m.referring, m.referenceProblems) := by
  have hrefer : (m.refer m.referring).Filled := h.relist _
  have hnames : Namespace.ofModel (m.refer m.referring) = Namespace.ofModel m := m.names_relist _
  have hsources := hrefer.resolveStructFields
  obtain ⟨hqueries, hqueryProblems⟩ := hrefer.resolveQueries
  rw [hnames] at hsources hqueries hqueryProblems
  simp only [ModelLinker.resolve, h.numberEnums, h.resolveRowids, h.resolveValueTypes,
    h.resolveForeignKeys, hsources, hqueries, h.foreignKeyProblems, hqueryProblems, List.append_nil]
  rfl

theorem linkRoles : ModelLinker.linkRoles (.ofModel m) m =
    (m, parentProblems (.ofModel m) m ++ grantProblems m ++ reachabilityProblems m) := by
  have hgrants : grantNameProblems (.ofModel m) m = [] := by
    refine grantNameProblems_eq_nil ?_
    simp only [grantNameProblems, operations, Diagnostics.isOk_flatMap, List.mem_flatMap,
      isOk_nameProblems]
    rintro op ⟨s, hs, hop⟩ g hg r hr
    obtain ⟨i, hi⟩ := Array.mem_iff_getElem?.1 (Array.mem_toList_iff.1 hs)
    obtain ⟨rid, hn, -, hne⟩ := (@structs m h ⟨i⟩ s hi).grants r
      (List.mem_flatMap.2 ⟨op, hop, List.mem_flatMap.2 ⟨g, hg, hr⟩⟩)
    exact ⟨rid, grantedRole_ok.2 ⟨hn, hne⟩⟩
  simp only [ModelLinker.linkRoles, h.bindParents, breakParentCycles_of_isOk h.circles,
    h.rebuildChildren, h.bindRoleMaps, cycleProblems_eq_nil h.circles, hgrants, List.append_nil]

theorem resolved : m.resolved = m.refer m.referring := by
  rw [Model.resolved, h.resolve]

/-- The roles are linked in the model in which the references are listed once more. -/
theorem linkRoles_resolved : ModelLinker.linkRoles (.ofModel m) m.resolved =
    (m.resolved, parentProblems (.ofModel m) m.resolved ++ grantProblems m.resolved ++
      reachabilityProblems m.resolved) := by
  have hlink := (h.relist fun id before => before ++ m.referring id).linkRoles
  rw [names_relist] at hlink
  rwa [h.resolved]

theorem bound : m.bound = m.refer m.referring := by
  rw [Model.bound, h.linkRoles_resolved, h.resolved]

theorem joined : m.joined = m.refer m.referring := by
  rw [Model.joined, h.bound]
  exact (h.relist _).assignJoins

theorem topology : m.topology = Topology.ofModel m := by
  rw [Model.topology, h.joined]
  exact ofModel_congr (m.size_relist _) (m.sameFields_relist _).embeds

theorem marked : m.marked = m.refer m.referring := by
  have hrefer : (m.refer m.referring).Filled := h.relist _
  rw [Model.marked, Model.topology, h.joined, hrefer.setHeights, hrefer.markUniqueSearches]

/-- Linking a filled model lists the references once more, and does nothing else. -/
theorem linked : m.linked = m.refer m.referring := by
  rw [Model.linked, h.marked]
  exact (h.relist _).computeFlags _

/-- Nothing is wrong with names, nor with anything that refers to other parts by name. -/
theorem problems : m.problems = m.remainingProblems := by
  have hagain := m.remainingProblems_relist fun id before => before ++ m.referring id
  rw [remainingProblems, m.names_relist, m.referenceProblems_relist] at hagain
  rw [Model.problems, bindingProblems, Namespace.problems_eq_nil h.names, h.linkRoles_resolved,
    h.bound, h.marked, h.resolve, h.resolved, List.nil_append, ← hagain]
  rfl

end Filled

/-! ### what a linked model has wrong -/

theorem structFieldProblems_linked (m : Model) :
    structFieldProblems (.ofModel m) m.linked = structFieldProblems (.ofModel m) m.keyed := by
  have hfield : m.linked.field? = m.walkable.field? := funext field?_linked
  have hsource : structSource (.ofModel m) m.linked = structSource (.ofModel m) m.keyed := by
    funext f r
    refine Eq.trans ?_ (structSource_resolveStructFields f r)
    unfold structSource
    rw [hfield]
    rfl
  have hproblems : ∀ f : Field, (f.resolveStruct (.ofModel m) m.keyed).structProblems (.ofModel m)
      m.linked = f.structProblems (.ofModel m) m.keyed := by
    intro f
    have hparent : (f.resolveStruct (.ofModel m) m.keyed).parent = f.parent := resolveStruct_parent
    rcases @resolveStruct_type (.ofModel m) m.keyed f with heq | ⟨r, id, heq, heq'⟩
    · simp only [Field.structProblems, heq, hsource, structSource_congr hparent rfl]
    · have hname : (r.bind id).name = r.name := rfl
      simp only [Field.structProblems, heq, heq', hsource, structSource_congr hparent hname]
      rfl
  simp only [structFieldProblems, linked_fields, walkable, resolveStructFields, Array.toList_map,
    List.flatMap_map, hproblems]

theorem RolesOk.problems (h : m.RolesOk) : (ModelLinker.linkRoles (.ofModel m) m.resolved).2 =
    parentProblems (.ofModel m) m.resolved ++ grantProblems m.bound ++
      reachabilityProblems m.bound := by
  have hgrants := grantNameProblems_eq_nil h.grants
  have hops : grantNameProblems (.ofModel m) (rebuildChildren (breakParentCycles
      (bindParents (.ofModel m) m.resolved))) = grantNameProblems (.ofModel m) m.resolved := rfl
  simp only [ModelLinker.linkRoles, cycleProblems_eq_nil h.circles, hops, hgrants, List.append_nil]
  rfl

/-- Resolving references reports errors or nothing, and on a linked model what it reported before. -/
theorem Faultless.referenceProblems_linked (h : m.Faultless) :
    (ModelLinker.resolve (.ofModel m) m).2 = [] ∧ m.linked.referenceProblems = [] := by
  have hresolve : (ModelLinker.resolve (.ofModel m) m).2 = [] :=
    ((within_resolve _ m).mono (by simp)).eq_nil h.resolve
  refine ⟨hresolve, ?_⟩
  have hdeclared : ∀ {m' : Model}, m'.asDeclared = m.asDeclared →
      m.linked.asDeclared = m'.asDeclared := fun h => asDeclared_linked.trans h.symm
  simp only [ModelLinker.resolve, referenceProblems, List.append_eq_nil_iff, names_linked]
    at hresolve ⊢
  obtain ⟨⟨⟨⟨⟨⟨⟨henums, hbits⟩, hrowids⟩, htypes⟩, -⟩, hsources⟩, hvalidations⟩, -⟩ := hresolve
  refine ⟨⟨⟨⟨⟨?_, ?_⟩, ?_⟩, ?_⟩, ?_⟩, ?_⟩
  · rwa [enumProblems, linked_enums]
  · rwa [bitfieldProblems, linked_bitfields]
  · rwa [allRowidProblems_congr (hdeclared (numberEnums_asDeclared m))]
  · rwa [valueTypeProblems_congr _ (hdeclared
      ((resolveRowids_asDeclared _).trans (numberEnums_asDeclared m)))]
  · rwa [structFieldProblems_linked]
  · rwa [validationProblems, linked_fields]

/-- Marks on structures change nothing about their searches. -/
theorem searchProblems_linked : searchProblems m.linked = searchProblems m.marked :=
  searchProblems_congr (computeFlags_fields _ _) (map_computeFlags (fun _ _ => rfl) _ _)

/-- Linking a linked model finds what was found when it was linked. -/
theorem Faultless.problems_linked (h : m.Faultless) : m.linked.problems = m.problems := by
  obtain ⟨hresolve, hagain⟩ := h.referenceProblems_linked
  have hfields := sameFields_of_bound m
  have hops := operations_congr (@map_linked_bound m _ _ settled_operations)
  have huniques : uniqueProblems m.linked = uniqueProblems m.resolved := by
    refine uniqueProblems_congr (map_linked ?_ fun _ _ => rfl)
    exact ⟨fun _ _ => rfl, fun _ => rfl, fun _ _ => rfl, fun _ _ => rfl, fun _ _ => rfl⟩
  rw [h.filled.problems, remainingProblems, names_linked, hagain, huniques, searchProblems_linked,
    parentProblems_congr _ (asDeclared_linked.trans asDeclared_resolved.symm),
    grantProblems_congr m.linked_roles hops, reachabilityProblems_congr m.linked_roles hops,
    recursionProblems_congr hfields m.size_structs_linked,
    joinProblems_congr hfields m.size_structs_linked, Model.problems, bindingProblems, hresolve,
    Namespace.problems_eq_nil (Namespace.isOk_problems_iff.1 h.names),
    (rolesOk_of_isOk h.roles).problems]
  rfl

end Model

end ModelLinker
