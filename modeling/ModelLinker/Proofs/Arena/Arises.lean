import ModelLinker.Proofs.Arena.Documents
import ModelLinker.Proofs.Graph.Generations
import ModelLinker.Proofs.Linked
import ModelLinker.Proofs.Renumber.Sources

/-!
# No index leads nowhere

Models are put together part by part and from documents, and stages of linking run on them, in any
order and whatever they find wrong (`Model.Arises`). In all of them the indices hold together
(`Model.Integral`), and so every lookup that a stage or a comparison of models makes finds a part
(`Model.Intact`, `Model.intact_of_arises`).
-/

namespace ModelLinker

namespace Model

/-- The models that come about by adding parts and documents, by attaching foreign keys and
operations, and by stages of linking. What is added holds no reference, and names in it are not
bound, or to parts that are there. -/
inductive Arises : Model → Prop where
  | empty : Arises .empty
  | struct {m} (name : String) (pos : Pos) : Arises m → Arises (m.addStruct (.new name pos)).1
  | field {m} (f : Field) : Arises m → f.Fits m.extent → f.reference = none →
      Arises (m.addField f).1
  | enum {m} (e : Enumeration) : Arises m → Arises (m.addEnum e).1
  | bitfield {m} (b : Bitfield) : Arises m → Arises (m.addBitfield b).1
  | role {m} (name : String) (pos : Pos) (parent : Option (NameRef RoleId)) (doc : Option String) :
      Arises m → (∀ p ∈ parent, p.Fits m.extent.HasRole) →
      Arises (m.addRole (.declared name pos parent doc)).1
  | document {d : Draft} (file : String) (doc : Decl.Document) : Arises d.model →
      Arises (d.addDocument file doc).model
  | key {m} (id : FieldId) (k : ForeignKey) : Arises m → k.Fits m.extent →
      Arises (m.modifyField id fun f => { f with foreign := some k })
  | operations {m} (id : StructId) (o : Struct) : Arises m → o.NamesFit m.extent →
      Arises (m.modifyStruct id fun s => s.withOperations o)
  | stage {m} (s : Stage) : Arises m → Arises (s.run m)

end Model

/-! ### models that come about -/

theorem SourceSet.arises_addJson {set : SourceSet} (h : set.model.Arises) (name : String)
    (j : Json) : (set.addJson name j).model.Arises := by
  unfold addJson addLoaded
  split
  · exact .document (d := ⟨set.draft.model, _⟩) name _ h
  · exact h

/-- The model of a set of documents comes about. -/
theorem SourceSet.Reached.arises {set : SourceSet} (h : set.Reached) : set.model.Arises := by
  induction h with
  | empty => exact .empty
  | document name d _ ih => exact .document name d ih
  | json name j _ ih => exact arises_addJson ih name j
  | file name content _ hfile ih =>
    obtain ⟨j, rfl⟩ := addFile_eq_ok hfile
    exact arises_addJson ih name j

namespace Model

variable {m : Model}

theorem Arises.integral (h : m.Arises) : m.Integral := by
  induction h with
  | empty => exact integral_empty
  | struct name pos _ ih =>
    refine ih.addStruct rfl ⟨⟨?_, ?_, ?_, ?_⟩, ?_, ?_, ?_⟩ <;>
      simp [Struct.new, Struct.paths, Struct.distincts, Struct.locals, Struct.grants,
        Struct.operations]
  | field f _ hf _ ih => exact ih.addField hf
  | enum e _ ih => exact ih.addEnum e
  | bitfield b _ ih => exact ih.addBitfield b
  | role name pos parent doc _ hparent ih =>
    exact ih.addRole ⟨hparent, by simp [Role.declared], by simp [Role.declared]⟩ rfl
  | document file doc _ ih => exact Draft.integral_addDocument ih file doc
  | key id k _ hk ih => exact ih.setKey id hk
  | operations id o _ ho ih => exact ih.setOperations id ho
  | stage s _ ih => exact ih.run s

/-! ### lookups that find something -/

/-- The fields that structures list are there, and names stand for parts. -/
structure NamesFound (m : Model) : Prop where
  listed : ∀ {sid s}, m.struct? sid = some s → (m.fieldsOf sid).map (·.1) = s.fields
  struct : ∀ {n id}, (Namespace.ofModel m).struct? n = some id → ∃ s, m.struct? id = some s
  field : ∀ {sid n id}, (Namespace.ofModel m).field? sid n = some id → ∃ f, m.field? id = some f
  enum : ∀ {n id}, (Namespace.ofModel m).enum? n = some id → ∃ e, m.enums[id.index]? = some e
  bitfield : ∀ {n id}, (Namespace.ofModel m).bitfield? n = some id →
    ∃ b, m.bitfields[id.index]? = some b
  role : ∀ {n id}, (Namespace.ofModel m).role? n = some id → ∃ r, m.role? id = some r
  findStruct : ∀ {n id}, m.findStruct? n = some id → ∃ s, m.struct? id = some s
  findField : ∀ {sid n id}, m.findField? sid n = some id → ∃ f, m.field? id = some f

/-- Owners, sources and targets are there. -/
structure ReferencesFound (m : Model) : Prop where
  owner : ∀ {id f}, m.field? id = some f → ∃ s, m.struct? f.parent = some s
  source : ∀ {id f r}, m.field? id = some f → f.reference = some r →
    ∃ g, m.field? r.source = some g
  target : ∀ {id f r}, m.field? id = some f → f.reference = some r →
    ∃ g s, m.field? r.target = some g ∧ m.struct? g.parent = some s
  key : ∀ {sid id}, (sid, id) ∈ validKeys (.ofModel m) m →
    (∃ s, m.struct? sid = some s) ∧ ∃ f, m.field? id = some f

/-- Embedded structures are there, and so are those that are put in order. -/
structure EmbeddingsFound (m : Model) : Prop where
  step : ∀ {id f r}, m.field? id = some f → f.type.isStruct = true → f.reference = some r →
    ∃ t s, m.embedded? f = some t ∧ m.struct? t = some s
  embeds : ∀ {sid id t}, (id, t) ∈ m.embeds sid →
    (∃ f, m.field? id = some f) ∧ ∃ s, m.struct? t = some s
  embedded : ∀ {i j}, j ∈ m.embedded i → j < m.structs.size
  order : ∀ id ∈ (Topology.ofModel m).order, ∃ s, m.struct? id = some s
  heights : (Topology.ofModel m).heights.length = m.structs.size
  generations : (Topology.ofModel m).generations.length = m.structs.size

/-- The fields that operations and constraints are bound to are there. -/
structure OperationsFound (m : Model) : Prop where
  path : ∀ s ∈ m.structs, ∀ p ∈ s.paths, ∀ r ∈ p, ∀ id ∈ r.target, ∃ f, m.field? id = some f
  field : ∀ s ∈ m.structs, ∀ p : FieldPath, p.segments ∈ s.paths → ∀ id ∈ p.field,
    ∃ f, m.field? id = some f
  distinct : ∀ s ∈ m.structs, ∀ d ∈ s.distincts, ∀ t ∈ d.target, ∃ u, m.struct? t = some u
  locals : ∀ s ∈ m.structs, ∀ r ∈ s.locals, ∀ id ∈ r.target, ∃ f, m.field? id = some f

/-- The parents, children and ancestors of roles are there, also while circles are cut. -/
structure RolesFound (m : Model) : Prop where
  parent : ∀ {id p}, m.parentOf id = some p → ∃ r, m.role? p = some r
  ancestor : ∀ {id a}, a ∈ m.ancestors id → ∃ r, m.role? a = some r
  child : ∀ r ∈ m.roles, ∀ c ∈ r.children, ∃ q, m.role? c = some q
  cutting : ∀ (ns : List Nat) {n p},
    (ns.foldl (Parents.cut RoleId.all.index) (m.parentTable, [])).1.parent n = some p →
      p < m.roles.size
  cut : ∀ i ∈ (Parents.cutCircles RoleId.all.index m.parentTable).2, ∃ r, m.role? ⟨i⟩ = some r
  granted : ∀ s ∈ m.structs, ∀ r ∈ s.grants, ∀ id ∈ r.target, ∃ q, m.role? id = some q

/-- A model in which indices hold together and every lookup finds something. -/
structure Intact (m : Model) : Prop where
  integral : m.Integral
  names : m.NamesFound
  references : m.ReferencesFound
  embeddings : m.EmbeddingsFound
  operations : m.OperationsFound
  roles : m.RolesFound

/-! ### indices that hold together -/

theorem exists_struct? {id : StructId} (h : m.extent.HasStruct id) : ∃ s, m.struct? id = some s :=
  ⟨_, Array.getElem?_eq_getElem h⟩

theorem exists_field? {id : FieldId} (h : m.extent.HasField id) : ∃ f, m.field? id = some f :=
  ⟨_, Array.getElem?_eq_getElem h⟩

theorem mem_embeds {sid t : StructId} {id : FieldId} (he : (id, t) ∈ m.embeds sid) :
    ∃ f, (id, f) ∈ m.fieldsOf sid ∧ m.embedded? f = some t := by
  obtain ⟨⟨id, f⟩, hf, he⟩ := List.mem_filterMap.1 he
  obtain ⟨t, ht, heq⟩ := Option.map_eq_some_iff.1 he
  cases heq
  exact ⟨f, hf, ht⟩

theorem exists_field?_of_embeds {sid t : StructId} {id : FieldId} (he : (id, t) ∈ m.embeds sid) :
    ∃ f, m.field? id = some f := by
  obtain ⟨f, hf, -⟩ := mem_embeds he
  exact ⟨f, field?_of_mem_fieldsOf hf⟩

theorem InRange.hasStruct_of_embeds (h : m.InRange) {sid t : StructId} {id : FieldId}
    (he : (id, t) ∈ m.embeds sid) : m.extent.HasStruct t := by
  obtain ⟨f, -, ht⟩ := mem_embeds he
  exact h.hasStruct_of_embedded? ht

/-- Every ancestor is the parent of some role. -/
theorem exists_parentOf_of_mem_parentChain {n : Nat} {id a : RoleId} (ha : a ∈ m.parentChain n id) :
    ∃ below, m.parentOf below = some a := by
  induction n generalizing id with
  | zero => cases ha
  | succ n ih =>
    simp only [parentChain] at ha
    split at ha
    · cases ha
    · rename_i p hp
      rcases List.mem_cons.1 ha with rfl | ha
      · exact ⟨id, hp⟩
      · exact ih ha

namespace Integral

variable (h : m.Integral)

include h

theorem namesFound : m.NamesFound where
  listed hs := h.owned.fieldsOf_fst hs
  struct hid := exists_struct? ((Namespace.inRange_ofModel m).struct hid)
  field hid := exists_field? ((Namespace.inRange_ofModel m).field hid)
  enum hid := ⟨_, Array.getElem?_eq_getElem ((Namespace.inRange_ofModel m).enum hid)⟩
  bitfield hid := ⟨_, Array.getElem?_eq_getElem ((Namespace.inRange_ofModel m).bitfield hid)⟩
  role hid := exists_role? ((Namespace.inRange_ofModel m).role hid)
  findStruct hid := by
    obtain ⟨i, hi, rfl⟩ := Option.map_eq_some_iff.1 hid
    exact exists_struct? (Array.findIdx?_eq_some_iff_getElem.1 hi).1
  findField hid := by
    obtain ⟨⟨id, f⟩, hf, rfl⟩ := Option.map_eq_some_iff.1 hid
    exact ⟨f, field?_of_mem_fieldsOf (List.mem_of_find?_eq_some hf)⟩

theorem referencesFound : m.ReferencesFound where
  owner hf := by
    obtain ⟨s, hs, -⟩ := h.owned.owner hf
    exact ⟨s, hs⟩
  source hf hr := exists_field? ((h.inRange.fields _ (mem_of_field? hf)).reference _ hr).source
  target hf hr := by
    obtain ⟨g, hg⟩ := exists_field? ((h.inRange.fields _ (mem_of_field? hf)).reference _ hr).target
    obtain ⟨s, hs, -⟩ := h.owned.owner hg
    exact ⟨g, s, hg, hs⟩
  key he := by
    obtain ⟨hs, hf⟩ := fits_of_validKeys (Namespace.inRange_ofModel m) he
    exact ⟨exists_struct? hs, exists_field? hf⟩

theorem embeddingsFound : m.EmbeddingsFound where
  step hf hstruct hr := by
    obtain ⟨g, s, hg, hs⟩ := h.referencesFound.target hf hr
    exact ⟨g.parent, s, by simp [embedded?, hstruct, hr, hg], hs⟩
  embeds he := ⟨exists_field?_of_embeds he, exists_struct? (h.inRange.hasStruct_of_embeds he)⟩
  embedded hj := by
    rw [embedded_eq] at hj
    obtain ⟨⟨id, t⟩, he, rfl⟩ := List.mem_map.1 hj
    exact h.inRange.hasStruct_of_embeds he
  order id hid := exists_struct? (mem_structIds.1 (order_perm.subset hid))
  heights := by simp [Topology.ofModel]
  generations := by
    obtain ⟨_, hall⟩ := @Graph.surveyed_visitAll m.embedded m.structs.size
      fun _ hv => embedded_of_ge hv
    simp only [Topology.ofModel, Array.length_toList]
    exact hall.even.trans hall.sized

theorem operationsFound : m.OperationsFound where
  path s hs p hp r hr id hid := exists_field? ((h.inRange.structs s hs).paths p hp r hr id hid)
  field s hs p hp id hid := by
    obtain ⟨r, hr, hid⟩ := Option.bind_eq_some_iff.1 hid
    exact exists_field? ((h.inRange.structs s hs).paths _ hp r (List.mem_of_getLast? hr) id hid)
  distinct s hs d hd t ht := exists_struct? (((h.inRange.structs s hs).distincts d hd).target t ht)
  locals s hs r hr id hid := exists_field? ((h.inRange.structs s hs).locals r hr id hid)

theorem exists_role?_parent {id p : RoleId} (hp : m.parentOf id = some p) :
    ∃ r, m.role? p = some r := by
  obtain ⟨r, hr, hp⟩ := Option.bind_eq_some_iff.1 hp
  exact exists_role? ((h.inRange.roles r (Array.mem_of_getElem? hr)).parent _ hp)

theorem rolesFound : m.RolesFound where
  parent hp := h.exists_role?_parent hp
  ancestor ha := by
    obtain ⟨id, hp⟩ := exists_parentOf_of_mem_parentChain ha
    exact h.exists_role?_parent hp
  child r hr c hc := exists_role? ((h.inRange.roles r hr).children c hc)
  cutting ns _ _ hp :=
    Parents.parent_foldl_cut h.rolesInPlace.hasRole_all ns [] h.inRange.parentTable hp
  cut i hi := by
    have hlt : i < m.parentTable.size := by simpa using Parents.lt_of_mem_cut hi
    rw [parentTable, Array.size_map] at hlt
    exact exists_role? hlt
  granted s hs r hr id hid := exists_role? ((h.inRange.structs s hs).grants r hr id hid)

theorem intact : m.Intact :=
  ⟨h, h.namesFound, h.referencesFound, h.embeddingsFound, h.operationsFound, h.rolesFound⟩

end Integral

/-- In every model that comes about, after any stages of linking, and in every linked model, indices
hold together and every lookup finds a part. So it is between the stages of a run that fails. All
the while, names stand for the same parts. -/
theorem intact_of_arises (h : m.Arises) :
    m.Intact ∧
      (∀ stages, (Stage.runAll m stages).Intact ∧
        Namespace.ofModel (Stage.runAll m stages) = .ofModel m) ∧
      (∀ seed, (bindModel seed m).model.Intact ∧
        (orderStructs (bindModel seed m).model).model.Intact ∧
        (markUniqueSearches (orderStructs (bindModel seed m).model).model).Intact) ∧
      ∀ seed l, linkWith seed m = .ok l →
        l.model.Intact ∧ ∀ id ∈ l.topology.order, ∃ s, l.model.struct? id = some s := by
  have hall : ∀ stages, (Stage.runAll m stages).Intact := fun stages =>
    (h.integral.runAll stages).intact
  refine ⟨h.integral.intact, fun stages => ⟨hall stages, ?_⟩, fun seed => ?_, fun seed l hl => ?_⟩
  · exact Namespace.ofModel_congr (Stage.runAll_asDeclared stages)
  · -- all three are models of a run, whether a structure embeds itself or not
    rw [Stage.orderStructs_eq_runAll, Stage.bindModel_eq_runAll, ← Stage.runAll_append]
    exact ⟨hall _, hall _, (Integral.run (hall _).integral .uniqueSearches).intact⟩
  · have hmodel : l.model.Intact := Stage.model_eq_runAll hl ▸ hall _
    refine ⟨hmodel, fun id hid => hmodel.embeddings.order id ?_⟩
    obtain ⟨-, -, rfl⟩ := linkWith_eq_ok_iff.1 hl
    rwa [ofModel_linked]

/-- The staff with a firm that embeds its boss, who embeds the firm; with two roles that hang under
one another; and with a second structure of one name. -/
def knot : Model :=
  let pos := Pos.ofFile "knot"
  let key : ForeignKey :=
    { targetStruct := .unbound "employee" pos, targetField := .unbound "id" pos
      onUpdate := .none, onDelete := .none, pos }
  let staff := (staffSet.model.addField (.new "boss_id" pos ⟨1⟩ (.plain .int))).1
  let staff := (staff.addField (.new "boss" pos ⟨1⟩ (.struct (.unbound "boss_id" pos)))).1
  let staff := staff.modifyField ⟨7⟩ fun f => { f with foreign := some key }
  let staff := (staff.addStruct (.new "Employee" pos)).1
  let staff := (staff.addRole (.declared "left" pos (some (.unbound "right" pos)) none)).1
  (staff.addRole (.declared "right" pos (some (.unbound "left" pos)) none)).1

theorem arises_knot : knot.Arises := by
  have hunbound : ∀ {x : Extent} {name pos}, ∀ p ∈ some (NameRef.unbound name pos),
      p.Fits x.HasRole := by
    rintro _ _ _ _ ⟨⟩
    exact NameRef.fits_unbound _ _
  unfold knot
  refine .role _ _ _ _ (.role _ _ _ _ (.struct _ _ (.key _ _ (.field _ (.field _
    staffSet_reached.arises ?_ rfl) ?_ rfl) ?_)) hunbound) hunbound
  · exact ⟨by show 1 < _; decide +kernel, trivial, by simp [Field.new], by simp [Field.new]⟩
  · exact ⟨by show 1 < _; decide +kernel, NameRef.fits_unbound _ _, by simp [Field.new],
      by simp [Field.new]⟩
  · exact ⟨NameRef.fits_unbound _ _, NameRef.fits_unbound _ _⟩

theorem intact_knot :
    knot.Arises ∧ Diagnostics.errorCount knot.bindingProblems = 2 ∧
      knot.bound.Embeds ⟨0⟩ ⟨1⟩ ∧ knot.bound.Embeds ⟨1⟩ ⟨0⟩ ∧ knot.Intact ∧ knot.bound.Intact ∧
      ∃ l, link staffSet.model = .ok l ∧ l.model.Intact := by
  have hrun : Diagnostics.errorCount knot.bindingProblems = 2 ∧
      (⟨2⟩, ⟨1⟩) ∈ knot.bound.embeds ⟨0⟩ ∧ (⟨8⟩, ⟨0⟩) ∈ knot.bound.embeds ⟨1⟩ := by
    simp only [bindingProblems, bound, resolved, Namespace.ofModel_eq_scan]
    decide +kernel
  obtain ⟨hknot, hstages, -, -⟩ := intact_of_arises arises_knot
  obtain ⟨-, -, -, hlinked⟩ := intact_of_arises staffSet_reached.arises
  obtain ⟨l, -, hl⟩ := staffSet_links
  exact ⟨arises_knot, hrun.1, ⟨_, hrun.2.1⟩, ⟨_, hrun.2.2⟩, hknot,
    Stage.bound_eq_runAll knot ▸ (hstages Stage.binding).1, l, hl, (hlinked [] l hl).1⟩

end Model

end ModelLinker
