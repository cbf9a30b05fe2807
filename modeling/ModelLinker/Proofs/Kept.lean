import ModelLinker.Proofs.Binding.Fields

/-!
# What the later stages leave alone

After the fields are bound, no stage changes a field (`linked_fields`), and after roles are linked
none changes a role (`linked_roles`). Of structures, the later stages write role maps, joins, heights
and marks only: what does not look at these is the same in the linked model as before
(`map_linked`).
-/

namespace ModelLinker

/-! ### structures through one stage -/

section Views

variable {β : Type} {g : Struct → β}

theorem map_bindRoleMaps (h : ∀ names s, g (s.bindRoles names) = g s) (names : Namespace)
    (m : Model) : (bindRoleMaps names m).structs.map g = m.structs.map g :=
  map_map_of_eq fun s => h names s

theorem map_assignJoins (hj : ∀ s js, g { s with joins := js } = g s)
    (hp : ∀ s, g s.bindJoins = g s) (m : Model) :
    (assignJoins m).1.structs.map g = m.structs.map g := by
  simp only [assignJoins, setJoins]
  rw [map_map_of_eq hp, map_mapIdx_of_eq]
  intro i s
  split
  · exact hj s _
  · rfl

theorem map_setHeights (h : ∀ s n, g { s with height := n } = g s) (t : Topology) (m : Model) :
    (setHeights t m).structs.map g = m.structs.map g :=
  map_mapIdx_of_eq fun _ s => h s _

theorem map_markUniqueSearches
    (h : ∀ (s : Struct) (f : Search → Bool),
      g { s with searches := s.searches.map fun x => { x with unique := f x } } = g s)
    (m : Model) : (markUniqueSearches m).structs.map g = m.structs.map g :=
  map_map_of_eq fun s => h s _

theorem map_setFlags (h : ∀ s fs, g { s with flags := fs } = g s) (m : Model) (id : StructId) :
    (setFlags m id).structs.map g = m.structs.map g := by
  unfold setFlags
  split
  · rfl
  · exact map_modify_of_eq id.index fun s => h s _

theorem map_computeFlags (h : ∀ s fs, g { s with flags := fs } = g s) (order : List StructId)
    (m : Model) : (computeFlags order m).structs.map g = m.structs.map g := by
  unfold computeFlags
  induction order generalizing m with
  | nil => rfl
  | cons id rest ih => rw [List.foldl_cons, ih, map_setFlags h]

end Views

theorem setFlags_eq (m : Model) (id : StructId) :
    setFlags m id = { m with structs := (setFlags m id).structs } := by
  unfold setFlags
  split <;> rfl

/-- Marks are written into structures, and nothing else is. -/
theorem computeFlags_eq (order : List StructId) (m : Model) :
    computeFlags order m = { m with structs := (computeFlags order m).structs } := by
  unfold computeFlags
  induction order generalizing m with
  | nil => rfl
  | cons id rest ih => rw [List.foldl_cons, ih (setFlags m id), setFlags_eq]

theorem setFlags_fields (m : Model) (id : StructId) : (setFlags m id).fields = m.fields := by
  rw [setFlags_eq]

theorem computeFlags_fields (order : List StructId) (m : Model) :
    (computeFlags order m).fields = m.fields := by
  rw [computeFlags_eq]

theorem computeFlags_roles (order : List StructId) (m : Model) :
    (computeFlags order m).roles = m.roles := by
  rw [computeFlags_eq]

/-! ### the linked model -/

/-- A view of structures that does not see joins, heights and marks. -/
structure Struct.Settled {β : Type} (g : Struct → β) : Prop where
  joins : ∀ s js, g { s with joins := js } = g s
  paths : ∀ s, g s.bindJoins = g s
  height : ∀ s n, g { s with height := n } = g s
  unique : ∀ (s : Struct) (f : Search → Bool),
    g { s with searches := s.searches.map fun x => { x with unique := f x } } = g s
  flags : ∀ s fs, g { s with flags := fs } = g s

namespace Model

variable (m : Model)

theorem linked_fields : m.linked.fields = m.walkable.fields := by
  rw [linked, computeFlags_fields]
  rfl

theorem linked_roles : m.linked.roles = m.bound.roles := by
  rw [linked, computeFlags_roles]
  rfl

theorem linked_enums : m.linked.enums = (numberEnums m).enums := by
  rw [linked, computeFlags_eq]
  rfl

theorem linked_bitfields : m.linked.bitfields = m.bitfields := by
  rw [linked, computeFlags_eq]
  rfl

variable {m} {β : Type} {g : Struct → β}

theorem map_linked_bound (hg : Struct.Settled g) :
    m.linked.structs.map g = m.bound.structs.map g := by
  rw [linked, map_computeFlags hg.flags, marked, map_markUniqueSearches hg.unique,
    map_setHeights hg.height, joined, map_assignJoins hg.joins hg.paths]

theorem map_bound (hr : ∀ names s, g (s.bindRoles names) = g s) :
    m.bound.structs.map g = m.resolved.structs.map g :=
  map_bindRoleMaps hr _ _

theorem map_linked (hg : Struct.Settled g) (hr : ∀ names s, g (s.bindRoles names) = g s) :
    m.linked.structs.map g = m.resolved.structs.map g :=
  (map_linked_bound hg).trans (map_bound hr)

/-- A structure of a model, seen in another one with the same view. -/
theorem struct?_of_map_eq {m m' : Model} (h : m'.structs.map g = m.structs.map g) {id : StructId}
    {s' : Struct} (hs : m'.struct? id = some s') : ∃ s, m.struct? id = some s ∧ g s = g s' := by
  have heq : (m'.struct? id).map g = (m.struct? id).map g := by
    have := congrArg (·[id.index]?) h
    simpa only [struct?, Array.getElem?_map] using this
  rw [hs, Option.map_some] at heq
  exact Option.map_eq_some_iff.1 heq.symm

/-- Declarations alike, so the same fields in every structure. -/
theorem fieldsOf_congr {m m' : Model}
    (hs : m'.structs.map Struct.fields = m.structs.map Struct.fields)
    (hf : m'.fields = m.fields) : m'.fieldsOf = m.fieldsOf := by
  funext id
  have heq : (m'.struct? id).map Struct.fields = (m.struct? id).map Struct.fields := by
    have := congrArg (·[id.index]?) hs
    simpa only [struct?, Array.getElem?_map] using this
  have key : ∀ m : Model, m.fieldsOf id =
      (((m.struct? id).map Struct.fields).getD []).filterMap
        fun f => (m.fields[f.index]?).map fun field => (f, field) := by
    intro m
    unfold fieldsOf
    cases m.struct? id <;> rfl
  rw [key, key, heq, hf]

/-- The lists of fields are among what is declared. -/
theorem map_fields_of_asDeclared {m m' : Model} (h : m'.asDeclared = m.asDeclared) :
    m'.structs.map Struct.fields = m.structs.map Struct.fields := by
  have hs := congrArg (fun m : Model => m.structs.map Struct.fields) h
  simpa only [asDeclared, Array.map_map, Function.comp_def, Struct.asDeclared] using hs

theorem asDeclared_resolved : m.resolved.asDeclared = m.asDeclared :=
  resolve_asDeclared _ _

theorem asDeclared_bound : m.bound.asDeclared = m.asDeclared :=
  (linkRoles_asDeclared _ _).trans asDeclared_resolved

theorem asDeclared_joined : m.joined.asDeclared = m.asDeclared :=
  (assignJoins_asDeclared _).trans asDeclared_bound

theorem asDeclared_linked : m.linked.asDeclared = m.asDeclared := by
  rw [linked, computeFlags_asDeclared, marked, markUniqueSearches_asDeclared,
    setHeights_asDeclared, asDeclared_joined]

/-- Every lookup of a name gives the same in the linked model as in the declared one. -/
theorem names_linked : Namespace.ofModel m.linked = Namespace.ofModel m :=
  Namespace.ofModel_congr asDeclared_linked

theorem NamesDistinct.linked (h : m.NamesDistinct) : m.linked.NamesDistinct :=
  h.congr asDeclared_linked

end Model

end ModelLinker
