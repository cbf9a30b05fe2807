import ModelLinker.Proofs.Binding.Paths
import ModelLinker.Proofs.Binding.Roles
import ModelLinker.Proofs.Source.Sound

/-!
# Linked models are fully bound

`Model.FullyBound` goes through all names that a model can hold and says of each what it is bound
to. A run that succeeds leaves no name unbound. Three stages of the linker are silent where a foreign
key could not be read; documents report such a key themselves, so the result holds of them without
further assumptions, and of other models if no foreign key is marked as unreadable.
-/

namespace ModelLinker

open Text (sameName)

/-! ### the names in a structure -/

/-- The paths of a search: those of its conditions, its orders, its aggregate and its group. -/
def Search.paths (x : Search) : List (List (NameRef FieldId)) :=
  x.params.map (·.path.segments) ++ x.order.map (·.path.segments) ++
    x.aggregate.toList.map (·.path.segments) ++ x.group.toList.map (·.segments)

/-- The fields that an update changes or tests. -/
def Update.locals (u : Update) : List (NameRef FieldId) :=
  u.modifies.map Modifier.field ++ u.constraints.map Condition.field

namespace Struct

/-- The paths of all searches. -/
def paths (s : Struct) : List (List (NameRef FieldId)) := s.searches.flatMap Search.paths

/-- The projections of all searches. -/
def distincts (s : Struct) : List Distinct := s.searches.flatMap fun x => x.distinct.toList

/-- The fields that updates and uniqueness constraints name. -/
def locals (s : Struct) : List (NameRef FieldId) :=
  s.updates.flatMap Update.locals ++ s.uniques.flatMap Unique.fields

end Struct

/-- A change of every part that a view does not see. -/
theorem flatMap_map_of_eq {α β : Type} {f : α → α} {g : α → List β} (h : ∀ x, g (f x) = g x)
    (xs : List α) : (xs.map f).flatMap g = xs.flatMap g := by
  rw [List.flatMap_map]
  exact congrArg (xs.flatMap ·) (funext h)

theorem settled_paths : Struct.Settled Struct.paths where
  joins _ _ := rfl
  paths s := by
    simp only [Struct.paths, Struct.bindJoins]
    refine flatMap_map_of_eq (fun x => ?_) s.searches
    simp [Search.paths, Option.toList_map, FieldPath.bindJoin, Function.comp_def]
  height _ _ := rfl
  unique s f := by
    simp only [Struct.paths]
    apply flatMap_map_of_eq
    exact fun _ => rfl
  flags _ _ := rfl

theorem settled_distincts : Struct.Settled Struct.distincts where
  joins _ _ := rfl
  paths s := by
    simp only [Struct.distincts, Struct.bindJoins]
    apply flatMap_map_of_eq
    exact fun _ => rfl
  height _ _ := rfl
  unique s f := by
    simp only [Struct.distincts]
    apply flatMap_map_of_eq
    exact fun _ => rfl
  flags _ _ := rfl

theorem settled_locals : Struct.Settled Struct.locals where
  joins _ _ := rfl
  paths _ := rfl
  height _ _ := rfl
  unique _ _ := rfl
  flags _ _ := rfl

theorem paths_bindRoles (names : Namespace) (s : Struct) :
    (s.bindRoles names).paths = s.paths := by
  simp only [Struct.paths, Struct.bindRoles]
  apply flatMap_map_of_eq
  exact fun _ => rfl

theorem distincts_bindRoles (names : Namespace) (s : Struct) :
    (s.bindRoles names).distincts = s.distincts := by
  simp only [Struct.distincts, Struct.bindRoles]
  apply flatMap_map_of_eq
  exact fun _ => rfl

theorem locals_bindRoles (names : Namespace) (s : Struct) :
    (s.bindRoles names).locals = s.locals := by
  simp only [Struct.locals, Struct.bindRoles]
  congr 1
  apply flatMap_map_of_eq
  exact fun _ => rfl

/-! ### what it is to be bound -/

namespace Model

/-- Every name in a model is bound, and to a declaration that it names. -/
structure FullyBound (m : Model) : Prop where
  enums : ∀ {id f r}, m.field? id = some f → f.type = .enum r →
    ∃ e x, r.target = some e ∧ m.enums[e.index]? = some x ∧ sameName x.name r.name
  bitfields : ∀ {id f r}, m.field? id = some f → f.type = .bitfield r →
    ∃ b x, r.target = some b ∧ m.bitfields[b.index]? = some x ∧ sameName x.name r.name
  sources : ∀ {id f r}, m.field? id = some f → f.type = .struct r → m.BoundToPlain f.parent r
  keys : ∀ {id f k}, m.field? id = some f → f.foreign = some k →
    ∃ s x t g, k.targetStruct.target = some s ∧ m.struct? s = some x ∧
      sameName x.name k.targetStruct.name ∧ m.BoundIn s k.targetField t g
  paths : ∀ {s x}, m.struct? s = some x → ∀ p ∈ x.paths, m.Walks s p
  distincts : ∀ {s x}, m.struct? s = some x → ∀ d ∈ x.distincts,
    ∃ u, d.target = some u ∧ m.Leads s d.path u
  locals : ∀ {s x}, m.struct? s = some x → ∀ r ∈ x.locals, m.BoundToPlain s r
  grants : ∀ {s x}, m.struct? s = some x → ∀ r ∈ x.grants,
    ∃ id g, r.target = some id ∧ m.role? id = some g ∧ sameName g.name r.name ∧ id ≠ .none
  parents : ∀ {id r p}, m.role? id = some r → r.kind.isReserved = false →
    r.parentName = some p →
    ∃ pid q, p.target = some pid ∧ m.role? pid = some q ∧ sameName q.name p.name ∧
      pid ≠ .none ∧ pid ≠ .default ∧ r.parent = some pid

/-- The owner of every field is a structure of the model. -/
def OwnersExist (m : Model) : Prop :=
  ∀ id f, m.field? id = some f → ∃ s, m.struct? f.parent = some s

/-- Every projection is to a structure of the model. -/
def DistinctsExist (m : Model) : Prop :=
  ∀ s x, m.struct? s = some x → ∀ d ∈ x.distincts,
    ∃ u y, d.target = some u ∧ m.struct? u = some y

variable {m : Model}

theorem exists_of_embedded? (h : m.OwnersExist) {f : Field} {t : StructId}
    (he : m.embedded? f = some t) : ∃ s, m.struct? t = some s := by
  unfold embedded? at he
  split at he
  · obtain ⟨r, _, he⟩ := Option.bind_eq_some_iff.1 he
    obtain ⟨g, hg, rfl⟩ := Option.map_eq_some_iff.1 he
    exact h _ g hg
  · cases he

theorem Leads.exists (h : m.OwnersExist) {s : StructId} {path : List (NameRef FieldId)}
    {u : StructId} (hl : m.Leads s path u) (hs : ∃ x, m.struct? s = some x) :
    ∃ y, m.struct? u = some y := by
  induction hl with
  | nil => exact hs
  | step _ he _ ih => exact ih (exists_of_embedded? h he)

theorem FullyBound.distinctsExist (hb : m.FullyBound) (h : m.OwnersExist) : m.DistinctsExist := by
  intro s x hs d hd
  obtain ⟨u, hu, hl⟩ := hb.distincts hs d hd
  obtain ⟨y, hy⟩ := hl.exists h ⟨x, hs⟩
  exact ⟨u, y, hu, hy⟩

theorem Owned.ownersExist (h : m.Owned) : m.OwnersExist := by
  intro id f hf
  obtain ⟨s, hs, _⟩ := h.owner hf
  exact ⟨s, hs⟩

/-! ### structures that resolve -/

section Resolved

variable {s : StructId}

theorem walks_resolveSearch {x : Search}
    (h : Diagnostics.isOk (resolveSearch (.ofModel m) m s x).2 = true) :
    (∀ p ∈ (resolveSearch (.ofModel m) m s x).1.paths, m.Walks s p) ∧
      ∀ d ∈ (resolveSearch (.ofModel m) m s x).1.distinct.toList,
        ∃ u, d.target = some u ∧ m.Leads s d.path u := by
  simp only [resolveSearch, resolveAll, resolveOption, Diagnostics.isOk_append, Bool.and_eq_true,
    Diagnostics.isOk_flatMap] at h
  obtain ⟨⟨⟨⟨hparams, horder⟩, haggr⟩, hgroup⟩, hdistinct⟩ := h
  constructor
  · simp only [resolveSearch, resolveAll, resolveOption, Search.paths, List.map_map,
      Option.toList_map, List.mem_append, List.mem_map, Function.comp_apply]
    rintro p (((⟨y, hy, rfl⟩ | ⟨y, hy, rfl⟩) | ⟨y, hy, rfl⟩) | ⟨y, hy, rfl⟩)
    · exact walks_walkPath (hparams y hy)
    · exact walks_walkPath (horder y hy)
    · exact walks_walkPath (haggr y hy)
    · exact walks_walkPath (hgroup y hy)
  · simp only [resolveSearch, resolveOption, Option.toList_map, List.mem_map]
    rintro d ⟨d₀, hd₀, rfl⟩
    exact leads_resolveDistinct (hdistinct d₀ hd₀)

theorem boundToPlain_resolveUpdate {u : Update}
    (h : Diagnostics.isOk (resolveUpdate (.ofModel m) m s u).2 = true) :
    ∀ r ∈ (resolveUpdate (.ofModel m) m s u).1.locals, m.BoundToPlain s r := by
  simp only [resolveUpdate, resolveAll, Diagnostics.isOk_append, Bool.and_eq_true,
    Diagnostics.isOk_flatMap] at h
  obtain ⟨⟨_, hmodifies⟩, hconstraints⟩ := h
  simp only [resolveUpdate, resolveAll, Update.locals, List.map_map, List.mem_append, List.mem_map,
    Function.comp_apply]
  rintro r (⟨y, hy, rfl⟩ | ⟨y, hy, rfl⟩)
  · exact boundToPlain_resolveLocal (hmodifies y hy)
  · exact boundToPlain_resolveLocal (hconstraints y hy)

theorem boundToPlain_resolveUnique {u : Unique}
    (h : Diagnostics.isOk (resolveUnique (.ofModel m) m s u).2 = true) :
    ∀ r ∈ (resolveUnique (.ofModel m) m s u).1.fields, m.BoundToPlain s r := by
  simp only [resolveUnique, resolveAll, Diagnostics.isOk_flatMap] at h
  simp only [resolveUnique, resolveAll, List.mem_map]
  rintro r ⟨y, hy, rfl⟩
  exact boundToPlain_resolveLocal (h y hy)

/-- A structure without problems has all its paths, projections and local fields bound. -/
theorem bound_resolveStruct {x : Struct}
    (h : Diagnostics.isOk (resolveStruct (.ofModel m) m s x).2 = true) :
    (∀ p ∈ (resolveStruct (.ofModel m) m s x).1.paths, m.Walks s p) ∧
      (∀ d ∈ (resolveStruct (.ofModel m) m s x).1.distincts,
        ∃ u, d.target = some u ∧ m.Leads s d.path u) ∧
      ∀ r ∈ (resolveStruct (.ofModel m) m s x).1.locals, m.BoundToPlain s r := by
  simp only [resolveStruct, resolveAll, Diagnostics.isOk_append, Bool.and_eq_true,
    Diagnostics.isOk_flatMap] at h
  obtain ⟨⟨hsearches, hupdates⟩, huniques⟩ := h
  simp only [resolveStruct, resolveAll, Struct.paths, Struct.distincts, Struct.locals,
    List.flatMap_map, List.mem_append, List.mem_flatMap]
  refine ⟨?_, ?_, ?_⟩
  · rintro p ⟨y, hy, hp⟩
    exact (walks_resolveSearch (hsearches y hy)).1 p hp
  · rintro d ⟨y, hy, hd⟩
    exact (walks_resolveSearch (hsearches y hy)).2 d hd
  · rintro r (⟨y, hy, hr⟩ | ⟨y, hy, hr⟩)
    · exact boundToPlain_resolveUpdate (hupdates y hy) r hr
    · exact boundToPlain_resolveUnique (huniques y hy) r hr

end Resolved

/-! ### linked models -/

theorem sameFields_linked : SameFields m.walkable m.linked where
  fields := m.linked_fields
  listed := fieldsOf_congr
    (map_fields_of_asDeclared (asDeclared_linked.trans asDeclared_walkable.symm)) m.linked_fields

theorem field?_linked (id : FieldId) : m.linked.field? id = m.walkable.field? id := by
  rw [field?, linked_fields, field?]

/-- The structure that a structure of the linked model was before its names were bound. -/
theorem struct?_walkable_of_linked {β : Type} {g : Struct → β} (hg : Struct.Settled g)
    (hr : ∀ names s, g (s.bindRoles names) = g s) {id : StructId} {x : Struct}
    (hx : m.linked.struct? id = some x) :
    ∃ y, m.walkable.struct? id = some y ∧
      g (resolveStruct (.ofModel m) m.walkable id y).1 = g x := by
  obtain ⟨z, hz, hview⟩ := struct?_of_map_eq (map_linked hg hr) hx
  simp only [resolved_eq, resolveQueries, struct?, Array.getElem?_mapIdx,
    Option.map_eq_some_iff] at hz
  obtain ⟨y, hy, rfl⟩ := hz
  exact ⟨y, hy, hview⟩

theorem bound_walkable_struct (h : m.ResolveOk) {id : StructId} {y : Struct}
    (hy : m.walkable.struct? id = some y) :
    Diagnostics.isOk (resolveStruct (.ofModel m.walkable) m.walkable id y).2 = true := by
  have hq := h.queries
  simp only [queryProblems, Diagnostics.isOk_flatMap] at hq
  rw [Namespace.ofModel_congr asDeclared_walkable]
  exact hq (id, y) (mem_indexedStructs.2 hy)

/-- The operations of a linked structure are bound, because they were in the walkable model. -/
theorem linked_operations (h : m.ResolveOk) {s : StructId} {x : Struct}
    (hx : m.linked.struct? s = some x) :
    (∀ p ∈ x.paths, m.linked.Walks s p) ∧
      (∀ d ∈ x.distincts, ∃ u, d.target = some u ∧ m.linked.Leads s d.path u) ∧
      ∀ r ∈ x.locals, m.linked.BoundToPlain s r := by
  have hwalk : Namespace.ofModel m.walkable = Namespace.ofModel m :=
    Namespace.ofModel_congr asDeclared_walkable
  refine ⟨?_, ?_, ?_⟩
  · intro p hp
    obtain ⟨y, hy, hview⟩ := struct?_walkable_of_linked settled_paths paths_bindRoles hx
    rw [← hview, ← hwalk] at hp
    exact sameFields_linked.walks ((bound_resolveStruct (bound_walkable_struct h hy)).1 p hp)
  · intro d hd
    obtain ⟨y, hy, hview⟩ := struct?_walkable_of_linked settled_distincts distincts_bindRoles hx
    rw [← hview, ← hwalk] at hd
    obtain ⟨u, hu, hl⟩ := (bound_resolveStruct (bound_walkable_struct h hy)).2.1 d hd
    exact ⟨u, hu, sameFields_linked.leads hl⟩
  · intro r hr
    obtain ⟨y, hy, hview⟩ := struct?_walkable_of_linked settled_locals locals_bindRoles hx
    rw [← hview, ← hwalk] at hr
    exact sameFields_linked.boundToPlain
      ((bound_resolveStruct (bound_walkable_struct h hy)).2.2 r hr)

/-- A field that is not structure-typed has the type it got first. -/
theorem typed_of_linked {id : FieldId} {f : Field} (hf : m.linked.field? id = some f)
    (hs : f.type.isStruct = false) : ∃ g, m.typed.field? id = some g ∧ f.type = g.type := by
  rw [field?_linked, field?_walkable, field?_keyed, Option.map_map, Option.map_eq_some_iff] at hf
  obtain ⟨g, hg, rfl⟩ := hf
  rw [Function.comp_apply, resolveStruct_isStruct] at hs
  rw [Function.comp_apply, resolveStruct_of_not_isStruct hs, resolveForeign_type]
  exact ⟨g, hg, rfl⟩

/-- A type that names an enumeration or a bit field is bound to it. -/
theorem linked_enumType (h : m.ResolveOk) {id : FieldId} {f : Field} {r : NameRef EnumId}
    (hf : m.linked.field? id = some f) (hr : f.type = .enum r) :
    ∃ e x, r.target = some e ∧ m.linked.enums[e.index]? = some x ∧
      sameName x.name r.name = true := by
  obtain ⟨g, hg, heq⟩ := typed_of_linked hf (by rw [hr]; rfl)
  obtain ⟨e, he, hn⟩ := typed_enum h hg (heq ▸ hr)
  obtain ⟨x, hx, hsame⟩ := Namespace.enum?_some (m.names_linked ▸ hn)
  exact ⟨e, x, he, hx, hsame⟩

theorem linked_bitfieldType (h : m.ResolveOk) {id : FieldId} {f : Field} {r : NameRef BitfieldId}
    (hf : m.linked.field? id = some f) (hr : f.type = .bitfield r) :
    ∃ b x, r.target = some b ∧ m.linked.bitfields[b.index]? = some x ∧
      sameName x.name r.name = true := by
  obtain ⟨g, hg, heq⟩ := typed_of_linked hf (by rw [hr]; rfl)
  obtain ⟨b, hb, hn⟩ := typed_bitfield h hg (heq ▸ hr)
  obtain ⟨x, hx, hsame⟩ := Namespace.bitfield?_some (m.names_linked ▸ hn)
  exact ⟨b, x, hb, hx, hsame⟩

/-- A model that resolves and whose roles link is fully bound, if its foreign keys could be
read. -/
theorem linked_fullyBound (h : m.ResolveOk) (hroles : m.RolesOk) (hread : m.KeysReadable) :
    m.linked.FullyBound := by
  have hnames := m.names_linked
  refine ⟨linked_enumType h, linked_bitfieldType h, ?_, ?_, ?_, ?_, ?_, ?_, ?_⟩
  · intro id f r hf hr
    obtain ⟨gid, g, hn, ht, hg, hplain, -⟩ := walkable_struct h hread (field?_linked id ▸ hf) hr
    obtain ⟨g', hlisted, hsame⟩ := Namespace.field?_some (hnames ▸ hn)
    have : g' = g := by
      have := field?_of_mem_fieldsOf hlisted
      rw [field?_linked, hg, Option.some.injEq] at this
      exact this.symm
    exact ⟨gid, g', ⟨ht, hlisted, hsame⟩, this ▸ hplain⟩
  · intro id f k hf hk
    obtain ⟨s, tid, t, hb⟩ := walkable_foreign h (field?_linked id ▸ hf) hk
    obtain ⟨x, hx, hsame⟩ := Namespace.struct?_some (hnames ▸ hb.struct)
    obtain ⟨g, hlisted, hsame'⟩ := Namespace.field?_some (hnames ▸ hb.field)
    exact ⟨s, x, tid, g, hb.targetStruct, hx, hsame, hb.targetField, hlisted, hsame'⟩
  · intro s x hx
    exact (linked_operations h hx).1
  · intro s x hx
    exact (linked_operations h hx).2.1
  · intro s x hx
    exact (linked_operations h hx).2.2
  · intro s x hx r hr
    obtain ⟨rid, hn, ht, hne⟩ := linked_grants hroles hx hr
    obtain ⟨g, hg, hsame⟩ := Namespace.role?_some (hnames ▸ hn)
    exact ⟨rid, g, ht, hg, hsame, hne⟩
  · intro id r p hr hk hp
    rw [role?, linked_roles] at hr
    obtain ⟨pid, hn, ht, hparent, hnone, hdefault⟩ := bound_parentName hroles hr hk hp
    obtain ⟨q, hq, hsame⟩ := Namespace.role?_some (hnames ▸ hn)
    exact ⟨pid, q, ht, hq, hsame, hnone, hdefault, hparent⟩

/-! ### owners through linking -/

theorem ownersExist_asDeclared : m.asDeclared.OwnersExist ↔ m.OwnersExist := by
  simp only [OwnersExist, field?_asDeclared, struct?_asDeclared, Option.map_eq_some_iff]
  constructor
  · intro h id f hf
    obtain ⟨s, s₀, hs₀, -⟩ := h id _ ⟨f, hf, rfl⟩
    exact ⟨s₀, hs₀⟩
  · rintro h id _ ⟨f, hf, rfl⟩
    obtain ⟨s, hs⟩ := h id f hf
    exact ⟨_, s, hs, rfl⟩

theorem owned_asDeclared : m.asDeclared.Owned ↔ m.Owned := by
  constructor
  · rintro ⟨howner, hown, hnodup⟩
    simp only [field?_asDeclared, struct?_asDeclared, Option.map_eq_some_iff] at howner hown hnodup
    refine ⟨?_, ?_, ?_⟩
    · intro id f hf
      obtain ⟨_, ⟨s, hs, rfl⟩, hid⟩ := howner ⟨f, hf, rfl⟩
      exact ⟨s, hs, hid⟩
    · intro sid s hs id hid
      obtain ⟨_, ⟨f, hf, rfl⟩, hp⟩ := hown ⟨s, hs, rfl⟩ id hid
      exact ⟨f, hf, hp⟩
    · intro sid s hs
      exact @hnodup sid s.asDeclared ⟨s, hs, rfl⟩
  · rintro ⟨howner, hown, hnodup⟩
    refine ⟨?_, ?_, ?_⟩ <;>
      simp only [field?_asDeclared, struct?_asDeclared, Option.map_eq_some_iff]
    · rintro id _ ⟨f, hf, rfl⟩
      obtain ⟨s, hs, hid⟩ := howner hf
      exact ⟨_, ⟨s, hs, rfl⟩, hid⟩
    · rintro sid _ ⟨s, hs, rfl⟩ id hid
      obtain ⟨f, hf, hp⟩ := hown hs id hid
      exact ⟨_, ⟨f, hf, rfl⟩, hp⟩
    · rintro sid _ ⟨s, hs, rfl⟩
      exact @hnodup sid s hs

theorem OwnersExist.congr {m' : Model} (heq : m'.asDeclared = m.asDeclared) (h : m.OwnersExist) :
    m'.OwnersExist :=
  ownersExist_asDeclared.1 (heq ▸ ownersExist_asDeclared.2 h)

theorem Owned.congr {m' : Model} (heq : m'.asDeclared = m.asDeclared) (h : m.Owned) : m'.Owned :=
  owned_asDeclared.1 (heq ▸ owned_asDeclared.2 h)

/-! ### runs that succeed -/

theorem stagesOk_of_linkWith {seed : Diagnostics} {l : Linked} (h : linkWith seed m = .ok l) :
    m.ResolveOk ∧ m.RolesOk := by
  obtain ⟨-, hstages⟩ := faultless_of_linkWith h
  exact ⟨resolveOk_of_isOk hstages.resolve, rolesOk_of_isOk hstages.roles⟩

theorem linked_of_linkWith {seed : Diagnostics} {l : Linked} (h : linkWith seed m = .ok l) :
    l.model = m.linked ∧ l.topology = m.topology := by
  obtain ⟨-, -, rfl⟩ := linkWith_eq_ok_iff.1 h
  exact ⟨rfl, rfl⟩

/-- A linked model repeats no name. -/
theorem namesDistinct_of_linkWith {seed : Diagnostics} {l : Linked} (h : linkWith seed m = .ok l) :
    l.model.NamesDistinct := by
  rw [(linked_of_linkWith h).1]
  exact (Namespace.isOk_problems_iff.1 (faultless_of_linkWith h).2.names).linked

/-- Documents that link had no foreign key that could not be read. -/
theorem keysReadable_of_linkSources {set : SourceSet} (hset : set.Reached) {l : Linked}
    (h : linkSources set = .ok l) : set.model.KeysReadable := by
  intro id f hf
  cases hm : f.malformedForeign with
  | false => rfl
  | true =>
    have hbad : Diagnostics.isOk set.diagnostics = false := hset.sound.readable hf hm
    rw [(faultless_of_linkWith h).1] at hbad
    cases hbad

end Model

end ModelLinker
