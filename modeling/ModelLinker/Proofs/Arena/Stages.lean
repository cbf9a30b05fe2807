import ModelLinker.Proofs.Arena.Extent

/-!
# Stages that write indices

The stages of the linker that bind names write what a name stands for, the source and the target of
a reference, or a place in the list they go through. All of this is in range if everything was
before, and nothing depends on whether the stage finds errors.
-/

namespace ModelLinker

/-! ### names -/

/-- Names stand for parts. -/
structure Namespace.InRange (names : Namespace) (x : Extent) : Prop where
  struct : ∀ {n id}, names.struct? n = some id → x.HasStruct id
  field : ∀ {s n id}, names.field? s n = some id → x.HasField id
  enum : ∀ {n id}, names.enum? n = some id → x.HasEnum id
  bitfield : ∀ {n id}, names.bitfield? n = some id → x.HasBitfield id
  role : ∀ {n id}, names.role? n = some id → x.HasRole id

namespace Model

variable {m : Model}

theorem hasStruct_of_struct? {id : StructId} {s : Struct} (h : m.struct? id = some s) :
    m.extent.HasStruct id := (Array.getElem?_eq_some_iff.1 h).1

theorem hasField_of_field? {id : FieldId} {f : Field} (h : m.field? id = some f) :
    m.extent.HasField id := (Array.getElem?_eq_some_iff.1 h).1

theorem mem_of_field? {id : FieldId} {f : Field} (h : m.field? id = some f) : f ∈ m.fields :=
  Array.mem_of_getElem? h

end Model

theorem Namespace.inRange_ofModel (m : Model) : (Namespace.ofModel m).InRange m.extent where
  struct h := by
    obtain ⟨s, hs, -⟩ := struct?_some h
    exact Model.hasStruct_of_struct? hs
  field h := by
    obtain ⟨f, hf, -⟩ := field?_some h
    exact Model.hasField_of_field? (Model.field?_of_mem_fieldsOf hf)
  enum h := by
    obtain ⟨e, he, -⟩ := enum?_some h
    exact (Array.getElem?_eq_some_iff.1 he).1
  bitfield h := by
    obtain ⟨b, hb, -⟩ := bitfield?_some h
    exact (Array.getElem?_eq_some_iff.1 hb).1
  role h := by
    obtain ⟨r, hr, -⟩ := role?_some h
    exact (Array.getElem?_eq_some_iff.1 hr).1

namespace Model

variable {m : Model} {names : Namespace}

theorem InRange.resolveRowids (h : m.InRange) : (ModelLinker.resolveRowids m).InRange := by
  refine inRange_of_stage (resolveRowids_asDeclared m) ?_ h.fields h.roles
  intro s hs
  obtain ⟨i, hi, rfl⟩ := Array.mem_mapIdx.1 hs
  have hold := h.structs _ (Array.getElem_mem hi)
  refine ⟨hold.toNamesFit.congr rfl, hold.fields, ?_, hold.referencedBy⟩
  intro id hid
  obtain ⟨e, he, rfl⟩ := Option.map_eq_some_iff.1 hid
  have hlisted := (List.mem_filter.1 (List.mem_of_mem_head? he)).1
  exact @hasField_of_field? m e.1 e.2 (field?_of_mem_fieldsOf hlisted)

/-! ### fields -/

theorem fits_resolveValue (hn : names.InRange m.extent) {t : FieldType}
    (h : t.Fits m.extent) : (t.resolveValue names).Fits m.extent := by
  cases t with
  | plain t => exact h
  | enum r =>
    simp only [FieldType.resolveValue, NameRef.resolve]
    split
    · rename_i id hid
      exact NameRef.fits_bind (p := m.extent.HasEnum) r (hn.enum hid)
    · exact h
  | bitfield r =>
    simp only [FieldType.resolveValue, NameRef.resolve]
    split
    · rename_i id hid
      exact NameRef.fits_bind (p := m.extent.HasBitfield) r (hn.bitfield hid)
    · exact h
  | struct r => exact h

theorem InRange.resolveValueTypes (h : m.InRange) (hn : names.InRange m.extent) :
    (ModelLinker.resolveValueTypes names m).InRange := by
  refine inRange_of_stage (resolveValueTypes_asDeclared names m) h.structs ?_ h.roles
  intro f' hf'
  obtain ⟨f, hf, rfl⟩ := Array.mem_map.1 hf'
  exact { h.fields f hf with type := fits_resolveValue hn (h.fields f hf).type }

/-- A foreign key whose target is found is bound to it. -/
theorem fits_resolveKey (hn : names.InRange m.extent) {id : FieldId} {f : Field} {k : ForeignKey}
    (hk : k.Fits m.extent) : (resolveKey names m id f k).1.Fits m.extent := by
  unfold resolveKey
  cases ht : keyTarget names m k with
  | error p => exact hk
  | ok t =>
    obtain ⟨hs, -, hf, -⟩ := keyTarget_ok ht
    exact ⟨NameRef.fits_bind (p := m.extent.HasStruct) _ (hn.struct hs),
      NameRef.fits_bind (p := m.extent.HasField) _ (hn.field hf)⟩

/-- A valid foreign key leads from its field to what it names. -/
theorem resolveKey_ok {id : FieldId} {f : Field} {k : ForeignKey} {sid : StructId} {r : Reference}
    (h : (resolveKey names m id f k).2 = .ok (sid, r)) :
    names.struct? k.targetStruct.name = some sid ∧ r.source = id ∧
      names.field? sid k.targetField.name = some r.target := by
  unfold resolveKey at h
  cases ht : keyTarget names m k with
  | error p => simp [ht] at h
  | ok t =>
    obtain ⟨hs, -, hf, -⟩ := keyTarget_ok ht
    simp only [ht] at h
    split at h
    · cases h
    · cases h
      exact ⟨hs, rfl, hf⟩

theorem fits_resolveForeign (hn : names.InRange m.extent) {id : FieldId} {f : Field}
    (hid : m.extent.HasField id) (hf : f.Fits m.extent) :
    (f.resolveForeign names m id).Fits m.extent := by
  unfold Field.resolveForeign
  cases hk : f.foreign with
  | none => exact hf
  | some k =>
    refine { hf with foreign := ?_, reference := ?_ }
    · rintro _ ⟨⟩
      exact fits_resolveKey hn (hf.foreign k hk)
    · intro r hr
      dsimp only at hr
      split at hr
      · rename_i hok
        cases hr
        obtain ⟨-, rfl, htarget⟩ := resolveKey_ok hok
        exact ⟨hid, hn.field htarget⟩
      · exact hf.reference r hr

/-- A valid foreign key stands in a field of the model and leads to a structure of it. -/
theorem fits_of_validKeys (hn : names.InRange m.extent) {sid : StructId} {id : FieldId}
    (he : (sid, id) ∈ validKeys names m) : m.extent.HasStruct sid ∧ m.extent.HasField id := by
  obtain ⟨⟨f, i⟩, hi, he⟩ := List.mem_filterMap.1 he
  obtain ⟨k, -, he⟩ := Option.bind_eq_some_iff.1 he
  have hlt : i < m.fields.size := by
    have := List.mem_zipIdx_iff_getElem?.1 hi
    simpa using (List.getElem?_eq_some_iff.1 this).1
  split at he
  · rename_i hok
    cases he
    exact ⟨hn.struct (resolveKey_ok hok).1, hlt⟩
  · cases he

theorem InRange.resolveForeignKeys (h : m.InRange) (hn : names.InRange m.extent) :
    (ModelLinker.resolveForeignKeys names m).InRange := by
  refine inRange_of_stage (resolveForeignKeys_asDeclared names m) ?_ ?_ h.roles
  · intro s hs
    obtain ⟨i, hi, rfl⟩ := Array.mem_mapIdx.1 hs
    have hold := h.structs _ (Array.getElem_mem hi)
    refine ⟨hold.toNamesFit.congr rfl, hold.fields, hold.rowid, ?_⟩
    intro id hid
    rcases List.mem_append.1 hid with hid | hid
    · exact hold.referencedBy id hid
    · obtain ⟨e, he, rfl⟩ := List.mem_map.1 hid
      exact (fits_of_validKeys hn (List.mem_filter.1 he).1).2
  · intro f hf
    obtain ⟨i, hi, rfl⟩ := Array.mem_mapIdx.1 hf
    exact @fits_resolveForeign m names hn ⟨i⟩ _ hi (h.fields _ (Array.getElem_mem hi))

theorem InRange.resolveStructFields (h : m.InRange) (hn : names.InRange m.extent) :
    (ModelLinker.resolveStructFields names m).InRange := by
  refine inRange_of_stage (resolveStructFields_asDeclared names m) h.structs ?_ h.roles
  intro f' hf'
  obtain ⟨f, hf, rfl⟩ := Array.mem_map.1 hf'
  have hold := h.fields f hf
  unfold Field.resolveStruct
  split
  · rename_i r _
    split
    · -- the reference is that of the source, which has it in range
      rename_i id reference hsource
      obtain ⟨g, hname, hg, -, -, hreference⟩ := structSource_ok hsource
      refine { hold with type := ?_, reference := ?_ }
      · exact NameRef.fits_bind (p := m.extent.HasField) r (hn.field hname)
      · rintro _ ⟨⟩
        exact (h.fields g (mem_of_field? hg)).reference reference hreference
    · exact hold
  · exact hold

/-! ### operations -/

/-- A step from a field leads to a structure. -/
theorem InRange.hasStruct_of_embedded? (h : m.InRange) {f : Field} {t : StructId}
    (ht : m.embedded? f = some t) : m.extent.HasStruct t := by
  unfold embedded? at ht
  split at ht
  · obtain ⟨r, -, ht⟩ := Option.bind_eq_some_iff.1 ht
    obtain ⟨g, hg, rfl⟩ := Option.map_eq_some_iff.1 ht
    exact (h.fields g (mem_of_field? hg)).parent
  · cases ht

theorem fits_walkPath (hn : names.InRange m.extent) {use : PathUse} {dotted : String}
    {origin : StructId} {path : List (NameRef FieldId)}
    (h : ∀ r ∈ path, r.Fits m.extent.HasField) :
    ∀ r ∈ (walkPath names m use dotted origin path).1, r.Fits m.extent.HasField := by
  induction path generalizing origin with
  | nil => exact h
  | cons r rest ih =>
    obtain ⟨hr, hrest⟩ := List.forall_mem_cons.1 h
    unfold walkPath
    split
    · exact h
    · rename_i id hid
      have hbound := NameRef.fits_bind (p := m.extent.HasField) r (hn.field hid)
      split
      · exact List.forall_mem_cons.2 ⟨hbound, by simp⟩
      · split
        · exact List.forall_mem_cons.2 ⟨hbound, hrest⟩
        · exact List.forall_mem_cons.2 ⟨hbound, ih hrest⟩

theorem InRange.walkDistinct (h : m.InRange) (hn : names.InRange m.extent) {origin : StructId}
    (horigin : m.extent.HasStruct origin) {path : List (NameRef FieldId)}
    (hpath : ∀ r ∈ path, r.Fits m.extent.HasField) :
    (∀ r ∈ (ModelLinker.walkDistinct names m origin path).1, r.Fits m.extent.HasField) ∧
      ∀ t, (ModelLinker.walkDistinct names m origin path).2 = .ok t → m.extent.HasStruct t := by
  induction path generalizing origin with
  | nil =>
    refine ⟨hpath, ?_⟩
    rintro t ⟨⟩
    exact horigin
  | cons r rest ih =>
    obtain ⟨hr, hrest⟩ := List.forall_mem_cons.1 hpath
    unfold ModelLinker.walkDistinct
    split
    · refine ⟨hpath, ?_⟩
      rintro t ⟨⟩
    · rename_i id hid
      have hbound := NameRef.fits_bind (p := m.extent.HasField) r (hn.field hid)
      split
      · refine ⟨List.forall_mem_cons.2 ⟨hbound, hrest⟩, ?_⟩
        rintro t ⟨⟩
      · rename_i next hnext
        obtain ⟨f, -, hf⟩ := Option.bind_eq_some_iff.1 hnext
        obtain ⟨hwalk, htarget⟩ := ih (h.hasStruct_of_embedded? hf) hrest
        exact ⟨List.forall_mem_cons.2 ⟨hbound, hwalk⟩, htarget⟩

theorem InRange.resolveDistinct (h : m.InRange) (hn : names.InRange m.extent) {origin : StructId}
    (horigin : m.extent.HasStruct origin) {d : Distinct} (hd : d.Fits m.extent) :
    (ModelLinker.resolveDistinct names m origin d).1.Fits m.extent := by
  obtain ⟨hpath, htarget⟩ := h.walkDistinct hn horigin hd.path
  unfold ModelLinker.resolveDistinct
  split
  · rename_i heq
    rw [heq] at hpath htarget
    refine ⟨hpath, ?_⟩
    rintro _ ⟨⟩
    exact htarget _ rfl
  · rename_i heq
    rw [heq] at hpath
    exact ⟨hpath, hd.target⟩

theorem fits_resolveLocal (hn : names.InRange m.extent) {use : LocalUse} {origin : StructId}
    {r : NameRef FieldId} (hr : r.Fits m.extent.HasField) :
    (resolveLocal names m use origin r).1.Fits m.extent.HasField := by
  unfold resolveLocal
  split
  · exact hr
  · rename_i id hid
    split
    · exact hr
    · exact NameRef.fits_bind (p := m.extent.HasField) r (hn.field hid)

/-- Every path of a search is walked, and nothing else becomes a path. -/
theorem exists_of_mem_paths {origin : StructId} {x : Search} {p : List (NameRef FieldId)}
    (hp : p ∈ (resolveSearch names m origin x).1.paths) :
    ∃ use dotted, ∃ q ∈ x.paths, p = (walkPath names m use dotted origin q).1 := by
  simp only [resolveSearch, resolveAll, resolveOption, Search.paths, List.map_map,
    Option.toList_map, List.mem_append, List.mem_map, Function.comp_apply] at hp
  rcases hp with ((⟨y, hy, rfl⟩ | ⟨y, hy, rfl⟩) | ⟨y, hy, rfl⟩) | ⟨y, hy, rfl⟩ <;>
    refine ⟨_, _, _, ?_, rfl⟩ <;> simp only [Search.paths, List.mem_append, List.mem_map]
  · exact .inl (.inl (.inl ⟨y, hy, rfl⟩))
  · exact .inl (.inl (.inr ⟨y, hy, rfl⟩))
  · exact .inl (.inr ⟨y, hy, rfl⟩)
  · exact .inr ⟨y, hy, rfl⟩

/-- Every local field of an update or a constraint is resolved, and nothing else becomes one. -/
theorem exists_of_mem_locals {origin : StructId} {s : Struct} {r : NameRef FieldId}
    (hr : r ∈ (ModelLinker.resolveStruct names m origin s).1.locals) :
    ∃ use, ∃ q ∈ s.locals, r = (resolveLocal names m use origin q).1 := by
  simp only [ModelLinker.resolveStruct, ModelLinker.resolveAll, Struct.locals, resolveUpdate,
    resolveUnique, Update.locals, List.flatMap_map, List.map_map, List.mem_append, List.mem_flatMap,
    List.mem_map, Function.comp_apply] at hr ⊢
  rcases hr with ⟨u, hu, ⟨y, hy, rfl⟩ | ⟨y, hy, rfl⟩⟩ | ⟨u, hu, y, hy, rfl⟩
  · exact ⟨_, _, .inl ⟨u, hu, .inl ⟨y, hy, rfl⟩⟩, rfl⟩
  · exact ⟨_, _, .inl ⟨u, hu, .inr ⟨y, hy, rfl⟩⟩, rfl⟩
  · exact ⟨_, _, .inr ⟨u, hu, hy⟩, rfl⟩

theorem grants_resolveStruct (origin : StructId) (s : Struct) :
    (ModelLinker.resolveStruct names m origin s).1.grants = s.grants := by
  simp [ModelLinker.resolveStruct, ModelLinker.resolveAll, Struct.grants, Struct.operations,
    resolveSearch, resolveUpdate, Function.comp_def]

theorem InRange.resolveStruct (h : m.InRange) (hn : names.InRange m.extent) {id : StructId}
    (hid : m.extent.HasStruct id) {s : Struct} (hs : s.Fits m.extent) :
    (ModelLinker.resolveStruct names m id s).1.Fits m.extent := by
  refine ⟨⟨?_, ?_, ?_, ?_⟩, hs.fields, hs.rowid, hs.referencedBy⟩
  · intro p hp
    simp only [ModelLinker.resolveStruct, ModelLinker.resolveAll, Struct.paths, List.flatMap_map,
      List.mem_flatMap] at hp
    obtain ⟨x, hx, hp⟩ := hp
    obtain ⟨use, dotted, q, hq, rfl⟩ := exists_of_mem_paths hp
    exact fits_walkPath hn (hs.paths q (List.mem_flatMap.2 ⟨x, hx, hq⟩))
  · intro d hd
    simp only [ModelLinker.resolveStruct, ModelLinker.resolveAll, Struct.distincts, resolveSearch,
      ModelLinker.resolveOption, List.flatMap_map, Option.toList_map, List.mem_flatMap,
      List.mem_map] at hd
    obtain ⟨x, hx, d, hd, rfl⟩ := hd
    exact h.resolveDistinct hn hid (hs.distincts d (List.mem_flatMap.2 ⟨x, hx, hd⟩))
  · intro r hr
    obtain ⟨use, q, hq, rfl⟩ := exists_of_mem_locals hr
    exact fits_resolveLocal hn (hs.locals q hq)
  · rw [grants_resolveStruct]
    exact hs.grants

theorem InRange.resolveQueries (h : m.InRange) (hn : names.InRange m.extent) :
    (ModelLinker.resolveQueries names m).InRange := by
  refine inRange_of_stage (resolveQueries_asDeclared names m) ?_ h.fields h.roles
  intro s hs
  obtain ⟨i, hi, rfl⟩ := Array.mem_mapIdx.1 hs
  exact @InRange.resolveStruct m names h hn ⟨i⟩ hi _ (h.structs _ (Array.getElem_mem hi))

/-! ### roles -/

theorem fits_attach (hn : names.InRange m.extent) (hall : m.extent.HasRole .all) {r : Role}
    (hr : r.Fits m.extent) : (r.attach names).Fits m.extent := by
  have hroot : ∀ p ∈ some RoleId.all, m.extent.HasRole p := by
    rintro p ⟨⟩
    exact hall
  unfold Role.attach
  split
  · exact hr
  · split
    · exact { hr with parent := hroot }
    · rename_i parent _
      split
      · rename_i p hp
        obtain ⟨hname, -⟩ := declaredParent_ok.1 hp
        refine ⟨?_, ?_, hr.children⟩
        · rintro _ ⟨⟩
          exact NameRef.fits_bind (p := m.extent.HasRole) parent (hn.role hname)
        · rintro _ ⟨⟩
          exact hn.role hname
      · exact { hr with parent := hroot }

theorem InRange.bindParents (h : m.InRange) (hn : names.InRange m.extent)
    (hall : m.extent.HasRole .all) : (ModelLinker.bindParents names m).InRange := by
  refine inRange_of_stage (bindParents_asDeclared names m) h.structs h.fields ?_
  intro r' hr'
  obtain ⟨r, hr, rfl⟩ := Array.mem_map.1 hr'
  exact fits_attach hn hall (h.roles r hr)

end Model

/-- Nodes are put under nodes of the table only. -/
theorem Parents.parent_foldl_cut {root size : Nat} (hroot : root < size) (ns done : List Nat)
    {t : Table} (ht : ∀ {n p}, t.parent n = some p → p < size) {n p : Nat}
    (h : (ns.foldl (cut root) (t, done)).1.parent n = some p) : p < size := by
  induction ns generalizing t done with
  | nil => exact ht h
  | cons k rest ih =>
    rw [List.foldl_cons] at h
    simp only [cut] at h
    split at h
    · -- the node goes under the root, all others keep their parents
      refine ih _ ?_ h
      intro n p hp
      simp only [Table.parent, Array.getElem?_setIfInBounds] at hp
      split at hp
      · split at hp
        · simp only [Option.join_some, Option.some.injEq] at hp
          exact hp ▸ hroot
        · simp at hp
      · exact ht hp
    · exact ih _ ht h

namespace Model

variable {m : Model} {names : Namespace}

theorem InRange.parentTable (h : m.InRange) {n p : Nat} (hp : m.parentTable.parent n = some p) :
    p < m.roles.size := by
  rw [parentTable_parent m ⟨n⟩, Option.map_eq_some_iff] at hp
  obtain ⟨q, hq, rfl⟩ := hp
  obtain ⟨r, hr, hq⟩ := Option.bind_eq_some_iff.1 hq
  exact (h.roles r (Array.mem_of_getElem? hr)).parent q hq

theorem InRange.breakParentCycles (h : m.InRange) (hall : m.extent.HasRole .all) :
    (ModelLinker.breakParentCycles m).InRange := by
  refine inRange_of_stage (breakParentCycles_asDeclared m) h.structs h.fields ?_
  intro r hr
  obtain ⟨i, hi, rfl⟩ := Array.mem_mapIdx.1 hr
  refine { h.roles _ (Array.getElem_mem hi) with parent := ?_ }
  intro p hp
  obtain ⟨q, hq, rfl⟩ := Option.map_eq_some_iff.1 hp
  exact Parents.parent_foldl_cut hall _ _ h.parentTable hq

theorem InRange.rebuildChildren (h : m.InRange) : (ModelLinker.rebuildChildren m).InRange := by
  refine inRange_of_stage (rebuildChildren_asDeclared m) h.structs h.fields ?_
  intro r hr
  obtain ⟨i, hi, rfl⟩ := Array.mem_mapIdx.1 hr
  refine { h.roles _ (Array.getElem_mem hi) with children := ?_ }
  intro c hc
  simp only [childrenOf, List.mem_map, List.mem_filter] at hc
  obtain ⟨⟨q, j⟩, ⟨hj, -⟩, rfl⟩ := hc
  have hlt : j < m.roles.size := by
    simpa using (List.getElem?_eq_some_iff.1 (List.mem_zipIdx_iff_getElem?.1 hj)).1
  exact hlt

theorem fits_bindGrant (hn : names.InRange m.extent) {r : NameRef RoleId}
    (hr : r.Fits m.extent.HasRole) : (bindGrant names r).Fits m.extent.HasRole := by
  unfold bindGrant
  split
  · rename_i id hid
    exact NameRef.fits_bind (p := m.extent.HasRole) r (hn.role (grantedRole_ok.1 hid).1)
  · exact hr

theorem InRange.bindRoleMaps (h : m.InRange) (hn : names.InRange m.extent) :
    (ModelLinker.bindRoleMaps names m).InRange := by
  refine inRange_of_stage (bindRoleMaps_asDeclared names m) ?_ h.fields h.roles
  intro s' hs'
  obtain ⟨s, hs, rfl⟩ := Array.mem_map.1 hs'
  have hold := h.structs s hs
  refine ⟨⟨?_, ?_, ?_, ?_⟩, hold.fields, hold.rowid, hold.referencedBy⟩
  · rw [paths_bindRoles]
    exact hold.paths
  · rw [distincts_bindRoles]
    exact hold.distincts
  · rw [locals_bindRoles]
    exact hold.locals
  · rw [grants_bindRoles]
    intro r' hr'
    obtain ⟨r, hr, rfl⟩ := List.mem_map.1 hr'
    exact fits_bindGrant hn (hold.grants r hr)

end Model

end ModelLinker
