import ModelLinker.Proofs.Arena.Integrity
import ModelLinker.Proofs.Renumber.Declarations
import ModelLinker.Proofs.Roles.Hierarchy

/-!
# Documents put into a model

A part that comes from a declaration holds names that are not bound, and no index but that of its
owner. So a document leaves the indices of a model together (`Draft.integral_addDocument`).
-/

namespace ModelLinker

namespace Source

variable {x : Extent} {file : String} {pos : Pos}

theorem fits_refAt {α : Type} {p : α → Prop} (name : String) : (refAt pos name).Fits p :=
  NameRef.fits_unbound name pos

theorem fits_fieldType {d : Decl.Field} {type : FieldType} (h : fieldType d pos = .ok type) :
    type.Fits x := by
  unfold fieldType at h
  split at h <;> cases h
  · trivial
  · exact fits_refAt _
  · exact fits_refAt _
  · exact fits_refAt _

theorem fits_foreignKey {r : Decl.Reference} {k : ForeignKey} (h : foreignKey r pos = .ok k) :
    k.Fits x := by
  unfold foreignKey at h
  split at h <;> cases h
  exact ⟨fits_refAt _, fits_refAt _⟩

/-- A field that is made has no index but that of its owner. -/
theorem fits_field {parent : StructId} {d : Decl.Field} {f : Field}
    (h : (field file parent d).1 = some f) (hparent : x.HasStruct parent) : f.Fits x := by
  unfold field at h
  cases htype : fieldType d (posIn file d.place) with
  | error problem => simp [htype] at h
  | ok type =>
    simp only [htype, Option.some.injEq] at h
    subst h
    refine ⟨hparent, fits_fieldType htype, ?_, fun _ h => nomatch h⟩
    intro k hk
    refine forall_mem_made (fun y hy k hk => ?_) k (List.mem_of_mem_head? hk)
    subst hk
    obtain ⟨r, -, hr⟩ := Option.map_eq_some_iff.1 (Option.mem_toList.1 hy)
    split at hr
    · cases hr
    · exact fits_foreignKey hr

theorem fits_path {p : FieldId → Prop} {dotted : String} {path : FieldPath}
    (h : Source.path dotted pos = .ok path) : ∀ r ∈ path.segments, r.Fits p := by
  unfold Source.path at h
  split at h
  · cases h
    intro r hr
    obtain ⟨name, -, rfl⟩ := List.mem_map.1 hr
    exact fits_refAt name
  · cases h

theorem fits_map_path {α : Type} {p : FieldId → Prop} {make : FieldPath → α}
    (segments : α → List (NameRef FieldId)) {dotted : String} {a : α}
    (hmake : ∀ path, segments (make path) = path.segments)
    (h : (Source.path dotted pos).map make = .ok a) : ∀ r ∈ segments a, r.Fits p := by
  cases hp : Source.path dotted pos with
  | error e =>
    rw [hp] at h
    cases h
  | ok path =>
    rw [hp] at h
    cases h
    rw [hmake]
    exact fits_path hp

theorem fits_distinct {dotted : String} {d : Distinct} (h : distinct dotted pos = .ok d) :
    d.Fits x := by
  unfold distinct at h
  split at h
  · cases h
    exact ⟨by simp, by simp⟩
  · cases hp : path dotted pos with
    | error e =>
      rw [hp] at h
      cases h
    | ok p =>
      rw [hp] at h
      cases h
      exact ⟨fits_path hp, by simp⟩

theorem fits_roleMap {p : RoleId → Prop} {names : Option (List String)} {g : RoleMap}
    (h : g ∈ roleMap names pos) : ∀ r ∈ g.roles, r.Fits p := by
  obtain ⟨ns, -, rfl⟩ := Option.map_eq_some_iff.1 h
  intro r hr
  obtain ⟨name, -, rfl⟩ := List.mem_map.1 hr
  exact fits_refAt name

/-- The parts that could be made of some declarations hold what each of them holds. -/
theorem fits_made {δ α β : Type} {p : β → Prop} {names : α → List (NameRef β)} {make : δ → Made α}
    (h : ∀ d a, make d = .ok a → ∀ r ∈ names a, r.Fits p) {ds : List δ} {a : α}
    (ha : a ∈ made (ds.map make)) : ∀ r ∈ names a, r.Fits p := by
  refine forall_mem_made (P := fun a => ∀ r ∈ names a, r.Fits p) (fun y hy b hb => ?_) a ha
  obtain ⟨d, -, rfl⟩ := List.mem_map.1 hy
  exact h d b hb

theorem fits_paths_search {p : FieldId → Prop} (d : Decl.Search) :
    ∀ path ∈ (search file d).1.paths, ∀ r ∈ path, r.Fits p := by
  intro path hpath
  simp only [search, Search.paths, List.mem_append, List.mem_map, Option.mem_toList] at hpath
  rcases hpath with ((⟨y, hy, rfl⟩ | ⟨y, hy, rfl⟩) | ⟨y, hy, rfl⟩) | ⟨y, hy, rfl⟩
  · exact fits_made
      (fun _ _ => fits_map_path (fun y : Predicate => y.path.segments) fun _ => rfl) hy
  · exact fits_made
      (fun _ _ => fits_map_path (fun y : OrderTerm => y.path.segments) fun _ => rfl) hy
  · exact fits_made
      (fun _ _ => fits_map_path (fun y : Aggregate => y.path.segments) fun _ => rfl)
      (List.mem_of_mem_head? hy)
  · exact fits_made (fun _ _ => fits_path) (List.mem_of_mem_head? hy)

theorem fits_distinct_search (d : Decl.Search) :
    ∀ y ∈ (search file d).1.distinct, y.Fits x := by
  intro y hy
  refine forall_mem_made (P := fun y => y.Fits x) (fun z hz b hb => ?_) y
    (List.mem_of_mem_head? hy)
  obtain ⟨dotted, -, rfl⟩ := List.mem_map.1 hz
  exact fits_distinct hb

theorem fits_locals_update {p : FieldId → Prop} (d : Decl.Update) :
    ∀ r ∈ (update file d).locals, r.Fits p := by
  intro r hr
  simp only [update, Update.locals, List.map_map, List.mem_append, List.mem_map] at hr
  rcases hr with ⟨y, -, rfl⟩ | ⟨y, -, rfl⟩ <;> exact fits_refAt _

theorem fits_locals_delete {p : FieldId → Prop} (d : Decl.Delete) :
    ∀ r ∈ (delete file d).locals, r.Fits p := by
  intro r hr
  simp only [delete, Update.locals, List.map_map, List.map_nil, List.nil_append, List.mem_map] at hr
  obtain ⟨y, -, rfl⟩ := hr
  exact fits_refAt _

/-- The role map of an operation that was just declared is the declared one. -/
theorem roles_of_mem_operations {d : Decl.Struct} {op : Operation}
    (h : op ∈ (structBody file d).1.operations) : ∃ names pos, op.roles = roleMap names pos := by
  simp only [structBody, Struct.operations, List.mem_append, List.mem_map, Option.mem_toList,
    Option.map_eq_some_iff] at h
  rcases h with (⟨_, ⟨_, ⟨y, -, rfl⟩, rfl⟩, rfl⟩ | ⟨_, ⟨y, -, rfl⟩ | ⟨y, -, rfl⟩, rfl⟩) |
    ⟨_, ⟨y, -, rfl⟩, rfl⟩
  · exact ⟨_, _, rfl⟩
  · exact ⟨_, _, rfl⟩
  · exact ⟨_, _, rfl⟩
  · exact ⟨_, _, rfl⟩

/-- The names of a structure that was just declared are not bound. -/
theorem namesFit_structBody (d : Decl.Struct) : (structBody file d).1.NamesFit x := by
  refine ⟨?_, ?_, ?_, ?_⟩
  · intro p hp
    simp only [structBody, Struct.paths, List.flatMap_map, List.mem_flatMap] at hp
    obtain ⟨y, -, hp⟩ := hp
    exact fits_paths_search y p hp
  · intro y hy
    simp only [structBody, Struct.distincts, List.flatMap_map, List.mem_flatMap,
      Option.mem_toList] at hy
    obtain ⟨z, -, hy⟩ := hy
    exact fits_distinct_search z y hy
  · intro r hr
    simp only [structBody, Struct.locals, List.flatMap_append, List.flatMap_map, List.mem_append,
      List.mem_flatMap] at hr
    rcases hr with (⟨u, -, hr⟩ | ⟨u, -, hr⟩) | ⟨u, -, hr⟩
    · exact fits_locals_update u r hr
    · exact fits_locals_delete u r hr
    · obtain ⟨name, -, rfl⟩ := List.mem_map.1 hr
      exact fits_refAt name
  · intro r hr
    obtain ⟨op, hop, hr⟩ := List.mem_flatMap.1 hr
    obtain ⟨names, pos, hroles⟩ := roles_of_mem_operations hop
    obtain ⟨g, hg, hr⟩ := List.mem_flatMap.1 hr
    exact fits_roleMap (hroles ▸ Option.mem_toList.1 hg) r hr

mutual

/-- The parent that a declared role names is not bound. -/
theorem fits_parent_role {p : RoleId → Prop} (outer : Option String) :
    ∀ d : Decl.Role, ∀ r ∈ (role file outer d).1, ∀ q ∈ r.parentName, q.Fits p
  | ⟨name, parent, nested, place, doc⟩ => by
    intro r hr q hq
    simp only [role, List.mem_cons] at hr
    rcases hr with rfl | hr
    · obtain ⟨n, -, rfl⟩ := Option.map_eq_some_iff.1 hq
      exact fits_refAt n
    · exact fits_parent_roles (some name) nested r hr q hq

theorem fits_parent_roles {p : RoleId → Prop} (outer : Option String) :
    ∀ ds : List Decl.Role, ∀ r ∈ (roles file outer ds).1, ∀ q ∈ r.parentName, q.Fits p
  | [] => by simp [roles]
  | d :: ds => by
    intro r hr
    simp only [roles, List.mem_append] at hr
    rcases hr with hr | hr
    · exact fits_parent_role outer d r hr
    · exact fits_parent_roles outer ds r hr

end

/-- A role that was just declared has no index in it. -/
theorem fits_roles {d : List Decl.Role} {r : Role} (hr : r ∈ (roles file none d).1) :
    r.Fits x ∧ r.kind = .named := by
  have hparent := fits_parent_roles (p := x.HasRole) none d r hr
  obtain ⟨name, pos, parent, doc, rfl⟩ := declared_roles none d r hr
  exact ⟨⟨hparent, by simp [Role.declared], by simp [Role.declared]⟩, rfl⟩

end Source

namespace Draft

variable {d : Draft} {file : String}

theorem integral_addField (h : d.model.Integral) {parent : StructId}
    (hp : d.model.extent.HasStruct parent) (decl : Decl.Field) :
    (d.addField file parent decl).model.Integral := by
  cases hf : (Source.field file parent decl).1 with
  | none =>
    rw [addField_none hf]
    exact h
  | some f =>
    rw [addField_some hf]
    exact h.addField (Source.fits_field hf hp)

theorem integral_addFields (decls : List Decl.Field) (h : d.model.Integral) {parent : StructId}
    (hp : d.model.extent.HasStruct parent) :
    (decls.foldl (addField file parent) d).model.Integral := by
  induction decls generalizing d with
  | nil => exact h
  | cons decl rest ih =>
    refine ih (integral_addField h hp decl) ?_
    show parent.index < (d.addField file parent decl).model.structs.size
    rw [addField_structs_size]
    exact hp

theorem integral_addStruct (h : d.model.Integral) (decl : Decl.Struct) :
    (d.addStruct file decl).model.Integral := by
  rw [addStruct_eq]
  refine integral_addFields decl.fields (d := d.addBody file decl) (h.addStruct rfl ?_) ?_
  · exact ⟨Source.namesFit_structBody decl, by simp [Source.structBody, Struct.new],
      by simp [Source.structBody, Struct.new], by simp [Source.structBody, Struct.new]⟩
  · show d.model.structs.size < (d.model.structs.push _).size
    simp

theorem integral_addDocument (h : d.model.Integral) (file : String) (doc : Decl.Document) :
    (d.addDocument file doc).model.Integral := by
  have hvalues : (d.addValues file doc).model.Integral :=
    h.addValues _ _ _ fun _ hr => Source.fits_roles hr
  have key : ∀ (decls : List Decl.Struct) {d : Draft}, d.model.Integral →
      (decls.foldl (addStruct file) d).model.Integral := by
    intro decls
    induction decls with
    | nil => exact fun h => h
    | cons decl rest ih => exact fun h => ih (integral_addStruct h decl)
  rw [addDocument_eq]
  exact key doc.structs hvalues

end Draft

end ModelLinker
