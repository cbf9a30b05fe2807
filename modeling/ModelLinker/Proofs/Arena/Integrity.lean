import ModelLinker.Proofs.Arena.Runs
import ModelLinker.Proofs.Source.Sound

/-!
# Models built part by part

In a model whose indices hold together (`Model.Integral`) every field is listed by its owner alone,
and the fields of a structure in the order they were added; the reserved roles come before all
others; and all indices are in range. Each way to add a part, to attach something to one or to run a
stage of linking keeps this.
-/

namespace ModelLinker

theorem Role.Fits.reserved {x : Extent} {name : String} {kind : RoleKind} {parent : Option RoleId}
    {children : List RoleId} (hparent : ∀ p ∈ parent, x.HasRole p)
    (hchildren : ∀ c ∈ children, x.HasRole c) :
    (Role.reserved name kind parent children).Fits x :=
  ⟨fun _ h => (nomatch h), hparent, hchildren⟩

/-- The structure with the operations and constraints of another one. -/
def Struct.withOperations (s o : Struct) : Struct :=
  { s with searches := o.searches, updates := o.updates, insert := o.insert, uniques := o.uniques }

namespace Model

/-- What the roles of a model are called, and their kinds. -/
def rolePlaces (m : Model) : List (String × RoleKind) :=
  m.roles.toList.map fun r => (r.name, r.kind)

/-- The reserved roles come first, and the roles after them are declared. -/
structure RolesInPlace (m : Model) : Prop where
  reserved : m.rolePlaces.take 3 = [("all", .root), ("none", .sink), ("default", .default)]
  declared : ∀ r ∈ m.rolePlaces.drop 3, r.2 = .named

/-- The indices in a model hold together. -/
structure Integral (m : Model) : Prop where
  owned : m.Owned
  ascending : ∀ s ∈ m.structs, s.fields.Pairwise fun a b => a.index < b.index
  rolesInPlace : m.RolesInPlace
  inRange : m.InRange

variable {m m' : Model}

/-! ### what depends on some views of a model alone -/

theorem Owned.of_views (h : m.Owned)
    (hstructs : m'.structs.map Struct.fields = m.structs.map Struct.fields)
    (hfields : m'.fields.map Field.parent = m.fields.map Field.parent) : m'.Owned := by
  have hparent : ∀ id, (m'.field? id).map Field.parent = (m.field? id).map Field.parent := by
    intro id
    have := congrArg (·[id.index]?) hfields
    simpa only [field?, Array.getElem?_map] using this
  constructor
  · intro id f hf
    obtain ⟨g, hg, hgp⟩ : ∃ g, m.field? id = some g ∧ g.parent = f.parent := by
      have := hparent id
      rw [hf, Option.map_some] at this
      exact Option.map_eq_some_iff.1 this.symm
    obtain ⟨s, hs, hid⟩ := h.owner hg
    obtain ⟨s', hs', heq⟩ := struct?_of_map_eq hstructs.symm hs
    exact ⟨s', hgp ▸ hs', heq ▸ hid⟩
  · intro sid s' hs' id hid
    obtain ⟨s, hs, heq⟩ := struct?_of_map_eq hstructs hs'
    obtain ⟨g, hg, hgp⟩ := h.own hs id (heq ▸ hid)
    have := hparent id
    rw [hg, Option.map_some, Option.map_eq_some_iff] at this
    obtain ⟨f, hf, hfp⟩ := this
    exact ⟨f, hf, hfp.trans hgp⟩
  · intro sid s' hs'
    obtain ⟨s, hs, heq⟩ := struct?_of_map_eq hstructs hs'
    exact heq ▸ h.nodup hs

theorem RolesInPlace.congr (h : m.RolesInPlace) (heq : m'.rolePlaces = m.rolePlaces) :
    m'.RolesInPlace :=
  ⟨heq ▸ h.reserved, heq ▸ h.declared⟩

theorem RolesInPlace.le_length (h : m.RolesInPlace) : 3 ≤ m.rolePlaces.length := by
  have := congrArg List.length h.reserved
  simp only [List.length_take, List.length_cons, List.length_nil] at this
  omega

theorem RolesInPlace.hasRole_all (h : m.RolesInPlace) : m.extent.HasRole .all := by
  have hlength : 3 ≤ m.roles.size := by simpa [rolePlaces] using h.le_length
  show 0 < m.roles.size
  omega

theorem RolesInPlace.append (h : m.RolesInPlace) (places : List (String × RoleKind))
    (heq : m'.rolePlaces = m.rolePlaces ++ places) (hplaces : ∀ r ∈ places, r.2 = .named) :
    m'.RolesInPlace := by
  constructor
  · rw [heq, List.take_append_of_le_length h.le_length]
    exact h.reserved
  · rw [heq, List.drop_append_of_le_length h.le_length]
    intro r hr
    rcases List.mem_append.1 hr with hr | hr
    · exact h.declared r hr
    · exact hplaces r hr

theorem Integral.of_views (h : m.Integral)
    (hstructs : m'.structs.map Struct.fields = m.structs.map Struct.fields)
    (hfields : m'.fields.map Field.parent = m.fields.map Field.parent)
    (hroles : m'.rolePlaces = m.rolePlaces) (hin : m'.InRange) : m'.Integral where
  owned := h.owned.of_views hstructs hfields
  ascending s' hs' := by
    have hmem : s'.fields ∈ m.structs.map Struct.fields := hstructs ▸ Array.mem_map_of_mem hs'
    obtain ⟨s, hs, heq⟩ := Array.mem_map.1 hmem
    exact heq ▸ h.ascending s hs
  rolesInPlace := h.rolesInPlace.congr hroles
  inRange := hin

/-! ### stages -/

theorem rolePlaces_asDeclared (m : Model) : m.asDeclared.rolePlaces = m.rolePlaces := by
  simp [rolePlaces, asDeclared, Role.asDeclared, Function.comp_def]

theorem Integral.run (h : m.Integral) (s : Stage) : (s.run m).Integral := by
  have hdeclared : (s.run m).asDeclared = m.asDeclared := Stage.run_asDeclared s
  refine h.of_views (map_fields_of_asDeclared hdeclared) ?_ ?_
    (Stage.inRange_run h.inRange h.rolesInPlace.hasRole_all s)
  · have := congrArg (fun m : Model => m.fields.map Field.parent) hdeclared
    simpa only [asDeclared, Array.map_map, Function.comp_def, Field.asDeclared] using this
  · rw [← rolePlaces_asDeclared, hdeclared, rolePlaces_asDeclared]

theorem Integral.runAll (h : m.Integral) (stages : List Stage) :
    (Stage.runAll m stages).Integral := by
  induction stages generalizing m with
  | nil => exact h
  | cons s rest ih => exact ih (h.run s)

/-! ### parts added -/

/-- A larger model holds indices in range if what is new in it does. -/
theorem InRange.grow (h : m.InRange) (hle : m.extent.Le m'.extent)
    (hstructs : ∀ s ∈ m'.structs, s ∈ m.structs ∨ s.Fits m'.extent)
    (hfields : ∀ f ∈ m'.fields, f ∈ m.fields ∨ f.Fits m'.extent)
    (hroles : ∀ r ∈ m'.roles, r ∈ m.roles ∨ r.Fits m'.extent) : m'.InRange where
  structs s hs := (hstructs s hs).elim (fun hs => (h.structs s hs).mono hle) id
  fields f hf := (hfields f hf).elim (fun hf => (h.fields f hf).mono hle) id
  roles r hr := (hroles r hr).elim (fun hr => (h.roles r hr).mono hle) id

theorem extent_le_addStruct (s : Struct) : m.extent.Le (m.addStruct s).1.extent :=
  { Extent.Le.refl m.extent with structs := by simp [extent, addStruct] }

theorem extent_le_addField (f : Field) : m.extent.Le (m.addField f).1.extent := by
  constructor <;> simp [extent, addField]

theorem mem_modify {α : Type} {xs : Array α} {i : Nat} {f : α → α} {y : α}
    (h : y ∈ xs.modify i f) : y ∈ xs ∨ ∃ x ∈ xs, y = f x := by
  obtain ⟨j, hj, rfl⟩ := Array.mem_iff_getElem.1 h
  rw [Array.size_modify] at hj
  rw [Array.getElem_modify]
  split
  · exact .inr ⟨_, Array.getElem_mem hj, rfl⟩
  · exact .inl (Array.getElem_mem hj)

theorem mem_structs_addField {f : Field} {s : Struct} (h : s ∈ (m.addField f).1.structs) :
    s ∈ m.structs ∨
      ∃ t ∈ m.structs, s = { t with fields := t.fields ++ [⟨m.fields.size⟩] } := mem_modify h

theorem mem_fields_modifyField {id : FieldId} {g : Field → Field} {f : Field}
    (h : f ∈ (m.modifyField id g).fields) : f ∈ m.fields ∨ ∃ x ∈ m.fields, f = g x := mem_modify h

theorem mem_structs_modifyStruct {id : StructId} {g : Struct → Struct} {s : Struct}
    (h : s ∈ (m.modifyStruct id g).structs) : s ∈ m.structs ∨ ∃ t ∈ m.structs, s = g t :=
  mem_modify h

theorem integral_empty : empty.Integral where
  owned := owned_empty
  ascending := by simp [empty]
  rolesInPlace := ⟨rfl, by simp [rolePlaces, empty]⟩
  inRange :=
    { structs := by simp [empty]
      fields := by simp [empty]
      roles := by
        have hrole (i : Nat) (hi : i < 3) : empty.extent.HasRole ⟨i⟩ := hi
        have hleaf : ∀ p ∈ some RoleId.all, empty.extent.HasRole p := by
          rintro _ ⟨⟩
          exact hrole 0 (by decide)
        intro r hr
        simp only [empty, List.mem_toArray, List.mem_cons, List.not_mem_nil, or_false] at hr
        rcases hr with rfl | rfl | rfl
        · refine .reserved (by simp) ?_
          simp only [List.forall_mem_cons, List.not_mem_nil, false_implies, implies_true, and_true]
          exact ⟨hrole 1 (by decide), hrole 2 (by decide)⟩
        · exact .reserved hleaf (by simp)
        · exact .reserved hleaf (by simp) }

theorem Integral.addStruct (h : m.Integral) {s : Struct} (hfields : s.fields = [])
    (hs : s.Fits m.extent) : (m.addStruct s).1.Integral where
  owned := h.owned.addStruct hfields
  ascending t ht := by
    rcases Array.mem_push.1 ht with ht | rfl
    · exact h.ascending t ht
    · rw [hfields]
      exact .nil
  rolesInPlace := h.rolesInPlace.congr rfl
  inRange := by
    have hle := @extent_le_addStruct m s
    refine h.inRange.grow hle (fun t ht => ?_) (fun f hf => .inl hf) fun r hr => .inl hr
    rcases Array.mem_push.1 ht with ht | rfl
    · exact .inl ht
    · exact .inr (hs.mono hle)

theorem Integral.addField (h : m.Integral) {f : Field} (hf : f.Fits m.extent) :
    (m.addField f).1.Integral where
  owned := h.owned.addField ⟨_, Array.getElem?_eq_getElem hf.parent⟩
  ascending t ht := by
    rcases mem_structs_addField ht with ht | ⟨s, hs, rfl⟩
    · exact h.ascending t ht
    · -- the new field comes last and has the greatest index
      refine List.pairwise_append.2 ⟨h.ascending s hs, List.pairwise_singleton _ _, ?_⟩
      intro a ha b hb
      rw [List.mem_singleton.1 hb]
      exact (h.inRange.structs s hs).fields a ha
  rolesInPlace := h.rolesInPlace.congr rfl
  inRange := by
    have hle := @extent_le_addField m f
    refine h.inRange.grow hle (fun t ht => ?_) (fun g hg => ?_) fun r hr => .inl hr
    · rcases mem_structs_addField ht with ht | ⟨s, hs, rfl⟩
      · exact .inl ht
      · have hold := (h.inRange.structs s hs).mono hle
        refine .inr { hold.toNamesFit.congr rfl with
          fields := ?_
          rowid := hold.rowid
          referencedBy := hold.referencedBy }
        intro id hid
        rcases List.mem_append.1 hid with hid | hid
        · exact hold.fields id hid
        · rw [List.mem_singleton.1 hid]
          show m.fields.size < (m.fields.push f).size
          simp
    · rcases Array.mem_push.1 hg with hg | rfl
      · exact .inl hg
      · exact .inr (hf.mono hle)

/-- Enumerations, bit fields and declared roles leave structures and fields alone. -/
theorem Integral.addValues (h : m.Integral) (enums : Array Enumeration) (bitfields : Array Bitfield)
    (roles : List Role) (hroles : ∀ r ∈ roles, r.Fits m.extent ∧ r.kind = .named) :
    Integral { m with
      enums := m.enums ++ enums, bitfields := m.bitfields ++ bitfields,
      roles := m.roles ++ roles.toArray } where
  owned := h.owned.of_views rfl rfl
  ascending := h.ascending
  rolesInPlace := by
    refine h.rolesInPlace.append (roles.map fun r => (r.name, r.kind)) (by simp [rolePlaces]) ?_
    intro p hp
    obtain ⟨r, hr, rfl⟩ := List.mem_map.1 hp
    exact (hroles r hr).2
  inRange := by
    have hle : m.extent.Le (extent { m with
        enums := m.enums ++ enums, bitfields := m.bitfields ++ bitfields,
        roles := m.roles ++ roles.toArray }) := by
      constructor <;> simp [extent]
    refine h.inRange.grow hle (fun s hs => .inl hs) (fun f hf => .inl hf) fun r hr => ?_
    rcases Array.mem_append.1 hr with hr | hr
    · exact .inl hr
    · exact .inr ((hroles r (List.mem_toArray.1 hr)).1.mono hle)

theorem Integral.addEnum (h : m.Integral) (e : Enumeration) : (m.addEnum e).1.Integral := by
  simpa [Model.addEnum] using h.addValues #[e] #[] [] (by simp)

theorem Integral.addBitfield (h : m.Integral) (b : Bitfield) : (m.addBitfield b).1.Integral := by
  simpa [Model.addBitfield] using h.addValues #[] #[b] [] (by simp)

theorem Integral.addRole (h : m.Integral) {r : Role} (hr : r.Fits m.extent)
    (hkind : r.kind = .named) : (m.addRole r).1.Integral := by
  simpa [Model.addRole] using h.addValues #[] #[] [r] (by simp [hr, hkind])

/-! ### parts changed -/

theorem InRange.modifyField (h : m.InRange) (id : FieldId) {g : Field → Field}
    (hg : ∀ f, f.Fits m.extent → (g f).Fits m.extent) : (m.modifyField id g).InRange := by
  have hext : (m.modifyField id g).extent = m.extent := by simp [extent, Model.modifyField]
  refine h.grow (hext ▸ .refl _) (fun s hs => .inl hs) (fun f hf => ?_) fun r hr => .inl hr
  rcases mem_fields_modifyField hf with hf | ⟨x, hx, rfl⟩
  · exact .inl hf
  · exact .inr (hext ▸ hg x (h.fields x hx))

theorem InRange.modifyStruct (h : m.InRange) (id : StructId) {g : Struct → Struct}
    (hg : ∀ s, s.Fits m.extent → (g s).Fits m.extent) : (m.modifyStruct id g).InRange := by
  have hext : (m.modifyStruct id g).extent = m.extent := by simp [extent, Model.modifyStruct]
  refine h.grow (hext ▸ .refl _) (fun s hs => ?_) (fun f hf => .inl hf) fun r hr => .inl hr
  rcases mem_structs_modifyStruct hs with hs | ⟨t, ht, rfl⟩
  · exact .inl hs
  · exact .inr (hext ▸ hg t (h.structs t ht))

theorem Integral.setKey (h : m.Integral) (id : FieldId) {k : ForeignKey} (hk : k.Fits m.extent) :
    (m.modifyField id fun f => { f with foreign := some k }).Integral := by
  refine h.of_views rfl ?_ rfl (h.inRange.modifyField id ?_)
  · simp only [Model.modifyField]
    rw [map_modify_of_eq]
    exact fun _ => rfl
  · intro f hf
    refine { hf with foreign := ?_ }
    rintro _ ⟨⟩
    exact hk

theorem Integral.setOperations (h : m.Integral) (id : StructId) {o : Struct}
    (ho : o.NamesFit m.extent) : (m.modifyStruct id fun s => s.withOperations o).Integral := by
  refine h.of_views ?_ rfl rfl (h.inRange.modifyStruct id ?_)
  · simp only [Model.modifyStruct]
    rw [map_modify_of_eq]
    exact fun _ => rfl
  · intro s hs
    exact { ho.congr rfl with
      fields := hs.fields
      rowid := hs.rowid
      referencedBy := hs.referencedBy }

end Model

end ModelLinker
