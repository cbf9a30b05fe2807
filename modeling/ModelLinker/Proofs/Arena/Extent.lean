import ModelLinker.Proofs.Binding.Bound

/-!
# Indices in range

A part of a model holds indices of other parts: of fields in lists, rowids and references, of the
parts that names are bound to, of parents and children. They are in range if each is less than the
number of the parts of its kind (`Model.InRange`). More parts leave them in range, and so does every
stage that writes nothing but indices in range.
-/

namespace ModelLinker

/-- How many parts of each kind there are. -/
structure Extent where
  structs : Nat
  fields : Nat
  enums : Nat
  bitfields : Nat
  roles : Nat

namespace Extent

variable (x : Extent)

def HasStruct (id : StructId) : Prop := id.index < x.structs

def HasField (id : FieldId) : Prop := id.index < x.fields

def HasEnum (id : EnumId) : Prop := id.index < x.enums

def HasBitfield (id : BitfieldId) : Prop := id.index < x.bitfields

def HasRole (id : RoleId) : Prop := id.index < x.roles

/-- There are as many parts of each kind, or more. -/
structure Le (x y : Extent) : Prop where
  structs : x.structs ≤ y.structs
  fields : x.fields ≤ y.fields
  enums : x.enums ≤ y.enums
  bitfields : x.bitfields ≤ y.bitfields
  roles : x.roles ≤ y.roles

end Extent

def Model.extent (m : Model) : Extent where
  structs := m.structs.size
  fields := m.fields.size
  enums := m.enums.size
  bitfields := m.bitfields.size
  roles := m.roles.size

/-! ### parts -/

/-- The name is not bound, or to something with a property. -/
def NameRef.Fits {α : Type} (p : α → Prop) (r : NameRef α) : Prop := ∀ a ∈ r.target, p a

def FieldType.Fits (x : Extent) : FieldType → Prop
  | .plain _ => True
  | .enum r => r.Fits x.HasEnum
  | .bitfield r => r.Fits x.HasBitfield
  | .struct r => r.Fits x.HasField

structure ForeignKey.Fits (x : Extent) (k : ForeignKey) : Prop where
  targetStruct : k.targetStruct.Fits x.HasStruct
  targetField : k.targetField.Fits x.HasField

structure Reference.Fits (x : Extent) (r : Reference) : Prop where
  source : x.HasField r.source
  target : x.HasField r.target

structure Field.Fits (x : Extent) (f : Field) : Prop where
  parent : x.HasStruct f.parent
  type : f.type.Fits x
  foreign : ∀ k ∈ f.foreign, k.Fits x
  reference : ∀ r ∈ f.reference, r.Fits x

structure Distinct.Fits (x : Extent) (d : Distinct) : Prop where
  path : ∀ r ∈ d.path, r.Fits x.HasField
  target : ∀ s ∈ d.target, x.HasStruct s

/-- The names in the operations and constraints of a structure are bound to parts, if at all. -/
structure Struct.NamesFit (x : Extent) (s : Struct) : Prop where
  paths : ∀ p ∈ s.paths, ∀ r ∈ p, r.Fits x.HasField
  distincts : ∀ d ∈ s.distincts, d.Fits x
  locals : ∀ r ∈ s.locals, r.Fits x.HasField
  grants : ∀ r ∈ s.grants, r.Fits x.HasRole

structure Struct.Fits (x : Extent) (s : Struct) : Prop extends s.NamesFit x where
  fields : ∀ id ∈ s.fields, x.HasField id
  rowid : ∀ id ∈ s.rowid, x.HasField id
  referencedBy : ∀ id ∈ s.referencedBy, x.HasField id

structure Role.Fits (x : Extent) (r : Role) : Prop where
  parentName : ∀ p ∈ r.parentName, p.Fits x.HasRole
  parent : ∀ p ∈ r.parent, x.HasRole p
  children : ∀ c ∈ r.children, x.HasRole c

/-- Every index that a part of the model holds is that of a part. -/
structure Model.InRange (m : Model) : Prop where
  structs : ∀ s ∈ m.structs, s.Fits m.extent
  fields : ∀ f ∈ m.fields, f.Fits m.extent
  roles : ∀ r ∈ m.roles, r.Fits m.extent

/-! ### more parts -/

section Mono

variable {x y : Extent}

theorem Extent.Le.refl (x : Extent) : x.Le x :=
  ⟨Nat.le_refl _, Nat.le_refl _, Nat.le_refl _, Nat.le_refl _, Nat.le_refl _⟩

theorem NameRef.Fits.mono {α : Type} {p q : α → Prop} {r : NameRef α} (h : r.Fits p)
    (hpq : ∀ a, p a → q a) : r.Fits q := fun a ha => hpq a (h a ha)

theorem NameRef.fits_bind {α : Type} {p : α → Prop} {a : α} (r : NameRef α) (ha : p a) :
    (r.bind a).Fits p := fun _ h => Option.some.inj h ▸ ha

theorem NameRef.fits_unbound {α : Type} {p : α → Prop} (name : String) (pos : Pos) :
    (NameRef.unbound name pos).Fits p := fun _ h => nomatch h

namespace Extent.Le

variable (h : x.Le y)

include h

theorem hasStruct (id : StructId) (hid : x.HasStruct id) : y.HasStruct id :=
  Nat.lt_of_lt_of_le hid h.structs

theorem hasField (id : FieldId) (hid : x.HasField id) : y.HasField id :=
  Nat.lt_of_lt_of_le hid h.fields

theorem hasEnum (id : EnumId) (hid : x.HasEnum id) : y.HasEnum id :=
  Nat.lt_of_lt_of_le hid h.enums

theorem hasBitfield (id : BitfieldId) (hid : x.HasBitfield id) : y.HasBitfield id :=
  Nat.lt_of_lt_of_le hid h.bitfields

theorem hasRole (id : RoleId) (hid : x.HasRole id) : y.HasRole id :=
  Nat.lt_of_lt_of_le hid h.roles

end Extent.Le

theorem FieldType.Fits.mono (hle : x.Le y) {t : FieldType} (h : t.Fits x) : t.Fits y := by
  cases t with
  | plain => trivial
  | enum r => exact NameRef.Fits.mono h hle.hasEnum
  | bitfield r => exact NameRef.Fits.mono h hle.hasBitfield
  | struct r => exact NameRef.Fits.mono h hle.hasField

theorem ForeignKey.Fits.mono (hle : x.Le y) {k : ForeignKey} (h : k.Fits x) : k.Fits y :=
  ⟨h.targetStruct.mono hle.hasStruct, h.targetField.mono hle.hasField⟩

theorem Reference.Fits.mono (hle : x.Le y) {r : Reference} (h : r.Fits x) : r.Fits y :=
  ⟨hle.hasField _ h.source, hle.hasField _ h.target⟩

theorem Field.Fits.mono (hle : x.Le y) {f : Field} (h : f.Fits x) : f.Fits y where
  parent := hle.hasStruct _ h.parent
  type := h.type.mono hle
  foreign k hk := (h.foreign k hk).mono hle
  reference r hr := (h.reference r hr).mono hle

theorem Distinct.Fits.mono (hle : x.Le y) {d : Distinct} (h : d.Fits x) : d.Fits y where
  path r hr := (h.path r hr).mono hle.hasField
  target s hs := hle.hasStruct s (h.target s hs)

theorem Struct.NamesFit.mono (hle : x.Le y) {s : Struct} (h : s.NamesFit x) :
    s.NamesFit y where
  paths p hp r hr := (h.paths p hp r hr).mono hle.hasField
  distincts d hd := (h.distincts d hd).mono hle
  locals r hr := (h.locals r hr).mono hle.hasField
  grants r hr := (h.grants r hr).mono hle.hasRole

theorem Struct.Fits.mono (hle : x.Le y) {s : Struct} (h : s.Fits x) : s.Fits y where
  toNamesFit := h.toNamesFit.mono hle
  fields id hid := hle.hasField id (h.fields id hid)
  rowid id hid := hle.hasField id (h.rowid id hid)
  referencedBy id hid := hle.hasField id (h.referencedBy id hid)

theorem Role.Fits.mono (hle : x.Le y) {r : Role} (h : r.Fits x) : r.Fits y where
  parentName p hp := (h.parentName p hp).mono hle.hasRole
  parent p hp := hle.hasRole p (h.parent p hp)
  children c hc := hle.hasRole c (h.children c hc)

end Mono

/-! ### stages that write no indices -/

theorem Struct.Settled.prod {β γ : Type} {f : Struct → β} {g : Struct → γ} (hf : Struct.Settled f)
    (hg : Struct.Settled g) : Struct.Settled fun s => (f s, g s) where
  joins s js := by rw [hf.joins, hg.joins]
  paths s := by rw [hf.paths, hg.paths]
  height s n := by rw [hf.height, hg.height]
  unique s u := by rw [hf.unique, hg.unique]
  flags s fs := by rw [hf.flags, hg.flags]

/-- The lists of fields in a structure, and its rowid. -/
def Struct.listed (s : Struct) : List FieldId × Option FieldId × List FieldId :=
  (s.fields, s.rowid, s.referencedBy)

theorem settled_listed : Struct.Settled Struct.listed where
  joins _ _ := rfl
  paths _ := rfl
  height _ _ := rfl
  unique _ _ := rfl
  flags _ _ := rfl

/-- The names in a structure that can be bound. -/
def Struct.named (s : Struct) : List (List (NameRef FieldId)) × List Distinct ×
    List (NameRef FieldId) × List (NameRef RoleId) :=
  (s.paths, s.distincts, s.locals, s.grants)

theorem settled_named : Struct.Settled Struct.named :=
  settled_paths.prod (settled_distincts.prod (settled_locals.prod settled_grants))

section Views

variable {x : Extent} {s s' : Struct}

theorem Struct.NamesFit.congr (h : s.NamesFit x) (heq : s'.named = s.named) :
    s'.NamesFit x := by
  simp only [Struct.named, Prod.mk.injEq] at heq
  obtain ⟨hpaths, hdistincts, hlocals, hgrants⟩ := heq
  exact ⟨hpaths ▸ h.paths, hdistincts ▸ h.distincts, hlocals ▸ h.locals, hgrants ▸ h.grants⟩

theorem Struct.Fits.congr (h : s.Fits x) (hlisted : s'.listed = s.listed)
    (hnamed : s'.named = s.named) : s'.Fits x := by
  simp only [Struct.listed, Prod.mk.injEq] at hlisted
  obtain ⟨hfields, hrowid, hreferenced⟩ := hlisted
  exact
    { h.toNamesFit.congr hnamed with
      fields := hfields ▸ h.fields
      rowid := hrowid ▸ h.rowid
      referencedBy := hreferenced ▸ h.referencedBy }

end Views

namespace Model

variable {m m' : Model}

theorem extent_asDeclared (m : Model) : m.asDeclared.extent = m.extent := by
  simp [extent, asDeclared]

/-- Models that were declared alike have as many parts. -/
theorem extent_congr (h : m'.asDeclared = m.asDeclared) : m'.extent = m.extent := by
  rw [← extent_asDeclared, h, extent_asDeclared]

/-- Structures that hold the same indices as before hold them in range. -/
theorem InRange.structs_of_map_eq (h : m.InRange)
    (hmap : m'.structs.map (fun s => (s.listed, s.named)) =
      m.structs.map fun s => (s.listed, s.named)) :
    ∀ s ∈ m'.structs, s.Fits m.extent := by
  intro s' hs'
  have hmem : (s'.listed, s'.named) ∈ m.structs.map fun s => (s.listed, s.named) :=
    hmap ▸ Array.mem_map_of_mem hs'
  obtain ⟨s, hs, heq⟩ := Array.mem_map.1 hmem
  simp only [Prod.mk.injEq] at heq
  exact (h.structs s hs).congr heq.1.symm heq.2.symm

/-- A stage adds no parts, so what it writes is in range if it was before. -/
theorem inRange_of_stage (hdeclared : m'.asDeclared = m.asDeclared)
    (hstructs : ∀ s ∈ m'.structs, s.Fits m.extent) (hfields : ∀ f ∈ m'.fields, f.Fits m.extent)
    (hroles : ∀ r ∈ m'.roles, r.Fits m.extent) : m'.InRange := by
  rw [← extent_congr hdeclared] at hstructs hfields hroles
  exact ⟨hstructs, hfields, hroles⟩

/-- A stage that writes joins, heights and marks writes no indices. -/
theorem InRange.of_settled (h : m.InRange) (hdeclared : m'.asDeclared = m.asDeclared)
    (hfields : m'.fields = m.fields) (hroles : m'.roles = m.roles)
    (hmap : m'.structs.map (fun s => (s.listed, s.named)) =
      m.structs.map fun s => (s.listed, s.named)) : m'.InRange :=
  inRange_of_stage hdeclared (h.structs_of_map_eq hmap) (hfields ▸ h.fields) (hroles ▸ h.roles)

theorem InRange.numberEnums (h : m.InRange) : (ModelLinker.numberEnums m).InRange :=
  h.of_settled (numberEnums_asDeclared m) rfl rfl rfl

theorem InRange.assignJoins (h : m.InRange) : (ModelLinker.assignJoins m).1.InRange :=
  h.of_settled (assignJoins_asDeclared m) rfl rfl
    (map_assignJoins (settled_listed.prod settled_named).joins
      (settled_listed.prod settled_named).paths m)

theorem InRange.setHeights (h : m.InRange) (t : Topology) : (ModelLinker.setHeights t m).InRange :=
  h.of_settled (setHeights_asDeclared t m) rfl rfl
    (map_setHeights (settled_listed.prod settled_named).height t m)

theorem InRange.markUniqueSearches (h : m.InRange) : (ModelLinker.markUniqueSearches m).InRange :=
  h.of_settled (markUniqueSearches_asDeclared m) rfl rfl
    (map_markUniqueSearches (settled_listed.prod settled_named).unique m)

theorem InRange.computeFlags (h : m.InRange) (order : List StructId) :
    (ModelLinker.computeFlags order m).InRange :=
  h.of_settled (computeFlags_asDeclared order m) (computeFlags_fields order m)
    (computeFlags_roles order m)
    (map_computeFlags (settled_listed.prod settled_named).flags order m)

end Model

end ModelLinker
