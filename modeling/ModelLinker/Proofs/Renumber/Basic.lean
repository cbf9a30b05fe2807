import ModelLinker.Linking
import ModelLinker.Proofs.Names
import ModelLinker.Proofs.Renumber.Permuted

/-!
# Models that differ in the order of their parts

A `Renumbering` takes the number of every part in one model to its number in another; the reserved
roles keep theirs. `Model.Like` says that the second model is the first one with its parts in
another order and all numbers in them changed. What depends on the order of parts by its nature is
left out: the short names of joins, the order of the fields that refer to a structure, and the
children of roles.
-/

namespace ModelLinker

/-- New numbers for the parts of a model. -/
structure Renumbering where
  structs : Equiv.Perm ℕ
  fields : Equiv.Perm ℕ
  enums : Equiv.Perm ℕ
  bitfields : Equiv.Perm ℕ
  roles : Equiv.Perm ℕ
  all : roles RoleId.all.index = RoleId.all.index
  none : roles RoleId.none.index = RoleId.none.index
  default : roles RoleId.default.index = RoleId.default.index

namespace Renumbering

variable (ρ : Renumbering)

def struct (id : StructId) : StructId := ⟨ρ.structs id.index⟩
def field (id : FieldId) : FieldId := ⟨ρ.fields id.index⟩
def enum (id : EnumId) : EnumId := ⟨ρ.enums id.index⟩
def bitfield (id : BitfieldId) : BitfieldId := ⟨ρ.bitfields id.index⟩
def role (id : RoleId) : RoleId := ⟨ρ.roles id.index⟩

variable {ρ}

@[simp] theorem struct_inj {a b : StructId} : ρ.struct a = ρ.struct b ↔ a = b := by
  cases a
  cases b
  simp [struct]

@[simp] theorem field_inj {a b : FieldId} : ρ.field a = ρ.field b ↔ a = b := by
  cases a
  cases b
  simp [field]

@[simp] theorem enum_inj {a b : EnumId} : ρ.enum a = ρ.enum b ↔ a = b := by
  cases a
  cases b
  simp [enum]

@[simp] theorem bitfield_inj {a b : BitfieldId} : ρ.bitfield a = ρ.bitfield b ↔ a = b := by
  cases a
  cases b
  simp [bitfield]

@[simp] theorem role_inj {a b : RoleId} : ρ.role a = ρ.role b ↔ a = b := by
  cases a
  cases b
  simp [role]

theorem enum_injective (ρ : Renumbering) : Function.Injective ρ.enum := fun _ _ => enum_inj.1

theorem bitfield_injective (ρ : Renumbering) : Function.Injective ρ.bitfield :=
  fun _ _ => bitfield_inj.1

theorem role_all : ρ.role .all = .all := congrArg RoleId.mk ρ.all

theorem role_none : ρ.role .none = .none := congrArg RoleId.mk ρ.none

theorem role_default : ρ.role .default = .default := congrArg RoleId.mk ρ.default

theorem struct_surjective (ρ : Renumbering) : Function.Surjective ρ.struct :=
  fun ⟨i⟩ => ⟨⟨ρ.structs.symm i⟩, by simp [struct]⟩

theorem role_surjective (ρ : Renumbering) : Function.Surjective ρ.role :=
  fun ⟨i⟩ => ⟨⟨ρ.roles.symm i⟩, by simp [role]⟩

end Renumbering

/-! ### parts with new numbers in them -/

def NameRef.rename {α : Type} (f : α → α) (r : NameRef α) : NameRef α :=
  { r with target := r.target.map f }

section Rename

variable (ρ : Renumbering)

def FieldType.rename : FieldType → FieldType
  | .plain t => .plain t
  | .enum r => .enum (r.rename ρ.enum)
  | .bitfield r => .bitfield (r.rename ρ.bitfield)
  | .struct r => .struct (r.rename ρ.field)

def ForeignKey.rename (k : ForeignKey) : ForeignKey :=
  { k with
    targetStruct := k.targetStruct.rename ρ.struct
    targetField := k.targetField.rename ρ.field }

def Reference.rename (r : Reference) : Reference :=
  { r with source := ρ.field r.source, target := ρ.field r.target }

def Field.rename (f : Field) : Field :=
  { f with
    parent := ρ.struct f.parent
    type := f.type.rename ρ
    foreign := f.foreign.map (ForeignKey.rename ρ)
    reference := f.reference.map (Reference.rename ρ) }

def FieldPath.rename (p : FieldPath) : FieldPath :=
  { p with segments := p.segments.map (NameRef.rename ρ.field) }

def Predicate.rename (x : Predicate) : Predicate := { x with path := x.path.rename ρ }

def OrderTerm.rename (x : OrderTerm) : OrderTerm := { x with path := x.path.rename ρ }

def Aggregate.rename (x : Aggregate) : Aggregate := { x with path := x.path.rename ρ }

def Distinct.rename (d : Distinct) : Distinct :=
  { d with path := d.path.map (NameRef.rename ρ.field), target := d.target.map ρ.struct }

def RoleMap.rename (g : RoleMap) : RoleMap :=
  { g with roles := g.roles.map (NameRef.rename ρ.role) }

def Search.rename (x : Search) : Search :=
  { x with
    params := x.params.map (Predicate.rename ρ)
    order := x.order.map (OrderTerm.rename ρ)
    aggregate := x.aggregate.map (Aggregate.rename ρ)
    group := x.group.map (FieldPath.rename ρ)
    distinct := x.distinct.map (Distinct.rename ρ)
    roles := x.roles.map (RoleMap.rename ρ) }

def Modifier.rename (x : Modifier) : Modifier := { x with field := x.field.rename ρ.field }

def Condition.rename (x : Condition) : Condition := { x with field := x.field.rename ρ.field }

def Update.rename (u : Update) : Update :=
  { u with
    modifies := u.modifies.map (Modifier.rename ρ)
    constraints := u.constraints.map (Condition.rename ρ)
    roles := u.roles.map (RoleMap.rename ρ) }

def Insert.rename (i : Insert) : Insert := { i with roles := i.roles.map (RoleMap.rename ρ) }

def Unique.rename (u : Unique) : Unique :=
  { u with fields := u.fields.map (NameRef.rename ρ.field) }

/-! ### parts that differ in their numbers only -/

/-- The second structure is the first one with new numbers. -/
structure Struct.Like (s s' : Struct) : Prop where
  name : s'.name = s.name
  fields : s'.fields = s.fields.map ρ.field
  searches : s'.searches = s.searches.map (Search.rename ρ)
  updates : s'.updates = s.updates.map (Update.rename ρ)
  insert : s'.insert = s.insert.map (Insert.rename ρ)
  uniques : s'.uniques = s.uniques.map (Unique.rename ρ)
  rowid : s'.rowid = s.rowid.map ρ.field
  flags : s'.flags = s.flags
  height : s'.height = s.height
  joins : s'.joins.map Join.path = s.joins.map Join.path
  referencedBy : s'.referencedBy.Perm (s.referencedBy.map ρ.field)

/-- The second role is the first one with new numbers. -/
structure Role.Like (r r' : Role) : Prop where
  name : r'.name = r.name
  kind : r'.kind = r.kind
  parentName : r'.parentName = r.parentName.map (NameRef.rename ρ.role)
  parent : r'.parent = r.parent.map ρ.role

/-- The second model is the first one with its parts in another order and with new numbers. -/
structure Model.Like (m m' : Model) : Prop where
  structs : Permuted (Struct.Like ρ) ρ.structs m.structs m'.structs
  fields : Permuted (fun f f' => f' = f.rename ρ) ρ.fields m.fields m'.fields
  enums : Permuted (fun e e' => e' = e) ρ.enums m.enums m'.enums
  bitfields : Permuted (fun b b' => b' = b) ρ.bitfields m.bitfields m'.bitfields
  roles : Permuted (Role.Like ρ) ρ.roles m.roles m'.roles

end Rename

/-! ### what renaming leaves alone -/

section Simp

variable {ρ : Renumbering}

@[simp] theorem NameRef.rename_bind {α : Type} (f : α → α) (r : NameRef α) (a : α) :
    (r.bind a).rename f = (r.rename f).bind (f a) := rfl

@[simp] theorem NameRef.rename_name {α : Type} (f : α → α) (r : NameRef α) :
    (r.rename f).name = r.name := rfl

@[simp] theorem NameRef.rename_pos {α : Type} (f : α → α) (r : NameRef α) :
    (r.rename f).pos = r.pos := rfl

@[simp] theorem NameRef.rename_target {α : Type} (f : α → α) (r : NameRef α) :
    (r.rename f).target = r.target.map f := rfl

@[simp] theorem FieldType.rename_name (t : FieldType) : (t.rename ρ).name = t.name := by
  cases t <;> rfl

@[simp] theorem FieldType.rename_isStruct (t : FieldType) :
    (t.rename ρ).isStruct = t.isStruct := by
  cases t <;> rfl

@[simp] theorem FieldType.rename_isTextual (t : FieldType) :
    (t.rename ρ).isTextual = t.isTextual := by
  cases t <;> rfl

@[simp] theorem FieldType.rename_eq_plain (t : FieldType) (p : PlainType) :
    t.rename ρ = .plain p ↔ t = .plain p := by
  cases t <;> simp [FieldType.rename]

theorem FieldType.rename_keyCompatible (t u : FieldType) :
    (t.rename ρ).keyCompatible (u.rename ρ) = t.keyCompatible u := by
  cases t <;> cases u <;> simp [FieldType.rename, FieldType.keyCompatible]
  · exact (Option.map_injective ρ.enum_injective).eq_iff
  · exact (Option.map_injective ρ.bitfield_injective).eq_iff

@[simp] theorem Field.rename_name (f : Field) : (f.rename ρ).name = f.name := rfl

@[simp] theorem Field.rename_parent (f : Field) : (f.rename ρ).parent = ρ.struct f.parent := rfl

@[simp] theorem Field.rename_type (f : Field) : (f.rename ρ).type = f.type.rename ρ := rfl

@[simp] theorem Field.rename_flags (f : Field) : (f.rename ρ).flags = f.flags := rfl

@[simp] theorem Field.rename_isUniqueKey (f : Field) :
    (f.rename ρ).isUniqueKey = f.isUniqueKey := rfl

@[simp] theorem Field.rename_foreign (f : Field) :
    (f.rename ρ).foreign = f.foreign.map (ForeignKey.rename ρ) := rfl

@[simp] theorem Field.rename_reference (f : Field) :
    (f.rename ρ).reference = f.reference.map (Reference.rename ρ) := rfl

@[simp] theorem Field.rename_malformedForeign (f : Field) :
    (f.rename ρ).malformedForeign = f.malformedForeign := rfl

end Simp

/-! ### lookups -/

namespace Model.Like

variable {ρ : Renumbering} {m m' : Model}

theorem struct? (h : m.Like ρ m') {id : StructId} {s : Struct} (hs : m.struct? id = some s) :
    ∃ s', m'.struct? (ρ.struct id) = some s' ∧ s.Like ρ s' :=
  h.structs.some hs

theorem struct?_none (h : m.Like ρ m') {id : StructId} (hs : m.struct? id = none) :
    m'.struct? (ρ.struct id) = none :=
  h.structs.none hs

theorem field? (h : m.Like ρ m') (id : FieldId) :
    m'.field? (ρ.field id) = (m.field? id).map (Field.rename ρ) := by
  cases hf : m.field? id with
  | none => exact h.fields.none hf
  | some f =>
    obtain ⟨f', hf', rfl⟩ := h.fields.some hf
    exact hf'

theorem role? (h : m.Like ρ m') {id : RoleId} {r : Role} (hr : m.role? id = some r) :
    ∃ r', m'.role? (ρ.role id) = some r' ∧ r.Like ρ r' :=
  h.roles.some hr

theorem parentOf (h : m.Like ρ m') (id : RoleId) :
    m'.parentOf (ρ.role id) = (m.parentOf id).map ρ.role := by
  cases hr : m.role? id with
  | none =>
    have : m'.role? (ρ.role id) = none := h.roles.none hr
    simp [Model.parentOf, hr, this]
  | some r =>
    obtain ⟨r', hr', hlike⟩ := h.role? hr
    simp [Model.parentOf, hr, hr', hlike.parent]

/-- A field of a structure with its index, renumbered. -/
def entry (ρ : Renumbering) (e : FieldId × Field) : FieldId × Field := (ρ.field e.1, e.2.rename ρ)

theorem fieldsOf (h : m.Like ρ m') (id : StructId) :
    m'.fieldsOf (ρ.struct id) = (m.fieldsOf id).map (entry ρ) := by
  unfold Model.fieldsOf
  cases hs : m.struct? id with
  | none => simp [h.struct?_none hs]
  | some s =>
    obtain ⟨s', hs', hlike⟩ := h.struct? hs
    simp only [hs', hlike.fields, List.filterMap_map, List.map_filterMap]
    congr
    funext f
    simp only [Function.comp_apply, h.field?]
    cases m.field? f <;> rfl

theorem embedded? (h : m.Like ρ m') (f : Field) :
    m'.embedded? (f.rename ρ) = (m.embedded? f).map ρ.struct := by
  simp only [Model.embedded?, Field.rename_type, FieldType.rename_isStruct, Field.rename_reference]
  split
  · cases f.reference with
    | none => rfl
    | some r =>
      simp only [Option.map_some, Option.bind_some, Reference.rename, h.field?]
      cases m.field? r.target <;> rfl
  · rfl

theorem embeds (h : m.Like ρ m') (id : StructId) :
    m'.embeds (ρ.struct id) = (m.embeds id).map fun e => (ρ.field e.1, ρ.struct e.2) := by
  simp only [Model.embeds, h.fieldsOf, List.filterMap_map, List.map_filterMap]
  congr
  funext e
  simp only [Function.comp_apply, entry, h.embedded?]
  cases m.embedded? e.2 <;> rfl

theorem structIds_perm (h : m.Like ρ m') : m'.structIds.Perm (m.structIds.map ρ.struct) := by
  have := h.structs.range_perm.map StructId.mk
  rw [List.map_map] at this
  rw [Model.structIds, Model.structIds, List.map_map]
  exact this

theorem isEmpty (h : m.Like ρ m') : m'.structs.isEmpty = m.structs.isEmpty := by
  simp only [Array.isEmpty, h.structs.size]

end Model.Like

end ModelLinker
