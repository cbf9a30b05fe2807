import Mathlib.Data.List.Forall2
import Mathlib.Tactic.MkIffOfInductiveProp
import ModelLinker.Proofs.Linked

/-!
# Linking fills slots

A linked model has all parts that were declared, in the same order, with everything that was said of
them (`Model.KeptBy`); only slots that linking fills can be different. The models that keep a model
in this sense are those from which the same is left once the slots are emptied
(`Model.asDeclared_eq_iff`), and a linked model is one of them (`keptBy_of_link`).
-/

namespace ModelLinker

open List (Forall₂)

/-! ### parts that are kept -/

/-- The name and its place are kept, whatever it is bound to. -/
@[mk_iff] structure NameRef.KeptBy {α : Type} (r r' : NameRef α) : Prop where
  name : r'.name = r.name
  pos : r'.pos = r.pos

@[mk_iff] structure FieldPath.KeptBy (p p' : FieldPath) : Prop where
  segments : Forall₂ NameRef.KeptBy p.segments p'.segments
  pos : p'.pos = p.pos

@[mk_iff] structure Predicate.KeptBy (p p' : Predicate) : Prop where
  path : p.path.KeptBy p'.path
  op : p'.op = p.op
  pos : p'.pos = p.pos

@[mk_iff] structure OrderTerm.KeptBy (o o' : OrderTerm) : Prop where
  path : o.path.KeptBy o'.path
  direction : o'.direction = o.direction
  pos : o'.pos = o.pos

@[mk_iff] structure Aggregate.KeptBy (a a' : Aggregate) : Prop where
  op : a'.op = a.op
  path : a.path.KeptBy a'.path
  pos : a'.pos = a.pos

@[mk_iff] structure Distinct.KeptBy (d d' : Distinct) : Prop where
  path : Forall₂ NameRef.KeptBy d.path d'.path
  pos : d'.pos = d.pos

@[mk_iff] structure RoleMap.KeptBy (g g' : RoleMap) : Prop where
  pos : g'.pos = g.pos
  roles : Forall₂ NameRef.KeptBy g.roles g'.roles

/-- All of a search is kept but whether it is unique. -/
@[mk_iff] structure Search.KeptBy (x x' : Search) : Prop where
  name : x'.name = x.name
  doc : x'.doc = x.doc
  kind : x'.kind = x.kind
  pos : x'.pos = x.pos
  params : Forall₂ Predicate.KeptBy x.params x'.params
  order : Forall₂ OrderTerm.KeptBy x.order x'.order
  aggregate : Option.Rel Aggregate.KeptBy x.aggregate x'.aggregate
  group : Option.Rel FieldPath.KeptBy x.group x'.group
  distinct : Option.Rel Distinct.KeptBy x.distinct x'.distinct
  limit : x'.limit = x.limit
  offset : x'.offset = x.offset
  roles : Option.Rel RoleMap.KeptBy x.roles x'.roles
  droppedParams : x'.droppedParams = x.droppedParams

@[mk_iff] structure Modifier.KeptBy (y y' : Modifier) : Prop where
  field : y.field.KeptBy y'.field
  kind : y'.kind = y.kind
  pos : y'.pos = y.pos

@[mk_iff] structure Condition.KeptBy (y y' : Condition) : Prop where
  field : y.field.KeptBy y'.field
  op : y'.op = y.op
  pos : y'.pos = y.pos

@[mk_iff] structure Update.KeptBy (u u' : Update) : Prop where
  name : u'.name = u.name
  doc : u'.doc = u.doc
  kind : u'.kind = u.kind
  pos : u'.pos = u.pos
  modifies : Forall₂ Modifier.KeptBy u.modifies u'.modifies
  all : u'.all = u.all
  constraints : Forall₂ Condition.KeptBy u.constraints u'.constraints
  roles : Option.Rel RoleMap.KeptBy u.roles u'.roles

@[mk_iff] structure Insert.KeptBy (i i' : Insert) : Prop where
  pos : i'.pos = i.pos
  roles : Option.Rel RoleMap.KeptBy i.roles i'.roles

@[mk_iff] structure Unique.KeptBy (u u' : Unique) : Prop where
  fields : Forall₂ NameRef.KeptBy u.fields u'.fields
  pos : u'.pos = u.pos

/-- All of a structure is kept but its rowid, its marks, its height, its joins and the list of the
fields that refer to it. -/
@[mk_iff] structure Struct.KeptBy (s s' : Struct) : Prop where
  name : s'.name = s.name
  pos : s'.pos = s.pos
  doc : s'.doc = s.doc
  fields : s'.fields = s.fields
  searches : Forall₂ Search.KeptBy s.searches s'.searches
  updates : Forall₂ Update.KeptBy s.updates s'.updates
  insert : Option.Rel Insert.KeptBy s.insert s'.insert
  uniques : Forall₂ Unique.KeptBy s.uniques s'.uniques

/-- The kind of a type is kept, and so is the name in it. -/
inductive FieldType.KeptBy : FieldType → FieldType → Prop where
  | plain (t : PlainType) : KeptBy (.plain t) (.plain t)
  | enum {r r' : NameRef EnumId} : r.KeptBy r' → KeptBy (.enum r) (.enum r')
  | bitfield {r r' : NameRef BitfieldId} : r.KeptBy r' → KeptBy (.bitfield r) (.bitfield r')
  | struct {r r' : NameRef FieldId} : r.KeptBy r' → KeptBy (.struct r) (.struct r')

@[mk_iff] structure ForeignKey.KeptBy (k k' : ForeignKey) : Prop where
  targetStruct : k.targetStruct.KeptBy k'.targetStruct
  targetField : k.targetField.KeptBy k'.targetField
  onUpdate : k'.onUpdate = k.onUpdate
  onDelete : k'.onDelete = k.onDelete
  pos : k'.pos = k.pos

/-- All of a field is kept but its reference. -/
@[mk_iff] structure Field.KeptBy (f f' : Field) : Prop where
  name : f'.name = f.name
  pos : f'.pos = f.pos
  doc : f'.doc = f.doc
  parent : f'.parent = f.parent
  type : f.type.KeptBy f'.type
  flags : f'.flags = f.flags
  default : f'.default = f.default
  validations : f'.validations = f.validations
  foreign : Option.Rel ForeignKey.KeptBy f.foreign f'.foreign
  malformedForeign : f'.malformedForeign = f.malformedForeign

/-- All of an item is kept but its value. -/
@[mk_iff] structure EnumItem.KeptBy (i i' : EnumItem) : Prop where
  name : i'.name = i.name
  pos : i'.pos = i.pos
  doc : i'.doc = i.doc
  declared : i'.declared = i.declared

@[mk_iff] structure Enumeration.KeptBy (e e' : Enumeration) : Prop where
  name : e'.name = e.name
  pos : e'.pos = e.pos
  doc : e'.doc = e.doc
  items : Forall₂ EnumItem.KeptBy e.items e'.items

/-- All of a role is kept but its parent and children. -/
@[mk_iff] structure Role.KeptBy (r r' : Role) : Prop where
  name : r'.name = r.name
  kind : r'.kind = r.kind
  pos : r'.pos = r.pos
  doc : r'.doc = r.doc
  parentName : Option.Rel NameRef.KeptBy r.parentName r'.parentName

/-- All parts of a model are kept, each at its index. -/
@[mk_iff] structure Model.KeptBy (m m' : Model) : Prop where
  structs : Forall₂ Struct.KeptBy m.structs.toList m'.structs.toList
  fields : Forall₂ Field.KeptBy m.fields.toList m'.fields.toList
  enums : Forall₂ Enumeration.KeptBy m.enums.toList m'.enums.toList
  bitfields : m'.bitfields = m.bitfields
  roles : Forall₂ Role.KeptBy m.roles.toList m'.roles.toList

/-! ### what is left of them -/

section Parts

variable {α β : Type} {f : α → β} {R : α → α → Prop}

theorem list_map_eq_iff (h : ∀ {a a'}, f a' = f a ↔ R a a') {xs xs' : List α} :
    xs'.map f = xs.map f ↔ Forall₂ R xs xs' := by
  have hR : (fun a a' => f a = f a') = R := by
    funext a a'
    exact propext (eq_comm.trans h)
  rw [eq_comm, ← List.forall₂_eq_eq_eq, List.forall₂_map_left_iff, List.forall₂_map_right_iff, hR]

theorem option_map_eq_iff (h : ∀ {a a'}, f a' = f a ↔ R a a') {x x' : Option α} :
    x'.map f = x.map f ↔ Option.Rel R x x' := by
  cases x <;> cases x' <;> simp [h]

theorem array_map_eq_iff (h : ∀ {a a'}, f a' = f a ↔ R a a') {xs xs' : Array α} :
    xs'.map f = xs.map f ↔ Forall₂ R xs.toList xs'.toList := by
  rw [← list_map_eq_iff h, ← Array.toList_inj, Array.toList_map, Array.toList_map]

end Parts

section Declared

variable {α : Type}

theorem NameRef.asDeclared_eq_iff {r r' : NameRef α} :
    r'.asDeclared = r.asDeclared ↔ r.KeptBy r' := by
  simp [asDeclared, keptBy_iff]

/-- Names that are kept, in their order. -/
theorem names_eq_iff {rs rs' : List (NameRef α)} :
    rs'.map NameRef.asDeclared = rs.map NameRef.asDeclared ↔ Forall₂ NameRef.KeptBy rs rs' :=
  list_map_eq_iff NameRef.asDeclared_eq_iff

theorem FieldPath.asDeclared_eq_iff {p p' : FieldPath} :
    p'.asDeclared = p.asDeclared ↔ p.KeptBy p' := by
  simp [asDeclared, keptBy_iff, names_eq_iff]

theorem Distinct.asDeclared_eq_iff {d d' : Distinct} :
    d'.asDeclared = d.asDeclared ↔ d.KeptBy d' := by
  simp [asDeclared, keptBy_iff, names_eq_iff]

theorem RoleMap.asDeclared_eq_iff {g g' : RoleMap} :
    g'.asDeclared = g.asDeclared ↔ g.KeptBy g' := by
  simp [asDeclared, keptBy_iff, names_eq_iff]

theorem roles_eq_iff {g g' : Option RoleMap} :
    g'.map RoleMap.asDeclared = g.map RoleMap.asDeclared ↔ Option.Rel RoleMap.KeptBy g g' :=
  option_map_eq_iff RoleMap.asDeclared_eq_iff

theorem Search.asDeclared_eq_iff {x x' : Search} :
    x'.asDeclared = x.asDeclared ↔ x.KeptBy x' := by
  have hparam : ∀ {y y' : Predicate}, ({ y' with path := y'.path.asDeclared } : Predicate) =
      { y with path := y.path.asDeclared } ↔ y.KeptBy y' := by
    simp [Predicate.keptBy_iff, FieldPath.asDeclared_eq_iff]
  have horder : ∀ {y y' : OrderTerm}, ({ y' with path := y'.path.asDeclared } : OrderTerm) =
      { y with path := y.path.asDeclared } ↔ y.KeptBy y' := by
    simp [OrderTerm.keptBy_iff, FieldPath.asDeclared_eq_iff]
  have haggregate : ∀ {y y' : Aggregate}, ({ y' with path := y'.path.asDeclared } : Aggregate) =
      { y with path := y.path.asDeclared } ↔ y.KeptBy y' := by
    simp [Aggregate.keptBy_iff, FieldPath.asDeclared_eq_iff]
  simp only [asDeclared, keptBy_iff, Search.mk.injEq, list_map_eq_iff hparam,
    list_map_eq_iff horder, option_map_eq_iff haggregate,
    option_map_eq_iff FieldPath.asDeclared_eq_iff, option_map_eq_iff Distinct.asDeclared_eq_iff,
    roles_eq_iff, true_and]

theorem Update.asDeclared_eq_iff {u u' : Update} :
    u'.asDeclared = u.asDeclared ↔ u.KeptBy u' := by
  have hmodify : ∀ {y y' : Modifier}, ({ y' with field := y'.field.asDeclared } : Modifier) =
      { y with field := y.field.asDeclared } ↔ y.KeptBy y' := by
    simp [Modifier.keptBy_iff, NameRef.asDeclared_eq_iff]
  have hcondition : ∀ {y y' : Condition}, ({ y' with field := y'.field.asDeclared } : Condition) =
      { y with field := y.field.asDeclared } ↔ y.KeptBy y' := by
    simp [Condition.keptBy_iff, NameRef.asDeclared_eq_iff]
  simp only [asDeclared, keptBy_iff, Update.mk.injEq, list_map_eq_iff hmodify,
    list_map_eq_iff hcondition, roles_eq_iff]

theorem Insert.asDeclared_eq_iff {i i' : Insert} :
    i'.asDeclared = i.asDeclared ↔ i.KeptBy i' := by
  simp [asDeclared, keptBy_iff, roles_eq_iff]

theorem Unique.asDeclared_eq_iff {u u' : Unique} :
    u'.asDeclared = u.asDeclared ↔ u.KeptBy u' := by
  simp [asDeclared, keptBy_iff, names_eq_iff]

theorem Struct.asDeclared_eq_iff {s s' : Struct} :
    s'.asDeclared = s.asDeclared ↔ s.KeptBy s' := by
  simp only [asDeclared, keptBy_iff, Struct.mk.injEq, list_map_eq_iff Search.asDeclared_eq_iff,
    list_map_eq_iff Update.asDeclared_eq_iff, option_map_eq_iff Insert.asDeclared_eq_iff,
    list_map_eq_iff Unique.asDeclared_eq_iff, and_true]

theorem FieldType.asDeclared_eq_iff {t t' : FieldType} :
    t'.asDeclared = t.asDeclared ↔ t.KeptBy t' := by
  constructor
  · intro h
    cases t <;> cases t' <;>
      simp only [asDeclared, plain.injEq, enum.injEq, bitfield.injEq, struct.injEq, reduceCtorEq,
        NameRef.asDeclared_eq_iff] at h
    · exact h ▸ .plain _
    · exact .enum h
    · exact .bitfield h
    · exact .struct h
  · rintro (_ | h | h | h)
    · rfl
    all_goals simp only [asDeclared, NameRef.asDeclared_eq_iff.2 h]

theorem ForeignKey.asDeclared_eq_iff {k k' : ForeignKey} :
    k'.asDeclared = k.asDeclared ↔ k.KeptBy k' := by
  simp [asDeclared, keptBy_iff, NameRef.asDeclared_eq_iff]

theorem Field.asDeclared_eq_iff {f f' : Field} :
    f'.asDeclared = f.asDeclared ↔ f.KeptBy f' := by
  simp only [asDeclared, keptBy_iff, Field.mk.injEq, FieldType.asDeclared_eq_iff,
    option_map_eq_iff ForeignKey.asDeclared_eq_iff, true_and]

theorem Enumeration.asDeclared_eq_iff {e e' : Enumeration} :
    e'.asDeclared = e.asDeclared ↔ e.KeptBy e' := by
  have hitem : ∀ {i i' : EnumItem}, i'.asDeclared = i.asDeclared ↔ i.KeptBy i' := by
    simp [EnumItem.asDeclared, EnumItem.keptBy_iff]
  simp only [asDeclared, keptBy_iff, Enumeration.mk.injEq, list_map_eq_iff hitem]

theorem Role.asDeclared_eq_iff {r r' : Role} :
    r'.asDeclared = r.asDeclared ↔ r.KeptBy r' := by
  simp [asDeclared, keptBy_iff, option_map_eq_iff NameRef.asDeclared_eq_iff]

end Declared

namespace Model

variable {m m' : Model}

/-- A model keeps another one exactly if the same is left of both once their slots are emptied. -/
theorem asDeclared_eq_iff : m'.asDeclared = m.asDeclared ↔ m.KeptBy m' := by
  simp only [asDeclared, keptBy_iff, Model.mk.injEq, array_map_eq_iff Struct.asDeclared_eq_iff,
    array_map_eq_iff Field.asDeclared_eq_iff, array_map_eq_iff Enumeration.asDeclared_eq_iff,
    array_map_eq_iff Role.asDeclared_eq_iff]

end Model

/-! ### linking -/

/-- A linked model differs from the model before in slots only: with the slots of both emptied they
are the same, and every part of the model before is kept, at its place. -/
theorem keptBy_of_link {seed : Diagnostics} {m : Model} {l : Linked}
    (h : linkWith seed m = .ok l) :
    l.model.asDeclared = m.asDeclared ∧ m.KeptBy l.model := by
  have hsame : l.model.asDeclared = m.asDeclared := by
    rw [(Model.linked_of_linkWith h).1]
    exact Model.asDeclared_linked
  exact ⟨hsame, Model.asDeclared_eq_iff.1 hsame⟩

theorem keptBy_of_staffSet :
    ∃ l, link staffSet.model = .ok l ∧ l.model.asDeclared = staffSet.model.asDeclared ∧
      staffSet.model.KeptBy l.model := by
  obtain ⟨l, -, hl⟩ := staffSet_links
  exact ⟨l, hl, keptBy_of_link hl⟩

end ModelLinker
