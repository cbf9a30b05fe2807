import ModelLinker.Proofs.Evolution.Allowed

/-!
# Models of the same outline

An outline says of a model what matters to stored data, and says it by names: it has no numbers, no
places, and no order but that of the items of an enumeration. Models that have the same outline,
with their parts in any order, have not changed (`changes_eq_nil`).
-/

namespace ModelLinker

open Text (fold sameName sameName_refl sameName_trans)

/-! ### outlines -/

/-- A reference: the structure that it leads to, and what happens to the rows that hold it. -/
structure KeyOutline where
  target : Option String
  onUpdate : Action
  onDelete : Action

/-- A field, with the key that it holds. -/
structure FieldOutline where
  name : String
  kind : TypeName
  rowid : Bool
  unique : Bool
  nullable : Bool
  key : Option KeyOutline

/-- A structure, with the names of the fields of each constraint. -/
structure StructOutline where
  name : String
  fields : List FieldOutline
  uniques : List (List String)

/-- An enumeration, with its values. -/
structure EnumOutline where
  name : String
  items : List (String × Int)

/-- Outlines of one structure, with its parts in any order. -/
structure StructOutline.Same (a b : StructOutline) : Prop where
  name : a.name = b.name
  fields : a.fields.Perm b.fields
  uniques : a.uniques.Perm b.uniques

namespace StructOutline

variable {a b : StructOutline}

@[refl] theorem Same.refl (a : StructOutline) : a.Same a := ⟨rfl, .refl _, .refl _⟩

@[symm] theorem Same.symm (h : a.Same b) : b.Same a :=
  ⟨h.name.symm, h.fields.symm, h.uniques.symm⟩

end StructOutline

def Struct.uniqueOutlines (s : Struct) : List (List String) :=
  s.uniques.map fun u => u.fields.map NameRef.name

def Enumeration.outline (e : Enumeration) : EnumOutline :=
  ⟨e.name, e.items.map fun i => (i.name, i.value)⟩

namespace Model

def keyOutline (m : Model) (r : Reference) : KeyOutline :=
  ⟨(m.referredStruct r).map fold, r.onUpdate, r.onDelete⟩

/-- A structure-typed field holds no key of its own. -/
def fieldOutline (m : Model) (f : Field) : FieldOutline where
  name := f.name
  kind := f.type.name
  rowid := f.flags.rowid
  unique := f.flags.unique
  nullable := f.flags.nullable
  key := if f.type.isStruct then none else f.reference.map m.keyOutline

def structOutline (m : Model) (id : StructId) (s : Struct) : StructOutline :=
  ⟨s.name, (m.fieldsOf id).map fun e => m.fieldOutline e.2, s.uniqueOutlines⟩

/-- There is a structure of this outline. -/
def HasStruct (m : Model) (o : StructOutline) : Prop :=
  ∃ id s, m.struct? id = some s ∧ m.structOutline id s = o

/-- There is an enumeration of this outline. -/
def HasEnum (m : Model) (o : EnumOutline) : Prop := ∃ e ∈ m.enums, e.outline = o

/-- Two models have structures and enumerations of the same outlines. -/
structure SameOutline (m m' : Model) : Prop where
  left : ∀ o, m.HasStruct o → ∃ o', m'.HasStruct o' ∧ o.Same o'
  right : ∀ o', m'.HasStruct o' → ∃ o, m.HasStruct o ∧ o.Same o'
  enums : ∀ o, m.HasEnum o ↔ m'.HasEnum o

variable {m m' : Model}

@[refl] theorem SameOutline.refl (m : Model) : m.SameOutline m :=
  ⟨fun o ho => ⟨o, ho, .refl o⟩, fun o ho => ⟨o, ho, .refl o⟩, fun _ => .rfl⟩

@[symm] theorem SameOutline.symm (h : m.SameOutline m') : m'.SameOutline m where
  left o ho := (h.right o ho).imp fun _ ⟨ho', hsame⟩ => ⟨ho', hsame.symm⟩
  right o ho := (h.left o ho).imp fun _ ⟨ho', hsame⟩ => ⟨ho', hsame.symm⟩
  enums o := (h.enums o).symm

/-! ### what has the same outline has not changed -/

variable {P : Change → Prop}

theorem sameName_of_eq {a b : String} (h : a = b) : sameName a b = true := h ▸ sameName_refl a

theorem enum_evolves {e e' : Enumeration} (h : e.outline = e'.outline)
    (hunique : ∀ {i j}, i ∈ e'.items → j ∈ e'.items → sameName i.name j.name = true → i = j) :
    e.Evolves P e' := by
  obtain ⟨-, hitems⟩ := EnumOutline.mk.inj h
  have hright : ∀ i ∈ e.items, ∃ j ∈ e'.items, j.name = i.name ∧ j.value = i.value := by
    intro i hi
    obtain ⟨j, hj, heq⟩ := List.mem_map.1 (hitems ▸ List.mem_map_of_mem hi)
    exact ⟨j, hj, Prod.mk.inj heq⟩
  have hleft : ∀ j ∈ e'.items, ∃ i ∈ e.items, i.name = j.name := by
    intro j hj
    obtain ⟨i, hi, heq⟩ := List.mem_map.1 (hitems.symm ▸ List.mem_map_of_mem hj)
    exact ⟨i, hi, (Prod.mk.inj heq).1⟩
  refine ⟨fun j hj => ?_, fun i hi j hj hn => ?_, fun i hi => ?_⟩
  · obtain ⟨i, hi, hn⟩ := hleft j hj
    exact .inl ⟨i, hi, sameName_of_eq hn⟩
  · obtain ⟨j', hj', hn', hvalue⟩ := hright i hi
    obtain rfl : j' = j := hunique hj' hj (hn' ▸ hn)
    exact .inl hvalue.symm
  · obtain ⟨j, hj, hn, -⟩ := hright i hi
    exact .inl ⟨j, hj, sameName_of_eq hn.symm⟩

theorem field_evolves {f f' : Field} (h : m.fieldOutline f = m'.fieldOutline f') :
    f.Evolves P m m' f' := by
  obtain ⟨-, hkind, hrowid, hunique, hnullable, hkey⟩ := FieldOutline.mk.inj h
  have hkeys : f.type.isStruct = false → f'.type.isStruct = false →
      f.reference.map m.keyOutline = f'.reference.map m'.keyOutline := by
    intro hs hs'
    simpa [hs, hs'] using hkey
  refine ⟨.inl hkind, .inl (by simp [sameAttributes, hrowid, hunique, hnullable]), ?_, ?_⟩
  · intro hs hs'
    have := congrArg Option.isSome (hkeys hs hs')
    exact .inl (by simpa using this)
  · intro hs hs' r r' hr hr'
    have hboth := hkeys hs hs'
    rw [hr, hr', Option.map_some, Option.map_some, Option.some.injEq] at hboth
    obtain ⟨htarget, hupdate, hdelete⟩ := KeyOutline.mk.inj hboth
    exact ⟨.inl hdelete, .inl hupdate, .inl htarget⟩

/-- A constraint has a counterpart of the same names. -/
theorem exists_unique_of_mem (h : m.Comparable) (h' : m'.Comparable) {id id' : StructId}
    {s s' : Struct} (hs : m.struct? id = some s) (hs' : m'.struct? id' = some s')
    (hsub : s.uniqueOutlines ⊆ s'.uniqueOutlines) {u : Unique} (hu : u ∈ s.uniques) :
    ∃ v ∈ s'.uniques, v.names m' = u.names m := by
  obtain ⟨v, hv, heq⟩ := List.mem_map.1 (hsub (List.mem_map_of_mem hu))
  refine ⟨v, hv, ?_⟩
  rw [h'.uniques hs' v hv, h.uniques hs u hu]
  simpa [List.map_map, Function.comp_def] using congrArg (List.map fold) heq

theorem struct_evolves (h : m.Comparable) (h' : m'.Comparable) {id id' : StructId} {s s' : Struct}
    (hs : m.struct? id = some s) (hs' : m'.struct? id' = some s')
    (hsame : (m.structOutline id s).Same (m'.structOutline id' s')) :
    StructEvolves P m m' id id' s s' := by
  obtain ⟨-, hfields, huniques⟩ := hsame
  have hright : ∀ e ∈ m.fieldsOf id, ∃ e' ∈ m'.fieldsOf id',
      m'.fieldOutline e'.2 = m.fieldOutline e.2 := fun e he =>
    List.mem_map.1 (hfields.subset (List.mem_map_of_mem he))
  have hleft : ∀ e' ∈ m'.fieldsOf id', ∃ e ∈ m.fieldsOf id,
      m.fieldOutline e.2 = m'.fieldOutline e'.2 := fun e he =>
    List.mem_map.1 (hfields.symm.subset (List.mem_map_of_mem he))
  have hnames : ∀ a : List String, sameNames a a = true := fun a => by simp [sameNames]
  refine ⟨fun e' he' _ => ?_, fun e he => ?_, fun e he e' he' hn => ?_, fun v hv => ?_,
    fun u hu => ?_⟩
  · obtain ⟨e, he, heq⟩ := hleft e' he'
    exact .inl ⟨e, he, sameName_of_eq (congrArg FieldOutline.name heq)⟩
  · obtain ⟨e', he', heq⟩ := hright e he
    exact .inl ⟨e', he', sameName_of_eq (congrArg FieldOutline.name heq.symm)⟩
  · obtain ⟨e'', he'', heq⟩ := hright e he
    obtain rfl : e'' = e' :=
      h'.fields he'' he' (sameName_trans (sameName_of_eq (congrArg FieldOutline.name heq)) hn)
    exact field_evolves heq.symm
  · obtain ⟨u, hu, heq⟩ := exists_unique_of_mem h' h hs' hs huniques.symm.subset hv
    exact .inl ⟨u, hu, heq ▸ hnames _⟩
  · obtain ⟨v, hv, heq⟩ := exists_unique_of_mem h h' hs hs' huniques.subset hu
    exact .inl ⟨v, hv, heq ▸ hnames _⟩

/-- Between models of the same outline every change is allowed, because there is none. What a part
has become is the only part of its name, so it is the one that has its outline. -/
theorem SameOutline.evolves (h : m.Comparable) (h' : m'.Comparable) (hsame : m.SameOutline m') :
    m.Evolves P m' := by
  have henums : ∀ e ∈ m.enums, ∃ e' ∈ m'.enums, e'.outline = e.outline := fun e he =>
    (hsame.enums _).1 ⟨e, he, rfl⟩
  have hstructs : ∀ id s, m.struct? id = some s → ∃ id' s', m'.struct? id' = some s' ∧
      (m.structOutline id s).Same (m'.structOutline id' s') := by
    intro id s hs
    obtain ⟨_, ⟨id', s', hs', rfl⟩, hso⟩ := hsame.left _ ⟨id, s, hs, rfl⟩
    exact ⟨id', s', hs', hso⟩
  refine ⟨fun e' he' => ?_, fun e he e' he' hn => ?_, fun e he => ?_, fun id s hs => ?_,
    fun id id' s s' hs hs' hn => ?_⟩
  · obtain ⟨e, he, heq⟩ := (hsame.enums _).2 ⟨e', he', rfl⟩
    exact .inl ⟨e, he, sameName_of_eq (congrArg EnumOutline.name heq)⟩
  · obtain ⟨e'', he'', heq⟩ := henums e he
    obtain rfl : e'' = e' :=
      h'.enums he'' he' (sameName_trans (sameName_of_eq (congrArg EnumOutline.name heq)) hn)
    exact enum_evolves heq.symm (h'.items he')
  · obtain ⟨e', he', heq⟩ := henums e he
    exact .inl ⟨e', he', sameName_of_eq (congrArg EnumOutline.name heq.symm)⟩
  · obtain ⟨id', s', hs', hso⟩ := hstructs id s hs
    exact .inl ⟨id', s', hs', sameName_of_eq hso.name⟩
  · obtain ⟨id'', s'', hs'', hso⟩ := hstructs id s hs
    obtain rfl : id'' = id' :=
      h'.structs hs'' hs' (sameName_trans (sameName_of_eq hso.name.symm) hn)
    obtain rfl : s'' = s' := Option.some.inj (hs''.symm.trans hs')
    exact struct_evolves h h' hs hs' hso

end Model

/-- Nothing is reported if the outline stays the same. -/
theorem changes_eq_nil {old new : Linked} (h : old.model.Comparable) (h' : new.model.Comparable)
    (hsame : old.model.SameOutline new.model) : changes old new = [] :=
  Diagnostics.only_false.1 ((only_changes h h').2 (hsame.evolves h h'))

end ModelLinker
