import ModelLinker.Linking
import ModelLinker.Proofs.Names

/-!
# What linking leaves as it was declared

`Model.asDeclared` empties every slot of a model that linking fills: the parts that names are bound
to, values of items, references, rowids, heights, joins, marks, parents and children. No stage of
linking changes what is left, so a name stands for the same part before and after every stage.
-/

namespace ModelLinker

/-! ### the parts of a model, as they were declared -/

def NameRef.asDeclared {α : Type} (r : NameRef α) : NameRef α := { r with target := none }

def FieldType.asDeclared : FieldType → FieldType
  | .plain t => .plain t
  | .enum r => .enum r.asDeclared
  | .bitfield r => .bitfield r.asDeclared
  | .struct r => .struct r.asDeclared

def ForeignKey.asDeclared (k : ForeignKey) : ForeignKey :=
  { k with targetStruct := k.targetStruct.asDeclared, targetField := k.targetField.asDeclared }

def Field.asDeclared (f : Field) : Field :=
  { f with
    type := f.type.asDeclared
    foreign := f.foreign.map ForeignKey.asDeclared
    reference := none }

def FieldPath.asDeclared (p : FieldPath) : FieldPath :=
  { p with segments := p.segments.map NameRef.asDeclared, join := none }

def Distinct.asDeclared (d : Distinct) : Distinct :=
  { d with path := d.path.map NameRef.asDeclared, target := none }

def RoleMap.asDeclared (g : RoleMap) : RoleMap :=
  { g with roles := g.roles.map NameRef.asDeclared }

def Search.asDeclared (x : Search) : Search :=
  { x with
    params := x.params.map fun y => { y with path := y.path.asDeclared }
    order := x.order.map fun y => { y with path := y.path.asDeclared }
    aggregate := x.aggregate.map fun y => { y with path := y.path.asDeclared }
    group := x.group.map FieldPath.asDeclared
    distinct := x.distinct.map Distinct.asDeclared
    roles := x.roles.map RoleMap.asDeclared
    unique := false }

def Update.asDeclared (u : Update) : Update :=
  { u with
    modifies := u.modifies.map fun y => { y with field := y.field.asDeclared }
    constraints := u.constraints.map fun y => { y with field := y.field.asDeclared }
    roles := u.roles.map RoleMap.asDeclared }

def Insert.asDeclared (i : Insert) : Insert := { i with roles := i.roles.map RoleMap.asDeclared }

def Unique.asDeclared (u : Unique) : Unique := { u with fields := u.fields.map NameRef.asDeclared }

def Struct.asDeclared (s : Struct) : Struct :=
  { s with
    searches := s.searches.map Search.asDeclared
    updates := s.updates.map Update.asDeclared
    insert := s.insert.map Insert.asDeclared
    uniques := s.uniques.map Unique.asDeclared
    rowid := none
    flags := ⟨false, false, false, false⟩
    height := 0
    joins := []
    referencedBy := [] }

def EnumItem.asDeclared (i : EnumItem) : EnumItem := { i with value := 0 }

def Enumeration.asDeclared (e : Enumeration) : Enumeration :=
  { e with items := e.items.map EnumItem.asDeclared }

def Role.asDeclared (r : Role) : Role :=
  { r with parentName := r.parentName.map NameRef.asDeclared, parent := none, children := [] }

/-- A model without what linking finds out about it. -/
def Model.asDeclared (m : Model) : Model where
  structs := m.structs.map Struct.asDeclared
  fields := m.fields.map Field.asDeclared
  enums := m.enums.map Enumeration.asDeclared
  bitfields := m.bitfields
  roles := m.roles.map Role.asDeclared

/-! ### the stages of linking -/

section Maps

variable {α β : Type} {g : α → β} {xs : Array α}

theorem map_map_of_eq {f : α → α} (h : ∀ x, g (f x) = g x) : (xs.map f).map g = xs.map g := by
  rw [Array.map_map]
  exact congrArg (xs.map ·) (funext h)

theorem map_mapIdx_of_eq {f : Nat → α → α} (h : ∀ i x, g (f i x) = g x) :
    (xs.mapIdx f).map g = xs.map g := by
  apply Array.ext (by simp)
  intro i _ _
  simp [h]

theorem map_modify_of_eq {f : α → α} (i : Nat) (h : ∀ x, g (f x) = g x) :
    (xs.modify i f).map g = xs.map g := by
  apply Array.ext (by simp)
  intro j _ _
  simp only [Array.getElem_map, Array.getElem_modify]
  split <;> simp [h]

theorem array_map_eq_self {f : α → α} (h : ∀ x ∈ xs, f x = x) : xs.map f = xs := by
  apply Array.ext (by simp)
  intro i _ hi
  rw [Array.getElem_map]
  exact h _ (Array.getElem_mem hi)

theorem array_mapIdx_eq_self {f : Nat → α → α} (h : ∀ {i x}, xs[i]? = some x → f i x = x) :
    xs.mapIdx f = xs := by
  apply Array.ext (by simp)
  intro i _ hi
  rw [Array.getElem_mapIdx]
  exact h (Array.getElem?_eq_getElem hi)

variable {R : α → β → Prop} {x : Option α} {y : Option β}

theorem exists_of_rel (h : Option.Rel R x y) {b : β} (hb : y = some b) :
    ∃ a, x = some a ∧ R a b := by
  subst hb
  cases h with
  | some hab => exact ⟨_, rfl, hab⟩

theorem exists_of_rel_left (h : Option.Rel R x y) {a : α} (ha : x = some a) :
    ∃ b, y = some b ∧ R a b := by
  subst ha
  cases h with
  | some hab => exact ⟨_, rfl, hab⟩

end Maps

@[simp] theorem NameRef.asDeclared_bind {α : Type} (r : NameRef α) (a : α) :
    (r.bind a).asDeclared = r.asDeclared := rfl

@[simp] theorem NameRef.asDeclared_resolve {α : Type} (r : NameRef α) (found : Option α) :
    (r.resolve found).asDeclared = r.asDeclared := by
  cases found <;> rfl

theorem numberItems_asDeclared (next : Int) (items : List EnumItem) :
    (numberItems next items).map EnumItem.asDeclared = items.map EnumItem.asDeclared := by
  induction items generalizing next with
  | nil => rfl
  | cons i rest ih => simp [numberItems, ih, EnumItem.asDeclared]

theorem numberEnums_asDeclared (m : Model) : (numberEnums m).asDeclared = m.asDeclared := by
  simp only [numberEnums, Model.asDeclared]
  rw [map_map_of_eq]
  intro e
  simp [Enumeration.number, Enumeration.asDeclared, numberItems_asDeclared]

theorem resolveRowids_asDeclared (m : Model) : (resolveRowids m).asDeclared = m.asDeclared := by
  simp only [resolveRowids, Model.asDeclared]
  rw [map_mapIdx_of_eq]
  exact fun _ _ => rfl

section Resolve

variable (names : Namespace) (m : Model)

theorem resolveValueTypes_asDeclared :
    (resolveValueTypes names m).asDeclared = m.asDeclared := by
  simp only [resolveValueTypes, Model.asDeclared]
  rw [map_map_of_eq]
  intro f
  cases h : f.type <;> simp [Field.asDeclared, FieldType.resolveValue, FieldType.asDeclared, h]

theorem resolveKey_asDeclared (id : FieldId) (f : Field) (k : ForeignKey) :
    (resolveKey names m id f k).1.asDeclared = k.asDeclared := by
  unfold resolveKey
  split <;> rfl

theorem resolveForeign_asDeclared (id : FieldId) (f : Field) :
    (f.resolveForeign names m id).asDeclared = f.asDeclared := by
  unfold Field.resolveForeign
  split
  · rfl
  · rename_i k hk
    simp [Field.asDeclared, hk, resolveKey_asDeclared]

theorem resolveForeignKeys_asDeclared :
    (resolveForeignKeys names m).asDeclared = m.asDeclared := by
  simp only [resolveForeignKeys, Model.asDeclared]
  rw [map_mapIdx_of_eq (g := Field.asDeclared), map_mapIdx_of_eq (g := Struct.asDeclared)]
  · exact fun _ _ => rfl
  · exact fun i f => resolveForeign_asDeclared names m ⟨i⟩ f

theorem resolveStructFields_asDeclared :
    (resolveStructFields names m).asDeclared = m.asDeclared := by
  simp only [resolveStructFields, Model.asDeclared]
  rw [map_map_of_eq]
  intro f
  unfold Field.resolveStruct
  split
  · rename_i r hr
    split
    · simp [Field.asDeclared, FieldType.asDeclared, hr]
    · rfl
  · rfl

theorem walkPath_asDeclared (use : PathUse) (dotted : String) (origin : StructId)
    (path : List (NameRef FieldId)) :
    (walkPath names m use dotted origin path).1.map NameRef.asDeclared =
      path.map NameRef.asDeclared := by
  induction path generalizing origin with
  | nil => rfl
  | cons r rest ih =>
    unfold walkPath
    split
    · rfl
    · split
      · rename_i h
        simp [List.isEmpty_iff.1 h]
      · split <;> simp [ih]

theorem walkDistinct_asDeclared (origin : StructId) (path : List (NameRef FieldId)) :
    (walkDistinct names m origin path).1.map NameRef.asDeclared =
      path.map NameRef.asDeclared := by
  induction path generalizing origin with
  | nil => rfl
  | cons r rest ih =>
    unfold walkDistinct
    split
    · rfl
    · split <;> simp [ih]

theorem resolvePath_asDeclared (use : PathUse) (origin : StructId) (p : FieldPath) :
    (resolvePath names m use origin p).1.asDeclared = p.asDeclared := by
  simp [resolvePath, FieldPath.asDeclared, walkPath_asDeclared]

theorem resolveDistinct_asDeclared (origin : StructId) (d : Distinct) :
    (resolveDistinct names m origin d).1.asDeclared = d.asDeclared := by
  have h := walkDistinct_asDeclared names m origin d.path
  unfold resolveDistinct
  split <;> rename_i hw <;> simp_all [Distinct.asDeclared]

theorem resolveLocal_asDeclared (use : LocalUse) (origin : StructId) (r : NameRef FieldId) :
    (resolveLocal names m use origin r).1.asDeclared = r.asDeclared := by
  unfold resolveLocal
  split
  · rfl
  · split <;> rfl

theorem resolveSearch_asDeclared (origin : StructId) (x : Search) :
    (resolveSearch names m origin x).1.asDeclared = x.asDeclared := by
  simp [resolveSearch, resolveAll, resolveOption, Search.asDeclared, resolvePath_asDeclared,
    resolveDistinct_asDeclared, Function.comp_def]

theorem resolveUpdate_asDeclared (origin : StructId) (u : Update) :
    (resolveUpdate names m origin u).1.asDeclared = u.asDeclared := by
  simp [resolveUpdate, resolveAll, Update.asDeclared, resolveLocal_asDeclared, Function.comp_def]

theorem resolveUnique_asDeclared (origin : StructId) (u : Unique) :
    (resolveUnique names m origin u).1.asDeclared = u.asDeclared := by
  simp [resolveUnique, resolveAll, Unique.asDeclared, resolveLocal_asDeclared, Function.comp_def]

theorem resolveStruct_asDeclared (id : StructId) (s : Struct) :
    (resolveStruct names m id s).1.asDeclared = s.asDeclared := by
  simp [resolveStruct, resolveAll, Struct.asDeclared, resolveSearch_asDeclared,
    resolveUpdate_asDeclared, resolveUnique_asDeclared, Function.comp_def]

theorem resolveQueries_asDeclared : (resolveQueries names m).asDeclared = m.asDeclared := by
  simp only [resolveQueries, Model.asDeclared]
  rw [map_mapIdx_of_eq]
  exact fun i s => resolveStruct_asDeclared names m ⟨i⟩ s

theorem resolve_asDeclared : (resolve names m).1.asDeclared = m.asDeclared := by
  simp only [resolve, resolveQueries_asDeclared, resolveStructFields_asDeclared,
    resolveForeignKeys_asDeclared, resolveValueTypes_asDeclared, resolveRowids_asDeclared,
    numberEnums_asDeclared]

/-! ### roles -/

theorem bindParents_asDeclared : (bindParents names m).asDeclared = m.asDeclared := by
  simp only [bindParents, Model.asDeclared]
  rw [map_map_of_eq]
  intro r
  unfold Role.attach
  split
  · rfl
  · split
    · rfl
    · rename_i parent hp
      split <;> simp [Role.asDeclared, hp]

theorem breakParentCycles_asDeclared : (breakParentCycles m).asDeclared = m.asDeclared := by
  simp only [breakParentCycles, Model.asDeclared]
  rw [map_mapIdx_of_eq]
  exact fun _ _ => rfl

theorem rebuildChildren_asDeclared : (rebuildChildren m).asDeclared = m.asDeclared := by
  simp only [rebuildChildren, Model.asDeclared]
  rw [map_mapIdx_of_eq]
  exact fun _ _ => rfl

theorem bindGrant_asDeclared (r : NameRef RoleId) :
    (bindGrant names r).asDeclared = r.asDeclared := by
  unfold bindGrant
  split <;> rfl

theorem roleMapBind_asDeclared (g : RoleMap) : (g.bind names).asDeclared = g.asDeclared := by
  simp [RoleMap.bind, RoleMap.asDeclared, bindGrant_asDeclared]

theorem bindRoleMaps_asDeclared : (bindRoleMaps names m).asDeclared = m.asDeclared := by
  simp only [bindRoleMaps, Model.asDeclared]
  rw [map_map_of_eq]
  intro s
  simp [Struct.bindRoles, Struct.asDeclared, Search.asDeclared, Update.asDeclared,
    Insert.asDeclared, Function.comp_def, roleMapBind_asDeclared]
  rfl

theorem linkRoles_asDeclared : (linkRoles names m).1.asDeclared = m.asDeclared := by
  simp only [linkRoles, bindRoleMaps_asDeclared, rebuildChildren_asDeclared,
    breakParentCycles_asDeclared, bindParents_asDeclared]

end Resolve

/-! ### joins, heights and marks -/

theorem setJoins_asDeclared (joins : List (List Join)) (m : Model) :
    (setJoins joins m).asDeclared = m.asDeclared := by
  simp only [setJoins, Model.asDeclared]
  rw [map_mapIdx_of_eq]
  intro i s
  split <;> rfl

theorem bindJoins_asDeclared (s : Struct) : s.bindJoins.asDeclared = s.asDeclared := by
  simp [Struct.bindJoins, Struct.asDeclared, Search.asDeclared, FieldPath.bindJoin,
    FieldPath.asDeclared, Function.comp_def]
  exact fun _ _ => rfl

theorem assignJoins_asDeclared (m : Model) : (assignJoins m).1.asDeclared = m.asDeclared := by
  have h := setJoins_asDeclared (joinsFrom m 0 m.structIds).1 m
  simp only [assignJoins, Model.asDeclared] at h ⊢
  rw [map_map_of_eq bindJoins_asDeclared]
  exact h

theorem setHeights_asDeclared (t : Topology) (m : Model) :
    (setHeights t m).asDeclared = m.asDeclared := by
  simp only [setHeights, Model.asDeclared]
  rw [map_mapIdx_of_eq]
  exact fun _ _ => rfl

theorem markUniqueSearches_asDeclared (m : Model) :
    (markUniqueSearches m).asDeclared = m.asDeclared := by
  simp only [markUniqueSearches, Model.asDeclared]
  rw [map_map_of_eq]
  intro s
  simp [Struct.asDeclared, Search.asDeclared]

theorem setFlags_asDeclared (m : Model) (id : StructId) :
    (setFlags m id).asDeclared = m.asDeclared := by
  unfold setFlags
  split
  · rfl
  · simp only [Model.modifyStruct, Model.asDeclared]
    rw [map_modify_of_eq]
    exact fun _ => rfl

theorem computeFlags_asDeclared (order : List StructId) (m : Model) :
    (computeFlags order m).asDeclared = m.asDeclared := by
  unfold computeFlags
  induction order generalizing m with
  | nil => rfl
  | cons id rest ih => rw [List.foldl_cons, ih, setFlags_asDeclared]

/-! ### names -/

namespace Model

variable {m m' : Model}

theorem struct?_asDeclared (m : Model) (id : StructId) :
    m.asDeclared.struct? id = (m.struct? id).map Struct.asDeclared := by
  simp [struct?, asDeclared]

theorem field?_asDeclared (m : Model) (id : FieldId) :
    m.asDeclared.field? id = (m.field? id).map Field.asDeclared := by
  simp [field?, asDeclared]

theorem fieldsOf_asDeclared (m : Model) (s : StructId) :
    m.asDeclared.fieldsOf s = (m.fieldsOf s).map fun e => (e.1, e.2.asDeclared) := by
  simp only [fieldsOf, struct?_asDeclared]
  cases m.struct? s with
  | none => rfl
  | some st =>
    simp only [Option.map_some, Struct.asDeclared, List.map_filterMap, field?_asDeclared]
    congr
    funext f
    cases m.field? f <;> rfl

end Model

/-- Names stand for the same parts in two models that were declared alike. -/
theorem Namespace.ofModel_asDeclared (m : Model) : ofModel m.asDeclared = ofModel m := by
  have hs : m.asDeclared.findStruct? = m.findStruct? := by
    funext n
    simp [Model.findStruct?, Model.asDeclared, Struct.asDeclared, Function.comp_def]
  have hf : m.asDeclared.findField? = m.findField? := by
    funext p n
    simp [Model.findField?, Model.fieldsOf_asDeclared, List.find?_map, Field.asDeclared,
      Function.comp_def]
  have hr : m.asDeclared.findRole? = m.findRole? := by
    funext n
    simp [Model.findRole?, Model.asDeclared, Role.asDeclared, Function.comp_def]
  have he : m.asDeclared.enums = m.enums.map Enumeration.asDeclared := rfl
  have hb : m.asDeclared.bitfields = m.bitfields := rfl
  simp [ofModel_eq_scan, scan, hs, hf, hr, he, hb, Model.fieldsOf_asDeclared, List.findIdx?_map,
    Field.asDeclared, Enumeration.asDeclared, Function.comp_def]

theorem Namespace.ofModel_congr {m m' : Model} (h : m'.asDeclared = m.asDeclared) :
    ofModel m' = ofModel m := by
  rw [← ofModel_asDeclared, h, ofModel_asDeclared]

theorem Model.namesDistinct_asDeclared {m : Model} :
    m.asDeclared.NamesDistinct ↔ m.NamesDistinct := by
  have hnames := Namespace.ofModel_asDeclared m
  constructor
  · rintro ⟨hs, hf, he, hb, hr⟩
    rw [hnames] at hs he hb hr
    refine ⟨fun {id s} h => ?_, fun sid => ?_, fun {i e} h => ?_, hb, fun {id r} h => ?_⟩
    · exact @hs id s.asDeclared (by rw [struct?_asDeclared, h]; rfl)
    · have hlisted := hf sid
      rwa [fieldsOf_asDeclared, List.pairwise_map] at hlisted
    · exact @he i e.asDeclared (by simp [asDeclared, h])
    · exact @hr id r.asDeclared (by simpa [asDeclared, role?] using ⟨r, h, rfl⟩)
  · rintro ⟨hs, hf, he, hb, hr⟩
    rw [← hnames] at hs he hb hr
    refine ⟨?_, fun sid => ?_, ?_, hb, ?_⟩
    · intro id s h
      rw [struct?_asDeclared, Option.map_eq_some_iff] at h
      obtain ⟨s, h, rfl⟩ := h
      exact @hs id s h
    · rw [fieldsOf_asDeclared, List.pairwise_map]
      exact hf sid
    · intro i e h
      simp only [asDeclared, Array.getElem?_map, Option.map_eq_some_iff] at h
      obtain ⟨e, h, rfl⟩ := h
      exact @he i e h
    · intro id r h
      simp only [asDeclared, role?, Array.getElem?_map, Option.map_eq_some_iff] at h
      obtain ⟨r, h, rfl⟩ := h
      exact @hr id r h

/-- Models that were declared alike repeat names alike. -/
theorem Model.NamesDistinct.congr {m m' : Model} (heq : m'.asDeclared = m.asDeclared)
    (h : m.NamesDistinct) : m'.NamesDistinct :=
  namesDistinct_asDeclared.1 (heq ▸ namesDistinct_asDeclared.2 h)

end ModelLinker
