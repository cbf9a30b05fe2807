import ModelLinker.Binding.Values

/-!
Foreign keys and structure-typed fields. A foreign key becomes a reference if its target is found,
is another field, tells rows apart and has a compatible type. A structure-typed field shares the
reference of the local field it names.
-/

namespace ModelLinker

/-! ### foreign keys -/

/-- The structure and the field that a foreign key names. -/
def keyTarget (names : Namespace) (m : Model) (k : ForeignKey) :
    Except ResolveProblem ((StructId × Struct) × (FieldId × Field)) :=
  match (names.struct? k.targetStruct.name).bind fun s => (m.struct? s).map fun x => (s, x) with
  | none => .error (.unknownTargetStruct k.targetStruct.name)
  | some (sid, s) =>
    match (names.field? sid k.targetField.name).bind fun f => (m.field? f).map fun x => (f, x) with
    | none => .error (.unknownTargetField k.targetStruct.name k.targetField.name)
    | some target => .ok ((sid, s), target)

/-- Why a field must not refer to its target. -/
def keyProblem? (id : FieldId) (f : Field) (s : Struct) (target : FieldId × Field) :
    Option ResolveProblem :=
  if target.1 = id then some (.selfReference f.name)
  else if !target.2.isUniqueKey then some (.targetNotUnique s.name target.2.name)
  else if !f.type.keyCompatible target.2.type then
    some (.targetTypeMismatch f.type.name target.2.type.name)
  else none

/-- What a foreign key comes to: its names bound as far as both are known, and the structure and
the reference it stands for, or what is wrong with it. -/
def resolveKey (names : Namespace) (m : Model) (id : FieldId) (f : Field) (k : ForeignKey) :
    ForeignKey × Except ResolveProblem (StructId × Reference) :=
  match keyTarget names m k with
  | .error p => (k, .error p)
  | .ok ((sid, s), target) =>
    let bound := { k with
      targetStruct := k.targetStruct.bind sid
      targetField := k.targetField.bind target.1 }
    (bound,
      match keyProblem? id f s target with
      | some p => .error p
      | none =>
        .ok (sid,
          { source := id, target := target.1, onUpdate := k.onUpdate, onDelete := k.onDelete }))

/-- A field with its foreign key resolved. -/
def Field.resolveForeign (names : Namespace) (m : Model) (id : FieldId) (f : Field) : Field :=
  match f.foreign with
  | none => f
  | some k =>
    let (bound, outcome) := resolveKey names m id f k
    { f with
      foreign := some bound
      reference := match outcome with
        | .ok (_, r) => some r
        | .error _ => f.reference }

def Field.foreignProblems (names : Namespace) (m : Model) (id : FieldId) (f : Field) :
    Diagnostics :=
  match f.foreign with
  | none => []
  | some k => match (resolveKey names m id f k).2 with
    | .error p => [(Cause.resolve p).at k.pos]
    | .ok _ => []

/-- The fields with valid foreign keys, each with the structure it refers to. -/
def validKeys (names : Namespace) (m : Model) : List (StructId × FieldId) :=
  m.fields.toList.zipIdx.filterMap fun (f, i) =>
    f.foreign.bind fun k => match (resolveKey names m ⟨i⟩ f k).2 with
      | .ok (sid, _) => some (sid, ⟨i⟩)
      | .error _ => none

/-- The model with all foreign keys resolved, and in every structure the fields that refer to it
listed after those listed before. -/
def resolveForeignKeys (names : Namespace) (m : Model) : Model :=
  let valid := validKeys names m
  { m with
    fields := m.fields.mapIdx fun i f => f.resolveForeign names m ⟨i⟩
    structs := m.structs.mapIdx fun i s =>
      { s with referencedBy :=
          s.referencedBy ++ (valid.filter fun (sid, _) => sid = ⟨i⟩).map (·.2) } }

/-- What is wrong with the foreign keys of a model. -/
def foreignKeyProblems (names : Namespace) (m : Model) : Diagnostics :=
  m.fields.toList.zipIdx.flatMap fun (f, i) => f.foreignProblems names m ⟨i⟩

/-! ### structure-typed fields -/

/-- The local field and the reference that a structure-typed field goes through. There is none,
and nothing to report, if the foreign key of the local field was found faulty. -/
def structSource (names : Namespace) (m : Model) (f : Field) (r : NameRef FieldId) :
    Except ResolveProblem (Option (FieldId × Reference)) :=
  match (names.field? f.parent r.name).bind fun id => (m.field? id).map fun x => (id, x) with
  | none => .error (.unknownStructSource r.name)
  | some (id, source) =>
    if source.type.isStruct then .error (.structSourceIsStruct source.name)
    else match source.foreign, source.reference with
      | none, _ =>
        if source.malformedForeign then .ok none else .error (.structSourceWithoutKey source.name)
      | some _, none => .ok none
      | some _, some reference => .ok (some (id, reference))

/-- A field, bound to its source if it is structure-typed. -/
def Field.resolveStruct (names : Namespace) (m : Model) (f : Field) : Field :=
  match f.type with
  | .struct r => match structSource names m f r with
    | .ok (some (id, reference)) =>
      { f with type := .struct (r.bind id), reference := some reference }
    | _ => f
  | _ => f

def Field.structProblems (names : Namespace) (m : Model) (f : Field) : Diagnostics :=
  match f.type with
  | .struct r => match structSource names m f r with
    | .error p => [(Cause.resolve p).at r.pos]
    | .ok _ => []
  | _ => []

/-- The model with all structure-typed fields bound. -/
def resolveStructFields (names : Namespace) (m : Model) : Model :=
  { m with fields := m.fields.map fun f => f.resolveStruct names m }

/-- What is wrong with the structure-typed fields of a model. -/
def structFieldProblems (names : Namespace) (m : Model) : Diagnostics :=
  m.fields.toList.flatMap fun f => f.structProblems names m

end ModelLinker
