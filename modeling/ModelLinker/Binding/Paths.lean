import ModelLinker.Binding.Keys

/-!
The fields that searches, updates and constraints name. A path is followed from the structure it
belongs to; at the first segment that fails it is left as it is from there on.
-/

namespace ModelLinker

section Walk

variable (names : Namespace) (m : Model)

def Model.step? (id : FieldId) : Option StructId := (m.field? id).bind m.embedded?

def Model.isStructField (id : FieldId) : Bool := (m.field? id).any fun f => f.type.isStruct

/-- The segments of a path bound one after another, and what is wrong with the path. -/
def walkPath (use : PathUse) (dotted : String) (origin : StructId) :
    List (NameRef FieldId) → List (NameRef FieldId) × Diagnostics
  | [] => ([], [])
  | r :: rest =>
    let problem := fun p => (Cause.resolve p).at r.pos
    match names.field? origin r.name with
    | none => (r :: rest, [problem (.unknownPathField use dotted)])
    | some id =>
      if rest.isEmpty then
        ([r.bind id], if m.isStructField id then [problem (.pathToStruct use dotted)] else [])
      else match m.step? id with
        | none => (r.bind id :: rest, [problem (.pathThroughPlainField use dotted)])
        | some next =>
          let (bound, problems) := walkPath use dotted next rest
          (r.bind id :: bound, problems)

/-- A path with its segments bound, and what is wrong with it. -/
def resolvePath (use : PathUse) (origin : StructId) (p : FieldPath) : FieldPath × Diagnostics :=
  let (segments, problems) := walkPath names m use p.dotted origin p.segments
  ({ p with segments }, problems)

/-- The segments of a projection bound one after another, and the structure it leads to or what
is wrong with it. -/
def walkDistinct (origin : StructId) :
    List (NameRef FieldId) → List (NameRef FieldId) × Except Diagnostic StructId
  | [] => ([], .ok origin)
  | r :: rest =>
    let problem := fun p => (Cause.resolve p).at r.pos
    match names.field? origin r.name with
    | none => (r :: rest, .error (problem (.unknownDistinctField r.name)))
    | some id =>
      match m.step? id with
      | none => (r.bind id :: rest, .error (problem (.distinctThroughPlainField r.name)))
      | some next =>
        let (bound, outcome) := walkDistinct next rest
        (r.bind id :: bound, outcome)

/-- A projection with its segments and its target bound, and what is wrong with it. -/
def resolveDistinct (origin : StructId) (d : Distinct) : Distinct × Diagnostics :=
  match walkDistinct names m origin d.path with
  | (path, .ok target) => ({ d with path, target := some target }, [])
  | (path, .error problem) => ({ d with path }, [problem])

/-- A field of the structure itself, and what is wrong with it. -/
def resolveLocal (use : LocalUse) (origin : StructId) (r : NameRef FieldId) :
    NameRef FieldId × Diagnostics :=
  let problem := fun p => (Cause.resolve p).at r.pos
  match names.field? origin r.name with
  | none => (r, [problem (.unknownLocalField use r.name)])
  | some id =>
    if m.isStructField id then (r, [problem (.localStructField use r.name)])
    else (r.bind id, [])

/-! ### operations -/

/-- A list of parts, each resolved, and what is wrong with them. -/
def resolveAll {α : Type} (f : α → α × Diagnostics) (xs : List α) : List α × Diagnostics :=
  (xs.map fun x => (f x).1, xs.flatMap fun x => (f x).2)

/-- A part that may be absent, resolved, and what is wrong with it. -/
def resolveOption {α : Type} (f : α → α × Diagnostics) (x : Option α) : Option α × Diagnostics :=
  (x.map fun x => (f x).1, x.toList.flatMap fun x => (f x).2)

/-- A search with its paths bound, and what is wrong with them. -/
def resolveSearch (origin : StructId) (s : Search) : Search × Diagnostics :=
  let path := fun use => resolvePath names m use origin
  let (params, p₁) := resolveAll (fun (x : Predicate) =>
    let (p, ds) := path .search x.path
    ({ x with path := p }, ds)) s.params
  let (order, p₂) := resolveAll (fun (x : OrderTerm) =>
    let (p, ds) := path .order x.path
    ({ x with path := p }, ds)) s.order
  let (aggregate, p₃) := resolveOption (fun (x : Aggregate) =>
    let (p, ds) := path .aggregate x.path
    ({ x with path := p }, ds)) s.aggregate
  let (group, p₄) := resolveOption (path .group) s.group
  let (distinct, p₅) := resolveOption (resolveDistinct names m origin) s.distinct
  ({ s with params, order, aggregate, group, distinct }, p₁ ++ p₂ ++ p₃ ++ p₄ ++ p₅)

/-- An update that modifies rows has to change some field. -/
def Update.emptyProblems (u : Update) : Diagnostics :=
  if u.kind = .modify ∧ u.modifies = [] ∧ u.all = false then
    [(Cause.resolve .nothingToModify).at u.pos]
  else []

/-- An update with its fields bound, and what is wrong with it. -/
def resolveUpdate (origin : StructId) (u : Update) : Update × Diagnostics :=
  let (modifies, p₁) := resolveAll (fun (x : Modifier) =>
    let (r, ds) := resolveLocal names m .modify origin x.field
    ({ x with field := r }, ds)) u.modifies
  let (constraints, p₂) := resolveAll (fun (x : Condition) =>
    let (r, ds) := resolveLocal names m .constrain origin x.field
    ({ x with field := r }, ds)) u.constraints
  ({ u with modifies, constraints }, u.emptyProblems ++ p₁ ++ p₂)

/-- A uniqueness constraint with its fields bound, and what is wrong with it. -/
def resolveUnique (origin : StructId) (u : Unique) : Unique × Diagnostics :=
  let (fields, ps) := resolveAll (resolveLocal names m .unique origin) u.fields
  ({ u with fields }, ps)

/-- A structure with the fields of its operations and constraints bound, and what is wrong with
them. -/
def resolveStruct (id : StructId) (s : Struct) : Struct × Diagnostics :=
  let (searches, p₁) := resolveAll (resolveSearch names m id) s.searches
  let (updates, p₂) := resolveAll (resolveUpdate names m id) s.updates
  let (uniques, p₃) := resolveAll (resolveUnique names m id) s.uniques
  ({ s with searches, updates, uniques }, p₁ ++ p₂ ++ p₃)

/-- The model with the fields of all operations and constraints bound. -/
def resolveQueries : Model :=
  { m with structs := m.structs.mapIdx fun i s => (resolveStruct names m ⟨i⟩ s).1 }

/-- What is wrong with the fields of operations and constraints. -/
def queryProblems : Diagnostics :=
  m.indexedStructs.flatMap fun (id, s) => (resolveStruct names m id s).2

end Walk

end ModelLinker
