import ModelLinker.Diagnostic.Basic
import ModelLinker.Model.Lookup

/-!
Searches: whether one can match more than one row, and whether its operators, its projection and
its grouping fit the types of the fields.
-/

namespace ModelLinker

/-! ### unique searches -/

/-- The local fields that a search compares for equality. -/
def Search.boundFields (x : Search) : List FieldId :=
  (x.params.filter fun p => p.op == .eq && p.path.isLocal).filterMap fun p => p.path.field

/-- All fields of a constraint are among some fields. -/
def Unique.coveredBy (u : Unique) (bound : List FieldId) : Bool :=
  u.fields.all fun r => match r.target with
    | some id => bound.contains id
    | none => false

/-- A search matches one row at most if it binds a field that tells rows apart, or all fields of
a uniqueness constraint. -/
def isUniqueSearch (m : Model) (s : Struct) (x : Search) : Bool :=
  let bound := x.boundFields
  bound.any (fun id => (m.field? id).any Field.isUniqueKey) ||
    s.uniques.any (·.coveredBy bound)

def markUniqueSearches (m : Model) : Model :=
  { m with structs := m.structs.map fun s =>
      { s with searches := s.searches.map fun x =>
          { x with unique := isUniqueSearch m s x } } }

/-! ### conditions -/

/-- The shape of the result does not go with the number of rows. -/
def Search.rowProblems (x : Search) : Diagnostics :=
  let problem := fun p => [(Cause.search p).at x.pos]
  match x.kind with
  | .list | .iterate => if x.unique then problem .manyOnUnique else []
  | .search => if !x.unique && x.limit != some 1 then problem .singleOnNonUnique else []
  | .count => []

def Predicate.problems (x : Search) (p : Predicate) (f : Field) : Diagnostics :=
  let problem := fun q => (Cause.search q).at p.pos
  let password := f.type = .plain .password
  (if p.op.isUnary && !f.flags.nullable then [problem .nullTestOnNonNull] else []) ++
    (if password ∧ !p.op.isUnary ∧ !p.op.isEquality then [problem .passwordOperator] else []) ++
    (if p.op = .like ∧ !f.type.isTextual then [problem .likeOnNonText] else []) ++
    (if x.distinct.isSome ∧ password ∧ !p.op.isUnary then [problem .passwordWithDistinct]
      else [])

/-- What is wrong with the conditions of a search. A search for one row needs a condition, even
one that could not be read. -/
def Search.conditionProblems (m : Model) (x : Search) : Diagnostics :=
  if x.kind = .search ∧ x.params = [] then
    if x.droppedParams = 0 then [(Cause.search .uniqueWithoutParams).at x.pos] else []
  else
    x.rowProblems ++ x.params.flatMap fun p =>
      ((p.path.field.bind m.field?).toList).flatMap (p.problems x)

/-! ### grouping -/

/-- What is wrong with a group and an aggregate, whose fields are bound. -/
def groupedProblems (pos : Pos) (group aggregate : FieldId × Field) : Diagnostics :=
  let problem := fun p => (Cause.search p).at pos
  (if group.2.flags.nullable then [problem .nullableGroup] else []) ++
    (if group.1 = aggregate.1 then [problem .groupIsAggregate]
      else if group.2.parent ≠ aggregate.2.parent then [problem .groupInOtherStruct]
      else [])

def Model.boundField? (m : Model) (p : FieldPath) : Option (FieldId × Field) :=
  p.field.bind fun id => (m.field? id).map fun f => (id, f)

/-- A group needs an aggregate over another field of the same structure, and the other way
round. -/
def Search.groupProblems (m : Model) (x : Search) : Diagnostics :=
  match x.group, x.aggregate with
  | none, none => []
  | some g, none => [(Cause.search .groupWithoutAggregate).at g.pos]
  | none, some a => [(Cause.search .aggregateWithoutGroup).at a.pos]
  | some g, some a =>
    match m.boundField? g, m.boundField? a.path with
    | some group, some aggregate => groupedProblems g.pos group aggregate
    | _, _ => []

/-- What is wrong with the searches of all structures. -/
def searchProblems (m : Model) : Diagnostics :=
  m.structs.toList.flatMap fun s =>
    s.searches.flatMap fun x => x.conditionProblems m ++ x.groupProblems m

end ModelLinker
