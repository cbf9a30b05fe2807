import ModelLinker.Diagnostic.Basic
import ModelLinker.Model.Lookup

/-!
Uniqueness constraints that say the same. Two constraints of a structure clash if they list the
same number of fields and cover the same set; each such pair is reported once, at the earlier one.
-/

namespace ModelLinker

/-- The fields of a constraint, once all of them are bound. -/
def Unique.boundFields? (u : Unique) : Option (List FieldId) :=
  u.fields.mapM NameRef.target

/-- Two lists hold the same fields, in any order. -/
def sameFields (a b : List FieldId) : Bool :=
  a.all b.contains && b.all a.contains

/-- Two constraints list as many fields and cover the same set of them. -/
def Unique.clashes (u v : Unique) : Bool :=
  u.fields.length == v.fields.length &&
    match u.boundFields?, v.boundFields? with
    | some a, some b => sameFields a b
    | _, _ => false

/-- Each constraint with every later one that it clashes with. -/
def clashProblems : List Unique → Diagnostics
  | [] => []
  | u :: rest =>
    (rest.filter u.clashes).map (fun v => (Cause.duplicateUnique v.pos).at u.pos) ++
      clashProblems rest

/-- The clashing constraints of all structures. -/
def uniqueProblems (m : Model) : Diagnostics :=
  m.structs.toList.flatMap fun s => clashProblems s.uniques

end ModelLinker
