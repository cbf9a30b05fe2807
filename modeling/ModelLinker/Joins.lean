import ModelLinker.Diagnostic.Basic
import ModelLinker.Model.Lookup

/-!
Joins: every chain of structure-typed fields that starts at a structure has a short name of its
own. The names are counted through the whole model, depth first, and there are names for only so
many joins. The paths of searches are bound to the joins they go through.
-/

namespace ModelLinker

/-! ### short names -/

/-- How many short names there are: those of one, two and three letters. -/
def greatestJoinCount : Nat := 26 * 26 * 26

/-- A digit to the base of 26 as a letter. -/
def letter (n : Nat) : Char := Char.ofNat ('a'.toNat + n % 26)

/-- The short name of a number: its digits to the base of 26, as letters. -/
def shortName? (n : Nat) : Option String :=
  if n < 26 then some (String.ofList ['_', letter n])
  else if n < 26 * 26 then some (String.ofList ['_', letter (n / 26), letter n])
  else if n < greatestJoinCount then
    some (String.ofList ['_', letter (n / (26 * 26)), letter (n / 26), letter n])
  else none

/-! ### the joins of a model -/

def extendPath (before : Option String) (field : String) : String :=
  match before with
  | some p => p ++ "." ++ field
  | none => field

/-- The joins found so far, the last one first, and how many there are in the whole model. -/
abbrev JoinCount := Nat × List Join

/-- The joins of a structure, each before those that go on from it. The error is the position of
the first field that no short name is left for. The number bounds the length of a chain. -/
def collectJoins (m : Model) :
    Nat → Option String → StructId → JoinCount → Except Pos JoinCount
  | 0, _, _, state => .ok state
  | room + 1, before, id, state =>
    (m.embeds id).foldlM (fun (state : JoinCount) (fid, target) =>
      match m.field? fid with
      | none => .ok state
      | some f =>
        match shortName? state.1 with
        | none => .error f.pos
        | some name =>
          let path := extendPath before f.name
          collectJoins m room (some path) target (state.1 + 1, ⟨path, name⟩ :: state.2))
      state

/-- The joins of some structures one after another, how many there are, and the problem if there
are too many. Then the structure at fault and all after it have none. -/
def joinsFrom (m : Model) (count : Nat) : List StructId → List (List Join) × Nat × Diagnostics
  | [] => ([], count, [])
  | id :: rest =>
    match collectJoins m (m.structs.size + 1) none id (count, []) with
    | .error pos => ([], greatestJoinCount, [Cause.tooManyAliases.at pos])
    | .ok (count, joins) =>
      let (others, total, problems) := joinsFrom m count rest
      (joins.reverse :: others, total, problems)

/-- A path bound to the join of a structure that it goes through. -/
def FieldPath.bindJoin (s : Struct) (p : FieldPath) : FieldPath :=
  { p with join := p.joinPath.bind s.joinIndex? }

/-- A structure with the paths of its searches bound to its joins. -/
def Struct.bindJoins (s : Struct) : Struct :=
  { s with searches := s.searches.map fun x =>
      { x with
        params := x.params.map fun y => { y with path := y.path.bindJoin s }
        order := x.order.map fun y => { y with path := y.path.bindJoin s }
        aggregate := x.aggregate.map fun y => { y with path := y.path.bindJoin s }
        group := x.group.map (FieldPath.bindJoin s) } }

/-- The model with the joins of every structure. -/
def setJoins (joins : List (List Join)) (m : Model) : Model :=
  { m with structs := m.structs.mapIdx fun i s =>
      match joins[i]? with
      | some js => { s with joins := js }
      | none => s }

/-- The model with its joins and with the paths of searches bound to them, how many joins there
are, and what is wrong with them. The model must have no structure that embeds itself. -/
def assignJoins (m : Model) : Model × Nat × Diagnostics :=
  let (joins, count, problems) := joinsFrom m 0 m.structIds
  let named := setJoins joins m
  ({ named with structs := named.structs.map Struct.bindJoins }, count, problems)

end ModelLinker
