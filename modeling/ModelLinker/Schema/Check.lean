import ModelLinker.Json.Writer
import ModelLinker.Schema.Source

/-!
Checking a document against a schema. Every violation is reported, those inside a member before
those of the object around it, and each with the path of the value that is at fault. Of a value
that fits no alternative only that is reported.
-/

namespace ModelLinker.Schema

/-- What is wrong with a value. -/
inductive Fault where
  | wrongKind (value : Json) (kinds : List Kind)
  | notAmong (value : Json) (words : List String)
  | belowZero (value : Json)
  | noAlternative (value : Json) (combination : Combination)
  | unexpected (names : List String)
  | missing (name : String)

/-- A fault and the members and items that lead to it. -/
structure Violation where
  path : List String
  fault : Fault

/-- All kinds in the order in which messages list them. -/
def Kind.all : List Kind := [.array, .boolean, .integer, .null, .number, .object, .string]

def Fault.message : Fault → String
  | .wrongKind value kinds =>
    let names := (Kind.all.filter (kinds.contains ·)).map fun k => "\"" ++ k.name ++ "\""
    value.compact ++ " is not of " ++ (if names.length = 1 then "type " else "types ") ++
      String.intercalate ", " names
  | .notAmong value words =>
    value.compact ++ " is not one of [" ++ String.intercalate "," (words.map Json.quote) ++ "]"
  | .belowZero value => value.compact ++ " is less than the minimum of 0.0"
  | .noAlternative value c =>
    value.compact ++ " is not valid under any of the schemas listed in the '" ++ c.keyword ++
      "' keyword"
  | .unexpected names =>
    "Additional properties are not allowed (" ++
      String.intercalate ", " (names.map fun n => "'" ++ n ++ "'") ++
      (if names.length = 1 then " was" else " were") ++ " unexpected)"
  | .missing name => "\"" ++ name ++ "\" is a required property"

/-- A name within a pointer: the tilde and the slash are written with a tilde. -/
def escapePointer (name : String) : String :=
  String.ofList <| name.toList.flatMap fun c =>
    if c = '~' then ['~', '0'] else if c = '/' then ['~', '1'] else [c]

/-- The pointer to a value; the whole document has a single slash. -/
def pointer (path : List String) : String :=
  if path.isEmpty then "/" else String.join (path.map fun s => "/" ++ escapePointer s)

def Violation.message (v : Violation) : String :=
  pointer v.path ++ ": " ++ v.fault.message

/-! ### simple values -/

def isBelowZero : Json → Bool
  | .int n => n < 0
  | .real x => x.isBelowZero
  | _ => false

def isAmong (words : List String) : Json → Bool
  | .str s => words.contains s
  | _ => false

/-- The value is of one of some kinds. -/
def checkKind (kinds : List Kind) (j : Json) : List Fault :=
  if kinds.any (·.holds j) then [] else [.wrongKind j kinds]

/-- The faults of a simple value. -/
def Scalar.check (s : Scalar) (j : Json) : List Fault :=
  (match s.words with
    | some words => if isAmong words j then [] else [.notAmong j words]
    | none => []) ++
  (if s.fromZero && isBelowZero j then [.belowZero j] else []) ++
  checkKind s.kinds j

/-- The faults of a value that has alternatives. -/
def checkChoice (c : Combination) (alternatives : List (Option String × Scalar)) (j : Json) :
    List Fault :=
  let holding := alternatives.countP fun a => (a.2.check j).isEmpty
  let fits := match c with
    | .anyOf => holding != 0
    | .oneOf => holding == 1
  if fits then [] else [.noAlternative j c]

/-! ### whole documents -/

/-- What a place requires of a value that is not null where null is allowed. -/
inductive Target where
  | body (b : Body)
  | list (kinds : List Kind) (item : Place)

/-- The requirement of a place. -/
def Place.target : Place → Target
  | .scalar s => .body (.scalar s)
  | .listOf item => .list [.array] item
  | .listOrNull item => .list [.array, .null] item
  | .ref name => .body name.definition.body
  | .refOrNull name => .body name.definition.body
  | .refWithDefault name => .body name.definition.body

/-- The place takes null instead of a defined value. -/
def Place.isNullable : Place → Bool
  | .refOrNull _ => true
  | _ => false

def atPath (path : List String) (faults : List Fault) : List Violation :=
  faults.map fun f => ⟨path, f⟩

/-- A place that takes null instead of a defined value reports only that neither fits. -/
def orNull (nullable : Bool) (path : List String) (j : Json) (inner : List Violation) :
    List Violation :=
  if !nullable then inner
  else match j with
    | .null => []
    | j => if inner.isEmpty then [] else [⟨path, .noAlternative j .anyOf⟩]

/-- The members that an object has besides the listed ones. -/
def unexpectedNames (properties : List Property) (entries : List (String × Json)) : List String :=
  (entries.map (·.1)).filter fun n => !properties.any (·.name == n)

/-- The faults of an object itself, after those of its members. -/
def checkNames (required : List String) (properties : List Property)
    (entries : List (String × Json)) : List Fault :=
  let others := unexpectedNames properties entries
  (if others.isEmpty then [] else [.unexpected others]) ++
  (required.filter fun n => !entries.any (·.1 == n)).map .missing

/-- The faults of a value that is neither a list nor an object. -/
def Target.checkLeaf (t : Target) (j : Json) : List Fault :=
  match t with
  | .list kinds _ => checkKind kinds j
  | .body (.scalar s) => s.check j
  | .body (.object _ _) => checkKind [.object] j
  | .body (.choice c alternatives) => checkChoice c alternatives j

mutual

/-- The violations of a value by a requirement. -/
def checkTarget (path : List String) (t : Target) : Json → List Violation
  | .arr items => match t with
    | .list _ item => checkItems path item 0 items
    | t => atPath path (t.checkLeaf (.arr items))
  | .obj entries => match t with
    | .body (.object required properties) =>
      checkMembers path properties entries ++ atPath path (checkNames required properties entries)
    | t => atPath path (t.checkLeaf (.obj entries))
  | j => atPath path (t.checkLeaf j)

/-- The violations of the items of a list, from a position on. -/
def checkItems (path : List String) (item : Place) (index : Nat) :
    List Json → List Violation
  | [] => []
  | x :: xs =>
    let here := path ++ [toString index]
    orNull item.isNullable here x (checkTarget here item.target x) ++
      checkItems path item (index + 1) xs

/-- The violations of the members that an object is known to have. -/
def checkMembers (path : List String) (properties : List Property) :
    List (String × Json) → List Violation
  | [] => []
  | (name, x) :: rest =>
    (match properties.find? (·.name == name) with
      | some p =>
        let here := path ++ [name]
        orNull p.place.isNullable here x (checkTarget here p.place.target x)
      | none => []) ++
    checkMembers path properties rest

end

def check (j : Json) : List Violation :=
  checkTarget [] (.body sourceBody) j

end ModelLinker.Schema
