import ModelLinker.Decl.Basic
import ModelLinker.Position

/-!
The model: structures, fields, enumerations, bit fields and roles, each kind in an array of its
own. A part is addressed by its index. A reference between parts starts as a name and is bound
to an index when the model is linked.
-/

namespace ModelLinker

/-- The index of a structure. -/
structure StructId where
  index : Nat
deriving DecidableEq, Repr, Hashable

/-- The index of a field. -/
structure FieldId where
  index : Nat
deriving DecidableEq, Repr, Hashable

/-- The index of an enumeration. -/
structure EnumId where
  index : Nat
deriving DecidableEq, Repr, Hashable

/-- The index of a bit field. -/
structure BitfieldId where
  index : Nat
deriving DecidableEq, Repr, Hashable

/-- The index of a role. -/
structure RoleId where
  index : Nat
deriving DecidableEq, Repr, Hashable

/-- A name that stands for a part of the model, and the part once it is bound. -/
structure NameRef (α : Type) where
  name : String
  pos : Pos
  target : Option α
deriving DecidableEq, Repr

/-- A name that is not bound yet. -/
def NameRef.unbound {α : Type} (name : String) (pos : Pos) : NameRef α := ⟨name, pos, none⟩

/-- The name bound to a part. -/
def NameRef.bind {α : Type} (r : NameRef α) (target : α) : NameRef α :=
  { r with target := some target }

/-! ### fields -/

/-- The type of a field. An enumeration and a bit field are named; a structure is named by the
local field that refers to it. -/
inductive FieldType where
  | plain (t : PlainType)
  | enum (of : NameRef EnumId)
  | bitfield (of : NameRef BitfieldId)
  | struct (of : NameRef FieldId)
deriving DecidableEq, Repr

namespace FieldType

/-- The kind of a type. -/
def name : FieldType → TypeName
  | .plain t => .plain t
  | .enum _ => .enum
  | .bitfield _ => .bitfield
  | .struct _ => .struct

def isStruct : FieldType → Bool
  | .struct _ => true
  | _ => false

/-- The type holds text that patterns can match. -/
def isTextual : FieldType → Bool
  | .plain .text | .plain .email => true
  | _ => false

def isIntegerAlias : FieldType → Bool
  | .plain .int | .plain .epoch | .plain .bit | .enum _ => true
  | _ => false

/-- A field of the first type can be a foreign key to a field of the second. -/
def keyCompatible : FieldType → FieldType → Bool
  | .enum a, .enum b => a.target == b.target
  | .bitfield a, .bitfield b => a.target == b.target
  | .plain a, .plain b => a == b
  | _, _ => false

end FieldType

/-- What a field is marked as. -/
structure FieldFlags where
  rowid : Bool
  unique : Bool
  nullable : Bool
  noexport : Bool
deriving DecidableEq, Repr

/-- No marks. -/
def FieldFlags.none : FieldFlags := ⟨false, false, false, false⟩

/-- A validation rule with its position. -/
structure Validation where
  op : ValidationOp
  value : Literal
  pos : Pos
deriving DecidableEq, Repr

/-- A foreign key as it was declared. -/
structure ForeignKey where
  targetStruct : NameRef StructId
  targetField : NameRef FieldId
  onUpdate : Action
  onDelete : Action
  pos : Pos
deriving DecidableEq, Repr

/-- A foreign key that was found valid: from the field that holds it to the field it refers to. -/
structure Reference where
  source : FieldId
  target : FieldId
  onUpdate : Action
  onDelete : Action
deriving DecidableEq, Repr

/-- A field. A structure-typed one shares the reference of its source field. -/
structure Field where
  name : String
  pos : Pos
  doc : Option String
  parent : StructId
  type : FieldType
  flags : FieldFlags
  default : Option Literal
  validations : List Validation
  foreign : Option ForeignKey
  reference : Option Reference
  /-- A foreign key was declared, but its target could not be read. -/
  malformedForeign : Bool
deriving DecidableEq, Repr

/-- A field of which only name, position, owner and type are given. -/
def Field.new (name : String) (pos : Pos) (parent : StructId) (type : FieldType) : Field :=
  { name, pos, doc := none, parent, type, flags := .none, default := none, validations := [],
    foreign := none, reference := none, malformedForeign := false }

/-- The field alone tells rows apart. -/
def Field.isUniqueKey (f : Field) : Bool := f.flags.rowid || f.flags.unique

/-! ### operations -/

/-- A path of fields. Every segment but the last steps through a structure-typed field. -/
structure FieldPath where
  segments : List (NameRef FieldId)
  pos : Pos
  /-- The join that the path goes through, as an index into the joins of the structure. -/
  join : Option Nat
deriving DecidableEq, Repr

namespace FieldPath

/-- The field at the end of a path, once it is bound. -/
def field (p : FieldPath) : Option FieldId := p.segments.getLast?.bind NameRef.target

/-- The path has no steps. -/
def isLocal (p : FieldPath) : Bool := p.segments.length == 1

/-- The names of some segments with dots between. -/
def dottedNames (segments : List (NameRef FieldId)) : String :=
  String.intercalate "." (segments.map NameRef.name)

/-- The path as it was written, without blanks. -/
def dotted (p : FieldPath) : String := dottedNames p.segments

/-- The steps of a path, if there are any. -/
def joinPath (p : FieldPath) : Option String :=
  match p.segments.dropLast with
  | [] => none
  | joins => some (dottedNames joins)

end FieldPath

/-- A condition of a search. -/
structure Predicate where
  path : FieldPath
  op : Operator
  pos : Pos
deriving DecidableEq, Repr

/-- An order of a search. -/
structure OrderTerm where
  path : FieldPath
  direction : OrderDirection
  pos : Pos
deriving DecidableEq, Repr

/-- The aggregate of a search. -/
structure Aggregate where
  op : AggregateOp
  path : FieldPath
  pos : Pos
deriving DecidableEq, Repr

/-- A projection to the distinct rows of the structure that a path leads to. -/
structure Distinct where
  path : List (NameRef FieldId)
  pos : Pos
  target : Option StructId
deriving DecidableEq, Repr

/-- The roles that may run an operation. -/
structure RoleMap where
  pos : Pos
  roles : List (NameRef RoleId)
deriving DecidableEq, Repr

def RoleMap.resolved (m : RoleMap) : List RoleId := m.roles.filterMap NameRef.target

/-- A search. -/
structure Search where
  name : Option String
  doc : Option String
  kind : SearchKind
  pos : Pos
  params : List Predicate
  order : List OrderTerm
  aggregate : Option Aggregate
  group : Option FieldPath
  distinct : Option Distinct
  limit : Option Nat
  offset : Option Nat
  roles : Option RoleMap
  /-- The conditions match one row at most; set when the model is linked. -/
  unique : Bool
  /-- How many conditions were left out because their paths could not be read. -/
  droppedParams : Nat
deriving DecidableEq, Repr

/-- A search of which only kind and position are given. -/
def Search.new (kind : SearchKind) (pos : Pos) : Search :=
  { name := none, doc := none, kind, pos, params := [], order := [], aggregate := none,
    group := none, distinct := none, limit := none, offset := none, roles := none,
    unique := false, droppedParams := 0 }

/-- A field that an update changes. -/
structure Modifier where
  field : NameRef FieldId
  kind : ModifierKind
  pos : Pos
deriving DecidableEq, Repr

/-- A condition of an update. -/
structure Condition where
  field : NameRef FieldId
  op : Operator
  pos : Pos
deriving DecidableEq, Repr

/-- An update or a deletion. -/
structure Update where
  name : Option String
  doc : Option String
  kind : UpdateKind
  pos : Pos
  modifies : List Modifier
  /-- Every field of the structure itself is changed. -/
  all : Bool
  constraints : List Condition
  roles : Option RoleMap
deriving DecidableEq, Repr

/-- An insertion. -/
structure Insert where
  pos : Pos
  roles : Option RoleMap
deriving DecidableEq, Repr

/-- Fields that are unique together. -/
structure Unique where
  fields : List (NameRef FieldId)
  pos : Pos
deriving DecidableEq, Repr

/-! ### structures, enumerations, bit fields and roles -/

/-- What a structure is marked as when the model is linked. -/
structure StructFlags where
  hasQueue : Bool
  hasIterator : Bool
  hasBlob : Bool
  hasNullrefs : Bool
deriving DecidableEq, Repr

/-- A chain of structure-typed fields and the short name of its join. -/
structure Join where
  path : String
  shortName : String
deriving DecidableEq, Repr

/-- A structure. -/
structure Struct where
  name : String
  pos : Pos
  doc : Option String
  fields : List FieldId
  searches : List Search
  updates : List Update
  insert : Option Insert
  uniques : List Unique
  rowid : Option FieldId
  flags : StructFlags
  height : Nat
  joins : List Join
  referencedBy : List FieldId
deriving DecidableEq, Repr

/-- A structure of which only name and position are given. -/
def Struct.new (name : String) (pos : Pos) : Struct :=
  { name, pos, doc := none, fields := [], searches := [], updates := [], insert := none,
    uniques := [], rowid := none, flags := ⟨false, false, false, false⟩, height := 0, joins := [],
    referencedBy := [] }

/-- An item of an enumeration: the declared value, if there is one, and the one it has. -/
structure EnumItem where
  name : String
  pos : Pos
  doc : Option String
  declared : Option Int
  value : Int
deriving DecidableEq, Repr

/-- An enumeration. -/
structure Enumeration where
  name : String
  pos : Pos
  doc : Option String
  items : List EnumItem
deriving DecidableEq, Repr

/-- A bit of a bit field. -/
structure BitItem where
  name : String
  pos : Pos
  doc : Option String
  value : Int
deriving DecidableEq, Repr

/-- A bit field. -/
structure Bitfield where
  name : String
  pos : Pos
  doc : Option String
  items : List BitItem
deriving DecidableEq, Repr

/-- A role. Without a declared parent it stands under `all`. -/
structure Role where
  name : String
  kind : RoleKind
  pos : Pos
  doc : Option String
  parentName : Option (NameRef RoleId)
  parent : Option RoleId
  children : List RoleId
deriving DecidableEq, Repr

/-- A model. -/
structure Model where
  structs : Array Struct
  fields : Array Field
  enums : Array Enumeration
  bitfields : Array Bitfield
  roles : Array Role

end ModelLinker
