import ModelLinker.Keyword
import ModelLinker.Decimal.Binary64

/-!
Declarations, as a source document states them: structures with their fields, searches, updates
and constraints, enumerations, bit fields and roles. Cross references are still plain names.
-/

namespace ModelLinker

open Decimal (Binary64)

/-- A literal, for defaults and the bounds of validation rules. -/
inductive Literal where
  | integer (n : Int)
  | real (x : Binary64)
  | text (s : String)
deriving DecidableEq, Repr

namespace Decl

/-- Where a declaration stands in its text. -/
structure Location where
  line : Nat
  column : Nat
deriving DecidableEq, Repr

/-- A foreign key, with its target written `struct.field`. -/
structure Reference where
  target : String
  onUpdate : Action
  onDelete : Action
deriving DecidableEq, Repr

/-- A validation rule: a comparison with a bound. -/
structure Validation where
  op : ValidationOp
  value : Literal
deriving DecidableEq, Repr

/-- A field. The argument of its type names an enumeration, a bit field, or for a structure the
local field with the foreign key. -/
structure Field where
  name : String
  type : TypeName
  argument : Option String
  references : Option Reference
  rowid : Bool
  unique : Bool
  nullable : Bool
  noexport : Bool
  default : Option Literal
  validate : List Validation
  place : Option Location
  doc : Option String
deriving DecidableEq, Repr

/-- A condition on a field, local or reached by a dotted path. -/
structure Predicate where
  field : String
  op : Operator
  place : Option Location
deriving DecidableEq, Repr

/-- A field to order by. -/
structure Order where
  field : String
  direction : OrderDirection
  place : Option Location
deriving DecidableEq, Repr

/-- An aggregate over a field. -/
structure Aggregate where
  op : AggregateOp
  field : String
  place : Option Location
deriving DecidableEq, Repr

/-- A search. The projection to distinct rows is a dotted path; an empty one stands for the
structure that is searched. -/
structure Search where
  kind : SearchKind
  name : Option String
  params : List Predicate
  order : List Order
  distinct : Option String
  aggregate : Option Aggregate
  group : Option String
  limit : Option Nat
  offset : Option Nat
  roles : Option (List String)
  place : Option Location
  doc : Option String
deriving DecidableEq, Repr

/-- A field to modify. -/
structure Modifier where
  field : String
  modifier : ModifierKind
  place : Option Location
deriving DecidableEq, Repr

/-- An update of some fields, or of all. -/
structure Update where
  name : Option String
  fields : List Modifier
  all : Bool
  constraints : List Predicate
  roles : Option (List String)
  place : Option Location
  doc : Option String
deriving DecidableEq, Repr

/-- A deletion. -/
structure Delete where
  name : Option String
  constraints : List Predicate
  roles : Option (List String)
  place : Option Location
  doc : Option String
deriving DecidableEq, Repr

/-- An insertion. -/
structure Insert where
  roles : Option (List String)
  place : Option Location
deriving DecidableEq, Repr

/-- Fields that are unique together. -/
structure Unique where
  fields : List String
  place : Option Location
deriving DecidableEq, Repr

/-- A structure. -/
structure Struct where
  name : String
  place : Option Location
  doc : Option String
  fields : List Field
  searches : List Search
  updates : List Update
  deletes : List Delete
  insert : Option Insert
  uniques : List Unique
deriving DecidableEq, Repr

/-- An item of an enumeration; without a value it is numbered. -/
structure EnumItem where
  name : String
  value : Option Int
  place : Option Location
  doc : Option String
deriving DecidableEq, Repr

/-- An enumeration. -/
structure Enumeration where
  name : String
  items : List EnumItem
  place : Option Location
  doc : Option String
deriving DecidableEq, Repr

/-- A bit of a bit field. -/
structure BitItem where
  name : String
  value : Int
  place : Option Location
  doc : Option String
deriving DecidableEq, Repr

/-- A bit field. -/
structure Bitfield where
  name : String
  items : List BitItem
  place : Option Location
  doc : Option String
deriving DecidableEq, Repr

/-- A role with the roles nested in it. A parent attaches a role beneath one that is declared
elsewhere. -/
structure Role where
  name : String
  parent : Option String
  roles : List Role
  place : Option Location
  doc : Option String

/-- One source document. -/
structure Document where
  structs : List Struct
  enums : List Enumeration
  bitfields : List Bitfield
  roles : List Role

end Decl

end ModelLinker
