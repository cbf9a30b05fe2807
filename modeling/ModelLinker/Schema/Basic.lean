import ModelLinker.Json.Basic

/-!
Schemas of documents. A definition is an object without other members than those listed, or a
choice among simple values; a place in an object refers to a definition or states a simple type
of its own.
-/

namespace ModelLinker.Schema

/-- The kinds of documents, in the order in which messages list them. -/
inductive Kind where
  | array | boolean | integer | null | number | object | string
deriving DecidableEq, Repr

def Kind.name : Kind → String
  | .array => "array"
  | .boolean => "boolean"
  | .integer => "integer"
  | .null => "null"
  | .number => "number"
  | .object => "object"
  | .string => "string"

/-- A document is of a kind. A floating-point number without fraction is an integer too. -/
def Kind.holds : Kind → Json → Bool
  | .array, .arr _ => true
  | .boolean, .bool _ => true
  | .integer, .int _ => true
  | .integer, .real x => x.isIntegral
  | .null, .null => true
  | .number, .int _ => true
  | .number, .real _ => true
  | .object, .obj _ => true
  | .string, .str _ => true
  | _, _ => false

/-- A simple value: its kinds, the words it is limited to, a note on its format, and whether a
number must not lie below zero. -/
structure Scalar where
  kinds : List Kind
  words : Option (List String)
  format : Option String
  fromZero : Bool

/-- A combination of alternatives: at least one holds, or exactly one. -/
inductive Combination where
  | anyOf | oneOf
deriving DecidableEq, Repr

def Combination.keyword : Combination → String
  | .anyOf => "anyOf"
  | .oneOf => "oneOf"

/-- The definitions of the schema of source documents. -/
inductive Name where
  | action | aggregate | aggregateOp | bitItem | bitfield | delete | enumeration | enumItem
  | field | insert | literal | location | modifier | modifierKind | operator | order
  | orderDirection | predicate | reference | role | search | searchKind | struct | typeName
  | unique | update | validation | validationOp
deriving DecidableEq, Repr

/-- The names of the definitions, as the schema spells them. -/
def Name.text : Name → String
  | .action => "Action"
  | .aggregate => "AggregateDecl"
  | .aggregateOp => "AggregateOp"
  | .bitItem => "BitIndexDecl"
  | .bitfield => "BitfieldDecl"
  | .delete => "DeleteDecl"
  | .enumeration => "EnumDecl"
  | .enumItem => "EnumItemDecl"
  | .field => "FieldDecl"
  | .insert => "InsertDecl"
  | .literal => "Literal"
  | .location => "Location"
  | .modifier => "ModifierDecl"
  | .modifierKind => "ModifierKind"
  | .operator => "Operator"
  | .order => "OrderDecl"
  | .orderDirection => "OrderDirection"
  | .predicate => "PredicateDecl"
  | .reference => "ReferenceDecl"
  | .role => "RoleDecl"
  | .search => "SearchDecl"
  | .searchKind => "SearchKind"
  | .struct => "StructDecl"
  | .typeName => "TypeName"
  | .unique => "UniqueDecl"
  | .update => "UpdateDecl"
  | .validation => "ValidationDecl"
  | .validationOp => "ValidationOp"

/-- What may stand in a place: a simple value, a list, a list or null, a defined value, a defined
value or null, or a defined value that has a default. -/
inductive Place where
  | scalar (s : Scalar)
  | listOf (item : Place)
  | listOrNull (item : Place)
  | ref (name : Name)
  | refOrNull (name : Name)
  | refWithDefault (name : Name)

/-- A member of an object. -/
structure Property where
  name : String
  description : Option String
  default : Option Json
  place : Place

/-- The body of a definition. -/
inductive Body where
  | scalar (s : Scalar)
  | object (required : List String) (properties : List Property)
  | choice (combination : Combination) (alternatives : List (Option String × Scalar))

/-- A definition. -/
structure Definition where
  description : Option String
  body : Body

end ModelLinker.Schema
