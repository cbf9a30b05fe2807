import ModelLinker.Decl.Basic
import ModelLinker.Json.Basic

/-!
Writing declarations as documents. Lists, truth values and words are always written, optional
members only when they are there.
-/

namespace ModelLinker

def Literal.toJson : Literal → Json
  | .integer n => .int n
  | .real x => .real x
  | .text s => .str s

def Keyword.toJson {α : Type} [Keyword α] (a : α) : Json := .str (Keyword.word a)

namespace Decl

/-- A member that is always written. -/
def always (name : String) (value : Json) : List (String × Json) := [(name, value)]

/-- A member that is written only when it is there. -/
def ifThere {α : Type} (name : String) (f : α → Json) : Option α → List (String × Json)
  | none => []
  | some a => [(name, f a)]

def namesJson (names : List String) : Json := .list .str names

def Location.toJson (l : Location) : Json :=
  .obj [("line", .nat l.line), ("column", .nat l.column)]

/-- The members for the place and the documentation of a declaration. -/
def placeAndDoc (place : Option Location) (doc : Option String) : List (String × Json) :=
  ifThere "at" Location.toJson place ++ ifThere "doc" .str doc

def Reference.toJson (d : Reference) : Json :=
  .obj [("target", .str d.target), ("on_update", Keyword.toJson d.onUpdate),
    ("on_delete", Keyword.toJson d.onDelete)]

def Validation.toJson (d : Validation) : Json :=
  .obj [("op", Keyword.toJson d.op), ("value", d.value.toJson)]

def Field.toJson (d : Field) : Json :=
  .obj (always "name" (.str d.name) ++ always "type" (Keyword.toJson d.type) ++
    ifThere "of" .str d.argument ++ ifThere "references" Reference.toJson d.references ++
    always "rowid" (.bool d.rowid) ++ always "unique" (.bool d.unique) ++
    always "null" (.bool d.nullable) ++ always "noexport" (.bool d.noexport) ++
    ifThere "default" Literal.toJson d.default ++
    always "validate" (.list Validation.toJson d.validate) ++ placeAndDoc d.place d.doc)

def Predicate.toJson (d : Predicate) : Json :=
  .obj (always "field" (.str d.field) ++ always "op" (Keyword.toJson d.op) ++
    ifThere "at" Location.toJson d.place)

def Order.toJson (d : Order) : Json :=
  .obj (always "field" (.str d.field) ++ always "direction" (Keyword.toJson d.direction) ++
    ifThere "at" Location.toJson d.place)

def Aggregate.toJson (d : Aggregate) : Json :=
  .obj (always "op" (Keyword.toJson d.op) ++ always "field" (.str d.field) ++
    ifThere "at" Location.toJson d.place)

def Search.toJson (d : Search) : Json :=
  .obj (always "kind" (Keyword.toJson d.kind) ++ ifThere "name" .str d.name ++
    always "params" (.list Predicate.toJson d.params) ++
    always "order" (.list Order.toJson d.order) ++ ifThere "distinct" .str d.distinct ++
    ifThere "aggregate" Aggregate.toJson d.aggregate ++ ifThere "group" .str d.group ++
    ifThere "limit" .nat d.limit ++ ifThere "offset" .nat d.offset ++
    ifThere "roles" namesJson d.roles ++ placeAndDoc d.place d.doc)

def Modifier.toJson (d : Modifier) : Json :=
  .obj (always "field" (.str d.field) ++ always "modifier" (Keyword.toJson d.modifier) ++
    ifThere "at" Location.toJson d.place)

def Update.toJson (d : Update) : Json :=
  .obj (ifThere "name" .str d.name ++ always "fields" (.list Modifier.toJson d.fields) ++
    always "all" (.bool d.all) ++ always "constraints" (.list Predicate.toJson d.constraints) ++
    ifThere "roles" namesJson d.roles ++ placeAndDoc d.place d.doc)

def Delete.toJson (d : Delete) : Json :=
  .obj (ifThere "name" .str d.name ++
    always "constraints" (.list Predicate.toJson d.constraints) ++
    ifThere "roles" namesJson d.roles ++ placeAndDoc d.place d.doc)

def Insert.toJson (d : Insert) : Json :=
  .obj (ifThere "roles" namesJson d.roles ++ ifThere "at" Location.toJson d.place)

def Unique.toJson (d : Unique) : Json :=
  .obj (always "fields" (namesJson d.fields) ++ ifThere "at" Location.toJson d.place)

def Struct.toJson (d : Struct) : Json :=
  .obj (always "name" (.str d.name) ++ placeAndDoc d.place d.doc ++
    always "fields" (.list Field.toJson d.fields) ++
    always "searches" (.list Search.toJson d.searches) ++
    always "updates" (.list Update.toJson d.updates) ++
    always "deletes" (.list Delete.toJson d.deletes) ++
    ifThere "insert" Insert.toJson d.insert ++
    always "uniques" (.list Unique.toJson d.uniques))

def EnumItem.toJson (d : EnumItem) : Json :=
  .obj (always "name" (.str d.name) ++ ifThere "value" .int d.value ++ placeAndDoc d.place d.doc)

def Enumeration.toJson (d : Enumeration) : Json :=
  .obj (always "name" (.str d.name) ++ always "items" (.list EnumItem.toJson d.items) ++
    placeAndDoc d.place d.doc)

def BitItem.toJson (d : BitItem) : Json :=
  .obj (always "name" (.str d.name) ++ always "value" (.int d.value) ++
    placeAndDoc d.place d.doc)

def Bitfield.toJson (d : Bitfield) : Json :=
  .obj (always "name" (.str d.name) ++ always "items" (.list BitItem.toJson d.items) ++
    placeAndDoc d.place d.doc)

mutual

def Role.toJson : Role → Json
  | ⟨name, parent, roles, place, doc⟩ =>
    .obj (always "name" (.str name) ++ ifThere "parent" .str parent ++
      always "roles" (.arr (rolesJson roles)) ++ placeAndDoc place doc)

def rolesJson : List Role → List Json
  | [] => []
  | r :: rs => r.toJson :: rolesJson rs

end

/-- A source document. -/
def Document.toJson (d : Document) : Json :=
  .obj [("structs", .list Struct.toJson d.structs), ("enums", .list Enumeration.toJson d.enums),
    ("bitfields", .list Bitfield.toJson d.bitfields), ("roles", .arr (rolesJson d.roles))]

end Decl

end ModelLinker
