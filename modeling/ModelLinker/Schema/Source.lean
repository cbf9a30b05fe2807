import ModelLinker.Keyword
import ModelLinker.Schema.Basic

/-!
The schema of source documents.
-/

namespace ModelLinker.Schema

/-- A value of one kind. -/
def Scalar.ofKind (k : Kind) : Scalar := ⟨[k], none, none, false⟩

/-- A word of a vocabulary. -/
def Scalar.word (words : List String) : Scalar := ⟨[.string], some words, none, false⟩

def Place.text : Place := .scalar (.ofKind .string)

def Place.textOrNull : Place := .scalar ⟨[.string, .null], none, none, false⟩

/-- A truth value. -/
def Place.truth : Place := .scalar (.ofKind .boolean)

def Place.natural (format : String) : Place := .scalar ⟨[.integer], none, some format, true⟩

/-- A natural number of 64 bits or null. -/
def Place.naturalOrNull : Place := .scalar ⟨[.integer, .null], none, some "uint64", true⟩

def Property.plain (name : String) (place : Place) : Property := ⟨name, none, none, place⟩

def Property.withDefault (name : String) (value : Json) (place : Place) : Property :=
  ⟨name, none, some value, place⟩

def Place.texts : Place := .listOf .text

def atProperty : Property := .plain "at" (.refOrNull .location)

def docProperty : Property := .plain "doc" .textOrNull

def nameProperty : Property := .plain "name" .textOrNull

def rolesProperty : Property := .plain "roles" (.listOrNull .text)

/-- A list of declarations that may be left out. -/
def declarations (name : String) (of : Name) : Property :=
  .withDefault name (.arr []) (.listOf (.ref of))

/-- A truth value that is false when left out. -/
def flag (name : String) : Property := .withDefault name (.bool false) .truth

def wordWithDefault (name word : String) (of : Name) : Property :=
  .withDefault name (.str word) (.refWithDefault of)

/-- A definition without a description. -/
def Definition.plain (body : Body) : Definition := ⟨none, body⟩

/-- A vocabulary as a definition. -/
def Definition.words (description : Option String) (words : List String) : Definition :=
  ⟨description, .scalar (.word words)⟩

def Name.definition : Name → Definition
  | .action => .words (some "Foreign key update/delete action.") (Keyword.words Action)
  | .aggregate => .plain <| .object ["field", "op"]
      [atProperty, .plain "field" .text, .plain "op" (.ref .aggregateOp)]
  | .aggregateOp => .words none (Keyword.words AggregateOp)
  | .bitItem => .plain <| .object ["name", "value"]
      [atProperty, docProperty, .plain "name" .text,
        .plain "value" (.scalar ⟨[.integer], none, some "int64", false⟩)]
  | .bitfield => .plain <| .object ["items", "name"]
      [atProperty, docProperty, .plain "items" (.listOf (.ref .bitItem)), .plain "name" .text]
  | .delete => .plain <| .object []
      [atProperty, declarations "constraints" .predicate, docProperty, nameProperty,
        rolesProperty]
  | .enumeration => .plain <| .object ["items", "name"]
      [atProperty, docProperty, .plain "items" (.listOf (.ref .enumItem)), .plain "name" .text]
  | .enumItem => .plain <| .object ["name"]
      [atProperty, docProperty, .plain "name" .text,
        ⟨"value", some "Omitted values are numbered automatically.", none,
          .scalar ⟨[.integer, .null], none, some "int64", false⟩⟩]
  | .field => .plain <| .object ["name", "type"]
      [atProperty, .plain "default" (.refOrNull .literal), docProperty, .plain "name" .text,
        flag "noexport", flag "null",
        ⟨"of", some "Enumeration or bitfield name, or the local foreign-key field of a struct.",
          none, .textOrNull⟩,
        .plain "references" (.refOrNull .reference), flag "rowid", .plain "type" (.ref .typeName),
        flag "unique", declarations "validate" .validation]
  | .insert => .plain <| .object [] [atProperty, rolesProperty]
  | .literal => ⟨some "Literal used for defaults and validation bounds.", .choice .anyOf
      [(none, ⟨[.integer], none, some "int64", false⟩),
        (none, ⟨[.number], none, some "double", false⟩), (none, .ofKind .string)]⟩
  | .location => ⟨some "Line/column of a declaration in the original text, when known.",
      .object ["column", "line"]
        [.plain "column" (.natural "uint"), .plain "line" (.natural "uint")]⟩
  | .modifier => .plain <| .object ["field"]
      [atProperty, .plain "field" .text, wordWithDefault "modifier" "set" .modifierKind]
  | .modifierKind => .words none (Keyword.words ModifierKind)
  | .operator => .words (some "SQL operator applied to a search or constraint field.")
      (Keyword.words Operator)
  | .order => .plain <| .object ["field"]
      [atProperty, wordWithDefault "direction" "asc" .orderDirection, .plain "field" .text]
  | .orderDirection => .words none (Keyword.words OrderDirection)
  | .predicate => .plain <| .object ["field"]
      [atProperty, .plain "field" .text, wordWithDefault "op" "eq" .operator]
  | .reference => ⟨some "Foreign key written as `\"target\": \"struct.field\"`.",
      .object ["target"]
        [wordWithDefault "on_delete" "none" .action, wordWithDefault "on_update" "none" .action,
          .plain "target" .text]⟩
  | .role => ⟨some ("A role, optionally with nested sub-roles.\n\n`parent` attaches a top-level " ++
        "role beneath a role declared elsewhere, possibly in another document."),
      .object ["name"]
        [atProperty, docProperty, .plain "name" .text, .plain "parent" .textOrNull,
          declarations "roles" .role]⟩
  | .search => .plain <| .object ["kind"]
      [.plain "aggregate" (.refOrNull .aggregate), atProperty,
        ⟨"distinct", some "Dotted struct path; the empty string projects the searched struct.",
          none, .textOrNull⟩,
        docProperty, .plain "group" .textOrNull, .plain "kind" (.ref .searchKind),
        .plain "limit" .naturalOrNull, nameProperty, .plain "offset" .naturalOrNull,
        declarations "order" .order, declarations "params" .predicate, rolesProperty]
  | .searchKind => ⟨some "Result shape of a search.", .choice .oneOf
      [(none, .word ["list", "count", "iterate"]),
        (some "Exactly one row or nothing.", .word ["search"])]⟩
  | .struct => .plain <| .object ["name"]
      [atProperty, declarations "deletes" .delete, docProperty, declarations "fields" .field,
        .plain "insert" (.refOrNull .insert), .plain "name" .text,
        declarations "searches" .search, declarations "uniques" .unique,
        declarations "updates" .update]
  | .typeName =>
      .words (some "Field type keyword; `enum`, `bitfield` and `struct` take an `of` argument.")
        (Keyword.words TypeName)
  | .unique => .plain <| .object ["fields"] [atProperty, .plain "fields" .texts]
  | .update => .plain <| .object []
      [⟨"all", some "Modify every native field.", some (.bool false), .truth⟩, atProperty,
        declarations "constraints" .predicate, docProperty, declarations "fields" .modifier,
        nameProperty, rolesProperty]
  | .validation => .plain <| .object ["op", "value"]
      [.plain "op" (.ref .validationOp), .plain "value" (.ref .literal)]
  | .validationOp => .words (some "Comparator used by a validation rule.")
      (Keyword.words ValidationOp)

/-- The names of the definitions in the order in which the schema lists them. -/
def Name.all : List Name :=
  [.action, .aggregate, .aggregateOp, .bitItem, .bitfield, .delete, .enumeration, .enumItem,
    .field, .insert, .literal, .location, .modifier, .modifierKind, .operator, .order,
    .orderDirection, .predicate, .reference, .role, .search, .searchKind, .struct, .typeName,
    .unique, .update, .validation, .validationOp]

/-- A source document as a whole. -/
def sourceBody : Body :=
  .object []
    [declarations "bitfields" .bitfield, declarations "enums" .enumeration,
      declarations "roles" .role, declarations "structs" .struct]

end ModelLinker.Schema
