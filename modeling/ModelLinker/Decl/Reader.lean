import ModelLinker.Decl.Basic
import ModelLinker.Decl.Form

/-!
The forms of all declarations and the reading of a source document.
-/

namespace ModelLinker.Decl

open Decimal (Binary64)

/-- A literal: an integer of 64 bits, a number or a text. An integer out of range becomes a
floating-point number. -/
def readLiteral : Reading Literal
  | .int n =>
    if n ≤ greatestSigned then .ok (.integer n)
    else match Binary64.ofInt? n with
      | some x => .ok (.real x)
      | none => .error .noLiteral
  | .real x => .ok (.real x)
  | .str s => .ok (.text s)
  | _ => .error .noLiteral

def locationForm : Form Location where
  kind := "Location"
  blank := ⟨0, 0⟩
  members :=
    [ required "line" (readNatural .size) fun v d => { d with line := v },
      required "column" (readNatural .size) fun v d => { d with column := v } ]

def placeMember {α : Type} (set : Option Location → α → α) : Member α :=
  defaulted "at" (readOption locationForm.read) set

/-- A member for the text that documents a declaration. -/
def docMember {α : Type} (set : Option String → α → α) : Member α :=
  defaulted "doc" (readOption readText) set

def rolesMember {α : Type} (set : Option (List String) → α → α) : Member α :=
  defaulted "roles" (readOption (readList readText)) set

def referenceForm : Form Reference where
  kind := "ReferenceDecl"
  blank := ⟨"", .none, .none⟩
  members :=
    [ required "target" readText fun v d => { d with target := v },
      defaulted "on_update" (readKeyword Action) fun v d => { d with onUpdate := v },
      defaulted "on_delete" (readKeyword Action) fun v d => { d with onDelete := v } ]

def validationForm : Form Validation where
  kind := "ValidationDecl"
  blank := ⟨.eq, .integer 0⟩
  members :=
    [ required "op" (readKeyword ValidationOp) fun v d => { d with op := v },
      required "value" readLiteral fun v d => { d with value := v } ]

def fieldForm : Form Field where
  kind := "FieldDecl"
  blank :=
    { name := "", type := .plain .int, argument := none, references := none, rowid := false,
      unique := false, nullable := false, noexport := false, default := none, validate := [],
      place := none, doc := none }
  members :=
    [ required "name" readText fun v d => { d with name := v },
      required "type" (readKeyword TypeName) fun v d => { d with type := v },
      defaulted "of" (readOption readText) fun v d => { d with argument := v },
      defaulted "references" (readOption referenceForm.read) fun v d => { d with references := v },
      defaulted "rowid" readTruth fun v d => { d with rowid := v },
      defaulted "unique" readTruth fun v d => { d with unique := v },
      defaulted "null" readTruth fun v d => { d with nullable := v },
      defaulted "noexport" readTruth fun v d => { d with noexport := v },
      defaulted "default" (readOption readLiteral) fun v d => { d with default := v },
      defaulted "validate" (readList validationForm.read) fun v d => { d with validate := v },
      placeMember fun v d => { d with place := v },
      docMember fun v d => { d with doc := v } ]

def predicateForm : Form Predicate where
  kind := "PredicateDecl"
  blank := ⟨"", .eq, none⟩
  members :=
    [ required "field" readText fun v d => { d with field := v },
      defaulted "op" (readKeyword Operator) fun v d => { d with op := v },
      placeMember fun v d => { d with place := v } ]

def orderForm : Form Order where
  kind := "OrderDecl"
  blank := ⟨"", .asc, none⟩
  members :=
    [ required "field" readText fun v d => { d with field := v },
      defaulted "direction" (readKeyword OrderDirection) fun v d => { d with direction := v },
      placeMember fun v d => { d with place := v } ]

def aggregateForm : Form Aggregate where
  kind := "AggregateDecl"
  blank := ⟨.max, "", none⟩
  members :=
    [ required "op" (readKeyword AggregateOp) fun v d => { d with op := v },
      required "field" readText fun v d => { d with field := v },
      placeMember fun v d => { d with place := v } ]

def searchForm : Form Search where
  kind := "SearchDecl"
  blank :=
    { kind := .search, name := none, params := [], order := [], distinct := none,
      aggregate := none, group := none, limit := none, offset := none, roles := none,
      place := none, doc := none }
  members :=
    [ required "kind" (readKeyword SearchKind) fun v d => { d with kind := v },
      defaulted "name" (readOption readText) fun v d => { d with name := v },
      defaulted "params" (readList predicateForm.read) fun v d => { d with params := v },
      defaulted "order" (readList orderForm.read) fun v d => { d with order := v },
      defaulted "distinct" (readOption readText) fun v d => { d with distinct := v },
      defaulted "aggregate" (readOption aggregateForm.read) fun v d => { d with aggregate := v },
      defaulted "group" (readOption readText) fun v d => { d with group := v },
      defaulted "limit" (readOption (readNatural .unsigned)) fun v d => { d with limit := v },
      defaulted "offset" (readOption (readNatural .unsigned)) fun v d => { d with offset := v },
      rolesMember fun v d => { d with roles := v },
      placeMember fun v d => { d with place := v },
      docMember fun v d => { d with doc := v } ]

def modifierForm : Form Modifier where
  kind := "ModifierDecl"
  blank := ⟨"", .set, none⟩
  members :=
    [ required "field" readText fun v d => { d with field := v },
      defaulted "modifier" (readKeyword ModifierKind) fun v d => { d with modifier := v },
      placeMember fun v d => { d with place := v } ]

def updateForm : Form Update where
  kind := "UpdateDecl"
  blank := ⟨none, [], false, [], none, none, none⟩
  members :=
    [ defaulted "name" (readOption readText) fun v d => { d with name := v },
      defaulted "fields" (readList modifierForm.read) fun v d => { d with fields := v },
      defaulted "all" readTruth fun v d => { d with all := v },
      defaulted "constraints" (readList predicateForm.read) fun v d => { d with constraints := v },
      rolesMember fun v d => { d with roles := v },
      placeMember fun v d => { d with place := v },
      docMember fun v d => { d with doc := v } ]

def deleteForm : Form Delete where
  kind := "DeleteDecl"
  blank := ⟨none, [], none, none, none⟩
  members :=
    [ defaulted "name" (readOption readText) fun v d => { d with name := v },
      defaulted "constraints" (readList predicateForm.read) fun v d => { d with constraints := v },
      rolesMember fun v d => { d with roles := v },
      placeMember fun v d => { d with place := v },
      docMember fun v d => { d with doc := v } ]

def insertForm : Form Insert where
  kind := "InsertDecl"
  blank := ⟨none, none⟩
  members :=
    [ rolesMember fun v d => { d with roles := v },
      placeMember fun v d => { d with place := v } ]

def uniqueForm : Form Unique where
  kind := "UniqueDecl"
  blank := ⟨[], none⟩
  members :=
    [ required "fields" (readList readText) fun v d => { d with fields := v },
      placeMember fun v d => { d with place := v } ]

def structForm : Form Struct where
  kind := "StructDecl"
  blank := ⟨"", none, none, [], [], [], [], none, []⟩
  members :=
    [ required "name" readText fun v d => { d with name := v },
      placeMember fun v d => { d with place := v },
      docMember fun v d => { d with doc := v },
      defaulted "fields" (readList fieldForm.read) fun v d => { d with fields := v },
      defaulted "searches" (readList searchForm.read) fun v d => { d with searches := v },
      defaulted "updates" (readList updateForm.read) fun v d => { d with updates := v },
      defaulted "deletes" (readList deleteForm.read) fun v d => { d with deletes := v },
      defaulted "insert" (readOption insertForm.read) fun v d => { d with insert := v },
      defaulted "uniques" (readList uniqueForm.read) fun v d => { d with uniques := v } ]

def enumItemForm : Form EnumItem where
  kind := "EnumItemDecl"
  blank := ⟨"", none, none, none⟩
  members :=
    [ required "name" readText fun v d => { d with name := v },
      defaulted "value" (readOption readSigned) fun v d => { d with value := v },
      placeMember fun v d => { d with place := v },
      docMember fun v d => { d with doc := v } ]

def enumerationForm : Form Enumeration where
  kind := "EnumDecl"
  blank := ⟨"", [], none, none⟩
  members :=
    [ required "name" readText fun v d => { d with name := v },
      required "items" (readList enumItemForm.read) fun v d => { d with items := v },
      placeMember fun v d => { d with place := v },
      docMember fun v d => { d with doc := v } ]

def bitItemForm : Form BitItem where
  kind := "BitIndexDecl"
  blank := ⟨"", 0, none, none⟩
  members :=
    [ required "name" readText fun v d => { d with name := v },
      required "value" readSigned fun v d => { d with value := v },
      placeMember fun v d => { d with place := v },
      docMember fun v d => { d with doc := v } ]

def bitfieldForm : Form Bitfield where
  kind := "BitfieldDecl"
  blank := ⟨"", [], none, none⟩
  members :=
    [ required "name" readText fun v d => { d with name := v },
      required "items" (readList bitItemForm.read) fun v d => { d with items := v },
      placeMember fun v d => { d with place := v },
      docMember fun v d => { d with doc := v } ]

/-- The form of a role, given how the roles nested in it are read. -/
def roleForm (nested : Reading Role) : Form Role where
  kind := "RoleDecl"
  blank := ⟨"", none, [], none, none⟩
  members :=
    [ required "name" readText fun v d => { d with name := v },
      defaulted "parent" (readOption readText) fun v d => { d with parent := v },
      defaulted "roles" (readList nested) fun v d => { d with roles := v },
      placeMember fun v d => { d with place := v },
      docMember fun v d => { d with doc := v } ]

/-- A role in a document of bounded depth; there is no role in a document without depth. -/
def readRoleWithin : Nat → Reading Role
  | 0, j => wrongType j (.object "RoleDecl")
  | depth + 1, j => (roleForm (readRoleWithin depth)).read j

/-- A role with the roles nested in it. -/
def readRole : Reading Role := fun j => readRoleWithin j.depth j

def documentForm : Form Document where
  kind := "SourceDocument"
  blank := ⟨[], [], [], []⟩
  members :=
    [ defaulted "structs" (readList structForm.read) fun v d => { d with structs := v },
      defaulted "enums" (readList enumerationForm.read) fun v d => { d with enums := v },
      defaulted "bitfields" (readList bitfieldForm.read) fun v d => { d with bitfields := v },
      defaulted "roles" (readList readRole) fun v d => { d with roles := v } ]

/-- The declarations of a source document. -/
def readDocument : Reading Document := documentForm.read

end ModelLinker.Decl
