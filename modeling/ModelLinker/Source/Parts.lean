import ModelLinker.Diagnostic.Basic
import ModelLinker.Model.Build
import ModelLinker.Text.Dotted

/-!
From declarations to parts of the model. Cross references stay names, with the position of the
declaration they stand in. A part that cannot be made is left out, and a diagnostic says why.
-/

namespace ModelLinker.Source

open Text (trim parsePath? parseTarget?)

/-- A part or the reason why there is none. -/
abbrev Made (α : Type) := Except Diagnostic α

/-- The parts that could be made. -/
def made {α : Type} (xs : List (Made α)) : List α :=
  xs.filterMap fun
    | .ok a => some a
    | .error _ => none

/-- The reasons why some parts could not be made. -/
def refused {α : Type} (xs : List (Made α)) : Diagnostics :=
  xs.filterMap fun
    | .ok _ => none
    | .error d => some d

/-- A problem at a position. -/
def problemAt (p : SourceProblem) (pos : Pos) : Diagnostic := (Cause.source p).at pos

/-- The position of a declaration in a file. -/
def posIn (file : String) : Option Decl.Location → Pos
  | some l => ⟨file, l.line, l.column⟩
  | none => .ofFile file

/-- The position of a part that may have one of its own. -/
def posOr (file : String) (outer : Pos) : Option Decl.Location → Pos
  | some l => ⟨file, l.line, l.column⟩
  | none => outer

/-- A name at a position. -/
def refAt {α : Type} (pos : Pos) (name : String) : NameRef α := .unbound name pos

/-! ### enumerations, bit fields and roles -/

/-- An enumeration. Items without a value have zero until they are numbered. -/
def enumeration (file : String) (d : Decl.Enumeration) : Enumeration where
  name := d.name
  pos := posIn file d.place
  doc := d.doc
  items := d.items.map fun i =>
    { name := i.name, pos := posIn file i.place, doc := i.doc, declared := i.value,
      value := i.value.getD 0 }

/-- A bit field. -/
def bitfield (file : String) (d : Decl.Bitfield) : Bitfield where
  name := d.name
  pos := posIn file d.place
  doc := d.doc
  items := d.items.map fun i =>
    { name := i.name, pos := posIn file i.place, doc := i.doc, value := i.value }

/-- The parent of a role: the role it is nested in, or else the one it names. -/
def parentName (outer : Option String) (parent : Option String) : Option String :=
  outer.or parent

/-- A nested role must not name a parent as well. -/
def parentProblems (outer parent : Option String) (pos : Pos) : Diagnostics :=
  if outer.isSome && parent.isSome then [problemAt .parentOfNestedRole pos] else []

mutual

/-- A role, with the roles nested in it after it. -/
def role (file : String) (outer : Option String) : Decl.Role → List Role × Diagnostics
  | ⟨name, parent, nested, place, doc⟩ =>
    let pos := posIn file place
    let self := Role.declared name pos ((parentName outer parent).map (refAt pos)) doc
    let (inner, problems) := roles file (some name) nested
    (self :: inner, parentProblems outer parent pos ++ problems)

/-- Some roles, each with the roles nested in it after it. -/
def roles (file : String) (outer : Option String) : List Decl.Role → List Role × Diagnostics
  | [] => ([], [])
  | d :: ds =>
    let (first, problems) := role file outer d
    let (rest, more) := roles file outer ds
    (first ++ rest, problems ++ more)

end

/-! ### fields -/

/-- The argument of a type; a blank one is none. -/
def typeArgument (argument : Option String) : Option String :=
  (argument.map trim).filter fun s => !s.isEmpty

/-- The type of a field, unless it lacks its argument. -/
def fieldType (d : Decl.Field) (pos : Pos) : Made FieldType :=
  match d.type, typeArgument d.argument with
  | .plain t, _ => .ok (.plain t)
  | .enum, some a => .ok (.enum (refAt pos a))
  | .bitfield, some a => .ok (.bitfield (refAt pos a))
  | .struct, some a => .ok (.struct (refAt pos a))
  | t, none => .error (problemAt (.argumentMissing t) pos)

/-- A plain type takes no argument, not even a blank one. -/
def argumentProblems (d : Decl.Field) (pos : Pos) : Diagnostics :=
  match d.type, d.argument with
  | .plain t, some _ => [problemAt (.argumentGiven (.plain t)) pos]
  | _, _ => []

/-- A foreign key, if its target can be read. -/
def foreignKey (d : Decl.Reference) (pos : Pos) : Made ForeignKey :=
  match parseTarget? d.target with
  | some (struct, field) =>
    .ok { targetStruct := refAt pos struct, targetField := refAt pos field,
          onUpdate := d.onUpdate, onDelete := d.onDelete, pos }
  | none => .error (problemAt (.malformedTarget d.target) pos)

/-- The foreign key that a field declares. A structure-typed field cannot carry one. -/
def declaredKey (d : Decl.Field) (type : FieldType) (pos : Pos) : Option (Made ForeignKey) :=
  d.references.map fun r =>
    if type.isStruct then .error (problemAt .foreignKeyOnStruct pos) else foreignKey r pos

/-- A field of a structure, unless its type cannot be made, and the problems it has. -/
def field (file : String) (parent : StructId) (d : Decl.Field) : Option Field × Diagnostics :=
  let pos := posIn file d.place
  match fieldType d pos with
  | .error problem => (none, [problem])
  | .ok type =>
    let key := declaredKey d type pos
    let foreign := (made key.toList).head?
    (some
      { name := d.name, pos, doc := d.doc, parent, type
        flags := ⟨d.rowid, d.unique, d.nullable, d.noexport⟩
        default := d.default
        validations := d.validate.map fun v => ⟨v.op, v.value, pos⟩
        foreign
        reference := none
        malformedForeign := foreign.isNone && d.references.isSome },
      argumentProblems d pos ++ refused key.toList)

/-! ### operations -/

/-- A path, if it can be read. -/
def path (dotted : String) (pos : Pos) : Made FieldPath :=
  match parsePath? dotted with
  | some names => .ok { segments := names.map (refAt pos), pos, join := none }
  | none => .error (problemAt (.malformedPath dotted) pos)

/-- The path of a projection, if it can be read. A blank one has no segments. -/
def distinct (dotted : String) (pos : Pos) : Made Distinct :=
  if (trim dotted).isEmpty then .ok { path := [], pos, target := none }
  else (path dotted pos).map fun p => { path := p.segments, pos, target := none }

def roleMap (names : Option (List String)) (pos : Pos) : Option RoleMap :=
  names.map fun ns => { pos, roles := ns.map (refAt pos) }

/-- A condition of a search. -/
def predicate (file : String) (outer : Pos) (d : Decl.Predicate) : Made Predicate :=
  let pos := posOr file outer d.place
  (path d.field pos).map fun p => ⟨p, d.op, pos⟩

/-- An order of a search. -/
def orderTerm (file : String) (outer : Pos) (d : Decl.Order) : Made OrderTerm :=
  let pos := posOr file outer d.place
  (path d.field pos).map fun p => ⟨p, d.direction, pos⟩

/-- The aggregate of a search. -/
def aggregate (file : String) (outer : Pos) (d : Decl.Aggregate) : Made Aggregate :=
  let pos := posOr file outer d.place
  (path d.field pos).map fun p => ⟨d.op, p, pos⟩

/-- A search without the parts whose paths cannot be read, and why they cannot. -/
def search (file : String) (d : Decl.Search) : Search × Diagnostics :=
  let pos := posIn file d.place
  let params := d.params.map (predicate file pos)
  let order := d.order.map (orderTerm file pos)
  let aggr := d.aggregate.toList.map (aggregate file pos)
  let group := d.group.toList.map (path · pos)
  let distinct := d.distinct.toList.map (distinct · pos)
  ({ name := d.name, doc := d.doc, kind := d.kind, pos
     params := made params
     order := made order
     aggregate := (made aggr).head?
     group := (made group).head?
     distinct := (made distinct).head?
     limit := d.limit, offset := d.offset
     roles := roleMap d.roles pos
     unique := false
     droppedParams := (refused params).length },
    refused params ++ refused order ++ refused aggr ++ refused group ++ refused distinct)

/-- A condition of an update. -/
def condition (file : String) (outer : Pos) (d : Decl.Predicate) : Condition :=
  let pos := posOr file outer d.place
  ⟨refAt pos (trim d.field), d.op, pos⟩

/-- A field that an update changes. -/
def modifier (file : String) (outer : Pos) (d : Decl.Modifier) : Modifier :=
  let pos := posOr file outer d.place
  ⟨refAt pos (trim d.field), d.modifier, pos⟩

def update (file : String) (d : Decl.Update) : Update :=
  let pos := posIn file d.place
  { name := d.name, doc := d.doc, kind := .modify, pos
    modifies := d.fields.map (modifier file pos)
    all := d.all
    constraints := d.constraints.map (condition file pos)
    roles := roleMap d.roles pos }

/-- A deletion. -/
def delete (file : String) (d : Decl.Delete) : Update :=
  let pos := posIn file d.place
  { name := d.name, doc := d.doc, kind := .delete, pos
    modifies := []
    all := false
    constraints := d.constraints.map (condition file pos)
    roles := roleMap d.roles pos }

/-- An insertion. -/
def insert (file : String) (d : Decl.Insert) : Insert :=
  let pos := posIn file d.place
  { pos, roles := roleMap d.roles pos }

/-- A uniqueness constraint. -/
def unique (file : String) (d : Decl.Unique) : Unique :=
  let pos := posIn file d.place
  { fields := d.fields.map (refAt pos), pos }

/-- A structure without its fields, and the problems of its searches. -/
def structBody (file : String) (d : Decl.Struct) : Struct × Diagnostics :=
  let searches := d.searches.map (search file)
  ({ Struct.new d.name (posIn file d.place) with
      doc := d.doc
      searches := searches.map (·.1)
      updates := d.updates.map (update file) ++ d.deletes.map (delete file)
      insert := d.insert.map (insert file)
      uniques := d.uniques.map (unique file) },
    searches.flatMap (·.2))

end ModelLinker.Source
