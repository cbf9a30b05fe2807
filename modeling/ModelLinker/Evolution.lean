import ModelLinker.Linking

/-!
Changes from an old model to a new one, seen from stored data. What stored data cannot follow is
an error, what keeps it as it is a warning. A change of one declaration is reported at the old
position, together with the new one.
-/

namespace ModelLinker

open Text (sameName fold)

/-- A change at one position. -/
def changeAt (c : Change) (pos : Pos) : Diagnostic := (Cause.change c).at pos

def changeFrom (c : Change) (old new : Pos) : Diagnostic := ⟨.change c, some old, some new⟩

/-! ### enumerations -/

def Model.findEnum? (m : Model) (name : String) : Option Enumeration :=
  m.enums.find? fun e => sameName e.name name

def Enumeration.findItem? (e : Enumeration) (name : String) : Option EnumItem :=
  e.items.find? fun i => sameName i.name name

def itemChange (old : Enumeration) (i : EnumItem) : Diagnostics :=
  match old.findItem? i.name with
  | none => [changeAt .newEnumItem i.pos]
  | some before =>
    if before.value ≠ i.value then [changeFrom .enumItemValue before.pos i.pos] else []

/-- The items of the old enumeration that are gone. -/
def lostItems (old new : Enumeration) : Diagnostics :=
  (old.items.filter fun i => (new.findItem? i.name).isNone).map fun i =>
    changeAt .lostEnumItem i.pos

/-- The changes of an enumeration of the new model. -/
def enumerationChanges (old : Model) (e : Enumeration) : Diagnostics :=
  match old.findEnum? e.name with
  | none => [changeAt .newEnumeration e.pos]
  | some before => e.items.flatMap (itemChange before) ++ lostItems before e

/-- The changes of all enumerations. -/
def enumChanges (old new : Model) : Diagnostics :=
  new.enums.toList.flatMap (enumerationChanges old) ++
    (old.enums.toList.filter fun e => (new.findEnum? e.name).isNone).map fun e =>
      changeAt .lostEnumeration e.pos

/-! ### fields -/

/-- A change of type. Integers may become other integers, and texts other texts. -/
def typeChange (before after : FieldType) : Change :=
  if before.isIntegerAlias && after.isIntegerAlias then .integerType before.name after.name
  else if before.isTextual && after.isTextual then .textType before.name after.name
  else .type before.name after.name

/-- The marks that matter to stored data are the same. -/
def sameAttributes (before after : FieldFlags) : Bool :=
  before.rowid == after.rowid && before.unique == after.unique &&
    before.nullable == after.nullable

/-- The name of the structure that a reference leads to. -/
def Model.referredStruct (m : Model) (r : Reference) : Option String :=
  (m.field? r.target).bind fun f => (m.struct? f.parent).map Struct.name

def referenceChanges (old new : Model) : Option Reference → Option Reference → List Change
  | some before, some after =>
    (if before.onDelete ≠ after.onDelete then [.deleteAction] else []) ++
      (if before.onUpdate ≠ after.onUpdate then [.updateAction] else []) ++
      (if (old.referredStruct before).map fold ≠ (new.referredStruct after).map fold then
          [.referenceTarget]
        else [])
  | none, none => []
  | _, _ => [.reference]

/-- The changes of a field that is in both models. A structure-typed field shares the reference
of its source, which has the changes of it. -/
def fieldChanges (old new : Model) (before after : Field) : List Change :=
  (if before.type.name ≠ after.type.name then [typeChange before.type after.type] else []) ++
    (if sameAttributes before.flags after.flags then [] else [.attribute]) ++
    (if before.type.isStruct || after.type.isStruct then []
      else referenceChanges old new before.reference after.reference)

def Model.fieldNamed? (m : Model) (s : StructId) (name : String) : Option Field :=
  (m.findField? s name).bind m.field?

def oldFieldChanges (old new : Model) (newId : StructId) (before : Field) : Diagnostics :=
  match new.fieldNamed? newId before.name with
  | some after =>
    (fieldChanges old new before after).map fun c => changeFrom c before.pos after.pos
  | none =>
    [changeAt (if before.type.isStruct then .lostStructField else .lostField) before.pos]

/-- The changes of the fields of a structure that is in both models. -/
def structFieldChanges (old new : Model) (oldId newId : StructId) : Diagnostics :=
  ((new.fieldsOf newId).filter fun (_, f) =>
      f.type.isStruct && (old.findField? oldId f.name).isNone).map
    (fun (_, f) => changeAt .newStructField f.pos) ++
  (old.fieldsOf oldId).flatMap fun (_, f) => oldFieldChanges old new newId f

/-! ### uniqueness constraints -/

/-- The folded names of the fields of a constraint. -/
def Unique.names (m : Model) (u : Unique) : List String :=
  u.fields.map fun r =>
    fold (((r.target.bind m.field?).map Field.name).getD r.name)

/-- Two lists hold the same names, in any order. -/
def sameNames (a b : List String) : Bool := a.all b.contains && b.all a.contains

/-- The constraints of one structure that say what none of another structure says. -/
def uniquesWithout (m other : Model) (s t : Struct) : List Unique :=
  s.uniques.filter fun u => !t.uniques.any fun v => sameNames (v.names other) (u.names m)

/-- The changes of the uniqueness constraints of a structure. -/
def uniqueChanges (old new : Model) (before after : Struct) : Diagnostics :=
  (uniquesWithout new old after before).map (fun u => changeAt .newUnique u.pos) ++
    (uniquesWithout old new before after).map fun u => changeAt .lostUnique u.pos

/-! ### models -/

def structChanges (old new : Model) (id : StructId) (s : Struct) : Diagnostics :=
  match (new.findStruct? s.name).bind fun i => (new.struct? i).map fun x => (i, x) with
  | none => [changeAt .lostStruct s.pos]
  | some (newId, after) =>
    structFieldChanges old new id newId ++ uniqueChanges old new s after

/-- The changes from an old linked model to a new one. -/
def changes (old new : Linked) : Diagnostics :=
  enumChanges old.model new.model ++
    old.model.indexedStructs.flatMap fun (id, s) => structChanges old.model new.model id s

end ModelLinker
