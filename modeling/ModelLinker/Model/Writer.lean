import ModelLinker.Decl.Writer
import ModelLinker.Model.Basic

/-!
Writing a model as a document. Indices are bare numbers, and what is absent is null.
-/

namespace ModelLinker

def StructId.toJson (id : StructId) : Json := .nat id.index

def FieldId.toJson (id : FieldId) : Json := .nat id.index

def EnumId.toJson (id : EnumId) : Json := .nat id.index

def BitfieldId.toJson (id : BitfieldId) : Json := .nat id.index

def RoleId.toJson (id : RoleId) : Json := .nat id.index

def NameRef.toJson {α : Type} (f : α → Json) (r : NameRef α) : Json :=
  .obj [("name", .str r.name), ("pos", r.pos.toJson), ("target", .opt f r.target)]

def FieldType.toJson : FieldType → Json
  | .plain t => .obj [("kind", Keyword.toJson t)]
  | .enum r => .obj [("kind", .str "enum"), ("of", r.toJson EnumId.toJson)]
  | .bitfield r => .obj [("kind", .str "bitfield"), ("of", r.toJson BitfieldId.toJson)]
  | .struct r => .obj [("kind", .str "struct"), ("of", r.toJson FieldId.toJson)]

def FieldFlags.toJson (f : FieldFlags) : Json :=
  .obj [("rowid", .bool f.rowid), ("unique", .bool f.unique), ("nullable", .bool f.nullable),
    ("noexport", .bool f.noexport)]

def Validation.toJson (v : Validation) : Json :=
  .obj [("op", Keyword.toJson v.op), ("value", v.value.toJson), ("pos", v.pos.toJson)]

def ForeignKey.toJson (k : ForeignKey) : Json :=
  .obj [("target_struct", k.targetStruct.toJson StructId.toJson),
    ("target_field", k.targetField.toJson FieldId.toJson),
    ("on_update", Keyword.toJson k.onUpdate), ("on_delete", Keyword.toJson k.onDelete),
    ("pos", k.pos.toJson)]

def Reference.toJson (r : Reference) : Json :=
  .obj [("source", r.source.toJson), ("target", r.target.toJson),
    ("on_update", Keyword.toJson r.onUpdate), ("on_delete", Keyword.toJson r.onDelete)]

def Field.toJson (f : Field) : Json :=
  .obj [("name", .str f.name), ("pos", f.pos.toJson), ("doc", .opt .str f.doc),
    ("parent", f.parent.toJson), ("ty", f.type.toJson), ("flags", f.flags.toJson),
    ("default", .opt Literal.toJson f.default),
    ("validations", .list Validation.toJson f.validations),
    ("foreign", .opt ForeignKey.toJson f.foreign),
    ("reference", .opt Reference.toJson f.reference)]

def fieldRefsJson (refs : List (NameRef FieldId)) : Json :=
  .list (NameRef.toJson FieldId.toJson) refs

def FieldPath.toJson (p : FieldPath) : Json :=
  .obj [("segments", fieldRefsJson p.segments), ("pos", p.pos.toJson),
    ("alias", .opt .nat p.join)]

def Predicate.toJson (p : Predicate) : Json :=
  .obj [("path", p.path.toJson), ("op", Keyword.toJson p.op), ("pos", p.pos.toJson)]

def OrderTerm.toJson (o : OrderTerm) : Json :=
  .obj [("path", o.path.toJson), ("direction", Keyword.toJson o.direction),
    ("pos", o.pos.toJson)]

def Aggregate.toJson (a : Aggregate) : Json :=
  .obj [("op", Keyword.toJson a.op), ("path", a.path.toJson), ("pos", a.pos.toJson)]

def Distinct.toJson (d : Distinct) : Json :=
  .obj [("path", fieldRefsJson d.path), ("pos", d.pos.toJson),
    ("target", .opt StructId.toJson d.target)]

def RoleMap.toJson (m : RoleMap) : Json :=
  .obj [("pos", m.pos.toJson), ("roles", .list (NameRef.toJson RoleId.toJson) m.roles)]

def Search.toJson (s : Search) : Json :=
  .obj [("name", .opt .str s.name), ("doc", .opt .str s.doc), ("kind", Keyword.toJson s.kind),
    ("pos", s.pos.toJson), ("params", .list Predicate.toJson s.params),
    ("order", .list OrderTerm.toJson s.order), ("aggregate", .opt Aggregate.toJson s.aggregate),
    ("group", .opt FieldPath.toJson s.group), ("distinct", .opt Distinct.toJson s.distinct),
    ("limit", .opt .nat s.limit), ("offset", .opt .nat s.offset),
    ("roles", .opt RoleMap.toJson s.roles), ("unique", .bool s.unique)]

def Modifier.toJson (m : Modifier) : Json :=
  .obj [("field", m.field.toJson FieldId.toJson), ("kind", Keyword.toJson m.kind),
    ("pos", m.pos.toJson)]

def Condition.toJson (c : Condition) : Json :=
  .obj [("field", c.field.toJson FieldId.toJson), ("op", Keyword.toJson c.op),
    ("pos", c.pos.toJson)]

def Update.toJson (u : Update) : Json :=
  .obj [("name", .opt .str u.name), ("doc", .opt .str u.doc), ("kind", Keyword.toJson u.kind),
    ("pos", u.pos.toJson), ("modifies", .list Modifier.toJson u.modifies), ("all", .bool u.all),
    ("constraints", .list Condition.toJson u.constraints),
    ("roles", .opt RoleMap.toJson u.roles)]

def Insert.toJson (i : Insert) : Json :=
  .obj [("pos", i.pos.toJson), ("roles", .opt RoleMap.toJson i.roles)]

def Unique.toJson (u : Unique) : Json :=
  .obj [("fields", fieldRefsJson u.fields), ("pos", u.pos.toJson)]

def StructFlags.toJson (f : StructFlags) : Json :=
  .obj [("has_queue", .bool f.hasQueue), ("has_iterator", .bool f.hasIterator),
    ("has_blob", .bool f.hasBlob), ("has_nullrefs", .bool f.hasNullrefs)]

def Join.toJson (j : Join) : Json :=
  .obj [("path", .str j.path), ("alias", .str j.shortName)]

def Struct.toJson (s : Struct) : Json :=
  .obj [("name", .str s.name), ("pos", s.pos.toJson), ("doc", .opt .str s.doc),
    ("fields", .list FieldId.toJson s.fields), ("searches", .list Search.toJson s.searches),
    ("updates", .list Update.toJson s.updates), ("insert", .opt Insert.toJson s.insert),
    ("uniques", .list Unique.toJson s.uniques), ("rowid", .opt FieldId.toJson s.rowid),
    ("flags", s.flags.toJson), ("height", .nat s.height), ("aliases", .list Join.toJson s.joins),
    ("referenced_by", .list FieldId.toJson s.referencedBy)]

def EnumItem.toJson (i : EnumItem) : Json :=
  .obj [("name", .str i.name), ("pos", i.pos.toJson), ("doc", .opt .str i.doc),
    ("declared", .opt .int i.declared), ("value", .int i.value)]

def Enumeration.toJson (e : Enumeration) : Json :=
  .obj [("name", .str e.name), ("pos", e.pos.toJson), ("doc", .opt .str e.doc),
    ("items", .list EnumItem.toJson e.items)]

def BitItem.toJson (i : BitItem) : Json :=
  .obj [("name", .str i.name), ("pos", i.pos.toJson), ("doc", .opt .str i.doc),
    ("value", .int i.value)]

def Bitfield.toJson (b : Bitfield) : Json :=
  .obj [("name", .str b.name), ("pos", b.pos.toJson), ("doc", .opt .str b.doc),
    ("items", .list BitItem.toJson b.items)]

def Role.toJson (r : Role) : Json :=
  .obj [("name", .str r.name), ("kind", Keyword.toJson r.kind), ("pos", r.pos.toJson),
    ("doc", .opt .str r.doc), ("parent_name", .opt (NameRef.toJson RoleId.toJson) r.parentName),
    ("parent", .opt RoleId.toJson r.parent), ("children", .list RoleId.toJson r.children)]

def Model.toJson (m : Model) : Json :=
  .obj [("structs", .list Struct.toJson m.structs.toList),
    ("fields", .list Field.toJson m.fields.toList),
    ("enums", .list Enumeration.toJson m.enums.toList),
    ("bitfields", .list Bitfield.toJson m.bitfields.toList),
    ("roles", .list Role.toJson m.roles.toList)]

end ModelLinker
