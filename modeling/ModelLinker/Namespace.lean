import Std.Data.HashMap
import ModelLinker.Diagnostic.Basic
import ModelLinker.Model.Lookup

/-!
The names of a model, indexed without regard to case. The first declaration of a name counts; each
later one is reported and cannot be reached by its name.
-/

namespace ModelLinker

open Std (HashMap)
open Text (fold)

/-- What every name stands for. Field names are kept by structure. -/
structure Namespace where
  struct? : String → Option StructId
  field? : StructId → String → Option FieldId
  /-- The place of a field in the listing of its structure. -/
  listed? : StructId → String → Option Nat
  enum? : String → Option EnumId
  bitfield? : String → Option BitfieldId
  role? : String → Option RoleId

/-! ### the index of names -/

/-- Folded names with the parts they stand for. Fields come with the places at which their structures
list them. -/
structure NameIndex where
  structs : HashMap String StructId
  fields : HashMap (StructId × String) (Nat × FieldId)
  enums : HashMap String EnumId
  bitfields : HashMap String BitfieldId
  roles : HashMap String RoleId

namespace NameIndex

/-- The first value of every key. -/
def firsts {κ ν : Type} [BEq κ] [Hashable κ] (entries : List (κ × ν)) : HashMap κ ν :=
  entries.foldl (fun index (k, v) => index.insertIfNew k v) ∅

/-- Items with their indices, each by its folded name. -/
def byName {α ι : Type} (name : α → String) (id : Nat → ι) (items : Array α) : List (String × ι) :=
  items.toList.zipIdx.map fun (a, i) => (fold (name a), id i)

/-- The names of a model, folded. -/
def ofModel (m : Model) : NameIndex where
  structs := firsts (byName Struct.name StructId.mk m.structs)
  fields := firsts <| m.structIds.flatMap fun s =>
    (m.fieldsOf s).zipIdx.map fun ((id, f), i) => ((s, fold f.name), (i, id))
  enums := firsts (byName Enumeration.name EnumId.mk m.enums)
  bitfields := firsts (byName Bitfield.name BitfieldId.mk m.bitfields)
  roles := firsts (byName Role.name RoleId.mk m.roles)

def names (index : NameIndex) : Namespace where
  struct? name := index.structs[fold name]?
  field? parent name := index.fields[(parent, fold name)]?.map Prod.snd
  listed? parent name := index.fields[(parent, fold name)]?.map Prod.fst
  enum? name := index.enums[fold name]?
  bitfield? name := index.bitfields[fold name]?
  role? name := index.roles[fold name]?

end NameIndex

namespace Namespace

def ofModel (m : Model) : Namespace := (NameIndex.ofModel m).names

/-! ### repeated names -/

/-- The first item of a name in a scope, given where it is listed, unless it is the item at the given
place itself. -/
def earlier? {α : Type} (items : Array α) (first : Option Nat) (place : Nat) : Option α :=
  first.bind fun i => if i = place then none else items[i]?

/-- What is reported about a declaration whose name is that of an earlier one, given where that one
stands. -/
def repeated (problem : Pos → ResolveProblem) (pos : Pos) (first : Option Pos) : Diagnostics :=
  first.toList.map fun p => (Cause.resolve (problem p)).at pos

variable (names : Namespace)

/-- The repeated names among the fields that a structure lists. A field that is listed twice repeats
its own name. -/
def fieldProblems (m : Model) (id : StructId) (owner : String) : Diagnostics :=
  let fields := ((m.fieldsOf id).map Prod.snd).toArray
  fields.toList.zipIdx.flatMap fun (f, i) =>
    repeated (.duplicateField owner f.name) f.pos
      ((earlier? fields (names.listed? id f.name) i).map Field.pos)

/-- The repeated names of a structure and its fields. -/
def structProblems (m : Model) (id : StructId) (s : Struct) : Diagnostics :=
  repeated (.duplicateStruct s.name) s.pos
      ((earlier? m.structs ((names.struct? s.name).map StructId.index) id.index).map Struct.pos) ++
    names.fieldProblems m id s.name

/-- The repeated name of an enumeration. -/
def enumProblems (m : Model) (id : EnumId) (e : Enumeration) : Diagnostics :=
  repeated (.duplicateEnumeration e.name) e.pos
    ((earlier? m.enums ((names.enum? e.name).map EnumId.index) id.index).map Enumeration.pos)

/-- The repeated name of a bit field. -/
def bitfieldProblems (m : Model) (id : BitfieldId) (b : Bitfield) : Diagnostics :=
  repeated (.duplicateBitfield b.name) b.pos
    ((earlier? m.bitfields ((names.bitfield? b.name).map BitfieldId.index) id.index).map
      Bitfield.pos)

/-- The repeated name of a role. Reserved names have a problem of their own. -/
def roleProblems (m : Model) (id : RoleId) (r : Role) : Diagnostics :=
  (earlier? m.roles ((names.role? r.name).map RoleId.index) id.index).toList.map fun first =>
    (if first.kind.isReserved then .roles (.reservedName r.name)
      else .resolve (.duplicateRole r.name first.pos) : Cause).at r.pos

/-- All repeated names of a model: structures with their fields, enumerations, bit fields, roles. -/
def problems (m : Model) : Diagnostics :=
  m.indexedStructs.flatMap (fun (id, s) => names.structProblems m id s) ++
    m.enums.toList.zipIdx.flatMap (fun (e, i) => names.enumProblems m ⟨i⟩ e) ++
    m.bitfields.toList.zipIdx.flatMap (fun (b, i) => names.bitfieldProblems m ⟨i⟩ b) ++
    m.roles.toList.zipIdx.flatMap (fun (r, i) => names.roleProblems m ⟨i⟩ r)

end Namespace

end ModelLinker
