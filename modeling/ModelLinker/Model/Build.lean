import ModelLinker.Model.Basic

/-!
Building a model part by part. A new part gets the next index of its kind.
-/

namespace ModelLinker

namespace RoleId

/-- The root of all roles. -/
def all : RoleId := ⟨0⟩

/-- The role that may do nothing. -/
def none : RoleId := ⟨1⟩

/-- The role that a session starts in. -/
def default : RoleId := ⟨2⟩

end RoleId

def Role.reserved (name : String) (kind : RoleKind) (parent : Option RoleId)
    (children : List RoleId) : Role :=
  { name, kind, pos := .ofFile "<builtin>", doc := none, parentName := none, parent, children }

/-- A declared role that has not been attached yet. -/
def Role.declared (name : String) (pos : Pos) (parent : Option (NameRef RoleId))
    (doc : Option String) : Role :=
  { name, kind := .named, pos, doc, parentName := parent, parent := none, children := [] }

namespace Model

/-- The model that holds only the reserved roles. -/
def empty : Model where
  structs := #[]
  fields := #[]
  enums := #[]
  bitfields := #[]
  roles :=
    #[.reserved "all" .root none [.none, .default], .reserved "none" .sink (some .all) [],
      .reserved "default" .default (some .all) []]

variable (m : Model)

def addStruct (s : Struct) : Model × StructId :=
  ({ m with structs := m.structs.push s }, ⟨m.structs.size⟩)

/-- The model with one more field, listed last in its structure. -/
def addField (f : Field) : Model × FieldId :=
  let id : FieldId := ⟨m.fields.size⟩
  ({ m with
      fields := m.fields.push f
      structs := m.structs.modify f.parent.index fun s => { s with fields := s.fields ++ [id] } },
    id)

def addEnum (e : Enumeration) : Model × EnumId :=
  ({ m with enums := m.enums.push e }, ⟨m.enums.size⟩)

def addBitfield (b : Bitfield) : Model × BitfieldId :=
  ({ m with bitfields := m.bitfields.push b }, ⟨m.bitfields.size⟩)

def addRole (r : Role) : Model × RoleId :=
  ({ m with roles := m.roles.push r }, ⟨m.roles.size⟩)

def modifyStruct (id : StructId) (f : Struct → Struct) : Model :=
  { m with structs := m.structs.modify id.index f }

def modifyField (id : FieldId) (f : Field → Field) : Model :=
  { m with fields := m.fields.modify id.index f }

end Model

end ModelLinker
