import ModelLinker.Namespace

/-!
Values and simple types: enumerations are numbered, bits are checked, the rowid of a structure is
found, types are bound to the enumerations and bit fields they name, and validation rules are
kept off the types that have none.
-/

namespace ModelLinker

open Text (sameName)

/-- What every item gives, seen together with the items before it. -/
def withEarlier {α β : Type} (f : List α → α → List β) (earlier : List α) : List α → List β
  | [] => []
  | x :: xs => f earlier x ++ withEarlier f (earlier ++ [x]) xs

/-- Items through a map, with what they give unchanged. -/
theorem withEarlier_map {α β γ : Type} (g : α → β) (f : List α → α → List γ)
    (f' : List β → β → List γ) (hf : ∀ earlier x, f' (earlier.map g) (g x) = f earlier x)
    (earlier xs : List α) :
    withEarlier f' (earlier.map g) (xs.map g) = withEarlier f earlier xs := by
  induction xs generalizing earlier with
  | nil => rfl
  | cons x rest ih =>
    have := ih (earlier ++ [x])
    rw [List.map_append] at this
    simp only [List.map_cons, withEarlier, hf]
    rw [← this]
    rfl

/-! ### enumerations -/

/-- One more, but not past the greatest integer of 64 bits. -/
def nextValue (n : Int) : Int := min (n + 1) Decl.greatestSigned

/-- Items without a declared value get one more than the greatest value before them, and zero at
least. -/
def numberItems (next : Int) : List EnumItem → List EnumItem
  | [] => []
  | i :: rest =>
    let value := i.declared.getD next
    { i with value } :: numberItems (max next (nextValue value)) rest

def Enumeration.number (e : Enumeration) : Enumeration :=
  { e with items := numberItems 0 e.items }

/-- An item that repeats the name or the value of an earlier one. -/
def Enumeration.itemProblems (e : Enumeration) (earlier : List EnumItem) (i : EnumItem) :
    Diagnostics :=
  (if earlier.any fun x => sameName x.name i.name then
      [(Cause.resolve (.duplicateEnumItem e.name i.name)).at i.pos]
    else []) ++
  (if earlier.any fun x => x.value == i.value then
      [(Cause.resolve (.duplicateEnumValue e.name i.name i.value)).at i.pos]
    else [])

/-- The repeated names and values of an enumeration. -/
def Enumeration.problems (e : Enumeration) : Diagnostics :=
  withEarlier e.itemProblems [] e.items

def numberEnums (m : Model) : Model :=
  { m with enums := m.enums.map Enumeration.number }

/-- The repeated names and values of all enumerations. -/
def enumProblems (m : Model) : Diagnostics :=
  m.enums.toList.flatMap Enumeration.problems

/-! ### bit fields -/

/-- The bits that a bit field has room for. -/
def isBit (n : Int) : Bool := 0 ≤ n && n ≤ 63

/-- An item outside the range of bits, or one that repeats an earlier name or bit. -/
def Bitfield.itemProblems (b : Bitfield) (earlier : List BitItem) (i : BitItem) : Diagnostics :=
  (if isBit i.value then []
    else [(Cause.resolve (.bitOutOfRange b.name i.name i.value)).at i.pos]) ++
  (if earlier.any fun x => sameName x.name i.name then
      [(Cause.resolve (.duplicateBitItem b.name i.name)).at i.pos]
    else []) ++
  (if earlier.any fun x => x.value == i.value then
      [(Cause.resolve (.duplicateBit b.name i.name i.value)).at i.pos]
    else [])

def Bitfield.problems (b : Bitfield) : Diagnostics :=
  withEarlier b.itemProblems [] b.items

def bitfieldProblems (m : Model) : Diagnostics :=
  m.bitfields.toList.flatMap Bitfield.problems

/-! ### rowids -/

/-- The fields of a structure that are marked as its rowid. -/
def Model.rowidsOf (m : Model) (id : StructId) : List (FieldId × Field) :=
  (m.fieldsOf id).filter fun (_, f) => f.flags.rowid

/-- The problems of a rowid, given the rowids before it. -/
def rowidProblems (earlier : List (FieldId × Field)) (entry : FieldId × Field) : Diagnostics :=
  let f := entry.2
  let problem := fun p => (Cause.resolve p).at f.pos
  (if f.flags.nullable then [problem (.nullableRowid f.name)] else []) ++
    (if f.type = .plain .int then [] else [problem (.rowidNotInt f.name)]) ++
    (if earlier.isEmpty then [] else [problem (.secondRowid f.name)])

/-- The model with the rowid of every structure: the first of its fields marked so. -/
def resolveRowids (m : Model) : Model :=
  { m with structs := m.structs.mapIdx fun i s =>
      { s with rowid := ((m.rowidsOf ⟨i⟩).head?).map (·.1) } }

def allRowidProblems (m : Model) : Diagnostics :=
  m.structIds.flatMap fun id => withEarlier rowidProblems [] (m.rowidsOf id)

/-! ### named types -/

/-- A name bound to what it stands for; one that stands for nothing stays as it is. -/
def NameRef.resolve {α : Type} (r : NameRef α) (found : Option α) : NameRef α :=
  match found with
  | some a => r.bind a
  | none => r

/-- The type bound to the enumeration or the bit field it names. -/
def FieldType.resolveValue (names : Namespace) : FieldType → FieldType
  | .enum r => .enum (r.resolve (names.enum? r.name))
  | .bitfield r => .bitfield (r.resolve (names.bitfield? r.name))
  | t => t

/-- A type that names no known enumeration or bit field. -/
def FieldType.valueProblems (names : Namespace) : FieldType → Diagnostics
  | .enum r =>
    if (names.enum? r.name).isSome then []
    else [(Cause.resolve (.unknownEnumeration r.name)).at r.pos]
  | .bitfield r =>
    if (names.bitfield? r.name).isSome then []
    else [(Cause.resolve (.unknownBitfield r.name)).at r.pos]
  | _ => []

/-- The model with all types bound to the enumerations and bit fields they name. -/
def resolveValueTypes (names : Namespace) (m : Model) : Model :=
  { m with fields := m.fields.map fun f => { f with type := f.type.resolveValue names } }

/-- The types that name nothing known. -/
def valueTypeProblems (names : Namespace) (m : Model) : Diagnostics :=
  m.fields.toList.flatMap fun f => f.type.valueProblems names

/-! ### validation rules -/

/-- Structure-typed and enumeration-typed fields have no validation rules. -/
def Field.validationProblems (f : Field) : Diagnostics :=
  match f.type with
  | .struct _ | .enum _ =>
    if f.validations.isEmpty then []
    else [(Cause.resolve (.validationNotAllowed f.type.name)).at f.pos]
  | _ => []

/-- The fields that have validation rules and must not. -/
def validationProblems (m : Model) : Diagnostics :=
  m.fields.toList.flatMap Field.validationProblems

end ModelLinker
