import ModelLinker.Proofs.Decl.Slots

/-!
# Schema, reader and writer of the declarations

The slots of every declaration are listed once, and make up its form, its schema and its written
form (`layout_location` and so on). So the three descriptions of it agree, from the declarations
without parts (`agree_location`) up to structures (`agree_struct`).
-/

namespace ModelLinker

/-! ### vocabularies -/

section Vocabularies

theorem faithful_typeName : Keyword.Faithful TypeName := by
  rintro (t | _ | _ | _)
  · cases t <;> rfl
  all_goals rfl

theorem faithful_action : Keyword.Faithful Action := by
  rintro ⟨⟩ <;> rfl

theorem faithful_validationOp : Keyword.Faithful ValidationOp := by
  rintro ⟨⟩ <;> rfl

theorem faithful_operator : Keyword.Faithful Operator := by
  rintro ⟨⟩ <;> rfl

theorem faithful_searchKind : Keyword.Faithful SearchKind := by
  rintro ⟨⟩ <;> rfl

theorem faithful_orderDirection : Keyword.Faithful OrderDirection := by
  rintro ⟨⟩ <;> rfl

theorem faithful_aggregateOp : Keyword.Faithful AggregateOp := by
  rintro ⟨⟩ <;> rfl

theorem faithful_modifierKind : Keyword.Faithful ModifierKind := by
  rintro ⟨⟩ <;> rfl

end Vocabularies

/-! ### names in the schema -/

namespace Schema

section Names

variable (name : String)

@[simp] theorem plain_name (place : Place) : (Property.plain name place).name = name := rfl
@[simp] theorem withDefault_name (value : Json) (place : Place) :
    (Property.withDefault name value place).name = name := rfl
@[simp] theorem declarations_name (of : Name) : (declarations name of).name = name := rfl
@[simp] theorem flag_name : (flag name).name = name := rfl
@[simp] theorem wordWithDefault_name (word : String) (of : Name) :
    (wordWithDefault name word of).name = name := rfl
@[simp] theorem atProperty_name : atProperty.name = "at" := rfl
@[simp] theorem docProperty_name : docProperty.name = "doc" := rfl
@[simp] theorem nameProperty_name : nameProperty.name = "name" := rfl
@[simp] theorem rolesProperty_name : rolesProperty.name = "roles" := rfl

end Names

end Schema

namespace Decl

open Schema

/-! ### members as slots leave them -/

@[simp] theorem always_eq (name : String) (value : Json) :
    always name value = ((some value).map fun x => (name, x)).toList := rfl

@[simp] theorem placeAndDoc_eq (place : Option Location) (doc : Option String) :
    placeAndDoc place doc = ifThere "at" Location.toJson place ++ ifThere "doc" .str doc := rfl

@[simp]
theorem ifThere_eq {α : Type} (name : String) (f : α → Json) (o : Option α) :
    ifThere name f o = ((o.map f).map fun x => (name, x)).toList := by
  cases o <;> rfl

/-! ### kinds of slots -/

namespace Slot

variable {α β : Type}

section Kinds

variable (p : Property) (required : Bool)

/-- A text that has to be there. -/
@[simp]
def text (name : String) (get : α → String) (set : String → α → α)
    (h : ∀ v a, get (set v a) = v := by intros; rfl) : Slot α :=
  .always (.plain name .text) true readText .str get set h

@[simp]
def textOrNull (get : α → Option String) (set : Option String → α → α)
    (h : ∀ v a, get (set v a) = v := by intros; rfl) : Slot α :=
  .optional p readText .str get set h

@[simp]
def truth (get : α → Bool) (set : Bool → α → α) (h : ∀ v a, get (set v a) = v := by intros; rfl) :
    Slot α :=
  .always p false readTruth .bool get set h

/-- A word of a vocabulary. -/
@[simp]
def word [Keyword β] (get : α → β) (set : β → α → α)
    (h : ∀ v a, get (set v a) = v := by intros; rfl) : Slot α :=
  .always p required (readKeyword β) Keyword.toJson get set h

@[simp]
def list (read : Reading β) (write : β → Json) (get : α → List β) (set : List β → α → α)
    (h : ∀ v a, get (set v a) = v := by intros; rfl) : Slot α :=
  .always p required (readList read) (.list write) get set h

end Kinds

section Shared

/-- The place of a declaration in its text. -/
@[simp]
def place (get : α → Option Location) (set : Option Location → α → α)
    (h : ∀ v a, get (set v a) = v := by intros; rfl) : Slot α :=
  .optional atProperty locationForm.read Location.toJson get set h

@[simp]
def doc (get : α → Option String) (set : Option String → α → α)
    (h : ∀ v a, get (set v a) = v := by intros; rfl) : Slot α :=
  .textOrNull docProperty get set h

/-- The roles that may call an operation. -/
@[simp]
def grants (get : α → Option (List String)) (set : Option (List String) → α → α)
    (h : ∀ v a, get (set v a) = v := by intros; rfl) : Slot α :=
  .optional rolesProperty (readList readText) namesJson get set h

end Shared

end Slot

/-! ### the slots of every declaration -/

def locationSlots : List (Slot Location) :=
  [ .always IntegerMember.line.property true (readNatural .size) .nat (·.line)
      fun v d => { d with line := v },
    .always IntegerMember.column.property true (readNatural .size) .nat (·.column)
      fun v d => { d with column := v } ]

def referenceSlots : List (Slot Reference) :=
  [ .text "target" (·.target) fun v d => { d with target := v },
    .word (wordWithDefault "on_update" "none" .action) false (·.onUpdate)
      fun v d => { d with onUpdate := v },
    .word (wordWithDefault "on_delete" "none" .action) false (·.onDelete)
      fun v d => { d with onDelete := v } ]

def validationSlots : List (Slot Validation) :=
  [ .word (.plain "op" (.ref .validationOp)) true (·.op) fun v d => { d with op := v },
    .always (.plain "value" (.ref .literal)) true readLiteral Literal.toJson (·.value)
      fun v d => { d with value := v } ]

def fieldSlots : List (Slot Field) :=
  [ .text "name" (·.name) fun v d => { d with name := v },
    .word (.plain "type" (.ref .typeName)) true (·.type) fun v d => { d with type := v },
    .textOrNull ⟨"of", some ("Enumeration or bitfield name, or the local foreign-key field of a " ++
      "struct."), none, .textOrNull⟩ (·.argument) fun v d => { d with argument := v },
    .optional (.plain "references" (.refOrNull .reference)) referenceForm.read Reference.toJson
      (·.references) fun v d => { d with references := v },
    .truth (flag "rowid") (·.rowid) fun v d => { d with rowid := v },
    .truth (flag "unique") (·.unique) fun v d => { d with unique := v },
    .truth (flag "null") (·.nullable) fun v d => { d with nullable := v },
    .truth (flag "noexport") (·.noexport) fun v d => { d with noexport := v },
    .optional (.plain "default" (.refOrNull .literal)) readLiteral Literal.toJson (·.default)
      fun v d => { d with default := v },
    .list (declarations "validate" .validation) false validationForm.read Validation.toJson
      (·.validate) fun v d => { d with validate := v },
    .place (·.place) fun v d => { d with place := v },
    .doc (·.doc) fun v d => { d with doc := v } ]

def predicateSlots : List (Slot Predicate) :=
  [ .text "field" (·.field) fun v d => { d with field := v },
    .word (wordWithDefault "op" "eq" .operator) false (·.op) fun v d => { d with op := v },
    .place (·.place) fun v d => { d with place := v } ]

def orderSlots : List (Slot Order) :=
  [ .text "field" (·.field) fun v d => { d with field := v },
    .word (wordWithDefault "direction" "asc" .orderDirection) false (·.direction)
      fun v d => { d with direction := v },
    .place (·.place) fun v d => { d with place := v } ]

def aggregateSlots : List (Slot Aggregate) :=
  [ .word (.plain "op" (.ref .aggregateOp)) true (·.op) fun v d => { d with op := v },
    .text "field" (·.field) fun v d => { d with field := v },
    .place (·.place) fun v d => { d with place := v } ]

def searchSlots : List (Slot Search) :=
  [ .word (.plain "kind" (.ref .searchKind)) true (·.kind) fun v d => { d with kind := v },
    .textOrNull nameProperty (·.name) fun v d => { d with name := v },
    .list (declarations "params" .predicate) false predicateForm.read Predicate.toJson (·.params)
      fun v d => { d with params := v },
    .list (declarations "order" .order) false orderForm.read Order.toJson (·.order)
      fun v d => { d with order := v },
    .textOrNull ⟨"distinct", some ("Dotted struct path; the empty string projects the searched " ++
      "struct."), none, .textOrNull⟩ (·.distinct) fun v d => { d with distinct := v },
    .optional (.plain "aggregate" (.refOrNull .aggregate)) aggregateForm.read Aggregate.toJson
      (·.aggregate) fun v d => { d with aggregate := v },
    .textOrNull (.plain "group" .textOrNull) (·.group) fun v d => { d with group := v },
    .optional IntegerMember.limit.property (readNatural .unsigned) .nat (·.limit)
      fun v d => { d with limit := v },
    .optional IntegerMember.offset.property (readNatural .unsigned) .nat (·.offset)
      fun v d => { d with offset := v },
    .grants (·.roles) fun v d => { d with roles := v },
    .place (·.place) fun v d => { d with place := v },
    .doc (·.doc) fun v d => { d with doc := v } ]

def modifierSlots : List (Slot Modifier) :=
  [ .text "field" (·.field) fun v d => { d with field := v },
    .word (wordWithDefault "modifier" "set" .modifierKind) false (·.modifier)
      fun v d => { d with modifier := v },
    .place (·.place) fun v d => { d with place := v } ]

def updateSlots : List (Slot Update) :=
  [ .textOrNull nameProperty (·.name) fun v d => { d with name := v },
    .list (declarations "fields" .modifier) false modifierForm.read Modifier.toJson (·.fields)
      fun v d => { d with fields := v },
    .truth ⟨"all", some "Modify every native field.", some (.bool false), .truth⟩ (·.all)
      fun v d => { d with all := v },
    .list (declarations "constraints" .predicate) false predicateForm.read Predicate.toJson
      (·.constraints) fun v d => { d with constraints := v },
    .grants (·.roles) fun v d => { d with roles := v },
    .place (·.place) fun v d => { d with place := v },
    .doc (·.doc) fun v d => { d with doc := v } ]

def deleteSlots : List (Slot Delete) :=
  [ .textOrNull nameProperty (·.name) fun v d => { d with name := v },
    .list (declarations "constraints" .predicate) false predicateForm.read Predicate.toJson
      (·.constraints) fun v d => { d with constraints := v },
    .grants (·.roles) fun v d => { d with roles := v },
    .place (·.place) fun v d => { d with place := v },
    .doc (·.doc) fun v d => { d with doc := v } ]

def insertSlots : List (Slot Insert) :=
  [ .grants (·.roles) fun v d => { d with roles := v },
    .place (·.place) fun v d => { d with place := v } ]

def uniqueSlots : List (Slot Unique) :=
  [ .always (.plain "fields" .texts) true (readList readText) namesJson (·.fields)
      fun v d => { d with fields := v },
    .place (·.place) fun v d => { d with place := v } ]

def structSlots : List (Slot Struct) :=
  [ .text "name" (·.name) fun v d => { d with name := v },
    .place (·.place) fun v d => { d with place := v },
    .doc (·.doc) fun v d => { d with doc := v },
    .list (declarations "fields" .field) false fieldForm.read Field.toJson (·.fields)
      fun v d => { d with fields := v },
    .list (declarations "searches" .search) false searchForm.read Search.toJson (·.searches)
      fun v d => { d with searches := v },
    .list (declarations "updates" .update) false updateForm.read Update.toJson (·.updates)
      fun v d => { d with updates := v },
    .list (declarations "deletes" .delete) false deleteForm.read Delete.toJson (·.deletes)
      fun v d => { d with deletes := v },
    .optional (.plain "insert" (.refOrNull .insert)) insertForm.read Insert.toJson (·.insert)
      fun v d => { d with insert := v },
    .list (declarations "uniques" .unique) false uniqueForm.read Unique.toJson (·.uniques)
      fun v d => { d with uniques := v } ]

def enumItemSlots : List (Slot EnumItem) :=
  [ .text "name" (·.name) fun v d => { d with name := v },
    .optional IntegerMember.itemValue.property readSigned .int (·.value)
      fun v d => { d with value := v },
    .place (·.place) fun v d => { d with place := v },
    .doc (·.doc) fun v d => { d with doc := v } ]

def enumerationSlots : List (Slot Enumeration) :=
  [ .text "name" (·.name) fun v d => { d with name := v },
    .list (.plain "items" (.listOf (.ref .enumItem))) true enumItemForm.read EnumItem.toJson
      (·.items) fun v d => { d with items := v },
    .place (·.place) fun v d => { d with place := v },
    .doc (·.doc) fun v d => { d with doc := v } ]

def bitItemSlots : List (Slot BitItem) :=
  [ .text "name" (·.name) fun v d => { d with name := v },
    .always IntegerMember.bitValue.property true readSigned .int (·.value)
      fun v d => { d with value := v },
    .place (·.place) fun v d => { d with place := v },
    .doc (·.doc) fun v d => { d with doc := v } ]

def bitfieldSlots : List (Slot Bitfield) :=
  [ .text "name" (·.name) fun v d => { d with name := v },
    .list (.plain "items" (.listOf (.ref .bitItem))) true bitItemForm.read BitItem.toJson (·.items)
      fun v d => { d with items := v },
    .place (·.place) fun v d => { d with place := v },
    .doc (·.doc) fun v d => { d with doc := v } ]

/-- The slots of a role, given how the roles nested in it are read. -/
def roleSlots (nested : Reading Role) : List (Slot Role) :=
  [ .text "name" (·.name) fun v d => { d with name := v },
    .textOrNull (.plain "parent" .textOrNull) (·.parent) fun v d => { d with parent := v },
    .list (declarations "roles" .role) false nested Role.toJson (·.roles)
      fun v d => { d with roles := v },
    .place (·.place) fun v d => { d with place := v },
    .doc (·.doc) fun v d => { d with doc := v } ]

def documentSlots : List (Slot Document) :=
  [ .list (declarations "structs" .struct) false structForm.read Struct.toJson (·.structs)
      fun v d => { d with structs := v },
    .list (declarations "enums" .enumeration) false enumerationForm.read Enumeration.toJson
      (·.enums) fun v d => { d with enums := v },
    .list (declarations "bitfields" .bitfield) false bitfieldForm.read Bitfield.toJson
      (·.bitfields) fun v d => { d with bitfields := v },
    .list (declarations "roles" .role) false readRole Role.toJson (·.roles)
      fun v d => { d with roles := v } ]

/-! ### layouts -/

theorem layout_location :
    Layout locationForm locationSlots Location.toJson Name.location.definition.body where
  members := rfl
  written _ := by simp [Location.toJson, locationSlots, Slot.written]
  described := ⟨_, _, rfl, .swap _ _ _, rfl, by simp [locationSlots]⟩
  apart := by simp [locationSlots, Slot.Apart]
  ext {a b} h := by cases a; cases b; simpa [locationSlots] using h
  blank := rfl
  omitted := by simp [locationSlots, locationForm]

theorem layout_reference :
    Layout referenceForm referenceSlots Reference.toJson Name.reference.definition.body where
  members := rfl
  written _ := by simp [Reference.toJson, referenceSlots, Slot.written]
  described := ⟨_, _, rfl, .refl _, rfl, by simp [referenceSlots]⟩
  apart := by simp [referenceSlots, Slot.Apart]
  ext {a b} h := by cases a; cases b; simpa [referenceSlots] using h
  blank := rfl
  omitted := by simp [referenceSlots, referenceForm]

theorem layout_validation :
    Layout validationForm validationSlots Validation.toJson Name.validation.definition.body where
  members := rfl
  written _ := by simp [Validation.toJson, validationSlots, Slot.written]
  described := ⟨_, _, rfl, .refl _, rfl, by simp [validationSlots]⟩
  apart := by simp [validationSlots, Slot.Apart]
  ext {a b} h := by cases a; cases b; simpa [validationSlots] using h
  blank := rfl
  omitted := by simp [validationSlots, validationForm]

theorem layout_field :
    Layout fieldForm fieldSlots Field.toJson Name.field.definition.body where
  members := rfl
  written _ := by simp [Field.toJson, fieldSlots, Slot.written]
  described := ⟨_, _, rfl, .refl _, rfl, by simp [fieldSlots]⟩
  apart := by simp [fieldSlots, Slot.Apart]
  ext {a b} h := by cases a; cases b; simpa [fieldSlots] using h
  blank := rfl
  omitted := by simp [fieldSlots, fieldForm]

theorem layout_predicate :
    Layout predicateForm predicateSlots Predicate.toJson Name.predicate.definition.body where
  members := rfl
  written _ := by simp [Predicate.toJson, predicateSlots, Slot.written]
  described := ⟨_, _, rfl, .refl _, rfl, by simp [predicateSlots]⟩
  apart := by simp [predicateSlots, Slot.Apart]
  ext {a b} h := by cases a; cases b; simpa [predicateSlots] using h
  blank := rfl
  omitted := by simp [predicateSlots, predicateForm]

theorem layout_order :
    Layout orderForm orderSlots Order.toJson Name.order.definition.body where
  members := rfl
  written _ := by simp [Order.toJson, orderSlots, Slot.written]
  described := ⟨_, _, rfl, .refl _, rfl, by simp [orderSlots]⟩
  apart := by simp [orderSlots, Slot.Apart]
  ext {a b} h := by cases a; cases b; simpa [orderSlots] using h
  blank := rfl
  omitted := by simp [orderSlots, orderForm]

theorem layout_aggregate :
    Layout aggregateForm aggregateSlots Aggregate.toJson Name.aggregate.definition.body where
  members := rfl
  written _ := by simp [Aggregate.toJson, aggregateSlots, Slot.written]
  described := ⟨_, _, rfl, .swap _ _ _, rfl, by simp [aggregateSlots]⟩
  apart := by simp [aggregateSlots, Slot.Apart]
  ext {a b} h := by cases a; cases b; simpa [aggregateSlots] using h
  blank := rfl
  omitted := by simp [aggregateSlots, aggregateForm]

theorem layout_search :
    Layout searchForm searchSlots Search.toJson Name.search.definition.body where
  members := rfl
  written _ := by simp [Search.toJson, searchSlots, Slot.written]
  described := ⟨_, _, rfl, .refl _, rfl, by simp [searchSlots]⟩
  apart := by simp [searchSlots, Slot.Apart]
  ext {a b} h := by cases a; cases b; simpa [searchSlots] using h
  blank := rfl
  omitted := by simp [searchSlots, searchForm]

theorem layout_modifier :
    Layout modifierForm modifierSlots Modifier.toJson Name.modifier.definition.body where
  members := rfl
  written _ := by simp [Modifier.toJson, modifierSlots, Slot.written]
  described := ⟨_, _, rfl, .refl _, rfl, by simp [modifierSlots]⟩
  apart := by simp [modifierSlots, Slot.Apart]
  ext {a b} h := by cases a; cases b; simpa [modifierSlots] using h
  blank := rfl
  omitted := by simp [modifierSlots, modifierForm]

theorem layout_update :
    Layout updateForm updateSlots Update.toJson Name.update.definition.body where
  members := rfl
  written _ := by simp [Update.toJson, updateSlots, Slot.written]
  described := ⟨_, _, rfl, .refl _, rfl, by simp [updateSlots]⟩
  apart := by simp [updateSlots, Slot.Apart]
  ext {a b} h := by cases a; cases b; simpa [updateSlots] using h
  blank := rfl
  omitted := by simp [updateSlots, updateForm]

theorem layout_delete :
    Layout deleteForm deleteSlots Delete.toJson Name.delete.definition.body where
  members := rfl
  written _ := by simp [Delete.toJson, deleteSlots, Slot.written]
  described := ⟨_, _, rfl, .refl _, rfl, by simp [deleteSlots]⟩
  apart := by simp [deleteSlots, Slot.Apart]
  ext {a b} h := by cases a; cases b; simpa [deleteSlots] using h
  blank := rfl
  omitted := by simp [deleteSlots, deleteForm]

theorem layout_insert :
    Layout insertForm insertSlots Insert.toJson Name.insert.definition.body where
  members := rfl
  written _ := by simp [Insert.toJson, insertSlots, Slot.written]
  described := ⟨_, _, rfl, .refl _, rfl, by simp [insertSlots]⟩
  apart := by simp [insertSlots, Slot.Apart]
  ext {a b} h := by cases a; cases b; simpa [insertSlots] using h
  blank := rfl
  omitted := by simp [insertSlots, insertForm]

theorem layout_unique :
    Layout uniqueForm uniqueSlots Unique.toJson Name.unique.definition.body where
  members := rfl
  written _ := by simp [Unique.toJson, uniqueSlots, Slot.written]
  described := ⟨_, _, rfl, .refl _, rfl, by simp [uniqueSlots]⟩
  apart := by simp [uniqueSlots, Slot.Apart]
  ext {a b} h := by cases a; cases b; simpa [uniqueSlots] using h
  blank := rfl
  omitted := by simp [uniqueSlots, uniqueForm]

theorem layout_struct :
    Layout structForm structSlots Struct.toJson Name.struct.definition.body where
  members := rfl
  written _ := by simp [Struct.toJson, structSlots, Slot.written]
  described := ⟨_, _, rfl, .refl _, rfl, by simp [structSlots]⟩
  apart := by simp [structSlots, Slot.Apart]
  ext {a b} h := by cases a; cases b; simpa [structSlots] using h
  blank := rfl
  omitted := by simp [structSlots, structForm]

theorem layout_enumItem :
    Layout enumItemForm enumItemSlots EnumItem.toJson Name.enumItem.definition.body where
  members := rfl
  written _ := by simp [EnumItem.toJson, enumItemSlots, Slot.written]
  described := ⟨_, _, rfl, .refl _, rfl, by simp [enumItemSlots]⟩
  apart := by simp [enumItemSlots, Slot.Apart]
  ext {a b} h := by cases a; cases b; simpa [enumItemSlots] using h
  blank := rfl
  omitted := by simp [enumItemSlots, enumItemForm]

theorem layout_enumeration :
    Layout enumerationForm enumerationSlots Enumeration.toJson
      Name.enumeration.definition.body where
  members := rfl
  written _ := by simp [Enumeration.toJson, enumerationSlots, Slot.written]
  described := ⟨_, _, rfl, .swap _ _ _, rfl, by simp [enumerationSlots]⟩
  apart := by simp [enumerationSlots, Slot.Apart]
  ext {a b} h := by cases a; cases b; simpa [enumerationSlots] using h
  blank := rfl
  omitted := by simp [enumerationSlots, enumerationForm]

theorem layout_bitItem :
    Layout bitItemForm bitItemSlots BitItem.toJson Name.bitItem.definition.body where
  members := rfl
  written _ := by simp [BitItem.toJson, bitItemSlots, Slot.written]
  described := ⟨_, _, rfl, .refl _, rfl, by simp [bitItemSlots]⟩
  apart := by simp [bitItemSlots, Slot.Apart]
  ext {a b} h := by cases a; cases b; simpa [bitItemSlots] using h
  blank := rfl
  omitted := by simp [bitItemSlots, bitItemForm]

theorem layout_bitfield :
    Layout bitfieldForm bitfieldSlots Bitfield.toJson Name.bitfield.definition.body where
  members := rfl
  written _ := by simp [Bitfield.toJson, bitfieldSlots, Slot.written]
  described := ⟨_, _, rfl, .swap _ _ _, rfl, by simp [bitfieldSlots]⟩
  apart := by simp [bitfieldSlots, Slot.Apart]
  ext {a b} h := by cases a; cases b; simpa [bitfieldSlots] using h
  blank := rfl
  omitted := by simp [bitfieldSlots, bitfieldForm]

/-! ### agreement -/

theorem agree_line : Agree IntegerMember.line.property.demand (readNatural .size)
    fun n => some (.nat n) :=
  (agree_natural .line rfl rfl).integer rfl

theorem agree_column : Agree IntegerMember.column.property.demand (readNatural .size)
    fun n => some (.nat n) :=
  (agree_natural .column rfl rfl).integer rfl

theorem agree_limit : Agree IntegerMember.limit.property.demand
    (readOption (readNatural .unsigned)) (Option.map Json.nat) :=
  (agree_natural .limit rfl rfl).integerOrNull rfl (by rintro _ ⟨⟩)

theorem agree_offset : Agree IntegerMember.offset.property.demand
    (readOption (readNatural .unsigned)) (Option.map Json.nat) :=
  (agree_natural .offset rfl rfl).integerOrNull rfl (by rintro _ ⟨⟩)

theorem agree_itemValue : Agree IntegerMember.itemValue.property.demand (readOption readSigned)
    (Option.map Json.int) :=
  (agree_integer .itemValue (by rintro ⟨⟩)).integerOrNull rfl (by rintro _ ⟨⟩)

theorem agree_bitValue : Agree IntegerMember.bitValue.property.demand readSigned
    fun n => some (.int n) :=
  (agree_integer .bitValue (by rintro ⟨⟩)).integer rfl

/-- The words of this vocabulary are split among two alternatives. -/
theorem agree_searchKind :
    Agree Name.searchKind.demand (readKeyword SearchKind) fun k => some (Keyword.toJson k) := by
  refine agree_words faithful_searchKind fun j => ?_
  have hwords : Keyword.words SearchKind = ["search", "list", "count", "iterate"] := rfl
  simp only [Name.definition, hwords]
  rw [admits_choice]
  cases j with
  | str s =>
    by_cases hs : s = "search" <;>
      simp [checkChoice, Scalar.check, Scalar.word, isAmong, checkKind, Kind.holds, hs,
        List.countP_cons]
    grind
  | _ => simp [checkChoice, Scalar.check, Scalar.word, isAmong, checkKind, Kind.holds]

theorem agree_location : Agree Name.location.demand locationForm.read fun d => some d.toJson :=
  layout_location.agree <| by
    simp only [locationSlots, List.forall_mem_cons]
    exact ⟨agree_line, agree_column, List.forall_mem_nil _⟩

/-- The place of a declaration in its text. -/
theorem agree_place :
    Agree atProperty.demand (readOption locationForm.read) (Option.map Location.toJson) :=
  agree_location.orNull rfl (by rintro _ ⟨⟩)

theorem agree_doc : Agree docProperty.demand (readOption readText) (Option.map Json.str) :=
  agree_textOrNull.property rfl

theorem agree_reference : Agree Name.reference.demand referenceForm.read fun d => some d.toJson :=
  layout_reference.agree <| by
    have haction := @agree_keyword Action _ .action faithful_action rfl
    simp only [referenceSlots, List.forall_mem_cons]
    exact ⟨agree_text.property rfl, haction.ref (.inr rfl), haction.ref (.inr rfl),
      List.forall_mem_nil _⟩

theorem agree_validation :
    Agree Name.validation.demand validationForm.read fun d => some d.toJson :=
  layout_validation.agree <| by
    have hop := @agree_keyword ValidationOp _ .validationOp faithful_validationOp rfl
    simp only [validationSlots, List.forall_mem_cons]
    exact ⟨hop.ref (.inl rfl), agree_literal.ref (.inl rfl), List.forall_mem_nil _⟩

theorem agree_field : Agree Name.field.demand fieldForm.read fun d => some d.toJson :=
  layout_field.agree <| by
    have htype := @agree_keyword TypeName _ .typeName faithful_typeName rfl
    simp only [fieldSlots, List.forall_mem_cons]
    exact ⟨agree_text.property rfl, htype.ref (.inl rfl), agree_textOrNull.property rfl,
      agree_reference.orNull rfl (by rintro _ ⟨⟩), agree_truth.property rfl,
      agree_truth.property rfl, agree_truth.property rfl, agree_truth.property rfl,
      agree_literal.orNull rfl (by rintro _ ⟨⟩), agree_validation.declared rfl, agree_place,
      agree_doc, List.forall_mem_nil _⟩

theorem agree_predicate : Agree Name.predicate.demand predicateForm.read fun d => some d.toJson :=
  layout_predicate.agree <| by
    have hop := @agree_keyword Operator _ .operator faithful_operator rfl
    simp only [predicateSlots, List.forall_mem_cons]
    exact ⟨agree_text.property rfl, hop.ref (.inr rfl), agree_place, List.forall_mem_nil _⟩

theorem agree_order : Agree Name.order.demand orderForm.read fun d => some d.toJson :=
  layout_order.agree <| by
    have hdirection := @agree_keyword OrderDirection _ .orderDirection faithful_orderDirection rfl
    simp only [orderSlots, List.forall_mem_cons]
    exact ⟨agree_text.property rfl, hdirection.ref (.inr rfl), agree_place, List.forall_mem_nil _⟩

theorem agree_aggregate : Agree Name.aggregate.demand aggregateForm.read fun d => some d.toJson :=
  layout_aggregate.agree <| by
    have hop := @agree_keyword AggregateOp _ .aggregateOp faithful_aggregateOp rfl
    simp only [aggregateSlots, List.forall_mem_cons]
    exact ⟨hop.ref (.inl rfl), agree_text.property rfl, agree_place, List.forall_mem_nil _⟩

theorem agree_search : Agree Name.search.demand searchForm.read fun d => some d.toJson :=
  layout_search.agree <| by
    simp only [searchSlots, List.forall_mem_cons]
    exact ⟨agree_searchKind.ref (.inl rfl), agree_textOrNull.property rfl,
      agree_predicate.declared rfl, agree_order.declared rfl, agree_textOrNull.property rfl,
      agree_aggregate.orNull rfl (by rintro _ ⟨⟩), agree_textOrNull.property rfl, agree_limit,
      agree_offset, agree_grants, agree_place, agree_doc, List.forall_mem_nil _⟩

theorem agree_modifier : Agree Name.modifier.demand modifierForm.read fun d => some d.toJson :=
  layout_modifier.agree <| by
    have hkind := @agree_keyword ModifierKind _ .modifierKind faithful_modifierKind rfl
    simp only [modifierSlots, List.forall_mem_cons]
    exact ⟨agree_text.property rfl, hkind.ref (.inr rfl), agree_place, List.forall_mem_nil _⟩

theorem agree_update : Agree Name.update.demand updateForm.read fun d => some d.toJson :=
  layout_update.agree <| by
    simp only [updateSlots, List.forall_mem_cons]
    exact ⟨agree_textOrNull.property rfl, agree_modifier.declared rfl, agree_truth.property rfl,
      agree_predicate.declared rfl, agree_grants, agree_place, agree_doc, List.forall_mem_nil _⟩

theorem agree_delete : Agree Name.delete.demand deleteForm.read fun d => some d.toJson :=
  layout_delete.agree <| by
    simp only [deleteSlots, List.forall_mem_cons]
    exact ⟨agree_textOrNull.property rfl, agree_predicate.declared rfl, agree_grants,
      agree_place, agree_doc, List.forall_mem_nil _⟩

theorem agree_insert : Agree Name.insert.demand insertForm.read fun d => some d.toJson :=
  layout_insert.agree <| by
    simp only [insertSlots, List.forall_mem_cons]
    exact ⟨agree_grants, agree_place, List.forall_mem_nil _⟩

theorem agree_unique : Agree Name.unique.demand uniqueForm.read fun d => some d.toJson :=
  layout_unique.agree <| by
    simp only [uniqueSlots, List.forall_mem_cons]
    exact ⟨agree_text.listed rfl rfl, agree_place, List.forall_mem_nil _⟩

theorem agree_struct : Agree Name.struct.demand structForm.read fun d => some d.toJson :=
  layout_struct.agree <| by
    simp only [structSlots, List.forall_mem_cons]
    exact ⟨agree_text.property rfl, agree_place, agree_doc, agree_field.declared rfl,
      agree_search.declared rfl, agree_update.declared rfl, agree_delete.declared rfl,
      agree_insert.orNull rfl (by rintro _ ⟨⟩), agree_unique.declared rfl, List.forall_mem_nil _⟩

theorem agree_enumItem : Agree Name.enumItem.demand enumItemForm.read fun d => some d.toJson :=
  layout_enumItem.agree <| by
    simp only [enumItemSlots, List.forall_mem_cons]
    exact ⟨agree_text.property rfl, agree_itemValue, agree_place, agree_doc, List.forall_mem_nil _⟩

theorem agree_enumeration :
    Agree Name.enumeration.demand enumerationForm.read fun d => some d.toJson :=
  layout_enumeration.agree <| by
    simp only [enumerationSlots, List.forall_mem_cons]
    exact ⟨agree_text.property rfl, agree_enumItem.declared rfl, agree_place, agree_doc,
      List.forall_mem_nil _⟩

theorem agree_bitItem : Agree Name.bitItem.demand bitItemForm.read fun d => some d.toJson :=
  layout_bitItem.agree <| by
    simp only [bitItemSlots, List.forall_mem_cons]
    exact ⟨agree_text.property rfl, agree_bitValue, agree_place, agree_doc, List.forall_mem_nil _⟩

theorem agree_bitfield : Agree Name.bitfield.demand bitfieldForm.read fun d => some d.toJson :=
  layout_bitfield.agree <| by
    simp only [bitfieldSlots, List.forall_mem_cons]
    exact ⟨agree_text.property rfl, agree_bitItem.declared rfl, agree_place, agree_doc,
      List.forall_mem_nil _⟩

end Decl

end ModelLinker
