import ModelLinker.Evolution
import ModelLinker.Proofs.Kept

/-!
# What a comparison looks at

Of a model a comparison sees the fields, the enumerations, and the names, fields and constraints of
structures; all else could be missing (`changes_stored`). So it gives the same for linked models as
for models whose names are bound, before joins, heights and marks are set (`changes_bound`).
-/

namespace ModelLinker

/-- The parts of a structure that matter to stored data. -/
def Struct.stored (s : Struct) : Struct :=
  { Struct.new s.name s.pos with fields := s.fields, uniques := s.uniques }

namespace Model

/-- The parts of a model that matter to stored data. -/
def stored (m : Model) : Model :=
  { m with structs := m.structs.map Struct.stored, bitfields := #[], roles := #[] }

variable (m : Model)

@[simp] theorem struct?_stored (id : StructId) :
    m.stored.struct? id = (m.struct? id).map Struct.stored := by
  simp [struct?, stored]

@[simp] theorem field?_stored : m.stored.field? = m.field? := rfl

@[simp] theorem fieldsOf_stored : m.stored.fieldsOf = m.fieldsOf := by
  funext id
  simp only [fieldsOf, struct?_stored, field?_stored]
  cases m.struct? id <;> rfl

@[simp] theorem findStruct?_stored : m.stored.findStruct? = m.findStruct? := by
  funext n
  simp [findStruct?, stored, Struct.stored, Struct.new, Function.comp_def]

@[simp] theorem findField?_stored : m.stored.findField? = m.findField? := by
  funext id n
  simp only [findField?, fieldsOf_stored]

@[simp] theorem indexedStructs_stored :
    m.stored.indexedStructs = m.indexedStructs.map fun e => (e.1, e.2.stored) := by
  simp [indexedStructs, stored, List.zipIdx_map, Function.comp_def]

end Model

section Changes

variable (old new : Model)

theorem oldFieldChanges_stored (id : StructId) (f : Field) :
    oldFieldChanges old.stored new.stored id f = oldFieldChanges old new id f := by
  have hreferred : ∀ m : Model, m.stored.referredStruct = m.referredStruct := by
    intro m
    funext r
    simp [Model.referredStruct, Struct.stored, Struct.new, Function.comp_def]
  have hfield : fieldChanges old.stored new.stored = fieldChanges old new := by
    funext before after
    have hreference : referenceChanges old.stored new.stored = referenceChanges old new := by
      funext r r'
      unfold referenceChanges
      simp only [hreferred]
    simp only [fieldChanges, hreference]
  simp only [oldFieldChanges, Model.fieldNamed?, Model.findField?_stored, Model.field?_stored,
    hfield]

theorem structChanges_stored (id : StructId) (s : Struct) :
    structChanges old.stored new.stored id s.stored = structChanges old new id s := by
  have huniques : ∀ m : Model, Unique.names m.stored = Unique.names m := fun _ => rfl
  have hfields : structFieldChanges old.stored new.stored = structFieldChanges old new := by
    funext id id'
    simp only [structFieldChanges, Model.fieldsOf_stored, Model.findField?_stored,
      oldFieldChanges_stored]
  simp only [structChanges, hfields, uniqueChanges, uniquesWithout, huniques,
    Model.findStruct?_stored, Model.struct?_stored, Option.map_map]
  cases hn : new.findStruct? s.name with
  | none => simp [Struct.stored, Struct.new, hn]
  | some id' =>
    cases hs : new.struct? id' with
    | none => simp [Struct.stored, Struct.new, hn, hs]
    | some s' => simp [Struct.stored, Struct.new, hn, hs]

/-- Nothing else is looked at. -/
theorem changes_stored (old new : Linked) :
    changes { old with model := old.model.stored } { new with model := new.model.stored } =
      changes old new := by
  have henums : enumChanges old.model.stored new.model.stored =
      enumChanges old.model new.model := rfl
  simp only [changes, henums, Model.indexedStructs_stored, List.flatMap_map,
    structChanges_stored]

theorem changes_congr {old old' new new' : Linked} (h : old'.model.stored = old.model.stored)
    (h' : new'.model.stored = new.model.stored) : changes old' new' = changes old new := by
  rw [← changes_stored, ← changes_stored old]
  simp only [changes, h, h']

end Changes

namespace Model

theorem settled_stored : Struct.Settled Struct.stored :=
  ⟨fun _ _ => rfl, fun _ => rfl, fun _ _ => rfl, fun _ _ => rfl, fun _ _ => rfl⟩

theorem stored_linked (m : Model) : m.linked.stored = m.bound.stored := by
  have hstructs : m.linked.structs.map Struct.stored = m.bound.structs.map Struct.stored :=
    map_linked_bound settled_stored
  simp only [stored, hstructs]
  rw [linked, computeFlags_eq]
  rfl

/-- A model as it is compared, without a topology. -/
def unordered (m : Model) : Linked := ⟨m, ⟨0, 0, [], [], []⟩, []⟩

end Model

/-- What has changed from one linked model to another can be seen before they are put in order. -/
theorem changes_bound {seed seed' : Diagnostics} {m m' : Model} {l l' : Linked}
    (h : linkWith seed m = .ok l) (h' : linkWith seed' m' = .ok l') :
    changes l l' = changes m.bound.unordered m'.bound.unordered := by
  obtain ⟨-, -, rfl⟩ := linkWith_eq_ok_iff.1 h
  obtain ⟨-, -, rfl⟩ := linkWith_eq_ok_iff.1 h'
  exact changes_congr m.stored_linked m'.stored_linked

end ModelLinker
