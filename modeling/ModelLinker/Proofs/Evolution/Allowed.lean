import ModelLinker.Proofs.Evolution.Comparable

/-!
# Allowed changes

Changes can be allowed or not, from none at all to all that keep the stored data. `Model.Evolves`
says, in terms of the parts of two models alone, that every change from one to the other is allowed.
For models that can be compared this is what the comparison reports (`only_changes`).
-/

namespace ModelLinker

open Text (fold sameName sameName_comm)

/-! ### reported changes -/

/-- The diagnostic is about an allowed change. -/
def Diagnostic.IsChange (P : Change → Prop) (d : Diagnostic) : Prop :=
  ∃ c, d.cause = .change c ∧ P c

/-- All diagnostics are about allowed changes. -/
def Diagnostics.Only (P : Change → Prop) (ds : Diagnostics) : Prop := ∀ d ∈ ds, d.IsChange P

section Reported

variable {P : Change → Prop} {c : Change} {α β : Type}

@[simp] theorem isChange_changeAt {pos : Pos} : (changeAt c pos).IsChange P ↔ P c := by
  simp [Diagnostic.IsChange, changeAt, Cause.at]

@[simp] theorem isChange_changeFrom {old new : Pos} : (changeFrom c old new).IsChange P ↔ P c := by
  simp [Diagnostic.IsChange, changeFrom]

namespace Diagnostics

variable {a b : Diagnostics}

@[simp] theorem only_nil : Only P [] := List.forall_mem_nil _

@[simp] theorem only_cons {d : Diagnostic} : Only P (d :: a) ↔ d.IsChange P ∧ Only P a :=
  List.forall_mem_cons

@[simp] theorem only_append : Only P (a ++ b) ↔ Only P a ∧ Only P b := List.forall_mem_append

@[simp] theorem only_flatMap {xs : List α} {f : α → Diagnostics} :
    Only P (xs.flatMap f) ↔ ∀ x ∈ xs, Only P (f x) := by
  simp only [Only, List.mem_flatMap]
  exact ⟨fun h x hx d hd => h d ⟨x, hx, hd⟩, fun h d ⟨x, hx, hd⟩ => h x hx d hd⟩

@[simp] theorem only_map {xs : List α} {f : α → Diagnostic} :
    Only P (xs.map f) ↔ ∀ x ∈ xs, (f x).IsChange P := List.forall_mem_map

/-- The changes that a part brings after a lookup: of one kind if nothing is found, of another if
something is. -/
theorem only_lookup {found : Option α} {Q : α → Prop} (h : ∀ x, found = some x ↔ Q x)
    {f : α → Diagnostics} (hnone : found = none → a = b) (hsome : ∀ x, found = some x → a = f x) :
    Only P a ↔ ((∃ x, Q x) ∨ Only P b) ∧ ∀ x, Q x → Only P (f x) := by
  cases hfound : found with
  | none =>
    have hno : ∀ x, ¬ Q x := fun x hx => by simpa [hfound] using (h x).2 hx
    simp [hnone hfound, hno]
  | some y =>
    have hy : ∀ x, Q x ↔ x = y := fun x => by rw [← h x, hfound, Option.some.injEq, eq_comm]
    simp [hsome y hfound, hy]

/-- One change for every part that has no counterpart. -/
theorem only_missing {xs : List α} {p : α → Bool} {Q : α → Prop} {pos : α → Pos}
    (h : ∀ x ∈ xs, p x = true ↔ ¬ Q x) :
    Only P ((xs.filter p).map fun x => changeAt c (pos x)) ↔ ∀ x ∈ xs, Q x ∨ P c := by
  simp only [only_map, isChange_changeAt, List.mem_filter, and_imp]
  refine forall₂_congr fun x hx => ?_
  rw [h x hx, or_iff_not_imp_left]

theorem only_false : Only (fun _ => False) a ↔ a = [] := by
  simp [Only, Diagnostic.IsChange, List.eq_nil_iff_forall_not_mem]

/-- Reported changes are in order if none of them is worse than a warning. -/
theorem isOk_iff_only (h : Only (fun _ => True) a) :
    a.isOk = true ↔ Only (fun c => c.severity = .warning) a := by
  rw [isOk_iff_forall]
  refine forall₂_congr fun d hd => ?_
  obtain ⟨c, hc, -⟩ := h d hd
  simp [Diagnostic.IsChange, Diagnostic.isError, Diagnostic.severity, hc]

end Diagnostics

end Reported

open Diagnostics

/-! ### what it is to evolve -/

/-- All changes from one enumeration to another are allowed. -/
structure Enumeration.Evolves (P : Change → Prop) (before after : Enumeration) : Prop where
  added : ∀ j ∈ after.items, (∃ i ∈ before.items, sameName i.name j.name = true) ∨ P .newEnumItem
  values : ∀ i ∈ before.items, ∀ j ∈ after.items, sameName i.name j.name = true →
    i.value = j.value ∨ P .enumItemValue
  lost : ∀ i ∈ before.items, (∃ j ∈ after.items, sameName i.name j.name = true) ∨ P .lostEnumItem

/-- All changes from one reference to another are allowed. -/
structure Reference.Evolves (P : Change → Prop) (old new : Model) (before after : Reference) :
    Prop where
  delete : before.onDelete = after.onDelete ∨ P .deleteAction
  update : before.onUpdate = after.onUpdate ∨ P .updateAction
  target : (old.referredStruct before).map fold = (new.referredStruct after).map fold ∨
    P .referenceTarget

/-- All changes from one field to another are allowed. -/
structure Field.Evolves (P : Change → Prop) (old new : Model) (before after : Field) : Prop where
  type : before.type.name = after.type.name ∨ P (typeChange before.type after.type)
  marks : sameAttributes before.flags after.flags = true ∨ P .attribute
  refers : before.type.isStruct = false → after.type.isStruct = false →
    before.reference.isSome = after.reference.isSome ∨ P .reference
  reference : before.type.isStruct = false → after.type.isStruct = false →
    ∀ r r', before.reference = some r → after.reference = some r' → r.Evolves P old new r'

namespace Model

/-- All changes from a structure of one model to a structure of another one are allowed. -/
structure StructEvolves (P : Change → Prop) (old new : Model) (id id' : StructId)
    (before after : Struct) : Prop where
  added : ∀ e' ∈ new.fieldsOf id', e'.2.type.isStruct = true →
    (∃ e ∈ old.fieldsOf id, sameName e.2.name e'.2.name = true) ∨ P .newStructField
  lost : ∀ e ∈ old.fieldsOf id,
    (∃ e' ∈ new.fieldsOf id', sameName e.2.name e'.2.name = true) ∨
      P (if e.2.type.isStruct then .lostStructField else .lostField)
  fields : ∀ e ∈ old.fieldsOf id, ∀ e' ∈ new.fieldsOf id',
    sameName e.2.name e'.2.name = true → e.2.Evolves P old new e'.2
  newUniques : ∀ v ∈ after.uniques,
    (∃ u ∈ before.uniques, sameNames (u.names old) (v.names new) = true) ∨ P .newUnique
  lostUniques : ∀ u ∈ before.uniques,
    (∃ v ∈ after.uniques, sameNames (v.names new) (u.names old) = true) ∨ P .lostUnique

/-- All changes from one model to another are allowed. -/
structure Evolves (P : Change → Prop) (old new : Model) : Prop where
  newEnums : ∀ e' ∈ new.enums,
    (∃ e ∈ old.enums, sameName e.name e'.name = true) ∨ P .newEnumeration
  enums : ∀ e ∈ old.enums, ∀ e' ∈ new.enums, sameName e.name e'.name = true → e.Evolves P e'
  lostEnums : ∀ e ∈ old.enums,
    (∃ e' ∈ new.enums, sameName e.name e'.name = true) ∨ P .lostEnumeration
  lostStructs : ∀ id s, old.struct? id = some s →
    (∃ id' s', new.struct? id' = some s' ∧ sameName s.name s'.name = true) ∨ P .lostStruct
  structs : ∀ id id' s s', old.struct? id = some s → new.struct? id' = some s' →
    sameName s.name s'.name = true → StructEvolves P old new id id' s s'

/-- Nothing is wrong with any change if all changes are allowed. -/
theorem evolves_of_all {P : Change → Prop} (hP : ∀ c, P c) (old new : Model) :
    Evolves P old new where
  newEnums _ _ := .inr (hP _)
  enums _ _ _ _ _ :=
    ⟨fun _ _ => .inr (hP _), fun _ _ _ _ _ => .inr (hP _), fun _ _ => .inr (hP _)⟩
  lostEnums _ _ := .inr (hP _)
  lostStructs _ _ _ := .inr (hP _)
  structs _ _ _ _ _ _ _ :=
    ⟨fun _ _ _ => .inr (hP _), fun _ _ => .inr (hP _),
      fun _ _ _ _ _ => ⟨.inr (hP _), .inr (hP _), fun _ _ => .inr (hP _),
        fun _ _ _ _ _ _ => ⟨.inr (hP _), .inr (hP _), .inr (hP _)⟩⟩,
      fun _ _ => .inr (hP _), fun _ _ => .inr (hP _)⟩

end Model

section Comparison

variable {P : Change → Prop} {old new : Model}

/-! ### enumerations -/

theorem only_itemChange (h : old.Comparable) {e : Enumeration} (he : e ∈ old.enums)
    {j : EnumItem} : Only P (itemChange e j) ↔
      ((∃ i ∈ e.items, sameName i.name j.name = true) ∨ P .newEnumItem) ∧
        ∀ i ∈ e.items, sameName i.name j.name = true → i.value = j.value ∨ P .enumItemValue := by
  rw [only_lookup (fun i => h.findItem? he) (fun hi => by rw [itemChange, hi])
    (fun i hi => by rw [itemChange, hi])]
  refine and_congr (by simp) (forall_congr' fun i => ?_)
  by_cases hv : i.value = j.value <;> simp [hv]

theorem only_lostItems (h : new.Comparable) {e' : Enumeration} (he' : e' ∈ new.enums)
    {e : Enumeration} : Only P (lostItems e e') ↔
      ∀ i ∈ e.items, (∃ j ∈ e'.items, sameName i.name j.name = true) ∨ P .lostEnumItem := by
  refine only_missing fun i _ => ?_
  rw [Option.isNone_iff_eq_none, Option.eq_none_iff_forall_ne_some]
  simp only [ne_eq, h.findItem? he', not_exists, sameName_comm i.name]

theorem only_enumerationChanges (h : old.Comparable) (h' : new.Comparable) {e' : Enumeration}
    (he' : e' ∈ new.enums) : Only P (enumerationChanges old e') ↔
      ((∃ e ∈ old.enums, sameName e.name e'.name = true) ∨ P .newEnumeration) ∧
        ∀ e ∈ old.enums, sameName e.name e'.name = true → e.Evolves P e' := by
  rw [only_lookup (fun e => h.findEnum?) (fun he => by rw [enumerationChanges, he])
    (fun e he => by rw [enumerationChanges, he])]
  refine and_congr (by simp) (forall_congr' fun e => ?_)
  rw [and_imp]
  refine forall₂_congr fun he _ => ?_
  rw [only_append, only_flatMap, only_lostItems h' he']
  simp only [only_itemChange h he]
  constructor
  · rintro ⟨hitems, hlost⟩
    exact ⟨fun j hj => (hitems j hj).1, fun i hi j hj => (hitems j hj).2 i hi, hlost⟩
  · rintro ⟨hadded, hvalues, hlost⟩
    exact ⟨fun j hj => ⟨hadded j hj, fun i hi => hvalues i hi j hj⟩, hlost⟩

theorem only_enumChanges (h : old.Comparable) (h' : new.Comparable) :
    Only P (enumChanges old new) ↔
      (∀ e' ∈ new.enums,
        (∃ e ∈ old.enums, sameName e.name e'.name = true) ∨ P .newEnumeration) ∧
      (∀ e ∈ old.enums, ∀ e' ∈ new.enums, sameName e.name e'.name = true → e.Evolves P e') ∧
      ∀ e ∈ old.enums,
        (∃ e' ∈ new.enums, sameName e.name e'.name = true) ∨ P .lostEnumeration := by
  have hlost : Only P ((old.enums.toList.filter fun e => (new.findEnum? e.name).isNone).map
      fun e => changeAt .lostEnumeration e.pos) ↔ ∀ e ∈ old.enums.toList,
        (∃ e' ∈ new.enums, sameName e.name e'.name = true) ∨ P .lostEnumeration := by
    refine only_missing fun e _ => ?_
    rw [Option.isNone_iff_eq_none, Option.eq_none_iff_forall_ne_some]
    simp only [ne_eq, h'.findEnum?, not_exists, sameName_comm e.name]
  rw [enumChanges, only_append, only_flatMap, hlost]
  simp only [Array.mem_toList_iff]
  constructor
  · rintro ⟨hnew, hlost⟩
    have hnew := fun e' he' => (only_enumerationChanges h h' he').1 (hnew e' he')
    exact ⟨fun e' he' => (hnew e' he').1, fun e he e' he' => (hnew e' he').2 e he, hlost⟩
  · rintro ⟨hnew, henums, hlost⟩
    exact ⟨fun e' he' => (only_enumerationChanges h h' he').2
      ⟨hnew e' he', fun e he => henums e he e' he'⟩, hlost⟩

/-! ### fields -/

theorem forall_mem_if {α : Type} {p : Prop} [Decidable p] {c : α} {Q : α → Prop} :
    (∀ x ∈ (if p then [c] else []), Q x) ↔ (¬ p ∨ Q c) := by
  by_cases h : p <;> simp [h]

/-- The changes of a reference, if both fields have one or neither has. -/
theorem forall_mem_referenceChanges {before after : Option Reference} :
    (∀ c ∈ referenceChanges old new before after, P c) ↔
      (before.isSome = after.isSome ∨ P .reference) ∧
        ∀ r r', before = some r → after = some r' → r.Evolves P old new r' := by
  cases before with
  | none => cases after <;> simp [referenceChanges]
  | some r =>
    cases after with
    | none => simp [referenceChanges]
    | some r' =>
      simp only [referenceChanges, List.forall_mem_append, forall_mem_if, Decidable.not_not,
        Option.isSome_some, Option.some.injEq, true_or, true_and]
      constructor
      · rintro ⟨⟨hdelete, hupdate⟩, htarget⟩ _ _ rfl rfl
        exact ⟨hdelete, hupdate, htarget⟩
      · intro h
        obtain ⟨hdelete, hupdate, htarget⟩ := h r r' rfl rfl
        exact ⟨⟨hdelete, hupdate⟩, htarget⟩

theorem forall_mem_fieldChanges {before after : Field} :
    (∀ c ∈ fieldChanges old new before after, P c) ↔ before.Evolves P old new after := by
  have hmarks : (∀ c ∈ (if sameAttributes before.flags after.flags then [] else [.attribute]),
      P c) ↔ (sameAttributes before.flags after.flags = true ∨ P .attribute) := by
    cases sameAttributes before.flags after.flags <;> simp
  have hreference : (∀ c ∈ (if before.type.isStruct || after.type.isStruct then []
        else referenceChanges old new before.reference after.reference), P c) ↔
      (before.type.isStruct = false → after.type.isStruct = false →
        (before.reference.isSome = after.reference.isSome ∨ P .reference) ∧
        ∀ r r', before.reference = some r → after.reference = some r' →
          r.Evolves P old new r') := by
    rw [← forall_mem_referenceChanges]
    cases before.type.isStruct <;> cases after.type.isStruct <;> simp
  simp only [fieldChanges, List.forall_mem_append, forall_mem_if, hmarks, hreference,
    Decidable.not_not]
  constructor
  · rintro ⟨⟨htype, hmarks⟩, hreference⟩
    exact ⟨htype, hmarks, fun hs hs' => (hreference hs hs').1, fun hs hs' => (hreference hs hs').2⟩
  · rintro ⟨htype, hmarks, hrefers, hreference⟩
    exact ⟨⟨htype, hmarks⟩, fun hs hs' => ⟨hrefers hs hs', hreference hs hs'⟩⟩

theorem only_oldFieldChanges (h : new.Comparable) {id' : StructId} {before : Field} :
    Only P (oldFieldChanges old new id' before) ↔
      ((∃ e' ∈ new.fieldsOf id', sameName before.name e'.2.name = true) ∨
        P (if before.type.isStruct then .lostStructField else .lostField)) ∧
      ∀ e' ∈ new.fieldsOf id', sameName before.name e'.2.name = true →
        before.Evolves P old new e'.2 := by
  rw [only_lookup (fun f => h.fieldNamed?) (fun hf => by rw [oldFieldChanges, hf])
    (fun f hf => by rw [oldFieldChanges, hf])]
  simp only [only_cons, only_nil, and_true, isChange_changeAt, only_map, isChange_changeFrom,
    forall_mem_fieldChanges, sameName_comm before.name, Prod.forall, Prod.exists]
  grind

theorem only_structFieldChanges (h' : new.Comparable) {id id' : StructId} :
    Only P (structFieldChanges old new id id') ↔
      (∀ e' ∈ new.fieldsOf id', e'.2.type.isStruct = true →
        (∃ e ∈ old.fieldsOf id, sameName e.2.name e'.2.name = true) ∨ P .newStructField) ∧
      (∀ e ∈ old.fieldsOf id,
        (∃ e' ∈ new.fieldsOf id', sameName e.2.name e'.2.name = true) ∨
          P (if e.2.type.isStruct then .lostStructField else .lostField)) ∧
      ∀ e ∈ old.fieldsOf id, ∀ e' ∈ new.fieldsOf id',
        sameName e.2.name e'.2.name = true → e.2.Evolves P old new e'.2 := by
  have hadded : Only P (((new.fieldsOf id').filter fun e =>
      e.2.type.isStruct && (old.findField? id e.2.name).isNone).map
        fun e => changeAt .newStructField e.2.pos) ↔ ∀ e' ∈ new.fieldsOf id',
      (e'.2.type.isStruct = true → ∃ e ∈ old.fieldsOf id, sameName e.2.name e'.2.name = true) ∨
        P .newStructField := by
    refine only_missing fun e' _ => ?_
    rw [Bool.and_eq_true, Model.isNone_findField?, Classical.not_imp]
  rw [structFieldChanges, only_append, only_flatMap, hadded]
  simp only [only_oldFieldChanges h']
  grind

/-! ### models -/

theorem only_uniqueChanges {before after : Struct} :
    Only P (uniqueChanges old new before after) ↔
      (∀ v ∈ after.uniques,
        (∃ u ∈ before.uniques, sameNames (u.names old) (v.names new) = true) ∨ P .newUnique) ∧
      ∀ u ∈ before.uniques,
        (∃ v ∈ after.uniques, sameNames (v.names new) (u.names old) = true) ∨ P .lostUnique := by
  have hwithout : ∀ {m other : Model} {s t : Struct} {c : Change},
      Only P ((uniquesWithout m other s t).map fun u => changeAt c u.pos) ↔ ∀ u ∈ s.uniques,
        (∃ v ∈ t.uniques, sameNames (v.names other) (u.names m) = true) ∨ P c := by
    intro m other s t c
    refine only_missing fun u _ => ?_
    simp
  rw [uniqueChanges, only_append, hwithout, hwithout]

theorem only_structChanges (h' : new.Comparable) {id : StructId} {s : Struct} :
    Only P (structChanges old new id s) ↔
      ((∃ id' s', new.struct? id' = some s' ∧ sameName s.name s'.name = true) ∨ P .lostStruct) ∧
      ∀ id' s', new.struct? id' = some s' → sameName s.name s'.name = true →
        Model.StructEvolves P old new id id' s s' := by
  have hfind : ∀ x : StructId × Struct,
      ((new.findStruct? s.name).bind fun i => (new.struct? i).map fun y => (i, y)) = some x ↔
        new.struct? x.1 = some x.2 ∧ sameName s.name x.2.name = true := by
    rintro ⟨id', s'⟩
    simp only [Option.bind_eq_some_iff, Option.map_eq_some_iff, h'.findStruct?,
      sameName_comm s.name]
    grind
  rw [only_lookup hfind (fun hx => by rw [structChanges, hx])
    (fun x hx => by rw [structChanges, hx])]
  refine and_congr (by simp) ?_
  rw [Prod.forall]
  refine forall₂_congr fun id' s' => ?_
  rw [and_imp]
  refine forall₂_congr fun _ _ => ?_
  rw [only_append, only_structFieldChanges h', only_uniqueChanges]
  constructor
  · rintro ⟨⟨hadded, hlost, hfields⟩, hnew, hold⟩
    exact ⟨hadded, hlost, hfields, hnew, hold⟩
  · rintro ⟨hadded, hlost, hfields, hnew, hold⟩
    exact ⟨⟨hadded, hlost, hfields⟩, hnew, hold⟩

end Comparison

/-- A comparison reports only allowed changes exactly if all changes are allowed. -/
theorem only_changes {P : Change → Prop} {old new : Linked} (h : old.model.Comparable)
    (h' : new.model.Comparable) :
    Only P (changes old new) ↔ old.model.Evolves P new.model := by
  rw [changes, only_append, only_flatMap, only_enumChanges h h']
  simp only [only_structChanges h', Prod.forall, Model.mem_indexedStructs]
  constructor
  · rintro ⟨⟨hnew, henums, hlost⟩, hstructs⟩
    exact ⟨hnew, henums, hlost, fun id s hs => (hstructs id s hs).1,
      fun id id' s s' hs hs' => (hstructs id s hs).2 id' s' hs'⟩
  · rintro ⟨hnew, henums, hlost, hkept, hstructs⟩
    exact ⟨⟨hnew, henums, hlost⟩,
      fun id s hs => ⟨hkept id s hs, fun id' s' => hstructs id id' s s' hs⟩⟩

end ModelLinker
