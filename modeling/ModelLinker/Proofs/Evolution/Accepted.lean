import Mathlib.Data.Set.Basic
import ModelLinker.Proofs.Evolution.Allowed
import ModelLinker.Proofs.Evolution.Stored
import ModelLinker.Proofs.Linked

/-!
# Changes that stored data can follow

`Model.Accepts` says what a new model must keep of an old one: its enumerations with their values,
its structures with their columns and constraints. A comparison of two linked models reports no
error exactly if the new one keeps all that (`isOk_changes_iff`).
-/

namespace ModelLinker

open Text (fold sameName sameName_iff sameName_comm)

/-! ### what is to be kept -/

namespace TypeName

/-- The kinds of types that hold whole numbers. -/
def integers : List TypeName := [.plain .int, .plain .epoch, .plain .bit, .enum]

/-- The kinds of types that hold text. -/
def texts : List TypeName := [.plain .text, .plain .email]

/-- A column of one kind can become one of another kind. -/
def Follows (before after : TypeName) : Prop :=
  before = after ∨ (before ∈ integers ∧ after ∈ integers) ∨ (before ∈ texts ∧ after ∈ texts)

end TypeName

/-- The reference leads to a field of a structure that has this name, in small letters. -/
def Model.RefersTo (m : Model) (r : Reference) (name : String) : Prop :=
  ∃ t s, m.field? r.target = some t ∧ m.struct? t.parent = some s ∧ name = fold s.name

/-- The names of the fields of a constraint, in small letters. -/
def Unique.nameSet (u : Unique) : Set String := {n | ∃ r ∈ u.fields, n = fold r.name}

/-- The constraints of a structure, each as a set of names. -/
def Struct.uniqueFamily (s : Struct) : Set (Set String) :=
  {names | ∃ u ∈ s.uniques, names = u.nameSet}

/-- A field that is in two models has data that can be kept. -/
structure Field.Kept (old new : Model) (before after : Field) : Prop where
  kind : before.type.name.Follows after.type.name
  rowid : before.flags.rowid = after.flags.rowid
  unique : before.flags.unique = after.flags.unique
  nullable : before.flags.nullable = after.flags.nullable
  refers : before.type.isStruct = false → after.type.isStruct = false →
    (before.reference.isSome ↔ after.reference.isSome)
  reference : before.type.isStruct = false → after.type.isStruct = false →
    ∀ r r', before.reference = some r → after.reference = some r' →
      r.onUpdate = r'.onUpdate ∧ r.onDelete = r'.onDelete ∧
        ∀ name, old.RefersTo r name ↔ new.RefersTo r' name

/-- A new model keeps what the data stored for an old one needs. -/
structure Model.Accepts (old new : Model) : Prop where
  enums : ∀ e ∈ old.enums, ∃ e' ∈ new.enums, sameName e.name e'.name = true ∧
    ∀ i ∈ e.items, ∃ j ∈ e'.items, sameName i.name j.name = true ∧ i.value = j.value
  structs : ∀ id s, old.struct? id = some s →
    ∃ id' s', new.struct? id' = some s' ∧ sameName s.name s'.name = true
  columns : ∀ id id' s s', old.struct? id = some s → new.struct? id' = some s' →
    sameName s.name s'.name = true → ∀ e ∈ old.fieldsOf id, e.2.type.isStruct = false →
      ∃ e' ∈ new.fieldsOf id', sameName e.2.name e'.2.name = true
  fields : ∀ id id' s s', old.struct? id = some s → new.struct? id' = some s' →
    sameName s.name s'.name = true → ∀ e ∈ old.fieldsOf id, ∀ e' ∈ new.fieldsOf id',
      sameName e.2.name e'.2.name = true → e.2.Kept old new e'.2
  uniques : ∀ id id' s s', old.struct? id = some s → new.struct? id' = some s' →
    sameName s.name s'.name = true → s.uniqueFamily = s'.uniqueFamily

/-! ### changes that keep data -/

/-- A change that is only warned of. -/
def Change.Harmless (c : Change) : Prop := c.severity = .warning

instance : DecidablePred Change.Harmless := fun c =>
  inferInstanceAs (Decidable (c.severity = .warning))

theorem isIntegerAlias_iff {t : FieldType} :
    t.isIntegerAlias = true ↔ t.name ∈ TypeName.integers := by
  cases t with
  | plain p => cases p <;> simp [FieldType.isIntegerAlias, FieldType.name, TypeName.integers]
  | _ => simp [FieldType.isIntegerAlias, FieldType.name, TypeName.integers]

theorem isTextual_iff {t : FieldType} : t.isTextual = true ↔ t.name ∈ TypeName.texts := by
  cases t with
  | plain p => cases p <;> simp [FieldType.isTextual, FieldType.name, TypeName.texts]
  | _ => simp [FieldType.isTextual, FieldType.name, TypeName.texts]

theorem harmless_typeChange {before after : FieldType} :
    (typeChange before after).Harmless ↔
      (before.name ∈ TypeName.integers ∧ after.name ∈ TypeName.integers) ∨
        (before.name ∈ TypeName.texts ∧ after.name ∈ TypeName.texts) := by
  simp only [← isIntegerAlias_iff, ← isTextual_iff, typeChange]
  cases before.isIntegerAlias <;> cases after.isIntegerAlias <;> cases before.isTextual <;>
    cases after.isTextual <;> simp [Change.Harmless, Change.severity]

section Iff

variable {old new : Model}

theorem refersTo_iff {m : Model} {r : Reference} {name : String} :
    m.RefersTo r name ↔ (m.referredStruct r).map fold = some name := by
  simp only [Model.RefersTo, Model.referredStruct, Option.map_eq_some_iff,
    Option.bind_eq_some_iff]
  grind

theorem sameTarget_iff {r r' : Reference} :
    (old.referredStruct r).map fold = (new.referredStruct r').map fold ↔
      ∀ name, old.RefersTo r name ↔ new.RefersTo r' name := by
  simp only [refersTo_iff]
  exact Option.ext_iff

theorem evolves_iff_kept {before after : Field} :
    before.Evolves Change.Harmless old new after ↔ before.Kept old new after := by
  have hmarks : sameAttributes before.flags after.flags = true ↔
      before.flags.rowid = after.flags.rowid ∧ before.flags.unique = after.flags.unique ∧
        before.flags.nullable = after.flags.nullable := by
    simp [sameAttributes, and_assoc]
  constructor
  · rintro ⟨htype, hm, hr, hrr⟩
    obtain ⟨hrowid, hunique, hnull⟩ := hmarks.1 (hm.resolve_right (by decide))
    refine ⟨htype.imp_right harmless_typeChange.1, hrowid, hunique, hnull, ?_, ?_⟩
    · intro hs hs'
      rw [(hr hs hs').resolve_right (by decide)]
    · intro hs hs' r r' h h'
      obtain ⟨hd, hu, ht⟩ := hrr hs hs' r r' h h'
      exact ⟨hu.resolve_right (by decide), hd.resolve_right (by decide),
        sameTarget_iff.1 (ht.resolve_right (by decide))⟩
  · rintro ⟨htype, hrowid, hunique, hnull, hr, hrr⟩
    refine ⟨htype.imp_right harmless_typeChange.2, .inl (hmarks.2 ⟨hrowid, hunique, hnull⟩),
      ?_, ?_⟩
    · intro hs hs'
      exact .inl (Bool.eq_iff_iff.2 (hr hs hs'))
    · intro hs hs' r r' h h'
      obtain ⟨hu, hd, ht⟩ := hrr hs hs' r r' h h'
      exact ⟨.inl hd, .inl hu, .inl (sameTarget_iff.2 ht)⟩

/-- The lists of names that a comparison works with are the same exactly if the sets are. -/
theorem sameNames_iff (h : old.Comparable) (h' : new.Comparable) {id id' : StructId}
    {s s' : Struct} (hs : old.struct? id = some s) (hs' : new.struct? id' = some s') {u v : Unique}
    (hu : u ∈ s.uniques) (hv : v ∈ s'.uniques) :
    sameNames (u.names old) (v.names new) = true ↔ u.nameSet = v.nameSet := by
  have hlists : ∀ a b : List String, sameNames a b = true ↔ ∀ n, n ∈ a ↔ n ∈ b := by
    intro a b
    simp only [sameNames, Bool.and_eq_true, List.all_eq_true, List.contains_iff_mem]
    exact ⟨fun hab n => ⟨hab.1 n, hab.2 n⟩, fun hab => ⟨fun n => (hab n).1, fun n => (hab n).2⟩⟩
  have hnames : ∀ (u : Unique) n, n ∈ u.fields.map (fun r => fold r.name) ↔ n ∈ u.nameSet := by
    intro u n
    rw [List.mem_map]
    exact exists_congr fun r => and_congr_right fun _ => eq_comm
  rw [hlists, h.uniques hs u hu, h'.uniques hs' v hv]
  simp only [hnames]
  exact Set.ext_iff.symm

/-- The constraints of two structures are reported to be the same exactly if they are the same sets
of names. -/
theorem uniqueFamily_eq_iff (h : old.Comparable) (h' : new.Comparable) {id id' : StructId}
    {s s' : Struct} (hs : old.struct? id = some s) (hs' : new.struct? id' = some s') :
    ((∀ v ∈ s'.uniques, ∃ u ∈ s.uniques, sameNames (u.names old) (v.names new) = true) ∧
      ∀ u ∈ s.uniques, ∃ v ∈ s'.uniques, sameNames (v.names new) (u.names old) = true) ↔
      s.uniqueFamily = s'.uniqueFamily := by
  have hleft : (∀ v ∈ s'.uniques, ∃ u ∈ s.uniques,
      sameNames (u.names old) (v.names new) = true) ↔ s'.uniqueFamily ⊆ s.uniqueFamily := by
    constructor
    · rintro hall _ ⟨v, hv, rfl⟩
      obtain ⟨u, hu, hsame⟩ := hall v hv
      exact ⟨u, hu, ((sameNames_iff h h' hs hs' hu hv).1 hsame).symm⟩
    · intro hsub v hv
      obtain ⟨u, hu, heq⟩ := hsub ⟨v, hv, rfl⟩
      exact ⟨u, hu, (sameNames_iff h h' hs hs' hu hv).2 heq.symm⟩
  have hright : (∀ u ∈ s.uniques, ∃ v ∈ s'.uniques,
      sameNames (v.names new) (u.names old) = true) ↔ s.uniqueFamily ⊆ s'.uniqueFamily := by
    constructor
    · rintro hall _ ⟨u, hu, rfl⟩
      obtain ⟨v, hv, hsame⟩ := hall u hu
      exact ⟨v, hv, ((sameNames_iff h' h hs' hs hv hu).1 hsame).symm⟩
    · intro hsub u hu
      obtain ⟨v, hv, heq⟩ := hsub ⟨u, hu, rfl⟩
      exact ⟨v, hv, (sameNames_iff h' h hs' hs hv hu).2 heq.symm⟩
  rw [hleft, hright, and_comm]
  exact Set.Subset.antisymm_iff.symm

/-- If the only changes are ones that are warned of, all data is kept. -/
theorem accepts_of_evolves (h : old.Comparable) (h' : new.Comparable)
    (he : old.Evolves Change.Harmless new) : old.Accepts new := by
  refine ⟨?_, ?_, ?_, ?_, ?_⟩
  · intro e hmem
    obtain ⟨e', hmem', hn⟩ := (he.lostEnums e hmem).resolve_right (by decide)
    have hitems := he.enums e hmem e' hmem' hn
    refine ⟨e', hmem', hn, fun i hi => ?_⟩
    obtain ⟨j, hj, hij⟩ := (hitems.lost i hi).resolve_right (by decide)
    exact ⟨j, hj, hij, (hitems.values i hi j hj hij).resolve_right (by decide)⟩
  · intro id s hs
    exact (he.lostStructs id s hs).resolve_right (by decide)
  · intro id id' s s' hs hs' hn e hmem hplain
    refine ((he.structs id id' s s' hs hs' hn).lost e hmem).resolve_right ?_
    rw [hplain]
    decide
  · intro id id' s s' hs hs' hn e hmem e' hmem' hsame
    exact evolves_iff_kept.1 ((he.structs id id' s s' hs hs' hn).fields e hmem e' hmem' hsame)
  · intro id id' s s' hs hs' hn
    have hstruct := he.structs id id' s s' hs hs' hn
    exact (uniqueFamily_eq_iff h h' hs hs').1
      ⟨fun v hv => (hstruct.newUniques v hv).resolve_right (by decide),
        fun u hu => (hstruct.lostUniques u hu).resolve_right (by decide)⟩

/-- If all data is kept, the only changes are ones that are warned of. What is found in the new
model under a name is what the old part has become, because there is no other part of that name. -/
theorem evolves_of_accepts (h : old.Comparable) (h' : new.Comparable) (ha : old.Accepts new) :
    old.Evolves Change.Harmless new where
  newEnums _ _ := .inr (by decide)
  enums e he e' he' hn := by
    obtain ⟨e'', he'', hn', hitems⟩ := ha.enums e he
    obtain rfl : e'' = e' :=
      h'.enums he'' he' (Text.sameName_trans (sameName_comm e.name _ ▸ hn') hn)
    refine ⟨fun _ _ => .inr (by decide), fun i hi j hj hij => ?_, fun i hi => ?_⟩
    · obtain ⟨j', hj', hij', hvalue⟩ := hitems i hi
      obtain rfl : j' = j :=
        h'.items he' hj' hj (Text.sameName_trans (sameName_comm i.name _ ▸ hij') hij)
      exact .inl hvalue
    · obtain ⟨j, hj, hij, -⟩ := hitems i hi
      exact .inl ⟨j, hj, hij⟩
  lostEnums e he := by
    obtain ⟨e', he', hn, -⟩ := ha.enums e he
    exact .inl ⟨e', he', hn⟩
  lostStructs id s hs := .inl (ha.structs id s hs)
  structs id id' s s' hs hs' hn := by
    obtain ⟨hnew, hold⟩ := (uniqueFamily_eq_iff h h' hs hs').2 (ha.uniques id id' s s' hs hs' hn)
    refine ⟨fun _ _ _ => .inr (by decide), fun e he => ?_, fun e he e' he' hsame => ?_,
      fun v hv => .inl (hnew v hv), fun u hu => .inl (hold u hu)⟩
    · cases hplain : e.2.type.isStruct with
      | true => exact .inr (by decide)
      | false => exact .inl (ha.columns id id' s s' hs hs' hn e he hplain)
    · exact evolves_iff_kept.2 (ha.fields id id' s s' hs hs' hn e he e' he' hsame)

end Iff

/-! ### the comparison of linked models -/

/-- A comparison without errors is one that warns of all it reports. -/
theorem isOk_changes {old new : Linked} (h : old.model.Comparable) (h' : new.model.Comparable) :
    Diagnostics.isOk (changes old new) = true ↔
      old.model.Evolves Change.Harmless new.model := by
  have hall : Diagnostics.Only (fun _ => True) (changes old new) :=
    (only_changes h h').2 (Model.evolves_of_all (fun _ => trivial) _ _)
  rw [Diagnostics.isOk_iff_only hall, ← only_changes h h']
  rfl

/-- The references of documents that link lead to structures. -/
theorem refersTo_of_linkSources {set : SourceSet} (hset : set.Reached) {l : Linked}
    (h : linkSources set = .ok l) {id : FieldId} {f : Field} {r : Reference}
    (hf : l.model.field? id = some f) (hr : f.reference = some r) :
    ∃ name, l.model.RefersTo r name := by
  obtain ⟨-, hrefs, howned⟩ := sound_of_linkSources hset h
  have hkey : ∃ t, l.model.field? r.target = some t := by
    cases hs : f.type.isStruct with
    | false =>
      obtain ⟨hsome, hkeys⟩ := hrefs.plain hf hs
      obtain ⟨k, hk⟩ := Option.isSome_iff_exists.1 (hsome.1 (by simp [hr]))
      obtain ⟨r', t, hok⟩ := hkeys k hk
      obtain rfl : r = r' := Option.some.inj (hr.symm.trans hok.reference)
      exact ⟨t, hok.found⟩
    | true =>
      obtain ⟨x, hx⟩ := FieldType.exists_of_isStruct hs
      obtain ⟨-, _, _, _, r', t, hsource⟩ := hrefs.struct hf hx
      obtain rfl : r = r' :=
        Option.some.inj (hr.symm.trans (hsource.shared.trans hsource.key.reference))
      exact ⟨t, hsource.key.found⟩
  obtain ⟨t, ht⟩ := hkey
  obtain ⟨s, hs, -⟩ := howned.owner ht
  exact ⟨_, t, s, ht, hs, rfl⟩

/-- From one linked model to another a comparison reports no error exactly if the new model keeps
what stored data needs. References of documents all lead to structures, so that those of two
documents have the same target exactly if the names of these are the same. -/
theorem isOk_changes_iff :
    (∀ seed seed' m m' old new, linkWith seed m = .ok old → linkWith seed' m' = .ok new →
      (Diagnostics.isOk (changes old new) = true ↔ old.model.Accepts new.model)) ∧
    ∀ set l, SourceSet.Reached set → linkSources set = .ok l → ∀ id f r,
      l.model.field? id = some f → f.reference = some r → ∃ name, l.model.RefersTo r name := by
  refine ⟨?_, fun set l hset h id f r => refersTo_of_linkSources hset h⟩
  intro seed seed' m m' old new h h'
  have hold := comparable_of_linkWith h
  have hnew := comparable_of_linkWith h'
  rw [isOk_changes hold hnew]
  exact ⟨accepts_of_evolves hold hnew, evolves_of_accepts hold hnew⟩

/-- The firm with an address for its name and one rank more. -/
def grownFirm : Decl.Document :=
  { firmDocument with
    structs := firmDocument.structs.map fun s =>
      { s with fields := s.fields.map fun f =>
          if f.name = "name" then { f with type := .plain .email } else f }
    enums := firmDocument.enums.map fun e =>
      { e with items := e.items ++ [⟨"chief", none, none, none⟩] } }

/-- The employees with the firm as it is later. -/
def grownSet : SourceSet := .ofDocuments [("staff", staffDocument), ("firm", grownFirm)]

theorem grownSet_links : ∃ l, linkSources grownSet = .ok l := by
  have hfaultless : grownSet.FaultlessBy (1 - ·.index) := by
    simp only [SourceSet.FaultlessBy, Model.bindingProblems, Model.marked, Model.topology,
      Model.joined, Model.bound, Model.resolved, Namespace.ofModel_eq_scan]
    decide +kernel
  exact hfaultless.links

/-- Stored data can follow the firm as it grows, but not back. -/
theorem isOk_changes_grownSet :
    ∃ old new, linkSources staffSet = .ok old ∧ linkSources grownSet = .ok new ∧
      old.model.Accepts new.model ∧ ¬ new.model.Accepts old.model ∧
      ∃ id f r name, old.model.field? id = some f ∧ f.reference = some r ∧
        old.model.RefersTo r name := by
  obtain ⟨old, hold, -⟩ := staffSet_links
  obtain ⟨new, hnew⟩ := grownSet_links
  obtain ⟨hiff, hrefers⟩ := isOk_changes_iff
  have hforth : Diagnostics.isOk (changes old new) = true := by
    rw [changes_bound hold hnew]
    simp only [Model.bound, Model.resolved, Namespace.ofModel_eq_scan]
    decide +kernel
  have hback : Diagnostics.isOk (changes new old) = false := by
    rw [changes_bound hnew hold]
    simp only [Model.bound, Model.resolved, Namespace.ofModel_eq_scan]
    decide +kernel
  refine ⟨old, new, hold, hnew, (hiff _ _ _ _ _ _ hold hnew).1 hforth, fun h => ?_, ?_⟩
  · rw [(hiff _ _ _ _ _ _ hnew hold).2 h] at hback
    cases hback
  · obtain ⟨f, hf, r, hr, -⟩ : ∃ f ∈ staffSet.model.bound.field? ⟨1⟩, ∃ r ∈ f.reference,
        r.source = ⟨1⟩ := by
      simp only [Model.bound, Model.resolved, Namespace.ofModel_eq_scan]
      decide +kernel
    have hf : old.model.field? ⟨1⟩ = some f := by
      rw [(Model.linked_of_linkWith hold).1, Model.field?,
        (Model.sameFields_of_bound staffSet.model).fields]
      exact hf
    obtain ⟨name, hname⟩ := hrefers staffSet old staffSet_reached hold ⟨1⟩ f r hf hr
    exact ⟨⟨1⟩, f, r, name, hf, hr, hname⟩

end ModelLinker
