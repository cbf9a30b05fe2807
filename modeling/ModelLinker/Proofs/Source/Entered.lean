import Mathlib.Data.List.Basic
import Mathlib.Data.List.Induction
import ModelLinker.Proofs.Declared
import ModelLinker.Proofs.Source.Sound

/-!
# What documents put into a model

The model of some documents is known item by item: enumerations, bit fields and roles in the order
of their declarations (`SourceSet.holds_ofDocuments`), every structure with the fields that could be
made of its declarations (`Draft.Lists`). Only the places of parts depend on what was entered
before.
-/

namespace ModelLinker

/-- A structure without its fields. -/
def Struct.body (s : Struct) : Struct := { s with fields := [] }

/-! ### fields entered -/

namespace Model

variable {m : Model}

theorem fieldsOf_addField (h : m.Owned) {f : Field} (hp : f.parent ∈ m.structIds)
    (sid : StructId) :
    (m.addField f).1.fieldsOf sid =
      m.fieldsOf sid ++ if sid = f.parent then [(⟨m.fields.size⟩, f)] else [] := by
  unfold fieldsOf
  rw [struct?_addField]
  cases hs : m.struct? sid with
  | none =>
    have hne : sid ≠ f.parent := by
      rintro rfl
      rw [struct?, Array.getElem?_eq_none_iff] at hs
      exact absurd (mem_structIds.1 hp) (Nat.not_lt.2 hs)
    simp [hne]
  | some s =>
    have hold : s.fields.filterMap (fun id => ((m.addField f).1.field? id).map fun g => (id, g)) =
        s.fields.filterMap fun id => (m.field? id).map fun g => (id, g) := by
      refine List.filterMap_congr fun id hid => ?_
      obtain ⟨g, hg, -⟩ := h.own hs id hid
      rw [field?_addField, if_neg (ne_of_field? hg)]
    have hnew : (m.addField f).1.field? ⟨m.fields.size⟩ = some f := by simp [field?_addField]
    by_cases hsid : sid = f.parent
    · simp only [Option.map_some, if_pos hsid, List.filterMap_append, hold]
      simp only [List.filterMap_cons, List.filterMap_nil, hnew, Option.map_some]
    · simp only [Option.map_some, if_neg hsid, List.append_nil, hold]

theorem fieldsOf_addStruct {s : Struct} (hs : s.fields = []) (sid : StructId) :
    (m.addStruct s).1.fieldsOf sid = m.fieldsOf sid := by
  unfold fieldsOf
  rw [struct?_addStruct]
  by_cases hsid : sid.index = m.structs.size
  · have hnone : m.struct? sid = none := by simp [struct?, hsid]
    simp [hnone, hs, hsid]
  · rw [if_neg hsid]
    rfl

end Model

namespace Source

variable {file : String}

/-- What is wrong with the declaration of a field does not depend on its structure. -/
theorem field_problems (p q : StructId) (d : Decl.Field) :
    (field file p d).2 = (field file q d).2 := by
  unfold field
  cases h : fieldType d (posIn file d.place) <;> simp only [h]

/-- What is wrong with the declaration of a structure. -/
def structProblems (file : String) (d : Decl.Struct) : Diagnostics :=
  d.fields.flatMap (fun f => (field file ⟨0⟩ f).2) ++ (structBody file d).2

/-- What is wrong with the declarations of a document. -/
def documentProblems (file : String) (d : Decl.Document) : Diagnostics :=
  (roles file none d.roles).2 ++ d.structs.flatMap (structProblems file)

end Source

namespace Draft

variable {d : Draft} {file : String}

section Fields

variable {parent : StructId} {x : Decl.Field}

theorem addField_none (h : (Source.field file parent x).1 = none) :
    d.addField file parent x =
      { d with diagnostics := d.diagnostics ++ (Source.field file parent x).2 } := by
  simp only [addField, h]

theorem addField_some {f : Field} (h : (Source.field file parent x).1 = some f) :
    d.addField file parent x =
      ⟨(d.model.addField f).1, d.diagnostics ++ (Source.field file parent x).2⟩ := by
  simp only [addField, h]

theorem fieldsOf_addFields (h : d.Sound) (hp : parent.index < d.model.structs.size)
    (decls : List Decl.Field) (sid : StructId) :
    ((decls.foldl (addField file parent) d).model.fieldsOf sid).map (·.2) =
      (d.model.fieldsOf sid).map (·.2) ++
        if sid = parent then decls.filterMap fun x => (Source.field file parent x).1 else [] := by
  induction decls generalizing d with
  | nil => simp
  | cons x rest ih =>
    rw [List.foldl_cons, ih (h.addField hp x) (by rw [addField_structs_size]; exact hp)]
    cases hf : (Source.field file parent x).1 with
    | none => simp [addField_none hf, hf]
    | some f =>
      obtain ⟨rfl, -⟩ := Source.field_some hf
      rw [addField_some hf, Model.fieldsOf_addField h.owned (Model.mem_structIds.2 hp)]
      split <;> simp [hf]

/-- What entering fields leaves alone, and what it finds wrong. -/
theorem addFields_others (decls : List Decl.Field) :
    (decls.foldl (addField file parent) d).model.structs.map Struct.body =
        d.model.structs.map Struct.body ∧
      (decls.foldl (addField file parent) d).model.enums = d.model.enums ∧
      (decls.foldl (addField file parent) d).model.bitfields = d.model.bitfields ∧
      (decls.foldl (addField file parent) d).model.roles = d.model.roles ∧
      (decls.foldl (addField file parent) d).diagnostics =
        d.diagnostics ++ decls.flatMap fun x => (Source.field file ⟨0⟩ x).2 := by
  induction decls generalizing d with
  | nil => simp
  | cons x rest ih =>
    obtain ⟨hs, he, hb, hr, hd⟩ := @ih (d.addField file parent x)
    rw [List.foldl_cons, hs, he, hb, hr, hd, List.flatMap_cons, ← List.append_assoc,
      Source.field_problems ⟨0⟩ parent]
    cases hf : (Source.field file parent x).1 with
    | none =>
      rw [addField_none hf]
      exact ⟨rfl, rfl, rfl, rfl, rfl⟩
    | some f =>
      rw [addField_some hf]
      refine ⟨?_, rfl, rfl, rfl, rfl⟩
      simp only [Model.addField]
      rw [map_modify_of_eq]
      exact fun _ => rfl

end Fields

/-! ### structures entered -/

/-- The structures of a draft are those of some declarations, one after another. -/
structure Lists (d : Draft) (decls : List (String × Decl.Struct)) : Prop where
  bodies : d.model.structs.map Struct.body =
    (decls.map fun x => (Source.structBody x.1 x.2).1).toArray
  fields : ∀ {k x}, decls[k]? = some x → (d.model.fieldsOf ⟨k⟩).map (·.2) =
    x.2.fields.filterMap fun f => (Source.field x.1 ⟨k⟩ f).1

variable {decls : List (String × Decl.Struct)}

theorem Lists.size (h : d.Lists decls) : d.model.structs.size = decls.length := by
  have := congrArg Array.size h.bodies
  simpa using this

/-- A structure and its declaration. -/
theorem Lists.struct? (h : d.Lists decls) {id : StructId} {s : Struct}
    (hs : d.model.struct? id = some s) :
    ∃ x, decls[id.index]? = some x ∧ s.body = (Source.structBody x.1 x.2).1 := by
  have hview := congrArg (·[id.index]?) h.bodies
  simp only [Array.getElem?_map, List.getElem?_toArray, List.getElem?_map] at hview
  rw [show d.model.structs[id.index]? = some s from hs, Option.map_some] at hview
  obtain ⟨x, hx, hbody⟩ := Option.map_eq_some_iff.1 hview.symm
  exact ⟨x, hx, hbody.symm⟩

theorem Lists.congr (h : d.Lists decls) {d' : Draft} (hs : d'.model.structs = d.model.structs)
    (hf : d'.model.fields = d.model.fields) : d'.Lists decls where
  bodies := hs ▸ h.bodies
  fields {k x} hx := by
    have hsame : d'.model.fieldsOf ⟨k⟩ = d.model.fieldsOf ⟨k⟩ := by
      simp only [Model.fieldsOf, Model.struct?, Model.field?, hs, hf]
    rw [hsame]
    exact h.fields hx

theorem Lists.addStruct (hsound : d.Sound) (h : d.Lists decls) (file : String)
    (decl : Decl.Struct) :
    (d.addStruct file decl).Lists (decls ++ [(file, decl)]) := by
  have hbody : (Source.structBody file decl).1.fields = [] := rfl
  have hp : d.model.structs.size < (d.addBody file decl).model.structs.size := by
    simp [addBody, Model.addStruct]
  have hfields := fun sid =>
    @fieldsOf_addFields _ file ⟨d.model.structs.size⟩ (hsound.addBody decl) hp decl.fields sid
  obtain ⟨hbodies, -⟩ :=
    @addFields_others (d.addBody file decl) file ⟨d.model.structs.size⟩ decl.fields
  rw [addStruct_eq]
  constructor
  · refine hbodies.trans ?_
    simp only [addBody, Model.addStruct, Array.map_push, h.bodies, List.map_append, List.map_cons,
      List.map_nil, List.push_toArray]
    rfl
  · intro k x hx
    refine (hfields ⟨k⟩).trans ?_
    simp only [addBody, Model.fieldsOf_addStruct hbody, h.size, StructId.mk.injEq]
    rcases Nat.lt_trichotomy k decls.length with hlt | rfl | hgt
    · rw [List.getElem?_append_left hlt] at hx
      rw [if_neg (Nat.ne_of_lt hlt), List.append_nil]
      exact h.fields hx
    · have hnot : (⟨decls.length⟩ : StructId) ∉ d.model.structIds := by
        simp [Model.mem_structIds, h.size]
      simp only [List.getElem?_concat_length, Option.some.injEq] at hx
      subst hx
      simp [Model.fieldsOf_of_not_mem hnot]
    · rw [List.getElem?_eq_none (by simpa using Nat.succ_le_of_lt hgt)] at hx
      cases hx

theorem Lists.addStructs (hsound : d.Sound) (h : d.Lists decls) (file : String)
    (ds : List Decl.Struct) :
    (ds.foldl (Draft.addStruct file) d).Lists (decls ++ ds.map fun s => (file, s)) := by
  induction ds generalizing d decls with
  | nil => simpa using h
  | cons s rest ih =>
    simpa using ih (hsound.addStruct s) (h.addStruct hsound file s)

/-- What entering structures leaves alone, and what it finds wrong. -/
theorem addStructs_others (ds : List Decl.Struct) :
    (ds.foldl (addStruct file) d).model.enums = d.model.enums ∧
      (ds.foldl (addStruct file) d).model.bitfields = d.model.bitfields ∧
      (ds.foldl (addStruct file) d).model.roles = d.model.roles ∧
      (ds.foldl (addStruct file) d).diagnostics =
        d.diagnostics ++ ds.flatMap (Source.structProblems file) := by
  induction ds generalizing d with
  | nil => simp
  | cons s rest ih =>
    obtain ⟨he, hb, hr, hd⟩ := @ih (d.addStruct file s)
    rw [List.foldl_cons, he, hb, hr, hd, addStruct_eq]
    obtain ⟨-, he, hb, hr, hd⟩ :=
      @addFields_others (d.addBody file s) file ⟨d.model.structs.size⟩ s.fields
    refine ⟨he, hb, hr, ?_⟩
    simp only [hd, List.flatMap_cons, Source.structProblems, List.append_assoc]
    rfl

/-! ### documents entered -/

/-- The structures that some documents declare, each with the name of its document. -/
def declared (docs : List (String × Decl.Document)) : List (String × Decl.Struct) :=
  docs.flatMap fun x => x.2.structs.map fun s => (x.1, s)

/-- A draft holds what some documents declare. -/
structure Holds (d : Draft) (docs : List (String × Decl.Document)) : Prop where
  sound : d.Sound
  lists : d.Lists (declared docs)
  enums : d.model.enums.toList = docs.flatMap fun x => x.2.enums.map (Source.enumeration x.1)
  bitfields : d.model.bitfields.toList =
    docs.flatMap fun x => x.2.bitfields.map (Source.bitfield x.1)
  roles : d.model.roles.toList =
    Model.empty.roles.toList ++ docs.flatMap fun x => (Source.roles x.1 none x.2.roles).1
  problems : d.diagnostics = docs.flatMap fun x => Source.documentProblems x.1 x.2

theorem Holds.addDocument {docs : List (String × Decl.Document)} (h : d.Holds docs) (name : String)
    (doc : Decl.Document) : (d.addDocument name doc).Holds (docs ++ [(name, doc)]) := by
  obtain ⟨he, hb, hr, hd⟩ := @addStructs_others (d.addValues name doc) name doc.structs
  have hlists : (d.addValues name doc).Lists (declared docs) := h.lists.congr rfl rfl
  have hall := hlists.addStructs (h.sound.addValues doc) name doc.structs
  rw [← addDocument_eq] at he hb hr hd hall
  refine ⟨h.sound.addDocument name doc, ?_, ?_, ?_, ?_, ?_⟩
  · simpa [declared] using hall
  · rw [he]
    simp [addValues, h.enums]
  · rw [hb]
    simp [addValues, h.bitfields]
  · rw [hr]
    simp [addValues, h.roles]
  · rw [hd]
    simp [addValues, h.problems, Source.documentProblems]

end Draft

namespace SourceSet

/-- The draft of some documents holds what they declare. -/
theorem holds_ofDocuments (docs : List (String × Decl.Document)) :
    (ofDocuments docs).draft.Holds docs := by
  induction docs using List.reverseRecOn with
  | nil =>
    have hlists : (ofDocuments []).draft.Lists [] :=
      ⟨by simp [ofDocuments, empty, Model.empty], by simp⟩
    exact ⟨Draft.sound_empty, hlists, rfl, rfl, rfl, rfl⟩
  | append_singleton docs x ih =>
    have hstep : ofDocuments (docs ++ [x]) = (ofDocuments docs).addDocument x.1 x.2 := by
      simp [ofDocuments]
    rw [hstep]
    exact ih.addDocument x.1 x.2

end SourceSet

end ModelLinker
