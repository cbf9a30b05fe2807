import ModelLinker.Proofs.Evolution.Outline
import ModelLinker.Proofs.Linked
import ModelLinker.Proofs.Renumber.Sources

/-!
# Documents that say the same

Documents can be put in another order and under other names, and the declarations of a document in
another order; places, searches, updates, role maps and the like can be changed. If the documents
link before and after, no comparison sees a change (`changes_of_restated`): the outline of a linked
model is that of the documents, whatever numbers its parts were given.
-/

namespace ModelLinker

open Text (fold sameName_iff parseTarget?)

/-! ### outlines of declarations -/

namespace Decl

def Reference.outline (r : Reference) : KeyOutline :=
  ⟨(parseTarget? r.target).map fun t => fold t.1, r.onUpdate, r.onDelete⟩

def Field.outline (d : Field) : FieldOutline :=
  ⟨d.name, d.type, d.rowid, d.unique, d.nullable, d.references.map Reference.outline⟩

def Struct.outline (d : Struct) : StructOutline :=
  ⟨d.name, d.fields.map Field.outline, d.uniques.map Unique.fields⟩

end Decl

def ForeignKey.outline (k : ForeignKey) : KeyOutline :=
  ⟨some (fold k.targetStruct.name), k.onUpdate, k.onDelete⟩

/-- The outline of a field by its foreign key, which may not lead anywhere. -/
def Field.declaredOutline (f : Field) : FieldOutline :=
  ⟨f.name, f.type.name, f.flags.rowid, f.flags.unique, f.flags.nullable,
    f.foreign.map ForeignKey.outline⟩

theorem Field.declaredOutline_asDeclared (f : Field) :
    f.asDeclared.declaredOutline = f.declaredOutline := by
  have hkind : f.type.asDeclared.name = f.type.name := by
    cases f.type <;> rfl
  have hkeys : ForeignKey.outline ∘ ForeignKey.asDeclared = ForeignKey.outline := rfl
  simp [declaredOutline, Field.asDeclared, hkind, hkeys]

theorem Struct.uniqueOutlines_asDeclared (s : Struct) :
    s.asDeclared.uniqueOutlines = s.uniqueOutlines := by
  simp [uniqueOutlines, Struct.asDeclared, Unique.asDeclared, NameRef.asDeclared,
    Function.comp_def]

namespace Source

theorem uniqueOutlines_structBody (file : String) (d : Decl.Struct) :
    (structBody file d).1.uniqueOutlines = d.uniques.map Decl.Unique.fields := by
  simp [Struct.uniqueOutlines, structBody, unique, refAt, NameRef.unbound, Function.comp_def]

theorem fieldType_ok {d : Decl.Field} {pos : Pos} {t : FieldType} (h : fieldType d pos = .ok t) :
    t.name = d.type := by
  unfold fieldType at h
  split at h <;> cases h <;> simp_all [FieldType.name]

theorem foreignKey_ok {r : Decl.Reference} {pos : Pos} {k : ForeignKey}
    (h : foreignKey r pos = .ok k) : k.outline = r.outline := by
  unfold foreignKey at h
  split at h
  · rename_i hparse
    cases h
    simp [ForeignKey.outline, Decl.Reference.outline, hparse, refAt, NameRef.unbound]
  · cases h

/-- A declaration without problems makes a field of its outline. -/
theorem field_of_isOk {file : String} {parent : StructId} {d : Decl.Field}
    (h : Diagnostics.isOk (field file parent d).2 = true) :
    (field file parent d).1.map Field.declaredOutline = some d.outline := by
  unfold field at h ⊢
  cases htype : fieldType d (posIn file d.place) with
  | error p => simp [htype, fieldType_error htype, problemAt] at h
  | ok type =>
    simp only [htype, Diagnostics.isOk_append, Bool.and_eq_true, declaredKey] at h ⊢
    replace h := h.2
    have hkind := fieldType_ok htype
    cases hr : d.references with
    | none => simp [Field.declaredOutline, Decl.Field.outline, hr, hkind, made]
    | some r =>
      rw [hr, Option.map_some, Option.toList_some] at h
      split at h
      · simp [refused, problemAt] at h
      · rename_i hplain
        cases hk : foreignKey r (posIn file d.place) with
        | error p => simp [hk, refused, foreignKey_error hk] at h
        | ok k =>
          simp [Field.declaredOutline, Decl.Field.outline, hr, hkind, made, hplain, hk,
            foreignKey_ok hk]

end Source

/-! ### outlines of linked models -/

/-- In a linked model the key of a field is its foreign key: the reference leads to a field of the
structure that the key names. -/
theorem Model.fieldOutline_eq {m : Model} (hb : m.FullyBound) (hr : m.ReferencesOk) (ho : m.Owned)
    {id : FieldId} {f : Field} (hf : m.field? id = some f) :
    m.fieldOutline f = f.declaredOutline := by
  have hkey : (if f.type.isStruct then none else f.reference.map m.keyOutline) =
      f.foreign.map ForeignKey.outline := by
    cases hs : f.type.isStruct with
    | true =>
      obtain ⟨x, hx⟩ := FieldType.exists_of_isStruct hs
      simp [(hr.struct hf hx).1]
    | false =>
      obtain ⟨hsome, hkeys⟩ := hr.plain hf hs
      cases hk : f.foreign with
      | none => simp_all
      | some k =>
        obtain ⟨r, t, hok⟩ := hkeys k hk
        obtain ⟨_, s, _, _, htarget, hstruct, hname, -⟩ := hb.keys hf hk
        rw [owner_of_key hb ho hf hk hok, Option.some.injEq] at htarget
        subst htarget
        have hreferred : m.referredStruct r = some s.name := by
          simp [referredStruct, hok.found, hstruct]
        simp [hok.reference, keyOutline, ForeignKey.outline, hreferred, hok.actions,
          sameName_iff.1 hname]
  simp [fieldOutline, Field.declaredOutline, hkey]

namespace Draft.Holds

variable {d : Draft} {docs : List (String × Decl.Document)} {m : Model}

/-- Nothing is wrong with any declaration of a field. -/
theorem fields_isOk (h : d.Holds docs) (hok : Diagnostics.isOk d.diagnostics = true)
    {x : String × Decl.Struct} (hx : x ∈ declared docs) (parent : StructId) :
    ∀ f ∈ x.2.fields, Diagnostics.isOk (Source.field x.1 parent f).2 = true := by
  intro f hf
  obtain ⟨doc, hdoc, hx⟩ := List.mem_flatMap.1 hx
  obtain ⟨s, hs, rfl⟩ := List.mem_map.1 hx
  rw [h.problems, Diagnostics.isOk_flatMap] at hok
  have hdocument := hok doc hdoc
  rw [Source.documentProblems, Diagnostics.isOk_append, Bool.and_eq_true,
    Diagnostics.isOk_flatMap] at hdocument
  have hstruct := hdocument.2 s hs
  rw [Source.structProblems, Diagnostics.isOk_append, Bool.and_eq_true,
    Diagnostics.isOk_flatMap] at hstruct
  rw [Source.field_problems parent ⟨0⟩]
  exact hstruct.1 f hf

/-- The fields of a structure have the outlines of their declarations. -/
theorem map_declaredOutline (h : d.Holds docs) (hok : Diagnostics.isOk d.diagnostics = true)
    (hm : m.asDeclared = d.model.asDeclared) {k : ℕ} {x : String × Decl.Struct}
    (hx : (declared docs)[k]? = some x) :
    (m.fieldsOf ⟨k⟩).map (fun e => e.2.declaredOutline) = x.2.fields.map Decl.Field.outline := by
  have hview : ∀ m : Model, (m.fieldsOf ⟨k⟩).map (fun e => e.2.declaredOutline) =
      (m.asDeclared.fieldsOf ⟨k⟩).map fun e => e.2.declaredOutline := fun m => by
    simp [Model.fieldsOf_asDeclared, Field.declaredOutline_asDeclared]
  have hfields := congrArg (List.map Field.declaredOutline) (h.lists.fields hx)
  rw [List.map_map, List.map_filterMap] at hfields
  rw [hview, hm, ← hview]
  refine hfields.trans ?_
  rw [List.filterMap_congr fun f hf =>
    Source.field_of_isOk (h.fields_isOk hok (List.mem_of_getElem? hx) ⟨k⟩ f hf)]
  exact congrFun List.filterMap_eq_map _

/-- The structures have the outlines of their declarations, one after another. -/
theorem map_structOutline (h : d.Holds docs) (hok : Diagnostics.isOk d.diagnostics = true)
    (hm : m.asDeclared = d.model.asDeclared)
    (hfields : ∀ {id f}, m.field? id = some f → m.fieldOutline f = f.declaredOutline) (k : ℕ) :
    (m.struct? ⟨k⟩).map (m.structOutline ⟨k⟩) =
      (declared docs)[k]?.map fun x => x.2.outline := by
  have hview : (m.struct? ⟨k⟩).map Struct.asDeclared =
      (d.model.struct? ⟨k⟩).map Struct.asDeclared := by
    rw [← Model.struct?_asDeclared, hm, Model.struct?_asDeclared]
  cases hs : d.model.struct? ⟨k⟩ with
  | none =>
    have hnone : (declared docs)[k]? = none := by
      rw [List.getElem?_eq_none_iff, ← h.lists.size]
      exact Array.getElem?_eq_none_iff.1 hs
    rw [hs, Option.map_none, Option.map_eq_none_iff] at hview
    rw [hview, hnone]
    rfl
  | some s₀ =>
    obtain ⟨x, hx, hbody⟩ := h.lists.struct? hs
    rw [hs, Option.map_some, Option.map_eq_some_iff] at hview
    obtain ⟨s, hs', hsame⟩ := hview
    have hname : s.name = x.2.name :=
      (congrArg Struct.name hsame).trans (congrArg Struct.name hbody)
    have huniques : s.uniqueOutlines = x.2.uniques.map Decl.Unique.fields := by
      rw [← s.uniqueOutlines_asDeclared, hsame, s₀.uniqueOutlines_asDeclared,
        show s₀.uniqueOutlines = s₀.body.uniqueOutlines from rfl, hbody,
        Source.uniqueOutlines_structBody]
    have hall : (m.fieldsOf ⟨k⟩).map (fun e => m.fieldOutline e.2) =
        x.2.fields.map Decl.Field.outline := by
      rw [← h.map_declaredOutline hok hm hx]
      exact List.map_congr_left fun e he => hfields (Model.field?_of_mem_fieldsOf he)
    rw [hs', hx, Option.map_some, Option.map_some, Model.structOutline, Decl.Struct.outline,
      hname, hall, huniques]

end Draft.Holds

/-- The structures of a linked model have the outlines of the declarations. -/
theorem hasStruct_iff {docs : List (String × Decl.Document)} {l : Linked}
    (h : linkSources (.ofDocuments docs) = .ok l) {o : StructOutline} :
    l.model.HasStruct o ↔ ∃ x ∈ docs, ∃ s ∈ x.2.structs, s.outline = o := by
  obtain ⟨hb, hr, ho⟩ := sound_of_linkSources (SourceSet.reached_ofDocuments docs) h
  have hm : l.model.asDeclared = (SourceSet.ofDocuments docs).model.asDeclared := by
    rw [(Model.linked_of_linkWith h).1, Model.asDeclared_linked]
  have hlist := (SourceSet.holds_ofDocuments docs).map_structOutline
    (faultless_of_linkWith h).1 hm (Model.fieldOutline_eq hb hr ho)
  constructor
  · rintro ⟨⟨k⟩, s, hs, rfl⟩
    have hk := hlist k
    rw [hs, Option.map_some] at hk
    obtain ⟨x, hx, hxo⟩ := Option.map_eq_some_iff.1 hk.symm
    obtain ⟨doc, hdoc, hx⟩ := List.mem_flatMap.1 (List.mem_of_getElem? hx)
    obtain ⟨s, hs, rfl⟩ := List.mem_map.1 hx
    exact ⟨doc, hdoc, s, hs, hxo⟩
  · rintro ⟨doc, hdoc, s, hs, rfl⟩
    have hx : (doc.1, s) ∈ Draft.declared docs :=
      List.mem_flatMap.2 ⟨doc, hdoc, List.mem_map_of_mem hs⟩
    obtain ⟨k, hk⟩ := List.mem_iff_getElem?.1 hx
    have hso := hlist k
    rw [hk, Option.map_some] at hso
    obtain ⟨s', hs', ho⟩ := Option.map_eq_some_iff.1 hso
    exact ⟨⟨k⟩, s', hs', ho⟩

/-- The enumerations of a linked model have the outlines of the declarations, once these are
numbered. -/
theorem hasEnum_iff {docs : List (String × Decl.Document)} {l : Linked}
    (h : linkSources (.ofDocuments docs) = .ok l) {o : EnumOutline} :
    l.model.HasEnum o ↔
      ∃ x ∈ docs, ∃ e ∈ x.2.enums, (Source.enumeration x.1 e).number.outline = o := by
  have henums := (SourceSet.holds_ofDocuments docs).enums
  have hlist : l.model.enums.toList = docs.flatMap fun x =>
      x.2.enums.map fun e => (Source.enumeration x.1 e).number := by
    rw [(Model.linked_of_linkWith h).1, Model.linked_enums, numberEnums, Array.toList_map,
      SourceSet.model, henums, List.map_flatMap]
    simp only [List.map_map, Function.comp_def]
  simp only [Model.HasEnum, ← Array.mem_toList_iff, hlist, List.mem_flatMap, List.mem_map]
  constructor
  · rintro ⟨_, ⟨x, hx, e, he, rfl⟩, rfl⟩
    exact ⟨x, hx, e, he, rfl⟩
  · rintro ⟨x, hx, e, he, rfl⟩
    exact ⟨_, ⟨x, hx, e, he, rfl⟩, rfl⟩

/-- The numbers of items depend on the names and values that are declared. -/
theorem map_numberItems_congr {items items' : List EnumItem}
    (h : items.map (fun i => (i.name, i.declared)) = items'.map fun i => (i.name, i.declared))
    (next : Int) : (numberItems next items).map (fun i => (i.name, i.value)) =
      (numberItems next items').map fun i => (i.name, i.value) := by
  induction items generalizing items' next with
  | nil =>
    rw [List.map_nil, eq_comm, List.map_eq_nil_iff] at h
    rw [h]
  | cons i rest ih =>
    cases items' with
    | nil => simp at h
    | cons i' rest' =>
      simp only [List.map_cons, List.cons.injEq, Prod.mk.injEq] at h
      obtain ⟨⟨hname, hdeclared⟩, hrest⟩ := h
      simp [numberItems, hname, hdeclared, ih hrest]

/-! ### the same declarations in another order -/

namespace Decl

/-- The same name, kind of type, key and marks. No more of a field is compared, not even which
enumeration or bit field it names. -/
structure Field.Restated (d d' : Field) : Prop where
  name : d.name = d'.name
  type : d.type = d'.type
  references : d.references = d'.references
  rowid : d.rowid = d'.rowid
  unique : d.unique = d'.unique
  nullable : d.nullable = d'.nullable

/-- The same name, fields and constraints, these in any order. -/
structure Struct.Restated (d d' : Struct) : Prop where
  name : d.name = d'.name
  fields : ReorderedBy Field.Restated d.fields d'.fields
  uniques : ReorderedBy (fun u v => u.fields = v.fields) d.uniques d'.uniques

/-- The same name and items, these in their order. -/
structure Enumeration.Restated (d d' : Enumeration) : Prop where
  name : d.name = d'.name
  items : d.items.map (fun i => (i.name, i.value)) = d'.items.map fun i => (i.name, i.value)

/-- The same structures and enumerations, in any order. -/
structure Document.Restated (d d' : Document) : Prop where
  structs : ReorderedBy Struct.Restated d.structs d'.structs
  enums : ReorderedBy Enumeration.Restated d.enums d'.enums

theorem Field.Restated.outline {d d' : Field} (h : d.Restated d') : d.outline = d'.outline := by
  simp [Field.outline, h.name, h.type, h.references, h.rowid, h.unique, h.nullable]

theorem Struct.Restated.same {d d' : Struct} (h : d.Restated d') : d.outline.Same d'.outline :=
  ⟨h.name, h.fields.map_perm fun _ _ => Field.Restated.outline, h.uniques.map_perm fun _ _ => id⟩

theorem Enumeration.Restated.outline {d d' : Enumeration} (h : d.Restated d')
    (file file' : String) : (Source.enumeration file d).number.outline =
      (Source.enumeration file' d').number.outline := by
  have hitems : (Source.enumeration file d).items.map (fun i => (i.name, i.declared)) =
      (Source.enumeration file' d').items.map fun i => (i.name, i.declared) := by
    simpa [Source.enumeration, Function.comp_def] using h.items
  have hname : (Source.enumeration file d).name = (Source.enumeration file' d').name := h.name
  simp [Enumeration.number, Enumeration.outline, hname, map_numberItems_congr hitems]

end Decl

/-- The same documents in any order and under any names. What no comparison looks at can differ: bit
fields, roles, and what is done with structures. -/
def Restated (docs docs' : List (String × Decl.Document)) : Prop :=
  ReorderedBy (fun x y => x.2.Restated y.2) docs docs'

/-- Documents that say the same have models of the same outline. -/
theorem Restated.sameOutline {docs docs' : List (String × Decl.Document)}
    (hsame : Restated docs docs') {l l' : Linked} (h : linkSources (.ofDocuments docs) = .ok l)
    (h' : linkSources (.ofDocuments docs') = .ok l') : l.model.SameOutline l'.model := by
  refine ⟨fun o ho => ?_, fun o' ho' => ?_, fun o => ?_⟩
  · obtain ⟨x, hx, s, hs, rfl⟩ := (hasStruct_iff h).1 ho
    obtain ⟨y, hy, hxy⟩ := hsame.exists_right hx
    obtain ⟨s', hs', hss⟩ := hxy.structs.exists_right hs
    exact ⟨_, (hasStruct_iff h').2 ⟨y, hy, s', hs', rfl⟩, hss.same⟩
  · obtain ⟨y, hy, s', hs', rfl⟩ := (hasStruct_iff h').1 ho'
    obtain ⟨x, hx, hxy⟩ := hsame.exists_left hy
    obtain ⟨s, hs, hss⟩ := hxy.structs.exists_left hs'
    exact ⟨_, (hasStruct_iff h).2 ⟨x, hx, s, hs, rfl⟩, hss.same⟩
  · rw [hasEnum_iff h, hasEnum_iff h']
    constructor
    · rintro ⟨x, hx, e, he, rfl⟩
      obtain ⟨y, hy, hxy⟩ := hsame.exists_right hx
      obtain ⟨e', he', hee⟩ := hxy.enums.exists_right he
      exact ⟨y, hy, e', he', (hee.outline _ _).symm⟩
    · rintro ⟨y, hy, e', he', rfl⟩
      obtain ⟨x, hx, hxy⟩ := hsame.exists_left hy
      obtain ⟨e, he, hee⟩ := hxy.enums.exists_left he'
      exact ⟨x, hx, e, he, hee.outline _ _⟩

/-! ### nothing has changed -/

/-- Between documents that say the same a comparison reports no change, in neither direction; nor
does it between a linked model and itself. -/
theorem changes_of_restated :
    (∀ docs docs' l l', Restated docs docs' → linkSources (.ofDocuments docs) = .ok l →
      linkSources (.ofDocuments docs') = .ok l' → changes l l' = [] ∧ changes l' l = []) ∧
    ∀ seed m l, linkWith seed m = .ok l → changes l l = [] := by
  refine ⟨?_, fun seed m l h => ?_⟩
  · intro docs docs' l l' hsame h h'
    have hc := comparable_of_linkWith h
    have hc' := comparable_of_linkWith h'
    have houtline := hsame.sameOutline h h'
    exact ⟨changes_eq_nil hc hc' houtline, changes_eq_nil hc' hc houtline.symm⟩
  · have hc := comparable_of_linkWith h
    exact changes_eq_nil hc hc (.refl _)

/-- The employees without what is done with them, and with their fields the other way round. -/
def restatedStaff : Decl.Document where
  structs := staffDocument.structs.map fun s =>
    { s with
      place := some ⟨4, 2⟩, fields := s.fields.reverse, searches := [], updates := [],
      insert := none, doc := some "Those who work here." }
  enums := []
  bitfields := []
  roles := []

/-- The firm as it was, and the employees after it. -/
def restatedSet : SourceSet := .ofDocuments [("main", firmDocument), ("people", restatedStaff)]

theorem restatedSet_restated : Restated [("staff", staffDocument), ("firm", firmDocument)]
    [("main", firmDocument), ("people", restatedStaff)] := by
  have hfields : ∀ d : Decl.Field, d.Restated d := fun _ => ⟨rfl, rfl, rfl, rfl, rfl, rfl⟩
  have hfirm : firmDocument.Restated firmDocument := by
    refine ⟨⟨_, .refl _, List.forall₂_same.2 fun s _ => ⟨rfl, ?_, ?_⟩⟩,
      ⟨_, .refl _, List.forall₂_same.2 fun e _ => ⟨rfl, rfl⟩⟩⟩
    · exact ⟨_, .refl _, List.forall₂_same.2 fun d _ => hfields d⟩
    · exact ⟨_, .refl _, List.forall₂_same.2 fun _ _ => rfl⟩
  have hstaff : staffDocument.Restated restatedStaff := by
    refine ⟨⟨_, .refl _, ?_⟩, ⟨_, .refl _, .nil⟩⟩
    rw [restatedStaff, List.forall₂_map_right_iff, List.forall₂_same]
    refine fun s _ => ⟨rfl, ?_, ?_⟩
    · exact ⟨_, (List.reverse_perm _).symm, List.forall₂_same.2 fun d _ => hfields d⟩
    · exact ⟨_, .refl _, List.forall₂_same.2 fun _ _ => rfl⟩
  exact ⟨_, .swap _ _ _, .cons hfirm (.cons hstaff .nil)⟩

/-- A firm embeds nothing, and an employee embeds a firm. -/
theorem restatedSet_links : ∃ l, linkSources restatedSet = .ok l := by
  have hfaultless : restatedSet.FaultlessBy (·.index) := by
    simp only [SourceSet.FaultlessBy, Model.bindingProblems, Model.marked, Model.topology,
      Model.joined, Model.bound, Model.resolved, Namespace.ofModel_eq_scan]
    decide +kernel
  exact hfaultless.links

/-- Nothing changes between the employees as they were first described and as they are described
again. -/
theorem changes_of_restatedSet :
    ∃ l l', linkSources staffSet = .ok l ∧ linkSources restatedSet = .ok l' ∧
      changes l l' = [] ∧ changes l' l = [] ∧ changes l l = [] := by
  obtain ⟨l, h, -⟩ := staffSet_links
  obtain ⟨l', h'⟩ := restatedSet_links
  obtain ⟨hboth, hself⟩ := changes_of_restated
  obtain ⟨hforth, hback⟩ := hboth _ _ l l' restatedSet_restated h h'
  exact ⟨l, l', h, h', hforth, hback, hself _ _ l h⟩

end ModelLinker
