import ModelLinker.Proofs.Names
import ModelLinker.Source.File

/-!
# Models that come from documents

Documents are entered part by part, and each step keeps a draft sound (`Draft.Sound`): fields lie
with their owners, nothing is bound yet, and a foreign key that could not be read has left an error.
So every set of documents is sound, however its documents were entered
(`SourceSet.Reached.sound`).
-/

namespace ModelLinker

/-! ### fields and their owners -/

/-- Every field is listed by its owner, and a structure lists fields of its own, each once. -/
structure Model.Owned (m : Model) : Prop where
  owner : ∀ {id f}, m.field? id = some f → ∃ s, m.struct? f.parent = some s ∧ id ∈ s.fields
  own : ∀ {sid s}, m.struct? sid = some s → ∀ id ∈ s.fields,
    ∃ f, m.field? id = some f ∧ f.parent = sid
  nodup : ∀ {sid s}, m.struct? sid = some s → s.fields.Nodup

namespace Model

variable {m : Model}

theorem owned_empty : empty.Owned := by
  constructor <;> simp [empty, field?, struct?]

theorem field?_addField (f : Field) (id : FieldId) :
    (m.addField f).1.field? id = if id.index = m.fields.size then some f else m.field? id := by
  simp [addField, field?, Array.getElem?_push]

theorem struct?_addField (f : Field) (sid : StructId) :
    (m.addField f).1.struct? sid =
      (m.struct? sid).map fun s =>
        if sid = f.parent then { s with fields := s.fields ++ [⟨m.fields.size⟩] } else s := by
  obtain ⟨i⟩ := sid
  obtain ⟨p, hp⟩ : ∃ p, f.parent = ⟨p⟩ := ⟨_, rfl⟩
  simp only [addField, struct?, Array.getElem?_modify, hp, StructId.mk.injEq]
  by_cases h : p = i
  · simp [h]
  · simp [h, Ne.symm h]

theorem struct?_addStruct (s : Struct) (sid : StructId) :
    (m.addStruct s).1.struct? sid =
      if sid.index = m.structs.size then some s else m.struct? sid := by
  simp [addStruct, struct?, Array.getElem?_push]

/-- The index of a field is less than that of the next one. -/
theorem ne_of_field? {id : FieldId} {f : Field} (h : m.field? id = some f) :
    id.index ≠ m.fields.size := by
  have := (Array.getElem?_eq_some_iff.1 h).1
  omega

theorem ne_of_struct? {sid : StructId} {s : Struct} (h : m.struct? sid = some s) :
    sid.index ≠ m.structs.size := by
  have := (Array.getElem?_eq_some_iff.1 h).1
  omega

theorem Owned.addStruct (h : m.Owned) {s : Struct} (hs : s.fields = []) :
    (m.addStruct s).1.Owned where
  owner {id f} hf := by
    obtain ⟨t, ht, hid⟩ := @h.owner id f hf
    refine ⟨t, ?_, hid⟩
    rw [struct?_addStruct, if_neg (ne_of_struct? ht), ht]
  own {sid t} ht id hid := by
    rw [struct?_addStruct] at ht
    split at ht
    · cases ht
      simp [hs] at hid
    · exact h.own ht id hid
  nodup {sid t} ht := by
    rw [struct?_addStruct] at ht
    split at ht
    · cases ht
      simp [hs]
    · exact h.nodup ht

theorem Owned.addField (h : m.Owned) {f : Field} (hp : ∃ s, m.struct? f.parent = some s) :
    (m.addField f).1.Owned where
  owner {id g} hg := by
    rw [field?_addField] at hg
    split at hg
    · rename_i hid
      cases hg
      obtain ⟨s, hs⟩ := hp
      refine ⟨_, by rw [struct?_addField, hs, Option.map_some, if_pos rfl], ?_⟩
      obtain ⟨i⟩ := id
      simp_all
    · obtain ⟨s, hs, hid⟩ := h.owner hg
      refine ⟨_, by rw [struct?_addField, hs, Option.map_some], ?_⟩
      split
      · exact List.mem_append_left _ hid
      · exact hid
  own {sid s} hs id hid := by
    rw [struct?_addField, Option.map_eq_some_iff] at hs
    obtain ⟨t, ht, rfl⟩ := hs
    rw [field?_addField]
    split at hid
    · rename_i hsid
      rcases List.mem_append.1 hid with hid | hid
      · obtain ⟨g, hg, hgp⟩ := h.own ht id hid
        exact ⟨g, by rw [if_neg (ne_of_field? hg), hg], hgp⟩
      · rw [List.mem_singleton.1 hid]
        exact ⟨f, if_pos rfl, hsid.symm⟩
    · obtain ⟨g, hg, hgp⟩ := h.own ht id hid
      exact ⟨g, by rw [if_neg (ne_of_field? hg), hg], hgp⟩
  nodup {sid s} hs := by
    rw [struct?_addField, Option.map_eq_some_iff] at hs
    obtain ⟨t, ht, rfl⟩ := hs
    split
    · refine List.nodup_append.2 ⟨h.nodup ht, by simp, ?_⟩
      intro a ha b hb
      obtain ⟨g, hg, -⟩ := h.own ht a ha
      rw [List.mem_singleton.1 hb]
      rintro rfl
      exact ne_of_field? hg rfl
    · exact h.nodup ht

end Model

/-! ### drafts -/

/-- A draft in which fields lie with their owners, no reference is set, and every foreign key that
could not be read has left an error. -/
structure Draft.Sound (d : Draft) : Prop where
  owned : d.model.Owned
  unlinked : ∀ {id f}, d.model.field? id = some f → f.reference = none
  readable : ∀ {id f}, d.model.field? id = some f → f.malformedForeign = true →
    Diagnostics.isOk d.diagnostics = false

namespace Draft

variable {d : Draft}

theorem sound_empty : Sound ⟨.empty, []⟩ where
  owned := Model.owned_empty
  unlinked hf := by simp [Model.empty, Model.field?] at hf
  readable hf := by simp [Model.empty, Model.field?] at hf

/-- Nothing but structures, fields and errors counts. -/
theorem Sound.congr (h : d.Sound) {d' : Draft} (hs : d'.model.structs = d.model.structs)
    (hf : d'.model.fields = d.model.fields)
    (hd : Diagnostics.isOk d'.diagnostics = true → Diagnostics.isOk d.diagnostics = true) :
    d'.Sound := by
  have hstruct : d'.model.struct? = d.model.struct? := by
    funext id
    simp only [Model.struct?, hs]
  have hfield : d'.model.field? = d.model.field? := by
    funext id
    simp only [Model.field?, hf]
  refine ⟨⟨?_, ?_, ?_⟩, ?_, ?_⟩
  · intro id f hid
    rw [hstruct]
    exact h.owned.owner (hfield ▸ hid)
  · intro sid s hsid
    rw [hfield]
    exact h.owned.own (hstruct ▸ hsid)
  · intro sid s hsid
    exact h.owned.nodup (hstruct ▸ hsid)
  · intro id f hid
    exact h.unlinked (hfield ▸ hid)
  · intro id f hid hm
    have := h.readable (hfield ▸ hid) hm
    grind

theorem Sound.more (h : d.Sound) (ds : Diagnostics) :
    Sound { d with diagnostics := d.diagnostics ++ ds } := by
  refine h.congr rfl rfl ?_
  simp only [Diagnostics.isOk_append, Bool.and_eq_true]
  exact And.left

end Draft

namespace Source

theorem fieldType_error {d : Decl.Field} {pos : Pos} {p : Diagnostic}
    (h : fieldType d pos = .error p) : p = problemAt (.argumentMissing d.type) pos := by
  unfold fieldType at h
  split at h <;> cases h
  simp_all

theorem foreignKey_error {r : Decl.Reference} {pos : Pos} {p : Diagnostic}
    (h : foreignKey r pos = .error p) : p.isError = true := by
  unfold foreignKey at h
  split at h <;> cases h
  rfl

/-- A field that is made starts without a reference, and if its foreign key was refused, there is
an error that says so. -/
theorem field_some {file : String} {parent : StructId} {d : Decl.Field} {f : Field}
    (h : (field file parent d).1 = some f) :
    f.parent = parent ∧ f.reference = none ∧
      (f.malformedForeign = true → Diagnostics.isOk (field file parent d).2 = false) := by
  unfold field at h ⊢
  cases htype : fieldType d (posIn file d.place) with
  | error problem => simp [htype] at h
  | ok type =>
    simp only [htype, Option.some.injEq] at h ⊢
    subst h
    refine ⟨rfl, rfl, ?_⟩
    simp only [declaredKey]
    cases d.references with
    | none => simp
    | some r =>
      simp only [Option.map_some, Option.toList_some]
      split
      · simp [made, refused, problemAt]
      · cases hk : foreignKey r (posIn file d.place) with
        | ok k => simp [made]
        | error p =>
          simp [made, refused, foreignKey_error hk]

end Source

namespace Draft

variable {d : Draft} {file : String}

theorem addField_structs_size {parent : StructId} (decl : Decl.Field) :
    (d.addField file parent decl).model.structs.size = d.model.structs.size := by
  simp only [addField]
  cases (Source.field file parent decl).1 <;> simp [Model.addField]

theorem Sound.addField (h : d.Sound) {parent : StructId}
    (hp : parent.index < d.model.structs.size) (decl : Decl.Field) :
    (d.addField file parent decl).Sound := by
  unfold Draft.addField
  cases hf : (Source.field file parent decl).1 with
  | none => simpa only [hf] using h.more _
  | some f =>
    obtain ⟨rfl, href, hbad⟩ := Source.field_some hf
    simp only [hf]
    refine ⟨h.owned.addField ⟨_, Array.getElem?_eq_getElem hp⟩, ?_, ?_⟩
    · intro id g hg
      rw [Model.field?_addField] at hg
      split at hg
      · cases hg
        exact href
      · exact h.unlinked hg
    · intro id g hg hm
      rw [Model.field?_addField] at hg
      rw [Diagnostics.isOk_append, Bool.and_eq_false_iff]
      split at hg
      · cases hg
        exact .inr (hbad hm)
      · exact .inl (h.readable hg hm)

theorem Sound.addFields {parent : StructId} (decls : List Decl.Field) (h : d.Sound)
    (hp : parent.index < d.model.structs.size) :
    (decls.foldl (Draft.addField file parent) d).Sound := by
  induction decls generalizing d with
  | nil => exact h
  | cons decl rest ih =>
    exact ih (h.addField hp decl) (by rw [addField_structs_size]; exact hp)

/-- A draft with a structure that has no fields yet. -/
def addBody (file : String) (d : Draft) (decl : Decl.Struct) : Draft :=
  { d with model := (d.model.addStruct (Source.structBody file decl).1).1 }

theorem Sound.addBody (h : d.Sound) (decl : Decl.Struct) : (d.addBody file decl).Sound where
  owned := h.owned.addStruct rfl
  unlinked := h.unlinked
  readable := h.readable

/-- A structure is entered before its fields. -/
theorem addStruct_eq (decl : Decl.Struct) :
    d.addStruct file decl =
      let withFields := decl.fields.foldl (addField file ⟨d.model.structs.size⟩)
        (d.addBody file decl)
      { withFields with
        diagnostics := withFields.diagnostics ++ (Source.structBody file decl).2 } := rfl

theorem Sound.addStruct (h : d.Sound) (decl : Decl.Struct) : (d.addStruct file decl).Sound := by
  have hlt : d.model.structs.size < (d.addBody file decl).model.structs.size := by
    simp [Draft.addBody, Model.addStruct]
  exact ((h.addBody decl).addFields decl.fields hlt).more _

theorem Sound.addStructs (decls : List Decl.Struct) (h : d.Sound) :
    (decls.foldl (Draft.addStruct file) d).Sound := by
  induction decls generalizing d with
  | nil => exact h
  | cons decl rest ih => exact ih (h.addStruct decl)

theorem foldl_addEnum {α : Type} (make : α → Enumeration) (xs : List α) (m : Model) :
    xs.foldl (fun m x => (m.addEnum (make x)).1) m =
      { m with enums := m.enums ++ (xs.map make).toArray } := by
  induction xs generalizing m with
  | nil => simp
  | cons x rest ih =>
    rw [List.foldl_cons, ih]
    simp [Model.addEnum]

theorem foldl_addBitfield {α : Type} (make : α → Bitfield) (xs : List α) (m : Model) :
    xs.foldl (fun m x => (m.addBitfield (make x)).1) m =
      { m with bitfields := m.bitfields ++ (xs.map make).toArray } := by
  induction xs generalizing m with
  | nil => simp
  | cons x rest ih =>
    rw [List.foldl_cons, ih]
    simp [Model.addBitfield]

theorem foldl_addRole (rs : List Role) (m : Model) :
    rs.foldl (fun m r => (m.addRole r).1) m = { m with roles := m.roles ++ rs.toArray } := by
  induction rs generalizing m with
  | nil => simp
  | cons x rest ih =>
    rw [List.foldl_cons, ih]
    simp [Model.addRole]

/-- A draft with the enumerations, bit fields and roles of a document. -/
def addValues (file : String) (d : Draft) (doc : Decl.Document) : Draft where
  model :=
    { d.model with
      enums := d.model.enums ++ (doc.enums.map (Source.enumeration file)).toArray
      bitfields := d.model.bitfields ++ (doc.bitfields.map (Source.bitfield file)).toArray
      roles := d.model.roles ++ (Source.roles file none doc.roles).1.toArray }
  diagnostics := d.diagnostics ++ (Source.roles file none doc.roles).2

/-- Enumerations, bit fields and roles leave structures and fields alone. -/
theorem Sound.addValues (h : d.Sound) (doc : Decl.Document) : (d.addValues file doc).Sound :=
  (h.more _).congr rfl rfl id

theorem addDocument_eq (doc : Decl.Document) :
    d.addDocument file doc = doc.structs.foldl (addStruct file) (d.addValues file doc) := by
  unfold addDocument
  simp only [foldl_addEnum, foldl_addBitfield, foldl_addRole]
  rfl

theorem Sound.addDocument (h : d.Sound) (name : String) (doc : Decl.Document) :
    (d.addDocument name doc).Sound := by
  rw [addDocument_eq]
  exact (h.addValues doc).addStructs doc.structs

end Draft

/-! ### sets of documents -/

namespace SourceSet

/-- The sets that come about by entering documents, as declarations, as JSON or from files. -/
inductive Reached : SourceSet → Prop where
  | empty : Reached .empty
  | document {set} (name : String) (d : Decl.Document) : Reached set →
      Reached (set.addDocument name d)
  | json {set} (name : String) (j : Json) : Reached set → Reached (set.addJson name j)
  | file {set set'} (name : String) (content : FileContent) : Reached set →
      set.addFile name content = .ok set' → Reached set'

theorem sound_addJson {set : SourceSet} (h : set.draft.Sound) (name : String) (j : Json) :
    (set.addJson name j).draft.Sound := by
  unfold addJson addLoaded
  split
  · exact (h.more _).addDocument name _
  · exact h.more _

/-- A file that can be read is entered as the JSON in it. -/
theorem addFile_eq_ok {set set' : SourceSet} {name : String} {content : FileContent}
    (h : set.addFile name content = .ok set') : ∃ j, set' = set.addJson name j := by
  unfold addFile at h
  cases hc : content.document with
  | error p =>
    rw [hc] at h
    cases h
  | ok j =>
    rw [hc] at h
    exact ⟨j, (Except.ok.inj h).symm⟩

theorem Reached.sound {set : SourceSet} (h : set.Reached) : set.draft.Sound := by
  induction h with
  | empty => exact Draft.sound_empty
  | document name d _ ih => exact ih.addDocument name d
  | json name j _ ih => exact sound_addJson ih name j
  | file name content _ hfile ih =>
    obtain ⟨j, rfl⟩ := addFile_eq_ok hfile
    exact sound_addJson ih name j

theorem reached_ofDocuments (documents : List (String × Decl.Document)) :
    (ofDocuments documents).Reached := by
  have key : ∀ (documents : List (String × Decl.Document)) (set : SourceSet), set.Reached →
      (documents.foldl (fun set x => set.addDocument x.1 x.2) set).Reached := by
    intro documents
    induction documents with
    | nil => exact fun _ h => h
    | cons x rest ih => exact fun set h => ih _ (.document x.1 x.2 h)
  exact key documents .empty .empty

end SourceSet

end ModelLinker
