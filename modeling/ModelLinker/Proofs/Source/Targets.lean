import ModelLinker.Proofs.Reported
import ModelLinker.Proofs.Source.Stated

/-!
# Targets of foreign keys that cannot be read

A foreign key whose target cannot be read is left out of its field, and the field is marked. For
every field that is marked there is one error, at the position of the field, and there are no
other errors of this kind (`Draft.KeysRead`). This holds of every set of documents, however its
documents were entered (`SourceSet.Reached.keysRead`).
-/

namespace ModelLinker

open Text (parseTarget?)

/-- The diagnostic says that the target of a foreign key cannot be read. -/
def Diagnostic.isMalformedTarget (d : Diagnostic) : Bool :=
  match d.cause with
  | .source (.malformedTarget _) => true
  | _ => false

/-- The diagnostics that say so. -/
def Diagnostics.malformedTargets (ds : Diagnostics) : Diagnostics :=
  ds.filter Diagnostic.isMalformedTarget

/-- The field is not structure-typed, and the target of its foreign key could not be read. -/
def Field.Unreadable (f : Field) : Prop := f.type.isStruct = false ∧ f.malformedForeign = true

/-- The foreign key of the field could not be read. -/
def Model.UnreadableAt (m : Model) (n : Nat) : Prop := ∃ f, m.field? ⟨n⟩ = some f ∧ f.Unreadable

/-- The diagnostic is an error at the position of the field, for a target that cannot be read. -/
def Model.BlamesTarget (m : Model) (n : Nat) (d : Diagnostic) : Prop :=
  ∃ f target, m.field? ⟨n⟩ = some f ∧ parseTarget? target = none ∧
    d = Source.problemAt (.malformedTarget target) f.pos

/-- What a field is before names are bound: a structure-typed field has no foreign key and is not
bound, and a field whose key could not be read has none. -/
structure Field.KeyRead (f : Field) : Prop where
  struct : ∀ {r}, f.type = .struct r → f.foreign = none ∧ r.target = none
  keyless : f.malformedForeign = true → f.foreign = none

/-- A draft with one error for every field whose foreign key could not be read. -/
structure Draft.KeysRead (d : Draft) : Prop where
  fields : ∀ {id f}, d.model.field? id = some f → f.KeyRead
  reported : d.diagnostics.malformedTargets.OneEach d.model.UnreadableAt d.model.BlamesTarget

namespace Diagnostics

@[simp] theorem malformedTargets_append (a b : Diagnostics) :
    malformedTargets (a ++ b) = a.malformedTargets ++ b.malformedTargets :=
  List.filter_append a b

theorem malformedTargets_eq_nil {ds : Diagnostics} (h : ∀ d ∈ ds, d.isMalformedTarget = false) :
    ds.malformedTargets = [] :=
  List.filter_eq_nil_iff.2 fun d hd => by rw [h d hd]; exact Bool.false_ne_true

end Diagnostics

/-! ### problems of other parts -/

namespace Source

variable {file : String}

mutual

theorem role_problems (outer : Option String) :
    ∀ d : Decl.Role, ∀ e ∈ (role file outer d).2, e.isMalformedTarget = false
  | ⟨name, parent, nested, place, doc⟩ => by
    intro e he
    simp only [role, List.mem_append] at he
    rcases he with he | he
    · unfold parentProblems at he
      split at he
      · rw [List.mem_singleton.1 he]
        rfl
      · cases he
    · exact roles_problems (some name) nested e he

theorem roles_problems (outer : Option String) :
    ∀ ds : List Decl.Role, ∀ e ∈ (roles file outer ds).2, e.isMalformedTarget = false
  | [] => by simp [roles]
  | d :: ds => by
    intro e he
    simp only [roles, List.mem_append] at he
    rcases he with he | he
    · exact role_problems outer d e he
    · exact roles_problems outer ds e he

end

theorem structBody_malformedTargets (d : Decl.Struct) :
    (structBody file d).2.malformedTargets = [] := by
  refine Diagnostics.malformedTargets_eq_nil fun e he => ?_
  simp only [structBody, List.mem_flatMap, List.mem_map] at he
  obtain ⟨_, ⟨x, -, rfl⟩, he⟩ := he
  obtain ⟨_, _, rfl⟩ := search_problems he
  rfl

/-! ### fields -/

section Fields

variable {parent : StructId} {d : Decl.Field} {f : Field}

theorem fieldType_struct {pos : Pos} {r : NameRef FieldId}
    (h : fieldType d pos = .ok (.struct r)) : r.target = none := by
  unfold fieldType at h
  split at h <;> cases h
  rfl

/-- A field that cannot be made has no key to report. -/
theorem field_none (h : (field file parent d).1 = none) :
    (field file parent d).2.malformedTargets = [] := by
  unfold field at h ⊢
  cases htype : fieldType d (posIn file d.place) with
  | error e =>
    simp only [htype, fieldType_error htype]
    rfl
  | ok type => simp [htype] at h

/-- A field is marked as one with an unreadable key exactly if there is an error that says so, and
then there is one. -/
theorem field_keyRead (h : (field file parent d).1 = some f) :
    f.KeyRead ∧
      ((f.Unreadable ∧ ∃ target, parseTarget? target = none ∧
          (field file parent d).2.malformedTargets =
            [problemAt (.malformedTarget target) f.pos]) ∨
        ¬ f.Unreadable ∧ (field file parent d).2.malformedTargets = []) := by
  unfold field at h ⊢
  cases htype : fieldType d (posIn file d.place) with
  | error e => simp [htype] at h
  | ok type =>
    have hargument : (argumentProblems d (posIn file d.place)).malformedTargets = [] := by
      refine Diagnostics.malformedTargets_eq_nil fun e he => ?_
      unfold argumentProblems at he
      split at he
      · rw [List.mem_singleton.1 he]
        rfl
      · cases he
    simp only [htype, Option.some.injEq] at h ⊢
    subst h
    have hbound : ∀ {r}, type = .struct r → r.target = none := by
      rintro r rfl
      exact fieldType_struct htype
    rw [Diagnostics.malformedTargets_append, hargument, List.nil_append]
    simp only [declaredKey, Field.Unreadable]
    cases hreferences : d.references with
    | none => exact ⟨⟨fun h => ⟨rfl, hbound h⟩, by simp⟩, .inr ⟨by simp, rfl⟩⟩
    | some r =>
      simp only [Option.map_some, Option.toList_some]
      cases hs : type.isStruct with
      | true =>
        simp only [if_true]
        exact ⟨⟨fun h => ⟨rfl, hbound h⟩, fun _ => rfl⟩, .inr ⟨by simp, rfl⟩⟩
      | false =>
        have hplain : ∀ {r}, type ≠ .struct r := by
          rintro r rfl
          cases hs
        simp only [Bool.false_eq_true, if_false]
        cases htarget : parseTarget? r.target with
        | none =>
          simp only [foreignKey, htarget]
          exact ⟨⟨fun h => (hplain h).elim, fun _ => rfl⟩,
            .inl ⟨⟨trivial, rfl⟩, r.target, htarget, rfl⟩⟩
        | some names =>
          simp only [foreignKey, htarget]
          exact ⟨⟨fun h => (hplain h).elim, by simp [made]⟩, .inr ⟨by simp [made], rfl⟩⟩

end Fields

end Source

/-! ### drafts -/

namespace Model

variable {m : Model} {f : Field}

theorem unreadableAt_addField (n : Nat) :
    (m.addField f).1.UnreadableAt n ↔ m.UnreadableAt n ∨ n = m.fields.size ∧ f.Unreadable := by
  simp only [UnreadableAt, field?_addField]
  by_cases hn : n = m.fields.size
  · subst hn
    simp [field?]
  · simp [hn]

/-- What is reported of the fields before stays so. -/
theorem BlamesTarget.addField {n : Nat} {e : Diagnostic} (h : m.BlamesTarget n e) :
    (m.addField f).1.BlamesTarget n e := by
  obtain ⟨g, target, hg, htarget, rfl⟩ := h
  exact ⟨g, target, by rw [field?_addField, if_neg (ne_of_field? hg), hg], htarget, rfl⟩

theorem blamesTarget_addField {target : String} (h : parseTarget? target = none) :
    (m.addField f).1.BlamesTarget m.fields.size
      (Source.problemAt (.malformedTarget target) f.pos) :=
  ⟨f, target, by rw [field?_addField, if_pos rfl], h, rfl⟩

theorem UnreadableAt.lt {n : Nat} (h : m.UnreadableAt n) : n < m.fields.size := by
  obtain ⟨_, hf, -⟩ := h
  exact (Array.getElem?_eq_some_iff.1 hf).1

end Model

namespace Draft

variable {d : Draft} {file : String}

theorem keysRead_empty : KeysRead ⟨.empty, []⟩ where
  fields hf := by simp [Model.empty, Model.field?] at hf
  reported := Diagnostics.oneEach_nil.congr fun n => by
    simp [Model.UnreadableAt, Model.empty, Model.field?]

/-- Nothing but fields and errors of this kind counts. -/
theorem KeysRead.congr (h : d.KeysRead) {d' : Draft} (hf : d'.model.fields = d.model.fields)
    (hd : d'.diagnostics.malformedTargets = d.diagnostics.malformedTargets) : d'.KeysRead := by
  have hfield : d'.model.field? = d.model.field? := by
    funext id
    simp only [Model.field?, hf]
  refine ⟨fun {id f} hid => h.fields (hfield ▸ hid), ?_⟩
  rw [hd]
  refine (h.reported.congr fun n => ?_).imp fun n e he => ?_
  · rw [Model.UnreadableAt, Model.UnreadableAt, hfield]
  · rwa [Model.BlamesTarget, hfield]

theorem KeysRead.more (h : d.KeysRead) {ds : Diagnostics} (hds : ds.malformedTargets = []) :
    KeysRead { d with diagnostics := d.diagnostics ++ ds } :=
  h.congr rfl (by rw [Diagnostics.malformedTargets_append, hds, List.append_nil])

theorem KeysRead.addField (h : d.KeysRead) (parent : StructId) (decl : Decl.Field) :
    (d.addField file parent decl).KeysRead := by
  cases hf : (Source.field file parent decl).1 with
  | none =>
    rw [addField_none hf]
    exact h.more (Source.field_none hf)
  | some f =>
    obtain ⟨hread, hcase⟩ := Source.field_keyRead hf
    rw [addField_some hf]
    refine ⟨fun {id g} hg => ?_, ?_⟩
    · rw [Model.field?_addField] at hg
      split at hg
      · obtain rfl := Option.some.inj hg
        exact hread
      · exact h.fields hg
    · have hbefore := h.reported.imp fun n e he => he.addField (f := f)
      rw [Diagnostics.malformedTargets_append]
      rcases hcase with ⟨hbad, target, htarget, heq⟩ | ⟨hgood, heq⟩
      · rw [heq]
        refine (hbefore.concat (fun n hn => hn.lt) (Model.blamesTarget_addField htarget)).congr ?_
        intro n
        rw [Model.unreadableAt_addField]
        exact or_congr Iff.rfl (and_iff_left hbad).symm
      · rw [heq, List.append_nil]
        refine hbefore.congr fun n => ?_
        rw [Model.unreadableAt_addField]
        exact (or_iff_left fun hn => hgood hn.2).symm

theorem KeysRead.addStruct (h : d.KeysRead) (decl : Decl.Struct) :
    (d.addStruct file decl).KeysRead := by
  have hfields : ∀ (decls : List Decl.Field) (parent : StructId) {d : Draft}, d.KeysRead →
      (decls.foldl (Draft.addField file parent) d).KeysRead := by
    intro decls parent
    induction decls with
    | nil => exact id
    | cons decl rest ih => exact fun h => ih (h.addField parent decl)
  have hbody : (d.addBody file decl).KeysRead := h.congr rfl rfl
  exact (hfields decl.fields _ hbody).more (Source.structBody_malformedTargets decl)

theorem KeysRead.addDocument (h : d.KeysRead) (name : String) (doc : Decl.Document) :
    (d.addDocument name doc).KeysRead := by
  have hvalues : (d.addValues name doc).KeysRead :=
    (h.more (Diagnostics.malformedTargets_eq_nil
      (Source.roles_problems none doc.roles))).congr rfl rfl
  have hstructs : ∀ (decls : List Decl.Struct) {d : Draft}, d.KeysRead →
      (decls.foldl (Draft.addStruct name) d).KeysRead := by
    intro decls
    induction decls with
    | nil => exact id
    | cons decl rest ih => exact fun h => ih (h.addStruct decl)
  rw [addDocument_eq]
  exact hstructs doc.structs hvalues

end Draft

/-! ### sets of documents -/

namespace SourceSet

theorem keysRead_addJson {set : SourceSet} (h : set.draft.KeysRead) (name : String) (j : Json) :
    (set.addJson name j).draft.KeysRead := by
  have hloaded : ((Loaded.ofJson j).diagnostics name).malformedTargets = [] := by
    refine Diagnostics.malformedTargets_eq_nil fun e he => ?_
    cases hj : Loaded.ofJson j with
    | rejected vs =>
      rw [hj] at he
      obtain ⟨v, -, rfl⟩ := List.mem_map.1 he
      rfl
    | unreadable e' =>
      rw [hj] at he
      rw [List.mem_singleton.1 he]
      rfl
    | document d =>
      rw [hj] at he
      cases he
  unfold addJson addLoaded
  split
  · exact (h.more hloaded).addDocument name _
  · exact h.more hloaded

theorem Reached.keysRead {set : SourceSet} (h : set.Reached) : set.draft.KeysRead := by
  induction h with
  | empty => exact Draft.keysRead_empty
  | document name d _ ih => exact ih.addDocument name d
  | json name j _ ih => exact keysRead_addJson ih name j
  | file name content _ hfile ih =>
    obtain ⟨j, rfl⟩ := addFile_eq_ok hfile
    exact keysRead_addJson ih name j

end SourceSet

end ModelLinker
