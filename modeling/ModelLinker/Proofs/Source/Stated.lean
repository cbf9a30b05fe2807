import Mathlib.Data.List.Forall2
import ModelLinker.Proofs.Source.Entered

/-!
# Searches that are entered in full

A part of a search whose path cannot be read is left out, and an error says so. So where documents
leave no error, every search has all parts of its declaration (`Search.States`), and every
document that was given has been entered (`SourceSet.Reached.exists_documents`).
-/

namespace ModelLinker

open List (Forall₂)

/-! ### what a declaration states -/

/-- The segments of the path are the names in a dotted text. -/
def FieldPath.Reads (p : FieldPath) (dotted : String) : Prop :=
  Text.parsePath? dotted = some (p.segments.map NameRef.name)

/-- The segments of the projection are the names in a dotted text; a blank text has none. -/
def Distinct.Reads (d : Distinct) (dotted : String) : Prop :=
  if (Text.trim dotted).isEmpty then d.path = []
  else Text.parsePath? dotted = some (d.path.map NameRef.name)

/-- A search with all conditions, orders and other parts of its declaration, none of them left
out. -/
structure Search.States (x : Search) (d : Decl.Search) : Prop where
  kind : x.kind = d.kind
  params : Forall₂ (fun c p => p.path.Reads c.field ∧ p.op = c.op) d.params x.params
  order : Forall₂ (fun c o => o.path.Reads c.field ∧ o.direction = c.direction) d.order x.order
  aggregate : Option.Rel (fun c a => a.path.Reads c.field ∧ a.op = c.op) d.aggregate x.aggregate
  group : Option.Rel (fun c p => p.Reads c) d.group x.group
  distinct : Option.Rel (fun c y => y.Reads c) d.distinct x.distinct
  dropped : x.droppedParams = 0

/-- A path that can be read has a segment. -/
theorem FieldPath.Reads.ne_nil {p : FieldPath} {dotted : String} (h : p.Reads dotted) :
    p.segments ≠ [] := by
  intro hnil
  unfold Reads Text.parsePath? at h
  have hpieces : ∀ cs, Text.pieces cs ≠ [] := by
    intro cs
    cases cs with
    | nil => simp [Text.pieces]
    | cons c cs =>
      rw [Text.pieces]
      split
      · simp
      · split <;> simp
  dsimp only at h
  split at h
  · cases h
  · simp [hnil, hpieces] at h

/-! ### parts that are made -/

namespace Source

section Made

variable {α β : Type} {make : α → Made β} {R : α → β → Prop}

/-- If no part is refused, there is one for every declaration. -/
theorem forall₂_made {ds : List α} (h : refused (ds.map make) = [])
    (hmake : ∀ d b, make d = .ok b → R d b) : Forall₂ R ds (made (ds.map make)) := by
  induction ds with
  | nil => exact .nil
  | cons d rest ih =>
    cases hd : make d with
    | error e => simp [refused, hd] at h
    | ok b =>
      rw [List.map_cons, hd] at h ⊢
      exact .cons (hmake d b hd) (ih h)

theorem rel_made {d : Option α} (h : refused (d.toList.map make) = [])
    (hmake : ∀ d b, make d = .ok b → R d b) :
    Option.Rel R d (made (d.toList.map make)).head? := by
  cases d with
  | none => exact .none
  | some d =>
    cases hd : make d with
    | error e => simp [refused, hd] at h
    | ok b =>
      simp only [Option.toList_some, List.map_cons, List.map_nil, hd]
      exact .some (hmake d b hd)

theorem exists_of_mem_refused {ds : List α} {e : Diagnostic} (h : e ∈ refused (ds.map make)) :
    ∃ d ∈ ds, make d = .error e := by
  simp only [refused, List.mem_filterMap, List.mem_map, exists_exists_and_eq_and] at h
  obtain ⟨d, hd, he⟩ := h
  refine ⟨d, hd, ?_⟩
  cases hmake : make d with
  | ok b => simp [hmake] at he
  | error e' =>
    simp only [hmake, Option.some.injEq] at he
    rw [he]

/-- If all that is refused would be reported as an error, and there are no errors, then nothing is
refused. -/
theorem refused_eq_nil (herror : ∀ d e, make d = .error e → e.isError = true) {ds : List α}
    (h : Diagnostics.isOk (refused (ds.map make)) = true) : refused (ds.map make) = [] := by
  refine List.eq_nil_iff_forall_not_mem.2 fun e he => ?_
  have hok := Diagnostics.isOk_iff_forall.1 h e he
  obtain ⟨d, -, hd⟩ := exists_of_mem_refused he
  rw [herror d e hd] at hok
  cases hok

end Made

section Paths

variable {file dotted : String} {pos : Pos}

theorem path_eq_ok {p : FieldPath} (h : path dotted pos = .ok p) : p.Reads dotted := by
  unfold path at h
  cases hread : Text.parsePath? dotted with
  | none => simp [hread] at h
  | some names =>
    simp only [hread, Except.ok.injEq] at h
    subst h
    simp [FieldPath.Reads, hread, Function.comp_def, refAt, NameRef.unbound]

theorem path_eq_error {e : Diagnostic} (h : path dotted pos = .error e) :
    e = problemAt (.malformedPath dotted) pos := by
  unfold path at h
  cases hread : Text.parsePath? dotted with
  | none =>
    simp only [hread, Except.error.injEq] at h
    exact h.symm
  | some names => simp [hread] at h

/-- What is made of a path can be made exactly if the path can be read. -/
theorem map_eq_ok {β : Type} {f : FieldPath → β} {b : β}
    (h : (path dotted pos).map f = .ok b) : ∃ p, p.Reads dotted ∧ f p = b := by
  cases hp : path dotted pos with
  | error e => simp [hp, Except.map] at h
  | ok p =>
    simp only [hp, Except.map, Except.ok.injEq] at h
    exact ⟨p, path_eq_ok hp, h⟩

theorem map_eq_error {β : Type} {f : FieldPath → β} {e : Diagnostic}
    (h : (path dotted pos).map f = .error e) : e = problemAt (.malformedPath dotted) pos := by
  cases hp : path dotted pos with
  | error e' =>
    simp only [hp, Except.map, Except.error.injEq] at h
    rw [← h, path_eq_error hp]
  | ok p => simp [hp, Except.map] at h

theorem distinct_eq_ok {d : Distinct} (h : distinct dotted pos = .ok d) : d.Reads dotted := by
  unfold distinct at h
  unfold Distinct.Reads
  split at h
  · rename_i hblank
    rw [if_pos hblank, ← Except.ok.inj h]
  · rename_i hblank
    obtain ⟨p, hp, rfl⟩ := map_eq_ok h
    rw [if_neg hblank]
    exact hp

theorem distinct_eq_error {e : Diagnostic} (h : distinct dotted pos = .error e) :
    e = problemAt (.malformedPath dotted) pos := by
  unfold distinct at h
  split at h
  · cases h
  · exact map_eq_error h

theorem predicate_eq_ok {outer : Pos} {d : Decl.Predicate} {p : Predicate}
    (h : predicate file outer d = .ok p) : p.path.Reads d.field ∧ p.op = d.op := by
  obtain ⟨q, hq, rfl⟩ := map_eq_ok h
  exact ⟨hq, rfl⟩

theorem orderTerm_eq_ok {outer : Pos} {d : Decl.Order} {o : OrderTerm}
    (h : orderTerm file outer d = .ok o) : o.path.Reads d.field ∧ o.direction = d.direction := by
  obtain ⟨q, hq, rfl⟩ := map_eq_ok h
  exact ⟨hq, rfl⟩

theorem aggregate_eq_ok {outer : Pos} {d : Decl.Aggregate} {a : Aggregate}
    (h : aggregate file outer d = .ok a) : a.path.Reads d.field ∧ a.op = d.op := by
  obtain ⟨q, hq, rfl⟩ := map_eq_ok h
  exact ⟨hq, rfl⟩

/-- A search of which nothing is reported as an error has all that its declaration says. -/
theorem search_states {d : Decl.Search} (h : Diagnostics.isOk (search file d).2 = true) :
    (search file d).1.States d := by
  simp only [search, Diagnostics.isOk_append, Bool.and_eq_true] at h
  obtain ⟨⟨⟨⟨hparams, horder⟩, haggregate⟩, hgroup⟩, hdistinct⟩ := h
  have hparams := refused_eq_nil (fun _ _ h => map_eq_error h ▸ rfl) hparams
  have horder := refused_eq_nil (fun _ _ h => map_eq_error h ▸ rfl) horder
  have haggregate := refused_eq_nil (fun _ _ h => map_eq_error h ▸ rfl) haggregate
  have hgroup := refused_eq_nil (fun _ _ h => path_eq_error h ▸ rfl) hgroup
  have hdistinct := refused_eq_nil (fun _ _ h => distinct_eq_error h ▸ rfl) hdistinct
  exact
    { kind := rfl
      params := forall₂_made hparams fun _ _ => predicate_eq_ok
      order := forall₂_made horder fun _ _ => orderTerm_eq_ok
      aggregate := rel_made haggregate fun _ _ => aggregate_eq_ok
      group := rel_made hgroup fun _ _ => path_eq_ok
      distinct := rel_made hdistinct fun _ _ => distinct_eq_ok
      dropped := congrArg List.length hparams }

/-- What is wrong with the declaration of a search: paths that cannot be read. -/
theorem search_problems {d : Decl.Search} {e : Diagnostic} (h : e ∈ (search file d).2) :
    ∃ dotted pos, e = problemAt (.malformedPath dotted) pos := by
  simp only [search, List.mem_append] at h
  rcases h with (((h | h) | h) | h) | h <;> obtain ⟨d, -, hd⟩ := exists_of_mem_refused h
  · exact ⟨_, _, map_eq_error hd⟩
  · exact ⟨_, _, map_eq_error hd⟩
  · exact ⟨_, _, map_eq_error hd⟩
  · exact ⟨_, _, path_eq_error hd⟩
  · exact ⟨_, _, distinct_eq_error hd⟩

end Paths

/-- The searches of a structure of which nothing is reported as an error. -/
theorem structBody_states {file : String} {d : Decl.Struct}
    (h : Diagnostics.isOk (structBody file d).2 = true) :
    Forall₂ (fun d x => x.States d) d.searches (structBody file d).1.searches := by
  simp only [structBody, Diagnostics.isOk_flatMap, List.forall_mem_map] at h
  simp only [structBody, List.map_map, List.forall₂_map_right_iff, List.forall₂_same]
  exact fun x hx => search_states (h x hx)

end Source

/-! ### documents -/

namespace SourceSet

/-- If documents leave no error, then every structure has all searches of its declaration, in full
and in their order. -/
theorem searches_states {docs : List (String × Decl.Document)}
    (hok : Diagnostics.isOk (ofDocuments docs).diagnostics = true) {sid : StructId} {s : Struct}
    (hs : (ofDocuments docs).model.struct? sid = some s) :
    ∃ d, (Draft.declared docs)[sid.index]? = some d ∧ s.name = d.2.name ∧
      Forall₂ (fun d x => x.States d) d.2.searches s.searches := by
  have hholds := holds_ofDocuments docs
  obtain ⟨⟨file, d⟩, hd, hbody⟩ := hholds.lists.struct? hs
  refine ⟨⟨file, d⟩, hd, congrArg Struct.name hbody, ?_⟩
  -- what is wrong with the structure is part of what is wrong with its document
  obtain ⟨⟨name, doc⟩, hdoc, hmem⟩ := List.mem_flatMap.1 (List.mem_of_getElem? hd)
  obtain ⟨d', hd', heq⟩ := List.mem_map.1 hmem
  obtain ⟨rfl, rfl⟩ := Prod.mk.inj heq
  have hproblems : (ofDocuments docs).diagnostics = _ := hholds.problems
  rw [hproblems, Diagnostics.isOk_flatMap] at hok
  have hdocument := hok (name, doc) hdoc
  simp only [Source.documentProblems, Diagnostics.isOk_append, Bool.and_eq_true,
    Diagnostics.isOk_flatMap] at hdocument
  have hstruct := hdocument.2 d' hd'
  simp only [Source.structProblems, Diagnostics.isOk_append, Bool.and_eq_true] at hstruct
  change Forall₂ _ _ s.body.searches
  rw [hbody]
  exact Source.structBody_states hstruct.2

theorem isOk_of_addDocument {d : Draft} {name : String} {doc : Decl.Document}
    (h : Diagnostics.isOk (d.addDocument name doc).diagnostics = true) :
    Diagnostics.isOk d.diagnostics = true := by
  obtain ⟨-, -, -, hd⟩ := @Draft.addStructs_others (d.addValues name doc) name doc.structs
  rw [Draft.addDocument_eq, hd] at h
  simp only [Draft.addValues, Diagnostics.isOk_append, Bool.and_eq_true] at h
  exact h.1.1

theorem draft_ofDocuments_concat (docs : List (String × Decl.Document)) (name : String)
    (doc : Decl.Document) :
    (ofDocuments (docs ++ [(name, doc)])).draft =
      (ofDocuments docs).draft.addDocument name doc := by
  simp [ofDocuments, addDocument]

/-- A document that is not in order leaves an error; any other one is entered. -/
theorem exists_document_addJson {set : SourceSet} {name : String} {j : Json}
    (h : Diagnostics.isOk (set.addJson name j).diagnostics = true) :
    ∃ doc, (set.addJson name j).draft = set.draft.addDocument name doc := by
  unfold addJson addLoaded at h ⊢
  cases hj : Loaded.ofJson j with
  | document d => exact ⟨d, by simp [addDocument, Loaded.diagnostics]⟩
  | unreadable e => simp [hj, diagnostics, Loaded.diagnostics] at h
  | rejected vs =>
    cases vs with
    | nil =>
      unfold Loaded.ofJson at hj
      split at hj
      · cases hj
      · split at hj <;> cases hj
    | cons v vs => simp [hj, diagnostics, Loaded.diagnostics] at h

/-- A set without errors is that of some documents, however they were entered. -/
theorem Reached.exists_documents {set : SourceSet} (h : set.Reached)
    (hok : Diagnostics.isOk set.diagnostics = true) :
    ∃ docs, set.draft = (ofDocuments docs).draft := by
  have hjson : ∀ {set : SourceSet} {name : String} {j : Json},
      (Diagnostics.isOk set.diagnostics = true → ∃ docs, set.draft = (ofDocuments docs).draft) →
      Diagnostics.isOk (set.addJson name j).diagnostics = true →
      ∃ docs, (set.addJson name j).draft = (ofDocuments docs).draft := by
    intro set name j ih hok
    obtain ⟨doc, hdoc⟩ := exists_document_addJson hok
    rw [diagnostics, hdoc] at hok
    obtain ⟨docs, hdocs⟩ := ih (isOk_of_addDocument hok)
    exact ⟨docs ++ [(name, doc)], by rw [draft_ofDocuments_concat, ← hdocs, hdoc]⟩
  induction h with
  | empty => exact ⟨[], rfl⟩
  | document name doc _ ih =>
    obtain ⟨docs, hdocs⟩ := ih (isOk_of_addDocument hok)
    exact ⟨docs ++ [(name, doc)], by rw [draft_ofDocuments_concat, ← hdocs]; rfl⟩
  | json name j _ ih => exact hjson ih hok
  | file name content _ hfile ih =>
    obtain ⟨j, rfl⟩ := addFile_eq_ok hfile
    exact hjson ih hok

end SourceSet

end ModelLinker
