import ModelLinker.Proofs.Linked
import ModelLinker.Proofs.Relinked.Problems
import ModelLinker.Proofs.Source.Stated
import ModelLinker.Proofs.Unchanged

/-!
# Legal searches

The checks of a search pass over paths that are not bound, and over conditions that were left out
because they could not be read. Neither gets through: a path that is not bound, or that cannot be
read, is an error itself. So every search of a model linked from documents has all that its
declaration says, and its operators, its projection and its grouping fit the fields that its paths
lead to (`Search.Legal`).
-/

namespace ModelLinker

open List (Forall₂)

/-! ### what is legal -/

/-- The operator of a condition fits a field: passwords are compared for equality only, or tested for
being absent, and only the latter where a search has a projection; texts are matched. -/
structure Predicate.Fits (x : Search) (p : Predicate) (f : Field) : Prop where
  password : f.type = .plain .password →
    p.op ∈ [.isnull, .notnull] ∨ p.op ∈ [.eq, .neq, .streq, .strneq]
  projected : f.type = .plain .password → x.distinct.isSome = true → p.op ∈ [.isnull, .notnull]
  like : p.op = .like → f.type = .plain .text ∨ f.type = .plain .email

/-- The path can be walked from a structure, and the last field is the one given. -/
structure Model.EndsAt (m : Model) (s : StructId) (p : FieldPath) (id : FieldId) (f : Field) :
    Prop where
  walks : m.Walks s p.segments
  field : p.field = some id
  exists_field : m.field? id = some f

/-- A search of a structure that can be carried out. -/
structure Search.Legal (m : Model) (s : StructId) (x : Search) : Prop where
  condition : x.kind = .search → x.params ≠ []
  params : ∀ p ∈ x.params, ∃ id f, m.EndsAt s p.path id f ∧ p.Fits x f
  grouped : x.group.isSome = x.aggregate.isSome
  group : ∀ g ∈ x.group, ∀ a ∈ x.aggregate, ∃ gid gf aid af,
    m.EndsAt s g gid gf ∧ m.EndsAt s a.path aid af ∧
      gf.flags.nullable = false ∧ gid ≠ aid ∧ gf.parent = af.parent

/-! ### fields at the end of paths -/

namespace Model

variable {m : Model} {s : StructId}

theorem Walks.endsAt {p : FieldPath} (h : m.Walks s p.segments) (hne : p.segments ≠ []) :
    ∃ id f, m.EndsAt s p id f := by
  obtain ⟨id, f, htarget, hf, -⟩ := h.segments _ (List.getLast_mem hne)
  refine ⟨id, f, h, ?_, hf⟩
  rw [FieldPath.field, List.getLast?_eq_some_getLast hne, Option.bind_some, htarget]

theorem EndsAt.boundField? {p : FieldPath} {id : FieldId} {f : Field} (h : m.EndsAt s p id f) :
    m.boundField? p = some (id, f) := by
  rw [Model.boundField?, h.field, Option.bind_some, h.exists_field, Option.map_some]

end Model

/-! ### what the checks find -/

section Checks

variable {m : Model} {x : Search}

/-- What is not found wrong with a condition fits its field. -/
theorem Predicate.fits_of_isOk {p : Predicate} {f : Field}
    (h : Diagnostics.isOk (p.problems x f) = true) : p.Fits x f := by
  have hunary : p.op.isUnary = true ↔ p.op ∈ [.isnull, .notnull] := by
    cases p.op <;> decide
  have hequality : p.op.isEquality = true ↔ p.op ∈ [.eq, .neq, .streq, .strneq] := by
    cases p.op <;> decide
  have htextual : f.type.isTextual = true ↔ f.type = .plain .text ∨ f.type = .plain .email := by
    unfold FieldType.isTextual
    split <;> simp_all
  simp only [Predicate.problems, Diagnostics.isOk_append, Bool.and_eq_true] at h
  obtain ⟨⟨⟨-, hpassword⟩, hlike⟩, hprojected⟩ := h
  refine ⟨fun ht => ?_, fun ht hd => ?_, fun hop => ?_⟩
  · by_contra hne
    rw [not_or, ← hunary, ← hequality] at hne
    rw [if_pos ⟨ht, by simpa using hne.1, by simpa using hne.2⟩] at hpassword
    cases hpassword
  · by_contra hne
    rw [← hunary] at hne
    rw [if_pos ⟨hd, ht, by simpa using hne⟩] at hprojected
    cases hprojected
  · rw [← htextual]
    by_contra hne
    rw [if_pos ⟨hop, by simpa using hne⟩] at hlike
    cases hlike

/-- A search for one row has a condition, unless one was left out. -/
theorem Search.params_ne_nil (h : Diagnostics.isOk (x.conditionProblems m) = true)
    (hdropped : x.droppedParams = 0) (hkind : x.kind = .search) : x.params ≠ [] := by
  intro hparams
  rw [Search.conditionProblems, if_pos ⟨hkind, hparams⟩, if_pos hdropped] at h
  cases h

theorem Search.fits_of_isOk (h : Diagnostics.isOk (x.conditionProblems m) = true) {p : Predicate}
    (hp : p ∈ x.params) {s : StructId} {id : FieldId} {f : Field} (hf : m.EndsAt s p.path id f) :
    p.Fits x f := by
  have hne : x.params ≠ [] := List.ne_nil_of_mem hp
  rw [Search.conditionProblems, if_neg (by simp [hne])] at h
  simp only [Diagnostics.isOk_append, Bool.and_eq_true, Diagnostics.isOk_flatMap] at h
  refine Predicate.fits_of_isOk (h.2 p hp f ?_)
  rw [hf.field, Option.bind_some, hf.exists_field]
  exact List.mem_singleton_self f

theorem Search.grouped_of_isOk (h : Diagnostics.isOk (x.groupProblems m) = true) :
    x.group.isSome = x.aggregate.isSome := by
  unfold Search.groupProblems at h
  cases hg : x.group <;> cases ha : x.aggregate <;> simp only [hg, ha] at h ⊢
  · rfl
  · cases h
  · cases h
  · rfl

theorem Search.group_of_isOk (h : Diagnostics.isOk (x.groupProblems m) = true) {g : FieldPath}
    {a : Aggregate} (hg : x.group = some g) (ha : x.aggregate = some a) {s : StructId}
    {gid aid : FieldId} {gf af : Field} (hgf : m.EndsAt s g gid gf)
    (haf : m.EndsAt s a.path aid af) :
    gf.flags.nullable = false ∧ gid ≠ aid ∧ gf.parent = af.parent := by
  simp only [Search.groupProblems, hg, ha, hgf.boundField?, haf.boundField?, groupedProblems,
    Diagnostics.isOk_append, Bool.and_eq_true] at h
  obtain ⟨hnull, hsame⟩ := h
  have hne : gid ≠ aid := by
    intro heq
    rw [if_pos heq] at hsame
    cases hsame
  refine ⟨?_, hne, ?_⟩
  · rw [Bool.eq_false_iff]
    intro hn
    rw [if_pos hn] at hnull
    cases hnull
  · by_contra hparent
    rw [if_neg hne, if_pos hparent] at hsame
    cases hsame

end Checks

/-! ### searches of linked models -/

theorem names_of_keptBy {rs rs' : List (NameRef FieldId)} (h : Forall₂ NameRef.KeptBy rs rs') :
    rs'.map NameRef.name = rs.map NameRef.name := by
  induction h with
  | nil => rfl
  | cons hr _ ih => rw [List.map_cons, List.map_cons, hr.name, ih]

theorem FieldPath.Reads.keptBy {p p' : FieldPath} {dotted : String} (h : p.Reads dotted)
    (hkept : p.KeptBy p') : p'.Reads dotted := by
  rw [FieldPath.Reads, names_of_keptBy hkept.segments]
  exact h

theorem Distinct.Reads.keptBy {y y' : Distinct} {dotted : String} (h : y.Reads dotted)
    (hkept : y.KeptBy y') : y'.Reads dotted := by
  unfold Distinct.Reads at h ⊢
  split
  · rename_i hblank
    rw [if_pos hblank] at h
    have hpath := hkept.path
    rw [h, List.forall₂_nil_left_iff] at hpath
    exact hpath
  · rename_i hblank
    rw [if_neg hblank] at h
    rw [names_of_keptBy hkept.path]
    exact h

section Rel

variable {α β γ : Type} {R : α → β → Prop} {S : β → γ → Prop} {T : α → γ → Prop}

theorem forall₂_comp (h : ∀ {a b c}, R a b → S b c → T a c) {xs : List α} {ys : List β}
    {zs : List γ} (hR : Forall₂ R xs ys) (hS : Forall₂ S ys zs) : Forall₂ T xs zs := by
  induction hR generalizing zs with
  | nil =>
    cases hS
    exact .nil
  | cons hab _ ih =>
    cases hS with
    | cons hbc hrest => exact .cons (h hab hbc) (ih hrest)

theorem rel_comp (h : ∀ {a b c}, R a b → S b c → T a c) {x : Option α} {y : Option β}
    {z : Option γ} (hR : Option.Rel R x y) (hS : Option.Rel S y z) : Option.Rel T x z := by
  cases hR with
  | none =>
    cases hS
    exact .none
  | some hab =>
    cases hS with
    | some hbc => exact .some (h hab hbc)

end Rel

/-- What a search says of its declaration does not depend on what its names are bound to. -/
theorem Search.States.keptBy {x x' : Search} {d : Decl.Search} (h : x.States d)
    (hkept : x.KeptBy x') : x'.States d := by
  constructor
  case kind => exact hkept.kind.trans h.kind
  case params =>
    refine forall₂_comp ?_ h.params hkept.params
    intro c p p' hp hk
    exact ⟨hp.1.keptBy hk.path, hk.op.trans hp.2⟩
  case order =>
    refine forall₂_comp ?_ h.order hkept.order
    intro c o o' ho hk
    exact ⟨ho.1.keptBy hk.path, hk.direction.trans ho.2⟩
  case aggregate =>
    refine rel_comp ?_ h.aggregate hkept.aggregate
    intro c a a' ha hk
    exact ⟨ha.1.keptBy hk.path, hk.op.trans ha.2⟩
  case group =>
    refine rel_comp ?_ h.group hkept.group
    intro c p p' hp hk
    exact hp.keptBy hk
  case distinct =>
    refine rel_comp ?_ h.distinct hkept.distinct
    intro c y y' hy hk
    exact hy.keptBy hk
  case dropped => exact hkept.droppedParams.trans h.dropped

/-- The structures of a model linked from documents have all searches of their declarations, in
full. -/
theorem searches_states_of_link {docs : List (String × Decl.Document)} {l : Linked}
    (h : linkSources (.ofDocuments docs) = .ok l) {sid : StructId} {s : Struct}
    (hs : l.model.struct? sid = some s) :
    ∃ d, (Draft.declared docs)[sid.index]? = some d ∧ s.name = d.2.name ∧
      Forall₂ (fun d x => x.States d) d.2.searches s.searches := by
  obtain ⟨hseed, -⟩ := faultless_of_linkWith h
  have hkept : (SourceSet.ofDocuments docs).model.KeptBy l.model := by
    rw [(Model.linked_of_linkWith h).1]
    exact Model.asDeclared_eq_iff.1 Model.asDeclared_linked
  -- the structure is in the place of one that was entered
  obtain ⟨hlen, hall⟩ := List.forall₂_iff_get.1 hkept.structs
  obtain ⟨hi, rfl⟩ := Array.getElem?_eq_some_iff.1 hs
  have hi' : sid.index < (SourceSet.ofDocuments docs).model.structs.size := by
    simp only [Array.length_toList] at hlen
    omega
  have hstruct := hall sid.index (by simpa using hi') (by simpa using hi)
  simp only [List.get_eq_getElem, Array.getElem_toList] at hstruct
  have hs₀ : (SourceSet.ofDocuments docs).model.struct? sid = some _ := Array.getElem?_eq_getElem hi'
  obtain ⟨d, hd, hname, hstates⟩ := SourceSet.searches_states hseed hs₀
  exact ⟨d, hd, hstruct.name.trans hname,
    forall₂_comp (fun hx hk => hx.keptBy hk) hstates hstruct.searches⟩

/-- A search of a linked model is legal if all of its declaration could be read. -/
theorem Search.States.legal {m : Model} (hbound : m.FullyBound)
    (hok : Diagnostics.isOk (searchProblems m) = true) {sid : StructId} {s : Struct}
    (hs : m.struct? sid = some s) {x : Search} (hx : x ∈ s.searches) {d : Decl.Search}
    (hstates : x.States d) : x.Legal m sid := by
  simp only [searchProblems, Diagnostics.isOk_flatMap, Array.mem_toList_iff] at hok
  have hsearch := hok s (Array.mem_of_getElem? hs) x hx
  simp only [Diagnostics.isOk_append, Bool.and_eq_true] at hsearch
  obtain ⟨hcondition, hgroup⟩ := hsearch
  have hends : ∀ {p : FieldPath}, p.segments ∈ x.paths → (∃ dotted, p.Reads dotted) →
      ∃ id f, m.EndsAt sid p id f := fun hp hread =>
    Model.Walks.endsAt (hbound.paths hs _ (List.mem_flatMap.2 ⟨x, hx, hp⟩)) hread.choose_spec.ne_nil
  refine ⟨Search.params_ne_nil hcondition hstates.dropped, ?_, Search.grouped_of_isOk hgroup, ?_⟩
  · intro p hp
    have hread : ∃ dotted, p.path.Reads dotted := by
      obtain ⟨i, hi, rfl⟩ := List.getElem_of_mem hp
      obtain ⟨hlen, hall⟩ := List.forall₂_iff_get.1 hstates.params
      exact ⟨_, (hall i (hlen ▸ hi) hi).1⟩
    have hpath : p.path.segments ∈ x.paths := by
      simp only [Search.paths, List.mem_append, List.mem_map]
      exact .inl (.inl (.inl ⟨p, hp, rfl⟩))
    obtain ⟨id, f, hf⟩ := hends hpath hread
    exact ⟨id, f, hf, Search.fits_of_isOk hcondition hp hf⟩
  · intro g hg a ha
    obtain ⟨dotted, -, hread⟩ := exists_of_rel hstates.group hg
    obtain ⟨c, -, haread, -⟩ := exists_of_rel hstates.aggregate ha
    have hgpath : g.segments ∈ x.paths := by
      simp only [Search.paths, List.mem_append, List.mem_map, Option.mem_toList]
      exact .inr ⟨g, hg, rfl⟩
    have hapath : a.path.segments ∈ x.paths := by
      simp only [Search.paths, List.mem_append, List.mem_map, Option.mem_toList]
      exact .inl (.inr ⟨a, ha, rfl⟩)
    obtain ⟨gid, gf, hgf⟩ := hends hgpath ⟨dotted, hread⟩
    obtain ⟨aid, af, haf⟩ := hends hapath ⟨c.field, haread⟩
    exact ⟨gid, gf, aid, af, hgf, haf, Search.group_of_isOk hgroup hg ha hgf haf⟩

/-- All searches of a model linked from documents are legal, however the documents were entered. -/
theorem legal_of_linkSources {set : SourceSet} (hset : set.Reached) {l : Linked}
    (h : linkSources set = .ok l) {sid : StructId} {s : Struct} (hs : l.model.struct? sid = some s)
    {x : Search} (hx : x ∈ s.searches) : x.Legal l.model sid := by
  obtain ⟨hbound, -⟩ := sound_of_linkSources hset h
  obtain ⟨hseed, hfault⟩ := faultless_of_linkWith h
  have hok : Diagnostics.isOk (searchProblems l.model) = true := by
    rw [(Model.linked_of_linkWith h).1, Model.searchProblems_linked]
    exact hfault.searches
  obtain ⟨docs, hdocs⟩ := hset.exists_documents hseed
  have hlink : linkSources (.ofDocuments docs) = .ok l := by
    rw [← h, linkSources, linkSources, SourceSet.diagnostics, SourceSet.model, ← hdocs]
    rfl
  obtain ⟨d, -, -, hall⟩ := searches_states_of_link hlink hs
  obtain ⟨i, hi, rfl⟩ := List.getElem_of_mem hx
  obtain ⟨hlen, hstates⟩ := List.forall₂_iff_get.1 hall
  exact (hstates i (hlen ▸ hi) hi).legal hbound hok hs (List.getElem_mem hi)

/-! ### the searches of documents that link -/

/-- A search with neither name nor roles. -/
def Decl.Search.plain (kind : SearchKind) (params : List Decl.Predicate) : Decl.Search where
  kind := kind
  name := none
  params := params
  order := []
  distinct := none
  aggregate := none
  group := none
  limit := none
  offset := none
  roles := none
  place := none
  doc := none

/-- Accounts with an address, a password and a team, found by each of them. -/
def accountDocument : Decl.Document where
  structs := [
    { name := "account", place := none, doc := none
      fields := [
        { Decl.Field.bare "id" (.plain .int) none with rowid := true },
        { Decl.Field.bare "mail" (.plain .email) none with unique := true },
        { Decl.Field.bare "secret" (.plain .password) none with nullable := true },
        .bare "team" (.plain .int) none,
        .bare "seat" (.plain .int) none]
      searches := [
        .plain .search [⟨"mail", .eq, none⟩],
        .plain .list [⟨"team", .eq, none⟩, ⟨"mail", .like, none⟩],
        .plain .search [⟨"team", .eq, none⟩, ⟨"seat", .eq, none⟩],
        .plain .search [⟨"seat", .eq, none⟩, ⟨"secret", .eq, none⟩, ⟨"team", .eq, none⟩],
        { Decl.Search.plain .count [⟨"secret", .isnull, none⟩] with distinct := some " " },
        { Decl.Search.plain .list [] with
          aggregate := some ⟨.max, "id", none⟩, group := some "team" }]
      updates := [], deletes := [], insert := none, uniques := [⟨["team", "seat"], none⟩] }]
  enums := []
  bitfields := []
  roles := []

/-- The accounts. -/
def accountSet : SourceSet := .ofDocuments [("account", accountDocument)]

theorem accountSet_links : ∃ l, linkSources accountSet = .ok l := by
  have hfaultless : accountSet.FaultlessBy (·.index) := by
    simp only [SourceSet.FaultlessBy, Model.bindingProblems, Model.marked, Model.topology,
      Model.joined, Model.bound, Model.resolved, Namespace.ofModel_eq_scan]
    decide +kernel
  exact hfaultless.links

/-- Documents link to legal searches only. None of their searches is lost, and none loses a part. -/
theorem searchesLegal_of_link :
    (∀ set l, SourceSet.Reached set → linkSources set = .ok l →
      ∀ sid s, l.model.struct? sid = some s → ∀ x ∈ s.searches, x.Legal l.model sid) ∧
    ∀ docs l, linkSources (.ofDocuments docs) = .ok l →
      l.model.structs.size = (Draft.declared docs).length ∧
      ∀ sid s, l.model.struct? sid = some s →
        ∃ d, (Draft.declared docs)[sid.index]? = some d ∧ s.name = d.2.name ∧
          Forall₂ (fun d x => x.States d) d.2.searches s.searches := by
  refine ⟨fun set l hset h sid s hs x hx => legal_of_linkSources hset h hs hx, ?_⟩
  intro docs l h
  refine ⟨?_, fun sid s hs => searches_states_of_link h hs⟩
  rw [(Model.linked_of_linkWith h).1, Model.size_structs_congr Model.asDeclared_linked]
  exact (SourceSet.holds_ofDocuments docs).lists.size

theorem searchesLegal_of_accountSet :
    ∃ l, linkSources accountSet = .ok l ∧ l.model.structs.size = 1 ∧
      ∃ s, l.model.struct? ⟨0⟩ = some s ∧ s.searches.length = 6 ∧
        (∀ x ∈ s.searches, x.Legal l.model ⟨0⟩) ∧
        ∀ x ∈ s.searches, ∃ d ∈ accountDocument.structs.flatMap Decl.Struct.searches, x.States d := by
  obtain ⟨l, hset⟩ := accountSet_links
  obtain ⟨hsize, hstates⟩ := searchesLegal_of_link.2 _ l hset
  have hs : l.model.struct? ⟨0⟩ = some _ :=
    Array.getElem?_eq_getElem (hsize.trans rfl ▸ Nat.zero_lt_one)
  obtain ⟨d, hd, -, hall⟩ := hstates ⟨0⟩ _ hs
  obtain rfl := Option.some.inj hd
  refine ⟨l, hset, hsize, _, hs, hall.length_eq.symm, ?_, ?_⟩
  · exact searchesLegal_of_link.1 _ l (SourceSet.reached_ofDocuments _) hset ⟨0⟩ _ hs
  · intro x hx
    obtain ⟨i, hi, rfl⟩ := List.getElem_of_mem hx
    obtain ⟨hlen, hget⟩ := List.forall₂_iff_get.1 hall
    exact ⟨_, List.getElem_mem (hlen ▸ hi), hget i (hlen ▸ hi) hi⟩

end ModelLinker
