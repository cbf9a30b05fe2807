import ModelLinker.Proofs.Merged.Run
import ModelLinker.Proofs.Merged.Sources
import ModelLinker.Proofs.Relinked.Filled
import ModelLinker.Proofs.Reordering
import ModelLinker.Proofs.Searches.Legal

/-!
# Linking is modular

Two lists of documents that link, and whose names are apart, link together as long as there are short
names for the joins of both; nothing else that the one declares can stand in the way of the other.
Every structure and every role then is what it was when its own list was linked alone
(`linkSources_append`), up to numbers, the short names of joins, and the fields that refer to it.
-/

namespace ModelLinker

open Text (sameName sameName_refl)

namespace Model

/-! ### how many joins there are -/

/-- How many joins the structures of a model have. -/
def joinCount (m : Model) : ℕ := (m.structs.toList.flatMap Struct.joins).length

/-- If the short names last, a linked model has a join for every chain. -/
theorem joinCount_linked {m : Model} (hok : Diagnostics.isOk (assignJoins m.bound).2.2 = true) :
    m.linked.joinCount = m.bound.joinTotal m.bound.structIds := by
  have hview : m.linked.structs.map Struct.joins = m.joined.structs.map Struct.joins :=
    map_linked_joined (fun _ _ => rfl) (fun _ _ => rfl) (fun _ _ => rfl) m
  have hjoins : m.linked.structs.toList.map Struct.joins =
      (joinsFrom m.bound 0 m.bound.structIds).1 := by
    rw [← Array.toList_map, hview, Array.toList_map]
    exact joins_assignJoins (isOk_assignJoins.1 hok)
  calc m.linked.joinCount
      = ((joinsFrom m.bound 0 m.bound.structIds).1.map (List.map Join.path)).flatten.length := by
        rw [joinCount, List.flatMap, hjoins, ← List.map_flatten, List.length_map]
    _ = m.bound.joinTotal m.bound.structIds := by rw [(joinsFrom_paths hok).2]; rfl

/-! ### what is kept in a greater model -/

/-- A structure of a greater model that is the same but for numbers, short names, and the fields that
refer to it. -/
structure StructKeptIn (m w : Model) (id id' : StructId) (s s' : Struct) : Prop where
  name : s'.name = s.name
  height : s'.height = s.height
  flags : s'.flags = s.flags
  rowid : s'.rowid.map w.qualifiedName? = s.rowid.map m.qualifiedName?
  targets : w.targets id' = m.targets id
  joins : s'.joins.map Join.path = s.joins.map Join.path
  searches : s'.searches.map (fun x => (x.name, x.kind, x.unique)) =
    s.searches.map fun x => (x.name, x.kind, x.unique)

/-- All structures and roles of the first model are in the second one, and what has the name of one
of them is the same there. -/
structure KeptIn (m w : Model) : Prop where
  structs : ∀ id s, m.struct? id = some s →
    ∃ id' s', w.struct? id' = some s' ∧ sameName s.name s'.name = true
  sameStruct : ∀ id id' s s', m.struct? id = some s → w.struct? id' = some s' →
    sameName s.name s'.name = true → StructKeptIn m w id id' s s'
  roles : ∀ id r, m.role? id = some r →
    ∃ id' r', w.role? id' = some r' ∧ sameName r.name r'.name = true
  sameAncestors : ∀ id id' r r', m.role? id = some r → w.role? id' = some r' →
    sameName r.name r'.name = true →
    (w.ancestors id').map w.roleName = (m.ancestors id).map m.roleName

/-- The rowids of structures are fields of the model. -/
def RowidsExist (m : Model) : Prop :=
  ∀ id s f, m.struct? id = some s → s.rowid = some f → ∃ g, m.field? f = some g

theorem rowidsExist_linked (m : Model) : m.linked.RowidsExist := by
  intro id s f hs hf
  rw [rowid_linked hs] at hf
  obtain ⟨⟨f, g⟩, hhead, rfl⟩ := Option.map_eq_some_iff.1 hf
  have hmem := List.mem_of_mem_filter (List.mem_of_mem_head? hhead)
  exact ⟨g, field?_of_mem_fieldsOf hmem⟩

namespace Within

variable {ρ : Renumbering} {m w : Model} (h : m.Within ρ w)

include h

theorem qualifiedName? {id : FieldId} {f : Field} (hf : m.field? id = some f) :
    w.qualifiedName? (ρ.field id) = m.qualifiedName? id := by
  obtain ⟨s, hs, -⟩ := h.owned.owner hf
  obtain ⟨s', hs', hlike⟩ := h.struct? hs
  have hname : s'.name = s.name := hlike.name
  simp [Model.qualifiedName?, hf, h.field? hf, hs, hs', hname]

theorem targets (hrefs : m.ReferencesExist) {id : StructId} (hid : id ∈ m.structIds) :
    w.targets (ρ.struct id) = m.targets id := by
  simp only [Model.targets, h.fieldsOf hid, List.map_map]
  refine List.map_congr_left fun e he => ?_
  simp only [Function.comp_apply, Like.entry, Field.rename_name, Field.rename_reference,
    Option.map_map, Prod.mk.injEq, true_and]
  cases hr : e.2.reference with
  | none => rfl
  | some r =>
    obtain ⟨-, g, hg⟩ := hrefs e.1 e.2 r (field?_of_mem_fieldsOf he) hr
    exact congrArg some (h.qualifiedName? hg)

theorem structKeptIn (hrefs : m.ReferencesExist) (hrowids : m.RowidsExist) {id : StructId}
    {s s' : Struct} (hs : m.struct? id = some s) (hlike : s.Within ρ s') :
    StructKeptIn m w id (ρ.struct id) s s' where
  name := hlike.name
  height := hlike.height
  flags := hlike.flags
  rowid := by
    rw [show s'.rowid = s.rowid.map ρ.field from hlike.rowid, Option.map_map]
    cases hf : s.rowid with
    | none => rfl
    | some f =>
      obtain ⟨g, hg⟩ := hrowids id s f hs hf
      exact congrArg some (h.qualifiedName? hg)
  targets := h.targets hrefs (mem_structIds.2 (struct?_eq_some.1 hs).1)
  joins := hlike.joins
  searches := by
    rw [show s'.searches = s.searches.map (Search.rename ρ) from hlike.searches, List.map_map]
    rfl

/-- In a model that repeats no name, the parts of a model that lies within it are found by their
names. -/
theorem keptIn (hd : w.NamesDistinct) (hrefs : m.ReferencesExist) (hrowids : m.RowidsExist)
    (hm : m.RoleTree) (hw : w.RoleTree) : m.KeptIn w where
  structs id s hs := by
    obtain ⟨s', hs', hlike⟩ := h.struct? hs
    have hname : s'.name = s.name := hlike.name
    exact ⟨_, s', hs', by rw [hname, sameName_refl]⟩
  sameStruct id id' s s' hs hs' hn := by
    obtain ⟨x, hx, hlike⟩ := h.struct? hs
    have hname : x.name = s.name := hlike.name
    rw [← hname] at hn
    obtain rfl := hd.struct_unique hx hs' hn
    obtain rfl : x = s' := Option.some.inj (hx.symm.trans hs')
    exact h.structKeptIn hrefs hrowids hs hlike
  roles id r hr := by
    obtain ⟨r', hr', hlike⟩ := h.role? hr
    exact ⟨_, r', hr', by rw [hlike.name, sameName_refl]⟩
  sameAncestors id id' r r' hr hr' hn := by
    obtain ⟨x, hx, hlike⟩ := h.role? hr
    rw [← hlike.name] at hn
    obtain rfl := hd.role_unique hx hr' hn
    rw [h.ancestors hm hw hr, List.map_map]
    refine List.map_congr_left fun a ha => ?_
    obtain ⟨p, -, hp⟩ := Relation.TransGen.tail'_iff.1 (hm.above.1 ha)
    obtain ⟨q, hq⟩ := hm.exists_parent hp
    exact h.roleName hq

end Within

end Model

/-! ### documents -/

namespace SourceSet

variable {docs docs' : List (String × Decl.Document)} {l : Linked}

/-- The model of documents that link is complete. -/
theorem complete_of_linkSources (h : linkSources (.ofDocuments docs) = .ok l) :
    (ofDocuments docs).model.Complete := by
  have hset := reached_ofDocuments docs
  obtain ⟨hbound, hrefs, -⟩ := sound_of_linkSources hset h
  rw [(Model.linked_of_linkWith h).1] at hbound hrefs
  obtain ⟨-, hok, -⟩ := linkWith_eq_ok_iff.1 h
  rw [Diagnostics.isOk_append, Bool.and_eq_true] at hok
  exact ⟨hok.2, hset.built.reservedRoles, hrefs.referencesExist, hbound.pathsExist⟩

/-- A list of documents links if there is some structure, nothing is wrong with the documents and
linking finds no error. -/
theorem links_iff : (∃ l, linkSources (.ofDocuments docs) = .ok l) ↔
    (ofDocuments docs).model.structs.isEmpty = false ∧
      Diagnostics.isOk (ofDocuments docs).diagnostics = true ∧
      Diagnostics.isOk (ofDocuments docs).model.problems = true := by
  simp only [linkSources, linkWith_eq_ok_iff, Diagnostics.isOk_append, Bool.and_eq_true,
    exists_and_left, exists_eq, and_true]

theorem diagnostics_append :
    (ofDocuments (docs ++ docs')).diagnostics =
      (ofDocuments docs).diagnostics ++ (ofDocuments docs').diagnostics := by
  rw [diagnostics, diagnostics, diagnostics, (holds_ofDocuments _).problems,
    (holds_ofDocuments _).problems, (holds_ofDocuments _).problems, List.flatMap_append]

end SourceSet

section

open SourceSet

variable {docs docs' : List (String × Decl.Document)} {l l' : Linked}
  (h : linkSources (.ofDocuments docs) = .ok l) (h' : linkSources (.ofDocuments docs') = .ok l')
  (hapart : (ofDocuments docs).model.NamesApart (ofDocuments docs').model)

include h h'

theorem complete_either (b : Bool) : (either docs docs' b).Complete := by
  cases b
  exacts [complete_of_linkSources h, complete_of_linkSources h']

include hapart

/-- The model of all documents, which repeats no name, is made up of models that link. -/
theorem exists_merges_of_linkSources :
    ∃ ρ, Model.Merges ρ (either docs docs') (ofDocuments (docs ++ docs')).model ∧
      (ofDocuments (docs ++ docs')).model.NamesDistinct ∧
      (ofDocuments (docs ++ docs')).model.structIds =
        [false, true].flatMap fun b => (either docs docs' b).structIds.map (ρ b).struct := by
  obtain ⟨ρ, hmerges, hids⟩ := exists_merges docs docs'
  have hcomplete := complete_either h h'
  refine ⟨ρ, hmerges, hmerges.namesDistinct
    (fun b => Namespace.isOk_problems_iff.1 (hcomplete b).faultless.names)
    (fun b => (hcomplete b).roles) ?_, hids⟩
  rintro (_ | _) (_ | _) hne
  exacts [absurd rfl hne, hapart, hapart.symm, absurd rfl hne]

/-- The joins of both lists share the short names. -/
theorem isOk_assignJoins_append :
    Diagnostics.isOk (assignJoins (ofDocuments (docs ++ docs')).model.bound).2.2 = true ↔
      l.model.joinCount + l'.model.joinCount ≤ greatestJoinCount := by
  obtain ⟨ρ, hmerges, hnames, hids⟩ := exists_merges_of_linkSources h h' hapart
  have hcomplete := complete_either h h'
  have hcount := fun b => Model.joinCount_linked (hcomplete b).faultless.joins
  rw [isOk_joinsFrom, hmerges.joinTotal_bound hcomplete hnames
    (reached_ofDocuments _).built.reservedRoles (.of_eq hids),
    (Model.linked_of_linkWith h).1, (Model.linked_of_linkWith h').1]
  simp only [Model.joinTotal] at hcount
  simp only [List.flatMap_cons, List.flatMap_nil, List.length_append, List.length_nil, ← hcount]
  rfl

/-- If the short names last, nothing is wrong with all documents together, and everything in either
list stays as it is. -/
theorem linked_append
    (hok : Diagnostics.isOk (assignJoins (ofDocuments (docs ++ docs')).model.bound).2.2 = true) :
    Diagnostics.isOk (ofDocuments (docs ++ docs')).model.problems = true ∧
      ∀ b, (either docs docs' b).linked.KeptIn (ofDocuments (docs ++ docs')).model.linked := by
  obtain ⟨ρ, hmerges, hnames, -⟩ := exists_merges_of_linkSources h h' hapart
  have hcomplete := complete_either h h'
  have hroles := (reached_ofDocuments (docs ++ docs')).built.reservedRoles
  obtain ⟨hlinked, hproblems⟩ := hmerges.linked hcomplete hnames hroles hok
  exact ⟨hproblems, fun b => (hlinked.within b).keptIn hnames.linked (hcomplete b).references
    (Model.rowidsExist_linked _) (hcomplete b).roles.roleTree_linked hroles.roleTree_linked⟩

end

open SourceSet in
/-- Documents that link, and whose names are apart from those of others that link, do so together with
these exactly if the short names last for the joins of both. Then all structures and roles of both
are what they were. -/
theorem linkSources_append {docs docs' : List (String × Decl.Document)} {l l' : Linked}
    (h : linkSources (.ofDocuments docs) = .ok l) (h' : linkSources (.ofDocuments docs') = .ok l')
    (hapart : (ofDocuments docs).model.NamesApart (ofDocuments docs').model) :
    ((∃ k, linkSources (.ofDocuments (docs ++ docs')) = .ok k) ↔
        l.model.joinCount + l'.model.joinCount ≤ greatestJoinCount) ∧
      ∀ k, linkSources (.ofDocuments (docs ++ docs')) = .ok k →
        l.model.KeptIn k.model ∧ l'.model.KeptIn k.model := by
  refine ⟨?_, fun k hk => ?_⟩
  · rw [← isOk_assignJoins_append h h' hapart]
    refine ⟨fun ⟨k, hk⟩ => (faultless_of_linkWith hk).2.joins, fun hok => ?_⟩
    obtain ⟨hstructs, hdocs, -⟩ := links_iff.1 ⟨l, h⟩
    obtain ⟨-, hdocs', -⟩ := links_iff.1 ⟨l', h'⟩
    refine links_iff.2 ⟨?_, ?_, (linked_append h h' hapart hok).1⟩
    · obtain ⟨ρ, hmerges, -⟩ := exists_merges docs docs'
      have hle := (hmerges.within false).size_structs_le
      rw [← Bool.not_eq_true, Array.isEmpty_iff_size_eq_zero] at hstructs ⊢
      exact fun hzero => hstructs (Nat.le_zero.1 (hzero ▸ hle))
    · rw [diagnostics_append, Diagnostics.isOk_append, hdocs, hdocs']
      rfl
  · have hkept := (linked_append h h' hapart (faultless_of_linkWith hk).2.joins).2
    rw [(Model.linked_of_linkWith h).1, (Model.linked_of_linkWith h').1,
      (Model.linked_of_linkWith hk).1]
    exact ⟨hkept false, hkept true⟩

/-- The staff of a firm and the accounts have no name in common, so the roles that only the staff has
change nothing in the accounts. -/
theorem staff_and_accounts_link :
    ∃ l l' k, linkSources staffSet = .ok l ∧ linkSources accountSet = .ok l' ∧
      staffSet.model.NamesApart accountSet.model ∧
      linkSources (.ofDocuments ([("staff", staffDocument), ("firm", firmDocument)] ++
        [("account", accountDocument)])) = .ok k ∧
      l.model.KeptIn k.model ∧ l'.model.KeptIn k.model := by
  obtain ⟨l, h, -⟩ := staffSet_links
  obtain ⟨l', h'⟩ := accountSet_links
  have hapart : staffSet.model.NamesApart accountSet.model :=
    ⟨by decide +kernel, by decide +kernel, by decide +kernel, by decide +kernel⟩
  obtain ⟨hiff, hkept⟩ := linkSources_append h h' hapart
  have hcount : l.model.joinCount + l'.model.joinCount ≤ greatestJoinCount := by
    rw [(Model.linked_of_linkWith h).1, (Model.linked_of_linkWith h').1,
      Model.joinCount_linked (faultless_of_linkWith h).2.joins,
      Model.joinCount_linked (faultless_of_linkWith h').2.joins]
    simp only [Model.bound, Model.resolved, Namespace.ofModel_eq_scan]
    decide +kernel
  obtain ⟨k, hk⟩ := hiff.2 hcount
  exact ⟨l, l', k, h, h', hapart, hk, hkept k hk⟩

end ModelLinker
