import ModelLinker.Proofs.Dotted
import ModelLinker.Proofs.Joins.Assigned

/-!
# The joins that paths are bound to

A path of a search is bound to the first join of its structure that has the dotted text of the steps
it takes (`Model.JoinsBound`). This is the join of the chain that the path walks unless an earlier
chain has the same text, which takes a dot in the name of a structure-typed field. The names of
fields are not kept free of dots, so there are documents in which a path is bound to the join of
another chain (`misleadingSet_join`).
-/

namespace ModelLinker

open Text (fold joinDots sameName sameName_iff)
open Relation

/-- The structure-typed fields that a path steps through. -/
def FieldPath.steps (p : FieldPath) : List FieldId := p.segments.dropLast.filterMap NameRef.target

/-- The paths of a search: those of its conditions, its orders, its aggregate and its group. -/
def Search.fieldPaths (x : Search) : List FieldPath :=
  x.params.map Predicate.path ++ x.order.map OrderTerm.path ++
    x.aggregate.toList.map Aggregate.path ++ x.group.toList

/-- The paths of all searches of a structure. -/
def Struct.fieldPaths (s : Struct) : List FieldPath := s.searches.flatMap Search.fieldPaths

namespace Model

/-- The names of structure-typed fields have no dots. -/
def DotlessEmbeds (m : Model) : Prop :=
  ∀ s ∈ m.structIds, ∀ e ∈ m.embeds s, '.' ∉ (m.fieldName e.1).toList

/-- Two chains of a structure have the same dotted text up to the case of letters. -/
def sameText (m : Model) (c c' : List FieldId) : Bool := sameName (m.chainPath c) (m.chainPath c')

/-- What the paths of searches are bound to. -/
structure JoinsBound (m : Model) : Prop where
  entries : ∀ {s x}, m.struct? s = some x →
    m.Numbered (m.chainsBefore s) (m.joinChains s) x.joins
  direct : ∀ {s x p}, m.struct? s = some x → p ∈ x.fieldPaths → p.segments.length ≤ 1 →
    p.join = none
  walked : ∀ {s x p}, m.struct? s = some x → p ∈ x.fieldPaths → 2 ≤ p.segments.length →
    p.steps ∈ m.joinChains s ∧ p.steps.length + 1 = p.segments.length
  first : ∀ {s x p}, m.struct? s = some x → p ∈ x.fieldPaths → 2 ≤ p.segments.length →
    ∃ i, p.join = some i ∧ (m.joinChains s).findIdx? (m.sameText · p.steps) = some i
  own : ∀ {s x p}, m.struct? s = some x → p ∈ x.fieldPaths → 2 ≤ p.segments.length →
    (p.join.bind ((m.joinChains s)[·]?) = some p.steps ↔
      ∀ c ∈ (m.joinChains s).takeWhile (· ≠ p.steps), m.sameText c p.steps = false)
  dotless : m.DotlessEmbeds → ∀ {s x p}, m.struct? s = some x → p ∈ x.fieldPaths →
    2 ≤ p.segments.length → p.join.bind ((m.joinChains s)[·]?) = some p.steps
  same : m.DotlessEmbeds → ∀ {s x p q}, m.struct? s = some x → p ∈ x.fieldPaths →
    q ∈ x.fieldPaths → 2 ≤ p.segments.length → 2 ≤ q.segments.length →
    (p.join = q.join ↔ p.steps = q.steps)

variable {m : Model}

/-! ### chains and their texts -/

/-- Different fields of a structure have different names. -/
def FieldsDistinct (m : Model) : Prop :=
  ∀ {s id id' f f'}, (id, f) ∈ m.fieldsOf s → (id', f') ∈ m.fieldsOf s →
    sameName f.name f'.name = true → id = id'

theorem embeds_unique {s t t' : StructId} {id : FieldId} (h : (id, t) ∈ m.embeds s)
    (h' : (id, t') ∈ m.embeds s) : t = t' := by
  obtain ⟨⟨i, f⟩, hf, heq⟩ := List.mem_filterMap.1 h
  obtain ⟨⟨i', f'⟩, hf', heq'⟩ := List.mem_filterMap.1 h'
  obtain ⟨u, hu, hpair⟩ := Option.map_eq_some_iff.1 heq
  obtain ⟨u', hu', hpair'⟩ := Option.map_eq_some_iff.1 heq'
  obtain ⟨rfl, rfl⟩ := Prod.mk.inj hpair
  obtain ⟨rfl, rfl⟩ := Prod.mk.inj hpair'
  have hfield : some f = some f' :=
    (field?_of_mem_fieldsOf hf).symm.trans (field?_of_mem_fieldsOf hf')
  rw [Option.some.inj hfield, hu'] at hu
  exact (Option.some.inj hu).symm

/-- The names of the fields tell the chains of a structure apart. -/
theorem Chain.eq_of_names (hd : m.FieldsDistinct) {s t t' : StructId} {c c' : List FieldId}
    (h : m.Chain s c t) (h' : m.Chain s c' t')
    (hnames : (c.map m.fieldName).map fold = (c'.map m.fieldName).map fold) : c = c' := by
  induction h generalizing c' t' with
  | nil =>
    cases c' with
    | nil => rfl
    | cons _ _ => simp at hnames
  | @step s u _ id rest he _ ih =>
    cases h' with
    | nil => simp at hnames
    | @step _ u' _ id' rest' he' hrest' =>
      obtain ⟨f, hf, hlisted⟩ := field?_of_mem_embeds he
      obtain ⟨f', hf', hlisted'⟩ := field?_of_mem_embeds he'
      simp only [List.map_cons, List.cons.injEq, fieldName_of_field? hf, fieldName_of_field? hf']
        at hnames
      obtain rfl : id = id' := hd hlisted hlisted' (sameName_iff.2 hnames.1)
      obtain rfl := embeds_unique he he'
      rw [ih hrest' hnames.2]

theorem Chain.dotless (hdot : m.DotlessEmbeds) {s t : StructId} {c : List FieldId}
    (h : m.Chain s c t) : ∀ n ∈ c.map m.fieldName, '.' ∉ n.toList := by
  induction h with
  | nil => simp
  | @step s t _ id _ he _ ih =>
    have hfirst := hdot s (mem_structIds_of_embeds ⟨id, he⟩) (id, t) he
    exact List.forall_mem_cons.2 ⟨hfirst, ih⟩

/-- Without dots in names the texts tell the chains of a structure apart. -/
theorem Chain.eq_of_sameText (hd : m.FieldsDistinct) (hdot : m.DotlessEmbeds) {s t t' : StructId}
    {c c' : List FieldId} (h : m.Chain s c t) (h' : m.Chain s c' t') (hne : c ≠ []) (hne' : c' ≠ [])
    (htext : m.sameText c c' = true) : c = c' := by
  refine h.eq_of_names hd h' ?_
  exact (Text.sameName_joinDots (by simpa using hne) (by simpa using hne') (h.dotless hdot)
    (h'.dotless hdot)).1 htext

/-! ### what a path walks -/

/-- The steps of a path that can be walked are a chain, each field of which has the name that the
path gives it. -/
theorem Walks.chain {s : StructId} {path : List (NameRef FieldId)} (h : m.Walks s path) :
    (∃ t, m.Chain s (path.dropLast.filterMap NameRef.target) t) ∧
      ((path.dropLast.filterMap NameRef.target).map m.fieldName).map fold =
        (path.dropLast.map NameRef.name).map fold := by
  induction h with
  | nil => exact ⟨⟨_, .nil⟩, rfl⟩
  | last => exact ⟨⟨_, .nil⟩, rfl⟩
  | @step s r id f t rest hb he hne _ ih =>
    obtain ⟨⟨u, hchain⟩, hnames⟩ := ih
    have hembeds : (id, t) ∈ m.embeds s :=
      List.mem_filterMap.2 ⟨(id, f), hb.listed, by simp [he]⟩
    have hname : m.fieldName id = f.name := fieldName_of_field? (field?_of_mem_fieldsOf hb.listed)
    rw [List.dropLast_cons_of_ne_nil hne, List.filterMap_cons_some hb.target]
    refine ⟨⟨u, .step hembeds hchain⟩, ?_⟩
    rw [List.map_cons, List.map_cons, List.map_cons, List.map_cons, hnames, hname,
      sameName_iff.1 hb.name]

end Model

/-! ### paths through linking -/

theorem fieldPaths_bindJoins (s : Struct) :
    s.bindJoins.fieldPaths = s.fieldPaths.map (FieldPath.bindJoin s) := by
  simp only [Struct.fieldPaths, Struct.bindJoins, List.flatMap_map, List.map_flatMap]
  refine List.flatMap_congr fun x _ => ?_
  simp [Search.fieldPaths, Option.toList_map, Function.comp_def]

theorem fieldPaths_unique (s : Struct) (f : Search → Bool) :
    Struct.fieldPaths { s with searches := s.searches.map fun x => { x with unique := f x } } =
      s.fieldPaths := by
  simp only [Struct.fieldPaths]
  apply flatMap_map_of_eq
  exact fun _ => rfl

theorem segments_mem_paths {s : Struct} {p : FieldPath} (h : p ∈ s.fieldPaths) :
    p.segments ∈ s.paths := by
  have hpaths : s.paths = s.fieldPaths.map FieldPath.segments := by
    simp only [Struct.paths, Struct.fieldPaths, List.map_flatMap]
    refine List.flatMap_congr fun x _ => ?_
    simp [Search.paths, Search.fieldPaths, Function.comp_def]
  exact hpaths ▸ List.mem_map_of_mem h

namespace Model

variable {m : Model}

/-- The stages after the joins leave the joins and the paths alone. -/
theorem map_paths_linked (m : Model) :
    m.linked.structs.map (fun x => (x.joins, x.fieldPaths)) =
      m.joined.structs.map (fun x => (x.joins, x.fieldPaths)) :=
  map_linked_joined (fun _ _ => rfl) (fun s f => congrArg (s.joins, ·) (fieldPaths_unique s f))
    (fun _ _ => rfl) m

/-- A path of a linked model is bound by its steps to a join of its structure. -/
theorem join_linked {s : StructId} {x : Struct} {p : FieldPath}
    (hx : m.linked.struct? s = some x) (hp : p ∈ x.fieldPaths) :
    p.join = p.joinPath.bind x.joinIndex? := by
  obtain ⟨y, hy, hsame⟩ := struct?_of_map_eq (map_paths_linked m) hx
  obtain ⟨hjoins, hpaths⟩ := Prod.mk.inj hsame
  simp only [joined, assignJoins, struct?, Array.getElem?_map, Option.map_eq_some_iff] at hy
  obtain ⟨z, -, rfl⟩ := hy
  rw [← hpaths, fieldPaths_bindJoins] at hp
  obtain ⟨q, -, rfl⟩ := List.mem_map.1 hp
  have hindex : z.joinIndex? = x.joinIndex? := by
    funext path
    exact congrArg (List.findIdx? fun j : Join => sameName j.path path) hjoins
  rw [← hindex]
  rfl

/-- The join of a text is that of the first chain with this text. -/
theorem joinIndex?_eq {x : Struct} {chains : List (List FieldId)} {c : List FieldId} {text : String}
    (hjoins : x.joins.map Join.path = chains.map m.chainPath)
    (htext : fold text = fold (m.chainPath c)) :
    x.joinIndex? text = chains.findIdx? (m.sameText · c) := by
  have hpath : ∀ path, sameName path text = sameName path (m.chainPath c) :=
    Namespace.sameName_congr (sameName_iff.2 htext)
  have hfind := congrArg (List.findIdx? fun path => sameName path (m.chainPath c)) hjoins
  rw [List.findIdx?_map, List.findIdx?_map] at hfind
  simp only [Struct.joinIndex?, hpath]
  exact hfind

/-- Two fields of one structure of a linked model have different names, as they had before. -/
theorem fieldsDistinct_linked (hd : m.NamesDistinct) : m.linked.FieldsDistinct :=
  fun hf hf' hn => congrArg Prod.fst (hd.linked.field_unique hf hf' hn)

/-! ### what paths are bound to -/

/-- A test that an item passes first finds it exactly if nothing before it passes. -/
theorem find?_eq_some_iff_takeWhile {α : Type} [DecidableEq α] {p : α → Bool} {a : α} {l : List α}
    (hmem : a ∈ l) (ha : p a = true) :
    l.find? p = some a ↔ ∀ b ∈ l.takeWhile (· ≠ a), p b = false := by
  induction l with
  | nil => simp at hmem
  | cons b rest ih =>
    by_cases hb : b = a
    · subst hb
      simp [ha]
    · have hrest : a ∈ rest := (List.mem_cons.1 hmem).resolve_left (Ne.symm hb)
      cases hpb : p b <;> simp [hb, hpb, ih hrest]

/-- The steps of a path with some are a chain, and the text of the path up to its last field is that
of the chain. -/
theorem Walks.steps {s : StructId} {p : FieldPath} (h : m.Walks s p.segments)
    (hlen : 2 ≤ p.segments.length) :
    (∃ t, m.Chain s p.steps t) ∧ p.steps.length + 1 = p.segments.length ∧
      ∃ text, p.joinPath = some text ∧ fold text = fold (m.chainPath p.steps) := by
  obtain ⟨hchain, hnames⟩ := h.chain
  have hlength : p.steps.length + 1 = p.segments.length := by
    have := congrArg List.length hnames
    simp only [List.length_map, List.length_dropLast] at this
    rw [FieldPath.steps, this]
    omega
  have hsome : p.joinPath = some (joinDots (p.segments.dropLast.map NameRef.name)) := by
    unfold FieldPath.joinPath
    split
    · rename_i hnil
      have := congrArg List.length hnil
      simp only [List.length_dropLast, List.length_nil] at this
      omega
    · rfl
  refine ⟨hchain, hlength, _, hsome, ?_⟩
  rw [chainPath, Text.fold_joinDots, Text.fold_joinDots]
  exact congrArg joinDots hnames.symm

/-- Of the chains with a text the first one is found, so a chain is found exactly if none before it
has its text. -/
theorem findIdx?_sameText {chains : List (List FieldId)} {c : List FieldId} (hc : c ∈ chains) :
    (chains.findIdx? (m.sameText · c)).bind (chains[·]?) = some c ↔
      ∀ c' ∈ chains.takeWhile (· ≠ c), m.sameText c' c = false := by
  rw [← List.find?_eq_bind_findIdx?_getElem?,
    find?_eq_some_iff_takeWhile hc (Text.sameName_refl _)]

/-- Without dots in names every chain is found by its text. -/
theorem findIdx?_of_dotless (hacyclic : ∀ s, ¬ TransGen m.Embeds s s) (hd : m.FieldsDistinct)
    (hdot : m.DotlessEmbeds) {s : StructId} {c : List FieldId} (hc : c ∈ m.joinChains s) :
    ((m.joinChains s).findIdx? (m.sameText · c)).bind ((m.joinChains s)[·]?) = some c := by
  obtain ⟨hne, t, hchain⟩ := (mem_joinChains_iff hacyclic).1 hc
  refine (findIdx?_sameText hc).2 fun c' hc' => ?_
  obtain ⟨hne', t', hchain'⟩ :=
    (mem_joinChains_iff hacyclic).1 ((List.takeWhile_prefix _).subset hc')
  have hother : c' ≠ c := by simpa using List.all_eq_true.1 List.all_takeWhile c' hc'
  rw [← Bool.not_eq_true]
  exact fun htext => hother (hchain'.eq_of_sameText hd hdot hchain hne' hne htext)

/-- The paths of searches in a linked model are bound to the first joins with their texts. -/
theorem joinsBound_linked (hacyclic : ∀ s, ¬ TransGen m.linked.Embeds s s)
    (hd : m.linked.FieldsDistinct)
    (hnumbered : ∀ {s x}, m.linked.struct? s = some x →
      m.linked.Numbered (m.linked.chainsBefore s) (m.linked.joinChains s) x.joins)
    (hwalks : ∀ {s x}, m.linked.struct? s = some x → ∀ p ∈ x.paths, m.linked.Walks s p) :
    m.linked.JoinsBound := by
  have hsteps : ∀ {s x p}, m.linked.struct? s = some x → p ∈ x.fieldPaths →
      2 ≤ p.segments.length →
      p.steps ∈ m.linked.joinChains s ∧ p.steps.length + 1 = p.segments.length ∧
        p.join = (m.linked.joinChains s).findIdx? (m.linked.sameText · p.steps) := by
    intro s x p hx hp hlen
    obtain ⟨hchain, hlength, text, hpath, htext⟩ :=
      (hwalks hx _ (segments_mem_paths hp)).steps hlen
    have hne : p.steps ≠ [] := List.ne_nil_of_length_pos (by omega)
    refine ⟨(mem_joinChains_iff hacyclic).2 ⟨hne, hchain⟩, hlength, ?_⟩
    rw [join_linked hx hp, hpath, Option.bind_some, joinIndex?_eq (hnumbered hx).paths htext]
  have hdotless : m.linked.DotlessEmbeds → ∀ {s x p}, m.linked.struct? s = some x →
      p ∈ x.fieldPaths → 2 ≤ p.segments.length →
      p.join.bind ((m.linked.joinChains s)[·]?) = some p.steps := by
    intro hdot s x p hx hp hlen
    obtain ⟨hmem, -, hjoin⟩ := hsteps hx hp hlen
    rw [hjoin, findIdx?_of_dotless hacyclic hd hdot hmem]
  refine
    { entries := hnumbered
      direct := ?_
      walked := fun hx hp hlen => ⟨(hsteps hx hp hlen).1, (hsteps hx hp hlen).2.1⟩
      first := ?_
      own := ?_
      dotless := hdotless
      same := ?_ }
  · intro s x p hx hp hlen
    have hnil : p.segments.dropLast = [] := by
      rw [← List.length_eq_zero_iff, List.length_dropLast]
      omega
    rw [join_linked hx hp, FieldPath.joinPath, hnil]
    rfl
  · intro s x p hx hp hlen
    obtain ⟨hmem, -, hjoin⟩ := hsteps hx hp hlen
    have hfound : (m.linked.joinChains s).findIdx? (m.linked.sameText · p.steps) = some _ :=
      List.findIdx?_eq_some_of_exists ⟨p.steps, hmem, Text.sameName_refl _⟩
    exact ⟨_, hjoin.trans hfound, hfound⟩
  · intro s x p hx hp hlen
    obtain ⟨hmem, -, hjoin⟩ := hsteps hx hp hlen
    rw [hjoin, findIdx?_sameText hmem]
  · intro hdot s x p q hx hp hq hlenp hlenq
    obtain ⟨-, -, hjoinp⟩ := hsteps hx hp hlenp
    obtain ⟨-, -, hjoinq⟩ := hsteps hx hq hlenq
    constructor
    · intro hjoin
      have hown := hdotless hdot hx hp hlenp
      rw [hjoin, hdotless hdot hx hq hlenq] at hown
      exact (Option.some.inj hown).symm
    · intro hsame
      rw [hjoinp, hjoinq, hsame]

end Model

/-! ### linked models -/

/-- In every linked model the paths of searches are bound to the first joins with their texts. These
are the joins of the chains that they walk exactly if no chain before them has the same text, so
always if the names of structure-typed fields have no dots. -/
theorem joinsBound_of_link {seed : Diagnostics} {m : Model} {l : Linked}
    (h : linkWith seed m = .ok l) : l.model.JoinsBound := by
  obtain ⟨hresolve, -⟩ := Model.stagesOk_of_linkWith h
  obtain ⟨-, hok, rfl⟩ := linkWith_eq_ok_iff.1 h
  simp only [Model.problems, Model.bindingProblems, Diagnostics.isOk_append, Bool.and_eq_true]
    at hok
  obtain ⟨-, ⟨⟨⟨⟨⟨hnames, -⟩, -⟩, -⟩, hrecursion, hjoins⟩, -⟩⟩ := hok
  exact Model.joinsBound_linked (Model.linked_orderedBy hrecursion).acyclic
    (Model.fieldsDistinct_linked (Namespace.isOk_problems_iff.1 hnames))
    (Model.numbered_linked hjoins) fun hx => (Model.linked_operations hresolve hx).1

/-! ### a path and its join -/

namespace Model

/-- The names of structure-typed fields are those of the model once its names are bound. -/
theorem dotlessEmbeds_linked (m : Model) : m.linked.DotlessEmbeds ↔ m.bound.DotlessEmbeds := by
  have hfields := sameFields_of_bound m
  rw [DotlessEmbeds, structIds_congr m.size_structs_linked, hfields.embeds, hfields.fieldName,
    DotlessEmbeds]

/-- A path keeps the join that it is bound to when the joins are assigned. -/
theorem exists_path_linked {m : Model} {s : StructId} {steps : List FieldId} {join : Option Nat}
    (h : ∃ y ∈ m.joined.struct? s, ∃ p ∈ y.fieldPaths, p.steps = steps ∧ p.join = join) :
    ∃ x p, m.linked.struct? s = some x ∧ p ∈ x.fieldPaths ∧ p.steps = steps ∧ p.join = join := by
  obtain ⟨y, hy, p, hp, hbound⟩ := h
  obtain ⟨x, hx, hsame⟩ := struct?_of_map_eq (map_paths_linked m).symm hy
  exact ⟨x, p, hx, (Prod.mk.inj hsame).2 ▸ hp, hbound⟩

end Model

theorem staffSet_path : ∃ y ∈ staffSet.model.joined.struct? ⟨0⟩,
    ∃ p ∈ y.fieldPaths, p.steps = [⟨2⟩] ∧ p.join = some 0 := by
  simp only [Model.joined, Model.bound, Model.resolved, Namespace.ofModel_eq_scan]
  decide +kernel

theorem staffSet_dotless : staffSet.model.linked.DotlessEmbeds := by
  rw [Model.dotlessEmbeds_linked, Model.DotlessEmbeds]
  simp only [Model.bound, Model.resolved, Namespace.ofModel_eq_scan]
  decide +kernel

/-- Employees are searched by the name of their firm. -/
theorem joinsBound_of_staffSet :
    ∃ l x p, linkSources staffSet = .ok l ∧ l.model.JoinsBound ∧ l.model.DotlessEmbeds ∧
      l.model.struct? ⟨0⟩ = some x ∧ p ∈ x.fieldPaths ∧ p.steps = [⟨2⟩] ∧ p.join = some 0 := by
  obtain ⟨l, hset, -⟩ := staffSet_links
  obtain ⟨x, p, hx, hp, hbound⟩ := Model.exists_path_linked staffSet_path
  have hmodel := (Model.linked_of_linkWith hset).1
  rw [← hmodel] at hx
  exact ⟨l, x, p, hset, joinsBound_of_link hset, hmodel ▸ staffSet_dotless, hx, hp, hbound⟩

/-! ### a dot in the name of a field -/

/-- Users own companies. A post has a firm, which has an owner, and a field of its own with the name
`firm.owner`. -/
def misleadingDocument : Decl.Document where
  structs := [
    { name := "user"
      fields := [
        { Decl.Field.bare "id" (.plain .int) none with rowid := true },
        .bare "name" (.plain .text) none]
      searches := [], updates := [], deletes := [], insert := none, uniques := [], place := none
      doc := none },
    { name := "company"
      fields := [
        { Decl.Field.bare "id" (.plain .int) none with rowid := true },
        { Decl.Field.bare "owner_id" (.plain .int) none with
          references := some ⟨"user.id", .none, .none⟩ },
        .bare "owner" .struct (some "owner_id")]
      searches := [], updates := [], deletes := [], insert := none, uniques := [], place := none
      doc := none },
    { name := "post"
      fields := [
        { Decl.Field.bare "editor_id" (.plain .int) none with
          references := some ⟨"user.id", .none, .none⟩ },
        .bare "firm.owner" .struct (some "editor_id"),
        { Decl.Field.bare "firm_id" (.plain .int) none with
          references := some ⟨"company.id", .none, .none⟩ },
        .bare "firm" .struct (some "firm_id")]
      searches := [
        { kind := .list, name := none, params := [⟨"firm.owner.name", .eq, none⟩], order := []
          distinct := none, aggregate := none, group := none, limit := none, offset := none
          roles := none, place := none, doc := none }]
      updates := [], deletes := [], insert := none, uniques := [], place := none, doc := none }]
  enums := []
  bitfields := []
  roles := []

def misleadingSet : SourceSet := .ofDocuments [("posts", misleadingDocument)]

theorem misleadingSet_links : ∃ l, linkSources misleadingSet = .ok l := by
  have hfaultless : misleadingSet.FaultlessBy (·.index) := by
    simp only [SourceSet.FaultlessBy, Model.bindingProblems, Model.marked, Model.topology,
      Model.joined, Model.bound, Model.resolved, Namespace.ofModel_eq_scan]
    decide +kernel
  exact hfaultless.links

theorem misleadingSet_chains : misleadingSet.model.bound.joinChains ⟨2⟩ =
    [[⟨6⟩], [⟨8⟩], [⟨8⟩, ⟨4⟩]] := by
  simp only [Model.bound, Model.resolved, Namespace.ofModel_eq_scan]
  decide +kernel

theorem misleadingSet_path : ∃ y ∈ misleadingSet.model.joined.struct? ⟨2⟩,
    ∃ p ∈ y.fieldPaths, p.steps = [⟨8⟩, ⟨4⟩] ∧ p.join = some 0 := by
  simp only [Model.joined, Model.bound, Model.resolved, Namespace.ofModel_eq_scan]
  decide +kernel

/-- The documents link, and the search of posts by `firm.owner.name` steps through the firm to its
owner, the third chain of a post. But it is bound to the join of the first one, the editor. -/
theorem misleadingSet_join :
    ∃ l x p, linkSources misleadingSet = .ok l ∧ l.model.struct? ⟨2⟩ = some x ∧ p ∈ x.fieldPaths ∧
      p.steps = [⟨8⟩, ⟨4⟩] ∧ p.join = some 0 ∧
      l.model.joinChains ⟨2⟩ = [[⟨6⟩], [⟨8⟩], [⟨8⟩, ⟨4⟩]] := by
  obtain ⟨l, hset⟩ := misleadingSet_links
  obtain ⟨x, p, hx, hp, hsteps, hjoin⟩ := Model.exists_path_linked misleadingSet_path
  have hmodel := (Model.linked_of_linkWith hset).1
  rw [← hmodel] at hx
  refine ⟨l, x, p, hset, hx, hp, hsteps, hjoin, ?_⟩
  rw [hmodel, Model.joinChains_linked, misleadingSet_chains]

end ModelLinker
