import Mathlib.Logic.Nontrivial.Basic
import ModelLinker.Proofs.Relinked.Filled
import ModelLinker.Proofs.Searches.Legal

/-!
# How many rows a search can match

A search is marked as unique by a look at its conditions. Here a table of a structure is a list of
rows, in which no two rows agree on a key or on all fields of a constraint (`Model.Valid`), and a
row matches if it has what the search compares with. The mark is right in both directions: a marked
search matches one row at most (`Model.eq_of_matches`), and for one without a mark there is a table
of two rows that both match (`Model.valid_twins`). It only depends on which fields are compared, not
on the order of the conditions or on how often they are repeated.
-/

namespace ModelLinker

open List (Forall₂)
open Text (sameName)

/-! ### rows and tables -/

/-- A row: a value for a field, or none. Only the fields of one structure that are not
structure-typed are columns; what a row has for others does not count. -/
abbrev Row (V : Type) := FieldId → Option V

/-- Two rows have the same value in a column. -/
def Row.AgreeOn {V : Type} (r r' : Row V) (id : FieldId) : Prop :=
  ∃ v, r id = some v ∧ r' id = some v

/-- The rows of a table of a structure. No two of them agree on a column that tells rows apart, and
no two agree on all columns of a uniqueness constraint. -/
structure Model.Valid {V : Type} (m : Model) (sid : StructId) (s : Struct) (t : List (Row V)) :
    Prop where
  keys : ∀ id f, (id, f) ∈ m.fieldsOf sid → f.type.isStruct = false → f.isUniqueKey = true →
    t.Pairwise fun r r' => ¬ r.AgreeOn r' id
  uniques : ∀ u ∈ s.uniques,
    t.Pairwise fun r r' => ¬ ∀ n ∈ u.fields, ∃ id, n.target = some id ∧ r.AgreeOn r' id

/-- The row has all values that the search compares its own columns with for equality; the value of
every condition is given by its place. -/
def Search.Matches {V : Type} (x : Search) (values : Nat → V) (r : Row V) : Prop :=
  ∀ i p, x.params[i]? = some p → p.op = .eq → p.path.isLocal = true →
    ∃ id, p.path.field = some id ∧ r id = some (values i)

/-- Every condition of a search is one of another search, wherever it stands. -/
def Search.ParamsWithin (x y : Search) : Prop :=
  ∀ p ∈ x.params, ∃ q ∈ y.params, q.op = p.op ∧
    q.path.segments.map NameRef.name = p.path.segments.map NameRef.name

instance (x y : Search) : Decidable (x.ParamsWithin y) :=
  inferInstanceAs (Decidable (∀ p ∈ x.params, ∃ q ∈ y.params, q.op = p.op ∧
    q.path.segments.map NameRef.name = p.path.segments.map NameRef.name))

/-- The fields of a structure, and the names that its uniqueness constraints list. -/
def Struct.columns (s : Struct) : List FieldId × List (List String) :=
  (s.fields, s.uniques.map fun u => u.fields.map NameRef.name)

/-- Two models have fields of the same names, with the same of them telling rows apart, and
structures with the same fields and uniqueness constraints. -/
structure Model.SameTables (m m' : Model) : Prop where
  fields : m'.fields.map (fun f => (f.name, f.isUniqueKey)) =
    m.fields.map fun f => (f.name, f.isUniqueKey)
  structs : m'.structs.map Struct.columns = m.structs.map Struct.columns

/-! ### columns that are compared -/

section Columns

variable {V : Type} {m : Model} {sid : StructId} {s : Struct} {x : Search}

/-- The paths and the local names of a structure are bound. -/
structure Model.ColumnsBound (m : Model) (sid : StructId) (s : Struct) : Prop where
  paths : ∀ p ∈ s.paths, m.Walks sid p
  locals : ∀ r ∈ s.locals, m.BoundToPlain sid r

theorem Model.columnsBound_of_linkWith {seed : Diagnostics} {l : Linked}
    (h : linkWith seed m = .ok l) (hs : l.model.struct? sid = some s) :
    l.model.ColumnsBound sid s := by
  obtain ⟨hresolve, -⟩ := stagesOk_of_linkWith h
  rw [(linked_of_linkWith h).1] at hs ⊢
  obtain ⟨hpaths, -, hlocals⟩ := linked_operations hresolve hs
  exact ⟨hpaths, hlocals⟩

theorem Search.mem_boundFields {id : FieldId} :
    id ∈ x.boundFields ↔
      ∃ p ∈ x.params, p.op = .eq ∧ p.path.isLocal = true ∧ p.path.field = some id := by
  simp [Search.boundFields, and_assoc]

theorem Search.params_mem_paths (hx : x ∈ s.searches) {p : Predicate} (hp : p ∈ x.params) :
    p.path.segments ∈ s.paths := by
  refine List.mem_flatMap.2 ⟨x, hx, ?_⟩
  simp only [Search.paths, List.mem_append, List.mem_map]
  exact .inl (.inl (.inl ⟨p, hp, rfl⟩))

theorem Unique.fields_mem_locals {u : Unique} (hu : u ∈ s.uniques) {n : NameRef FieldId}
    (hn : n ∈ u.fields) : n ∈ s.locals :=
  List.mem_append_right _ (List.mem_flatMap.2 ⟨u, hu, hn⟩)

/-- A path of one segment is bound to a column. -/
theorem Model.ColumnsBound.column (h : m.ColumnsBound sid s) (hx : x ∈ s.searches) {p : Predicate}
    (hp : p ∈ x.params) (hlocal : p.path.isLocal = true) :
    ∃ r id f, p.path.segments = [r] ∧ p.path.field = some id ∧ m.BoundIn sid r id f ∧
      f.type.isStruct = false := by
  obtain ⟨r, hr⟩ := List.length_eq_one_iff.1 (by simpa [FieldPath.isLocal] using hlocal)
  have hwalks := h.paths _ (Search.params_mem_paths hx hp)
  rw [hr] at hwalks
  cases hwalks with
  | last hb hplain => exact ⟨r, _, _, hr, by simp [FieldPath.field, hr, hb.target], hb, hplain⟩
  | step _ _ hne _ => exact absurd rfl hne

theorem Unique.coveredBy_iff {u : Unique} {bound : List FieldId} :
    u.coveredBy bound = true ↔ ∀ n ∈ u.fields, ∃ id, n.target = some id ∧ id ∈ bound := by
  simp only [Unique.coveredBy, List.all_eq_true]
  refine forall₂_congr fun n _ => ?_
  cases n.target <;> simp

/-- A search is unique if it compares a key, or all columns of a constraint. -/
theorem isUniqueSearch_iff :
    isUniqueSearch m s x = true ↔
      (∃ id ∈ x.boundFields, ∃ f, m.field? id = some f ∧ f.isUniqueKey = true) ∨
        ∃ u ∈ s.uniques, ∀ n ∈ u.fields, ∃ id, n.target = some id ∧ id ∈ x.boundFields := by
  simp only [isUniqueSearch, Bool.or_eq_true, List.any_eq_true, Option.any_eq_true,
    Unique.coveredBy_iff]

/-! ### a search that is unique -/

/-- Rows that match a search agree on the columns that it compares. -/
theorem Search.Matches.agreeOn {values : Nat → V} {r r' : Row V} (hr : x.Matches values r)
    (hr' : x.Matches values r') {id : FieldId} (hid : id ∈ x.boundFields) : r.AgreeOn r' id := by
  obtain ⟨p, hp, hop, hlocal, hfield⟩ := Search.mem_boundFields.1 hid
  obtain ⟨i, hi⟩ := List.mem_iff_getElem?.1 hp
  obtain ⟨a, ha, hra⟩ := hr i p hi hop hlocal
  obtain ⟨b, hb, hrb⟩ := hr' i p hi hop hlocal
  obtain rfl : a = id := Option.some.inj (ha.symm.trans hfield)
  obtain rfl : b = a := Option.some.inj (hb.symm.trans hfield)
  exact ⟨values i, hra, hrb⟩

theorem Row.AgreeOn.symm {r r' : Row V} {id : FieldId} (h : r.AgreeOn r' id) : r'.AgreeOn r id := by
  obtain ⟨v, hr, hr'⟩ := h
  exact ⟨v, hr', hr⟩

/-- Rows of a valid table that match a search that is unique are one and the same. -/
theorem Model.eq_of_matches (hbound : m.ColumnsBound sid s) (hx : x ∈ s.searches)
    (hunique : isUniqueSearch m s x = true) {t : List (Row V)} (ht : m.Valid sid s t)
    {values : Nat → V} {i j : Nat} {r r' : Row V} (hi : t[i]? = some r) (hj : t[j]? = some r')
    (hr : x.Matches values r) (hr' : x.Matches values r') : i = j := by
  -- two rows at different places do not agree on something on which rows that match agree
  have key : ∀ {i j : Nat} {r r' : Row V}, i < j → t[i]? = some r → t[j]? = some r' →
      x.Matches values r → ¬ x.Matches values r' := by
    intro i j r r' hij hi hj hr hr'
    obtain ⟨hlti, rfl⟩ := List.getElem?_eq_some_iff.1 hi
    obtain ⟨hltj, rfl⟩ := List.getElem?_eq_some_iff.1 hj
    rcases isUniqueSearch_iff.1 hunique with ⟨id, hid, f, hf, hkey⟩ | ⟨u, hu, hcovered⟩
    · obtain ⟨p, hp, -, hlocal, hfield⟩ := Search.mem_boundFields.1 hid
      obtain ⟨n, id', f', -, hfield', hb, hplain⟩ := hbound.column hx hp hlocal
      obtain rfl : id' = id := Option.some.inj (hfield'.symm.trans hfield)
      obtain rfl : f' = f := Option.some.inj ((field?_of_mem_fieldsOf hb.listed).symm.trans hf)
      have hpairs := List.pairwise_iff_getElem.1 (ht.keys id' f' hb.listed hplain hkey)
      exact hpairs i j hlti hltj hij (hr.agreeOn hr' hid)
    · have hpairs := List.pairwise_iff_getElem.1 (ht.uniques u hu)
      refine hpairs i j hlti hltj hij fun n hn => ?_
      obtain ⟨id, hid, hmem⟩ := hcovered n hn
      exact ⟨id, hid, hr.agreeOn hr' hmem⟩
  rcases Nat.lt_trichotomy i j with hij | hij | hij
  · exact absurd hr' (key hij hi hj hr)
  · exact hij
  · exact absurd hr (key hij hj hi hr')

/-! ### a search that is not unique -/

/-- A row with one value in the columns that a search compares, and another value elsewhere. -/
def Search.twin (x : Search) (v w : V) : Row V := fun id =>
  if id ∈ x.boundFields then some v else some w

theorem Search.matches_twin (hbound : m.ColumnsBound sid s) (hx : x ∈ s.searches) (v w : V) :
    x.Matches (fun _ => v) (x.twin v w) := by
  intro i p hi hop hlocal
  have hp := List.mem_of_getElem? hi
  obtain ⟨n, id, f, -, hfield, -⟩ := hbound.column hx hp hlocal
  exact ⟨id, hfield, if_pos (Search.mem_boundFields.2 ⟨p, hp, hop, hlocal, hfield⟩)⟩

/-- Two rows made of different values agree on nothing but what the search compares. -/
theorem Search.mem_of_agreeOn_twin {v w : V} (hne : v ≠ w) {id : FieldId}
    (h : Row.AgreeOn (x.twin v v) (x.twin v w) id) : id ∈ x.boundFields := by
  by_contra hid
  obtain ⟨a, ha, hb⟩ := h
  simp only [Search.twin, hid, if_false, Option.some.injEq] at ha hb
  exact hne (ha.trans hb.symm)

/-- If a search is not unique, two rows that match it make a valid table. -/
theorem Model.valid_twins (hunique : isUniqueSearch m s x = false) {v w : V} (hne : v ≠ w) :
    m.Valid sid s [x.twin v v, x.twin v w] := by
  have hnot : ¬ isUniqueSearch m s x = true := by simp [hunique]
  rw [isUniqueSearch_iff, not_or] at hnot
  obtain ⟨hnokey, hnocover⟩ := hnot
  constructor
  case keys =>
    intro id f hf hplain hkey
    rw [List.pairwise_pair]
    intro hagree
    exact hnokey ⟨id, Search.mem_of_agreeOn_twin hne hagree, f, field?_of_mem_fieldsOf hf, hkey⟩
  case uniques =>
    intro u hu
    rw [List.pairwise_pair]
    intro hagree
    refine hnocover ⟨u, hu, fun n hn => ?_⟩
    obtain ⟨id, hid, hagree⟩ := hagree n hn
    exact ⟨id, hid, Search.mem_of_agreeOn_twin hne hagree⟩

end Columns

/-! ### more conditions -/

section Within

variable {m m' : Model} {sid : StructId} {s s' : Struct} {x y : Search}

theorem Struct.columns_asDeclared (s : Struct) : s.asDeclared.columns = s.columns := by
  simp [columns, asDeclared, Unique.asDeclared, NameRef.asDeclared, Function.comp_def]

/-- What linking finds out changes nothing about tables. -/
theorem Model.SameTables.linked (h : m.SameTables m') : m.linked.SameTables m'.linked := by
  have hview : ∀ m : Model,
      m.fields.map (fun f => (f.name, f.isUniqueKey)) =
        m.asDeclared.fields.map (fun f => (f.name, f.isUniqueKey)) ∧
      m.structs.map Struct.columns = m.asDeclared.structs.map Struct.columns := fun m => by
    simp only [Model.asDeclared, Array.map_map, Function.comp_def, Struct.columns_asDeclared]
    exact ⟨rfl, trivial⟩
  have hlinked : ∀ m : Model,
      m.linked.fields.map (fun f => (f.name, f.isUniqueKey)) =
        m.fields.map (fun f => (f.name, f.isUniqueKey)) ∧
      m.linked.structs.map Struct.columns = m.structs.map Struct.columns := fun m => by
    rw [(hview m.linked).1, (hview m.linked).2, Model.asDeclared_linked, ← (hview m).1,
      ← (hview m).2]
    exact ⟨rfl, rfl⟩
  obtain ⟨hfields, hstructs⟩ := hlinked m
  obtain ⟨hfields', hstructs'⟩ := hlinked m'
  exact ⟨by rw [hfields, hfields', h.fields], by rw [hstructs, hstructs', h.structs]⟩

theorem Model.SameTables.listed (h : m.SameTables m') {id : FieldId} {f : Field}
    (hf : (id, f) ∈ m.fieldsOf sid) :
    ∃ f', (id, f') ∈ m'.fieldsOf sid ∧ f'.name = f.name ∧ f'.isUniqueKey = f.isUniqueKey := by
  obtain ⟨s, hs, hid, hf⟩ := Model.mem_fieldsOf.1 hf
  obtain ⟨s', hs', hcolumns⟩ := struct?_of_map_eq h.structs.symm hs
  have hview := congrArg (·[id.index]?) h.fields
  simp only [Array.getElem?_map] at hview
  rw [show m.fields[id.index]? = some f from hf, Option.map_some] at hview
  obtain ⟨f', hf', hsame⟩ := Option.map_eq_some_iff.1 hview
  obtain ⟨hname, hkey⟩ := Prod.mk.inj hsame
  have hlist : s'.fields = s.fields := congrArg Prod.fst hcolumns
  have hid' : id ∈ s'.fields := hlist ▸ hid
  exact ⟨f', Model.mem_fieldsOf.2 ⟨s', hs', hid', hf'⟩, hname, hkey⟩

/-- The same name is bound to the same column. -/
theorem Model.SameTables.same_column (h : m.SameTables m') (hnames : m'.NamesDistinct)
    {n n' : NameRef FieldId} (hn : n'.name = n.name) {id id' : FieldId} {f f' : Field}
    (hb : m.BoundIn sid n id f) (hb' : m'.BoundIn sid n' id' f') :
    id' = id ∧ f'.isUniqueKey = f.isUniqueKey := by
  obtain ⟨g, hg, hname, hkey⟩ := h.listed hb.listed
  have hsame : sameName f'.name g.name = true := by
    rw [hname]
    refine Text.sameName_trans hb'.name ?_
    rw [hn, Text.sameName_comm]
    exact hb.name
  obtain ⟨rfl, rfl⟩ := Prod.mk.inj (hnames.field_unique hb'.listed hg hsame)
  exact ⟨rfl, hkey⟩

/-- A search with more conditions compares more columns. -/
theorem Search.ParamsWithin.boundFields (hwithin : x.ParamsWithin y) (h : m.SameTables m')
    (hnames : m'.NamesDistinct) (hbound : m.ColumnsBound sid s) (hbound' : m'.ColumnsBound sid s')
    (hx : x ∈ s.searches) (hy : y ∈ s'.searches) {id : FieldId} (hid : id ∈ x.boundFields) :
    id ∈ y.boundFields ∧ ∃ f f', m.field? id = some f ∧ m'.field? id = some f' ∧
      f'.isUniqueKey = f.isUniqueKey := by
  obtain ⟨p, hp, hop, hlocal, hfield⟩ := Search.mem_boundFields.1 hid
  obtain ⟨n, a, f, hsegments, ha, hb, -⟩ := hbound.column hx hp hlocal
  obtain rfl : a = id := Option.some.inj (ha.symm.trans hfield)
  obtain ⟨q, hq, hqop, hqnames⟩ := hwithin p hp
  have hqlocal : q.path.isLocal = true := by
    have hlen := congrArg List.length hqnames
    simp only [List.length_map] at hlen
    rw [FieldPath.isLocal, hlen]
    exact hlocal
  obtain ⟨n', a', f', hqsegments, ha', hb', -⟩ := hbound'.column hy hq hqlocal
  have hn : n'.name = n.name := by
    rw [hsegments, hqsegments] at hqnames
    simpa using hqnames
  obtain ⟨rfl, hkey⟩ := h.same_column hnames hn hb hb'
  exact ⟨Search.mem_boundFields.2 ⟨q, hq, hqop.trans hop, hqlocal, ha'⟩, f, f',
    Model.field?_of_mem_fieldsOf hb.listed, Model.field?_of_mem_fieldsOf hb'.listed, hkey⟩

/-- A search that is unique stays so with more conditions. -/
theorem Search.ParamsWithin.unique (hwithin : x.ParamsWithin y) (h : m.SameTables m')
    (hnames : m'.NamesDistinct) (hs : m.struct? sid = some s) (hs' : m'.struct? sid = some s')
    (hbound : m.ColumnsBound sid s) (hbound' : m'.ColumnsBound sid s') (hx : x ∈ s.searches)
    (hy : y ∈ s'.searches) (hunique : isUniqueSearch m s x = true) :
    isUniqueSearch m' s' y = true := by
  have hmore := fun {id} => @hwithin.boundFields _ _ _ _ _ _ _ h hnames hbound hbound' hx hy id
  rw [isUniqueSearch_iff] at hunique ⊢
  rcases hunique with ⟨id, hid, f, hf, hkey⟩ | ⟨u, hu, hcovered⟩
  · obtain ⟨hid', g, f', hg, hf', hkeys⟩ := hmore hid
    obtain rfl : g = f := Option.some.inj (hg.symm.trans hf)
    exact .inl ⟨id, hid', f', hf', hkeys.trans hkey⟩
  · -- the constraint of the same names in the other model
    obtain ⟨t, ht, hcolumns⟩ := Model.struct?_of_map_eq h.structs.symm hs
    obtain rfl : t = s' := Option.some.inj (ht.symm.trans hs')
    have huniques : t.uniques.map (fun u => u.fields.map NameRef.name) =
        s.uniques.map fun u => u.fields.map NameRef.name := congrArg Prod.snd hcolumns
    have hmem := List.mem_map_of_mem (f := fun u => u.fields.map NameRef.name) hu
    rw [← huniques] at hmem
    obtain ⟨u', hu', hfields⟩ := List.mem_map.1 hmem
    refine .inr ⟨u', hu', fun n' hn' => ?_⟩
    have hname : n'.name ∈ u.fields.map NameRef.name := hfields ▸ List.mem_map_of_mem hn'
    obtain ⟨n, hn, hsame⟩ := List.mem_map.1 hname
    obtain ⟨id, f, hb, -⟩ := hbound.locals n (Unique.fields_mem_locals hu hn)
    obtain ⟨id', f', hb', -⟩ := hbound'.locals n' (Unique.fields_mem_locals hu' hn')
    obtain ⟨rfl, -⟩ := h.same_column hnames hsame.symm hb hb'
    obtain ⟨a, ha, hmema⟩ := hcovered n hn
    obtain rfl : a = id' := Option.some.inj (ha.symm.trans hb.target)
    exact ⟨a, hb'.target, (hmore hmema).1⟩

end Within

/-! ### the marks of a linked model -/

/-- A search of a linked model that is marked as unique matches one row at most of every table of its
structure, whatever it is given to compare with; for any other one there is a table without absent
values that has two rows that match. The mark does not depend on the order of the conditions or on
repeated ones, and stays when there are more, in this model or in another one of the same tables. -/
theorem uniqueRows_of_link {seed : Diagnostics} {m : Model} {l : Linked}
    (h : linkWith seed m = .ok l) {sid : StructId} {s : Struct} (hs : l.model.struct? sid = some s)
    {x : Search} (hx : x ∈ s.searches) :
    (x.unique = true → ∀ (V : Type) (t : List (Row V)), l.model.Valid sid s t →
      ∀ (values : Nat → V) (i j : Nat) (r r' : Row V), t[i]? = some r → t[j]? = some r' →
        x.Matches values r → x.Matches values r' → i = j) ∧
    (x.unique = false → ∀ V : Type, Nontrivial V → ∃ (r r' : Row V) (values : Nat → V),
      l.model.Valid sid s [r, r'] ∧ x.Matches values r ∧ x.Matches values r' ∧
        ∀ id, (r id).isSome = true ∧ (r' id).isSome = true) ∧
    ∀ seed' m' l', linkWith seed' m' = .ok l' → m.SameTables m' →
      ∀ s', l'.model.struct? sid = some s' → ∀ y ∈ s'.searches, x.ParamsWithin y →
        (x.unique = true → y.unique = true) ∧ (y.ParamsWithin x → y.unique = x.unique) := by
  have hbound := Model.columnsBound_of_linkWith h hs
  have hmark : ∀ {seed m l s x}, linkWith seed m = .ok l → l.model.struct? sid = some s →
      x ∈ s.searches → x.unique = isUniqueSearch l.model s x := by
    intro seed m l s x h hs hx
    rw [(Model.linked_of_linkWith h).1] at hs ⊢
    exact Model.unique_linked hs x hx
  refine ⟨fun hunique V t ht values i j r r' hi hj hr hr' => ?_,
    fun hunique V _ => ?_, fun seed' m' l' h' htables s' hs' y hy hwithin => ?_⟩
  · rw [hmark h hs hx] at hunique
    exact Model.eq_of_matches hbound hx hunique ht hi hj hr hr'
  · rw [hmark h hs hx] at hunique
    obtain ⟨v, w, hne⟩ := exists_pair_ne V
    refine ⟨x.twin v v, x.twin v w, fun _ => v, Model.valid_twins hunique hne,
      Search.matches_twin hbound hx v v, Search.matches_twin hbound hx v w, fun id => ?_⟩
    simp only [Search.twin]
    constructor <;> split <;> rfl
  · have hbound' := Model.columnsBound_of_linkWith h' hs'
    have hlinked : l.model.SameTables l'.model := by
      rw [(Model.linked_of_linkWith h).1, (Model.linked_of_linkWith h').1]
      exact htables.linked
    have hback : l'.model.SameTables l.model := ⟨hlinked.fields.symm, hlinked.structs.symm⟩
    rw [hmark h hs hx, hmark h' hs' hy]
    have hmore : isUniqueSearch l.model s x = true → isUniqueSearch l'.model s' y = true :=
      hwithin.unique hlinked (Model.namesDistinct_of_linkWith h') hs hs' hbound hbound' hx hy
    refine ⟨hmore, fun hwithin' => ?_⟩
    have hless : isUniqueSearch l'.model s' y = true → isUniqueSearch l.model s x = true :=
      hwithin'.unique hback (Model.namesDistinct_of_linkWith h) hs' hs hbound' hbound hy hx
    exact Bool.eq_iff_iff.2 ⟨hless, hmore⟩

/-- Accounts are searched for by team and seat, with and without a password, and by other things that
more than one account can have. -/
theorem accountSet_searches : ∃ s, accountSet.model.linked.struct? ⟨0⟩ = some s ∧
    ∃ x ∈ s.searches, ∃ y ∈ s.searches, ∃ z ∈ s.searches, x.unique = true ∧ y.unique = false ∧
      x.ParamsWithin z ∧ x.params.length < z.params.length := by
  have hany : (accountSet.model.marked.struct? ⟨0⟩).any (fun s => decide
      (∃ x ∈ s.searches, ∃ y ∈ s.searches, ∃ z ∈ s.searches, x.unique = true ∧ y.unique = false ∧
        x.ParamsWithin z ∧ x.params.length < z.params.length)) = true := by
    simp only [Model.marked, Model.topology, Model.joined, Model.bound, Model.resolved,
      Namespace.ofModel_eq_scan]
    decide +kernel
  obtain ⟨s, hs, hall⟩ := (Option.any_eq_true _ _).1 hany
  have hview : accountSet.model.marked.structs.map Struct.searches =
      accountSet.model.linked.structs.map Struct.searches :=
    (map_computeFlags (fun _ _ => rfl) _ _).symm
  obtain ⟨t, ht, hsearches⟩ := Model.struct?_of_map_eq hview hs
  refine ⟨t, ht, ?_⟩
  rw [hsearches]
  exact of_decide_eq_true hall

theorem uniqueRows_of_accountSet :
    ∃ l s, linkSources accountSet = .ok l ∧ l.model.struct? ⟨0⟩ = some s ∧
      ∃ x ∈ s.searches, ∃ y ∈ s.searches, ∃ z ∈ s.searches,
        (∀ (t : List (Row Nat)), l.model.Valid ⟨0⟩ s t → ∀ (values : Nat → Nat) (i j : Nat)
          (r r' : Row Nat), t[i]? = some r → t[j]? = some r' →
            x.Matches values r → x.Matches values r' → i = j) ∧
        (∃ (r r' : Row Nat) (values : Nat → Nat), l.model.Valid ⟨0⟩ s [r, r'] ∧
          y.Matches values r ∧ y.Matches values r') ∧
        x.params.length < z.params.length ∧ z.unique = true := by
  obtain ⟨l, hset⟩ := accountSet_links
  obtain ⟨s, hs, x, hx, y, hy, z, hz, hxu, hyu, hwithin, hlen⟩ := accountSet_searches
  have hrun : linkWith accountSet.diagnostics accountSet.model = .ok l := hset
  rw [← (Model.linked_of_linkWith hrun).1] at hs
  obtain ⟨honce, -, hmore⟩ := uniqueRows_of_link hrun hs hx
  obtain ⟨-, htwice, -⟩ := uniqueRows_of_link hrun hs hy
  obtain ⟨r, r', values, hvalid, hr, hr', -⟩ := htwice hyu Nat inferInstance
  exact ⟨l, s, hset, hs, x, hx, y, hy, z, hz, honce hxu Nat, ⟨r, r', values, hvalid, hr, hr'⟩, hlen,
    (hmore _ _ l hrun ⟨rfl, rfl⟩ s hs z hz hwithin).1 hxu⟩

end ModelLinker
