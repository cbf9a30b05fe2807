import ModelLinker.Namespace

/-!
# What the names of a model stand for

The index of names and a scan through the declarations give the same answer (`ofModel_eq_scan`), so
a name stands for the first declaration that has it up to the case of letters. A model repeats no
name exactly if every declaration is what its own name stands for, and no structure lists two fields
of one name (`isOk_problems_iff`).
-/

namespace ModelLinker

open Text (fold sameName sameName_iff)

/-! ### lookups in the model -/

namespace Model

variable {m : Model}

theorem mem_fieldsOf {s : StructId} {id : FieldId} {f : Field} :
    (id, f) ∈ m.fieldsOf s
      ↔ ∃ st, m.struct? s = some st ∧ id ∈ st.fields ∧ m.field? id = some f := by
  unfold fieldsOf
  cases h : m.struct? s with
  | none => simp
  | some st => simp

theorem field?_of_mem_fieldsOf {s : StructId} {id : FieldId} {f : Field}
    (h : (id, f) ∈ m.fieldsOf s) : m.field? id = some f := by
  obtain ⟨_, _, _, hf⟩ := mem_fieldsOf.1 h
  exact hf

theorem struct?_eq_some {id : StructId} {s : Struct} :
    m.struct? id = some s ↔ ∃ h : id.index < m.structs.size, m.structs[id.index] = s := by
  simp [struct?, Array.getElem?_eq_some_iff]

theorem mem_structIds {id : StructId} : id ∈ m.structIds ↔ id.index < m.structs.size := by
  cases id
  simp [structIds]

theorem mem_indexedStructs {id : StructId} {s : Struct} :
    (id, s) ∈ m.indexedStructs ↔ m.struct? id = some s := by
  obtain ⟨i⟩ := id
  rw [indexedStructs, List.mem_map]
  constructor
  · rintro ⟨⟨t, j⟩, hmem, heq⟩
    rw [List.mem_zipIdx_iff_getElem?] at hmem
    simp only [Prod.mk.injEq, StructId.mk.injEq] at heq
    obtain ⟨rfl, rfl⟩ := heq
    simpa [struct?] using hmem
  · intro h
    exact ⟨(s, i), List.mem_zipIdx_iff_getElem?.2 (by simpa [struct?] using h), rfl⟩

theorem fieldsOf_of_not_mem {id : StructId} (h : id ∉ m.structIds) : m.fieldsOf id = [] := by
  have : m.struct? id = none := by
    simpa [struct?, mem_structIds] using h
  simp [fieldsOf, this]

end Model

/-! ### the index and the scan -/

namespace NameIndex

/-- The first value of a key is what the index holds under it. -/
theorem getElem?_firsts {κ ν : Type} [BEq κ] [LawfulBEq κ] [Hashable κ] [LawfulHashable κ]
    (entries : List (κ × ν)) (k : κ) :
    (firsts entries)[k]? = (entries.find? fun e => e.1 == k).map (·.2) := by
  have key : ∀ (entries : List (κ × ν)) (index : Std.HashMap κ ν),
      (entries.foldl (fun index e => index.insertIfNew e.1 e.2) index)[k]? =
        index[k]?.or ((entries.find? fun e => e.1 == k).map (·.2)) := by
    intro entries
    induction entries with
    | nil => simp
    | cons e rest ih =>
      intro index
      rw [List.foldl_cons, ih, Std.HashMap.getElem?_insertIfNew]
      by_cases he : e.1 = k
      · subst he
        by_cases hm : e.1 ∈ index <;> simp [hm]
      · simp [he]
  simpa [firsts] using key entries ∅

/-- The first item of a name has the least number among the items of that name. -/
theorem find?_byName {α ι : Type} (name : α → String) (id : Nat → ι) (items : Array α)
    (n : String) :
    ((byName name id items).find? fun e => e.1 == fold n).map (·.2) =
      (items.findIdx? fun a => sameName (name a) n).map id := by
  obtain ⟨xs⟩ := items
  rw [List.findIdx?_toArray, List.findIdx?_eq_fst_find?_zipIdx, byName, List.find?_map,
    Option.map_map, Option.map_map]
  rfl

end NameIndex

namespace Namespace

/-- What names stand for, found by a scan through the declarations. -/
def scan (m : Model) : Namespace where
  struct? := m.findStruct?
  field? := m.findField?
  listed? s n := (m.fieldsOf s).findIdx? fun e => sameName e.2.name n
  enum? n := (m.enums.findIdx? fun e => sameName e.name n).map EnumId.mk
  bitfield? n := (m.bitfields.findIdx? fun b => sameName b.name n).map BitfieldId.mk
  role? := m.findRole?

/-- A search that can succeed at one key only is a search at that key. -/
theorem findSome?_eq_ite {κ ν : Type} [DecidableEq κ] {find : κ → Option ν} {k : κ} {ks : List κ}
    (h : ∀ k', k' ≠ k → find k' = none) :
    ks.findSome? find = if k ∈ ks then find k else none := by
  induction ks with
  | nil => rfl
  | cons k' rest ih =>
    rw [List.findSome?_cons, ih]
    by_cases hk : k' = k
    · subst hk
      cases hfound : find k' <;> simp
    · rw [h k' hk]
      simp [Ne.symm hk]

/-- The first field of a name in a structure is found among the entries of that structure. -/
theorem find?_fields (m : Model) (p : StructId) (n : String) :
    ((m.structIds.flatMap fun s =>
        (m.fieldsOf s).zipIdx.map fun ((id, f), i) => ((s, fold f.name), (i, id))).find?
      fun e => e.1 == (p, fold n)).map (·.2) =
      ((m.fieldsOf p).zipIdx.find? fun x => sameName x.1.2.name n).map fun x => (x.2, x.1.1) := by
  have other : ∀ s, s ≠ p → ((m.fieldsOf s).zipIdx.map fun ((id, f), i) =>
      ((s, fold f.name), (i, id))).find? (fun e => e.1 == (p, fold n)) = none := by
    intro s hs
    simp [hs]
  have own : (((m.fieldsOf p).zipIdx.map fun ((id, f), i) => ((p, fold f.name), (i, id))).find?
      fun e => e.1 == (p, fold n)).map (·.2) =
        ((m.fieldsOf p).zipIdx.find? fun x => sameName x.1.2.name n).map fun x => (x.2, x.1.1) := by
    have same : ∀ x : FieldId × Field,
        ((p, fold x.2.name) == (p, fold n)) = sameName x.2.name n := by
      intro x
      rw [Bool.eq_iff_iff, sameName_iff]
      simp
    simp [List.find?_map, Function.comp_def, same]
  rw [List.find?_flatMap, findSome?_eq_ite other]
  split
  · exact own
  · rename_i h
    rw [Model.fieldsOf_of_not_mem h]
    rfl

/-- The index of names and a scan through the declarations agree on every name. -/
theorem ofModel_eq_scan (m : Model) : ofModel m = scan m := by
  have hfield : m.findField? = fun p n =>
      ((m.fieldsOf p).zipIdx.find? fun x => sameName x.1.2.name n).map (·.1.1) := by
    funext p n
    have hfst : (m.fieldsOf p).find? (fun e => sameName e.2.name n) =
        ((m.fieldsOf p).zipIdx.map Prod.fst).find? fun e => sameName e.2.name n := by
      rw [List.zipIdx_map_fst]
    rw [Model.findField?, hfst, List.find?_map, Option.map_map]
    rfl
  simp only [ofModel, NameIndex.names, NameIndex.ofModel, NameIndex.getElem?_firsts,
    NameIndex.find?_byName, find?_fields, scan, Option.map_map, List.findIdx?_eq_fst_find?_zipIdx,
    hfield]
  rfl

theorem struct?_ofModel (m : Model) : (ofModel m).struct? = m.findStruct? := by
  rw [ofModel_eq_scan]
  rfl

theorem field?_ofModel (m : Model) : (ofModel m).field? = m.findField? := by
  rw [ofModel_eq_scan]
  rfl

theorem listed?_ofModel (m : Model) (s : StructId) (n : String) : (ofModel m).listed? s n =
    ((m.fieldsOf s).map Prod.snd).toArray.findIdx? fun f => sameName f.name n := by
  rw [ofModel_eq_scan]
  simp [scan, List.findIdx?_map, Function.comp_def]

/-! ### what a lookup finds -/

section Found

variable {α : Type} {name : α → String} {items : Array α} {n : String}

theorem getElem?_of_findIdx? {i : Nat}
    (h : items.findIdx? (fun a => sameName (name a) n) = some i) :
    ∃ a, items[i]? = some a ∧ sameName (name a) n = true := by
  obtain ⟨hi, ha, _⟩ := Array.findIdx?_eq_some_iff_getElem.1 h
  exact ⟨items[i], Array.getElem?_eq_getElem hi, ha⟩

theorem findIdx?_of_getElem? {i : Nat} {a : α} (hi : items[i]? = some a)
    (ha : sameName (name a) n = true) :
    ∃ j, items.findIdx? (fun a => sameName (name a) n) = some j :=
  ⟨_, Array.findIdx?_eq_some_of_exists ⟨a, Array.mem_of_getElem? hi, ha⟩⟩

end Found

variable {m : Model} {n : String}

theorem struct?_some {id : StructId} (h : (ofModel m).struct? n = some id) :
    ∃ s, m.struct? id = some s ∧ sameName s.name n = true := by
  rw [ofModel_eq_scan] at h
  obtain ⟨i, hi, rfl⟩ := Option.map_eq_some_iff.1 h
  exact getElem?_of_findIdx? hi

theorem field?_some {p : StructId} {id : FieldId} (h : (ofModel m).field? p n = some id) :
    ∃ f, (id, f) ∈ m.fieldsOf p ∧ sameName f.name n = true := by
  rw [ofModel_eq_scan] at h
  obtain ⟨⟨i, f⟩, hf, rfl⟩ := Option.map_eq_some_iff.1 h
  have hn := List.find?_some hf
  exact ⟨f, List.mem_of_find?_eq_some hf, hn⟩

theorem enum?_some {id : EnumId} (h : (ofModel m).enum? n = some id) :
    ∃ e, m.enums[id.index]? = some e ∧ sameName e.name n = true := by
  rw [ofModel_eq_scan] at h
  obtain ⟨i, hi, rfl⟩ := Option.map_eq_some_iff.1 h
  exact getElem?_of_findIdx? hi

theorem bitfield?_some {id : BitfieldId} (h : (ofModel m).bitfield? n = some id) :
    ∃ b, m.bitfields[id.index]? = some b ∧ sameName b.name n = true := by
  rw [ofModel_eq_scan] at h
  obtain ⟨i, hi, rfl⟩ := Option.map_eq_some_iff.1 h
  exact getElem?_of_findIdx? hi

theorem role?_some {id : RoleId} (h : (ofModel m).role? n = some id) :
    ∃ r, m.role? id = some r ∧ sameName r.name n = true := by
  rw [ofModel_eq_scan] at h
  obtain ⟨i, hi, rfl⟩ := Option.map_eq_some_iff.1 h
  exact getElem?_of_findIdx? hi

/-! ### names that are the same -/

theorem sameName_congr {a b : String} (h : sameName a b = true) (n : String) :
    sameName n a = sameName n b := by
  rw [sameName_iff] at h
  simp only [sameName, h]

variable {a b : String}

theorem struct?_congr (h : sameName a b = true) :
    (ofModel m).struct? a = (ofModel m).struct? b := by
  simp only [ofModel_eq_scan, scan, Model.findStruct?, sameName_congr h]

theorem field?_congr (h : sameName a b = true) (p : StructId) :
    (ofModel m).field? p a = (ofModel m).field? p b := by
  simp only [ofModel_eq_scan, scan, Model.findField?, sameName_congr h]

theorem enum?_congr (h : sameName a b = true) : (ofModel m).enum? a = (ofModel m).enum? b := by
  simp only [ofModel_eq_scan, scan, sameName_congr h]

theorem bitfield?_congr (h : sameName a b = true) :
    (ofModel m).bitfield? a = (ofModel m).bitfield? b := by
  simp only [ofModel_eq_scan, scan, sameName_congr h]

theorem role?_congr (h : sameName a b = true) : (ofModel m).role? a = (ofModel m).role? b := by
  simp only [ofModel_eq_scan, scan, Model.findRole?, sameName_congr h]

/-! ### a declaration under its own name -/

theorem struct?_name {id : StructId} {s : Struct} (h : m.struct? id = some s) :
    ∃ first x, (ofModel m).struct? s.name = some first ∧ m.struct? first = some x := by
  obtain ⟨i, hi⟩ := @findIdx?_of_getElem? Struct Struct.name m.structs s.name id.index s h
    (Text.sameName_refl s.name)
  have hfirst : (ofModel m).struct? s.name = some ⟨i⟩ := by
    rw [ofModel_eq_scan]
    exact congrArg (Option.map StructId.mk) hi
  obtain ⟨x, hx, -⟩ := struct?_some hfirst
  exact ⟨⟨i⟩, x, hfirst, hx⟩

theorem enum?_name {i : Nat} {e : Enumeration} (h : m.enums[i]? = some e) :
    ∃ first x, (ofModel m).enum? e.name = some first ∧ m.enums[first.index]? = some x := by
  obtain ⟨j, hj⟩ := @findIdx?_of_getElem? Enumeration Enumeration.name m.enums e.name i e h
    (Text.sameName_refl e.name)
  have hfirst : (ofModel m).enum? e.name = some ⟨j⟩ := by
    rw [ofModel_eq_scan]
    exact congrArg (Option.map EnumId.mk) hj
  obtain ⟨x, hx, -⟩ := enum?_some hfirst
  exact ⟨⟨j⟩, x, hfirst, hx⟩

theorem bitfield?_name {i : Nat} {b : Bitfield} (h : m.bitfields[i]? = some b) :
    ∃ first x, (ofModel m).bitfield? b.name = some first ∧
      m.bitfields[first.index]? = some x := by
  obtain ⟨j, hj⟩ := @findIdx?_of_getElem? Bitfield Bitfield.name m.bitfields b.name i b h
    (Text.sameName_refl b.name)
  have hfirst : (ofModel m).bitfield? b.name = some ⟨j⟩ := by
    rw [ofModel_eq_scan]
    exact congrArg (Option.map BitfieldId.mk) hj
  obtain ⟨x, hx, -⟩ := bitfield?_some hfirst
  exact ⟨⟨j⟩, x, hfirst, hx⟩

theorem role?_name {id : RoleId} {r : Role} (h : m.role? id = some r) :
    ∃ first x, (ofModel m).role? r.name = some first ∧ m.role? first = some x := by
  obtain ⟨i, hi⟩ := @findIdx?_of_getElem? Role Role.name m.roles r.name id.index r h
    (Text.sameName_refl r.name)
  have hfirst : (ofModel m).role? r.name = some ⟨i⟩ := by
    rw [ofModel_eq_scan]
    exact congrArg (Option.map RoleId.mk) hi
  obtain ⟨x, hx, -⟩ := role?_some hfirst
  exact ⟨⟨i⟩, x, hfirst, hx⟩

theorem field?_name {sid : StructId} {id : FieldId} {f : Field} (h : (id, f) ∈ m.fieldsOf sid) :
    ∃ first x, (ofModel m).field? sid f.name = some first ∧ m.field? first = some x := by
  have hsome : ((m.fieldsOf sid).find? fun e => sameName e.2.name f.name).isSome = true :=
    List.find?_isSome.2 ⟨(id, f), h, Text.sameName_refl f.name⟩
  obtain ⟨⟨first, x⟩, hx⟩ := Option.isSome_iff_exists.1 hsome
  refine ⟨first, x, ?_, Model.field?_of_mem_fieldsOf (List.mem_of_find?_eq_some hx)⟩
  rw [ofModel_eq_scan]
  exact congrArg (Option.map (·.1)) hx

/-! ### repeated names -/

/-- The first item that passes a test, if it stands before one that passes it as well. -/
theorem find?_take {α : Type} {p : α → Bool} {xs : List α} {i : Nat} {a : α} (ha : xs[i]? = some a)
    (hp : p a = true) :
    (xs.take i).find? p = (xs.findIdx? p).bind fun j => if j = i then none else xs[j]? := by
  induction xs generalizing i with
  | nil => simp at ha
  | cons x rest ih =>
    cases i with
    | zero =>
      obtain rfl := Option.some.inj ha
      simp [List.findIdx?_cons, hp]
    | succ i =>
      rw [List.take_succ_cons, List.find?_cons, List.findIdx?_cons]
      cases hx : p x with
      | true => simp
      | false =>
        rw [ih ha]
        cases rest.findIdx? p <;> simp

/-- Of two items the first one is among those before the second. -/
theorem pairwise_iff_take {α : Type} {R : α → α → Prop} {xs : List α} :
    xs.Pairwise R ↔ ∀ i a, xs[i]? = some a → ∀ b ∈ xs.take i, R b a := by
  rw [List.pairwise_iff_getElem]
  constructor
  · intro h i a ha b hb
    obtain ⟨hi, rfl⟩ := List.getElem?_eq_some_iff.1 ha
    obtain ⟨j, hj, rfl⟩ := List.mem_take_iff_getElem.1 hb
    exact h j i (by omega) hi (by omega)
  · intro h i j hi hj hij
    exact h j _ (List.getElem?_eq_getElem hj) _ (List.mem_take_iff_getElem.2 ⟨i, by omega, rfl⟩)

section Repeated

variable {α : Type} {items : Array α} {first : Option Nat} {place : Nat}
  {problem : Pos → ResolveProblem} {pos : Pos}

/-- The earlier item of a name is the first one among those before the place. -/
theorem earlier?_eq_find? {name : α → String} {a : α} (ha : items[place]? = some a) :
    earlier? items (items.findIdx? fun x => sameName (name x) (name a)) place =
      (items.toList.take place).find? fun x => sameName (name x) (name a) := by
  obtain ⟨xs⟩ := items
  simp only [List.findIdx?_toArray, earlier?, List.getElem?_toArray] at ha ⊢
  exact (find?_take ha (Text.sameName_refl (name a))).symm

theorem earlier?_eq_none {i : Nat} {x : α} (hfirst : first = some i) (hx : items[i]? = some x) :
    earlier? items first place = none ↔ i = place := by
  subst hfirst
  by_cases hi : i = place <;> simp [earlier?, hi, hx]

/-- Nothing is reported about an item that has none before it. -/
theorem isOk_toList_map {report : α → Diagnostic} (h : ∀ a, (report a).isError = true)
    {o : Option α} : Diagnostics.isOk (o.toList.map report) = true ↔ o = none := by
  cases o <;> simp [h]

theorem isOk_repeated {pos? : Option α} {posOf : α → Pos} :
    Diagnostics.isOk (repeated problem pos (pos?.map posOf)) = true ↔ pos? = none := by
  rw [repeated, isOk_toList_map fun _ => rfl, Option.map_eq_none_iff]

end Repeated

end Namespace

namespace Model

variable {m : Model} {n : String}

theorem struct?_of_findStruct? {id : StructId} (h : m.findStruct? n = some id) :
    ∃ s, m.struct? id = some s := by
  rw [← Namespace.struct?_ofModel] at h
  obtain ⟨s, hs, -⟩ := Namespace.struct?_some h
  exact ⟨s, hs⟩

theorem mem_fieldsOf_of_findField? {p : StructId} {id : FieldId} (h : m.findField? p n = some id) :
    ∃ f, (id, f) ∈ m.fieldsOf p := by
  rw [← Namespace.field?_ofModel] at h
  obtain ⟨f, hf, -⟩ := Namespace.field?_some h
  exact ⟨f, hf⟩

theorem field?_of_findField? {p : StructId} {id : FieldId} (h : m.findField? p n = some id) :
    ∃ f, m.field? id = some f := by
  obtain ⟨f, hf⟩ := mem_fieldsOf_of_findField? h
  exact ⟨f, field?_of_mem_fieldsOf hf⟩

end Model

/-- Every declaration is what its name stands for, and no structure lists two fields of one name. -/
structure Model.NamesDistinct (m : Model) : Prop where
  structs : ∀ {id s}, m.struct? id = some s → (Namespace.ofModel m).struct? s.name = some id
  listed : ∀ sid, (m.fieldsOf sid).Pairwise fun e e' => sameName e.2.name e'.2.name = false
  enums : ∀ {i e}, m.enums[i]? = some e → (Namespace.ofModel m).enum? e.name = some ⟨i⟩
  bitfields : ∀ {i b}, m.bitfields[i]? = some b →
    (Namespace.ofModel m).bitfield? b.name = some ⟨i⟩
  roles : ∀ {id r}, m.role? id = some r → (Namespace.ofModel m).role? r.name = some id

namespace Model.NamesDistinct

variable {m : Model}

/-- Every declaration is the only one of its name. -/
theorem struct_unique (h : m.NamesDistinct) {id id' : StructId} {s s' : Struct}
    (hs : m.struct? id = some s) (hs' : m.struct? id' = some s')
    (hn : sameName s.name s'.name = true) : id = id' := by
  have hid := h.structs hs
  rw [Namespace.struct?_congr hn, h.structs hs', Option.some.injEq] at hid
  exact hid.symm

theorem field_unique (h : m.NamesDistinct) {s : StructId} {e e' : FieldId × Field}
    (he : e ∈ m.fieldsOf s) (he' : e' ∈ m.fieldsOf s)
    (hn : sameName e.2.name e'.2.name = true) : e = e' := by
  obtain ⟨i, hi, rfl⟩ := List.mem_iff_getElem.1 he
  obtain ⟨j, hj, rfl⟩ := List.mem_iff_getElem.1 he'
  have hlisted := List.pairwise_iff_getElem.1 (h.listed s)
  rcases Nat.lt_trichotomy i j with hij | rfl | hji
  · rw [hlisted i j hi hj hij] at hn
    cases hn
  · rfl
  · rw [Text.sameName_comm, hlisted j i hj hi hji] at hn
    cases hn

/-- A field is what its name stands for in a structure that lists it. -/
theorem fields (h : m.NamesDistinct) {sid : StructId} {id : FieldId} {f : Field}
    (hf : (id, f) ∈ m.fieldsOf sid) : (Namespace.ofModel m).field? sid f.name = some id := by
  obtain ⟨first, -, hfirst, -⟩ := Namespace.field?_name hf
  obtain ⟨x, hx, hn⟩ := Namespace.field?_some hfirst
  exact hfirst.trans (congrArg (fun e : FieldId × Field => some e.1) (h.field_unique hx hf hn))

theorem role_unique (h : m.NamesDistinct) {id id' : RoleId} {r r' : Role}
    (hr : m.role? id = some r) (hr' : m.role? id' = some r')
    (hn : sameName r.name r'.name = true) : id = id' := by
  have hid := h.roles hr
  rw [Namespace.role?_congr hn, h.roles hr', Option.some.injEq] at hid
  exact hid.symm

theorem enum_index_unique (h : m.NamesDistinct) {i j : Nat} {e e' : Enumeration}
    (he : m.enums[i]? = some e) (he' : m.enums[j]? = some e')
    (hn : sameName e.name e'.name = true) : i = j := by
  have hid := h.enums he
  rw [Namespace.enum?_congr hn, h.enums he', Option.some.injEq, EnumId.mk.injEq] at hid
  exact hid.symm

theorem bitfield_index_unique (h : m.NamesDistinct) {i j : Nat} {b b' : Bitfield}
    (hb : m.bitfields[i]? = some b) (hb' : m.bitfields[j]? = some b')
    (hn : sameName b.name b'.name = true) : i = j := by
  have hid := h.bitfields hb
  rw [Namespace.bitfield?_congr hn, h.bitfields hb', Option.some.injEq, BitfieldId.mk.injEq] at hid
  exact hid.symm

theorem enum_unique (h : m.NamesDistinct) {e e' : Enumeration} (he : e ∈ m.enums)
    (he' : e' ∈ m.enums) (hn : sameName e.name e'.name = true) : e = e' := by
  obtain ⟨i, hi⟩ := Array.mem_iff_getElem?.1 he
  obtain ⟨j, hj⟩ := Array.mem_iff_getElem?.1 he'
  obtain rfl := h.enum_index_unique hi hj hn
  exact Option.some.inj (hi.symm.trans hj)

end Model.NamesDistinct

namespace Namespace

variable {m : Model}

theorem isOk_fieldProblems {id : StructId} {owner : String} :
    Diagnostics.isOk ((ofModel m).fieldProblems m id owner) = true ↔
      (m.fieldsOf id).Pairwise fun e e' => sameName e.2.name e'.2.name = false := by
  have hlisted : (m.fieldsOf id).Pairwise (fun e e' => sameName e.2.name e'.2.name = false) ↔
      ((m.fieldsOf id).map Prod.snd).Pairwise fun f f' => sameName f.name f'.name = false := by
    rw [List.pairwise_map]
  simp only [hlisted, pairwise_iff_take, fieldProblems, Diagnostics.isOk_flatMap, isOk_repeated,
    listed?_ofModel, Prod.forall, List.mem_zipIdx_iff_getElem?]
  generalize (m.fieldsOf id).map Prod.snd = fields
  have hfirst : ∀ {i f}, fields[i]? = some f →
      earlier? fields.toArray (fields.toArray.findIdx? fun x => sameName x.name f.name) i =
        (fields.take i).find? fun x => sameName x.name f.name := fun hf =>
    earlier?_eq_find? (by simpa using hf)
  refine ⟨fun h i f hf => ?_, fun h f i hf => ?_⟩
  · have hnone := h f i hf
    rw [hfirst hf] at hnone
    simpa using List.find?_eq_none.1 hnone
  · rw [hfirst hf]
    exact List.find?_eq_none.2 (by simpa using h i f hf)

theorem isOk_structProblems {id : StructId} {s : Struct} (hs : m.struct? id = some s) :
    Diagnostics.isOk ((ofModel m).structProblems m id s) = true ↔
      (ofModel m).struct? s.name = some id ∧
        (m.fieldsOf id).Pairwise fun e e' => sameName e.2.name e'.2.name = false := by
  obtain ⟨⟨i⟩, x, hfirst, hx⟩ := struct?_name hs
  rw [structProblems, Diagnostics.isOk_append, Bool.and_eq_true, isOk_fieldProblems, isOk_repeated,
    hfirst, Option.map_some, earlier?_eq_none rfl hx]
  obtain ⟨j⟩ := id
  simp

theorem isOk_enumProblems {i : Nat} {e : Enumeration} (he : m.enums[i]? = some e) :
    Diagnostics.isOk ((ofModel m).enumProblems m ⟨i⟩ e) = true ↔
      (ofModel m).enum? e.name = some ⟨i⟩ := by
  obtain ⟨⟨j⟩, x, hfirst, hx⟩ := enum?_name he
  rw [enumProblems, isOk_repeated, hfirst, Option.map_some,
    earlier?_eq_none rfl hx]
  simp

theorem isOk_bitfieldProblems {i : Nat} {b : Bitfield} (hb : m.bitfields[i]? = some b) :
    Diagnostics.isOk ((ofModel m).bitfieldProblems m ⟨i⟩ b) = true ↔
      (ofModel m).bitfield? b.name = some ⟨i⟩ := by
  obtain ⟨⟨j⟩, x, hfirst, hx⟩ := bitfield?_name hb
  rw [bitfieldProblems, isOk_repeated, hfirst, Option.map_some,
    earlier?_eq_none rfl hx]
  simp

theorem isOk_roleProblems {i : Nat} {r : Role} (hr : m.role? ⟨i⟩ = some r) :
    Diagnostics.isOk ((ofModel m).roleProblems m ⟨i⟩ r) = true ↔
      (ofModel m).role? r.name = some ⟨i⟩ := by
  obtain ⟨⟨j⟩, x, hfirst, hx⟩ := role?_name hr
  have herror : ∀ first : Role, ((if first.kind.isReserved then .roles (.reservedName r.name)
      else .resolve (.duplicateRole r.name first.pos) : Cause).at r.pos).isError = true := by
    intro first
    split <;> rfl
  rw [roleProblems, isOk_toList_map herror, hfirst, Option.map_some, earlier?_eq_none rfl hx]
  simp

/-- A repeated name is an error. -/
theorem isError_of_mem_problems {d : Diagnostic} (h : d ∈ (ofModel m).problems m) :
    d.isError = true := by
  simp only [problems, structProblems, fieldProblems, enumProblems, bitfieldProblems, roleProblems,
    repeated, List.mem_append, List.mem_flatMap, List.mem_map] at h
  obtain ((⟨_, _, ⟨_, -, rfl⟩ | ⟨_, -, _, -, rfl⟩⟩ | ⟨_, -, _, -, rfl⟩) | ⟨_, -, _, -, rfl⟩) |
    ⟨_, -, first, -, rfl⟩ := h
  iterate 4 rfl
  split <;> rfl

/-- A model repeats no name exactly if every declaration is what its own name stands for, and no
structure lists two fields of one name. -/
theorem isOk_problems_iff :
    Diagnostics.isOk ((ofModel m).problems m) = true ↔ m.NamesDistinct := by
  have hitems : ∀ {α : Type} (items : Array α) (P : α × Nat → Prop),
      (∀ x ∈ items.toList.zipIdx, P x) ↔ ∀ {i a}, items[i]? = some a → P (a, i) := by
    intro α items P
    simp only [Prod.forall, List.mem_zipIdx_iff_getElem?, Array.getElem?_toList]
    exact forall_comm
  have hstructs : (∀ e ∈ m.indexedStructs,
        Diagnostics.isOk ((ofModel m).structProblems m e.1 e.2) = true) ↔
      ∀ {id s}, m.struct? id = some s → (ofModel m).struct? s.name = some id ∧
        (m.fieldsOf id).Pairwise fun e e' => sameName e.2.name e'.2.name = false := by
    simp only [Prod.forall, Model.mem_indexedStructs]
    exact forall₂_congr fun id s => forall_congr' fun hs => isOk_structProblems hs
  simp only [problems, Diagnostics.isOk_append, Bool.and_eq_true, Diagnostics.isOk_flatMap,
    hitems, hstructs]
  constructor
  · rintro ⟨⟨⟨hs, he⟩, hb⟩, hr⟩
    refine ⟨fun h => (hs h).1, fun sid => ?_, fun h => (isOk_enumProblems h).1 (he h),
      fun h => (isOk_bitfieldProblems h).1 (hb h), fun h => (isOk_roleProblems h).1 (hr h)⟩
    cases hsid : m.struct? sid with
    | some s => exact (hs hsid).2
    | none => simp [Model.fieldsOf, hsid]
  · intro h
    exact ⟨⟨⟨fun hs => ⟨h.structs hs, h.listed _⟩, fun he => (isOk_enumProblems he).2 (h.enums he)⟩,
      fun hb => (isOk_bitfieldProblems hb).2 (h.bitfields hb)⟩,
      fun hr => (isOk_roleProblems hr).2 (h.roles hr)⟩

/-- A model without repeated names has nothing reported about them. -/
theorem problems_eq_nil (h : m.NamesDistinct) : (ofModel m).problems m = [] := by
  rw [List.eq_nil_iff_forall_not_mem]
  intro d hd
  have hok := Diagnostics.isOk_iff_forall.1 (isOk_problems_iff.2 h) d hd
  rw [isError_of_mem_problems hd] at hok
  cases hok

end Namespace

end ModelLinker
