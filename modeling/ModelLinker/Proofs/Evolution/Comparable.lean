import Mathlib.Data.List.Pairwise
import ModelLinker.Evolution
import ModelLinker.Proofs.Binding.Bound
import ModelLinker.Proofs.Reported

/-!
# Models that can be compared

A comparison looks up parts of one model by the names they have in another one, and takes the first
part it finds. In a linked model this is the only one (`comparable_of_linkWith`), so that a lookup
finds a part exactly if it has the name.
-/

namespace ModelLinker

open Text (fold sameName sameName_iff)

/-- If no two items have the same name, a lookup finds the item that has a name. -/
theorem find?_sameName {α : Type} {name : α → String} {xs : List α}
    (h : ∀ a ∈ xs, ∀ b ∈ xs, sameName (name a) (name b) = true → a = b) {n : String} {a : α} :
    xs.find? (fun x => sameName (name x) n) = some a ↔
      a ∈ xs ∧ sameName (name a) n = true := by
  constructor
  · intro hfind
    have hn := List.find?_some hfind
    exact ⟨List.mem_of_find?_eq_some hfind, hn⟩
  · rintro ⟨hmem, hn⟩
    obtain ⟨b, hb⟩ : ∃ b, xs.find? (fun x => sameName (name x) n) = some b :=
      Option.isSome_iff_exists.1 (List.find?_isSome.2 ⟨a, hmem, hn⟩)
    have hbn := List.find?_some hb
    rw [h a hmem b (List.mem_of_find?_eq_some hb)
      (sameName_iff.2 ((sameName_iff.1 hn).trans (sameName_iff.1 hbn).symm)), hb]

/-- An enumeration without problems has no two items of the same name. -/
theorem Enumeration.item_unique {e : Enumeration} (h : Diagnostics.isOk e.problems = true)
    {i j : EnumItem} (hi : i ∈ e.items) (hj : j ∈ e.items) (hn : sameName i.name j.name = true) :
    i = j := by
  have hcheck : ∀ earlier x, Diagnostics.isOk (e.itemProblems earlier x) = true →
      ∀ y ∈ earlier, sameName y.name x.name = false :=
    fun _ _ hok y hy => (ne_of_isOk hok y hy).1
  have hpairs := (pairwise_of_withEarlier hcheck h).2
  have hsymm : Std.Symm fun y x : EnumItem => sameName y.name x.name = false :=
    ⟨fun y x hyx => by rwa [Text.sameName_comm]⟩
  by_contra hij
  rw [hpairs.forall hi hj hij] at hn
  cases hn

namespace Model

/-- What a comparison relies on: parts that stand side by side have different names, and a
constraint lists its fields by their own names. -/
structure Comparable (m : Model) : Prop where
  structs : ∀ {id id' s s'}, m.struct? id = some s → m.struct? id' = some s' →
    sameName s.name s'.name = true → id = id'
  fields : ∀ {s e e'}, e ∈ m.fieldsOf s → e' ∈ m.fieldsOf s →
    sameName e.2.name e'.2.name = true → e = e'
  enums : ∀ {e e'}, e ∈ m.enums → e' ∈ m.enums → sameName e.name e'.name = true → e = e'
  items : ∀ {e}, e ∈ m.enums → ∀ {i j}, i ∈ e.items → j ∈ e.items →
    sameName i.name j.name = true → i = j
  uniques : ∀ {id s}, m.struct? id = some s → ∀ u ∈ s.uniques,
    u.names m = u.fields.map fun r => fold r.name

variable {m : Model}

/-! ### lookups -/

namespace Comparable

theorem findStruct? (h : m.Comparable) {n : String} {id : StructId} :
    m.findStruct? n = some id ↔ ∃ s, m.struct? id = some s ∧ sameName s.name n = true := by
  have hscan : m.findStruct? n = (Namespace.ofModel m).struct? n := by
    rw [Namespace.ofModel_eq_scan]
    rfl
  rw [hscan]
  constructor
  · exact Namespace.struct?_some
  · rintro ⟨s, hs, hn⟩
    obtain ⟨first, x, hfirst, hx⟩ := Namespace.struct?_name hs
    obtain ⟨y, hy, hyn⟩ := Namespace.struct?_some hfirst
    rw [← Namespace.struct?_congr hn, hfirst, h.structs hy hs hyn]

theorem fieldNamed? (h : m.Comparable) {s : StructId} {n : String} {f : Field} :
    m.fieldNamed? s n = some f ↔ ∃ id, (id, f) ∈ m.fieldsOf s ∧ sameName f.name n = true := by
  have hfind := fun e => @find?_sameName _ (fun e : FieldId × Field => e.2.name) (m.fieldsOf s)
    (fun _ he _ he' => h.fields he he') n e
  simp only [Model.fieldNamed?, findField?, Option.bind_eq_some_iff, Option.map_eq_some_iff]
  constructor
  · rintro ⟨_, ⟨⟨id, g⟩, hg, rfl⟩, hf⟩
    obtain ⟨hmem, hn⟩ := (hfind _).1 hg
    obtain rfl : g = f := Option.some.inj ((field?_of_mem_fieldsOf hmem).symm.trans hf)
    exact ⟨id, hmem, hn⟩
  · rintro ⟨id, hmem, hn⟩
    exact ⟨id, ⟨(id, f), (hfind _).2 ⟨hmem, hn⟩, rfl⟩, field?_of_mem_fieldsOf hmem⟩

theorem findEnum? (h : m.Comparable) {n : String} {e : Enumeration} :
    m.findEnum? n = some e ↔ e ∈ m.enums ∧ sameName e.name n = true := by
  rw [Model.findEnum?, ← Array.find?_toList, find?_sameName, Array.mem_toList_iff]
  intro a ha b hb hn
  exact h.enums (Array.mem_toList_iff.1 ha) (Array.mem_toList_iff.1 hb) hn

theorem findItem? (h : m.Comparable) {e : Enumeration} (he : e ∈ m.enums) {n : String}
    {i : EnumItem} : e.findItem? n = some i ↔ i ∈ e.items ∧ sameName i.name n = true :=
  find?_sameName fun _ hi _ hj => h.items he hi hj

end Comparable

/-- A field is not found exactly if no field has the name. -/
theorem isNone_findField? {s : StructId} {n : String} :
    (m.findField? s n).isNone = true ↔ ¬ ∃ e ∈ m.fieldsOf s, sameName e.2.name n = true := by
  simp [findField?]

/-! ### linked models -/

/-- What a run that succeeds has not found wrong with names and values. -/
theorem namesOk_of_linkWith {seed : Diagnostics} {l : Linked} (h : linkWith seed m = .ok l) :
    m.NamesDistinct ∧ ∀ e ∈ l.model.enums, Diagnostics.isOk e.problems = true := by
  obtain ⟨-, hstages⟩ := faultless_of_linkWith h
  refine ⟨Namespace.isOk_problems_iff.1 hstages.names, fun e he => ?_⟩
  have hresolve := hstages.resolve
  simp only [resolve, Diagnostics.isOk_append, Bool.and_eq_true] at hresolve
  obtain ⟨⟨⟨⟨⟨⟨⟨henums, -⟩, -⟩, -⟩, -⟩, -⟩, -⟩, -⟩ := hresolve
  rw [enumProblems, Diagnostics.isOk_flatMap] at henums
  refine henums e (Array.mem_toList_iff.2 ?_)
  rwa [← linked_enums, ← (linked_of_linkWith h).1]

end Model

/-- Every linked model can be compared. -/
theorem comparable_of_linkWith {seed : Diagnostics} {m : Model} {l : Linked}
    (h : linkWith seed m = .ok l) : l.model.Comparable := by
  obtain ⟨hnames, hitems⟩ := Model.namesOk_of_linkWith h
  obtain ⟨hresolve, -⟩ := Model.stagesOk_of_linkWith h
  obtain ⟨-, -, rfl⟩ := linkWith_eq_ok_iff.1 h
  refine ⟨hnames.linked.struct_unique, hnames.linked.field_unique, hnames.linked.enum_unique,
    fun he => Enumeration.item_unique (hitems _ he), ?_⟩
  intro id s hs u hu
  refine List.map_congr_left fun r hr => ?_
  have hlocal : r ∈ s.locals :=
    List.mem_append_right _ (List.mem_flatMap.2 ⟨u, hu, hr⟩)
  obtain ⟨fid, f, hbound, -⟩ := (Model.linked_operations hresolve hs).2.2 r hlocal
  rw [hbound.target, Option.bind_some, Model.field?_of_mem_fieldsOf hbound.listed]
  exact sameName_iff.1 hbound.name

end ModelLinker
