import Mathlib.Data.List.Dedup
import Mathlib.Data.List.Permutation
import Mathlib.Order.Interval.Finset.Defs
import Mathlib.Data.Int.Interval
import ModelLinker.Proofs.Linked
import ModelLinker.Proofs.Reported

/-!
# Values of enumerations and of bit fields

Items of an enumeration that declare no value are numbered: each gets one more than the greatest
value before it (`Enumeration.Numbered`). The numbers stay within 64 bits, and where they cannot go
on the last one is given again, which is reported like any other value that is there twice
(`Enumeration.RepeatsReported`). So the items of a linked enumeration have different names and
values, and those of a linked bit field different names and bits.
-/

namespace ModelLinker

open List (Forall₂)
open Text (sameName)

/-! ### numbers -/

/-- The value of an item that declares none: one more than the greatest of the values before it, but
zero at least, and no more than 64 bits hold. -/
def automaticValue (earlier : List EnumItem) : Int :=
  match (earlier.map EnumItem.value).max? with
  | none => 0
  | some greatest => min Decl.greatestSigned (max 0 (1 + greatest))

theorem automaticValue_concat (earlier : List EnumItem) (i : EnumItem) :
    automaticValue (earlier ++ [i]) = max (automaticValue earlier) (nextValue i.value) := by
  have hpositive : (0 : Int) ≤ Decl.greatestSigned := by decide
  cases earlier with
  | nil =>
    simp only [automaticValue, nextValue, List.nil_append, List.map_cons, List.map_nil,
      List.max?_singleton, List.max?_nil]
    omega
  | cons x rest =>
    simp only [automaticValue, nextValue, List.cons_append, List.map_cons, List.map_append,
      List.map_nil, List.max?, List.foldl_append, List.foldl_cons, List.foldl_nil]
    omega

/-- The number of an item is greater than all values before it, unless it is the greatest. -/
theorem lt_automaticValue {earlier : List EnumItem} {y : EnumItem} (hy : y ∈ earlier)
    (h : automaticValue earlier ≠ Decl.greatestSigned) : y.value < automaticValue earlier := by
  have hmem := List.mem_map_of_mem (f := EnumItem.value) hy
  unfold automaticValue at h ⊢
  cases hmax : (earlier.map EnumItem.value).max? with
  | none =>
    rw [List.max?_eq_none_iff] at hmax
    rw [hmax] at hmem
    cases hmem
  | some greatest =>
    have hle := (List.max?_eq_some_iff.1 hmax).2 _ hmem
    simp only [hmax] at h ⊢
    omega

/-- After the greatest integer the same number is given again. -/
theorem automaticValue_of_greatest {earlier : List EnumItem} {y : EnumItem} (hy : y ∈ earlier)
    (h : y.value = Decl.greatestSigned) : automaticValue earlier = Decl.greatestSigned := by
  by_contra hne
  have hlt := lt_automaticValue hy hne
  have hle : automaticValue earlier ≤ Decl.greatestSigned := by
    unfold automaticValue
    split
    · decide
    · omega
  omega

/-- Nothing but the value of an item is new. -/
theorem forall₂_numberItems (next : Int) (items : List EnumItem) :
    Forall₂ (fun i j : EnumItem => j = { i with value := j.value }) items
      (numberItems next items) := by
  induction items generalizing next with
  | nil => exact .nil
  | cons i rest ih => exact .cons rfl (ih _)

/-- The counter always holds the number that the next item gets if it declares none. -/
theorem value_numberItems {earlier items : List EnumItem} {n : Nat} {x : EnumItem}
    (h : (numberItems (automaticValue earlier) items)[n]? = some x) :
    x.value = x.declared.getD
      (automaticValue (earlier ++ (numberItems (automaticValue earlier) items).take n)) := by
  induction items generalizing earlier n with
  | nil => cases h
  | cons i rest ih =>
    rw [numberItems] at h ⊢
    cases n with
    | zero =>
      obtain rfl := Option.some.inj h
      rw [List.take_zero, List.append_nil]
    | succ n =>
      have hnext := automaticValue_concat earlier
        { i with value := i.declared.getD (automaticValue earlier) }
      dsimp only at hnext
      rw [← hnext] at h ⊢
      rw [List.take_succ_cons, ← List.singleton_append, ← List.append_assoc]
      exact ih h

/-- Numbers go on from the greatest value, be it declared or not; after the greatest integer it is
given again. -/
example :
    (numberItems 0 ([some (-3), none, some 7, some 2, none, some (2 ^ 63 - 1), none].map fun d =>
      ⟨"item", .ofFile "levels", none, d, 0⟩)).map EnumItem.value =
        [-3, 0, 7, 2, 8, 2 ^ 63 - 1, 2 ^ 63 - 1] := by
  decide

/-! ### numbers as words -/

/-- One more in words of 64 bits, whose sums wrap; the greatest word stays what it is. -/
def nextWord (w : Int64) : Int64 := if w = Int64.maxValue then w else w + 1

/-- The values of items in words of 64 bits, given those that are declared. -/
def numberWords (next : Int64) : List (Option Int64) → List Int64
  | [] => []
  | declared :: rest =>
    let value := declared.getD next
    value :: numberWords (max next (nextWord value)) rest

theorem toInt_nextWord (w : Int64) : (nextWord w).toInt = nextValue w.toInt := by
  have hlt := Int64.toInt_lt w
  have hle := Int64.le_toInt w
  have hgreatest : Decl.greatestSigned = 2 ^ 63 - 1 := by decide
  unfold nextWord nextValue
  rw [hgreatest]
  split
  · rename_i hmax
    rw [hmax]
    decide
  · rename_i hmax
    have hne : w.toInt ≠ 2 ^ 63 - 1 := fun h => hmax (Int64.toInt_inj.1 h)
    rw [Int64.toInt_add, show (1 : Int64).toInt = 1 from by decide, Int.bmod_eq_of_le] <;> omega

theorem toInt_max (v w : Int64) : (max v w).toInt = max v.toInt w.toInt := by
  rw [show max v w = if v ≤ w then w else v from rfl]
  split
  · rename_i h
    exact (max_eq_right (Int64.le_iff_toInt_le.1 h)).symm
  · rename_i h
    exact (max_eq_left (le_of_not_ge fun hvw => h (Int64.le_iff_toInt_le.2 hvw))).symm

/-- Words and integers count alike, so no sum of words wraps. -/
theorem toInt_numberWords {items : List EnumItem} {ds : List (Option Int64)} (next : Int64)
    (h : items.map EnumItem.declared = ds.map (Option.map Int64.toInt)) :
    (numberItems next.toInt items).map EnumItem.value =
      (numberWords next ds).map Int64.toInt := by
  induction items generalizing ds next with
  | nil =>
    obtain rfl := List.map_eq_nil_iff.1 h.symm
    rfl
  | cons i rest ih =>
    cases ds with
    | nil => cases h
    | cons d ds =>
      obtain ⟨hd, hds⟩ := List.cons.inj h
      have hvalue : i.declared.getD next.toInt = (d.getD next).toInt := by
        rw [hd]
        cases d <;> rfl
      have hrest := ih (max next (nextWord (d.getD next))) hds
      rw [toInt_max, toInt_nextWord] at hrest
      simp only [numberItems, numberWords, List.map_cons, hvalue, hrest]

/-! ### enumerations -/

namespace Enumeration

/-- The enumeration with its items numbered. Nothing but their values is new; an item has the value
that it declares, or else one more than the greatest before it. Words of 64 bits give the same
values. The number of an item is that of an earlier one only after the greatest integer. -/
structure Numbered (e e' : Enumeration) : Prop where
  kept : e' = { e with items := e'.items }
  items : Forall₂ (fun i j : EnumItem => j = { i with value := j.value }) e.items e'.items
  value : ∀ {n : Nat} {x : EnumItem}, e'.items[n]? = some x →
    x.value = x.declared.getD (automaticValue (e'.items.take n))
  words : ∀ ds : List (Option Int64),
    e.items.map EnumItem.declared = ds.map (Option.map Int64.toInt) →
      e'.items.map EnumItem.value = (numberWords 0 ds).map Int64.toInt
  clash : ∀ {n : Nat} {x : EnumItem}, e'.items[n]? = some x → x.declared = none →
    ((∃ y ∈ e'.items.take n, y.value = x.value) ↔
      ∃ y ∈ e'.items.take n, y.value = Decl.greatestSigned)

/-- The item has the name of an earlier one. -/
def RepeatsName (e : Enumeration) (n : Nat) : Prop :=
  ∃ x, e.items[n]? = some x ∧ ∃ y ∈ e.items.take n, sameName y.name x.name = true

/-- The item has the value of an earlier one. -/
def RepeatsValue (e : Enumeration) (n : Nat) : Prop :=
  ∃ x, e.items[n]? = some x ∧ ∃ y ∈ e.items.take n, y.value = x.value

/-- What is reported of an enumeration: one error for each item that repeats a name, one for each
item that repeats a value, and nothing else. -/
def RepeatsReported (e : Enumeration) : Prop :=
  ∃ names values : Diagnostics, e.problems.Perm (names ++ values) ∧
    names.OneEach e.RepeatsName (fun n d => ∃ x, e.items[n]? = some x ∧
      d = (Cause.resolve (.duplicateEnumItem e.name x.name)).at x.pos) ∧
    values.OneEach e.RepeatsValue (fun n d => ∃ x, e.items[n]? = some x ∧
      d = (Cause.resolve (.duplicateEnumValue e.name x.name x.value)).at x.pos)

/-- No two items have the same name or the same value. -/
structure Distinct (e : Enumeration) : Prop where
  names : e.items.Pairwise fun x y => sameName x.name y.name = false
  values : (e.items.map EnumItem.value).Nodup

variable (e : Enumeration)

theorem numbered_number : e.Numbered e.number where
  kept := rfl
  items := forall₂_numberItems 0 e.items
  value h := @value_numberItems [] _ _ _ h
  words ds h := toInt_numberWords 0 h
  clash {n x} h hdeclared := by
    have hvalue : x.value = automaticValue (e.number.items.take n) := by
      have := @value_numberItems [] _ _ _ h
      rwa [hdeclared] at this
    constructor
    · rintro ⟨y, hy, heq⟩
      refine ⟨y, hy, ?_⟩
      by_contra hne
      rw [heq, hvalue] at hne
      have hlt := lt_automaticValue hy hne
      omega
    · rintro ⟨y, hy, hgreatest⟩
      exact ⟨y, hy, by rw [hvalue, automaticValue_of_greatest hy hgreatest, hgreatest]⟩

theorem repeatsReported : e.RepeatsReported := by
  have hnames := Diagnostics.oneEach_ite e.items
    (fun n x => (e.items.take n).any fun y => sameName y.name x.name)
    fun x => (Cause.resolve (.duplicateEnumItem e.name x.name)).at x.pos
  have hvalues := Diagnostics.oneEach_ite e.items
    (fun n x => (e.items.take n).any fun y => y.value == x.value)
    fun x => (Cause.resolve (.duplicateEnumValue e.name x.name x.value)).at x.pos
  refine ⟨_, _, ?_, hnames.congr ?_, hvalues.congr ?_⟩
  · rw [problems, withEarlier_eq_flatMap]
    exact (List.flatMap_append_perm _ _ _).symm
  · intro n
    simp [RepeatsName]
  · intro n
    simp [RepeatsValue]

theorem distinct_of_isOk {e : Enumeration} (h : Diagnostics.isOk e.problems = true) :
    e.Distinct := by
  have hpairs := (pairwise_of_withEarlier (fun _ _ hok => ne_of_isOk hok) h).2
  exact ⟨hpairs.imp And.left, List.pairwise_map.2 (hpairs.imp And.right)⟩

end Enumeration

/-! ### bit fields -/

/-- No two items have the same name or the same bit, all bits are among the 64 there are, and so
there are no more items than that. -/
structure Bitfield.Distinct (b : Bitfield) : Prop where
  names : b.items.Pairwise fun x y => sameName x.name y.name = false
  bits : (b.items.map BitItem.value).Nodup
  range : ∀ x ∈ b.items, 0 ≤ x.value ∧ x.value ≤ 63
  count : b.items.length ≤ 64

/-- Different bits are no more than there are. -/
theorem length_le_of_bits {ns : List Int} (hnodup : ns.Nodup) (hrange : ∀ n ∈ ns, 0 ≤ n ∧ n ≤ 63) :
    ns.length ≤ 64 := by
  have hsub : ns.toFinset ⊆ Finset.Icc 0 63 := by
    intro n hn
    exact Finset.mem_Icc.2 (hrange n (List.mem_toFinset.1 hn))
  calc ns.length = ns.toFinset.card := (List.toFinset_card_of_nodup hnodup).symm
    _ ≤ (Finset.Icc (0 : Int) 63).card := Finset.card_le_card hsub
    _ = 64 := by rw [Int.card_Icc]; rfl

theorem Bitfield.distinct_of_isOk {b : Bitfield} (h : Diagnostics.isOk b.problems = true) :
    b.Distinct := by
  have hcheck : ∀ earlier x, Diagnostics.isOk (b.itemProblems earlier x) = true →
      (0 ≤ x.value ∧ x.value ≤ 63) ∧
        ∀ y ∈ earlier, sameName y.name x.name = false ∧ y.value ≠ x.value := by
    intro earlier x hok
    simp only [itemProblems, Diagnostics.isOk_append, Bool.and_eq_true] at hok
    obtain ⟨⟨hrange, hnames⟩, hbits⟩ := hok
    refine ⟨?_, fun y hy => ⟨eq_false_of_isOk_ite (by simp) hnames y hy,
      ne_of_beq_false (eq_false_of_isOk_ite (by simp) hbits y hy)⟩⟩
    cases hbit : isBit x.value with
    | true => simpa [isBit] using hbit
    | false => simp [hbit] at hrange
  have hpairs := (pairwise_of_withEarlier (fun earlier x hok => (hcheck earlier x hok).2) h).2
  have hbits : (b.items.map BitItem.value).Nodup := List.pairwise_map.2 (hpairs.imp And.right)
  have hrange : ∀ x ∈ b.items, 0 ≤ x.value ∧ x.value ≤ 63 := by
    intro x hx
    obtain ⟨earlier, hok⟩ := isOk_of_withEarlier h hx
    exact (hcheck earlier x hok).1
  have hcount := length_le_of_bits hbits (by simpa using hrange)
  rw [List.length_map] at hcount
  exact ⟨hpairs.imp And.left, hbits, hrange, hcount⟩

/-! ### linked models -/

/-- The items of every enumeration are numbered, and repeated names and values are reported, one
enumeration after another. In a linked model none are left. -/
theorem numbered_and_distinct :
    (∀ e : Enumeration, e.Numbered e.number ∧ e.number.RepeatsReported) ∧
      (∀ m : Model, (numberEnums m).enums = m.enums.map Enumeration.number ∧
        enumProblems (numberEnums m) = m.enums.toList.flatMap fun e => e.number.problems) ∧
      ∀ seed m l, linkWith seed m = .ok l →
        (∀ e ∈ l.model.enums, e.Distinct) ∧ ∀ b ∈ l.model.bitfields, b.Distinct := by
  refine ⟨fun e => ⟨e.numbered_number, e.number.repeatsReported⟩, fun m => ⟨rfl, ?_⟩, ?_⟩
  · simp [enumProblems, numberEnums, List.flatMap_map]
  · intro seed m l h
    have hok := (faultless_of_linkWith h).2.resolve
    simp only [resolve, Diagnostics.isOk_append, Bool.and_eq_true] at hok
    obtain ⟨⟨⟨⟨⟨⟨⟨henums, hbitfields⟩, -⟩, -⟩, -⟩, -⟩, -⟩, -⟩ := hok
    rw [enumProblems, Diagnostics.isOk_flatMap] at henums
    rw [bitfieldProblems, Diagnostics.isOk_flatMap] at hbitfields
    rw [(Model.linked_of_linkWith h).1, Model.linked_enums, Model.linked_bitfields]
    exact ⟨fun e he => Enumeration.distinct_of_isOk (henums e (Array.mem_toList_iff.2 he)),
      fun b hb => Bitfield.distinct_of_isOk (hbitfields b (Array.mem_toList_iff.2 hb))⟩

/-- The ranks of the staff are numbered, and the bits of their access are different. -/
theorem numbered_and_distinct_staffSet :
    ∃ l, linkSources staffSet = .ok l ∧
      l.model.enums.toList.map (fun e => e.items.map EnumItem.value) = [[0, 1]] ∧
      l.model.bitfields.size = 1 ∧
      (∀ e ∈ l.model.enums, e.Distinct) ∧ ∀ b ∈ l.model.bitfields, b.Distinct := by
  obtain ⟨l, hset, -⟩ := staffSet_links
  refine ⟨l, hset, ?_, ?_, numbered_and_distinct.2.2 _ _ l hset⟩
  · rw [(Model.linked_of_linkWith hset).1, Model.linked_enums]
    decide +kernel
  · rw [(Model.linked_of_linkWith hset).1, Model.linked_bitfields]
    decide +kernel

end ModelLinker
