import Mathlib.Data.List.Forall2
import ModelLinker.Json.Basic

/-!
# Documents up to the order of members

An object is a list of members, and their order means nothing. `Json.Rearranged` says that a
document is another one with the members of its objects, at every depth, in some other order. What a
document is made of has less depth than the document.
-/

namespace ModelLinker.Json

open List (Forall₂)

/-! ### depth -/

section Depth

variable {j : Json} {items : List Json} {members : List (String × Json)}

theorem depth_le_depthOfItems (h : j ∈ items) : j.depth ≤ depthOfItems items := by
  induction items with
  | nil => cases h
  | cons x xs ih =>
    rw [depthOfItems]
    rcases List.mem_cons.1 h with rfl | h
    · exact Nat.le_max_left _ _
    · exact Nat.le_trans (ih h) (Nat.le_max_right _ _)

theorem depth_lt_of_mem_items (h : j ∈ items) : j.depth < (arr items).depth := by
  rw [depth]
  exact Nat.lt_succ_of_le (depth_le_depthOfItems h)

theorem depth_le_depthOfMembers {name : String} (h : (name, j) ∈ members) :
    j.depth ≤ depthOfMembers members := by
  induction members with
  | nil => cases h
  | cons x xs ih =>
    rw [depthOfMembers]
    rcases List.mem_cons.1 h with rfl | h
    · exact Nat.le_max_left _ _
    · exact Nat.le_trans (ih h) (Nat.le_max_right _ _)

theorem depth_lt_of_mem_members {name : String} (h : (name, j) ∈ members) :
    j.depth < (obj members).depth := by
  rw [depth]
  exact Nat.lt_succ_of_le (depth_le_depthOfMembers h)

end Depth

/-! ### the order of members -/

/-- A document with the members of its objects in another order, also within its parts. -/
inductive Rearranged : Json → Json → Prop where
  | refl (j : Json) : Rearranged j j
  | arr {xs ys : List Json} : Forall₂ Rearranged xs ys → Rearranged (.arr xs) (.arr ys)
  | obj {xs ys zs : List (String × Json)} : xs.map (·.1) = ys.map (·.1) →
    Forall₂ Rearranged (xs.map (·.2)) (ys.map (·.2)) → ys.Perm zs → Rearranged (.obj xs) (.obj zs)

namespace Rearranged

variable {e : Json}

theorem eq_int {n : Int} (h : (int n).Rearranged e) : e = .int n := by
  cases h
  rfl

theorem eq_real {x : Decimal.Binary64} (h : (real x).Rearranged e) : e = .real x := by
  cases h
  rfl

theorem eq_str {s : String} (h : (str s).Rearranged e) : e = .str s := by
  cases h
  rfl

theorem eq_bool {b : Bool} (h : (bool b).Rearranged e) : e = .bool b := by
  cases h
  rfl

/-- The items of a list stay in their order. -/
theorem eq_arr {items : List Json} (h : (Json.arr items).Rearranged e) :
    ∃ items', e = .arr items' ∧ Forall₂ Rearranged items items' := by
  cases h with
  | refl => exact ⟨items, rfl, List.forall₂_same.2 fun x _ => .refl x⟩
  | arr hitems => exact ⟨_, rfl, hitems⟩

/-- The members of an object are the same ones, each with its value rearranged. -/
theorem eq_obj {members : List (String × Json)} (h : (Json.obj members).Rearranged e) :
    ∃ members', e = .obj members' ∧
      (∀ m ∈ members, ∃ m' ∈ members', m'.1 = m.1) ∧
      ∀ m' ∈ members', ∃ m ∈ members, m.1 = m'.1 ∧ m.2.Rearranged m'.2 := by
  cases h with
  | refl => exact ⟨members, rfl, fun m hm => ⟨m, hm, rfl⟩, fun m hm => ⟨m, hm, rfl, .refl _⟩⟩
  | @obj _ ys zs hnames hvalues hperm =>
    refine ⟨zs, rfl, ?_, ?_⟩
    · intro m hm
      have hname : m.1 ∈ ys.map (·.1) := hnames ▸ List.mem_map_of_mem hm
      obtain ⟨m', hm', heq⟩ := List.mem_map.1 hname
      exact ⟨m', hperm.mem_iff.1 hm', heq⟩
    · intro m' hm'
      obtain ⟨i, hi, rfl⟩ := List.getElem_of_mem (hperm.mem_iff.2 hm')
      have hlength : members.length = ys.length := by
        simpa using congrArg List.length hnames
      have hlt : i < members.length := hlength ▸ hi
      refine ⟨members[i], List.getElem_mem hlt, ?_, ?_⟩
      · have := congrArg (·[i]?) hnames
        simpa [hi, hlt] using this
      · have := hvalues.get (by simpa using hlt) (by simpa using hi)
        simpa using this

end Rearranged

end ModelLinker.Json
