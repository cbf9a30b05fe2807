import Mathlib.Data.List.Nodup
import Mathlib.Data.List.Perm.Subperm
import Mathlib.Logic.Relation
import ModelLinker.Proofs.Names

/-!
# Ancestors where no role is its own

The chain of parents of a role is bounded by the number of roles. Where no role is its own ancestor
the chain repeats nothing, so it always ends before the bound: it lists all ancestors
(`mem_ancestors`), and ends with a role that has no parent (`getLast?_ancestors`).
-/

namespace ModelLinker.Model

open Relation

/-- The second role is the parent of the first. -/
def Under (m : Model) (id p : RoleId) : Prop := m.parentOf id = some p

variable {m : Model}

/-! ### chains of parents -/

theorem isChain_parentChain (n : Nat) (id : RoleId) :
    List.IsChain m.Under (id :: m.parentChain n id) := by
  induction n generalizing id with
  | zero => exact .singleton id
  | succ n ih =>
    unfold parentChain
    cases hp : m.parentOf id with
    | none => exact .singleton id
    | some p => exact .cons_cons hp (ih p)

/-- In a chain of parents every role stands below all that come after it. -/
theorem pairwise_parentChain (n : Nat) (id : RoleId) :
    (id :: m.parentChain n id).Pairwise (TransGen m.Under) :=
  List.isChain_iff_pairwise.1 ((isChain_parentChain n id).imp fun _ _ => .single)

theorem transGen_of_mem_parentChain {n : Nat} {id a : RoleId} (h : a ∈ m.parentChain n id) :
    TransGen m.Under id a :=
  (List.pairwise_cons.1 (pairwise_parentChain n id)).1 a h

section Ends

variable {n : Nat} {id : RoleId}

/-- A chain that ends before its bound is the same with every greater one. -/
theorem parentChain_of_length_lt (h : (m.parentChain n id).length < n) {k : Nat} (hk : n ≤ k) :
    m.parentChain k id = m.parentChain n id := by
  induction n generalizing id k with
  | zero => exact absurd h (Nat.not_lt_zero _)
  | succ n ih =>
    obtain ⟨k, rfl⟩ : ∃ i, k = i + 1 := ⟨k - 1, by omega⟩
    unfold parentChain at h ⊢
    cases hp : m.parentOf id with
    | none => rfl
    | some p =>
      simp only [hp, List.length_cons, Nat.add_lt_add_iff_right] at h
      simp only [ih h (Nat.le_of_succ_le_succ hk)]

theorem mem_parentChain_of_transGen (h : (m.parentChain n id).length < n) {a : RoleId}
    (ha : TransGen m.Under id a) : a ∈ m.parentChain n id := by
  induction n generalizing id with
  | zero => exact absurd h (Nat.not_lt_zero _)
  | succ n ih =>
    obtain ⟨p, hp, hrest⟩ := TransGen.head'_iff.1 ha
    unfold parentChain at h ⊢
    rw [Under] at hp
    simp only [hp, List.length_cons, Nat.add_lt_add_iff_right] at h ⊢
    rcases reflTransGen_iff_eq_or_transGen.1 hrest with rfl | hrest
    · exact List.mem_cons_self
    · exact List.mem_cons_of_mem p (ih h hrest)

theorem parentOf_getLast (h : (m.parentChain n id).length < n) {a : RoleId}
    (ha : (id :: m.parentChain n id).getLast? = some a) : m.parentOf a = none := by
  induction n generalizing id with
  | zero => exact absurd h (Nat.not_lt_zero _)
  | succ n ih =>
    unfold parentChain at h ha
    cases hp : m.parentOf id with
    | none =>
      simp only [hp, List.getLast?_singleton, Option.some.injEq] at ha
      exact ha ▸ hp
    | some p =>
      simp only [hp, List.length_cons, Nat.add_lt_add_iff_right] at h
      simp only [hp, List.getLast?_cons_cons] at ha
      exact ih h ha

end Ends

/-! ### the bound -/

section Acyclic

variable (hacyclic : ∀ id, ¬ TransGen m.Under id id)

include hacyclic

theorem nodup_parentChain (n : Nat) (id : RoleId) : (id :: m.parentChain n id).Nodup := by
  refine (pairwise_parentChain n id).imp ?_
  rintro a b hab rfl
  exact hacyclic a hab

variable (hrange : ∀ {id p}, m.Under id p → p.index < m.roles.size)

include hrange

/-- A chain of parents has fewer roles than there are, as it does not come back to its start. -/
theorem length_parentChain_lt {id : RoleId} (hid : id.index < m.roles.size) (n : Nat) :
    (m.parentChain n id).length < m.roles.size := by
  have hsub : (id :: m.parentChain n id).map RoleId.index ⊆ List.range m.roles.size := by
    intro i hi
    obtain ⟨a, ha, rfl⟩ := List.mem_map.1 hi
    rw [List.mem_range]
    rcases List.mem_cons.1 ha with rfl | ha
    · exact hid
    · obtain ⟨b, -, hb⟩ := TransGen.tail'_iff.1 (transGen_of_mem_parentChain ha)
      exact hrange hb
  have hnodup : ((id :: m.parentChain n id).map RoleId.index).Nodup :=
    (nodup_parentChain hacyclic n id).map fun _ _ => RoleId.mk.injEq _ _ |>.mpr
  have hlen := (List.subperm_of_subset hnodup hsub).length_le
  simp only [List.map_cons, List.length_cons, List.length_map, List.length_range] at hlen
  omega

/-- There is some role, so a role that is not of the model has a short chain as well. -/
theorem length_ancestors_lt (hpos : 0 < m.roles.size) (id : RoleId) :
    (m.ancestors id).length < m.roles.size := by
  rcases Nat.lt_or_ge id.index m.roles.size with hlt | hge
  · exact length_parentChain_lt hacyclic hrange hlt _
  · have hnone : m.parentOf id = none := by simp [parentOf, role?, hge]
    obtain ⟨k, hk⟩ : ∃ k, m.roles.size = k + 1 := ⟨m.roles.size - 1, by omega⟩
    simp [ancestors, hk, parentChain, hnone]

variable (hpos : 0 < m.roles.size)

include hpos

/-- The ancestors of a role are all that lie above it. -/
theorem mem_ancestors {id a : RoleId} : a ∈ m.ancestors id ↔ TransGen m.Under id a :=
  ⟨transGen_of_mem_parentChain,
    mem_parentChain_of_transGen (length_ancestors_lt hacyclic hrange hpos id)⟩

theorem isAncestor_iff {a id : RoleId} :
    m.isAncestor a id = true ↔ TransGen m.Under id a := by
  rw [isAncestor, List.contains_iff_mem, mem_ancestors hacyclic hrange hpos]

/-- The last ancestor has no parent. -/
theorem getLast?_ancestors {id p : RoleId} (hid : m.Under id p) :
    ∃ a, (m.ancestors id).getLast? = some a ∧ m.parentOf a = none := by
  have hlt := length_ancestors_lt hacyclic hrange hpos id
  have hmem : p ∈ m.ancestors id := (mem_ancestors hacyclic hrange hpos).2 (.single hid)
  have hne : m.ancestors id ≠ [] := List.ne_nil_of_mem hmem
  obtain ⟨a, ha⟩ : ∃ a, (m.ancestors id).getLast? = some a :=
    Option.isSome_iff_exists.1 (by simpa using hne)
  refine ⟨a, ha, parentOf_getLast hlt ?_⟩
  rw [List.getLast?_cons, show (m.parentChain m.roles.size id).getLast? = some a from ha]
  rfl

end Acyclic

end ModelLinker.Model
