import ModelLinker.Proofs.Joins.Chains
import ModelLinker.Proofs.Merged.Order
import ModelLinker.Proofs.Renumber.Joins

/-!
# The joins of a greater model

The joins of a structure stay the same in a greater model, apart from their short names: the bound on
the length of a chain is greater there, but without recursion no chain comes up to it. So a whole has
as many joins as its parts together, and the short names last exactly if they last for that many.
-/

namespace ModelLinker

open Relation

namespace Model

/-- Without recursion no bound on the length of chains counts that is not less than the number of
structures. -/
theorem chains_of_le {m : Model} (hacyclic : ∀ s, ¬ TransGen m.Embeds s s) {n : ℕ}
    (hn : m.structs.size ≤ n) (s : StructId) : m.chains n s = m.joinChains s := by
  have hbound : ∀ k, m.structs.size ≤ k → m.chains (k + 1) s = m.chains k s := fun k hk =>
    chains_succ fun c t hc => (hc.length_le hacyclic).trans hk
  induction n, hn using Nat.le_induction with
  | base => exact (hbound _ le_rfl).symm
  | succ n hn ih => rw [hbound n hn, ih]

namespace Within

variable {ρ : Renumbering} {m w : Model}

/-! ### joins of structures -/

section Paths

variable (h : m.Within ρ w) (hrefs : m.ReferencesExist)

include h hrefs

theorem joinPaths (room : ℕ) (before : Option String) {s : StructId} (hs : s ∈ m.structIds) :
    w.joinPaths room before (ρ.struct s) = m.joinPaths room before s := by
  induction room generalizing before s with
  | zero => rfl
  | succ room ih =>
    simp only [Model.joinPaths, h.embeds hrefs hs, List.flatMap_map]
    refine List.flatMap_congr fun e he => ?_
    obtain ⟨f, hf, -⟩ := field?_of_mem_embeds he
    have ht := mem_structIds_of_embedded h.owned.ownersExist ⟨e.1, he⟩
    simp only [hf, h.field? hf, Field.rename_name, ih _ ht]

theorem joinPathsOf (hacyclic : ∀ s, ¬ TransGen m.Embeds s s) {s : StructId}
    (hs : s ∈ m.structIds) : w.joinPathsOf (ρ.struct s) = m.joinPathsOf s := by
  have hsize := h.size_structs_le
  rw [Model.joinPathsOf, h.joinPaths hrefs _ none hs, joinPaths_eq,
    chains_of_le hacyclic (by omega) s, joinPathsOf_eq]
  rfl

/-- If the short names last in both models, structures get the same joins. -/
theorem setJoins (hacyclic : ∀ s, ¬ TransGen m.Embeds s s)
    (hm : Diagnostics.isOk (assignJoins m).2.2 = true)
    (hw : Diagnostics.isOk (assignJoins w).2.2 = true) :
    (setJoins (joinsFrom m 0 m.structIds).1 m).Within ρ
      (setJoins (joinsFrom w 0 w.structIds).1 w) :=
  { h with
    owned := h.owned.congr (setJoins_asDeclared _ m)
    structs := by
      intro i x hx
      simp only [ModelLinker.setJoins, Array.getElem?_mapIdx, Option.map_eq_some_iff] at hx ⊢
      obtain ⟨s, hs, rfl⟩ := hx
      obtain ⟨s', hs', hlike⟩ := h.structs hs
      have hid : (⟨i⟩ : StructId) ∈ m.structIds :=
        mem_structIds.2 (Array.getElem?_eq_some_iff.1 hs).1
      have hid' : ρ.struct ⟨i⟩ ∈ w.structIds :=
        mem_structIds.2 (Array.getElem?_eq_some_iff.1 hs').1
      obtain ⟨js, hjs, hpaths⟩ := Like.joins_getElem? hm hid
      obtain ⟨js', hjs', hpaths'⟩ := Like.joins_getElem? hw hid'
      have hjs' : (joinsFrom w 0 w.structIds).1[ρ.structs i]? = some js' := hjs'
      refine ⟨_, ⟨s', hs', rfl⟩, ?_⟩
      simp only [hjs, hjs']
      refine { hlike with joins := ?_ }
      rw [hpaths', hpaths]
      exact h.joinPathsOf hrefs hacyclic hid }

theorem assignJoins (hacyclic : ∀ s, ¬ TransGen m.Embeds s s)
    (hm : Diagnostics.isOk (assignJoins m).2.2 = true)
    (hw : Diagnostics.isOk (ModelLinker.assignJoins w).2.2 = true) :
    (ModelLinker.assignJoins m).1.Within ρ (ModelLinker.assignJoins w).1 :=
  { h.setJoins hrefs hacyclic hm hw with
    owned := h.owned.congr (assignJoins_asDeclared m)
    structs := (h.setJoins hrefs hacyclic hm hw).structs.map fun s s' _ hlike => by
      have hbound := Like.bindJoins hlike
      exact hbound }

end Paths

end Within

/-! ### joins of the whole -/

/-- A whole has as many joins as its parts together. -/
theorem Merges.joinTotal {ι : Type} {ρ : ι → Renumbering} {m : ι → Model} {w : Model}
    (h : Merges ρ m w) (hrefs : ∀ i, (m i).ReferencesExist)
    (hacyclic : ∀ i s, ¬ TransGen (m i).Embeds s s) {parts : List ι}
    (hparts : w.structIds.Perm
      (parts.flatMap fun i => (m i).structIds.map (ρ i).struct)) :
    w.joinTotal w.structIds =
      (parts.flatMap fun i => (m i).structIds.flatMap (m i).joinPathsOf).length := by
  unfold Model.joinTotal
  rw [(hparts.flatMap_right w.joinPathsOf).length_eq, List.flatMap_assoc]
  congr 1
  refine List.flatMap_congr fun i _ => ?_
  rw [List.flatMap_map]
  exact List.flatMap_congr fun s hs => (h.within i).joinPathsOf (hrefs i) (hacyclic i) hs

end Model

end ModelLinker
