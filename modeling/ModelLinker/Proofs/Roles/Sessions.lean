import ModelLinker.Proofs.Linked
import ModelLinker.Proofs.Roles.Hierarchy

/-!
# Sessions only lose rights

In a linked model the roles are a tree, a grant reaches down the tree and a session goes up it. So a
session never gains a right by going on to another role (`narrowing_of_link`): its first role can run
whatever a later one can. It never leaves `none`, which can run nothing, and never enters `all`.
-/

namespace ModelLinker

namespace Linked

/-- The roles of a session, one after another. -/
def Session (l : Linked) (roles : List RoleId) : Prop :=
  roles.IsChain fun source target => l.canTransition source target = true

/-- Transitions are an order of the roles, and along a session rights are lost only. -/
structure Narrowing (l : Linked) : Prop where
  refl : ∀ r, l.canTransition r r = true
  trans : ∀ {r s t}, l.canTransition r s = true → l.canTransition s t = true →
    l.canTransition r t = true
  antisymm : ∀ {r s}, l.canTransition r s = true → l.canTransition s r = true → r = s
  rights : ∀ {roles} {i j : Nat} {r s}, l.Session roles → i ≤ j → roles[i]? = some r →
    roles[j]? = some s → ∀ g, l.permits g s = true → l.permits g r = true
  sink : ∀ {roles} {i j : Nat} {s}, l.Session roles → i ≤ j → roles[i]? = some .none →
    roles[j]? = some s → s = .none ∧ ∀ g, l.permits g s = false
  root : ∀ {roles} {i j : Nat} {r}, l.Session roles → i ≤ j → roles[i]? = some r →
    roles[j]? = some .all → r = .all

variable {l : Linked} {g : RoleMap} {r s t : RoleId}

theorem canTransition_iff : l.canTransition r s = true ↔
    r = s ∨ r ≠ .none ∧ s ≠ .all ∧ (s = .none ∨ l.model.isAncestor s r = true) := by
  simp [canTransition, and_assoc]

theorem permits_iff : l.permits g r = true ↔
    r ≠ .none ∧ ∃ granted ∈ g.resolved, granted = r ∨ l.model.isAncestor granted r = true := by
  simp [permits]

theorem canTransition_refl (r : RoleId) : l.canTransition r r = true :=
  canTransition_iff.2 (.inl rfl)

theorem permits_none (g : RoleMap) : l.permits g .none = false := by
  simp [permits]

/-! ### one transition -/

section Tree

variable (htree : l.model.RoleTree)

include htree

theorem canTransition_trans (hrs : l.canTransition r s = true) (hst : l.canTransition s t = true) :
    l.canTransition r t = true := by
  rw [canTransition_iff] at hrs hst ⊢
  rcases hrs with rfl | ⟨hr, hs, hrs⟩
  · exact hst
  rcases hst with rfl | ⟨hs', ht, hst⟩
  · exact .inr ⟨hr, hs, hrs⟩
  refine .inr ⟨hr, ht, ?_⟩
  rcases hst with rfl | hst
  · exact .inl rfl
  rcases hrs with rfl | hrs
  · exact absurd rfl hs'
  · exact .inr (htree.trans hst hrs)

/-- Two different roles above each other would each be above itself. -/
theorem canTransition_antisymm (hrs : l.canTransition r s = true)
    (hsr : l.canTransition s r = true) : r = s := by
  rw [canTransition_iff] at hrs hsr
  rcases hrs with heq | ⟨hr, -, hrs⟩
  · exact heq
  rcases hsr with heq | ⟨hs, -, hsr⟩
  · exact heq.symm
  rcases hrs with rfl | hrs
  · exact absurd rfl hs
  rcases hsr with rfl | hsr
  · exact absurd rfl hr
  · have hself := htree.trans hrs hsr
    rw [htree.irrefl] at hself
    cases hself

/-- What is granted to an ancestor is granted to all below it, so a session that goes on to an
ancestor could run before what it can run then. -/
theorem permits_of_canTransition (hrs : l.canTransition r s = true) (h : l.permits g s = true) :
    l.permits g r = true := by
  obtain ⟨hs, granted, hgranted, habove⟩ := permits_iff.1 h
  rcases canTransition_iff.1 hrs with rfl | ⟨hr, -, hrs⟩
  · exact h
  rcases hrs with rfl | hrs
  · exact absurd rfl hs
  refine permits_iff.2 ⟨hr, granted, hgranted, .inr ?_⟩
  rcases habove with rfl | habove
  · exact hrs
  · exact htree.trans habove hrs

/-! ### sessions -/

/-- A session could go from each of its roles to each later one at once. -/
theorem Session.canTransition {roles : List RoleId} (h : l.Session roles) {i j : Nat} (hij : i ≤ j)
    (hi : roles[i]? = some r) (hj : roles[j]? = some s) : l.canTransition r s = true := by
  have htrans : Trans (fun r s => l.canTransition r s = true)
      (fun r s => l.canTransition r s = true) (fun r s => l.canTransition r s = true) :=
    ⟨canTransition_trans htree⟩
  obtain ⟨hi', rfl⟩ := List.getElem?_eq_some_iff.1 hi
  obtain ⟨hj', rfl⟩ := List.getElem?_eq_some_iff.1 hj
  rcases Nat.eq_or_lt_of_le hij with rfl | hlt
  · exact canTransition_refl _
  · exact List.pairwise_iff_getElem.1 (List.isChain_iff_pairwise.1 h) i j hi' hj' hlt

/-- A model whose roles are a tree lets sessions only lose rights. -/
theorem narrowing_of_roleTree : l.Narrowing where
  refl := canTransition_refl
  trans := canTransition_trans htree
  antisymm := canTransition_antisymm htree
  rights h hij hi hj _ := permits_of_canTransition htree (h.canTransition htree hij hi hj)
  sink h hij hi hj := by
    have hstep := h.canTransition htree hij hi hj
    rcases canTransition_iff.1 hstep with rfl | ⟨hne, -⟩
    · exact ⟨rfl, permits_none⟩
    · exact absurd rfl hne
  root h hij hi hj := by
    have hstep := h.canTransition htree hij hi hj
    rcases canTransition_iff.1 hstep with heq | ⟨-, hne, -⟩
    · exact heq
    · exact absurd rfl hne

end Tree

end Linked

/-- In every linked model, from documents or put together in another way, sessions only lose
rights. -/
theorem narrowing_of_link :
    (∀ set l, SourceSet.Reached set → linkSources set = .ok l → l.Narrowing) ∧
    ∀ seed m l, m.Built → linkWith seed m = .ok l → l.Narrowing := by
  have key : ∀ seed m l, m.Built → linkWith seed m = .ok l → l.Narrowing :=
    fun _ _ _ hm hl => Linked.narrowing_of_roleTree (hm.roleTree_linked hl)
  exact ⟨fun set l hset hl => key _ set.model l hset.built hl, key⟩

/-- A session of the staff that starts as a junior, goes on as a clerk and ends with no rights. -/
theorem narrowing_of_staffSet :
    ∃ l, linkSources staffSet = .ok l ∧ link staffSet.model = .ok l ∧ l.Narrowing ∧
      l.Session [⟨4⟩, ⟨3⟩, .none] ∧
      l.permits ⟨.ofFile "staff", [⟨"clerk", .ofFile "staff", some ⟨3⟩⟩]⟩ ⟨4⟩ = true := by
  obtain ⟨l, hset, hm⟩ := staffSet_links
  have hbuilt := staffSet_reached.built
  have hnarrow := narrowing_of_link.1 staffSet l staffSet_reached hset
  have htree := hbuilt.roleTree_linked hm
  have hparent : l.model.parentOf ⟨4⟩ = some ⟨3⟩ := by
    rw [(Model.linked_of_linkWith hm).1]
    simp only [Model.parentOf, Model.role?, Model.linked_roles, Model.bound, Model.resolved,
      Namespace.ofModel_eq_scan]
    decide +kernel
  have habove : l.model.isAncestor ⟨3⟩ ⟨4⟩ = true := htree.ancestor.2 (.single hparent)
  have hup : l.canTransition ⟨4⟩ ⟨3⟩ = true :=
    Linked.canTransition_iff.2 (.inr ⟨by decide, by decide, .inr habove⟩)
  have hout : l.canTransition ⟨3⟩ .none = true :=
    Linked.canTransition_iff.2 (.inr ⟨by decide, by decide, .inl rfl⟩)
  have hsession : l.Session [⟨4⟩, ⟨3⟩, .none] :=
    .cons_cons hup (.cons_cons hout (.singleton _))
  refine ⟨l, hset, hm, hnarrow, hsession, ?_⟩
  -- the grant is to clerks, the second role of the session
  refine (narrowing_of_link.2 [] _ l hbuilt hm).rights hsession (Nat.zero_le 1) rfl rfl _ ?_
  exact Linked.permits_iff.2 ⟨by decide, ⟨3⟩, by simp [RoleMap.resolved], .inl rfl⟩

end ModelLinker
