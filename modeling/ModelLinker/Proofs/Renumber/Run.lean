import ModelLinker.Proofs.Outcome
import ModelLinker.Proofs.Renumber.Joins
import ModelLinker.Proofs.Renumber.Order
import ModelLinker.Proofs.Renumber.Queries
import ModelLinker.Proofs.Renumber.Roles
import ModelLinker.Proofs.Renumber.Searches

/-!
# Linking models that are alike

A model that links is taken, stage by stage, along with any model like it: the linked models are
alike again, and the diagnostics are the same in some order (`Model.Like.linkWith`). Errors are
another matter, because what counts after an error can depend on the order; but then neither model
links.
-/

namespace ModelLinker

open Relation

theorem Diagnostics.isOk_perm {ds ds' : Diagnostics} (h : List.Perm ds' ds) :
    ds'.isOk = ds.isOk := by
  simp only [isOk, h.any_eq]

namespace Model.Like

variable {ρ : Renumbering} {m m' : Model} {names names' : Namespace}

theorem resolve (h : m.Like ρ m') (hn : names.Like ρ names') :
    (resolve names m).1.Like ρ (ModelLinker.resolve names' m').1 ∧
      (ModelLinker.resolve names' m').2.Perm (ModelLinker.resolve names m).2 := by
  have h₁ := h.numberEnums
  have h₂ := h₁.resolveRowids
  have h₃ := h₂.resolveValueTypes hn
  have h₄ := h₃.resolveForeignKeys hn
  have h₅ := h₄.resolveStructFields hn
  exact ⟨h₅.resolveQueries hn,
    ((((((h₁.enumProblems.append h₁.bitfieldProblems).append h₁.allRowidProblems).append
      (h₂.valueTypeProblems hn)).append (h₃.foreignKeyProblems hn)).append
      (h₄.structFieldProblems hn)).append h₅.validationProblems).append (h₅.queryProblems hn)⟩

/-- If all marks come out right in both models, they are the same. -/
theorem computeFlags (h : m.Like ρ m') {order order' : List StructId}
    (hm : ∀ id s, (computeFlags order m).struct? id = some s →
      (ModelLinker.computeFlags order m).MarkedAt id s)
    (hm' : ∀ id s, (ModelLinker.computeFlags order' m').struct? id = some s →
      (ModelLinker.computeFlags order' m').MarkedAt id s) :
    (ModelLinker.computeFlags order m).Like ρ (ModelLinker.computeFlags order' m') := by
  have hs : Permuted (Struct.Like ρ) ρ.structs (ModelLinker.computeFlags order m).structs
      (ModelLinker.computeFlags order' m').structs := by
    refine .of_some ?_ ?_
    · intro i x hx
      have hlt := (Array.getElem?_eq_some_iff.1 hx).1
      rw [size_computeFlags] at hlt
      have hs : m.struct? ⟨i⟩ = some m.structs[i] := Array.getElem?_eq_getElem hlt
      obtain ⟨fs, hx'⟩ := struct?_computeFlags order hs
      obtain rfl : { m.structs[i] with flags := fs } = x := Option.some.inj (hx'.symm.trans hx)
      obtain ⟨s', hs', hlike⟩ := h.struct? hs
      obtain ⟨fs', hy⟩ := struct?_computeFlags order' hs'
      have hmark := (sameFields_computeFlags order m).symm.markedAt (hm ⟨i⟩ _ hx)
      have hmark' := (sameFields_computeFlags order' m').symm.markedAt (hm' _ _ hy)
      exact ⟨_, hy, { hlike with flags := h.flags_eq hmark hmark' hlike.searches }⟩
    · intro i hi
      rw [Array.getElem?_eq_none_iff, size_computeFlags] at hi ⊢
      rw [← Nat.not_lt, h.structs.lt_iff]
      exact Nat.not_lt.2 hi
  rw [computeFlags_eq order m, computeFlags_eq order' m']
  exact { h with structs := hs }

/-- The model after all stages, and what is wrong with it. -/
theorem linked (h : m.Like ρ m') (hok : Diagnostics.isOk m.problems = true) :
    m.linked.Like ρ m'.linked ∧ m'.problems.Perm m.problems := by
  obtain ⟨hnames, -, -, hroles, hrecursion, hjoins, -⟩ := faultless_of_isOk hok
  have hd := Namespace.isOk_problems_iff.1 hnames
  have hn := h.names hd
  obtain ⟨hresolved, hresolve⟩ : m.resolved.Like ρ m'.resolved ∧ _ := h.resolve hn
  obtain ⟨hbound, hlink⟩ : m.bound.Like ρ m'.bound ∧ _ := hresolved.linkRoles hn hroles
  have hrecursion' := hbound.isOk_recursion hrecursion
  have hjoined : m.joined.Like ρ m'.joined := hbound.assignJoins hjoins
  have hsame := sameFields_of_joined m
  have hacyclic : ∀ s, ¬ TransGen m.joined.Embeds s s := by
    rw [← hsame.arrows]
    exact (linked_orderedBy hrecursion).acyclic
  have hmarked := (hjoined.setHeights hacyclic).markUniqueSearches
  refine ⟨hmarked.computeFlags (fun _ _ => linked_markedAt hrecursion)
    (fun _ _ => linked_markedAt hrecursion'), ?_⟩
  have hbinding : m'.bindingProblems.Perm m.bindingProblems := by
    refine ((List.Perm.append ?_ hresolve).append hresolved.uniqueProblems).append hlink
    rw [Namespace.problems_eq_nil hd, Namespace.problems_eq_nil (h.namesDistinct hd)]
  have hordering : (recursionProblems m'.bound ++ (ModelLinker.assignJoins m'.bound).2.2).Perm
      (recursionProblems m.bound ++ (ModelLinker.assignJoins m.bound).2.2) := by
    rw [recursionProblems_eq_nil hrecursion, recursionProblems_eq_nil hrecursion',
      hbound.joinProblems hjoins]
  exact (hbinding.append hordering).append hmarked.searchProblems

/-- If a model links, any model like it links as well, and to a model like the linked one. -/
theorem linkWith (h : m.Like ρ m') {seed seed' : Diagnostics} (hseed : seed'.Perm seed)
    {l : Linked} (hl : linkWith seed m = .ok l) :
    ∃ l', ModelLinker.linkWith seed' m' = .ok l' ∧ l.model.Like ρ l'.model ∧
      l'.diagnostics.Perm l.diagnostics := by
  obtain ⟨hempty, hok, rfl⟩ := linkWith_eq_ok_iff.1 hl
  have hproblems : Diagnostics.isOk m.problems = true := by
    rw [Diagnostics.isOk_append, Bool.and_eq_true] at hok
    exact hok.2
  obtain ⟨hlinked, hperm⟩ := h.linked hproblems
  have hall := hseed.append hperm
  refine ⟨⟨_, _, _⟩, linkWith_eq_ok_iff.2 ⟨?_, ?_, rfl⟩, hlinked, hall⟩
  · rw [h.isEmpty, hempty]
  · rw [Diagnostics.isOk_perm hall, hok]

end Model.Like

end ModelLinker
