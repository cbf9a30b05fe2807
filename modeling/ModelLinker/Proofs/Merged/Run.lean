import ModelLinker.Proofs.Merged.Joins
import ModelLinker.Proofs.Merged.Roles
import ModelLinker.Proofs.Merged.Searches

/-!
# Linking a greater model

A model that is made up of models that link is taken through all stages along with its parts. Names
are bound, roles are linked and nothing embeds itself, whatever the parts are (`Merges.bound`); only
the short names of joins can run out, since the parts share them. If they last, the whole links, and
what it links to is made up of the linked parts (`Merges.linked`).
-/

namespace ModelLinker

open Relation

namespace Model

/-- A model that links, and that came from declarations: its roles start from the reserved ones, and
what it refers to is in it. -/
structure Complete (m : Model) : Prop where
  ok : Diagnostics.isOk m.problems = true
  roles : m.ReservedRoles
  references : m.linked.ReferencesExist
  paths : m.linked.PathsExist

namespace Complete

variable {m : Model}

theorem faultless (h : m.Complete) : m.Faultless := faultless_of_isOk h.ok

theorem references_bound (h : m.Complete) : m.bound.ReferencesExist :=
  h.references.congr (linked_fields m).symm

theorem acyclic (h : m.Complete) (s : StructId) : ¬ TransGen m.bound.Embeds s s :=
  isOk_recursionProblems.1 h.faultless.recursion s

end Complete

namespace Merges

variable {ι : Type} {ρ : ι → Renumbering} {m : ι → Model} {w : Model}

section

variable (h : Merges ρ m w) (hm : ∀ i, (m i).Complete) (hd : w.NamesDistinct)
  (hw : w.ReservedRoles)

include h hm hd hw

/-- Once its names are bound, the whole is made up of its parts, and no error was found in it. -/
theorem bound : Merges ρ (fun i => (m i).bound) w.bound ∧
    Diagnostics.isOk w.bindingProblems = true ∧
    Diagnostics.isOk (recursionProblems w.bound) = true := by
  have hfault := fun i => (hm i).faultless
  have hn := fun i => (h.within i).names hd
  obtain ⟨hresolved, hresolve⟩ := h.resolve hn fun i => (hfault i).resolve
  obtain ⟨hbound, hlink⟩ := hresolved.linkRoles hn (fun i => (hm i).roles) hw
    fun i => (hfault i).roles
  refine ⟨hbound, ?_, isOk_recursionProblems.2 ?_⟩
  · have hunique := hresolved.isOk_uniqueProblems fun i => (hfault i).uniques
    rw [bindingProblems, Namespace.problems_eq_nil hd]
    simp only [Diagnostics.isOk_append, Bool.and_eq_true]
    exact ⟨⟨⟨rfl, hresolve⟩, hunique⟩, hlink⟩
  · exact hbound.acyclic (fun i => (hm i).references_bound)
      fun i => (hm i).acyclic

/-- The whole has as many joins as its parts together. -/
theorem joinTotal_bound {parts : List ι}
    (hparts : w.structIds.Perm (parts.flatMap fun i => (m i).structIds.map (ρ i).struct)) :
    w.bound.joinTotal w.bound.structIds =
      (parts.flatMap fun i => (m i).bound.structIds.flatMap (m i).bound.joinPathsOf).length := by
  have hids : ∀ m : Model, m.bound.structIds = m.structIds := fun m =>
    structIds_congr (size_structs_congr m.asDeclared_bound)
  refine (h.bound hm hd hw).1.joinTotal (fun i => (hm i).references_bound)
    (fun i => (hm i).acyclic) ?_
  simpa only [hids] using hparts

/-- If the short names of joins last, the whole links, and to a model that is made up of the linked
parts. -/
theorem linked (hjoins : Diagnostics.isOk (assignJoins w.bound).2.2 = true) :
    Merges ρ (fun i => (m i).linked) w.linked ∧ Diagnostics.isOk w.problems = true := by
  obtain ⟨hbound, hbinding, hrecursion⟩ := h.bound hm hd hw
  have hfault := fun i => (hm i).faultless
  have hrefs := fun i => (hm i).references_bound
  have hjoined : Merges ρ (fun i => (m i).joined) w.joined :=
    hbound.congr (fun i => assignJoins_asDeclared _) (assignJoins_asDeclared _) fun i =>
      (hbound.within i).assignJoins (hrefs i) (hm i).acyclic (hfault i).joins hjoins
  -- joins change no embedding
  have hacyclic : ∀ {m : Model}, Diagnostics.isOk (recursionProblems m.bound) = true →
      ∀ s, ¬ TransGen m.joined.Embeds s s := by
    intro m hok
    rw [← (sameFields_of_joined m).arrows]
    exact (linked_orderedBy hok).acyclic
  have hhigh : Merges ρ (fun i => setHeights (m i).topology (m i).joined)
      (setHeights w.topology w.joined) :=
    hjoined.congr (fun i => setHeights_asDeclared _ _) (setHeights_asDeclared _ _) fun i =>
      (hjoined.within i).setHeights (hrefs i) (hacyclic (hfault i).recursion) (hacyclic hrecursion)
  have hpaths : ∀ i, (setHeights (m i).topology (m i).joined).PathsExist := by
    intro i
    refine (hm i).paths.congr (linked_fields _).symm ?_
    rw [Model.linked, map_computeFlags settled_paths.flags, marked,
      map_markUniqueSearches settled_paths.unique]
  have hmarked : Merges ρ (fun i => (m i).marked) w.marked :=
    hhigh.congr (fun i => markUniqueSearches_asDeclared _) (markUniqueSearches_asDeclared _) fun i =>
      (hhigh.within i).markUniqueSearches (hpaths i)
  have hmarkedPaths : ∀ i, (m i).marked.PathsExist := by
    intro i
    refine (hm i).paths.congr (linked_fields _).symm ?_
    rw [Model.linked, map_computeFlags settled_paths.flags]
  have hlinked : Merges ρ (fun i => (m i).linked) w.linked :=
    hmarked.congr (fun i => computeFlags_asDeclared _ _) (computeFlags_asDeclared _ _) fun i =>
      (hmarked.within i).computeFlags (hrefs i) (fun _ _ => linked_markedAt (hfault i).recursion)
        fun _ _ => linked_markedAt hrecursion
  refine ⟨hlinked, ?_⟩
  have hsearches := hmarked.isOk_searchProblems hmarkedPaths fun i => (hfault i).searches
  simp only [problems, Diagnostics.isOk_append, Bool.and_eq_true]
  exact ⟨⟨hbinding, hrecursion, hjoins⟩, hsearches⟩

end

end Merges

end Model

end ModelLinker
