import ModelLinker.Proofs.Channels
import ModelLinker.Proofs.Joins.Numbered
import ModelLinker.Proofs.Linked

/-!
# The joins of linked models

A model without recursion gets a join for every chain of structure-typed fields, or one error if
there are more chains than short names; then the run fails (`joinsAssigned_of_acyclic`). The joins of
a linked model are its own chains (`numbered_linked`). Three levels of twenty-six fields each are
too many.
-/

namespace ModelLinker

open Relation

namespace Model

/-- What the joins of a model without recursion are: chains are listed depth first, in the order of
fields, and numbered through the whole model as long as there are short names. -/
structure JoinsAssigned (m : Model) : Prop where
  all : ∀ {s c}, c ∈ m.joinChains s ↔ c ≠ [] ∧ ∃ t, m.Chain s c t
  once : (∀ s x, m.struct? s = some x → x.fields.Nodup) → ∀ s, (m.joinChains s).Nodup
  depthFirst : ∀ s, m.joinChains s =
    (m.embeds s).flatMap fun e => [e.1] :: (m.joinChains e.2).map (e.1 :: ·)
  silent : m.allChains.length ≤ greatestJoinCount → (assignJoins m).2.2 = []
  numbered : m.allChains.length ≤ greatestJoinCount →
    ∀ {id s}, (assignJoins m).1.struct? id = some s →
      m.Numbered (m.chainsBefore id) (m.joinChains id) s.joins
  distinct : m.allChains.length ≤ greatestJoinCount →
    (((assignJoins m).1.structs.toList.flatMap Struct.joins).map Join.shortName).Nodup
  full : greatestJoinCount < m.allChains.length →
    ∃ pos, (assignJoins m).2.2 = [Cause.tooManyAliases.at pos]

variable {m m' : Model}

theorem joinsAssigned (hacyclic : ∀ s, ¬ TransGen m.Embeds s s) : m.JoinsAssigned where
  all := mem_joinChains_iff hacyclic
  once hfields s := nodup_chains hfields _ s
  depthFirst := joinChains_eq hacyclic
  silent := problems_assignJoins_of_le
  numbered h := numbered_assignJoins h
  distinct := nodup_shortNames
  full := problems_assignJoins_of_lt

/-- Every one of some fields that embed the same structure gives one chain by itself, and one for
each that goes on from there. -/
theorem length_joinChains (hacyclic : ∀ s, ¬ TransGen m.Embeds s s) {s t : StructId} {n : Nat}
    (h : (m.embeds s).map (·.2) = .replicate n t) :
    (m.joinChains s).length = n * (1 + (m.joinChains t).length) := by
  have hlengths : (m.embeds s).map (fun e => ([e.1] :: (m.joinChains e.2).map (e.1 :: ·)).length) =
      ((m.embeds s).map (·.2)).map fun t => 1 + (m.joinChains t).length := by
    simp only [List.length_cons, List.length_map, List.map_map, Function.comp_def, Nat.add_comm]
  rw [joinChains_eq hacyclic, List.length_flatMap, hlengths, h, List.map_replicate,
    List.sum_replicate_nat]

/-! ### linked models -/

theorem SameFields.chains (h : SameFields m m') : m'.chains = m.chains := by
  funext n s
  induction n generalizing s with
  | zero => rfl
  | succ n ih => simp only [Model.chains, h.embeds, ih]

theorem SameFields.fieldName (h : SameFields m m') : m'.fieldName = m.fieldName := by
  funext id
  simp only [Model.fieldName, field?, h.fields]

theorem SameFields.joinChains (h : SameFields m m') (hsize : m'.structs.size = m.structs.size) :
    m'.joinChains = m.joinChains := by
  funext s
  rw [Model.joinChains, hsize, h.chains, Model.joinChains]

theorem structIds_congr (hsize : m'.structs.size = m.structs.size) : m'.structIds = m.structIds := by
  rw [structIds, hsize, structIds]

theorem SameFields.numbered (h : SameFields m m') (hsize : m'.structs.size = m.structs.size)
    {id : StructId} {joins : List Join}
    (hn : m.Numbered (m.chainsBefore id) (m.joinChains id) joins) :
    m'.Numbered (m'.chainsBefore id) (m'.joinChains id) joins := by
  have hpath : m'.chainPath = m.chainPath := by
    funext c
    rw [chainPath, h.fieldName, chainPath]
  rw [chainsBefore, structIds_congr hsize, h.joinChains hsize]
  exact ⟨by rw [hpath]; exact hn.paths, hn.names⟩

/-- The stages after the joins leave these alone. -/
theorem map_linked_joined {β : Type} {g : Struct → β} (hh : ∀ s n, g { s with height := n } = g s)
    (hu : ∀ (s : Struct) (f : Search → Bool),
      g { s with searches := s.searches.map fun x => { x with unique := f x } } = g s)
    (hf : ∀ s fs, g { s with flags := fs } = g s) (m : Model) :
    m.linked.structs.map g = m.joined.structs.map g := by
  rw [linked, map_computeFlags hf, marked, map_markUniqueSearches hu, map_setHeights hh]

theorem size_structs_linked (m : Model) : m.linked.structs.size = m.bound.structs.size :=
  size_structs_congr (asDeclared_linked.trans asDeclared_bound.symm)

/-- A linked model has the chains that it had once its names were bound. -/
theorem joinChains_linked (m : Model) : m.linked.joinChains = m.bound.joinChains :=
  (sameFields_of_bound m).joinChains m.size_structs_linked

/-- The joins of a structure of a linked model are its own chains, numbered through the model. -/
theorem numbered_linked (h : Diagnostics.isOk (assignJoins m.bound).2.2 = true) {id : StructId}
    {s : Struct} (hs : m.linked.struct? id = some s) :
    m.linked.Numbered (m.linked.chainsBefore id) (m.linked.joinChains id) s.joins := by
  have hview : m.linked.structs.map Struct.joins = m.joined.structs.map Struct.joins :=
    map_linked_joined (fun _ _ => rfl) (fun _ _ => rfl) (fun _ _ => rfl) m
  obtain ⟨x, hx, heq⟩ := struct?_of_map_eq hview hs
  rw [← heq]
  exact (sameFields_of_bound m).numbered m.size_structs_linked
    (numbered_assignJoins (isOk_assignJoins.1 h) hx)

/-! ### too many joins -/

theorem structs_ne_of_allChains (h : m.bound.allChains ≠ []) : m.structs.isEmpty = false := by
  have hsize := size_structs_congr (m := m) asDeclared_bound
  cases hempty : m.structs.isEmpty with
  | false => rfl
  | true =>
    rw [Array.isEmpty_iff_size_eq_zero] at hempty
    exact absurd (by simp [allChains, structIds, hsize, hempty]) h

/-- With more chains than short names a run fails. Unless it was to be ended early, it reports this
once, besides what was reported of joins before it. -/
theorem linkWith_of_tooManyChains {seed : Diagnostics}
    (hacyclic : ∀ s, ¬ TransGen m.bound.Embeds s s)
    (h : greatestJoinCount < m.bound.allChains.length) :
    ∃ ds, linkWith seed m = .error ds ∧
      (Diagnostics.hasFatal seed = false → ∃ pos, ds.filter (·.channel = .aliases) =
        seed.filter (·.channel = .aliases) ++ [Cause.tooManyAliases.at pos]) := by
  obtain ⟨pos, hpos⟩ := problems_assignJoins_of_lt h
  have hbad : Diagnostics.isOk (seed ++ m.problems) = false := by
    simp [problems, hpos]
  cases hfatal : Diagnostics.hasFatal seed with
  | true =>
    cases hl : linkWith seed m with
    | error ds => exact ⟨ds, rfl, by simp⟩
    | ok l =>
      rw [(linkWith_eq_ok_iff.1 hl).2.1] at hbad
      cases hbad
  | false =>
    have hrec := isOk_recursionProblems.2 hacyclic
    have hstructs : m.structs.isEmpty = false :=
      structs_ne_of_allChains (List.ne_nil_of_length_pos (Nat.zero_lt_of_lt h))
    have hnone : Diagnostics.hasFatal (seed ++ m.bindingProblems) = false := by
      rw [Diagnostics.hasFatal_append, hfatal, m.within_bindingProblems.hasFatal]
      rfl
    refine ⟨_, linkWith_eq_error hstructs hnone hrec hbad, fun _ => ⟨pos, ?_⟩⟩
    rw [problems, hpos]
    simp only [List.filter_append, m.within_bindingProblems.filter_channel (c := .aliases) (by decide),
      (within_recursionProblems m.bound).filter_channel (c := .aliases) (by decide),
      (within_searchProblems m.marked).filter_channel (c := .aliases) (by decide)]
    rfl

end Model

/-! ### documents with too many joins -/

/-- A structure that embeds another one in a field for every letter. -/
def letteredStruct (name target : String) : Decl.Struct where
  name := name
  fields :=
    { Decl.Field.bare "id" (.plain .int) none with rowid := true } ::
      { Decl.Field.bare "target_id" (.plain .int) none with
        references := some ⟨target ++ ".id", .none, .none⟩ } ::
      (List.range 26).map fun i => .bare (String.ofList [letter i]) .struct (some "target_id")
  searches := []
  updates := []
  deletes := []
  insert := none
  uniques := []
  place := none
  doc := none

/-- Three such structures, one above the other. -/
def letteredDocument : Decl.Document where
  structs := [
    { letteredStruct "word" "none" with
      fields := [{ Decl.Field.bare "id" (.plain .int) none with rowid := true }] },
    letteredStruct "line" "word", letteredStruct "page" "line", letteredStruct "book" "page"]
  enums := []
  bitfields := []
  roles := []

def letteredSet : SourceSet := .ofDocuments [("letters", letteredDocument)]

theorem letteredSet_embeds : letteredSet.model.bound.structs.size = 4 ∧
    letteredSet.model.bound.embeds ⟨0⟩ = [] ∧
    ∀ n < 3, (letteredSet.model.bound.embeds ⟨n + 1⟩).map (·.2) = .replicate 26 ⟨n⟩ := by
  simp only [Model.bound, Model.resolved, Namespace.ofModel_eq_scan]
  decide +kernel

/-- Every structure embeds the one before it only. -/
theorem letteredSet_acyclic : ∀ s, ¬ TransGen letteredSet.model.bound.Embeds s s := by
  refine Model.isOk_recursionProblems.1 (Model.isOk_recursionProblems_of_rank (·.index) ?_)
  obtain ⟨hsize, hword, habove⟩ := letteredSet_embeds
  rintro ⟨i⟩ hs e he
  rw [Model.mem_structIds, hsize] at hs
  cases i with
  | zero => simp [hword] at he
  | succ n =>
    have hmem := List.mem_map_of_mem (f := (·.2)) he
    rw [habove n (Nat.succ_lt_succ_iff.1 hs)] at hmem
    simp [List.eq_of_mem_replicate hmem]

theorem letteredSet_chains : greatestJoinCount < letteredSet.model.bound.allChains.length := by
  obtain ⟨hsize, hword, habove⟩ := letteredSet_embeds
  have hstep : ∀ n < 3, (letteredSet.model.bound.joinChains ⟨n + 1⟩).length =
      26 * (1 + (letteredSet.model.bound.joinChains ⟨n⟩).length) :=
    fun n hn => Model.length_joinChains letteredSet_acyclic (habove n hn)
  have hnone : letteredSet.model.bound.joinChains ⟨0⟩ = [] := by
    rw [Model.joinChains_eq letteredSet_acyclic, hword]
    rfl
  have hids : letteredSet.model.bound.structIds = [⟨0⟩, ⟨1⟩, ⟨2⟩, ⟨3⟩] := by
    rw [Model.structIds, hsize]
    rfl
  simp [Model.allChains, hids, hstep 0 (by decide), hstep 1 (by decide), hstep 2 (by decide), hnone,
    greatestJoinCount]

/-! ### joins of all models -/

/-- Every model without recursion gets its joins, and a run fails if there are too many of them. -/
theorem joinsAssigned_of_acyclic :
    (∀ m : Model, (∀ s, ¬ TransGen m.Embeds s s) → m.JoinsAssigned) ∧
    ∀ seed m, (∀ s, ¬ TransGen (Model.bound m).Embeds s s) →
      greatestJoinCount < m.bound.allChains.length →
      ∃ ds, linkWith seed m = .error ds ∧
        (Diagnostics.hasFatal seed = false → ∃ pos, ds.filter (·.channel = .aliases) =
          seed.filter (·.channel = .aliases) ++ [Cause.tooManyAliases.at pos]) :=
  ⟨fun _ h => Model.joinsAssigned h, fun _ _ => Model.linkWith_of_tooManyChains⟩

theorem staffSet_joins :
    (assignJoins staffSet.model.bound).1.structs.toList.map Struct.joins = [[⟨"firm", "_a"⟩], []] := by
  simp only [Model.bound, Model.resolved, Namespace.ofModel_eq_scan]
  decide +kernel

/-- The staff has one join, and the letters have too many. -/
theorem joinsAssigned_of_staffSet :
    (staffSet.model.bound.JoinsAssigned ∧
      staffSet.model.bound.allChains.length ≤ greatestJoinCount ∧
      (assignJoins staffSet.model.bound).1.structs.toList.map Struct.joins =
        [[⟨"firm", "_a"⟩], []]) ∧
    ∃ ds pos, link letteredSet.model = .error ds ∧
      ds.filter (·.channel = .aliases) = [Cause.tooManyAliases.at pos] := by
  have hstaff := joinsAssigned_of_acyclic.1 staffSet.model.bound
    (Model.isOk_recursionProblems.1 staffSet_recursion)
  have hok := staffSet_problems
  simp only [Model.problems, Diagnostics.isOk_append, Bool.and_eq_true] at hok
  refine ⟨⟨hstaff, Model.isOk_assignJoins.1 hok.1.2.2, staffSet_joins⟩, ?_⟩
  obtain ⟨ds, hds, hone⟩ :=
    joinsAssigned_of_acyclic.2 [] letteredSet.model letteredSet_acyclic letteredSet_chains
  obtain ⟨pos, hpos⟩ := hone rfl
  exact ⟨ds, pos, hds, hpos⟩

end ModelLinker
