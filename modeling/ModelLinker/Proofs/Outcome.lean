import ModelLinker.Proofs.Channels

/-!
# The outcome of a linking run

A run succeeds exactly if there are structures and no stage finds an error (`linkWith_eq_ok_iff`).
Then its model, its topology and its diagnostics are those of all stages one after another.
-/

namespace ModelLinker

namespace Model

variable (m : Model)

/-- The model once its references are resolved. -/
def resolved : Model := (resolve (Namespace.ofModel m) m).1

/-- The model once its roles are linked as well. -/
def bound : Model := (linkRoles (Namespace.ofModel m) m.resolved).1

/-- The model once its joins are assigned. -/
def joined : Model := (assignJoins m.bound).1

/-- How the structures of the model embed one another once all names are bound. -/
def topology : Topology := Topology.ofModel m.joined

/-- The model once heights are set and unique searches marked. -/
def marked : Model := markUniqueSearches (setHeights m.topology m.joined)

/-- The model after all stages. -/
def linked : Model := computeFlags m.topology.order m.marked

/-- What names, references, constraints and roles have wrong. -/
def bindingProblems : Diagnostics :=
  (Namespace.ofModel m).problems m ++ (resolve (Namespace.ofModel m) m).2 ++
    uniqueProblems m.resolved ++ (linkRoles (Namespace.ofModel m) m.resolved).2

/-- What all stages find wrong with a model. -/
def problems : Diagnostics :=
  m.bindingProblems ++ (recursionProblems m.bound ++ (assignJoins m.bound).2.2) ++
    searchProblems m.marked

/-- No stage finds an error. -/
structure Faultless : Prop where
  names : Diagnostics.isOk ((Namespace.ofModel m).problems m) = true
  resolve : Diagnostics.isOk (resolve (Namespace.ofModel m) m).2 = true
  uniques : Diagnostics.isOk (uniqueProblems m.resolved) = true
  roles : Diagnostics.isOk (linkRoles (Namespace.ofModel m) m.resolved).2 = true
  recursion : Diagnostics.isOk (recursionProblems m.bound) = true
  joins : Diagnostics.isOk (assignJoins m.bound).2.2 = true
  searches : Diagnostics.isOk (searchProblems m.marked) = true

theorem faultless_of_isOk {m : Model} (h : Diagnostics.isOk m.problems = true) : m.Faultless := by
  simp only [problems, bindingProblems, Diagnostics.isOk_append, Bool.and_eq_true] at h
  obtain ⟨⟨⟨⟨⟨hnames, hresolve⟩, huniques⟩, hroles⟩, hrecursion, hjoins⟩, hsearches⟩ := h
  exact ⟨hnames, hresolve, huniques, hroles, hrecursion, hjoins, hsearches⟩

end Model

theorem Diagnostics.hasFatal_of_isOk {ds : Diagnostics} (h : ds.isOk = true) :
    ds.hasFatal = false := by
  simp only [isOk, hasFatal, Bool.not_eq_true', List.any_eq_false] at h ⊢
  intro d hd
  have := h d hd
  simp_all [Diagnostic.isError, Diagnostic.isFatal]

theorem recursionProblems_eq_nil {m : Model} (h : Diagnostics.isOk (recursionProblems m) = true) :
    recursionProblems m = [] := by
  rw [List.eq_nil_iff_forall_not_mem]
  intro d hd
  have hok := Diagnostics.isOk_iff_forall.1 h d hd
  simp only [recursionProblems, List.mem_flatMap] at hd
  obtain ⟨s, -, e, -, hd⟩ := hd
  split at hd
  · obtain ⟨f, -, rfl⟩ := List.mem_map.1 hd
    cases hok
  · cases hd

theorem bindModel_model (seed : Diagnostics) (m : Model) : (bindModel seed m).model = m.bound := rfl

theorem bindModel_diagnostics (seed : Diagnostics) (m : Model) :
    (bindModel seed m).diagnostics = seed ++ m.bindingProblems := by
  simp [bindModel, Model.bindingProblems, Model.resolved]

/-- What the stages before the order of structures report. -/
theorem Model.within_bindingProblems (m : Model) :
    Diagnostics.Within [.resolve, .unique, .roles] m.bindingProblems := by
  simp only [bindingProblems, Diagnostics.within_append]
  refine ⟨⟨⟨?_, ?_⟩, ?_⟩, ?_⟩
  · exact (Namespace.within_problems _ m).mono (by simp)
  · exact (within_resolve _ m).mono (by simp)
  · exact (within_uniqueProblems _).mono (by simp)
  · exact (within_linkRoles _ _).mono (by simp)

theorem orderStructs_of_isOk {m : Model} (h : Diagnostics.isOk (recursionProblems m) = true) :
    (orderStructs m).model = setHeights (Topology.ofModel (assignJoins m).1) (assignJoins m).1 ∧
      (orderStructs m).topology = some (Topology.ofModel (assignJoins m).1) ∧
      (orderStructs m).found = recursionProblems m ++ (assignJoins m).2.2 := by
  simp [orderStructs, h]

theorem orderStructs_of_not_isOk {m : Model}
    (h : Diagnostics.isOk (recursionProblems m) = false) : (orderStructs m).topology = none := by
  simp [orderStructs, h]

/-- All that a run has found once its structures are in order. -/
theorem problems_of_isOk {seed : Diagnostics} {m : Model}
    (h : Diagnostics.isOk (recursionProblems m.bound) = true) :
    seed ++ m.bindingProblems ++ (orderStructs m.bound).found ++
      searchProblems (markUniqueSearches (orderStructs m.bound).model) = seed ++ m.problems := by
  obtain ⟨hmodel, -, hfound⟩ := orderStructs_of_isOk h
  simp [hmodel, hfound, Model.problems, Model.marked, Model.topology, Model.joined]

/-- A run succeeds exactly if there is some structure and nothing found is an error. -/
theorem linkWith_eq_ok_iff {seed : Diagnostics} {m : Model} {l : Linked} :
    linkWith seed m = .ok l ↔
      m.structs.isEmpty = false ∧ Diagnostics.isOk (seed ++ m.problems) = true ∧
        l = ⟨m.linked, m.topology, seed ++ m.problems⟩ := by
  rw [linkWith, linkRun_eq]
  cases hempty : m.structs.isEmpty with
  | true => simp
  | false =>
    simp only [Bool.false_eq_true, if_false, bindModel_model, bindModel_diagnostics, true_and]
    cases hfatal : Diagnostics.hasFatal (seed ++ m.bindingProblems) with
    | true =>
      -- a fatal diagnostic is an error as well
      have : Diagnostics.isOk (seed ++ m.problems) = false := by
        rw [← Bool.not_eq_true]
        intro hok
        have hok : Diagnostics.isOk ((seed ++ m.bindingProblems) ++
            ((recursionProblems m.bound ++ (assignJoins m.bound).2.2) ++
              searchProblems m.marked)) = true := by
          simpa [Model.problems] using hok
        rw [Diagnostics.isOk_append, Bool.and_eq_true] at hok
        rw [Diagnostics.hasFatal_of_isOk hok.1] at hfatal
        cases hfatal
      simp only [if_true, abortLinking, this, Bool.false_eq_true, false_and, reduceCtorEq]
    | false =>
      simp only [Bool.false_eq_true, if_false]
      cases hrec : Diagnostics.isOk (recursionProblems m.bound) with
      | false =>
        have : Diagnostics.isOk (seed ++ m.problems) = false := by
          simp [Model.problems, hrec]
        simp [orderStructs_of_not_isOk hrec, finishLinking, this]
      | true =>
        obtain ⟨hmodel, htop, -⟩ := orderStructs_of_isOk hrec
        simp only [htop, finishLinking, problems_of_isOk hrec]
        cases hok : Diagnostics.isOk (seed ++ m.problems) with
        | false => simp
        | true =>
          simp only [if_true, hmodel, Except.ok.injEq, true_and]
          exact eq_comm

/-- A run succeeds only if nothing was found wrong before it, and no stage finds an error. -/
theorem faultless_of_linkWith {seed : Diagnostics} {m : Model} {l : Linked}
    (h : linkWith seed m = .ok l) : Diagnostics.isOk seed = true ∧ m.Faultless := by
  obtain ⟨-, hok, -⟩ := linkWith_eq_ok_iff.1 h
  rw [Diagnostics.isOk_append, Bool.and_eq_true] at hok
  exact ⟨hok.1, Model.faultless_of_isOk hok.2⟩

/-- A run that puts its structures in order goes through all stages before it fails. -/
theorem linkWith_eq_error {seed : Diagnostics} {m : Model} (hstructs : m.structs.isEmpty = false)
    (hfatal : Diagnostics.hasFatal (seed ++ m.bindingProblems) = false)
    (hrec : Diagnostics.isOk (recursionProblems m.bound) = true)
    (hbad : Diagnostics.isOk (seed ++ m.problems) = false) :
    linkWith seed m = .error (seed ++ m.problems) := by
  obtain ⟨-, htop, -⟩ := orderStructs_of_isOk hrec
  simp only [linkWith, linkRun_eq, hstructs, bindModel_model, bindModel_diagnostics, hfatal,
    Bool.false_eq_true, if_false, htop, finishLinking, problems_of_isOk hrec, hbad]

end ModelLinker
