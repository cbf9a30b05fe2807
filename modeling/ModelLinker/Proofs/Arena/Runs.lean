import ModelLinker.Proofs.Arena.Stages
import ModelLinker.Proofs.Topology

/-!
# Stages one after another

A linking run is a list of stages that write into a model, whether it succeeds or fails
(`bindModel_eq_runAll`, `orderStructs_eq_runAll`, `model_eq_runAll`). Each stage leaves the model as
it was declared, and its indices in range (`Stage.inRange_run`).
-/

namespace ModelLinker

/-- The stages of linking that write into a model. -/
inductive Stage where
  | enums
  | rowids
  | valueTypes
  | foreignKeys
  | structFields
  | queries
  | parents
  | circles
  | children
  | roleMaps
  | joins
  | heights
  | uniqueSearches
  | flags

namespace Stage

/-- The model after one more stage, if names stand for what is given. -/
def runWith (names : Namespace) (m : Model) : Stage → Model
  | enums => numberEnums m
  | rowids => resolveRowids m
  | valueTypes => resolveValueTypes names m
  | foreignKeys => resolveForeignKeys names m
  | structFields => resolveStructFields names m
  | queries => resolveQueries names m
  | parents => bindParents names m
  | circles => breakParentCycles m
  | children => rebuildChildren m
  | roleMaps => bindRoleMaps names m
  | joins => (assignJoins m).1
  | heights => setHeights (.ofModel m) m
  | uniqueSearches => markUniqueSearches m
  | flags => computeFlags (Topology.ofModel m).order m

/-- The model after one more stage. -/
def run (m : Model) : Stage → Model := runWith (.ofModel m) m

/-- The model after some stages, one after another. -/
def runAll (m : Model) (stages : List Stage) : Model := stages.foldl run m

/-- The stages that bind names and link roles. -/
def binding : List Stage :=
  [enums, rowids, valueTypes, foreignKeys, structFields, queries, parents, circles, children,
    roleMaps]

/-- The stages that put structures in order. -/
def ordering : List Stage := [joins, heights]

variable {m : Model}

theorem runWith_asDeclared (names : Namespace) (s : Stage) :
    (runWith names m s).asDeclared = m.asDeclared := by
  cases s with
  | enums => exact numberEnums_asDeclared m
  | rowids => exact resolveRowids_asDeclared m
  | valueTypes => exact resolveValueTypes_asDeclared names m
  | foreignKeys => exact resolveForeignKeys_asDeclared names m
  | structFields => exact resolveStructFields_asDeclared names m
  | queries => exact resolveQueries_asDeclared names m
  | parents => exact bindParents_asDeclared names m
  | circles => exact breakParentCycles_asDeclared m
  | children => exact rebuildChildren_asDeclared m
  | roleMaps => exact bindRoleMaps_asDeclared names m
  | joins => exact assignJoins_asDeclared m
  | heights => exact setHeights_asDeclared _ m
  | uniqueSearches => exact markUniqueSearches_asDeclared m
  | flags => exact computeFlags_asDeclared _ m

theorem run_asDeclared (s : Stage) : (run m s).asDeclared = m.asDeclared :=
  runWith_asDeclared _ s

/-- Every stage leaves indices in range. -/
theorem inRange_run (h : m.InRange) (hall : m.extent.HasRole .all) (s : Stage) :
    (run m s).InRange := by
  have hn := Namespace.inRange_ofModel m
  cases s with
  | enums => exact h.numberEnums
  | rowids => exact h.resolveRowids
  | valueTypes => exact h.resolveValueTypes hn
  | foreignKeys => exact h.resolveForeignKeys hn
  | structFields => exact h.resolveStructFields hn
  | queries => exact h.resolveQueries hn
  | parents => exact h.bindParents hn hall
  | circles => exact h.breakParentCycles hall
  | children => exact h.rebuildChildren
  | roleMaps => exact h.bindRoleMaps hn
  | joins => exact h.assignJoins
  | heights => exact h.setHeights _
  | uniqueSearches => exact h.markUniqueSearches
  | flags => exact h.computeFlags _

/-! ### the stages of a run -/

theorem runAll_asDeclared (stages : List Stage) : (runAll m stages).asDeclared = m.asDeclared := by
  induction stages generalizing m with
  | nil => rfl
  | cons s rest ih => exact ih.trans (run_asDeclared s)

theorem runAll_append (stages more : List Stage) :
    runAll m (stages ++ more) = runAll (runAll m stages) more :=
  List.foldl_append

theorem run_eq_runWith {m' : Model} (h : m'.asDeclared = m.asDeclared) (s : Stage) :
    run m' s = runWith (.ofModel m) m' s := by
  rw [run, Namespace.ofModel_congr h]

/-- Names stand for the same parts all through a run. -/
theorem foldl_run {m' : Model} (stages : List Stage) (h : m'.asDeclared = m.asDeclared) :
    stages.foldl run m' = stages.foldl (runWith (.ofModel m)) m' := by
  induction stages generalizing m' with
  | nil => rw [List.foldl_nil, List.foldl_nil]
  | cons s rest ih =>
    -- no stage changes a declaration, so the names of the first model serve them all
    rw [List.foldl_cons, List.foldl_cons, run_eq_runWith h, ih ((runWith_asDeclared _ s).trans h)]

theorem bound_eq_runAll (m : Model) : m.bound = runAll m binding := by
  rw [runAll, foldl_run binding rfl]
  simp only [binding, List.foldl_cons, List.foldl_nil, runWith, Model.bound,
    Model.resolved, linkRoles, resolve]

theorem bindModel_eq_runAll (seed : Diagnostics) (m : Model) :
    (bindModel seed m).model = runAll m binding :=
  (bindModel_model seed m).trans (bound_eq_runAll m)

/-- Structures are put in order only if none of them embeds itself. -/
theorem orderStructs_eq_runAll (m : Model) :
    (orderStructs m).model =
      runAll m (if Diagnostics.isOk (recursionProblems m) then ordering else []) := by
  cases hrec : Diagnostics.isOk (recursionProblems m) with
  | true =>
    rw [if_pos rfl, (orderStructs_of_isOk hrec).1]
    simp only [ordering, runAll, List.foldl_cons, List.foldl_nil, run, runWith]
  | false => simp only [orderStructs, hrec, Bool.false_eq_true, if_false, runAll, List.foldl_nil]

theorem ofModel_marked (m : Model) : Topology.ofModel m.marked = m.topology := by
  have hdeclared : m.marked.asDeclared = m.joined.asDeclared := by
    rw [Model.marked, markUniqueSearches_asDeclared, setHeights_asDeclared]
  have hfields : m.marked.fields = m.joined.fields := by
    simp only [Model.marked, markUniqueSearches, setHeights]
  have hsame : Model.SameFields m.joined m.marked :=
    ⟨hfields, Model.fieldsOf_congr (Model.map_fields_of_asDeclared hdeclared) hfields⟩
  exact Model.ofModel_congr (Model.size_structs_congr hdeclared) hsame.embeds

/-- A run that succeeds goes through all stages. -/
theorem model_eq_runAll {seed : Diagnostics} {l : Linked} (h : linkWith seed m = .ok l) :
    l.model = runAll m (binding ++ ordering ++ [uniqueSearches, flags]) := by
  obtain ⟨-, -, rfl⟩ := linkWith_eq_ok_iff.1 h
  rw [runAll_append, runAll_append, ← bound_eq_runAll]
  have hmarked : markUniqueSearches (setHeights (.ofModel m.joined) m.joined) = m.marked := rfl
  simp only [ordering, runAll, List.foldl_cons, List.foldl_nil, run, runWith]
  rw [← Model.joined, hmarked, ofModel_marked, Model.linked]

end Stage

end ModelLinker
