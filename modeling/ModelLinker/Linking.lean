import ModelLinker.Embedding
import ModelLinker.Marks
import ModelLinker.Joins
import ModelLinker.Binding.All
import ModelLinker.Roles.Grants
import ModelLinker.SearchRules
import ModelLinker.Source.File
import ModelLinker.Uniqueness

/-!
Linking a model: all stages, one after another. Stages that do not need one another run even after
errors, so that one run reports as much as it can; only a fatal diagnostic, which can come from
outside alone, ends it early.
-/

namespace ModelLinker

/-- A model in which every name is bound and no structure embeds itself, with its topology and the
warnings about it. -/
structure Linked where
  model : Model
  topology : Topology
  diagnostics : Diagnostics

/-- What a linking run has done, step by step. -/
inductive LinkStep where
  | resolved (found : Diagnostics)
  | uniqueChecked (found : Diagnostics)
  | rolesLinked (roles : Nat) (found : Diagnostics)
  | aborted (found : Diagnostics)
  | recursionChecked (found : Diagnostics)
  | joinsAssigned (count : Nat)
  | searchesChecked (found : Diagnostics)
  | flagsComputed (nullrefs : Nat)
  | failed (found : Diagnostics)
  | completed (topology : Topology) (found : Diagnostics)

/-- The steps of a run, and the linked model or all diagnostics of the failure. -/
abbrev LinkRun := List LinkStep × Except Diagnostics Linked

/-- A model whose names are bound, before its structures are put in order. -/
structure Bound where
  model : Model
  steps : List LinkStep
  diagnostics : Diagnostics

/-- Names, references, constraints and roles. -/
def bindModel (seed : Diagnostics) (m : Model) : Bound :=
  let names := Namespace.ofModel m
  let (resolved, references) := resolve names m
  let uniques := uniqueProblems resolved
  let (model, roles) := linkRoles names resolved
  { model
    steps :=
      [.resolved references, .uniqueChecked uniques, .rolesLinked model.roles.size roles]
    diagnostics := seed ++ names.problems m ++ references ++ uniques ++ roles }

/-- A model whose structures have joins and heights, if none of them embeds itself. -/
structure Ordered where
  model : Model
  topology : Option Topology
  steps : List LinkStep
  /-- What is found about structures that embed themselves, before there are joins. -/
  recursion : Diagnostics
  found : Diagnostics

/-- Embeddings, joins and heights. -/
def orderStructs (m : Model) : Ordered :=
  let recursion := recursionProblems m
  if Diagnostics.isOk recursion then
    let (joined, count, problems) := assignJoins m
    let topology := Topology.ofModel joined
    { model := setHeights topology joined
      topology := some topology
      steps := [.recursionChecked recursion, .joinsAssigned count]
      recursion
      found := recursion ++ problems }
  else
    { model := m
      topology := none
      steps := [.recursionChecked recursion]
      recursion
      found := recursion }

/-- The end of a run: the marks of structures, if nothing was found wrong. -/
def finishLinking (steps : List LinkStep) (m : Model) (topology : Option Topology)
    (found : Diagnostics) : LinkRun :=
  match topology with
  | some t =>
    if Diagnostics.isOk found then
      let model := computeFlags t.order m
      (steps ++ [.flagsComputed (nullrefCount model), .completed t found],
        .ok { model, topology := t, diagnostics := found })
    else (steps ++ [.failed found], .error found)
  | none => (steps ++ [.failed found], .error found)

/-- The early end of a run that has found something fatal. -/
def abortLinking (steps : List LinkStep) (found : Diagnostics) : LinkRun :=
  (steps ++ [.aborted found], .error found)

/-- A linking run that starts with some diagnostics. -/
def linkRun (seed : Diagnostics) (m : Model) : LinkRun :=
  if m.structs.isEmpty then
    ([], .error (seed ++ [⟨.resolve .noStructs, none, none⟩]))
  else
    let bound := bindModel seed m
    if Diagnostics.hasFatal bound.diagnostics then
      abortLinking bound.steps bound.diagnostics
    else
      let ordered := orderStructs bound.model
      if Diagnostics.hasFatal (bound.diagnostics ++ ordered.recursion) then
        abortLinking (bound.steps ++ [.recursionChecked ordered.recursion])
          (bound.diagnostics ++ ordered.recursion)
      else
        let marked := markUniqueSearches ordered.model
        let searches := searchProblems marked
        let steps := bound.steps ++ ordered.steps ++ [.searchesChecked searches]
        let found := bound.diagnostics ++ ordered.found ++ searches
        if Diagnostics.hasFatal found then abortLinking steps found
        else finishLinking steps marked ordered.topology found

def linkWith (seed : Diagnostics) (m : Model) : Except Diagnostics Linked := (linkRun seed m).2

def link (m : Model) : Except Diagnostics Linked := linkWith [] m

/-- The linked model of some documents, or all diagnostics, those of the documents first. -/
def linkSources (set : SourceSet) : Except Diagnostics Linked :=
  linkWith set.diagnostics set.model

/-- What a failed run says. -/
def failureMessage (found : Diagnostics) : String :=
  "linking failed with " ++ toString (Diagnostics.errorCount found) ++ " error(s)"

/-! ### asking a linked model -/

namespace Linked

variable (l : Linked)

/-- The structures, each after those it embeds. -/
def ordered : List (StructId × Struct) :=
  l.topology.order.filterMap fun id => (l.model.struct? id).map fun s => (id, s)

/-- A role may run an operation that is granted to it or to one of its ancestors. The role `none`
may run nothing. -/
def permits (g : RoleMap) (role : RoleId) : Bool :=
  role != .none &&
    g.resolved.any fun granted => granted == role || l.model.isAncestor granted role

/-- A session may go from a role to itself, to an ancestor other than `all`, and to `none`, which
it never leaves. -/
def canTransition (source target : RoleId) : Bool :=
  source == target ||
    (source != .none && target != .all &&
      (target == .none || l.model.isAncestor target source))

end Linked

end ModelLinker
