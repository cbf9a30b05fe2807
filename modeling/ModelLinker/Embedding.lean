import ModelLinker.Diagnostic.Basic
import ModelLinker.Graph.Height
import ModelLinker.Graph.Reach
import ModelLinker.Model.Lookup

/-!
Structures that embed one another. No structure may embed itself, not even through others; then
every structure has a height, and in the order of heights it comes after all that it embeds.
-/

namespace ModelLinker

/-- For every structure the structures it embeds. -/
def Model.embeddings (m : Model) : Array (List Nat) :=
  (m.structIds.map fun id => (m.embeds id).map fun e => e.2.index).toArray

/-- The structures that a structure embeds. -/
def successors (table : Array (List Nat)) (n : Nat) : List Nat := table[n]?.getD []

/-- The structures embedded by a structure, by their indices. -/
def Model.embedded (m : Model) : Nat → List Nat := successors m.embeddings

/-- One problem for every field whose structure leads back to its owner. -/
def recursionProblems (m : Model) : Diagnostics :=
  let succ := m.embedded
  m.structIds.flatMap fun id =>
    (m.embeds id).flatMap fun (fid, target) =>
      if Graph.reaches succ m.structs.size target.index id.index then
        (m.field? fid).toList.map fun f => Cause.recursion.at f.pos
      else []

/-- How the structures of a model embed one another: how many structures and embeddings there
are, the height and the generation of every structure, and the structures by height. -/
structure Topology where
  nodes : Nat
  edges : Nat
  heights : List Nat
  generations : List Nat
  order : List StructId
deriving DecidableEq, Repr

namespace Topology

def ofModel (m : Model) : Topology :=
  let size := m.structs.size
  let visits := Graph.visitAll m.embedded size
  { nodes := size
    edges := (m.structIds.flatMap m.embeds).length
    heights := (List.range size).map visits.height
    generations := visits.generations.toList
    order := (Graph.byHeight visits.height size).map StructId.mk }

variable (t : Topology)

def height (id : StructId) : Nat := t.heights[id.index]?.getD 0

def generation (id : StructId) : Nat := t.generations[id.index]?.getD 0

def rank? (id : StructId) : Option Nat := t.order.findIdx? (· = id)

end Topology

/-- The model with the height of every structure. -/
def setHeights (t : Topology) (m : Model) : Model :=
  { m with structs := m.structs.mapIdx fun i s => { s with height := t.height ⟨i⟩ } }

end ModelLinker
