/-!
Heights in a graph whose nodes are numbers: a node without successors has height zero, any other
one more than its highest successor. Nodes are visited depth first; each visit that starts anew
opens a generation. An arrow back to a node that is still being visited counts for nothing, so
heights mean something only where there are no circles.
-/

namespace ModelLinker.Graph

/-- How far the visit of a node has come. -/
inductive Mark where
  | unvisited
  | active
  | done (height : Nat)
deriving DecidableEq, Repr

/-- What has been visited so far. -/
structure Visits where
  marks : Array Mark
  generations : Array Nat

namespace Visits

/-- No node has been visited. -/
def start (size : Nat) : Visits := ⟨Array.replicate size .unvisited, Array.replicate size 0⟩

/-- The mark of a node; there is nothing to visit outside the graph. -/
def mark (w : Visits) (v : Nat) : Mark := w.marks[v]?.getD (.done 0)

/-- The visit of a node begins. -/
def enter (w : Visits) (v generation : Nat) : Visits :=
  ⟨w.marks.setIfInBounds v .active, w.generations.setIfInBounds v generation⟩

/-- The visit of a node ends. -/
def leave (w : Visits) (v height : Nat) : Visits :=
  { w with marks := w.marks.setIfInBounds v (.done height) }

/-- The height of a node that was visited. -/
def height (w : Visits) (v : Nat) : Nat :=
  match w.mark v with
  | .done h => h
  | _ => 0

end Visits

/-- The visit of a node and of all that can be reached from it. The number bounds the length of a
path without repetition. -/
def visit (succ : Nat → List Nat) (generation : Nat) : Nat → Visits → Nat → Visits × Nat
  | 0, w, _ => (w, 0)
  | room + 1, w, v =>
    match w.mark v with
    | .done h => (w, h)
    | .active => (w, 0)
    | .unvisited =>
      let (w, h) := (succ v).foldl (fun (w, h) t =>
        let (w, ht) := visit succ generation room w t
        (w, max h (ht + 1))) (w.enter v generation, 0)
      (w.leave v h, h)

/-- The visit of a node in a generation of its own, unless it has been visited before. -/
def visitRoot (succ : Nat → List Nat) (size : Nat) (state : Visits × Nat) (v : Nat) :
    Visits × Nat :=
  let (w, generation) := state
  if w.mark v = .unvisited then ((visit succ (generation + 1) (size + 1) w v).1, generation + 1)
  else (w, generation)

/-- The visits of all nodes, in the order of their numbers. -/
def visitAll (succ : Nat → List Nat) (size : Nat) : Visits :=
  ((List.range size).foldl (visitRoot succ size) (.start size, 0)).1

/-- The nodes by height; nodes of one height stay in the order of their numbers. -/
def byHeight (height : Nat → Nat) (size : Nat) : List Nat :=
  (List.range size).mergeSort fun a b => height a ≤ height b

end ModelLinker.Graph
