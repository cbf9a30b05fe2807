/-!
Reachability in a graph whose nodes are numbers and whose arrows are given by successors. The
search keeps the nodes not yet seen and the nodes still to be looked at, and ends because each
node leaves the unseen ones once.
-/

namespace ModelLinker.Graph

/-- The goal is among the nodes still to be looked at, or can be reached from one of them through
unseen nodes. -/
def searchFrom (succ : Nat → List Nat) (goal : Nat) (unseen : List Nat) : List Nat → Bool
  | [] => false
  | v :: rest =>
    if v = goal then true
    else if v ∈ unseen then searchFrom succ goal (unseen.erase v) (succ v ++ rest)
    else searchFrom succ goal unseen rest
termination_by stack => (unseen.length, stack.length)
decreasing_by
  · apply Prod.Lex.left
    have := List.length_pos_of_mem ‹v ∈ unseen›
    rw [List.length_erase_of_mem ‹v ∈ unseen›]
    omega
  · apply Prod.Lex.right
    simp

/-- The goal is the start or can be reached from it, in a graph of so many nodes. -/
def reaches (succ : Nat → List Nat) (size start goal : Nat) : Bool :=
  searchFrom succ goal (List.range size) [start]

end ModelLinker.Graph
