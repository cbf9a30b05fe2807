/-!
Circles among parents. Nodes are numbers, each with a parent or without. Circles are cut one by
one, each at its lowest node, which is put under the root instead.
-/

namespace ModelLinker.Parents

/-- The parents of nodes by their number. -/
abbrev Table := Array (Option Nat)

/-- The parent of a node. -/
def Table.parent (t : Table) (n : Nat) : Option Nat := t[n]?.join

/-- The goal is met within some steps upwards. -/
def Table.meets (t : Table) (goal : Nat) : Nat → Option Nat → Bool
  | 0, _ => false
  | _ + 1, none => false
  | steps + 1, some n => n == goal || t.meets goal steps (t.parent n)

/-- The node is its own ancestor. -/
def Table.isOnCircle (t : Table) (n : Nat) : Bool := t.meets n t.size (t.parent n)

/-- The table with one node put under the root if it is on a circle, and the nodes cut so far. -/
def cut (root : Nat) (state : Table × List Nat) (n : Nat) : Table × List Nat :=
  let (t, done) := state
  if t.isOnCircle n then (t.setIfInBounds n (some root), done ++ [n]) else (t, done)

/-- The table with all circles cut, and where they were cut. -/
def cutCircles (root : Nat) (t : Table) : Table × List Nat :=
  (List.range t.size).foldl (cut root) (t, [])

end ModelLinker.Parents
