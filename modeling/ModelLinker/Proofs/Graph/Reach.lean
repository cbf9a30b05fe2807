import Mathlib.Logic.Relation
import ModelLinker.Graph.Reach

/-!
# The search reaches what can be reached

`searchFrom` finds its goal exactly if some arrows lead there (`reaches_iff`). That it finds nothing
else is an induction on the search; that it misses nothing rests on what the search has seen: at
every moment the arrows of a seen node lead to seen nodes or to nodes still to be looked at.
-/

namespace ModelLinker.Graph

open Relation

variable {succ : Nat → List Nat} {goal : Nat}

/-- An arrow of a graph. -/
def Arrow (succ : Nat → List Nat) (a b : Nat) : Prop := b ∈ succ a

theorem exists_of_searchFrom {unseen stack : List Nat}
    (h : searchFrom succ goal unseen stack = true) :
    ∃ v ∈ stack, ReflTransGen (Arrow succ) v goal := by
  induction unseen, stack using searchFrom.induct succ goal with
  | case1 unseen => simp [searchFrom] at h
  | case2 unseen rest => exact ⟨goal, List.mem_cons_self, .refl⟩
  | case3 unseen v rest hne hunseen ih =>
    rw [searchFrom, if_neg hne, if_pos hunseen] at h
    obtain ⟨w, hw, hpath⟩ := ih h
    rcases List.mem_append.1 hw with hw | hw
    · exact ⟨v, List.mem_cons_self, .head hw hpath⟩
    · exact ⟨w, List.mem_cons_of_mem v hw, hpath⟩
  | case4 unseen v rest hne hunseen ih =>
    rw [searchFrom, if_neg hne, if_neg hunseen] at h
    obtain ⟨w, hw, hpath⟩ := ih h
    exact ⟨w, List.mem_cons_of_mem v hw, hpath⟩

/-- What has been seen so far is no goal, and its arrows lead to what has been seen or is still to
be looked at. -/
def SeenClosed (succ : Nat → List Nat) (goal : Nat) (unseen stack : List Nat) : Prop :=
  ∀ v, v ∉ unseen → v ≠ goal ∧ ∀ w ∈ succ v, w ∈ unseen → w ∈ stack

/-- If the search fails, all it has to look at lies in a part of the graph that no arrow leaves and
that the goal is not in. -/
theorem closed_of_searchFrom {unseen stack : List Nat} (hnodup : unseen.Nodup)
    (hseen : SeenClosed succ goal unseen stack)
    (h : searchFrom succ goal unseen stack = false) :
    ∃ part : Nat → Prop, (∀ v ∈ stack, part v) ∧ (∀ v, v ∉ unseen → part v) ∧
      (∀ v, part v → ∀ w ∈ succ v, part w) ∧ ¬ part goal := by
  induction unseen, stack using searchFrom.induct succ goal with
  | case1 unseen =>
    refine ⟨fun v => v ∉ unseen, by simp, fun _ hv => hv, ?_, fun hg => (hseen goal hg).1 rfl⟩
    intro v hv w hw hunseen
    simpa using (hseen v hv).2 w hw hunseen
  | case2 unseen rest => simp [searchFrom] at h
  | case3 unseen v rest hne hunseen ih =>
    rw [searchFrom, if_neg hne, if_pos hunseen] at h
    have hv : v ∉ unseen.erase v := hnodup.not_mem_erase
    have hseen' : SeenClosed succ goal (unseen.erase v) (succ v ++ rest) := by
      intro u hu
      by_cases huv : u = v
      · subst huv
        exact ⟨hne, fun w hw _ => List.mem_append_left _ hw⟩
      · obtain ⟨hgoal, harrows⟩ := hseen u fun hmem => hu ((List.mem_erase_of_ne huv).2 hmem)
        refine ⟨hgoal, fun w hw hmem => ?_⟩
        rcases List.mem_cons.1 (harrows w hw (List.mem_of_mem_erase hmem)) with rfl | hrest
        · exact absurd hmem hv
        · exact List.mem_append_right _ hrest
    obtain ⟨part, hstack, hpart, hclosed, hgoal⟩ := ih (hnodup.erase v) hseen' h
    refine ⟨part, ?_, fun u hu => hpart u fun hmem => hu (List.mem_of_mem_erase hmem), hclosed,
      hgoal⟩
    intro u hu
    rcases List.mem_cons.1 hu with rfl | hu
    · exact hpart u hv
    · exact hstack u (List.mem_append_right _ hu)
  | case4 unseen v rest hne hunseen ih =>
    rw [searchFrom, if_neg hne, if_neg hunseen] at h
    have hseen' : SeenClosed succ goal unseen rest := by
      intro u hu
      obtain ⟨hgoal, harrows⟩ := hseen u hu
      refine ⟨hgoal, fun w hw hmem => ?_⟩
      rcases List.mem_cons.1 (harrows w hw hmem) with rfl | hrest
      · exact absurd hmem hunseen
      · exact hrest
    obtain ⟨part, hstack, hpart, hclosed, hgoal⟩ := ih hnodup hseen' h
    refine ⟨part, ?_, hpart, hclosed, hgoal⟩
    intro u hu
    rcases List.mem_cons.1 hu with rfl | hu
    · exact hpart u hunseen
    · exact hstack u hu

/-- In a graph of so many nodes the search reaches the nodes that arrows lead to. -/
theorem reaches_iff {size start : Nat} (hsucc : ∀ v, size ≤ v → succ v = []) (hgoal : goal < size) :
    reaches succ size start goal = true ↔ ReflTransGen (Arrow succ) start goal := by
  constructor
  · intro h
    obtain ⟨v, hv, hpath⟩ := exists_of_searchFrom h
    rwa [List.mem_singleton.1 hv] at hpath
  · intro hpath
    cases hr : reaches succ size start goal with
    | true => rfl
    | false =>
      -- at first only what lies outside the graph counts as seen
      have hseen : SeenClosed succ goal (List.range size) [start] := by
        intro v hv
        have hv : size ≤ v := by simpa using hv
        refine ⟨by omega, fun w hw => ?_⟩
        rw [hsucc v hv] at hw
        cases hw
      obtain ⟨part, hstart, -, hclosed, hpart⟩ :=
        closed_of_searchFrom List.nodup_range hseen hr
      have hall : ∀ v, ReflTransGen (Arrow succ) start v → part v := by
        intro v hv
        induction hv with
        | refl => exact hstart start (List.mem_singleton_self start)
        | tail _ harrow ih => exact hclosed _ ih _ harrow
      exact absurd (hall goal hpath) hpart

end ModelLinker.Graph
