import Mathlib.Data.Finset.Card
import Mathlib.Data.Finset.Range
import Mathlib.Order.Bounds.Basic
import ModelLinker.Graph.Height
import ModelLinker.Proofs.Graph.Reach

/-!
# Heights are lengths of longest chains

In a graph without circles the visit of a node gives it the length of a longest chain from it
(`isGreatest_height`). The invariant of a visit (`Correct`) is about the nodes that are done; the
nodes that are still being visited all lead to the one visited next, so that an arrow back to one of
them would close a circle.
-/

namespace ModelLinker.Graph

open Relation

/-- So many arrows one after another, from a node on. -/
inductive Chain (succ : Nat → List Nat) : Nat → Nat → Prop where
  | nil {v} : Chain succ v 0
  | step {v w n} : w ∈ succ v → Chain succ w n → Chain succ v (n + 1)

/-- The length of a longest chain from a node. -/
def IsHeight (succ : Nat → List Nat) (v h : Nat) : Prop := IsGreatest {n | Chain succ v n} h

theorem isHeight_zero {succ : Nat → List Nat} {v : Nat} (h : succ v = []) :
    IsHeight succ v 0 := by
  refine ⟨.nil, ?_⟩
  rintro n (_ | ⟨hw, -⟩)
  · exact Nat.le_refl 0
  · rw [h] at hw
    cases hw

/-! ### marks -/

namespace Visits

variable (w : Visits) (u v g h : Nat)

theorem lt_of_unvisited {w : Visits} {v : Nat} (h : w.mark v = .unvisited) : v < w.marks.size := by
  rcases Nat.lt_or_ge v w.marks.size with hlt | hge
  · exact hlt
  · simp [mark, Array.getElem?_eq_none hge] at h

theorem mark_enter (hv : v < w.marks.size) :
    (w.enter v g).mark u = if u = v then .active else w.mark u := by
  by_cases huv : u = v
  · subst huv
    simp [mark, enter, hv]
  · simp [mark, enter, huv, Array.getElem?_setIfInBounds_ne (Ne.symm huv)]

theorem mark_leave (hv : v < w.marks.size) :
    (w.leave v h).mark u = if u = v then .done h else w.mark u := by
  by_cases huv : u = v
  · subst huv
    simp [mark, leave, hv]
  · simp [mark, leave, huv, Array.getElem?_setIfInBounds_ne (Ne.symm huv)]

@[simp] theorem size_enter : (w.enter v g).marks.size = w.marks.size := by simp [enter]

@[simp] theorem size_leave : (w.leave v h).marks.size = w.marks.size := by simp [leave]

/-- The nodes that nothing has been done with yet. -/
def fresh : Finset Nat := (Finset.range w.marks.size).filter fun u => w.mark u = .unvisited

theorem mem_fresh {w : Visits} {u : Nat} : u ∈ w.fresh ↔ w.mark u = .unvisited := by
  simp only [fresh, Finset.mem_filter, Finset.mem_range, and_iff_right_iff_imp]
  exact lt_of_unvisited

/-- What a visit does to the marks: it changes only those of unvisited nodes, and when it is over
no more nodes than before are being visited. -/
structure Extends (w w' : Visits) : Prop where
  size : w'.marks.size = w.marks.size
  kept : ∀ u, w.mark u ≠ .unvisited → w'.mark u = w.mark u
  settled : ∀ u, w.mark u = .unvisited → w'.mark u ≠ .active

theorem Extends.refl : Extends w w where
  size := rfl
  kept _ _ := rfl
  settled u hu := by simp [hu]

variable {w} {w' w'' : Visits}

theorem Extends.trans (h₁ : Extends w w') (h₂ : Extends w' w'') : Extends w w'' where
  size := h₂.size.trans h₁.size
  kept u hu := by
    have := h₁.kept u hu
    rw [h₂.kept u (this ▸ hu), this]
  settled u hu := by
    by_cases h : w'.mark u = .unvisited
    · exact h₂.settled u h
    · rw [h₂.kept u h]
      exact h₁.settled u hu

theorem Extends.active (h : Extends w w') {u : Nat} (hu : w'.mark u = .active) :
    w.mark u = .active := by
  by_cases hw : w.mark u = .unvisited
  · exact absurd hu (h.settled u hw)
  · rw [← h.kept u hw, hu]

theorem Extends.fresh_subset (h : Extends w w') : w'.fresh ⊆ w.fresh := by
  intro u hu
  rw [mem_fresh] at hu ⊢
  by_cases hw : w.mark u = .unvisited
  · exact hw
  · rw [h.kept u hw] at hu
    exact hu

theorem card_fresh_enter (hv : w.mark v = .unvisited) :
    (w.enter v g).fresh.card < w.fresh.card := by
  refine Finset.card_lt_card (Finset.ssubset_iff_subset_ne.2 ⟨?_, ?_⟩)
  · intro u hu
    rw [mem_fresh, mark_enter _ _ _ _ (lt_of_unvisited hv)] at hu
    split at hu
    · cases hu
    · exact mem_fresh.2 hu
  · intro heq
    have : v ∈ (w.enter v g).fresh := heq ▸ mem_fresh.2 hv
    rw [mem_fresh, mark_enter _ _ _ _ (lt_of_unvisited hv), if_pos rfl] at this
    cases this

/-- A visit that has begun with a node and is over now. -/
theorem Extends.leave (h : Extends (w.enter v g) w') (hv : w.mark v = .unvisited) (height : Nat) :
    Extends w (w'.leave v height) := by
  have hlt := lt_of_unvisited hv
  have hlt' : v < w'.marks.size := by
    rw [h.size, size_enter]
    exact hlt
  refine ⟨?_, ?_, ?_⟩
  · rw [size_leave, h.size, size_enter]
  · intro u hu
    have huv : u ≠ v := fun huv => hu (huv ▸ hv)
    have hkept := h.kept u
    rw [mark_enter _ _ _ _ hlt, if_neg huv] at hkept
    rw [mark_leave _ _ _ _ hlt', if_neg huv, hkept hu]
  · intro u hu
    rw [mark_leave _ _ _ _ hlt']
    split
    · exact fun h => by cases h
    · rename_i huv
      have hsettled := h.settled u
      rw [mark_enter _ _ _ _ hlt, if_neg huv] at hsettled
      exact hsettled hu

/-- Every node that is done has its height. -/
def Correct (succ : Nat → List Nat) (w : Visits) : Prop :=
  ∀ u h, w.mark u = .done h → IsHeight succ u h

variable {succ : Nat → List Nat}

theorem Correct.enter (hw : Correct succ w) (hv : v < w.marks.size) :
    Correct succ (w.enter v g) := by
  intro u h hu
  rw [mark_enter _ _ _ _ hv] at hu
  split at hu
  · cases hu
  · exact hw u h hu

variable {v h} in
theorem Correct.leave (hw : Correct succ w) (hv : v < w.marks.size) (hheight : IsHeight succ v h) :
    Correct succ (w.leave v h) := by
  intro u i hu
  rw [mark_leave _ _ _ _ hv] at hu
  split at hu
  · rename_i huv
    cases hu
    exact huv ▸ hheight
  · exact hw u i hu

end Visits

/-! ### the visit of a node -/

open Visits

section Visit

variable {succ : Nat → List Nat} {generation : Nat}

/-- A visit with enough room is right: the node ends up done with its height, and so does
everything else that the visit gets to. -/
def VisitOk (succ : Nat → List Nat) (generation room : Nat) : Prop :=
  ∀ w v, Correct succ w → w.fresh.card < room →
    (∀ u, w.mark u = .active → TransGen (Arrow succ) u v) →
    Correct succ (visit succ generation room w v).1 ∧
      Extends w (visit succ generation room w v).1 ∧
      (visit succ generation room w v).1.mark v = .done (visit succ generation room w v).2

/-- The visits of the successors of a node, and the greatest height they give to it. -/
def visitSuccs (succ : Nat → List Nat) (generation room : Nat) (ts : List Nat)
    (state : Visits × Nat) : Visits × Nat :=
  ts.foldl (fun (w, h) t =>
    let (w, ht) := visit succ generation room w t
    (w, max h (ht + 1))) state

theorem visit_of_unvisited {room v : Nat} {w : Visits} (hv : w.mark v = .unvisited) :
    visit succ generation (room + 1) w v =
      (((visitSuccs succ generation room (succ v) (w.enter v generation, 0)).1.leave v
          (visitSuccs succ generation room (succ v) (w.enter v generation, 0)).2),
        (visitSuccs succ generation room (succ v) (w.enter v generation, 0)).2) := by
  rw [visit, hv]
  rfl

/-- The heights of some successors are visited one after another; what comes out is one more than
the greatest of them. -/
theorem visitSuccs_spec {room v : Nat} (ih : VisitOk succ generation room) (ts : List Nat)
    (hts : ∀ t ∈ ts, t ∈ succ v) (w : Visits) (h : Nat) (hw : Correct succ w)
    (hroom : w.fresh.card < room)
    (hactive : ∀ u, w.mark u = .active → u = v ∨ TransGen (Arrow succ) u v) :
    Correct succ (visitSuccs succ generation room ts (w, h)).1 ∧
      Extends w (visitSuccs succ generation room ts (w, h)).1 ∧
      h ≤ (visitSuccs succ generation room ts (w, h)).2 ∧
      (∀ t ∈ ts, ∀ n, Chain succ t n → n + 1 ≤ (visitSuccs succ generation room ts (w, h)).2) ∧
      ((visitSuccs succ generation room ts (w, h)).2 = h ∨
        ∃ t ∈ ts, ∃ n, Chain succ t n ∧
          (visitSuccs succ generation room ts (w, h)).2 = n + 1) := by
  induction ts generalizing w h with
  | nil => exact ⟨hw, .refl w, Nat.le_refl h, by simp, .inl rfl⟩
  | cons t rest ihts =>
    have harrow : Arrow succ v t := hts t List.mem_cons_self
    have hlead : ∀ u, w.mark u = .active → TransGen (Arrow succ) u t := by
      intro u hu
      rcases hactive u hu with rfl | hpath
      · exact .single harrow
      · exact hpath.tail harrow
    obtain ⟨hw', hext, hdone⟩ := ih w t hw hroom hlead
    have hstep : visitSuccs succ generation room (t :: rest) (w, h) =
        visitSuccs succ generation room rest ((visit succ generation room w t).1,
          max h ((visit succ generation room w t).2 + 1)) := rfl
    rw [hstep]
    have hheight := hw' t _ hdone
    have hrest := ihts (fun x hx => hts x (List.mem_cons_of_mem t hx))
      (visit succ generation room w t).1 (max h ((visit succ generation room w t).2 + 1)) hw'
      (Nat.lt_of_le_of_lt (Finset.card_le_card hext.fresh_subset) hroom)
      (fun u hu => hactive u (hext.active hu))
    obtain ⟨hc, he, hle, hall, hattained⟩ := hrest
    refine ⟨hc, hext.trans he, by omega, ?_, ?_⟩
    · intro x hx n hn
      rcases List.mem_cons.1 hx with rfl | hx
      · have := hheight.2 hn
        omega
      · exact hall x hx n hn
    · rcases hattained with heq | ⟨x, hx, n, hn, heq⟩
      · rcases Nat.le_total h ((visit succ generation room w t).2 + 1) with hmax | hmax
        · exact .inr ⟨t, List.mem_cons_self, _, hheight.1, by omega⟩
        · exact .inl (by omega)
      · exact .inr ⟨x, List.mem_cons_of_mem t hx, n, hn, heq⟩

variable (generation) in
theorem visitOk (hacyclic : ∀ v, ¬ TransGen (Arrow succ) v v) (room : Nat) :
    VisitOk succ generation room := by
  induction room with
  | zero =>
    intro w v _ hroom
    omega
  | succ room ih =>
    intro w v hw hroom hactive
    cases hv : w.mark v with
    | done h => simpa [visit, hv] using ⟨hw, Extends.refl w⟩
    | active => exact absurd (hactive v hv) (hacyclic v)
    | unvisited =>
      have hlt := lt_of_unvisited hv
      have hleads : ∀ u, (w.enter v generation).mark u = .active →
          u = v ∨ TransGen (Arrow succ) u v := by
        intro u hu
        rw [mark_enter _ _ _ _ hlt] at hu
        split at hu
        · exact .inl ‹_›
        · exact .inr (hactive u hu)
      obtain ⟨hc, hext, -, hall, hattained⟩ := visitSuccs_spec ih (succ v) (fun _ ht => ht)
        (w.enter v generation) 0 (hw.enter v generation hlt)
        (by have := card_fresh_enter v generation hv; omega) hleads
      rw [visit_of_unvisited hv]
      generalize visitSuccs succ generation room (succ v) (w.enter v generation, 0) = r at *
      have hltr : v < r.1.marks.size := by
        rw [hext.size, size_enter]
        exact hlt
      have hheight : IsHeight succ v r.2 := by
        refine ⟨?_, ?_⟩
        · rcases hattained with heq | ⟨t, ht, n, hn, heq⟩
          · rw [heq]
            exact Chain.nil
          · rw [heq]
            exact Chain.step ht hn
        · rintro n (_ | ⟨ht, hn⟩)
          · exact Nat.zero_le _
          · exact hall _ ht _ hn
      refine ⟨hc.leave hltr hheight, hext.leave v generation hv r.2, ?_⟩
      rw [mark_leave _ _ _ _ hltr, if_pos rfl]

/-! ### the visits of all nodes -/

variable (generation) in
/-- After some roots have been visited, they are done, and nothing is being visited. -/
theorem foldl_visitRoot (hacyclic : ∀ v, ¬ TransGen (Arrow succ) v v) {size : Nat}
    (roots : List Nat) (w : Visits) (hsize : w.marks.size = size) (hw : Correct succ w)
    (hidle : ∀ u, w.mark u ≠ .active) :
    Correct succ (roots.foldl (visitRoot succ size) (w, generation)).1 ∧
      Extends w (roots.foldl (visitRoot succ size) (w, generation)).1 ∧
      ∀ v ∈ roots, ∃ h, (roots.foldl (visitRoot succ size) (w, generation)).1.mark v = .done h := by
  induction roots generalizing w generation with
  | nil => exact ⟨hw, .refl w, by simp⟩
  | cons v rest ih =>
    -- one root, visited before or not
    obtain ⟨w', generation', hroot, hw', hext, h, hdone⟩ : ∃ w' generation',
        visitRoot succ size (w, generation) v = (w', generation') ∧ Correct succ w' ∧
          Extends w w' ∧ ∃ h, w'.mark v = .done h := by
      cases hv : w.mark v with
      | done h => exact ⟨w, generation, by simp [visitRoot, hv], hw, .refl w, h, hv⟩
      | active => exact absurd hv (hidle v)
      | unvisited =>
        have hroom : w.fresh.card < size + 1 := by
          have := Finset.card_filter_le (Finset.range w.marks.size) fun u => w.mark u = .unvisited
          rw [Finset.card_range, hsize] at this
          rw [fresh, hsize]
          omega
        obtain ⟨hc, he, hd⟩ := visitOk (generation + 1) hacyclic (size + 1) w v hw hroom
          (fun u hu => absurd hu (hidle u))
        exact ⟨_, generation + 1, by simp [visitRoot, hv], hc, he, _, hd⟩
    rw [List.foldl_cons, hroot]
    obtain ⟨hc, he, hall⟩ := ih generation' w' (hext.size.trans hsize) hw'
      (fun u hu => hidle u (hext.active hu))
    refine ⟨hc, hext.trans he, ?_⟩
    intro x hx
    rcases List.mem_cons.1 hx with rfl | hx
    · exact ⟨h, by rw [he.kept x (by rw [hdone]; exact fun h => by cases h), hdone]⟩
    · exact hall x hx

/-- Where there are no circles, every node gets its height. -/
theorem isHeight_visitAll (hacyclic : ∀ v, ¬ TransGen (Arrow succ) v v) {size : Nat}
    (hsucc : ∀ v, size ≤ v → succ v = []) (v : Nat) :
    IsHeight succ v ((visitAll succ size).height v) := by
  have hout : ∀ w : Visits, w.marks.size = size → ∀ u, size ≤ u → w.mark u = .done 0 := by
    intro w hw u hu
    simp [mark, Array.getElem?_eq_none (hw ▸ hu)]
  have hmark : ∀ u, u < size → (Visits.start size).mark u = .unvisited := by
    intro u hu
    simp [mark, Visits.start, hu]
  have hstart : Correct succ (.start size) := by
    intro u h hu
    rcases Nat.lt_or_ge u size with hlt | hge
    · rw [hmark u hlt] at hu
      cases hu
    · rw [hout _ (by simp [Visits.start]) u hge] at hu
      cases hu
      exact isHeight_zero (hsucc u hge)
  have hidle : ∀ u, (Visits.start size).mark u ≠ .active := by
    intro u hu
    rcases Nat.lt_or_ge u size with hlt | hge
    · rw [hmark u hlt] at hu
      cases hu
    · rw [hout _ (by simp [Visits.start]) u hge] at hu
      cases hu
  obtain ⟨hc, hext, hall⟩ := @foldl_visitRoot succ 0 hacyclic size
    (List.range size) (.start size) (by simp [Visits.start]) hstart hidle
  have hdone : ∃ h, (visitAll succ size).mark v = .done h := by
    rcases Nat.lt_or_ge v size with hlt | hge
    · exact hall v (List.mem_range.2 hlt)
    · exact ⟨0, hout _ (hext.size.trans (by simp [Visits.start])) v hge⟩
  obtain ⟨h, hdone⟩ := hdone
  rw [Visits.height, hdone]
  exact hc v h hdone

end Visit

/-! ### nodes by height -/

section ByHeight

variable {height : Nat → Nat} {size : Nat}

theorem byHeight_perm : (byHeight height size).Perm (List.range size) := List.mergeSort_perm _ _

/-- The order is by height, and by number among nodes of one height. -/
theorem byHeight_pairwise : (byHeight height size).Pairwise fun a b =>
    height a < height b ∨ height a = height b ∧ a < b := by
  let le := fun a b => decide (height a ≤ height b)
  have htrans : ∀ a b c, le a b → le b c → le a c := by
    intro a b c hab hbc
    simp only [le, decide_eq_true_eq] at hab hbc ⊢
    omega
  have htotal : ∀ a b, le a b || le b a := by
    intro a b
    simp only [le, Bool.or_eq_true, decide_eq_true_eq]
    omega
  -- the sort is stable: it sorts the nodes with their places, and the place of a node is itself
  let places := (List.range size).zipIdx.mergeSort (List.zipIdxLE le)
  have hplaces : ∀ x ∈ places, x.1 = x.2 := by
    intro x hx
    have hx := List.mem_zipIdx_iff_getElem?.1 (List.mem_mergeSort.1 hx)
    rw [List.getElem?_eq_some_iff] at hx
    obtain ⟨hlt, hx⟩ := hx
    simpa using hx.symm
  have hsorted : places.Pairwise fun a b => List.zipIdxLE le a b :=
    List.pairwise_mergeSort (List.zipIdxLE_trans htrans) (List.zipIdxLE_total htotal) _
  have hnodup : (places.map (·.1)).Nodup := by
    rw [List.mergeSort_zipIdx]
    exact (List.mergeSort_perm _ _).nodup_iff.2 List.nodup_range
  have hmap : byHeight height size = places.map (·.1) := List.mergeSort_zipIdx.symm
  rw [hmap, List.pairwise_map]
  rw [List.Nodup, List.pairwise_map] at hnodup
  refine (hsorted.and hnodup).imp_of_mem ?_
  rintro a b ha hb ⟨hle, hne⟩
  have ha := hplaces a ha
  have hb := hplaces b hb
  simp only [List.zipIdxLE, le, decide_eq_true_eq] at hle
  grind

end ByHeight

end ModelLinker.Graph
