import Mathlib.Data.Nat.Nth
import Mathlib.Order.Lattice.Nat
import ModelLinker.Proofs.Graph.Height

/-!
# Visits of any graph

`Visiting` and `Walked` are the visits of a graph without a bound on how deep they go. Every visit
comes to an end, with circles or without, and the one with bounded room does the same
(`walked_visitAll`). The heights that it gives are bounded by the number of nodes, and the generation
of a node counts the roots up to its own, the least node that leads to it (`surveyed_visitAll`).
-/

namespace ModelLinker.Graph

open Relation Visits

/-- Some nodes are visited one after another. The number is one more than the greatest height among
them, or zero if there are none. -/
inductive Visiting (succ : Nat → List Nat) (generation : Nat) :
    List Nat → Visits → Visits → Nat → Prop where
  | nil {w} : Visiting succ generation [] w w 0
  | done {v vs w w' h n} : w.mark v = .done h → Visiting succ generation vs w w' n →
      Visiting succ generation (v :: vs) w w' (max (h + 1) n)
  | active {v vs w w' n} : w.mark v = .active → Visiting succ generation vs w w' n →
      Visiting succ generation (v :: vs) w w' (max 1 n)
  | unvisited {v vs w w₁ w' h n} : w.mark v = .unvisited →
      Visiting succ generation (succ v) (w.enter v generation) w₁ h →
      Visiting succ generation vs (w₁.leave v h) w' n →
      Visiting succ generation (v :: vs) w w' (max (h + 1) n)

variable {succ : Nat → List Nat} {generation : Nat} {vs : List Nat} {w w' : Visits} {n : Nat}

namespace Visiting

theorem extended (hvisit : Visiting succ generation vs w w' n) : Extends w w' := by
  induction hvisit with
  | nil => exact .refl _
  | done _ _ ih => exact ih
  | active _ _ ih => exact ih
  | unvisited hv _ _ ih₁ ih₂ => exact (ih₁.leave _ _ hv _).trans ih₂

/-- With room for every node that is left, a visit is one that nothing bounds. -/
theorem of_visitSuccs {room : Nat} (hroom : w.fresh.card < room) (height : Nat) :
    ∃ w' n, Visiting succ generation vs w w' n ∧
      visitSuccs succ generation room vs (w, height) = (w', max height n) := by
  induction room generalizing vs w height with
  | zero => omega
  | succ room ihroom =>
    induction vs generalizing w height with
    | nil => exact ⟨w, 0, .nil, by simp [visitSuccs]⟩
    | cons v vs ih =>
      have hstep : visitSuccs succ generation (room + 1) (v :: vs) (w, height) =
          visitSuccs succ generation (room + 1) vs ((visit succ generation (room + 1) w v).1,
            max height ((visit succ generation (room + 1) w v).2 + 1)) := rfl
      cases hv : w.mark v with
      | done h =>
        obtain ⟨w', n, hrest, heq⟩ := ih hroom (max height (h + 1))
        refine ⟨w', _, .done hv hrest, ?_⟩
        rw [hstep, visit, hv, heq, max_assoc]
      | active =>
        obtain ⟨w', n, hrest, heq⟩ := ih hroom (max height 1)
        refine ⟨w', _, .active hv hrest, ?_⟩
        rw [hstep, visit, hv, heq, max_assoc]
      | unvisited =>
        -- the successors are visited with one room less, but `v` is not fresh any more
        have hfresh := card_fresh_enter v generation hv
        obtain ⟨w₁, h, hsuccs, heq₁⟩ :=
          @ihroom (succ v) (w.enter v generation) (by omega) 0
        have hleave := (hsuccs.extended.leave _ _ hv h).fresh_subset
        obtain ⟨w', n, hrest, heq₂⟩ :=
          @ih (w₁.leave v h) (Nat.lt_of_le_of_lt (Finset.card_le_card hleave) hroom)
            (max height (h + 1))
        refine ⟨w', _, .unvisited hv hsuccs hrest, ?_⟩
        rw [hstep, visit_of_unvisited hv, heq₁, Nat.zero_max, heq₂, max_assoc]

/-- A visit ends in one way only. -/
theorem unique {w'' : Visits} {n' : Nat} (h : Visiting succ generation vs w w' n)
    (h' : Visiting succ generation vs w w'' n') : w' = w'' ∧ n = n' := by
  induction h generalizing w'' n' with
  | nil => cases h'; exact ⟨rfl, rfl⟩
  | done hv _ ih =>
    cases h' with
    | done hv' hrest =>
      obtain ⟨rfl, rfl⟩ := ih hrest
      rw [hv, Mark.done.injEq] at hv'
      exact ⟨rfl, by rw [hv']⟩
    | active hv' => simp [hv] at hv'
    | unvisited hv' => simp [hv] at hv'
  | active hv _ ih =>
    cases h' with
    | done hv' => simp [hv] at hv'
    | active _ hrest =>
      obtain ⟨rfl, rfl⟩ := ih hrest
      exact ⟨rfl, rfl⟩
    | unvisited hv' => simp [hv] at hv'
  | unvisited hv _ _ ih₁ ih₂ =>
    cases h' with
    | done hv' => simp [hv] at hv'
    | active hv' => simp [hv] at hv'
    | unvisited _ hsuccs hrest =>
      obtain ⟨rfl, rfl⟩ := ih₁ hsuccs
      obtain ⟨rfl, rfl⟩ := ih₂ hrest
      exact ⟨rfl, rfl⟩

end Visiting

/-! ### heights are bounded -/

namespace Visits

/-- The nodes that are done. -/
def settled (w : Visits) : Finset Nat :=
  (Finset.range w.marks.size).filter fun u => w.mark u ≠ .unvisited ∧ w.mark u ≠ .active

/-- No height exceeds the number of the nodes that are done. -/
def Low (w : Visits) : Prop := ∀ u h, w.mark u = .done h → h ≤ w.settled.card

theorem card_settled_le (w : Visits) : w.settled.card ≤ w.marks.size :=
  (Finset.card_filter_le _ _).trans (by simp)

theorem mem_settled {u : Nat} :
    u ∈ w.settled ↔ u < w.marks.size ∧ w.mark u ≠ .unvisited ∧ w.mark u ≠ .active := by
  simp [settled]

theorem Extends.settled_subset (h : Extends w w') : w.settled ⊆ w'.settled := by
  intro u hu
  rw [mem_settled] at hu ⊢
  rwa [h.size, h.kept u hu.2.1]

variable {v h : Nat}

theorem settled_enter (hv : w.mark v = .unvisited) :
    (w.enter v generation).settled = w.settled := by
  ext u
  rw [mem_settled, mem_settled, size_enter, mark_enter _ _ _ _ (lt_of_unvisited hv)]
  by_cases huv : u = v
  · simp [huv, hv]
  · simp [huv]

theorem card_settled_leave (hv : w.mark v = .active) (hlt : v < w.marks.size) :
    (w.leave v h).settled.card = w.settled.card + 1 := by
  have hnew : v ∉ w.settled := fun hmem => (mem_settled.1 hmem).2.2 hv
  have hinsert : (w.leave v h).settled = insert v w.settled := by
    ext u
    rw [Finset.mem_insert, mem_settled, mem_settled, size_leave, mark_leave _ _ _ _ hlt]
    by_cases huv : u = v
    · simp [huv, hlt]
    · simp [huv]
  rw [hinsert, Finset.card_insert_of_notMem hnew]

theorem Low.enter (hlow : w.Low) (hv : w.mark v = .unvisited) :
    (w.enter v generation).Low := by
  intro u i hu
  rw [mark_enter _ _ _ _ (lt_of_unvisited hv)] at hu
  split at hu
  · cases hu
  · rw [settled_enter hv]
    exact hlow u i hu

theorem Low.leave (hlow : w.Low) (hv : w.mark v = .active) (hlt : v < w.marks.size)
    (hh : h ≤ w.settled.card + 1) : (w.leave v h).Low := by
  intro u i hu
  rw [card_settled_leave hv hlt]
  rw [mark_leave _ _ _ _ hlt] at hu
  split at hu
  · cases hu
    exact hh
  · exact (hlow u i hu).trans (Nat.le_succ _)

end Visits

/-- A node whose visit has begun is being visited until it is over. -/
theorem Visiting.active_of_enter {v : Nat} (hv : w.mark v = .unvisited)
    (hvisit : Visiting succ generation vs (w.enter v generation) w' n) :
    w'.mark v = .active ∧ v < w'.marks.size := by
  have hlt := lt_of_unvisited hv
  have hactive : (w.enter v generation).mark v = .active := by
    rw [mark_enter _ _ _ _ hlt, if_pos rfl]
  refine ⟨?_, ?_⟩
  · rw [hvisit.extended.kept v (by rw [hactive]; exact Mark.noConfusion), hactive]
  · rwa [hvisit.extended.size, size_enter]

theorem Visiting.low (hvisit : Visiting succ generation vs w w' n) (hlow : w.Low) :
    w'.Low ∧ n ≤ w'.settled.card + 1 := by
  induction hvisit with
  | nil => exact ⟨hlow, Nat.zero_le _⟩
  | done hv hrest ih =>
    obtain ⟨hlow', hn⟩ := ih hlow
    have hmore := Finset.card_le_card hrest.extended.settled_subset
    have := hlow _ _ hv
    exact ⟨hlow', by omega⟩
  | active _ _ ih =>
    obtain ⟨hlow', hn⟩ := ih hlow
    exact ⟨hlow', by omega⟩
  | unvisited hv hsuccs hrest ih₁ ih₂ =>
    obtain ⟨hactive, hlt⟩ := hsuccs.active_of_enter hv
    obtain ⟨hlow₁, hh⟩ := ih₁ (hlow.enter hv)
    obtain ⟨hlow', hn⟩ := ih₂ (hlow₁.leave hactive hlt hh)
    have hmore := Finset.card_le_card hrest.extended.settled_subset
    rw [card_settled_leave hactive hlt] at hmore
    exact ⟨hlow', by omega⟩

/-! ### what a visit gets to -/

/-- A visit gets to its nodes and to what can be reached from them; it leaves nothing out that the
arrows of a visited node lead to, and puts all that it gets to in its generation. -/
structure Spread (succ : Nat → List Nat) (generation : Nat) (vs : List Nat) (w w' : Visits) :
    Prop where
  started : ∀ v ∈ vs, w'.mark v ≠ .unvisited
  reached : ∀ u, w.mark u = .unvisited → w'.mark u ≠ .unvisited →
    ∃ v ∈ vs, ReflTransGen (Arrow succ) v u
  closed : ∀ u, w.mark u = .unvisited → w'.mark u ≠ .unvisited → ∀ t ∈ succ u,
    w'.mark t ≠ .unvisited
  fresh : ∀ u, w.mark u = .unvisited → w'.mark u ≠ .unvisited →
    w'.generations[u]? = some generation
  kept : ∀ u, (w.mark u = .unvisited → w'.mark u = .unvisited) →
    w'.generations[u]? = w.generations[u]?

/-- There is a generation for every node. -/
def Visits.Even (w : Visits) : Prop := w.generations.size = w.marks.size

theorem Visits.Even.enter {v : Nat} (h : w.Even) : (w.enter v generation).Even := by
  simpa [Visits.Even, Visits.enter] using h

theorem Visits.Even.leave {v i : Nat} (h : w.Even) : (w.leave v i).Even := by
  simpa [Visits.Even, Visits.leave] using h

theorem Visiting.even (hvisit : Visiting succ generation vs w w' n) (h : w.Even) : w'.Even := by
  induction hvisit with
  | nil => exact h
  | done _ _ ih => exact ih h
  | active _ _ ih => exact ih h
  | unvisited _ _ _ ih₁ ih₂ => exact ih₂ (ih₁ h.enter).leave

/-- A node that was visited before changes nothing about what a visit gets to. -/
theorem Spread.again {v : Nat} (hspread : Spread succ generation vs w w') (hext : Extends w w')
    (hv : w.mark v ≠ .unvisited) : Spread succ generation (v :: vs) w w' where
  started u hu := by
    rcases List.mem_cons.1 hu with rfl | hu
    · rwa [hext.kept u hv]
    · exact hspread.started u hu
  reached u hold hnew := by
    obtain ⟨x, hx, hpath⟩ := hspread.reached u hold hnew
    exact ⟨x, List.mem_cons_of_mem v hx, hpath⟩
  closed := hspread.closed
  fresh := hspread.fresh
  kept := hspread.kept

/-- The visit of one node gets to what the visits of its successors get to. -/
theorem Spread.first {v h : Nat} {w₁ : Visits} (hv : w.mark v = .unvisited) (heven : w.Even)
    (hext : Extends (w.enter v generation) w₁)
    (hspread : Spread succ generation (succ v) (w.enter v generation) w₁) :
    Spread succ generation [v] w (w₁.leave v h) := by
  have hlt := lt_of_unvisited hv
  have hlt₁ : v < w₁.marks.size := by rwa [hext.size, size_enter]
  have hmark : ∀ u, (w₁.leave v h).mark u = if u = v then .done h else w₁.mark u :=
    fun u => mark_leave _ _ _ _ hlt₁
  have henter : ∀ u, u ≠ v → (w.enter v generation).mark u = w.mark u := fun u hu => by
    rw [mark_enter _ _ _ _ hlt, if_neg hu]
  -- whatever the successors have been visited for stays visited
  have hvisited : ∀ u, w₁.mark u ≠ .unvisited → (w₁.leave v h).mark u ≠ .unvisited := by
    intro u hu
    rw [hmark]
    split
    · exact Mark.noConfusion
    · exact hu
  have hnew : ∀ u, u ≠ v → (w₁.leave v h).mark u ≠ .unvisited → w₁.mark u ≠ .unvisited := by
    intro u huv hu
    rwa [hmark, if_neg huv] at hu
  refine ⟨?_, ?_, ?_, ?_, ?_⟩
  · simp [hmark]
  · intro u hold hu
    refine ⟨v, List.mem_singleton_self v, ?_⟩
    by_cases huv : u = v
    · exact huv ▸ .refl
    · obtain ⟨t, ht, hpath⟩ := hspread.reached u ((henter u huv).trans hold) (hnew u huv hu)
      exact .head ht hpath
  · intro u hold hu t ht
    by_cases huv : u = v
    · exact hvisited t (hspread.started t (huv ▸ ht))
    · exact hvisited t (hspread.closed u ((henter u huv).trans hold) (hnew u huv hu) t ht)
  · intro u hold hu
    by_cases huv : u = v
    · have hactive : (w.enter v generation).mark v = .active := by
        rw [mark_enter _ _ _ _ hlt, if_pos rfl]
      change w₁.generations[u]? = some generation
      rw [huv, hspread.kept v (by simp [hactive])]
      simp [enter, heven.symm ▸ hlt]
    · exact hspread.fresh u ((henter u huv).trans hold) (hnew u huv hu)
  · intro u hu
    have huv : u ≠ v := by
      rintro rfl
      have := hu hv
      rw [hmark, if_pos rfl] at this
      cases this
    change w₁.generations[u]? = _
    rw [hspread.kept u (by rw [henter u huv]; simpa [hmark, huv] using hu)]
    simp [enter, Array.getElem?_setIfInBounds_ne (Ne.symm huv)]

theorem Spread.cons {v : Nat} {w₁ : Visits} (hext₁ : Extends w w₁) (hext : Extends w₁ w')
    (h₁ : Spread succ generation [v] w w₁) (h : Spread succ generation vs w₁ w') :
    Spread succ generation (v :: vs) w w' := by
  have hkept : ∀ u, w₁.mark u ≠ .unvisited → w'.mark u ≠ .unvisited := fun u hu => by
    rwa [hext.kept u hu]
  refine ⟨?_, ?_, ?_, ?_, ?_⟩
  · intro u hu
    rcases List.mem_cons.1 hu with rfl | hu
    · exact hkept u (h₁.started u (List.mem_singleton_self u))
    · exact h.started u hu
  · intro u hold hnew
    by_cases hu : w₁.mark u = .unvisited
    · obtain ⟨x, hx, hpath⟩ := h.reached u hu hnew
      exact ⟨x, List.mem_cons_of_mem v hx, hpath⟩
    · obtain ⟨x, hx, hpath⟩ := h₁.reached u hold hu
      exact ⟨x, List.mem_cons.2 (.inl (List.mem_singleton.1 hx)), hpath⟩
  · intro u hold hnew t ht
    by_cases hu : w₁.mark u = .unvisited
    · exact h.closed u hu hnew t ht
    · exact hkept t (h₁.closed u hold hu t ht)
  · intro u hold hnew
    by_cases hu : w₁.mark u = .unvisited
    · exact h.fresh u hu hnew
    · rw [h.kept u fun h => absurd h hu, h₁.fresh u hold hu]
  · intro u hu
    by_cases hold : w.mark u = .unvisited
    · have hu₁ : w₁.mark u = .unvisited := by
        by_contra hne
        exact hkept u hne (hu hold)
      rw [h.kept u fun _ => hu hold, h₁.kept u fun _ => hu₁]
    · have hu₁ : w₁.mark u ≠ .unvisited := by rwa [hext₁.kept u hold]
      rw [h.kept u fun h => absurd h hu₁, h₁.kept u fun h => absurd h hold]

theorem Visiting.spread (hvisit : Visiting succ generation vs w w' n) (heven : w.Even) :
    Spread succ generation vs w w' := by
  induction hvisit with
  | nil =>
    exact ⟨by simp, fun _ h h' => absurd h h', fun _ h h' => absurd h h',
      fun _ h h' => absurd h h', fun _ _ => rfl⟩
  | done hv hrest ih => exact (ih heven).again hrest.extended (by simp [hv])
  | active hv hrest ih => exact (ih heven).again hrest.extended (by simp [hv])
  | unvisited hv hsuccs hrest ih₁ ih₂ =>
    exact .cons (hsuccs.extended.leave _ _ hv _) hrest.extended
      (.first hv heven hsuccs.extended (ih₁ heven.enter)) (ih₂ (hsuccs.even heven.enter).leave)

/-! ### roots -/

/-- Some nodes are visited one after another, each in a generation of its own unless it was visited
before. The state goes with the number of generations. -/
inductive Walked (succ : Nat → List Nat) : List Nat → Visits × Nat → Visits × Nat → Prop where
  | nil {state} : Walked succ [] state state
  | again {v vs w generation state} : w.mark v ≠ .unvisited →
      Walked succ vs (w, generation) state → Walked succ (v :: vs) (w, generation) state
  | root {v vs w w₁ generation n state} : w.mark v = .unvisited →
      Visiting succ (generation + 1) [v] w w₁ n →
      Walked succ vs (w₁, generation + 1) state → Walked succ (v :: vs) (w, generation) state

theorem Walked.of_foldl {size : Nat} (hsize : w.marks.size = size) :
    Walked succ vs (w, generation) (vs.foldl (visitRoot succ size) (w, generation)) := by
  induction vs generalizing w generation with
  | nil => exact .nil
  | cons v vs ih =>
    rw [List.foldl_cons]
    by_cases hv : w.mark v = .unvisited
    · have hroom : w.fresh.card < size + 1 := by
        have := Finset.card_filter_le (Finset.range w.marks.size) fun u => w.mark u = .unvisited
        rw [Finset.card_range, hsize] at this
        rw [Visits.fresh, hsize]
        omega
      obtain ⟨w₁, n, hvisit, heq⟩ :=
        @Visiting.of_visitSuccs succ (generation + 1) [v] w (size + 1) hroom 0
      have hw₁ : (visit succ (generation + 1) (size + 1) w v).1 = w₁ := congrArg Prod.fst heq
      have hroot : visitRoot succ size (w, generation) v = (w₁, generation + 1) := by
        simp [visitRoot, hv, hw₁]
      rw [hroot]
      exact .root hv hvisit (ih (hvisit.extended.size.trans hsize))
    · have hroot : visitRoot succ size (w, generation) v = (w, generation) := by
        simp [visitRoot, hv]
      rw [hroot]
      exact .again hv (ih hsize)

/-- The visits of all nodes come to an end, and with the room they are given they end as they would
with any. -/
theorem walked_visitAll (succ : Nat → List Nat) (size : Nat) :
    ∃ generations, Walked succ (List.range size) (.start size, 0)
      (visitAll succ size, generations) :=
  ⟨_, .of_foldl (by simp [Visits.start])⟩

theorem Walked.unique {state state' state'' : Visits × Nat} (h : Walked succ vs state state')
    (h' : Walked succ vs state state'') : state' = state'' := by
  induction h with
  | nil => cases h'; rfl
  | again hv _ ih =>
    cases h' with
    | again _ hrest => exact ih hrest
    | root hv' => exact absurd hv' hv
  | root hv hvisit _ ih =>
    cases h' with
    | again hv' => exact absurd hv hv'
    | root _ hvisit' hrest =>
      obtain ⟨rfl, -⟩ := hvisit.unique hvisit'
      exact ih hrest

/-- The least node that leads to a node. -/
noncomputable def root (succ : Nat → List Nat) (v : Nat) : Nat :=
  sInf {r | ReflTransGen (Arrow succ) r v}

theorem root_reaches (v : Nat) : ReflTransGen (Arrow succ) (root succ v) v :=
  Nat.sInf_mem (s := {r | ReflTransGen (Arrow succ) r v}) ⟨v, .refl⟩

theorem root_le {r v : Nat} (h : ReflTransGen (Arrow succ) r v) : root succ v ≤ r := Nat.sInf_le h

theorem root_root (v : Nat) : root succ (root succ v) = root succ v :=
  Nat.le_antisymm (root_le .refl) (root_le ((root_reaches _).trans (root_reaches v)))

/-- What is known when all nodes below a number have been visited as roots. -/
structure Surveyed (succ : Nat → List Nat) (size k : Nat) (state : Visits × Nat) : Prop where
  sized : state.1.marks.size = size
  even : state.1.Even
  idle : ∀ u, state.1.mark u ≠ .active
  low : state.1.Low
  unvisited : ∀ u, state.1.mark u = .unvisited ↔
    u < size ∧ ∀ r < k, ¬ ReflTransGen (Arrow succ) r u
  count : state.2 = Nat.count (fun r => root succ r = r) k
  generations : ∀ u < size, state.1.mark u ≠ .unvisited →
    state.1.generations[u]? = some (Nat.count (fun r => root succ r = r) (root succ u) + 1)

theorem surveyed_start (succ : Nat → List Nat) (size : Nat) :
    Surveyed succ size 0 (.start size, 0) := by
  have hmark : ∀ u, (Visits.start size).mark u = if u < size then .unvisited else .done 0 := by
    intro u
    by_cases hu : u < size <;> simp [mark, Visits.start, hu]
  refine ⟨by simp [Visits.start], by simp [Visits.Even, Visits.start], ?_, ?_, ?_, by simp, ?_⟩
  · intro u hu
    rw [hmark] at hu
    split at hu <;> cases hu
  · intro u h hu
    rw [hmark] at hu
    split at hu
    · cases hu
    · cases hu
      exact Nat.zero_le _
  · intro u
    rw [hmark]
    split <;> simp [*]
  · intro u hlt hu
    exact absurd (by rw [hmark, if_pos hlt]) hu

namespace Surveyed

variable {size k : Nat}

/-- A node that a root below it leads to was visited from there, with all it leads to. -/
theorem again (h : Surveyed succ size k (w, generation)) (hk : k < size)
    (hv : w.mark k ≠ .unvisited) : Surveyed succ size (k + 1) (w, generation) := by
  obtain ⟨r, hr, hpath⟩ : ∃ r < k, ReflTransGen (Arrow succ) r k := by
    by_contra hnone
    push Not at hnone
    exact hv ((h.unvisited k).2 ⟨hk, hnone⟩)
  refine { h with unvisited := fun u => ?_, count := ?_ }
  · rw [h.unvisited u]
    refine and_congr_right fun _ => ⟨fun hnone x hx hxu => ?_, fun hnone x hx => hnone x (by omega)⟩
    rcases Nat.lt_succ_iff_lt_or_eq.1 hx with hx | rfl
    · exact hnone x hx hxu
    · exact hnone r hr (hpath.trans hxu)
  · have hroot : root succ k ≠ k := fun heq => by
      have := root_le hpath
      omega
    rw [Nat.count_succ, if_neg hroot, Nat.add_zero, h.count]

/-- A node that was not visited yet is a root, and its generation is all that it leads to and no
other root has led to. -/
theorem root {w₁ : Visits} (hsucc : ∀ v, size ≤ v → succ v = [])
    (h : Surveyed succ size k (w, generation)) (hv : w.mark k = .unvisited)
    (hvisit : Visiting succ (generation + 1) [k] w w₁ n) :
    Surveyed succ size (k + 1) (w₁, generation + 1) := by
  have hext := hvisit.extended
  have hspread := hvisit.spread h.even
  obtain ⟨hk, hfirst⟩ := (h.unvisited k).1 hv
  have hroot : Graph.root succ k = k := by
    refine Nat.le_antisymm (root_le .refl) (Nat.le_of_not_lt fun hlt => ?_)
    exact hfirst _ hlt (root_reaches k)
  -- what has been visited before or now is closed under arrows, so all that `k` leads to is
  have hreached : ∀ u, ReflTransGen (Arrow succ) k u → w₁.mark u ≠ .unvisited := by
    intro u hpath
    induction hpath with
    | refl => exact hspread.started k (List.mem_singleton_self k)
    | @tail b c _ harrow ih =>
      by_cases hb : w.mark b = .unvisited
      · exact hspread.closed b hb ih c harrow
      · have hlt : b < size := by
          by_contra hge
          rw [Arrow, hsucc b (by omega)] at harrow
          cases harrow
        have hc : w.mark c ≠ .unvisited := by
          intro hc
          refine hb ((h.unvisited b).2 ⟨hlt, fun r hr hpath => ?_⟩)
          exact ((h.unvisited c).1 hc).2 r hr (hpath.tail harrow)
        rwa [hext.kept c hc]
  have hnew : ∀ u, w.mark u = .unvisited → w₁.mark u ≠ .unvisited → Graph.root succ u = k := by
    intro u hold hu
    obtain ⟨x, hx, hpath⟩ := hspread.reached u hold hu
    obtain rfl := List.mem_singleton.1 hx
    refine Nat.le_antisymm (root_le hpath) (Nat.le_of_not_lt fun hlt => ?_)
    exact ((h.unvisited u).1 hold).2 _ hlt (root_reaches u)
  refine ⟨hext.size.trans h.sized, hvisit.even h.even, fun u hu => h.idle u (hext.active hu),
    (hvisit.low h.low).1, ?_, ?_, ?_⟩
  · intro u
    constructor
    · intro hu
      have hold : w.mark u = .unvisited := mem_fresh.1 (hext.fresh_subset (mem_fresh.2 hu))
      obtain ⟨hlt, hnone⟩ := (h.unvisited u).1 hold
      refine ⟨hlt, fun r hr hpath => ?_⟩
      rcases Nat.lt_succ_iff_lt_or_eq.1 hr with hr | rfl
      · exact hnone r hr hpath
      · exact hreached u hpath hu
    · rintro ⟨hlt, hnone⟩
      have hold := (h.unvisited u).2 ⟨hlt, fun r hr => hnone r (by omega)⟩
      by_contra hu
      obtain ⟨x, hx, hpath⟩ := hspread.reached u hold hu
      exact hnone x (by simp [List.mem_singleton.1 hx]) hpath
  · rw [Nat.count_succ, if_pos hroot]
    exact congrArg (· + 1) h.count
  · intro u hlt hu
    by_cases hold : w.mark u = .unvisited
    · rw [hspread.fresh u hold hu, hnew u hold hu, ← h.count]
    · rw [hspread.kept u fun h => absurd h hold, h.generations u hlt hold]

theorem walked (hsucc : ∀ v, size ≤ v → succ v = []) {state state' : Visits × Nat} {count : Nat}
    (hwalk : Walked succ (List.range' k count) state state') (hcount : k + count = size)
    (h : Surveyed succ size k state) : Surveyed succ size size state' := by
  induction count generalizing k state with
  | zero =>
    cases hwalk
    obtain rfl : k = size := hcount
    exact h
  | succ count ih =>
    rw [List.range'_succ] at hwalk
    cases hwalk with
    | again hv hrest => exact ih hrest (by omega) (h.again (by omega) hv)
    | root hv hvisit hrest => exact ih hrest (by omega) (h.root hsucc hv hvisit)

end Surveyed

/-- What is known when all nodes have been visited, in a graph with circles or without. -/
theorem surveyed_visitAll {size : Nat} (hsucc : ∀ v, size ≤ v → succ v = []) :
    ∃ generations, Surveyed succ size size (visitAll succ size, generations) := by
  obtain ⟨generations, hwalk⟩ := walked_visitAll succ size
  rw [List.range_eq_range'] at hwalk
  exact ⟨generations, .walked hsucc hwalk (Nat.zero_add size) (surveyed_start succ size)⟩

theorem height_visitAll_le {size : Nat} (hsucc : ∀ v, size ≤ v → succ v = []) (v : Nat) :
    (visitAll succ size).height v ≤ size := by
  obtain ⟨_, h⟩ := surveyed_visitAll hsucc
  rw [Visits.height]
  split
  · rename_i i hi
    exact (h.low v i hi).trans ((card_settled_le _).trans h.sized.le)
  · exact Nat.zero_le _

theorem generation_visitAll {size : Nat} (hsucc : ∀ v, size ≤ v → succ v = []) {v : Nat}
    (hv : v < size) : (visitAll succ size).generations[v]? =
      some (Nat.count (fun r => root succ r = r) (root succ v) + 1) := by
  obtain ⟨_, h⟩ := surveyed_visitAll hsucc
  refine h.generations v hv fun hunvisited => ?_
  exact ((h.unvisited v).1 hunvisited).2 v hv .refl

end ModelLinker.Graph
