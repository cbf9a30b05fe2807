import Mathlib.Data.List.Forall2
import Mathlib.Data.List.Induction
import ModelLinker.Binding.Values

/-!
# One diagnostic for each

Most stages of linking go through things in a row and report those that are not in order, each of
them once. `Diagnostics.OneEach` says so of some diagnostics: there is one for every number of a
kind, in the order of the numbers.
-/

namespace ModelLinker

open List (Forall₂)
open Text (sameName)

/-! ### items with those before them -/

theorem withEarlier_eq_flatMap {α β : Type} (f : List α → α → List β) (earlier xs : List α) :
    withEarlier f earlier xs =
      (xs.zipIdx earlier.length).flatMap fun e => f ((earlier ++ xs).take e.2) e.1 := by
  induction xs generalizing earlier with
  | nil => rfl
  | cons x rest ih =>
    have hrest := ih (earlier ++ [x])
    rw [List.length_append, List.append_assoc] at hrest
    rw [withEarlier, hrest, List.zipIdx_cons, List.flatMap_cons, List.take_left]
    rfl

theorem withEarlier_append {α β : Type} (f : List α → α → List β) (earlier xs ys : List α) :
    withEarlier f earlier (xs ++ ys) =
      withEarlier f earlier xs ++ withEarlier f (earlier ++ xs) ys := by
  induction xs generalizing earlier with
  | nil => simp [withEarlier]
  | cons x rest ih => simp [withEarlier, ih]

/-- Items that make no difference may be left out at the start. -/
theorem withEarlier_append_left {α β : Type} {f : List α → α → List β} {before earlier xs : List α}
    (h : ∀ earlier, ∀ x ∈ xs, f (before ++ earlier) x = f earlier x) :
    withEarlier f (before ++ earlier) xs = withEarlier f earlier xs := by
  induction xs generalizing earlier with
  | nil => rfl
  | cons x rest ih =>
    obtain ⟨hx, hrest⟩ := forall_and.1 fun earlier => List.forall_mem_cons.1 (h earlier)
    rw [withEarlier, hx, List.append_assoc, ih hrest, withEarlier]

/-- What every item is checked for against the items before it holds of all pairs of items. -/
theorem pairwise_of_withEarlier {α : Type} {f : List α → α → Diagnostics} {R : α → α → Prop}
    (hf : ∀ earlier x, Diagnostics.isOk (f earlier x) = true → ∀ y ∈ earlier, R y x)
    {earlier xs : List α} (h : Diagnostics.isOk (withEarlier f earlier xs) = true) :
    (∀ y ∈ earlier, ∀ x ∈ xs, R y x) ∧ xs.Pairwise R := by
  induction xs generalizing earlier with
  | nil => simp
  | cons x rest ih =>
    rw [withEarlier, Diagnostics.isOk_append, Bool.and_eq_true] at h
    obtain ⟨hbefore, hafter⟩ := ih h.2
    have hx := hf earlier x h.1
    refine ⟨?_, List.pairwise_cons.2 ⟨fun y hy => ?_, hafter⟩⟩
    · intro y hy z hz
      rcases List.mem_cons.1 hz with rfl | hz
      · exact hx y hy
      · exact hbefore y (List.mem_append_left _ hy) z hz
    · exact hbefore x (List.mem_append_right _ (List.mem_singleton_self x)) y hy

/-- Every item is checked, each with the items before it. -/
theorem isOk_of_withEarlier {α : Type} {f : List α → α → Diagnostics} {xs : List α}
    (h : Diagnostics.isOk (withEarlier f [] xs) = true) {x : α} (hx : x ∈ xs) :
    ∃ earlier, Diagnostics.isOk (f earlier x) = true := by
  rw [withEarlier_eq_flatMap, Diagnostics.isOk_flatMap] at h
  obtain ⟨n, hn⟩ := List.mem_iff_getElem?.1 hx
  exact ⟨_, h (x, n) (List.mem_zipIdx_iff_getElem?.2 hn)⟩

/-- An error that some items would give is not reported, so there are none of them. -/
theorem eq_false_of_isOk_ite {α : Type} {test : α → Bool} {xs : List α} {c : Cause} {pos : Pos}
    (hc : c.severity ≠ .warning)
    (h : Diagnostics.isOk (if xs.any test then [c.at pos] else []) = true) :
    ∀ y ∈ xs, test y = false := by
  have hany : xs.any test = false := by
    rw [← Bool.not_eq_true]
    intro hany
    rw [if_pos hany, Diagnostics.isOk_cons, Diagnostics.isError_at, bne_iff_ne.2 hc] at h
    cases h
  simpa using hany

/-- An item of an enumeration without problems repeats no name and no value of the items before. -/
theorem Enumeration.ne_of_isOk {e : Enumeration} {earlier : List EnumItem} {x : EnumItem}
    (h : Diagnostics.isOk (e.itemProblems earlier x) = true) :
    ∀ y ∈ earlier, sameName y.name x.name = false ∧ y.value ≠ x.value := by
  intro y hy
  rw [itemProblems, Diagnostics.isOk_append, Bool.and_eq_true] at h
  exact ⟨eq_false_of_isOk_ite (by simp) h.1 y hy,
    ne_of_beq_false (eq_false_of_isOk_ite (by simp) h.2 y hy)⟩

/-! ### reports -/

namespace Diagnostics

/-- There is one diagnostic for every number of a kind, in the order of the numbers, and each says
of its number what it should. -/
def OneEach (ds : Diagnostics) (Bad : Nat → Prop) (Says : Nat → Diagnostic → Prop) : Prop :=
  ∃ ns : List Nat, ns.Pairwise (· < ·) ∧ (∀ n, n ∈ ns ↔ Bad n) ∧ Forall₂ Says ns ds

variable {ds : Diagnostics} {Bad Bad' : Nat → Prop} {Says : Nat → Diagnostic → Prop}

theorem OneEach.congr (h : ds.OneEach Bad Says) (hbad : ∀ n, Bad n ↔ Bad' n) :
    ds.OneEach Bad' Says := by
  obtain ⟨ns, hlt, hns, hreport⟩ := h
  exact ⟨ns, hlt, fun n => (hns n).trans (hbad n), hreport⟩

theorem OneEach.imp {Says' : Nat → Diagnostic → Prop} (h : ds.OneEach Bad Says)
    (hreport : ∀ n d, Says n d → Says' n d) : ds.OneEach Bad Says' := by
  obtain ⟨ns, hlt, hns, hall⟩ := h
  exact ⟨ns, hlt, hns, hall.imp hreport⟩

theorem oneEach_nil : OneEach [] (fun _ => False) Says := ⟨[], .nil, by simp, .nil⟩

/-- One more report, of a greater number. -/
theorem OneEach.concat (h : ds.OneEach Bad Says) {n : Nat} {d : Diagnostic}
    (hlt : ∀ k, Bad k → k < n) (hd : Says n d) :
    OneEach (ds ++ [d]) (fun k => Bad k ∨ k = n) Says := by
  obtain ⟨ns, hpairwise, hns, hreport⟩ := h
  refine ⟨ns ++ [n], ?_, ?_, List.rel_append hreport (.cons hd .nil)⟩
  · rw [List.pairwise_append]
    refine ⟨hpairwise, List.pairwise_singleton _ _, fun k hk l hl => ?_⟩
    rw [List.mem_singleton.1 hl]
    exact hlt k ((hns k).1 hk)
  · intro k
    rw [List.mem_append, List.mem_singleton, hns]

/-- What is found in a row, if every item of a kind gives one report, and every other one none. -/
theorem oneEach_zipIdx {α : Type} {f : α × Nat → Diagnostics} {P : Nat → α → Prop} {xs : List α}
    (h : ∀ {n x}, xs[n]? = some x →
      P n x ∧ (∃ d, f (x, n) = [d] ∧ Says n d) ∨ ¬ P n x ∧ f (x, n) = []) :
    OneEach (xs.zipIdx.flatMap f) (fun n => ∃ x, xs[n]? = some x ∧ P n x) Says := by
  induction xs using List.reverseRecOn with
  | nil => exact oneEach_nil.congr (by simp)
  | append_singleton xs x ih =>
    have hlast : (xs ++ [x])[xs.length]? = some x := List.getElem?_concat_length
    have hinit := ih fun {n y} hn =>
      h ((List.getElem?_append_left (List.getElem?_eq_some_iff.1 hn).1).trans hn)
    have hbad : ∀ n, (∃ y, (xs ++ [x])[n]? = some y ∧ P n y) ↔
        (∃ y, xs[n]? = some y ∧ P n y) ∨ n = xs.length ∧ P n x := by
      intro n
      rcases Nat.lt_trichotomy n xs.length with hn | rfl | hn
      · simp [List.getElem?_append_left hn, Nat.ne_of_lt hn]
      · simp
      · have : ¬ n < xs.length + 1 := by omega
        simp [List.getElem?_append, Nat.not_lt_of_gt hn, Nat.ne_of_gt hn,
          Nat.sub_ne_zero_of_lt hn]
    rw [List.zipIdx_append, List.flatMap_append]
    simp only [Nat.zero_add, List.zipIdx_cons, List.zipIdx_nil, List.flatMap_singleton]
    rcases h hlast with ⟨hp, d, hd, hreport⟩ | ⟨hp, hd⟩
    · rw [hd]
      refine (hinit.concat (fun k hk => ?_) hreport).congr ?_
      · obtain ⟨y, hy, -⟩ := hk
        exact (List.getElem?_eq_some_iff.1 hy).1
      · intro n
        rw [hbad]
        exact or_congr Iff.rfl ⟨fun hn => ⟨hn, hn ▸ hp⟩, And.left⟩
    · rw [hd, List.append_nil]
      refine hinit.congr ?_
      intro n
      rw [hbad]
      exact ⟨.inl, fun hn => hn.resolve_right fun ⟨hn, hpn⟩ => hp (hn ▸ hpn)⟩

/-- What is found in a row by a test of every item. -/
theorem oneEach_ite {α : Type} (xs : List α) (test : Nat → α → Bool) (report : α → Diagnostic) :
    OneEach (xs.zipIdx.flatMap fun e => if test e.2 e.1 then [report e.1] else [])
      (fun n => ∃ x, xs[n]? = some x ∧ test n x = true)
      (fun n d => ∃ x, xs[n]? = some x ∧ d = report x) := by
  refine oneEach_zipIdx fun {n x} hx => ?_
  dsimp only
  cases htest : test n x with
  | true => exact .inl ⟨rfl, report x, if_pos rfl, x, hx, rfl⟩
  | false => exact .inr ⟨Bool.false_ne_true, if_neg Bool.false_ne_true⟩

end Diagnostics

end ModelLinker
