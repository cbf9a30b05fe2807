import Mathlib.Data.List.Forall2

/-!
# Steps that may fail

What is known of steps taken one after another, or of one step for every item of a list, if they
succeed, and if they fail.
-/

namespace ModelLinker

open List (Forall₂)

section Steps

variable {ε α β : Type}

theorem map_eq_ok_iff {x : Except ε α} {f : α → β} {b : β} :
    x.map f = .ok b ↔ ∃ a, x = .ok a ∧ f a = b := by
  cases x <;> simp [Except.map]

theorem map_eq_error_iff {x : Except ε α} {f : α → β} {e : ε} :
    x.map f = .error e ↔ x = .error e := by
  cases x <;> simp [Except.map]

theorem bind_eq_ok_iff {x : Except ε α} {f : α → Except ε β} {b : β} :
    x >>= f = .ok b ↔ ∃ a, x = .ok a ∧ f a = .ok b := by
  cases x <;> simp [bind, Except.bind]

theorem bind_eq_error_iff {x : Except ε α} {f : α → Except ε β} {e : ε} :
    x >>= f = .error e ↔ x = .error e ∨ ∃ a, x = .ok a ∧ f a = .error e := by
  cases x <;> simp [bind, Except.bind]

/-! ### a step for every item -/

section Items

variable {f : α → Except ε β} {xs : List α}

theorem mapM_eq_ok_iff {ys : List β} :
    xs.mapM f = .ok ys ↔ Forall₂ (fun x y => f x = .ok y) xs ys := by
  induction xs generalizing ys with
  | nil =>
    rw [List.mapM_nil, List.forall₂_nil_left_iff]
    exact ⟨fun h => (Except.ok.inj h).symm, fun h => congrArg Except.ok h.symm⟩
  | cons x xs ih =>
    simp only [List.mapM_cons, bind_eq_ok_iff, List.forall₂_cons_left_iff, ih]
    constructor
    · rintro ⟨y, hy, ys, hys, ⟨⟩⟩
      exact ⟨y, ys, hy, hys, rfl⟩
    · rintro ⟨y, ys, hy, hys, rfl⟩
      exact ⟨y, hy, ys, hys, rfl⟩

theorem mapM_congr {g : α → Except ε β} (h : ∀ x ∈ xs, f x = g x) : xs.mapM f = xs.mapM g := by
  induction xs with
  | nil => rfl
  | cons x xs ih =>
    obtain ⟨hx, hxs⟩ := List.forall_mem_cons.1 h
    rw [List.mapM_cons, List.mapM_cons, hx, ih hxs]

/-- If not all of the items succeed then one of them fails. -/
theorem exists_of_mapM_eq_error {e : ε} (h : xs.mapM f = .error e) : ∃ x ∈ xs, f x = .error e := by
  induction xs with
  | nil => cases h
  | cons x xs ih =>
    rw [List.mapM_cons, bind_eq_error_iff] at h
    rcases h with hx | ⟨y, -, h⟩
    · exact ⟨x, List.mem_cons_self, hx⟩
    rcases bind_eq_error_iff.1 h with hxs | ⟨ys, -, ⟨⟩⟩
    obtain ⟨x', hx', hfail⟩ := ih hxs
    exact ⟨x', List.mem_cons_of_mem _ hx', hfail⟩

end Items

/-! ### one step after another -/

section Run

variable {step : α → β → Except ε α} {xs : List β} {a : α}

/-- What every step keeps is kept by all of them. -/
theorem foldlM_invariant (P : α → Prop) {b : α} (ha : P a)
    (hstep : ∀ x ∈ xs, ∀ {a b}, P a → step a x = .ok b → P b)
    (h : xs.foldlM step a = .ok b) : P b := by
  induction xs generalizing a with
  | nil =>
    obtain rfl := Except.ok.inj h
    exact ha
  | cons x xs ih =>
    obtain ⟨hx, hxs⟩ := List.forall_mem_cons.1 hstep
    rw [List.foldlM_cons, bind_eq_ok_iff] at h
    obtain ⟨a', hfirst, hrest⟩ := h
    exact ih (hx ha hfirst) hxs hrest

/-- If the steps fail then one of them does. -/
theorem exists_of_foldlM_eq_error {e : ε} (h : xs.foldlM step a = .error e) :
    ∃ x ∈ xs, ∃ a, step a x = .error e := by
  induction xs generalizing a with
  | nil => cases h
  | cons x xs ih =>
    rw [List.foldlM_cons, bind_eq_error_iff] at h
    rcases h with hfirst | ⟨a', -, hrest⟩
    · exact ⟨x, List.mem_cons_self, a, hfirst⟩
    · obtain ⟨x', hx', hfail⟩ := ih hrest
      exact ⟨x', List.mem_cons_of_mem _ hx', hfail⟩

end Run

end Steps

end ModelLinker
