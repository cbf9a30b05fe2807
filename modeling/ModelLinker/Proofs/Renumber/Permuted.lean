import Mathlib.Data.List.Nodup
import Mathlib.Data.List.Perm.Basic
import Mathlib.Logic.Equiv.Basic
import Mathlib.Logic.Function.Basic

/-!
# Arrays with their items in another order

`Permuted R σ xs ys` says that a permutation of the numbers takes every item of one array to an item
of the other that it is related to. What is found in the one array, item by item, is then found in
the other, in some order (`Permuted.flatMap_zipIdx`).
-/

namespace ModelLinker

/-! ### permutations of numbers -/

/-- A permutation of the numbers from one on; zero stays. -/
def shiftPerm (σ : Equiv.Perm ℕ) : Equiv.Perm ℕ where
  toFun
    | 0 => 0
    | n + 1 => σ n + 1
  invFun
    | 0 => 0
    | n + 1 => σ.symm n + 1
  left_inv n := by cases n <;> simp
  right_inv n := by cases n <;> simp

/-- Lists that are permutations of one another have the same items at numbers that a permutation
takes to one another. -/
theorem exists_perm_getElem? {α : Type} {l l' : List α} (h : l.Perm l') :
    ∃ σ : Equiv.Perm ℕ, ∀ i, l'[σ i]? = l[i]? := by
  induction h with
  | nil => exact ⟨.refl ℕ, fun i => rfl⟩
  | cons a _ ih =>
    obtain ⟨σ, hσ⟩ := ih
    refine ⟨shiftPerm σ, fun i => ?_⟩
    cases i with
    | zero => rfl
    | succ n => exact hσ n
  | swap a b l =>
    refine ⟨Equiv.swap 0 1, fun i => ?_⟩
    match i with
    | 0 => simp
    | 1 => simp
    | n + 2 => simp [Equiv.swap_apply_of_ne_of_ne]
  | trans _ _ ih₁ ih₂ =>
    obtain ⟨σ, hσ⟩ := ih₁
    obtain ⟨τ, hτ⟩ := ih₂
    exact ⟨σ.trans τ, fun i => (hτ (σ i)).trans (hσ i)⟩

/-! ### permuted arrays -/

/-- Every item of the first array is related to the item that the permutation takes it to. -/
def Permuted {α β : Type} (R : α → β → Prop) (σ : Equiv.Perm ℕ) (xs : Array α) (ys : Array β) :
    Prop :=
  ∀ i, Option.Rel R xs[i]? ys[σ i]?

namespace Permuted

variable {α β γ δ : Type} {R : α → β → Prop} {S : γ → δ → Prop} {σ : Equiv.Perm ℕ} {xs : Array α}
  {ys : Array β}

theorem some (h : Permuted R σ xs ys) {i : ℕ} {x : α} (hx : xs[i]? = some x) :
    ∃ y, ys[σ i]? = some y ∧ R x y := by
  have := h i
  rw [hx] at this
  cases hy : ys[σ i]? with
  | none =>
    rw [hy] at this
    cases this
  | some y =>
    rw [hy] at this
    cases this with
    | some hr => exact ⟨y, rfl, hr⟩

theorem none (h : Permuted R σ xs ys) {i : ℕ} (hx : xs[i]? = .none) : ys[σ i]? = .none := by
  have := h i
  rw [hx] at this
  cases hy : ys[σ i]? with
  | none => rfl
  | some y =>
    rw [hy] at this
    cases this

/-- Every item of the second array comes from an item of the first. -/
theorem some' (h : Permuted R σ xs ys) {j : ℕ} {y : β} (hy : ys[j]? = .some y) :
    ∃ i x, σ i = j ∧ xs[i]? = .some x ∧ R x y := by
  refine ⟨σ.symm j, ?_⟩
  cases hx : xs[σ.symm j]? with
  | none =>
    have := h.none hx
    rw [σ.apply_symm_apply, hy] at this
    cases this
  | some x =>
    obtain ⟨y', hy', hr⟩ := h.some hx
    rw [σ.apply_symm_apply, hy, Option.some.injEq] at hy'
    exact ⟨x, σ.apply_symm_apply j, rfl, hy' ▸ hr⟩

theorem of_some (h : ∀ i x, xs[i]? = .some x → ∃ y, ys[σ i]? = .some y ∧ R x y)
    (h' : ∀ i, xs[i]? = .none → ys[σ i]? = .none) : Permuted R σ xs ys := by
  intro i
  cases hx : xs[i]? with
  | none =>
    rw [h' i hx]
    exact .none
  | some x =>
    obtain ⟨y, hy, hr⟩ := h i x hx
    rw [hy]
    exact .some hr

theorem lt_iff (h : Permuted R σ xs ys) {i : ℕ} : σ i < ys.size ↔ i < xs.size := by
  constructor
  · intro hi
    rcases Nat.lt_or_ge i xs.size with hlt | hge
    · exact hlt
    · have := h.none (Array.getElem?_eq_none hge)
      rw [Array.getElem?_eq_getElem hi] at this
      cases this
  · intro hi
    obtain ⟨y, hy, -⟩ := h.some (Array.getElem?_eq_getElem hi)
    exact (Array.getElem?_eq_some_iff.1 hy).1

/-- The numbers of both arrays are the same up to their order. -/
theorem range_perm (h : Permuted R σ xs ys) :
    (List.range ys.size).Perm ((List.range xs.size).map σ) := by
  rw [List.perm_ext_iff_of_nodup List.nodup_range (List.Nodup.map σ.injective List.nodup_range)]
  intro j
  simp only [List.mem_range, List.mem_map]
  constructor
  · intro hj
    exact ⟨σ.symm j, h.lt_iff.1 (by rwa [σ.apply_symm_apply]), σ.apply_symm_apply j⟩
  · rintro ⟨i, hi, rfl⟩
    exact h.lt_iff.2 hi

theorem size (h : Permuted R σ xs ys) : ys.size = xs.size := by
  simpa using h.range_perm.length_eq

/-- The same change, made in both arrays. -/
theorem mapIdx (h : Permuted R σ xs ys) {f : ℕ → α → γ} {g : ℕ → β → δ}
    (hfg : ∀ i x y, xs[i]? = .some x → ys[σ i]? = .some y → R x y → S (f i x) (g (σ i) y)) :
    Permuted S σ (xs.mapIdx f) (ys.mapIdx g) := by
  refine of_some ?_ ?_
  · intro i z hz
    rw [Array.getElem?_mapIdx, Option.map_eq_some_iff] at hz
    obtain ⟨x, hx, rfl⟩ := hz
    obtain ⟨y, hy, hr⟩ := h.some hx
    exact ⟨g (σ i) y, by rw [Array.getElem?_mapIdx, hy]; rfl, hfg i x y hx hy hr⟩
  · intro i hi
    rw [Array.getElem?_mapIdx, Option.map_eq_none_iff] at hi ⊢
    exact h.none hi

theorem map (h : Permuted R σ xs ys) {f : α → γ} {g : β → δ}
    (hfg : ∀ x y, x ∈ xs → y ∈ ys → R x y → S (f x) (g y)) :
    Permuted S σ (xs.map f) (ys.map g) := by
  have := h.mapIdx (S := S) (f := fun _ x => f x) (g := fun _ y => g y)
    fun i x y hx hy => hfg x y (Array.mem_of_getElem? hx) (Array.mem_of_getElem? hy)
  intro i
  have := this i
  rwa [Array.getElem?_mapIdx, Array.getElem?_mapIdx, ← Array.getElem?_map,
    ← Array.getElem?_map] at this

/-! ### what is found in permuted arrays -/

theorem flatMap_zipIdx_eq (xs : Array α) (f : α × ℕ → List γ) :
    xs.toList.zipIdx.flatMap f = (List.range xs.size).flatMap fun i =>
      xs[i]?.toList.flatMap fun x => f (x, i) := by
  have key : ∀ (l : List α) (k : ℕ), (l.zipIdx k).flatMap f =
      (List.range l.length).flatMap fun i => l[i]?.toList.flatMap fun x => f (x, k + i) := by
    intro l
    induction l with
    | nil => simp
    | cons a rest ih =>
      intro k
      rw [List.zipIdx_cons, List.flatMap_cons, ih, List.length_cons, List.range_succ_eq_map,
        List.flatMap_cons, List.flatMap_map]
      simp [Nat.add_assoc, Nat.add_comm 1]
  simpa using key xs.toList 0

/-- If related items give the same, both arrays give the same, in some order. -/
theorem flatMap_zipIdx (h : Permuted R σ xs ys) {f : α × ℕ → List γ} {g : β × ℕ → List γ}
    (hfg : ∀ i x y, xs[i]? = .some x → ys[σ i]? = .some y → R x y →
      (g (y, σ i)).Perm (f (x, i))) :
    (ys.toList.zipIdx.flatMap g).Perm (xs.toList.zipIdx.flatMap f) := by
  rw [flatMap_zipIdx_eq, flatMap_zipIdx_eq]
  refine (h.range_perm.flatMap_right _).trans ?_
  rw [List.flatMap_map]
  refine List.Perm.flatMap_left _ fun i _ => ?_
  cases hx : xs[i]? with
  | none => simp [h.none hx]
  | some x =>
    obtain ⟨y, hy, hr⟩ := h.some hx
    simpa [hy] using hfg i x y hx hy hr

theorem flatMap_toList (h : Permuted R σ xs ys) {f : α → List γ} {g : β → List γ}
    (hfg : ∀ x y, x ∈ xs → y ∈ ys → R x y → (g y).Perm (f x)) :
    (ys.toList.flatMap g).Perm (xs.toList.flatMap f) := by
  have key : ∀ {α : Type} (l : List α) (f : α → List γ),
      l.flatMap f = l.zipIdx.flatMap fun x => f x.1 := by
    intro α l f
    conv_lhs => rw [← List.zipIdx_map_fst 0 l]
    rw [List.flatMap_map]
  rw [key, key xs.toList]
  exact h.flatMap_zipIdx fun i x y hx hy hr =>
    hfg x y (Array.mem_of_getElem? hx) (Array.mem_of_getElem? hy) hr

end Permuted

end ModelLinker
