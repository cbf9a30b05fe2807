import Mathlib.Data.Finset.Card
import Mathlib.Dynamics.PeriodicPts.Defs
import Mathlib.Logic.Relation
import ModelLinker.Roles.Cycles

/-!
# Cutting all circles

A node of a table is on a circle if some steps upwards lead back to it. Looking as many steps upwards
as there are nodes finds every circle (`isOnCircle_iff`), because the shortest way around repeats no
node. A node that is cut comes to stand under the root, which has no parent, so cutting makes no new
circles; in the end there are none left, and only nodes of circles have changed their parents
(`cutCircles_spec`).
-/

namespace ModelLinker.Parents

open Relation

variable {t t' : Table} {root : Nat}

/-! ### steps upwards -/

/-- The second node is the parent of the first. -/
def Table.Up (t : Table) (a b : Nat) : Prop := t.parent a = some b

/-- A step upwards. From a node without a parent it leads nowhere. -/
def Table.climb (t : Table) (x : Option Nat) : Option Nat := x.bind t.parent

theorem climb_some (n : Nat) : t.climb (some n) = t.parent n := rfl

theorem iterate_climb_none (k : Nat) : t.climb^[k] none = none :=
  Function.iterate_fixed rfl k

theorem meets_iff {goal steps : Nat} {x : Option Nat} :
    t.meets goal steps x = true ↔ ∃ k < steps, t.climb^[k] x = some goal := by
  induction steps generalizing x with
  | zero => simp [Table.meets]
  | succ steps ih =>
    cases x with
    | none => simp [Table.meets, iterate_climb_none]
    | some n =>
      simp only [Table.meets, Bool.or_eq_true, beq_iff_eq, ih]
      constructor
      · rintro (rfl | ⟨k, hk, hgoal⟩)
        · exact ⟨0, Nat.succ_pos _, rfl⟩
        · exact ⟨k + 1, Nat.succ_lt_succ hk, hgoal⟩
      · rintro ⟨k, hk, hgoal⟩
        cases k with
        | zero => exact .inl (Option.some.inj hgoal)
        | succ k => exact .inr ⟨k, Nat.lt_of_succ_lt_succ hk, hgoal⟩

theorem transGen_up_iff {a b : Nat} :
    TransGen t.Up a b ↔ ∃ k, t.climb^[k + 1] (some a) = some b := by
  constructor
  · intro h
    induction h with
    | single hup => exact ⟨0, hup⟩
    | tail _ hup ih =>
      obtain ⟨k, hk⟩ := ih
      refine ⟨k + 1, ?_⟩
      rw [Function.iterate_succ_apply', hk]
      exact hup
  · rintro ⟨k, hk⟩
    induction k generalizing b with
    | zero => exact .single hk
    | succ k ih =>
      rw [Function.iterate_succ_apply'] at hk
      cases hc : t.climb^[k + 1] (some a) with
      | none =>
        rw [hc] at hk
        cases hk
      | some c =>
        rw [hc] at hk
        exact .tail (ih hc) hk

theorem parent_of_ge {n : Nat} (h : t.size ≤ n) : t.parent n = none := by
  simp [Table.parent, h]

/-- A table in which the root is a node without a parent, and all parents are nodes. -/
structure Table.Rooted (t : Table) (root : Nat) : Prop where
  inside : root < t.size
  top : t.parent root = none
  range : ∀ {n p}, t.parent n = some p → p < t.size

/-- The shortest way around a circle has no more steps than there are nodes. -/
theorem minimalPeriod_climb_le (h : t.Rooted root) {n : Nat}
    (hn : some n ∈ Function.periodicPts t.climb) :
    Function.minimalPeriod t.climb (some n) ≤ t.size := by
  have haround := Function.iterate_minimalPeriod (f := t.climb) (x := some n)
  have hpos := Function.minimalPeriod_pos_of_mem_periodicPts hn
  -- all that is met on the way are nodes, as the way leads on to the start
  have hnode : ∀ i < Function.minimalPeriod t.climb (some n), ∃ v < t.size,
      t.climb^[i] (some n) = some v := by
    intro i hi
    cases hv : t.climb^[i] (some n) with
    | none =>
      rw [← Nat.sub_add_cancel hi.le, Function.iterate_add_apply, hv,
        iterate_climb_none] at haround
      cases haround
    | some v =>
      refine ⟨v, ?_, rfl⟩
      have hnext : ∃ k, t.climb^[k + 1] (some n) = some v := by
        cases i with
        | zero =>
          refine ⟨Function.minimalPeriod t.climb (some n) - 1, ?_⟩
          rw [Nat.sub_add_cancel hpos, haround]
          exact hv
        | succ i => exact ⟨i, hv⟩
      obtain ⟨w, -, hw⟩ := TransGen.tail'_iff.1 (transGen_up_iff.2 hnext)
      exact h.range hw
  have hcard := Finset.card_le_card_of_injOn (s := Finset.range _)
    (t := (Finset.range t.size).image some) (fun i => t.climb^[i] (some n)) (by
      intro i hi
      obtain ⟨v, hv, heq⟩ := hnode i (by simpa using hi)
      simpa [heq] using hv)
    (by simpa using Function.iterate_injOn_Iio_minimalPeriod (f := t.climb) (x := some n))
  simpa [Finset.card_image_of_injective _ (Option.some_injective Nat)] using hcard

/-- A node is found to be on a circle exactly if it is its own ancestor. -/
theorem isOnCircle_iff (h : t.Rooted root) {n : Nat} :
    t.isOnCircle n = true ↔ TransGen t.Up n n := by
  rw [Table.isOnCircle, meets_iff, transGen_up_iff]
  constructor
  · rintro ⟨k, -, hk⟩
    exact ⟨k, hk⟩
  · rintro ⟨k, hk⟩
    have hn : some n ∈ Function.periodicPts t.climb := ⟨k + 1, Nat.succ_pos k, hk⟩
    have hpos := Function.minimalPeriod_pos_of_mem_periodicPts hn
    have hle := minimalPeriod_climb_le h hn
    refine ⟨Function.minimalPeriod t.climb (some n) - 1, by omega, ?_⟩
    rw [← climb_some, ← Function.iterate_succ_apply, Nat.succ_eq_add_one, Nat.sub_add_cancel hpos]
    exact Function.iterate_minimalPeriod

/-! ### cutting -/

/-- A table in which some nodes of circles were put under the root, without making new circles. -/
structure Table.CutFrom (root : Nat) (t t' : Table) : Prop where
  size : t'.size = t.size
  parent : ∀ n, t'.parent n = t.parent n ∨ t'.parent n = some root ∧ TransGen t.Up n n
  circle : ∀ n, TransGen t'.Up n n → TransGen t.Up n n

namespace Table.CutFrom

theorem refl : CutFrom root t t := ⟨rfl, fun _ => .inl rfl, fun _ => id⟩

theorem trans {t'' : Table} (h : CutFrom root t t') (h' : CutFrom root t' t'') :
    CutFrom root t t'' where
  size := h'.size.trans h.size
  parent n := by
    rcases h'.parent n with heq | ⟨heq, hcircle⟩
    · rw [heq]
      exact h.parent n
    · exact .inr ⟨heq, h.circle n hcircle⟩
  circle n hn := h.circle n (h'.circle n hn)

theorem rooted (h : CutFrom root t t') (hr : t.Rooted root) : t'.Rooted root where
  inside := h.size ▸ hr.inside
  top := by
    rcases h.parent root with heq | ⟨-, hcircle⟩
    · exact heq.trans hr.top
    · obtain ⟨p, hp, -⟩ := TransGen.head'_iff.1 hcircle
      exact absurd (hr.top.symm.trans hp) (by simp)
  range {n p} hp := by
    rw [h.size]
    rcases h.parent n with heq | ⟨heq, -⟩
    · exact hr.range (heq ▸ hp)
    · rw [heq] at hp
      exact Option.some.inj hp ▸ hr.inside

end Table.CutFrom

theorem parent_setIfInBounds (n m : Nat) (x : Option Nat) :
    Table.parent (t.setIfInBounds n x) m = if n = m ∧ n < t.size then x else t.parent m := by
  simp only [Table.parent, Array.getElem?_setIfInBounds]
  by_cases hnm : n = m
  · subst hnm
    by_cases hn : n < t.size <;> simp [hn]
  · simp [hnm]

/-- Nothing leads on from the root, so a way that comes to a node with a parent uses no arrow to the
root. -/
theorem transGen_of_set (h : t.Rooted root) {n a b : Nat} (hn : n ≠ root)
    (hpath : TransGen (Table.Up (t.setIfInBounds n (some root))) a b)
    (hb : ∃ c, Table.Up (t.setIfInBounds n (some root)) b c) : TransGen t.Up a b := by
  have htop : ∀ c, ¬ Table.Up (t.setIfInBounds n (some root)) root c := by
    intro c hc
    rw [Table.Up, parent_setIfInBounds, if_neg fun hroot => hn hroot.1, h.top] at hc
    cases hc
  have hkeep : ∀ {a c}, Table.Up (t.setIfInBounds n (some root)) a c → c ≠ root →
      t.Up a c := by
    intro a c hac hc
    rw [Table.Up, parent_setIfInBounds] at hac
    split at hac
    · exact absurd (Option.some.inj hac).symm hc
    · exact hac
  obtain ⟨c, hbc⟩ := hb
  have hb : b ≠ root := by
    rintro rfl
    exact htop c hbc
  induction hpath using TransGen.head_induction_on with
  | single hab => exact .single (hkeep hab hb)
  | head hac hcb ih =>
    refine .head (hkeep hac ?_) ih
    rintro rfl
    obtain ⟨d, hd, -⟩ := TransGen.head'_iff.1 hcb
    exact htop d hd

/-- Once a node is cut it is not on a circle, and all circles were there before. -/
theorem cutFrom_cut (h : t.Rooted root) (done : List Nat) (n : Nat) :
    t.CutFrom root (cut root (t, done) n).1 ∧
      ¬ TransGen (cut root (t, done) n).1.Up n n := by
  simp only [cut]
  cases hc : t.isOnCircle n with
  | false =>
    refine ⟨.refl, ?_⟩
    simp only [Bool.false_eq_true, if_false]
    rw [← isOnCircle_iff h, hc]
    exact Bool.false_ne_true
  | true =>
    simp only [if_true]
    have hcircle := (isOnCircle_iff h).1 hc
    obtain ⟨p, hp, -⟩ := TransGen.head'_iff.1 hcircle
    have hn : n ≠ root := by
      rintro rfl
      exact absurd (h.top.symm.trans hp) (by simp)
    have hinside : n < t.size := by
      by_contra hge
      exact absurd ((parent_of_ge (Nat.le_of_not_lt hge)).symm.trans hp) (by simp)
    refine ⟨⟨by simp, ?_, ?_⟩, ?_⟩
    · intro m
      rw [parent_setIfInBounds]
      split
      · rename_i hnm
        exact .inr ⟨rfl, hnm.1 ▸ hcircle⟩
      · exact .inl rfl
    · intro m hm
      obtain ⟨c, hc, -⟩ := TransGen.head'_iff.1 hm
      exact transGen_of_set h hn hm ⟨c, hc⟩
    · intro hm
      obtain ⟨c, hc, hrest⟩ := TransGen.head'_iff.1 hm
      rw [Table.Up, parent_setIfInBounds, if_pos ⟨rfl, hinside⟩] at hc
      obtain rfl := Option.some.inj hc
      -- the way around would have to lead on from the root
      rcases ReflTransGen.cases_head hrest with heq | ⟨d, hd, -⟩
      · exact hn heq.symm
      · rw [Table.Up, parent_setIfInBounds, if_neg fun hroot => hn hroot.1, h.top] at hd
        cases hd

theorem cutFrom_foldl_cut (h : t.Rooted root) (ns done : List Nat) :
    t.CutFrom root (ns.foldl (cut root) (t, done)).1 ∧
      ∀ n ∈ ns, ¬ TransGen (ns.foldl (cut root) (t, done)).1.Up n n := by
  induction ns generalizing t done with
  | nil => exact ⟨.refl, by simp⟩
  | cons n rest ih =>
    obtain ⟨hcut, hn⟩ := cutFrom_cut h done n
    obtain ⟨hrest, hns⟩ := @ih (cut root (t, done) n).1 (hcut.rooted h) (cut root (t, done) n).2
    refine ⟨hcut.trans hrest, ?_⟩
    intro m hm
    rcases List.mem_cons.1 hm with rfl | hm
    · exact fun hcircle => hn (hrest.circle m hcircle)
    · exact hns m hm

/-- Cutting leaves no circles, and changes nothing but the parents of nodes on circles. -/
theorem cutCircles_spec (h : t.Rooted root) :
    t.CutFrom root (cutCircles root t).1 ∧ ∀ n, ¬ TransGen (cutCircles root t).1.Up n n := by
  obtain ⟨hcut, hnodes⟩ := cutFrom_foldl_cut h (List.range t.size) []
  refine ⟨hcut, fun n hn => ?_⟩
  rcases Nat.lt_or_ge n t.size with hlt | hge
  · exact hnodes n (List.mem_range.2 hlt) hn
  · obtain ⟨p, hp, -⟩ := TransGen.head'_iff.1 hn
    have hnone : (cutCircles root t).1.parent n = none := parent_of_ge (hcut.size ▸ hge)
    exact absurd (hnone.symm.trans hp) (by simp)

end ModelLinker.Parents
