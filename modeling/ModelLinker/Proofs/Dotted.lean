import ModelLinker.Text.Dotted
import ModelLinker.Text.Fold
import Mathlib.Data.List.Basic

/-!
# Dotted texts

Names without dots can be read back from the text in which they are joined by dots
(`pieces_joinDots`), so such texts are the same exactly if the names are, one by one
(`sameName_joinDots`). With dots in names this fails: `a.b` is one name or two.
-/

namespace ModelLinker.Text

/-! ### pieces -/

theorem pieces_of_dotless {cs : List Char} (h : '.' ∉ cs) : pieces cs = [cs] := by
  induction cs with
  | nil => rfl
  | cons c cs ih =>
    simp only [List.mem_cons, not_or] at h
    obtain ⟨hc, hcs⟩ := h
    rw [pieces, if_neg (Ne.symm hc), ih hcs]

theorem pieces_append {cs : List Char} (h : '.' ∉ cs) (rest : List Char) :
    pieces (cs ++ '.' :: rest) = cs :: pieces rest := by
  induction cs with
  | nil => rfl
  | cons c cs ih =>
    simp only [List.mem_cons, not_or] at h
    obtain ⟨hc, hcs⟩ := h
    rw [List.cons_append, pieces, if_neg (Ne.symm hc), ih hcs]

/-- The names are the pieces of the text in which they are joined. -/
theorem pieces_joinDots {names : List String} (hne : names ≠ [])
    (h : ∀ n ∈ names, '.' ∉ n.toList) :
    pieces (joinDots names).toList = names.map String.toList := by
  induction names with
  | nil => exact absurd rfl hne
  | cons n rest ih =>
    obtain ⟨hn, hrest⟩ := List.forall_mem_cons.1 h
    cases rest with
    | nil => simpa [joinDots] using pieces_of_dotless hn
    | cons n' rest =>
      have hdot : (joinDots (n :: n' :: rest)).toList =
          n.toList ++ '.' :: (joinDots (n' :: rest)).toList := by
        rw [joinDots, String.intercalate_cons_cons]
        simp [joinDots]
      rw [hdot, pieces_append hn, ih (List.cons_ne_nil _ _) hrest]
      rfl

/-! ### the case of letters -/

/-- No other character is folded to a dot. -/
theorem toLower_eq_dot {c : Char} : c.toLower = '.' ↔ c = '.' := by
  unfold Char.toLower
  split
  · rename_i hcapital
    constructor
    · intro hdot
      have hlow : 65 ≤ c.toNat := by simpa using UInt32.le_iff_toNat_le.1 hcapital.1
      have hhigh : c.toNat ≤ 90 := by simpa using UInt32.le_iff_toNat_le.1 hcapital.2
      have hval : (c.toNat + 32) % 2 ^ 32 = 46 := by
        simpa [UInt32.toNat_add] using congrArg (fun c : Char => c.val.toNat) hdot
      omega
    · rintro rfl
      simp at hcapital
  · rfl

theorem dot_mem_fold {s : String} : '.' ∈ (fold s).toList ↔ '.' ∈ s.toList := by
  simp [fold, toLower_eq_dot]

theorem fold_append (a b : String) : fold (a ++ b) = fold a ++ fold b := by
  simp [fold]

/-- Folding leaves the dots where they are. -/
theorem fold_joinDots (names : List String) : fold (joinDots names) = joinDots (names.map fold) := by
  induction names with
  | nil => rfl
  | cons n rest ih =>
    cases rest with
    | nil => simp [joinDots]
    | cons n' rest =>
      rw [joinDots, String.intercalate_cons_cons, fold_append, fold_append, ← joinDots, ih]
      exact String.intercalate_cons_cons.symm

/-- Texts of dotless names are the same exactly if their names are, one by one. -/
theorem sameName_joinDots {names names' : List String} (hne : names ≠ []) (hne' : names' ≠ [])
    (h : ∀ n ∈ names, '.' ∉ n.toList) (h' : ∀ n ∈ names', '.' ∉ n.toList) :
    sameName (joinDots names) (joinDots names') = true ↔ names.map fold = names'.map fold := by
  rw [sameName_iff, fold_joinDots, fold_joinDots]
  refine ⟨fun heq => ?_, fun heq => by rw [heq]⟩
  have hdotless : ∀ names : List String, (∀ n ∈ names, '.' ∉ n.toList) →
      ∀ n ∈ names.map fold, '.' ∉ n.toList := by
    intro names h _ hmem
    obtain ⟨n, hn, rfl⟩ := List.mem_map.1 hmem
    rw [dot_mem_fold]
    exact h n hn
  have hpieces : pieces (joinDots (names.map fold)).toList =
      pieces (joinDots (names'.map fold)).toList := by rw [heq]
  rw [pieces_joinDots (by simpa using hne) (hdotless _ h),
    pieces_joinDots (by simpa using hne') (hdotless _ h')] at hpieces
  exact List.map_injective_iff.2 (fun a b hab => String.toList_inj.1 hab) hpieces

end ModelLinker.Text
