import Mathlib.Data.List.DropRight
import ModelLinker.Proofs.Dotted

/-!
# Pieces of dotted texts

A dotted text is cut at all of its dots, and every piece is trimmed (`Text.parsePath?_eq_some`). A
target is cut at its first dot only, and a second dot is refused; it is read exactly if the path of
the same text has two names, and these are the halves (`Text.parseTarget?_eq_some`).
-/

namespace ModelLinker.Text

open List (Forall₂)

/-! ### trimming -/

/-- There is a character that is not blank. -/
def HasInk (cs : List Char) : Prop := ∃ c ∈ cs, isBlank c = false

/-- There is no blank at either end. -/
structure Tight (cs : List Char) : Prop where
  first : ∀ c ∈ cs.head?, isBlank c = false
  last : ∀ c ∈ cs.getLast?, isBlank c = false

/-- The second text is the first one without the blanks at both ends. -/
structure Trims (cs name : List Char) : Prop where
  inside : ∃ before after, cs = before ++ name ++ after ∧ (∀ c ∈ before, isBlank c = true) ∧
    ∀ c ∈ after, isBlank c = true
  tight : Tight name

theorem trimChars_eq (cs : List Char) :
    trimChars cs = (cs.dropWhile isBlank).rdropWhile isBlank := rfl

theorem Tight.reverse {cs : List Char} (h : Tight cs) : Tight cs.reverse where
  first := by simpa using h.last
  last := by simpa using h.first

theorem Tight.dropWhile {cs : List Char} (h : Tight cs) : cs.dropWhile isBlank = cs := by
  cases cs with
  | nil => rfl
  | cons c cs => rw [List.dropWhile_cons_of_neg (by simp [h.first c rfl])]

theorem tight_trimChars (cs : List Char) : Tight (trimChars cs) where
  first c hc := by
    -- what is left after the end is cut begins as before
    obtain ⟨after, hafter⟩ := List.rdropWhile_prefix isBlank (cs.dropWhile isBlank)
    replace hc : ((cs.dropWhile isBlank).rdropWhile isBlank).head? = some c := hc
    have hfirst : (cs.dropWhile isBlank).head? = some c := by
      rw [← hafter, List.head?_append, hc, Option.some_or]
    have hnot := List.head?_dropWhile_not isBlank cs
    rw [hfirst] at hnot
    exact hnot
  last c hc := by
    have hnot := List.head?_dropWhile_not isBlank (cs.dropWhile isBlank).reverse
    rw [trimChars_eq, List.rdropWhile, List.getLast?_reverse, Option.mem_def] at hc
    rw [hc] at hnot
    exact hnot

theorem trims_trimChars (cs : List Char) : Trims cs (trimChars cs) where
  inside := by
    refine ⟨cs.takeWhile isBlank, (cs.dropWhile isBlank).rtakeWhile isBlank, ?_,
      fun c => List.mem_takeWhile_imp, fun c => List.mem_rtakeWhile_imp⟩
    rw [List.append_assoc, trimChars_eq, List.rdropWhile_append_rtakeWhile,
      List.takeWhile_append_dropWhile]
  tight := tight_trimChars cs

/-- Trimming leaves one thing only. -/
theorem trims_iff {cs name : List Char} : Trims cs name ↔ name = trimChars cs := by
  refine ⟨?_, fun h => h ▸ trims_trimChars cs⟩
  rintro ⟨⟨before, after, rfl, hbefore, hafter⟩, htight⟩
  have hend : (name ++ after).rdropWhile isBlank = name := by
    rw [List.rdropWhile, List.reverse_append,
      List.dropWhile_append_of_pos fun c hc => hafter c (List.mem_reverse.1 hc),
      htight.reverse.dropWhile, List.reverse_reverse]
  have hstart : (name ++ after).dropWhile isBlank = name ++ after ∨ name = [] := by
    cases name with
    | nil => exact .inr rfl
    | cons c cs =>
      exact .inl (by rw [List.cons_append, List.dropWhile_cons_of_neg (by simp [htight.first c rfl])])
  rw [trimChars_eq, List.append_assoc, List.dropWhile_append_of_pos hbefore]
  rcases hstart with hstart | rfl
  · rw [hstart, hend]
  · simp [List.dropWhile_eq_nil_iff.2 hafter]

/-- A text with no blank at its ends stays as it is. -/
theorem trimChars_of_tight {cs : List Char} (h : Tight cs) : trimChars cs = cs :=
  (trims_iff.1 ⟨⟨[], [], by simp, by simp, by simp⟩, h⟩).symm

theorem Trims.subset {cs name : List Char} (h : Trims cs name) : name ⊆ cs := by
  obtain ⟨before, after, rfl, -, -⟩ := h.inside
  intro c hc
  simp [hc]

/-- Something is left of a text if not all of it is blank. -/
theorem trimChars_ne_nil {cs : List Char} : trimChars cs ≠ [] ↔ HasInk cs := by
  have hnil : trimChars cs = [] ↔ ∀ c ∈ cs, isBlank c = true := by
    constructor
    · intro h
      obtain ⟨⟨before, after, hcs, hbefore, hafter⟩, -⟩ := trims_trimChars cs
      rw [h, List.append_nil] at hcs
      rw [hcs]
      exact List.forall_mem_append.2 ⟨hbefore, hafter⟩
    · intro h
      exact (trims_iff.1 ⟨⟨cs, [], by simp, h, by simp⟩, by simp, by simp⟩).symm
  rw [ne_eq, hnil, HasInk]
  simp

/-! ### cutting at dots -/

/-- Texts without dots that make up a text when they are joined by dots. -/
structure Cuts (s : String) (parts : List String) : Prop where
  nonempty : parts ≠ []
  dotless : ∀ p ∈ parts, '.' ∉ p.toList
  joined : joinDots parts = s

theorem pieces_ne_nil (cs : List Char) : pieces cs ≠ [] := by
  cases cs with
  | nil => exact List.cons_ne_nil _ _
  | cons c cs =>
    rw [pieces]
    split
    · exact List.cons_ne_nil _ _
    · split <;> exact List.cons_ne_nil _ _

theorem pieces_dot (cs : List Char) : pieces ('.' :: cs) = [] :: pieces cs := by
  rw [pieces, if_pos rfl]

/-- A character that is no dot belongs to the first piece. -/
theorem pieces_cons {c : Char} (hc : c ≠ '.') (cs : List Char) :
    ∃ p ps, pieces cs = p :: ps ∧ pieces (c :: cs) = (c :: p) :: ps := by
  obtain ⟨p, ps, hp⟩ := List.exists_cons_of_ne_nil (pieces_ne_nil cs)
  exact ⟨p, ps, hp, by rw [pieces, if_neg hc, hp]⟩

theorem dot_not_mem_pieces (cs : List Char) : ∀ p ∈ pieces cs, '.' ∉ p := by
  induction cs with
  | nil => simp [pieces]
  | cons c cs ih =>
    by_cases hc : c = '.'
    · rw [hc, pieces_dot]
      exact List.forall_mem_cons.2 ⟨List.not_mem_nil, ih⟩
    · obtain ⟨p, ps, hp, hpieces⟩ := pieces_cons hc cs
      rw [hp] at ih
      obtain ⟨hfirst, hrest⟩ := List.forall_mem_cons.1 ih
      rw [hpieces]
      exact List.forall_mem_cons.2 ⟨by simp [Ne.symm hc, hfirst], hrest⟩

/-- There is one piece more than there are dots. -/
theorem length_pieces (cs : List Char) : (pieces cs).length = cs.count '.' + 1 := by
  induction cs with
  | nil => rfl
  | cons c cs ih =>
    by_cases hc : c = '.'
    · rw [hc, pieces_dot, List.length_cons, ih, List.count_cons_self]
    · obtain ⟨p, ps, hp, hpieces⟩ := pieces_cons hc cs
      rw [hpieces, List.length_cons, List.count_cons_of_ne hc, ← ih, hp, List.length_cons]

theorem intercalate_pieces (cs : List Char) : ['.'].intercalate (pieces cs) = cs := by
  induction cs with
  | nil => rfl
  | cons c cs ih =>
    by_cases hc : c = '.'
    · obtain ⟨p, ps, hp⟩ := List.exists_cons_of_ne_nil (pieces_ne_nil cs)
      rw [hc, pieces_dot, hp, List.intercalate_cons_cons, ← hp, ih]
      rfl
    · obtain ⟨p, ps, hp, hpieces⟩ := pieces_cons hc cs
      rw [hpieces]
      rw [hp] at ih
      cases ps with
      | nil => simpa using ih
      | cons q qs =>
        rw [List.intercalate_cons_cons] at ih ⊢
        rw [List.cons_append, List.cons_append, ih]

/-- A text is cut at its dots in one way only. -/
theorem cuts_iff {s : String} {parts : List String} :
    Cuts s parts ↔ parts.map String.toList = pieces s.toList := by
  constructor
  · rintro ⟨hne, hdotless, rfl⟩
    exact (pieces_joinDots hne hdotless).symm
  · intro h
    refine ⟨?_, fun p hp => ?_, ?_⟩
    · rintro rfl
      exact pieces_ne_nil _ h.symm
    · exact dot_not_mem_pieces s.toList _ (h ▸ List.mem_map_of_mem hp)
    · rw [← String.toList_inj, joinDots, String.toList_intercalate, h]
      exact intercalate_pieces s.toList

/-! ### the parsers -/

/-- A path is read if no piece is blank, and its names are the trimmed pieces. -/
theorem parsePath?_eq_some {s : String} {names : List String} :
    parsePath? s = some names ↔ (∀ p ∈ pieces s.toList, HasInk p) ∧
      names = (pieces s.toList).map fun p => String.ofList (trimChars p) := by
  have hany : ((pieces s.toList).map trimChars).any List.isEmpty = false ↔
      ∀ p ∈ pieces s.toList, HasInk p := by
    simp [← trimChars_ne_nil]
  unfold parsePath?
  dsimp only
  split
  · rename_i h
    rw [← hany, h]
    simp
  · rename_i h
    rw [← hany, List.map_map, Option.some.injEq, eq_comm]
    exact (and_iff_right (Bool.eq_false_iff.2 h)).symm

/-- A text with a dot is cut at the first one. -/
theorem parseTarget?_of_dot {s : String} {first rest : List Char}
    (hs : s.toList = first ++ '.' :: rest) (hfirst : '.' ∉ first) :
    parseTarget? s =
      if (trimChars first).isEmpty || (trimChars rest).isEmpty || rest.contains '.' then none
      else some (String.ofList (trimChars first), String.ofList (trimChars rest)) := by
  have hkeep : ∀ c ∈ first, decide (c ≠ '.') = true := fun c hc => by
    rw [decide_eq_true_iff]
    rintro rfl
    exact hfirst hc
  have htake : s.toList.takeWhile (· ≠ '.') = first := by
    rw [hs, List.takeWhile_append_of_pos hkeep]
    simp
  have hdrop : s.toList.dropWhile (· ≠ '.') = '.' :: rest := by
    rw [hs, List.dropWhile_append_of_pos hkeep]
    simp
  rw [parseTarget?, htake, hdrop]

theorem parseTarget?_of_dotless {s : String} (hs : '.' ∉ s.toList) : parseTarget? s = none := by
  have hdrop : s.toList.dropWhile (· ≠ '.') = [] := by
    rw [List.dropWhile_eq_nil_iff]
    rintro c hc
    rw [decide_eq_true_iff]
    rintro rfl
    exact hs hc
  rw [parseTarget?, hdrop]

/-- A target is read exactly if the path has two names, and these are its halves. -/
theorem parseTarget?_eq_some {s a b : String} :
    parseTarget? s = some (a, b) ↔ parsePath? s = some [a, b] := by
  rw [parsePath?_eq_some]
  by_cases hdot : '.' ∈ s.toList
  · obtain ⟨first, rest, hs, hfirst⟩ := List.eq_append_cons_of_mem hdot
    rw [parseTarget?_of_dot hs hfirst, hs, pieces_append hfirst]
    by_cases hrest : '.' ∈ rest
    · -- a second dot leaves three pieces at least
      have hlong : 1 < (pieces rest).length := by
        rw [length_pieces]
        exact Nat.succ_lt_succ (List.count_pos_iff.2 hrest)
      have hnames : ∀ f : List Char → String, [a, b] ≠ (first :: pieces rest).map f := by
        intro f h
        have hlen := congrArg List.length h
        simp only [List.length_cons, List.length_nil, List.length_map] at hlen
        omega
      rw [if_pos (by simp [hrest])]
      constructor
      · rintro ⟨⟩
      · exact fun h => absurd h.2 (hnames _)
    · rw [pieces_of_dotless hrest]
      have hblank : ((trimChars first).isEmpty || (trimChars rest).isEmpty || rest.contains '.') =
          true ↔ ¬ ∀ p ∈ [first, rest], HasInk p := by
        simp [← trimChars_ne_nil, hrest, imp_iff_not_or]
      split
      · rename_i h
        constructor
        · rintro ⟨⟩
        · exact fun hread => absurd hread.1 (hblank.1 h)
      · rename_i h
        rw [and_iff_right (not_not.1 (mt hblank.2 h))]
        simp [eq_comm]
  · rw [parseTarget?_of_dotless hdot, pieces_of_dotless hdot]
    simp

end ModelLinker.Text
