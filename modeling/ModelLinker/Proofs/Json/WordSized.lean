import ModelLinker.Json.Reader

/-!
# The integers of documents

A number that is written without fraction and exponent is read as an integer of 64 bits, with or
without a sign, and as a floating-point number if it does not fit. So all integers of a document
that was read have 64 bits (`wordSized_of_read`).
-/

namespace ModelLinker.Json

/-- All integers within a document have 64 bits, with or without a sign. -/
inductive WordSized : Json → Prop where
  | null : WordSized .null
  | bool (b : Bool) : WordSized (.bool b)
  | int {n : Int} : Int64.minValue.toInt ≤ n → n ≤ UInt64.size - 1 → WordSized (.int n)
  | real (x : Decimal.Binary64) : WordSized (.real x)
  | str (s : String) : WordSized (.str s)
  | arr {items : List Json} : (∀ x ∈ items, WordSized x) → WordSized (.arr items)
  | obj {members : List (String × Json)} : (∀ m ∈ members, WordSized m.2) →
    WordSized (.obj members)

/-- If a step gives a document, then its integers have 64 bits. -/
def Step.Sized (step : Step Json) : Prop := ∀ j s, step = .ok (j, s) → j.WordSized

theorem sized_error {f : Fault} : Step.Sized (.error f) := by
  rintro j s ⟨⟩

theorem sized_ok {j : Json} {s : List Char} (h : j.WordSized) : Step.Sized (.ok (j, s)) := by
  rintro _ _ ⟨⟩
  exact h

/-! ### numbers -/

section Numbers

variable {negative down : Bool} {significand : Nat} {exponent : Int}

theorem sized_finish (s : List Char) : (finish negative significand exponent s).Sized := by
  unfold finish
  split
  · exact sized_ok (.real _)
  · exact sized_error

theorem sized_exponentDigits (value : Nat) (s : List Char) :
    (exponentDigits negative down significand exponent value s).Sized := by
  fun_induction exponentDigits with
  | case1 _ c cs _ _ _ ih => exact ih
  | case2 => exact sized_error
  | case3 => exact sized_ok (.real _)
  | case4 => exact sized_finish _
  | case5 => exact sized_finish _

theorem sized_exponentPart (s : List Char) :
    (exponentPart negative significand exponent s).Sized := by
  unfold exponentPart
  dsimp only
  split
  · exact sized_error
  · split
    · exact sized_exponentDigits _ _
    · exact sized_error

theorem sized_afterDigits (s : List Char) :
    (afterDigits negative significand exponent s).Sized := by
  unfold afterDigits
  split
  · exact sized_exponentPart _
  · exact sized_exponentPart _
  · exact sized_finish _

theorem sized_fractionPart (s : List Char) :
    (fractionPart negative significand exponent s).Sized := by
  unfold fractionPart
  dsimp only
  split
  · exact sized_afterDigits _
  · split
    · split <;> exact sized_error
    · exact sized_afterDigits _

theorem sized_wholeNumber (h : significand ≤ greatestSignificand) (s : List Char) :
    (wholeNumber negative significand s).Sized := by
  have hmin : Int64.minValue.toInt = -9223372036854775808 := rfl
  have hsize : UInt64.size = 18446744073709551616 := rfl
  unfold greatestSignificand at h
  unfold wholeNumber
  split
  · exact sized_ok (.int (by omega) (by omega))
  · split
    · exact sized_finish _
    · rename_i hrange
      simp only [Bool.or_eq_true, decide_eq_true_eq, not_or] at hrange
      exact sized_ok (.int (by omega) (by omega))

theorem sized_afterWhole (h : significand ≤ greatestSignificand) (dropped : Nat) (s : List Char) :
    (afterWhole negative significand dropped s).Sized := by
  unfold afterWhole
  split
  · exact sized_fractionPart _
  · exact sized_exponentPart _
  · exact sized_exponentPart _
  · split
    · exact sized_wholeNumber h _
    · exact sized_finish _

/-- Digits are taken only as long as the significand stays in range. -/
theorem gather_le (h : significand ≤ greatestSignificand) (taken : Nat) (s : List Char) :
    (gather significand taken s).1 ≤ greatestSignificand := by
  fun_induction gather with
  | case1 => exact h
  | case2 _ _ c cs hc ih =>
    rw [Bool.and_eq_true, decide_eq_true_eq] at hc
    exact ih hc.2
  | case3 => exact h

theorem sized_readNumber (s : List Char) : (readNumber negative s).Sized := by
  unfold readNumber
  split
  · exact sized_error
  · split
    · exact sized_error
    · exact sized_afterWhole (Nat.zero_le _) _ _
  · split
    · rename_i c _ _ hc
      have hdigit : digitValue c ≤ greatestSignificand := by
        have h9 : c.toNat ≤ 57 := by
          rw [Char.isDigit, Bool.and_eq_true, decide_eq_true_eq, decide_eq_true_eq] at hc
          exact UInt32.le_iff_toNat_le.1 hc.2
        have hbound : 57 ≤ greatestSignificand := by decide
        exact Nat.le_trans (Nat.sub_le _ _) (Nat.le_trans h9 hbound)
      exact sized_afterWhole (gather_le hdigit _ _) _ _
    · exact sized_error

end Numbers

/-! ### values -/

theorem sized_readWord {value : Json} (h : value.WordSized) (word s : List Char) :
    (readWord value word s).Sized := by
  fun_induction readWord with
  | case1 => exact sized_ok h
  | case2 => exact sized_error
  | case3 _ _ _ ih => exact ih
  | case4 => exact sized_error

section Values

variable {value : List Char → Step Json}

theorem sized_readItems (hvalue : ∀ s, (value s).Sized) (fuel : Nat) {done : List Json}
    (hdone : ∀ x ∈ done, x.WordSized) (s : List Char) :
    (readItems value fuel done s).Sized := by
  induction fuel generalizing done s with
  | zero => exact sized_error
  | succ fuel ih =>
    unfold readItems
    split
    · exact sized_error
    · exact sized_ok (.arr fun x hx => hdone x (List.mem_reverse.1 hx))
    · split
      · exact sized_error
      · exact sized_error
      · split
        · exact sized_error
        · rename_i hread
          exact ih (List.forall_mem_cons.2 ⟨hvalue _ _ _ hread, hdone⟩) _
    · exact sized_error

theorem sized_readList (hvalue : ∀ s, (value s).Sized) (s : List Char) :
    (readList value s).Sized := by
  unfold readList
  split
  · exact sized_error
  · exact sized_ok (.arr (by simp))
  · split
    · exact sized_error
    · rename_i hread
      exact sized_readItems hvalue _ (by simpa using hvalue _ _ _ hread) _

theorem sized_insertMember {name : String} {x : Json} (hx : x.WordSized)
    {members : List (String × Json)} (h : ∀ m ∈ members, m.2.WordSized) :
    ∀ m ∈ insertMember name x members, m.2.WordSized := by
  induction members with
  | nil => simpa [insertMember] using hx
  | cons m rest ih =>
    obtain ⟨hm, hrest⟩ := List.forall_mem_cons.1 h
    unfold insertMember
    split
    · exact List.forall_mem_cons.2 ⟨hx, h⟩
    · split
      · exact List.forall_mem_cons.2 ⟨hx, hrest⟩
      · exact List.forall_mem_cons.2 ⟨hm, ih hrest⟩

theorem sized_readMember (hvalue : ∀ s, (value s).Sized) {s rest : List Char} {name : String}
    {x : Json} (h : readMember value s = .ok ((name, x), rest)) : x.WordSized := by
  unfold readMember at h
  split at h
  · cases h
  · split at h
    · cases h
    · split at h
      · cases h
      · rename_i hread
        cases h
        exact hvalue _ _ _ hread
    · cases h

theorem sized_readMembers (hvalue : ∀ s, (value s).Sized) (fuel : Nat)
    {done : List (String × Json)} (hdone : ∀ m ∈ done, m.2.WordSized) (s : List Char) :
    (readMembers value fuel done s).Sized := by
  induction fuel generalizing done s with
  | zero => exact sized_error
  | succ fuel ih =>
    unfold readMembers
    split
    · exact sized_error
    · exact sized_ok (.obj hdone)
    · split
      · exact sized_error
      · split
        · exact sized_error
        · rename_i hread
          exact ih (sized_insertMember (sized_readMember hvalue hread) hdone) _
      · exact sized_error
      · exact sized_error
    · exact sized_error

theorem sized_readObject (hvalue : ∀ s, (value s).Sized) (s : List Char) :
    (readObject value s).Sized := by
  unfold readObject
  split
  · exact sized_error
  · exact sized_ok (.obj (by simp))
  · split
    · exact sized_error
    · rename_i hread
      exact sized_readMembers hvalue _ (by simpa using sized_readMember hvalue hread) _
  · exact sized_error

end Values

theorem sized_readValue (room : Nat) (s : List Char) : (readValue room s).Sized := by
  induction room generalizing s with
  | zero => exact sized_error
  | succ room ih =>
    unfold readValue
    split
    · exact sized_error
    · exact sized_readWord .null _ _
    · exact sized_readWord (.bool true) _ _
    · exact sized_readWord (.bool false) _ _
    · exact sized_readNumber _
    · split
      · exact sized_error
      · exact sized_ok (.str _)
    · split
      · exact sized_error
      · exact sized_readList ih _
    · split
      · exact sized_error
      · exact sized_readObject ih _
    · split
      · exact sized_readNumber _
      · exact sized_error

/-- All integers of a document that was read from its text have 64 bits. -/
theorem wordSized_of_read {text : String} {j : Json} (h : read text = .ok j) : j.WordSized := by
  unfold read at h
  dsimp only at h
  split at h
  · cases h
  · rename_i hread
    split at h
    · cases h
      exact sized_readValue _ _ _ _ hread
    · cases h

end ModelLinker.Json
