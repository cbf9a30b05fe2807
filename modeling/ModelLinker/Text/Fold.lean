/-!
Names are compared without regard to the case of ASCII letters: two names are the same when their
folded forms are equal. Letters outside ASCII keep their case.
-/

namespace ModelLinker.Text

/-- The text with every ASCII capital made small. -/
def fold (s : String) : String :=
  String.ofList (s.toList.map Char.toLower)

/-- Two names are the same up to the case of ASCII letters. -/
def sameName (a b : String) : Bool :=
  fold a == fold b

theorem sameName_iff {a b : String} : sameName a b = true ↔ fold a = fold b := by
  simp [sameName]

theorem sameName_refl (a : String) : sameName a a = true := sameName_iff.2 rfl

theorem sameName_comm (a b : String) : sameName a b = sameName b a := by
  rw [Bool.eq_iff_iff, sameName_iff, sameName_iff]
  exact eq_comm

theorem sameName_trans {a b c : String} (h₁ : sameName a b = true) (h₂ : sameName b c = true) :
    sameName a c = true :=
  sameName_iff.2 ((sameName_iff.1 h₁).trans (sameName_iff.1 h₂))

end ModelLinker.Text
