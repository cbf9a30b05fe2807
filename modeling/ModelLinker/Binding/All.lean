import ModelLinker.Binding.Paths

/-!
All references of a model resolved, stage after stage. Every broken name gives one diagnostic, and
the rest is resolved all the same.
-/

namespace ModelLinker

/-- The model with every name bound that stands for something, and what is wrong with the
others. -/
def resolve (names : Namespace) (m : Model) : Model × Diagnostics :=
  let m₁ := numberEnums m
  let m₂ := resolveRowids m₁
  let m₃ := resolveValueTypes names m₂
  let m₄ := resolveForeignKeys names m₃
  let m₅ := resolveStructFields names m₄
  let m₆ := resolveQueries names m₅
  (m₆,
    enumProblems m₁ ++ bitfieldProblems m₁ ++ allRowidProblems m₁ ++ valueTypeProblems names m₂ ++
      foreignKeyProblems names m₃ ++ structFieldProblems names m₄ ++ validationProblems m₅ ++
      queryProblems names m₅)

end ModelLinker
