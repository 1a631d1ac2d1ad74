import ModelBindings.Source.ModelClass

/-!
# Which enums are known

The module of a model looks up names among the known enums and asks nothing else of them: neither
their order nor how often one is named makes a difference.

* `modelFile_congr` : the same enums known, the same module.
-/

set_option autoImplicit false

namespace ModelBindings.Source

variable {known known' : List Text}

theorem contains_congr (h : ∀ n, n ∈ known ↔ n ∈ known') (n : Text) :
    known.contains n = known'.contains n := by
  rw [List.contains_eq_mem, List.contains_eq_mem, decide_eq_decide]
  exact h n

theorem fieldName_congr (h : ∀ n, n ∈ known ↔ n ∈ known') : fieldName known = fieldName known' := by
  funext name
  unfold fieldName
  simp only [contains_congr h]

theorem knownEnum?_congr (h : ∀ n, n ∈ known ↔ n ∈ known') :
    knownEnum? known = knownEnum? known' := by
  funext type
  unfold knownEnum?
  simp only [contains_congr h]

theorem renderField_congr (h : ∀ n, n ∈ known ↔ n ∈ known') :
    renderField known = renderField known' := by
  funext field
  unfold renderField baseType enumType
  rw [fieldName_congr h, knownEnum?_congr h]

theorem renderFields_congr (h : ∀ n, n ∈ known ↔ n ∈ known') (needs : Needs) (fs : List Field) :
    renderFields known needs fs = renderFields known' needs fs := by
  induction fs generalizing needs with
  | nil => rfl
  | cons f r ih =>
    unfold renderFields
    simp only [renderField_congr h, ih]

/-- **The same enums known, the same module.** -/
theorem modelFile_congr (h : ∀ n, n ∈ known ↔ n ∈ known') (enumsModule : Value) (m : Model) :
    modelFile known enumsModule m = modelFile known' enumsModule m := by
  unfold modelFile
  rw [renderFields_congr h]

end ModelBindings.Source
