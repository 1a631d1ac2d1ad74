import ModelBindings.Proofs.Datamodel.Typed
import ModelBindings.Proofs.Source.Layout

/-!
# What stops rendering

Types and documentations that are texts can always be shown, and so can every default but one: an
integer too long to be written in decimal.

* `Field.IsOverlong` : the default of a field is such an integer, and the field shows it.
* `baseType_scalar`, `baseType_enum`, `baseType_object`, `baseType_unsupported` : the type of a
  field, kind by kind.
* `renderField_stops`, `modelFile_stops` : nothing else stops a field line or the module of a model;
  `renderField_ok` and `modelFile_ok` say that there is one.
* `enumsFile_ok` : nothing stops the module of the enums.
-/

set_option autoImplicit false

namespace ModelBindings

/-- The field shows a default that is an integer too long to be written in decimal. -/
def Field.IsOverlong (f : Field) : Prop :=
  Source.showsDefault f = true ∧
    ∃ n, f.default = .value (.int n) ∧ Json.digitLimit < (Text.digits n.natAbs).length

namespace Traced

variable {α β : Type}

theorem result_bind_eq_error {x : Traced α} {f : α → Traced β} {e : Fault} :
    (x.bind f).result = .error e ↔
      x.result = .error e ∨ ∃ a, x.result = .ok a ∧ (f a).result = .error e := by
  unfold bind
  cases x.result with
  | error e => simp
  | ok a => simp

end Traced

namespace Source

variable {known : List Text} {f : Field} {e : Fault}

theorem documentationText_ok {v : Value} (h : v.IsOptionalText) :
    ∃ d, documentationText v = .ok d := by
  rcases h with rfl | ⟨s, rfl⟩
  · exact ⟨none, rfl⟩
  · exact ⟨_, rfl⟩

theorem classDocstring_ok {v : Value} (h : v.IsOptionalText) : ∃ d, classDocstring v = .ok d := by
  obtain ⟨d, hd⟩ := documentationText_ok h
  unfold classDocstring
  rw [hd]
  cases d with
  | none => exact ⟨none, rfl⟩
  | some s => exact ⟨_, rfl⟩

/-! ## Fields -/

theorem ofValue?_of_text {s : Text} (h : f.type = .text s) :
    ScalarType.ofValue? f.type = .ok (ScalarType.all.find? fun k => f.type.isText k.name) := by
  rw [ScalarType.ofValue?, h]
  rfl

theorem knownEnum?_of_text {s : Text} (h : f.type = .text s) :
    knownEnum? known f.type = .ok (if known.contains s then some s else none) := by
  rw [h]
  rfl

/-- A scalar is looked up by its name. -/
theorem baseType_scalar (hk : f.kind = .scalar) {s : Text} (ht : f.type = .text s) :
    baseType known f = .ok
      { usage := .ofScalar (ScalarType.all.find? fun k => f.type.isText k.name)
        log := if (ScalarType.all.find? fun k => f.type.isText k.name).isSome then [] else
          [fieldRecord f (" has unknown scalar type " ++ f.type.quoted ++ ", using Any")]
        text := ScalarType.targetOf (ScalarType.all.find? fun k => f.type.isText k.name) } := by
  rw [baseType, hk]
  dsimp only
  rw [scalarType, ofValue?_of_text ht]

/-- An enum is shown by its name, known or not. -/
theorem baseType_enum (hk : f.kind = .enum) {s : Text} (ht : f.type = .text s) :
    baseType known f = .ok
      { usage := { Usage.nothing with enumName := if known.contains s then some s else none }
        log := if known.contains s then [] else
          [fieldRecord f (" references unknown enum " ++ f.type.quoted
            ++ ", using the bare name")]
        text := f.type.display } := by
  rw [baseType, hk]
  dsimp only
  rw [enumType, knownEnum?_of_text ht]
  cases known.contains s <;> rfl

/-- A model is shown by its name. -/
theorem baseType_object (hk : f.kind = .object) :
    baseType known f = .ok
      { usage := { Usage.nothing with relation := some f.type }, log := []
        text := f.type.display } := by
  rw [baseType, hk]

theorem baseType_unsupported (hk : f.kind = .unsupported) :
    baseType known f = .ok
      { usage := { Usage.nothing with any := true }, log := [], text := "Any" } := by
  rw [baseType, hk]

/-- The type of a field can be shown where it is a text. -/
theorem baseType_ok (known : List Text) {s : Text} (h : f.type = .text s) :
    ∃ base, baseType known f = .ok base := by
  cases hk : f.kind with
  | scalar => exact ⟨_, baseType_scalar hk h⟩
  | enum => exact ⟨_, baseType_enum hk h⟩
  | object => exact ⟨_, baseType_object hk⟩
  | unsupported => exact ⟨_, baseType_unsupported hk⟩

theorem ofDefault_stops {d : Default} (h : ofDefault d = .error e) :
    e = .value .tooManyDigits ∧
      ∃ n, d = .value (.int n) ∧ Json.digitLimit < (Text.digits n.natAbs).length := by
  unfold ofDefault at h
  split at h
  · cases h
  · cases h
  · cases h
  · rename_i n
    unfold integerLiteral at h
    split at h
    · rename_i hlong
      cases h
      exact ⟨rfl, n, rfl, hlong⟩
    · cases h
  · cases h
  · cases h

theorem defaultPart_stops (h : defaultPart f = .error e) :
    e = .value .tooManyDigits ∧ f.IsOverlong := by
  unfold defaultPart at h
  split at h
  · rename_i hshown
    split at h
    · rename_i e' he
      cases h
      obtain ⟨rfl, hlong⟩ := ofDefault_stops he
      exact ⟨rfl, hshown, hlong⟩
    · cases h
    · cases h
  · split at h
    · cases h
    · split at h <;> cases h

/-- **Only an overlong default stops a field line.** -/
theorem renderField_stops (hf : f.IsTyped) (h : (renderField known f).line = .error e) :
    e = .value .tooManyDigits ∧ f.IsOverlong := by
  obtain ⟨s, hs⟩ := hf.type
  obtain ⟨base, hbase⟩ := baseType_ok known hs
  obtain ⟨d, hd⟩ := documentationText_ok hf.documentation
  unfold renderField at h
  rw [hbase, hd] at h
  cases hp : defaultPart f with
  | error e' =>
    rw [hp] at h
    cases h
    exact defaultPart_stops hp
  | ok p =>
    rw [hp] at h
    cases h

/-- A field has a line unless it shows an overlong default. -/
theorem renderField_ok (hf : f.IsTyped) (hshort : ¬ f.IsOverlong) :
    ∃ l, (renderField known f).line = .ok l := by
  cases h : (renderField known f).line with
  | ok l => exact ⟨l, rfl⟩
  | error e => exact absurd (renderField_stops hf h).2 hshort

/-! ## Modules -/

theorem renderFields_stops {needs : Needs} {fs : List Field} (hfs : ∀ f ∈ fs, f.IsTyped)
    (h : (renderFields known needs fs).result = .error e) :
    e = .value .tooManyDigits ∧ ∃ f ∈ fs, f.IsOverlong := by
  induction fs generalizing needs with
  | nil => cases h
  | cons f r ih =>
    rcases Traced.result_bind_eq_error.mp h with h | ⟨l, hl, h⟩
    · obtain ⟨he, hlong⟩ := renderField_stops (hfs f List.mem_cons_self) h
      exact ⟨he, f, List.mem_cons_self, hlong⟩
    · rcases Traced.result_bind_eq_error.mp h with h | ⟨rest, -, h⟩
      · obtain ⟨he, k, hk, hlong⟩ := ih (fun k hk => hfs k (List.mem_cons_of_mem f hk)) h
        exact ⟨he, k, List.mem_cons_of_mem f hk, hlong⟩
      · cases h

/-- **Only an overlong default stops the module of a model.** -/
theorem modelFile_stops {enumsModule : Value} {m : Model} (hm : m.IsTyped)
    (h : (modelFile known enumsModule m).result = .error e) :
    e = .value .tooManyDigits ∧ ∃ f ∈ m.fields, f.IsOverlong := by
  rcases Traced.result_bind_eq_error.mp h with h | ⟨rendered, -, h⟩
  · exact renderFields_stops hm.fields h
  · obtain ⟨d, hd⟩ := classDocstring_ok hm.documentation
    rcases Traced.result_bind_eq_error.mp h with h | ⟨d', -, h⟩
    · rw [show (Traced.ofExcept (classDocstring m.documentation)).result = .ok d from hd] at h
      cases h
    · cases h

/-- A model has a module unless one of its fields shows an overlong default. -/
theorem modelFile_ok {enumsModule : Value} {m : Model} (hm : m.IsTyped)
    (hshort : ∀ f ∈ m.fields, ¬ f.IsOverlong) :
    ∃ text, (modelFile known enumsModule m).result = .ok text := by
  cases h : (modelFile known enumsModule m).result with
  | ok text => exact ⟨text, rfl⟩
  | error f =>
    obtain ⟨-, k, hk, hlong⟩ := modelFile_stops hm h
    exact absurd hlong (hshort k hk)

/-- **Nothing stops the module of the enums.** -/
theorem enumsFile_ok {enums : List Enum} (h : ∀ e ∈ enums, e.documentation.IsOptionalText) :
    ∃ text, enumsFile enums = .ok text := by
  have hclasses : ∃ classes, enums.mapM enumClass = .ok classes := by
    induction enums with
    | nil => exact ⟨[], rfl⟩
    | cons e r ih =>
      obtain ⟨d, hd⟩ := classDocstring_ok (h e List.mem_cons_self)
      obtain ⟨classes, hr⟩ := ih fun k hk => h k (List.mem_cons_of_mem e hk)
      refine ⟨enumClassText e d :: classes, ?_⟩
      rw [List.mapM_cons, hr, show enumClass e = .ok (enumClassText e d) by rw [enumClass, hd]]
      rfl
  obtain ⟨classes, hclasses⟩ := hclasses
  unfold enumsFile
  rw [hclasses]
  split
  · exact ⟨_, rfl⟩
  · exact ⟨_, rfl⟩

end Source

end ModelBindings
