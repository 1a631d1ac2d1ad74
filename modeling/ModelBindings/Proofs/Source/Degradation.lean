import ModelBindings.Proofs.Source.Binding
import ModelBindings.Proofs.Source.FieldDefault

/-!
# What a field gives up

The scalar of a field may be unknown, its enum may not be declared, and its default may have no
literal. Each time the line of the field does without, and a record says so. The record is decided
on its own, and not where the line does without.

* `degradations` : the records of what a field gives up; `log_renderField` says that its line leaves
  these and no others.
* `IsAccounted` : what a field gives up can be seen in its line and in the imports of its module;
  `isAccounted_of_line` says that it can.
-/

set_option autoImplicit false

namespace ModelBindings

/-- The names of the scalars of the schema language. -/
def Source.scalarNames : List Text :=
  ["String", "Boolean", "Int", "BigInt", "Float", "Decimal", "DateTime", "Json", "Bytes"]

namespace Field

/-- The field is a scalar of another name than those of the schema language. -/
def hasUnknownScalar (f : Field) : Bool :=
  f.kind = .scalar && !Source.scalarNames.any f.type.isText

/-- The field is of an enum that is not among the names. -/
def hasUnknownEnum (known : List Text) (f : Field) : Bool :=
  f.kind = .enum && !known.any f.type.isText

/-- The field has a default of its own, which has no literal. -/
def losesDefault (f : Field) : Bool :=
  f.hasDefault && !f.isId && f.default.isGiven && !f.default.isPlain

end Field

namespace Source

variable {known : List Text} {f : Field}

/-! ## Records -/

/-- The record of a type that is given up. -/
def typeRecords (known : List Text) (f : Field) : List Record :=
  if f.hasUnknownScalar then
    [fieldRecord f (" has unknown scalar type " ++ f.type.quoted ++ ", using Any")]
  else if f.hasUnknownEnum known then
    [fieldRecord f (" references unknown enum " ++ f.type.quoted ++ ", using the bare name")]
  else []

/-- The record of a default that is given up. -/
def defaultRecords (f : Field) : List Record :=
  if f.losesDefault then
    [fieldRecord f " has a default that is not a Python literal, dropping it"]
  else []

/-- The records of what a field gives up: its type, then its default. -/
def degradations (known : List Text) (f : Field) : List Record :=
  typeRecords known f ++ defaultRecords f

/-- A scalar is found by its name. -/
theorem isSome_find?_scalar (v : Value) :
    (ScalarType.all.find? fun k => v.isText k.name).isSome = scalarNames.any v.isText := by
  have hnames : scalarNames = ScalarType.all.map ScalarType.name := rfl
  rw [hnames, List.any_map, List.isSome_find?]
  rfl

theorem any_isText (names : List Text) (s : Text) :
    names.any (Value.text s).isText = names.contains s := by
  rw [Bool.eq_iff_iff, List.any_eq_true, List.contains_iff_mem]
  constructor
  · rintro ⟨n, hn, h⟩
    obtain rfl : s = n := by simpa [Value.isText] using h
    exact hn
  · exact fun h => ⟨s, h, by simp [Value.isText]⟩

/-- The type of a field leaves the record of what it gives up. -/
theorem log_baseType {s : Text} (ht : f.type = .text s) {base : BaseType}
    (h : baseType known f = .ok base) : base.log = typeRecords known f := by
  unfold typeRecords Field.hasUnknownScalar Field.hasUnknownEnum
  cases hk : f.kind with
  | scalar =>
    rw [baseType_scalar hk ht] at h
    cases h
    rw [isSome_find?_scalar]
    cases scalarNames.any f.type.isText <;> rfl
  | enum =>
    rw [baseType_enum hk ht] at h
    cases h
    rw [ht, any_isText known]
    cases known.contains s <;> rfl
  | object =>
    rw [baseType_object hk] at h
    cases h
    rfl
  | unsupported =>
    rw [baseType_unsupported hk] at h
    cases h
    rfl

theorem isPlain_of_isLiteral {s : Text} (h : IsLiteral f.default s) :
    f.default.isPlain = true := by
  rw [← Bool.not_eq_false, ← ofDefault_eq_none_iff, ofDefault_of_isLiteral h]
  simp

/-- A default leaves the record of what is given up. -/
theorem log_defaultPart {p : DefaultPart × List Record} (h : defaultPart f = .ok p) :
    p.2 = defaultRecords f := by
  have hloses : f.losesDefault = (showsDefault f && !f.default.isPlain) := rfl
  unfold defaultPart at h
  unfold defaultRecords
  rw [hloses]
  split at h
  · rename_i hshown
    rw [hshown, Bool.true_and]
    split at h
    · cases h
    · rename_i s hs
      cases h
      rw [isPlain_of_isLiteral (isLiteral_of_ofDefault hs)]
      rfl
    · rename_i hs
      cases h
      rw [ofDefault_eq_none_iff.mp hs]
      rfl
  · rename_i hshown
    rw [Bool.eq_false_iff.mpr hshown, Bool.false_and]
    split at h
    · cases h
      rfl
    · split at h
      · cases h
        rfl
      · cases h
        rfl

/-- **The line of a field leaves the records of what the field gives up.** -/
theorem log_renderField (ht : ∃ s, f.type = .text s) {l : FieldLine}
    (h : (renderField known f).line = .ok l) :
    (renderField known f).log = degradations known f := by
  obtain ⟨s, hs⟩ := ht
  obtain ⟨base, p, hb, hp, -, -⟩ := renderField_made h
  have hlog : (renderField known f).log = base.log ++ p.2 := by
    unfold renderField
    rw [hb, hp]
    dsimp only
    cases documentationText f.documentation with
    | error e => rfl
    | ok d => rfl
  rw [hlog, log_baseType hs hb, log_defaultPart hp, degradations]

/-! ## Types -/

theorem wrapType_inj {s t : Text} : wrapType f s = wrapType f t ↔ s = t := by
  refine ⟨fun h => ?_, fun h => h ▸ rfl⟩
  unfold wrapType at h
  split at h
  · simpa using h
  · split at h
    · exact h
    · simpa using h

theorem targetOf_eq_any_iff {k : Option ScalarType} :
    ScalarType.targetOf k = "Any" ↔ k = none ∨ k = some .json := by
  cases k with
  | none => simp [ScalarType.targetOf]
  | some k => cases k <;> simp [ScalarType.targetOf, ScalarType.target]

/-- **The scalars that are given up** have the type of any value, and are not meant to. -/
theorem hasUnknownScalar_iff {s : Text} (ht : f.type = .text s) {base : BaseType}
    (h : baseType known f = .ok base) :
    f.hasUnknownScalar = true ↔
      f.kind = .scalar ∧ f.type ≠ .text "Json" ∧ wrapType f base.text = wrapType f "Any" := by
  rw [wrapType_inj, Field.hasUnknownScalar, Bool.and_eq_true, decide_eq_true_iff]
  refine and_congr_right fun hk => ?_
  rw [baseType_scalar hk ht] at h
  cases h
  rw [Bool.not_eq_true', ← isSome_find?_scalar, Option.isSome_eq_false_iff,
    Option.isNone_iff_eq_none, targetOf_eq_any_iff]
  constructor
  · intro hnone
    refine ⟨fun hjson => ?_, .inl hnone⟩
    rw [hjson] at hnone
    cases hnone
  · -- a scalar that is found and stands for any value is the one that is meant to
    rintro ⟨hjson, hnone | hfound⟩
    · exact hnone
    · have hname := List.find?_some hfound
      rw [ht] at hname hjson
      exact absurd (by simpa [Value.isText, ScalarType.name] using hname) hjson

/-! ## Imports -/

theorem mem_usedEnums {fs : List Field} {e : Text} :
    e ∈ usedEnums known fs ↔ e ∈ known ∧ ∃ f ∈ fs, f.kind = .enum ∧ f.type = .text e := by
  have hamong : ∀ f : Field,
      f.enumAmong? known = some e ↔ e ∈ known ∧ f.kind = .enum ∧ f.type = .text e := by
    intro f
    unfold Field.enumAmong?
    split
    · rename_i s hk ht
      rw [hk, ht]
      by_cases hs : s ∈ known
      · simp only [List.contains_iff_mem.mpr hs, if_true, Option.some.injEq, Value.text.injEq,
          true_and]
        exact ⟨fun h => ⟨h ▸ hs, h⟩, fun h => h.2⟩
      · simp only [List.contains_iff_mem, hs, if_false, reduceCtorEq, Value.text.injEq, true_and,
          false_iff, not_and]
        rintro he rfl
        exact hs he
    · rename_i hne
      simp only [reduceCtorEq, false_iff, not_and]
      exact fun _ hk ht => hne _ hk ht
  rw [usedEnums, List.mem_eraseDups, List.mem_filterMap]
  simp only [hamong]
  exact ⟨fun ⟨f, hf, he, h⟩ => ⟨he, f, hf, h⟩, fun ⟨he, f, hf, h⟩ => ⟨f, hf, he, h⟩⟩

/-- An enum has an import line if it is used. -/
theorem enumImport_mem_moduleImports {module e : Text} {fs : List Field} {call : Bool} :
    enumImport module e ∈ moduleImports known module fs call ↔ e ∈ usedEnums known fs := by
  have houter : ∀ datetime decimal typing withField : Bool,
      ∀ l ∈ outerImports datetime decimal typing withField,
        l.toList.take 6 ≠ ("from ." : Text).toList := by
    decide +kernel
  have htake : (enumImport module e).toList.take 6 = ("from ." : Text).toList := by
    rw [enumImport, Text.toList_append, Text.toList_append, Text.toList_append]
    rfl
  rw [moduleImports, List.mem_append, List.mem_map]
  constructor
  · rintro (h | ⟨k, hk, h⟩)
    · exact absurd htake (houter _ _ _ _ _ h)
    · obtain rfl : k = e := by simpa [enumImport] using h
      exact hk
  · exact fun h => .inr ⟨e, h, rfl⟩

/-- **The enums that are given up** are not imported. -/
theorem hasUnknownEnum_iff {s : Text} (ht : f.type = .text s) {fs : List Field} (hf : f ∈ fs)
    (module : Text) (call : Bool) :
    f.hasUnknownEnum known = true ↔
      f.kind = .enum ∧
        ∀ e, f.type = .text e → enumImport module e ∉ moduleImports known module fs call := by
  rw [Field.hasUnknownEnum, Bool.and_eq_true, decide_eq_true_iff, ht, any_isText]
  refine and_congr_right fun hk => ?_
  simp only [Value.text.injEq, forall_eq', enumImport_mem_moduleImports, mem_usedEnums,
    Bool.not_eq_true', Bool.eq_false_iff, ne_eq, List.contains_iff_mem]
  exact not_congr ⟨fun h => ⟨h, f, hf, hk, ht⟩, fun h => h.1⟩

/-! ## Defaults -/

/-- The argument notes the name or the documentation of a field. -/
def IsNote (argument : Text) : Prop :=
  ∃ t, argument = "alias=\"" ++ t ++ "\"" ∨ argument = "description=\"" ++ t ++ "\""

theorem isNote_of_mem_notes {l : FieldLine} : ∀ a ∈ l.notes, IsNote a := by
  intro a ha
  rcases List.mem_append.mp ha with ha | ha
  · obtain ⟨n, -, rfl⟩ := Option.map_eq_some_iff.mp (Option.mem_toList.mp ha)
    exact ⟨n, .inl rfl⟩
  · obtain ⟨d, -, rfl⟩ := Option.map_eq_some_iff.mp (Option.mem_toList.mp ha)
    exact ⟨escape d, .inr rfl⟩

/-- What stands behind the type of a line shows a default, or none: bare, or in a field call that
notes name and documentation besides. -/
inductive Shows : Option Text → Text → Prop where
  | nothing : Shows none ""
  | assigned (s : Text) : Shows (some s) (" = " ++ s)
  | call (d : Option Text) {notes : List Text} (h : ∀ a ∈ notes, IsNote a) :
    Shows d (" = Field("
      ++ Text.join ", " ((d.map fun s => ("default=" ++ s : Text)).toList ++ notes) ++ ")")

theorem shows_of_literal {l : FieldLine} {s : Text} (h : l.default = .literal s) :
    Shows (some s) l.valueText := by
  rw [valueText_eq, h]
  split
  · exact .assigned s
  · exact .call (some s) isNote_of_mem_notes

theorem shows_of_none {l : FieldLine} (h : l.default = .none) : Shows none l.valueText := by
  rw [valueText_eq, h]
  split
  · exact .nothing
  · exact .call none isNote_of_mem_notes

/-- The line of a field shows the default that it is given, or nothing if that has no literal. -/
theorem shows_of_carries {l : FieldLine} (h : Carries f l.default)
    (hgiven : f.hasDefault = true ∧ f.isId = false) (hnull : f.default.isGiven = true) :
    (∃ s, IsLiteral f.default s ∧ Shows (some s) l.valueText) ∨
      f.default.isPlain = false ∧ Shows none l.valueText := by
  have hnone : ¬ (f.hasDefault = true ∧ f.isId = false → f.default.isGiven = false) := by
    simp [hgiven, hnull]
  generalize hp : l.default = p at h
  cases h with
  | literal _ hs => exact .inl ⟨_, hs, shows_of_literal hp⟩
  | dropped _ _ hplain => exact .inr ⟨hplain, shows_of_none hp⟩
  | list h _ => exact absurd h hnone
  | optional h _ _ => exact absurd h hnone
  | required h _ _ => exact absurd h hnone

/-! ## Fields -/

/-- What a field gives up can be seen in its line and in the imports of its module. -/
structure IsAccounted (known : List Text) (module : Text) (imports : List Text) (f : Field)
    (l : FieldLine) : Prop where
  made : (renderField known f).line = .ok l
  /-- The scalars that have become any value, other than the one that is any value. -/
  scalar : f.hasUnknownScalar = true ↔
    f.kind = .scalar ∧ f.type ≠ .text "Json" ∧ l.type = wrapType f "Any"
  /-- The enums that are not imported. -/
  enum : f.hasUnknownEnum known = true ↔
    f.kind = .enum ∧ ∀ e, f.type = .text e → enumImport module e ∉ imports
  /-- The defaults that the line does not carry. -/
  default : f.losesDefault = true ↔
    (f.hasDefault = true ∧ f.isId = false ∧ f.default.isGiven = true) ∧
      ¬ ∃ s, IsLiteral f.default s ∧ Shows (some s) l.valueText
  /-- The line carries nothing in place of a default that it does not carry. -/
  silent : f.losesDefault = true → Shows none l.valueText

/-- **What a field gives up can be seen in its line and in the imports of its module.** -/
theorem isAccounted_of_line (ht : ∃ s, f.type = .text s) {l : FieldLine}
    (h : (renderField known f).line = .ok l) {fs : List Field} (hf : f ∈ fs) (module : Text)
    (call : Bool) : IsAccounted known module (moduleImports known module fs call) f l := by
  obtain ⟨s, hs⟩ := ht
  obtain ⟨base, p, hb, hp, hl, -⟩ := renderField_made h
  subst hl
  have hcarries : Carries f (lineOf known f base.text p.1).default := by
    refine carries_of_shownDefault ?_
    rw [shownDefault, hp]
    rfl
  have hloses : f.losesDefault = true ↔ ((f.hasDefault = true ∧ f.isId = false) ∧
      f.default.isGiven = true) ∧ f.default.isPlain = false := by
    simp [Field.losesDefault]
  refine ⟨h, hasUnknownScalar_iff hs hb, hasUnknownEnum_iff hs hf module call, ?_, fun hlost => ?_⟩
  · rw [hloses, ← and_assoc]
    refine and_congr_right fun hgiven => ⟨fun hplain => ?_, fun hcarried => ?_⟩
    · rintro ⟨t, hliteral, -⟩
      rw [isPlain_of_isLiteral hliteral] at hplain
      cases hplain
    · rcases shows_of_carries hcarries hgiven.1 hgiven.2 with hshown | ⟨hplain, -⟩
      · exact absurd hshown hcarried
      · exact hplain
  · obtain ⟨⟨hgiven, hnull⟩, hplain⟩ := hloses.mp hlost
    rcases shows_of_carries hcarries hgiven hnull with ⟨t, hliteral, -⟩ | ⟨-, hshown⟩
    · rw [isPlain_of_isLiteral hliteral] at hplain
      cases hplain
    · exact hshown

end Source

end ModelBindings
