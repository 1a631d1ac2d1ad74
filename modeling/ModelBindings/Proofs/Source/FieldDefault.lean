import ModelBindings.Proofs.Source.FieldParts
import ModelBindings.Proofs.Source.Stop

/-!
# Defaults of fields

What the line of a field carries as its default is fixed by the field before anything is laid out.
Name and documentation decide how the default is written: behind an equals sign, or as the first
argument of a field call.

* `Carries` : the default that a field is given; `Carries.unique` says that it is one.
* `carries_of_shownDefault` : what is shown of a field is the default that it is given.
* `valueText_eq` : the layout of a default.
* `renderField_default` : type and default of a line, in every layout.
-/

set_option autoImplicit false

namespace ModelBindings

/-- The default has a literal: it is a text, a truth value or a number. -/
def Default.isPlain : Default → Bool
  | .value (.text _) => true
  | .value (.bool _) => true
  | .value (.int _) => true
  | .value (.double _) => true
  | _ => false

namespace Source

variable {known : List Text} {f : Field}

/-! ## What a field is given -/

/-- The default that the line of a field carries. One of its own is shown as a literal, or dropped
if it has none; without one a list is made empty, and an optional field null. -/
inductive Carries (f : Field) : DefaultPart → Prop where
  | literal {s : Text} (hgiven : f.hasDefault = true ∧ f.isId = false)
    (hs : IsLiteral f.default s) : Carries f (.literal s)
  | dropped (hgiven : f.hasDefault = true ∧ f.isId = false) (hnull : f.default.isGiven = true)
    (hplain : f.default.isPlain = false) : Carries f .none
  | list (hnone : f.hasDefault = true ∧ f.isId = false → f.default.isGiven = false)
    (hlist : f.isList = true) : Carries f (.factory "list")
  | optional (hnone : f.hasDefault = true ∧ f.isId = false → f.default.isGiven = false)
    (hlist : f.isList = false) (hrequired : f.isRequired = false) : Carries f (.literal "None")
  | required (hnone : f.hasDefault = true ∧ f.isId = false → f.default.isGiven = false)
    (hlist : f.isList = false) (hrequired : f.isRequired = true) : Carries f .none

/-! ## What is shown -/

theorem showsDefault_iff :
    showsDefault f = true ↔ (f.hasDefault = true ∧ f.isId = false) ∧ f.default.isGiven = true := by
  simp [showsDefault]

theorem not_showsDefault_iff : showsDefault f = false ↔
    (f.hasDefault = true ∧ f.isId = false → f.default.isGiven = false) := by
  rw [← Bool.not_eq_true, showsDefault_iff, not_and, Bool.not_eq_true]

theorem isGiven_of_isLiteral {d : Default} {s : Text} (h : IsLiteral d s) :
    d.isGiven = true := by
  cases h with
  | bool b => rfl
  | text s => rfl
  | integer n h => rfl
  | double x => rfl

theorem ofDefault_of_isLiteral {d : Default} {s : Text} (h : IsLiteral d s) :
    ofDefault d = .ok (some s) := by
  cases h with
  | bool b => rfl
  | text s => rfl
  | integer n h =>
    rw [ofDefault, integerLiteral, if_neg (by omega)]
    rfl
  | double x => rfl

/-- Only what is no text, truth value or number has no literal. -/
theorem ofDefault_eq_none_iff {d : Default} : ofDefault d = .ok none ↔ d.isPlain = false := by
  cases d with
  | function name args => exact ⟨fun _ => rfl, fun _ => rfl⟩
  | value v =>
    cases v with
    | int n =>
      -- with too many digits there is no literal either, but the field stops there
      have hint : ofDefault (.value (.int n)) = (integerLiteral n).map some := rfl
      rw [hint, integerLiteral]
      split
      · simp [Except.map, Default.isPlain]
      · simp [Except.map, Default.isPlain]
    | null | list _ | object _ => exact ⟨fun _ => rfl, fun _ => rfl⟩
    | bool _ | text _ | double _ => simp [ofDefault, Default.isPlain]

/-- **What is shown of a field is the default that it is given.** -/
theorem carries_of_shownDefault {p : DefaultPart} (h : shownDefault f = .ok p) : Carries f p := by
  unfold shownDefault defaultPart at h
  split at h
  · rename_i hshown
    obtain ⟨hgiven, hnull⟩ := showsDefault_iff.mp hshown
    split at h
    · cases h
    · rename_i s hs
      cases h
      exact .literal hgiven (isLiteral_of_ofDefault hs)
    · rename_i hs
      cases h
      exact .dropped hgiven hnull (ofDefault_eq_none_iff.mp hs)
  · rename_i hshown
    have hnone := not_showsDefault_iff.mp (Bool.not_eq_true _ ▸ hshown)
    split at h
    · rename_i hlist
      cases h
      exact .list hnone hlist
    · rename_i hlist
      have hlist := Bool.not_eq_true _ ▸ hlist
      split at h
      · rename_i hrequired
        cases h
        exact .required hnone hlist hrequired
      · rename_i hrequired
        cases h
        exact .optional hnone hlist (Bool.not_eq_true _ ▸ hrequired)

theorem shownDefault_of_carries {p : DefaultPart} (h : Carries f p) : shownDefault f = .ok p := by
  unfold shownDefault defaultPart
  cases h with
  | literal hgiven hs =>
    rw [if_pos (showsDefault_iff.mpr ⟨hgiven, isGiven_of_isLiteral hs⟩), ofDefault_of_isLiteral hs]
    rfl
  | dropped hgiven hnull hplain =>
    rw [if_pos (showsDefault_iff.mpr ⟨hgiven, hnull⟩), ofDefault_eq_none_iff.mpr hplain]
    rfl
  | list hnone hlist =>
    rw [not_showsDefault_iff.mpr hnone, if_neg Bool.false_ne_true, if_pos hlist]
    rfl
  | optional hnone hlist hrequired =>
    rw [not_showsDefault_iff.mpr hnone, hlist, hrequired]
    rfl
  | required hnone hlist hrequired =>
    rw [not_showsDefault_iff.mpr hnone, hlist, hrequired]
    rfl

/-- Every field is given a default, or none at all, unless it would show an overlong integer. -/
theorem exists_shownDefault
    (h : ∀ n, f.default = .value (.int n) → (Text.digits n.natAbs).length ≤ Json.digitLimit) :
    ∃ p, shownDefault f = .ok p := by
  unfold shownDefault
  cases hp : defaultPart f with
  | ok p => exact ⟨p.1, rfl⟩
  | error e =>
    obtain ⟨-, -, n, hn, hlong⟩ := defaultPart_stops hp
    have hle := h n hn
    omega

/-- A field is given one default. -/
theorem Carries.unique {p q : DefaultPart} (hp : Carries f p) (hq : Carries f q) : p = q := by
  have h := (shownDefault_of_carries hp).symm.trans (shownDefault_of_carries hq)
  cases h
  rfl

/-! ## How a default is laid out -/

/-- The default of a list is made by a call. -/
def DefaultPart.isFactory : DefaultPart → Bool
  | .factory _ => true
  | _ => false

/-- A default behind an equals sign. -/
def DefaultPart.assigned : DefaultPart → Text
  | .literal s => " = " ++ s
  | _ => ""

/-- A default as the first argument of a field call. -/
def DefaultPart.argument : DefaultPart → List Text
  | .none => []
  | .literal s => ["default=" ++ s]
  | .factory s => ["default_factory=" ++ s]

/-- **The layout of a default**: bare where nothing is noted beside it and no call makes it. -/
theorem valueText_eq (l : FieldLine) :
    l.valueText
      = if l.documentName = none ∧ l.documentation = none ∧ l.default.isFactory = false then
          l.default.assigned
        else " = Field(" ++ Text.join ", " (l.default.argument ++ l.notes) ++ ")" := by
  have harguments : l.arguments = l.default.argument ++ l.notes := by
    unfold FieldLine.arguments
    cases l.default with
    | none => rfl
    | literal s => rfl
    | factory s => rfl
  have hnotes : l.notes.isEmpty = true ↔ l.documentName = none ∧ l.documentation = none := by
    simp [FieldLine.notes]
  have hcall : l.hasCall = false ↔
      l.documentName = none ∧ l.documentation = none ∧ l.default.isFactory = false := by
    rw [← and_assoc, ← hnotes]
    unfold FieldLine.hasCall
    cases l.default with
    | none => simp [DefaultPart.isFactory]
    | literal s => simp [DefaultPart.isFactory]
    | factory s => simp [DefaultPart.isFactory]
  unfold FieldLine.valueText
  rw [harguments]
  split
  · rename_i h
    rw [if_neg (by simp [← hcall, h])]
  · rename_i h
    rw [if_pos (hcall.mp (Bool.not_eq_true _ ▸ h))]
    rfl

/-! ## Name and documentation -/

/-- The type of a field does not depend on its name and documentation. -/
theorem typeExpression_rename (known : List Text) (f : Field) (name : Text)
    (documentation : Value) :
    typeExpression known { f with name, documentation } = typeExpression known f := by
  unfold typeExpression baseType
  dsimp only
  cases f.kind with
  | scalar =>
    unfold scalarType
    dsimp only
    cases ScalarType.ofValue? f.type with
    | error e => rfl
    | ok s => rfl
  | enum =>
    unfold enumType
    dsimp only
    cases knownEnum? known f.type with
    | error e => rfl
    | ok found => rfl
  | object => rfl
  | unsupported => rfl

/-- The default of a field does not depend on its name and documentation. -/
theorem Carries.rename {p : DefaultPart} (h : Carries f p) (name : Text)
    (documentation : Value) : Carries { f with name, documentation } p := by
  cases h with
  | literal hgiven hs => exact .literal hgiven hs
  | dropped hgiven hnull hplain => exact .dropped hgiven hnull hplain
  | list hnone hlist => exact .list hnone hlist
  | optional hnone hlist hrequired => exact .optional hnone hlist hrequired
  | required hnone hlist hrequired => exact .required hnone hlist hrequired

/-- The line of a field has its type and default, and notes its name and documentation. -/
theorem renderField_of_parts {type : Text} {part : DefaultPart}
    (htype : typeExpression known f = .ok type) (hpart : shownDefault f = .ok part)
    (hdoc : f.documentation.IsOptionalText) :
    (renderField known f).line
      = .ok { name := fieldName known f.name, type, default := part
              documentName := if fieldName known f.name = f.name then none else some f.name
              documentation := shownText f.documentation } := by
  obtain ⟨doc, hdoc⟩ := documentationText_ok hdoc
  obtain rfl := documentationText_eq_ok hdoc
  unfold typeExpression at htype
  unfold shownDefault at hpart
  unfold renderField
  cases hb : baseType known f with
  | error e =>
    rw [hb] at htype
    cases htype
  | ok base =>
    cases hp : defaultPart f with
    | error e =>
      rw [hp] at hpart
      cases hpart
    | ok p =>
      rw [hb] at htype
      rw [hp] at hpart
      cases htype
      cases hpart
      rw [hdoc]

/-- **The default of a field does not depend on the layout of its line.** -/
theorem renderField_default (known : List Text) {f : Field} (htype : ∃ s, f.type = .text s)
    (hshort : ∀ n, f.default = .value (.int n) → (Text.digits n.natAbs).length ≤ Json.digitLimit) :
    ∃ type part, typeExpression known f = .ok type ∧ Carries f part ∧
      ∀ (name : Text) (documentation : Value), documentation.IsOptionalText →
        ∃ l, (renderField known { f with name, documentation }).line = .ok l ∧
          l.text = fieldName known name ++ ": " ++ type ++
            if fieldName known name = name ∧ shownText documentation = none
                ∧ part.isFactory = false then
              part.assigned
            else
              " = Field(" ++ Text.join ", " (part.argument
                ++ (if fieldName known name = name then [] else ["alias=\"" ++ name ++ "\""])
                ++ (shownText documentation).toList.map
                    fun d => "description=\"" ++ escape d ++ "\"") ++ ")" := by
  obtain ⟨s, hs⟩ := htype
  obtain ⟨base, hbase⟩ := baseType_ok known hs
  have htype : typeExpression known f = .ok (wrapType f base.text) := by
    rw [typeExpression, hbase]
    rfl
  obtain ⟨part, hpart⟩ := exists_shownDefault hshort
  have hcarries := carries_of_shownDefault hpart
  refine ⟨_, part, htype, hcarries, ?_⟩
  intro name documentation hdoc
  -- under the other name and documentation the type and the default are still those of the field
  have hpart := shownDefault_of_carries (hcarries.rename name documentation)
  rw [← typeExpression_rename known f name documentation] at htype
  refine ⟨_, renderField_of_parts htype hpart hdoc, ?_⟩
  rw [FieldLine.text, valueText_eq]
  unfold FieldLine.notes
  dsimp only
  rw [← Option.toList_map]
  by_cases hname : fieldName known name = name
  · simp only [hname, if_true, true_and, Option.map_none, Option.toList_none, List.nil_append,
      List.append_nil]
  · simp only [hname, if_false, false_and, reduceCtorEq, Option.map_some, Option.toList_some,
      List.append_assoc]

/-- A number that is zero by default. -/
def zeroField : Field :=
  { requiredField "count" .scalar "BigInt" with hasDefault := true, default := .value (.int 0) }

/-- Zero is a default as any other number, bare and in a field call. -/
theorem zeroField_layouts :
    Carries zeroField (.literal "0") ∧
      (∃ l, (renderField [] zeroField).line = .ok l ∧ l.text = "count: int = 0") ∧
      ∃ l, (renderField [] { zeroField with
            name := "rowCount", documentation := .text "rows" }).line = .ok l ∧
        l.text = "row_count: int = Field(default=0, alias=\"rowCount\", description=\"rows\")" := by
  have hzero : Carries zeroField (.literal "0") := by
    have hliteral : Text.ofList (Text.integer 0) = "0" := by decide +kernel
    have hcarries : Carries zeroField (.literal (Text.ofList (Text.integer 0))) :=
      .literal ⟨rfl, rfl⟩ (.integer 0 (by decide +kernel))
    rwa [hliteral] at hcarries
  have hshort : ∀ n, zeroField.default = .value (.int n) →
      (Text.digits n.natAbs).length ≤ Json.digitLimit := by
    intro n hn
    cases hn
    decide +kernel
  have hint : typeExpression [] zeroField = .ok "int" := by rfl
  obtain ⟨type, part, htype, hcarries, hlines⟩ := renderField_default [] ⟨_, rfl⟩ hshort
  obtain rfl := hcarries.unique hzero
  rw [hint] at htype
  cases htype
  obtain ⟨l, hl, htext⟩ := hlines "count" .null (.inl rfl)
  obtain ⟨k, hk, hktext⟩ := hlines "rowCount" (.text "rows") (.inr ⟨_, rfl⟩)
  refine ⟨hzero, ⟨l, hl, ?_⟩, k, hk, ?_⟩
  · rw [htext]
    decide +kernel
  · rw [hktext]
    decide +kernel

end Source

end ModelBindings
