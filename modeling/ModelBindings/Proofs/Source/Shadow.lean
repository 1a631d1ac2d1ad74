import ModelBindings.Proofs.Source.Binding
import ModelBindings.Proofs.Source.Declared

/-!
# Names that a class body refers to

The annotations and values in the class body of a model refer to names: the types of its fields, the
list type, and what its settings and field calls call. A field that declares such a name hides it
from the body, and a name that two import lines bind is what the second of them binds. The renaming
of fields keeps clear of fixed names and of the known enums; which names a body refers to depends on
all its fields together.

* `Field.baseName` : the name that the type of a field is made from; `bodyNames` : the names that a
  class body refers to.
* `KeepsClear` : fields that hide none of them. `keepsClear_of_capitals` : enums and models with a
  capital in their names are kept clear of.
* `bodyNames_unshadowed_iff` : when no name is hidden, and when none is bound twice.
-/

set_option autoImplicit false

namespace ModelBindings

/-- The name that the type of a field is made from: that of a scalar, or of an enum or model. -/
def Field.baseName (f : Field) : Text :=
  match f.kind with
  | .scalar =>
    Source.ScalarType.targetOf (Source.ScalarType.all.find? fun s => f.type.isText s.name)
  | .enum => f.type.display
  | .object => f.type.display
  | .unsupported => "Any"

theorem Field.baseName_of_scalar {f : Field} (h : f.kind = .scalar) : f.baseName
    = Source.ScalarType.targetOf (Source.ScalarType.all.find? fun s => f.type.isText s.name) := by
  rw [baseName, h]

theorem Field.baseName_of_namesType {f : Field} (h : f.namesType) :
    f.baseName = f.type.display := by
  unfold baseName
  rcases h with h | h <;> rw [h]

theorem Field.baseName_of_unsupported {f : Field} (h : f.kind = .unsupported) :
    f.baseName = "Any" := by
  rw [baseName, h]

namespace Source

open Text (IsLine closed)

variable {known : List Text} {f : Field}

/-! ## What a class body refers to -/

/-- The type of a field is made from its base name. -/
theorem text_baseType {s : Text} (ht : f.type = .text s) {base : BaseType}
    (h : baseType known f = .ok base) : base.text = f.baseName := by
  cases hk : f.kind with
  | scalar =>
    rw [baseType_scalar hk ht] at h
    cases h
    exact (Field.baseName_of_scalar hk).symm
  | enum =>
    rw [baseType_enum hk ht] at h
    cases h
    exact (Field.baseName_of_namesType (.inl hk)).symm
  | object =>
    rw [baseType_object hk] at h
    cases h
    exact (Field.baseName_of_namesType (.inr hk)).symm
  | unsupported =>
    rw [baseType_unsupported hk] at h
    cases h
    exact (Field.baseName_of_unsupported hk).symm

/-- The annotation of a field's line. -/
theorem type_renderField {s : Text} (ht : f.type = .text s) {l : FieldLine}
    (h : (renderField known f).line = .ok l) : l.type = wrapType f f.baseName := by
  obtain ⟨base, p, hb, -, rfl, -⟩ := renderField_made h
  exact congrArg (wrapType f) (text_baseType ht hb)

/-- The names that a class body refers to: what its settings call, the types of its fields, the
list type if a field is a list, and the field call if a field has one. -/
def bodyNames (fs : List Field) (call : Bool) : List Text :=
  ("ConfigDict" : Text) :: fs.map Field.baseName
    ++ (if fs.any (·.isList) then [("list" : Text)] else [])
    ++ (if call then [("Field" : Text)] else [])

theorem mem_bodyNames {fs : List Field} {call : Bool} {n : Text} :
    n ∈ bodyNames fs call ↔ n = "ConfigDict" ∨ (∃ g ∈ fs, g.baseName = n) ∨
      (n = "list" ∧ ∃ g ∈ fs, g.isList = true) ∨ (n = "Field" ∧ call = true) := by
  have hlist : n ∈ (if fs.any (·.isList) then [("list" : Text)] else [])
      ↔ n = "list" ∧ ∃ g ∈ fs, g.isList = true := by
    rw [← List.any_eq_true]
    split <;> simp_all
  have hcall : n ∈ (if call then [("Field" : Text)] else []) ↔ n = "Field" ∧ call = true := by
    split <;> simp_all
  rw [bodyNames, List.mem_append, List.mem_append, List.mem_cons, List.mem_map, hlist, hcall]
  simp only [or_assoc]

/-! ## Fields that hide nothing -/

/-- No field hides a name that the class body refers to. -/
structure KeepsClear (known : List Text) (fs : List Field) : Prop where
  /-- In snake case, a field is a type of the body only if it gets an underscore. -/
  type : ∀ f ∈ fs, ∀ g ∈ fs, snakeCase f.name = g.baseName → isTaken known (snakeCase f.name) = true
  /-- With a list in the body, a field is the list type only if that is an enum, too. -/
  list : ∀ f ∈ fs, ∀ g ∈ fs, g.isList = true → snakeCase f.name = "list" → ("list" : Text) ∈ known
  /-- A field that gets an underscore does not become an enum or a model of the body. -/
  marked : ∀ f ∈ fs, isTaken known (snakeCase f.name) = true →
    ∀ g ∈ fs, g.namesType → g.baseName ≠ snakeCase f.name ++ "_"

theorem targetOf_ne_append_underscore (o : Option ScalarType) (s : Text) :
    ScalarType.targetOf o ≠ s ++ "_" := by
  refine (append_underscore_ne ?_ s).symm
  cases o with
  | none => decide
  | some t => cases t <;> decide

/-- A type with an underscore at its end is that of an enum or a model. -/
theorem namesType_of_baseName {g : Field} {s : Text} (h : g.baseName = s ++ "_") :
    g.namesType := by
  cases hk : g.kind with
  | scalar =>
    rw [Field.baseName_of_scalar hk] at h
    exact absurd h (targetOf_ne_append_underscore _ s)
  | enum => exact .inl hk
  | object => exact .inr hk
  | unsupported =>
    rw [Field.baseName_of_unsupported hk] at h
    exact absurd h.symm (append_underscore_ne (by decide) s)

theorem isTaken_of_mem_reservedNames {n : Text} (h : n ∈ reservedNames) :
    isTaken known n = true := by
  simp [isTaken, h]

theorem isTaken_list : isTaken known "list" = true ↔ ("list" : Text) ∈ known := by
  have hfree : (isKeyword "list" || reservedNames.contains "list") = false := by
    decide +kernel
  rw [isTaken, hfree, Bool.false_or, List.contains_iff_mem]

/-- **The fields hide no name of the class body exactly if they keep clear.** -/
theorem fieldNames_clear_iff (known : List Text) (fs : List Field) (call : Bool) :
    (∀ f ∈ fs, fieldName known f.name ∉ bodyNames fs call) ↔ KeepsClear known fs := by
  constructor
  · intro h
    refine ⟨fun f hf g hg hs => ?_, fun f hf g hg hlist hs => ?_, fun f hf htaken g hg _ hs => ?_⟩
    · rw [← Bool.not_eq_false]
      intro hfree
      refine h f hf (mem_bodyNames.mpr (.inr (.inl ⟨g, hg, ?_⟩)))
      rw [fieldName_eq, keepApart, hfree, if_neg Bool.false_ne_true, hs]
    · rw [← isTaken_list, ← hs, ← Bool.not_eq_false]
      intro hfree
      refine h f hf (mem_bodyNames.mpr (.inr (.inr (.inl ⟨?_, g, hg, hlist⟩))))
      rw [fieldName_eq, keepApart, hfree, if_neg Bool.false_ne_true, hs]
    · refine h f hf (mem_bodyNames.mpr (.inr (.inl ⟨g, hg, ?_⟩)))
      rw [fieldName_eq, keepApart, if_pos htaken, hs]
  · intro h f hf hm
    rw [fieldName_eq, keepApart, mem_bodyNames] at hm
    cases htaken : isTaken known (snakeCase f.name) with
    | true =>
      rw [if_pos htaken] at hm
      rcases hm with hm | ⟨g, hg, hm⟩ | ⟨hm, -⟩ | ⟨hm, -⟩
      · exact append_underscore_ne (by decide) _ hm
      · exact h.marked f hf htaken g hg (namesType_of_baseName hm) hm
      · exact append_underscore_ne (by decide) _ hm
      · exact append_underscore_ne (by decide) _ hm
    | false =>
      rw [htaken, if_neg Bool.false_ne_true] at hm
      rw [← Bool.not_eq_true] at htaken
      rcases hm with hm | ⟨g, hg, hm⟩ | ⟨hm, g, hg, hlist⟩ | ⟨hm, -⟩
      · exact htaken (isTaken_of_mem_reservedNames (by rw [hm]; decide))
      · exact htaken (h.type f hf g hg hm.symm)
      · exact htaken (hm ▸ isTaken_list.mpr (h.list f hf g hg hlist hm))
      · exact htaken (isTaken_of_mem_reservedNames (by rw [hm]; decide))

/-- The types that stand for scalars without an import, and the list type. -/
def builtinTypes : List Text :=
  ["str", "bool", "int", "float", "bytes", "list"]

theorem targetOf_mem (o : Option ScalarType) :
    ScalarType.targetOf o ∈ builtinTypes ∨ ScalarType.targetOf o ∈ reservedNames := by
  cases o with
  | none => exact .inr (by decide)
  | some t => cases t <;> decide

/-- A text with a capital of ASCII is not in snake case, nor with an underscore behind it. -/
theorem ne_snakeCase_of_capital {name t : Text} (ht : t.toList.any CodePoint.isUpper = true) :
    t ≠ snakeCase name ∧ t ≠ snakeCase name ++ "_" := by
  obtain ⟨c, hc, hupper⟩ := List.any_eq_true.mp ht
  have hsnake : c ∉ (snakeCase name).toList := by
    intro hm
    rw [snakeCase, Text.toList_ofList] at hm
    rw [isUpper_snakeChars _ c hm] at hupper
    cases hupper
  constructor
  · rintro rfl
    exact hsnake hc
  · rintro rfl
    rw [Text.toList_append, show ("_" : Text).toList = [.char '_'] from rfl] at hc
    rcases List.mem_append.mp hc with hc | hc
    · exact hsnake hc
    · rw [List.mem_singleton.mp hc] at hupper
      cases hupper

/-- **Enums and models with a capital in their names are kept clear of**, if no field is named like
a builtin type. -/
theorem keepsClear_of_capitals (known : List Text) {fs : List Field}
    (htypes : ∀ g ∈ fs, g.namesType → g.type.display.toList.any CodePoint.isUpper = true)
    (hbuiltin : ∀ f ∈ fs, snakeCase f.name ∉ builtinTypes) : KeepsClear known fs where
  type f hf g hg hs := by
    have hcapital (hn : g.namesType) : isTaken known (snakeCase f.name) = true := by
      rw [Field.baseName_of_namesType hn] at hs
      exact absurd hs.symm (ne_snakeCase_of_capital (htypes g hg hn)).1
    cases hk : g.kind with
    | scalar =>
      rw [Field.baseName_of_scalar hk] at hs
      rcases targetOf_mem (ScalarType.all.find? fun s => g.type.isText s.name) with hm | hm
      · exact absurd (hs ▸ hm) (hbuiltin f hf)
      · exact isTaken_of_mem_reservedNames (hs ▸ hm)
    | enum => exact hcapital (.inl hk)
    | object => exact hcapital (.inr hk)
    | unsupported =>
      rw [Field.baseName_of_unsupported hk] at hs
      exact isTaken_of_mem_reservedNames (by rw [hs]; decide)
  list f hf g hg hlist hs := absurd (by rw [hs]; decide) (hbuiltin f hf)
  marked f hf htaken g hg hn hs := by
    rw [Field.baseName_of_namesType hn] at hs
    exact (ne_snakeCase_of_capital (htypes g hg hn)).2 hs

/-! ## The module of a model -/

/-- A class body refers to the enums that are used. -/
theorem usedEnums_subset_bodyNames {fs : List Field} (call : Bool) {e : Text}
    (h : e ∈ usedEnums known fs) : e ∈ bodyNames fs call := by
  obtain ⟨f, hf, hn, ht⟩ := exists_of_mem_usedEnums h
  refine mem_bodyNames.mpr (.inr (.inl ⟨f, hf, ?_⟩))
  rw [Field.baseName_of_namesType hn, ht]
  rfl

/-- **The import lines bind no name of the class body twice exactly if no used enum has a name that
comes from outside of the package.** -/
theorem countP_binds_moduleImports_iff {fs : List Field} (hfs : ∀ f ∈ fs, f.IsNamed)
    (enumsModule : Text) (call : Bool) :
    (∀ n ∈ bodyNames fs call, (moduleImports known enumsModule fs call).countP (binds n) ≤ 1) ↔
      ∀ e ∈ usedEnums known fs, e ∉ moduleOuterNames fs call := by
  have houter := nodup_outerNames (fs.any (·.isScalar "DateTime")) (fs.any (·.isScalar "Decimal"))
    (fs.any (·.holdsAny)) call
  have hused : (usedEnums known fs).Nodup := nodup_eraseDups _
  have hcount : ∀ n, (moduleImports known enumsModule fs call).countP (binds n)
      = (moduleOuterNames fs call).count n + (usedEnums known fs).count n := fun n => by
    rw [countP_binds (nodup_importedNames hfs enumsModule call), boundNames_moduleImports hfs,
      List.count_append]
  simp only [hcount]
  constructor
  · intro h e he hm
    have hle := h e (usedEnums_subset_bodyNames call he)
    have h1 := List.one_le_count_iff.mpr hm
    have h2 := List.one_le_count_iff.mpr he
    omega
  · intro h n _
    have h1 := List.nodup_iff_count_le_one.mp houter n
    have h2 := List.nodup_iff_count_le_one.mp hused n
    by_cases he : n ∈ usedEnums known fs
    · have h0 := List.count_eq_zero.mpr (h n he)
      omega
    · have h0 := List.count_eq_zero.mpr he
      exact h0 ▸ h1

/-- **When the names that a class body refers to are found**: no field hides one of them exactly if
the fields keep clear, and no two import lines bind one exactly if no used enum has a name that
comes from outside of the package. -/
theorem bodyNames_unshadowed_iff (known : List Text) (enumsModule : Value) {m : Model}
    (hname : IsName m.name) (hfields : ∀ f ∈ m.fields, f.IsNamed) {text : Text}
    (h : (modelFile known enumsModule m).result = .ok text) :
    ∃ (ls : List FieldLine) (call : Bool) (lines : List Text),
      List.Forall₂ (fun f l => (renderField known f).line = .ok l ∧ l.type = wrapType f f.baseName)
        m.fields ls ∧
      call = ls.any (·.hasCall) ∧
      lines = moduleImports known enumsModule.display m.fields call
        ++ modelRest m (ls.map (·.text)) ∧
      text = closed lines ∧
      ((∀ l ∈ ls, declaredName (bodyIndent ++ l.text) ∉ bodyNames m.fields call) ↔
        KeepsClear known m.fields) ∧
      ((∀ n ∈ bodyNames m.fields call, lines.countP (binds n) ≤ 1) ↔
        ∀ e ∈ usedEnums known m.fields, e ∉ moduleOuterNames m.fields call) := by
  have htypes : ∀ f ∈ m.fields, ∃ s, f.type = .text s := by
    intro f hf
    obtain ⟨s, ht, -⟩ := (hfields f hf).type
    exact ⟨s, ht⟩
  obtain ⟨ls, hls, htext⟩ := modelFile_lines htypes h
  refine ⟨ls, ls.any (·.hasCall), _, ?_, rfl, rfl, htext, ?_, ?_⟩
  · refine forall₂_of_lines hls fun f hf l hl => ⟨hl, ?_⟩
    obtain ⟨s, ht⟩ := htypes f hf
    exact type_renderField ht hl
  · have hnames := map_declaredName_fields (fun f hf => (hfields f hf).name) hls
    rw [← fieldNames_clear_iff known m.fields (ls.any (·.hasCall))]
    rw [← List.forall_mem_map (f := fun f : Field => fieldName known f.name)
      (P := fun n => n ∉ bodyNames m.fields (ls.any (·.hasCall))), ← hnames, List.forall_mem_map]
  · rw [← countP_binds_moduleImports_iff hfields enumsModule.display]
    have hlines : ∀ l ∈ ls.map (·.text), IsLine l := by
      intro text htext
      obtain ⟨l, hl, rfl⟩ := List.mem_map.mp htext
      have hok : (.ok l : Except Fault FieldLine) ∈ ls.map .ok := List.mem_map_of_mem hl
      rw [← hls] at hok
      obtain ⟨f, hf, hfl⟩ := List.mem_map.mp hok
      exact isLine_renderField (hfields f hf) hfl
    simp only [List.countP_append, countP_binds_modelRest hname hlines, Nat.add_zero]

/-- A model with a date, an enum and a relation. -/
def visit : Model :=
  { name := "Visit"
    fields := [requiredField "datetime" .scalar "DateTime", requiredField "status" .enum "Status",
      requiredField "host" .object "User"]
    documentation := .null, storageName := .null }

theorem visit_unshadowed :
    ∃ (ls : List FieldLine) (call : Bool) (lines : List Text),
      List.Forall₂ (fun f l => (renderField ["Status"] f).line = .ok l) visit.fields ls ∧
      lines = moduleImports ["Status"] "enums" visit.fields call
        ++ modelRest visit (ls.map (·.text)) ∧
      (modelFile ["Status"] (.text "enums") visit).result = .ok (closed lines) ∧
      (∀ l ∈ ls, declaredName (bodyIndent ++ l.text) ∉ bodyNames visit.fields call) ∧
      ∀ n ∈ bodyNames visit.fields call, lines.countP (binds n) ≤ 1 := by
  have hname : IsName visit.name := by
    unfold IsName
    decide +kernel
  have hfields : ∀ f ∈ visit.fields, f.IsNamed := by
    have hword : ∀ s ∈ ["datetime", "DateTime", "status", "Status", "host", "User"], IsName s := by
      unfold IsName
      decide +kernel
    simp only [visit, List.forall_mem_cons]
    exact ⟨⟨hword _ (by decide), _, rfl, fun _ => hword _ (by decide)⟩,
      ⟨hword _ (by decide), _, rfl, fun _ => hword _ (by decide)⟩,
      ⟨hword _ (by decide), _, rfl, fun _ => hword _ (by decide)⟩, List.forall_mem_nil _⟩
  have hsome : (modelFile ["Status"] (.text "enums") visit).result.toOption.isSome = true := by
    decide +kernel
  obtain ⟨text, htext⟩ := Option.isSome_iff_exists.mp hsome
  rw [toOption_eq_some] at htext
  obtain ⟨ls, call, lines, hlines, -, hparts, rfl, hclear, honce⟩ :=
    bodyNames_unshadowed_iff ["Status"] (.text "enums") hname hfields htext
  have hcapitals : ∀ g ∈ visit.fields, g.namesType →
      g.type.display.toList.any CodePoint.isUpper = true := by
    simp only [visit, List.forall_mem_cons]
    exact ⟨fun _ => rfl, fun _ => rfl, fun _ => rfl, List.forall_mem_nil _⟩
  have hbuiltin : ∀ f ∈ visit.fields, snakeCase f.name ∉ builtinTypes := by decide +kernel
  have houter : ∀ call, ∀ e ∈ usedEnums ["Status"] visit.fields,
      e ∉ moduleOuterNames visit.fields call := by decide +kernel
  exact ⟨ls, call, lines, hlines.imp fun _ _ => And.left, hparts, htext,
    hclear.mpr (keepsClear_of_capitals _ hcapitals hbuiltin), honce.mpr (houter call)⟩

/-- A model with a field named like the list type, a list, and further fields. -/
def post (further : List Field) : Model :=
  { name := "Post"
    fields := { requiredField "list" .scalar "String" with isRequired := false }
      :: { requiredField "tags" .scalar "String" with isList := true } :: further
    documentation := .null, storageName := .null }

/-- A field may hide the list type, and an enum may be imported over a name of the model library. -/
theorem post_shadowed :
    IsName "Post" ∧ (∀ s ∈ ["list", "String", "tags", "kind", "Field"], IsName s) ∧
    (modelFile [] (.text "enums") (post [])).result
      = .ok (closed ([("from __future__ import annotations" : Text), "",
          "from pydantic import BaseModel, ConfigDict, Field", "", "", "class Post(BaseModel):",
          "    list: str | None = None", "    tags: list[str] = Field(default_factory=list)"]
          ++ settingsLines)) ∧
    declaredName "    list: str | None = None" = "list" ∧
      ("list" : Text) ∈ bodyNames (post []).fields true ∧
    (modelFile ["Field"] (.text "enums") (post [requiredField "kind" .enum "Field"])).result
      = .ok (closed ([("from __future__ import annotations" : Text), "",
          "from pydantic import BaseModel, ConfigDict, Field", "from .enums import Field", "", "",
          "class Post(BaseModel):", "    list: str | None = None",
          "    tags: list[str] = Field(default_factory=list)", "    kind: Field"]
          ++ settingsLines)) ∧
    [("from pydantic import BaseModel, ConfigDict, Field" : Text),
      "from .enums import Field"].countP
      (binds "Field") = 2 := by
  unfold IsName
  exact ⟨by decide +kernel, by decide +kernel, toOption_eq_some.mp (by decide +kernel),
    by decide +kernel, by decide +kernel, toOption_eq_some.mp (by decide +kernel),
    by decide +kernel⟩

end Source

end ModelBindings
